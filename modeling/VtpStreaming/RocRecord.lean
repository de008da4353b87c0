import VtpStreaming.RocEvents

/-!
# The record of a user event

What `vtpRocEvioWriteUserEvent` pushes, for every sequence of values that the
status register shows. Both ways of writing push the same words. They are a
well-formed record unless `buf[0] + 1` wraps to 0, which the length check lets
through.
-/

namespace VtpStreaming

open Clib

/-- The device as a recorder: `status` lists the values of the status register
from now on. -/
structure Recorder where
  status : Nat → Word
  rocid : Word
  lens : List Word
  data : List Word

def recorderBus : Bus RocReg RocPort Recorder where
  read d
    | .cpuAsyncEventStatus => (d.status 0, { d with status := fun i => d.status (i + 1) })
    | .rocID => (d.rocid, d)
  write d
    | .cpuAsyncEventLen, x => { d with lens := d.lens ++ [x] }
    | .cpuAsyncEventData, x => { d with data := d.data ++ [x] }
    | _, _ => d

abbrev recorderStep : Recorder × RocProg → Recorder × RocProg :=
  BusProg.cpuStep recorderBus flowBody

/-- A well-formed record of the user's bank: the header words and the bank, as
many words as announced, with consistent lengths inside. -/
structure WellFormedRecord (buf : Nat → Word) (d : Recorder) : Prop where
  words : d.data = userHeader buf d.rocid ++ bufWords buf 0 ((buf 0).toNat + 1)
  announced : ∃ len, d.lens = [len] ∧ len.toNat = d.data.length
  bytes : ∃ w1 w2, d.data[1]? = some w1 ∧ d.data[2]? = some w2 ∧ w1.toNat = 4 * w2.toNat
  length : ∃ w2, d.data[2]? = some w2 ∧ w2.toNat + 2 = d.data.length

/-! ## The words pushed -/

/-- What has been recorded when the first `jj` words of the bank are out. -/
structure Recorded (buf : Nat → Word) (rocid : Word) (jj : Nat) (d : Recorder) : Prop where
  lens : d.lens = [totalLen buf + 2#32]
  data : d.data = userHeader buf rocid ++ (blen buf - 1#32) :: bufWords buf 1 (jj - 1)
  rocid : d.rocid = rocid

/-- Nothing has been recorded. -/
structure Blank (rocid : Word) (d : Recorder) : Prop where
  lens : d.lens = []
  data : d.data = []
  rocid : d.rocid = rocid

section

variable (buf : Nat → Word) (rocid : Word)

/-- The invariant of each look at the status: `jj` words are out, `rem` remain. -/
def RecordInv : FlowPoint → Recorder → Prop
  | .entryPoll buf', d => buf' = buf ∧ 2 ≤ (blen buf).toNat ∧ Blank rocid d
  | .checkFull buf' jj rem, d | .takeAvail buf' jj rem, d =>
      buf' = buf ∧ 1 ≤ jj ∧ jj + rem.toNat = (blen buf).toNat ∧ Recorded buf rocid jj d

/-- A call that returns `OK` has pushed the whole bank. -/
def RecordPost (code : Int) (d : Recorder) : Prop :=
  code = ok → Recorded buf rocid (blen buf).toNat d

abbrev Records (p : RocProg) (d : Recorder) : Prop :=
  Wp recorderBus Eq (fun _ _ _ => True) (RecordInv buf rocid) (RecordPost buf rocid) p d

variable {buf rocid} {d : Recorder}

theorem records_error : Records buf rocid (.ret error) d :=
  fun _ _ hcode => absurd hcode (by decide)

theorem records_ok (h : Recorded buf rocid (blen buf).toNat d) :
    Records buf rocid (.ret ok) d := by
  rintro d' rfl _
  exact h

theorem records_loop {l : FlowPoint} (h : RecordInv buf rocid l d) :
    Records buf rocid (.loop l) d := by
  rintro d' rfl
  exact h

theorem records_write {w : RocPort} {x : Word} {k : RocProg}
    (next : Records buf rocid k (recorderBus.write d w x)) :
    Records buf rocid (.write w x k) d := by
  rintro d' rfl
  exact ⟨trivial, next⟩

theorem records_read {r : RocReg} {k : Word → RocProg}
    (next : Records buf rocid (k (recorderBus.read d r).1) (recorderBus.read d r).2) :
    Records buf rocid (.read r k) d := by
  rintro d' rfl
  exact next

theorem records_pushes {xs : List Word} {k : RocProg}
    (next : Records buf rocid k { d with data := d.data ++ xs }) :
    Records buf rocid (.writeAll .cpuAsyncEventData xs k) d := by
  apply Wp.writeAll fun left a => ∃ done, done ++ left = xs ∧ a = { d with data := d.data ++ done }
  · rintro left a b h rfl
    exact h
  · rintro x left a ⟨done, hdone, rfl⟩
    refine ⟨trivial, done ++ [x], by simpa using hdone, ?_⟩
    simp [recorderBus]
  · rintro a ⟨done, hdone, rfl⟩
    rw [List.append_nil] at hdone
    rw [hdone]
    exact next
  · exact ⟨[], rfl, by simp⟩

/-- The burst pushes the next words of the bank. -/
theorem Recorded.burst {jj n : Nat} (h : Recorded buf rocid jj d) (hjj : 1 ≤ jj) :
    Recorded buf rocid (jj + n) { d with data := d.data ++ bufWords buf jj n } := by
  refine ⟨h.lens, ?_, h.rocid⟩
  have hjoin : bufWords buf 1 (jj - 1) ++ bufWords buf jj n = bufWords buf 1 (jj + n - 1) := by
    have happend := bufWords_append buf 1 (jj - 1) n
    rwa [show 1 + (jj - 1) = jj by omega, show jj - 1 + n = jj + n - 1 by omega] at happend
  rw [h.data, List.append_assoc, List.cons_append, hjoin]

/-- A burst of some of the remaining words keeps the invariant of the round. -/
theorem records_burst {jj : Nat} {rem avail : Word} (hjj : 1 ≤ jj) (havail : avail ≤ rem)
    (hrem : jj + rem.toNat = (blen buf).toNat) (h : Recorded buf rocid jj d) :
    Records buf rocid (burst buf jj rem avail) d := by
  have hle : avail.toNat ≤ rem.toNat := havail
  have hleft : (rem - avail).toNat = rem.toNat - avail.toNat := BitVec.toNat_sub_of_le havail
  apply records_pushes
  have hburst := h.burst hjj (n := avail.toNat)
  split
  · exact records_loop ⟨rfl, by omega, by omega, hburst⟩
  · refine records_write (records_ok ?_)
    rw [show (blen buf).toNat = jj + avail.toNat by omega]
    exact ⟨hburst.lens, hburst.data, hburst.rocid⟩

/-- One round after each look at the status. -/
theorem records_body (hok : userEventOk buf) (l : FlowPoint) (d : Recorder)
    (inv : RecordInv buf rocid l d) : Records buf rocid (flowBody l) d := by
  cases l with
  | entryPoll buf' =>
    obtain ⟨rfl, hlen, blank⟩ := inv
    apply records_read
    split
    · exact records_write records_error
    · refine records_read (records_write (records_pushes (records_pushes (records_loop ?_))))
      have hrem := remaining_toNat hok (by omega)
      refine ⟨rfl, Nat.le_refl 1, by omega, ?_, ?_, blank.rocid⟩
      · simp [recorderBus, blank.lens]
      · simp [recorderBus, blank.data, blank.rocid, bufWords]
  | checkFull buf' jj rem =>
    obtain ⟨rfl, hjj, hrem, recorded⟩ := inv
    apply records_read
    split
    · exact records_write records_error
    · apply records_loop
      exact ⟨rfl, hjj, hrem, recorded.lens, recorded.data, recorded.rocid⟩
  | takeAvail buf' jj rem =>
    obtain ⟨rfl, hjj, hrem, recorded⟩ := inv
    rw [flowBody]
    refine records_read ?_
    have hle := BitVec.le_def.mpr (burstLen_le (d.status 0) rem)
    dsimp only [recorderBus]
    generalize burstLen (d.status 0) rem = avail at hle ⊢
    exact records_burst hjj hle hrem ⟨recorded.lens, recorded.data, recorded.rocid⟩

/-- The call pushes the whole bank, on either path. -/
theorem records_user (lib : VtpLib) (hok : userEventOk buf) (blank : Blank rocid d) :
    Records buf rocid (vtpRocEvioWriteUserEvent lib buf) d := by
  rw [vtpRocEvioWriteUserEvent]
  split
  · exact records_error
  rw [if_neg (by simp [hok])]
  apply records_write
  split
  · next hlong =>
    rw [totalLen_add_two hok] at hlong
    have hbig : 512 < (blen buf).toNat + 10 := hlong
    exact records_loop ⟨rfl, by omega, blank.lens, blank.data, blank.rocid⟩
  · refine records_read (records_write (records_pushes (records_pushes (records_write
      (records_ok ⟨?_, ?_, blank.rocid⟩)))))
    · simp [recorderBus, blank.lens]
    · simp [recorderBus, blank.data, blank.rocid]

end

/-! ## The result -/

/-- The pushed words are a well-formed record exactly when `buf[0] + 1` does
not wrap. -/
theorem recorded_wellFormed_iff {buf : Nat → Word} {d : Recorder} (hok : userEventOk buf)
    (h : Recorded buf d.rocid (blen buf).toNat d) :
    WellFormedRecord buf d ↔ buf 0 ≠ 0xffffffff#32 := by
  have htotal := totalLen_add_two hok
  have hlength : d.data.length = 11 + ((blen buf).toNat - 1) := by
    rw [h.data, List.length_append, List.length_cons, userHeader_length, bufWords_length]
    omega
  constructor
  · intro wf hmax
    obtain ⟨len, hlens, hlen⟩ := wf.announced
    rw [h.lens, List.cons.injEq] at hlens
    rw [← hlens.1, htotal, hlength, blen_toNat, if_pos hmax] at hlen
    exact absurd hlen (by decide)
  · intro hne
    have hblen : (blen buf).toNat = (buf 0).toNat + 1 := by rw [blen_toNat, if_neg hne]
    have hbytes : d.data[1]? = some (totalLen buf <<< 2) := by rw [h.data]; rfl
    have htwo : d.data[2]? = some (totalLen buf) := by rw [h.data]; rfl
    have hle := blen_le hok
    refine ⟨?_, ⟨_, h.lens, by omega⟩, ⟨_, _, hbytes, htwo, ?_⟩, ⟨_, htwo, ?_⟩⟩
    · have hfront : bufWords buf 0 ((buf 0).toNat + 1) = buf 0 :: bufWords buf 1 (buf 0).toNat := by
        have happend := bufWords_append buf 0 1 (buf 0).toNat
        rw [Nat.add_comm 1] at happend
        exact happend.symm
      rw [h.data, blen_sub_one, hblen, hfront]
      rfl
    · rw [BitVec.toNat_shiftLeft, totalLen_toNat hok, Nat.shiftLeft_eq, Nat.mod_eq_of_lt]
      all_goals omega
    · rw [totalLen_toNat hok]
      omega

/-- A call that returns `OK` has pushed a well-formed record, in whatever bursts
the status allowed, exactly when `buf[0]` is not the largest word. -/
theorem userEvent_record_iff (lib : VtpLib) (buf : Nat → Word) (hok : userEventOk buf)
    (d : Recorder) (hlens : d.lens = []) (hdata : d.data = []) (n : Nat)
    (hret : (recorderStep^[n] (d, vtpRocEvioWriteUserEvent lib buf)).2 = .ret ok) :
    WellFormedRecord buf (recorderStep^[n] (d, vtpRocEvioWriteUserEvent lib buf)).1 ↔
      buf 0 ≠ 0xffffffff#32 := by
  have hcall : Records buf d.rocid (vtpRocEvioWriteUserEvent lib buf) d :=
    records_user lib hok ⟨hlens, hdata, rfl⟩
  have hpost := hcall.returns (fun _ => rfl) (records_body hok) n hret rfl
  have hrecorded := hpost
  rw [← hpost.rocid] at hrecorded
  exact recorded_wellFormed_iff hok hrecorded

/-- A bank of two words, in an empty FIFO. -/
theorem userEvent_record_iff_pair :
    WellFormedRecord (userBank 1)
      (recorderStep^[16] (⟨fun _ => 0#32, 5#32, [], []⟩,
        vtpRocEvioWriteUserEvent rocLib (userBank 1))).1 :=
  (userEvent_record_iff rocLib (userBank 1) (by decide) ⟨fun _ => 0#32, 5#32, [], []⟩ rfl rfl 16
    rfl).mpr (by decide)

/-- The largest length word passes the checks: the call announces 10 words,
pushes 11 and returns `OK`. -/
theorem userEvent_wrapped_record :
    userEventOk (userBank 0xffffffff) ∧
    (recorderStep^[15] (⟨fun _ => 0#32, 5#32, [], []⟩,
      vtpRocEvioWriteUserEvent rocLib (userBank 0xffffffff))).2 = .ret ok ∧
    ¬ WellFormedRecord (userBank 0xffffffff)
      (recorderStep^[15] (⟨fun _ => 0#32, 5#32, [], []⟩,
        vtpRocEvioWriteUserEvent rocLib (userBank 0xffffffff))).1 := by
  refine ⟨by decide, rfl, fun wf => ?_⟩
  obtain ⟨len, hlens, hlen⟩ := wf.announced
  have hten : [10#32] = [len] := hlens
  have heleven : len.toNat = 11 := hlen
  rw [List.cons.injEq] at hten
  rw [← hten.1] at heleven
  exact absurd heleven (by decide)

end VtpStreaming
