import Mathlib.Tactic.Common
import VtpStreaming.Clib.Bytes

/-!
# Reading an event out of a fifo

`vtp/vtpLib.c`, `vtpTiLinkReadEvent`, `vtpEbReadEvent` and `vtpEbReadAndDecodeEvent`.
Both readers are one loop with its own status bits and its own number of retries.
The last word of an event is stored, but the loop ends before it is counted.
-/

namespace VtpStreaming

open Clib

/-! ## The loop -/

/-- One pass of the loop: the status that is read, and the word that comes out of the
fifo if it is read. -/
structure FifoPass where
  status : Word
  data : Word

/-- What a board shows, pass after pass. -/
abbrev FifoTrace := Nat → FifoPass

/-- The bits of the status, and how often an empty fifo is tried again. -/
structure EventFifo where
  emptyMask : Word
  endMask : Word
  retries : Nat

/-- How a call ends: its return value, the words in the buffer, the passes it took and
by how much its counter of errors grew. -/
structure EventRead where
  rval : Word
  pBuf : List Word
  passes : Nat
  errors : Nat

namespace EventFifo

def isEmpty (f : EventFifo) (pass : FifoPass) : Bool := pass.status &&& f.emptyMask ≠ 0#32

def isEnd (f : EventFifo) (pass : FifoPass) : Bool := pass.status &&& f.endMask ≠ 0#32

/-- The loop. `cnt` is an `int`, but it is compared with `maxsize` as an unsigned word. -/
def readLoop (f : EventFifo) (trace : FifoTrace) (maxsize cnt : Word) (retry : Nat)
    (pBuf : List Word) (pass : Nat) : EventRead :=
  if cnt < maxsize then
    if f.isEmpty (trace pass) then
      if 0 < retry then f.readLoop trace maxsize cnt (retry - 1) pBuf (pass + 1)
      else ⟨cnt, pBuf, pass + 1, 1⟩
    else if f.isEnd (trace pass) then ⟨cnt, pBuf ++ [(trace pass).data], pass + 1, 0⟩
    else if maxsize < cnt + 1#32 then
      -- too many event words
      ⟨cnt + 1#32, pBuf ++ [(trace pass).data], pass + 1, 0⟩
    else f.readLoop trace maxsize (cnt + 1#32) retry (pBuf ++ [(trace pass).data]) (pass + 1)
  else ⟨cnt, pBuf, pass, 0⟩
termination_by (maxsize.toNat - cnt.toNat) + retry
decreasing_by
  · omega
  · have hlt : cnt.toNat < maxsize.toNat := ‹cnt < maxsize›
    rw [BitVec.toNat_add, BitVec.toNat_ofNat, Nat.mod_eq_of_lt (by omega)]
    omega

/-- The call, on a board that is open or with `vtp` still `NULL`. -/
def readEvent (f : EventFifo) (vtp : Option FifoTrace) (maxsize : Word) : EventRead :=
  match vtp with
  | none => ⟨0xffffffff#32, [], 0, 0⟩
  | some trace => f.readLoop trace maxsize 0#32 f.retries [] 0

end EventFifo

def tiLinkFifo : EventFifo := ⟨0x1#32, 0x10000#32, 100⟩

/-- With `VTP_EB_NRETRIES`. -/
def ebFifo : EventFifo := ⟨0x2#32, 0x20000#32, 10000⟩

def vtpTiLinkReadEvent (vtp : Option FifoTrace) (maxsize : Word) : EventRead :=
  tiLinkFifo.readEvent vtp maxsize

def vtpEbReadEvent (vtp : Option FifoTrace) (maxsize : Word) : EventRead :=
  ebFifo.readEvent vtp maxsize

/-- The words that a caller takes out of the buffer with the count that is returned. -/
def EventRead.counted (r : EventRead) : List Word := r.pBuf.take r.rval.toNat

/-- `vtpEbReadAndDecodeEvent`: its buffer has 1000 words, and those counted are decoded. -/
def vtpEbReadAndDecodeEvent {α : Type} (vtpEbDecodeEvent : List Word → α)
    (vtp : Option FifoTrace) : α :=
  vtpEbDecodeEvent (vtpEbReadEvent vtp 1000#32).counted

/-! ## What is expected -/

namespace EventFifo

variable (f : EventFifo) (trace : FifoTrace)

/-- The words popped in the first passes. -/
def popped : Nat → List Word
  | 0 => []
  | pass + 1 =>
      if f.isEmpty (trace pass) then popped pass else popped pass ++ [(trace pass).data]

/-- How many of the first passes found the fifo empty. -/
def empties : Nat → Nat
  | 0 => 0
  | pass + 1 => if f.isEmpty (trace pass) then empties pass + 1 else empties pass

/-- The pass pops a word that is flagged as the end of the event. -/
def PopsEnd (pass : Nat) : Prop := f.isEmpty (trace pass) = false ∧ f.isEnd (trace pass) = true

/-- Every word that is popped is stored and counted, and the event's end is the end. -/
structure ReadsEvent (maxsize : Word) (r : EventRead) : Prop where
  terminates : r.passes ≤ maxsize.toNat + f.retries + 1
  stored : r.pBuf = f.popped trace r.passes
  bounded : r.pBuf.length ≤ maxsize.toNat
  stops : ∀ pass < r.passes, f.PopsEnd trace pass → pass + 1 = r.passes
  returned : r.rval.toNat = r.pBuf.length
  seen : r.counted = r.pBuf

/-- The end of the event is reached, before the buffer is full and the retries are
spent. -/
structure ReachesEnd (maxsize : Word) (pass : Nat) : Prop where
  ends : f.PopsEnd trace pass
  first : ∀ earlier < pass, ¬ f.PopsEnd trace earlier
  room : (f.popped trace pass).length < maxsize.toNat
  patient : f.empties trace pass ≤ f.retries

/-! ## The three exits -/

/-- What holds at each test of the loop. -/
structure LoopInv (maxsize cnt : Word) (retry : Nat) (pBuf : List Word) (pass : Nat) : Prop where
  stored : pBuf = f.popped trace pass
  counted : cnt.toNat = pBuf.length
  bounded : cnt.toNat ≤ maxsize.toNat
  going : ∀ earlier < pass, ¬ f.PopsEnd trace earlier
  budget : retry + f.empties trace pass = f.retries

/-- How the loop ends. -/
inductive Exit (maxsize : Word) : EventRead → Prop
  | full {cnt : Word} {pass : Nat} :
      (f.popped trace pass).length = maxsize.toNat → cnt.toNat = maxsize.toNat →
      (∀ earlier < pass, ¬ f.PopsEnd trace earlier) → f.empties trace pass ≤ f.retries →
      Exit maxsize ⟨cnt, f.popped trace pass, pass, 0⟩
  | timeout {cnt : Word} {pass : Nat} :
      f.isEmpty (trace pass) = true → cnt.toNat = (f.popped trace pass).length →
      (f.popped trace pass).length < maxsize.toNat →
      (∀ earlier < pass, ¬ f.PopsEnd trace earlier) → f.empties trace pass = f.retries →
      Exit maxsize ⟨cnt, f.popped trace pass, pass + 1, 1⟩
  | ended {cnt : Word} {pass : Nat} :
      f.ReachesEnd trace maxsize pass → cnt.toNat = (f.popped trace pass).length →
      Exit maxsize ⟨cnt, f.popped trace pass ++ [(trace pass).data], pass + 1, 0⟩

variable {f trace} {maxsize cnt : Word} {retry : Nat} {pBuf : List Word} {pass : Nat}

theorem popped_of_empty (h : f.isEmpty (trace pass) = true) :
    f.popped trace (pass + 1) = f.popped trace pass := by rw [popped, if_pos h]

theorem popped_of_full (h : ¬ f.isEmpty (trace pass) = true) :
    f.popped trace (pass + 1) = f.popped trace pass ++ [(trace pass).data] := by
  rw [popped, if_neg h]

theorem empties_of_empty (h : f.isEmpty (trace pass) = true) :
    f.empties trace (pass + 1) = f.empties trace pass + 1 := by rw [empties, if_pos h]

theorem empties_of_full (h : ¬ f.isEmpty (trace pass) = true) :
    f.empties trace (pass + 1) = f.empties trace pass := by rw [empties, if_neg h]

theorem not_popsEnd_of_empty (h : f.isEmpty (trace pass) = true) : ¬ f.PopsEnd trace pass :=
  fun hends => Bool.false_ne_true (hends.1.symm.trans h)

theorem going_succ (hgoing : ∀ earlier < pass, ¬ f.PopsEnd trace earlier)
    (hpass : ¬ f.PopsEnd trace pass) : ∀ earlier < pass + 1, ¬ f.PopsEnd trace earlier := by
  intro earlier hlt
  rcases Nat.lt_succ_iff_lt_or_eq.mp hlt with hbefore | rfl
  · exact hgoing earlier hbefore
  · exact hpass

theorem LoopInv.empty (h : f.LoopInv trace maxsize cnt retry pBuf pass)
    (hempty : f.isEmpty (trace pass) = true) (hretry : 0 < retry) :
    f.LoopInv trace maxsize cnt (retry - 1) pBuf (pass + 1) where
  stored := h.stored.trans (popped_of_empty hempty).symm
  counted := h.counted
  bounded := h.bounded
  going := going_succ h.going (not_popsEnd_of_empty hempty)
  budget := by
    have hbudget := h.budget
    rw [empties_of_empty hempty]
    omega

theorem cnt_succ (hlt : cnt < maxsize) : (cnt + 1#32).toNat = cnt.toNat + 1 := by
  have hnat : cnt.toNat < maxsize.toNat := hlt
  rw [BitVec.toNat_add, BitVec.toNat_ofNat, Nat.mod_eq_of_lt (by omega)]

theorem LoopInv.pop (h : f.LoopInv trace maxsize cnt retry pBuf pass) (hlt : cnt < maxsize)
    (hempty : ¬ f.isEmpty (trace pass) = true) (hends : ¬ f.isEnd (trace pass) = true) :
    f.LoopInv trace maxsize (cnt + 1#32) retry (pBuf ++ [(trace pass).data]) (pass + 1) where
  stored := by rw [popped_of_full hempty, h.stored]
  counted := by rw [cnt_succ hlt, h.counted, List.length_append, List.length_singleton]
  bounded := by
    rw [cnt_succ hlt]
    exact hlt
  going := going_succ h.going (fun hpops => hends hpops.2)
  budget := by rw [empties_of_full hempty, h.budget]

/-- The fourth exit is never taken: the count is at most the size when it is tested. -/
theorem not_too_many (hlt : cnt < maxsize) : ¬ maxsize < cnt + 1#32 := by
  intro hmany
  have hnat : maxsize.toNat < (cnt + 1#32).toNat := hmany
  have hle : cnt.toNat < maxsize.toNat := hlt
  rw [cnt_succ hlt] at hnat
  omega

theorem readLoop_exit (h : f.LoopInv trace maxsize cnt retry pBuf pass) :
    f.Exit trace maxsize (f.readLoop trace maxsize cnt retry pBuf pass) := by
  -- the passes that go on keep the invariant, and each of the others is an exit
  fun_induction readLoop f trace maxsize cnt retry pBuf pass with
  | case1 cnt retry pBuf pass hlt hempty hretry ih => exact ih (h.empty hempty hretry)
  | case2 cnt retry pBuf pass hlt hempty hretry =>
    have hbudget := h.budget
    have hcounted := h.counted
    have hnat : cnt.toNat < maxsize.toNat := hlt
    cases h.stored
    exact .timeout hempty hcounted (by omega) h.going (by omega)
  | case3 cnt retry pBuf pass hlt hempty hends =>
    have hbudget := h.budget
    have hcounted := h.counted
    have hnat : cnt.toNat < maxsize.toNat := hlt
    cases h.stored
    exact .ended ⟨⟨Bool.eq_false_iff.mpr hempty, hends⟩, h.going, by omega, by omega⟩ hcounted
  | case4 cnt retry pBuf pass hlt hempty hends hmany => exact absurd hmany (not_too_many hlt)
  | case5 cnt retry pBuf pass hlt hempty hends hmany ih => exact ih (h.pop hlt hempty hends)
  | case6 cnt retry pBuf pass hlt =>
    have hbudget := h.budget
    have hcounted := h.counted
    have hbounded := h.bounded
    have hnat : ¬ cnt.toNat < maxsize.toNat := hlt
    cases h.stored
    exact .full (by omega) (by omega) h.going (by omega)

/-! ## What the exits leave -/

theorem popped_empties (f : EventFifo) (trace : FifoTrace) (pass : Nat) :
    (f.popped trace pass).length + f.empties trace pass = pass := by
  induction pass with
  | zero => rfl
  | succ pass ih =>
    cases hempty : f.isEmpty (trace pass) with
    | true => rw [popped_of_empty hempty, empties_of_empty hempty, ← Nat.add_assoc, ih]
    | false =>
      have hfull : ¬ f.isEmpty (trace pass) = true := Bool.eq_false_iff.mp hempty
      rw [popped_of_full hfull, empties_of_full hfull, List.length_append, List.length_singleton]
      omega

theorem popped_mono (f : EventFifo) (trace : FifoTrace) {m n : Nat} (h : m ≤ n) :
    (f.popped trace m).length ≤ (f.popped trace n).length := by
  induction h with
  | refl => exact Nat.le_refl _
  | @step n hle ih =>
    refine Nat.le_trans ih ?_
    rw [popped]
    split
    · exact Nat.le_refl _
    · rw [List.length_append]
      exact Nat.le_add_right _ _

theorem empties_mono (f : EventFifo) (trace : FifoTrace) {m n : Nat} (h : m ≤ n) :
    f.empties trace m ≤ f.empties trace n := by
  induction h with
  | refl => exact Nat.le_refl _
  | @step n hle ih =>
    refine Nat.le_trans ih ?_
    rw [empties]
    split
    · exact Nat.le_succ _
    · exact Nat.le_refl _

theorem ReachesEnd.behind {last : Nat} (h : f.ReachesEnd trace maxsize last)
    (hgoing : ∀ earlier < pass, ¬ f.PopsEnd trace earlier) : pass ≤ last := by
  rcases Nat.lt_or_ge last pass with hlt | hge
  · exact absurd h.ends (hgoing last hlt)
  · exact hge

/-- A call counts what it stores, unless it ends at the end of an event. -/
theorem Exit.counted_iff {r : EventRead} (h : f.Exit trace maxsize r) :
    r.counted = r.pBuf ↔ ¬ ∃ last, f.ReachesEnd trace maxsize last := by
  cases h with
  | @full cnt pass hfull hcnt hgoing hpatient =>
    refine iff_of_true ?_ ?_
    · rw [EventRead.counted, hcnt, ← hfull, List.take_length]
    · rintro ⟨last, hlast⟩
      have hroom := hlast.room
      have hmono := popped_mono f trace (hlast.behind hgoing)
      omega
  | @timeout cnt pass hempty hcnt hroom hgoing hspent =>
    refine iff_of_true ?_ ?_
    · rw [EventRead.counted, hcnt, List.take_length]
    · rintro ⟨last, hlast⟩
      have hpatient := hlast.patient
      have hmono := empties_mono f trace
        (hlast.behind (going_succ hgoing (not_popsEnd_of_empty hempty)))
      rw [empties_of_empty hempty] at hmono
      omega
  | @ended cnt pass hends hcnt =>
    -- the word is stored before the `break` and not counted
    refine iff_of_false (fun hcounted => ?_) (fun hnone => hnone ⟨pass, hends⟩)
    have hlength := congrArg List.length hcounted
    rw [EventRead.counted, List.length_take, List.length_append, List.length_singleton] at hlength
    dsimp only at hlength
    omega

/-- A call that counts what it stores does all that is expected. -/
theorem Exit.reads {r : EventRead} (h : f.Exit trace maxsize r) (hcounted : r.counted = r.pBuf) :
    f.ReadsEvent trace maxsize r := by
  cases h with
  | @full cnt pass hfull hcnt hgoing hpatient =>
    have htotal := popped_empties f trace pass
    exact {
      terminates := by
        dsimp only
        omega
      stored := rfl
      bounded := Nat.le_of_eq hfull
      stops := fun earlier hlt hends => absurd hends (hgoing earlier hlt)
      returned := hcnt.trans hfull.symm
      seen := hcounted }
  | @timeout cnt pass hempty hcnt hroom hgoing hspent =>
    have htotal := popped_empties f trace pass
    have hstill := going_succ hgoing (not_popsEnd_of_empty hempty)
    exact {
      terminates := by
        dsimp only
        omega
      stored := (popped_of_empty hempty).symm
      bounded := Nat.le_of_lt hroom
      stops := fun earlier hlt hends => absurd hends (hstill earlier hlt)
      returned := hcnt
      seen := hcounted }
  | @ended cnt pass hends hcnt =>
    exact absurd ⟨pass, hends⟩ ((Exit.ended hends hcnt).counted_iff.mp hcounted)

theorem Exit.reads_iff {r : EventRead} (h : f.Exit trace maxsize r) :
    f.ReadsEvent trace maxsize r ↔ ¬ ∃ last, f.ReachesEnd trace maxsize last :=
  ⟨fun hreads => h.counted_iff.mp hreads.seen, fun hnone => h.reads (h.counted_iff.mpr hnone)⟩

theorem readEvent_exit (f : EventFifo) (trace : FifoTrace) (maxsize : Word) :
    f.Exit trace maxsize (f.readEvent (some trace) maxsize) :=
  readLoop_exit {
    stored := rfl
    counted := rfl
    bounded := Nat.zero_le _
    going := fun earlier hlt => absurd hlt (Nat.not_lt_zero earlier)
    budget := Nat.add_zero _ }

end EventFifo

/-- Both readers, and the caller that decodes what is counted, lose the last word of an
event that is read to its end, and nothing else. -/
theorem vtpEventRead_spec (trace : FifoTrace) (maxsize : Word) :
    (tiLinkFifo.ReadsEvent trace maxsize (vtpTiLinkReadEvent (some trace) maxsize) ↔
        ¬ ∃ last, tiLinkFifo.ReachesEnd trace maxsize last) ∧
      (ebFifo.ReadsEvent trace maxsize (vtpEbReadEvent (some trace) maxsize) ↔
        ¬ ∃ last, ebFifo.ReachesEnd trace maxsize last) ∧
      ((∀ (α : Type) (vtpEbDecodeEvent : List Word → α),
          vtpEbReadAndDecodeEvent vtpEbDecodeEvent (some trace) =
            vtpEbDecodeEvent (vtpEbReadEvent (some trace) 1000#32).pBuf) ↔
        ¬ ∃ last, ebFifo.ReachesEnd trace 1000#32 last) := by
  refine ⟨(tiLinkFifo.readEvent_exit trace maxsize).reads_iff,
    (ebFifo.readEvent_exit trace maxsize).reads_iff, ?_⟩
  rw [← (ebFifo.readEvent_exit trace 1000#32).counted_iff]
  constructor
  · exact fun hdecode => hdecode (List Word) id
  · exact fun hcounted α vtpEbDecodeEvent => congrArg vtpEbDecodeEvent hcounted

/-- An event of one word: it is stored, and the count is `0`. -/
theorem vtpTiLinkReadEvent_uncounted :
    ∃ trace maxsize,
      ¬ tiLinkFifo.ReadsEvent trace maxsize (vtpTiLinkReadEvent (some trace) maxsize) := by
  refine ⟨fun _ => ⟨0x10000#32, 0x88000001#32⟩, 4#32, fun hreads => ?_⟩
  have hcall : vtpTiLinkReadEvent (some fun _ => ⟨0x10000#32, 0x88000001#32⟩) 4#32 =
      ⟨0#32, [0x88000001#32], 1, 0⟩ := by
    unfold vtpTiLinkReadEvent EventFifo.readEvent
    dsimp only
    rw [EventFifo.readLoop]
    rfl
  rw [hcall] at hreads
  exact absurd hreads.returned (by decide)

end VtpStreaming
