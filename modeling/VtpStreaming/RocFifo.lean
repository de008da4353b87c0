import VtpStreaming.RocEvents

/-!
# The asynchronous data FIFO

The FIFO holds up to 512 words. The firmware drains it at any moment. A word
written while it is full is lost.

The two routines look at the fill level through the mask `0x2ff`, which has no
bit 8, so a level from 256 to 511 looks 256 words lower than it is.
-/

namespace VtpStreaming

open Clib

structure AsyncFifo where
  level : Nat
  rocid : Word
  lost : Bool
deriving DecidableEq, Repr

/-- `CpuAsyncEventStatus`: the word count, with bit 31 set when the FIFO is
full. -/
def fifoStatus (level : Nat) : Word :=
  (if level = 512 then vtpRocDataFifoFull else 0#32) ||| BitVec.ofNat 32 level

/-- The ROC registers in front of the FIFO. -/
def asyncBus : Bus RocReg RocPort AsyncFifo where
  read d
    | .cpuAsyncEventStatus => (fifoStatus d.level, d)
    | .rocID => (d.rocid, d)
  write d
    | .cpuAsyncEventData, _ =>
        if d.level < 512 then { d with level := d.level + 1 } else { d with lost := true }
    | _, _ => d

/-- The firmware takes any number of words. -/
def Drains (d d' : AsyncFifo) : Prop :=
  d'.level ≤ d.level ∧ d'.rocid = d.rocid ∧ d'.lost = d.lost

/-- A word is written only while the FIFO has room. -/
def HasRoom (d : AsyncFifo) (w : RocPort) (_x : Word) : Prop :=
  w = .cpuAsyncEventData → d.level < 512

/-- A short event is safe to start when all its words fit. Control events and
long events look at the status first. -/
def CallFits (d : AsyncFifo) : RocCall → Prop
  | .control .. => True
  | .user buf => userEventOk buf → (blen buf).toNat + 10 ≤ 512 →
      d.level + (10 + max 1 (blen buf).toNat) ≤ 512

/-- A look at the status is safe at these levels: on entry the 11 words before
the first burst fit, in a round bit 8 of the level is clear or all that remains
fits. -/
def PollFits (d : AsyncFifo) : FlowPoint → Prop
  | .entryPoll _ => d.level ≤ 501 ∨ d.level = 512
  | .checkFull .. => True
  | .takeAvail _ _ rem => d.level < 256 ∨ d.level = 512 ∨ d.level + rem.toNat ≤ 512

instance (d : AsyncFifo) : (c : RocCall) → Decidable (CallFits d c)
  | .control .. => inferInstanceAs (Decidable True)
  | .user buf => inferInstanceAs (Decidable (userEventOk buf = true →
      (blen buf).toNat + 10 ≤ 512 → d.level + (10 + max 1 (blen buf).toNat) ≤ 512))

/-- The condition on one move. -/
def MoveFits : AsyncFifo × RocProg → Move RocCall → Prop
  | _, .env => True
  | (d, .loop l), .cpu => PollFits d l
  | _, .cpu => True
  | (d, _), .call c => CallFits d c

abbrev RocStep (lib : VtpLib) :=
  BusStep (C := RocCall) asyncBus flowBody Drains (RocCall.entry lib)

/-! ## The masked level -/

set_option maxRecDepth 20000 in
theorem masked_level_low : ∀ level : Fin 256,
    (fifoStatus level.val &&& fifoLevelMask).toNat = level.val := by
  decide

set_option maxRecDepth 20000 in
theorem masked_level_high : ∀ level : Fin 256,
    (fifoStatus (256 + level.val) &&& fifoLevelMask).toNat = level.val := by
  decide

theorem masked_level_full : (fifoStatus 512 &&& fifoLevelMask).toNat = 512 := by
  decide

/-- What the mask leaves of a level: bit 8 is gone. -/
theorem masked_level {level : Nat} (h : level ≤ 512) :
    (fifoStatus level &&& fifoLevelMask).toNat =
      if level = 512 then 512 else level % 256 := by
  by_cases hfull : level = 512
  · subst hfull
    exact masked_level_full
  rw [if_neg hfull]
  by_cases hlow : level < 256
  · rw [Nat.mod_eq_of_lt hlow]
    exact masked_level_low ⟨level, hlow⟩
  · have hhigh := masked_level_high ⟨level - 256, by omega⟩
    rw [show 256 + (level - 256) = level by omega] at hhigh
    rw [hhigh]
    show level - 256 = level % 256
    omega

theorem full_bit {level : Nat} (h : fifoStatus level &&& vtpRocDataFifoFull = 0) :
    level ≠ 512 := by
  rintro rfl
  exact absurd h (by decide)

/-! ## Pushes -/

theorem Drains.refl (d : AsyncFifo) : Drains d d := ⟨Nat.le_refl _, rfl, rfl⟩

theorem Drains.trans {a b c : AsyncFifo} (left : Drains a b) (right : Drains b c) :
    Drains a c :=
  ⟨Nat.le_trans right.1 left.1, right.2.1.trans left.2.1, right.2.2.trans left.2.2⟩

/-- `n` more words fit and none has been lost. -/
def Room (n : Nat) (d : AsyncFifo) : Prop := d.level + n ≤ 512 ∧ d.lost = false

theorem Room.drains {n : Nat} {d d' : AsyncFifo} (h : Room n d) (move : Drains d d') :
    Room n d' :=
  ⟨by have := h.1; have := move.1; omega, move.2.2.trans h.2⟩

theorem Room.weaken {m n : Nat} {d : AsyncFifo} (h : Room n d) (hm : m ≤ n) : Room m d :=
  ⟨by have := h.1; omega, h.2⟩

/-- The invariant of each point that looks at the status. -/
def FlowInv : FlowPoint → AsyncFifo → Prop
  | .entryPoll _, d => Room 0 d
  | .checkFull .., d => Room 0 d
  | .takeAvail .., d => Room 1 d

/-- The program loses no word from here to its next look at the status. -/
abbrev Lossless (p : RocProg) (d : AsyncFifo) : Prop :=
  Wp asyncBus Drains HasRoom FlowInv (fun _ d => Room 0 d) p d

theorem lossless_ret {code : Int} {d : AsyncFifo} (h : Room 0 d) : Lossless (.ret code) d :=
  fun _ move => h.drains move

/-- A write to a port other than the data port leaves the FIFO alone. -/
theorem lossless_other {w : RocPort} {x : Word} {k : RocProg} {d : AsyncFifo} {n : Nat}
    (hw : w ≠ .cpuAsyncEventData) (h : Room n d) (next : ∀ d', Room n d' → Lossless k d') :
    Lossless (.write w x k) d := by
  intro d' move
  have hroom := h.drains move
  refine ⟨fun hdata => absurd hdata hw, ?_⟩
  cases w with
  | cpuAsyncEventData => exact absurd rfl hw
  | _ => exact next d' hroom

/-- A push takes one word of the room. -/
theorem lossless_pushes {xs : List Word} {k : RocProg} {d : AsyncFifo} {n : Nat}
    (h : Room (xs.length + n) d) (next : ∀ d', Room n d' → Lossless k d') :
    Lossless (.writeAll .cpuAsyncEventData xs k) d := by
  apply Wp.writeAll fun ys a => Room (ys.length + n) a
  · intro ys a b hys move
    exact hys.drains move
  · intro x ys a hys
    have hlevel : a.level < 512 := by
      have := hys.1
      simp only [List.length_cons] at this
      omega
    refine ⟨fun _ => hlevel, ?_⟩
    show Room (ys.length + n) (if a.level < 512 then _ else _)
    rw [if_pos hlevel]
    refine ⟨?_, hys.2⟩
    have := hys.1
    simp only [List.length_cons] at this
    show a.level + 1 + (ys.length + n) ≤ 512
    omega
  · intro a ha
    rw [List.length_nil, Nat.zero_add] at ha
    exact next a ha
  · exact h

/-- A look at the status sees the level of that moment. -/
theorem lossless_status {k : Word → RocProg} {d : AsyncFifo}
    (next : ∀ d', Drains d d' → Lossless (k (fifoStatus d'.level)) d') :
    Lossless (.read .cpuAsyncEventStatus k) d :=
  next

theorem access_status (k : Word → RocProg) (d : AsyncFifo) :
    BusProg.access asyncBus (d, .read .cpuAsyncEventStatus k) = (d, k (fifoStatus d.level)) :=
  rfl

/-- A read leaves the FIFO alone. -/
theorem lossless_rocid {k : Word → RocProg} {d : AsyncFifo} {n : Nat} (h : Room n d)
    (next : ∀ x d', Room n d' → Lossless (k x) d') : Lossless (.read .rocID k) d :=
  fun d' move => next d'.rocid d' (h.drains move)

/-- Give the lock back and return. -/
theorem lossless_unlock {code : Int} {d : AsyncFifo} (h : Room 0 d) :
    Lossless (.write .vunlock 0 (.ret code)) d :=
  lossless_other (by decide) h fun _ h' => lossless_ret h'

/-! ## The two routines -/

/-- A control event starts at level 0, or at 256, which looks the same; its 15
words fit. -/
theorem lossless_control {lib : VtpLib} {type val0 val1 : Word} {d : AsyncFifo}
    (h : Room 0 d) : Lossless (vtpRocEvioWriteControl lib type val0 val1) d := by
  rw [vtpRocEvioWriteControl]
  split
  · exact lossless_ret h
  refine lossless_status fun d' move => ?_
  have hroom := h.drains move
  have hle : d'.level ≤ 512 := hroom.1
  rw [masked_level hle]
  by_cases hbusy : 0 < if d'.level = 512 then 512 else d'.level % 256
  · rw [if_pos hbusy]
    exact lossless_ret hroom
  · rw [if_neg hbusy]
    have hlevel : d'.level ≤ 256 := by
      by_contra hgt
      split at hbusy <;> omega
    have hfits : Room 15 d' := ⟨by omega, hroom.2⟩
    refine lossless_other (by decide) hfits fun a ha => ?_
    refine lossless_rocid ha fun rocid b hb => ?_
    refine lossless_pushes (n := 0) hb fun c hc => ?_
    exact lossless_other (by decide) hc fun e he => lossless_unlock he

theorem lossless_user {lib : VtpLib} {buf : Nat → Word} {d : AsyncFifo} (h : Room 0 d)
    (fits : CallFits d (.user buf)) : Lossless (vtpRocEvioWriteUserEvent lib buf) d := by
  rw [vtpRocEvioWriteUserEvent]
  split
  · exact lossless_ret h
  split
  · exact lossless_ret h
  next hok =>
  have hcheck : userEventOk buf := by simpa using hok
  have hlen := totalLen_add_two hcheck
  by_cases hlong : 512 < (blen buf).toNat + 10
  · -- flow control: the FIFO is not written before the first look at the status
    have hcond : vtpRocDataFifoDepth.toNat < (totalLen buf + 2#32).toNat := by
      rw [hlen]; exact hlong
    rw [if_pos hcond]
    exact lossless_other (by decide) h fun a ha b move => ha.drains move
  · have hcond : ¬ vtpRocDataFifoDepth.toNat < (totalLen buf + 2#32).toNat := by
      rw [hlen]; exact hlong
    rw [if_neg hcond]
    have hroom : Room (10 + max 1 (blen buf).toNat) d :=
      ⟨fits hcheck (by omega), h.2⟩
    refine lossless_other (by decide) hroom fun a ha => ?_
    refine lossless_rocid ha fun rocid b hb => ?_
    refine lossless_other (by decide) hb fun c hc => ?_
    refine lossless_pushes (n := max 1 (blen buf).toNat) hc fun e he => ?_
    refine lossless_pushes (n := 0) ?_ fun g hg => lossless_unlock hg
    refine he.weaken ?_
    simp only [List.length_cons, bufWords_length]
    omega

/-- Where bit 8 is clear, a burst is as long as the FIFO has room at most. -/
theorem burst_fits {level : Nat} (rem : Word) (h : level < 256) :
    level + (burstLen (fifoStatus level) rem).toNat ≤ 512 := by
  have hmask : (fifoStatus level &&& fifoLevelMask).toNat = level := by
    rw [masked_level (by omega), if_neg (by omega), Nat.mod_eq_of_lt h]
  have havail : (vtpRocDataFifoDepth - (fifoStatus level &&& fifoLevelMask)).toNat =
      512 - level := by
    rw [BitVec.toNat_sub_of_le (by rw [BitVec.le_def, hmask]; show level ≤ 512; omega), hmask]
    rfl
  simp only [burstLen]
  split <;> omega

/-- Words of the user's bank fit when there is room for as many. -/
theorem lossless_bufWords {buf : Nat → Word} {jj n : Nat} {k : RocProg} {d : AsyncFifo}
    (h : Room n d) (next : ∀ d', Room 0 d' → Lossless k d') :
    Lossless (.writeAll .cpuAsyncEventData (bufWords buf jj n) k) d := by
  have hfits : Room ((bufWords buf jj n).length + 0) d := by
    rwa [bufWords_length, Nat.add_zero]
  exact lossless_pushes hfits next

theorem lossless_burst {buf : Nat → Word} {jj : Nat} {rem avail : Word} {d : AsyncFifo}
    (h : Room avail.toNat d) : Lossless (burst buf jj rem avail) d := by
  refine lossless_bufWords h fun a ha => ?_
  split
  · exact fun _ move => ha.drains move
  · exact lossless_unlock ha

/-- One round after each look at the status, when the level there is safe. -/
theorem lossless_body {l : FlowPoint} {d : AsyncFifo} (inv : FlowInv l d)
    (fits : PollFits d l) :
    Lossless (BusProg.access asyncBus (d, flowBody l)).2
      (BusProg.access asyncBus (d, flowBody l)).1 := by
  cases l with
  | entryPoll buf =>
    have hroom : Room 0 d := inv
    have hlevel : d.level ≤ 512 := hroom.1
    have hmask := masked_level hlevel
    rw [flowBody, access_status]
    show Lossless (if 500 < (fifoStatus d.level &&& fifoLevelMask).toNat then _ else _) d
    rw [hmask]
    obtain hlow | hfull := fits
    · rw [if_neg (by split <;> omega)]
      have h11 : Room 11 d := ⟨by omega, hroom.2⟩
      refine lossless_rocid h11 fun rocid a ha => ?_
      refine lossless_other (by decide) ha fun b hb => ?_
      refine lossless_pushes (n := 1) hb fun c hc => ?_
      exact lossless_pushes (n := 0) hc fun e he _ move => he.drains move
    · rw [if_pos (by rw [if_pos hfull]; decide)]
      exact lossless_unlock hroom
  | checkFull buf jj rem =>
    have hroom : Room 0 d := inv
    rw [flowBody, access_status]
    show Lossless (if fifoStatus d.level &&& vtpRocDataFifoFull ≠ 0 then _ else _) d
    split
    · exact lossless_unlock hroom
    · next hfull =>
      have hne := full_bit (not_ne_iff.mp hfull)
      have hle : d.level ≤ 512 := hroom.1
      have hone : Room 1 d := ⟨by omega, hroom.2⟩
      exact fun _ move => hone.drains move
  | takeAvail buf jj rem =>
    have hroom : Room 1 d := inv
    have hlt : d.level < 512 := hroom.1
    have hburst : d.level + (burstLen (fifoStatus d.level) rem).toNat ≤ 512 := by
      obtain hlow | hfull | hrem := fits
      · exact burst_fits rem hlow
      · omega
      · have := burstLen_le (fifoStatus d.level) rem
        omega
    rw [flowBody, access_status]
    dsimp only
    generalize burstLen (fifoStatus d.level) rem = avail at hburst ⊢
    exact lossless_burst ⟨hburst, hroom.2⟩

/-! ## Runs -/

theorem room_access {p : RocProg} {d : AsyncFifo} (room : Room 0 d) (h : Lossless p d) :
    Room 0 (BusProg.access asyncBus (d, p)).1 := by
  cases p with
  | ret code => exact room
  | loop l => exact room
  | read r k => cases r <;> exact room
  | write w x k =>
    have hguarantee := (h d (Drains.refl d)).1
    cases w with
    | cpuAsyncEventData =>
      have hlevel : d.level < 512 := hguarantee rfl
      show Room 0 (if d.level < 512 then _ else _)
      rw [if_pos hlevel]
      exact ⟨hlevel, room.2⟩
    | _ => exact room

/-- Every look at the status leaves the FIFO alone. -/
theorem access_body_fifo (l : FlowPoint) (d : AsyncFifo) :
    (BusProg.access asyncBus (d, flowBody l)).1 = d := by
  cases l <;> rw [flowBody, access_status]

/-- The invariant of a run: no word has been lost, and none will be before the
next move that does not fit. -/
def RocInv (s : AsyncFifo × RocProg) : Prop := Room 0 s.1 ∧ Lossless s.2 s.1

theorem rocStep_inv {lib : VtpLib} {s t : AsyncFifo × RocProg} {m : Move RocCall}
    (inv : RocInv s) (step : RocStep lib s m t) (fits : MoveFits s m) : RocInv t := by
  obtain ⟨room, lossless⟩ := inv
  cases step with
  | env move => exact ⟨room.drains move, lossless.stable (fun _ _ _ => Drains.trans) move⟩
  | @call d code c =>
    refine ⟨room, ?_⟩
    cases c with
    | control type val0 val1 => exact lossless_control room
    | user buf => exact lossless_user room fits
  | cpu =>
    obtain ⟨d, p⟩ := s
    constructor
    · cases p with
      | loop l =>
        show Room 0 (BusProg.access asyncBus (d, flowBody l)).1
        rw [access_body_fifo]
        exact room
      | ret code => exact room_access room lossless
      | read r k => exact room_access room lossless
      | write w x k => exact room_access room lossless
    · refine lossless.cpuStep Drains.refl fun l hl inv => ?_
      subst hl
      exact lossless_body inv fits

/-! ## Moves that do not fit -/

/-- The FIFO after `n` pushes with no drain in between. -/
def AsyncFifo.fill (d : AsyncFifo) (n : Nat) : AsyncFifo :=
  { d with level := min 512 (d.level + n), lost := d.lost || 512 < d.level + n }

theorem fill_zero {d : AsyncFifo} (h : d.level ≤ 512) : d.fill 0 = d := by
  cases d
  simp only [AsyncFifo.fill, Nat.add_zero] at h ⊢
  simp [Nat.min_eq_right h, Nat.not_lt.mpr h]

theorem fill_push {d : AsyncFifo} (h : d.level ≤ 512) (x : Word) (n : Nat) :
    (asyncBus.write d .cpuAsyncEventData x).fill n = d.fill (n + 1) := by
  cases d with
  | mk level rocid lost =>
  dsimp only at h
  show AsyncFifo.fill (if level < 512 then _ else _) n = _
  split
  · next hlt =>
    simp only [AsyncFifo.fill, AsyncFifo.mk.injEq, true_and]
    refine ⟨by omega, ?_⟩
    rw [show level + 1 + n = level + (n + 1) by omega]
  · next hge =>
    have hfull : level = 512 := by omega
    subst hfull
    simp [AsyncFifo.fill]

theorem push_level {d : AsyncFifo} (h : d.level ≤ 512) (x : Word) :
    (asyncBus.write d .cpuAsyncEventData x).level ≤ 512 := by
  show AsyncFifo.level (if d.level < 512 then _ else _) ≤ 512
  split
  · next hlt => exact hlt
  · exact h

abbrev rocCpuStep : AsyncFifo × RocProg → AsyncFifo × RocProg :=
  BusProg.cpuStep asyncBus flowBody

/-- The processor alone pushes a list of words. -/
theorem iterate_pushes (xs : List Word) (k : RocProg) {d : AsyncFifo} (h : d.level ≤ 512) :
    rocCpuStep^[xs.length] (d, .writeAll .cpuAsyncEventData xs k) = (d.fill xs.length, k) := by
  induction xs generalizing d with
  | nil => rw [List.length_nil, fill_zero h]; rfl
  | cons x xs ih =>
    rw [List.length_cons, Function.iterate_succ_apply]
    show rocCpuStep^[xs.length] (asyncBus.write d .cpuAsyncEventData x, _) = _
    rw [ih (push_level h x), fill_push h]

/-- From here the processor alone loses a word. -/
def Loses (s : AsyncFifo × RocProg) : Prop := ∃ n, (rocCpuStep^[n] s).1.lost = true

theorem Loses.back {s t : AsyncFifo × RocProg} (m : Nat) (steps : rocCpuStep^[m] s = t)
    (h : Loses t) : Loses s := by
  obtain ⟨n, hn⟩ := h
  refine ⟨n + m, ?_⟩
  rw [Function.iterate_add_apply, steps]
  exact hn

/-- A list of words that does not fit. -/
theorem pushes_lose {xs : List Word} {k : RocProg} {d : AsyncFifo} (h : d.level ≤ 512)
    (big : 512 < d.level + xs.length) : Loses (d, .writeAll .cpuAsyncEventData xs k) := by
  refine ⟨xs.length, ?_⟩
  rw [iterate_pushes xs k h]
  simp [AsyncFifo.fill, big]

theorem writeAll_append (xs ys : List Word) (k : RocProg) :
    (.writeAll .cpuAsyncEventData xs (.writeAll .cpuAsyncEventData ys k) : RocProg) =
      .writeAll .cpuAsyncEventData (xs ++ ys) k := by
  induction xs with
  | nil => rfl
  | cons x xs ih => rw [List.cons_append, BusProg.writeAll, BusProg.writeAll, ih]

theorem unfit_call_loses {lib : VtpLib} {c : RocCall} {d : AsyncFifo}
    (ready : lib.ready zyncFwTypeZcodaroc 1) (h : d.level ≤ 512) (unfit : ¬ CallFits d c) :
    Loses (d, c.entry lib) := by
  cases c with
  | control type val0 val1 => exact absurd trivial unfit
  | user buf =>
    have hunfit : userEventOk buf ∧ (blen buf).toNat + 10 ≤ 512 ∧
        512 < d.level + (10 + max 1 (blen buf).toNat) := by
      by_contra hno
      apply unfit
      intro hcheck hshort
      by_contra hbig
      exact hno ⟨hcheck, hshort, by omega⟩
    obtain ⟨hcheck, hshort, hbig⟩ := hunfit
    have hlen := totalLen_add_two hcheck
    have hcond : ¬ vtpRocDataFifoDepth.toNat < (totalLen buf + 2#32).toNat := by
      rw [hlen]
      exact Nat.not_lt.mpr hshort
    have hthree : rocCpuStep^[3] (d, (RocCall.user buf).entry lib) =
        (d, .writeAll .cpuAsyncEventData (userHeader buf d.rocid) <|
          .writeAll .cpuAsyncEventData
            ((blen buf - 1#32) :: bufWords buf 1 ((blen buf).toNat - 1)) <|
          .write .vunlock 0 <| .ret ok) := by
      rw [RocCall.entry, vtpRocEvioWriteUserEvent, if_neg (by simp [ready]),
        if_neg (by simp [hcheck]), if_neg hcond]
      rfl
    refine Loses.back 3 hthree ?_
    rw [writeAll_append]
    refine pushes_lose h ?_
    simp only [List.length_append, userHeader_length, List.length_cons, bufWords_length]
    omega

/-- A burst computed from a level with bit 8 set is longer than the room. -/
theorem burst_overruns {level : Nat} {rem : Word} (hlow : 256 ≤ level) (hfull : level < 512)
    (hrem : 512 < level + rem.toNat) :
    512 < level + (burstLen (fifoStatus level) rem).toNat := by
  have hmask : (fifoStatus level &&& fifoLevelMask).toNat = level - 256 := by
    rw [masked_level (by omega), if_neg (by omega)]
    omega
  have hle : fifoStatus level &&& fifoLevelMask ≤ vtpRocDataFifoDepth := by
    rw [BitVec.le_def, hmask]
    show level - 256 ≤ 512
    omega
  have havail : (vtpRocDataFifoDepth - (fifoStatus level &&& fifoLevelMask)).toNat =
      768 - level := by
    rw [BitVec.toNat_sub_of_le hle, hmask]
    show 512 - (level - 256) = 768 - level
    omega
  simp only [burstLen]
  split <;> omega

theorem unfit_poll_loses {l : FlowPoint} {d : AsyncFifo} (h : d.level ≤ 512)
    (unfit : ¬ PollFits d l) : Loses (d, .loop l) := by
  cases l with
  | entryPoll buf =>
    simp only [PollFits, not_or, not_le] at unfit
    have hpass : ¬ 500 < (fifoStatus d.level &&& fifoLevelMask).toNat := by
      rw [masked_level h, if_neg unfit.2]
      omega
    have hthree : rocCpuStep^[3] (d, .loop (.entryPoll buf)) =
        (d, .writeAll .cpuAsyncEventData (userHeader buf d.rocid) <|
          .writeAll .cpuAsyncEventData [blen buf - 1#32] <|
          .loop (.checkFull buf 1 (totalLen buf + 2#32 - 10#32 - 1#32))) := by
      have hfirst : rocCpuStep (d, .loop (.entryPoll buf)) =
          (d, if 500 < (fifoStatus d.level &&& fifoLevelMask).toNat then _ else _) := rfl
      rw [Function.iterate_succ_apply, hfirst, if_neg hpass]
      rfl
    refine Loses.back 3 hthree ?_
    rw [writeAll_append]
    refine pushes_lose h ?_
    simp only [List.length_append, userHeader_length, List.length_singleton]
    omega
  | checkFull buf jj rem => exact absurd trivial unfit
  | takeAvail buf jj rem =>
    simp only [PollFits, not_or, not_le, not_lt] at unfit
    obtain ⟨hlow, hfull, hrem⟩ := unfit
    have hbig := burst_overruns hlow (by omega) hrem
    have hone : rocCpuStep^[1] (d, .loop (.takeAvail buf jj rem)) =
        (d, burst buf jj rem (burstLen (fifoStatus d.level) rem)) := rfl
    refine Loses.back 1 hone ?_
    generalize burstLen (fifoStatus d.level) rem = avail at hbig ⊢
    refine pushes_lose h ?_
    rwa [bufWords_length]

/-! ## The result -/

/-- No word is lost in a run whose moves all fit, and a move that does not fit
loses one unless the firmware takes words in time. -/
theorem async_event_words_kept (lib : VtpLib) :
    (∀ (d : AsyncFifo) (code : Int) (ms : List (Move RocCall)) (t : AsyncFifo × RocProg),
      d.level ≤ 512 → d.lost = false →
      Run (fun s m t => RocStep lib s m t ∧ MoveFits s m) (d, .ret code) ms t →
      t.1.lost = false) ∧
    (∀ (s : AsyncFifo × RocProg) (m : Move RocCall) (t : AsyncFifo × RocProg),
      lib.ready zyncFwTypeZcodaroc 1 → s.1.level ≤ 512 → RocStep lib s m t → ¬ MoveFits s m →
      Loses t) := by
  constructor
  · intro d code ms t hlevel hlost run
    have hstart : RocInv (d, .ret code) := by
      have hroom : Room 0 d := ⟨hlevel, hlost⟩
      exact ⟨hroom, lossless_ret hroom⟩
    have hend : RocInv t :=
      run.invariant (fun _ _ _ inv step => rocStep_inv inv step.1 step.2) hstart
    exact hend.1.2
  · intro s m t ready hlevel step unfit
    cases step with
    | env move => exact absurd trivial unfit
    | call => exact unfit_call_loses ready hlevel unfit
    | cpu =>
      obtain ⟨d, p⟩ := s
      cases p with
      | loop l =>
        obtain ⟨n, hn⟩ := unfit_poll_loses (l := l) hlevel unfit
        cases n with
        | zero =>
          refine ⟨0, ?_⟩
          show (BusProg.access asyncBus (d, flowBody l)).1.lost = true
          rw [access_body_fifo]
          exact hn
        | succ n => exact ⟨n, hn⟩
      | _ => exact absurd trivial unfit

/-- A bank of two words goes into the empty FIFO; at level 512 it loses one. -/
theorem async_event_words_kept_pair :
    (rocCpuStep (⟨0, 5#32, false⟩, RocCall.entry rocLib (.user (userBank 1)))).1.lost = false ∧
    Loses (⟨512, 5#32, false⟩, RocCall.entry rocLib (.user (userBank 1))) := by
  constructor
  · have hfits : CallFits ⟨0, 5#32, false⟩ (.user (userBank 1)) := by decide
    exact (async_event_words_kept rocLib).1 ⟨0, 5#32, false⟩ ok [.call (.user (userBank 1)), .cpu] _
      (by decide) rfl (.cons ⟨.call, hfits⟩ (.cons ⟨.cpu, trivial⟩ (.nil _)))
  · have hunfit : ¬ CallFits ⟨512, 5#32, false⟩ (.user (userBank 1)) := by decide
    exact (async_event_words_kept rocLib).2 (⟨512, 5#32, false⟩, .ret ok)
      (.call (.user (userBank 1))) _ rfl (by decide) .call hunfit

/-- Words are lost: a short event written to a full FIFO, and a long one
admitted at level 511, where the mask reads 255. -/
theorem async_event_word_lost :
    ¬ (∀ (d : AsyncFifo) (ms : List (Move RocCall)) (t : AsyncFifo × RocProg),
      d.level ≤ 512 → d.lost = false → Run (RocStep rocLib) (d, .ret ok) ms t →
      t.1.lost = false) ∧
    (rocCpuStep^[6] (⟨511, 5#32, false⟩, RocCall.entry rocLib (.user (userBank 502)))).1.lost
      = true := by
  refine ⟨fun hclaim => ?_, rfl⟩
  have hlost := hclaim ⟨512, 5#32, false⟩
    [.call (.user (userBank 1)), .cpu, .cpu, .cpu, .cpu] _ (by decide) rfl
    (.cons .call (.cons .cpu (.cons .cpu (.cons .cpu (.cons .cpu (.nil _))))))
  exact absurd hlost (by decide)

end VtpStreaming
