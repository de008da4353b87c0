import Mathlib.Data.Fin.VecNotation
import VtpStreaming.Clib.Run
import VtpStreaming.Clib.SplitCounter
import VtpStreaming.StreamCounters

/-!
# The byte counter of the ROC

`vtp/vtpRocLib.c`, `vtpRocGetNlongs` and `vtpRocGetNBytes`. The firmware counts the bytes
that it sends in 64 bits, of which each of two registers shows a half. The calls read one
after the other, under the mutex of the process. It keeps the other threads out, but the
firmware goes on counting.
-/

namespace VtpStreaming

open Clib

/-! ## The calls -/

/-- `BytesSent`, while the counter stands at `counter`. -/
def bytesSent (counter : DWord) : Fin 2 → Word := ![lo32 counter, hi32 counter]

def vtpRocGetNlongs (lib : VtpLib) (bytes : Fin 2 → Word) : DWord :=
  if lib.checkInit then totalBytes bytes >>> 2 else 0#64

/-- What `*nbytes` holds after the call. -/
def vtpRocGetNBytes (lib : VtpLib) (bytes : Fin 2 → Word) (nbytes : DWord) : DWord :=
  if lib.checkInit then totalBytes bytes else nbytes

/-- A call of one of the two, the second with what `*nbytes` holds before it. -/
inductive ByteCall
  | nlongs
  | nBytes (nbytes : DWord)
deriving DecidableEq

def ByteCall.deliver (lib : VtpLib) (bytes : Fin 2 → Word) : ByteCall → DWord
  | nlongs => vtpRocGetNlongs lib bytes
  | nBytes nbytes => vtpRocGetNBytes lib bytes nbytes

/-- How many bytes one of the result stands for. -/
def ByteCall.unit : ByteCall → Nat
  | nlongs => 4
  | nBytes _ => 1

/-! ## The system -/

variable {τ : Type}

/-- How far a call has come that holds the mutex: the words that it has, and where the
counter stood when they were read. -/
inductive ReadPhase
  | locked
  | low (word : Word) (first : DWord)
  | both (bytes : Fin 2 → Word) (first second : DWord)

structure ByteReader (τ : Type) where
  thread : τ
  call : ByteCall
  phase : ReadPhase

/-- A call that has been made: the counter at its two reads, and its result. -/
structure ByteReading where
  call : ByteCall
  first : DWord
  second : DWord
  value : DWord
deriving DecidableEq

/-- The counter, the call that holds the mutex, and those that have been made, in order. -/
structure ByteSystem (τ : Type) where
  counter : DWord
  reader : Option (ByteReader τ)
  readings : List ByteReading

inductive ByteMove (τ : Type)
  | count
  | lock (t : τ) (call : ByteCall)
  | readLow (t : τ)
  | readHigh (t : τ)
  | unlock (t : τ)

/-- One move of the firmware or of a thread. The calls read only when `vtp` is not null. -/
inductive ByteStep (lib : VtpLib) : ByteSystem τ → ByteMove τ → ByteSystem τ → Prop
  | count {s : ByteSystem τ} {counter : DWord} :
      s.counter ≤ counter → ByteStep lib s .count { s with counter := counter }
  | lock {s : ByteSystem τ} {t : τ} {call : ByteCall} :
      lib.checkInit = true → s.reader = none →
        ByteStep lib s (.lock t call) { s with reader := some ⟨t, call, .locked⟩ }
  | readLow {s : ByteSystem τ} {t : τ} {call : ByteCall} :
      s.reader = some ⟨t, call, .locked⟩ →
        ByteStep lib s (.readLow t)
          { s with reader := some ⟨t, call, .low (bytesSent s.counter 0) s.counter⟩ }
  | readHigh {s : ByteSystem τ} {t : τ} {call : ByteCall} {word : Word} {first : DWord} :
      s.reader = some ⟨t, call, .low word first⟩ →
        ByteStep lib s (.readHigh t)
          { s with
            reader := some ⟨t, call, .both ![word, bytesSent s.counter 1] first s.counter⟩ }
  | unlock {s : ByteSystem τ} {t : τ} {call : ByteCall} {bytes : Fin 2 → Word}
      {first second : DWord} :
      s.reader = some ⟨t, call, .both bytes first second⟩ →
        ByteStep lib s (.unlock t)
          { s with
            reader := none
            readings := s.readings ++ [⟨call, first, second, call.deliver lib bytes⟩] }

/-- Nobody reads yet. -/
def ByteSystem.idle (counter : DWord) : ByteSystem τ := ⟨counter, none, []⟩

/-! ## What is asked of the calls -/

namespace ByteReading

/-- The result is a number that the counter has shown, or passed, between the two reads. -/
def Between (r : ByteReading) : Prop :=
  r.first.toNat / r.call.unit ≤ r.value.toNat ∧ r.value.toNat ≤ r.second.toNat / r.call.unit

/-- The low word has not gone down between the two reads, in the unit of the result. -/
def Settled (r : ByteReading) : Prop :=
  (lo32 r.first).toNat / r.call.unit ≤ (lo32 r.second).toNat / r.call.unit

instance (r : ByteReading) : Decidable r.Between := inferInstanceAs (Decidable (_ ∧ _))
instance (r : ByteReading) : Decidable r.Settled := inferInstanceAs (Decidable (_ ≤ _))

end ByteReading

/-- No result lies beside the counter, and those of one kind never decrease. -/
structure NeverTorn (readings : List ByteReading) : Prop where
  between : ∀ r ∈ readings, r.Between
  ascending : readings.Pairwise fun r r' => r.call.unit = r'.call.unit → r.value ≤ r'.value

/-! ## One reading -/

section Reading

variable {lib : VtpLib} {r r' : ByteReading}

/-- What a call has read, and made of it. -/
structure ByteReading.Made (lib : VtpLib) (r : ByteReading) : Prop where
  opened : lib.checkInit = true
  counted : r.first ≤ r.second
  delivered : r.value = r.call.deliver lib ![lo32 r.first, hi32 r.second]

theorem ByteCall.unit_pos (call : ByteCall) : 0 < call.unit := by
  cases call with
  | nlongs => decide
  | nBytes nbytes => exact Nat.one_pos

theorem ByteCall.unit_dvd (call : ByteCall) : call.unit ∣ 2 ^ 32 := by
  cases call with
  | nlongs => exact ⟨2 ^ 30, rfl⟩
  | nBytes nbytes => exact Nat.one_dvd _

theorem totalBytes_torn (first second : DWord) :
    (totalBytes ![lo32 first, hi32 second]).toNat = torn (2 ^ 32) first.toNat second.toNat := by
  rw [totalBytes_toNat, torn, Nat.mul_comm (2 ^ 32), ← hi32_toNat, ← lo32_toNat]
  rfl

/-- The result is the low word of the first reading below the high one of the second. -/
theorem ByteReading.Made.value_toNat (h : r.Made lib) :
    r.value.toNat = torn (2 ^ 32) r.first.toNat r.second.toNat / r.call.unit := by
  have htotal := totalBytes_torn r.first r.second
  rw [h.delivered]
  cases r.call with
  | nlongs =>
    rw [ByteCall.deliver, vtpRocGetNlongs, if_pos h.opened, BitVec.toNat_ushiftRight, htotal,
      Nat.shiftRight_eq_div_pow]
    rfl
  | nBytes nbytes =>
    rw [ByteCall.deliver, vtpRocGetNBytes, if_pos h.opened, htotal]
    exact (Nat.div_one _).symm

/-- A result is never behind the counter. -/
theorem ByteReading.Made.first_le (h : r.Made lib) :
    r.first.toNat / r.call.unit ≤ r.value.toNat := by
  rw [h.value_toNat]
  exact Nat.div_le_div_right (le_torn h.counted)

/-- It is ahead by less than the 2^32 bytes of a carry. -/
theorem ByteReading.Made.value_le (h : r.Made lib) :
    r.value.toNat ≤ (r.second.toNat + 2 ^ 32) / r.call.unit := by
  rw [h.value_toNat]
  exact Nat.div_le_div_right (Nat.le_of_lt (torn_lt (by decide)))

theorem ByteReading.Made.between_iff (h : r.Made lib) : r.Between ↔ r.Settled := by
  unfold ByteReading.Between ByteReading.Settled
  rw [and_iff_right h.first_le, h.value_toNat, lo32_toNat, lo32_toNat]
  exact torn_div_le_iff r.call.unit_pos r.call.unit_dvd

/-- Without a carry into the high word nothing is torn. -/
theorem ByteReading.settled_of_hi32 (h : r.first ≤ r.second)
    (hcarry : hi32 r.first = hi32 r.second) : r.Settled := by
  unfold ByteReading.Settled
  have hupper := congrArg BitVec.toNat hcarry
  rw [hi32_toNat, hi32_toNat] at hupper
  rw [lo32_toNat, lo32_toNat]
  exact Nat.div_le_div_right (mod_le_of_div_eq h hupper)

/-- With one, the number of bytes is, unless the counter has gone round a whole low word. -/
theorem ByteReading.settled_iff_hi32 {nbytes : DWord} (h : r.first ≤ r.second)
    (hcall : r.call = .nBytes nbytes) (hless : r.second.toNat < r.first.toNat + 2 ^ 32) :
    r.Settled ↔ hi32 r.first = hi32 r.second := by
  refine ⟨fun hsettled => ?_, settled_of_hi32 h⟩
  unfold ByteReading.Settled at hsettled
  rw [hcall, ByteCall.unit, Nat.div_one, Nat.div_one, lo32_toNat, lo32_toNat] at hsettled
  by_contra hcarry
  have hupper : r.first.toNat / 2 ^ 32 ≠ r.second.toNat / 2 ^ 32 := by
    rw [← hi32_toNat, ← hi32_toNat]
    exact fun heq => hcarry (BitVec.eq_of_toNat_eq heq)
  exact absurd hsettled (Nat.not_le.mpr (mod_lt_of_div_ne h hless hupper))

/-- A result that is not ahead of the counter is not ahead of a later result. -/
theorem ByteReading.Between.value_le (h : r.Between) (h' : r'.Made lib)
    (hlater : r.second ≤ r'.first) (hunit : r.call.unit = r'.call.unit) : r.value ≤ r'.value := by
  have hnat : r.second.toNat ≤ r'.first.toNat := hlater
  calc r.value.toNat
      ≤ r.second.toNat / r.call.unit := h.2
    _ ≤ r'.first.toNat / r.call.unit := Nat.div_le_div_right hnat
    _ = r'.first.toNat / r'.call.unit := by rw [hunit]
    _ ≤ r'.value.toNat := h'.first_le

end Reading

/-! ## Runs -/

section Runs

variable {lib : VtpLib} {s s' : ByteSystem τ} {move : ByteMove τ} {moves : List (ByteMove τ)}
  {counter : DWord}

/-- What the words of a call in the mutex are, and that the calls before it are over. -/
def ReadPhase.Fits (s : ByteSystem τ) : ReadPhase → Prop
  | .locked => True
  | .low word first =>
      word = lo32 first ∧ first ≤ s.counter ∧ ∀ r ∈ s.readings, r.second ≤ first
  | .both bytes first second =>
      bytes = ![lo32 first, hi32 second] ∧ first ≤ second ∧ second ≤ s.counter ∧
        ∀ r ∈ s.readings, r.second ≤ first

structure ByteInv (lib : VtpLib) (s : ByteSystem τ) : Prop where
  made : ∀ r ∈ s.readings, r.Made lib
  past : ∀ r ∈ s.readings, r.second ≤ s.counter
  ordered : s.readings.Pairwise fun r r' => r.second ≤ r'.first
  reader : ∀ h, s.reader = some h → lib.checkInit = true ∧ h.phase.Fits s

/-- A whole call, with the counter going from any value to any later one between its reads. -/
theorem run_call {first second : DWord} (hopen : lib.checkInit = true) (t : τ) (call : ByteCall)
    (readings : List ByteReading) (h : first ≤ second) :
    Run (ByteStep lib) ⟨first, none, readings⟩
      [.lock t call, .readLow t, .count, .readHigh t, .unlock t]
      ⟨second, none, readings ++
        [⟨call, first, second, call.deliver lib ![lo32 first, hi32 second]⟩]⟩ :=
  .cons (.lock hopen rfl) (.cons (.readLow rfl) (.cons (.count h)
    (.cons (.readHigh rfl) (.cons (.unlock rfl) (.nil _)))))

theorem byteInv_idle : ByteInv lib (ByteSystem.idle counter : ByteSystem τ) where
  made := nofun
  past := nofun
  ordered := .nil
  reader := nofun

theorem ReadPhase.Fits.count {phase : ReadPhase} (h : phase.Fits s) (hle : s.counter ≤ counter) :
    phase.Fits { s with counter := counter } := by
  cases phase with
  | locked => trivial
  | low word first =>
    obtain ⟨hword, hfirst, hpast⟩ := h
    exact ⟨hword, BitVec.le_trans hfirst hle, hpast⟩
  | both bytes first second =>
    obtain ⟨hbytes, hfirst, hsecond, hpast⟩ := h
    exact ⟨hbytes, hfirst, BitVec.le_trans hsecond hle, hpast⟩

theorem ByteInv.step (h : ByteInv lib s) (step : ByteStep lib s move s') : ByteInv lib s' := by
  cases step with
  | count hle =>
    refine ⟨h.made, fun r hr => BitVec.le_trans (h.past r hr) hle, h.ordered,
      fun reader hreader => ?_⟩
    obtain ⟨hopened, hfits⟩ := h.reader reader hreader
    exact ⟨hopened, hfits.count hle⟩
  | lock hopened hfree =>
    refine ⟨h.made, h.past, h.ordered, fun reader hreader => ?_⟩
    cases hreader
    exact ⟨hopened, trivial⟩
  | readLow hholds =>
    refine ⟨h.made, h.past, h.ordered, fun reader hreader => ?_⟩
    cases hreader
    exact ⟨(h.reader _ hholds).1, rfl, BitVec.le_refl _, h.past⟩
  | readHigh hholds =>
    obtain ⟨hopened, hword, hfirst, hpast⟩ := h.reader _ hholds
    refine ⟨h.made, h.past, h.ordered, fun reader hreader => ?_⟩
    cases hreader
    subst hword
    exact ⟨hopened, rfl, hfirst, BitVec.le_refl _, hpast⟩
  | unlock hholds =>
    -- the new reading begins where those before it have ended
    obtain ⟨hopened, hbytes, hfirst, hsecond, hpast⟩ := h.reader _ hholds
    refine ⟨List.forall_mem_append.mpr ⟨h.made, ?_⟩, List.forall_mem_append.mpr ⟨h.past, ?_⟩,
      List.pairwise_append.mpr ⟨h.ordered, List.pairwise_singleton _ _, ?_⟩, nofun⟩
    · intro r hr
      cases List.mem_singleton.mp hr
      exact ⟨hopened, hfirst, by rw [hbytes]⟩
    · intro r hr
      cases List.mem_singleton.mp hr
      exact hsecond
    · intro r hr r' hr'
      cases List.mem_singleton.mp hr'
      exact hpast r hr

theorem byteInv_of_run (run : Run (ByteStep lib) (ByteSystem.idle counter) moves s) :
    ByteInv lib s :=
  run.invariant (fun _ _ _ h step => h.step step) byteInv_idle

/-- Whatever the firmware counts and the threads call, the results lie between the counter
at the two reads, and never decrease, exactly in the runs where no call finds the low word
gone down. -/
theorem byte_counter_iff (run : Run (ByteStep lib) (ByteSystem.idle counter) moves s) :
    NeverTorn s.readings ↔ ∀ r ∈ s.readings, r.Settled := by
  have hinv := byteInv_of_run run
  constructor
  · exact fun htorn r hr => (hinv.made r hr).between_iff.mp (htorn.between r hr)
  · intro hsettled
    have hbetween : ∀ r ∈ s.readings, r.Between :=
      fun r hr => (hinv.made r hr).between_iff.mpr (hsettled r hr)
    refine ⟨hbetween, hinv.ordered.imp_of_mem fun {r r'} hr hr' hlater hunit => ?_⟩
    exact (hbetween r hr).value_le (hinv.made r' hr') hlater hunit

theorem byte_counter_iff_nine :
    NeverTorn [⟨.nlongs, 5#64, 9#64, 1#64⟩] ↔
      ∀ r ∈ [ByteReading.mk .nlongs 5#64 9#64 1#64], r.Settled := by
  have run : Run (ByteStep ⟨true, fun _ => vtpFwTypeCommon⟩) (.idle 5#64)
      [.lock () .nlongs, .readLow (), .count, .readHigh (), .unlock ()]
      ⟨9#64, none, [⟨.nlongs, 5#64, 9#64, 1#64⟩]⟩ :=
    run_call rfl () .nlongs [] (by decide)
  exact byte_counter_iff run

/-- One byte carries into the high word between the two reads. The call counts it as 2^32
bytes, and the next call goes back. -/
theorem byte_counter_carry :
    ∃ (moves : List (ByteMove Unit)) (s : ByteSystem Unit),
      Run (ByteStep ⟨true, fun _ => vtpFwTypeCommon⟩) (.idle 0xffffffff#64) moves s ∧
        s.readings = [⟨.nBytes 0#64, 0xffffffff#64, 0x100000000#64, 0x1ffffffff#64⟩,
          ⟨.nBytes 0#64, 0x100000000#64, 0x100000000#64, 0x100000000#64⟩,
          ⟨.nlongs, 0x1ffffffff#64, 0x200000000#64, 0xbfffffff#64⟩,
          ⟨.nlongs, 0x200000000#64, 0x200000000#64, 0x80000000#64⟩] ∧
        ¬ NeverTorn s.readings := by
  let lib : VtpLib := ⟨true, fun _ => vtpFwTypeCommon⟩
  have hcall (call : ByteCall) (first second : DWord) (readings : List ByteReading)
      (h : first ≤ second) := @run_call Unit lib first second rfl () call readings h
  have hcount (readings : List ByteReading) : Run (ByteStep lib) ⟨0x100000000#64, none, readings⟩
      ([.count] : List (ByteMove Unit)) ⟨0x1ffffffff#64, none, readings⟩ := by
    have hle : 0x100000000#64 ≤ 0x1ffffffff#64 := by decide
    exact .cons (.count hle) (.nil _)
  refine ⟨_, _, (hcall (.nBytes 0#64) 0xffffffff#64 0x100000000#64 [] (by decide)).append
    ((hcall (.nBytes 0#64) 0x100000000#64 0x100000000#64 _ (by decide)).append
      ((hcount _).append ((hcall .nlongs 0x1ffffffff#64 0x200000000#64 _ (by decide)).append
        (hcall .nlongs 0x200000000#64 0x200000000#64 _ (by decide))))), ?_, ?_⟩
  · decide
  · intro htorn
    exact absurd (htorn.between _ (List.mem_cons_self ..)) (by decide)

end Runs

end VtpStreaming
