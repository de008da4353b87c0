import VtpStreaming.StreamingReadBack

/-!
# The frame length of the event builder

`vtp/vtpLib.c`, `vtpStreamingSetEbCfg`. The length is rounded up to whole ticks, and one ns
is taken off, before it is cut to its range. So the lower bound of the range is one ns off.
-/

namespace VtpStreaming

open Clib VtpLib

/-- A value of the type `int`. -/
def FitsInt (x : Int) : Prop := -2 ^ 31 ≤ x ∧ x < 2 ^ 31

/-- All values that the `int` computations on `frame_len` produce, the shift of the field
included. -/
def frameSteps (frameLen : Int) : List Int :=
  let ticks := (frameLen + 31).tdiv 32
  let cut := max 1024 (min 65535 (ticks * 32 - 1))
  [frameLen + 31, ticks, ticks * 32, ticks * 32 - 1, cut, cut / 2 ^ 5, cut / 2 ^ 5 * 2 ^ 16]

/-- The length that can be asked for. -/
def clampedLen (frameLen : Int) : Int := max 1024 (min 65536 frameLen)

/-- The field of the frame length. -/
def frameField (r : Regs) : Nat := (ebFrame.get r.streamingEb.ctrl).toNat

/-- What is asked of the registers `prog` that the call leaves for a frame length. `prog'` is
what it leaves for a length that is not larger. -/
structure EncodesLength (lib : VtpLib) (mask nstreams frameLen rocId : Word)
    (ppInfo : Option PpInfo) (r prog : Regs) : Prop where
  noOverflow : ∀ x ∈ frameSteps frameLen.toInt, FitsInt x
  field : (frameField prog : Int) = (clampedLen frameLen.toInt + 31) / 32 - 1
  period : IsLeast {ns : Int | 32 ∣ ns ∧ clampedLen frameLen.toInt ≤ ns} ((frameField prog + 1) * 32)
  monotone : ∀ frameLen' prog', frameLen'.toInt ≤ frameLen.toInt →
    lib.vtpStreamingSetEbCfg mask nstreams frameLen' rocId ppInfo r = some prog' →
    frameField prog' ≤ frameField prog
  fits : ebFrame.Holds (frameTicks frameLen)
  reset : ebReset.get prog.streamingEb.ctrl = 1#32
  ports : ebPorts.get prog.streamingEb.ctrl = mask &&& 0xffff#32

/-! ## Arithmetic -/

/-- Only the first addition can leave the type. -/
theorem frameSteps_fit {frameLen : Int} (hlo : -2 ^ 31 ≤ frameLen) :
    (∀ x ∈ frameSteps frameLen, FitsInt x) ↔ frameLen + 31 < 2 ^ 31 := by
  constructor
  · intro h
    exact (h _ List.mem_cons_self).2
  · intro hadd
    obtain ⟨hpos, hneg⟩ := tdiv_mul_bounds (frameLen + 31)
    have hticks : -2 ^ 31 ≤ (frameLen + 31).tdiv 32 * 32 - 1 ∧
        (frameLen + 31).tdiv 32 * 32 ≤ 2 ^ 31 - 32 := by
      rcases Int.lt_or_le (frameLen + 31) 0 with h | h
      · obtain ⟨hge, hle⟩ := hneg h
        omega
      · have heq := hpos h
        omega
    simp only [frameSteps, FitsInt, List.forall_mem_cons, List.not_mem_nil, false_implies,
      implies_true, and_true]
    omega

/-- Rounded up to a multiple. -/
theorem roundUp_isLeast (L : Int) {m : Int} (hm : 0 < m) :
    IsLeast {k : Int | m ∣ k ∧ L ≤ k} ((L + (m - 1)) / m * m) := by
  have hmod := Int.emod_add_mul_ediv (L + (m - 1)) m
  have hlt := Int.emod_lt_of_pos (L + (m - 1)) hm
  rw [Int.mul_comm] at hmod
  refine ⟨⟨Int.dvd_mul_left _ _, by omega⟩, ?_⟩
  rintro k ⟨⟨q, rfl⟩, hle⟩
  have hquot : (L + (m - 1)) / m ≤ q := by
    rw [← Int.lt_add_one_iff]
    apply Int.ediv_lt_of_lt_mul hm
    rw [Int.add_mul, Int.one_mul, Int.mul_comm q]
    omega
  rw [Int.mul_comm m]
  exact Int.mul_le_mul_of_nonneg_right hquot (Int.le_of_lt hm)

/-- The ticks that are programmed, less one, from the lower bound on. -/
theorem frameNs_clamped (frameLen : Int) :
    frameNs frameLen = (clampedLen frameLen + 31) / 32 * 32 ↔ 1024 < frameLen := by
  rw [frameNs, clampedLen]
  omega

theorem frameNs_mono {a b : Int} (h : a ≤ b) : frameNs a ≤ frameNs b := by
  rw [frameNs, frameNs]
  omega

/-! ## The call -/

section Call

variable {lib : VtpLib} {mask nstreams frameLen rocId : Word} {ppInfo : Option PpInfo}
  {r prog : Regs}

theorem setEbCfg_ctrl
    (programmed : lib.vtpStreamingSetEbCfg mask nstreams frameLen rocId ppInfo r = some prog) :
    prog.streamingEb.ctrl =
      0x80000000#32 ||| (frameTicks frameLen <<< 16) ||| (mask &&& 0xffff#32) := by
  rw [vtpStreamingSetEbCfg, onTypes] at programmed
  split at programmed
  · rw [← Option.some.inj programmed]
  · cases programmed

theorem frameField_eq
    (programmed : lib.vtpStreamingSetEbCfg mask nstreams frameLen rocId ppInfo r = some prog) :
    frameField prog = (frameTicks frameLen).toNat := by
  rw [frameField, setEbCfg_ctrl programmed]
  exact congrArg _ (ebCtrl_fields mask frameLen _ (.tail _ (.head _)))

/-- What the field encodes where the addition does not overflow. -/
theorem frameField_frameNs (hadd : frameLen.toInt + 31 < 2 ^ 31)
    (programmed : lib.vtpStreamingSetEbCfg mask nstreams frameLen rocId ppInfo r = some prog) :
    ((frameField prog + 1) * 32 : Int) = frameNs frameLen.toInt := by
  have hlt : frameLen.toInt < 2 ^ 31 - 31 := by omega
  have hticks := frameTicks_frameNs hlt
  rw [frameField_eq programmed]
  omega

end Call

/-- The length is encoded as asked above 1024 ns, up to the last length that can be rounded
within an `int`. -/
theorem frame_length_iff (lib : VtpLib) (mask nstreams frameLen rocId : Word)
    (ppInfo : Option PpInfo) (r prog : Regs)
    (programmed : lib.vtpStreamingSetEbCfg mask nstreams frameLen rocId ppInfo r = some prog) :
    EncodesLength lib mask nstreams frameLen rocId ppInfo r prog ↔
      1024 < frameLen.toInt ∧ frameLen.toInt ≤ 2 ^ 31 - 1 - 31 := by
  have hfits := frameSteps_fit frameLen.le_toInt
  constructor
  · intro h
    have hadd := hfits.1 h.noOverflow
    have hns := frameField_frameNs hadd programmed
    refine ⟨(frameNs_clamped frameLen.toInt).1 ?_, by omega⟩
    rw [← hns, h.field]
    omega
  · rintro ⟨hlo, hhi⟩
    have hadd : frameLen.toInt + 31 < 2 ^ 31 := by omega
    have hns := frameField_frameNs hadd programmed
    have hclamped := (frameNs_clamped frameLen.toInt).2 hlo
    obtain ⟨hmin, hmax⟩ := frameTicks_range frameLen
    have hctrl := setEbCfg_ctrl programmed
    have hfields := ebCtrl_fields mask frameLen
    constructor
    · exact hfits.2 hadd
    · omega
    · rw [hns, hclamped]
      exact roundUp_isLeast (clampedLen frameLen.toInt) (by decide)
    · intro frameLen' prog' hle programmed'
      have hns' := frameField_frameNs (by omega) programmed'
      have hmono := frameNs_mono hle
      omega
    · exact (BitField.holds_iff _ _).2 (Nat.lt_of_le_of_lt hmax (by decide))
    · rw [hctrl]
      exact hfields _ (.head _)
    · rw [hctrl]
      exact hfields _ (.tail _ (.tail _ (.head _)))

/-- The length that prestart asks for. -/
theorem frame_length_prestart :
    streamingLib.vtpStreamingSetEbCfg 0x3#32 1#32 0xffff#32 5#32 none default =
        some (call (streamingLib.vtpStreamingSetEbCfg 0x3#32 1#32 0xffff#32 5#32 none) default) ∧
      EncodesLength streamingLib 0x3#32 1#32 0xffff#32 5#32 none default
        (call (streamingLib.vtpStreamingSetEbCfg 0x3#32 1#32 0xffff#32 5#32 none) default) := by
  have programmed : streamingLib.vtpStreamingSetEbCfg 0x3#32 1#32 0xffff#32 5#32 none default =
      some (call (streamingLib.vtpStreamingSetEbCfg 0x3#32 1#32 0xffff#32 5#32 none) default) := rfl
  exact ⟨programmed, (frame_length_iff _ _ _ _ _ _ _ _ programmed).2 (by decide)⟩

/-- At the lower bound the field is 32, and 1056 ns are programmed for 1024. -/
theorem frame_length_1024 :
    frameField (call (streamingLib.vtpStreamingSetEbCfg 0x3#32 1#32 1024#32 5#32 none) default) = 32 ∧
      ¬ EncodesLength streamingLib 0x3#32 1#32 1024#32 5#32 none default
        (call (streamingLib.vtpStreamingSetEbCfg 0x3#32 1#32 1024#32 5#32 none) default) := by
  have hfield : frameField
      (call (streamingLib.vtpStreamingSetEbCfg 0x3#32 1#32 1024#32 5#32 none) default) = 32 := by
    decide
  refine ⟨hfield, fun h => ?_⟩
  have hceil := h.field
  rw [hfield] at hceil
  exact absurd hceil (by decide)

end VtpStreaming
