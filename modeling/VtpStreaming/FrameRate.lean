import VtpStreaming.StatsSender

/-!
# The frame rate of the stats sender

`rol/vtp_stream3_1udp_vg.c`, `_vtp_stats_sender_main`. The rate that a pass advertises
comes from the difference of the extended counters. In the pass that sees the counter
wrap, the earlier one has been moved on before it is subtracted.
-/

namespace VtpStreaming

open Clib

section Definitions

variable (lib : VtpLib) (inst : Int)

/-- The number of frames from which a pass computes its rate. -/
def frameDifference (s : StatsSender) (pass : SenderPass) : DWord :=
  let curFcLow32 := vtpStreamingGetEbFrameCnt lib pass.frameCnt inst
  let prevFcExt := if curFcLow32.toNat < s.prevFcLow32.toNat then s.prevFcExt + 0x100000000#64
    else s.prevFcExt
  let fcExt := (prevFcExt &&& highHalf) ||| curFcLow32.setWidth 64
  if fcExt.toNat ≥ prevFcExt.toNat then fcExt - prevFcExt else 0#64

/-- The counter as the thread reads it: `0` before the loop, `n + 1` in pass `n`. -/
def counterReading (first : Fin 4 → Word) (passes : Nat → SenderPass) : Nat → Word
  | 0 => vtpStreamingGetEbFrameCnt lib first inst
  | n + 1 => vtpStreamingGetEbFrameCnt lib (passes n).frameCnt inst

/-- The low half of the extended counter is the last reading. -/
def LowHalf (s : StatsSender) : Prop := s.prevFcExt.toNat % 2 ^ 32 = s.prevFcLow32.toNat

variable (srcId : Word) (first : Fin 4 → Word) (passes : Nat → SenderPass)

/-- The number of frames from which pass `n` of a run computes its rate. -/
def passDifference (n : Nat) : DWord :=
  frameDifference lib inst (senderState lib inst srcId first passes n) (passes n)

/-- Pass `n` reckons with the frames between its reading and the one before, and never
with none while the counter moves. -/
structure RateOfFrames (n : Nat) : Prop where
  difference : passDifference lib inst srcId first passes n =
    (counterReading lib inst first passes (n + 1) -
      counterReading lib inst first passes n).setWidth 64
  flowing : counterReading lib inst first passes (n + 1) ≠ counterReading lib inst first passes n →
    passDifference lib inst srcId first passes n ≠ 0#64

/-- The counter shows less in pass `n` than before. -/
def WrapsAt (n : Nat) : Prop :=
  (counterReading lib inst first passes (n + 1)).toNat <
    (counterReading lib inst first passes n).toNat

end Definitions

/-! ## One pass -/

section Pass

variable {lib : VtpLib} {inst : Int} {srcId : Word} {s : StatsSender} {pass : SenderPass}

/-- The rate of a pass depends on this difference alone. -/
theorem senderPass_rate : senderPass lib inst srcId s pass =
    senderPass lib inst srcId s
      { pass with evtRate := fun _ => pass.evtRate (frameDifference lib inst s pass) } := rfl

theorem senderPass_reading : (senderPass lib inst srcId s pass).1.prevFcLow32 =
    vtpStreamingGetEbFrameCnt lib pass.frameCnt inst := rfl

theorem senderPass_lowHalf : LowHalf (senderPass lib inst srcId s pass).1 := by
  rw [LowHalf, senderPass_reading, senderPass]
  dsimp only
  rw [over_highHalf_toNat]
  have hlt := (vtpStreamingGetEbFrameCnt lib pass.frameCnt inst).isLt
  omega

/-- Without a wrap the two counters have the same upper half. -/
theorem frameDifference_of_le (hlow : LowHalf s)
    (hle : s.prevFcLow32.toNat ≤ (vtpStreamingGetEbFrameCnt lib pass.frameCnt inst).toNat) :
    frameDifference lib inst s pass =
      (vtpStreamingGetEbFrameCnt lib pass.frameCnt inst - s.prevFcLow32).setWidth 64 := by
  rw [frameDifference]
  generalize vtpStreamingGetEbFrameCnt lib pass.frameCnt inst = cur at hle ⊢
  have hext := over_highHalf_toNat s.prevFcExt cur
  have hge : s.prevFcExt.toNat ≤ (s.prevFcExt &&& highHalf ||| cur.setWidth 64 : DWord).toNat := by
    rw [LowHalf] at hlow
    omega
  simp only [Nat.not_lt.2 hle, if_false, ge_iff_le, hge, if_true]
  apply BitVec.eq_of_toNat_eq
  rw [BitVec.toNat_sub_of_le hge, hext, BitVec.toNat_setWidth, BitVec.toNat_sub_of_le hle]
  rw [LowHalf] at hlow
  have hcur := cur.isLt
  omega

/-- In the pass of a wrap the earlier counter has the new upper half and the old lower one,
so it is ahead. -/
theorem frameDifference_of_wrap (hlow : LowHalf s)
    (hwrap : (vtpStreamingGetEbFrameCnt lib pass.frameCnt inst).toNat < s.prevFcLow32.toNat) :
    frameDifference lib inst s pass = 0#64 := by
  rw [frameDifference]
  generalize vtpStreamingGetEbFrameCnt lib pass.frameCnt inst = cur at hwrap ⊢
  have hext := over_highHalf_toNat (s.prevFcExt + 0x100000000#64) cur
  have hmoved : (s.prevFcExt + 0x100000000#64).toNat % 2 ^ 32 = s.prevFcLow32.toNat := by
    have hstep : (0x100000000#64 : DWord).toNat = 2 ^ 32 := rfl
    rw [LowHalf] at hlow
    rw [BitVec.toNat_add, hstep]
    omega
  have hlt : ¬ (s.prevFcExt + 0x100000000#64).toNat ≤
      (s.prevFcExt + 0x100000000#64 &&& highHalf ||| cur.setWidth 64 : DWord).toNat := by
    omega
  simp only [hwrap, if_true, ge_iff_le, hlt, if_false]

end Pass

/-! ## Runs -/

section Run

variable {lib : VtpLib} {inst : Int} (srcId : Word) {first : Fin 4 → Word}
  {passes : Nat → SenderPass}

theorem senderState_reading (n : Nat) : (senderState lib inst srcId first passes n).prevFcLow32 =
    counterReading lib inst first passes n := by
  cases n with
  | zero => rfl
  | succ n => exact senderPass_reading

theorem senderState_lowHalf (n : Nat) :
    LowHalf (senderState lib inst srcId first passes n) := by
  cases n with
  | zero =>
    have hext : (senderState lib inst srcId first passes 0).prevFcExt.toNat =
        (vtpStreamingGetEbFrameCnt lib first inst).toNat :=
      BitVec.toNat_setWidth_of_le (by decide)
    rw [LowHalf, hext]
    exact Nat.mod_eq_of_lt (BitVec.isLt _)
  | succ n => exact senderPass_lowHalf

theorem passDifference_of_wrap {n : Nat} (hwrap : WrapsAt lib inst first passes n) :
    passDifference lib inst srcId first passes n = 0#64 := by
  rw [WrapsAt, ← senderState_reading srcId n] at hwrap
  exact frameDifference_of_wrap (senderState_lowHalf srcId n) hwrap

theorem passDifference_of_le {n : Nat} (hwrap : ¬ WrapsAt lib inst first passes n) :
    passDifference lib inst srcId first passes n =
      (counterReading lib inst first passes (n + 1) -
        counterReading lib inst first passes n).setWidth 64 := by
  rw [WrapsAt, Nat.not_lt] at hwrap
  rw [← senderState_reading srcId n] at hwrap ⊢
  exact frameDifference_of_le (senderState_lowHalf srcId n) hwrap

end Run

/-! ## The result -/

theorem difference_eq_zero {cur prev : Word}
    (h : (cur - prev).setWidth 64 = 0#64) : cur = prev := by
  have hnat := congrArg BitVec.toNat h
  rw [BitVec.toNat_setWidth, BitVec.toNat_sub] at hnat
  have hcur := cur.isLt
  have hprev := prev.isLt
  have hzero : (0#64 : DWord).toNat = 0 := rfl
  apply BitVec.eq_of_toNat_eq
  omega

/-- In every run, a pass reckons with the right number of frames unless it is the one that
sees the wrap. -/
theorem frame_rate_iff (lib : VtpLib) (inst : Int) (srcId : Word) (first : Fin 4 → Word)
    (passes : Nat → SenderPass) (n : Nat) :
    RateOfFrames lib inst srcId first passes n ↔ ¬ WrapsAt lib inst first passes n := by
  constructor
  · rintro ⟨-, hflowing⟩ hwrap
    refine hflowing (fun heq => ?_) (passDifference_of_wrap srcId hwrap)
    rw [WrapsAt, heq] at hwrap
    exact Nat.lt_irrefl _ hwrap
  · intro hle
    have hdiff := passDifference_of_le srcId hle
    exact ⟨hdiff, fun hmoved hzero => hmoved (difference_eq_zero (hdiff.symm.trans hzero))⟩

/-- At 3000000000 frames a pass the second pass sees the counter wrap, and reckons with
none. -/
theorem frame_rate_wrap :
    passDifference streamingLib 0 5#32 (fun _ => 0#32) (steadyPass 3000000000) 1 = 0#64 ∧
      counterReading streamingLib 0 (fun _ => 0#32) (steadyPass 3000000000) 2 -
        counterReading streamingLib 0 (fun _ => 0#32) (steadyPass 3000000000) 1 = 3000000000#32 ∧
      ¬ RateOfFrames streamingLib 0 5#32 (fun _ => 0#32) (steadyPass 3000000000) 1 := by
  have hzero : passDifference streamingLib 0 5#32 (fun _ => 0#32) (steadyPass 3000000000) 1 =
      0#64 := by decide
  refine ⟨hzero, by decide, fun hrate => ?_⟩
  exact hrate.flowing (by decide) hzero

end VtpStreaming
