import VtpStreaming.SyncPacket
import VtpStreaming.VtpLib

/-!
# The stats sender

`rol/vtp_stream3_1udp_vg.c`, `_vtp_stats_sender_main`. Once a second the thread
reads the 32-bit frame counter, extends it to 64 bits by counting the wraps it
sees, and sends a sync packet with it.

The event rate is computed in floating point from the frame difference and the
elapsed time. It is a function that each pass of the loop brings along.
-/

namespace VtpStreaming

open Clib

/-- The stream that a call is about: 0 when the argument is out of range. -/
def streamIndex (stream : Int) : Fin 4 :=
  if h : 0 ≤ stream ∧ stream ≤ 3 then ⟨stream.toNat, by omega⟩ else 0

/-- `frameCnt` is the register `streamingEb.FrameCnt`. -/
def vtpStreamingGetEbFrameCnt (lib : VtpLib) (frameCnt : Fin 4 → Word) (stream : Int) : Word :=
  if !lib.ready vtpFwTypeFadcstream 0 then BitVec.ofInt 32 error
  else frameCnt (streamIndex stream)

/-- What the thread keeps from one pass to the next. -/
structure StatsSender where
  prevFcLow32 : Word
  prevFcExt : DWord
deriving DecidableEq, Repr

/-- What one pass finds: the counters, the rate for a frame difference at the
time elapsed, `vtpGetSyncPktLen` and the contents of `buf`. -/
structure SenderPass where
  frameCnt : Fin 4 → Word
  evtRate : DWord → Word
  pktLen : Int
  buf : List Byte

/-- What one pass sends. `sendto` takes no negative length. -/
structure SyncSend where
  fcExt : DWord
  timestampNs : DWord
  datagram : Option (List Byte)

def highHalf : DWord := 0xFFFFFFFF00000000#64

/-- Before the loop. -/
def senderStart (lib : VtpLib) (inst : Int) (frameCnt : Fin 4 → Word) : StatsSender :=
  let low := vtpStreamingGetEbFrameCnt lib frameCnt inst
  { prevFcLow32 := low, prevFcExt := low.setWidth 64 }

/-- One pass of the loop. -/
def senderPass (lib : VtpLib) (inst : Int) (srcId : Word) (s : StatsSender) (pass : SenderPass) :
    StatsSender × SyncSend :=
  let curFcLow32 := vtpStreamingGetEbFrameCnt lib pass.frameCnt inst
  -- a smaller value than the last one means that the counter has wrapped
  let prevFcExt := if curFcLow32.toNat < s.prevFcLow32.toNat then s.prevFcExt + 0x100000000#64
    else s.prevFcExt
  let fcExt := (prevFcExt &&& highHalf) ||| curFcLow32.setWidth 64
  -- after a wrap `prevFcExt` has already moved on
  let dframes := if fcExt.toNat ≥ prevFcExt.toNat then fcExt - prevFcExt else 0#64
  let evtRate := pass.evtRate dframes
  let timestampNs := fcExt * 65535#64
  let pktLen := if pass.pktLen > 256 then 256 else pass.pktLen
  let buf := setSyncData pass.buf 1#32 srcId fcExt evtRate timestampNs
  ({ prevFcLow32 := curFcLow32, prevFcExt := fcExt },
    { fcExt := fcExt
      timestampNs := timestampNs
      datagram := if pktLen < 0 then none else some (buf.take pktLen.toNat) })

section Run

variable (lib : VtpLib) (inst : Int) (srcId : Word) (first : Fin 4 → Word)
  (passes : Nat → SenderPass)

/-- The state at the top of pass `n`. -/
def senderState : Nat → StatsSender
  | 0 => senderStart lib inst first
  | n + 1 => (senderPass lib inst srcId (senderState n) (passes n)).1

/-- What pass `n` sends. -/
def senderSend (n : Nat) : SyncSend :=
  (senderPass lib inst srcId (senderState lib inst srcId first passes n) (passes n)).2

/-- The counter of the stream shows the number of frames modulo 2^32. `frames 0`
is the number at the read before the loop, `frames (n + 1)` at the read of pass
`n`. -/
structure CountsFrames (frames : Nat → Nat) : Prop where
  ready : lib.ready vtpFwTypeFadcstream 0
  start : first (streamIndex inst) = BitVec.ofNat 32 (frames 0)
  shows : ∀ n, (passes n).frameCnt (streamIndex inst) = BitVec.ofNat 32 (frames (n + 1))
  small : frames 0 < 2 ^ 32
  grows : ∀ n, frames n ≤ frames (n + 1)
  slow : ∀ n, frames (n + 1) - frames n < 2 ^ 32

end Run

/-! ## One pass -/

theorem and_highHalf (v : DWord) : v &&& highHalf = (hi32 v).setWidth 64 <<< 32 := by
  have hhigh : highHalf = BitVec.allOnes 64 <<< 32 := rfl
  apply BitVec.eq_of_getLsbD_eq
  intro i hi
  rw [hhigh, hi32]
  simp only [BitVec.getLsbD_and, BitVec.getLsbD_shiftLeft, BitVec.getLsbD_allOnes,
    BitVec.getLsbD_setWidth, BitVec.getLsbD_ushiftRight, hi, decide_true, Bool.true_and]
  by_cases hlow : i < 32
  · simp [hlow]
  · have hin : i - 32 < 64 ∧ i - 32 < 32 := by omega
    rw [show 32 + (i - 32) = i by omega]
    simp [hlow, hin]

/-- The upper half of one value over a lower half. -/
theorem over_highHalf_toNat (v : DWord) (low : Word) :
    ((v &&& highHalf) ||| low.setWidth 64 : DWord).toNat =
      low.toNat + 2 ^ 32 * (v.toNat / 2 ^ 32) := by
  rw [and_highHalf, join32_toNat, hi32_toNat]

/-- A counter that advances by less than its modulus has wrapped exactly when
it shows less than before. -/
theorem carry_of_wrap {m c c' : Nat} (hle : c ≤ c') (hlt : c' - c < m) :
    c' / m = c / m + if c' % m < c % m then 1 else 0 := by
  have hm : 0 < m := by omega
  have hc := Nat.div_add_mod c m
  have hc' := Nat.div_add_mod c' m
  have hmod := Nat.mod_lt c hm
  have hmod' := Nat.mod_lt c' hm
  have hdiv : c / m ≤ c' / m := Nat.div_le_div_right hle
  obtain ⟨k, hk⟩ := Nat.exists_eq_add_of_le hdiv
  rw [hk, Nat.mul_add] at hc'
  rw [hk]
  congr 1
  match k with
  | 0 => split <;> omega
  | 1 => split <;> omega
  | k + 2 =>
    have hbig : m * 2 ≤ m * (k + 2) := Nat.mul_le_mul_left m (by omega)
    omega

/-- What the thread keeps after a read at `c` frames. -/
structure Tracks (s : StatsSender) (c : Nat) : Prop where
  low : s.prevFcLow32.toNat = c % 2 ^ 32
  ext : s.prevFcExt.toNat = c % 2 ^ 64

/-- A pass that finds `c'` frames after `c` sends `c'` and keeps track of it. -/
theorem senderPass_tracks {lib : VtpLib} {inst : Int} {srcId : Word} {s : StatsSender}
    {pass : SenderPass} {c c' : Nat} (ready : lib.ready vtpFwTypeFadcstream 0)
    (shows : pass.frameCnt (streamIndex inst) = BitVec.ofNat 32 c') (hle : c ≤ c')
    (hlt : c' - c < 2 ^ 32) (tracks : Tracks s c) :
    Tracks (senderPass lib inst srcId s pass).1 c' ∧
      (senderPass lib inst srcId s pass).2.fcExt.toNat = c' % 2 ^ 64 := by
  have hcur : vtpStreamingGetEbFrameCnt lib pass.frameCnt inst = BitVec.ofNat 32 c' := by
    rw [vtpStreamingGetEbFrameCnt, if_neg (by simp [ready]), shows]
  have hcurNat : (BitVec.ofNat 32 c').toNat = c' % 2 ^ 32 := BitVec.toNat_ofNat c' 32
  have hext : ((if (BitVec.ofNat 32 c').toNat < s.prevFcLow32.toNat
      then s.prevFcExt + 0x100000000#64 else s.prevFcExt) &&& highHalf |||
        (BitVec.ofNat 32 c').setWidth 64 : DWord).toNat = c' % 2 ^ 64 := by
    have hcarry := carry_of_wrap hle hlt
    rw [over_highHalf_toNat, hcurNat, tracks.low]
    split
    · next hwrap =>
      rw [if_pos hwrap] at hcarry
      have hstep : (0x100000000#64 : DWord).toNat = 2 ^ 32 := rfl
      rw [BitVec.toNat_add, tracks.ext, hstep]
      omega
    · next hno =>
      rw [if_neg hno] at hcarry
      rw [tracks.ext]
      omega
  simp only [senderPass, hcur]
  exact ⟨⟨hcurNat, hext⟩, hext⟩

/-! ## Runs -/

section

variable {lib : VtpLib} {inst : Int} (srcId : Word) {first : Fin 4 → Word}
  {passes : Nat → SenderPass} {frames : Nat → Nat}

/-- The loop invariant. -/
theorem senderState_tracks (counts : CountsFrames lib inst first passes frames) (n : Nat) :
    Tracks (senderState lib inst srcId first passes n) (frames n) := by
  induction n with
  | zero =>
    have hread : vtpStreamingGetEbFrameCnt lib first inst = BitVec.ofNat 32 (frames 0) := by
      rw [vtpStreamingGetEbFrameCnt, if_neg (by simp [counts.ready]), counts.start]
    have hsmall := counts.small
    refine ⟨?_, ?_⟩
    · simp only [senderState, senderStart, hread, BitVec.toNat_ofNat]
    · simp only [senderState, senderStart, hread, BitVec.toNat_setWidth, BitVec.toNat_ofNat]
      omega
  | succ n ih =>
    exact (senderPass_tracks counts.ready (counts.shows n) (counts.grows n) (counts.slow n) ih).1

theorem senderSend_fcExt (counts : CountsFrames lib inst first passes frames) (n : Nat) :
    (senderSend lib inst srcId first passes n).fcExt.toNat = frames (n + 1) % 2 ^ 64 :=
  (senderPass_tracks counts.ready (counts.shows n) (counts.grows n) (counts.slow n)
    (senderState_tracks srcId counts n)).2

end

/-! ## The result -/

/-- In every run the number sent is the number of frames modulo 2^64, and the
loop keeps the low half of the extended counter equal to the last reading. As
long as fewer than 2^64 frames have gone by the numbers sent are exact and never
decrease. -/
theorem frame_counter_extended (lib : VtpLib) (inst : Int) (srcId : Word)
    (first : Fin 4 → Word) (passes : Nat → SenderPass) (frames : Nat → Nat)
    (counts : CountsFrames lib inst first passes frames) (n : Nat) :
    (senderSend lib inst srcId first passes n).fcExt.toNat = frames (n + 1) % 2 ^ 64 ∧
    (senderState lib inst srcId first passes n).prevFcExt.toNat % 2 ^ 32 =
      (senderState lib inst srcId first passes n).prevFcLow32.toNat ∧
    (frames (n + 1) < 2 ^ 64 →
      (senderSend lib inst srcId first passes n).fcExt.toNat = frames (n + 1) ∧
      ∀ m ≤ n, (senderSend lib inst srcId first passes m).fcExt.toNat ≤
        (senderSend lib inst srcId first passes n).fcExt.toNat) := by
  have hsend := senderSend_fcExt srcId counts n
  refine ⟨hsend, ?_, fun hsmall => ?_⟩
  · have htracks := senderState_tracks srcId counts n
    rw [htracks.ext, htracks.low]
    omega
  · have hexact := hsend.trans (Nat.mod_eq_of_lt hsmall)
    refine ⟨hexact, fun m hm => ?_⟩
    have hmono : frames (m + 1) ≤ frames (n + 1) :=
      monotone_nat_of_le_succ counts.grows (Nat.succ_le_succ hm)
    rw [hexact, senderSend_fcExt srcId counts m]
    exact (Nat.mod_le _ _).trans hmono

/-- The library on the V7 of a streaming VTP. -/
def streamingLib : VtpLib := { mapped := true, fwType := fun c => if c = 0 then 14 else 2 }

/-- A run at a constant number of frames per pass. -/
def steadyPass (step : Nat) (n : Nat) : SenderPass where
  frameCnt _ := BitVec.ofNat 32 ((n + 1) * step)
  evtRate _ := 0#32
  pktLen := 28
  buf := []

theorem steady_counts {step : Nat} (h : step < 2 ^ 32) :
    CountsFrames streamingLib 0 (fun _ => 0#32) (steadyPass step) (fun n => n * step) where
  ready := rfl
  start := by simp
  shows _ := rfl
  small := by simp
  grows n := Nat.mul_le_mul_right step (Nat.le_succ n)
  slow n := by
    rw [Nat.succ_mul]
    omega

/-- The second pass at 3000000000 frames each, after the first wrap. -/
theorem frame_counter_extended_wrap :
    (senderSend streamingLib 0 5#32 (fun _ => 0#32) (steadyPass 3000000000) 1).fcExt.toNat =
      6000000000 :=
  ((frame_counter_extended streamingLib 0 5#32 (fun _ => 0#32) (steadyPass 3000000000) _
    (steady_counts (by decide)) 1).2.2 (by decide)).1

/-- At 2^32 - 1 frames a pass the extended counter itself wraps. -/
theorem frame_counter_64_wraps :
    ¬ ∀ (passes : Nat → SenderPass) (frames : Nat → Nat),
      CountsFrames streamingLib 0 (fun _ => 0#32) passes frames →
      ∀ n, (senderSend streamingLib 0 5#32 (fun _ => 0#32) passes n).fcExt.toNat =
        frames (n + 1) := by
  intro hclaim
  have hcounts : CountsFrames streamingLib 0 (fun _ => 0#32) (steadyPass (2 ^ 32 - 1))
      (fun n => n * (2 ^ 32 - 1)) := steady_counts (by decide)
  have hsend := senderSend_fcExt 5#32 hcounts (2 ^ 32 + 1)
  rw [hclaim _ _ hcounts] at hsend
  exact absurd hsend (by decide)

end VtpStreaming
