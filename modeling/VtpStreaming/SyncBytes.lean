import VtpStreaming.StatsSender

/-!
# The bytes of a sync packet

`rol/vtp_stream3_1udp_vg.c`, `_vtp_stats_sender_main`. `setSyncData` writes the first
28 bytes of `buf`, and `sendto` takes as many as the configuration asks for, up to
the 256 of the array.
-/

namespace VtpStreaming

open Clib

/-! ## Two runs -/

/-- The passes of two runs find the same but for the contents of `buf`, an array of
256 bytes on the stack. -/
structure SameButStack (pktLen : Int) (passes passes' : Nat → SenderPass) : Prop where
  frameCnt : ∀ n, (passes n).frameCnt = (passes' n).frameCnt
  evtRate : ∀ n, (passes n).evtRate = (passes' n).evtRate
  left : ∀ n, (passes n).pktLen = pktLen ∧ (passes n).buf.length = 256
  right : ∀ n, (passes' n).pktLen = pktLen ∧ (passes' n).buf.length = 256

/-- The datagrams of a run do not depend on what was on the stack. -/
def StackIndependent (lib : VtpLib) (inst : Int) (srcId : Word) (pktLen : Int) : Prop :=
  ∀ first passes passes', SameButStack pktLen passes passes' → ∀ n,
    (senderSend lib inst srcId first passes n).datagram =
      (senderSend lib inst srcId first passes' n).datagram

/-! ## The packet -/

section Packet

variable (version srcId evtRate : Word) (evtNum nanos : DWord)

/-- The 28 bytes, and what was behind them. -/
theorem setSyncData_split (buffer : List Byte) :
    setSyncData buffer version srcId evtNum evtRate nanos =
      setSyncData [] version srcId evtNum evtRate nanos ++ buffer.drop 28 := by
  simp [setSyncData_eq]

theorem setSyncData_length :
    (setSyncData [] version srcId evtNum evtRate nanos).length = 28 := by
  simp [setSyncData_eq]

/-- Up to 28 bytes, the packet is what `setSyncData` has written. -/
theorem take_setSyncData (buffer : List Byte) {k : Nat} (h : k ≤ 28) :
    (setSyncData buffer version srcId evtNum evtRate nanos).take k =
      (setSyncData [] version srcId evtNum evtRate nanos).take k := by
  rw [setSyncData_split, List.take_append_of_le_length]
  rwa [setSyncData_length]

/-- Byte 28 is one that nothing has written. -/
theorem take_setSyncData_next (buffer : List Byte) {k : Nat} (h : 28 < k) :
    ((setSyncData buffer version srcId evtNum evtRate nanos).take k)[28]? = buffer[28]? := by
  rw [setSyncData_split, List.getElem?_take_of_lt h, List.getElem?_append_right] <;>
    rw [setSyncData_length]
  rw [List.getElem?_drop]

end Packet

/-! ## The runs -/

section Runs

variable {lib : VtpLib} {inst : Int} {srcId : Word} {pktLen : Int} (first : Fin 4 → Word)
  {passes passes' : Nat → SenderPass}

/-- The counters are tracked alike. -/
theorem senderState_same (same : SameButStack pktLen passes passes') (n : Nat) :
    senderState lib inst srcId first passes n = senderState lib inst srcId first passes' n := by
  induction n with
  | zero => rfl
  | succ n ih => simp only [senderState, senderPass, ih, same.frameCnt n]

/-- A datagram of at most 28 bytes is the same whatever was on the stack. -/
theorem senderSend_same (same : SameButStack pktLen passes passes') (h : pktLen ≤ 28) (n : Nat) :
    (senderSend lib inst srcId first passes n).datagram =
      (senderSend lib inst srcId first passes' n).datagram := by
  have hlen : ¬ pktLen > 256 := by omega
  have hshort : pktLen.toNat ≤ 28 := by omega
  simp only [senderSend, senderPass, senderState_same first same n, same.frameCnt n,
    same.evtRate n, (same.left n).1, (same.right n).1, if_neg hlen]
  split
  · rfl
  · rw [take_setSyncData _ _ _ _ _ (passes n).buf hshort,
      take_setSyncData _ _ _ _ _ (passes' n).buf hshort]

/-- Byte 28 of a longer datagram comes from the stack. -/
theorem senderPass_byte {s : StatsSender} {pass : SenderPass} (h : 28 < pass.pktLen) :
    ∃ d, (senderPass lib inst srcId s pass).2.datagram = some d ∧ d[28]? = pass.buf[28]? := by
  have hsome : ¬ (if pass.pktLen > 256 then 256 else pass.pktLen) < 0 := by
    split <;> omega
  have hlong : 28 < (if pass.pktLen > 256 then 256 else pass.pktLen).toNat := by
    split <;> omega
  simp only [senderPass, if_neg hsome]
  exact ⟨_, rfl, take_setSyncData_next _ _ _ _ _ _ hlong⟩

end Runs

/-- A pass at frame 0 with one byte all over the stack. -/
def filledPass (pktLen : Int) (fill : Byte) : SenderPass where
  frameCnt _ := 0#32
  evtRate _ := 0#32
  pktLen := pktLen
  buf := List.replicate 256 fill

theorem filled_same (pktLen : Int) (fill fill' : Byte) :
    SameButStack pktLen (fun _ => filledPass pktLen fill) (fun _ => filledPass pktLen fill') where
  frameCnt _ := rfl
  evtRate _ := rfl
  left _ := ⟨rfl, List.length_replicate⟩
  right _ := ⟨rfl, List.length_replicate⟩

/-- A longer datagram shows the stack in its first pass. -/
theorem filled_datagrams (lib : VtpLib) (inst : Int) (srcId : Word) {pktLen : Int}
    (h : 28 < pktLen) :
    (senderSend lib inst srcId (fun _ => 0#32) (fun _ => filledPass pktLen 0#8) 0).datagram ≠
      (senderSend lib inst srcId (fun _ => 0#32) (fun _ => filledPass pktLen 1#8) 0).datagram := by
  intro heq
  have hfirst (fill : Byte) : ∃ d, (senderSend lib inst srcId (fun _ => 0#32)
      (fun _ => filledPass pktLen fill) 0).datagram = some d ∧ d[28]? = some fill := by
    obtain ⟨d, hd, hbyte⟩ : ∃ d, (senderPass lib inst srcId (senderStart lib inst fun _ => 0#32)
        (filledPass pktLen fill)).2.datagram = some d ∧ _ := senderPass_byte h
    have hfill : (List.replicate 256 fill)[28]? = some fill :=
      List.getElem?_replicate.trans (if_pos (by decide))
    exact ⟨d, hd, hbyte.trans hfill⟩
  obtain ⟨d, hd, hzero⟩ := hfirst 0#8
  obtain ⟨d', hd', hone⟩ := hfirst 1#8
  rw [hd, hd', Option.some.injEq] at heq
  rw [heq, hone] at hzero
  exact absurd hzero (by decide)

/-- A sync packet carries nothing but its own data exactly when it is no longer than
they are. -/
theorem sync_stack_independent_iff (lib : VtpLib) (inst : Int) (srcId : Word) (pktLen : Int) :
    StackIndependent lib inst srcId pktLen ↔ pktLen ≤ 28 := by
  constructor
  · intro h
    by_contra hlong
    exact filled_datagrams lib inst srcId (Int.not_le.mp hlong)
      (h _ _ _ (filled_same pktLen 0#8 1#8) 0)
  · intro hshort first passes passes' same n
    exact senderSend_same first same hshort n

/-- 29 bytes, which the configuration may ask for, are one too many. -/
theorem sync_byte_from_stack : ¬ StackIndependent streamingLib 0 5#32 29 := by
  intro h
  exact filled_datagrams streamingLib 0 5#32 (by decide)
    (h _ _ _ (filled_same 29 0#8 1#8) 0)

end VtpStreaming
