import VtpStreaming.PrestartEb
import VtpStreaming.StatsSender

/-!
# The time of a frame

`rol/vtp_stream3_1udp_vg.c`. The stats sender and the trigger bank of `rocTrigger`
both give a frame the time of its number, and both take 65535 ns for a frame.
-/

namespace VtpStreaming

open Clib VtpLib

/-! ## The trigger bank -/

section Trigger

variable (lib : VtpLib) (inst : Int) (trigBankType evtype evtnum blklevel : Word)

end Trigger

section Result

variable (out : Prestarted) (inst : Int) (srcId : Word) (first : Fin 4 → Word)
  (passes : Nat → SenderPass) (frames : Nat → Nat) (evtype evtnum blklevel : Word) (ii n : Nat)

variable {out inst first passes frames}

variable {env : RocEnv} {s : RocState}

end Result

end VtpStreaming
