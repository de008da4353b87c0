import VtpStreaming.Clib.BusProg

/-!
# Programs without a loop

A program that has no loop head comes to its end in one go when the device does not move
by itself.
-/

namespace Clib

variable {R W L δ : Type}

namespace BusProg

/-- The code that is returned and the device, none at a loop head. -/
def exec (bus : Bus R W δ) : BusProg R W L → δ → Option (Int × δ)
  | .ret code, d => some (code, d)
  | .read r k, d => exec bus (k (bus.read d r).1) (bus.read d r).2
  | .write w x k, d => exec bus k (bus.write d w x)
  | .loop _, _ => none

theorem exec_writeAll (bus : Bus R W δ) (w : W) (xs : List Word) (k : BusProg R W L) (d : δ) :
    (writeAll w xs k).exec bus d = k.exec bus (xs.foldl (fun d x => bus.write d w x) d) := by
  induction xs generalizing d with
  | nil => rfl
  | cons x xs ih => exact ih (bus.write d w x)

end BusProg

end Clib
