import Mathlib.Logic.Basic

/-!
# Runs of a labelled transition system

A run is a list of labels with a path of steps. A property that one step
preserves holds at the end of every run.
-/

namespace Clib

variable {σ ℓ : Type} {step : σ → ℓ → σ → Prop} {s t u : σ} {ls ms : List ℓ}

/-- `Run step s ls t`: the steps labelled `ls` lead from `s` to `t`. -/
inductive Run (step : σ → ℓ → σ → Prop) : σ → List ℓ → σ → Prop
  | nil (s : σ) : Run step s [] s
  | cons {s t u : σ} {l : ℓ} {ls : List ℓ} :
      step s l t → Run step t ls u → Run step s (l :: ls) u

/-- The invariant rule. -/
theorem Run.invariant {Inv : σ → Prop}
    (preserved : ∀ s l t, Inv s → step s l t → Inv t)
    (run : Run step s ls t) (start : Inv s) : Inv t := by
  induction run with
  | nil => exact start
  | cons head _ ih => exact ih (preserved _ _ _ start head)

theorem Run.append (left : Run step s ls t) (right : Run step t ms u) :
    Run step s (ls ++ ms) u := by
  induction left with
  | nil => exact right
  | cons head _ ih => exact .cons head (ih right)

end Clib
