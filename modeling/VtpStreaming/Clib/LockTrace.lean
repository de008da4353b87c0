import Mathlib.Data.List.Basic

/-!
# Calls around a lock

A run leaves a trace of what it did: calls that take or give back a lock, and
others. It is balanced when it gives back what it took and nothing else.
-/

namespace Clib

inductive LockStep (ε : Type)
  | lock
  | unlock
  | other (e : ε)
deriving DecidableEq

variable {ε : Type} {t u : List (LockStep ε)} {m n : Nat}

/-- How often the lock is held after the trace. There is no answer when it is given back
without being held. -/
def held : Nat → List (LockStep ε) → Option Nat
  | n, [] => some n
  | n, .lock :: t => held (n + 1) t
  | 0, .unlock :: _ => none
  | n + 1, .unlock :: t => held n t
  | n, .other _ :: t => held n t

/-- What is done between taking the lock and giving it back. -/
def bracket (es : List ε) : List (LockStep ε) := .lock :: (es.map .other ++ [.unlock])

/-- Nothing is given back that the trace has not taken, and nothing is kept. -/
def Balanced (t : List (LockStep ε)) : Prop := held 0 t = some 0

instance : Decidable (Balanced t) := inferInstanceAs (Decidable (held 0 t = some 0))

theorem held_append : held n (t ++ u) = (held n t).bind fun m => held m u := by
  induction t generalizing n with
  | nil => rfl
  | cons step t ih =>
    cases step with
    | lock => exact ih
    | other e =>
      cases n with
      | zero => exact ih
      | succ n => exact ih
    | unlock =>
      cases n with
      | zero => rfl
      | succ n => exact ih

theorem held_others (es : List ε) : held n (es.map LockStep.other) = some n := by
  induction es with
  | nil => cases n <;> rfl
  | cons e es ih =>
    rw [List.map_cons]
    cases n with
    | zero => exact ih
    | succ n => exact ih

/-- What is done under the lock does not matter. -/
theorem balanced_bracket (es : List ε) : Balanced (bracket es) := by
  unfold Balanced bracket
  rw [held, held_append, held_others]
  rfl

theorem Balanced.append (ht : Balanced t) (hu : Balanced u) : Balanced (t ++ u) := by
  unfold Balanced
  rw [held_append, ht]
  exact hu

theorem balanced_others (es : List ε) : Balanced (es.map LockStep.other) := held_others es

end Clib
