import Mathlib.Data.List.Basic

/-!
# The last word of a history

A history of calls, some of which set a value: the value is what the last of these has
set.
-/

namespace Clib

variable {γ α : Type}

/-- What the last call to set it has set, `a` when none has. -/
def latest (f : γ → Option α) (a : α) (calls : List γ) : α := (calls.filterMap f).getLast?.getD a

theorem latest_cons (f : γ → Option α) (a : α) (c : γ) (calls : List γ) :
    latest f a (c :: calls) = latest f ((f c).getD a) calls := by
  rw [latest, latest]
  cases hc : f c with
  | none => rw [List.filterMap_cons_none hc, Option.getD_none]
  | some b =>
    rw [List.filterMap_cons_some hc, List.getLast?_cons, Option.getD_some, Option.getD_some]

theorem latest_append (f : γ → Option α) (a : α) (calls more : List γ) :
    latest f a (calls ++ more) = latest f (latest f a calls) more := by
  induction calls generalizing a with
  | nil => rfl
  | cons c calls ih => rw [List.cons_append, latest_cons, latest_cons, ih]

theorem latest_concat (f : γ → Option α) (a : α) (calls : List γ) (c : γ) :
    latest f a (calls ++ [c]) = (f c).getD (latest f a calls) := by
  rw [latest_append, latest_cons]
  rfl

end Clib
