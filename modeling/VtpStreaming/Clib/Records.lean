import Mathlib.Data.List.Basic

/-!
# A stream of records

A stream is taken apart record by record, each of which tells where it ends. What was
written record by record is read back.
-/

namespace Clib

variable {α β : Type}

/-- The records of a stream, the last of which ends with it. The number bounds how many
there are. -/
def records (take : List β → Option (α × List β)) : Nat → List β → Option (List α)
  | _, [] => some []
  | 0, _ :: _ => none
  | n + 1, b :: bs => (take (b :: bs)).bind fun r => (records take n r.2).map (r.1 :: ·)

variable {take : List β → Option (α × List β)} {put : α → List β}

theorem records_step {n : Nat} {a : α} {bs rest : List β} (hne : bs ≠ [])
    (h : take bs = some (a, rest)) :
    records take (n + 1) bs = (records take n rest).map (a :: ·) := by
  cases bs with
  | nil => exact absurd rfl hne
  | cons b bs =>
    rw [records, h, Option.bind_some]

/-- No record is empty, so that a stream has at most as many as it is long. -/
theorem length_le_flatMap {as : List α} (hne : ∀ a ∈ as, put a ≠ []) :
    as.length ≤ (as.flatMap put).length := by
  induction as with
  | nil => exact Nat.le_refl 0
  | cons a as ih =>
    obtain ⟨hput, hputs⟩ := List.forall_mem_cons.mp hne
    have hpos := List.length_pos_of_ne_nil hput
    have hrest := ih hputs
    rw [List.flatMap_cons, List.length_append, List.length_cons]
    omega

/-- What was put is taken. -/
theorem records_flatMap {as : List α} {n : Nat} (hn : as.length ≤ n)
    (hne : ∀ a ∈ as, put a ≠ [])
    (h : ∀ a ∈ as, ∀ rest, take (put a ++ rest) = some (a, rest)) :
    records take n (as.flatMap put) = some as := by
  induction as generalizing n with
  | nil => cases n <;> rfl
  | cons a as ih =>
    cases n with
    | zero => exact absurd hn (Nat.not_succ_le_zero _)
    | succ n =>
      obtain ⟨hput, hputs⟩ := List.forall_mem_cons.mp hne
      obtain ⟨hone, hmore⟩ := List.forall_mem_cons.mp h
      have hfront : put a ++ as.flatMap put ≠ [] := by
        intro hnil
        exact hput (List.append_eq_nil_iff.mp hnil).1
      rw [List.flatMap_cons, records_step hfront (hone _),
        ih (Nat.le_of_succ_le_succ hn) hputs hmore]
      rfl

end Clib
