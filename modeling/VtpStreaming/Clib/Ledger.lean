import Mathlib.Algebra.Order.Group.Multiset
import Mathlib.Tactic.Abel

/-!
# Ledgers

What a component has taken and not given back is what it holds and what it has lost.
-/

namespace Clib

variable {α ι : Type}

def Settles (taken given held lost : List α) : Prop := taken.Perm (given ++ held ++ lost)

section

variable {taken given held lost xs ys zs : List α}

theorem settles_iff : Settles taken given held lost ↔
    (taken : Multiset α) = (given : Multiset α) + held + lost := by
  rw [Settles, ← Multiset.coe_eq_coe, Multiset.coe_add, Multiset.coe_add]

theorem Settles.start : Settles ([] : List α) [] [] [] := List.Perm.refl []

/-- More is taken. Some of it is held now, and what was held before is lost with the rest. -/
theorem Settles.acquire (h : Settles taken given held lost) (hxs : xs.Perm (ys ++ zs)) :
    Settles (taken ++ xs) given ys (lost ++ (held ++ zs)) := by
  rw [settles_iff] at h ⊢
  have hmore : (xs : Multiset α) = (ys : Multiset α) + zs := Multiset.coe_eq_coe.mpr hxs
  rw [← Multiset.coe_add, ← Multiset.coe_add, ← Multiset.coe_add, h, hmore]
  abel

/-- All that is held is let go, and some of it given back. -/
theorem Settles.release (h : Settles taken given held lost) (hheld : held.Perm (ys ++ zs)) :
    Settles taken (given ++ ys) [] (lost ++ zs) := by
  rw [settles_iff] at h ⊢
  have hall : (held : Multiset α) = (ys : Multiset α) + zs := Multiset.coe_eq_coe.mpr hheld
  rw [← Multiset.coe_add, ← Multiset.coe_add, Multiset.coe_nil, h, hall]
  abel

/-- What is given back is held all the same, so it counts as taken once more. -/
theorem Settles.again (h : Settles taken given held lost) :
    Settles (taken ++ ys) (given ++ ys) held lost := by
  rw [settles_iff] at h ⊢
  rw [← Multiset.coe_add, ← Multiset.coe_add, h]
  abel

theorem Settles.of_perm {taken' : List α} (h : Settles taken given held lost)
    (hperm : taken'.Perm taken) : Settles taken' given held lost :=
  hperm.trans h

end

theorem flatMap_filter (p : ι → Bool) (f : ι → List α) (l : List ι) :
    (l.filter p).flatMap f = l.flatMap fun i => if p i then f i else [] := by
  induction l with
  | nil => rfl
  | cons i l ih =>
    rw [List.filter_cons, List.flatMap_cons, ← ih]
    split
    · rfl
    · rfl

/-- What is taken piece by piece. -/
theorem perm_flatMap_split {l : List ι} {f g k : ι → List α} (h : ∀ i ∈ l, f i = g i ++ k i) :
    (l.flatMap f).Perm (l.flatMap g ++ l.flatMap k) := by
  rw [List.flatMap_congr h]
  exact (List.flatMap_append_perm l g k).symm

end Clib
