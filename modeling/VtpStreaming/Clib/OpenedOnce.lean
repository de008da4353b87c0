import Mathlib.Data.List.Induction

/-!
# Opened once

A history of calls, some of which acquire a thing, which can then be of use or not, and
some of which give it back. Who keeps the name of what was given back never acquires it
again.
-/

namespace Clib

variable {γ : Type}

inductive Latch
  | fresh
  | live
  | spent
deriving DecidableEq

section

variable (gets uses closes : γ → Bool)

def Latch.step : Latch → γ → Latch
  | .fresh, c => if gets c then if uses c then .live else .spent else .fresh
  | .live, c => if closes c then .spent else .live
  | .spent, _ => .spent

def Latch.after (calls : List γ) : Latch := calls.foldl (Latch.step gets uses closes) .fresh

/-- The first call to acquire it found it of use, and none has given it back since. -/
def OpenedOnce (calls : List γ) : Prop :=
  ∃ pre c post, calls = pre ++ c :: post ∧ (∀ d ∈ pre, gets d = false) ∧
    gets c = true ∧ uses c = true ∧ ∀ d ∈ post, closes d = false

end

variable {gets uses closes : γ → Bool}

theorem Latch.after_concat (calls : List γ) (c : γ) :
    Latch.after gets uses closes (calls ++ [c]) =
      (Latch.after gets uses closes calls).step gets uses closes c := by
  rw [Latch.after, List.foldl_append]
  rfl

theorem Latch.fresh_iff (calls : List γ) :
    Latch.after gets uses closes calls = .fresh ↔ ∀ d ∈ calls, gets d = false := by
  induction calls using List.reverseRecOn with
  | nil => exact iff_of_true rfl (List.forall_mem_nil _)
  | append_singleton calls c ih =>
    rw [Latch.after_concat, List.forall_mem_append, List.forall_mem_singleton, ← ih]
    cases h : Latch.after gets uses closes calls with
    | fresh =>
      cases hc : gets c with
      | false => simp [Latch.step, hc]
      | true =>
        cases hu : uses c with
        | false => simp [Latch.step, hc, hu]
        | true => simp [Latch.step, hc, hu]
    | live =>
      cases hc : closes c with
      | false => simp [Latch.step, hc]
      | true => simp [Latch.step, hc]
    | spent => simp [Latch.step]

/-- What came before the last call. -/
theorem OpenedOnce.concat_iff (calls : List γ) (c : γ) :
    OpenedOnce gets uses closes (calls ++ [c]) ↔
      (OpenedOnce gets uses closes calls ∧ closes c = false) ∨
        ((∀ d ∈ calls, gets d = false) ∧ gets c = true ∧ uses c = true) := by
  constructor
  · rintro ⟨pre, b, post, hcalls, hpre, hb, hu, hpost⟩
    rcases List.eq_nil_or_concat post with rfl | ⟨post, d, rfl⟩
    · obtain ⟨rfl, hbc⟩ := List.append_inj' hcalls rfl
      obtain rfl : c = b := (List.cons.inj hbc).1
      exact Or.inr ⟨hpre, hb, hu⟩
    · rw [List.concat_eq_append] at hcalls hpost
      have hsplit : calls ++ [c] = (pre ++ b :: post) ++ [d] := by
        rw [hcalls, List.append_assoc]
        rfl
      obtain ⟨rfl, hdc⟩ := List.append_inj' hsplit rfl
      obtain rfl : c = d := (List.cons.inj hdc).1
      have hkept := List.forall_mem_append.mp hpost
      exact Or.inl ⟨⟨pre, b, post, rfl, hpre, hb, hu, hkept.1⟩,
        hkept.2 c (List.mem_singleton_self c)⟩
  · rintro (⟨⟨pre, b, post, rfl, hpre, hb, hu, hpost⟩, hc⟩ | ⟨hpre, hc, hu⟩)
    · refine ⟨pre, b, post ++ [c], List.append_assoc _ _ _, hpre, hb, hu, ?_⟩
      exact List.forall_mem_append.mpr ⟨hpost, List.forall_mem_singleton.mpr hc⟩
    · exact ⟨calls, c, [], rfl, hpre, hc, hu, List.forall_mem_nil _⟩

theorem Latch.live_iff (calls : List γ) :
    Latch.after gets uses closes calls = .live ↔ OpenedOnce gets uses closes calls := by
  induction calls using List.reverseRecOn with
  | nil =>
    refine iff_of_false Latch.noConfusion ?_
    rintro ⟨pre, b, post, hcalls, -⟩
    exact absurd hcalls (List.append_ne_nil_of_right_ne_nil pre (List.cons_ne_nil b post)).symm
  | append_singleton calls c ih =>
    rw [Latch.after_concat, OpenedOnce.concat_iff, ← ih, ← Latch.fresh_iff]
    cases h : Latch.after gets uses closes calls with
    | fresh =>
      cases hc : gets c with
      | false => simp [Latch.step, hc]
      | true =>
        cases hu : uses c with
        | false => simp [Latch.step, hc, hu]
        | true => simp [Latch.step, hc, hu]
    | live =>
      cases hc : closes c with
      | false => simp [Latch.step, hc]
      | true => simp [Latch.step, hc]
    | spent => simp [Latch.step]

end Clib
