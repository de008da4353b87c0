import Mathlib.Data.List.FinRange
import Mathlib.Logic.Function.Basic

/-!
# Parts of a state

A state holds an array when the array can be read and replaced and these two obey
the usual laws. A loop that changes each cell once changes them all. A single part
is held the same way, and what works beside it leaves it alone.
-/

namespace Clib

open Function

structure Cells (σ ι α : Type) where
  get : σ → ι → α
  put : (ι → α) → σ → σ
  get_put : ∀ f s, get (put f s) = f
  put_put : ∀ f g s, put f (put g s) = put f s
  put_get : ∀ s, put (get s) s = s

namespace Cells

variable {σ ι α : Type} [DecidableEq ι]

/-- One cell is changed. -/
def modify (c : Cells σ ι α) (i : ι) (v : α → α) (s : σ) : σ :=
  c.put (update (c.get s) i (v (c.get s i))) s

theorem foldl_modify (c : Cells σ ι α) (v : ι → α → α) (l : List ι) (hnodup : l.Nodup) (s : σ) :
    l.foldl (fun s i => c.modify i (v i) s) s =
      c.put (fun i => if i ∈ l then v i (c.get s i) else c.get s i) s := by
  induction l generalizing s with
  | nil => simpa using (c.put_get s).symm
  | cons k l ih =>
    rw [List.nodup_cons] at hnodup
    obtain ⟨hk, hl⟩ := hnodup
    rw [List.foldl_cons, ih hl, modify, c.get_put, c.put_put]
    congr 1
    funext i
    by_cases hik : i = k
    · subst hik
      simp [hk]
    · simp [hik]

/-- The loop runs over every index. -/
theorem foldl_finRange {n : Nat} (c : Cells σ (Fin n) α) (v : Fin n → α → α) (s : σ) :
    (List.finRange n).foldl (fun s i => c.modify i (v i) s) s =
      c.put (fun i => v i (c.get s i)) s := by
  rw [c.foldl_modify v _ (List.nodup_finRange n)]
  simp

/-- A change of two arrays at once, at the same index. -/
theorem update_pair {β : Type} (f : ι → α) (g : ι → β) (i : ι) (a : α) (b : β) :
    update (fun k => (f k, g k)) i (a, b) = fun k => (update f i a k, update g i b k) := by
  funext k
  by_cases h : k = i
  · subst h
    simp
  · simp [h]

end Cells

/-! ## A single part -/

structure Part (σ α : Type) where
  get : σ → α
  put : α → σ → σ
  get_put : ∀ a s, get (put a s) = a
  put_put : ∀ a b s, put a (put b s) = put a s
  put_get : ∀ s, put (get s) s = s

namespace Part

variable {σ α : Type}

def modify (p : Part σ α) (f : α → α) (s : σ) : σ := p.put (f (p.get s)) s

/-- The function neither reads nor writes the part. -/
def Beside (p : Part σ α) (g : σ → σ) : Prop := ∀ a s, g (p.put a s) = p.put a (g s)

variable {p : Part σ α} {g : σ → σ}

theorem Beside.get (h : p.Beside g) (s : σ) : p.get (g s) = p.get s := by
  have hput := h (p.get s) s
  rw [p.put_get] at hput
  rw [hput, p.get_put]

theorem Beside.modify (h : p.Beside g) (f : α → α) (s : σ) :
    g (p.modify f s) = p.modify f (g s) := by
  rw [Part.modify, Part.modify, h, h.get]

/-- Two changes side by side are none together when each is none. -/
theorem modify_eq_self_iff (h : p.Beside g) (f : α → α) (s : σ) :
    p.modify f (g s) = s ↔ f (p.get s) = p.get s ∧ g s = s := by
  constructor
  · intro heq
    have hf : f (p.get s) = p.get s := by
      have hget := congrArg p.get heq
      rwa [Part.modify, p.get_put, h.get] at hget
    refine ⟨hf, ?_⟩
    rwa [Part.modify, h.get, hf, ← h.get s, p.put_get] at heq
  · rintro ⟨hf, hg⟩
    rw [Part.modify, hg, hf, p.put_get]

end Part

end Clib
