import Mathlib.Data.List.Basic

/-!
# Stores made one after the other

A store of constants changes nothing when it is made again. A run of such
stores undoes none of them.
-/

namespace Clib

variable {α : Type}

/-- Stores, from the first on. -/
def storeAll (stores : List (α → α)) (a : α) : α := stores.foldl (fun a f => f a) a

/-- The store changes nothing when it is made again. -/
def Lasting (f : α → α) : Prop := ∀ a, f (f a) = f a

/-- When every state comes back after a lasting store, the store changes none. -/
theorem Lasting.eq_of_undone {f g : α → α} (hf : Lasting f) (h : ∀ a, g (f a) = a) (a : α) :
    f a = a := by
  have htwice := congrArg g (hf a)
  rwa [h, h] at htwice

/-- Lasting stores leave every state alone only if each of them does. -/
theorem storeAll_eq_self {stores : List (α → α)} (hlasting : ∀ f ∈ stores, Lasting f) :
    (∀ a, storeAll stores a = a) ↔ ∀ f ∈ stores, ∀ a, f a = a := by
  induction stores with
  | nil => exact ⟨fun _ => nofun, fun _ _ => rfl⟩
  | cons f stores ih =>
    rw [List.forall_mem_cons] at hlasting ⊢
    obtain ⟨hf, hstores⟩ := hlasting
    constructor
    · intro h
      have hfirst : ∀ a, f a = a := hf.eq_of_undone (g := storeAll stores) h
      refine ⟨hfirst, (ih hstores).mp ?_⟩
      intro a
      have ha := h a
      rwa [storeAll, List.foldl_cons, hfirst] at ha
    · rintro ⟨hfirst, hrest⟩ a
      rw [storeAll, List.foldl_cons, hfirst]
      exact (ih hstores).mpr hrest a

end Clib
