import Mathlib.Data.List.Forall2
import Mathlib.Data.List.TakeWhile

/-!
# Reading a text line by line

`fgets` with a buffer of `n + 1` characters hands out a line with its newline,
or `n` characters of a longer one. A text is a list of characters.
-/

namespace Clib

/-- The pieces that `fgets` hands out, at most `n` characters each. `acc` is the
piece so far. -/
def fgetsFrom (n : Nat) : List Char → List Char → List (List Char)
  | [], [] => []
  | acc, [] => [acc]
  | acc, c :: cs =>
      if c = '\n' ∨ acc.length + 1 = n then (acc ++ [c]) :: fgetsFrom n [] cs
      else fgetsFrom n (acc ++ [c]) cs

def fgetsLines (n : Nat) (text : List Char) : List (List Char) := fgetsFrom n [] text

/-- A C string ends at the first NUL. -/
def cString (s : List Char) : List Char := s.takeWhile fun c => c ≠ '\x00'

/-- At most `n` characters, and none that ends a line or a string. -/
structure Plain (n : Nat) (s : List Char) : Prop where
  length_le : s.length ≤ n
  noNewline : '\n' ∉ s
  noNul : '\x00' ∉ s

theorem plain_nil : Plain 0 [] := ⟨Nat.le_refl 0, nofun, nofun⟩

theorem Plain.append {m n : Nat} {s t : List Char} (hs : Plain m s) (ht : Plain n t) :
    Plain (m + n) (s ++ t) where
  length_le := by
    rw [List.length_append]
    exact Nat.add_le_add hs.length_le ht.length_le
  noNewline := by
    rw [List.mem_append, not_or]
    exact ⟨hs.noNewline, ht.noNewline⟩
  noNul := by
    rw [List.mem_append, not_or]
    exact ⟨hs.noNul, ht.noNul⟩

theorem Plain.mono {m n : Nat} {s : List Char} (hs : Plain m s) (hmn : m ≤ n) : Plain n s :=
  ⟨Nat.le_trans hs.length_le hmn, hs.noNewline, hs.noNul⟩

/-- The characters of a string literal, without decoding it. -/
theorem literal {s : String} {l : List Char} (h : s = String.ofList l) : s.toList = l := by
  rw [h, String.toList_ofList]

/-- The lines of a file that are given as literals, character by character. -/
theorem flatMap_literal {ss : List String} {ls : List (List Char)}
    (h : List.Forall₂ (fun s l => s = String.ofList l) ss ls) :
    (ss.flatMap fun s => s.toList ++ ['\n']) = ls.flatMap fun l => l ++ ['\n'] := by
  induction h with
  | nil => rfl
  | cons hs _ ih => rw [List.flatMap_cons, List.flatMap_cons, ih, literal hs]

theorem cString_of_noNul {s : List Char} (h : '\x00' ∉ s) : cString s = s := by
  unfold cString
  rw [List.takeWhile_eq_self_iff]
  intro c hc
  have hne : c ≠ '\x00' := by
    rintro rfl
    exact h hc
  simpa using hne

theorem cString_noNul {s : List Char} : '\x00' ∉ cString s := by
  intro hmem
  exact absurd (List.mem_takeWhile_imp hmem) (by decide)

theorem fgetsFrom_line {n : Nat} {acc l rest : List Char} (hl : '\n' ∉ l)
    (hlen : acc.length + l.length + 1 ≤ n) :
    fgetsFrom n acc (l ++ '\n' :: rest) = (acc ++ l ++ ['\n']) :: fgetsFrom n [] rest := by
  induction l generalizing acc with
  | nil => rw [List.nil_append, fgetsFrom, if_pos (Or.inl rfl), List.append_nil]
  | cons c cs ih =>
    simp only [List.mem_cons, not_or] at hl
    simp only [List.length_cons] at hlen
    have hgo : ¬ (c = '\n' ∨ acc.length + 1 = n) := by
      rintro (rfl | hfull)
      · exact hl.1 rfl
      · omega
    rw [List.cons_append, fgetsFrom, if_neg hgo, ih hl.2 (by simp; omega)]
    simp

/-- A line that fits is handed out whole. -/
theorem fgetsLines_line {n : Nat} {l rest : List Char} (hl : '\n' ∉ l) (hlen : l.length + 1 ≤ n) :
    fgetsLines n (l ++ '\n' :: rest) = (l ++ ['\n']) :: fgetsLines n rest := by
  have h := @fgetsFrom_line n [] l rest hl (by simpa using hlen)
  rwa [List.nil_append] at h

/-- A text of lines that fit. -/
theorem fgetsLines_lines {n : Nat} {ls : List (List Char)}
    (h : ∀ l ∈ ls, '\n' ∉ l ∧ l.length + 1 ≤ n) :
    fgetsLines n (ls.flatMap fun l => l ++ ['\n']) = ls.map fun l => l ++ ['\n'] := by
  induction ls with
  | nil => rfl
  | cons l ls ih =>
    obtain ⟨hl, hlen⟩ := h l (by simp)
    rw [List.flatMap_cons, List.append_assoc, List.singleton_append, fgetsLines_line hl hlen,
      ih fun m hm => h m (by simp [hm]), List.map_cons]

end Clib
