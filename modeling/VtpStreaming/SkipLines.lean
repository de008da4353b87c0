import VtpStreaming.ConfigFrame

/-!
# The loop around the lines of a file

`vtpReadConfigFile` and `vtpRocReadNetFile` cut their files in the same way,
with buffers of different sizes. The loop that skips a line looks for its
newline only, and goes on for ever when the file ends first.
-/

namespace VtpStreaming

open Clib

/-- A line that begins so is skipped. -/
def isSkip (c : Char) : Bool := c = '#' || c = ' ' || c = '\t'

/-- `piecesFrom` with a buffer of `n` characters. -/
def skipPieces (n : Nat) : ReadMode → List Char → List FilePiece
  | .fresh, [] => []
  | .skipping, [] => [.unended]
  | .inLine acc, [] => [.line acc]
  | .fresh, c :: cs =>
      if isSkip c then skipPieces n .skipping cs
      else if c = '\n' then skipPieces n .fresh cs
      else skipPieces n (.inLine [c]) cs
  | .skipping, c :: cs =>
      if c = '\n' then skipPieces n .fresh cs else skipPieces n .skipping cs
  | .inLine acc, c :: cs =>
      if c = '\n' ∨ acc.length + 1 = n - 1 then .line (acc ++ [c]) :: skipPieces n .fresh cs
      else skipPieces n (.inLine (acc ++ [c])) cs

/-- The text ends in a line that is skipped, without a newline. A line that is
read takes up to `n - 1` characters, and the next piece begins behind them. -/
inductive CutShort (n : Nat) : List Char → Prop
  | here {c l} : isSkip c = true → '\n' ∉ l → CutShort n (c :: l)
  | blank {text} : CutShort n text → CutShort n ('\n' :: text)
  | skipped {c l text} : isSkip c = true → '\n' ∉ l → CutShort n text →
      CutShort n (c :: l ++ '\n' :: text)
  | line {c l text} : isSkip c = false → c ≠ '\n' → '\n' ∉ l → l.length + 2 < n →
      CutShort n text → CutShort n (c :: l ++ '\n' :: text)
  | piece {c l text} : isSkip c = false → c ≠ '\n' → '\n' ∉ l → l.length + 2 = n →
      CutShort n text → CutShort n (c :: l ++ text)

variable {n : Nat} {acc l rest text : List Char}

theorem skipPieces_skipping (hl : '\n' ∉ l) :
    skipPieces n .skipping (l ++ '\n' :: rest) = skipPieces n .fresh rest := by
  induction l with
  | nil => rw [List.nil_append, skipPieces, if_pos rfl]
  | cons c cs ih =>
    simp only [List.mem_cons, not_or] at hl
    rw [List.cons_append, skipPieces, if_neg fun h => hl.1 h.symm, ih hl.2]

theorem skipPieces_unended (hl : '\n' ∉ l) : skipPieces n .skipping l = [.unended] := by
  induction l with
  | nil => rfl
  | cons c cs ih =>
    simp only [List.mem_cons, not_or] at hl
    rw [skipPieces, if_neg fun h => hl.1 h.symm, ih hl.2]

/-- Within a line: its end, the end of the buffer or the end of the file. -/
theorem skipPieces_line (hl : '\n' ∉ l) (hlen : acc.length + l.length + 1 < n) :
    skipPieces n (.inLine acc) (l ++ '\n' :: rest) =
      .line (acc ++ l ++ ['\n']) :: skipPieces n .fresh rest := by
  induction l generalizing acc with
  | nil => rw [List.nil_append, skipPieces, if_pos (.inl rfl), List.append_nil]
  | cons c cs ih =>
    simp only [List.mem_cons, not_or] at hl
    simp only [List.length_cons] at hlen
    have hgo : ¬ (c = '\n' ∨ acc.length + 1 = n - 1) := by
      rintro (rfl | hfull)
      · exact hl.1 rfl
      · omega
    rw [List.cons_append, skipPieces, if_neg hgo, ih hl.2 (by simp; omega)]
    simp

theorem skipPieces_full (hl : '\n' ∉ l) (hne : l ≠ []) (hlen : acc.length + l.length + 1 = n) :
    skipPieces n (.inLine acc) (l ++ rest) = .line (acc ++ l) :: skipPieces n .fresh rest := by
  induction l generalizing acc with
  | nil => exact absurd rfl hne
  | cons c cs ih =>
    simp only [List.mem_cons, not_or] at hl
    simp only [List.length_cons] at hlen
    rw [List.cons_append, skipPieces]
    cases cs with
    | nil =>
      rw [if_pos (.inr (by simp at hlen; omega))]
      rfl
    | cons d ds =>
      have hgo : ¬ (c = '\n' ∨ acc.length + 1 = n - 1) := by
        rintro (rfl | hfull)
        · exact hl.1 rfl
        · simp only [List.length_cons] at hlen
          omega
      rw [if_neg hgo, ih hl.2 (List.cons_ne_nil d ds) (by simp at hlen ⊢; omega)]
      simp

/-- The lines among the pieces. -/
def pieceLines (pieces : List FilePiece) : List (List Char) :=
  pieces.filterMap fun
    | .line l => some l
    | .unended => none

/-- The pieces of a text: lines, and at most a skipped line without end behind them. -/
structure Pieces (n : Nat) (text : List Char) (pieces : List FilePiece) : Prop where
  ends : pieces = (pieceLines pieces).map .line ∨
    CutShort n text ∧ pieces = (pieceLines pieces).map .line ++ [.unended]

theorem Pieces.cons {n : Nat} {l text text' : List Char} {pieces : List FilePiece}
    (h : Pieces n text pieces) (hcut : CutShort n text → CutShort n text') :
    Pieces n text' (.line l :: pieces) := by
  have hlines : pieceLines (.line l :: pieces) = l :: pieceLines pieces := rfl
  refine ⟨?_⟩
  rw [hlines]
  obtain hends | ⟨hshort, hends⟩ := h.ends
  · exact .inl (congrArg _ hends)
  · exact .inr ⟨hcut hshort, congrArg _ hends⟩

theorem Pieces.same {n : Nat} {text text' : List Char} {pieces : List FilePiece}
    (h : Pieces n text pieces) (hcut : CutShort n text → CutShort n text') :
    Pieces n text' pieces := by
  refine ⟨?_⟩
  obtain hends | ⟨hshort, hends⟩ := h.ends
  · exact .inl hends
  · exact .inr ⟨hcut hshort, hends⟩

/-- The loop runs into the end of such a text. -/
theorem CutShort.unended {n : Nat} (hn : 2 < n) {text : List Char} (h : CutShort n text) :
    .unended ∈ skipPieces n .fresh text := by
  induction h with
  | here hskip hl =>
    rw [skipPieces, if_pos hskip, skipPieces_unended hl]
    exact List.mem_singleton.mpr rfl
  | blank _ ih =>
    rw [skipPieces, if_neg (by decide), if_pos rfl]
    exact ih
  | skipped hskip hl _ ih =>
    rw [List.cons_append, skipPieces, if_pos hskip, skipPieces_skipping hl]
    exact ih
  | line hread hc hl hlen _ ih =>
    rw [List.cons_append, skipPieces, if_neg (by simp [hread]), if_neg hc,
      skipPieces_line hl (by simp only [List.length_singleton]; omega)]
    exact List.mem_cons_of_mem _ ih
  | @piece c l text hread hc hl hlen _ ih =>
    have hne : l ≠ [] := List.ne_nil_of_length_pos (by omega)
    rw [List.cons_append, skipPieces, if_neg (by simp [hread]), if_neg hc,
      skipPieces_full hl hne (by simp only [List.length_singleton]; omega)]
    exact List.mem_cons_of_mem _ ih

end VtpStreaming
