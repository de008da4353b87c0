import Mathlib.Data.List.TakeWhile
import VtpStreaming.Clib.Bytes
import VtpStreaming.Clib.Lines

/-!
# Scanning and printing

The conversions of `sscanf` that take words and integers off the front of a
text, and those of `fprintf` that write integers. An `int` has 32 bits, and a
number that does not fit is the nearest one that does.
-/

namespace Clib

/-! ## White space and words -/

def isSpace (c : Char) : Bool := c == ' ' || (9 ≤ c.toNat && c.toNat ≤ 13)

def skipSpace (s : List Char) : List Char := s.dropWhile isSpace

/-- The text up to the next white space. -/
def wordOf (s : List Char) : List Char := s.takeWhile fun c => !isSpace c

/-- `%ns`: a word of at most `n` characters. -/
def scanString (n : Nat) (s : List Char) : Option (List Char × List Char) :=
  let t := skipSpace s
  let w := (wordOf t).take n
  if w = [] then none else some (w, t.drop w.length)

/-- `%s`. -/
def scanWord (s : List Char) : Option (List Char × List Char) := scanString s.length s

/-! ## Integers -/

/-- An optional sign, and whether it is a minus. -/
def scanSign : List Char → Bool × List Char
  | '-' :: s => (true, s)
  | '+' :: s => (false, s)
  | s => (false, s)

def decDigits (s : List Char) : List Char := s.takeWhile Char.isDigit

/-- `strtol` saturates. -/
def clampInt (x : Int) : Int := max (-2147483648) (min x 2147483647)

/-- `%d`. -/
def scanD (s : List Char) : Option (Word × List Char) :=
  let (neg, t) := scanSign (skipSpace s)
  let ds := decDigits t
  let n : Int := Nat.ofDigitChars 10 ds 0
  if ds = [] then none
  else some (BitVec.ofInt 32 (clampInt (if neg then -n else n)), t.drop ds.length)

/-- `strtoul` saturates, and negates after that. -/
def unsignedOf (neg : Bool) (n : Nat) : Word :=
  if 2 ^ 32 ≤ n then BitVec.allOnes 32
  else if neg then -BitVec.ofNat 32 n else BitVec.ofNat 32 n

/-- `%u`. -/
def scanU (s : List Char) : Option (Word × List Char) :=
  let (neg, t) := scanSign (skipSpace s)
  let ds := decDigits t
  if ds = [] then none
  else some (unsignedOf neg (Nat.ofDigitChars 10 ds 0), t.drop ds.length)

def hexVal (c : Char) : Option Nat :=
  if c.isDigit then some (c.toNat - 48)
  else if 'a' ≤ c ∧ c ≤ 'f' then some (c.toNat - 87)
  else if 'A' ≤ c ∧ c ≤ 'F' then some (c.toNat - 55)
  else none

def hexDigits (s : List Char) : List Char := s.takeWhile fun c => (hexVal c).isSome

def ofHex (ds : List Char) : Nat := ds.foldl (fun n c => 16 * n + (hexVal c).getD 0) 0

/-- `%x`, which takes an optional `0x`. -/
def scanX (s : List Char) : Option (Word × List Char) :=
  let (neg, t) := scanSign (skipSpace s)
  match t with
  | '0' :: 'x' :: u | '0' :: 'X' :: u =>
      let ds := hexDigits u
      some (unsignedOf neg (ofHex ds), u.drop ds.length)
  | t =>
      let ds := hexDigits t
      if ds = [] then none else some (unsignedOf neg (ofHex ds), t.drop ds.length)

/-- White space and the literal `0x`, then `%X`. -/
def scanLitX (s : List Char) : Option (Word × List Char) :=
  match skipSpace s with
  | '0' :: 'x' :: t => scanX t
  | _ => none

/-- The values of up to `n` conversions, up to the first that fails. -/
def scanMany (conv : List Char → Option (Word × List Char)) : Nat → List Char → List Word
  | 0, _ => []
  | n + 1, s =>
      match conv s with
      | none => []
      | some (w, rest) => w :: scanMany conv n rest

/-- `%*s` and then up to `n` conversions. -/
def scanArgs (conv : List Char → Option (Word × List Char)) (n : Nat) (s : List Char) :
    List Word :=
  match scanWord s with
  | none => []
  | some (_, rest) => scanMany conv n rest

/-! ## Printing -/

/-- `%d` of a number that is not negative. -/
def fmtNat (n : Nat) : List Char := Nat.toDigits 10 n

/-- `%d`. -/
def fmtD (w : Word) : List Char :=
  if w.toInt < 0 then '-' :: fmtNat w.toInt.natAbs else fmtNat w.toInt.natAbs

def hexUpper (n : Nat) : Char := if n < 10 then Char.ofNat (48 + n) else Char.ofNat (55 + n)

/-- `%02X` of a byte. -/
def fmt02X (b : Byte) : List Char := [hexUpper (b.toNat / 16), hexUpper (b.toNat % 16)]

/-! ## Words -/

variable {s t w ws rest : List Char}

/-- White space only. -/
abbrev Blank (s : List Char) : Prop := s.all isSpace

/-- A word: not empty, and no white space in it. -/
structure IsWord (w : List Char) : Prop where
  nonempty : w ≠ []
  solid : ∀ c ∈ w, isSpace c = false

/-- A text without white space, checked character by character. -/
theorem solid_of_all {w : List Char} (h : (w.all fun c => !isSpace c) = true) :
    ∀ c ∈ w, isSpace c = false := by
  intro c hc
  have hsolid := List.all_eq_true.mp h c hc
  simpa using hsolid

/-- A text that does not go on with a character of the class `p`. -/
def Stops (p : Char → Bool) : List Char → Prop
  | [] => True
  | c :: _ => p c = false

theorem takeWhile_stops {p : Char → Bool} (hall : ∀ c ∈ w, p c = true) (hstop : Stops p rest) :
    (w ++ rest).takeWhile p = w := by
  induction w with
  | nil =>
    cases rest with
    | nil => rfl
    | cons c cs =>
      have hc : p c = false := hstop
      simp [hc]
  | cons c cs ih =>
    rw [List.cons_append, List.takeWhile_cons, if_pos (hall c (by simp)),
      ih fun d hd => hall d (by simp [hd])]

theorem skipSpace_append (hblank : Blank ws) (hstop : Stops isSpace rest) :
    skipSpace (ws ++ rest) = rest := by
  induction ws with
  | nil =>
    cases rest with
    | nil => rfl
    | cons c cs =>
      have hc : isSpace c = false := hstop
      simp [skipSpace, hc]
  | cons c cs ih =>
    simp only [Blank, List.all_cons, Bool.and_eq_true] at hblank
    rw [List.cons_append, skipSpace, List.dropWhile_cons, if_pos hblank.1]
    exact ih hblank.2

theorem IsWord.stops (hw : IsWord w) : Stops isSpace (w ++ rest) := by
  cases w with
  | nil => exact absurd rfl hw.nonempty
  | cons c cs => exact hw.solid c (by simp)

/-- A word between white space is scanned as it is. -/
theorem scanString_word {n : Nat} (hblank : Blank ws) (hw : IsWord w)
    (hstop : Stops (fun c => !isSpace c) rest) (hn : w.length ≤ n) :
    scanString n (ws ++ w ++ rest) = some (w, rest) := by
  have hword : wordOf (w ++ rest) = w :=
    takeWhile_stops (fun c hc => by simp [hw.solid c hc]) hstop
  rw [scanString, List.append_assoc, skipSpace_append hblank hw.stops, hword,
    List.take_of_length_le hn, if_neg hw.nonempty, List.drop_left]

theorem scanWord_word (hblank : Blank ws) (hw : IsWord w)
    (hstop : Stops (fun c => !isSpace c) rest) :
    scanWord (ws ++ w ++ rest) = some (w, rest) :=
  scanString_word hblank hw hstop (by simp; omega)

/-- What `%ns` hands out: no white space, at most `n` characters, all of them
from the text. -/
theorem scanString_out {n : Nat} (h : scanString n s = some (w, rest)) :
    (∀ c ∈ w, isSpace c = false) ∧ (∀ c ∈ w, c ∈ s) ∧ w.length ≤ n := by
  unfold scanString at h
  dsimp only at h
  split at h
  · cases h
  · cases h
    refine ⟨?_, ?_, ?_⟩
    · intro c hc
      have hword := List.mem_takeWhile_imp (List.mem_of_mem_take hc)
      simpa using hword
    · intro c hc
      have hword := (List.takeWhile_sublist _).subset (List.mem_of_mem_take hc)
      exact (List.dropWhile_sublist _).subset hword
    · rw [List.length_take]
      exact Nat.min_le_left _ _

/-- What follows the word is a part of the text. -/
theorem scanString_rest {n : Nat} (h : scanString n s = some (w, rest)) :
    ∀ c ∈ rest, c ∈ s := by
  unfold scanString at h
  dsimp only at h
  split at h
  · cases h
  · cases h
    intro c hc
    exact (List.dropWhile_sublist _).subset (List.mem_of_mem_drop hc)

/-! ### Gaps -/

def spaces (n : Nat) : List Char := List.replicate n ' '

/-- A text literal that is another with blanks behind it. -/
theorem literal_spaces {n : Nat} {s t : String} {a b : List Char} (hs : s = String.ofList a)
    (ht : t = String.ofList b) (h : a = b ++ spaces n) : s.toList = t.toList ++ spaces n := by
  rw [literal hs, literal ht, h]

/-- A text literal of two words. -/
theorem literal_words {n : Nat} {s t u : String} {a b c : List Char} (hs : s = String.ofList a)
    (ht : t = String.ofList b) (hu : u = String.ofList c) (h : a = b ++ spaces n ++ c) :
    s.toList = t.toList ++ spaces n ++ u.toList := by
  rw [literal hs, literal ht, literal hu, h]

theorem spaces_blank (n : Nat) : Blank (spaces n) := by
  simp [Blank, spaces, isSpace]

theorem spaces_ne_nil {n : Nat} (hn : 0 < n) : spaces n ≠ [] := by
  simp only [spaces, ne_eq, List.replicate_eq_nil_iff]
  omega

theorem spaces_plain (n : Nat) : Plain n (spaces n) where
  length_le := by simp [spaces]
  noNewline := by simp [spaces]
  noNul := by simp [spaces]

/-! ## Numbers read back -/

theorem clampInt_toInt (w : Word) : clampInt w.toInt = w.toInt := by
  have hlo := BitVec.le_toInt w
  have hhi := BitVec.toInt_lt (x := w)
  rw [clampInt]
  omega

theorem fmtNat_digits {n : Nat} {c : Char} (hc : c ∈ fmtNat n) : c.isDigit = true :=
  Nat.isDigit_of_mem_toDigits (by decide) (by decide) hc

theorem isDigit_not_space {c : Char} (h : c.isDigit = true) : isSpace c = false := by
  have hrange := Char.isDigit_iff_toNat.mp h
  simp only [Char.reduceToNat] at hrange
  have hne : c ≠ ' ' := by
    rintro rfl
    exact absurd hrange (by decide)
  simp [isSpace, hne]
  omega

theorem isSpace_not_digit {c : Char} (h : isSpace c = true) : c.isDigit = false := by
  by_contra hdigit
  rw [isDigit_not_space (by simpa using hdigit)] at h
  exact absurd h (by decide)

theorem scanSign_digit {c : Char} (h : c.isDigit = true) : scanSign (c :: s) = (false, c :: s) := by
  rw [scanSign]
  · rintro t heq
    rw [List.cons.injEq] at heq
    rw [heq.1] at h
    exact absurd h (by decide)
  · rintro t heq
    rw [List.cons.injEq] at heq
    rw [heq.1] at h
    exact absurd h (by decide)

theorem fmtNat_cons (n : Nat) : ∃ c cs, fmtNat n = c :: cs ∧ c.isDigit = true := by
  have hne : fmtNat n ≠ [] := Nat.toDigits_ne_nil
  obtain ⟨c, cs, h⟩ := List.exists_cons_of_ne_nil hne
  exact ⟨c, cs, h, fmtNat_digits (by rw [h]; simp)⟩

/-- The digits of a number read at the front of a text. -/
theorem scanD_digits {ds : List Char} {n : Nat} (hblank : Blank ws) (hne : ds ≠ [])
    (hds : ∀ c ∈ ds, c.isDigit = true) (hn : Nat.ofDigitChars 10 ds 0 = n)
    (hsmall : n < 2147483648) (hstop : Stops Char.isDigit rest) :
    scanD (ws ++ ds ++ rest) = some (BitVec.ofNat 32 n, rest) := by
  obtain ⟨c, cs, rfl⟩ := List.exists_cons_of_ne_nil hne
  have hdigit : c.isDigit = true := hds c (by simp)
  have hskip : skipSpace (ws ++ (c :: cs) ++ rest) = c :: cs ++ rest := by
    rw [List.append_assoc]
    exact skipSpace_append hblank (isDigit_not_space hdigit)
  have hsign : scanSign (c :: cs ++ rest) = (false, c :: cs ++ rest) := scanSign_digit hdigit
  have hdigits : decDigits (c :: cs ++ rest) = c :: cs := takeWhile_stops hds hstop
  have hclamp : clampInt (n : Int) = n := by
    unfold clampInt
    omega
  rw [scanD, hskip, hsign]
  simp only [hdigits, if_neg hne, hn, List.drop_left]
  rw [if_neg (by decide), hclamp, BitVec.ofInt_natCast]

/-- What `%d` writes is a sign and the digits of the absolute value. -/
theorem scanSign_fmtD {v : Word} (hblank : Blank ws) :
    scanSign (skipSpace (ws ++ fmtD v ++ rest)) =
      (decide (v.toInt < 0), fmtNat v.toInt.natAbs ++ rest) := by
  by_cases hneg : v.toInt < 0
  · have hskip : skipSpace (ws ++ ('-' :: fmtNat v.toInt.natAbs) ++ rest) =
        '-' :: (fmtNat v.toInt.natAbs ++ rest) := by
      rw [List.append_assoc]
      exact skipSpace_append hblank rfl
    rw [fmtD, if_pos hneg, hskip, decide_eq_true hneg]
    rfl
  · obtain ⟨c, cs, hcons, hdigit⟩ := fmtNat_cons v.toInt.natAbs
    have hskip : skipSpace (ws ++ fmtNat v.toInt.natAbs ++ rest) =
        fmtNat v.toInt.natAbs ++ rest := by
      rw [List.append_assoc]
      apply skipSpace_append hblank
      rw [hcons]
      exact isDigit_not_space hdigit
    rw [fmtD, if_neg hneg, hskip, decide_eq_false hneg, hcons]
    exact scanSign_digit hdigit

theorem decDigits_fmtNat {n : Nat} (hstop : Stops Char.isDigit rest) :
    decDigits (fmtNat n ++ rest) = fmtNat n :=
  takeWhile_stops (fun _ hc => fmtNat_digits hc) hstop

/-- `%d` reads back what `%d` has written. -/
theorem scanD_fmtD {v : Word} (hblank : Blank ws) (hstop : Stops Char.isDigit rest) :
    scanD (ws ++ fmtD v ++ rest) = some (v, rest) := by
  have hvalue : Nat.ofDigitChars 10 (fmtNat v.toInt.natAbs) 0 = v.toInt.natAbs :=
    Nat.ofDigitChars_ten_toDigits
  have hne : fmtNat v.toInt.natAbs ≠ [] := Nat.toDigits_ne_nil
  have hsigned : (if decide (v.toInt < 0) = true then -(v.toInt.natAbs : Int)
      else (v.toInt.natAbs : Int)) = v.toInt := by
    split
    · next h =>
      rw [decide_eq_true_iff] at h
      omega
    · next h =>
      rw [decide_eq_true_iff] at h
      omega
  rw [scanD, scanSign_fmtD hblank]
  simp only [decDigits_fmtNat hstop, if_neg hne, hvalue, List.drop_left]
  rw [hsigned, clampInt_toInt, BitVec.ofInt_toInt]

/-- And so does `%u`. -/
theorem scanU_fmtD {v : Word} (hblank : Blank ws) (hstop : Stops Char.isDigit rest) :
    scanU (ws ++ fmtD v ++ rest) = some (v, rest) := by
  have hvalue : Nat.ofDigitChars 10 (fmtNat v.toInt.natAbs) 0 = v.toInt.natAbs :=
    Nat.ofDigitChars_ten_toDigits
  have hne : fmtNat v.toInt.natAbs ≠ [] := Nat.toDigits_ne_nil
  have hsmall : v.toInt.natAbs < 2 ^ 32 := by
    have hlo := BitVec.le_toInt v
    have hhi := BitVec.toInt_lt (x := v)
    omega
  have hsigned : unsignedOf (decide (v.toInt < 0)) v.toInt.natAbs = v := by
    rw [unsignedOf, if_neg (by omega), ← BitVec.toInt_inj]
    split
    · next h =>
      rw [decide_eq_true_iff] at h
      rw [show -BitVec.ofNat 32 v.toInt.natAbs = BitVec.ofInt 32 (-(v.toInt.natAbs : Int)) by
        rw [BitVec.ofInt_neg,
          BitVec.ofInt_natCast], show -(v.toInt.natAbs : Int) = v.toInt by omega,
        BitVec.ofInt_toInt]
    · next h =>
      rw [decide_eq_true_iff] at h
      rw [← BitVec.ofInt_natCast, show (v.toInt.natAbs : Int) = v.toInt by omega,
        BitVec.ofInt_toInt]
  rw [scanU, scanSign_fmtD hblank]
  simp only [decDigits_fmtNat hstop, if_neg hne, hvalue, List.drop_left]
  rw [hsigned]

theorem fmtNat_plain {n k : Nat} (hk : 0 < k) (hn : n < 10 ^ k) : Plain k (fmtNat n) where
  length_le := (Nat.length_toDigits_le_iff (by decide) hk).mpr hn
  noNewline := fun h => absurd (fmtNat_digits h) (by decide)
  noNul := fun h => absurd (fmtNat_digits h) (by decide)

theorem fmtD_plain (v : Word) : Plain 11 (fmtD v) := by
  have hlo := BitVec.le_toInt v
  have hhi := BitVec.toInt_lt (x := v)
  have hdigits : Plain 10 (fmtNat v.toInt.natAbs) := fmtNat_plain (by decide) (by omega)
  unfold fmtD
  split
  · have hsign : Plain 1 ['-'] := ⟨by decide, by decide, by decide⟩
    exact hsign.append hdigits
  · exact hdigits.mono (by decide)

/-! ### Hexadecimal -/

theorem hexVal_hexUpper : ∀ n : Fin 16, hexVal (hexUpper n.val) = some n.val := by
  decide

theorem hexUpper_plain : ∀ n : Fin 16, isSpace (hexUpper n.val) = false ∧
    hexUpper n.val ≠ 'x' ∧ hexUpper n.val ≠ 'X' ∧ hexUpper n.val ≠ '-' ∧
    hexUpper n.val ≠ '+' := by
  decide

theorem isSpace_not_hex {c : Char} (h : isSpace c = true) : (hexVal c).isSome = false := by
  have hlow : c.toNat ≤ 32 := by
    simp only [isSpace, Bool.or_eq_true, beq_iff_eq, Bool.and_eq_true, decide_eq_true_eq] at h
    obtain rfl | h := h
    · decide
    · omega
  have ha : ¬ 'a' ≤ c := fun hle => absurd (Nat.le_trans hle hlow) (by decide)
  have hA : ¬ 'A' ≤ c := fun hle => absurd (Nat.le_trans hle hlow) (by decide)
  simp [hexVal, isSpace_not_digit h, ha, hA]

theorem fmt02X_plain (b : Byte) : Plain 2 (fmt02X b) := by
  have hb : b.toNat < 256 := b.isLt
  have hchar : ∀ n : Fin 16, hexUpper n.val ≠ '\n' ∧ hexUpper n.val ≠ '\x00' := by decide
  obtain ⟨hi, hi'⟩ := hchar ⟨b.toNat / 16, by omega⟩
  obtain ⟨hj, hj'⟩ := hchar ⟨b.toNat % 16, by omega⟩
  exact ⟨Nat.le_refl 2, by simp [fmt02X, hi.symm, hj.symm], by simp [fmt02X, hi'.symm, hj'.symm]⟩

/-- `%X` behind the literal `0x` reads back a byte written with `%02X`. -/
theorem scanLitX_fmt02X {b : Byte} (hblank : Blank ws)
    (hstop : Stops (fun c => (hexVal c).isSome) rest) :
    scanLitX (ws ++ ('0' :: 'x' :: fmt02X b) ++ rest) = some (b.setWidth 32, rest) := by
  have hb : b.toNat < 256 := b.isLt
  obtain ⟨i, hi⟩ : ∃ i : Fin 16, i.val = b.toNat / 16 := ⟨⟨b.toNat / 16, by omega⟩, rfl⟩
  obtain ⟨j, hj⟩ : ∃ j : Fin 16, j.val = b.toNat % 16 := ⟨⟨b.toNat % 16, by omega⟩, rfl⟩
  have hskip : skipSpace (ws ++ ('0' :: 'x' :: fmt02X b) ++ rest) =
      '0' :: 'x' :: (fmt02X b ++ rest) := by
    rw [List.append_assoc]
    exact skipSpace_append hblank rfl
  have hdigits : hexDigits (fmt02X b ++ rest) = fmt02X b := by
    apply takeWhile_stops _ hstop
    intro c hc
    simp only [fmt02X, ← hi, ← hj, List.mem_cons, List.not_mem_nil, or_false] at hc
    obtain rfl | rfl := hc
    · rw [hexVal_hexUpper]; rfl
    · rw [hexVal_hexUpper]; rfl
  have hvalue : ofHex (fmt02X b) = b.toNat := by
    simp only [ofHex, fmt02X, ← hi, ← hj, List.foldl_cons, List.foldl_nil, hexVal_hexUpper,
      Option.getD_some]
    omega
  have hplain : scanX (fmt02X b ++ rest) = some (unsignedOf false (ofHex (fmt02X b)), rest) := by
    obtain ⟨hspace, -, -, hminus, hplus⟩ := hexUpper_plain i
    obtain ⟨-, hx, hX, -, -⟩ := hexUpper_plain j
    have hcons : fmt02X b ++ rest = hexUpper i.val :: hexUpper j.val :: rest := by
      rw [fmt02X, hi, hj]
      rfl
    have hnoskip : skipSpace (fmt02X b ++ rest) = fmt02X b ++ rest := by
      rw [hcons, skipSpace, List.dropWhile_cons, if_neg (by simp [hspace])]
    have hsign : scanSign (fmt02X b ++ rest) = (false, fmt02X b ++ rest) := by
      rw [hcons, scanSign]
      · rintro t heq
        exact hminus (List.cons.inj heq).1
      · rintro t heq
        exact hplus (List.cons.inj heq).1
    have hne : fmt02X b ≠ [] := List.cons_ne_nil _ _
    rw [scanX, hnoskip, hsign]
    dsimp only
    split
    · next u heq =>
      rw [hcons] at heq
      exact absurd (List.cons.inj (List.cons.inj heq).2).1 hx
    · next u heq =>
      rw [hcons] at heq
      exact absurd (List.cons.inj (List.cons.inj heq).2).1 hX
    · rw [hdigits, if_neg hne, List.drop_left]
  rw [scanLitX, hskip]
  show scanX (fmt02X b ++ rest) = some (b.setWidth 32, rest)
  rw [hplain, hvalue, unsignedOf, if_neg (by omega), if_neg (by decide),
    BitVec.ofNat_toNat]

/-! ### Several values -/

/-- Values written one after the other, with white space in front of each, are
read back. -/
theorem scanMany_items {α : Type} {conv : List Char → Option (Word × List Char)}
    {fmt : α → List Char} {val : α → Word} {p : Char → Bool}
    (one : ∀ ws v rest, Blank ws → Stops p rest → conv (ws ++ fmt v ++ rest) = some (val v, rest))
    (space : ∀ c, isSpace c = true → p c = false) {items : List (List Char × α)}
    (hws : ∀ i ∈ items, i.1 ≠ [] ∧ Blank i.1) (hstop : Stops p rest) :
    scanMany conv items.length ((items.flatMap fun i => i.1 ++ fmt i.2) ++ rest) =
      items.map fun i => val i.2 := by
  induction items with
  | nil => rfl
  | cons i items ih =>
    have hrest : Stops p ((items.flatMap fun i => i.1 ++ fmt i.2) ++ rest) := by
      cases items with
      | nil => exact hstop
      | cons j items =>
        obtain ⟨hne, hblank⟩ := hws j (by simp)
        obtain ⟨c, cs, hcs⟩ := List.exists_cons_of_ne_nil hne
        rw [List.flatMap_cons, hcs]
        rw [hcs] at hblank
        simp only [Blank, List.all_cons, Bool.and_eq_true] at hblank
        exact space c hblank.1
    have hone := one i.1 i.2 _ (hws i (by simp)).2 hrest
    rw [List.length_cons, List.flatMap_cons, List.append_assoc, scanMany, hone, List.map_cons]
    dsimp only
    rw [ih fun j hj => hws j (by simp [hj])]

theorem items_stops {α : Type} {fmt : α → List Char} {items : List (List Char × α)}
    (hws : ∀ i ∈ items, i.1 ≠ [] ∧ Blank i.1) (hne : items ≠ []) :
    Stops (fun c => !isSpace c) ((items.flatMap fun i => i.1 ++ fmt i.2) ++ rest) := by
  obtain ⟨i, items, rfl⟩ := List.exists_cons_of_ne_nil hne
  obtain ⟨hi, hblank⟩ := hws i (by simp)
  obtain ⟨c, cs, hcs⟩ := List.exists_cons_of_ne_nil hi
  rw [hcs] at hblank
  simp only [Blank, List.all_cons, Bool.and_eq_true] at hblank
  rw [List.flatMap_cons, hcs]
  simpa [Stops] using hblank.1

/-- The same behind the keyword of a line. -/
theorem scanArgs_items {α : Type} {conv : List Char → Option (Word × List Char)}
    {fmt : α → List Char} {val : α → Word} {p : Char → Bool} {key : List Char}
    (one : ∀ ws v rest, Blank ws → Stops p rest → conv (ws ++ fmt v ++ rest) = some (val v, rest))
    (space : ∀ c, isSpace c = true → p c = false) (hkey : IsWord key)
    {items : List (List Char × α)} (hws : ∀ i ∈ items, i.1 ≠ [] ∧ Blank i.1)
    (hne : items ≠ []) (hstop : Stops p rest) :
    scanArgs conv items.length (key ++ ((items.flatMap fun i => i.1 ++ fmt i.2) ++ rest)) =
      items.map fun i => val i.2 := by
  have hword : Stops (fun c => !isSpace c) ((items.flatMap fun i => i.1 ++ fmt i.2) ++ rest) :=
    items_stops hws hne
  have hscan := scanWord_word (show Blank [] from rfl) hkey hword
  rw [List.nil_append] at hscan
  unfold scanArgs
  rw [hscan]
  exact scanMany_items one space hws hstop

/-! ## The first word of a text -/

variable {tail : List Char} {v : Word}

theorem scanWord_eq (h : scanWord s = some (w, rest)) :
    w = wordOf (skipSpace s) ∧ skipSpace s = w ++ rest ∧ w ≠ [] := by
  have hlength : (wordOf (skipSpace s)).length ≤ s.length :=
    Nat.le_trans (List.takeWhile_sublist _).length_le (List.dropWhile_sublist _).length_le
  unfold scanWord scanString at h
  dsimp only at h
  rw [List.take_of_length_le hlength] at h
  split at h
  · cases h
  · next hne =>
    cases h
    refine ⟨rfl, ?_, hne⟩
    unfold wordOf
    exact (List.prefix_iff_eq_append.mp (List.takeWhile_prefix _)).symm

/-- `%ns` takes as much of the word as it may. -/
theorem scanString_scanWord {n : Nat} (hn : 0 < n) (h : scanWord s = some (w, rest)) :
    scanString n s = some (w.take n, w.drop n ++ rest) := by
  obtain ⟨hw, hskip, hne⟩ := scanWord_eq h
  have htake : w.take n ≠ [] := by
    rw [ne_eq, List.take_eq_nil_iff, not_or]
    exact ⟨Nat.ne_of_gt hn, hne⟩
  unfold scanString
  dsimp only
  rw [← hw, if_neg htake, hskip, List.length_take]
  by_cases hle : n ≤ w.length
  · rw [Nat.min_eq_left hle, List.drop_append_of_le_length hle]
  · rw [Nat.min_eq_right (by omega), List.drop_left, List.drop_eq_nil_of_le (by omega),
      List.nil_append]

theorem scanString_none {n : Nat} (h : scanWord s = none) : scanString n s = none := by
  have hlength : (wordOf (skipSpace s)).length ≤ s.length :=
    Nat.le_trans (List.takeWhile_sublist _).length_le (List.dropWhile_sublist _).length_le
  unfold scanWord scanString at h
  unfold scanString
  dsimp only at h ⊢
  rw [List.take_of_length_le hlength] at h
  split at h
  · next hnil => rw [hnil, List.take_nil, if_pos rfl]
  · cases h

/-- The digits of a text are in its first word. -/
theorem decDigits_wordOf (s : List Char) : decDigits (wordOf s) = decDigits s := by
  unfold decDigits wordOf
  rw [List.takeWhile_takeWhile]
  congr 1
  funext c
  by_cases hdigit : c.isDigit = true
  · simp [hdigit, isDigit_not_space hdigit]
  · simp [hdigit]

theorem scanSign_wordOf {c : Char} (hc : isSpace c = false) (s : List Char) :
    scanSign (wordOf (c :: s)) =
      ((scanSign (c :: s)).1, wordOf (scanSign (c :: s)).2) := by
  have hcons : ∀ d t, isSpace d = false → wordOf (d :: t) = d :: wordOf t := by
    intro d t hd
    unfold wordOf
    rw [List.takeWhile_cons, if_pos (by simp [hd])]
  rw [hcons c s hc]
  by_cases hminus : c = '-'
  · subst hminus
    rfl
  · by_cases hplus : c = '+'
    · subst hplus
      rfl
    · have hplain : ∀ t, scanSign (c :: t) = (false, c :: t) := by
        intro t
        rw [scanSign]
        · rintro u heq
          exact hminus (List.cons.inj heq).1
        · rintro u heq
          exact hplus (List.cons.inj heq).1
      rw [hplain, hplain, hcons c s hc]

/-- The number of a text is the number of its first word. -/
theorem scanD_word (h : scanD s = some (v, tail)) :
    ∃ w rest tail', scanWord s = some (w, rest) ∧ scanD w = some (v, tail') := by
  unfold scanD at h
  dsimp only at h
  split at h
  · cases h
  next hdigits =>
  cases hskip : skipSpace s with
  | nil =>
    rw [hskip] at hdigits
    exact absurd rfl hdigits
  | cons c cs =>
    have hc : isSpace c = false := by
      have hhead := List.head?_dropWhile_not isSpace s
      unfold skipSpace at hskip
      rw [hskip] at hhead
      simpa using hhead
    have hcons : wordOf (c :: cs) = c :: wordOf cs := by
      unfold wordOf
      rw [List.takeWhile_cons, if_pos (by simp [hc])]
    have hword : ∃ rest, scanWord s = some (wordOf (c :: cs), rest) := by
      cases hscan : scanWord s with
      | none =>
        have hnone := hscan
        unfold scanWord scanString at hnone
        have hlength : (wordOf (c :: cs)).length ≤ s.length := by
          rw [← hskip]
          exact Nat.le_trans (List.takeWhile_sublist _).length_le
            (List.dropWhile_sublist _).length_le
        dsimp only at hnone
        rw [hskip, List.take_of_length_le hlength, hcons, if_neg (List.cons_ne_nil _ _)] at hnone
        cases hnone
      | some p =>
        obtain ⟨hw, -, -⟩ := scanWord_eq hscan
        exact ⟨p.2, by rw [← hskip, ← hw]⟩
    obtain ⟨rest, hword⟩ := hword
    have hskipWord : skipSpace (wordOf (c :: cs)) = wordOf (c :: cs) := by
      rw [hcons, skipSpace, List.dropWhile_cons, if_neg (by simp [hc])]
    rw [hskip] at h hdigits
    simp only [Option.some.injEq, Prod.mk.injEq] at h
    have hvalue := h.1
    refine ⟨wordOf (c :: cs), rest,
      (wordOf (scanSign (c :: cs)).2).drop (decDigits (scanSign (c :: cs)).2).length, hword, ?_⟩
    unfold scanD
    dsimp only
    rw [hskipWord, scanSign_wordOf hc]
    dsimp only
    rw [decDigits_wordOf, if_neg hdigits, hvalue]

theorem toInt_ofInt_clamp (x : Int) : (BitVec.ofInt 32 (clampInt x)).toInt = clampInt x := by
  rw [BitVec.toInt_ofInt]
  unfold clampInt
  rw [Int.bmod_def]
  omega

/-- A number that is neither negative nor too large is the same for `%u`. -/
theorem scanU_of_scanD (h : scanD s = some (v, tail)) (hlo : 0 ≤ v.toInt)
    (hhi : v.toInt < 2147483647) : scanU s = some (v, tail) := by
  unfold scanD at h
  unfold scanU
  dsimp only at h ⊢
  split at h
  · cases h
  next hdigits =>
  rw [if_neg hdigits]
  simp only [Option.some.injEq, Prod.mk.injEq] at h ⊢
  refine ⟨?_, h.2⟩
  obtain ⟨hvalue, -⟩ := h
  generalize Nat.ofDigitChars 10 (decDigits (scanSign (skipSpace s)).2) 0 = n at hvalue ⊢
  have hclamp := toInt_ofInt_clamp
    (if (scanSign (skipSpace s)).1 = true then -(n : Int) else (n : Int))
  rw [hvalue] at hclamp
  cases hneg : (scanSign (skipSpace s)).1 with
  | true =>
    rw [hneg, if_pos rfl] at hclamp hvalue
    have hzero : n = 0 := by
      unfold clampInt at hclamp
      omega
    subst hzero
    rw [← hvalue]
    rfl
  | false =>
    rw [hneg, if_neg (by decide)] at hclamp hvalue
    have hsmall : n < 2147483647 := by
      unfold clampInt at hclamp
      omega
    have hsame : clampInt (n : Int) = n := by
      unfold clampInt
      omega
    rw [hsame, BitVec.ofInt_natCast] at hvalue
    rw [unsignedOf, if_neg (by omega), if_neg (by decide), hvalue]

end Clib
