import Mathlib.Data.Nat.Log
import VtpStreaming.Clib.Scan

/-!
# Lines that are printed

A line is a keyword and what the conversions of `printf` write behind it, with a
blank in front of each. What `sscanf` finds in such a line is what was printed.
-/

namespace Clib

/-! ## Hexadecimal digits -/

/-- The number of hexadecimal digits. -/
def hexLength (v : Nat) : Nat := Nat.log 16 v + 1

/-- The last `k` hexadecimal digits. -/
def hexText (k v : Nat) : List Char :=
  (List.range k).reverse.map fun i => hexUpper (v / 16 ^ i % 16)

/-- `%0nX`: at least `n` digits, and as many as the number has. -/
def fmtX (n : Nat) (w : Word) : List Char := hexText (max n (hexLength w.toNat)) w.toNat

theorem hexLength_le (w : Word) : hexLength w.toNat ≤ 8 := by
  have hlog : Nat.log 16 w.toNat < 8 := by
    by_cases hzero : w.toNat = 0
    · rw [hzero]
      decide
    · exact Nat.log_lt_of_lt_pow hzero (by have := w.isLt; omega)
  unfold hexLength
  omega

theorem hexText_length (k v : Nat) : (hexText k v).length = k := by
  simp [hexText]

theorem hexText_mem {k v : Nat} {c : Char} (hc : c ∈ hexText k v) :
    ∃ d : Fin 16, c = hexUpper d.val := by
  obtain ⟨i, -, rfl⟩ := List.mem_map.mp hc
  exact ⟨⟨v / 16 ^ i % 16, Nat.mod_lt _ (by decide)⟩, rfl⟩

theorem hexText_succ (k v : Nat) :
    hexText (k + 1) v = hexUpper (v / 16 ^ k % 16) :: hexText k v := by
  simp [hexText, List.range_succ]

/-- The digits behind a number that is read already. -/
theorem foldl_hexText (k v n : Nat) :
    (hexText k v).foldl (fun n c => 16 * n + (hexVal c).getD 0) n = n * 16 ^ k + v % 16 ^ k := by
  induction k generalizing n with
  | zero => simp [hexText, Nat.mod_one]
  | succ k ih =>
    have hdigit : (hexVal (hexUpper (v / 16 ^ k % 16))).getD 0 = v / 16 ^ k % 16 := by
      rw [hexVal_hexUpper ⟨v / 16 ^ k % 16, Nat.mod_lt _ (by decide)⟩, Option.getD_some]
    rw [hexText_succ, List.foldl_cons, ih, hdigit, Nat.mod_pow_succ, Nat.pow_succ]
    ring

theorem ofHex_fmtX (n : Nat) (w : Word) : ofHex (fmtX n w) = w.toNat := by
  have hlt : w.toNat < 16 ^ max n (hexLength w.toNat) :=
    Nat.lt_of_lt_of_le (Nat.lt_pow_succ_log_self (by decide) _)
      (Nat.pow_le_pow_right (by decide) (Nat.le_max_right _ _))
  rw [ofHex, fmtX, foldl_hexText, Nat.zero_mul, Nat.zero_add, Nat.mod_eq_of_lt hlt]

/-- Digits that are no prefix `0x` are all read by `%X`. -/
theorem scanX_hexText {k v : Nat} {rest : List Char} (hk : 2 ≤ k)
    (hstop : Stops (fun c => (hexVal c).isSome) rest) :
    scanX (hexText k v ++ rest) = some (unsignedOf false (ofHex (hexText k v)), rest) := by
  obtain ⟨k, rfl⟩ : ∃ j, k = j + 2 := ⟨k - 2, by omega⟩
  obtain ⟨-, hx, hX, -, -⟩ := hexUpper_plain ⟨v / 16 ^ k % 16, Nat.mod_lt _ (by decide)⟩
  obtain ⟨hspace, -, -, hminus, hplus⟩ :=
    hexUpper_plain ⟨v / 16 ^ (k + 1) % 16, Nat.mod_lt _ (by decide)⟩
  have hcons : hexText (k + 2) v ++ rest = hexUpper (v / 16 ^ (k + 1) % 16) ::
      hexUpper (v / 16 ^ k % 16) :: (hexText k v ++ rest) := by
    rw [hexText_succ, hexText_succ]
    rfl
  have hskip : skipSpace (hexText (k + 2) v ++ rest) = hexText (k + 2) v ++ rest := by
    rw [hcons, skipSpace, List.dropWhile_cons, if_neg (by simpa using hspace)]
  have hsign : scanSign (hexText (k + 2) v ++ rest) = (false, hexText (k + 2) v ++ rest) := by
    rw [hcons, scanSign]
    · rintro t heq
      exact hminus (List.cons.inj heq).1
    · rintro t heq
      exact hplus (List.cons.inj heq).1
  have hdigits : hexDigits (hexText (k + 2) v ++ rest) = hexText (k + 2) v := by
    apply takeWhile_stops _ hstop
    intro c hc
    obtain ⟨d, rfl⟩ := hexText_mem hc
    rw [hexVal_hexUpper]
    rfl
  have hne : hexText (k + 2) v ≠ [] := by
    rw [hexText_succ]
    exact List.cons_ne_nil _ _
  rw [scanX, hskip, hsign]
  dsimp only
  split
  · next u heq =>
    rw [hcons] at heq
    exact absurd (List.cons.inj (List.cons.inj heq).2).1 hx
  · next u heq =>
    rw [hcons] at heq
    exact absurd (List.cons.inj (List.cons.inj heq).2).1 hX
  · rw [hdigits, if_neg hne, List.drop_left]

/-- `%X` behind the literal `0x` reads back what `0x%0nX` has written. -/
theorem scanLitX_fmtX {n : Nat} {w : Word} {ws rest : List Char} (hn : 2 ≤ n) (hblank : Blank ws)
    (hstop : Stops (fun c => (hexVal c).isSome) rest) :
    scanLitX (ws ++ ('0' :: 'x' :: fmtX n w) ++ rest) = some (w, rest) := by
  have hskip : skipSpace (ws ++ ('0' :: 'x' :: fmtX n w) ++ rest) =
      '0' :: 'x' :: (fmtX n w ++ rest) := by
    rw [List.append_assoc]
    exact skipSpace_append hblank rfl
  have hlength : 2 ≤ max n (hexLength w.toNat) := Nat.le_trans hn (Nat.le_max_left _ _)
  have hscan : scanX (fmtX n w ++ rest) = some (unsignedOf false (ofHex (fmtX n w)), rest) :=
    scanX_hexText hlength hstop
  have hw := w.isLt
  rw [scanLitX, hskip]
  show scanX (fmtX n w ++ rest) = some (w, rest)
  rw [hscan, ofHex_fmtX, unsignedOf, if_neg (by omega), if_neg (by decide), BitVec.ofNat_toNat,
    BitVec.setWidth_eq]

/-! ## Lines -/

/-- What one conversion writes: `%d`, `0x%0nX`, or a text that is given. -/
inductive Item
  | d (w : Word)
  | x (n : Nat) (w : Word)
  | word (s : List Char)

def Item.text : Item → List Char
  | .d w => fmtD w
  | .x n w => '0' :: 'x' :: fmtX n w
  | .word s => s

/-- The integer that is written. -/
def Item.value : Item → Option Word
  | .d w => some w
  | .x _ w => some w
  | .word _ => none

/-- A keyword and what is written behind it. -/
structure TextLine where
  key : String
  items : List Item

/-- The items of a line, a blank in front of each. -/
def itemsText (items : List Item) : List Char := items.flatMap fun i => ' ' :: i.text

def TextLine.text (l : TextLine) : List Char := l.key.toList ++ itemsText l.items

/-- The keyword and the integers of a line. -/
def TextLine.values (l : TextLine) : String × List Word := (l.key, l.items.filterMap Item.value)

/-- Lines with their ends. -/
def linesText (ls : List TextLine) : List Char := ls.flatMap fun l => l.text ++ ['\n']

/-- A line of integers. -/
def intLine (key : String) (ws : List Word) : TextLine := ⟨key, ws.map .d⟩

/-- A line of integers in hexadecimal, `n` digits wide. -/
def litLine (key : String) (n : Nat) (ws : List Word) : TextLine := ⟨key, ws.map (.x n)⟩

/-- An index that is printed. -/
def indexWord {n : Nat} (i : Fin n) : Word := BitVec.ofNat 32 i.val

theorem indexWord_toInt {n : Nat} (hn : n ≤ 2 ^ 31) (i : Fin n) : (indexWord i).toInt = i.val := by
  have hi := i.isLt
  have hsmall : i.val < 2 ^ 32 := by omega
  rw [indexWord, BitVec.toInt_eq_toNat_cond, BitVec.toNat_ofNat, Nat.mod_eq_of_lt hsmall,
    if_pos (by omega)]

theorem linesText_append (ls ms : List TextLine) :
    linesText (ls ++ ms) = linesText ls ++ linesText ms :=
  List.flatMap_append

/-! ### What is scanned -/

/-- The values behind the keyword, all of them written in the same way. -/
theorem scanArgs_line {conv : List Char → Option (Word × List Char)} {item : Word → Item}
    {p : Char → Bool} {key : String}
    (one : ∀ ws v rest, Blank ws → Stops p rest →
      conv (ws ++ (item v).text ++ rest) = some (v, rest))
    (space : ∀ c, isSpace c = true → p c = false) (hkey : IsWord key.toList) (vs : List Word) :
    scanArgs conv vs.length ((TextLine.mk key (vs.map item)).text ++ ['\n']) = vs := by
  cases vs with
  | nil =>
    unfold scanArgs
    split <;> rfl
  | cons v vs =>
    have hscan := @scanArgs_items ['\n'] Word conv (fun w => (item w).text) id p key.toList one
      space hkey ((v :: vs).map fun w => ([' '], w)) (by simp [Blank, isSpace]) (List.cons_ne_nil _ _)
      (space _ rfl)
    rw [List.length_map, List.map_map, List.flatMap_map] at hscan
    have htext : (TextLine.mk key ((v :: vs).map item)).text ++ ['\n'] =
        key.toList ++ (((v :: vs).flatMap fun w => [' '] ++ (item w).text) ++ ['\n']) := by
      rw [TextLine.text, itemsText, List.flatMap_map, List.append_assoc]
      rfl
    rw [htext, hscan]
    exact List.map_id _

theorem scanArgs_intLine {key : String} (hkey : IsWord key.toList) (vs : List Word) :
    scanArgs scanD vs.length ((intLine key vs).text ++ ['\n']) = vs :=
  scanArgs_line (fun _ _ _ hblank hstop => scanD_fmtD hblank hstop) (fun _ => isSpace_not_digit)
    hkey vs

theorem scanArgs_litLine {key : String} {n : Nat} (hn : 2 ≤ n) (hkey : IsWord key.toList)
    (vs : List Word) :
    scanArgs scanLitX vs.length ((litLine key n vs).text ++ ['\n']) = vs :=
  scanArgs_line (fun _ _ _ hblank hstop => scanLitX_fmtX hn hblank hstop)
    (fun _ => isSpace_not_hex) hkey vs

/-! ### The shape of what is written -/

theorem Item.plain_d (w : Word) : Plain 11 (Item.d w).text := fmtD_plain w

theorem Item.plain_x {n : Nat} (hn : n ≤ 8) (w : Word) : Plain 10 (Item.x n w).text := by
  have hchar : ∀ d : Fin 16, hexUpper d.val ≠ '\n' ∧ hexUpper d.val ≠ '\x00' := by decide
  have hlength := hexLength_le w
  refine Plain.append (m := 2) (s := ['0', 'x']) ⟨by decide, by decide, by decide⟩
    (n := 8) ⟨?_, ?_, ?_⟩
  · show (hexText _ _).length ≤ 8
    rw [hexText_length]
    omega
  · intro hmem
    obtain ⟨d, hd⟩ := hexText_mem hmem
    exact (hchar d).1 hd.symm
  · intro hmem
    obtain ⟨d, hd⟩ := hexText_mem hmem
    exact (hchar d).2 hd.symm

/-- Text without white space. -/
theorem Item.solid_d (w : Word) : IsWord (Item.d w).text := by
  obtain ⟨c, cs, hcons, -⟩ := fmtNat_cons w.toInt.natAbs
  refine ⟨?_, ?_⟩
  · show fmtD w ≠ []
    unfold fmtD
    split
    · exact List.cons_ne_nil _ _
    · rw [hcons]
      exact List.cons_ne_nil _ _
  · intro d hd
    change d ∈ fmtD w at hd
    unfold fmtD at hd
    split at hd
    · rcases List.mem_cons.mp hd with rfl | hd
      · rfl
      · exact isDigit_not_space (fmtNat_digits hd)
    · exact isDigit_not_space (fmtNat_digits hd)

theorem Item.solid_x (n : Nat) (w : Word) : IsWord (Item.x n w).text := by
  refine ⟨List.cons_ne_nil _ _, ?_⟩
  intro c hc
  change c ∈ '0' :: 'x' :: fmtX n w at hc
  rcases List.mem_cons.mp hc with rfl | hc
  · rfl
  rcases List.mem_cons.mp hc with rfl | hc
  · rfl
  obtain ⟨d, rfl⟩ := hexText_mem hc
  exact (hexUpper_plain d).1

theorem plain_itemsText {items : List Item} {k : Nat} (h : ∀ i ∈ items, Plain k i.text) :
    Plain (items.length * (k + 1)) (itemsText items) := by
  induction items with
  | nil => exact plain_nil.mono (Nat.zero_le _)
  | cons i items ih =>
    have hblank : Plain 1 [' '] := ⟨by decide, by decide, by decide⟩
    have hhead := hblank.append (h i List.mem_cons_self)
    have htail := ih fun j hj => h j (List.mem_cons_of_mem _ hj)
    exact (hhead.append htail).mono (by rw [List.length_cons, Nat.add_mul]; omega)

end Clib
