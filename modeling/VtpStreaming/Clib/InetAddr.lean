import VtpStreaming.Clib.Scan

/-!
# Internet addresses in text

`inet_aton` takes one to four numbers with dots between them. A number is
decimal, octal behind a `0` or hexadecimal behind a `0x`, and the last one fills
the bytes that are left.
-/

namespace Clib

/-! ## Numbers of a C program -/

def octDigits (s : List Char) : List Char := s.takeWhile fun c => '0' ≤ c ∧ c ≤ '7'

/-- The digits behind an `x`. -/
def hexPart : List Char → List Char
  | x :: s => if x = 'x' ∨ x = 'X' then hexDigits s else []
  | [] => []

/-- `strtoul` with base 0, on a text that begins with a digit. -/
def scanNumber : List Char → Nat × List Char
  | '0' :: s =>
      if hexPart s = [] then
        (Nat.ofDigitChars 8 (octDigits ('0' :: s)) 0,
          ('0' :: s).drop (octDigits ('0' :: s)).length)
      else (ofHex (hexPart s), s.drop (1 + (hexPart s).length))
  | s => (Nat.ofDigitChars 10 (decDigits s) 0, s.drop (decDigits s).length)

def startsWith (p : Char → Bool) : List Char → Bool
  | [] => false
  | c :: _ => p c

/-! ## Addresses -/

/-- The parts of an address, `addr` the value of those before and `k` the dots
that may still come. -/
def inetParts : Nat → Nat → List Char → Option Nat
  | k, addr, s =>
      let (val, rest) := scanNumber s
      if !startsWith Char.isDigit s ∨ 2 ^ 32 ≤ val then none
      else if startsWith (· == '.') rest then
        match k with
        | 0 => none
        | k + 1 =>
            if 255 < val then none else inetParts k (addr + val * 256 ^ (k + 1)) rest.tail
      else if rest ≠ [] ∧ !startsWith isSpace rest then none
      else if 256 ^ (k + 1) ≤ val then none
      else some (addr + val)

/-- `inet_aton`, with the first part in the high byte. -/
def inetAton (s : List Char) : Option Word := (inetParts 3 0 s).map (BitVec.ofNat 32)

/-! ## Dotted quads -/

/-- `a.b.c.d`, each byte in decimal. -/
def dottedQuad (q : Fin 4 → Byte) : List Char :=
  fmtNat (q 0).toNat ++ '.' :: (fmtNat (q 1).toNat ++ '.' :: (fmtNat (q 2).toNat ++
    '.' :: fmtNat (q 3).toNat))

/-- The first byte is the high one. -/
def quadWord (q : Fin 4 → Byte) : Word :=
  (q 0).setWidth 32 <<< 24 ||| (q 1).setWidth 32 <<< 16 ||| (q 2).setWidth 32 <<< 8 |||
    (q 3).setWidth 32

variable {rest : List Char}

/-- A number is written without a zero in front. -/
theorem fmtNat_head {n : Nat} (hn : 0 < n) : ∃ c cs, fmtNat n = c :: cs ∧ c ≠ '0' := by
  induction n using Nat.strongRecOn with
  | ind n ih =>
    by_cases hsmall : n < 10
    · refine ⟨n.digitChar, [], Nat.toDigits_of_lt_base hsmall, ?_⟩
      intro hzero
      have hvalue := Nat.toNat_digitChar_of_lt_ten hsmall
      rw [hzero] at hvalue
      have h48 : '0'.toNat = 48 := rfl
      omega
    · obtain ⟨c, cs, hcons, hc⟩ := ih (n / 10) (by omega) (by omega)
      refine ⟨c, cs ++ [(n % 10).digitChar], ?_, hc⟩
      unfold fmtNat at hcons ⊢
      rw [Nat.toDigits_of_base_le (by decide) (by omega), hcons, List.cons_append]

/-- What a decimal number ends at. -/
abbrev NumberEnds (rest : List Char) : Prop :=
  Stops (fun c => c.isDigit || c == 'x' || c == 'X') rest

theorem NumberEnds.digit (h : NumberEnds rest) : Stops Char.isDigit rest := by
  cases rest with
  | nil => exact trivial
  | cons c cs =>
    simp only [NumberEnds, Stops, Bool.or_eq_false_iff] at h
    exact h.1.1

theorem NumberEnds.octal (h : NumberEnds rest) :
    Stops (fun c => decide ('0' ≤ c ∧ c ≤ '7')) rest := by
  cases rest with
  | nil => exact trivial
  | cons c cs =>
    have hdigit := h.digit
    simp only [Stops, Char.isDigit, Bool.and_eq_false_iff, decide_eq_false_iff_not] at hdigit ⊢
    rintro ⟨hlo, hhi⟩
    obtain hlow | hhigh := hdigit
    · exact hlow hlo
    · exact hhigh (Nat.le_trans hhi (by decide))

theorem NumberEnds.hexPart (h : NumberEnds rest) : hexPart rest = [] := by
  cases rest with
  | nil => rfl
  | cons c cs =>
    simp only [NumberEnds, Stops, Bool.or_eq_false_iff, beq_eq_false_iff_ne] at h
    rw [Clib.hexPart, if_neg]
    rintro (rfl | rfl)
    · exact h.1.2 rfl
    · exact h.2 rfl

/-- A decimal number is read back. -/
theorem scanNumber_fmtNat {n : Nat} (h : NumberEnds rest) :
    scanNumber (fmtNat n ++ rest) = (n, rest) := by
  cases n with
  | zero =>
    have hoct : octDigits ('0' :: rest) = ['0'] :=
      takeWhile_stops (w := ['0']) (List.all_eq_true.mp rfl) h.octal
    show scanNumber ('0' :: rest) = (0, rest)
    rw [scanNumber, if_pos h.hexPart, hoct]
    rfl
  | succ n =>
    obtain ⟨c, cs, hcons, hc⟩ := fmtNat_head (Nat.succ_pos n)
    have hdigits : decDigits (fmtNat (n + 1) ++ rest) = fmtNat (n + 1) :=
      takeWhile_stops (fun _ hd => fmtNat_digits hd) h.digit
    have hvalue : Nat.ofDigitChars 10 (fmtNat (n + 1)) 0 = n + 1 := Nat.ofDigitChars_ten_toDigits
    have hscan : scanNumber (fmtNat (n + 1) ++ rest) =
        (Nat.ofDigitChars 10 (decDigits (fmtNat (n + 1) ++ rest)) 0,
          (fmtNat (n + 1) ++ rest).drop (decDigits (fmtNat (n + 1) ++ rest)).length) := by
      rw [hcons, List.cons_append, scanNumber]
      rintro s heq
      exact hc (List.cons.inj heq).1
    rw [hscan, hdigits, hvalue, List.drop_left]

theorem startsWith_fmtNat (n : Nat) : startsWith Char.isDigit (fmtNat n ++ rest) = true := by
  obtain ⟨c, cs, hcons, hdigit⟩ := fmtNat_cons n
  rw [hcons]
  exact hdigit

/-- One part with a dot behind it. -/
theorem inetParts_dot {k addr : Nat} {b : Byte} :
    inetParts (k + 1) addr (fmtNat b.toNat ++ '.' :: rest) =
      inetParts k (addr + b.toNat * 256 ^ (k + 1)) rest := by
  have hb : b.toNat < 256 := b.isLt
  have hscan : scanNumber (fmtNat b.toNat ++ '.' :: rest) = (b.toNat, '.' :: rest) :=
    scanNumber_fmtNat rfl
  rw [inetParts, hscan, startsWith_fmtNat]
  have hdot : startsWith (· == '.') ('.' :: rest) = true := rfl
  dsimp only
  rw [if_neg (by simp; omega), if_pos hdot, if_neg (by omega), List.tail_cons]

/-- The last part. -/
theorem inetParts_last {addr : Nat} {b : Byte} :
    inetParts 0 addr (fmtNat b.toNat) = some (addr + b.toNat) := by
  have hb : b.toNat < 256 := b.isLt
  have hscan : scanNumber (fmtNat b.toNat ++ []) = (b.toNat, []) := scanNumber_fmtNat trivial
  have hstarts : startsWith Char.isDigit (fmtNat b.toNat ++ []) = true := startsWith_fmtNat _
  rw [List.append_nil] at hscan hstarts
  have hdot : ¬ startsWith (· == '.') [] = true := nofun
  rw [inetParts, hscan, hstarts]
  dsimp only
  rw [if_neg (by simp; omega), if_neg hdot, if_neg (by simp), if_neg (by omega)]

theorem quadWord_eq (q : Fin 4 → Byte) :
    quadWord q = BitVec.ofNat 32 ((q 0).toNat * 256 ^ 3 + (q 1).toNat * 256 ^ 2 +
      (q 2).toNat * 256 ^ 1 + (q 3).toNat) := by
  have h₀ : (q 0).toNat < 256 := (q 0).isLt
  have h₁ : (q 1).toNat < 256 := (q 1).isLt
  have h₂ : (q 2).toNat < 256 := (q 2).isLt
  have h₃ : (q 3).toNat < 256 := (q 3).isLt
  -- the bytes do not overlap, so that they add up
  have hlow : (q 2).toNat <<< 8 ||| (q 3).toNat = (q 2).toNat * 256 + (q 3).toNat := by
    rw [← Nat.shiftLeft_add_eq_or_of_lt h₃, Nat.shiftLeft_eq]
  have hmid : (q 1).toNat <<< 16 ||| ((q 2).toNat * 256 + (q 3).toNat) =
      (q 1).toNat * 65536 + ((q 2).toNat * 256 + (q 3).toNat) := by
    rw [← Nat.shiftLeft_add_eq_or_of_lt (by omega), Nat.shiftLeft_eq]
  have hhigh : (q 0).toNat <<< 24 |||
      ((q 1).toNat * 65536 + ((q 2).toNat * 256 + (q 3).toNat)) =
      (q 0).toNat * 16777216 + ((q 1).toNat * 65536 + ((q 2).toNat * 256 + (q 3).toNat)) := by
    rw [← Nat.shiftLeft_add_eq_or_of_lt (by omega), Nat.shiftLeft_eq]
  apply BitVec.eq_of_toNat_eq
  have hword : (quadWord q).toNat = (q 0).toNat <<< 24 ||| ((q 1).toNat <<< 16 |||
      ((q 2).toNat <<< 8 ||| (q 3).toNat)) := by
    simp only [quadWord, BitVec.toNat_or, BitVec.toNat_shiftLeft, BitVec.toNat_setWidth,
      Nat.shiftLeft_eq, Nat.or_assoc]
    repeat rw [Nat.mod_eq_of_lt (by omega)]
  rw [hword, hlow, hmid, hhigh, BitVec.toNat_ofNat, Nat.mod_eq_of_lt (by omega)]
  omega

/-- A dotted quad is read as its word. -/
theorem inetAton_dottedQuad (q : Fin 4 → Byte) : inetAton (dottedQuad q) = some (quadWord q) := by
  unfold inetAton dottedQuad
  rw [inetParts_dot, inetParts_dot, inetParts_dot, inetParts_last, Option.map_some, quadWord_eq,
    Nat.zero_add]

end Clib
