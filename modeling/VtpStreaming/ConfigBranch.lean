import VtpStreaming.Clib.Scan
import VtpStreaming.Conf

/-!
# The branches of the configuration parser

`vtp/vtpConfig.c`, `vtpReadConfigFile`. A line goes to the branch of its
keyword, which scans the line and stores into one part of the configuration.
Most branches are of a few kinds, and each kind is one definition here.
-/

namespace VtpStreaming

open Clib

/-- The variables of the function that live from one line to the next, next to
the keyword: nothing sets `msk` and `trg_bit` before the first line that does. -/
structure Locals where
  msk : Fin 16 → Word
  trgBit : Word
  streamingEb : Fin 2
deriving Inhabited

/-- What a line does: go on, return from the function, or store out of bounds. -/
inductive Outcome (σ : Type)
  | next (s : σ)
  | ret (code : Int) (s : σ)
  | fault

abbrev Branch (σ : Type) := List Char → σ × Locals → Outcome (σ × Locals)

/-! ## Scanning a line -/

/-- The `argi` of a line. They are cleared for every line. -/
def argi (conv : List Char → Option (Word × List Char)) (n : Nat) (line : List Char) (i : Nat) :
    Word :=
  (scanArgs conv n line).getD i 0#32

/-- `%f`, in decimal notation: the text of the number. -/
def scanF (s : List Char) : Option (FloatText × List Char) :=
  let t := skipSpace s
  let sign := if (scanSign t).2.length < t.length then t.take 1 else []
  let u := (scanSign t).2
  let whole := decDigits u
  let u := u.drop whole.length
  let (fraction, u) := match u with
    | '.' :: v => ('.' :: decDigits v, v.drop (decDigits v).length)
    | u => ([], u)
  let (exponent, u) := match u with
    | c :: v =>
        let digits := decDigits (scanSign v).2
        if (c = 'e' ∨ c = 'E') ∧ digits ≠ [] then
          (c :: v.take (v.length - (scanSign v).2.length) ++ digits,
            (scanSign v).2.drop digits.length)
        else ([], u)
    | [] => ([], u)
  if whole = [] ∧ fraction.length ≤ 1 then none
  else some (sign ++ whole ++ fraction ++ exponent, u)

/-- The directives of a format that mixes `%d` and `%f`. -/
inductive Directive
  | d
  | f

/-- The values of the conversions, up to the first that fails. -/
def scanMixed : List Directive → List Char → List (Word ⊕ FloatText)
  | [], _ => []
  | .d :: ds, s =>
      match scanD s with
      | none => []
      | some (w, rest) => .inl w :: scanMixed ds rest
  | .f :: ds, s =>
      match scanF s with
      | none => []
      | some (x, rest) => .inr x :: scanMixed ds rest

def mixedArgs (ds : List Directive) (line : List Char) : List (Word ⊕ FloatText) :=
  match scanWord line with
  | none => []
  | some (_, rest) => scanMixed ds rest

/-- The integer at position `i` of the format. -/
def intAt (vs : List (Word ⊕ FloatText)) (i : Nat) : Word :=
  match vs[i]? with
  | some (.inl w) => w
  | _ => 0#32

/-- The float at position `i` of the format. -/
def floatAt (vs : List (Word ⊕ FloatText)) (i : Nat) : FloatText :=
  match vs[i]? with
  | some (.inr x) => x
  | _ => []

/-- `msk` after a scan of its first `n` bits: a bit that the line does not give
keeps its value. -/
def scanMsk (values : List Word) (n : Nat) (msk : Fin 16 → Word) (j : Fin 16) : Word :=
  if j.val < n then values.getD j.val (msk j) else msk j

/-- Every one of the first `n` bits is 0 or 1. -/
def mskOk (n : Nat) (msk : Fin 16 → Word) : Bool :=
  (List.finRange 16).all fun j => n ≤ j.val || !((msk j).toInt < 0 || (msk j).toInt > 1)

/-- `ui1`. -/
def mskWord (n : Nat) (msk : Fin 16 → Word) : Word :=
  (List.finRange 16).foldl (fun ui1 j => if j.val < n then ui1 ||| (msk j <<< j.val) else ui1) 0#32

/-! ## Kinds of branches -/

variable {σ : Type}

/-- `%d`, `n` times. -/
def ints (n : Nat) (store : (Nat → Word) → σ → σ) : Branch σ :=
  fun line s => .next (store (argi scanD n line) s.1, s.2)

/-- One `%d`, stored when it is in range. Otherwise a warning is printed. -/
def ranged (ok : Int → Bool) (store : Word → σ → σ) : Branch σ :=
  fun line s =>
    let a := argi scanD 1 line 0
    .next (if ok a.toInt then store a s.1 else s.1, s.2)

/-- `%250s`, stored when the line has a second word. -/
def text (store : List Char → σ → σ) : Branch σ :=
  fun line s =>
    match (scanWord line).bind fun w => scanString 250 w.2 with
    | none => .next s
    | some (w, _) => .next (store w s.1, s.2)

/-- `0x%X` into sixteen places, as many as the line has. -/
def chEn (get : σ → Fin 16 → Word) (put : (Fin 16 → Word) → σ → σ) : Branch σ :=
  fun line s =>
    .next (put (fun j => (scanArgs scanLitX 16 line).getD j.val (get s.1 j)) s.1, s.2)

/-- `%d`, `k` times, the first of them an index below `n`. -/
def indexed (n k : Nat) (store : Fin n → (Nat → Word) → σ → σ) : Branch σ :=
  fun line s =>
    let a := argi scanD k line
    if h : 0 ≤ (a 0).toInt ∧ (a 0).toInt < n then
      .next (store ⟨(a 0).toInt.toNat, by omega⟩ a s.1, s.2)
    else .ret (-4) s

/-- The same for a format that mixes integers and floats. -/
def indexedMixed (n : Nat) (ds : List Directive)
    (store : Fin n → List (Word ⊕ FloatText) → σ → σ) : Branch σ :=
  fun line s =>
    let vs := mixedArgs ds line
    if h : 0 ≤ (intAt vs 0).toInt ∧ (intAt vs 0).toInt < n then
      .next (store ⟨(intAt vs 0).toInt.toNat, by omega⟩ vs s.1, s.2)
    else .ret (-4) s

/-- A part that is read where it was written. -/
structure IsPart {τ : Type} (get : σ → τ) (put : σ → τ → σ) : Prop where
  get_put : ∀ s v, get (put s v) = v
  put_put : ∀ s v w, put (put s v) w = put s w
  put_get : ∀ s, put s (get s) = s

/-- A branch of one part of the configuration as a branch of the whole. -/
def Branch.on {τ : Type} (get : σ → τ) (put : σ → τ → σ) (b : Branch τ) : Branch σ :=
  fun line s =>
    match b line (get s.1, s.2) with
    | .next (t, l) => .next (put s.1 t, l)
    | .ret code (t, l) => .ret code (put s.1 t, l)
    | .fault => .fault

/-- All branches of one part. -/
def onPart {τ : Type} (get : σ → τ) (put : σ → τ → σ) (keys : List (String × Branch τ)) :
    List (String × Branch σ) :=
  keys.map fun key => (key.1, key.2.on get put)

/-! ## Keywords -/

/-- Among keywords that are all different, each is found. -/
theorem find_keyword {α : Type} {keys : List (String × α)} {name : String} {a : α}
    (hnodup : (keys.map fun key => key.1.toList).Nodup) (hmem : (name, a) ∈ keys) :
    keys.find? (fun key => key.1.toList == name.toList) = some (name, a) := by
  obtain ⟨i, hi, hget⟩ := List.getElem_of_mem hmem
  rw [List.find?_eq_some_iff_getElem]
  refine ⟨by simp, i, hi, hget, ?_⟩
  intro j hj
  rw [List.nodup_iff_injective_getElem] at hnodup
  have hne : keys[j].1.toList ≠ name.toList := by
    intro heq
    have hinj := @hnodup ⟨j, by simp; omega⟩ ⟨i, by simp; omega⟩ (by simpa [hget] using heq)
    simp only [Fin.mk.injEq] at hinj
    omega
  simpa using hne

end VtpStreaming
