import VtpStreaming.ConfigFrame
import VtpStreaming.ConfigNames

/-!
# Variables that nothing has set

`msk` and `trg_bit` live from line to line, and no line before the first that
scans them has given them a value. Here is which keywords use them, and that no
other branch depends on them or stores out of bounds.
-/

namespace VtpStreaming

open Clib

/-! ## The variables -/

inductive Cell
  | msk (j : Fin 16)
  | trgBit
deriving DecidableEq

def Cell.get (l : Locals) : Cell → Word
  | .msk j => l.msk j
  | .trgBit => l.trgBit

/-- What a line does with the variables: those it scans, and those it looks at
after the scan. -/
structure LocalUse where
  assigns : List Char → Cell → Bool
  reads : List Char → Locals → Cell → Bool

def LocalUse.none : LocalUse := ⟨fun _ _ => false, fun _ _ _ => false⟩

/-- `GET_READ_MSK` and its variants look at one bit after the other, up to the
first that is wrong. -/
def mskUse (values : List Char → List Word) (n : Nat) (looks : List Char → Bool) : LocalUse where
  assigns line
    | .msk j => decide (j.val < n) && decide (j.val < (values line).length)
    | .trgBit => false
  reads line l
    | .msk j => looks line && decide (j.val < n) && mskOk j.val (scanMsk (values line) n l.msk)
    | .trgBit => false

def gtTrgUse : LocalUse where
  assigns line
    | .msk _ => false
    | .trgBit => (scanArgs scanD 1 line).length ≠ 0
  reads _ _
    | .msk _ => false
    | .trgBit => true

def trgBitUse : LocalUse where
  assigns _ _ := false
  reads _ _
    | .msk _ => false
    | .trgBit => true

def comptonIndexOk (line : List Char) : Bool :=
  let a := (scanArgs scanD 17 line).getD 0 0#32
  0 ≤ a.toInt && a.toInt < 5

/-- The keywords that use the variables. -/
def localUses : List (String × LocalUse) :=
  [("VTP_PAYLOAD_EN", mskUse (scanArgs scanD 16) 16 fun _ => true),
   ("VTP_FIBER_EN", mskUse (scanArgs scanD 4) 4 fun _ => true),
   ("VTP_STREAMING_SLOT_EN", mskUse (scanArgs scanD 8) 8 fun _ => true),
   ("VTP_COMPTON_FADC_EN_MASK", mskUse (fun line => (scanArgs scanD 17 line).tail) 16 comptonIndexOk),
   ("VTP_GT_TRG", gtTrgUse),
   ("VTP_GT_TRG_SSP_STRIGGER_MASK", trgBitUse),
   ("VTP_GT_TRG_SSP_CTRIGGER_MASK", trgBitUse),
   ("VTP_GT_TRG_SSP_SECTOR_MASK", trgBitUse),
   ("VTP_GT_TRG_SSP_SECTOR_MULT_MIN", trgBitUse),
   ("VTP_GT_TRG_SSP_SECTOR_WIDTH", trgBitUse),
   ("VTP_GT_TRG_PULSER_FREQ", trgBitUse),
   ("VTP_GT_TRG_DELAY", trgBitUse),
   ("VTP_GT_TRG_PRESCALE", trgBitUse)]

/-! ## Branches -/

section Branches

variable {σ τ : Type}

/-- Two outcomes that differ at most in variables outside `known`, and none of
which is a store out of bounds. -/
inductive SameOutcome (known : Cell → Prop) : Outcome (σ × Locals) → Outcome (σ × Locals) → Prop
  | next (c : σ) (l l' : Locals) : l.streamingEb = l'.streamingEb →
      (∀ x, known x → x.get l = x.get l') → SameOutcome known (.next (c, l)) (.next (c, l'))
  | ret (code : Int) (c : σ) (l l' : Locals) : SameOutcome known (.ret code (c, l)) (.ret code (c, l'))

/-- A branch that stores in bounds, and whose result depends on no variable but
those it reads. -/
def Scoped (u : LocalUse) (b : Branch σ) : Prop :=
  ∀ line c l l' (known : Cell → Prop), l.streamingEb = l'.streamingEb →
    (∀ x, known x → x.get l = x.get l') →
    (∀ x, u.reads line l x = true → known x ∨ u.assigns line x = true) →
    SameOutcome (fun x => known x ∨ u.assigns line x = true) (b line (c, l)) (b line (c, l'))

/-- A line that neither ends the call nor has to do with the variables. -/
theorem scoped_next (store : List Char → Fin 2 → σ → σ) :
    Scoped .none fun line s => .next (store line s.2.streamingEb s.1, s.2) := by
  intro line c l l' known heb hknown _
  have hsame : store line l'.streamingEb c = store line l.streamingEb c := by rw [heb]
  show SameOutcome _ (.next (store line l.streamingEb c, l)) (.next (store line l'.streamingEb c, l'))
  rw [hsame]
  exact .next _ l l' heb fun x hx => hknown x (hx.resolve_right Bool.false_ne_true)

@[simp] theorem scoped_ints (n : Nat) (store : (Nat → Word) → σ → σ) :
    Scoped .none (ints n store) :=
  scoped_next fun line _ => store (argi scanD n line)

@[simp] theorem scoped_ranged (ok : Int → Bool) (store : Word → σ → σ) :
    Scoped .none (ranged ok store) :=
  scoped_next fun line _ c =>
    if ok (argi scanD 1 line 0).toInt then store (argi scanD 1 line 0) c else c

@[simp] theorem scoped_chEn (get : σ → Fin 16 → Word) (put : (Fin 16 → Word) → σ → σ) :
    Scoped .none (chEn get put) :=
  scoped_next fun line _ c => put (fun j => (scanArgs scanLitX 16 line).getD j.val (get c j)) c

@[simp] theorem scoped_text (store : List Char → σ → σ) : Scoped .none (text store) := by
  intro line c l l' known heb hknown _
  have hcells : ∀ x, known x ∨ LocalUse.none.assigns line x = true → x.get l = x.get l' :=
    fun x hx => hknown x (hx.resolve_right Bool.false_ne_true)
  unfold text
  cases (scanWord line).bind fun w => scanString 250 w.2 with
  | none => exact .next c l l' heb hcells
  | some w => exact .next (store w.1 c) l l' heb hcells

@[simp] theorem scoped_indexed (n k : Nat) (store : Fin n → (Nat → Word) → σ → σ) :
    Scoped .none (indexed n k store) := by
  intro line c l l' known heb hknown _
  unfold indexed
  dsimp only
  split
  · exact .next _ l l' heb fun x hx => hknown x (hx.resolve_right Bool.false_ne_true)
  · exact .ret (-4) c l l'

@[simp] theorem scoped_indexedMixed (n : Nat) (ds : List Directive)
    (store : Fin n → List (Word ⊕ FloatText) → σ → σ) : Scoped .none (indexedMixed n ds store) := by
  intro line c l l' known heb hknown _
  unfold indexedMixed
  dsimp only
  split
  · exact .next _ l l' heb fun x hx => hknown x (hx.resolve_right Bool.false_ne_true)
  · exact .ret (-4) c l l'

theorem Scoped.on {u : LocalUse} {b : Branch τ} (hb : Scoped u b) (get : σ → τ) (put : σ → τ → σ) :
    Scoped u (b.on get put) := by
  intro line c l l' known heb hknown hreads
  have hsame := hb line (get c) l l' known heb hknown hreads
  unfold Branch.on
  dsimp only
  generalize b line (get c, l) = o at hsame ⊢
  generalize b line (get c, l') = o' at hsame ⊢
  cases hsame with
  | next t k k' hk hcells => exact .next (put c t) k k' hk hcells
  | ret code t k k' => exact .ret code (put c t) k k'

theorem onPart_scoped {p : String → Prop} {keys : List (String × Branch τ)}
    (h : ∀ key ∈ keys, Scoped .none key.2 ∨ p key.1) (get : σ → τ) (put : σ → τ → σ) :
    ∀ key ∈ onPart get put keys, Scoped .none key.2 ∨ p key.1 := by
  unfold onPart
  rw [List.forall_mem_map]
  intro key hkey
  rcases h key hkey with hscoped | hname
  · exact .inl (hscoped.on get put)
  · exact .inr hname

/-! ## Masks -/

theorem mskOk_iff {n : Nat} {msk : Fin 16 → Word} :
    mskOk n msk = true ↔
      ∀ j : Fin 16, j.val < n → ((msk j).toInt < 0 || (msk j).toInt > 1) = false := by
  simp only [mskOk, List.all_eq_true, List.mem_finRange, Bool.or_eq_true, decide_eq_true_eq,
    Bool.not_eq_true', forall_const]
  refine forall_congr' fun j => ?_
  constructor
  · intro h hj
    exact h.resolve_left (Nat.not_le.mpr hj)
  · intro h
    by_cases hj : j.val < n
    · exact .inr (h hj)
    · exact .inl (Nat.not_lt.mp hj)

theorem mskOk_succ {n : Nat} {msk : Fin 16 → Word} :
    mskOk (n + 1) msk = true ↔ mskOk n msk = true ∧
      ∀ j : Fin 16, j.val = n → ((msk j).toInt < 0 || (msk j).toInt > 1) = false := by
  rw [mskOk_iff, mskOk_iff, ← forall_and]
  refine forall_congr' fun j => ?_
  rw [Nat.lt_succ_iff_lt_or_eq, or_imp]

variable {values : List Word} {n : Nat} {msk msk' : Fin 16 → Word} {known : Cell → Prop}

/-- A bit that is known before the scan or scanned. -/
theorem scanMsk_same {j : Fin 16} (hknown : known (.msk j) → msk j = msk' j)
    (h : known (.msk j) ∨ (j.val < n ∧ j.val < values.length)) :
    scanMsk values n msk j = scanMsk values n msk' j := by
  unfold scanMsk
  rcases h with hj | ⟨hj, hlen⟩
  · rw [hknown hj]
  · rw [if_pos hj, if_pos hj, List.getD_eq_getElem?_getD, List.getD_eq_getElem?_getD,
      List.getElem?_eq_getElem hlen]
    rfl

/-- The bits that are looked at decide whether all are right, and what they are. -/
theorem mskOk_same (hknown : ∀ j, known (.msk j) → msk j = msk' j)
    (hreads : ∀ j : Fin 16, j.val < n → mskOk j.val (scanMsk values n msk) = true →
      known (.msk j) ∨ j.val < values.length) :
    mskOk n (scanMsk values n msk) = mskOk n (scanMsk values n msk') ∧
      (mskOk n (scanMsk values n msk) = true →
        ∀ j : Fin 16, j.val < n → scanMsk values n msk j = scanMsk values n msk' j) := by
  have hupto : ∀ k ≤ n,
      (mskOk k (scanMsk values n msk) = true ↔ mskOk k (scanMsk values n msk') = true) ∧
        (mskOk k (scanMsk values n msk) = true →
          ∀ j : Fin 16, j.val < k → scanMsk values n msk j = scanMsk values n msk' j) := by
    intro k hk
    induction k with
    | zero => exact ⟨by simp [mskOk_iff], fun _ j hj => absurd hj (Nat.not_lt_zero _)⟩
    | succ k ih =>
      obtain ⟨hok, hsame⟩ := ih (Nat.le_of_succ_le hk)
      -- bit `k` is looked at when the bits before it are right
      have hbit : mskOk k (scanMsk values n msk) = true → ∀ j : Fin 16, j.val = k →
          scanMsk values n msk j = scanMsk values n msk' j := by
        intro hbefore j hj
        have hlt : j.val < n := by omega
        refine scanMsk_same (hknown j) ((hreads j hlt ?_).imp_right fun hlen => ⟨hlt, hlen⟩)
        rw [hj]
        exact hbefore
      rw [mskOk_succ, mskOk_succ, ← hok]
      refine ⟨and_congr_right fun hbefore => forall_congr' fun j => ?_, ?_⟩
      · exact imp_congr_right fun hj => by rw [hbit hbefore j hj]
      · intro h j hj
        rcases Nat.lt_succ_iff_lt_or_eq.mp hj with hlt | heq
        · exact hsame h.1 j hlt
        · exact hbit h.1 j heq
  obtain ⟨hok, hsame⟩ := hupto n (Nat.le_refl n)
  exact ⟨Bool.eq_iff_iff.mpr hok, hsame⟩

theorem mskWord_same (h : ∀ j : Fin 16, j.val < n → msk j = msk' j) :
    mskWord n msk = mskWord n msk' := by
  unfold mskWord
  congr 1
  funext ui1 j
  split
  · next hj => rw [h j hj]
  · rfl

/-- What is known after the scan of a mask. -/
theorem scanMsk_cells {scan : List Char → List Word} {n : Nat} {looks : List Char → Bool}
    {line : List Char} {l l' : Locals} (hknown : ∀ x, known x → x.get l = x.get l') (x : Cell)
    (hx : known x ∨ (mskUse scan n looks).assigns line x = true) :
    x.get { l with msk := scanMsk (scan line) n l.msk } =
      x.get { l' with msk := scanMsk (scan line) n l'.msk } := by
  cases x with
  | msk j =>
    refine @scanMsk_same _ n _ _ known j (hknown (.msk j)) (hx.imp_right fun h => ?_)
    simpa [mskUse] using h
  | trgBit => exact hknown .trgBit (hx.resolve_right Bool.false_ne_true)

/-- The bits that a mask line looks at, for the two runs. -/
theorem mskUse_same {scan : List Char → List Word} {n : Nat} {looks : List Char → Bool}
    {line : List Char} {l l' : Locals} (hlooks : looks line = true)
    (hknown : ∀ x, known x → x.get l = x.get l')
    (hreads : ∀ x, (mskUse scan n looks).reads line l x = true →
      known x ∨ (mskUse scan n looks).assigns line x = true) :
    mskOk n (scanMsk (scan line) n l.msk) = mskOk n (scanMsk (scan line) n l'.msk) ∧
      (mskOk n (scanMsk (scan line) n l.msk) = true → ∀ j : Fin 16, j.val < n →
        scanMsk (scan line) n l.msk j = scanMsk (scan line) n l'.msk j) := by
  refine @mskOk_same _ n _ _ known (fun j => hknown (.msk j)) ?_
  intro j hj hbefore
  have hread : (mskUse scan n looks).reads line l (.msk j) = true := by
    simp only [mskUse, hlooks, hj, hbefore, decide_true, Bool.and_self]
  exact (hreads _ hread).imp_right fun h => by simpa [mskUse, hj] using h

end Branches

/-! ## The keywords -/

theorem scoped_vtpPayloadEn :
    Scoped (mskUse (scanArgs scanD 16) 16 fun _ => true) vtpPayloadEn := by
  intro line c l l' known heb hknown hreads
  obtain ⟨hok, hsame⟩ := mskUse_same rfl hknown hreads
  have hcells := @scanMsk_cells known (scanArgs scanD 16) 16 (fun _ => true) line l l' hknown
  unfold vtpPayloadEn
  dsimp only
  rw [← hok]
  split
  · exact .ret (-6) c _ _
  next hbits =>
  have hmsk : scanMsk (scanArgs scanD 16 line) 16 l.msk = scanMsk (scanArgs scanD 16 line) 16 l'.msk :=
    funext fun j => hsame (by simpa using hbits) j j.isLt
  rw [← hmsk] at hcells ⊢
  exact .next _ _ _ heb hcells

theorem scoped_vtpFiberEn : Scoped (mskUse (scanArgs scanD 4) 4 fun _ => true) vtpFiberEn := by
  intro line c l l' known heb hknown hreads
  obtain ⟨hok, hsame⟩ := mskUse_same rfl hknown hreads
  have hcells := @scanMsk_cells known (scanArgs scanD 4) 4 (fun _ => true) line l l' hknown
  unfold vtpFiberEn
  dsimp only
  rw [← hok]
  split
  · exact .ret (-6) c _ _
  next hbits =>
  rw [← mskWord_same (hsame (by simpa using hbits))]
  exact .next _ _ _ heb hcells

theorem scoped_vtpStreamingSlotEn :
    Scoped (mskUse (scanArgs scanD 8) 8 fun _ => true) vtpStreamingSlotEn := by
  intro line c l l' known heb hknown hreads
  obtain ⟨hok, hsame⟩ := mskUse_same rfl hknown hreads
  have hcells := @scanMsk_cells known (scanArgs scanD 8) 8 (fun _ => true) line l l' hknown
  unfold vtpStreamingSlotEn
  dsimp only
  rw [← hok]
  simp only [← heb] at hcells ⊢
  split
  · exact .ret (-6) c _ _
  next hbits =>
  rw [← mskWord_same (hsame (by simpa using hbits))]
  exact .next _ _ _ rfl hcells

theorem scoped_vtpComptonFadcEnMask :
    Scoped (mskUse (fun line => (scanArgs scanD 17 line).tail) 16 comptonIndexOk)
      vtpComptonFadcEnMask := by
  intro line c l l' known heb hknown hreads
  have hcells := @scanMsk_cells known (fun line => (scanArgs scanD 17 line).tail) 16 comptonIndexOk
    line l l' hknown
  unfold vtpComptonFadcEnMask
  dsimp only
  split
  · next hindex =>
    have hlooks : comptonIndexOk line = true := by
      simpa [comptonIndexOk] using hindex
    obtain ⟨hok, hsame⟩ := mskUse_same hlooks hknown hreads
    rw [← hok]
    split
    · exact .ret (-6) c _ _
    next hbits =>
    rw [← mskWord_same (hsame (by simpa using hbits))]
    exact .next _ _ _ heb hcells
  · exact .ret (-4) c _ _

theorem scoped_vtpGtTrg : Scoped gtTrgUse vtpGtTrg := by
  intro line c l l' known heb hknown hreads
  have hbit : (scanArgs scanD 1 line).getD 0 l.trgBit = (scanArgs scanD 1 line).getD 0 l'.trgBit := by
    rcases hreads .trgBit rfl with hx | hassigned
    · rw [show l.trgBit = l'.trgBit from hknown .trgBit hx]
    · cases hscan : scanArgs scanD 1 line with
      | nil => simp [gtTrgUse, hscan] at hassigned
      | cons v vs => rfl
  unfold vtpGtTrg
  dsimp only
  rw [← hbit]
  split
  · exact .ret (-4) c _ _
  refine .next c _ _ heb ?_
  intro x hx
  cases x with
  | msk j => exact hknown (.msk j) (hx.resolve_right Bool.false_ne_true)
  | trgBit => rfl

theorem scoped_onTrgBit (store : List Char → TrgBit → TrgBit) :
    Scoped trgBitUse (onTrgBit store) := by
  intro line c l l' known heb hknown hreads
  have hcells : ∀ x, known x ∨ trgBitUse.assigns line x = true → x.get l = x.get l' :=
    fun x hx => hknown x (hx.resolve_right Bool.false_ne_true)
  have hbit : l.trgBit = l'.trgBit := hcells .trgBit (hreads .trgBit rfl)
  unfold onTrgBit
  dsimp only
  simp only [← hbit]
  split
  · exact .next _ l l' heb hcells
  · exact .ret (-4) c l l'

@[simp] theorem scoped_onEb (conv : List Char → Option (Word × List Char)) (n : Nat)
    (store : (Nat → Word) → StreamingEbCfg → StreamingEbCfg) : Scoped .none (onEb conv n store) :=
  scoped_next fun line e (c : FadcStreamingConf) =>
    { c with eb := Function.update c.eb e (store (argi conv n line) (c.eb e)) }

@[simp] theorem scoped_vtpStreaming : Scoped .none vtpStreaming := by
  intro line c l l' known heb hknown _
  unfold vtpStreaming
  cases streamingIndex (argi scanD 1 line 0) with
  | none => exact .ret (-4) c l l'
  | some e =>
    refine .next c _ _ rfl ?_
    intro x hx
    have hsame := hknown x (hx.resolve_right Bool.false_ne_true)
    cases x with
    | msk j => exact hsame
    | trgBit => exact hsame

@[simp] theorem scoped_vtpRefclk : Scoped .none vtpRefclk :=
  scoped_next fun line _ (c : VtpConf) => { c with refclk := (scanArgs scanD 1 line).getD 0 c.refclk }

@[simp] theorem scoped_vtpGtTrgbit : Scoped .none vtpGtTrgbit := by
  intro line
  unfold vtpGtTrgbit
  exact scoped_indexed 32 8 _ line

@[simp] theorem scoped_onElement {n : Nat} {α σ : Type} (get : σ → Fin n → α)
    (put : (Fin n → α) → σ → σ) (k : Nat) (store : (Nat → Word) → α → α) :
    Scoped .none (onElement get put k store) :=
  scoped_indexed _ _ _

/-- The keywords with a branch that uses the variables, and the one that may
store out of bounds. -/
def usedNames : List String := "VTP_DC_SEGTHR" :: localUses.map (·.1)

theorem networkKeys_scoped : ∀ key ∈ networkKeys, Scoped .none key.2 ∨ key.1 ∈ usedNames := by
  have hcommon : ∀ key ∈ commonKeys, Scoped .none key.2 ∨ key.1 ∈ usedNames := by
    simp only [commonKeys, List.forall_mem_cons]
    exact ⟨.inl (scoped_ints _ _), .inl (scoped_ints _ _), .inl (scoped_text _),
      .inl (scoped_text _), .inl scoped_vtpRefclk, .inr (by decide), .inr (by decide),
      List.forall_mem_nil _⟩
  have hstreaming : ∀ key ∈ streamingKeys, Scoped .none key.2 ∨ key.1 ∈ usedNames := by
    simp [streamingKeys]
  have hfadc : ∀ key ∈ fadcStreamingKeys, Scoped .none key.2 ∨ key.1 ∈ usedNames := by
    have hslots : "VTP_STREAMING_SLOT_EN" ∈ usedNames := by decide
    simp [fadcStreamingKeys, hslots]
  unfold networkKeys
  simp only [List.forall_mem_append]
  exact ⟨⟨hcommon, onPart_scoped hstreaming _ _⟩, onPart_scoped hfadc _ _⟩

theorem detectorKeys_scoped : ∀ key ∈ detectorKeys, Scoped .none key.2 ∨ key.1 ∈ usedNames := by
  have hecInner : ∀ key ∈ ecInnerKeys, Scoped .none key.2 ∨ key.1 ∈ usedNames := by
    simp [ecInnerKeys]
  have hecOuter : ∀ key ∈ ecOuterKeys, Scoped .none key.2 ∨ key.1 ∈ usedNames := by
    simp [ecOuterKeys]
  have hec : ∀ key ∈ ecKeys, Scoped .none key.2 ∨ key.1 ∈ usedNames := by
    simp only [ecKeys, List.cons_append, List.forall_mem_cons, List.forall_mem_append]
    exact ⟨.inl (scoped_chEn _ _), onPart_scoped hecInner _ _, onPart_scoped hecOuter _ _⟩
  have hpc : ∀ key ∈ pcKeys, Scoped .none key.2 ∨ key.1 ∈ usedNames := by simp [pcKeys]
  have hhtcc : ∀ key ∈ htccKeys, Scoped .none key.2 ∨ key.1 ∈ usedNames := by simp [htccKeys]
  have hftof : ∀ key ∈ ftofKeys, Scoped .none key.2 ∨ key.1 ∈ usedNames := by simp [ftofKeys]
  have hcnd : ∀ key ∈ cndKeys, Scoped .none key.2 ∨ key.1 ∈ usedNames := by simp [cndKeys]
  have hpcs : ∀ key ∈ pcsKeys, Scoped .none key.2 ∨ key.1 ∈ usedNames := by simp [pcsKeys]
  have hecsInner : ∀ key ∈ ecsInnerKeys, Scoped .none key.2 ∨ key.1 ∈ usedNames := by
    simp [ecsInnerKeys]
  have hecsOuter : ∀ key ∈ ecsOuterKeys, Scoped .none key.2 ∨ key.1 ∈ usedNames := by
    simp [ecsOuterKeys]
  have hecs : ∀ key ∈ ecsKeys, Scoped .none key.2 ∨ key.1 ∈ usedNames := by
    simp only [ecsKeys, List.forall_mem_append]
    refine ⟨⟨?_, onPart_scoped hecsInner _ _⟩, onPart_scoped hecsOuter _ _⟩
    simp
  have hgt : ∀ key ∈ gtKeys, Scoped .none key.2 ∨ key.1 ∈ usedNames := by
    simp only [gtKeys, List.forall_mem_cons]
    exact ⟨.inl (scoped_ints _ _), .inl (scoped_ints _ _), .inr (by decide), .inr (by decide),
      .inr (by decide), .inr (by decide), .inr (by decide), .inr (by decide), .inr (by decide),
      .inr (by decide), .inr (by decide), .inl scoped_vtpGtTrgbit, .inl (scoped_indexed _ _ _),
      List.forall_mem_nil _⟩
  have hdc : ∀ key ∈ dcKeys, Scoped .none key.2 ∨ key.1 ∈ usedNames := by
    simp [dcKeys, usedNames]
  have hhcal : ∀ key ∈ hcalKeys, Scoped .none key.2 ∨ key.1 ∈ usedNames := by simp [hcalKeys]
  have hftcal : ∀ key ∈ ftcalKeys, Scoped .none key.2 ∨ key.1 ∈ usedNames := by simp [ftcalKeys]
  have hfthodo : ∀ key ∈ fthodoKeys, Scoped .none key.2 ∨ key.1 ∈ usedNames := by simp [fthodoKeys]
  have hhps : ∀ key ∈ hpsKeys, Scoped .none key.2 ∨ key.1 ∈ usedNames := by
    have hcluster : ∀ key ∈ hpsClusterKeys, Scoped .none key.2 ∨ key.1 ∈ usedNames := by
      simp [hpsClusterKeys]
    have hhodoscope : ∀ key ∈ hpsHodoscopeKeys, Scoped .none key.2 ∨ key.1 ∈ usedNames := by
      simp [hpsHodoscopeKeys]
    have hcalib : ∀ key ∈ hpsCalibKeys, Scoped .none key.2 ∨ key.1 ∈ usedNames := by
      simp only [hpsCalibKeys, List.forall_mem_cons]
      simp
      exact .inl (scoped_next fun line _ (c : HpsCalibConf) =>
        { c with pulserFreq := floatAt (mixedArgs [.f] line) 0 })
    have hsingle : ∀ key ∈ hpsSingleKeys, Scoped .none key.2 ∨ key.1 ∈ usedNames := by
      simp [hpsSingleKeys, onSingleTrig, vtpHpsSinglePde]
    have hpair : ∀ key ∈ hpsPairKeys, Scoped .none key.2 ∨ key.1 ∈ usedNames := by
      simp [hpsPairKeys, onPairTrig, vtpHpsPairEnergydist]
    have hmult : ∀ key ∈ hpsMultKeys, Scoped .none key.2 ∨ key.1 ∈ usedNames := by
      simp [hpsMultKeys, onMultTrig]
    have hfee : ∀ key ∈ hpsFeeKeys, Scoped .none key.2 ∨ key.1 ∈ usedNames := by simp [hpsFeeKeys]
    have htrig : ∀ key ∈ hpsTrigKeys, Scoped .none key.2 ∨ key.1 ∈ usedNames := by
      simp [hpsTrigKeys]
    simp only [hpsKeys, List.forall_mem_append]
    exact ⟨⟨⟨⟨⟨⟨⟨onPart_scoped hcluster _ _, onPart_scoped hhodoscope _ _⟩,
      onPart_scoped hcalib _ _⟩, hsingle⟩, hpair⟩, hmult⟩, onPart_scoped hfee _ _⟩,
      onPart_scoped htrig _ _⟩
  have hroc : ∀ key ∈ vtpRocKeys, Scoped .none key.2 ∨ key.1 ∈ usedNames := by
    simp [vtpRocKeys]
    exact .inl (scoped_next fun line _ (c : VtpRocConf) => { c with destip := argi scanX 1 line 0 })
  have hcompton : ∀ key ∈ comptonKeys, Scoped .none key.2 ∨ key.1 ∈ usedNames := by
    have hmask : "VTP_COMPTON_FADC_EN_MASK" ∈ usedNames := by decide
    simp [comptonKeys, hmask]
  simp only [detectorKeys, List.forall_mem_append]
  refine ⟨⟨⟨⟨⟨⟨⟨⟨⟨⟨⟨⟨⟨⟨?_, ?_⟩, ?_⟩, ?_⟩, ?_⟩, ?_⟩, ?_⟩, ?_⟩, ?_⟩, ?_⟩, ?_⟩, ?_⟩, ?_⟩, ?_⟩, ?_⟩
  all_goals exact onPart_scoped ‹_› _ _

theorem configKeys_scoped : ∀ key ∈ configKeys, Scoped .none key.2 ∨ key.1 ∈ usedNames := by
  unfold configKeys
  rw [List.forall_mem_append]
  exact ⟨networkKeys_scoped, detectorKeys_scoped⟩

/-- The keywords that use the variables are in the table. -/
theorem localUses_scoped :
    ∀ use ∈ localUses, ∃ b, (use.1, b) ∈ configKeys ∧ Scoped use.2 b := by
  have hcommon : ∀ key ∈ commonKeys, key ∈ configKeys := by
    intro key hkey
    simp only [configKeys, networkKeys, List.mem_append, hkey, true_or]
  have hfadc : ∀ key ∈ onPart (fun c : VtpConf => c.fadcStreaming)
      (fun c v => { c with fadcStreaming := v }) fadcStreamingKeys, key ∈ configKeys := by
    intro key hkey
    simp only [configKeys, networkKeys, List.mem_append, hkey, or_true, true_or]
  have hgt : ∀ key ∈ onPart (fun c : VtpConf => c.gt) (fun c v => { c with gt := v }) gtKeys,
      key ∈ configKeys := by
    intro key hkey
    simp only [configKeys, detectorKeys, List.mem_append, hkey, or_true, true_or]
  have hcompton : ∀ key ∈ onPart (fun c : VtpConf => c.compton)
      (fun c v => { c with compton := v }) comptonKeys, key ∈ configKeys := by
    intro key hkey
    simp only [configKeys, detectorKeys, List.mem_append, hkey, or_true]
  have hbits : ∀ key ∈ (gtKeys.drop 3).take 8, Scoped trgBitUse key.2 := by
    simp only [gtKeys, List.drop_succ_cons, List.drop_zero, List.take_succ_cons, List.take_zero,
      List.forall_mem_cons]
    exact ⟨scoped_onTrgBit _, scoped_onTrgBit _, scoped_onTrgBit _, scoped_onTrgBit _,
      scoped_onTrgBit _, scoped_onTrgBit _, scoped_onTrgBit _, scoped_onTrgBit _,
      List.forall_mem_nil _⟩
  have htrgBit : ∀ use ∈ ((gtKeys.drop 3).take 8).map (fun key => (key.1, trgBitUse)),
      ∃ b, (use.1, b) ∈ configKeys ∧ Scoped use.2 b := by
    rw [List.forall_mem_map]
    intro key hkey
    exact ⟨_, hgt _ (List.mem_map_of_mem (List.mem_of_mem_drop (List.mem_of_mem_take hkey))),
      (hbits key hkey).on _ _⟩
  have hnames : localUses = localUses.take 5 ++ ((gtKeys.drop 3).take 8).map
      (fun key => (key.1, trgBitUse)) := rfl
  rw [hnames, List.forall_mem_append]
  refine ⟨?_, htrgBit⟩
  simp only [localUses, List.take_succ_cons, List.take_zero, List.forall_mem_cons]
  exact ⟨⟨_, hcommon commonKeys[5] (List.getElem_mem (by decide)), scoped_vtpPayloadEn⟩,
    ⟨_, hcommon commonKeys[6] (List.getElem_mem (by decide)), scoped_vtpFiberEn⟩,
    ⟨_, hfadc _ (List.mem_map_of_mem (List.getElem_mem (show 4 < fadcStreamingKeys.length by decide))),
      scoped_vtpStreamingSlotEn.on _ _⟩,
    ⟨_, hcompton _ (List.mem_map_of_mem (List.getElem_mem (show 4 < comptonKeys.length by decide))),
      scoped_vtpComptonFadcEnMask.on _ _⟩,
    ⟨_, hgt _ (List.mem_map_of_mem (List.getElem_mem (show 2 < gtKeys.length by decide))),
      scoped_vtpGtTrg.on _ _⟩, List.forall_mem_nil _⟩

/-- The branch of a keyword that uses the variables, and of one that does not. -/
theorem branchOf_scoped {keyword : List Char} {b : Branch VtpConf} (h : branchOf keyword = some b) :
    (∃ use ∈ localUses, keyword = use.1.toList ∧ Scoped use.2 b) ∨
      ((∀ use ∈ localUses, keyword ≠ use.1.toList) ∧ Scoped .none b) ∨
      keyword = "VTP_DC_SEGTHR".toList := by
  by_cases hlocal : ∃ use ∈ localUses, keyword = use.1.toList
  · obtain ⟨use, huse, rfl⟩ := hlocal
    obtain ⟨b', hmem, hscoped⟩ := localUses_scoped use huse
    rw [branchOf_name hmem] at h
    cases h
    exact .inl ⟨use, huse, rfl, hscoped⟩
  · have hlocal : ∀ use ∈ localUses, keyword ≠ use.1.toList :=
      fun use huse heq => hlocal ⟨use, huse, heq⟩
    obtain ⟨name, hmem, rfl⟩ := branchOf_mem h
    rcases configKeys_scoped _ hmem with hscoped | hname
    · exact .inr (.inl ⟨hlocal, hscoped⟩)
    · rcases List.mem_cons.mp hname with heq | hmem
      · exact .inr (.inr (congrArg String.toList heq))
      · obtain ⟨use, huse, heq⟩ := List.mem_map.mp hmem
        exact absurd (congrArg String.toList heq.symm) (hlocal use huse)

end VtpStreaming
