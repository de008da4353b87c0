import VtpStreaming.Clib.Stores
import VtpStreaming.ConfigFrame

/-!
# What a line stores

What a line does next to storing does not depend on the configuration, what it
stores it stores for good, and a line that ends the call stores nothing.
-/

namespace VtpStreaming

open Clib

section Branches

variable {σ τ : Type}

/-- One line on one set of locals: it goes on, with stores that are the same
when they are made again, or it ends the call and stores nothing. -/
inductive Effect (run : σ → Outcome (σ × Locals)) : Prop
  | next (f : σ → σ) (l : Locals) : (∀ s, run s = .next (f s, l)) → Lasting f → Effect run
  | ret (code : Int) (l : Locals) : (∀ s, run s = .ret code (s, l)) → Effect run
  | fault : (∀ s, run s = .fault) → Effect run

def Steady (b : Branch σ) : Prop := ∀ line l, Effect fun s => b line (s, l)

@[simp] theorem steady_ints (n : Nat) {store : (Nat → Word) → σ → σ}
    (h : ∀ a s, store a (store a s) = store a s) : Steady (ints n store) :=
  fun line l => .next (store (argi scanD n line)) l (fun _ => rfl) (h _)

@[simp] theorem steady_ranged (ok : Int → Bool) {store : Word → σ → σ}
    (h : ∀ v s, store v (store v s) = store v s) : Steady (ranged ok store) := by
  intro line l
  refine .next (fun s => if ok (argi scanD 1 line 0).toInt then store (argi scanD 1 line 0) s else s)
    l (fun _ => rfl) ?_
  intro s
  split
  · exact h _ s
  · rfl

@[simp] theorem steady_text {store : List Char → σ → σ}
    (h : ∀ w s, store w (store w s) = store w s) : Steady (text store) := by
  intro line l
  unfold text
  cases (scanWord line).bind fun w => scanString 250 w.2 with
  | none => exact .next id l (fun _ => rfl) fun _ => rfl
  | some w => exact .next (store w.1) l (fun _ => rfl) (h w.1)

@[simp] theorem steady_chEn {get : σ → Fin 16 → Word} {put : (Fin 16 → Word) → σ → σ}
    (hget : ∀ en s, get (put en s) = en) (hput : ∀ en en' s, put en (put en' s) = put en s) :
    Steady (chEn get put) := by
  intro line l
  refine .next (fun s => put (fun j => (scanArgs scanLitX 16 line).getD j.val (get s j)) s) l
    (fun _ => rfl) ?_
  intro s
  dsimp only
  rw [hput]
  congr 1
  funext j
  rw [hget, List.getD_eq_getElem?_getD, List.getD_eq_getElem?_getD]
  cases (scanArgs scanLitX 16 line)[j.val]? with
  | none => rfl
  | some v => rfl

@[simp] theorem steady_indexed (n k : Nat) {store : Fin n → (Nat → Word) → σ → σ}
    (h : ∀ i a s, store i a (store i a s) = store i a s) : Steady (indexed n k store) := by
  intro line l
  unfold indexed
  dsimp only
  by_cases hindex : 0 ≤ (argi scanD k line 0).toInt ∧ (argi scanD k line 0).toInt < n
  · exact .next (store ⟨(argi scanD k line 0).toInt.toNat, by omega⟩ (argi scanD k line)) l
      (fun _ => dif_pos hindex) (h _ _)
  · exact .ret (-4) l fun _ => dif_neg hindex

@[simp] theorem steady_indexedMixed (n : Nat) (ds : List Directive)
    {store : Fin n → List (Word ⊕ FloatText) → σ → σ}
    (h : ∀ i vs s, store i vs (store i vs s) = store i vs s) : Steady (indexedMixed n ds store) := by
  intro line l
  unfold indexedMixed
  dsimp only
  by_cases hindex : 0 ≤ (intAt (mixedArgs ds line) 0).toInt ∧
      (intAt (mixedArgs ds line) 0).toInt < n
  · exact .next (store ⟨(intAt (mixedArgs ds line) 0).toInt.toNat, by omega⟩ (mixedArgs ds line)) l
      (fun _ => dif_pos hindex) (h _ _)
  · exact .ret (-4) l fun _ => dif_neg hindex

theorem Steady.on {get : σ → τ} {put : σ → τ → σ} (hpart : IsPart get put) {b : Branch τ}
    (hb : Steady b) : Steady (b.on get put) := by
  intro line l
  unfold Branch.on
  dsimp only
  cases hb line l with
  | next f l' hrun hidem =>
    refine .next (fun s => put s (f (get s))) l' ?_ ?_
    · intro s
      simp only [hrun]
    · intro s
      simp only [hpart.get_put, hpart.put_put, hidem (get s)]
  | ret code l' hrun =>
    refine .ret code l' ?_
    intro s
    simp only [hrun, hpart.put_get]
  | fault hrun =>
    refine .fault ?_
    intro s
    simp only [hrun]

theorem onPart_steady {keys : List (String × Branch τ)} (h : ∀ key ∈ keys, Steady key.2)
    {get : σ → τ} {put : σ → τ → σ} (hpart : IsPart get put) :
    ∀ key ∈ onPart get put keys, Steady key.2 := by
  unfold onPart
  rw [List.forall_mem_map]
  intro key hkey
  exact (h key hkey).on hpart

end Branches

/-! ## The keywords -/

@[simp] theorem steady_vtpPayloadEn : Steady vtpPayloadEn := by
  intro line l
  unfold vtpPayloadEn
  dsimp only
  by_cases hbad : (!mskOk 16 (scanMsk (scanArgs scanD 16 line) 16 l.msk)) = true
  · exact .ret (-6) _ fun _ => if_pos hbad
  · exact .next _ _ (fun _ => if_neg hbad) fun _ => rfl

@[simp] theorem steady_vtpFiberEn : Steady vtpFiberEn := by
  intro line l
  unfold vtpFiberEn
  dsimp only
  by_cases hbad : (!mskOk 4 (scanMsk (scanArgs scanD 4 line) 4 l.msk)) = true
  · exact .ret (-6) _ fun _ => if_pos hbad
  · exact .next _ _ (fun _ => if_neg hbad) fun _ => rfl

@[simp] theorem steady_vtpRefclk : Steady vtpRefclk := by
  intro line l
  refine .next (fun c => { c with refclk := (scanArgs scanD 1 line).getD 0 c.refclk }) l
    (fun _ => rfl) ?_
  intro c
  cases scanArgs scanD 1 line with
  | nil => rfl
  | cons v vs => rfl

@[simp] theorem steady_vtpStreamingSlotEn : Steady vtpStreamingSlotEn := by
  intro line l
  unfold vtpStreamingSlotEn
  dsimp only
  by_cases hbad : (!mskOk 8 (scanMsk (scanArgs scanD 8 line) 8 l.msk)) = true
  · exact .ret (-6) _ fun _ => if_pos hbad
  · refine .next _ _ (fun _ => if_neg hbad) fun c => ?_
    simp only [Function.update_idem, Function.update_self]

@[simp] theorem steady_onEb (conv : List Char → Option (Word × List Char)) (n : Nat)
    {store : (Nat → Word) → StreamingEbCfg → StreamingEbCfg}
    (h : ∀ a eb, store a (store a eb) = store a eb) : Steady (onEb conv n store) := by
  intro line l
  refine .next _ l (fun _ => rfl) fun c => ?_
  simp only [Function.update_idem, Function.update_self, h]

@[simp] theorem steady_vtpStreaming : Steady vtpStreaming := by
  intro line l
  unfold vtpStreaming
  cases streamingIndex (argi scanD 1 line 0) with
  | none => exact .ret (-4) l fun _ => rfl
  | some streamingEb =>
    exact .next (fun c => c) { l with streamingEb := streamingEb } (fun _ => rfl) fun _ => rfl

@[simp] theorem steady_vtpGtTrg : Steady vtpGtTrg := by
  intro line l
  unfold vtpGtTrg
  dsimp only
  split
  · exact .ret (-4) _ fun _ => rfl
  · exact .next id _ (fun _ => rfl) fun _ => rfl

@[simp] theorem steady_onTrgBit {store : List Char → TrgBit → TrgBit}
    (h : ∀ line bit, store line (store line bit) = store line bit) : Steady (onTrgBit store) := by
  intro line l
  unfold onTrgBit
  by_cases hbit : 0 ≤ l.trgBit.toInt ∧ l.trgBit.toInt < 32
  · refine .next _ l (fun _ => dif_pos hbit) fun c => ?_
    simp only [Function.update_idem, Function.update_self, h]
  · exact .ret (-4) l fun _ => dif_neg hbit

@[simp] theorem oneOrTwo_idem (values : List Word) (old : Fin 2 → Word) :
    oneOrTwo values (oneOrTwo values old) = oneOrTwo values old := by
  funext i
  unfold oneOrTwo
  by_cases hi : i = 0
  · rw [if_pos hi, if_pos hi]
  · rw [if_neg hi, if_neg hi]
    split
    · rfl
    · rw [if_neg (by decide)]

theorem steady_vtpDcSegthr : Steady vtpDcSegthr := by
  intro line l
  unfold vtpDcSegthr
  dsimp only
  split
  · exact .ret (-1) l fun _ => rfl
  · split
    · refine .next _ l (fun _ => rfl) fun c => ?_
      simp only [Function.update_idem]
    · exact .fault fun _ => rfl

@[simp] theorem steady_vtpGtTrgbit : Steady vtpGtTrgbit := by
  intro line l
  unfold vtpGtTrgbit
  refine steady_indexed 32 8 ?_ line l
  intro i a c
  simp only [Function.update_idem, Function.update_self]
  split <;> split <;> rfl

@[simp] theorem steady_vtpGtTrgbit2 : Steady vtpGtTrgbit2 := by
  refine steady_indexed 32 11 ?_
  intro i a c
  simp only [Function.update_idem, Function.update_self]

@[simp] theorem steady_vtpComptonFadcEnMask : Steady vtpComptonFadcEnMask := by
  intro line l
  unfold vtpComptonFadcEnMask
  dsimp only
  split
  · split
    · exact .ret (-6) _ fun _ => rfl
    · refine .next _ _ (fun _ => rfl) fun c => ?_
      simp only [Function.update_idem]
  · exact .ret (-4) _ fun _ => rfl

@[simp] theorem steady_onElement {n : Nat} {α σ : Type} {get : σ → Fin n → α}
    {put : (Fin n → α) → σ → σ} (hget : ∀ v s, get (put v s) = v)
    (hput : ∀ v w s, put v (put w s) = put v s) (k : Nat) {store : (Nat → Word) → α → α}
    (h : ∀ a t, store a (store a t) = store a t) : Steady (onElement get put k store) := by
  refine steady_indexed n k ?_
  intro i a s
  simp only [hget, hput, Function.update_idem, Function.update_self, h]

@[simp] theorem steady_onSingleTrig (k : Nat) {store : (Nat → Word) → HpsSingleTrig → HpsSingleTrig}
    (h : ∀ a t, store a (store a t) = store a t) : Steady (onSingleTrig k store) := by
  unfold onSingleTrig
  exact steady_onElement (by intros; rfl) (by intros; rfl) k h

@[simp] theorem steady_onPairTrig (k : Nat) {store : (Nat → Word) → HpsPairTrig → HpsPairTrig}
    (h : ∀ a t, store a (store a t) = store a t) : Steady (onPairTrig k store) := by
  unfold onPairTrig
  exact steady_onElement (by intros; rfl) (by intros; rfl) k h

@[simp] theorem steady_onMultTrig (k : Nat) {store : (Nat → Word) → HpsMultTrig → HpsMultTrig}
    (h : ∀ a t, store a (store a t) = store a t) : Steady (onMultTrig k store) := by
  unfold onMultTrig
  exact steady_onElement (by intros; rfl) (by intros; rfl) k h

@[simp] theorem steady_vtpHpsSinglePde : Steady vtpHpsSinglePde := by
  refine steady_indexedMixed 4 _ ?_
  intro i vs c
  simp only [Function.update_idem, Function.update_self]

@[simp] theorem steady_vtpHpsPairEnergydist : Steady vtpHpsPairEnergydist := by
  refine steady_indexedMixed 4 _ ?_
  intro i vs c
  simp only [Function.update_idem, Function.update_self]

theorem networkKeys_steady : ∀ key ∈ networkKeys, Steady key.2 := by
  have hcommon : ∀ key ∈ commonKeys, Steady key.2 := by simp [commonKeys]
  have hstreaming : ∀ key ∈ streamingKeys, Steady key.2 := by simp [streamingKeys]
  have hfadc : ∀ key ∈ fadcStreamingKeys, Steady key.2 := by simp [fadcStreamingKeys]
  unfold networkKeys
  simp only [List.forall_mem_append]
  exact ⟨⟨hcommon, onPart_steady hstreaming ⟨fun _ _ => rfl, fun _ _ _ => rfl, fun _ => rfl⟩⟩,
    onPart_steady hfadc ⟨fun _ _ => rfl, fun _ _ _ => rfl, fun _ => rfl⟩⟩

theorem detectorKeys_steady : ∀ key ∈ detectorKeys, Steady key.2 := by
  have hecInner : ∀ key ∈ ecInnerKeys, Steady key.2 := by simp [ecInnerKeys]
  have hecOuter : ∀ key ∈ ecOuterKeys, Steady key.2 := by simp [ecOuterKeys]
  have hec : ∀ key ∈ ecKeys, Steady key.2 := by
    simp only [ecKeys, List.cons_append, List.forall_mem_cons, List.forall_mem_append]
    exact ⟨steady_chEn (fun _ _ => rfl) (fun _ _ _ => rfl),
      onPart_steady hecInner ⟨fun _ _ => rfl, fun _ _ _ => rfl, fun _ => rfl⟩,
      onPart_steady hecOuter ⟨fun _ _ => rfl, fun _ _ _ => rfl, fun _ => rfl⟩⟩
  have hpc : ∀ key ∈ pcKeys, Steady key.2 := by simp [pcKeys]
  have hhtcc : ∀ key ∈ htccKeys, Steady key.2 := by simp [htccKeys]
  have hftof : ∀ key ∈ ftofKeys, Steady key.2 := by simp [ftofKeys]
  have hcnd : ∀ key ∈ cndKeys, Steady key.2 := by simp [cndKeys]
  have hpcs : ∀ key ∈ pcsKeys, Steady key.2 := by simp [pcsKeys]
  have hecsInner : ∀ key ∈ ecsInnerKeys, Steady key.2 := by simp [ecsInnerKeys]
  have hecsOuter : ∀ key ∈ ecsOuterKeys, Steady key.2 := by simp [ecsOuterKeys]
  have hecs : ∀ key ∈ ecsKeys, Steady key.2 := by
    simp only [ecsKeys, List.forall_mem_append]
    refine ⟨⟨?_, onPart_steady hecsInner ⟨fun _ _ => rfl, fun _ _ _ => rfl, fun _ => rfl⟩⟩,
      onPart_steady hecsOuter ⟨fun _ _ => rfl, fun _ _ _ => rfl, fun _ => rfl⟩⟩
    simp
  have hgt : ∀ key ∈ gtKeys, Steady key.2 := by simp [gtKeys]
  have hdc : ∀ key ∈ dcKeys, Steady key.2 := by simp [dcKeys, steady_vtpDcSegthr]
  have hhcal : ∀ key ∈ hcalKeys, Steady key.2 := by simp [hcalKeys]
  have hftcal : ∀ key ∈ ftcalKeys, Steady key.2 := by simp [ftcalKeys]
  have hfthodo : ∀ key ∈ fthodoKeys, Steady key.2 := by simp [fthodoKeys]
  have hhps : ∀ key ∈ hpsKeys, Steady key.2 := by
    have hcluster : ∀ key ∈ hpsClusterKeys, Steady key.2 := by simp [hpsClusterKeys]
    have hhodoscope : ∀ key ∈ hpsHodoscopeKeys, Steady key.2 := by simp [hpsHodoscopeKeys]
    have hcalib : ∀ key ∈ hpsCalibKeys, Steady key.2 := by
      simp only [hpsCalibKeys, List.forall_mem_cons]
      simp
      exact fun line l => .next _ l (fun _ => rfl) fun _ => rfl
    have hsingle : ∀ key ∈ hpsSingleKeys, Steady key.2 := by simp [hpsSingleKeys]
    have hpair : ∀ key ∈ hpsPairKeys, Steady key.2 := by simp [hpsPairKeys]
    have hmult : ∀ key ∈ hpsMultKeys, Steady key.2 := by simp [hpsMultKeys]
    have hfee : ∀ key ∈ hpsFeeKeys, Steady key.2 := by simp [hpsFeeKeys]
    have htrig : ∀ key ∈ hpsTrigKeys, Steady key.2 := by simp [hpsTrigKeys]
    simp only [hpsKeys, List.forall_mem_append]
    refine ⟨⟨⟨⟨⟨⟨⟨?_, ?_⟩, ?_⟩, hsingle⟩, hpair⟩, hmult⟩, ?_⟩, ?_⟩
    all_goals exact onPart_steady ‹_› ⟨fun _ _ => rfl, fun _ _ _ => rfl, fun _ => rfl⟩
  have hroc : ∀ key ∈ vtpRocKeys, Steady key.2 := by
    simp [vtpRocKeys]
    exact fun line l => .next _ l (fun _ => rfl) fun _ => rfl
  have hcompton : ∀ key ∈ comptonKeys, Steady key.2 := by simp [comptonKeys]
  simp only [detectorKeys, List.forall_mem_append]
  refine ⟨⟨⟨⟨⟨⟨⟨⟨⟨⟨⟨⟨⟨⟨?_, ?_⟩, ?_⟩, ?_⟩, ?_⟩, ?_⟩, ?_⟩, ?_⟩, ?_⟩, ?_⟩, ?_⟩, ?_⟩, ?_⟩, ?_⟩, ?_⟩
  all_goals exact onPart_steady ‹_› ⟨fun _ _ => rfl, fun _ _ _ => rfl, fun _ => rfl⟩

theorem configKeys_steady : ∀ key ∈ configKeys, Steady key.2 := by
  unfold configKeys
  rw [List.forall_mem_append]
  exact ⟨networkKeys_steady, detectorKeys_steady⟩

/-! ## Lines -/

/-- What a line does in a state, apart from the configuration that it finds. -/
inductive LineEffect (host line : List Char) (s : ReadState) : Prop
  | next (f : VtpConf → VtpConf) (s' : ReadState) :
      (∀ c, readLine host line { s with conf := c } = .next { s' with conf := f c }) → Lasting f →
      LineEffect host line s
  | ret (code : Int) (s' : ReadState) :
      (∀ c, readLine host line { s with conf := c } = .ret code { s' with conf := c }) →
      LineEffect host line s
  | fault : (∀ c, readLine host line { s with conf := c } = .fault) → LineEffect host line s

/-- The words of a line have nothing to do with the configuration. -/
theorem lineWords_conf (line : List Char) (s : ReadState) (c : VtpConf) :
    lineWords line { s with conf := c } = { lineWords line s with conf := c } := by
  unfold lineWords
  cases scanWord line with
  | none => rfl
  | some w =>
    dsimp only
    cases scanWord w.2 with
    | none => rfl
    | some r => rfl

/-- What a line does with each configuration. -/
theorem readLine_conf (host line : List Char) (s : ReadState) (c : VtpConf) :
    readLine host line { s with conf := c } =
      if !wordsFit (lineWords (cString line) s) then .fault
      else if (lineWords (cString line) s).keyword = "VTP_CRATE".toList then
        .next { lineWords (cString line) s with
          conf := c
          active := (lineWords (cString line) s).rocName = host ||
            (lineWords (cString line) s).rocName = "all".toList }
      else if !(lineWords (cString line) s).active then
        .next { lineWords (cString line) s with conf := c }
      else runBranch (cString line) { lineWords (cString line) s with conf := c } := by
  unfold readLine
  dsimp only
  rw [lineWords_conf]
  rfl

theorem readLine_effect (host line : List Char) (s : ReadState) : LineEffect host line s := by
  have hread := readLine_conf host line s
  generalize lineWords (cString line) s = w at hread
  split at hread
  · exact .fault hread
  split at hread
  · exact .next (fun c => c)
      { w with active := w.rocName = host || w.rocName = "all".toList } hread fun _ => rfl
  split at hread
  · exact .next (fun c => c) w hread fun _ => rfl
  unfold runBranch at hread
  cases hb : branchOf w.keyword with
  | none =>
    simp only [hb] at hread
    exact .next (fun c => c) w hread fun _ => rfl
  | some b =>
    obtain ⟨name, hmem, -⟩ := branchOf_mem hb
    simp only [hb] at hread
    cases configKeys_steady _ hmem (cString line) w.locals with
    | next f l hrun hf =>
      have hrun : ∀ c, b (cString line) (c, w.locals) = .next (f c, l) := hrun
      simp only [hrun] at hread
      exact .next f { w with locals := l } hread hf
    | ret code l hrun =>
      have hrun : ∀ c, b (cString line) (c, w.locals) = .ret code (c, l) := hrun
      simp only [hrun] at hread
      exact .ret code { w with locals := l } hread
    | fault hrun =>
      have hrun : ∀ c, b (cString line) (c, w.locals) = .fault := hrun
      simp only [hrun] at hread
      exact .fault hread

end VtpStreaming
