import VtpStreaming.TextParts

/-!
# What the printed triggers store

The global trigger and HPS, whose lines name the element that they are about, and
the thresholds of the drift chambers.
-/

namespace VtpStreaming

open Clib Function

/-! ## Drift chambers -/

theorem dc_part : ConfigPart dcKeys (·.dc) fun c v => { c with dc := v } where
  get_put _ _ := rfl
  put_put _ _ _ := rfl
  put_get _ := rfl
  sub key hkey := by
    apply List.mem_append_right
    repeat first | exact List.mem_append_right _ hkey | exact hkey | apply List.mem_append_left

theorem dcSegthr_line (i : Fin 2) (v : Word) (c : DcConf) (l : Locals) :
    vtpDcSegthr ((intLine "VTP_DC_SEGTHR" [indexWord i, v]).text ++ ['\n']) (c, l) =
      .next ({ c with dcsegfindThreshold := update c.dcsegfindThreshold i v }, l) := by
  have hargs : argi scanD 2 ((intLine "VTP_DC_SEGTHR" [indexWord i, v]).text ++ ['\n']) =
      fun j => [indexWord i, v].getD j 0#32 :=
    argi_intLine (dc_part.words _ (List.mem_singleton_self _)) rfl
  unfold vtpDcSegthr
  rw [hargs]
  rcases i with ⟨_ | _ | i, hi⟩
  · rfl
  · rfl
  · omega

theorem dc_sets (c q : DcConf) :
    Sets dcKeys (dcLines q) c { c with dcsegfindThreshold := q.dcsegfindThreshold } := by
  have hthr : update (update c.dcsegfindThreshold 0 (q.dcsegfindThreshold 0)) 1
      (q.dcsegfindThreshold 1) = q.dcsegfindThreshold := by
    funext i
    rcases i with ⟨_ | _ | i, hi⟩
    · rfl
    · rfl
    · omega
  have hfit : ∀ (i : Fin 2) (v : Word), ItemsFit (intLine "VTP_DC_SEGTHR" [indexWord i, v]).items :=
    fun i v => itemsFit_ints (Nat.le_of_ble_eq_true rfl)
  rw [← hthr]
  refine .cons (List.mem_singleton_self _) (hfit 0 (q.dcsegfindThreshold 0))
    (fun l => ⟨l, dcSegthr_line 0 (q.dcsegfindThreshold 0) c l⟩) ?_
  exact .cons (List.mem_singleton_self _) (hfit 1 (q.dcsegfindThreshold 1))
    (fun l => ⟨l, dcSegthr_line 1 (q.dcsegfindThreshold 1) _ l⟩) (.nil _)

/-! ## Global trigger -/

section

variable (p : FloatPrinter)

theorem gt_part : ConfigPart gtKeys (·.gt) fun c v => { c with gt := v } where
  get_put _ _ := rfl
  put_put _ _ _ := rfl
  put_get _ := rfl
  sub key hkey := by
    apply List.mem_append_right
    repeat first | exact List.mem_append_right _ hkey | exact hkey | apply List.mem_append_left

/-- The lines take the current trigger bit from one value to another. -/
def BitRuns (i : Fin 32) (ls : List TextLine) (t t' : TrgBit) : Prop :=
  ∀ (c : GtConf) (l : Locals), l.trgBit = indexWord i → c.trgbits i = t →
    TableRuns gtKeys ls (c, l) ({ c with trgbits := update c.trgbits i t' }, l)

variable {p} {i : Fin 32} {ls : List TextLine} {t t' : TrgBit}
  {conv : List Char → Option (Word × List Char)} {name : String} {items : List Item}

theorem BitRuns.nil (t : TrgBit) : BitRuns i [] t t := by
  rintro c l - rfl
  rw [update_eq_self]
  exact .nil _

theorem BitRuns.cons {store : List Char → TrgBit → TrgBit} (hmem : (name, onTrgBit store) ∈ gtKeys)
    (hfit : ItemsFit items)
    (h : BitRuns i ls (store ((TextLine.mk name items).text ++ ['\n']) t) t') :
    BitRuns i (⟨name, items⟩ :: ls) t t' := by
  rintro c loc hbit rfl
  have hindex : loc.trgBit.toInt = i.val := hbit ▸ indexWord_toInt (by decide) i
  have hrange : 0 ≤ loc.trgBit.toInt ∧ loc.trgBit.toInt < 32 := by
    rw [hindex]
    omega
  have hsame : (⟨loc.trgBit.toInt.toNat, by omega⟩ : Fin 32) = i :=
    Fin.ext (by simp only [hindex, Int.toNat_natCast])
  have hstep : ∀ line, onTrgBit store line (c, loc) =
      .next ({ c with trgbits := update c.trgbits i (store line (c.trgbits i)) }, loc) := by
    intro line
    unfold onTrgBit
    dsimp only
    rw [dif_pos hrange, hsame]
  have hrest := h { c with trgbits := update c.trgbits i (store _ (c.trgbits i)) } loc hbit
    (update_self ..)
  rw [update_idem] at hrest
  exact .cons hmem hfit (hstep _) hrest

theorem oneOrTwo_two (f old : Fin 2 → Word) : oneOrTwo [f 0, f 1] old = f := by
  funext j
  rcases j with ⟨_ | _ | j, hj⟩
  · rfl
  · rfl
  · omega

/-- What `item` writes is read back by `conv`. -/
structure Reads (conv : List Char → Option (Word × List Char)) (item : Word → Item) : Prop where
  scan : ∀ (key : String) (vs : List Word), IsWord key.toList →
    scanArgs conv vs.length ((TextLine.mk key (vs.map item)).text ++ ['\n']) = vs
  fit : ∀ vs : List Word, vs.length ≤ 18 → ItemsFit (vs.map item)

theorem reads_d : Reads scanD .d :=
  ⟨fun _ vs hkey => scanArgs_intLine hkey vs, fun _ => itemsFit_ints⟩

theorem reads_x : Reads scanLitX (.x 8) :=
  ⟨fun _ vs hkey => scanArgs_litLine (by decide) hkey vs, fun _ => itemsFit_lits (by decide)⟩

variable {item : Word → Item}

/-- A line with one value. -/
theorem BitRuns.one (hreads : Reads conv item) (v : Word) (store : Word → TrgBit → TrgBit)
    (hmem : (name, onTrgBit fun line bit => store (argi conv 1 line 0) bit) ∈ gtKeys)
    (h : BitRuns i ls (store v t) t') : BitRuns i (⟨name, [v].map item⟩ :: ls) t t' := by
  have hscan : scanArgs conv 1 ((TextLine.mk name ([v].map item)).text ++ ['\n']) = [v] :=
    hreads.scan name [v] (gt_part.words _ hmem)
  refine .cons hmem (hreads.fit _ (Nat.le_of_ble_eq_true rfl)) ?_
  unfold argi
  rw [hscan]
  exact h

/-- A line with two values. -/
theorem BitRuns.two (hreads : Reads conv item) (f : Fin 2 → Word) (get : TrgBit → Fin 2 → Word)
    (store : (Fin 2 → Word) → TrgBit → TrgBit)
    (hmem : (name, onTrgBit fun line bit => store (oneOrTwo (scanArgs conv 2 line) (get bit)) bit) ∈
      gtKeys)
    (h : BitRuns i ls (store f t) t') : BitRuns i (⟨name, [f 0, f 1].map item⟩ :: ls) t t' := by
  have hscan : scanArgs conv 2 ((TextLine.mk name ([f 0, f 1].map item)).text ++ ['\n']) =
      [f 0, f 1] := hreads.scan name [f 0, f 1] (gt_part.words _ hmem)
  refine .cons hmem (hreads.fit _ (Nat.le_of_ble_eq_true rfl)) ?_
  rw [hscan, oneOrTwo_two]
  exact h

variable (p)

/-- What is read of the line of the pulser frequency. -/
def readFreq (b : TrgBit) : FloatText :=
  floatAt (mixedArgs [.f]
    ((TextLine.mk "VTP_GT_TRG_PULSER_FREQ" [.word (p.f3 b.pulserFreq)]).text ++ ['\n'])) 0

theorem gtTrg_line (i : Fin 32) (c : GtConf) (l : Locals) :
    vtpGtTrg ((intLine "VTP_GT_TRG" [indexWord i]).text ++ ['\n']) (c, l) =
      .next (c, { l with trgBit := indexWord i }) := by
  have hmem : ("VTP_GT_TRG", vtpGtTrg) ∈ gtKeys :=
    List.Mem.tail _ (List.Mem.tail _ (List.Mem.head _))
  have hscan : scanArgs scanD 1 ((intLine "VTP_GT_TRG" [indexWord i]).text ++ ['\n']) =
      [indexWord i] := scanArgs_intLine (gt_part.words _ hmem) [indexWord i]
  have hindex : (indexWord i).toInt = i.val := indexWord_toInt (by decide) i
  have hrange : ¬ ((decide ((indexWord i).toInt < 0) ||
      decide ((indexWord i).toInt ≥ 32)) = true) := by
    rw [hindex]
    simp
  unfold vtpGtTrg
  rw [hscan]
  exact if_neg hrange

theorem itemsFit_word {x : List Char} (hword : IsWord x ∧ Plain 47 x) : ItemsFit [.word x] := by
  have hblank : Plain 1 [' '] := ⟨by decide, by decide, by decide⟩
  apply itemsFit_words (k := 47)
  · exact List.forall_mem_singleton.mpr hword.1
  · decide
  · rintro i ⟨⟩
    exact hword.2.length_le
  · have hplain : Plain (1 + 47) (itemsText [.word x]) := by
      simpa [itemsText, Item.text] using hblank.append hword.2
    exact hplain.mono (by decide)

theorem gtBit_runs (i : Fin 32) (b t : TrgBit) :
    BitRuns i (gtBitLines p i b).tail t { b with pulserFreq := readFreq p b } := by
  unfold gtBitLines
  refine .two reads_x b.sspStriggerBitMask (·.sspStriggerBitMask)
    (fun f t => { t with sspStriggerBitMask := f })
    (by repeat first | exact List.Mem.head _ | apply List.Mem.tail) ?_
  refine .one reads_x b.sspCtriggerBitMask (fun v t => { t with sspCtriggerBitMask := v })
    (by repeat first | exact List.Mem.head _ | apply List.Mem.tail) ?_
  refine .two reads_x b.sspSectorMask (·.sspSectorMask) (fun f t => { t with sspSectorMask := f })
    (by repeat first | exact List.Mem.head _ | apply List.Mem.tail) ?_
  refine .two reads_d b.sectorMultMin (·.sectorMultMin) (fun f t => { t with sectorMultMin := f })
    (by repeat first | exact List.Mem.head _ | apply List.Mem.tail) ?_
  refine .one reads_d b.sectorCoinWidth (fun v t => { t with sectorCoinWidth := v })
    (by repeat first | exact List.Mem.head _ | apply List.Mem.tail) ?_
  refine .cons (by repeat first | exact List.Mem.head _ | apply List.Mem.tail)
    (itemsFit_word (p.word3 b.pulserFreq)) ?_
  refine .one reads_d b.delay (fun v t => { t with delay := v })
    (by repeat first | exact List.Mem.head _ | apply List.Mem.tail) ?_
  exact .one reads_d b.prescale (fun v t => { t with prescale := v })
    (by repeat first | exact List.Mem.head _ | apply List.Mem.tail) (.nil _)

/-- All lines of one trigger bit. -/
theorem gtBit_sets (i : Fin 32) (b t : TrgBit) :
    SetsAt gtKeys GtConf.trgbits (fun c f => { c with trgbits := f }) i (gtBitLines p i b) t
      { b with pulserFreq := readFreq p b } := by
  intro c hc l
  refine ⟨{ l with trgBit := indexWord i }, ?_⟩
  refine .cons (List.Mem.tail _ (List.Mem.tail _ (List.Mem.head _)))
    (itemsFit_ints (Nat.le_of_ble_eq_true rfl)) (gtTrg_line i c l) ?_
  exact gtBit_runs p i b t c _ rfl hc

/-- The trigger as it is read back. -/
def readGt (q : GtConf) : GtConf :=
  { q with trgbits := fun i => { q.trgbits i with pulserFreq := readFreq p (q.trgbits i) } }

theorem gt_sets (c q : GtConf) : Sets gtKeys (gtLines p q) c (readGt p q) := by
  have hw : Words gtKeys := gt_part.words
  have hpart : IsPart GtConf.trgbits fun c f => { c with trgbits := f } :=
    ⟨fun _ _ => rfl, fun _ _ _ => rfl, fun _ => rfl⟩
  refine .ints hw (List.Mem.head _) rfl rfl ?_
  refine .ints hw (List.Mem.tail _ (List.Mem.head _)) rfl rfl ?_
  exact .loop hpart (fun i t => gtBit_sets p i (q.trgbits i) t) _

end

/-! ## HPS -/

section

variable (p : FloatPrinter)

theorem hps_part : ConfigPart hpsKeys (·.hps) fun c v => { c with hps := v } where
  get_put _ _ := rfl
  put_put _ _ _ := rfl
  put_get _ := rfl
  sub key hkey := by
    apply List.mem_append_right
    repeat first | exact List.mem_append_right _ hkey | exact hkey | apply List.mem_append_left

/-- The tables of single, pair and multiplicity triggers are in the table of HPS. -/
theorem hps_sub : (∀ key ∈ hpsSingleKeys, key ∈ hpsKeys) ∧ (∀ key ∈ hpsPairKeys, key ∈ hpsKeys) ∧
    ∀ key ∈ hpsMultKeys, key ∈ hpsKeys := by
  refine ⟨?_, ?_, ?_⟩ <;> intro key hkey
  all_goals
    unfold hpsKeys
    repeat first | exact List.mem_append_right _ hkey | apply List.mem_append_left

theorem single_isPart : IsPart HpsConf.singleTrig fun c f => { c with singleTrig := f } :=
  ⟨fun _ _ => rfl, fun _ _ _ => rfl, fun _ => rfl⟩

theorem pair_isPart : IsPart HpsConf.pairTrig fun c f => { c with pairTrig := f } :=
  ⟨fun _ _ => rfl, fun _ _ _ => rfl, fun _ => rfl⟩

theorem mult_isPart : IsPart HpsConf.multTrig fun c f => { c with multTrig := f } :=
  ⟨fun _ _ => rfl, fun _ _ _ => rfl, fun _ => rfl⟩

theorem mult_sets (i : Fin 2) (q t : HpsMultTrig) :
    SetsAt hpsMultKeys HpsConf.multTrig (fun c f => { c with multTrig := f }) i (hpsMultLines i q)
      t q := by
  have hw : Words hpsMultKeys := fun key hkey => hps_part.words _ (hps_sub.2.2 key hkey)
  unfold hpsMultLines
  repeat' first
    | exact SetsAt.nil mult_isPart _ | exact rfl | exact List.Mem.head _ | apply List.Mem.tail
    | apply SetsAt.element mult_isPart hw

theorem itemsText_cons {i : Item} {items : List Item} {k m : Nat} (hi : Plain k i.text)
    (hitems : Plain m (itemsText items)) : Plain (k + 1 + m) (itemsText (i :: items)) := by
  have hblank : Plain 1 [' '] := ⟨by decide, by decide, by decide⟩
  have hplain : Plain (1 + k + m) ([' '] ++ i.text ++ itemsText items) :=
    (hblank.append hi).append hitems
  rw [Nat.add_comm 1 k] at hplain
  exact hplain

/-- What is read of the energy slope of a pair is what was printed. -/
def readPair (t : HpsPairTrig) : HpsPairTrig := { t with pairEdFactor := p.f t.pairEdFactor }

theorem pair_sets (i : Fin 4) (q t : HpsPairTrig) (hdec : IsDecimal (p.f q.pairEdFactor)) :
    SetsAt hpsPairKeys HpsConf.pairTrig (fun c f => { c with pairTrig := f }) i
      (hpsPairLines p i q) t (readPair p q) := by
  have hw : Words hpsPairKeys := fun key hkey => hps_part.words _ (hps_sub.2.1 key hkey)
  have hfit : ItemsFit [.d (indexWord i), .word (p.f q.pairEdFactor), .d q.pairEdThr,
      .d q.pairEdEn] := by
    obtain ⟨hword, hplain⟩ := p.word q.pairEdFactor
    apply itemsFit_words (k := 11)
    · simp only [List.forall_mem_cons, List.not_mem_nil, false_implies, implies_true, and_true]
      exact ⟨Item.solid_d _, hword, Item.solid_d _, Item.solid_d _⟩
    · decide
    · rintro i ⟨⟩
      exact (Item.plain_d _).length_le
    · exact (itemsText_cons (Item.plain_d _) (itemsText_cons hplain (itemsText_cons (Item.plain_d _)
        (itemsText_cons (Item.plain_d _) plain_nil)))).mono (by decide)
  unfold hpsPairLines
  refine .element pair_isPart hw (List.Mem.head _) rfl rfl rfl ?_
  refine .element pair_isPart hw (List.Mem.tail _ (List.Mem.head _)) rfl rfl rfl ?_
  refine .element pair_isPart hw
    (by repeat first | exact List.Mem.head _ | apply List.Mem.tail) rfl rfl rfl ?_
  refine .element pair_isPart hw
    (by repeat first | exact List.Mem.head _ | apply List.Mem.tail) rfl rfl rfl ?_
  refine .element pair_isPart hw
    (by repeat first | exact List.Mem.head _ | apply List.Mem.tail) rfl rfl rfl ?_
  refine .element pair_isPart hw
    (by repeat first | exact List.Mem.head _ | apply List.Mem.tail) rfl rfl rfl ?_
  refine .indexedMixed pair_isPart hw [.inr (p.f q.pairEdFactor), .inl q.pairEdThr, .inl q.pairEdEn]
    (by repeat first | exact List.Mem.head _ | apply List.Mem.tail) rfl ?_ hfit rfl
    (fun t => { t with
      pairEdFactor := p.f q.pairEdFactor
      pairEdThr := q.pairEdThr
      pairEdEn := q.pairEdEn }) (fun _ => rfl) ?_
  · intro x hx
    simp only [List.mem_cons, Sum.inr.injEq, List.not_mem_nil, or_false, reduceCtorEq] at hx
    exact hx ▸ hdec
  repeat' first
    | exact SetsAt.nil pair_isPart _ | exact rfl | exact List.Mem.head _ | apply List.Mem.tail
    | apply SetsAt.element pair_isPart hw

/-- What is read of the coefficients of a single trigger is what was printed. -/
def readSingle (t : HpsSingleTrig) : HpsSingleTrig := { t with pdeC := fun k => p.f (t.pdeC k) }

theorem pde_floats (w e : Word) (x : Fin 4 → FloatText) :
    (fun k : Fin 4 => floatAt [.inl w, .inr (x 0), .inr (x 1), .inr (x 2), .inr (x 3), .inl e]
      (k.val + 1)) = x := by
  funext k
  rcases k with ⟨_ | _ | _ | _ | k, hk⟩
  · rfl
  · rfl
  · rfl
  · rfl
  · omega

theorem single_sets (i : Fin 4) (q t : HpsSingleTrig) (hdec : ∀ k, IsDecimal (p.f (q.pdeC k))) :
    SetsAt hpsSingleKeys HpsConf.singleTrig (fun c f => { c with singleTrig := f }) i
      (hpsSingleLines p i q) t (readSingle p q) := by
  have hw : Words hpsSingleKeys := fun key hkey => hps_part.words _ (hps_sub.1 key hkey)
  have hfit : ItemsFit [.d (indexWord i), .word (p.f (q.pdeC 0)), .word (p.f (q.pdeC 1)),
      .word (p.f (q.pdeC 2)), .word (p.f (q.pdeC 3)), .d q.pdeEn] := by
    have hword := fun k => p.word (q.pdeC k)
    apply itemsFit_words (k := 11)
    · simp only [List.forall_mem_cons, List.not_mem_nil, false_implies, implies_true, and_true]
      exact ⟨Item.solid_d _, (hword 0).1, (hword 1).1, (hword 2).1, (hword 3).1, Item.solid_d _⟩
    · decide
    · rintro i ⟨⟩
      exact (Item.plain_d _).length_le
    · exact (itemsText_cons (Item.plain_d _) (itemsText_cons (hword 0).2 (itemsText_cons (hword 1).2
        (itemsText_cons (hword 2).2 (itemsText_cons (hword 3).2
          (itemsText_cons (Item.plain_d _) plain_nil)))))).mono (by decide)
  unfold hpsSingleLines
  refine .element single_isPart hw (List.Mem.head _) rfl rfl rfl ?_
  refine .element single_isPart hw (List.Mem.tail _ (List.Mem.head _)) rfl rfl rfl ?_
  refine .element single_isPart hw
    (by repeat first | exact List.Mem.head _ | apply List.Mem.tail) rfl rfl rfl ?_
  refine .element single_isPart hw
    (by repeat first | exact List.Mem.head _ | apply List.Mem.tail) rfl rfl rfl ?_
  refine .indexedMixed single_isPart hw [.inr (p.f (q.pdeC 0)), .inr (p.f (q.pdeC 1)),
    .inr (p.f (q.pdeC 2)), .inr (p.f (q.pdeC 3)), .inl q.pdeEn]
    (by repeat first | exact List.Mem.head _ | apply List.Mem.tail) rfl ?_ hfit rfl
    (fun t => { t with pdeC := fun k => p.f (q.pdeC k), pdeEn := q.pdeEn }) ?_ ?_
  · intro x hx
    simp only [List.mem_cons, Sum.inr.injEq, List.not_mem_nil, or_false, reduceCtorEq] at hx
    rcases hx with rfl | rfl | rfl | rfl
    · exact hdec 0
    · exact hdec 1
    · exact hdec 2
    · exact hdec 3
  · intro c
    rw [← pde_floats (indexWord i) q.pdeEn fun k => p.f (q.pdeC k)]
    rfl
  repeat' first
    | exact SetsAt.nil single_isPart _ | exact rfl | exact List.Mem.head _ | apply List.Mem.tail
    | apply SetsAt.element single_isPart hw

/-- The cluster as it is read back: `top` is 1. -/
theorem cluster_sets (hw : Words hpsClusterKeys) (c q : HpsClusterConf)
    (htop : q.topNbottom ≠ 0#32) :
    Sets hpsClusterKeys (hpsClusterLines q) c { q with topNbottom := 1#32 } := by
  unfold hpsClusterLines
  rw [if_pos htop]
  repeat' first
    | exact Sets.nil _ | exact rfl | exact List.Mem.head _ | apply List.Mem.tail
    | apply Sets.ints hw

theorem hodoscope_sets (hw : Words hpsHodoscopeKeys) (c q : HpsHodoscopeConf) :
    Sets hpsHodoscopeKeys (hpsHodoscopeLines q) c q := by
  repeat' first
    | exact Sets.nil _ | exact rfl | exact List.Mem.head _ | apply List.Mem.tail
    | apply Sets.ints hw

/-- The calibration as it is read back. -/
def readCalib (q : HpsCalibConf) : HpsCalibConf :=
  { q with
    pulserFreq := floatAt (mixedArgs [.f]
      ((TextLine.mk "VTP_HPS_CALIB_PULSER_FREQ" [.word (p.f q.pulserFreq)]).text ++ ['\n'])) 0 }

theorem calib_sets (hw : Words hpsCalibKeys) (c q : HpsCalibConf) :
    Sets hpsCalibKeys (hpsCalibLines p q) c (readCalib p q) := by
  have hfreq : ∀ c : HpsCalibConf, Sets hpsCalibKeys
      [⟨"VTP_HPS_CALIB_PULSER_FREQ", [.word (p.f q.pulserFreq)]⟩] c
      { c with pulserFreq := (readCalib p q).pulserFreq } := by
    intro c
    have hmem : ("VTP_HPS_CALIB_PULSER_FREQ", fun line s =>
        .next ({ s.1 with pulserFreq := floatAt (mixedArgs [.f] line) 0 }, s.2)) ∈
          hpsCalibKeys := by
      repeat first | exact List.Mem.head _ | apply List.Mem.tail
    exact .cons hmem (itemsFit_word (p.word q.pulserFreq)) (fun l => ⟨l, rfl⟩) (.nil _)
  repeat' first
    | exact hfreq _ | exact rfl | exact List.Mem.head _ | apply List.Mem.tail
    | apply Sets.ints hw

theorem fee_sets (hw : Words hpsFeeKeys) (c q : HpsFeeTrig) :
    Sets hpsFeeKeys (hpsFeeLines q) c q := by
  have hpart : IsPart
      (fun c : HpsFeeTrig => fun i => (c.prescaleXmin i, c.prescaleXmax i, c.prescale i))
      (fun c f => { c with
        prescaleXmin := fun i => (f i).1
        prescaleXmax := fun i => (f i).2.1
        prescale := fun i => (f i).2.2 }) :=
    ⟨fun _ _ => rfl, fun _ _ _ => rfl, fun _ => rfl⟩
  have hhead : Sets hpsFeeKeys
      [intLine "VTP_HPS_FEE_EN" [q.en],
       intLine "VTP_HPS_FEE_EMIN" [q.clusterEmin],
       intLine "VTP_HPS_FEE_EMAX" [q.clusterEmax],
       intLine "VTP_HPS_FEE_NMIN" [q.clusterNmin]] c
      { q with
        prescaleXmin := c.prescaleXmin
        prescaleXmax := c.prescaleXmax
        prescale := c.prescale } := by
    repeat' first
      | exact Sets.nil _ | exact rfl | exact List.Mem.head _ | apply List.Mem.tail
      | apply Sets.ints hw
  refine hhead.append ?_
  rw [List.map_eq_flatMap]
  refine .loop hpart (fun i t => ?_) _
    (g := fun i => (q.prescaleXmin i, q.prescaleXmax i, q.prescale i))
  refine .indexed hpart hw (List.Mem.tail _ (List.Mem.head _)) rfl rfl rfl ?_ (.nil hpart _)
  intro c hc
  have hupdate : ∀ {α : Type} (proj : Word × Word × Word → α) (f : Fin 7 → Word × Word × Word) v,
      (fun j => proj (update f i v j)) = update (fun j => proj (f j)) i (proj v) :=
    fun proj f v => comp_update proj f i v
  rw [hupdate fun v => v.1, hupdate fun v => v.2.1, hupdate fun v => v.2.2]
  rfl

theorem trig_sets (hw : Words hpsTrigKeys) (c q : HpsTrigConf) :
    Sets hpsTrigKeys (hpsTrigLines q) c q := by
  have hpart : IsPart HpsTrigConf.prescale fun c f => { c with prescale := f } :=
    ⟨fun _ _ => rfl, fun _ _ _ => rfl, fun _ => rfl⟩
  refine .ints hw (List.Mem.head _) rfl rfl ?_
  rw [List.map_eq_flatMap]
  refine .loop hpart (fun i t => ?_) _
  exact .indexed hpart hw (List.Mem.tail _ (List.Mem.head _)) rfl rfl rfl (fun _ _ => rfl)
    (.nil hpart _)

/-- The triggers of HPS as they are read back. -/
def readHps (q : HpsConf) : HpsConf :=
  { q with
    cluster := { q.cluster with topNbottom := 1#32 }
    calib := readCalib p q.calib
    singleTrig := fun i => readSingle p (q.singleTrig i)
    pairTrig := fun i => readPair p (q.pairTrig i) }

theorem pairs_sets (c q : HpsConf) (hdec : ∀ i, IsDecimal (p.f (q.pairTrig i).pairEdFactor)) :
    Sets hpsKeys ((List.finRange 4).flatMap fun i => hpsPairLines p i (q.pairTrig i)) c
      { c with pairTrig := fun i => readPair p (q.pairTrig i) } :=
  (Sets.loop pair_isPart (fun i t => pair_sets p i (q.pairTrig i) t (hdec i)) c).mono hps_sub.2.1

/-- The lines behind the threshold of the hodoscope. -/
theorem hps_sets (c q : HpsConf) (htop : q.cluster.topNbottom ≠ 0#32)
    (hpair : ∀ i, IsDecimal (p.f (q.pairTrig i).pairEdFactor))
    (hsingle : ∀ i k, IsDecimal (p.f ((q.singleTrig i).pdeC k))) :
    Sets hpsKeys
      (hpsClusterLines q.cluster ++ hpsHodoscopeLines q.hodoscope ++ hpsCalibLines p q.calib ++
        ((List.finRange 4).flatMap fun i => hpsSingleLines p i (q.singleTrig i)) ++
        ((List.finRange 4).flatMap fun i => hpsPairLines p i (q.pairTrig i)) ++
        ((List.finRange 2).flatMap fun i => hpsMultLines i (q.multTrig i)) ++
        hpsFeeLines q.feeTrig ++ hpsTrigLines q.trig) c (readHps p q) := by
  have hw : Words hpsKeys := hps_part.words
  have hcluster : ∀ key ∈ onPart (fun c : HpsConf => c.cluster) (fun c v => { c with cluster := v })
      hpsClusterKeys, key ∈ hpsKeys := by
    intro key hkey
    repeat first | exact List.mem_append_right _ hkey | exact hkey | apply List.mem_append_left
  have hhodoscope : ∀ key ∈ onPart (fun c : HpsConf => c.hodoscope)
      (fun c v => { c with hodoscope := v }) hpsHodoscopeKeys, key ∈ hpsKeys := by
    intro key hkey
    repeat first | exact List.mem_append_right _ hkey | exact hkey | apply List.mem_append_left
  have hcalib : ∀ key ∈ onPart (fun c : HpsConf => c.calib) (fun c v => { c with calib := v })
      hpsCalibKeys, key ∈ hpsKeys := by
    intro key hkey
    repeat first | exact List.mem_append_right _ hkey | exact hkey | apply List.mem_append_left
  have hfee : ∀ key ∈ onPart (fun c : HpsConf => c.feeTrig) (fun c v => { c with feeTrig := v })
      hpsFeeKeys, key ∈ hpsKeys := by
    intro key hkey
    repeat first | exact List.mem_append_right _ hkey | exact hkey | apply List.mem_append_left
  have htrig : ∀ key ∈ onPart (fun c : HpsConf => c.trig) (fun c v => { c with trig := v })
      hpsTrigKeys, key ∈ hpsKeys := by
    intro key hkey
    repeat first | exact List.mem_append_right _ hkey | exact hkey | apply List.mem_append_left
  have h₁ := Sets.sub hcluster ⟨fun _ _ => rfl, fun _ _ _ => rfl, fun _ => rfl⟩ c
    (cluster_sets (hw.sub hcluster) c.cluster q.cluster htop)
  have h₂ := h₁.append (.sub hhodoscope ⟨fun _ _ => rfl, fun _ _ _ => rfl, fun _ => rfl⟩ _
    (hodoscope_sets (hw.sub hhodoscope) c.hodoscope q.hodoscope))
  have h₃ := h₂.append (.sub hcalib ⟨fun _ _ => rfl, fun _ _ _ => rfl, fun _ => rfl⟩ _
    (calib_sets p (hw.sub hcalib) c.calib q.calib))
  have h₄ := h₃.append ((Sets.loop single_isPart (fun i t => single_sets p i (q.singleTrig i) t
    (hsingle i)) _).mono hps_sub.1)
  have h₅ := h₄.append (pairs_sets p _ q hpair)
  have h₆ := h₅.append ((Sets.loop mult_isPart (fun i t => mult_sets i (q.multTrig i) t) _).mono
    hps_sub.2.2)
  have h₇ := h₆.append (.sub hfee ⟨fun _ _ => rfl, fun _ _ _ => rfl, fun _ => rfl⟩ _
    (fee_sets (hw.sub hfee) c.feeTrig q.feeTrig))
  exact h₇.append (.sub htrig ⟨fun _ _ => rfl, fun _ _ _ => rfl, fun _ => rfl⟩ _
    (trig_sets (hw.sub htrig) c.trig q.trig))

end

end VtpStreaming
