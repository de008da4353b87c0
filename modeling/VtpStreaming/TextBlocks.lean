import VtpStreaming.TextTriggers
import VtpStreaming.UploadExact

/-!
# What the printed blocks store

The lines of every firmware and the block of each firmware type, read over any
configuration. Two blocks are not read back: that of Compton has other words than
the parser, and that of the streaming sets its first entry twice.
-/

namespace VtpStreaming

open Clib Function

/-! ## Masks, bit by bit -/

theorem maskBit_eq (mask : Word) (i : Nat) :
    (mask >>> i) &&& 1#32 = if mask.getLsbD i then 1#32 else 0#32 := by
  apply BitVec.eq_of_getLsbD_eq
  intro k hk
  rcases k with _ | k
  · split <;> simp_all
  · split <;> simp

/-- `msk` after a printed mask. -/
def printedMsk (n : Nat) (mask : Word) (msk : Fin 16 → Word) (j : Fin 16) : Word :=
  if j.val < n then (mask >>> j.val) &&& 1#32 else msk j

theorem scanMsk_maskBits (n : Nat) (mask : Word) (msk : Fin 16 → Word) :
    scanMsk (maskBits n mask) n msk = printedMsk n mask msk := by
  funext j
  unfold scanMsk printedMsk maskBits
  split
  · next h =>
    rw [List.getD_eq_getElem?_getD, List.getElem?_map, List.getElem?_range h]
    rfl
  · rfl

section Bits

variable {n : Nat} {msk : Fin 16 → Word}

theorem mskOk_of_bits (h : ∀ j : Fin 16, j.val < n → msk j = 0#32 ∨ msk j = 1#32) :
    mskOk n msk = true := by
  unfold mskOk
  rw [List.all_eq_true]
  intro j _
  rcases Nat.lt_or_ge j.val n with hlt | hge
  · obtain hbit | hbit := h j hlt
    · simp [hbit]
    · simp [hbit]
  · simp [hge]

/-- The bits of the word that is put together. -/
theorem foldl_mask_getLsbD (n : Nat) (msk : Fin 16 → Word) (js : List (Fin 16)) (u : Word)
    (k : Nat) :
    (js.foldl (fun u j => if j.val < n then u ||| (msk j <<< j.val) else u) u).getLsbD k =
      (u.getLsbD k || js.any fun j => decide (j.val < n) && (msk j <<< j.val).getLsbD k) := by
  induction js generalizing u with
  | nil => simp
  | cons j js ih =>
    rw [List.foldl_cons, ih, List.any_cons]
    split
    · next h => simp [h, Bool.or_assoc]
    · next h => simp [h]

/-- Of an array of zeros and ones, the bits of the mask are the places of the ones. -/
theorem mskWord_bits (h : ∀ j : Fin 16, j.val < n → msk j = 0#32 ∨ msk j = 1#32) (k : Nat) :
    (mskWord n msk).getLsbD k = true ↔ ∃ j : Fin 16, j.val < n ∧ j.val = k ∧ msk j = 1#32 := by
  have hbit : ∀ j : Fin 16, j.val < n →
      ((msk j <<< j.val).getLsbD k = true ↔ j.val = k ∧ msk j = 1#32) := by
    intro j hj
    obtain hzero | hone := h j hj
    · simp [hzero]
    · have hpow : (1#32 <<< j.val).getLsbD k = (decide (j.val < 32) && decide (j.val = k)) :=
        BitVec.getLsbD_twoPow ..
      have hlt : j.val < 32 := by omega
      rw [hone, hpow, decide_eq_true hlt, Bool.true_and, decide_eq_true_eq, and_iff_left rfl]
  unfold mskWord
  rw [foldl_mask_getLsbD, BitVec.getLsbD_zero, Bool.false_or, List.any_eq_true]
  constructor
  · rintro ⟨j, -, hj⟩
    rw [Bool.and_eq_true, decide_eq_true_eq] at hj
    exact ⟨j, hj.1, (hbit j hj.1).mp hj.2⟩
  · rintro ⟨j, hj, hone⟩
    exact ⟨j, List.mem_finRange j, by rw [decide_eq_true hj, (hbit j hj).mpr hone, Bool.and_self]⟩

theorem mskWord_getLsbD (h : ∀ j : Fin 16, j.val < n → msk j = 0#32 ∨ msk j = 1#32) (i : Fin 16)
    (hi : i.val < n) : (mskWord n msk).getLsbD i = decide (msk i = 1#32) := by
  rw [Bool.eq_iff_iff, mskWord_bits h, decide_eq_true_iff]
  constructor
  · rintro ⟨j, -, hj, hone⟩
    rwa [← Fin.ext hj]
  · exact fun hone => ⟨i, hi, rfl, hone⟩

end Bits

theorem printedMsk_eq {n : Nat} {j : Fin 16} (hj : j.val < n) (mask : Word) (msk : Fin 16 → Word) :
    printedMsk n mask msk j = if mask.getLsbD j.val then 1#32 else 0#32 := by
  rw [printedMsk, if_pos hj, maskBit_eq]

theorem printedMsk_bits {n : Nat} (mask : Word) (msk : Fin 16 → Word) (j : Fin 16)
    (hj : j.val < n) : printedMsk n mask msk j = 0#32 ∨ printedMsk n mask msk j = 1#32 := by
  rw [printedMsk_eq hj]
  split
  · exact Or.inr rfl
  · exact Or.inl rfl

theorem mskOk_printed (n : Nat) (mask : Word) (msk : Fin 16 → Word) :
    mskOk n (printedMsk n mask msk) = true :=
  mskOk_of_bits (printedMsk_bits mask msk)

theorem mskWord_printed_getLsbD {n : Nat} (hn : n ≤ 16) (mask : Word) (msk : Fin 16 → Word)
    {k : Nat} (hk : k < n) : (mskWord n (printedMsk n mask msk)).getLsbD k = mask.getLsbD k := by
  have hbit := mskWord_getLsbD (printedMsk_bits mask msk) ⟨k, Nat.lt_of_lt_of_le hk hn⟩ hk
  rw [printedMsk_eq hk] at hbit
  cases hmask : mask.getLsbD k with
  | false => simpa [hmask] using hbit
  | true => simpa [hmask] using hbit

/-- A mask that is printed, read and printed again. -/
theorem maskBits_printed {n : Nat} (hn : n ≤ 16) (mask : Word) (msk : Fin 16 → Word) :
    maskBits n (mskWord n (printedMsk n mask msk)) = maskBits n mask := by
  apply List.map_congr_left
  intro i hi
  rw [maskBit_eq, maskBit_eq, mskWord_printed_getLsbD hn mask msk (List.mem_range.mp hi)]

/-! ## Lines of every firmware -/

theorem maskBits_length (n : Nat) (mask : Word) : (maskBits n mask).length = n := by
  simp [maskBits]

theorem commonKeys_sub : ∀ key ∈ commonKeys, key ∈ configKeys :=
  fun _ hkey => List.mem_append_left _ (List.mem_append_left _ (List.mem_append_left _ hkey))

theorem commonKeys_words : Words commonKeys :=
  fun key hkey => (configKeys_isSetting (commonKeys_sub key hkey)).word

theorem scanArgs_maskLine {key : String} (hkey : IsWord key.toList) (n : Nat) (mask : Word) :
    scanArgs scanD n ((intLine key (maskBits n mask)).text ++ ['\n']) = maskBits n mask := by
  have hscan := scanArgs_intLine hkey (maskBits n mask)
  rwa [maskBits_length] at hscan

/-- Reading the common lines restores what they print, and nothing of the streaming. -/
theorem every_runs (c c₀ : VtpConf) (l : Locals) :
    ∃ c₁ l₁, TableRuns configKeys (everyLines c) (c₀, l) (c₁, l₁) ∧
      l₁.streamingEb = l.streamingEb ∧ everyLines c₁ = everyLines c ∧
      c₁.fadcStreaming = c₀.fadcStreaming := by
  have hw := commonKeys_words
  have hwidth : ("VTP_W_WIDTH", ints 1 fun a (c : VtpConf) => { c with windowWidth := a 0 }) ∈
      commonKeys := List.Mem.head _
  have hoffset : ("VTP_W_OFFSET", ints 1 fun a (c : VtpConf) => { c with windowOffset := a 0 }) ∈
      commonKeys := List.Mem.tail _ (List.Mem.head _)
  have hpayload : ("VTP_PAYLOAD_EN", vtpPayloadEn) ∈ commonKeys := by
    repeat first | exact List.Mem.head _ | apply List.Mem.tail
  have hfiber : ("VTP_FIBER_EN", vtpFiberEn) ∈ commonKeys := by
    repeat first | exact List.Mem.head _ | apply List.Mem.tail
  have hstepPayload : ∀ (c' : VtpConf) (l : Locals),
      vtpPayloadEn ((intLine "VTP_PAYLOAD_EN" (maskBits 16 c.payloadEn)).text ++ ['\n']) (c', l) =
        .next ({ c' with
            payloadEn := mskWord 16 (printedMsk 16 c.payloadEn l.msk)
            streaming := { c'.streaming with payloadEnArray := printedMsk 16 c.payloadEn l.msk } },
          { l with msk := printedMsk 16 c.payloadEn l.msk }) := by
    intro c' l
    unfold vtpPayloadEn
    rw [scanArgs_maskLine (hw _ hpayload), scanMsk_maskBits]
    dsimp only
    rw [mskOk_printed]
    rfl
  have hstepFiber : ∀ (c' : VtpConf) (l : Locals),
      vtpFiberEn ((intLine "VTP_FIBER_EN" (maskBits 4 c.fiberEn)).text ++ ['\n']) (c', l) =
        .next ({ c' with fiberEn := mskWord 4 (printedMsk 4 c.fiberEn l.msk) },
          { l with msk := printedMsk 4 c.fiberEn l.msk }) := by
    intro c' l
    unfold vtpFiberEn
    rw [scanArgs_maskLine (hw _ hfiber), scanMsk_maskBits]
    dsimp only
    rw [mskOk_printed]
    rfl
  have hfit : ∀ n, n ≤ 18 → ∀ mask, ItemsFit ((maskBits n mask).map .d) :=
    fun n hn mask => itemsFit_ints (by rwa [maskBits_length])
  refine ⟨_, _, TableRuns.mono (.ints hw hwidth rfl rfl (.ints hw hoffset rfl rfl
    (.cons hpayload (hfit 16 (by decide) _) (hstepPayload _ l)
      (.cons hfiber (hfit 4 (by decide) _) (hstepFiber _ _) (.nil _))))) commonKeys_sub,
    rfl, ?_, rfl⟩
  unfold everyLines
  dsimp only
  rw [maskBits_printed (by decide), maskBits_printed (by decide)]
  rfl

/-! ## The block of a firmware type -/

section

variable (p : FloatPrinter)

def textTypes : List Int :=
  [vtpFwTypeEc, vtpFwTypePc, vtpFwTypeHtcc, vtpFwTypeFtof, vtpFwTypeCnd, vtpFwTypePcs, vtpFwTypeEcs,
   vtpFwTypeGt, vtpFwTypeDc, vtpFwTypeHcal, vtpFwTypeFtcal, vtpFwTypeHps, vtpFwTypeCompton,
   vtpFwTypeFadcstream]

theorem textBlocks_types (c : VtpConf) : (textBlocks p c).map (·.1) = textTypes := rfl

theorem flatMap_block {α : Type} {table : List (Int × List α)} (hnodup : (table.map (·.1)).Nodup)
    {type : Int} {ls : List α} (h : (type, ls) ∈ table) :
    (table.flatMap fun b => if type = b.1 then b.2 else []) = ls := by
  have hother : ∀ table : List (Int × List α), type ∉ table.map (·.1) →
      (table.flatMap fun b => if type = b.1 then b.2 else []) = [] := by
    intro table hnot
    rw [List.flatMap_eq_nil_iff]
    intro b hb
    rw [if_neg fun heq => hnot (List.mem_map.mpr ⟨b, hb, heq.symm⟩)]
  induction table with
  | nil => cases h
  | cons b table ih =>
    rw [List.map_cons, List.nodup_cons] at hnodup
    rw [List.flatMap_cons]
    cases h with
    | head =>
      rw [if_pos rfl, hother table hnodup.1, List.append_nil]
    | tail _ h =>
      have hne : type ≠ b.1 := by
        rintro rfl
        exact hnodup.1 (List.mem_map.mpr ⟨_, h, rfl⟩)
      rw [if_neg hne, List.nil_append, ih hnodup.2 h]

theorem blockLines_eq {type : Int} {ls : List TextLine} {c : VtpConf}
    (h : (type, ls) ∈ textBlocks p c) : blockLines p type c = ls :=
  flatMap_block (by rw [textBlocks_types]; decide) h

theorem blockLines_none {type : Int} (h : type ∉ textTypes) (c : VtpConf) :
    blockLines p type c = [] := by
  unfold blockLines
  rw [List.flatMap_eq_nil_iff]
  intro b hb
  rw [if_neg]
  rintro rfl
  exact h (textBlocks_types p c ▸ List.mem_map_of_mem hb)

/-- The integers that the lines print. -/
def printedValues (ls : List TextLine) : List (String × List Word) := ls.map TextLine.values

/-- The lines of the firmware, read over any configuration, leave the integers that
they print. -/
def BlockReads (type : Int) (c : VtpConf) : Prop :=
  ∀ c₁, ∃ c', Sets configKeys (blockLines p type c) c₁ c' ∧ everyLines c' = everyLines c₁ ∧
    printedValues (blockLines p type c') = printedValues (blockLines p type c)

variable {p}

/-- A firmware with one part, of which `q` is read back. -/
theorem blockReads_part {τ : Type} {keys : List (String × Branch τ)} {get : VtpConf → τ}
    {put : VtpConf → τ → VtpConf} {type : Int} {c : VtpConf} (lines : τ → List TextLine)
    (hpart : ConfigPart keys get put) (hmem : ∀ c, (type, lines (get c)) ∈ textBlocks p c)
    (hevery : ∀ c t, everyLines (put c t) = everyLines c) (q : τ → τ)
    (hsets : ∀ t, Sets keys (lines (get c)) t (q t))
    (hvalues : ∀ t, printedValues (lines (q t)) = printedValues (lines (get c))) :
    BlockReads p type c := by
  intro c₁
  refine ⟨put c₁ (q (get c₁)), ?_, hevery c₁ _, ?_⟩
  · rw [blockLines_eq p (hmem c)]
    exact hpart.sets c₁ (hsets (get c₁))
  · rw [blockLines_eq p (hmem c), blockLines_eq p (hmem _), hpart.get_put]
    exact hvalues _

theorem blockReads_none {type : Int} (h : type ∉ textTypes) (c : VtpConf) :
    BlockReads p type c := by
  intro c₁
  refine ⟨c₁, ?_, rfl, ?_⟩
  · rw [blockLines_none p h]
    exact .nil c₁
  · rw [blockLines_none p h, blockLines_none p h]

theorem reads_pc (c : VtpConf) : BlockReads p vtpFwTypePc c :=
  blockReads_part pcLines pc_part
    (fun c => by repeat first | exact List.Mem.head _ | apply List.Mem.tail) (fun _ _ => rfl)
    (fun _ => c.pc) (fun t => pc_sets t c.pc) fun _ => rfl

theorem reads_htcc (c : VtpConf) : BlockReads p vtpFwTypeHtcc c :=
  blockReads_part htccLines htcc_part
    (fun c => by repeat first | exact List.Mem.head _ | apply List.Mem.tail) (fun _ _ => rfl)
    (fun _ => c.htcc) (fun t => htcc_sets t c.htcc) fun _ => rfl

theorem reads_ftof (c : VtpConf) : BlockReads p vtpFwTypeFtof c :=
  blockReads_part ftofLines ftof_part
    (fun c => by repeat first | exact List.Mem.head _ | apply List.Mem.tail) (fun _ _ => rfl)
    (fun _ => c.ftof) (fun t => ftof_sets t c.ftof) fun _ => rfl

theorem reads_cnd (c : VtpConf) : BlockReads p vtpFwTypeCnd c :=
  blockReads_part cndLines cnd_part
    (fun c => by repeat first | exact List.Mem.head _ | apply List.Mem.tail) (fun _ _ => rfl)
    (fun _ => c.cnd) (fun t => cnd_sets t c.cnd) fun _ => rfl

theorem reads_pcs (c : VtpConf) : BlockReads p vtpFwTypePcs c :=
  blockReads_part pcsLines pcs_part
    (fun c => by repeat first | exact List.Mem.head _ | apply List.Mem.tail) (fun _ _ => rfl)
    (fun _ => c.pcs) (fun t => pcs_sets t c.pcs) fun _ => rfl

theorem reads_ecs (c : VtpConf) : BlockReads p vtpFwTypeEcs c :=
  blockReads_part ecsLines ecs_part
    (fun c => by repeat first | exact List.Mem.head _ | apply List.Mem.tail) (fun _ _ => rfl)
    (fun _ => c.ecs) (fun t => ecs_sets t c.ecs) fun _ => rfl

/-- The frequencies are read back as they were printed, and no integer is among them. -/
theorem reads_gt (c : VtpConf) : BlockReads p vtpFwTypeGt c := by
  refine blockReads_part (gtLines p) gt_part
    (fun c => by repeat first | exact List.Mem.head _ | apply List.Mem.tail) (fun _ _ => rfl)
    (fun _ => readGt p c.gt) (fun t => gt_sets p t c.gt) fun _ => ?_
  simp only [printedValues, gtLines, List.map_cons, List.map_flatMap]
  rfl

theorem reads_dc (c : VtpConf) : BlockReads p vtpFwTypeDc c :=
  blockReads_part dcLines dc_part
    (fun c => by repeat first | exact List.Mem.head _ | apply List.Mem.tail) (fun _ _ => rfl)
    (fun t => { t with dcsegfindThreshold := c.dc.dcsegfindThreshold }) (fun t => dc_sets t c.dc)
    fun _ => rfl

theorem reads_hcal (c : VtpConf) : BlockReads p vtpFwTypeHcal c :=
  blockReads_part hcalLines hcal_part
    (fun c => by repeat first | exact List.Mem.head _ | apply List.Mem.tail) (fun _ _ => rfl)
    (fun _ => c.hcal) (fun t => hcal_sets t c.hcal) fun _ => rfl

theorem reads_ftcal (c : VtpConf) : BlockReads p vtpFwTypeFtcal c :=
  blockReads_part ftcalLines ftcal_part
    (fun c => by repeat first | exact List.Mem.head _ | apply List.Mem.tail) (fun _ _ => rfl)
    (fun _ => c.ftcal) (fun t => ftcal_sets t c.ftcal) fun _ => rfl

/-- Floats that come from the registers of HPS are finite. -/
structure FiniteHps (p : FloatPrinter) (c : HpsConf) : Prop where
  pair : ∀ i, IsDecimal (p.f (c.pairTrig i).pairEdFactor)
  single : ∀ i k, IsDecimal (p.f ((c.singleTrig i).pdeC k))

theorem hps_values (q : HpsConf) (t : FthodoConf) (htop : q.cluster.topNbottom ≠ 0#32) :
    printedValues (hpsLines p (readHps p q) t) = printedValues (hpsLines p q t) := by
  have hcluster : hpsClusterLines (readHps p q).cluster = hpsClusterLines q.cluster := by
    unfold hpsClusterLines
    have hone : (readHps p q).cluster.topNbottom ≠ 0#32 := by
      show 1#32 ≠ 0#32
      decide
    rw [if_pos htop, if_pos hone]
    rfl
  unfold hpsLines
  rw [hcluster]
  simp only [printedValues, List.map_append, List.map_flatMap]
  rfl

theorem reads_hps {c : VtpConf} (hfinite : FiniteHps p c.hps)
    (htop : c.hps.cluster.topNbottom ≠ 0#32) : BlockReads p vtpFwTypeHps c := by
  have hmem : ∀ c : VtpConf, (vtpFwTypeHps, hpsLines p c.hps c.fthodo) ∈ textBlocks p c := by
    intro c
    repeat first | exact List.Mem.head _ | apply List.Mem.tail
  intro c₁
  refine ⟨{ c₁ with fthodo := c.fthodo, hps := readHps p c.hps }, ?_, rfl, ?_⟩
  · generalize hc₂ : ({ c₁ with
      hps := { c₁.hps with pairTrig := fun i => readPair p (c.hps.pairTrig i) } } : VtpConf) = c₂
    have hpairs : Sets configKeys _ c₁ c₂ :=
      hc₂ ▸ hps_part.sets c₁ (pairs_sets p c₁.hps c.hps hfinite.pair)
    have hhodo := fthodo_part.sets c₂ (fthodo_sets c₂.fthodo c.fthodo)
    have hrest := hps_part.sets { c₂ with fthodo := c.fthodo }
      (hps_sets p c₂.hps c.hps htop hfinite.pair hfinite.single)
    have hall := (hpairs.append hhodo).append hrest
    subst hc₂
    simp only [List.append_assoc] at hall
    rw [blockLines_eq p (hmem c)]
    unfold hpsLines
    simp only [List.append_assoc]
    exact hall
  · rw [blockLines_eq p (hmem c), blockLines_eq p (hmem _)]
    exact hps_values c.hps c.fthodo htop

/-! ## The Dalitz limits -/

theorem eightfold_eq (v : EcView) :
    eightfold v = v ↔ v.dalitzMin * 8#32 = v.dalitzMin ∧ v.dalitzMax * 8#32 = v.dalitzMax := by
  constructor
  · intro heq
    exact ⟨congrArg EcView.dalitzMin heq, congrArg EcView.dalitzMax heq⟩
  · rintro ⟨hmin, hmax⟩
    unfold eightfold
    rw [hmin, hmax]

/-- The limits are multiplied by 8 when they are read. -/
theorem ec_values (q : EcConf) :
    printedValues (ecLines ⟨q.fadcsumChEn, eightfold q.inner, eightfold q.outer⟩) =
        printedValues (ecLines q) ↔ eightfold q.inner = q.inner ∧ eightfold q.outer = q.outer := by
  constructor
  · intro heq
    have hinner : some ("VTP_EC_INNER_HIT_DALITZ",
          [q.inner.dalitzMin * 8#32, q.inner.dalitzMax * 8#32]) =
        some ("VTP_EC_INNER_HIT_DALITZ", [q.inner.dalitzMin, q.inner.dalitzMax]) :=
      congrArg (fun vs => vs[7]?) heq
    have houter : some ("VTP_EC_OUTER_HIT_DALITZ",
          [q.outer.dalitzMin * 8#32, q.outer.dalitzMax * 8#32]) =
        some ("VTP_EC_OUTER_HIT_DALITZ", [q.outer.dalitzMin, q.outer.dalitzMax]) :=
      congrArg (fun vs => vs[14]?) heq
    simp only [Option.some.injEq, Prod.mk.injEq, List.cons.injEq, and_true, true_and]
      at hinner houter
    exact ⟨(eightfold_eq _).mpr hinner, (eightfold_eq _).mpr houter⟩
  · rintro ⟨hinner, houter⟩
    rw [hinner, houter]

/-- A limit that is divided by 8, printed, read and multiplied is 0 or what it is not. -/
theorem eighth_mul_eq (x : Word) :
    (x &&& 0x3ff#32).sdiv 8#32 * 8#32 = (x &&& 0x3ff#32).sdiv 8#32 ↔
      (x &&& 0x3ff#32).toNat < 8 := by
  have hnat := eighth_toNat x
  have hlt := tenBits_lt x
  rw [← BitVec.toNat_inj, BitVec.toNat_mul, hnat]
  generalize (x &&& 0x3ff#32).toNat = n at hlt
  have hproduct : n / 8 * 8 % 2 ^ 32 = n / 8 * 8 := Nat.mod_eq_of_lt (by omega)
  calc n / 8 * 8 % 2 ^ 32 = n / 8
      ↔ n / 8 * 8 = n / 8 := by rw [hproduct]
    _ ↔ n < 8 := by omega

/-! ## The streaming entries -/

/-- The lines are read without a return, and the second entry is what it was. -/
def EbRuns (ls : List TextLine) : Prop :=
  ∀ (c : VtpConf) (l : Locals), l.streamingEb = 0 → ∃ c' l', TextRuns ls (c, l) (c', l') ∧
    l'.streamingEb = 0 ∧ c'.fadcStreaming.eb 1 = c.fadcStreaming.eb 1

theorem EbRuns.nil : EbRuns [] := fun c l hl => ⟨c, l, .nil _, hl, rfl⟩

theorem EbRuns.append {ls ms : List TextLine} (h : EbRuns ls) (h' : EbRuns ms) :
    EbRuns (ls ++ ms) := by
  intro c l hl
  obtain ⟨c₁, l₁, hrun, hl₁, heb⟩ := h c l hl
  obtain ⟨c₂, l₂, hrun', hl₂, heb'⟩ := h' c₁ l₁ hl₁
  exact ⟨c₂, l₂, hrun.append hrun', hl₂, heb'.trans heb⟩

theorem EbRuns.cons {l : TextLine} {ls : List TextLine} (h : EbRuns [l]) (h' : EbRuns ls) :
    EbRuns (l :: ls) :=
  h.append h'

theorem EbRuns.blank : EbRuns [⟨"", []⟩] :=
  fun c l hl => ⟨c, l, .blank (.nil _), hl, rfl⟩

theorem fadcStreaming_part :
    ConfigPart fadcStreamingKeys (·.fadcStreaming) fun c v => { c with fadcStreaming := v } where
  get_put _ _ := rfl
  put_put _ _ _ := rfl
  put_get _ := rfl
  sub _ hkey := List.mem_append_left _ (List.mem_append_right _ hkey)

/-- One line of the streaming. -/
theorem EbRuns.line {l : TextLine} {b : Branch FadcStreamingConf}
    (hmem : (l.key, b) ∈ fadcStreamingKeys) (hfit : ItemsFit l.items)
    (hstep : ∀ c loc, loc.streamingEb = 0 → ∃ c' loc', b (l.text ++ ['\n']) (c, loc) =
      .next (c', loc') ∧ loc'.streamingEb = 0 ∧ c'.eb 1 = c.eb 1) : EbRuns [l] := by
  intro c loc hloc
  obtain ⟨c', loc', hnext, hloc', heb⟩ := hstep c.fadcStreaming loc hloc
  have hrun : TableRuns fadcStreamingKeys [l] (c.fadcStreaming, loc) (c', loc') :=
    .cons hmem hfit hnext (.nil _)
  exact ⟨{ c with fadcStreaming := c' }, loc',
    ((hrun.onPart fadcStreaming_part.toIsPart c rfl).mono fadcStreaming_part.sub).text, hloc', heb⟩

theorem EbRuns.eb {name : String} {vs : List Word} {conv : List Char → Option (Word × List Char)}
    {n : Nat} {store : (Nat → Word) → StreamingEbCfg → StreamingEbCfg}
    (hmem : (name, onEb conv n store) ∈ fadcStreamingKeys) (hlength : vs.length.ble 18 = true) :
    EbRuns [intLine name vs] := by
  refine .line hmem (itemsFit_ints (Nat.le_of_ble_eq_true hlength)) fun c loc hloc =>
    ⟨_, loc, rfl, hloc, ?_⟩
  rw [hloc]
  dsimp only
  exact update_of_ne (show (1 : Fin 2) ≠ 0 by decide) _ _

theorem EbRuns.ints {name : String} {vs : List Word} {n : Nat}
    {store : (Nat → Word) → FadcStreamingConf → FadcStreamingConf}
    (hmem : (name, VtpStreaming.ints n store) ∈ fadcStreamingKeys)
    (hlength : vs.length.ble 18 = true) (hstore : ∀ a c, (store a c).eb = c.eb) :
    EbRuns [intLine name vs] :=
  .line hmem (itemsFit_ints (Nat.le_of_ble_eq_true hlength)) fun c loc hloc =>
    ⟨_, loc, rfl, hloc, congrFun (hstore _ c) 1⟩

theorem EbRuns.index (inst : Fin 2) :
    EbRuns [⟨"VTP_STREAMING", [.word "Link".toList, .word (fmtD (indexWord inst) ++ [':'])]⟩] := by
  have hscan : ∀ inst : Fin 2, argi scanD 1 ((TextLine.mk "VTP_STREAMING"
      [.word "Link".toList, .word (fmtD (indexWord inst) ++ [':'])]).text ++ ['\n']) 0 = 0#32 := by
    decide +kernel
  have hword : IsWord (fmtD (indexWord inst) ++ [':']) := by
    refine ⟨by simp, fun c hc => ?_⟩
    rcases List.mem_append.mp hc with hc | hc
    · exact (Item.solid_d (indexWord inst)).solid c hc
    · rw [List.mem_singleton.mp hc]
      rfl
  have hfit : ItemsFit [.word "Link".toList, .word (fmtD (indexWord inst) ++ [':'])] := by
    apply itemsFit_words (k := 4)
    · rw [List.forall_mem_cons, List.forall_mem_singleton]
      exact ⟨⟨by decide, solid_of_all rfl⟩, hword⟩
    · decide
    · rintro i ⟨⟩
      exact Nat.le_of_ble_eq_true rfl
    · have hlink : Plain 4 (Item.word "Link".toList).text := ⟨by decide, by decide, by decide⟩
      have hcolon : Plain 1 [':'] := ⟨by decide, by decide, by decide⟩
      exact (itemsText_cons hlink (itemsText_cons ((Item.plain_d (indexWord inst)).append hcolon)
        plain_nil)).mono (by decide)
  refine .line (List.Mem.tail _ (List.Mem.tail _ (List.Mem.tail _ (List.Mem.head _)))) hfit
    fun c loc _ => ⟨c, { loc with streamingEb := 0 }, ?_, rfl, rfl⟩
  unfold vtpStreaming
  rw [hscan]
  rfl

theorem EbRuns.slotEn (mask : Word) :
    EbRuns [intLine "VTP_STREAMING_SLOT_EN" (maskBits 8 mask)] := by
  have hmem : ("VTP_STREAMING_SLOT_EN", vtpStreamingSlotEn) ∈ fadcStreamingKeys := by
    repeat first | exact List.Mem.head _ | apply List.Mem.tail
  refine .line hmem (itemsFit_ints (by rw [maskBits_length]; decide)) fun c loc hloc => ?_
  have hstep : vtpStreamingSlotEn
      ((intLine "VTP_STREAMING_SLOT_EN" (maskBits 8 mask)).text ++ ['\n']) (c, loc) = .next
        ({ c with eb := update c.eb loc.streamingEb { c.eb loc.streamingEb with
            maskEn := mskWord 8 (printedMsk 8 mask loc.msk) } },
          { loc with msk := printedMsk 8 mask loc.msk }) := by
    unfold vtpStreamingSlotEn
    rw [scanArgs_maskLine (fadcStreaming_part.words _ hmem), scanMsk_maskBits]
    dsimp only
    rw [mskOk_printed]
    rfl
  refine ⟨_, _, hstep, hloc, ?_⟩
  rw [hloc]
  dsimp only
  exact update_of_ne (show (1 : Fin 2) ≠ 0 by decide) _ _

/-- The MAC address is printed in decimal and read in hexadecimal. -/
theorem streamingEb_runs (inst : Fin 2) (eb : StreamingEbCfg) :
    EbRuns (streamingEbLines inst eb) := by
  refine .cons .blank (.cons (.index inst) (.cons (.slotEn eb.maskEn) ?_))
  repeat' first
    | exact EbRuns.nil | exact rfl | exact List.Mem.head _ | apply List.Mem.tail
    | apply EbRuns.eb | apply EbRuns.cons

/-- Both indices are read as 0, so the second entry is never set. -/
theorem streaming_runs (q : FadcStreamingConf) : EbRuns (fadcStreamingLines q) := by
  have hstart : EbRuns [intLine "VTP_STREAMING_ROCID" [q.rocId],
      intLine "VTP_STREAMING_NFRAME_BUF" [q.nframeBuf],
      intLine "VTP_STREAMING_FRAMELEN" [q.frameLen]] := by
    repeat' first
      | exact EbRuns.nil | exact rfl | exact fun _ _ => rfl
      | exact List.Mem.head _ | apply List.Mem.tail
      | apply EbRuns.ints | apply EbRuns.cons
  have hentries : ∀ is : List (Fin 2),
      EbRuns (is.flatMap fun inst => streamingEbLines inst (q.eb inst)) := by
    intro is
    induction is with
    | nil => exact .nil
    | cons i is ih => exact (streamingEb_runs i (q.eb i)).append ih
  exact hstart.append (hentries _)

end

end VtpStreaming
