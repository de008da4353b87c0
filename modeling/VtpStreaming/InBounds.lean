import VtpStreaming.InitGlobals
import VtpStreaming.LocalUse

/-!
# Stores in bounds

A read is in bounds when its words fit, its stores stay in their arrays and no
bit or index is looked at before it is assigned.
-/

namespace VtpStreaming

open Clib

/-! ## Lines -/

variable {host line : List Char} {s : ReadState}

/-- What an active line looks at is known before it, or scanned by it. -/
def LineUses (known : Cell → Prop) (line : List Char) (s : ReadState) : Prop :=
  let w := lineWords (cString line) s
  w.active = true → ∀ use ∈ localUses, w.keyword = use.1.toList →
    ∀ x, use.2.reads (cString line) w.locals x = true →
      known x ∨ use.2.assigns (cString line) x = true

/-- What is known after the line. -/
def lineKnown (known : Cell → Prop) (line : List Char) (s : ReadState) (x : Cell) : Prop :=
  let w := lineWords (cString line) s
  known x ∨ w.active = true ∧
    ∃ use ∈ localUses, w.keyword = use.1.toList ∧ use.2.assigns (cString line) x = true

/-- The words that the line leaves in `keyword` and `ROC_name` fit, and it does
not name a third threshold. -/
def LineFits (line : List Char) (s : ReadState) : Prop :=
  let w := lineWords (cString line) s
  wordsFit w = true ∧
    ¬ (w.active = true ∧ w.keyword = "VTP_DC_SEGTHR".toList ∧
      argi scanD 2 (cString line) 0 = 2#32)

theorem vtpDcSegthr_fault_iff (line : List Char) (s : DcConf × Locals) :
    vtpDcSegthr line s = .fault ↔ argi scanD 2 line 0 = 2#32 := by
  unfold vtpDcSegthr
  dsimp only
  constructor
  · intro h
    split at h
    · cases h
    next hrange =>
    split at h
    · cases h
    next hindex =>
    simp only [Bool.or_eq_true, decide_eq_true_eq] at hrange
    exact BitVec.eq_of_toInt_eq (show _ = 2 by omega)
  · intro h
    rw [h]
    rfl

theorem vtpDcSegthr_next {c : DcConf} {l : Locals} {t : DcConf × Locals}
    (h : vtpDcSegthr line (c, l) = .next t) (l' : Locals) :
    t.2 = l ∧ vtpDcSegthr line (c, l') = .next (t.1, l') := by
  unfold vtpDcSegthr at h ⊢
  dsimp only at h ⊢
  split at h
  · cases h
  next hrange =>
  split at h
  · next hindex =>
    cases h
    rw [if_neg hrange, dif_pos hindex]
    exact ⟨rfl, rfl⟩
  · cases h

theorem vtpDcSegthr_ret {c : DcConf} {l : Locals} {code : Int} {t : DcConf × Locals}
    (h : vtpDcSegthr line (c, l) = .ret code t) (l' : Locals) :
    vtpDcSegthr line (c, l') = .ret code (t.1, l') := by
  unfold vtpDcSegthr at h ⊢
  dsimp only at h ⊢
  split at h
  · next hrange =>
    cases h
    rw [if_pos hrange]
  · split at h
    · cases h
    · cases h

theorem branchOf_dcSegthr : ∃ b, branchOf "VTP_DC_SEGTHR".toList = some b ∧
    (∀ line s, b line s = .fault ↔ argi scanD 2 line 0 = 2#32) ∧
    ∀ line c l l' (known : Cell → Prop), b line (c, l) ≠ .fault → l.streamingEb = l'.streamingEb →
      (∀ x, known x → x.get l = x.get l') →
      SameOutcome known (b line (c, l)) (b line (c, l')) := by
  have hdc : ∀ key ∈ onPart (fun c : VtpConf => c.dc) (fun c v => { c with dc := v }) dcKeys,
      key ∈ configKeys := by
    intro key hkey
    simp only [configKeys, detectorKeys, List.mem_append, hkey, or_true, true_or]
  refine ⟨_, branchOf_name (hdc _ (mem_onPart (List.mem_singleton_self _))), ?_, ?_⟩
  · intro line s
    rw [← vtpDcSegthr_fault_iff line (s.1.dc, s.2)]
    unfold Branch.on
    dsimp only
    cases vtpDcSegthr line (s.1.dc, s.2) with
    | next t => simp
    | ret code t => simp
    | fault => exact ⟨fun _ => rfl, fun _ => rfl⟩
  · intro line c l l' known hfault heb hknown
    unfold Branch.on at hfault ⊢
    dsimp only at hfault ⊢
    cases hrun : vtpDcSegthr line (c.dc, l) with
    | fault => exact absurd (by rw [hrun]) hfault
    | next t =>
      obtain ⟨rfl, hrun'⟩ := vtpDcSegthr_next hrun l'
      rw [hrun']
      exact .next _ _ l' heb hknown
    | ret code t =>
      rw [vtpDcSegthr_ret hrun l']
      exact .ret code _ _ l'

/-- Every store of a line is in bounds, but for words that do not fit and a
third threshold. -/
theorem readLine_fault_iff : readLine host line s ≠ .fault ↔ LineFits line s := by
  unfold readLine LineFits
  dsimp only
  generalize lineWords (cString line) s = w
  by_cases hfit : wordsFit w = true
  · simp only [hfit, Bool.not_true, Bool.false_eq_true, if_false, true_and]
    obtain ⟨dc, hdc, hfault, -⟩ := branchOf_dcSegthr
    split
    · next hcrate =>
      refine ⟨fun _ h => absurd (hcrate.symm.trans h.2.1) ?_, fun _ => nofun⟩
      exact fun h => absurd (String.toList_inj.mp h) (by decide)
    · by_cases hactive : w.active = true
      · simp only [hactive, Bool.not_true, Bool.false_eq_true, if_false, true_and]
        unfold runBranch
        cases hbranch : branchOf w.keyword with
        | none =>
          refine ⟨fun _ h => ?_, fun _ => nofun⟩
          rw [h.1, hdc] at hbranch
          cases hbranch
        | some b =>
          dsimp only
          have hscoped : ∀ u : LocalUse, Scoped u b →
              b (cString line) (w.conf, w.locals) ≠ .fault := by
            intro u hu hb
            have hsame := hu (cString line) w.conf w.locals w.locals (fun _ => True) rfl
              (fun _ _ => rfl) fun _ _ => .inl trivial
            rw [hb] at hsame
            cases hsame
          have hrun : b (cString line) (w.conf, w.locals) = .fault ↔
              w.keyword = "VTP_DC_SEGTHR".toList ∧ argi scanD 2 (cString line) 0 = 2#32 := by
            by_cases hname : w.keyword = "VTP_DC_SEGTHR".toList
            · rw [hname, hdc] at hbranch
              cases hbranch
              rw [hfault]
              exact ⟨fun h => ⟨hname, h⟩, fun h => h.2⟩
            · refine ⟨fun h => ?_, fun h => absurd h.1 hname⟩
              rcases branchOf_scoped hbranch with ⟨use, -, -, hu⟩ | ⟨-, hu⟩ | heq
              · exact absurd h (hscoped _ hu)
              · exact absurd h (hscoped _ hu)
              · exact absurd heq hname
          rw [← hrun]
          cases b (cString line) (w.conf, w.locals) with
          | next t => exact ⟨fun _ => nofun, fun _ => nofun⟩
          | ret code t => exact ⟨fun _ => nofun, fun _ => nofun⟩
          | fault => exact ⟨fun h => absurd rfl h, fun h => absurd rfl h⟩
      · simp [hactive]
  · simp [hfit]

/-! ## Runs -/

/-- Every line that is reached is as `p` says, with what is known before it. -/
def EachLine (host : List Char) (p : (Cell → Prop) → List Char → ReadState → Prop) :
    List FilePiece → ReadState → (Cell → Prop) → Prop
  | [], _, _ => True
  | .unended :: _, _, _ => True
  | .line l :: ps, s, known =>
      p known l s ∧
        match readLine host l s with
        | .next s' => EachLine host p ps s' (lineKnown known l s)
        | _ => True

/-- The stores of a read are in bounds, and it looks at nothing that is not assigned. -/
def ReadInBounds (host : List Char) : List FilePiece → ReadState → (Cell → Prop) → Prop :=
  EachLine host fun known l s => readLine host l s ≠ .fault ∧ LineUses known l s

theorem eachLine_congr {p q : (Cell → Prop) → List Char → ReadState → Prop}
    (h : ∀ known l s, p known l s ↔ q known l s) (ps : List FilePiece) (s : ReadState)
    (known : Cell → Prop) : EachLine host p ps s known ↔ EachLine host q ps s known := by
  induction ps generalizing s known with
  | nil => exact Iff.rfl
  | cons piece ps ih =>
    cases piece with
    | unended => exact Iff.rfl
    | line l =>
      simp only [EachLine]
      refine and_congr (h known l s) ?_
      cases readLine host l s with
      | next s' => exact ih s' _
      | ret code s' => exact Iff.rfl
      | fault => exact Iff.rfl

/-- The same state with other variables. -/
def ReadState.withLocals (s : ReadState) (l : Locals) : ReadState := { s with locals := l }

theorem lineWords_withLocals (line : List Char) (s : ReadState) (l : Locals) :
    lineWords line (s.withLocals l) = (lineWords line s).withLocals l := by
  unfold lineWords
  cases scanWord line with
  | none => rfl
  | some w =>
    dsimp only
    cases scanWord w.2 with
    | none => rfl
    | some r => rfl

theorem lineWords_locals (line : List Char) (s : ReadState) :
    (lineWords line s).locals = s.locals := by
  unfold lineWords
  cases scanWord line with
  | none => rfl
  | some w =>
    dsimp only
    cases scanWord w.2 with
    | none => rfl
    | some r => rfl

/-- Two runs of a line that differ in unknown variables only. -/
inductive SameLine (known : Cell → Prop) : Outcome ReadState → Outcome ReadState → Prop
  | next (s : ReadState) (l' : Locals) : s.locals.streamingEb = l'.streamingEb →
      (∀ x, known x → x.get s.locals = x.get l') → SameLine known (.next s) (.next (s.withLocals l'))
  | ret (code : Int) (s : ReadState) (l' : Locals) :
      SameLine known (.ret code s) (.ret code (s.withLocals l'))

/-- A keyword that does not use the variables adds nothing to what is known. -/
theorem lineKnown_other {known : Cell → Prop} {x : Cell}
    (h : ∀ use ∈ localUses, (lineWords (cString line) s).keyword ≠ use.1.toList)
    (hx : lineKnown known line s x) : known x := by
  rcases hx with hx | ⟨-, use, huse, hkeyword, -⟩
  · exact hx
  · exact absurd hkeyword (h use huse)

theorem localUses_ne {name : String} (h : name ∉ localUses.map (·.1)) :
    ∀ use ∈ localUses, name.toList ≠ use.1.toList :=
  fun _ huse heq => h (String.toList_inj.mp heq ▸ List.mem_map_of_mem huse)

theorem runBranch_same {known : Cell → Prop} {l' : Locals} {w : ReadState} {b : Branch VtpConf}
    (hbranch : branchOf w.keyword = some b)
    (hsame : SameOutcome known (b line (w.conf, w.locals)) (b line (w.conf, l'))) :
    SameLine known (runBranch line w) (runBranch line (w.withLocals l')) := by
  have hwith : branchOf (w.withLocals l').keyword = some b := hbranch
  unfold runBranch
  rw [hbranch, hwith]
  dsimp only [ReadState.withLocals]
  generalize b line (w.conf, w.locals) = o at hsame ⊢
  generalize b line (w.conf, l') = o' at hsame ⊢
  cases hsame with
  | next c k k' hk hcells => exact .next { w with conf := c, locals := k } k' hk hcells
  | ret code c k k' => exact .ret code { w with conf := c, locals := k } k'

theorem SameLine.mono {known known' : Cell → Prop} {o o' : Outcome ReadState}
    (h : SameLine known o o') (hle : ∀ x, known' x → known x) : SameLine known' o o' := by
  cases h with
  | next s l' heb hknown => exact .next s l' heb fun x hx => hknown x (hle x hx)
  | ret code s l' => exact .ret code s l'

/-- A line in bounds does the same whatever the unknown variables are. -/
theorem readLine_same {known : Cell → Prop} {l' : Locals} (hfault : readLine host line s ≠ .fault)
    (huses : LineUses known line s) (heb : s.locals.streamingEb = l'.streamingEb)
    (hknown : ∀ x, known x → x.get s.locals = x.get l') :
    SameLine (lineKnown known line s) (readLine host line s)
      (readLine host line (s.withLocals l')) := by
  have hother := @lineKnown_other line s known
  have hlocals := lineWords_locals (cString line) s
  have hlater : ∀ x, lineKnown known line s x → known x ∨
      (lineWords (cString line) s).active = true ∧ ∃ use ∈ localUses,
        (lineWords (cString line) s).keyword = use.1.toList ∧
          use.2.assigns (cString line) x = true := fun _ => id
  have hfits := (readLine_fault_iff.mp hfault).1
  unfold LineUses at huses
  unfold readLine at hfault ⊢
  dsimp only at huses hfault ⊢
  rw [lineWords_withLocals]
  generalize lineWords (cString line) s = w at huses hfault hother hlocals hlater hfits ⊢
  rw [← hlocals] at heb hknown
  have hfit : wordsFit (w.withLocals l') = true := hfits
  simp only [hfits, hfit, Bool.not_true, Bool.false_eq_true, if_false] at hfault ⊢
  by_cases hcrate : w.keyword = "VTP_CRATE".toList
  · have hnone := @localUses_ne "VTP_CRATE" (by decide)
    rw [if_pos hcrate, if_pos (show (w.withLocals l').keyword = _ from hcrate)]
    exact .next { w with active := w.rocName = host || w.rocName = "all".toList } l' heb
      fun x hx => hknown x (hother (hcrate ▸ hnone) hx)
  rw [if_neg hcrate] at hfault ⊢
  rw [if_neg (show (w.withLocals l').keyword ≠ _ from hcrate)]
  by_cases hactive : w.active = true
  · have hactive' : (w.withLocals l').active = true := hactive
    simp only [hactive, hactive', Bool.not_true, Bool.false_eq_true, if_false] at hfault ⊢
    cases hbranch : branchOf w.keyword with
    | none =>
      have hnone : ∀ use ∈ localUses, w.keyword ≠ use.1.toList := by
        intro use huse heq
        obtain ⟨b, hmem, -⟩ := localUses_scoped use huse
        rw [heq, branchOf_name hmem] at hbranch
        cases hbranch
      have hbranch' : branchOf (w.withLocals l').keyword = none := hbranch
      unfold runBranch
      rw [hbranch, hbranch']
      exact .next w l' heb fun x hx => hknown x (hother hnone hx)
    | some b =>
      rcases branchOf_scoped hbranch with ⟨use, huse, hkeyword, hscoped⟩ | ⟨hnone, hscoped⟩ | hdc
      · have hsame := hscoped (cString line) w.conf w.locals l' known heb hknown
          (huses hactive use huse hkeyword)
        refine (runBranch_same hbranch hsame).mono ?_
        intro x hx
        refine (hlater x hx).imp_right ?_
        rintro ⟨-, use', huse', hkeyword', hassigns⟩
        have hsame : use' = use := List.inj_on_of_nodup_map
          (show (localUses.map (·.1)).Nodup by decide) huse' huse
          (String.toList_inj.mp (hkeyword'.symm.trans hkeyword))
        rwa [← hsame]
      · have hsame := hscoped (cString line) w.conf w.locals l' known heb hknown nofun
        exact (runBranch_same hbranch hsame).mono fun x hx => .inl (hother hnone hx)
      · have hnone := @localUses_ne "VTP_DC_SEGTHR" (by decide)
        obtain ⟨b', hb', -, hstays⟩ := branchOf_dcSegthr
        rw [hdc, hb'] at hbranch
        cases hbranch
        have hb : branchOf w.keyword = some b := hdc ▸ hb'
        have hrun : b (cString line) (w.conf, w.locals) ≠ .fault := by
          intro h
          unfold runBranch at hfault
          rw [hb] at hfault
          dsimp only at hfault
          rw [h] at hfault
          exact hfault rfl
        exact (runBranch_same hb (hstays _ _ _ l' known hrun heb hknown)).mono
          fun x hx => hother (hdc ▸ hnone) hx
  · have hactive : w.active = false := Bool.eq_false_iff.mpr hactive
    have hactive' : (w.withLocals l').active = false := hactive
    simp only [hactive, hactive', Bool.not_false, if_true]
    exact .next w l' heb fun x hx => hknown x
      ((hlater x hx).resolve_right fun h => absurd (hactive.symm.trans h.1) Bool.false_ne_true)

/-- A read in bounds comes to the same end whatever the variables are at its start. -/
theorem readPieces_same {ps : List FilePiece} {known : Cell → Prop} {l' : Locals}
    (h : ReadInBounds host ps s known) (heb : s.locals.streamingEb = l'.streamingEb)
    (hknown : ∀ x, known x → x.get s.locals = x.get l') :
    readPieces host ps (s.withLocals l') = readPieces host ps s := by
  induction ps generalizing s known l' with
  | nil => rfl
  | cons piece ps ih =>
    cases piece with
    | unended => rfl
    | line l =>
      obtain ⟨⟨hfault, huses⟩, hrest⟩ := h
      have hsame := readLine_same hfault huses heb hknown
      simp only [readPieces]
      generalize readLine host l s = o at hsame hrest ⊢
      generalize readLine host l (s.withLocals l') = o' at hsame ⊢
      cases hsame with
      | next s' k' hk hcells => exact ih hrest hk hcells
      | ret code s' k' => rfl

/-- In bounds, nothing of the result comes from what the stack held. -/
theorem readConfigText_defined {text : List Char} {conf : VtpConf} {stack stack' : ConfigStack}
    (h : ReadInBounds host (filePieces text) (readStart stack conf) fun _ => False)
    (hkeyword : stack'.keyword = stack.keyword) (hrocName : stack'.rocName = stack.rocName) :
    readConfigText host stack' text conf = readConfigText host stack text conf := by
  have hstart : readStart stack' conf = (readStart stack conf).withLocals
      (readStart stack' conf).locals := by
    simp only [readStart, ReadState.withLocals, hkeyword, hrocName]
  unfold readConfigText
  rw [hstart]
  exact readPieces_same h rfl nofun

/-- The lines that are reached fit, and look at nothing that no line has set. -/
def FileInBounds (host : List Char) : List FilePiece → ReadState → (Cell → Prop) → Prop :=
  EachLine host fun known l s => LineFits l s ∧ LineUses known l s

/-- `vtpInitGlobals` always stores beyond `mult_trig`. The read that follows it
is in bounds exactly when every line is. -/
theorem stores_in_bounds_iff (host text : List Char) (stack : ConfigStack) (old conf : VtpConf) :
    ¬ ((initHps old.hps).2 = true ∧
        ReadInBounds host (filePieces text) (readStart stack conf) fun _ => False) ∧
      (ReadInBounds host (filePieces text) (readStart stack conf) (fun _ => False) ↔
        FileInBounds host (filePieces text) (readStart stack conf) fun _ => False) := by
  refine ⟨?_, eachLine_congr (fun _ _ _ => and_congr_left' readLine_fault_iff) _ _ _⟩
  rintro ⟨hinit, -⟩
  rw [initHps_eq] at hinit
  exact Bool.false_ne_true hinit

/-- A payload line with one bit leaves fifteen to whatever the stack held. -/
theorem payload_bits_unset :
    (initHps default).2 = false ∧
      ¬ ReadInBounds "roc1".toList (filePieces "VTP_CRATE all\nVTP_PAYLOAD_EN 1\n".toList)
        (readStart ⟨fun _ => 0#32, 0#32, [], []⟩ default) fun _ => False := by
  refine ⟨rfl, ?_⟩
  have hpieces : filePieces "VTP_CRATE all\nVTP_PAYLOAD_EN 1\n".toList =
      [.line "VTP_CRATE all\n".toList, .line "VTP_PAYLOAD_EN 1\n".toList] := by
    rw [literal rfl, literal rfl, literal rfl]
    decide
  rw [hpieces]
  rintro ⟨-, ⟨-, huses⟩, -⟩
  rcases huses rfl _ List.mem_cons_self rfl (.msk 1) rfl with hknown | hscanned
  · rcases hknown with hstart | ⟨hactive, -⟩
    · exact hstart
    · exact Bool.false_ne_true hactive
  · exact Bool.false_ne_true hscanned

end VtpStreaming
