import VtpStreaming.ConfigFrame
import VtpStreaming.RoundTrip
import VtpStreaming.TextBlocks

/-!
# Whether the text of the configuration is a configuration file

The text of `vtpUploadAll`, behind a line that makes it active, is read by
`vtpReadConfigFile`. What is printed should be what is there after the reading.
-/

namespace VtpStreaming

open Clib Function

section

variable {p : FloatPrinter}

/-! ## The whole text -/

/-- The line that makes the text the configuration of every crate. -/
def allCrates : List Char := "VTP_CRATE all\n".toList

theorem readLine_allCrates (host : List Char) (stack : ConfigStack) (conf : VtpConf) :
    ∃ s, readLine host allCrates (readStart stack conf) = .next s ∧ Reading s ∧ s.conf = conf ∧
      s.locals = (readStart stack conf).locals := by
  have hwords : lineWords allCrates (readStart stack conf) =
      { readStart stack conf with keyword := "VTP_CRATE".toList, rocName := "all".toList } := by
    have hfirst : scanWord allCrates = some ("VTP_CRATE".toList, " all\n".toList) := by decide
    have hsecond : scanWord " all\n".toList = some ("all".toList, ['\n']) := by decide
    unfold lineWords
    rw [hfirst]
    dsimp only
    rw [hsecond]
  have hline : readLine host allCrates (readStart stack conf) = .next _ :=
    readLine_crate (by decide) hwords rfl rfl
  rw [hline]
  refine ⟨_, rfl, ⟨?_, Nat.le_of_ble_eq_true rfl⟩, rfl, rfl⟩
  dsimp only
  rw [decide_eq_true rfl, Bool.or_true]

theorem reached_allCrates (host : List Char) (stack : ConfigStack) (conf : VtpConf) :
    ∃ s, Reached host stack conf allCrates s ∧ Reading s ∧ s.conf = conf ∧
      s.locals = (readStart stack conf).locals := by
  obtain ⟨s, hline, hs⟩ := readLine_allCrates host stack conf
  refine ⟨s, ⟨.inr ⟨"VTP_CRATE all".toList, rfl⟩, ?_⟩, hs⟩
  have hlines : handedOut allCrates = [allCrates] :=
    handedOut_line (l := "VTP_CRATE all".toList) (by decide) (by decide) (by decide)
  rw [hlines, readLines, hline]
  rfl

theorem allCrates_runs (host rest : List Char) (stack : ConfigStack) (conf : VtpConf) :
    ∃ s, readPieces host (filePieces (allCrates ++ rest)) (readStart stack conf) =
        readPieces host (filePieces rest) s ∧
      Reading s ∧ s.conf = conf ∧ s.locals = (readStart stack conf).locals := by
  obtain ⟨s, hreached, hs⟩ := reached_allCrates host stack conf
  exact ⟨s, hreached.rest rest, hs⟩

/-- The reading of a text, up to the block of the firmware. -/
theorem text_read (c c₀ : VtpConf) (host : List Char) (stack : ConfigStack) :
    ∃ c₁ l₁, l₁.streamingEb = 0 ∧ everyLines c₁ = everyLines c ∧
      c₁.fadcStreaming = c₀.fadcStreaming ∧
      ∀ c₂ l₂, TextRuns (blockLines p (c.fwType 0).toInt c ++ roadLines (c.fwType 0).toInt c)
          (c₁, l₁) (c₂, l₂) →
        readConfigText host stack (allCrates ++ uploadText p c) c₀ = .returned 0 c₂ := by
  obtain ⟨s, hcrate, hs, hconf, hlocals⟩ :=
    allCrates_runs host (uploadText p c) stack c₀
  obtain ⟨c₁, l₁, hevery, hl₁, hsame, hstreaming⟩ :=
    every_runs c c₀ (readStart stack c₀).locals
  refine ⟨c₁, l₁, hl₁, hsame, hstreaming, fun c₂ l₂ hblock => ?_⟩
  have hfirmware : TextRuns (firmwareLines c) (c₀, (readStart stack c₀).locals)
      (c₀, (readStart stack c₀).locals) :=
    .unknown (List.Mem.head _) (itemsFit_ints (Nat.le_of_ble_eq_true rfl))
      (.unknown (List.Mem.tail _ (List.Mem.head _)) (itemsFit_ints (Nat.le_of_ble_eq_true rfl))
        (.nil _))
  have hrun := hfirmware.append (hevery.text.append (hblock.append (.blank (.nil _))))
  obtain ⟨s', hread, -, ha⟩ := readPieces_text hrun hs (by rw [hconf, hlocals]) []
  have htext : uploadText p c = linesText (firmwareLines c ++ (everyLines c ++
      ((blockLines p (c.fwType 0).toInt c ++ roadLines (c.fwType 0).toInt c) ++
        [⟨"", []⟩]))) ++ [] := by
    simp only [uploadText, settingLines, List.append_assoc, List.append_nil]
  unfold readConfigText
  rw [hcrate, htext, hread]
  obtain ⟨rfl, -⟩ := Prod.mk.inj ha
  rfl

/-- The road id is of a keyword that the table does not have. -/
theorem roadLines_run {type : Int} {c : VtpConf}
    (hfit : type = vtpFwTypeDc → ItemsFit [.word c.dc.roadid]) (a : VtpConf × Locals) :
    TextRuns (roadLines type c) a a := by
  unfold roadLines
  split
  · next htype =>
    have hname : "VTP_DC_ROADID" ∈ unknownNames := by
      repeat first | exact List.Mem.head _ | apply List.Mem.tail
    exact .unknown hname (hfit htype) (.nil a)
  · exact .nil a

/-- What is expected of the text of a configuration: every line that prints integers
has a keyword that the parser knows, and reading the text over any configuration
leaves the integers that are printed. -/
structure TextReadable (p : FloatPrinter) (c : VtpConf) : Prop where
  known : ∀ l ∈ settingLines p (c.fwType 0).toInt c, l.key ≠ "" →
    (branchOf l.key.toList).isSome = true
  restored : ∀ (env : ConfigEnv) (stack : ConfigStack) (filename : List Char) (c₀ : VtpConf),
    Opens env filename (allCrates ++ uploadText p c) →
      ∃ c', vtpReadConfigFile env stack filename c₀ = .returned 0 c' ∧
        printedValues (settingLines p (c.fwType 0).toInt c') =
          printedValues (settingLines p (c.fwType 0).toInt c)

theorem TableRuns.known {ls : List TextLine} {a a' : VtpConf × Locals}
    (h : TableRuns configKeys ls a a') : ∀ l ∈ ls, (branchOf l.key.toList).isSome = true := by
  induction h with
  | nil => exact fun l hl => absurd hl List.not_mem_nil
  | cons hmem _ _ _ ih =>
    intro l hl
    cases hl with
    | head => rw [branchOf_name hmem]; rfl
    | tail _ hl => exact ih l hl

theorem printedValues_append (ls ms : List TextLine) :
    printedValues (ls ++ ms) = printedValues ls ++ printedValues ms := List.map_append

/-- Lines that are all known and set what they print. -/
theorem readable_of_reads {c : VtpConf} (hblock : BlockReads p (c.fwType 0).toInt c)
    (hroad : (c.fwType 0).toInt = vtpFwTypeDc → ItemsFit [.word c.dc.roadid]) :
    TextReadable p c := by
  constructor
  · intro l hl _
    obtain ⟨_, _, hevery, -⟩ := every_runs c c default
    obtain ⟨_, hsets, -⟩ := hblock c
    obtain ⟨_, hrun⟩ := hsets default
    rcases List.mem_append.mp hl with hl | hl
    · exact hevery.known l hl
    · exact hrun.known l hl
  · intro env stack filename c₀ hopens
    obtain ⟨c₁, l₁, -, hevery, -, hread⟩ := text_read (p := p) c c₀ env.host stack
    obtain ⟨c', hsets, hsame, hvalues⟩ := hblock c₁
    obtain ⟨l', hrun⟩ := hsets l₁
    refine ⟨c', ?_, ?_⟩
    · rw [vtpReadConfigFile_opens hopens]
      exact hread c' l' (hrun.text.append (roadLines_run hroad _))
    · unfold settingLines
      rw [printedValues_append, printedValues_append, hvalues, hsame, hevery]

/-- A word that the table does not have. -/
theorem unreadable_of_unknown {c : VtpConf} {l : TextLine}
    (hl : l ∈ blockLines p (c.fwType 0).toInt c) (hname : l.key ∈ unknownNames) :
    ¬ TextReadable p c := by
  intro h
  obtain ⟨hnone, hkey⟩ := unknownNames_spec hname
  have hne : l.key ≠ "" := by
    intro heq
    rw [heq] at hkey
    exact hkey.word.nonempty rfl
  have hsome := h.known l (List.mem_append_right _ hl) hne
  rw [hnone] at hsome
  cases hsome

/-- What the reading of a readable text leaves, over any configuration. -/
theorem TextReadable.values {c : VtpConf} (h : TextReadable p c) (c₀ : VtpConf)
    (hroad : (c.fwType 0).toInt = vtpFwTypeDc → ItemsFit [.word c.dc.roadid])
    (P : VtpConf → Prop) (hrun : ∀ c₁ l₁, l₁.streamingEb = 0 →
      c₁.fadcStreaming = c₀.fadcStreaming →
      ∃ c₂ l₂, TextRuns (blockLines p (c.fwType 0).toInt c) (c₁, l₁) (c₂, l₂) ∧ P c₂) :
    ∃ c', P c' ∧ printedValues (blockLines p (c.fwType 0).toInt c') =
      printedValues (blockLines p (c.fwType 0).toInt c) := by
  have hopens := hostOf_opens (allCrates ++ uploadText p c)
  obtain ⟨c', hread, hvalues⟩ := h.restored _ freshStack _ c₀ hopens
  obtain ⟨c₁, l₁, hl₁, -, hstreaming, hrest⟩ := text_read (p := p) c c₀
    (hostOf (allCrates ++ uploadText p c)).host freshStack
  obtain ⟨c₂, l₂, hblock, hP⟩ := hrun c₁ l₁ hl₁ hstreaming
  rw [vtpReadConfigFile_opens hopens, hrest c₂ l₂ (hblock.append (roadLines_run hroad _))] at hread
  cases hread
  unfold settingLines at hvalues
  rw [printedValues_append, printedValues_append] at hvalues
  exact ⟨_, hP, (List.append_inj hvalues rfl).2⟩

/-- On EC the text is readable when what was divided is not multiplied. -/
theorem readable_ec {c : VtpConf} (htype : (c.fwType 0).toInt = vtpFwTypeEc) :
    TextReadable p c ↔ eightfold c.ec.inner = c.ec.inner ∧ eightfold c.ec.outer = c.ec.outer := by
  have hmem : ∀ c : VtpConf, (vtpFwTypeEc, ecLines c.ec) ∈ textBlocks p c :=
    fun _ => List.Mem.head _
  have hroad : (c.fwType 0).toInt = vtpFwTypeDc → ItemsFit [.word c.dc.roadid] := by
    rw [htype]
    exact fun heq => absurd heq (by decide)
  constructor
  · intro h
    have hrun : ∀ c₁ l₁, ∃ c₂ l₂, TextRuns (blockLines p (c.fwType 0).toInt c) (c₁, l₁) (c₂, l₂) ∧
        c₂.ec = ⟨c.ec.fadcsumChEn, eightfold c.ec.inner, eightfold c.ec.outer⟩ := by
      intro c₁ l₁
      obtain ⟨l₂, hrun⟩ := ec_part.sets c₁ (ec_sets c₁.ec c.ec) l₁
      rw [htype, blockLines_eq p (hmem c)]
      exact ⟨_, l₂, hrun.text, rfl⟩
    obtain ⟨c', hec, hvalues⟩ := h.values c hroad _ fun c₁ l₁ _ _ => hrun c₁ l₁
    rw [htype, blockLines_eq p (hmem c), blockLines_eq p (hmem c'), hec] at hvalues
    exact (ec_values c.ec).mp hvalues
  · rintro ⟨hinner, houter⟩
    apply readable_of_reads _ hroad
    rw [htype]
    exact blockReads_part ecLines ec_part hmem (fun _ _ => rfl)
      (fun _ => ⟨c.ec.fadcsumChEn, eightfold c.ec.inner, eightfold c.ec.outer⟩)
      (fun t => ec_sets t c.ec) fun _ => (ec_values c.ec).mpr ⟨hinner, houter⟩

/-- The second streaming entry is printed and never read. -/
theorem unreadable_streaming {c : VtpConf} (htype : (c.fwType 0).toInt = vtpFwTypeFadcstream) :
    ¬ TextReadable p c := by
  intro h
  have hmem : ∀ c : VtpConf, (vtpFwTypeFadcstream, fadcStreamingLines c.fadcStreaming) ∈
      textBlocks p c := by
    intro c
    repeat first | exact List.Mem.head _ | apply List.Mem.tail
  have hroad : (c.fwType 0).toInt = vtpFwTypeDc → ItemsFit [.word c.dc.roadid] := by
    rw [htype]
    exact fun heq => absurd heq (by decide)
  -- the file is read over a configuration with another number of streams
  obtain ⟨c₀, hc₀⟩ : ∃ c₀ : VtpConf,
      (c₀.fadcStreaming.eb 1).nstreams = (c.fadcStreaming.eb 1).nstreams + 1#32 :=
    ⟨{ c with fadcStreaming := { c.fadcStreaming with
        eb := fun i => { c.fadcStreaming.eb i with
          nstreams := (c.fadcStreaming.eb i).nstreams + 1#32 } } }, rfl⟩
  have hrun : ∀ c₁ l₁, l₁.streamingEb = 0 → c₁.fadcStreaming = c₀.fadcStreaming →
      ∃ c₂ l₂, TextRuns (blockLines p (c.fwType 0).toInt c) (c₁, l₁) (c₂, l₂) ∧
        c₂.fadcStreaming.eb 1 = c₀.fadcStreaming.eb 1 := by
    intro c₁ l₁ hl₁ hstreaming
    obtain ⟨c₂, l₂, hrun, -, heb⟩ := streaming_runs c.fadcStreaming c₁ l₁ hl₁
    rw [htype, blockLines_eq p (hmem c)]
    exact ⟨c₂, l₂, hrun, heb.trans (by rw [hstreaming])⟩
  obtain ⟨c', heb, hvalues⟩ := h.values c₀ hroad _ hrun
  rw [htype, blockLines_eq p (hmem c), blockLines_eq p (hmem c')] at hvalues
  have hstreams : some ("VTP_STREAMING_NSTREAMS", [(c'.fadcStreaming.eb 1).nstreams]) =
      some ("VTP_STREAMING_NSTREAMS", [(c.fadcStreaming.eb 1).nstreams]) :=
    congrArg (fun vs => vs[18]?) hvalues
  rw [heb, hc₀] at hstreams
  simp at hstreams

end

/-! ## The text after an upload -/

/-- The road id is printable. -/
theorem road_fits (r : Regs) : ItemsFit [.word (dcOf r).roadid] := by
  have hchar : ∀ (id : Fin 2 → Word) (i : Fin 8), VtpLib.roadIdChar id i ≠ '\n' ∧
      VtpLib.roadIdChar id i ≠ '\x00' := by
    intro id i
    have hprintable : ∀ k : Fin 127, 32 ≤ k.val →
        Char.ofNat k.val ≠ '\n' ∧ Char.ofNat k.val ≠ '\x00' := by decide
    unfold VtpLib.roadIdChar
    dsimp only
    split
    · next h => exact hprintable ⟨_, h.2⟩ h.1
    · exact ⟨by decide, by decide⟩
  have hlength : (dcOf r).roadid.length = 8 := by simp [dcOf]
  have hplain : Plain (1 + 8) (itemsText [.word (dcOf r).roadid]) := by
    have hblank : Plain 1 [' '] := ⟨by decide, by decide, by decide⟩
    have hroad : Plain 8 (dcOf r).roadid := by
      refine ⟨Nat.le_of_eq hlength, ?_, ?_⟩ <;> intro hmem
      · obtain ⟨i, -, hi⟩ := List.mem_map.mp hmem
        exact (hchar _ i).1 hi
      · obtain ⟨i, -, hi⟩ := List.mem_map.mp hmem
        exact (hchar _ i).2 hi
    simpa [itemsText, Item.text] using hblank.append hroad
  refine ⟨hplain.mono (by decide), fun w rest hscan => ?_⟩
  obtain ⟨-, -, hle⟩ := scanString_out hscan
  have hshort := hplain.length_le
  rw [List.length_append, List.length_singleton] at hle
  show w.length < 80
  omega

section

variable {p : FloatPrinter} {fpu : FloatUnit} {r : Regs} {stack : Word} {conf : VtpConf}

/-- Floats that are made of registers are printed in decimal. -/
structure PrintsFinite (p : FloatPrinter) (fpu : FloatUnit) : Prop where
  edFloat : ∀ b, IsDecimal (p.f (fpu.edFloat b))
  pdeFloat : ∀ w, IsDecimal (p.f (fpu.pdeFloat w))

/-- The types whose block has a word that the parser does not know, or an entry that
it does not reach. -/
def unreadTypes : List Int := [vtpFwTypeCompton, vtpFwTypeFadcstream]

/-- The text can be read: the block of the type is, the Dalitz limits of EC are
below 8 and HPS is the top. -/
@[mk_iff]
structure TextGaps (r : Regs) : Prop where
  block : (r.fwType 0).toInt ∉ unreadTypes
  ec : (r.fwType 0).toInt = vtpFwTypeEc → ∀ inst,
    (ecViewOf r inst).dalitzMin.toNat < 8 ∧ (ecViewOf r inst).dalitzMax.toNat < 8
  hps : (r.fwType 0).toInt = vtpFwTypeHps → r.hpsCluster.getLsbD 31 = true

theorem upload_fwType :
    (vtpUploadAll (.ofRegs r) fpu r stack conf).fwType = r.fwType := by
  have hruns := VtpLib.runs_ofRegs r
  have hkept : ∀ b ∈ uploadTable fpu r stack (.ofRegs r),
      ∀ conf, (b.2 conf).fwType = conf.fwType := by
    unfold uploadTable
    simp only [List.forall_mem_cons, List.not_mem_nil, false_implies, implies_true, and_true]
    exact ⟨fun _ => rfl, fun _ => rfl, fun _ => rfl, fun _ => rfl, fun _ => rfl, fun _ => rfl,
      fun _ => rfl, fun _ => rfl, fun _ => rfl, fun _ => rfl, fun _ => rfl, fun _ => rfl,
      fun _ => rfl, fun _ => rfl⟩
  have hstart : (uploadStart r (.ofRegs r) conf).fwType = r.fwType := by
    rw [uploadStart_eq r conf hruns]
  rw [vtpUploadAll_find fpu r stack conf hruns rfl]
  cases hfind : (uploadTable fpu r stack (.ofRegs r)).find? fun b => b.1 = (r.fwType 0).toInt with
  | none => exact hstart
  | some b => exact (hkept b (List.mem_of_find?_eq_some hfind) _).trans hstart

theorem upload_type : ((vtpUploadAll (.ofRegs r) fpu r stack conf).fwType 0).toInt =
    (r.fwType 0).toInt := by
  rw [upload_fwType]

/-- The library runs the firmware that the registers name. -/
theorem runs_type {type : Int} (htype : (r.fwType 0).toInt = type) :
    (VtpLib.ofRegs r).Runs type := htype ▸ VtpLib.runs_ofRegs r

theorem text_ec (htype : (r.fwType 0).toInt = vtpFwTypeEc) :
    TextReadable p (vtpUploadAll (.ofRegs r) fpu r stack conf) ↔ TextGaps r := by
  have hec : (vtpUploadAll (.ofRegs r) fpu r stack conf).ec =
      ⟨(ecOf r).fadcsumChEn, eighths (ecOf r).inner, eighths (ecOf r).outer⟩ := by
    rw [vtpUploadAll_block (runs_type htype) htype (uploadEc (.ofRegs r) r) rfl,
      uploadEc_eq r _ (runs_type htype)]
  have hview : ∀ inst, eightfold (eighths (ecViewOf r inst)) = eighths (ecViewOf r inst) ↔
      (ecViewOf r inst).dalitzMin.toNat < 8 ∧ (ecViewOf r inst).dalitzMax.toNat < 8 := by
    intro inst
    rw [eightfold_eq]
    exact and_congr (eighth_mul_eq _) (eighth_mul_eq _)
  have hnot : vtpFwTypeEc ∉ unreadTypes := by decide
  have hne : ¬ vtpFwTypeEc = vtpFwTypeHps := by decide
  rw [readable_ec (upload_type.trans htype), hec, textGaps_iff, htype]
  simp only [hnot, not_false_eq_true, true_and, forall_const, hne, false_implies, and_true,
    Fin.forall_fin_two, ← hview]
  rfl

theorem text_hps (hprints : PrintsFinite p fpu) (htype : (r.fwType 0).toInt = vtpFwTypeHps) :
    TextReadable p (vtpUploadAll (.ofRegs r) fpu r stack conf) ↔ TextGaps r := by
  generalize hc : vtpUploadAll (.ofRegs r) fpu r stack conf = c
  have hctype : (c.fwType 0).toInt = vtpFwTypeHps := by
    rw [← hc, upload_type, htype]
  have hblock : c = _ :=
    hc.symm.trans (vtpUploadAll_block (runs_type htype) htype (uploadHps (.ofRegs r) fpu r) rfl)
  rw [uploadHps_eq fpu r _ (runs_type htype)] at hblock
  have hcluster : c.hps.cluster = hpsClusterOf r := by rw [hblock]; rfl
  have hfinite : FiniteHps p c.hps := by
    rw [hblock]
    exact ⟨fun i => hprints.edFloat _, fun i k => hprints.pdeFloat _⟩
  have htop : c.hps.cluster.topNbottom ≠ 0#32 ↔ r.hpsCluster.getLsbD 31 = true := by
    rw [hcluster]
    show (r.hpsCluster >>> 31) &&& 1#32 ≠ 0#32 ↔ _
    rw [maskBit_eq]
    cases r.hpsCluster.getLsbD 31 with
    | false => decide
    | true => decide
  have hgaps : TextGaps r ↔ r.hpsCluster.getLsbD 31 = true := by
    have hnot : vtpFwTypeHps ∉ unreadTypes := by decide
    have hne : ¬ vtpFwTypeHps = vtpFwTypeEc := by decide
    rw [textGaps_iff, htype]
    simp only [hnot, not_false_eq_true, true_and, forall_const, hne, false_implies]
  rw [hgaps, ← htop]
  constructor
  · intro hread hzero
    have hmem : intLine "VTP_HPS_ECAL_BOT" [] ∈ blockLines p (c.fwType 0).toInt c := by
      have hline : intLine "VTP_HPS_ECAL_BOT" [] ∈ hpsClusterLines c.hps.cluster := by
        unfold hpsClusterLines
        rw [if_neg (not_not.mpr hzero)]
        exact List.Mem.head _
      have hps : (vtpFwTypeHps, hpsLines p c.hps c.fthodo) ∈ textBlocks p c := by
        repeat first | exact List.Mem.head _ | apply List.Mem.tail
      rw [hctype, blockLines_eq p hps]
      unfold hpsLines
      simp only [List.mem_append, hline, true_or, or_true]
    have hname : "VTP_HPS_ECAL_BOT" ∈ unknownNames := by
      repeat first | exact List.Mem.head _ | apply List.Mem.tail
    exact unreadable_of_unknown hmem hname hread
  · intro hne
    apply readable_of_reads
    · rw [hctype]
      exact reads_hps hfinite hne
    · rw [hctype]
      exact fun heq => absurd heq (by decide)

theorem text_compton (htype : (r.fwType 0).toInt = vtpFwTypeCompton) :
    ¬ TextReadable p (vtpUploadAll (.ofRegs r) fpu r stack conf) := by
  have hctype : ((vtpUploadAll (.ofRegs r) fpu r stack conf).fwType 0).toInt = vtpFwTypeCompton :=
    upload_type.trans htype
  generalize vtpUploadAll (.ofRegs r) fpu r stack conf = c at hctype
  apply unreadable_of_unknown (l := intLine "VTP_COMTPON_VETROC_WIDTH" [c.compton.vetrocWidth])
  · have hmem : (vtpFwTypeCompton, comptonLines c.compton) ∈ textBlocks p c := by
      repeat first | exact List.Mem.head _ | apply List.Mem.tail
    rw [hctype, blockLines_eq p hmem]
    exact List.Mem.head _
  · repeat first | exact List.Mem.head _ | apply List.Mem.tail

/-- The blocks of the other types. -/
theorem reads_other {type : Int} (hec : type ≠ vtpFwTypeEc) (hhps : type ≠ vtpFwTypeHps)
    (hblock : type ∉ unreadTypes) (c : VtpConf) : BlockReads p type c := by
  by_cases hmem : type ∈ textTypes
  · simp only [textTypes, List.mem_cons, List.not_mem_nil, or_false] at hmem
    rcases hmem with rfl | rfl | rfl | rfl | rfl | rfl | rfl | rfl | rfl | rfl | rfl | rfl | rfl |
      rfl
    · exact absurd rfl hec
    · exact reads_pc c
    · exact reads_htcc c
    · exact reads_ftof c
    · exact reads_cnd c
    · exact reads_pcs c
    · exact reads_ecs c
    · exact reads_gt c
    · exact reads_dc c
    · exact reads_hcal c
    · exact reads_ftcal c
    · exact absurd rfl hhps
    · exact absurd (by decide) hblock
    · exact absurd (by decide) hblock
  · exact blockReads_none hmem c

theorem text_other (hec : (r.fwType 0).toInt ≠ vtpFwTypeEc)
    (hhps : (r.fwType 0).toInt ≠ vtpFwTypeHps) (hblock : (r.fwType 0).toInt ∉ unreadTypes) :
    TextReadable p (vtpUploadAll (.ofRegs r) fpu r stack conf) := by
  apply readable_of_reads
  · rw [upload_type]
    exact reads_other hec hhps hblock _
  · rw [upload_type]
    intro htype
    rw [vtpUploadAll_block (runs_type htype) htype (uploadDc (.ofRegs r) r) rfl,
      uploadDc_eq r _ (runs_type htype)]
    exact road_fits r

end

/-- After `vtpInit`, the text of `vtpUploadAll` can be read back exactly when nothing
of it falls into the gaps. -/
theorem text_readable_iff {p : FloatPrinter} {fpu : FloatUnit} (hprints : PrintsFinite p fpu)
    (r : Regs) (stack : Word) (conf : VtpConf) :
    TextReadable p (vtpUploadAll (VtpLib.ofRegs r) fpu r stack conf) ↔ TextGaps r := by
  by_cases hec : (r.fwType 0).toInt = vtpFwTypeEc
  · exact text_ec hec
  by_cases hhps : (r.fwType 0).toInt = vtpFwTypeHps
  · exact text_hps hprints hhps
  by_cases hblock : (r.fwType 0).toInt ∈ unreadTypes
  · have hgaps : ¬ TextGaps r := fun h => h.block hblock
    simp only [unreadTypes, List.mem_cons, List.not_mem_nil, or_false] at hblock
    rcases hblock with hcompton | hstreaming
    · exact iff_of_false (text_compton hcompton) hgaps
    · exact iff_of_false (unreadable_streaming (upload_type.trans hstreaming)) hgaps
  · exact iff_of_true (text_other hec hhps hblock)
      ⟨hblock, fun h => absurd h hec, fun h => absurd h hhps⟩

/-- A printer that writes every float as 0. -/
def zeroPrinter : FloatPrinter where
  f _ := "0.000000".toList
  f3 _ := "0.000".toList
  word _ := ⟨⟨by decide, solid_of_all rfl⟩, ⟨by decide, by decide, by decide⟩⟩
  word3 _ := ⟨⟨by decide, solid_of_all rfl⟩, ⟨by decide, by decide, by decide⟩⟩

theorem zeros_printsFinite : PrintsFinite zeroPrinter FloatUnit.zeros := by
  have hzero : IsDecimal "0.000000".toList :=
    ⟨false, ['0'], "000000".toList, by decide, List.all_eq_true.mp rfl, List.all_eq_true.mp rfl,
      by decide⟩
  exact ⟨fun _ => hzero, fun _ => hzero⟩

def pcBoard : Regs := { (default : Regs) with fwType := ![5#32, 0#32] }

/-- The text of a PC board can be read. -/
theorem pc_text_readable :
    TextReadable zeroPrinter
      (vtpUploadAll (VtpLib.ofRegs pcBoard) FloatUnit.zeros pcBoard 0#32 default) :=
  (text_readable_iff zeros_printsFinite pcBoard 0#32 default).mpr
    ⟨by decide, fun h => absurd h (by decide), fun h => absurd h (by decide)⟩

def comptonBoard : Regs := { (default : Regs) with fwType := ![15#32, 0#32] }

/-- The text of a Compton board has words that the parser does not know. -/
theorem compton_text_unreadable :
    ¬ TextReadable zeroPrinter
      (vtpUploadAll (VtpLib.ofRegs comptonBoard) FloatUnit.zeros comptonBoard 0#32 default) :=
  text_compton rfl

end VtpStreaming
