import VtpStreaming.GeneratedLines

/-!
# The generated configuration, read back

What `vtpReadConfigFile` makes of a file that `generate_vtp_config` has written
for its host.
-/

namespace VtpStreaming

open Clib

variable {host : List Char} {enable : Fin 16 → Word} {p : UserConfigParams}

/-! ## The crate -/

/-- A name that makes a host's name with `vtp` behind it. -/
structure RocName where
  name : List Char
  solid : ∀ c ∈ name, isSpace c = false
  noNul : '\x00' ∉ name
  fits : (name ++ "vtp".toList).length < roclen

def RocName.vtpHost (rocname : RocName) : List Char := rocname.name ++ "vtp".toList

variable (rocname : RocName)

theorem vtp_plain : Plain 3 "vtp".toList ∧ ∀ c ∈ "vtp".toList, isSpace c = false := by
  rw [literal rfl]
  exact ⟨⟨by decide, by decide, by decide⟩, solid_of_all rfl⟩

theorem RocName.isWord : IsWord rocname.vtpHost := by
  refine ⟨?_, ?_⟩
  · unfold RocName.vtpHost
    simp
  · intro c hc
    obtain hname | hvtp := List.mem_append.mp hc
    · exact rocname.solid c hname
    · exact vtp_plain.2 c hvtp

theorem crateLine_eq : crateLine rocname.name = "VTP_CRATE".toList ++ (spaces 1 ++ rocname.vtpHost) := by
  have hline : "VTP_CRATE ".toList = "VTP_CRATE".toList ++ spaces 1 := literal_spaces rfl rfl rfl
  unfold crateLine RocName.vtpHost
  rw [hline]
  simp only [List.append_assoc]

theorem crate_keyword : IsWord "VTP_CRATE".toList ∧ Plain 9 "VTP_CRATE".toList ∧
    isRead "VTP_CRATE".toList = true := by
  rw [literal rfl]
  exact ⟨⟨by decide, solid_of_all rfl⟩, ⟨by decide, by decide, by decide⟩, rfl⟩

theorem crateLine_plain : Plain 90 (crateLine rocname.name) := by
  have hname : Plain 77 rocname.name := by
    have hfits := rocname.fits
    have hvtp : "vtp".toList.length = 3 := rfl
    rw [List.length_append, hvtp] at hfits
    have hlength : rocname.name.length + 3 < 80 := hfits
    exact ⟨by omega, fun h => absurd (rocname.solid _ h) (by decide), rocname.noNul⟩
  rw [crateLine_eq]
  exact crate_keyword.2.1.append ((spaces_plain 1).append (hname.append vtp_plain.1))

theorem crateLine_read : isRead (crateLine rocname.name) = true := by
  rw [crateLine_eq, literal rfl]
  rfl

theorem lineWords_crate (s : ReadState) :
    lineWords (crateLine rocname.name ++ ['\n']) s =
      { s with keyword := "VTP_CRATE".toList, rocName := rocname.vtpHost } := by
  have hword : scanWord (spaces 1 ++ rocname.vtpHost ++ ['\n']) = some (rocname.vtpHost, ['\n']) :=
    scanWord_word (spaces_blank 1) rocname.isWord rfl
  have hspace : Stops (fun c => !isSpace c) (spaces 1 ++ rocname.vtpHost ++ ['\n']) := rfl
  have hline := lineWords_key (s := s) crate_keyword.1 hspace
  rw [crateLine_eq, List.append_assoc, hline, hword]

theorem wordsFit_crate (s : ReadState) :
    wordsFit { s with keyword := "VTP_CRATE".toList, rocName := rocname.vtpHost } = true := by
  have hkeyword : "VTP_CRATE".toList.length < roclen :=
    Nat.lt_of_le_of_lt crate_keyword.2.1.length_le (by decide)
  unfold wordsFit
  rw [Bool.and_eq_true, decide_eq_true_eq, decide_eq_true_eq]
  exact ⟨hkeyword, rocname.fits⟩

/-- The crate's line activates the section. -/
theorem readLine_crateLine (s : ReadState) :
    ∃ s', readLine rocname.vtpHost (crateLine rocname.name ++ ['\n']) s = .next s' ∧ Reading s' ∧
      s'.conf = s.conf ∧ s'.locals = s.locals := by
  have hnul : '\x00' ∉ crateLine rocname.name ++ ['\n'] := by
    simp [(crateLine_plain rocname).noNul]
  refine ⟨_, readLine_crate hnul (lineWords_crate rocname s) (wordsFit_crate rocname s) rfl,
    ⟨?_, rocname.fits⟩, rfl, rfl⟩
  dsimp only
  rw [decide_eq_true rfl, Bool.true_or]

/-! ## The whole file -/

/-- The settings that the file makes before it names an event builder. -/
def withCommon (enable : Fin 16 → Word) (p : UserConfigParams) (c : VtpConf) : VtpConf :=
  { c with
    fwFilenameZ7 := "fe_vtp_z7_streamingv3_ejfat_v5.bin".toList
    fwFilenameV7 := "fe_vtp_v7_fadc_streamingv3_ejfat.bin".toList
    payloadEn := mskWord 16 enable
    streaming :=
      { statsHost := "129.57.29.231".toList
        statsPort := 19531#32
        statsInst := 0#32
        syncPktLen := 28#32
        numConnections := 1#32
        netMode := 1#32
        enableEjfat := 1#32
        localPort := 10001#32
        payloadEnArray := enable }
    fadcStreaming :=
      { c.fadcStreaming with
        rocId := p.vtpStreamingRocid
        nframeBuf := p.vtpStreamingNframeBuf
        frameLen := p.vtpStreamingFramelen } }

/-- The settings of the event builder. -/
def userEb (p : UserConfigParams) (eb : StreamingEbCfg) : StreamingEbCfg :=
  { eb with
    mac := p.vtpStreamingMac
    nstreams := p.vtpStreamingNstreams
    ipaddr := p.vtpStreamingIpaddr
    subnet := p.vtpStreamingSubnet
    gateway := p.vtpStreamingGateway
    destip := destipBytes p.vtpStreamingDestip
    destipport := p.vtpStreamingDestipport.setWidth 16
    localport := p.vtpStreamingLocalport.setWidth 16
    connect := storedConnect p.vtpStreamingConnect }

def rocStores (p : UserConfigParams) : List (VtpConf × Locals → VtpConf × Locals) :=
  [setFadc fun c => { c with rocId := p.vtpStreamingRocid },
   setFadc fun c => { c with nframeBuf := p.vtpStreamingNframeBuf },
   setFadc fun c => { c with frameLen := p.vtpStreamingFramelen }]

theorem rocLines_store : LinesStore host (rocLines p) (rocStores p) :=
  .store (stores_rocid _) <| .store (stores_nframe_buf _) <| .store (stores_framelen _) <|
    .blank <| .rule <| .comment rfl (by decide) <| .rule .nil

/-- What the lines of the event builder do to its record, in their order. -/
def ebSetters (p : UserConfigParams) : List (StreamingEbCfg → StreamingEbCfg) :=
  [fun eb => { eb with mac := p.vtpStreamingMac },
   fun eb => { eb with nstreams := p.vtpStreamingNstreams },
   fun eb => { eb with ipaddr := p.vtpStreamingIpaddr },
   fun eb => { eb with subnet := p.vtpStreamingSubnet },
   fun eb => { eb with gateway := p.vtpStreamingGateway },
   fun eb => { eb with destip := destipBytes p.vtpStreamingDestip },
   fun eb => { eb with destipport := p.vtpStreamingDestipport.setWidth 16 },
   fun eb => { eb with localport := p.vtpStreamingLocalport.setWidth 16 },
   fun eb => { eb with connect := storedConnect p.vtpStreamingConnect }]

theorem ebLines_store (hdestip : DestipToken p.vtpStreamingDestip) :
    LinesStore host (ebLines p) ((ebSetters p).map setEb) :=
  .blank <| .store (stores_mac _) <| .blank <| .store (stores_nstreams _) <| .blank <|
    .store (stores_ipaddr _) <| .store (stores_subnet _) <| .store (stores_gateway _) <|
    .blank <| .store (stores_destip hdestip) <| .store (stores_destipport _) <|
    .store (stores_localport _) <| .blank <| .store (stores_connect _) <| .blank .nil

/-- Settings of one event builder, one after the other. -/
theorem setEb_foldl (gs : List (StreamingEbCfg → StreamingEbCfg)) (a : VtpConf × Locals) :
    (gs.map setEb).foldl (fun a f => f a) a = setEb (fun eb => gs.foldl (fun eb g => g eb) eb) a := by
  induction gs generalizing a with
  | nil =>
    have hid : setEb (fun eb => eb) a = a := by
      unfold setEb setFadc setConf
      simp only [Function.update_eq_self]
    exact hid.symm
  | cons g gs ih =>
    rw [List.map_cons, List.foldl_cons, ih]
    unfold setEb setFadc setConf
    simp only [Function.update_idem, Function.update_self, List.foldl_cons]

/-- The configuration after the whole file. -/
def generatedConf (enable : Fin 16 → Word) (p : UserConfigParams) (e : Fin 2) (c : VtpConf) :
    VtpConf :=
  { withCommon enable p c with
    fadcStreaming :=
      { (withCommon enable p c).fadcStreaming with
        eb := Function.update c.fadcStreaming.eb e (userEb p (c.fadcStreaming.eb e)) } }

theorem commonStores_foldl (c : VtpConf) (l : Locals) :
    (commonStores ++ setPayloadEn enable :: rocStores p).foldl (fun a f => f a) (c, l) =
      (withCommon enable p c, { l with msk := enable }) :=
  rfl

def generatedText (rocname : List Char) (enable : Fin 16 → Word) (p : UserConfigParams) :
    List Char :=
  (vtpConfigLines rocname enable p).flatMap fun l => l ++ ['\n']

variable {rocname} (stack : ConfigStack) (conf : VtpConf)

/-- The reading up to the line that names the event builder. -/
theorem readConfigText_common (henable : IsMask enable) :
    ∃ s, Reading s ∧ s.conf = withCommon enable p conf ∧
      readConfigText rocname.vtpHost stack (generatedText rocname.name enable p) conf =
        readPieces rocname.vtpHost
          (filePieces ((streamingLine p :: ebLines p).flatMap fun l => l ++ ['\n'])) s := by
  have hcommon : LinesStore rocname.vtpHost
      (commonLines ++ payloadLine enable :: [] :: rocLines p)
      (commonStores ++ setPayloadEn enable :: rocStores p) :=
    commonLines_store.append (.store (stores_payload henable) (.blank rocLines_store))
  obtain ⟨s₁, hcrate, hs₁, hconf₁, -⟩ := readLine_crateLine rocname (readStart stack conf)
  obtain ⟨s, hrun, hs, hconf⟩ := readPieces_lines hcommon hs₁
    ((streamingLine p :: ebLines p).flatMap fun l => l ++ ['\n'])
  refine ⟨s, hs, ?_, ?_⟩
  · rw [commonStores_foldl, hconf₁] at hconf
    exact congrArg Prod.fst hconf
  · have hplain := crateLine_plain rocname
    have hlength : (crateLine rocname.name).length + 1 < strlen :=
      Nat.lt_of_le_of_lt (Nat.succ_le_succ hplain.length_le) (by decide)
    unfold readConfigText generatedText vtpConfigLines
    rw [List.cons_append, List.flatMap_cons, List.flatMap_append, List.append_assoc,
      List.singleton_append, filePieces_line hplain.noNewline hlength,
      if_pos (crateLine_read rocname), readPieces, hcrate]
    exact hrun

/-- A generated file is read to its end. -/
theorem readConfigText_generated (henable : IsMask enable)
    (hdestip : DestipToken p.vtpStreamingDestip)
    {e : Fin 2} (he : p.vtpStreaming.toInt = e.val) :
    readConfigText rocname.vtpHost stack (generatedText rocname.name enable p) conf =
      .returned 0 (generatedConf enable p e conf) := by
  obtain ⟨s, hs, hconf, hread⟩ := readConfigText_common stack conf henable
  have heb : LinesStore rocname.vtpHost (streamingLine p :: ebLines p)
      ((fun a => (a.1, { a.2 with streamingEb := e })) :: (ebSetters p).map setEb) :=
    .store (stores_streaming he) (ebLines_store hdestip)
  obtain ⟨s', hrun, -, hconf'⟩ := readPieces_lines heb hs []
  rw [List.append_nil] at hrun
  rw [List.foldl_cons, setEb_foldl] at hconf'
  rw [hread, hrun]
  have hfinal : s'.conf = generatedConf enable p e conf := by
    have hfst := congrArg Prod.fst hconf'
    rw [hconf] at hfst
    exact hfst
  show ReadResult.returned 0 s'.conf = _
  rw [hfinal]

/-- A generated file with another index is read up to that. -/
theorem readConfigText_generated_index (henable : IsMask enable)
    (h : ¬ (0 ≤ p.vtpStreaming.toInt ∧ p.vtpStreaming.toInt ≤ 1)) :
    readConfigText rocname.vtpHost stack (generatedText rocname.name enable p) conf =
      .returned (-4) (withCommon enable p conf) := by
  obtain ⟨s, hs, hconf, hread⟩ := readConfigText_common stack conf henable
  obtain ⟨s', hline, hconf'⟩ := readLine_streaming hs h
  have hplain : Plain 108 (streamingLine p) := streamingLine_plain p
  have hlength : (streamingLine p).length + 1 < strlen :=
    Nat.lt_of_le_of_lt (Nat.succ_le_succ hplain.length_le) (by decide)
  rw [hread, List.flatMap_cons, List.append_assoc, List.singleton_append,
    filePieces_line hplain.noNewline hlength, if_pos (streamingLine_read p), readPieces, hline]
  dsimp only
  rw [hconf', hconf]

/-- The text that is written. -/
theorem generateVtpConfig_text {configDir name peds path text : List Char}
    (h : generateVtpConfig configDir name (some peds) p = some (path, text)) :
    ∃ slots, parseActiveFadcSlots (some peds) 20 = some slots ∧
      text = generatedText name (payloadEnable slots) p := by
  unfold generateVtpConfig at h
  cases hslots : parseActiveFadcSlots (some peds) 20 with
  | none =>
    rw [hslots] at h
    cases h
  | some slots =>
    rw [hslots] at h
    cases h
    exact ⟨slots, rfl, rfl⟩

theorem payloadEnable_isMask (slots : List Word) : IsMask (payloadEnable slots) := by
  intro j
  rw [payloadEnable_eq]
  split
  · exact Or.inr rfl
  · exact Or.inl rfl

end VtpStreaming
