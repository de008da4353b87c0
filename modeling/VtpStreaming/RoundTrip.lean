import Mathlib.Tactic.FinCases
import VtpStreaming.GeneratedConfig

/-!
# From the user's configuration to the VTP's

The user's values are written by the VME controller and read by the VTP.
-/

namespace VtpStreaming

open Clib

/-! ## Destinations -/

/-- A byte in decimal. -/
structure IsOctet (ds : List Char) (b : Byte) : Prop where
  nonempty : ds ≠ []
  digits : ∀ c ∈ ds, c.isDigit = true
  value : Nat.ofDigitChars 10 ds 0 = b.toNat

/-- The address `a.b.c.d`. -/
def DottedQuad (s : List Char) (q : Fin 4 → Byte) : Prop :=
  ∃ a b c d, IsOctet a (q 0) ∧ IsOctet b (q 1) ∧ IsOctet c (q 2) ∧ IsOctet d (q 3) ∧
    s = a ++ '.' :: (b ++ '.' :: (c ++ '.' :: d))

/-- `%d` stops at the first dot, and nothing follows it. -/
theorem destipBytes_dotted {s : List Char} {q : Fin 4 → Byte} (h : DottedQuad s q) :
    destipBytes s = ![q 0, 0#8, 0#8, 0#8] := by
  obtain ⟨a, b, c, d, ha, -, -, -, rfl⟩ := h
  have hline : "VTP_STREAMING_DESTIP      ".toList = networkKeys[26].1.toList ++ spaces 6 :=
    literal_spaces rfl rfl rfl
  have hkey := (networkKeys_names.1 networkKeys[26] (List.getElem_mem _)).word
  generalize hrest : b ++ '.' :: (c ++ '.' :: d) ++ ['\n'] = rest
  have htext : "VTP_STREAMING_DESTIP      ".toList ++ (a ++ '.' :: (b ++ '.' :: (c ++ '.' :: d))) ++
      ['\n'] = networkKeys[26].1.toList ++ (spaces 6 ++ a ++ '.' :: rest) := by
    rw [hline, ← hrest]
    simp only [List.append_assoc, List.cons_append]
  have hword : scanWord (networkKeys[26].1.toList ++ (spaces 6 ++ a ++ '.' :: rest)) =
      some (networkKeys[26].1.toList, spaces 6 ++ a ++ '.' :: rest) :=
    scanWord_word (show Blank [] from rfl) hkey rfl
  have hfirst : scanD (spaces 6 ++ a ++ '.' :: rest) =
      some (BitVec.ofNat 32 (q 0).toNat, '.' :: rest) := by
    have hlt : (q 0).toNat < 256 := (q 0).isLt
    exact scanD_digits (spaces_blank 6) ha.nonempty ha.digits ha.value (by omega) rfl
  have hdot : scanD ('.' :: rest) = none := rfl
  have hargs : scanArgs scanD 4 (networkKeys[26].1.toList ++ (spaces 6 ++ a ++ '.' :: rest)) =
      [BitVec.ofNat 32 (q 0).toNat] := by
    unfold scanArgs
    rw [hword]
    dsimp only
    rw [scanMany, hfirst]
    dsimp only
    rw [scanMany, hdot]
  funext i
  unfold destipBytes bytesOf argi
  rw [htext, hargs]
  fin_cases i
  · simp
  · rfl
  · rfl
  · rfl

/-! ## The round trip -/

/-- The streaming configuration holds the user's values, and the destination
`q`, in the event builder `e`. The connect flag is held as `connect`. -/
structure KeepsUser (p : UserConfigParams) (q : Fin 4 → Byte) (connect : Word) (e : Fin 2)
    (old new : FadcStreamingConf) : Prop where
  rocId : new.rocId = p.vtpStreamingRocid
  nframeBuf : new.nframeBuf = p.vtpStreamingNframeBuf
  frameLen : new.frameLen = p.vtpStreamingFramelen
  nstreams : (new.eb e).nstreams = p.vtpStreamingNstreams
  mac : (new.eb e).mac = p.vtpStreamingMac
  ipaddr : (new.eb e).ipaddr = p.vtpStreamingIpaddr
  subnet : (new.eb e).subnet = p.vtpStreamingSubnet
  gateway : (new.eb e).gateway = p.vtpStreamingGateway
  destip : (new.eb e).destip = q
  destipport : (new.eb e).destipport.toNat = p.vtpStreamingDestipport.toNat
  localport : (new.eb e).localport.toNat = p.vtpStreamingLocalport.toNat
  connect : (new.eb e).connect = connect
  other : ∀ i, i ≠ e → new.eb i = old.eb i

/-- The ports are ports. -/
structure PortsInRange (p : UserConfigParams) : Prop where
  destipport : p.vtpStreamingDestipport.toNat < 65536
  localport : p.vtpStreamingLocalport.toNat < 65536

variable {enable : Fin 16 → Word} {p : UserConfigParams} {q : Fin 4 → Byte} {e : Fin 2}
  {c : VtpConf}

theorem generatedConf_eb :
    (generatedConf enable p e c).fadcStreaming.eb e = userEb p (c.fadcStreaming.eb e) :=
  Function.update_self ..

/-- The flag is never kept. -/
theorem storedConnect_ne (v : Word) : storedConnect v ≠ v := by
  unfold storedConnect
  split
  · rintro rfl
    contradiction
  · next h =>
    intro heq
    rw [← heq] at h
    exact h (by decide)

/-- Everything but the destination's last three bytes is kept, the flag as the
parser stores it. -/
theorem generatedConf_keepsUser (hdestip : DottedQuad p.vtpStreamingDestip q)
    (hports : PortsInRange p) :
    KeepsUser p q (storedConnect p.vtpStreamingConnect) e c.fadcStreaming
        (generatedConf enable p e c).fadcStreaming ↔
      q 1 = 0#8 ∧ q 2 = 0#8 ∧ q 3 = 0#8 := by
  have hstored : ((generatedConf enable p e c).fadcStreaming.eb e).destip =
      ![q 0, 0#8, 0#8, 0#8] := by
    rw [generatedConf_eb]
    exact destipBytes_dotted hdestip
  constructor
  · intro hkeeps
    have hq := hkeeps.destip
    rw [hstored] at hq
    exact ⟨(congrFun hq 1).symm, (congrFun hq 2).symm, (congrFun hq 3).symm⟩
  · rintro ⟨h₁, h₂, h₃⟩
    have hq : ![q 0, 0#8, 0#8, 0#8] = q := by
      funext i
      fin_cases i
      · rfl
      · exact h₁.symm
      · exact h₂.symm
      · exact h₃.symm
    constructor
    case destip => rw [hstored, hq]
    case destipport =>
      rw [generatedConf_eb]
      show (p.vtpStreamingDestipport.setWidth 16).toNat = _
      rw [BitVec.toNat_setWidth, Nat.mod_eq_of_lt hports.destipport]
    case localport =>
      rw [generatedConf_eb]
      show (p.vtpStreamingLocalport.setWidth 16).toNat = _
      rw [BitVec.toNat_setWidth, Nat.mod_eq_of_lt hports.localport]
    case other =>
      intro i hi
      exact Function.update_of_ne hi ..
    case rocId => rfl
    case nframeBuf => rfl
    case frameLen => rfl
    all_goals
      rw [generatedConf_eb]
      rfl

theorem generatedConf_connect {connect : Word}
    (h : KeepsUser p q connect e c.fadcStreaming (generatedConf enable p e c).fadcStreaming) :
    connect = storedConnect p.vtpStreamingConnect := by
  have hconnect := h.connect
  rw [generatedConf_eb] at hconnect
  exact hconnect.symm

/-- The generated file, read on its host. -/
theorem vtpReadConfigFile_generated {env : ConfigEnv} {rocname : RocName}
    {configDir peds path text filename : List Char}
    (hdestip : DestipToken p.vtpStreamingDestip) (he : p.vtpStreaming.toInt = e.val)
    (hgen : generateVtpConfig configDir rocname.name (some peds) p = some (path, text))
    (hhost : env.host = rocname.vtpHost) (hopens : Opens env filename text)
    (stack : ConfigStack) (conf : VtpConf) :
    ∃ slots, parseActiveFadcSlots (some peds) 20 = some slots ∧
      vtpReadConfigFile env stack filename conf =
        .returned 0 (generatedConf (payloadEnable slots) p e conf) := by
  obtain ⟨slots, hslots, htext⟩ := generateVtpConfig_text hgen
  refine ⟨slots, hslots, ?_⟩
  rw [vtpReadConfigFile_opens hopens, hhost, htext]
  exact readConfigText_generated stack conf (payloadEnable_isMask slots) hdestip he

/-! ### The configuration that comes with the program -/

/-- Its streaming part. -/
def shippedConfig : List Char :=
  ["VTP_STREAMING_ROCID       0",
   "VTP_STREAMING_NFRAME_BUF  1000",
   "VTP_STREAMING_FRAMELEN    65536",
   "VTP_STREAMING             0",
   "VTP_STREAMING_MAC         0xCE 0xBA 0xF0 0x03 0x00 0x9d",
   "VTP_STREAMING_NSTREAMS    1",
   "VTP_STREAMING_IPADDR      129  57  69 14",
   "VTP_STREAMING_SUBNET      255 255 255   0",
   "VTP_STREAMING_GATEWAY     129  57  69   1   ",
   "VTP_STREAMING_DESTIP\t         129.57.177.25",
   "VTP_STREAMING_DESTIPPORT  19522",
   "VTP_STREAMING_LOCALPORT   10001",
   "VTP_STREAMING_CONNECT     1"].flatMap fun l => l.toList ++ ['\n']

theorem shippedConfig_parsed :
    ∃ params, parseUserConfig (fun _ _ => 0#32) (some shippedConfig) initConfigParams = .ok params ∧
      params.vtpStreaming = 0#32 ∧ params.vtpStreamingDestip = "129.57.177.25".toList ∧
      params.vtpStreamingDestipport = 19522#32 ∧ params.vtpStreamingLocalport = 10001#32 ∧
      params.vtpStreamingConnect = 1#32 := by
  have hfields : ((parseUserConfig (fun _ _ => 0#32) (some shippedConfig)
      initConfigParams).toOption.map fun p => (p.vtpStreaming, p.vtpStreamingDestip,
        p.vtpStreamingDestipport, p.vtpStreamingLocalport, p.vtpStreamingConnect)) =
      some (0#32, "129.57.177.25".toList, 19522#32, 10001#32, 1#32) := by
    obtain ⟨ls, htext, hparse⟩ : ∃ ls : List (List Char),
        shippedConfig = (ls.flatMap fun l => l ++ ['\n']) ∧
        ((parseUserConfig (fun _ _ => 0#32) (some (ls.flatMap fun l => l ++ ['\n']))
          initConfigParams).toOption.map fun p => (p.vtpStreaming, p.vtpStreamingDestip,
            p.vtpStreamingDestipport, p.vtpStreamingLocalport, p.vtpStreamingConnect)) =
          some (0#32, "129.57.177.25".toList, 19522#32, 10001#32, 1#32) := by
      apply Exists.intro
      refine ⟨?_, ?_⟩
      · apply flatMap_literal
        repeat' first | exact rfl | apply List.Forall₂.cons | exact List.Forall₂.nil
      · decide +kernel
    rw [htext]
    exact hparse
  cases hparse : parseUserConfig (fun _ _ => 0#32) (some shippedConfig) initConfigParams with
  | error err =>
    rw [hparse] at hfields
    cases hfields
  | ok params =>
    rw [hparse] at hfields
    simp only [Except.toOption, Option.map_some, Option.some.injEq, Prod.mk.injEq] at hfields
    exact ⟨params, rfl, hfields⟩

theorem dottedQuad_shipped : DottedQuad "129.57.177.25".toList ![129#8, 57#8, 177#8, 25#8] := by
  refine ⟨"129".toList, "57".toList, "177".toList, "25".toList, ?_, ?_, ?_, ?_, by decide +kernel⟩
  · exact ⟨by decide, List.all_eq_true.mp rfl, by decide⟩
  · exact ⟨by decide, List.all_eq_true.mp rfl, by decide⟩
  · exact ⟨by decide, List.all_eq_true.mp rfl, by decide⟩
  · exact ⟨by decide, List.all_eq_true.mp rfl, by decide⟩

def rocname1 : RocName where
  name := "roc1".toList
  solid := solid_of_all rfl
  noNul := by decide
  fits := by decide

/-- The host `roc1vtp`, with one file. -/
def hostOf (text : List Char) : ConfigEnv where
  hostname := "roc1vtp".toList
  vtpParams := none
  expid := []
  files := fun path => if path = "/cnf".toList then some text else none

theorem hostOf_opens (text : List Char) : Opens (hostOf text) "/cnf".toList text where
  named := by decide
  nameFits := by decide
  pathFits := by
    show (namedPath (hostOf []) "/cnf".toList).length < fnlen
    decide
  content := rfl

def freshStack : ConfigStack where
  msk := fun _ => 0#32
  trgBit := 0#32
  keyword := []
  rocName := []

/-! ### The result -/

/-- The file is always read to its end. What the user wrote is never all kept,
since the connect flag is stored inverted; with the flag taken as the parser
stores it, it is kept exactly when the destination's last three bytes are 0. -/
theorem generated_roundtrip {junk : Nat → Nat → Word} {userText : List Char}
    {params : UserConfigParams} {env : ConfigEnv} {rocname : RocName}
    {configDir peds path text filename : List Char}
    (hparse : parseUserConfig junk (some userText) initConfigParams = .ok params)
    (hindex : params.vtpStreaming.toInt = e.val)
    (hdestip : DottedQuad params.vtpStreamingDestip q) (hports : PortsInRange params)
    (hgen : generateVtpConfig configDir rocname.name (some peds) params = some (path, text))
    (hhost : env.host = rocname.vtpHost) (hopens : Opens env filename text)
    (stack : ConfigStack) (conf : VtpConf) :
    ∃ conf', vtpReadConfigFile env stack filename conf = .returned 0 conf' ∧
      ¬ KeepsUser params q params.vtpStreamingConnect e conf.fadcStreaming conf'.fadcStreaming ∧
      (KeepsUser params q (storedConnect params.vtpStreamingConnect) e conf.fadcStreaming
          conf'.fadcStreaming ↔
        q 1 = 0#8 ∧ q 2 = 0#8 ∧ q 3 = 0#8) := by
  obtain ⟨slots, -, hread⟩ := vtpReadConfigFile_generated (parseUserConfig_destip hparse) hindex
    hgen hhost hopens stack conf
  refine ⟨_, hread, ?_, generatedConf_keepsUser hdestip hports⟩
  intro hkeeps
  exact storedConnect_ne _ (generatedConf_connect hkeeps).symm

/-- The shipped configuration, with payload 1 enabled. -/
theorem generated_roundtrip_shipped :
    ∃ params path text conf', parseUserConfig (fun _ _ => 0#32) (some shippedConfig) initConfigParams =
        .ok params ∧
      generateVtpConfig "cfg".toList "roc1".toList (some "FADC250_SLOT 10".toList) params =
        some (path, text) ∧
      vtpReadConfigFile (hostOf text) freshStack "/cnf".toList default = .returned 0 conf' ∧
      ¬ KeepsUser params ![129#8, 57#8, 177#8, 25#8] params.vtpStreamingConnect 0
        (default : VtpConf).fadcStreaming conf'.fadcStreaming := by
  obtain ⟨params, hparse, hindex, hdestip, hdestipport, hlocalport, -⟩ := shippedConfig_parsed
  have hgen : ∃ path text, generateVtpConfig "cfg".toList rocname1.name
      (some "FADC250_SLOT 10".toList) params = some (path, text) := ⟨_, _, rfl⟩
  obtain ⟨path, text, hgen⟩ := hgen
  have hports : PortsInRange params := ⟨by rw [hdestipport]; decide, by rw [hlocalport]; decide⟩
  obtain ⟨conf', hread, hfails, -⟩ := generated_roundtrip (e := 0) hparse
    (by rw [hindex]; rfl) (by rw [hdestip]; exact dottedQuad_shipped) hports hgen rfl
    (hostOf_opens text) freshStack default
  exact ⟨params, path, text, conf', hparse, hgen, hread, hfails⟩

/-- The shipped destination 129.57.177.25 is read back as 129.0.0.0, and the
flag 1 as 0. -/
theorem generated_destination_lost :
    ∃ params path text conf', parseUserConfig (fun _ _ => 0#32) (some shippedConfig) initConfigParams =
        .ok params ∧
      generateVtpConfig "cfg".toList "roc1".toList (some "FADC250_SLOT 10".toList) params =
        some (path, text) ∧
      vtpReadConfigFile (hostOf text) freshStack "/cnf".toList default = .returned 0 conf' ∧
      params.vtpStreamingDestip = "129.57.177.25".toList ∧
      (conf'.fadcStreaming.eb 0).destip = ![129#8, 0#8, 0#8, 0#8] ∧
      params.vtpStreamingConnect = 1#32 ∧ (conf'.fadcStreaming.eb 0).connect = 0#32 ∧
      ∀ connect, ¬ KeepsUser params ![129#8, 57#8, 177#8, 25#8] connect 0
        (default : VtpConf).fadcStreaming conf'.fadcStreaming := by
  obtain ⟨params, hparse, hindex, hdestip, -, -, hconnect⟩ := shippedConfig_parsed
  have hgen : ∃ path text, generateVtpConfig "cfg".toList rocname1.name
      (some "FADC250_SLOT 10".toList) params = some (path, text) := ⟨_, _, rfl⟩
  obtain ⟨path, text, hgen⟩ := hgen
  obtain ⟨slots, -, hread⟩ := vtpReadConfigFile_generated (e := 0)
    (parseUserConfig_destip hparse) (by rw [hindex]; rfl) hgen rfl (hostOf_opens text) freshStack
    default
  have hstored : ((generatedConf (payloadEnable slots) params 0 default).fadcStreaming.eb 0).destip =
      ![129#8, 0#8, 0#8, 0#8] := by
    rw [generatedConf_eb]
    show destipBytes params.vtpStreamingDestip = _
    rw [hdestip]
    exact destipBytes_dotted dottedQuad_shipped
  refine ⟨params, path, text, _, hparse, hgen, hread, hdestip, hstored, hconnect, ?_, ?_⟩
  · rw [generatedConf_eb]
    show storedConnect params.vtpStreamingConnect = 0#32
    rw [hconnect]
    rfl
  · intro connect hkeeps
    have hsecond := congrFun (hstored.symm.trans hkeeps.destip) 1
    exact absurd hsecond (by decide)

end VtpStreaming
