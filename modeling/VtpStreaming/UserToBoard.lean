import VtpStreaming.SlotMask
import VtpStreaming.StreamCount

/-!
# From the user's configuration to the registers

What the user has written goes through the generated file to the VTP, where the library
and the readout list read it once each.
-/

namespace VtpStreaming

open Clib Function VtpLib

/-! ## What the user chooses -/

structure UserChoice (params : UserConfigParams) (q : Fin 4 → Byte) : Prop where
  index : params.vtpStreaming = 0#32
  streams : 1 ≤ params.vtpStreamingNstreams.toInt ∧ params.vtpStreamingNstreams.toInt ≤ 4
  destip : DottedQuad params.vtpStreamingDestip q
  destipport : 1 ≤ params.vtpStreamingDestipport.toNat ∧ params.vtpStreamingDestipport.toNat ≤ 65533
  localport : 1 ≤ params.vtpStreamingLocalport.toNat ∧ params.vtpStreamingLocalport.toNat ≤ 65533
  framelen : 1025 ≤ params.vtpStreamingFramelen.toInt ∧ params.vtpStreamingFramelen.toInt ≤ 65536

/-- An interface has the user's addresses, `i` further than those of the first. -/
structure InterfaceHolds (params : UserConfigParams) (q : Fin 4 → Byte) (i : Fin 4)
    (t : TcpipClientRegs) : Prop where
  ipaddr : ipBytes t.ip4Addr = update params.vtpStreamingIpaddr 3
    (params.vtpStreamingIpaddr 3 + BitVec.ofNat 8 i)
  subnet : ipBytes t.ip4SubnetMask = params.vtpStreamingSubnet
  gateway : ipBytes t.ip4GatewayAddr = params.vtpStreamingGateway
  mac : macBytes t.macAddr = update params.vtpStreamingMac 4
    (params.vtpStreamingMac 4 + BitVec.ofNat 8 i)
  destip : ipBytes t.udpDestAddr = q
  destipport : (t.udpPort.setWidth 16).toNat = params.vtpStreamingDestipport.toNat

/-- The registers have what the user has chosen. -/
structure BoardHolds (params : UserConfigParams) (q : Fin 4 → Byte) (r : Regs) : Prop where
  streams : ebStreams.get r.streamingEb.ctrl3 = params.vtpStreamingNstreams
  framelen : ((ebFrame.get r.streamingEb.ctrl).toNat : Int) * 32 + 32 =
    frameNs params.vtpStreamingFramelen.toInt
  interfaces : ∀ i : Fin 4, i.val < params.vtpStreamingNstreams.toNat →
    InterfaceHolds params q i (r.tcpClient i)

/-- The address that the readout list sends to: of the text in the file, or of the ROC link
when that is none. -/
def destinationRead (env : RocEnv) (destip : List Char) : Word :=
  if vtpRocInetAddr destip = 0#32 then vtpRocInetAddr env.net else vtpRocInetAddr destip

/-! ## Addresses -/

theorem ipWord_ipBytes (w : Word) : ipWord (ipBytes w) = w := by
  have hquad : ipWord (ipBytes w) = quadWord (ipBytes w) := rfl
  have hw := w.isLt
  apply BitVec.eq_of_toNat_eq
  rw [hquad, quadWord_eq, BitVec.toNat_ofNat]
  simp only [ipBytes, Matrix.cons_val_zero, Matrix.cons_val_one, Matrix.cons_val,
    BitVec.toNat_setWidth, BitVec.toNat_ushiftRight, Nat.shiftRight_eq_div_pow]
  omega

/-- The bytes of a word are those of one quad only. -/
theorem ipBytes_eq_iff {w : Word} {q : Fin 4 → Byte} : ipBytes w = q ↔ w = quadWord q := by
  have hquad : quadWord q = ipWord q := rfl
  rw [hquad]
  constructor
  · rintro rfl
    exact (ipWord_ipBytes w).symm
  · rintro rfl
    exact ipBytes_ipWord q

/-- A quad without leading zeros is read as it is, but for the two that stand for no
address. -/
theorem destinationRead_dottedQuad {env : RocEnv} {q : Fin 4 → Byte} :
    destinationRead env (dottedQuad q) = quadWord q ↔
      quadWord q ≠ 0xffffffff#32 ∧ (quadWord q = 0#32 → vtpRocInetAddr env.net = 0#32) := by
  have haddr : vtpRocInetAddr (dottedQuad q) =
      if quadWord q = 0xffffffff#32 then 0#32 else quadWord q := by
    rw [vtpRocInetAddr, inetAton_dottedQuad]
  have hnet : vtpRocInetAddr env.net ≠ 0xffffffff#32 := by
    rw [vtpRocInetAddr]
    split
    · decide
    · split
      · decide
      · assumption
  rw [destinationRead, haddr]
  by_cases hall : quadWord q = 0xffffffff#32
  · rw [if_pos hall, if_pos rfl, hall]
    simp [hnet]
  · rw [if_neg hall]
    by_cases hzero : quadWord q = 0#32
    · rw [if_pos hzero, hzero]
      simp
    · rw [if_neg hzero]
      simp [hall, hzero]

/-! ## The result -/

/-- The frame that prestart programs is the longest. -/
theorem longest_frame_iff {frameLen : Int} (h : 1025 ≤ frameLen ∧ frameLen ≤ 65536) :
    65536 = frameNs frameLen ↔ 65505 ≤ frameLen := by
  rw [frameNs]
  omega

section Board

variable {params : UserConfigParams} {q : Fin 4 → Byte} {enable : Fin 16 → Word} {env : RocEnv}
  {lib : VtpLib} {r : Regs}

/-- The first interface after `vtpDownloadAll`. -/
theorem tcpRegs_userEb (eb : StreamingEbCfg) (t : TcpipClientRegs) :
    (tcpRegs (userEb params eb) t).addresses =
      { ipaddr := params.vtpStreamingIpaddr
        subnet := params.vtpStreamingSubnet
        gateway := params.vtpStreamingGateway
        mac := params.vtpStreamingMac } := by
  simp only [TcpipClientRegs.addresses, tcpRegs, tcpAddresses, ipBytes_ipWord, macBytes_macWords,
    userEb]

theorem connectedRegs_holds_iff {p : NetParams} {i : Fin 4} (huser : UserChoice params q)
    (hudp : p.netMode = 1#32) (hport : p.emuport = params.vtpStreamingDestipport) :
    InterfaceHolds params q i (connectedRegs p (NetLocals.advance
      { ipaddr := params.vtpStreamingIpaddr
        subnet := params.vtpStreamingSubnet
        gateway := params.vtpStreamingGateway
        mac := params.vtpStreamingMac } i)) ↔ p.emuip = quadWord q := by
  have hmode : p.netMode ≠ 0#32 := by
    rw [hudp]
    decide
  constructor
  · intro h
    have hdestip := h.destip
    simp only [connectedRegs, hmode, ne_eq, not_false_eq_true, if_true, ipBytes_ipWord] at hdestip
    exact ipBytes_eq_iff.mp hdestip
  · intro haddr
    constructor
    · simp only [connectedRegs, ipBytes_ipWord, NetLocals.advance]
    · simp only [connectedRegs, ipBytes_ipWord, NetLocals.advance]
    · simp only [connectedRegs, ipBytes_ipWord, NetLocals.advance]
    · simp only [connectedRegs, macBytes_macWords, NetLocals.advance]
    · simp only [connectedRegs, hmode, ne_eq, not_false_eq_true, if_true, ipBytes_ipWord]
      exact ipBytes_eq_iff.mpr haddr
    · simp only [connectedRegs, hmode, ne_eq, not_false_eq_true, if_true, portWord_lower]
      rw [hport, BitVec.toNat_setWidth]
      have hlegal := huser.destipport
      omega

/-- The parameters that the connections are made with. -/
theorem completeParams_generatedNet (huser : UserChoice params q) :
    (completeParams env (generatedNet params)).numConnections = params.vtpStreamingNstreams ∧
      (completeParams env (generatedNet params)).netMode = 1#32 ∧
      (completeParams env (generatedNet params)).emuip =
        destinationRead env params.vtpStreamingDestip ∧
      (completeParams env (generatedNet params)).emuport = params.vtpStreamingDestipport := by
  have hpositive : positive params.vtpStreamingNstreams = true := by
    have hstreams := huser.streams
    exact decide_eq_true (by omega)
  have hport : params.vtpStreamingDestipport ≠ 0#32 := by
    intro hzero
    have hlegal := huser.destipport
    rw [hzero] at hlegal
    exact absurd hlegal.1 (by decide)
  exact ⟨if_pos hpositive, rfl, rfl, if_neg hport⟩

/-- The frame length in the registers is the longest, whatever the user has asked for, and the
destination is what the readout list makes of the text. All else is as the user has it. -/
theorem user_reaches_board_iff {junk : Nat → Nat → Word} {userFile : Option (List Char)}
    {configDir peds path text : List Char} {rocname : RocName} {s : RocState}
    (hparse : parseUserConfig junk userFile initConfigParams = .ok params)
    (huser : UserChoice params q)
    (hgen : generateVtpConfig configDir rocname.name (some peds) params = some (path, text))
    (hvtp : OnVtp env rocname path text) (hboard : env.vtpInit s.regs = some (lib, r))
    (runs : lib.Runs vtpFwTypeFadcstream) (htype : (r.fwType 0).toInt = vtpFwTypeFadcstream) :
    ∃ out, rocPrestart env s = .done out ∧
      (BoardHolds params q out.state.regs ↔
        65505 ≤ params.vtpStreamingFramelen.toInt ∧
          destinationRead env params.vtpStreamingDestip = quadWord q) := by
  rcases generateVtpConfig_text hgen with ⟨slots, -, rfl⟩
  have henable := payloadEnable_isMask slots
  rcases rocPrestart_generated (parseUserConfig_destip hparse) henable hvtp hboard with
    ⟨code, conf, -, -, -, hconf, hrun⟩
  have hindex : params.vtpStreaming.toInt = (0 : Fin 2).val := by
    rw [huser.index]
    rfl
  have heb : conf.fadcStreaming.eb 0 =
      userEb params ((vtpInitGlobals s.conf).fadcStreaming.eb 0) := by
    rw [hconf 0 hindex]
    exact generatedConf_eb
  rcases @completeParams_generatedNet params q env huser with ⟨hcount, hudp, haddr, hport⟩
  let s' : RocState :=
    { s with
      conf := (vtpDownloadAll lib env.fpu conf env.uploadStack r).1
      regs := (vtpDownloadAll lib env.fpu conf env.uploadStack r).2 }
  have hnet : NetProgrammed env s'.regs (prestartBoard env lib (generatedNet params) s') :=
    prestartBoard_net s' runs (generatedNet_valid params)
  have hfirst : (s'.regs.tcpClient 0).addresses =
      { ipaddr := params.vtpStreamingIpaddr
        subnet := params.vtpStreamingSubnet
        gateway := params.vtpStreamingGateway
        mac := params.vtpStreamingMac } := by
    rcases @vtpDownloadAll_streaming lib env.fpu conf env.uploadStack r runs htype with ⟨-, hclient⟩
    show ((vtpDownloadAll lib env.fpu conf env.uploadStack r).2.tcpClient 0).addresses = _
    rw [hclient, update_self, heb, tcpRegs_userEb]
  have hparams : (prestartBoard env lib (generatedNet params) s').params =
      completeParams env (generatedNet params) := rfl
  have hprogrammed := rocPrestart_programmed hrun runs
  generalize hout : prestartBoard env lib (generatedNet params) s' = out at hrun hnet hparams hprogrammed
  refine ⟨out, hrun, ?_⟩
  have hstreams := hprogrammed.streams
  have hframe : ((ebFrame.get out.state.regs.streamingEb.ctrl).toNat : Int) * 32 + 32 = 65536 := by
    rw [hprogrammed.frame]
    rfl
  have hclients := hnet.clients
  rw [hparams, hcount] at hstreams hclients
  rw [hfirst] at hclients
  have hpos : 0 < params.vtpStreamingNstreams.toInt := by
    have hrange := huser.streams
    omega
  have hnat : params.vtpStreamingNstreams.toInt.toNat = params.vtpStreamingNstreams.toNat := by
    have hcases := BitVec.toInt_eq_toNat_cond params.vtpStreamingNstreams
    have hlt := params.vtpStreamingNstreams.isLt
    split at hcases <;> omega
  constructor
  · intro h
    have hlong := h.framelen
    rw [hframe, longest_frame_iff huser.framelen] at hlong
    have hsome : (0 : Fin 4).val < params.vtpStreamingNstreams.toNat := by
      show 0 < _
      omega
    have hinterface := h.interfaces 0 hsome
    rw [hclients 0 (by omega), connectedRegs_holds_iff huser hudp hport, haddr] at hinterface
    exact ⟨hlong, hinterface⟩
  · rintro ⟨hlong, hdest⟩
    constructor
    · rw [hstreams, ebNstreams_eq_iff hpos]
      exact huser.streams.2
    · rw [hframe, longest_frame_iff huser.framelen]
      exact hlong
    · intro i hi
      rw [hclients i (by omega), connectedRegs_holds_iff huser hudp hport, haddr]
      exact hdest

end Board

/-! ### Two configurations -/

def chosenFields (p : UserConfigParams) : Word × Word × List Char × Word × Word × Word :=
  (p.vtpStreaming, p.vtpStreamingNstreams, p.vtpStreamingDestip, p.vtpStreamingDestipport,
    p.vtpStreamingLocalport, p.vtpStreamingFramelen)

def shippedQuad : Fin 4 → Byte := ![129#8, 57#8, 177#8, 25#8]

/-- The shipped values with this frame length. -/
theorem userChoice_shipped {userText : List Char} {framelen : Word}
    (hparse : ((parseUserConfig (fun _ _ => 0#32) (some userText) initConfigParams).toOption.map
      chosenFields) = some (0#32, 1#32, "129.57.177.25".toList, 19522#32, 10001#32, framelen))
    (hframe : 1025 ≤ framelen.toInt ∧ framelen.toInt ≤ 65536) :
    ∃ params, parseUserConfig (fun _ _ => 0#32) (some userText) initConfigParams = .ok params ∧
      params.vtpStreamingDestip = "129.57.177.25".toList ∧
      params.vtpStreamingFramelen = framelen ∧ UserChoice params shippedQuad := by
  cases hresult : parseUserConfig (fun _ _ => 0#32) (some userText) initConfigParams with
  | error err =>
    rw [hresult] at hparse
    cases hparse
  | ok params =>
    rw [hresult] at hparse
    simp only [Except.toOption, Option.map_some, Option.some.injEq, chosenFields,
      Prod.mk.injEq] at hparse
    rcases hparse with ⟨hindex, hstreams, hdestip, hdestipport, hlocalport, hlength⟩
    refine ⟨params, rfl, hdestip, hlength, ?_⟩
    constructor
    · exact hindex
    · rw [hstreams]
      decide
    · rw [hdestip]
      exact dottedQuad_shipped
    · rw [hdestipport]
      decide
    · rw [hlocalport]
      decide
    · rw [hlength]
      exact hframe

theorem destinationRead_shipped (text : List Char) :
    destinationRead (roc1Env text) "129.57.177.25".toList = quadWord shippedQuad := by
  have htext : "129.57.177.25".toList = dottedQuad shippedQuad := by decide +kernel
  rw [htext, destinationRead_dottedQuad]
  exact ⟨by decide, fun h => absurd h (by decide)⟩

/-- A later line asks for half of the frame. -/
def halfFrameConfig : List Char := shippedConfig ++ "VTP_STREAMING_FRAMELEN    32768\n".toList

theorem chosenFields_parsed :
    ((parseUserConfig (fun _ _ => 0#32) (some shippedConfig) initConfigParams).toOption.map
      chosenFields) = some (0#32, 1#32, "129.57.177.25".toList, 19522#32, 10001#32, 65536#32) ∧
    ((parseUserConfig (fun _ _ => 0#32) (some halfFrameConfig) initConfigParams).toOption.map
      chosenFields) = some (0#32, 1#32, "129.57.177.25".toList, 19522#32, 10001#32, 32768#32) := by
  obtain ⟨ls, l, hshipped, hline, hparse⟩ : ∃ (ls : List (List Char)) (l : List Char),
      shippedConfig = (ls.flatMap fun l => l ++ ['\n']) ∧
      "VTP_STREAMING_FRAMELEN    32768\n".toList = l ∧
      ((parseUserConfig (fun _ _ => 0#32) (some (ls.flatMap fun l => l ++ ['\n']))
        initConfigParams).toOption.map chosenFields) =
          some (0#32, 1#32, "129.57.177.25".toList, 19522#32, 10001#32, 65536#32) ∧
      ((parseUserConfig (fun _ _ => 0#32) (some ((ls.flatMap fun l => l ++ ['\n']) ++ l))
        initConfigParams).toOption.map chosenFields) =
          some (0#32, 1#32, "129.57.177.25".toList, 19522#32, 10001#32, 32768#32) := by
    apply Exists.intro
    apply Exists.intro
    refine ⟨?_, literal rfl, ?_, ?_⟩
    · apply flatMap_literal
      repeat' first | exact rfl | apply List.Forall₂.cons | exact List.Forall₂.nil
    · decide +kernel
    · decide +kernel
  rw [halfFrameConfig, hshipped, hline]
  exact hparse

/-- The shipped configuration asks for the longest frame. -/
theorem shipped_reaches_board :
    ∃ params path text out,
      parseUserConfig (fun _ _ => 0#32) (some shippedConfig) initConfigParams = .ok params ∧
      UserChoice params shippedQuad ∧
      generateVtpConfig "/cfg".toList "roc1".toList (some onePedestal) params = some (path, text) ∧
      rocPrestart (roc1Env text) streamingState = .done out ∧
      BoardHolds params shippedQuad out.state.regs := by
  rcases userChoice_shipped chosenFields_parsed.1 (by decide) with
    ⟨params, hparse, hdestip, hlength, huser⟩
  have hgen : ∃ text, generateVtpConfig "/cfg".toList rocname1.name (some onePedestal) params =
      some ("/cfg/vtp_roc1.cnf".toList, text) := ⟨_, rfl⟩
  rcases hgen with ⟨text, hgen⟩
  rcases @user_reaches_board_iff _ _ (roc1Env text) streamingLib streamingRegs _ _ _ _ _ _ _
    streamingState hparse huser hgen (roc1Env_onVtp text) rfl ⟨rfl, rfl⟩ rfl with ⟨out, hrun, hiff⟩
  refine ⟨params, _, text, out, hparse, huser, hgen, hrun, hiff.mpr ⟨?_, ?_⟩⟩
  · rw [hlength]
    decide
  · rw [hdestip]
    exact destinationRead_shipped text

/-- The frame is 65536 ns all the same. -/
theorem half_frame_lost :
    ∃ params path text out,
      parseUserConfig (fun _ _ => 0#32) (some halfFrameConfig) initConfigParams = .ok params ∧
      UserChoice params shippedQuad ∧ params.vtpStreamingFramelen = 32768#32 ∧
      generateVtpConfig "/cfg".toList "roc1".toList (some onePedestal) params = some (path, text) ∧
      rocPrestart (roc1Env text) streamingState = .done out ∧
      ebFrame.get out.state.regs.streamingEb.ctrl = 2047#32 ∧
      ¬BoardHolds params shippedQuad out.state.regs := by
  rcases userChoice_shipped chosenFields_parsed.2 (by decide) with
    ⟨params, hparse, -, hlength, huser⟩
  have hgen : ∃ text, generateVtpConfig "/cfg".toList rocname1.name (some onePedestal) params =
      some ("/cfg/vtp_roc1.cnf".toList, text) := ⟨_, rfl⟩
  rcases hgen with ⟨text, hgen⟩
  rcases generateVtpConfig_text hgen with ⟨slots, -, htext⟩
  have hvtp : OnVtp (roc1Env text) rocname1 "/cfg/vtp_roc1.cnf".toList
      (generatedText rocname1.name (payloadEnable slots) params) := by
    rw [← htext]
    exact roc1Env_onVtp text
  have hinit : (roc1Env text).vtpInit streamingState.regs = some (streamingLib, streamingRegs) := rfl
  rcases rocPrestart_generated (parseUserConfig_destip hparse) (payloadEnable_isMask slots)
    hvtp hinit with ⟨code, conf, -, -, -, -, hrun⟩
  have hframe := (rocPrestart_programmed hrun ⟨rfl, rfl⟩).frame
  generalize prestartBoard _ _ _ _ = out at hrun hframe
  refine ⟨params, _, text, out, hparse, huser, hlength, hgen, hrun, hframe, fun h => ?_⟩
  have hlong := h.framelen
  rw [hframe, hlength] at hlong
  exact absurd hlong (by decide)

end VtpStreaming
