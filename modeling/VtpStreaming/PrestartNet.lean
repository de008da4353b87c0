import VtpStreaming.DownloadTwice
import VtpStreaming.PrestartEb

/-!
# The network interfaces after prestart

`vtpDownloadAll` programs the first interface, and prestart takes the addresses of the
others from it. Each connection gets the next address.
-/

namespace VtpStreaming

open Clib Function VtpLib

section

variable {env : RocEnv} {lib : VtpLib} {p : NetParams}

/-! ## The first interface -/

theorem writeMasks_streaming (runs : lib.Runs vtpFwTypeFadcstream) (fiberMask ppMask : Word)
    (r : Regs) : lib.writeFiberMask fiberMask (lib.writePayloadMask ppMask r) = r := by
  have hnone : vtpFwTypeFadcstream ∉ fadcDecTypes ∧ vtpFwTypeFadcstream ≠ vtpFwTypeGt ∧
      vtpFwTypeFadcstream ≠ vtpFwTypeDc ∧ vtpFwTypeFadcstream ≠ vtpFwTypeHcal ∧
      vtpFwTypeFadcstream ≠ vtpFwTypeFtcal := by decide
  rcases hnone with ⟨hfadc, hgt, hdc, hhcal, hftcal⟩
  rw [writePayloadMask, runs.fwType, if_neg hfadc, if_neg hgt, if_neg hdc, if_neg hhcal,
    if_neg hftcal, writeFiberMask, runs.fwType, if_neg hftcal, if_neg hdc]

/-- What `vtpDownloadAll` leaves of the streaming part. -/
theorem vtpDownloadAll_streaming {fpu : FloatUnit} {conf : VtpConf} {stack : Word} {r : Regs}
    (runs : lib.Runs vtpFwTypeFadcstream) (htype : (r.fwType 0).toInt = vtpFwTypeFadcstream) :
    (vtpDownloadAll lib fpu conf stack r).2.streamingEb =
        ebRegs conf.payloadEn conf.fadcStreaming r.streamingEb ∧
      (vtpDownloadAll lib fpu conf stack r).2.tcpClient =
        update r.tcpClient 0 (tcpRegs (conf.fadcStreaming.eb 0) (r.tcpClient 0)) := by
  have hfirmware : uploadFirmware lib r conf =
      { conf with fwRev := r.fwVersion, fwType := r.fwType } := if_pos runs.mapped
  have hconf : ((uploadFirmware lib r conf).fwType 0).toInt = vtpFwTypeFadcstream := by
    rw [hfirmware]
    exact htype
  have hblock (c : VtpConf) : blockOf lib fpu vtpFwTypeFadcstream c = downloadFadcstream lib c := rfl
  have hregs : (vtpDownloadAll lib fpu conf stack r).2 =
      downloadFadcstream lib (uploadFirmware lib r conf)
        (downloadCommon lib (uploadFirmware lib r conf) r) := by
    rw [← hblock, ← downloadBlocks_eq hconf]
    rfl
  rw [hregs, downloadFadcstream_eq _ _ runs, downloadCommon_eq _ _ runs, writeMasks_streaming runs,
    hfirmware]
  exact ⟨rfl, rfl⟩

/-! ## Addresses -/

/-- The addresses `k` connections further. -/
def NetLocals.advance (addrs : NetLocals) (k : Nat) : NetLocals :=
  { addrs with
    ipaddr := update addrs.ipaddr 3 (addrs.ipaddr 3 + BitVec.ofNat 8 k)
    mac := update addrs.mac 4 (addrs.mac 4 + BitVec.ofNat 8 k) }

theorem NetLocals.advance_zero (addrs : NetLocals) : addrs.advance 0 = addrs := by
  rw [NetLocals.advance, BitVec.add_zero, BitVec.add_zero, update_eq_self, update_eq_self]

theorem NetLocals.advance_next (addrs : NetLocals) (k : Nat) :
    (addrs.advance k).next = addrs.advance (k + 1) := by
  simp only [NetLocals.advance, NetLocals.next, update_self, update_idem, BitVec.ofNat_add,
    BitVec.add_assoc]

/-- The addresses of an interface. -/
def TcpipClientRegs.addresses (t : TcpipClientRegs) : NetLocals where
  ipaddr := ipBytes t.ip4Addr
  subnet := ipBytes t.ip4SubnetMask
  gateway := ipBytes t.ip4GatewayAddr
  mac := macBytes t.macAddr

theorem readAddresses_eq (runs : lib.Runs vtpFwTypeFadcstream) (inst : Fin 4) (r : Regs)
    (addrs : NetLocals) :
    readAddresses lib inst r addrs = (r.tcpClient inst).addresses := by
  rw [readAddresses, vtpStreamingGetNetCfg, runs.onInst inst.isLt]
  rfl

/-! ## One connection -/

/-- An interface once it has been connected. -/
def connectedRegs (p : NetParams) (addrs : NetLocals) : TcpipClientRegs where
  ctrl := 0x13c0#32
  mtu := if p.netMode ≠ 0#32 then 8000#32 else 1500#32
  ip4Addr := ipWord addrs.ipaddr
  ip4SubnetMask := ipWord addrs.subnet
  ip4GatewayAddr := ipWord addrs.gateway
  ip4StateRequest := 1#32
  macAddr := macWords addrs.mac
  udpDestAddr := if p.netMode ≠ 0#32 then ipWord (ipBytes p.emuip) else 0#32
  udpPort := portWord (localportOf (p.localPort.setWidth 16) + 1#16)
    (if p.netMode ≠ 0#32 then p.emuport.setWidth 16 else 0#16)
  tcpDestAddr := if p.netMode ≠ 0#32 then 0#32 else ipWord (ipBytes p.emuip)
  tcpPort := portWord (localportOf (p.localPort.setWidth 16))
    (if p.netMode ≠ 0#32 then 0#16 else p.emuport.setWidth 16)

/-- What was read back is what was written. -/
theorem connectedRegs_addresses (addrs : NetLocals) :
    (connectedRegs p addrs).addresses = addrs := by
  simp only [TcpipClientRegs.addresses, connectedRegs, ipBytes_ipWord, macBytes_macWords]

/-- What `vtpStreamingSetNetCfg` leaves of an interface. -/
def netRegs (p : NetParams) (addrs : NetLocals) (t : TcpipClientRegs) : TcpipClientRegs :=
  { connectedRegs p addrs with ctrl := t.ctrl, ip4StateRequest := 0#32 }

theorem setNetCfg_eq (runs : lib.Runs vtpFwTypeFadcstream) (inst : Fin 4) (addrs : NetLocals)
    (r : Regs) :
    lib.vtpStreamingSetNetCfg inst p.netMode addrs.ipaddr addrs.subnet addrs.gateway addrs.mac
        (ipBytes p.emuip) (p.emuport.setWidth 16) (p.localPort.setWidth 16) r =
      some (setTcpClient inst (netRegs p addrs) r) := by
  rw [vtpStreamingSetNetCfg, runs.onInst inst.isLt]
  congr 2
  funext t
  simp only [netRegs, connectedRegs, tcpAddresses]
  rcases eq_or_ne p.netMode 0#32 with htcp | hudp
  · simp only [htcp, ne_eq, not_true_eq_false, if_false]
  · simp only [hudp, ne_eq, not_false_eq_true, if_true]

/-- What `vtpStreamingTcpConnect` writes without data. -/
def openConnection (inst : Fin 4) (r : Regs) : Regs :=
  { setTcpClient inst (fun t => { t with ctrl := 0x13c0#32, ip4StateRequest := 1#32 }) r with
    streamingEb :=
      { r.streamingEb with
        ctrl := (r.streamingEb.ctrl ||| 0x80000000#32) &&& 0x7fffffff#32
        ctrl3 := asyncPort inst r.streamingEb.ctrl3 } }

theorem tcpConnect_eq (runs : lib.Runs vtpFwTypeFadcstream) (inst : Fin 4) {connect : Int}
    (opens : 0 < connect) (r : Regs) :
    lib.vtpStreamingTcpConnect inst connect [] r = some (openConnection inst r) := by
  rw [vtpStreamingTcpConnect, runs.onInst inst.isLt, if_pos opens]
  rfl

/-- The fifos of the events have what they had. -/
structure SameEvents (r r' : Regs) : Prop where
  data : r'.streamingEb.cpuAsyncEventData = r.streamingEb.cpuAsyncEventData
  info : r'.streamingEb.cpuAsyncEventInfo = r.streamingEb.cpuAsyncEventInfo

theorem SameEvents.trans {r r' r'' : Regs} (h : SameEvents r r') (h' : SameEvents r' r'') :
    SameEvents r r'' := ⟨h'.data.trans h.data, h'.info.trans h.info⟩

/-- The addresses that a connection is given. -/
def connectAddrs (inst : Nat) (s : ConnectState) : NetLocals :=
  if 0 < inst then s.addrs.next else s.addrs

theorem connectInst_eq (runs : lib.Runs vtpFwTypeFadcstream) (hmode : 0 ≤ p.netMode.toInt)
    (inst : Fin 4) (s : ConnectState) :
    connectInst lib p inst s =
      { regs := openConnection inst (setTcpClient inst (netRegs p (connectAddrs inst s)) s.regs)
        addrs := connectAddrs inst s
        connected := s.connected ++ [inst.val] } := by
  have hopens : 0 < p.netMode.toInt + 1 := by omega
  have hback (addrs : NetLocals) (t : TcpipClientRegs) : (netRegs p addrs t).addresses = addrs :=
    @connectedRegs_addresses p addrs
  rw [connectInst, ← connectAddrs, setNetCfg_eq runs, Option.getD_some,
    tcpConnect_eq runs inst hopens,
    readAddresses_eq runs, setTcpClient_self, hback]
  rfl

/-- The interface after its connection. -/
theorem openConnection_client (inst : Fin 4) (addrs : NetLocals) (r : Regs) :
    (openConnection inst (setTcpClient inst (netRegs p addrs) r)).tcpClient =
      update r.tcpClient inst (connectedRegs p addrs) := by
  simp only [openConnection, setTcpClient, update_self, update_idem]
  rfl

/-- An interface that the board does not have. -/
theorem connectInst_refused {inst : Nat} (hinst : 4 ≤ inst) (s : ConnectState) :
    (connectInst lib p inst s).connected = s.connected ∧
      (connectInst lib p inst s).regs = s.regs := by
  have hlt : ¬inst < 4 := by omega
  have hnone : ∀ {α : Type} (f : Fin 4 → Regs → α) (r : Regs), lib.onInst inst f r = none := by
    intro α f r
    rw [onInst, dif_neg hlt, ite_self]
  simp only [connectInst, vtpStreamingSetNetCfg, vtpStreamingTcpConnect, hnone, Option.getD_none,
    Option.isSome_none, Bool.false_and, Bool.false_eq_true, if_false, and_self]

/-! ## All connections -/

/-- After the first `n` connections. -/
structure Connected (p : NetParams) (base : NetLocals) (r : Regs) (n : Nat) (s : ConnectState) :
    Prop where
  connected : s.connected = List.range (min n 4)
  clients : ∀ i : Fin 4, i.val < n → s.regs.tcpClient i = connectedRegs p (base.advance i)
  addrs : n ≤ 4 → s.addrs = base.advance (n - 1)
  events : SameEvents r s.regs
  link : s.regs.ebiorx = r.ebiorx

theorem Connected.step {base : NetLocals} {r : Regs} {n : Nat} {s : ConnectState}
    (runs : lib.Runs vtpFwTypeFadcstream) (hmode : 0 ≤ p.netMode.toInt)
    (h : Connected p base r n s) : Connected p base r (n + 1) (connectInst lib p n s) := by
  rcases lt_or_ge n 4 with hn | hn
  · have haddrs : connectAddrs n s = base.advance n := by
      rw [connectAddrs, h.addrs hn.le]
      cases n with
      | zero => rfl
      | succ n =>
        rw [if_pos (Nat.succ_pos n)]
        exact NetLocals.advance_next base n
    have hstep := connectInst_eq runs hmode ⟨n, hn⟩ s
    dsimp only at hstep
    rw [haddrs] at hstep
    rw [hstep]
    constructor
    · rw [h.connected, Nat.min_eq_left hn.le, Nat.min_eq_left (Nat.succ_le_of_lt hn),
        List.range_succ]
    · intro i hi
      dsimp only
      rw [openConnection_client]
      by_cases hlast : i = ⟨n, hn⟩
      · rw [hlast, update_self]
      · rw [update_of_ne hlast]
        refine h.clients i ?_
        have hne : i.val ≠ n := fun heq => hlast (Fin.ext heq)
        omega
    · exact fun _ => rfl
    · exact h.events.trans ⟨rfl, rfl⟩
    · exact h.link
  · rcases @connectInst_refused lib p n hn s with ⟨hconnected, hregs⟩
    constructor
    · rw [hconnected, h.connected, Nat.min_eq_right hn, Nat.min_eq_right (by omega)]
    · intro i _
      rw [hregs]
      exact h.clients i (lt_of_lt_of_le i.isLt hn)
    · intro hle
      omega
    · rw [hregs]
      exact h.events
    · rw [hregs]
      exact h.link

theorem connectAll_connected (runs : lib.Runs vtpFwTypeFadcstream) (hmode : 0 ≤ p.netMode.toInt)
    (n : Nat) (r : Regs) :
    Connected p (r.tcpClient 0).addresses r n (connectAll env lib p n r) := by
  induction n with
  | zero =>
    have hbase := readAddresses_eq runs 0 r env.netStack
    exact
      { connected := rfl
        clients := nofun
        addrs := fun _ => hbase.trans (NetLocals.advance_zero _).symm
        events := ⟨rfl, rfl⟩
        link := rfl }
  | succ n ih =>
    rw [connectAll, List.range_succ, List.foldl_append]
    exact ih.step runs hmode

/-! ## The events -/

/-- `n` more events of these words. -/
structure MoreEvents (event : List Word) (length : Word) (n : Nat) (r r' : Regs) : Prop where
  data : r'.streamingEb.cpuAsyncEventData =
    r.streamingEb.cpuAsyncEventData ++ (List.replicate n event).flatten
  info : r'.streamingEb.cpuAsyncEventInfo =
    r.streamingEb.cpuAsyncEventInfo ++ List.replicate n length

/-- The event that prestart writes to each stream. -/
def prestartEvent (env : RocEnv) (r : Regs) : List Word :=
  controlEvent ((r.ebiorx 0).getLsbD 8) r.streamingEb.rocid env.evPrestart env.runNumber env.runType

/-- Its length, for the fifo. -/
def prestartLength (r : Regs) : Word := if (r.ebiorx 0).getLsbD 8 then 13#32 else 15#32

theorem prestartEvents_spec (runs : lib.Runs vtpFwTypeFadcstream) (n : Nat) (r : Regs) :
    MoreEvents (prestartEvent env r) (prestartLength r) (min n 4) r (prestartEvents env lib n r) ∧
      (prestartEvents env lib n r).tcpClient = r.tcpClient ∧
      (prestartEvents env lib n r).streamingEb.rocid = r.streamingEb.rocid ∧
      (prestartEvents env lib n r).ebiorx = r.ebiorx := by
  induction n with
  | zero => exact ⟨⟨(List.append_nil _).symm, (List.append_nil _).symm⟩, rfl, rfl, rfl⟩
  | succ n ih =>
    rcases ih with ⟨hmore, hclient, hrocid, hlink⟩
    have hstep : prestartEvents env lib (n + 1) r =
        call (lib.vtpStreamingEvioWriteControl n env.evPrestart env.runNumber env.runType)
          (prestartEvents env lib n r) := by
      rw [prestartEvents, List.range_succ, List.foldl_append]
      rfl
    rw [hstep, vtpStreamingEvioWriteControl]
    rcases lt_or_ge n 4 with hn | hn
    · rw [runs.call_onInst hn, Nat.min_eq_left (Nat.succ_le_of_lt hn)]
      rw [Nat.min_eq_left hn.le] at hmore
      refine ⟨⟨?_, ?_⟩, hclient, hrocid, hlink⟩
      · dsimp only
        rw [hmore.data, hrocid, hlink, List.replicate_succ', List.flatten_append,
          List.flatten_singleton, List.append_assoc]
        rfl
      · dsimp only
        rw [hmore.info, hlink, List.replicate_succ', List.append_assoc]
        rfl
    · rw [call_onInst_refused (by omega), Nat.min_eq_right (by omega)]
      rw [Nat.min_eq_right hn] at hmore
      exact ⟨hmore, hclient, hrocid, hlink⟩

/-- Seen from before the connections, and with the registers as they are at the end. -/
theorem MoreEvents.after {n : Nat} {r₀ r r' : Regs} (hbefore : SameEvents r₀ r)
    (hrocid : r'.streamingEb.rocid = r.streamingEb.rocid) (hlink : r'.ebiorx = r.ebiorx)
    (h : MoreEvents (prestartEvent env r) (prestartLength r) n r r') :
    MoreEvents (prestartEvent env r') (prestartLength r') n r₀ r' := by
  have hevent : prestartEvent env r' = prestartEvent env r := by
    rw [prestartEvent, hrocid, hlink, prestartEvent]
  have hlength : prestartLength r' = prestartLength r := by
    rw [prestartLength, hlink, prestartLength]
  rw [hevent, hlength]
  exact ⟨h.data.trans (congrArg (· ++ _) hbefore.data), h.info.trans (congrArg (· ++ _) hbefore.info)⟩

/-! ## The stages before -/

/-- A stage that leaves the interfaces and the fifos alone. -/
structure Beside (r r' : Regs) : Prop where
  client : r'.tcpClient = r.tcpClient
  events : SameEvents r r'

theorem Beside.trans {r r' r'' : Regs} (h : Beside r r') (h' : Beside r' r'') : Beside r r'' :=
  ⟨h'.client.trans h.client, h.events.trans h'.events⟩

theorem ebEnable_beside (mask : Word) (r : Regs) : Beside r
    (call (vtpStreamingEbEnable mask) r) := by
  rw [call, vtpStreamingEbEnable]
  split
  · exact ⟨rfl, rfl, rfl⟩
  · exact ⟨rfl, rfl, rfl⟩

theorem ebDisable_beside (dmask : Word) (r : Regs) :
    Beside r (call (vtpStreamingEbDisable dmask) r) := by
  rw [call, vtpStreamingEbDisable]
  split
  · exact ⟨rfl, rfl, rfl⟩
  · exact ⟨rfl, rfl, rfl⟩

theorem selectHeaders_beside (p : NetParams) (r : Regs) : Beside r (selectHeaders p r) := by
  rw [selectHeaders]
  split
  · exact ⟨rfl, rfl, rfl⟩
  · have hdisable := ebDisable_beside strebCmsgHdrEn r
    split
    · exact hdisable
    · exact hdisable.trans (ebEnable_beside strebEjfatEn _)

theorem setEbCfg_beside (runs : lib.Runs vtpFwTypeFadcstream)
    (mask nstreams frameLen rocId : Word) (ppInfo : Option PpInfo) (r : Regs) :
    Beside r (call (lib.vtpStreamingSetEbCfg mask nstreams frameLen rocId ppInfo) r) := by
  rw [vtpStreamingSetEbCfg, runs.call_onTypes (List.mem_singleton_self _)]
  exact ⟨rfl, rfl, rfl⟩

theorem configureEb_spec (runs : lib.Runs vtpFwTypeFadcstream) (ppmask : Word) (ppInfo : PpInfo)
    (r : Regs) :
    Beside r (configureEb env lib p ppmask ppInfo r) ∧
      ((configureEb env lib p ppmask ppInfo r).ebiorx 0).getLsbD 8 = decide (p.netMode ≠ 0#32) := by
  have hstart : Beside r (call (vtpStreamingEbEnable strebAsyncFifoEn) (selectHeaders p
      (call (lib.vtpStreamingSetEbCfg ppmask p.numConnections 0xffff#32 env.rocid (some ppInfo)) r))) :=
    ((setEbCfg_beside runs _ _ _ _ _ r).trans (selectHeaders_beside p _)).trans (ebEnable_beside _ _)
  rw [configureEb, vtpStreamingMigReset, vtpStreamingEbioReset, runs.call_onInit, runs.call_onInit]
  constructor
  · exact hstart.trans ⟨rfl, rfl, rfl⟩
  · dsimp only
    rcases eq_or_ne p.netMode 0#32 with htcp | hudp
    · rw [if_pos htcp, htcp]
      decide
    · rw [if_neg hudp, decide_eq_true hudp]
      decide

/-! ## The whole of prestart -/

/-- The interfaces and the events that a prestart leaves. -/
structure NetProgrammed (env : RocEnv) (r : Regs) (out : Prestarted) : Prop where
  connected : out.connected = List.range (min out.params.numConnections.toInt.toNat 4)
  clients : ∀ i : Fin 4, i.val < out.params.numConnections.toInt.toNat →
    out.state.regs.tcpClient i =
      connectedRegs out.params ((r.tcpClient 0).addresses.advance i)
  events : MoreEvents (prestartEvent env out.state.regs) (prestartLength out.state.regs)
    (min out.params.numConnections.toInt.toNat 4) r out.state.regs
  link : (out.state.regs.ebiorx 0).getLsbD 8 = decide (out.params.netMode ≠ 0#32)
  connections : out.state.emuData 6 = out.params.numConnections

theorem prestartBoard_net (s : RocState) (runs : lib.Runs vtpFwTypeFadcstream) (hvalid : p.valid) :
    NetProgrammed env s.regs (prestartBoard env lib p s) := by
  have hmode : 0 ≤ (completeParams env p).netMode.toInt := mode_of_valid (p := p) hvalid
  let scan := configurePayloads s.conf.streaming.payloadEnArray s.ppInfo
  let n := p.numConnections.toInt.toNat
  rcases @configureEb_spec env lib (completeParams env p) runs scan.ppmask scan.ppInfo s.regs with
    ⟨hbeside, hlink⟩
  have hconn := @connectAll_connected env lib (completeParams env p) runs hmode n
    (configureEb env lib (completeParams env p) scan.ppmask scan.ppInfo s.regs)
  rw [hbeside.client] at hconn
  rcases @prestartEvents_spec env lib runs n (connectAll env lib (completeParams env p) n
    (configureEb env lib (completeParams env p) scan.ppmask scan.ppInfo s.regs)).regs with
    ⟨hmore, hclient, hrocid, hlinkEvents⟩
  have hevents := hbeside.events.trans hconn.events
  have hfinal := hlinkEvents.trans hconn.link
  constructor
  · exact hconn.connected
  · intro i hi
    exact (congrFun hclient i).trans (hconn.clients i hi)
  · exact hmore.after hevents hrocid hlinkEvents
  · exact (congrArg (fun link : Fin 2 → Word => (link 0).getLsbD 8) hfinal).trans hlink
  · have hdata : (prestartBoard env lib p s).state.emuData =
        update (update s.emuData 4 env.rocid) 6 p.numConnections := by
      rw [prestartBoard]
      rfl
    rw [hdata, update_self, prestartBoard]
    rfl

/-- The board that a prestart to its end has worked on. -/
theorem rocPrestart_board {s : RocState} {out : Prestarted} {r : Regs} {path : List Char}
    (h : rocPrestart env s = .done out) (hinit : env.vtpInit s.regs = some (lib, r))
    (hpath : vtpGetGeneratedConfigPath env.codaConfig env.config.hostname 512 = some path) :
    ∃ code conf, vtpReadConfigFile env.config env.configStack path (vtpInitGlobals s.conf) =
        .returned code conf ∧
      (vtpReadAllFromCfg env.config.files (some path) noParams).valid ∧
      out = prestartBoard env lib (vtpReadAllFromCfg env.config.files (some path) noParams)
        { s with
          conf := (vtpDownloadAll lib env.fpu conf env.uploadStack r).1
          regs := (vtpDownloadAll lib env.fpu conf env.uploadStack r).2 } := by
  rw [rocPrestart, hinit, hpath] at h
  dsimp only at h
  split at h
  · cases h
  · rw [prestartFrom] at h
    cases hread : vtpReadConfigFile env.config env.configStack path (vtpInitGlobals s.conf) with
    | hangs => rw [hread] at h; cases h
    | faults => rw [hread] at h; cases h
    | returned code conf =>
      rw [hread] at h
      dsimp only at h
      split at h
      · next hvalid =>
        cases h
        exact ⟨code, conf, rfl, hvalid, rfl⟩
      · cases h

end

end VtpStreaming
