import VtpStreaming.ConfigPath
import VtpStreaming.DownloadAll
import VtpStreaming.InitGlobals
import VtpStreaming.ReadAll

/-!
# Prestart

`rol/vtp_stream3_1udp_vg.c`, `rocPrestart`: the readout list brings the board up,
reads the generated configuration, programs the event builder and opens a
connection for each stream.

What it prints is left out, and so is `VTPflag`.
-/

namespace VtpStreaming

open Clib Function VtpLib

/-! ## The readout list -/

/-- What the readout list keeps from one call to the next: the board, `vtpConf`,
`ppInfo` and `emuData`. -/
structure RocState where
  regs : Regs
  conf : VtpConf
  ppInfo : PpInfo
  emuData : Fin 8 → Word

/-- The addresses of `rocPrestart` on its stack. -/
structure NetLocals where
  ipaddr : Fin 4 → Byte
  subnet : Fin 4 → Byte
  gateway : Fin 4 → Byte
  mac : Fin 6 → Byte

/-- What one call finds. `vtpInit` brings up the clock and the links and reads the
firmware types, and what it leaves in the registers is not described. `EV_PRESTART`
is a constant of CODA, and `net`, `port`, `runNumber` and `runType` are fields of
`rol`. -/
structure RocEnv where
  vtpInit : Regs → Option (VtpLib × Regs)
  fpu : FloatUnit
  codaConfig : List Char
  config : ConfigEnv
  configStack : ConfigStack
  uploadStack : Word
  netStack : NetLocals
  rocid : Word
  net : List Char
  port : Word
  runNumber : Word
  runType : Word
  evPrestart : Word

/-! ## Payload ports -/

/-- The variables of the loop over the payloads. -/
structure PayloadScan where
  ppInfo : PpInfo
  ppmask : Word
  activeCount : Nat

/-- One payload that is enabled. The mask that comes back is that of every port with a
module. -/
def enablePayload (payloadNum : Nat) (s : PayloadScan) : PayloadScan :=
  let (maskResult, ppInfo) :=
    (vtpPayloadConfig payloadNum s.ppInfo 1#32 1#32 0#32 1#32).getD
      (BitVec.ofInt 32 error, s.ppInfo)
  { ppInfo := ppInfo, ppmask := s.ppmask ||| maskResult, activeCount := s.activeCount + 1 }

/-- The loop ends early once the count has gone past 8. -/
def payloadLoop (payloadEn : Fin 16 → Word) : List (Fin 16) → PayloadScan → PayloadScan
  | [], s => s
  | n :: ns, s =>
      if payloadEn n = 1#32 then
        let s := enablePayload (n + 1) s
        if 8 < s.activeCount then s else payloadLoop payloadEn ns s
      else payloadLoop payloadEn ns s

def configurePayloads (payloadEn : Fin 16 → Word) (ppInfo : PpInfo) : PayloadScan :=
  payloadLoop payloadEn (List.finRange 16) { ppInfo := ppInfo, ppmask := 0#32, activeCount := 0 }

/-! ## The event builder -/

def strebCmsgHdrEn : Word := 0x08#32
def strebAsyncFifoEn : Word := 0x40#32
def strebEjfatEn : Word := 0x100#32

section

variable (env : RocEnv) (lib : VtpLib) (p : NetParams)

/-- cMsg headers are for TCP, EJFAT headers for UDP. -/
def selectHeaders (r : Regs) : Regs :=
  if p.netMode = 0#32 then r
  else
    let r := call (vtpStreamingEbDisable strebCmsgHdrEn) r
    if p.enableEjfat = 0#32 then r else call (vtpStreamingEbEnable strebEjfatEn) r

def configureEb (ppmask : Word) (ppInfo : PpInfo) (r : Regs) : Regs :=
  r |> call (lib.vtpStreamingSetEbCfg ppmask p.numConnections 0xffff#32 env.rocid (some ppInfo))
    |> selectHeaders p
    |> call (vtpStreamingEbEnable strebAsyncFifoEn)
    |> call lib.vtpStreamingMigReset
    |> call (lib.vtpStreamingEbioReset p.netMode)

/-! ## The connections -/

/-- The variables of the loop over the connections. `connected` lists the instances
that both `vtpStreamingSetNetCfg` and `vtpStreamingTcpConnect` returned OK for. -/
structure ConnectState where
  regs : Regs
  addrs : NetLocals
  connected : List Nat

/-- `vtpStreamingGetNetCfg` into the variables. A call that is refused stores nothing. -/
def readAddresses (inst : Nat) (r : Regs) (addrs : NetLocals) : NetLocals :=
  match lib.vtpStreamingGetNetCfg inst r with
  | none => addrs
  | some cfg =>
      { ipaddr := cfg.ipaddr, subnet := cfg.subnet, gateway := cfg.gateway, mac := cfg.mac }

/-- The next address, in one byte. -/
def NetLocals.next (addrs : NetLocals) : NetLocals :=
  { addrs with
    ipaddr := update addrs.ipaddr 3 (addrs.ipaddr 3 + 1#8)
    mac := update addrs.mac 4 (addrs.mac 4 + 1#8) }

def connectInst (inst : Nat) (s : ConnectState) : ConnectState :=
  let addrs := if 0 < inst then s.addrs.next else s.addrs
  let configured := lib.vtpStreamingSetNetCfg inst p.netMode addrs.ipaddr addrs.subnet
    addrs.gateway addrs.mac (ipBytes p.emuip) (p.emuport.setWidth 16)
    (p.localPort.setWidth 16) s.regs
  let r := configured.getD s.regs
  let addrs := readAddresses lib inst r addrs
  let connected := lib.vtpStreamingTcpConnect inst (p.netMode.toInt + 1) [] r
  { regs := connected.getD r
    addrs := addrs
    connected := if configured.isSome && connected.isSome then s.connected ++ [inst]
      else s.connected }

def connectAll (n : Nat) (r : Regs) : ConnectState :=
  (List.range n).foldl (fun s inst => connectInst lib p inst s)
    { regs := r, addrs := readAddresses lib 0 r env.netStack, connected := [] }

def prestartEvents (n : Nat) (r : Regs) : Regs :=
  (List.range n).foldl (fun r ii =>
    call (lib.vtpStreamingEvioWriteControl ii env.evPrestart env.runNumber env.runType) r) r

/-- The destination that the configuration does not give is that of the ROC link. The
local port is one more on UDP. -/
def completeParams : NetParams :=
  { p with
    emuip := if p.emuip = 0#32 then vtpRocInetAddr env.net else p.emuip
    emuport := if p.emuport = 0#32 then env.port else p.emuport
    localPort := p.localPort + p.netMode }

end

/-! ## The function -/

/-- What a prestart that runs to its end has done. -/
structure Prestarted where
  lib : VtpLib
  params : NetParams
  ppmask : Word
  connected : List Nat
  state : RocState

/-- `refused` is a return with an error message. -/
inductive PrestartResult
  | refused (s : RocState)
  | done (out : Prestarted)
  | hangs
  | faults

/-- The checks of `numConnections`, `localport` and `netMode`. -/
def NetParams.valid (p : NetParams) : Bool :=
  p.numConnections ≠ 0#32 && p.localPort ≠ 0#32 && (p.netMode = 0#32 || p.netMode = 1#32)

/-- From the checked parameters on. -/
def prestartBoard (env : RocEnv) (lib : VtpLib) (p : NetParams) (s : RocState) : Prestarted :=
  let p := completeParams env p
  let scan := configurePayloads s.conf.streaming.payloadEnArray s.ppInfo
  let n := p.numConnections.toInt.toNat
  let r := configureEb env lib p scan.ppmask scan.ppInfo s.regs
  let conn := connectAll env lib p n r
  { lib := lib
    params := p
    ppmask := scan.ppmask
    connected := conn.connected
    state :=
      { regs := prestartEvents env lib n conn.regs
        conf := s.conf
        ppInfo := scan.ppInfo
        emuData := update (update s.emuData 4 env.rocid) 6 p.numConnections } }

def noParams : NetParams := ⟨0#32, 0#32, 0#32, 0#32, 0#32, 0#32⟩

/-- `vtpInitGlobals`, `vtpConfig` and `vtp_read_all_from_cfg` on one file. -/
def prestartFrom (env : RocEnv) (lib : VtpLib) (path : List Char) (s : RocState) :
    PrestartResult :=
  match vtpReadConfigFile env.config env.configStack path (vtpInitGlobals s.conf) with
  | .hangs => .hangs
  | .faults => .faults
  | .returned _ conf =>
      let (conf, r) := vtpDownloadAll lib env.fpu conf env.uploadStack s.regs
      let s := { s with conf := conf, regs := r }
      let p := vtpReadAllFromCfg env.config.files (some path) noParams
      if p.valid then .done (prestartBoard env lib p s) else .refused s

def rocPrestart (env : RocEnv) (s : RocState) : PrestartResult :=
  match env.vtpInit s.regs with
  | none => .refused s
  | some (lib, r) =>
      let s := { s with regs := r }
      match vtpGetGeneratedConfigPath env.codaConfig env.config.hostname 512 with
      | none => .refused s
      | some path =>
          if (env.config.files path).isNone then .refused s else prestartFrom env lib path s

end VtpStreaming
