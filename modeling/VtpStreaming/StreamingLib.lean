import Mathlib.Data.Fin.VecNotation
import VtpStreaming.Conf
import VtpStreaming.VtpLib

/-!
# The streaming part of the library

`vtp/vtpLib.c`, `vtpPayloadConfig` and the `vtpStreaming...` functions that
prepare and start a run.
-/

namespace VtpStreaming

open Clib Function

/-! ## Payload ports -/

/-- `PP_CONF`. -/
structure PpConf where
  moduleId : Word
  laneInfo : Word
  bankInfo : Word
  streamInfo : Word
deriving DecidableEq

abbrev PpInfo := Fin 16 → PpConf

/-- The lanes that a bank number is given for. -/
def laneMask (bank : Word) : Word :=
  (if bank &&& 0x03#32 = 0#32 then 0#32 else 0x0100#32) |||
    (if bank &&& 0x0300#32 = 0#32 then 0#32 else 0x0200#32) |||
    (if bank &&& 0x030000#32 = 0#32 then 0#32 else 0x0400#32) |||
    (if bank &&& 0x03000000#32 = 0#32 then 0#32 else 0x0800#32)

/-- The ports that have a module, bit by bit. -/
def configuredMask (ppc : PpInfo) : Word :=
  (List.finRange 16).foldl
    (fun ppMask ii => if (ppc ii).moduleId = 0#32 then ppMask else ppMask ||| (1#32 <<< ii.val)) 0#32

/-- The port counts from 1. What is returned is the mask of every port that has a
module by now. -/
def vtpPayloadConfig (port : Nat) (ppc : PpInfo) (module lag bank stream : Word) :
    Option (Word × PpInfo) :=
  if h : 1 ≤ port ∧ port ≤ 16 then
    if bank = 0#32 ∧ stream = 0#32 then none
    else
      let modMask := if lag = 0#32 then laneMask bank else 0#32
      let entry : PpConf :=
        { moduleId := module
          laneInfo := modMask ||| (lag &&& 0xff#32)
          bankInfo := bank
          streamInfo := if 0 < stream.toNat ∧ stream.toNat ≤ 4 then stream else 0#32 }
      let ppc := update ppc ⟨port - 1, by omega⟩ entry
      some (configuredMask ppc, ppc)
  else none

/-! ## Addresses -/

/-- Four bytes as a register holds them, the first on top. -/
def ipWord (b : Fin 4 → Byte) : Word :=
  ((b 0).setWidth 32 <<< 24) ||| ((b 1).setWidth 32 <<< 16) ||| ((b 2).setWidth 32 <<< 8) |||
    (b 3).setWidth 32

def ipBytes (val : Word) : Fin 4 → Byte :=
  ![(val >>> 24).setWidth 8, (val >>> 16).setWidth 8, (val >>> 8).setWidth 8, val.setWidth 8]

/-- `MAC_ADDR[1]` has the first two bytes and `MAC_ADDR[0]` the last four. -/
def macWords (mac : Fin 6 → Byte) : Fin 2 → Word :=
  ![ipWord ![mac 2, mac 3, mac 4, mac 5],
    ((mac 0).setWidth 32 <<< 8) ||| (mac 1).setWidth 32]

def macBytes (val : Fin 2 → Word) : Fin 6 → Byte :=
  ![(val 1 >>> 8).setWidth 8, (val 1).setWidth 8, (val 0 >>> 24).setWidth 8,
    (val 0 >>> 16).setWidth 8, (val 0 >>> 8).setWidth 8, (val 0).setWidth 8]

def portWord (localport destport : BitVec 16) : Word :=
  (localport.setWidth 32 <<< 16) ||| destport.setWidth 32

/-- What the network getters store through their pointers. -/
structure NetCfg where
  ipaddr : Fin 4 → Byte
  subnet : Fin 4 → Byte
  gateway : Fin 4 → Byte
  mac : Fin 6 → Byte
  udpaddr : Fin 4 → Byte
  tcpaddr : Fin 4 → Byte
  udpport : Word
  tcpport : Word

namespace VtpLib

variable (lib : VtpLib)

/-- A call for one instance of a network interface. -/
def onInst {α : Type} (inst : Nat) (f : Fin 4 → Regs → α) (r : Regs) : Option α :=
  if lib.ready vtpFwTypeFadcstream 0 then
    if h : inst < 4 then some (f ⟨inst, h⟩ r) else none
  else none

/-! ## Event builder -/

/-- The frame length in ticks of 32 ns, from its value in ns. -/
def frameTicks (frameLen : Word) : Word :=
  (checkRange 1024 65535 ((frameLen + 31#32).sdiv 32#32 * 32#32 - 1#32)).sshiftRight 5

def ebNstreams (nstreams : Word) : Word :=
  checkRange 1 4 (if nstreams.toInt ≤ 0 then 1#32 else nstreams)

/-- The stream of each port in the mask, for the port's register. -/
def ebPpCfg (mask : Word) (ppInfo : Option PpInfo) (ppCfg : Fin 16 → Word) : Fin 16 → Word :=
  match ppInfo with
  | none => ppCfg
  | some ppInfo => fun ii =>
      if mask.getLsbD ii then ((ppInfo ii).streamInfo - 1#32) <<< 30 else ppCfg ii

def vtpStreamingSetEbCfg (mask nstreams frameLen rocId : Word) (ppInfo : Option PpInfo) :
    Regs → Option Regs :=
  lib.onTypes [vtpFwTypeFadcstream] fun r =>
    let mask := mask &&& 0xffff#32
    { r with
      streamingEb :=
        { r.streamingEb with
          ctrl := 0x80000000#32 ||| (frameTicks frameLen <<< 16) ||| mask
          rocid := checkRange 0 127 rocId
          ctrl3 := 0x08#32 ||| ebNstreams nstreams
          ppCfg := ebPpCfg mask ppInfo r.streamingEb.ppCfg } }

def vtpStreamingSetEbRocid (rocId : Word) : Regs → Option Regs :=
  lib.onTypes [vtpFwTypeFadcstream] fun r =>
    { r with
      streamingEb.rocid := (r.streamingEb.rocid &&& 0xffff0000#32) ||| (rocId &&& 0xffff#32) }

/-- The mask, the streams, the frame length and the roc id. -/
def vtpStreamingGetEbCfg : Regs → Option (Word × Word × Word × Word) :=
  lib.onTypes [vtpFwTypeFadcstream] fun r =>
    let val := r.streamingEb.ctrl
    (val &&& 0xff#32, r.streamingEb.ctrl3 &&& 7#32,
      ((val >>> 16) &&& 0x3fff#32) * 4#32 + 4#32, r.streamingEb.rocid &&& 0x7f#32)

/-- `VTP_STREB_ENABLE_MASK`: the bits that are not for the caller. -/
def strebEnableMask : Word := 0xfffffe37#32

def vtpStreamingEbEnable (mask : Word) (r : Regs) : Option Regs :=
  if mask &&& strebEnableMask = 0#32 then
    some { r with
      streamingEb :=
        { r.streamingEb with
          ctrl3 := r.streamingEb.ctrl3 ||| mask
          ctrl := r.streamingEb.ctrl &&& 0x7fffffff#32 } }
  else none

def vtpStreamingEbDisable (dmask : Word) (r : Regs) : Option Regs :=
  if dmask &&& strebEnableMask = 0#32 then
    some { r with
      streamingEb :=
        { r.streamingEb with
          ctrl3 := r.streamingEb.ctrl3 &&& ~~~dmask
          ctrl := r.streamingEb.ctrl ||| 0x80000000#32 } }
  else none

def vtpStreamingEbGo (r : Regs) : Regs :=
  { r with streamingEb.ctrl := r.streamingEb.ctrl &&& 0x7fffffff#32 }

def vtpStreamingEbReset (r : Regs) : Regs :=
  { r with streamingEb.ctrl := r.streamingEb.ctrl ||| 0x80000000#32 }

/-! ## Network interfaces -/

/-- A port of 0 stands for 10001. -/
def localportOf (localport : BitVec 16) : BitVec 16 :=
  if localport = 0#16 then 10001#16 else localport

def setTcpClient (inst : Fin 4) (f : TcpipClientRegs → TcpipClientRegs) (r : Regs) : Regs :=
  { r with tcpClient := update r.tcpClient inst (f (r.tcpClient inst)) }

/-- What both setters write. -/
def tcpAddresses (ipaddr subnet gateway : Fin 4 → Byte) (mac : Fin 6 → Byte)
    (t : TcpipClientRegs) : TcpipClientRegs :=
  { t with
    ip4StateRequest := 0#32
    ip4Addr := ipWord ipaddr
    ip4SubnetMask := ipWord subnet
    ip4GatewayAddr := ipWord gateway
    macAddr := macWords mac }

def vtpStreamingSetTcpCfg (inst : Nat) (ipaddr subnet gateway : Fin 4 → Byte)
    (mac : Fin 6 → Byte) (destipaddr : Fin 4 → Byte) (destipport localport : BitVec 16) :
    Regs → Option Regs :=
  lib.onInst inst fun inst => setTcpClient inst fun t =>
    { tcpAddresses ipaddr subnet gateway mac t with
      tcpDestAddr := ipWord destipaddr
      tcpPort := portWord (localportOf localport) destipport }

/-- `localport+1` is an `int`, and bit 16 of it is shifted out. -/
def vtpStreamingSetNetCfg (inst : Nat) (mode : Word) (ipaddr subnet gateway : Fin 4 → Byte)
    (mac : Fin 6 → Byte) (destipaddr : Fin 4 → Byte) (destipport localport : BitVec 16) :
    Regs → Option Regs :=
  lib.onInst inst fun inst => setTcpClient inst fun t =>
    let localport := localportOf localport
    let t := tcpAddresses ipaddr subnet gateway mac t
    if mode ≠ 0#32 then
      { t with
        mtu := 8000#32
        tcpDestAddr := 0#32
        tcpPort := portWord localport 0#16
        udpDestAddr := ipWord destipaddr
        udpPort := portWord (localport + 1#16) destipport }
    else
      { t with
        mtu := 1500#32
        udpDestAddr := 0#32
        udpPort := portWord (localport + 1#16) 0#16
        tcpDestAddr := ipWord destipaddr
        tcpPort := portWord localport destipport }

def vtpStreamingGetTcpCfg (inst : Nat) : Regs → Option StreamingEbCfg := fun r =>
  if inst ≤ 1 then
    lib.onInst inst (fun inst r =>
      let t := r.tcpClient inst
      { maskEn := 0#32, nstreams := 0#32, connect := 0#32
        ipaddr := ipBytes t.ip4Addr
        subnet := ipBytes t.ip4SubnetMask
        gateway := ipBytes t.ip4GatewayAddr
        mac := macBytes t.macAddr
        destip := ipBytes t.tcpDestAddr
        destipport := t.tcpPort.setWidth 16
        localport := (t.tcpPort >>> 16).setWidth 16 }) r
  else none

def vtpStreamingGetNetCfg (inst : Nat) : Regs → Option NetCfg :=
  lib.onInst inst fun inst r =>
    let t := r.tcpClient inst
    { ipaddr := ipBytes t.ip4Addr
      subnet := ipBytes t.ip4SubnetMask
      gateway := ipBytes t.ip4GatewayAddr
      mac := macBytes t.macAddr
      udpaddr := ipBytes t.udpDestAddr
      tcpaddr := ipBytes t.tcpDestAddr
      udpport := t.udpPort
      tcpport := t.tcpPort }

/-- The network port that the asynchronous events go to. -/
def asyncPort (inst : Fin 4) (ctrl3 : Word) : Word :=
  (BitVec.ofNat 32 inst <<< 4) ||| (ctrl3 &&& 0xffffffcf#32)

/-- The data words, with their number, when there are any. -/
def sendData (cdata : List Word) (eb : StreamingEbRegs) : StreamingEbRegs :=
  if cdata = [] then eb
  else
    { eb with
      cpuAsyncEventData := eb.cpuAsyncEventData ++ cdata
      cpuAsyncEventInfo := eb.cpuAsyncEventInfo ++ [BitVec.ofNat 32 cdata.length] }

/-- The waits and the look at the link change no register. -/
def vtpStreamingTcpConnect (inst : Nat) (connect : Int) (cdata : List Word) : Regs → Option Regs :=
  lib.onInst inst fun inst r =>
    if 0 < connect then
      let r := setTcpClient inst (fun t => { t with ctrl := 0x13c0#32, ip4StateRequest := 1#32 }) r
      { r with
        streamingEb := sendData cdata
          { r.streamingEb with
            ctrl := (r.streamingEb.ctrl ||| 0x80000000#32) &&& 0x7fffffff#32
            ctrl3 := asyncPort inst r.streamingEb.ctrl3 } }
    else
      let r := setTcpClient inst (fun t => { t with ip4StateRequest := 0#32 }) r
      { r with streamingEb.ctrl := 0x80000000#32 }

/-! ## Resets -/

def vtpStreamingMigReset : Regs → Option Regs := lib.onInit fun r =>
  { r with mig := fun _ => 0#32 }

/-- The link is polled ten times at most, and the registers end the same whether
or not it comes up. -/
def vtpStreamingEbioReset (mode : Word) : Regs → Option Regs := lib.onInit fun r =>
  { r with
    ebioTx := fun _ => 0x8#32
    ebiorx := fun _ => 0x78#32 ||| (if mode = 0#32 then 0#32 else 0x100#32) }

/-! ## Control events -/

def endEvent : Word := 0xffd4#32

/-- The words of a control event: the cMsg header, on TCP only, and the record. -/
def controlEvent (udp : Bool) (rocid type val0 val1 : Word) : List Word :=
  (if udp then [] else [if type = endEvent then 3#32 else 1#32, 13#32 <<< 2]) ++
    [13#32, 0xffffffff#32, 8#32, 1#32, rocid, 0x1604#32, 0#32, 0xc0da0100#32,
      4#32, (type <<< 16) ||| 0x100#32, 1200#32, val0, val1]

def vtpStreamingEvioWriteControl (inst : Nat) (type val0 val1 : Word) : Regs → Option Regs :=
  lib.onInst inst fun inst r =>
    let eb := r.streamingEb
    let udp := (r.ebiorx 0).getLsbD 8
    { r with
      streamingEb :=
        { eb with
          ctrl3 := asyncPort inst eb.ctrl3
          cpuAsyncEventData := eb.cpuAsyncEventData ++ controlEvent udp eb.rocid type val0 val1
          cpuAsyncEventInfo := eb.cpuAsyncEventInfo ++ [if udp then 13#32 else 15#32] } }

end VtpLib

end VtpStreaming
