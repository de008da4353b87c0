import Mathlib.Logic.Function.Basic
import VtpStreaming.Clib.Bytes

/-!
# The registers

`vtp/vtpLib.h`, `ZYNC_REGS` and `V7_REGS`: the registers that the configuration
and the streaming part of the library read or write, by the names of the header.
-/

namespace VtpStreaming

open Clib

/-! ## Trigger firmware -/

structure EcTriggerRegs where
  hit : Word
  dalitz : Word
deriving Inhabited

/-- `ECCOSMIC_REGS` and `PCCOSMIC_REGS`. -/
structure CosmicRegs where
  ctrl : Word
  delay : Word
deriving Inhabited

/-- `HTCCTRIGGER_REGS`, `PCUTRIGGER_REGS`, `CTOFTRIGGER_REGS`, `FTOFTRIGGER_REGS`
and `CNDTRIGGER_REGS`. -/
structure ThresholdRegs where
  thresholds : Fin 3 → Word
  nframes : Word
deriving Inhabited

/-- `PCSTRIGGER_REGS` and `ECSTRIGGER_REGS`. -/
structure StripRegs where
  thresholds : Fin 3 → Word
  nframes : Word
  dipfactor : Word
  dalitzMin : Word
  dalitzMax : Word
  nstripMax : Word
deriving Inhabited

structure HcalRegs where
  ctrl : Word
  clusterPulseCoincidence : Word
  clusterPulseThreshold : Word
deriving Inhabited

structure FtcalTriggerRegs where
  ctrl : Word
  deadtimeCtrl : Word
deriving Inhabited

structure DcrbRoadFindRegs where
  ctrl : Word
  id : Fin 2 → Word
deriving Inhabited

structure TriggerOutputRegs where
  latency : Word
  width : Word
  prescaler : Fin 32 → Word
deriving Inhabited

structure GtBitRegs where
  sTrigger : Word
  cTrigger : Word
  pulser : Word
  sTriggerMask : Word
  sTrigger1 : Word
  sTrigger1Mask : Word
deriving Inhabited

structure HpsSingleTriggerRegs where
  ctrl : Word
  clusterEmin : Word
  clusterEmax : Word
  clusterNmin : Word
  clusterXmin : Word
  clusterPdeC : Fin 4 → Word
deriving Inhabited

structure HpsPairTriggerRegs where
  ctrl : Word
  pairEsum : Word
  pairEdiff : Word
  clusterEminmax : Word
  clusterNmin : Word
  pairCoplanarTol : Word
  pairEd : Word
deriving Inhabited

structure HpsCalibTriggerRegs where
  ctrl : Word
  pulser : Word
deriving Inhabited

structure HpsMultTriggerRegs where
  clusterEmin : Word
  clusterEmax : Word
  clusterNmin : Word
  clusterMult : Word
  latency : Word
deriving Inhabited

structure HpsFeeTriggerRegs where
  ctrl : Word
  clusterEmin : Word
  clusterEmax : Word
  clusterNmin : Word
  prescaleXmin : Fin 2 → Word
  prescaleXmax : Fin 2 → Word
  prescale : Fin 4 → Word
deriving Inhabited

structure HpsTriggerRegs where
  latency : Word
  prescale : Fin 32 → Word
deriving Inhabited

structure ComptonTriggerRegs where
  ctrl : Fin 5 → Word
  fadcMask : Fin 3 → Word
deriving Inhabited

structure V7EbRegs where
  lookback : Word
  windowWidth : Word
deriving Inhabited

/-! ## Streaming firmware -/

/-- `STREAMINGEB_REGS`. The last two are fifos: what has been written to them. -/
structure StreamingEbRegs where
  ctrl : Word
  rocid : Word
  ctrl3 : Word
  ppCfg : Fin 16 → Word
  cpuAsyncEventData : List Word
  cpuAsyncEventInfo : List Word
deriving Inhabited

structure TcpipClientRegs where
  ctrl : Word
  mtu : Word
  ip4Addr : Word
  ip4SubnetMask : Word
  ip4GatewayAddr : Word
  ip4StateRequest : Word
  macAddr : Fin 2 → Word
  udpDestAddr : Word
  udpPort : Word
  tcpDestAddr : Word
  tcpPort : Word
deriving Inhabited

/-! ## The board -/

/-- `fwVersion` and `fwType` are `FW_Version` and `FW_Type` of the two chips,
`v7.clk` (chip 0) and `clk` (chip 1). The library reaches bits 16 to 31 of
`gtBit` past the end of the array, where the register file has them. -/
structure Regs where
  fwVersion : Fin 2 → Word
  fwType : Fin 2 → Word
  fadcDec : Word
  sspDec : Word
  dcrbDec : Word
  ftcalDec : Word
  vxs : Fin 16 → Word
  qsfp : Fin 4 → Word
  pcuTrigger : ThresholdRegs
  ctofTrigger : ThresholdRegs
  ftofTrigger : ThresholdRegs
  ecTrigger : Fin 2 → EcTriggerRegs
  fadcSum : Fin 8 → Word
  dcrbSegFind : Fin 2 → Word
  ecCosmic : Fin 2 → CosmicRegs
  hcal : HcalRegs
  pcCosmic : CosmicRegs
  ftcalTrigger : FtcalTriggerRegs
  pcsTrigger : StripRegs
  ecsTrigger : StripRegs
  htccTrigger : ThresholdRegs
  fthodoTrigger : Word
  trigOut : TriggerOutputRegs
  eb : V7EbRegs
  dcrbRoadFind : DcrbRoadFindRegs
  cndTrigger : ThresholdRegs
  hpsFeeTriggerTop : HpsFeeTriggerRegs
  hpsFeeTriggerBot : HpsFeeTriggerRegs
  hpsCluster : Word
  hpsHodoscope : Word
  hpsSingleTriggerTop : Fin 4 → HpsSingleTriggerRegs
  hpsSingleTriggerBot : Fin 4 → HpsSingleTriggerRegs
  hpsPairTrigger : Fin 4 → HpsPairTriggerRegs
  hpsCalibTrigger : HpsCalibTriggerRegs
  hpsMultiplicityTrigger : Fin 2 → HpsMultTriggerRegs
  hpsTriggerBits : HpsTriggerRegs
  gtBit : Fin 32 → GtBitRegs
  comptonTrigger : ComptonTriggerRegs
  streamingEb : StreamingEbRegs
  ebioTx : Fin 2 → Word
  mig : Fin 2 → Word
  ebiorx : Fin 2 → Word
  tcpClient : Fin 4 → TcpipClientRegs
  rocID : Word
deriving Inhabited

end VtpStreaming
