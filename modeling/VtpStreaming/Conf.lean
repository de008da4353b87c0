import Mathlib.Data.Fintype.Basic
import Mathlib.Logic.Function.Basic
import VtpStreaming.Clib.Bytes

/-!
# The configuration record

`vtp/vtpConfig.h`, `VTP_CONF`. An `int` or `unsigned int` is a 32-bit word, and
whoever uses it says whether it is signed. A `float` is the text it was last
read from, with the empty text for 0.
-/

namespace VtpStreaming

open Clib

abbrev FloatText := List Char

structure TrgBit where
  sspStriggerBitMask : Fin 2 → Word
  sspSectorMask : Fin 2 → Word
  sectorMultMin : Fin 2 → Word
  sectorCoinWidth : Word
  sspCtriggerBitMask : Word
  delay : Word
  pulserFreq : FloatText
  prescale : Word
deriving Inhabited

structure HpsSingleTrig where
  clusterEmin : Word
  clusterEmax : Word
  clusterNmin : Word
  clusterXmin : Word
  pdeC : Fin 4 → FloatText
  clusterEminEn : Word
  clusterEmaxEn : Word
  clusterNminEn : Word
  clusterXminEn : Word
  pdeEn : Word
  hodoL1En : Word
  hodoL2En : Word
  hodoL1l2GeomEn : Word
  hodoL1l2xGeomEn : Word
  en : Word
deriving Inhabited

structure HpsPairTrig where
  clusterEmin : Word
  clusterEmax : Word
  clusterNmin : Word
  pairDt : Word
  pairEsumMin : Word
  pairEsumMax : Word
  pairEdiffMax : Word
  pairEdFactor : FloatText
  pairEdThr : Word
  pairCoplanarityTol : Word
  pairEsumEn : Word
  pairEdiffEn : Word
  pairEdEn : Word
  pairCoplanarityEn : Word
  hodoL1En : Word
  hodoL2En : Word
  hodoL1l2GeomEn : Word
  hodoL1l2xGeomEn : Word
  en : Word
deriving Inhabited

structure HpsMultTrig where
  clusterEmin : Word
  clusterEmax : Word
  clusterNmin : Word
  multDt : Word
  multTopMin : Word
  multBotMin : Word
  multTotMin : Word
  en : Word
deriving Inhabited

structure HpsFeeTrig where
  clusterEmin : Word
  clusterEmax : Word
  clusterNmin : Word
  prescaleXmin : Fin 7 → Word
  prescaleXmax : Fin 7 → Word
  prescale : Fin 7 → Word
  en : Word
deriving Inhabited

/-- `streaming_eb_cfg`. -/
structure StreamingEbCfg where
  maskEn : Word
  nstreams : Word
  connect : Word
  ipaddr : Fin 4 → Byte
  subnet : Fin 4 → Byte
  gateway : Fin 4 → Byte
  mac : Fin 6 → Byte
  destip : Fin 4 → Byte
  destipport : BitVec 16
  localport : BitVec 16
deriving Inhabited, DecidableEq

/-- `roc_tcp_cfg`. -/
structure RocTcpCfg where
  connect : Word
  ipaddr : Word
  subnet : Word
  gateway : Word
  mac : Fin 6 → Byte
deriving Inhabited

structure VtpRocConf where
  rocId : Word
  destip : Word
  destipport : Word
  nwords : Word
  ebdata : Fin 20 → Word
  eb : RocTcpCfg
deriving Inhabited

structure FadcStreamingConf where
  rocId : Word
  nframeBuf : Word
  frameLen : Word
  eb : Fin 2 → StreamingEbCfg
deriving Inhabited, DecidableEq

structure StreamingConf where
  statsHost : List Char
  statsPort : Word
  statsInst : Word
  syncPktLen : Word
  numConnections : Word
  netMode : Word
  enableEjfat : Word
  localPort : Word
  payloadEnArray : Fin 16 → Word
deriving Inhabited, DecidableEq

structure EcView where
  hitEmin : Word
  hitDt : Word
  dalitzMin : Word
  dalitzMax : Word
  cosmicEmin : Word
  cosmicMultmax : Word
  cosmicHitwidth : Word
  cosmicEvaldelay : Word
deriving Inhabited

structure EcConf where
  fadcsumChEn : Fin 16 → Word
  inner : EcView
  outer : EcView
deriving Inhabited

structure PcConf where
  fadcsumChEn : Fin 16 → Word
  cosmicEmin : Word
  cosmicMultmax : Word
  cosmicHitwidth : Word
  cosmicEvaldelay : Word
  cosmicPixelen : Word
deriving Inhabited

structure PcsConf where
  threshold : Fin 3 → Word
  nframes : Word
  dipfactor : Word
  dalitzMin : Word
  dalitzMax : Word
  nstripMin : Word
  nstripMax : Word
  pcuThreshold : Fin 3 → Word
  cosmicEmin : Word
  cosmicMultmax : Word
  cosmicHitwidth : Word
  cosmicEvaldelay : Word
  cosmicPixelen : Word
deriving Inhabited

structure HtccConf where
  threshold : Fin 3 → Word
  nframes : Word
  ctofThreshold : Fin 3 → Word
  ctofNframes : Word
deriving Inhabited

/-- The shape of `ftof` and of `cnd`. -/
structure ThresholdConf where
  threshold : Fin 3 → Word
  nframes : Word
deriving Inhabited

structure EcsView where
  cosmicEmin : Word
  cosmicMultmax : Word
  cosmicHitwidth : Word
  cosmicEvaldelay : Word
deriving Inhabited

structure EcsConf where
  fadcsumChEn : Fin 16 → Word
  threshold : Fin 3 → Word
  nframes : Word
  dipfactor : Word
  dalitzMin : Word
  dalitzMax : Word
  nstripMin : Word
  nstripMax : Word
  inner : EcsView
  outer : EcsView
deriving Inhabited

structure GtConf where
  trigLatency : Word
  trigWidth : Word
  trgbits : Fin 32 → TrgBit
deriving Inhabited

structure DcConf where
  dcsegfindThreshold : Fin 2 → Word
  roadid : List Char
deriving Inhabited

structure HcalConf where
  hitDt : Word
  clusterEmin : Word
deriving Inhabited

structure FtcalConf where
  fadcsumChEn : Fin 16 → Word
  seedEmin : Word
  seedDt : Word
  hodoDt : Word
  deadtime : Word
  deadtimeEmin : Word
deriving Inhabited

structure FthodoConf where
  hitEmin : Word
deriving Inhabited

structure HpsClusterConf where
  topNbottom : Word
  hitDt : Word
  seedThr : Word
deriving Inhabited

structure HpsHodoscopeConf where
  hitDt : Word
  fadchitThr : Word
  hodoThr : Word
deriving Inhabited

structure HpsCalibConf where
  hodoscopeTopEn : Word
  hodoscopeBotEn : Word
  cosmicDt : Word
  cosmicTopEn : Word
  cosmicBotEn : Word
  pulserFreq : FloatText
  pulserEn : Word
deriving Inhabited

structure HpsTrigConf where
  latency : Word
  prescale : Fin 32 → Word
deriving Inhabited

structure HpsConf where
  cluster : HpsClusterConf
  hodoscope : HpsHodoscopeConf
  calib : HpsCalibConf
  singleTrig : Fin 4 → HpsSingleTrig
  pairTrig : Fin 4 → HpsPairTrig
  multTrig : Fin 2 → HpsMultTrig
  feeTrig : HpsFeeTrig
  trig : HpsTrigConf
deriving Inhabited

structure ComptonTrigConf where
  latency : Word
  width : Word
  prescale : Fin 32 → Word
  delay : Fin 32 → Word
deriving Inhabited

structure ComptonConf where
  enableScalerReadout : Word
  vetrocWidth : Word
  fadcThreshold : Fin 5 → Word
  eplaneMultMin : Fin 5 → Word
  eplaneMask : Fin 5 → Word
  fadcMask : Fin 5 → Word
  trig : ComptonTrigConf
deriving Inhabited

/-- `VTP_CONF`. -/
structure VtpConf where
  fwFilenameV7 : List Char
  fwFilenameZ7 : List Char
  fwRev : Fin 2 → Word
  fwType : Fin 2 → Word
  refclk : Word
  windowWidth : Word
  windowOffset : Word
  payloadEn : Word
  fiberEn : Word
  vtpRoc : VtpRocConf
  fadcStreaming : FadcStreamingConf
  streaming : StreamingConf
  ec : EcConf
  pc : PcConf
  pcs : PcsConf
  htcc : HtccConf
  ftof : ThresholdConf
  cnd : ThresholdConf
  ecs : EcsConf
  gt : GtConf
  dc : DcConf
  hcal : HcalConf
  ftcal : FtcalConf
  fthodo : FthodoConf
  hps : HpsConf
  compton : ComptonConf
deriving Inhabited

end VtpStreaming
