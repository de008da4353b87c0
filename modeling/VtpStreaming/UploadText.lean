import VtpStreaming.Clib.Print
import VtpStreaming.UploadAll

/-!
# The text of the configuration

`vtp/vtpConfig.c`, `vtpUploadAll`, the part behind the registers: one line for
each parameter, into a buffer that takes them all. The text of a float is a
parameter, as its arithmetic is.
-/

namespace VtpStreaming

open Clib

/-- How `printf` writes a float: no more than a sign, 39 digits, the point and six
digits, and no white space. -/
structure FloatPrinter where
  /-- `%f`. -/
  f : FloatText → List Char
  /-- `%.3f`. -/
  f3 : FloatText → List Char
  word : ∀ x, IsWord (f x) ∧ Plain 47 (f x)
  word3 : ∀ x, IsWord (f3 x) ∧ Plain 47 (f3 x)

/-! ## Lines of every firmware -/

/-- The first `n` bits of a mask, one number each. -/
def maskBits (n : Nat) (mask : Word) : List Word :=
  (List.range n).map fun i => (mask >>> i) &&& 1#32

def firmwareLines (c : VtpConf) : List TextLine :=
  [intLine "VTP_FIRMWAREVERSION" [c.fwRev 0],
   intLine "VTP_FIRMWARETYPE" [c.fwType 0]]

def everyLines (c : VtpConf) : List TextLine :=
  [intLine "VTP_W_WIDTH" [c.windowWidth],
   intLine "VTP_W_OFFSET" [c.windowOffset],
   intLine "VTP_PAYLOAD_EN" (maskBits 16 c.payloadEn),
   intLine "VTP_FIBER_EN" (maskBits 4 c.fiberEn)]

/-! ## Calorimeters and hodoscopes -/

/-- Sixteen masks, `0x%04X` each. -/
def chLine (key : String) (en : Fin 16 → Word) : TextLine := litLine key 4 (List.ofFn en)

/-- Three thresholds. -/
def threeLine (key : String) (t : Fin 3 → Word) : TextLine := intLine key [t 0, t 1, t 2]

def ecInnerLines (v : EcView) : List TextLine :=
  [intLine "VTP_EC_INNER_HIT_EMIN" [v.hitEmin],
   intLine "VTP_EC_INNER_HIT_DT" [v.hitDt],
   intLine "VTP_EC_INNER_COSMIC_EMIN" [v.cosmicEmin],
   intLine "VTP_EC_INNER_COSMIC_MULTMAX" [v.cosmicMultmax],
   intLine "VTP_EC_INNER_COSMIC_HITWIDTH" [v.cosmicHitwidth],
   intLine "VTP_EC_INNER_COSMIC_EVALDELAY" [v.cosmicEvaldelay],
   intLine "VTP_EC_INNER_HIT_DALITZ" [v.dalitzMin, v.dalitzMax]]

def ecOuterLines (v : EcView) : List TextLine :=
  [intLine "VTP_EC_OUTER_HIT_EMIN" [v.hitEmin],
   intLine "VTP_EC_OUTER_HIT_DT" [v.hitDt],
   intLine "VTP_EC_OUTER_COSMIC_EMIN" [v.cosmicEmin],
   intLine "VTP_EC_OUTER_COSMIC_MULTMAX" [v.cosmicMultmax],
   intLine "VTP_EC_OUTER_COSMIC_HITWIDTH" [v.cosmicHitwidth],
   intLine "VTP_EC_OUTER_COSMIC_EVALDELAY" [v.cosmicEvaldelay],
   intLine "VTP_EC_OUTER_HIT_DALITZ" [v.dalitzMin, v.dalitzMax]]

def ecLines (c : EcConf) : List TextLine :=
  chLine "VTP_EC_FADCSUM_CH" c.fadcsumChEn :: ecInnerLines c.inner ++ ecOuterLines c.outer

def pcLines (c : PcConf) : List TextLine :=
  [chLine "VTP_PC_FADCSUM_CH" c.fadcsumChEn,
   intLine "VTP_PC_COSMIC_EMIN" [c.cosmicEmin],
   intLine "VTP_PC_COSMIC_MULTMAX" [c.cosmicMultmax],
   intLine "VTP_PC_COSMIC_HITWIDTH" [c.cosmicHitwidth],
   intLine "VTP_PC_COSMIC_EVALDELAY" [c.cosmicEvaldelay],
   intLine "VTP_PC_COSMIC_PIXELEN" [c.cosmicPixelen]]

def htccLines (c : HtccConf) : List TextLine :=
  [threeLine "VTP_HTCC_THRESHOLDS" c.threshold,
   intLine "VTP_HTCC_NFRAMES" [c.nframes],
   threeLine "VTP_CTOF_THRESHOLDS" c.ctofThreshold,
   intLine "VTP_CTOF_NFRAMES" [c.ctofNframes]]

def ftofLines (c : ThresholdConf) : List TextLine :=
  [threeLine "VTP_FTOF_THRESHOLDS" c.threshold,
   intLine "VTP_FTOF_NFRAMES" [c.nframes]]

def cndLines (c : ThresholdConf) : List TextLine :=
  [threeLine "VTP_CND_THRESHOLDS" c.threshold,
   intLine "VTP_CND_NFRAMES" [c.nframes]]

def pcsLines (c : PcsConf) : List TextLine :=
  [threeLine "VTP_PCS_THRESHOLDS" c.threshold,
   intLine "VTP_PCS_NFRAMES" [c.nframes],
   intLine "VTP_PCS_DIPFACTOR" [c.dipfactor],
   intLine "VTP_PCS_NSTRIP" [c.nstripMin, c.nstripMax],
   intLine "VTP_PCS_DALITZ" [c.dalitzMin, c.dalitzMax],
   threeLine "VTP_PCU_THRESHOLDS" c.pcuThreshold,
   intLine "VTP_PCS_COSMIC_EMIN" [c.cosmicEmin],
   intLine "VTP_PCS_COSMIC_MULTMAX" [c.cosmicMultmax],
   intLine "VTP_PCS_COSMIC_HITWIDTH" [c.cosmicHitwidth],
   intLine "VTP_PCS_COSMIC_EVALDELAY" [c.cosmicEvaldelay],
   intLine "VTP_PCS_COSMIC_PIXELEN" [c.cosmicPixelen]]

def ecsOuterLines (v : EcsView) : List TextLine :=
  [intLine "VTP_ECS_OUTER_COSMIC_EMIN" [v.cosmicEmin],
   intLine "VTP_ECS_OUTER_COSMIC_MULTMAX" [v.cosmicMultmax],
   intLine "VTP_ECS_OUTER_COSMIC_HITWIDTH" [v.cosmicHitwidth],
   intLine "VTP_ECS_OUTER_COSMIC_EVALDELAY" [v.cosmicEvaldelay]]

def ecsInnerLines (v : EcsView) : List TextLine :=
  [intLine "VTP_ECS_INNER_COSMIC_EMIN" [v.cosmicEmin],
   intLine "VTP_ECS_INNER_COSMIC_MULTMAX" [v.cosmicMultmax],
   intLine "VTP_ECS_INNER_COSMIC_HITWIDTH" [v.cosmicHitwidth],
   intLine "VTP_ECS_INNER_COSMIC_EVALDELAY" [v.cosmicEvaldelay]]

def ecsLines (c : EcsConf) : List TextLine :=
  [chLine "VTP_ECS_FADCSUM_CH" c.fadcsumChEn,
   threeLine "VTP_ECS_THRESHOLDS" c.threshold,
   intLine "VTP_ECS_NFRAMES" [c.nframes],
   intLine "VTP_ECS_DIPFACTOR" [c.dipfactor],
   intLine "VTP_ECS_NSTRIP" [c.nstripMin, c.nstripMax],
   intLine "VTP_ECS_DALITZ" [c.dalitzMin, c.dalitzMax]] ++
  ecsOuterLines c.outer ++ ecsInnerLines c.inner

/-! ## Global trigger, drift chambers, HCAL, forward tagger -/

section

variable (p : FloatPrinter)

def gtBitLines (i : Fin 32) (b : TrgBit) : List TextLine :=
  [intLine "VTP_GT_TRG" [indexWord i],
   litLine "VTP_GT_TRG_SSP_STRIGGER_MASK" 8 [b.sspStriggerBitMask 0, b.sspStriggerBitMask 1],
   litLine "VTP_GT_TRG_SSP_CTRIGGER_MASK" 8 [b.sspCtriggerBitMask],
   litLine "VTP_GT_TRG_SSP_SECTOR_MASK" 8 [b.sspSectorMask 0, b.sspSectorMask 1],
   intLine "VTP_GT_TRG_SSP_SECTOR_MULT_MIN" [b.sectorMultMin 0, b.sectorMultMin 1],
   intLine "VTP_GT_TRG_SSP_SECTOR_WIDTH" [b.sectorCoinWidth],
   ⟨"VTP_GT_TRG_PULSER_FREQ", [.word (p.f3 b.pulserFreq)]⟩,
   intLine "VTP_GT_TRG_DELAY" [b.delay],
   intLine "VTP_GT_TRG_PRESCALE" [b.prescale]]

def gtLines (c : GtConf) : List TextLine :=
  intLine "VTP_GT_LATENCY" [c.trigLatency] :: intLine "VTP_GT_WIDTH" [c.trigWidth] ::
  (List.finRange 32).flatMap fun i => gtBitLines p i (c.trgbits i)

/-- The block ends in `roadLine`. -/
def dcLines (c : DcConf) : List TextLine :=
  [intLine "VTP_DC_SEGTHR" [0#32, c.dcsegfindThreshold 0],
   intLine "VTP_DC_SEGTHR" [1#32, c.dcsegfindThreshold 1]]

def roadLine (c : DcConf) : TextLine := ⟨"VTP_DC_ROADID", [.word c.roadid]⟩

def hcalLines (c : HcalConf) : List TextLine :=
  [intLine "VTP_HCAL_HIT_DT" [c.hitDt],
   intLine "VTP_HCAL_HIT_EMIN" [c.clusterEmin]]

def ftcalLines (c : FtcalConf) : List TextLine :=
  [chLine "VTP_FTCAL_FADCSUM_CH" c.fadcsumChEn,
   intLine "VTP_FTCAL_SEED_EMIN" [c.seedEmin],
   intLine "VTP_FTCAL_SEED_DT" [c.seedDt],
   intLine "VTP_FTCAL_HODO_DT" [c.hodoDt],
   intLine "VTP_FTCAL_CLUSTER_DEADTIME_EMIN" [c.deadtimeEmin],
   intLine "VTP_FTCAL_CLUSTER_DEADTIME" [c.deadtime]]

/-! ## HPS -/

def hpsPairLines (i : Fin 4) (t : HpsPairTrig) : List TextLine :=
  [intLine "VTP_HPS_PAIR_EMIN" [indexWord i, t.clusterEmin],
   intLine "VTP_HPS_PAIR_EMAX" [indexWord i, t.clusterEmax],
   intLine "VTP_HPS_PAIR_NMIN" [indexWord i, t.clusterNmin],
   intLine "VTP_HPS_PAIR_TIMECOINCIDENCE" [indexWord i, t.pairDt],
   intLine "VTP_HPS_PAIR_SUMMAX_MIN" [indexWord i, t.pairEsumMax, t.pairEsumMin, t.pairEsumEn],
   intLine "VTP_HPS_PAIR_DIFFMAX" [indexWord i, t.pairEdiffMax, t.pairEdiffEn],
   ⟨"VTP_HPS_PAIR_ENERGYDIST",
     [.d (indexWord i), .word (p.f t.pairEdFactor), .d t.pairEdThr, .d t.pairEdEn]⟩,
   intLine "VTP_HPS_PAIR_COPLANARITY" [indexWord i, t.pairCoplanarityTol, t.pairCoplanarityEn],
   intLine "VTP_HPS_PAIR_EN" [indexWord i, t.en],
   intLine "VTP_HPS_PAIR_HODO"
     [indexWord i, t.hodoL1En, t.hodoL2En, t.hodoL1l2GeomEn, t.hodoL1l2xGeomEn]]

/-- What is not `top` is printed as `BOT`. -/
def hpsClusterLines (c : HpsClusterConf) : List TextLine :=
  [if c.topNbottom ≠ 0#32 then intLine "VTP_HPS_ECAL_TOP" [] else intLine "VTP_HPS_ECAL_BOT" [],
   intLine "VTP_HPS_ECAL_CLUSTER_HIT_DT" [c.hitDt],
   intLine "VTP_HPS_ECAL_CLUSTER_SEED_THR" [c.seedThr]]

def hpsHodoscopeLines (c : HpsHodoscopeConf) : List TextLine :=
  [intLine "VTP_HPS_HODOSCOPE_FADCHIT_THR" [c.fadchitThr],
   intLine "VTP_HPS_HODOSCOPE_HODO_THR" [c.hodoThr],
   intLine "VTP_HPS_HODOSCOPE_HODO_DT" [c.hitDt]]

def hpsCalibLines (c : HpsCalibConf) : List TextLine :=
  [intLine "VTP_HPS_CALIB_HODOSCOPE_TOP_EN" [c.hodoscopeTopEn],
   intLine "VTP_HPS_CALIB_HODOSCOPE_BOT_EN" [c.hodoscopeBotEn],
   intLine "VTP_HPS_CALIB_COSMIC_DT" [c.cosmicDt],
   intLine "VTP_HPS_CALIB_COSMIC_TOP_EN" [c.cosmicTopEn],
   intLine "VTP_HPS_CALIB_COSMIC_BOT_EN" [c.cosmicBotEn],
   intLine "VTP_HPS_CALIB_PULSER_EN" [c.pulserEn],
   ⟨"VTP_HPS_CALIB_PULSER_FREQ", [.word (p.f c.pulserFreq)]⟩]

def hpsSingleLines (i : Fin 4) (t : HpsSingleTrig) : List TextLine :=
  [intLine "VTP_HPS_SINGLE_EMIN" [indexWord i, t.clusterEmin, t.clusterEminEn],
   intLine "VTP_HPS_SINGLE_EMAX" [indexWord i, t.clusterEmax, t.clusterEmaxEn],
   intLine "VTP_HPS_SINGLE_NMIN" [indexWord i, t.clusterNmin, t.clusterNminEn],
   intLine "VTP_HPS_SINGLE_XMIN" [indexWord i, t.clusterXmin, t.clusterXminEn],
   ⟨"VTP_HPS_SINGLE_PDE",
     [.d (indexWord i), .word (p.f (t.pdeC 0)), .word (p.f (t.pdeC 1)), .word (p.f (t.pdeC 2)),
      .word (p.f (t.pdeC 3)), .d t.pdeEn]⟩,
   intLine "VTP_HPS_SINGLE_HODO"
     [indexWord i, t.hodoL1En, t.hodoL2En, t.hodoL1l2GeomEn, t.hodoL1l2xGeomEn],
   intLine "VTP_HPS_SINGLE_EN" [indexWord i, t.en]]

def hpsMultLines (i : Fin 2) (t : HpsMultTrig) : List TextLine :=
  [intLine "VTP_HPS_MULT_EMIN" [indexWord i, t.clusterEmin],
   intLine "VTP_HPS_MULT_EMAX" [indexWord i, t.clusterEmax],
   intLine "VTP_HPS_MULT_NMIN" [indexWord i, t.clusterNmin],
   intLine "VTP_HPS_MULT_MIN" [indexWord i, t.multTopMin, t.multBotMin, t.multTotMin],
   intLine "VTP_HPS_MULT_DT" [indexWord i, t.multDt],
   intLine "VTP_HPS_MULT_EN" [indexWord i, t.en]]

def hpsFeeLines (t : HpsFeeTrig) : List TextLine :=
  [intLine "VTP_HPS_FEE_EN" [t.en],
   intLine "VTP_HPS_FEE_EMIN" [t.clusterEmin],
   intLine "VTP_HPS_FEE_EMAX" [t.clusterEmax],
   intLine "VTP_HPS_FEE_NMIN" [t.clusterNmin]] ++
  (List.finRange 7).map fun i => intLine "VTP_HPS_FEE_PRESCALE"
    [indexWord i, t.prescaleXmin i, t.prescaleXmax i, t.prescale i]

def hpsTrigLines (t : HpsTrigConf) : List TextLine :=
  intLine "VTP_HPS_LATENCY" [t.latency] ::
  (List.finRange 32).map fun i => intLine "VTP_HPS_PRESCALE" [indexWord i, t.prescale i]

/-- The pair triggers are printed twice. -/
def hpsLines (c : HpsConf) (fthodo : FthodoConf) : List TextLine :=
  ((List.finRange 4).flatMap fun i => hpsPairLines p i (c.pairTrig i)) ++
  [intLine "VTP_FTHODO_EMIN" [fthodo.hitEmin]] ++
  hpsClusterLines c.cluster ++ hpsHodoscopeLines c.hodoscope ++ hpsCalibLines p c.calib ++
  ((List.finRange 4).flatMap fun i => hpsSingleLines p i (c.singleTrig i)) ++
  ((List.finRange 4).flatMap fun i => hpsPairLines p i (c.pairTrig i)) ++
  ((List.finRange 2).flatMap fun i => hpsMultLines i (c.multTrig i)) ++
  hpsFeeLines c.feeTrig ++ hpsTrigLines c.trig

/-! ## Compton and streaming -/

/-- Two of the keywords have their letters in another order than the parser has. -/
def comptonLines (c : ComptonConf) : List TextLine :=
  [intLine "VTP_COMTPON_VETROC_WIDTH" [c.vetrocWidth],
   intLine "VTP_COMPTON_LATENCY" [c.trig.latency],
   intLine "VTP_COMPTON_WIDTH" [c.trig.width],
   intLine "VTP_COMPTON_SCALER_READOUT_EN" [c.enableScalerReadout]] ++
  (List.finRange 5).flatMap fun i =>
    [intLine "VTP_COMTPON_FADC_THRESHOLD" [indexWord i, c.fadcThreshold i],
     intLine "VTP_COMPTON_EPLANE_MULT_MIN" [indexWord i, c.eplaneMultMin i],
     intLine "VTP_COMPTON_PRESCALE" [indexWord i, c.trig.prescale (comptonBit i)],
     intLine "VTP_COMPTON_DELAY" [indexWord i, c.trig.delay (comptonBit i)],
     intLine "VTP_COMPTON_EPLANE_MASK" (indexWord i :: maskBits 4 (c.eplaneMask i)),
     intLine "VTP_COMPTON_FADC_EN_MASK" (indexWord i :: maskBits 16 (c.fadcMask i))]

/-- Bytes as numbers. -/
def bytesLine {n : Nat} (key : String) (b : Fin n → Byte) : TextLine :=
  intLine key (List.ofFn fun i => (b i).setWidth 32)

/-- The line of the index begins with an empty one, and names the index behind a
word. The MAC address is printed in decimal. -/
def streamingEbLines (inst : Fin 2) (eb : StreamingEbCfg) : List TextLine :=
  [⟨"", []⟩,
   ⟨"VTP_STREAMING", [.word "Link".toList, .word (fmtD (indexWord inst) ++ [':'])]⟩,
   intLine "VTP_STREAMING_SLOT_EN" (maskBits 8 eb.maskEn),
   intLine "VTP_STREAMING_NSTREAMS" [eb.nstreams],
   intLine "VTP_STREAMING_CONNECT" [eb.connect],
   bytesLine "VTP_STREAMING_IPADDR" eb.ipaddr,
   bytesLine "VTP_STREAMING_SUBNET" eb.subnet,
   bytesLine "VTP_STREAMING_GATEWAY" eb.gateway,
   bytesLine "VTP_STREAMING_MAC" eb.mac,
   bytesLine "VTP_STREAMING_DESTIP" eb.destip,
   intLine "VTP_STREAMING_DESTIPPORT" [eb.destipport.setWidth 32],
   intLine "VTP_STREAMING_LOCALPORT" [eb.localport.setWidth 32]]

def fadcStreamingLines (c : FadcStreamingConf) : List TextLine :=
  [intLine "VTP_STREAMING_ROCID" [c.rocId],
   intLine "VTP_STREAMING_NFRAME_BUF" [c.nframeBuf],
   intLine "VTP_STREAMING_FRAMELEN" [c.frameLen]] ++
  (List.finRange 2).flatMap fun inst => streamingEbLines inst (c.eb inst)

/-! ## The text -/

/-- The block of each firmware type that has one. -/
def textBlocks (c : VtpConf) : List (Int × List TextLine) :=
  [(vtpFwTypeEc, ecLines c.ec), (vtpFwTypePc, pcLines c.pc), (vtpFwTypeHtcc, htccLines c.htcc),
   (vtpFwTypeFtof, ftofLines c.ftof), (vtpFwTypeCnd, cndLines c.cnd),
   (vtpFwTypePcs, pcsLines c.pcs), (vtpFwTypeEcs, ecsLines c.ecs), (vtpFwTypeGt, gtLines p c.gt),
   (vtpFwTypeDc, dcLines c.dc), (vtpFwTypeHcal, hcalLines c.hcal),
   (vtpFwTypeFtcal, ftcalLines c.ftcal), (vtpFwTypeHps, hpsLines p c.hps c.fthodo),
   (vtpFwTypeCompton, comptonLines c.compton),
   (vtpFwTypeFadcstream, fadcStreamingLines c.fadcStreaming)]

/-- The blocks that are printed on a firmware type. -/
def blockLines (type : Int) (c : VtpConf) : List TextLine :=
  (textBlocks p c).flatMap fun b => if type = b.1 then b.2 else []

/-- The road id is the last line of the block of its firmware. -/
def roadLines (type : Int) (c : VtpConf) : List TextLine :=
  if type = vtpFwTypeDc then [roadLine c.dc] else []

/-- The lines of the integer parameters. -/
def settingLines (type : Int) (c : VtpConf) : List TextLine := everyLines c ++ blockLines p type c

def uploadText (c : VtpConf) : List Char :=
  let type := (c.fwType 0).toInt
  linesText (firmwareLines c ++ settingLines p type c ++ roadLines type c ++ [⟨"", []⟩])

end

end VtpStreaming
