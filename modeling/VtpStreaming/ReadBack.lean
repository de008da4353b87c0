import VtpStreaming.Blocks
import VtpStreaming.Quantities

/-!
# What the registers say

The parameters of each firmware type as the getters of the library decode them,
whole, and what `vtpUploadAll` makes of them.
-/

namespace VtpStreaming

open Clib Function VtpLib

/-! ## Decoding the registers -/

section

variable (fpu : FloatUnit) (r : Regs)

def ecViewOf (inst : Fin 2) : EcView where
  hitEmin := ecHitEmin.get (r.ecTrigger inst).hit
  hitDt := ecHitDt.get (r.ecTrigger inst).hit * 4#32
  dalitzMin := (r.ecTrigger inst).dalitz &&& 0x3ff#32
  dalitzMax := ((r.ecTrigger inst).dalitz >>> 16) &&& 0x3ff#32
  cosmicEmin := cosmicCtrlEmin.get (r.ecCosmic inst).ctrl
  cosmicMultmax := cosmicCtrlMultmax.get (r.ecCosmic inst).ctrl
  cosmicHitwidth := cosmicDelayWidth.get (r.ecCosmic inst).delay
  cosmicEvaldelay := cosmicDelayEval.get (r.ecCosmic inst).delay

def ecOf : EcConf := ⟨fadcSumChannel r.fadcSum, ecViewOf r 0, ecViewOf r 1⟩

def pcOf : PcConf where
  fadcsumChEn := fadcSumChannel r.fadcSum
  cosmicEmin := cosmicCtrlEmin.get r.pcCosmic.ctrl
  cosmicMultmax := cosmicCtrlMultmax.get r.pcCosmic.ctrl
  cosmicHitwidth := cosmicDelayWidth.get r.pcCosmic.delay
  cosmicEvaldelay := cosmicDelayEval.get r.pcCosmic.delay
  cosmicPixelen := cosmicCtrlPixel.get r.pcCosmic.ctrl

def htccOf : HtccConf where
  threshold := r.htccTrigger.thresholds
  nframes := r.htccTrigger.nframes
  ctofThreshold := r.ctofTrigger.thresholds
  ctofNframes := r.ctofTrigger.nframes

def thresholdConfOf (t : ThresholdRegs) : ThresholdConf := ⟨t.thresholds, t.nframes⟩

/-- `nstrip_min` has no register. -/
def pcsOf (c : PcsConf) : PcsConf where
  threshold := r.pcsTrigger.thresholds
  nframes := r.pcsTrigger.nframes
  dipfactor := r.pcsTrigger.dipfactor
  dalitzMin := r.pcsTrigger.dalitzMin
  dalitzMax := r.pcsTrigger.dalitzMax
  nstripMin := c.nstripMin
  nstripMax := r.pcsTrigger.nstripMax
  pcuThreshold := r.pcuTrigger.thresholds
  cosmicEmin := cosmicCtrlEmin.get r.pcCosmic.ctrl
  cosmicMultmax := cosmicCtrlMultmax.get r.pcCosmic.ctrl
  cosmicHitwidth := cosmicDelayWidth.get r.pcCosmic.delay
  cosmicEvaldelay := cosmicDelayEval.get r.pcCosmic.delay
  cosmicPixelen := cosmicCtrlPixel.get r.pcCosmic.ctrl

def ecsViewOf (inst : Fin 2) : EcsView where
  cosmicEmin := cosmicCtrlEmin.get (r.ecCosmic inst).ctrl
  cosmicMultmax := cosmicCtrlMultmax.get (r.ecCosmic inst).ctrl
  cosmicHitwidth := cosmicDelayWidth.get (r.ecCosmic inst).delay
  cosmicEvaldelay := cosmicDelayEval.get (r.ecCosmic inst).delay

def ecsOf (c : EcsConf) : EcsConf where
  fadcsumChEn := fadcSumChannel r.fadcSum
  threshold := r.ecsTrigger.thresholds
  nframes := r.ecsTrigger.nframes
  dipfactor := r.ecsTrigger.dipfactor
  dalitzMin := r.ecsTrigger.dalitzMin >>> 3
  dalitzMax := r.ecsTrigger.dalitzMax >>> 3
  nstripMin := c.nstripMin
  nstripMax := r.ecsTrigger.nstripMax
  inner := ecsViewOf r 0
  outer := ecsViewOf r 1

def gtOf : GtConf where
  trigLatency := r.trigOut.latency * 4#32
  trigWidth := r.trigOut.width
  trgbits := fun i => gtBitOf fpu (r.gtBit i) (r.trigOut.prescaler i)

def dcOf : DcConf where
  dcsegfindThreshold := r.dcrbSegFind
  roadid := (List.finRange 8).map (roadIdChar r.dcrbRoadFind.id)

def hcalOf : HcalConf where
  hitDt := r.hcal.clusterPulseCoincidence * 4#32
  clusterEmin := r.hcal.clusterPulseThreshold

def ftcalOf : FtcalConf where
  fadcsumChEn := fadcSumChannel r.fadcSum
  seedEmin := ftcalCtrlSeedthr.get r.ftcalTrigger.ctrl
  seedDt := ftcalCtrlSeeddt.get r.ftcalTrigger.ctrl * 4#32
  hodoDt := ftcalCtrlHododt.get r.ftcalTrigger.ctrl * 4#32
  deadtime := ftcalDeadtimeCtrlDeadtime.get r.ftcalTrigger.deadtimeCtrl * 4#32
  deadtimeEmin := ftcalDeadtimeCtrlEmin.get r.ftcalTrigger.deadtimeCtrl

def fthodoOf : FthodoConf := ⟨fthodoCtrlEmin.get r.fthodoTrigger⟩

def hpsClusterOf : HpsClusterConf where
  topNbottom := (r.hpsCluster >>> 31) &&& 1#32
  hitDt := ((r.hpsCluster >>> 16) &&& 7#32) * 4#32
  seedThr := r.hpsCluster &&& 0x1fff#32

def hpsHodoscopeOf : HpsHodoscopeConf where
  hitDt := ((r.hpsHodoscope >>> 26) &&& 0xf#32) * 4#32
  fadchitThr := r.hpsHodoscope &&& 0x1fff#32
  hodoThr := (r.hpsHodoscope >>> 13) &&& 0x1fff#32

def hpsCalibOf : HpsCalibConf where
  hodoscopeTopEn := flagOf 16 r.hpsCalibTrigger.ctrl
  hodoscopeBotEn := flagOf 17 r.hpsCalibTrigger.ctrl
  cosmicDt := (r.hpsCalibTrigger.ctrl &&& 0xff#32) * 4#32
  cosmicTopEn := flagOf 8 r.hpsCalibTrigger.ctrl
  cosmicBotEn := flagOf 9 r.hpsCalibTrigger.ctrl
  pulserFreq := fpu.calibFreq r.hpsCalibTrigger.pulser
  pulserEn := flagOf 31 r.hpsCalibTrigger.ctrl

def hpsTrigOf : HpsTrigConf := ⟨r.hpsTriggerBits.latency * 4#32, r.hpsTriggerBits.prescale⟩

/-- All of HPS, the parameters that no call of `vtpUploadAll` reads among them. -/
def hpsOf (c : HpsConf) : HpsConf where
  cluster := hpsClusterOf r
  hodoscope := hpsHodoscopeOf r
  calib := hpsCalibOf fpu r
  singleTrig := fun i => singleOf fpu (r.hpsSingleTriggerBot i) (c.singleTrig i)
  pairTrig := fun i => pairOf fpu (r.hpsPairTrigger i) (c.pairTrig i)
  multTrig := fun i => multOf (r.hpsMultiplicityTrigger i)
  feeTrig := feeOf r.hpsFeeTriggerTop
  trig := hpsTrigOf r

def comptonTrigOf (c : ComptonTrigConf) : ComptonTrigConf where
  latency := r.trigOut.latency * 4#32
  width := r.trigOut.width
  prescale := uploadBits (fun i => triggerBitPrescaler.get (r.trigOut.prescaler (comptonBit i)))
    c.prescale
  delay := uploadBits (fun i => triggerBitDelay.get (r.trigOut.prescaler (comptonBit i)) * 4#32)
    c.delay

/-- All of the Compton trigger, latency and width from the trigger output. -/
def comptonOf (c : ComptonConf) : ComptonConf where
  enableScalerReadout := comptonScalerReadout.get (r.comptonTrigger.ctrl 0)
  vetrocWidth := comptonVetrocWidth.get (r.comptonTrigger.ctrl 0)
  fadcThreshold := fun i => comptonFadcThreshold.get (r.comptonTrigger.ctrl i)
  eplaneMultMin := fun i => comptonEplaneMultMin.get (r.comptonTrigger.ctrl i)
  eplaneMask := fun i => comptonEplaneMask.get (r.comptonTrigger.ctrl i)
  fadcMask := fun i => (comptonFadcMask i).get (r.comptonTrigger.fadcMask (fadcMaskIndex i))
  trig := comptonTrigOf r c.trig

/-- The network entry of an instance. -/
def streamingEbOf (inst : Fin 4) (c : StreamingEbCfg) : StreamingEbCfg :=
  let t := r.tcpClient inst
  { c with
    ipaddr := ipBytes t.ip4Addr
    subnet := ipBytes t.ip4SubnetMask
    gateway := ipBytes t.ip4GatewayAddr
    mac := macBytes t.macAddr
    destip := ipBytes t.tcpDestAddr
    destipport := t.tcpPort.setWidth 16
    localport := (t.tcpPort >>> 16).setWidth 16 }

/-- The event builder has the roc id, the frame length and the streams, and each
network interface an entry of its own. -/
def fadcStreamingOf (c : FadcStreamingConf) : FadcStreamingConf where
  rocId := r.streamingEb.rocid &&& 0x7f#32
  nframeBuf := c.nframeBuf
  frameLen := ((r.streamingEb.ctrl >>> 16) &&& 0x3fff#32) * 4#32 + 4#32
  eb := ![{ streamingEbOf r 0 (c.eb 0) with nstreams := r.streamingEb.ctrl3 &&& 7#32 },
    streamingEbOf r 1 (c.eb 1)]

end

/-! ## What the blocks store -/

section

variable {lib : VtpLib} {type : Int} (fpu : FloatUnit) (r : Regs) (conf : VtpConf)

theorem uploadFirmware_eq (h : lib.Runs type) :
    uploadFirmware lib r conf = { conf with fwRev := r.fwVersion, fwType := r.fwType } := by
  rw [uploadFirmware, checkInit, if_pos h.mapped]

def fiberMaskOf (lib : VtpLib) (r : Regs) : Word :=
  if lib.fwType 0 = vtpFwTypeFtcal then (r.ftcalDec >>> 16) &&& 0xf#32
  else if lib.fwType 0 = vtpFwTypeDc then (r.dcrbRoadFind.ctrl &&& 3#32) <<< 1
  else 0#32

theorem uploadCommon_eq (h : lib.Runs type) :
    uploadCommon lib r conf =
      { conf with
        windowWidth := r.eb.windowWidth * lib.windowTick
        windowOffset := r.eb.lookback * lib.windowTick
        fiberEn := fiberMaskOf lib r } := by
  simp only [uploadCommon, vtpGetWindowWidth, vtpGetWindowLookback, vtpGetTriggerFiberMask,
    h.onInit, orError, Option.getD_some, fiberMaskOf]

/-- The Dalitz limits as they are stored. -/
def eighths (v : EcView) : EcView :=
  { v with dalitzMin := v.dalitzMin.sdiv 8#32, dalitzMax := v.dalitzMax.sdiv 8#32 }

theorem uploadEc_eq (h : lib.Runs vtpFwTypeEc) :
    uploadEc lib r conf =
      { conf with ec := ⟨(ecOf r).fadcsumChEn, eighths (ecOf r).inner, eighths (ecOf r).outer⟩ } := by
  have hsum : vtpFwTypeEc ∈ fadcSumTypes := by decide
  have hmem : vtpFwTypeEc ∈ [vtpFwTypeEc] := by decide
  have hcosmic : vtpFwTypeEc ∈ ecCosmicTypes := by decide
  simp only [uploadEc, uploadEcView, vtpGetFadcSumMaskEn, vtpGetECtrigDalitz, vtpGetECtrigEmin,
    vtpGetECtrigDt, vtpGetECcosmicEmin, vtpGetECcosmicMultmax, vtpGetECcosmicWidth,
    vtpGetECcosmicDelay, getEcCosmic, h.onTypes hsum, h.onTypes hmem, h.onTypes hcosmic,
    Option.getD_some, ecOf, ecViewOf, eighths]

theorem uploadPc_eq (h : lib.Runs vtpFwTypePc) :
    uploadPc lib r conf = { conf with pc := pcOf r } := by
  have hsum : vtpFwTypePc ∈ fadcSumTypes := by decide
  have hcosmic : vtpFwTypePc ∈ pcCosmicTypes := by decide
  simp only [uploadPc, vtpGetFadcSumMaskEn, vtpGetPCcosmicEmin, vtpGetPCcosmicMultmax,
    vtpGetPCcosmicWidth, vtpGetPCcosmicDelay, vtpGetPCcosmicPixel, getPcCosmic, h.onTypes hsum,
    h.onTypes hcosmic, Option.getD_some, pcOf]

theorem uploadHtcc_eq (h : lib.Runs vtpFwTypeHtcc) :
    uploadHtcc lib r conf = { conf with htcc := htccOf r } := by
  have hmem : vtpFwTypeHtcc ∈ [vtpFwTypeHtcc] := by decide
  simp only [uploadHtcc, vtpGetHTCCthresholds, vtpGetHTCCnframes, vtpGetCTOFthresholds,
    vtpGetCTOFnframes, h.onTypes hmem, Option.getD_some, htccOf]

theorem uploadFtof_eq (h : lib.Runs vtpFwTypeFtof) :
    uploadFtof lib r conf = { conf with ftof := thresholdConfOf r.ftofTrigger } := by
  have hmem : vtpFwTypeFtof ∈ [vtpFwTypeFtof] := by decide
  simp only [uploadFtof, vtpGetFTOFthresholds, vtpGetFTOFnframes, h.onTypes hmem,
    Option.getD_some, thresholdConfOf]

theorem uploadCnd_eq (h : lib.Runs vtpFwTypeCnd) :
    uploadCnd lib r conf = { conf with cnd := thresholdConfOf r.cndTrigger } := by
  have hmem : vtpFwTypeCnd ∈ [vtpFwTypeCnd] := by decide
  simp only [uploadCnd, vtpGetCNDthresholds, vtpGetCNDnframes, h.onTypes hmem,
    Option.getD_some, thresholdConfOf]

theorem uploadPcs_eq (h : lib.Runs vtpFwTypePcs) :
    uploadPcs lib r conf = { conf with pcs := pcsOf r conf.pcs } := by
  have hmem : vtpFwTypePcs ∈ [vtpFwTypePcs] := by decide
  have hcosmic : vtpFwTypePcs ∈ pcCosmicTypes := by decide
  simp only [uploadPcs, vtpGetPCSthresholds, vtpGetPCSnframes, vtpGetPCSdipfactor,
    vtpGetPCSnstrip, vtpGetPCSdalitz, vtpGetPCUthresholds, getPcs, vtpGetPCcosmicEmin,
    vtpGetPCcosmicMultmax, vtpGetPCcosmicWidth, vtpGetPCcosmicDelay, vtpGetPCcosmicPixel,
    getPcCosmic, h.onTypes hmem, h.onTypes hcosmic, Option.getD_some, pcsOf]

/-- The inner view is what it was. -/
theorem uploadEcs_eq (h : lib.Runs vtpFwTypeEcs) :
    uploadEcs lib r conf =
      { conf with ecs := { ecsOf r conf.ecs with inner := conf.ecs.inner } } := by
  have hsum : vtpFwTypeEcs ∈ fadcSumTypes := by decide
  have hmem : vtpFwTypeEcs ∈ [vtpFwTypeEcs] := by decide
  have hcosmic : vtpFwTypeEcs ∈ ecCosmicTypes := by decide
  simp only [uploadEcs, uploadEcsView, vtpGetFadcSumMaskEn, vtpGetECSthresholds, vtpGetECSnframes,
    vtpGetECSdipfactor, vtpGetECSnstrip, vtpGetECSdalitz, getEcs, vtpGetECcosmicEmin,
    vtpGetECcosmicMultmax, vtpGetECcosmicWidth, vtpGetECcosmicDelay, getEcCosmic, h.onTypes hsum,
    h.onTypes hmem, h.onTypes hcosmic, Option.getD_some, ecsOf, ecsViewOf]

theorem uploadGt_eq (h : lib.Runs vtpFwTypeGt) :
    uploadGt lib fpu r conf = { conf with gt := gtOf fpu r } := by
  have hmem : vtpFwTypeGt ∈ [vtpFwTypeGt] := by decide
  simp only [uploadGt, vtpGetGtLatency, vtpGetGtWidth, vtpGetGtTriggerBit, h.onCommon,
    h.onTypes hmem, orError, Option.getD_some, gtOf]

theorem uploadDc_eq (h : lib.Runs vtpFwTypeDc) :
    uploadDc lib r conf = { conf with dc := dcOf r } := by
  have hmem : vtpFwTypeDc ∈ [vtpFwTypeDc] := by decide
  simp only [uploadDc, vtpGetDcSegmentThresholdMin, vtpGetDcRoadId, h.onTypes hmem,
    Option.getD_some, dcOf]

theorem uploadHcal_eq (h : lib.Runs vtpFwTypeHcal) :
    uploadHcal lib r conf = { conf with hcal := hcalOf r } := by
  have hmem : vtpFwTypeHcal ∈ [vtpFwTypeHcal] := by decide
  simp only [uploadHcal, vtpGetHcalClusterCoincidence, vtpGetHcalClusterThreshold,
    h.onTypes hmem, Option.getD_some, hcalOf]

theorem uploadFtcal_eq (h : lib.Runs vtpFwTypeFtcal) (stack : Word) :
    uploadFtcal lib fpu r stack conf =
      { conf with
        hps.pairTrig := update conf.hps.pairTrig 2 (withPairFlags stack (conf.hps.pairTrig 2)) } := by
  have hrefused : lib.vtpGetHPSPairTrigger fpu 2 (conf.hps.pairTrig 2) r = none := by
    rw [vtpGetHPSPairTrigger, VtpLib.onTypes, if_neg]
    simp [ready, checkInit, checkType, h.mapped, h.fwType, vtpFwTypeHps, vtpFwTypeFtcal,
      vtpFwTypeCommon]
  rw [uploadFtcal, hrefused, Option.getD_none]

theorem uploadFthodo_eq (h : lib.Runs vtpFwTypeFthodo) :
    uploadFthodo lib r conf = { conf with fthodo := fthodoOf r } := by
  have hmem : vtpFwTypeFthodo ∈ [vtpFwTypeFthodo] := by decide
  simp only [uploadFthodo, vtpGetFTHODOemin, h.onTypes hmem, Option.getD_some, fthodoOf]

/-- The calibration and the trigger bits are what they were. -/
theorem uploadHps_eq (h : lib.Runs vtpFwTypeHps) :
    uploadHps lib fpu r conf =
      { conf with
        hps := { hpsOf fpu r conf.hps with calib := conf.hps.calib, trig := conf.hps.trig } } := by
  have hmem : vtpFwTypeHps ∈ [vtpFwTypeHps] := by decide
  simp only [uploadHps, vtpGetHPSCluster, vtpGetHPSHodoscope, vtpGetHPSSingleTrigger,
    vtpGetHPSPairTrigger, vtpGetHPSMultiplicityTrigger, vtpGetHPSFeeTrigger, h.onTypes hmem,
    Option.getD_some, hpsOf, hpsClusterOf, hpsHodoscopeOf, Bool.false_eq_true, if_false]

/-- Latency and width are what they were. -/
theorem uploadCompton_eq (h : lib.Runs vtpFwTypeCompton) :
    uploadCompton lib r conf =
      { conf with
        compton :=
          { comptonOf r conf.compton with
            trig :=
              { comptonTrigOf r conf.compton.trig with
                latency := conf.compton.trig.latency
                width := conf.compton.trig.width } } } := by
  have hmem : vtpFwTypeCompton ∈ [vtpFwTypeCompton] := by decide
  simp only [uploadCompton, vtpGetComptonTrigger, vtpGetComptonEnableScalerReadout,
    vtpGetComptonVetrocWidth, vtpGetTriggerBitPrescaler, vtpGetTriggerBitDelay, h.onCommon,
    h.onTypes hmem, orError, Option.getD_some, comptonOf, comptonTrigOf]

end

end VtpStreaming
