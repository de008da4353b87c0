import VtpStreaming.UploadAll

/-!
# Programming the registers

`vtp/vtpConfig.c`, `vtpDownloadAll` without `VTPDOWNLOADALL_FIRMWARE_LOAD`, which
nothing defines: the configuration is written to the board by the setters of the
library, a block for each firmware type. It ends with `vtpUploadAllPrint`, which
reads the registers back over the configuration.
-/

namespace VtpStreaming

open Clib Function

section

variable (lib : VtpLib) (fpu : FloatUnit) (conf : VtpConf)

/-! ## The blocks -/

def downloadCommon (r : Regs) : Regs :=
  r |> call (lib.vtpSetWindow conf.windowOffset conf.windowWidth)
    |> call (lib.vtpEnableTriggerPayloadMask conf.payloadEn)
    |> call (lib.vtpEnableTriggerFiberMask conf.fiberEn)

def downloadEcView (inst : Fin 2) (v : EcView) (r : Regs) : Regs :=
  r |> call (lib.vtpSetECtrigEmin inst v.hitEmin)
    |> call (lib.vtpSetECtrigDt inst v.hitDt)
    |> call (lib.vtpSetECtrigDalitz inst v.dalitzMin v.dalitzMax)
    |> call (lib.vtpSetECcosmicEmin inst v.cosmicEmin)
    |> call (lib.vtpSetECcosmicMultmax inst v.cosmicMultmax)
    |> call (lib.vtpSetECcosmicWidth inst v.cosmicHitwidth)
    |> call (lib.vtpSetECcosmicDelay inst v.cosmicEvaldelay)

def downloadEc (r : Regs) : Regs :=
  r |> call (lib.vtpSetFadcSumMaskEn conf.ec.fadcsumChEn)
    |> downloadEcView lib 0 conf.ec.inner
    |> downloadEcView lib 1 conf.ec.outer

def downloadPc (r : Regs) : Regs :=
  r |> call (lib.vtpSetFadcSumMaskEn conf.pc.fadcsumChEn)
    |> call (lib.vtpSetPCcosmicEmin conf.pc.cosmicEmin)
    |> call (lib.vtpSetPCcosmicMultmax conf.pc.cosmicMultmax)
    |> call (lib.vtpSetPCcosmicWidth conf.pc.cosmicHitwidth)
    |> call (lib.vtpSetPCcosmicDelay conf.pc.cosmicEvaldelay)
    |> call (lib.vtpSetPCcosmicPixel conf.pc.cosmicPixelen)

def downloadHtcc (r : Regs) : Regs :=
  r |> call (lib.vtpSetHTCCthresholds conf.htcc.threshold)
    |> call (lib.vtpSetHTCCnframes conf.htcc.nframes)
    |> call (lib.vtpSetCTOFthresholds conf.htcc.ctofThreshold)
    |> call (lib.vtpSetCTOFnframes conf.htcc.ctofNframes)

def downloadFtof (r : Regs) : Regs :=
  r |> call (lib.vtpSetFTOFthresholds conf.ftof.threshold)
    |> call (lib.vtpSetFTOFnframes conf.ftof.nframes)

def downloadCnd (r : Regs) : Regs :=
  r |> call (lib.vtpSetCNDthresholds conf.cnd.threshold)
    |> call (lib.vtpSetCNDnframes conf.cnd.nframes)

def downloadPcs (r : Regs) : Regs :=
  r |> call (lib.vtpSetPCSthresholds conf.pcs.threshold)
    |> call (lib.vtpSetPCSnframes conf.pcs.nframes)
    |> call (lib.vtpSetPCSdipfactor conf.pcs.dipfactor)
    |> call (lib.vtpSetPCSnstrip conf.pcs.nstripMin conf.pcs.nstripMax)
    |> call (lib.vtpSetPCSdalitz conf.pcs.dalitzMin conf.pcs.dalitzMax)
    |> call (lib.vtpSetPCUthresholds conf.pcs.pcuThreshold)
    |> call (lib.vtpSetPCcosmicEmin conf.pcs.cosmicEmin)
    |> call (lib.vtpSetPCcosmicMultmax conf.pcs.cosmicMultmax)
    |> call (lib.vtpSetPCcosmicWidth conf.pcs.cosmicHitwidth)
    |> call (lib.vtpSetPCcosmicDelay conf.pcs.cosmicEvaldelay)
    |> call (lib.vtpSetPCcosmicPixel conf.pcs.cosmicPixelen)

def downloadEcsView (inst : Fin 2) (v : EcsView) (r : Regs) : Regs :=
  r |> call (lib.vtpSetECcosmicEmin inst v.cosmicEmin)
    |> call (lib.vtpSetECcosmicMultmax inst v.cosmicMultmax)
    |> call (lib.vtpSetECcosmicWidth inst v.cosmicHitwidth)
    |> call (lib.vtpSetECcosmicDelay inst v.cosmicEvaldelay)

def downloadEcs (r : Regs) : Regs :=
  r |> call (lib.vtpSetFadcSumMaskEn conf.ecs.fadcsumChEn)
    |> call (lib.vtpSetECSthresholds conf.ecs.threshold)
    |> call (lib.vtpSetECSnframes conf.ecs.nframes)
    |> call (lib.vtpSetECSdipfactor conf.ecs.dipfactor)
    |> call (lib.vtpSetECSnstrip conf.ecs.nstripMin conf.ecs.nstripMax)
    |> call (lib.vtpSetECSdalitz conf.ecs.dalitzMin conf.ecs.dalitzMax)
    |> downloadEcsView lib 0 conf.ecs.inner
    |> downloadEcsView lib 1 conf.ecs.outer

def downloadGt (r : Regs) : Regs :=
  let r := r |> call (lib.vtpSetGtLatency conf.gt.trigLatency)
    |> call (lib.vtpSetGtWidth conf.gt.trigWidth)
  (List.finRange 32).foldl
    (fun r ii => call (lib.vtpSetGtTriggerBit fpu ii (conf.gt.trgbits ii)) r) r

def downloadDc (r : Regs) : Regs :=
  r |> call (lib.vtpSetDcSegmentThresholdMin 0 (conf.dc.dcsegfindThreshold 0))
    |> call (lib.vtpSetDcSegmentThresholdMin 1 (conf.dc.dcsegfindThreshold 1))

def downloadHcal (r : Regs) : Regs :=
  r |> call (lib.vtpSetHcalClusterCoincidence conf.hcal.hitDt)
    |> call (lib.vtpSetHcalClusterThreshold conf.hcal.clusterEmin)

def downloadFtcal (r : Regs) : Regs :=
  r |> call (lib.vtpSetFadcSumMaskEn conf.ftcal.fadcsumChEn)
    |> call (lib.vtpSetFTCALseedEmin conf.ftcal.seedEmin)
    |> call (lib.vtpSetFTCALseedDt conf.ftcal.seedDt)
    |> call (lib.vtpSetFTCALhodoDt conf.ftcal.hodoDt)
    |> call (lib.vtpSetFTCALclusterDeadtime conf.ftcal.deadtime)
    |> call (lib.vtpSetFTCALclusterDeadtimeEmin conf.ftcal.deadtimeEmin)

def downloadFthodo (r : Regs) : Regs := r |> call (lib.vtpSetFTHODOemin conf.fthodo.hitEmin)

/-- After the FEE trigger comes pair trigger 2 again, where the last loop has
left its index. -/
def downloadHps (r : Regs) : Regs :=
  let hps := conf.hps
  let r := r
    |> call (lib.vtpSetHPSCluster hps.cluster.topNbottom hps.cluster.hitDt hps.cluster.seedThr)
    |> call (lib.vtpSetHPSHodoscope hps.hodoscope.hitDt hps.hodoscope.fadchitThr
        hps.hodoscope.hodoThr)
  let r := (List.finRange 4).foldl
    (fun r ii => r
      |> call (lib.vtpSetHPSSingleTrigger fpu ii false (hps.singleTrig ii))
      |> call (lib.vtpSetHPSSingleTrigger fpu ii true (hps.singleTrig ii))) r
  let r := (List.finRange 4).foldl
    (fun r ii => call (lib.vtpSetHPSPairTrigger fpu ii (hps.pairTrig ii)) r) r
  let r := (List.finRange 2).foldl
    (fun r ii => call (lib.vtpSetHPSMultiplicityTrigger ii (hps.multTrig ii)) r) r
  r |> call (lib.vtpSetHPSFeeTrigger hps.feeTrig)
    |> call (lib.vtpSetHPSPairTrigger fpu 2 (hps.pairTrig 2))

def downloadCompton (r : Regs) : Regs :=
  let c := conf.compton
  let r := (List.finRange 5).foldl
    (fun r ii => r
      |> call (lib.vtpSetTriggerBitPrescaler (comptonBit ii) (c.trig.prescale (comptonBit ii)))
      |> call (lib.vtpSetTriggerBitDelay (comptonBit ii) (c.trig.delay (comptonBit ii)))
      |> call (lib.vtpSetComptonTrigger ii (c.fadcThreshold ii) (c.eplaneMultMin ii)
          (c.eplaneMask ii) (c.fadcMask ii))) r
  r |> call (lib.vtpSetComptonEnableScalerReadout c.enableScalerReadout)
    |> call (lib.vtpSetComptonVetrocWidth c.vetrocWidth)
    |> call (lib.vtpSetGtLatency c.trig.latency)
    |> call (lib.vtpSetGtWidth c.trig.width)

/-- Only entry 0 is programmed, and the connection is left to the readout list. -/
def downloadFadcstream (r : Regs) : Regs :=
  let s := conf.fadcStreaming
  r |> call (lib.vtpStreamingSetEbCfg conf.payloadEn (s.eb 0).nstreams s.frameLen s.rocId none)
    |> call (lib.vtpStreamingSetTcpCfg 0 (s.eb 0).ipaddr (s.eb 0).subnet (s.eb 0).gateway
        (s.eb 0).mac (s.eb 0).destip (s.eb 0).destipport (s.eb 0).localport)

/-- The block of each firmware type, in order. On the ROC firmware the parameters
are printed and nothing is written. -/
def downloadBlocks (r : Regs) : Regs :=
  let block := fun type f => conf.onFwType type f
  r |> block vtpFwTypeEc (downloadEc lib conf)
    |> block vtpFwTypePc (downloadPc lib conf)
    |> block vtpFwTypeHtcc (downloadHtcc lib conf)
    |> block vtpFwTypeFtof (downloadFtof lib conf)
    |> block vtpFwTypeCnd (downloadCnd lib conf)
    |> block vtpFwTypePcs (downloadPcs lib conf)
    |> block vtpFwTypeEcs (downloadEcs lib conf)
    |> block vtpFwTypeGt (downloadGt lib fpu conf)
    |> block vtpFwTypeDc (downloadDc lib conf)
    |> block vtpFwTypeHcal (downloadHcal lib conf)
    |> block vtpFwTypeFtcal (downloadFtcal lib conf)
    |> block vtpFwTypeFthodo (downloadFthodo lib conf)
    |> block vtpFwTypeHps (downloadHps lib fpu conf)
    |> block vtpFwTypeCompton (downloadCompton lib conf)
    |> block vtpFwTypeFadcstream (downloadFadcstream lib conf)

/-! ## The function -/

/-- The configuration and the registers after the call. -/
def vtpDownloadAll (stack : Word) (r : Regs) : VtpConf × Regs :=
  let conf := uploadFirmware lib r conf
  let r := downloadBlocks lib fpu conf (downloadCommon lib conf r)
  (vtpUploadAll lib fpu r stack conf, r)

end

end VtpStreaming
