import VtpStreaming.HpsLib
import VtpStreaming.StreamingLib

/-!
# Reading the registers back

`vtp/vtpConfig.c`, `vtpUploadAll`, the part before the text: the registers of the
board, decoded by the getters of the library, over the configuration. Each block
is for one firmware type. A getter that is refused leaves its target as it was.
-/

namespace VtpStreaming

open Clib Function

/-- What a function that is refused returns instead of its value. -/
def orError (v : Option Word) : Word := v.getD (BitVec.ofInt 32 error)

/-- A block of the function: it runs on one firmware type. -/
def VtpConf.onFwType {α : Type} (conf : VtpConf) (type : Int) (f : α → α) (a : α) : α :=
  if (conf.fwType 0).toInt = type then f a else a

section

variable (lib : VtpLib) (fpu : FloatUnit) (r : Regs)

/-! ## The blocks -/

def uploadFirmware (conf : VtpConf) : VtpConf :=
  if lib.checkInit then { conf with fwRev := r.fwVersion, fwType := r.fwType }
  else
    { conf with
      fwRev := fun _ => BitVec.ofInt 32 error
      fwType := fun _ => BitVec.ofInt 32 error }

/-- The payload mask is not read. -/
def uploadCommon (conf : VtpConf) : VtpConf :=
  { conf with
    windowWidth := orError (lib.vtpGetWindowWidth r)
    windowOffset := orError (lib.vtpGetWindowLookback r)
    fiberEn := orError (lib.vtpGetTriggerFiberMask r) }

/-- The Dalitz limits are divided by 8 after they are read. -/
def uploadEcView (inst : Fin 2) (v : EcView) : EcView :=
  let dalitz := (lib.vtpGetECtrigDalitz inst r).getD (v.dalitzMin, v.dalitzMax)
  { hitEmin := (lib.vtpGetECtrigEmin inst r).getD v.hitEmin
    hitDt := (lib.vtpGetECtrigDt inst r).getD v.hitDt
    cosmicEmin := (lib.vtpGetECcosmicEmin inst r).getD v.cosmicEmin
    cosmicMultmax := (lib.vtpGetECcosmicMultmax inst r).getD v.cosmicMultmax
    cosmicHitwidth := (lib.vtpGetECcosmicWidth inst r).getD v.cosmicHitwidth
    cosmicEvaldelay := (lib.vtpGetECcosmicDelay inst r).getD v.cosmicEvaldelay
    dalitzMin := dalitz.1.sdiv 8#32
    dalitzMax := dalitz.2.sdiv 8#32 }

def uploadEc (conf : VtpConf) : VtpConf :=
  { conf with
    ec :=
      { fadcsumChEn := (lib.vtpGetFadcSumMaskEn r).getD conf.ec.fadcsumChEn
        inner := uploadEcView lib r 0 conf.ec.inner
        outer := uploadEcView lib r 1 conf.ec.outer } }

def uploadPc (conf : VtpConf) : VtpConf :=
  { conf with
    pc :=
      { fadcsumChEn := (lib.vtpGetFadcSumMaskEn r).getD conf.pc.fadcsumChEn
        cosmicEmin := (lib.vtpGetPCcosmicEmin r).getD conf.pc.cosmicEmin
        cosmicMultmax := (lib.vtpGetPCcosmicMultmax r).getD conf.pc.cosmicMultmax
        cosmicHitwidth := (lib.vtpGetPCcosmicWidth r).getD conf.pc.cosmicHitwidth
        cosmicEvaldelay := (lib.vtpGetPCcosmicDelay r).getD conf.pc.cosmicEvaldelay
        cosmicPixelen := (lib.vtpGetPCcosmicPixel r).getD conf.pc.cosmicPixelen } }

def uploadHtcc (conf : VtpConf) : VtpConf :=
  { conf with
    htcc :=
      { threshold := (lib.vtpGetHTCCthresholds r).getD conf.htcc.threshold
        nframes := (lib.vtpGetHTCCnframes r).getD conf.htcc.nframes
        ctofThreshold := (lib.vtpGetCTOFthresholds r).getD conf.htcc.ctofThreshold
        ctofNframes := (lib.vtpGetCTOFnframes r).getD conf.htcc.ctofNframes } }

def uploadFtof (conf : VtpConf) : VtpConf :=
  { conf with
    ftof :=
      { threshold := (lib.vtpGetFTOFthresholds r).getD conf.ftof.threshold
        nframes := (lib.vtpGetFTOFnframes r).getD conf.ftof.nframes } }

def uploadCnd (conf : VtpConf) : VtpConf :=
  { conf with
    cnd :=
      { threshold := (lib.vtpGetCNDthresholds r).getD conf.cnd.threshold
        nframes := (lib.vtpGetCNDnframes r).getD conf.cnd.nframes } }

def uploadPcs (conf : VtpConf) : VtpConf :=
  let dalitz := (lib.vtpGetPCSdalitz r).getD (conf.pcs.dalitzMin, conf.pcs.dalitzMax)
  { conf with
    pcs :=
      { conf.pcs with
        threshold := (lib.vtpGetPCSthresholds r).getD conf.pcs.threshold
        nframes := (lib.vtpGetPCSnframes r).getD conf.pcs.nframes
        dipfactor := (lib.vtpGetPCSdipfactor r).getD conf.pcs.dipfactor
        nstripMax := (lib.vtpGetPCSnstrip r).getD conf.pcs.nstripMax
        dalitzMin := dalitz.1
        dalitzMax := dalitz.2
        pcuThreshold := (lib.vtpGetPCUthresholds r).getD conf.pcs.pcuThreshold
        cosmicEmin := (lib.vtpGetPCcosmicEmin r).getD conf.pcs.cosmicEmin
        cosmicMultmax := (lib.vtpGetPCcosmicMultmax r).getD conf.pcs.cosmicMultmax
        cosmicHitwidth := (lib.vtpGetPCcosmicWidth r).getD conf.pcs.cosmicHitwidth
        cosmicEvaldelay := (lib.vtpGetPCcosmicDelay r).getD conf.pcs.cosmicEvaldelay
        cosmicPixelen := (lib.vtpGetPCcosmicPixel r).getD conf.pcs.cosmicPixelen } }

def uploadEcsView (inst : Fin 2) (v : EcsView) : EcsView where
  cosmicEmin := (lib.vtpGetECcosmicEmin inst r).getD v.cosmicEmin
  cosmicMultmax := (lib.vtpGetECcosmicMultmax inst r).getD v.cosmicMultmax
  cosmicHitwidth := (lib.vtpGetECcosmicWidth inst r).getD v.cosmicHitwidth
  cosmicEvaldelay := (lib.vtpGetECcosmicDelay inst r).getD v.cosmicEvaldelay

/-- Both instances are read into the outer view, one after the other. -/
def uploadEcs (conf : VtpConf) : VtpConf :=
  let dalitz := (lib.vtpGetECSdalitz r).getD (conf.ecs.dalitzMin, conf.ecs.dalitzMax)
  { conf with
    ecs :=
      { conf.ecs with
        fadcsumChEn := (lib.vtpGetFadcSumMaskEn r).getD conf.ecs.fadcsumChEn
        outer := uploadEcsView lib r 1 (uploadEcsView lib r 0 conf.ecs.outer)
        threshold := (lib.vtpGetECSthresholds r).getD conf.ecs.threshold
        nframes := (lib.vtpGetECSnframes r).getD conf.ecs.nframes
        dipfactor := (lib.vtpGetECSdipfactor r).getD conf.ecs.dipfactor
        nstripMax := (lib.vtpGetECSnstrip r).getD conf.ecs.nstripMax
        dalitzMin := dalitz.1
        dalitzMax := dalitz.2 } }

def uploadGt (conf : VtpConf) : VtpConf :=
  { conf with
    gt :=
      { trigLatency := orError (lib.vtpGetGtLatency r)
        trigWidth := orError (lib.vtpGetGtWidth r)
        trgbits := fun i => (lib.vtpGetGtTriggerBit fpu i r).getD (conf.gt.trgbits i) } }

def uploadDc (conf : VtpConf) : VtpConf :=
  { conf with
    dc :=
      { dcsegfindThreshold := fun i =>
          (lib.vtpGetDcSegmentThresholdMin i r).getD (conf.dc.dcsegfindThreshold i)
        roadid := (lib.vtpGetDcRoadId r).getD conf.dc.roadid } }

def uploadHcal (conf : VtpConf) : VtpConf :=
  { conf with
    hcal :=
      { hitDt := (lib.vtpGetHcalClusterCoincidence r).getD conf.hcal.hitDt
        clusterEmin := (lib.vtpGetHcalClusterThreshold r).getD conf.hcal.clusterEmin } }

/-- The block reads pair trigger 2 of HPS, where the loop before it has left off.
On this firmware the getter is refused, and `enable_flags` is what the stack
holds. -/
def uploadFtcal (stack : Word) (conf : VtpConf) : VtpConf :=
  let trig := conf.hps.pairTrig 2
  let read := (lib.vtpGetHPSPairTrigger fpu 2 trig r).getD (VtpLib.withPairFlags stack trig)
  { conf with hps.pairTrig := update conf.hps.pairTrig 2 read }

def uploadFthodo (conf : VtpConf) : VtpConf :=
  { conf with fthodo.hitEmin := (lib.vtpGetFTHODOemin r).getD conf.fthodo.hitEmin }

/-- The calibration, the latency and the prescale factors are not read. The block
ends in one for the streaming firmware, which it never is. -/
def uploadHps (conf : VtpConf) : VtpConf :=
  { conf with
    hps :=
      { conf.hps with
        cluster := (lib.vtpGetHPSCluster r).getD conf.hps.cluster
        hodoscope := (lib.vtpGetHPSHodoscope r).getD conf.hps.hodoscope
        singleTrig := fun i =>
          (lib.vtpGetHPSSingleTrigger fpu i false (conf.hps.singleTrig i) r).getD (conf.hps.singleTrig i)
        pairTrig := fun i =>
          (lib.vtpGetHPSPairTrigger fpu i (conf.hps.pairTrig i) r).getD (conf.hps.pairTrig i)
        multTrig := fun i => (lib.vtpGetHPSMultiplicityTrigger i r).getD (conf.hps.multTrig i)
        feeTrig := (lib.vtpGetHPSFeeTrigger r).getD conf.hps.feeTrig } }

/-- An instance of the Compton trigger, as an index of the trigger bits. -/
def comptonBit (i : Fin 5) : Fin 32 := ⟨i, by omega⟩

/-- What the loop over the instances stores at index `k`. -/
def uploadBits (read : Fin 5 → Word) (old : Fin 32 → Word) (k : Fin 32) : Word :=
  if h : k.val < 5 then read ⟨k, h⟩ else old k

/-- `vtpGetGt_latency` and `vtpGetGt_width` take no pointer. What they return
is dropped. -/
def uploadCompton (conf : VtpConf) : VtpConf :=
  let c := conf.compton
  let read (i : Fin 5) := (lib.vtpGetComptonTrigger i r).getD
    (c.fadcThreshold i, c.eplaneMultMin i, c.eplaneMask i, c.fadcMask i)
  { conf with
    compton :=
      { enableScalerReadout :=
          (lib.vtpGetComptonEnableScalerReadout r).getD c.enableScalerReadout
        vetrocWidth := (lib.vtpGetComptonVetrocWidth r).getD c.vetrocWidth
        fadcThreshold := fun i => (read i).1
        eplaneMultMin := fun i => (read i).2.1
        eplaneMask := fun i => (read i).2.2.1
        fadcMask := fun i => (read i).2.2.2
        trig :=
          { c.trig with
            prescale := uploadBits
              (fun i => orError (lib.vtpGetTriggerBitPrescaler (comptonBit i) r)) c.trig.prescale
            delay := uploadBits
              (fun i => (lib.vtpGetTriggerBitDelay (comptonBit i) r).getD
                (c.trig.delay (comptonBit i)))
              c.trig.delay } } }

/-! ## The function -/

def vtpUploadAll (stack : Word) (conf : VtpConf) : VtpConf :=
  let conf := uploadFirmware lib r conf
  let block := fun type f => conf.onFwType type f
  uploadCommon lib r conf
    |> block vtpFwTypeEc (uploadEc lib r)
    |> block vtpFwTypePc (uploadPc lib r)
    |> block vtpFwTypeHtcc (uploadHtcc lib r)
    |> block vtpFwTypeFtof (uploadFtof lib r)
    |> block vtpFwTypeCnd (uploadCnd lib r)
    |> block vtpFwTypePcs (uploadPcs lib r)
    |> block vtpFwTypeEcs (uploadEcs lib r)
    |> block vtpFwTypeGt (uploadGt lib fpu r)
    |> block vtpFwTypeDc (uploadDc lib r)
    |> block vtpFwTypeHcal (uploadHcal lib r)
    |> block vtpFwTypeFtcal (uploadFtcal lib fpu r stack)
    |> block vtpFwTypeFthodo (uploadFthodo lib r)
    |> block vtpFwTypeHps (uploadHps lib fpu r)
    |> block vtpFwTypeCompton (uploadCompton lib r)

end

end VtpStreaming
