import VtpStreaming.Clib.Cells
import VtpStreaming.DownloadAll

/-!
# What each block writes and reads

A block of `vtpDownloadAll` runs when the library has its firmware type, so none
of its calls is refused. Here is what it leaves in the registers, in one
expression, and what the matching block of `vtpUploadAll` makes of them.
-/

namespace VtpStreaming

open Clib Function VtpLib

/-! ## A library that runs on one firmware type -/

structure VtpLib.Runs (lib : VtpLib) (type : Int) : Prop where
  mapped : lib.mapped = true
  fwType : lib.fwType 0 = type

theorem VtpLib.runs_ofRegs (r : Regs) : (VtpLib.ofRegs r).Runs (r.fwType 0).toInt := ⟨rfl, rfl⟩

namespace VtpLib.Runs

variable {lib : VtpLib} {type : Int} {α : Type}

theorem ready (h : lib.Runs type) : lib.ready type 0 = true := by
  simp [VtpLib.ready, checkInit, checkType, h.mapped, h.fwType]

theorem onTypes (h : lib.Runs type) {vs : List Int} (hmem : type ∈ vs) (f : Regs → α) (r : Regs) :
    lib.onTypes vs f r = some (f r) := by
  have hready : vs.any (fun v => lib.ready v 0) = true := by
    rw [List.any_eq_true]
    exact ⟨type, hmem, h.ready⟩
  rw [VtpLib.onTypes, if_pos hready]

theorem onCommon (h : lib.Runs type) (f : Regs → α) (r : Regs) :
    lib.onTypes [vtpFwTypeCommon] f r = some (f r) := by
  rw [VtpLib.onTypes, if_pos]
  simp [VtpLib.ready, checkInit, checkType, h.mapped]

theorem onInit (h : lib.Runs type) (f : Regs → α) (r : Regs) : lib.onInit f r = some (f r) := by
  rw [VtpLib.onInit, checkInit, if_pos h.mapped]

theorem call_onTypes (h : lib.Runs type) {vs : List Int} (hmem : type ∈ vs) (f : Regs → Regs)
    (r : Regs) : call (lib.onTypes vs f) r = f r := by
  rw [call, h.onTypes hmem, Option.getD_some]

theorem call_onCommon (h : lib.Runs type) (f : Regs → Regs) (r : Regs) :
    call (lib.onTypes [vtpFwTypeCommon] f) r = f r := by
  rw [call, h.onCommon, Option.getD_some]

theorem onInst (h : lib.Runs vtpFwTypeFadcstream) {inst : Nat} (hlt : inst < 4)
    (f : Fin 4 → Regs → α) (r : Regs) : lib.onInst inst f r = some (f ⟨inst, hlt⟩ r) := by
  rw [VtpLib.onInst, if_pos h.ready, dif_pos hlt]

theorem call_onInst (h : lib.Runs vtpFwTypeFadcstream) {inst : Nat} (hlt : inst < 4)
    (f : Fin 4 → Regs → Regs) (r : Regs) : call (lib.onInst inst f) r = f ⟨inst, hlt⟩ r := by
  rw [call, h.onInst hlt, Option.getD_some]

theorem call_onInit (h : lib.Runs type) (f : Regs → Regs) (r : Regs) :
    call (lib.onInit f) r = f r := by
  rw [call, h.onInit, Option.getD_some]

end VtpLib.Runs

theorem onFwType_same {conf : VtpConf} {type : Int} {α : Type} (h : (conf.fwType 0).toInt = type)
    (f : α → α) (a : α) : conf.onFwType type f a = f a := if_pos h

theorem onFwType_other {conf : VtpConf} {type : Int} {α : Type} (h : (conf.fwType 0).toInt ≠ type)
    (f : α → α) (a : α) : conf.onFwType type f a = a := if_neg h

/-! ## Writing -/

section

variable {lib : VtpLib} {type : Int} (fpu : FloatUnit) (conf : VtpConf) (r : Regs)

theorem downloadCommon_eq (h : lib.Runs type) :
    downloadCommon lib conf r =
      { lib.writeFiberMask conf.fiberEn (lib.writePayloadMask conf.payloadEn r) with
        eb := ⟨conf.windowOffset.sdiv lib.windowTick, conf.windowWidth.sdiv lib.windowTick⟩
        vxs := fun i => serdesCtrl (conf.payloadEn.getLsbD i)
        qsfp := fun i => serdesCtrl (conf.fiberEn.getLsbD i) } := by
  simp only [downloadCommon, vtpSetWindow, vtpEnableTriggerPayloadMask, vtpEnableTriggerFiberMask,
    h.call_onInit]
  unfold writeFiberMask writePayloadMask
  split_ifs <;> rfl

def cosmicRegs (emin multmax hitwidth evaldelay : Word) (c : CosmicRegs) : CosmicRegs where
  ctrl := cosmicCtrlMultmax.put multmax (cosmicCtrlEmin.put emin c.ctrl)
  delay := cosmicDelayEval.put evaldelay (cosmicDelayWidth.put hitwidth c.delay)

def pcCosmicRegs (emin multmax hitwidth evaldelay pixelen : Word) (c : CosmicRegs) : CosmicRegs :=
  let c := cosmicRegs emin multmax hitwidth evaldelay c
  { c with ctrl := cosmicCtrlPixel.put (flag pixelen) c.ctrl }

/-- The inner view is instance 0, the outer one instance 1. -/
def EcConf.view (ec : EcConf) : Fin 2 → EcView := ![ec.inner, ec.outer]

def EcsConf.view (ecs : EcsConf) : Fin 2 → EcsView := ![ecs.inner, ecs.outer]

def ecTriggerRegs (v : EcView) (t : EcTriggerRegs) : EcTriggerRegs where
  hit := ecHitDt.put (checkRange 0 8 (v.hitDt.sdiv 4#32)) (ecHitEmin.put v.hitEmin t.hit)
  dalitz := (v.dalitzMax <<< 16) ||| v.dalitzMin

def ecCosmicRegs (v : EcView) : CosmicRegs → CosmicRegs :=
  cosmicRegs v.cosmicEmin v.cosmicMultmax v.cosmicHitwidth v.cosmicEvaldelay

def ecsCosmicRegs (v : EcsView) : CosmicRegs → CosmicRegs :=
  cosmicRegs v.cosmicEmin v.cosmicMultmax v.cosmicHitwidth v.cosmicEvaldelay

theorem downloadEcView_eq (h : lib.Runs vtpFwTypeEc) (i : Fin 2) (v : EcView) (r : Regs) :
    downloadEcView lib i v r =
      { r with
        ecTrigger := update r.ecTrigger i (ecTriggerRegs v (r.ecTrigger i))
        ecCosmic := update r.ecCosmic i (ecCosmicRegs v (r.ecCosmic i)) } := by
  have hec : vtpFwTypeEc ∈ [vtpFwTypeEc] := by decide
  have hcosmic : vtpFwTypeEc ∈ ecCosmicTypes := by decide
  simp only [downloadEcView, vtpSetECtrigEmin, vtpSetECtrigDt, vtpSetECtrigDalitz,
    vtpSetECcosmicEmin, vtpSetECcosmicMultmax, vtpSetECcosmicWidth, vtpSetECcosmicDelay,
    setEcCosmic, h.call_onTypes hec, h.call_onTypes hcosmic, update_self, update_idem,
    ecTriggerRegs, ecCosmicRegs, cosmicRegs]

/-- Both of two cells are changed. -/
theorem update_both {α : Type} (f g : Fin 2 → α) :
    update (update f 0 (g 0)) 1 (g 1) = g := by
  funext i
  match i with
  | 0 => simp
  | 1 => simp

theorem downloadEc_eq (h : lib.Runs vtpFwTypeEc) :
    downloadEc lib conf r =
      { r with
        fadcSum := fadcSumWord conf.ec.fadcsumChEn
        ecTrigger := fun i => ecTriggerRegs (conf.ec.view i) (r.ecTrigger i)
        ecCosmic := fun i => ecCosmicRegs (conf.ec.view i) (r.ecCosmic i) } := by
  have hsum : vtpFwTypeEc ∈ fadcSumTypes := by decide
  have htrigger := update_both r.ecTrigger fun i => ecTriggerRegs (conf.ec.view i) (r.ecTrigger i)
  have hcosmic := update_both r.ecCosmic fun i => ecCosmicRegs (conf.ec.view i) (r.ecCosmic i)
  rw [← htrigger, ← hcosmic]
  simp only [downloadEc, vtpSetFadcSumMaskEn, h.call_onTypes hsum, downloadEcView_eq h]
  rfl

theorem downloadPc_eq (h : lib.Runs vtpFwTypePc) :
    downloadPc lib conf r =
      { r with
        fadcSum := fadcSumWord conf.pc.fadcsumChEn
        pcCosmic := pcCosmicRegs conf.pc.cosmicEmin conf.pc.cosmicMultmax conf.pc.cosmicHitwidth
          conf.pc.cosmicEvaldelay conf.pc.cosmicPixelen r.pcCosmic } := by
  have hsum : vtpFwTypePc ∈ fadcSumTypes := by decide
  have hcosmic : vtpFwTypePc ∈ pcCosmicTypes := by decide
  simp only [downloadPc, vtpSetFadcSumMaskEn, vtpSetPCcosmicEmin, vtpSetPCcosmicMultmax,
    vtpSetPCcosmicWidth, vtpSetPCcosmicDelay, vtpSetPCcosmicPixel, setPcCosmic,
    h.call_onTypes hsum, h.call_onTypes hcosmic, pcCosmicRegs, cosmicRegs]

theorem downloadHtcc_eq (h : lib.Runs vtpFwTypeHtcc) :
    downloadHtcc lib conf r =
      { r with
        htccTrigger := ⟨conf.htcc.threshold, conf.htcc.nframes⟩
        ctofTrigger := ⟨conf.htcc.ctofThreshold, conf.htcc.ctofNframes⟩ } := by
  have hmem : vtpFwTypeHtcc ∈ [vtpFwTypeHtcc] := by decide
  simp only [downloadHtcc, vtpSetHTCCthresholds, vtpSetHTCCnframes, vtpSetCTOFthresholds,
    vtpSetCTOFnframes, h.call_onTypes hmem, thresholdsOf, nframesOf]

theorem downloadFtof_eq (h : lib.Runs vtpFwTypeFtof) :
    downloadFtof lib conf r =
      { r with ftofTrigger := ⟨conf.ftof.threshold, conf.ftof.nframes⟩ } := by
  have hmem : vtpFwTypeFtof ∈ [vtpFwTypeFtof] := by decide
  simp only [downloadFtof, vtpSetFTOFthresholds, vtpSetFTOFnframes, h.call_onTypes hmem,
    thresholdsOf, nframesOf]

theorem downloadCnd_eq (h : lib.Runs vtpFwTypeCnd) :
    downloadCnd lib conf r =
      { r with cndTrigger := ⟨conf.cnd.threshold, conf.cnd.nframes⟩ } := by
  have hmem : vtpFwTypeCnd ∈ [vtpFwTypeCnd] := by decide
  simp only [downloadCnd, vtpSetCNDthresholds, vtpSetCNDnframes, h.call_onTypes hmem,
    thresholdsOf, nframesOf]

def pcsRegs (c : PcsConf) : StripRegs where
  thresholds := c.threshold
  nframes := c.nframes
  dipfactor := c.dipfactor
  dalitzMin := c.dalitzMin
  dalitzMax := c.dalitzMax
  nstripMax := c.nstripMax

theorem downloadPcs_eq (h : lib.Runs vtpFwTypePcs) :
    downloadPcs lib conf r =
      { r with
        pcsTrigger := pcsRegs conf.pcs
        pcuTrigger := { r.pcuTrigger with thresholds := conf.pcs.pcuThreshold }
        pcCosmic := pcCosmicRegs conf.pcs.cosmicEmin conf.pcs.cosmicMultmax
          conf.pcs.cosmicHitwidth conf.pcs.cosmicEvaldelay conf.pcs.cosmicPixelen r.pcCosmic } := by
  have hmem : vtpFwTypePcs ∈ [vtpFwTypePcs] := by decide
  have hcosmic : vtpFwTypePcs ∈ pcCosmicTypes := by decide
  simp only [downloadPcs, vtpSetPCSthresholds, vtpSetPCSnframes, vtpSetPCSdipfactor,
    vtpSetPCSnstrip, vtpSetPCSdalitz, vtpSetPCUthresholds, setPcs, vtpSetPCcosmicEmin,
    vtpSetPCcosmicMultmax, vtpSetPCcosmicWidth, vtpSetPCcosmicDelay, vtpSetPCcosmicPixel,
    setPcCosmic, h.call_onTypes hmem, h.call_onTypes hcosmic, thresholdsOf, pcsRegs, pcCosmicRegs,
    cosmicRegs]

def ecsRegs (c : EcsConf) : StripRegs where
  thresholds := c.threshold
  nframes := c.nframes
  dipfactor := c.dipfactor
  dalitzMin := c.dalitzMin <<< 3
  dalitzMax := c.dalitzMax <<< 3
  nstripMax := c.nstripMax

theorem downloadEcsView_eq (h : lib.Runs vtpFwTypeEcs) (i : Fin 2) (v : EcsView) (r : Regs) :
    downloadEcsView lib i v r =
      { r with ecCosmic := update r.ecCosmic i (ecsCosmicRegs v (r.ecCosmic i)) } := by
  have hcosmic : vtpFwTypeEcs ∈ ecCosmicTypes := by decide
  simp only [downloadEcsView, vtpSetECcosmicEmin, vtpSetECcosmicMultmax, vtpSetECcosmicWidth,
    vtpSetECcosmicDelay, setEcCosmic, h.call_onTypes hcosmic, update_self, update_idem,
    ecsCosmicRegs, cosmicRegs]

theorem downloadEcs_eq (h : lib.Runs vtpFwTypeEcs) :
    downloadEcs lib conf r =
      { r with
        fadcSum := fadcSumWord conf.ecs.fadcsumChEn
        ecsTrigger := ecsRegs conf.ecs
        ecCosmic := fun i => ecsCosmicRegs (conf.ecs.view i) (r.ecCosmic i) } := by
  have hsum : vtpFwTypeEcs ∈ fadcSumTypes := by decide
  have hmem : vtpFwTypeEcs ∈ [vtpFwTypeEcs] := by decide
  have hcosmic := update_both r.ecCosmic fun i => ecsCosmicRegs (conf.ecs.view i) (r.ecCosmic i)
  rw [← hcosmic]
  simp only [downloadEcs, vtpSetFadcSumMaskEn, vtpSetECSthresholds, vtpSetECSnframes,
    vtpSetECSdipfactor, vtpSetECSnstrip, vtpSetECSdalitz, setEcs, h.call_onTypes hsum,
    h.call_onTypes hmem, downloadEcsView_eq h, ecsRegs]
  rfl

/-- The trigger bits with their prescale factors. -/
def gtBits : Cells Regs (Fin 32) (GtBitRegs × Word) where
  get r i := (r.gtBit i, r.trigOut.prescaler i)
  put f r := { r with gtBit := fun i => (f i).1, trigOut.prescaler := fun i => (f i).2 }
  get_put _ _ := rfl
  put_put _ _ _ := rfl
  put_get _ := rfl

theorem vtpSetGtTriggerBit_eq (h : lib.Runs vtpFwTypeGt) (i : Fin 32) (b : TrgBit) (r : Regs) :
    call (lib.vtpSetGtTriggerBit fpu i b) r =
      gtBits.modify i (fun _ => (gtBitRegs fpu b, b.prescale)) r := by
  have hmem : vtpFwTypeGt ∈ [vtpFwTypeGt] := by decide
  rw [vtpSetGtTriggerBit, h.call_onTypes hmem, Cells.modify]
  simp only [gtBits, Cells.update_pair]

theorem downloadGt_eq (h : lib.Runs vtpFwTypeGt) :
    downloadGt lib fpu conf r =
      { r with
        gtBit := fun i => gtBitRegs fpu (conf.gt.trgbits i)
        trigOut := ⟨conf.gt.trigLatency.sdiv 4#32, conf.gt.trigWidth,
          fun i => (conf.gt.trgbits i).prescale⟩ } := by
  simp only [downloadGt, vtpSetGtLatency, vtpSetGtWidth, h.call_onCommon,
    vtpSetGtTriggerBit_eq fpu h]
  rw [gtBits.foldl_finRange (fun i _ => (gtBitRegs fpu (conf.gt.trgbits i), (conf.gt.trgbits i).prescale))]
  rfl

theorem downloadDc_eq (h : lib.Runs vtpFwTypeDc) :
    downloadDc lib conf r = { r with dcrbSegFind := conf.dc.dcsegfindThreshold } := by
  have hmem : vtpFwTypeDc ∈ [vtpFwTypeDc] := by decide
  simp only [downloadDc, vtpSetDcSegmentThresholdMin, h.call_onTypes hmem, update_both]

theorem downloadHcal_eq (h : lib.Runs vtpFwTypeHcal) :
    downloadHcal lib conf r =
      { r with
        hcal :=
          { r.hcal with
            clusterPulseCoincidence :=
              (if 7 < conf.hcal.hitDt.toInt then 7#32 else conf.hcal.hitDt).sdiv 4#32
            clusterPulseThreshold :=
              if 8191 < conf.hcal.clusterEmin.toInt then 8191#32 else conf.hcal.clusterEmin } } := by
  have hmem : vtpFwTypeHcal ∈ [vtpFwTypeHcal] := by decide
  simp only [downloadHcal, vtpSetHcalClusterCoincidence, vtpSetHcalClusterThreshold,
    h.call_onTypes hmem]

def ftcalRegs (c : FtcalConf) (t : FtcalTriggerRegs) : FtcalTriggerRegs where
  ctrl := ftcalCtrlHododt.put (c.hodoDt.sdiv 4#32 &&& 7#32)
    (ftcalCtrlSeeddt.put (c.seedDt.sdiv 4#32 &&& 7#32) (ftcalCtrlSeedthr.put c.seedEmin t.ctrl))
  deadtimeCtrl := c.deadtimeEmin &&& ftcalDeadtimeCtrlEmin.low

theorem downloadFtcal_eq (h : lib.Runs vtpFwTypeFtcal) :
    downloadFtcal lib conf r =
      { r with
        fadcSum := fadcSumWord conf.ftcal.fadcsumChEn
        ftcalTrigger := ftcalRegs conf.ftcal r.ftcalTrigger } := by
  have hsum : vtpFwTypeFtcal ∈ fadcSumTypes := by decide
  have hmem : vtpFwTypeFtcal ∈ [vtpFwTypeFtcal] := by decide
  simp only [downloadFtcal, vtpSetFadcSumMaskEn, vtpSetFTCALseedEmin, vtpSetFTCALseedDt,
    vtpSetFTCALhodoDt, vtpSetFTCALclusterDeadtime, vtpSetFTCALclusterDeadtimeEmin, setFtcal,
    h.call_onTypes hsum, h.call_onTypes hmem, ftcalRegs]

theorem downloadFthodo_eq (h : lib.Runs vtpFwTypeFthodo) :
    downloadFthodo lib conf r =
      { r with fthodoTrigger := conf.fthodo.hitEmin &&& fthodoCtrlEmin.low } := by
  have hmem : vtpFwTypeFthodo ∈ [vtpFwTypeFthodo] := by decide
  rw [downloadFthodo, vtpSetFTHODOemin, h.call_onTypes hmem]

/-! ### HPS -/

def hpsSingle : Cells Regs (Fin 4) (HpsSingleTriggerRegs × HpsSingleTriggerRegs) where
  get r i := (r.hpsSingleTriggerTop i, r.hpsSingleTriggerBot i)
  put f r :=
    { r with
      hpsSingleTriggerTop := fun i => (f i).1
      hpsSingleTriggerBot := fun i => (f i).2 }
  get_put _ _ := rfl
  put_put _ _ _ := rfl
  put_get _ := rfl

def hpsPair : Cells Regs (Fin 4) HpsPairTriggerRegs where
  get r := r.hpsPairTrigger
  put f r := { r with hpsPairTrigger := f }
  get_put _ _ := rfl
  put_put _ _ _ := rfl
  put_get _ := rfl

def hpsMult : Cells Regs (Fin 2) HpsMultTriggerRegs where
  get r := r.hpsMultiplicityTrigger
  put f r := { r with hpsMultiplicityTrigger := f }
  get_put _ _ := rfl
  put_put _ _ _ := rfl
  put_get _ := rfl

theorem vtpSetHPSSingleTrigger_eq (h : lib.Runs vtpFwTypeHps) (i : Fin 4) (t : HpsSingleTrig)
    (r : Regs) :
    call (lib.vtpSetHPSSingleTrigger fpu i true t)
        (call (lib.vtpSetHPSSingleTrigger fpu i false t) r) =
      hpsSingle.modify i (fun _ => (singleRegs fpu t, singleRegs fpu t)) r := by
  have hmem : vtpFwTypeHps ∈ [vtpFwTypeHps] := by decide
  rw [vtpSetHPSSingleTrigger, vtpSetHPSSingleTrigger, h.call_onTypes hmem, h.call_onTypes hmem,
    Cells.modify]
  simp only [hpsSingle, Cells.update_pair, if_true, Bool.false_eq_true, if_false]

/-- What the configuration leaves in the registers of HPS. -/
def hpsRegs (hps : HpsConf) (r : Regs) : Regs :=
  { r with
    hpsCluster := (checkRange 0 1 hps.cluster.topNbottom <<< 31) |||
      (checkRange 0 4 (hps.cluster.hitDt.sdiv 4#32) <<< 16) ||| checkRange 1 8191 hps.cluster.seedThr
    hpsHodoscope := (checkRange 0 15 (hps.hodoscope.hitDt.sdiv 4#32) <<< 26) |||
      (checkRange 1 8191 hps.hodoscope.hodoThr <<< 13) |||
        checkRange 1 8191 hps.hodoscope.fadchitThr
    hpsSingleTriggerTop := fun i => singleRegs fpu (hps.singleTrig i)
    hpsSingleTriggerBot := fun i => singleRegs fpu (hps.singleTrig i)
    hpsPairTrigger := fun i => pairRegs fpu (hps.pairTrig i)
    hpsMultiplicityTrigger := fun i => multRegs (hps.multTrig i) (r.hpsMultiplicityTrigger i)
    hpsFeeTriggerTop := feeRegs hps.feeTrig
    hpsFeeTriggerBot := feeRegs hps.feeTrig }

theorem downloadHps_eq (h : lib.Runs vtpFwTypeHps) :
    downloadHps lib fpu conf r = hpsRegs fpu conf.hps r := by
  have hmem : vtpFwTypeHps ∈ [vtpFwTypeHps] := by decide
  have hpair (i : Fin 4) (t : HpsPairTrig) (r : Regs) :
      call (lib.vtpSetHPSPairTrigger fpu i t) r = hpsPair.modify i (fun _ => pairRegs fpu t) r := by
    rw [vtpSetHPSPairTrigger, h.call_onTypes hmem]
    rfl
  have hmult (i : Fin 2) (t : HpsMultTrig) (r : Regs) :
      call (lib.vtpSetHPSMultiplicityTrigger i t) r = hpsMult.modify i (multRegs t) r := by
    rw [vtpSetHPSMultiplicityTrigger, h.call_onTypes hmem]
    rfl
  -- the last call writes what is there
  have hagain : update (fun i => pairRegs fpu (conf.hps.pairTrig i)) 2
      (pairRegs fpu (conf.hps.pairTrig 2)) = fun i => pairRegs fpu (conf.hps.pairTrig i) :=
    update_eq_self _ _
  simp only [downloadHps, vtpSetHPSSingleTrigger_eq fpu h, hmult, hpair]
  rw [hpsSingle.foldl_finRange fun i _ =>
      (singleRegs fpu (conf.hps.singleTrig i), singleRegs fpu (conf.hps.singleTrig i)),
    hpsPair.foldl_finRange fun i _ => pairRegs fpu (conf.hps.pairTrig i),
    hpsMult.foldl_finRange fun i => multRegs (conf.hps.multTrig i)]
  simp only [vtpSetHPSCluster, vtpSetHPSHodoscope, vtpSetHPSFeeTrigger, h.call_onTypes hmem,
    Cells.modify, hpsPair, hpsSingle, hpsMult, hagain, hpsRegs]

/-! ### Compton and streaming -/

/-- `trigOut.Prescaler` after the loop over the instances. -/
def comptonPrescaler (c : ComptonTrigConf) (reg : Fin 32 → Word) (k : Fin 32) : Word :=
  if k.val < 5 then
    triggerBitDelay.put ((checkRange 0 1020 (c.delay k)).sdiv 4#32)
      (triggerBitPrescaler.put (checkRange 0 65535 (c.prescale k)) (reg k))
  else reg k

/-- `comptonTrigger.Ctrl` after the loop. -/
def comptonCtrls (c : ComptonConf) (reg : Fin 5 → Word) (i : Fin 5) : Word :=
  comptonCtrl (c.fadcThreshold i) (c.eplaneMultMin i) (c.eplaneMask i) (reg i)

/-- `comptonTrigger.FadcMask` after the loop. -/
def comptonFadcMasks (mask : Fin 5 → Word) (reg : Fin 3 → Word) : Fin 3 → Word :=
  ![(comptonFadcMask 1).put (mask 1) ((comptonFadcMask 0).put (mask 0) (reg 0)),
    (comptonFadcMask 3).put (mask 3) ((comptonFadcMask 2).put (mask 2) (reg 1)),
    (comptonFadcMask 4).put (mask 4) (reg 2)]

def comptonLoop (c : ComptonConf) (r : Regs) : Regs :=
  { r with
    trigOut.prescaler := comptonPrescaler c.trig r.trigOut.prescaler
    comptonTrigger := ⟨comptonCtrls c r.comptonTrigger.ctrl,
      comptonFadcMasks c.fadcMask r.comptonTrigger.fadcMask⟩ }

def comptonCtrl0 (c : ComptonConf) (reg : Word) : Word :=
  comptonVetrocWidth.put (checkRange 0 0xff c.vetrocWidth)
    (comptonScalerReadout.put (checkRange 0 1 c.enableScalerReadout) reg)

def comptonRegs (c : ComptonConf) (r : Regs) : Regs :=
  let r := comptonLoop c r
  { r with
    comptonTrigger.ctrl := update r.comptonTrigger.ctrl 0 (comptonCtrl0 c (r.comptonTrigger.ctrl 0))
    trigOut.latency := c.trig.latency.sdiv 4#32
    trigOut.width := c.trig.width }

/-- The trigger bits of the instances, among all. -/
def comptonBits : Cells (Fin 32 → Word) (Fin 5) Word where
  get reg i := reg (comptonBit i)
  put f reg k := if h : k.val < 5 then f ⟨k, h⟩ else reg k
  get_put f reg := by
    funext i
    simp [comptonBit]
  put_put f g reg := by
    funext k
    by_cases h : k.val < 5 <;> simp [h]
  put_get reg := by
    funext k
    by_cases h : k.val < 5 <;> simp [h, comptonBit]

def wholeArray (ι : Type) : Cells (ι → Word) ι Word where
  get := id
  put f _ := f
  get_put _ _ := rfl
  put_put _ _ _ := rfl
  put_get _ := rfl

theorem comptonBits_modify (i : Fin 5) (v : Word → Word) (reg : Fin 32 → Word) :
    comptonBits.modify i v reg = update reg (comptonBit i) (v (reg (comptonBit i))) := by
  funext k
  simp only [Cells.modify, comptonBits, Function.update_apply]
  by_cases hk : k.val < 5
  · have hself : comptonBit ⟨k, hk⟩ = k := rfl
    have hbit : k = comptonBit i ↔ (⟨k, hk⟩ : Fin 5) = i := by
      simp [comptonBit, Fin.ext_iff]
    simp only [hk, dif_pos, hself, hbit]
  · have hbit : k ≠ comptonBit i := by
      intro h
      apply hk
      rw [h]
      exact i.isLt
    simp [hk, hbit]

theorem comptonBits_put (c : ComptonTrigConf) (reg : Fin 32 → Word) :
    comptonBits.put (fun i => triggerBitDelay.put
        ((checkRange 0 1020 (c.delay (comptonBit i))).sdiv 4#32)
        (triggerBitPrescaler.put (checkRange 0 65535 (c.prescale (comptonBit i)))
          (reg (comptonBit i)))) reg =
      comptonPrescaler c reg := by
  funext k
  simp only [comptonBits, comptonPrescaler, comptonBit]
  by_cases hk : k.val < 5 <;> simp [hk]

/-- The masks of the five instances share three registers. -/
theorem foldl_fadcMask (mask : Fin 5 → Word) (reg : Fin 3 → Word) :
    (List.finRange 5).foldl (fun reg i => update reg (fadcMaskIndex i)
        ((comptonFadcMask i).put (mask i) (reg (fadcMaskIndex i)))) reg =
      comptonFadcMasks mask reg := by
  have hfive : List.finRange 5 = [0, 1, 2, 3, 4] := by decide
  have hindex : fadcMaskIndex 0 = 0 ∧ fadcMaskIndex 1 = 0 ∧ fadcMaskIndex 2 = 1 ∧
      fadcMaskIndex 3 = 1 ∧ fadcMaskIndex 4 = 2 := by decide
  obtain ⟨h0, h1, h2, h3, h4⟩ := hindex
  simp only [hfive, List.foldl_cons, List.foldl_nil, h0, h1, h2, h3, h4]
  funext k
  match k with
  | 0 => simp [comptonFadcMasks]
  | 1 => simp [comptonFadcMasks]
  | 2 => simp [comptonFadcMasks]

/-- One turn of the loop over the instances. -/
def comptonTurn (lib : VtpLib) (c : ComptonConf) (r : Regs) (ii : Fin 5) : Regs :=
  r |> call (lib.vtpSetTriggerBitPrescaler (comptonBit ii) (c.trig.prescale (comptonBit ii)))
    |> call (lib.vtpSetTriggerBitDelay (comptonBit ii) (c.trig.delay (comptonBit ii)))
    |> call (lib.vtpSetComptonTrigger ii (c.fadcThreshold ii) (c.eplaneMultMin ii)
        (c.eplaneMask ii) (c.fadcMask ii))

theorem foldl_comptonTurn (h : lib.Runs vtpFwTypeCompton) (c : ComptonConf) (l : List (Fin 5))
    (r : Regs) :
    l.foldl (comptonTurn lib c) r =
      { r with
        trigOut.prescaler := l.foldl (fun reg i => comptonBits.modify i (fun x =>
          triggerBitDelay.put ((checkRange 0 1020 (c.trig.delay (comptonBit i))).sdiv 4#32)
            (triggerBitPrescaler.put (checkRange 0 65535 (c.trig.prescale (comptonBit i))) x)) reg)
          r.trigOut.prescaler
        comptonTrigger :=
          ⟨l.foldl (fun reg i => (wholeArray _).modify i (comptonCtrl (c.fadcThreshold i)
              (c.eplaneMultMin i) (c.eplaneMask i)) reg) r.comptonTrigger.ctrl,
            l.foldl (fun reg i => update reg (fadcMaskIndex i)
              ((comptonFadcMask i).put (c.fadcMask i) (reg (fadcMaskIndex i))))
              r.comptonTrigger.fadcMask⟩ } := by
  have hmem : vtpFwTypeCompton ∈ [vtpFwTypeCompton] := by decide
  induction l generalizing r with
  | nil => rfl
  | cons i l ih =>
    rw [List.foldl_cons, ih]
    simp only [comptonTurn, vtpSetTriggerBitPrescaler, vtpSetTriggerBitDelay, setPrescaler,
      vtpSetComptonTrigger, h.call_onCommon, h.call_onTypes hmem, update_self, update_idem,
      List.foldl_cons, comptonBits_modify]
    rfl

theorem downloadCompton_eq (h : lib.Runs vtpFwTypeCompton) :
    downloadCompton lib conf r = comptonRegs conf.compton r := by
  have hmem : vtpFwTypeCompton ∈ [vtpFwTypeCompton] := by decide
  have hloop : (List.finRange 5).foldl (comptonTurn lib conf.compton) r =
      comptonLoop conf.compton r := by
    rw [foldl_comptonTurn h, comptonBits.foldl_finRange, (wholeArray _).foldl_finRange,
      foldl_fadcMask]
    exact congrArg (fun p => { r with
      trigOut.prescaler := p
      comptonTrigger := ⟨comptonCtrls conf.compton r.comptonTrigger.ctrl,
        comptonFadcMasks conf.compton.fadcMask r.comptonTrigger.fadcMask⟩ })
      (comptonBits_put conf.compton.trig r.trigOut.prescaler)
  rw [show downloadCompton lib conf r = call (lib.vtpSetGtWidth conf.compton.trig.width)
    (call (lib.vtpSetGtLatency conf.compton.trig.latency)
      (call (lib.vtpSetComptonVetrocWidth conf.compton.vetrocWidth)
        (call (lib.vtpSetComptonEnableScalerReadout conf.compton.enableScalerReadout)
          ((List.finRange 5).foldl (comptonTurn lib conf.compton) r)))) from rfl, hloop]
  simp only [vtpSetComptonEnableScalerReadout, vtpSetComptonVetrocWidth, setComptonCtrl0,
    vtpSetGtLatency, vtpSetGtWidth, h.call_onCommon, h.call_onTypes hmem, update_self, update_idem,
    comptonRegs, comptonCtrl0]

def ebRegs (payloadEn : Word) (s : FadcStreamingConf) (eb : StreamingEbRegs) : StreamingEbRegs :=
  { eb with
    ctrl := 0x80000000#32 ||| (frameTicks s.frameLen <<< 16) ||| (payloadEn &&& 0xffff#32)
    rocid := checkRange 0 127 s.rocId
    ctrl3 := 0x08#32 ||| ebNstreams (s.eb 0).nstreams }

def tcpRegs (eb : StreamingEbCfg) (t : TcpipClientRegs) : TcpipClientRegs :=
  { tcpAddresses eb.ipaddr eb.subnet eb.gateway eb.mac t with
    tcpDestAddr := ipWord eb.destip
    tcpPort := portWord (localportOf eb.localport) eb.destipport }

theorem downloadFadcstream_eq (h : lib.Runs vtpFwTypeFadcstream) :
    downloadFadcstream lib conf r =
      { r with
        streamingEb := ebRegs conf.payloadEn conf.fadcStreaming r.streamingEb
        tcpClient := update r.tcpClient 0 (tcpRegs (conf.fadcStreaming.eb 0) (r.tcpClient 0)) } := by
  have hmem : vtpFwTypeFadcstream ∈ [vtpFwTypeFadcstream] := by decide
  have hlt : 0 < 4 := by decide
  simp only [downloadFadcstream, vtpStreamingSetEbCfg, vtpStreamingSetTcpCfg, h.call_onInst hlt,
    h.call_onTypes hmem, setTcpClient, ebPpCfg, ebRegs, tcpRegs]
  rfl

end

end VtpStreaming
