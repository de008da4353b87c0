import Mathlib.Data.Fin.VecNotation
import VtpStreaming.Clib.BitField
import VtpStreaming.Conf
import VtpStreaming.VtpLib

/-!
# The trigger part of the library

`vtp/vtpLib.c`: what the configuration calls for the trigger firmwares, setters
and getters side by side, in the order of the file. A setter gives the registers
after the call, a getter what it stores through its pointers, and each of them
nothing when it is refused. The arithmetic is that of `int` on 32 bits.
-/

namespace VtpStreaming

open Clib Function

namespace VtpLib

variable (lib : VtpLib)

/-! ## Readout window -/

/-- The clock of the window, in ns. -/
def windowTick : Word := if lib.fwType 0 = vtpFwTypeDc then 8#32 else 4#32

def vtpSetWindow (lookback width : Word) : Regs → Option Regs := lib.onInit fun r =>
  { r with eb := ⟨lookback.sdiv lib.windowTick, width.sdiv lib.windowTick⟩ }

def vtpGetWindowLookback : Regs → Option Word := lib.onInit fun r => r.eb.lookback * lib.windowTick

def vtpGetWindowWidth : Regs → Option Word := lib.onInit fun r => r.eb.windowWidth * lib.windowTick

/-! ## Payload ports and fibers -/

/-- `vtpSerdesEnable`: what it leaves in the control register. An enabled link is
reset first. -/
def serdesCtrl (enable : Bool) : Word := if enable then 0#32 else 1#32

/-- The firmware types with the mask in `fadcDec`. -/
def fadcDecTypes : List Int :=
  [vtpFwTypeEcs, vtpFwTypePcs, vtpFwTypeEc, vtpFwTypePc, vtpFwTypeHtcc, vtpFwTypeFtof,
   vtpFwTypeCnd, vtpFwTypeFthodo, vtpFwTypeHps, vtpFwTypeCompton, vtpFwTypeVcodaroc]

/-- The `switch` of `vtpEnableTriggerPayloadMask`. -/
def writePayloadMask (ppMask : Word) (r : Regs) : Regs :=
  if lib.fwType 0 ∈ fadcDecTypes then { r with fadcDec := ppMask }
  else if lib.fwType 0 = vtpFwTypeGt then { r with sspDec := ppMask }
  else if lib.fwType 0 = vtpFwTypeDc then { r with dcrbDec := ppMask }
  else if lib.fwType 0 = vtpFwTypeHcal then { r with hcal.ctrl := ppMask }
  else if lib.fwType 0 = vtpFwTypeFtcal then { r with ftcalDec := ppMask }
  else r

def vtpEnableTriggerPayloadMask (ppMask : Word) : Regs → Option Regs := lib.onInit fun r =>
  { lib.writePayloadMask ppMask r with vxs := fun i => serdesCtrl (ppMask.getLsbD i) }

def vtpGetTriggerPayloadMask : Regs → Option Word := lib.onInit fun r =>
  if lib.fwType 0 ∈ fadcDecTypes then r.fadcDec
  else if lib.fwType 0 = vtpFwTypeGt then r.sspDec
  else if lib.fwType 0 = vtpFwTypeDc then r.dcrbDec
  else if lib.fwType 0 = vtpFwTypeHcal then r.hcal.ctrl
  else if lib.fwType 0 = vtpFwTypeFtcal then r.ftcalDec
  else 0#32

/-- The `switch` of `vtpEnableTriggerFiberMask`. -/
def writeFiberMask (fiberMask : Word) (r : Regs) : Regs :=
  if lib.fwType 0 = vtpFwTypeFtcal then
    { r with ftcalDec := (r.ftcalDec &&& 0xffff#32) ||| (fiberMask <<< 16) }
  else if lib.fwType 0 = vtpFwTypeDc then
    { r with dcrbRoadFind.ctrl := (fiberMask >>> 1) &&& 3#32 }
  else r

def vtpEnableTriggerFiberMask (fiberMask : Word) : Regs → Option Regs := lib.onInit fun r =>
  { lib.writeFiberMask fiberMask r with qsfp := fun i => serdesCtrl (fiberMask.getLsbD i) }

def vtpGetTriggerFiberMask : Regs → Option Word := lib.onInit fun r =>
  if lib.fwType 0 = vtpFwTypeFtcal then (r.ftcalDec >>> 16) &&& 0xf#32
  else if lib.fwType 0 = vtpFwTypeDc then (r.dcrbRoadFind.ctrl &&& 3#32) <<< 1
  else 0#32

/-! ## EC trigger -/

def ecHitEmin : BitField 32 := ⟨0, 13, by decide⟩ -- 0x00001FFF
def ecHitDt : BitField 32 := ⟨16, 4, by decide⟩ -- 0x000F0000
def ecHitPeakMultmax : BitField 32 := ⟨24, 5, by decide⟩ -- 0x1F000000

def vtpSetECtrigDt (inst : Fin 2) (dt : Word) : Regs → Option Regs :=
  lib.onTypes [vtpFwTypeEc] fun r =>
    let ec := r.ecTrigger inst
    { r with
      ecTrigger := update r.ecTrigger inst
        { ec with hit := ecHitDt.put (checkRange 0 8 (dt.sdiv 4#32)) ec.hit } }

def vtpGetECtrigDt (inst : Fin 2) : Regs → Option Word :=
  lib.onTypes [vtpFwTypeEc] fun r => ecHitDt.get (r.ecTrigger inst).hit * 4#32

def vtpSetECtrigEmin (inst : Fin 2) (emin : Word) : Regs → Option Regs :=
  lib.onTypes [vtpFwTypeEc] fun r =>
    let ec := r.ecTrigger inst
    { r with ecTrigger := update r.ecTrigger inst { ec with hit := ecHitEmin.put emin ec.hit } }

def vtpGetECtrigEmin (inst : Fin 2) : Regs → Option Word :=
  lib.onTypes [vtpFwTypeEc] fun r => ecHitEmin.get (r.ecTrigger inst).hit

def vtpSetECtrigPeakMultmax (inst : Fin 2) (multMax : Word) : Regs → Option Regs :=
  lib.onTypes [vtpFwTypeEc] fun r =>
    let ec := r.ecTrigger inst
    { r with
      ecTrigger := update r.ecTrigger inst { ec with hit := ecHitPeakMultmax.put multMax ec.hit } }

def vtpGetECtrigPeakMultmax (inst : Fin 2) : Regs → Option Word :=
  lib.onTypes [vtpFwTypeEc] fun r => ecHitPeakMultmax.get (r.ecTrigger inst).hit

def vtpSetECtrigDalitz (inst : Fin 2) (min max : Word) : Regs → Option Regs :=
  lib.onTypes [vtpFwTypeEc] fun r =>
    let ec := r.ecTrigger inst
    { r with ecTrigger := update r.ecTrigger inst { ec with dalitz := (max <<< 16) ||| min } }

/-- The two ends, as `*min` and `*max`. -/
def vtpGetECtrigDalitz (inst : Fin 2) : Regs → Option (Word × Word) :=
  lib.onTypes [vtpFwTypeEc] fun r =>
    let val := (r.ecTrigger inst).dalitz
    (val &&& 0x3ff#32, (val >>> 16) &&& 0x3ff#32)

/-! ## FADC sums -/

def fadcSumTypes : List Int := [vtpFwTypeEc, vtpFwTypePc, vtpFwTypeEcs, vtpFwTypeFtcal]

/-- Two channels of 16 bits to a word. -/
def fadcSumWord (mask : Fin 16 → Word) (i : Fin 8) : Word :=
  (mask ⟨2 * i, by omega⟩ &&& 0xffff#32) ||| ((mask ⟨2 * i + 1, by omega⟩ &&& 0xffff#32) <<< 16)

def fadcSumChannel (sum : Fin 8 → Word) (k : Fin 16) : Word :=
  let val := sum ⟨k / 2, by omega⟩
  if k.val % 2 = 0 then val &&& 0xffff#32 else (val >>> 16) &&& 0xffff#32

def vtpSetFadcSumMaskEn (mask : Fin 16 → Word) : Regs → Option Regs :=
  lib.onTypes fadcSumTypes fun r => { r with fadcSum := fadcSumWord mask }

def vtpGetFadcSumMaskEn : Regs → Option (Fin 16 → Word) :=
  lib.onTypes fadcSumTypes fun r => fadcSumChannel r.fadcSum

/-! ## Cosmic triggers

The masks `VTP_ECCOSMIC_*` and `VTP_PCCOSMIC_*` are the same. -/

def cosmicCtrlEmin : BitField 32 := ⟨0, 13, by decide⟩ -- 0x00001FFF
def cosmicCtrlMultmax : BitField 32 := ⟨24, 6, by decide⟩ -- 0x3F000000
def cosmicCtrlPixel : BitField 32 := ⟨16, 1, by decide⟩ -- 0x00010000
def cosmicDelayWidth : BitField 32 := ⟨0, 8, by decide⟩ -- 0x000000FF
def cosmicDelayEval : BitField 32 := ⟨16, 8, by decide⟩ -- 0x00FF0000

def ecCosmicTypes : List Int := [vtpFwTypeEc, vtpFwTypeEcs]
def pcCosmicTypes : List Int := [vtpFwTypePc, vtpFwTypePcs]

/-- A setter of one field of `ecCosmic[inst]`. -/
def setEcCosmic (inst : Fin 2) (f : CosmicRegs → CosmicRegs) : Regs → Option Regs :=
  lib.onTypes ecCosmicTypes fun r =>
    { r with ecCosmic := update r.ecCosmic inst (f (r.ecCosmic inst)) }

def getEcCosmic (inst : Fin 2) (f : CosmicRegs → Word) : Regs → Option Word :=
  lib.onTypes ecCosmicTypes fun r => f (r.ecCosmic inst)

def vtpSetECcosmicEmin (inst : Fin 2) (emin : Word) : Regs → Option Regs :=
  lib.setEcCosmic inst fun c => { c with ctrl := cosmicCtrlEmin.put emin c.ctrl }

def vtpGetECcosmicEmin (inst : Fin 2) : Regs → Option Word :=
  lib.getEcCosmic inst fun c => cosmicCtrlEmin.get c.ctrl

def vtpSetECcosmicMultmax (inst : Fin 2) (multmax : Word) : Regs → Option Regs :=
  lib.setEcCosmic inst fun c => { c with ctrl := cosmicCtrlMultmax.put multmax c.ctrl }

def vtpGetECcosmicMultmax (inst : Fin 2) : Regs → Option Word :=
  lib.getEcCosmic inst fun c => cosmicCtrlMultmax.get c.ctrl

def vtpSetECcosmicWidth (inst : Fin 2) (hitwidth : Word) : Regs → Option Regs :=
  lib.setEcCosmic inst fun c => { c with delay := cosmicDelayWidth.put hitwidth c.delay }

def vtpGetECcosmicWidth (inst : Fin 2) : Regs → Option Word :=
  lib.getEcCosmic inst fun c => cosmicDelayWidth.get c.delay

def vtpSetECcosmicDelay (inst : Fin 2) (evaldelay : Word) : Regs → Option Regs :=
  lib.setEcCosmic inst fun c => { c with delay := cosmicDelayEval.put evaldelay c.delay }

def vtpGetECcosmicDelay (inst : Fin 2) : Regs → Option Word :=
  lib.getEcCosmic inst fun c => cosmicDelayEval.get c.delay

/-- A setter of one field of `pcCosmic`. -/
def setPcCosmic (f : CosmicRegs → CosmicRegs) : Regs → Option Regs :=
  lib.onTypes pcCosmicTypes fun r => { r with pcCosmic := f r.pcCosmic }

def getPcCosmic (f : CosmicRegs → Word) : Regs → Option Word :=
  lib.onTypes pcCosmicTypes fun r => f r.pcCosmic

def vtpSetPCcosmicEmin (emin : Word) : Regs → Option Regs :=
  lib.setPcCosmic fun c => { c with ctrl := cosmicCtrlEmin.put emin c.ctrl }

def vtpGetPCcosmicEmin : Regs → Option Word := lib.getPcCosmic fun c => cosmicCtrlEmin.get c.ctrl

def vtpSetPCcosmicMultmax (multmax : Word) : Regs → Option Regs :=
  lib.setPcCosmic fun c => { c with ctrl := cosmicCtrlMultmax.put multmax c.ctrl }

def vtpGetPCcosmicMultmax : Regs → Option Word :=
  lib.getPcCosmic fun c => cosmicCtrlMultmax.get c.ctrl

def vtpSetPCcosmicWidth (hitwidth : Word) : Regs → Option Regs :=
  lib.setPcCosmic fun c => { c with delay := cosmicDelayWidth.put hitwidth c.delay }

def vtpGetPCcosmicWidth : Regs → Option Word :=
  lib.getPcCosmic fun c => cosmicDelayWidth.get c.delay

def vtpSetPCcosmicDelay (evaldelay : Word) : Regs → Option Regs :=
  lib.setPcCosmic fun c => { c with delay := cosmicDelayEval.put evaldelay c.delay }

def vtpGetPCcosmicDelay : Regs → Option Word :=
  lib.getPcCosmic fun c => cosmicDelayEval.get c.delay

/-- A flag of C, as 0 or 1. -/
def flag (enable : Word) : Word := if enable = 0#32 then 0#32 else 1#32

def vtpSetPCcosmicPixel (enable : Word) : Regs → Option Regs :=
  lib.setPcCosmic fun c => { c with ctrl := cosmicCtrlPixel.put (flag enable) c.ctrl }

def vtpGetPCcosmicPixel : Regs → Option Word :=
  lib.getPcCosmic fun c => cosmicCtrlPixel.get c.ctrl

/-! ## Forward tagger -/

def ftcalCtrlSeedthr : BitField 32 := ⟨0, 13, by decide⟩ -- 0x00001FFF
def ftcalCtrlSeeddt : BitField 32 := ⟨16, 3, by decide⟩ -- 0x00070000
def ftcalCtrlHododt : BitField 32 := ⟨24, 3, by decide⟩ -- 0x07000000
def ftcalDeadtimeCtrlDeadtime : BitField 32 := ⟨16, 6, by decide⟩ -- 0x003F0000
def ftcalDeadtimeCtrlEmin : BitField 32 := ⟨0, 14, by decide⟩ -- 0x00003FFF
def fthodoCtrlEmin : BitField 32 := ⟨0, 13, by decide⟩ -- 0x00001FFF

def setFtcal (f : FtcalTriggerRegs → FtcalTriggerRegs) : Regs → Option Regs :=
  lib.onTypes [vtpFwTypeFtcal] fun r => { r with ftcalTrigger := f r.ftcalTrigger }

def getFtcal (f : FtcalTriggerRegs → Word) : Regs → Option Word :=
  lib.onTypes [vtpFwTypeFtcal] fun r => f r.ftcalTrigger

def vtpSetFTCALseedEmin (emin : Word) : Regs → Option Regs :=
  lib.setFtcal fun t => { t with ctrl := ftcalCtrlSeedthr.put emin t.ctrl }

def vtpGetFTCALseedEmin : Regs → Option Word := lib.getFtcal fun t => ftcalCtrlSeedthr.get t.ctrl

def vtpSetFTCALseedDt (dt : Word) : Regs → Option Regs :=
  lib.setFtcal fun t => { t with ctrl := ftcalCtrlSeeddt.put (dt.sdiv 4#32 &&& 7#32) t.ctrl }

def vtpGetFTCALseedDt : Regs → Option Word :=
  lib.getFtcal fun t => ftcalCtrlSeeddt.get t.ctrl * 4#32

def vtpSetFTCALhodoDt (dt : Word) : Regs → Option Regs :=
  lib.setFtcal fun t => { t with ctrl := ftcalCtrlHododt.put (dt.sdiv 4#32 &&& 7#32) t.ctrl }

def vtpGetFTCALhodoDt : Regs → Option Word :=
  lib.getFtcal fun t => ftcalCtrlHododt.get t.ctrl * 4#32

/-- The value read back first is not used. -/
def vtpSetFTHODOemin (emin : Word) : Regs → Option Regs :=
  lib.onTypes [vtpFwTypeFthodo] fun r => { r with fthodoTrigger := emin &&& fthodoCtrlEmin.low }

def vtpGetFTHODOemin : Regs → Option Word :=
  lib.onTypes [vtpFwTypeFthodo] fun r => fthodoCtrlEmin.get r.fthodoTrigger

def vtpSetFTCALclusterDeadtime (deadtime : Word) : Regs → Option Regs :=
  lib.setFtcal fun t => { t with
    deadtimeCtrl := ftcalDeadtimeCtrlDeadtime.put (deadtime.sdiv 4#32 &&& 0x3f#32) t.deadtimeCtrl }

/-- The whole register is written, the dead time with it. -/
def vtpSetFTCALclusterDeadtimeEmin (emin : Word) : Regs → Option Regs :=
  lib.setFtcal fun t => { t with deadtimeCtrl := emin &&& ftcalDeadtimeCtrlEmin.low }

/-! ## Thresholds and frames

The same four functions for five detectors. -/

/-- `HTCC`, `CTOF`, `FTOF` and `CND`: the three thresholds. -/
def thresholdsOf (thr : Fin 3 → Word) (t : ThresholdRegs) : ThresholdRegs :=
  { t with thresholds := thr }

def nframesOf (nframes : Word) (t : ThresholdRegs) : ThresholdRegs := { t with nframes := nframes }

def vtpSetHTCCthresholds (thr : Fin 3 → Word) : Regs → Option Regs :=
  lib.onTypes [vtpFwTypeHtcc] fun r => { r with htccTrigger := thresholdsOf thr r.htccTrigger }

def vtpGetHTCCthresholds : Regs → Option (Fin 3 → Word) :=
  lib.onTypes [vtpFwTypeHtcc] fun r => r.htccTrigger.thresholds

def vtpSetHTCCnframes (nframes : Word) : Regs → Option Regs :=
  lib.onTypes [vtpFwTypeHtcc] fun r => { r with htccTrigger := nframesOf nframes r.htccTrigger }

def vtpGetHTCCnframes : Regs → Option Word :=
  lib.onTypes [vtpFwTypeHtcc] fun r => r.htccTrigger.nframes

def vtpSetCTOFthresholds (thr : Fin 3 → Word) : Regs → Option Regs :=
  lib.onTypes [vtpFwTypeHtcc] fun r => { r with ctofTrigger := thresholdsOf thr r.ctofTrigger }

def vtpGetCTOFthresholds : Regs → Option (Fin 3 → Word) :=
  lib.onTypes [vtpFwTypeHtcc] fun r => r.ctofTrigger.thresholds

def vtpSetCTOFnframes (nframes : Word) : Regs → Option Regs :=
  lib.onTypes [vtpFwTypeHtcc] fun r => { r with ctofTrigger := nframesOf nframes r.ctofTrigger }

def vtpGetCTOFnframes : Regs → Option Word :=
  lib.onTypes [vtpFwTypeHtcc] fun r => r.ctofTrigger.nframes

def vtpSetFTOFthresholds (thr : Fin 3 → Word) : Regs → Option Regs :=
  lib.onTypes [vtpFwTypeFtof] fun r => { r with ftofTrigger := thresholdsOf thr r.ftofTrigger }

def vtpGetFTOFthresholds : Regs → Option (Fin 3 → Word) :=
  lib.onTypes [vtpFwTypeFtof] fun r => r.ftofTrigger.thresholds

def vtpSetFTOFnframes (nframes : Word) : Regs → Option Regs :=
  lib.onTypes [vtpFwTypeFtof] fun r => { r with ftofTrigger := nframesOf nframes r.ftofTrigger }

def vtpGetFTOFnframes : Regs → Option Word :=
  lib.onTypes [vtpFwTypeFtof] fun r => r.ftofTrigger.nframes

def vtpSetCNDthresholds (thr : Fin 3 → Word) : Regs → Option Regs :=
  lib.onTypes [vtpFwTypeCnd] fun r => { r with cndTrigger := thresholdsOf thr r.cndTrigger }

def vtpGetCNDthresholds : Regs → Option (Fin 3 → Word) :=
  lib.onTypes [vtpFwTypeCnd] fun r => r.cndTrigger.thresholds

def vtpSetCNDnframes (nframes : Word) : Regs → Option Regs :=
  lib.onTypes [vtpFwTypeCnd] fun r => { r with cndTrigger := nframesOf nframes r.cndTrigger }

def vtpGetCNDnframes : Regs → Option Word :=
  lib.onTypes [vtpFwTypeCnd] fun r => r.cndTrigger.nframes

/-! ## PCS and ECS -/

def setPcs (f : StripRegs → StripRegs) : Regs → Option Regs :=
  lib.onTypes [vtpFwTypePcs] fun r => { r with pcsTrigger := f r.pcsTrigger }

def getPcs {α : Type} (f : StripRegs → α) : Regs → Option α :=
  lib.onTypes [vtpFwTypePcs] fun r => f r.pcsTrigger

def vtpSetPCSthresholds (thr : Fin 3 → Word) : Regs → Option Regs :=
  lib.setPcs fun t => { t with thresholds := thr }

def vtpGetPCSthresholds : Regs → Option (Fin 3 → Word) := lib.getPcs fun t => t.thresholds

def vtpSetPCSnframes (nframes : Word) : Regs → Option Regs :=
  lib.setPcs fun t => { t with nframes := nframes }

def vtpGetPCSnframes : Regs → Option Word := lib.getPcs fun t => t.nframes

def vtpSetPCSdipfactor (dipfactor : Word) : Regs → Option Regs :=
  lib.setPcs fun t => { t with dipfactor := dipfactor }

def vtpGetPCSdipfactor : Regs → Option Word := lib.getPcs fun t => t.dipfactor

/-- The smallest number of strips has no register. -/
def vtpSetPCSnstrip (_nstripmin nstripmax : Word) : Regs → Option Regs :=
  lib.setPcs fun t => { t with nstripMax := nstripmax }

/-- Only `*nstripmax` is stored. -/
def vtpGetPCSnstrip : Regs → Option Word := lib.getPcs fun t => t.nstripMax

def vtpSetPCSdalitz (min max : Word) : Regs → Option Regs :=
  lib.setPcs fun t => { t with dalitzMin := min, dalitzMax := max }

def vtpGetPCSdalitz : Regs → Option (Word × Word) :=
  lib.getPcs fun t => (t.dalitzMin, t.dalitzMax)

def vtpSetPCUthresholds (thr : Fin 3 → Word) : Regs → Option Regs :=
  lib.onTypes [vtpFwTypePcs] fun r => { r with pcuTrigger := thresholdsOf thr r.pcuTrigger }

def vtpGetPCUthresholds : Regs → Option (Fin 3 → Word) :=
  lib.onTypes [vtpFwTypePcs] fun r => r.pcuTrigger.thresholds

def setEcs (f : StripRegs → StripRegs) : Regs → Option Regs :=
  lib.onTypes [vtpFwTypeEcs] fun r => { r with ecsTrigger := f r.ecsTrigger }

def getEcs {α : Type} (f : StripRegs → α) : Regs → Option α :=
  lib.onTypes [vtpFwTypeEcs] fun r => f r.ecsTrigger

def vtpSetECSthresholds (thr : Fin 3 → Word) : Regs → Option Regs :=
  lib.setEcs fun t => { t with thresholds := thr }

def vtpGetECSthresholds : Regs → Option (Fin 3 → Word) := lib.getEcs fun t => t.thresholds

def vtpSetECSnframes (nframes : Word) : Regs → Option Regs :=
  lib.setEcs fun t => { t with nframes := nframes }

def vtpGetECSnframes : Regs → Option Word := lib.getEcs fun t => t.nframes

def vtpSetECSdipfactor (dipfactor : Word) : Regs → Option Regs :=
  lib.setEcs fun t => { t with dipfactor := dipfactor }

def vtpGetECSdipfactor : Regs → Option Word := lib.getEcs fun t => t.dipfactor

def vtpSetECSnstrip (_nstripmin nstripmax : Word) : Regs → Option Regs :=
  lib.setEcs fun t => { t with nstripMax := nstripmax }

def vtpGetECSnstrip : Regs → Option Word := lib.getEcs fun t => t.nstripMax

def vtpSetECSdalitz (min max : Word) : Regs → Option Regs :=
  lib.setEcs fun t => { t with dalitzMin := min <<< 3, dalitzMax := max <<< 3 }

def vtpGetECSdalitz : Regs → Option (Word × Word) :=
  lib.getEcs fun t => (t.dalitzMin >>> 3, t.dalitzMax >>> 3)

/-! ## Drift chambers -/

def vtpSetDcSegmentThresholdMin (inst : Fin 2) (threshold : Word) : Regs → Option Regs :=
  lib.onTypes [vtpFwTypeDc] fun r => { r with dcrbSegFind := update r.dcrbSegFind inst threshold }

def vtpGetDcSegmentThresholdMin (inst : Fin 2) : Regs → Option Word :=
  lib.onTypes [vtpFwTypeDc] fun r => r.dcrbSegFind inst

/-- A character of the road id. The shift counts bits where it means bytes. -/
def roadIdChar (id : Fin 2 → Word) (i : Fin 8) : Char :=
  let c := ((id ⟨i / 4, by omega⟩).sshiftRight (i % 4) &&& 0xff#32).toNat
  if 32 ≤ c ∧ c < 127 then Char.ofNat c else '!'

def vtpGetDcRoadId : Regs → Option (List Char) :=
  lib.onTypes [vtpFwTypeDc] fun r => (List.finRange 8).map (roadIdChar r.dcrbRoadFind.id)

/-! ## Trigger outputs -/

def vtpSetGtLatency (latency : Word) : Regs → Option Regs :=
  lib.onTypes [vtpFwTypeCommon] fun r => { r with trigOut.latency := latency.sdiv 4#32 }

def vtpGetGtLatency : Regs → Option Word :=
  lib.onTypes [vtpFwTypeCommon] fun r => r.trigOut.latency * 4#32

def vtpSetGtWidth (width : Word) : Regs → Option Regs :=
  lib.onTypes [vtpFwTypeCommon] fun r => { r with trigOut.width := width }

def vtpGetGtWidth : Regs → Option Word :=
  lib.onTypes [vtpFwTypeCommon] fun r => r.trigOut.width

def triggerBitDelay : BitField 32 := ⟨16, 8, by decide⟩ -- 0x00FF0000
def triggerBitPrescaler : BitField 32 := ⟨0, 16, by decide⟩ -- 0x0000FFFF

/-- A setter of one field of `trigOut.Prescaler[inst]`. -/
def setPrescaler (inst : Fin 32) (f : Word → Word) : Regs → Option Regs :=
  lib.onTypes [vtpFwTypeCommon] fun r =>
    { r with
      trigOut.prescaler := update r.trigOut.prescaler inst (f (r.trigOut.prescaler inst)) }

def vtpSetTriggerBitDelay (inst : Fin 32) (delay : Word) : Regs → Option Regs :=
  lib.setPrescaler inst (triggerBitDelay.put ((checkRange 0 1020 delay).sdiv 4#32))

def vtpGetTriggerBitDelay (inst : Fin 32) : Regs → Option Word :=
  lib.onTypes [vtpFwTypeCommon] fun r => triggerBitDelay.get (r.trigOut.prescaler inst) * 4#32

def vtpSetTriggerBitPrescaler (inst : Fin 32) (prescale : Word) : Regs → Option Regs :=
  lib.setPrescaler inst (triggerBitPrescaler.put (checkRange 0 65535 prescale))

def vtpGetTriggerBitPrescaler (inst : Fin 32) : Regs → Option Word :=
  lib.onTypes [vtpFwTypeCommon] fun r => triggerBitPrescaler.get (r.trigOut.prescaler inst)

end VtpLib

/-! ## Global trigger -/

/-- The conversions between a `float` of the configuration and what a register
holds. A `float` is checked against its range before it is converted. -/
structure FloatUnit where
  /-- `vtpSetGtTriggerBit`, `vtpGetGtTriggerBit`: a frequency as ticks of 250 MHz. -/
  pulser : FloatText → Word
  pulserFreq : Word → FloatText
  /-- `vtpSetHPS_SingleTrigger`, `vtpGetHPS_SingleTrigger`: 16 fractional bits. -/
  pdeC : FloatText → Word
  pdeFloat : Word → FloatText
  /-- `vtpSetHPS_PairTrigger`, `vtpGetHPS_PairTrigger`: 4 fractional bits, at most 15.9375. -/
  edFactor : FloatText → Byte
  edFloat : Byte → FloatText
  /-- `vtpGetHPS_CalibrationTrigger`: a period of ticks of 250 MHz as a frequency. -/
  calibFreq : Word → FloatText

/-- What the conversions are at 0. -/
def FloatUnit.zeros : FloatUnit where
  pulser _ := 0#32
  pulserFreq _ := []
  pdeC _ := 0#32
  pdeFloat _ := []
  edFactor _ := 0#8
  edFloat _ := []
  calibFreq _ := []

namespace VtpLib

variable (lib : VtpLib) (fpu : FloatUnit)

/-- What `vtpSetGtTriggerBit` writes for the trigger bit. -/
def gtBitRegs (b : TrgBit) : GtBitRegs where
  cTrigger := b.sspCtriggerBitMask &&& 0xf#32
  sTrigger := ((b.sectorMultMin 0 &&& 7#32) <<< 4) ||| ((b.sspSectorMask 0 &&& 0x3f#32) <<< 8) |||
    ((b.sectorCoinWidth &&& 0xff#32) <<< 16) ||| ((b.delay &&& 0xff#32) <<< 24)
  sTriggerMask := b.sspStriggerBitMask 0 &&& 0xffff#32
  sTrigger1 := ((b.sectorMultMin 1 &&& 7#32) <<< 4) ||| ((b.sspSectorMask 1 &&& 0x3f#32) <<< 8)
  sTrigger1Mask := b.sspStriggerBitMask 1 &&& 0xffff#32
  pulser := fpu.pulser b.pulserFreq

/-- What `vtpGetGtTriggerBit` reads. -/
def gtBitOf (g : GtBitRegs) (prescaler : Word) : TrgBit where
  sspStriggerBitMask := ![g.sTriggerMask &&& 0xffff#32, g.sTrigger1Mask &&& 0xffff#32]
  sspSectorMask := ![(g.sTrigger >>> 8) &&& 0x3f#32, (g.sTrigger1 >>> 8) &&& 0x3f#32]
  sectorMultMin := ![(g.sTrigger >>> 4) &&& 7#32, (g.sTrigger1 >>> 4) &&& 7#32]
  sectorCoinWidth := (g.sTrigger >>> 16) &&& 0xff#32
  sspCtriggerBitMask := g.cTrigger &&& 0xf#32
  delay := (g.sTrigger >>> 24) &&& 0xff#32
  pulserFreq := fpu.pulserFreq g.pulser
  prescale := prescaler

def vtpSetGtTriggerBit (inst : Fin 32) (b : TrgBit) : Regs → Option Regs :=
  lib.onTypes [vtpFwTypeGt] fun r =>
    { r with
      gtBit := update r.gtBit inst (gtBitRegs fpu b)
      trigOut.prescaler := update r.trigOut.prescaler inst b.prescale }

def vtpGetGtTriggerBit (inst : Fin 32) : Regs → Option TrgBit :=
  lib.onTypes [vtpFwTypeGt] fun r => gtBitOf fpu (r.gtBit inst) (r.trigOut.prescaler inst)

/-! ## HCAL -/

def vtpSetHcalClusterCoincidence (coin : Word) : Regs → Option Regs :=
  lib.onTypes [vtpFwTypeHcal] fun r =>
    { r with
      hcal.clusterPulseCoincidence := (if 7 < coin.toInt then 7#32 else coin).sdiv 4#32 }

def vtpGetHcalClusterCoincidence : Regs → Option Word :=
  lib.onTypes [vtpFwTypeHcal] fun r => r.hcal.clusterPulseCoincidence * 4#32

def vtpSetHcalClusterThreshold (thr : Word) : Regs → Option Regs :=
  lib.onTypes [vtpFwTypeHcal] fun r =>
    { r with hcal.clusterPulseThreshold := if 8191 < thr.toInt then 8191#32 else thr }

def vtpGetHcalClusterThreshold : Regs → Option Word :=
  lib.onTypes [vtpFwTypeHcal] fun r => r.hcal.clusterPulseThreshold

/-! ## Hall A Compton -/

def comptonFadcThreshold : BitField 32 := ⟨0, 13, by decide⟩ -- 0x00001FFF
def comptonVetrocWidth : BitField 32 := ⟨16, 8, by decide⟩ -- 0x00FF0000
def comptonEplaneMultMin : BitField 32 := ⟨24, 3, by decide⟩ -- 0x07000000
def comptonEplaneMask : BitField 32 := ⟨28, 4, by decide⟩ -- 0xF0000000
def comptonScalerReadout : BitField 32 := ⟨15, 1, by decide⟩ -- 0x00008000

/-- `FadcMask[inst/2]`: the even instance has the low half, the odd one the high half. -/
def comptonFadcMask (inst : Fin 5) : BitField 32 :=
  if inst.val % 2 = 1 then ⟨16, 16, by decide⟩ else ⟨0, 16, by decide⟩

def fadcMaskIndex (inst : Fin 5) : Fin 3 := ⟨inst / 2, by omega⟩

def setComptonCtrl0 (f : Word → Word) : Regs → Option Regs :=
  lib.onTypes [vtpFwTypeCompton] fun r =>
    { r with comptonTrigger.ctrl := update r.comptonTrigger.ctrl 0 (f (r.comptonTrigger.ctrl 0)) }

def vtpSetComptonVetrocWidth (width : Word) : Regs → Option Regs :=
  lib.setComptonCtrl0 (comptonVetrocWidth.put (checkRange 0 0xff width))

def vtpGetComptonVetrocWidth : Regs → Option Word :=
  lib.onTypes [vtpFwTypeCompton] fun r => comptonVetrocWidth.get (r.comptonTrigger.ctrl 0)

def vtpSetComptonEnableScalerReadout (en : Word) : Regs → Option Regs :=
  lib.setComptonCtrl0 (comptonScalerReadout.put (checkRange 0 1 en))

def vtpGetComptonEnableScalerReadout : Regs → Option Word :=
  lib.onTypes [vtpFwTypeCompton] fun r => comptonScalerReadout.get (r.comptonTrigger.ctrl 0)

/-- The control word: the mask 0xFF00FFFF clears the pulse width and nothing that
is about to be stored. -/
def comptonCtrl (threshold multMin eplaneMask reg : Word) : Word :=
  (reg &&& 0xff00ffff#32) ||| (checkRange 0 0x1fff threshold &&& 0x1fff#32) |||
    ((checkRange 0 4 multMin <<< 24) &&& 0x07000000#32) ||| ((eplaneMask <<< 28) &&& 0xf0000000#32)

def vtpSetComptonTrigger (inst : Fin 5) (threshold multMin eplaneMask fadcMask : Word) :
    Regs → Option Regs :=
  lib.onTypes [vtpFwTypeCompton] fun r =>
    let c := r.comptonTrigger
    let half := fadcMaskIndex inst
    { r with
      comptonTrigger :=
        { ctrl := update c.ctrl inst (comptonCtrl threshold multMin eplaneMask (c.ctrl inst))
          fadcMask := update c.fadcMask half
            ((comptonFadcMask inst).put fadcMask (c.fadcMask half)) } }

/-- The threshold, the multiplicity, the plane mask and the FADC mask. -/
def vtpGetComptonTrigger (inst : Fin 5) : Regs → Option (Word × Word × Word × Word) :=
  lib.onTypes [vtpFwTypeCompton] fun r =>
    let reg := r.comptonTrigger.ctrl inst
    (comptonFadcThreshold.get reg, comptonEplaneMultMin.get reg, comptonEplaneMask.get reg,
      (comptonFadcMask inst).get (r.comptonTrigger.fadcMask (fadcMaskIndex inst)))

end VtpLib

end VtpStreaming
