import VtpStreaming.Quantised

/-!
# The setters of packed registers

`vtp/vtpLib.c`: the setters that read a register, clear a field and or a value in.
Many of them store the value as it comes, so that it can spill into the fields above,
and the one of the Compton trigger clears another field than those it stores.
-/

namespace VtpStreaming

open Clib Function

/-! ## Setters of one field -/

/-- A register of the board. -/
structure RegPlace where
  reg : Regs → Word
  withReg : Word → Regs → Regs
  reg_withReg : ∀ x r, reg (withReg x r) = x
  withReg_withReg : ∀ x y r, withReg x (withReg y r) = withReg x r

/-- A setter and its getter: the register of the instance, the field, the value that is
stored there, the unit of what is read, and the value that a reader expects. -/
structure PackedSetter where
  types : List Int
  set : VtpLib → Word → Regs → Option Regs
  get : VtpLib → Regs → Option Word
  place : RegPlace
  field : BitField 32
  raw : Word → Word
  unit : Word
  legal : Word → Word
  set_eq : ∀ lib v, set lib v =
    lib.onTypes types fun r => place.withReg (field.put (raw v) (place.reg r)) r
  get_eq : ∀ lib, get lib = lib.onTypes types fun r => field.get (place.reg r) * unit
  legal_eq : ∀ v, legal v = (raw v &&& field.low) * unit

/-- The library runs on one of the firmwares. -/
def VtpLib.accepts (lib : VtpLib) (types : List Int) : Bool := types.any fun v => lib.ready v 0

theorem VtpLib.onTypes_accepted {α : Type} {lib : VtpLib} {types : List Int}
    (h : lib.accepts types = true) (f : Regs → α) (r : Regs) : lib.onTypes types f r = some (f r) :=
  if_pos h

theorem VtpLib.onTypes_refused {α : Type} {lib : VtpLib} {types : List Int}
    (h : ¬ lib.accepts types = true) (f : Regs → α) (r : Regs) : lib.onTypes types f r = none :=
  if_neg h

namespace PackedSetter

variable (s : PackedSetter) (lib : VtpLib) (r : Regs) (v : Word)

/-- The two boards differ at most in the field. -/
def IsLocal (r' : Regs) : Prop :=
  ∃ x, r' = s.place.withReg x r ∧ x &&& ~~~s.field.mask = s.place.reg r &&& ~~~s.field.mask

/-- The call changes its own field and nothing else, and the value is read back; on
another firmware setter and getter are refused. -/
def SetsLocally : Prop :=
  if lib.accepts s.types then
    ∃ r', s.set lib v r = some r' ∧ s.IsLocal r r' ∧ s.get lib r' = some (s.legal v)
  else s.set lib v r = none ∧ s.get lib r = none

/-- The bits of the value that do not fit in the field are set already. -/
def Covered : Prop := s.field.spill (s.raw v) &&& s.place.reg r = s.field.spill (s.raw v)

variable {s lib r v}

theorem isLocal_iff (x : Word) :
    s.IsLocal r (s.place.withReg x r) ↔
      x &&& ~~~s.field.mask = s.place.reg r &&& ~~~s.field.mask := by
  constructor
  · rintro ⟨y, hy, hbits⟩
    have hxy := congrArg s.place.reg hy
    rw [s.place.reg_withReg, s.place.reg_withReg] at hxy
    rwa [hxy]
  · exact fun hbits => ⟨x, rfl, hbits⟩

theorem setsLocally_iff : s.SetsLocally lib r v ↔ (lib.accepts s.types = true → s.Covered r v) := by
  unfold SetsLocally
  rw [s.set_eq, s.get_eq]
  split
  · next haccepts =>
    simp only [VtpLib.onTypes_accepted haccepts, Option.some.injEq, exists_eq_left', isLocal_iff,
      s.place.reg_withReg, BitField.get_put, ← s.legal_eq, and_true, BitField.put_local_iff]
    exact ⟨fun hcovered _ => hcovered, fun hcovered => hcovered haccepts⟩
  · next hrefuses =>
    exact iff_of_true ⟨VtpLib.onTypes_refused hrefuses _ r, VtpLib.onTypes_refused hrefuses _ r⟩
      (fun haccepts => absurd haccepts hrefuses)

/-- A value that was cut to the field is stored beside anything. -/
theorem covered_of_holds (h : s.field.Holds (s.raw v)) : s.Covered r v := by
  unfold Covered
  rw [BitField.spill_of_holds h, BitVec.zero_and]

/-- A second call leaves nothing of a first one that was local. -/
theorem set_set (h : s.SetsLocally lib r v) (u : Word) :
    (s.set lib v r).bind (s.set lib u) = s.set lib u r := by
  have hcovered := setsLocally_iff.mp h
  rw [s.set_eq, s.set_eq]
  cases haccepts : lib.accepts s.types with
  | true =>
    simp only [VtpLib.onTypes_accepted haccepts, Option.bind_some, s.place.reg_withReg,
      s.place.withReg_withReg, BitField.put_put s.field (hcovered haccepts)]
  | false =>
    have hrefuses : ¬ lib.accepts s.types = true := Bool.eq_false_iff.mp haccepts
    rw [VtpLib.onTypes_refused hrefuses, VtpLib.onTypes_refused hrefuses, Option.bind_none]

end PackedSetter

/-! ## The registers -/

section

open VtpLib

def ecHit (inst : Fin 2) : RegPlace where
  reg r := (r.ecTrigger inst).hit
  withReg x r := { r with ecTrigger := update r.ecTrigger inst { r.ecTrigger inst with hit := x } }
  reg_withReg x r := by simp
  withReg_withReg x y r := by simp

def ecCosmicCtrl (inst : Fin 2) : RegPlace where
  reg r := (r.ecCosmic inst).ctrl
  withReg x r := { r with ecCosmic := update r.ecCosmic inst { r.ecCosmic inst with ctrl := x } }
  reg_withReg x r := by simp
  withReg_withReg x y r := by simp

def ecCosmicDelay (inst : Fin 2) : RegPlace where
  reg r := (r.ecCosmic inst).delay
  withReg x r := { r with ecCosmic := update r.ecCosmic inst { r.ecCosmic inst with delay := x } }
  reg_withReg x r := by simp
  withReg_withReg x y r := by simp

def pcCosmicCtrl : RegPlace where
  reg r := r.pcCosmic.ctrl
  withReg x r := { r with pcCosmic := { r.pcCosmic with ctrl := x } }
  reg_withReg _ _ := rfl
  withReg_withReg _ _ _ := rfl

def pcCosmicDelay : RegPlace where
  reg r := r.pcCosmic.delay
  withReg x r := { r with pcCosmic := { r.pcCosmic with delay := x } }
  reg_withReg _ _ := rfl
  withReg_withReg _ _ _ := rfl

def ftcalCtrl : RegPlace where
  reg r := r.ftcalTrigger.ctrl
  withReg x r := { r with ftcalTrigger := { r.ftcalTrigger with ctrl := x } }
  reg_withReg _ _ := rfl
  withReg_withReg _ _ _ := rfl

def comptonFirst : RegPlace where
  reg r := r.comptonTrigger.ctrl 0
  withReg x r := { r with comptonTrigger.ctrl := update r.comptonTrigger.ctrl 0 x }
  reg_withReg x r := by simp
  withReg_withReg x y r := by simp

/-! ## The setters -/

/-- A setter that stores its argument as it comes. -/
def storedAsIs (types : List Int) (place : RegPlace) (field : BitField 32)
    (set : VtpLib → Word → Regs → Option Regs) (get : VtpLib → Regs → Option Word)
    (set_eq : ∀ lib v, set lib v =
      lib.onTypes types fun r => place.withReg (field.put v (place.reg r)) r)
    (get_eq : ∀ lib, get lib = lib.onTypes types fun r => field.get (place.reg r)) :
    PackedSetter where
  types := types
  set := set
  get := get
  place := place
  field := field
  raw v := v
  unit := 1#32
  legal v := v &&& field.low
  set_eq := set_eq
  get_eq lib := by simp only [get_eq lib, BitVec.mul_one]
  legal_eq v := (BitVec.mul_one _).symm

/-- A setter that cuts its argument to the field, with the unit of the getter. -/
def storedCut (types : List Int) (place : RegPlace) (field : BitField 32) (raw : Word → Word)
    (unit : Word) (set : VtpLib → Word → Regs → Option Regs) (get : VtpLib → Regs → Option Word)
    (set_eq : ∀ lib v, set lib v =
      lib.onTypes types fun r => place.withReg (field.put (raw v) (place.reg r)) r)
    (get_eq : ∀ lib, get lib = lib.onTypes types fun r => field.get (place.reg r) * unit)
    (holds : ∀ v, field.Holds (raw v)) :
    PackedSetter where
  types := types
  set := set
  get := get
  place := place
  field := field
  raw := raw
  unit := unit
  legal v := raw v * unit
  set_eq := set_eq
  get_eq := get_eq
  legal_eq v := by rw [holds v]

def ecTrigSetters (inst : Fin 2) : List PackedSetter :=
  [storedCut [vtpFwTypeEc] (ecHit inst) ecHitDt (fun dt => checkRange 0 8 (dt.sdiv 4#32)) 4#32
     (fun lib dt => lib.vtpSetECtrigDt inst dt) (fun lib => lib.vtpGetECtrigDt inst)
     (fun _ _ => rfl) (fun _ => rfl) (fun _ => holds_upTo ecHitDt 8 _ (by decide)),
   storedAsIs [vtpFwTypeEc] (ecHit inst) ecHitEmin
     (fun lib emin => lib.vtpSetECtrigEmin inst emin) (fun lib => lib.vtpGetECtrigEmin inst)
     (fun _ _ => rfl) (fun _ => rfl),
   storedAsIs [vtpFwTypeEc] (ecHit inst) ecHitPeakMultmax
     (fun lib multMax => lib.vtpSetECtrigPeakMultmax inst multMax)
     (fun lib => lib.vtpGetECtrigPeakMultmax inst) (fun _ _ => rfl) (fun _ => rfl)]

def ecCosmicSetters (inst : Fin 2) : List PackedSetter :=
  [storedAsIs ecCosmicTypes (ecCosmicCtrl inst) cosmicCtrlEmin
     (fun lib emin => lib.vtpSetECcosmicEmin inst emin) (fun lib => lib.vtpGetECcosmicEmin inst)
     (fun _ _ => rfl) (fun _ => rfl),
   storedAsIs ecCosmicTypes (ecCosmicCtrl inst) cosmicCtrlMultmax
     (fun lib multmax => lib.vtpSetECcosmicMultmax inst multmax)
     (fun lib => lib.vtpGetECcosmicMultmax inst) (fun _ _ => rfl) (fun _ => rfl),
   storedAsIs ecCosmicTypes (ecCosmicDelay inst) cosmicDelayWidth
     (fun lib hitwidth => lib.vtpSetECcosmicWidth inst hitwidth)
     (fun lib => lib.vtpGetECcosmicWidth inst) (fun _ _ => rfl) (fun _ => rfl),
   storedAsIs ecCosmicTypes (ecCosmicDelay inst) cosmicDelayEval
     (fun lib evaldelay => lib.vtpSetECcosmicDelay inst evaldelay)
     (fun lib => lib.vtpGetECcosmicDelay inst) (fun _ _ => rfl) (fun _ => rfl)]

def pcCosmicSetters : List PackedSetter :=
  [storedAsIs pcCosmicTypes pcCosmicCtrl cosmicCtrlEmin vtpSetPCcosmicEmin vtpGetPCcosmicEmin
     (fun _ _ => rfl) (fun _ => rfl),
   storedAsIs pcCosmicTypes pcCosmicCtrl cosmicCtrlMultmax vtpSetPCcosmicMultmax
     vtpGetPCcosmicMultmax (fun _ _ => rfl) (fun _ => rfl),
   storedAsIs pcCosmicTypes pcCosmicDelay cosmicDelayWidth vtpSetPCcosmicWidth
     vtpGetPCcosmicWidth (fun _ _ => rfl) (fun _ => rfl),
   storedAsIs pcCosmicTypes pcCosmicDelay cosmicDelayEval vtpSetPCcosmicDelay
     vtpGetPCcosmicDelay (fun _ _ => rfl) (fun _ => rfl),
   storedCut pcCosmicTypes pcCosmicCtrl cosmicCtrlPixel flag 1#32 vtpSetPCcosmicPixel
     vtpGetPCcosmicPixel (fun _ _ => rfl) (fun _ => by simp only [BitVec.mul_one]; rfl)
     (holds_flag cosmicCtrlPixel (by decide))]

def ftcalSetters : List PackedSetter :=
  [storedAsIs [vtpFwTypeFtcal] ftcalCtrl ftcalCtrlSeedthr vtpSetFTCALseedEmin vtpGetFTCALseedEmin
     (fun _ _ => rfl) (fun _ => rfl),
   storedCut [vtpFwTypeFtcal] ftcalCtrl ftcalCtrlSeeddt (fun dt => dt.sdiv 4#32 &&& 7#32) 4#32
     vtpSetFTCALseedDt vtpGetFTCALseedDt (fun _ _ => rfl) (fun _ => rfl)
     (fun _ => BitField.holds_and_low ftcalCtrlSeeddt _),
   storedCut [vtpFwTypeFtcal] ftcalCtrl ftcalCtrlHododt (fun dt => dt.sdiv 4#32 &&& 7#32) 4#32
     vtpSetFTCALhodoDt vtpGetFTCALhodoDt (fun _ _ => rfl) (fun _ => rfl)
     (fun _ => BitField.holds_and_low ftcalCtrlHododt _)]

def comptonSetters : List PackedSetter :=
  [storedCut [vtpFwTypeCompton] comptonFirst comptonVetrocWidth (checkRange 0 0xff) 1#32
     vtpSetComptonVetrocWidth vtpGetComptonVetrocWidth (fun _ _ => rfl)
     (fun _ => by simp only [BitVec.mul_one]; rfl)
     (fun _ => holds_upTo comptonVetrocWidth 0xff _ (by decide)),
   storedCut [vtpFwTypeCompton] comptonFirst comptonScalerReadout (checkRange 0 1) 1#32
     vtpSetComptonEnableScalerReadout vtpGetComptonEnableScalerReadout (fun _ _ => rfl)
     (fun _ => by simp only [BitVec.mul_one]; rfl)
     (fun _ => holds_upTo comptonScalerReadout 1 _ (by decide))]

/-- Every setter of one field, of every instance. -/
def packedSetters : List PackedSetter :=
  (List.finRange 2).flatMap ecTrigSetters ++ (List.finRange 2).flatMap ecCosmicSetters ++
    pcCosmicSetters ++ ftcalSetters ++ comptonSetters

end

/-! ## The Compton trigger -/

section

open VtpLib

/-- The bits of the control word that the trigger sets. -/
def comptonOwn : Word :=
  comptonFadcThreshold.mask ||| comptonEplaneMultMin.mask ||| comptonEplaneMask.mask

/-- The arguments behind `inst`. -/
structure ComptonTrig where
  threshold : Word
  multMin : Word
  eplaneMask : Word
  fadcMask : Word

variable (lib : VtpLib) (r : Regs) (inst : Fin 5) (a : ComptonTrig)

def setComptonTrig : Regs → Option Regs :=
  lib.vtpSetComptonTrigger inst a.threshold a.multMin a.eplaneMask a.fadcMask

/-- What the getter is to return. -/
def ComptonTrig.legal : Word × Word × Word × Word :=
  (checkRange 0 0x1fff a.threshold, checkRange 0 4 a.multMin, a.eplaneMask &&& 0xf#32,
    a.fadcMask &&& 0xffff#32)

/-- Another control word of the instance, and another word of masks. -/
def withCompton (x y : Word) : Regs :=
  { r with
    comptonTrigger :=
      { ctrl := update r.comptonTrigger.ctrl inst x
        fadcMask := update r.comptonTrigger.fadcMask (fadcMaskIndex inst) y } }

/-- The two boards differ at most in the fields of the instance. -/
def ComptonLocal (r' : Regs) : Prop :=
  ∃ x y, r' = withCompton r inst x y ∧
    x &&& ~~~comptonOwn = r.comptonTrigger.ctrl inst &&& ~~~comptonOwn ∧
    y &&& ~~~(comptonFadcMask inst).mask =
      r.comptonTrigger.fadcMask (fadcMaskIndex inst) &&& ~~~(comptonFadcMask inst).mask

/-- The call for the trigger changes its own fields and nothing else, the arguments are
read back, and width and scaler readout are what they were. -/
def ComptonSetsLocally : Prop :=
  if lib.accepts [vtpFwTypeCompton] then
    ∃ r', setComptonTrig lib inst a r = some r' ∧ ComptonLocal r inst r' ∧
      lib.vtpGetComptonTrigger inst r' = some a.legal ∧
      lib.vtpGetComptonVetrocWidth r' = lib.vtpGetComptonVetrocWidth r ∧
      lib.vtpGetComptonEnableScalerReadout r' = lib.vtpGetComptonEnableScalerReadout r
  else setComptonTrig lib inst a r = none ∧ lib.vtpGetComptonTrigger inst r = none

/-- Nothing is where the width would be, each field has bits of its new value only, and
the bits of the mask that do not fit in its half are set already. -/
structure ComptonCovered : Prop where
  width : r.comptonTrigger.ctrl inst &&& comptonVetrocWidth.mask = 0#32
  threshold : comptonFadcThreshold.get (r.comptonTrigger.ctrl inst) &&&
    checkRange 0 0x1fff a.threshold = comptonFadcThreshold.get (r.comptonTrigger.ctrl inst)
  multMin : comptonEplaneMultMin.get (r.comptonTrigger.ctrl inst) &&& checkRange 0 4 a.multMin =
    comptonEplaneMultMin.get (r.comptonTrigger.ctrl inst)
  eplaneMask : comptonEplaneMask.get (r.comptonTrigger.ctrl inst) &&& (a.eplaneMask &&& 0xf#32) =
    comptonEplaneMask.get (r.comptonTrigger.ctrl inst)
  fadcMask : (comptonFadcMask inst).spill a.fadcMask &&&
    r.comptonTrigger.fadcMask (fadcMaskIndex inst) = (comptonFadcMask inst).spill a.fadcMask

/-! ### The control word -/

section

variable (old : Word)

/-- The three values that are or-ed in. -/
def comptonNew : Word :=
  (checkRange 0 0x1fff a.threshold &&& 0x1fff#32) |||
    ((checkRange 0 4 a.multMin <<< 24) &&& 0x07000000#32) |||
    ((a.eplaneMask <<< 28) &&& 0xf0000000#32)

theorem comptonCtrl_eq : comptonCtrl a.threshold a.multMin a.eplaneMask old =
    (old &&& 0xff00ffff#32) ||| comptonNew a := by
  rw [comptonCtrl, comptonNew, BitVec.or_assoc, BitVec.or_assoc, BitVec.or_assoc]

theorem comptonNew_own : comptonNew a &&& ~~~comptonOwn = 0#32 := by
  have hthreshold : 0x1fff#32 &&& ~~~comptonOwn = 0#32 := by decide
  have hmultMin : 0x07000000#32 &&& ~~~comptonOwn = 0#32 := by decide
  have heplaneMask : 0xf0000000#32 &&& ~~~comptonOwn = 0#32 := by decide
  rw [comptonNew, BitVec.and_comm, BitVec.and_or_distrib_left, BitVec.and_or_distrib_left]
  simp only [BitVec.and_comm (~~~comptonOwn), BitVec.and_assoc, hthreshold, hmultMin, heplaneMask,
    BitVec.and_zero, BitVec.or_zero]

/-- The control word changes beside its fields unless the bits of the width are clear. -/
theorem comptonCtrl_local_iff :
    comptonCtrl a.threshold a.multMin a.eplaneMask old &&& ~~~comptonOwn = old &&& ~~~comptonOwn ↔
      old &&& comptonVetrocWidth.mask = 0#32 := by
  have hkept : 0xff00ffff#32 &&& ~~~comptonOwn = 0x0800e000#32 := by decide
  have hbeside : ~~~comptonOwn = 0x0800e000#32 ||| comptonVetrocWidth.mask := by decide
  have hapart : comptonVetrocWidth.mask &&& 0x0800e000#32 = 0#32 := by decide
  have hnew : comptonCtrl a.threshold a.multMin a.eplaneMask old &&& ~~~comptonOwn =
      old &&& 0x0800e000#32 := by
    rw [comptonCtrl_eq, BitVec.and_comm, BitVec.and_or_distrib_left, BitVec.and_comm,
      BitVec.and_assoc, hkept, BitVec.and_comm _ (comptonNew a), comptonNew_own, BitVec.or_zero]
  have hnone : old &&& comptonVetrocWidth.mask &&& (old &&& 0x0800e000#32) = 0#32 := by
    rw [BitVec.and_comm old (0x0800e000#32), BitVec.and_assoc, ← BitVec.and_assoc _ (0x0800e000#32),
      hapart, BitVec.zero_and, BitVec.and_zero]
  rw [hnew, hbeside, BitVec.and_or_distrib_left, eq_comm, BitField.or_eq_left_iff, hnone, eq_comm]

theorem comptonNew_pack : comptonNew a =
    BitField.pack [(comptonFadcThreshold, checkRange 0 0x1fff a.threshold),
      (comptonEplaneMultMin, checkRange 0 4 a.multMin),
      (comptonEplaneMask, a.eplaneMask &&& 0xf#32)] := by
  have hthreshold : checkRange 0 0x1fff a.threshold &&& 0x1fff#32 =
      checkRange 0 0x1fff a.threshold :=
    holds_upTo comptonFadcThreshold 0x1fff a.threshold (by decide)
  have hmultMin : (checkRange 0 4 a.multMin <<< 24) &&& 0x07000000#32 =
      checkRange 0 4 a.multMin <<< 24 := by
    have hcut := comptonEplaneMultMin.shiftLeft_and_mask (checkRange 0 4 a.multMin)
    rw [holds_upTo comptonEplaneMultMin 4 a.multMin (by decide)] at hcut
    exact hcut
  have heplaneMask : (a.eplaneMask <<< 28) &&& 0xf0000000#32 = (a.eplaneMask &&& 0xf#32) <<< 28 :=
    comptonEplaneMask.shiftLeft_and_mask a.eplaneMask
  rw [comptonNew, hthreshold, hmultMin, heplaneMask]
  simp only [BitField.pack, BitVec.or_zero, BitVec.or_assoc]
  rw [show comptonFadcThreshold.shift = 0 from rfl, BitVec.shiftLeft_zero]
  rfl

/-- What is read of the control word: the old values are or-ed to the new ones. -/
theorem comptonCtrl_get :
    let new := comptonCtrl a.threshold a.multMin a.eplaneMask old
    comptonFadcThreshold.get new =
        comptonFadcThreshold.get old ||| checkRange 0 0x1fff a.threshold ∧
      comptonEplaneMultMin.get new = comptonEplaneMultMin.get old ||| checkRange 0 4 a.multMin ∧
      comptonEplaneMask.get new = comptonEplaneMask.get old ||| (a.eplaneMask &&& 0xf#32) := by
  have hapart : [comptonFadcThreshold, comptonEplaneMultMin, comptonEplaneMask].Pairwise
      BitField.Apart := by decide
  have hnew := BitField.get_of_eq_pack (comptonNew_pack a) (List.pairwise_map.mp hapart) (by
    intro p hp
    simp only [List.mem_cons, List.not_mem_nil, or_false] at hp
    rcases hp with rfl | rfl | rfl
    · exact holds_upTo comptonFadcThreshold 0x1fff _ (by decide)
    · exact holds_upTo comptonEplaneMultMin 4 _ (by decide)
    · exact BitField.holds_and_low comptonEplaneMask _)
  simp only [List.forall_mem_cons] at hnew
  obtain ⟨hthreshold, hmultMin, heplaneMask, -⟩ := hnew
  intro new
  simp only [new, comptonCtrl_eq, BitField.get_or, hthreshold, hmultMin, heplaneMask]
  rw [BitField.get_and_of_spares (by decide), BitField.get_and_of_spares (by decide),
    BitField.get_and_of_spares (by decide)]
  exact ⟨rfl, rfl, rfl⟩

end

/-- The fields of the getter are what is asked for when no old bit is in the way. -/
theorem or_eq_right_iff (x y : Word) : x ||| y = y ↔ x &&& y = x := by
  rw [BitVec.or_comm, BitField.or_eq_left_iff]

theorem comptonLocal_iff (x y : Word) :
    ComptonLocal r inst (withCompton r inst x y) ↔
      x &&& ~~~comptonOwn = r.comptonTrigger.ctrl inst &&& ~~~comptonOwn ∧
        y &&& ~~~(comptonFadcMask inst).mask =
          r.comptonTrigger.fadcMask (fadcMaskIndex inst) &&& ~~~(comptonFadcMask inst).mask := by
  constructor
  · rintro ⟨x', y', heq, hbits⟩
    have hx := congrArg (fun r => r.comptonTrigger.ctrl inst) heq
    have hy := congrArg (fun r => r.comptonTrigger.fadcMask (fadcMaskIndex inst)) heq
    simp only [withCompton, update_self] at hx hy
    rwa [hx, hy]
  · exact fun hbits => ⟨x, y, rfl, hbits⟩

/-- A field that the trigger does not set is what it was on every instance. -/
theorem get_of_local {f : BitField 32} (hf : f.get (~~~comptonOwn) = f.low) {x : Word}
    (hx : x &&& ~~~comptonOwn = r.comptonTrigger.ctrl inst &&& ~~~comptonOwn) :
    f.get (update r.comptonTrigger.ctrl inst x 0) = f.get (r.comptonTrigger.ctrl 0) := by
  cases hinst : decide (0 = inst) with
  | false => rw [update_of_ne (of_decide_eq_false hinst)]
  | true =>
    have hzero := of_decide_eq_true hinst
    rw [hzero, update_self, ← BitField.get_and_of_spares hf x, hx, BitField.get_and_of_spares hf]

theorem comptonFadcMask_low : (comptonFadcMask inst).low = 0xffff#32 := by
  unfold comptonFadcMask
  split <;> rfl

/-- The call, on a board that it accepts. -/
theorem setComptonTrig_accepted (h : lib.accepts [vtpFwTypeCompton] = true) :
    setComptonTrig lib inst a r = some (withCompton r inst
      (comptonCtrl a.threshold a.multMin a.eplaneMask (r.comptonTrigger.ctrl inst))
      ((comptonFadcMask inst).put a.fadcMask
        (r.comptonTrigger.fadcMask (fadcMaskIndex inst)))) := by
  rw [setComptonTrig, vtpSetComptonTrigger, onTypes_accepted h]
  rfl

/-- The getter finds the arguments when no old bit of the fields is in the way. -/
theorem getComptonTrig_iff (h : lib.accepts [vtpFwTypeCompton] = true) (y : Word) :
    lib.vtpGetComptonTrigger inst (withCompton r inst
        (comptonCtrl a.threshold a.multMin a.eplaneMask (r.comptonTrigger.ctrl inst))
        ((comptonFadcMask inst).put a.fadcMask y)) = some a.legal ↔
      comptonFadcThreshold.get (r.comptonTrigger.ctrl inst) &&&
          checkRange 0 0x1fff a.threshold =
        comptonFadcThreshold.get (r.comptonTrigger.ctrl inst) ∧
      comptonEplaneMultMin.get (r.comptonTrigger.ctrl inst) &&& checkRange 0 4 a.multMin =
        comptonEplaneMultMin.get (r.comptonTrigger.ctrl inst) ∧
      comptonEplaneMask.get (r.comptonTrigger.ctrl inst) &&& (a.eplaneMask &&& 0xf#32) =
        comptonEplaneMask.get (r.comptonTrigger.ctrl inst) := by
  obtain ⟨hthreshold, hmultMin, heplaneMask⟩ := comptonCtrl_get a (r.comptonTrigger.ctrl inst)
  rw [vtpGetComptonTrigger, onTypes_accepted h]
  simp only [withCompton, update_self, hthreshold, hmultMin, heplaneMask, BitField.get_put,
    comptonFadcMask_low, ComptonTrig.legal, Option.some.injEq, Prod.mk.injEq, or_eq_right_iff,
    and_true]

/-- What a local change leaves of the width and the scaler readout. -/
theorem comptonFirst_kept {x : Word} (y : Word)
    (hx : x &&& ~~~comptonOwn = r.comptonTrigger.ctrl inst &&& ~~~comptonOwn) :
    lib.vtpGetComptonVetrocWidth (withCompton r inst x y) = lib.vtpGetComptonVetrocWidth r ∧
      lib.vtpGetComptonEnableScalerReadout (withCompton r inst x y) =
        lib.vtpGetComptonEnableScalerReadout r := by
  unfold vtpGetComptonVetrocWidth vtpGetComptonEnableScalerReadout onTypes withCompton
  dsimp only
  have hwidth : comptonVetrocWidth.get (~~~comptonOwn) = comptonVetrocWidth.low := by decide
  have hscaler : comptonScalerReadout.get (~~~comptonOwn) = comptonScalerReadout.low := by decide
  rw [get_of_local r inst hwidth hx, get_of_local r inst hscaler hx]
  exact ⟨rfl, rfl⟩

theorem comptonSetsLocally_iff :
    ComptonSetsLocally lib r inst a ↔
      (lib.accepts [vtpFwTypeCompton] = true → ComptonCovered r inst a) := by
  unfold ComptonSetsLocally
  split
  · next haccepts =>
    rw [setComptonTrig_accepted lib r inst a haccepts]
    simp only [Option.some.injEq, exists_eq_left', comptonLocal_iff, comptonCtrl_local_iff,
      BitField.put_local_iff, getComptonTrig_iff lib r inst a haccepts]
    constructor
    · rintro ⟨⟨hwidth, hmask⟩, ⟨hthreshold, hmultMin, heplaneMask⟩, -⟩ -
      exact ⟨hwidth, hthreshold, hmultMin, heplaneMask, hmask⟩
    · intro hcovered
      obtain ⟨hwidth, hthreshold, hmultMin, heplaneMask, hmask⟩ := hcovered haccepts
      exact ⟨⟨hwidth, hmask⟩, ⟨hthreshold, hmultMin, heplaneMask⟩,
        comptonFirst_kept lib r inst _ ((comptonCtrl_local_iff a _).mpr hwidth)⟩
  · next hrefuses =>
    rw [setComptonTrig, vtpSetComptonTrigger, vtpGetComptonTrigger]
    exact iff_of_true ⟨onTypes_refused hrefuses _ r, onTypes_refused hrefuses _ r⟩
      (fun haccepts => absurd haccepts hrefuses)

end

/-! ## All setters -/

/-- A setter is local and read back if and only if what it stores does not spill, and a
second call leaves nothing of a local one; the Compton trigger, if and only if in
addition it finds its fields, and the width, without other bits. -/
theorem packedSetters_spec (lib : VtpLib) (r : Regs) :
    (∀ s ∈ packedSetters, ∀ v,
      (s.SetsLocally lib r v ↔ (lib.accepts s.types = true → s.Covered r v)) ∧
        (s.SetsLocally lib r v →
          ∀ u, (s.set lib v r).bind (s.set lib u) = s.set lib u r)) ∧
      ∀ inst a, ComptonSetsLocally lib r inst a ↔
        (lib.accepts [vtpFwTypeCompton] = true → ComptonCovered r inst a) :=
  ⟨fun _ _ _ => ⟨PackedSetter.setsLocally_iff, PackedSetter.set_set⟩,
    comptonSetsLocally_iff lib r⟩

/-- An energy of 9000 leaves a bit in the fields above it, and the trigger of the first
instance clears the width. -/
theorem packedSetters_spill :
    (∃ s ∈ packedSetters, ∃ lib r v, ¬ s.SetsLocally lib r v) ∧
      ∃ lib r inst a, ¬ ComptonSetsLocally lib r inst a := by
  constructor
  · refine ⟨(ecTrigSetters 0)[1], ?_, ⟨true, fun _ => vtpFwTypeEc⟩, default, 9000#32, ?_⟩
    · have hmem : (ecTrigSetters 0)[1] ∈ (List.finRange 2).flatMap ecTrigSetters :=
        List.mem_flatMap.mpr ⟨0, List.mem_finRange 0, List.getElem_mem _⟩
      unfold packedSetters
      simp only [List.mem_append, hmem, true_or]
    · rw [PackedSetter.setsLocally_iff]
      intro hcovered
      exact absurd (hcovered rfl) (by unfold PackedSetter.Covered; decide)
  · refine ⟨⟨true, fun _ => vtpFwTypeCompton⟩,
      { (default : Regs) with comptonTrigger := ⟨fun _ => 0x00400000#32, fun _ => 0#32⟩ }, 0,
      ⟨0#32, 0#32, 0#32, 0#32⟩, ?_⟩
    rw [comptonSetsLocally_iff]
    intro hcovered
    exact absurd (hcovered rfl).width (by decide)

end VtpStreaming
