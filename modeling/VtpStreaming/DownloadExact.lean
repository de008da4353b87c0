import VtpStreaming.DownloadTwice

/-!
# Whether the registers say what was configured

After `vtpDownloadAll` every parameter of the firmware should decode from its register to
the configured value, cut as its setter cuts it, whatever the registers held before. Some
setters store more than their field holds, two of them spoil what was there, and some
parameters have no call at all.
-/

namespace VtpStreaming

open Clib Function VtpLib

/-! ## Values as the setters document them

The setters that cut, mask or round say so here. The others take the value as it is. -/

def fadcSumQuantised (mask : Fin 16 → Word) (k : Fin 16) : Word := mask k &&& 0xffff#32

def EcView.quantised (v : EcView) : EcView :=
  { v with hitDt := checkRange 0 8 (v.hitDt.sdiv 4#32) * 4#32 }

def EcConf.quantised (c : EcConf) : EcConf :=
  ⟨fadcSumQuantised c.fadcsumChEn, c.inner.quantised, c.outer.quantised⟩

def PcConf.quantised (c : PcConf) : PcConf :=
  { c with fadcsumChEn := fadcSumQuantised c.fadcsumChEn, cosmicPixelen := flag c.cosmicPixelen }

def PcsConf.quantised (c : PcsConf) : PcsConf := { c with cosmicPixelen := flag c.cosmicPixelen }

def EcsConf.quantised (c : EcsConf) : EcsConf :=
  { c with fadcsumChEn := fadcSumQuantised c.fadcsumChEn }

def GtConf.quantised (fpu : FloatUnit) (c : GtConf) : GtConf where
  trigLatency := c.trigLatency.sdiv 4#32 * 4#32
  trigWidth := c.trigWidth
  trgbits i := (c.trgbits i).quantised fpu

def HcalConf.quantised (c : HcalConf) : HcalConf where
  hitDt := (if 7 < c.hitDt.toInt then 7#32 else c.hitDt).sdiv 4#32 * 4#32
  clusterEmin := if 8191 < c.clusterEmin.toInt then 8191#32 else c.clusterEmin

def FtcalConf.quantised (c : FtcalConf) : FtcalConf where
  fadcsumChEn := fadcSumQuantised c.fadcsumChEn
  seedEmin := c.seedEmin
  seedDt := (c.seedDt.sdiv 4#32 &&& 7#32) * 4#32
  hodoDt := (c.hodoDt.sdiv 4#32 &&& 7#32) * 4#32
  deadtime := (c.deadtime.sdiv 4#32 &&& 0x3f#32) * 4#32
  deadtimeEmin := c.deadtimeEmin &&& ftcalDeadtimeCtrlEmin.low

def FthodoConf.quantised (c : FthodoConf) : FthodoConf := ⟨c.hitEmin &&& fthodoCtrlEmin.low⟩

/-- `period` gives the ticks of 250 MHz that `vtpSetHPS_CalibrationTrigger` makes of a
frequency. -/
def HpsCalibConf.quantised (fpu : FloatUnit) (period : FloatText → Word) (c : HpsCalibConf) :
    HpsCalibConf where
  hodoscopeTopEn := flag c.hodoscopeTopEn
  hodoscopeBotEn := flag c.hodoscopeBotEn
  cosmicDt := checkRange 0 255 (c.cosmicDt.sdiv 4#32) * 4#32
  cosmicTopEn := flag c.cosmicTopEn
  cosmicBotEn := flag c.cosmicBotEn
  pulserFreq := fpu.calibFreq (period c.pulserFreq)
  pulserEn := flag c.pulserEn

def HpsTrigConf.quantised (c : HpsTrigConf) : HpsTrigConf :=
  ⟨checkRange 0 1023 (c.latency.sdiv 4#32) * 4#32, c.prescale⟩

def HpsConf.quantised (fpu : FloatUnit) (period : FloatText → Word) (c : HpsConf) : HpsConf where
  cluster := c.cluster.quantised
  hodoscope := c.hodoscope.quantised
  calib := c.calib.quantised fpu period
  singleTrig i := (c.singleTrig i).quantised fpu
  pairTrig i := (c.pairTrig i).quantised fpu
  multTrig i := (c.multTrig i).quantised
  feeTrig := c.feeTrig.quantised
  trig := c.trig.quantised

def ComptonTrigConf.quantised (c : ComptonTrigConf) : ComptonTrigConf where
  latency := c.latency.sdiv 4#32 * 4#32
  width := c.width
  prescale := uploadBits (fun i => checkRange 0 65535 (c.prescale (comptonBit i))) c.prescale
  delay := uploadBits
    (fun i => (checkRange 0 1020 (c.delay (comptonBit i))).sdiv 4#32 * 4#32) c.delay

def ComptonConf.quantised (c : ComptonConf) : ComptonConf where
  enableScalerReadout := checkRange 0 1 c.enableScalerReadout
  vetrocWidth := checkRange 0 0xff c.vetrocWidth
  fadcThreshold i := checkRange 0 0x1fff (c.fadcThreshold i)
  eplaneMultMin i := checkRange 0 4 (c.eplaneMultMin i)
  eplaneMask i := c.eplaneMask i &&& 0xf#32
  fadcMask := c.fadcMask
  trig := c.trig.quantised

/-- Both entries have the setter of the addresses, the first one that of the streams too. -/
def FadcStreamingConf.quantised (c : FadcStreamingConf) : FadcStreamingConf :=
  { c with
    rocId := checkRange 0 127 c.rocId
    frameLen := frameTicks c.frameLen * 4#32 + 4#32
    eb :=
      ![{ c.eb 0 with
          nstreams := ebNstreams (c.eb 0).nstreams
          localport := localportOf (c.eb 0).localport },
        { c.eb 1 with localport := localportOf (c.eb 1).localport }] }

/-- On DC only two links have a bit. -/
def fiberQuantised (type : Int) (fiberEn : Word) : Word :=
  if type = vtpFwTypeDc then fiberEn &&& 6#32 else fiberEn

/-! ## What is asked of the function -/

/-- Every parameter of the block of the firmware `type` that has a register decodes to
what is configured. -/
@[mk_iff]
structure BlockProgrammed (fpu : FloatUnit) (period : FloatText → Word) (type : Int)
    (conf : VtpConf) (r : Regs) : Prop where
  ec : type = vtpFwTypeEc → ecOf r = conf.ec.quantised
  pc : type = vtpFwTypePc → pcOf r = conf.pc.quantised
  htcc : type = vtpFwTypeHtcc → htccOf r = conf.htcc
  ftof : type = vtpFwTypeFtof → thresholdConfOf r.ftofTrigger = conf.ftof
  cnd : type = vtpFwTypeCnd → thresholdConfOf r.cndTrigger = conf.cnd
  pcs : type = vtpFwTypePcs → pcsOf r conf.pcs = conf.pcs.quantised
  ecs : type = vtpFwTypeEcs → ecsOf r conf.ecs = conf.ecs.quantised
  gt : type = vtpFwTypeGt → gtOf fpu r = conf.gt.quantised fpu
  dc : type = vtpFwTypeDc → r.dcrbSegFind = conf.dc.dcsegfindThreshold
  hcal : type = vtpFwTypeHcal → hcalOf r = conf.hcal.quantised
  ftcal : type = vtpFwTypeFtcal → ftcalOf r = conf.ftcal.quantised
  fthodo : type = vtpFwTypeFthodo → fthodoOf r = conf.fthodo.quantised
  hps : type = vtpFwTypeHps → hpsOf fpu r conf.hps = conf.hps.quantised fpu period
  compton : type = vtpFwTypeCompton → comptonOf r conf.compton = conf.compton.quantised
  fadcStreaming : type = vtpFwTypeFadcstream →
    fadcStreamingOf r conf.fadcStreaming = conf.fadcStreaming.quantised
  vtpRoc : type = vtpFwTypeVcodaroc → vtpRocOf r conf.vtpRoc = conf.vtpRoc

/-- So does what every firmware has: the window, the ports and the links. -/
structure Programmed (fpu : FloatUnit) (period : FloatText → Word) (lib : VtpLib) (type : Int)
    (conf : VtpConf) (r : Regs) : Prop where
  windowWidth : r.eb.windowWidth * lib.windowTick =
    conf.windowWidth.sdiv lib.windowTick * lib.windowTick
  windowOffset : r.eb.lookback * lib.windowTick =
    conf.windowOffset.sdiv lib.windowTick * lib.windowTick
  payloadEn : payloadMaskOf lib r = conf.payloadEn
  fiberEn : fiberMaskOf lib r = fiberQuantised type conf.fiberEn
  block : BlockProgrammed fpu period type conf r

/-- What is expected of the function on every board with the firmware `type`. -/
def DownloadExact (fpu : FloatUnit) (period : FloatText → Word) (type : Int) (conf : VtpConf) :
    Prop :=
  ∀ r stack, (r.fwType 0).toInt = type →
    Programmed fpu period (VtpLib.ofRegs r) type conf
      (vtpDownloadAll (VtpLib.ofRegs r) fpu conf stack r).2

/-! ## When it is met -/

def PayloadFits (type : Int) (conf : VtpConf) : Prop :=
  if type = vtpFwTypeFtcal then conf.payloadEn >>> 16 = conf.fiberEn &&& 0xffff#32
  else type ∈ fadcDecTypes ∨ type ∈ [vtpFwTypeGt, vtpFwTypeDc, vtpFwTypeHcal] ∨
    conf.payloadEn = 0#32

def FiberFits (type : Int) (fiberEn : Word) : Prop :=
  if type = vtpFwTypeFtcal then fiberEn &&& 0xf#32 = fiberEn
  else type = vtpFwTypeDc ∨ fiberEn = 0#32

def CosmicFits (emin multmax hitwidth evaldelay : Word) : Prop :=
  cosmicCtrlEmin.Holds emin ∧ cosmicCtrlMultmax.Holds multmax ∧ cosmicDelayWidth.Holds hitwidth ∧
    cosmicDelayEval.Holds evaldelay

def EcView.Fits (v : EcView) : Prop :=
  ecHitEmin.Holds v.hitEmin ∧ v.dalitzMin.toNat < 1024 ∧ v.dalitzMax.toNat < 1024 ∧
    CosmicFits v.cosmicEmin v.cosmicMultmax v.cosmicHitwidth v.cosmicEvaldelay

def EcsView.Fits (v : EcsView) : Prop :=
  CosmicFits v.cosmicEmin v.cosmicMultmax v.cosmicHitwidth v.cosmicEvaldelay

/-- The firmwares with a parameter that no call programs, or that what was there spoils. -/
def unprogrammedTypes : List Int :=
  [vtpFwTypeHps, vtpFwTypeCompton, vtpFwTypeFadcstream, vtpFwTypeVcodaroc]

/-- Every value of the block fits in its field, and the dead time of FTCAL is no more
than nothing. -/
@[mk_iff]
structure BlockFits (type : Int) (conf : VtpConf) : Prop where
  ec : type = vtpFwTypeEc → ∀ inst, (conf.ec.view inst).Fits
  pc : type = vtpFwTypePc → CosmicFits conf.pc.cosmicEmin conf.pc.cosmicMultmax
    conf.pc.cosmicHitwidth conf.pc.cosmicEvaldelay
  pcs : type = vtpFwTypePcs → CosmicFits conf.pcs.cosmicEmin conf.pcs.cosmicMultmax
    conf.pcs.cosmicHitwidth conf.pcs.cosmicEvaldelay
  ecs : type = vtpFwTypeEcs → conf.ecs.dalitzMin.toNat < 2 ^ 29 ∧ conf.ecs.dalitzMax.toNat < 2 ^ 29 ∧
    ∀ inst, (conf.ecs.view inst).Fits
  ftcal : type = vtpFwTypeFtcal → ftcalCtrlSeedthr.Holds conf.ftcal.seedEmin ∧
    conf.ftcal.deadtime.sdiv 4#32 &&& 0x3f#32 = 0#32

structure ParametersFit (type : Int) (conf : VtpConf) : Prop where
  programmed : type ∉ unprogrammedTypes
  payloadEn : PayloadFits type conf
  fiberEn : FiberFits type conf.fiberEn
  block : BlockFits type conf

/-! ## The masks and the window -/

section Common

variable {lib : VtpLib} {type : Int} {fpu : FloatUnit} {conf : VtpConf} {r : Regs}

/-- Ports and links share a register on FTCAL. -/
theorem ftcalDec_payload (ports fibers : Word) :
    (ports &&& 0xffff#32) ||| (fibers <<< 16) = ports ↔ ports >>> 16 = fibers &&& 0xffff#32 := by
  have hbit (i : Nat) : ((ports &&& 0xffff#32) ||| (fibers <<< 16)).getLsbD i =
      (decide (i < 16) && ports.getLsbD i ||
        (decide (i < 32) && !decide (i < 16) && fibers.getLsbD (i - 16))) := by
    rw [BitVec.getLsbD_or, getLsbD_ports, BitVec.getLsbD_shiftLeft]
  constructor
  · intro heq
    apply BitVec.eq_of_getLsbD_eq
    intro i _
    rw [BitVec.getLsbD_ushiftRight, getLsbD_ports, ← heq, hbit]
    by_cases hi : i < 16
    · have hlt : 16 + i < 32 := by omega
      simp [hi, hlt]
    · have hge : ¬ 16 + i < 32 := by omega
      simp [hi, hge]
  · intro heq
    apply BitVec.eq_of_getLsbD_eq
    intro i hi
    rw [hbit]
    by_cases hlow : i < 16
    · simp [hlow]
    · have hport := congrArg (fun x => x.getLsbD (i - 16)) heq
      have hsum : 16 + (i - 16) = i := by omega
      have hlt : i - 16 < 16 := by omega
      simp only [BitVec.getLsbD_ushiftRight, getLsbD_ports, hsum] at hport
      rw [hport]
      simp [hlow, hi, hlt]

/-- The two links of DC, back in their places. -/
theorem dcLinks_read (fibers : Word) :
    (((fibers >>> 1) &&& 3#32) &&& 3#32) <<< 1 = fibers &&& 6#32 := by
  rw [BitVec.and_assoc, BitVec.and_self]
  exact BitField.get_shiftLeft_shift ⟨1, 2, by decide⟩ fibers

theorem fiber_read (h : lib.Runs type) :
    fiberMaskOf lib (downloadCommon lib conf r) = fiberQuantised type conf.fiberEn ↔
      FiberFits type conf.fiberEn := by
  rw [downloadCommon_eq conf r h]
  by_cases hftcal : type = vtpFwTypeFtcal
  · subst hftcal
    rw [writeMasks_ftcal h, fiberMaskOf, fiberQuantised, FiberFits, h.fwType, if_pos rfl,
      if_neg (by decide), if_pos rfl]
    dsimp only
    rw [ftcalDec_fiber]
  · by_cases hdc : type = vtpFwTypeDc
    · subst hdc
      rw [writeMasks_dc h, fiberMaskOf, fiberQuantised, FiberFits, h.fwType, if_neg hftcal,
        if_pos rfl, if_pos rfl, if_neg hftcal]
      dsimp only
      rw [dcLinks_read]
      exact iff_of_true rfl (.inl rfl)
    · rw [fiberMaskOf, fiberQuantised, FiberFits, h.fwType, if_neg hftcal, if_neg hdc, if_neg hdc,
        if_neg hftcal, eq_comm]
      exact (or_iff_right hdc).symm

/-- Only FTCAL has the links in the register of the ports. -/
theorem payloadMaskOf_links (h : lib.Runs type) (hftcal : type ≠ vtpFwTypeFtcal) (fibers : Word)
    (r : Regs) : payloadMaskOf lib (lib.writeFiberMask fibers r) = payloadMaskOf lib r := by
  rw [writeFiberMask, h.fwType, if_neg hftcal]
  split_ifs <;> rfl

theorem payload_read (h : lib.Runs type) (hstream : type ≠ vtpFwTypeFadcstream) :
    payloadMaskOf lib (downloadCommon lib conf r) = conf.payloadEn ↔ PayloadFits type conf := by
  rw [downloadCommon_eq conf r h, PayloadFits]
  by_cases hftcal : type = vtpFwTypeFtcal
  · subst hftcal
    have hdec : vtpFwTypeFtcal ∉ fadcDecTypes := by decide
    rw [writeMasks_ftcal h, payloadMaskOf, h.fwType, if_neg hdec, if_neg (by decide),
      if_neg (by decide), if_neg (by decide), if_pos rfl, if_pos rfl]
    exact ftcalDec_payload _ _
  · rw [if_neg hftcal]
    show payloadMaskOf lib (lib.writeFiberMask conf.fiberEn
      (lib.writePayloadMask conf.payloadEn r)) = conf.payloadEn ↔ _
    rw [payloadMaskOf_links h hftcal, payloadMaskOf, writePayloadMask, h.fwType]
    split_ifs with hdec hgt hdc hhcal
    · exact iff_of_true rfl (.inl hdec)
    · exact iff_of_true rfl (.inr (.inl (by simp [hgt])))
    · exact iff_of_true rfl (.inr (.inl (by simp [hdc])))
    · exact iff_of_true rfl (.inr (.inl (by simp [hhcal])))
    · have hnone : type ∉ [vtpFwTypeGt, vtpFwTypeDc, vtpFwTypeHcal] := by simp [hgt, hdc, hhcal]
      rw [or_iff_right hdec, or_iff_right hnone, eq_comm]

/-- The getter would give the mask back then. -/
theorem vtpGetTriggerPayloadMask_download (h : lib.Runs type)
    (hstream : type ≠ vtpFwTypeFadcstream) :
    lib.vtpGetTriggerPayloadMask (downloadCommon lib conf r) = some conf.payloadEn ↔
      PayloadFits type conf := by
  rw [vtpGetTriggerPayloadMask_eq h hstream, Option.some.injEq, payload_read h hstream]

/-- The registers that the masks are read from are not those of a block. -/
theorem payloadMaskOf_congr {r' : Regs} (hget : commonPart.get r = commonPart.get r')
    (hstream : lib.fwType 0 ≠ vtpFwTypeFadcstream) : payloadMaskOf lib r = payloadMaskOf lib r' := by
  simp only [commonPart, CommonRegs.mk.injEq] at hget
  obtain ⟨-, -, hfadc, hssp, hdcrb, hhcal, hftcal, -⟩ := hget
  rw [payloadMaskOf, payloadMaskOf, hfadc, hssp, hdcrb, hhcal, hftcal, if_neg hstream,
    if_neg hstream]

/-- What the call leaves in the registers. -/
theorem download_regs (h : lib.Runs type) (htype : (r.fwType 0).toInt = type) (stack : Word) :
    (vtpDownloadAll lib fpu conf stack r).2 =
      blockOf lib fpu type (uploadFirmware lib r conf)
        (downloadCommon lib (uploadFirmware lib r conf) r) := by
  have hkept : ((uploadFirmware lib r conf).fwType 0).toInt = type := by
    rw [uploadFirmware_eq r conf h]
    exact htype
  rw [vtpDownloadAll, downloadBlocks_eq hkept]

end Common

/-! ## Fields -/

section Fields

theorem fadcSumChannel_word (mask : Fin 16 → Word) :
    fadcSumChannel (fadcSumWord mask) = fadcSumQuantised mask := by
  have htwo (low high : Word) := pack_two (f := ⟨0, 16, by decide⟩) (g := ⟨16, 16, by decide⟩)
    (by decide) rfl (BitField.holds_and_low _ low) (BitField.holds_and_low _ high)
  funext k
  rw [fadcSumChannel, fadcSumWord, BitVec.or_comm]
  obtain ⟨hlow, hhigh⟩ := htwo (mask ⟨2 * (k / 2), by omega⟩) (mask ⟨2 * (k / 2) + 1, by omega⟩)
  dsimp only
  split_ifs with heven
  · have hk : (⟨2 * (k / 2), by omega⟩ : Fin 16) = k := Fin.ext (by dsimp only; omega)
    rw [hk] at hlow ⊢
    exact hlow
  · have hk : (⟨2 * (k / 2) + 1, by omega⟩ : Fin 16) = k := Fin.ext (by dsimp only; omega)
    rw [hk] at hhigh ⊢
    exact hhigh

/-- What is read of a cosmic trigger is each value, cut to its field. -/
theorem cosmic_read (emin multmax hitwidth evaldelay : Word) (c : CosmicRegs) :
    let c' := cosmicRegs emin multmax hitwidth evaldelay c
    cosmicCtrlEmin.get c'.ctrl = emin &&& cosmicCtrlEmin.low ∧
      cosmicCtrlMultmax.get c'.ctrl = multmax &&& cosmicCtrlMultmax.low ∧
      cosmicDelayWidth.get c'.delay = hitwidth &&& cosmicDelayWidth.low ∧
      cosmicDelayEval.get c'.delay = evaldelay &&& cosmicDelayEval.low := by
  have hctrl : cosmicCtrlEmin.Below cosmicCtrlMultmax := by decide
  have hdelay : cosmicDelayWidth.Below cosmicDelayEval := by decide
  refine ⟨?_, BitField.get_put _ _ _, ?_, BitField.get_put _ _ _⟩
  · exact (BitField.get_put_of_below hctrl _ _).trans (BitField.get_put _ _ _)
  · exact (BitField.get_put_of_below hdelay _ _).trans (BitField.get_put _ _ _)

/-- The pixel flag lies between the two fields of its register. -/
theorem pcCosmic_read (emin multmax hitwidth evaldelay pixelen : Word) (c : CosmicRegs) :
    let c' := pcCosmicRegs emin multmax hitwidth evaldelay pixelen c
    cosmicCtrlEmin.get c'.ctrl = emin &&& cosmicCtrlEmin.low ∧
      cosmicCtrlMultmax.get c'.ctrl = multmax &&& cosmicCtrlMultmax.low ∧
      cosmicDelayWidth.get c'.delay = hitwidth &&& cosmicDelayWidth.low ∧
      cosmicDelayEval.get c'.delay = evaldelay &&& cosmicDelayEval.low ∧
      cosmicCtrlPixel.get c'.ctrl = flag pixelen := by
  obtain ⟨hemin, hmult, hwidth, heval⟩ := cosmic_read emin multmax hitwidth evaldelay c
  have hbelow : cosmicCtrlEmin.Below cosmicCtrlPixel := by decide
  have habove : cosmicCtrlPixel.Below cosmicCtrlMultmax := by decide
  have hflag : cosmicCtrlPixel.Holds (flag pixelen) := holds_flag _ (by decide) _
  refine ⟨?_, ?_, hwidth, heval, BitField.get_put_of_holds hflag _⟩
  · exact (BitField.get_put_of_below hbelow _ _).trans hemin
  · exact (BitField.get_put_of_above habove hflag _).trans hmult

/-- Ten bits for each of the two limits. -/
theorem dalitz_read (min max : Word) :
    ((max <<< 16) ||| min) &&& 0x3ff#32 = min ∧ (((max <<< 16) ||| min) >>> 16) &&& 0x3ff#32 = max ↔
      min.toNat < 1024 ∧ max.toNat < 1024 := by
  constructor
  · rintro ⟨hmin, hmax⟩
    rw [← hmin, ← hmax]
    exact ⟨tenBits_lt _, tenBits_lt _⟩
  · rintro ⟨hmin, hmax⟩
    exact pack_two (f := ⟨0, 10, by decide⟩) (g := ⟨16, 10, by decide⟩) (by decide) rfl
      ((BitField.holds_iff _ _).2 hmin) ((BitField.holds_iff _ _).2 hmax)

theorem shifted_read (x : Word) : (x <<< 3) >>> 3 = x ↔ x.toNat < 2 ^ 29 := by
  rw [← BitVec.toNat_inj, BitVec.toNat_ushiftRight, BitVec.toNat_shiftLeft,
    Nat.shiftRight_eq_div_pow,
    Nat.shiftLeft_eq]
  have hx := x.isLt
  omega

/-- A value cut to the field at bit 0 is read as it is. -/
theorem lowest_read {f : BitField 32} (hf : f.shift = 0) (x : Word) :
    f.get (x &&& f.low) = x &&& f.low := by
  rw [BitField.get, hf, BitVec.ushiftRight_zero, BitVec.and_assoc, BitVec.and_self]

theorem hit_read (v : EcView) (t : EcTriggerRegs) :
    ecHitEmin.get (ecTriggerRegs v t).hit = v.hitEmin &&& ecHitEmin.low ∧
      ecHitDt.get (ecTriggerRegs v t).hit = checkRange 0 8 (v.hitDt.sdiv 4#32) := by
  have hbelow : ecHitEmin.Below ecHitDt := by decide
  refine ⟨?_, BitField.get_put_of_holds (holds_upTo _ 8 _ (by decide)) _⟩
  exact (BitField.get_put_of_below hbelow _ _).trans (BitField.get_put _ _ _)

end Fields

/-! ## The blocks -/

section Blocks

variable {lib : VtpLib} {fpu : FloatUnit} {period : FloatText → Word} {conf : VtpConf} {r : Regs}

attribute [local simp] blockProgrammed_iff blockFits_iff vtpFwTypeEc vtpFwTypePc vtpFwTypeHtcc
  vtpFwTypeFtof vtpFwTypeCnd vtpFwTypePcs vtpFwTypeEcs vtpFwTypeGt vtpFwTypeDc vtpFwTypeHcal
  vtpFwTypeFtcal vtpFwTypeFthodo vtpFwTypeHps vtpFwTypeCompton vtpFwTypeFadcstream
  vtpFwTypeVcodaroc

theorem ecView_programmed (h : lib.Runs vtpFwTypeEc) (i : Fin 2) :
    ecViewOf (downloadEc lib conf r) i = (conf.ec.view i).quantised ↔ (conf.ec.view i).Fits := by
  obtain ⟨hemin, hdt⟩ := hit_read (conf.ec.view i) (r.ecTrigger i)
  obtain ⟨hcemin, hmult, hwidth, heval⟩ := cosmic_read (conf.ec.view i).cosmicEmin
    (conf.ec.view i).cosmicMultmax (conf.ec.view i).cosmicHitwidth
    (conf.ec.view i).cosmicEvaldelay (r.ecCosmic i)
  have hdalitz := dalitz_read (conf.ec.view i).dalitzMin (conf.ec.view i).dalitzMax
  rw [downloadEc_eq conf r h, ecViewOf, EcView.quantised, EcView.mk.injEq, EcView.Fits, CosmicFits,
    ← and_assoc (a := (conf.ec.view i).dalitzMin.toNat < 1024), ← hdalitz]
  dsimp only [ecCosmicRegs]
  rw [hemin, hdt, hcemin, hmult, hwidth, heval]
  constructor
  · rintro ⟨h1, -, h2, h3, h4⟩
    exact ⟨h1, ⟨h2, h3⟩, h4⟩
  · rintro ⟨h1, ⟨h2, h3⟩, h4⟩
    exact ⟨h1, rfl, h2, h3, h4⟩

theorem block_ec (h : lib.Runs vtpFwTypeEc) :
    BlockProgrammed fpu period vtpFwTypeEc conf (downloadEc lib conf r) ↔
      BlockFits vtpFwTypeEc conf := by
  have hview (i : Fin 2) := @ecView_programmed lib conf r h i
  have hsum : fadcSumChannel (downloadEc lib conf r).fadcSum = fadcSumQuantised conf.ec.fadcsumChEn := by
    rw [downloadEc_eq conf r h, fadcSumChannel_word]
  have hec : ecOf (downloadEc lib conf r) = conf.ec.quantised ↔ ∀ i, (conf.ec.view i).Fits := by
    rw [Fin.forall_fin_two, ← hview, ← hview, ecOf, EcConf.quantised, EcConf.mk.injEq, hsum]
    exact and_iff_right rfl
  simp [hec]

theorem block_pc (h : lib.Runs vtpFwTypePc) :
    BlockProgrammed fpu period vtpFwTypePc conf (downloadPc lib conf r) ↔
      BlockFits vtpFwTypePc conf := by
  obtain ⟨hemin, hmult, hwidth, heval, hpixel⟩ := pcCosmic_read conf.pc.cosmicEmin
    conf.pc.cosmicMultmax conf.pc.cosmicHitwidth conf.pc.cosmicEvaldelay conf.pc.cosmicPixelen
    r.pcCosmic
  have hpc : pcOf (downloadPc lib conf r) = conf.pc.quantised ↔ CosmicFits conf.pc.cosmicEmin
      conf.pc.cosmicMultmax conf.pc.cosmicHitwidth conf.pc.cosmicEvaldelay := by
    rw [downloadPc_eq conf r h, pcOf, PcConf.quantised, PcConf.mk.injEq]
    dsimp only
    rw [fadcSumChannel_word, hemin, hmult, hwidth, heval, hpixel]
    simp [CosmicFits, BitField.Holds]
  simp [hpc]

theorem block_pcs (h : lib.Runs vtpFwTypePcs) :
    BlockProgrammed fpu period vtpFwTypePcs conf (downloadPcs lib conf r) ↔
      BlockFits vtpFwTypePcs conf := by
  obtain ⟨hemin, hmult, hwidth, heval, hpixel⟩ := pcCosmic_read conf.pcs.cosmicEmin
    conf.pcs.cosmicMultmax conf.pcs.cosmicHitwidth conf.pcs.cosmicEvaldelay conf.pcs.cosmicPixelen
    r.pcCosmic
  have hpcs : pcsOf (downloadPcs lib conf r) conf.pcs = conf.pcs.quantised ↔
      CosmicFits conf.pcs.cosmicEmin conf.pcs.cosmicMultmax conf.pcs.cosmicHitwidth
        conf.pcs.cosmicEvaldelay := by
    rw [downloadPcs_eq conf r h, pcsOf, PcsConf.quantised, PcsConf.mk.injEq]
    dsimp only
    rw [hemin, hmult, hwidth, heval, hpixel]
    simp [CosmicFits, BitField.Holds, pcsRegs]
  simp [hpcs]

theorem ecsView_programmed (h : lib.Runs vtpFwTypeEcs) (i : Fin 2) :
    ecsViewOf (downloadEcs lib conf r) i = conf.ecs.view i ↔ (conf.ecs.view i).Fits := by
  obtain ⟨hemin, hmult, hwidth, heval⟩ := cosmic_read (conf.ecs.view i).cosmicEmin
    (conf.ecs.view i).cosmicMultmax (conf.ecs.view i).cosmicHitwidth
    (conf.ecs.view i).cosmicEvaldelay (r.ecCosmic i)
  rw [downloadEcs_eq conf r h, ecsViewOf]
  dsimp only [ecsCosmicRegs]
  generalize conf.ecs.view i = v at hemin hmult hwidth heval ⊢
  rw [EcsView.Fits, CosmicFits]
  rw [hemin, hmult, hwidth, heval]
  cases v
  rw [EcsView.mk.injEq]
  rfl

theorem block_ecs (h : lib.Runs vtpFwTypeEcs) :
    BlockProgrammed fpu period vtpFwTypeEcs conf (downloadEcs lib conf r) ↔
      BlockFits vtpFwTypeEcs conf := by
  have hview (i : Fin 2) := @ecsView_programmed lib conf r h i
  have hecs : ecsOf (downloadEcs lib conf r) conf.ecs = conf.ecs.quantised ↔
      conf.ecs.dalitzMin.toNat < 2 ^ 29 ∧ conf.ecs.dalitzMax.toNat < 2 ^ 29 ∧
        ∀ i, (conf.ecs.view i).Fits := by
    rw [Fin.forall_fin_two, ← hview, ← hview, ← shifted_read, ← shifted_read, ecsOf,
      EcsConf.quantised, EcsConf.mk.injEq]
    have hregs : (downloadEcs lib conf r).ecsTrigger = ecsRegs conf.ecs := by
      rw [downloadEcs_eq conf r h]
    have hsum : fadcSumChannel (downloadEcs lib conf r).fadcSum =
        fadcSumQuantised conf.ecs.fadcsumChEn := by
      rw [downloadEcs_eq conf r h, fadcSumChannel_word]
    rw [hregs, hsum]
    simp [ecsRegs, EcsConf.view]
  simp [hecs]

/-- The last setter stores the energy over the whole register of the dead time. -/
theorem block_ftcal (h : lib.Runs vtpFwTypeFtcal) :
    BlockProgrammed fpu period vtpFwTypeFtcal conf (downloadFtcal lib conf r) ↔
      BlockFits vtpFwTypeFtcal conf := by
  have hseed : ftcalCtrlSeedthr.Below ftcalCtrlSeeddt ∧ ftcalCtrlSeedthr.Below ftcalCtrlHododt ∧
      ftcalCtrlSeeddt.Below ftcalCtrlHododt := by decide
  have hthree (f : BitField 32) (hf : f.low = 7#32) (v : Word) : f.Holds (v &&& 7#32) := by
    rw [← hf]
    exact BitField.holds_and_low f v
  have hregs : (downloadFtcal lib conf r).ftcalTrigger = ftcalRegs conf.ftcal r.ftcalTrigger := by
    rw [downloadFtcal_eq conf r h]
  have hsum : fadcSumChannel (downloadFtcal lib conf r).fadcSum =
      fadcSumQuantised conf.ftcal.fadcsumChEn := by
    rw [downloadFtcal_eq conf r h, fadcSumChannel_word]
  have hemin : ftcalCtrlSeedthr.get (ftcalRegs conf.ftcal r.ftcalTrigger).ctrl =
      conf.ftcal.seedEmin &&& ftcalCtrlSeedthr.low :=
    (BitField.get_put_of_below hseed.2.1 _ _).trans
      ((BitField.get_put_of_below hseed.1 _ _).trans (BitField.get_put _ _ _))
  have hdt : ftcalCtrlSeeddt.get (ftcalRegs conf.ftcal r.ftcalTrigger).ctrl =
      conf.ftcal.seedDt.sdiv 4#32 &&& 7#32 :=
    (BitField.get_put_of_below hseed.2.2 _ _).trans
      (BitField.get_put_of_holds (hthree _ rfl _) _)
  have hhodo : ftcalCtrlHododt.get (ftcalRegs conf.ftcal r.ftcalTrigger).ctrl =
      conf.ftcal.hodoDt.sdiv 4#32 &&& 7#32 :=
    BitField.get_put_of_holds (hthree _ rfl _) _
  have hdead : ftcalDeadtimeCtrlDeadtime.get
      (ftcalRegs conf.ftcal r.ftcalTrigger).deadtimeCtrl = 0#32 := by
    have hnone : ftcalDeadtimeCtrlDeadtime.get ftcalDeadtimeCtrlEmin.low = 0#32 := by decide
    rw [ftcalRegs, BitField.get_and, hnone, BitVec.and_zero]
  have hdeadEmin : ftcalDeadtimeCtrlEmin.get
      (ftcalRegs conf.ftcal r.ftcalTrigger).deadtimeCtrl =
        conf.ftcal.deadtimeEmin &&& ftcalDeadtimeCtrlEmin.low :=
    lowest_read rfl _
  have hftcal : ftcalOf (downloadFtcal lib conf r) = conf.ftcal.quantised ↔
      ftcalCtrlSeedthr.Holds conf.ftcal.seedEmin ∧
        conf.ftcal.deadtime.sdiv 4#32 &&& 0x3f#32 = 0#32 := by
    rw [ftcalOf, FtcalConf.quantised, FtcalConf.mk.injEq, hregs, hsum, hemin, hdt, hhodo, hdead,
      hdeadEmin]
    have hticks : 0#32 * 4#32 = (conf.ftcal.deadtime.sdiv 4#32 &&& 0x3f#32) * 4#32 ↔
        conf.ftcal.deadtime.sdiv 4#32 &&& 0x3f#32 = 0#32 := by
      have hlt := (BitField.holds_iff ⟨0, 6, by decide⟩ _).1
        (BitField.holds_and_low ⟨0, 6, by decide⟩ (conf.ftcal.deadtime.sdiv 4#32))
      change (conf.ftcal.deadtime.sdiv 4#32 &&& 0x3f#32).toNat < 64 at hlt
      generalize conf.ftcal.deadtime.sdiv 4#32 &&& 0x3f#32 = ticks at hlt
      constructor
      · intro heq
        have hnat := congrArg BitVec.toNat heq
        rw [BitVec.toNat_mul, BitVec.toNat_mul] at hnat
        simp only [BitVec.toNat_ofNat] at hnat
        exact BitVec.eq_of_toNat_eq (by rw [BitVec.toNat_ofNat]; omega)
      · intro hzero
        rw [hzero]
    constructor
    · rintro ⟨-, hseed, -, -, hdead, -⟩
      exact ⟨hseed, hticks.1 hdead⟩
    · rintro ⟨hseed, hdead⟩
      exact ⟨rfl, hseed, rfl, rfl, hticks.2 hdead, rfl⟩
  simp [hftcal]

/-- Nothing is lost on the way to the registers of these. -/
theorem block_htcc (h : lib.Runs vtpFwTypeHtcc) :
    BlockProgrammed fpu period vtpFwTypeHtcc conf (downloadHtcc lib conf r) ↔
      BlockFits vtpFwTypeHtcc conf := by
  have hhtcc : htccOf (downloadHtcc lib conf r) = conf.htcc := by
    rw [downloadHtcc_eq conf r h]
    rfl
  simp [hhtcc]

theorem block_ftof (h : lib.Runs vtpFwTypeFtof) :
    BlockProgrammed fpu period vtpFwTypeFtof conf (downloadFtof lib conf r) ↔
      BlockFits vtpFwTypeFtof conf := by
  have hftof : thresholdConfOf (downloadFtof lib conf r).ftofTrigger = conf.ftof := by
    rw [downloadFtof_eq conf r h]
    rfl
  simp [hftof]

theorem block_cnd (h : lib.Runs vtpFwTypeCnd) :
    BlockProgrammed fpu period vtpFwTypeCnd conf (downloadCnd lib conf r) ↔
      BlockFits vtpFwTypeCnd conf := by
  have hcnd : thresholdConfOf (downloadCnd lib conf r).cndTrigger = conf.cnd := by
    rw [downloadCnd_eq conf r h]
    rfl
  simp [hcnd]

theorem block_gt (h : lib.Runs vtpFwTypeGt) :
    BlockProgrammed fpu period vtpFwTypeGt conf (downloadGt lib fpu conf r) ↔
      BlockFits vtpFwTypeGt conf := by
  have hgt : gtOf fpu (downloadGt lib fpu conf r) = conf.gt.quantised fpu := by
    rw [downloadGt_eq fpu conf r h, gtOf, GtConf.quantised, GtConf.mk.injEq]
    exact ⟨rfl, rfl, funext fun i => gtBitOf_gtBitRegs fpu (conf.gt.trgbits i)⟩
  simp [hgt]

theorem block_dc (h : lib.Runs vtpFwTypeDc) :
    BlockProgrammed fpu period vtpFwTypeDc conf (downloadDc lib conf r) ↔
      BlockFits vtpFwTypeDc conf := by
  have hdc : (downloadDc lib conf r).dcrbSegFind = conf.dc.dcsegfindThreshold := by
    rw [downloadDc_eq conf r h]
  simp [hdc]

theorem block_hcal (h : lib.Runs vtpFwTypeHcal) :
    BlockProgrammed fpu period vtpFwTypeHcal conf (downloadHcal lib conf r) ↔
      BlockFits vtpFwTypeHcal conf := by
  have hhcal : hcalOf (downloadHcal lib conf r) = conf.hcal.quantised := by
    rw [downloadHcal_eq conf r h]
    rfl
  simp [hhcal]

theorem block_fthodo (h : lib.Runs vtpFwTypeFthodo) :
    BlockProgrammed fpu period vtpFwTypeFthodo conf (downloadFthodo lib conf r) ↔
      BlockFits vtpFwTypeFthodo conf := by
  have hfthodo : fthodoOf (downloadFthodo lib conf r) = conf.fthodo.quantised := by
    rw [downloadFthodo_eq conf r h, fthodoOf, FthodoConf.quantised, lowest_read rfl]
  simp [hfthodo]

/-- The ROC firmware and unknown ones have no block. -/
theorem block_other {type : Int} (hnot : type ∉ downloadTypes) (hroc : type ≠ vtpFwTypeVcodaroc) :
    BlockProgrammed fpu period type conf r ↔ BlockFits type conf := by
  simp only [downloadTypes, triggerTypes, List.cons_append, List.nil_append, List.mem_cons,
    List.not_mem_nil, or_false, not_or] at hnot
  simp only [blockProgrammed_iff, blockFits_iff, hnot, hroc, false_implies, and_self]

theorem block_iff {type : Int} (h : lib.Runs type) (hprogrammed : type ∉ unprogrammedTypes) :
    BlockProgrammed fpu period type conf (blockOf lib fpu type conf r) ↔ BlockFits type conf := by
  simp only [unprogrammedTypes, List.mem_cons, List.not_mem_nil, or_false, not_or] at hprogrammed
  obtain ⟨hhps, hcompton, hstream, hroc⟩ := hprogrammed
  by_cases hmem : type ∈ downloadTypes
  · simp only [downloadTypes, triggerTypes, List.cons_append, List.nil_append, List.mem_cons,
      List.not_mem_nil, or_false] at hmem
    rcases hmem with rfl | rfl | rfl | rfl | rfl | rfl | rfl | rfl | rfl | rfl | rfl | rfl | hmem |
      hmem | hmem
    · exact block_ec h
    · exact block_pc h
    · exact block_htcc h
    · exact block_ftof h
    · exact block_cnd h
    · exact block_pcs h
    · exact block_ecs h
    · exact block_gt h
    · exact block_dc h
    · exact block_hcal h
    · exact block_ftcal h
    · exact block_fthodo h
    · exact absurd hmem hhps
    · exact absurd hmem hcompton
    · exact absurd hmem hstream
  · rw [blockOf_other hmem]
    exact block_other hmem hroc

end Blocks

/-! ## The whole function -/

section

variable {lib : VtpLib} {type : Int} {fpu : FloatUnit} {period : FloatText → Word}
  {conf : VtpConf} {r : Regs} {stack : Word}

/-! ### What says which firmware runs is not part of what is asked -/

theorem firmware_payloadEn (r : Regs) (h : lib.Runs type) :
    (uploadFirmware lib r conf).payloadEn = conf.payloadEn := by
  rw [uploadFirmware_eq r conf h]

theorem firmware_fiberEn (r : Regs) (h : lib.Runs type) :
    (uploadFirmware lib r conf).fiberEn = conf.fiberEn := by
  rw [uploadFirmware_eq r conf h]

theorem payloadFits_firmware (r : Regs) (h : lib.Runs type) :
    PayloadFits type (uploadFirmware lib r conf) ↔ PayloadFits type conf := by
  rw [uploadFirmware_eq r conf h, PayloadFits, PayloadFits]

theorem blockFits_firmware (r : Regs) (h : lib.Runs type) :
    BlockFits type (uploadFirmware lib r conf) ↔ BlockFits type conf := by
  rw [uploadFirmware_eq r conf h, blockFits_iff, blockFits_iff]

theorem blockProgrammed_firmware (h : lib.Runs type) (r' : Regs) :
    BlockProgrammed fpu period type (uploadFirmware lib r conf) r' ↔
      BlockProgrammed fpu period type conf r' := by
  rw [uploadFirmware_eq r conf h, blockProgrammed_iff, blockProgrammed_iff]

theorem programmed_iff_fits (h : lib.Runs type) (htype : (r.fwType 0).toInt = type)
    (hprogrammed : type ∉ unprogrammedTypes) :
    Programmed fpu period lib type conf (vtpDownloadAll lib fpu conf stack r).2 ↔
      ParametersFit type conf := by
  have hstream : type ≠ vtpFwTypeFadcstream := by
    rintro rfl
    exact hprogrammed (by decide)
  have hlib : lib.fwType 0 ≠ vtpFwTypeFadcstream := by
    rw [h.fwType]
    exact hstream
  have hget := (blockOf_beside fpu h (uploadFirmware lib r conf)).get
    (downloadCommon lib (uploadFirmware lib r conf) r)
  have heb : (blockOf lib fpu type (uploadFirmware lib r conf)
      (downloadCommon lib (uploadFirmware lib r conf) r)).eb =
        ⟨conf.windowOffset.sdiv lib.windowTick, conf.windowWidth.sdiv lib.windowTick⟩ := by
    have hkept := congrArg CommonRegs.eb hget
    dsimp only [commonPart] at hkept
    rw [hkept, downloadCommon_eq _ r h, uploadFirmware_eq r conf h]
  have hpayload := @payload_read lib type (uploadFirmware lib r conf) r h hstream
  rw [← payloadMaskOf_congr hget hlib, payloadFits_firmware r h, firmware_payloadEn r h] at hpayload
  have hfiber := @fiber_read lib type (uploadFirmware lib r conf) r h
  rw [← fiberMaskOf_congr hget, firmware_fiberEn r h] at hfiber
  have hblock := @block_iff lib fpu period (uploadFirmware lib r conf)
    (downloadCommon lib (uploadFirmware lib r conf) r) type h hprogrammed
  rw [blockFits_firmware r h, blockProgrammed_firmware h] at hblock
  rw [download_regs h htype]
  constructor
  · rintro ⟨-, -, hports, hlinks, hb⟩
    exact ⟨hprogrammed, hpayload.1 hports, hfiber.1 hlinks, hblock.1 hb⟩
  · rintro ⟨-, hports, hlinks, hb⟩
    refine ⟨?_, ?_, hpayload.2 hports, hfiber.2 hlinks, hblock.2 hb⟩
    · rw [heb]
    · rw [heb]

/-! ### What no call programs -/

/-- A board with this firmware and nothing in its registers. -/
def boardOf (fw : Word) : Regs := { (default : Regs) with fwType := ![fw, 0#32] }

/-- What the block of a firmware decodes to in the end. -/
theorem DownloadExact.block (h : DownloadExact fpu period type conf) (r : Regs)
    (htype : (r.fwType 0).toInt = type) :
    BlockProgrammed fpu period type conf
      (blockOf (VtpLib.ofRegs r) fpu type (uploadFirmware (VtpLib.ofRegs r) r conf)
        (downloadCommon (VtpLib.ofRegs r) (uploadFirmware (VtpLib.ofRegs r) r conf) r)) := by
  have hruns : (VtpLib.ofRegs r).Runs type := ⟨rfl, htype⟩
  have hblock := (h r 0#32 htype).block
  rwa [download_regs hruns htype] at hblock

/-- The latency of HPS is what it was. -/
theorem hps_latency (h : DownloadExact fpu period vtpFwTypeHps conf)
    (htype : (r.fwType 0).toInt = vtpFwTypeHps) :
    r.hpsTriggerBits.latency * 4#32 = conf.hps.trig.quantised.latency := by
  have hruns : (VtpLib.ofRegs r).Runs vtpFwTypeHps := ⟨rfl, htype⟩
  have hread := (h.block r htype).hps rfl
  have hblock (c : VtpConf) (r0 : Regs) : blockOf (VtpLib.ofRegs r) fpu vtpFwTypeHps c r0 =
      hpsRegs fpu c.hps r0 := downloadHps_eq fpu c r0 hruns
  rw [hblock, downloadCommon_modify _ hruns] at hread
  exact congrArg (fun c : HpsConf => c.trig.latency) hread

theorem never_hps : ¬ DownloadExact fpu period vtpFwTypeHps conf := by
  intro h
  let board (latency : Word) : Regs := { boardOf (BitVec.ofInt 32 vtpFwTypeHps) with
    hpsTriggerBits := ⟨latency, fun _ => 0#32⟩ }
  have hzero := hps_latency (r := board 0#32) h rfl
  have hone := hps_latency (r := board 1#32) h rfl
  rw [← hzero] at hone
  cases hone

/-- The old bits of the multiplicity stay. -/
theorem compton_multiplicity (h : DownloadExact fpu period vtpFwTypeCompton conf)
    (htype : (r.fwType 0).toInt = vtpFwTypeCompton) :
    comptonEplaneMultMin.get (comptonCtrl (conf.compton.fadcThreshold 1)
        (conf.compton.eplaneMultMin 1) (conf.compton.eplaneMask 1) (r.comptonTrigger.ctrl 1)) =
      checkRange 0 4 (conf.compton.eplaneMultMin 1) := by
  have hruns : (VtpLib.ofRegs r).Runs vtpFwTypeCompton := ⟨rfl, htype⟩
  have hread := (h.block r htype).compton rfl
  have hblock (c : VtpConf) (r0 : Regs) : blockOf (VtpLib.ofRegs r) fpu vtpFwTypeCompton c r0 =
      comptonRegs c.compton r0 := downloadCompton_eq c r0 hruns
  rw [hblock, downloadCommon_modify _ hruns, uploadFirmware_eq r conf hruns] at hread
  have hmult := congrArg (fun c : ComptonConf => c.eplaneMultMin 1) hread
  have hone : (1 : Fin 5) ≠ 0 := by decide
  simp only [comptonOf, comptonRegs, comptonLoop, update_of_ne hone, comptonCtrls] at hmult
  exact hmult

/-- No multiplicity has all of its bits. -/
theorem never_compton : ¬ DownloadExact fpu period vtpFwTypeCompton conf := by
  intro h
  have hread := compton_multiplicity (r := { boardOf (BitVec.ofInt 32 vtpFwTypeCompton) with
    comptonTrigger := ⟨fun _ => BitVec.allOnes 32, fun _ => 0#32⟩ }) h rfl
  have hold : comptonEplaneMultMin.get (BitVec.allOnes 32 &&& 0xff00ffff#32) = 7#32 := by decide
  rw [comptonCtrl, BitField.get_or, BitField.get_or, BitField.get_or, hold] at hread
  have hlarge (y : Word) : ¬ (0 ≤ (7#32 ||| y).toInt ∧ (7#32 ||| y).toInt ≤ 4) := by
    have hseven : 7 ≤ (7#32 ||| y).toNat := by
      rw [BitVec.toNat_or]
      exact Nat.left_le_or
    have hlt := (7#32 ||| y).isLt
    rw [BitVec.toInt_eq_toNat_cond]
    split_ifs <;> omega
  rw [BitVec.or_assoc, BitVec.or_assoc] at hread
  exact hlarge _ (hread ▸ checkRange_mem (by decide) (by decide) (by decide) _)

/-- The addresses of the second connection are what they were. -/
theorem second_address (h : DownloadExact fpu period vtpFwTypeFadcstream conf)
    (htype : (r.fwType 0).toInt = vtpFwTypeFadcstream) :
    ipBytes (r.tcpClient 1).ip4Addr = (conf.fadcStreaming.eb 1).ipaddr := by
  have hruns : (VtpLib.ofRegs r).Runs vtpFwTypeFadcstream := ⟨rfl, htype⟩
  have hread := (h.block r htype).fadcStreaming rfl
  have hblock (c : VtpConf) (r0 : Regs) := downloadFadcstream_eq c r0 hruns
  change fadcStreamingOf (downloadFadcstream _ _ _) _ = _ at hread
  rw [hblock, downloadCommon_modify _ hruns] at hread
  have haddr := congrArg (fun c : FadcStreamingConf => (c.eb 1).ipaddr) hread
  have hone : (1 : Fin 4) ≠ 0 := by decide
  simp only [fadcStreamingOf, streamingEbOf, update_of_ne hone,
    FadcStreamingConf.quantised] at haddr
  exact haddr

theorem never_fadcstream : ¬ DownloadExact fpu period vtpFwTypeFadcstream conf := by
  intro h
  let board (addr : Word) : Regs := { boardOf (BitVec.ofInt 32 vtpFwTypeFadcstream) with
    tcpClient := fun _ => { (default : TcpipClientRegs) with ip4Addr := addr } }
  have hzero := second_address (r := board 0#32) h rfl
  have hone := second_address (r := board 1#32) h rfl
  rw [← hzero] at hone
  have hlast := congrFun hone 3
  cases hlast

/-- So is the ROC id. -/
theorem roc_id (h : DownloadExact fpu period vtpFwTypeVcodaroc conf)
    (htype : (r.fwType 0).toInt = vtpFwTypeVcodaroc) :
    r.rocID &&& 0xff#32 = conf.vtpRoc.rocId := by
  have hruns : (VtpLib.ofRegs r).Runs vtpFwTypeVcodaroc := ⟨rfl, htype⟩
  have hread := (h.block r htype).vtpRoc rfl
  rw [blockOf_other (by decide), id, downloadCommon_modify _ hruns] at hread
  exact congrArg VtpRocConf.rocId hread

theorem never_vcodaroc : ¬ DownloadExact fpu period vtpFwTypeVcodaroc conf := by
  intro h
  let board (id : Word) : Regs := { boardOf (BitVec.ofInt 32 vtpFwTypeVcodaroc) with rocID := id }
  have hzero := roc_id (r := board 0#32) h rfl
  have hone := roc_id (r := board 1#32) h rfl
  rw [← hzero] at hone
  change 1#32 &&& 0xff#32 = 0#32 &&& 0xff#32 at hone
  exact absurd hone (by decide)

end

/-- After `vtpDownloadAll` every parameter decodes to what is configured, on every board
with the firmware, exactly when it has a call and fits. -/
theorem download_exact_iff (fpu : FloatUnit) (period : FloatText → Word) (fw : Word)
    (conf : VtpConf) :
    DownloadExact fpu period fw.toInt conf ↔ ParametersFit fw.toInt conf := by
  constructor
  · intro h
    by_cases hmem : fw.toInt ∈ unprogrammedTypes
    · simp only [unprogrammedTypes, List.mem_cons, List.not_mem_nil, or_false] at hmem
      rcases hmem with hhps | hcompton | hstream | hroc
      · rw [hhps] at h
        exact absurd h never_hps
      · rw [hcompton] at h
        exact absurd h never_compton
      · rw [hstream] at h
        exact absurd h never_fadcstream
      · rw [hroc] at h
        exact absurd h never_vcodaroc
    · have hruns : (VtpLib.ofRegs (boardOf fw)).Runs fw.toInt := ⟨rfl, rfl⟩
      exact (programmed_iff_fits hruns rfl hmem).1 (h (boardOf fw) 0#32 rfl)
  · intro hfit r stack htype
    have hruns : (VtpLib.ofRegs r).Runs fw.toInt := ⟨rfl, htype⟩
    exact (programmed_iff_fits hruns htype hfit.programmed).2 hfit

/-- FTCAL with a dead time of one tick. -/
def oneTickDead : VtpConf :=
  { (default : VtpConf) with ftcal := { (default : FtcalConf) with deadtime := 4#32 } }

/-- The dead time is gone when its energy is stored. -/
theorem deadtime_lost :
    ¬ DownloadExact FloatUnit.zeros (fun _ => 0#32) vtpFwTypeFtcal oneTickDead := by
  intro h
  have hruns : (VtpLib.ofRegs (boardOf (BitVec.ofInt 32 vtpFwTypeFtcal))).Runs vtpFwTypeFtcal :=
    ⟨rfl, rfl⟩
  have hfit := (programmed_iff_fits hruns rfl (by decide)).1
    (h (boardOf (BitVec.ofInt 32 vtpFwTypeFtcal)) 0#32 rfl)
  obtain ⟨-, hdead⟩ := hfit.block.ftcal rfl
  exact absurd hdead (by decide)

end VtpStreaming
