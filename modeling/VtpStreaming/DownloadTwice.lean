import VtpStreaming.Quantised
import VtpStreaming.UploadExact

/-!
# Programming twice

`vtpDownloadAll` ends by reading the registers back over the configuration, so a
second call programs what was read. It leaves the registers as they are exactly
when every value that was read programs what it was read from.
-/

namespace VtpStreaming

open Clib Function VtpLib

/-! ## The registers that every firmware programs -/

/-- With the firmware type, which no setter writes. -/
structure CommonRegs where
  fwType : Fin 2 → Word
  eb : V7EbRegs
  fadcDec : Word
  sspDec : Word
  dcrbDec : Word
  hcalCtrl : Word
  ftcalDec : Word
  roadFindCtrl : Word
  vxs : Fin 16 → Word
  qsfp : Fin 4 → Word

def commonPart : Part Regs CommonRegs where
  get r := ⟨r.fwType, r.eb, r.fadcDec, r.sspDec, r.dcrbDec, r.hcal.ctrl, r.ftcalDec, r.dcrbRoadFind.ctrl,
    r.vxs, r.qsfp⟩
  put c r :=
    { r with
      fwType := c.fwType
      eb := c.eb
      fadcDec := c.fadcDec
      sspDec := c.sspDec
      dcrbDec := c.dcrbDec
      hcal.ctrl := c.hcalCtrl
      ftcalDec := c.ftcalDec
      dcrbRoadFind.ctrl := c.roadFindCtrl
      vxs := c.vxs
      qsfp := c.qsfp }
  get_put _ _ := rfl
  put_put _ _ _ := rfl
  put_get _ := rfl

section

variable {lib : VtpLib} {type : Int} {conf : VtpConf} {r : Regs}

/-- What the call makes of its registers, whatever the others are. -/
def commonRegs (lib : VtpLib) (conf : VtpConf) (c : CommonRegs) : CommonRegs :=
  commonPart.get (downloadCommon lib conf (commonPart.put c default))

theorem downloadCommon_modify (conf : VtpConf) (h : lib.Runs type) (r : Regs) :
    downloadCommon lib conf r = commonPart.modify (commonRegs lib conf) r := by
  rw [Part.modify, commonRegs, downloadCommon_eq conf _ h, downloadCommon_eq conf _ h]
  unfold writeFiberMask writePayloadMask
  split_ifs <;> rfl

/-- The links that are enabled are those that are read back: on FTCAL the mask has
no bit above them, on DC links 0 and 3 are off, on the others all of them. -/
def FiberSteady (type : Int) (fiberEn : Word) : Prop :=
  if type = vtpFwTypeFtcal then ∀ i, 4 ≤ i → i < 16 → fiberEn.getLsbD i = false
  else if type = vtpFwTypeDc then fiberEn.getLsbD 0 = false ∧ fiberEn.getLsbD 3 = false
  else ∀ i : Fin 4, fiberEn.getLsbD i = false

theorem serdesCtrl_injective : Injective serdesCtrl := by
  intro a b
  cases a <;> cases b <;> decide

/-- The same links are enabled when the four bits are the same. -/
theorem qsfp_eq_iff (x y : Word) :
    (fun i : Fin 4 => serdesCtrl (x.getLsbD i)) = (fun i : Fin 4 => serdesCtrl (y.getLsbD i)) ↔
      ∀ i : Fin 4, x.getLsbD i = y.getLsbD i := by
  rw [funext_iff]
  exact forall_congr' fun i => serdesCtrl_injective.eq_iff

theorem getLsbD_nibble (x : Word) (i : Nat) :
    (x &&& 0xf#32).getLsbD i = (decide (i < 4) && x.getLsbD i) := by
  have hmask : (0xf#32).getLsbD i = decide (i < 4) :=
    BitField.getLsbD_low ⟨0, 4, by decide⟩ i (w := 32)
  rw [BitVec.getLsbD_and, hmask, Bool.and_comm]

theorem getLsbD_ports (x : Word) (i : Nat) :
    (x &&& 0xffff#32).getLsbD i = (decide (i < 16) && x.getLsbD i) := by
  have hmask : (0xffff#32).getLsbD i = decide (i < 16) :=
    BitField.getLsbD_low ⟨0, 16, by decide⟩ i (w := 32)
  rw [BitVec.getLsbD_and, hmask, Bool.and_comm]

/-- The mask of the links, above the ports of the payload mask. -/
theorem ftcalDec_fiber (ports fibers : Word) :
    (((ports &&& 0xffff#32) ||| (fibers <<< 16)) >>> 16) &&& 0xf#32 = fibers &&& 0xf#32 := by
  apply BitVec.eq_of_getLsbD_eq
  intro i _
  rw [getLsbD_nibble, getLsbD_nibble, BitVec.getLsbD_ushiftRight, BitVec.getLsbD_or, getLsbD_ports,
    BitVec.getLsbD_shiftLeft]
  by_cases hi : i < 4
  · have hw : 16 + i < 32 := by omega
    simp [hi, hw]
  · simp [hi]

/-- The register is the same when the mask has nothing above its four bits. -/
theorem ftcalDec_eq_iff (ports fibers : Word) :
    (ports &&& 0xffff#32) ||| ((fibers &&& 0xf#32) <<< 16) =
        (ports &&& 0xffff#32) ||| (fibers <<< 16) ↔
      ∀ i, 4 ≤ i → i < 16 → fibers.getLsbD i = false := by
  have hbit (x : Word) (i : Nat) : ((ports &&& 0xffff#32) ||| (x <<< 16)).getLsbD i =
      (decide (i < 16) && ports.getLsbD i ||
        (decide (i < 32) && !decide (i < 16) && x.getLsbD (i - 16))) := by
    rw [BitVec.getLsbD_or, getLsbD_ports, BitVec.getLsbD_shiftLeft]
  constructor
  · intro heq i hlo hhi
    have hlt : i + 16 < 32 := by omega
    have hn : ¬ i < 4 := by omega
    have hi := hbit fibers (i + 16)
    rw [← heq, hbit, getLsbD_nibble] at hi
    simpa [hlt, hn] using hi.symm
  · intro hhigh
    apply BitVec.eq_of_getLsbD_eq
    intro i hi
    rw [hbit, hbit, getLsbD_nibble]
    by_cases hlow : i < 16
    · simp [hlow]
    · by_cases hn : i - 16 < 4
      · simp [hn]
      · have hoff := hhigh (i - 16) (by omega) (by omega)
        simp [hoff]

theorem writeMasks_ftcal (h : lib.Runs vtpFwTypeFtcal) (ports fibers : Word) (r : Regs) :
    lib.writeFiberMask fibers (lib.writePayloadMask ports r) =
      { r with ftcalDec := (ports &&& 0xffff#32) ||| (fibers <<< 16) } := by
  have hdec : vtpFwTypeFtcal ∉ fadcDecTypes := by decide
  rw [writeFiberMask, writePayloadMask, h.fwType, if_pos rfl, if_neg hdec, if_neg (by decide),
    if_neg (by decide), if_neg (by decide), if_pos rfl]

theorem writeMasks_dc (h : lib.Runs vtpFwTypeDc) (ports fibers : Word) (r : Regs) :
    lib.writeFiberMask fibers (lib.writePayloadMask ports r) =
      { r with dcrbDec := ports, dcrbRoadFind.ctrl := (fibers >>> 1) &&& 3#32 } := by
  have hdec : vtpFwTypeDc ∉ fadcDecTypes := by decide
  rw [writeFiberMask, writePayloadMask, h.fwType, if_neg (by decide), if_pos rfl, if_neg hdec,
    if_neg (by decide), if_pos rfl]

/-- On the other firmwares the links are not in the mask register. -/
theorem writeFiberMask_other (h : lib.Runs type) (hftcal : type ≠ vtpFwTypeFtcal)
    (hdc : type ≠ vtpFwTypeDc) (fibers : Word) (r : Regs) : lib.writeFiberMask fibers r = r := by
  rw [writeFiberMask, h.fwType, if_neg hftcal, if_neg hdc]

/-- What is read back is what is programmed, the links apart. -/
structure CommonReadBack (lib : VtpLib) (conf conf' : VtpConf) (r : Regs) : Prop where
  windowWidth : conf'.windowWidth = r.eb.windowWidth * lib.windowTick
  windowOffset : conf'.windowOffset = r.eb.lookback * lib.windowTick
  payloadEn : conf'.payloadEn = conf.payloadEn
  fiberEn : conf'.fiberEn = fiberMaskOf lib r

theorem common_again {conf' : VtpConf} (h : lib.Runs type)
    (hread : CommonReadBack lib conf conf' (downloadCommon lib conf r)) :
    downloadCommon lib conf' (downloadCommon lib conf r) = downloadCommon lib conf r ↔
      FiberSteady type conf.fiberEn := by
  obtain ⟨hwidth, hoffset, hpayload, hfiber⟩ := hread
  rw [downloadCommon_eq conf r h] at *
  rw [downloadCommon_eq conf' _ h, hwidth, hoffset, hpayload, hfiber,
    sdiv_mul_sdiv _ (windowTick_pos lib), sdiv_mul_sdiv _ (windowTick_pos lib)]
  unfold FiberSteady fiberMaskOf
  rw [h.fwType]
  split_ifs with hftcal hdc
  · subst hftcal
    have hlinks := (qsfp_eq_iff (conf.fiberEn &&& 0xf#32) conf.fiberEn).mpr fun i => by
      rw [getLsbD_nibble]
      simp
    rw [writeMasks_ftcal h, writeMasks_ftcal h, ftcalDec_fiber, hlinks,
      ← ftcalDec_eq_iff conf.payloadEn]
    exact ⟨congrArg Regs.ftcalDec, fun heq => congrArg (fun v => { r with
      ftcalDec := v
      eb := ⟨conf.windowOffset.sdiv lib.windowTick, conf.windowWidth.sdiv lib.windowTick⟩
      vxs := fun i => serdesCtrl (conf.payloadEn.getLsbD i)
      qsfp := fun i => serdesCtrl (conf.fiberEn.getLsbD i) }) heq⟩
  · subst hdc
    rw [writeMasks_dc h, writeMasks_dc h]
    have hroad : ((((conf.fiberEn >>> 1) &&& 3#32) &&& 3#32) <<< 1 >>> 1) &&& 3#32 =
        (conf.fiberEn >>> 1) &&& 3#32 := by
      have hmask (i : Nat) : (3#32).getLsbD i = decide (i < 2) :=
        BitField.getLsbD_low ⟨0, 2, by decide⟩ i (w := 32)
      apply BitVec.eq_of_getLsbD_eq
      intro i _
      simp only [BitVec.getLsbD_and, BitVec.getLsbD_ushiftRight, BitVec.getLsbD_shiftLeft, hmask]
      by_cases hi : i < 2
      · have hw : 1 + i < 32 := by omega
        simp [hi, hw]
      · simp [hi]
    have hlinks := qsfp_eq_iff ((((conf.fiberEn >>> 1) &&& 3#32) &&& 3#32) <<< 1) conf.fiberEn
    have hbits : (∀ i : Fin 4, ((((conf.fiberEn >>> 1) &&& 3#32) &&& 3#32) <<< 1).getLsbD i =
        conf.fiberEn.getLsbD i) ↔ conf.fiberEn.getLsbD 0 = false ∧ conf.fiberEn.getLsbD 3 = false := by
      rw [Fin.forall_fin_succ, Fin.forall_fin_succ, Fin.forall_fin_two]
      simp
    rw [hroad, ← hbits, ← hlinks]
    exact ⟨congrArg Regs.qsfp, fun heq => congrArg (fun v => { r with
      dcrbDec := conf.payloadEn
      dcrbRoadFind.ctrl := (conf.fiberEn >>> 1) &&& 3#32
      eb := ⟨conf.windowOffset.sdiv lib.windowTick, conf.windowWidth.sdiv lib.windowTick⟩
      vxs := fun i => serdesCtrl (conf.payloadEn.getLsbD i)
      qsfp := v }) heq⟩
  · rw [writeFiberMask_other h hftcal hdc, writeFiberMask_other h hftcal hdc]
    have hlinks := qsfp_eq_iff 0#32 conf.fiberEn
    have hoff : (∀ i : Fin 4, (0#32).getLsbD i = conf.fiberEn.getLsbD i) ↔
        ∀ i : Fin 4, conf.fiberEn.getLsbD i = false := by
      simp only [BitVec.getLsbD_zero, eq_comm]
    rw [← hoff, ← hlinks]
    unfold writePayloadMask
    split_ifs <;> exact ⟨congrArg Regs.qsfp, fun heq => by rw [heq]⟩

end

/-! ## A block made again

What a getter decodes is written back by its setter, mostly as it was. -/

section

variable {lib : VtpLib} {fpu : FloatUnit} {conf conf' : VtpConf} {r : Regs}

theorem fadcSumWord_channel (sum : Fin 8 → Word) : fadcSumWord (fadcSumChannel sum) = sum := by
  funext i
  have heven : (2 * i.val) / 2 = i.val ∧ 2 * i.val % 2 = 0 := by omega
  have hodd : (2 * i.val + 1) / 2 = i.val ∧ (2 * i.val + 1) % 2 = 1 := by omega
  simp only [fadcSumWord, fadcSumChannel, heven, hodd, if_true, Nat.one_ne_zero, if_false]
  apply BitVec.eq_of_getLsbD_eq
  intro k hk
  rw [BitVec.getLsbD_or, BitVec.getLsbD_shiftLeft, getLsbD_ports, getLsbD_ports, getLsbD_ports,
    getLsbD_ports, BitVec.getLsbD_ushiftRight]
  by_cases hlow : k < 16
  · simp [hlow]
  · have hhigh : k - 16 < 16 := by omega
    have hsum : 16 + (k - 16) = k := by omega
    simp [hlow, hk, hhigh, hsum]

theorem cosmicRegs_again (c : CosmicRegs) :
    cosmicRegs (cosmicCtrlEmin.get c.ctrl) (cosmicCtrlMultmax.get c.ctrl)
      (cosmicDelayWidth.get c.delay) (cosmicDelayEval.get c.delay) c = c := by
  simp only [cosmicRegs, BitField.put_get]

/-- A field of one bit is a flag. -/
theorem flag_get {f : BitField 32} (hf : f.width = 1) (x : Word) : flag (f.get x) = f.get x := by
  have hlt := (f.holds_iff _).mp (f.get_holds x)
  rw [hf] at hlt
  unfold flag
  split_ifs with hzero
  · rw [hzero]
  · apply BitVec.eq_of_toNat_eq
    have hne : (f.get x).toNat ≠ 0 := fun h => hzero (BitVec.eq_of_toNat_eq h)
    rw [BitVec.toNat_ofNat]
    omega

theorem pcCosmicRegs_again (c : CosmicRegs) :
    pcCosmicRegs (cosmicCtrlEmin.get c.ctrl) (cosmicCtrlMultmax.get c.ctrl)
      (cosmicDelayWidth.get c.delay) (cosmicDelayEval.get c.delay) (cosmicCtrlPixel.get c.ctrl) c =
      c := by
  rw [pcCosmicRegs, cosmicRegs_again, flag_get rfl, BitField.put_get]

theorem again_pc (h : lib.Runs vtpFwTypePc) (hread : conf'.pc = pcOf r) :
    downloadPc lib conf' r = r := by
  rw [downloadPc_eq conf' r h, hread]
  simp only [pcOf, fadcSumWord_channel, pcCosmicRegs_again]

theorem again_htcc (h : lib.Runs vtpFwTypeHtcc) (hread : conf'.htcc = htccOf r) :
    downloadHtcc lib conf' r = r := by
  rw [downloadHtcc_eq conf' r h, hread]
  rfl

theorem again_ftof (h : lib.Runs vtpFwTypeFtof)
    (hread : conf'.ftof = thresholdConfOf r.ftofTrigger) :
    downloadFtof lib conf' r = r := by
  rw [downloadFtof_eq conf' r h, hread]
  rfl

theorem again_cnd (h : lib.Runs vtpFwTypeCnd) (hread : conf'.cnd = thresholdConfOf r.cndTrigger) :
    downloadCnd lib conf' r = r := by
  rw [downloadCnd_eq conf' r h, hread]
  rfl

theorem again_pcs (conf : VtpConf) (h : lib.Runs vtpFwTypePcs)
    (hread : conf'.pcs = pcsOf r conf.pcs) :
    downloadPcs lib conf' r = r := by
  rw [downloadPcs_eq conf' r h, hread]
  simp only [pcsOf, pcsRegs, pcCosmicRegs_again]

theorem again_dc (h : lib.Runs vtpFwTypeDc) (hread : conf'.dc = dcOf r) :
    downloadDc lib conf' r = r := by
  rw [downloadDc_eq conf' r h, hread]
  rfl

/-- The inner view, which is not read, is programmed once more. -/
theorem again_ecs (conf : VtpConf) (r : Regs) (h : lib.Runs vtpFwTypeEcs)
    (hread : conf'.ecs = { ecsOf (downloadEcs lib conf r) conf.ecs with inner := conf.ecs.inner }) :
    downloadEcs lib conf' (downloadEcs lib conf r) = downloadEcs lib conf r := by
  have hstore (f g : BitField 32) (u v x : Word) :
      g.put v (f.put u (g.put v (f.put u x))) = g.put v (f.put u x) :=
    ((BitField.isStore_put g v).comp (BitField.isStore_put f u)).twice x
  have hinner (v : EcsView) (c : CosmicRegs) :
      ecsCosmicRegs v (ecsCosmicRegs v c) = ecsCosmicRegs v c := by
    simp only [ecsCosmicRegs, cosmicRegs, hstore]
  have hview : ∀ i, ecsCosmicRegs (conf'.ecs.view i) ((downloadEcs lib conf r).ecCosmic i) =
      (downloadEcs lib conf r).ecCosmic i := by
    rw [hread, Fin.forall_fin_two]
    constructor
    · rw [downloadEcs_eq conf r h]
      exact hinner _ _
    · exact cosmicRegs_again _
  have hshift (x : Word) : x <<< 3 >>> 3 <<< 3 = x <<< 3 := by
    apply BitVec.eq_of_getLsbD_eq
    intro i hi
    rw [BitVec.getLsbD_shiftLeft, BitVec.getLsbD_ushiftRight, BitVec.getLsbD_shiftLeft]
    by_cases hlow : i < 3
    · simp [hlow]
    · have hsum : 3 + (i - 3) = i := by omega
      rw [BitVec.getLsbD_shiftLeft, hsum]
      simp [hlow, hi]
  rw [downloadEcs_eq conf' _ h]
  simp only [hview]
  rw [hread, downloadEcs_eq conf r h]
  simp only [ecsOf, ecsRegs, fadcSumWord_channel, hshift]

/-- The limit of 7 is cut to one tick, and a tick does not reach it. -/
theorem hcalCoincidence_again {cut : Word} (hcut : cut.toInt ≤ 7) :
    (if 7 < (cut.sdiv 4#32 * 4#32).toInt then 7#32 else cut.sdiv 4#32 * 4#32).sdiv 4#32 =
      cut.sdiv 4#32 := by
  have hfour : (4#32).toInt = 4 := rfl
  have hpos : 0 < (4#32).toInt := by decide
  obtain ⟨hlo, hhi⟩ := sdiv_mul_fits cut hpos
  have hticks := toInt_sdiv_pos cut hpos
  have htime := toInt_mul hlo hhi
  rw [hfour] at hticks htime
  have htick : cut.toInt.tdiv 4 ≤ 1 := Int.tdiv_le_tdiv (by decide) hcut
  rw [if_neg (by omega), mul_sdiv hpos hlo hhi]

theorem again_hcal (conf : VtpConf) (r : Regs) (h : lib.Runs vtpFwTypeHcal)
    (hread : conf'.hcal = hcalOf (downloadHcal lib conf r)) :
    downloadHcal lib conf' (downloadHcal lib conf r) = downloadHcal lib conf r := by
  rw [downloadHcal_eq conf r h] at *
  have hdt := congrArg HcalConf.hitDt hread
  have hemin := congrArg HcalConf.clusterEmin hread
  rw [downloadHcal_eq conf' _ h, hdt, hemin]
  have hcut : (if 7 < conf.hcal.hitDt.toInt then 7#32 else conf.hcal.hitDt).toInt ≤ 7 := by
    split_ifs with hgt
    · decide
    · omega
  have hthreshold (x : Word) : (if 8191 < (if 8191 < x.toInt then 8191#32 else x).toInt then 8191#32
      else if 8191 < x.toInt then 8191#32 else x) = if 8191 < x.toInt then 8191#32 else x := by
    split_ifs <;> rfl
  have htrigger := congrArg₂ (HcalRegs.mk r.hcal.ctrl) (hcalCoincidence_again hcut)
    (hthreshold conf.hcal.clusterEmin)
  exact congrArg (fun c => { r with hcal := c }) htrigger

theorem again_ftcal (conf : VtpConf) (r : Regs) (h : lib.Runs vtpFwTypeFtcal)
    (hread : conf'.ftcal = conf.ftcal) :
    downloadFtcal lib conf' (downloadFtcal lib conf r) = downloadFtcal lib conf r := by
  have hstore (a b c : BitField 32) (u v w x : Word) :
      c.put w (b.put v (a.put u (c.put w (b.put v (a.put u x))))) = c.put w (b.put v (a.put u x)) :=
    ((BitField.isStore_put c w).comp
      ((BitField.isStore_put b v).comp (BitField.isStore_put a u))).twice x
  rw [downloadFtcal_eq conf' _ h, hread, downloadFtcal_eq conf r h]
  simp only [ftcalRegs, hstore]

theorem again_fthodo (conf : VtpConf) (r : Regs) (h : lib.Runs vtpFwTypeFthodo)
    (hread : conf'.fthodo = fthodoOf (downloadFthodo lib conf r)) :
    downloadFthodo lib conf' (downloadFthodo lib conf r) = downloadFthodo lib conf r := by
  rw [downloadFthodo_eq conf' _ h, hread, downloadFthodo_eq conf r h]
  have hzero (x : Word) : fthodoCtrlEmin.get x = x &&& fthodoCtrlEmin.low := by
    rw [BitField.get]
    rfl
  simp only [fthodoOf, hzero, BitVec.and_assoc, BitVec.and_self]

theorem again_fadcstream (conf : VtpConf) (r : Regs) (h : lib.Runs vtpFwTypeFadcstream)
    (hread : conf'.fadcStreaming = conf.fadcStreaming) (hpayload : conf'.payloadEn = conf.payloadEn) :
    downloadFadcstream lib conf' (downloadFadcstream lib conf r) = downloadFadcstream lib conf r := by
  rw [downloadFadcstream_eq conf' _ h, hread, hpayload, downloadFadcstream_eq conf r h]
  simp only [update_self, update_idem]
  rfl

/-- A value that fits in its field and in its range is not cut. -/
theorem checkRange_get {hi : Int} (f : BitField 32) (hhi : hi < 2 ^ 31)
    (hf : (2 ^ f.width : Nat) ≤ hi + 1) (x : Word) : checkRange 0 hi (f.get x) = f.get x := by
  have hlt := (f.holds_iff _).mp (f.get_holds x)
  have hint : (f.get x).toInt = (f.get x).toNat := BitVec.toInt_eq_toNat_of_lt (by omega)
  apply checkRange_of_mem
  omega

/-- A time in a field of ticks. -/
theorem get_mul_sdiv (f : BitField 32) (hf : f.width ≤ 28) (x : Word) :
    (f.get x * 4#32).sdiv 4#32 = f.get x := by
  have hlt := (f.holds_iff _).mp (f.get_holds x)
  have hpow : 2 ^ f.width ≤ 2 ^ 28 := Nat.pow_le_pow_right (by decide) hf
  have hint : (f.get x).toInt = (f.get x).toNat := BitVec.toInt_eq_toNat_of_lt (by omega)
  have hfour : (4#32).toInt = 4 := rfl
  apply mul_sdiv (by decide) <;> rw [hfour, hint] <;> omega

/-! ### EC -/

/-- The Dalitz limits are divided by 8 on the way, so only 0 stays what it is. -/
theorem dalitz_again (d : Word) :
    ((((d >>> 16) &&& 0x3ff#32).sdiv 8#32) <<< 16) ||| (d &&& 0x3ff#32).sdiv 8#32 = d ↔
      d = 0#32 := by
  have hholds (f : BitField 32) (hf : f.width = 10) (x : Word) :
      f.Holds ((x &&& 0x3ff#32).sdiv 8#32) := by
    have hlt := tenBits_lt x
    rw [BitField.holds_iff, hf, eighth_toNat]
    omega
  have htwo := pack_two (f := ⟨0, 10, by decide⟩) (g := ⟨16, 10, by decide⟩) (by decide) rfl
    (hholds _ rfl d) (hholds _ rfl (d >>> 16))
  constructor
  · intro heq
    rw [heq] at htwo
    have hmin := (eighth_eq d).mp htwo.1.symm
    have hmax := (eighth_eq (d >>> 16)).mp htwo.2.symm
    rw [hmin, hmax] at heq
    exact heq.symm
  · rintro rfl
    rfl

theorem ecTriggerRegs_again (v : EcView) (t : EcTriggerRegs) {v' : EcView}
    (hemin : v'.hitEmin = ecHitEmin.get (ecTriggerRegs v t).hit)
    (hdt : v'.hitDt = ecHitDt.get (ecTriggerRegs v t).hit * 4#32)
    (hmin : v'.dalitzMin = ((ecTriggerRegs v t).dalitz &&& 0x3ff#32).sdiv 8#32)
    (hmax : v'.dalitzMax = (((ecTriggerRegs v t).dalitz >>> 16) &&& 0x3ff#32).sdiv 8#32) :
    ecTriggerRegs v' (ecTriggerRegs v t) = ecTriggerRegs v t ↔
      (v.dalitzMax <<< 16) ||| v.dalitzMin = 0#32 := by
  have hholds := holds_upTo ecHitDt 8 (v.hitDt.sdiv 4#32) (by decide)
  have hget : ecHitDt.get (ecTriggerRegs v t).hit = checkRange 0 8 (v.hitDt.sdiv 4#32) :=
    BitField.get_put_of_holds hholds _
  have hhit : ecHitDt.put (checkRange 0 8 (v'.hitDt.sdiv 4#32))
      (ecHitEmin.put v'.hitEmin (ecTriggerRegs v t).hit) = (ecTriggerRegs v t).hit := by
    rw [hemin, BitField.put_get, hdt, get_mul_sdiv _ (by decide), hget,
      checkRange_checkRange (by decide) (by decide) (by decide), ← hget, BitField.put_get]
  rw [ecTriggerRegs, hhit, hmin, hmax, ← dalitz_again]
  exact ⟨congrArg EcTriggerRegs.dalitz, fun heq => congrArg (EcTriggerRegs.mk _) heq⟩

theorem again_ec (conf : VtpConf) (r : Regs) (h : lib.Runs vtpFwTypeEc)
    (hread : conf'.ec = ⟨(ecOf (downloadEc lib conf r)).fadcsumChEn,
      eighths (ecOf (downloadEc lib conf r)).inner, eighths (ecOf (downloadEc lib conf r)).outer⟩) :
    downloadEc lib conf' (downloadEc lib conf r) = downloadEc lib conf r ↔
      ∀ inst, ((conf.ec.view inst).dalitzMax <<< 16) ||| (conf.ec.view inst).dalitzMin = 0#32 := by
  have hview (i : Fin 2) : conf'.ec.view i = eighths (ecViewOf (downloadEc lib conf r) i) := by
    rw [hread]
    match i with
    | 0 => rfl
    | 1 => rfl
  have hsum : fadcSumWord conf'.ec.fadcsumChEn = (downloadEc lib conf r).fadcSum := by
    rw [hread]
    exact fadcSumWord_channel _
  have hcosmic (i : Fin 2) : ecCosmicRegs (conf'.ec.view i) ((downloadEc lib conf r).ecCosmic i) =
      (downloadEc lib conf r).ecCosmic i := by
    rw [hview]
    exact cosmicRegs_again _
  have htrigger (i : Fin 2) :
      ecTriggerRegs (conf'.ec.view i) ((downloadEc lib conf r).ecTrigger i) =
          (downloadEc lib conf r).ecTrigger i ↔
        ((conf.ec.view i).dalitzMax <<< 16) ||| (conf.ec.view i).dalitzMin = 0#32 := by
    rw [hview, downloadEc_eq conf r h]
    exact ecTriggerRegs_again _ _ rfl rfl rfl rfl
  rw [downloadEc_eq conf' _ h, hsum]
  simp only [hcosmic]
  rw [← forall_congr' htrigger, ← funext_iff]
  exact ⟨congrArg Regs.ecTrigger, fun heq => by rw [heq]⟩

/-! ### Global trigger -/

theorem again_gt (conf : VtpConf) (r : Regs) (h : lib.Runs vtpFwTypeGt)
    (hread : conf'.gt = gtOf fpu (downloadGt lib fpu conf r)) :
    downloadGt lib fpu conf' (downloadGt lib fpu conf r) = downloadGt lib fpu conf r ↔
      ∀ i, fpu.pulser (fpu.pulserFreq (fpu.pulser (conf.gt.trgbits i).pulserFreq)) =
        fpu.pulser (conf.gt.trgbits i).pulserFreq := by
  rw [downloadGt_eq fpu conf r h] at *
  have hbits (i : Fin 32) : conf'.gt.trgbits i = (conf.gt.trgbits i).quantised fpu := by
    rw [hread]
    exact gtBitOf_gtBitRegs fpu _
  have hlatency : conf'.gt.trigLatency.sdiv 4#32 = conf.gt.trigLatency.sdiv 4#32 := by
    rw [hread]
    exact sdiv_mul_sdiv _ (by decide)
  have hwidth : conf'.gt.trigWidth = conf.gt.trigWidth := by rw [hread]; rfl
  rw [downloadGt_eq fpu conf' _ h, hlatency, hwidth]
  simp only [hbits, gtBitRegs_quantised]
  constructor
  · intro heq i
    have hpulser := congrArg (fun r => (r.gtBit i).pulser) heq
    exact hpulser
  · intro hpulser
    simp only [hpulser]
    rfl

/-! ### HPS -/

theorem pairRegs_again (t : HpsPairTrig) :
    pairRegs fpu (t.quantised fpu) = pairRegs fpu t ↔
      fpu.edFactor (fpu.edFloat (fpu.edFactor t.pairEdFactor)) = fpu.edFactor t.pairEdFactor := by
  rw [pairRegs_quantised]
  constructor
  · intro heq
    have hed := congrArg (fun g => g.pairEd.setWidth 8) heq
    simpa only [pairRegs, setWidth_byte] using hed
  · intro hed
    rw [hed]
    rfl

theorem again_hps (conf : VtpConf) (r : Regs) (h : lib.Runs vtpFwTypeHps)
    (hread : conf'.hps = { hpsOf fpu (downloadHps lib fpu conf r) conf.hps with
      calib := conf.hps.calib, trig := conf.hps.trig }) :
    downloadHps lib fpu conf' (downloadHps lib fpu conf r) = downloadHps lib fpu conf r ↔
      (∀ i k, fpu.pdeC (fpu.pdeFloat (fpu.pdeC ((conf.hps.singleTrig i).pdeC k))) =
        fpu.pdeC ((conf.hps.singleTrig i).pdeC k)) ∧
      ∀ i, fpu.edFactor (fpu.edFloat (fpu.edFactor (conf.hps.pairTrig i).pairEdFactor)) =
        fpu.edFactor (conf.hps.pairTrig i).pairEdFactor := by
  rw [downloadHps_eq fpu conf r h] at *
  have hcluster : conf'.hps.cluster = conf.hps.cluster.quantised := by
    rw [hread]
    exact hpsCluster_read conf.hps.cluster
  have hhodoscope : conf'.hps.hodoscope = conf.hps.hodoscope.quantised := by
    rw [hread]
    exact hpsHodoscope_read conf.hps.hodoscope
  have hsingle (i : Fin 4) : conf'.hps.singleTrig i = (conf.hps.singleTrig i).quantised fpu := by
    rw [hread]
    exact singleOf_singleRegs fpu _ _
  have hpair (i : Fin 4) : conf'.hps.pairTrig i = (conf.hps.pairTrig i).quantised fpu := by
    rw [hread]
    exact pairOf_pairRegs fpu _ _
  have hmult (i : Fin 2) : conf'.hps.multTrig i = (conf.hps.multTrig i).quantised := by
    rw [hread]
    exact multOf_multRegs _ _
  have hfee : conf'.hps.feeTrig = conf.hps.feeTrig.quantised := by
    rw [hread]
    exact feeOf_feeRegs _
  have hclusterWord := hpsClusterWord_quantised conf.hps.cluster
  have hhodoscopeWord := hpsHodoscopeWord_quantised conf.hps.hodoscope
  rw [downloadHps_eq fpu conf' _ h]
  constructor
  · intro heq
    constructor
    · intro i k
      have hpde := congrArg (fun r => (r.hpsSingleTriggerTop i).clusterPdeC k) heq
      simp only [hpsRegs, hsingle] at hpde
      exact hpde
    · intro i
      have hed := congrArg (fun r => r.hpsPairTrigger i) heq
      simp only [hpsRegs, hpair] at hed
      exact (pairRegs_again _).mp hed
  · rintro ⟨hpde, hed⟩
    have hsingleRegs (i : Fin 4) : singleRegs fpu (conf'.hps.singleTrig i) =
        singleRegs fpu (conf.hps.singleTrig i) := by
      rw [hsingle, singleRegs_quantised]
      simp only [hpde]
      rfl
    have hpairRegs (i : Fin 4) : pairRegs fpu (conf'.hps.pairTrig i) =
        pairRegs fpu (conf.hps.pairTrig i) := by
      rw [hpair]
      exact (pairRegs_again _).mpr (hed i)
    rw [hpsClusterWord, hpsClusterWord, ← hcluster] at hclusterWord
    rw [hpsHodoscopeWord, hpsHodoscopeWord, ← hhodoscope] at hhodoscopeWord
    simp only [hpsRegs, hsingleRegs, hpairRegs, hmult, multRegs_quantised, hfee, feeRegs_quantised,
      hclusterWord, hhodoscopeWord]

/-! ### Compton -/

theorem comptonPrescaler_again (c : ComptonTrigConf) (reg : Fin 32 → Word) {c' : ComptonTrigConf}
    (hprescale : ∀ k, k.val < 5 →
      c'.prescale k = triggerBitPrescaler.get (comptonPrescaler c reg k))
    (hdelay : ∀ k, k.val < 5 →
      c'.delay k = triggerBitDelay.get (comptonPrescaler c reg k) * 4#32) :
    comptonPrescaler c' (comptonPrescaler c reg) = comptonPrescaler c reg := by
  funext k
  by_cases hk : k.val < 5
  · have hrange : checkRange 0 1020 (triggerBitDelay.get (comptonPrescaler c reg k) * 4#32) =
        triggerBitDelay.get (comptonPrescaler c reg k) * 4#32 := by
      have hlt := (BitField.holds_iff _ _).mp (triggerBitDelay.get_holds (comptonPrescaler c reg k))
      generalize triggerBitDelay.get (comptonPrescaler c reg k) = d at hlt
      have hwidth : triggerBitDelay.width = 8 := rfl
      rw [hwidth] at hlt
      have hint : d.toInt = d.toNat := BitVec.toInt_eq_toNat_of_lt (by omega)
      have hfour : (4#32).toInt = 4 := rfl
      have hmul := toInt_mul (v := d) (k := 4#32) (by rw [hfour]; omega) (by rw [hfour]; omega)
      rw [hfour] at hmul
      exact checkRange_of_mem (by omega)
    rw [comptonPrescaler, if_pos hk, hprescale k hk, hdelay k hk, hrange,
      get_mul_sdiv _ (by decide), checkRange_get _ (by decide) (by decide), BitField.put_get,
      BitField.put_get]
  · rw [comptonPrescaler, if_neg hk]

theorem comptonFadcMasks_again (reg : Fin 3 → Word) :
    comptonFadcMasks (fun i => (comptonFadcMask i).get (reg (fadcMaskIndex i))) reg = reg := by
  funext k
  match k with
  | 0 =>
    have heven := BitField.put_get (comptonFadcMask 0) (reg 0)
    have hodd := BitField.put_get (comptonFadcMask 1) (reg 0)
    exact (congrArg _ heven).trans hodd
  | 1 =>
    have heven := BitField.put_get (comptonFadcMask 2) (reg 1)
    have hodd := BitField.put_get (comptonFadcMask 3) (reg 1)
    exact (congrArg _ heven).trans hodd
  | 2 => exact BitField.put_get (comptonFadcMask 4) (reg 2)

/-- The bits of the old word that a control word keeps: the pulse width is cleared. -/
theorem comptonVetrocWidth_mask : ~~~comptonVetrocWidth.mask = 0xff00ffff#32 := rfl

/-- A multiplicity above the range shares its top bit with the limit. -/
theorem multiplicity_again (x : Word) :
    checkRange 0 4 (comptonEplaneMultMin.get x) &&& comptonEplaneMultMin.get x =
      checkRange 0 4 (comptonEplaneMultMin.get x) := by
  have hlt := (BitField.holds_iff _ _).mp (comptonEplaneMultMin.get_holds x)
  have hall : ∀ v : Fin 8, checkRange 0 4 (BitVec.ofNat 32 v) &&& BitVec.ofNat 32 v =
      checkRange 0 4 (BitVec.ofNat 32 v) := by
    decide
  have hv := hall ⟨(comptonEplaneMultMin.get x).toNat, hlt⟩
  simpa only [BitVec.ofNat_toNat, BitVec.setWidth_eq] using hv

/-- Bits of the word that the old word keeps anyway. -/
theorem or_kept (c z : Word) {m : Word} (hm : m &&& 0xff00ffff#32 = m) :
    (c &&& 0xff00ffff#32) ||| (z &&& (c &&& m)) = c &&& 0xff00ffff#32 := by
  apply BitField.or_of_and
  rw [← hm]
  apply BitVec.eq_of_getLsbD_eq
  intro i _
  simp only [BitVec.getLsbD_and]
  cases z.getLsbD i <;> cases c.getLsbD i <;> cases m.getLsbD i <;> simp

theorem comptonCtrl_again (c : Word) :
    comptonCtrl (comptonFadcThreshold.get c) (comptonEplaneMultMin.get c)
      (comptonEplaneMask.get c) c = c &&& 0xff00ffff#32 := by
  have hthr : comptonFadcThreshold.get c &&& 0x1fff#32 = c &&& (c &&& 0x1fff#32) := by
    rw [BitField.get, BitVec.and_assoc, ← BitVec.and_assoc c c, BitVec.and_self]
    rfl
  have hmult : (checkRange 0 4 (comptonEplaneMultMin.get c) <<< 24) &&& 0x07000000#32 =
      (checkRange 0 4 (comptonEplaneMultMin.get c) <<< 24) &&& (c &&& 0x07000000#32) := by
    have hshift : comptonEplaneMultMin.get c <<< 24 = c &&& 0x07000000#32 :=
      comptonEplaneMultMin.get_shiftLeft_shift c
    have hsub : (checkRange 0 4 (comptonEplaneMultMin.get c) <<< 24) &&& (c &&& 0x07000000#32) =
        checkRange 0 4 (comptonEplaneMultMin.get c) <<< 24 := by
      rw [← hshift, ← BitVec.shiftLeft_and_distrib, multiplicity_again]
    rw [← hsub, BitVec.and_assoc, BitVec.and_assoc, BitVec.and_self, hsub, hsub]
  have hmask : (comptonEplaneMask.get c <<< 28) &&& 0xf0000000#32 = c &&& (c &&& 0xf0000000#32) := by
    have hshift : comptonEplaneMask.get c <<< 28 = c &&& 0xf0000000#32 :=
      comptonEplaneMask.get_shiftLeft_shift c
    rw [hshift, BitVec.and_assoc, BitVec.and_self, ← BitVec.and_assoc c c, BitVec.and_self]
  rw [comptonCtrl, checkRange_get _ (by decide) (by decide), hthr, hmult, hmask,
    or_kept c _ (by decide), or_kept c _ (by decide), or_kept c _ (by decide)]

/-- The pulse width is not among the bits that are kept or written. -/
theorem comptonCtrl_kept (threshold multMin eplaneMask reg : Word) :
    comptonCtrl threshold multMin eplaneMask reg &&& 0xff00ffff#32 =
      comptonCtrl threshold multMin eplaneMask reg := by
  have hthr : 0x1fff#32 &&& 0xff00ffff#32 = 0x1fff#32 := by decide
  have hmult : 0x07000000#32 &&& 0xff00ffff#32 = 0x07000000#32 := by decide
  have hmask : 0xf0000000#32 &&& 0xff00ffff#32 = 0xf0000000#32 := by decide
  simp only [comptonCtrl, BitVec.and_or_distrib_right, BitVec.and_assoc, BitVec.and_self, hthr,
    hmult,
    hmask]

theorem comptonCtrl0_again (c : ComptonConf) (reg : Word) {c' : ComptonConf}
    (hen : c'.enableScalerReadout = comptonScalerReadout.get (comptonCtrl0 c reg))
    (hwidth : c'.vetrocWidth = comptonVetrocWidth.get (comptonCtrl0 c reg)) :
    comptonCtrl0 c' (comptonCtrl0 c reg &&& 0xff00ffff#32) = comptonCtrl0 c reg := by
  generalize comptonCtrl0 c reg = word at hen hwidth
  have hbit : comptonScalerReadout.get word = comptonScalerReadout.get (word &&& 0xff00ffff#32) := by
    rw [BitField.get, BitField.get, BitVec.ushiftRight_and_distrib, BitVec.and_assoc]
    rfl
  have hclear (v : Word) : comptonVetrocWidth.put v (word &&& 0xff00ffff#32) =
      comptonVetrocWidth.put v word := by
    rw [BitField.put, BitField.put, comptonVetrocWidth_mask, BitVec.and_assoc, BitVec.and_self]
  rw [comptonCtrl0, hen, hwidth, checkRange_get _ (by decide) (by decide),
    checkRange_get _ (by decide) (by decide), hbit, BitField.put_get, hclear, BitField.put_get]

theorem again_compton (conf : VtpConf) (r : Regs) (h : lib.Runs vtpFwTypeCompton)
    (hread : conf'.compton =
      { comptonOf (downloadCompton lib conf r) conf.compton with
        trig :=
          { comptonTrigOf (downloadCompton lib conf r) conf.compton.trig with
            latency := conf.compton.trig.latency
            width := conf.compton.trig.width } }) :
    downloadCompton lib conf' (downloadCompton lib conf r) = downloadCompton lib conf r := by
  rw [downloadCompton_eq conf r h] at *
  rw [downloadCompton_eq conf' _ h]
  generalize hr : comptonRegs conf.compton r = r1 at hread
  have hmasks : comptonFadcMasks conf'.compton.fadcMask r1.comptonTrigger.fadcMask =
      r1.comptonTrigger.fadcMask := by
    rw [hread]
    exact comptonFadcMasks_again _
  have hprescaler : comptonPrescaler conf'.compton.trig r1.trigOut.prescaler =
      r1.trigOut.prescaler := by
    rw [← hr]
    apply comptonPrescaler_again
    · intro k hk
      rw [hread, ← hr]
      exact dif_pos hk
    · intro k hk
      rw [hread, ← hr]
      exact dif_pos hk
  have hctrls : comptonCtrls conf'.compton r1.comptonTrigger.ctrl =
      fun i => r1.comptonTrigger.ctrl i &&& 0xff00ffff#32 := by
    funext i
    rw [comptonCtrls, hread]
    exact comptonCtrl_again _
  have hctrl : update (comptonCtrls conf'.compton r1.comptonTrigger.ctrl) 0
      (comptonCtrl0 conf'.compton (comptonCtrls conf'.compton r1.comptonTrigger.ctrl 0)) =
      r1.comptonTrigger.ctrl := by
    rw [hctrls]
    funext i
    by_cases hi : i = 0
    · subst hi
      rw [update_self, ← hr]
      exact comptonCtrl0_again _ _ (by rw [hread, ← hr]; rfl) (by rw [hread, ← hr]; rfl)
    · rw [update_of_ne hi, ← hr]
      have hloop : (comptonRegs conf.compton r).comptonTrigger.ctrl i =
          comptonCtrls conf.compton r.comptonTrigger.ctrl i := update_of_ne hi _ _
      rw [hloop]
      exact comptonCtrl_kept _ _ _ _
  have hlatency : conf'.compton.trig.latency.sdiv 4#32 = r1.trigOut.latency := by
    rw [hread, ← hr]
    rfl
  have hwidth : conf'.compton.trig.width = r1.trigOut.width := by
    rw [hread, ← hr]
    rfl
  simp only [comptonRegs, comptonLoop, hctrl, hprescaler, hmasks, hlatency, hwidth]

end

/-! ## The block of a firmware type -/

def downloadTable (lib : VtpLib) (fpu : FloatUnit) (conf : VtpConf) : List (Int × (Regs → Regs)) :=
  [(vtpFwTypeEc, downloadEc lib conf), (vtpFwTypePc, downloadPc lib conf),
   (vtpFwTypeHtcc, downloadHtcc lib conf), (vtpFwTypeFtof, downloadFtof lib conf),
   (vtpFwTypeCnd, downloadCnd lib conf), (vtpFwTypePcs, downloadPcs lib conf),
   (vtpFwTypeEcs, downloadEcs lib conf), (vtpFwTypeGt, downloadGt lib fpu conf),
   (vtpFwTypeDc, downloadDc lib conf), (vtpFwTypeHcal, downloadHcal lib conf),
   (vtpFwTypeFtcal, downloadFtcal lib conf), (vtpFwTypeFthodo, downloadFthodo lib conf),
   (vtpFwTypeHps, downloadHps lib fpu conf), (vtpFwTypeCompton, downloadCompton lib conf),
   (vtpFwTypeFadcstream, downloadFadcstream lib conf)]

def downloadTypes : List Int := triggerTypes ++ [vtpFwTypeFadcstream]

theorem downloadTypes_nodup : downloadTypes.Nodup := by decide

/-- The block that runs on the firmware `type`, none on the ROC and unknown ones. -/
def blockOf (lib : VtpLib) (fpu : FloatUnit) (type : Int) (conf : VtpConf) : Regs → Regs :=
  (((downloadTable lib fpu conf).find? fun b => b.1 = type).map (·.2)).getD id

section

variable {lib : VtpLib} {type : Int} {fpu : FloatUnit} {conf : VtpConf} {r : Regs}
  {stack stack' : Word}

theorem downloadBlocks_eq (htype : (conf.fwType 0).toInt = type) :
    downloadBlocks lib fpu conf r = blockOf lib fpu type conf r := by
  have htypes : (downloadTable lib fpu conf).map (·.1) = downloadTypes := rfl
  have hfold := foldl_onFwType htype (downloadTable lib fpu conf)
    (htypes ▸ downloadTypes_nodup) r
  rw [blockOf, ← hfold]
  rfl

theorem blockOf_other (hnot : type ∉ downloadTypes) : blockOf lib fpu type conf = id := by
  have hnone : (downloadTable lib fpu conf).find? (fun b => b.1 = type) = none := by
    rw [List.find?_eq_none]
    intro b hb heq
    exact hnot (List.mem_map.mpr ⟨b, hb, by simpa using heq⟩)
  rw [blockOf, hnone]
  rfl

/-- No block touches the registers that every firmware programs. -/
theorem blockOf_beside (fpu : FloatUnit) (h : lib.Runs type) (conf : VtpConf) :
    commonPart.Beside (blockOf lib fpu type conf) := by
  intro c r
  by_cases hmem : type ∈ downloadTypes
  · simp only [downloadTypes, triggerTypes, List.cons_append, List.nil_append, List.mem_cons,
      List.not_mem_nil, or_false] at hmem
    rcases hmem with rfl | rfl | rfl | rfl | rfl | rfl | rfl | rfl | rfl | rfl | rfl | rfl | rfl |
      rfl | rfl
    · have hblock : blockOf lib fpu vtpFwTypeEc conf = downloadEc lib conf := rfl
      rw [hblock, downloadEc_eq conf _ h, downloadEc_eq conf r h]
      rfl
    · have hblock : blockOf lib fpu vtpFwTypePc conf = downloadPc lib conf := rfl
      rw [hblock, downloadPc_eq conf _ h, downloadPc_eq conf r h]
      rfl
    · have hblock : blockOf lib fpu vtpFwTypeHtcc conf = downloadHtcc lib conf := rfl
      rw [hblock, downloadHtcc_eq conf _ h, downloadHtcc_eq conf r h]
      rfl
    · have hblock : blockOf lib fpu vtpFwTypeFtof conf = downloadFtof lib conf := rfl
      rw [hblock, downloadFtof_eq conf _ h, downloadFtof_eq conf r h]
      rfl
    · have hblock : blockOf lib fpu vtpFwTypeCnd conf = downloadCnd lib conf := rfl
      rw [hblock, downloadCnd_eq conf _ h, downloadCnd_eq conf r h]
      rfl
    · have hblock : blockOf lib fpu vtpFwTypePcs conf = downloadPcs lib conf := rfl
      rw [hblock, downloadPcs_eq conf _ h, downloadPcs_eq conf r h]
      rfl
    · have hblock : blockOf lib fpu vtpFwTypeEcs conf = downloadEcs lib conf := rfl
      rw [hblock, downloadEcs_eq conf _ h, downloadEcs_eq conf r h]
      rfl
    · have hblock : blockOf lib fpu vtpFwTypeGt conf = downloadGt lib fpu conf := rfl
      rw [hblock, downloadGt_eq fpu conf _ h, downloadGt_eq fpu conf r h]
      rfl
    · have hblock : blockOf lib fpu vtpFwTypeDc conf = downloadDc lib conf := rfl
      rw [hblock, downloadDc_eq conf _ h, downloadDc_eq conf r h]
      rfl
    · have hblock : blockOf lib fpu vtpFwTypeHcal conf = downloadHcal lib conf := rfl
      rw [hblock, downloadHcal_eq conf _ h, downloadHcal_eq conf r h]
      rfl
    · have hblock : blockOf lib fpu vtpFwTypeFtcal conf = downloadFtcal lib conf := rfl
      rw [hblock, downloadFtcal_eq conf _ h, downloadFtcal_eq conf r h]
      rfl
    · have hblock : blockOf lib fpu vtpFwTypeFthodo conf = downloadFthodo lib conf := rfl
      rw [hblock, downloadFthodo_eq conf _ h, downloadFthodo_eq conf r h]
      rfl
    · have hblock : blockOf lib fpu vtpFwTypeHps conf = downloadHps lib fpu conf := rfl
      rw [hblock, downloadHps_eq fpu conf _ h, downloadHps_eq fpu conf r h]
      rfl
    · have hblock : blockOf lib fpu vtpFwTypeCompton conf = downloadCompton lib conf := rfl
      rw [hblock, downloadCompton_eq conf _ h, downloadCompton_eq conf r h]
      rfl
    · have hblock : blockOf lib fpu vtpFwTypeFadcstream conf = downloadFadcstream lib conf := rfl
      rw [hblock, downloadFadcstream_eq conf _ h, downloadFadcstream_eq conf r h]
      rfl
  · rw [blockOf_other hmem]
    rfl

/-- Whatever the firmware, the window and the links are read back, and the payload
mask is kept. -/
theorem vtpUploadAll_common (fpu : FloatUnit) (stack : Word) (conf : VtpConf) (h : lib.Runs type)
    (htype : (r.fwType 0).toInt = type) :
    CommonReadBack lib conf (vtpUploadAll lib fpu r stack conf) r := by
  by_cases hmem : type ∈ triggerTypes
  · simp only [triggerTypes, List.mem_cons, List.not_mem_nil, or_false] at hmem
    rcases hmem with rfl | rfl | rfl | rfl | rfl | rfl | rfl | rfl | rfl | rfl | rfl | rfl | rfl | rfl
    · rw [vtpUploadAll_block h htype (uploadEc lib r) rfl, uploadEc_eq r _ h,
        uploadStart_eq r conf h]
      exact ⟨rfl, rfl, rfl, rfl⟩
    · rw [vtpUploadAll_block h htype (uploadPc lib r) rfl, uploadPc_eq r _ h,
        uploadStart_eq r conf h]
      exact ⟨rfl, rfl, rfl, rfl⟩
    · rw [vtpUploadAll_block h htype (uploadHtcc lib r) rfl, uploadHtcc_eq r _ h,
        uploadStart_eq r conf h]
      exact ⟨rfl, rfl, rfl, rfl⟩
    · rw [vtpUploadAll_block h htype (uploadFtof lib r) rfl, uploadFtof_eq r _ h,
        uploadStart_eq r conf h]
      exact ⟨rfl, rfl, rfl, rfl⟩
    · rw [vtpUploadAll_block h htype (uploadCnd lib r) rfl, uploadCnd_eq r _ h,
        uploadStart_eq r conf h]
      exact ⟨rfl, rfl, rfl, rfl⟩
    · rw [vtpUploadAll_block h htype (uploadPcs lib r) rfl, uploadPcs_eq r _ h,
        uploadStart_eq r conf h]
      exact ⟨rfl, rfl, rfl, rfl⟩
    · rw [vtpUploadAll_block h htype (uploadEcs lib r) rfl, uploadEcs_eq r _ h,
        uploadStart_eq r conf h]
      exact ⟨rfl, rfl, rfl, rfl⟩
    · rw [vtpUploadAll_block h htype (uploadGt lib fpu r) rfl, uploadGt_eq fpu r _ h,
        uploadStart_eq r conf h]
      exact ⟨rfl, rfl, rfl, rfl⟩
    · rw [vtpUploadAll_block h htype (uploadDc lib r) rfl, uploadDc_eq r _ h,
        uploadStart_eq r conf h]
      exact ⟨rfl, rfl, rfl, rfl⟩
    · rw [vtpUploadAll_block h htype (uploadHcal lib r) rfl, uploadHcal_eq r _ h,
        uploadStart_eq r conf h]
      exact ⟨rfl, rfl, rfl, rfl⟩
    · rw [vtpUploadAll_block h htype (uploadFtcal lib fpu r stack) rfl, uploadFtcal_eq fpu r _ h,
        uploadStart_eq r conf h]
      exact ⟨rfl, rfl, rfl, rfl⟩
    · rw [vtpUploadAll_block h htype (uploadFthodo lib r) rfl, uploadFthodo_eq r _ h,
        uploadStart_eq r conf h]
      exact ⟨rfl, rfl, rfl, rfl⟩
    · rw [vtpUploadAll_block h htype (uploadHps lib fpu r) rfl, uploadHps_eq fpu r _ h,
        uploadStart_eq r conf h]
      exact ⟨rfl, rfl, rfl, rfl⟩
    · rw [vtpUploadAll_block h htype (uploadCompton lib r) rfl, uploadCompton_eq r _ h,
        uploadStart_eq r conf h]
      exact ⟨rfl, rfl, rfl, rfl⟩
  · rw [vtpUploadAll_start h htype hmem, uploadStart_eq r conf h]
    exact ⟨rfl, rfl, rfl, rfl⟩

theorem fiberMaskOf_congr {r r' : Regs} (hget : commonPart.get r = commonPart.get r') :
    fiberMaskOf lib r = fiberMaskOf lib r' := by
  have hftcal : r.ftcalDec = r'.ftcalDec := congrArg CommonRegs.ftcalDec hget
  have hroad : r.dcrbRoadFind.ctrl = r'.dcrbRoadFind.ctrl := congrArg CommonRegs.roadFindCtrl hget
  rw [fiberMaskOf, fiberMaskOf, hftcal, hroad]

/-! ## Downloading twice, for a type -/

/-- The registers after a second call, with nothing in between, are those after
the first. The two calls find different words on the stack. -/
def DownloadIdempotent (fpu : FloatUnit) (lib : VtpLib) (conf : VtpConf) (stack stack' : Word)
    (r : Regs) : Prop :=
  let first := vtpDownloadAll lib fpu conf stack r
  (vtpDownloadAll lib fpu first.1 stack' first.2).2 = first.2

/-- What is read back programs what it was read from. -/
@[mk_iff]
structure DownloadSteady (fpu : FloatUnit) (type : Int) (conf : VtpConf) : Prop where
  fibers : FiberSteady type conf.fiberEn
  ec : type = vtpFwTypeEc → ∀ inst,
    ((conf.ec.view inst).dalitzMax <<< 16) ||| (conf.ec.view inst).dalitzMin = 0#32
  gt : type = vtpFwTypeGt → ∀ i,
    fpu.pulser (fpu.pulserFreq (fpu.pulser (conf.gt.trgbits i).pulserFreq)) =
      fpu.pulser (conf.gt.trgbits i).pulserFreq
  hpsSingle : type = vtpFwTypeHps → ∀ i k,
    fpu.pdeC (fpu.pdeFloat (fpu.pdeC ((conf.hps.singleTrig i).pdeC k))) =
      fpu.pdeC ((conf.hps.singleTrig i).pdeC k)
  hpsPair : type = vtpFwTypeHps → ∀ i,
    fpu.edFactor (fpu.edFloat (fpu.edFactor (conf.hps.pairTrig i).pairEdFactor)) =
      fpu.edFactor (conf.hps.pairTrig i).pairEdFactor

theorem downloadCommon_fwType (h : lib.Runs type) :
    (downloadCommon lib conf r).fwType = r.fwType := by
  rw [downloadCommon_eq conf r h]
  unfold writeFiberMask writePayloadMask
  split_ifs <;> rfl

/-- The common part and the block can be looked at one by one. -/
theorem idempotent_iff (h : lib.Runs type) (htype : (r.fwType 0).toInt = type) :
    let conf0 := uploadFirmware lib r conf
    let r1 := blockOf lib fpu type conf0 (downloadCommon lib conf0 r)
    let conf1 := uploadFirmware lib r1 (vtpUploadAll lib fpu r1 stack conf0)
    DownloadIdempotent fpu lib conf stack stack' r ↔
      FiberSteady type conf.fiberEn ∧ blockOf lib fpu type conf1 r1 = r1 := by
  intro conf0 r1 conf1
  have hget : commonPart.get r1 = commonPart.get (downloadCommon lib conf0 r) :=
    (blockOf_beside fpu h conf0).get _
  have htype0 : (conf0.fwType 0).toInt = type := by
    rw [← htype]
    exact congrArg (fun c : VtpConf => (c.fwType 0).toInt) (uploadFirmware_eq r conf h)
  have htype1 : (r1.fwType 0).toInt = type := by
    have hkept : r1.fwType = (downloadCommon lib conf0 r).fwType := congrArg CommonRegs.fwType hget
    rw [hkept, downloadCommon_fwType h, htype]
  have htype1' : (conf1.fwType 0).toInt = type := by
    rw [← htype1]
    exact congrArg (fun c : VtpConf => (c.fwType 0).toInt) (uploadFirmware_eq r1 _ h)
  have hread : CommonReadBack lib conf0 conf1 (downloadCommon lib conf0 r) := by
    obtain ⟨hwidth, hoffset, hpayload, hfiber⟩ := vtpUploadAll_common fpu stack conf0 h htype1
    have heb : r1.eb = (downloadCommon lib conf0 r).eb := congrArg CommonRegs.eb hget
    rw [heb] at hwidth hoffset
    rw [fiberMaskOf_congr hget] at hfiber
    have hconf1 : conf1 = { vtpUploadAll lib fpu r1 stack conf0 with
      fwRev := r1.fwVersion, fwType := r1.fwType } := uploadFirmware_eq r1 _ h
    rw [hconf1]
    exact ⟨hwidth, hoffset, hpayload, hfiber⟩
  have hcommon := common_again h hread
  rw [downloadCommon_modify conf1 h] at hcommon
  have hself := Part.modify_eq_self_iff (p := commonPart) (g := id) (fun _ _ => rfl)
    (commonRegs lib conf1) (downloadCommon lib conf0 r)
  have hfirst : vtpDownloadAll lib fpu conf stack r = (vtpUploadAll lib fpu r1 stack conf0, r1) := by
    rw [vtpDownloadAll, downloadBlocks_eq htype0]
  rw [DownloadIdempotent, hfirst]
  have hsecond : (vtpDownloadAll lib fpu (vtpUploadAll lib fpu r1 stack conf0) stack' r1).2 =
      commonPart.modify (commonRegs lib conf1) (blockOf lib fpu type conf1 r1) := by
    rw [vtpDownloadAll, downloadBlocks_eq htype1', downloadCommon_modify conf1 h,
      (blockOf_beside fpu h conf1).modify]
  have hfibers : conf0.fiberEn = conf.fiberEn := by
    rw [show conf0 = _ from uploadFirmware_eq r conf h]
  rw [hsecond, Part.modify_eq_self_iff (blockOf_beside fpu h conf1), hget, ← hfibers, ← hcommon]
  exact and_congr_left' (hself.trans (and_iff_left rfl)).symm

attribute [local simp] downloadSteady_iff vtpFwTypeEc vtpFwTypePc vtpFwTypeHtcc vtpFwTypeFtof
  vtpFwTypeCnd vtpFwTypePcs vtpFwTypeEcs vtpFwTypeGt vtpFwTypeDc vtpFwTypeHcal vtpFwTypeFtcal
  vtpFwTypeFthodo vtpFwTypeHps vtpFwTypeCompton vtpFwTypeFadcstream

/-- The registers after the first call still say which firmware runs. -/
theorem blockOf_fwType (h : lib.Runs type) (htype : (r.fwType 0).toInt = type) :
    ((blockOf lib fpu type conf (downloadCommon lib conf r)).fwType 0).toInt = type := by
  have hget := (blockOf_beside fpu h conf).get (downloadCommon lib conf r)
  have hkept := congrArg CommonRegs.fwType hget
  have hfirst : (blockOf lib fpu type conf (downloadCommon lib conf r)).fwType =
      (downloadCommon lib conf r).fwType := hkept
  rw [hfirst, downloadCommon_fwType h, htype]

/-- What is left for a firmware: its block, made again with what was read back. -/
theorem idempotent_iff_again (h : lib.Runs type) (htype : (r.fwType 0).toInt = type) {P : Prop}
    (hagain : ∀ (c0 : VtpConf) (r0 : Regs), c0 = uploadFirmware lib r conf →
      ((blockOf lib fpu type c0 r0).fwType 0).toInt = type →
        (blockOf lib fpu type (uploadFirmware lib (blockOf lib fpu type c0 r0)
          (vtpUploadAll lib fpu (blockOf lib fpu type c0 r0) stack c0)) (blockOf lib fpu type c0 r0) =
            blockOf lib fpu type c0 r0 ↔ P)) :
    DownloadIdempotent fpu lib conf stack stack' r ↔ FiberSteady type conf.fiberEn ∧ P :=
  (idempotent_iff h htype).trans
    (and_congr_right' (hagain _ _ rfl (blockOf_fwType h htype)))

theorem steady_ec (h : lib.Runs vtpFwTypeEc) (htype : (r.fwType 0).toInt = vtpFwTypeEc) :
    DownloadIdempotent fpu lib conf stack stack' r ↔ DownloadSteady fpu vtpFwTypeEc conf := by
  refine (idempotent_iff_again h htype (P := ∀ inst, ((conf.ec.view inst).dalitzMax <<< 16) |||
    (conf.ec.view inst).dalitzMin = 0#32) ?_).trans (by simp)
  rintro c0 r0 hc0 hkept
  rw [vtpUploadAll_block h hkept (uploadEc lib _) rfl, uploadEc_eq _ _ h, uploadFirmware_eq _ _ h]
  have hec : c0.ec = conf.ec := by rw [hc0, uploadFirmware_eq _ _ h]
  rw [← hec]
  exact again_ec c0 r0 h rfl

theorem steady_pc (h : lib.Runs vtpFwTypePc) (htype : (r.fwType 0).toInt = vtpFwTypePc) :
    DownloadIdempotent fpu lib conf stack stack' r ↔ DownloadSteady fpu vtpFwTypePc conf := by
  refine (idempotent_iff_again h htype (P := True) ?_).trans (by simp)
  rintro c0 r0 - hkept
  rw [vtpUploadAll_block h hkept (uploadPc lib _) rfl, uploadPc_eq _ _ h, uploadFirmware_eq _ _ h]
  exact iff_true_intro (again_pc h rfl)

theorem steady_htcc (h : lib.Runs vtpFwTypeHtcc) (htype : (r.fwType 0).toInt = vtpFwTypeHtcc) :
    DownloadIdempotent fpu lib conf stack stack' r ↔ DownloadSteady fpu vtpFwTypeHtcc conf := by
  refine (idempotent_iff_again h htype (P := True) ?_).trans (by simp)
  rintro c0 r0 - hkept
  rw [vtpUploadAll_block h hkept (uploadHtcc lib _) rfl, uploadHtcc_eq _ _ h,
    uploadFirmware_eq _ _ h]
  exact iff_true_intro (again_htcc h rfl)

theorem steady_ftof (h : lib.Runs vtpFwTypeFtof) (htype : (r.fwType 0).toInt = vtpFwTypeFtof) :
    DownloadIdempotent fpu lib conf stack stack' r ↔ DownloadSteady fpu vtpFwTypeFtof conf := by
  refine (idempotent_iff_again h htype (P := True) ?_).trans (by simp)
  rintro c0 r0 - hkept
  rw [vtpUploadAll_block h hkept (uploadFtof lib _) rfl, uploadFtof_eq _ _ h,
    uploadFirmware_eq _ _ h]
  exact iff_true_intro (again_ftof h rfl)

theorem steady_cnd (h : lib.Runs vtpFwTypeCnd) (htype : (r.fwType 0).toInt = vtpFwTypeCnd) :
    DownloadIdempotent fpu lib conf stack stack' r ↔ DownloadSteady fpu vtpFwTypeCnd conf := by
  refine (idempotent_iff_again h htype (P := True) ?_).trans (by simp)
  rintro c0 r0 - hkept
  rw [vtpUploadAll_block h hkept (uploadCnd lib _) rfl, uploadCnd_eq _ _ h, uploadFirmware_eq _ _ h]
  exact iff_true_intro (again_cnd h rfl)

theorem steady_pcs (h : lib.Runs vtpFwTypePcs) (htype : (r.fwType 0).toInt = vtpFwTypePcs) :
    DownloadIdempotent fpu lib conf stack stack' r ↔ DownloadSteady fpu vtpFwTypePcs conf := by
  refine (idempotent_iff_again h htype (P := True) ?_).trans (by simp)
  rintro c0 r0 - hkept
  rw [vtpUploadAll_block h hkept (uploadPcs lib _) rfl, uploadPcs_eq _ _ h,
    uploadStart_eq _ _ h, uploadFirmware_eq _ _ h]
  exact iff_true_intro (again_pcs c0 h rfl)

theorem steady_ecs (h : lib.Runs vtpFwTypeEcs) (htype : (r.fwType 0).toInt = vtpFwTypeEcs) :
    DownloadIdempotent fpu lib conf stack stack' r ↔ DownloadSteady fpu vtpFwTypeEcs conf := by
  refine (idempotent_iff_again h htype (P := True) ?_).trans (by simp)
  rintro c0 r0 - hkept
  rw [vtpUploadAll_block h hkept (uploadEcs lib _) rfl, uploadEcs_eq _ _ h,
    uploadStart_eq _ _ h, uploadFirmware_eq _ _ h]
  exact iff_true_intro (again_ecs c0 r0 h rfl)

theorem steady_dc (h : lib.Runs vtpFwTypeDc) (htype : (r.fwType 0).toInt = vtpFwTypeDc) :
    DownloadIdempotent fpu lib conf stack stack' r ↔ DownloadSteady fpu vtpFwTypeDc conf := by
  refine (idempotent_iff_again h htype (P := True) ?_).trans (by simp)
  rintro c0 r0 - hkept
  rw [vtpUploadAll_block h hkept (uploadDc lib _) rfl, uploadDc_eq _ _ h, uploadFirmware_eq _ _ h]
  exact iff_true_intro (again_dc h rfl)

theorem steady_hcal (h : lib.Runs vtpFwTypeHcal) (htype : (r.fwType 0).toInt = vtpFwTypeHcal) :
    DownloadIdempotent fpu lib conf stack stack' r ↔ DownloadSteady fpu vtpFwTypeHcal conf := by
  refine (idempotent_iff_again h htype (P := True) ?_).trans (by simp)
  rintro c0 r0 - hkept
  rw [vtpUploadAll_block h hkept (uploadHcal lib _) rfl, uploadHcal_eq _ _ h,
    uploadFirmware_eq _ _ h]
  exact iff_true_intro (again_hcal c0 r0 h rfl)

theorem steady_ftcal (h : lib.Runs vtpFwTypeFtcal) (htype : (r.fwType 0).toInt = vtpFwTypeFtcal) :
    DownloadIdempotent fpu lib conf stack stack' r ↔ DownloadSteady fpu vtpFwTypeFtcal conf := by
  refine (idempotent_iff_again h htype (P := True) ?_).trans (by simp)
  rintro c0 r0 - hkept
  rw [vtpUploadAll_block h hkept (uploadFtcal lib fpu _ stack) rfl, uploadFtcal_eq fpu _ _ h,
    uploadStart_eq _ _ h, uploadFirmware_eq _ _ h]
  exact iff_true_intro (again_ftcal c0 r0 h rfl)

theorem steady_fthodo (h : lib.Runs vtpFwTypeFthodo)
    (htype : (r.fwType 0).toInt = vtpFwTypeFthodo) :
    DownloadIdempotent fpu lib conf stack stack' r ↔ DownloadSteady fpu vtpFwTypeFthodo conf := by
  refine (idempotent_iff_again h htype (P := True) ?_).trans (by simp)
  rintro c0 r0 - hkept
  rw [vtpUploadAll_block h hkept (uploadFthodo lib _) rfl, uploadFthodo_eq _ _ h,
    uploadFirmware_eq _ _ h]
  exact iff_true_intro (again_fthodo c0 r0 h rfl)

theorem steady_compton (h : lib.Runs vtpFwTypeCompton)
    (htype : (r.fwType 0).toInt = vtpFwTypeCompton) :
    DownloadIdempotent fpu lib conf stack stack' r ↔ DownloadSteady fpu vtpFwTypeCompton conf := by
  refine (idempotent_iff_again h htype (P := True) ?_).trans (by simp)
  rintro c0 r0 - hkept
  rw [vtpUploadAll_block h hkept (uploadCompton lib _) rfl, uploadCompton_eq _ _ h,
    uploadStart_eq _ _ h, uploadFirmware_eq _ _ h]
  exact iff_true_intro (again_compton c0 r0 h rfl)

theorem steady_gt (h : lib.Runs vtpFwTypeGt) (htype : (r.fwType 0).toInt = vtpFwTypeGt) :
    DownloadIdempotent fpu lib conf stack stack' r ↔ DownloadSteady fpu vtpFwTypeGt conf := by
  refine (idempotent_iff_again h htype
    (P := ∀ i, fpu.pulser (fpu.pulserFreq (fpu.pulser (conf.gt.trgbits i).pulserFreq)) =
      fpu.pulser (conf.gt.trgbits i).pulserFreq) ?_).trans (by simp)
  rintro c0 r0 hc0 hkept
  rw [vtpUploadAll_block h hkept (uploadGt lib fpu _) rfl, uploadGt_eq fpu _ _ h,
    uploadFirmware_eq _ _ h]
  have hgt : c0.gt = conf.gt := by rw [hc0, uploadFirmware_eq _ _ h]
  rw [← hgt]
  exact again_gt c0 r0 h rfl

theorem steady_hps (h : lib.Runs vtpFwTypeHps) (htype : (r.fwType 0).toInt = vtpFwTypeHps) :
    DownloadIdempotent fpu lib conf stack stack' r ↔ DownloadSteady fpu vtpFwTypeHps conf := by
  refine (idempotent_iff_again h htype
    (P := (∀ i k, fpu.pdeC (fpu.pdeFloat (fpu.pdeC ((conf.hps.singleTrig i).pdeC k))) =
        fpu.pdeC ((conf.hps.singleTrig i).pdeC k)) ∧
      ∀ i, fpu.edFactor (fpu.edFloat (fpu.edFactor (conf.hps.pairTrig i).pairEdFactor)) =
        fpu.edFactor (conf.hps.pairTrig i).pairEdFactor) ?_).trans (by simp)
  rintro c0 r0 hc0 hkept
  rw [vtpUploadAll_block h hkept (uploadHps lib fpu _) rfl, uploadHps_eq fpu _ _ h,
    uploadStart_eq _ _ h, uploadFirmware_eq _ _ h]
  have hhps : c0.hps = conf.hps := by rw [hc0, uploadFirmware_eq _ _ h]
  rw [← hhps]
  exact again_hps c0 r0 h rfl

theorem steady_fadcstream (h : lib.Runs vtpFwTypeFadcstream)
    (htype : (r.fwType 0).toInt = vtpFwTypeFadcstream) :
    DownloadIdempotent fpu lib conf stack stack' r ↔
      DownloadSteady fpu vtpFwTypeFadcstream conf := by
  refine (idempotent_iff_again h htype (P := True) ?_).trans (by simp)
  rintro c0 r0 - hkept
  rw [vtpUploadAll_start h hkept (by decide), uploadStart_eq _ _ h, uploadFirmware_eq _ _ h]
  exact iff_true_intro (again_fadcstream c0 r0 h rfl rfl)

/-- On the ROC and on unknown firmwares no block runs. -/
theorem steady_other (h : lib.Runs type) (htype : (r.fwType 0).toInt = type)
    (hnot : type ∉ downloadTypes) :
    DownloadIdempotent fpu lib conf stack stack' r ↔ DownloadSteady fpu type conf := by
  have hne := hnot
  simp only [downloadTypes, triggerTypes, List.cons_append, List.nil_append, List.mem_cons,
    List.not_mem_nil, or_false, not_or] at hne
  refine (idempotent_iff_again h htype (P := True) ?_).trans ?_
  · rintro c0 r0 - -
    rw [blockOf_other hnot, blockOf_other hnot]
    exact iff_true_intro rfl
  · simp only [downloadSteady_iff, hne, false_implies, and_true]

theorem steady_iff (h : lib.Runs type) (htype : (r.fwType 0).toInt = type) :
    DownloadIdempotent fpu lib conf stack stack' r ↔ DownloadSteady fpu type conf := by
  by_cases hmem : type ∈ downloadTypes
  · simp only [downloadTypes, triggerTypes, List.cons_append, List.nil_append, List.mem_cons,
      List.not_mem_nil, or_false] at hmem
    rcases hmem with rfl | rfl | rfl | rfl | rfl | rfl | rfl | rfl | rfl | rfl | rfl | rfl | rfl |
      rfl | rfl
    · exact steady_ec h htype
    · exact steady_pc h htype
    · exact steady_htcc h htype
    · exact steady_ftof h htype
    · exact steady_cnd h htype
    · exact steady_pcs h htype
    · exact steady_ecs h htype
    · exact steady_gt h htype
    · exact steady_dc h htype
    · exact steady_hcal h htype
    · exact steady_ftcal h htype
    · exact steady_fthodo h htype
    · exact steady_hps h htype
    · exact steady_compton h htype
    · exact steady_fadcstream h htype
  · exact steady_other h htype hmem

end

/-- After `vtpInit`, a second `vtpDownloadAll` leaves every register as after the
first exactly when what is read back programs what it was read from. -/
theorem download_idempotent_iff (fpu : FloatUnit) (conf : VtpConf) (stack stack' : Word)
    (r : Regs) :
    DownloadIdempotent fpu (VtpLib.ofRegs r) conf stack stack' r ↔
      DownloadSteady fpu (r.fwType 0).toInt conf :=
  steady_iff (VtpLib.runs_ofRegs r) rfl

/-- An HTCC board, and a configuration that enables link 0. -/
def htccBoard : Regs := { (default : Regs) with fwType := ![7#32, 0#32] }

def oneLink : VtpConf := { (default : VtpConf) with fiberEn := 1#32 }

/-- The mask reads back as 0, so the second call switches the link off. -/
theorem link_switched_off :
    ¬ DownloadIdempotent FloatUnit.zeros (VtpLib.ofRegs htccBoard) oneLink 0#32 0#32 htccBoard := by
  rw [steady_iff (VtpLib.runs_ofRegs htccBoard) rfl]
  intro h
  have hlink : (1#32).getLsbD 0 = false := h.fibers 0
  exact absurd hlink (by decide)

end VtpStreaming
