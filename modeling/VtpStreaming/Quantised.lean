import Mathlib.Tactic.FinCases
import VtpStreaming.Quantities

/-!
# Values as the setters leave them

A setter cuts some values to their range or their field, and times to whole ticks.
What it writes decodes to the value cut so, and writes the same again.
-/

namespace VtpStreaming

open Clib VtpLib BitField

/-! ## Global trigger -/

section

variable (fpu : FloatUnit)

def TrgBit.quantised (b : TrgBit) : TrgBit where
  sspStriggerBitMask := ![b.sspStriggerBitMask 0 &&& 0xffff#32, b.sspStriggerBitMask 1 &&& 0xffff#32]
  sspSectorMask := ![b.sspSectorMask 0 &&& 0x3f#32, b.sspSectorMask 1 &&& 0x3f#32]
  sectorMultMin := ![b.sectorMultMin 0 &&& 7#32, b.sectorMultMin 1 &&& 7#32]
  sectorCoinWidth := b.sectorCoinWidth &&& 0xff#32
  sspCtriggerBitMask := b.sspCtriggerBitMask &&& 0xf#32
  delay := b.delay &&& 0xff#32
  pulserFreq := fpu.pulserFreq (fpu.pulser b.pulserFreq)
  prescale := b.prescale

theorem sTriggerWidth_fits : 16 + 8 ≤ 32 := by decide

/-- The fields of `STrigger`. -/
def sTriggerFields (mult sector width delay : Word) : List (BitField 32 × Word) :=
  [(⟨4, 3, by decide⟩, mult), (⟨8, 6, by decide⟩, sector), (⟨16, 8, sTriggerWidth_fits⟩, width),
    (⟨24, 8, by decide⟩, delay)]

theorem sTrigger_read (mult sector width delay : Word) {word : Word}
    (hword : word = pack (sTriggerFields (mult &&& 7#32) (sector &&& 0x3f#32) (width &&& 0xff#32)
      (delay &&& 0xff#32))) :
    (word >>> 4) &&& 7#32 = mult &&& 7#32 ∧ (word >>> 8) &&& 0x3f#32 = sector &&& 0x3f#32 ∧
      (word >>> 16) &&& 0xff#32 = width &&& 0xff#32 ∧
      (word >>> 24) &&& 0xff#32 = delay &&& 0xff#32 := by
  have hread := get_of_eq_pack hword
    (by simp only [sTriggerFields, List.pairwise_cons, List.forall_mem_cons]; decide)
    (by simp only [sTriggerFields, List.forall_mem_cons]
        exact ⟨holds_and_low _ _, holds_and_low _ _, holds_and_low _ _, holds_and_low _ _,
          List.forall_mem_nil _⟩)
  simp only [sTriggerFields, List.forall_mem_cons] at hread
  obtain ⟨hmult, hsector, hwidth, hdelay, -⟩ := hread
  exact ⟨hmult, hsector, hwidth, hdelay⟩

theorem gtBitOf_gtBitRegs (b : TrgBit) : gtBitOf fpu
    (gtBitRegs fpu b) b.prescale = b.quantised fpu := by
  have hword : (gtBitRegs fpu b).sTrigger = pack (sTriggerFields (b.sectorMultMin 0 &&& 7#32)
      (b.sspSectorMask 0 &&& 0x3f#32) (b.sectorCoinWidth &&& 0xff#32) (b.delay &&& 0xff#32)) := by
    simp only [gtBitRegs, sTriggerFields, pack, BitVec.or_assoc, BitVec.or_zero]
  have hword1 : (gtBitRegs fpu b).sTrigger1 = pack (sTriggerFields (b.sectorMultMin 1 &&& 7#32)
      (b.sspSectorMask 1 &&& 0x3f#32) (0#32 &&& 0xff#32) (0#32 &&& 0xff#32)) := by
    simp [gtBitRegs, sTriggerFields, pack]
  have hfirst := sTrigger_read _ _ _ _ hword
  have hsecond := sTrigger_read _ _ _ _ hword1
  obtain ⟨hmult, hsector, hwidth, hdelay⟩ := hfirst
  obtain ⟨hmult', hsector', -, -⟩ := hsecond
  simp only [gtBitOf, hmult, hsector, hwidth, hdelay, hmult', hsector']
  simp only [gtBitRegs, BitVec.and_assoc, BitVec.and_self, TrgBit.quantised]

/-- The same is written again, but for the frequency. -/
theorem gtBitRegs_quantised (b : TrgBit) :
    gtBitRegs fpu (b.quantised fpu) =
      { gtBitRegs fpu b with pulser := fpu.pulser (fpu.pulserFreq (fpu.pulser b.pulserFreq)) } := by
  simp [gtBitRegs, TrgBit.quantised, BitVec.and_assoc]

end

/-! ## HPS -/

section

def HpsClusterConf.quantised (c : HpsClusterConf) : HpsClusterConf where
  topNbottom := checkRange 0 1 c.topNbottom
  hitDt := checkRange 0 4 (c.hitDt.sdiv 4#32) * 4#32
  seedThr := checkRange 1 8191 c.seedThr

def hpsClusterWord (c : HpsClusterConf) : Word :=
  (checkRange 0 1 c.topNbottom <<< 31) ||| (checkRange 0 4 (c.hitDt.sdiv 4#32) <<< 16) |||
    checkRange 1 8191 c.seedThr

theorem hpsCluster_read (c : HpsClusterConf) :
    (⟨(hpsClusterWord c >>> 31) &&& 1#32, ((hpsClusterWord c >>> 16) &&& 7#32) * 4#32,
      hpsClusterWord c &&& 0x1fff#32⟩ : HpsClusterConf) = c.quantised := by
  have hread := get_of_eq_pack (x := hpsClusterWord c)
    (l := [(⟨31, 1, by decide⟩, checkRange 0 1 c.topNbottom),
      (⟨16, 3, by decide⟩, checkRange 0 4 (c.hitDt.sdiv 4#32)),
      (⟨0, 13, by decide⟩, checkRange 1 8191 c.seedThr)])
    (by simp only [hpsClusterWord, pack, BitVec.or_assoc, BitVec.or_zero, BitVec.shiftLeft_zero])
    (by simp only [List.pairwise_cons, List.forall_mem_cons]; decide)
    (by simp (disch := decide) [holds_checkRange])
  simp only [List.forall_mem_cons] at hread
  obtain ⟨htop, hhit, hseed, -⟩ := hread
  rw [HpsClusterConf.quantised, HpsClusterConf.mk.injEq]
  exact ⟨htop, congrArg (· * 4#32) hhit, hseed⟩

theorem hpsClusterWord_quantised (c : HpsClusterConf) :
    hpsClusterWord c.quantised = hpsClusterWord c := by
  simp (disch := decide) only [hpsClusterWord, HpsClusterConf.quantised, checkRange_ticks,
    checkRange_checkRange]

def HpsHodoscopeConf.quantised (c : HpsHodoscopeConf) : HpsHodoscopeConf where
  hitDt := checkRange 0 15 (c.hitDt.sdiv 4#32) * 4#32
  fadchitThr := checkRange 1 8191 c.fadchitThr
  hodoThr := checkRange 1 8191 c.hodoThr

def hpsHodoscopeWord (c : HpsHodoscopeConf) : Word :=
  (checkRange 0 15 (c.hitDt.sdiv 4#32) <<< 26) ||| (checkRange 1 8191 c.hodoThr <<< 13) |||
    checkRange 1 8191 c.fadchitThr

theorem hpsHodoscope_read (c : HpsHodoscopeConf) :
    (⟨((hpsHodoscopeWord c >>> 26) &&& 0xf#32) * 4#32, hpsHodoscopeWord c &&& 0x1fff#32,
      (hpsHodoscopeWord c >>> 13) &&& 0x1fff#32⟩ : HpsHodoscopeConf) = c.quantised := by
  have hread := get_of_eq_pack (x := hpsHodoscopeWord c)
    (l := [(⟨26, 4, by decide⟩, checkRange 0 15 (c.hitDt.sdiv 4#32)),
      (⟨13, 13, by decide⟩, checkRange 1 8191 c.hodoThr),
      (⟨0, 13, by decide⟩, checkRange 1 8191 c.fadchitThr)])
    (by simp only [hpsHodoscopeWord, pack, BitVec.or_assoc, BitVec.or_zero, BitVec.shiftLeft_zero])
    (by simp only [List.pairwise_cons, List.forall_mem_cons]; decide)
    (by simp (disch := decide) [holds_checkRange])
  simp only [List.forall_mem_cons] at hread
  obtain ⟨hhit, hhodo, hfadc, -⟩ := hread
  rw [HpsHodoscopeConf.quantised, HpsHodoscopeConf.mk.injEq]
  exact ⟨congrArg (· * 4#32) hhit, hfadc, hhodo⟩

theorem hpsHodoscopeWord_quantised (c : HpsHodoscopeConf) :
    hpsHodoscopeWord c.quantised = hpsHodoscopeWord c := by
  simp (disch := decide) only [hpsHodoscopeWord, HpsHodoscopeConf.quantised, checkRange_ticks,
    checkRange_checkRange]

/-! ### Flags -/

theorem flagAt_eq (bit : Nat) (en : Word) : flagAt bit en = flag en <<< bit := by
  unfold flagAt flag
  split_ifs <;> simp

theorem flag_flag (en : Word) : flag (flag en) = flag en := by
  by_cases h : en = 0#32 <;> simp [flag, h]

theorem holds_flag (f : BitField 32) (hf : 0 < f.width) (en : Word) : f.Holds (flag en) := by
  rw [holds_iff]
  have hpow : 1 < 2 ^ f.width := Nat.one_lt_two_pow (by omega)
  unfold flag
  split_ifs
  · exact Nat.two_pow_pos _
  · exact hpow

/-- A flag is a field of one bit. -/
theorem flagOf_eq (bit : Nat) (h : bit + 1 ≤ 32) (flags : Word) :
    flagOf bit flags = get ⟨bit, 1, h⟩ flags := by
  apply BitVec.eq_of_getLsbD_eq
  intro i _
  rw [getLsbD_get, flagOf]
  cases i with
  | zero => cases flags.getLsbD bit <;> simp
  | succ i => split_ifs <;> simp

def HpsSingleTrig.quantised (fpu : FloatUnit) (t : HpsSingleTrig) : HpsSingleTrig where
  clusterEmin := checkRange 0 8191 t.clusterEmin
  clusterEmax := checkRange 0 8191 t.clusterEmax
  clusterNmin := checkRange 0 9 t.clusterNmin
  clusterXmin := checkRange (-31) 31 t.clusterXmin
  pdeC i := fpu.pdeFloat (fpu.pdeC (t.pdeC i))
  clusterEminEn := flag t.clusterEminEn
  clusterEmaxEn := flag t.clusterEmaxEn
  clusterNminEn := flag t.clusterNminEn
  clusterXminEn := flag t.clusterXminEn
  pdeEn := flag t.pdeEn
  hodoL1En := flag t.hodoL1En
  hodoL2En := flag t.hodoL2En
  hodoL1l2GeomEn := flag t.hodoL1l2GeomEn
  hodoL1l2xGeomEn := flag t.hodoL1l2xGeomEn
  en := flag t.en

/-- Six bits are enough for a coordinate, the top one of them its sign. -/
theorem coordinate_masked (v : Word) :
    signExtend6 (checkRange (-31) 31 v &&& 0x3f#32) = checkRange (-31) 31 v := by
  obtain ⟨hlo, hhi⟩ : -31 ≤ (checkRange (-31) 31 v).toInt ∧ (checkRange (-31) 31 v).toInt ≤ 31 :=
    checkRange_mem (by decide) (by decide) (by decide) v
  generalize checkRange (-31) 31 v = x at hlo hhi ⊢
  have hall : ∀ k : Fin 63, signExtend6 (BitVec.ofInt 32 (k.val - 31) &&& 0x3f#32) =
      BitVec.ofInt 32 (k.val - 31) := by
    decide
  have hk := hall ⟨(x.toInt + 31).toNat, by omega⟩
  have hx : BitVec.ofInt 32 (((x.toInt + 31).toNat : Int) - 31) = x := by
    rw [Int.toNat_of_nonneg (by omega), Int.add_sub_cancel, BitVec.ofInt_toInt]
  simpa only [hx] using hk

theorem singleOf_singleRegs (fpu : FloatUnit) (t t' : HpsSingleTrig) :
    singleOf fpu (singleRegs fpu t) t' = t.quantised fpu := by
  have hread := get_of_eq_pack (x := singleFlags t)
    (l := [(⟨0, 1, by decide⟩, flag t.clusterEminEn), (⟨1, 1, by decide⟩, flag t.clusterEmaxEn),
      (⟨2, 1, by decide⟩, flag t.clusterNminEn), (⟨3, 1, by decide⟩, flag t.clusterXminEn),
      (⟨4, 1, by decide⟩, flag t.pdeEn), (⟨5, 1, by decide⟩, flag t.hodoL1En),
      (⟨6, 1, by decide⟩, flag t.hodoL2En), (⟨7, 1, by decide⟩, flag t.hodoL1l2GeomEn),
      (⟨8, 1, by decide⟩, flag t.hodoL1l2xGeomEn), (⟨31, 1, by decide⟩, flag t.en)])
    (by simp only [singleFlags, flagAt_eq, pack, BitVec.or_assoc, BitVec.or_zero])
    (by simp only [List.pairwise_cons, List.forall_mem_cons]; decide)
    (by simp (disch := decide) [holds_flag])
  simp only [List.forall_mem_cons, ← flagOf_eq] at hread
  obtain ⟨h0, h1, h2, h3, h4, h5, h6, h7, h8, h31, -⟩ := hread
  simp only [singleOf, singleRegs, withSingleFlags, h0, h1, h2, h3, h4, h5, h6, h7, h8, h31,
    HpsSingleTrig.quantised]

theorem singleRegs_quantised (fpu : FloatUnit) (t : HpsSingleTrig) :
    singleRegs fpu (t.quantised fpu) =
      { singleRegs fpu t with
        clusterPdeC := fun i => fpu.pdeC (fpu.pdeFloat (fpu.pdeC (t.pdeC i))) } := by
  simp (disch := decide) only [singleRegs, singleFlags, flagAt_eq, HpsSingleTrig.quantised,
    flag_flag, checkRange_checkRange]

/-! ### Pair, multiplicity and FEE triggers -/

def HpsPairTrig.quantised (fpu : FloatUnit) (t : HpsPairTrig) : HpsPairTrig where
  clusterEmin := checkRange 0 8191 t.clusterEmin
  clusterEmax := checkRange 0 8191 t.clusterEmax
  clusterNmin := checkRange 0 9 t.clusterNmin
  pairDt := checkRange 0 15 (t.pairDt.sdiv 4#32) * 4#32
  pairEsumMin := checkRange 0 8191 t.pairEsumMin
  pairEsumMax := checkRange 0 16383 t.pairEsumMax
  pairEdiffMax := checkRange 0 8191 t.pairEdiffMax
  pairEdFactor := fpu.edFloat (fpu.edFactor t.pairEdFactor)
  pairEdThr := checkRange 0 8191 t.pairEdThr
  pairCoplanarityTol := checkRange 0 255 t.pairCoplanarityTol
  pairEsumEn := flag t.pairEsumEn
  pairEdiffEn := flag t.pairEdiffEn
  pairEdEn := flag t.pairEdEn
  pairCoplanarityEn := flag t.pairCoplanarityEn
  hodoL1En := flag t.hodoL1En
  hodoL2En := flag t.hodoL2En
  hodoL1l2GeomEn := flag t.hodoL1l2GeomEn
  hodoL1l2xGeomEn := flag t.hodoL1l2xGeomEn
  en := flag t.en

/-- Two values in one register, the second of them from bit 16. -/
theorem pack_two {f g : BitField 32} (hapart : g.Apart f) (hf : f.shift = 0) {low high : Word}
    (hlow : f.Holds low) (hhigh : g.Holds high) :
    f.get ((high <<< g.shift) ||| low) = low ∧ g.get ((high <<< g.shift) ||| low) = high := by
  have hread := get_of_eq_pack (x := (high <<< g.shift) ||| low) (l := [(g, high), (f, low)])
    (by simp only [pack, hf, BitVec.shiftLeft_zero, BitVec.or_zero])
    (by simp [hapart])
    (by simp [hlow, hhigh])
  simp only [List.forall_mem_cons] at hread
  exact ⟨hread.2.1, hread.1⟩

/-- The mask that the flags are read through leaves them alone. -/
theorem flagOf_masked {bit : Nat} (h : (0x8000ffff#32).getLsbD bit = true) (flags : Word) :
    flagOf bit (flags &&& 0x8000ffff#32) = flagOf bit flags := by
  rw [flagOf, flagOf, BitVec.getLsbD_and, h, Bool.and_true]

/-- A byte below another value. -/
theorem setWidth_byte (high : Word) (b : Byte) :
    ((high <<< 16) ||| b.setWidth 32).setWidth 8 = b := by
  apply BitVec.eq_of_getLsbD_eq
  intro i hi
  have hlow : i < 16 := by omega
  have hword : i < 32 := by omega
  rw [BitVec.getLsbD_setWidth, BitVec.getLsbD_or, BitVec.getLsbD_shiftLeft, BitVec.getLsbD_setWidth]
  simp [hi, hlow, hword]

theorem pairOf_pairRegs (fpu : FloatUnit) (t t' : HpsPairTrig) :
    pairOf fpu (pairRegs fpu t) t' = t.quantised fpu := by
  have hread := get_of_eq_pack (x := (pairRegs fpu t).ctrl)
    (l := [(⟨0, 1, by decide⟩, flag t.pairEsumEn), (⟨1, 1, by decide⟩, flag t.pairEdiffEn),
      (⟨2, 1, by decide⟩, flag t.pairCoplanarityEn), (⟨3, 1, by decide⟩, flag t.pairEdEn),
      (⟨4, 1, by decide⟩, flag t.hodoL1En), (⟨5, 1, by decide⟩, flag t.hodoL2En),
      (⟨6, 1, by decide⟩, flag t.hodoL1l2GeomEn), (⟨7, 1, by decide⟩, flag t.hodoL1l2xGeomEn),
      (⟨31, 1, by decide⟩, flag t.en),
      (⟨16, 4, by decide⟩, checkRange 0 15 (t.pairDt.sdiv 4#32))])
    (by simp only [pairRegs, pairFlags, flagAt_eq, pack, BitVec.or_assoc, BitVec.or_zero])
    (by simp only [List.pairwise_cons, List.forall_mem_cons]; decide)
    (by simp (disch := decide) [holds_flag, holds_checkRange])
  simp only [List.forall_mem_cons, ← flagOf_eq] at hread
  obtain ⟨h0, h1, h2, h3, h4, h5, h6, h7, h31, hdt, -⟩ := hread
  have hesum := pack_two (f := ⟨0, 14, by decide⟩) (g := ⟨16, 14, by decide⟩) (by decide) rfl
    (holds_upTo _ 8191 t.pairEsumMin (by decide))
    (holds_upTo _ 16383 t.pairEsumMax (by decide))
  have hemin := pack_two (f := ⟨0, 13, by decide⟩) (g := ⟨16, 13, by decide⟩) (by decide) rfl
    (holds_upTo _ 8191 t.clusterEmin (by decide))
    (holds_upTo _ 8191 t.clusterEmax (by decide))
  have hbyte : Holds ⟨0, 8, by decide⟩ ((fpu.edFactor t.pairEdFactor).setWidth 32) := by
    have hlt := (fpu.edFactor t.pairEdFactor).isLt
    rw [holds_iff, BitVec.toNat_setWidth_of_le (by decide)]
    exact hlt
  have hed := pack_two (f := ⟨0, 8, by decide⟩) (g := ⟨16, 13, by decide⟩) (by decide) rfl hbyte
    (holds_upTo _ 8191 t.pairEdThr (by decide))
  rw [HpsPairTrig.quantised, pairOf, withPairFlags, HpsPairTrig.mk.injEq]
  have hmask {bit : Nat} (h : (0x8000ffff#32).getLsbD bit = true) :=
    flagOf_masked h (pairRegs fpu t).ctrl
  refine ⟨hemin.1, hemin.2, rfl, congrArg (· * 4#32) hdt, hesum.1, hesum.2, rfl,
    congrArg fpu.edFloat (setWidth_byte _ _), hed.2, rfl, (hmask rfl).trans h0, (hmask rfl).trans h1,
    (hmask rfl).trans h3, (hmask rfl).trans h2, (hmask rfl).trans h4, (hmask rfl).trans h5,
    (hmask rfl).trans h6, (hmask rfl).trans h7, (hmask rfl).trans h31⟩

theorem pairRegs_quantised (fpu : FloatUnit) (t : HpsPairTrig) :
    pairRegs fpu (t.quantised fpu) =
      { pairRegs fpu t with
        pairEd := (checkRange 0 8191 t.pairEdThr <<< 16) |||
          (fpu.edFactor (fpu.edFloat (fpu.edFactor t.pairEdFactor))).setWidth 32 } := by
  simp (disch := decide) only [pairRegs, pairFlags, flagAt_eq, HpsPairTrig.quantised, flag_flag,
    checkRange_checkRange, checkRange_ticks]

def HpsMultTrig.quantised (t : HpsMultTrig) : HpsMultTrig where
  clusterEmin := checkRange 0 8191 t.clusterEmin
  clusterEmax := checkRange 0 8191 t.clusterEmax
  clusterNmin := checkRange 0 9 t.clusterNmin
  multDt := checkRange 0 15 (t.multDt.sdiv 4#32) * 4#32
  multTopMin := checkRange 0 15 t.multTopMin
  multBotMin := checkRange 0 15 t.multBotMin
  multTotMin := checkRange 0 15 t.multTotMin
  en := flag t.en

theorem multOf_multRegs (t : HpsMultTrig) (g : HpsMultTriggerRegs) :
    multOf (multRegs t g) = t.quantised := by
  have hread := get_of_eq_pack (x := (multRegs t g).clusterMult)
    (l := [(⟨31, 1, by decide⟩, flag t.en),
      (⟨12, 4, by decide⟩, checkRange 0 15 (t.multDt.sdiv 4#32)),
      (⟨8, 4, by decide⟩, checkRange 0 15 t.multTotMin),
      (⟨4, 4, by decide⟩, checkRange 0 15 t.multBotMin),
      (⟨0, 4, by decide⟩, checkRange 0 15 t.multTopMin)])
    (by simp only [multRegs, flagAt_eq, pack, BitVec.or_assoc, BitVec.or_zero, BitVec.shiftLeft_zero])
    (by simp only [List.pairwise_cons, List.forall_mem_cons]; decide)
    (by simp (disch := decide) [holds_flag, holds_checkRange])
  simp only [List.forall_mem_cons] at hread
  obtain ⟨hen, hdt, htot, hbot, htop, -⟩ := hread
  rw [← flagOf_eq] at hen
  rw [HpsMultTrig.quantised, multOf, HpsMultTrig.mk.injEq]
  exact ⟨rfl, rfl, rfl, congrArg (· * 4#32) hdt, htop, hbot, htot, hen⟩

theorem multRegs_quantised (t : HpsMultTrig) (g : HpsMultTriggerRegs) :
    multRegs t.quantised (multRegs t g) = multRegs t g := by
  simp (disch := decide) only [multRegs, flagAt_eq, HpsMultTrig.quantised, flag_flag,
    checkRange_checkRange, checkRange_ticks]

def HpsFeeTrig.quantised (t : HpsFeeTrig) : HpsFeeTrig where
  clusterEmin := checkRange 0 8191 t.clusterEmin
  clusterEmax := checkRange 0 8191 t.clusterEmax
  clusterNmin := checkRange 0 9 t.clusterNmin
  prescaleXmin k := checkRange (-31) 31 (t.prescaleXmin k)
  prescaleXmax k := checkRange (-31) 31 (t.prescaleXmax k)
  prescale k := checkRange 0 65535 (t.prescale k)
  en := flag t.en

theorem signExtend6_masked (v : Word) : signExtend6 (v &&& 0x3f#32) = signExtend6 v := by
  have hbit : (0x3f#32).getLsbD 5 = true := rfl
  rw [signExtend6, signExtend6, BitVec.and_assoc, BitVec.and_self, BitVec.getLsbD_and, hbit,
    Bool.and_true]

theorem feeXOf_feeXWord (x : Fin 7 → Word) (k : Fin 7) :
    feeXOf (feeXWord x) k = checkRange (-31) 31 (x k) := by
  let six (k : Fin 7) : Word := checkRange (-31) 31 (x k) &&& 0x3f#32
  have hfirst := get_of_eq_pack (x := feeXWord x 0)
    (l := [(⟨0, 6, by decide⟩, six 0), (⟨6, 6, by decide⟩, six 1), (⟨12, 6, by decide⟩, six 2),
      (⟨18, 6, by decide⟩, six 3), (⟨24, 6, by decide⟩, six 4)])
    (by simp [feeXWord, six, pack, BitVec.or_assoc])
    (by simp only [List.pairwise_cons, List.forall_mem_cons]; decide)
    (by simp only [List.forall_mem_cons]
        exact ⟨holds_and_low _ _, holds_and_low _ _, holds_and_low _ _, holds_and_low _ _,
          holds_and_low _ _, List.forall_mem_nil _⟩)
  have hsecond := get_of_eq_pack (x := feeXWord x 1)
    (l := [(⟨0, 6, by decide⟩, six 5), (⟨6, 6, by decide⟩, six 6)])
    (by simp [feeXWord, six, pack])
    (by simp only [List.pairwise_cons, List.forall_mem_cons]; decide)
    (by simp only [List.forall_mem_cons]
        exact ⟨holds_and_low _ _, holds_and_low _ _, List.forall_mem_nil _⟩)
  simp only [List.forall_mem_cons] at hfirst hsecond
  obtain ⟨h0, h1, h2, h3, h4, -⟩ := hfirst
  obtain ⟨h5, h6, -⟩ := hsecond
  have hread {v : Word} {k : Fin 7} (h : v &&& 0x3f#32 = six k) :
      signExtend6 v = checkRange (-31) 31 (x k) := by
    rw [← signExtend6_masked, h, coordinate_masked]
  fin_cases k
  · exact hread h0
  · exact hread h1
  · exact hread h2
  · exact hread h3
  · exact hread h4
  · exact hread h5
  · exact hread h6

theorem feePrescaleOf_feePrescaleWord (p : Fin 7 → Word) (k : Fin 7) :
    feePrescaleOf (feePrescaleWord p) k = checkRange 0 65535 (p k) := by
  have hholds (f : BitField 32) (hf : f.width = 16) (v : Word) : f.Holds (checkRange 0 65535 v) :=
    holds_checkRange f (by decide) (by decide) (by decide) (by rw [hf]; decide) v
  have htwo (low high : Word) := pack_two (f := ⟨0, 16, by decide⟩) (g := ⟨16, 16, by decide⟩)
    (by decide) rfl (hholds _ rfl low) (hholds _ rfl high)
  have hread (low high : Word) :
      (checkRange 0 65535 low ||| (checkRange 0 65535 high <<< 16)) &&& 0xffff#32 =
          checkRange 0 65535 low ∧
        ((checkRange 0 65535 low ||| (checkRange 0 65535 high <<< 16)) >>> 16) &&& 0xffff#32 =
          checkRange 0 65535 high := by
    rw [BitVec.or_comm]
    exact htwo low high
  match k with
  | 0 => exact (hread (p 0) (p 1)).1
  | 1 => exact (hread (p 0) (p 1)).2
  | 2 => exact (hread (p 2) (p 3)).1
  | 3 => exact (hread (p 2) (p 3)).2
  | 4 => exact (hread (p 4) (p 5)).1
  | 5 => exact (hread (p 4) (p 5)).2
  | 6 => exact hholds ⟨0, 16, by decide⟩ rfl (p 6)

theorem feeOf_feeRegs (t : HpsFeeTrig) : feeOf (feeRegs t) = t.quantised := by
  have hen : flagOf 31 (flagAt 31 t.en) = flag t.en := by
    rw [flagOf_eq 31 (by decide), flagAt_eq]
    exact get_shiftLeft_of_holds (f := ⟨31, 1, by decide⟩) (holds_flag _ (by decide) _)
  rw [HpsFeeTrig.quantised, feeOf, HpsFeeTrig.mk.injEq]
  exact ⟨rfl, rfl, rfl, funext (feeXOf_feeXWord t.prescaleXmin),
    funext (feeXOf_feeXWord t.prescaleXmax), funext (feePrescaleOf_feePrescaleWord t.prescale), hen⟩

theorem feeRegs_quantised (t : HpsFeeTrig) : feeRegs t.quantised = feeRegs t := by
  simp (disch := decide) only [feeRegs, feeXWord, feePrescaleWord, flagAt_eq, HpsFeeTrig.quantised,
    flag_flag, checkRange_checkRange]

end

end VtpStreaming
