import VtpStreaming.FieldSetters
import VtpStreaming.Quantised

/-!
# The parameters of the HPS triggers

`vtp/vtpLib.c`, the setters and getters of HPS as they are declared, with the flags
of a trigger as one word and the instance as an `int`. Each packed word is or-ed
together without masks, and comes apart because every value was cut to its range.
-/

namespace VtpStreaming

open Clib Function

/-! ## Instances -/

/-- `CHECKRANGE_INT(inst, 0, n)`, as an index. -/
def instOf (n : Nat) (hn : n < 2 ^ 31) (inst : Word) : Fin (n + 1) :=
  ⟨(checkRange 0 n inst).toNat, by
    have hmem := @checkRange_mem 0 n (by decide) (by omega) (by omega) inst
    have hlt := (checkRange 0 n inst).isLt
    rw [BitVec.toInt_eq_toNat_cond] at hmem
    split at hmem <;> omega⟩

/-! ## Arguments -/

/-- The flags that `vtpGetHPS_PairTrigger` reads, those of `vtpDownloadAll` among
them. -/
def pairFlagMask : Word := 0x8000ffff#32

def multFlagMask : Word := 0x80000000#32

/-- The arguments of a pair trigger. -/
structure HpsPairArgs where
  clusterEmin : Word
  clusterEmax : Word
  clusterNmin : Word
  pairDt : Word
  pairEsumMin : Word
  pairEsumMax : Word
  pairEdiffMax : Word
  pairEdFactor : FloatText
  pairEdThr : Word
  pairCoplanarityTol : Word
  enableFlags : Word
  documented : enableFlags &&& pairFlagMask = enableFlags

/-- The arguments of a multiplicity trigger. -/
structure HpsMultArgs where
  clusterEmin : Word
  clusterEmax : Word
  clusterNmin : Word
  multDt : Word
  multTopMin : Word
  multBotMin : Word
  multTotMin : Word
  enableFlags : Word
  documented : enableFlags &&& multFlagMask = enableFlags

/-- The arguments of the FEE trigger. Its flags have a register of their own. -/
structure HpsFeeArgs where
  clusterEmin : Word
  clusterEmax : Word
  clusterNmin : Word
  prescaleXmin : Fin 7 → Word
  prescaleXmax : Fin 7 → Word
  prescale : Fin 7 → Word
  enableFlags : Word

/-! ## Setters and getters -/

section

variable (fpu : FloatUnit)

def pairArgsRegs (a : HpsPairArgs) : HpsPairTriggerRegs where
  ctrl := a.enableFlags ||| (checkRange 0 15 (a.pairDt.sdiv 4#32) <<< 16)
  pairEsum := (checkRange 0 16383 a.pairEsumMax <<< 16) ||| checkRange 0 8191 a.pairEsumMin
  pairEdiff := checkRange 0 8191 a.pairEdiffMax
  clusterEminmax := (checkRange 0 8191 a.clusterEmax <<< 16) ||| checkRange 0 8191 a.clusterEmin
  clusterNmin := checkRange 0 9 a.clusterNmin
  pairCoplanarTol := checkRange 0 255 a.pairCoplanarityTol
  pairEd := (checkRange 0 8191 a.pairEdThr <<< 16) ||| (fpu.edFactor a.pairEdFactor).setWidth 32

def pairArgsOf (g : HpsPairTriggerRegs) : HpsPairArgs where
  clusterEmin := g.clusterEminmax &&& 0x1fff#32
  clusterEmax := (g.clusterEminmax >>> 16) &&& 0x1fff#32
  clusterNmin := g.clusterNmin
  pairDt := ((g.ctrl >>> 16) &&& 0xf#32) * 4#32
  pairEsumMin := g.pairEsum &&& 0x3fff#32
  pairEsumMax := (g.pairEsum >>> 16) &&& 0x3fff#32
  pairEdiffMax := g.pairEdiff
  pairEdFactor := fpu.edFloat (g.pairEd.setWidth 8)
  pairEdThr := (g.pairEd >>> 16) &&& 0x1fff#32
  pairCoplanarityTol := g.pairCoplanarTol
  enableFlags := g.ctrl &&& pairFlagMask
  documented := by rw [BitVec.and_assoc, BitVec.and_self]

def multArgsRegs (a : HpsMultArgs) (g : HpsMultTriggerRegs) : HpsMultTriggerRegs :=
  { g with
    clusterEmin := checkRange 0 8191 a.clusterEmin
    clusterEmax := checkRange 0 8191 a.clusterEmax
    clusterNmin := checkRange 0 9 a.clusterNmin
    clusterMult := a.enableFlags ||| (checkRange 0 15 (a.multDt.sdiv 4#32) <<< 12) |||
      (checkRange 0 15 a.multTotMin <<< 8) ||| (checkRange 0 15 a.multBotMin <<< 4) |||
      checkRange 0 15 a.multTopMin }

def multArgsOf (g : HpsMultTriggerRegs) : HpsMultArgs where
  clusterEmin := g.clusterEmin
  clusterEmax := g.clusterEmax
  clusterNmin := g.clusterNmin
  multDt := ((g.clusterMult >>> 12) &&& 0xf#32) * 4#32
  multTopMin := g.clusterMult &&& 0xf#32
  multBotMin := (g.clusterMult >>> 4) &&& 0xf#32
  multTotMin := (g.clusterMult >>> 8) &&& 0xf#32
  enableFlags := g.clusterMult &&& multFlagMask
  documented := by rw [BitVec.and_assoc, BitVec.and_self]

def feeArgsRegs (a : HpsFeeArgs) : HpsFeeTriggerRegs where
  ctrl := a.enableFlags
  clusterEmin := checkRange 0 8191 a.clusterEmin
  clusterEmax := checkRange 0 8191 a.clusterEmax
  clusterNmin := checkRange 0 9 a.clusterNmin
  prescaleXmin := VtpLib.feeXWord a.prescaleXmin
  prescaleXmax := VtpLib.feeXWord a.prescaleXmax
  prescale := VtpLib.feePrescaleWord a.prescale

def feeArgsOf (g : HpsFeeTriggerRegs) : HpsFeeArgs where
  clusterEmin := g.clusterEmin
  clusterEmax := g.clusterEmax
  clusterNmin := g.clusterNmin
  prescaleXmin := VtpLib.feeXOf g.prescaleXmin
  prescaleXmax := VtpLib.feeXOf g.prescaleXmax
  prescale := VtpLib.feePrescaleOf g.prescale
  enableFlags := g.ctrl

namespace VtpLib

variable (lib : VtpLib)

theorem pairInst_lt : 3 < 2 ^ 31 := by decide

def vtpSetHPSPairTriggerArgs (inst : Word) (a : HpsPairArgs) : Regs → Option Regs :=
  lib.onTypes [vtpFwTypeHps] fun r =>
    { r with
      hpsPairTrigger := update r.hpsPairTrigger (instOf 3 pairInst_lt inst) (pairArgsRegs fpu a) }

def vtpGetHPSPairTriggerArgs (inst : Word) : Regs → Option HpsPairArgs :=
  lib.onTypes [vtpFwTypeHps] fun r =>
    pairArgsOf fpu (r.hpsPairTrigger (instOf 3 pairInst_lt inst))

def vtpSetHPSMultiplicityTriggerArgs (inst : Word) (a : HpsMultArgs) : Regs → Option Regs :=
  lib.onTypes [vtpFwTypeHps] fun r =>
    let inst := instOf 1 (by decide) inst
    { r with
      hpsMultiplicityTrigger := update r.hpsMultiplicityTrigger inst
        (multArgsRegs a (r.hpsMultiplicityTrigger inst)) }

def vtpGetHPSMultiplicityTriggerArgs (inst : Word) : Regs → Option HpsMultArgs :=
  lib.onTypes [vtpFwTypeHps] fun r =>
    multArgsOf (r.hpsMultiplicityTrigger (instOf 1 (by decide) inst))

def vtpSetHPSFeeTriggerArgs (a : HpsFeeArgs) : Regs → Option Regs :=
  lib.onTypes [vtpFwTypeHps] fun r =>
    { r with hpsFeeTriggerTop := feeArgsRegs a, hpsFeeTriggerBot := feeArgsRegs a }

def vtpGetHPSFeeTriggerArgs : Regs → Option HpsFeeArgs :=
  lib.onTypes [vtpFwTypeHps] fun r => feeArgsOf r.hpsFeeTriggerTop

end VtpLib

/-! ## The configuration as arguments -/

open VtpLib

theorem documented_or {m x y : Word} (hx : x &&& m = x) (hy : y &&& m = y) :
    (x ||| y) &&& m = x ||| y := by
  rw [BitVec.and_comm, BitVec.and_or_distrib_left, BitVec.and_comm m, BitVec.and_comm m, hx, hy]

theorem documented_flagAt {m : Word} {bit : Nat} (h : (1#32 <<< bit) &&& m = 1#32 <<< bit)
    (en : Word) : flagAt bit en &&& m = flagAt bit en := by
  unfold flagAt
  split
  · exact BitVec.zero_and
  · exact h

/-- The call that `vtpDownloadAll` makes. -/
def HpsPairTrig.args (t : HpsPairTrig) : HpsPairArgs where
  clusterEmin := t.clusterEmin
  clusterEmax := t.clusterEmax
  clusterNmin := t.clusterNmin
  pairDt := t.pairDt
  pairEsumMin := t.pairEsumMin
  pairEsumMax := t.pairEsumMax
  pairEdiffMax := t.pairEdiffMax
  pairEdFactor := t.pairEdFactor
  pairEdThr := t.pairEdThr
  pairCoplanarityTol := t.pairCoplanarityTol
  enableFlags := pairFlags t
  documented := by
    have hbits {bit : Nat} (h : (1#32 <<< bit) &&& pairFlagMask = 1#32 <<< bit) (en : Word) :=
      documented_flagAt h en
    exact documented_or (documented_or (documented_or (documented_or (documented_or (documented_or
      (documented_or (documented_or (hbits rfl _) (hbits rfl _)) (hbits rfl _)) (hbits rfl _))
      (hbits rfl _)) (hbits rfl _)) (hbits rfl _)) (hbits rfl _)) (hbits rfl _)

theorem pairRegs_args (t : HpsPairTrig) : pairRegs fpu t = pairArgsRegs fpu t.args := rfl

def HpsMultTrig.args (t : HpsMultTrig) : HpsMultArgs where
  clusterEmin := t.clusterEmin
  clusterEmax := t.clusterEmax
  clusterNmin := t.clusterNmin
  multDt := t.multDt
  multTopMin := t.multTopMin
  multBotMin := t.multBotMin
  multTotMin := t.multTotMin
  enableFlags := flagAt 31 t.en
  documented := documented_flagAt rfl _

theorem multRegs_args (t : HpsMultTrig) (g : HpsMultTriggerRegs) :
    multRegs t g = multArgsRegs t.args g := rfl

def HpsFeeTrig.args (t : HpsFeeTrig) : HpsFeeArgs where
  clusterEmin := t.clusterEmin
  clusterEmax := t.clusterEmax
  clusterNmin := t.clusterNmin
  prescaleXmin := t.prescaleXmin
  prescaleXmax := t.prescaleXmax
  prescale := t.prescale
  enableFlags := flagAt 31 t.en

theorem feeRegs_args (t : HpsFeeTrig) : feeRegs t = feeArgsRegs t.args := rfl

/-! ## What comes back -/

/-- Every value cut to its range, times to whole ticks; the factor is that of the
register. -/
def HpsPairArgs.legal (a : HpsPairArgs) : HpsPairArgs :=
  { a with
    clusterEmin := checkRange 0 8191 a.clusterEmin
    clusterEmax := checkRange 0 8191 a.clusterEmax
    clusterNmin := checkRange 0 9 a.clusterNmin
    pairDt := checkRange 0 15 (a.pairDt.sdiv 4#32) * 4#32
    pairEsumMin := checkRange 0 8191 a.pairEsumMin
    pairEsumMax := checkRange 0 16383 a.pairEsumMax
    pairEdiffMax := checkRange 0 8191 a.pairEdiffMax
    pairEdFactor := fpu.edFloat (fpu.edFactor a.pairEdFactor)
    pairEdThr := checkRange 0 8191 a.pairEdThr
    pairCoplanarityTol := checkRange 0 255 a.pairCoplanarityTol }

def HpsMultArgs.legal (a : HpsMultArgs) : HpsMultArgs :=
  { a with
    clusterEmin := checkRange 0 8191 a.clusterEmin
    clusterEmax := checkRange 0 8191 a.clusterEmax
    clusterNmin := checkRange 0 9 a.clusterNmin
    multDt := checkRange 0 15 (a.multDt.sdiv 4#32) * 4#32
    multTopMin := checkRange 0 15 a.multTopMin
    multBotMin := checkRange 0 15 a.multBotMin
    multTotMin := checkRange 0 15 a.multTotMin }

def HpsFeeArgs.legal (a : HpsFeeArgs) : HpsFeeArgs :=
  { a with
    clusterEmin := checkRange 0 8191 a.clusterEmin
    clusterEmax := checkRange 0 8191 a.clusterEmax
    clusterNmin := checkRange 0 9 a.clusterNmin
    prescaleXmin := fun k => checkRange (-31) 31 (a.prescaleXmin k)
    prescaleXmax := fun k => checkRange (-31) 31 (a.prescaleXmax k)
    prescale := fun k => checkRange 0 65535 (a.prescale k) }

theorem pairArgsOf_pairArgsRegs (a : HpsPairArgs) :
    pairArgsOf fpu (pairArgsRegs fpu a) = a.legal fpu := by
  let dt : BitField 32 × Word := (⟨16, 4, by decide⟩, checkRange 0 15 (a.pairDt.sdiv 4#32))
  have hctrl : (pairArgsRegs fpu a).ctrl = a.enableFlags ||| BitField.pack [dt] := by
    simp only [pairArgsRegs, BitField.pack, BitVec.or_zero, dt]
  have hbeside : ∀ p ∈ [dt], p.1.mask &&& pairFlagMask = 0#32 := by
    simp only [dt, List.forall_mem_cons]
    exact ⟨by decide, List.forall_mem_nil _⟩
  have hholds : ∀ p ∈ [dt], p.1.Holds p.2 := by
    simp only [dt, List.forall_mem_cons]
    exact ⟨holds_upTo _ 15 _ (by decide), List.forall_mem_nil _⟩
  -- the documented flags leave the field of the time free
  have hflags := BitField.flags_of_pack a.documented hbeside hholds
  have hdt := BitField.get_of_flags a.documented hbeside (List.pairwise_singleton _ dt) hholds dt
    List.mem_cons_self
  rw [← hctrl] at hflags hdt
  have hesum := pack_two (f := ⟨0, 14, by decide⟩) (g := ⟨16, 14, by decide⟩) (by decide) rfl
    (holds_upTo _ 8191 a.pairEsumMin (by decide))
    (holds_upTo _ 16383 a.pairEsumMax (by decide))
  have hemin := pack_two (f := ⟨0, 13, by decide⟩) (g := ⟨16, 13, by decide⟩) (by decide) rfl
    (holds_upTo _ 8191 a.clusterEmin (by decide))
    (holds_upTo _ 8191 a.clusterEmax (by decide))
  -- the factor comes out of the float unit as a byte, without a check of its range
  have hbyte : BitField.Holds ⟨0, 8, by decide⟩ ((fpu.edFactor a.pairEdFactor).setWidth 32) := by
    rw [BitField.holds_iff, BitVec.toNat_setWidth_of_le (by decide)]
    exact (fpu.edFactor a.pairEdFactor).isLt
  have hed := pack_two (f := ⟨0, 8, by decide⟩) (g := ⟨16, 13, by decide⟩) (by decide) rfl hbyte
    (holds_upTo _ 8191 a.pairEdThr (by decide))
  rw [HpsPairArgs.legal, pairArgsOf, HpsPairArgs.mk.injEq]
  exact ⟨hemin.1, hemin.2, rfl, congrArg (· * 4#32) hdt, hesum.1, hesum.2, rfl,
    congrArg fpu.edFloat (setWidth_byte _ _), hed.2, rfl, hflags⟩

theorem multArgsOf_multArgsRegs (a : HpsMultArgs) (g : HpsMultTriggerRegs) :
    multArgsOf (multArgsRegs a g) = a.legal := by
  let l : List (BitField 32 × Word) :=
    [(⟨12, 4, by decide⟩, checkRange 0 15 (a.multDt.sdiv 4#32)),
      (⟨8, 4, by decide⟩, checkRange 0 15 a.multTotMin),
      (⟨4, 4, by decide⟩, checkRange 0 15 a.multBotMin),
      (⟨0, 4, by decide⟩, checkRange 0 15 a.multTopMin)]
  have hword : (multArgsRegs a g).clusterMult = a.enableFlags ||| BitField.pack l := by
    simp only [multArgsRegs, BitField.pack, BitVec.or_zero, BitVec.or_assoc,
      BitVec.shiftLeft_zero, l]
  have hbeside : ∀ p ∈ l, p.1.mask &&& multFlagMask = 0#32 := by
    simp only [l, List.forall_mem_cons]
    exact ⟨by decide, by decide, by decide, by decide, List.forall_mem_nil _⟩
  have hholds : ∀ p ∈ l, p.1.Holds p.2 := by
    simp (disch := decide) [l, holds_checkRange]
  have hapart : l.Pairwise fun p q => p.1.Apart q.1 := by
    simp only [l, List.pairwise_cons, List.forall_mem_cons]
    decide
  have hflags := BitField.flags_of_pack a.documented hbeside hholds
  have hread := BitField.get_of_flags a.documented hbeside hapart hholds
  rw [← hword] at hflags hread
  simp only [l, List.forall_mem_cons] at hread
  obtain ⟨hdt, htot, hbot, htop, -⟩ := hread
  rw [HpsMultArgs.legal, multArgsOf, HpsMultArgs.mk.injEq]
  exact ⟨rfl, rfl, rfl, congrArg (· * 4#32) hdt, htop, hbot, htot, hflags⟩

theorem feeArgsOf_feeArgsRegs (a : HpsFeeArgs) : feeArgsOf (feeArgsRegs a) = a.legal := by
  rw [HpsFeeArgs.legal, feeArgsOf, HpsFeeArgs.mk.injEq]
  exact ⟨rfl, rfl, rfl, funext (feeXOf_feeXWord a.prescaleXmin),
    funext (feeXOf_feeXWord a.prescaleXmax), funext (feePrescaleOf_feePrescaleWord a.prescale), rfl⟩

/-! ## Round trips -/

variable (lib : VtpLib) (r : Regs)

theorem bind_onTypes {α : Type} (types : List Int) (set : Regs → Regs) (get : Regs → α) :
    (lib.onTypes types set r).bind (lib.onTypes types get) =
      if lib.accepts types then some (get (set r)) else none := by
  split
  · next haccepts =>
    rw [onTypes_accepted haccepts, Option.bind_some, onTypes_accepted haccepts]
  · next hrefuses => rw [onTypes_refused hrefuses, Option.bind_none]

theorem cluster_round_trip (c : HpsClusterConf) :
    (lib.vtpSetHPSCluster c.topNbottom c.hitDt c.seedThr r).bind lib.vtpGetHPSCluster =
      if lib.accepts [vtpFwTypeHps] then some c.quantised else none := by
  rw [vtpSetHPSCluster, vtpGetHPSCluster, bind_onTypes, ← hpsCluster_read c]
  rfl

theorem hodoscope_round_trip (c : HpsHodoscopeConf) :
    (lib.vtpSetHPSHodoscope c.hitDt c.fadchitThr c.hodoThr r).bind lib.vtpGetHPSHodoscope =
      if lib.accepts [vtpFwTypeHps] then some c.quantised else none := by
  rw [vtpSetHPSHodoscope, vtpGetHPSHodoscope, bind_onTypes, ← hpsHodoscope_read c]
  rfl

theorem pair_round_trip (inst : Word) (a : HpsPairArgs) :
    (lib.vtpSetHPSPairTriggerArgs fpu inst a r).bind (lib.vtpGetHPSPairTriggerArgs fpu inst) =
      if lib.accepts [vtpFwTypeHps] then some (a.legal fpu) else none := by
  rw [vtpSetHPSPairTriggerArgs, vtpGetHPSPairTriggerArgs, bind_onTypes]
  dsimp only
  rw [update_self, pairArgsOf_pairArgsRegs]

theorem mult_round_trip (inst : Word) (a : HpsMultArgs) :
    (lib.vtpSetHPSMultiplicityTriggerArgs inst a r).bind
        (lib.vtpGetHPSMultiplicityTriggerArgs inst) =
      if lib.accepts [vtpFwTypeHps] then some a.legal else none := by
  rw [vtpSetHPSMultiplicityTriggerArgs, vtpGetHPSMultiplicityTriggerArgs, bind_onTypes]
  dsimp only
  rw [update_self, multArgsOf_multArgsRegs]

theorem fee_round_trip (a : HpsFeeArgs) :
    (lib.vtpSetHPSFeeTriggerArgs a r).bind lib.vtpGetHPSFeeTriggerArgs =
      if lib.accepts [vtpFwTypeHps] then some a.legal else none := by
  rw [vtpSetHPSFeeTriggerArgs, vtpGetHPSFeeTriggerArgs, bind_onTypes, feeArgsOf_feeArgsRegs]

/-- Every parameter of every HPS call comes back cut to its range, and the flags as
they were: no value reaches the field of another. -/
theorem hpsTriggers_round_trip :
    (∀ c : HpsClusterConf,
      (lib.vtpSetHPSCluster c.topNbottom c.hitDt c.seedThr r).bind lib.vtpGetHPSCluster =
        if lib.accepts [vtpFwTypeHps] then some c.quantised else none) ∧
    (∀ c : HpsHodoscopeConf,
      (lib.vtpSetHPSHodoscope c.hitDt c.fadchitThr c.hodoThr r).bind lib.vtpGetHPSHodoscope =
        if lib.accepts [vtpFwTypeHps] then some c.quantised else none) ∧
    (∀ inst a, (lib.vtpSetHPSPairTriggerArgs fpu inst a r).bind
        (lib.vtpGetHPSPairTriggerArgs fpu inst) =
      if lib.accepts [vtpFwTypeHps] then some (a.legal fpu) else none) ∧
    (∀ inst a, (lib.vtpSetHPSMultiplicityTriggerArgs inst a r).bind
        (lib.vtpGetHPSMultiplicityTriggerArgs inst) =
      if lib.accepts [vtpFwTypeHps] then some a.legal else none) ∧
    ∀ a, (lib.vtpSetHPSFeeTriggerArgs a r).bind lib.vtpGetHPSFeeTriggerArgs =
      if lib.accepts [vtpFwTypeHps] then some a.legal else none :=
  ⟨cluster_round_trip lib r, hodoscope_round_trip lib r, pair_round_trip fpu lib r,
    mult_round_trip lib r, fee_round_trip lib r⟩

end

end VtpStreaming
