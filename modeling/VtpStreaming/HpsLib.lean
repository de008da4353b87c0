import VtpStreaming.TriggerLib

/-!
# The HPS part of the library

`vtp/vtpLib.c`, the functions between "HPS functions" and `vtpHPSPrintConfig`
that the configuration calls.
-/

namespace VtpStreaming

open Clib Function

namespace VtpLib

variable (lib : VtpLib) (fpu : FloatUnit)

/-! ## Clusters and hodoscope -/

def vtpSetHPSCluster (topNbottom hitDt seedThr : Word) : Regs → Option Regs :=
  lib.onTypes [vtpFwTypeHps] fun r =>
    { r with
      hpsCluster := (checkRange 0 1 topNbottom <<< 31) |||
        (checkRange 0 4 (hitDt.sdiv 4#32) <<< 16) ||| checkRange 1 8191 seedThr }

def vtpGetHPSCluster : Regs → Option HpsClusterConf := lib.onTypes [vtpFwTypeHps] fun r =>
  let val := r.hpsCluster
  { topNbottom := (val >>> 31) &&& 1#32
    hitDt := ((val >>> 16) &&& 7#32) * 4#32
    seedThr := val &&& 0x1fff#32 }

def vtpSetHPSHodoscope (hitWidth fadchitThr hodoThr : Word) : Regs → Option Regs :=
  lib.onTypes [vtpFwTypeHps] fun r =>
    { r with
      hpsHodoscope := (checkRange 0 15 (hitWidth.sdiv 4#32) <<< 26) |||
        (checkRange 1 8191 hodoThr <<< 13) ||| checkRange 1 8191 fadchitThr }

def vtpGetHPSHodoscope : Regs → Option HpsHodoscopeConf := lib.onTypes [vtpFwTypeHps] fun r =>
  let val := r.hpsHodoscope
  { hitDt := ((val >>> 26) &&& 0xf#32) * 4#32
    fadchitThr := val &&& 0x1fff#32
    hodoThr := (val >>> 13) &&& 0x1fff#32 }

/-! ## Enable flags

`vtpDownloadAll` packs the flags of a trigger into one word, bit by bit, and
`vtpUploadAll` takes them apart. -/

def flagAt (bit : Nat) (en : Word) : Word := if en = 0#32 then 0#32 else 1#32 <<< bit

def flagOf (bit : Nat) (flags : Word) : Word := if flags.getLsbD bit then 1#32 else 0#32

def singleFlags (t : HpsSingleTrig) : Word :=
  flagAt 0 t.clusterEminEn ||| flagAt 1 t.clusterEmaxEn ||| flagAt 2 t.clusterNminEn |||
    flagAt 3 t.clusterXminEn ||| flagAt 4 t.pdeEn ||| flagAt 5 t.hodoL1En ||| flagAt 6 t.hodoL2En |||
    flagAt 7 t.hodoL1l2GeomEn ||| flagAt 8 t.hodoL1l2xGeomEn ||| flagAt 31 t.en

def withSingleFlags (flags : Word) (t : HpsSingleTrig) : HpsSingleTrig :=
  { t with
    clusterEminEn := flagOf 0 flags
    clusterEmaxEn := flagOf 1 flags
    clusterNminEn := flagOf 2 flags
    clusterXminEn := flagOf 3 flags
    pdeEn := flagOf 4 flags
    hodoL1En := flagOf 5 flags
    hodoL2En := flagOf 6 flags
    hodoL1l2GeomEn := flagOf 7 flags
    hodoL1l2xGeomEn := flagOf 8 flags
    en := flagOf 31 flags }

def pairFlags (t : HpsPairTrig) : Word :=
  flagAt 0 t.pairEsumEn ||| flagAt 1 t.pairEdiffEn ||| flagAt 2 t.pairCoplanarityEn |||
    flagAt 3 t.pairEdEn ||| flagAt 4 t.hodoL1En ||| flagAt 5 t.hodoL2En |||
    flagAt 6 t.hodoL1l2GeomEn ||| flagAt 7 t.hodoL1l2xGeomEn ||| flagAt 31 t.en

def withPairFlags (flags : Word) (t : HpsPairTrig) : HpsPairTrig :=
  { t with
    pairEsumEn := flagOf 0 flags
    pairEdiffEn := flagOf 1 flags
    pairCoplanarityEn := flagOf 2 flags
    pairEdEn := flagOf 3 flags
    hodoL1En := flagOf 4 flags
    hodoL2En := flagOf 5 flags
    hodoL1l2GeomEn := flagOf 6 flags
    hodoL1l2xGeomEn := flagOf 7 flags
    en := flagOf 31 flags }

/-! ## Single trigger -/

/-- The low bits of the word, with bit 5 as the sign. -/
def signExtend6 (v : Word) : Word :=
  (v &&& 0x3f#32) ||| (if v.getLsbD 5 then 0xffffffc0#32 else 0#32)

def singleRegs (t : HpsSingleTrig) : HpsSingleTriggerRegs where
  ctrl := singleFlags t
  clusterEmin := checkRange 0 8191 t.clusterEmin
  clusterEmax := checkRange 0 8191 t.clusterEmax
  clusterNmin := checkRange 0 9 t.clusterNmin
  clusterXmin := checkRange (-31) 31 t.clusterXmin
  clusterPdeC := fun i => fpu.pdeC (t.pdeC i)

/-- What is read, over the fields that the getter leaves. -/
def singleOf (g : HpsSingleTriggerRegs) (t : HpsSingleTrig) : HpsSingleTrig :=
  withSingleFlags g.ctrl
    { t with
      clusterEmin := g.clusterEmin
      clusterEmax := g.clusterEmax
      clusterNmin := g.clusterNmin
      clusterXmin := g.clusterXmin
      pdeC := fun i => fpu.pdeFloat (g.clusterPdeC i) }

/-- The same, with the coordinate extended from bit 5 as its sign. -/
def singleTopOf (g : HpsSingleTriggerRegs) (t : HpsSingleTrig) : HpsSingleTrig :=
  { singleOf fpu g t with
    clusterXmin := g.clusterXmin ||| (if g.clusterXmin.getLsbD 5 then 0xffffffc0#32 else 0#32) }

/-- `top_nbottom` says which of the two is written. The range check of the
coefficients also cuts those of the caller, which are read back later. -/
def vtpSetHPSSingleTrigger (inst : Fin 4) (topNbottom : Bool) (t : HpsSingleTrig) :
    Regs → Option Regs :=
  lib.onTypes [vtpFwTypeHps] fun r =>
    if topNbottom then
      { r with hpsSingleTriggerTop := update r.hpsSingleTriggerTop inst (singleRegs fpu t) }
    else { r with hpsSingleTriggerBot := update r.hpsSingleTriggerBot inst (singleRegs fpu t) }

/-- Only the coordinate of the top half is extended. -/
def vtpGetHPSSingleTrigger (inst : Fin 4) (topNbottom : Bool) (t : HpsSingleTrig) :
    Regs → Option HpsSingleTrig :=
  lib.onTypes [vtpFwTypeHps] fun r =>
    if topNbottom then singleTopOf fpu (r.hpsSingleTriggerTop inst) t
    else singleOf fpu (r.hpsSingleTriggerBot inst) t

/-! ## Pair trigger -/

def pairRegs (t : HpsPairTrig) : HpsPairTriggerRegs where
  ctrl := pairFlags t ||| (checkRange 0 15 (t.pairDt.sdiv 4#32) <<< 16)
  pairEsum := (checkRange 0 16383 t.pairEsumMax <<< 16) ||| checkRange 0 8191 t.pairEsumMin
  pairEdiff := checkRange 0 8191 t.pairEdiffMax
  clusterEminmax := (checkRange 0 8191 t.clusterEmax <<< 16) ||| checkRange 0 8191 t.clusterEmin
  clusterNmin := checkRange 0 9 t.clusterNmin
  pairCoplanarTol := checkRange 0 255 t.pairCoplanarityTol
  pairEd := (checkRange 0 8191 t.pairEdThr <<< 16) ||| (fpu.edFactor t.pairEdFactor).setWidth 32

def pairOf (g : HpsPairTriggerRegs) (t : HpsPairTrig) : HpsPairTrig :=
  withPairFlags (g.ctrl &&& 0x8000ffff#32)
    { t with
      pairDt := ((g.ctrl >>> 16) &&& 0xf#32) * 4#32
      pairEsumMin := g.pairEsum &&& 0x3fff#32
      pairEsumMax := (g.pairEsum >>> 16) &&& 0x3fff#32
      pairEdiffMax := g.pairEdiff
      clusterEmax := (g.clusterEminmax >>> 16) &&& 0x1fff#32
      clusterEmin := g.clusterEminmax &&& 0x1fff#32
      clusterNmin := g.clusterNmin
      pairCoplanarityTol := g.pairCoplanarTol
      pairEdThr := (g.pairEd >>> 16) &&& 0x1fff#32
      pairEdFactor := fpu.edFloat (g.pairEd.setWidth 8) }

def vtpSetHPSPairTrigger (inst : Fin 4) (t : HpsPairTrig) : Regs → Option Regs :=
  lib.onTypes [vtpFwTypeHps] fun r =>
    { r with hpsPairTrigger := update r.hpsPairTrigger inst (pairRegs fpu t) }

def vtpGetHPSPairTrigger (inst : Fin 4) (t : HpsPairTrig) : Regs → Option HpsPairTrig :=
  lib.onTypes [vtpFwTypeHps] fun r => pairOf fpu (r.hpsPairTrigger inst) t

/-! ## Multiplicity trigger -/

/-- The latency is not a parameter of the call. -/
def multRegs (t : HpsMultTrig) (g : HpsMultTriggerRegs) : HpsMultTriggerRegs :=
  { g with
    clusterEmin := checkRange 0 8191 t.clusterEmin
    clusterEmax := checkRange 0 8191 t.clusterEmax
    clusterNmin := checkRange 0 9 t.clusterNmin
    clusterMult := flagAt 31 t.en ||| (checkRange 0 15 (t.multDt.sdiv 4#32) <<< 12) |||
      (checkRange 0 15 t.multTotMin <<< 8) ||| (checkRange 0 15 t.multBotMin <<< 4) |||
      checkRange 0 15 t.multTopMin }

def multOf (g : HpsMultTriggerRegs) : HpsMultTrig where
  clusterEmin := g.clusterEmin
  clusterEmax := g.clusterEmax
  clusterNmin := g.clusterNmin
  multDt := ((g.clusterMult >>> 12) &&& 0xf#32) * 4#32
  multTotMin := (g.clusterMult >>> 8) &&& 0xf#32
  multBotMin := (g.clusterMult >>> 4) &&& 0xf#32
  multTopMin := g.clusterMult &&& 0xf#32
  en := flagOf 31 g.clusterMult

def vtpSetHPSMultiplicityTrigger (inst : Fin 2) (t : HpsMultTrig) : Regs → Option Regs :=
  lib.onTypes [vtpFwTypeHps] fun r =>
    { r with
      hpsMultiplicityTrigger := update r.hpsMultiplicityTrigger inst
        (multRegs t (r.hpsMultiplicityTrigger inst)) }

def vtpGetHPSMultiplicityTrigger (inst : Fin 2) : Regs → Option HpsMultTrig :=
  lib.onTypes [vtpFwTypeHps] fun r => multOf (r.hpsMultiplicityTrigger inst)

/-! ## FEE trigger -/

/-- Five fields of six bits in the first word and two in the second. -/
def feeXWord (x : Fin 7 → Word) : Fin 2 → Word :=
  let six (k : Fin 7) : Word := checkRange (-31) 31 (x k) &&& 0x3f#32
  ![six 0 ||| (six 1 <<< 6) ||| (six 2 <<< 12) ||| (six 3 <<< 18) ||| (six 4 <<< 24),
    six 5 ||| (six 6 <<< 6)]

def feeXOf (reg : Fin 2 → Word) (k : Fin 7) : Word :=
  if k.val < 5 then signExtend6 (reg 0 >>> (6 * k.val))
  else signExtend6 (reg 1 >>> (6 * (k.val - 5)))

/-- Two factors of 16 bits to a word. -/
def feePrescaleWord (p : Fin 7 → Word) : Fin 4 → Word :=
  let half (k : Fin 7) : Word := checkRange 0 65535 (p k)
  ![half 0 ||| (half 1 <<< 16), half 2 ||| (half 3 <<< 16), half 4 ||| (half 5 <<< 16), half 6]

def feePrescaleOf (reg : Fin 4 → Word) (k : Fin 7) : Word :=
  let val := reg ⟨k.val / 2, by omega⟩
  if k.val % 2 = 0 then val &&& 0xffff#32 else (val >>> 16) &&& 0xffff#32

def feeRegs (t : HpsFeeTrig) : HpsFeeTriggerRegs where
  ctrl := flagAt 31 t.en
  clusterEmin := checkRange 0 8191 t.clusterEmin
  clusterEmax := checkRange 0 8191 t.clusterEmax
  clusterNmin := checkRange 0 9 t.clusterNmin
  prescaleXmin := feeXWord t.prescaleXmin
  prescaleXmax := feeXWord t.prescaleXmax
  prescale := feePrescaleWord t.prescale

def feeOf (g : HpsFeeTriggerRegs) : HpsFeeTrig where
  clusterEmin := g.clusterEmin
  clusterEmax := g.clusterEmax
  clusterNmin := g.clusterNmin
  prescaleXmin := feeXOf g.prescaleXmin
  prescaleXmax := feeXOf g.prescaleXmax
  prescale := feePrescaleOf g.prescale
  en := flagOf 31 g.ctrl

/-- The range checks also cut the arrays of the caller, which are read back later. -/
def vtpSetHPSFeeTrigger (t : HpsFeeTrig) : Regs → Option Regs :=
  lib.onTypes [vtpFwTypeHps] fun r =>
    { r with hpsFeeTriggerTop := feeRegs t, hpsFeeTriggerBot := feeRegs t }

def vtpGetHPSFeeTrigger : Regs → Option HpsFeeTrig :=
  lib.onTypes [vtpFwTypeHps] fun r => feeOf r.hpsFeeTriggerTop

end VtpLib

end VtpStreaming
