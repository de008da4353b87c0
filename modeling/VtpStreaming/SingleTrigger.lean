import VtpStreaming.DownloadExact
import VtpStreaming.HpsTriggers

/-!
# The two halves of the single trigger

`vtp/vtpLib.c`, `vtpSetHPS_SingleTrigger` and `vtpGetHPS_SingleTrigger`, on a board
whose coordinate register keeps some of its low bits, six at least. Only the branch of
the top half extends the sign of what it reads, and `vtpUploadAll` reads the other.
-/

namespace VtpStreaming

open Clib Function

/-! ## The calls -/

/-- The arguments of a single trigger. -/
structure HpsSingleArgs where
  clusterEmin : Word
  clusterEmax : Word
  clusterNmin : Word
  clusterXmin : Word
  clusterPdeC : Fin 4 → FloatText
  enableFlags : Word

/-- A half of the block, for `if(top_nbottom)`. -/
inductive Half
  | bottom
  | top
deriving DecidableEq

def Half.of (topNbottom : Word) : Half := if topNbottom = 0#32 then .bottom else .top

section

variable (fpu : FloatUnit)

def singleArgsRegs (a : HpsSingleArgs) : HpsSingleTriggerRegs where
  ctrl := a.enableFlags
  clusterEmin := checkRange 0 8191 a.clusterEmin
  clusterEmax := checkRange 0 8191 a.clusterEmax
  clusterNmin := checkRange 0 9 a.clusterNmin
  clusterXmin := checkRange (-31) 31 a.clusterXmin
  clusterPdeC := fun i => fpu.pdeC (a.clusterPdeC i)

/-- The coordinate with bit 5 as its sign. -/
def extendXmin (xmin : Word) : Word := xmin ||| (if xmin.getLsbD 5 then 0xffffffc0#32 else 0#32)

def singleArgsOf (half : Half) (g : HpsSingleTriggerRegs) : HpsSingleArgs where
  clusterEmin := g.clusterEmin
  clusterEmax := g.clusterEmax
  clusterNmin := g.clusterNmin
  clusterXmin :=
    match half with
    | .top => extendXmin g.clusterXmin
    | .bottom => g.clusterXmin
  clusterPdeC := fun i => fpu.pdeFloat (g.clusterPdeC i)
  enableFlags := g.ctrl

namespace VtpLib

variable (lib : VtpLib)

/-- The half is checked before it is chosen. -/
def vtpSetHPSSingleTriggerArgs (inst topNbottom : Word) (a : HpsSingleArgs) :
    Regs → Option Regs :=
  lib.onTypes [vtpFwTypeHps] fun r =>
    let inst := instOf 3 (by decide) inst
    match Half.of (checkRange 0 1 topNbottom) with
    | .top =>
        { r with
          hpsSingleTriggerTop := update r.hpsSingleTriggerTop inst (singleArgsRegs fpu a) }
    | .bottom =>
        { r with
          hpsSingleTriggerBot := update r.hpsSingleTriggerBot inst (singleArgsRegs fpu a) }

def vtpGetHPSSingleTriggerArgs (inst topNbottom : Word) : Regs → Option HpsSingleArgs :=
  lib.onTypes [vtpFwTypeHps] fun r =>
    let inst := instOf 3 (by decide) inst
    match Half.of topNbottom with
    | .top => singleArgsOf fpu .top (r.hpsSingleTriggerTop inst)
    | .bottom => singleArgsOf fpu .bottom (r.hpsSingleTriggerBot inst)

end VtpLib

end

/-! ## The register of the coordinate -/

/-- How many low bits the board keeps of a coordinate. -/
structure XminWidth where
  bits : Nat
  six : 6 ≤ bits
  fits : bits ≤ 32

namespace XminWidth

variable (w : XminWidth)

def field : BitField 32 := ⟨0, w.bits, by have hfits := w.fits; omega⟩

def kept (xmin : Word) : Word := xmin &&& w.field.low

/-- A board that keeps as much of every coordinate. -/
def board (r : Regs) : Regs :=
  { r with
    hpsSingleTriggerTop := fun i =>
      { r.hpsSingleTriggerTop i with clusterXmin := w.kept (r.hpsSingleTriggerTop i).clusterXmin }
    hpsSingleTriggerBot := fun i =>
      { r.hpsSingleTriggerBot i with clusterXmin := w.kept (r.hpsSingleTriggerBot i).clusterXmin } }

end XminWidth

/-- A coordinate that the setter leaves as it is. -/
def IsXmin (xmin : Word) : Prop := -31 ≤ xmin.toInt ∧ xmin.toInt ≤ 31

/-! ## What is expected -/

section

variable (lib : VtpLib) (fpu : FloatUnit) (w : XminWidth) (inst : Word) (r : Regs)

/-- The half that the registers of the instance belong to makes no difference. -/
def HalvesAgree : Prop :=
  r.hpsSingleTriggerTop (instOf 3 (by decide) inst) =
      r.hpsSingleTriggerBot (instOf 3 (by decide) inst) →
    lib.vtpGetHPSSingleTriggerArgs fpu inst 1#32 (w.board r) =
      lib.vtpGetHPSSingleTriggerArgs fpu inst 0#32 (w.board r)

/-- Each half returns the coordinate that was set. -/
def XminReturned (a : HpsSingleArgs) : Prop :=
  lib.accepts [vtpFwTypeHps] → IsXmin a.clusterXmin → ∀ topNbottom ∈ [0#32, 1#32],
    ((lib.vtpSetHPSSingleTriggerArgs fpu inst topNbottom a r).bind fun r' =>
        lib.vtpGetHPSSingleTriggerArgs fpu inst topNbottom (w.board r')).map (·.clusterXmin) =
      some a.clusterXmin

/-- `vtpUploadAll` reports the coordinates that `vtpDownloadAll` was given. -/
def XminReported (conf conf' : VtpConf) (stack : Word) : Prop :=
  (r.fwType 0).toInt = vtpFwTypeHps → ∀ i, IsXmin (conf.hps.singleTrig i).clusterXmin →
    ((vtpUploadAll (VtpLib.ofRegs r) fpu
        (w.board (vtpDownloadAll (VtpLib.ofRegs r) fpu conf stack r).2) stack conf').hps.singleTrig
          i).clusterXmin =
      (conf.hps.singleTrig i).clusterXmin

end

/-! ## Coordinates of six bits and more -/

section

variable {w : XminWidth} {xmin : Word}

theorem extendXmin_eq_iff : extendXmin xmin = xmin ↔
    (xmin.getLsbD 5 = true → 0xffffffc0#32 &&& xmin = 0xffffffc0#32) := by
  unfold extendXmin
  rw [BitField.or_eq_left_iff]
  split
  · next hsign => exact ⟨fun h _ => h, fun h => h hsign⟩
  · next hsign =>
    exact iff_of_true BitVec.zero_and (fun h => absurd h hsign)

theorem isXmin_cases (h : IsXmin xmin) :
    0 ≤ xmin.toInt ∧ xmin &&& 0x1f#32 = xmin ∧ xmin.getLsbD 5 = false ∨
      xmin.toInt < 0 ∧ xmin.getLsbD 5 = true ∧ 0xffffffc0#32 &&& xmin = 0xffffffc0#32 := by
  have hall : ∀ k : Fin 63, let x := BitVec.ofInt 32 (k.val - 31)
      0 ≤ x.toInt ∧ x &&& 0x1f#32 = x ∧ x.getLsbD 5 = false ∨
        x.toInt < 0 ∧ x.getLsbD 5 = true ∧ 0xffffffc0#32 &&& x = 0xffffffc0#32 := by
    decide
  obtain ⟨hlo, hhi⟩ := h
  have hk := hall ⟨(xmin.toInt + 31).toNat, by omega⟩
  have hx : BitVec.ofInt 32 (((xmin.toInt + 31).toNat : Int) - 31) = xmin := by
    rw [Int.toNat_of_nonneg (by omega), Int.add_sub_cancel, BitVec.ofInt_toInt]
  simpa only [hx] using hk

theorem getLsbD_kept (i : Nat) :
    (w.kept xmin).getLsbD i = (xmin.getLsbD i && decide (i < w.bits)) := by
  rw [XminWidth.kept, BitVec.getLsbD_and, BitField.getLsbD_low]
  rfl

theorem kept_sign : (w.kept xmin).getLsbD 5 = xmin.getLsbD 5 := by
  have hsix := w.six
  rw [getLsbD_kept, decide_eq_true (by omega), Bool.and_true]

theorem kept_of_small (h : xmin &&& 0x1f#32 = xmin) : w.kept xmin = xmin := by
  have hsix := w.six
  apply BitVec.eq_of_getLsbD_eq
  intro i hi
  rw [getLsbD_kept]
  by_cases hbits : i < w.bits
  · rw [decide_eq_true hbits, Bool.and_true]
  · have hhigh : (0x1f#32 : Word).getLsbD i = false := by
      rw [show (0x1f#32 : Word) = (⟨0, 5, by decide⟩ : BitField 32).low from rfl,
        BitField.getLsbD_low]
      exact decide_eq_false (by dsimp only; omega)
    have hclear : xmin.getLsbD i = false := by
      rw [← h, BitVec.getLsbD_and, hhigh, Bool.and_false]
    rw [hclear, Bool.false_and]

/-- The bits above the sixth are those of the mask. -/
theorem getLsbD_high {i : Nat} (hi : i < 32) (hsix : 6 ≤ i) :
    (0xffffffc0#32 : Word).getLsbD i = true := by
  have hall : ∀ i : Fin 32, 6 ≤ i.val → (0xffffffc0#32 : Word).getLsbD i = true := by decide
  exact hall ⟨i, hi⟩ hsix

theorem getLsbD_of_negative (h : 0xffffffc0#32 &&& xmin = 0xffffffc0#32) {i : Nat} (hi : i < 32)
    (hsix : 6 ≤ i) : xmin.getLsbD i = true := by
  have hbit := congrArg (fun v : Word => v.getLsbD i) h
  simp only [BitVec.getLsbD_and, getLsbD_high hi hsix, Bool.true_and] at hbit
  exact hbit

theorem kept_eq_iff (h : IsXmin xmin) : w.kept xmin = xmin ↔ 0 ≤ xmin.toInt ∨ w.bits = 32 := by
  have hfits := w.fits
  rcases isXmin_cases h with ⟨hsign, hsmall, -⟩ | ⟨hsign, -, hhigh⟩
  · exact iff_of_true (kept_of_small hsmall) (Or.inl hsign)
  · constructor
    · intro hkept
      have htop := getLsbD_of_negative hhigh (i := 31) (by decide) (by decide)
      rw [← hkept, getLsbD_kept, Bool.and_eq_true, decide_eq_true_iff] at htop
      right
      omega
    · rintro (hpos | hall)
      · omega
      · apply BitVec.eq_of_getLsbD_eq
        intro i hi
        rw [getLsbD_kept, decide_eq_true (by omega), Bool.and_true]

/-- The top half finds every coordinate again. -/
theorem extendXmin_kept (h : IsXmin xmin) : extendXmin (w.kept xmin) = xmin := by
  have hsix := w.six
  unfold extendXmin
  rw [kept_sign]
  rcases isXmin_cases h with ⟨-, hsmall, hbit⟩ | ⟨-, hbit, hhigh⟩
  · rw [kept_of_small hsmall, hbit, if_neg Bool.false_ne_true, BitVec.or_zero]
  · rw [hbit, if_pos rfl]
    apply BitVec.eq_of_getLsbD_eq
    intro i hi
    rw [BitVec.getLsbD_or, getLsbD_kept]
    by_cases hlow : i < 6
    · have hclear : (0xffffffc0#32 : Word).getLsbD i = false := by
        have hall : ∀ i : Fin 6, (0xffffffc0#32 : Word).getLsbD i = false := by decide
        exact hall ⟨i, hlow⟩
      rw [hclear, Bool.or_false, decide_eq_true (by omega), Bool.and_true]
    · rw [getLsbD_high hi (by omega), Bool.or_true, getLsbD_of_negative hhigh hi (by omega)]

theorem checkRange_of_isXmin (h : IsXmin xmin) : checkRange (-31) 31 xmin = xmin :=
  checkRange_of_mem h

end

/-! ## The two halves -/

section

open VtpLib

variable (lib : VtpLib) (fpu : FloatUnit) (w : XminWidth) (inst : Word) (r : Regs)

/-- What the register of the bottom half keeps. -/
def keptXmin : Word := w.kept (r.hpsSingleTriggerBot (instOf 3 (by decide) inst)).clusterXmin

section

variable {lib} (h : lib.accepts [vtpFwTypeHps] = true)

include h

theorem getTop_eq : lib.vtpGetHPSSingleTriggerArgs fpu inst 1#32 r =
    some (singleArgsOf fpu .top (r.hpsSingleTriggerTop (instOf 3 (by decide) inst))) := by
  rw [vtpGetHPSSingleTriggerArgs, onTypes_accepted h]
  rfl

theorem getBottom_eq : lib.vtpGetHPSSingleTriggerArgs fpu inst 0#32 r =
    some (singleArgsOf fpu .bottom (r.hpsSingleTriggerBot (instOf 3 (by decide) inst))) := by
  rw [vtpGetHPSSingleTriggerArgs, onTypes_accepted h]
  rfl

theorem setTop_eq (a : HpsSingleArgs) : lib.vtpSetHPSSingleTriggerArgs fpu inst 1#32 a r =
    some
      { r with
        hpsSingleTriggerTop :=
          update r.hpsSingleTriggerTop (instOf 3 (by decide) inst) (singleArgsRegs fpu a) } := by
  rw [vtpSetHPSSingleTriggerArgs, onTypes_accepted h]
  rfl

theorem setBottom_eq (a : HpsSingleArgs) : lib.vtpSetHPSSingleTriggerArgs fpu inst 0#32 a r =
    some
      { r with
        hpsSingleTriggerBot :=
          update r.hpsSingleTriggerBot (instOf 3 (by decide) inst) (singleArgsRegs fpu a) } := by
  rw [vtpSetHPSSingleTriggerArgs, onTypes_accepted h]
  rfl

end

/-- The halves agree if and only if extending the sign changes nothing. -/
theorem halvesAgree_iff : HalvesAgree lib fpu w inst r ↔
    (lib.accepts [vtpFwTypeHps] = true →
      r.hpsSingleTriggerTop (instOf 3 (by decide) inst) =
        r.hpsSingleTriggerBot (instOf 3 (by decide) inst) →
      (keptXmin w inst r).getLsbD 5 = true →
        0xffffffc0#32 &&& keptXmin w inst r = 0xffffffc0#32) := by
  unfold HalvesAgree
  cases haccepts : lib.accepts [vtpFwTypeHps] with
  | false =>
    have hrefuses : ¬ lib.accepts [vtpFwTypeHps] = true := Bool.eq_false_iff.mp haccepts
    rw [vtpGetHPSSingleTriggerArgs, vtpGetHPSSingleTriggerArgs, onTypes_refused hrefuses,
      onTypes_refused hrefuses]
    exact iff_of_true (fun _ => rfl) (fun h => absurd h Bool.false_ne_true)
  | true =>
    rw [getTop_eq fpu inst _ haccepts, getBottom_eq fpu inst _ haccepts, forall_prop_of_true rfl]
    refine imp_congr_right fun hequal => ?_
    rw [← extendXmin_eq_iff]
    simp only [XminWidth.board, singleArgsOf, hequal, Option.some.injEq, HpsSingleArgs.mk.injEq,
      true_and, and_true, keptXmin]

/-- What each half returns of a coordinate that was set. -/
theorem xminReturned_iff (a : HpsSingleArgs) : XminReturned lib fpu w inst r a ↔
    (lib.accepts [vtpFwTypeHps] = true → IsXmin a.clusterXmin →
      0 ≤ a.clusterXmin.toInt ∨ w.bits = 32) := by
  unfold XminReturned
  refine imp_congr_right fun haccepts => imp_congr_right fun hxmin => ?_
  rw [List.forall_mem_cons, List.forall_mem_singleton]
  rw [setTop_eq fpu inst r haccepts, setBottom_eq fpu inst r haccepts, Option.bind_some,
    Option.bind_some, getTop_eq fpu inst _ haccepts, getBottom_eq fpu inst _ haccepts]
  simp only [XminWidth.board, update_self, singleArgsOf, singleArgsRegs, Option.map_some,
    Option.some.injEq, checkRange_of_isXmin hxmin, extendXmin_kept hxmin, and_true]
  exact kept_eq_iff hxmin

end

/-! ## What is reported -/

section

open VtpLib

variable {fpu : FloatUnit} {w : XminWidth} {r : Regs} {conf conf' : VtpConf} {stack : Word}

theorem uploaded_xmin (htype : (r.fwType 0).toInt = vtpFwTypeHps) (i : Fin 4) :
    ((vtpUploadAll (VtpLib.ofRegs r) fpu
        (w.board (vtpDownloadAll (VtpLib.ofRegs r) fpu conf stack r).2) stack conf').hps.singleTrig
          i).clusterXmin =
      w.kept (checkRange (-31) 31 (conf.hps.singleTrig i).clusterXmin) := by
  have hruns : (VtpLib.ofRegs r).Runs vtpFwTypeHps := ⟨rfl, htype⟩
  have hregs : (vtpDownloadAll (VtpLib.ofRegs r) fpu conf stack r).2 =
      hpsRegs fpu conf.hps (downloadCommon (VtpLib.ofRegs r)
        (uploadFirmware (VtpLib.ofRegs r) r conf) r) := by
    rw [download_regs hruns htype]
    exact (downloadHps_eq fpu _ _ hruns).trans (by rw [uploadFirmware_eq r conf hruns])
  have hread (q : Regs) (hq : q.fwType = r.fwType) :
      ((vtpUploadAll (VtpLib.ofRegs r) fpu q stack conf').hps.singleTrig i).clusterXmin =
        (q.hpsSingleTriggerBot i).clusterXmin := by
    have htype' : (q.fwType 0).toInt = vtpFwTypeHps := by rw [hq, htype]
    rw [vtpUploadAll_block hruns htype' (uploadHps (VtpLib.ofRegs r) fpu q) rfl,
      uploadHps_eq fpu q _ hruns]
    rfl
  rw [hregs]
  exact hread _ (downloadCommon_fwType hruns)

theorem xminReported_iff : XminReported fpu w r conf conf' stack ↔
    ((r.fwType 0).toInt = vtpFwTypeHps → ∀ i, IsXmin (conf.hps.singleTrig i).clusterXmin →
      0 ≤ (conf.hps.singleTrig i).clusterXmin.toInt ∨ w.bits = 32) := by
  unfold XminReported
  refine imp_congr_right fun htype => forall_congr' fun i => imp_congr_right fun hxmin => ?_
  rw [uploaded_xmin htype i, checkRange_of_isXmin hxmin, kept_eq_iff hxmin]

/-- The halves agree, and a coordinate is returned by both and reported, if and only if
the bottom half gets along without the sign. -/
theorem singleTrigger_spec (lib : VtpLib) (fpu : FloatUnit) (w : XminWidth) (inst : Word)
    (r : Regs) (a : HpsSingleArgs) (conf conf' : VtpConf) (stack : Word) :
    (HalvesAgree lib fpu w inst r ↔
      (lib.accepts [vtpFwTypeHps] = true →
        r.hpsSingleTriggerTop (instOf 3 (by decide) inst) =
          r.hpsSingleTriggerBot (instOf 3 (by decide) inst) →
        (keptXmin w inst r).getLsbD 5 = true →
          0xffffffc0#32 &&& keptXmin w inst r = 0xffffffc0#32)) ∧
    (XminReturned lib fpu w inst r a ↔
      (lib.accepts [vtpFwTypeHps] = true → IsXmin a.clusterXmin →
        0 ≤ a.clusterXmin.toInt ∨ w.bits = 32)) ∧
    (XminReported fpu w r conf conf' stack ↔
      ((r.fwType 0).toInt = vtpFwTypeHps → ∀ i, IsXmin (conf.hps.singleTrig i).clusterXmin →
        0 ≤ (conf.hps.singleTrig i).clusterXmin.toInt ∨ w.bits = 32)) :=
  ⟨halvesAgree_iff lib fpu w inst r, xminReturned_iff lib fpu w inst r a, xminReported_iff⟩

/-- A board of six bits, set to -1: the bottom half returns 63. -/
theorem singleTrigger_bottom_unsigned :
    ∃ lib fpu w inst r a, ¬ HalvesAgree lib fpu w inst r ∧ ¬ XminReturned lib fpu w inst r a := by
  refine ⟨⟨true, fun _ => vtpFwTypeHps⟩, .zeros, ⟨6, by decide, by decide⟩, 0#32,
    { (default : Regs) with
      hpsSingleTriggerTop := fun _ => { (default : HpsSingleTriggerRegs) with clusterXmin := -1 }
      hpsSingleTriggerBot := fun _ => { (default : HpsSingleTriggerRegs) with clusterXmin := -1 } },
    ⟨0#32, 0#32, 0#32, -1#32, fun _ => [], 0#32⟩, ?_, ?_⟩
  · rw [halvesAgree_iff]
    intro hagree
    exact absurd (hagree rfl rfl (by decide)) (by decide)
  · rw [xminReturned_iff]
    intro hreturned
    exact absurd (hreturned rfl ⟨by decide, by decide⟩) (by decide)

end

end VtpStreaming
