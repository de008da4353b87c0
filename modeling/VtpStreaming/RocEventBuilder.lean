import Mathlib.Data.Fin.VecNotation
import Mathlib.Tactic.FinCases
import VtpStreaming.Clib.Latest
import VtpStreaming.StreamingLib
import VtpStreaming.TriggerLib

/-!
# The event builder of the readout controller

`vtp/vtpRocLib.c`, `vtpRocEbReset`, `vtpRocEbStart`, `vtpRocEbStop`, `vtpRocEbInit`,
`vtpRocEbConfig` and `vtpRocEbSetBlockLevel`, in any order.

The bank tags and the payload ports are set only while the builder is stopped, and the
block level at any time.
-/

namespace VtpStreaming

open Clib VtpLib

/-! ## The code -/

/-- `ROC_EB_REGS`. -/
structure RocEbRegs where
  ctrl : Word
  evioCfg : Fin 3 → Word
  ppCfg : Fin 16 → Word

/-- The registers of the event builder, and the others. -/
structure EbBoard where
  regs : Regs
  rocEB : RocEbRegs

/-- One word of `evio_cfg`, with the default tag for 0. -/
def evioCfgOf (bank dflt : Word) : Word :=
  if bank ≠ 0#32 then 0x010000#32 ||| (bank &&& 0xffff#32) else dflt

def blockLevelValid (blocklevel : Word) : Bool := 0 < blocklevel.toInt && blocklevel.toInt < 255

/-- The level in front of the tag. -/
def withBlockLevel (blocklevel : Word) (eb : RocEbRegs) : RocEbRegs :=
  { eb with evioCfg := fun i => (blocklevel <<< 16) ||| (eb.evioCfg i &&& 0xffff#32) }

namespace VtpLib

variable (lib : VtpLib)

/-- A call for the firmware of the readout controller. -/
def onRocEb (f : EbBoard → Int × EbBoard) (b : EbBoard) : Int × EbBoard :=
  if lib.ready vtpFwTypeVcodaroc 0 then f b else (error, b)

def vtpRocEbReset : EbBoard → Int × EbBoard := lib.onRocEb fun b =>
  (ok, { b with rocEB.ctrl := 1#32 })

def vtpRocEbStart : EbBoard → Int × EbBoard := lib.onRocEb fun b =>
  (ok, { b with rocEB.ctrl := 2#32 })

/-- The reset bit is set and not cleared. -/
def vtpRocEbStop : EbBoard → Int × EbBoard := lib.onRocEb fun b =>
  (ok, { b with rocEB.ctrl := 1#32 })

def vtpRocEbInit (bank0 bank1 bank2 : Word) : EbBoard → Int × EbBoard := lib.onRocEb fun b =>
  if b.rocEB.ctrl &&& 1#32 = 0#32 then (error, b)
  else
    (ok, { b with
      rocEB.evioCfg :=
        ![evioCfgOf bank0 0x010001#32, evioCfgOf bank1 0x010002#32, evioCfgOf bank2 0x010003#32]
      rocEB.ppCfg := fun _ => 0#32 })

/-- A level out of range is left out without an error. -/
def vtpRocEbConfig (ppInfo : PpInfo) (blocklevel : Word) : EbBoard → Int × EbBoard :=
  lib.onRocEb fun b =>
    if b.rocEB.ctrl &&& 1#32 = 0#32 then (error, b)
    else
      let ppCfg := fun ii =>
        if (ppInfo ii).moduleId = 0#32 then b.rocEB.ppCfg ii else (ppInfo ii).bankInfo
      let ppmask := configuredMask ppInfo
      let eb := { b.rocEB with ppCfg := ppCfg }
      (ppmask.toInt,
        { regs := call (lib.vtpEnableTriggerPayloadMask ppmask) b.regs
          rocEB := if blockLevelValid blocklevel then withBlockLevel blocklevel eb else eb })

def vtpRocEbSetBlockLevel (blocklevel : Word) : EbBoard → Int × EbBoard := lib.onRocEb fun b =>
  if blockLevelValid blocklevel then (ok, { b with rocEB := withBlockLevel blocklevel b.rocEB })
  else (error, b)

end VtpLib

/-! ## Runs of calls -/

inductive EbCall
  | reset
  | start
  | stop
  | init (bank0 bank1 bank2 : Word)
  | config (ppInfo : PpInfo) (blocklevel : Word)
  | setBlockLevel (blocklevel : Word)

def EbCall.run (lib : VtpLib) : EbCall → EbBoard → Int × EbBoard
  | .reset => lib.vtpRocEbReset
  | .start => lib.vtpRocEbStart
  | .stop => lib.vtpRocEbStop
  | .init bank0 bank1 bank2 => lib.vtpRocEbInit bank0 bank1 bank2
  | .config ppInfo blocklevel => lib.vtpRocEbConfig ppInfo blocklevel
  | .setBlockLevel blocklevel => lib.vtpRocEbSetBlockLevel blocklevel

/-- What the calls return, and the board after them. -/
def runEbCalls (lib : VtpLib) : List EbCall → EbBoard → List Int × EbBoard
  | [], b => ([], b)
  | c :: calls, b =>
      let (code, b) := c.run lib b
      let (codes, b) := runEbCalls lib calls b
      (code :: codes, b)

/-! ## What the builder is set up for -/

/-- One block level for the three banks, and a bank for each payload port. The links are
those of the last configuration. -/
structure EbSetup where
  running : Bool
  tags : Fin 3 → BitVec 16
  level : BitVec 8
  banks : Fin 16 → Word
  links : Option Word

def EbSetup.linked (lib : VtpLib) (v : EbSetup) (r : Regs) : Regs :=
  match v.links with
  | none => r
  | some ppmask => call (lib.vtpEnableTriggerPayloadMask ppmask) r

/-- The registers for a setup. -/
def EbSetup.board (lib : VtpLib) (r : Regs) (v : EbSetup) : EbBoard where
  regs := v.linked lib r
  rocEB :=
    { ctrl := if v.running then 2#32 else 1#32
      evioCfg := fun i => (v.level.setWidth 32 <<< 16) ||| (v.tags i).setWidth 32
      ppCfg := v.banks }

def tagOf (bank : Word) (dflt : BitVec 16) : BitVec 16 :=
  if bank ≠ 0#32 then bank.setWidth 16 else dflt

namespace EbCall

/-- Whether the builder runs after the call. -/
def runs (running : Bool) : EbCall → Bool
  | .reset => false
  | .start => true
  | .stop => false
  | .init _ _ _ => running
  | .config _ _ => running
  | .setBlockLevel _ => running

/-- The call is for a builder that is stopped. -/
def guarded : EbCall → Bool
  | .init _ _ _ => true
  | .config _ _ => true
  | _ => false

/-- The calls that are not refused by a builder that runs. -/
def accepted : Bool → List EbCall → List EbCall
  | _, [] => []
  | running, c :: calls =>
      if c.guarded && running then accepted running calls
      else c :: accepted (c.runs running) calls

def tags : EbCall → Option (Fin 3 → BitVec 16)
  | .init bank0 bank1 bank2 => some ![tagOf bank0 1#16, tagOf bank1 2#16, tagOf bank2 3#16]
  | _ => none

def level : EbCall → Option (BitVec 8)
  | .init _ _ _ => some 1#8
  | .config _ blocklevel =>
      if blockLevelValid blocklevel then some (blocklevel.setWidth 8) else none
  | .setBlockLevel blocklevel =>
      if blockLevelValid blocklevel then some (blocklevel.setWidth 8) else none
  | _ => none

def bank (port : Fin 16) : EbCall → Option Word
  | .init _ _ _ => some 0#32
  | .config ppInfo _ =>
      if (ppInfo port).moduleId = 0#32 then none else some (ppInfo port).bankInfo
  | _ => none

def links : EbCall → Option Word
  | .config ppInfo _ => some (configuredMask ppInfo)
  | _ => none

def code (running : Bool) : EbCall → Int
  | .init _ _ _ => if running then error else ok
  | .config ppInfo _ => if running then error else (configuredMask ppInfo).toInt
  | .setBlockLevel blocklevel => if blockLevelValid blocklevel then ok else error
  | _ => ok

def codes : Bool → List EbCall → List Int
  | _, [] => []
  | running, c :: calls => c.code running :: codes (c.runs running) calls

end EbCall

/-- Each part of the setup is what the last call to set it has set. -/
def EbSetup.after (v : EbSetup) (calls : List EbCall) : EbSetup :=
  let done := EbCall.accepted v.running calls
  { running := calls.foldl EbCall.runs v.running
    tags := latest EbCall.tags v.tags done
    level := latest EbCall.level v.level done
    banks := fun port => latest (EbCall.bank port) (v.banks port) done
    links := latest (fun c => c.links.map some) v.links done }

/-! ## Words -/

theorem and_low16 (w : Word) : w &&& 0xffff#32 = (w.setWidth 16).setWidth 32 := by
  have hlow : ∀ i < 32, (0xffff#32).getLsbD i = decide (i < 16) := by decide
  apply BitVec.eq_of_getLsbD_eq
  intro i hi
  rw [BitVec.getLsbD_and, hlow i hi, BitVec.getLsbD_setWidth, BitVec.getLsbD_setWidth]
  by_cases h : i < 16
  · simp [h, hi]
  · simp [h]

/-- The tag is below the level. -/
theorem level_and_low16 (level : Word) (tag : BitVec 16) :
    ((level <<< 16) ||| tag.setWidth 32) &&& 0xffff#32 = tag.setWidth 32 := by
  rw [and_low16]
  congr 1
  apply BitVec.eq_of_getLsbD_eq
  intro i hi
  rw [BitVec.getLsbD_setWidth, BitVec.getLsbD_or, BitVec.getLsbD_shiftLeft,
    BitVec.getLsbD_setWidth]
  simp [hi, show i < 32 by omega]

theorem evioCfgOf_eq (bank : Word) (dflt : BitVec 16) :
    evioCfgOf bank (0x010000#32 ||| dflt.setWidth 32) =
      ((1#8).setWidth 32 <<< 16) ||| (tagOf bank dflt).setWidth 32 := by
  rw [evioCfgOf, tagOf]
  split
  · rw [and_low16]
    rfl
  · rfl

theorem blockLevel_word {blocklevel : Word} (h : blockLevelValid blocklevel = true) :
    (blocklevel.setWidth 8).setWidth 32 = blocklevel := by
  rw [blockLevelValid, Bool.and_eq_true, decide_eq_true_eq, decide_eq_true_eq] at h
  have hsmall : blocklevel.toNat < 2 ^ 8 := by
    have hint := BitVec.toInt_eq_toNat_cond blocklevel
    have hlt := blocklevel.isLt
    split at hint
    · omega
    · omega
  apply BitVec.eq_of_toNat_eq
  rw [BitVec.toNat_setWidth, BitVec.toNat_setWidth, Nat.mod_eq_of_lt hsmall,
    Nat.mod_eq_of_lt blocklevel.isLt]

/-! ## One call -/

namespace EbCall

theorem runs_guarded {c : EbCall} (h : c.guarded = true) (running : Bool) :
    c.runs running = running := by
  cases c with
  | init bank0 bank1 bank2 => rfl
  | config ppInfo blocklevel => rfl
  | reset => cases h
  | start => cases h
  | stop => cases h
  | setBlockLevel blocklevel => cases h

end EbCall

namespace EbSetup

variable {lib : VtpLib} {r : Regs}

theorem after_refused {v : EbSetup} {c : EbCall} (h : (c.guarded && v.running) = true) :
    v.after [c] = v := by
  rw [Bool.and_eq_true] at h
  have hnone : EbCall.accepted v.running [c] = [] := by
    rw [EbCall.accepted, if_pos (by rw [h.1, h.2]; rfl), EbCall.accepted]
  rw [after, hnone, List.foldl_cons, EbCall.runs_guarded h.1]
  rfl

theorem after_taken {v : EbSetup} {c : EbCall} (h : (c.guarded && v.running) = false) :
    v.after [c] =
      { running := c.runs v.running
        tags := c.tags.getD v.tags
        level := c.level.getD v.level
        banks := fun port => (c.bank port).getD (v.banks port)
        links := (c.links.map some).getD v.links } := by
  have hone : EbCall.accepted v.running [c] = [c] := by
    rw [EbCall.accepted, h, if_neg Bool.false_ne_true, EbCall.accepted]
  rw [after, hone]
  simp only [latest_cons]
  rfl

/-- The calls are taken one by one. -/
theorem after_cons (v : EbSetup) (c : EbCall) (calls : List EbCall) :
    v.after (c :: calls) = (v.after [c]).after calls := by
  by_cases h : (c.guarded && v.running) = true
  · rw [after_refused h, after, after, EbCall.accepted, if_pos h, List.foldl_cons,
      EbCall.runs_guarded ((Bool.and_eq_true _ _).mp h).1]
  · rw [after_taken (Bool.eq_false_iff.mpr h), after, after, EbCall.accepted, if_neg h]
    simp only [latest_cons, List.foldl_cons]

/-- The links of the firmware of the readout controller. -/
theorem enable_payload (ready : lib.ready vtpFwTypeVcodaroc 0 = true) (ppmask : Word) (r : Regs) :
    call (lib.vtpEnableTriggerPayloadMask ppmask) r =
      { r with fadcDec := ppmask, vxs := fun i => serdesCtrl (ppmask.getLsbD i) } := by
  rw [VtpLib.ready, Bool.and_eq_true] at ready
  have htype : lib.fwType 0 = vtpFwTypeVcodaroc := by
    have hcheck := ready.2
    rw [VtpLib.checkType, Bool.or_eq_true, beq_iff_eq, beq_iff_eq] at hcheck
    cases hcheck with
    | inl hcommon => cases hcommon
    | inr hsame => exact hsame.symm
  rw [call, vtpEnableTriggerPayloadMask, onInit, if_pos ready.1, Option.getD_some,
    writePayloadMask, if_pos (by rw [htype]; decide)]

/-- They are set as a whole. -/
theorem linked_again (ready : lib.ready vtpFwTypeVcodaroc 0 = true) (v : EbSetup)
    (ppmask : Word) :
    call (lib.vtpEnableTriggerPayloadMask ppmask) (v.linked lib r) =
      call (lib.vtpEnableTriggerPayloadMask ppmask) r := by
  rw [enable_payload ready, enable_payload ready, linked]
  split
  · rfl
  · rw [enable_payload ready]

/-- The level of the three banks. -/
theorem board_level {v : EbSetup} {blocklevel : Word} (h : blockLevelValid blocklevel = true) :
    withBlockLevel blocklevel (v.board lib r).rocEB =
      ({ v with level := blocklevel.setWidth 8 }.board lib r).rocEB := by
  have hcfg : (withBlockLevel blocklevel (v.board lib r).rocEB).evioCfg =
      ({ v with level := blocklevel.setWidth 8 }.board lib r).rocEB.evioCfg := by
    funext i
    simp only [withBlockLevel, board, level_and_low16, blockLevel_word h]
  rw [withBlockLevel] at hcfg ⊢
  simp only [board] at hcfg ⊢
  rw [hcfg]

/-- The reset bit is the only sign of a builder that is stopped. -/
theorem board_runs (v : EbSetup) :
    (v.board lib r).rocEB.ctrl &&& 1#32 = 0#32 ↔ v.running = true := by
  have hbit : ∀ running : Bool,
      (if running then 2#32 else 1#32) &&& 1#32 = 0#32 ↔ running = true := by decide
  exact hbit v.running

theorem init_stopped (ready : lib.ready vtpFwTypeVcodaroc 0 = true) {b : EbBoard}
    (h : b.rocEB.ctrl &&& 1#32 ≠ 0#32) (bank0 bank1 bank2 : Word) :
    lib.vtpRocEbInit bank0 bank1 bank2 b =
      (ok,
        { regs := b.regs
          rocEB :=
            { ctrl := b.rocEB.ctrl
              evioCfg := fun i => ((1#8).setWidth 32 <<< 16) |||
                (![tagOf bank0 1#16, tagOf bank1 2#16, tagOf bank2 3#16] i).setWidth 32
              ppCfg := fun _ => 0#32 } }) := by
  have hcfg : ![evioCfgOf bank0 0x010001#32, evioCfgOf bank1 0x010002#32,
      evioCfgOf bank2 0x010003#32] = fun i => ((1#8).setWidth 32 <<< 16) |||
        (![tagOf bank0 1#16, tagOf bank1 2#16, tagOf bank2 3#16] i).setWidth 32 := by
    funext i
    fin_cases i
    · exact evioCfgOf_eq bank0 1#16
    · exact evioCfgOf_eq bank1 2#16
    · exact evioCfgOf_eq bank2 3#16
  rw [vtpRocEbInit, onRocEb, if_pos ready, if_neg h, hcfg]

theorem init_board (ready : lib.ready vtpFwTypeVcodaroc 0 = true) (v : EbSetup)
    (bank0 bank1 bank2 : Word) :
    lib.vtpRocEbInit bank0 bank1 bank2 (v.board lib r) =
      ((EbCall.init bank0 bank1 bank2).code v.running,
        (v.after [.init bank0 bank1 bank2]).board lib r) := by
  rw [EbCall.code]
  by_cases h : v.running = true
  · rw [vtpRocEbInit, onRocEb, if_pos ready, if_pos ((board_runs v).mpr h), if_pos h,
      after_refused (by rw [h]; rfl)]
  · have hstopped : v.running = false := Bool.eq_false_iff.mpr h
    rw [init_stopped ready (mt (board_runs v).mp h), if_neg h,
      after_taken (by rw [hstopped]; rfl)]
    rfl

theorem config_board (ready : lib.ready vtpFwTypeVcodaroc 0 = true) (v : EbSetup)
    (ppInfo : PpInfo) (blocklevel : Word) :
    lib.vtpRocEbConfig ppInfo blocklevel (v.board lib r) =
      ((EbCall.config ppInfo blocklevel).code v.running,
        (v.after [.config ppInfo blocklevel]).board lib r) := by
  rw [vtpRocEbConfig, onRocEb, if_pos ready, EbCall.code]
  by_cases h : v.running = true
  · rw [if_pos ((board_runs v).mpr h), if_pos h, after_refused (by rw [h]; rfl)]
  · have hstopped : v.running = false := Bool.eq_false_iff.mpr h
    rw [if_neg (mt (board_runs v).mp h), if_neg h, after_taken (by rw [hstopped]; rfl)]
    let w : EbSetup :=
      { v with
        banks := fun ii =>
          if (ppInfo ii).moduleId = 0#32 then v.banks ii else (ppInfo ii).bankInfo
        links := some (configuredMask ppInfo) }
    have hbanks : (fun ii => ((EbCall.config ppInfo blocklevel).bank ii).getD (v.banks ii)) =
        w.banks := by
      funext ii
      simp only [EbCall.bank, w]
      split
      · rfl
      · rfl
    have hregs : call (lib.vtpEnableTriggerPayloadMask (configuredMask ppInfo))
        (v.board lib r).regs = (w.board lib r).regs := linked_again ready v _
    have heb : { (v.board lib r).rocEB with
        ppCfg := fun ii =>
          if (ppInfo ii).moduleId = 0#32 then (v.board lib r).rocEB.ppCfg ii
          else (ppInfo ii).bankInfo } = (w.board lib r).rocEB := rfl
    rw [hbanks]
    dsimp only
    rw [hregs, heb]
    by_cases hlevel : blockLevelValid blocklevel = true
    · rw [if_pos hlevel, board_level hlevel]
      simp only [EbCall.level, if_pos hlevel]
      rfl
    · rw [if_neg hlevel]
      simp only [EbCall.level, if_neg hlevel]
      rfl

theorem setBlockLevel_board (ready : lib.ready vtpFwTypeVcodaroc 0 = true) (v : EbSetup)
    (blocklevel : Word) :
    lib.vtpRocEbSetBlockLevel blocklevel (v.board lib r) =
      ((EbCall.setBlockLevel blocklevel).code v.running,
        (v.after [.setBlockLevel blocklevel]).board lib r) := by
  rw [vtpRocEbSetBlockLevel, onRocEb, if_pos ready, EbCall.code, after_taken rfl]
  by_cases h : blockLevelValid blocklevel = true
  · rw [if_pos h, if_pos h, board_level h]
    simp only [EbCall.level, if_pos h]
    rfl
  · rw [if_neg h, if_neg h]
    simp only [EbCall.level, if_neg h]
    rfl

/-- One call does to the board what it does to the setup. -/
theorem call_board (ready : lib.ready vtpFwTypeVcodaroc 0 = true) (v : EbSetup) (c : EbCall) :
    c.run lib (v.board lib r) = (c.code v.running, (v.after [c]).board lib r) := by
  cases c with
  | reset => rw [after_taken rfl]; exact if_pos ready
  | start => rw [after_taken rfl]; exact if_pos ready
  | stop => rw [after_taken rfl]; exact if_pos ready
  | init bank0 bank1 bank2 => exact init_board ready v bank0 bank1 bank2
  | config ppInfo blocklevel => exact config_board ready v ppInfo blocklevel
  | setBlockLevel blocklevel => exact setBlockLevel_board ready v blocklevel

/-- The run lemma. -/
theorem calls_board (ready : lib.ready vtpFwTypeVcodaroc 0 = true) (calls : List EbCall)
    (v : EbSetup) :
    runEbCalls lib calls (v.board lib r) =
      (EbCall.codes v.running calls, (v.after calls).board lib r) := by
  induction calls generalizing v with
  | nil => rfl
  | cons c calls ih =>
    have hruns : (v.after [c]).running = c.runs v.running := rfl
    rw [runEbCalls, call_board ready v c, after_cons v c calls, EbCall.codes, ← hruns]
    dsimp only
    rw [ih]

theorem after_append (v : EbSetup) (calls more : List EbCall) :
    v.after (calls ++ more) = (v.after calls).after more := by
  induction calls generalizing v with
  | nil => rfl
  | cons c calls ih => rw [List.cons_append, after_cons, after_cons v c calls, ih]

/-- While the builder runs, only its level changes. -/
theorem after_running {v : EbSetup} (h : v.running = true) {calls : List EbCall}
    (hruns : ∀ c ∈ calls, c.runs true = true) :
    v.after calls = { v with level := (v.after calls).level } := by
  induction calls generalizing v with
  | nil => rfl
  | cons c calls ih =>
    have hstep : v.after [c] = { v with level := (v.after [c]).level } := by
      have hc := hruns c List.mem_cons_self
      obtain ⟨running, tags, level, banks, links⟩ := v
      have hrunning : running = true := h
      subst hrunning
      cases c with
      | reset => cases hc
      | start => rw [after_taken rfl]; rfl
      | stop => cases hc
      | init bank0 bank1 bank2 => rw [after_refused rfl]
      | config ppInfo blocklevel => rw [after_refused rfl]
      | setBlockLevel blocklevel => rw [after_taken rfl]; rfl
    have hrunning : (v.after [c]).running = true := by rw [hstep]; exact h
    rw [after_cons, ih hrunning fun d hd => hruns d (List.mem_cons_of_mem c hd), hstep]

end EbSetup

/-- The calls that start or stop the builder. -/
def EbCall.isControl : EbCall → Bool
  | .reset => true
  | .start => true
  | .stop => true
  | _ => false

theorem EbCall.running_iff (calls : List EbCall) :
    calls.foldl EbCall.runs false = true ↔
      (calls.filter EbCall.isControl).getLast? = some .start := by
  induction calls using List.reverseRecOn with
  | nil => simp
  | append_singleton calls c ih =>
    rw [List.foldl_append, List.foldl_cons, List.foldl_nil, List.filter_append]
    cases c with
    | reset => simp [EbCall.runs, EbCall.isControl]
    | start => simp [EbCall.runs, EbCall.isControl]
    | stop => simp [EbCall.runs, EbCall.isControl]
    | init bank0 bank1 bank2 => simpa [EbCall.runs, EbCall.isControl] using ih
    | config ppInfo blocklevel => simpa [EbCall.runs, EbCall.isControl] using ih
    | setBlockLevel blocklevel => simpa [EbCall.runs, EbCall.isControl] using ih

/-! ## The result -/

/-- Stopped and initialised. -/
def EbSetup.initialised (bank0 bank1 bank2 : Word) : EbSetup where
  running := false
  tags := ![tagOf bank0 1#16, tagOf bank1 2#16, tagOf bank2 3#16]
  level := 1#8
  banks := fun _ => 0#32
  links := none

/-- After a stop and an initialisation the calls tell the registers, whatever these were
before. The builder runs when the last call to start or stop it was a start. Its tags,
banks, links and level, the same for the three banks, are those of the last call to set
them among the calls that were not refused, and from a start to the next stop only the
level changes. -/
theorem rocEb_registers {lib : VtpLib} (ready : lib.ready vtpFwTypeVcodaroc 0 = true)
    (b : EbBoard) (bank0 bank1 bank2 : Word) (calls : List EbCall) :
    runEbCalls lib (.stop :: .init bank0 bank1 bank2 :: calls) b =
        (ok :: ok :: EbCall.codes false calls,
          ((EbSetup.initialised bank0 bank1 bank2).after calls).board lib b.regs) ∧
      (((EbSetup.initialised bank0 bank1 bank2).after calls).running = true ↔
        (calls.filter EbCall.isControl).getLast? = some .start) ∧
      (((EbSetup.initialised bank0 bank1 bank2).after calls).running = true →
        ∀ more : List EbCall, (∀ c ∈ more, c.runs true = true) →
          (EbSetup.initialised bank0 bank1 bank2).after (calls ++ more) =
            { (EbSetup.initialised bank0 bank1 bank2).after calls with
              level :=
                ((EbSetup.initialised bank0 bank1 bank2).after (calls ++ more)).level }) := by
  refine ⟨?_, EbCall.running_iff calls, fun hrunning more hmore => ?_⟩
  · have hstop : EbCall.run lib .stop b = (ok, { b with rocEB.ctrl := 1#32 }) := if_pos ready
    have hinit : EbCall.run lib (.init bank0 bank1 bank2) { b with rocEB.ctrl := 1#32 } =
        (ok, (EbSetup.initialised bank0 bank1 bank2).board lib b.regs) :=
      EbSetup.init_stopped ready (by decide : (1#32 &&& 1#32 : Word) ≠ 0#32) bank0 bank1 bank2
    rw [runEbCalls, hstop]
    dsimp only
    rw [runEbCalls, hinit]
    dsimp only
    rw [EbSetup.calls_board ready]
    rfl
  · rw [EbSetup.after_append]
    exact EbSetup.after_running hrunning hmore

/-- The firmware of the readout controller. -/
def rocEbLib : VtpLib := ⟨true, fun c => if c = 0 then vtpFwTypeVcodaroc else zyncFwTypeZcodaroc⟩

/-- The level changes while the builder runs, and the tags do not. -/
theorem rocEb_registers_level :
    (runEbCalls rocEbLib
      [.stop, .init 5#32 6#32 7#32, .start, .setBlockLevel 10#32, .init 1#32 2#32 3#32]
      ⟨default, ⟨2#32, fun _ => 0#32, fun _ => 0#32⟩⟩).2.rocEB.evioCfg 1 = 0x000a0006#32 := by
  have ready : rocEbLib.ready vtpFwTypeVcodaroc 0 = true := by decide
  rw [(rocEb_registers ready _ 5#32 6#32 7#32
    [.start, .setBlockLevel 10#32, .init 1#32 2#32 3#32]).1]
  decide

end VtpStreaming
