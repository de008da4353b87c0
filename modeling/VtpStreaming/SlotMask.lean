import VtpStreaming.GeneratedNet
import VtpStreaming.PayloadMask

/-!
# From the slots of a pedestal file to the payload mask

`vme_rol/fadc_master_stream_vg.c` reads the slots and writes the payload line,
`vtp/vtpConfig.c` reads it on the VTP, and `rol/vtp_stream3_1udp_vg.c`, `rocPrestart`,
enters the payloads in the mask of the event builder.
-/

namespace VtpStreaming

open Clib Function VtpLib

/-! ## The pedestal file -/

/-- The lines of a text, each with the newline that ends it. -/
def textLines : List Char → List (List Char)
  | [] => []
  | c :: cs =>
      if c = '\n' then [c] :: textLines cs
      else
        match textLines cs with
        | [] => [[c]]
        | l :: ls => (c :: l) :: ls

/-- A line of the file has `FADC250_SLOT` for its first word and `slot` behind it. -/
def ListsSlot (peds : List Char) (slot : Word) : Prop :=
  ∃ line ∈ textLines peds, ∃ rest tail,
    scanWord (cString line) = some ("FADC250_SLOT".toList, rest) ∧ scanD rest = some (slot, tail)

/-- The lines are at most 500 characters long, with their newline one more. There are no
more than 20 numbers after `FADC250_SLOT`, and eight of the table. -/
structure PedsFile (peds : List Char) : Prop where
  lines : ∀ line ∈ textLines peds, line.length ≤ 501
  slots : ∃ l : List Word, l.length ≤ 20 ∧ ∀ slot, ListsSlot peds slot → slot ∈ l
  payloads : ∃ l : List (Fin 16), l.length ≤ 8 ∧ ∀ n, ListsSlot peds (payloadToSlot n) → n ∈ l

section Lines

/-- What `fgets` has read of the line so far, and the lines behind it. -/
def continued (acc : List Char) : List (List Char) → List (List Char)
  | [] => if acc = [] then [] else [acc]
  | l :: ls => (acc ++ l) :: ls

theorem fgetsFrom_textLines {n : Nat} {acc text : List Char}
    (h : ∀ line ∈ continued acc (textLines text), line.length < n) :
    fgetsFrom n acc text = continued acc (textLines text) := by
  induction text generalizing acc with
  | nil => cases acc <;> simp [fgetsFrom, textLines, continued]
  | cons c cs ih =>
    rw [fgetsFrom]
    by_cases hc : c = '\n'
    · subst hc
      have hlines : textLines ('\n' :: cs) = ['\n'] :: textLines cs := by
        rw [textLines, if_pos rfl]
      have hnil : continued [] (textLines cs) = textLines cs := by
        cases textLines cs <;> rfl
      rw [hlines] at h ⊢
      rw [if_pos (Or.inl rfl), ih, hnil]
      · rfl
      · rw [hnil]
        exact fun line hline => h line (List.mem_cons_of_mem _ hline)
    · have hlines : continued acc (textLines (c :: cs)) =
          continued (acc ++ [c]) (textLines cs) := by
        rw [textLines, if_neg hc]
        cases textLines cs <;> simp [continued]
      rw [hlines] at h ⊢
      have hshort : acc.length + 1 ≠ n := by
        have hfirst : ∃ line ∈ continued (acc ++ [c]) (textLines cs),
            acc.length + 1 ≤ line.length := by
          cases textLines cs with
          | nil => exact ⟨acc ++ [c], by simp [continued], by simp⟩
          | cons l ls => exact ⟨acc ++ [c] ++ l, by simp [continued], by simp⟩
        rcases hfirst with ⟨line, hline, hlen⟩
        have hlt := h line hline
        omega
      rw [if_neg (by simp [hc, hshort]), ih h]

theorem fgetsLines_textLines {n : Nat} {text : List Char}
    (h : ∀ line ∈ textLines text, line.length < n) : fgetsLines n text = textLines text := by
  have hnil : continued [] (textLines text) = textLines text := by
    cases textLines text <;> rfl
  rw [fgetsLines, fgetsFrom_textLines, hnil]
  rwa [hnil]

/-- `%127s` cuts no word that matters. -/
theorem slotOfLine_eq {line : List Char} {slot : Word} :
    slotOfLine line = some slot ↔ ∃ rest tail,
      scanWord (cString line) = some ("FADC250_SLOT".toList, rest) ∧
        scanD rest = some (slot, tail) := by
  have hlen : "FADC250_SLOT".toList.length < 127 := by decide
  rw [slotOfLine]
  generalize "FADC250_SLOT".toList = keyword at hlen ⊢
  cases hword : scanWord (cString line) with
  | none => simp [scanString_none hword]
  | some p =>
    rcases p with ⟨w, rest⟩
    rw [scanString_scanWord (by decide) hword]
    simp only [Option.some.injEq, Prod.mk.injEq]
    by_cases hw : w = keyword
    · subst hw
      rw [List.take_of_length_le hlen.le, List.drop_eq_nil_of_le hlen.le, List.nil_append]
      cases hnum : scanD rest with
      | none => simp [hnum]
      | some q =>
        rcases q with ⟨v, tail⟩
        simp [hnum]
    · have htake : w.take 127 ≠ keyword := by
        intro heq
        have hcut := congrArg List.length heq
        rw [List.length_take] at hcut
        have hshort : w.length ≤ 127 := by omega
        exact hw (by rwa [List.take_of_length_le hshort] at heq)
      cases scanD (w.drop 127 ++ rest) with
      | none => simp [hw]
      | some q => simp [hw, htake]

/-- The slots of the file that the lines list. -/
theorem mem_slotLines {peds : List Char} (h : ∀ line ∈ textLines peds, line.length ≤ 501)
    {slot : Word} : slot ∈ (fgetsLines 511 peds).filterMap slotOfLine ↔ ListsSlot peds slot := by
  rw [fgetsLines_textLines fun line hline => Nat.lt_of_le_of_lt (h line hline) (by decide),
    List.mem_filterMap]
  simp only [slotOfLine_eq, ListsSlot]

end Lines

/-! ## The slots -/

section Slots

variable {limit : Nat} {slots seen l : List Word}

/-- While the list has room, it holds what has been seen. -/
theorem addSlot_mem {slot : Word} (hroom : slot ∈ slots ∨ slots.length < limit) (v : Word) :
    v ∈ addSlot limit slots slot ↔ v ∈ slots ∨ v = slot := by
  rw [addSlot]
  by_cases hmem : slot ∈ slots
  · rw [if_pos hmem]
    exact ⟨Or.inl, fun h => h.elim id fun heq => heq ▸ hmem⟩
  · rw [if_neg hmem, if_pos (hroom.resolve_left hmem), List.mem_append, List.mem_singleton]

theorem addSlot_nodup {slot : Word} (h : slots.Nodup) : (addSlot limit slots slot).Nodup := by
  rw [addSlot]
  split
  · exact h
  · next hmem =>
    split
    · exact List.nodup_append.mpr ⟨h, List.nodup_singleton slot, by
        intro a ha b hb heq
        rw [List.mem_singleton] at hb
        exact hmem (hb ▸ heq ▸ ha)⟩
    · exact h

/-- With no more than `limit` distinct slots none is left out. -/
theorem foldl_addSlot_mem (hnodup : slots.Nodup) (hl : l.length ≤ limit)
    (hslots : ∀ v ∈ slots, v ∈ l) (hseen : ∀ v ∈ seen, v ∈ l) (v : Word) :
    v ∈ seen.foldl (addSlot limit) slots ↔ v ∈ slots ∨ v ∈ seen := by
  induction seen generalizing slots with
  | nil => simp
  | cons slot seen ih =>
    rcases List.forall_mem_cons.mp hseen with ⟨hslot, hrest⟩
    have hroom : slot ∈ slots ∨ slots.length < limit := by
      by_cases hmem : slot ∈ slots
      · exact Or.inl hmem
      · right
        have hcons : (slot :: slots).Nodup := List.nodup_cons.mpr ⟨hmem, hnodup⟩
        have hsub : (slot :: slots) ⊆ l := List.cons_subset.mpr ⟨hslot, hslots⟩
        have hlen := (List.subperm_of_subset hcons hsub).length_le
        rw [List.length_cons] at hlen
        omega
    have hadd := addSlot_mem hroom
    rw [List.foldl_cons, ih (addSlot_nodup hnodup) _ hrest, hadd, List.mem_cons, or_assoc]
    intro u hu
    rcases (hadd u).mp hu with hu | rfl
    · exact hslots u hu
    · exact hslot

/-- The slots that the file is read for. -/
theorem parseActiveFadcSlots_mem {peds : List Char} (h : PedsFile peds)
    (hparse : parseActiveFadcSlots (some peds) 20 = some slots) (v : Word) :
    v ∈ slots ↔ ListsSlot peds v := by
  rw [parseActiveFadcSlots, if_neg (by decide)] at hparse
  cases hparse
  rcases h.slots with ⟨l, hl, hall⟩
  have hlines : ∀ u ∈ (fgetsLines 511 peds).filterMap slotOfLine, u ∈ l :=
    fun u hu => hall u ((mem_slotLines h.lines).mp hu)
  have hnone : ∀ u ∈ ([] : List Word), u ∈ l := List.forall_mem_nil _
  rw [foldl_addSlot_mem List.nodup_nil hl hnone hlines, mem_slotLines h.lines]
  exact or_iff_right List.not_mem_nil

end Slots

/-! ## The mask -/

section Mask

variable {enable : Fin 16 → Word}

/-- The mask of the parser is that of the enabled payloads. -/
theorem mskWord_enabled (h : IsMask enable) : mskWord 16 enable = maskOf
    (enabledPayloads enable) := by
  rw [mskWord, maskOf, enabledPayloads, List.foldl_filter]
  congr 1
  funext mask n
  rw [if_pos n.isLt]
  rcases h n with hzero | hone
  · simp [hzero]
  · simp [hone]

theorem enabledPayloads_slots {slots : List Word} {n : Fin 16} :
    n ∈ enabledPayloads (payloadEnable slots) ↔ payloadToSlot n ∈ slots := by
  rw [mem_enabledPayloads, payloadEnable_eq]
  split
  · next h => simp [h]
  · next h => simp [h]

/-- Both of the configuration's records of the payloads say the same. -/
def PayloadsAgree (conf : VtpConf) : Prop :=
  conf.payloadEn.toNat < 2 ^ 16 ∧ ∀ n : Fin 16,
    conf.streaming.payloadEnArray n = if conf.payloadEn.getLsbD n then 1#32 else 0#32

theorem payloadsAgree_of_mask {conf : VtpConf} (h : IsMask enable)
    (hmask : conf.payloadEn = mskWord 16 enable) (harray : conf.streaming.payloadEnArray = enable) :
    PayloadsAgree conf := by
  rw [mskWord_enabled h] at hmask
  constructor
  · rw [hmask]
    apply Nat.lt_pow_two_of_testBit
    intro i hi
    show (maskOf (enabledPayloads enable)).getLsbD i = false
    rw [maskOf_getLsbD, decide_eq_false_iff_not]
    rintro ⟨n, -, rfl⟩
    omega
  · intro n
    have hbit : conf.payloadEn.getLsbD n = decide (enable n = 1#32) := by
      rw [hmask, maskOf_getLsbD]
      simp [mem_enabledPayloads, Fin.val_inj]
    rw [hbit, harray]
    rcases h n with hzero | hone
    · simp [hzero]
    · simp [hone]

end Mask

/-! ## From the file to the board -/

/-- Bit by bit, the ports that the event builder reads are those of the slots that the file
lists, whatever was in the registers. -/
theorem slots_reach_event_builder {junk : Nat → Nat → Word} {userFile : Option (List Char)}
    {params : UserConfigParams} {configDir peds path text : List Char} {rocname : RocName}
    {env : RocEnv} {s : RocState} {lib : VtpLib} {r : Regs} (hpeds : PedsFile peds)
    (hparse : parseUserConfig junk userFile initConfigParams = .ok params)
    (hgen : generateVtpConfig configDir rocname.name (some peds) params = some (path, text))
    (hvtp : OnVtp env rocname path text) (hboard : env.vtpInit s.regs = some (lib, r))
    (runs : lib.Runs vtpFwTypeFadcstream) :
    ∃ code conf out, vtpReadConfigFile env.config env.configStack path (vtpInitGlobals s.conf) =
        .returned code conf ∧ PayloadsAgree conf ∧
      rocPrestart env s.fresh = .done out ∧ PayloadsAgree out.state.conf ∧
      ∀ n : Fin 16, out.state.regs.streamingEb.ctrl.getLsbD n = true ↔
        ListsSlot peds (payloadToSlot n) := by
  rcases generateVtpConfig_text hgen with ⟨slots, hslots, rfl⟩
  have henable := payloadEnable_isMask slots
  have hfresh : env.vtpInit s.fresh.regs = some (lib, r) := hboard
  rcases rocPrestart_generated (parseUserConfig_destip hparse) henable hvtp hfresh with
    ⟨code, conf, hread, hmask, harray, -, hrun⟩
  generalize hout : prestartBoard env lib (generatedNet params) _ = out at hrun
  have hlib : out.lib = lib := by rw [← hout, prestartBoard]
  rcases rocPrestart_read hrun hvtp.found hread with ⟨hkept, hkeptStreaming⟩
  have hagree : PayloadsAgree conf := payloadsAgree_of_mask henable hmask harray
  refine ⟨code, conf, out, hread, hagree, hrun, ?_, fun n => ?_⟩
  · rw [PayloadsAgree, hkept, hkeptStreaming]
    exact hagree
  · have hmem : ∀ i, i ∈ out.enabled ↔ ListsSlot peds (payloadToSlot i) := by
      intro i
      rw [Prestarted.enabled, hkeptStreaming, harray, enabledPayloads_slots,
        parseActiveFadcSlots_mem hpeds hslots]
    have hshort : out.enabled.length ≤ 8 := by
      rcases hpeds.payloads with ⟨l, hl, hall⟩
      have hnodup : out.enabled.Nodup := enabledPayloads_nodup _
      have hsub : out.enabled ⊆ l := fun i hi => hall i ((hmem i).mp hi)
      exact (List.subperm_of_subset hnodup hsub).length_le.trans hl
    have hown : out.OwnMask := by
      rw [ownMask_iff hrun]
      refine Or.inr ⟨hshort, fun i hi => ?_⟩
      exact absurd rfl (mem_modules.mp hi)
    have hports := (rocPrestart_programmed hrun (hlib ▸ runs)).ports
    have hbit := congrArg (BitVec.getLsbD · n.val) hports
    rw [ebPorts.getLsbD_get, BitVec.getLsbD_and, hown, maskOf_getLsbD,
      List.take_of_length_le hshort] at hbit
    have hlow : ∀ i : Fin 16, (0xffff#32).getLsbD i.val = true := by decide
    have hwidth : ebPorts.width = 16 ∧ ebPorts.shift = 0 := ⟨rfl, rfl⟩
    rw [hwidth.1, hwidth.2, decide_eq_true n.isLt, Bool.true_and, Nat.zero_add, hlow n,
      Bool.and_true] at hbit
    rw [hbit, decide_eq_true_iff, ← hmem n]
    constructor
    · rintro ⟨m, hm, heq⟩
      rwa [← Fin.ext heq]
    · exact fun hm => ⟨n, hm, rfl⟩

/-- One pedestal for the slot of payload 1. -/
def onePedestal : List Char := "FADC250_SLOT 10".toList

theorem onePedestal_file : PedsFile onePedestal := by
  have hlines : ∀ line ∈ textLines onePedestal, line.length ≤ 501 := by decide
  have hslots : (fgetsLines 511 onePedestal).filterMap slotOfLine = [10#32] := by decide
  have hlists : ∀ slot, ListsSlot onePedestal slot → slot ∈ [10#32] := by
    intro slot h
    rw [← hslots]
    exact (mem_slotLines hlines).mpr h
  refine ⟨hlines, ⟨[10#32], by decide, hlists⟩, ⟨[0], by decide, fun n h => ?_⟩⟩
  have hslot := List.mem_singleton.mp (hlists _ h)
  have hfirst : ∀ i : Fin 16, payloadToSlot i = 10#32 → i ∈ [(0 : Fin 16)] := by decide
  exact hfirst n hslot

/-- The host `roc1vtp`, which finds the file where it is written. -/
def roc1Env (text : List Char) : RocEnv :=
  { sampleEnv 1#32 with
    codaConfig := "/cfg".toList
    config := {
      hostname := "roc1vtp".toList
      vtpParams := none
      expid := []
      files := fun path => if path = "/cfg/vtp_roc1.cnf".toList then some text else none } }

theorem roc1Env_onVtp (text : List Char) :
    OnVtp (roc1Env text) rocname1 "/cfg/vtp_roc1.cnf".toList text where
  host := by
    show (roc1Env []).config.host = rocname1.vtpHost
    decide
  found := by
    show vtpGetGeneratedConfigPath "/cfg".toList "roc1vtp".toList 512 = _
    decide
  opens :=
    { named := by decide
      nameFits := by decide
      pathFits := by
        show (namedPath (roc1Env []).config "/cfg/vtp_roc1.cnf".toList).length < fnlen
        decide
      content := rfl }
  content := rfl

/-- The shipped configuration with that file. -/
theorem slot_reaches_event_builder :
    ∃ params path text out, parseUserConfig (fun _ _ => 0#32) (some shippedConfig) initConfigParams =
        .ok params ∧
      generateVtpConfig "/cfg".toList "roc1".toList (some onePedestal) params = some (path, text) ∧
      rocPrestart (roc1Env text) sampleState.fresh = .done out ∧
      ∀ n : Fin 16, out.state.regs.streamingEb.ctrl.getLsbD n = true ↔
        ListsSlot onePedestal (payloadToSlot n) := by
  rcases shippedConfig_parsed with ⟨params, hparse, -⟩
  have hgen : ∃ text, generateVtpConfig "/cfg".toList rocname1.name (some onePedestal) params =
      some ("/cfg/vtp_roc1.cnf".toList, text) := ⟨_, rfl⟩
  rcases hgen with ⟨text, hgen⟩
  rcases @slots_reach_event_builder _ _ _ _ _ _ _ _ (roc1Env text) sampleState streamingLib
    sampleState.regs onePedestal_file hparse hgen (roc1Env_onVtp text) rfl ⟨rfl, rfl⟩ with
    ⟨code, conf, out, -, -, hrun, -, hports⟩
  exact ⟨params, _, text, out, hparse, hgen, hrun, hports⟩

end VtpStreaming
