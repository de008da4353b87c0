import Mathlib.Data.Fin.VecNotation
import Mathlib.Data.Fintype.Basic
import Mathlib.Logic.Function.Basic
import VtpStreaming.Clib.Scan

/-!
# Slots and payloads

`vme_rol/fadc_master_stream_vg.c`: the slots that a pedestal file lists, and the
payloads of the VTP that they are wired to.
-/

namespace VtpStreaming

open Clib

/-- The slot of a line of the pedestal file. -/
def slotOfLine (piece : List Char) : Option Word :=
  match scanString 127 (cString piece) with
  | none => none
  | some (keyword, rest) =>
      match scanD rest with
      | none => none
      | some (slotNum, _) => if keyword = "FADC250_SLOT".toList then some slotNum else none

/-- A slot that is already in the list, or finds no room in it, is left out. -/
def addSlot (maxSlots : Nat) (slots : List Word) (slotNum : Word) : List Word :=
  if slotNum ∈ slots then slots
  else if slots.length < maxSlots then slots ++ [slotNum]
  else slots

/-- `none` when the file cannot be opened, or there is no room at all. -/
def parseActiveFadcSlots (pedsFile : Option (List Char)) (maxSlots : Nat) :
    Option (List Word) :=
  if maxSlots = 0 then none
  else
    match pedsFile with
    | none => none
    | some peds => some (((fgetsLines 511 peds).filterMap slotOfLine).foldl (addSlot maxSlots) [])

def payloadToSlot : Fin 16 → Word :=
  ![10, 13, 9, 14, 8, 15, 7, 16, 6, 17, 5, 18, 4, 19, 3, 20]

/-- The payload number of a slot, from 1, or -1. -/
def slotToPayload (slot : Word) : Int :=
  match (List.finRange 16).find? fun i => payloadToSlot i == slot with
  | some i => i.val + 1
  | none => -1

/-- Set the payload of a slot. -/
def enableSlot (enable : Fin 16 → Word) (slot : Word) : Fin 16 → Word :=
  let payload := slotToPayload slot
  if h : 0 < payload ∧ payload ≤ 16 then
    Function.update enable ⟨(payload - 1).toNat, by omega⟩ 1#32
  else enable

/-- `payload_enable`, after the slots of the list. -/
def payloadEnable (activeSlots : List Word) : Fin 16 → Word :=
  activeSlots.foldl enableSlot fun _ => 0#32

/-! ## The payloads of the slots -/

theorem slotToPayload_payloadToSlot : ∀ i : Fin 16, slotToPayload
    (payloadToSlot i) = i.val + 1 := by
  decide

/-- The table is inverted. -/
theorem slotToPayload_eq {slot : Word} {i : Fin 16} :
    slotToPayload slot = i.val + 1 ↔ payloadToSlot i = slot := by
  constructor
  · intro h
    unfold slotToPayload at h
    cases hfind : (List.finRange 16).find? fun i => payloadToSlot i == slot with
    | none =>
      rw [hfind] at h
      dsimp only at h
      omega
    | some j =>
      rw [hfind] at h
      have hj : payloadToSlot j = slot := by simpa using List.find?_some hfind
      have hij : j = i := by
        apply Fin.ext
        dsimp only at h
        omega
      rw [← hij, hj]
  · rintro rfl
    exact slotToPayload_payloadToSlot i

/-- One slot sets the payload that it is wired to. -/
theorem enableSlot_eq (enable : Fin 16 → Word) (slot : Word) (i : Fin 16) :
    enableSlot enable slot i = if payloadToSlot i = slot then 1#32 else enable i := by
  unfold enableSlot
  split
  · next h =>
    by_cases hi : payloadToSlot i = slot
    · have hpayload := slotToPayload_eq.mpr hi
      have heq : i = ⟨(slotToPayload slot - 1).toNat, by omega⟩ := by
        apply Fin.ext
        dsimp only
        omega
      rw [if_pos hi, ← heq, Function.update_self]
    · have hne : i ≠ ⟨(slotToPayload slot - 1).toNat, by omega⟩ := by
        intro heq
        apply hi
        apply slotToPayload_eq.mp
        have hval := congrArg Fin.val heq
        dsimp only at hval
        omega
      rw [if_neg hi, Function.update_of_ne hne]
  · next h =>
    by_cases hi : payloadToSlot i = slot
    · have hpayload := slotToPayload_eq.mpr hi
      have hlt := i.isLt
      omega
    · rw [if_neg hi]

theorem payloadEnable_eq (slots : List Word) (i : Fin 16) :
    payloadEnable slots i = if payloadToSlot i ∈ slots then 1#32 else 0#32 := by
  have hfold : ∀ enable : Fin 16 → Word, slots.foldl enableSlot enable i =
      if payloadToSlot i ∈ slots then 1#32 else enable i := by
    induction slots with
    | nil =>
      intro enable
      simp
    | cons slot slots ih =>
      intro enable
      rw [List.foldl_cons, ih, enableSlot_eq]
      by_cases hmem : payloadToSlot i ∈ slots
      · simp [hmem]
      · simp [hmem]
  exact hfold fun _ => 0#32

end VtpStreaming
