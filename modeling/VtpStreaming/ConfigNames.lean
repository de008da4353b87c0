import VtpStreaming.ReadConfigFile

/-!
# The keywords, character by character

No keyword of the table is there twice, and all of them are words that a line can
begin with. Some words that `vtpUploadAll` prints are not in the table.
-/

namespace VtpStreaming

open Clib

/-! ## Spelling -/

/-- The names of a table as lists of characters. -/
abbrev Spelled {α : Type} (keys : List (String × α)) (ws : List (List Char)) : Prop :=
  List.Forall₂ (fun key w => key.1 = String.ofList w) keys ws

section

variable {α : Type} {keys keys' : List (String × α)} {ws ws' : List (List Char)}

theorem Spelled.cons {name : String} {a : α} {w : List Char} (h : name = String.ofList w)
    (hs : Spelled keys ws) : Spelled ((name, a) :: keys) (w :: ws) :=
  List.Forall₂.cons h hs

theorem Spelled.append (h : Spelled keys ws) (h' : Spelled keys' ws') :
    Spelled (keys ++ keys') (ws ++ ws') := by
  induction h with
  | nil => exact h'
  | cons hw _ ih => exact Spelled.cons hw ih

theorem Spelled.onPart {σ τ : Type} {get : σ → τ} {put : σ → τ → σ}
    {keys : List (String × Branch τ)} (h : Spelled keys ws) : Spelled (onPart get put keys) ws := by
  induction h with
  | nil => exact .nil
  | cons hw _ ih => exact Spelled.cons hw ih

theorem Spelled.map_eq (h : Spelled keys ws) : (keys.map fun key => key.1.toList) = ws := by
  induction h with
  | nil => rfl
  | cons hw _ ih => rw [List.map_cons, ih, hw, String.toList_ofList]

end

/-- A word as a number, which is compared faster. -/
def codeOf (w : List Char) : Nat := w.foldl (fun n c => 256 * n + c.toNat) 0

/-! ## Words at the beginning of a line -/

/-- A word that fits its array and starts a line that is read, other than
`VTP_CRATE`. -/
structure IsSetting (key : List Char) : Prop where
  word : IsWord key
  plain : Plain 31 key
  read : isRead key = true
  setting : key ≠ "VTP_CRATE".toList

def isSetting (key : List Char) : Bool :=
  key ≠ [] && key.all (fun c => !isSpace c && c ≠ '\x00') && key.length ≤ 31 && isRead key &&
    key ≠ ['V', 'T', 'P', '_', 'C', 'R', 'A', 'T', 'E']

theorem isSetting_sound {key : List Char} (h : isSetting key = true) : IsSetting key := by
  simp only [isSetting, Bool.and_eq_true, decide_eq_true_eq, List.all_eq_true,
    Bool.not_eq_true'] at h
  obtain ⟨⟨⟨⟨hne, hchars⟩, hlength⟩, hread⟩, hcrate⟩ := h
  have hnewline : '\n' ∉ key := fun h => absurd (hchars _ h).1 (by decide)
  have hnul : '\x00' ∉ key := fun h => (hchars _ h).2 rfl
  exact ⟨⟨hne, fun c hc => (hchars c hc).1⟩, ⟨hlength, hnewline, hnul⟩, hread,
    literal (s := "VTP_CRATE") rfl ▸ hcrate⟩

/-- Words that are printed and that the table does not have. -/
def unknownNames : List String :=
  ["VTP_FIRMWAREVERSION", "VTP_FIRMWARETYPE", "VTP_DC_ROADID", "VTP_HPS_ECAL_BOT",
   "VTP_COMTPON_VETROC_WIDTH"]

/-- What the spelling of the table has to satisfy. -/
def namesOk (ws us : List (List Char)) : Bool :=
  decide (ws.map codeOf).Nodup && ws.all isSetting && us.all isSetting &&
    us.all fun u => !(ws.map codeOf).contains (codeOf u)

theorem configKeys_spelled :
    ∃ ws us, Spelled configKeys ws ∧ Spelled (unknownNames.map fun name => (name, ())) us ∧
      namesOk ws us = true := by
  apply Exists.intro
  apply Exists.intro
  refine ⟨?_, ?_, ?_⟩
  · unfold configKeys networkKeys detectorKeys ecKeys ecsKeys hpsKeys
    repeat' first
      | exact rfl | apply Spelled.onPart | apply Spelled.append | apply Spelled.cons
      | exact List.Forall₂.nil
  · unfold unknownNames
    repeat' first | exact rfl | apply Spelled.cons | exact List.Forall₂.nil
  · decide +kernel

/-! ## The table -/

theorem configKeys_nodup : (configKeys.map fun key => key.1.toList).Nodup := by
  obtain ⟨ws, us, hws, -, hok⟩ := configKeys_spelled
  simp only [namesOk, Bool.and_eq_true, decide_eq_true_eq] at hok
  rw [hws.map_eq]
  exact hok.1.1.1.of_map _

theorem configKeys_isSetting {name : String} {b : Branch VtpConf} (h : (name, b) ∈ configKeys) :
    IsSetting name.toList := by
  obtain ⟨ws, us, hws, -, hok⟩ := configKeys_spelled
  simp only [namesOk, Bool.and_eq_true, List.all_eq_true] at hok
  refine isSetting_sound (hok.1.1.2 _ ?_)
  rw [← hws.map_eq]
  exact List.mem_map_of_mem h

/-- A keyword of the table has its branch. -/
theorem branchOf_name {name : String} {b : Branch VtpConf} (h : (name, b) ∈ configKeys) :
    branchOf name.toList = some b := by
  unfold branchOf
  rw [find_keyword configKeys_nodup h]
  rfl

theorem unknownNames_spec {name : String} (h : name ∈ unknownNames) :
    branchOf name.toList = none ∧ IsSetting name.toList := by
  obtain ⟨ws, us, hws, hus, hok⟩ := configKeys_spelled
  simp only [namesOk, Bool.and_eq_true, List.all_eq_true, Bool.not_eq_true'] at hok
  have hname : name.toList ∈ us := by
    rw [← hus.map_eq, List.map_map]
    exact List.mem_map_of_mem h
  refine ⟨?_, isSetting_sound (hok.1.2 _ hname)⟩
  unfold branchOf
  rw [Option.map_eq_none_iff, List.find?_eq_none]
  intro key hkey heq
  have hmem : name.toList ∈ ws := by
    rw [← hws.map_eq]
    exact List.mem_map.mpr ⟨key, hkey, beq_iff_eq.mp heq⟩
  have hcode : (ws.map codeOf).contains (codeOf name.toList) = true :=
    List.contains_iff_mem.mpr (List.mem_map_of_mem hmem)
  rw [hok.2 _ hname] at hcode
  cases hcode

theorem mem_onPart {σ τ : Type} {get : σ → τ} {put : σ → τ → σ} {keys : List (String × Branch τ)}
    {name : String} {b : Branch τ} (h : (name, b) ∈ keys) :
    (name, b.on get put) ∈ onPart get put keys :=
  List.mem_map_of_mem h

end VtpStreaming
