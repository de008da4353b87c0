import VtpStreaming.Generate
import VtpStreaming.GeneratedLines

/-!
# The FADC's configuration file

`vme_rol/fadc_master_stream_vg.c`, `generate_vme_config`: the user's settings of the FADCs
and behind them the pedestal file, line by line. The parser of the user's configuration
knows the same keywords, so it shows what the file says. The parser of the slots finds in it
those of the pedestals.
-/

namespace VtpStreaming

open Clib

/-! ## The lines -/

/-- A keyword and its value, `tail` behind it. -/
def fadcValueLine (head tail : String) (v : Word) : List Char :=
  head.toList ++ fmtD v ++ tail.toList

/-- A keyword and sixteen values, `sep` before each. -/
def fadcMaskLine (key sep : String) (mask : Fin 16 → Word) : List Char :=
  key.toList ++ (List.finRange 16).flatMap fun i => sep.toList ++ fmtD (mask i)

def vmeConfigLines (p : UserConfigParams) : List (List Char) :=
  ["FADC250_CRATE all".toList,
   "FADC250_SLOT all".toList,
   [],
   "#       channel:  0  1  2  3  4  5  6  7  8  9 10 11 12 13 14 15".toList,
   fadcMaskLine "FADC250_ADC_MASK" "  " p.fadcAdcMask,
   fadcMaskLine "FADC250_TRG_MASK" "  " p.fadcTrgMask,
   [],
   "# force readout of channel mask (i.e. ignore threshold for readout)".toList,
   fadcMaskLine "FADC250_TET_IGNORE_MASK" " " p.fadcTetIgnoreMask,
   [],
   "#modes=1 (raw sample), 9 ( pulse integral + Hi-res time), 10 (pulse integer + Hi-res time + raw)".toList,
   fadcValueLine "FADC250_MODE " "" p.fadcMode,
   [],
   "# number of ns back from trigger point.".toList,
   fadcValueLine "FADC250_W_OFFSET  " "" p.fadcWOffset,
   [],
   "# number of ns to include in trigger window.".toList,
   fadcValueLine "FADC250_W_WIDTH  " "" p.fadcWWidth,
   [],
   "# time (units: ns) before threshold crossing to include in integral".toList,
   fadcValueLine "FADC250_NSB " " " p.fadcNsb,
   [],
   "# time (units: ns) after threshold crossing to include in integral".toList,
   fadcValueLine "FADC250_NSA " "" p.fadcNsa,
   [],
   fadcValueLine "FADC250_NPEAK " "" p.fadcNpeak,
   [],
   "# fadc channel hit threshold (adc channel)".toList,
   fadcValueLine "FADC250_TET " "" p.fadcTet,
   [],
   "# board DAC, one and the same for all 16 channels (DAC/mV)".toList,
   fadcValueLine "FADC250_DAC " " " p.fadcDac,
   [],
   "# board Gains, same for all channels (MeV/channel)".toList,
   "#FADC250_GAIN 0.500".toList,
   [],
   "# Sparsification: 0=Bypassed (read all the channels for the detector), 1=Enabled (reads only the channels around the cluster)".toList,
   "#FADC250_SPARSIFICATION 0".toList,
   [],
   "# Accumulator scaler mode: 0=Default, TET based pulse integration, 1=Sum all samples".toList,
   "#FADC250_ACCUMULATOR_SCALER_MODE_MASK 0 0 0 0 0 0 0 0 0 0 0 0 0 0 0 0".toList,
   "FADC250_CRATE end".toList,
   []]

/-- What is written before the pedestals. -/
def vmeConfigHead (p : UserConfigParams) : List Char :=
  (vmeConfigLines p).flatMap fun l => l ++ ['\n']

/-- `fputs` of each line that `fgets` has handed out. -/
def copiedLines (peds : List Char) : List Char := (fgetsLines 1023 peds).flatMap cString

/-- `vme_config_path`, as much of it as the array holds. -/
def vmeConfigPath (configDir rocname : List Char) : List Char :=
  (configDir ++ "/vme_".toList ++ rocname ++ ".cnf".toList).take 511

/-- What a call returns, and the path and the text of the file when it was created. -/
structure VmeConfigOut where
  code : Int
  file : Option (List Char × List Char)
deriving DecidableEq

/-- The pedestal file is opened last, so a call that misses it leaves the settings alone. -/
def generateVmeConfig (configDir rocname : List Char) (creates : Bool)
    (pedsFile : Option (List Char)) (params : UserConfigParams) : VmeConfigOut :=
  let path := vmeConfigPath configDir rocname
  if !creates then ⟨-1, none⟩
  else
    match pedsFile with
    | none => ⟨-1, some (path, vmeConfigHead params)⟩
    | some peds => ⟨0, some (path, vmeConfigHead params ++ copiedLines peds)⟩

/-! ## The pedestals -/

theorem fgetsFrom_flatten (n : Nat) (acc text : List Char) :
    (fgetsFrom n acc text).flatten = acc ++ text := by
  induction text generalizing acc with
  | nil =>
    cases acc with
    | nil => rfl
    | cons c acc => simp [fgetsFrom]
  | cons c cs ih =>
    rw [fgetsFrom]
    split
    · rw [List.flatten_cons, ih, List.append_assoc]
      rfl
    · rw [ih, List.append_assoc]
      rfl

/-- A text is copied as it is. -/
theorem copiedLines_text {peds : List Char} (h : '\x00' ∉ peds) : copiedLines peds = peds := by
  have hflatten : (fgetsLines 1023 peds).flatten = peds := fgetsFrom_flatten 1023 [] peds
  have hpieces : (fgetsLines 1023 peds).map cString = fgetsLines 1023 peds := by
    conv => rhs; rw [← List.map_id (fgetsLines 1023 peds)]
    apply List.map_congr_left
    intro piece hpiece
    apply cString_of_noNul
    intro hnul
    apply h
    rw [← hflatten]
    exact List.mem_flatten.mpr ⟨piece, hpiece, hnul⟩
  rw [copiedLines, List.flatMap, hpieces, hflatten]

/-! ## The lines are read back -/

/-- A line that the parser of the user's configuration takes as the change `f`, and the
parser of the slots for none. -/
structure UserSets (l : List Char) (f : UserConfigParams → UserConfigParams) : Prop where
  plain : Plain 500 l
  run : ∀ junk p, userLine junk (l ++ ['\n']) p = f p
  noSlot : slotOfLine (l ++ ['\n']) = none

section Lines

variable {l args : List Char}

theorem UserSets.blank : UserSets [] id :=
  ⟨plain_nil.mono (by decide), fun _ _ => rfl, rfl⟩

theorem cString_line (hl : Plain 500 l) : cString (l ++ ['\n']) = l ++ ['\n'] := by
  apply cString_of_noNul
  rw [List.mem_append, not_or]
  exact ⟨hl.noNul, by decide⟩

/-- A literal that fits a line, checked character by character. -/
def fitsLine (n : Nat) (l : List Char) : Bool :=
  l.length ≤ n && l.all fun c => c != '\n' && c != '\x00'

theorem plain_of_fitsLine {n : Nat} (h : fitsLine n l = true) : Plain n l := by
  rw [fitsLine, Bool.and_eq_true, decide_eq_true_eq, List.all_eq_true] at h
  refine ⟨h.1, fun hmem => ?_, fun hmem => ?_⟩
  · exact absurd (h.2 _ hmem) (by decide)
  · exact absurd (h.2 _ hmem) (by decide)

theorem UserSets.comment {s : String} (hs : s = String.ofList ('#' :: l))
    (hl : fitsLine 500 ('#' :: l) = true) (hslot : slotOfLine (('#' :: l) ++ ['\n']) = none) :
    UserSets s.toList id where
  plain := by
    rw [literal hs]
    exact plain_of_fitsLine hl
  run junk p := by
    rw [literal hs, userLine, cString_line (plain_of_fitsLine hl)]
    exact if_pos (.inl rfl)
  noSlot := by
    rw [literal hs]
    exact hslot

/-- The keywords are compared as the literals that they are. -/
theorem userBranchOf_literal (key : String) :
    userBranchOf key.toList = (userKeys.find? fun k => k.1 == key).map (·.2) := by
  rw [userBranchOf]
  congr 2
  funext k
  rw [Bool.eq_iff_iff, beq_iff_eq, beq_iff_eq, String.toList_inj]

/-- A keyword that starts a line that is read. -/
structure LineKey (key : String) : Prop where
  word : IsWord key.toList
  plain : Plain 100 key.toList
  noComment : key.toList.head? ≠ some '#'

theorem lineKey {key : String} {c : Char} (hkey : key = String.ofList (c :: l))
    (hsolid : ((c :: l).all fun c => !isSpace c) = true) (hl : fitsLine 100 (c :: l) = true)
    (hc : c ≠ '#') : LineKey key where
  word := by
    rw [literal hkey]
    exact ⟨List.cons_ne_nil c l, solid_of_all hsolid⟩
  plain := by
    rw [literal hkey]
    exact plain_of_fitsLine hl
  noComment := by
    rw [literal hkey]
    exact fun h => hc (Option.some.inj h)

theorem userLine_key {key : String} (hkey : LineKey key)
    (hargs : Stops (fun c => !isSpace c) (args ++ ['\n'])) (hl : Plain 500 (key.toList ++ args))
    (junk : Nat → Word) (p : UserConfigParams) :
    userLine junk (key.toList ++ args ++ ['\n']) p =
      (userBranchOf key.toList).elim p
        fun branch => branch junk (key.toList ++ args ++ ['\n']) p := by
  obtain ⟨c, cs, hcs⟩ := List.exists_cons_of_ne_nil hkey.word.nonempty
  have hfirst : (key.toList ++ args ++ ['\n']).head? = some c := by rw [hcs]; rfl
  have hsolid : isSpace c = false := hkey.word.solid c (by rw [hcs]; exact List.mem_cons_self)
  have hread : ¬((key.toList ++ args ++ ['\n']).head? = some '#' ∨
      (key.toList ++ args ++ ['\n']).head? = some '\n' ∨
      (key.toList ++ args ++ ['\n']).head? = some '\r') := by
    rw [hfirst]
    rintro (h | h | h)
    · have hhead := hkey.noComment
      rw [hcs] at hhead
      exact hhead h
    · rw [Option.some.inj h] at hsolid
      exact absurd hsolid (by decide)
    · rw [Option.some.inj h] at hsolid
      exact absurd hsolid (by decide)
  have hscan : scanString 255 (key.toList ++ args ++ ['\n']) =
      some (key.toList, args ++ ['\n']) := by
    rw [List.append_assoc]
    exact scanString_word (show Blank [] from rfl) hkey.word hargs
      (Nat.le_trans hkey.plain.length_le (by decide))
  rw [userLine, cString_line hl]
  refine (if_neg hread).trans ?_
  rw [hscan]
  dsimp only
  cases userBranchOf key.toList with
  | none => rfl
  | some branch => rfl

theorem slotOfLine_key {key : String} (hkey : LineKey key)
    (hargs : Stops (fun c => !isSpace c) (args ++ ['\n'])) (hl : Plain 500 (key.toList ++ args))
    (hslot : key ≠ "FADC250_SLOT" ∨ scanD (args ++ ['\n']) = none) :
    slotOfLine (key.toList ++ args ++ ['\n']) = none := by
  have hscan : scanString 127 (key.toList ++ args ++ ['\n']) =
      some (key.toList, args ++ ['\n']) := by
    rw [List.append_assoc]
    exact scanString_word (show Blank [] from rfl) hkey.word hargs
      (Nat.le_trans hkey.plain.length_le (by decide))
  rw [slotOfLine, cString_line hl, hscan]
  dsimp only
  cases hvalue : scanD (args ++ ['\n']) with
  | none => rfl
  | some v =>
    rw [hvalue] at hslot
    obtain hne | hnone := hslot
    · exact if_neg (mt String.toList_inj.mp hne)
    · cases hnone

/-- A keyword that the parser does not know. -/
theorem UserSets.other {key : String} (hkey : LineKey key)
    (hargs : Stops (fun c => !isSpace c) (args ++ ['\n'])) (hplain : Plain 400 args)
    (hbranch : userBranchOf key.toList = none)
    (hslot : key ≠ "FADC250_SLOT" ∨ scanD (args ++ ['\n']) = none) :
    UserSets (key.toList ++ args) id where
  plain := hkey.plain.append hplain
  run junk p := by
    rw [userLine_key hkey hargs (hkey.plain.append hplain), hbranch]
    rfl
  noSlot := slotOfLine_key hkey hargs (hkey.plain.append hplain) hslot

/-- One of them, with one word behind it. -/
theorem UserSets.otherWord {s key word : String} {a b c : List Char} (hkey : LineKey key)
    (hs : s = String.ofList a) (hk : key = String.ofList b) (hw : word = String.ofList c)
    (h : a = b ++ spaces 1 ++ c) (hplain : fitsLine 300 c = true)
    (hbranch : (userKeys.find? fun k => k.1 == key).map (·.2) = none)
    (hslot : key ≠ "FADC250_SLOT" ∨ scanD (spaces 1 ++ c ++ ['\n']) = none) :
    UserSets s.toList id := by
  have hargs : Plain 400 (spaces 1 ++ word.toList) := by
    rw [literal hw]
    exact ((spaces_plain 1).append (plain_of_fitsLine hplain)).mono (by decide)
  rw [literal_words hs hk hw h, List.append_assoc]
  rw [← literal hw] at hslot
  exact UserSets.other hkey rfl hargs ((userBranchOf_literal key).trans hbranch) hslot

/-- A keyword whose branch stores `f` of the line. -/
theorem UserSets.key {key : String} {f : UserConfigParams → UserConfigParams}
    {branch : UserBranch} (hkey : LineKey key)
    (hargs : Stops (fun c => !isSpace c) (args ++ ['\n'])) (hplain : Plain 400 args)
    (hbranch : userBranchOf key.toList = some branch)
    (hrun : ∀ junk p, branch junk (key.toList ++ args ++ ['\n']) p = f p) :
    UserSets (key.toList ++ args) f where
  plain := hkey.plain.append hplain
  run junk p := by
    rw [userLine_key hkey hargs (hkey.plain.append hplain), hbranch]
    exact hrun junk p
  noSlot := by
    apply slotOfLine_key hkey hargs (hkey.plain.append hplain)
    have hunknown : userBranchOf "FADC250_SLOT".toList = none := (userBranchOf_literal _).trans rfl
    refine .inl fun hkeyword => ?_
    rw [hkeyword, hunknown] at hbranch
    cases hbranch

/-- Values behind a keyword, blanks before each. -/
theorem scanArgs_values {key : String} (hkey : LineKey key) {n : Nat} (hn : 0 < n)
    {vs : List Word} (hvs : vs ≠ []) {rest : List Char} (hrest : Stops Char.isDigit rest) :
    scanArgs scanD vs.length
        (key.toList ++ ((vs.flatMap fun v => spaces n ++ fmtD v) ++ rest)) = vs ∧
      Stops (fun c => !isSpace c) ((vs.flatMap fun v => spaces n ++ fmtD v) ++ rest) := by
  let items : List (List Char × Word) := vs.map fun v => (spaces n, v)
  have hitems : (vs.flatMap fun v => spaces n ++ fmtD v) =
      items.flatMap fun i => i.1 ++ fmtD i.2 := by
    rw [List.flatMap_map]
  have hws : ∀ i ∈ items, i.1 ≠ [] ∧ Blank i.1 := by
    intro i hi
    obtain ⟨v, -, rfl⟩ := List.mem_map.mp hi
    exact ⟨spaces_ne_nil hn, spaces_blank n⟩
  have hne : items ≠ [] := by
    intro hnil
    exact hvs (List.map_eq_nil_iff.mp hnil)
  have hscan := @scanArgs_items rest Word scanD fmtD id Char.isDigit key.toList
    (fun _ _ _ hblank hstop => scanD_fmtD hblank hstop) (fun _ => isSpace_not_digit) hkey.word
    items hws hne hrest
  have hlen : items.length = vs.length := List.length_map _
  have hvals : items.map (fun i => id i.2) = vs := (List.map_map ..).trans (List.map_id vs)
  rw [hlen, hvals] at hscan
  rw [hitems]
  exact ⟨hscan, items_stops hws hne⟩

theorem plain_values {n k : Nat} {vs : List Word} (h : vs.length * (n + 11) ≤ k) :
    Plain k (vs.flatMap fun v => spaces n ++ fmtD v) := by
  induction vs generalizing k with
  | nil => exact plain_nil.mono (Nat.zero_le _)
  | cons v vs ih =>
    rw [List.length_cons, Nat.succ_mul] at h
    rw [List.flatMap_cons]
    have hrest := @ih (vs.length * (n + 11)) (Nat.le_refl _)
    exact (((spaces_plain n).append (fmtD_plain v)).append hrest).mono (by omega)

/-- A line with one value. -/
theorem UserSets.value {key head tail : String} (get : UserConfigParams → Word)
    (put : Word → UserConfigParams → UserConfigParams) {m n : Nat} (hkey : LineKey key)
    (hhead : head.toList = key.toList ++ spaces n) (hn : 0 < n ∧ n ≤ 10)
    (htail : tail.toList = spaces m) (hm : m ≤ 1)
    (hbranch : (userKeys.find? fun k => k.1 == key).map (·.2) = some (userInt get put))
    (v : Word) :
    UserSets (fadcValueLine head tail v) (put v) := by
  have hrest : Stops Char.isDigit (spaces m ++ ['\n']) := by
    obtain hm | hm : m = 0 ∨ m = 1 := by omega
    · rw [hm]
      rfl
    · rw [hm]
      rfl
  obtain ⟨hscan, hstops⟩ := scanArgs_values hkey hn.1 (List.cons_ne_nil v []) hrest
  rw [List.length_singleton] at hscan
  have hline : fadcValueLine head tail v =
      key.toList ++ ((([v] : List Word).flatMap fun v => spaces n ++ fmtD v) ++ spaces m) := by
    rw [fadcValueLine, hhead, htail, List.flatMap_singleton]
    simp only [List.append_assoc]
  rw [hline]
  apply UserSets.key hkey _ _ ((userBranchOf_literal key).trans hbranch)
  · intro junk p
    rw [userInt, List.append_assoc, List.append_assoc, hscan]
    rfl
  · rw [List.append_assoc]
    exact hstops
  · exact ((plain_values (Nat.le_refl _)).append (spaces_plain m)).mono (by
      rw [List.length_singleton]
      omega)

/-- A line with a mask. -/
theorem UserSets.mask {key sep : String} (get : UserConfigParams → Fin 16 → Word)
    (put : (Fin 16 → Word) → UserConfigParams → UserConfigParams) {n : Nat}
    (hkey : LineKey key) (hsep : sep.toList = spaces n) (hn : 0 < n ∧ n ≤ 10)
    (hbranch : (userKeys.find? fun k => k.1 == key).map (·.2) = some (userMask get put))
    (mask : Fin 16 → Word) :
    UserSets (fadcMaskLine key sep mask) (put mask) := by
  have hlen : ((List.finRange 16).map mask).length = 16 := rfl
  have hne : (List.finRange 16).map mask ≠ [] := List.cons_ne_nil _ _
  have hrest : Stops Char.isDigit ['\n'] := rfl
  obtain ⟨hscan, hstops⟩ := scanArgs_values hkey hn.1 hne hrest
  rw [hlen] at hscan
  have hline : fadcMaskLine key sep mask = key.toList ++
      ((List.finRange 16).map mask).flatMap fun v => spaces n ++ fmtD v := by
    rw [fadcMaskLine, hsep, List.flatMap_map]
  rw [hline]
  apply UserSets.key hkey hstops _ ((userBranchOf_literal key).trans hbranch)
  · intro junk p
    rw [userMask, List.append_assoc, hscan]
    congr 1
    funext i
    simp
  · exact plain_values (by rw [hlen]; omega)

end Lines

/-! ## The file -/

/-- Lines one after the other. -/
theorem userLines_sets {stack : Nat → Nat → Word} {ls rest : List (List Char)}
    {fs : List (UserConfigParams → UserConfigParams)} (h : List.Forall₂ UserSets ls fs)
    (k : Nat) (p : UserConfigParams) :
    userLines stack k ((ls.map fun l => l ++ ['\n']) ++ rest) p =
      userLines stack (k + ls.length) rest (fs.foldl (fun p f => f p) p) := by
  induction h generalizing k p with
  | nil => rfl
  | cons hl _ ih =>
    rw [List.map_cons, List.cons_append, userLines, hl.run, ih, List.length_cons,
      Nat.add_right_comm, Nat.add_assoc]
    rfl

theorem lines_plain {ls : List (List Char)} {fs : List (UserConfigParams → UserConfigParams)}
    (h : List.Forall₂ UserSets ls fs) : ∀ l ∈ ls, Plain 500 l := by
  induction h with
  | nil => exact List.forall_mem_nil _
  | cons hl _ ih => exact List.forall_mem_cons.mpr ⟨hl.plain, ih⟩

theorem slots_none {ls : List (List Char)} {fs : List (UserConfigParams → UserConfigParams)}
    (h : List.Forall₂ UserSets ls fs) :
    (ls.map fun l => l ++ ['\n']).filterMap slotOfLine = [] := by
  induction h with
  | nil => rfl
  | cons hl _ ih => rw [List.map_cons, List.filterMap_cons_none hl.noSlot, ih]

/-- Lines that fit, and what is behind them. -/
theorem fgetsLines_behind {n : Nat} {ls : List (List Char)} {rest : List Char}
    (h : ∀ l ∈ ls, '\n' ∉ l ∧ l.length + 1 ≤ n) :
    fgetsLines n ((ls.flatMap fun l => l ++ ['\n']) ++ rest) =
      (ls.map fun l => l ++ ['\n']) ++ fgetsLines n rest := by
  induction ls with
  | nil => rfl
  | cons l ls ih =>
    obtain ⟨⟨hl, hlen⟩, hls⟩ := List.forall_mem_cons.mp h
    rw [List.flatMap_cons, List.append_assoc, List.append_assoc, List.singleton_append,
      fgetsLines_line hl hlen, ih hls, List.map_cons, List.cons_append]

/-- The user's settings of the FADCs. -/
def withFadc (params p : UserConfigParams) : UserConfigParams :=
  { p with
    fadcMode := params.fadcMode
    fadcWOffset := params.fadcWOffset
    fadcWWidth := params.fadcWWidth
    fadcNsb := params.fadcNsb
    fadcNsa := params.fadcNsa
    fadcNpeak := params.fadcNpeak
    fadcTet := params.fadcTet
    fadcDac := params.fadcDac
    fadcAdcMask := params.fadcAdcMask
    fadcTrgMask := params.fadcTrgMask
    fadcTetIgnoreMask := params.fadcTetIgnoreMask }

/-- What the lines change, one after the other. -/
def fadcStores (q : UserConfigParams) : List (UserConfigParams → UserConfigParams) :=
  [id, id, id, id,
   fun p => { p with fadcAdcMask := q.fadcAdcMask },
   fun p => { p with fadcTrgMask := q.fadcTrgMask },
   id, id,
   fun p => { p with fadcTetIgnoreMask := q.fadcTetIgnoreMask },
   id, id,
   fun p => { p with fadcMode := q.fadcMode },
   id, id,
   fun p => { p with fadcWOffset := q.fadcWOffset },
   id, id,
   fun p => { p with fadcWWidth := q.fadcWWidth },
   id, id,
   fun p => { p with fadcNsb := q.fadcNsb },
   id, id,
   fun p => { p with fadcNsa := q.fadcNsa },
   id,
   fun p => { p with fadcNpeak := q.fadcNpeak },
   id, id,
   fun p => { p with fadcTet := q.fadcTet },
   id, id,
   fun p => { p with fadcDac := q.fadcDac },
   id, id, id, id, id, id, id, id, id, id, id]

set_option maxRecDepth 2048 in
theorem vmeConfigLines_sets (q : UserConfigParams) :
    List.Forall₂ UserSets (vmeConfigLines q) (fadcStores q) := by
  have hcrate : LineKey "FADC250_CRATE" := lineKey rfl rfl rfl (by decide)
  have hslot : LineKey "FADC250_SLOT" := lineKey rfl rfl rfl (by decide)
  have hadc : LineKey "FADC250_ADC_MASK" := lineKey rfl rfl rfl (by decide)
  have htrg : LineKey "FADC250_TRG_MASK" := lineKey rfl rfl rfl (by decide)
  have hignore : LineKey "FADC250_TET_IGNORE_MASK" := lineKey rfl rfl rfl (by decide)
  have hmode : LineKey "FADC250_MODE" := lineKey rfl rfl rfl (by decide)
  have hoffset : LineKey "FADC250_W_OFFSET" := lineKey rfl rfl rfl (by decide)
  have hwidth : LineKey "FADC250_W_WIDTH" := lineKey rfl rfl rfl (by decide)
  have hnsb : LineKey "FADC250_NSB" := lineKey rfl rfl rfl (by decide)
  have hnsa : LineKey "FADC250_NSA" := lineKey rfl rfl rfl (by decide)
  have hnpeak : LineKey "FADC250_NPEAK" := lineKey rfl rfl rfl (by decide)
  have htet : LineKey "FADC250_TET" := lineKey rfl rfl rfl (by decide)
  have hdac : LineKey "FADC250_DAC" := lineKey rfl rfl rfl (by decide)
  have hspace : " ".toList = spaces 1 := literal rfl
  have hspaces : "  ".toList = spaces 2 := literal rfl
  have hempty : "".toList = spaces 0 := literal rfl
  have hone : 0 < 1 ∧ 1 ≤ 10 := by decide
  have htwo : 0 < 2 ∧ 2 ≤ 10 := by decide
  have hnone : 0 ≤ 1 := by decide
  have hbehind : 1 ≤ 1 := by decide
  have hcrateSlot : "FADC250_CRATE" ≠ "FADC250_SLOT" := by decide
  have hadcLine := UserSets.mask (·.fadcAdcMask)
    (fun v p => { p with fadcAdcMask := v }) hadc hspaces htwo rfl
    q.fadcAdcMask
  have htrgLine := UserSets.mask (·.fadcTrgMask)
    (fun v p => { p with fadcTrgMask := v }) htrg hspaces htwo rfl
    q.fadcTrgMask
  have hignoreLine := UserSets.mask (·.fadcTetIgnoreMask)
    (fun v p => { p with fadcTetIgnoreMask := v }) hignore hspace hone rfl q.fadcTetIgnoreMask
  have hmodeLine := UserSets.value (·.fadcMode)
    (fun v p => { p with fadcMode := v }) hmode
    (show "FADC250_MODE ".toList = _ from literal_spaces rfl rfl rfl) hone
    hempty hnone rfl q.fadcMode
  have hoffsetLine := UserSets.value (·.fadcWOffset)
    (fun v p => { p with fadcWOffset := v }) hoffset
    (show "FADC250_W_OFFSET  ".toList = _ from literal_spaces rfl rfl rfl) htwo
    hempty hnone rfl q.fadcWOffset
  have hwidthLine := UserSets.value (·.fadcWWidth)
    (fun v p => { p with fadcWWidth := v }) hwidth
    (show "FADC250_W_WIDTH  ".toList = _ from literal_spaces rfl rfl rfl) htwo
    hempty hnone rfl q.fadcWWidth
  have hnsbLine := UserSets.value (·.fadcNsb)
    (fun v p => { p with fadcNsb := v }) hnsb
    (show "FADC250_NSB ".toList = _ from literal_spaces rfl rfl rfl) hone
    hspace hbehind rfl q.fadcNsb
  have hnsaLine := UserSets.value (·.fadcNsa)
    (fun v p => { p with fadcNsa := v }) hnsa
    (show "FADC250_NSA ".toList = _ from literal_spaces rfl rfl rfl) hone
    hempty hnone rfl q.fadcNsa
  have hnpeakLine := UserSets.value (·.fadcNpeak)
    (fun v p => { p with fadcNpeak := v }) hnpeak
    (show "FADC250_NPEAK ".toList = _ from literal_spaces rfl rfl rfl) hone
    hempty hnone rfl q.fadcNpeak
  have htetLine := UserSets.value (·.fadcTet)
    (fun v p => { p with fadcTet := v }) htet
    (show "FADC250_TET ".toList = _ from literal_spaces rfl rfl rfl) hone
    hempty hnone rfl q.fadcTet
  have hdacLine := UserSets.value (·.fadcDac)
    (fun v p => { p with fadcDac := v }) hdac
    (show "FADC250_DAC ".toList = _ from literal_spaces rfl rfl rfl) hone
    hspace hbehind rfl q.fadcDac
  exact .cons (.otherWord hcrate rfl rfl rfl rfl rfl rfl (.inl hcrateSlot)) <|
    .cons (.otherWord hslot rfl rfl rfl rfl rfl rfl (.inr rfl)) <| .cons .blank <|
    .cons (.comment rfl rfl rfl) <| .cons hadcLine <| .cons htrgLine <| .cons .blank <|
    .cons (.comment rfl rfl rfl) <| .cons hignoreLine <| .cons .blank <|
    .cons (.comment rfl rfl rfl) <| .cons hmodeLine <| .cons .blank <|
    .cons (.comment rfl rfl rfl) <| .cons hoffsetLine <| .cons .blank <|
    .cons (.comment rfl rfl rfl) <| .cons hwidthLine <| .cons .blank <|
    .cons (.comment rfl rfl rfl) <| .cons hnsbLine <| .cons .blank <|
    .cons (.comment rfl rfl rfl) <| .cons hnsaLine <| .cons .blank <|
    .cons hnpeakLine <| .cons .blank <|
    .cons (.comment rfl rfl rfl) <| .cons htetLine <| .cons .blank <|
    .cons (.comment rfl rfl rfl) <| .cons hdacLine <| .cons .blank <|
    .cons (.comment rfl rfl rfl) <| .cons (.comment rfl rfl rfl) <| .cons .blank <|
    .cons (.comment rfl rfl rfl) <| .cons (.comment rfl rfl rfl) <| .cons .blank <|
    .cons (.comment rfl rfl rfl) <| .cons (.comment rfl rfl rfl) <|
    .cons (.otherWord hcrate rfl rfl rfl rfl rfl rfl (.inl hcrateSlot)) <| .cons .blank .nil

/-- The parser of the user's configuration finds the user's settings of the FADCs in the
file, whatever it knows before, and then goes on with the pedestals. The parser of the slots
finds the slots of the pedestals and no others. -/
theorem vme_config_reads_back (stack : Nat → Nat → Word) (configDir rocname : List Char)
    (params p : UserConfigParams) (peds : List Char) (maxSlots : Nat) :
    ∃ text, generateVmeConfig configDir rocname true (some peds) params =
        ⟨0, some (vmeConfigPath configDir rocname, text)⟩ ∧
      userLines stack 0 (fgetsLines 1023 text) p =
        userLines stack (vmeConfigLines params).length (fgetsLines 1023 (copiedLines peds))
          (withFadc params p) ∧
      parseActiveFadcSlots (some text) maxSlots =
        parseActiveFadcSlots (some (copiedLines peds)) maxSlots := by
  have hsets := vmeConfigLines_sets params
  have hplain := lines_plain hsets
  have hfit : ∀ l ∈ vmeConfigLines params, '\n' ∉ l ∧ l.length + 1 ≤ 511 := by
    intro l hl
    have hlen := (hplain l hl).length_le
    exact ⟨(hplain l hl).noNewline, by omega⟩
  have hfitUser : ∀ l ∈ vmeConfigLines params, '\n' ∉ l ∧ l.length + 1 ≤ 1023 :=
    fun l hl => ⟨(hfit l hl).1, Nat.le_trans (hfit l hl).2 (by decide)⟩
  have hstores : (fadcStores params).foldl (fun p f => f p) p = withFadc params p := rfl
  refine ⟨vmeConfigHead params ++ copiedLines peds, rfl, ?_, ?_⟩
  · rw [vmeConfigHead, fgetsLines_behind hfitUser, userLines_sets hsets, hstores, Nat.zero_add]
  · rw [parseActiveFadcSlots, parseActiveFadcSlots, vmeConfigHead, fgetsLines_behind hfit,
      List.filterMap_append, slots_none hsets, List.nil_append]

end VtpStreaming
