import Mathlib.Data.List.DropRight
import VtpStreaming.ConfigFrame
import VtpStreaming.GeneratedConfig

/-!
# Where the generated file is

The VME controller names the file after the crate, and the VTP looks for a file
named after its host: `rol/vtp_stream3_1udp_vg.c`,
`vtp_get_generated_config_path`, and `vme_rol/fadc_master_stream_vg.c`,
`rocDownload`.
-/

namespace VtpStreaming

open Clib

/-! ## On the VTP -/

def isTrailingWs (c : Char) : Bool := c = '\n' || c = '\r' || c = '\t' || c = ' '

def trimTrailingWs (s : List Char) : List Char := s.rdropWhile isTrailingWs

/-- The name is not just `vtp`, and ends so. -/
def EndsInVtp (name : List Char) : Prop := 3 < name.length ∧ "vtp".toList <:+ name

instance (name : List Char) : Decidable (EndsInVtp name) :=
  inferInstanceAs (Decidable (_ ∧ _))

def stripTrailingVtp (src : List Char) (dstsize : Nat) : List Char :=
  let dst := src.take (dstsize - 1)
  if EndsInVtp dst then dst.take (dst.length - 3) else dst

/-- The host's name, when it fits the buffer. -/
def gethostname (hostname : List Char) (bufsize : Nat) : Option (List Char) :=
  if hostname.length < bufsize then some hostname else none

def isNameChar (c : Char) : Bool := c.isAlphanum || c = '_' || c = '-'

def sanitizeChar (c : Char) : Char := if isNameChar c then c else '_'

def vtpGetSanitizedHostname (hostname : List Char) (bufsize : Nat) : List Char :=
  let buf := match gethostname hostname bufsize with
    | some (c :: cs) => c :: cs
    -- `uname` knows the host by the same name
    | _ => hostname.take (bufsize - 1)
  ((trimTrailingWs buf).takeWhile fun c => c ≠ '.').map sanitizeChar

def vtpGetGeneratedConfigPath (codaConfig hostname : List Char) (bufsize : Nat) :
    Option (List Char) :=
  if codaConfig = [] then none
  else
    let dir := trimTrailingWs (codaConfig.take 511)
    let hostnameBase := stripTrailingVtp (vtpGetSanitizedHostname hostname 256) 256
    some ((dir ++ "/vtp_".toList ++ hostnameBase ++ ".cnf".toList).take (bufsize - 1))

/-! ## On the VME controller -/

/-- `strip_trailing_vtp` of the VME controller looks at the end of the name itself. -/
def vmeStripTrailingVtp (rocname : List Char) (outsize : Nat) : List Char :=
  let out := rocname.take (outsize - 1)
  if EndsInVtp rocname then out.take (rocname.length - 3) else out

/-- `generated_vtp_config` of `rocDownload`. -/
def generatedVtpConfig (codaConfig rocname : List Char) : List Char :=
  (codaConfig ++ "/vtp_".toList ++ vmeStripTrailingVtp rocname 256 ++ ".cnf".toList).take 511

/-! ## The crate's line -/

/-- The first line of the file is one that activates the section. -/
def CrateActivates (host text : List Char) : Prop :=
  ∃ l ps, filePieces text = .line l :: ps ∧
    ∀ s, ∃ s', readLine host l s = .next s' ∧ s'.active = true

/-- A line that is handed out, as much of it as fits. -/
theorem piecesFrom_first {acc l rest : List Char} (hl : '\n' ∉ l) (hacc : acc.length < strlen - 1) :
    ∃ ps, piecesFrom (.inLine acc) (l ++ '\n' :: rest) =
      .line ((acc ++ l ++ ['\n']).take (strlen - 1)) :: ps := by
  induction l generalizing acc with
  | nil =>
    refine ⟨piecesFrom .fresh rest, ?_⟩
    rw [List.nil_append, piecesFrom, if_pos (.inl rfl), List.append_nil, List.take_of_length_le]
    simp only [List.length_append, List.length_singleton]
    omega
  | cons c cs ih =>
    simp only [List.mem_cons, not_or] at hl
    have hsplit : acc ++ c :: cs ++ ['\n'] = acc ++ [c] ++ cs ++ ['\n'] := by simp
    rw [List.cons_append, piecesFrom, hsplit]
    by_cases hfull : acc.length + 1 = strlen - 1
    · refine ⟨piecesFrom .fresh (cs ++ '\n' :: rest), ?_⟩
      rw [if_pos (.inr hfull), List.append_assoc, List.take_append_of_le_length,
        List.take_of_length_le]
      · simp [hfull]
      · simp [hfull]
    · obtain ⟨ps, hps⟩ := @ih (acc ++ [c]) hl.2 (by simp; omega)
      refine ⟨ps, ?_⟩
      rw [if_neg, hps]
      rintro (rfl | h)
      · exact hl.1 rfl
      · exact hfull h

/-- The characters of a name are none of those that the programs look for. -/
theorem isNameChar_toNat {c : Char} (h : isNameChar c = true) : 47 < c.toNat ∨ c = '-' := by
  unfold isNameChar at h
  simp only [Bool.or_eq_true, decide_eq_true_eq] at h
  obtain (h | rfl) | rfl := h
  · left
    have hranges : c.isAlphanum = ((decide ('A'.val ≤ c.val ∧ c.val ≤ 'Z'.val) ||
        'a'.val ≤ c.val && c.val ≤ 'z'.val) || '0'.val ≤ c.val && c.val ≤ '9'.val) := rfl
    have hval : c.val.toNat = c.toNat := rfl
    simp only [hranges, Bool.or_eq_true, Bool.and_eq_true, decide_eq_true_eq,
      UInt32.le_iff_toNat_le, hval] at h
    obtain (⟨h, -⟩ | ⟨h, -⟩) | ⟨h, -⟩ := h
    all_goals exact Nat.lt_of_lt_of_le (by decide) h
  · exact .inl (by decide)
  · exact .inr rfl

theorem isNameChar_solid {c : Char} (h : isNameChar c = true) : isSpace c = false := by
  obtain h | rfl := isNameChar_toNat h
  · have hne : c ≠ ' ' := by
      rintro rfl
      exact absurd h (by decide)
    simp [isSpace, hne]
    omega
  · rfl

theorem isTrailingWs_space {c : Char} (h : isTrailingWs c = true) : isSpace c = true := by
  unfold isTrailingWs at h
  simp only [Bool.or_eq_true, decide_eq_true_eq] at h
  obtain ((rfl | rfl) | rfl) | rfl := h
  all_goals rfl

/-- A crate's name: at least one letter, digit, `_` or `-`. -/
structure IsRocname (rocname : List Char) : Prop where
  nonempty : rocname ≠ []
  chars : ∀ c ∈ rocname, isNameChar c = true

/-- `VTP_CRATE`, a blank and the name of the VTP's host. -/
theorem crateLine_words (rocname : List Char) : crateLine rocname =
    'V' :: ("TP_CRATE ".toList ++ (rocname ++ "vtp".toList)) := by
  have hline : "VTP_CRATE ".toList = 'V' :: "TP_CRATE ".toList := by
    rw [literal rfl, literal rfl]
  unfold crateLine
  rw [hline]
  simp only [List.append_assoc, List.cons_append]

section Crate

variable {rocname : List Char} (hroc : IsRocname rocname)

include hroc

/-- The name of the VTP's host is a name, too. -/
theorem IsRocname.vtp : IsRocname (rocname ++ "vtp".toList) where
  nonempty := by simp
  chars := by
    rw [List.forall_mem_append]
    exact ⟨hroc.chars, List.all_eq_true.mp rfl⟩

theorem IsRocname.notMem {c : Char} (h : isNameChar c = false) : c ∉ rocname := by
  intro hc
  rw [hroc.chars c hc] at h
  cases h

theorem IsRocname.isWord : IsWord rocname :=
  ⟨hroc.nonempty, fun c hc => isNameChar_solid (hroc.chars c hc)⟩

theorem IsRocname.take {n : Nat} (hn : 0 < n) : IsRocname (rocname.take n) where
  nonempty := by
    have hne := hroc.nonempty
    cases rocname with
    | nil => exact absurd rfl hne
    | cons c cs =>
      cases n with
      | zero => omega
      | succ n => simp
  chars := fun c hc => hroc.chars c (List.mem_of_mem_take hc)

/-- The line ends no line and no string. -/
theorem crate_notMem {c : Char} (h : isNameChar c = false) (hkey : c ∉ "TP_CRATE ".toList) :
    c ∉ "TP_CRATE ".toList ++ (rocname ++ "vtp".toList) := by
  rw [List.mem_append, not_or]
  exact ⟨hkey, hroc.vtp.notMem h⟩

/-- The piece of the file that holds the crate's line. -/
theorem crate_piece (rest : List Char) :
    ∃ ps, filePieces (crateLine rocname ++ '\n' :: rest) =
      .line ((crateLine rocname ++ ['\n']).take (strlen - 1)) :: ps := by
  have hnewline := crate_notMem hroc (c := '\n') (by decide) (by rw [literal rfl]; decide)
  obtain ⟨ps, hps⟩ := @piecesFrom_first ['V'] _ rest hnewline (by decide)
  refine ⟨ps, ?_⟩
  rw [crateLine_words]
  exact hps

theorem crate_noNul : '\x00' ∉ (crateLine rocname ++ ['\n']).take (strlen - 1) := by
  have hname := crate_notMem hroc (c := '\x00') (by decide) (by rw [literal rfl]; decide)
  intro hmem
  rw [crateLine_words] at hmem
  have hmem := List.mem_of_mem_take hmem
  rw [List.mem_append, List.mem_cons] at hmem
  obtain (h | h) | h := hmem
  · exact absurd h (by decide)
  · exact hname h
  · exact absurd h (by decide)

/-- Its words: the second is cut off where the piece ends. -/
theorem crate_lineWords (s : ReadState) :
    lineWords ((crateLine rocname ++ ['\n']).take (strlen - 1)) s =
      { s with
        keyword := "VTP_CRATE".toList
        rocName := (rocname ++ "vtp".toList).take 239 } := by
  have hword := (hroc.vtp.take (n := 239) (by decide)).isWord
  have hpiece : (crateLine rocname ++ ['\n']).take (strlen - 1) =
      "VTP_CRATE".toList ++ (spaces 1 ++ (rocname ++ "vtp".toList).take 239 ++
        ['\n'].take (239 - (rocname ++ "vtp".toList).length)) := by
    have hkey : "VTP_CRATE ".toList = "VTP_CRATE".toList ++ spaces 1 := literal_spaces rfl rfl rfl
    have hlength : ("VTP_CRATE".toList ++ spaces 1).length = 10 := by
      rw [literal rfl]
      rfl
    unfold crateLine
    rw [hkey, List.append_assoc _ rocname, List.append_assoc, List.take_append, hlength,
      List.take_of_length_le (by rw [hlength]; decide), List.take_append]
    simp only [strlen, List.append_assoc]
  have hstop : Stops (fun c => !isSpace c)
      (['\n'].take (239 - (rocname ++ "vtp".toList).length)) := by
    cases 239 - (rocname ++ "vtp".toList).length with
    | zero => trivial
    | succ n => rfl
  have hscan := scanWord_word (spaces_blank 1) hword hstop
  rw [hpiece, lineWords_key crate_keyword.1 (by trivial), hscan]

/-- The line activates the section on a host of just that name, if it fits. -/
theorem crate_activates {host rest : List Char} :
    CrateActivates host (crateLine rocname ++ '\n' :: rest) ↔
      host = rocname ++ "vtp".toList ∧ rocname.length + 3 < roclen := by
  obtain ⟨ps, hps⟩ := crate_piece hroc rest
  have hlength : (rocname ++ "vtp".toList).length = rocname.length + 3 := by
    rw [List.length_append]
    rfl
  have hfits : ∀ s : ReadState, wordsFit
      { s with keyword := "VTP_CRATE".toList, rocName := (rocname ++ "vtp".toList).take 239 } =
        true ↔ rocname.length + 3 < roclen := by
    intro s
    have hkeyword : "VTP_CRATE".toList.length < roclen :=
      Nat.lt_of_le_of_lt crate_keyword.2.1.length_le (by decide)
    unfold wordsFit
    rw [Bool.and_eq_true, decide_eq_true_eq, decide_eq_true_eq, List.length_take, hlength]
    constructor
    · rintro ⟨-, h⟩
      have h : min 239 (rocname.length + 3) < 80 := h
      show rocname.length + 3 < 80
      omega
    · intro h
      exact ⟨hkeyword, Nat.lt_of_le_of_lt (Nat.min_le_right _ _) h⟩
  have hwhole : rocname.length + 3 < roclen →
      (rocname ++ "vtp".toList).take 239 = rocname ++ "vtp".toList := by
    intro h
    have h : rocname.length + 3 < 80 := h
    exact List.take_of_length_le (by omega)
  constructor
  · rintro ⟨l, ps', hpieces, hrun⟩
    rw [hps] at hpieces
    cases hpieces
    obtain ⟨s', hline, hactive⟩ := hrun (readStart ⟨default, default, [], []⟩ default)
    have hwords := crate_lineWords hroc (readStart ⟨default, default, [], []⟩ default)
    rw [← cString_of_noNul (crate_noNul hroc)] at hwords
    obtain ⟨hfit, hend⟩ := readLine_cases hwords hline
    have hfit := (hfits _).mp hfit
    obtain ⟨-, rfl⟩ | ⟨hkey, -⟩ := hend
    · refine ⟨?_, hfit⟩
      dsimp only at hactive
      rw [hwhole hfit, Bool.or_eq_true, decide_eq_true_eq, decide_eq_true_eq] at hactive
      obtain h | h := hactive
      · exact h.symm
      · -- no name that ends in `vtp` is `all`
        have hall : rocname.length + 3 = 3 := by
          rw [← hlength, h]
          rfl
        exact absurd (List.length_eq_zero_iff.mp (by omega)) hroc.nonempty
    · exact absurd rfl hkey
  · rintro ⟨rfl, hfit⟩
    refine ⟨_, ps, hps, ?_⟩
    intro s
    refine ⟨_, readLine_crate (crate_noNul hroc) (crate_lineWords hroc s) ((hfits s).mpr hfit) rfl,
      ?_⟩
    dsimp only
    rw [hwhole hfit, decide_eq_true rfl, Bool.true_or]

end Crate

/-! ## The paths -/

/-- A name that is short enough and does not end in white space is kept. -/
theorem trimTrailingWs_dot {base domain : List Char} :
    trimTrailingWs (base ++ '.' :: domain) = base ++ '.' :: trimTrailingWs domain := by
  induction domain using List.reverseRecOn with
  | nil => exact List.rdropWhile_concat_neg _ _ _ (by decide)
  | append_singleton domain c ih =>
    unfold trimTrailingWs at ih ⊢
    rw [← List.cons_append, ← List.append_assoc]
    by_cases hc : isTrailingWs c = true
    · rw [List.rdropWhile_concat_pos _ _ _ hc, List.rdropWhile_concat_pos _ _ _ hc, ih]
    · rw [List.rdropWhile_concat_neg _ _ _ hc, List.rdropWhile_concat_neg _ _ _ hc]
      simp

section Paths

variable {name : List Char} (hname : IsRocname name)

include hname

theorem trimTrailingWs_name : trimTrailingWs name = name := by
  unfold trimTrailingWs
  rw [List.rdropWhile_eq_self_iff]
  intro hne hws
  have hsolid := isNameChar_solid (hname.chars _ (List.getLast_mem hne))
  rw [isTrailingWs_space hws] at hsolid
  cases hsolid

omit hname in
/-- Whoever is asked for the name, the buffer holds as much of it as fits. -/
theorem hostname_buffer (hostname : List Char) :
    (match gethostname hostname 256 with
      | some (c :: cs) => c :: cs
      | _ => hostname.take (256 - 1)) = hostname.take 255 := by
  unfold gethostname
  by_cases h : hostname.length < 256
  · rw [if_pos h, List.take_of_length_le (Nat.le_of_lt_succ h)]
    cases hostname with
    | nil => rfl
    | cons c cs => rfl
  · rw [if_neg h]

omit hname in
/-- What stands behind the part of a name before the first dot. -/
theorem domain_of {hostname : List Char} (hhost : (hostname.takeWhile fun c => c ≠ '.') = name) :
    hostname = name ∨ ∃ domain, hostname = name ++ '.' :: domain := by
  have hsplit := List.takeWhile_append_dropWhile (p := fun c => c ≠ '.') (l := hostname)
  rw [hhost] at hsplit
  cases hdrop : hostname.dropWhile fun c => c ≠ '.' with
  | nil =>
    rw [hdrop, List.append_nil] at hsplit
    exact .inl hsplit.symm
  | cons c domain =>
    have hhead := List.head?_dropWhile_not (fun c => decide (c ≠ '.')) hostname
    rw [hdrop] at hhead hsplit
    have hc : c = '.' := by simpa using hhead
    rw [hc] at hsplit
    exact .inr ⟨domain, hsplit.symm⟩

/-- The host is known by the part of its name before the first dot. -/
theorem vtpGetSanitizedHostname_name {hostname : List Char}
    (hhost : (hostname.takeWhile fun c => c ≠ '.') = name) (hfits : name.length < 255) :
    vtpGetSanitizedHostname hostname 256 = name := by
  have hdot : ∀ c ∈ name, decide (c ≠ '.') = true := by
    intro c hc
    have hne : c ≠ '.' := by
      rintro rfl
      exact hname.notMem (by decide) hc
    exact decide_eq_true hne
  have hmap : name.map sanitizeChar = name := by
    have hchars : ∀ c ∈ name, sanitizeChar c = id c := fun c hc => if_pos (hname.chars c hc)
    rw [List.map_congr_left hchars, List.map_id]
  unfold vtpGetSanitizedHostname
  rw [hostname_buffer]
  dsimp only
  obtain rfl | ⟨domain, rfl⟩ := domain_of hhost
  · rw [List.take_of_length_le (Nat.le_of_lt hfits), trimTrailingWs_name hname,
      List.takeWhile_eq_self_iff.mpr hdot, hmap]
  · have htake : (name ++ '.' :: domain).take 255 =
        name ++ '.' :: domain.take (254 - name.length) := by
      have hrest : 255 - name.length = 254 - name.length + 1 := by omega
      rw [List.take_append, List.take_of_length_le (Nat.le_of_lt hfits), hrest, List.take_succ_cons]
    rw [htake, trimTrailingWs_dot, takeWhile_stops hdot (by rfl), hmap]

/-- The suffix that names the host goes, unless a name ends in it itself. -/
theorem stripTrailingVtp_host (hfits : name.length + 3 < 255) :
    stripTrailingVtp (name ++ "vtp".toList) 256 = name := by
  have hlength : (name ++ "vtp".toList).length = name.length + 3 := by
    rw [List.length_append]
    rfl
  have hpos := List.length_pos_iff.mpr hname.nonempty
  have hends : EndsInVtp (name ++ "vtp".toList) := ⟨by omega, List.suffix_append _ _⟩
  unfold stripTrailingVtp
  dsimp only
  rw [List.take_of_length_le (by omega), if_pos hends, hlength, Nat.add_sub_cancel,
    List.take_left']
  rfl

omit hname in
theorem vmeStripTrailingVtp_eq (hfits : name.length < 256) :
    vmeStripTrailingVtp name 256 = name ↔ ¬ EndsInVtp name := by
  unfold vmeStripTrailingVtp
  dsimp only
  rw [List.take_of_length_le (Nat.le_of_lt_succ hfits)]
  split
  · next h =>
    have hlong := h.1
    constructor
    · intro heq
      have hlength := congrArg List.length heq
      rw [List.length_take] at hlength
      omega
    · intro hnot
      exact absurd h hnot
  · next h => exact ⟨fun _ => h, fun _ => rfl⟩

end Paths

/-! ## The same file -/

theorem configPath_inj {dir dir' name name' : List Char}
    (h : (dir ++ "/vtp_".toList ++ name ++ ".cnf".toList).length < 512)
    (hdir : dir'.length ≤ dir.length) (hname : name'.length ≤ name.length) :
    (dir' ++ "/vtp_".toList ++ name' ++ ".cnf".toList).take 511 =
        (dir ++ "/vtp_".toList ++ name ++ ".cnf".toList).take 511 ↔
      dir' ++ "/vtp_".toList ++ name' = dir ++ "/vtp_".toList ++ name := by
  simp only [List.length_append] at h
  rw [List.take_of_length_le, List.take_of_length_le, List.append_cancel_right_eq]
  · simp only [List.length_append]
    omega
  · simp only [List.length_append]
    omega

/-- The path that the VTP computes on a host named after the crate. -/
theorem vtpGetGeneratedConfigPath_host {configDir rocname hostname : List Char}
    (hroc : IsRocname rocname) (hdir : configDir ≠ []) (hshort : configDir.length ≤ 511)
    (hhost : (hostname.takeWhile fun c => c ≠ '.') = rocname ++ "vtp".toList)
    (hfits : rocname.length + 3 < roclen) :
    vtpGetGeneratedConfigPath configDir hostname 512 =
      some ((trimTrailingWs configDir ++ "/vtp_".toList ++ rocname ++ ".cnf".toList).take 511) := by
  have hfits : rocname.length + 3 < 80 := hfits
  have hlength : (rocname ++ "vtp".toList).length = rocname.length + 3 := by
    rw [List.length_append]
    rfl
  unfold vtpGetGeneratedConfigPath
  rw [if_neg hdir, vtpGetSanitizedHostname_name hroc.vtp hhost (by omega),
    stripTrailingVtp_host hroc (by omega), List.take_of_length_le hshort]

theorem generateVtpConfig_crate {configDir rocname path text : List Char}
    {peds : Option (List Char)} {params : UserConfigParams}
    (hgen : generateVtpConfig configDir rocname peds params = some (path, text)) :
    path = vtpConfigPath configDir rocname ∧ ∃ rest, text = crateLine rocname ++ '\n' :: rest := by
  unfold generateVtpConfig at hgen
  cases hslots : parseActiveFadcSlots peds 20 with
  | none =>
    rw [hslots] at hgen
    cases hgen
  | some slots =>
    rw [hslots] at hgen
    cases hgen
    unfold vtpConfigLines
    rw [List.cons_append, List.flatMap_cons, List.append_assoc, List.singleton_append]
    exact ⟨rfl, _, rfl⟩

/-- Both controllers agree on the file, and the VTP takes the section, when the
host is called after the crate with `vtp` behind it and the crate's name does
not end so itself. -/
theorem generated_found {configDir rocname path text : List Char} {peds : Option (List Char)}
    {params : UserConfigParams} {env : ConfigEnv}
    (hgen : generateVtpConfig configDir rocname peds params = some (path, text))
    (hroc : IsRocname rocname) (hdir : configDir ≠ [])
    (hlength : (configDir ++ "/vtp_".toList ++ rocname ++ ".cnf".toList).length < 512) :
    generatedVtpConfig configDir rocname = path ∧
        vtpGetGeneratedConfigPath configDir env.hostname 512 = some path ∧
        CrateActivates env.host text ↔
      ¬ EndsInVtp rocname ∧ env.host = rocname ++ "vtp".toList ∧ rocname.length + 3 < roclen ∧
        trimTrailingWs configDir = configDir := by
  have hshort : configDir.length ≤ 511 := by
    simp only [List.length_append] at hlength
    omega
  obtain ⟨rfl, rest, rfl⟩ := generateVtpConfig_crate hgen
  rw [crate_activates hroc]
  -- what is left is about the two paths
  have hread : rocname.length + 3 < roclen →
      (generatedVtpConfig configDir rocname = vtpConfigPath configDir rocname ↔
        ¬ EndsInVtp rocname) := by
    intro hfits
    have hfits : rocname.length + 3 < 80 := hfits
    have hstrip : (vmeStripTrailingVtp rocname 256).length ≤ rocname.length := by
      unfold vmeStripTrailingVtp
      dsimp only
      split
      · simp only [List.length_take]
        omega
      · simp only [List.length_take]
        omega
    rw [← vmeStripTrailingVtp_eq (by omega)]
    unfold generatedVtpConfig vtpConfigPath
    rw [configPath_inj hlength (Nat.le_refl _) hstrip, List.append_cancel_left_eq]
  have hvtp : env.host = rocname ++ "vtp".toList → rocname.length + 3 < roclen →
      (vtpGetGeneratedConfigPath configDir env.hostname 512 =
          some (vtpConfigPath configDir rocname) ↔
        trimTrailingWs configDir = configDir) := by
    intro hhost hfits
    have htrim : (trimTrailingWs configDir).length ≤ configDir.length :=
      (List.rdropWhile_prefix _ _).length_le
    rw [vtpGetGeneratedConfigPath_host hroc hdir hshort hhost hfits, Option.some.injEq]
    unfold vtpConfigPath
    rw [configPath_inj hlength htrim (Nat.le_refl _), List.append_cancel_right_eq,
      List.append_cancel_right_eq]
  constructor
  · rintro ⟨hpath, hfound, hhost, hfits⟩
    exact ⟨(hread hfits).mp hpath, hhost, hfits, (hvtp hhost hfits).mp hfound⟩
  · rintro ⟨hends, hhost, hfits, htrim⟩
    exact ⟨(hread hfits).mpr hends, (hvtp hhost hfits).mpr htrim, hhost, hfits⟩

theorem test2_isRocname : IsRocname "test2".toList := by
  rw [literal rfl]
  exact ⟨by decide, List.all_eq_true.mp rfl⟩

theorem test2_generated : ∃ path text,
    generateVtpConfig "/coda".toList "test2".toList (some []) initConfigParams =
      some (path, text) :=
  ⟨_, _, rfl⟩

/-- The crate `test2`, with its VTP at `test2vtp` in some domain. -/
theorem generated_found_test2 : ∃ path text,
    generateVtpConfig "/coda".toList "test2".toList (some []) initConfigParams =
      some (path, text) ∧
    generatedVtpConfig "/coda".toList "test2".toList = path ∧
    vtpGetGeneratedConfigPath "/coda".toList "test2vtp.net".toList 512 = some path ∧
    CrateActivates "test2vtp".toList text := by
  obtain ⟨path, text, hgen⟩ := test2_generated
  have h := (@generated_found _ _ _ _ _ _ ⟨"test2vtp.net".toList, none, [], fun _ => none⟩ hgen
    test2_isRocname (by decide +kernel) (by decide +kernel)).mpr
    ⟨by decide +kernel, by decide +kernel, by decide +kernel, by decide +kernel⟩
  have hhost : ConfigEnv.host ⟨"test2vtp.net".toList, none, [], fun _ => none⟩ = "test2vtp".toList := by
    decide +kernel
  rw [hhost] at h
  exact ⟨path, text, hgen, h⟩

/-- A name with the suffix is stripped where the file is read, and not where it
is written. A host that is called just like its crate leaves the section out. -/
theorem generated_lost :
    (∃ path text,
      generateVtpConfig "/coda".toList "test2vtp".toList (some []) initConfigParams =
        some (path, text) ∧
      generatedVtpConfig "/coda".toList "test2vtp".toList ≠ path ∧
      vtpGetGeneratedConfigPath "/coda".toList "test2vtp".toList 512 ≠ some path) ∧
    ∃ path text,
      generateVtpConfig "/coda".toList "test2".toList (some []) initConfigParams =
        some (path, text) ∧
      ¬ CrateActivates "test2".toList text := by
  refine ⟨⟨_, _, rfl, by decide +kernel, by decide +kernel⟩, ?_⟩
  obtain ⟨path, text, hgen⟩ := test2_generated
  obtain ⟨-, rest, rfl⟩ := generateVtpConfig_crate hgen
  refine ⟨path, _, hgen, ?_⟩
  rw [crate_activates test2_isRocname]
  decide +kernel

end VtpStreaming
