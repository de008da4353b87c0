import VtpStreaming.Agreement
import VtpStreaming.PrestartEb

/-!
# The checks of prestart

`rol/vtp_stream3_1udp_vg.c`, `rocPrestart`. Whether the file gives a parameter is told from
its value: 0 stands for one that was not read. For the network mode 0 is also a value, and
that of EJFAT is not looked at.
-/

namespace VtpStreaming

open Clib

/-! ## The settings in a text -/

/-- The key and the value of a piece of text, unless `vtp_read_all_from_cfg` skips it. -/
def lineSetting (piece : List Char) : Option (List Char × List Char) :=
  let line := cString piece
  if line.head? = some '#' ∨ line.head? = some '\n' then none
  else
    match scanString 127 line with
    | none => none
    | some (key, rest) =>
        match scanString 511 rest with
        | none => none
        | some (val, _) => some (key, val)

namespace SharedParam

/-- The number that a value gives, if it can be parsed. -/
def number : SharedParam → List Char → Option Word
  | destPort, val => (scanU val).map (·.1)
  | numConnections, val | netMode, val | enableEjfat, val | localPort, val =>
      (scanD val).map (·.1)

/-- The numbers that are stored. -/
def stored : SharedParam → Word → Bool
  | numConnections, v | localPort, v => positive v
  | netMode, _ | enableEjfat, _ | destPort, _ => true

/-- The number that a line gives the parameter, under any of its keys. -/
def setting (x : SharedParam) (piece : List Char) : Option Word :=
  match lineSetting piece with
  | none => none
  | some (key, val) => if key ∈ x.aliases.map (·.toList) then x.number val else none

/-- All numbers that a text gives the parameter, in order. -/
def settings (x : SharedParam) (text : List Char) : List Word :=
  (fgetsLines 1023 text).filterMap x.setting

end SharedParam

open SharedParam in
/-- The text has a value for each parameter that prestart must read from it. -/
structure GivesAll (text : List Char) : Prop where
  connections : ∃ v ∈ numConnections.settings text, 1 ≤ v.toInt
  port : ∃ v ∈ localPort.settings text, 1 ≤ v.toInt
  mode : ∃ v ∈ netMode.settings text, v = 0#32 ∨ v = 1#32
  ejfat : ∃ v, v ∈ enableEjfat.settings text

open SharedParam in
/-- The text gives a number of connections and a local port, and if it gives modes then the
last of them is one. -/
structure PassesChecks (text : List Char) : Prop where
  connections : ∃ v ∈ numConnections.settings text, 1 ≤ v.toInt
  port : ∃ v ∈ localPort.settings text, 1 ≤ v.toInt
  mode : ∀ v, (netMode.settings text).getLast? = some v → v = 0#32 ∨ v = 1#32

/-! ## One line -/

section Line

variable {x : SharedParam} {p : NetParams}

theorem netNumber_stores {put : Word → NetParams → NetParams}
    (conv : List Char → Option (Word × List Char)) (ok : Word → Bool)
    (h : ∀ v p, x.ofNet (put v p) = v) (val : List Char) (p : NetParams) :
    x.ofNet (netNumber conv ok put val p) =
      ((((conv val).map (·.1)).filter ok).getD (x.ofNet p)) := by
  rw [netNumber]
  cases conv val with
  | none => rfl
  | some r =>
    obtain ⟨v, tail⟩ := r
    rw [Option.map_some, Option.filter_some]
    dsimp only
    cases ok v with
    | true => exact h v p
    | false => rfl

/-- The branch of each key of the parameter. -/
theorem readAllBranchOf_alias (x : SharedParam) :
    ∀ name ∈ x.aliases, ∃ branch, readAllBranchOf name.toList = some branch ∧
      ∀ val p, x.ofNet (branch val p) = ((x.number val).filter x.stored).getD (x.ofNet p) := by
  have hfind : ∀ {name branch}, (name, branch) ∈ readAllKeys →
      readAllBranchOf name.toList = some branch := by
    intro name branch hmem
    rw [readAllBranchOf, find_keyword readAllKeys_names.1 hmem, Option.map_some]
  cases x with
  | numConnections =>
    simp only [SharedParam.aliases, List.forall_mem_cons]
    refine ⟨⟨_, hfind (.tail _ (.tail _ (.head _))), ?_⟩,
      ⟨_, hfind (.tail _ (.tail _ (.tail _ (.head _)))), ?_⟩, by simp⟩
    all_goals exact netNumber_stores _ _ fun _ _ => rfl
  | netMode =>
    simp only [SharedParam.aliases, List.forall_mem_cons]
    refine ⟨⟨_, hfind (.tail _ (.tail _ (.tail _ (.tail _ (.head _))))), ?_⟩, by simp⟩
    exact netNumber_stores _ _ fun _ _ => rfl
  | enableEjfat =>
    simp only [SharedParam.aliases, List.forall_mem_cons]
    refine ⟨⟨_, hfind (.tail _ (.tail _ (.tail _ (.tail _ (.tail _ (.tail _ (.tail _
      (.head _)))))))), ?_⟩, by simp⟩
    exact netNumber_stores _ _ fun _ _ => rfl
  | localPort =>
    simp only [SharedParam.aliases, List.forall_mem_cons]
    refine ⟨⟨_, hfind (.tail _ (.tail _ (.tail _ (.tail _ (.tail _ (.head _)))))), ?_⟩,
      ⟨_, hfind (.tail _ (.tail _ (.tail _ (.tail _ (.tail _ (.tail _ (.head _))))))), ?_⟩, by simp⟩
    all_goals exact netNumber_stores _ _ fun _ _ => rfl
  | destPort =>
    simp only [SharedParam.aliases, List.forall_mem_cons]
    refine ⟨⟨_, hfind (.tail _ (.head _)), ?_⟩, by simp⟩
    exact netNumber_stores _ _ fun _ _ => rfl

/-- The branch of any other key leaves the parameter alone. -/
theorem readAllBranchOf_beside {key : List Char} {branch : NetBranch}
    (hbranch : readAllBranchOf key = some branch) (hkey : key ∉ x.aliases.map (·.toList))
    (val : List Char) (p : NetParams) : x.ofNet (branch val p) = x.ofNet p := by
  rw [readAllBranchOf, Option.map_eq_some_iff] at hbranch
  obtain ⟨k, hfind, rfl⟩ := hbranch
  have hname : k.1.toList = key := by simpa using List.find?_some hfind
  rcases readAllKeys_keep (x := x) k (List.mem_of_find?_eq_some hfind) with hkeep | halias
  · exact hkeep val p
  · exact absurd (List.mem_map.2 ⟨k.1, halias, hname⟩) hkey

theorem readAllLine_setting (piece : List Char) (p : NetParams) :
    readAllLine piece p =
      match lineSetting piece with
      | none => p
      | some (key, val) =>
          match readAllBranchOf key with
          | none => p
          | some branch => branch val p := by
  rw [readAllLine, lineSetting]
  split
  · rfl
  · cases scanString 127 (cString piece) with
    | none => rfl
    | some w =>
      obtain ⟨key, rest⟩ := w
      dsimp only
      cases scanString 511 rest with
      | none => rfl
      | some v => rfl

theorem readAllLine_ofNet (piece : List Char) (p : NetParams) :
    x.ofNet (readAllLine piece p) = ((x.setting piece).filter x.stored).getD (x.ofNet p) := by
  rw [readAllLine_setting, SharedParam.setting]
  cases lineSetting piece with
  | none => rfl
  | some kv =>
    obtain ⟨key, val⟩ := kv
    dsimp only
    by_cases hkey : key ∈ x.aliases.map (·.toList)
    · rw [if_pos hkey]
      obtain ⟨name, hname, rfl⟩ := List.mem_map.1 hkey
      obtain ⟨branch, hbranch, hstores⟩ := readAllBranchOf_alias x name hname
      rw [hbranch]
      exact hstores val p
    · rw [if_neg hkey]
      cases hbranch : readAllBranchOf key with
      | none => rfl
      | some branch => exact readAllBranchOf_beside hbranch hkey val p

end Line

/-! ## The whole text -/

section Text

variable {x : SharedParam}

/-- The last number that is stored stays. -/
theorem readAllLines_ofNet (ls : List (List Char)) (p : NetParams) :
    x.ofNet (readAllLines ls p) =
      (((ls.filterMap x.setting).filter x.stored).getLast?).getD (x.ofNet p) := by
  induction ls generalizing p with
  | nil => rfl
  | cons l ls ih =>
    have hline := readAllLine_ofNet (x := x) l p
    have hrest := ih (readAllLine l p)
    rw [readAllLines, List.foldl_cons, ← readAllLines, hrest, hline, List.filterMap_cons]
    cases x.setting l with
    | none => rfl
    | some v =>
      rw [Option.filter_some]
      dsimp only
      cases hstored : x.stored v with
      | false =>
        rw [List.filter_cons_of_neg (by simp [hstored])]
        rfl
      | true =>
        rw [List.filter_cons_of_pos hstored, List.getLast?_cons]
        rfl

theorem vtpReadAllFromCfg_ofNet {files : List Char → Option (List Char)} {path text : List Char}
    (hfile : files path = some text) (p : NetParams) :
    x.ofNet (vtpReadAllFromCfg files (some path) p) =
      (((x.settings text).filter x.stored).getLast?).getD (x.ofNet p) := by
  rw [vtpReadAllFromCfg, Option.bind_some, hfile]
  exact readAllLines_ofNet _ _

/-- A number that is only stored when it is positive is 0 when there is none. -/
theorem stored_ne_zero (hstored : x.stored = positive) (text : List Char) :
    (((x.settings text).filter x.stored).getLast?).getD 0#32 ≠ 0#32 ↔
      ∃ v ∈ x.settings text, 1 ≤ v.toInt := by
  rw [hstored]
  cases hlast : ((x.settings text).filter positive).getLast? with
  | none =>
    rw [List.getLast?_eq_none_iff, List.filter_eq_nil_iff] at hlast
    constructor
    · intro h
      exact absurd rfl h
    · rintro ⟨v, hv, hpos⟩
      exact absurd (decide_eq_true hpos) (hlast v hv)
  | some v =>
    obtain ⟨hv, hpos⟩ := List.mem_filter.1 (List.mem_of_getLast? hlast)
    have hpos' : 0 < v.toInt := of_decide_eq_true hpos
    constructor
    · intro _
      exact ⟨v, hv, hpos'⟩
    · intro _ hzero
      rw [Option.getD_some] at hzero
      rw [hzero] at hpos'
      exact absurd hpos' (by decide)

theorem valid_iff {files : List Char → Option (List Char)} {path text : List Char}
    (hfile : files path = some text) :
    (vtpReadAllFromCfg files (some path) noParams).valid = true ↔ PassesChecks text := by
  have hconnections := vtpReadAllFromCfg_ofNet (x := .numConnections) hfile noParams
  have hport := vtpReadAllFromCfg_ofNet (x := .localPort) hfile noParams
  have hmode := vtpReadAllFromCfg_ofNet (x := .netMode) hfile noParams
  have hall : (SharedParam.netMode.settings text).filter SharedParam.netMode.stored =
      SharedParam.netMode.settings text := List.filter_eq_self.2 fun _ _ => rfl
  rw [hall] at hmode
  simp only [SharedParam.ofNet, noParams] at hconnections hport hmode
  rw [NetParams.valid, noParams]
  simp only [Bool.and_eq_true, Bool.or_eq_true, decide_eq_true_eq, hconnections, hport, hmode]
  rw [stored_ne_zero rfl, stored_ne_zero rfl]
  constructor
  · rintro ⟨⟨hcount, hlocal⟩, hlast⟩
    refine ⟨hcount, hlocal, fun v hv => ?_⟩
    rwa [hv] at hlast
  · rintro ⟨hcount, hlocal, hlast⟩
    refine ⟨⟨hcount, hlocal⟩, ?_⟩
    cases hv : (SharedParam.netMode.settings text).getLast? with
    | none => exact .inl rfl
    | some v => exact hlast v hv

end Text

/-! ## Prestart -/

/-- The text of the generated file that prestart finds. -/
def foundText (env : RocEnv) : Option (List Char) :=
  (vtpGetGeneratedConfigPath env.codaConfig env.config.hostname 512).bind env.config.files

/-- What `vtpConfig` does on the file: it comes to its end with this configuration and these
registers. -/
def ConfigEnds (env : RocEnv) (s : RocState) (conf : VtpConf) (r : Regs) : Prop :=
  ∃ lib r₀ path code conf₀, env.vtpInit s.regs = some (lib, r₀) ∧
    vtpGetGeneratedConfigPath env.codaConfig env.config.hostname 512 = some path ∧
    vtpReadConfigFile env.config env.configStack path (vtpInitGlobals s.conf) =
      .returned code conf₀ ∧
    vtpDownloadAll lib env.fpu conf₀ env.uploadStack r₀ = (conf, r)

/-- The return before anything but `vtpInit` and `vtpConfig` has touched the board. -/
def ReturnsEarly (env : RocEnv) (s : RocState) : Prop :=
  env.vtpInit s.regs = none ∧ rocPrestart env s = .refused s ∨
    ∃ conf r, ConfigEnds env s conf r ∧
      rocPrestart env s = .refused { s with conf := conf, regs := r }

/-- A text without one of the parameters keeps prestart from the event builder. -/
structure RefusesIncomplete (env : RocEnv) (s : RocState) (text : List Char) : Prop where
  past : ∀ out, rocPrestart env s = .done out → GivesAll text
  missing : ¬ GivesAll text → ReturnsEarly env s

section Prestart

variable {env : RocEnv} {s : RocState} {text : List Char}

theorem rocPrestart_uninit (hinit : env.vtpInit s.regs = none) :
    rocPrestart env s = .refused s := by
  rw [rocPrestart, hinit]

/-- Behind `vtpConfig` the checks decide. -/
theorem rocPrestart_checks (htext : foundText env = some text) {conf : VtpConf} {r : Regs}
    (hends : ConfigEnds env s conf r) :
    (PassesChecks text → ∃ out, rocPrestart env s = .done out) ∧
      (¬ PassesChecks text → rocPrestart env s = .refused { s with conf := conf, regs := r }) := by
  obtain ⟨lib, r₀, path, code, conf₀, hinit, hpath, hread, hdownload⟩ := hends
  have hfile : env.config.files path = some text := by
    rwa [foundText, hpath, Option.bind_some] at htext
  have hvalid : (vtpReadAllFromCfg env.config.files (some path) noParams).valid = true ↔
      PassesChecks text := valid_iff hfile
  rw [rocPrestart, hinit, hpath]
  simp only [hfile, Option.isNone_some, Bool.false_eq_true, if_false, prestartFrom, hread,
    hdownload]
  constructor
  · intro hpasses
    rw [if_pos (hvalid.2 hpasses)]
    exact ⟨_, rfl⟩
  · intro hfails
    rw [if_neg (mt hvalid.1 hfails)]

end Prestart

/-- On every text prestart does what is asked if the text gives all parameters, or is
refused for one of the three that are checked. -/
theorem incomplete_refused_iff (env : RocEnv) (s : RocState) (text : List Char)
    (htext : foundText env = some text) :
    RefusesIncomplete env s text ↔
      GivesAll text ∨ env.vtpInit s.regs = none ∨
        (∃ conf r, ConfigEnds env s conf r) ∧ ¬ PassesChecks text := by
  constructor
  · rintro ⟨hpast, hmissing⟩
    by_cases hall : GivesAll text
    · exact .inl hall
    · rcases hmissing hall with ⟨hinit, -⟩ | ⟨conf, r, hends, hrefused⟩
      · exact .inr (.inl hinit)
      · refine .inr (.inr ⟨⟨conf, r, hends⟩, fun hpasses => ?_⟩)
        obtain ⟨out, hdone⟩ := (rocPrestart_checks htext hends).1 hpasses
        rw [hrefused] at hdone
        cases hdone
  · rintro (hall | hinit | ⟨⟨conf, r, hends⟩, hfails⟩)
    · exact ⟨fun _ _ => hall, fun hnot => absurd hall hnot⟩
    · have hrefused := rocPrestart_uninit hinit
      refine ⟨fun out hdone => ?_, fun _ => .inl ⟨hinit, hrefused⟩⟩
      rw [hrefused] at hdone
      cases hdone
    · have hrefused := (rocPrestart_checks htext hends).2 hfails
      refine ⟨fun out hdone => ?_, fun _ => .inr ⟨conf, r, hends, hrefused⟩⟩
      rw [hrefused] at hdone
      cases hdone

/-- The file of `sampleConfig` with a mode and an EJFAT enable. -/
def completeText : List Char :=
  "VTP_NUM_CONNECTIONS 1\nVTP_LOCAL_PORT 10001\nVTP_NET_MODE 1\nVTP_ENABLE_EJFAT 0\n".toList

def completeEnv : RocEnv :=
  { sampleEnv 5#32 with config := { sampleConfig with files := fun _ => some completeText } }

theorem incomplete_refused_complete :
    foundText completeEnv = some completeText ∧
      RefusesIncomplete completeEnv sampleState completeText := by
  have hfound : foundText completeEnv = some completeText := by decide
  have hconnections : SharedParam.numConnections.settings completeText = [1#32] := by decide
  have hport : SharedParam.localPort.settings completeText = [10001#32] := by decide
  have hmode : SharedParam.netMode.settings completeText = [1#32] := by decide
  have hejfat : SharedParam.enableEjfat.settings completeText = [0#32] := by decide
  have hall : GivesAll completeText := by
    constructor
    · rw [hconnections]
      exact ⟨1#32, List.mem_singleton_self _, by decide⟩
    · rw [hport]
      exact ⟨10001#32, List.mem_singleton_self _, by decide⟩
    · rw [hmode]
      exact ⟨1#32, List.mem_singleton_self _, .inr rfl⟩
    · rw [hejfat]
      exact ⟨0#32, List.mem_singleton_self _⟩
  exact ⟨hfound, (incomplete_refused_iff completeEnv sampleState completeText hfound).2 (.inl hall)⟩

def incompleteText : List Char := " VTP_NUM_CONNECTIONS 1\n VTP_LOCAL_PORT 10001\n".toList

/-- Without a mode and an EJFAT enable prestart goes on to its end. -/
theorem incomplete_accepted :
    foundText (sampleEnv 5#32) = some incompleteText ∧
      SharedParam.netMode.settings incompleteText = [] ∧
      SharedParam.enableEjfat.settings incompleteText = [] ∧
      (∃ out, rocPrestart (sampleEnv 5#32) sampleState = .done out) ∧
      ¬ RefusesIncomplete (sampleEnv 5#32) sampleState incompleteText := by
  have hmode : SharedParam.netMode.settings incompleteText = [] := by decide
  obtain ⟨out, hdone, -⟩ := samplePrestart_done 5#32
  refine ⟨by decide, hmode, by decide, ⟨out, hdone⟩, fun hrefuses => ?_⟩
  obtain ⟨v, hv, -⟩ := (hrefuses.past out hdone).mode
  rw [hmode] at hv
  exact absurd hv List.not_mem_nil

end VtpStreaming
