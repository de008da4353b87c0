import VtpStreaming.Clib.Lines
import VtpStreaming.ConfigKeys

/-!
# Reading a configuration file

`vtp/vtpConfig.c`, `vtpReadConfigFile`: how the file is found, how it is cut
into lines, which lines are read, and what a run over all of them returns.
-/

namespace VtpStreaming

open Clib

def fnlen : Nat := 250
def strlen : Nat := 250
def roclen : Nat := 80

/-- What the function takes from its surroundings: the host name, two
environment variables and the files. -/
structure ConfigEnv where
  hostname : List Char
  vtpParams : Option (List Char)
  expid : List Char
  files : List Char → Option (List Char)

/-- `host`: the name without its domain. -/
def ConfigEnv.host (env : ConfigEnv) : List Char := env.hostname.takeWhile fun c => c ≠ '.'

/-- The uninitialised variables of the function. -/
structure ConfigStack where
  msk : Fin 16 → Word
  trgBit : Word
  keyword : List Char
  rocName : List Char

/-! ## Cutting the file into lines -/

/-- A piece of the file: a line that `fgets` hands out, or a skipped line whose
end is never found. -/
inductive FilePiece
  | line (s : List Char)
  | unended
deriving DecidableEq

/-- Where the reading stands: before the first character of a line, in a line
that is skipped, or in a line that is handed out. -/
inductive ReadMode
  | fresh
  | skipping
  | inLine (acc : List Char)

def piecesFrom : ReadMode → List Char → List FilePiece
  | .fresh, [] => []
  -- `while ( getc(fd)!='\n' )` does not look for the end of the file
  | .skipping, [] => [.unended]
  | .inLine acc, [] => [.line acc]
  | .fresh, c :: cs =>
      if c = '#' ∨ c = ' ' ∨ c = '\t' then piecesFrom .skipping cs
      else if c = '\n' then piecesFrom .fresh cs
      else piecesFrom (.inLine [c]) cs
  | .skipping, c :: cs => if c = '\n' then piecesFrom .fresh cs else piecesFrom .skipping cs
  | .inLine acc, c :: cs =>
      if c = '\n' ∨ acc.length + 1 = strlen - 1 then .line (acc ++ [c]) :: piecesFrom .fresh cs
      else piecesFrom (.inLine (acc ++ [c])) cs

def filePieces (text : List Char) : List FilePiece := piecesFrom .fresh text

/-! ## One line -/

structure ReadState where
  conf : VtpConf
  locals : Locals
  active : Bool
  keyword : List Char
  rocName : List Char

/-- `sscanf (str_tmp, "%s %s", keyword, ROC_name)`. A line without words leaves
both as they were. -/
def lineWords (line : List Char) (s : ReadState) : ReadState :=
  match scanWord line with
  | none => s
  | some (w, rest) =>
      match scanWord rest with
      | none => { s with keyword := w }
      | some (r, _) => { s with keyword := w, rocName := r }

/-- Both words fit their arrays. -/
def wordsFit (s : ReadState) : Bool := s.keyword.length < roclen && s.rocName.length < roclen

/-- The branch of the keyword, on an active line. -/
def runBranch (line : List Char) (s : ReadState) : Outcome ReadState :=
  match branchOf s.keyword with
  | none => .next s
  | some branch =>
      match branch line (s.conf, s.locals) with
      | .next (conf, l) => .next { s with conf := conf, locals := l }
      | .ret code (conf, l) => .ret code { s with conf := conf, locals := l }
      | .fault => .fault

def readLine (host line : List Char) (s : ReadState) : Outcome ReadState :=
  let line := cString line
  let s := lineWords line s
  if !wordsFit s then .fault
  else if s.keyword = "VTP_CRATE".toList then
    .next { s with active := s.rocName = host || s.rocName = "all".toList }
  else if !s.active then .next s
  else runBranch line s

/-! ## The whole file -/

/-- How the call ends. -/
inductive ReadResult
  | returned (code : Int) (conf : VtpConf)
  | hangs
  | faults

def readPieces (host : List Char) : List FilePiece → ReadState → ReadResult
  | [], s => .returned 0 s.conf
  | .unended :: _, _ => .hangs
  | .line l :: ps, s =>
      match readLine host l s with
      | .next s => readPieces host ps s
      | .ret code s => .returned code s.conf
      | .fault => .faults

def readStart (stack : ConfigStack) (conf : VtpConf) : ReadState where
  conf := conf
  locals := { msk := stack.msk, trgBit := stack.trgBit, streamingEb := 0 }
  active := false
  keyword := stack.keyword
  rocName := stack.rocName

/-- The parsing of an open file. -/
def readConfigText (host : List Char) (stack : ConfigStack) (text : List Char) (conf : VtpConf) :
    ReadResult :=
  readPieces host (filePieces text) (readStart stack conf)

/-- The path of a file that is named. -/
def namedPath (env : ConfigEnv) (filename : List Char) : List Char :=
  if filename.head? = some '/' ∨ filename.take 2 = "./".toList then filename
  else env.vtpParams.getD "./".toList ++ "/vtp/".toList ++ filename

/-- The paths tried when no file is named. -/
def defaultPath (env : ConfigEnv) (name : List Char) : List Char :=
  env.vtpParams.getD "./".toList ++ "/vtp/".toList ++ name ++ ".cnf".toList

def vtpReadConfigFile (env : ConfigEnv) (stack : ConfigStack) (filename : List Char)
    (conf : VtpConf) : ReadResult :=
  if fnlen ≤ filename.length then .faults
  else if filename ≠ [] then
    if fnlen ≤ (namedPath env filename).length then .faults
    else
      match env.files (namedPath env filename) with
      | none => .returned (-1) conf
      | some text => readConfigText env.host stack text conf
  else if fnlen ≤ (defaultPath env env.host).length then .faults
  else
    match env.files (defaultPath env env.host) with
    | some text => readConfigText env.host stack text conf
    | none =>
        if fnlen ≤ (defaultPath env env.expid).length then .faults
        else
          match env.files (defaultPath env env.expid) with
          | none => .returned (-2) conf
          | some text => readConfigText env.host stack text conf

/-- The name of a file with this text. -/
structure Opens (env : ConfigEnv) (filename text : List Char) : Prop where
  named : filename ≠ []
  nameFits : filename.length < fnlen
  pathFits : (namedPath env filename).length < fnlen
  content : env.files (namedPath env filename) = some text

theorem vtpReadConfigFile_opens {env : ConfigEnv} {filename text : List Char}
    (h : Opens env filename text) (stack : ConfigStack) (conf : VtpConf) :
    vtpReadConfigFile env stack filename conf = readConfigText env.host stack text conf := by
  unfold vtpReadConfigFile
  rw [if_neg (Nat.not_le.mpr h.nameFits), if_pos h.named, if_neg (Nat.not_le.mpr h.pathFits),
    h.content]

/-! ## Lines that are read -/

/-- A line that is neither empty nor skipped. -/
def isRead : List Char → Bool
  | [] => false
  | c :: _ => c ≠ '#' && c ≠ ' ' && c ≠ '\t' && c ≠ '\n'

theorem piecesFrom_inLine {acc l rest : List Char} (hl : '\n' ∉ l)
    (hlen : acc.length + l.length + 1 < strlen) :
    piecesFrom (.inLine acc) (l ++ '\n' :: rest) =
      .line (acc ++ l ++ ['\n']) :: piecesFrom .fresh rest := by
  induction l generalizing acc with
  | nil => rw [List.nil_append, piecesFrom, if_pos (Or.inl rfl), List.append_nil]
  | cons c cs ih =>
    simp only [List.mem_cons, not_or] at hl
    simp only [List.length_cons] at hlen
    have hgo : ¬ (c = '\n' ∨ acc.length + 1 = strlen - 1) := by
      rintro (rfl | hfull)
      · exact hl.1 rfl
      · omega
    rw [List.cons_append, piecesFrom, if_neg hgo, ih hl.2 (by simp; omega)]
    simp

theorem piecesFrom_skipping {l rest : List Char} (hl : '\n' ∉ l) :
    piecesFrom .skipping (l ++ '\n' :: rest) = piecesFrom .fresh rest := by
  induction l with
  | nil => rw [List.nil_append, piecesFrom, if_pos rfl]
  | cons c cs ih =>
    simp only [List.mem_cons, not_or] at hl
    rw [List.cons_append, piecesFrom, if_neg fun h => hl.1 h.symm, ih hl.2]

/-- One line of the file: handed out when it is read, left out otherwise. -/
theorem filePieces_line {l rest : List Char} (hl : '\n' ∉ l) (hlen : l.length + 1 < strlen) :
    filePieces (l ++ '\n' :: rest) =
      if isRead l then .line (l ++ ['\n']) :: filePieces rest else filePieces rest := by
  cases l with
  | nil => rfl
  | cons c cs =>
    simp only [List.mem_cons, not_or] at hl
    simp only [List.length_cons] at hlen
    rw [filePieces, List.cons_append, piecesFrom]
    by_cases hskip : c = '#' ∨ c = ' ' ∨ c = '\t'
    · rw [if_pos hskip, piecesFrom_skipping hl.2, if_neg]
      · rfl
      · obtain rfl | rfl | rfl := hskip <;> simp [isRead]
    · have hread : isRead (c :: cs) = true := by
        simp only [not_or] at hskip
        simp [isRead, hskip, Ne.symm hl.1]
      rw [if_neg hskip, if_neg fun h => hl.1 h.symm, if_pos hread,
        piecesFrom_inLine hl.2 (by simp; omega)]
      rfl

/-! ## Between two lines -/

/-- The beginning of a text, up to a place where a line begins. -/
def LineStart (pre : List Char) : Prop := pre = [] ∨ ∃ p, pre = p ++ ['\n']

def FilePiece.text : FilePiece → Option (List Char)
  | .line l => some l
  | .unended => none

/-- The lines of it that are read. -/
def handedOut (pre : List Char) : List (List Char) := (filePieces pre).filterMap FilePiece.text

/-- A newline ends what comes before it, whatever it is. -/
theorem piecesFrom_append (mode : ReadMode) (p rest : List Char) :
    piecesFrom mode (p ++ '\n' :: rest) =
      ((piecesFrom mode (p ++ ['\n'])).filterMap FilePiece.text).map .line ++ filePieces rest := by
  induction p generalizing mode with
  | nil => cases mode <;> simp [piecesFrom, filePieces, FilePiece.text]
  | cons c cs ih =>
    rw [List.cons_append, List.cons_append]
    cases mode with
    | fresh =>
      rw [piecesFrom, piecesFrom]
      split
      · exact ih _
      · split
        · exact ih _
        · exact ih _
    | skipping =>
      rw [piecesFrom, piecesFrom]
      split
      · exact ih _
      · exact ih _
    | inLine acc =>
      rw [piecesFrom, piecesFrom]
      split
      · rw [ih]
        rfl
      · exact ih _

theorem LineStart.pieces {pre : List Char} (h : LineStart pre) (rest : List Char) :
    filePieces (pre ++ rest) = (handedOut pre).map .line ++ filePieces rest := by
  obtain rfl | ⟨p, rfl⟩ := h
  · rfl
  · rw [List.append_assoc]
    exact piecesFrom_append .fresh p rest

theorem LineStart.handedOut_append {pre : List Char} (h : LineStart pre) (rest : List Char) :
    handedOut (pre ++ rest) = handedOut pre ++ handedOut rest := by
  have hlines : FilePiece.text ∘ .line = some := rfl
  unfold handedOut
  rw [h.pieces, List.filterMap_append, List.filterMap_map, hlines, List.filterMap_some]
  rfl

theorem handedOut_line {l : List Char} (hl : '\n' ∉ l) (hlen : l.length + 1 < strlen)
    (hread : isRead l = true) : handedOut (l ++ ['\n']) = [l ++ ['\n']] := by
  unfold handedOut
  rw [filePieces_line hl hlen, if_pos hread]
  rfl

end VtpStreaming
