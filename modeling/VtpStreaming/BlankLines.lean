import VtpStreaming.MaskLines

/-!
# Blank lines

`vtp/vtpConfig.c`, `vtpReadConfigFile`. A line that begins with a space, a tab or a
newline is skipped. Other white space is handed to `sscanf`, which finds no word in it
and leaves the keyword of the line before.
-/

namespace VtpStreaming

open Clib Function

/-! ## Files with one more line -/

/-- White space up to a newline. -/
structure BlankLine (b : List Char) : Prop where
  blank : Clib.Blank b
  ended : ∃ ws, b = ws ++ ['\n'] ∧ '\n' ∉ ws

/-- The line is gone after its first character. -/
def Skipped (b : List Char) : Prop :=
  b.head? = some ' ' ∨ b.head? = some '\t' ∨ b.head? = some '\n'

/-- The same surroundings with another text in one file. -/
def ConfigEnv.withFile (env : ConfigEnv) (path text : List Char) : ConfigEnv :=
  { env with files := update env.files path (some text) }

/-- Wherever the line is put in a file, reading comes to the same end. -/
def Neutral (b : List Char) : Prop :=
  ∀ (env : ConfigEnv) (stack : ConfigStack) (filename : List Char) (conf : VtpConf)
    (path pre rest : List Char), LineStart pre → env.files path = some (pre ++ rest) →
    vtpReadConfigFile (env.withFile path (pre ++ (b ++ rest))) stack filename conf =
      vtpReadConfigFile env stack filename conf

section File

variable {env : ConfigEnv} {path text text' : List Char} {stack : ConfigStack} {conf : VtpConf}

/-- Another text that is read to the same end. -/
theorem vtpReadConfigFile_withFile (hfile : env.files path = some text)
    (h : readConfigText env.host stack text' conf = readConfigText env.host stack text conf)
    (filename : List Char) :
    vtpReadConfigFile (env.withFile path text') stack filename conf =
      vtpReadConfigFile env stack filename conf := by
  have hfiles : ∀ p, (env.withFile path text').files p = env.files p ∨
      (env.withFile path text').files p = some text' ∧ env.files p = some text := by
    intro p
    by_cases hp : p = path
    · subst hp
      exact .inr ⟨update_self .., hfile⟩
    · exact .inl (update_of_ne hp ..)
  have hhost : (env.withFile path text').host = env.host := rfl
  have hnamed : namedPath (env.withFile path text') filename = namedPath env filename := rfl
  have hdefault : ∀ name, defaultPath (env.withFile path text') name = defaultPath env name :=
    fun _ => rfl
  have hexpid : (env.withFile path text').expid = env.expid := rfl
  unfold vtpReadConfigFile
  rw [hhost, hnamed, hexpid]
  simp only [hdefault]
  split
  · rfl
  split
  · -- a file that is named is the only one that is tried
    split
    · rfl
    obtain heq | ⟨hnew, hold⟩ := hfiles (namedPath env filename)
    · rw [heq]
    · rw [hnew, hold]
      exact h
  split
  · rfl
  -- without a name, the file of the host and then that of the experiment
  obtain heq | ⟨hnew, hold⟩ := hfiles (defaultPath env env.host)
  · rw [heq]
    cases env.files (defaultPath env env.host) with
    | some t => rfl
    | none =>
      dsimp only
      split
      · rfl
      obtain heq | ⟨hnew, hold⟩ := hfiles (defaultPath env env.expid)
      · rw [heq]
      · rw [hnew, hold]
        exact h
  · rw [hnew, hold]
    exact h

end File

/-! ## Pieces of white space -/

section Pieces

variable {b rest : List Char}

theorem filePieces_skipped (hb : BlankLine b) (h : Skipped b) :
    filePieces (b ++ rest) = filePieces rest := by
  obtain ⟨ws, rfl, hnewline⟩ := hb.ended
  cases ws with
  | nil => rfl
  | cons c cs =>
    have hskip : c = '#' ∨ c = ' ' ∨ c = '\t' := by
      obtain hc | hc | hc := h
      · exact .inr (.inl (Option.some.inj hc))
      · exact .inr (.inr (Option.some.inj hc))
      · cases hc
        exact absurd List.mem_cons_self hnewline
    rw [List.append_assoc, List.cons_append, List.cons_append, filePieces, piecesFrom, if_pos hskip]
    exact piecesFrom_skipping fun hmem => hnewline (List.mem_cons_of_mem c hmem)

/-- How a line begins that has been read so far. -/
def ReadMode.seen : ReadMode → List Char
  | .inLine acc => acc
  | _ => []

/-- Of white space only white space is handed out. -/
theorem blank_pieces {mode : ReadMode} (hseen : Clib.Blank mode.seen) (hb : Clib.Blank b) :
    ∀ l ∈ (piecesFrom mode b).filterMap FilePiece.text, Clib.Blank l := by
  induction b generalizing mode with
  | nil =>
    cases mode with
    | fresh => exact nofun
    | skipping => exact nofun
    | inLine acc =>
      intro l hl
      obtain rfl := List.mem_singleton.mp hl
      exact hseen
  | cons c cs ih =>
    simp only [Clib.Blank, List.all_cons, Bool.and_eq_true] at hb
    cases mode with
    | fresh =>
      rw [piecesFrom]
      split
      · exact ih rfl hb.2
      · split
        · exact ih rfl hb.2
        · refine ih ?_ hb.2
          simp [ReadMode.seen, hb.1]
    | skipping =>
      -- what is skipped ends at the newline, or with the text
      rw [piecesFrom]
      split
      · exact ih rfl hb.2
      · exact ih rfl hb.2
    | inLine acc =>
      have hacc : Clib.Blank acc := hseen
      have hmore : Clib.Blank (acc ++ [c]) := by
        simp only [Clib.Blank, List.all_append, hacc, List.all_cons, hb.1, List.all_nil,
          Bool.and_self]
      rw [piecesFrom]
      split
      · show ∀ l ∈ (acc ++ [c]) :: (piecesFrom .fresh cs).filterMap FilePiece.text, Clib.Blank l
        intro l hl
        obtain rfl | hl := List.mem_cons.mp hl
        · exact hmore
        · exact ih rfl hb.2 l hl
      · exact ih hmore hb.2

/-- A line that is begun is handed out. -/
theorem inLine_handed (acc text : List Char) :
    (piecesFrom (.inLine acc) text).filterMap FilePiece.text ≠ [] := by
  induction text generalizing acc with
  | nil => exact List.cons_ne_nil _ _
  | cons c cs ih =>
    rw [piecesFrom]
    split
    · exact List.cons_ne_nil _ _
    · exact ih _

theorem handedOut_blank (hb : BlankLine b) (h : ¬ Skipped b) : handedOut b ≠ [] := by
  obtain ⟨ws, rfl, hnewline⟩ := hb.ended
  cases ws with
  | nil => exact absurd (.inr (.inr rfl)) h
  | cons c cs =>
    have hblank := hb.blank
    simp only [Skipped, List.cons_append, List.head?_cons, Option.some.injEq, not_or] at h
    have hhash : c ≠ '#' := by
      rintro rfl
      simp [Clib.Blank, isSpace] at hblank
    rw [handedOut, filePieces, List.cons_append, piecesFrom,
      if_neg (by rintro (hc | hc | hc); exacts [hhash hc, h.1 hc, h.2.1 hc]), if_neg h.2.2]
    exact inLine_handed _ _

end Pieces

/-! ## The keyword of the line before -/

section Rerun

variable {host l : List Char} {s s' : ReadState}

theorem scanWord_blank (hl : Clib.Blank l) : scanWord l = none := by
  have hskip : skipSpace l = [] := List.dropWhile_eq_nil_iff.mpr (List.all_eq_true.mp hl)
  have hword : Clib.wordOf [] = [] := rfl
  unfold scanWord scanString
  rw [hskip]
  dsimp only
  rw [hword, List.take_nil, if_pos rfl]

theorem scanArgs_blank {conv : List Char → Option (Word × List Char)} {n : Nat}
    (hl : Clib.Blank l) :
    scanArgs conv n l = [] := by
  unfold scanArgs
  rw [scanWord_blank hl]

theorem cString_blank (hl : Clib.Blank l) : cString l = l := by
  refine cString_of_noNul fun hnul => ?_
  have hspace := List.all_eq_true.mp hl _ hnul
  exact absurd hspace (by decide)

/-- A blank line that is handed out runs the branch of the line before, without values. -/
theorem readLine_blank (hl : Clib.Blank l) (hfit : wordsFit s = true)
    (hcrate : s.keyword ≠ "VTP_CRATE".toList) (hactive : s.active = true) :
    readLine host l s = runBranch l s := by
  unfold readLine
  dsimp only
  rw [cString_blank hl, lineWords_none (scanWord_blank hl), hfit, if_neg (by decide), if_neg hcrate,
    hactive, if_neg (by decide)]

/-- Outside an active section, and where no branch is the keyword's, it does nothing. -/
theorem readLine_blank_quiet (hl : Clib.Blank l) (hfit : wordsFit s = true)
    (hcrate : s.keyword ≠ "VTP_CRATE".toList)
    (hquiet : s.active = false ∨ branchOf s.keyword = none) : readLine host l s = .next s := by
  cases hactive : s.active with
  | false =>
    unfold readLine
    dsimp only
    rw [cString_blank hl, lineWords_none (scanWord_blank hl), hfit, if_neg (by decide),
      if_neg hcrate, hactive]
    rfl
  | true =>
    obtain hoff | hnone := hquiet
    · rw [hoff] at hactive
      cases hactive
    · rw [readLine_blank hl hfit hcrate hactive, runBranch, hnone]

theorem readLines_blank_quiet {ls : List (List Char)} (hls : ∀ l ∈ ls, Clib.Blank l)
    (hfit : wordsFit s = true) (hcrate : s.keyword ≠ "VTP_CRATE".toList)
    (hquiet : s.active = false ∨ branchOf s.keyword = none) : readLines host ls s = some s := by
  induction ls with
  | nil => rfl
  | cons l ls ih =>
    rw [readLines, readLine_blank_quiet (hls l (by simp)) hfit hcrate hquiet]
    exact ih fun m hm => hls m (by simp [hm])

/-- The line before has set the width of the window. -/
structure AfterWidth (s : ReadState) : Prop extends Reading s where
  keyword : s.keyword = networkKeys[0].1.toList

/-- The blank line sets it to 0. -/
theorem readLine_blank_width (hl : Clib.Blank l) (hs : AfterWidth s) :
    ∃ s', readLine host l s = .next s' ∧ AfterWidth s' ∧ s'.conf.windowWidth = 0#32 := by
  have hkey := networkKeys_names.1 networkKeys[0] (List.getElem_mem (by decide))
  have hfit : wordsFit s = true := by
    simp only [wordsFit, hs.keyword, Bool.and_eq_true, decide_eq_true_eq]
    exact ⟨Nat.lt_of_le_of_lt hkey.plain.length_le (by decide), hs.fits⟩
  have hcrate : s.keyword ≠ "VTP_CRATE".toList := by
    rw [hs.keyword]
    exact hkey.setting
  have hbranch : branchOf s.keyword = some networkKeys[0].2 := by
    rw [hs.keyword]
    exact branchOf_network (by decide)
  refine ⟨{ s with conf := { s.conf with windowWidth := 0#32 } }, ?_,
    ⟨⟨hs.active, hs.fits⟩, hs.keyword⟩, rfl⟩
  rw [readLine_blank hl hfit hcrate hs.active, runBranch, hbranch]
  show Outcome.next { s with conf := { s.conf with windowWidth := argi scanD 1 l 0 } } = _
  rw [argi, scanArgs_blank hl]
  rfl

theorem readLines_blank_width {ls : List (List Char)} (hne : ls ≠ [])
    (hls : ∀ l ∈ ls, Clib.Blank l)
    (hs : AfterWidth s) :
    ∃ s', readLines host ls s = some s' ∧ s'.conf.windowWidth = 0#32 := by
  induction ls generalizing s with
  | nil => exact absurd rfl hne
  | cons l ls ih =>
    obtain ⟨s', hline, hs', hwidth⟩ := readLine_blank_width (hls l (by simp)) hs
    rw [readLines, hline]
    dsimp only
    cases ls with
    | nil => exact ⟨s', rfl, hwidth⟩
    | cons m ms => exact ih (List.cons_ne_nil m ms) (fun k hk => hls k (by simp [hk])) hs'

end Rerun

/-! ## Neutral lines -/

/-- A file that sets the width of the window in its last line. -/
def widthFile : List Char := allCrates ++ (networkKeys[0].1.toList ++ " 5".toList ++ ['\n'])

theorem width_five : argi scanD 1 (networkKeys[0].1.toList ++ " 5".toList ++ ['\n']) 0 = 5#32 := by
  decide +kernel

theorem reached_widthFile (host : List Char) (stack : ConfigStack) (conf : VtpConf) :
    ∃ s, Reached host stack conf widthFile s ∧ AfterWidth s ∧ s.conf.windowWidth = 5#32 := by
  obtain ⟨s, hreached, hs, -, -⟩ := reached_allCrates host stack conf
  have hi : 0 < networkKeys.length := by decide
  have hkey := networkKeys_names.1 networkKeys[0] (List.getElem_mem hi)
  have hargs : Plain 78 " 5".toList := ⟨by decide, by decide, by decide⟩
  have hspace : Stops (fun c => !isSpace c) (" 5".toList ++ ['\n']) := rfl
  obtain ⟨r, hr, hline⟩ := readLine_key hi hargs hspace hs
  have hrun : runBranch (networkKeys[0].1.toList ++ " 5".toList ++ ['\n'])
      { s with keyword := networkKeys[0].1.toList, rocName := r } = .next { s with
        conf := { s.conf with windowWidth := 5#32 }
        keyword := networkKeys[0].1.toList
        rocName := r } := by
    unfold runBranch
    rw [branchOf_network hi, ← width_five]
    rfl
  have hplain := hkey.plain.append hargs
  have hlen := hplain.length_le
  have hshort : (networkKeys[0].1.toList ++ " 5".toList).length + 1 < 250 := by omega
  refine ⟨{ s with
    conf := { s.conf with windowWidth := 5#32 }
    keyword := networkKeys[0].1.toList
    rocName := r }, hreached.snoc hplain.noNewline hshort (isRead_append hkey) (hline.trans hrun),
    ⟨⟨hs.active, hr⟩, ?_⟩, rfl⟩
  dsimp only

/-- The width that the call leaves. -/
def widthOf : ReadResult → Option Word
  | .returned _ conf => some conf.windowWidth
  | _ => none

section Spec

variable {b : List Char}

theorem BlankLine.lineStart (hb : BlankLine b) : LineStart b := by
  obtain ⟨ws, hws, -⟩ := hb.ended
  exact .inr ⟨ws, hws⟩

/-- A blank line that is handed out takes the width back. -/
theorem widthFile_blank (hb : BlankLine b) (h : ¬ Skipped b) (stack : ConfigStack)
    (conf : VtpConf) :
    widthOf (vtpReadConfigFile (hostOf widthFile) stack "/cnf".toList conf) = some 5#32 ∧
      widthOf (vtpReadConfigFile (hostOf (widthFile ++ b)) stack "/cnf".toList conf) =
        some 0#32 := by
  rw [vtpReadConfigFile_opens (hostOf_opens widthFile),
    vtpReadConfigFile_opens (hostOf_opens (widthFile ++ b))]
  have hhost : (hostOf (widthFile ++ b)).host = (hostOf widthFile).host := rfl
  obtain ⟨s, hreached, hs, hwidth⟩ := reached_widthFile (hostOf widthFile).host stack conf
  constructor
  · have hread := hreached.rest []
    rw [List.append_nil] at hread
    rw [hread]
    exact congrArg some hwidth
  · have hblank : ∀ l ∈ handedOut b, Clib.Blank l := blank_pieces rfl hb.blank
    obtain ⟨s', hlines, hzero⟩ := readLines_blank_width
      (handedOut_blank hb h) hblank hs
    have hpieces : filePieces b = (handedOut b).map .line ++ [] := by
      have happend := hb.lineStart.pieces []
      rwa [List.append_nil] at happend
    rw [hhost, hreached.rest b, hpieces, readPieces_readLines hlines]
    exact congrArg some hzero

/-- Where no section is active or the line before has no branch, every blank line is
neutral. -/
theorem blank_line_quiet (hb : BlankLine b) {host pre : List Char} {stack : ConfigStack}
    {conf : VtpConf} {s : ReadState} (h : Reached host stack conf pre s)
    (hfit : wordsFit s = true) (hcrate : s.keyword ≠ "VTP_CRATE".toList)
    (hquiet : s.active = false ∨ branchOf s.keyword = none) (rest : List Char) :
    readConfigText host stack (pre ++ (b ++ rest)) conf =
      readConfigText host stack (pre ++ rest) conf := by
  have hblank : ∀ l ∈ handedOut b, Clib.Blank l := blank_pieces rfl hb.blank
  rw [h.rest, h.rest, hb.lineStart.pieces,
    readPieces_readLines (readLines_blank_quiet hblank hfit hcrate hquiet)]

theorem Neutral.skipped (hb : BlankLine b) (h : Neutral b) : Skipped b := by
  by_contra hskip
  obtain ⟨hfive, hzero⟩ := widthFile_blank hb hskip freshStack default
  obtain ⟨s, hreached, -, -⟩ := reached_widthFile [] freshStack default
  have hfile : (hostOf widthFile).files "/cnf".toList = some (widthFile ++ []) := by
    rw [List.append_nil]
    exact (hostOf_opens widthFile).content
  -- the line at the end of the file, behind the one that sets the width
  have hsame := h (hostOf widthFile) freshStack "/cnf".toList default "/cnf".toList widthFile []
    hreached.start hfile
  have henv : (hostOf widthFile).withFile "/cnf".toList (widthFile ++ (b ++ [])) =
      hostOf (widthFile ++ b) := by
    rw [List.append_nil]
    unfold ConfigEnv.withFile hostOf
    congr 1
    funext p
    by_cases hp : p = "/cnf".toList
    · rw [hp, update_self, if_pos rfl]
    · rw [update_of_ne hp, if_neg hp]
      exact if_neg hp
  rw [henv] at hsame
  rw [hsame, hfive] at hzero
  cases hzero

/-- A blank line is neutral in every file and at every place exactly when it begins with
a space, a tab or its newline. -/
theorem blank_line_iff (hb : BlankLine b) : Neutral b ↔ Skipped b := by
  constructor
  · exact fun h => h.skipped hb
  · intro h env stack filename conf path pre rest hpre hfile
    refine vtpReadConfigFile_withFile hfile ?_ filename
    unfold readConfigText
    rw [hpre.pieces, hpre.pieces, filePieces_skipped hb h]

theorem blank_line_iff_space : Neutral " \n".toList ↔ Skipped " \n".toList :=
  blank_line_iff ⟨by decide, [' '], by decide, by decide⟩

/-- A line that ends in a carriage return as on another system. -/
theorem carriage_return_not_neutral :
    BlankLine "\r\n".toList ∧ ¬ Neutral "\r\n".toList ∧
      widthOf (vtpReadConfigFile (hostOf widthFile) freshStack "/cnf".toList default) =
        some 5#32 ∧
      widthOf (vtpReadConfigFile (hostOf (widthFile ++ "\r\n".toList)) freshStack "/cnf".toList
        default) = some 0#32 := by
  have hblank : BlankLine "\r\n".toList := ⟨by decide, ['\r'], by decide, by decide⟩
  have hskip : ¬ Skipped "\r\n".toList := by
    unfold Skipped
    decide
  have hneutral : ¬ Neutral "\r\n".toList := fun h => hskip (h.skipped hblank)
  exact ⟨hblank, hneutral, widthFile_blank hblank hskip freshStack default⟩

end Spec

end VtpStreaming
