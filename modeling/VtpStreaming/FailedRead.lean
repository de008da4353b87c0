import VtpStreaming.QuietLines
import VtpStreaming.RoundTrip

/-!
# What a read that fails leaves behind

A line that is rejected ends the call where it stands. What the lines before it
have stored stays.
-/

namespace VtpStreaming

open Clib

/-- No line before the one that ends the reading stores anything. -/
def QuietBefore (host : List Char) : List FilePiece → ReadState → Prop
  | [], _ => True
  | .unended :: _, _ => True
  | .line l :: ps, s =>
      match readLine host l s with
      | .next s' => QuietLine (cString l) (lineWords (cString l) s) ∧ QuietBefore host ps s'
      | _ => True

/-- How a reading ends, as a function of the configuration before. -/
inductive ReadEffect (run : VtpConf → ReadResult) (stores : List (VtpConf → VtpConf)) : Prop
  | returned (code : Int) : (∀ c, run c = .returned code (storeAll stores c)) → ReadEffect run stores
  | hangs : (∀ c, run c = .hangs) → ReadEffect run stores
  | faults : (∀ c, run c = .faults) → ReadEffect run stores

variable {host : List Char}

/-- The lines that are read through make lasting stores, one after the other. -/
theorem readPieces_effect (ps : List FilePiece) (s : ReadState) :
    ∃ stores, ReadEffect (fun c => readPieces host ps { s with conf := c }) stores ∧
      (∀ f ∈ stores, Lasting f) ∧
      (QuietBefore host ps s ↔ ∀ f ∈ stores, ∀ c, f c = c) := by
  induction ps generalizing s with
  | nil => exact ⟨[], .returned 0 fun _ => rfl, nofun, fun _ => nofun, fun _ => trivial⟩
  | cons p ps ih =>
    cases p with
    | unended => exact ⟨[], .hangs fun _ => rfl, nofun, fun _ => nofun, fun _ => trivial⟩
    | line l =>
      have hself : readLine host l s = readLine host l { s with conf := s.conf } := rfl
      cases readLine_effect host l s with
      | next f s' hrun hf =>
        obtain ⟨stores, heffect, hlasting, hquiet⟩ := ih { s' with conf := f s.conf }
        refine ⟨f :: stores, ?_, List.forall_mem_cons.mpr ⟨hf, hlasting⟩, ?_⟩
        · have hstep : ∀ c, readPieces host (.line l :: ps) { s with conf := c } =
              readPieces host ps { s' with conf := f c } := by
            intro c
            rw [readPieces, hrun]
          cases heffect with
          | returned code h => exact .returned code fun c => (hstep c).trans (h (f c))
          | hangs h => exact .hangs fun c => (hstep c).trans (h (f c))
          | faults h => exact .faults fun c => (hstep c).trans (h (f c))
        · rw [QuietBefore, hself, hrun, List.forall_mem_cons]
          exact and_congr (quietLine_iff hrun) hquiet
      | ret code s' hrun =>
        refine ⟨[], .returned code ?_, nofun, ?_⟩
        · intro c
          show readPieces host (.line l :: ps) { s with conf := c } = _
          rw [readPieces, hrun]
          rfl
        · rw [QuietBefore, hself, hrun]
          exact ⟨fun _ => nofun, fun _ => trivial⟩
      | fault hrun =>
        refine ⟨[], .faults ?_, nofun, ?_⟩
        · intro c
          show readPieces host (.line l :: ps) { s with conf := c } = _
          rw [readPieces, hrun]
        · rw [QuietBefore, hself, hrun]
          exact ⟨fun _ => nofun, fun _ => trivial⟩

/-! ## The whole call -/

/-- The file that the call opens, if there is one. -/
def openedText (env : ConfigEnv) (filename : List Char) : Option (List Char) :=
  if filename ≠ [] then env.files (namedPath env filename)
  else
    match env.files (defaultPath env env.host) with
    | some text => some text
    | none => env.files (defaultPath env env.expid)

/-- A call that returns has opened that file, or none. -/
theorem vtpReadConfigFile_returned {env : ConfigEnv} {stack : ConfigStack} {filename : List Char}
    {conf conf' : VtpConf} {code : Int}
    (h : vtpReadConfigFile env stack filename conf = .returned code conf') :
    match openedText env filename with
    | none => ∀ c, vtpReadConfigFile env stack filename c = .returned code c
    | some text => ∀ c, vtpReadConfigFile env stack filename c =
        readConfigText env.host stack text c := by
  unfold vtpReadConfigFile at h ⊢
  unfold openedText
  split at h
  · cases h
  next hname =>
  simp only [if_neg hname]
  by_cases hnamed : filename ≠ []
  · rw [if_pos hnamed] at h ⊢
    split at h
    · cases h
    next hpath =>
    simp only [if_pos hnamed, if_neg hpath]
    cases hfile : env.files (namedPath env filename) with
    | none =>
      rw [hfile] at h
      cases h
      exact fun _ => rfl
    | some text => exact fun _ => rfl
  · rw [if_neg hnamed] at h ⊢
    split at h
    · cases h
    next hhost =>
    simp only [if_neg hnamed, if_neg hhost]
    cases hfile : env.files (defaultPath env env.host) with
    | some text => exact fun _ => rfl
    | none =>
      rw [hfile] at h
      dsimp only at h ⊢
      split at h
      · cases h
      next hexpid =>
      simp only [if_neg hexpid]
      cases hfile : env.files (defaultPath env env.expid) with
      | none =>
        rw [hfile] at h
        cases h
        exact fun _ => rfl
      | some text => exact fun _ => rfl

/-- A call that comes back leaves every configuration alone exactly when no
line before the one that is rejected stores anything. -/
theorem failed_read_keeps_iff {env : ConfigEnv} {stack : ConfigStack} {filename : List Char}
    {conf conf' : VtpConf} {code : Int}
    (h : vtpReadConfigFile env stack filename conf = .returned code conf') :
    (∀ c, vtpReadConfigFile env stack filename c = .returned code c) ↔
      ∀ text, openedText env filename = some text →
        QuietBefore env.host (filePieces text) (readStart stack conf) := by
  have hopened := vtpReadConfigFile_returned h
  cases htext : openedText env filename with
  | none =>
    rw [htext] at hopened
    exact ⟨fun _ => nofun, fun _ => hopened⟩
  | some text =>
    rw [htext] at hopened
    have hopened : ∀ c, vtpReadConfigFile env stack filename c =
        readConfigText env.host stack text c := hopened
    obtain ⟨stores, heffect, hlasting, hquiet⟩ :=
      @readPieces_effect env.host (filePieces text) (readStart stack conf)
    have hrun : ∀ c, vtpReadConfigFile env stack filename c =
        readPieces env.host (filePieces text) { readStart stack conf with conf := c } := hopened
    rw [hrun] at h
    have hreturned : ∀ c, vtpReadConfigFile env stack filename c =
        .returned code (storeAll stores c) := by
      intro c
      rw [hrun]
      cases heffect with
      | returned code' hret =>
        rw [hret] at h
        cases h
        exact hret c
      | hangs hhangs =>
        rw [hhangs] at h
        cases h
      | faults hfaults =>
        rw [hfaults] at h
        cases h
    simp only [hreturned, ReadResult.returned.injEq, true_and, Option.some.injEq, forall_eq',
      storeAll_eq_self hlasting, hquiet]

/-! ## Two files -/

/-- The call returns `code`, with a configuration that passes the check. -/
def ReadResult.endsIn (code : Int) (check : VtpConf → Bool) : ReadResult → Bool
  | .returned c conf => c == code && check conf
  | _ => false

theorem ReadResult.endsIn_iff {code : Int} {check : VtpConf → Bool} {r : ReadResult} :
    r.endsIn code check = true ↔ ∃ conf, r = .returned code conf ∧ check conf = true := by
  cases r with
  | returned c conf => simp [endsIn]
  | hangs => simp [endsIn]
  | faults => simp [endsIn]

/-- Before the bad index, the file only says whom it is for. -/
theorem failed_read_keeps_index :
    (∃ conf, vtpReadConfigFile (hostOf "VTP_CRATE all\nVTP_STREAMING 5\n".toList) freshStack
      "/cnf".toList default = .returned (-4) conf) ∧
    ∀ c, vtpReadConfigFile (hostOf "VTP_CRATE all\nVTP_STREAMING 5\n".toList) freshStack
      "/cnf".toList c = .returned (-4) c := by
  have hread : (vtpReadConfigFile (hostOf "VTP_CRATE all\nVTP_STREAMING 5\n".toList) freshStack
      "/cnf".toList default).endsIn (-4) (fun _ => true) = true := by
    decide +kernel
  obtain ⟨conf, hread, -⟩ := ReadResult.endsIn_iff.mp hread
  refine ⟨⟨conf, hread⟩, (failed_read_keeps_iff hread).mpr ?_⟩
  intro text htext
  have hpieces : filePieces "VTP_CRATE all\nVTP_STREAMING 5\n".toList =
      [.line "VTP_CRATE all\n".toList, .line "VTP_STREAMING 5\n".toList] := by
    rw [literal rfl, literal rfl, literal rfl]
    decide
  cases htext
  rw [hpieces, literal rfl, literal rfl]
  exact ⟨.inl rfl, trivial⟩

/-- A width in front of a mask with a bad bit stays. -/
theorem failed_read_changes :
    ∃ conf, vtpReadConfigFile
        (hostOf "VTP_CRATE all\nVTP_W_WIDTH 400\nVTP_FIBER_EN 2 0 0 0\n".toList) freshStack
        "/cnf".toList default = .returned (-6) conf ∧ conf ≠ default := by
  have hread : (vtpReadConfigFile
      (hostOf "VTP_CRATE all\nVTP_W_WIDTH 400\nVTP_FIBER_EN 2 0 0 0\n".toList) freshStack
      "/cnf".toList default).endsIn (-6) (fun conf => conf.windowWidth == 400#32) = true := by
    decide +kernel
  obtain ⟨conf, hread, hwidth⟩ := ReadResult.endsIn_iff.mp hread
  refine ⟨conf, hread, ?_⟩
  rintro rfl
  exact absurd hwidth (by decide)

end VtpStreaming
