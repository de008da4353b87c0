import VtpStreaming.ReadConfigFile

/-!
# What a line leaves alone

A line changes the part of the configuration that its keyword is about, and a
line that ends the call makes it fail. A file that is read to its end is read
line by line.
-/

namespace VtpStreaming

open Clib

/-! ## Branches -/

section Branches

variable {σ τ α : Type} {b : Branch σ}

/-- When a line ends the call, the call fails. -/
def Fails (b : Branch σ) : Prop := ∀ line s code t, b line s = .ret code t → code ≠ 0

/-- What the branch stores does not touch `f`. -/
def Keeps (f : σ → α) (b : Branch σ) : Prop := ∀ line s t, b line s = .next t → f t.1 = f s.1

@[simp] theorem fails_next (g : List Char → σ × Locals → σ × Locals) :
    Fails fun line s => .next (g line s) := by
  intro line s code t h
  cases h

@[simp] theorem fails_ints (n : Nat) (store : (Nat → Word) → σ → σ) : Fails (ints n store) :=
  fails_next _

@[simp] theorem fails_ranged (ok : Int → Bool) (store : Word → σ → σ) : Fails (ranged ok store) :=
  fails_next _

@[simp] theorem fails_chEn (get : σ → Fin 16 → Word) (put : (Fin 16 → Word) → σ → σ) :
    Fails (chEn get put) :=
  fails_next _

@[simp] theorem fails_text (store : List Char → σ → σ) : Fails (text store) := by
  intro line s code t h
  unfold text at h
  split at h
  · cases h
  · cases h

@[simp] theorem fails_indexed (n k : Nat) (store : Fin n → (Nat → Word) → σ → σ) :
    Fails (indexed n k store) := by
  intro line s code t h
  unfold indexed at h
  dsimp only at h
  split at h
  · cases h
  · cases h
    decide

@[simp] theorem fails_indexedMixed (n : Nat) (ds : List Directive)
    (store : Fin n → List (Word ⊕ FloatText) → σ → σ) : Fails (indexedMixed n ds store) := by
  intro line s code t h
  unfold indexedMixed at h
  dsimp only at h
  split at h
  · cases h
  · cases h
    decide

theorem Fails.on {b : Branch τ} (hb : Fails b) (get : σ → τ) (put : σ → τ → σ) :
    Fails (b.on get put) := by
  intro line s code t h
  unfold Branch.on at h
  cases hrun : b line (get s.1, s.2) with
  | next t' =>
    rw [hrun] at h
    cases h
  | ret code' t' =>
    rw [hrun] at h
    cases h
    exact hb line _ code t' hrun
  | fault =>
    rw [hrun] at h
    cases h

/-- A branch of a part stores what it makes of the part. -/
theorem on_next {get : σ → τ} {put : σ → τ → σ} {b : Branch τ} {line : List Char}
    {s t : σ × Locals} (h : b.on get put line s = .next t) :
    ∃ t', b line (get s.1, s.2) = .next t' ∧ t = (put s.1 t'.1, t'.2) := by
  unfold Branch.on at h
  cases hrun : b line (get s.1, s.2) with
  | next t' =>
    rw [hrun] at h
    cases h
    exact ⟨t', rfl, rfl⟩
  | ret code t' =>
    rw [hrun] at h
    cases h
  | fault =>
    rw [hrun] at h
    cases h

/-- A part is stored into, and `f` is not about that part. -/
theorem Keeps.on {f : σ → α} {get : σ → τ} {put : σ → τ → σ} (hput : ∀ s v, f (put s v) = f s)
    (b : Branch τ) : Keeps f (b.on get put) := by
  intro line s t h
  obtain ⟨t', -, rfl⟩ := on_next h
  exact hput s.1 t'.1

/-- `f` is about the part, and the branch keeps what it says about it. -/
theorem Keeps.onSame {g : τ → α} {get : σ → τ} {put : σ → τ → σ} {b : Branch τ} (hb : Keeps g b)
    (hput : ∀ s v, get (put s v) = v) : Keeps (fun s => g (get s)) (b.on get put) := by
  intro line s t h
  obtain ⟨t', hrun, rfl⟩ := on_next h
  have hkeep := hb line _ t' hrun
  simpa only [hput] using hkeep

theorem onPart_fails {keys : List (String × Branch τ)} (h : ∀ key ∈ keys, Fails key.2)
    (get : σ → τ) (put : σ → τ → σ) : ∀ key ∈ onPart get put keys, Fails key.2 := by
  unfold onPart
  rw [List.forall_mem_map]
  intro key hkey
  exact (h key hkey).on get put

theorem onPart_keeps {f : σ → α} {get : σ → τ} {put : σ → τ → σ}
    (hput : ∀ s v, f (put s v) = f s) (keys : List (String × Branch τ)) :
    ∀ key ∈ onPart get put keys, Keeps f key.2 := by
  unfold onPart
  rw [List.forall_mem_map]
  intro key _
  exact .on hput key.2

/-- Of a part's keywords only `name` stores what `g` is about. -/
theorem onPart_keeps_same {g : τ → α} {get : σ → τ} {put : σ → τ → σ} {name : String}
    {keys : List (String × Branch τ)} (h : ∀ key ∈ keys, Keeps g key.2 ∨ key.1 = name)
    (hput : ∀ s v, get (put s v) = v) :
    ∀ key ∈ onPart get put keys, Keeps (fun s => g (get s)) key.2 ∨ key.1 = name := by
  unfold onPart
  rw [List.forall_mem_map]
  intro key hkey
  obtain hkeep | hname := h key hkey
  · exact .inl (Keeps.onSame hkeep hput)
  · exact .inr hname

theorem keeps_ranged {f : σ → α} {store : Word → σ → σ} (h : ∀ v s, f (store v s) = f s)
    (ok : Int → Bool) : Keeps f (ranged ok store) := by
  intro line s t hrun
  cases hrun
  dsimp only
  split
  · exact h _ _
  · rfl

theorem keeps_text {f : σ → α} {store : List Char → σ → σ} (h : ∀ w s, f (store w s) = f s) :
    Keeps f (text store) := by
  intro line s t hrun
  unfold text at hrun
  split at hrun
  · cases hrun
    rfl
  · cases hrun
    exact h _ _

theorem keeps_ints {f : σ → α} {store : (Nat → Word) → σ → σ} (h : ∀ a s, f (store a s) = f s)
    (n : Nat) : Keeps f (ints n store) := by
  intro line s t hrun
  cases hrun
  exact h _ _

end Branches

/-! ### The keywords -/

theorem ret_of_ite {σ : Type} {bad : Prop} [Decidable bad] {code code' : Int} {s s' t : σ}
    (h : (if bad then .ret code s else .next s' : Outcome σ) = .ret code' t) : code' = code := by
  split at h
  · cases h
    rfl
  · cases h

@[simp] theorem fails_vtpPayloadEn : Fails vtpPayloadEn := by
  intro line s code t h
  rw [ret_of_ite h]
  decide

@[simp] theorem fails_vtpFiberEn : Fails vtpFiberEn := by
  intro line s code t h
  rw [ret_of_ite h]
  decide

@[simp] theorem fails_vtpRefclk : Fails vtpRefclk := fails_next _

@[simp] theorem fails_vtpStreamingSlotEn : Fails vtpStreamingSlotEn := by
  intro line s code t h
  rw [ret_of_ite h]
  decide

@[simp] theorem fails_onEb (conv : List Char → Option (Word × List Char)) (n : Nat)
    (store : (Nat → Word) → StreamingEbCfg → StreamingEbCfg) : Fails (onEb conv n store) :=
  fails_next _

@[simp] theorem fails_vtpStreaming : Fails vtpStreaming := by
  intro line s code t h
  unfold vtpStreaming at h
  split at h
  · cases h
  · cases h
    decide

@[simp] theorem fails_vtpGtTrg : Fails vtpGtTrg := by
  intro line s code t h
  rw [ret_of_ite h]
  decide

@[simp] theorem fails_onTrgBit (store : List Char → TrgBit → TrgBit) : Fails (onTrgBit store) := by
  intro line s code t h
  unfold onTrgBit at h
  split at h
  · cases h
  · cases h
    decide

@[simp] theorem fails_vtpGtTrgbit : Fails vtpGtTrgbit := by
  intro line s code t h
  unfold vtpGtTrgbit at h
  exact fails_indexed 32 8 _ line s code t h

@[simp] theorem fails_vtpDcSegthr : Fails vtpDcSegthr := by
  intro line s code t h
  unfold vtpDcSegthr at h
  dsimp only at h
  split at h
  · cases h
    decide
  · split at h
    · cases h
    · cases h

@[simp] theorem fails_vtpComptonFadcEnMask : Fails vtpComptonFadcEnMask := by
  intro line s code t h
  unfold vtpComptonFadcEnMask at h
  dsimp only at h
  split at h
  · split at h
    · cases h
      decide
    · cases h
  · cases h
    decide

@[simp] theorem fails_onElement {n : Nat} {α σ : Type} (get : σ → Fin n → α)
    (put : (Fin n → α) → σ → σ) (k : Nat) (store : (Nat → Word) → α → α) :
    Fails (onElement get put k store) :=
  fails_indexed _ _ _

theorem networkKeys_fail : ∀ key ∈ networkKeys, Fails key.2 := by
  have hcommon : ∀ key ∈ commonKeys, Fails key.2 := by simp [commonKeys]
  have hstreaming : ∀ key ∈ streamingKeys, Fails key.2 := by simp [streamingKeys]
  have hfadc : ∀ key ∈ fadcStreamingKeys, Fails key.2 := by simp [fadcStreamingKeys]
  unfold networkKeys
  simp only [List.forall_mem_append]
  exact ⟨⟨hcommon, onPart_fails hstreaming _ _⟩, onPart_fails hfadc _ _⟩

theorem detectorKeys_fail : ∀ key ∈ detectorKeys, Fails key.2 := by
  have hecInner : ∀ key ∈ ecInnerKeys, Fails key.2 := by simp [ecInnerKeys]
  have hecOuter : ∀ key ∈ ecOuterKeys, Fails key.2 := by simp [ecOuterKeys]
  have hec : ∀ key ∈ ecKeys, Fails key.2 := by
    simp only [ecKeys, List.cons_append, List.forall_mem_cons, List.forall_mem_append]
    exact ⟨fails_chEn _ _, onPart_fails hecInner _ _, onPart_fails hecOuter _ _⟩
  have hpc : ∀ key ∈ pcKeys, Fails key.2 := by simp [pcKeys]
  have hhtcc : ∀ key ∈ htccKeys, Fails key.2 := by simp [htccKeys]
  have hftof : ∀ key ∈ ftofKeys, Fails key.2 := by simp [ftofKeys]
  have hcnd : ∀ key ∈ cndKeys, Fails key.2 := by simp [cndKeys]
  have hpcs : ∀ key ∈ pcsKeys, Fails key.2 := by simp [pcsKeys]
  have hecsInner : ∀ key ∈ ecsInnerKeys, Fails key.2 := by simp [ecsInnerKeys]
  have hecsOuter : ∀ key ∈ ecsOuterKeys, Fails key.2 := by simp [ecsOuterKeys]
  have hecs : ∀ key ∈ ecsKeys, Fails key.2 := by
    simp only [ecsKeys, List.forall_mem_append]
    refine ⟨⟨?_, onPart_fails hecsInner _ _⟩, onPart_fails hecsOuter _ _⟩
    simp
  have hgt : ∀ key ∈ gtKeys, Fails key.2 := by simp [gtKeys, vtpGtTrgbit2]
  have hdc : ∀ key ∈ dcKeys, Fails key.2 := by simp [dcKeys]
  have hhcal : ∀ key ∈ hcalKeys, Fails key.2 := by simp [hcalKeys]
  have hftcal : ∀ key ∈ ftcalKeys, Fails key.2 := by simp [ftcalKeys]
  have hfthodo : ∀ key ∈ fthodoKeys, Fails key.2 := by simp [fthodoKeys]
  have hhps : ∀ key ∈ hpsKeys, Fails key.2 := by
    have hcluster : ∀ key ∈ hpsClusterKeys, Fails key.2 := by simp [hpsClusterKeys]
    have hhodoscope : ∀ key ∈ hpsHodoscopeKeys, Fails key.2 := by simp [hpsHodoscopeKeys]
    have hcalib : ∀ key ∈ hpsCalibKeys, Fails key.2 := by simp [hpsCalibKeys]
    have hsingle : ∀ key ∈ hpsSingleKeys, Fails key.2 := by
      simp [hpsSingleKeys, onSingleTrig, vtpHpsSinglePde]
    have hpair : ∀ key ∈ hpsPairKeys, Fails key.2 := by
      simp [hpsPairKeys, onPairTrig, vtpHpsPairEnergydist]
    have hmult : ∀ key ∈ hpsMultKeys, Fails key.2 := by simp [hpsMultKeys, onMultTrig]
    have hfee : ∀ key ∈ hpsFeeKeys, Fails key.2 := by simp [hpsFeeKeys]
    have htrig : ∀ key ∈ hpsTrigKeys, Fails key.2 := by simp [hpsTrigKeys]
    simp only [hpsKeys, List.forall_mem_append]
    exact ⟨⟨⟨⟨⟨⟨⟨onPart_fails hcluster _ _, onPart_fails hhodoscope _ _⟩,
      onPart_fails hcalib _ _⟩, hsingle⟩, hpair⟩, hmult⟩, onPart_fails hfee _ _⟩,
      onPart_fails htrig _ _⟩
  have hroc : ∀ key ∈ vtpRocKeys, Fails key.2 := by simp [vtpRocKeys]
  have hcompton : ∀ key ∈ comptonKeys, Fails key.2 := by simp [comptonKeys]
  simp only [detectorKeys, List.forall_mem_append]
  exact ⟨⟨⟨⟨⟨⟨⟨⟨⟨⟨⟨⟨⟨⟨onPart_fails hec _ _, onPart_fails hpc _ _⟩, onPart_fails hhtcc _ _⟩,
    onPart_fails hftof _ _⟩, onPart_fails hcnd _ _⟩, onPart_fails hpcs _ _⟩,
    onPart_fails hecs _ _⟩, onPart_fails hgt _ _⟩, onPart_fails hdc _ _⟩, onPart_fails hhcal _ _⟩,
    onPart_fails hftcal _ _⟩, onPart_fails hfthodo _ _⟩, onPart_fails hhps _ _⟩,
    onPart_fails hroc _ _⟩, onPart_fails hcompton _ _⟩

theorem configKeys_fail : ∀ key ∈ configKeys, Fails key.2 := by
  unfold configKeys
  rw [List.forall_mem_append]
  exact ⟨networkKeys_fail, detectorKeys_fail⟩

/-- The detectors' keywords have nothing to do with the streaming. -/
theorem detectorKeys_keep :
    ∀ key ∈ detectorKeys, Keeps (fun c : VtpConf => (c.streaming, c.fadcStreaming)) key.2 := by
  have hpart : ∀ {τ : Type} (get : VtpConf → τ) (put : VtpConf → τ → VtpConf)
      (keys : List (String × Branch τ)),
      (∀ c v, (put c v).streaming = c.streaming ∧ (put c v).fadcStreaming = c.fadcStreaming) →
      ∀ key ∈ onPart get put keys,
        Keeps (fun c : VtpConf => (c.streaming, c.fadcStreaming)) key.2 := by
    intro τ get put keys hput
    exact onPart_keeps (fun c v => Prod.ext (hput c v).1 (hput c v).2) keys
  simp only [detectorKeys, List.forall_mem_append]
  refine ⟨⟨⟨⟨⟨⟨⟨⟨⟨⟨⟨⟨⟨⟨?_, ?_⟩, ?_⟩, ?_⟩, ?_⟩, ?_⟩, ?_⟩, ?_⟩, ?_⟩, ?_⟩, ?_⟩, ?_⟩, ?_⟩, ?_⟩, ?_⟩
  all_goals exact hpart _ _ _ fun _ _ => ⟨rfl, rfl⟩

theorem branchOf_mem {keyword : List Char} {b : Branch VtpConf} (h : branchOf keyword = some b) :
    ∃ name, (name, b) ∈ configKeys ∧ name.toList = keyword := by
  unfold branchOf at h
  rw [Option.map_eq_some_iff] at h
  obtain ⟨key, hfind, rfl⟩ := h
  exact ⟨key.1, List.mem_of_find?_eq_some hfind, by simpa using List.find?_some hfind⟩

/-! ## Lines -/

variable {host line : List Char} {s s' : ReadState}

/-- A line that ends the call makes it fail. -/
theorem readLine_ret {code : Int} (h : readLine host line s = .ret code s') : code ≠ 0 := by
  unfold readLine at h
  dsimp only at h
  split at h
  · cases h
  · split at h
    · cases h
    · split at h
      · cases h
      · unfold runBranch at h
        split at h
        · cases h
        · next b hb =>
          obtain ⟨name, hmem, -⟩ := branchOf_mem hb
          split at h
          · cases h
          · next code' conf l hrun =>
            cases h
            exact configKeys_fail _ hmem _ _ _ _ hrun
          · cases h

/-- What a line that is read to its end does. -/
theorem readLine_cases {w : ReadState} (hwords : lineWords (cString line) s = w)
    (h : readLine host line s = .next s') :
    wordsFit w = true ∧
      ((w.keyword = "VTP_CRATE".toList ∧
          s' = { w with active := w.rocName = host || w.rocName = "all".toList }) ∨
        (w.keyword ≠ "VTP_CRATE".toList ∧
          ((w.active = false ∨ branchOf w.keyword = none) ∧ s' = w ∨
            w.active = true ∧ ∃ b conf l, branchOf w.keyword = some b ∧
              b (cString line) (w.conf, w.locals) = .next (conf, l) ∧
              s' = { w with conf := conf, locals := l }))) := by
  unfold readLine at h
  dsimp only at h
  rw [hwords] at h
  split at h
  · cases h
  next hfit =>
  refine ⟨by simpa using hfit, ?_⟩
  split at h
  · next hcrate =>
    cases h
    exact .inl ⟨hcrate, rfl⟩
  next hcrate =>
  refine .inr ⟨hcrate, ?_⟩
  split at h
  · next hactive =>
    cases h
    exact .inl ⟨.inl (by simpa using hactive), rfl⟩
  next hactive =>
  unfold runBranch at h
  split at h
  · next hbranch =>
    cases h
    exact .inl ⟨.inr hbranch, rfl⟩
  next b hbranch =>
  split at h
  · next conf l hrun =>
    cases h
    exact .inr ⟨by simpa using hactive, b, conf, l, hbranch, hrun, rfl⟩
  · cases h
  · cases h

theorem lineWords_word {w rest : List Char} (h : scanWord line = some (w, rest)) :
    (lineWords line s).keyword = w ∧ (lineWords line s).conf = s.conf ∧
      (lineWords line s).locals = s.locals ∧ (lineWords line s).active = s.active := by
  unfold lineWords
  rw [h]
  dsimp only
  split
  · exact ⟨rfl, rfl, rfl, rfl⟩
  · exact ⟨rfl, rfl, rfl, rfl⟩

theorem lineWords_none (h : scanWord line = none) : lineWords line s = s := by
  unfold lineWords
  rw [h]

/-! ## Whole files -/

/-- Lines that are read one after the other, none of which ends the call. -/
def readLines (host : List Char) : List (List Char) → ReadState → Option ReadState
  | [], s => some s
  | l :: ls, s =>
      match readLine host l s with
      | .next s' => readLines host ls s'
      | _ => none

theorem readLines_append {ls ms : List (List Char)} :
    readLines host (ls ++ ms) s = (readLines host ls s).bind (readLines host ms) := by
  induction ls generalizing s with
  | nil => rfl
  | cons l ls ih =>
    rw [List.cons_append, readLines, readLines]
    cases readLine host l s with
    | next s' => exact ih
    | ret code s' => rfl
    | fault => rfl

theorem readPieces_readLines {ls : List (List Char)} {ps : List FilePiece}
    (h : readLines host ls s = some s') :
    readPieces host (ls.map .line ++ ps) s = readPieces host ps s' := by
  induction ls generalizing s with
  | nil =>
    cases h
    rfl
  | cons l ls ih =>
    rw [readLines] at h
    rw [List.map_cons, List.cons_append, readPieces]
    cases hline : readLine host l s with
    | next s₁ =>
      rw [hline] at h
      exact ih h
    | ret code s₁ =>
      rw [hline] at h
      cases h
    | fault =>
      rw [hline] at h
      cases h

/-- How the reading stands between two lines of a file. -/
structure Reached (host : List Char) (stack : ConfigStack) (conf : VtpConf) (pre : List Char)
    (s : ReadState) : Prop where
  start : LineStart pre
  run : readLines host (handedOut pre) (readStart stack conf) = some s

theorem Reached.rest {stack : ConfigStack} {conf : VtpConf} {pre : List Char}
    (h : Reached host stack conf pre s) (rest : List Char) :
    readConfigText host stack (pre ++ rest) conf = readPieces host (filePieces rest) s := by
  unfold readConfigText
  rw [h.start.pieces, readPieces_readLines h.run]

/-- One more line. -/
theorem Reached.snoc {stack : ConfigStack} {conf : VtpConf} {pre l : List Char}
    (h : Reached host stack conf pre s) (hl : '\n' ∉ l) (hlen : l.length + 1 < strlen)
    (hread : isRead l = true) (hline : readLine host (l ++ ['\n']) s = .next s') :
    Reached host stack conf (pre ++ (l ++ ['\n'])) s' where
  start := .inr ⟨pre ++ l, (List.append_assoc ..).symm⟩
  run := by
    rw [h.start.handedOut_append, handedOut_line hl hlen hread, readLines_append, h.run,
      Option.bind_some, readLines, hline]
    rfl

/-- The word behind the keyword fits wherever a section is active. -/
theorem Reached.fits {stack : ConfigStack} {conf : VtpConf} {pre : List Char}
    (h : Reached host stack conf pre s) (hactive : s.active = true) :
    s.rocName.length < roclen := by
  have hkeep : ∀ ls t, (t.active = true → t.rocName.length < roclen) →
      readLines host ls t = some s → s.active = true → s.rocName.length < roclen := by
    intro ls
    induction ls with
    | nil =>
      intro t ht hrun
      cases hrun
      exact ht
    | cons l ls ih =>
      intro t ht hrun
      rw [readLines] at hrun
      cases hline : readLine host l t with
      | next t' =>
        rw [hline] at hrun
        refine ih t' (fun _ => ?_) hrun
        obtain ⟨hfit, hcases⟩ := readLine_cases rfl hline
        simp only [wordsFit, Bool.and_eq_true, decide_eq_true_eq] at hfit
        obtain ⟨-, rfl⟩ | ⟨-, ⟨-, rfl⟩ | ⟨-, b, c, k, -, -, rfl⟩⟩ := hcases
        · exact hfit.2
        · exact hfit.2
        · exact hfit.2
      | ret code t' =>
        rw [hline] at hrun
        cases hrun
      | fault =>
        rw [hline] at hrun
        cases hrun
  exact hkeep _ _ (fun h => absurd h Bool.false_ne_true) h.run hactive

/-- A file that is read with success is read to its end. -/
theorem readLines_of_returned {ls : List (List Char)} {tail : List FilePiece} {conf : VtpConf}
    (htail : tail = [] ∨ tail = [.unended])
    (h : readPieces host (ls.map .line ++ tail) s = .returned 0 conf) :
    ∃ s', readLines host ls s = some s' ∧ s'.conf = conf := by
  induction ls generalizing s with
  | nil =>
    obtain rfl | rfl := htail
    · cases h
      exact ⟨s, rfl, rfl⟩
    · cases h
  | cons l ls ih =>
    rw [List.map_cons, List.cons_append, readPieces] at h
    rw [readLines]
    cases hline : readLine host l s with
    | next s' =>
      rw [hline] at h
      exact ih h
    | ret code s' =>
      rw [hline] at h
      cases h
      exact absurd rfl (readLine_ret hline)
    | fault =>
      rw [hline] at h
      cases h

/-! ### Pieces and lines -/

/-- How `vtpReadConfigFile` stands in a line that begins with `acc`. -/
def modeOf (acc : List Char) : ReadMode :=
  if acc = [] then .fresh else if isRead acc then .inLine acc else .skipping

/-- A piece ends with the text, or goes on. -/
theorem fgetsFrom_longer {n : Nat} {acc cs : List Char} {c : Char} :
    ∃ l ∈ fgetsFrom n acc (c :: cs), acc.length < l.length := by
  induction cs generalizing acc c with
  | nil =>
    rw [fgetsFrom]
    split
    · exact ⟨acc ++ [c], by simp, by simp⟩
    · refine ⟨acc ++ [c], ?_, by simp⟩
      cases hacc : acc ++ [c] with
      | nil => simp at hacc
      | cons d ds => simp [fgetsFrom]
  | cons d ds ih =>
    rw [fgetsFrom]
    split
    · exact ⟨acc ++ [c], by simp, by simp⟩
    · obtain ⟨l, hl, hlen⟩ := @ih (acc ++ [c]) d
      exact ⟨l, hl, by simp at hlen; omega⟩

/-- When every line fits, the parser is handed the lines that are read. Only
a skipped line may have no end. -/
theorem piecesFrom_fgets {acc text : List Char} (hacc : '\n' ∉ acc)
    (hfit : ∀ l ∈ fgetsFrom 1023 acc text, l.length < strlen) :
    ∃ tail, (tail = [] ∨ tail = [.unended]) ∧
      piecesFrom (modeOf acc) text =
        ((fgetsFrom 1023 acc text).filter isRead).map .line ++ tail := by
  induction text generalizing acc with
  | nil =>
    cases acc with
    | nil => exact ⟨[], .inl rfl, rfl⟩
    | cons a as =>
      unfold modeOf
      rw [if_neg (List.cons_ne_nil a as)]
      by_cases hread : isRead (a :: as) = true
      · exact ⟨[], .inl rfl, by simp [hread, piecesFrom, fgetsFrom]⟩
      · exact ⟨[.unended], .inr rfl, by simp [hread, piecesFrom, fgetsFrom]⟩
  | cons c cs ih =>
    have hlen : acc.length + 1 < 1023 := by
      obtain ⟨l, hl, hlonger⟩ := @fgetsFrom_longer 1023 acc cs c
      have hshort : l.length < 250 := hfit l hl
      omega
    by_cases hc : c = '\n'
    · subst hc
      rw [fgetsFrom, if_pos (.inl rfl)] at hfit ⊢
      obtain ⟨tail, htail, hpieces⟩ := @ih [] (by simp) fun l hl => hfit l (by simp [hl])
      refine ⟨tail, htail, ?_⟩
      have hrest : piecesFrom .fresh cs =
          ((fgetsFrom 1023 [] cs).filter isRead).map .line ++ tail := hpieces
      unfold modeOf
      cases acc with
      | nil =>
        rw [if_pos rfl, piecesFrom, if_neg (by decide), if_pos rfl, hrest]
        rfl
      | cons a as =>
        have hsame : isRead (a :: as ++ ['\n']) = isRead (a :: as) := rfl
        rw [if_neg (List.cons_ne_nil a as), List.filter_cons, hsame]
        by_cases hread : isRead (a :: as) = true
        · rw [if_pos hread, if_pos hread, piecesFrom, if_pos (.inl rfl), hrest]
          rfl
        · rw [if_neg hread, if_neg hread, piecesFrom, if_pos rfl, hrest]
    · have hnewline : '\n' ∉ acc ++ [c] := by
        simp only [List.mem_append, List.mem_singleton, not_or]
        exact ⟨hacc, fun h => hc h.symm⟩
      rw [fgetsFrom, if_neg (by rintro (h | h); exacts [hc h, by omega])] at hfit ⊢
      obtain ⟨tail, htail, hpieces⟩ := ih hnewline hfit
      refine ⟨tail, htail, ?_⟩
      rw [← hpieces]
      cases acc with
      | nil =>
        unfold modeOf
        rw [if_pos rfl, List.nil_append, if_neg (List.cons_ne_nil c []), piecesFrom]
        by_cases hskip : c = '#' ∨ c = ' ' ∨ c = '\t'
        · have hread : isRead [c] = false := by
            obtain rfl | rfl | rfl := hskip <;> rfl
          rw [if_pos hskip, if_neg (by simp [hread])]
        · have hread : isRead [c] = true := by
            simp only [not_or] at hskip
            simp [isRead, hskip, hc]
          rw [if_neg hskip, if_neg hc, if_pos hread]
      | cons a as =>
        have hsame : isRead (a :: as ++ [c]) = isRead (a :: as) := rfl
        have hne : a :: as ++ [c] ≠ [] := List.cons_ne_nil a (as ++ [c])
        unfold modeOf
        rw [if_neg (List.cons_ne_nil a as), if_neg hne, hsame]
        by_cases hread : isRead (a :: as) = true
        · rw [if_pos hread, if_pos hread, piecesFrom]
          by_cases hfull : (a :: as).length + 1 = strlen - 1
          · -- the piece is full, and nothing may follow it
            cases cs with
            | nil =>
              rw [if_pos (.inr hfull)]
              rfl
            | cons d ds =>
              obtain ⟨l, hl, hlonger⟩ := @fgetsFrom_longer 1023 (a :: as ++ [c]) ds d
              have hshort := hfit l hl
              simp only [List.length_append, List.length_singleton] at hlonger
              omega
          · rw [if_neg (by rintro (h | h); exacts [hc h, hfull h])]
        · rw [if_neg hread, if_neg hread, piecesFrom, if_neg hc]

/-- The lines of a text that both `fgets` calls hand out whole, and that are
strings. -/
structure FittingLines (text : List Char) : Prop where
  short : ∀ l ∈ fgetsLines 1023 text, l.length < strlen
  noNul : ∀ l ∈ fgetsLines 1023 text, '\x00' ∉ l

/-- The lines that `vtpReadConfigFile` reads. -/
def readable (text : List Char) : List (List Char) := (fgetsLines 1023 text).filter isRead

theorem readLines_text {text : List Char} {stack : ConfigStack} {conf conf' : VtpConf}
    (hfit : FittingLines text) (h : readConfigText host stack text conf = .returned 0 conf') :
    ∃ s, readLines host (readable text) (readStart stack conf) = some s ∧ s.conf = conf' := by
  obtain ⟨tail, htail, hpieces⟩ := @piecesFrom_fgets [] text (by simp) hfit.short
  have hread : filePieces text = (readable text).map .line ++ tail := hpieces
  unfold readConfigText at h
  rw [hread] at h
  exact readLines_of_returned htail h

end VtpStreaming
