import VtpStreaming.Clib.Print
import VtpStreaming.ConfigLines
import VtpStreaming.ConfigNames

/-!
# Reading printed lines

What a run over printed lines does, line by line: over the keys of one part of the
configuration first, and from there over a file.
-/

namespace VtpStreaming

open Clib

/-! ## Lines that fit -/

/-- The items of a line are short, and none of them ends the line. -/
structure ItemsFit (items : List Item) : Prop where
  plain : Plain 216 (itemsText items)
  second : ∀ w rest, scanWord (itemsText items ++ ['\n']) = some (w, rest) → w.length < roclen

theorem itemsText_stops (items : List Item) :
    Stops (fun c => !isSpace c) (itemsText items ++ ['\n']) := by
  cases items with
  | nil => rfl
  | cons i items => rfl

/-- Short words of which the first is the second word of the line. -/
theorem itemsFit_words {items : List Item} {k : Nat} (hword : ∀ i ∈ items, IsWord i.text)
    (hk : k < 80) (hfirst : ∀ i, items.head? = some i → i.text.length ≤ k)
    (hplain : Plain 216 (itemsText items)) : ItemsFit items := by
  refine ⟨hplain, ?_⟩
  intro w rest hscan
  cases items with
  | nil =>
    have hnone : scanWord (itemsText [] ++ ['\n']) = none := by decide
    rw [hnone] at hscan
    cases hscan
  | cons i items =>
    have hfound := scanWord_word (show Blank [' '] from rfl) (hword i List.mem_cons_self)
      (itemsText_stops items)
    have htext : itemsText (i :: items) ++ ['\n'] =
        [' '] ++ i.text ++ (itemsText items ++ ['\n']) := by
      simp [itemsText]
    rw [htext, hfound] at hscan
    cases hscan
    exact Nat.lt_of_le_of_lt (hfirst i rfl) hk

theorem itemsFit_ints {vs : List Word} (h : vs.length ≤ 18) : ItemsFit (vs.map .d) := by
  have hplain : ∀ i ∈ vs.map Item.d, Plain 11 i.text := by
    intro i hi
    obtain ⟨v, -, rfl⟩ := List.mem_map.mp hi
    exact Item.plain_d v
  apply itemsFit_words (k := 11)
  · intro i hi
    obtain ⟨v, -, rfl⟩ := List.mem_map.mp hi
    exact Item.solid_d v
  · decide
  · exact fun i hi => (hplain i (List.mem_of_mem_head? hi)).length_le
  · exact (plain_itemsText hplain).mono (by rw [List.length_map]; omega)

theorem itemsFit_lits {n : Nat} {vs : List Word} (hn : n ≤ 8) (h : vs.length ≤ 18) :
    ItemsFit (vs.map (.x n)) := by
  have hplain : ∀ i ∈ vs.map (Item.x n), Plain 10 i.text := by
    intro i hi
    obtain ⟨v, -, rfl⟩ := List.mem_map.mp hi
    exact Item.plain_x hn v
  apply itemsFit_words (k := 10)
  · intro i hi
    obtain ⟨v, -, rfl⟩ := List.mem_map.mp hi
    exact Item.solid_x n v
  · decide
  · exact fun i hi => (hplain i (List.mem_of_mem_head? hi)).length_le
  · exact (plain_itemsText hplain).mono (by rw [List.length_map]; omega)

/-! ## One line -/

variable {host : List Char} {s : ReadState}

theorem readLine_printed {l : TextLine} (hkey : IsSetting l.key.toList) (hfit : ItemsFit l.items)
    (hs : Reading s) :
    ∃ r, r.length < roclen ∧
      readLine host (l.text ++ ['\n']) s =
        runBranch (l.text ++ ['\n']) { s with keyword := l.key.toList, rocName := r } := by
  have hnul : '\x00' ∉ l.key.toList ++ itemsText l.items ++ ['\n'] := by
    simp [hkey.plain.noNul, hfit.plain.noNul]
  exact readLine_word hkey.word (Nat.lt_of_le_of_lt hkey.plain.length_le (by decide)) hkey.setting
    hnul (itemsText_stops l.items) hfit.second hs

/-- The line is handed out. -/
theorem filePieces_printed {l : TextLine} (hkey : IsSetting l.key.toList) (hfit : ItemsFit l.items)
    (rest : List Char) :
    filePieces (l.text ++ ['\n'] ++ rest) = .line (l.text ++ ['\n']) :: filePieces rest := by
  have hplain : Plain (31 + 216) l.text := hkey.plain.append hfit.plain
  have hread : isRead l.text = true := by
    obtain ⟨c, cs, hcons⟩ := List.exists_cons_of_ne_nil hkey.word.nonempty
    have hkeyRead := hkey.read
    unfold TextLine.text
    rw [hcons] at hkeyRead ⊢
    exact hkeyRead
  rw [List.append_assoc, List.singleton_append,
    filePieces_line hplain.noNewline (Nat.lt_of_le_of_lt (Nat.succ_le_succ hplain.length_le)
      (by decide)), if_pos hread]

/-! ## A run over the lines of a file -/

/-- What the lines do one after the other, with the words that the table does not
have left out. -/
inductive TextRuns : List TextLine → VtpConf × Locals → VtpConf × Locals → Prop
  | nil (a : VtpConf × Locals) : TextRuns [] a a
  | known {l : TextLine} {ls : List TextLine} {b : Branch VtpConf} {a a' a'' : VtpConf × Locals} :
      (l.key, b) ∈ configKeys → ItemsFit l.items → b (l.text ++ ['\n']) a = .next a' →
      TextRuns ls a' a'' → TextRuns (l :: ls) a a''
  | unknown {l : TextLine} {ls : List TextLine} {a a' : VtpConf × Locals} :
      l.key ∈ unknownNames → ItemsFit l.items → TextRuns ls a a' → TextRuns (l :: ls) a a'
  | blank {ls : List TextLine} {a a' : VtpConf × Locals} :
      TextRuns ls a a' → TextRuns (⟨"", []⟩ :: ls) a a'

theorem TextRuns.append {ls ms : List TextLine} {a a' a'' : VtpConf × Locals}
    (h : TextRuns ls a a') (h' : TextRuns ms a' a'') : TextRuns (ls ++ ms) a a'' := by
  induction h with
  | nil a => exact h'
  | known hmem hfit hrun _ ih => exact .known hmem hfit hrun (ih h')
  | unknown hname hfit _ ih => exact .unknown hname hfit (ih h')
  | blank _ ih => exact .blank (ih h')

/-- What is read of a text that begins with such lines. -/
theorem readPieces_text {ls : List TextLine} {a a' : VtpConf × Locals} (h : TextRuns ls a a')
    (hs : Reading s) (ha : (s.conf, s.locals) = a) (rest : List Char) :
    ∃ s', readPieces host (filePieces (linesText ls ++ rest)) s =
        readPieces host (filePieces rest) s' ∧
      Reading s' ∧ (s'.conf, s'.locals) = a' := by
  induction h generalizing s with
  | nil a => exact ⟨s, rfl, hs, ha⟩
  | @known l ls b a a' a'' hmem hfit hrun _ ih =>
    have hkey := configKeys_isSetting hmem
    obtain ⟨r, hr, hline⟩ : ∃ r, _ ∧ readLine host _ s = _ := readLine_printed hkey hfit hs
    have hbranch : runBranch (l.text ++ ['\n']) { s with keyword := l.key.toList, rocName := r } =
        .next { s with
          conf := a'.1
          locals := a'.2
          keyword := l.key.toList
          rocName := r } := by
      unfold runBranch
      rw [branchOf_name hmem]
      dsimp only
      rw [ha, hrun]
    obtain ⟨s', hread, hs', ha'⟩ := @ih { s with
      conf := a'.1
      locals := a'.2
      keyword := l.key.toList
      rocName := r } ⟨hs.active, hr⟩ rfl
    refine ⟨s', ?_, hs', ha'⟩
    rw [linesText, List.flatMap_cons, List.append_assoc, filePieces_printed hkey hfit, readPieces,
      hline, hbranch]
    exact hread
  | @unknown l ls a a' hname hfit _ ih =>
    obtain ⟨hnone, hkey⟩ := unknownNames_spec hname
    obtain ⟨r, hr, hline⟩ : ∃ r, _ ∧ readLine host _ s = _ := readLine_printed hkey hfit hs
    obtain ⟨s', hread, hs', ha'⟩ := @ih { s with keyword := l.key.toList, rocName := r }
      ⟨hs.active, hr⟩ ha
    refine ⟨s', ?_, hs', ha'⟩
    rw [linesText, List.flatMap_cons, List.append_assoc, filePieces_printed hkey hfit, readPieces,
      hline]
    unfold runBranch
    rw [hnone]
    exact hread
  | @blank ls a a' _ ih =>
    obtain ⟨s', hread, hs', ha'⟩ := ih hs ha
    exact ⟨s', hread, hs', ha'⟩

/-! ## A run over the keys of a part -/

section

variable {σ τ : Type}

/-- The lines are all of the table, and take the part from one value to another. -/
inductive TableRuns (keys : List (String × Branch σ)) :
    List TextLine → σ × Locals → σ × Locals → Prop
  | nil (a : σ × Locals) : TableRuns keys [] a a
  | cons {l : TextLine} {ls : List TextLine} {b : Branch σ} {a a' a'' : σ × Locals} :
      (l.key, b) ∈ keys → ItemsFit l.items → b (l.text ++ ['\n']) a = .next a' →
      TableRuns keys ls a' a'' → TableRuns keys (l :: ls) a a''

/-- The same where the variables of the function do not matter. -/
def Sets (keys : List (String × Branch σ)) (ls : List TextLine) (c c' : σ) : Prop :=
  ∀ l, ∃ l', TableRuns keys ls (c, l) (c', l')

/-- The keywords of a table are words. -/
def Words (keys : List (String × Branch σ)) : Prop := ∀ key ∈ keys, IsWord key.1.toList

variable {keys keys' : List (String × Branch σ)} {ls ms : List TextLine} {a a' a'' : σ × Locals}
  {c c' c'' : σ}

theorem TableRuns.append (h : TableRuns keys ls a a') (h' : TableRuns keys ms a' a'') :
    TableRuns keys (ls ++ ms) a a'' := by
  induction h with
  | nil a => exact h'
  | cons hmem hfit hrun _ ih => exact .cons hmem hfit hrun (ih h')

theorem TableRuns.mono (h : TableRuns keys ls a a') (hsub : ∀ key ∈ keys, key ∈ keys') :
    TableRuns keys' ls a a' := by
  induction h with
  | nil a => exact .nil a
  | cons hmem hfit hrun _ ih => exact .cons (hsub _ hmem) hfit hrun ih

theorem TableRuns.onPart {get : σ → τ} {put : σ → τ → σ} (hpart : IsPart get put)
    {keys : List (String × Branch τ)} {t t' : τ × Locals} (h : TableRuns keys ls t t') (s : σ)
    (hs : get s = t.1) :
    TableRuns (onPart get put keys) ls (s, t.2) (put s t'.1, t'.2) := by
  induction h generalizing s with
  | nil t =>
    rw [← hs, hpart.put_get]
    exact .nil _
  | @cons l ls b t t' t'' hmem hfit hrun _ ih =>
    have hstep : b.on get put (l.text ++ ['\n']) (s, t.2) = .next (put s t'.1, t'.2) := by
      unfold Branch.on
      dsimp only
      rw [hs, hrun]
    have hrest := ih (put s t'.1) (hpart.get_put s t'.1)
    rw [hpart.put_put] at hrest
    exact .cons (mem_onPart hmem) hfit hstep hrest

theorem TableRuns.text {a a' : VtpConf × Locals} (h : TableRuns configKeys ls a a') :
    TextRuns ls a a' := by
  induction h with
  | nil a => exact .nil a
  | cons hmem hfit hrun _ ih => exact .known hmem hfit hrun ih

theorem Sets.nil (c : σ) : Sets keys [] c c := fun l => ⟨l, .nil _⟩

theorem Sets.append (h : Sets keys ls c c') (h' : Sets keys ms c' c'') :
    Sets keys (ls ++ ms) c c'' := by
  intro l
  obtain ⟨l', hrun⟩ := h l
  obtain ⟨l'', hrun'⟩ := h' l'
  exact ⟨l'', hrun.append hrun'⟩

theorem Sets.mono (h : Sets keys ls c c') (hsub : ∀ key ∈ keys, key ∈ keys') :
    Sets keys' ls c c' := by
  intro l
  obtain ⟨l', hrun⟩ := h l
  exact ⟨l', hrun.mono hsub⟩

theorem Sets.onPart {get : σ → τ} {put : σ → τ → σ} (hpart : IsPart get put)
    {keys : List (String × Branch τ)} {t t' : τ} (h : Sets keys ls t t') (s : σ)
    (hs : get s = t) : Sets (onPart get put keys) ls s (put s t') := by
  intro l
  obtain ⟨l', hrun⟩ := h l
  exact ⟨l', hrun.onPart hpart s hs⟩

/-- One line in front. -/
theorem Sets.cons {l : TextLine} {b : Branch σ} (hmem : (l.key, b) ∈ keys)
    (hfit : ItemsFit l.items)
    (hstep : ∀ loc, ∃ loc', b (l.text ++ ['\n']) (c, loc) = .next (c', loc'))
    (h : Sets keys ls c' c'') : Sets keys (l :: ls) c c'' := by
  intro loc
  obtain ⟨loc', hrun⟩ := hstep loc
  obtain ⟨loc'', hrest⟩ := h loc'
  exact ⟨loc'', .cons hmem hfit hrun hrest⟩

/-! ### Lines of integers -/

theorem argi_intLine {key : String} {vs : List Word} {n : Nat} (hkey : IsWord key.toList)
    (hn : vs.length = n) :
    argi scanD n ((intLine key vs).text ++ ['\n']) = fun i => vs.getD i 0#32 := by
  funext i
  unfold argi
  rw [← hn, scanArgs_intLine hkey]

variable {name : String} {vs : List Word} {n k : Nat}

theorem TableRuns.ints (hw : Words keys) {store : (Nat → Word) → σ → σ} {l : Locals}
    (hmem : (name, VtpStreaming.ints n store) ∈ keys) (hn : vs.length = n) (hle : n.ble 18 = true)
    (h : TableRuns keys ls (store (fun i => vs.getD i 0#32) c, l) a') :
    TableRuns keys (intLine name vs :: ls) (c, l) a' := by
  refine .cons hmem (itemsFit_ints (hn ▸ Nat.le_of_ble_eq_true hle)) ?_ h
  unfold VtpStreaming.ints
  rw [argi_intLine (hw _ hmem) hn]

theorem Sets.ints (hw : Words keys) {store : (Nat → Word) → σ → σ}
    (hmem : (name, VtpStreaming.ints n store) ∈ keys) (hn : vs.length = n) (hle : n.ble 18 = true)
    (h : Sets keys ls (store (fun i => vs.getD i 0#32) c) c') :
    Sets keys (intLine name vs :: ls) c c' := by
  intro l
  obtain ⟨l', hrun⟩ := h l
  exact ⟨l', .ints hw hmem hn hle hrun⟩

/-- Sixteen masks. -/
theorem Sets.chEn (hw : Words keys) {get : σ → Fin 16 → Word} {put : (Fin 16 → Word) → σ → σ}
    (hmem : (name, VtpStreaming.chEn get put) ∈ keys) (en : Fin 16 → Word)
    (h : Sets keys ls (put en c) c') :
    Sets keys (litLine name 4 (List.ofFn en) :: ls) c c' := by
  have hlength : (List.ofFn en).length = 16 := List.length_ofFn
  have hscan : scanArgs scanLitX 16 ((litLine name 4 (List.ofFn en)).text ++ ['\n']) =
      List.ofFn en := by
    have hline := scanArgs_litLine (n := 4) (by decide) (hw _ hmem) (List.ofFn en)
    rwa [hlength] at hline
  refine .cons hmem (itemsFit_lits (by decide) (by rw [hlength]; decide)) (fun loc => ⟨loc, ?_⟩) h
  unfold VtpStreaming.chEn
  rw [hscan]
  have hget : (fun j : Fin 16 => (List.ofFn en).getD j.val (get c j)) = en := by
    funext j
    rw [List.getD_eq_getElem?_getD, List.getElem?_eq_getElem (by rw [hlength]; exact j.isLt),
      Option.getD_some, List.getElem_ofFn]
  dsimp only
  rw [hget]

end

/-! ### Elements of an array -/

section

variable {σ τ : Type} {n : Nat} {get : σ → Fin n → τ} {put : σ → (Fin n → τ) → σ}
  {keys : List (String × Branch σ)} {ls : List TextLine} {i : Fin n} {t t₁ t' : τ} {name : String}
  {vs : List Word} {k : Nat}

/-- The lines take the element `i` from one value to another. -/
def SetsAt (keys : List (String × Branch σ)) (get : σ → Fin n → τ) (put : σ → (Fin n → τ) → σ)
    (i : Fin n) (ls : List TextLine) (t t' : τ) : Prop :=
  ∀ c, get c i = t → Sets keys ls c (put c (Function.update (get c) i t'))

theorem SetsAt.nil (hpart : IsPart get put) (t : τ) : SetsAt keys get put i [] t t := by
  rintro c rfl
  rw [Function.update_eq_self, hpart.put_get]
  exact .nil c

theorem SetsAt.cons (hpart : IsPart get put) {l : TextLine} {b : Branch σ}
    (hmem : (l.key, b) ∈ keys) (hfit : ItemsFit l.items)
    (hstep : ∀ c loc, get c i = t → ∃ loc',
      b (l.text ++ ['\n']) (c, loc) = .next (put c (Function.update (get c) i t₁), loc'))
    (h : SetsAt keys get put i ls t₁ t') : SetsAt keys get put i (l :: ls) t t' := by
  intro c hc
  have hrest := h (put c (Function.update (get c) i t₁))
    (by rw [hpart.get_put, Function.update_self])
  rw [hpart.get_put, hpart.put_put, Function.update_idem] at hrest
  exact .cons hmem hfit (fun loc => hstep c loc hc) hrest

/-- What is stored when the scanned index is `i`. -/
theorem indexed_at {store : Fin n → (Nat → Word) → σ → σ} {line : List Char} {a : Nat → Word}
    (ha : argi scanD k line = a) (hi : (a 0).toInt = i.val) (s : σ × Locals) :
    VtpStreaming.indexed n k store line s = .next (store i a s.1, s.2) := by
  subst ha
  have hrange : 0 ≤ (argi scanD k line 0).toInt ∧ (argi scanD k line 0).toInt < n := by
    rw [hi]
    omega
  have hindex : (⟨(argi scanD k line 0).toInt.toNat, by omega⟩ : Fin n) = i :=
    Fin.ext (by simp only [hi, Int.toNat_natCast])
  unfold VtpStreaming.indexed
  dsimp only
  rw [dif_pos hrange, hindex]

/-- A line with the index in front of the values. -/
theorem SetsAt.indexed (hpart : IsPart get put) (hw : Words keys)
    {store : Fin n → (Nat → Word) → σ → σ} (hmem : (name, VtpStreaming.indexed n k store) ∈ keys)
    (hk : vs.length + 1 = k) (hle : k.ble 18 = true) (hn : n.ble 32 = true)
    (hstore : ∀ c, get c i = t → store i (fun j => (indexWord i :: vs).getD j 0#32) c =
      put c (Function.update (get c) i t₁))
    (h : SetsAt keys get put i ls t₁ t') :
    SetsAt keys get put i (intLine name (indexWord i :: vs) :: ls) t t' := by
  have hfit : ItemsFit ((indexWord i :: vs).map .d) :=
    itemsFit_ints (by rw [List.length_cons, hk]; exact Nat.le_of_ble_eq_true hle)
  have hn' : n ≤ 2 ^ 31 := Nat.le_trans (Nat.le_of_ble_eq_true hn) (by decide)
  refine .cons hpart hmem hfit (fun c loc hc => ⟨loc, ?_⟩) h
  have hargs := argi_intLine (hw _ hmem) (show (indexWord i :: vs).length = k from hk)
  rw [indexed_at hargs (indexWord_toInt hn' i), hstore c hc]

theorem SetsAt.element (hpart : IsPart get put) (hw : Words keys)
    {store : (Nat → Word) → τ → τ}
    (hmem : (name, onElement get (fun f c => put c f) k store) ∈ keys)
    (hk : vs.length + 1 = k) (hle : k.ble 18 = true) (hn : n.ble 32 = true)
    (h : SetsAt keys get put i ls (store (fun j => (indexWord i :: vs).getD j 0#32) t) t') :
    SetsAt keys get put i (intLine name (indexWord i :: vs) :: ls) t t' := by
  refine .indexed hpart hw hmem hk hle hn ?_ h
  rintro c rfl
  rfl

/-- The elements one after the other. -/
theorem Sets.loop (hpart : IsPart get put) {lines : Fin n → List TextLine} {g : Fin n → τ}
    (h : ∀ i t, SetsAt keys get put i (lines i) t (g i)) (c : σ) :
    Sets keys ((List.finRange n).flatMap lines) c (put c g) := by
  have hloop : ∀ (is : List (Fin n)) (c : σ),
      Sets keys (is.flatMap lines) c (put c fun j => if j ∈ is then g j else get c j) := by
    intro is
    induction is with
    | nil =>
      intro c
      simpa [hpart.put_get] using Sets.nil c
    | cons i is ih =>
      intro c
      have hhead := h i (get c i) c rfl
      have htail := ih (put c (Function.update (get c) i (g i)))
      rw [hpart.put_put, hpart.get_put] at htail
      have hsame : (fun j => if j ∈ is then g j else Function.update (get c) i (g i) j) =
          fun j => if j ∈ i :: is then g j else get c j := by
        funext j
        by_cases hj : j = i
        · subst hj
          simp
        · simp [hj]
      rw [hsame] at htail
      exact hhead.append htail
  simpa using hloop (List.finRange n) c

end

/-! ### Floats -/

/-- What `printf` writes for a float that is finite. -/
def IsDecimal (s : List Char) : Prop :=
  ∃ (neg : Bool) (whole fraction : List Char), whole ≠ [] ∧
    (∀ c ∈ whole, c.isDigit = true) ∧ (∀ c ∈ fraction, c.isDigit = true) ∧
    s = (if neg then ['-'] else []) ++ whole ++ '.' :: fraction

theorem scanF_decimal {s ws rest : List Char} (hs : IsDecimal s) (hblank : Blank ws)
    (hstop : ∀ c ∈ rest.head?, isSpace c = true) : scanF (ws ++ s ++ rest) = some (s, rest) := by
  obtain ⟨neg, whole, fraction, hne, hwhole, hfraction, rfl⟩ := hs
  obtain ⟨c, cs, rfl⟩ := List.exists_cons_of_ne_nil hne
  have hdigit : c.isDigit = true := hwhole c List.mem_cons_self
  have hstopDigit : Stops Char.isDigit rest := by
    cases rest with
    | nil => trivial
    | cons d ds => exact isSpace_not_digit (hstop d rfl)
  have hwholeDigits : decDigits ((c :: cs) ++ '.' :: (fraction ++ rest)) = c :: cs :=
    takeWhile_stops hwhole rfl
  have hfractionDigits : decDigits (fraction ++ rest) = fraction :=
    takeWhile_stops hfraction hstopDigit
  have hbody : ∀ sign : List Char, ∀ b : Bool, (sign = if b then ['-'] else []) →
      skipSpace (ws ++ (sign ++ (c :: cs) ++ '.' :: fraction) ++ rest) =
        sign ++ ((c :: cs) ++ '.' :: (fraction ++ rest)) ∧
      scanSign (sign ++ ((c :: cs) ++ '.' :: (fraction ++ rest))) =
        (b, (c :: cs) ++ '.' :: (fraction ++ rest)) := by
    rintro sign b rfl
    have htext : ws ++ ((if b then ['-'] else []) ++ (c :: cs) ++ '.' :: fraction) ++ rest =
        ws ++ ((if b then ['-'] else []) ++ ((c :: cs) ++ '.' :: (fraction ++ rest))) := by
      simp
    cases b with
    | false =>
      exact ⟨htext ▸ skipSpace_append hblank (isDigit_not_space hdigit), scanSign_digit hdigit⟩
    | true => exact ⟨htext ▸ skipSpace_append hblank rfl, rfl⟩
  obtain ⟨hskip, hsign⟩ := hbody _ neg rfl
  unfold scanF
  simp only [hskip, hsign, hwholeDigits, List.drop_left, hfractionDigits]
  have hsignText : (if ((c :: cs) ++ '.' :: (fraction ++ rest)).length <
        ((if neg then ['-'] else []) ++ ((c :: cs) ++ '.' :: (fraction ++ rest))).length then
      List.take 1 ((if neg then ['-'] else []) ++ ((c :: cs) ++ '.' :: (fraction ++ rest)))
      else []) = if neg then ['-'] else [] := by
    cases neg with
    | false => exact if_neg (Nat.lt_irrefl _)
    | true => exact if_pos (Nat.lt_succ_self _)
  rw [if_neg fun h => absurd h.1 hne, hsignText]
  cases rest with
  | nil => simp
  | cons d ds =>
    -- the blank behind the number is no exponent
    have hno : ¬ (d = 'e' ∨ d = 'E') := by
      have hd : isSpace d = true := hstop d rfl
      rintro (rfl | rfl)
      · cases hd
      · cases hd
    have hplain : ¬ ((d = 'e' ∨ d = 'E') ∧ decDigits (scanSign ds).2 ≠ []) := fun h => hno h.1
    dsimp only
    rw [if_neg hplain, List.append_nil]

/-! ### Lines of integers and floats -/

/-- The conversion that reads a value. -/
def directiveOf : Word ⊕ FloatText → Directive
  | .inl _ => .d
  | .inr _ => .f

/-- What writes a value, where the text of a float is given. -/
def mixedItem : Word ⊕ FloatText → Item
  | .inl w => .d w
  | .inr x => .word x

theorem scanMixed_d {ds : List Directive} {s rest : List Char} {w : Word}
    (h : scanD s = some (w, rest)) :
    scanMixed (.d :: ds) s = .inl w :: scanMixed ds rest := by
  rw [scanMixed, h]

theorem scanMixed_f {ds : List Directive} {s rest : List Char} {x : FloatText}
    (h : scanF s = some (x, rest)) :
    scanMixed (.f :: ds) s = .inr x :: scanMixed ds rest := by
  rw [scanMixed, h]

theorem scanMixed_items {vs : List (Word ⊕ FloatText)} (hdec : ∀ x, .inr x ∈ vs → IsDecimal x) :
    scanMixed (vs.map directiveOf) (itemsText (vs.map mixedItem) ++ ['\n']) = vs := by
  induction vs with
  | nil => rfl
  | cons v vs ih =>
    have hrest := ih fun x hx => hdec x (List.mem_cons_of_mem _ hx)
    have htext : itemsText ((v :: vs).map mixedItem) ++ ['\n'] =
        [' '] ++ (mixedItem v).text ++ (itemsText (vs.map mixedItem) ++ ['\n']) := by
      simp [itemsText]
    have hspace : ∀ c ∈ (itemsText (vs.map mixedItem) ++ ['\n']).head?, isSpace c = true := by
      cases vs with
      | nil => simp [itemsText, isSpace]
      | cons w ws => simp [itemsText, isSpace]
    rw [htext]
    cases v with
    | inl w =>
      have hstop : Stops Char.isDigit (itemsText (vs.map mixedItem) ++ ['\n']) := by
        cases vs with
        | nil => rfl
        | cons w ws => rfl
      have hscan := scanD_fmtD (v := w) (show Blank [' '] from rfl) hstop
      have hstep := @scanMixed_d (vs.map directiveOf) _ _ _ hscan
      rw [hrest] at hstep
      exact hstep
    | inr x =>
      have hscan := scanF_decimal (hdec x List.mem_cons_self) (show Blank [' '] from rfl) hspace
      have hstep := @scanMixed_f (vs.map directiveOf) _ _ _ hscan
      rw [hrest] at hstep
      exact hstep

theorem mixedArgs_line {key : String} (hkey : IsWord key.toList) {vs : List (Word ⊕ FloatText)}
    (hdec : ∀ x, .inr x ∈ vs → IsDecimal x) :
    mixedArgs (vs.map directiveOf) ((TextLine.mk key (vs.map mixedItem)).text ++ ['\n']) = vs := by
  have hscan := scanWord_word (show Blank [] from rfl) hkey (itemsText_stops (vs.map mixedItem))
  rw [List.nil_append, ← List.append_assoc] at hscan
  unfold mixedArgs TextLine.text
  rw [hscan]
  exact scanMixed_items hdec

section

variable {σ τ : Type} {n : Nat} {get : σ → Fin n → τ} {put : σ → (Fin n → τ) → σ}
  {keys : List (String × Branch σ)} {ls : List TextLine} {i : Fin n} {t t₁ t' : τ} {name : String}
  {ds : List Directive}

theorem indexedMixed_at {store : Fin n → List (Word ⊕ FloatText) → σ → σ} {line : List Char}
    {vs : List (Word ⊕ FloatText)} (hargs : mixedArgs ds line = vs)
    (hi : (intAt vs 0).toInt = i.val) (s : σ × Locals) :
    VtpStreaming.indexedMixed n ds store line s = .next (store i vs s.1, s.2) := by
  subst hargs
  have hrange : 0 ≤ (intAt (mixedArgs ds line) 0).toInt ∧
      (intAt (mixedArgs ds line) 0).toInt < n := by
    rw [hi]
    omega
  have hindex : (⟨(intAt (mixedArgs ds line) 0).toInt.toNat, by omega⟩ : Fin n) = i :=
    Fin.ext (by simp only [hi, Int.toNat_natCast])
  unfold VtpStreaming.indexedMixed
  dsimp only
  rw [dif_pos hrange, hindex]

/-- A line with floats among the values. -/
theorem SetsAt.indexedMixed (hpart : IsPart get put) (hw : Words keys)
    {store : Fin n → List (Word ⊕ FloatText) → σ → σ}
    (vs : List (Word ⊕ FloatText)) (hmem : (name, VtpStreaming.indexedMixed n ds store) ∈ keys)
    (hds : (Sum.inl (indexWord i) :: vs).map directiveOf = ds)
    (hdec : ∀ x, .inr x ∈ vs → IsDecimal x)
    (hfit : ItemsFit ((Sum.inl (indexWord i) :: vs).map mixedItem)) (hn : n.ble 32 = true)
    (upd : τ → τ) (hstore : ∀ c, store i (.inl (indexWord i) :: vs) c =
      put c (Function.update (get c) i (upd (get c i))))
    (h : SetsAt keys get put i ls (upd t) t') :
    SetsAt keys get put i (⟨name, (Sum.inl (indexWord i) :: vs).map mixedItem⟩ :: ls) t t' := by
  have hn' : n ≤ 2 ^ 31 := Nat.le_trans (Nat.le_of_ble_eq_true hn) (by decide)
  have hall : ∀ x, .inr x ∈ Sum.inl (indexWord i) :: vs → IsDecimal x := by
    intro x hx
    rcases List.mem_cons.mp hx with heq | hx
    · cases heq
    · exact hdec x hx
  refine .cons hpart hmem hfit (fun c loc hc => ⟨loc, ?_⟩) h
  have hargs := mixedArgs_line (hw _ hmem) hall
  rw [hds] at hargs
  rw [indexedMixed_at hargs (indexWord_toInt hn' i), hstore c, hc]

end

end VtpStreaming
