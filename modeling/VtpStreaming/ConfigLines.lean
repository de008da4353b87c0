import VtpStreaming.ReadConfigFile

/-!
# Lines of an active section

What a line does that sets something, and what a file of such lines does.
-/

namespace VtpStreaming

open Clib

/-! ## Keywords -/

/-- A word that fits its array and starts a line that is read, other than
`VTP_CRATE`. -/
structure IsKeyword (key : List Char) : Prop where
  word : IsWord key
  plain : Plain 30 key
  read : isRead key = true
  setting : key ≠ "VTP_CRATE".toList

/-- Every keyword of the streaming is such a word, and no two are the same. -/
theorem networkKeys_names :
    (∀ key ∈ networkKeys, IsKeyword key.1.toList) ∧
      (networkKeys.map fun key => key.1.toList).Nodup := by
  have hcheck : ((networkKeys.map fun key => key.1.toList).all fun key =>
      key ≠ [] && key.all (fun c => !isSpace c && c ≠ '\x00') && key.length ≤ 30 &&
        isRead key && key ≠ "VTP_CRATE".toList) ∧
      (networkKeys.map fun key => key.1.toList).Nodup := by
    decide +kernel
  obtain ⟨hall, hnodup⟩ := hcheck
  refine ⟨?_, hnodup⟩
  intro key hkey
  rw [List.all_map, List.all_eq_true] at hall
  have h := hall key hkey
  simp only [Function.comp_apply, Bool.and_eq_true, decide_eq_true_eq, List.all_eq_true,
    Bool.not_eq_true'] at h
  obtain ⟨⟨⟨⟨hne, hchars⟩, hlength⟩, hread⟩, hcrate⟩ := h
  have hnewline : '\n' ∉ key.1.toList := fun h => absurd (hchars _ h).1 (by decide)
  have hnul : '\x00' ∉ key.1.toList := fun h => (hchars _ h).2 rfl
  exact ⟨⟨hne, fun c hc => (hchars c hc).1⟩, ⟨hlength, hnewline, hnul⟩, hread, hcrate⟩

theorem branchOf_network {i : Nat} (h : i < networkKeys.length) :
    branchOf networkKeys[i].1.toList = some networkKeys[i].2 := by
  have hfind : networkKeys.find? (fun key => key.1.toList == networkKeys[i].1.toList) =
      some networkKeys[i] :=
    find_keyword networkKeys_names.2 (List.getElem_mem h)
  unfold branchOf configKeys
  rw [List.find?_append, hfind, Option.some_or, Option.map_some]

/-! ## One line -/

/-- A state in which the lines of the file have an effect. -/
structure Reading (s : ReadState) : Prop where
  active : s.active = true
  fits : s.rocName.length < roclen

variable {host args : List Char} {s : ReadState}

theorem lineWords_key {key : List Char} (hkey : IsWord key)
    (hargs : Stops (fun c => !isSpace c) args) :
    lineWords (key ++ args) s =
      { s with
        keyword := key
        rocName := match scanWord args with
          | none => s.rocName
          | some (r, _) => r } := by
  have hscan := scanWord_word (show Blank [] from rfl) hkey hargs
  rw [List.nil_append] at hscan
  unfold lineWords
  rw [hscan]
  dsimp only
  cases scanWord args with
  | none => rfl
  | some r => rfl

/-- A `VTP_CRATE` line says whether the section is active. -/
theorem readLine_crate {line : List Char} {s' : ReadState} (hnul : '\x00' ∉ line)
    (hwords : lineWords line s = s') (hfit : wordsFit s' = true)
    (hkey : s'.keyword = "VTP_CRATE".toList) :
    readLine host line s =
      .next { s' with active := s'.rocName = host || s'.rocName = "all".toList } := by
  unfold readLine
  rw [cString_of_noNul hnul]
  dsimp only
  rw [hwords, hfit, if_neg (by decide), if_pos hkey]

/-- A line that begins with another word than `VTP_CRATE` goes to the branch of
that word. -/
theorem readLine_word {key : List Char} (hkey : IsWord key) (hshort : key.length < roclen)
    (hcrate : key ≠ "VTP_CRATE".toList) (hnul : '\x00' ∉ key ++ args ++ ['\n'])
    (hspace : Stops (fun c => !isSpace c) (args ++ ['\n']))
    (hsecond : ∀ w rest, scanWord (args ++ ['\n']) = some (w, rest) → w.length < roclen)
    (hs : Reading s) :
    ∃ r, r.length < roclen ∧
      readLine host (key ++ args ++ ['\n']) s =
        runBranch (key ++ args ++ ['\n']) { s with keyword := key, rocName := r } := by
  have hwords := lineWords_key (s := s) hkey hspace
  rw [← List.append_assoc] at hwords
  generalize hr : (match scanWord (args ++ ['\n']) with
    | none => s.rocName
    | some (r, _) => r) = r at hwords
  have hfits : r.length < roclen := by
    cases hscan : scanWord (args ++ ['\n']) with
    | none =>
      rw [hscan] at hr
      subst hr
      exact hs.fits
    | some w =>
      rw [hscan] at hr
      subst hr
      exact hsecond w.1 w.2 hscan
  have hwordsFit : wordsFit { s with keyword := key, rocName := r } = true := by
    simp only [wordsFit, Bool.and_eq_true, decide_eq_true_eq]
    exact ⟨hshort, hfits⟩
  refine ⟨r, hfits, ?_⟩
  unfold readLine
  rw [cString_of_noNul hnul]
  dsimp only
  rw [hwords, hwordsFit, if_neg (by decide)]
  dsimp only
  rw [if_neg hcrate, hs.active, if_neg (by decide)]

/-- The line of a keyword goes to its branch. -/
theorem readLine_key {i : Nat} (h : i < networkKeys.length) (hargs : Plain 78 args)
    (hspace : Stops (fun c => !isSpace c) (args ++ ['\n'])) (hs : Reading s) :
    ∃ r, r.length < roclen ∧
      readLine host (networkKeys[i].1.toList ++ args ++ ['\n']) s =
        runBranch (networkKeys[i].1.toList ++ args ++ ['\n'])
          { s with keyword := networkKeys[i].1.toList, rocName := r } := by
  have hkey := networkKeys_names.1 _ (List.getElem_mem h)
  have hnul : '\x00' ∉ networkKeys[i].1.toList ++ args ++ ['\n'] := by
    simp [hkey.plain.noNul, hargs.noNul]
  refine readLine_word hkey.word (Nat.lt_of_le_of_lt hkey.plain.length_le (by decide)) hkey.setting
    hnul hspace ?_ hs
  intro w rest hscan
  obtain ⟨-, -, hlength⟩ := scanString_out hscan
  have hlen := hargs.length_le
  simp only [List.length_append, List.length_singleton] at hlength
  show w.length < 80
  omega

/-! ## Lines that store -/

/-- The line is read, and stores `f` whatever the lines before it were. -/
structure Stores (host line : List Char) (f : VtpConf × Locals → VtpConf × Locals) : Prop where
  plain : Plain 108 line
  read : isRead line = true
  run : ∀ s, Reading s → ∃ s', readLine host (line ++ ['\n']) s = .next s' ∧ Reading s' ∧
    (s'.conf, s'.locals) = f (s.conf, s.locals)

theorem isRead_append {key : List Char} (hkey : IsKeyword key) : isRead (key ++ args) = true := by
  obtain ⟨c, cs, rfl⟩ := List.exists_cons_of_ne_nil hkey.word.nonempty
  exact hkey.read

theorem stores_key {i : Nat} (h : i < networkKeys.length) {f : VtpConf × Locals → VtpConf × Locals}
    (hargs : Plain 78 args) (hspace : Stops (fun c => !isSpace c) (args ++ ['\n']))
    (hrun : ∀ a, networkKeys[i].2 (networkKeys[i].1.toList ++ args ++ ['\n']) a = .next (f a)) :
    Stores host (networkKeys[i].1.toList ++ args) f where
  plain := (networkKeys_names.1 _ (List.getElem_mem h)).plain.append hargs
  read := isRead_append (networkKeys_names.1 _ (List.getElem_mem h))
  run := by
    intro s hs
    obtain ⟨r, hfits, hline⟩ : ∃ r, _ ∧ readLine host _ s = _ := readLine_key h hargs hspace hs
    refine ⟨{ s with
      conf := (f (s.conf, s.locals)).1
      locals := (f (s.conf, s.locals)).2
      keyword := networkKeys[i].1.toList
      rocName := r }, ?_, ⟨hs.active, hfits⟩, rfl⟩
    rw [hline]
    unfold runBranch
    simp only [branchOf_network h, hrun]

/-! ### Lines of values -/

section Items

variable {α : Type} {conv : List Char → Option (Word × List Char)} {fmt : α → List Char}
  {val : α → Word} {p : Char → Bool} {items : List (List Char × α)} {rest : List Char}

theorem plain_items {k : Nat} (h : ∀ i ∈ items, Plain k (i.1 ++ fmt i.2)) :
    Plain (items.length * k) (items.flatMap fun i => i.1 ++ fmt i.2) := by
  induction items with
  | nil => exact plain_nil.mono (Nat.zero_le _)
  | cons i items ih =>
    have hhead := h i (by simp)
    have htail := ih fun j hj => h j (by simp [hj])
    rw [List.flatMap_cons, List.length_cons]
    exact (hhead.append htail).mono (Nat.le_of_eq (by rw [Nat.add_mul, Nat.one_mul, Nat.add_comm]))

/-- A line whose branch scans as many values as were written, and stores `g` of
them. -/
theorem stores_items {i k m : Nat} (h : i < networkKeys.length)
    (one : ∀ ws v rest, Blank ws → Stops p rest → conv (ws ++ fmt v ++ rest) = some (val v, rest))
    (space : ∀ c, isSpace c = true → p c = false)
    (hws : ∀ i ∈ items, i.1 ≠ [] ∧ Blank i.1) (hne : items ≠ [])
    (hplain : ∀ i ∈ items, Plain k (i.1 ++ fmt i.2)) (hrest : Plain m rest)
    (hblank : Blank rest) (hk : items.length * k + m ≤ 78)
    (g : (Nat → Word) → VtpConf × Locals → VtpConf × Locals)
    (hbranch : ∀ line a, networkKeys[i].2 line a = .next (g (argi conv items.length line) a)) :
    Stores host (networkKeys[i].1.toList ++ ((items.flatMap fun i => i.1 ++ fmt i.2) ++ rest))
      (g fun j => (items.map fun i => val i.2).getD j 0#32) := by
  have hkey := networkKeys_names.1 _ (List.getElem_mem h)
  have hstop : Stops p (rest ++ ['\n']) := by
    cases rest with
    | nil => exact space _ rfl
    | cons c cs =>
      simp only [Blank, List.all_cons, Bool.and_eq_true] at hblank
      exact space c hblank.1
  apply stores_key h
  · exact ((plain_items hplain).append hrest).mono (by omega)
  · rw [List.append_assoc]
    exact items_stops hws hne
  · intro a
    rw [hbranch, List.append_assoc, List.append_assoc]
    unfold argi
    rw [scanArgs_items one space hkey.word hws hne hstop]

end Items

theorem bytesOf_ofFn {n : Nat} (b : Fin n → Byte) :
    bytesOf n (fun j => (List.ofFn fun i => (b i).setWidth 32).getD j 0#32) = b := by
  funext i
  simp [bytesOf]

theorem argi_int {key rest : List Char} {n : Nat} {v : Word} (hkey : IsWord key) (hn : 0 < n)
    (hstop : Stops Char.isDigit rest) :
    argi scanD 1 (key ++ spaces n ++ fmtD v ++ rest) 0 = v := by
  have hscan := @scanArgs_items rest Word scanD fmtD id Char.isDigit key
    (fun _ _ _ hblank hstop => scanD_fmtD hblank hstop) (fun _ => isSpace_not_digit) hkey
    [(spaces n, v)] (List.forall_mem_singleton.mpr ⟨spaces_ne_nil hn, spaces_blank n⟩)
    (List.cons_ne_nil _ _) hstop
  simp only [List.flatMap_cons, List.flatMap_nil, List.append_nil, List.length_singleton] at hscan
  unfold argi
  rw [List.append_assoc, List.append_assoc, ← List.append_assoc (spaces n), hscan]
  rfl

/-- A line with one integer. -/
theorem stores_int {i n : Nat} (h : i < networkKeys.length) {line : List Char}
    (hline : line = networkKeys[i].1.toList ++ spaces n) (hn : 0 < n ∧ n ≤ 30) (v : Word)
    (g : Word → VtpConf × Locals → VtpConf × Locals)
    (hbranch : ∀ line a, networkKeys[i].2 line a = .next (g (argi scanD 1 line 0) a)) :
    Stores host (line ++ fmtD v) (g v) := by
  have hplain : Plain (30 + 11) (spaces n ++ fmtD v) :=
    ((spaces_plain n).mono hn.2).append (fmtD_plain v)
  have hitems := @stores_items host Word scanD fmtD id Char.isDigit [(spaces n, v)] [] i _ 0 h
    (fun _ _ _ hblank hstop => scanD_fmtD hblank hstop) (fun _ => isSpace_not_digit)
    (List.forall_mem_singleton.mpr ⟨spaces_ne_nil hn.1, spaces_blank n⟩) (List.cons_ne_nil _ _)
    (List.forall_mem_singleton.mpr hplain) plain_nil rfl (by simp) (fun a => g (a 0)) hbranch
  rw [hline]
  simpa using hitems

/-- A line with one word. -/
theorem stores_text {i n : Nat} (h : i < networkKeys.length) {line w : List Char}
    (hline : line = networkKeys[i].1.toList ++ spaces n ++ w) (hn : 0 < n ∧ n ≤ 30)
    (hw : IsWord w) (hplain : Plain 48 w)
    (g : List Char → VtpConf × Locals → VtpConf × Locals)
    (hbranch : ∀ line a w rest, ((scanWord line).bind fun v => scanString 250 v.2) = some (w, rest) →
      networkKeys[i].2 line a = .next (g w a)) :
    Stores host line (g w) := by
  have hkey := networkKeys_names.1 _ (List.getElem_mem h)
  have hspace : Stops (fun c => !isSpace c) (spaces n ++ w ++ ['\n']) := by
    have hitems := @items_stops ['\n'] (List Char) id [(spaces n, w)]
      (List.forall_mem_singleton.mpr ⟨spaces_ne_nil hn.1, spaces_blank n⟩) (List.cons_ne_nil _ _)
    simpa using hitems
  have hfirst : scanWord (networkKeys[i].1.toList ++ (spaces n ++ w ++ ['\n'])) =
      some (networkKeys[i].1.toList, spaces n ++ w ++ ['\n']) :=
    scanWord_word (show Blank [] from rfl) hkey.word hspace
  have hsecond : scanString 250 (spaces n ++ w ++ ['\n']) = some (w, ['\n']) :=
    scanString_word (spaces_blank n) hw rfl (Nat.le_trans hplain.length_le (by decide))
  rw [hline, List.append_assoc]
  apply stores_key h
  · exact ((spaces_plain n).mono hn.2).append hplain
  · exact hspace
  · intro a
    rw [List.append_assoc]
    exact hbranch _ a w ['\n'] (by rw [hfirst]; exact hsecond)

/-- A line with bytes, a gap in front of each. -/
theorem stores_bytes {i k m n : Nat} {conv : List Char → Option (Word × List Char)}
    {fmt : Byte → List Char} {p : Char → Bool} (h : i < networkKeys.length)
    (one : ∀ ws v rest, Blank ws → Stops p rest →
      conv (ws ++ fmt v ++ rest) = some (v.setWidth 32, rest))
    (space : ∀ c, isSpace c = true → p c = false) (b : Fin n → Byte) (gap : Fin n → Nat)
    (hgap : ∀ j, 0 < gap j) (hn : n ≠ 0) (hplain : ∀ j, Plain k (spaces (gap j) ++ fmt (b j)))
    (hk : n * k + m ≤ 78) (g : (Fin n → Byte) → VtpConf × Locals → VtpConf × Locals)
    (hbranch : ∀ line a, networkKeys[i].2 line a = .next (g (bytesOf n (argi conv n line)) a)) :
    Stores host
      (networkKeys[i].1.toList ++
        (((List.ofFn fun j => (spaces (gap j), b j)).flatMap fun i => i.1 ++ fmt i.2) ++ spaces m))
      (g b) := by
  have hlength : (List.ofFn fun j => (spaces (gap j), b j)).length = n := List.length_ofFn
  have hitems := @stores_items host Byte conv fmt (·.setWidth 32) p
    (List.ofFn fun j => (spaces (gap j), b j)) (spaces m) i k m h one space
    (List.forall_mem_ofFn_iff.mpr fun j => ⟨spaces_ne_nil (hgap j), spaces_blank _⟩)
    (fun hnil => hn (by rw [← hlength, hnil]; rfl)) (List.forall_mem_ofFn_iff.mpr hplain)
    (spaces_plain m) (spaces_blank m) (by rwa [hlength]) (fun a => g (bytesOf n a))
    (by rwa [hlength])
  rwa [List.map_ofFn, show ((fun i => i.2.setWidth 32) ∘ fun j => (spaces (gap j), b j)) =
    fun j => (b j).setWidth 32 from rfl, bytesOf_ofFn] at hitems

/-! ## Many lines -/

/-- Lines that are skipped, and lines that store one after the other. -/
inductive LinesStore (host : List Char) :
    List (List Char) → List (VtpConf × Locals → VtpConf × Locals) → Prop
  | nil : LinesStore host [] []
  | skip {l ls fs} : Plain 108 l → isRead l = false → LinesStore host ls fs →
      LinesStore host (l :: ls) fs
  | store {l ls f fs} : Stores host l f → LinesStore host ls fs →
      LinesStore host (l :: ls) (f :: fs)

variable {ls : List (List Char)} {fs : List (VtpConf × Locals → VtpConf × Locals)}

theorem LinesStore.blank (h : LinesStore host ls fs) : LinesStore host ([] :: ls) fs :=
  .skip (plain_nil.mono (Nat.zero_le _)) rfl h

theorem LinesStore.comment {text : String} {l : List Char} (htext : text = String.ofList l)
    (hl : isRead l = false ∧ l.length ≤ 108 ∧ '\n' ∉ l ∧ '\x00' ∉ l)
    (h : LinesStore host ls fs) : LinesStore host (text.toList :: ls) fs := by
  obtain ⟨hread, hlength, hnewline, hnul⟩ := hl
  rw [literal htext]
  exact .skip ⟨hlength, hnewline, hnul⟩ hread h

theorem LinesStore.append {ms : List (List Char)} {gs : List (VtpConf × Locals → VtpConf × Locals)}
    (h : LinesStore host ls fs) (h' : LinesStore host ms gs) :
    LinesStore host (ls ++ ms) (fs ++ gs) := by
  induction h with
  | nil => exact h'
  | skip hplain hread _ ih => exact .skip hplain hread ih
  | store hl _ ih => exact .store hl ih

theorem LinesStore.plain (h : LinesStore host ls fs) : ∀ l ∈ ls, Plain 108 l := by
  induction h with
  | nil => exact nofun
  | skip hplain _ _ ih => exact List.forall_mem_cons.mpr ⟨hplain, ih⟩
  | store hl _ ih => exact List.forall_mem_cons.mpr ⟨hl.plain, ih⟩

/-- What is read of a text that begins with such lines. -/
theorem readPieces_lines (h : LinesStore host ls fs) (hs : Reading s) (rest : List Char) :
    ∃ s', readPieces host (filePieces ((ls.flatMap fun l => l ++ ['\n']) ++ rest)) s =
        readPieces host (filePieces rest) s' ∧
      Reading s' ∧ (s'.conf, s'.locals) = fs.foldl (fun a f => f a) (s.conf, s.locals) := by
  induction h generalizing s with
  | nil => exact ⟨s, rfl, hs, rfl⟩
  | @skip l ls fs hplain hread _ ih =>
    obtain ⟨s', hrun, hs', hconf⟩ := ih hs
    refine ⟨s', ?_, hs', hconf⟩
    have hlen : l.length + 1 < 250 := Nat.lt_of_le_of_lt (Nat.succ_le_succ hplain.length_le) (by decide)
    rw [List.flatMap_cons, List.append_assoc, List.append_assoc, List.singleton_append,
      filePieces_line hplain.noNewline hlen, if_neg (by simp [hread])]
    exact hrun
  | @store l ls f fs hl _ ih =>
    obtain ⟨s₁, hline, hs₁, hconf₁⟩ := hl.run s hs
    obtain ⟨s₂, hrun, hs₂, hconf₂⟩ := ih hs₁
    refine ⟨s₂, ?_, hs₂, ?_⟩
    · have hlen : l.length + 1 < 250 :=
        Nat.lt_of_le_of_lt (Nat.succ_le_succ hl.plain.length_le) (by decide)
      rw [List.flatMap_cons, List.append_assoc, List.append_assoc, List.singleton_append,
        filePieces_line hl.plain.noNewline hlen, if_pos hl.read, readPieces, hline]
      exact hrun
    · rw [hconf₂, hconf₁, List.foldl_cons]

end VtpStreaming
