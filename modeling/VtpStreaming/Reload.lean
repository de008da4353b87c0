import VtpStreaming.ConfigNames
import VtpStreaming.FailedRead
import VtpStreaming.InitGlobals

/-!
# Loading a configuration again

A load begins with `vtpInitGlobals`. Four members are not reset there, and keep
what an earlier run has left in them when the file does not set them.
-/

namespace VtpStreaming

open Clib

/-! ## The members that are not reset -/

inductive Forgotten
  | hodoDt
  | hitEmin
  | localport (e : Fin 2)
deriving DecidableEq

def Forgotten.keyword : Forgotten → String
  | .hodoDt => "VTP_FTCAL_HODO_DT"
  | .hitEmin => "VTP_FTHODO_EMIN"
  | .localport _ => "VTP_STREAMING_LOCALPORT"

/-- The event builder is the one that the line is about. -/
def Forgotten.at (l : Locals) : Forgotten → Prop
  | .localport e => l.streamingEb = e
  | _ => True

def Forgotten.get (c : VtpConf) : Forgotten → Word
  | .hodoDt => c.ftcal.hodoDt
  | .hitEmin => c.fthodo.hitEmin
  | .localport e => (c.fadcStreaming.eb e).localport.setWidth 32

def takeHodoDt (old : VtpConf) (c : FtcalConf) : FtcalConf := { c with hodoDt := old.ftcal.hodoDt }

def takeHitEmin (old : VtpConf) (c : FthodoConf) : FthodoConf :=
  { c with hitEmin := old.fthodo.hitEmin }

def takeLocalport (e : Fin 2) (old : VtpConf) (c : FadcStreamingConf) : FadcStreamingConf :=
  { c with
    eb := Function.update c.eb e
      { c.eb e with localport := (old.fadcStreaming.eb e).localport } }

/-- The configuration with the member as `old` has it. -/
def Forgotten.take (old : VtpConf) (x : Forgotten) (c : VtpConf) : VtpConf :=
  match x with
  | .hodoDt => { c with ftcal := takeHodoDt old c.ftcal }
  | .hitEmin => { c with fthodo := takeHitEmin old c.fthodo }
  | .localport e => { c with fadcStreaming := takeLocalport e old c.fadcStreaming }

theorem Forgotten.get_take (x : Forgotten) (old c : VtpConf) : x.get
    (x.take old c) = x.get old := by
  cases x with
  | hodoDt => rfl
  | hitEmin => rfl
  | localport e => simp [get, take, takeLocalport]

theorem Forgotten.get_take_ne {x y : Forgotten} (h : x ≠ y) (old c : VtpConf) :
    x.get (y.take old c) = x.get c := by
  cases x with
  | hodoDt =>
    cases y with
    | hodoDt => exact absurd rfl h
    | hitEmin => rfl
    | localport e => rfl
  | hitEmin =>
    cases y with
    | hodoDt => rfl
    | hitEmin => exact absurd rfl h
    | localport e => rfl
  | localport e =>
    cases y with
    | hodoDt => rfl
    | hitEmin => rfl
    | localport e' =>
      have hne : e ≠ e' := fun heq => h (congrArg _ heq)
      simp [get, take, takeLocalport, Function.update_of_ne hne]

theorem Forgotten.take_eq_self {x : Forgotten} {old c : VtpConf} (h : x.get old = x.get c) :
    x.take old c = c := by
  cases x with
  | hodoDt =>
    have h : old.ftcal.hodoDt = c.ftcal.hodoDt := h
    simp only [take, takeHodoDt, h]
  | hitEmin =>
    have hpart : takeHitEmin old c.fthodo = c.fthodo := congrArg FthodoConf.mk h
    show { c with fthodo := takeHitEmin old c.fthodo } = c
    rw [hpart]
  | localport e =>
    have h : (old.fadcStreaming.eb e).localport = (c.fadcStreaming.eb e).localport := by
      have h : (old.fadcStreaming.eb e).localport.setWidth 32 =
          (c.fadcStreaming.eb e).localport.setWidth 32 := h
      have hnat := congrArg BitVec.toNat h
      rw [BitVec.toNat_setWidth_of_le (by decide), BitVec.toNat_setWidth_of_le (by decide)] at hnat
      exact BitVec.eq_of_toNat_eq hnat
    simp only [take, takeLocalport, h, Function.update_eq_self]

/-! ## Branches -/

section Branches

variable {σ τ : Type}

def Outcome.map (h : σ → τ) : Outcome σ → Outcome τ
  | .next s => .next (h s)
  | .ret code s => .ret code (h s)
  | .fault => .fault

/-- On these locals the branch does the same with and without the change `h`,
which it does not touch. -/
def Commutes (h : σ → σ) (b : Branch σ) (l : Locals) : Prop :=
  ∀ line s, b line (h s, l) = (b line (s, l)).map fun t => (h t.1, t.2)

variable {h : σ → σ} {l : Locals}

theorem commutes_ints {n : Nat} {store : (Nat → Word) → σ → σ}
    (hstore : ∀ a s, store a (h s) = h (store a s)) : Commutes h (ints n store) l := by
  intro line s
  show Outcome.next (store _ (h s), l) = .next (h (store _ s), l)
  rw [hstore]

theorem commutes_chEn {get : σ → Fin 16 → Word} {put : (Fin 16 → Word) → σ → σ}
    (hget : ∀ s, get (h s) = get s) (hput : ∀ en s, put en (h s) = h (put en s)) :
    Commutes h (chEn get put) l := by
  intro line s
  show Outcome.next (put _ (h s), l) = .next (h (put _ s), l)
  rw [hput]
  simp only [hget]

/-- The change is in another part. -/
theorem Commutes.other {get : σ → τ} {put : σ → τ → σ} (hget : ∀ s, get (h s) = get s)
    (hput : ∀ s v, put (h s) v = h (put s v)) (b : Branch τ) : Commutes h (b.on get put) l := by
  intro line s
  unfold Branch.on
  dsimp only
  rw [hget]
  cases b line (get s, l) with
  | next t => exact congrArg (fun c => Outcome.next (c, t.2)) (hput s t.1)
  | ret code t => exact congrArg (fun c => Outcome.ret code (c, t.2)) (hput s t.1)
  | fault => rfl

/-- The change is in the part. -/
theorem Commutes.on {g : τ → τ} {get : σ → τ} {put : σ → τ → σ} {b : Branch τ}
    (hb : Commutes g b l) (hget : ∀ s, get (h s) = g (get s))
    (hput : ∀ s v, put (h s) (g v) = h (put s v)) : Commutes h (b.on get put) l := by
  intro line s
  unfold Branch.on
  dsimp only
  rw [hget, hb]
  cases b line (get s, l) with
  | next t => exact congrArg (fun c => Outcome.next (c, t.2)) (hput s t.1)
  | ret code t => exact congrArg (fun c => Outcome.ret code (c, t.2)) (hput s t.1)
  | fault => rfl

theorem onPart_commutes_other {get : σ → τ} {put : σ → τ → σ} (hget : ∀ s, get (h s) = get s)
    (hput : ∀ s v, put (h s) v = h (put s v)) (keys : List (String × Branch τ)) :
    ∀ key ∈ onPart get put keys, Commutes h key.2 l := by
  unfold onPart
  rw [List.forall_mem_map]
  intro key _
  exact .other hget hput key.2

/-- The change is in the part, and all but one of its keywords leave it alone. -/
theorem onPart_commutes {g : τ → τ} {get : σ → τ} {put : σ → τ → σ} {name : String} {p : Prop}
    {keys : List (String × Branch τ)} (hkeys : ∀ key ∈ keys, Commutes g key.2 l ∨ key.1 = name ∧ p)
    (hget : ∀ s, get (h s) = g (get s)) (hput : ∀ s v, put (h s) (g v) = h (put s v)) :
    ∀ key ∈ onPart get put keys, Commutes h key.2 l ∨ key.1 = name ∧ p := by
  unfold onPart
  rw [List.forall_mem_map]
  intro key hkey
  rcases hkeys key hkey with hb | hname
  · exact .inl (hb.on hget hput)
  · exact .inr hname

end Branches

/-! ## The keywords -/

/-- The other keywords of a part that the member is in do not touch it. -/
theorem commonKeys_commute (x : Forgotten) (old : VtpConf) (l : Locals) :
    ∀ key ∈ commonKeys, Commutes (x.take old) key.2 l := by
  have hints : ∀ store : (Nat → Word) → VtpConf → VtpConf,
      (∀ a c, store a (x.take old c) = x.take old (store a c)) →
      Commutes (x.take old) (ints 1 store) l := fun _ => commutes_ints
  have hpayload : Commutes (x.take old) vtpPayloadEn l := by
    intro line c
    unfold vtpPayloadEn
    dsimp only
    split
    · rfl
    · cases x <;> rfl
  have hfiber : Commutes (x.take old) vtpFiberEn l := by
    intro line c
    unfold vtpFiberEn
    dsimp only
    split
    · rfl
    · cases x <;> rfl
  have htext : ∀ store : List Char → VtpConf → VtpConf,
      (∀ w c, store w (x.take old c) = x.take old (store w c)) →
      Commutes (x.take old) (text store) l := by
    intro store hstore line c
    unfold text
    cases (scanWord line).bind fun w => scanString 250 w.2 with
    | none => rfl
    | some w => exact congrArg (fun c => Outcome.next (c, l)) (hstore w.1 c)
  simp only [commonKeys, List.forall_mem_cons]
  refine ⟨hints _ ?_, hints _ ?_, htext _ ?_, htext _ ?_, ?_, hpayload, hfiber, List.forall_mem_nil _⟩
  · cases x <;> exact fun _ _ => rfl
  · cases x <;> exact fun _ _ => rfl
  · cases x <;> exact fun _ _ => rfl
  · cases x <;> exact fun _ _ => rfl
  · cases x <;> exact fun _ _ => rfl

theorem ftcalKeys_commute (old : VtpConf) (l : Locals) :
    ∀ key ∈ ftcalKeys, Commutes (takeHodoDt old) key.2 l ∨ key.1 = "VTP_FTCAL_HODO_DT" ∧ True := by
  simp only [ftcalKeys, List.forall_mem_cons]
  exact ⟨.inl (commutes_chEn (fun _ => rfl) fun _ _ => rfl), .inl (commutes_ints fun _ _ => rfl),
    .inl (commutes_ints fun _ _ => rfl), .inr ⟨trivial, trivial⟩, .inl (commutes_ints fun _ _ => rfl),
    .inl (commutes_ints fun _ _ => rfl), List.forall_mem_nil _⟩

theorem fthodoKeys_commute (old : VtpConf) (l : Locals) :
    ∀ key ∈ fthodoKeys, Commutes (takeHitEmin old) key.2 l ∨ key.1 = "VTP_FTHODO_EMIN" ∧ True := by
  simp only [fthodoKeys, List.forall_mem_cons]
  exact ⟨.inr ⟨trivial, trivial⟩, List.forall_mem_nil _⟩

section Localport

variable (e : Fin 2) (old : VtpConf) (l : Locals)

/-- A store into one event builder that does not touch the port. -/
theorem takeLocalport_update {f : StreamingEbCfg → StreamingEbCfg}
    (hf : ∀ eb p, f { eb with localport := p } = { f eb with localport := p })
    (c : FadcStreamingConf) (e' : Fin 2) :
    { takeLocalport e old c with
      eb := Function.update (takeLocalport e old c).eb e' (f ((takeLocalport e old c).eb e')) } =
      takeLocalport e old { c with eb := Function.update c.eb e' (f (c.eb e')) } := by
  by_cases he : e' = e
  · subst he
    simp only [takeLocalport, Function.update_idem, Function.update_self]
    rw [hf]
  · simp only [takeLocalport, Function.update_of_ne he, Function.update_of_ne (Ne.symm he),
      Function.update_comm he]

theorem commutes_onEb {conv : List Char → Option (Word × List Char)} {n : Nat}
    {store : (Nat → Word) → StreamingEbCfg → StreamingEbCfg}
    (hstore : ∀ a eb p, store a { eb with localport := p } = { store a eb with localport := p }) :
    Commutes (takeLocalport e old) (onEb conv n store) l := by
  intro line c
  exact congrArg (fun c => Outcome.next (c, l))
    (takeLocalport_update e old (hstore (argi conv n line)) c l.streamingEb)

/-- A port that is not looked at again. -/
theorem commutes_onEb_ne {conv : List Char → Option (Word × List Char)} {n : Nat}
    {store : (Nat → Word) → StreamingEbCfg → StreamingEbCfg} (he : l.streamingEb ≠ e) :
    Commutes (takeLocalport e old) (onEb conv n store) l := by
  intro line c
  refine congrArg (fun c => Outcome.next (c, l)) ?_
  simp only [takeLocalport, Function.update_of_ne he, Function.update_of_ne (Ne.symm he),
    Function.update_comm he]

theorem fadcStreamingKeys_commute :
    ∀ key ∈ fadcStreamingKeys, Commutes (takeLocalport e old) key.2 l ∨
      key.1 = "VTP_STREAMING_LOCALPORT" ∧ l.streamingEb = e := by
  have hindex : Commutes (takeLocalport e old) vtpStreaming l := by
    intro line c
    unfold vtpStreaming
    cases streamingIndex (argi scanD 1 line 0) with
    | none => rfl
    | some streamingEb => rfl
  have hslots : Commutes (takeLocalport e old) vtpStreamingSlotEn l := by
    intro line c
    unfold vtpStreamingSlotEn
    dsimp only
    generalize scanMsk (scanArgs scanD 8 line) 8 l.msk = msk
    split
    · rfl
    · exact congrArg (fun c => Outcome.next (c, { l with msk := msk }))
        (@takeLocalport_update e old (fun eb => { eb with maskEn := mskWord 8 msk })
          (fun _ _ => rfl) c l.streamingEb)
  simp only [fadcStreamingKeys, List.forall_mem_cons]
  refine ⟨.inl (commutes_ints fun _ _ => rfl), .inl (commutes_ints fun _ _ => rfl),
    .inl (commutes_ints fun _ _ => rfl), .inl hindex, .inl hslots, ?_, ?_, ?_, ?_, ?_, ?_, ?_, ?_, ?_,
    List.forall_mem_nil _⟩
  case refine_9 =>
    by_cases he : l.streamingEb = e
    · exact .inr ⟨trivial, he⟩
    · exact .inl (commutes_onEb_ne e old l he)
  all_goals exact .inl (commutes_onEb e old l fun _ _ _ => rfl)

end Localport

/-- Only the keyword of a member touches it. -/
theorem configKeys_commute (x : Forgotten) (old : VtpConf) (l : Locals) :
    ∀ key ∈ configKeys, Commutes (x.take old) key.2 l ∨ key.1 = x.keyword ∧ x.at l := by
  have hother : ∀ {τ : Type} {get : VtpConf → τ} {put : VtpConf → τ → VtpConf}
      (keys : List (String × Branch τ)), (∀ c, get (x.take old c) = get c) →
      (∀ c v, put (x.take old c) v = x.take old (put c v)) →
      ∀ key ∈ onPart get put keys, Commutes (x.take old) key.2 l ∨ key.1 = x.keyword ∧ x.at l :=
    fun keys hget hput key hkey => .inl (onPart_commutes_other hget hput keys key hkey)
  simp only [configKeys, networkKeys, detectorKeys, List.forall_mem_append]
  refine ⟨⟨⟨fun key hkey => .inl (commonKeys_commute x old l key hkey), ?_⟩, ?_⟩,
    ⟨⟨⟨⟨⟨⟨⟨⟨⟨⟨⟨⟨⟨⟨?_, ?_⟩, ?_⟩, ?_⟩, ?_⟩, ?_⟩, ?_⟩, ?_⟩, ?_⟩, ?_⟩, ?_⟩, ?_⟩, ?_⟩, ?_⟩, ?_⟩⟩
  case refine_2 =>
    cases x with
    | localport e =>
      exact onPart_commutes (fadcStreamingKeys_commute e old l) (fun _ => rfl) fun _ _ => rfl
    | hodoDt => exact hother _ (fun _ => rfl) fun _ _ => rfl
    | hitEmin => exact hother _ (fun _ => rfl) fun _ _ => rfl
  case refine_13 =>
    cases x with
    | hodoDt => exact onPart_commutes (ftcalKeys_commute old l) (fun _ => rfl) fun _ _ => rfl
    | localport e => exact hother _ (fun _ => rfl) fun _ _ => rfl
    | hitEmin => exact hother _ (fun _ => rfl) fun _ _ => rfl
  case refine_14 =>
    cases x with
    | hitEmin => exact onPart_commutes (fthodoKeys_commute old l) (fun _ => rfl) fun _ _ => rfl
    | localport e => exact hother _ (fun _ => rfl) fun _ _ => rfl
    | hodoDt => exact hother _ (fun _ => rfl) fun _ _ => rfl
  all_goals
    cases x with
    | hodoDt => exact hother _ (fun _ => rfl) fun _ _ => rfl
    | hitEmin => exact hother _ (fun _ => rfl) fun _ _ => rfl
    | localport e => exact hother _ (fun _ => rfl) fun _ _ => rfl

/-- The keyword of a member forgets what was there. -/
theorem Forgotten.setter (x : Forgotten) :
    ∃ b, branchOf x.keyword.toList = some b ∧
      ∀ old l, x.at l → ∀ line c, b line (x.take old c, l) = b line (c, l) := by
  cases x with
  | hodoDt =>
    have hpart : ("VTP_FTCAL_HODO_DT", ints 1 fun a (c : FtcalConf) => { c with hodoDt := a 0 }) ∈
        ftcalKeys := by
      simp only [ftcalKeys, List.mem_cons, true_or, or_true]
    have htable : ∀ key ∈ onPart (fun c : VtpConf => c.ftcal) (fun c v => { c with ftcal := v })
        ftcalKeys, key ∈ configKeys := by
      intro key hkey
      simp only [configKeys, detectorKeys, List.mem_append, hkey, true_or, or_true]
    exact ⟨_, branchOf_name (htable _ (mem_onPart hpart)),
      fun _ _ _ _ _ => rfl⟩
  | hitEmin =>
    have hpart : ("VTP_FTHODO_EMIN", ints 1 fun a (c : FthodoConf) => { c with hitEmin := a 0 }) ∈
        fthodoKeys := List.mem_singleton_self _
    have htable : ∀ key ∈ onPart (fun c : VtpConf => c.fthodo) (fun c v => { c with fthodo := v })
        fthodoKeys, key ∈ configKeys := by
      intro key hkey
      simp only [configKeys, detectorKeys, List.mem_append, hkey, true_or, or_true]
    exact ⟨_, branchOf_name (htable _ (mem_onPart hpart)),
      fun _ _ _ _ _ => rfl⟩
  | localport e =>
    refine ⟨networkKeys[28].2, branchOf_network (i := 28) (by decide), ?_⟩
    rintro old l rfl line c
    refine congrArg (fun v => Outcome.next ({ c with fadcStreaming := v }, l)) ?_
    simp only [Forgotten.take, takeLocalport, Function.update_idem, Function.update_self]

/-! ## Lines -/

/-- The line is the one that sets the member. -/
def LineSets (x : Forgotten) (line : List Char) (s : ReadState) : Prop :=
  let w := lineWords (cString line) s
  wordsFit w = true ∧ w.active = true ∧ w.keyword = x.keyword.toList ∧ x.at w.locals

def Forgotten.takeState (x : Forgotten) (old : VtpConf) (s : ReadState) : ReadState :=
  { s with conf := x.take old s.conf }

variable {x : Forgotten} {host line : List Char} {s : ReadState}

theorem Forgotten.keyword_ne_crate (x : Forgotten) : x.keyword.toList ≠ "VTP_CRATE".toList := by
  intro h
  have h := String.toList_inj.mp h
  cases x with
  | hodoDt => exact absurd h (by decide)
  | hitEmin => exact absurd h (by decide)
  | localport e =>
    have h : "VTP_STREAMING_LOCALPORT" = "VTP_CRATE" := h
    exact absurd h (by decide)

theorem lineWords_takeState (old : VtpConf) :
    lineWords line (x.takeState old s) = x.takeState old (lineWords line s) := by
  unfold lineWords
  cases scanWord line with
  | none => rfl
  | some w =>
    dsimp only
    cases scanWord w.2 with
    | none => rfl
    | some r => rfl

/-- What a line does that sets the member is the same for any value before. -/
theorem readLine_setter (old : VtpConf) (h : LineSets x line s) :
    readLine host line (x.takeState old s) = readLine host line s := by
  obtain ⟨hfit, hactive, hkeyword, hat⟩ := h
  obtain ⟨b, hbranch, hsame⟩ := x.setter
  unfold readLine
  dsimp only
  rw [lineWords_takeState]
  generalize lineWords (cString line) s = w at hfit hactive hkeyword hat ⊢
  have hcrate : w.keyword ≠ "VTP_CRATE".toList := hkeyword ▸ x.keyword_ne_crate
  have hfit' : wordsFit (x.takeState old w) = true := hfit
  have hactive' : (x.takeState old w).active = true := hactive
  have hkeyword' : (x.takeState old w).keyword = x.keyword.toList := hkeyword
  have hrun : b (cString line) ((x.takeState old w).conf, (x.takeState old w).locals) =
      b (cString line) (w.conf, w.locals) := hsame old w.locals hat (cString line) w.conf
  have hcrate' : (x.takeState old w).keyword ≠ "VTP_CRATE".toList := hcrate
  simp only [hfit, hfit', hactive, hactive', Bool.not_true, Bool.false_eq_true, if_false,
    if_neg hcrate,
    if_neg hcrate']
  unfold runBranch
  rw [hkeyword, hkeyword', hbranch]
  dsimp only
  rw [hrun]
  cases b (cString line) (w.conf, w.locals) <;> rfl

/-- What any other line does leaves the member alone. -/
theorem readLine_other (old : VtpConf) (h : ¬ LineSets x line s) :
    readLine host line (x.takeState old s) = (readLine host line s).map (x.takeState old) := by
  unfold LineSets at h
  unfold readLine
  dsimp only at h ⊢
  rw [lineWords_takeState]
  generalize lineWords (cString line) s = w at h ⊢
  have hfits : wordsFit (x.takeState old w) = wordsFit w := rfl
  have hkeys : (x.takeState old w).keyword = w.keyword := rfl
  have hactives : (x.takeState old w).active = w.active := rfl
  rw [hfits, hkeys, hactives]
  split
  · rfl
  next hfit =>
  split
  · rfl
  split
  · rfl
  next hactive =>
  unfold runBranch
  rw [hkeys]
  cases hbranch : branchOf w.keyword with
  | none => rfl
  | some b =>
    obtain ⟨name, hmem, hname⟩ := branchOf_mem hbranch
    rcases configKeys_commute x old w.locals _ hmem with hcommutes | ⟨hsetter, hat⟩
    · have hrun : b (cString line) ((x.takeState old w).conf, (x.takeState old w).locals) =
          (b (cString line) (w.conf, w.locals)).map fun t => (x.take old t.1, t.2) :=
        hcommutes (cString line) w.conf
      dsimp only
      rw [hrun]
      cases b (cString line) (w.conf, w.locals) <;> rfl
    · refine absurd ⟨by simpa using hfit, by simpa using hactive, ?_, hat⟩ h
      rw [← hname, ← hsetter]

/-! ## Runs -/

/-- A line that is reached sets the member. -/
def FileSets (x : Forgotten) (host : List Char) : List FilePiece → ReadState → Prop
  | [], _ => False
  | .unended :: _, _ => False
  | .line l :: ps, s =>
      LineSets x l s ∨
        match readLine host l s with
        | .next s' => FileSets x host ps s'
        | _ => False

def ReadResult.map (f : VtpConf → VtpConf) : ReadResult → ReadResult
  | .returned code c => .returned code (f c)
  | .hangs => .hangs
  | .faults => .faults

theorem lineSets_takeState (y : Forgotten) (old : VtpConf) :
    LineSets y line (x.takeState old s) ↔ LineSets y line s := by
  unfold LineSets
  rw [lineWords_takeState]
  rfl

/-- Which members a file sets does not depend on their values. -/
theorem fileSets_takeState (y : Forgotten) (old : VtpConf) (ps : List FilePiece) (s : ReadState) :
    FileSets y host ps (x.takeState old s) ↔ FileSets y host ps s := by
  induction ps generalizing s with
  | nil => exact Iff.rfl
  | cons p ps ih =>
    cases p with
    | unended => exact Iff.rfl
    | line l =>
      simp only [FileSets]
      refine or_congr (lineSets_takeState y old) ?_
      by_cases hsets : LineSets x l s
      · rw [readLine_setter old hsets]
      · rw [readLine_other old hsets]
        cases readLine host l s with
        | next s' => exact ih s'
        | ret code s' => exact Iff.rfl
        | fault => exact Iff.rfl

theorem readPieces_sets (old : VtpConf) {ps : List FilePiece} {s : ReadState}
    (h : FileSets x host ps s) : readPieces host ps (x.takeState old s) = readPieces host ps s := by
  induction ps generalizing s with
  | nil => exact absurd h id
  | cons p ps ih =>
    cases p with
    | unended => exact absurd h id
    | line l =>
      simp only [readPieces]
      by_cases hsets : LineSets x l s
      · rw [readLine_setter old hsets]
      · rw [readLine_other old hsets]
        simp only [FileSets, hsets, false_or] at h
        cases hline : readLine host l s with
        | next s' =>
          simp only [hline] at h
          exact ih h
        | ret code s' => simp only [hline] at h
        | fault => rfl

theorem readPieces_other (old : VtpConf) {ps : List FilePiece} {s : ReadState}
    (h : ¬ FileSets x host ps s) :
    readPieces host ps (x.takeState old s) = (readPieces host ps s).map (x.take old) := by
  induction ps generalizing s with
  | nil => rfl
  | cons p ps ih =>
    cases p with
    | unended => rfl
    | line l =>
      simp only [FileSets, not_or] at h
      simp only [readPieces]
      rw [readLine_other old h.1]
      cases hline : readLine host l s with
      | next s' =>
        have hrest := h.2
        simp only [hline] at hrest
        exact ih hrest
      | ret code s' => rfl
      | fault => rfl

/-- A member that the file does not set keeps its value. -/
theorem readPieces_get {ps : List FilePiece} {s : ReadState} {code : Int} {c : VtpConf}
    (h : ¬ FileSets x host ps s) (hrun : readPieces host ps s = .returned code c) :
    x.get c = x.get s.conf := by
  have hsame : x.takeState s.conf s = s := by
    unfold Forgotten.takeState
    rw [Forgotten.take_eq_self rfl]
  have hmap := readPieces_other s.conf h
  rw [hsame, hrun] at hmap
  have hc : c = x.take s.conf c := (ReadResult.returned.inj hmap).2
  rw [hc, x.get_take]

/-! ## All members -/

def takeAll (xs : List Forgotten) (old c : VtpConf) : VtpConf :=
  xs.foldr (fun x c => x.take old c) c

theorem get_takeAll {xs : List Forgotten} (hx : x ∈ xs) (old c : VtpConf) :
    x.get (takeAll xs old c) = x.get old := by
  induction xs with
  | nil => cases hx
  | cons y xs ih =>
    show x.get (y.take old (takeAll xs old c)) = x.get old
    by_cases hxy : x = y
    · rw [hxy, y.get_take]
    · rw [Forgotten.get_take_ne hxy]
      exact ih ((List.mem_cons.mp hx).resolve_left hxy)

theorem takeAll_eq_self_iff {xs : List Forgotten} {old c : VtpConf} :
    takeAll xs old c = c ↔ ∀ x ∈ xs, x.get old = x.get c := by
  constructor
  · intro h x hx
    rw [← h, get_takeAll hx]
  · intro h
    induction xs with
    | nil => rfl
    | cons y xs ih =>
      show y.take old (takeAll xs old c) = c
      rw [ih fun x hx => h x (List.mem_cons_of_mem y hx)]
      exact Forgotten.take_eq_self (h y List.mem_cons_self)

theorem fileSets_takeAll (x : Forgotten) (xs : List Forgotten) (old : VtpConf) (ps : List FilePiece)
    (s : ReadState) :
    FileSets x host ps { s with conf := takeAll xs old s.conf } ↔ FileSets x host ps s := by
  induction xs with
  | nil => exact Iff.rfl
  | cons y xs ih => exact (@fileSets_takeState y host x old ps _).trans ih

/-- Of the members that differ, those that the file does not set differ after it. -/
theorem readPieces_takeAll (xs : List Forgotten) (old : VtpConf) {ps : List FilePiece}
    {s : ReadState} {code : Int} {c : VtpConf} (hrun : readPieces host ps s = .returned code c) :
    ∃ ys, (∀ y, y ∈ ys ↔ y ∈ xs ∧ ¬ FileSets y host ps s) ∧
      readPieces host ps { s with conf := takeAll xs old s.conf } =
        .returned code (takeAll ys old c) := by
  induction xs with
  | nil => exact ⟨[], by simp, hrun⟩
  | cons x xs ih =>
    obtain ⟨ys, hmem, hys⟩ := ih
    have hsets : FileSets x host ps _ ↔ FileSets x host ps s := fileSets_takeAll x xs old ps s
    by_cases hx : FileSets x host ps s
    · refine ⟨ys, ?_, ?_⟩
      · intro y
        rw [hmem, List.mem_cons]
        exact ⟨fun h => ⟨.inr h.1, h.2⟩, fun h =>
          ⟨h.1.resolve_left fun hyx => h.2 (hyx ▸ hx), h.2⟩⟩
      · rw [← hys]
        exact readPieces_sets old (hsets.mpr hx)
    · refine ⟨x :: ys, ?_, ?_⟩
      · intro y
        rw [List.mem_cons, List.mem_cons, hmem]
        constructor
        · rintro (rfl | hy)
          · exact ⟨.inl rfl, hx⟩
          · exact ⟨.inr hy.1, hy.2⟩
        · rintro ⟨hyx | hy, hfile⟩
          · exact .inl hyx
          · exact .inr ⟨hy, hfile⟩
      · have hother := readPieces_other old fun h => hx (hsets.mp h)
        rw [hys] at hother
        exact hother

def Forgotten.members : List Forgotten := [.hodoDt, .hitEmin, .localport 0, .localport 1]

theorem Forgotten.mem_members (x : Forgotten) : x ∈ Forgotten.members := by
  cases x with
  | hodoDt => decide
  | hitEmin => decide
  | localport e =>
    cases e using Fin.cases with
    | zero => decide
    | succ e =>
      rw [Fin.fin_one_eq_zero e]
      decide

/-- The four members are all that `vtpInitGlobals` keeps. -/
theorem vtpInitGlobals_takeAll (conf conf' : VtpConf) :
    vtpInitGlobals conf' = takeAll Forgotten.members conf' (vtpInitGlobals conf) := by
  have hps : (initHps conf'.hps).1 = (initHps conf.hps).1 := by rw [initHps_eq, initHps_eq]
  have heb : (fun e => (conf'.fadcStreaming.eb e).init) =
      (takeLocalport 0 conf' (takeLocalport 1 conf' (vtpInitGlobals conf).fadcStreaming)).eb := by
    funext e
    cases e using Fin.cases with
    | zero => rfl
    | succ e =>
      rw [Fin.fin_one_eq_zero e]
      rfl
  unfold vtpInitGlobals
  rw [hps, heb]
  rfl

/-! ## A load -/

/-- The file sets the member. -/
def LoadSets (x : Forgotten) (env : ConfigEnv) (stack : ConfigStack)
    (filename : List Char) : Prop :=
  ∃ text, openedText env filename = some text ∧
    FileSets x env.host (filePieces text) (readStart stack (vtpInitGlobals default))

/-- A load that comes back leaves the same configuration for any two before it
exactly where each of the four members was the same or is set. -/
theorem load_forgets_iff {env : ConfigEnv} {stack : ConfigStack} {filename : List Char}
    {conf c : VtpConf} {code : Int} (conf' : VtpConf)
    (h : vtpReadConfigFile env stack filename (vtpInitGlobals conf) = .returned code c) :
    vtpReadConfigFile env stack filename (vtpInitGlobals conf') = .returned code c ↔
      ∀ x : Forgotten, x.get conf' = x.get conf ∨ LoadSets x env stack filename := by
  have hopened := vtpReadConfigFile_returned h
  cases htext : openedText env filename with
  | none =>
    rw [htext] at hopened
    have hsame : ∀ c, vtpReadConfigFile env stack filename c = .returned code c := hopened
    rw [hsame] at h ⊢
    cases h
    simp only [ReadResult.returned.injEq, true_and, vtpInitGlobals_takeAll conf conf',
      takeAll_eq_self_iff, LoadSets, htext, reduceCtorEq, false_and, exists_false, or_false]
    exact ⟨fun hall x => hall x x.mem_members, fun hall x _ => hall x⟩
  | some text =>
    rw [htext] at hopened
    have hrun : ∀ c, vtpReadConfigFile env stack filename c =
        readPieces env.host (filePieces text) (readStart stack c) := hopened
    rw [hrun] at h ⊢
    obtain ⟨ys, hmem, htake⟩ := readPieces_takeAll Forgotten.members conf' h
    have hother : readPieces env.host (filePieces text) (readStart stack (vtpInitGlobals conf')) =
        .returned code (takeAll ys conf' c) := by
      rw [vtpInitGlobals_takeAll conf conf']
      exact htake
    have hsets : ∀ x, LoadSets x env stack filename ↔
        FileSets x env.host (filePieces text) (readStart stack (vtpInitGlobals conf)) := by
      intro x
      simp only [LoadSets, htext, Option.some.injEq, exists_eq_left']
      rw [vtpInitGlobals_takeAll conf default]
      exact fileSets_takeAll x Forgotten.members default (filePieces text)
        (readStart stack (vtpInitGlobals conf))
    rw [hother]
    simp only [ReadResult.returned.injEq, true_and, takeAll_eq_self_iff]
    constructor
    · intro hall x
      by_cases hx : LoadSets x env stack filename
      · exact .inr hx
      · have hunset := fun hfile => hx ((hsets x).mpr hfile)
        have hkept := readPieces_get hunset h
        exact .inl ((hall x ((hmem x).mpr ⟨x.mem_members, hunset⟩)).trans hkept)
    · intro hall x hx
      have hunset := ((hmem x).mp hx).2
      rw [readPieces_get hunset h]
      exact (hall x).resolve_right fun hload => hunset ((hsets x).mp hload)

/-- A configuration that an earlier run has left. -/
def ranBefore : VtpConf :=
  { (default : VtpConf) with
    fadcStreaming :=
      { (default : FadcStreamingConf) with
        eb := ![{ (default : StreamingEbCfg) with localport := 6000#16 }, default] } }

/-- A file that sets the port of the event builder. -/
theorem load_forgets_localport :
    ∃ c, vtpReadConfigFile (hostOf "VTP_CRATE all\nVTP_STREAMING_LOCALPORT 5\n".toList) freshStack
        "/cnf".toList (vtpInitGlobals default) = .returned 0 c ∧
      vtpReadConfigFile (hostOf "VTP_CRATE all\nVTP_STREAMING_LOCALPORT 5\n".toList) freshStack
        "/cnf".toList (vtpInitGlobals ranBefore) = .returned 0 c := by
  have hread : (vtpReadConfigFile (hostOf "VTP_CRATE all\nVTP_STREAMING_LOCALPORT 5\n".toList)
      freshStack "/cnf".toList (vtpInitGlobals default)).endsIn 0 (fun _ => true) = true := by
    decide +kernel
  obtain ⟨c, hread, -⟩ := ReadResult.endsIn_iff.mp hread
  refine ⟨c, hread, (load_forgets_iff ranBefore hread).mpr ?_⟩
  intro x
  cases x with
  | hodoDt => exact .inl rfl
  | hitEmin => exact .inl rfl
  | localport e =>
    cases e using Fin.cases with
    | succ e =>
      rw [Fin.fin_one_eq_zero e]
      exact .inl rfl
    | zero =>
      have hpieces : filePieces "VTP_CRATE all\nVTP_STREAMING_LOCALPORT 5\n".toList =
          [.line "VTP_CRATE all\n".toList, .line "VTP_STREAMING_LOCALPORT 5\n".toList] := by
        rw [literal rfl, literal rfl, literal rfl]
        decide
      refine .inr ⟨_, rfl, ?_⟩
      rw [hpieces]
      exact .inr (.inl ⟨rfl, rfl, rfl, rfl⟩)

/-- A file that does not. -/
theorem load_keeps_localport :
    ∃ c c', vtpReadConfigFile (hostOf "VTP_CRATE all\n".toList) freshStack "/cnf".toList
        (vtpInitGlobals default) = .returned 0 c ∧
      vtpReadConfigFile (hostOf "VTP_CRATE all\n".toList) freshStack "/cnf".toList
        (vtpInitGlobals ranBefore) = .returned 0 c' ∧
      (c.fadcStreaming.eb 0).localport ≠ (c'.fadcStreaming.eb 0).localport := by
  have hread : (vtpReadConfigFile (hostOf "VTP_CRATE all\n".toList) freshStack "/cnf".toList
      (vtpInitGlobals default)).endsIn 0 (fun c => (c.fadcStreaming.eb 0).localport == 0#16) =
      true := by
    decide +kernel
  have hread' : (vtpReadConfigFile (hostOf "VTP_CRATE all\n".toList) freshStack "/cnf".toList
      (vtpInitGlobals ranBefore)).endsIn 0 (fun c => (c.fadcStreaming.eb 0).localport == 6000#16) =
      true := by
    decide +kernel
  obtain ⟨c, hread, hport⟩ := ReadResult.endsIn_iff.mp hread
  obtain ⟨c', hread', hport'⟩ := ReadResult.endsIn_iff.mp hread'
  refine ⟨c, c', hread, hread', ?_⟩
  rw [beq_iff_eq.mp hport, beq_iff_eq.mp hport']
  decide

end VtpStreaming
