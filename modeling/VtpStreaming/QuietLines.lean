import VtpStreaming.ConfigNames
import VtpStreaming.ConfigSteady

/-!
# Lines that store nothing

A line of `vtpReadConfigFile` leaves the configuration alone in a few ways only: it opens a
section, belongs to another crate, has no keyword, has one that sets a variable, or has a
value that is missing or out of range.
-/

namespace VtpStreaming

open Clib

/-! ## Branches -/

section Branches

variable {σ τ : Type}

/-- A line that goes on stores something, unless `q` holds of it. -/
def QuietWhen (q : List Char → Bool) (b : Branch σ) : Prop :=
  ∀ line l (f : σ → σ) l', (∀ s, b line (s, l) = .next (f s, l')) →
    ((∀ s, f s = s) ↔ q line = true)

/-- Every line of the branch that goes on stores something. -/
def Alters (b : Branch σ) : Prop := QuietWhen (fun _ => false) b

theorem alters_of {b : Branch σ}
    (h : ∀ line l (f : σ → σ) l', (∀ s, b line (s, l) = .next (f s, l')) → ∃ s, f s ≠ s) :
    Alters b := by
  intro line l f l' hf
  obtain ⟨s, hs⟩ := h line l f l' hf
  exact iff_of_false (fun hall => hs (hall s)) Bool.false_ne_true

theorem next_store {s t : σ} {l l' : Locals} (h : Outcome.next (s, l) = .next (t, l')) : s = t :=
  (Prod.mk.inj (Outcome.next.inj h)).1

/-- What a line that always goes on stores. -/
theorem quietWhen_of_next {b : Branch σ} {q : List Char → Bool}
    (store : List Char → Locals → σ → σ)
    (hrun : ∀ line l s, ∃ l', b line (s, l) = .next (store line l s, l'))
    (h : ∀ line l, (∀ s, store line l s = s) ↔ q line = true) : QuietWhen q b := by
  intro line l f l' hf
  have hsame : ∀ s, f s = store line l s := by
    intro s
    obtain ⟨l'', hs⟩ := hrun line l s
    exact next_store ((hf s).symm.trans hs)
  simp only [hsame]
  exact h line l

/-- A line that always goes on. -/
theorem alters_stores (store : List Char → σ → σ) (h : ∀ line, ∃ s, store line s ≠ s) :
    Alters fun line s => .next (store line s.1, s.2) :=
  quietWhen_of_next (fun line _ => store line) (fun _ l _ => ⟨l, rfl⟩) fun line _ =>
    iff_of_false (fun hall => (h line).elim fun s hs => hs (hall s)) Bool.false_ne_true

/-- Values that are one off. -/
def off (a : Nat → Word) (i : Nat) : Word := a i + 1#32

@[simp] theorem off_ne (a : Nat → Word) (i : Nat) : a i ≠ off a i := by simp [off]

@[simp] theorem alters_ints [Inhabited σ] (n : Nat) {store : (Nat → Word) → σ → σ}
    (h : ∀ a s, store a (store (off a) s) ≠ store (off a) s) : Alters (ints n store) :=
  alters_stores (fun line => store (argi scanD n line)) fun _ => ⟨_, h _ default⟩

/-- A value out of range. -/
def outside (ok : Int → Bool) (line : List Char) : Bool := !ok (argi scanD 1 line 0).toInt

theorem quiet_ranged [Inhabited σ] (ok : Int → Bool) {store : Word → σ → σ}
    (h : ∀ v s, store v (store (v + 1#32) s) ≠ store (v + 1#32) s) :
    QuietWhen (outside ok) (ranged ok store) := by
  refine quietWhen_of_next (fun line _ s =>
    if ok (argi scanD 1 line 0).toInt then store (argi scanD 1 line 0) s else s)
    (fun _ l _ => ⟨l, rfl⟩) fun line _ => ?_
  dsimp only [outside]
  cases ok (argi scanD 1 line 0).toInt with
  | true => exact iff_of_false (fun hall => h _ default (hall _)) Bool.false_ne_true
  | false => exact iff_of_true (fun _ => rfl) rfl

/-- No second word. -/
def noWord (line : List Char) : Bool := ((scanWord line).bind fun w => scanString 250 w.2).isNone

theorem quiet_text [Inhabited σ] {store : List Char → σ → σ}
    (h : ∀ w s, store w (store (' ' :: w) s) ≠ store (' ' :: w) s) :
    QuietWhen noWord (text store) := by
  intro line l f l' hf
  unfold text at hf
  unfold noWord
  cases hword : (scanWord line).bind fun w => scanString 250 w.2 with
  | none =>
    refine iff_of_true (fun s => ?_) rfl
    have hs := hf s
    rw [hword] at hs
    exact (next_store hs).symm
  | some w =>
    refine iff_of_false (fun hall => h w.1 default ?_) Bool.false_ne_true
    have hs := hf (store (' ' :: w.1) default)
    rw [hword, hall] at hs
    exact next_store hs

/-- No number behind the keyword. -/
def noNumber (conv : List Char → Option (Word × List Char)) (n : Nat) (line : List Char) : Bool :=
  (scanArgs conv n line).isEmpty

theorem quiet_chEn [Inhabited σ] {get : σ → Fin 16 → Word} {put : (Fin 16 → Word) → σ → σ}
    (hget : ∀ en s, get (put en s) = en) (hput : ∀ s, put (get s) s = s) :
    QuietWhen (noNumber scanLitX 16) (chEn get put) := by
  refine quietWhen_of_next (fun line _ s =>
    put (fun j => (scanArgs scanLitX 16 line).getD j.val (get s j)) s)
    (fun _ l _ => ⟨l, rfl⟩) fun line _ => ?_
  dsimp only [noNumber]
  cases scanArgs scanLitX 16 line with
  | nil => exact iff_of_true hput rfl
  | cons v vs =>
    refine iff_of_false (fun hall => ?_) Bool.false_ne_true
    have hfirst := congrFun (congrArg get (hall (put (fun _ => v + 1#32) default))) 0
    rw [hget, hget] at hfirst
    simp at hfirst

theorem indexed_altered [Inhabited σ] {n k : Nat} {store : Fin n → (Nat → Word) → σ → σ}
    {line : List Char} {l l' : Locals} {f : σ → σ}
    (hf : ∀ s, indexed n k store line (s, l) = .next (f s, l'))
    (h : ∀ i, ∃ s, store i (argi scanD k line) s ≠ s) : ∃ s, f s ≠ s := by
  unfold indexed at hf
  dsimp only at hf
  split at hf
  · next hindex =>
    obtain ⟨s, hs⟩ := h ⟨(argi scanD k line 0).toInt.toNat, (Int.toNat_lt hindex.1).mpr hindex.2⟩
    exact ⟨s, next_store (hf s) ▸ hs⟩
  · cases hf default

@[simp] theorem alters_indexed [Inhabited σ] (n k : Nat) {store : Fin n → (Nat → Word) → σ → σ}
    (h : ∀ i a s, store i a (store i (off a) s) ≠ store i (off a) s) :
    Alters (indexed n k store) :=
  alters_of fun line _ _ _ hf =>
    indexed_altered hf fun i => ⟨_, h i (argi scanD k line) default⟩

@[simp] theorem alters_indexedMixed [Inhabited σ] (n : Nat) (ds : List Directive)
    {store : Fin n → List (Word ⊕ FloatText) → σ → σ}
    (h : ∀ i vs, ∃ s, store i vs s ≠ s) : Alters (indexedMixed n ds store) := by
  refine alters_of fun line l f l' hf => ?_
  unfold indexedMixed at hf
  dsimp only at hf
  split at hf
  · next hindex =>
    obtain ⟨s, hs⟩ := h ⟨(intAt (mixedArgs ds line) 0).toInt.toNat,
      (Int.toNat_lt hindex.1).mpr hindex.2⟩ (mixedArgs ds line)
    exact ⟨s, next_store (hf s) ▸ hs⟩
  · cases hf default

/-- A part is quiet when its branch is. -/
theorem QuietWhen.on [Inhabited σ] {q : List Char → Bool} {b : Branch τ} (hb : QuietWhen q b)
    {get : σ → τ} {put : σ → τ → σ} (hpart : IsPart get put) : QuietWhen q (b.on get put) := by
  intro line l f l' hf
  have hstep : ∀ s, b line (get s, l) = .next (get (f s), l') ∧ f s = put s (get (f s)) := by
    intro s
    have hs := hf s
    unfold Branch.on at hs
    dsimp only at hs
    split at hs
    · next t l'' hrun =>
      obtain ⟨ht, rfl⟩ := Prod.mk.inj (Outcome.next.inj hs)
      rw [← ht, hpart.get_put]
      exact ⟨hrun, rfl⟩
    · cases hs
    · cases hs
  -- the branch does not see what is beside the part, so any configuration will do
  have hput : ∀ t, b line (t, l) = .next (get (f (put default t)), l') := by
    intro t
    have ht := (hstep (put default t)).1
    rwa [hpart.get_put] at ht
  rw [← hb line l _ l' hput]
  constructor
  · intro h t
    rw [h, hpart.get_put]
  · intro h s
    have hs := (hstep s).1
    rw [hput] at hs
    rw [(hstep s).2, ← next_store hs, h, hpart.put_get]

theorem onPart_alters [Inhabited σ] {keys : List (String × Branch τ)} {p : String → Prop}
    (h : ∀ key ∈ keys, Alters key.2 ∨ p key.1) {get : σ → τ} {put : σ → τ → σ}
    (hpart : IsPart get put) : ∀ key ∈ onPart get put keys, Alters key.2 ∨ p key.1 := by
  unfold onPart
  rw [List.forall_mem_map]
  intro key hkey
  exact (h key hkey).imp_left fun hb => hb.on hpart

end Branches

/-! ## The keywords -/

@[simp] theorem update_off {n : Nat} (t : Fin n → Word) (i : Fin n) (a : Nat → Word) (k : Nat) :
    Function.update t i (a k) ≠ Function.update t i (off a k) := by
  intro h
  have hat := congrFun h i
  simp at hat

@[simp] theorem three_off (a : Nat → Word) : three a ≠ three (off a) :=
  fun h => off_ne a 0 (congrFun h 0)

theorem ne_add {n : Nat} {w : BitVec n} (hw : w ≠ 0#n) (v : BitVec n) : v ≠ v + w := by
  intro h
  exact hw (BitVec.add_right_eq_self.mp h.symm)

@[simp] theorem mul_off (a : Nat → Word) (i : Nat) : a i * 8#32 ≠ off a i * 8#32 := by
  rw [off, BitVec.add_mul]
  exact ne_add (by decide) _

@[simp] theorem setWidth_off {n : Nat} (hn : 0 < n) (hle : n ≤ 32) (a : Nat → Word) (i : Nat) :
    (a i).setWidth n ≠ (off a i).setWidth n := by
  rw [off, BitVec.setWidth_add _ _ hle]
  refine ne_add (fun hone => ?_) _
  have hbit := congrArg (fun w => w.getLsbD 0) hone
  simp [hn] at hbit

@[simp] theorem bytesOf_off {n : Nat} (hn : 0 < n) (a : Nat → Word) :
    bytesOf n a ≠ bytesOf n (off a) :=
  fun h => setWidth_off (by decide) (by decide) a 0 (congrFun h ⟨0, hn⟩)

theorem alters_vtpPayloadEn : Alters vtpPayloadEn := by
  refine alters_of fun line l f l' hf => ?_
  unfold vtpPayloadEn at hf
  dsimp only at hf
  split at hf
  · cases hf default
  · let msk := mskWord 16 (scanMsk (scanArgs scanD 16 line) 16 l.msk)
    refine ⟨{ (default : VtpConf) with payloadEn := msk + 1#32 }, fun heq => ?_⟩
    have hmsk := congrArg VtpConf.payloadEn ((next_store (hf _)).trans heq)
    simp [msk] at hmsk

theorem alters_vtpFiberEn : Alters vtpFiberEn := by
  refine alters_of fun line l f l' hf => ?_
  unfold vtpFiberEn at hf
  dsimp only at hf
  split at hf
  · cases hf default
  · let msk := mskWord 4 (scanMsk (scanArgs scanD 4 line) 4 l.msk)
    refine ⟨{ (default : VtpConf) with fiberEn := msk + 1#32 }, fun heq => ?_⟩
    have hmsk := congrArg VtpConf.fiberEn ((next_store (hf _)).trans heq)
    simp [msk] at hmsk

theorem quiet_vtpRefclk : QuietWhen (noNumber scanD 1) vtpRefclk := by
  refine quietWhen_of_next
    (fun line _ c => { c with refclk := (scanArgs scanD 1 line).getD 0 c.refclk })
    (fun _ l _ => ⟨l, rfl⟩) fun line _ => ?_
  dsimp only [noNumber]
  cases scanArgs scanD 1 line with
  | nil => exact iff_of_true (fun _ => rfl) rfl
  | cons v vs =>
    refine iff_of_false (fun hall => ?_) Bool.false_ne_true
    have hclk := congrArg VtpConf.refclk (hall { (default : VtpConf) with refclk := v + 1#32 })
    simp at hclk

theorem quiet_vtpStreaming : QuietWhen (fun _ => true) vtpStreaming := by
  intro line l f l' hf
  refine iff_of_true (fun s => ?_) rfl
  have hs := hf s
  unfold vtpStreaming at hs
  split at hs
  · exact (next_store hs).symm
  · cases hs

theorem quiet_vtpGtTrg : QuietWhen (fun _ => true) vtpGtTrg := by
  intro line l f l' hf
  refine iff_of_true (fun s => ?_) rfl
  have hs := hf s
  unfold vtpGtTrg at hs
  dsimp only at hs
  split at hs
  · cases hs
  · exact (next_store hs).symm

/-- The current event builder with a field that the line does not give. -/
theorem eb_altered {i : Fin 2} {store : StreamingEbCfg → StreamingEbCfg}
    (h : ∃ eb, store eb ≠ eb) :
    ∃ s : FadcStreamingConf, { s with eb := Function.update s.eb i (store (s.eb i)) } ≠ s := by
  obtain ⟨eb, heb⟩ := h
  refine ⟨{ (default : FadcStreamingConf) with eb := fun _ => eb }, fun heq => heb ?_⟩
  simpa using congrFun (congrArg FadcStreamingConf.eb heq) i

theorem alters_onEb (conv : List Char → Option (Word × List Char)) (n : Nat)
    {store : (Nat → Word) → StreamingEbCfg → StreamingEbCfg}
    (h : ∀ a, ∃ eb, store a eb ≠ eb) : Alters (onEb conv n store) := by
  refine alters_of fun line l f l' hf => ?_
  obtain ⟨s, hs⟩ := eb_altered (i := l.streamingEb) (h (argi conv n line))
  exact ⟨s, next_store (hf s) ▸ hs⟩

@[simp] theorem alters_onEb_off (conv : List Char → Option (Word × List Char)) (n : Nat)
    {store : (Nat → Word) → StreamingEbCfg → StreamingEbCfg}
    (h : ∀ a eb, store a (store (off a) eb) ≠ store (off a) eb) : Alters (onEb conv n store) :=
  alters_onEb conv n fun a => ⟨_, h a default⟩

theorem alters_vtpStreamingSlotEn : Alters vtpStreamingSlotEn := by
  refine alters_of fun line l f l' hf => ?_
  unfold vtpStreamingSlotEn at hf
  dsimp only at hf
  split at hf
  · cases hf default
  · let msk := mskWord 8 (scanMsk (scanArgs scanD 8 line) 8 l.msk)
    have hmsk : ∃ eb : StreamingEbCfg, { eb with maskEn := msk } ≠ eb :=
      ⟨{ (default : StreamingEbCfg) with maskEn := msk + 1#32 }, by simp⟩
    obtain ⟨s, hs⟩ := eb_altered (i := l.streamingEb) hmsk
    exact ⟨s, next_store (hf s) ▸ hs⟩

theorem trgBit_altered {i : Fin 32} {store : TrgBit → TrgBit} (h : ∃ bit, store bit ≠ bit) :
    ∃ s : GtConf, { s with trgbits := Function.update s.trgbits i (store (s.trgbits i)) } ≠ s := by
  obtain ⟨bit, hbit⟩ := h
  refine ⟨{ (default : GtConf) with trgbits := fun _ => bit }, fun heq => hbit ?_⟩
  simpa using congrFun (congrArg GtConf.trgbits heq) i

theorem alters_onTrgBit {store : List Char → TrgBit → TrgBit}
    (h : ∀ line, ∃ bit, store line bit ≠ bit) : Alters (onTrgBit store) := by
  refine alters_of fun line l f l' hf => ?_
  by_cases hbit : 0 ≤ l.trgBit.toInt ∧ l.trgBit.toInt < 32
  · let i : Fin 32 := ⟨l.trgBit.toInt.toNat, (Int.toNat_lt hbit.1).mpr hbit.2⟩
    obtain ⟨s, hs⟩ := trgBit_altered (i := i) (h line)
    have hrun : onTrgBit store line (s, l) =
        .next ({ s with trgbits := Function.update s.trgbits i (store line (s.trgbits i)) }, l) :=
      dif_pos hbit
    exact ⟨s, next_store (hrun.symm.trans (hf s)) ▸ hs⟩
  · have hrun : onTrgBit store line (default, l) = .ret (-4) (default, l) := dif_neg hbit
    cases hrun.symm.trans (hf default)

theorem oneOrTwo_altered (values : List Word) :
    oneOrTwo values (fun _ => values.getD 0 0#32 + 1#32) ≠ fun _ => values.getD 0 0#32 + 1#32 :=
  fun h => ne_add (by decide) _ (congrFun h 0)

theorem alters_vtpGtTrgbit : Alters vtpGtTrgbit := by
  refine alters_of fun line l f l' hf => ?_
  unfold vtpGtTrgbit at hf
  refine indexed_altered hf fun i => ?_
  let width := argi scanD 8 line 4
  let bit := { (default : TrgBit) with sectorCoinWidth := width + 1#32 }
  refine ⟨{ (default : GtConf) with trgbits := fun _ => bit }, fun heq => ?_⟩
  have hwidth := congrArg TrgBit.sectorCoinWidth (congrFun (congrArg GtConf.trgbits heq) i)
  simp [bit, width] at hwidth

@[simp] theorem alters_vtpGtTrgbit2 : Alters vtpGtTrgbit2 := by
  refine alters_indexed 32 11 fun i a s heq => ?_
  have hwidth := congrArg TrgBit.sectorCoinWidth (congrFun (congrArg GtConf.trgbits heq) i)
  simp at hwidth

theorem alters_vtpDcSegthr : Alters vtpDcSegthr := by
  refine alters_of fun line l f l' hf => ?_
  unfold vtpDcSegthr at hf
  dsimp only at hf
  split at hf
  · cases hf default
  · split at hf
    · next hindex =>
      let s := { (default : DcConf) with
        dcsegfindThreshold := fun _ => argi scanD 2 line 1 + 1#32 }
      refine ⟨s, fun heq => ?_⟩
      have hthr := congrFun (congrArg DcConf.dcsegfindThreshold ((next_store (hf s)).trans heq))
        ⟨(argi scanD 2 line 0).toInt.toNat, hindex⟩
      dsimp only at hthr
      rw [Function.update_self] at hthr
      exact ne_add (by decide) _ hthr
    · cases hf default

theorem alters_vtpComptonFadcEnMask : Alters vtpComptonFadcEnMask := by
  refine alters_of fun line l f l' hf => ?_
  unfold vtpComptonFadcEnMask at hf
  dsimp only at hf
  split at hf
  · next hindex =>
    split at hf
    · cases hf default
    · let msk := mskWord 16 (scanMsk (scanArgs scanD 17 line).tail 16 l.msk)
      let s := { (default : ComptonConf) with fadcMask := fun _ => msk + 1#32 }
      refine ⟨s, fun heq => ?_⟩
      have hmsk := congrFun (congrArg ComptonConf.fadcMask ((next_store (hf s)).trans heq))
        ⟨((scanArgs scanD 17 line).getD 0 0#32).toInt.toNat,
          (Int.toNat_lt hindex.1).mpr hindex.2⟩
      dsimp only at hmsk
      rw [Function.update_self] at hmsk
      exact ne_add (by decide) _ hmsk
  · cases hf default

@[simp] theorem alters_onElement {n : Nat} {α σ : Type} [Inhabited σ] [Inhabited α]
    {get : σ → Fin n → α} {put : (Fin n → α) → σ → σ} (hget : ∀ v s, get (put v s) = v) (k : Nat)
    {store : (Nat → Word) → α → α} (h : ∀ a t, store a (store (off a) t) ≠ store (off a) t) :
    Alters (onElement get put k store) := by
  refine alters_indexed n k fun i a s heq => ?_
  have helement := congrFun (congrArg get heq) i
  simp only [hget, Function.update_self] at helement
  exact h a _ helement

@[simp] theorem alters_vtpHpsSinglePde : Alters vtpHpsSinglePde := by
  refine alters_indexedMixed 4 _ fun i vs => ?_
  let trig := { (default : HpsSingleTrig) with pdeEn := intAt vs 5 + 1#32 }
  refine ⟨{ (default : HpsConf) with singleTrig := fun _ => trig }, fun heq => ?_⟩
  have hen := congrArg HpsSingleTrig.pdeEn (congrFun (congrArg HpsConf.singleTrig heq) i)
  simp [trig] at hen

@[simp] theorem alters_vtpHpsPairEnergydist : Alters vtpHpsPairEnergydist := by
  refine alters_indexedMixed 4 _ fun i vs => ?_
  let trig := { (default : HpsPairTrig) with pairEdEn := intAt vs 3 + 1#32 }
  refine ⟨{ (default : HpsConf) with pairTrig := fun _ => trig }, fun heq => ?_⟩
  have hen := congrArg HpsPairTrig.pairEdEn (congrFun (congrArg HpsConf.pairTrig heq) i)
  simp [trig] at hen

/-! ## The table -/

/-- The keywords whose line may store nothing, and when it does not. -/
def quietKeys : List (String × (List Char → Bool)) :=
  [("VTP_FIRMWARE_V7", noWord),
   ("VTP_FIRMWARE_Z7", noWord),
   ("VTP_REFCLK", noNumber scanD 1),
   ("VTP_STATS_HOST", noWord),
   ("VTP_STATS_PORT", outside fun v => 0 < v && v < 65536),
   ("VTP_STATS_INST", outside fun v => 0 ≤ v && v < 4),
   ("VTP_SYNC_PKT_LEN", outside fun v => 0 < v && v < 1500),
   ("VTP_NUM_CONNECTIONS", outside fun v => 1 ≤ v && v ≤ 4),
   ("VTP_NET_MODE", outside fun v => v == 0 || v == 1),
   ("VTP_ENABLE_EJFAT", outside fun v => v == 0 || v == 1),
   ("VTP_LOCAL_PORT", outside fun v => 0 < v && v < 65536),
   ("VTP_STREAMING", fun _ => true),
   ("VTP_GT_TRG", fun _ => true),
   ("VTP_EC_FADCSUM_CH", noNumber scanLitX 16),
   ("VTP_PC_FADCSUM_CH", noNumber scanLitX 16),
   ("VTP_ECS_FADCSUM_CH", noNumber scanLitX 16),
   ("VTP_FTCAL_FADCSUM_CH", noNumber scanLitX 16)]

def quietNames : List String := quietKeys.map (·.1)

theorem networkKeys_alter : ∀ key ∈ networkKeys, Alters key.2 ∨ key.1 ∈ quietNames := by
  have hcommon : ∀ key ∈ commonKeys, Alters key.2 ∨ key.1 ∈ quietNames := by
    simp only [commonKeys, List.forall_mem_cons]
    exact ⟨.inl (by simp), .inl (by simp), .inr (by decide), .inr (by decide), .inr (by decide),
      .inl alters_vtpPayloadEn, .inl alters_vtpFiberEn, List.forall_mem_nil _⟩
  have hstreaming : ∀ key ∈ streamingKeys, Alters key.2 ∨ key.1 ∈ quietNames := by
    have hnames : ∀ name ∈ streamingKeys.map (·.1), name ∈ quietNames := by decide
    exact fun key hkey => .inr (hnames _ (List.mem_map_of_mem hkey))
  have hfadc : ∀ key ∈ fadcStreamingKeys, Alters key.2 ∨ key.1 ∈ quietNames := by
    have hindex : "VTP_STREAMING" ∈ quietNames := by decide
    have hconnect : Alters (onEb scanD 1 fun a eb =>
        { eb with connect := if (a 0).toInt > 0 then 0#32 else 1#32 }) := by
      refine alters_onEb scanD 1 fun a => ⟨{ (default : StreamingEbCfg) with connect := 2#32 }, ?_⟩
      intro heq
      have hconnect := congrArg StreamingEbCfg.connect heq
      dsimp only at hconnect
      split at hconnect
      · cases hconnect
      · cases hconnect
    simp only [fadcStreamingKeys, List.forall_mem_cons]
    simp [hindex, hconnect, alters_vtpStreamingSlotEn]
  unfold networkKeys
  simp only [List.forall_mem_append]
  exact ⟨⟨hcommon, onPart_alters hstreaming ⟨fun _ _ => rfl, fun _ _ _ => rfl, fun _ => rfl⟩⟩,
    onPart_alters hfadc ⟨fun _ _ => rfl, fun _ _ _ => rfl, fun _ => rfl⟩⟩

theorem gtKeys_alter : ∀ key ∈ gtKeys, Alters key.2 ∨ key.1 ∈ quietNames := by
  simp only [gtKeys, List.forall_mem_cons]
  refine ⟨.inl (by simp), .inl (by simp), .inr (by decide), .inl ?_, .inl ?_, .inl ?_, .inl ?_,
    .inl ?_, .inl ?_, .inl ?_, .inl ?_, .inl alters_vtpGtTrgbit, .inl alters_vtpGtTrgbit2,
    List.forall_mem_nil _⟩
  · refine alters_onTrgBit fun line => ⟨{ (default : TrgBit) with
      sspStriggerBitMask := fun _ => (scanArgs scanLitX 2 line).getD 0 0#32 + 1#32 }, fun h => ?_⟩
    exact oneOrTwo_altered _ (congrArg TrgBit.sspStriggerBitMask h)
  · exact alters_onTrgBit fun line => ⟨{ (default : TrgBit) with
      sspCtriggerBitMask := argi scanLitX 1 line 0 + 1#32 }, by simp⟩
  · refine alters_onTrgBit fun line => ⟨{ (default : TrgBit) with
      sspSectorMask := fun _ => (scanArgs scanLitX 2 line).getD 0 0#32 + 1#32 }, fun h => ?_⟩
    exact oneOrTwo_altered _ (congrArg TrgBit.sspSectorMask h)
  · refine alters_onTrgBit fun line => ⟨{ (default : TrgBit) with
      sectorMultMin := fun _ => (scanArgs scanD 2 line).getD 0 0#32 + 1#32 }, fun h => ?_⟩
    exact oneOrTwo_altered _ (congrArg TrgBit.sectorMultMin h)
  · exact alters_onTrgBit fun line => ⟨{ (default : TrgBit) with
      sectorCoinWidth := argi scanD 1 line 0 + 1#32 }, by simp⟩
  · exact alters_onTrgBit fun line => ⟨{ (default : TrgBit) with
      pulserFreq := ' ' :: floatAt (mixedArgs [.f] line) 0 }, by simp⟩
  · exact alters_onTrgBit fun line => ⟨{ (default : TrgBit) with
      delay := argi scanD 1 line 0 + 1#32 }, by simp⟩
  · exact alters_onTrgBit fun line => ⟨{ (default : TrgBit) with
      prescale := argi scanD 1 line 0 + 1#32 }, by simp⟩

theorem hpsKeys_alter : ∀ key ∈ hpsKeys, Alters key.2 ∨ key.1 ∈ quietNames := by
  have hcluster : ∀ key ∈ hpsClusterKeys, Alters key.2 ∨ key.1 ∈ quietNames := by
    have htop : ∀ w : Word,
        Alters (ints 0 fun _ c => { c with topNbottom := w } : Branch HpsClusterConf) :=
      fun w => alters_stores (fun _ c => { c with topNbottom := w }) fun _ =>
        ⟨{ (default : HpsClusterConf) with topNbottom := w + 1#32 }, by simp⟩
    simp [hpsClusterKeys, htop]
  have hhodoscope : ∀ key ∈ hpsHodoscopeKeys, Alters key.2 ∨ key.1 ∈ quietNames := by
    simp [hpsHodoscopeKeys]
  have hcalib : ∀ key ∈ hpsCalibKeys, Alters key.2 ∨ key.1 ∈ quietNames := by
    have hfreq := alters_stores
      (fun line (c : HpsCalibConf) => { c with pulserFreq := floatAt (mixedArgs [.f] line) 0 })
      fun line => ⟨{ (default : HpsCalibConf) with
        pulserFreq := ' ' :: floatAt (mixedArgs [.f] line) 0 }, by simp⟩
    simp only [hpsCalibKeys, List.forall_mem_cons]
    exact ⟨.inl (by simp), .inl (by simp), .inl (by simp), .inl (by simp), .inl (by simp),
      .inl (by simp), .inl hfreq, List.forall_mem_nil _⟩
  have hsingle : ∀ key ∈ hpsSingleKeys, Alters key.2 ∨ key.1 ∈ quietNames := by
    simp [hpsSingleKeys, onSingleTrig]
  have hpair : ∀ key ∈ hpsPairKeys, Alters key.2 ∨ key.1 ∈ quietNames := by
    simp [hpsPairKeys, onPairTrig]
  have hmult : ∀ key ∈ hpsMultKeys, Alters key.2 ∨ key.1 ∈ quietNames := by
    simp [hpsMultKeys, onMultTrig]
  have hfee : ∀ key ∈ hpsFeeKeys, Alters key.2 ∨ key.1 ∈ quietNames := by simp [hpsFeeKeys]
  have htrig : ∀ key ∈ hpsTrigKeys, Alters key.2 ∨ key.1 ∈ quietNames := by simp [hpsTrigKeys]
  simp only [hpsKeys, List.forall_mem_append]
  refine ⟨⟨⟨⟨⟨⟨⟨?_, ?_⟩, ?_⟩, hsingle⟩, hpair⟩, hmult⟩, ?_⟩, ?_⟩
  all_goals exact onPart_alters ‹_› ⟨fun _ _ => rfl, fun _ _ _ => rfl, fun _ => rfl⟩

theorem comptonKeys_alter : ∀ key ∈ comptonKeys, Alters key.2 ∨ key.1 ∈ quietNames := by
  have hplane : Alters (indexed 5 5 fun i a c =>
      { c with eplaneMask := Function.update c.eplaneMask i (eplaneBits a) }
        : Branch ComptonConf) := by
    refine alters_of fun line l f l' hf => indexed_altered hf fun i => ?_
    let bits := eplaneBits (argi scanD 5 line)
    refine ⟨{ (default : ComptonConf) with eplaneMask := fun _ => bits + 1#32 }, fun heq => ?_⟩
    have hbits := congrFun (congrArg ComptonConf.eplaneMask heq) i
    simp [bits] at hbits
  have hscaler : Alters (ints 1 fun a c =>
      { c with enableScalerReadout := if (a 0).toInt > 0 then 1#32 else 0#32 }
        : Branch ComptonConf) := by
    refine alters_stores (fun line c =>
      { c with enableScalerReadout := if (argi scanD 1 line 0).toInt > 0 then 1#32 else 0#32 })
      fun line => ⟨{ (default : ComptonConf) with enableScalerReadout := 2#32 }, fun heq => ?_⟩
    have hon := congrArg ComptonConf.enableScalerReadout heq
    dsimp only at hon
    split at hon
    · cases hon
    · cases hon
  simp only [comptonKeys, List.forall_mem_cons]
  exact ⟨.inl (by simp), .inl (by simp), .inl (by simp), .inl (by simp),
    .inl alters_vtpComptonFadcEnMask, .inl (by simp), .inl hplane, .inl (by simp), .inl hscaler,
    .inl (by simp), List.forall_mem_nil _⟩

theorem detectorKeys_alter : ∀ key ∈ detectorKeys, Alters key.2 ∨ key.1 ∈ quietNames := by
  have hecInner : ∀ key ∈ ecInnerKeys, Alters key.2 ∨ key.1 ∈ quietNames := by simp [ecInnerKeys]
  have hecOuter : ∀ key ∈ ecOuterKeys, Alters key.2 ∨ key.1 ∈ quietNames := by simp [ecOuterKeys]
  have hec : ∀ key ∈ ecKeys, Alters key.2 ∨ key.1 ∈ quietNames := by
    simp only [ecKeys, List.cons_append, List.forall_mem_cons, List.forall_mem_append]
    exact ⟨.inr (by decide),
      onPart_alters hecInner ⟨fun _ _ => rfl, fun _ _ _ => rfl, fun _ => rfl⟩,
      onPart_alters hecOuter ⟨fun _ _ => rfl, fun _ _ _ => rfl, fun _ => rfl⟩⟩
  have hpc : ∀ key ∈ pcKeys, Alters key.2 ∨ key.1 ∈ quietNames := by
    simp only [pcKeys, List.forall_mem_cons]
    exact ⟨.inr (by decide), by simp⟩
  have hhtcc : ∀ key ∈ htccKeys, Alters key.2 ∨ key.1 ∈ quietNames := by simp [htccKeys]
  have hftof : ∀ key ∈ ftofKeys, Alters key.2 ∨ key.1 ∈ quietNames := by simp [ftofKeys]
  have hcnd : ∀ key ∈ cndKeys, Alters key.2 ∨ key.1 ∈ quietNames := by simp [cndKeys]
  have hpcs : ∀ key ∈ pcsKeys, Alters key.2 ∨ key.1 ∈ quietNames := by simp [pcsKeys]
  have hecsInner : ∀ key ∈ ecsInnerKeys, Alters key.2 ∨ key.1 ∈ quietNames := by
    simp [ecsInnerKeys]
  have hecsOuter : ∀ key ∈ ecsOuterKeys, Alters key.2 ∨ key.1 ∈ quietNames := by
    simp [ecsOuterKeys]
  have hecs : ∀ key ∈ ecsKeys, Alters key.2 ∨ key.1 ∈ quietNames := by
    simp only [ecsKeys, List.forall_mem_append, List.forall_mem_cons]
    exact ⟨⟨⟨.inr (by decide), by simp⟩,
      onPart_alters hecsInner ⟨fun _ _ => rfl, fun _ _ _ => rfl, fun _ => rfl⟩⟩,
      onPart_alters hecsOuter ⟨fun _ _ => rfl, fun _ _ _ => rfl, fun _ => rfl⟩⟩
  have hgt := gtKeys_alter
  have hdc : ∀ key ∈ dcKeys, Alters key.2 ∨ key.1 ∈ quietNames := by
    simp [dcKeys, alters_vtpDcSegthr]
  have hhcal : ∀ key ∈ hcalKeys, Alters key.2 ∨ key.1 ∈ quietNames := by simp [hcalKeys]
  have hftcal : ∀ key ∈ ftcalKeys, Alters key.2 ∨ key.1 ∈ quietNames := by
    simp only [ftcalKeys, List.forall_mem_cons]
    exact ⟨.inr (by decide), by simp⟩
  have hfthodo : ∀ key ∈ fthodoKeys, Alters key.2 ∨ key.1 ∈ quietNames := by simp [fthodoKeys]
  have hhps := hpsKeys_alter
  have hroc : ∀ key ∈ vtpRocKeys, Alters key.2 ∨ key.1 ∈ quietNames := by
    have hdest := alters_stores
      (fun line (c : VtpRocConf) => { c with destip := argi scanX 1 line 0 })
      fun line => ⟨{ (default : VtpRocConf) with destip := argi scanX 1 line 0 + 1#32 }, by simp⟩
    simp only [vtpRocKeys, List.forall_mem_cons]
    exact ⟨.inl (by simp), .inl hdest, .inl (by simp), List.forall_mem_nil _⟩
  have hcompton := comptonKeys_alter
  simp only [detectorKeys, List.forall_mem_append]
  refine ⟨⟨⟨⟨⟨⟨⟨⟨⟨⟨⟨⟨⟨⟨?_, ?_⟩, ?_⟩, ?_⟩, ?_⟩, ?_⟩, ?_⟩, ?_⟩, ?_⟩, ?_⟩, ?_⟩, ?_⟩, ?_⟩, ?_⟩, ?_⟩
  all_goals exact onPart_alters ‹_› ⟨fun _ _ => rfl, fun _ _ _ => rfl, fun _ => rfl⟩

theorem configKeys_alter : ∀ key ∈ configKeys, Alters key.2 ∨ key.1 ∈ quietNames := by
  unfold configKeys
  rw [List.forall_mem_append]
  exact ⟨networkKeys_alter, detectorKeys_alter⟩

/-- The keyword has a branch that is quiet then. -/
def QuietIn {σ : Type} (keys : List (String × Branch σ)) (key : String × (List Char → Bool)) :
    Prop :=
  ∃ b, (key.1, b) ∈ keys ∧ QuietWhen key.2 b

theorem QuietIn.at {σ : Type} {keys : List (String × Branch σ)} {name : String}
    {q : List Char → Bool} {b : Branch σ} (i : Nat) (h : keys[i]? = some (name, b))
    (hb : QuietWhen q b) : QuietIn keys (name, q) :=
  ⟨b, List.mem_of_getElem? h, hb⟩

theorem QuietIn.on {σ τ : Type} [Inhabited σ] {keys : List (String × Branch τ)}
    {key : String × (List Char → Bool)} (h : QuietIn keys key) {get : σ → τ} {put : σ → τ → σ}
    (hpart : IsPart get put) : QuietIn (onPart get put keys) key := by
  obtain ⟨b, hmem, hb⟩ := h
  exact ⟨b.on get put, mem_onPart hmem, hb.on hpart⟩

theorem QuietIn.mono {σ : Type} {keys keys' : List (String × Branch σ)}
    {key : String × (List Char → Bool)} (h : QuietIn keys key) (hsub : keys ⊆ keys') :
    QuietIn keys' key :=
  h.imp fun _ hb => ⟨hsub hb.1, hb.2⟩

/-- The keywords whose line may store nothing are in the table. -/
theorem quietKeys_quiet : ∀ key ∈ quietKeys, QuietIn configKeys key := by
  have hpart : ∀ {τ : Type} {keys : List (String × Branch τ)} {key} (get : VtpConf → τ) (put),
      IsPart get put → onPart get put keys ⊆ configKeys → QuietIn keys key →
        QuietIn configKeys key :=
    fun _ _ part hsub h => (h.on part).mono hsub
  have hcommon : ∀ {key}, QuietIn commonKeys key → QuietIn configKeys key :=
    fun h => h.mono fun b hb => by
      simp only [configKeys, networkKeys, List.mem_append, hb, true_or]
  have hstreaming : ∀ {key}, QuietIn streamingKeys key → QuietIn configKeys key :=
    hpart (·.streaming) (fun c v => { c with streaming := v })
      ⟨fun _ _ => rfl, fun _ _ _ => rfl, fun _ => rfl⟩ fun b hb => by
        simp only [configKeys, networkKeys, List.mem_append, hb, true_or, or_true]
  have hfadc : ∀ {key}, QuietIn fadcStreamingKeys key → QuietIn configKeys key :=
    hpart (·.fadcStreaming) (fun c v => { c with fadcStreaming := v })
      ⟨fun _ _ => rfl, fun _ _ _ => rfl, fun _ => rfl⟩ fun b hb => by
        simp only [configKeys, networkKeys, List.mem_append, hb, true_or, or_true]
  have hgt : ∀ {key}, QuietIn gtKeys key → QuietIn configKeys key :=
    hpart (·.gt) (fun c v => { c with gt := v })
      ⟨fun _ _ => rfl, fun _ _ _ => rfl, fun _ => rfl⟩ fun b hb => by
        simp only [configKeys, detectorKeys, List.mem_append, hb, true_or, or_true]
  have hec : ∀ {key}, QuietIn ecKeys key → QuietIn configKeys key :=
    hpart (·.ec) (fun c v => { c with ec := v })
      ⟨fun _ _ => rfl, fun _ _ _ => rfl, fun _ => rfl⟩ fun b hb => by
        simp only [configKeys, detectorKeys, List.mem_append, hb, true_or, or_true]
  have hpc : ∀ {key}, QuietIn pcKeys key → QuietIn configKeys key :=
    hpart (·.pc) (fun c v => { c with pc := v })
      ⟨fun _ _ => rfl, fun _ _ _ => rfl, fun _ => rfl⟩ fun b hb => by
        simp only [configKeys, detectorKeys, List.mem_append, hb, true_or, or_true]
  have hecs : ∀ {key}, QuietIn ecsKeys key → QuietIn configKeys key :=
    hpart (·.ecs) (fun c v => { c with ecs := v })
      ⟨fun _ _ => rfl, fun _ _ _ => rfl, fun _ => rfl⟩ fun b hb => by
        simp only [configKeys, detectorKeys, List.mem_append, hb, true_or, or_true]
  have hftcal : ∀ {key}, QuietIn ftcalKeys key → QuietIn configKeys key :=
    hpart (·.ftcal) (fun c v => { c with ftcal := v })
      ⟨fun _ _ => rfl, fun _ _ _ => rfl, fun _ => rfl⟩ fun b hb => by
        simp only [configKeys, detectorKeys, List.mem_append, hb, true_or, or_true]
  simp only [quietKeys, List.forall_mem_cons]
  exact ⟨hcommon (.at 2 rfl (quiet_text (by simp))), hcommon (.at 3 rfl (quiet_text (by simp))),
    hcommon (.at 4 rfl quiet_vtpRefclk), hstreaming (.at 0 rfl (quiet_text (by simp))),
    hstreaming (.at 1 rfl (quiet_ranged _ (by simp))),
    hstreaming (.at 2 rfl (quiet_ranged _ (by simp))),
    hstreaming (.at 3 rfl (quiet_ranged _ (by simp))),
    hstreaming (.at 4 rfl (quiet_ranged _ (by simp))),
    hstreaming (.at 5 rfl (quiet_ranged _ (by simp))),
    hstreaming (.at 6 rfl (quiet_ranged _ (by simp))),
    hstreaming (.at 7 rfl (quiet_ranged _ (by simp))),
    hfadc (.at 3 rfl quiet_vtpStreaming), hgt (.at 2 rfl quiet_vtpGtTrg),
    hec (.at 0 rfl (quiet_chEn (fun _ _ => rfl) fun _ => rfl)),
    hpc (.at 0 rfl (quiet_chEn (fun _ _ => rfl) fun _ => rfl)),
    hecs (.at 0 rfl (quiet_chEn (fun _ _ => rfl) fun _ => rfl)),
    hftcal (.at 0 rfl (quiet_chEn (fun _ _ => rfl) fun _ => rfl)), List.forall_mem_nil _⟩

/-- When a line of the keyword stores nothing. -/
def keywordQuiet (keyword line : List Char) : Prop :=
  ∃ key ∈ quietKeys, keyword = key.1.toList ∧ key.2 line = true

theorem branchOf_quiet {keyword line : List Char} {b : Branch VtpConf}
    (h : branchOf keyword = some b) {l l' : Locals} {f : VtpConf → VtpConf}
    (hf : ∀ s, b line (s, l) = .next (f s, l')) :
    (∀ s, f s = s) ↔ keywordQuiet keyword line := by
  by_cases hquiet : ∃ key ∈ quietKeys, keyword = key.1.toList
  · obtain ⟨key, hkey, rfl⟩ := hquiet
    obtain ⟨b', hmem, hb⟩ := quietKeys_quiet key hkey
    rw [branchOf_name hmem] at h
    cases h
    refine (hb line l f l' hf).trans ⟨fun hq => ⟨key, hkey, rfl, hq⟩, ?_⟩
    rintro ⟨key', hkey', heq, hq⟩
    -- no keyword has two conditions
    have hsame : key = key' := List.inj_on_of_nodup_map
      (show (quietKeys.map (·.1)).Nodup by decide) hkey hkey' (String.toList_inj.mp heq)
    rwa [hsame]
  · obtain ⟨name, hmem, rfl⟩ := branchOf_mem h
    rcases configKeys_alter _ hmem with hb | hname
    · refine iff_of_false (mt (hb line l f l' hf).mp Bool.false_ne_true) ?_
      exact fun ⟨key, hkey, heq, _⟩ => hquiet ⟨key, hkey, heq⟩
    · obtain ⟨key, hkey, heq⟩ := List.mem_map.mp hname
      exact absurd ⟨key, hkey, congrArg String.toList heq.symm⟩ hquiet

/-! ## Lines -/

/-- The line leaves the configuration alone: it opens a section, stands in one of another
crate, has a keyword that is not known, or nothing that its keyword stores. `w` is the state
with the words of the line. -/
def QuietLine (line : List Char) (w : ReadState) : Prop :=
  w.keyword = "VTP_CRATE".toList ∨ w.active = false ∨
    (∀ key ∈ configKeys, w.keyword ≠ key.1.toList) ∨ keywordQuiet w.keyword line

/-- A line that goes on stores nothing exactly then. -/
theorem quietLine_iff {host line : List Char} {s s' : ReadState} {f : VtpConf → VtpConf}
    (hrun : ∀ c, readLine host line { s with conf := c } = .next { s' with conf := f c }) :
    QuietLine (cString line) (lineWords (cString line) s) ↔ ∀ c, f c = c := by
  have hread := readLine_conf host line s
  simp only [hrun] at hread
  generalize lineWords (cString line) s = w at hread ⊢
  have hkept : ∀ {t : VtpConf → ReadState}, (∀ c, (t c).conf = c) →
      (∀ c, Outcome.next { s' with conf := f c } = .next (t c)) → ∀ c, f c = c :=
    fun ht heq c => (congrArg ReadState.conf (Outcome.next.inj (heq c))).trans (ht c)
  -- words that do not fit end the call
  split at hread
  · cases hread s.conf
  split at hread
  · next hcrate => exact iff_of_true (.inl hcrate) (hkept (fun _ => rfl) hread)
  split at hread
  · next hactive =>
    exact iff_of_true (.inr (.inl (by simpa using hactive))) (hkept (fun _ => rfl) hread)
  next hcrate hactive =>
  have hactive : w.active = true := by simpa using hactive
  unfold runBranch at hread
  cases hb : branchOf w.keyword with
  | none =>
    simp only [hb] at hread
    refine iff_of_true (.inr (.inr (.inl fun key hkey heq => ?_))) (hkept (fun _ => rfl) hread)
    rw [heq, branchOf_name hkey] at hb
    cases hb
  | some b =>
    simp only [hb] at hread
    have hnext : ∀ c, b (cString line) (c, w.locals) = .next (f c, s'.locals) := by
      intro c
      have hc := hread c
      split at hc
      · next conf l hrun =>
        have hstate := Outcome.next.inj hc
        have hconf : f c = conf := congrArg ReadState.conf hstate
        have hlocals : s'.locals = l := congrArg ReadState.locals hstate
        rw [hrun, hconf, hlocals]
      · cases hc
      · cases hc
    have hquiet := branchOf_quiet hb hnext
    rw [hquiet]
    refine ⟨?_, fun h => .inr (.inr (.inr h))⟩
    rintro (h | h | h | h)
    · exact absurd h hcrate
    · rw [hactive] at h
      cases h
    · obtain ⟨name, hmem, hname⟩ := branchOf_mem hb
      exact absurd hname.symm (h _ hmem)
    · exact h

end VtpStreaming
