import VtpStreaming.GeneratedLines
import VtpStreaming.LocalUse
import VtpStreaming.PayloadMask
import VtpStreaming.UploadReadable

/-!
# What a mask line stores

`vtp/vtpConfig.c`, `GET_READ_MSK`, `GET_READ_MSK4` and `GET_READ_MSK8`. All mask
lines scan into one array, which nothing clears. A line that gives fewer values
than the mask has bits stores what was in the array before it.
-/

namespace VtpStreaming

open Clib

/-! ## The lines -/

inductive MaskKey
  | payload
  | fiber
  | slot
  | fadcMask
deriving DecidableEq

namespace MaskKey

def name : MaskKey → String
  | .payload => "VTP_PAYLOAD_EN"
  | .fiber => "VTP_FIBER_EN"
  | .slot => "VTP_STREAMING_SLOT_EN"
  | .fadcMask => "VTP_COMPTON_FADC_EN_MASK"

def bits : MaskKey → Nat
  | .payload => 16
  | .fiber => 4
  | .slot => 8
  | .fadcMask => 16

theorem bits_le (key : MaskKey) : key.bits ≤ 16 := by cases key <;> decide

/-- The bits that the line gives. The mask of Compton has an index before them. -/
def values : MaskKey → List Char → List Word
  | .fadcMask, line => (scanArgs scanD 17 line).tail
  | key, line => scanArgs scanD key.bits line

def index (line : List Char) : Int := ((scanArgs scanD 17 line).getD 0 0#32).toInt

/-- The words where the mask is kept. -/
def stored (key : MaskKey) (line : List Char) (conf : VtpConf) (streamingEb : Fin 2) : List Word :=
  match key with
  | .payload => conf.payloadEn :: List.ofFn conf.streaming.payloadEnArray
  | .fiber => [conf.fiberEn]
  | .slot => [(conf.fadcStreaming.eb streamingEb).maskEn]
  | .fadcMask => [conf.compton.fadcMask (Fin.ofNat 5 (index line).toNat)]

/-- What is stored there of the scanned bits. -/
def words : MaskKey → (Fin 16 → Word) → List Word
  | .payload, msk => mskWord 16 msk :: List.ofFn msk
  | key, msk => [mskWord key.bits msk]

/-- The bits of the mask decide what is stored. -/
theorem words_same (key : MaskKey) {msk msk' : Fin 16 → Word}
    (h : ∀ j : Fin 16, j.val < key.bits → msk j = msk' j) : key.words msk = key.words msk' := by
  have hword := mskWord_same h
  cases key with
  | payload =>
    have hall : msk = msk' := funext fun j => h j j.isLt
    rw [hall]
  | fiber => exact congrArg (fun w => [w]) hword
  | slot => exact congrArg (fun w => [w]) hword
  | fadcMask => exact congrArg (fun w => [w]) hword

theorem mskWord_of_words (key : MaskKey) {msk msk' : Fin 16 → Word}
    (h : key.words msk = key.words msk') : mskWord key.bits msk = mskWord key.bits msk' := by
  cases key with
  | payload => exact (List.cons.inj h).1
  | fiber => exact (List.cons.inj h).1
  | slot => exact (List.cons.inj h).1
  | fadcMask => exact (List.cons.inj h).1

def branch : MaskKey → Branch VtpConf
  | .payload => vtpPayloadEn
  | .fiber => vtpFiberEn
  | .slot => vtpStreamingSlotEn.on (·.fadcStreaming) fun c v => { c with fadcStreaming := v }
  | .fadcMask => vtpComptonFadcEnMask.on (·.compton) fun c v => { c with compton := v }

theorem mem_configKeys (key : MaskKey) : (key.name, key.branch) ∈ configKeys := by
  have hcommon : ∀ k ∈ commonKeys, k ∈ configKeys := commonKeys_sub
  have hfadc : ∀ k ∈ onPart (fun c : VtpConf => c.fadcStreaming)
      (fun c v => { c with fadcStreaming := v }) fadcStreamingKeys, k ∈ configKeys :=
    fadcStreaming_part.sub
  have hcompton : ∀ k ∈ onPart (fun c : VtpConf => c.compton)
      (fun c v => { c with compton := v }) comptonKeys, k ∈ configKeys := by
    intro k hk
    simp only [configKeys, detectorKeys, List.mem_append, hk, or_true]
  cases key with
  | payload => exact hcommon commonKeys[5] (List.getElem_mem (by decide))
  | fiber => exact hcommon commonKeys[6] (List.getElem_mem (by decide))
  | slot =>
    exact hfadc _ (List.mem_map_of_mem
      (List.getElem_mem (show 4 < fadcStreamingKeys.length by decide)))
  | fadcMask =>
    exact hcompton _ (List.mem_map_of_mem
      (List.getElem_mem (show 4 < comptonKeys.length by decide)))

end MaskKey

/-- How a line ends that stores a mask. -/
inductive MaskResult
  | stored (words : List Word)
  | refused (code : Int)
  | faults
deriving DecidableEq

def maskResult (key : MaskKey) (host line : List Char) (s : ReadState) : MaskResult :=
  match readLine host (line ++ ['\n']) s with
  | .next s' => .stored (key.stored (cString (line ++ ['\n'])) s'.conf s'.locals.streamingEb)
  | .ret code _ => .refused code
  | .fault => .faults

/-- A line that is read whole and begins with the keyword. Its values, and the
index before them, are in range. -/
structure MaskLine (key : MaskKey) (line : List Char) : Prop where
  noNewline : '\n' ∉ line
  short : line.length + 1 < strlen
  read : isRead line = true
  keyword : ∃ rest, scanWord (cString (line ++ ['\n'])) = some (key.name.toList, rest)
  values : ∀ v ∈ key.values (cString (line ++ ['\n'])), v = 0#32 ∨ v = 1#32
  index : key = .fadcMask →
    0 ≤ MaskKey.index (cString (line ++ ['\n'])) ∧ MaskKey.index (cString (line ++ ['\n'])) < 5

/-- The word behind the keyword fits `ROC_name`. -/
def SecondFits (line : List Char) : Prop :=
  ∀ name rest w tail, scanWord (cString (line ++ ['\n'])) = some (name, rest) →
    scanWord rest = some (w, tail) → w.length < roclen

/-- The line has a value for every bit, and the first of them fits. -/
structure Complete (key : MaskKey) (line : List Char) : Prop where
  values : key.bits ≤ (key.values (cString (line ++ ['\n']))).length
  fits : SecondFits line

/-- Wherever the line stands in an active section, it stores the same. -/
def StoresAlone (mem : ConfigStack → Prop) (key : MaskKey) (line : List Char) : Prop :=
  ∃ words, ∀ host stack conf pre s, mem stack → Reached host stack conf pre s →
    s.active = true → maskResult key host line s = .stored words

/-! ## One line -/

section Line

variable {key : MaskKey} {line : List Char} {host : List Char} {s : ReadState}

/-- What the branch stores is made of the scanned array. -/
theorem MaskKey.branch_next (key : MaskKey) (c : VtpConf) (l : Locals)
    (hindex : key = .fadcMask → 0 ≤ MaskKey.index line ∧ MaskKey.index line < 5)
    (hok : mskOk key.bits (scanMsk (key.values line) key.bits l.msk) = true) :
    ∃ c' l', key.branch line (c, l) = .next (c', l') ∧
      l'.msk = scanMsk (key.values line) key.bits l.msk ∧
      key.stored line c' l'.streamingEb =
        key.words (scanMsk (key.values line) key.bits l.msk) := by
  cases key with
  | payload =>
    have hok : mskOk 16 (scanMsk (scanArgs scanD 16 line) 16 l.msk) = true := hok
    simp only [MaskKey.branch, vtpPayloadEn, hok, Bool.not_true, Bool.false_eq_true, if_false]
    exact ⟨_, _, rfl, rfl, rfl⟩
  | fiber =>
    have hok : mskOk 4 (scanMsk (scanArgs scanD 4 line) 4 l.msk) = true := hok
    simp only [MaskKey.branch, vtpFiberEn, hok, Bool.not_true, Bool.false_eq_true, if_false]
    exact ⟨_, _, rfl, rfl, rfl⟩
  | slot =>
    have hok : mskOk 8 (scanMsk (scanArgs scanD 8 line) 8 l.msk) = true := hok
    simp only [MaskKey.branch, Branch.on, vtpStreamingSlotEn, hok, Bool.not_true,
      Bool.false_eq_true, if_false]
    refine ⟨_, _, rfl, rfl, ?_⟩
    simp [MaskKey.stored, MaskKey.words, MaskKey.values, MaskKey.bits]
  | fadcMask =>
    have hok : mskOk 16 (scanMsk (scanArgs scanD 17 line).tail 16 l.msk) = true := hok
    obtain ⟨hlow, hhigh⟩ := hindex rfl
    have hrange : 0 ≤ ((scanArgs scanD 17 line).getD 0 0#32).toInt ∧
        ((scanArgs scanD 17 line).getD 0 0#32).toInt < 5 := ⟨hlow, hhigh⟩
    simp only [MaskKey.branch, Branch.on, vtpComptonFadcEnMask, dif_pos hrange, hok, Bool.not_true,
      Bool.false_eq_true, if_false]
    refine ⟨_, _, rfl, rfl, ?_⟩
    have hfin : (⟨((scanArgs scanD 17 line).getD 0 0#32).toInt.toNat, by omega⟩ : Fin 5) =
        Fin.ofNat 5 (MaskKey.index line).toNat := by
      apply Fin.ext
      have hlt : (MaskKey.index line).toNat < 5 := by omega
      exact (Nat.mod_eq_of_lt hlt).symm
    rw [hfin]
    simp [MaskKey.stored, MaskKey.words, MaskKey.values, MaskKey.bits]

theorem readLine_mask (h : MaskLine key line) (hfits : SecondFits line) (hs : Reading s) :
    readLine host (line ++ ['\n']) s =
      runBranch (cString (line ++ ['\n'])) (lineWords (cString (line ++ ['\n'])) s) := by
  obtain ⟨rest, hword⟩ := h.keyword
  have hkey := configKeys_isSetting key.mem_configKeys
  obtain ⟨hname, -, -, hactive⟩ := lineWords_word (s := s) hword
  have hroc : (lineWords (cString (line ++ ['\n'])) s).rocName.length < roclen := by
    unfold lineWords
    rw [hword]
    dsimp only
    cases hsecond : scanWord rest with
    | none => exact hs.fits
    | some w => exact hfits _ rest w.1 w.2 hword hsecond
  have hfit : wordsFit (lineWords (cString (line ++ ['\n'])) s) = true := by
    simp only [wordsFit, hname, Bool.and_eq_true, decide_eq_true_eq]
    exact ⟨Nat.lt_of_le_of_lt hkey.plain.length_le (by decide), hroc⟩
  unfold readLine
  dsimp only
  rw [hfit, if_neg (by decide), hname, if_neg hkey.setting, hactive, hs.active, if_neg (by decide)]

/-- The line stores what is in the array after the scan. -/
theorem maskResult_stored (h : MaskLine key line) (hfits : SecondFits line) (hs : Reading s)
    (hok : mskOk key.bits (scanMsk (key.values (cString (line ++ ['\n']))) key.bits s.locals.msk) =
      true) :
    maskResult key host line s =
      .stored (key.words
        (scanMsk (key.values (cString (line ++ ['\n']))) key.bits s.locals.msk)) := by
  obtain ⟨rest, hword⟩ := h.keyword
  obtain ⟨hname, hconf, hlocals, -⟩ := lineWords_word (s := s) hword
  obtain ⟨c, l, hrun, -, hstored⟩ := @MaskKey.branch_next (cString (line ++ ['\n'])) key s.conf
    s.locals h.index hok
  have hbranch := branchOf_name key.mem_configKeys
  unfold maskResult
  rw [readLine_mask h hfits hs, runBranch, hname, hbranch, hconf, hlocals]
  dsimp only
  rw [hrun]
  dsimp only
  rw [hstored]

/-- A word that does not fit is written behind `ROC_name`. -/
theorem maskResult_faults {name rest w tail : List Char}
    (hword : scanWord (cString (line ++ ['\n'])) = some (name, rest))
    (hsecond : scanWord rest = some (w, tail)) (hlong : roclen ≤ w.length) :
    maskResult key host line s = .faults := by
  have hroc : (lineWords (cString (line ++ ['\n'])) s).rocName = w := by
    unfold lineWords
    rw [hword]
    dsimp only
    rw [hsecond]
  have hfit : wordsFit (lineWords (cString (line ++ ['\n'])) s) = false := by
    unfold wordsFit
    rw [hroc, decide_eq_false (Nat.not_lt.mpr hlong), Bool.and_false]
  unfold maskResult readLine
  dsimp only
  rw [hfit]
  rfl

end Line

/-! ## The array -/

section Array

variable {n : Nat} {msk : Fin 16 → Word} {values : List Word}

theorem scanMsk_given {j : Fin 16} (hj : j.val < n) (hlen : j.val < values.length) :
    scanMsk values n msk j = values[j.val] := by
  unfold scanMsk
  rw [if_pos hj, List.getD_eq_getElem _ _ hlen]

theorem scanMsk_kept {j : Fin 16} (hlen : values.length ≤ j.val) :
    scanMsk values n msk j = msk j := by
  unfold scanMsk
  rw [List.getD_eq_default _ _ hlen, ite_self]

/-- The bits of a line in range are 0 or 1 when those before it are. -/
theorem scanMsk_bits (hvalues : ∀ v ∈ values, v = 0#32 ∨ v = 1#32)
    (hmsk : ∀ j : Fin 16, values.length ≤ j.val → j.val < n → msk j = 0#32 ∨ msk j = 1#32)
    (j : Fin 16) (hj : j.val < n) :
    scanMsk values n msk j = 0#32 ∨ scanMsk values n msk j = 1#32 := by
  rcases Nat.lt_or_ge j.val values.length with hlt | hge
  · rw [scanMsk_given hj hlt]
    exact hvalues _ (List.getElem_mem hlt)
  · rw [scanMsk_kept hge]
    exact hmsk j hge hj

end Array

/-! ## Files -/

/-- A file whose only mask is `enable`. -/
def maskFile (enable : Fin 16 → Word) : List Char := allCrates ++ (payloadLine enable ++ ['\n'])

theorem reached_maskFile {enable : Fin 16 → Word} (h : IsMask enable) (host : List Char)
    (stack : ConfigStack) (conf : VtpConf) :
    ∃ s, Reached host stack conf (maskFile enable) s ∧ Reading s ∧ s.locals.msk = enable := by
  obtain ⟨s, hreached, hs, -, -⟩ := reached_allCrates host stack conf
  have hstores : Stores host (payloadLine enable) (setPayloadEn enable) := stores_payload h
  obtain ⟨s', hline, hs', hset⟩ := hstores.run s hs
  have hlen := hstores.plain.length_le
  have hshort : (payloadLine enable).length + 1 < 250 := by omega
  exact ⟨s', hreached.snoc hstores.plain.noNewline hshort hstores.read hline, hs',
    congrArg (fun a => a.2.msk) hset⟩

section Spec

variable {key : MaskKey} {line : List Char}

/-- A complete line says what is stored. -/
theorem Complete.storesAlone (hline : MaskLine key line) (h : Complete key line)
    (mem : ConfigStack → Prop) : StoresAlone mem key line := by
  have hlong : ∀ j : Fin 16, (key.values (cString (line ++ ['\n']))).length ≤ j.val →
      ¬ j.val < key.bits := fun j hj hlt => absurd (h.values.trans hj) (Nat.not_le.mpr hlt)
  refine ⟨key.words (scanMsk (key.values (cString (line ++ ['\n']))) key.bits fun _ => 0#32), ?_⟩
  intro host stack conf pre s _ hreached hactive
  have hs : Reading s := ⟨hactive, hreached.fits hactive⟩
  have hok : mskOk key.bits (scanMsk (key.values (cString (line ++ ['\n']))) key.bits
      s.locals.msk) = true :=
    mskOk_of_bits (scanMsk_bits hline.values fun j hge hlt => absurd hlt (hlong j hge))
  have hsame : ∀ j : Fin 16, j.val < key.bits →
      scanMsk (key.values (cString (line ++ ['\n']))) key.bits s.locals.msk j =
        scanMsk (key.values (cString (line ++ ['\n']))) key.bits (fun _ => 0#32) j := by
    intro j hj
    have hlt : j.val < (key.values (cString (line ++ ['\n']))).length :=
      Nat.lt_of_lt_of_le hj h.values
    rw [scanMsk_given hj hlt, scanMsk_given hj hlt]
  rw [maskResult_stored hline h.fits hs hok, key.words_same hsame]

/-- A line whose word does not fit stores out of bounds, and a bit that the line does
not give is that of the line before. -/
theorem Complete.of_storesAlone (hline : MaskLine key line) {mem : ConfigStack → Prop}
    {stack : ConfigStack} (hmem : mem stack) (h : StoresAlone mem key line) :
    Complete key line := by
  obtain ⟨words, halone⟩ := h
  have hrun : ∀ {enable : Fin 16 → Word}, IsMask enable → ∃ s, Reading s ∧ s.locals.msk = enable ∧
      maskResult key [] line s = .stored words := by
    intro enable henable
    obtain ⟨s, hreached, hs, hmsk⟩ := reached_maskFile henable [] stack default
    exact ⟨s, hs, hmsk, halone _ _ _ _ _ hmem hreached hs.active⟩
  -- the line behind the two masks that differ in every bit
  have hzeros : IsMask fun _ => 0#32 := fun _ => .inl rfl
  have hones : IsMask fun _ => 1#32 := fun _ => .inr rfl
  obtain ⟨s₀, hs₀, hmsk₀, hresult₀⟩ := hrun hzeros
  obtain ⟨s₁, hs₁, hmsk₁, hresult₁⟩ := hrun hones
  have hfits : SecondFits line := by
    intro name rest w tail hword hsecond
    rcases Nat.lt_or_ge w.length roclen with hlt | hge
    · exact hlt
    · rw [maskResult_faults hword hsecond hge] at hresult₀
      cases hresult₀
  refine ⟨?_, hfits⟩
  rcases Nat.lt_or_ge (key.values (cString (line ++ ['\n']))).length key.bits with hlt | hge
  · -- the first bit that is missing is 0 after the one file and 1 after the other
    have hbit : ∀ {msk : Fin 16 → Word}, IsMask msk → ∀ j : Fin 16, j.val < key.bits →
        scanMsk (key.values (cString (line ++ ['\n']))) key.bits msk j = 0#32 ∨
          scanMsk (key.values (cString (line ++ ['\n']))) key.bits msk j = 1#32 :=
      fun hmsk => scanMsk_bits hline.values fun j _ _ => hmsk j
    rw [maskResult_stored hline hfits hs₀ (hmsk₀ ▸ mskOk_of_bits (hbit hzeros)), hmsk₀] at hresult₀
    rw [maskResult_stored hline hfits hs₁ (hmsk₁ ▸ mskOk_of_bits (hbit hones)), hmsk₁,
      ← hresult₀] at hresult₁
    cases hresult₀
    have hwords := MaskResult.stored.inj hresult₁
    have hmask := key.mskWord_of_words hwords
    have hle := key.bits_le
    let i : Fin 16 := ⟨(key.values (cString (line ++ ['\n']))).length, by omega⟩
    have hone := mskWord_getLsbD (hbit hones) i hlt
    have hzero := mskWord_getLsbD (hbit hzeros) i hlt
    rw [hmask, hzero, scanMsk_kept (Nat.le_refl _), scanMsk_kept (Nat.le_refl _)] at hone
    exact absurd hone (by decide)
  · exact hge

/-- A mask line stores the same wherever it stands exactly when it has a value for every
bit, with the memory of the function given or not. -/
theorem mask_line_spec (h : MaskLine key line) (stack : ConfigStack) :
    (StoresAlone (fun _ => True) key line ↔ Complete key line) ∧
      (StoresAlone (· = stack) key line ↔ Complete key line) :=
  ⟨⟨@Complete.of_storesAlone key line h (fun _ => True) stack trivial,
      fun hc => hc.storesAlone h _⟩,
    ⟨.of_storesAlone h rfl, fun hc => hc.storesAlone h _⟩⟩

theorem mask_line_spec_four : (StoresAlone (fun _ => True) .fiber "VTP_FIBER_EN 1 0 1 1".toList ↔
      Complete .fiber "VTP_FIBER_EN 1 0 1 1".toList) ∧
    (StoresAlone (· = freshStack) .fiber "VTP_FIBER_EN 1 0 1 1".toList ↔
      Complete .fiber "VTP_FIBER_EN 1 0 1 1".toList) := by
  have hvalues : MaskKey.fiber.values (cString ("VTP_FIBER_EN 1 0 1 1".toList ++ ['\n'])) =
      [1#32, 0#32, 1#32, 1#32] := by
    decide +kernel
  have hbits : ∀ v ∈ [1#32, 0#32, 1#32, 1#32], v = 0#32 ∨ v = 1#32 := by simp
  exact mask_line_spec ⟨by decide +kernel, by decide +kernel, by decide +kernel,
    ⟨" 1 0 1 1\n".toList, by decide +kernel⟩, fun v hv => hbits v (by rwa [hvalues] at hv),
    fun h => absurd h (by decide)⟩ freshStack

/-- Two values for four fibers: the other two are those of the payloads. -/
theorem fiber_line_takes_payload :
    MaskLine .fiber "VTP_FIBER_EN 1 1".toList ∧
      ¬ StoresAlone (· = freshStack) .fiber "VTP_FIBER_EN 1 1".toList ∧
      ∃ s₀ s₁, Reached [] freshStack default (maskFile fun _ => 0#32) s₀ ∧
        Reached [] freshStack default (maskFile fun _ => 1#32) s₁ ∧
        maskResult .fiber [] "VTP_FIBER_EN 1 1".toList s₀ = .stored [3#32] ∧
        maskResult .fiber [] "VTP_FIBER_EN 1 1".toList s₁ = .stored [15#32] := by
  have hvalues : MaskKey.fiber.values (cString ("VTP_FIBER_EN 1 1".toList ++ ['\n'])) =
      [1#32, 1#32] := by
    decide +kernel
  have hbits : ∀ v ∈ [1#32, 1#32], v = 0#32 ∨ v = 1#32 := by simp
  have hrest : scanWord (cString ("VTP_FIBER_EN 1 1".toList ++ ['\n'])) =
      some ("VTP_FIBER_EN".toList, " 1 1\n".toList) := by
    decide +kernel
  have hsecond : scanWord " 1 1\n".toList = some (['1'], " 1\n".toList) := by decide +kernel
  have hline : MaskLine .fiber "VTP_FIBER_EN 1 1".toList :=
    ⟨by decide +kernel, by decide +kernel, by decide +kernel, ⟨_, hrest⟩,
      fun v hv => hbits v (by rwa [hvalues] at hv), fun h => absurd h (by decide)⟩
  have hfits : SecondFits "VTP_FIBER_EN 1 1".toList := by
    intro name rest w tail hword hnext
    rw [hrest] at hword
    cases hword
    rw [hsecond] at hnext
    cases hnext
    decide
  obtain ⟨s₀, hreached₀, hs₀, hmsk₀⟩ := @reached_maskFile (fun _ => 0#32) (fun _ => .inl rfl) []
    freshStack default
  obtain ⟨s₁, hreached₁, hs₁, hmsk₁⟩ := @reached_maskFile (fun _ => 1#32) (fun _ => .inr rfl) []
    freshStack default
  refine ⟨hline, ?_, s₀, s₁, hreached₀, hreached₁, ?_, ?_⟩
  · intro h
    have hlen := (@Complete.of_storesAlone _ _ hline (· = freshStack) freshStack rfl h).values
    rw [hvalues] at hlen
    exact absurd hlen (by decide)
  · rw [maskResult_stored hline hfits hs₀ (by rw [hvalues, hmsk₀]; decide), hvalues, hmsk₀]
    rfl
  · rw [maskResult_stored hline hfits hs₁ (by rw [hvalues, hmsk₁]; decide), hvalues, hmsk₁]
    rfl

end Spec

end VtpStreaming
