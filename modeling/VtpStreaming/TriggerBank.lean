import Mathlib.Tactic.Common
import VtpStreaming.Clib.Bytes

/-!
# The block of the trigger interface as a trigger bank

`vtp/vtpLib.c`, `vtpTIData2TriggerBank`: the block header and the block trailer are
searched for, the count of the trailer is compared with their distance, and the
header is replaced by the length of the bank. The two indices are not initialised.
-/

namespace VtpStreaming

open Clib

/-! ## The words of a block -/

/-- `TI_DATA_TYPE_DEFINE_MASK` and `TI_BLOCK_HEADER_WORD_TYPE`. -/
def isBlockHeader (word : Word) : Bool :=
  word &&& 0x80000000#32 ≠ 0#32 && word &&& 0x78000000#32 = 0#32

/-- `TI_BLOCK_TRAILER_WORD_TYPE`. -/
def isBlockTrailer (word : Word) : Bool :=
  word &&& 0x80000000#32 ≠ 0#32 && word &&& 0x78000000#32 = 0x08000000#32

/-- The words behind `data`: `ndata` is an `int`. -/
structure TiData where
  words : List Word
  fits : words.length < 2 ^ 31

/-- What the two indices hold before anything is stored there. -/
structure BankStack where
  iblkhead : Word
  iblktrl : Word

/-! ## The two searches -/

/-- The search that counts up from `iword`. -/
def searchUp (p : Word → Bool) : List Word → Nat → Option Nat
  | [], _ => none
  | word :: words, iword => if p word then some iword else searchUp p words (iword + 1)

/-- The search that counts down from the word before `n`. -/
def searchDown (p : Word → Bool) (words : List Word) : Nat → Option Nat
  | 0 => none
  | iword + 1 =>
      if p (words.getD iword 0#32) then some iword else searchDown p words iword

/-- How the call ends: with a return value and the words that are there then, or with
an access beside the array. -/
inductive BankResult
  | returned (rval : Word) (words : List Word)
  | faults
deriving DecidableEq

/-- `ERROR`. -/
def bankError : Word := 0xffffffff#32

def vtpTIData2TriggerBank (stack : BankStack) (data : TiData) : BankResult :=
  let iblkhead :=
    ((searchUp isBlockHeader data.words 0).map (BitVec.ofNat 32)).getD stack.iblkhead
  if iblkhead = 0xffffffff#32 then .returned bankError data.words
  else
    let iblktrl :=
      ((searchDown isBlockTrailer data.words data.words.length).map (BitVec.ofNat 32)).getD
        stack.iblktrl
    if iblktrl = 0xffffffff#32 then .returned bankError data.words
    else
      match data.words[iblktrl.toNat]? with
      | none => .faults
      | some word =>
          if iblktrl - iblkhead + 1#32 ≠ word &&& 0x3fffff#32 then .returned bankError data.words
          else
            let rval := iblktrl - iblkhead
            if iblkhead.toNat < data.words.length then
              .returned rval (data.words.set iblkhead.toNat (rval - 1#32))
            else .faults

/-! ## What is expected -/

/-- The first word that is one. -/
structure IsFirst (p : Word → Bool) (words : List Word) (i : Nat) : Prop where
  found : ∃ word, words[i]? = some word ∧ p word = true
  before : ∀ j < i, ∀ word, words[j]? = some word → p word = false

/-- The last word that is one. -/
structure IsLast (p : Word → Bool) (words : List Word) (i : Nat) (word : Word) : Prop where
  found : words[i]? = some word ∧ p word = true
  behind : ∀ j, i < j → ∀ word, words[j]? = some word → p word = false

/-- The 22-bit count of a trailer. -/
def trailerCount (word : Word) : Nat := (word &&& 0x3fffff#32).toNat

/-- A bank: a length word, and as many words behind it as it says. -/
def IsBank (words : List Word) : Prop :=
  ∃ word rest, words = word :: rest ∧ word.toNat = rest.length

/-- Header and trailer are there, and the count is right. -/
def IsBlock (words : List Word) (h t : Nat) : Prop :=
  IsFirst isBlockHeader words h ∧
    ∃ word, IsLast isBlockTrailer words t word ∧ (trailerCount word : Int) = t - h + 1

/-- A block becomes a bank, and anything else is refused and left alone. -/
structure ConvertsBlock (words : List Word) (result : BankResult) : Prop where
  bank : ∀ h t, IsBlock words h t →
    result = .returned (BitVec.ofInt 32 (t - h)) (words.set h (BitVec.ofInt 32 (t - h - 1))) ∧
      IsBank (((words.set h (BitVec.ofInt 32 (t - h - 1))).drop h).take (t - h))
  refused : (¬ ∃ h t, IsBlock words h t) → result = .returned bankError words

/-! ## The searches find what is there -/

section

variable {p : Word → Bool} {words : List Word} {i n : Nat}

theorem searchUp_some {k : Nat} (h : searchUp p words k = some i) :
    ∃ j, i = k + j ∧ IsFirst p words j := by
  induction words generalizing k with
  | nil => cases h
  | cons word words ih =>
    rw [searchUp] at h
    split at h
    · next hp =>
      cases h
      exact ⟨0, rfl, ⟨word, rfl, hp⟩, fun j hj => absurd hj (Nat.not_lt_zero j)⟩
    · next hp =>
      obtain ⟨j, rfl, hfound, hbefore⟩ := ih h
      refine ⟨j + 1, by omega, hfound, ?_⟩
      intro m hm w hw
      cases m with
      | zero =>
        cases hw
        exact Bool.eq_false_iff.mpr hp
      | succ m => exact hbefore m (Nat.lt_of_succ_lt_succ hm) w hw

theorem searchUp_none {k : Nat} (h : searchUp p words k = none) :
    ∀ word ∈ words, p word = false := by
  induction words generalizing k with
  | nil => exact fun word hmem => absurd hmem List.not_mem_nil
  | cons word words ih =>
    rw [searchUp] at h
    split at h
    · cases h
    · next hp => exact List.forall_mem_cons.mpr ⟨Bool.eq_false_iff.mpr hp, ih h⟩

theorem searchDown_some (hn : n ≤ words.length) (h : searchDown p words n = some i) :
    ∃ word, words[i]? = some word ∧ p word = true ∧
      ∀ j, i < j → j < n → ∀ word, words[j]? = some word → p word = false := by
  induction n with
  | zero => cases h
  | succ iword ih =>
    have hget : words[iword]? = some (words.getD iword 0#32) := by
      rw [List.getD_eq_getElem?_getD, List.getElem?_eq_getElem (by omega), Option.getD_some]
    rw [searchDown] at h
    split at h
    · next hp =>
      cases h
      exact ⟨_, hget, hp, fun j hlt hle => absurd hlt (by omega)⟩
    · next hp =>
      obtain ⟨word, hfound, hword, hbehind⟩ := ih (by omega) h
      refine ⟨word, hfound, hword, ?_⟩
      intro j hij hj w hw
      rcases Nat.lt_succ_iff_lt_or_eq.mp hj with hlt | rfl
      · exact hbehind j hij hlt w hw
      · rw [hget] at hw
        cases hw
        exact Bool.eq_false_iff.mpr hp

theorem searchDown_none (hn : n ≤ words.length) (h : searchDown p words n = none) :
    ∀ j < n, ∀ word, words[j]? = some word → p word = false := by
  induction n with
  | zero => exact fun j hj => absurd hj (Nat.not_lt_zero j)
  | succ iword ih =>
    rw [searchDown] at h
    split at h
    · cases h
    · next hp =>
      intro j hj w hw
      rcases Nat.lt_succ_iff_lt_or_eq.mp hj with hlt | rfl
      · exact ih (by omega) h j hlt w hw
      · rw [List.getD_eq_getElem?_getD, hw, Option.getD_some] at hp
        exact Bool.eq_false_iff.mpr hp

theorem IsFirst.lt (h : IsFirst p words i) : i < words.length := by
  obtain ⟨word, hget, -⟩ := h.found
  exact (List.getElem?_eq_some_iff.mp hget).1

theorem IsFirst.unique {j : Nat} (h : IsFirst p words i) (h' : IsFirst p words j) : i = j := by
  obtain ⟨w, hw, hp⟩ := h.found
  obtain ⟨w', hw', hp'⟩ := h'.found
  rcases Nat.lt_trichotomy i j with hlt | rfl | hgt
  · exact absurd hp (by rw [h'.before i hlt w hw]; decide)
  · rfl
  · exact absurd hp' (by rw [h.before j hgt w' hw']; decide)

theorem IsLast.lt {word : Word} (h : IsLast p words i word) : i < words.length :=
  (List.getElem?_eq_some_iff.mp h.found.1).1

theorem IsLast.unique {j : Nat} {w w' : Word} (h : IsLast p words i w) (h' : IsLast p words j w') :
    i = j ∧ w = w' := by
  have hij : i = j := by
    rcases Nat.lt_trichotomy i j with hlt | rfl | hgt
    · exact absurd h'.found.2 (by rw [h.behind j hlt w' h'.found.1]; decide)
    · rfl
    · exact absurd h.found.2 (by rw [h'.behind i hgt w h.found.1]; decide)
  subst hij
  have hw := h.found.1.symm.trans h'.found.1
  cases hw
  exact ⟨rfl, rfl⟩

theorem IsFirst.not_none (h : IsFirst p words i) (hnone : ∀ word ∈ words, p word = false) :
    False := by
  obtain ⟨w, hw, hp⟩ := h.found
  exact Bool.false_ne_true ((hnone w (List.mem_of_getElem? hw)).symm.trans hp)

theorem IsLast.not_none {word : Word} (h : IsLast p words i word)
    (hnone : ∀ word ∈ words, p word = false) : False :=
  Bool.false_ne_true ((hnone word (List.mem_of_getElem? h.found.1)).symm.trans h.found.2)

/-- The search for the header, either way. -/
theorem searchUp_cases (p : Word → Bool) (words : List Word) :
    (∃ h, searchUp p words 0 = some h ∧ IsFirst p words h) ∨
      searchUp p words 0 = none ∧ ∀ word ∈ words, p word = false := by
  cases hsearch : searchUp p words 0 with
  | none => exact Or.inr ⟨rfl, searchUp_none hsearch⟩
  | some h =>
    obtain ⟨j, rfl, hfirst⟩ := searchUp_some hsearch
    refine Or.inl ⟨_, rfl, ?_⟩
    rw [Nat.zero_add]
    exact hfirst

/-- The search for the trailer, either way. -/
theorem searchDown_cases (p : Word → Bool) (words : List Word) :
    (∃ t word, searchDown p words words.length = some t ∧ IsLast p words t word) ∨
      searchDown p words words.length = none ∧ ∀ word ∈ words, p word = false := by
  cases hsearch : searchDown p words words.length with
  | none =>
    refine Or.inr ⟨rfl, fun word hmem => ?_⟩
    obtain ⟨j, hj, hget⟩ := List.getElem_of_mem hmem
    exact searchDown_none (Nat.le_refl _) hsearch j hj word
      (List.getElem?_eq_some_iff.mpr ⟨hj, hget⟩)
  | some t =>
    obtain ⟨word, hget, hword, hbehind⟩ := searchDown_some (Nat.le_refl _) hsearch
    refine Or.inl ⟨t, word, rfl, ⟨hget, hword⟩, ?_⟩
    intro j hj w hw
    exact hbehind j hj (List.getElem?_eq_some_iff.mp hw).1 w hw

theorem IsFirst.search (h : IsFirst p words i) : searchUp p words 0 = some i := by
  rcases searchUp_cases p words with ⟨j, hsearch, hj⟩ | ⟨-, hnone⟩
  · rw [hsearch, hj.unique h]
  · exact (h.not_none hnone).elim

theorem IsLast.search {word : Word} (h : IsLast p words i word) :
    searchDown p words words.length = some i := by
  rcases searchDown_cases p words with ⟨j, w, hsearch, hj⟩ | ⟨-, hnone⟩
  · rw [hsearch, (hj.unique h).1]
  · exact (h.not_none hnone).elim

end

/-! ## One call -/

section

variable {data : TiData} {h t : Nat} {word : Word}

theorem ofNat_ne_error {i : Nat} (hi : i < 2 ^ 31) : BitVec.ofNat 32 i ≠ 0xffffffff#32 := by
  intro heq
  have hnat := congrArg BitVec.toNat heq
  rw [BitVec.toNat_ofNat, Nat.mod_eq_of_lt (by omega), BitVec.toNat_ofNat] at hnat
  omega

theorem trailerCount_lt (word : Word) : trailerCount word < 2 ^ 22 :=
  Nat.lt_of_le_of_lt (BitVec.toNat_and .. ▸ Nat.and_le_right) (by decide)

/-- The comparison of the count, which is unsigned. -/
theorem count_iff (hh : h < 2 ^ 31) (ht : t < 2 ^ 31) :
    BitVec.ofNat 32 t - BitVec.ofNat 32 h + 1#32 = word &&& 0x3fffff#32 ↔
      (trailerCount word : Int) = t - h + 1 := by
  have hcount := trailerCount_lt word
  unfold trailerCount at *
  rw [← BitVec.toNat_inj, BitVec.toNat_add, BitVec.toNat_sub, BitVec.toNat_ofNat,
    BitVec.toNat_ofNat, BitVec.toNat_ofNat]
  omega

theorem ofInt_distance : BitVec.ofNat 32 t - BitVec.ofNat 32 h = BitVec.ofInt 32 (t - h) := by
  rw [Int.sub_eq_add_neg, BitVec.ofInt_add, BitVec.ofInt_neg, BitVec.ofInt_natCast,
    BitVec.ofInt_natCast, BitVec.sub_eq_add_neg]

/-- What the call does when header and trailer are there. -/
theorem vtpTIData2TriggerBank_found (stack : BankStack)
    (hfirst : IsFirst isBlockHeader data.words h)
    (hlast : IsLast isBlockTrailer data.words t word) :
    vtpTIData2TriggerBank stack data =
      if (trailerCount word : Int) = t - h + 1 then
        .returned (BitVec.ofInt 32 (t - h)) (data.words.set h (BitVec.ofInt 32 (t - h - 1)))
      else .returned bankError data.words := by
  have hfits := data.fits
  have hh := hfirst.lt
  have ht := hlast.lt
  have htoNat : (BitVec.ofNat 32 t).toNat = t := by
    rw [BitVec.toNat_ofNat, Nat.mod_eq_of_lt (by omega)]
  have hhtoNat : (BitVec.ofNat 32 h).toNat = h := by
    rw [BitVec.toNat_ofNat, Nat.mod_eq_of_lt (by omega)]
  unfold vtpTIData2TriggerBank
  rw [hfirst.search, hlast.search]
  dsimp only [Option.map_some, Option.getD_some]
  rw [if_neg (ofNat_ne_error (by omega)), if_neg (ofNat_ne_error (by omega)), htoNat, hlast.found.1]
  dsimp only
  have hlength : BitVec.ofNat 32 t - BitVec.ofNat 32 h - 1#32 = BitVec.ofInt 32 (t - h - 1) := by
    rw [ofInt_distance, Int.sub_eq_add_neg (a := (t : Int) - h), BitVec.ofInt_add,
      BitVec.sub_eq_add_neg]
    rfl
  by_cases hcount : (trailerCount word : Int) = t - h + 1
  · rw [if_pos hcount, if_neg (not_not_intro ((count_iff (by omega) (by omega)).mpr hcount)),
      hhtoNat, if_pos hh, hlength, ofInt_distance]
  · rw [if_neg hcount, if_pos (mt (count_iff (by omega) (by omega)).mp hcount)]

/-- A block that is found is a block. -/
theorem isBlock_iff (hfirst : IsFirst isBlockHeader data.words h)
    (hlast : IsLast isBlockTrailer data.words t word) :
    (∃ h t, IsBlock data.words h t) ↔ (trailerCount word : Int) = t - h + 1 := by
  constructor
  · rintro ⟨h', t', hfirst', word', hlast', hcount⟩
    obtain ⟨rfl, rfl⟩ := hlast.unique hlast'
    rw [hfirst.unique hfirst']
    exact hcount
  · intro hcount
    exact ⟨h, t, hfirst, word, hlast, hcount⟩

/-- The bank of a block has the length that its first word says, unless the trailer
is not behind the header. -/
theorem isBank_iff (hh : h < data.words.length) (ht : t < data.words.length) :
    IsBank (((data.words.set h (BitVec.ofInt 32 (t - h - 1))).drop h).take (t - h)) ↔ h < t := by
  have hfits := data.fits
  have hdrop : (data.words.set h (BitVec.ofInt 32 (t - h - 1))).drop h =
      BitVec.ofInt 32 (t - h - 1) :: data.words.drop (h + 1) := by
    rw [List.drop_eq_getElem_cons (by rwa [List.length_set]), List.getElem_set_self,
      List.drop_set_of_lt (Nat.lt_succ_self h)]
  rw [hdrop]
  constructor
  · rintro ⟨w, rest, heq, -⟩
    rcases Nat.lt_or_ge h t with hlt | hge
    · exact hlt
    · rw [Nat.sub_eq_zero_of_le hge, List.take_zero] at heq
      cases heq
  · intro hlt
    obtain ⟨k, hk⟩ : ∃ k, t - h = k + 1 := ⟨t - h - 1, by omega⟩
    refine ⟨_, _, by rw [hk, List.take_succ_cons], ?_⟩
    have hint : ((t : Int) - h - 1) = (k : Nat) := by omega
    rw [List.length_take, List.length_drop, hint, BitVec.ofInt_natCast, BitVec.toNat_ofNat]
    omega

/-! ## A block that lacks its header or its trailer -/

/-- Without a trailer the other index can point behind the array. -/
theorem vtpTIData2TriggerBank_faults {iblkhead : Word}
    (hup : ((searchUp isBlockHeader data.words 0).map (BitVec.ofNat 32)).getD iblkhead ≠
      0xffffffff#32)
    (hdown : searchDown isBlockTrailer data.words data.words.length = none) :
    vtpTIData2TriggerBank ⟨iblkhead, 0x7fffffff#32⟩ data = .faults := by
  have hfits := data.fits
  have hbehind : data.words[(0x7fffffff#32 : Word).toNat]? = none := by
    rw [List.getElem?_eq_none_iff, show (0x7fffffff#32 : Word).toNat = 2147483647 from rfl]
    omega
  unfold vtpTIData2TriggerBank
  dsimp only
  rw [if_neg hup, hdown]
  dsimp only [Option.map_none, Option.getD_none]
  rw [if_neg (by decide), hbehind]

/-- What the call does when only the trailer is there. -/
theorem vtpTIData2TriggerBank_headless (stack : BankStack)
    (hnone : searchUp isBlockHeader data.words 0 = none)
    (hlast : IsLast isBlockTrailer data.words t word) :
    vtpTIData2TriggerBank stack data =
      if stack.iblkhead = 0xffffffff#32 ∨
          BitVec.ofNat 32 t - stack.iblkhead + 1#32 ≠ word &&& 0x3fffff#32 then
        .returned bankError data.words
      else if stack.iblkhead.toNat < data.words.length then
        .returned (BitVec.ofNat 32 t - stack.iblkhead)
          (data.words.set stack.iblkhead.toNat (BitVec.ofNat 32 t - stack.iblkhead - 1#32))
      else .faults := by
  have hfits := data.fits
  have ht := hlast.lt
  have htoNat : (BitVec.ofNat 32 t).toNat = t := by
    rw [BitVec.toNat_ofNat, Nat.mod_eq_of_lt (by omega)]
  unfold vtpTIData2TriggerBank
  rw [hnone, hlast.search]
  dsimp only [Option.map_some, Option.map_none, Option.getD_some, Option.getD_none]
  rw [if_neg (ofNat_ne_error (by omega)), htoNat, hlast.found.1]
  dsimp only
  by_cases hhead : stack.iblkhead = 0xffffffff#32
  · rw [if_pos hhead, if_pos (Or.inl hhead)]
  · by_cases hcount : BitVec.ofNat 32 t - stack.iblkhead + 1#32 = word &&& 0x3fffff#32
    · rw [if_neg hhead, if_neg (not_not_intro hcount),
        if_neg (not_or.mpr ⟨hhead, not_not_intro hcount⟩)]
    · rw [if_neg hhead, if_pos hcount, if_pos (Or.inr hcount)]

/-- The index of a header that the count of the trailer fits. -/
def fittingHead (t : Nat) (word : Word) : Word := BitVec.ofNat 32 (t + 1) - (word &&& 0x3fffff#32)

theorem fits_iff (iblkhead : Word) :
    BitVec.ofNat 32 t - iblkhead + 1#32 = word &&& 0x3fffff#32 ↔ iblkhead = fittingHead t word := by
  unfold fittingHead
  generalize word &&& 0x3fffff#32 = count
  rw [← BitVec.toNat_inj, ← BitVec.toNat_inj]
  simp only [BitVec.toNat_add, BitVec.toNat_sub, BitVec.toNat_ofNat]
  have hhead := iblkhead.isLt
  have hcount := count.isLt
  omega

theorem fittingHead_eq_error (ht : t < 2 ^ 31) :
    fittingHead t word = 0xffffffff#32 ↔ trailerCount word = t + 2 := by
  have hcount := trailerCount_lt word
  unfold fittingHead
  unfold trailerCount at *
  rw [← BitVec.toNat_inj, BitVec.toNat_sub, BitVec.toNat_ofNat, BitVec.toNat_ofNat]
  omega

/-- A block without header is refused whatever the index of the header held only if the
fitting one is the index that is refused, or it writes what is there already. -/
theorem headless_iff (hup : searchUp isBlockHeader data.words 0 = none)
    (hlast : IsLast isBlockTrailer data.words t word) :
    (∀ stack, vtpTIData2TriggerBank stack data = .returned bankError data.words) ↔
      trailerCount word = t + 2 ∨
        trailerCount word = 0 ∧ data.words[t + 1]? = some 0xfffffffe#32 := by
  have hfits := data.fits
  have ht := hlast.lt
  have hdistance : BitVec.ofNat 32 t - fittingHead t word = (word &&& 0x3fffff#32) - 1#32 := by
    have h := (@fits_iff t word (fittingHead t word)).mpr rfl
    rw [← h, BitVec.add_sub_cancel]
  have hzero : trailerCount word = 0 → word &&& 0x3fffff#32 = 0#32 :=
    fun hcount => BitVec.toNat_inj.mp hcount
  have hhead (hcount : trailerCount word = 0) : (fittingHead t word).toNat = t + 1 := by
    unfold fittingHead
    rw [hzero hcount, BitVec.sub_zero, BitVec.toNat_ofNat, Nat.mod_eq_of_lt (by omega)]
  constructor
  · intro hall
    -- the variable may hold the index that the count of the trailer fits
    have hcall := hall ⟨fittingHead t word, 0#32⟩
    rw [vtpTIData2TriggerBank_headless _ hup hlast] at hcall
    dsimp only at hcall
    by_cases herror : fittingHead t word = 0xffffffff#32
    · exact Or.inl ((fittingHead_eq_error (by omega)).mp herror)
    · rw [if_neg (not_or.mpr ⟨herror, not_not_intro ((fits_iff _).mpr rfl)⟩), hdistance] at hcall
      split at hcall
      · next hlt =>
        -- the call returns the count less one, which is the error for a count of 0 alone
        obtain ⟨hrval, hwords⟩ := BankResult.returned.inj hcall
        have hcount : trailerCount word = 0 := by
          have hnat := congrArg (fun w : Word => (w + 1#32).toNat) hrval
          rwa [BitVec.sub_add_cancel] at hnat
        have hself := List.getElem?_set_self hlt (a := (word &&& 0x3fffff#32) - 1#32 - 1#32)
        rw [hwords, hhead hcount, hzero hcount] at hself
        exact Or.inr ⟨hcount, hself⟩
      · cases hcall
  · intro hcond stack
    rw [vtpTIData2TriggerBank_headless stack hup hlast]
    split
    · rfl
    · next hpass =>
      obtain ⟨hne, hfit⟩ := not_or.mp hpass
      have hstack := (fits_iff _).mp (not_not.mp hfit)
      rcases hcond with hcount | ⟨hcount, hget⟩
      · exact absurd (hstack.trans ((fittingHead_eq_error (by omega)).mpr hcount)) hne
      · rw [hstack, hdistance, hhead hcount, hzero hcount,
          if_pos (List.getElem?_eq_some_iff.mp hget).1]
        congr 1
        apply List.ext_getElem?
        intro j
        rcases Nat.decEq j (t + 1) with hj | rfl
        · rw [List.getElem?_set_ne (Ne.symm hj)]
        · rw [List.getElem?_set_self (List.getElem?_eq_some_iff.mp hget).1, hget]
          rfl

end

/-! ## Every block -/

/-- The blocks that are converted, or refused, whatever the two indices held. -/
def BankDefined (words : List Word) : Prop :=
  (∃ h t word, IsFirst isBlockHeader words h ∧ IsLast isBlockTrailer words t word ∧
      (t + 1 = h → trailerCount word ≠ 0)) ∨
    (∀ w ∈ words, isBlockHeader w = false) ∧
      ∃ t word, IsLast isBlockTrailer words t word ∧
        (trailerCount word = t + 2 ∨
          trailerCount word = 0 ∧ words[t + 1]? = some 0xfffffffe#32)

section

variable {words : List Word} {h t : Nat} {word : Word}

theorem isBlockHeader_not_trailer (hheader : isBlockHeader word = true) :
    isBlockTrailer word = false := by
  unfold isBlockHeader at hheader
  unfold isBlockTrailer
  obtain ⟨-, htype⟩ := Bool.and_eq_true_iff.mp hheader
  rw [of_decide_eq_true htype]
  exact Bool.and_false _

/-- The trailer of a block is behind its header, unless it is right before it. -/
theorem trailer_behind (hfirst : IsFirst isBlockHeader words h)
    (hlast : IsLast isBlockTrailer words t word) (hcount : (trailerCount word : Int) = t - h + 1)
    (hzero : t + 1 = h → trailerCount word ≠ 0) : h < t := by
  have hne : h ≠ t := by
    rintro rfl
    obtain ⟨w, hw, hheader⟩ := hfirst.found
    cases hw.symm.trans hlast.found.1
    exact Bool.false_ne_true ((isBlockHeader_not_trailer hheader).symm.trans hlast.found.2)
  omega

/-- With nothing to convert, the call has to refuse. -/
theorem convertsBlock_iff (hnone : ¬ ∃ h t, IsBlock words h t) (result : BankResult) :
    ConvertsBlock words result ↔ result = .returned bankError words := by
  constructor
  · exact fun hconverts => hconverts.refused hnone
  · exact fun hresult => ⟨fun h t hblock => absurd ⟨h, t, hblock⟩ hnone, fun _ => hresult⟩

end

/-- Whatever the two indices held, blocks become banks and nothing else is touched: so
it is for the blocks of `BankDefined` and no others. -/
theorem vtpTIData2TriggerBank_spec (data : TiData) :
    (∀ stack, ConvertsBlock data.words (vtpTIData2TriggerBank stack data)) ↔
      BankDefined data.words := by
  rcases searchUp_cases isBlockHeader data.words with ⟨h, hup, hfirst⟩ | ⟨hup, hnone⟩
  · have herror := ofNat_ne_error (Nat.lt_trans hfirst.lt data.fits)
    rcases searchDown_cases isBlockTrailer data.words with ⟨t, word, -, hlast⟩ | ⟨hdown, hnone'⟩
    · constructor
      · intro hall
        refine Or.inl ⟨h, t, word, hfirst, hlast, fun hbefore hzero => ?_⟩
        -- the trailer stands right before the header, and its count of 0 fits
        have hblock : IsBlock data.words h t := ⟨hfirst, word, hlast, by omega⟩
        have hbank := ((hall ⟨0#32, 0#32⟩).bank h t hblock).2
        have hlt := (isBank_iff hfirst.lt hlast.lt).mp hbank
        omega
      · intro hdefined stack
        have hzero : t + 1 = h → trailerCount word ≠ 0 := by
          rcases hdefined with ⟨h', t', w', hfirst', hlast', hzero⟩ | ⟨hnone, -⟩
          · obtain ⟨rfl, rfl⟩ := hlast.unique hlast'
            rwa [hfirst.unique hfirst']
          · exact (hfirst.not_none hnone).elim
        rw [vtpTIData2TriggerBank_found stack hfirst hlast]
        constructor
        · intro h' t' hblock
          have hcount := (isBlock_iff hfirst hlast).mp ⟨h', t', hblock⟩
          obtain ⟨hfirst', w', hlast', -⟩ := hblock
          obtain ⟨rfl, rfl⟩ := hlast.unique hlast'
          cases hfirst.unique hfirst'
          rw [if_pos hcount]
          exact ⟨rfl, (isBank_iff hfirst.lt hlast.lt).mpr
            (trailer_behind hfirst hlast hcount hzero)⟩
        · intro hnot
          rw [if_neg (mt (isBlock_iff hfirst hlast).mpr hnot)]
    · -- no trailer: the index can be one behind the array
      have hnot : ¬ ∃ h t, IsBlock data.words h t :=
        fun ⟨_, _, _, _, hlast, _⟩ => hlast.not_none hnone'
      refine iff_of_false (fun hall => ?_) (fun hdefined => ?_)
      · have hcall := (convertsBlock_iff hnot _).mp (hall ⟨0#32, 0x7fffffff#32⟩)
        rw [vtpTIData2TriggerBank_faults (by rwa [hup]) hdown] at hcall
        cases hcall
      · rcases hdefined with ⟨_, _, _, _, hlast, -⟩ | ⟨-, _, _, hlast, -⟩ <;>
          exact hlast.not_none hnone'
  · -- no header: any word that passes for its index is overwritten
    have hnot : ¬ ∃ h t, IsBlock data.words h t := fun ⟨_, _, hfirst, _⟩ => hfirst.not_none hnone
    rw [forall_congr' fun stack => convertsBlock_iff hnot (vtpTIData2TriggerBank stack data)]
    rcases searchDown_cases isBlockTrailer data.words with ⟨t, word, -, hlast⟩ | ⟨hdown, hnone'⟩
    · rw [headless_iff hup hlast]
      constructor
      · exact fun hcond => Or.inr ⟨hnone, t, word, hlast, hcond⟩
      · rintro (⟨_, _, _, hfirst, -⟩ | ⟨-, t', w', hlast', hcond⟩)
        · exact (hfirst.not_none hnone).elim
        · obtain ⟨rfl, rfl⟩ := hlast.unique hlast'
          exact hcond
    · refine iff_of_false (fun hall => ?_) (fun hdefined => ?_)
      · have hcall := hall ⟨0#32, 0x7fffffff#32⟩
        rw [vtpTIData2TriggerBank_faults (by rw [hup]; decide) hdown] at hcall
        cases hcall
      · rcases hdefined with ⟨_, _, _, _, hlast, -⟩ | ⟨-, _, _, hlast, -⟩ <;>
          exact hlast.not_none hnone'

/-- A block with no header: the trailer alone, and the index of the header is `0`. -/
theorem vtpTIData2TriggerBank_overwrites :
    ∃ data stack, ¬ ConvertsBlock data.words (vtpTIData2TriggerBank stack data) := by
  refine ⟨⟨[0x88000001#32], by decide⟩, ⟨0#32, 0#32⟩, fun hconverts => ?_⟩
  have hnot : ¬ ∃ h t, IsBlock [0x88000001#32] h t := by
    rintro ⟨h, t, hfirst, -⟩
    exact hfirst.not_none (fun w hw => by rw [List.mem_singleton.mp hw]; rfl)
  have hresult := hconverts.refused hnot
  revert hresult
  decide

end VtpStreaming
