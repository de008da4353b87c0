import Mathlib.Data.Nat.Bitwise
import Mathlib.Tactic.Common

/-!
# Bit fields of a register

A field is a run of bits of a register. `put` is the read, mask and or that
stores a value there without a check of its size, and `get` is the shift and mask
that reads it back. A value that is too large spills into the bits above.
-/

namespace Clib

structure BitField (w : Nat) where
  shift : Nat
  width : Nat
  fits : shift + width ≤ w

namespace BitField

variable {w : Nat}

/-- The mask of the field at bit 0. -/
def low (f : BitField w) : BitVec w := BitVec.ofNat w (2 ^ f.width - 1)

def mask (f : BitField w) : BitVec w := f.low <<< f.shift

def get (f : BitField w) (x : BitVec w) : BitVec w := (x >>> f.shift) &&& f.low

def put (f : BitField w) (v x : BitVec w) : BitVec w := (x &&& ~~~f.mask) ||| (v <<< f.shift)

/-- The value fits in the field. -/
def Holds (f : BitField w) (v : BitVec w) : Prop := v &&& f.low = v

/-- The field lies below the other. -/
def Below (f g : BitField w) : Prop := f.shift + f.width ≤ g.shift

instance (f : BitField w) (v : BitVec w) : Decidable (f.Holds v) := inferInstanceAs
    (Decidable (_ = _))
instance (f g : BitField w) : Decidable (f.Below g) := inferInstanceAs (Decidable (_ ≤ _))

/-! ## Bits -/

@[simp] theorem getLsbD_low (f : BitField w) (i : Nat) : f.low.getLsbD i = decide
    (i < f.width) := by
  have hfits := f.fits
  rw [low, BitVec.getLsbD_ofNat, Nat.testBit_two_pow_sub_one]
  by_cases h : i < f.width
  · have hi : i < w := by omega
    simp [h, hi]
  · simp [h]

@[simp] theorem getLsbD_mask (f : BitField w) (i : Nat) :
    f.mask.getLsbD i = (decide (f.shift ≤ i) && decide (i < f.shift + f.width)) := by
  have hfits := f.fits
  rw [mask, BitVec.getLsbD_shiftLeft, getLsbD_low]
  by_cases h : f.shift ≤ i
  · have hlt : i - f.shift < f.width ↔ i < f.shift + f.width := by omega
    simp only [hlt, h, decide_true, Bool.true_and]
    by_cases hi : i < f.shift + f.width
    · have hw : i < w := by omega
      have hn : ¬ i < f.shift := by omega
      simp [hi, hw, hn]
    · simp [hi]
  · have hn : i < f.shift := by omega
    simp [h, hn]

theorem getLsbD_get (f : BitField w) (x : BitVec w) (i : Nat) :
    (f.get x).getLsbD i = (decide (i < f.width) && x.getLsbD (f.shift + i)) := by
  rw [get, BitVec.getLsbD_and, BitVec.getLsbD_ushiftRight, getLsbD_low, Bool.and_comm]

theorem getLsbD_put (f : BitField w) (v x : BitVec w) (i : Nat) (hi : i < w) :
    (f.put v x).getLsbD i =
      (x.getLsbD i && !(decide (f.shift ≤ i) && decide (i < f.shift + f.width)) ||
        (decide (f.shift ≤ i) && v.getLsbD (i - f.shift))) := by
  rw [put, BitVec.getLsbD_or, BitVec.getLsbD_and, BitVec.getLsbD_not, getLsbD_mask,
    BitVec.getLsbD_shiftLeft]
  by_cases h : f.shift ≤ i
  · have hn : ¬ i < f.shift := by omega
    simp [hi, h, hn]
  · have hn : i < f.shift := by omega
    simp [hi, h, hn]

theorem Holds.getLsbD {f : BitField w} {v : BitVec w} (h : f.Holds v) {i : Nat} (hi : f.width ≤ i) :
    v.getLsbD i = false := by
  have hn : ¬ i < f.width := by omega
  rw [← h, BitVec.getLsbD_and, getLsbD_low, decide_eq_false hn, Bool.and_false]

/-! ## Put and get -/

/-- A store of what is there changes nothing. -/
@[simp] theorem put_get (f : BitField w) (x : BitVec w) : f.put (f.get x) x = x := by
  have hfits := f.fits
  apply BitVec.eq_of_getLsbD_eq
  intro i hi
  rw [getLsbD_put f _ _ i hi, getLsbD_get]
  by_cases hlo : f.shift ≤ i
  · have hsum : f.shift + (i - f.shift) = i := by omega
    have hlt : i - f.shift < f.width ↔ i < f.shift + f.width := by omega
    simp only [hlo, hlt, hsum]
    cases x.getLsbD i <;> simp
  · simp [hlo]

/-- What is read back is the value, cut to the field. -/
theorem get_put (f : BitField w) (v x : BitVec w) : f.get (f.put v x) = v &&& f.low := by
  have hfits := f.fits
  apply BitVec.eq_of_getLsbD_eq
  intro i hi
  rw [getLsbD_get, BitVec.getLsbD_and, getLsbD_low]
  by_cases h : i < f.width
  · have hw : f.shift + i < w := by omega
    rw [getLsbD_put f _ _ _ hw]
    simp [h]
  · simp [h]

theorem get_put_of_holds {f : BitField w} {v : BitVec w} (h : f.Holds v) (x : BitVec w) :
    f.get (f.put v x) = v := by
  rw [get_put, h]

theorem get_holds (f : BitField w) (x : BitVec w) : f.Holds (f.get x) := by
  rw [Holds, get, BitVec.and_assoc, BitVec.and_self]

/-- A store above a field leaves it alone, however large the value. -/
theorem get_put_of_below {f g : BitField w} (h : f.Below g) (v x : BitVec w) :
    f.get (g.put v x) = f.get x := by
  have hfits := f.fits
  apply BitVec.eq_of_getLsbD_eq
  intro i hi
  rw [getLsbD_get, getLsbD_get]
  by_cases hlt : i < f.width
  · have hbelow : ¬ g.shift ≤ f.shift + i := by
      rw [Below] at h
      omega
    rw [getLsbD_put g _ _ _ (by omega)]
    simp [hbelow]
  · simp [hlt]

/-- A store below a field leaves it alone when the value fits. -/
theorem get_put_of_above {f g : BitField w} (h : g.Below f) {v : BitVec w} (hv : g.Holds v)
    (x : BitVec w) : f.get (g.put v x) = f.get x := by
  have hfits := f.fits
  apply BitVec.eq_of_getLsbD_eq
  intro i hi
  rw [getLsbD_get, getLsbD_get]
  rw [Below] at h
  by_cases hlt : i < f.width
  · have habove : ¬ f.shift + i < g.shift + g.width := by omega
    have hspill : v.getLsbD (f.shift + i - g.shift) = false := hv.getLsbD (by omega)
    rw [getLsbD_put g _ _ _ (by omega), hspill]
    simp [habove]
  · simp [hlt]

/-- What is read, back in its place. -/
theorem get_shiftLeft_shift (f : BitField w)
    (x : BitVec w) : f.get x <<< f.shift = x &&& f.mask := by
  apply BitVec.eq_of_getLsbD_eq
  intro i hi
  rw [BitVec.getLsbD_shiftLeft, getLsbD_get, BitVec.getLsbD_and, getLsbD_mask]
  by_cases h : f.shift ≤ i
  · have hsum : f.shift + (i - f.shift) = i := by omega
    have hlt : i - f.shift < f.width ↔ i < f.shift + f.width := by omega
    have hn : ¬ i < f.shift := by omega
    rw [hsum]
    simp [hi, hn, h, hlt, Bool.and_comm]
  · simp [h]

/-- Bits that are there already. -/
theorem or_of_and {x s : BitVec w} (h : s &&& x = s) : x ||| s = x := by
  rw [← h]
  apply BitVec.eq_of_getLsbD_eq
  intro i _
  rw [BitVec.getLsbD_or, BitVec.getLsbD_and]
  cases x.getLsbD i <;> simp

/-! ## Stores

What a setter does to a register: some bits are kept, some are set, and neither
depends on what is there. -/

def IsStore (f : BitVec w → BitVec w) : Prop := ∃ keep set, ∀ x, f x = (x &&& keep) ||| set

theorem isStore_put (f : BitField w) (v : BitVec w) : IsStore (f.put v) := ⟨_, _, fun _ => rfl⟩

theorem IsStore.comp {f g : BitVec w → BitVec w} (hf : IsStore f) (hg : IsStore g) :
    IsStore fun x => f (g x) := by
  obtain ⟨keep, set, hf⟩ := hf
  obtain ⟨keep', set', hg⟩ := hg
  refine ⟨keep' &&& keep, (set' &&& keep) ||| set, fun x => ?_⟩
  apply BitVec.eq_of_getLsbD_eq
  intro i _
  simp only [hf, hg, BitVec.getLsbD_or, BitVec.getLsbD_and, Bool.and_or_distrib_right,
    Bool.and_assoc, Bool.or_assoc]

/-- A store made twice is made once. -/
theorem IsStore.twice {f : BitVec w → BitVec w} (h : IsStore f) (x : BitVec w) : f (f x) = f x := by
  obtain ⟨keep, set, h⟩ := h
  apply BitVec.eq_of_getLsbD_eq
  intro i _
  simp only [h, BitVec.getLsbD_or, BitVec.getLsbD_and]
  cases x.getLsbD i <;> cases keep.getLsbD i <;> cases set.getLsbD i <;> rfl

/-- The field lies in the other. -/
def Within (f g : BitField w) : Prop := g.shift ≤ f.shift ∧ f.shift + f.width ≤ g.shift + g.width

instance (f g : BitField w) : Decidable (f.Within g) := inferInstanceAs (Decidable (_ ∧ _))

/-- Words that agree in a field agree in every part of it. -/
theorem get_eq_of_within {f g : BitField w} (h : f.Within g) {x y : BitVec w}
    (heq : g.get x = g.get y) : f.get x = f.get y := by
  obtain ⟨hlo, hhi⟩ := h
  apply BitVec.eq_of_getLsbD_eq
  intro i _
  rw [getLsbD_get, getLsbD_get]
  cases hi : decide (i < f.width) with
  | false => simp
  | true =>
    have hlt : i < f.width := of_decide_eq_true hi
    have hin : f.shift + i - g.shift < g.width := by omega
    have hsum : g.shift + (f.shift + i - g.shift) = f.shift + i := by omega
    have hbit := congrArg (fun v => v.getLsbD (f.shift + i - g.shift)) heq
    simpa [getLsbD_get, hin, hsum] using hbit

/-! ## Values that are too large

A value that is stored without a mask leaves its own bits in the fields above, where
they are or-ed to what is there. -/

/-- The bits of a value beside the field that it is stored to. -/
def spill (f : BitField w) (v : BitVec w) : BitVec w := (v <<< f.shift) &&& ~~~f.mask

theorem or_eq_left_iff (x s : BitVec w) : x ||| s = x ↔ s &&& x = s := by
  constructor
  · intro h
    rw [← h]
    apply BitVec.eq_of_getLsbD_eq
    intro i _
    rw [BitVec.getLsbD_and, BitVec.getLsbD_or]
    cases s.getLsbD i <;> simp
  · exact or_of_and

theorem and_not_mask_twice (f : BitField w) (x : BitVec w) :
    x &&& ~~~f.mask &&& ~~~f.mask = x &&& ~~~f.mask := by
  rw [BitVec.and_assoc, BitVec.and_self]

/-- What a store does beside its field. -/
theorem put_beside (f : BitField w) (v x : BitVec w) :
    f.put v x &&& ~~~f.mask = (x &&& ~~~f.mask) ||| f.spill v := by
  rw [put, spill]
  apply BitVec.eq_of_getLsbD_eq
  intro i _
  simp only [BitVec.getLsbD_and, BitVec.getLsbD_or]
  cases (~~~f.mask).getLsbD i <;> simp

/-- A store is local if and only if the bits that spill are set already. -/
theorem put_local_iff (f : BitField w) (v x : BitVec w) :
    f.put v x &&& ~~~f.mask = x &&& ~~~f.mask ↔ f.spill v &&& x = f.spill v := by
  have hspill : f.spill v &&& (x &&& ~~~f.mask) = f.spill v &&& x := by
    rw [BitVec.and_comm x, ← BitVec.and_assoc, spill, and_not_mask_twice]
  rw [put_beside, or_eq_left_iff, hspill]

theorem spill_of_holds {f : BitField w} {v : BitVec w} (h : f.Holds v) : f.spill v = 0#w := by
  apply BitVec.eq_of_getLsbD_eq
  intro i hi
  rw [spill, BitVec.getLsbD_and, BitVec.getLsbD_shiftLeft, BitVec.getLsbD_not, getLsbD_mask,
    BitVec.getLsbD_zero]
  by_cases hlo : f.shift ≤ i
  · by_cases hin : i < f.shift + f.width
    · simp [hlo, hin]
    · rw [h.getLsbD (by omega), Bool.and_false, Bool.false_and]
  · have hlt : i < f.shift := by omega
    simp [hlt]

/-- A second store to the field leaves nothing of the first that did not spill. -/
theorem put_put (f : BitField w) {v x : BitVec w} (h : f.spill v &&& x = f.spill v) (u : BitVec w) :
    f.put u (f.put v x) = f.put u x := by
  rw [put, (put_local_iff f v x).mpr h, put]

/-! ## Words put together from values

A word that holds several values is the or of each of them, shifted to its field. -/

theorem get_or (f : BitField w) (x y : BitVec w) : f.get (x ||| y) = f.get x ||| f.get y := by
  apply BitVec.eq_of_getLsbD_eq
  intro i _
  simp only [getLsbD_get, BitVec.getLsbD_or, Bool.and_or_distrib_left]

theorem get_and (f : BitField w) (x y : BitVec w) : f.get (x &&& y) = f.get x &&& f.get y := by
  apply BitVec.eq_of_getLsbD_eq
  intro i _
  simp only [getLsbD_get, BitVec.getLsbD_and]
  cases decide (i < f.width) <;> simp

/-- A mask that spares the field. -/
theorem get_and_of_spares {f : BitField w} {y : BitVec w} (h : f.get y = f.low) (x : BitVec w) :
    f.get (x &&& y) = f.get x := by
  rw [get_and, h]
  exact f.get_holds x

/-- Bits beside the field. -/
theorem get_or_of_beside {f : BitField w} {y : BitVec w} (h : f.get y = 0#w) (x : BitVec w) :
    f.get (x ||| y) = f.get x := by
  rw [get_or, h, BitVec.or_zero]

theorem get_shiftLeft (f : BitField w) (v : BitVec w) : f.get (v <<< f.shift) = v &&& f.low := by
  have hfits := f.fits
  apply BitVec.eq_of_getLsbD_eq
  intro i _
  rw [getLsbD_get, BitVec.getLsbD_and, getLsbD_low, BitVec.getLsbD_shiftLeft]
  by_cases h : i < f.width
  · have hw : f.shift + i < w := by omega
    have hn : ¬ f.shift + i < f.shift := by omega
    simp [h, hw]
  · simp [h]

theorem get_shiftLeft_of_holds {f : BitField w} {v : BitVec w} (h : f.Holds v) :
    f.get (v <<< f.shift) = v := by
  rw [get_shiftLeft, h]

/-- Another field sees nothing of a value that fits in its own. -/
theorem get_shiftLeft_other {f g : BitField w} (h : f.Below g ∨ g.Below f) {v : BitVec w}
    (hv : g.Holds v) : f.get (v <<< g.shift) = 0#w := by
  apply BitVec.eq_of_getLsbD_eq
  intro i _
  rw [getLsbD_get, BitVec.getLsbD_shiftLeft, BitVec.getLsbD_zero]
  by_cases hi : i < f.width
  · rcases h with hbelow | habove
    · rw [Below] at hbelow
      have hlt : f.shift + i < g.shift := by omega
      simp [hlt]
    · rw [Below] at habove
      have hspill : v.getLsbD (f.shift + i - g.shift) = false := hv.getLsbD (by omega)
      simp [hspill]
  · simp [hi]

theorem get_zero (f : BitField w) : f.get 0#w = 0#w := by
  apply BitVec.eq_of_getLsbD_eq
  intro i _
  simp [getLsbD_get]

/-- A value fits in a field of `width` bits when it is below `2 ^ width`. -/
theorem holds_iff (f : BitField w) (v : BitVec w) : f.Holds v ↔ v.toNat < 2 ^ f.width := by
  have hfits := f.fits
  constructor
  · intro h
    apply Nat.lt_pow_two_of_testBit
    intro i hi
    exact h.getLsbD hi
  · intro h
    apply BitVec.eq_of_getLsbD_eq
    intro i _
    rw [BitVec.getLsbD_and, getLsbD_low]
    by_cases hi : i < f.width
    · simp [hi]
    · have hbit : v.getLsbD i = false :=
        Nat.testBit_lt_two_pow (h.trans_le (Nat.pow_le_pow_right (by decide) (by omega)))
      simp [hbit]

theorem holds_and_low (f : BitField w) (v : BitVec w) : f.Holds (v &&& f.low) := by
  rw [Holds, BitVec.and_assoc, BitVec.and_self]

/-- The two fields have no bit in common. -/
def Apart (f g : BitField w) : Prop := f.Below g ∨ g.Below f

instance (f g : BitField w) : Decidable (f.Apart g) := inferInstanceAs (Decidable (_ ∨ _))

/-- Values in their fields, as one word. -/
def pack : List (BitField w × BitVec w) → BitVec w
  | [] => 0#w
  | (f, v) :: l => (v <<< f.shift) ||| pack l

theorem get_pack_other {f : BitField w} {l : List (BitField w × BitVec w)}
    (hapart : ∀ p ∈ l, f.Apart p.1) (hholds : ∀ p ∈ l, p.1.Holds p.2) : f.get (pack l) = 0#w := by
  induction l with
  | nil => exact f.get_zero
  | cons p l ih =>
    rw [List.forall_mem_cons] at hapart hholds
    rw [pack, get_or, get_shiftLeft_other hapart.1 hholds.1, ih hapart.2 hholds.2,
      BitVec.or_self]

/-- Each value is read back from the word of all. -/
theorem get_pack {f : BitField w} {v : BitVec w} {l : List (BitField w × BitVec w)}
    (hapart : l.Pairwise fun p q => p.1.Apart q.1) (hholds : ∀ p ∈ l, p.1.Holds p.2)
    (hmem : (f, v) ∈ l) : f.get (pack l) = v := by
  induction l with
  | nil => exact absurd hmem List.not_mem_nil
  | cons p l ih =>
    rw [List.pairwise_cons] at hapart
    rw [List.forall_mem_cons] at hholds
    obtain ⟨hp, hl⟩ := hapart
    rw [pack, get_or]
    rcases List.mem_cons.mp hmem with rfl | hmem
    · rw [get_shiftLeft_of_holds hholds.1, get_pack_other hp hholds.2, BitVec.or_zero]
    · have hother : f.Apart p.1 := (hp _ hmem).symm
      rw [get_shiftLeft_other hother hholds.1, ih hl hholds.2 hmem, BitVec.zero_or]

/-- A word that is put together from values is read back value by value. -/
theorem get_of_eq_pack {x : BitVec w} {l : List (BitField w × BitVec w)} (h : x = pack l)
    (hapart : l.Pairwise fun p q => p.1.Apart q.1) (hholds : ∀ p ∈ l, p.1.Holds p.2) :
    ∀ p ∈ l, p.1.get x = p.2 := by
  intro p hp
  rw [h, get_pack hapart hholds hp]

/-! ## Flags beside the values

A word of flags, all of them in a mask that the fields of the values do not touch. -/

theorem shiftLeft_and_mask (f : BitField w) (v : BitVec w) :
    (v <<< f.shift) &&& f.mask = (v &&& f.low) <<< f.shift := by
  rw [BitVec.shiftLeft_and_distrib]
  rfl

theorem pack_and {m : BitVec w} {l : List (BitField w × BitVec w)}
    (hbeside : ∀ p ∈ l, p.1.mask &&& m = 0#w) (hholds : ∀ p ∈ l, p.1.Holds p.2) :
    pack l &&& m = 0#w := by
  induction l with
  | nil => exact BitVec.zero_and
  | cons p l ih =>
    rw [List.forall_mem_cons] at hbeside hholds
    have hcut := p.1.shiftLeft_and_mask p.2
    rw [hholds.1] at hcut
    rw [pack, BitVec.and_comm, BitVec.and_or_distrib_left, BitVec.and_comm m, BitVec.and_comm m,
      ih hbeside.2 hholds.2, BitVec.or_zero, ← hcut, BitVec.and_assoc, hbeside.1, BitVec.and_zero]

/-- The flags are read through their mask, whatever is packed beside them. -/
theorem flags_of_pack {flags m : BitVec w} {l : List (BitField w × BitVec w)}
    (hflags : flags &&& m = flags) (hbeside : ∀ p ∈ l, p.1.mask &&& m = 0#w)
    (hholds : ∀ p ∈ l, p.1.Holds p.2) : (flags ||| pack l) &&& m = flags := by
  rw [BitVec.and_comm, BitVec.and_or_distrib_left, BitVec.and_comm m, BitVec.and_comm m, hflags,
    pack_and hbeside hholds, BitVec.or_zero]

theorem get_flags {f : BitField w} {flags m : BitVec w} (hflags : flags &&& m = flags)
    (hbeside : f.mask &&& m = 0#w) : f.get flags = 0#w := by
  have hmask : f.get m = 0#w := by
    apply BitVec.eq_of_getLsbD_eq
    intro i _
    rw [getLsbD_get, BitVec.getLsbD_zero]
    by_cases hi : i < f.width
    · have hbit := congrArg (fun v => v.getLsbD (f.shift + i)) hbeside
      simp only [BitVec.getLsbD_and, getLsbD_mask, BitVec.getLsbD_zero] at hbit
      simpa [hi] using hbit
    · simp [hi]
  rw [← hflags, get_and, hmask, BitVec.and_zero]

/-- Each value is read, whatever the flags. -/
theorem get_of_flags {flags m : BitVec w} {l : List (BitField w × BitVec w)}
    (hflags : flags &&& m = flags) (hbeside : ∀ p ∈ l, p.1.mask &&& m = 0#w)
    (hapart : l.Pairwise fun p q => p.1.Apart q.1) (hholds : ∀ p ∈ l, p.1.Holds p.2) :
    ∀ p ∈ l, p.1.get (flags ||| pack l) = p.2 := by
  intro p hp
  rw [get_or, get_flags hflags (hbeside p hp), BitVec.zero_or, get_pack hapart hholds hp]

end BitField

end Clib
