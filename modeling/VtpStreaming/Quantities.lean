import VtpStreaming.HpsLib
import VtpStreaming.StreamingLib

/-!
# Times, ranges and packed words

What survives the way into a register and back: a time that is divided by its
tick, a value cut to its range, values packed into one word.
-/

namespace VtpStreaming

open Clib VtpLib

/-! ## Ticks -/

theorem toInt_sdiv_pos (x : Word) {k : Word} (hk : 0 < k.toInt) :
    (x.sdiv k).toInt = x.toInt.tdiv k.toInt := by
  refine BitVec.toInt_sdiv_of_ne_or_ne x k (Or.inr ?_)
  rintro rfl
  exact absurd hk (by decide)

theorem toInt_mul {v k : Word} (hlo : -2 ^ 31 ≤ v.toInt * k.toInt)
    (hhi : v.toInt * k.toInt < 2 ^ 31) : (v * k).toInt = v.toInt * k.toInt := by
  rw [BitVec.toInt_mul]
  apply Int.bmod_eq_of_le <;> omega

/-- A number of ticks whose time fits in a word comes back from it. -/
theorem mul_sdiv {v k : Word} (hk : 0 < k.toInt) (hlo : -2 ^ 31 ≤ v.toInt * k.toInt)
    (hhi : v.toInt * k.toInt < 2 ^ 31) : (v * k).sdiv k = v := by
  apply BitVec.eq_of_toInt_eq
  rw [toInt_sdiv_pos _ hk, toInt_mul hlo hhi, Int.mul_tdiv_cancel _ (by omega)]

/-- A time cut to whole ticks fits in a word. -/
theorem sdiv_mul_fits (x : Word) {k : Word} (hk : 0 < k.toInt) :
    -2 ^ 31 ≤ (x.sdiv k).toInt * k.toInt ∧ (x.sdiv k).toInt * k.toInt < 2 ^ 31 := by
  have hlo := x.le_toInt
  have hhi := x.toInt_lt
  rw [toInt_sdiv_pos x hk, Int.mul_comm]
  rcases Int.le_total 0 x.toInt with hpos | hneg
  · have hle := Int.mul_tdiv_self_le (k := k.toInt) hpos
    have hzero := Int.tdiv_nonneg hpos hk.le
    have hprod := Int.mul_nonneg hk.le hzero
    omega
  · have hle := Int.mul_tdiv_self_le (k := k.toInt) (x := -x.toInt) (by omega)
    have hzero := Int.tdiv_nonneg (a := -x.toInt) (by omega) hk.le
    have hprod := Int.mul_nonneg hk.le hzero
    rw [Int.neg_tdiv, Int.mul_neg] at hle hprod
    omega

/-- A time in ticks, as a time again, has the same number of ticks. -/
theorem sdiv_mul_sdiv (x : Word) {k : Word} (hk : 0 < k.toInt) :
    (x.sdiv k * k).sdiv k = x.sdiv k := by
  obtain ⟨hlo, hhi⟩ := sdiv_mul_fits x hk
  exact mul_sdiv hk hlo hhi

theorem windowTick_pos (lib : VtpLib) : 0 < lib.windowTick.toInt := by
  unfold windowTick
  split_ifs <;> decide

/-! ## Ranges -/

theorem checkRange_mem {lo hi : Int} (hlo : -2 ^ 31 ≤ lo) (hle : lo ≤ hi) (hhi : hi < 2 ^ 31)
    (v : Word) : lo ≤ (checkRange lo hi v).toInt ∧ (checkRange lo hi v).toInt ≤ hi := by
  have hcut (k : Int) (h1 : -2 ^ 31 ≤ k) (h2 : k < 2 ^ 31) : (BitVec.ofInt 32 k).toInt = k := by
    rw [BitVec.toInt_ofInt]
    apply Int.bmod_eq_of_le <;> omega
  unfold checkRange
  split_ifs with hgt hlt
  · rw [hcut hi (by omega) hhi]
    omega
  · rw [hcut lo hlo (by omega)]
    omega
  · omega

/-- A value in its range is not cut. -/
theorem checkRange_of_mem {lo hi : Int} {v : Word} (h : lo ≤ v.toInt ∧ v.toInt ≤ hi) :
    checkRange lo hi v = v := by
  rw [checkRange, if_neg (by omega), if_neg (by omega)]

theorem checkRange_checkRange {lo hi : Int} (hlo : -2 ^ 31 ≤ lo) (hle : lo ≤ hi)
    (hhi : hi < 2 ^ 31) (v : Word) : checkRange lo hi (checkRange lo hi v) = checkRange lo hi v :=
  checkRange_of_mem (checkRange_mem hlo hle hhi v)

/-- A number of ticks cut to a range comes back from its time. -/
theorem checkRange_ticks {hi : Int} (hle : 0 ≤ hi) (hhi : hi < 2 ^ 29) (v : Word) :
    (checkRange 0 hi v * 4#32).sdiv 4#32 = checkRange 0 hi v := by
  have hmem : 0 ≤ (checkRange 0 hi v).toInt ∧ (checkRange 0 hi v).toInt ≤ hi :=
    checkRange_mem (by decide) hle (by omega) v
  have hfour : (4#32).toInt = 4 := rfl
  apply mul_sdiv (by decide) <;> rw [hfour] <;> omega

/-- What the range leaves fits in a field. -/
theorem holds_checkRange (f : BitField 32) {lo hi : Int} (hlo : 0 ≤ lo) (hle : lo ≤ hi)
    (hhi : hi < 2 ^ 31) (hf : hi < (2 ^ f.width : Nat)) (v : Word) : f.Holds (checkRange lo hi v) := by
  rw [BitField.holds_iff]
  have hmem := checkRange_mem (by omega) hle hhi v
  have hlt := (checkRange lo hi v).isLt
  rw [BitVec.toInt_eq_toNat_cond] at hmem
  split_ifs at hmem <;> omega

/-- A value cut to a range of 0 up to `hi` fits. -/
theorem holds_upTo (f : BitField 32) (hi : Int) (v : Word)
    (h : 0 ≤ hi ∧ hi < 2 ^ 31 ∧ hi < (2 ^ f.width : Nat)) : f.Holds (checkRange 0 hi v) :=
  holds_checkRange f (by decide) h.1 h.2.1 h.2.2 v

end VtpStreaming
