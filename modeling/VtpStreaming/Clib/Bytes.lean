import Mathlib.Data.List.Basic
import Mathlib.Data.Nat.ModEq
import Mathlib.Tactic.Ring

/-!
# Integers in memory

An integer of `n` bytes is a list of bytes, least significant first on a
little-endian machine and most significant first on the network. Memory is a
list of bytes, and a store overwrites a block of it.
-/

namespace Clib

abbrev Byte := BitVec 8
abbrev Word := BitVec 32
abbrev DWord := BitVec 64

/-! ## Indices

An array of a known size is a function on `Fin`. The sizes have instances of their own
names, so that an index is one and the same term wherever it is written.
-/

instance instNeZeroTwo : NeZero 2 := ⟨by decide⟩
instance instNeZeroThree : NeZero 3 := ⟨by decide⟩
instance instNeZeroFour : NeZero 4 := ⟨by decide⟩
instance instNeZeroFive : NeZero 5 := ⟨by decide⟩
instance instNeZeroSix : NeZero 6 := ⟨by decide⟩
instance instNeZeroSeven : NeZero 7 := ⟨by decide⟩

/-! ## Byte order -/

/-- The `n` low-order bytes of `x`, least significant first. -/
def leBytes : Nat → Nat → List Byte
  | 0, _ => []
  | n + 1, x => BitVec.ofNat 8 x :: leBytes n (x / 256)

/-- The number that the bytes hold, least significant first. -/
def ofLe : List Byte → Nat
  | [] => 0
  | b :: bs => b.toNat + 256 * ofLe bs

/-- The `n` low-order bytes of `x`, most significant first. -/
def beBytes (n x : Nat) : List Byte := (leBytes n x).reverse

/-- The number that the bytes hold, most significant first. -/
def ofBe (bs : List Byte) : Nat := ofLe bs.reverse

@[simp] theorem leBytes_length (n x : Nat) : (leBytes n x).length = n := by
  induction n generalizing x with
  | zero => rfl
  | succ n ih => simp [leBytes, ih]

@[simp] theorem beBytes_length (n x : Nat) : (beBytes n x).length = n := by
  simp [beBytes]

theorem ofLe_leBytes (n x : Nat) : ofLe (leBytes n x) = x % 256 ^ n := by
  induction n generalizing x with
  | zero => simp [leBytes, ofLe, Nat.mod_one]
  | succ n ih =>
    have hb : (BitVec.ofNat 8 x).toNat = x % 256 := by simp
    rw [leBytes, ofLe, ih, hb, pow_succ', Nat.mod_mul]

theorem ofLe_lt (bs : List Byte) : ofLe bs < 256 ^ bs.length := by
  induction bs with
  | nil => simp [ofLe]
  | cons b bs ih =>
    have hb : b.toNat < 256 := b.isLt
    rw [ofLe, List.length_cons, pow_succ]
    omega

theorem leBytes_ofLe (bs : List Byte) : leBytes bs.length (ofLe bs) = bs := by
  induction bs with
  | nil => rfl
  | cons b bs ih =>
    have hb : b.toNat < 256 := b.isLt
    have hdiv : (b.toNat + 256 * ofLe bs) / 256 = ofLe bs := by omega
    have hhead : BitVec.ofNat 8 (b.toNat + 256 * ofLe bs) = b := by
      apply BitVec.eq_of_toNat_eq
      rw [BitVec.toNat_ofNat]
      omega
    rw [List.length_cons, ofLe, leBytes, hhead, hdiv, ih]

theorem ofBe_beBytes (n x : Nat) : ofBe (beBytes n x) = x % 256 ^ n := by
  rw [ofBe, beBytes, List.reverse_reverse, ofLe_leBytes]

/-- The low `m` bytes of a number stand first, the next `n` after them. -/
theorem leBytes_add (m n x : Nat) :
    leBytes (m + n) x = leBytes m x ++ leBytes n (x / 256 ^ m) := by
  induction m generalizing x with
  | zero => simp [leBytes]
  | succ m ih =>
    rw [Nat.succ_add, leBytes, leBytes, ih, List.cons_append, Nat.div_div_eq_div_mul, pow_succ']

/-- Bytes above the stored ones do not matter. -/
theorem leBytes_mod (n x : Nat) : leBytes n (x % 256 ^ n) = leBytes n x := by
  have h := leBytes_ofLe (leBytes n x)
  rwa [leBytes_length, ofLe_leBytes] at h

/-- The `k`-th byte of a number is eight of its bits. -/
theorem leBytes_getElem {w n k : Nat} (x : BitVec w) (h : k < (leBytes n x.toNat).length) :
    (leBytes n x.toNat)[k] = x.extractLsb' (8 * k) 8 := by
  have hshift : ∀ (n k y : Nat) (h : k < (leBytes n y).length),
      (leBytes n y)[k] = BitVec.ofNat 8 (y >>> (8 * k)) := by
    intro n
    induction n with
    | zero => exact fun k y h => absurd h (Nat.not_lt_zero k)
    | succ n ih =>
      intro k y h
      cases k with
      | zero => rfl
      | succ k =>
        have hy : y / 256 = y >>> 8 := (Nat.shiftRight_eq_div_pow y 8).symm
        simp only [leBytes, List.getElem_cons_succ]
        rw [ih, hy, ← Nat.shiftRight_add, Nat.mul_succ, Nat.add_comm]
  rw [hshift]
  rfl

theorem beBytes_inj {n x y : Nat} (hx : x < 256 ^ n) (hy : y < 256 ^ n)
    (h : beBytes n x = beBytes n y) : x = y := by
  have hxy : ofBe (beBytes n x) = ofBe (beBytes n y) := by rw [h]
  rwa [ofBe_beBytes, ofBe_beBytes, Nat.mod_eq_of_lt hx, Nat.mod_eq_of_lt hy] at hxy

theorem ofLe_inj {as bs : List Byte} (hlen : as.length = bs.length) (h : ofLe as = ofLe bs) :
    as = bs := by
  rw [← leBytes_ofLe as, ← leBytes_ofLe bs, hlen, h]

/-! ## Network order on a little-endian host -/

/-- `htonl` on a little-endian host: the word whose memory image is `x` with
its most significant byte first. -/
def htonl (x : Word) : Word := BitVec.ofNat 32 (ofLe (beBytes 4 x.toNat))

theorem htonl_toNat (x : Word) : (htonl x).toNat = ofLe (beBytes 4 x.toNat) := by
  have hlt := ofLe_lt (beBytes 4 x.toNat)
  rw [beBytes_length] at hlt
  rw [htonl, BitVec.toNat_ofNat]
  exact Nat.mod_eq_of_lt hlt

theorem leBytes_htonl (x : Word) : leBytes 4 (htonl x).toNat = beBytes 4 x.toNat := by
  have h := leBytes_ofLe (beBytes 4 x.toNat)
  rwa [beBytes_length, ← htonl_toNat] at h

/-! ## Memory blocks -/

/-- Overwrite the block that starts at `off` with the bytes `bs`. -/
def store (off : Nat) (bs buf : List Byte) : List Byte :=
  buf.take off ++ bs ++ buf.drop (off + bs.length)

/-- The `n` bytes that start at `off`. -/
def load (off n : Nat) (buf : List Byte) : List Byte := (buf.drop off).take n

/-- A store right after a known front part extends that part. -/
theorem store_append {off : Nat} {pre bs rest : List Byte} (h : pre.length = off) :
    store off bs (pre ++ rest) = (pre ++ bs) ++ rest.drop bs.length := by
  subst h
  rw [store, List.take_left, ← List.drop_drop, List.drop_left]

/-- A load of a known middle part. -/
theorem load_append {off n : Nat} {pre bs rest : List Byte} (hpre : pre.length = off)
    (hbs : bs.length = n) : load off n ((pre ++ bs) ++ rest) = bs := by
  subst hpre hbs
  rw [load, List.append_assoc, List.drop_left, List.take_left]

end Clib
