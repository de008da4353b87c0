import VtpStreaming.Clib.Bytes

/-!
# A buffer that a routine fills byte by byte

A buffer has a byte at every index and remembers the end of the part that has
been touched, so that a bound on the accesses can be stated.
-/

namespace Clib

structure Buffer where
  mem : Nat → Byte
  /-- One past the highest index touched. -/
  top : Nat

namespace Buffer

variable {b : Buffer} {off i j n : Nat} {x : Byte} {xs ys : List Byte}

def set (b : Buffer) (i : Nat) (x : Byte) : Buffer where
  mem j := if j = i then x else b.mem j
  top := max b.top (i + 1)

/-- Store the bytes one after the other. -/
def setAll (b : Buffer) (off : Nat) : List Byte → Buffer
  | [] => b
  | x :: xs => setAll (b.set off x) (off + 1) xs

/-- The `n` bytes at `off`. -/
def block (b : Buffer) (off n : Nat) : List Byte := (List.range n).map fun i => b.mem (off + i)

/-- The `i`-th word of a little-endian machine. -/
def word (b : Buffer) (i : Nat) : Word := BitVec.ofNat 32 (ofLe (b.block (4 * i) 4))

@[simp] theorem set_mem_same : (b.set i x).mem i = x := if_pos rfl

theorem set_mem_ne (h : j ≠ i) : (b.set i x).mem j = b.mem j := if_neg h

@[simp] theorem block_length (b : Buffer) (off n : Nat) : (b.block off n).length = n := by
  simp [block]

theorem setAll_append : b.setAll off (xs ++ ys) = (b.setAll off xs).setAll
    (off + xs.length) ys := by
  induction xs generalizing b off with
  | nil => rfl
  | cons x xs ih =>
    rw [List.cons_append, setAll, setAll, ih, List.length_cons, Nat.add_assoc, Nat.add_comm 1]

theorem setAll_mem_outside (h : j < off ∨ off + xs.length ≤ j) :
    (b.setAll off xs).mem j = b.mem j := by
  induction xs generalizing b off with
  | nil => rfl
  | cons x xs ih =>
    rw [List.length_cons] at h
    rw [setAll, ih (by omega), set_mem_ne (by omega)]

theorem setAll_top (b : Buffer) (off : Nat) (xs : List Byte) :
    (b.setAll off xs).top = if xs = [] then b.top else max b.top (off + xs.length) := by
  induction xs generalizing b off with
  | nil => rfl
  | cons x xs ih =>
    have hset : (b.set off x).top = max b.top (off + 1) := rfl
    rw [setAll, ih, hset, if_neg (List.cons_ne_nil x xs), List.length_cons]
    cases xs with
    | nil => rfl
    | cons y ys =>
      rw [if_neg (List.cons_ne_nil y ys), List.length_cons]
      omega

/-- A block with the same bytes. -/
theorem block_congr {a : Buffer} (h : ∀ i < n, a.mem (off + i) = b.mem (off + i)) :
    a.block off n = b.block off n := by
  apply List.map_congr_left
  intro i hi
  exact h i (List.mem_range.mp hi)

theorem block_succ (b : Buffer) (off n : Nat) :
    b.block off (n + 1) = b.mem off :: b.block (off + 1) n := by
  simp only [block, List.range_succ_eq_map, List.map_cons, List.map_map, Function.comp_def,
    Nat.add_zero, Nat.succ_eq_add_one, Nat.add_assoc, Nat.add_comm 1]

/-- What has been stored is read back. -/
theorem block_setAll (b : Buffer) (off : Nat) (xs : List Byte) :
    (b.setAll off xs).block off xs.length = xs := by
  induction xs generalizing b off with
  | nil => rfl
  | cons x xs ih =>
    rw [List.length_cons, block_succ, setAll, ih, setAll_mem_outside (by omega), set_mem_same]

/-- A store leaves the blocks before and after it alone. -/
theorem block_setAll_outside (h : i + n ≤ off ∨ off + xs.length ≤ i) :
    (b.setAll off xs).block i n = b.block i n :=
  block_congr fun j hj => setAll_mem_outside (by omega)

theorem block_append (b : Buffer) (off m n : Nat) :
    b.block off (m + n) = b.block off m ++ b.block (off + m) n := by
  simp only [block, List.range_add, List.map_append, List.map_map, Function.comp_def,
    Nat.add_assoc]

/-- Reading words of four bytes one after the other reads the whole block. -/
theorem flatMap_block (b : Buffer) (off k : Nat) :
    (List.range k).flatMap (fun q => b.block (off + 4 * q) 4) = b.block off (4 * k) := by
  induction k with
  | zero => rfl
  | succ k ih =>
    rw [List.range_succ, List.flatMap_append, ih, List.flatMap_singleton, Nat.mul_succ,
      block_append]

theorem leBytes_word (b : Buffer) (i : Nat) :
    leBytes 4 (b.word i).toNat = b.block (4 * i) 4 := by
  have hbytes := leBytes_ofLe (b.block (4 * i) 4)
  rw [block_length] at hbytes
  rw [word, BitVec.toNat_ofNat]
  exact (leBytes_mod 4 _).trans hbytes

/-- A word read back from its little-endian image. -/
theorem word_of_block {w : Word} (h : b.block (4 * i) 4 = leBytes 4 w.toNat) : b.word i = w := by
  apply BitVec.eq_of_toNat_eq
  have hmod : ofLe (leBytes 4 w.toNat) = w.toNat :=
    (ofLe_leBytes 4 w.toNat).trans (Nat.mod_eq_of_lt w.isLt)
  rw [word, h, hmod, BitVec.ofNat_toNat, BitVec.setWidth_eq]

/-- Words stored one after the other are read back. -/
theorem word_setAll (b : Buffer) (s : Nat) (ws : List Word) (h : i < ws.length) :
    (b.setAll (4 * s) (ws.flatMap fun w => leBytes 4 w.toNat)).word (s + i) = ws[i] := by
  induction ws generalizing b s i with
  | nil => exact absurd h (Nat.not_lt_zero i)
  | cons w ws ih =>
    rw [List.flatMap_cons, setAll_append, leBytes_length, ← Nat.mul_succ]
    cases i with
    | zero =>
      apply word_of_block
      have hblock := block_setAll b (4 * s) (leBytes 4 w.toNat)
      rw [leBytes_length] at hblock
      rw [Nat.add_zero, block_setAll_outside (by omega), hblock]
      rfl
    | succ i =>
      rw [← Nat.add_assoc, Nat.add_right_comm]
      exact ih _ (s + 1) (Nat.lt_of_succ_lt_succ h)

end Buffer

end Clib
