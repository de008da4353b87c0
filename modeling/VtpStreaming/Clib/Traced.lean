import VtpStreaming.Clib.Buffer

/-!
# A memory that remembers how it was used

Loads and stores leave a record of what they touched and of the object they were
meant for, so that a bound on the accesses is a statement about the record. An
`updateAll` replaces the values in a list of slots one after the other.
-/

namespace Clib

inductive AccessKind
  | read
  | write
deriving DecidableEq

/-- An access to `size` bytes at `off`, in an object that ends at `objEnd`. -/
structure Access where
  kind : AccessKind
  off : Nat
  size : Nat
  objEnd : Nat

/-- A memory, and the accesses made to it so far. -/
structure Traced where
  mem : Nat → Byte
  log : List Access

/-- The place of one value in an object that ends at `objEnd`. -/
structure Slot where
  off : Nat
  size : Nat
  objEnd : Nat

/-! ## Lists made of pieces of one size -/

theorem length_flatMap_pieces {α β : Type} {g : α → List β} {w : Nat} (l : List α)
    (h : ∀ x, (g x).length = w) : (l.flatMap g).length = w * l.length := by
  induction l with
  | nil => simp
  | cons x l ih => rw [List.flatMap_cons, List.length_append, h, ih, List.length_cons, Nat.mul_succ,
      Nat.add_comm]

/-- A piece of a list that is made of pieces of one size. -/
theorem flatMap_piece {α β : Type} {g : α → List β} {w : Nat} {l : List α} {rest : List β}
    {i : Nat} (hw : ∀ x, (g x).length = w) (h : i < l.length) :
    ((l.flatMap g ++ rest).drop (w * i)).take w = g l[i] := by
  induction l generalizing i with
  | nil => exact absurd h (Nat.not_lt_zero i)
  | cons x l ih =>
    rw [List.flatMap_cons, List.append_assoc]
    cases i with
    | zero => exact List.take_left' (hw x)
    | succ i =>
      have hdrop : (g x ++ (l.flatMap g ++ rest)).drop (w * (i + 1)) =
          (l.flatMap g ++ rest).drop (w * i) := by
        rw [Nat.mul_succ, Nat.add_comm, ← List.drop_drop, List.drop_left' (hw x)]
      rw [hdrop]
      exact ih (Nat.lt_of_succ_lt_succ h)

namespace Traced

/-- The `n` bytes at `off`. -/
def bytes (mem : Nat → Byte) (off n : Nat) : List Byte := Buffer.block ⟨mem, 0⟩ off n

/-- The memory with `bs` at `off`. -/
def put (mem : Nat → Byte) (off : Nat) (bs : List Byte) : Nat → Byte :=
  (Buffer.setAll ⟨mem, 0⟩ off bs).mem

def load (m : Traced) (s : Slot) : List Byte × Traced :=
  (bytes m.mem s.off s.size, { m with log := m.log ++ [⟨.read, s.off, s.size, s.objEnd⟩] })

def store (m : Traced) (off : Nat) (bs : List Byte) (objEnd : Nat) : Traced where
  mem := put m.mem off bs
  log := m.log ++ [⟨.write, off, bs.length, objEnd⟩]

/-- Replace the value in a slot by its image under `f`. -/
def update (f : List Byte → List Byte) (m : Traced) (s : Slot) : Traced :=
  let (bs, m) := m.load s
  m.store s.off (f bs) s.objEnd

def updateAll (f : List Byte → List Byte) (slots : List Slot) (m : Traced) : Traced :=
  slots.foldl (update f) m

/-- Load the values of the slots one after the other. -/
def loadAll (slots : List Slot) (m : Traced) : List (List Byte) × Traced :=
  (slots.map fun s => bytes m.mem s.off s.size,
    { m with log := m.log ++ slots.map fun s => ⟨.read, s.off, s.size, s.objEnd⟩ })

variable {f : List Byte → List Byte} {m : Traced} {mem mem' : Nat → Byte} {off i n : Nat}
  {bs : List Byte} {s : Slot} {slots : List Slot}

/-! ## Bytes -/

@[simp] theorem bytes_length : (bytes mem off n).length = n := Buffer.block_length _ off n

theorem bytes_congr (h : ∀ i < n, mem (off + i) = mem' (off + i)) :
    bytes mem off n = bytes mem' off n :=
  Buffer.block_congr h

theorem bytes_put : bytes (put mem off bs) off bs.length = bs := by
  have hread := Buffer.block_setAll ⟨mem, 0⟩ off bs
  exact (Buffer.block_congr fun _ _ => rfl).trans hread

theorem put_outside (h : i < off ∨ off + bs.length ≤ i) : put mem off bs i = mem i :=
  Buffer.setAll_mem_outside h

/-- A memory is known by its bytes. -/
theorem bytes_getElem? (h : i < n) : (bytes mem off n)[i]? = some (mem (off + i)) := by
  simp [bytes, Buffer.block, List.getElem?_range h]

theorem put_inside (h : i < bs.length) : put mem off bs (off + i) = bs[i] := by
  have hi : (bytes (put mem off bs) off bs.length)[i]? = bs[i]? := by rw [bytes_put]
  rw [bytes_getElem? h, List.getElem?_eq_getElem h] at hi
  exact Option.some.inj hi

/-- A part of what has been stored. -/
theorem bytes_put_part {k : Nat} (h : k + n ≤ bs.length) :
    bytes (put mem 0 bs) k n = (bs.drop k).take n := by
  apply List.ext_getElem?
  intro i
  by_cases hi : i < n
  · have hk : k + i < bs.length := by omega
    have hput : put mem 0 bs (0 + (k + i)) = bs[k + i] := put_inside hk
    rw [Nat.zero_add] at hput
    rw [bytes_getElem? hi, List.getElem?_take_of_lt hi, List.getElem?_drop, hput,
      List.getElem?_eq_getElem hk]
  · have hbytes : (bytes (put mem 0 bs) k n).length ≤ i := by simpa using hi
    have htake : ((bs.drop k).take n).length ≤ i := Nat.le_trans (List.length_take_le _ _)
      (Nat.le_of_not_lt hi)
    rw [List.getElem?_eq_none hbytes, List.getElem?_eq_none htake]

/-! ## Slots -/

/-- Two slots have no byte in common. -/
def Disjoint (s t : Slot) : Prop := s.off + s.size ≤ t.off ∨ t.off + t.size ≤ s.off

/-- `f` keeps the size of the values in the slots. -/
def Keeps (f : List Byte → List Byte) (slots : List Slot) : Prop :=
  ∀ s ∈ slots, ∀ bs : List Byte, bs.length = s.size → (f bs).length = s.size

theorem update_outside (hf : Keeps f [s]) (h : i < s.off ∨ s.off + s.size ≤ i) :
    (update f m s).mem i = m.mem i := by
  apply put_outside
  rwa [hf s List.mem_cons_self _ bytes_length]

theorem update_bytes (hf : Keeps f [s]) :
    bytes (update f m s).mem s.off s.size = f (bytes m.mem s.off s.size) := by
  have hlen : (f (bytes m.mem s.off s.size)).length = s.size :=
    hf s List.mem_cons_self _ bytes_length
  have hread : bytes (put m.mem s.off (f (bytes m.mem s.off s.size))) s.off
      (f (bytes m.mem s.off s.size)).length = f (bytes m.mem s.off s.size) := bytes_put
  rw [hlen] at hread
  exact hread

theorem Keeps.head (h : Keeps f (s :: slots)) : Keeps f [s] := by
  intro t ht
  exact h t (by simp_all)

theorem Keeps.tail (h : Keeps f (s :: slots)) : Keeps f slots :=
  fun t ht => h t (List.mem_cons_of_mem s ht)

/-- What lies outside the slots stays. -/
theorem updateAll_outside (hf : Keeps f slots)
    (h : ∀ s ∈ slots, i < s.off ∨ s.off + s.size ≤ i) :
    (updateAll f slots m).mem i = m.mem i := by
  induction slots generalizing m with
  | nil => rfl
  | cons s slots ih =>
    rw [updateAll, List.foldl_cons, ← updateAll,
      ih hf.tail fun t ht => h t (List.mem_cons_of_mem s ht)]
    exact update_outside hf.head (h s List.mem_cons_self)

/-- Every slot of a list of disjoint ones holds the image of what it held. -/
theorem updateAll_bytes (hf : Keeps f slots) (hdis : slots.Pairwise Disjoint) (hs : s ∈ slots) :
    bytes (updateAll f slots m).mem s.off s.size = f (bytes m.mem s.off s.size) := by
  induction slots generalizing m with
  | nil => exact absurd hs List.not_mem_nil
  | cons t slots ih =>
    rcases List.pairwise_cons.mp hdis with ⟨hhead, htail⟩
    rw [updateAll, List.foldl_cons, ← updateAll]
    rcases List.mem_cons.mp hs with rfl | hs
    · -- later slots leave the first one alone
      have hlater : bytes (updateAll f slots (update f m s)).mem s.off s.size =
          bytes (update f m s).mem s.off s.size := by
        apply bytes_congr
        intro i hi
        apply updateAll_outside hf.tail
        intro u hu
        have hsu := hhead u hu
        simp only [Disjoint] at hsu
        omega
      rw [hlater, update_bytes hf.head]
    · rw [ih hf.tail htail hs]
      congr 1
      apply bytes_congr
      intro i hi
      have hts := hhead s hs
      simp only [Disjoint] at hts
      exact update_outside hf.head (by omega)

/-! ## Stored values, replaced in place -/

theorem put_eq : put mem 0 bs i = bs[i]?.getD (mem i) := by
  by_cases h : i < bs.length
  · have hin : put mem 0 bs (0 + i) = bs[i] := put_inside h
    rw [Nat.zero_add] at hin
    rw [hin, List.getElem?_eq_getElem h, Option.getD_some]
  · rw [put_outside (Or.inr (by omega)), List.getElem?_eq_none (Nat.le_of_not_lt h),
      Option.getD_none]

/-- Two memories that agree in the slots and outside them. -/
theorem mem_ext (hin : ∀ s ∈ slots, bytes mem s.off s.size = bytes mem' s.off s.size)
    (hout : ∀ i, (∀ s ∈ slots, i < s.off ∨ s.off + s.size ≤ i) → mem i = mem' i) : mem = mem' := by
  funext i
  by_cases h : ∀ s ∈ slots, i < s.off ∨ s.off + s.size ≤ i
  · exact hout i h
  · rw [not_forall₂] at h
    rcases h with ⟨s, hs, hinside⟩
    have hi : i - s.off < s.size := by omega
    have hbyte := congrArg (·[i - s.off]?) (hin s hs)
    simp only [bytes_getElem? hi, Option.some.injEq] at hbyte
    rwa [Nat.add_sub_of_le (by omega)] at hbyte

section Pieces

variable {α : Type} {g g' : α → List Byte} {w base : Nat} {l : List α} {pre post : List Byte}

/-- A piece of what has been stored. -/
theorem bytes_put_piece (hg : ∀ x, (g x).length = w) (hpre : pre.length = base) (h : i < l.length) :
    bytes (put mem 0 (pre ++ (l.flatMap g ++ post))) (base + w * i) w = g l[i] := by
  have hend : w * i + w ≤ w * l.length := by
    rw [← Nat.mul_succ]
    exact Nat.mul_le_mul_left w h
  rw [bytes_put_part, ← List.drop_drop, List.drop_left' hpre, flatMap_piece hg]
  rw [List.length_append, List.length_append, length_flatMap_pieces l hg]
  omega

/-- The slots are the places of `k` values of `w` bytes at `base`. -/
structure Tiles (slots : List Slot) (base w k : Nat) : Prop where
  disjoint : slots.Pairwise Disjoint
  tile : ∀ s ∈ slots, ∃ i < k, s.off = base + w * i ∧ s.size = w
  all : ∀ i < k, ∃ s ∈ slots, s.off = base + w * i ∧ s.size = w

/-- The update of every value of a list that is stored as such. -/
theorem updateAll_pieces {log : List Access} (hg : ∀ x, (g x).length = w)
    (hg' : ∀ x, (g' x).length = w) (hpre : pre.length = base) (htiles : Tiles slots base w l.length)
    (hf : Keeps f slots) (hfg : ∀ x ∈ l, f (g x) = g' x) :
    (updateAll f slots ⟨put mem 0 (pre ++ (l.flatMap g ++ post)), log⟩).mem =
      put mem 0 (pre ++ (l.flatMap g' ++ post)) := by
  refine @mem_ext _ _ slots ?_ ?_
  · intro s hs
    rcases htiles.tile s hs with ⟨i, hi, hoff, hsize⟩
    rw [updateAll_bytes hf htiles.disjoint hs, hoff, hsize, bytes_put_piece hg hpre hi,
      bytes_put_piece hg' hpre hi]
    exact hfg _ (List.getElem_mem hi)
  · intro i hout
    have hlen := length_flatMap_pieces l hg
    have hlen' := length_flatMap_pieces l hg'
    rw [updateAll_outside hf hout]
    simp only [put_eq]
    congr 1
    by_cases hbefore : i < pre.length
    · rw [List.getElem?_append_left hbefore, List.getElem?_append_left hbefore]
    · have hafter : w * l.length ≤ i - pre.length := by
        by_contra hinside
        -- the index lies in the tile that its quotient names
        have hw : 0 < w := Nat.pos_of_ne_zero fun hzero => hinside (by simp [hzero])
        have hquot : (i - pre.length) / w < l.length :=
          Nat.div_lt_of_lt_mul (Nat.lt_of_not_le hinside)
        rcases htiles.all _ hquot with ⟨s, hs, hoff, hsize⟩
        have hmod := Nat.div_add_mod (i - pre.length) w
        have hrest := Nat.mod_lt (i - pre.length) hw
        have houts := hout s hs
        omega
      have hge : pre.length ≤ i := Nat.le_of_not_lt hbefore
      rw [List.getElem?_append_right hge, List.getElem?_append_right hge,
        List.getElem?_append_right (by omega), List.getElem?_append_right (by omega), hlen, hlen']

end Pieces

/-! ## The record -/

section Log

variable {P : Access → Prop}

theorem load_log :
    (∀ a ∈ (m.load s).2.log, P a) ↔ (∀ a ∈ m.log, P a) ∧ P ⟨.read, s.off, s.size, s.objEnd⟩ := by
  simp [load, or_imp, forall_and]

theorem store_log {objEnd : Nat} :
    (∀ a ∈ (m.store off bs objEnd).log, P a) ↔
      (∀ a ∈ m.log, P a) ∧ P ⟨.write, off, bs.length, objEnd⟩ := by
  simp [store, or_imp, forall_and]

theorem update_log (hf : Keeps f [s]) :
    (∀ a ∈ (update f m s).log, P a) ↔ (∀ a ∈ m.log, P a) ∧
      P ⟨.read, s.off, s.size, s.objEnd⟩ ∧ P ⟨.write, s.off, s.size, s.objEnd⟩ := by
  have hlen : (f (bytes m.mem s.off s.size)).length = s.size :=
    hf s List.mem_cons_self _ bytes_length
  have hstore : (update f m s) = (m.load s).2.store s.off (f (m.load s).1) s.objEnd := rfl
  rw [hstore, store_log, load_log, and_assoc]
  simp only [load, hlen]

theorem updateAll_log (hf : Keeps f slots) :
    (∀ a ∈ (updateAll f slots m).log, P a) ↔ (∀ a ∈ m.log, P a) ∧
      ∀ s ∈ slots, P ⟨.read, s.off, s.size, s.objEnd⟩ ∧ P ⟨.write, s.off, s.size, s.objEnd⟩ := by
  induction slots generalizing m with
  | nil => simp [updateAll]
  | cons s slots ih =>
    rw [updateAll, List.foldl_cons, ← updateAll, ih hf.tail, update_log hf.head,
      List.forall_mem_cons,
      and_assoc]

theorem loadAll_log :
    (∀ a ∈ (loadAll slots m).2.log, P a) ↔
      (∀ a ∈ m.log, P a) ∧ ∀ s ∈ slots, P ⟨.read, s.off, s.size, s.objEnd⟩ := by
  simp [loadAll, or_imp, forall_and]

end Log

end Traced

end Clib
