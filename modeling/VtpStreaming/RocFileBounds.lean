import VtpStreaming.RocFile

/-!
# The buffer of a file

`vtp/vtpRocLib.c`, `vtpRocFile2Event`. The loop that reads the file stops at the end of the
buffer. What follows it writes on from where it stopped.
-/

namespace VtpStreaming

open Clib

/-- A buffer that has not been touched. -/
def freshBuffer (mem : Nat → Byte) : Buffer := ⟨mem, 0⟩

/-- The bytes of the file that the call opens, if it comes so far. -/
def openedFile (files : String → Option (List Byte)) (fname : Option String) (utag : Word) :
    Option (List Byte) :=
  if utag.toInt = 0 ∨ utag.toInt ≥ 0xff00 then none else fname.bind files

/-- All indices that the call touches are below `maxbytes`. The swap loop reads no index
that it does not write. -/
def StaysInside (files : String → Option (List Byte)) (fname : Option String) (mem : Nat → Byte)
    (utag rocid maxbytes : Word) : Prop :=
  (vtpRocFile2Event files fname (freshBuffer mem) utag rocid maxbytes).2.top ≤ maxbytes.toNat

/-! ## How far a store reaches -/

section Top

variable {b : Buffer} {off : Nat}

theorem setAll_top_within {xs : List Byte} (h : off + xs.length ≤ b.top) :
    (b.setAll off xs).top = b.top := by
  rw [Buffer.setAll_top]
  split
  · rfl
  · omega

theorem swapWord_top (b : Buffer) (ii : Nat) (h : ii + 4 ≤ b.top) :
    (swapWord b ii).top = b.top := by
  rw [swapWord_eq]
  apply setAll_top_within
  rw [List.length_reverse, Buffer.block_length]
  exact h

/-- Words that have been written are swapped in place. -/
theorem swaps_top (k : Nat) (h : 16 + 4 * k ≤ b.top) :
    ((List.range' 16 k 4).foldl swapWord b).top = b.top := by
  induction k with
  | zero => rfl
  | succ k ih =>
    have hk := ih (by omega)
    rw [List.range'_concat, List.foldl_append, List.foldl_cons, List.foldl_nil, swapWord_top, hk]
    rw [hk]
    omega

end Top

/-! ## The call -/

/-- The place where the loop stops for a file of `n` bytes. -/
def readEnd (n maxbytes : Nat) : Nat := min (16 + n) maxbytes

/-- One past the last index that the call touches: the word that the file ends in, or the
terminator behind it. -/
def touched (n maxbytes : Nat) : Nat :=
  if readEnd n maxbytes % 4 = 0 then readEnd n maxbytes + 1 else (readEnd n maxbytes + 3) / 4 * 4

theorem readFile_top {maxbytes : Nat} (hmin : 16 ≤ maxbytes) (bytes : List Byte)
    (mem : Nat → Byte) :
    (readFile maxbytes bytes 16 (freshBuffer mem)).1 = readEnd bytes.length maxbytes ∧
      (readFile maxbytes bytes 16 (freshBuffer mem)).2.top ≤ readEnd bytes.length maxbytes := by
  have hroom : ((maxbytes : Int) - (16 : Nat)).toNat = maxbytes - 16 := by omega
  rw [readFile_eq, hroom, readEnd]
  refine ⟨by dsimp only; omega, ?_⟩
  dsimp only
  rw [Buffer.setAll_top]
  have hfresh : (freshBuffer mem).top = 0 := rfl
  split
  · omega
  · rw [hfresh, List.length_take]
    omega

/-- The padding, or the terminator, goes to the end. -/
theorem padFile_top {ilen : Nat} {buf : Buffer} (h : buf.top ≤ ilen) :
    (padFile ilen buf).1 = (ilen + 3) / 4 * 4 ∧
      (padFile ilen buf).2.2.top = if ilen % 4 = 0 then ilen + 1 else (ilen + 3) / 4 * 4 := by
  rcases Nat.eq_zero_or_pos (ilen % 4) with hwhole | hpart
  · have hno : ¬ 4 - ilen % 4 < 4 := by omega
    have hpad : padFile ilen buf = (ilen, 0, buf.set ilen 0#8) := if_neg hno
    have hset : (buf.set ilen 0#8).top = max buf.top (ilen + 1) := rfl
    rw [hpad, if_pos hwhole, hset]
    dsimp only
    omega
  · have hyes : 4 - ilen % 4 < 4 := by omega
    have hpad : padFile ilen buf = (ilen + (4 - ilen % 4), 4 - ilen % 4,
        buf.setAll ilen (List.replicate (4 - ilen % 4) 0#8)) := if_pos hyes
    have hsome : List.replicate (4 - ilen % 4) 0#8 ≠ [] := by
      rw [ne_eq, List.replicate_eq_nil_iff]
      omega
    rw [hpad, if_neg (Nat.ne_of_gt hpart), Buffer.setAll_top, if_neg hsome, List.length_replicate]
    dsimp only
    omega

/-- The header and the swaps stay below what has been touched. -/
theorem finish_top {ilen : Nat} {buf : Buffer} (rem : Nat) (utag rocid : Word) (hmin : 16 ≤ ilen)
    (hmax : ilen ≤ 4194304) (hwords : ilen % 4 = 0) (htop : ilen ≤ buf.top) :
    (swapWords ((BitVec.ofNat 32 (ilen / 4) - 1#32) <<< 2).toNat
      (buf.setAll 0 ((evHeader ilen rem utag rocid).flatMap fun w => leBytes 4 w.toNat))).top =
        buf.top := by
  have hheader : ((evHeader ilen rem utag rocid).flatMap fun w => leBytes 4 w.toNat).length = 16 := by
    simp [evHeader]
  have hfill : (buf.setAll 0 ((evHeader ilen rem utag rocid).flatMap fun w =>
      leBytes 4 w.toNat)).top = buf.top := by
    apply setAll_top_within
    rw [hheader]
    omega
  have hone : (BitVec.ofNat 32 (ilen / 4) - 1#32 : Word).toNat = ilen / 4 - 1 := by
    have hn : (BitVec.ofNat 32 (ilen / 4)).toNat = ilen / 4 := by
      rw [BitVec.toNat_ofNat]
      exact Nat.mod_eq_of_lt (by omega)
    have hle : (1#32 : Word) ≤ BitVec.ofNat 32 (ilen / 4) := by
      rw [BitVec.le_def, hn]
      show 1 ≤ ilen / 4
      omega
    rw [BitVec.toNat_sub_of_le hle, hn]
    rfl
  have hlimit : ((BitVec.ofNat 32 (ilen / 4) - 1#32 : Word) <<< 2).toNat = ilen - 4 := by
    rw [BitVec.toNat_shiftLeft, hone, Nat.shiftLeft_eq, Nat.mod_eq_of_lt (by omega)]
    omega
  rw [hlimit, swapWords, swaps_top, hfill]
  rw [hfill]
  omega

/-- A call that is refused touches nothing, and any other as far as `touched` says. -/
theorem file2Event_top {files : String → Option (List Byte)} {fname : Option String}
    {mem : Nat → Byte} {utag rocid maxbytes : Word} (hmin : 16 ≤ maxbytes.toNat)
    (hmax : maxbytes.toNat ≤ 4194304) :
    (vtpRocFile2Event files fname (freshBuffer mem) utag rocid maxbytes).2.top =
      match openedFile files fname utag with
      | none => 0
      | some bytes => touched bytes.length maxbytes.toNat := by
  have hint : maxbytes.toInt = maxbytes.toNat := BitVec.toInt_eq_toNat_of_lt (by omega)
  cases fname with
  | none =>
    have hnone : openedFile files none utag = none := by
      rw [openedFile]
      split
      all_goals rfl
    rw [hnone]
    rfl
  | some fname =>
    simp only [vtpRocFile2Event, openedFile, Option.bind_some]
    split
    · rfl
    · rw [hint, if_neg (by omega)]
      cases files fname with
      | none => rfl
      | some bytes =>
        dsimp only
        obtain ⟨hlen, htop⟩ := readFile_top hmin bytes mem
        generalize readFile maxbytes.toNat bytes 16 (freshBuffer mem) = rd at hlen htop
        obtain ⟨ilen, buf⟩ := rd
        dsimp only at hlen htop ⊢
        rw [← hlen] at htop
        obtain ⟨hwords, hpadded⟩ := padFile_top htop
        have hend : 16 ≤ ilen ∧ ilen ≤ 4194304 := by
          rw [hlen, readEnd]
          omega
        have hreach : (padFile ilen buf).1 ≤ (padFile ilen buf).2.2.top := by
          rw [hwords, hpadded]
          split
          · omega
          · exact Nat.le_refl _
        rw [finish_top _ _ _ (by omega) (by omega) (by omega) hreach, hpadded, hlen, touched]

theorem touched_le_iff (n maxbytes : Nat) :
    touched n maxbytes ≤ maxbytes ↔
      16 + n < maxbytes ∧ (16 + n + 3) / 4 * 4 ≤ maxbytes := by
  rw [touched, readEnd]
  split
  · omega
  · omega

/-- The call stays inside the buffer if the headers and the file leave a byte free and the
last word of the file fits. -/
theorem file2Event_inside_iff (files : String → Option (List Byte)) (fname : Option String)
    (mem : Nat → Byte) (utag rocid maxbytes : Word) (hmin : 16 ≤ maxbytes.toNat)
    (hmax : maxbytes.toNat ≤ 4194304) :
    StaysInside files fname mem utag rocid maxbytes ↔
      ∀ bytes, openedFile files fname utag = some bytes →
        16 + bytes.length < maxbytes.toNat ∧ (16 + bytes.length + 3) / 4 * 4 ≤ maxbytes.toNat := by
  rw [StaysInside, file2Event_top hmin hmax]
  cases openedFile files fname utag with
  | none =>
    constructor
    · intro _ bytes hbytes
      cases hbytes
    · intro _
      exact Nat.zero_le _
  | some bytes =>
    dsimp only
    rw [touched_le_iff]
    constructor
    · rintro hfits _ ⟨⟩
      exact hfits
    · intro h
      exact h bytes rfl

/-- A file of five bytes in a buffer of 24. -/
theorem file2Event_inside_five :
    StaysInside (fun _ => some [0x76#8, 0x74#8, 0x70#8, 0x31#8, 0x0a#8]) (some "vtp1.cnf")
      (fun _ => 0#8) 7#32 5#32 24#32 := by
  refine (file2Event_inside_iff _ (some "vtp1.cnf") (fun _ => 0#8) 7#32 5#32 24#32 (by decide)
    (by decide)).2 ?_
  rintro _ ⟨⟩
  decide

/-- In a buffer of 20 bytes a file of four is terminated at index 20. -/
theorem file2Event_outside_four :
    (vtpRocFile2Event (fun _ => some [0x76#8, 0x74#8, 0x70#8, 0x31#8]) (some "vtp1.cnf")
      (freshBuffer fun _ => 0#8) 7#32 5#32 20#32).2.top = 21 ∧
      ¬ StaysInside (fun _ => some [0x76#8, 0x74#8, 0x70#8, 0x31#8]) (some "vtp1.cnf")
        (fun _ => 0#8) 7#32 5#32 20#32 := by
  have htop : (vtpRocFile2Event (fun _ => some [0x76#8, 0x74#8, 0x70#8, 0x31#8]) (some "vtp1.cnf")
      (freshBuffer fun _ => 0#8) 7#32 5#32 20#32).2.top = 21 := by decide
  refine ⟨htop, ?_⟩
  rw [StaysInside, htop]
  decide

end VtpStreaming
