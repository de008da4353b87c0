import VtpStreaming.Clib.Buffer
import VtpStreaming.Clib.LockTrace
import VtpStreaming.VtpLib

/-!
# Loading the firmware

`vtp/vtpLib.c`, `vtpV7CfgLoad` and `vtpZ7CfgLoad`. The first reads the image block
by block and hands it to the configuration port, the second copies it to a device.
-/

namespace VtpStreaming

open Clib VtpLib

/-! ## Files -/

/-- `sizeof(buf)`. -/
def blockSize : Nat := 512

/-- What one call of `fread` hands out, and whether `feof` holds after it. A short
count without it is a read error. -/
structure Fread where
  bytes : List Byte
  eof : Bool

/-- The calls of `fread` on an open file, one after the other. -/
abbrev OpenFile := Nat → Fread

/-- A block of the file, cut short by the end of the file or by an error after `j` bytes. -/
def freadAt (data : List Byte) (fault : Option Nat) (pos : Nat) : Fread :=
  match fault with
  | none => ⟨(data.drop pos).take blockSize, (data.drop pos).length < blockSize⟩
  | some j => ⟨(data.drop pos).take (min j (blockSize - 1)), false⟩

/-- Where the file stands before its `k`-th call. -/
def filePos (data : List Byte) (faults : Nat → Option Nat) : Nat → Nat
  | 0 => 0
  | k + 1 => filePos data faults k +
      (freadAt data (faults k) (filePos data faults k)).bytes.length

/-- A file with this content, whose `k`-th call fails when `faults k` says so. -/
def cFile (data : List Byte) (faults : Nat → Option Nat) : OpenFile :=
  fun k => freadAt data (faults k) (filePos data faults k)

/-! ## The V7 -/

/-- What `vtpV7CfgLoad` does beside the lock. -/
inductive V7Step
  | start
  | data (w : BitVec 16)
  | finish
deriving DecidableEq

/-- What a call returns, and what it did on the way. -/
structure LockRun (ε : Type) where
  code : Int
  trace : List (LockStep ε)

/-- `buf[i]`. -/
def bufWord (buf : Buffer) (i : Nat) : BitVec 16 := buf.mem (2 * i + 1) ++ buf.mem (2 * i)

/-- `vtpV7WriteCfgData`. -/
def vtpV7WriteCfgData (buf : Buffer) (n : Nat) : List (BitVec 16) :=
  (List.range n).map (bufWord buf)

/-- The `while(1)` loop from the `k`-th call of `fread` on: whether it ends with an error,
and the words that it writes. -/
def v7Blocks : Nat → OpenFile → Nat → Buffer → Option (Bool × List (BitVec 16))
  | 0, _, _, _ => none
  | fuel + 1, f, k, buf =>
      let buf := buf.setAll 0 (f k).bytes
      let bytesRead := (f k).bytes.length
      -- `bytesRead` is unsigned
      if bytesRead < 0 then some (true, [])
      else
        let words := vtpV7WriteCfgData buf ((bytesRead + 1) >>> 1)
        if (f k).eof then some (false, words)
        else (v7Blocks fuel f (k + 1) buf).map fun r => (r.1, words ++ r.2)

/-- `vtpV7CfgLoad`, as far as `fuel` reads. The results of `vtpV7CfgStart` and `vtpV7CfgEnd`
are not looked at. -/
def vtpV7CfgLoad (fuel : Nat) (file : Option OpenFile) (buf : Buffer) : Option (LockRun V7Step) :=
  match file with
  | none => some ⟨error, bracket [.start]⟩
  | some f =>
      (v7Blocks fuel f 0 buf).map fun r =>
        if r.1 then ⟨error, bracket (.start :: r.2.map .data)⟩
        else ⟨ok, bracket (.start :: r.2.map .data ++ [.finish])⟩

/-- The words written before `vtpV7CfgEnd`. -/
def LockRun.words (out : LockRun V7Step) : List (BitVec 16) :=
  out.trace.filterMap fun
    | .other (.data w) => some w
    | _ => none

/-! ## The Z7 -/

inductive Z7Step
  | write (bytes : List Byte)
deriving DecidableEq

/-- `vtpZ7CfgLoad`, with the content of the file, if it opens, and the descriptor of the
device. -/
def vtpZ7CfgLoad (file : Option (List Byte)) (fd : Word) : LockRun Z7Step :=
  match file with
  | none => ⟨error, [.unlock]⟩
  | some bits => if fd.toInt < 1 then ⟨error, [.unlock]⟩ else ⟨ok, [.other (.write bits)]⟩

/-! ## Bytes in pairs -/

/-- The words of the bytes, low byte first. A last byte alone is completed by `pad`. -/
def paired (pad : Byte) : List Byte → List (BitVec 16)
  | [] => []
  | [x] => [pad ++ x]
  | x :: y :: xs => (y ++ x) :: paired pad xs

section Paired

variable {p q : Byte} {xs ys : List Byte}

theorem paired_append (h : Even xs.length) : paired p (xs ++ ys) = paired q xs ++ paired p ys := by
  induction xs using paired.induct with
  | case1 => rfl
  | case2 x => exact absurd h (show ¬ Even 1 by decide)
  | case3 x y xs ih =>
    have heven : Even xs.length := by
      rw [List.length_cons, List.length_cons] at h
      rcases h with ⟨m, hm⟩
      exact ⟨m - 1, by omega⟩
    rw [List.cons_append, List.cons_append, paired, ih heven, paired, List.cons_append]

theorem paired_even (h : Even xs.length) : paired p xs = paired q xs := by
  have happend := @paired_append p q xs [] h
  rwa [List.append_nil, paired, List.append_nil] at happend

/-- Of an odd number of bytes the words show the pad. -/
theorem paired_odd (h : ¬ Even xs.length) (heq : paired p xs = paired q xs) : p = q := by
  induction xs using paired.induct with
  | case1 => exact absurd ⟨0, rfl⟩ h
  | case2 x =>
    have hword : p ++ x = q ++ x := (List.cons.inj heq).1
    apply BitVec.eq_of_getLsbD_eq
    intro i hi
    have hbit : (p ++ x).getLsbD (i + 8) = (q ++ x).getLsbD (i + 8) :=
      congrArg (fun w : BitVec 16 => w.getLsbD (i + 8)) hword
    rw [BitVec.getLsbD_append, BitVec.getLsbD_append] at hbit
    simpa using hbit
  | case3 x y xs ih =>
    refine ih (fun heven => h ?_) (List.cons.inj heq).2
    rw [List.length_cons, List.length_cons]
    rcases heven with ⟨m, hm⟩
    exact ⟨m + 1, by omega⟩

end Paired

/-! ## The loop -/

section Loop

variable {buf : Buffer} {data rest : List Byte} {faults : Nat → Option Nat}

theorem v7Blocks_last {f : OpenFile} {k fuel : Nat} (h : (f k).eof = true) :
    v7Blocks (fuel + 1) f k buf = some (false, vtpV7WriteCfgData (buf.setAll 0 (f k).bytes)
      (((f k).bytes.length + 1) >>> 1)) := by
  rw [v7Blocks]
  dsimp only
  rw [if_neg (Nat.not_lt_zero _), if_pos h]

theorem v7Blocks_more {f : OpenFile} {k fuel : Nat} (h : (f k).eof = false) :
    v7Blocks (fuel + 1) f k buf = (v7Blocks fuel f (k + 1) (buf.setAll 0 (f k).bytes)).map
      fun r => (r.1, vtpV7WriteCfgData (buf.setAll 0 (f k).bytes)
        (((f k).bytes.length + 1) >>> 1) ++ r.2) := by
  rw [v7Blocks]
  dsimp only
  rw [if_neg (Nat.not_lt_zero _), h, if_neg Bool.false_ne_true]

/-- What is written of a block, with the byte of the buffer behind it. -/
theorem writeCfgData_paired (buf : Buffer) (n : Nat) :
    vtpV7WriteCfgData buf ((n + 1) >>> 1) = paired (buf.mem n) (buf.block 0 n) := by
  have hfrom : ∀ off, (List.range ((n + 1) / 2)).map
      (fun i => buf.mem (off + (2 * i + 1)) ++ buf.mem (off + 2 * i)) =
        paired (buf.mem (off + n)) (buf.block off n) := by
    -- a word takes two bytes, so that the offset moves by two
    induction n using Nat.twoStepInduction with
    | zero => exact fun _ => rfl
    | one => exact fun _ => rfl
    | more n ih _ =>
      intro off
      have hhalf : (n + 2 + 1) / 2 = (n + 1) / 2 + 1 := by omega
      have hmem : off + (n + 2) = off + 2 + n := by omega
      rw [hhalf, List.range_succ_eq_map, List.map_cons, List.map_map, Buffer.block_succ,
        Buffer.block_succ, paired, hmem, ← ih (off + 2)]
      congr 1
      apply List.map_congr_left
      intro i _
      simp only [Function.comp_apply]
      congr 2 <;> omega
  have hzero := hfrom 0
  simp only [Nat.zero_add] at hzero
  rw [Nat.shiftRight_eq_div_pow]
  exact hzero

/-- A buffer and bytes that are all the same. -/
theorem setAll_same {v : Byte} {xs : List Byte} {off : Nat} (hbuf : ∀ i, buf.mem i = v)
    (hxs : ∀ x ∈ xs, x = v) (i : Nat) : (buf.setAll off xs).mem i = v := by
  induction xs generalizing buf off with
  | nil => exact hbuf i
  | cons x xs ih =>
    refine ih (fun j => ?_) fun y hy => hxs y (by simp [hy])
    show (if j = off then x else buf.mem j) = v
    rw [hbuf, hxs x (by simp), ite_self]

/-- A file without errors is read to its end, and written in pairs. The byte behind an odd
last one was in the buffer. -/
theorem v7Blocks_run {f : OpenFile} {k : Nat}
    (hread : ∀ i ≤ rest.length / blockSize, f (k + i) = freadAt rest none (blockSize * i)) :
    ∃ x, v7Blocks (rest.length / blockSize + 1) f k buf = some (false, paired x rest) ∧
      ∀ v, (∀ i, buf.mem i = v) → (∀ y ∈ rest, y = v) → x = v := by
  generalize hq : rest.length / blockSize = q at hread ⊢
  have hfirst : f k = ⟨rest.take blockSize, decide (rest.length < blockSize)⟩ := by
    have hzero := hread 0 (Nat.zero_le _)
    rwa [Nat.add_zero, Nat.mul_zero, freadAt, List.drop_zero] at hzero
  -- on the number of whole blocks that are left
  induction q generalizing rest k buf with
  | zero =>
    have hshort : rest.length < blockSize := by
      have hdiv : rest.length / 512 = 0 := hq
      show rest.length < 512
      omega
    have hwhole : rest.take blockSize = rest := List.take_of_length_le (Nat.le_of_lt hshort)
    have hblock := Buffer.block_setAll buf 0 rest
    refine ⟨buf.mem rest.length, ?_, fun v hbuf _ => hbuf _⟩
    rw [v7Blocks_last (by rw [hfirst]; exact decide_eq_true hshort), hfirst]
    dsimp only
    rw [hwhole, writeCfgData_paired, hblock, Buffer.setAll_mem_outside (by omega)]
  | succ q ih =>
    have hdiv : rest.length / 512 = q + 1 := hq
    have hlong : blockSize ≤ rest.length := by
      show 512 ≤ rest.length
      omega
    have hlength : (rest.take blockSize).length = blockSize := List.length_take_of_le hlong
    have hblock := Buffer.block_setAll buf 0 (rest.take blockSize)
    have hrest : (rest.drop blockSize).length / blockSize = q := by
      rw [List.length_drop]
      show (rest.length - 512) / 512 = q
      omega
    have hnext : ∀ i ≤ q, f (k + 1 + i) = freadAt (rest.drop blockSize) none (blockSize * i) := by
      intro i hi
      have hcall := hread (i + 1) (by omega)
      rw [show k + 1 + i = k + (i + 1) by omega, hcall, freadAt, freadAt, List.drop_drop,
        show blockSize * (i + 1) = blockSize + blockSize * i by rw [Nat.mul_succ, Nat.add_comm]]
    have hfirst' : f (k + 1) = ⟨(rest.drop blockSize).take blockSize,
        decide ((rest.drop blockSize).length < blockSize)⟩ := by
      have hzero := hnext 0 (Nat.zero_le _)
      rwa [Nat.add_zero, Nat.mul_zero, freadAt, List.drop_zero] at hzero
    -- the buffer keeps this block, whose bytes lie behind a shorter one
    obtain ⟨x, hrun, hsame⟩ :=
      @ih (buf.setAll 0 (rest.take blockSize)) _ (k + 1) hrest hnext hfirst'
    refine ⟨x, ?_, fun v hbuf hall => hsame v ?_ fun y hy => hall y (List.mem_of_mem_drop hy)⟩
    · have hpairs := @paired_append x ((buf.setAll 0 (rest.take blockSize)).mem blockSize)
        (rest.take blockSize) (rest.drop blockSize) (by rw [hlength]; decide)
      rw [List.take_append_drop] at hpairs
      have hmore : (f k).eof = false := by
        rw [hfirst]
        exact decide_eq_false (Nat.not_lt.mpr hlong)
      rw [v7Blocks_more hmore, hfirst]
      dsimp only
      rw [hrun, Option.map_some, writeCfgData_paired, hblock, hlength, hpairs]
    · exact setAll_same hbuf fun y hy => hall y (List.mem_of_mem_take hy)

end Loop

/-! ## The image -/

section Image

variable {n fuel : Nat} {f : OpenFile} {buf : Buffer} {data : List Byte}
  {faults : Nat → Option Nat}

/-- No call that reads a file of `n` bytes to its end fails. -/
def NoFault (n : Nat) (faults : Nat → Option Nat) : Prop :=
  ∀ k ≤ n / blockSize, faults k = none

theorem filePos_eq (h : NoFault data.length faults) {k : Nat} (hk : k ≤ data.length / blockSize) :
    filePos data faults k = blockSize * k := by
  induction k with
  | zero => rfl
  | succ k ih =>
    have hroom : blockSize ≤ data.length - blockSize * k := by
      have hdiv : k + 1 ≤ data.length / 512 := hk
      show 512 ≤ data.length - 512 * k
      omega
    rw [filePos, ih (by omega), h k (by omega), freadAt]
    dsimp only
    rw [List.length_take, List.length_drop, Nat.min_eq_left hroom, Nat.mul_succ]

/-- The loop never ends with the error that it looks for. -/
theorem v7Blocks_ok {r : Bool × List (BitVec 16)} {k : Nat} (h : v7Blocks fuel f k buf = some r) :
    r.1 = false := by
  induction fuel generalizing k buf r with
  | zero => cases h
  | succ fuel ih =>
    cases heof : (f k).eof with
    | true =>
      rw [v7Blocks_last heof] at h
      cases h
      rfl
    | false =>
      rw [v7Blocks_more heof, Option.map_eq_some_iff] at h
      obtain ⟨r', hrest, rfl⟩ := h
      have hbad : r'.1 = false := ih hrest
      exact hbad

/-- More fuel changes nothing. -/
theorem v7Blocks_unique {fuel' k : Nat} {r r' : Bool × List (BitVec 16)}
    (h : v7Blocks fuel f k buf = some r) (h' : v7Blocks fuel' f k buf = some r') : r = r' := by
  induction fuel generalizing fuel' k buf r r' with
  | zero => cases h
  | succ fuel ih =>
    cases fuel' with
    | zero => cases h'
    | succ fuel' =>
      cases heof : (f k).eof with
      | true =>
        rw [v7Blocks_last heof] at h h'
        rw [h] at h'
        exact Option.some.inj h'
      | false =>
        rw [v7Blocks_more heof, Option.map_eq_some_iff] at h h'
        obtain ⟨s, hs, rfl⟩ := h
        obtain ⟨s', hs', rfl⟩ := h'
        have hsame : s = s' := ih hs hs'
        rw [hsame]

theorem v7Blocks_mono {fuel' k : Nat} {r : Bool × List (BitVec 16)}
    (h : v7Blocks fuel f k buf = some r) (hle : fuel ≤ fuel') : v7Blocks fuel' f k buf = some r := by
  induction fuel generalizing fuel' k buf r with
  | zero => cases h
  | succ fuel ih =>
    obtain ⟨fuel', rfl⟩ := Nat.exists_eq_add_one_of_ne_zero (Nat.ne_zero_of_lt hle)
    cases heof : (f k).eof with
    | true =>
      rw [v7Blocks_last heof] at h ⊢
      exact h
    | false =>
      rw [v7Blocks_more heof, Option.map_eq_some_iff] at h
      obtain ⟨s, hs, rfl⟩ := h
      rw [v7Blocks_more heof, ih hs (Nat.le_of_succ_le_succ hle)]
      rfl

theorem vtpV7CfgLoad_mono {fuel' : Nat} {out : LockRun V7Step}
    (h : vtpV7CfgLoad fuel (some f) buf = some out) (hle : fuel ≤ fuel') :
    vtpV7CfgLoad fuel' (some f) buf = some out := by
  obtain ⟨r, hrun, hout⟩ := Option.map_eq_some_iff.mp h
  rw [vtpV7CfgLoad, v7Blocks_mono hrun hle]
  exact congrArg some hout

/-- A call that opens the file writes what the loop writes, and returns `OK`. -/
theorem vtpV7CfgLoad_opened {out : LockRun V7Step} (h : vtpV7CfgLoad fuel (some f) buf = some out) :
    out.code = ok ∧ v7Blocks fuel f 0 buf = some (false, out.words) := by
  unfold vtpV7CfgLoad at h
  dsimp only at h
  rw [Option.map_eq_some_iff] at h
  obtain ⟨⟨bad, words⟩, hrun, hout⟩ := h
  have hok : bad = false := v7Blocks_ok hrun
  subst hok
  rw [if_neg Bool.false_ne_true] at hout
  subst hout
  refine ⟨rfl, ?_⟩
  rw [hrun]
  congr 2
  simp [LockRun.words, bracket, List.filterMap_append, List.filterMap_map]

/-- The call comes back: with an error when a call of `fread` fails, and else with the image
in the configuration port. -/
def LoadsImage (pad : Byte) (data : List Byte) (faults : Nat → Option Nat) (buf : Buffer) : Prop :=
  ∃ fuel out, vtpV7CfgLoad fuel (some (cFile data faults)) buf = some out ∧
    (NoFault data.length faults → out.code = ok ∧ out.words = paired pad data) ∧
    (¬ NoFault data.length faults → out.code = error)

theorem load_noFault (h : NoFault data.length faults) (buf : Buffer) :
    ∃ out x, vtpV7CfgLoad (data.length / blockSize + 1) (some (cFile data faults)) buf = some out ∧
      out.code = ok ∧ out.words = paired x data ∧
      ∀ v, (∀ i, buf.mem i = v) → (∀ y ∈ data, y = v) → x = v := by
  have hread : ∀ i ≤ data.length / blockSize,
      cFile data faults (0 + i) = freadAt data none (blockSize * i) := by
    intro i hi
    rw [Nat.zero_add, cFile, h i hi, filePos_eq h hi]
  obtain ⟨x, hrun, hsame⟩ := @v7Blocks_run buf data _ 0 hread
  have hload : vtpV7CfgLoad (data.length / blockSize + 1) (some (cFile data faults)) buf = some _ :=
    congrArg (Option.map _) hrun
  obtain ⟨hcode, hwords⟩ := vtpV7CfgLoad_opened hload
  rw [hrun, Option.some.injEq, Prod.mk.injEq] at hwords
  exact ⟨_, x, hload, hcode, hwords.2.symm, hsame⟩

theorem LoadsImage.noFault {pad : Byte} (h : LoadsImage pad data faults buf) :
    NoFault data.length faults := by
  by_contra hno
  obtain ⟨fuel, out, hrun, -, herror⟩ := h
  have hcode := herror hno
  rw [(vtpV7CfgLoad_opened hrun).1] at hcode
  exact absurd hcode (by decide)

/-- Bytes that are all the same, in a buffer of the same, are completed by the same. -/
theorem LoadsImage.pad_eq {pad v : Byte} (hodd : ¬ Even n)
    (h : LoadsImage pad (List.replicate n v) faults ⟨fun _ => v, 0⟩) : pad = v := by
  have hlen : (List.replicate n v).length = n := List.length_replicate
  have hfault := h.noFault
  obtain ⟨fuel, out, hrun, hgood, -⟩ := h
  obtain ⟨out', x, hload, -, hwords, hsame⟩ := load_noFault hfault ⟨fun _ => v, 0⟩
  have hx : x = v := hsame v (fun _ => rfl) fun y hy => List.eq_of_mem_replicate hy
  have hblocks := v7Blocks_unique (vtpV7CfgLoad_opened hrun).2 (vtpV7CfgLoad_opened hload).2
  rw [Prod.mk.injEq, (hgood hfault).2, hwords, hx] at hblocks
  exact paired_odd (by rwa [hlen]) hblocks.2

/-- A pad is fixed that completes every file of `n` bytes. -/
def LoadsAll (n : Nat) (faults : Nat → Option Nat) : Prop :=
  ∃ pad, ∀ data : List Byte, data.length = n → ∀ buf, LoadsImage pad data faults buf

theorem LoadsAll.even (h : LoadsAll n faults) : Even n := by
  obtain ⟨pad, hall⟩ := h
  by_contra hodd
  have hpad : ∀ v : Byte, pad = v := fun v =>
    (hall (List.replicate n v) List.length_replicate _).pad_eq hodd
  exact absurd ((hpad 0#8).symm.trans (hpad 1#8)) (by decide)

/-- With one pad for all, every file of `n` bytes is loaded exactly when `n` is even and no
call of `fread` fails. -/
theorem v7_load_iff (n : Nat) (faults : Nat → Option Nat) :
    LoadsAll n faults ↔ Even n ∧ NoFault n faults := by
  constructor
  · intro h
    obtain ⟨pad, hall⟩ := id h
    have hlen : (List.replicate n 0#8).length = n := List.length_replicate
    have hfault := (hall (List.replicate n 0#8) hlen ⟨fun _ => 0#8, 0⟩).noFault
    rw [hlen] at hfault
    exact ⟨h.even, hfault⟩
  · rintro ⟨heven, hfault⟩
    refine ⟨0#8, fun data hdata buf => ?_⟩
    subst hdata
    obtain ⟨out, x, hload, hcode, hwords, -⟩ := load_noFault hfault buf
    exact ⟨_, out, hload, fun _ => ⟨hcode, hwords.trans (paired_even heven)⟩,
      fun h => absurd hfault h⟩

/-- The loop ends where `feof` holds, and nowhere else. -/
theorem v7Blocks_ends (f : OpenFile) (k : Nat) (buf : Buffer) :
    (∃ fuel r, v7Blocks fuel f k buf = some r) ↔ ∃ i, (f (k + i)).eof = true := by
  constructor
  · rintro ⟨fuel, r, h⟩
    induction fuel generalizing k buf r with
    | zero => cases h
    | succ fuel ih =>
      cases heof : (f k).eof with
      | true => exact ⟨0, heof⟩
      | false =>
        rw [v7Blocks_more heof, Option.map_eq_some_iff] at h
        obtain ⟨r', hrest, -⟩ := h
        obtain ⟨i, hi⟩ := ih _ _ _ hrest
        exact ⟨i + 1, by rwa [Nat.add_comm i 1, ← Nat.add_assoc]⟩
  · rintro ⟨i, hi⟩
    induction i generalizing k buf with
    | zero => exact ⟨1, _, v7Blocks_last hi⟩
    | succ i ih =>
      rw [Nat.add_comm i 1, ← Nat.add_assoc] at hi
      cases heof : (f k).eof with
      | true => exact ⟨1, _, v7Blocks_last heof⟩
      | false =>
        obtain ⟨fuel, r, hrest⟩ := ih (k + 1) (buf.setAll 0 (f k).bytes) hi
        exact ⟨fuel + 1, _, by rw [v7Blocks_more heof, hrest, Option.map_some]⟩

/-- Reading that fails for good, without an end of the file, keeps the call from returning. -/
theorem vtpV7CfgLoad_returns (f : OpenFile) (buf : Buffer) :
    (∃ fuel out, vtpV7CfgLoad fuel (some f) buf = some out) ↔ ∃ k, (f k).eof = true := by
  have hends := v7Blocks_ends f 0 buf
  simp only [Nat.zero_add] at hends
  rw [← hends]
  constructor
  · rintro ⟨fuel, out, h⟩
    exact ⟨fuel, _, (vtpV7CfgLoad_opened h).2⟩
  · rintro ⟨fuel, r, h⟩
    exact ⟨fuel, _, congrArg (Option.map _) h⟩

/-- A file of one byte, and one whose every read fails. -/
theorem one_byte_not_loaded :
    ¬ LoadsAll 1 (fun _ => none) ∧
      ∀ fuel buf, vtpV7CfgLoad fuel (some (cFile [] fun _ => some 0)) buf = none := by
  refine ⟨fun h => absurd h.even (by decide), fun fuel buf => ?_⟩
  cases hrun : vtpV7CfgLoad fuel (some (cFile [] fun _ => some 0)) buf with
  | none => rfl
  | some out =>
    obtain ⟨k, hk⟩ := (vtpV7CfgLoad_returns _ buf).mp ⟨fuel, out, hrun⟩
    cases hk

end Image

end VtpStreaming
