import Mathlib.Tactic.IntervalCases
import VtpStreaming.Clib.Buffer
import VtpStreaming.RocEvents

/-!
# A file as a user event

`vtp/vtpRocLib.c`, `vtpRocFile2Event`: the bytes of a file become the payload of
a bank of characters inside a user bank. The FIFO takes 32-bit words, so the
bytes of each payload word are swapped in place.
-/

namespace VtpStreaming

open Clib

/-- `while((ilen<maxbytes) && ((c = getc(fid))!=EOF))`. -/
def readFile (maxbytes : Int) : List Byte → Nat → Buffer → Nat × Buffer
  | [], ilen, buf => (ilen, buf)
  | c :: cs, ilen, buf =>
      if (ilen : Int) < maxbytes then readFile maxbytes cs (ilen + 1) (buf.set ilen c)
      else (ilen, buf)

/-- Pad to an integral number of words, or only terminate. -/
def padFile (ilen : Nat) (buf : Buffer) : Nat × Nat × Buffer :=
  let rem := 4 - ilen % 4
  if rem < 4 then (ilen + rem, rem, buf.setAll ilen (List.replicate rem 0#8))
  else (ilen, 0, buf.set ilen 0#8)

def evHeader (ilen rem : Nat) (utag rocid : Word) : List Word :=
  [BitVec.ofNat 32 (ilen / 4) - 1#32,
    (rocid <<< 16) ||| (0x10#32 <<< 8) ||| 0#32,
    BitVec.ofNat 32 (ilen / 4) - 3#32,
    (utag <<< 16) ||| (BitVec.ofNat 32 rem <<< 14) ||| (3#32 <<< 8) ||| 0#32]

/-- One turn of the swap loop. -/
def swapWord (buf : Buffer) (ii : Nat) : Buffer :=
  let aa := buf.mem ii
  let bb := buf.mem (ii + 1)
  let buf := buf.set ii (buf.mem (ii + 3))
  let buf := buf.set (ii + 1) (buf.mem (ii + 2))
  let buf := buf.set (ii + 2) bb
  buf.set (ii + 3) aa

/-- `for (ii=16; ii<=limit; ii+=4)`. -/
def swapWords (limit : Nat) (buf : Buffer) : Buffer :=
  (List.range' 16 ((limit + 4 - 16) / 4) 4).foldl swapWord buf

/-- The three `int` arguments are 32-bit words read as signed. `files` is what
`fopen` finds. -/
def vtpRocFile2Event (files : String → Option (List Byte)) (fname : Option String) (buf : Buffer)
    (utag rocid maxbytes : Word) : Int × Buffer :=
  let maxb : Int := 1024 * 1024 * 4
  match fname with
  | none => (error, buf)
  | some fname =>
    if utag.toInt = 0 ∨ utag.toInt ≥ 0xff00 then (error, buf)
    else
      let maxbytes := if maxbytes.toInt = 0 ∨ maxbytes.toInt > maxb then maxb else maxbytes.toInt
      match files fname with
      | none => (error, buf)
      | some bytes =>
        let (ilen, buf) := readFile maxbytes bytes 16 buf
        let (ilen, rem, buf) := padFile ilen buf
        let header := evHeader ilen rem utag rocid
        let buf := buf.setAll 0 (header.flatMap fun w => leBytes 4 w.toNat)
        let header0 := BitVec.ofNat 32 (ilen / 4) - 1#32
        (header0.toInt, swapWords (header0 <<< 2).toNat buf)

/-- The reading of a receiver: the payload words most significant byte first,
without the pad bytes. -/
def decodeEvent (word : Nat → Word) : List Byte :=
  let payload := (List.range ((word 0).toNat - 3)).flatMap fun q => beBytes 4 (word (4 + q)).toNat
  payload.take (payload.length - ((word 3 >>> 14) &&& 3#32).toNat)

/-- The words of a file of `n` bytes: four of the headers and the payload. -/
def eventWords (n : Nat) : Nat := 4 + (n + 3) / 4

/-- The buffer holds the file as a user event. -/
structure EncodesFile (bytes : List Byte) (utag : Word) (ret : Int) (buf : Buffer) : Prop where
  returned : ((buf.word 0).toNat : Int) = ret
  outer : (buf.word 0).toNat = eventWords bytes.length - 1
  inner : (buf.word 2).toNat = eventWords bytes.length - 3
  tag : buf.word 3 >>> 16 = utag
  charType : (buf.word 3 >>> 8) &&& 0x3f#32 = 3#32
  pad : ((buf.word 3 >>> 14) &&& 3#32).toNat = 4 * (eventWords bytes.length - 4) - bytes.length
  decoded : decodeEvent buf.word = bytes
  accepted : userEventOk buf.word

/-! ## Reading and padding -/

/-- The file goes to consecutive places, as much of it as `maxbytes` allows. -/
theorem readFile_eq (maxbytes : Int) (bytes : List Byte) (ilen : Nat) (buf : Buffer) :
    readFile maxbytes bytes ilen buf =
      (ilen + min bytes.length (maxbytes - ilen).toNat,
        buf.setAll ilen (bytes.take (maxbytes - ilen).toNat)) := by
  induction bytes generalizing ilen buf with
  | nil => simp [readFile, Buffer.setAll]
  | cons c cs ih =>
    rw [readFile]
    split
    · next hroom =>
      have hnext : (maxbytes - ilen).toNat = (maxbytes - (ilen + 1 : Nat)).toNat + 1 := by omega
      rw [ih, hnext, List.take_succ_cons, Buffer.setAll, List.length_cons]
      congr 1
      omega
    · next hfull =>
      have hzero : (maxbytes - ilen).toNat = 0 := by omega
      rw [hzero, List.take_zero, Nat.min_zero]
      rfl

theorem readFile_all {maxbytes : Int} {bytes : List Byte} {ilen : Nat} {buf : Buffer}
    (h : (ilen + bytes.length : Nat) ≤ maxbytes) :
    readFile maxbytes bytes ilen buf = (ilen + bytes.length, buf.setAll ilen bytes) := by
  have hroom : bytes.length ≤ (maxbytes - ilen).toNat := by omega
  rw [readFile_eq, Nat.min_eq_left hroom, List.take_of_length_le hroom]

/-- The pad bytes of a file of `n` bytes. -/
def padLen (n : Nat) : Nat := 4 * ((n + 3) / 4) - n

theorem padFile_length (n : Nat) (buf : Buffer) :
    (padFile (16 + n) buf).1 = 4 * eventWords n ∧ (padFile (16 + n) buf).2.1 = padLen n := by
  simp only [padFile, eventWords, padLen]
  split
  · simp only
    omega
  · simp only
    omega

/-- After padding the payload stands behind the headers. -/
theorem padFile_block (bytes : List Byte) (buf : Buffer) :
    (padFile (16 + bytes.length) (buf.setAll 16 bytes)).2.2.block 16
        (4 * ((bytes.length + 3) / 4)) = bytes ++ List.replicate (padLen bytes.length) 0#8 := by
  simp only [padFile]
  split
  · next hpad =>
    have hrem : 4 - (16 + bytes.length) % 4 = padLen bytes.length := by
      rw [padLen]
      omega
    have hlen : (bytes ++ List.replicate (padLen bytes.length) 0#8).length =
        4 * ((bytes.length + 3) / 4) := by
      rw [List.length_append, List.length_replicate, padLen]
      omega
    rw [hrem, ← Buffer.setAll_append, ← hlen, Buffer.block_setAll]
  · next hpad =>
    have hnone : padLen bytes.length = 0 := by
      rw [padLen]
      omega
    have hlen : 4 * ((bytes.length + 3) / 4) = bytes.length := by omega
    rw [hnone, hlen, List.replicate_zero, List.append_nil]
    have hblock : ((buf.setAll 16 bytes).setAll (16 + bytes.length) [0#8]).block 16 bytes.length =
        bytes := by
      rw [Buffer.block_setAll_outside (by omega), Buffer.block_setAll]
    exact hblock

/-! ## Swapping -/

theorem swapWord_eq (buf : Buffer) (ii : Nat) :
    swapWord buf ii = buf.setAll ii (buf.block ii 4).reverse := by
  simp [swapWord, Buffer.block, Buffer.setAll, List.range_succ, Buffer.set_mem_ne]

/-- A turn reverses the bytes of its word. -/
theorem swapWord_block (buf : Buffer) (ii : Nat) :
    (swapWord buf ii).block ii 4 = (buf.block ii 4).reverse := by
  have hblock := Buffer.block_setAll buf ii (buf.block ii 4).reverse
  rwa [List.length_reverse, Buffer.block_length, ← swapWord_eq] at hblock

theorem swapWord_block_outside {buf : Buffer} {ii i n : Nat} (h : i + n ≤ ii ∨ ii + 4 ≤ i) :
    (swapWord buf ii).block i n = buf.block i n := by
  rw [swapWord_eq]
  apply Buffer.block_setAll_outside
  rw [List.length_reverse, Buffer.block_length]
  exact h

theorem swaps_outside {buf : Buffer} (k : Nat) {i n : Nat} (h : i + n ≤ 16 ∨ 16 + 4 * k ≤ i) :
    ((List.range' 16 k 4).foldl swapWord buf).block i n = buf.block i n := by
  induction k with
  | zero => rfl
  | succ k ih =>
    rw [List.range'_concat, List.foldl_append, List.foldl_cons, List.foldl_nil,
      swapWord_block_outside (by omega), ih (by omega)]

/-- The loop reverses the bytes of every payload word. -/
theorem swaps_block {buf : Buffer} {k q : Nat} (h : q < k) :
    ((List.range' 16 k 4).foldl swapWord buf).block (16 + 4 * q) 4 =
      (buf.block (16 + 4 * q) 4).reverse := by
  induction k with
  | zero => exact absurd h (Nat.not_lt_zero q)
  | succ k ih =>
    rw [List.range'_concat, List.foldl_append, List.foldl_cons, List.foldl_nil]
    by_cases hq : q = k
    · subst hq
      rw [swapWord_block, swaps_outside q (by omega)]
    · rw [swapWord_block_outside (by omega), ih (by omega)]

/-! ## The encoded file -/

theorem innerTag_toNat {utag : Word} {rem : Nat} (htag : utag.toNat < 65536) (hrem : rem < 4) :
    ((utag <<< 16) ||| (BitVec.ofNat 32 rem <<< 14) ||| (3#32 <<< 8) ||| 0#32).toNat =
      65536 * utag.toNat + 16384 * rem + 768 := by
  have hlow : ((BitVec.ofNat 32 rem <<< 14) ||| ((3#32 <<< 8) ||| 0#32)).toNat =
      16384 * rem + 768 := by
    interval_cases rem <;> rfl
  rw [BitVec.or_assoc, BitVec.or_assoc, tagged_toNat htag (by omega), hlow, Nat.add_assoc]

section

variable {bytes : List Byte} {buf : Buffer} {utag rocid : Word}

/-- The buffer that the call leaves: the padded file behind the headers, with
the payload words swapped. -/
def encodeFile (bytes : List Byte) (buf : Buffer) (utag rocid : Word) : Buffer :=
  let n := bytes.length
  let padded := (padFile (16 + n) (buf.setAll 16 bytes)).2.2
  let header := evHeader (4 * eventWords n) (padLen n) utag rocid
  let filled := padded.setAll 0 (header.flatMap fun w => leBytes 4 w.toNat)
  (List.range' 16 (eventWords n - 4) 4).foldl swapWord filled

theorem headerLength_toNat {n k : Nat} (h : n ≤ 4194288) (hk : k ≤ 4) :
    (BitVec.ofNat 32 (4 * eventWords n / 4) - BitVec.ofNat 32 k : Word).toNat =
      eventWords n - k := by
  have hwords : eventWords n ≤ 1048576 ∧ 4 ≤ eventWords n := by
    simp only [eventWords]
    omega
  have hdiv : 4 * eventWords n / 4 = eventWords n := by omega
  have hn : (BitVec.ofNat 32 (eventWords n)).toNat = eventWords n := by
    rw [BitVec.toNat_ofNat]
    exact Nat.mod_eq_of_lt (by omega)
  have hk' : (BitVec.ofNat 32 k).toNat = k := by
    rw [BitVec.toNat_ofNat]
    exact Nat.mod_eq_of_lt (by omega)
  rw [hdiv, BitVec.toNat_sub_of_le (by rw [BitVec.le_def, hn, hk']; omega), hn, hk']

theorem encodeFile_header (bytes : List Byte) (buf : Buffer) (utag rocid : Word) {i : Nat}
    (h : i < 4) :
    (evHeader (4 * eventWords bytes.length) (padLen bytes.length) utag rocid)[i]? =
      some ((encodeFile bytes buf utag rocid).word i) := by
  have hword := Buffer.word_setAll (padFile (16 + bytes.length) (buf.setAll 16 bytes)).2.2 0
    (evHeader (4 * eventWords bytes.length) (padLen bytes.length) utag rocid) h
  rw [Nat.mul_zero, Nat.zero_add] at hword
  rw [List.getElem?_eq_getElem h, ← hword, Option.some.injEq]
  symm
  apply Buffer.word_of_block
  rw [Buffer.leBytes_word, encodeFile, swaps_outside _ (by omega)]

/-- A payload word, most significant byte first, is four bytes of the padded
file. -/
theorem encodeFile_payload {q : Nat} (h : q < eventWords bytes.length - 4) :
    beBytes 4 ((encodeFile bytes buf utag rocid).word (4 + q)).toNat =
      (padFile (16 + bytes.length) (buf.setAll 16 bytes)).2.2.block (16 + 4 * q) 4 := by
  rw [beBytes, Buffer.leBytes_word, Nat.mul_add, encodeFile, swaps_block h, List.reverse_reverse,
    Buffer.block_setAll_outside]
  right
  simp [evHeader]

/-- The four header words. -/
theorem encodeFile_words (buf : Buffer) (h : bytes.length ≤ 4194288) (htag : utag.toNat < 65536)
    (hroc : rocid.toNat < 65536) :
    ((encodeFile bytes buf utag rocid).word 0).toNat = eventWords bytes.length - 1 ∧
    ((encodeFile bytes buf utag rocid).word 1).toNat = 65536 * rocid.toNat + 4096 ∧
    ((encodeFile bytes buf utag rocid).word 2).toNat = eventWords bytes.length - 3 ∧
    ((encodeFile bytes buf utag rocid).word 3).toNat =
      65536 * utag.toNat + 16384 * padLen bytes.length + 768 := by
  have hpad : padLen bytes.length < 4 := by
    rw [padLen]
    omega
  have h0 := encodeFile_header bytes buf utag rocid (i := 0) (by decide)
  have h1 := encodeFile_header bytes buf utag rocid (i := 1) (by decide)
  have h2 := encodeFile_header bytes buf utag rocid (i := 2) (by decide)
  have h3 := encodeFile_header bytes buf utag rocid (i := 3) (by decide)
  rw [← Option.some.inj h0, ← Option.some.inj h1, ← Option.some.inj h2, ← Option.some.inj h3]
  refine ⟨headerLength_toNat h (by decide), ?_, headerLength_toNat h (by decide),
    innerTag_toNat htag hpad⟩
  rw [BitVec.or_assoc, tagged_toNat hroc (by decide)]
  rfl

theorem encodeFile_decoded (h : bytes.length ≤ 4194288) (htag : utag.toNat < 65536)
    (hroc : rocid.toNat < 65536) : decodeEvent (encodeFile bytes buf utag rocid).word = bytes := by
  obtain ⟨h0, -, -, h3⟩ := encodeFile_words buf h htag hroc
  have hcount : ((encodeFile bytes buf utag rocid).word 0).toNat - 3 = (bytes.length + 3) / 4 := by
    rw [h0, eventWords]
    omega
  have hpad : ((encodeFile bytes buf utag rocid).word 3 >>> 14 &&& 3#32).toNat =
      padLen bytes.length := by
    have hlt : padLen bytes.length < 4 := by
      rw [padLen]
      omega
    have hfield := field_toNat ((encodeFile bytes buf utag rocid).word 3) 14 (k := 2) (by decide)
    rw [h3] at hfield
    exact hfield.trans (by omega)
  have hpayload : ((List.range ((bytes.length + 3) / 4)).flatMap fun q =>
      beBytes 4 ((encodeFile bytes buf utag rocid).word (4 + q)).toNat) =
      bytes ++ List.replicate (padLen bytes.length) 0#8 := by
    rw [← padFile_block bytes buf, ← Buffer.flatMap_block]
    apply List.flatMap_congr
    intro q hq
    have hlt : q < (bytes.length + 3) / 4 := List.mem_range.mp hq
    exact encodeFile_payload (by rw [eventWords]; omega)
  simp only [decodeEvent]
  rw [hcount, hpad, hpayload, List.length_append, List.length_replicate, Nat.add_sub_cancel,
    List.take_left]

/-- The call on a file that fits. -/
theorem file2Event_eq {files : String → Option (List Byte)} {fname : String} {maxbytes : Word}
    (hfile : files fname = some bytes) (htag : 1 ≤ utag.toNat ∧ utag.toNat ≤ 0xfeff)
    (hfits : bytes.length + 16 ≤ maxbytes.toNat) (hmax : maxbytes.toNat ≤ 4194304) :
    vtpRocFile2Event files (some fname) buf utag rocid maxbytes =
      (((eventWords bytes.length - 1 : Nat) : Int), encodeFile bytes buf utag rocid) := by
  have htagInt : utag.toInt = utag.toNat := BitVec.toInt_eq_toNat_of_lt (by omega)
  have hmaxInt : maxbytes.toInt = maxbytes.toNat := BitVec.toInt_eq_toNat_of_lt (by omega)
  have hread : readFile maxbytes.toNat bytes 16 buf =
      (16 + bytes.length, buf.setAll 16 bytes) := readFile_all (by omega)
  obtain ⟨hlen, hrem⟩ := padFile_length bytes.length (buf.setAll 16 bytes)
  have h0 := headerLength_toNat (n := bytes.length) (k := 1) (by omega) (by decide)
  simp only [vtpRocFile2Event]
  rw [htagInt, if_neg (by omega), hfile, hmaxInt, if_neg (by omega)]
  dsimp only
  rw [hread]
  dsimp only
  rw [hlen, hrem]
  generalize (BitVec.ofNat 32 (4 * eventWords bytes.length / 4) - 1#32 : Word) = header0 at h0 ⊢
  have hwords : eventWords bytes.length ≤ 1048576 ∧ 4 ≤ eventWords bytes.length := by
    simp only [eventWords]
    omega
  have hlimit : (header0 <<< 2).toNat = 4 * (eventWords bytes.length - 1) := by
    rw [BitVec.toNat_shiftLeft, h0, Nat.shiftLeft_eq, Nat.mod_eq_of_lt (by omega)]
    omega
  have hturns : (4 * (eventWords bytes.length - 1) + 4 - 16) / 4 = eventWords bytes.length - 4 := by
    omega
  have hint : header0.toInt = header0.toNat := BitVec.toInt_eq_toNat_of_lt (by omega)
  rw [hint, h0, hlimit, swapWords, hturns, encodeFile]

end

/-! ## The result -/

theorem file2Event_roundtrip (files : String → Option (List Byte)) (fname : String)
    (bytes : List Byte) (buf : Buffer) (utag rocid maxbytes : Word)
    (hfile : files fname = some bytes) (htag : 1 ≤ utag.toNat ∧ utag.toNat ≤ 0xfeff)
    (hroc : rocid.toNat ≤ 0xfeff) (hfits : bytes.length + 16 ≤ maxbytes.toNat)
    (hmax : maxbytes.toNat ≤ 4194304) :
    EncodesFile bytes utag (vtpRocFile2Event files (some fname) buf utag rocid maxbytes).1
      (vtpRocFile2Event files (some fname) buf utag rocid maxbytes).2 := by
  have hsize : bytes.length ≤ 4194288 := by omega
  have htag16 : utag.toNat < 65536 := by omega
  have hroc16 : rocid.toNat < 65536 := by omega
  obtain ⟨h0, h1, h2, h3⟩ :=
    encodeFile_words buf hsize htag16 hroc16
  have hpad : padLen bytes.length < 4 ∧
      padLen bytes.length = 4 * (eventWords bytes.length - 4) - bytes.length := by
    simp only [padLen, eventWords]
    omega
  rw [file2Event_eq hfile htag hfits hmax]
  refine ⟨by rw [h0], h0, h2, ?_, ?_, ?_, encodeFile_decoded hsize htag16 hroc16, ?_⟩
  · apply BitVec.eq_of_toNat_eq
    rw [BitVec.toNat_ushiftRight, Nat.shiftRight_eq_div_pow, h3]
    omega
  · apply BitVec.eq_of_toNat_eq
    have hfield := field_toNat ((encodeFile bytes buf utag rocid).word 3) 8 (k := 6) (by decide)
    rw [h3] at hfield
    have hthree : (65536 * utag.toNat + 16384 * padLen bytes.length + 768) / 2 ^ 8 % 2 ^ 6 = 3 := by
      omega
    exact hfield.trans hthree
  · have hfield := field_toNat ((encodeFile bytes buf utag rocid).word 3) 14 (k := 2) (by decide)
    rw [h3] at hfield
    exact hfield.trans (by omega)
  · have hlen : eventWords bytes.length ≤ 1048576 := by
      rw [eventWords]
      omega
    have hok : userEventOk (encodeFile bytes buf utag rocid).word :=
      userEventOk_of (by omega) (by omega) (by omega) (by omega)
    exact hok

/-- A file of five bytes. -/
theorem file2Event_roundtrip_five :
    let files := fun _ : String => some [0x76#8, 0x74#8, 0x70#8, 0x31#8, 0x0a#8]
    let r := vtpRocFile2Event files (some "vtp1.cnf") ⟨fun _ => 0#8, 0⟩ 7#32 5#32 24#32
    EncodesFile [0x76#8, 0x74#8, 0x70#8, 0x31#8, 0x0a#8] 7#32 r.1 r.2 :=
  file2Event_roundtrip _ "vtp1.cnf" _ ⟨fun _ => 0#8, 0⟩ 7#32 5#32 24#32 rfl (by decide) (by decide)
    (by decide) (by decide)

end VtpStreaming
