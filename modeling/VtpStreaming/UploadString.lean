import VtpStreaming.Clib.CStrings
import VtpStreaming.UploadReadable

/-!
# The text of the configuration in a buffer

`vtp/vtpConfig.c`, `ADD_TO_STRING` and `CLOSE_STRING`: each `sprintf` of
`vtpUploadAll` is appended to the string of the caller while it fits.
`rol/vtp_stream3_1udp_vg.c`, `rocTrigger`, copies the string into a bank.
-/

namespace VtpStreaming

open Clib

/-! ## What is printed at a time -/

def lineItem (l : TextLine) : List Char := l.text ++ ['\n']

/-- The empty line is printed together with the line of the index. -/
def streamingEbItems (inst : Fin 2) (eb : StreamingEbCfg) : List (List Char) :=
  match streamingEbLines inst eb with
  | empty :: link :: ls => (lineItem empty ++ lineItem link) :: ls.map lineItem
  | ls => ls.map lineItem

def fadcStreamingItems (c : FadcStreamingConf) : List (List Char) :=
  [intLine "VTP_STREAMING_ROCID" [c.rocId],
   intLine "VTP_STREAMING_NFRAME_BUF" [c.nframeBuf],
   intLine "VTP_STREAMING_FRAMELEN" [c.frameLen]].map lineItem ++
  (List.finRange 2).flatMap fun inst => streamingEbItems inst (c.eb inst)

section

variable (p : FloatPrinter)

/-- One text for each `sprintf`. -/
def uploadItems (c : VtpConf) : List (List Char) :=
  let type := (c.fwType 0).toInt
  (firmwareLines c ++ everyLines c).map lineItem ++
    (if type = vtpFwTypeFadcstream then fadcStreamingItems c.fadcStreaming
      else (blockLines p type c ++ roadLines type c).map lineItem) ++
    [['\n']]

/-- `vtpUploadAll`, from `if(length)` on. -/
def uploadString (c : VtpConf) (length : Nat) (string : Buffer) : Buffer × Nat :=
  if length ≠ 0 then
    Buffer.addStrings length ((uploadItems p c).map cBytes) (string.set 0 0#8)
  else (string, 0)

/-! ## The bank of the first event -/

/-- `sizeof(str)`. -/
def strSize : Nat := 10000

def bankWord (str : Buffer) (ii : Nat) : Word :=
  ((str.mem (ii * 4 + 0)).setWidth 32 <<< 0) |||
    ((str.mem (ii * 4 + 1)).setWidth 32 <<< 8) |||
    ((str.mem (ii * 4 + 2)).setWidth 32 <<< 16) |||
    ((str.mem (ii * 4 + 3)).setWidth 32 <<< 24)

/-- The string of the first event with its four zeros, and the words of the bank. -/
def configBank (c : VtpConf) (mem : Nat → Byte) : Buffer × List Word :=
  let (str, len) := uploadString p c (strSize - 4) ⟨mem, 0⟩
  let str := (((str.set len 0#8).set (len + 1) 0#8).set (len + 2) 0#8).set (len + 3) 0#8
  (str, (List.range ((len + 3) / 4)).map (bankWord str))

end

/-! ## The listing -/

theorem map_lineItem_flatten (ls : List TextLine) : (ls.map lineItem).flatten = linesText ls := by
  unfold linesText lineItem
  rw [← List.flatMap_def]

theorem streamingEbItems_flatten (inst : Fin 2) (eb : StreamingEbCfg) :
    (streamingEbItems inst eb).flatten = linesText (streamingEbLines inst eb) := by
  unfold streamingEbItems streamingEbLines
  dsimp only
  rw [List.flatten_cons, map_lineItem_flatten]
  rfl

theorem fadcStreamingItems_flatten (c : FadcStreamingConf) :
    (fadcStreamingItems c).flatten = linesText (fadcStreamingLines c) := by
  have hloop : ∀ insts : List (Fin 2),
      (insts.flatMap fun inst => streamingEbItems inst (c.eb inst)).flatten =
        linesText (insts.flatMap fun inst => streamingEbLines inst (c.eb inst)) := by
    intro insts
    induction insts with
    | nil => rfl
    | cons inst insts ih =>
      rw [List.flatMap_cons, List.flatMap_cons, List.flatten_append, linesText_append, ih,
        streamingEbItems_flatten]
  unfold fadcStreamingItems fadcStreamingLines
  rw [List.flatten_append, linesText_append, hloop, map_lineItem_flatten]

/-- All items together are the text that is not cut. -/
theorem uploadItems_flatten (p : FloatPrinter) (c : VtpConf) :
    (uploadItems p c).flatten = uploadText p c := by
  have hblock : (if (c.fwType 0).toInt = vtpFwTypeFadcstream then fadcStreamingItems c.fadcStreaming
      else (blockLines p (c.fwType 0).toInt c ++ roadLines (c.fwType 0).toInt c).map
        lineItem).flatten =
      linesText (blockLines p (c.fwType 0).toInt c ++ roadLines (c.fwType 0).toInt c) := by
    split
    · next htype =>
      have hmem : (vtpFwTypeFadcstream, fadcStreamingLines c.fadcStreaming) ∈ textBlocks p c := by
        simp [textBlocks]
      have hroad : roadLines vtpFwTypeFadcstream c = [] := if_neg (by decide)
      rw [htype, blockLines_eq p hmem, hroad, List.append_nil, fadcStreamingItems_flatten]
    · exact map_lineItem_flatten _
  unfold uploadItems uploadText settingLines
  dsimp only
  rw [List.flatten_append, List.flatten_append, hblock, map_lineItem_flatten]
  simp only [linesText_append, List.append_assoc]
  rfl

/-! ## The words of the bank -/

theorem or_bytes (x y z w : Byte) :
    ((x.setWidth 32 <<< 0) ||| (y.setWidth 32 <<< 8) ||| (z.setWidth 32 <<< 16) |||
      (w.setWidth 32 <<< 24) : Word) = BitVec.ofNat 32 (ofLe [x, y, z, w]) := by
  have happend : ((x.setWidth 32 <<< 0) ||| (y.setWidth 32 <<< 8) ||| (z.setWidth 32 <<< 16) |||
      (w.setWidth 32 <<< 24) : Word) = (w ++ z ++ y ++ x : BitVec 32) := by
    apply BitVec.eq_of_getLsbD_eq
    intro i hi
    simp only [BitVec.getLsbD_or, BitVec.getLsbD_shiftLeft, BitVec.getLsbD_setWidth,
      BitVec.getLsbD_append]
    grind
  rw [happend]
  apply BitVec.eq_of_toNat_eq
  have hx := x.isLt
  have hy := y.isLt
  have hz := z.isLt
  have hw := w.isLt
  simp only [BitVec.toNat_append, BitVec.toNat_ofNat, ofLe]
  rw [← Nat.shiftLeft_add_eq_or_of_lt hz, ← Nat.shiftLeft_add_eq_or_of_lt hy,
    ← Nat.shiftLeft_add_eq_or_of_lt hx]
  simp only [Nat.shiftLeft_eq]
  omega

theorem bankWord_eq (str : Buffer) (ii : Nat) : bankWord str ii = str.word ii := by
  have hblock : str.block (4 * ii) 4 =
      [str.mem (ii * 4 + 0), str.mem (ii * 4 + 1), str.mem (ii * 4 + 2), str.mem (ii * 4 + 3)] := by
    rw [Nat.mul_comm 4 ii]
    rfl
  unfold bankWord Buffer.word
  rw [or_bytes, hblock]

/-! ## The string and its bank -/

section Bounded

variable {p : FloatPrinter} {c : VtpConf} {length : Nat} {b : Buffer}

/-- The items as the string takes them. -/
def itemBytes (p : FloatPrinter) (c : VtpConf) : List (List Byte) := (uploadItems p c).map cBytes

/-- What a call leaves: a string that ends inside the buffer, as long as it says, of
as many items as fit. -/
structure BoundedUpload (p : FloatPrinter) (c : VtpConf) (length : Nat) (b : Buffer)
    (out : Buffer × Nat) : Prop where
  strlen : out.1.strlen = out.2
  ended : out.1.mem out.2 = 0#8
  short : out.2 < length
  listing : ∃ k ≤ (itemBytes p c).length,
    out.1.block 0 out.2 = ((itemBytes p c).take k).flatten ∧
      ∀ m ≤ (itemBytes p c).length, ((itemBytes p c).take m).flatten.length < length → m ≤ k
  outside : ∀ j, length ≤ j → out.1.mem j = b.mem j
  top : out.1.top ≤ max b.top length

theorem uploadString_bounded (p : FloatPrinter) (c : VtpConf) (b : Buffer) (hlength : 0 < length) :
    BoundedUpload p c length b (uploadString p c length b) := by
  have hsolid : ∀ t ∈ itemBytes p c, 0#8 ∉ t := by
    unfold itemBytes
    rw [List.forall_mem_map]
    exact fun s _ => cBytes_solid s
  obtain ⟨k, hk, hfit⟩ := Buffer.addStrings_fitted (Buffer.holds_nil b) hlength hsolid
  have hrun : uploadString p c length b =
      Buffer.addStrings length (itemBytes p c) (b.set 0 0#8) :=
    if_pos (Nat.pos_iff_ne_zero.mp hlength)
  rw [← hrun] at hfit
  have hholds := hfit.holds
  have hlen := hfit.len
  rw [List.nil_append] at hholds hlen
  refine ⟨?_, ?_, hfit.fits, ⟨k, hk, ?_, hfit.longest⟩, fun j hj => ?_, ?_⟩
  · rw [hholds.strlen_eq, hlen]
  · rw [hlen]
    exact hholds.ended
  · rw [hlen]
    exact hholds.bytes
  · rw [hfit.outside j hj]
    exact Buffer.set_mem_ne (by omega)
  · have htop := hfit.top
    have hset : (b.set 0 0#8).top = max b.top 1 := rfl
    rw [hset] at htop
    omega

/-- The bank of the first event: every index is one of `str`, and the bytes of the words
are the string, filled up with zeros. -/
structure BoundedBank (p : FloatPrinter) (c : VtpConf) (mem : Nat → Byte) : Prop where
  writes : (configBank p c mem).1.top ≤ strSize
  reads : ∀ ii < (configBank p c mem).2.length, ii * 4 + 3 < strSize
  text : let out := uploadString p c (strSize - 4) ⟨mem, 0⟩
    ∃ pad < 4, ((configBank p c mem).2.flatMap fun w => leBytes 4 w.toNat) =
      out.1.block 0 out.2 ++ List.replicate pad 0#8

theorem configBank_bounded (p : FloatPrinter) (c : VtpConf) (mem : Nat → Byte) :
    BoundedBank p c mem := by
  have hsize : strSize - 4 = 9996 := rfl
  obtain ⟨-, -, hshort, -, -, htop⟩ := @uploadString_bounded (strSize - 4) p c ⟨mem, 0⟩ (by decide)
  generalize hout : uploadString p c (strSize - 4) ⟨mem, 0⟩ = out at hshort htop
  obtain ⟨str, len⟩ := out
  dsimp only at hshort htop
  -- the four bytes of the padding, of which the words take less than four
  have hzeros : (((str.set len 0#8).set (len + 1) 0#8).set (len + 2) 0#8).set (len + 3) 0#8 =
      str.setAll len (List.replicate 4 0#8) := rfl
  have hbank : configBank p c mem = (str.setAll len (List.replicate 4 0#8),
      (List.range ((len + 3) / 4)).map (str.setAll len (List.replicate 4 0#8)).word) := by
    unfold configBank
    rw [hout]
    dsimp only
    rw [hzeros]
    exact congrArg _ (List.map_congr_left fun ii _ => bankWord_eq _ ii)
  refine ⟨?_, ?_, 4 * ((len + 3) / 4) - len, by omega, ?_⟩
  · rw [hbank]
    dsimp only
    rw [Buffer.setAll_top, if_neg (by decide), List.length_replicate]
    show max str.top (len + 4) ≤ 10000
    omega
  · rw [hbank]
    intro ii hii
    simp only [List.length_map, List.length_range] at hii
    show ii * 4 + 3 < 10000
    omega
  · have hsplit : 4 * ((len + 3) / 4) = len + (4 * ((len + 3) / 4) - len) := by omega
    have hpad : 4 * ((len + 3) / 4) - len ≤ 4 := by omega
    rw [hbank, hout]
    dsimp only
    rw [List.flatMap_map]
    simp only [Buffer.leBytes_word]
    have hwords := Buffer.flatMap_block (str.setAll len (List.replicate 4 0#8)) 0 ((len + 3) / 4)
    simp only [Nat.zero_add] at hwords
    generalize 4 * ((len + 3) / 4) - len = pad at hsplit hpad ⊢
    have hstored := Buffer.block_setAll str len (List.replicate 4 0#8)
    have hzero : (str.setAll len (List.replicate 4 0#8)).block len pad =
        List.replicate pad 0#8 := by
      -- the zeros that are read are the first of those that were stored
      generalize str.setAll len (List.replicate 4 0#8) = zeroed at hstored ⊢
      rw [List.length_replicate, show 4 = pad + (4 - pad) by omega, Buffer.block_append,
        List.replicate_add] at hstored
      exact (List.append_inj hstored (by simp)).1
    rw [hwords, hsplit, Buffer.block_append, Nat.zero_add,
      Buffer.block_setAll_outside (by omega), hzero]

/-- Whatever the configuration is, the text is cut between two items, at the last place
where it fits, and the bank of the first event holds it. -/
theorem upload_string_spec (p : FloatPrinter) (c : VtpConf) :
    (uploadItems p c).flatten = uploadText p c ∧
      (∀ length, 0 < length → ∀ b, BoundedUpload p c length b (uploadString p c length b)) ∧
      ∀ mem, BoundedBank p c mem :=
  ⟨uploadItems_flatten p c, fun _ hlength b => uploadString_bounded p c b hlength,
    configBank_bounded p c⟩

theorem upload_string_spec_zero :
    BoundedUpload zeroPrinter default 100 ⟨fun _ => 0#8, 0⟩
        (uploadString zeroPrinter default 100 ⟨fun _ => 0#8, 0⟩) ∧
      BoundedBank zeroPrinter default fun _ => 0#8 :=
  ⟨(upload_string_spec zeroPrinter default).2.1 100 (by decide) _,
    (upload_string_spec zeroPrinter default).2.2 _⟩

end Bounded

end VtpStreaming
