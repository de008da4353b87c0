import VtpStreaming.Clib.BusProg
import VtpStreaming.VtpLib

/-!
# Asynchronous events of the VTP ROC

`vtp/vtpRocLib.c`, `vtpRocEvioWriteControl` and `vtpRocEvioWriteUserEvent`, as
programs that access the ROC registers. Control events have 15 words. A user
event is the user's bank behind 10 header words; one that does not fit the data
FIFO as a whole is written in bursts, each as long as the FIFO status allows.
-/

namespace VtpStreaming

open Clib

/-- The registers that the two routines read. -/
inductive RocReg
  | cpuAsyncEventStatus
  | rocID

/-- What they write, the library mutex included. -/
inductive RocPort
  | vlock
  | vunlock
  | cpuAsyncEventLen
  | cpuAsyncEventData
deriving DecidableEq

/-- The points of a long user event that look at the FIFO status: on entry, and
twice in each round of the `do` loop. -/
inductive FlowPoint
  | entryPoll (buf : Nat → Word)
  | checkFull (buf : Nat → Word) (jj : Nat) (rem : Word)
  | takeAvail (buf : Nat → Word) (jj : Nat) (rem : Word)

abbrev RocProg := BusProg RocReg RocPort FlowPoint

def vtpRocDataFifoDepth : Word := 512#32
def vtpRocDataFifoFull : Word := 0x80000000#32

/-- The mask that both routines put on the FIFO status. -/
def fifoLevelMask : Word := 0x2ff#32

/-! ## Control events -/

/-- A cMsg header, an EVIO block header and the control event. -/
def controlWords (type rocid val0 val1 : Word) : List Word :=
  [if type = 0xffd4#32 then 3#32 else 1#32, 13#32 <<< 2,
    13#32, 0xffffffff#32, 8#32, 1#32, rocid, 0x1400#32 ||| 0x200#32 ||| 4#32, 0#32, 0xc0da0100#32,
    4#32, (type <<< 16) ||| (1#32 <<< 8) ||| 0#32, 1200#32, val0, val1]

def vtpRocEvioWriteControl (lib : VtpLib) (type val0 val1 : Word) : RocProg :=
  if !lib.ready zyncFwTypeZcodaroc 1 then .ret error
  else .read .cpuAsyncEventStatus fun status =>
    if 0 < (status &&& fifoLevelMask).toNat then .ret error
    else
      .write .vlock 0 <| .read .rocID fun rocid =>
      .writeAll .cpuAsyncEventData (controlWords type rocid val0 val1) <|
      .write .cpuAsyncEventLen 15#32 <| .write .vunlock 0 <| .ret ok

/-! ## User events -/

def maxwds : Word := 1024#32 * 1024#32

/-- The total length of the user's bank. -/
def blen (buf : Nat → Word) : Word := buf 0 + 1#32

/-- The bank with its EVIO block header. -/
def totalLen (buf : Nat → Word) : Word := blen buf + 8#32

/-- The checks on the user's bank: its length, tag, data type and number. -/
def userEventOk (buf : Nat → Word) : Bool :=
  let tag := (buf 1 &&& 0xffff0000#32) >>> 16
  let dt := (buf 1 &&& 0xff00#32) >>> 8
  let num := buf 1 &&& 0xff#32
  (blen buf).toNat ≤ maxwds.toNat && tag.toNat < 0xff00 &&
    !((dt &&& 0x3f#32).toNat > 0x10 && (dt &&& 0x3f#32).toNat != 0x20) && num.toNat == 0

/-- The words before the user's bank: a cMsg header and an EVIO block header. -/
def userHeader (buf : Nat → Word) (rocid : Word) : List Word :=
  [1#32, totalLen buf <<< 2,
    totalLen buf, 0xffffffff#32, 8#32, 1#32, rocid, 0x1000#32 ||| 0x200#32 ||| 4#32, 0#32,
    0xc0da0100#32]

/-- The words `buf[jj]`, `buf[jj+1]`, up to `n` of them. -/
def bufWords (buf : Nat → Word) (jj n : Nat) : List Word :=
  (List.range n).map fun ii => buf (jj + ii)

def vtpRocEvioWriteUserEvent (lib : VtpLib) (buf : Nat → Word) : RocProg :=
  if !lib.ready zyncFwTypeZcodaroc 1 then .ret error
  else if !userEventOk buf then .ret error
  else .write .vlock 0 <|
    if vtpRocDataFifoDepth.toNat < (totalLen buf + 2#32).toNat then
      .loop (.entryPoll buf)
    else
      .read .rocID fun rocid =>
      .write .cpuAsyncEventLen (totalLen buf + 2#32) <|
      .writeAll .cpuAsyncEventData (userHeader buf rocid) <|
      -- "just blast it in"
      .writeAll .cpuAsyncEventData ((blen buf - 1#32) :: bufWords buf 1 ((blen buf).toNat - 1)) <|
      .write .vunlock 0 <| .ret ok

/-- The words that one burst may write: what the masked status leaves free, and
no more than what remains. -/
def burstLen (status rem : Word) : Word :=
  let avail := vtpRocDataFifoDepth - (status &&& fifoLevelMask)
  if rem.toNat < avail.toNat then rem else avail

/-- A burst of `avail` words, and the end of the round. -/
def burst (buf : Nat → Word) (jj : Nat) (rem avail : Word) : RocProg :=
  .writeAll .cpuAsyncEventData (bufWords buf jj avail.toNat) <|
  if 0 < (rem - avail).toNat then .loop (.checkFull buf (jj + avail.toNat) (rem - avail))
  else .write .vunlock 0 <| .ret ok

/-- What follows each look at the FIFO status. -/
def flowBody : FlowPoint → RocProg
  | .entryPoll buf =>
      .read .cpuAsyncEventStatus fun status =>
      if vtpRocDataFifoDepth.toNat - 12 < (status &&& fifoLevelMask).toNat then
        .write .vunlock 0 <| .ret error
      else
        .read .rocID fun rocid =>
        .write .cpuAsyncEventLen (totalLen buf + 2#32) <|
        .writeAll .cpuAsyncEventData (userHeader buf rocid) <|
        .writeAll .cpuAsyncEventData [blen buf - 1#32] <|
        .loop (.checkFull buf 1 (totalLen buf + 2#32 - 10#32 - 1#32))
  | .checkFull buf jj rem =>
      .read .cpuAsyncEventStatus fun status =>
      if status &&& vtpRocDataFifoFull ≠ 0 then
        .write .vunlock 0 <| .ret error
      else .loop (.takeAvail buf jj rem)
  | .takeAvail buf jj rem =>
      .read .cpuAsyncEventStatus fun status => burst buf jj rem (burstLen status rem)

/-- A call of one of the two routines. -/
inductive RocCall
  | control (type val0 val1 : Word)
  | user (buf : Nat → Word)

def RocCall.entry (lib : VtpLib) : RocCall → RocProg
  | .control type val0 val1 => vtpRocEvioWriteControl lib type val0 val1
  | .user buf => vtpRocEvioWriteUserEvent lib buf

/-! ## Example values -/

/-- The library on a ROC: firmware mapped, chip 1 runs the ROC firmware. -/
def rocLib : VtpLib := { mapped := true, fwType := fun c => if c = 1 then 2 else 14 }

/-- A user bank of `n` words after its length word, with tag 1. -/
def userBank (n : Nat) : Nat → Word
  | 0 => BitVec.ofNat 32 n
  | 1 => 0x00010100#32
  | _ => 0#32

/-! ## Fields of a bank header -/

/-- A field of `k` bits at bit `s`. -/
theorem field_toNat (w : Word) (s : Nat) {k : Nat} (hk : k < 32) :
    ((w >>> s) &&& BitVec.ofNat 32 (2 ^ k - 1)).toNat = w.toNat / 2 ^ s % 2 ^ k := by
  have hpow : 2 ^ k < 2 ^ 32 := Nat.pow_lt_pow_right (by decide) hk
  rw [BitVec.toNat_and, BitVec.toNat_ushiftRight, Nat.shiftRight_eq_div_pow, BitVec.toNat_ofNat,
    Nat.mod_eq_of_lt (by omega)]
  exact Nat.and_two_pow_sub_one_eq_mod _ k

theorem tag_toNat (w : Word) : ((w &&& 0xffff0000#32) >>> 16).toNat = w.toNat / 65536 := by
  have hw := w.isLt
  have hmask := Nat.and_two_pow_sub_one_eq_mod (w.toNat / 2 ^ 16) 16
  rw [BitVec.ushiftRight_and_distrib, BitVec.toNat_and, BitVec.toNat_ushiftRight,
    Nat.shiftRight_eq_div_pow]
  show w.toNat / 2 ^ 16 &&& (2 ^ 16 - 1) = w.toNat / 65536
  omega

theorem dataType_toNat (w : Word) : ((w &&& 0xff00#32) >>> 8).toNat = w.toNat / 256 % 256 := by
  rw [BitVec.ushiftRight_and_distrib, BitVec.toNat_and, BitVec.toNat_ushiftRight,
    Nat.shiftRight_eq_div_pow]
  exact Nat.and_two_pow_sub_one_eq_mod (w.toNat / 2 ^ 8) 8

theorem num_toNat (w : Word) : (w &&& 0xff#32).toNat = w.toNat % 256 :=
  Nat.and_two_pow_sub_one_eq_mod w.toNat 8

/-- A 16-bit tag over the rest of the word. -/
theorem tagged_toNat {tag low : Word} (htag : tag.toNat < 65536) (hlow : low.toNat < 65536) :
    ((tag <<< 16) ||| low).toNat = 65536 * tag.toNat + low.toNat := by
  have hlow' : low.toNat < 2 ^ 16 := hlow
  have hor := Nat.two_pow_add_eq_or_of_lt hlow' tag.toNat
  rw [BitVec.toNat_or, BitVec.toNat_shiftLeft, Nat.shiftLeft_eq,
    Nat.mod_eq_of_lt (by omega), Nat.mul_comm, ← hor]

/-- The checks in terms of the two words. -/
theorem userEventOk_of {buf : Nat → Word} (hlen : (buf 0).toNat < 1048576)
    (htag : (buf 1).toNat / 65536 < 0xff00) (htype : (buf 1).toNat / 256 % 64 ≤ 0x10)
    (hnum : (buf 1).toNat % 256 = 0) : userEventOk buf := by
  have hblen : (blen buf).toNat = (buf 0).toNat + 1 := by
    rw [blen, BitVec.toNat_add]
    exact Nat.mod_eq_of_lt (by simp; omega)
  have hdt : (((buf 1 &&& 0xff00#32) >>> 8) &&& 0x3f#32).toNat = (buf 1).toNat / 256 % 64 := by
    have hmask := Nat.and_two_pow_sub_one_eq_mod ((buf 1).toNat / 256 % 256) 6
    rw [BitVec.toNat_and, dataType_toNat]
    show (buf 1).toNat / 256 % 256 &&& (2 ^ 6 - 1) = (buf 1).toNat / 256 % 64
    omega
  simp only [userEventOk, tag_toNat, num_toNat, hdt, hblen, Bool.and_eq_true, decide_eq_true_eq,
    Bool.not_eq_true', Bool.and_eq_false_iff, decide_eq_false_iff_not, beq_iff_eq]
  refine ⟨⟨⟨?_, htag⟩, Or.inl (by omega)⟩, hnum⟩
  show (buf 0).toNat + 1 ≤ 1048576
  omega

/-! ## Lengths -/

/-- `buf[0] + 1` is 0 for the largest word, and the length of the bank
otherwise. -/
theorem blen_toNat (buf : Nat → Word) :
    (blen buf).toNat = if buf 0 = 0xffffffff#32 then 0 else (buf 0).toNat + 1 := by
  have hlt := (buf 0).isLt
  split
  · next h => rw [blen, h]; rfl
  · next h =>
    have hne : (buf 0).toNat ≠ 0xffffffff := fun heq => h (BitVec.eq_of_toNat_eq heq)
    rw [blen, BitVec.toNat_add]
    exact Nat.mod_eq_of_lt (by simp; omega)

theorem blen_sub_one (buf : Nat → Word) : blen buf - 1#32 = buf 0 := by
  rw [blen, BitVec.add_sub_cancel]

theorem blen_le {buf : Nat → Word} (h : userEventOk buf) : (blen buf).toNat ≤ 1048576 := by
  simp only [userEventOk, Bool.and_eq_true, decide_eq_true_eq] at h
  exact h.1.1.1

/-- The length check keeps the sums below 2^32. -/
theorem totalLen_toNat {buf : Nat → Word} (h : userEventOk buf) :
    (totalLen buf).toNat = (blen buf).toNat + 8 := by
  have hb := blen_le h
  rw [totalLen, BitVec.toNat_add]
  exact Nat.mod_eq_of_lt (by simp; omega)

theorem totalLen_add_two {buf : Nat → Word} (h : userEventOk buf) :
    (totalLen buf + 2#32).toNat = (blen buf).toNat + 10 := by
  have hb := blen_le h
  have ht := totalLen_toNat h
  rw [BitVec.toNat_add, ht]
  exact Nat.mod_eq_of_lt (by simp; omega)

/-- What remains when a long event has its header and its length word out. -/
theorem remaining_toNat {buf : Nat → Word} (h : userEventOk buf) (hlen : 1 ≤ (blen buf).toNat) :
    (totalLen buf + 2#32 - 10#32 - 1#32).toNat = (blen buf).toNat - 1 := by
  have hsum := totalLen_add_two h
  have hten : (10#32 : Word) ≤ totalLen buf + 2#32 := by
    rw [BitVec.le_def, hsum]
    exact Nat.le_add_left 10 _
  have hrest : (totalLen buf + 2#32 - 10#32).toNat = (blen buf).toNat := by
    rw [BitVec.toNat_sub_of_le hten, hsum]
    rfl
  have hone : (1#32 : Word) ≤ totalLen buf + 2#32 - 10#32 := by
    rw [BitVec.le_def, hrest]
    exact hlen
  rw [BitVec.toNat_sub_of_le hone, hrest]
  rfl

@[simp] theorem bufWords_length (buf : Nat → Word) (jj n : Nat) :
    (bufWords buf jj n).length = n := by
  simp [bufWords]

@[simp] theorem userHeader_length (buf : Nat → Word) (rocid : Word) :
    (userHeader buf rocid).length = 10 := rfl

theorem bufWords_append (buf : Nat → Word) (jj m n : Nat) :
    bufWords buf jj m ++ bufWords buf (jj + m) n = bufWords buf jj (m + n) := by
  simp only [bufWords, List.range_add, List.map_append, List.map_map, Function.comp_def,
    Nat.add_assoc]

theorem burstLen_le (status rem : Word) : (burstLen status rem).toNat ≤ rem.toNat := by
  simp only [burstLen]
  split <;> omega

end VtpStreaming
