import VtpStreaming.Clib.BusProg
import VtpStreaming.Clib.Traced
import Mathlib.Tactic.IntervalCases

/-!
# The crate message server

`DiagGui/CrateMsgServer.c`, `CrateMsgTypes.h` and `DiagGuiServer.c`, on a
little-endian server. A client sends a word that tells its byte order, and then
messages of a length, a type and a payload. The thread reads the payload into a union
of commands and responses, swaps the fields where the command's function does so, and
hands the command to a callback, whose response goes back from the same union. Sends
succeed.
-/

namespace VtpStreaming

open Clib

/-! ## CrateMsgTypes.h -/

/-- `DW_SWAP`. -/
def dwSwap (v : Word) : Word :=
  ((v &&& 0x000000ff#32) <<< 24) ||| ((v &&& 0x0000ff00#32) <<< 8) |||
    ((v &&& 0x00ff0000#32) >>> 8) ||| ((v &&& 0xff000000#32) >>> 24)

/-- `HW_SWAP`. -/
def hwSwap (v : BitVec 16) : BitVec 16 := ((v >>> 8) &&& 0x00ff#16) ||| ((v <<< 8) &&& 0xff00#16)

/-- `CRATEMSG_HDR_ID`. -/
def crateMsgHdrId : Word := 0x12345678#32

/-- `DW_SWAP` turns the bytes round. -/
theorem leBytes_dwSwap (v : Word) : leBytes 4 (dwSwap v).toNat = (leBytes 4 v.toNat).reverse := by
  have hbyte : ∀ k < 4, (dwSwap v).extractLsb' (8 * k) 8 = v.extractLsb' (8 * (3 - k)) 8 := by
    intro k hk
    apply BitVec.eq_of_getLsbD_eq
    intro i hi
    interval_cases k <;> interval_cases i <;> simp [dwSwap]
  apply List.ext_getElem
  · simp
  intro k hk hk'
  rw [leBytes_length] at hk
  rw [List.getElem_reverse, leBytes_getElem, leBytes_getElem, hbyte k hk]
  simp

theorem leBytes_hwSwap (v : BitVec 16) :
    leBytes 2 (hwSwap v).toNat = (leBytes 2 v.toNat).reverse := by
  have hbyte : ∀ k < 2, (hwSwap v).extractLsb' (8 * k) 8 = v.extractLsb' (8 * (1 - k)) 8 := by
    intro k hk
    apply BitVec.eq_of_getLsbD_eq
    intro i hi
    interval_cases k <;> interval_cases i <;> simp [hwSwap]
  apply List.ext_getElem
  · simp
  intro k hk hk'
  rw [leBytes_length] at hk
  rw [List.getElem_reverse, leBytes_getElem, leBytes_getElem, hbyte k hk]
  simp

/-- `MAX_MSG_SIZE`. -/
def maxMsgSize : Nat := 40000

/-- `CMD_RSP`. -/
def cmdRsp (cmd : Word) : Word := cmd ||| 0x80000000#32

inductive MsgType
  | read16
  | write16
  | read32
  | write32
  | delay
  | readBoard
  | getCrateMap
  | getBoardParams
  | getChannelParams
  | setChannelParams
  | dataReadBoard
deriving DecidableEq

/-- `CRATEMSG_TYPE_*`, `SCALER_SERVER_*` and `DATA_SERVER_READ_BOARD`. -/
def MsgType.code : MsgType → Word
  | .read16 => 0x01#32
  | .write16 => 0x02#32
  | .read32 => 0x03#32
  | .write32 => 0x04#32
  | .delay => 0x05#32
  | .readBoard => 0x100#32
  | .getCrateMap => 0x101#32
  | .getBoardParams => 0x102#32
  | .getChannelParams => 0x103#32
  | .setChannelParams => 0x104#32
  | .dataReadBoard => 0x105#32

/-- The number of `int`s that a command begins with:
`cnt, addr, flags` to read and write, `ms` to wait, `cnt, slot` for the scalers and the
data of a board, `cnt` for the map, `slot, partype` for a board,
`slot, channel, partype` for a channel, and `cnt` as well to set one. -/
def MsgType.ints : MsgType → Nat
  | .read16 | .write16 | .read32 | .write32 => 3
  | .delay => 1
  | .readBoard | .dataReadBoard => 2
  | .getCrateMap => 1
  | .getBoardParams => 2
  | .getChannelParams => 3
  | .setChannelParams => 4

/-- The array `vals` of a command: the `int` that counts its elements, the bytes of an
element and the elements declared. -/
structure ValsArray where
  cntAt : Nat
  width : Nat
  declared : Nat

def MsgType.vals : MsgType → Option ValsArray
  | .write16 => some ⟨0, 2, 20000⟩
  | .write32 => some ⟨0, 4, 10000⟩
  | .setChannelParams => some ⟨3, 4, 10000⟩
  | _ => none

/-- `sizeof` of the response of a command. -/
def MsgType.rspSize : MsgType → Nat
  | .getCrateMap => 40008
  | _ => 40004

/-- `sizeof` of the union, whose largest member is `Cmd_SetChannelParams`. -/
def msgUnionSize : Nat := 40016

/-! ## Commands in memory -/

/-- What a callback finds in its command. -/
structure Cmd where
  ints : List Word
  vals : List Word
deriving DecidableEq

/-- The `i`-th `int` of a command. -/
def Cmd.int (c : Cmd) (i : Nat) : Word := c.ints.getD i 0

def wordOf (bs : List Byte) : Word := BitVec.ofNat 32 (ofLe bs)

/-- `int` number `i`. -/
def intSlot (i : Nat) : Slot := ⟨4 * i, 4, 4 * i + 4⟩

def intSlots (n : Nat) : List Slot := (List.range n).map intSlot

/-- `vals[i]` behind `n` `int`s. -/
def valSlot (n : Nat) (a : ValsArray) (i : Nat) : Slot :=
  ⟨4 * n + a.width * i, a.width, 4 * n + a.width * a.declared⟩

def valSlots (n : Nat) (a : ValsArray) (k : Nat) : List Slot := (List.range k).map (valSlot n a)

/-- A callback reads the `int`s of its command, and `vals` in a `while (cnt--)`. -/
def readCmd (t : MsgType) (m : Traced) : Cmd × Traced :=
  let (ints, m) := m.loadAll (intSlots t.ints)
  match t.vals with
  | none => (⟨ints.map wordOf, []⟩, m)
  | some a =>
    let cnt := (ints.map wordOf).getD a.cntAt 0
    let (vals, m) := m.loadAll (valSlots t.ints a cnt.toNat)
    (⟨ints.map wordOf, vals.map wordOf⟩, m)

/-! ## Callbacks -/

/-- A callback with a response: what it returns, and the bytes of the response. -/
abbrev ReadCallback (δ : Type) := Cmd → δ → Word × List Byte × δ

/-- A callback without one. -/
abbrev WriteCallback (δ : Type) := Cmd → δ → Word × δ

/-- `ServerCBFunctions`, over the state `δ` of the boards. -/
structure ServerCBFunctions (δ : Type) where
  read16 : Option (ReadCallback δ)
  write16 : Option (WriteCallback δ)
  read32 : Option (ReadCallback δ)
  write32 : Option (WriteCallback δ)
  delay : Option (WriteCallback δ)
  readScalers : Option (ReadCallback δ)
  readData : Option (ReadCallback δ)
  getCrateMap : Option (ReadCallback δ)
  getBoardParams : Option (ReadCallback δ)
  getChannelParams : Option (ReadCallback δ)
  setChannelParams : Option (WriteCallback δ)

/-- What a client and the boards see of a connection. -/
inductive CrateEvent
  | hello (val : Word)
  | command (t : MsgType) (c : Cmd)
  | reply (bytes : List Byte)
deriving DecidableEq

/-- What the handling of a message comes to. -/
structure Handled (δ : Type) where
  result : Word
  events : List CrateEvent
  msg : Traced
  dev : δ

variable {δ : Type}

def callRead (t : MsgType) (cb : Option (ReadCallback δ)) (m : Traced) (dev : δ) : Handled δ :=
  match cb with
  | none => ⟨0, [], m, dev⟩
  | some f =>
    let (c, m) := readCmd t m
    let (result, rsp, dev) := f c dev
    ⟨result, [.command t c], m.store 0 rsp t.rspSize, dev⟩

def callWrite (t : MsgType) (cb : Option (WriteCallback δ)) (m : Traced) (dev : δ) : Handled δ :=
  match cb with
  | none => ⟨0, [], m, dev⟩
  | some f =>
    let (c, m) := readCmd t m
    let (result, dev) := f c dev
    ⟨result, [.command t c], m, dev⟩

/-- The callers that `return 0` whatever the callback says. -/
def Handled.returnZero (h : Handled δ) : Handled δ := { h with result := 0 }

/-! ## CrateMsg_* -/

/-- `DW_SWAP` of the `int` in these bytes. -/
def dwSwapBytes (bs : List Byte) : List Byte := leBytes 4 (dwSwap (wordOf bs)).toNat

/-- `HW_SWAP` of the `short` in these bytes. -/
def hwSwapBytes (bs : List Byte) : List Byte :=
  leBytes 2 (hwSwap (BitVec.ofNat 16 (ofLe bs))).toNat

/-- `x = DW_SWAP(x)` for the first `n` `int`s. -/
def swapInts (n : Nat) (m : Traced) : Traced := m.updateAll dwSwapBytes (intSlots n)

/-- The passes of `for(i = cnt-1; i >= 0; i--)`. The subtraction wraps. -/
def downCount (cnt : Word) : Nat := ((cnt - 1).toInt + 1).toNat

/-- `vals[i] = SWAP(vals[i])` from the last element to the first. -/
def swapVals (f : List Byte → List Byte) (n : Nat) (a : ValsArray) (m : Traced) : Traced :=
  let (cnt, m) := m.load (intSlot a.cntAt)
  m.updateAll f (valSlots n a (downCount (wordOf cnt))).reverse

section Handlers

variable (cb : ServerCBFunctions δ) (swap : Bool) (m : Traced) (dev : δ)

def crateMsgRead16 : Handled δ :=
  let m := if swap then swapInts 3 m else m
  callRead .read16 cb.read16 m dev

def crateMsgWrite16 : Handled δ :=
  let m := if swap then swapVals hwSwapBytes 3 ⟨0, 2, 20000⟩ (swapInts 3 m) else m
  (callWrite .write16 cb.write16 m dev).returnZero

def crateMsgRead32 : Handled δ :=
  let m := if swap then swapInts 3 m else m
  callRead .read32 cb.read32 m dev

def crateMsgWrite32 : Handled δ :=
  let m := if swap then swapVals dwSwapBytes 3 ⟨0, 4, 10000⟩ (swapInts 3 m) else m
  (callWrite .write32 cb.write32 m dev).returnZero

def crateMsgDelay : Handled δ :=
  let m := if swap then swapInts 1 m else m
  (callWrite .delay cb.delay m dev).returnZero

-- The functions below take `swap` and do not look at it.

def crateMsgReadScalers (_swap : Bool) : Handled δ := callRead .readBoard cb.readScalers m dev

def crateMsgReadData (_swap : Bool) : Handled δ := callRead .dataReadBoard cb.readData m dev

def crateMsgGetCrateMap (_swap : Bool) : Handled δ := callRead .getCrateMap cb.getCrateMap m dev

def crateMsgGetBoardParams (_swap : Bool) : Handled δ :=
  callRead .getBoardParams cb.getBoardParams m dev

def crateMsgGetChannelParams (_swap : Bool) : Handled δ :=
  callRead .getChannelParams cb.getChannelParams m dev

def crateMsgSetChannelParams (_swap : Bool) : Handled δ :=
  callWrite .setChannelParams cb.setChannelParams m dev

/-- The `if` chain of `ConnectionThread` over the type of a message. -/
def dispatch (type : Word) : Option (Handled δ) :=
  if type = MsgType.read16.code then some (crateMsgRead16 cb swap m dev)
  else if type = MsgType.write16.code then some (crateMsgWrite16 cb swap m dev)
  else if type = MsgType.read32.code then some (crateMsgRead32 cb swap m dev)
  else if type = MsgType.write32.code then some (crateMsgWrite32 cb swap m dev)
  else if type = MsgType.delay.code then some (crateMsgDelay cb swap m dev)
  else if type = MsgType.readBoard.code then some (crateMsgReadScalers cb m dev swap)
  else if type = MsgType.getCrateMap.code then some (crateMsgGetCrateMap cb m dev swap)
  else if type = MsgType.getBoardParams.code then some (crateMsgGetBoardParams cb m dev swap)
  else if type = MsgType.getChannelParams.code then some (crateMsgGetChannelParams cb m dev swap)
  else if type = MsgType.setChannelParams.code then some (crateMsgSetChannelParams cb m dev swap)
  else if type = MsgType.dataReadBoard.code then some (crateMsgReadData cb m dev swap)
  else none

end Handlers

/-- The function that a type is dispatched to. -/
def MsgType.handle (cb : ServerCBFunctions δ) (swap : Bool) (m : Traced) (dev : δ) :
    MsgType → Handled δ
  | .read16 => crateMsgRead16 cb swap m dev
  | .write16 => crateMsgWrite16 cb swap m dev
  | .read32 => crateMsgRead32 cb swap m dev
  | .write32 => crateMsgWrite32 cb swap m dev
  | .delay => crateMsgDelay cb swap m dev
  | .readBoard => crateMsgReadScalers cb m dev swap
  | .getCrateMap => crateMsgGetCrateMap cb m dev swap
  | .getBoardParams => crateMsgGetBoardParams cb m dev swap
  | .getChannelParams => crateMsgGetChannelParams cb m dev swap
  | .setChannelParams => crateMsgSetChannelParams cb m dev swap
  | .dataReadBoard => crateMsgReadData cb m dev swap

theorem dispatch_code (cb : ServerCBFunctions δ) (swap : Bool) (m : Traced) (dev : δ)
    (t : MsgType) : dispatch cb swap m dev t.code = some (t.handle cb swap m dev) := by
  cases t <;> rfl

/-- A type that no function is for. -/
theorem dispatch_unknown (cb : ServerCBFunctions δ) (swap : Bool) (m : Traced) (dev : δ)
    {type : Word} (h : ∀ t : MsgType, type ≠ t.code) : dispatch cb swap m dev type = none := by
  simp [dispatch, h]

/-! ## ConnectionThread -/

/-- A connection: what the client still has to say, the `recv` calls so far, the union
and the boards. -/
structure Conn (δ : Type) where
  stream : List Byte
  recvs : Nat
  mem : Nat → Byte
  dev : δ

/-- `recv` number `i` brings what is asked for, or what there is, and no more than the
`max 1 (cut i)` bytes that have arrived. At the end of the stream it brings nothing. -/
def Conn.recv (cut : Nat → Nat) (n : Nat) (c : Conn δ) : List Byte × Conn δ :=
  let k := min (max 1 (cut c.recvs)) n
  (c.stream.take k, { c with stream := c.stream.drop k, recvs := c.recvs + 1 })

/-- The payload of a message. One without a payload needs no `recv`. -/
def Conn.recvPayload (cut : Nat → Nat) (len : Word) (c : Conn δ) : List Byte × Conn δ :=
  if len = 0 then ([], c) else c.recv cut len.toNat

/-- An `int` of the header, in the byte order of the client. -/
def headerInt (swap : Bool) (bs : List Byte) : Word :=
  if swap then dwSwap (wordOf bs) else wordOf bs

/-- `send` of the `len + 8` bytes of a response. -/
def replyBytes (type result : Word) (mem : Nat → Byte) : List Byte :=
  leBytes 4 result.toNat ++ leBytes 4 (cmdRsp type).toNat ++ Traced.bytes mem 0 result.toNat

/-- What is seen of a message once its function has returned, and of the passes after it:
a negative result ends the connection, a positive one is the length of the reply. -/
def Handled.answer (h : Handled δ) (type : Word) (next : List CrateEvent) : List CrateEvent :=
  if h.result.toInt < 0 then h.events
  else if 0 < h.result.toInt then
    h.events ++ .reply (replyBytes type h.result h.msg.mem) :: next
  else h.events ++ next

/-- The `while(1)` of `ConnectionThread`. The number bounds its passes. -/
def connectionLoop (cb : ServerCBFunctions δ) (cut : Nat → Nat) (swap : Bool) :
    Nat → Conn δ → List CrateEvent
  | 0, _ => []
  | passes + 1, c =>
    let (header, c) := c.recv cut 8
    if header.length ≠ 8 then []
    else
      let len := headerInt swap (header.take 4)
      let type := headerInt swap (header.drop 4)
      if (maxMsgSize : Int) < len.toInt ∨ len.toInt < 0 then []
      else
        let (payload, c) := c.recvPayload cut len
        if payload.length ≠ len.toNat then []
        else
          match dispatch cb swap ⟨Traced.put c.mem 0 payload, []⟩ c.dev type with
          | none => []
          | some h =>
            h.answer type
              (connectionLoop cb cut swap passes { c with mem := h.msg.mem, dev := h.dev })

/-- `ConnectionThread`. A pass takes eight bytes of the stream at least, so as many as
there are bytes are enough. -/
def connectionThread (cb : ServerCBFunctions δ) (cut : Nat → Nat) (c : Conn δ) :
    List CrateEvent :=
  let (val, c) := c.recv cut 4
  .hello crateMsgHdrId ::
    if val.length ≠ 4 then []
    else if wordOf val = crateMsgHdrId then connectionLoop cb cut false (c.stream.length + 1) c
    else if wordOf val = dwSwap crateMsgHdrId then
      connectionLoop cb cut true (c.stream.length + 1) c
    else []

/-! ## DiagGuiServer.c -/

/-- `while (c--)` over a body that changes `s`. -/
def whileDec {σ : Type} (body : σ → σ) (c : Word) (s : σ) : σ := Nat.iterate body c.toNat s

/-- The loop tests `c` and takes one from it. A negative `c` runs down to zero as well. -/
theorem whileDec_eq {σ : Type} (body : σ → σ) (c : Word) (s : σ) :
    whileDec body c s = if c = 0 then s else whileDec body (c - 1) (body s) := by
  by_cases hc : c = 0
  · rw [if_pos hc, hc]
    rfl
  · have hpos : 0 < c.toNat := Nat.pos_of_ne_zero fun h => hc (BitVec.eq_of_toNat_eq h)
    have hsub : (c - 1).toNat = c.toNat - 1 :=
      BitVec.toNat_sub_of_le (BitVec.le_def.mpr hpos)
    rw [if_neg hc, whileDec, whileDec, hsub, ← Function.iterate_succ_apply, Nat.succ_eq_add_one,
      Nat.sub_add_cancel hpos]

/-- One pass of the loops of `Vtp_Read32`. -/
def read32Pass (bus : Bus Word Word δ) (adrinc : Bool) :
    List Word × Word × δ → List Word × Word × δ
  | (pWr, pRd, dev) =>
    let (val, dev) := bus.read dev pRd
    (pWr ++ [val], if adrinc then pRd + 1 else pRd, dev)

/-- `flags & CRATE_MSG_FLAGS_ADRINC`. -/
def adrInc (flags : Word) : Bool := flags &&& 1#32 ≠ 0#32

/-- `Vtp_Read32`, of `cnt`, `addr` and `flags`. -/
def vtpRead32Cb (bus : Bus Word Word δ) : ReadCallback δ := fun cmd dev =>
  let c := cmd.int 0
  let size := 4 + 4 * c
  let (vals, _, dev) := whileDec (read32Pass bus (adrInc (cmd.int 2))) c ([], cmd.int 1, dev)
  (size, leBytes 4 c.toNat ++ vals.flatMap fun v => leBytes 4 v.toNat, dev)

/-- One pass of the loops of `Vtp_Write32`. -/
def write32Pass (bus : Bus Word Word δ) (adrinc : Bool) :
    List Word × Word × δ → List Word × Word × δ
  | ([], pWr, dev) => ([], pWr, dev)
  | (val :: pRd, pWr, dev) => (pRd, if adrinc then pWr + 1 else pWr, bus.write dev pWr val)

/-- `Vtp_Write32`, of `cnt`, `addr`, `flags` and `vals`. -/
def vtpWrite32Cb (bus : Bus Word Word δ) : WriteCallback δ := fun cmd dev =>
  let (_, _, dev) :=
    whileDec (write32Pass bus (adrInc (cmd.int 2))) (cmd.int 0) (cmd.vals, cmd.int 1, dev)
  (0, dev)

/-- The callbacks that `main` of `DiagGuiServer.c` registers. -/
def diagGuiCallbacks (bus : Bus Word Word δ) : ServerCBFunctions δ where
  read16 := none
  write16 := none
  read32 := some (vtpRead32Cb bus)
  write32 := some (vtpWrite32Cb bus)
  delay := none
  readScalers := none
  readData := none
  getCrateMap := none
  getBoardParams := none
  getChannelParams := none
  setChannelParams := none

end VtpStreaming
