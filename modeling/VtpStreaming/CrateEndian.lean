import VtpStreaming.CrateBounds

/-!
# The crate message server and the byte order of the client

`DiagGui/CrateMsgServer.c`. A client of the other byte order sends the same fields with
their bytes turned round. The functions of the first five commands turn them back. Those
of the scaler commands have a note in their place.
-/

namespace VtpStreaming

open Clib

/-! ## Commands as the client means them -/

/-- The elements of `vals` that a command counts. -/
def MsgType.counted (t : MsgType) (ints : List Word) : Nat :=
  match t.vals with
  | none => 0
  | some a => (ints.getD a.cntAt 0).toNat

/-- The bytes of an element of `vals`. -/
def MsgType.width (t : MsgType) : Nat :=
  match t.vals with
  | none => 0
  | some a => a.width

/-- A command with as many fields as its structure has, and as many values as it counts,
that fits in a message. -/
structure Command where
  type : MsgType
  ints : List Word
  vals : List Word
  ints_length : ints.length = type.ints
  vals_length : vals.length = type.counted ints
  vals_fit : ∀ v ∈ vals, v.toNat < 256 ^ type.width
  size_le : 4 * type.ints + type.width * vals.length ≤ maxMsgSize

/-- An element of `vals` in the byte order of the client. -/
def putVal (swap : Bool) (width : Nat) (v : Word) : List Byte :=
  if swap then beBytes width v.toNat else leBytes width v.toNat

def Command.payload (c : Command) (swap : Bool) : List Byte :=
  c.ints.flatMap (putInt swap) ++ c.vals.flatMap (putVal swap c.type.width)

@[simp] theorem putVal_length {swap : Bool} {width : Nat} (v : Word) :
    (putVal swap width v).length = width := by
  cases swap <;> simp [putVal]

theorem Command.payload_length (c : Command) (swap : Bool) :
    (c.payload swap).length = 4 * c.type.ints + c.type.width * c.vals.length := by
  rw [Command.payload, List.length_append, length_flatMap_pieces _ putInt_length,
    length_flatMap_pieces _ putVal_length, c.ints_length]

def Command.message (swap : Bool) (c : Command) : Message where
  type := c.type
  payload := c.payload swap
  fits := by
    rw [c.payload_length]
    exact c.size_le

/-- A client of either byte order sees the same, and so do the callbacks and the boards. -/
def EndianFree (cmds : List Command) : Prop :=
  ∀ (δ : Type) (cb : ServerCBFunctions δ) (mem : Nat → Byte) (dev : δ),
    connectionThread cb whole ⟨session true (cmds.map (Command.message true)), 0, mem, dev⟩ =
      connectionThread cb whole ⟨session false (cmds.map (Command.message false)), 0, mem, dev⟩

/-- The commands whose function swaps. -/
def MsgType.swaps : MsgType → Bool
  | .read16 | .write16 | .read32 | .write32 | .delay => true
  | _ => false

/-- Every field reads the same in both byte orders. -/
def Command.Palindromic (c : Command) : Prop :=
  (∀ v ∈ c.ints, dwSwap v = v) ∧ ∀ v ∈ c.vals, dwSwap v = v

/-! ## A payload in memory -/

section Layout

variable {swap : Bool} {mem : Nat → Byte} {i : Nat}

theorem Command.int_bytes (c : Command) (h : i < c.ints.length) :
    Traced.bytes (Traced.put mem 0 (c.payload swap)) (4 * i) 4 = putInt swap c.ints[i] := by
  have hpiece : Traced.bytes (Traced.put mem 0 ([] ++ (c.ints.flatMap (putInt swap) ++
      c.vals.flatMap (putVal swap c.type.width)))) (0 + 4 * i) 4 = putInt swap c.ints[i] :=
    Traced.bytes_put_piece putInt_length rfl h
  rwa [Nat.zero_add] at hpiece

theorem Command.val_bytes (c : Command) (h : i < c.vals.length) :
    Traced.bytes (Traced.put mem 0 (c.payload swap)) (4 * c.type.ints + c.type.width * i)
      c.type.width = putVal swap c.type.width c.vals[i] := by
  have hints : (c.ints.flatMap (putInt swap)).length = 4 * c.type.ints := by
    rw [length_flatMap_pieces _ putInt_length, c.ints_length]
  have hpiece : Traced.bytes (Traced.put mem 0 (c.ints.flatMap (putInt swap) ++
      (c.vals.flatMap (putVal swap c.type.width) ++ []))) (4 * c.type.ints + c.type.width * i)
        c.type.width = putVal swap c.type.width c.vals[i] :=
    Traced.bytes_put_piece putVal_length hints h
  rwa [List.append_nil] at hpiece

end Layout

/-! ## What a callback is handed -/

section Handed

variable {swap : Bool} {mem : Nat → Byte} {log : List Access}

theorem wordOf_putInt (v : Word) : wordOf (putInt swap v) = if swap then dwSwap v else v := by
  cases swap with
  | false => exact wordOf_leBytes v
  | true => exact wordOf_beBytes v

/-- The `int`s in memory, as the server reads them. -/
theorem readCmd_ints (c : Command) :
    (readCmd c.type ⟨Traced.put mem 0 (c.payload swap), log⟩).1.ints =
      c.ints.map fun v => if swap then dwSwap v else v := by
  have hints : (readCmd c.type ⟨Traced.put mem 0 (c.payload swap), log⟩).1.ints =
      ((intSlots c.type.ints).map fun s =>
        Traced.bytes (Traced.put mem 0 (c.payload swap)) s.off s.size).map wordOf := by
    rw [readCmd]
    cases c.type.vals <;> rfl
  rw [hints]
  apply List.ext_getElem
  · simp [intSlots, c.ints_length]
  intro i hi hi'
  rw [List.length_map] at hi'
  simp only [List.getElem_map, intSlots, List.getElem_range, intSlot]
  rw [c.int_bytes hi', wordOf_putInt]

/-- The values in memory, as the server reads them, if it reads the count as it is meant. -/
theorem readCmd_vals (c : Command)
    (hints : c.ints.map (fun v => if swap then dwSwap v else v) = c.ints) :
    (readCmd c.type ⟨Traced.put mem 0 (c.payload swap), log⟩).1.vals =
      c.vals.map fun v => wordOf (putVal swap c.type.width v) := by
  have hread := @readCmd_ints swap mem log c
  rw [hints] at hread
  have hcount := c.vals_length
  rw [readCmd] at hread ⊢
  cases hvals : c.type.vals with
  | none =>
    rw [MsgType.counted, hvals] at hcount
    rw [List.eq_nil_of_length_eq_zero hcount]
    rfl
  | some a =>
    rw [hvals] at hread
    have hwidth : c.type.width = a.width := by rw [MsgType.width, hvals]
    rw [MsgType.counted, hvals] at hcount
    simp only at hread hcount
    simp only [hread, ← hcount]
    apply List.ext_getElem
    · simp [Traced.loadAll, valSlots]
    intro i hi hi'
    rw [List.length_map] at hi'
    have hbytes := @Command.val_bytes swap mem i c hi'
    rw [hwidth] at hbytes
    simp only [Traced.loadAll, valSlots, valSlot, List.getElem_map, List.getElem_range, hbytes,
      hwidth]

end Handed

/-! ## The swap -/

/-- What a function does to its command before the callback if the byte order differs. -/
def MsgType.swapStage (m : Traced) : MsgType → Traced
  | .read16 | .read32 => swapInts 3 m
  | .write16 => swapVals hwSwapBytes 3 ⟨0, 2, 20000⟩ (swapInts 3 m)
  | .write32 => swapVals dwSwapBytes 3 ⟨0, 4, 10000⟩ (swapInts 3 m)
  | .delay => swapInts 1 m
  | _ => m

theorem handle_swap {δ : Type} (cb : ServerCBFunctions δ) (m : Traced) (dev : δ) (t : MsgType) :
    t.handle cb true m dev = t.handle cb false (t.swapStage m) dev := by
  cases t <;> simp only [MsgType.handle, MsgType.swapStage, crateMsgRead16, crateMsgWrite16,
    crateMsgRead32, crateMsgWrite32, crateMsgDelay, crateMsgReadScalers, crateMsgReadData,
    crateMsgGetCrateMap, crateMsgGetBoardParams, crateMsgGetChannelParams,
    crateMsgSetChannelParams, if_true, if_false, Bool.false_eq_true]

section Swap

variable {n k : Nat} {a : ValsArray} {bs : List Byte}

theorem dwSwapBytes_eq (h : bs.length = 4) : dwSwapBytes bs = bs.reverse := by
  have hlt := ofLe_lt bs
  rw [h] at hlt
  have hword : (wordOf bs).toNat = ofLe bs := by
    rw [wordOf, BitVec.toNat_ofNat]
    exact Nat.mod_eq_of_lt hlt
  rw [dwSwapBytes, leBytes_dwSwap, hword, ← h, leBytes_ofLe]

theorem hwSwapBytes_eq (h : bs.length = 2) : hwSwapBytes bs = bs.reverse := by
  have hlt := ofLe_lt bs
  rw [h] at hlt
  have hword : (BitVec.ofNat 16 (ofLe bs)).toNat = ofLe bs := by
    rw [BitVec.toNat_ofNat]
    exact Nat.mod_eq_of_lt hlt
  rw [hwSwapBytes, leBytes_hwSwap, hword, ← h, leBytes_ofLe]

theorem intSlots_tiles : Traced.Tiles (intSlots n) 0 4 n where
  disjoint := intSlots_disjoint
  tile s hs := by
    rcases List.mem_map.mp hs with ⟨i, hi, rfl⟩
    exact ⟨i, List.mem_range.mp hi, (Nat.zero_add _).symm, rfl⟩
  all i hi := ⟨intSlot i, List.mem_map.mpr ⟨i, List.mem_range.mpr hi, rfl⟩,
    (Nat.zero_add _).symm, rfl⟩

theorem valSlots_tiles : Traced.Tiles (valSlots n a k).reverse (4 * n) a.width k where
  disjoint := by
    rw [List.pairwise_reverse]
    apply List.Pairwise.map (valSlot n a) _ List.pairwise_lt_range
    intro i j hij
    have hstep := Nat.mul_le_mul_left a.width (Nat.succ_le_of_lt hij)
    rw [Nat.mul_succ] at hstep
    right
    simp only [valSlot]
    omega
  tile s hs := by
    rcases List.mem_map.mp (List.mem_reverse.mp hs) with ⟨i, hi, rfl⟩
    exact ⟨i, List.mem_range.mp hi, rfl, rfl⟩
  all i hi := ⟨valSlot n a i,
    List.mem_reverse.mpr (List.mem_map.mpr ⟨i, List.mem_range.mpr hi, rfl⟩), rfl, rfl⟩

/-- The `int`s of a swapped command in the server's order. -/
theorem swapInts_mem {mem : Nat → Byte} {log : List Access} {ints : List Word}
    {post : List Byte} (h : ints.length = n) :
    (swapInts n ⟨Traced.put mem 0 (ints.flatMap (putInt true) ++ post), log⟩).mem =
      Traced.put mem 0 (ints.flatMap (putInt false) ++ post) := by
  have htiles : Traced.Tiles (intSlots n) 0 4 ints.length := by
    rw [h]
    exact intSlots_tiles
  have hrev : ∀ v ∈ ints, dwSwapBytes (putInt true v) = putInt false v := fun v _ =>
    (dwSwapBytes_eq (putInt_length v)).trans (List.reverse_reverse _)
  have hpieces : (Traced.updateAll dwSwapBytes (intSlots n)
      ⟨Traced.put mem 0 ([] ++ (ints.flatMap (putInt true) ++ post)), log⟩).mem =
        Traced.put mem 0 ([] ++ (ints.flatMap (putInt false) ++ post)) :=
    Traced.updateAll_pieces putInt_length putInt_length rfl htiles (keeps_dwSwap intSlots_size) hrev
  exact hpieces

/-- The values behind them in the server's order. -/
theorem swapVals_mem {mem : Nat → Byte} {log : List Access} {f : List Byte → List Byte}
    {pre : List Byte} {vals : List Word} (hf : ∀ k, Traced.Keeps f (valSlots n a k).reverse)
    (hrev : ∀ bs : List Byte, bs.length = a.width → f bs = bs.reverse) (hpre : pre.length = 4 * n)
    (hcnt : downCount (wordOf (Traced.bytes (Traced.put mem 0
      (pre ++ vals.flatMap (putVal true a.width))) (4 * a.cntAt) 4)) = vals.length) :
    (swapVals f n a ⟨Traced.put mem 0 (pre ++ vals.flatMap (putVal true a.width)), log⟩).mem =
      Traced.put mem 0 (pre ++ vals.flatMap (putVal false a.width)) := by
  have hvals : ∀ v ∈ vals, f (putVal true a.width v) = putVal false a.width v := fun v _ =>
    (hrev _ (putVal_length v)).trans (List.reverse_reverse _)
  have hpieces : ∀ log, (Traced.updateAll f (valSlots n a vals.length).reverse
      ⟨Traced.put mem 0 (pre ++ (vals.flatMap (putVal true a.width) ++ [])), log⟩).mem =
        Traced.put mem 0 (pre ++ (vals.flatMap (putVal false a.width) ++ [])) := fun log =>
    Traced.updateAll_pieces putVal_length putVal_length hpre valSlots_tiles (hf _) hvals
  simp only [List.append_nil] at hpieces
  have hslot : intSlot a.cntAt = ⟨4 * a.cntAt, 4, 4 * a.cntAt + 4⟩ := rfl
  simp only [swapVals, Traced.load, hslot, hcnt]
  exact hpieces _

end Swap

section Stage

variable {mem : Nat → Byte} {log : List Access} {c : Command}

/-- The count as the server reads it back after the swap of the `int`s. -/
theorem server_cnt (hcnt : c.vals.length = (c.ints.getD 0 0).toNat) (hints : 0 < c.ints.length)
    (hsmall : c.vals.length ≤ maxMsgSize) {post : List Byte} :
    downCount (wordOf (Traced.bytes (Traced.put mem 0 (c.ints.flatMap (putInt false) ++ post))
      (4 * 0) 4)) = c.vals.length := by
  have hpiece : Traced.bytes (Traced.put mem 0 ([] ++ (c.ints.flatMap (putInt false) ++ post)))
      (0 + 4 * 0) 4 = putInt false c.ints[0] :=
    Traced.bytes_put_piece putInt_length rfl hints
  rw [List.getD_eq_getElem?_getD, List.getElem?_eq_getElem hints, Option.getD_some] at hcnt
  rw [Nat.zero_add, List.nil_append] at hpiece
  simp only [maxMsgSize] at hsmall
  rw [hpiece, wordOf_putInt, if_neg Bool.false_ne_true, downCount_eq (by omega), hcnt]

/-- A command without `vals`, once its `int`s have been turned round. -/
theorem swapRead_mem {n : Nat} (hn : c.type.ints = n) (hvals : c.type.vals = none) :
    (swapInts n ⟨Traced.put mem 0 (c.payload true), log⟩).mem =
      Traced.put mem 0 (c.payload false) := by
  have hlen := c.vals_length
  rw [MsgType.counted, hvals] at hlen
  have hnil : c.vals = [] := List.eq_nil_of_length_eq_zero hlen
  simp only [Command.payload, hnil, List.flatMap_nil]
  exact swapInts_mem (c.ints_length.trans hn)

/-- A command with `vals`, once all of it has been turned round. -/
theorem swapWrite_mem {f : List Byte → List Byte} {a : ValsArray} (h3 : c.type.ints = 3)
    (hvals : c.type.vals = some a) (hcntAt : a.cntAt = 0) (hw : 0 < a.width)
    (hf : ∀ k, Traced.Keeps f (valSlots 3 a k).reverse)
    (hrev : ∀ bs : List Byte, bs.length = a.width → f bs = bs.reverse) :
    (swapVals f 3 a (swapInts 3 ⟨Traced.put mem 0 (c.payload true), log⟩)).mem =
      Traced.put mem 0 (c.payload false) := by
  have hlen : c.ints.length = 3 := c.ints_length.trans h3
  have hwidth : c.type.width = a.width := by rw [MsgType.width, hvals]
  have hcnt : c.vals.length = (c.ints.getD 0 0).toNat := by
    have hlength := c.vals_length
    rw [MsgType.counted, hvals] at hlength
    simpa only [hcntAt] using hlength
  have hsmall : c.vals.length ≤ maxMsgSize := by
    have hsize := c.size_le
    rw [hwidth] at hsize
    exact Nat.le_trans (Nat.le_mul_of_pos_left _ hw) (by omega)
  have hints : swapInts 3 ⟨Traced.put mem 0 (c.payload true), log⟩ =
      ⟨Traced.put mem 0 (c.ints.flatMap (putInt false) ++ c.vals.flatMap (putVal true a.width)),
        (swapInts 3 ⟨Traced.put mem 0 (c.payload true), log⟩).log⟩ := by
    rw [Command.payload, hwidth]
    exact congrArg (Traced.mk · _) (swapInts_mem hlen)
  have hpre : (c.ints.flatMap (putInt false)).length = 4 * 3 := by
    rw [length_flatMap_pieces _ putInt_length, hlen]
  have hcount : downCount (wordOf (Traced.bytes (Traced.put mem 0 (c.ints.flatMap (putInt false) ++
      c.vals.flatMap (putVal true a.width))) (4 * a.cntAt) 4)) = c.vals.length := by
    rw [hcntAt]
    exact server_cnt hcnt (by omega) hsmall
  have hnative : c.payload false =
      c.ints.flatMap (putInt false) ++ c.vals.flatMap (putVal false a.width) := by
    rw [Command.payload, hwidth]
  rw [hints, hnative]
  exact swapVals_mem hf hrev hpre hcount

/-- A command whose fields read the same both ways is the same bytes. -/
theorem palindromic_payload (hswaps : c.type.swaps = false) (h : c.Palindromic) :
    c.payload true = c.payload false := by
  have hint : ∀ v, dwSwap v = v → putInt true v = putInt false v := by
    intro v hv
    have hbytes := leBytes_dwSwap v
    rw [hv] at hbytes
    exact hbytes.symm
  have hints : c.ints.flatMap (putInt true) = c.ints.flatMap (putInt false) :=
    List.flatMap_congr fun v hv => hint v (h.1 v hv)
  have hvals : c.vals.flatMap (putVal true c.type.width) =
      c.vals.flatMap (putVal false c.type.width) := by
    apply List.flatMap_congr
    intro v hv
    have hwidth : c.type.width = 0 ∨ c.type.width = 4 := by
      revert hswaps
      cases c.type <;> decide
    rcases hwidth with hwidth | hwidth <;> rw [hwidth]
    · rfl
    · exact hint v (h.2 v hv)
  rw [Command.payload, Command.payload, hints, hvals]

theorem swapStage_noop {t : MsgType} (h : t.swaps = false) (m : Traced) : t.swapStage m = m := by
  cases t with
  | read16 | write16 | read32 | write32 | delay => exact absurd h (by decide)
  | readBoard | getCrateMap | getBoardParams | getChannelParams | setChannelParams
  | dataReadBoard => rfl

/-- A command in the other byte order stands in memory as one in the server's order, if its
function swaps or there is nothing to swap. -/
theorem swapStage_mem (h : c.type.swaps = true ∨ c.Palindromic) :
    (c.type.swapStage ⟨Traced.put mem 0 (c.payload true), log⟩).mem =
      Traced.put mem 0 (c.payload false) := by
  by_cases hswaps : c.type.swaps = true
  · cases ht : c.type with
    | read16 | read32 | delay =>
      simp only [MsgType.swapStage]
      exact swapRead_mem (by rw [ht]; rfl) (by rw [ht]; rfl)
    | write16 =>
      simp only [MsgType.swapStage]
      exact swapWrite_mem (by rw [ht]; rfl) (by rw [ht]; rfl) rfl (by decide)
        (fun _ => keeps_hwSwap valSlots_size) fun _ => hwSwapBytes_eq
    | write32 =>
      simp only [MsgType.swapStage]
      exact swapWrite_mem (by rw [ht]; rfl) (by rw [ht]; rfl) rfl (by decide)
        (fun _ => keeps_dwSwap valSlots_size) fun _ => dwSwapBytes_eq
    | readBoard | getCrateMap | getBoardParams | getChannelParams | setChannelParams
    | dataReadBoard =>
      rw [ht] at hswaps
      exact absurd hswaps Bool.false_ne_true
  · have hnot : c.type.swaps = false := Bool.eq_false_iff.mpr hswaps
    rw [swapStage_noop hnot, palindromic_payload hnot (h.resolve_left hswaps)]

end Stage

/-! ## Two sessions -/

section Congr

variable {δ : Type} (cb : ServerCBFunctions δ) {m m' : Traced} {dev : δ}

/-- Two handlings that differ in their record of accesses at most. -/
structure Handled.Same (h h' : Handled δ) : Prop where
  result : h.result = h'.result
  events : h.events = h'.events
  mem : h.msg.mem = h'.msg.mem
  dev : h.dev = h'.dev

theorem readCmd_congr (t : MsgType) (h : m.mem = m'.mem) :
    (readCmd t m).1 = (readCmd t m').1 ∧ (readCmd t m).2.mem = (readCmd t m').2.mem := by
  simp only [readCmd, Traced.loadAll, h]
  cases t.vals with
  | none => exact ⟨rfl, rfl⟩
  | some a => exact ⟨rfl, rfl⟩

theorem callRead_congr (t : MsgType) (f : Option (ReadCallback δ)) (h : m.mem = m'.mem) :
    (callRead t f m dev).Same (callRead t f m' dev) := by
  rcases readCmd_congr t h with ⟨hcmd, hmem⟩
  cases f with
  | none => exact ⟨rfl, rfl, h, rfl⟩
  | some f =>
    simp only [callRead, hcmd]
    exact ⟨rfl, rfl, congrArg (Traced.put · 0 _) hmem, rfl⟩

theorem callWrite_congr (t : MsgType) (f : Option (WriteCallback δ)) (h : m.mem = m'.mem) :
    (callWrite t f m dev).Same (callWrite t f m' dev) := by
  rcases readCmd_congr t h with ⟨hcmd, hmem⟩
  cases f with
  | none => exact ⟨rfl, rfl, h, rfl⟩
  | some f =>
    simp only [callWrite, hcmd]
    exact ⟨rfl, rfl, hmem, rfl⟩

theorem Handled.Same.returnZero {h h' : Handled δ} (same : h.Same h') :
    h.returnZero.Same h'.returnZero := ⟨rfl, same.events, same.mem, same.dev⟩

/-- A function sees the memory, not how it has come about. -/
theorem handle_congr (t : MsgType) (h : m.mem = m'.mem) :
    (t.handle cb false m dev).Same (t.handle cb false m' dev) := by
  cases t with
  | read16 => exact callRead_congr .read16 cb.read16 h
  | write16 => exact (callWrite_congr .write16 cb.write16 h).returnZero
  | read32 => exact callRead_congr .read32 cb.read32 h
  | write32 => exact (callWrite_congr .write32 cb.write32 h).returnZero
  | delay => exact (callWrite_congr .delay cb.delay h).returnZero
  | readBoard => exact callRead_congr .readBoard cb.readScalers h
  | getCrateMap => exact callRead_congr .getCrateMap cb.getCrateMap h
  | getBoardParams => exact callRead_congr .getBoardParams cb.getBoardParams h
  | getChannelParams => exact callRead_congr .getChannelParams cb.getChannelParams h
  | setChannelParams => exact callWrite_congr .setChannelParams cb.setChannelParams h
  | dataReadBoard => exact callRead_congr .dataReadBoard cb.readData h

end Congr

section Sessions

variable {δ : Type} (cb : ServerCBFunctions δ) {c : Command} {cmds : List Command}

/-- One command from either client comes to the same. -/
theorem command_same (h : c.type.swaps = true ∨ c.Palindromic) (mem : Nat → Byte) (dev : δ) :
    (c.type.handle cb true ⟨Traced.put mem 0 (c.payload true), []⟩ dev).Same
      (c.type.handle cb false ⟨Traced.put mem 0 (c.payload false), []⟩ dev) := by
  rw [handle_swap]
  exact handle_congr cb c.type (swapStage_mem h)

theorem Handled.Same.answer {h h' : Handled δ} (same : h.Same h') (type : Word)
    (next : List CrateEvent) : h.answer type next = h'.answer type next := by
  simp only [Handled.answer, same.result, same.events, same.mem]

/-- The messages of a client. -/
def clientBytes (swap : Bool) (cmds : List Command) : List Byte :=
  (cmds.map (Command.message swap)).flatMap (Message.encode swap)

theorem connectionLoop_same (h : ∀ c ∈ cmds, c.type.swaps = true ∨ c.Palindromic) {passes : Nat}
    {k k' : Nat} {mem : Nat → Byte} {dev : δ} :
    connectionLoop cb whole true passes ⟨clientBytes true cmds, k, mem, dev⟩ =
      connectionLoop cb whole false passes ⟨clientBytes false cmds, k', mem, dev⟩ := by
  induction cmds generalizing passes k k' mem dev with
  | nil => rw [connectionLoop_end cb passes rfl, connectionLoop_end cb passes rfl]
  | cons c cmds ih =>
    rcases List.forall_mem_cons.mp h with ⟨hc, hcmds⟩
    cases passes with
    | zero => rfl
    | succ passes =>
      have hsame : ((c.message true).handled cb true ⟨clientBytes true (c :: cmds), k, mem, dev⟩).Same
          ((c.message false).handled cb false ⟨clientBytes false (c :: cmds), k', mem, dev⟩) :=
        command_same cb hc mem dev
      have hafter : (c.message true).after cb true ⟨clientBytes true (c :: cmds), k, mem, dev⟩
          (clientBytes true cmds) = ⟨clientBytes true cmds, k + (c.message true).asks.length,
            ((c.message false).handled cb false
              ⟨clientBytes false (c :: cmds), k', mem, dev⟩).msg.mem,
            ((c.message false).handled cb false
              ⟨clientBytes false (c :: cmds), k', mem, dev⟩).dev⟩ := by
        rw [Message.after, hsame.mem, hsame.dev]
      rw [connectionLoop_message cb passes (m := c.message true) rfl
          (undivided_whole (Message.asks_le _)),
        connectionLoop_message cb passes (m := c.message false) rfl
          (undivided_whole (Message.asks_le _)), hsame.answer]
      exact congrArg _ ((congrArg _ hafter).trans (ih hcmds))

theorem clientBytes_length : (clientBytes true cmds).length = (clientBytes false cmds).length := by
  induction cmds with
  | nil => rfl
  | cons c cmds ih =>
    have hone : ((c.message true).encode true).length = ((c.message false).encode false).length := by
      simp only [Message.encode, List.length_append, putInt_length, Command.message,
        Command.payload_length]
    simp only [clientBytes, List.map_cons, List.flatMap_cons, List.length_append, hone]
    exact congrArg _ ih

end Sessions

/-! ## What the swap misses -/

section Missed

variable {c : Command} {cmds : List Command} {mem mem' : Nat → Byte}

/-- Without a swap, a quiet callback is handed what stands in memory. -/
theorem quiet_command (t : MsgType) {swap : Bool} (h : swap = false ∨ t.swaps = false)
    (m : Traced) :
    (t.handle quiet swap m ()).events = [.command t (readCmd t m).1] := by
  cases swap with
  | false => cases t <;> rfl
  | true =>
    have hnot : t.swaps = false := h.resolve_left (by decide)
    rw [handle_swap, swapStage_noop hnot]
    cases t <;> rfl

/-- The value of a `vals` of four bytes that is not turned round. -/
theorem val_missed {v : Word} (h : c.type.swaps = false) (hv : v ∈ c.vals)
    (hsame : wordOf (putVal true c.type.width v) = wordOf (putVal false c.type.width v)) :
    dwSwap v = v := by
  have hwidth : c.type.vals = none ∨ c.type.width = 4 := by
    revert h
    cases c.type <;> decide
  rcases hwidth with hnone | hfour
  · have hlen := c.vals_length
    rw [MsgType.counted, hnone] at hlen
    rw [List.eq_nil_of_length_eq_zero hlen] at hv
    exact absurd hv List.not_mem_nil
  · rw [hfour] at hsame
    have htrue : wordOf (putVal true 4 v) = dwSwap v := wordOf_beBytes v
    have hfalse : wordOf (putVal false 4 v) = v := wordOf_leBytes v
    rwa [htrue, hfalse] at hsame

/-- A command that is handed over alike has nothing that a swap would change. -/
theorem palindromic_of_same (h : c.type.swaps = false)
    (hsame : (readCmd c.type ⟨Traced.put mem 0 (c.payload true), []⟩).1 =
      (readCmd c.type ⟨Traced.put mem' 0 (c.payload false), []⟩).1) : c.Palindromic := by
  have hints := congrArg Cmd.ints hsame
  rw [readCmd_ints, readCmd_ints] at hints
  have hnative : c.ints.map (fun v => if false then dwSwap v else v) = c.ints := List.map_id _
  have hturned : c.ints.map (fun v => if true then dwSwap v else v) = c.ints := hints.trans hnative
  have hvals := congrArg Cmd.vals hsame
  rw [readCmd_vals c hturned, readCmd_vals c hnative] at hvals
  constructor
  · exact fun v hv => List.map_inj_left.mp (hturned.trans (List.map_id _).symm) v hv
  · exact fun v hv => val_missed h hv (List.map_inj_left.mp hvals v hv)

theorem quiet_same {passes k k' : Nat} (hp : cmds.length ≤ passes)
    (h : connectionLoop quiet whole true passes ⟨clientBytes true cmds, k, mem, ()⟩ =
      connectionLoop quiet whole false passes ⟨clientBytes false cmds, k', mem', ()⟩) :
    ∀ c ∈ cmds, c.type.swaps = true ∨ c.Palindromic := by
  induction cmds generalizing passes k k' mem mem' with
  | nil => exact fun c hc => absurd hc List.not_mem_nil
  | cons c cmds ih =>
    cases passes with
    | zero => exact absurd hp (Nat.not_succ_le_zero _)
    | succ passes =>
      rw [connectionLoop_message quiet passes (m := c.message true) rfl
          (undivided_whole (Message.asks_le _)),
        connectionLoop_message quiet passes (m := c.message false) rfl
          (undivided_whole (Message.asks_le _))] at h
      have hfalse := quiet_answer (c := ⟨clientBytes false (c :: cmds), k', mem', ()⟩)
        (c.message false) (connectionLoop quiet whole false passes
          ((c.message false).after quiet false ⟨clientBytes false (c :: cmds), k', mem', ()⟩
            (clientBytes false cmds))) (quiet_command c.type (Or.inl rfl) _)
      rcases quiet_handle c.type true ⟨Traced.put mem 0 (c.payload true), []⟩ with ⟨cmd, hcmd, -⟩
      have htrue := quiet_answer (c := ⟨clientBytes true (c :: cmds), k, mem, ()⟩)
        (c.message true) (connectionLoop quiet whole true passes
          ((c.message true).after quiet true ⟨clientBytes true (c :: cmds), k, mem, ()⟩
            (clientBytes true cmds))) hcmd
      rw [List.forall_mem_cons]
      have hcons := htrue.symm.trans (h.trans hfalse)
      rcases List.cons.inj hcons with ⟨hhead, htail⟩
      refine ⟨?_, ih (Nat.le_of_succ_le_succ hp) htail⟩
      by_cases hswaps : c.type.swaps = true
      · exact Or.inl hswaps
      · have hnot : c.type.swaps = false := Bool.eq_false_iff.mpr hswaps
        rw [quiet_command c.type (Or.inr hnot)] at hcmd
        have hread := (CrateEvent.command.inj (List.cons.inj hcmd).1).2
        right
        exact palindromic_of_same hnot (hread.trans (CrateEvent.command.inj hhead).2)

end Missed

/-- The server serves a client of either byte order alike exactly if each command is one
of the five whose function swaps, or has fields that read the same both ways. -/
theorem endian_free_iff (cmds : List Command) :
    EndianFree cmds ↔ ∀ c ∈ cmds, c.type.swaps = true ∨ c.Palindromic := by
  have hwhole : 4 ≤ max 1 (whole 0) := by decide
  constructor
  · intro hfree
    have hsame := hfree Unit quiet (fun _ => 0) ()
    rw [connectionThread_session quiet hwhole, connectionThread_session quiet hwhole] at hsame
    have hpasses := @clientBytes_length cmds
    rw [clientBytes, clientBytes] at hpasses
    rw [hpasses] at hsame
    have hlen := session_passes false (cmds.map (Command.message false))
    rw [List.length_map] at hlen
    exact quiet_same (Nat.le_succ_of_le hlen) (List.cons.inj hsame).2
  · intro h δ cb mem dev
    have hpasses := @clientBytes_length cmds
    rw [clientBytes, clientBytes] at hpasses
    rw [connectionThread_session cb hwhole, connectionThread_session cb hwhole, hpasses]
    exact congrArg _ (connectionLoop_same cb h)

/-- A request for parameter 0 of the board in slot 3. -/
def boardThree : Command where
  type := .getBoardParams
  ints := [3, 0]
  vals := []
  ints_length := rfl
  vals_length := rfl
  vals_fit := nofun
  size_le := by decide

/-- A client of the other byte order asks for the board in slot 0x03000000. -/
theorem board_params_unswapped : ¬EndianFree [boardThree] := by
  intro hfree
  have hsame := hfree Unit quiet (fun _ => 0) ()
  exact absurd hsame (by decide)

end VtpStreaming
