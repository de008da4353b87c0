import VtpStreaming.CrateStream

/-!
# The reach of a command

`DiagGui/CrateMsgServer.c` with the callbacks of `DiagGuiServer.c`. The counts of a
command come from the client, and nothing compares them with the length of the message.
The accesses to the boards are what the commands are for and are not looked at here.
-/

namespace VtpStreaming

open Clib

/-! ## What a message may touch -/

/-- A message that `ConnectionThread` has accepted. -/
structure Accepted where
  type : Word
  payload : List Byte
  fits : payload.length ≤ maxMsgSize

/-- The access stays in its object and in the union, and reads only bytes of the message. -/
def Fits (len : Nat) (a : Access) : Prop :=
  a.off + a.size ≤ a.objEnd ∧ a.objEnd ≤ msgUnionSize ∧ (a.kind = .read → a.off + a.size ≤ len)

def AllFit (len : Nat) (m : Traced) : Prop := ∀ a ∈ m.log, Fits len a

/-- The function of the message touches what it may, and its reply fits in the union. -/
def Accepted.Contained {δ : Type} (msg : Accepted) (bus : Bus Word Word δ) (swap : Bool)
    (mem : Nat → Byte) (dev : δ) : Prop :=
  match dispatch (diagGuiCallbacks bus) swap ⟨Traced.put mem 0 msg.payload, []⟩ dev msg.type with
  | none => True
  | some h => AllFit msg.payload.length h.msg ∧ h.result.toInt ≤ msgUnionSize

/-- The first `int` of a payload, as the client means it. -/
def clientCnt (swap : Bool) (payload : List Byte) : Word := headerInt swap (payload.take 4)

/-- The counts and the length that keep a command in its message. -/
def InMessage (swap : Bool) (payload : List Byte) : MsgType → Prop
  | .read16 => swap = true → 12 ≤ payload.length
  | .write16 => swap = true → 12 + 2 * downCount (clientCnt swap payload) ≤ payload.length
  | .read32 => 12 ≤ payload.length ∧ (clientCnt swap payload).toNat ≤ 10000
  | .write32 => 12 + 4 * (clientCnt swap payload).toNat ≤ payload.length
  | .delay => swap = true → 4 ≤ payload.length
  | _ => True

theorem MsgType.code_inj {t t' : MsgType} (h : t.code = t'.code) : t = t' := by
  revert h
  cases t <;> cases t' <;> decide

/-! ## The stages -/

section Stages

variable {len n i k : Nat} {m : Traced} {a : ValsArray} {t : MsgType}

theorem keeps_dwSwap {slots : List Slot} (h : ∀ s ∈ slots, s.size = 4) :
    Traced.Keeps dwSwapBytes slots := by
  intro s hs bs _
  rw [dwSwapBytes, leBytes_length, h s hs]

theorem keeps_hwSwap {slots : List Slot} (h : ∀ s ∈ slots, s.size = 2) :
    Traced.Keeps hwSwapBytes slots := by
  intro s hs bs _
  rw [hwSwapBytes, leBytes_length, h s hs]

theorem intSlots_size : ∀ s ∈ intSlots n, s.size = 4 := by
  intro s hs
  rcases List.mem_map.mp hs with ⟨i, -, rfl⟩
  rfl

theorem valSlots_size : ∀ s ∈ (valSlots n a k).reverse, s.size = a.width := by
  intro s hs
  rcases List.mem_map.mp (List.mem_reverse.mp hs) with ⟨i, -, rfl⟩
  rfl

theorem forall_intSlots {P : Slot → Prop} :
    (∀ s ∈ intSlots n, P s) ↔ ∀ i < n, P (intSlot i) := by
  simp [intSlots]

theorem forall_valSlots {P : Slot → Prop} :
    (∀ s ∈ valSlots n a k, P s) ↔ ∀ i < k, P (valSlot n a i) := by
  simp [valSlots]

/-- Consecutive values end where the last one ends. -/
theorem forall_lt_end {base w bound : Nat} (hbase : base ≤ bound) :
    (∀ i < k, base + w * i + w ≤ bound) ↔ base + w * k ≤ bound := by
  cases k with
  | zero => simpa using hbase
  | succ k =>
    constructor
    · intro h
      have hlast := h k (Nat.lt_succ_self k)
      rwa [Nat.mul_succ, ← Nat.add_assoc]
    · intro h i hi
      have hle := Nat.mul_le_mul_left w (Nat.le_of_lt_succ hi)
      rw [Nat.mul_succ] at h
      omega

/-- The swap of the `int`s at the beginning of a command. -/
theorem swapInts_fits (hn : n ≤ 4) :
    AllFit len (swapInts n m) ↔ AllFit len m ∧ 4 * n ≤ len := by
  rw [AllFit, swapInts, Traced.updateAll_log (keeps_dwSwap intSlots_size), forall_intSlots]
  refine and_congr Iff.rfl ?_
  have hend : (∀ i < n, 0 + 4 * i + 4 ≤ len) ↔ 0 + 4 * n ≤ len := forall_lt_end (Nat.zero_le _)
  simp only [Nat.zero_add] at hend
  rw [← hend]
  apply forall₂_congr
  intro i hi
  simp only [Fits, intSlot, msgUnionSize]
  constructor
  · rintro ⟨⟨-, -, hread⟩, -⟩
    exact hread trivial
  · intro h
    exact ⟨⟨Nat.le_refl _, by omega, fun _ => h⟩, Nat.le_refl _, by omega, nofun⟩

/-- The swap of `vals`, behind three `int`s the first of which is the count. -/
theorem swapVals_fits {f : List Byte → List Byte} (ha : a.cntAt = 0)
    (hf : Traced.Keeps f (valSlots 3 a (downCount (wordOf (Traced.bytes m.mem 0 4)))).reverse)
    (hdecl : a.width * a.declared = 40000) (hlen : len ≤ maxMsgSize)
    (h12 : 12 ≤ len) :
    AllFit len (swapVals f 3 a m) ↔
      AllFit len m ∧ 12 + a.width * downCount (wordOf (Traced.bytes m.mem 0 4)) ≤ len := by
  have hload : swapVals f 3 a m = (m.load (intSlot 0)).2.updateAll f
      (valSlots 3 a (downCount (wordOf (Traced.bytes m.mem 0 4)))).reverse := by
    rw [swapVals, ha]
    rfl
  rw [AllFit, hload, Traced.updateAll_log hf, Traced.load_log, and_assoc, ← forall_lt_end h12]
  refine and_congr Iff.rfl ?_
  simp only [List.mem_reverse, forall_valSlots, Fits, intSlot, valSlot, msgUnionSize, hdecl]
  simp only [maxMsgSize] at hlen
  constructor
  · rintro ⟨-, h⟩ i hi
    exact (h i hi).1.2.2 trivial
  · intro h
    refine ⟨⟨by decide, by decide, fun _ => by omega⟩, fun i hi => ?_⟩
    have hi := h i hi
    exact ⟨⟨by omega, by omega, fun _ => hi⟩, by omega, by omega, fun h => absurd h (by decide)⟩

/-- The swap of `vals` adds to the record. -/
theorem swapVals_log {f : List Byte → List Byte}
    (hf : ∀ k, Traced.Keeps f (valSlots 3 a k).reverse) :
    ∀ x ∈ m.log, x ∈ (swapVals f 3 a m).log := by
  have hall := (Traced.updateAll_log (P := (· ∈ (swapVals f 3 a m).log)) (hf _)).mp fun _ hx => hx
  exact (Traced.load_log.mp hall.1).1

/-- A count that is not negative is the number of passes. -/
theorem downCount_eq {c : Word} (h : c.toNat < 2 ^ 31) : downCount c = c.toNat := by
  by_cases hc : c = 0
  · rw [hc]
    rfl
  · have hpos : 0 < c.toNat := Nat.pos_of_ne_zero fun h => hc (BitVec.eq_of_toNat_eq h)
    have hsub : (c - 1).toNat = c.toNat - 1 :=
      BitVec.toNat_sub_of_le (BitVec.le_def.mpr hpos)
    rw [downCount, BitVec.toInt_eq_toNat_of_lt (by omega), hsub]
    omega

/-- A callback that reads three `int`s. -/
theorem readCmd_read32_fits :
    AllFit len (readCmd .read32 m).2 ↔ AllFit len m ∧ 12 ≤ len := by
  have hread : (readCmd .read32 m).2 = (m.loadAll (intSlots 3)).2 := rfl
  rw [AllFit, hread, Traced.loadAll_log, forall_intSlots]
  refine and_congr Iff.rfl ?_
  have hend : (∀ i < 3, 0 + 4 * i + 4 ≤ len) ↔ 0 + 4 * 3 ≤ len := forall_lt_end (Nat.zero_le _)
  simp only [Nat.zero_add] at hend
  rw [← hend]
  apply forall₂_congr
  intro i hi
  simp only [Fits, intSlot, msgUnionSize]
  exact ⟨fun h => h.2.2 trivial, fun h => ⟨Nat.le_refl _, by omega, fun _ => h⟩⟩

/-- A callback that reads `vals` as well. -/
theorem readCmd_write32_fits (hlen : len ≤ maxMsgSize) :
    AllFit len (readCmd .write32 m).2 ↔
      AllFit len m ∧ 12 + 4 * (wordOf (Traced.bytes m.mem 0 4)).toNat ≤ len := by
  have hread : (readCmd .write32 m).2 = ((m.loadAll (intSlots 3)).2.loadAll
      (valSlots 3 ⟨0, 4, 10000⟩ (wordOf (Traced.bytes m.mem 0 4)).toNat)).2 := rfl
  have hints : AllFit len (m.loadAll (intSlots 3)).2 ↔ AllFit len m ∧ 12 ≤ len :=
    readCmd_read32_fits
  rw [AllFit, hread, Traced.loadAll_log, forall_valSlots, ← AllFit, hints, and_assoc]
  refine and_congr Iff.rfl ?_
  simp only [Fits, valSlot, msgUnionSize]
  simp only [maxMsgSize] at hlen
  constructor
  · rintro ⟨h12, h⟩
    exact (forall_lt_end h12).mp fun i hi => (h i hi).2.2 trivial
  · intro h
    refine ⟨by omega, fun i hi => ?_⟩
    have hi := (forall_lt_end (w := 4) (by omega)).mpr h i hi
    exact ⟨by omega, by omega, fun _ => hi⟩

end Stages

/-! ## The count -/

section Count

variable {n : Nat} {m : Traced} {a : ValsArray} {payload : List Byte} {mem : Nat → Byte}

theorem wordOf_dwSwapBytes (bs : List Byte) : wordOf (dwSwapBytes bs) = dwSwap (wordOf bs) :=
  wordOf_leBytes _

theorem intSlots_disjoint : (intSlots n).Pairwise Traced.Disjoint := by
  apply List.Pairwise.map intSlot _ List.pairwise_lt_range
  intro i j hij
  simp only [Traced.Disjoint, intSlot]
  omega

/-- The swap of the `int`s turns the count round. -/
theorem swapInts_cnt (hn : 0 < n) :
    wordOf (Traced.bytes (swapInts n m).mem 0 4) = dwSwap (wordOf (Traced.bytes m.mem 0 4)) := by
  have hmem : intSlot 0 ∈ intSlots n := List.mem_map.mpr ⟨0, List.mem_range.mpr hn, rfl⟩
  have hbytes := Traced.updateAll_bytes (m := m) (keeps_dwSwap intSlots_size) intSlots_disjoint hmem
  rw [← wordOf_dwSwapBytes]
  exact congrArg wordOf hbytes

/-- The swap of `vals` leaves it alone. -/
theorem swapVals_cnt {f : List Byte → List Byte}
    (hf : ∀ k, Traced.Keeps f (valSlots 3 a k).reverse) :
    Traced.bytes (swapVals f 3 a m).mem 0 4 = Traced.bytes m.mem 0 4 := by
  apply Traced.bytes_congr
  intro i hi
  apply Traced.updateAll_outside (hf _)
  intro s hs
  rcases List.mem_map.mp (List.mem_reverse.mp hs) with ⟨j, -, rfl⟩
  simp only [valSlot]
  omega

/-- The count that the function of a command works with is the one the client means. -/
theorem cnt_client (swap : Bool) (hlen : 4 ≤ payload.length) :
    wordOf (Traced.bytes (if swap then swapInts 3 ⟨Traced.put mem 0 payload, []⟩
      else ⟨Traced.put mem 0 payload, []⟩).mem 0 4) = clientCnt swap payload := by
  have hpart : Traced.bytes (Traced.put mem 0 payload) 0 4 = payload.take 4 :=
    Traced.bytes_put_part (k := 0) (by rwa [Nat.zero_add])
  cases swap with
  | false =>
    rw [clientCnt, headerInt, ← hpart]
    rfl
  | true =>
    rw [clientCnt, headerInt, ← hpart, if_pos rfl, if_pos rfl]
    exact swapInts_cnt (by decide)

end Count

/-! ## The commands one by one -/

section Commands

variable {δ : Type} (bus : Bus Word Word δ) {swap : Bool} {m : Traced} {dev : δ}
  {payload : List Byte} {mem : Nat → Byte}

/-- The header swap of a command, on the payload as it has been received. -/
def received (swap : Bool) (n : Nat) (mem : Nat → Byte) (payload : List Byte) : Traced :=
  if swap then swapInts n ⟨Traced.put mem 0 payload, []⟩ else ⟨Traced.put mem 0 payload, []⟩

theorem received_fits {n : Nat} (hn : n ≤ 4) :
    AllFit payload.length (received swap n mem payload) ↔
      (swap = true → 4 * n ≤ payload.length) := by
  cases swap with
  | false => simp [received, AllFit]
  | true =>
    rw [received, if_pos rfl, swapInts_fits hn]
    simp [AllFit]

theorem delay_contained :
    AllFit payload.length
        (crateMsgDelay (diagGuiCallbacks bus) swap ⟨Traced.put mem 0 payload, []⟩ dev).msg ↔
      InMessage swap payload .delay :=
  received_fits (n := 1) (by decide)

theorem read16_contained :
    AllFit payload.length
        (crateMsgRead16 (diagGuiCallbacks bus) swap ⟨Traced.put mem 0 payload, []⟩ dev).msg ↔
      InMessage swap payload .read16 :=
  received_fits (n := 3) (by decide)

theorem write16_contained (hlen : payload.length ≤ maxMsgSize) :
    AllFit payload.length
        (crateMsgWrite16 (diagGuiCallbacks bus) swap ⟨Traced.put mem 0 payload, []⟩ dev).msg ↔
      InMessage swap payload .write16 := by
  cases swap with
  | false =>
    refine iff_of_true ?_ nofun
    exact fun a ha => absurd ha List.not_mem_nil
  | true =>
    have hmsg : (crateMsgWrite16 (diagGuiCallbacks bus) true
        ⟨Traced.put mem 0 payload, []⟩ dev).msg =
          swapVals hwSwapBytes 3 ⟨0, 2, 20000⟩ (received true 3 mem payload) := by
      simp only [crateMsgWrite16, callWrite, diagGuiCallbacks, Handled.returnZero, received,
        if_true]
    rw [hmsg, InMessage]
    by_cases h12 : 12 ≤ payload.length
    · rw [swapVals_fits rfl (keeps_hwSwap valSlots_size) (by decide) hlen h12,
        received_fits (by decide),
        received, cnt_client true (by omega)]
      exact ⟨fun h _ => h.2, fun h => ⟨fun _ => h12, h rfl⟩⟩
    · -- the swap of the count, the address and the flags alone reads too far
      refine iff_of_false (fun hfit => h12 ?_) (fun h => h12 (by have := h rfl; omega))
      have hints : AllFit payload.length (received true 3 mem payload) :=
        fun a ha => hfit a (swapVals_log (fun _ => keeps_hwSwap valSlots_size) a ha)
      exact (received_fits (by decide)).mp hints rfl

theorem write32_contained (hlen : payload.length ≤ maxMsgSize) :
    AllFit payload.length
        (crateMsgWrite32 (diagGuiCallbacks bus) swap ⟨Traced.put mem 0 payload, []⟩ dev).msg ↔
      InMessage swap payload .write32 := by
  have hmsg : (crateMsgWrite32 (diagGuiCallbacks bus) swap
      ⟨Traced.put mem 0 payload, []⟩ dev).msg = (readCmd .write32 (if swap then
        swapVals dwSwapBytes 3 ⟨0, 4, 10000⟩ (received true 3 mem payload)
          else ⟨Traced.put mem 0 payload, []⟩)).2 := by
    cases swap <;>
      simp only [crateMsgWrite32, callWrite, diagGuiCallbacks, Handled.returnZero, received,
        if_true,
        if_false, Bool.false_eq_true]
  rw [hmsg, readCmd_write32_fits hlen, InMessage]
  by_cases h12 : 12 ≤ payload.length
  · have hcnt := @cnt_client _ mem swap (Nat.le_trans (by decide) h12)
    cases swap with
    | false =>
      rw [if_neg Bool.false_ne_true] at hcnt ⊢
      rw [hcnt]
      exact and_iff_right fun a ha => absurd ha List.not_mem_nil
    | true =>
      rw [if_pos rfl] at hcnt ⊢
      rw [swapVals_cnt fun k => keeps_dwSwap valSlots_size, received, if_pos rfl, hcnt,
        swapVals_fits rfl (keeps_dwSwap valSlots_size) (by decide) hlen h12, hcnt]
      refine and_iff_right_of_imp fun hcount => ⟨?_, ?_⟩
      · have hints : AllFit payload.length (received true 3 mem payload) :=
          (received_fits (by decide)).mpr fun _ => h12
        exact hints
      · have hsmall := downCount_eq (c := clientCnt true payload) (by
          simp only [maxMsgSize] at hlen
          omega)
        rw [hsmall]
        exact hcount
  · refine iff_of_false (fun h => h12 ?_) (fun h => h12 (by omega))
    have := h.2
    omega

/-- The response of `Vtp_Read32` has a count and as many values. -/
theorem read32Pass_length (adrinc : Bool) (k : Nat) (s : List Word × Word × δ) :
    (Nat.iterate (read32Pass bus adrinc) k s).1.length = s.1.length + k := by
  induction k generalizing s with
  | zero => rfl
  | succ k ih =>
    rw [Function.iterate_succ_apply, ih]
    simp only [read32Pass, List.length_append, List.length_singleton]
    omega

theorem vtpRead32Cb_length (cmd : Cmd) :
    (vtpRead32Cb bus cmd dev).2.1.length = 4 + 4 * (cmd.int 0).toNat := by
  have hvals := read32Pass_length bus (adrInc (cmd.int 2)) (cmd.int 0).toNat ([], cmd.int 1, dev)
  have hbytes : ∀ vals : List Word, (vals.flatMap fun v => leBytes 4 v.toNat).length =
      4 * vals.length := by
    intro vals
    rw [List.length_flatMap]
    simp [Nat.mul_comm]
  simp only [vtpRead32Cb, whileDec, List.length_append, leBytes_length, hbytes, hvals,
    List.length_nil, Nat.zero_add]

/-- The length of the reply for a count that fits. -/
theorem read32_size {c : Word} (h : c.toNat ≤ 10000) : (4 + 4 * c : Word).toInt ≤ msgUnionSize := by
  have hnat : (4 + 4 * c : Word).toNat = 4 + 4 * c.toNat := by
    have hfour : (4 : Word).toNat = 4 := rfl
    rw [BitVec.toNat_add, BitVec.toNat_mul, hfour]
    omega
  rw [BitVec.toInt_eq_toNat_of_lt (by omega), hnat, msgUnionSize]
  omega

theorem read32_contained :
    (AllFit payload.length
        (crateMsgRead32 (diagGuiCallbacks bus) swap ⟨Traced.put mem 0 payload, []⟩ dev).msg ∧
      (crateMsgRead32 (diagGuiCallbacks bus) swap
        ⟨Traced.put mem 0 payload, []⟩ dev).result.toInt ≤ msgUnionSize) ↔
      InMessage swap payload .read32 := by
  have hcmd : (readCmd .read32 (received swap 3 mem payload)).1.int 0 =
      wordOf (Traced.bytes (received swap 3 mem payload).mem 0 4) := rfl
  have hmsg : (crateMsgRead32 (diagGuiCallbacks bus) swap
      ⟨Traced.put mem 0 payload, []⟩ dev).msg =
        (readCmd .read32 (received swap 3 mem payload)).2.store 0
          (vtpRead32Cb bus (readCmd .read32 (received swap 3 mem payload)).1 dev).2.1 40004 := rfl
  have hresult : (crateMsgRead32 (diagGuiCallbacks bus) swap
      ⟨Traced.put mem 0 payload, []⟩ dev).result =
        4 + 4 * (readCmd .read32 (received swap 3 mem payload)).1.int 0 := rfl
  rw [hmsg, hresult, AllFit, Traced.store_log, ← AllFit, readCmd_read32_fits, vtpRead32Cb_length,
    received_fits (by decide), hcmd, InMessage]
  constructor
  · rintro ⟨⟨⟨-, h12⟩, hstore⟩, -⟩
    rw [received, cnt_client swap (by omega)] at hstore
    have hend := hstore.1
    simp only at hend
    exact ⟨h12, by omega⟩
  · rintro ⟨h12, hcnt⟩
    rw [received, cnt_client swap (by omega)]
    refine ⟨⟨⟨fun _ => h12, h12⟩, ?_⟩, read32_size hcnt⟩
    exact ⟨by simp only; omega, Nat.le_add_right 40004 12, nofun⟩

end Commands

/-- The handling of a message stays within its bytes and the union exactly if its length
and its count are in order. -/
theorem message_contained_iff {δ : Type} (msg : Accepted) (bus : Bus Word Word δ) (swap : Bool)
    (mem : Nat → Byte) (dev : δ) :
    msg.Contained bus swap mem dev ↔ ∀ t, msg.type = t.code → InMessage swap msg.payload t := by
  by_cases hknown : ∃ t : MsgType, msg.type = t.code
  · rcases hknown with ⟨t, ht⟩
    have hone : (∀ t', msg.type = t'.code → InMessage swap msg.payload t') ↔
        InMessage swap msg.payload t := by
      refine ⟨fun h => h t ht, fun h t' ht' => ?_⟩
      have hcode : t.code = t'.code := ht.symm.trans ht'
      rwa [← MsgType.code_inj hcode]
    rw [hone, Accepted.Contained, ht, dispatch_code]
    have hsmall : (0 : Word).toInt ≤ msgUnionSize := by decide
    have hnothing : AllFit msg.payload.length ⟨Traced.put mem 0 msg.payload, []⟩ :=
      fun a ha => absurd ha List.not_mem_nil
    cases t with
    | read16 => exact (and_iff_left hsmall).trans (read16_contained bus)
    | write16 => exact (and_iff_left hsmall).trans (write16_contained bus msg.fits)
    | read32 => exact read32_contained bus
    | write32 => exact (and_iff_left hsmall).trans (write32_contained bus msg.fits)
    | delay => exact (and_iff_left hsmall).trans (delay_contained bus)
    | readBoard | getCrateMap | getBoardParams | getChannelParams | setChannelParams
    | dataReadBoard => exact iff_of_true ⟨hnothing, hsmall⟩ trivial
  · have hnone : ∀ t : MsgType, msg.type ≠ t.code := fun t ht => hknown ⟨t, ht⟩
    rw [Accepted.Contained, dispatch_unknown _ _ _ _ hnone]
    exact iff_of_true trivial fun t ht => absurd ht (hnone t)

/-- A request to write one register that ends before the value. -/
def writeNothing : Accepted where
  type := MsgType.write32.code
  payload := [1, 0, 0, 0, 0, 0, 0, 0, 0, 0, 0, 0]
  fits := readOne.fits

/-- The value written is what an earlier message, or the allocation, has left there. -/
theorem write_reads_behind_message :
    ¬writeNothing.Contained ⟨fun d _ => (0, d), fun d _ _ => d⟩ false (fun _ => 0) () := by
  intro hcontained
  have hread : Fits 12 ⟨.read, 12, 4, 40012⟩ :=
    hcontained.1 _ (List.mem_of_getElem? (i := 3) rfl)
  exact absurd (hread.2.2 rfl) (by decide)

end VtpStreaming
