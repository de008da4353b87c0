import VtpStreaming.CrateEndian
import VtpStreaming.Clib.Records

/-!
# Registers over the network

`DiagGui/DiagGuiServer.c` behind `DiagGui/CrateMsgServer.c`. A client of either byte order
says hello, sends requests to read and write registers, and takes the replies apart. What
it gets is what the same accesses, made one after the other on the board itself, would
have got, up to the first request that a `recv` does not find in one piece.
-/

namespace VtpStreaming

open Clib

/-! ## Requests -/

/-- What a client asks for, within the arrays of the messages. -/
inductive RegRequest
  | read (addr flags : Word) (cnt : Nat) (fits : cnt ≤ 10000)
  | write (addr flags : Word) (vals : List Word) (fits : vals.length ≤ 9997)

theorem read_size : 4 * MsgType.read32.ints + MsgType.read32.width * ([] : List Word).length ≤
    maxMsgSize := by decide

/-- A count is what its word says. -/
theorem toNat_cnt {n : Nat} (fits : n ≤ 10000) : (BitVec.ofNat 32 n).toNat = n := by
  rw [BitVec.toNat_ofNat]
  exact Nat.mod_eq_of_lt (Nat.lt_of_le_of_lt fits (by decide))

section Shapes

variable (cnt : Nat) (addr flags : Word)

theorem read_ints : [BitVec.ofNat 32 cnt, addr, flags].length = MsgType.read32.ints := rfl

theorem read_counted : ([] : List Word).length =
    MsgType.read32.counted [BitVec.ofNat 32 cnt, addr, flags] := rfl

theorem write_ints (vals : List Word) :
    [BitVec.ofNat 32 vals.length, addr, flags].length = MsgType.write32.ints := rfl

end Shapes

section Sizes

variable {vals : List Word} (fits : vals.length ≤ 9997)
include fits

theorem write_counted (addr flags : Word) :
    vals.length = MsgType.write32.counted [BitVec.ofNat 32 vals.length, addr, flags] :=
  (toNat_cnt (Nat.le_trans fits (by decide))).symm

theorem write_size : 4 * MsgType.write32.ints + MsgType.write32.width * vals.length ≤
    maxMsgSize := by
  show 4 * 3 + 4 * vals.length ≤ 40000
  omega

end Sizes

theorem vals_fit_read : ∀ v ∈ ([] : List Word), v.toNat < 256 ^ MsgType.read32.width :=
  List.forall_mem_nil _

theorem vals_fit_write (vals : List Word) : ∀ v ∈ vals, v.toNat < 256 ^ MsgType.write32.width :=
  fun v _ => v.isLt

namespace RegRequest

/-- `Cmd_Read32` and `Cmd_Write32`. -/
def command : RegRequest → Command
  | .read addr flags cnt _ =>
    ⟨.read32, [BitVec.ofNat 32 cnt, addr, flags], [], read_ints cnt addr flags,
      read_counted cnt addr flags, vals_fit_read, read_size⟩
  | .write addr flags vals fits =>
    ⟨.write32, [BitVec.ofNat 32 vals.length, addr, flags], vals, write_ints addr flags vals,
      write_counted fits addr flags, vals_fit_write vals, write_size fits⟩

def message (swap : Bool) (r : RegRequest) : Message := r.command.message swap

end RegRequest

/-- The addresses of `cnt` accesses. With `CRATE_MSG_FLAGS_ADRINC` they are one byte apart. -/
def accessAddrs (adrinc : Bool) : Word → Nat → List Word
  | _, 0 => []
  | a, n + 1 => a :: accessAddrs adrinc (if adrinc then a + 1 else a) n

/-! ## The accesses themselves -/

section Direct

variable {δ : Type} (bus : Bus Word Word δ)

def readRegs : List Word → δ → List Word × δ
  | [], dev => ([], dev)
  | a :: as, dev =>
    let here := bus.read dev a
    let more := readRegs as here.2
    (here.1 :: more.1, more.2)

def writeRegs (accesses : List (Word × Word)) (dev : δ) : δ :=
  accesses.foldl (fun dev access => bus.write dev access.1 access.2) dev

/-- What a request does to the board. -/
def RegRequest.dev (r : RegRequest) (dev : δ) : δ :=
  match r with
  | .read addr flags cnt _ => (readRegs bus (accessAddrs (adrInc flags) addr cnt) dev).2
  | .write addr flags vals _ =>
    writeRegs bus ((accessAddrs (adrInc flags) addr vals.length).zip vals) dev

/-- The values that the requests read, one list for each that reads. -/
def readValues : List RegRequest → δ → List (List Word)
  | [], _ => []
  | .read addr flags cnt fits :: rs, dev =>
    (readRegs bus (accessAddrs (adrInc flags) addr cnt) dev).1 ::
      readValues rs ((RegRequest.read addr flags cnt fits).dev bus dev)
  | .write addr flags vals fits :: rs, dev =>
    readValues rs ((RegRequest.write addr flags vals fits).dev bus dev)

end Direct

/-! ## What the client reads -/

/-- An `int`, low byte first: the client has turned it round if its own order is another. -/
def takeInt (bs : List Byte) : Option (Word × List Byte) :=
  if 4 ≤ bs.length then some (wordOf (bs.take 4), bs.drop 4) else none

/-- The values of a response: the count and as many `int`s. -/
def takeVals (bs : List Byte) : Option (List Word) :=
  (takeInt bs).bind fun cnt => records takeInt cnt.1.toNat cnt.2

/-- A response of `CRATEMSG_TYPE_READ32`: the length of its values, its type and the values. -/
def takeReply (bs : List Byte) : Option (List Word × List Byte) :=
  (takeInt bs).bind fun len =>
    (takeInt len.2).bind fun type =>
      if type.1 = cmdRsp MsgType.read32.code ∧ len.1.toNat ≤ type.2.length then
        (takeVals (type.2.take len.1.toNat)).map fun vals => (vals, type.2.drop len.1.toNat)
      else none

/-- The hello of the server and the responses to the client's requests. -/
def clientReads (bs : List Byte) : Option (List (List Word)) :=
  (takeInt bs).bind fun hello =>
    if hello.1 = crateMsgHdrId then records takeReply hello.2.length hello.2 else none

/-- What the client gets of the events of a connection. -/
def CrateEvent.sent : CrateEvent → List Byte
  | .hello val => leBytes 4 val.toNat
  | .command _ _ => []
  | .reply bytes => bytes

/-- What the callbacks get. -/
def CrateEvent.handed : CrateEvent → Option (MsgType × Cmd)
  | .command t c => some (t, c)
  | _ => none

/-! ## How far the server gets -/

instance decidableUndivided (cut : Nat → Nat) :
    (k : Nat) → (sizes : List Nat) → Decidable (Undivided cut k sizes)
  | _, [] => isTrue trivial
  | k, n :: sizes =>
    haveI := decidableUndivided cut (k + 1) sizes
    inferInstanceAs (Decidable (n ≤ max 1 (cut k) ∧ Undivided cut (k + 1) sizes))

/-- The requests before the first that comes in pieces, from `recv` number `k` on. -/
def whollyReceived (cut : Nat → Nat) : Nat → List RegRequest → List RegRequest
  | _, [] => []
  | k, r :: rs =>
    if Undivided cut k (r.message false).asks then
      r :: whollyReceived cut (k + (r.message false).asks.length) rs
    else []

/-- The requests that are served: none when the hello comes in pieces. -/
def served (cut : Nat → Nat) (rs : List RegRequest) : List RegRequest :=
  if 4 ≤ max 1 (cut 0) then whollyReceived cut 1 rs else []

/-! ## Responses are read back -/

section Reads

variable {rest : List Byte} {vals : List Word}

theorem takeInt_put (v : Word) : takeInt (leBytes 4 v.toNat ++ rest) = some (v, rest) := by
  have hlen : 4 ≤ (leBytes 4 v.toNat ++ rest).length := by simp
  rw [takeInt, if_pos hlen, List.take_left' (leBytes_length _ _),
    List.drop_left' (leBytes_length _ _), wordOf_leBytes]

/-- The values of a response, as `Vtp_Read32` puts them. -/
def valsBytes (vals : List Word) : List Byte :=
  leBytes 4 (BitVec.ofNat 32 vals.length).toNat ++ vals.flatMap fun v => leBytes 4 v.toNat

theorem valsBytes_length : (valsBytes vals).length = 4 + 4 * vals.length := by
  have hpieces := length_flatMap_pieces (g := fun v : Word => leBytes 4 v.toNat) vals
    fun v => leBytes_length 4 v.toNat
  rw [valsBytes, List.length_append, leBytes_length, hpieces]

theorem takeVals_put (fits : vals.length ≤ 10000) : takeVals (valsBytes vals) = some vals := by
  rw [takeVals, valsBytes, takeInt_put, Option.bind_some, toNat_cnt fits]
  apply records_flatMap (Nat.le_refl _)
  · intro v _ hnil
    have hlen := leBytes_length 4 v.toNat
    rw [hnil] at hlen
    cases hlen
  · exact fun v _ rest => takeInt_put v

/-- What the server sends for the values. -/
def replyOf (vals : List Word) : List Byte :=
  leBytes 4 (4 + 4 * BitVec.ofNat 32 vals.length : Word).toNat ++
    leBytes 4 (cmdRsp MsgType.read32.code).toNat ++ valsBytes vals

theorem reply_length (fits : vals.length ≤ 10000) :
    (4 + 4 * BitVec.ofNat 32 vals.length : Word).toNat = 4 + 4 * vals.length := by
  have hfour : (4 : Word).toNat = 4 := rfl
  rw [BitVec.toNat_add, BitVec.toNat_mul, hfour, BitVec.toNat_ofNat]
  omega

theorem takeReply_put (fits : vals.length ≤ 10000) :
    takeReply (replyOf vals ++ rest) = some (vals, rest) := by
  have hroom : (4 + 4 * BitVec.ofNat 32 vals.length : Word).toNat ≤
      (valsBytes vals ++ rest).length := by
    rw [reply_length fits, List.length_append, valsBytes_length]
    exact Nat.le_add_right _ _
  have hsize : (valsBytes vals).length =
      (4 + 4 * BitVec.ofNat 32 vals.length : Word).toNat := by
    rw [reply_length fits, valsBytes_length]
  rw [replyOf, takeReply, List.append_assoc, List.append_assoc, takeInt_put, Option.bind_some,
    takeInt_put, Option.bind_some, if_pos ⟨rfl, hroom⟩, List.take_left' hsize,
    List.drop_left' hsize, takeVals_put fits, Option.map_some]

end Reads

/-! ## The loops of the callbacks -/

section Loops

variable {δ : Type} (bus : Bus Word Word δ)

theorem readRegs_length (as : List Word) (dev : δ) :
    (readRegs bus as dev).1.length = as.length := by
  induction as generalizing dev with
  | nil => rfl
  | cons a as ih => exact congrArg (· + 1) (ih _)

theorem accessAddrs_length (adrinc : Bool) (a : Word) (n : Nat) :
    (accessAddrs adrinc a n).length = n := by
  induction n generalizing a with
  | zero => rfl
  | succ n ih => exact congrArg (· + 1) (ih _)

/-- The passes of `Vtp_Read32` are the accesses, one by one. -/
theorem read32Pass_iterate (adrinc : Bool) (n : Nat) (vals : List Word) (a : Word) (dev : δ) :
    (Nat.iterate (read32Pass bus adrinc) n (vals, a, dev)).1 =
        vals ++ (readRegs bus (accessAddrs adrinc a n) dev).1 ∧
      (Nat.iterate (read32Pass bus adrinc) n (vals, a, dev)).2.2 =
        (readRegs bus (accessAddrs adrinc a n) dev).2 := by
  induction n generalizing vals a dev with
  | zero => exact ⟨(List.append_nil vals).symm, rfl⟩
  | succ n ih =>
    obtain ⟨hvals, hdev⟩ := ih (vals ++ [(bus.read dev a).1]) (if adrinc then a + 1 else a)
      (bus.read dev a).2
    rw [Function.iterate_succ_apply]
    constructor
    · exact hvals.trans (List.append_assoc _ _ _)
    · exact hdev

/-- The passes of `Vtp_Write32` are the accesses, one by one. -/
theorem write32Pass_iterate (adrinc : Bool) (vals : List Word) (a : Word) (dev : δ) :
    (Nat.iterate (write32Pass bus adrinc) vals.length (vals, a, dev)).2.2 =
      writeRegs bus ((accessAddrs adrinc a vals.length).zip vals) dev := by
  induction vals generalizing a dev with
  | nil => rfl
  | cons v vals ih =>
    rw [List.length_cons, Function.iterate_succ_apply]
    exact ih (if adrinc then a + 1 else a) (bus.write dev a v)

theorem vtpRead32Cb_eq (cmd : Cmd) (dev : δ) :
    let regs := readRegs bus (accessAddrs (adrInc (cmd.int 2)) (cmd.int 1) (cmd.int 0).toNat) dev
    vtpRead32Cb bus cmd dev = (4 + 4 * cmd.int 0,
      leBytes 4 (cmd.int 0).toNat ++ regs.1.flatMap fun v => leBytes 4 v.toNat, regs.2) := by
  obtain ⟨hvals, hdev⟩ := read32Pass_iterate bus (adrInc (cmd.int 2)) (cmd.int 0).toNat []
    (cmd.int 1) dev
  rw [List.nil_append] at hvals
  dsimp only
  rw [← hvals, ← hdev]
  rfl

theorem vtpWrite32Cb_eq {cmd : Cmd} (hcnt : (cmd.int 0).toNat = cmd.vals.length) (dev : δ) :
    vtpWrite32Cb bus cmd dev = (0, writeRegs bus
      ((accessAddrs (adrInc (cmd.int 2)) (cmd.int 1) cmd.vals.length).zip cmd.vals) dev) := by
  rw [← write32Pass_iterate, ← hcnt]
  rfl

end Loops

/-! ## One request -/

section Request

variable {δ : Type} (bus : Bus Word Word δ) {swap : Bool} {mem : Nat → Byte} {log : List Access}

/-- A callback is handed the request as the client means it. -/
theorem native_cmd (r : RegRequest) :
    (readCmd r.command.type ⟨Traced.put mem 0 (r.command.payload false), log⟩).1 =
      ⟨r.command.ints, r.command.vals⟩ := by
  have hnative : r.command.ints.map (fun v => if false then dwSwap v else v) = r.command.ints :=
    List.map_id _
  have hints := @readCmd_ints false mem log r.command
  have hvals := @readCmd_vals false mem log r.command hnative
  have hsame : r.command.vals.map (fun v => wordOf (putVal false r.command.type.width v)) =
      r.command.vals := by
    cases r with
    | read addr flags cnt fits => rfl
    | write addr flags vals fits =>
      calc vals.map (fun v => wordOf (putVal false MsgType.write32.width v))
          = vals.map id := List.map_congr_left fun v _ => wordOf_leBytes v
        _ = vals := List.map_id vals
  cases hcmd : (readCmd r.command.type ⟨Traced.put mem 0 (r.command.payload false), log⟩).1 with
  | mk ints vals =>
    rw [hcmd] at hints hvals
    rw [← hsame, ← hvals, ← hnative, ← hints]

/-- What is seen of a request. -/
def RegRequest.events (r : RegRequest) (dev : δ) : List CrateEvent :=
  match r with
  | .read addr flags cnt fits =>
    [.command .read32 ⟨(RegRequest.read addr flags cnt fits).command.ints, []⟩,
      .reply (replyOf (readRegs bus (accessAddrs (adrInc flags) addr cnt) dev).1)]
  | .write addr flags vals fits =>
    [.command .write32 ⟨(RegRequest.write addr flags vals fits).command.ints, vals⟩]

/-- What `Vtp_Read32` answers is sent from the union. -/
theorem answer_read {m : Traced} {events next : List CrateEvent} {dev : δ} {vals : List Word}
    {cnt : Nat} (hlen : vals.length = cnt) (fits : cnt ≤ 10000) (objEnd : Nat) :
    Handled.answer ⟨4 + 4 * BitVec.ofNat 32 cnt, events, m.store 0
        (leBytes 4 (BitVec.ofNat 32 cnt).toNat ++ vals.flatMap fun v => leBytes 4 v.toNat) objEnd,
        dev⟩ MsgType.read32.code next =
      events ++ .reply (replyOf vals) :: next := by
  subst hlen
  have hsize := reply_length fits
  have hint : (4 + 4 * BitVec.ofNat 32 vals.length : Word).toInt = (4 + 4 * vals.length : Nat) := by
    rw [BitVec.toInt_eq_toNat_of_lt (by omega), hsize]
  have hbytes : Traced.bytes (Traced.put m.mem 0 (valsBytes vals)) 0
      (4 + 4 * BitVec.ofNat 32 vals.length : Word).toNat = valsBytes vals := by
    rw [hsize, ← valsBytes_length]
    exact Traced.bytes_put
  rw [← valsBytes, Handled.answer]
  dsimp only
  rw [if_neg (by omega), if_pos (by omega), replyBytes, Traced.store, hbytes]
  rfl

/-- What `Vtp_Read32` makes of a command in memory. -/
theorem handle_read32 {m : Traced} {cnt addr flags : Word} {n : Nat} (dev : δ)
    (hcmd : (readCmd .read32 m).1 = ⟨[cnt, addr, flags], []⟩) (hcnt : cnt.toNat = n) :
    let regs := readRegs bus (accessAddrs (adrInc flags) addr n) dev
    MsgType.read32.handle (diagGuiCallbacks bus) false m dev =
      ⟨4 + 4 * cnt, [.command .read32 ⟨[cnt, addr, flags], []⟩],
        (readCmd .read32 m).2.store 0 (leBytes 4 cnt.toNat ++
          regs.1.flatMap fun v => leBytes 4 v.toNat) 40004, regs.2⟩ := by
  have hcallback := vtpRead32Cb_eq bus ⟨[cnt, addr, flags], []⟩ dev
  have hhandle : MsgType.read32.handle (diagGuiCallbacks bus) false m dev =
      ⟨(vtpRead32Cb bus (readCmd .read32 m).1 dev).1, [.command .read32 (readCmd .read32 m).1],
        (readCmd .read32 m).2.store 0 (vtpRead32Cb bus (readCmd .read32 m).1 dev).2.1 40004,
        (vtpRead32Cb bus (readCmd .read32 m).1 dev).2.2⟩ := rfl
  subst hcnt
  dsimp only at hcallback ⊢
  rw [hhandle, hcmd, hcallback]
  rfl

/-- What `Vtp_Write32` makes of one. -/
theorem handle_write32 {m : Traced} {cnt addr flags : Word} {vals : List Word} (dev : δ)
    (hcmd : (readCmd .write32 m).1 = ⟨[cnt, addr, flags], vals⟩) (hcnt : cnt.toNat = vals.length) :
    MsgType.write32.handle (diagGuiCallbacks bus) false m dev =
      ⟨0, [.command .write32 ⟨[cnt, addr, flags], vals⟩], (readCmd .write32 m).2,
        writeRegs bus ((accessAddrs (adrInc flags) addr vals.length).zip vals) dev⟩ := by
  have hhandle : MsgType.write32.handle (diagGuiCallbacks bus) false m dev =
      ⟨0, [.command .write32 (readCmd .write32 m).1], (readCmd .write32 m).2,
        (vtpWrite32Cb bus (readCmd .write32 m).1 dev).2⟩ := rfl
  have hcallback := @vtpWrite32Cb_eq δ bus ⟨[cnt, addr, flags], vals⟩ hcnt dev
  rw [hhandle, hcmd, hcallback]
  rfl

/-- A request in the server's byte order does what it asks for, and nothing else is seen. -/
theorem native_request (r : RegRequest) (dev : δ) (next : List CrateEvent) :
    let h := r.command.type.handle (diagGuiCallbacks bus) false
      ⟨Traced.put mem 0 (r.command.payload false), log⟩ dev
    h.dev = r.dev bus dev ∧ h.answer r.command.type.code next = r.events bus dev ++ next := by
  have hcmd := @native_cmd mem log r
  dsimp only
  cases r with
  | read addr flags cnt fits =>
    have hlen : (readRegs bus (accessAddrs (adrInc flags) addr cnt) dev).1.length = cnt := by
      rw [readRegs_length, accessAddrs_length]
    have hhandle := handle_read32 bus dev hcmd (toNat_cnt fits)
    dsimp only [RegRequest.command] at hhandle ⊢
    rw [hhandle]
    exact ⟨rfl, answer_read hlen fits 40004⟩
  | write addr flags vals fits =>
    have hhandle := handle_write32 bus dev hcmd (toNat_cnt (Nat.le_trans fits (by decide)))
    dsimp only [RegRequest.command] at hhandle ⊢
    rw [hhandle]
    exact ⟨rfl, rfl⟩

/-- So does one in the other byte order. -/
theorem request_handled (r : RegRequest) (c : Conn δ) (next : List CrateEvent) :
    let h := (r.message swap).handled (diagGuiCallbacks bus) swap c
    h.dev = r.dev bus c.dev ∧
      h.answer (r.message swap).type.code next = r.events bus c.dev ++ next := by
  obtain ⟨hdev, hanswer⟩ := @native_request δ bus c.mem [] r c.dev next
  dsimp only
  cases swap with
  | false => exact ⟨hdev, hanswer⟩
  | true =>
    have hswaps : r.command.type.swaps = true := by cases r <;> rfl
    have hsame : ((r.message true).handled (diagGuiCallbacks bus) true c).Same
        (r.command.type.handle (diagGuiCallbacks bus) false
          ⟨Traced.put c.mem 0 (r.command.payload false), []⟩ c.dev) :=
      command_same (diagGuiCallbacks bus) (Or.inl hswaps) c.mem c.dev
    refine ⟨hsame.dev.trans hdev, ?_⟩
    rw [hsame.answer]
    exact hanswer

end Request

/-! ## The session -/

section Session

variable {δ : Type} (bus : Bus Word Word δ) {cut : Nat → Nat} {swap : Bool}

/-- What is seen of requests that are served. -/
def requestEvents : List RegRequest → δ → List CrateEvent
  | [], _ => []
  | r :: rs, dev => r.events bus dev ++ requestEvents rs (r.dev bus dev)

theorem message_asks (swap : Bool) (r : RegRequest) :
    (r.message swap).asks = (r.message false).asks := by
  have hlen : (r.command.payload swap).length = (r.command.payload false).length := by
    rw [Command.payload_length, Command.payload_length]
  have hempty : r.command.payload swap = [] ↔ r.command.payload false = [] := by
    rw [← List.length_eq_zero_iff, ← List.length_eq_zero_iff, hlen]
  show (8 :: if r.command.payload swap = [] then [] else [(r.command.payload swap).length]) =
    8 :: if r.command.payload false = [] then [] else [(r.command.payload false).length]
  by_cases h : r.command.payload false = []
  · rw [if_pos h, if_pos (hempty.mpr h)]
  · rw [if_neg h, if_neg (mt hempty.mp h), hlen]

/-- The thread serves what comes in one piece, and stops at the first request that does
not. -/
theorem connectionLoop_requests {rs : List RegRequest} {passes : Nat} {c : Conn δ}
    (hpasses : rs.length ≤ passes)
    (hs : c.stream = (rs.map (RegRequest.message swap)).flatMap (Message.encode swap)) :
    connectionLoop (diagGuiCallbacks bus) cut swap passes c =
      requestEvents bus (whollyReceived cut c.recvs rs) c.dev := by
  induction rs generalizing passes c with
  | nil => exact connectionLoop_end _ _ hs
  | cons r rs ih =>
    cases passes with
    | zero => exact absurd hpasses (Nat.not_succ_le_zero _)
    | succ passes =>
      rw [List.map_cons, List.flatMap_cons] at hs
      rw [whollyReceived]
      by_cases hwhole : Undivided cut c.recvs (r.message false).asks
      · have hasks : Undivided cut c.recvs (r.message swap).asks := by rwa [message_asks]
        obtain ⟨hdev, hanswer⟩ := @request_handled δ bus swap r c (connectionLoop
          (diagGuiCallbacks bus) cut swap passes ((r.message swap).after (diagGuiCallbacks bus)
            swap c ((rs.map (RegRequest.message swap)).flatMap (Message.encode swap))))
        have hrest := ih (c := (r.message swap).after (diagGuiCallbacks bus) swap c
          ((rs.map (RegRequest.message swap)).flatMap (Message.encode swap)))
          (Nat.le_of_succ_le_succ hpasses) rfl
        rw [connectionLoop_message _ passes hs hasks, hanswer, hrest, if_pos hwhole,
          requestEvents, Message.after, ← hdev, message_asks]
      · have hasks : ¬Undivided cut c.recvs (r.message swap).asks := by rwa [message_asks]
        rw [connectionLoop_divided _ passes hs hasks, if_neg hwhole]
        rfl

theorem requestEvents_sent (rs : List RegRequest) (dev : δ) :
    (requestEvents bus rs dev).flatMap CrateEvent.sent =
      (readValues bus rs dev).flatMap replyOf := by
  induction rs generalizing dev with
  | nil => rfl
  | cons r rs ih =>
    rw [requestEvents, List.flatMap_append, ih]
    cases r with
    | read addr flags cnt fits =>
      rw [readValues, List.flatMap_cons]
      exact congrArg (· ++ _) (List.append_nil _)
    | write addr flags vals fits => rfl

theorem requestEvents_handed (rs : List RegRequest) (dev : δ) :
    (requestEvents bus rs dev).filterMap CrateEvent.handed =
      rs.map fun r => (r.command.type, ⟨r.command.ints, r.command.vals⟩) := by
  induction rs generalizing dev with
  | nil => rfl
  | cons r rs ih =>
    rw [requestEvents, List.filterMap_append, ih]
    cases r <;> rfl

theorem readValues_fits (rs : List RegRequest) (dev : δ) :
    ∀ vals ∈ readValues bus rs dev, vals.length ≤ 10000 := by
  induction rs generalizing dev with
  | nil => exact List.forall_mem_nil _
  | cons r rs ih =>
    cases r with
    | read addr flags cnt fits =>
      rw [readValues, List.forall_mem_cons]
      refine ⟨?_, ih _⟩
      rw [readRegs_length, accessAddrs_length]
      exact fits
    | write addr flags vals fits => exact ih _

theorem replyOf_ne_nil (vals : List Word) : replyOf vals ≠ [] := by
  intro hnil
  have hlen := congrArg List.length hnil
  simp [replyOf] at hlen

/-- The client takes the replies apart. -/
theorem clientReads_sent (rs : List RegRequest) (dev : δ) :
    clientReads (leBytes 4 crateMsgHdrId.toNat ++
      (requestEvents bus rs dev).flatMap CrateEvent.sent) = some (readValues bus rs dev) := by
  have hcount : (readValues bus rs dev).length ≤
      ((readValues bus rs dev).flatMap replyOf).length :=
    length_le_flatMap fun vals _ => replyOf_ne_nil vals
  rw [clientReads, takeInt_put, Option.bind_some, if_pos rfl, requestEvents_sent]
  exact records_flatMap hcount (fun vals _ => replyOf_ne_nil vals)
    fun vals hvals rest => takeReply_put (readValues_fits bus rs dev vals hvals)

end Session

/-- For every transport and every client, of whichever byte order: the requests up to the
first that comes in pieces are handed to the board as they are meant, and the client reads
what the same accesses, one after the other, read on the board. -/
theorem remote_registers {δ : Type} (bus : Bus Word Word δ) (cut : Nat → Nat) (swap : Bool)
    (rs : List RegRequest) (mem : Nat → Byte) (dev : δ) :
    let events := connectionThread (diagGuiCallbacks bus) cut
      ⟨session swap (rs.map (RegRequest.message swap)), 0, mem, dev⟩
    clientReads (events.flatMap CrateEvent.sent) = some (readValues bus (served cut rs) dev) ∧
      events.filterMap CrateEvent.handed =
        (served cut rs).map fun r => (r.command.type, ⟨r.command.ints, r.command.vals⟩) := by
  dsimp only
  have hevents : connectionThread (diagGuiCallbacks bus) cut
      ⟨session swap (rs.map (RegRequest.message swap)), 0, mem, dev⟩ =
        .hello crateMsgHdrId :: requestEvents bus (served cut rs) dev := by
    rw [served]
    by_cases hhello : 4 ≤ max 1 (cut 0)
    · have hpasses := session_passes swap (rs.map (RegRequest.message swap))
      rw [List.length_map] at hpasses
      rw [connectionThread_session _ hhello, if_pos hhello]
      exact congrArg _ (connectionLoop_requests bus (Nat.le_succ_of_le hpasses) rfl)
    · rw [connectionThread_divided _ hhello _ rfl, if_neg hhello]
      rfl
  rw [hevents, List.flatMap_cons, List.filterMap_cons]
  exact ⟨clientReads_sent bus (served cut rs) dev, requestEvents_handed bus (served cut rs) dev⟩

end VtpStreaming
