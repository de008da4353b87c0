import VtpStreaming.CrateMsg

/-!
# The crate message server and the cuts of the stream

`DiagGui/CrateMsgServer.c`, `ConnectionThread`. A `recv` may bring less than it asks for.
The thread takes that for the end of the connection, so what it does depends on how the
network has cut the client's bytes.
-/

namespace VtpStreaming

open Clib

/-! ## The client -/

/-- An `int` in the byte order of the client. -/
def putInt (swap : Bool) (v : Word) : List Byte :=
  if swap then beBytes 4 v.toNat else leBytes 4 v.toNat

/-- A message of a known type that the server accepts. -/
structure Message where
  type : MsgType
  payload : List Byte
  fits : payload.length ≤ maxMsgSize

def Message.encode (swap : Bool) (m : Message) : List Byte :=
  putInt swap (BitVec.ofNat 32 m.payload.length) ++ putInt swap m.type.code ++ m.payload

/-- What a client sends. -/
def session (swap : Bool) (msgs : List Message) : List Byte :=
  putInt swap crateMsgHdrId ++ msgs.flatMap (Message.encode swap)

/-- Every `recv` brings all it asks for. -/
def whole : Nat → Nat := fun _ => maxMsgSize

/-- What the `recv` calls of a message ask for. -/
def Message.asks (m : Message) : List Nat :=
  8 :: if m.payload = [] then [] else [m.payload.length]

/-- The `recv` calls from number `k` on ask for these sizes, and get all of them. -/
def Undivided (cut : Nat → Nat) : Nat → List Nat → Prop
  | _, [] => True
  | k, n :: sizes => n ≤ max 1 (cut k) ∧ Undivided cut (k + 1) sizes

/-- The commands and the replies do not depend on how the stream is cut, whatever the
callbacks, the boards and the contents of the allocated memory. -/
def SegmentationFree (cut : Nat → Nat) (swap : Bool) (msgs : List Message) : Prop :=
  ∀ (δ : Type) (cb : ServerCBFunctions δ) (mem : Nat → Byte) (dev : δ),
    connectionThread cb cut ⟨session swap msgs, 0, mem, dev⟩ =
      connectionThread cb whole ⟨session swap msgs, 0, mem, dev⟩

/-! ## Headers -/

section Headers

variable {swap : Bool} (v : Word)

@[simp] theorem putInt_length : (putInt swap v).length = 4 := by
  cases swap <;> simp [putInt]

theorem wordOf_leBytes : wordOf (leBytes 4 v.toNat) = v := by
  apply BitVec.eq_of_toNat_eq
  have hmod : v.toNat % 256 ^ 4 = v.toNat := Nat.mod_eq_of_lt v.isLt
  rw [wordOf, ofLe_leBytes, BitVec.toNat_ofNat, hmod]
  exact hmod

theorem wordOf_beBytes : wordOf (beBytes 4 v.toNat) = dwSwap v := by
  rw [beBytes, ← leBytes_dwSwap, wordOf_leBytes]

theorem dwSwap_dwSwap : dwSwap (dwSwap v) = v := by
  rw [← wordOf_leBytes (dwSwap (dwSwap v)), leBytes_dwSwap, leBytes_dwSwap, List.reverse_reverse,
    wordOf_leBytes]

/-- The server reads what the client has written. -/
@[simp] theorem headerInt_putInt : headerInt swap (putInt swap v) = v := by
  cases swap with
  | false => exact wordOf_leBytes v
  | true =>
    simp only [headerInt, putInt, if_true]
    rw [wordOf_beBytes, dwSwap_dwSwap]

end Headers

/-- The length of a message, as an `int`. -/
theorem Message.length_int (m : Message) :
    (BitVec.ofNat 32 m.payload.length).toNat = m.payload.length ∧
      (BitVec.ofNat 32 m.payload.length).toInt = m.payload.length := by
  have hfits := m.fits
  have hlt : m.payload.length < 2 ^ 32 := by simp only [maxMsgSize] at hfits; omega
  have hnat : (BitVec.ofNat 32 m.payload.length).toNat = m.payload.length := by
    rw [BitVec.toNat_ofNat, Nat.mod_eq_of_lt hlt]
  refine ⟨hnat, ?_⟩
  rw [BitVec.toInt_eq_toNat_of_lt (by simp only [maxMsgSize] at hfits; omega), hnat]

/-! ## One `recv` -/

section Recv

variable {δ : Type} {cut : Nat → Nat} {c : Conn δ} {bs rest : List Byte}

/-- Enough has arrived. -/
theorem Conn.recv_all (hs : c.stream = bs ++ rest) (h : bs.length ≤ max 1 (cut c.recvs)) :
    c.recv cut bs.length = (bs, { c with stream := rest, recvs := c.recvs + 1 }) := by
  rw [Conn.recv, Nat.min_eq_right h, hs, List.take_left, List.drop_left]

/-- Too little has arrived. -/
theorem Conn.recv_short {n : Nat} (h : ¬n ≤ max 1 (cut c.recvs)) :
    (c.recv cut n).1.length ≠ n := by
  have hlen : (c.recv cut n).1.length ≤ min (max 1 (cut c.recvs)) n := List.length_take_le _ _
  omega

/-- At the end of the stream nothing comes. -/
theorem Conn.recv_end {n : Nat} (hs : c.stream = []) : (c.recv cut n).1 = [] := by
  rw [Conn.recv, hs, List.take_nil]

end Recv

section Payload

variable {δ : Type} {cut : Nat → Nat} {m : Message} {c : Conn δ} {rest : List Byte}

theorem Message.length_ne_zero (h : m.payload ≠ []) : BitVec.ofNat 32 m.payload.length ≠ 0 := by
  intro hzero
  have hnat := m.length_int.1
  rw [hzero] at hnat
  exact h (List.eq_nil_of_length_eq_zero hnat.symm)

theorem recvPayload_all (h : m.payload ≠ []) (hs : c.stream = m.payload ++ rest)
    (hlen : m.payload.length ≤ max 1 (cut c.recvs)) :
    c.recvPayload cut (BitVec.ofNat 32 m.payload.length) =
      (m.payload, { c with stream := rest, recvs := c.recvs + 1 }) := by
  rw [Conn.recvPayload, if_neg (m.length_ne_zero h), m.length_int.1]
  exact Conn.recv_all hs hlen

theorem recvPayload_short (h : m.payload ≠ []) (hlen : ¬m.payload.length ≤ max 1 (cut c.recvs)) :
    (c.recvPayload cut (BitVec.ofNat 32 m.payload.length)).1.length ≠ m.payload.length := by
  rw [Conn.recvPayload, if_neg (m.length_ne_zero h), m.length_int.1]
  exact Conn.recv_short hlen

end Payload

/-! ## One message -/

section Pass

variable {δ : Type} (cb : ServerCBFunctions δ) {cut : Nat → Nat} {swap : Bool} {m : Message}
  {c : Conn δ} {rest : List Byte} (passes : Nat)

/-- The function of a message, at work on its payload. -/
def Message.handled (m : Message) (swap : Bool) (c : Conn δ) : Handled δ :=
  m.type.handle cb swap ⟨Traced.put c.mem 0 m.payload, []⟩ c.dev

/-- The connection after a message. -/
def Message.after (m : Message) (swap : Bool) (c : Conn δ) (rest : List Byte) : Conn δ where
  stream := rest
  recvs := c.recvs + m.asks.length
  mem := (m.handled cb swap c).msg.mem
  dev := (m.handled cb swap c).dev

theorem connectionLoop_end (hs : c.stream = []) : connectionLoop cb cut swap passes c = [] := by
  cases passes with
  | zero => rfl
  | succ passes => simp [connectionLoop, Conn.recv_end hs]

/-- The header of the next message. -/
theorem recv_header (hs : c.stream = m.encode swap ++ rest) (h : 8 ≤ max 1 (cut c.recvs)) :
    c.recv cut 8 =
      (putInt swap (BitVec.ofNat 32 m.payload.length) ++ putInt swap m.type.code,
        { c with stream := m.payload ++ rest, recvs := c.recvs + 1 }) := by
  have hlen : (putInt swap (BitVec.ofNat 32 m.payload.length) ++
      putInt swap m.type.code).length = 8 := by simp
  rw [← hlen] at h ⊢
  apply Conn.recv_all _ h
  rw [hs, Message.encode, List.append_assoc]

/-- A pass that has got its header. -/
theorem connectionLoop_header (hs : c.stream = m.encode swap ++ rest)
    (h : 8 ≤ max 1 (cut c.recvs)) :
    connectionLoop cb cut swap (passes + 1) c =
      let (payload, c) := { c with stream := m.payload ++ rest, recvs := c.recvs + 1 }.recvPayload
        cut (BitVec.ofNat 32 m.payload.length)
      if payload.length ≠ m.payload.length then []
      else
        let h := m.type.handle cb swap ⟨Traced.put c.mem 0 payload, []⟩ c.dev
        h.answer m.type.code
          (connectionLoop cb cut swap passes { c with mem := h.msg.mem, dev := h.dev }) := by
  rcases m.length_int with ⟨hnat, hint⟩
  have htake : (putInt swap (BitVec.ofNat 32 m.payload.length) ++ putInt swap m.type.code).take 4 =
      putInt swap (BitVec.ofNat 32 m.payload.length) :=
    List.take_left' (putInt_length _)
  have hdrop : (putInt swap (BitVec.ofNat 32 m.payload.length) ++ putInt swap m.type.code).drop 4 =
      putInt swap m.type.code :=
    List.drop_left' (putInt_length _)
  have hguard : ¬((maxMsgSize : Int) < m.payload.length ∨ (m.payload.length : Int) < 0) := by
    have hfits := m.fits
    omega
  rw [connectionLoop, recv_header hs h]
  simp only [List.length_append, putInt_length, htake, hdrop, headerInt_putInt, hint, hnat,
    if_neg hguard, dispatch_code]
  rfl

/-- A message that arrives in one piece is handled, and the next one follows. -/
theorem connectionLoop_message (hs : c.stream = m.encode swap ++ rest)
    (h : Undivided cut c.recvs m.asks) :
    connectionLoop cb cut swap (passes + 1) c =
      (m.handled cb swap c).answer m.type.code
        (connectionLoop cb cut swap passes (m.after cb swap c rest)) := by
  rw [connectionLoop_header cb passes hs h.1]
  by_cases hempty : m.payload = []
  · simp [Conn.recvPayload, hempty, Message.handled, Message.after, Message.asks]
  · have hlen : m.payload.length ≤ max 1 (cut (c.recvs + 1)) := by
      simpa [Message.asks, hempty, Undivided] using h.2
    rw [recvPayload_all hempty rfl hlen]
    simp [Message.handled, Message.after, Message.asks, hempty]

/-- A message that arrives in pieces is the last thing that is read. -/
theorem connectionLoop_divided (hs : c.stream = m.encode swap ++ rest)
    (h : ¬Undivided cut c.recvs m.asks) : connectionLoop cb cut swap (passes + 1) c = [] := by
  by_cases hheader : 8 ≤ max 1 (cut c.recvs)
  · rw [connectionLoop_header cb passes hs hheader]
    have hempty : m.payload ≠ [] := by
      intro hempty
      exact h (by simp [Message.asks, hempty, Undivided, hheader])
    have hlen : ¬m.payload.length ≤ max 1 (cut (c.recvs + 1)) := by
      intro hlen
      exact h (by simp [Message.asks, hempty, Undivided, hheader, hlen])
    exact if_pos (recvPayload_short hempty hlen)
  · rw [connectionLoop]
    exact if_pos (Conn.recv_short hheader)

end Pass

/-! ## Whole sessions -/

section Asks

variable {cut : Nat → Nat} {k : Nat} {sizes : List Nat}

theorem undivided_append {more : List Nat} :
    Undivided cut k (sizes ++ more) ↔
      Undivided cut k sizes ∧ Undivided cut (k + sizes.length) more := by
  induction sizes generalizing k with
  | nil => simp [Undivided]
  | cons n sizes ih =>
    rw [List.cons_append, Undivided, Undivided, ih, List.length_cons, and_assoc,
      Nat.add_right_comm, Nat.add_assoc]

theorem undivided_whole (h : ∀ n ∈ sizes, n ≤ maxMsgSize) : Undivided whole k sizes := by
  induction sizes generalizing k with
  | nil => trivial
  | cons n sizes ih =>
    rcases List.forall_mem_cons.mp h with ⟨hn, hsizes⟩
    exact ⟨Nat.le_trans hn (Nat.le_max_right 1 maxMsgSize), ih hsizes⟩

theorem Message.asks_le (m : Message) : ∀ n ∈ m.asks, n ≤ maxMsgSize := by
  intro n hn
  rcases List.mem_cons.mp hn with rfl | hn
  · decide
  · split at hn
    · exact absurd hn List.not_mem_nil
    · rw [List.mem_singleton.mp hn]
      exact m.fits

theorem session_whole (msgs : List Message) : Undivided whole k (msgs.flatMap Message.asks) := by
  apply undivided_whole
  intro n hn
  rcases List.mem_flatMap.mp hn with ⟨m, -, hm⟩
  exact m.asks_le n hm

end Asks

section Sessions

variable {δ : Type} (cb : ServerCBFunctions δ) {cut cut' : Nat → Nat} {swap : Bool}
  {msgs : List Message} {passes : Nat}

/-- Two transports that divide nothing carry the same session. -/
theorem connectionLoop_undivided {c : Conn δ} {k : Nat}
    (hs : c.stream = msgs.flatMap (Message.encode swap))
    (h : Undivided cut c.recvs (msgs.flatMap Message.asks))
    (h' : Undivided cut' k (msgs.flatMap Message.asks)) :
    connectionLoop cb cut swap passes c =
      connectionLoop cb cut' swap passes { c with recvs := k } := by
  induction msgs generalizing c k passes with
  | nil => rw [connectionLoop_end cb passes hs, connectionLoop_end cb passes (by exact hs)]
  | cons m msgs ih =>
    cases passes with
    | zero => rfl
    | succ passes =>
      rw [List.flatMap_cons] at hs h h'
      rcases undivided_append.mp h with ⟨hm, hmsgs⟩
      rcases undivided_append.mp h' with ⟨hm', hmsgs'⟩
      rw [connectionLoop_message cb passes hs hm,
        connectionLoop_message cb passes (c := { c with recvs := k }) hs hm']
      exact congrArg _ (ih (c := m.after cb swap c (msgs.flatMap (Message.encode swap)))
        rfl hmsgs hmsgs')

end Sessions

/-! ## Callbacks that show every command -/

/-- Callbacks that do nothing, and succeed. -/
def quiet : ServerCBFunctions Unit where
  read16 := some fun _ dev => (0, [], dev)
  write16 := some fun _ dev => (0, dev)
  read32 := some fun _ dev => (0, [], dev)
  write32 := some fun _ dev => (0, dev)
  delay := some fun _ dev => (0, dev)
  readScalers := some fun _ dev => (0, [], dev)
  readData := some fun _ dev => (0, [], dev)
  getCrateMap := some fun _ dev => (0, [], dev)
  getBoardParams := some fun _ dev => (0, [], dev)
  getChannelParams := some fun _ dev => (0, [], dev)
  setChannelParams := some fun _ dev => (0, dev)

theorem quiet_handle (t : MsgType) (swap : Bool) (m : Traced) :
    ∃ c, (t.handle quiet swap m ()).events = [.command t c] ∧
      (t.handle quiet swap m ()).result = 0 := by
  cases t <;> exact ⟨_, rfl, rfl⟩

section Quiet

variable {cut : Nat → Nat} {swap : Bool} {msgs : List Message} {passes : Nat} {c : Conn Unit}

/-- The command is seen, and the connection goes on. -/
theorem quiet_answer (m : Message) {cmd : Cmd} (next : List CrateEvent)
    (h : (m.handled quiet swap c).events = [.command m.type cmd]) :
    (m.handled quiet swap c).answer m.type.code next = .command m.type cmd :: next := by
  rcases quiet_handle m.type swap ⟨Traced.put c.mem 0 m.payload, []⟩ with ⟨_, -, hresult⟩
  have hzero : (m.handled quiet swap c).result = 0 := hresult
  simp only [Handled.answer, hzero]
  exact congrArg (· ++ next) h

theorem quiet_message (m : Message) (next : List CrateEvent) :
    ((m.handled quiet swap c).answer m.type.code next).length = next.length + 1 := by
  rcases quiet_handle m.type swap ⟨Traced.put c.mem 0 m.payload, []⟩ with ⟨cmd, hevents, -⟩
  rw [quiet_answer m next hevents, List.length_cons]

/-- A command is seen for each message up to the first that is divided. -/
theorem quiet_length (hs : c.stream = msgs.flatMap (Message.encode swap))
    (hp : msgs.length ≤ passes) :
    (connectionLoop quiet cut swap passes c).length ≤ msgs.length ∧
      ((connectionLoop quiet cut swap passes c).length = msgs.length ↔
        Undivided cut c.recvs (msgs.flatMap Message.asks)) := by
  induction msgs generalizing c passes with
  | nil =>
    rw [connectionLoop_end quiet passes hs]
    exact ⟨Nat.le_refl 0, iff_of_true rfl trivial⟩
  | cons m msgs ih =>
    cases passes with
    | zero => exact absurd hp (Nat.not_succ_le_zero _)
    | succ passes =>
      rw [List.flatMap_cons] at hs
      rw [List.flatMap_cons, undivided_append]
      by_cases hm : Undivided cut c.recvs m.asks
      · have hrest := ih (c := m.after quiet swap c (msgs.flatMap (Message.encode swap)))
          rfl (Nat.le_of_succ_le_succ hp)
        rw [connectionLoop_message quiet passes hs hm, quiet_message, List.length_cons,
          Nat.add_right_cancel_iff, hrest.2]
        exact ⟨Nat.succ_le_succ hrest.1, by simp [hm, Message.after]⟩
      · rw [connectionLoop_divided quiet passes hs hm]
        simp [hm]

end Quiet

/-! ## Segmentation -/

section Handshake

variable {δ : Type} (cb : ServerCBFunctions δ) {cut : Nat → Nat} {swap : Bool}
  {msgs : List Message} {mem : Nat → Byte} {dev : δ}

/-- A handshake that arrives in one piece. -/
theorem connectionThread_session (h : 4 ≤ max 1 (cut 0)) :
    connectionThread cb cut ⟨session swap msgs, 0, mem, dev⟩ =
      .hello crateMsgHdrId :: connectionLoop cb cut swap
        ((msgs.flatMap (Message.encode swap)).length + 1)
        ⟨msgs.flatMap (Message.encode swap), 1, mem, dev⟩ := by
  have hrecv : Conn.recv cut 4 ⟨session swap msgs, 0, mem, dev⟩ =
      (putInt swap crateMsgHdrId, ⟨msgs.flatMap (Message.encode swap), 1, mem, dev⟩) := by
    have hlen : (putInt swap crateMsgHdrId).length = 4 := putInt_length _
    rw [← hlen]
    exact Conn.recv_all rfl (by rwa [hlen])
  have hnative : wordOf (putInt false crateMsgHdrId) = crateMsgHdrId := wordOf_leBytes _
  have hswapped : wordOf (putInt true crateMsgHdrId) = dwSwap crateMsgHdrId := wordOf_beBytes _
  have hdiffer : dwSwap crateMsgHdrId ≠ crateMsgHdrId := by decide
  rw [connectionThread, hrecv]
  cases swap with
  | false => simp [hnative]
  | true => simp [hswapped, hdiffer]

theorem connectionThread_divided (h : ¬4 ≤ max 1 (cut 0)) (c : Conn δ) (hc : c.recvs = 0) :
    connectionThread cb cut c = [.hello crateMsgHdrId] := by
  rw [connectionThread]
  have hshort : (c.recv cut 4).1.length ≠ 4 := Conn.recv_short (by rwa [hc])
  simp [hshort]

end Handshake

theorem encode_length (swap : Bool) (m : Message) : 1 ≤ (m.encode swap).length := by
  simp [Message.encode]
  omega

theorem session_passes (swap : Bool) (msgs : List Message) :
    msgs.length ≤ (msgs.flatMap (Message.encode swap)).length := by
  induction msgs with
  | nil => exact Nat.le_refl 0
  | cons m msgs ih =>
    have hm := encode_length swap m
    rw [List.flatMap_cons, List.length_append, List.length_cons]
    omega

/-- The server is free of the segmentation of a stream exactly if every `recv` of the
handshake, of a header and of a payload finds in one piece what it asks for. -/
theorem segmentation_free_iff (cut : Nat → Nat) (swap : Bool) (msgs : List Message) :
    SegmentationFree cut swap msgs ↔
      msgs = [] ∨ Undivided cut 0 (4 :: msgs.flatMap Message.asks) := by
  have hwhole : 4 ≤ max 1 (whole 0) := by decide
  constructor
  · intro hfree
    have hsame := congrArg List.length (hfree Unit quiet (fun _ => 0) ())
    rw [connectionThread_session quiet hwhole, List.length_cons] at hsame
    have hfull : (connectionLoop quiet whole swap ((msgs.flatMap (Message.encode swap)).length + 1)
        ⟨msgs.flatMap (Message.encode swap), 1, fun _ => 0, ()⟩).length = msgs.length :=
      (quiet_length rfl (Nat.le_succ_of_le (session_passes swap msgs))).2.mpr (session_whole msgs)
    rw [hfull] at hsame
    by_cases hshake : 4 ≤ max 1 (cut 0)
    · right
      rw [connectionThread_session quiet hshake, List.length_cons] at hsame
      refine ⟨hshake, ?_⟩
      exact (quiet_length (c := ⟨msgs.flatMap (Message.encode swap), 1, fun _ => 0, ()⟩) rfl
        (Nat.le_succ_of_le (session_passes swap msgs))).2.mp (Nat.add_right_cancel hsame)
    · left
      rw [connectionThread_divided quiet hshake _ rfl] at hsame
      exact List.eq_nil_of_length_eq_zero (Nat.add_right_cancel hsame).symm
  · rintro (rfl | ⟨hshake, hmsgs⟩) δ cb mem dev
    · by_cases hshake : 4 ≤ max 1 (cut 0)
      · rw [connectionThread_session cb hshake, connectionThread_session cb hwhole]
        rw [connectionLoop_end cb _ rfl, connectionLoop_end cb _ rfl]
      · rw [connectionThread_divided cb hshake _ rfl, connectionThread_session cb hwhole,
          connectionLoop_end cb _ rfl]
    · rw [connectionThread_session cb hshake, connectionThread_session cb hwhole]
      exact congrArg _ (connectionLoop_undivided cb
        (c := ⟨msgs.flatMap (Message.encode swap), 1, mem, dev⟩) rfl hmsgs (session_whole msgs))

/-- A request to read one register at 0. -/
def readOne : Message where
  type := .read32
  payload := [1, 0, 0, 0, 0, 0, 0, 0, 0, 0, 0, 0]
  fits := by decide

/-- The header of a request comes as four bytes and four bytes, and the request is lost. -/
theorem divided_request_lost : ¬SegmentationFree (fun k => if k = 1 then 4 else 40000) false
    [readOne] := by
  intro hfree
  have hsame := hfree Unit (diagGuiCallbacks ⟨fun d _ => (7, d), fun d _ _ => d⟩) (fun _ => 0) ()
  exact absurd hsame (by decide)

end VtpStreaming
