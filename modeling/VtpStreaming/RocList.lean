import VtpStreaming.Clib.BusExec
import VtpStreaming.RocEventBuilder
import VtpStreaming.RocRecord
import VtpStreaming.RunEvents
import VtpStreaming.TriggerAck

/-!
# A run of the readout list of the controller

`rol/vtp_list_roc.c`, `rocGo`, `rocPause`, `rocEnd` and `rocTrigger` behind the test of
`rol/VTP_source.h`, and `vtpRocTcpConnect` of `vtp/vtpRocLib.c`. Run control calls them in
any order.

`CDOENABLE` and `CDODISABLE` are `vtptenable` and `vtptdisable`. What is printed is left
out, and so are the waits, `last_event`, `totalwds` and the look at the serdes links.
-/

namespace VtpStreaming

open Clib Function VtpLib

/-! ## The code -/

structure TiLinkRegs where
  ctrl : Word
  linkReset : Word

/-- The registers, the variables of the list and the writes to the fifos of triggers and
events. `fifo` also has what its status shows from now on. -/
structure ListState where
  board : EbBoard
  rocCtrl : Word
  tiLink : TiLinkRegs
  fifo : Recorder
  sync : List (SyncPort × Word)
  blklevel : Word
  vtpFlag : Bool
  nevents : Word

def vtpRocStateTcpfull : Word := 1#32 <<< 16

/-- The `while` of a disconnect, from poll `k` on. -/
def waitTcpDrained (state : Nat → Word) : Nat → Nat → Bool
  | 0, _ => false
  | max + 1, k =>
      if max = 0 then false
      else if state k &&& vtpRocStateTcpfull = 0#32 then true
      else waitTcpDrained state max (k + 1)

/-- Whether the connection came up is only printed. -/
def connectTcp (cdata : Option (Nat → Word)) (dlen : Word) (s : ListState) : ListState :=
  let t := s.board.regs.tcpClient 0
  let regs : Regs :=
    { s.board.regs with
      tcpClient := update s.board.regs.tcpClient 0
        { t with ip4StateRequest := 1#32, ctrl := 0x13C0#32 } }
  let fifo :=
    match cdata with
    | none => s.fifo
    | some cdata =>
        if dlen = 0#32 then s.fifo
        else
          { s.fifo with
            data := s.fifo.data ++ (List.range dlen.toInt.toNat).map cdata
            lens := s.fifo.lens ++ [dlen] }
  { s with board.regs := regs, fifo := fifo }

/-- `IP4_StateRequest` taken back. -/
def closedClient (t : Fin 4 → TcpipClientRegs) : Fin 4 → TcpipClientRegs :=
  update t 0 { t 0 with ip4StateRequest := 0#32 }

def closedTcp (r : Regs) : Regs := { r with tcpClient := closedClient r.tcpClient }

def disconnectTcp (s : ListState) : ListState :=
  { s with board.regs := closedTcp s.board.regs }

/-- What one `rocGo` finds: the status of the TI link after the request. -/
structure ListGoEnv where
  tiStatus : Word
  evGo : Word

/-- What one `rocEnd` finds: the number of triggers, and the state register from poll
to poll. -/
structure ListEndEnv where
  tiTriggerCnt : Word
  state : Nat → Word
  runNumber : Word
  evEnd : Word

/-- What the test and `rocTrigger` find. -/
structure ListPollEnv where
  tested : Word
  status : Word
  tiTriggerCnt : Word

section

variable (lib : VtpLib)

def vtpRocTcpConnect (state : Nat → Word) (connect : Int) (cdata : Option (Nat → Word))
    (dlen : Word) (s : ListState) : Int × ListState :=
  if !lib.ready vtpFwTypeVcodaroc 0 then (error, s)
  else if 0 < connect then (ok, connectTcp cdata dlen s)
  else if connect = -1 then (ok, disconnectTcp s)
  else if waitTcpDrained state 1000 0 then (ok, disconnectTcp s)
  else (error, s)

def vtpRocEnable (enMask : Word) (s : ListState) : ListState :=
  if lib.ready zyncFwTypeZcodaroc 1 then { s with rocCtrl := (enMask &&& 7#32) <<< 8 } else s

def vtptenable (val : Word) (s : ListState) : ListState :=
  { vtpRocEnable lib val s with vtpFlag := decide (val &&& 2#32 ≠ 0#32) }

def vtptdisable (s : ListState) : ListState := vtpRocEnable lib 5#32 { s with vtpFlag := false }

def vtpTiLinkResetFifo (rx : Bool) (s : ListState) : ListState :=
  let bit := if rx then 1#32 <<< 2 else 1#32 <<< 3
  if lib.checkInit then
    { s with tiLink.linkReset := (s.tiLink.linkReset ||| bit) &&& ~~~bit }
  else s

def vtpTiLinkGetBlockLevel (tiStatus : Word) (s : ListState) : Word × ListState :=
  if lib.checkInit then
    (tiStatus &&& 0xff#32, { s with tiLink.ctrl := s.tiLink.ctrl ||| 1#32 })
  else (BitVec.ofInt 32 error, s)

/-- A call of the event builder, its return code ignored. -/
def ebCall (c : EbCall) (s : ListState) : ListState :=
  { s with board := (c.run lib s.board).2 }

/-- `vtpRocEvioWriteControl`, its return code ignored. -/
def writeControl (e : ControlArgs) (s : ListState) : ListState :=
  match (vtpRocEvioWriteControl lib e.type e.val0 e.val1).exec recorderBus s.fifo with
  | none => s
  | some (_, fifo) => { s with fifo := fifo }

def vtpRocGetTriggerCnt (tiTriggerCnt : Word) : Word := if lib.mapped then tiTriggerCnt else 0#32

def listGo (env : ListGoEnv) (s : ListState) : ListState :=
  let s := vtpTiLinkResetFifo lib true s
  let (blklevel, s) := vtpTiLinkGetBlockLevel lib env.tiStatus s
  let s := ebCall lib (.setBlockLevel blklevel) { s with blklevel := blklevel }
  let s := ebCall lib .start s
  let s := writeControl lib ⟨env.evGo, 0#32, s.nevents⟩ s
  vtptenable lib 5#32 s

def listPause (s : ListState) : ListState := vtptdisable lib s

def listEnd (env : ListEndEnv) (s : ListState) : ListState :=
  let s := vtptdisable lib s
  let s := { s with nevents := vtpRocGetTriggerCnt lib env.tiTriggerCnt }
  let s := writeControl lib ⟨env.evEnd, env.runNumber, s.nevents⟩ s
  let s := ebCall lib .stop s
  (vtpRocTcpConnect lib env.state 0 none 0#32 s).2

/-- A pass of the trigger routine. -/
def listTrigger (env : ListPollEnv) (s : ListState) : ListState :=
  let ntack := vtpRocPoll lib env.status
  { s with
    nevents := vtpRocGetTriggerCnt lib env.tiTriggerCnt
    sync := s.sync ++ (List.replicate ntack.toNat (vtpRocWriteBank none)).flatten }

/-- The trigger routine is called when the test says so. -/
def listPoll (env : ListPollEnv) (s : ListState) : ListState :=
  if vtpttest lib s.vtpFlag env.tested then listTrigger lib env s else s

end

/-! ## Runs -/

inductive ListCall
  | go (env : ListGoEnv)
  | pause
  | finish (env : ListEndEnv)
  | poll (env : ListPollEnv)

def ListCall.run (lib : VtpLib) (s : ListState) : ListCall → ListState
  | .go env => listGo lib env s
  | .pause => listPause lib s
  | .finish env => listEnd lib env s
  | .poll env => listPoll lib env s

def runListCalls (lib : VtpLib) (calls : List ListCall) (s : ListState) : ListState :=
  calls.foldl (ListCall.run lib) s

/-! ## What the calls say -/

namespace ListCall

/-- What the call leaves in `Ctrl` of the event builder. -/
def ebCtrl : ListCall → Option Word
  | .go _ => some 2#32
  | .pause => none
  | .finish _ => some 1#32
  | .poll _ => none

/-- The block level of the TI, when it is one. -/
def level : ListCall → Option Word
  | .go env =>
      let level := env.tiStatus &&& 0xff#32
      if blockLevelValid level then some level else none
  | .pause => none
  | .finish _ => none
  | .poll _ => none

def triggers : ListCall → Option Word
  | .go _ => none
  | .pause => none
  | .finish env => some env.tiTriggerCnt
  | .poll _ => none

/-- The call finds the TCP buffer drained at one of the polls before the last. -/
def closes : ListCall → Bool
  | .go _ => false
  | .pause => false
  | .finish env => (List.range 999).any fun k => env.state k &&& vtpRocStateTcpfull = 0#32
  | .poll _ => false

def isPoll : ListCall → Bool
  | .go _ => false
  | .pause => false
  | .finish _ => false
  | .poll _ => true

/-- The control event that the call wants to send, when `nevents` is the count. -/
def event (nevents : Word) : ListCall → Option ControlArgs
  | .go env => some ⟨env.evGo, 0#32, nevents⟩
  | .pause => none
  | .finish env => some ⟨env.evEnd, env.runNumber, env.tiTriggerCnt⟩
  | .poll _ => none

def events (nevents : Word) : List ListCall → List ControlArgs
  | [] => []
  | c :: calls => (c.event nevents).toList ++ events (c.triggers.getD nevents) calls

theorem events_concat (nevents : Word) (calls : List ListCall) (c : ListCall) :
    events nevents (calls ++ [c]) =
      events nevents calls ++ (c.event (latest triggers nevents calls)).toList := by
  induction calls generalizing nevents with
  | nil => exact List.append_nil _
  | cons d calls ih => rw [List.cons_append, events, events, ih, latest_cons, List.append_assoc]

end ListCall

/-- The events that find the fifo empty. `status` is what its register shows to one event
after the other. -/
def sentEvents (status : Nat → Word) (events : List ControlArgs) : List ControlArgs :=
  (events.zipIdx.filter fun e => status e.2 &&& fifoLevelMask = 0#32).map Prod.fst

theorem sentEvents_concat (status : Nat → Word) (events : List ControlArgs) (e : ControlArgs) :
    sentEvents status (events ++ [e]) =
      sentEvents status events ++
        if status events.length &&& fifoLevelMask = 0#32 then [e] else [] := by
  rw [sentEvents, List.zipIdx_append, List.filter_append, List.map_append]
  congr 1
  by_cases h : status events.length &&& fifoLevelMask = 0#32
  · simp [h]
  · simp [h]

/-- The level, when there is one, in front of the tags. -/
def levelled (level : Option Word) (eb : RocEbRegs) : RocEbRegs :=
  { eb with
    evioCfg := fun i =>
      match level with
      | none => eb.evioCfg i
      | some level => (level <<< 16) ||| (eb.evioCfg i &&& 0xffff#32) }

/-- The fifo after some events were to be sent. -/
def fifoAfter (d : Recorder) (events : List ControlArgs) : Recorder where
  status := fun i => d.status (i + events.length)
  rocid := d.rocid
  data := d.data ++ (sentEvents d.status events).flatMap fun e =>
    controlWords e.type d.rocid e.val0 e.val1
  lens := d.lens ++ (sentEvents d.status events).map fun _ => 15#32

/-- What the calls of a run have made of the board. -/
structure ListStatus (before : ListState) (calls : List ListCall) (s : ListState) : Prop where
  builder : s.board.rocEB =
    { levelled (latest (fun c => c.level.map some) none calls) before.board.rocEB with
      ctrl := latest ListCall.ebCtrl before.board.rocEB.ctrl calls }
  socket : s.board.regs =
    if calls.any ListCall.closes then closedTcp before.board.regs else before.board.regs
  sources : s.rocCtrl = if calls.all ListCall.isPoll then before.rocCtrl else 0x500#32
  polling : s.vtpFlag = false
  acks : s.sync = before.sync
  count : s.nevents = latest ListCall.triggers before.nevents calls
  fifo : s.fifo = fifoAfter before.fifo (ListCall.events before.nevents calls)

/-! ## One call -/

theorem waitTcpDrained_eq (state : Nat → Word) (n k : Nat) :
    waitTcpDrained state (n + 1) k =
      (List.range n).any fun j => state (k + j) &&& vtpRocStateTcpfull = 0#32 := by
  induction n generalizing k with
  | zero => rfl
  | succ n ih =>
    rw [waitTcpDrained, if_neg (Nat.succ_ne_zero n), ih, List.range_succ_eq_map, List.any_cons,
      List.any_map, Nat.add_zero]
    have hshift : ((fun j => decide (state (k + j) &&& vtpRocStateTcpfull = 0#32)) ∘ Nat.succ) =
        fun j => decide (state (k + 1 + j) &&& vtpRocStateTcpfull = 0#32) := by
      funext j
      rw [Function.comp_apply, Nat.succ_eq_add_one, Nat.add_comm j 1, Nat.add_assoc]
    rw [hshift]
    split
    · next h => simp [h]
    · next h => simp [h]

/-- One event more, when the fifo is found empty. -/
def Recorder.event (d : Recorder) (e : ControlArgs) : Recorder where
  status := fun i => d.status (i + 1)
  rocid := d.rocid
  data := d.data ++
    if d.status 0 &&& fifoLevelMask = 0#32 then controlWords e.type d.rocid e.val0 e.val1 else []
  lens := d.lens ++ if d.status 0 &&& fifoLevelMask = 0#32 then [15#32] else []

theorem fifoAfter_concat (d : Recorder) (events : List ControlArgs) (e : ControlArgs) :
    fifoAfter d (events ++ [e]) = (fifoAfter d events).event e := by
  have hnow : (fifoAfter d events).status 0 = d.status events.length :=
    congrArg d.status (Nat.zero_add _)
  rw [Recorder.event, hnow, fifoAfter, Recorder.mk.injEq]
  refine ⟨?_, rfl, ?_, ?_⟩
  · funext i
    simp only [fifoAfter, List.length_append, List.length_singleton]
    rw [Nat.add_right_comm, Nat.add_assoc]
  · simp only [fifoAfter, sentEvents_concat, List.map_append, List.append_assoc]
    split
    · rfl
    · rfl
  · simp only [fifoAfter, sentEvents_concat, List.flatMap_append, List.append_assoc]
    split
    · rw [List.flatMap_singleton]
    · rfl

section

variable {lib : VtpLib}

theorem foldl_data (xs : List Word) (d : Recorder) :
    xs.foldl (fun d x => recorderBus.write d .cpuAsyncEventData x) d =
      { d with data := d.data ++ xs } := by
  induction xs generalizing d with
  | nil => rw [List.append_nil]; rfl
  | cons x xs ih =>
    rw [List.foldl_cons, ih, List.append_cons]
    rfl

theorem writeControl_eq (roc : lib.ready zyncFwTypeZcodaroc 1 = true) (e : ControlArgs)
    (s : ListState) : writeControl lib e s = { s with fifo := s.fifo.event e } := by
  have hexec : (vtpRocEvioWriteControl lib e.type e.val0 e.val1).exec recorderBus s.fifo =
      some (if s.fifo.status 0 &&& fifoLevelMask = 0#32 then ok else error, s.fifo.event e) := by
    have hread : recorderBus.read s.fifo .cpuAsyncEventStatus =
        (s.fifo.status 0, { s.fifo with status := fun i => s.fifo.status (i + 1) }) := rfl
    rw [vtpRocEvioWriteControl, roc, if_neg (by decide), BusProg.exec, hread]
    dsimp only
    by_cases h : s.fifo.status 0 &&& fifoLevelMask = 0#32
    · rw [h, if_neg (by decide), if_pos rfl, BusProg.exec, BusProg.exec, BusProg.exec_writeAll,
        foldl_data, Recorder.event, if_pos h, if_pos h]
      rfl
    · have hpos : 0 < (s.fifo.status 0 &&& fifoLevelMask).toNat :=
        Nat.pos_of_ne_zero fun hzero => h (BitVec.eq_of_toNat_eq hzero)
      rw [if_pos hpos, if_neg h, BusProg.exec, Recorder.event, if_neg h, if_neg h,
        List.append_nil, List.append_nil]
  rw [writeControl, hexec]

theorem enable_eq (roc : lib.ready zyncFwTypeZcodaroc 1 = true) (s : ListState) :
    vtpRocEnable lib 5#32 s = { s with rocCtrl := 0x500#32 } := if_pos roc

theorem checkInit_of_ready {v : Int} {c : Fin 2} (h : lib.ready v c = true) :
    lib.checkInit = true := by
  rw [VtpLib.ready, Bool.and_eq_true] at h
  exact h.1

variable (eb : lib.ready vtpFwTypeVcodaroc 0 = true) (roc : lib.ready zyncFwTypeZcodaroc 1 = true)

include eb roc

theorem listGo_eq (env : ListGoEnv) (s : ListState) :
    listGo lib env s =
      { s with
        board.rocEB := { levelled (ListCall.go env).level s.board.rocEB with ctrl := 2#32 }
        rocCtrl := 0x500#32
        tiLink := ⟨s.tiLink.ctrl ||| 1#32, (s.tiLink.linkReset ||| 4#32) &&& ~~~4#32⟩
        fifo := s.fifo.event ⟨env.evGo, 0#32, s.nevents⟩
        blklevel := env.tiStatus &&& 0xff#32
        vtpFlag := false } := by
  have init := checkInit_of_ready eb
  have hlevel (s : ListState) : ebCall lib (.setBlockLevel (env.tiStatus &&& 0xff#32)) s =
      { s with board.rocEB := levelled (ListCall.go env).level s.board.rocEB } := by
    rw [ebCall, EbCall.run, VtpLib.vtpRocEbSetBlockLevel, VtpLib.onRocEb, if_pos eb,
      ListCall.level]
    split
    · rfl
    · rfl
  have hstart (s : ListState) : ebCall lib .start s = { s with board.rocEB.ctrl := 2#32 } := by
    rw [ebCall, EbCall.run, VtpLib.vtpRocEbStart, VtpLib.onRocEb, if_pos eb]
  rw [listGo, vtpTiLinkResetFifo, if_pos init, vtpTiLinkGetBlockLevel, if_pos init]
  dsimp only
  rw [hlevel, hstart, writeControl_eq roc, vtptenable, enable_eq roc]
  rfl

theorem listEnd_eq (env : ListEndEnv) (s : ListState) :
    listEnd lib env s =
      { s with
        board :=
          { regs :=
              if (ListCall.finish env).closes then closedTcp s.board.regs else s.board.regs
            rocEB := { s.board.rocEB with ctrl := 1#32 } }
        rocCtrl := 0x500#32
        fifo := s.fifo.event ⟨env.evEnd, env.runNumber, env.tiTriggerCnt⟩
        vtpFlag := false
        nevents := env.tiTriggerCnt } := by
  have init := checkInit_of_ready eb
  have hcount : vtpRocGetTriggerCnt lib env.tiTriggerCnt = env.tiTriggerCnt := if_pos init
  have hstop (s : ListState) : ebCall lib .stop s = { s with board.rocEB.ctrl := 1#32 } := by
    rw [ebCall, EbCall.run, VtpLib.vtpRocEbStop, VtpLib.onRocEb, if_pos eb]
  have hdrained : waitTcpDrained env.state 1000 0 = (ListCall.finish env).closes := by
    rw [waitTcpDrained_eq]
    simp only [Nat.zero_add]
    rfl
  rw [listEnd, vtptdisable, enable_eq roc]
  dsimp only
  rw [hcount, writeControl_eq roc, hstop, vtpRocTcpConnect, eb, hdrained]
  cases (ListCall.finish env).closes with
  | false => rfl
  | true => rfl

omit eb roc in
theorem levelled_levelled (level level' : Option Word) (b : RocEbRegs) :
    levelled level' (levelled level b) = levelled (level'.orElse fun _ => level) b := by
  cases level' with
  | none => rfl
  | some l =>
    cases level with
    | none => rfl
    | some l' =>
      have hlow (cfg : Word) : ((l' <<< 16) ||| (cfg &&& 0xffff#32)) &&& 0xffff#32 =
          cfg &&& 0xffff#32 := by
        rw [and_low16 cfg, level_and_low16]
      simp only [levelled, hlow]
      rfl

omit eb roc in
theorem closedTcp_closedTcp (r : Regs) : closedTcp (closedTcp r) = closedTcp r := by
  have htwice : closedClient (closedClient r.tcpClient) = closedClient r.tcpClient := by
    rw [closedClient, closedClient, update_self, update_idem]
  exact congrArg (fun t => { r with tcpClient := t }) htwice

omit eb roc in
theorem ListStatus.start {before : ListState} (h : before.vtpFlag = false) :
    ListStatus before [] before where
  builder := rfl
  socket := rfl
  sources := rfl
  polling := h
  acks := rfl
  count := rfl
  fifo := by simp [fifoAfter, ListCall.events, sentEvents]

/-- One call more. -/
theorem ListStatus.step {before s : ListState} {calls : List ListCall}
    (h : ListStatus before calls s) (c : ListCall) :
    ListStatus before (calls ++ [c]) (c.run lib s) := by
  cases c with
  | go env =>
    rw [ListCall.run, listGo_eq eb roc]
    constructor
    · have hlevel : levelled (ListCall.go env).level s.board.rocEB =
          { levelled (latest (fun c => c.level.map some) none (calls ++ [.go env]))
              before.board.rocEB with ctrl := s.board.rocEB.ctrl } := by
        have hctrl (b : RocEbRegs) (level : Option Word) (ctrl : Word) :
            levelled level { b with ctrl := ctrl } = { levelled level b with ctrl := ctrl } := rfl
        rw [h.builder, hctrl, levelled_levelled, latest_concat]
        cases (ListCall.go env).level with
        | none => rfl
        | some level => rfl
      dsimp only
      rw [hlevel, latest_concat ListCall.ebCtrl]
      rfl
    · simpa [ListCall.closes] using h.socket
    · simp [ListCall.isPoll]
    · rfl
    · exact h.acks
    · rw [latest_concat]
      exact h.count
    · rw [ListCall.events_concat, ← h.count]
      dsimp only
      rw [h.fifo]
      exact (fifoAfter_concat _ _ _).symm
  | pause =>
    have hpause : ListCall.run lib s .pause = { s with rocCtrl := 0x500#32, vtpFlag := false } :=
      enable_eq roc _
    rw [hpause]
    constructor
    · rw [latest_concat, latest_concat]
      exact h.builder
    · simpa [ListCall.closes] using h.socket
    · simp [ListCall.isPoll]
    · rfl
    · exact h.acks
    · rw [latest_concat]
      exact h.count
    · rw [ListCall.events_concat, ListCall.event, Option.toList_none, List.append_nil]
      exact h.fifo
  | finish env =>
    rw [ListCall.run, listEnd_eq eb roc]
    constructor
    · rw [latest_concat, latest_concat]
      dsimp only
      rw [h.builder]
      rfl
    · rw [List.any_append, List.any_cons, List.any_nil, Bool.or_false]
      dsimp only
      rw [h.socket]
      cases (ListCall.finish env).closes with
      | false => rw [Bool.or_false, if_neg Bool.false_ne_true]
      | true =>
        rw [Bool.or_true, if_pos rfl, if_pos rfl]
        split
        · exact closedTcp_closedTcp _
        · rfl
    · simp [ListCall.isPoll]
    · rfl
    · exact h.acks
    · rw [latest_concat]
      rfl
    · rw [ListCall.events_concat]
      dsimp only
      rw [h.fifo]
      exact (fifoAfter_concat _ _ _).symm
  | poll env =>
    have hpoll : ListCall.run lib s (.poll env) = s := by
      rw [ListCall.run, listPoll, vtpttest, h.polling, Bool.false_and, if_neg Bool.false_ne_true]
    rw [hpoll]
    constructor
    · rw [latest_concat, latest_concat]
      exact h.builder
    · simpa [ListCall.closes] using h.socket
    · simpa [ListCall.isPoll] using h.sources
    · exact h.polling
    · exact h.acks
    · rw [latest_concat]
      exact h.count
    · rw [ListCall.events_concat, ListCall.event, Option.toList_none, List.append_nil]
      exact h.fifo

/-- The run lemma. -/
theorem runListCalls_status {before : ListState} (hflag : before.vtpFlag = false)
    (calls : List ListCall) : ListStatus before calls (runListCalls lib calls before) := by
  induction calls using List.reverseRecOn with
  | nil => exact ListStatus.start hflag
  | append_singleton calls c ih =>
    rw [runListCalls, List.foldl_append]
    exact ih.step eb roc c

end

/-! ## The result -/

/-- Both readout lists send control events in one format. -/
theorem controlWords_eq (type rocid val0 val1 : Word) :
    controlWords type rocid val0 val1 = controlEvent false rocid type val0 val1 := by
  have htag : (type <<< 16) ||| (1#32 <<< 8) ||| 0#32 = (type <<< 16) ||| 0x100#32 :=
    BitVec.or_zero
  rw [controlWords, htag]
  rfl

/-- In whatever order the list is gone through, from a board that does not poll: the event
builder runs when the last go has not been ended, a pause changes nothing of that, the
banks keep their tags and have the last level of the TI that is one, the trigger routine
is never called, and the socket stays open until an end finds the buffer drained. What
is read of the fifo are the events of the calls that found it empty, in order. -/
theorem list_run_status {lib : VtpLib} (eb : lib.ready vtpFwTypeVcodaroc 0 = true)
    (roc : lib.ready zyncFwTypeZcodaroc 1 = true) {before : ListState}
    (hflag : before.vtpFlag = false) (calls : List ListCall) :
    ListStatus before calls (runListCalls lib calls before) ∧
      (unframe (((runListCalls lib calls before).fifo.lens.drop
          before.fifo.lens.length).map BitVec.toNat)
        ((runListCalls lib calls before).fifo.data.drop
          before.fifo.data.length)).map (·.map decodeControl) =
        some ((sentEvents before.fifo.status (ListCall.events before.nevents calls)).map fun e =>
          some (e.record false before.fifo.rocid)) := by
  have status := runListCalls_status eb roc hflag calls
  refine ⟨status, ?_⟩
  rw [status.fifo, fifoAfter]
  generalize sentEvents before.fifo.status (ListCall.events before.nevents calls) = sent
  let packets := sent.map fun e => controlWords e.type before.fifo.rocid e.val0 e.val1
  have hlengths : (sent.map fun _ => 15#32).map BitVec.toNat = packets.map List.length := by
    rw [List.map_map, List.map_map]
    rfl
  have hwords : (sent.flatMap fun e => controlWords e.type before.fifo.rocid e.val0 e.val1) =
      packets.flatten := rfl
  dsimp only
  rw [List.drop_left, List.drop_left, hlengths, hwords, unframe_packets, Option.map_some,
    List.map_map]
  congr 2
  funext e
  rw [Function.comp_apply, controlWords_eq, decodeControl_controlEvent]

/-- A board after a prestart. -/
def listBoard : ListState where
  board := ⟨default, ⟨1#32, fun _ => 0x00010005#32, fun _ => 0#32⟩⟩
  rocCtrl := 0x500#32
  tiLink := ⟨0#32, 0#32⟩
  fifo := ⟨fun _ => 0#32, 3#32, [], []⟩
  sync := []
  blklevel := 1#32
  vtpFlag := false
  nevents := 0#32

/-- The builder still runs after the pause. -/
theorem list_run_status_pause :
    (runListCalls rocEbLib [.go ⟨0x0a0a#32, 0xffd2#32⟩, .pause] listBoard).board.rocEB.ctrl =
        2#32 ∧
      (runListCalls rocEbLib [.go ⟨0x0a0a#32, 0xffd2#32⟩, .pause]
        listBoard).board.rocEB.evioCfg 0 = 0x000a0005#32 := by
  obtain ⟨status, -⟩ := list_run_status (by decide : rocEbLib.ready vtpFwTypeVcodaroc 0 = true)
    (by decide) (rfl : listBoard.vtpFlag = false) [.go ⟨0x0a0a#32, 0xffd2#32⟩, .pause]
  rw [status.builder]
  decide

end VtpStreaming
