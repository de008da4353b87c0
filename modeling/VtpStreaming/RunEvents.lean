import VtpStreaming.RocRun

/-!
# What a run tells its readers

`rol/vtp_stream3_1udp_vg.c`, `rocPrestart`, `rocGo`, `rocPause` and `rocEnd`. The calls
alone say how the board stands after them, and the words in the fifos of the control
events give the calls back.
-/

namespace VtpStreaming

open Clib Function VtpLib

/-! ## The calls alone -/

def RunCall.isGo : RunCall → Bool
  | .go _ => true
  | .pause => false
  | .finish _ => false

def RunCall.isPause : RunCall → Bool
  | .go _ => false
  | .pause => true
  | .finish _ => false

def RunCall.isEnd : RunCall → Bool
  | .go _ => false
  | .pause => false
  | .finish _ => true

/-- The connections that the call closes. -/
def RunCall.closes : RunCall → Nat
  | .go _ => 0
  | .pause => 0
  | .finish env => (readConnections env.codaConfig env.config).toInt.toNat

/-- What the calls of a run have made of the board that the prestart left. -/
structure RunStatus (before : Regs) (t : Strobes) (calls : List RunCall) (s : RunState) :
    Prop where
  streams : s.roc.regs.streamingEb.ctrl3.getLsbD 7 = calls.any RunCall.isGo
  stopped : s.roc.regs.streamingEb.ctrl.getLsbD 31 = true ↔
    ∃ env, (calls.filter fun c => !c.isPause).getLast? = some (.finish env)
  program : ebLayout.get s.roc.regs.streamingEb.ctrl =
    if calls.any fun c => decide (0 < c.closes) then 0#32 else ebLayout.get before.streamingEb.ctrl
  client : ∀ i : Fin 4, s.roc.regs.tcpClient i =
    if calls.any fun c => decide (i.val < c.closes) then
      { before.tcpClient i with ip4StateRequest := 0#32 }
    else before.tcpClient i
  reset : ∀ i : Fin 4, s.strobes.connectionReset i = t.connectionReset i ++
    if i = 0 then (List.replicate (calls.countP RunCall.isEnd) [1#32, 0#32]).flatten else []
  sender : s.stats.run = true → ∃ env, calls.getLast? = some (.go env)

/-- The fields of a view in terms of the calls. -/
structure Told (calls : List RunCall) (v : RunView) : Prop where
  streams : v.streams = calls.any RunCall.isGo
  stopped : v.stopped = true ↔
    ∃ env, (calls.filter fun c => !c.isPause).getLast? = some (.finish env)
  programmed : v.programmed = !calls.any fun c => decide (0 < c.closes)
  closed : ∀ i : Fin 4, v.closed i = calls.any fun c => decide (i.val < c.closes)
  ends : v.ends = calls.countP RunCall.isEnd
  reports : v.reports = true → ∃ env, calls.getLast? = some (.go env)

section

variable {lib : VtpLib} {calls : List RunCall} {v : RunView}

theorem RunCall.closes_finish_pos (env : EndEnv) : 0 < (RunCall.finish env).closes :=
  readConnections_pos env.codaConfig env.config

/-- One more call. -/
theorem Told.step (h : Told calls v) (c : RunCall) : Told (calls ++ [c]) (v.step lib c) := by
  cases c with
  | go env =>
    constructor
    · simp [RunView.step, RunCall.isGo]
    · simp [RunView.step, RunCall.isPause]
    · simpa [RunView.step, RunView.announce, RunCall.closes] using h.programmed
    · intro i
      simpa [RunView.step, RunView.announce, RunCall.closes] using h.closed i
    · simpa [RunView.step, RunView.announce, RunCall.isEnd] using h.ends
    · exact fun _ => ⟨env, List.getLast?_concat⟩
  | pause =>
    constructor
    · simpa [RunView.step, RunCall.isGo] using h.streams
    · simpa [RunView.step, RunCall.isPause] using h.stopped
    · simpa [RunView.step, RunCall.closes] using h.programmed
    · intro i
      simpa [RunView.step, RunCall.closes] using h.closed i
    · simpa [RunView.step, RunCall.isEnd] using h.ends
    · intro hreports
      cases hreports
  | finish env =>
    have hpos := RunCall.closes_finish_pos env
    constructor
    · simpa [RunView.step, RunView.announce, RunView.close, RunCall.isGo] using h.streams
    · simp [RunView.step, RunView.close, RunCall.isPause]
    · simp [RunView.step, RunView.close, hpos]
    · intro i
      simp [RunView.step, RunView.announce, RunView.close, RunCall.closes, h.closed i]
    · simp [RunView.step, RunView.announce, RunView.close, RunCall.isEnd, h.ends]
    · intro hreports
      cases hreports

theorem told_after (n : Nat) (calls : List RunCall) :
    Told calls (RunView.after lib n false calls) := by
  induction calls using List.reverseRecOn with
  | nil =>
    constructor
    · rfl
    · simp [RunView.after, RunView.start]
    · rfl
    · intro i
      rfl
    · rfl
    · intro hreports
      cases hreports
  | append_singleton calls c ih =>
    rw [RunView.after, List.foldl_append]
    exact ih.step c

end

/-- The reset bit is beside the program. -/
theorem layout_or_reset (w : Word) (stopped : Bool) :
    ebLayout.get (w ||| if stopped then 0x80000000#32 else 0#32) = ebLayout.get w := by
  cases stopped with
  | false => rw [if_neg (by decide), BitVec.or_zero]
  | true => exact BitField.get_or_of_beside rfl w

/-- After a prestart with the sender off, the calls say whether the streams are on,
whether the builder is in reset and still has its program, which interfaces are closed,
and how often the connection of the first was reset. The sender runs only if the last
call was a go, so with the streams on and the builder out of reset. -/
theorem run_status {env : RocEnv} {s : RocState} {out : Prestarted}
    (hrun : rocPrestart env s = .done out) (runs : out.lib.Runs vtpFwTypeFadcstream)
    {stats : StatsState} (holds : SenderHolds stats) (hoff : stats.run = false)
    (t : Strobes) (calls : List RunCall) :
    ∃ s', runCalls out.lib calls ⟨out.state, stats, t⟩ = some s' ∧
      RunStatus out.state.regs t calls s' ∧
      (s'.stats.run = true → s'.roc.regs.streamingEb.ctrl3.getLsbD 7 = true ∧
        s'.roc.regs.streamingEb.ctrl.getLsbD 31 = false) := by
  have armed := rocPrestart_armed hrun runs
  obtain ⟨s', hcalls, follows⟩ := runCalls_follows runs armed calls (armed.follows holds t)
  have told :
      Told calls (RunView.after out.lib out.params.numConnections.toInt.toNat false calls) :=
    told_after _ calls
  rw [hoff, ← RunView.after] at follows
  generalize RunView.after out.lib out.params.numConnections.toInt.toNat false calls = v
    at follows told
  have hregs : s'.roc.regs = v.regs out.state.regs := by rw [follows.roc]
  have hstreams : s'.roc.regs.streamingEb.ctrl3.getLsbD 7 = v.streams := by
    rw [hregs, RunView.regs]
    dsimp only
    rw [asyncPort_inputs _ _ 7 (by decide)]
    split
    · next hon =>
      rw [BitVec.getLsbD_or, hon]
      exact Bool.or_true _
    · next hoff =>
      rw [armed.quiet, Bool.eq_false_iff.mpr hoff]
  have hstopped : s'.roc.regs.streamingEb.ctrl.getLsbD 31 = v.stopped := by
    have hprogram : (if v.programmed then out.state.regs.streamingEb.ctrl else 0#32).getLsbD 31 =
        false := by
      split
      · exact armed.running
      · rfl
    rw [hregs, RunView.regs]
    dsimp only
    rw [BitVec.getLsbD_or, hprogram, Bool.false_or]
    cases v.stopped with
    | false => rfl
    | true => rfl
  refine ⟨s', hcalls, ?_, ?_⟩
  · constructor
    · rw [hstreams, told.streams]
    · rw [hstopped, told.stopped]
    · rw [hregs, RunView.regs]
      dsimp only
      rw [layout_or_reset, told.programmed]
      cases calls.any fun c => decide (0 < c.closes) with
      | false => rfl
      | true => exact BitField.get_zero ebLayout
    · intro i
      rw [hregs, RunView.regs]
      dsimp only
      rw [told.closed i]
    · intro i
      rw [follows.strobes, RunView.strobes, told.ends]
      dsimp only
      rcases eq_or_ne i 0 with rfl | hne
      · rw [update_self, if_pos rfl]
      · rw [update_of_ne hne, if_neg hne, List.append_nil]
    · exact fun hon => told.reports (follows.reports hon)
  · intro hon
    obtain ⟨go, hlast⟩ := told.reports (follows.reports hon)
    obtain ⟨pre, rfl⟩ := List.getLast?_eq_some_iff.mp hlast
    constructor
    · rw [hstreams, told.streams]
      simp [RunCall.isGo]
    · rw [hstopped, Bool.eq_false_iff, ne_eq, told.stopped]
      simp [RunCall.isPause]

/-- The shipped run. -/
theorem run_status_sample :
    ∃ out s', rocPrestart (sampleEnv 3#32) sampleState = .done out ∧
      runCalls out.lib [.go sampleGo, .finish sampleEnd] ⟨out.state, .start, .start⟩ =
        some s' ∧
      s'.roc.regs.streamingEb.ctrl.getLsbD 31 = true := by
  obtain ⟨out, hrun, hlib⟩ := samplePrestart_done 3#32
  have runs : out.lib.Runs vtpFwTypeFadcstream := by
    rw [hlib]
    exact ⟨rfl, rfl⟩
  obtain ⟨s', hcalls, status, -⟩ := run_status hrun runs
    (.off rfl rfl rfl rfl : SenderHolds .start) rfl .start [.go sampleGo, .finish sampleEnd]
  exact ⟨out, s', hrun, hcalls, status.stopped.mpr ⟨sampleEnd, rfl⟩⟩

/-! ## The control events -/

/-- A control event as it is read. On TCP a cMsg header comes first, and it marks the
last event. -/
structure ControlRecord where
  cmsg : Option Word
  rocid : Word
  type : BitVec 16
  val0 : Word
  val1 : Word
deriving DecidableEq

/-- A record of one event, behind its cMsg header if there was one. -/
def decodeRecord (cmsg : Option Word) : List Word → Option ControlRecord
  | [total, block, header, count, rocid, info, zero, magic, length, tag, time, val0, val1] =>
      if [total, block, header, count, info, zero, magic, length, time] =
          [13#32, 0xffffffff#32, 8#32, 1#32, 0x1604#32, 0#32, 0xc0da0100#32, 4#32, 1200#32] ∧
          tag &&& 0xffff#32 = 0x100#32 then
        some {
          cmsg := cmsg
          rocid := rocid
          type := (tag >>> 16).setWidth 16
          val0 := val0
          val1 := val1 }
      else none
  | _ => none

def decodeControl (ws : List Word) : Option ControlRecord :=
  if ws.length = 13 then decodeRecord none ws
  else
    match ws with
    | mark :: length :: rest => if length = 13#32 <<< 2 then decodeRecord (some mark) rest else none
    | _ => none

/-- What is to be read of an event. -/
def ControlArgs.record (e : ControlArgs) (udp : Bool) (rocid : Word) : ControlRecord where
  cmsg := if udp then none else some (if e.type = endEvent then 3#32 else 1#32)
  rocid := rocid
  type := e.type.setWidth 16
  val0 := e.val0
  val1 := e.val1

theorem controlTag (type : Word) :
    ((type <<< 16) ||| 0x100#32) &&& 0xffff#32 = 0x100#32 ∧
      (((type <<< 16) ||| 0x100#32) >>> 16).setWidth 16 = type.setWidth 16 := by
  constructor
  · apply BitVec.eq_of_getLsbD_eq
    intro i hi
    have hbits : ∀ i < 32, (0xffff#32).getLsbD i = decide (i < 16) := by decide
    rw [BitVec.getLsbD_and, BitVec.getLsbD_or, BitVec.getLsbD_shiftLeft, hbits i hi]
    rcases lt_or_ge i 16 with hlow | hhigh
    · simp [hlow]
    · have hset : ∀ i < 32, 16 ≤ i → (0x100#32).getLsbD i = false := by decide
      simp [hhigh, hset i hi hhigh]
  · apply BitVec.eq_of_getLsbD_eq
    intro i hi
    have hset : ∀ i < 16, (0x100#32).getLsbD (16 + i) = false := by decide
    have hin : 16 + i < 32 := by omega
    rw [BitVec.getLsbD_setWidth, BitVec.getLsbD_setWidth, BitVec.getLsbD_ushiftRight,
      BitVec.getLsbD_or, hset i hi, BitVec.getLsbD_shiftLeft]
    simp [hi, hin]

/-- The round trip of one event. -/
theorem decodeControl_controlEvent (udp : Bool) (rocid : Word) (e : ControlArgs) :
    decodeControl (controlEvent udp rocid e.type e.val0 e.val1) = some (e.record udp rocid) := by
  obtain ⟨htag, htype⟩ := controlTag e.type
  cases udp with
  | false => simp [controlEvent, decodeControl, decodeRecord, ControlArgs.record, htag, htype]
  | true => simp [controlEvent, decodeControl, decodeRecord, ControlArgs.record, htag, htype]

theorem controlEvent_length (udp : Bool) (rocid type val0 val1 : Word) :
    (controlEvent udp rocid type val0 val1).length = if udp then 13 else 15 := by
  cases udp with
  | false => rfl
  | true => rfl

theorem words_length (r : Regs) (e : ControlArgs) :
    (RunView.words r e).length = (RunView.eventLength r).toNat := by
  rw [RunView.words, controlEvent_length, RunView.eventLength]
  split
  · rfl
  · rfl

/-! ## All events of a run -/

/-- The events that a call writes, one for each stream. -/
def RunCall.events (lib : VtpLib) : RunCall → List ControlArgs
  | .go env =>
      (List.range (min (readConnections env.codaConfig env.config).toInt.toNat 4)).map
        fun _ => ⟨env.evGo, 0#32, 0#32⟩
  | .pause => []
  | .finish env =>
      (List.range (min (readConnections env.codaConfig env.config).toInt.toNat 4)).map
        (endArgs lib env)

theorem after_events (lib : VtpLib) (n : Nat) (reports : Bool) (calls : List RunCall) :
    (RunView.after lib n reports calls).events = calls.flatMap (RunCall.events lib) := by
  induction calls using List.reverseRecOn with
  | nil => rfl
  | append_singleton calls c ih =>
    have hstep : (RunView.after lib n reports (calls ++ [c])) =
        (RunView.after lib n reports calls).step lib c := by
      rw [RunView.after, List.foldl_append]
      rfl
    rw [hstep, List.flatMap_append, List.flatMap_singleton, ← ih]
    cases c with
    | go env => rfl
    | pause => exact (List.append_nil _).symm
    | finish env => rfl

/-- The events of a prestart. -/
def prestartArgs (env : RocEnv) (n : Nat) : List ControlArgs :=
  List.replicate (min n 4) ⟨env.evPrestart, env.runNumber, env.runType⟩

section

variable {env : RocEnv} {s : RocState} {out : Prestarted} {lib : VtpLib} {r : Regs}
  {path : List Char}

/-- What a prestart has added to the fifos. -/
theorem prestart_events (hrun : rocPrestart env s = .done out)
    (hboard : env.vtpInit s.regs = some (lib, r)) (runs : lib.Runs vtpFwTypeFadcstream)
    (htype : (r.fwType 0).toInt = vtpFwTypeFadcstream)
    (hpath : vtpGetGeneratedConfigPath env.codaConfig env.config.hostname 512 = some path) :
    MoreEvents (prestartEvent env out.state.regs) (prestartLength out.state.regs)
        (min out.params.numConnections.toInt.toNat 4) r out.state.regs ∧
      (out.state.regs.ebiorx 0).getLsbD 8 = decide (out.params.netMode ≠ 0#32) := by
  obtain ⟨code, conf, -, hvalid, hout⟩ := rocPrestart_board hrun hboard hpath
  let s' : RocState :=
    { s with
      conf := (vtpDownloadAll lib env.fpu conf env.uploadStack r).1
      regs := (vtpDownloadAll lib env.fpu conf env.uploadStack r).2 }
  have hnet : NetProgrammed env s'.regs out := by
    rw [hout]
    exact prestartBoard_net s' runs hvalid
  obtain ⟨heb, -⟩ := @vtpDownloadAll_streaming _ env.fpu conf env.uploadStack r runs htype
  have hdata : s'.regs.streamingEb.cpuAsyncEventData = r.streamingEb.cpuAsyncEventData := by
    show (vtpDownloadAll lib env.fpu conf env.uploadStack r).2.streamingEb.cpuAsyncEventData = _
    rw [heb]
    rfl
  have hinfo : s'.regs.streamingEb.cpuAsyncEventInfo = r.streamingEb.cpuAsyncEventInfo := by
    show (vtpDownloadAll lib env.fpu conf env.uploadStack r).2.streamingEb.cpuAsyncEventInfo = _
    rw [heb]
    rfl
  exact ⟨⟨hnet.events.data.trans (congrArg (· ++ _) hdata),
    hnet.events.info.trans (congrArg (· ++ _) hinfo)⟩, hnet.link⟩

/-- Who takes the words of the data fifo apart by the lengths in the other reads one
event for each stream at the prestart, at each go and at each end, in the order of the
calls and with their values, and nothing else. Every one has the roc id and the framing
of the prestart. -/
theorem run_events_decoded (hrun : rocPrestart env s = .done out)
    (hboard : env.vtpInit s.regs = some (lib, r)) (runs : lib.Runs vtpFwTypeFadcstream)
    (htype : (r.fwType 0).toInt = vtpFwTypeFadcstream)
    (hpath : vtpGetGeneratedConfigPath env.codaConfig env.config.hostname 512 = some path)
    {stats : StatsState} (holds : SenderHolds stats) (t : Strobes) (calls : List RunCall) :
    ∃ s', runCalls lib calls ⟨out.state, stats, t⟩ = some s' ∧
      (unframe ((s'.roc.regs.streamingEb.cpuAsyncEventInfo.drop
          r.streamingEb.cpuAsyncEventInfo.length).map BitVec.toNat)
        (s'.roc.regs.streamingEb.cpuAsyncEventData.drop
          r.streamingEb.cpuAsyncEventData.length)).map (·.map decodeControl) =
        some ((prestartArgs env out.params.numConnections.toInt.toNat ++
          calls.flatMap (RunCall.events lib)).map fun e =>
            some (e.record (decide (out.params.netMode ≠ 0#32)) (checkRange 0 127 env.rocid))) := by
  obtain ⟨hmore, hlink⟩ := prestart_events hrun hboard runs htype hpath
  have hlib : out.lib = lib := by
    obtain ⟨code, conf, -, -, hout⟩ := rocPrestart_board hrun hboard hpath
    rw [hout]
    rfl
  have hrocid := (rocPrestart_programmed hrun (hlib ▸ runs)).rocid
  have armed := rocPrestart_armed hrun (hlib ▸ runs)
  obtain ⟨s', hcalls, follows⟩ := runCalls_follows runs armed calls (armed.follows holds t)
  rw [← RunView.after] at follows
  have hregs : s'.roc.regs = (RunView.after lib out.params.numConnections.toInt.toNat stats.run
      calls).regs out.state.regs := by rw [follows.roc]
  let events := prestartArgs env out.params.numConnections.toInt.toNat ++
    calls.flatMap (RunCall.events lib)
  let packets := events.map (RunView.words out.state.regs)
  have hdata : s'.roc.regs.streamingEb.cpuAsyncEventData =
      r.streamingEb.cpuAsyncEventData ++ packets.flatten := by
    rw [hregs, RunView.regs, after_events]
    dsimp only
    rw [hmore.data, List.append_assoc, ← List.flatten_append]
    simp only [packets, events, prestartArgs, List.map_append, List.map_replicate]
    rfl
  have hinfo : s'.roc.regs.streamingEb.cpuAsyncEventInfo =
      r.streamingEb.cpuAsyncEventInfo ++
        events.map fun _ => RunView.eventLength out.state.regs := by
    rw [hregs, RunView.regs, after_events]
    dsimp only
    rw [hmore.info, List.append_assoc]
    simp only [events, prestartArgs, List.map_append, List.map_replicate]
    rfl
  have hlengths : (events.map fun _ => RunView.eventLength out.state.regs).map BitVec.toNat =
      packets.map List.length := by
    simp only [packets, List.map_map]
    exact List.map_congr_left fun e _ => (words_length out.state.regs e).symm
  refine ⟨s', hcalls, ?_⟩
  rw [hdata, hinfo, List.drop_left, List.drop_left, hlengths, unframe_packets, Option.map_some,
    List.map_map]
  refine congrArg some (List.map_congr_left fun e _ => ?_)
  rw [Function.comp_apply, RunView.words, decodeControl_controlEvent, hlink, hrocid]

end

/-- One connection over TCP. The first event is that of the prestart. -/
theorem run_events_decoded_sample :
    ∃ out s' packets, rocPrestart (connectionsEnv oneConnection) streamingState = .done out ∧
      runCalls streamingLib [.go sampleGo, .finish sampleEnd] ⟨out.state, .start, .start⟩ =
        some s' ∧
      unframe ((s'.roc.regs.streamingEb.cpuAsyncEventInfo.drop 0).map BitVec.toNat)
        (s'.roc.regs.streamingEb.cpuAsyncEventData.drop 0) = some packets ∧
      (packets.map decodeControl).head? = some (some ⟨some 1#32, 1#32, 0xffd1#16, 1#32, 0#32⟩) := by
  have hparams : vtpReadAllFromCfg (connectionsEnv oneConnection).config.files
      (some "/c/vtp_test2.cnf".toList) noParams =
      { noParams with numConnections := 1#32, localPort := 10001#32 } := by decide
  have hdone := @rocPrestart_eq (connectionsEnv oneConnection) streamingState streamingLib
    streamingRegs _ _ _ _ rfl connections_path rfl rfl (congrArg NetParams.valid hparams)
  generalize hout : prestartBoard _ _ _ _ = out at hdone
  have hnumber : out.params.numConnections = 1#32 := by
    rw [← hout, hparams]
    rfl
  have hmode : out.params.netMode = 0#32 := by
    rw [← hout, hparams]
    rfl
  obtain ⟨s', hcalls, hdecoded⟩ := run_events_decoded hdone rfl ⟨rfl, rfl⟩ rfl connections_path
    (.off rfl rfl rfl rfl : SenderHolds .start) .start [.go sampleGo, .finish sampleEnd]
  obtain ⟨packets, hpackets, hrecords⟩ := Option.map_eq_some_iff.mp hdecoded
  refine ⟨out, s', packets, hdone, hcalls, hpackets, ?_⟩
  rw [hrecords, hnumber, hmode]
  rfl

end VtpStreaming
