import VtpStreaming.Clib.Framed
import VtpStreaming.SenderLife
import VtpStreaming.StreamCount
import VtpStreaming.StreamCounters
import VtpStreaming.V7Config

/-!
# A run of the streaming readout list

`rol/vtp_stream3_1udp_vg.c`, `rocGo`, `rocPause` and `rocEnd`, which run control calls
in any order after a prestart.

What they print is left out, and so is `VTPflag`, which stays 0, and the look at the
serdes links, which is only logged. The registers that nothing reads back are kept as the
words that they were given.
-/

namespace VtpStreaming

open Clib Function VtpLib

/-! ## The readout list -/

/-- The words that some registers were given, in order: `v7.Ctrl`, `v7.eb.BlockSize`,
`v7.sd.ScalerLatch`, and `IP4_ConnectionReset` of each client. -/
structure Strobes where
  bridge : V7Bridge
  blockSize : List Word
  scalerLatch : List Word
  connectionReset : Fin 4 → List Word

def Strobes.start : Strobes := ⟨V7Bridge.start, [], [], fun _ => []⟩

structure RunState where
  roc : RocState
  stats : StatsState
  strobes : Strobes

/-- What one `rocGo` finds: the file, two environment variables and the answers to the
launch. `EV_GO` is a constant of CODA. -/
structure GoEnv where
  codaConfig : List Char
  config : ConfigEnv
  statsHost : Option (List Char)
  statsPort : Option (List Char)
  answers : LaunchAnswers
  evGo : Word

/-- What one `rocEnd` finds. `rx` are the counters after the wait. -/
structure EndEnv where
  codaConfig : List Char
  config : ConfigEnv
  rx : Ebiorx
  runNumber : Word
  evEnd : Word

/-- `numConnections` in the generated file, 0 without one. -/
def connectionsInFile (codaConfig : List Char) (config : ConfigEnv) : Word :=
  match vtpGetGeneratedConfigPath codaConfig config.hostname 512 with
  | none => 0#32
  | some path =>
      if (config.files path).isNone then 0#32
      else (vtpReadAllFromCfg config.files (some path) noParams).numConnections

/-- `numConnections` as `rocGo` and `rocEnd` read it again. -/
def readConnections (codaConfig : List Char) (config : ConfigEnv) : Word :=
  let n := connectionsInFile codaConfig config
  if n = 0#32 then 1#32 else n

/-- `strtol` in base 10. What is no number is 0. -/
def strtol (s : List Char) : Int :=
  match scanD s with
  | none => 0
  | some (v, _) => v.toInt

/-- The environment goes before the configuration, unless it is empty. -/
def senderHost (env : GoEnv) (conf : VtpConf) : List Char :=
  match env.statsHost with
  | none => conf.streaming.statsHost
  | some host => if host = [] then conf.streaming.statsHost else host

def senderPort (env : GoEnv) (conf : VtpConf) : BitVec 16 :=
  match env.statsPort with
  | none => conf.streaming.statsPort.setWidth 16
  | some port =>
      let pv := strtol port
      if 0 < pv ∧ pv < 65536 then BitVec.ofInt 16 pv else conf.streaming.statsPort.setWidth 16

def strebPpStreamEn : Word := 0x80#32

/-- `blklevel`. -/
def blklevel : Word := 1#32

/-- The arguments of a control event. -/
structure ControlArgs where
  type : Word
  val0 : Word
  val1 : Word

section

variable (lib : VtpLib)

/-- The loops over the streams. -/
def controlEvents (event : Nat → ControlArgs) (n : Nat) (r : Regs) : Regs :=
  (List.range n).foldl (fun r ii => call (lib.vtpStreamingEvioWriteControl ii (event ii).type
    (event ii).val0 (event ii).val1) r) r

def closeAll (n : Nat) (r : Regs) : Regs :=
  (List.range n).foldl (fun r ii => call (lib.vtpStreamingTcpConnect ii 0 []) r) r

/-- The number of frames of each stream goes with its last event. -/
def endArgs (env : EndEnv) (ii : Nat) : ControlArgs where
  type := env.evEnd
  val0 := env.runNumber
  val1 := vtpStreamingFramesSent lib env.rx ii

def vtpSetBlockLevel (level : Word) (t : Strobes) : Strobes :=
  if lib.checkInit then { t with blockSize := t.blockSize ++ [level] } else t

/-- `vtpV7SetResetSoft (1)` and `vtpV7SetResetSoft (0)`. -/
def resetSoftPulse (t : Strobes) : Strobes :=
  if lib.checkInit then
    { t with bridge := vtpV7SetResetSoft 0 (vtpV7SetResetSoft 1 t.bridge) }
  else t

/-- The counters are latched while they are read. -/
def vtpSDPrintScalers (t : Strobes) : Strobes :=
  if lib.checkInit then { t with scalerLatch := t.scalerLatch ++ [1#32, 0#32] } else t

def vtpStreamingTcpReset (inst : Fin 4) (t : Strobes) : Strobes :=
  if lib.ready vtpFwTypeFadcstream 0 then
    { t with
      connectionReset :=
        update t.connectionReset inst (t.connectionReset inst ++ [1#32, 0#32]) }
  else t

/-- None when the sender misuses a thread or a descriptor. -/
def rocGo (env : GoEnv) (s : RunState) : Option RunState :=
  let n := (readConnections env.codaConfig env.config).toInt.toNat
  let conf := s.roc.conf
  match vtpStatsSenderLaunch (some (senderHost env conf)) (senderPort env conf)
      conf.streaming.statsInst.toInt env.answers s.stats with
  | none => none
  | some (_, stats) =>
      let r := controlEvents lib (fun _ => ⟨env.evGo, 0#32, 0#32⟩) n s.roc.regs
      let r := call (vtpStreamingEbEnable strebPpStreamEn) r
      some {
        roc := { s.roc with regs := r }
        stats := stats
        strobes := vtpSDPrintScalers lib (resetSoftPulse lib
          (vtpSetBlockLevel lib blklevel s.strobes)) }

/-- The builder stays on. -/
def rocPause (s : RunState) : Option RunState :=
  match vtpStatsSenderStop s.stats with
  | none => none
  | some (_, stats) => some { s with stats := stats }

def rocEnd (env : EndEnv) (s : RunState) : Option RunState :=
  let n := (readConnections env.codaConfig env.config).toInt.toNat
  match vtpStatsSenderStop s.stats with
  | none => none
  | some (_, stats) =>
      let r := call (vtpStreamingEbEnable strebAsyncFifoEn) s.roc.regs
      let r := closeAll lib n (controlEvents lib (endArgs lib env) n r)
      some {
        roc := { s.roc with regs := r }
        stats := stats
        strobes := vtpSDPrintScalers lib (vtpStreamingTcpReset lib 0 s.strobes) }

/-- The calls of run control between two prestarts. -/
inductive RunCall
  | go (env : GoEnv)
  | pause
  | finish (env : EndEnv)

def RunCall.run : RunCall → RunState → Option RunState
  | .go env => rocGo lib env
  | .pause => rocPause
  | .finish env => rocEnd lib env

def runCalls (calls : List RunCall) (s : RunState) : Option RunState :=
  calls.foldlM (fun s c => c.run lib s) s

end

/-! ## What a run is for -/

/-- Where a run stands, the events that it has written since the prestart, and how many
calls of go and of end there were. -/
structure RunView where
  streams : Bool
  stopped : Bool
  programmed : Bool
  closed : Fin 4 → Bool
  port : Fin 4
  events : List ControlArgs
  reports : Bool
  gos : Nat
  ends : Nat

/-- The port of the last of `n` events. -/
def lastPort (n : Nat) : Fin 4 := ⟨min n 4 - 1, by omega⟩

namespace RunView

/-- After a prestart of `n` connections, which leaves the sender as it is. -/
def start (n : Nat) (reports : Bool) : RunView where
  streams := false
  stopped := false
  programmed := true
  closed := fun _ => false
  port := lastPort n
  events := []
  reports := reports
  gos := 0
  ends := 0

def announce (event : Nat → ControlArgs) (n : Nat) (v : RunView) : RunView :=
  { v with port := lastPort n, events := v.events ++ (List.range (min n 4)).map event }

/-- Closing one connection takes the program of the builder with it. -/
def close (n : Nat) (v : RunView) : RunView :=
  { v with
    stopped := true
    programmed := false
    closed := fun i => v.closed i || decide (i.val < n) }

def step (lib : VtpLib) (v : RunView) : RunCall → RunView
  | .go env =>
      let n := (readConnections env.codaConfig env.config).toInt.toNat
      { v.announce (fun _ => ⟨env.evGo, 0#32, 0#32⟩) n with
        streams := true, stopped := false, reports := true, gos := v.gos + 1 }
  | .pause => { v with reports := false }
  | .finish env =>
      let n := (readConnections env.codaConfig env.config).toInt.toNat
      { (v.announce (endArgs lib env) n).close n with reports := false, ends := v.ends + 1 }

def after (lib : VtpLib) (n : Nat) (reports : Bool) (calls : List RunCall) : RunView :=
  calls.foldl (step lib) (start n reports)

section

variable (r : Regs)

/-- The words of one event, in the framing of `r`. -/
def words (e : ControlArgs) : List Word :=
  controlEvent ((r.ebiorx 0).getLsbD 8) r.streamingEb.rocid e.type e.val0 e.val1

def eventLength : Word := if (r.ebiorx 0).getLsbD 8 then 13#32 else 15#32

/-- The registers of the view, over those that the prestart has left. -/
def regs (v : RunView) : Regs :=
  { r with
    streamingEb :=
      { r.streamingEb with
        ctrl := (if v.programmed then r.streamingEb.ctrl else 0#32) |||
          (if v.stopped then 0x80000000#32 else 0#32)
        ctrl3 := asyncPort v.port
          (if v.streams then r.streamingEb.ctrl3 ||| strebPpStreamEn else r.streamingEb.ctrl3)
        cpuAsyncEventData := r.streamingEb.cpuAsyncEventData ++ (v.events.map (words r)).flatten
        cpuAsyncEventInfo := r.streamingEb.cpuAsyncEventInfo ++
          v.events.map fun _ => eventLength r }
    tcpClient := fun i =>
      if v.closed i then { r.tcpClient i with ip4StateRequest := 0#32 } else r.tcpClient i }

end

/-- A go sets the block level, pulses the soft reset and latches the counters. An end
resets the connection of the first client and latches the counters. -/
def strobes (t : Strobes) (v : RunView) : Strobes where
  bridge :=
    { t.bridge with
      shadow := if v.gos = 0 then t.bridge.shadow else t.bridge.shadow &&& ~~~2#32
      writes := t.bridge.writes ++ (List.replicate v.gos
        [.ctrl (t.bridge.shadow ||| 2#32), .ctrl (t.bridge.shadow &&& ~~~2#32)]).flatten }
  blockSize := t.blockSize ++ List.replicate v.gos 1#32
  scalerLatch := t.scalerLatch ++ (List.replicate (v.gos + v.ends) [1#32, 0#32]).flatten
  connectionReset := update t.connectionReset 0
    (t.connectionReset 0 ++ (List.replicate v.ends [1#32, 0#32]).flatten)

end RunView

/-- What a prestart leaves: the builder is out of reset, events can be written and the
streams are off. `port` is the one of its last event. -/
structure Armed (port : Fin 4) (r : Regs) : Prop where
  running : r.streamingEb.ctrl.getLsbD 31 = false
  async : r.streamingEb.ctrl3.getLsbD 6 = true
  quiet : r.streamingEb.ctrl3.getLsbD 7 = false
  port : asyncPort port r.streamingEb.ctrl3 = r.streamingEb.ctrl3

/-- The registers and the sender are as the view says, and nothing else has changed. -/
structure Follows (before : RocState) (t : Strobes) (v : RunView) (s : RunState) : Prop where
  roc : s.roc = { before with regs := v.regs before.regs }
  strobes : s.strobes = v.strobes t
  sender : SenderHolds s.stats
  reports : s.stats.run = true → v.reports = true

/-! ## Words -/

/-- The reset bit is taken off. -/
theorem and_running {w : Word} (h : w.getLsbD 31 = false) (stopped : Bool) :
    (w ||| if stopped then 0x80000000#32 else 0#32) &&& 0x7fffffff#32 = w := by
  have hbits : ∀ i < 32, i ≠ 31 →
      (0x7fffffff#32).getLsbD i = true ∧ (0x80000000#32).getLsbD i = false := by decide
  apply BitVec.eq_of_getLsbD_eq
  intro i hi
  rcases eq_or_ne i 31 with rfl | hne
  · rw [h, BitVec.getLsbD_and]
    exact Bool.and_false _
  · obtain ⟨hkeep, hreset⟩ := hbits i hi hne
    cases stopped with
    | false => simp [hkeep]
    | true => simp [hkeep, hreset]

theorem or_async {w : Word} (h : w.getLsbD 6 = true) : w ||| strebAsyncFifoEn = w := by
  have hbits : ∀ i < 32, i ≠ 6 → strebAsyncFifoEn.getLsbD i = false := by decide
  apply BitVec.eq_of_getLsbD_eq
  intro i hi
  rcases eq_or_ne i 6 with rfl | hne
  · rw [BitVec.getLsbD_or, h, Bool.true_or]
  · rw [BitVec.getLsbD_or, hbits i hi hne, Bool.or_false]

/-- Setting a bit that was cleared. -/
theorem clear_then_set (w m : Word) : w &&& ~~~m ||| m = w ||| m := by
  apply BitVec.eq_of_getLsbD_eq
  intro i hi
  simp only [BitVec.getLsbD_or, BitVec.getLsbD_and, BitVec.getLsbD_not, hi, decide_true,
    Bool.true_and]
  cases w.getLsbD i <;> cases m.getLsbD i <;> rfl

/-- Clearing a bit that was set. -/
theorem set_then_clear (w m : Word) : (w ||| m) &&& ~~~m = w &&& ~~~m := by
  apply BitVec.eq_of_getLsbD_eq
  intro i hi
  simp only [BitVec.getLsbD_or, BitVec.getLsbD_and, BitVec.getLsbD_not, hi, decide_true,
    Bool.true_and]
  cases w.getLsbD i <;> cases m.getLsbD i <;> rfl

/-- The last port counts. -/
theorem asyncPort_asyncPort (i j : Fin 4) (w : Word) :
    asyncPort i (asyncPort j w) = asyncPort i w := by
  have hport : ∀ j : Fin 4, (BitVec.ofNat 32 j <<< 4) &&& 0xffffffcf#32 = 0#32 := by decide
  rw [asyncPort, asyncPort, asyncPort, BitVec.and_or_distrib_right, hport, BitVec.zero_or,
    BitVec.and_assoc, BitVec.and_self]

/-- A bit that is not the port's. -/
theorem asyncPort_or (i : Fin 4) {m : Word} (h : m &&& 0xffffffcf#32 = m) (w : Word) :
    asyncPort i w ||| m = asyncPort i (w ||| m) := by
  rw [asyncPort, asyncPort, BitVec.and_or_distrib_right, h, BitVec.or_assoc]

/-! ## One call of the library -/

namespace RunView

variable {lib : VtpLib} {r : Regs} {p : Fin 4}

section

variable (runs : lib.Runs vtpFwTypeFadcstream)

include runs

theorem event_regs (i : Fin 4) (e : ControlArgs) (v : RunView) :
    call (lib.vtpStreamingEvioWriteControl i e.type e.val0 e.val1) (v.regs r) =
      { v with port := i, events := v.events ++ [e] }.regs r := by
  rw [vtpStreamingEvioWriteControl, runs.call_onInst i.isLt]
  simp only [regs, asyncPort_asyncPort, List.map_append, List.flatten_append, List.map_cons,
    List.map_nil, List.flatten_singleton, List.append_assoc]
  rfl

theorem announce_regs (event : Nat → ControlArgs) {n : Nat} (h : 1 ≤ n) (v : RunView) :
    controlEvents lib event n (v.regs r) = (v.announce event n).regs r := by
  induction n, h using Nat.le_induction with
  | base => exact event_regs runs 0 (event 0) v
  | succ n hn ih =>
    have hstep : controlEvents lib event (n + 1) (v.regs r) =
        call (lib.vtpStreamingEvioWriteControl n (event n).type (event n).val0 (event n).val1)
          (controlEvents lib event n (v.regs r)) := by
      rw [controlEvents, List.range_succ, List.foldl_append]
      rfl
    rw [hstep, ih]
    rcases lt_or_ge n 4 with hlt | hge
    · have hone := event_regs (r := r) runs ⟨n, hlt⟩ (event n) (v.announce event n)
      refine hone.trans ?_
      have hport : lastPort (n + 1) = ⟨n, hlt⟩ := by
        apply Fin.ext
        show min (n + 1) 4 - 1 = n
        omega
      rw [announce, announce, hport, Nat.min_eq_left hlt.le, Nat.min_eq_left hlt, List.range_succ,
        List.map_append, List.append_assoc]
      rfl
    · have hport : lastPort (n + 1) = lastPort n := by
        apply Fin.ext
        show min (n + 1) 4 - 1 = min n 4 - 1
        omega
      rw [vtpStreamingEvioWriteControl, call_onInst_refused (by omega), announce, announce, hport,
        Nat.min_eq_right hge, Nat.min_eq_right (by omega)]

theorem close_one (i : Fin 4) (v : RunView) :
    call (lib.vtpStreamingTcpConnect i 0 []) (v.regs r) =
      { v with
        stopped := true
        programmed := false
        closed := update v.closed i true }.regs r := by
  rw [vtpStreamingTcpConnect, runs.call_onInst i.isLt, if_neg (by decide)]
  simp only [regs, setTcpClient, Bool.false_eq_true, if_false, if_true, BitVec.zero_or]
  congr 1
  funext j
  rcases eq_or_ne j i with rfl | hne
  · simp only [update_self, if_true]
    split
    · rfl
    · rfl
  · simp only [update_of_ne hne]

theorem close_regs {n : Nat} (h : 1 ≤ n) (v : RunView) :
    closeAll lib n (v.regs r) = (v.close n).regs r := by
  induction n, h using Nat.le_induction with
  | base =>
    refine (close_one runs 0 v).trans ?_
    rw [close]
    congr 2
    funext i
    rcases eq_or_ne i 0 with rfl | hne
    · simp
    · have hpos : ¬i.val < 1 := by
        have hval : i.val ≠ 0 := fun h => hne (Fin.ext h)
        omega
      rw [update_of_ne hne, decide_eq_false hpos, Bool.or_false]
  | succ n hn ih =>
    have hstep : closeAll lib (n + 1) (v.regs r) =
        call (lib.vtpStreamingTcpConnect n 0 []) (closeAll lib n (v.regs r)) := by
      rw [closeAll, List.range_succ, List.foldl_append]
      rfl
    rw [hstep, ih]
    rcases lt_or_ge n 4 with hlt | hge
    · refine (close_one runs ⟨n, hlt⟩ (v.close n)).trans ?_
      rw [close, close]
      congr 2
      funext i
      rcases eq_or_ne i ⟨n, hlt⟩ with rfl | hne
      · simp
      · have hval : i.val ≠ n := fun h => hne (Fin.ext h)
        have hiff : i.val < n + 1 ↔ i.val < n := by omega
        rw [update_of_ne hne, decide_eq_decide.mpr hiff]
    · have hall : ∀ i : Fin 4, decide (i.val < n + 1) = decide (i.val < n) := by
        intro i
        have hi := i.isLt
        rw [decide_eq_decide]
        omega
      rw [vtpStreamingTcpConnect, call_onInst_refused (by omega), close, close]
      simp only [hall]

end

/-- `Ctrl` is out of reset, whatever it holds. -/
theorem enable_regs (armed : Armed p r) (mask : Word) (accepted : mask &&& strebEnableMask = 0#32)
    (v : RunView) :
    call (vtpStreamingEbEnable mask) (v.regs r) =
      { ({ v with stopped := false }.regs r) with
        streamingEb :=
          { ({ v with stopped := false }.regs r).streamingEb with
            ctrl3 := (v.regs r).streamingEb.ctrl3 ||| mask } } := by
  have hctrl : (if v.programmed then r.streamingEb.ctrl else 0#32).getLsbD 31 = false := by
    split
    · exact armed.running
    · rfl
  rw [call, vtpStreamingEbEnable, if_pos accepted, Option.getD_some]
  simp only [regs, and_running hctrl, Bool.false_eq_true, if_false, BitVec.or_zero]

theorem go_regs (armed : Armed p r) (v : RunView) :
    call (vtpStreamingEbEnable strebPpStreamEn) (v.regs r) =
      { v with streams := true, stopped := false }.regs r := by
  have honce : (if v.streams then r.streamingEb.ctrl3 ||| strebPpStreamEn
      else r.streamingEb.ctrl3) ||| strebPpStreamEn = r.streamingEb.ctrl3 ||| strebPpStreamEn := by
    split
    · rw [BitVec.or_assoc, BitVec.or_self]
    · rfl
  have hbit : strebPpStreamEn &&& 0xffffffcf#32 = strebPpStreamEn := by decide
  rw [enable_regs armed _ (by decide)]
  simp only [regs, asyncPort_or _ hbit, honce, if_true]

theorem async_regs (armed : Armed p r) (v : RunView) :
    call (vtpStreamingEbEnable strebAsyncFifoEn) (v.regs r) =
      { v with stopped := false }.regs r := by
  have hon : (if v.streams then r.streamingEb.ctrl3 ||| strebPpStreamEn
      else r.streamingEb.ctrl3) ||| strebAsyncFifoEn =
      if v.streams then r.streamingEb.ctrl3 ||| strebPpStreamEn else r.streamingEb.ctrl3 := by
    apply or_async
    split
    · rw [BitVec.getLsbD_or, armed.async, Bool.true_or]
    · exact armed.async
  have hbit : strebAsyncFifoEn &&& 0xffffffcf#32 = strebAsyncFifoEn := by decide
  rw [enable_regs armed _ (by decide)]
  simp only [regs, asyncPort_or _ hbit, hon]

end RunView

/-! ## The strobes -/

section

variable {lib : VtpLib} (runs : lib.Runs vtpFwTypeFadcstream) (t : Strobes) (v : RunView)

include runs

theorem go_strobes :
    vtpSDPrintScalers lib (resetSoftPulse lib (vtpSetBlockLevel lib blklevel (v.strobes t))) =
      { v with gos := v.gos + 1 }.strobes t := by
  have hinit : lib.checkInit = true := runs.mapped
  -- the pulse leaves the bit cleared, so the first go and the later ones write the same words
  have hset : (v.strobes t).bridge.shadow ||| 1#32 <<< V7Ctrl.resetSoft.bit =
      t.bridge.shadow ||| 2#32 := by
    rw [show (1#32 <<< V7Ctrl.resetSoft.bit) = 2#32 from rfl, RunView.strobes]
    dsimp only
    split
    · rfl
    · rw [clear_then_set]
  have hclear : (t.bridge.shadow ||| 2#32) &&& ~~~(1#32 <<< V7Ctrl.resetSoft.bit) =
      t.bridge.shadow &&& ~~~2#32 := set_then_clear _ _
  have hpulse : vtpV7SetResetSoft 0 (vtpV7SetResetSoft 1 (v.strobes t).bridge) =
      ({ v with gos := v.gos + 1 }.strobes t).bridge := by
    rw [vtpV7SetResetSoft, vtpV7SetResetSoft, v7SetCtrl, if_neg (by decide), v7SetCtrl,
      if_pos (by decide), hset]
    show (V7Bridge.drive _ ((t.bridge.shadow ||| 2#32) &&& _)) = _
    rw [hclear]
    simp only [V7Bridge.drive, V7Bridge.write, RunView.strobes, List.replicate_succ',
      List.flatten_append, List.append_assoc, List.flatten_singleton, List.cons_append,
      List.nil_append, Nat.add_one_ne_zero, if_false]
  simp only [vtpSDPrintScalers, resetSoftPulse, vtpSetBlockLevel, hinit, if_true, hpulse]
  simp only [RunView.strobes, blklevel, List.replicate_succ', Nat.add_right_comm v.gos 1,
    List.flatten_append, List.flatten_singleton, List.append_assoc]

theorem end_strobes :
    vtpSDPrintScalers lib (vtpStreamingTcpReset lib 0 (v.strobes t)) =
      { v with ends := v.ends + 1 }.strobes t := by
  have hinit : lib.checkInit = true := runs.mapped
  simp only [vtpSDPrintScalers, vtpStreamingTcpReset, hinit, runs.ready, if_true, RunView.strobes,
    update_self, update_idem, ← Nat.add_assoc, List.replicate_succ', List.flatten_append,
    List.flatten_singleton, List.append_assoc]

end

/-! ## The prestart -/

/-- The bits that a prestart leaves, apart from the port. -/
structure StreamsOff (r : Regs) : Prop where
  running : r.streamingEb.ctrl.getLsbD 31 = false
  async : r.streamingEb.ctrl3.getLsbD 6 = true
  quiet : r.streamingEb.ctrl3.getLsbD 7 = false

section

variable {env : RocEnv} {lib : VtpLib} {params : NetParams} {r : Regs}

/-- What a call asks for is what its bits become. -/
theorem StreamsOff.op (ready : lib.ready vtpFwTypeFadcstream 0) (op : EbOp)
    (hinputs : ∀ v : EbView, (v.step op).inputs = v.inputs)
    (hstopped : ∀ v : EbView, v.stopped = false → (v.step op).stopped = false) (h : StreamsOff r) :
    StreamsOff (call (op.run lib) r) := by
  have shows := op.step_shows ready (EbShows.self r.streamingEb)
  constructor
  · rw [shows.stopped]
    exact hstopped _ h.running
  · rw [shows.inputs 6 (by decide), hinputs]
    exact h.async
  · rw [shows.inputs 7 (by decide), hinputs]
    exact h.quiet

theorem StreamsOff.connect (ready : lib.ready vtpFwTypeFadcstream 0) (h : StreamsOff r) (inst : Nat)
    {connect : Int} (opens : 0 < connect) :
    StreamsOff (call (lib.vtpStreamingTcpConnect inst connect []) r) := by
  rcases lt_or_ge inst 4 with hinst | hinst
  · have hop := h.op ready (.tcpConnect (BitVec.ofNat 32 inst) connect opens [])
      (fun v => by rw [EbView.step]; split <;> rfl)
      (fun v hv => by rw [EbView.step]; split <;> first | rfl | exact hv)
    rwa [EbOp.run, toNat_inst hinst] at hop
  · rwa [vtpStreamingTcpConnect, call_onInst_refused (by omega)]

theorem StreamsOff.control (ready : lib.ready vtpFwTypeFadcstream 0) (h : StreamsOff r) (inst : Nat)
    (type val0 val1 : Word) :
    StreamsOff (call (lib.vtpStreamingEvioWriteControl inst type val0 val1) r) := by
  rcases lt_or_ge inst 4 with hinst | hinst
  · have hop := h.op ready (.evioWriteControl (BitVec.ofNat 32 inst) type val0 val1)
      (fun v => by rw [EbView.step]; split <;> rfl)
      (fun v hv => by rw [EbView.step]; split <;> exact hv)
    rwa [EbOp.run, toNat_inst hinst] at hop
  · rwa [vtpStreamingEvioWriteControl, call_onInst_refused (by omega)]

theorem StreamsOff.of_eq {r' : Regs} (h : StreamsOff r)
    (heq : r'.streamingEb = r.streamingEb) : StreamsOff r' :=
  ⟨heq ▸ h.running, heq ▸ h.async, heq ▸ h.quiet⟩

theorem StreamsOff.connectAll (ready : lib.ready vtpFwTypeFadcstream 0)
    (hmode : 0 ≤ params.netMode.toInt) (h : StreamsOff r) (n : Nat) :
    StreamsOff (connectAll env lib params n r).regs := by
  induction n with
  | zero => exact h
  | succ n ih =>
    rw [VtpStreaming.connectAll, List.range_succ, List.foldl_append]
    exact (ih.of_eq (setNetCfg_eb lib ..)).connect ready n (by omega)

theorem StreamsOff.controlEvents (ready : lib.ready vtpFwTypeFadcstream 0) (h : StreamsOff r)
    (event : Nat → ControlArgs) (n : Nat) : StreamsOff (controlEvents lib event n r) := by
  induction n with
  | zero => exact h
  | succ n ih =>
    rw [VtpStreaming.controlEvents, List.range_succ, List.foldl_append]
    exact ih.control ready n _ _ _

/-- The streams are off, whichever headers are chosen. -/
theorem configureEb_streamsOff (runs : lib.Runs vtpFwTypeFadcstream) (ppmask : Word)
    (ppInfo : PpInfo) : StreamsOff (configureEb env lib params ppmask ppInfo r) := by
  have ready : lib.ready vtpFwTypeFadcstream 0 = true := runs.ready
  let start := call (lib.vtpStreamingSetEbCfg ppmask params.numConnections 0xffff#32 env.rocid
    (some ppInfo)) r
  have hset : lib.vtpStreamingSetEbCfg ppmask params.numConnections 0xffff#32 env.rocid
      (some ppInfo) r = some start := by
    simp only [start, call, vtpStreamingSetEbCfg, runs.onTypes (List.mem_singleton_self _),
      Option.getD_some]
  have hstart : EbShows start.streamingEb EbView.start start.streamingEb := (setEbCfg_shows hset).2
  have hheaders : ∃ v, EbShows start.streamingEb v (selectHeaders params start).streamingEb ∧
      v.inputs.getLsbD 7 = false := by
    rw [selectHeaders]
    split
    · exact ⟨_, hstart, by decide⟩
    · have hdisable := EbOp.step_shows ready (.ebDisable strebCmsgHdrEn) hstart
      split
      · exact ⟨_, hdisable, by decide⟩
      · exact ⟨_, EbOp.step_shows ready (.ebEnable strebEjfatEn) hdisable, by decide⟩
  obtain ⟨v, hv, hquiet⟩ := hheaders
  have haccepted : (EbOp.ebEnable strebAsyncFifoEn).Accepted := by decide
  have hasync := EbOp.run_shows ready haccepted hv
  have hon : strebAsyncFifoEn.getLsbD 6 = true ∧ strebAsyncFifoEn.getLsbD 7 = false := by decide
  refine StreamsOff.of_eq (r := call ((EbOp.ebEnable strebAsyncFifoEn).run lib)
    (selectHeaders params start)) ⟨hasync.stopped, ?_, ?_⟩ ?_
  · rw [hasync.inputs 6 (by decide), EbView.apply, BitVec.getLsbD_or, hon.1, Bool.or_true]
  · rw [hasync.inputs 7 (by decide), EbView.apply, BitVec.getLsbD_or, hquiet, hon.2, Bool.or_false]
  · rw [configureEb, ebioReset_eb, migReset_eb]
    rfl

/-- The last event leaves its port. -/
theorem controlEvents_port (runs : lib.Runs vtpFwTypeFadcstream) (event : Nat → ControlArgs)
    {n : Nat} (h : 1 ≤ n) (r : Regs) :
    ∃ w, (controlEvents lib event n r).streamingEb.ctrl3 = asyncPort (lastPort n) w := by
  induction n, h using Nat.le_induction with
  | base =>
    refine ⟨r.streamingEb.ctrl3, ?_⟩
    show (call (lib.vtpStreamingEvioWriteControl 0 _ _ _) r).streamingEb.ctrl3 = _
    rw [vtpStreamingEvioWriteControl, runs.call_onInst (by decide)]
    rfl
  | succ n hn ih =>
    obtain ⟨w, hw⟩ := ih
    rw [controlEvents, List.range_succ, List.foldl_append]
    show ∃ w, (call (lib.vtpStreamingEvioWriteControl n _ _ _)
      (controlEvents lib event n r)).streamingEb.ctrl3 = _
    rcases lt_or_ge n 4 with hlt | hge
    · have hport : lastPort (n + 1) = ⟨n, hlt⟩ := by
        apply Fin.ext
        show min (n + 1) 4 - 1 = n
        omega
      refine ⟨(controlEvents lib event n r).streamingEb.ctrl3, ?_⟩
      rw [vtpStreamingEvioWriteControl, runs.call_onInst hlt, hport]
    · have hport : lastPort (n + 1) = lastPort n := by
        apply Fin.ext
        show min (n + 1) 4 - 1 = min n 4 - 1
        omega
      refine ⟨w, ?_⟩
      rw [vtpStreamingEvioWriteControl, call_onInst_refused (by omega), hport, hw]

end

/-- The checks let at least one connection through. -/
theorem rocPrestart_connections {env : RocEnv} {s : RocState} {out : Prestarted}
    (h : rocPrestart env s = .done out) : 1 ≤ out.params.numConnections.toInt.toNat := by
  cases hinit : env.vtpInit s.regs with
  | none =>
    rw [rocPrestart, hinit] at h
    cases h
  | some board =>
    obtain ⟨lib, r⟩ := board
    cases hpath : vtpGetGeneratedConfigPath env.codaConfig env.config.hostname 512 with
    | none =>
      rw [rocPrestart, hinit, hpath] at h
      cases h
    | some path =>
      obtain ⟨code, conf, -, hvalid, hout⟩ := rocPrestart_board h hinit hpath
      have hnonneg := vtpReadAllFromCfg_numConnections env.config.files (some path)
      have hparams : out.params.numConnections =
          (vtpReadAllFromCfg env.config.files (some path) noParams).numConnections := by
        rw [hout]
        rfl
      have hne :
          (vtpReadAllFromCfg env.config.files (some path) noParams).numConnections ≠ 0#32 := by
        simp only [NetParams.valid, Bool.and_eq_true, decide_eq_true_eq] at hvalid
        exact hvalid.1.1
      have hzero := mt BitVec.toInt_inj.mp hne
      rw [BitVec.toInt_zero] at hzero
      rw [hparams]
      omega

theorem rocPrestart_armed {env : RocEnv} {s : RocState} {out : Prestarted}
    (h : rocPrestart env s = .done out) (runs : out.lib.Runs vtpFwTypeFadcstream) :
    Armed (lastPort out.params.numConnections.toInt.toNat) out.state.regs := by
  have hn := rocPrestart_connections h
  obtain ⟨lib, p, s', hvalid, -, rfl⟩ := rocPrestart_done h
  have ready : lib.ready vtpFwTypeFadcstream 0 = true := runs.ready
  have hmode : 0 ≤ (completeParams env p).netMode.toInt := mode_of_valid (p := p) hvalid
  let scan := configurePayloads s'.conf.streaming.payloadEnArray s'.ppInfo
  let conn := connectAll env lib (completeParams env p) p.numConnections.toInt.toNat
    (configureEb env lib (completeParams env p) scan.ppmask scan.ppInfo s'.regs)
  let event : Nat → ControlArgs := fun _ => ⟨env.evPrestart, env.runNumber, env.runType⟩
  have hregs : (prestartBoard env lib p s').state.regs =
      controlEvents lib event p.numConnections.toInt.toNat conn.regs := rfl
  have hconn : StreamsOff conn.regs :=
    (configureEb_streamsOff runs scan.ppmask scan.ppInfo).connectAll ready hmode _
  have hquiet := hconn.controlEvents ready event p.numConnections.toInt.toNat
  rw [← hregs] at hquiet
  obtain ⟨w, hport⟩ := controlEvents_port runs event hn conn.regs
  refine ⟨hquiet.running, hquiet.async, hquiet.quiet, ?_⟩
  have hctrl3 : (prestartBoard env lib p s').state.regs.streamingEb.ctrl3 =
      asyncPort (lastPort p.numConnections.toInt.toNat) w := hport
  rw [hctrl3]
  exact asyncPort_asyncPort _ _ _

/-! ## One call of run control -/

/-- A sender that has been stopped is off. -/
theorem vtpStatsSenderStop_off {s s' : StatsState} (holds : SenderHolds s)
    (h : vtpStatsSenderStop s = some (ok, s')) : s'.run = false := by
  cases holds with
  | off run _ _ _ =>
    rw [vtpStatsSenderStop, if_pos (by rw [run]; rfl)] at h
    cases h
    exact run
  | running fd run _ _ _ =>
    rw [vtpStatsSenderStop, if_neg (by rw [run]; decide)] at h
    split at h
    · cases h
    · dsimp only at h
      split at h
      · cases h
      · cases h
        rfl

/-- The number that is read again is never below 1. -/
theorem readConnections_pos (codaConfig : List Char) (config : ConfigEnv) :
    1 ≤ (readConnections codaConfig config).toInt.toNat := by
  have hnonneg : 0 ≤ (connectionsInFile codaConfig config).toInt := by
    rw [connectionsInFile]
    split
    · decide
    · next path _ =>
      split
      · decide
      · exact vtpReadAllFromCfg_numConnections config.files (some path)
  rw [readConnections]
  split
  · decide
  · next hne =>
    have hzero := mt BitVec.toInt_inj.mp hne
    rw [BitVec.toInt_zero] at hzero
    omega

section

variable {lib : VtpLib} {before : RocState} {t : Strobes} {v : RunView} {s : RunState} {p : Fin 4}

theorem pause_follows (h : Follows before t v s) :
    ∃ s', rocPause s = some s' ∧ Follows before t (v.step lib .pause) s' := by
  obtain ⟨stats, hstop, holds⟩ := stop_holds h.sender
  have hoff : stats.run = false := vtpStatsSenderStop_off h.sender hstop
  refine ⟨{ s with stats := stats }, by rw [rocPause, hstop], h.roc, h.strobes, holds, ?_⟩
  intro hrun
  rw [hoff] at hrun
  cases hrun

theorem go_follows (runs : lib.Runs vtpFwTypeFadcstream) (armed : Armed p before.regs)
    (h : Follows before t v s) (env : GoEnv) :
    ∃ s', rocGo lib env s = some s' ∧ Follows before t (v.step lib (.go env)) s' := by
  obtain ⟨code, stats, hlaunch, holds⟩ := launch_holds h.sender
    (some (senderHost env s.roc.conf)) (senderPort env s.roc.conf)
    s.roc.conf.streaming.statsInst.toInt env.answers
  refine ⟨_, by rw [rocGo, hlaunch], ?_, ?_, holds, fun _ => rfl⟩
  · have hregs : s.roc.regs = v.regs before.regs := by rw [h.roc]
    dsimp only
    rw [hregs, RunView.announce_regs runs _ (readConnections_pos _ _), RunView.go_regs armed,
      h.roc]
    rfl
  · rw [h.strobes, go_strobes runs]
    rfl

theorem end_follows (runs : lib.Runs vtpFwTypeFadcstream) (armed : Armed p before.regs)
    (h : Follows before t v s) (env : EndEnv) :
    ∃ s', rocEnd lib env s = some s' ∧ Follows before t (v.step lib (.finish env)) s' := by
  obtain ⟨stats, hstop, holds⟩ := stop_holds h.sender
  have hoff : stats.run = false := vtpStatsSenderStop_off h.sender hstop
  refine ⟨_, by rw [rocEnd, hstop], ?_, ?_, holds, ?_⟩
  · have hregs : s.roc.regs = v.regs before.regs := by rw [h.roc]
    have hn := readConnections_pos env.codaConfig env.config
    dsimp only
    rw [hregs, RunView.async_regs armed, RunView.announce_regs runs _ hn,
      RunView.close_regs runs hn, h.roc]
    rfl
  · rw [h.strobes, end_strobes runs]
    rfl
  · intro hrun
    rw [hoff] at hrun
    cases hrun

/-- The step lemma. -/
theorem RunCall.follows (runs : lib.Runs vtpFwTypeFadcstream) (armed : Armed p before.regs)
    (c : RunCall) (h : Follows before t v s) :
    ∃ s', c.run lib s = some s' ∧ Follows before t (v.step lib c) s' := by
  cases c with
  | go env => exact go_follows runs armed h env
  | pause => exact pause_follows h
  | finish env => exact end_follows runs armed h env

/-- The run lemma. -/
theorem runCalls_follows (runs : lib.Runs vtpFwTypeFadcstream) (armed : Armed p before.regs)
    (calls : List RunCall) (h : Follows before t v s) :
    ∃ s', runCalls lib calls s = some s' ∧
      Follows before t (calls.foldl (RunView.step lib) v) s' := by
  induction calls generalizing v s with
  | nil => exact ⟨s, rfl, h⟩
  | cons c calls ih =>
    obtain ⟨s₁, hstep, h₁⟩ := c.follows runs armed h
    obtain ⟨s₂, hrest, h₂⟩ := ih h₁
    refine ⟨s₂, ?_, h₂⟩
    rw [runCalls, List.foldlM_cons, hstep]
    exact hrest

/-- A prestart stands at the start of the view. -/
theorem Armed.follows {n : Nat} (armed : Armed (lastPort n) before.regs) {stats : StatsState}
    (holds : SenderHolds stats) (t : Strobes) :
    Follows before t (RunView.start n stats.run) ⟨before, stats, t⟩ := by
  have hstrobes : t = (RunView.start n stats.run).strobes t := by
    simp only [RunView.strobes, RunView.start, Nat.add_zero, List.replicate_zero, List.flatten_nil,
      List.append_nil, if_true, update_eq_self]
  refine ⟨?_, hstrobes, holds, id⟩
  have hregs : (RunView.start n stats.run).regs before.regs = before.regs := by
    simp only [RunView.regs, RunView.start, if_true, Bool.false_eq_true, if_false, BitVec.or_zero,
      armed.port, List.map_nil, List.flatten_nil, List.append_nil]
  rw [hregs]

end

/-! ## The results -/

/-- A go whose environment names the host, on a socket and a thread that are there. -/
def sampleGo : GoEnv where
  codaConfig := "/c".toList
  config := sampleConfig
  statsHost := some "129.57.29.231".toList
  statsPort := some "19531".toList
  answers := { resolve := fun _ _ => some [], socket := some 5, create := some 7 }
  evGo := 0xffd2#32

def sampleEnd : EndEnv where
  codaConfig := "/c".toList
  config := sampleConfig
  rx := fun _ _ => 0#32
  runNumber := 1#32
  evEnd := endEvent

end VtpStreaming
