import VtpStreaming.VtpLib

/-!
# The life of the stats sender

`rol/vtp_stream3_1udp_vg.c`, `vtp_stats_sender_launch` and `vtp_stats_sender_stop`.
`rocGo` launches the thread, `rocPause` and `rocEnd` stop it. Each of the three calls
that a launch makes of the operating system can fail.
-/

namespace VtpStreaming

open Clib

abbrev SockAddr := List Byte

/-- What the operating system holds for the sender: the descriptors that are open and
the threads that are not joined yet. -/
structure OsState where
  sockets : List Nat
  threads : List Nat

/-- `close`. It is misused on a descriptor that is not open. -/
def OsState.close (os : OsState) (fd : Int) : Option OsState :=
  if 0 ≤ fd ∧ fd.toNat ∈ os.sockets then some { os with sockets := os.sockets.erase fd.toNat }
  else none

/-- `pthread_join`. It is misused on a thread that has been joined. -/
def OsState.join (os : OsState) (thr : Nat) : Option OsState :=
  if thr ∈ os.threads then some { os with threads := os.threads.erase thr } else none

/-- The globals `g_vtp_stats_...`, the address with its length, and the operating
system. -/
structure StatsState where
  thr : Nat
  run : Bool
  sock : Int
  dst : SockAddr
  inst : Int
  os : OsState

/-- Before the first call. -/
def StatsState.start : StatsState where
  thr := 0
  run := false
  sock := -1
  dst := []
  inst := 0
  os := ⟨[], []⟩

/-- How the operating system answers one launch: the address of a host and port, the
new descriptor, the new thread. -/
structure LaunchAnswers where
  resolve : List Char → BitVec 16 → Option SockAddr
  socket : Option Nat
  create : Option Nat

/-- `host` is none for NULL. -/
def vtpStatsSenderLaunch (host : Option (List Char)) (port : BitVec 16) (streamInst : Int)
    (answers : LaunchAnswers) (s : StatsState) : Option (Int × StatsState) :=
  match host with
  | none => some (error, s)
  | some host =>
      if host = [] ∨ port = 0#16 ∨ streamInst < 0 then some (error, s)
      else if s.run then some (ok, s)
      else
        match answers.resolve host port with
        | none => some (error, s)
        | some dst =>
            let s := { s with dst := dst }
            match answers.socket with
            | none => some (error, s)
            | some fd =>
                let s :=
                  { s with
                    sock := fd
                    inst := streamInst
                    run := true
                    os := { s.os with sockets := fd :: s.os.sockets } }
                match answers.create with
                | none =>
                    match s.os.close s.sock with
                    | none => none
                    | some os => some (error, { s with run := false, sock := -1, os := os })
                | some thr =>
                    some (ok, { s with thr := thr, os := { s.os with threads := thr :: s.os.threads } })

/-- The thread sees `run` at 0 within a second and returns, so that the join does. -/
def vtpStatsSenderStop (s : StatsState) : Option (Int × StatsState) :=
  if !s.run then some (ok, s)
  else
    match s.os.join s.thr with
    | none => none
    | some os =>
        let s : StatsState := { s with run := false, os := os }
        let closed := if s.sock < 0 then some (s.sock, s.os) else (s.os.close s.sock).map ((-1), ·)
        match closed with
        | none => none
        | some (sock, os) => some (ok, { s with sock := sock, dst := [], inst := 0, os := os })

/-! ## Runs -/

/-- The calls of the readout list, as far as the sender goes. -/
inductive StatsCall
  | rocGo (host : Option (List Char)) (port : BitVec 16) (streamInst : Int)
      (answers : LaunchAnswers)
  | rocPause
  | rocEnd

def StatsCall.run : StatsCall → StatsState → Option (Int × StatsState)
  | .rocGo host port streamInst answers => vtpStatsSenderLaunch host port streamInst answers
  | .rocPause => vtpStatsSenderStop
  | .rocEnd => vtpStatsSenderStop

/-- The state after the calls, unless one of them misuses a descriptor or a thread. -/
def runStatsCalls (calls : List StatsCall) (s : StatsState) : Option StatsState :=
  calls.foldlM (fun s c => (c.run s).map Prod.snd) s

/-! ## The two states -/

/-- The sender is off and holds nothing, or it runs with one descriptor and one thread. -/
inductive SenderHolds (s : StatsState) : Prop
  | off (run : s.run = false) (sock : s.sock = -1) (sockets : s.os.sockets = [])
      (threads : s.os.threads = [])
  | running (fd : Nat) (run : s.run = true) (sock : s.sock = fd) (sockets : s.os.sockets = [fd])
      (threads : s.os.threads = [s.thr])

/-- A launch that is refused or finds the sender running leaves the state as it was. -/
theorem launch_running {s : StatsState} (hrun : s.run = true) (host : Option (List Char))
    (port : BitVec 16) (streamInst : Int) (answers : LaunchAnswers) :
    ∃ code, vtpStatsSenderLaunch host port streamInst answers s = some (code, s) := by
  simp only [vtpStatsSenderLaunch, hrun, if_true]
  split
  · exact ⟨_, rfl⟩
  · split
    · exact ⟨_, rfl⟩
    · exact ⟨_, rfl⟩

/-- A descriptor that has just been opened can be closed. -/
theorem OsState.close_new (os : OsState) (fd : Nat) :
    OsState.close { os with sockets := fd :: os.sockets } fd = some os := by
  have hopen : (0 : Int) ≤ fd ∧ (fd : Int).toNat ∈ fd :: os.sockets := by simp
  rw [OsState.close, if_pos hopen]
  simp

/-- A launch from the off state. -/
theorem launch_holds {s : StatsState} (h : SenderHolds s) (host : Option (List Char))
    (port : BitVec 16) (streamInst : Int) (answers : LaunchAnswers) :
    ∃ code s', vtpStatsSenderLaunch host port streamInst answers s = some (code, s') ∧
      SenderHolds s' := by
  cases h with
  | running fd run sock sockets threads =>
    obtain ⟨code, hlaunch⟩ := launch_running run host port streamInst answers
    exact ⟨code, s, hlaunch, .running fd run sock sockets threads⟩
  | off run sock sockets threads =>
    unfold vtpStatsSenderLaunch
    cases host with
    | none => exact ⟨_, _, rfl, .off run sock sockets threads⟩
    | some host =>
      dsimp only
      split
      · exact ⟨_, _, rfl, .off run sock sockets threads⟩
      · rw [if_neg (by simp [run])]
        cases answers.resolve host port with
        | none => exact ⟨_, _, rfl, .off run sock sockets threads⟩
        | some dst =>
          cases answers.socket with
          | none => exact ⟨_, _, rfl, .off run sock sockets threads⟩
          | some fd =>
            cases answers.create with
            | none =>
              dsimp only
              rw [OsState.close_new]
              exact ⟨_, _, rfl, .off rfl rfl sockets threads⟩
            | some thr =>
              refine ⟨_, _, rfl, .running fd rfl rfl ?_ ?_⟩
              · rw [sockets]
              · rw [threads]

theorem stop_holds {s : StatsState} (h : SenderHolds s) :
    ∃ s', vtpStatsSenderStop s = some (ok, s') ∧ SenderHolds s' := by
  cases h with
  | off run sock sockets threads =>
    rw [vtpStatsSenderStop, if_pos (by simp [run])]
    exact ⟨s, rfl, .off run sock sockets threads⟩
  | running fd run sock sockets threads =>
    have hjoin : s.os.join s.thr = some { s.os with threads := [] } := by
      rw [OsState.join, if_pos (by rw [threads]; exact List.mem_singleton_self _), threads,
        List.erase_cons_head]
    have hopen : ¬ s.sock < 0 := by
      rw [sock]
      exact Int.not_lt.mpr (Int.natCast_nonneg fd)
    have hclose : OsState.close { s.os with threads := [] } s.sock =
        some { sockets := [], threads := [] } := by
      rw [OsState.close, sockets, sock, if_pos (by simp)]
      simp
    refine ⟨{ s with run := false, sock := -1, dst := [], inst := 0, os := ⟨[], []⟩ }, ?_,
      .off rfl rfl rfl rfl⟩
    simp [vtpStatsSenderStop, run, hjoin, hopen, hclose]

/-- The step lemma. -/
theorem StatsCall.run_holds (c : StatsCall) {s : StatsState} (h : SenderHolds s) :
    ∃ s', (c.run s).map Prod.snd = some s' ∧ SenderHolds s' := by
  cases c with
  | rocGo host port streamInst answers =>
    obtain ⟨code, s', hrun, holds⟩ := launch_holds h host port streamInst answers
    exact ⟨s', by rw [StatsCall.run, hrun]; rfl, holds⟩
  | rocPause =>
    obtain ⟨s', hrun, holds⟩ := stop_holds h
    exact ⟨s', by rw [StatsCall.run, hrun]; rfl, holds⟩
  | rocEnd =>
    obtain ⟨s', hrun, holds⟩ := stop_holds h
    exact ⟨s', by rw [StatsCall.run, hrun]; rfl, holds⟩

/-- The run lemma. -/
theorem runStatsCalls_holds (calls : List StatsCall) {s : StatsState} (h : SenderHolds s) :
    ∃ s', runStatsCalls calls s = some s' ∧ SenderHolds s' := by
  induction calls generalizing s with
  | nil => exact ⟨s, rfl, h⟩
  | cons c calls ih =>
    obtain ⟨s₁, hstep, holds⟩ := c.run_holds h
    obtain ⟨s₂, hrest, holds'⟩ := ih holds
    refine ⟨s₂, ?_, holds'⟩
    rw [runStatsCalls, List.foldlM_cons, hstep]
    exact hrest

/-! ## The result -/

/-- After any calls, none of which has joined a joined thread or closed a closed
descriptor, the sender is marked as running exactly when one thread is not joined, and
exactly when its descriptor is open. No other descriptor is, and a launch while the
sender runs changes nothing. -/
theorem stats_sender_life (calls : List StatsCall) :
    ∃ s, runStatsCalls calls .start = some s ∧
      (s.run = true ↔ s.os.threads.length = 1) ∧
      (s.run = true ↔ 0 ≤ s.sock ∧ s.sock.toNat ∈ s.os.sockets) ∧
      s.os.threads.length ≤ 1 ∧
      s.os.sockets.length ≤ 1 ∧ (∀ fd ∈ s.os.sockets, s.sock = fd) ∧
      (s.run = true → ∀ host port streamInst answers,
        ∃ code, vtpStatsSenderLaunch host port streamInst answers s = some (code, s)) := by
  obtain ⟨s, hrun, holds⟩ := runStatsCalls_holds calls (.off rfl rfl rfl rfl : SenderHolds .start)
  refine ⟨s, hrun, ?_⟩
  cases holds with
  | off run sock sockets threads => simp [run, sock, sockets, threads]
  | running fd run sock sockets threads =>
    refine ⟨by simp [run, threads], by simp [run, sock, sockets], by simp [threads],
      by simp [sockets], by simp [sock, sockets], fun _ => launch_running run⟩

end VtpStreaming
