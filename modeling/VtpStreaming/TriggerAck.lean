import VtpStreaming.Clib.BitField
import VtpStreaming.Clib.Run
import VtpStreaming.RocFifo

/-!
# Acknowledging synchronous triggers

`vtp/vtpRocLib.c`, `vtpRocPoll` and `vtpRocWriteBank`, `rol/vtp_list_roc.c`, `rocTrigger`, and
`rol/VTP_source.h`, `vtpttest`. A pass of `rocTrigger` polls the number of triggers that
wait, and writes as many empty banks. Triggers arrive at any moment.

The poll masks the number as the asynchronous events do, without bit 8.
-/

namespace VtpStreaming

open Clib

/-! ## The code -/

/-- `CpuSyncEventLenStatus`: the number of triggers that wait. -/
def syncBacklog : BitField 32 := ⟨16, 10, by decide⟩

def vtpRocPoll (lib : VtpLib) (status : Word) : Int :=
  if lib.checkInit then ((status &&& 0x2ff0000#32) >>> 16).toInt else error

inductive SyncPort
  | vlock
  | vunlock
  | cpuSyncEventLen
  | cpuSyncEventData
deriving DecidableEq

/-- The writes of a call, without a bank or with one. The length is an `int`. -/
def vtpRocWriteBank (bank : Option (Nat → Word)) : List (SyncPort × Word) :=
  match bank with
  | none => [(.vlock, 0), (.cpuSyncEventLen, 0), (.vunlock, 0)]
  | some bank =>
      let blen := bank 0 + 1#32
      (.vlock, 0) :: (List.range blen.toInt.toNat).map (fun ii => (.cpuSyncEventData, bank ii)) ++
        [(.cpuSyncEventLen, blen), (.vunlock, 0)]

/-- The test before each pass of `rocTrigger`. -/
def vtpttest (lib : VtpLib) (vtpFlag : Bool) (status : Word) : Bool :=
  vtpFlag && decide (0 < vtpRocPoll lib status)

/-! ## The system -/

/-- The triggers that wait, that have come, and that have been acknowledged. -/
structure TriggerQueue where
  outstanding : Nat
  arrived : Nat
  acked : Nat
deriving DecidableEq

/-- A length acknowledges a trigger. -/
def TriggerQueue.write (q : TriggerQueue) (x : SyncPort × Word) : TriggerQueue :=
  if x.1 = .cpuSyncEventLen then { q with outstanding := q.outstanding - 1, acked := q.acked + 1 }
  else q

/-- A pass: the triggers that waited at its poll, and its empty lengths. -/
structure TriggerPass where
  found : Nat
  written : Nat
deriving DecidableEq

/-- Where the readout list stands. `left` is what remains of the loop. -/
inductive TriggerPhase
  | idle
  | called
  | acking (pass : TriggerPass) (left : Nat)
deriving DecidableEq

/-- The queue, the phase, and the passes that have come to their end. -/
structure TriggerState where
  queue : TriggerQueue
  phase : TriggerPhase
  passes : List TriggerPass
deriving DecidableEq

inductive TriggerMove
  | arrive
  | test (vtpFlag : Bool) (status : Word)
  | poll (status : Word)
  | ack
  | done

/-- The register shows the triggers that wait. Its other bits are any. -/
def ShowsBacklog (q : TriggerQueue) (status : Word) : Prop :=
  (syncBacklog.get status).toNat = q.outstanding

/-- The queue holds up to 512 triggers. -/
inductive TriggerStep (lib : VtpLib) : TriggerState → TriggerMove → TriggerState → Prop
  | arrive {s : TriggerState} : s.queue.outstanding < 512 →
      TriggerStep lib s .arrive
        { s with
          queue :=
            { s.queue with
              outstanding := s.queue.outstanding + 1, arrived := s.queue.arrived + 1 } }
  | test {s : TriggerState} {vtpFlag : Bool} {status : Word} :
      s.phase = .idle → ShowsBacklog s.queue status →
      TriggerStep lib s (.test vtpFlag status)
        { s with phase := if vtpttest lib vtpFlag status then .called else .idle }
  | poll {s : TriggerState} {status : Word} :
      s.phase = .called → ShowsBacklog s.queue status →
      TriggerStep lib s (.poll status)
        { s with phase := .acking ⟨s.queue.outstanding, 0⟩ (vtpRocPoll lib status).toNat }
  | ack {s : TriggerState} {pass : TriggerPass} {left : Nat} :
      s.phase = .acking pass (left + 1) →
      TriggerStep lib s .ack
        { s with
          queue := (vtpRocWriteBank none).foldl TriggerQueue.write s.queue
          phase := .acking
            { pass with
              written := pass.written + (vtpRocWriteBank none).count (.cpuSyncEventLen, 0) } left }
  | done {s : TriggerState} {pass : TriggerPass} :
      s.phase = .acking pass 0 →
      TriggerStep lib s .done { s with phase := .idle, passes := s.passes ++ [pass] }

/-- No trigger has come yet. -/
def triggerStart : TriggerState := ⟨⟨0, 0, 0⟩, .idle, []⟩

/-- Each pass has acknowledged what waited at its poll, so that no trigger is acknowledged
before it comes, and no pass leaves out all that wait. -/
structure AcknowledgesOnce (s : TriggerState) : Prop where
  exact : ∀ pass ∈ s.passes, pass.written = pass.found
  arrived : s.queue.acked ≤ s.queue.arrived
  some : ∀ pass ∈ s.passes, 0 < pass.found → 0 < pass.written

/-! ## The poll -/

/-- The number of triggers as the poll returns it. -/
def polled (n : Nat) : Nat := if n = 512 then 512 else n % 256

theorem polled_le (n : Nat) : polled n ≤ n := by
  rw [polled]
  split
  · omega
  · exact Nat.mod_le n 256

theorem polled_eq_iff {n : Nat} (h : n ≤ 512) : polled n = n ↔ n < 256 ∨ n = 512 := by
  rw [polled]
  split
  · omega
  · omega

/-- The mask in terms of the field. -/
theorem poll_mask (status : Word) :
    (status &&& 0x2ff0000#32) >>> 16 = syncBacklog.get status &&& fifoLevelMask := by
  have hmask : (0x2ff0000#32 : Word) >>> 16 = fifoLevelMask := by decide
  have hlow : syncBacklog.low &&& fifoLevelMask = fifoLevelMask := by decide
  have hshift : syncBacklog.shift = 16 := rfl
  rw [BitVec.ushiftRight_and_distrib, hmask, BitField.get, BitVec.and_assoc, hlow, hshift]

theorem vtpRocPoll_toNat {lib : VtpLib} (hlib : lib.checkInit = true) {q : TriggerQueue}
    {status : Word}
    (hdepth : q.outstanding ≤ 512) (hshows : ShowsBacklog q status) :
    vtpRocPoll lib status = polled q.outstanding := by
  have hfield : syncBacklog.get status = BitVec.ofNat 32 q.outstanding := by
    apply BitVec.eq_of_toNat_eq
    rw [BitVec.toNat_ofNat, hshows]
    omega
  have hmasked : ((status &&& 0x2ff0000#32) >>> 16).toNat = polled q.outstanding := by
    rw [poll_mask, hfield, polled, ← masked_level hdepth]
    rcases Nat.lt_or_eq_of_le hdepth with hlt | hfull
    · rw [fifoStatus, if_neg (Nat.ne_of_lt hlt), BitVec.zero_or]
    · rw [hfull]
      rfl
  have hle := polled_le q.outstanding
  rw [vtpRocPoll, if_pos hlib, BitVec.toInt_eq_toNat_of_lt (by omega), hmasked]

/-- A backlog of 256 looks empty, and the test leaves it waiting. -/
theorem vtpttest_iff {lib : VtpLib} (hlib : lib.checkInit = true) {q : TriggerQueue} {status : Word}
    (hdepth : q.outstanding ≤ 512) (hshows : ShowsBacklog q status) :
    vtpttest lib true status = true ↔ q.outstanding ≠ 0 ∧ q.outstanding ≠ 256 := by
  rw [vtpttest, vtpRocPoll_toNat hlib hdepth hshows, Bool.true_and, decide_eq_true_eq, polled]
  split
  · omega
  · omega

theorem checkInit_of_vtpttest {lib : VtpLib} {vtpFlag : Bool} {status : Word}
    (h : vtpttest lib vtpFlag status = true) : lib.checkInit = true := by
  rw [vtpttest, Bool.and_eq_true, decide_eq_true_eq, vtpRocPoll] at h
  split at h
  · assumption
  · exact absurd h.2 (by decide)

/-! ## Runs -/

/-- What holds in each phase. A pass can acknowledge all that it has still to do. -/
def PhaseInv (lib : VtpLib) (q : TriggerQueue) : TriggerPhase → Prop
  | .idle => True
  | .called => lib.checkInit = true
  | .acking pass left =>
      pass.found ≤ 512 ∧ pass.written + left = polled pass.found ∧ left ≤ q.outstanding

structure TriggerInv (lib : VtpLib) (s : TriggerState) : Prop where
  balance : s.queue.outstanding + s.queue.acked = s.queue.arrived
  depth : s.queue.outstanding ≤ 512
  phase : PhaseInv lib s.queue s.phase
  passes : ∀ pass ∈ s.passes, pass.found ≤ 512 ∧ pass.written = polled pass.found

theorem triggerStep_inv {lib : VtpLib} {s t : TriggerState} {m : TriggerMove}
    (inv : TriggerInv lib s) (step : TriggerStep lib s m t) : TriggerInv lib t := by
  obtain ⟨hbalance, hdepth, hphase, hpasses⟩ := inv
  cases step with
  | arrive hroom =>
    refine ⟨?_, hroom, ?_, hpasses⟩
    · show s.queue.outstanding + 1 + s.queue.acked = s.queue.arrived + 1
      omega
    · cases hs : s.phase with
      | idle => trivial
      | called =>
        rw [hs] at hphase
        exact hphase
      | acking pass left =>
        rw [hs] at hphase
        obtain ⟨hfound, hwritten, hleft⟩ := hphase
        exact ⟨hfound, hwritten, Nat.le_succ_of_le hleft⟩
  | test hidle hshows =>
    refine ⟨hbalance, hdepth, ?_, hpasses⟩
    dsimp only
    split
    · rename_i htest
      exact checkInit_of_vtpttest htest
    · trivial
  | poll hcalled hshows =>
    rw [hcalled] at hphase
    have hpoll := vtpRocPoll_toNat hphase hdepth hshows
    refine ⟨hbalance, hdepth, ⟨hdepth, ?_, ?_⟩, hpasses⟩
    · rw [hpoll, Int.toNat_natCast, Nat.zero_add]
    · rw [hpoll, Int.toNat_natCast]
      exact polled_le s.queue.outstanding
  | @ack pass left hacking =>
    rw [hacking] at hphase
    obtain ⟨hfound, hwritten, hleft⟩ := hphase
    have hqueue : (vtpRocWriteBank none).foldl TriggerQueue.write s.queue =
        { s.queue with outstanding := s.queue.outstanding - 1, acked := s.queue.acked + 1 } := rfl
    have hcount : (vtpRocWriteBank none).count (.cpuSyncEventLen, 0) = 1 := rfl
    rw [hqueue, hcount]
    refine ⟨?_, ?_, ⟨hfound, ?_, ?_⟩, hpasses⟩
    · show s.queue.outstanding - 1 + (s.queue.acked + 1) = s.queue.arrived
      omega
    · exact (Nat.sub_le _ 1).trans hdepth
    · show pass.written + 1 + left = polled pass.found
      omega
    · show left ≤ s.queue.outstanding - 1
      omega
  | @done pass hacking =>
    rw [hacking] at hphase
    obtain ⟨hfound, hwritten, -⟩ := hphase
    refine ⟨hbalance, hdepth, trivial, ?_⟩
    intro pass' hmem
    rcases List.mem_append.1 hmem with hold | hnew
    · exact hpasses pass' hold
    · rw [List.mem_singleton.1 hnew]
      exact ⟨hfound, hwritten⟩

theorem triggerStart_inv (lib : VtpLib) : TriggerInv lib triggerStart :=
  ⟨rfl, by decide, trivial, fun pass hmem => absurd hmem List.not_mem_nil⟩

/-- In every run the triggers are acknowledged as asked if no poll of a pass has found from
256 to 511 of them, and only then. -/
theorem triggers_acknowledged_iff (lib : VtpLib) (ms : List TriggerMove) (s : TriggerState)
    (run : Run (TriggerStep lib) triggerStart ms s) :
    AcknowledgesOnce s ↔ ∀ pass ∈ s.passes, pass.found < 256 ∨ pass.found = 512 := by
  have inv : TriggerInv lib s :=
    run.invariant (fun _ _ _ inv step => triggerStep_inv inv step) (triggerStart_inv lib)
  have hbalance := inv.balance
  constructor
  · intro honce pass hmem
    obtain ⟨hfound, hwritten⟩ := inv.passes pass hmem
    exact (polled_eq_iff hfound).1 (hwritten.symm.trans (honce.exact pass hmem))
  · intro hlevels
    have hexact : ∀ pass ∈ s.passes, pass.written = pass.found := by
      intro pass hmem
      obtain ⟨hfound, hwritten⟩ := inv.passes pass hmem
      exact hwritten.trans ((polled_eq_iff hfound).2 (hlevels pass hmem))
    refine ⟨hexact, by omega, fun pass hmem hpos => ?_⟩
    rwa [hexact pass hmem]

/-- The register with `n` triggers waiting. -/
def syncStatus (n : Nat) : Word := BitVec.ofNat 32 n <<< 16

/-- One trigger, and the pass that acknowledges it. -/
theorem triggers_acknowledged_one :
    Run (TriggerStep rocLib) triggerStart
        [.arrive, .test true (syncStatus 1), .poll (syncStatus 1), .ack, .done]
        ⟨⟨0, 1, 1⟩, .idle, [⟨1, 1⟩]⟩ ∧
      AcknowledgesOnce ⟨⟨0, 1, 1⟩, .idle, [⟨1, 1⟩]⟩ := by
  have run : Run (TriggerStep rocLib) triggerStart
      [.arrive, .test true (syncStatus 1), .poll (syncStatus 1), .ack, .done]
      ⟨⟨0, 1, 1⟩, .idle, [⟨1, 1⟩]⟩ := by
    refine .cons (.arrive (by decide)) (.cons (.test rfl rfl) (.cons (.poll rfl rfl) ?_))
    exact .cons (.ack rfl) (.cons (.done rfl) (.nil _))
  exact ⟨run, (triggers_acknowledged_iff rocLib _ _ run).2 (by decide)⟩

theorem run_arrivals (lib : VtpLib) (passes : List TriggerPass) {n k : Nat} (h : n + k ≤ 512) :
    Run (TriggerStep lib) ⟨⟨n, n, 0⟩, .idle, passes⟩ (List.replicate k .arrive)
      ⟨⟨n + k, n + k, 0⟩, .idle, passes⟩ := by
  induction k generalizing n with
  | zero => exact .nil _
  | succ k ih =>
    have hnext := @ih (n + 1) (by omega)
    rw [show n + (k + 1) = n + 1 + k by omega]
    exact .cons (.arrive (by show n < 512; omega)) hnext

/-- 255 triggers wait at the test and one more comes before the poll. The pass acknowledges
none of the 256. -/
theorem triggers_unacknowledged :
    ∃ ms, Run (TriggerStep rocLib) triggerStart ms ⟨⟨256, 256, 0⟩, .idle, [⟨256, 0⟩]⟩ ∧
      ¬ AcknowledgesOnce ⟨⟨256, 256, 0⟩, .idle, [⟨256, 0⟩]⟩ := by
  have harrivals : Run (TriggerStep rocLib) triggerStart (List.replicate 255 .arrive)
      ⟨⟨255, 255, 0⟩, .idle, []⟩ := run_arrivals rocLib [] (by decide)
  have hpass : Run (TriggerStep rocLib) ⟨⟨255, 255, 0⟩, .idle, []⟩
      [.test true (syncStatus 255), .arrive, .poll (syncStatus 256), .done]
      ⟨⟨256, 256, 0⟩, .idle, [⟨256, 0⟩]⟩ := by
    refine .cons (.test rfl rfl) (.cons (.arrive (by decide)) ?_)
    exact .cons (.poll rfl rfl) (.cons (.done rfl) (.nil _))
  refine ⟨_, harrivals.append hpass, fun honce => ?_⟩
  exact absurd (honce.exact _ (List.mem_singleton_self _)) (by decide)

end VtpStreaming
