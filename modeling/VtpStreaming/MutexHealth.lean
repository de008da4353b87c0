import VtpStreaming.Clib.RobustMutex
import VtpStreaming.VtpLib

/-!
# The health check of the shared mutex

`vtp/vtpLib.c`, `vtpCheckMutexHealth` and the calls that it makes. The mutex is robust and
shared by all processes. Between two calls the threads of the other processes take it,
give it back or die, in any order.

What the functions print is left out, and so are the shared data that `vtpMutexInit`
clears.
-/

namespace VtpStreaming

open Clib RobustMutex

structure Thread where
  process : Nat
  thread : Nat
deriving DecidableEq

abbrev Mutex := RobustMutex Thread

/-- What a thread of another process than that of `caller` does. -/
abbrev OtherOp (caller : Thread) := { op : Op Thread // op.thread.process ≠ caller.process }

/-- The calls on the mutex. `init` is `vtpMutexInit`. -/
inductive MutexCall
  | tryLock
  | unlock
  | timedLock
  | init
deriving DecidableEq

/-- A call that has been made, with the mutex as it found it. -/
structure CallMade where
  call : MutexCall
  found : Mutex
  code : Int
deriving DecidableEq

/-- The mutex in the course of the check, and the calls so far. -/
structure HealthState where
  mutex : Mutex
  calls : List CallMade

section

variable (caller : Thread) (others : Nat → List (OtherOp caller))

/-- What the others leave of the mutex before call number `k`. -/
def afterOthers (k : Nat) (m : Mutex) : Mutex := m.applyAll ((others k).map (·.val))

/-- What a call returns and makes of the mutex. The `pthread` functions of `vtpMutexInit`
return no negative code, so it always comes to its end. -/
def MutexCall.perform (m : Mutex) : MutexCall → Int × Mutex
  | .tryLock => m.tryLock caller
  | .unlock => m.unlock caller
  | .timedLock => m.timedLock caller
  | .init => (ok, .free)

/-- One call, after the others have had their turn. -/
def HealthState.make (s : HealthState) (call : MutexCall) : Int × HealthState :=
  let found := afterOthers caller others s.calls.length s.mutex
  let (code, m) := call.perform caller found
  (code, { mutex := m, calls := s.calls ++ [⟨call, found, code⟩] })

/-- The lock of an owner that has died is made consistent, and counts as taken. -/
def recovered (rval : Int) : Int := if rval = eOwnerDead then ok else rval

def vtpTryLock (s : HealthState) : Int × HealthState :=
  let (rval, s) := s.make caller others .tryLock
  (recovered rval, s)

/-- How long the call waits is in what the others do before it returns. -/
def vtpTimedLock (_timeSeconds : Int) (s : HealthState) : Int × HealthState :=
  let (rval, s) := s.make caller others .timedLock
  (recovered rval, s)

def vtpUnlock (s : HealthState) : Int × HealthState := s.make caller others .unlock

def vtpMutexInit (s : HealthState) : Int × HealthState := s.make caller others .init

/-- Another thread has the lock: wait for it. -/
def checkOwned (timeSeconds rval : Int) (s : HealthState) : Int × HealthState :=
  let (busyRval, s) := vtpTimedLock caller others timeSeconds s
  if busyRval = error then (rval, s)
  else if busyRval = ok then vtpUnlock caller others s
  else if busyRval = eAgain ∨ busyRval = eInval then vtpMutexInit caller others s
  else if busyRval = eTimedOut then vtpMutexInit caller others s
  else (busyRval, s)

/-- The mutex is locked: see whether it can be unlocked. -/
def checkBusy (timeSeconds rval : Int) (s : HealthState) : Int × HealthState :=
  let (busyRval, s) := vtpUnlock caller others s
  if busyRval = ok then (busyRval, s)
  else if busyRval = eAgain ∨ busyRval = eInval then vtpMutexInit caller others s
  else if busyRval = ePerm then checkOwned caller others timeSeconds rval s
  else (busyRval, s)

/-- `attached` says that `p_sync` is not null. -/
def vtpCheckMutexHealth (attached : Bool) (timeSeconds : Int) (s : HealthState) :
    Int × HealthState :=
  if attached then
    let (rval, s) := vtpTryLock caller others s
    if rval = error then (rval, s)
    else if rval = ok then vtpUnlock caller others s
    else if rval = eAgain ∨ rval = eInval then vtpMutexInit caller others s
    else if rval = eBusy then checkBusy caller others timeSeconds rval s
    else (rval, s)
  else (error, s)

/-! ## What is asked of the check -/

/-- The call re-initialises the mutex, or releases it, while another live thread holds it. -/
def CallMade.Steals (c : CallMade) : Prop :=
  HeldByOther caller c.found ∧ (c.call = .init ∨ c.call = .unlock ∧ c.code = ok)

/-- No call takes the lock from a live thread, and after a check that returns `OK` no
thread of the process holds it. -/
structure ChecksSafely (attached : Bool) (timeSeconds : Int) (m : Mutex) : Prop where
  calls : ∀ c ∈ (vtpCheckMutexHealth caller others attached timeSeconds ⟨m, []⟩).2.calls,
    ¬ c.Steals caller
  leaves : (vtpCheckMutexHealth caller others attached timeSeconds ⟨m, []⟩).1 = ok →
    ∀ thread, (vtpCheckMutexHealth caller others attached timeSeconds ⟨m, []⟩).2.mutex ≠
      .held ⟨caller.process, thread⟩

/-- The mutex as each of the first calls finds it when it is held by another thread. -/
def foundAt (m : Mutex) : Nat → Mutex
  | 0 => afterOthers caller others 0 m
  | k + 1 => afterOthers caller others (k + 1) (foundAt m k)

/-- A live thread has the lock at the first try, one has it when the time is over, and one
still has it when the mutex is about to be initialised. -/
def Outlasts (m : Mutex) : Prop :=
  HeldByOther caller (foundAt caller others m 0) ∧ HeldByOther caller (foundAt caller others m 2) ∧
    HeldByOther caller (foundAt caller others m 3)

end

/-! ## The others -/

section

variable {caller : Thread} {others : Nat → List (OtherOp caller)} {m : Mutex}

theorem others_thread (k : Nat) {op : Op Thread} (hop : op ∈ (others k).map (·.val))
    (thread : Nat) : op.thread ≠ ⟨caller.process, thread⟩ := by
  obtain ⟨other, -, rfl⟩ := List.mem_map.mp hop
  intro heq
  have hprocess := congrArg Thread.process heq
  exact other.property hprocess

/-- The others do not release what a thread of the process holds. -/
theorem afterOthers_own (k : Nat) : afterOthers caller others k (.held caller) = .held caller :=
  applyAll_held fun _ hop => others_thread k hop caller.thread

/-- They do not lock for it either. -/
theorem afterOthers_not_own (k : Nat) (h : m ≠ .held caller) :
    afterOthers caller others k m ≠ .held caller :=
  applyAll_not_held (fun _ hop => others_thread k hop caller.thread) h

/-! ## The ways through the check

Which one is taken is decided by the mutex at the first try and at the time-out. -/

theorem make_eq {s : HealthState} {call : MutexCall} {code : Int} {m' : Mutex}
    (h : call.perform caller (afterOthers caller others s.calls.length s.mutex) = (code, m')) :
    s.make caller others call = (code, ⟨m', s.calls ++
      [⟨call, afterOthers caller others s.calls.length s.mutex, code⟩]⟩) := by
  simp only [HealthState.make, h]

/-- A lock that the process gets, it gives back. -/
theorem unlock_after (calls : List CallMade) :
    vtpUnlock caller others ⟨.held caller, calls⟩ =
      (ok, ⟨.free, calls ++ [⟨.unlock, .held caller, ok⟩]⟩) := by
  have hperform : MutexCall.perform caller (.held caller) .unlock = (ok, .free) := unlock_own caller
  simp only [vtpUnlock, HealthState.make, afterOthers_own, hperform]

/-- The lock is free at the first try, or its owner has died. -/
theorem check_taken (timeSeconds : Int)
    (h : foundAt caller others m 0 = .free ∨ foundAt caller others m 0 = .ownerDead) :
    ∃ code, vtpCheckMutexHealth caller others true timeSeconds ⟨m, []⟩ =
      (ok, ⟨.free, [⟨.tryLock, foundAt caller others m 0, code⟩,
        ⟨.unlock, .held caller, ok⟩]⟩) := by
  have htry : ∃ code, recovered code = ok ∧
      MutexCall.perform caller (foundAt caller others m 0) .tryLock = (code, .held caller) := by
    rcases h with h | h
    · rw [h]
      exact ⟨0, rfl, rfl⟩
    · rw [h]
      exact ⟨eOwnerDead, rfl, rfl⟩
  obtain ⟨code, hcode, hperform⟩ := htry
  have hmake := make_eq (s := ⟨m, []⟩) hperform
  refine ⟨code, ?_⟩
  rw [vtpCheckMutexHealth, if_pos rfl, vtpTryLock, hmake]
  show (if recovered code = error then _ else if recovered code = ok then _ else _) = _
  rw [hcode, if_neg (by decide), if_pos rfl, unlock_after]
  rfl

/-- The process has the lock itself. -/
theorem check_own (timeSeconds : Int) (h : foundAt caller others m 0 = .held caller) :
    vtpCheckMutexHealth caller others true timeSeconds ⟨m, []⟩ =
      (ok, ⟨.free, [⟨.tryLock, .held caller, eBusy⟩, ⟨.unlock, .held caller, ok⟩]⟩) := by
  have hfound : afterOthers caller others 0 m = .held caller := h
  have hperform : MutexCall.perform caller (afterOthers caller others 0 m) .tryLock =
      (eBusy, .held caller) := by
    rw [hfound]
    rfl
  have hmake := make_eq (s := ⟨m, []⟩) hperform
  rw [vtpCheckMutexHealth, if_pos rfl, vtpTryLock, hmake, List.length_nil, hfound]
  show checkBusy caller others timeSeconds eBusy _ = _
  rw [checkBusy, unlock_after]
  rfl

theorem foundAt_not_own (h : HeldByOther caller (foundAt caller others m 0)) (k : Nat) :
    foundAt caller others m k ≠ .held caller := by
  induction k with
  | zero =>
    intro heq
    rw [heq] at h
    exact h rfl
  | succ k ih => exact afterOthers_not_own (k + 1) ih

/-- The calls on a mutex that another thread has at the first try, before the timed lock. -/
def callsBefore (caller : Thread) (others : Nat → List (OtherOp caller)) (m : Mutex) :
    List CallMade :=
  [⟨.tryLock, foundAt caller others m 0, eBusy⟩, ⟨.unlock, foundAt caller others m 1, ePerm⟩]

/-- Another thread has it at the first try: what follows is the timed lock. -/
theorem check_waits (timeSeconds : Int) (h : HeldByOther caller (foundAt caller others m 0)) :
    vtpCheckMutexHealth caller others true timeSeconds ⟨m, []⟩ =
      checkOwned caller others timeSeconds eBusy
        ⟨foundAt caller others m 1, callsBefore caller others m⟩ := by
  have htry : MutexCall.perform caller (foundAt caller others m 0) .tryLock =
      (eBusy, foundAt caller others m 0) := by
    obtain ⟨o, -, ho⟩ := h.held
    rw [ho]
    rfl
  have hunlock : MutexCall.perform caller (foundAt caller others m 1) .unlock =
      (ePerm, foundAt caller others m 1) := unlock_refused (foundAt_not_own h 1)
  have hfirst := make_eq (s := ⟨m, []⟩) htry
  have hsecond := make_eq
    (s := ⟨foundAt caller others m 0, [⟨.tryLock, foundAt caller others m 0, eBusy⟩]⟩) hunlock
  rw [vtpCheckMutexHealth, if_pos rfl, vtpTryLock, hfirst]
  show checkBusy caller others timeSeconds eBusy
    ⟨foundAt caller others m 0, [⟨.tryLock, foundAt caller others m 0, eBusy⟩]⟩ = _
  rw [checkBusy, vtpUnlock, hsecond]
  rfl

/-- The lock becomes free in time, or its owner dies. -/
theorem owned_taken (timeSeconds rval : Int) {s : HealthState}
    (h : afterOthers caller others s.calls.length s.mutex = .free ∨
      afterOthers caller others s.calls.length s.mutex = .ownerDead) :
    ∃ code, checkOwned caller others timeSeconds rval s =
      (ok, ⟨.free, s.calls ++
        [⟨.timedLock, afterOthers caller others s.calls.length s.mutex, code⟩] ++
        [⟨.unlock, .held caller, ok⟩]⟩) := by
  have hlock : ∃ code, recovered code = ok ∧ MutexCall.perform caller
      (afterOthers caller others s.calls.length s.mutex) .timedLock = (code, .held caller) := by
    rcases h with h | h
    · rw [h]
      exact ⟨0, rfl, rfl⟩
    · rw [h]
      exact ⟨eOwnerDead, rfl, rfl⟩
  obtain ⟨code, hcode, hperform⟩ := hlock
  refine ⟨code, ?_⟩
  rw [checkOwned, vtpTimedLock, make_eq hperform]
  show (if recovered code = error then _ else if recovered code = ok then _ else _) = _
  rw [hcode, if_neg (by decide), if_pos rfl, unlock_after]

/-- The time runs out, and the mutex is initialised whatever it is by then. -/
theorem owned_initialised (timeSeconds rval : Int) {s : HealthState}
    (h : HeldByOther caller (afterOthers caller others s.calls.length s.mutex)) :
    checkOwned caller others timeSeconds rval s =
      (ok, ⟨.free, s.calls ++
        [⟨.timedLock, afterOthers caller others s.calls.length s.mutex, eTimedOut⟩] ++
        [⟨.init, afterOthers caller others (s.calls.length + 1)
          (afterOthers caller others s.calls.length s.mutex), ok⟩]⟩) := by
  have hperform : MutexCall.perform caller (afterOthers caller others s.calls.length s.mutex)
      .timedLock = (eTimedOut, afterOthers caller others s.calls.length s.mutex) := by
    obtain ⟨o, -, ho⟩ := h.held
    rw [ho]
    rfl
  rw [checkOwned, vtpTimedLock, make_eq hperform]
  show vtpMutexInit caller others _ = _
  have hinit (m : Mutex) : MutexCall.perform caller m .init = (ok, .free) := rfl
  rw [vtpMutexInit, make_eq (hinit _), List.length_append]
  rfl

/-! ## The result -/

/-- A check that leaves the mutex free is judged by its calls. -/
theorem checksSafely_iff_calls {attached : Bool} {timeSeconds : Int} {calls : List CallMade}
    (h : vtpCheckMutexHealth caller others attached timeSeconds ⟨m, []⟩ = (ok, ⟨.free, calls⟩)) :
    ChecksSafely caller others attached timeSeconds m ↔ ∀ c ∈ calls, ¬ c.Steals caller := by
  constructor
  · intro hsafe c hc
    have hcalls := hsafe.calls
    rw [h] at hcalls
    exact hcalls c hc
  · intro hcalls
    constructor
    · rw [h]
      exact hcalls
    · rw [h]
      nofun

theorem not_steals_tryLock (found : Mutex) (code : Int) :
    ¬ CallMade.Steals caller ⟨.tryLock, found, code⟩ := by
  rintro ⟨-, hinit | ⟨hunlock, -⟩⟩
  · cases hinit
  · cases hunlock

theorem not_steals_timedLock (found : Mutex) (code : Int) :
    ¬ CallMade.Steals caller ⟨.timedLock, found, code⟩ := by
  rintro ⟨-, hinit | ⟨hunlock, -⟩⟩
  · cases hinit
  · cases hunlock

/-- To release one's own lock is no theft. -/
theorem not_steals_own (call : MutexCall) (code : Int) :
    ¬ CallMade.Steals caller ⟨call, .held caller, code⟩ := fun h => h.1 rfl

theorem not_steals_refused (found : Mutex) : ¬ CallMade.Steals caller ⟨.unlock, found, ePerm⟩ := by
  rintro ⟨-, hinit | ⟨-, hcode⟩⟩
  · cases hinit
  · have hok : ePerm = ok := hcode
    exact absurd hok (by decide)

/-- An initialisation is a theft when the lock is another's by then. -/
theorem steals_init_iff (found : Mutex) :
    CallMade.Steals caller ⟨.init, found, ok⟩ ↔ HeldByOther caller found :=
  and_iff_left (.inl rfl)

/-- Another thread has the lock at the first try. -/
theorem checksSafely_waits (timeSeconds : Int)
    (h : HeldByOther caller (foundAt caller others m 0)) :
    ChecksSafely caller others true timeSeconds m ↔ ¬ Outlasts caller others m := by
  have hwaits := check_waits timeSeconds h
  have hbefore : ∀ c ∈ callsBefore caller others m, ¬ c.Steals caller := by
    simp only [callsBefore, List.forall_mem_cons]
    exact ⟨not_steals_tryLock _ _, not_steals_refused _, List.forall_mem_nil _⟩
  have htaken
      (hfree : foundAt caller others m 2 = .free ∨ foundAt caller others m 2 = .ownerDead) :
      ChecksSafely caller others true timeSeconds m ↔ ¬ Outlasts caller others m := by
    obtain ⟨code, hcheck⟩ := owned_taken timeSeconds eBusy
      (s := ⟨foundAt caller others m 1, callsBefore caller others m⟩) hfree
    rw [checksSafely_iff_calls (hwaits.trans hcheck), List.forall_mem_append,
      List.forall_mem_append, List.forall_mem_singleton, List.forall_mem_singleton]
    constructor
    · rintro - ⟨-, hlive, -⟩
      rcases hfree with hfree | hfree <;> rw [hfree] at hlive <;> exact hlive
    · intro _
      exact ⟨⟨hbefore, not_steals_timedLock _ _⟩, not_steals_own _ _⟩
  rcases cases_owner caller (foundAt caller others m 2) with hfree | hdead | hown | hlive
  · exact htaken (.inl hfree)
  · exact htaken (.inr hdead)
  · exact absurd hown (foundAt_not_own h 2)
  · have hcheck := owned_initialised timeSeconds eBusy
      (s := ⟨foundAt caller others m 1, callsBefore caller others m⟩) hlive
    rw [checksSafely_iff_calls (hwaits.trans hcheck), List.forall_mem_append,
      List.forall_mem_append, List.forall_mem_singleton, List.forall_mem_singleton,
      steals_init_iff]
    constructor
    · rintro ⟨-, hinit⟩ ⟨-, -, hlast⟩
      exact hinit hlast
    · intro hno
      exact ⟨⟨hbefore, not_steals_timedLock _ _⟩, fun hlast => hno ⟨h, hlive, hlast⟩⟩

end

/-- In every interleaving the check takes the lock from no live thread, and leaves it to
none of its own, unless a live owner outlasts it. -/
theorem health_check_safe_iff (caller : Thread) (others : Nat → List (OtherOp caller))
    (attached : Bool) (timeSeconds : Int) (m : Mutex) :
    ChecksSafely caller others attached timeSeconds m ↔
      (attached = true → ¬ Outlasts caller others m) := by
  cases attached with
  | false =>
    constructor
    · intro _ hfalse
      exact absurd hfalse (by decide)
    · intro _
      constructor
      · exact List.forall_mem_nil _
      · intro hcode
        have hok : error = ok := hcode
        exact absurd hok (by decide)
  | true =>
    rw [forall_prop_of_true rfl]
    have hsafe {calls : List CallMade} (hcheck : vtpCheckMutexHealth caller others true timeSeconds
        ⟨m, []⟩ = (ok, ⟨.free, calls⟩)) (hcalls : ∀ c ∈ calls, ¬ c.Steals caller)
        (hno : ¬ HeldByOther caller (foundAt caller others m 0)) :
        ChecksSafely caller others true timeSeconds m ↔ ¬ Outlasts caller others m :=
      iff_of_true ((checksSafely_iff_calls hcheck).mpr hcalls) fun hlasts => hno hlasts.1
    have htaken
        (hfree : foundAt caller others m 0 = .free ∨ foundAt caller others m 0 = .ownerDead) :
        ChecksSafely caller others true timeSeconds m ↔ ¬ Outlasts caller others m := by
      obtain ⟨code, hcheck⟩ := check_taken timeSeconds hfree
      apply hsafe hcheck
      · simp only [List.forall_mem_cons]
        exact ⟨not_steals_tryLock _ _, not_steals_own _ _, List.forall_mem_nil _⟩
      · rcases hfree with hfree | hfree <;> rw [hfree] <;> exact id
    rcases cases_owner caller (foundAt caller others m 0) with hfree | hdead | hown | hlive
    · exact htaken (.inl hfree)
    · exact htaken (.inr hdead)
    · apply hsafe (check_own timeSeconds hown)
      · simp only [List.forall_mem_cons]
        exact ⟨not_steals_tryLock _ _, not_steals_own _ _, List.forall_mem_nil _⟩
      · rw [hown]
        exact fun hne => hne rfl
    · exact checksSafely_waits timeSeconds hlive

/-- A slow but live owner: thread 1 of process 2 keeps the lock for longer than the check
waits, and the mutex is initialised under it. -/
theorem slow_owner_robbed :
    ¬ ChecksSafely ⟨1, 1⟩ (fun _ => []) true 5 (.held ⟨2, 1⟩) := by
  intro h
  have hinit := h.calls ⟨.init, .held ⟨2, 1⟩, ok⟩ (by decide)
  exact hinit ⟨by decide, .inl rfl⟩

end VtpStreaming
