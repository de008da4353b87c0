import Mathlib.Logic.Function.Basic
import VtpStreaming.Clib.RobustMutex
import VtpStreaming.Clib.Run
import VtpStreaming.VtpLib

/-!
# The lock that the processes share

`vtp/vtpLib.c`, `vtpCreateLockShm` with `vtpMutexInit`, `vtpLock`, `vtpTryLock`,
`vtpTimedLock` and `vtpUnlock`, in steps that any number of processes take in any order.
A process can die between two steps.

The shared memory is not unlinked, and a process does not detach from it. What the
functions print is left out, and so are the shared data besides the mutex.
-/

namespace VtpStreaming

open Clib Function

def eNotRecoverable : Int := 131

/-! ## The mutex -/

/-- The mutex in the shared memory. New memory is zero, which is a mutex that anyone can
unlock and that stays locked when its owner dies. -/
inductive ShmMutex (P : Type)
  | plain (owner : Option P)
  | free
  | held (owner : P)
  | ownerDead
  | inconsistent (owner : P)
  | notRecoverable
deriving DecidableEq

namespace ShmMutex

variable {P : Type}

def IsPlain : ShmMutex P → Prop
  | .plain _ => True
  | _ => False

/-- What `pthread_mutex_lock` returns and leaves, none as long as the lock is taken. -/
def lock (p : P) : ShmMutex P → Option (Int × ShmMutex P)
  | .plain none => some (0, .plain (some p))
  | .plain (some _) => none
  | .free => some (0, .held p)
  | .held _ => none
  | .ownerDead => some (eOwnerDead, .inconsistent p)
  | .inconsistent _ => none
  | .notRecoverable => some (eNotRecoverable, .notRecoverable)

/-- No call initialises a mutex. -/
theorem lock_plain {p : P} {m mutex : ShmMutex P} {code : Int} (h : m.lock p = some (code, mutex))
    (hm : m.IsPlain) : mutex.IsPlain := by
  cases m with
  | plain o =>
    cases o with
    | none => cases h; trivial
    | some _ => cases h
  | free | held _ | ownerDead | inconsistent _ | notRecoverable => exact hm.elim

variable [DecidableEq P]

/-- `pthread_mutex_unlock`. A mutex that is unlocked before it is consistent is lost. -/
def unlock (p : P) : ShmMutex P → Int × ShmMutex P
  | .plain _ => (0, .plain none)
  | .free => (ePerm, .free)
  | .held o => if o = p then (0, .free) else (ePerm, .held o)
  | .ownerDead => (ePerm, .ownerDead)
  | .inconsistent o => if o = p then (0, .notRecoverable) else (ePerm, .inconsistent o)
  | .notRecoverable => (ePerm, .notRecoverable)

/-- `pthread_mutex_consistent_np`. -/
def consistent (p : P) : ShmMutex P → ShmMutex P
  | .inconsistent o => if o = p then .held p else .inconsistent o
  | m => m

/-- The owner dies. -/
def die (p : P) : ShmMutex P → ShmMutex P
  | .held o => if o = p then .ownerDead else .held o
  | .inconsistent o => if o = p then .ownerDead else .inconsistent o
  | m => m

theorem unlock_plain {p : P} {m : ShmMutex P} (hm : m.IsPlain) : (m.unlock p).2.IsPlain := by
  cases m with
  | plain o => trivial
  | free | held _ | ownerDead | inconsistent _ | notRecoverable => exact hm.elim

theorem consistent_plain {p : P} {m : ShmMutex P} (hm : m.IsPlain) : (m.consistent p).IsPlain := by
  cases m with
  | plain o => trivial
  | free | held _ | ownerDead | inconsistent _ | notRecoverable => exact hm.elim

theorem die_plain {p : P} {m : ShmMutex P} (hm : m.IsPlain) : (m.die p).IsPlain := by
  cases m with
  | plain o => trivial
  | free | held _ | ownerDead | inconsistent _ | notRecoverable => exact hm.elim

end ShmMutex

/-! ## The processes -/

inductive LockKind
  | lock
  | tryLock
  | timedLock
deriving DecidableEq

/-- Where a process is. `detached` is before `vtpCreateLockShm`, `creating` to `sized` in
the middle of it, and `recovering` after the mutex has returned `EOWNERDEAD`. What is
created first has no length, and then no size in it. -/
inductive ShmPc
  | detached
  | creating
  | created
  | truncated
  | sized
  | idle
  | calling (kind : LockKind)
  | recovering
  | dead
deriving DecidableEq

/-- In the middle of the creation. -/
def ShmPc.Creating : ShmPc → Prop
  | .creating | .created | .truncated | .sized => True
  | _ => False

/-- The creation has returned. -/
def ShmPc.Attached : ShmPc → Prop
  | .idle | .calling _ | .recovering => True
  | _ => False

/-- Whether the memory has its length, whether `shmSize` is stored in it, and the mutex. -/
structure ShmLock (P : Type) where
  truncated : Bool
  shmSize : Bool
  mutex : ShmMutex P

/-- The memory, none before it is created, and the processes, with what `vtpCreateLockShm`
has returned. A process is inside from the return of 0 by one of the lock calls to that by
`vtpUnlock`. -/
structure ShmState (P : Type) where
  shm : Option (ShmLock P)
  pc : P → ShmPc
  opened : P → Option Int
  inside : P → Bool

def ShmState.start (P : Type) : ShmState P where
  shm := none
  pc := fun _ => .detached
  opened := fun _ => none
  inside := fun _ => false

inductive ShmEvent (P : Type)
  | look (p : P)
  | create (p : P)
  | truncate (p : P)
  | size (p : P)
  | init (p : P)
  | call (p : P) (kind : LockKind)
  | acquire (p : P)
  | giveUp (p : P)
  | recover (p : P)
  | unlock (p : P)
  | die (p : P)

section

variable {P : Type} [DecidableEq P]

/-- A process that finds the memory compares the size in it, and keeps it mapped when that
is another. Reading memory without length is fatal. The lock calls go on when the mutex
lets them. One that has died is made consistent, and only a negative code of that call would
be an error. -/
inductive ShmStep : ShmState P → ShmEvent P → ShmState P → Prop
  | attach {s : ShmState P} {p : P} {m : ShmLock P} :
      s.pc p = .detached → s.shm = some m → m.truncated = true →
      ShmStep s (.look p)
        { s with
          pc := update s.pc p .idle
          opened := update s.opened p (some (if m.shmSize then ok else error)) }
  | fault {s : ShmState P} {p : P} {m : ShmLock P} :
      s.pc p = .detached → s.shm = some m → m.truncated = false →
      ShmStep s (.look p) { s with pc := update s.pc p .dead }
  | missing {s : ShmState P} {p : P} :
      s.pc p = .detached → s.shm = none →
      ShmStep s (.look p) { s with pc := update s.pc p .creating }
  | create {s : ShmState P} {p : P} :
      s.pc p = .creating →
      ShmStep s (.create p)
        { s with
          shm := some (s.shm.getD ⟨false, false, .plain none⟩)
          pc := update s.pc p .created }
  | truncate {s : ShmState P} {p : P} {m : ShmLock P} :
      s.pc p = .created → s.shm = some m →
      ShmStep s (.truncate p)
        { s with shm := some { m with truncated := true }, pc := update s.pc p .truncated }
  | size {s : ShmState P} {p : P} {m : ShmLock P} :
      s.pc p = .truncated → s.shm = some m →
      ShmStep s (.size p)
        { s with shm := some { m with shmSize := true }, pc := update s.pc p .sized }
  | init {s : ShmState P} {p : P} {m : ShmLock P} :
      s.pc p = .sized → s.shm = some m →
      ShmStep s (.init p)
        { s with
          shm := some { m with mutex := .free }
          pc := update s.pc p .idle
          opened := update s.opened p (some ok) }
  | call {s : ShmState P} {p : P} {kind : LockKind} :
      s.pc p = .idle →
      ShmStep s (.call p kind) { s with pc := update s.pc p (.calling kind) }
  | acquire {s : ShmState P} {p : P} {kind : LockKind} {m : ShmLock P} {code : Int}
      {mutex : ShmMutex P} :
      s.pc p = .calling kind → s.shm = some m → m.mutex.lock p = some (code, mutex) →
      ShmStep s (.acquire p)
        { s with
          shm := some { m with mutex := mutex }
          pc := update s.pc p (if code = eOwnerDead then .recovering else .idle)
          inside := if code = 0 then update s.inside p true else s.inside }
  | giveUp {s : ShmState P} {p : P} {kind : LockKind} {m : ShmLock P} :
      s.pc p = .calling kind → kind ≠ .lock → s.shm = some m → m.mutex.lock p = none →
      ShmStep s (.giveUp p) { s with pc := update s.pc p .idle }
  | recover {s : ShmState P} {p : P} {m : ShmLock P} :
      s.pc p = .recovering → s.shm = some m →
      ShmStep s (.recover p)
        { s with
          shm := some { m with mutex := m.mutex.consistent p }
          pc := update s.pc p .idle
          inside := update s.inside p true }
  | unlock {s : ShmState P} {p : P} {m : ShmLock P} :
      s.pc p = .idle → s.shm = some m →
      ShmStep s (.unlock p)
        { s with
          shm := some { m with mutex := (m.mutex.unlock p).2 }
          inside := if (m.mutex.unlock p).1 = 0 then update s.inside p false else s.inside }
  | die {s : ShmState P} {p : P} :
      s.pc p ≠ .dead →
      ShmStep s (.die p)
        { s with
          shm := s.shm.map fun m => { m with mutex := m.mutex.die p }
          pc := update s.pc p .dead
          inside := update s.inside p false }

/-- A process that looks for the memory finds nobody creating it, and finds no mutex that
is not initialised, as one who has died in the middle leaves it. -/
def Undisturbed (s : ShmState P) : ShmEvent P → Prop
  | .look _ => (∀ q, ¬(s.pc q).Creating) ∧ ∀ m, s.shm = some m → ¬m.mutex.IsPlain
  | _ => True

/-- The steps of processes that start one after the other. -/
def ShmRun : ShmState P → List (ShmEvent P) → ShmState P → Prop :=
  Run fun s e t => Undisturbed s e ∧ ShmStep s e t

end

/-! ## The invariant -/

section

variable {P : Type}

/-- The owner of the mutex is inside or about to be, and nobody else is. A mutex that is
not initialised has nobody attached to it. -/
inductive MutexShows (s : ShmState P) : Prop
  | missing (shm : s.shm = none) (attached : ∀ q, ¬(s.pc q).Attached)
      (inside : ∀ q, s.inside q = false)
  | new (m : ShmLock P) (shm : s.shm = some m) (mutex : m.mutex = .plain none)
      (attached : ∀ q, ¬(s.pc q).Attached) (inside : ∀ q, s.inside q = false)
  | free (m : ShmLock P) (shm : s.shm = some m) (mutex : m.mutex = .free ∨ m.mutex = .ownerDead)
      (recovering : ∀ q, s.pc q ≠ .recovering) (inside : ∀ q, s.inside q = false)
  | held (m : ShmLock P) (p : P) (shm : s.shm = some m) (mutex : m.mutex = .held p)
      (recovering : ∀ q, s.pc q ≠ .recovering) (inside : ∀ q, s.inside q = true ↔ q = p)
  | recovering (m : ShmLock P) (p : P) (shm : s.shm = some m) (mutex : m.mutex = .inconsistent p)
      (recovering : ∀ q, s.pc q = .recovering ↔ q = p) (inside : ∀ q, s.inside q = false)

/-- At most one process creates the memory, and it has not initialised the mutex. -/
structure ShmInv (s : ShmState P) : Prop where
  shows : MutexShows s
  one : ∀ p q, (s.pc p).Creating → (s.pc q).Creating → p = q
  first : ∀ p, (s.pc p).Creating → ∀ m, s.shm = some m → m.mutex = .plain none

theorem ShmInv.start : ShmInv (ShmState.start P) where
  shows := .missing rfl (fun _ => id) fun _ => rfl
  one := fun _ _ hp => hp.elim
  first := fun _ hp => hp.elim

/-- The memory has its length and its size when its mutex is initialised. -/
structure ShmSized (s : ShmState P) : Prop where
  truncated : ∀ q m, s.shm = some m → s.pc q = .truncated → m.truncated = true
  sized : ∀ q m, s.shm = some m → s.pc q = .sized → m.truncated = true ∧ m.shmSize = true
  initialised : ∀ m, s.shm = some m → ¬m.mutex.IsPlain → m.truncated = true ∧ m.shmSize = true
  opened : ∀ q, (s.pc q).Attached → s.opened q = some ok

theorem ShmSized.start : ShmSized (ShmState.start P) :=
  ⟨fun _ _ _ => nofun, fun _ _ _ => nofun, fun _ hm => absurd hm nofun, fun _ => False.elim⟩

variable {s t : ShmState P} {p : P}

theorem MutexShows.opened (h : MutexShows s) (f : P → Option Int) :
    MutexShows { s with opened := f } := by
  cases h with
  | missing shm attached inside => exact .missing shm attached inside
  | new m shm mutex attached inside => exact .new m shm mutex attached inside
  | free m shm mutex recovering inside => exact .free m shm mutex recovering inside
  | held m p shm mutex recovering inside => exact .held m p shm mutex recovering inside
  | recovering m p shm mutex recovering inside =>
    exact .recovering m p shm mutex recovering inside

theorem ShmInv.opened (h : ShmInv s) (f : P → Option Int) : ShmInv { s with opened := f } :=
  ⟨h.shows.opened f, h.one, h.first⟩

/-- A process that is attached finds a mutex that is initialised. -/
theorem ShmInv.initialised (h : ShmInv s) (hp : (s.pc p).Attached) :
    ∃ m, s.shm = some m ∧ ¬m.mutex.IsPlain := by
  cases h.shows with
  | missing _ attached _ => exact absurd hp (attached p)
  | new _ _ _ attached _ => exact absurd hp (attached p)
  | free m shm mutex _ _ =>
    refine ⟨m, shm, ?_⟩
    rcases mutex with h | h
    · rw [h]
      exact id
    · rw [h]
      exact id
  | held m o shm mutex _ _ => exact ⟨m, shm, by rw [mutex]; exact id⟩
  | recovering m o shm mutex _ _ => exact ⟨m, shm, by rw [mutex]; exact id⟩

/-- So nobody creates the memory then. -/
theorem ShmInv.no_creator (h : ShmInv s) (hp : (s.pc p).Attached) (q : P) :
    ¬(s.pc q).Creating := by
  intro hq
  obtain ⟨m, shm, hplain⟩ := h.initialised hp
  rw [h.first q hq m shm] at hplain
  exact hplain trivial

theorem ShmInv.of_no_creator (hshows : MutexShows t) (hnone : ∀ q, ¬(t.pc q).Creating) :
    ShmInv t :=
  ⟨hshows, fun a _ ha _ => absurd ha (hnone a), fun a ha => absurd ha (hnone a)⟩

/-- Nobody is inside before the mutex is initialised. -/
theorem ShmInv.nobody_inside (h : ShmInv s) (hp : (s.pc p).Creating) (q : P) :
    s.inside q = false := by
  cases h.shows with
  | missing _ _ inside => exact inside q
  | new _ _ _ _ inside => exact inside q
  | free _ _ _ _ inside => exact inside q
  | held m o shm mutex _ _ =>
    rw [h.first p hp m shm] at mutex
    cases mutex
  | recovering _ _ _ _ _ inside => exact inside q

end

section

variable {P : Type} [DecidableEq P] {s t : ShmState P} {p : P}

/-! ## Where the processes are -/

theorem creating_of_update {x : ShmPc} (hx : ¬x.Creating) {q : P}
    (hq : (update s.pc p x q).Creating) : q ≠ p ∧ (s.pc q).Creating := by
  rcases eq_or_ne q p with rfl | hne
  · rw [update_self] at hq
    exact absurd hq hx
  · rw [update_of_ne hne] at hq
    exact ⟨hne, hq⟩

theorem no_creator_update {x : ShmPc} (hx : ¬x.Creating) (hnone : ∀ q, ¬(s.pc q).Creating) (q : P) :
    ¬(update s.pc p x q).Creating :=
  fun hq => hnone q (creating_of_update hx hq).2

theorem not_attached_update {x : ShmPc} (hx : ¬x.Attached) (hnone : ∀ q, ¬(s.pc q).Attached)
    (q : P) : ¬(update s.pc p x q).Attached := by
  rcases eq_or_ne q p with rfl | hne
  · rw [update_self]
    exact hx
  · rw [update_of_ne hne]
    exact hnone q

theorem not_recovering_update {x : ShmPc} (hx : x ≠ .recovering)
    (h : ∀ q, s.pc q ≠ .recovering) (q : P) : update s.pc p x q ≠ .recovering := by
  rcases eq_or_ne q p with rfl | hne
  · rw [update_self]
    exact hx
  · rw [update_of_ne hne]
    exact h q

/-- The process that recovers the mutex is another one. -/
theorem recovering_update {x : ShmPc} (hx : x ≠ .recovering) (hp : s.pc p ≠ .recovering) {o : P}
    (h : ∀ q, s.pc q = .recovering ↔ q = o) (q : P) :
    update s.pc p x q = .recovering ↔ q = o := by
  rcases eq_or_ne q p with rfl | hne
  · rw [update_self]
    exact iff_of_false hx fun heq => hp ((h q).mpr heq)
  · rw [update_of_ne hne]
    exact h q

/-- The creator is the only one, wherever it goes. -/
theorem ShmInv.only_creator (h : ShmInv s) (hp : (s.pc p).Creating) {x : ShmPc} {q : P}
    (hq : (update s.pc p x q).Creating) : q = p := by
  by_contra hne
  rw [update_of_ne hne] at hq
  exact hne (h.one q p hq hp)

/-- When it is through, nobody creates the memory. -/
theorem ShmInv.created (h : ShmInv s) (hp : (s.pc p).Creating) {x : ShmPc} (hx : ¬x.Creating)
    (q : P) : ¬(update s.pc p x q).Creating := by
  intro hq
  obtain ⟨hne, -⟩ := creating_of_update hx hq
  exact hne (h.only_creator hp hq)

/-! ## One step -/

/-- A step that changes neither the memory nor who is inside. -/
theorem MutexShows.move (h : MutexShows s) {m : ShmLock P} (hshm : s.shm = some m)
    (hinit : ¬m.mutex.IsPlain) {x : ShmPc} (hx : x ≠ .recovering) (hp : s.pc p ≠ .recovering) :
    MutexShows { s with pc := update s.pc p x } := by
  cases h with
  | missing shm _ _ =>
    rw [shm] at hshm
    cases hshm
  | new m' shm mutex _ _ =>
    rw [shm, Option.some.injEq] at hshm
    rw [← hshm, mutex] at hinit
    exact absurd trivial hinit
  | free m shm mutex recovering inside =>
    exact .free m shm mutex (not_recovering_update hx recovering) inside
  | held m o shm mutex recovering inside =>
    exact .held m o shm mutex (not_recovering_update hx recovering) inside
  | recovering m o shm mutex recovering inside =>
    exact .recovering m o shm mutex (recovering_update hx hp recovering) inside

/-- A step that leaves a new mutex. -/
theorem ShmInv.new (h : ShmInv s) (hp : (s.pc p).Creating) {m : ShmLock P}
    (hmutex : m.mutex = .plain none) {x : ShmPc} (hx : ¬x.Attached) :
    ShmInv { s with shm := some m, pc := update s.pc p x } := by
  refine ⟨.new m rfl hmutex (not_attached_update hx fun q hq => h.no_creator hq p hp)
    (h.nobody_inside hp), ?_, ?_⟩
  · intro a b ha hb
    exact (h.only_creator hp ha).trans (h.only_creator hp hb).symm
  · intro a _ m' hm'
    rw [← Option.some.inj hm']
    exact hmutex

theorem ShmInv.init (h : ShmInv s) (hp : s.pc p = .sized) (m : ShmLock P) :
    ShmInv { s with shm := some { m with mutex := .free }, pc := update s.pc p .idle } := by
  have hcreating : (s.pc p).Creating := by rw [hp]; exact trivial
  have hrecovering : ∀ q, s.pc q ≠ .recovering := fun q hq =>
    h.no_creator (p := q) (by rw [hq]; exact trivial) p hcreating
  exact .of_no_creator (.free _ rfl (.inl rfl) (not_recovering_update (by decide) hrecovering)
    (h.nobody_inside hcreating)) (h.created hcreating id)

/-- What one of the lock calls takes. -/
theorem ShmInv.acquire (h : ShmInv s) {kind : LockKind} (hp : s.pc p = .calling kind)
    {m : ShmLock P} (hshm : s.shm = some m) {code : Int} {mutex : ShmMutex P}
    (hlock : m.mutex.lock p = some (code, mutex)) :
    ShmInv
      { s with
        shm := some { m with mutex := mutex }
        pc := update s.pc p (if code = eOwnerDead then .recovering else .idle)
        inside := if code = 0 then update s.inside p true else s.inside } := by
  have hattached : (s.pc p).Attached := by rw [hp]; exact trivial
  have hnone := h.no_creator hattached
  refine .of_no_creator ?_ ?_
  · cases h.shows with
    | missing _ attached _ => exact absurd hattached (attached p)
    | new _ _ _ attached _ => exact absurd hattached (attached p)
    | free m' shm hmutex recovering inside =>
      rw [hshm, Option.some.injEq] at shm
      subst shm
      rcases hmutex with hfree | hdead
      · rw [hfree] at hlock
        cases hlock
        refine .held _ p rfl rfl (not_recovering_update (by decide) recovering) fun q => ?_
        rcases eq_or_ne q p with rfl | hne
        · simp
        · simp [hne, inside q]
      · rw [hdead] at hlock
        cases hlock
        refine .recovering _ p rfl rfl (fun q => ?_) inside
        rcases eq_or_ne q p with rfl | hne
        · simp
        · simp [hne, recovering q]
    | held m' o shm hmutex _ _ =>
      rw [hshm, Option.some.injEq] at shm
      rw [shm, hmutex] at hlock
      cases hlock
    | recovering m' o shm hmutex _ _ =>
      rw [hshm, Option.some.injEq] at shm
      rw [shm, hmutex] at hlock
      cases hlock
  · refine no_creator_update ?_ hnone
    split
    · exact id
    · exact id

theorem ShmInv.recover (h : ShmInv s) (hp : s.pc p = .recovering) {m : ShmLock P}
    (hshm : s.shm = some m) :
    ShmInv
      { s with
        shm := some { m with mutex := m.mutex.consistent p }
        pc := update s.pc p .idle
        inside := update s.inside p true } := by
  have hattached : (s.pc p).Attached := by rw [hp]; exact trivial
  refine .of_no_creator ?_ (no_creator_update id (h.no_creator hattached))
  cases h.shows with
  | missing _ attached _ => exact absurd hattached (attached p)
  | new _ _ _ attached _ => exact absurd hattached (attached p)
  | free _ _ _ recovering _ => exact absurd hp (recovering p)
  | held _ _ _ _ recovering _ => exact absurd hp (recovering p)
  | recovering m' o shm hmutex recovering inside =>
    rw [hshm, Option.some.injEq] at shm
    subst shm
    obtain rfl := (recovering p).mp hp
    refine .held _ p rfl (by rw [hmutex]; exact if_pos rfl) (fun q => ?_) fun q => ?_
    · rcases eq_or_ne q p with rfl | hne
      · simp
      · dsimp only
        rw [update_of_ne hne]
        exact fun hq => hne ((recovering q).mp hq)
    · rcases eq_or_ne q p with rfl | hne
      · simp
      · simp [hne, inside q]

theorem ShmInv.unlock (h : ShmInv s) (hp : s.pc p = .idle) {m : ShmLock P}
    (hshm : s.shm = some m) :
    ShmInv
      { s with
        shm := some { m with mutex := (m.mutex.unlock p).2 }
        inside := if (m.mutex.unlock p).1 = 0 then update s.inside p false else s.inside } := by
  have hattached : (s.pc p).Attached := by rw [hp]; exact trivial
  refine .of_no_creator ?_ (h.no_creator hattached)
  cases h.shows with
  | missing _ attached _ => exact absurd hattached (attached p)
  | new _ _ _ attached _ => exact absurd hattached (attached p)
  | free m' shm hmutex recovering inside =>
    rw [hshm, Option.some.injEq] at shm
    subst shm
    rcases hmutex with hfree | hdead
    · rw [hfree]
      exact .free _ rfl (.inl rfl) recovering inside
    · rw [hdead]
      exact .free _ rfl (.inr rfl) recovering inside
  | held m' o shm hmutex recovering inside =>
    rw [hshm, Option.some.injEq] at shm
    subst shm
    rw [hmutex]
    rcases eq_or_ne o p with rfl | hne
    · have hunlock : (ShmMutex.held o).unlock o = (0, .free) := if_pos rfl
      rw [hunlock]
      refine .free _ rfl (.inl rfl) recovering fun q => ?_
      rcases eq_or_ne q o with rfl | hq
      · simp
      · have hout := mt (inside q).mp hq
        simpa [hq] using hout
    · have hunlock : (ShmMutex.held o).unlock p = (ePerm, .held o) := if_neg hne
      rw [hunlock]
      exact .held _ o rfl rfl recovering inside
  | recovering m' o shm hmutex recovering inside =>
    rw [hshm, Option.some.injEq] at shm
    subst shm
    have hne : o ≠ p := by
      rintro rfl
      have hrec := (recovering o).mpr rfl
      rw [hp] at hrec
      cases hrec
    have hunlock : (ShmMutex.inconsistent o).unlock p = (ePerm, .inconsistent o) := if_neg hne
    rw [hmutex, hunlock]
    exact .recovering _ o rfl rfl recovering inside

/-- Whoever dies inside leaves the mutex to be recovered. -/
theorem ShmInv.die (h : ShmInv s) :
    ShmInv
      { s with
        shm := s.shm.map fun m => { m with mutex := m.mutex.die p }
        pc := update s.pc p .dead
        inside := update s.inside p false } := by
  have hout (hinside : ∀ q, s.inside q = false) (q : P) : update s.inside p false q = false := by
    rcases eq_or_ne q p with rfl | hne
    · rw [update_self]
    · rw [update_of_ne hne]
      exact hinside q
  refine ⟨?_, ?_, ?_⟩
  · cases h.shows with
    | missing shm attached inside =>
      exact .missing (by rw [shm]; rfl) (not_attached_update id attached) (hout inside)
    | new m shm mutex attached inside =>
      refine .new { m with mutex := m.mutex.die p } (by rw [shm]; rfl) ?_
        (not_attached_update id attached) (hout inside)
      rw [mutex]
      rfl
    | free m shm mutex recovering inside =>
      refine .free { m with mutex := m.mutex.die p } (by rw [shm]; rfl) ?_
        (not_recovering_update (by decide) recovering) (hout inside)
      rcases mutex with hfree | hdead
      · exact .inl (by rw [hfree]; rfl)
      · exact .inr (by rw [hdead]; rfl)
    | held m o shm mutex recovering inside =>
      -- only the death of the owner changes the mutex
      rcases eq_or_ne o p with rfl | hne
      · refine .free { m with mutex := m.mutex.die o } (by rw [shm]; rfl)
          (.inr (by rw [mutex]; exact if_pos rfl)) (not_recovering_update (by decide) recovering)
          fun q => ?_
        dsimp only
        rcases eq_or_ne q o with rfl | hq
        · rw [update_self]
        · rw [update_of_ne hq]
          exact Bool.eq_false_iff.mpr (mt (inside q).mp hq)
      · refine .held { m with mutex := m.mutex.die p } o (by rw [shm]; rfl)
          (by rw [mutex]; exact if_neg hne) (not_recovering_update (by decide) recovering)
          fun q => ?_
        dsimp only
        rcases eq_or_ne q p with rfl | hq
        · rw [update_self]
          exact iff_of_false (by decide) hne.symm
        · rw [update_of_ne hq]
          exact inside q
    | recovering m o shm mutex recovering inside =>
      rcases eq_or_ne o p with rfl | hne
      · refine .free { m with mutex := m.mutex.die o } (by rw [shm]; rfl)
          (.inr (by rw [mutex]; exact if_pos rfl)) (fun q => ?_) (hout inside)
        dsimp only
        rcases eq_or_ne q o with rfl | hq
        · rw [update_self]
          decide
        · rw [update_of_ne hq]
          exact fun hrec => hq ((recovering q).mp hrec)
      · have hp : s.pc p ≠ .recovering := fun hrec => hne ((recovering p).mp hrec).symm
        exact .recovering { m with mutex := m.mutex.die p } o (by rw [shm]; rfl)
          (by rw [mutex]; exact if_neg hne) (recovering_update (by decide) hp recovering)
          (hout inside)
  · intro a b ha hb
    exact h.one a b (creating_of_update id ha).2 (creating_of_update id hb).2
  · intro a ha m hm
    obtain ⟨m', hm', rfl⟩ := Option.map_eq_some_iff.mp hm
    dsimp only
    rw [h.first a (creating_of_update id ha).2 m' hm']
    rfl

/-- The step lemma. -/
theorem ShmInv.step (h : ShmInv s) {e : ShmEvent P} (calm : Undisturbed s e)
    (step : ShmStep s e t) : ShmInv t := by
  cases step with
  | attach hp hshm _ =>
    obtain ⟨hnone, hinit⟩ := calm
    have hmove := h.shows.move hshm (hinit _ hshm) (x := .idle) (by decide) (by rw [hp]; decide)
    exact (ShmInv.of_no_creator hmove (no_creator_update id hnone)).opened _
  | fault hp hshm _ =>
    obtain ⟨hnone, hinit⟩ := calm
    exact .of_no_creator (h.shows.move hshm (hinit _ hshm) (by decide) (by rw [hp]; decide))
      (no_creator_update id hnone)
  | missing hp hshm =>
    obtain ⟨hnone, -⟩ := calm
    have honly {p q : P} (hq : (update s.pc p .creating q).Creating) : q = p := by
      by_contra hne
      rw [update_of_ne hne] at hq
      exact hnone q hq
    refine ⟨?_, fun a b ha hb => (honly ha).trans (honly hb).symm, fun a _ m hm => ?_⟩
    · cases h.shows with
      | missing shm attached inside => exact .missing shm (not_attached_update id attached) inside
      | new _ shm _ _ _ => rw [hshm] at shm; cases shm
      | free _ shm _ _ _ => rw [hshm] at shm; cases shm
      | held _ _ shm _ _ _ => rw [hshm] at shm; cases shm
      | recovering _ _ shm _ _ _ => rw [hshm] at shm; cases shm
    · rw [hshm] at hm
      cases hm
  | @create p hp =>
    have hcreating : (s.pc p).Creating := by rw [hp]; exact trivial
    refine h.new hcreating ?_ id
    cases hshm : s.shm with
    | none => rfl
    | some m => exact h.first p hcreating m hshm
  | @truncate p m hp hshm =>
    have hcreating : (s.pc p).Creating := by rw [hp]; exact trivial
    exact h.new (m := { m with truncated := true }) hcreating (h.first p hcreating m hshm) id
  | @size p m hp hshm =>
    have hcreating : (s.pc p).Creating := by rw [hp]; exact trivial
    exact h.new (m := { m with shmSize := true }) hcreating (h.first p hcreating m hshm) id
  | init hp _ => exact (h.init hp _).opened _
  | @call p _ hp =>
    have hattached : (s.pc p).Attached := by rw [hp]; exact trivial
    obtain ⟨m, hshm, hinit⟩ := h.initialised hattached
    exact .of_no_creator (h.shows.move hshm hinit (by simp) (by rw [hp]; decide))
      (no_creator_update id (h.no_creator hattached))
  | acquire hp hshm hlock => exact h.acquire hp hshm hlock
  | @giveUp p _ _ hp _ _ _ =>
    have hattached : (s.pc p).Attached := by rw [hp]; exact trivial
    obtain ⟨m, hshm, hinit⟩ := h.initialised hattached
    exact .of_no_creator (h.shows.move hshm hinit (by decide) (by rw [hp]; simp))
      (no_creator_update id (h.no_creator hattached))
  | recover hp hshm => exact h.recover hp hshm
  | unlock hp hshm => exact h.unlock hp hshm
  | die _ => exact h.die

/-! ## What the creation returns -/

/-- A process goes to a place that is not in the middle of the creation, and nothing is
known to be created before. -/
theorem ShmSized.move (h : ShmSized s) {shm : Option (ShmLock P)} {x : ShmPc}
    {opened : P → Option Int} {inside : P → Bool}
    (hshm : ∀ m, shm = some m → ∃ m', s.shm = some m' ∧ m.truncated = m'.truncated ∧
      m.shmSize = m'.shmSize ∧ (m'.mutex.IsPlain → m.mutex.IsPlain))
    (hx : x ≠ .truncated ∧ x ≠ .sized) (hself : x.Attached → opened p = some ok)
    (hothers : ∀ q, q ≠ p → opened q = s.opened q) :
    ShmSized ⟨shm, update s.pc p x, opened, inside⟩ := by
  have hpc : ∀ q y, y ≠ x → update s.pc p x q = y → s.pc q = y := by
    intro q y hy hq
    rcases eq_or_ne q p with rfl | hne
    · rw [update_self] at hq
      exact absurd hq.symm hy
    · rwa [update_of_ne hne] at hq
  constructor
  · intro q m hm hq
    obtain ⟨m', hm', htruncated, -, -⟩ := hshm m hm
    rw [htruncated]
    exact h.truncated q m' hm' (hpc q _ hx.1.symm hq)
  · intro q m hm hq
    obtain ⟨m', hm', htruncated, hsize, -⟩ := hshm m hm
    rw [htruncated, hsize]
    exact h.sized q m' hm' (hpc q _ hx.2.symm hq)
  · intro m hm hinit
    obtain ⟨m', hm', htruncated, hsize, hplain⟩ := hshm m hm
    rw [htruncated, hsize]
    exact h.initialised m' hm' (mt hplain hinit)
  · intro q hq
    rcases eq_or_ne q p with rfl | hne
    · dsimp only at hq
      rw [update_self] at hq
      exact hself hq
    · dsimp only at hq ⊢
      rw [update_of_ne hne] at hq
      rw [hothers q hne]
      exact h.opened q hq

/-- The creator goes on, and nobody else is in the middle of the creation. -/
theorem ShmSized.create (h : ShmSized s) (inv : ShmInv s) (hp : (s.pc p).Creating)
    {m : ShmLock P} {x : ShmPc} (hx : ¬x.Attached)
    (htruncated : x = .truncated → m.truncated = true)
    (hsized : x = .sized → m.truncated = true ∧ m.shmSize = true) (hplain : m.mutex = .plain none) :
    ShmSized { s with shm := some m, pc := update s.pc p x } := by
  constructor
  · intro q m' hm' hq
    have hcreating : (update s.pc p x q).Creating := by
      rw [show update s.pc p x q = .truncated from hq]
      exact trivial
    obtain rfl := inv.only_creator hp hcreating
    rw [← Option.some.inj hm']
    exact htruncated ((update_self ..).symm.trans hq)
  · intro q m' hm' hq
    have hcreating : (update s.pc p x q).Creating := by
      rw [show update s.pc p x q = .sized from hq]
      exact trivial
    obtain rfl := inv.only_creator hp hcreating
    rw [← Option.some.inj hm']
    exact hsized ((update_self ..).symm.trans hq)
  · intro m' hm' hinit
    rw [← Option.some.inj hm', hplain] at hinit
    exact absurd trivial hinit
  · intro q hq
    rcases eq_or_ne q p with rfl | hne
    · dsimp only at hq
      rw [update_self] at hq
      exact absurd hq hx
    · dsimp only at hq
      rw [update_of_ne hne] at hq
      exact h.opened q hq

theorem ShmSized.step (h : ShmSized s) (inv : ShmInv s) {e : ShmEvent P} (calm : Undisturbed s e)
    (step : ShmStep s e t) : ShmSized t := by
  have hsame : ∀ m, s.shm = some m → ∃ m', s.shm = some m' ∧ m.truncated = m'.truncated ∧
      m.shmSize = m'.shmSize ∧ (m'.mutex.IsPlain → m.mutex.IsPlain) :=
    fun m hm => ⟨m, hm, rfl, rfl, id⟩
  cases step with
  | @attach p m hp hshm _ =>
    obtain ⟨-, hinit⟩ := calm
    -- the mutex is initialised, so the size was stored before
    have hsize := (h.initialised m hshm (hinit m hshm)).2
    refine h.move hsame (by decide) (fun _ => ?_) fun q hne => update_of_ne hne _ _
    rw [update_self, hsize, if_pos rfl]
  | fault hp hshm _ => exact h.move hsame (by decide) False.elim fun _ _ => rfl
  | missing hp hshm => exact h.move hsame (by decide) False.elim fun _ _ => rfl
  | @create p hp =>
    have hcreating : (s.pc p).Creating := by rw [hp]; exact trivial
    refine h.create inv hcreating id nofun nofun ?_
    cases hshm : s.shm with
    | none => rfl
    | some m => exact inv.first p hcreating m hshm
  | @truncate p m hp hshm =>
    have hcreating : (s.pc p).Creating := by rw [hp]; exact trivial
    exact h.create (m := { m with truncated := true }) inv hcreating id (fun _ => rfl) nofun
      (inv.first p hcreating m hshm)
  | @size p m hp hshm =>
    have hcreating : (s.pc p).Creating := by rw [hp]; exact trivial
    exact h.create (m := { m with shmSize := true }) inv hcreating id nofun
      (fun _ => ⟨h.truncated p m hshm hp, rfl⟩) (inv.first p hcreating m hshm)
  | @init p m hp hshm =>
    have hcreating : (s.pc p).Creating := by rw [hp]; exact trivial
    have hsized := h.sized p m hshm hp
    have hnone := inv.created hcreating (x := .idle) id
    constructor
    · intro q _ _ (hq : update s.pc p .idle q = .truncated)
      exact absurd (by rw [hq]; exact trivial) (hnone q)
    · intro q _ _ (hq : update s.pc p .idle q = .sized)
      exact absurd (by rw [hq]; exact trivial) (hnone q)
    · intro m' hm' _
      rw [← Option.some.inj hm']
      exact hsized
    · intro q hq
      rcases eq_or_ne q p with rfl | hne
      · exact update_self ..
      · dsimp only at hq ⊢
        rw [update_of_ne hne] at hq ⊢
        exact h.opened q hq
  | @call p _ hp =>
    exact h.move hsame (by simp) (fun _ => h.opened p (by rw [hp]; exact trivial)) fun _ _ => rfl
  | @acquire p _ m _ mutex hp hshm hlock =>
    refine h.move ?_ ?_ (fun _ => h.opened p (by rw [hp]; exact trivial)) fun _ _ => rfl
    · intro m' hm'
      refine ⟨m, hshm, ?_⟩
      rw [← Option.some.inj hm']
      exact ⟨rfl, rfl, ShmMutex.lock_plain hlock⟩
    · split
      · decide
      · decide
  | @giveUp p _ _ hp _ _ _ =>
    exact h.move hsame (by decide) (fun _ => h.opened p (by rw [hp]; exact trivial)) fun _ _ => rfl
  | @recover p m hp hshm =>
    refine h.move ?_ (by decide) (fun _ => h.opened p (by rw [hp]; exact trivial)) fun _ _ => rfl
    intro m' hm'
    refine ⟨m, hshm, ?_⟩
    rw [← Option.some.inj hm']
    exact ⟨rfl, rfl, ShmMutex.consistent_plain⟩
  | @unlock p m hp hshm =>
    -- it stays where it is
    have hidle : update s.pc p .idle = s.pc := by rw [← hp, update_eq_self]
    rw [← hidle]
    refine h.move ?_ (by decide) (fun _ => h.opened p (by rw [hp]; exact trivial)) fun _ _ => rfl
    intro m' hm'
    refine ⟨m, hshm, ?_⟩
    rw [← Option.some.inj hm']
    exact ⟨rfl, rfl, ShmMutex.unlock_plain⟩
  | die _ =>
    refine h.move ?_ (by decide) False.elim fun _ _ => rfl
    intro m' hm'
    obtain ⟨m, hshm, rfl⟩ := Option.map_eq_some_iff.mp hm'
    exact ⟨m, hshm, rfl, rfl, ShmMutex.die_plain⟩

/-- Both invariants hold along a run. -/
theorem ShmRun.inv {es : List (ShmEvent P)} (run : ShmRun s es t) (h : ShmInv s ∧ ShmSized s) :
    ShmInv t ∧ ShmSized t := by
  have hstep : ∀ (s : ShmState P) (e : ShmEvent P) (t : ShmState P), ShmInv s ∧ ShmSized s →
      Undisturbed s e ∧ ShmStep s e t → ShmInv t ∧ ShmSized t :=
    fun _ _ _ hi step => ⟨hi.1.step step.1 step.2, hi.2.step hi.1 step.1 step.2⟩
  exact @Run.invariant _ _ _ _ _ _ (fun s => ShmInv s ∧ ShmSized s) hstep run h

/-! ## The result -/

/-- A mutex that nobody holds is there for the next one. -/
theorem ShmInv.taken (h : ShmInv s) {kind : LockKind} (hp : s.pc p = .calling kind)
    (hidle : ∀ q, s.inside q = false ∧ s.pc q ≠ .recovering) :
    ∃ es t, ShmRun s es t ∧ (es = [.acquire p] ∨ es = [.acquire p, .recover p]) ∧
      t.inside p = true := by
  have hattached : (s.pc p).Attached := by rw [hp]; exact trivial
  cases h.shows with
  | missing _ attached _ => exact absurd hattached (attached p)
  | new _ _ _ attached _ => exact absurd hattached (attached p)
  | free m shm mutex _ _ =>
    rcases mutex with hfree | hdead
    · have hlock : m.mutex.lock p = some (0, .held p) := by rw [hfree]; rfl
      exact ⟨[.acquire p], _, .cons ⟨trivial, .acquire hp shm hlock⟩ (.nil _), .inl rfl,
        by simp⟩
    · have hlock : m.mutex.lock p = some (eOwnerDead, .inconsistent p) := by rw [hdead]; rfl
      have hrecovering : update s.pc p (if eOwnerDead = eOwnerDead then .recovering else .idle) p =
          ShmPc.recovering := by rw [update_self, if_pos rfl]
      exact ⟨[.acquire p, .recover p], _, .cons ⟨trivial, .acquire hp shm hlock⟩
        (.cons ⟨trivial, .recover hrecovering rfl⟩ (.nil _)), .inr rfl, by simp⟩
  | held m o _ _ _ inside =>
    have hin := (inside o).mpr rfl
    rw [(hidle o).1] at hin
    cases hin
  | recovering m o _ _ recovering _ => exact absurd ((recovering o).mpr rfl) (hidle o).2

/-- Whatever the processes do and wherever they die, as long as none looks for the memory
between the beginning and the end of its creation: `vtpCreateLockShm` returns OK, two
processes are never inside at once, the mutex never becomes unrecoverable, and when nobody
holds it a process that calls gets it, from a dead owner too. -/
theorem shared_lock_safe {es : List (ShmEvent P)} {s : ShmState P}
    (run : ShmRun (ShmState.start P) es s) :
    (∀ p, (s.pc p).Attached → s.opened p = some ok) ∧
      (∀ p q, s.inside p = true → s.inside q = true → p = q) ∧
      (∀ m, s.shm = some m → m.mutex ≠ .notRecoverable) ∧
      ∀ p kind, s.pc p = .calling kind → (∀ q, s.inside q = false ∧ s.pc q ≠ .recovering) →
        ∃ es' t, ShmRun s es' t ∧ (es' = [.acquire p] ∨ es' = [.acquire p, .recover p]) ∧
          t.inside p = true := by
  obtain ⟨h, hsized⟩ := ShmRun.inv run ⟨ShmInv.start, ShmSized.start⟩
  refine ⟨hsized.opened, ?_, ?_, fun p kind hp hidle => h.taken hp hidle⟩
  · intro p q hp hq
    cases h.shows with
    | missing _ _ inside => rw [inside p] at hp; cases hp
    | new _ _ _ _ inside => rw [inside p] at hp; cases hp
    | free _ _ _ _ inside => rw [inside p] at hp; cases hp
    | held _ o _ _ _ inside => exact ((inside p).mp hp).trans ((inside q).mp hq).symm
    | recovering _ _ _ _ _ inside => rw [inside p] at hp; cases hp
  · intro m hm hlost
    cases h.shows with
    | missing shm _ _ => rw [shm] at hm; cases hm
    | new m' shm mutex _ _ =>
      rw [shm, Option.some.injEq] at hm
      rw [hm, hlost] at mutex
      cases mutex
    | free m' shm mutex _ _ =>
      rw [shm, Option.some.injEq] at hm
      rw [hm, hlost] at mutex
      rcases mutex with h | h
      · cases h
      · cases h
    | held m' o shm mutex _ _ =>
      rw [shm, Option.some.injEq] at hm
      rw [hm, hlost] at mutex
      cases mutex
    | recovering m' o shm mutex _ _ =>
      rw [shm, Option.some.injEq] at hm
      rw [hm, hlost] at mutex
      cases mutex

end

/-- The first process dies with the lock, and the second one gets it. -/
theorem shared_lock_safe_dead :
    ∃ (s : ShmState Bool) (es' : List (ShmEvent Bool)) (t : ShmState Bool),
      ShmRun (ShmState.start Bool)
        [.look false, .create false, .truncate false, .size false, .init false, .look true,
          .call false .lock, .acquire false, .die false, .call true .tryLock] s ∧
        ShmRun s es' t ∧ t.inside true = true := by
  have hlook : Undisturbed (ShmState.start Bool) (.look false) :=
    ⟨fun _ => id, fun _ hm => by cases hm⟩
  have hrun : ∃ s : ShmState Bool, ShmRun (ShmState.start Bool)
      [.look false, .create false, .truncate false, .size false, .init false, .look true,
        .call false .lock, .acquire false, .die false, .call true .tryLock] s ∧
      s.pc true = .calling .tryLock ∧ ∀ q, s.inside q = false ∧ s.pc q ≠ .recovering :=
    ⟨_, .cons ⟨hlook, .missing rfl rfl⟩ <| .cons ⟨trivial, .create rfl⟩ <|
      .cons ⟨trivial, .truncate rfl rfl⟩ <| .cons ⟨trivial, .size rfl rfl⟩ <|
      .cons ⟨trivial, .init rfl rfl⟩ <|
      .cons ⟨⟨Bool.forall_bool.mpr ⟨id, id⟩, fun _ hm => by cases hm; exact id⟩,
        .attach rfl rfl rfl⟩ <|
      .cons ⟨trivial, .call rfl⟩ <| .cons ⟨trivial, .acquire rfl rfl rfl⟩ <|
      .cons ⟨trivial, .die (by decide)⟩ <| .cons ⟨trivial, .call rfl⟩ (.nil _), rfl, by decide⟩
  obtain ⟨s, run, hcalling, hidle⟩ := hrun
  obtain ⟨es', t, hnext, -, hinside⟩ := (shared_lock_safe run).2.2.2 true .tryLock hcalling hidle
  exact ⟨s, es', t, run, hnext, hinside⟩

/-- A process that looks for the memory before the mutex is initialised is told that all is
well, can get the lock, and loses it to the initialisation. -/
theorem creation_disturbed :
    ∃ s : ShmState Bool, Run ShmStep (ShmState.start Bool)
      [.look false, .create false, .truncate false, .size false, .look true, .call true .lock,
        .acquire true, .init false, .call false .lock, .acquire false] s ∧
      s.opened true = some ok ∧ s.inside false = true ∧ s.inside true = true :=
  ⟨_, .cons (.missing rfl rfl) <| .cons (.create rfl) <| .cons (.truncate rfl rfl) <|
    .cons (.size rfl rfl) <| .cons (.attach rfl rfl rfl) <| .cons (.call rfl) <|
    .cons (.acquire rfl rfl rfl) <| .cons (.init rfl rfl) <| .cons (.call rfl) <|
    .cons (.acquire rfl rfl rfl) (.nil _), rfl, rfl, rfl⟩

end VtpStreaming
