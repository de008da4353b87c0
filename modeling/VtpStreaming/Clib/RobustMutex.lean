import Mathlib.Logic.Basic

/-!
# A robust mutex

A mutex that processes share, of the robust kind: free, held by a live thread, or left
locked by one that has died. A call either changes it at once or not at all, and what it
returns is the error code of POSIX.
-/

namespace Clib

/-! ## Error codes -/

def ePerm : Int := 1
def eAgain : Int := 11
def eBusy : Int := 16
def eInval : Int := 22
def eTimedOut : Int := 110
def eOwnerDead : Int := 130

inductive RobustMutex (T : Type)
  | free
  | held (owner : T)
  | ownerDead
deriving DecidableEq

namespace RobustMutex

variable {T : Type} {self : T} {m : RobustMutex T}

/-! ## Whose lock it is -/

/-- A live thread other than `self` holds the lock. -/
def HeldByOther (self : T) : RobustMutex T → Prop
  | .held o => o ≠ self
  | _ => False

theorem cases_owner (self : T) (m : RobustMutex T) :
    m = .free ∨ m = .ownerDead ∨ m = .held self ∨ HeldByOther self m := by
  cases m with
  | free => exact .inl rfl
  | ownerDead => exact .inr (.inl rfl)
  | held o =>
    rcases eq_or_ne o self with rfl | hne
    · exact .inr (.inr (.inl rfl))
    · exact .inr (.inr (.inr hne))

theorem HeldByOther.held (h : HeldByOther self m) : ∃ o, o ≠ self ∧ m = .held o := by
  cases m with
  | held o => exact ⟨o, h, rfl⟩
  | free | ownerDead => exact h.elim

variable [DecidableEq T]

instance : DecidablePred (HeldByOther self)
  | .held o => inferInstanceAs (Decidable (o ≠ self))
  | .free | .ownerDead => inferInstanceAs (Decidable False)

/-! ## Calls -/

/-- `pthread_mutex_trylock`. A thread that takes over the lock of a dead owner holds it. -/
def tryLock (self : T) : RobustMutex T → Int × RobustMutex T
  | .free => (0, .held self)
  | .held o => (eBusy, .held o)
  | .ownerDead => (eOwnerDead, .held self)

/-- `pthread_mutex_unlock`, which a robust mutex refuses to a thread that is not the
owner. -/
def unlock (self : T) : RobustMutex T → Int × RobustMutex T
  | .free => (ePerm, .free)
  | .held o => if o = self then (0, .free) else (ePerm, .held o)
  | .ownerDead => (ePerm, .ownerDead)

theorem unlock_own (self : T) : (held self).unlock self = (0, .free) := if_pos rfl

theorem unlock_refused (h : m ≠ .held self) : m.unlock self = (ePerm, m) := by
  cases m with
  | held o => exact if_neg fun (heq : o = self) => h (congrArg held heq)
  | free | ownerDead => rfl

/-- `pthread_mutex_timedlock`, on the mutex as it is when the call returns: at the moment
it can be taken, or else at the time-out. -/
def timedLock (self : T) : RobustMutex T → Int × RobustMutex T
  | .free => (0, .held self)
  | .held o => (eTimedOut, .held o)
  | .ownerDead => (eOwnerDead, .held self)

/-! ## The other threads -/

/-- What a thread does: it takes the lock, gives it back, or dies. -/
inductive Op (T : Type)
  | lock (t : T)
  | unlock (t : T)
  | die (t : T)

def Op.thread : Op T → T
  | .lock t | .unlock t | .die t => t

/-- A lock that is held makes the others wait, so an attempt to take it changes nothing. -/
def Op.apply (m : RobustMutex T) : Op T → RobustMutex T
  | .lock t => match m with
    | .free | .ownerDead => .held t
    | .held o => .held o
  | .unlock t => if m = .held t then .free else m
  | .die t => if m = .held t then .ownerDead else m

def applyAll (m : RobustMutex T) (ops : List (Op T)) : RobustMutex T := ops.foldl Op.apply m

/-- What a thread does leaves the lock of another one alone. -/
theorem apply_held {o : T} {op : Op T} (h : op.thread ≠ o) : op.apply (.held o) = .held o := by
  cases op with
  | lock t => rfl
  | unlock t | die t =>
    have hne : (held o : RobustMutex T) ≠ .held t := fun heq => h (held.inj heq).symm
    exact if_neg hne

/-- A lock that none of the threads owns stays as it is. -/
theorem applyAll_held {o : T} {ops : List (Op T)} (h : ∀ op ∈ ops, op.thread ≠ o) :
    applyAll (.held o) ops = .held o := by
  induction ops with
  | nil => rfl
  | cons op ops ih =>
    rw [List.forall_mem_cons] at h
    obtain ⟨hop, hops⟩ := h
    have hfirst := apply_held hop
    rw [applyAll, List.foldl_cons, hfirst]
    exact ih hops

/-- No thread can make another one the owner. -/
theorem apply_not_held {o : T} {op : Op T} (hop : op.thread ≠ o) (h : m ≠ .held o) :
    op.apply m ≠ .held o := by
  cases op with
  | lock t =>
    cases m with
    | held o' => exact h
    | free | ownerDead => exact fun heq => hop (held.inj heq)
  | unlock t =>
    rw [Op.apply]
    split
    · nofun
    · exact h
  | die t =>
    rw [Op.apply]
    split
    · nofun
    · exact h

theorem applyAll_not_held {o : T} {ops : List (Op T)} (hops : ∀ op ∈ ops, op.thread ≠ o)
    (h : m ≠ .held o) : applyAll m ops ≠ .held o := by
  induction ops generalizing m with
  | nil => exact h
  | cons op ops ih =>
    rw [List.forall_mem_cons] at hops
    exact ih hops.2 (apply_not_held hops.1 h)

end RobustMutex

end Clib
