import VtpStreaming.Clib.Bytes
import VtpStreaming.Clib.Run

/-!
# Programs that access a device

A routine of a driver is a tree of accesses: it reads a register and goes on
with the value, or writes one, or returns. A loop head is a name whose body is
given separately, so a loop that never ends is a run without end. Between two
accesses the device may move by itself (`rely`).

`Wp` is the weakest precondition of such a program, with an invariant `I` for
each loop head, a guarantee `G` for each write and a postcondition `Q`.
-/

namespace Clib

inductive BusProg (R W L : Type)
  | ret (code : Int)
  | read (r : R) (k : Word → BusProg R W L)
  | write (w : W) (x : Word) (k : BusProg R W L)
  | loop (l : L)

/-- How the device answers an access. -/
structure Bus (R W δ : Type) where
  read : δ → R → Word × δ
  write : δ → W → Word → δ

variable {R W L δ C : Type}

namespace BusProg

/-- Write the words one after the other, then go on with `k`. -/
def writeAll (w : W) : List Word → BusProg R W L → BusProg R W L
  | [], k => k
  | x :: xs, k => .write w x (writeAll w xs k)

/-- One access of a program that does not stand at a loop head. -/
def access (bus : Bus R W δ) : δ × BusProg R W L → δ × BusProg R W L
  | (d, .ret c) => (d, .ret c)
  | (d, .read r k) => ((bus.read d r).2, k (bus.read d r).1)
  | (d, .write w x k) => (bus.write d w x, k)
  | (d, .loop l) => (d, .loop l)

/-- One access of a program. At a loop head it is the first of the body. -/
def cpuStep (bus : Bus R W δ) (body : L → BusProg R W L) :
    δ × BusProg R W L → δ × BusProg R W L
  | (d, .loop l) => access bus (d, body l)
  | c => access bus c

end BusProg

/-- The moves of a driver and its device: the device by itself, the processor,
or the start of a new call after the last one has returned. -/
inductive Move (C : Type)
  | env
  | cpu
  | call (c : C)

/-- One move of the pair. -/
inductive BusStep (bus : Bus R W δ) (body : L → BusProg R W L) (rely : δ → δ → Prop)
    (entry : C → BusProg R W L) : δ × BusProg R W L → Move C → δ × BusProg R W L → Prop
  | env {d d' : δ} {p : BusProg R W L} :
      rely d d' → BusStep bus body rely entry (d, p) .env (d', p)
  | cpu {c : δ × BusProg R W L} :
      BusStep bus body rely entry c .cpu (BusProg.cpuStep bus body c)
  | call {d : δ} {code : Int} {c : C} :
      BusStep bus body rely entry (d, .ret code) (.call c) (d, entry c)

/-! ## Weakest preconditions -/

section Wp

variable (bus : Bus R W δ) (rely : δ → δ → Prop) (G : δ → W → Word → Prop)
  (I : L → δ → Prop) (Q : Int → δ → Prop)

/-- `Wp p d`: from `d`, and whatever the device does in between, every write of
`p` satisfies `G`, `p` reaches a loop head only with `I`, and returns only with
`Q`. -/
def Wp : BusProg R W L → δ → Prop
  | .ret c, d => ∀ d', rely d d' → Q c d'
  | .read r k, d => ∀ d', rely d d' → Wp (k (bus.read d' r).1) (bus.read d' r).2
  | .write w x k, d => ∀ d', rely d d' → G d' w x ∧ Wp k (bus.write d' w x)
  | .loop l, d => ∀ d', rely d d' → I l d'

variable {bus rely G I Q} {body : L → BusProg R W L} {p : BusProg R W L} {d d' : δ}

/-- A move of the device keeps the precondition. -/
theorem Wp.stable (trans : ∀ a b c, rely a b → rely b c → rely a c)
    (h : Wp bus rely G I Q p d) (move : rely d d') : Wp bus rely G I Q p d' := by
  cases p <;> exact fun d'' move' => h d'' (trans _ _ _ move move')

theorem Wp.access (refl : ∀ a, rely a a) (h : Wp bus rely G I Q p d) :
    Wp bus rely G I Q (BusProg.access bus (d, p)).2 (BusProg.access bus (d, p)).1 := by
  cases p with
  | ret c => exact h
  | read r k => exact h d (refl d)
  | write w x k => exact (h d (refl d)).2
  | loop l => exact h

/-- One access keeps the precondition, when the body of the loop head it stands
at is correct from its first access on. -/
theorem Wp.cpuStep (refl : ∀ a, rely a a)
    (loops : ∀ l, p = .loop l → I l d → Wp bus rely G I Q
      (BusProg.access bus (d, body l)).2 (BusProg.access bus (d, body l)).1)
    (h : Wp bus rely G I Q p d) :
    Wp bus rely G I Q (BusProg.cpuStep bus body (d, p)).2
      (BusProg.cpuStep bus body (d, p)).1 := by
  cases p with
  | ret c => exact h
  | read r k => exact h.access refl
  | write w x k => exact h.access refl
  | loop l => exact loops l rfl (h d (refl d))

/-- The processor alone: a run that returns, returns with `Q`. -/
theorem Wp.returns (refl : ∀ a, rely a a)
    (loops : ∀ l d, I l d → Wp bus rely G I Q (body l) d)
    (h : Wp bus rely G I Q p d) (n : Nat) {code : Int}
    (hret : ((BusProg.cpuStep bus body)^[n] (d, p)).2 = .ret code) :
    Q code ((BusProg.cpuStep bus body)^[n] (d, p)).1 := by
  have hall : ∀ m, Wp bus rely G I Q ((BusProg.cpuStep bus body)^[m] (d, p)).2
      ((BusProg.cpuStep bus body)^[m] (d, p)).1 := by
    intro m
    induction m with
    | zero => exact h
    | succ m ih =>
      rw [Function.iterate_succ_apply']
      exact ih.cpuStep refl fun l _ hl => (loops l _ hl).access refl
  have hn := hall n
  rw [hret] at hn
  exact hn _ (refl _)

/-- The rule for a run of words written to one register: `P` counts what is
left to write. -/
theorem Wp.writeAll {w : W} {k : BusProg R W L} (P : List Word → δ → Prop)
    (move : ∀ xs a b, P xs a → rely a b → P xs b)
    (one : ∀ x xs a, P (x :: xs) a → G a w x ∧ P xs (bus.write a w x))
    (last : ∀ a, P [] a → Wp bus rely G I Q k a) {xs : List Word} (h : P xs d) :
    Wp bus rely G I Q (BusProg.writeAll w xs k) d := by
  induction xs generalizing d with
  | nil => exact last d h
  | cons x xs ih =>
    intro d' hmove
    have hnow := one x xs d' (move _ _ _ h hmove)
    exact ⟨hnow.1, ih hnow.2⟩

end Wp

end Clib
