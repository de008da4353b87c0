import VtpStreaming.Clib.BusProg

/-!
# Runs that log their writes, and scheduled ones

A device that keeps the writes that it has seen, and the run of a program against a device
that moves in a given way before each access.
-/

namespace Clib

variable {R W L δ : Type}

/-- A device with the writes to it, in order. -/
structure Logged (W δ : Type) where
  dev : δ
  written : List (W × Word)

/-- The bus of a device, with the writes logged. -/
def Bus.logged (bus : Bus R W δ) : Bus R W (Logged W δ) where
  read d r := ((bus.read d.dev r).1, { d with dev := (bus.read d.dev r).2 })
  write d w x := { dev := bus.write d.dev w x, written := d.written ++ [(w, x)] }

/-- The device moves, the record stays. -/
def Logged.Moves (rely : δ → δ → Prop) (d d' : Logged W δ) : Prop :=
  rely d.dev d'.dev ∧ d'.written = d.written

/-- The state before access `n`. The device moves by `env k` before access `k`. -/
def BusProg.scheduled (bus : Bus R W δ) (body : L → BusProg R W L) (env : Nat → δ → δ)
    (s : δ × BusProg R W L) : Nat → δ × BusProg R W L
  | 0 => s
  | n + 1 =>
      let (d, p) := scheduled bus body env s n
      BusProg.cpuStep bus body (env n d, p)

section Scheduled

variable {bus : Bus R W δ} {rely : δ → δ → Prop} {G : δ → W → Word → Prop} {I : L → δ → Prop}
  {Q : Int → δ → Prop} {body : L → BusProg R W L} {env : Nat → δ → δ} {s : δ × BusProg R W L}

/-- A property of the device that its moves and the accesses keep. -/
theorem BusProg.scheduled_invariant {P : δ → Prop} (hmove : ∀ k d, P d → P (env k d))
    (hread : ∀ d r, P d → P (bus.read d r).2) (hwrite : ∀ d w x, P d → P (bus.write d w x))
    {k : Nat} (start : P (BusProg.scheduled bus body env s k).1) (n : Nat) :
    P (BusProg.scheduled bus body env s (k + n)).1 := by
  have haccess : ∀ d (p : BusProg R W L), P d → P (BusProg.access bus (d, p)).1 := by
    intro d p hd
    cases p with
    | ret c => exact hd
    | read r k => exact hread d r hd
    | write w x k => exact hwrite d w x hd
    | loop l => exact hd
  induction n with
  | zero => exact start
  | succ n ih =>
    rw [← Nat.add_assoc, BusProg.scheduled]
    generalize BusProg.scheduled bus body env s (k + n) = t at ih
    obtain ⟨d, p⟩ := t
    cases p with
    | ret c => exact haccess _ (.ret c) (hmove _ d ih)
    | read r k => exact haccess _ (.read r k) (hmove _ d ih)
    | write w x k => exact haccess _ (.write w x k) (hmove _ d ih)
    | loop l => exact haccess _ (body l) (hmove _ d ih)

/-- The precondition of a program holds all along its run, if each loop head that the run
comes to has a correct body there. -/
theorem Wp.scheduled (refl : ∀ a, rely a a) (trans : ∀ a b c, rely a b → rely b c → rely a c)
    (moves : ∀ k d, rely d (env k d)) {n : Nat}
    (loops : ∀ k < n, ∀ l, (BusProg.scheduled bus body env s k).2 = .loop l →
      I l (env k (BusProg.scheduled bus body env s k).1) →
      Wp bus rely G I Q
        (BusProg.access bus (env k (BusProg.scheduled bus body env s k).1, body l)).2
        (BusProg.access bus (env k (BusProg.scheduled bus body env s k).1, body l)).1)
    (h : Wp bus rely G I Q s.2 s.1) :
    Wp bus rely G I Q (BusProg.scheduled bus body env s n).2
      (BusProg.scheduled bus body env s n).1 := by
  induction n with
  | zero => exact h
  | succ n ih =>
    have hn := ih fun k hk => loops k (Nat.lt_succ_of_lt hk)
    exact (hn.stable trans (moves n _)).cpuStep refl (loops n (Nat.lt_succ_self n))

/-- What has been written stays written. -/
theorem BusProg.scheduled_written {env : Nat → Logged W δ → Logged W δ}
    {s : Logged W δ × BusProg R W L} (hmove : ∀ k d, (env k d).written = d.written)
    {x : W × Word} {k : Nat}
    (h : x ∈ (BusProg.scheduled bus.logged body env s k).1.written) (n : Nat) :
    x ∈ (BusProg.scheduled bus.logged body env s (k + n)).1.written := by
  let P (d : Logged W δ) : Prop := x ∈ d.written
  have hread : ∀ d r, P d → P (bus.logged.read d r).2 := fun d r hd => hd
  have hwrite : ∀ d w y, P d → P (bus.logged.write d w y) :=
    fun d w y hd => List.mem_append_left _ hd
  have henv : ∀ k d, P d → P (env k d) := by
    intro k d hd
    show x ∈ (env k d).written
    rwa [hmove]
  exact BusProg.scheduled_invariant henv hread hwrite h n

end Scheduled

end Clib
