import VtpStreaming.Clib.BusRecord
import VtpStreaming.RocFifo

/-!
# User events that fail

`vtp/vtpRocLib.c`, `vtpRocEvioWriteUserEvent`, from its call to its return. The firmware
takes words from the FIFO as a schedule says. All writes are logged.
-/

namespace VtpStreaming

open Clib BusProg

/-- The writes of a call, in order. -/
abbrev Writes := List (RocPort × Word)

/-- The firmware takes `drain k` words before access `k`, or all there are. -/
def drainBy (drain : Nat → Nat) (k : Nat) (d : Logged RocPort AsyncFifo) :
    Logged RocPort AsyncFifo :=
  { d with dev := { d.dev with level := d.dev.level - drain k } }

/-- The call before its access `n`, from a FIFO with `level` words. -/
def userEventRun (lib : VtpLib) (level : Fin 513) (rocid : Word) (buf : Nat → Word)
    (drain : Nat → Nat) : Nat → Logged RocPort AsyncFifo × RocProg :=
  scheduled asyncBus.logged flowBody (drainBy drain)
    (⟨⟨level.val, rocid, false⟩, []⟩, vtpRocEvioWriteUserEvent lib buf)

/-- No length and no word of an event. -/
def NothingSent (ws : Writes) : Prop :=
  ∀ x ∈ ws, x.1 ≠ .cpuAsyncEventLen ∧ x.1 ≠ .cpuAsyncEventData

/-- The length is out. -/
def Published (ws : Writes) : Prop := ∃ x, (RocPort.cpuAsyncEventLen, x) ∈ ws

/-- What a write makes of the lock. -/
def lockAfter (held : Bool) (x : RocPort × Word) : Bool :=
  match x.1 with
  | .vlock => true
  | .vunlock => false
  | .cpuAsyncEventLen | .cpuAsyncEventData => held

def lockHeld (ws : Writes) : Bool := ws.foldl lockAfter false

section

variable (lib : VtpLib) (level : Fin 513) (rocid : Word) (buf : Nat → Word) (drain : Nat → Nat)

/-- A call that returns `ERROR` has sent nothing and has given the lock back. -/
def FailsCleanly : Prop :=
  ∀ n, (userEventRun lib level rocid buf drain n).2 = .ret error →
    NothingSent (userEventRun lib level rocid buf drain n).1.written ∧
      lockHeld (userEventRun lib level rocid buf drain n).1.written = false

/-- Access `n` looks at the full bit between two bursts, and the FIFO is full. -/
def FindsFull (n : Nat) : Prop :=
  ∃ buf' jj rem, (userEventRun lib level rocid buf drain n).2 = .loop (.checkFull buf' jj rem) ∧
    (userEventRun lib level rocid buf drain n).1.dev.level - drain n = 512

end

/-! ## The full bit -/

theorem full_bit_iff {level : Nat} (h : level ≤ 512) :
    fifoStatus level &&& vtpRocDataFifoFull ≠ 0 ↔ level = 512 := by
  constructor
  · intro hbit
    by_contra hne
    apply hbit
    have hlt : level < 2 ^ 31 := by omega
    have hstatus : fifoStatus level = BitVec.ofNat 32 level := by
      rw [fifoStatus, if_neg hne, BitVec.zero_or]
    have hpow : vtpRocDataFifoFull.toNat = 2 ^ 31 := rfl
    apply BitVec.eq_of_toNat_eq
    rw [hstatus, BitVec.toNat_and, hpow, BitVec.toNat_ofNat, Nat.mod_eq_of_lt (by omega)]
    apply Nat.eq_of_testBit_eq
    intro i
    rw [Nat.testBit_and, Nat.testBit_two_pow]
    rcases eq_or_ne 31 i with rfl | hi
    · rw [Nat.testBit_lt_two_pow hlt]
      rfl
    · rw [decide_eq_false hi, Bool.and_false]
      exact (Nat.zero_testBit i).symm
  · rintro rfl hclear
    exact full_bit hclear rfl

/-! ## Writes -/

theorem lockHeld_append (ws : Writes) (x : RocPort × Word) :
    lockHeld (ws ++ [x]) = lockAfter (lockHeld ws) x := by
  rw [lockHeld, List.foldl_append]
  rfl

theorem NothingSent.append {ws : Writes} {x : RocPort × Word} (h : NothingSent ws)
    (hlen : x.1 ≠ .cpuAsyncEventLen) (hdata : x.1 ≠ .cpuAsyncEventData) :
    NothingSent (ws ++ [x]) := by
  intro y hy
  rcases List.mem_append.1 hy with hold | hnew
  · exact h y hold
  · rw [List.mem_singleton.1 hnew]
    exact ⟨hlen, hdata⟩

theorem Published.append {ws : Writes} (h : Published ws) (x : RocPort × Word) :
    Published (ws ++ [x]) := by
  obtain ⟨len, hlen⟩ := h
  exact ⟨len, List.mem_append_left _ hlen⟩

/-- The lock is taken and nothing is out. -/
def Waiting (ws : Writes) : Prop := NothingSent ws ∧ lockHeld ws = true

/-- The lock is taken and the length is out. -/
def Sending (ws : Writes) : Prop := Published ws ∧ lockHeld ws = true

theorem waiting_lock : Waiting ([] ++ [(.vlock, 0)]) := by
  refine ⟨NothingSent.append ?_ (by decide) (by decide), rfl⟩
  exact fun x hx => absurd hx List.not_mem_nil

theorem Waiting.publish {ws : Writes} (h : Waiting ws) (len : Word) :
    Sending (ws ++ [(.cpuAsyncEventLen, len)]) := by
  refine ⟨⟨len, by simp⟩, ?_⟩
  rw [lockHeld_append]
  exact h.2

theorem Sending.data {ws : Writes} (h : Sending ws) (x : Word) :
    Sending (ws ++ [(.cpuAsyncEventData, x)]) := by
  refine ⟨h.1.append _, ?_⟩
  rw [lockHeld_append]
  exact h.2

theorem lockHeld_unlock (ws : Writes) : lockHeld (ws ++ [(.vunlock, 0)]) = false := by
  rw [lockHeld_append]
  rfl

/-! ## The call -/

/-- What holds at each look at the status. -/
def EventInv : FlowPoint → Logged RocPort AsyncFifo → Prop
  | .entryPoll _, d => Waiting d.written
  | .checkFull .., d => Sending d.written
  | .takeAvail .., d => Sending d.written

section Call

variable {Q : Int → Writes → Prop} {P R : Writes → Prop} {d : Logged RocPort AsyncFifo}

/-- The program keeps the phases of an event from here on, and returns with `Q`. -/
abbrev Proceeds (Q : Int → Writes → Prop) (p : RocProg) (d : Logged RocPort AsyncFifo) : Prop :=
  Wp asyncBus.logged (Logged.Moves Drains) (fun _ _ _ => True) EventInv
    (fun code d => Q code d.written) p d

theorem proceeds_ret {code : Int} (h : Q code d.written) : Proceeds Q (.ret code) d := by
  rintro d' ⟨-, hsame⟩
  show Q code d'.written
  rwa [hsame]

theorem proceeds_read {r : RocReg} {k : Word → RocProg} (h : P d.written)
    (next : ∀ v d', P d'.written → Proceeds Q (k v) d') : Proceeds Q (.read r k) d := by
  rintro d' ⟨-, hsame⟩
  apply next
  show P d'.written
  rwa [hsame]

theorem proceeds_write {w : RocPort} {x : Word} {k : RocProg} (h : P d.written)
    (hstep : ∀ ws, P ws → R (ws ++ [(w, x)]))
    (next : ∀ d', R d'.written → Proceeds Q k d') : Proceeds Q (.write w x k) d := by
  rintro d' ⟨-, hsame⟩
  refine ⟨trivial, next _ (hstep d'.written ?_)⟩
  rwa [hsame]

theorem proceeds_data {xs : List Word} {k : RocProg} (h : Sending d.written)
    (next : ∀ d', Sending d'.written → Proceeds Q k d') :
    Proceeds Q (.writeAll .cpuAsyncEventData xs k) d := by
  apply Wp.writeAll fun _ d => Sending d.written
  · rintro _ a b ha ⟨-, hsame⟩
    rwa [hsame]
  · exact fun x _ a ha => ⟨trivial, ha.data x⟩
  · exact next
  · exact h

theorem recorded_status (k : Word → RocProg) (d : Logged RocPort AsyncFifo) :
    access asyncBus.logged (d, .read .cpuAsyncEventStatus k) = (d, k (fifoStatus d.dev.level)) :=
  rfl

theorem proceeds_loop {l : FlowPoint} (h : ∀ d', d'.written = d.written → EventInv l d') :
    Proceeds Q (.loop l) d := fun d' hmove => h d' hmove.2

variable (hearly : ∀ ws, NothingSent ws → lockHeld ws = false → Q error ws)
  (hok : ∀ ws, lockHeld ws = false → Q ok ws)

include hok in
/-- The lock goes back, and the call returns `OK`. -/
theorem proceeds_done (h : Sending d.written) :
    Proceeds Q (.write .vunlock 0 (.ret ok)) d :=
  proceeds_write (R := fun ws => lockHeld ws = false) h (fun ws _ => lockHeld_unlock ws)
    fun _ h' => proceeds_ret (hok _ h')

include hearly hok in
theorem proceeds_user (lib : VtpLib) (buf : Nat → Word) (h : d.written = []) :
    Proceeds Q (vtpRocEvioWriteUserEvent lib buf) d := by
  have hempty : Q error d.written := by
    rw [h]
    exact hearly [] (fun x hx => absurd hx List.not_mem_nil) rfl
  rw [vtpRocEvioWriteUserEvent]
  split
  · exact proceeds_ret hempty
  split
  · exact proceeds_ret hempty
  refine proceeds_write (P := fun ws => ws = []) (R := Waiting) h ?_ fun a ha => ?_
  · rintro ws rfl
    exact waiting_lock
  split
  · refine proceeds_loop fun b hb => ?_
    show Waiting b.written
    rwa [hb]
  · refine proceeds_read (P := Waiting) ha fun rocid b hb => ?_
    refine proceeds_write (P := Waiting) (R := Sending) hb (fun ws hws => hws.publish _) fun c hc => ?_
    refine proceeds_data hc fun e he => ?_
    exact proceeds_data he fun g hg => proceeds_done hok hg

include hok in
theorem proceeds_burst {buf : Nat → Word} {jj : Nat} {rem avail : Word} (h : Sending d.written) :
    Proceeds Q (burst buf jj rem avail) d := by
  refine proceeds_data h fun a ha => ?_
  split
  · refine proceeds_loop fun b hb => ?_
    show Sending b.written
    rwa [hb]
  · exact proceeds_done hok ha

include hearly hok in
/-- One round after each look at the status. Only the look at the full bit may return an
error with an event begun. -/
theorem proceeds_body {l : FlowPoint} (inv : EventInv l d) (hlevel : d.dev.level ≤ 512)
    (hfull : ∀ buf jj rem, l = .checkFull buf jj rem → d.dev.level = 512 →
      ∀ ws, lockHeld ws = false → Q error ws) :
    Proceeds Q (access asyncBus.logged (d, flowBody l)).2
      (access asyncBus.logged (d, flowBody l)).1 := by
  cases l with
  | entryPoll buf =>
    have hwaiting : Waiting d.written := inv
    show Proceeds Q (if 500 < (fifoStatus d.dev.level &&& fifoLevelMask).toNat then _ else _) d
    split
    · refine proceeds_write (P := Waiting) (R := fun ws => NothingSent ws ∧ lockHeld ws = false)
        hwaiting ?_ fun a ha => proceeds_ret (hearly _ ha.1 ha.2)
      intro ws hws
      exact ⟨hws.1.append (by decide) (by decide), lockHeld_unlock ws⟩
    · refine proceeds_read (P := Waiting) hwaiting fun rocid a ha => ?_
      refine proceeds_write (P := Waiting) (R := Sending) ha (fun ws hws => hws.publish _)
        fun b hb => ?_
      refine proceeds_data hb fun c hc => ?_
      refine proceeds_data hc fun e he => ?_
      refine proceeds_loop fun g hg => ?_
      show Sending g.written
      rwa [hg]
  | checkFull buf jj rem =>
    have hsending : Sending d.written := inv
    show Proceeds Q (if fifoStatus d.dev.level &&& vtpRocDataFifoFull ≠ 0 then _ else _) d
    split
    · rename_i hbit
      have hnow := hfull buf jj rem rfl ((full_bit_iff hlevel).1 hbit)
      exact proceeds_write (P := Sending) (R := fun ws => lockHeld ws = false) hsending
        (fun ws _ => lockHeld_unlock ws) fun a ha => proceeds_ret (hnow _ ha)
    · refine proceeds_loop fun a ha => ?_
      show Sending a.written
      rwa [ha]
  | takeAvail buf jj rem =>
    have hsending : Sending d.written := inv
    rw [flowBody, recorded_status]
    dsimp only
    generalize burstLen (fifoStatus d.dev.level) rem = avail
    exact proceeds_burst hok hsending

end Call

/-! ## Runs -/

section Runs

variable (lib : VtpLib) (level : Fin 513) (rocid : Word) (buf : Nat → Word) (drain : Nat → Nat)

theorem moves_drainBy (k : Nat) (d : Logged RocPort AsyncFifo) :
    Logged.Moves Drains d (drainBy drain k d) := ⟨⟨Nat.sub_le _ _, rfl, rfl⟩, rfl⟩

theorem moves_refl (d : Logged RocPort AsyncFifo) : Logged.Moves Drains d d :=
  ⟨Drains.refl d.dev, rfl⟩

theorem moves_trans (a b c : Logged RocPort AsyncFifo) (hab : Logged.Moves Drains a b)
    (hbc : Logged.Moves Drains b c) : Logged.Moves Drains a c :=
  ⟨hab.1.trans hbc.1, hbc.2.trans hab.2⟩

theorem userEventRun_level (n : Nat) :
    (userEventRun lib level rocid buf drain n).1.dev.level ≤ 512 := by
  let P (d : Logged RocPort AsyncFifo) : Prop := d.dev.level ≤ 512
  have hmove : ∀ k d, P d → P (drainBy drain k d) := fun k d hd => (Nat.sub_le _ _).trans hd
  have hread : ∀ d r, P d → P (asyncBus.logged.read d r).2 := by
    intro d r hd
    cases r
    all_goals exact hd
  have hwrite : ∀ d w x, P d → P (asyncBus.logged.write d w x) := by
    intro d w x hd
    cases w with
    | cpuAsyncEventData => exact push_level hd x
    | vlock => exact hd
    | vunlock => exact hd
    | cpuAsyncEventLen => exact hd
  have hstart : P (userEventRun lib level rocid buf drain 0).1 := by
    have hlt := level.isLt
    show level.val ≤ 512
    omega
  have hall := scheduled_invariant hmove hread hwrite hstart n
  rwa [Nat.zero_add] at hall

/-- The run lemma. Errors with an event begun come from the looks that find the FIFO full. -/
theorem userEventRun_proceeds (Q : Int → Writes → Prop) (n : Nat)
    (hearly : ∀ ws, NothingSent ws → lockHeld ws = false → Q error ws)
    (hok : ∀ ws, lockHeld ws = false → Q ok ws)
    (hfull : ∀ k < n, FindsFull lib level rocid buf drain k →
      ∀ ws, lockHeld ws = false → Q error ws) :
    Proceeds Q (userEventRun lib level rocid buf drain n).2
      (userEventRun lib level rocid buf drain n).1 := by
  apply Wp.scheduled moves_refl moves_trans (moves_drainBy drain)
  · intro k hk l hl inv
    have hlevel := userEventRun_level lib level rocid buf drain k
    refine proceeds_body hearly hok inv ((Nat.sub_le _ _).trans hlevel) ?_
    rintro buf' jj rem rfl hnow
    exact hfull k hk ⟨buf', jj, rem, hl, hnow⟩
  · exact proceeds_user hearly hok lib buf rfl

/-- However the call ends, it gives the lock back. -/
theorem userEventRun_unlocks {n : Nat} {code : Int}
    (hret : (userEventRun lib level rocid buf drain n).2 = .ret code) :
    lockHeld (userEventRun lib level rocid buf drain n).1.written = false := by
  have hproceeds := userEventRun_proceeds lib level rocid buf drain (fun _ ws => lockHeld ws = false) n
    (fun _ _ h => h) (fun _ h => h) (fun _ _ _ _ h => h)
  rw [hret] at hproceeds
  exact hproceeds _ (moves_refl _)

/-- At the look at the full bit the length is out. -/
theorem findsFull_published {n : Nat} (h : FindsFull lib level rocid buf drain n) :
    Published (userEventRun lib level rocid buf drain n).1.written := by
  obtain ⟨buf', jj, rem, hloop, -⟩ := h
  have hproceeds := userEventRun_proceeds lib level rocid buf drain (fun _ _ => True) n
    (fun _ _ _ => trivial) (fun _ _ => trivial) (fun _ _ _ _ _ => trivial)
  rw [hloop] at hproceeds
  exact (hproceeds _ (moves_refl _)).1

/-- Two accesses later the call has returned an error. -/
theorem findsFull_returns {n : Nat} (h : FindsFull lib level rocid buf drain n) :
    (userEventRun lib level rocid buf drain (n + 2)).2 = .ret error := by
  obtain ⟨buf', jj, rem, hloop, hlevel⟩ := h
  have hstep : (userEventRun lib level rocid buf drain (n + 1)).2 =
      .write .vunlock 0 (.ret error) := by
    rw [userEventRun, scheduled, ← userEventRun]
    generalize userEventRun lib level rocid buf drain n = s at hloop hlevel
    obtain ⟨d, p⟩ := s
    dsimp only at hloop hlevel
    subst hloop
    show (if fifoStatus (d.dev.level - drain n) &&& vtpRocDataFifoFull ≠ 0 then _ else _) = _
    rw [hlevel, if_pos (by decide)]
  rw [userEventRun, scheduled, ← userEventRun]
  generalize userEventRun lib level rocid buf drain (n + 1) = s at hstep
  obtain ⟨d, p⟩ := s
  dsimp only at hstep
  subst hstep
  rfl

end Runs

/-- A failed event has sent nothing exactly if no look between two bursts finds the FIFO
full. -/
theorem user_event_failure_iff (lib : VtpLib) (level : Fin 513) (rocid : Word) (buf : Nat → Word)
    (drain : Nat → Nat) :
    FailsCleanly lib level rocid buf drain ↔ ∀ n, ¬ FindsFull lib level rocid buf drain n := by
  constructor
  · intro hclean n hfull
    obtain ⟨len, hlen⟩ := findsFull_published lib level rocid buf drain hfull
    have hkeep : ∀ k d, (drainBy drain k d).written = d.written := fun _ _ => rfl
    have hlater := scheduled_written hkeep hlen 2
    have hnothing := (hclean (n + 2) (findsFull_returns lib level rocid buf drain hfull)).1
    exact (hnothing _ hlater).1 rfl
  · intro hnever n hret
    have hproceeds := userEventRun_proceeds lib level rocid buf drain
      (fun code ws => code = error → NothingSent ws ∧ lockHeld ws = false) n
      (fun _ hnothing hlock _ => ⟨hnothing, hlock⟩) (fun _ _ h => absurd h (by decide))
      (fun k _ hfull => absurd hfull (hnever k))
    rw [hret] at hproceeds
    exact hproceeds _ (moves_refl _) rfl

/-- At level 501 an event of 503 words is admitted. The header and the length word fill the
FIFO, and the call gives up with its length and eleven words out. -/
theorem user_event_cut_off :
    (userEventRun rocLib 501 5#32 (userBank 502) (fun _ => 0) 17).2 = .ret error ∧
      (.cpuAsyncEventLen, 513#32) ∈
        (userEventRun rocLib 501 5#32 (userBank 502) (fun _ => 0) 17).1.written ∧
      ¬ FailsCleanly rocLib 501 5#32 (userBank 502) (fun _ => 0) := by
  have hret : (userEventRun rocLib 501 5#32 (userBank 502) (fun _ => 0) 17).2 = .ret error := rfl
  have hlen : (.cpuAsyncEventLen, 513#32) ∈
      (userEventRun rocLib 501 5#32 (userBank 502) (fun _ => 0) 17).1.written := by decide
  refine ⟨hret, hlen, fun hclean => ?_⟩
  exact ((hclean 17 hret).1 _ hlen).1 rfl

end VtpStreaming
