import Mathlib.Data.List.Basic
import Mathlib.Order.Nat

/-!
# Registers in pages

An access reaches a register of the page that the device has selected. The driver keeps
a copy of that page, and selects a page only when its copy differs. Any transfer to the
device can fail.
-/

namespace Clib

variable {P A V : Type}

/-- An access to one register of one page. -/
inductive PageAccess (P A V : Type)
  | write (page : P) (addr : A) (value : V)
  | read (page : P) (addr : A)
deriving DecidableEq

namespace PageAccess

def page : PageAccess P A V → P
  | .write page _ _ => page
  | .read page _ => page

/-- The same access on the page that is selected. -/
def onPage (p : P) : PageAccess P A V → PageAccess P A V
  | .write _ addr value => .write p addr value
  | .read _ addr => .read p addr

@[simp] theorem page_onPage (p : P) (a : PageAccess P A V) : (a.onPage p).page = p := by
  cases a with
  | write page addr value => rfl
  | read page addr => rfl

@[simp] theorem onPage_page (a : PageAccess P A V) : a.onPage a.page = a := by
  cases a with
  | write page addr value => rfl
  | read page addr => rfl

theorem onPage_eq_iff (p : P) (a : PageAccess P A V) : a.onPage p = a ↔ p = a.page := by
  constructor
  · intro h
    rw [← h, page_onPage]
  · intro h
    rw [h, onPage_page]

end PageAccess

/-- The driver's copy, the page of the device, the accesses that the device has
performed and the number of transfers so far. -/
structure Paged (P A V : Type) where
  cached : Option P
  page : P
  performed : List (PageAccess P A V)
  sent : Nat

namespace Paged

section

variable [DecidableEq P] (ok : Nat → Bool)

/-- The copy is stored whether or not the transfer goes through. -/
def select (p : P) (s : Paged P A V) : Paged P A V :=
  if s.cached = some p then s
  else
    { s with
      cached := some p
      page := if ok s.sent then p else s.page
      sent := s.sent + 1 }

def perform (a : PageAccess P A V) (s : Paged P A V) : Paged P A V :=
  { s with
    performed := if ok s.sent then s.performed ++ [a.onPage s.page] else s.performed
    sent := s.sent + 1 }

def access (s : Paged P A V) (a : PageAccess P A V) : Paged P A V :=
  perform ok a (select ok a.page s)

def run (as : List (PageAccess P A V)) (s : Paged P A V) : Paged P A V := as.foldl (access ok) s

end

/-- The copy, if there is one, is the page of the device. -/
def Coherent (s : Paged P A V) : Prop := ∀ p, s.cached = some p → p = s.page

section

variable [DecidableEq P] {ok : Nat → Bool} {s : Paged P A V} {a : PageAccess P A V}

theorem select_cached (p : P) : (select ok p s).cached = some p := by
  rw [select]
  split
  · next h => exact h
  · rfl

theorem select_performed (p : P) : (select ok p s).performed = s.performed := by
  rw [select]
  split
  · rfl
  · rfl

theorem sent_le_select (p : P) : s.sent ≤ (select ok p s).sent := by
  rw [select]
  split
  · exact Nat.le_refl _
  · exact Nat.le_succ _

theorem access_cached : (access ok s a).cached = some a.page := select_cached a.page

theorem access_page : (access ok s a).page = (select ok a.page s).page := rfl

theorem access_sent : (access ok s a).sent = (select ok a.page s).sent + 1 := rfl

theorem access_performed : (access ok s a).performed =
    if ok (select ok a.page s).sent then s.performed ++ [a.onPage (select ok a.page s).page]
    else s.performed := by
  rw [access, perform, select_performed]

theorem sent_lt_access : s.sent < (access ok s a).sent := by
  have hle := @sent_le_select P A V _ ok s a.page
  rw [access_sent]
  omega

theorem sent_le_run (as : List (PageAccess P A V)) (s : Paged P A V) :
    s.sent ≤ (run ok as s).sent := by
  induction as generalizing s with
  | nil => exact Nat.le_refl _
  | cons a as ih => exact sent_lt_access.le.trans (ih (access ok s a))

/-- A device performs one access for each that is asked for, at most. -/
theorem run_extends (as : List (PageAccess P A V)) (s : Paged P A V) :
    ∃ l, (run ok as s).performed = s.performed ++ l ∧ l.length ≤ as.length := by
  induction as generalizing s with
  | nil => exact ⟨[], (List.append_nil _).symm, Nat.le_refl _⟩
  | cons a as ih =>
    obtain ⟨l, hl, hlen⟩ := ih (access ok s a)
    rw [access_performed] at hl
    split at hl
    · refine ⟨_ :: l, hl.trans (List.append_assoc _ _ _), ?_⟩
      exact Nat.succ_le_succ hlen
    · exact ⟨l, hl, hlen.trans (Nat.le_succ _)⟩

/-- The transfers of one selection went through. -/
theorem select_page_of_ok (coherent : s.Coherent) (p : P)
    (hok : ∀ n, s.sent ≤ n → n < (select ok p s).sent → ok n = true) :
    (select ok p s).page = p := by
  rw [select] at hok ⊢
  split
  · next h => exact (coherent p h).symm
  · next h =>
    rw [if_neg h] at hok
    have hsent : ok s.sent = true := hok s.sent (Nat.le_refl _) (Nat.lt_succ_self _)
    simp only [hsent, if_true]

/-- The device is on the page that was asked for, so the transfer went through. -/
theorem select_ok_of_page (coherent : s.Coherent) (first : s.cached = none → ok s.sent = true)
    (p : P) (hpage : (select ok p s).page = p) :
    ∀ n, s.sent ≤ n → n < (select ok p s).sent → ok n = true := by
  intro n hle hlt
  rw [select] at hpage hlt
  split at hlt
  · omega
  · next hne =>
    have hn : n = s.sent := by
      dsimp only at hlt
      omega
    rw [if_neg hne] at hpage
    rw [hn]
    cases hcached : s.cached with
    | none => exact first hcached
    | some q =>
      by_contra hfailed
      have hstale : s.page = p := by simpa [hfailed] using hpage
      rw [hcached, coherent q hcached, hstale] at hne
      exact hne rfl

/-- The access lands where it was meant to. -/
def Landed (ok : Nat → Bool) (s : Paged P A V) (a : PageAccess P A V) : Prop :=
  (access ok s a).performed = s.performed ++ [a] ∧ (access ok s a).page = a.page

theorem landed_iff (coherent : s.Coherent) (first : s.cached = none → ok s.sent = true) :
    Landed ok s a ↔ ∀ n, s.sent ≤ n → n < (access ok s a).sent → ok n = true := by
  constructor
  · rintro ⟨hperformed, hpage⟩
    rw [access_performed] at hperformed
    have hlast : ok (select ok a.page s).sent = true := by
      by_contra hfailed
      rw [if_neg hfailed] at hperformed
      have hlen := congrArg List.length hperformed
      rw [List.length_append, List.length_singleton] at hlen
      omega
    intro n hle hlt
    rw [access_sent] at hlt
    rcases Nat.lt_succ_iff_lt_or_eq.mp hlt with hbefore | rfl
    · exact select_ok_of_page coherent first a.page hpage n hle hbefore
    · exact hlast
  · intro hok
    have hpage : (select ok a.page s).page = a.page :=
      select_page_of_ok coherent a.page fun n hle hlt => hok n hle (by rw [access_sent]; omega)
    have hlast : ok (select ok a.page s).sent = true :=
      hok _ (sent_le_select a.page) (by rw [access_sent]; omega)
    refine ⟨?_, hpage⟩
    rw [access_performed, if_pos hlast, hpage, PageAccess.onPage_page]

theorem Landed.coherent (h : Landed ok s a) : (access ok s a).Coherent := by
  intro p hp
  rw [access_cached] at hp
  rw [h.2]
  exact (Option.some.inj hp).symm

/-- Without a failure the copy stays right. -/
theorem run_coherent (as : List (PageAccess P A V)) {s : Paged P A V} (coherent : s.Coherent)
    (hok : ∀ n, s.sent ≤ n → n < (run ok as s).sent → ok n = true) : (run ok as s).Coherent := by
  induction as generalizing s with
  | nil => exact coherent
  | cons a as ih =>
    have hpage : (select ok a.page s).page = a.page :=
      select_page_of_ok coherent a.page fun n hle hlt => hok n hle (lt_of_lt_of_le hlt
        ((Nat.le_succ _).trans (sent_le_run as (access ok s a))))
    refine ih ?_ fun n hle hlt => hok n (sent_lt_access.le.trans hle) hlt
    intro p hp
    rw [access_cached] at hp
    rw [access_page, hpage]
    exact (Option.some.inj hp).symm

/-- The device performs exactly the accesses that are asked for when every transfer goes
through, and only then. -/
theorem run_exact_iff (as : List (PageAccess P A V)) {s : Paged P A V} (coherent : s.Coherent)
    (first : s.cached = none → ok s.sent = true) :
    (run ok as s).performed = s.performed ++ as ↔
      ∀ n, s.sent ≤ n → n < (run ok as s).sent → ok n = true := by
  induction as generalizing s with
  | nil =>
    refine iff_of_true (List.append_nil _).symm fun n hle hlt => ?_
    exact absurd hlt (Nat.not_lt.mpr hle)
  | cons a as ih =>
    have hnext : (access ok s a).cached = none → ok (access ok s a).sent = true := by
      intro h
      rw [access_cached] at h
      cases h
    have hrun : run ok (a :: as) s = run ok as (access ok s a) := rfl
    rw [hrun]
    constructor
    · intro hperformed
      have hlanded : Landed ok s a := by
        obtain ⟨l, hl, hlen⟩ := @run_extends _ _ _ _ ok as (access ok s a)
        rw [hperformed, access_performed] at hl
        split at hl
        · next hlast =>
          rw [List.append_assoc] at hl
          obtain ⟨hhead, -⟩ := List.cons.inj (List.append_cancel_left hl)
          have hpage := (PageAccess.onPage_eq_iff _ a).mp hhead.symm
          refine ⟨?_, hpage⟩
          rw [access_performed, if_pos hlast, hpage, PageAccess.onPage_page]
        · have hlength := congrArg List.length (List.append_cancel_left hl)
          rw [List.length_cons] at hlength
          omega
      have hrest : (run ok as (access ok s a)).performed = (access ok s a).performed ++ as := by
        rw [hlanded.1, hperformed, List.append_assoc]
        rfl
      have hafter := (ih hlanded.coherent hnext).mp hrest
      intro n hle hlt
      rcases lt_or_ge n (access ok s a).sent with hin | hout
      · exact (landed_iff coherent first).mp hlanded n hle hin
      · exact hafter n hout hlt
    · intro hok
      have hlanded : Landed ok s a := (landed_iff coherent first).mpr fun n hle hlt =>
        hok n hle (lt_of_lt_of_le hlt (sent_le_run as _))
      have hperformed := (ih hlanded.coherent hnext).mpr fun n hle hlt =>
        hok n (sent_lt_access.le.trans hle) hlt
      rw [hperformed, hlanded.1, List.append_assoc]
      rfl

/-- Accesses to the page of the copy select nothing. They reach the page that the device
is on, whichever that is. -/
theorem run_stale {p : P} (hcached : s.cached = some p) (as : List (PageAccess P A V))
    (hpage : ∀ a ∈ as, a.page = p) (hok : ∀ n, s.sent ≤ n → ok n = true) :
    (run ok as s).performed = s.performed ++ as.map (·.onPage s.page) ∧
      (run ok as s).page = s.page ∧ (run ok as s).cached = some p := by
  induction as generalizing s with
  | nil => exact ⟨(List.append_nil _).symm, rfl, hcached⟩
  | cons a as ih =>
    have ha : a.page = p := hpage a List.mem_cons_self
    have hselect : select ok a.page s = s := by rw [select, if_pos (by rw [hcached, ha])]
    have hstep : (access ok s a).performed = s.performed ++ [a.onPage s.page] := by
      rw [access_performed, hselect, if_pos (hok _ (Nat.le_refl _))]
    have hstay : (access ok s a).page = s.page := by rw [access_page, hselect]
    obtain ⟨hperformed, hend, hcopy⟩ := ih (s := access ok s a) (by rw [access_cached, ha])
      (fun b hb => hpage b (List.mem_cons_of_mem a hb))
      (fun n hle => hok n (sent_lt_access.le.trans hle))
    have hrun : run ok (a :: as) s = run ok as (access ok s a) := rfl
    rw [hrun]
    refine ⟨?_, hend.trans hstay, hcopy⟩
    rw [hperformed, hstep, hstay, List.append_assoc]
    rfl

end

end Paged

end Clib
