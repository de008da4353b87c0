import VtpStreaming.VtpLib

/-!
# The link check of a run

`vtp/vtpLib.c`, `vtpSerdesCheckLinks`, which `rocGo` calls. The links are polled up to
ten times, and each poll enters the links that it finds up in one mask.

What a poll prints is left out, and so is the pause behind it.
-/

namespace VtpStreaming

open Clib

/-! ## The registers -/

def vtpSerdesCtrlGtReset : Word := 1#32 <<< 0
def vtpSerdesStatusChup : Word := 1#32 <<< 0

/-- `SERDES_REGS`, the registers that the check reads. -/
structure SerdesRegs where
  ctrl : Word
  status : Word

/-- What one poll reads of the links. -/
structure SerdesPoll where
  vxs : Fin 16 → SerdesRegs
  qsfp : Fin 4 → SerdesRegs

/-- Link `i` as the poll numbers the links: the payload ports before the fibers. -/
def SerdesPoll.link (p : SerdesPoll) (i : Fin 20) : SerdesRegs :=
  if h : i.val < 16 then p.vxs ⟨i.val, h⟩ else p.qsfp ⟨i.val - 16, by omega⟩

/-! ## The polls -/

def vtpSerdesMaxTries : Nat := 10

/-- The mask so far, and whether the poll has found no link down. -/
structure LinkScan where
  chmask : Word
  pass : Bool

/-- One link of a poll. -/
def pollLink (p : SerdesPoll) (s : LinkScan) (i : Fin 20) : LinkScan :=
  if (p.link i).ctrl &&& vtpSerdesCtrlGtReset = 0#32 then
    if (p.link i).status &&& vtpSerdesStatusChup = 0#32 then { s with pass := false }
    else { s with chmask := s.chmask ||| (1#32 <<< i.val) }
  else s

def pollLinks (p : SerdesPoll) (chmask : Word) : LinkScan :=
  (List.finRange 20).foldl (pollLink p) ⟨chmask, true⟩

/-- The loop, with `left` polls to go. It ends behind a poll that passes. -/
def pollLoop (readings : Nat → SerdesPoll) : Nat → Nat → Word → Word
  | 0, _, chmask => chmask
  | left + 1, tries, chmask =>
    let s := pollLinks (readings tries) chmask
    if s.pass then s.chmask else pollLoop readings left (tries + 1) s.chmask

def vtpSerdesCheckLinks (lib : VtpLib) (readings : Nat → SerdesPoll) : Int :=
  if lib.checkInit then (pollLoop readings vtpSerdesMaxTries 0 0#32).toInt else error

/-! ## What is asked of the check -/

/-- The link is not held in reset. -/
def SerdesPoll.Enabled (p : SerdesPoll) (i : Fin 20) : Prop :=
  (p.link i).ctrl &&& vtpSerdesCtrlGtReset = 0#32

/-- The channel of the link is up. -/
def SerdesPoll.ChannelUp (p : SerdesPoll) (i : Fin 20) : Prop :=
  (p.link i).status &&& vtpSerdesStatusChup ≠ 0#32

instance (p : SerdesPoll) (i : Fin 20) : Decidable (p.Enabled i) := inferInstanceAs
    (Decidable (_ = _))

instance (p : SerdesPoll) (i : Fin 20) : Decidable (p.ChannelUp i) :=
  inferInstanceAs (Decidable (_ ≠ _))

/-- No enabled link is down. -/
def SerdesPoll.AllUp (p : SerdesPoll) : Prop := ∀ i, p.Enabled i → p.ChannelUp i

instance (p : SerdesPoll) : Decidable p.AllUp := inferInstanceAs (Decidable (∀ _, _))

/-- Bit `i` of the mask for each link that the poll finds enabled and up, and no other. -/
def IsLinkMask (p : SerdesPoll) (chmask : Word) : Prop :=
  ∀ i < 32, chmask.getLsbD i = true ↔ ∃ n : Fin 20, n.val = i ∧ p.Enabled n ∧ p.ChannelUp n

/-- All polls before `k` find a link down, so poll `k` is made. -/
def Polled (readings : Nat → SerdesPoll) (k : Nat) : Prop :=
  k < vtpSerdesMaxTries ∧ ∀ j < k, ¬ (readings j).AllUp

/-- Poll `k` is the one that ends the check with all links up. -/
def PassesAt (readings : Nat → SerdesPoll) (k : Nat) : Prop :=
  Polled readings k ∧ (readings k).AllUp

/-- `ERROR` says that all polls found a link down. Any other result is the mask of the last
poll. -/
structure TellsTruth (lib : VtpLib) (readings : Nat → SerdesPoll) : Prop where
  failed : vtpSerdesCheckLinks lib readings = error ↔
    ∀ k < vtpSerdesMaxTries, ¬ (readings k).AllUp
  passed : ∀ last, PassesAt readings last →
    ∃ chmask : Word, vtpSerdesCheckLinks lib readings = chmask.toInt ∧
      IsLinkMask (readings last) chmask

/-- A poll passes, and no link that an earlier poll has seen up is in reset by then. -/
def SettlesUp (readings : Nat → SerdesPoll) : Prop :=
  ∃ last, PassesAt readings last ∧
    ∀ k < last, ∀ i, (readings k).Enabled i → (readings k).ChannelUp i → (readings last).Enabled i

/-! ## One poll -/

section Poll

variable {p : SerdesPoll}

theorem linkBit_getLsbD (n : Fin 20) {i : Nat} (hi : i < 32) :
    (1#32 <<< n.val).getLsbD i = true ↔ n.val = i := by
  have hn := n.isLt
  rw [BitVec.getLsbD_shiftLeft, BitVec.getLsbD_one]
  simp only [Bool.and_eq_true, decide_eq_true_eq, Bool.not_eq_true', decide_eq_false_iff_not, hi,
    true_and]
  omega

theorem pollLink_pass (s : LinkScan) (i : Fin 20) :
    (pollLink p s i).pass = true ↔ s.pass = true ∧ (p.Enabled i → p.ChannelUp i) := by
  rw [pollLink, SerdesPoll.Enabled, SerdesPoll.ChannelUp]
  split
  · rename_i hon
    split
    · rename_i hdown
      simp [hon, hdown]
    · rename_i hup
      simp [hup]
  · rename_i hoff
    simp [hoff]

theorem pollLink_chmask (s : LinkScan) (i : Fin 20) {j : Nat} (hj : j < 32) :
    (pollLink p s i).chmask.getLsbD j = true ↔
      s.chmask.getLsbD j = true ∨ i.val = j ∧ p.Enabled i ∧ p.ChannelUp i := by
  rw [pollLink, SerdesPoll.Enabled, SerdesPoll.ChannelUp]
  split
  · rename_i hon
    split
    · rename_i hdown
      simp [hdown]
    · rename_i hup
      rw [BitVec.getLsbD_or, Bool.or_eq_true, linkBit_getLsbD i hj]
      simp [hon, hup]
  · rename_i hoff
    simp [hoff]

theorem foldl_pollLink_pass (l : List (Fin 20)) (s : LinkScan) :
    (l.foldl (pollLink p) s).pass = true ↔
      s.pass = true ∧ ∀ i ∈ l, p.Enabled i → p.ChannelUp i := by
  induction l generalizing s with
  | nil => simp
  | cons i l ih =>
    rw [List.foldl_cons, ih, pollLink_pass, List.forall_mem_cons, and_assoc]

theorem foldl_pollLink_chmask (l : List (Fin 20)) (s : LinkScan) {j : Nat} (hj : j < 32) :
    (l.foldl (pollLink p) s).chmask.getLsbD j = true ↔
      s.chmask.getLsbD j = true ∨ ∃ i ∈ l, i.val = j ∧ p.Enabled i ∧ p.ChannelUp i := by
  induction l generalizing s with
  | nil => simp
  | cons i l ih =>
    rw [List.foldl_cons, ih, pollLink_chmask s i hj, or_assoc, List.exists_mem_cons_iff]

theorem pollLinks_pass (chmask : Word) : (pollLinks p chmask).pass = true ↔ p.AllUp := by
  rw [pollLinks, foldl_pollLink_pass, SerdesPoll.AllUp]
  simp

theorem pollLinks_chmask (chmask : Word) {j : Nat} (hj : j < 32) :
    (pollLinks p chmask).chmask.getLsbD j = true ↔
      chmask.getLsbD j = true ∨ ∃ i : Fin 20, i.val = j ∧ p.Enabled i ∧ p.ChannelUp i := by
  rw [pollLinks, foldl_pollLink_chmask _ _ hj]
  simp

end Poll

/-! ## All polls -/

section Polls

variable {readings : Nat → SerdesPoll}

/-- The mask keeps what it has, and gets the links of each poll that is made. -/
theorem pollLoop_getLsbD (left tries : Nat) (chmask : Word) {j : Nat} (hj : j < 32) :
    (pollLoop readings left tries chmask).getLsbD j = true ↔
      chmask.getLsbD j = true ∨
        ∃ k, tries ≤ k ∧ k < tries + left ∧ (∀ m, tries ≤ m → m < k → ¬ (readings m).AllUp) ∧
          ∃ i : Fin 20, i.val = j ∧ (readings k).Enabled i ∧ (readings k).ChannelUp i := by
  induction left generalizing tries chmask with
  | zero =>
    rw [pollLoop]
    constructor
    · exact .inl
    · rintro (h | ⟨k, hle, hlt, -⟩)
      · exact h
      · omega
  | succ left ih =>
    rw [pollLoop]
    cases hpass : (pollLinks (readings tries) chmask).pass with
    | true =>
      -- The poll passes, so it is the only one.
      have hup := (pollLinks_pass chmask).1 hpass
      rw [if_pos rfl, pollLinks_chmask chmask hj]
      constructor
      · rintro (h | h)
        · exact .inl h
        · exact .inr ⟨tries, Nat.le_refl _, by omega, fun m _ _ => by omega, h⟩
      · rintro (h | ⟨k, hle, hlt, hdown, h⟩)
        · exact .inl h
        · rcases Nat.lt_or_eq_of_le hle with hbefore | rfl
          · exact absurd hup (hdown tries (Nat.le_refl _) hbefore)
          · exact .inr h
    | false =>
      have hdown : ¬ (readings tries).AllUp := by
        rw [← pollLinks_pass chmask, hpass]
        exact Bool.false_ne_true
      rw [if_neg Bool.false_ne_true, ih, pollLinks_chmask chmask hj, or_assoc]
      refine or_congr_right ⟨?_, ?_⟩
      · rintro (h | ⟨k, hle, hlt, hbefore, h⟩)
        · exact ⟨tries, Nat.le_refl _, by omega, fun m _ _ => by omega, h⟩
        · refine ⟨k, by omega, by omega, ?_, h⟩
          intro m hm hmk
          rcases Nat.lt_or_eq_of_le hm with hlater | rfl
          · exact hbefore m hlater hmk
          · exact hdown
      · rintro ⟨k, hle, hlt, hbefore, h⟩
        rcases Nat.lt_or_eq_of_le hle with hlater | rfl
        · exact .inr ⟨k, hlater, by omega, fun m hm hmk => hbefore m (by omega) hmk, h⟩
        · exact .inl h

/-- A bit for each link that some poll finds up. -/
theorem checkLinks_getLsbD {j : Nat} (hj : j < 32) :
    (pollLoop readings vtpSerdesMaxTries 0 0#32).getLsbD j = true ↔
      ∃ k, Polled readings k ∧
        ∃ i : Fin 20, i.val = j ∧ (readings k).Enabled i ∧ (readings k).ChannelUp i := by
  rw [pollLoop_getLsbD _ _ _ hj, BitVec.getLsbD_zero]
  simp [Polled, and_assoc]

/-- The upper bits are no links, so the mask is not the code of an error. -/
theorem checkLinks_ne_error : (pollLoop readings vtpSerdesMaxTries 0 0#32).toInt ≠ error := by
  intro herror
  have hall : pollLoop readings vtpSerdesMaxTries 0 0#32 = BitVec.ofInt 32 error := by
    rw [← herror, BitVec.ofInt_toInt]
  have hbit : (pollLoop readings vtpSerdesMaxTries 0 0#32).getLsbD 31 = true := by
    rw [hall]
    decide
  obtain ⟨k, -, i, hi, -⟩ := (checkLinks_getLsbD (by decide)).1 hbit
  have hlt := i.isLt
  omega

/-- Two polls that both end the check are one. -/
theorem PassesAt.unique {k l : Nat} (hk : PassesAt readings k) (hl : PassesAt readings l) :
    k = l := by
  rcases Nat.lt_trichotomy k l with hlt | heq | hgt
  · exact absurd hk.2 (hl.1.2 k hlt)
  · exact heq
  · exact absurd hl.2 (hk.1.2 l hgt)

theorem exists_passesAt (h : ¬ ∀ k < vtpSerdesMaxTries, ¬ (readings k).AllUp) :
    ∃ last, PassesAt readings last := by
  have hex : ∃ k, k < vtpSerdesMaxTries ∧ (readings k).AllUp := by
    simpa using h
  have hfirst := Nat.find_spec hex
  refine ⟨Nat.find hex, ⟨hfirst.1, fun j hj hup => ?_⟩, hfirst.2⟩
  exact Nat.find_min hex hj ⟨Nat.lt_trans hj hfirst.1, hup⟩

/-- The mask is that of the last poll if no earlier poll adds a link to it. -/
theorem isLinkMask_iff {last : Nat} (hlast : PassesAt readings last) :
    IsLinkMask (readings last) (pollLoop readings vtpSerdesMaxTries 0 0#32) ↔
      ∀ k < last, ∀ i, (readings k).Enabled i → (readings k).ChannelUp i →
        (readings last).Enabled i := by
  constructor
  · intro hmask k hk i hon hup
    have hbit := (checkLinks_getLsbD (by omega)).2
      ⟨k, ⟨Nat.lt_trans hk hlast.1.1, fun j hj => hlast.1.2 j (Nat.lt_trans hj hk)⟩, i, rfl, hon, hup⟩
    obtain ⟨n, hn, hen, -⟩ := (hmask i.val (by omega)).1 hbit
    rwa [Fin.ext hn] at hen
  · intro hsettled j hj
    rw [checkLinks_getLsbD hj]
    constructor
    · rintro ⟨k, hk, i, hi, hon, hup⟩
      rcases Nat.lt_trichotomy k last with hlt | rfl | hgt
      · have hen := hsettled k hlt i hon hup
        exact ⟨i, hi, hen, hlast.2 i hen⟩
      · exact ⟨i, hi, hon, hup⟩
      · exact absurd hlast.2 (hk.2 last hgt)
    · rintro ⟨n, hn, hon, hup⟩
      exact ⟨last, hlast.1, n, hn, hon, hup⟩

end Polls

/-! ## The check -/

/-- No link has its bit before it is up, whatever the polls read. -/
theorem checkLinks_sound {lib : VtpLib} (hlib : lib.checkInit = true)
    (readings : Nat → SerdesPoll) :
    ∃ chmask : Word, vtpSerdesCheckLinks lib readings = chmask.toInt ∧
      ∀ i : Fin 20, chmask.getLsbD i.val = true →
        ∃ k, Polled readings k ∧ (readings k).Enabled i ∧ (readings k).ChannelUp i := by
  refine ⟨pollLoop readings vtpSerdesMaxTries 0 0#32, ?_, ?_⟩
  · rw [vtpSerdesCheckLinks, if_pos hlib]
  · intro i hbit
    obtain ⟨k, hk, n, hn, hup⟩ := (checkLinks_getLsbD (by omega)).1 hbit
    rw [Fin.ext hn] at hup
    exact ⟨k, hk, hup⟩

theorem check_links_truth_iff (lib : VtpLib) (hlib : lib.checkInit = true)
    (readings : Nat → SerdesPoll) : TellsTruth lib readings ↔ SettlesUp readings := by
  have hres : vtpSerdesCheckLinks lib readings =
      (pollLoop readings vtpSerdesMaxTries 0 0#32).toInt := by
    rw [vtpSerdesCheckLinks, if_pos hlib]
  constructor
  · intro htruth
    have hsome : ¬ ∀ k < vtpSerdesMaxTries, ¬ (readings k).AllUp := by
      intro hnone
      exact checkLinks_ne_error (hres.symm.trans (htruth.failed.2 hnone))
    obtain ⟨last, hlast⟩ := exists_passesAt hsome
    obtain ⟨chmask, hchmask, hmask⟩ := htruth.passed last hlast
    rw [hres, BitVec.toInt_inj] at hchmask
    rw [← hchmask] at hmask
    exact ⟨last, hlast, (isLinkMask_iff hlast).1 hmask⟩
  · rintro ⟨last, hlast, hsettled⟩
    constructor
    · rw [hres]
      constructor
      · intro herror
        exact absurd herror checkLinks_ne_error
      · intro hnone
        exact absurd hlast.2 (hnone last hlast.1.1)
    · intro k hk
      rw [hk.unique hlast]
      exact ⟨_, hres, (isLinkMask_iff hlast).2 hsettled⟩

def idleLink : SerdesRegs := ⟨vtpSerdesCtrlGtReset, 0#32⟩

def mappedLib : VtpLib := ⟨true, fun _ => vtpFwTypeCommon⟩

/-- Port 1 alone, with the control and status given. -/
def onePort (ctrl status : Word) : SerdesPoll :=
  { vxs := fun n => if n.val = 0 then ⟨ctrl, status⟩ else idleLink
    qsfp := fun _ => idleLink }

/-- Port 1 is up from the first poll. -/
theorem check_links_truth_one_port :
    mappedLib.checkInit = true ∧ SettlesUp (fun _ => onePort 0#32 vtpSerdesStatusChup) ∧
      TellsTruth mappedLib (fun _ => onePort 0#32 vtpSerdesStatusChup) := by
  have hsettles : SettlesUp (fun _ => onePort 0#32 vtpSerdesStatusChup) := by
    refine ⟨0, ⟨⟨by decide, fun j hj => absurd hj (Nat.not_lt_zero j)⟩, by decide⟩, ?_⟩
    exact fun k hk => absurd hk (Nat.not_lt_zero k)
  exact ⟨rfl, hsettles, (check_links_truth_iff mappedLib rfl _).2 hsettles⟩

/-- Port 1 is down at all polls, and the check returns an empty mask. -/
theorem check_links_down_port :
    vtpSerdesCheckLinks mappedLib (fun _ => onePort 0#32 0#32) = 0 ∧
      ¬ TellsTruth mappedLib (fun _ => onePort 0#32 0#32) := by
  have hempty : vtpSerdesCheckLinks mappedLib (fun _ => onePort 0#32 0#32) = 0 := by decide
  have hdown : ∀ k < vtpSerdesMaxTries, ¬ ((fun _ => onePort 0#32 0#32) k).AllUp := by decide
  refine ⟨hempty, fun htruth => ?_⟩
  have herror := htruth.failed.2 hdown
  rw [hempty] at herror
  exact absurd herror (by decide)

end VtpStreaming
