import Mathlib.Data.List.FinRange
import VtpStreaming.Clib.Ledger
import VtpStreaming.VtpLib

/-!
# The DMA memory

`vtp/vtpLib.c`, `vtpDmaMem` to `vtpDmaMemClose`: the buffers that the driver reserves and
that are mapped into the process, and what becomes of them.
-/

namespace VtpStreaming

open Clib

/-! ## A buffer -/

/-- What is taken from the system: a buffer of the driver, and a mapping. -/
inductive DmaResource
  | buffer (id : Nat)
  | mapping (addr : BitVec 64) (size : BitVec 64)
deriving DecidableEq

/-- `DMA_BUF_INFO`. The id is `none` where the code has -1. -/
structure DmaBufInfo where
  bufferSize : BitVec 64
  bufferId : Option Nat
  physAddr : BitVec 64
  virtAddr : BitVec 64
deriving DecidableEq

/-- What the driver and `mmap` answer, `none` where they fail. -/
structure AllocAnswer where
  reserve : Option Nat
  activates : Bool
  physical : Option (BitVec 64)
  mmap : Option (BitVec 64)

structure FreeAnswer where
  releases : Bool
  unmaps : Bool

/-- `vtpDmaMem (0, info)`, with what it has taken. A buffer that is reserved and then fails
is not handed out. -/
def vtpDmaMemReserve (a : AllocAnswer) (info : DmaBufInfo) :
    Option DmaBufInfo × List DmaResource :=
  match a.reserve with
  | none => (none, [])
  | some id =>
      if !a.activates then (none, [.buffer id])
      else
        match a.physical with
        | none => (none, [.buffer id])
        | some phys => (some { info with bufferId := some id, physAddr := phys }, [.buffer id])

def noDmaBuffer : DmaBufInfo := ⟨0, none, 0, 0⟩

def vtpAllocDmaMemory (a : AllocAnswer) (size : Word) : DmaBufInfo × List DmaResource :=
  let info : DmaBufInfo := ⟨size.signExtend 64, none, 0, 0⟩
  match vtpDmaMemReserve a info with
  | (none, taken) => (noDmaBuffer, taken)
  | (some info, taken) =>
      match a.mmap with
      | none => (noDmaBuffer, taken)
      | some addr =>
          ({ info with virtAddr := addr }, taken ++ [.mapping addr (size.signExtend 64)])

/-- A buffer that the driver does not release stays mapped. -/
def vtpFreeDmaMemory (a : FreeAnswer) (id : Nat) (mapInfo : DmaBufInfo) :
    Int × List DmaResource :=
  if !a.releases then (error, [])
  else if !a.unmaps then (error, [.buffer id])
  else (ok, [.buffer id, .mapping mapInfo.virtAddr mapInfo.bufferSize])

/-! ## The calls -/

/-- `vtpDmaMemFD` and `vtpData`, and what has been taken and given back so far. -/
structure DmaState where
  fd : Int
  data : Fin 16 → DmaBufInfo
  taken : List DmaResource
  given : List DmaResource

def DmaState.start : DmaState := ⟨-1, fun _ => ⟨0, some 0, 0, 0⟩, [], []⟩

structure DmaOpenEnv where
  fd : Int
  answers : Fin 16 → AllocAnswer

structure DmaCloseEnv where
  answers : Fin 16 → FreeAnswer
  closes : Bool

/-- The buffers that are asked for. -/
def openedBuffers (nbuffer : Word) : List (Fin 16) :=
  (List.finRange 16).filter fun i => decide ((i.val : Int) < nbuffer.toInt)

def vtpDmaMemOpen (env : DmaOpenEnv) (nbuffer size : Word) (s : DmaState) : Int × DmaState :=
  if 0 < s.fd then (error, s)
  else if 16 < nbuffer.toInt then (error, s)
  else
    let data := fun i => { s.data i with bufferId := none }
    if env.fd < 0 then (error, { s with fd := env.fd, data := data })
    else
      let alloc := fun i => vtpAllocDmaMemory (env.answers i) size
      (if (openedBuffers nbuffer).any fun i => (alloc i).1.bufferId.isNone then error else ok,
        { s with
          fd := env.fd
          data := fun i => if (i.val : Int) < nbuffer.toInt then (alloc i).1 else data i
          taken := s.taken ++ (openedBuffers nbuffer).flatMap fun i => (alloc i).2 })

/-- What is given back of a buffer that is there. -/
def freeDmaBuffer (env : DmaCloseEnv) (data : Fin 16 → DmaBufInfo) (i : Fin 16) :
    List DmaResource :=
  match (data i).bufferId with
  | none => []
  | some id => (vtpFreeDmaMemory (env.answers i) id (data i)).2

/-- What `vtpFreeDmaMemory` returns is not looked at. -/
def vtpDmaMemClose (env : DmaCloseEnv) (s : DmaState) : Int × DmaState :=
  if s.fd < 0 then (error, s)
  else
    let given := s.given ++ (List.finRange 16).flatMap (freeDmaBuffer env s.data)
    if !env.closes then (error, { s with given := given })
    else (ok, { s with fd := -1, given := given })

inductive DmaCall
  | opens (env : DmaOpenEnv) (nbuffer size : Word)
  | closes (env : DmaCloseEnv)

def DmaCall.run : DmaCall → DmaState → DmaState
  | .opens env nbuffer size, s => (vtpDmaMemOpen env nbuffer size s).2
  | .closes env, s => (vtpDmaMemClose env s).2

def runDma (calls : List DmaCall) (s : DmaState) : DmaState :=
  calls.foldl (fun s c => c.run s) s

/-! ## What is held and what is lost -/

def DmaBufInfo.held (b : DmaBufInfo) : List DmaResource :=
  match b.bufferId with
  | none => []
  | some id => [.buffer id, .mapping b.virtAddr b.bufferSize]

/-- The buffers of the table, while the device is open. -/
def DmaState.held (s : DmaState) : List DmaResource :=
  if s.fd < 0 then [] else (List.finRange 16).flatMap fun i => (s.data i).held

/-- A buffer that the driver has reserved for an allocation that fails later. -/
def AllocAnswer.lost (a : AllocAnswer) : List DmaResource :=
  match a.reserve with
  | none => []
  | some id => if a.activates && a.physical.isSome && a.mmap.isSome then [] else [.buffer id]

/-- What a call leaves behind. An open finds the device of descriptor 0 to be closed. -/
def DmaCall.lost : DmaCall → DmaState → List DmaResource
  | .opens env nbuffer _, s =>
      if 0 < s.fd ∨ 16 < nbuffer.toInt then []
      else
        s.held ++
          if env.fd < 0 then []
          else (openedBuffers nbuffer).flatMap fun i => (env.answers i).lost
  | .closes env, s =>
      if s.fd < 0 ∨ env.closes = false then []
      else
        (List.finRange 16).flatMap fun i =>
          (s.data i).held.drop (freeDmaBuffer env s.data i).length

/-- What a call gives back and holds all the same: the device was not closed. -/
def DmaCall.again : DmaCall → DmaState → List DmaResource
  | .opens _ _ _, _ => []
  | .closes env, s =>
      if s.fd < 0 ∨ env.closes = true then []
      else (List.finRange 16).flatMap (freeDmaBuffer env s.data)

def lostIn : List DmaCall → DmaState → List DmaResource
  | [], _ => []
  | c :: cs, s => c.lost s ++ lostIn cs (c.run s)

def againIn : List DmaCall → DmaState → List DmaResource
  | [], _ => []
  | c :: cs, s => c.again s ++ againIn cs (c.run s)

/-- No buffer fails once it is reserved, none is refused, and the descriptor is not 0. -/
def DmaCall.Clean : DmaCall → Prop
  | .opens env _ _ => env.fd ≠ 0 ∧ ∀ i, (env.answers i).lost = []
  | .closes env => ∀ i, (env.answers i).releases = true ∧ (env.answers i).unmaps = true

/-- The device closes when it is asked to. -/
def DmaCall.Closes : DmaCall → Prop
  | .opens _ _ _ => True
  | .closes env => env.closes = true

/-! ## One call -/

theorem alloc_split (a : AllocAnswer) (size : Word) :
    (vtpAllocDmaMemory a size).2 = (vtpAllocDmaMemory a size).1.held ++ a.lost := by
  obtain ⟨reserve, activates, physical, mmap⟩ := a
  cases reserve with
  | none => rfl
  | some id =>
    cases activates with
    | false => rfl
    | true =>
      cases physical with
      | none => rfl
      | some phys =>
        cases mmap with
        | none => rfl
        | some addr => rfl

/-- A mapping is only given back behind its buffer. -/
theorem free_split (env : DmaCloseEnv) (data : Fin 16 → DmaBufInfo) (i : Fin 16) :
    (data i).held = freeDmaBuffer env data i ++
      (data i).held.drop (freeDmaBuffer env data i).length := by
  rw [freeDmaBuffer, DmaBufInfo.held]
  cases (data i).bufferId with
  | none => rfl
  | some id =>
    dsimp only
    rw [vtpFreeDmaMemory]
    split
    · rfl
    · split
      · rfl
      · rfl

section Calls

variable {s : DmaState} {lost again : List DmaResource}

theorem held_closed (h : s.fd < 0) : s.held = [] := if_pos h

theorem vtpDmaMemOpen_refused {env : DmaOpenEnv} {nbuffer size : Word}
    (h : 0 < s.fd ∨ 16 < nbuffer.toInt) : vtpDmaMemOpen env nbuffer size s = (error, s) := by
  rw [vtpDmaMemOpen]
  split
  · rfl
  · next hfd => exact if_pos (h.resolve_left hfd)

theorem vtpDmaMemOpen_opened {env : DmaOpenEnv} {nbuffer size : Word}
    (hfree : ¬(0 < s.fd ∨ 16 < nbuffer.toInt)) (hopen : ¬env.fd < 0) :
    (vtpDmaMemOpen env nbuffer size s).2 =
      { fd := env.fd
        data := fun i =>
          if (i.val : Int) < nbuffer.toInt then (vtpAllocDmaMemory (env.answers i) size).1
          else { s.data i with bufferId := none }
        taken := s.taken ++
          (openedBuffers nbuffer).flatMap fun i => (vtpAllocDmaMemory (env.answers i) size).2
        given := s.given } := by
  obtain ⟨hfd, hmany⟩ := not_or.mp hfree
  rw [vtpDmaMemOpen, if_neg hfd, if_neg hmany]
  exact congrArg Prod.snd (if_neg hopen)

/-- The table holds what the allocations have handed out. -/
theorem held_opened (nbuffer : Word) (alloc data : Fin 16 → DmaBufInfo) :
    ((List.finRange 16).flatMap fun i : Fin 16 => DmaBufInfo.held
        (if (i.val : Int) < nbuffer.toInt then alloc i else { data i with bufferId := none })) =
      (openedBuffers nbuffer).flatMap fun i => (alloc i).held := by
  rw [openedBuffers, flatMap_filter]
  apply List.flatMap_congr
  intro i _
  by_cases hi : (i.val : Int) < nbuffer.toInt
  · rw [if_pos hi, if_pos (decide_eq_true hi)]
  · rw [if_neg hi, if_neg (mt of_decide_eq_true hi)]
    rfl

theorem opens_settles (env : DmaOpenEnv) (nbuffer size : Word)
    (h : Settles (s.taken ++ again) s.given s.held lost) :
    Settles (((DmaCall.opens env nbuffer size).run s).taken ++ again)
      ((DmaCall.opens env nbuffer size).run s).given
      ((DmaCall.opens env nbuffer size).run s).held
      (lost ++ (DmaCall.opens env nbuffer size).lost s) := by
  rw [DmaCall.run, DmaCall.lost]
  by_cases hfree : 0 < s.fd ∨ 16 < nbuffer.toInt
  · rw [vtpDmaMemOpen_refused hfree, if_pos hfree, List.append_nil]
    exact h
  · rw [if_neg hfree]
    by_cases hopen : env.fd < 0
    · obtain ⟨hfd, hmany⟩ := not_or.mp hfree
      have hnone := h.acquire (show ([] : List DmaResource).Perm ([] ++ []) from List.Perm.refl [])
      rw [List.append_nil] at hnone
      rw [vtpDmaMemOpen, if_neg hfd, if_neg hmany, if_pos hopen, if_pos hopen, DmaState.held]
      dsimp only
      rw [if_pos hopen]
      exact hnone
    · have hsplit := perm_flatMap_split (l := openedBuffers nbuffer)
        fun i _ => alloc_split (env.answers i) size
      rw [vtpDmaMemOpen_opened hfree hopen, if_neg hopen, DmaState.held]
      dsimp only
      rw [if_neg hopen, held_opened]
      apply (h.acquire hsplit).of_perm
      rw [List.append_assoc, List.append_assoc]
      exact List.perm_append_comm.append_left s.taken

theorem closes_settles (env : DmaCloseEnv)
    (h : Settles (s.taken ++ again) s.given s.held lost) :
    Settles (((DmaCall.closes env).run s).taken ++ (again ++ (DmaCall.closes env).again s))
      ((DmaCall.closes env).run s).given ((DmaCall.closes env).run s).held
      (lost ++ (DmaCall.closes env).lost s) := by
  rw [DmaCall.run, vtpDmaMemClose, DmaCall.lost, DmaCall.again]
  by_cases hfd : s.fd < 0
  · rw [if_pos hfd, if_pos (.inl hfd), if_pos (.inl hfd), List.append_nil, List.append_nil]
    exact h
  · have hsplit := perm_flatMap_split (l := List.finRange 16) fun i _ => free_split env s.data i
    have hheld : s.held = (List.finRange 16).flatMap fun i => (s.data i).held := if_neg hfd
    rw [if_neg hfd]
    cases hcloses : env.closes with
    | true =>
      have hkept : ¬(s.fd < 0 ∨ true = false) := by simp [hfd]
      have hdone : s.fd < 0 ∨ true = true := .inr rfl
      rw [if_neg hkept, if_pos hdone, List.append_nil]
      exact h.release (hheld ▸ hsplit)
    | false =>
      have hkept : s.fd < 0 ∨ false = false := .inr rfl
      have hagain : ¬(s.fd < 0 ∨ false = true) := by simp [hfd]
      rw [if_pos hkept, if_neg hagain, List.append_nil, ← List.append_assoc]
      exact h.again

end Calls

/-! ## A run -/

theorem run_settles (calls : List DmaCall) {s : DmaState} {lost again : List DmaResource}
    (h : Settles (s.taken ++ again) s.given s.held lost) :
    Settles ((runDma calls s).taken ++ (again ++ againIn calls s)) (runDma calls s).given
      (runDma calls s).held (lost ++ lostIn calls s) := by
  induction calls generalizing s lost again with
  | nil =>
    rw [againIn, lostIn, List.append_nil, List.append_nil]
    exact h
  | cons c calls ih =>
    rw [againIn, lostIn, ← List.append_assoc again, ← List.append_assoc lost]
    apply ih
    cases c with
    | opens env nbuffer size =>
      rw [DmaCall.again, List.append_nil]
      exact opens_settles env nbuffer size h
    | closes env => exact closes_settles env h

theorem againIn_closes (calls : List DmaCall) {s : DmaState} (h : ∀ c ∈ calls, c.Closes) :
    againIn calls s = [] := by
  induction calls generalizing s with
  | nil => rfl
  | cons c calls ih =>
    obtain ⟨hc, hcalls⟩ := List.forall_mem_cons.mp h
    rw [againIn, ih hcalls, List.append_nil]
    cases c with
    | opens env nbuffer size => rfl
    | closes env => exact if_pos (.inr hc)

/-- A clean call loses nothing and leaves the descriptor apart from 0. -/
theorem clean_keeps {c : DmaCall} {s : DmaState} (hc : c.Clean) (hfd : s.fd ≠ 0) :
    c.lost s = [] ∧ (c.run s).fd ≠ 0 := by
  cases c with
  | opens env nbuffer size =>
    obtain ⟨henv, hanswers⟩ := hc
    rw [DmaCall.lost, DmaCall.run]
    by_cases hfree : 0 < s.fd ∨ 16 < nbuffer.toInt
    · rw [if_pos hfree, vtpDmaMemOpen_refused hfree]
      exact ⟨rfl, hfd⟩
    · obtain ⟨hclosed, hmany⟩ := not_or.mp hfree
      have hheld : s.held = [] := held_closed (lt_of_le_of_ne (not_lt.mp hclosed) hfd)
      rw [if_neg hfree, hheld, List.nil_append]
      by_cases hopen : env.fd < 0
      · rw [if_pos hopen, vtpDmaMemOpen, if_neg hclosed, if_neg hmany, if_pos hopen]
        exact ⟨rfl, henv⟩
      · rw [if_neg hopen, vtpDmaMemOpen_opened hfree hopen]
        exact ⟨List.flatMap_eq_nil_iff.mpr fun i _ => hanswers i, henv⟩
  | closes env =>
    rw [DmaCall.lost, DmaCall.run, vtpDmaMemClose]
    by_cases hclosed : s.fd < 0
    · rw [if_pos hclosed, if_pos (.inl hclosed)]
      exact ⟨rfl, hfd⟩
    · rw [if_neg hclosed]
      constructor
      · split
        · rfl
        · refine List.flatMap_eq_nil_iff.mpr fun i _ => ?_
          rw [List.drop_eq_nil_iff, freeDmaBuffer, DmaBufInfo.held]
          cases (s.data i).bufferId with
          | none => exact Nat.le_refl _
          | some id =>
            dsimp only
            rw [vtpFreeDmaMemory, (hc i).1, (hc i).2]
            exact Nat.le_refl _
      · split
        · exact hfd
        · exact show (-1 : Int) ≠ 0 by decide

theorem lostIn_clean (calls : List DmaCall) {s : DmaState} (h : ∀ c ∈ calls, c.Clean)
    (hfd : s.fd ≠ 0) : lostIn calls s = [] := by
  induction calls generalizing s with
  | nil => rfl
  | cons c calls ih =>
    obtain ⟨hc, hcalls⟩ := List.forall_mem_cons.mp h
    obtain ⟨hlost, hnext⟩ := clean_keeps hc hfd
    rw [lostIn, hlost, ih hcalls hnext]
    rfl

/-- Whatever the driver and the system answer: what has been taken is given back, held in the
table of the open device, or lost in the ways that `DmaCall.lost` lists, and is given back
twice only by closes that leave the device open. Where no answer fails, nothing is lost. -/
theorem dma_ledger (calls : List DmaCall) :
    Settles ((runDma calls .start).taken ++ againIn calls .start) (runDma calls .start).given
        (runDma calls .start).held (lostIn calls .start) ∧
      ((∀ c ∈ calls, c.Clean) → lostIn calls .start = []) ∧
      ((∀ c ∈ calls, c.Closes) → againIn calls .start = []) := by
  refine ⟨?_, fun h => lostIn_clean calls h (by decide), againIn_closes calls⟩
  have hstart : Settles (DmaState.start.taken ++ []) DmaState.start.given DmaState.start.held [] :=
    Settles.start
  exact run_settles calls hstart

end VtpStreaming
