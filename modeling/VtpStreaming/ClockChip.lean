import VtpStreaming.Clib.Paged
import VtpStreaming.ClockTables
import VtpStreaming.VtpLib

/-!
# The clock chip

`vtp/si5341_cfg.c`: the registers of the SI5341 behind a page that the code keeps a copy
of, and the start of the chip from a table. `vtp/vtp-spi.c`, `vtpSpiTransfer`: one
transfer, which no caller learns the failure of.

The delays are left out, and what is printed, and so are transfers before the start, which
are of a device that `spiid` does not have yet. A hard reset is written through page 0,
where it also leaves the chip.
-/

namespace VtpStreaming

open Clib

def si5341Partnum : Word := 0x5341#32
def si5341CmdSetaddr : Byte := 0x00#8
def si5341CmdWrdata : Byte := 0x40#8
def si5341CmdRddata : Byte := 0x80#8

abbrev ClockAccess := PageAccess Byte Byte Byte

/-! ## The chip -/

/-- The address that is set, the page, and the accesses to the registers so far. -/
structure Si5341 where
  addr : Byte
  page : Byte
  performed : List ClockAccess

/-- Which ioctl goes through, what `rdBuf[3]` has on the stack before it, and what the
chip answers after some accesses. -/
structure SpiEnv where
  ok : Nat → Bool
  rdBuf : Nat → Byte
  answer : List ClockAccess → Byte → Byte → Byte

/-- One command with its byte, and the byte that comes back. Register 1 is the page
on every page. -/
def Si5341.command (answer : List ClockAccess → Byte → Byte → Byte) (cmd x : Byte) (c : Si5341) :
    Byte × Si5341 :=
  if cmd = si5341CmdSetaddr then (0#8, { c with addr := x })
  else if cmd = si5341CmdWrdata then
    if c.addr = 1#8 then (0#8, { c with page := x })
    else (0#8, { c with performed := c.performed ++ [.write c.page c.addr x] })
  else if cmd = si5341CmdRddata then
    if c.addr = 1#8 then (c.page, c)
    else (answer c.performed c.page c.addr,
      { c with performed := c.performed ++ [.read c.page c.addr] })
  else (0#8, c)

/-! ## The code -/

/-- `currentPage`, which is none for -1, the chip and the number of ioctls so far. -/
structure ClockState where
  currentPage : Option Byte
  chip : Si5341
  ioctls : Nat

section

variable (env : SpiEnv)

/-- The last of the four bytes that come back. -/
def vtpSpiTransfer (cmd0 x0 cmd1 x1 : Byte) (s : ClockState) : Byte × ClockState :=
  if env.ok s.ioctls then
    let (_, c) := s.chip.command env.answer cmd0 x0
    let (data, c) := c.command env.answer cmd1 x1
    (data, { s with chip := c, ioctls := s.ioctls + 1 })
  else (env.rdBuf s.ioctls, { s with ioctls := s.ioctls + 1 })

def si5341Write (addr data : Byte) (s : ClockState) : ClockState :=
  (vtpSpiTransfer env si5341CmdSetaddr addr si5341CmdWrdata data s).2

def si5341Read (addr : Byte) (s : ClockState) : Byte × ClockState :=
  vtpSpiTransfer env si5341CmdSetaddr addr si5341CmdRddata 0#8 s

def si5341SetPage (page : Byte) (s : ClockState) : ClockState :=
  if s.currentPage ≠ some page then
    { si5341Write env 0x1#8 page s with currentPage := some page }
  else s

def pageOf (addr : BitVec 16) : Byte := (addr >>> 8).setWidth 8

def si5341WriteReg (addr : BitVec 16) (data : Byte) (s : ClockState) : ClockState :=
  si5341Write env (addr.setWidth 8) data (si5341SetPage env (pageOf addr) s)

def si5341ReadReg (addr : BitVec 16) (s : ClockState) : Byte × ClockState :=
  si5341Read env (addr.setWidth 8) (si5341SetPage env (pageOf addr) s)

def si5341CheckBasePart (s : ClockState) : Int × ClockState :=
  let (low, s) := si5341ReadReg env 2#16 s
  let (high, s) := si5341ReadReg env 3#16 s
  let partNum : Word := low.setWidth 32 ||| (high.setWidth 32 <<< 8)
  if partNum ≠ si5341Partnum then (error, s) else (ok, s)

def si5341SoftReset (s : ClockState) : ClockState := si5341WriteReg env 0x1C#16 1#8 s

def si5341HardReset (s : ClockState) : ClockState := si5341WriteReg env 0x1E#16 2#8 s

def si5341Sync (s : ClockState) : ClockState := si5341WriteReg env 0x1E#16 4#8 s

def si5341ReadStatus (s : ClockState) : Byte × ClockState := si5341ReadReg env 0x0C#16 s

def writeTable (table : List (BitVec 16 × Byte)) (s : ClockState) : ClockState :=
  table.foldl (fun s e => si5341WriteReg env e.1 e.2 s) s

/-- `SI5341_IN_SEL_VXS_250`, `SI5341_IN_SEL_VXS_125` and `SI5341_IN_SEL_LOCAL`. -/
def clockTable (src : Int) : Option (List (BitVec 16 × Byte)) :=
  if src = 1 then some si5431RegsVxs250
  else if src = 2 then some si5431RegsVxs125
  else if src = 3 then some si5431RegsLocal
  else none

/-- An unknown source is found out after the resets. -/
def si5341Configure (src : Int) (s : ClockState) : Int × ClockState :=
  let s := si5341SoftReset env (si5341HardReset env s)
  match clockTable src with
  | none => (error, s)
  | some table => (ok, si5341Sync env (writeTable env table s))

/-- What `si5341_configure` returns is not looked at. -/
def si5341Init (src : Int) (s : ClockState) : Int × ClockState :=
  let (status, s) := si5341CheckBasePart env s
  if status ≠ ok then (error, s)
  else
    let (_, s) := si5341Configure env src s
    let (_, s) := si5341ReadStatus env s
    (ok, s)

/-! ## Runs of accesses -/

/-- A call of `si5341_writeReg` or `si5341_readReg`. -/
inductive RegCall
  | write (addr : BitVec 16) (data : Byte)
  | read (addr : BitVec 16)

namespace RegCall

def addr : RegCall → BitVec 16
  | .write addr _ => addr
  | .read addr => addr

/-- The access to the chip that is meant. -/
def access : RegCall → ClockAccess
  | .write addr data => .write (pageOf addr) (addr.setWidth 8) data
  | .read addr => .read (pageOf addr) (addr.setWidth 8)

/-- The bytes that have been read so far, and the state. -/
def run (s : List Byte × ClockState) : RegCall → List Byte × ClockState
  | .write addr data => (s.1, si5341WriteReg env addr data s.2)
  | .read addr =>
      let (data, t) := si5341ReadReg env addr s.2
      (s.1 ++ [data], t)

end RegCall

def runRegCalls (calls : List RegCall) (s : ClockState) : List Byte × ClockState :=
  calls.foldl (RegCall.run env) ([], s)

end

/-- What the calls read from registers of 16-bit addresses. -/
def flatReads (answer : List ClockAccess → Byte → Byte → Byte) (done : List ClockAccess) :
    List RegCall → List Byte
  | [] => []
  | .write addr data :: calls => flatReads answer (done ++ [(RegCall.write addr data).access]) calls
  | .read addr :: calls =>
      answer done (pageOf addr) (addr.setWidth 8) ::
        flatReads answer (done ++ [(RegCall.read addr).access]) calls

/-! ## The pages -/

/-- The state as the driver of a paged device. -/
def ClockState.paged (s : ClockState) : Paged Byte Byte Byte where
  cached := s.currentPage
  page := s.chip.page
  performed := s.chip.performed
  sent := s.ioctls

section

variable {env : SpiEnv} {s : ClockState}

theorem setPage_paged (page : Byte) :
    (si5341SetPage env page s).paged = Paged.select env.ok page s.paged := by
  rw [si5341SetPage, Paged.select]
  by_cases h : s.currentPage = some page
  · rw [if_neg (not_not_intro h), if_pos (show s.paged.cached = some page from h)]
  · rw [if_pos h, if_neg (show ¬s.paged.cached = some page from h), si5341Write, vtpSpiTransfer]
    have hsent : s.paged.sent = s.ioctls := rfl
    rw [hsent]
    split
    · simp [ClockState.paged, Si5341.command, si5341CmdSetaddr, si5341CmdWrdata]
    · simp [ClockState.paged]

theorem write_paged {addr : Byte} (haddr : addr ≠ 1#8) (page data : Byte) :
    (si5341Write env addr data s).paged = Paged.perform env.ok (.write page addr data) s.paged := by
  rw [si5341Write, vtpSpiTransfer, Paged.perform]
  have hsent : s.paged.sent = s.ioctls := rfl
  rw [hsent]
  split
  · simp [ClockState.paged, Si5341.command, si5341CmdSetaddr, si5341CmdWrdata, haddr,
      PageAccess.onPage]
  · simp [ClockState.paged]

theorem read_paged {addr : Byte} (haddr : addr ≠ 1#8) (page : Byte) :
    (si5341Read env addr s).2.paged = Paged.perform env.ok (.read page addr) s.paged := by
  rw [si5341Read, vtpSpiTransfer, Paged.perform]
  have hsent : s.paged.sent = s.ioctls := rfl
  rw [hsent]
  split
  · simp [ClockState.paged, Si5341.command, si5341CmdSetaddr, si5341CmdWrdata, si5341CmdRddata,
      haddr, PageAccess.onPage]
  · simp [ClockState.paged]

/-- A read that goes through gives what the chip answers. -/
theorem read_data {addr : Byte} (haddr : addr ≠ 1#8) (hok : env.ok s.ioctls = true) :
    (si5341Read env addr s).1 = env.answer s.chip.performed s.chip.page addr := by
  rw [si5341Read, vtpSpiTransfer, if_pos hok]
  simp [Si5341.command, si5341CmdSetaddr, si5341CmdWrdata, si5341CmdRddata, haddr]

theorem writeReg_paged {addr : BitVec 16} (haddr : addr.setWidth 8 ≠ 1#8) (data : Byte) :
    (si5341WriteReg env addr data s).paged =
      Paged.access env.ok s.paged (RegCall.write addr data).access := by
  rw [si5341WriteReg, write_paged haddr (pageOf addr), setPage_paged]
  rfl

theorem readReg_paged {addr : BitVec 16} (haddr : addr.setWidth 8 ≠ 1#8) :
    (si5341ReadReg env addr s).2.paged =
      Paged.access env.ok s.paged (RegCall.read addr).access := by
  rw [si5341ReadReg, read_paged haddr (pageOf addr), setPage_paged]
  rfl

theorem RegCall.run_paged (bytes : List Byte) (c : RegCall) (haddr : c.addr.setWidth 8 ≠ 1#8) :
    (RegCall.run env (bytes, s) c).2.paged = Paged.access env.ok s.paged c.access := by
  cases c with
  | write addr data => exact writeReg_paged haddr data
  | read addr => exact readReg_paged haddr

/-- The calls drive the chip as a paged device. -/
theorem runRegCalls_paged (calls : List RegCall) (haddr : ∀ c ∈ calls, c.addr.setWidth 8 ≠ 1#8)
    (bytes : List Byte) :
    (calls.foldl (RegCall.run env) (bytes, s)).2.paged =
      Paged.run env.ok (calls.map RegCall.access) s.paged := by
  induction calls generalizing s bytes with
  | nil => rfl
  | cons c calls ih =>
    have hstep := @RegCall.run_paged env s bytes c (haddr c List.mem_cons_self)
    rw [List.foldl_cons, List.map_cons, Paged.run, List.foldl_cons, ← hstep]
    exact ih (fun d hd => haddr d (List.mem_cons_of_mem c hd)) _

/-! ## Without a failure -/

/-- The page is selected, and the accesses are as before. -/
theorem setPage_selected (coherent : s.paged.Coherent) (page : Byte)
    (hok : ∀ n, s.ioctls ≤ n → n < (si5341SetPage env page s).ioctls → env.ok n = true) :
    (si5341SetPage env page s).chip.page = page ∧
      (si5341SetPage env page s).chip.performed = s.chip.performed := by
  have hpaged := @setPage_paged env s page
  have hsent : (Paged.select env.ok page s.paged).sent = (si5341SetPage env page s).ioctls := by
    rw [← hpaged]
    rfl
  constructor
  · have hpage := Paged.select_page_of_ok coherent page fun n hle hlt =>
      hok n hle (by rwa [hsent] at hlt)
    rw [← hpaged] at hpage
    exact hpage
  · have hperformed : (Paged.select env.ok page s.paged).performed = s.paged.performed :=
      Paged.select_performed page
    rw [← hpaged] at hperformed
    exact hperformed

theorem run_ioctls_le (calls : List RegCall) (haddr : ∀ c ∈ calls, c.addr.setWidth 8 ≠ 1#8)
    (bytes : List Byte) : s.ioctls ≤ (calls.foldl (RegCall.run env) (bytes, s)).2.ioctls := by
  have hle : s.paged.sent ≤ (Paged.run env.ok (calls.map RegCall.access) s.paged).sent :=
    Paged.sent_le_run _ _
  rw [← runRegCalls_paged calls haddr bytes] at hle
  exact hle

/-- The answer to a read. -/
theorem readReg_data {addr : BitVec 16} (haddr : addr.setWidth 8 ≠ 1#8)
    (coherent : s.paged.Coherent)
    (hok : ∀ n, s.ioctls ≤ n → n < (si5341ReadReg env addr s).2.ioctls → env.ok n = true) :
    (si5341ReadReg env addr s).1 =
      env.answer s.chip.performed (pageOf addr) (addr.setWidth 8) := by
  have hsent : (si5341ReadReg env addr s).2.ioctls =
      (si5341SetPage env (pageOf addr) s).ioctls + 1 := by
    rw [si5341ReadReg, si5341Read, vtpSpiTransfer]
    split
    · rfl
    · rfl
  have hle : s.ioctls ≤ (si5341SetPage env (pageOf addr) s).ioctls := by
    have h : s.paged.sent ≤ (Paged.select env.ok (pageOf addr) s.paged).sent :=
      Paged.sent_le_select _
    rw [← setPage_paged] at h
    exact h
  rw [hsent] at hok
  obtain ⟨hpage, hperformed⟩ := setPage_selected coherent (pageOf addr)
    fun n hle hlt => hok n hle (hlt.trans (Nat.lt_succ_self _))
  rw [si5341ReadReg, read_data haddr (hok _ hle (Nat.lt_succ_self _)), hpage, hperformed]

theorem runRegCalls_reads (calls : List RegCall) (haddr : ∀ c ∈ calls, c.addr.setWidth 8 ≠ 1#8)
    (coherent : s.paged.Coherent) (bytes : List Byte)
    (hok : ∀ n, s.ioctls ≤ n →
      n < (calls.foldl (RegCall.run env) (bytes, s)).2.ioctls → env.ok n = true) :
    (calls.foldl (RegCall.run env) (bytes, s)).1 =
      bytes ++ flatReads env.answer s.chip.performed calls := by
  induction calls generalizing s bytes with
  | nil => exact (List.append_nil _).symm
  | cons c calls ih =>
    have hc := haddr c List.mem_cons_self
    have hcalls : ∀ d ∈ calls, d.addr.setWidth 8 ≠ 1#8 :=
      fun d hd => haddr d (List.mem_cons_of_mem c hd)
    have hstep := @RegCall.run_paged env s bytes c hc
    rw [List.foldl_cons] at hok ⊢
    generalize ht : RegCall.run env (bytes, s) c = t at hok hstep ⊢
    obtain ⟨bytes', s'⟩ := t
    have hafter := @run_ioctls_le env s' calls hcalls bytes'
    have hone : ∀ n, s.paged.sent ≤ n → n < (Paged.access env.ok s.paged c.access).sent →
        env.ok n = true := by
      intro n hle hlt
      rw [← hstep] at hlt
      exact hok n hle (lt_of_lt_of_le hlt hafter)
    have hrun : Paged.run env.ok [c.access] s.paged = Paged.access env.ok s.paged c.access := rfl
    have hcoherent : s'.paged.Coherent := by
      have h : (Paged.run env.ok [c.access] s.paged).Coherent :=
        Paged.run_coherent _ coherent (by rw [hrun]; exact hone)
      rw [hrun, ← hstep] at h
      exact h
    have hlt : s.ioctls ≤ s'.ioctls := by
      have h : s.paged.sent < (Paged.access env.ok s.paged c.access).sent := Paged.sent_lt_access
      rw [← hstep] at h
      exact h.le
    have hperformed : s'.chip.performed = s.chip.performed ++ [c.access] := by
      have h : (Paged.run env.ok [c.access] s.paged).performed = s.paged.performed ++ [c.access] :=
        (Paged.run_exact_iff [c.access] coherent
          (fun _ => hone _ (Nat.le_refl _) Paged.sent_lt_access)).mpr (by rw [hrun]; exact hone)
      rw [hrun, ← hstep] at h
      exact h
    rw [ih hcalls hcoherent bytes' fun n hle hlt' => hok n (hlt.trans hle) hlt', hperformed]
    cases c with
    | write addr data =>
      have hbytes : bytes' = bytes := (congrArg Prod.fst ht).symm
      rw [hbytes, flatReads]
    | read addr =>
      have hbytes : bytes' = bytes ++ [(si5341ReadReg env addr s).1] := (congrArg Prod.fst ht).symm
      have hstate : s' = (si5341ReadReg env addr s).2 := (congrArg Prod.snd ht).symm
      have hdata := @readReg_data env s addr hc coherent fun n hle hlt' => hok n hle
        (lt_of_lt_of_le hlt' (hstate ▸ hafter))
      rw [hbytes, hdata, flatReads, List.append_assoc]
      rfl

end

/-! ## The registers -/

section

variable {env : SpiEnv} {s : ClockState}

theorem runRegCalls_exact_iff (coherent : s.paged.Coherent)
    (first : s.currentPage = none → env.ok s.ioctls = true) (calls : List RegCall)
    (haddr : ∀ c ∈ calls, c.addr.setWidth 8 ≠ 1#8) :
    (runRegCalls env calls s).2.chip.performed = s.chip.performed ++ calls.map RegCall.access ↔
      ∀ n, s.ioctls ≤ n → n < (runRegCalls env calls s).2.ioctls → env.ok n = true := by
  have hexact := Paged.run_exact_iff (calls.map RegCall.access) coherent first
  rw [← runRegCalls_paged calls haddr []] at hexact
  exact hexact

theorem runRegCalls_coherent (coherent : s.paged.Coherent) (calls : List RegCall)
    (haddr : ∀ c ∈ calls, c.addr.setWidth 8 ≠ 1#8)
    (hok : ∀ n, s.ioctls ≤ n → n < (runRegCalls env calls s).2.ioctls → env.ok n = true) :
    (runRegCalls env calls s).2.paged.Coherent := by
  have hpaged : (runRegCalls env calls s).2.paged =
      Paged.run env.ok (calls.map RegCall.access) s.paged := runRegCalls_paged calls haddr []
  rw [hpaged]
  refine Paged.run_coherent _ coherent fun n hle hlt => hok n hle ?_
  rw [← hpaged] at hlt
  exact hlt

/-- The selection fails, and the rest of the run finds the copy that it wants. -/
theorem runRegCalls_lost {page : Byte} (hother : s.currentPage ≠ some page)
    (hfail : env.ok s.ioctls = false) (hok : ∀ n, s.ioctls < n → env.ok n = true)
    {calls : List RegCall} (haddr : ∀ c ∈ calls, c.addr.setWidth 8 ≠ 1#8)
    (hpages : ∀ c ∈ calls, pageOf c.addr = page) (hne : calls ≠ []) :
    (runRegCalls env calls s).2.chip.performed =
      s.chip.performed ++ calls.map fun c => c.access.onPage s.chip.page := by
  obtain ⟨c, rest, rfl⟩ := List.exists_cons_of_ne_nil hne
  have hpaged := @runRegCalls_paged env s (c :: rest) haddr []
  have hperformed : (runRegCalls env (c :: rest) s).2.chip.performed =
      (Paged.run env.ok ((c :: rest).map RegCall.access) s.paged).performed := by
    rw [← hpaged]
    rfl
  have hpage : ∀ d ∈ (c :: rest).map RegCall.access, d.page = page := by
    intro d hd
    obtain ⟨e, he, rfl⟩ := List.mem_map.mp hd
    rw [← hpages e he]
    cases e with
    | write addr data => rfl
    | read addr => rfl
  let s₁ := Paged.select env.ok page s.paged
  have hselect : s₁ = { s.paged with cached := some page, sent := s.ioctls + 1 } := by
    have hcopy : ¬s.paged.cached = some page := hother
    have hsel : env.ok s.paged.sent = false := hfail
    simp only [s₁, Paged.select, if_neg hcopy, hsel, Bool.false_eq_true, if_false]
    rfl
  have hsame : Paged.run env.ok ((c :: rest).map RegCall.access) s.paged =
      Paged.run env.ok ((c :: rest).map RegCall.access) s₁ := by
    have hc : c.access.page = page := hpage _ (List.mem_map_of_mem List.mem_cons_self)
    have honce : Paged.select env.ok page s₁ = s₁ := by
      rw [Paged.select, if_pos (by rw [hselect])]
    rw [List.map_cons, Paged.run, List.foldl_cons, Paged.run, List.foldl_cons, Paged.access,
      Paged.access, hc, honce]
  have hcopy : s₁.cached = some page := by rw [hselect]
  have hafter : ∀ n, s₁.sent ≤ n → env.ok n = true :=
    fun n hle => hok n (by rw [hselect] at hle; exact hle)
  obtain ⟨hstale, -, -⟩ := Paged.run_stale hcopy _ hpage hafter
  rw [hperformed, hsame, hstale, hselect, List.map_map]
  rfl

end

/-- Once a page has been selected, the chip performs the accesses that the calls mean, in
their order and none besides, exactly when no transfer fails. The reads then give what
the registers of these 16-bit addresses hold. After a selection that fails, every access
to that page reaches the page before it. -/
theorem clock_registers_flat (env : SpiEnv) {s : ClockState} (coherent : s.paged.Coherent)
    (first : s.currentPage = none → env.ok s.ioctls = true) (calls : List RegCall)
    (haddr : ∀ c ∈ calls, c.addr.setWidth 8 ≠ 1#8) :
    ((runRegCalls env calls s).2.chip.performed = s.chip.performed ++ calls.map RegCall.access ↔
      ∀ n, s.ioctls ≤ n → n < (runRegCalls env calls s).2.ioctls → env.ok n = true) ∧
    ((∀ n, s.ioctls ≤ n → n < (runRegCalls env calls s).2.ioctls → env.ok n = true) →
      (runRegCalls env calls s).1 = flatReads env.answer s.chip.performed calls ∧
        (runRegCalls env calls s).2.paged.Coherent) ∧
    ∀ page, s.currentPage ≠ some page → env.ok s.ioctls = false →
      (∀ n, s.ioctls < n → env.ok n = true) → (∀ c ∈ calls, pageOf c.addr = page) → calls ≠ [] →
      (runRegCalls env calls s).2.chip.performed =
        s.chip.performed ++ calls.map fun c => c.access.onPage s.chip.page :=
  ⟨runRegCalls_exact_iff coherent first calls haddr,
    fun hok => ⟨runRegCalls_reads calls haddr coherent [] hok,
      runRegCalls_coherent coherent calls haddr hok⟩,
    fun _ hother hfail hok hpages hne => runRegCalls_lost hother hfail hok haddr hpages hne⟩

/-- Before the first transfer. -/
def ClockState.start (page : Byte) : ClockState where
  currentPage := none
  chip := ⟨0#8, page, []⟩
  ioctls := 0

theorem ClockState.start_coherent (page : Byte) : (ClockState.start page).paged.Coherent := by
  intro p hp
  cases hp

/-- A chip with its part number, behind transfers that all go through. -/
def clockEnv : SpiEnv where
  ok := fun _ => true
  rdBuf := fun _ => 0#8
  answer := fun _ _ addr => if addr = 2#8 then 0x41#8 else if addr = 3#8 then 0x53#8 else 0#8

/-- From page 5 to page 11 and back to page 0. -/
theorem clock_registers_flat_pages :
    (runRegCalls clockEnv [.write 0x0B24#16 0xD8#8, .write 0x0021#16 0x0B#8]
        (.start 5#8)).2.chip.performed =
      [.write 0x0B#8 0x24#8 0xD8#8, .write 0x00#8 0x21#8 0x0B#8] :=
  (clock_registers_flat clockEnv (ClockState.start_coherent 5#8) (fun _ => rfl)
    [.write 0x0B24#16 0xD8#8, .write 0x0021#16 0x0B#8] (by decide)).1.mpr fun _ _ _ => rfl

/-! ## The start of the chip -/

/-- What the chip gives for its part number. -/
def basePart (answer : List ClockAccess → Byte → Byte → Byte) (done : List ClockAccess) : Word :=
  (answer done 0#8 2#8).setWidth 32 |||
    ((answer (done ++ [.read 0#8 2#8]) 0#8 3#8).setWidth 32 <<< 8)

def tableCalls (table : List (BitVec 16 × Byte)) : List RegCall :=
  table.map fun e => .write e.1 e.2

/-- The accesses of `si5341_Init`. -/
def initCalls (src : Int) (answer : List ClockAccess → Byte → Byte → Byte)
    (done : List ClockAccess) : List RegCall :=
  [.read 2#16, .read 3#16] ++
    if basePart answer done ≠ si5341Partnum then []
    else
      [.write 0x1E#16 2#8, .write 0x1C#16 1#8] ++
        (match clockTable src with
          | none => []
          | some table => tableCalls table ++ [.write 0x1E#16 4#8]) ++
        [.read 0x0C#16]

section

variable {env : SpiEnv}

theorem foldl_run_snd (calls : List RegCall) (bytes : List Byte) (s : ClockState) :
    (calls.foldl (RegCall.run env) (bytes, s)).2 = (runRegCalls env calls s).2 := by
  have hstate (c : RegCall) (bytes bytes' : List Byte) (s : ClockState) :
      (RegCall.run env (bytes, s) c).2 = (RegCall.run env (bytes', s) c).2 := by
    cases c with
    | write addr data => rfl
    | read addr => rfl
  have hany (calls : List RegCall) : ∀ (bytes bytes' : List Byte) (s : ClockState),
      (calls.foldl (RegCall.run env) (bytes, s)).2 =
        (calls.foldl (RegCall.run env) (bytes', s)).2 := by
    induction calls with
    | nil =>
      intro _ _ s
      rfl
    | cons c calls ih =>
      intro bytes bytes' s
      rw [List.foldl_cons, List.foldl_cons, ← Prod.mk.eta (p := RegCall.run env (bytes, s) c),
        ← Prod.mk.eta (p := RegCall.run env (bytes', s) c), hstate c bytes bytes' s]
      exact ih _ _ _
  exact hany calls bytes [] s

theorem runRegCalls_append (calls calls' : List RegCall) (s : ClockState) :
    (runRegCalls env (calls ++ calls') s).2 =
      (runRegCalls env calls' (runRegCalls env calls s).2).2 := by
  rw [runRegCalls, List.foldl_append]
  exact foldl_run_snd calls' _ _

theorem writeTable_eq (table : List (BitVec 16 × Byte)) (s : ClockState) :
    writeTable env table s = (runRegCalls env (tableCalls table) s).2 := by
  induction table generalizing s with
  | nil => rfl
  | cons e table ih => exact ih (si5341WriteReg env e.1 e.2 s)

theorem configure_eq (src : Int) (s : ClockState) :
    (si5341Configure env src s).2 =
      (runRegCalls env ([.write 0x1E#16 2#8, .write 0x1C#16 1#8] ++
        match clockTable src with
          | none => []
          | some table => tableCalls table ++ [.write 0x1E#16 4#8]) s).2 := by
  rw [si5341Configure, runRegCalls_append]
  cases clockTable src with
  | none => rfl
  | some table =>
    dsimp only
    rw [runRegCalls_append, writeTable_eq]
    rfl

theorem checkBasePart_eq (s : ClockState) :
    (si5341CheckBasePart env s).2 = (runRegCalls env [.read 2#16, .read 3#16] s).2 := by
  rw [si5341CheckBasePart]
  dsimp only
  split
  · rfl
  · rfl

theorem pages_of_all {table : List (BitVec 16 × Byte)}
    (h : (table.all fun e => e.1.setWidth 8 != 1#8) = true) :
    ∀ e ∈ table, e.1.setWidth 8 ≠ 1#8 :=
  fun e he => bne_iff_ne.mp (List.all_eq_true.mp h e he)

/-- No table writes the page register. -/
theorem clockTable_pages {src : Int} {table : List (BitVec 16 × Byte)}
    (h : clockTable src = some table) : ∀ e ∈ table, e.1.setWidth 8 ≠ 1#8 := by
  have hlocal : ∀ e ∈ si5431RegsLocal, e.1.setWidth 8 ≠ 1#8 :=
    pages_of_all (by decide +kernel)
  have hvxs250 : ∀ e ∈ si5431RegsVxs250, e.1.setWidth 8 ≠ 1#8 :=
    pages_of_all (by decide +kernel)
  have hvxs125 : ∀ e ∈ si5431RegsVxs125, e.1.setWidth 8 ≠ 1#8 :=
    pages_of_all (by decide +kernel)
  rw [clockTable] at h
  split at h
  · cases h
    exact hvxs250
  · split at h
    · cases h
      exact hvxs125
    · split at h
      · cases h
        exact hlocal
      · cases h

theorem initCalls_pages (src : Int) (answer : List ClockAccess → Byte → Byte → Byte)
    (done : List ClockAccess) : ∀ c ∈ initCalls src answer done, c.addr.setWidth 8 ≠ 1#8 := by
  have hpart : ∀ c ∈ [RegCall.read 2#16, .read 3#16], c.addr.setWidth 8 ≠ 1#8 := by decide
  have hreset : ∀ c ∈ [RegCall.write 0x1E#16 2#8, .write 0x1C#16 1#8],
      c.addr.setWidth 8 ≠ 1#8 := by decide
  have hsync : ∀ c ∈ [RegCall.write 0x1E#16 4#8], c.addr.setWidth 8 ≠ 1#8 := by decide
  have hstatus : ∀ c ∈ [RegCall.read 0x0C#16], c.addr.setWidth 8 ≠ 1#8 := by decide
  rw [initCalls]
  refine List.forall_mem_append.mpr ⟨hpart, ?_⟩
  split
  · exact List.forall_mem_nil _
  · refine List.forall_mem_append.mpr ⟨List.forall_mem_append.mpr ⟨hreset, ?_⟩, hstatus⟩
    split
    · exact List.forall_mem_nil _
    · next table htable =>
      refine List.forall_mem_append.mpr ⟨?_, hsync⟩
      intro c hc
      obtain ⟨e, he, rfl⟩ := List.mem_map.mp hc
      exact clockTable_pages htable e he

end

/-- When no transfer fails, the chip is found out by its part number, and a wrong one
leaves it alone but for the two reads. Otherwise it is reset, gets the table of its
source register by register in the order of the table, is synchronised and asked for its
status. A source without a table leaves it reset, and that is success too. -/
theorem si5341_init_programs (env : SpiEnv) {s : ClockState} (coherent : s.paged.Coherent)
    (hok : ∀ n, s.ioctls ≤ n → env.ok n = true) (src : Int) :
    (si5341Init env src s).1 =
        (if basePart env.answer s.chip.performed ≠ si5341Partnum then error else ok) ∧
      (si5341Init env src s).2.chip.performed = s.chip.performed ++
        (initCalls src env.answer s.chip.performed).map RegCall.access ∧
      (si5341Init env src s).2.paged.Coherent := by
  have hreads : ∀ c ∈ [RegCall.read 2#16, .read 3#16], c.addr.setWidth 8 ≠ 1#8 := by decide
  have hbytes := @runRegCalls_reads env s [RegCall.read 2#16, .read 3#16] hreads coherent []
    fun n hle _ => hok n hle
  have hcode : (si5341CheckBasePart env s).1 =
      if basePart env.answer s.chip.performed ≠ si5341Partnum then error else ok := by
    have hlow : (si5341ReadReg env 2#16 s).1 = env.answer s.chip.performed 0#8 2#8 :=
      (List.cons.inj hbytes).1
    have hhigh : (si5341ReadReg env 3#16 (si5341ReadReg env 2#16 s).2).1 =
        env.answer (s.chip.performed ++ [.read 0#8 2#8]) 0#8 3#8 :=
      (List.cons.inj (List.cons.inj hbytes).2).1
    rw [si5341CheckBasePart]
    dsimp only
    rw [hlow, hhigh, ← basePart]
    split
    · rfl
    · rfl
  have hinit : si5341Init env src s =
      if (si5341CheckBasePart env s).1 ≠ ok then (error, (si5341CheckBasePart env s).2)
      else
        (ok, (si5341ReadStatus env (si5341Configure env src (si5341CheckBasePart env s).2).2).2) :=
    rfl
  have hpages := initCalls_pages src env.answer s.chip.performed
  have hstate : (si5341Init env src s).2 =
      (runRegCalls env (initCalls src env.answer s.chip.performed) s).2 := by
    rw [hinit, hcode, initCalls, runRegCalls_append, ← checkBasePart_eq]
    by_cases hpart : basePart env.answer s.chip.performed ≠ si5341Partnum
    · rw [if_pos hpart, if_pos hpart, if_pos (by decide)]
      rfl
    · rw [if_neg hpart, if_neg hpart, if_neg (by decide), runRegCalls_append, ← configure_eq]
      rfl
  have hreturn : (si5341Init env src s).1 = (si5341CheckBasePart env s).1 := by
    rw [hinit, hcode]
    by_cases hpart : basePart env.answer s.chip.performed ≠ si5341Partnum
    · rw [if_pos hpart, if_pos (by decide)]
    · rw [if_neg hpart, if_neg (by decide)]
  have hall : ∀ n, s.ioctls ≤ n → n < (runRegCalls env (initCalls src env.answer
      s.chip.performed) s).2.ioctls → env.ok n = true := fun n hle _ => hok n hle
  refine ⟨hreturn.trans hcode, ?_, ?_⟩
  · rw [hstate]
    exact (runRegCalls_exact_iff coherent (fun _ => hok _ (Nat.le_refl _)) _ hpages).mpr hall
  · rw [hstate]
    exact runRegCalls_coherent coherent _ hpages hall

/-- A source that has no table. -/
theorem si5341_init_programs_unknown :
    (si5341Init clockEnv 0 (.start 5#8)).1 = ok ∧
      (si5341Init clockEnv 0 (.start 5#8)).2.chip.performed =
        [.read 0#8 2#8, .read 0#8 3#8, .write 0#8 0x1E#8 2#8, .write 0#8 0x1C#8 1#8,
          .read 0#8 0x0C#8] := by
  obtain ⟨hcode, hperformed, -⟩ := si5341_init_programs clockEnv (ClockState.start_coherent 5#8)
    (fun _ _ => rfl) 0
  exact ⟨hcode, hperformed⟩

end VtpStreaming
