import Mathlib.Data.List.FinRange
import Mathlib.Logic.Function.Basic
import VtpStreaming.Clib.Bytes
import VtpStreaming.Clib.Latest
import VtpStreaming.Clib.OpenedOnce
import VtpStreaming.VtpLib

/-!
# Opening and closing the devices

`vtp/vtpLib.c`, `vtpOpen` and `vtpClose` with `vtpFPGAOpen`, `vtpFPGAClose` and
`vtpKillLockShm`, `vtp/vtp-i2c.c`, `vtpI2COpen` and `vtpI2CClose`, `vtp/vtp-spi.c`,
`vtpSPIOpen` and `vtpSPIClose`: what one process has open after any calls.

A close leaves the number of the descriptor in its variable, and an open takes a number
that is there for a descriptor. The system may give the number to another file by then, so
the devices come twice: as the code has them, with one table of descriptors, and each with
a file of its own.
-/

namespace VtpStreaming

open Clib Function

def vtpFpgaOpen : Word := 1#32
def vtpI2cOpen : Word := 2#32
def vtpSpiOpen : Word := 4#32

/-! ## The code -/

inductive Device
  | fpga
  | i2c (iid : Fin 2)
  | spi
deriving DecidableEq

def Device.bit : Device → Word
  | .fpga => vtpFpgaOpen
  | .i2c _ => vtpI2cOpen
  | .spi => vtpSpiOpen

/-- What the system answers to one `vtpOpen`: to `open` of each device, to `mmap`, and
whether the shared memory of the lock can be opened. -/
structure OpenAnswers where
  fd : Device → Int
  mmap : Bool
  shm : Bool

/-- The pointer to the registers. A failed `mmap` leaves one that is not null. -/
inductive RegPointer
  | null
  | failed
  | mapped
deriving DecidableEq

/-- `vtpFPGAFD`, `vtpI2CFD` and `vtpSPIFD`, the pointer, and which device a descriptor of
the process stands for. -/
structure Devs where
  fd : Device → Int
  vtp : RegPointer
  files : Int → Option Device

/-- `open`, which has answered `answer`. -/
def Devs.open (dev : Device) (answer : Int) (s : Devs) : Devs :=
  { s with
    fd := update s.fd dev answer
    files := if 0 ≤ answer then update s.files answer (some dev) else s.files }

/-- `close` of the number in the variable, whatever that stands for. -/
def Devs.close (dev : Device) (s : Devs) : Devs :=
  { s with files := update s.files (s.fd dev) none }

def vtpFPGAOpen (a : OpenAnswers) (s : Devs) : Int × Devs :=
  if 0 < s.fd .fpga then (ok, s)
  else
    let s := s.open .fpga (a.fd .fpga)
    if a.fd .fpga < 0 then (error, s)
    else if a.mmap then (ok, { s with vtp := .mapped })
    else (error, { s with vtp := .failed })

def vtpFPGAClose (s : Devs) : Int × Devs :=
  if s.fd .fpga < 0 then (error, s) else (ok, { s with vtp := .null }.close .fpga)

/-- The loop of `vtpI2COpen`. -/
def openI2c (a : OpenAnswers) : List (Fin 2) → Devs → Int × Devs
  | [], s => (ok, s)
  | iid :: iids, s =>
      if 0 < s.fd (.i2c iid) then (ok, s)
      else
        let s := s.open (.i2c iid) (a.fd (.i2c iid))
        if a.fd (.i2c iid) < 0 then (error, s) else openI2c a iids s

/-- The loop of `vtpI2CClose`. -/
def closeI2c : List (Fin 2) → Devs → Int × Devs
  | [], s => (ok, s)
  | iid :: iids, s =>
      if s.fd (.i2c iid) ≤ 0 then (error, s) else closeI2c iids (s.close (.i2c iid))

def vtpI2COpen (a : OpenAnswers) (s : Devs) : Int × Devs := openI2c a (List.finRange 2) s

def vtpI2CClose (s : Devs) : Int × Devs := closeI2c (List.finRange 2) s

/-- There is one SPI device. What is set up on it is left out. -/
def vtpSPIOpen (a : OpenAnswers) (s : Devs) : Int × Devs :=
  if 0 < s.fd .spi then (ok, s)
  else
    let s := s.open .spi (a.fd .spi)
    if a.fd .spi < 0 then (error, s) else (ok, s)

def vtpSPIClose (s : Devs) : Int × Devs :=
  if s.fd .spi ≤ 0 then (error, s) else (ok, s.close .spi)

/-- One device of `vtpOpen`, with `vtpDevOpenMASK`. -/
def openDev {D : Type} (bit : Word) (dev : D → Int × D) (devMask : Word) (s : D × Word) :
    D × Word :=
  if devMask &&& bit = 0#32 then s
  else if s.2 &&& bit ≠ 0#32 then s
  else
    let (code, d) := dev s.1
    (d, if code = ok then s.2 ||| bit else s.2)

def closeDev {D : Type} (bit : Word) (dev : D → Int × D) (devMask : Word) (s : D × Word) :
    D × Word :=
  if devMask &&& bit = 0#32 then s
  else
    let (code, d) := dev s.1
    (d, if code = ok then s.2 &&& ~~~bit else s.2)

structure DevState where
  devs : Devs
  mask : Word
  shm : Bool

def DevState.start : DevState where
  devs := ⟨fun _ => -1, .null, fun _ => none⟩
  mask := 0#32
  shm := false

/-- The mask that is returned is the one in the state. -/
def vtpOpen (devMask : Word) (a : OpenAnswers) (s : DevState) : DevState :=
  let fpga := openDev vtpFpgaOpen (vtpFPGAOpen a) devMask (s.devs, s.mask)
  let i2c := openDev vtpI2cOpen (vtpI2COpen a) devMask fpga
  let spi := openDev vtpSpiOpen (vtpSPIOpen a) devMask i2c
  { devs := spi.1, mask := spi.2, shm := s.shm || a.shm }

/-- The lock goes with whichever device is closed. -/
def vtpClose (devMask : Word) (s : DevState) : DevState :=
  let spi := closeDev vtpSpiOpen vtpSPIClose devMask (s.devs, s.mask)
  let i2c := closeDev vtpI2cOpen vtpI2CClose devMask spi
  let fpga := closeDev vtpFpgaOpen vtpFPGAClose devMask i2c
  { devs := fpga.1, mask := fpga.2, shm := false }

/-! ## Runs -/

inductive DevCall
  | opening (devMask : Word) (a : OpenAnswers)
  | closing (devMask : Word)

def DevCall.run (s : DevState) : DevCall → DevState
  | .opening devMask a => vtpOpen devMask a s
  | .closing devMask => vtpClose devMask s

def runDevCalls (calls : List DevCall) : DevState := calls.foldl DevCall.run .start

/-- Numbers that the process does not use. It uses 0 for its standard input. -/
structure OpenAnswers.Unused (a : OpenAnswers) (files : Int → Option Device) : Prop where
  nonzero : ∀ dev, a.fd dev ≠ 0
  unused : ∀ dev, files (a.fd dev) = none
  distinct : ∀ dev dev', 0 < a.fd dev → a.fd dev = a.fd dev' → dev = dev'

namespace DevCall

/-- The system opens with numbers that are not used, and no device is closed whose number
is another one's by then. -/
def Proper (s : DevState) : DevCall → Prop
  | .opening _ a => a.Unused s.devs.files
  | .closing devMask => ∀ dev dev' : Device, devMask &&& dev.bit ≠ 0#32 →
      s.devs.files (s.devs.fd dev) = some dev' → dev' = dev

/-- An open that asks for `dev` and gets a descriptor. -/
def gets (dev : Device) : DevCall → Bool
  | .opening devMask a => decide (devMask &&& dev.bit ≠ 0#32) && decide (0 < a.fd dev)
  | .closing _ => false

/-- An open that goes on well from there. -/
def uses (p : OpenAnswers → Bool) : DevCall → Bool
  | .opening _ a => p a
  | .closing _ => false

def closes (dev : Device) : DevCall → Bool
  | .opening _ _ => false
  | .closing devMask => decide (devMask &&& dev.bit ≠ 0#32)

end DevCall

def ProperRun : DevState → List DevCall → Prop
  | _, [] => True
  | s, c :: calls => c.Proper s ∧ ProperRun (c.run s) calls

/-! ## Bits of the mask -/

theorem or_bit (mask bit : Word) : (mask ||| bit) &&& bit = bit := by
  apply BitVec.eq_of_getLsbD_eq
  intro i _
  rw [BitVec.getLsbD_and, BitVec.getLsbD_or]
  cases bit.getLsbD i with
  | false => rw [Bool.and_false]
  | true => rw [Bool.or_true, Bool.and_true]

theorem and_not_bit (mask bit : Word) : mask &&& ~~~bit &&& bit = 0#32 := by
  rw [BitVec.and_assoc, BitVec.and_comm (~~~bit), BitVec.and_not_self]
  exact BitVec.and_zero

theorem or_other {bit bit' : Word} (h : bit &&& bit' = 0#32) (mask : Word) :
    (mask ||| bit) &&& bit' = mask &&& bit' := by
  rw [BitVec.and_or_distrib_right, h, BitVec.or_zero]

theorem and_not_other {bit bit' : Word} (h : bit &&& bit' = 0#32) (mask : Word) :
    mask &&& ~~~bit &&& bit' = mask &&& bit' := by
  apply BitVec.eq_of_getLsbD_eq
  intro i hi
  have hbit : (bit.getLsbD i && bit'.getLsbD i) = false := by
    rw [← BitVec.getLsbD_and, h, BitVec.getLsbD_zero]
  rw [BitVec.getLsbD_and, BitVec.getLsbD_and, BitVec.getLsbD_and, BitVec.getLsbD_not]
  cases hset : bit.getLsbD i with
  | false => simp [hi]
  | true =>
    rw [hset, Bool.true_and] at hbit
    rw [hbit, Bool.and_false, Bool.and_false]

/-! ## Devices with a file of their own -/

namespace OwnFile

/-- A variable with a descriptor, and whether the device is open. -/
structure DevFile where
  fd : Int
  file : Bool

structure Fpga where
  dev : DevFile
  vtp : RegPointer

structure State where
  fpga : Fpga
  i2c : Fin 2 → DevFile
  spi : DevFile
  mask : Word

def DevFile.unopened : DevFile := ⟨-1, false⟩

def State.start : State where
  fpga := ⟨.unopened, .null⟩
  i2c := fun _ => .unopened
  spi := .unopened
  mask := 0#32

def DevFile.opened (fd : Int) : DevFile := ⟨fd, decide (0 ≤ fd)⟩

def DevFile.closed (d : DevFile) : DevFile := { d with file := false }

def openFpga (a : OpenAnswers) (d : Fpga) : Int × Fpga :=
  if 0 < d.dev.fd then (ok, d)
  else if a.fd .fpga < 0 then (error, { d with dev := .opened (a.fd .fpga) })
  else if a.mmap then (ok, ⟨.opened (a.fd .fpga), .mapped⟩)
  else (error, ⟨.opened (a.fd .fpga), .failed⟩)

def closeFpga (d : Fpga) : Int × Fpga :=
  if d.dev.fd < 0 then (error, d) else (ok, ⟨d.dev.closed, .null⟩)

def openI2c (a : OpenAnswers) (d : Fin 2 → DevFile) : Int × (Fin 2 → DevFile) :=
  if 0 < (d 0).fd then (ok, d)
  else
    let d := update d 0 (.opened (a.fd (.i2c 0)))
    if a.fd (.i2c 0) < 0 then (error, d)
    else if 0 < (d 1).fd then (ok, d)
    else
      let d := update d 1 (.opened (a.fd (.i2c 1)))
      if a.fd (.i2c 1) < 0 then (error, d) else (ok, d)

def closeI2c (d : Fin 2 → DevFile) : Int × (Fin 2 → DevFile) :=
  if (d 0).fd ≤ 0 then (error, d)
  else
    let d := update d 0 (d 0).closed
    if (d 1).fd ≤ 0 then (error, d) else (ok, update d 1 (d 1).closed)

def openSpi (a : OpenAnswers) (d : DevFile) : Int × DevFile :=
  if 0 < d.fd then (ok, d)
  else if a.fd .spi < 0 then (error, .opened (a.fd .spi))
  else (ok, .opened (a.fd .spi))

def closeSpi (d : DevFile) : Int × DevFile := if d.fd ≤ 0 then (error, d) else (ok, d.closed)

def openAll (devMask : Word) (a : OpenAnswers) (s : State) : State :=
  let fpga := openDev vtpFpgaOpen (openFpga a) devMask (s.fpga, s.mask)
  let i2c := openDev vtpI2cOpen (openI2c a) devMask (s.i2c, fpga.2)
  let spi := openDev vtpSpiOpen (openSpi a) devMask (s.spi, i2c.2)
  { fpga := fpga.1, i2c := i2c.1, spi := spi.1, mask := spi.2 }

def closeAll (devMask : Word) (s : State) : State :=
  let spi := closeDev vtpSpiOpen closeSpi devMask (s.spi, s.mask)
  let i2c := closeDev vtpI2cOpen closeI2c devMask (s.i2c, spi.2)
  let fpga := closeDev vtpFpgaOpen closeFpga devMask (s.fpga, i2c.2)
  { fpga := fpga.1, i2c := i2c.1, spi := spi.1, mask := fpga.2 }

def run (s : State) : DevCall → State
  | .opening devMask a => openAll devMask a s
  | .closing devMask => closeAll devMask s

def runAll (calls : List DevCall) : State := calls.foldl run .start

/-- No `open` of the call answers 0. -/
def Nonzero : DevCall → Prop
  | .opening _ a => ∀ dev, a.fd dev ≠ 0
  | .closing _ => True

/-! ### One device -/

section

variable {D : Type}

/-- The part of one device, and whether the mask reports it. -/
def shown (bit : Word) (s : D × Word) : D × Bool := (s.1, decide (s.2 &&& bit ≠ 0#32))

def openPart (bit : Word) (dev : D → Int × D) (devMask : Word) (s : D × Bool) : D × Bool :=
  if devMask &&& bit = 0#32 then s
  else if s.2 then s
  else ((dev s.1).2, decide ((dev s.1).1 = ok))

def closePart (bit : Word) (dev : D → Int × D) (devMask : Word) (s : D × Bool) : D × Bool :=
  if devMask &&& bit = 0#32 then s
  else ((dev s.1).2, s.2 && decide ((dev s.1).1 ≠ ok))

theorem openDev_shown {bit : Word} (hbit : bit ≠ 0#32) (dev : D → Int × D) (devMask : Word)
    (s : D × Word) :
    shown bit (openDev bit dev devMask s) = openPart bit dev devMask (shown bit s) := by
  rw [openDev, openPart]
  split
  · rfl
  · have hon : (s.2 ||| bit) &&& bit ≠ 0#32 := by rwa [or_bit]
    by_cases h : s.2 &&& bit = 0#32
    · have hoff : (shown bit s).2 = false := decide_eq_false (not_not_intro h)
      rw [if_neg (not_not_intro h), hoff, if_neg Bool.false_ne_true]
      by_cases hcode : (dev s.1).1 = ok
      · simp [shown, hcode, hon]
      · simp [shown, hcode, h]
    · have hset : (shown bit s).2 = true := decide_eq_true h
      rw [if_pos h, if_pos hset]

theorem closeDev_shown (bit : Word) (dev : D → Int × D) (devMask : Word) (s : D × Word) :
    shown bit (closeDev bit dev devMask s) = closePart bit dev devMask (shown bit s) := by
  rw [closeDev, closePart]
  split
  · rfl
  · have hclear := and_not_bit s.2 bit
    by_cases hcode : (dev s.1).1 = ok
    · simp [shown, hcode, hclear]
    · simp [shown, hcode]

/-- The bits of the other devices stay. -/
theorem openDev_other {bit bit' : Word} (h : bit &&& bit' = 0#32) (dev : D → Int × D)
    (devMask : Word) (s : D × Word) :
    (openDev bit dev devMask s).2 &&& bit' = s.2 &&& bit' := by
  rw [openDev]
  split
  · rfl
  · split
    · rfl
    · dsimp only
      split
      · exact or_other h s.2
      · rfl

theorem closeDev_other {bit bit' : Word} (h : bit &&& bit' = 0#32) (dev : D → Int × D)
    (devMask : Word) (s : D × Word) :
    (closeDev bit dev devMask s).2 &&& bit' = s.2 &&& bit' := by
  rw [closeDev]
  split
  · rfl
  · dsimp only
    split
    · exact and_not_other h s.2
    · rfl

/-- What a device does as long as its variable keeps a descriptor. -/
structure OnceOnly (shows : Latch → D → Prop) (opens : OpenAnswers → D → Int × D)
    (closes : D → Int × D) (dev : Device) (p : OpenAnswers → Bool) : Prop where
  missed : ∀ a d, shows .fresh d → a.fd dev < 0 →
    (opens a d).1 ≠ ok ∧ shows .fresh (opens a d).2
  first : ∀ (a : OpenAnswers) d, (∀ dev, a.fd dev ≠ 0) → shows .fresh d → 0 < a.fd dev →
    shows (if p a then .live else .spent) (opens a d).2
  again : ∀ l a d, l ≠ .fresh → shows l d → opens a d = (ok, d)
  unopened : ∀ d, shows .fresh d → shows .fresh (closes d).2
  closed : ∀ l d, l ≠ .fresh → shows l d → shows .spent (closes d).2

variable {shows : Latch → D → Prop} {opens : OpenAnswers → D → Int × D} {closes : D → Int × D}
  {dev : Device} {p : OpenAnswers → Bool}

/-- The device follows a latch, and is not reported before it has a descriptor. -/
def DevTold (shows : Latch → D → Prop) (l : Latch) (s : D × Bool) : Prop :=
  shows l s.1 ∧ (l = .fresh → s.2 = false)

theorem OnceOnly.open (laws : OnceOnly shows opens closes dev p) {l : Latch} {s : D × Bool}
    (h : DevTold shows l s) (devMask : Word) {a : OpenAnswers} (ha : ∀ dev, a.fd dev ≠ 0) :
    DevTold shows
      (l.step (DevCall.gets dev) (DevCall.uses p) (DevCall.closes dev) (.opening devMask a))
      (openPart dev.bit (opens a) devMask s) := by
  obtain ⟨hshows, hoff⟩ := h
  have hheld : l ≠ .fresh → openPart dev.bit (opens a) devMask s = s ∨
      openPart dev.bit (opens a) devMask s = (s.1, true) := by
    intro hl
    rw [openPart, laws.again l a s.1 hl hshows]
    split
    · exact Or.inl rfl
    · split
      · exact Or.inl rfl
      · exact Or.inr rfl
  cases l with
  | fresh =>
    rw [openPart, hoff rfl, if_neg Bool.false_ne_true, Latch.step, DevCall.gets, DevCall.uses]
    by_cases hmask : devMask &&& dev.bit = 0#32
    · rw [if_pos hmask, decide_eq_false (not_not_intro hmask), Bool.false_and,
        if_neg Bool.false_ne_true]
      exact ⟨hshows, hoff⟩
    · rw [if_neg hmask, decide_eq_true hmask, Bool.true_and]
      by_cases hfd : 0 < a.fd dev
      · rw [decide_eq_true hfd, if_pos rfl]
        refine ⟨laws.first a s.1 ha hshows hfd, fun hfresh => ?_⟩
        split at hfresh
        · cases hfresh
        · cases hfresh
      · rw [decide_eq_false hfd, if_neg Bool.false_ne_true]
        obtain ⟨hcode, hstill⟩ :=
          laws.missed a s.1 hshows (lt_of_le_of_ne (not_lt.mp hfd) (ha dev))
        exact ⟨hstill, fun _ => decide_eq_false hcode⟩
  | live =>
    refine ⟨?_, fun hfresh => by cases hfresh⟩
    cases hheld (by decide) with
    | inl hsame => rw [hsame]; exact hshows
    | inr htold => rw [htold]; exact hshows
  | spent =>
    refine ⟨?_, fun hfresh => by cases hfresh⟩
    cases hheld (by decide) with
    | inl hsame => rw [hsame]; exact hshows
    | inr htold => rw [htold]; exact hshows

theorem OnceOnly.close (laws : OnceOnly shows opens closes dev p) {l : Latch} {s : D × Bool}
    (h : DevTold shows l s) (devMask : Word) :
    DevTold shows
      (l.step (DevCall.gets dev) (DevCall.uses p) (DevCall.closes dev) (.closing devMask))
      (closePart dev.bit closes devMask s) := by
  obtain ⟨hshows, hoff⟩ := h
  rw [closePart]
  by_cases hmask : devMask &&& dev.bit = 0#32
  · have hcloses : DevCall.closes dev (.closing devMask) = false :=
      decide_eq_false (not_not_intro hmask)
    have hstay : l.step (DevCall.gets dev) (DevCall.uses p) (DevCall.closes dev)
        (.closing devMask) = l := by
      cases l with
      | fresh => rfl
      | live => rw [Latch.step, hcloses, if_neg Bool.false_ne_true]
      | spent => rfl
    rw [if_pos hmask, hstay]
    exact ⟨hshows, hoff⟩
  · have hcloses : DevCall.closes dev (.closing devMask) = true := decide_eq_true hmask
    rw [if_neg hmask]
    cases l with
    | fresh =>
      refine ⟨laws.unopened s.1 hshows, fun _ => ?_⟩
      dsimp only
      rw [hoff rfl, Bool.false_and]
    | live =>
      rw [Latch.step, hcloses, if_pos rfl]
      exact ⟨laws.closed .live s.1 (by decide) hshows, fun hfresh => by cases hfresh⟩
    | spent => exact ⟨laws.closed .spent s.1 (by decide) hshows, fun hfresh => by cases hfresh⟩

/-- The run lemma of one device, `part` of the state. -/
theorem OnceOnly.run (laws : OnceOnly shows opens closes dev p) {part : State → D × Bool}
    (hopen : ∀ devMask a s,
      part (openAll devMask a s) = openPart dev.bit (opens a) devMask (part s))
    (hclose : ∀ devMask s, part (closeAll devMask s) = closePart dev.bit closes devMask (part s))
    (hstart : DevTold shows .fresh (part .start)) {calls : List DevCall}
    (nonzero : ∀ c ∈ calls, Nonzero c) :
    DevTold shows
      (Latch.after (DevCall.gets dev) (DevCall.uses p) (DevCall.closes dev) calls)
      (part (runAll calls)) := by
  induction calls using List.reverseRecOn with
  | nil => exact hstart
  | append_singleton calls c ih =>
    rw [List.forall_mem_append, List.forall_mem_singleton] at nonzero
    rw [Latch.after_concat, runAll, List.foldl_append, List.foldl_cons, List.foldl_nil]
    cases c with
    | opening devMask a =>
      rw [OwnFile.run, hopen]
      exact laws.open (ih nonzero.1) devMask nonzero.2
    | closing devMask =>
      rw [OwnFile.run, hclose]
      exact laws.close (ih nonzero.1) devMask

/-- A device that has had a descriptor is reported as open by every open of it. -/
theorem OnceOnly.reported (laws : OnceOnly shows opens closes dev p) {l : Latch} {s : D × Bool}
    (hl : l ≠ .fresh) (h : DevTold shows l s) {devMask : Word} (hmask : devMask &&& dev.bit ≠ 0#32)
    (a : OpenAnswers) : (openPart dev.bit (opens a) devMask s).2 = true := by
  rw [openPart, if_neg hmask, laws.again l a s.1 hl h.1]
  split
  · next hon => exact hon
  · rfl

end

/-! ### The three devices -/

def State.fpgaPart (s : State) : Fpga × Bool := shown vtpFpgaOpen (s.fpga, s.mask)

def State.i2cPart (s : State) : (Fin 2 → DevFile) × Bool := shown vtpI2cOpen (s.i2c, s.mask)

def State.spiPart (s : State) : DevFile × Bool := shown vtpSpiOpen (s.spi, s.mask)

/-- What is shown depends on one bit of the mask only. -/
theorem shown_congr {D : Type} {bit mask mask' : Word} (h : mask &&& bit = mask' &&& bit) (d : D) :
    shown bit (d, mask) = shown bit (d, mask') := by
  rw [shown, shown, h]

theorem fpga_i2c : vtpFpgaOpen &&& vtpI2cOpen = 0#32 ∧ vtpI2cOpen &&& vtpFpgaOpen = 0#32 := by
  decide

theorem fpga_spi : vtpFpgaOpen &&& vtpSpiOpen = 0#32 ∧ vtpSpiOpen &&& vtpFpgaOpen = 0#32 := by
  decide

theorem i2c_spi : vtpI2cOpen &&& vtpSpiOpen = 0#32 ∧ vtpSpiOpen &&& vtpI2cOpen = 0#32 := by
  decide

section

variable (devMask : Word) (a : OpenAnswers) (s : State)

theorem openAll_fpga :
    (openAll devMask a s).fpgaPart = openPart vtpFpgaOpen (openFpga a) devMask s.fpgaPart := by
  have hmask : (openAll devMask a s).mask &&& vtpFpgaOpen =
      (openDev vtpFpgaOpen (openFpga a) devMask (s.fpga, s.mask)).2 &&& vtpFpgaOpen :=
    (openDev_other fpga_spi.2 _ _ _).trans (openDev_other fpga_i2c.2 _ _ _)
  exact (shown_congr hmask _).trans (openDev_shown (by decide) _ _ _)

theorem openAll_i2c :
    (openAll devMask a s).i2cPart = openPart vtpI2cOpen (openI2c a) devMask s.i2cPart := by
  let mask := (openDev vtpFpgaOpen (openFpga a) devMask (s.fpga, s.mask)).2
  have hbefore : mask &&& vtpI2cOpen = s.mask &&& vtpI2cOpen := openDev_other fpga_i2c.1 _ _ _
  have hmask : (openAll devMask a s).mask &&& vtpI2cOpen =
      (openDev vtpI2cOpen (openI2c a) devMask (s.i2c, mask)).2 &&& vtpI2cOpen :=
    openDev_other i2c_spi.2 _ _ _
  refine (shown_congr hmask _).trans ?_
  exact (openDev_shown (by decide) _ _ _).trans (congrArg _ (shown_congr hbefore _))

theorem openAll_spi :
    (openAll devMask a s).spiPart = openPart vtpSpiOpen (openSpi a) devMask s.spiPart := by
  let mask := (openDev vtpI2cOpen (openI2c a) devMask
    (s.i2c, (openDev vtpFpgaOpen (openFpga a) devMask (s.fpga, s.mask)).2)).2
  have hbefore : mask &&& vtpSpiOpen = s.mask &&& vtpSpiOpen :=
    (openDev_other i2c_spi.1 _ _ _).trans (openDev_other fpga_spi.1 _ _ _)
  exact (openDev_shown (by decide) _ _ (s.spi, mask)).trans (congrArg _ (shown_congr hbefore _))

theorem closeAll_spi :
    (closeAll devMask s).spiPart = closePart vtpSpiOpen closeSpi devMask s.spiPart := by
  have hmask : (closeAll devMask s).mask &&& vtpSpiOpen =
      (closeDev vtpSpiOpen closeSpi devMask (s.spi, s.mask)).2 &&& vtpSpiOpen :=
    (closeDev_other fpga_spi.1 _ _ _).trans (closeDev_other i2c_spi.1 _ _ _)
  exact (shown_congr hmask _).trans (closeDev_shown _ _ _ _)

theorem closeAll_i2c :
    (closeAll devMask s).i2cPart = closePart vtpI2cOpen closeI2c devMask s.i2cPart := by
  let mask := (closeDev vtpSpiOpen closeSpi devMask (s.spi, s.mask)).2
  have hbefore : mask &&& vtpI2cOpen = s.mask &&& vtpI2cOpen := closeDev_other i2c_spi.2 _ _ _
  have hmask : (closeAll devMask s).mask &&& vtpI2cOpen =
      (closeDev vtpI2cOpen closeI2c devMask (s.i2c, mask)).2 &&& vtpI2cOpen :=
    closeDev_other fpga_i2c.1 _ _ _
  refine (shown_congr hmask _).trans ?_
  exact (closeDev_shown _ _ _ _).trans (congrArg _ (shown_congr hbefore _))

theorem closeAll_fpga :
    (closeAll devMask s).fpgaPart = closePart vtpFpgaOpen closeFpga devMask s.fpgaPart := by
  let mask := (closeDev vtpI2cOpen closeI2c devMask
    (s.i2c, (closeDev vtpSpiOpen closeSpi devMask (s.spi, s.mask)).2)).2
  have hbefore : mask &&& vtpFpgaOpen = s.mask &&& vtpFpgaOpen :=
    (closeDev_other fpga_i2c.2 _ _ _).trans (closeDev_other fpga_spi.2 _ _ _)
  exact (closeDev_shown _ _ _ (s.fpga, mask)).trans (congrArg _ (shown_congr hbefore _))

end

/-- The registers are mapped as long as the latch is live. -/
def FpgaShows : Latch → Fpga → Prop
  | .fresh, d => d.dev.fd < 0 ∧ d.vtp = .null
  | .live, d => 0 < d.dev.fd ∧ d.vtp = .mapped
  | .spent, d => 0 < d.dev.fd ∧ d.vtp ≠ .mapped

/-- The first device tells whether both are taken for open. -/
def I2cShows (iid : Fin 2) : Latch → (Fin 2 → DevFile) → Prop
  | .fresh, d => (d 0).fd < 0 ∧ (d 1).fd < 0 ∧ (d iid).file = false
  | .live, d => 0 < (d 0).fd ∧ 0 < (d iid).fd ∧ (d iid).file = true
  | .spent, d => 0 < (d 0).fd ∧ (d iid).file = false

def SpiShows : Latch → DevFile → Prop
  | .fresh, d => d.fd < 0 ∧ d.file = false
  | .live, d => 0 < d.fd ∧ d.file = true
  | .spent, d => 0 < d.fd ∧ d.file = false

theorem FpgaShows.mapped_iff {l : Latch} {d : Fpga} (h : FpgaShows l d) :
    d.vtp = .mapped ↔ l = .live := by
  cases l with
  | fresh => exact iff_of_false (by rw [h.2]; decide) (by decide)
  | live => exact iff_of_true h.2 rfl
  | spent => exact iff_of_false h.2 (by decide)

theorem I2cShows.file_iff {iid : Fin 2} {l : Latch} {d : Fin 2 → DevFile}
    (h : I2cShows iid l d) : (d iid).file = true ↔ l = .live := by
  cases l with
  | fresh => exact iff_of_false (Bool.eq_false_iff.mp h.2.2) (by decide)
  | live => exact iff_of_true h.2.2 rfl
  | spent => exact iff_of_false (Bool.eq_false_iff.mp h.2) (by decide)

theorem SpiShows.file_iff {l : Latch} {d : DevFile} (h : SpiShows l d) :
    d.file = true ↔ l = .live := by
  cases l with
  | fresh => exact iff_of_false (Bool.eq_false_iff.mp h.2) (by decide)
  | live => exact iff_of_true h.2 rfl
  | spent => exact iff_of_false (Bool.eq_false_iff.mp h.2) (by decide)

theorem error_ne_ok : error ≠ ok := by decide

theorem failed_ne_mapped : RegPointer.failed ≠ .mapped := by decide

theorem null_ne_mapped : RegPointer.null ≠ .mapped := by decide

theorem fpga_once : OnceOnly FpgaShows openFpga closeFpga .fpga OpenAnswers.mmap where
  missed := by
    rintro a d ⟨hfd, hvtp⟩ hneg
    rw [openFpga, if_neg (not_lt.mpr hfd.le), if_pos hneg]
    exact ⟨error_ne_ok, hneg, hvtp⟩
  first := by
    rintro a d - ⟨hfd, -⟩ hanswer
    rw [openFpga, if_neg (not_lt.mpr hfd.le), if_neg (not_lt.mpr hanswer.le)]
    cases a.mmap with
    | false => exact ⟨hanswer, failed_ne_mapped⟩
    | true => exact ⟨hanswer, rfl⟩
  again := by
    intro l a d hl h
    have hfd : 0 < d.dev.fd := by
      cases l with
      | fresh => exact absurd rfl hl
      | live => exact h.1
      | spent => exact h.1
    rw [openFpga, if_pos hfd]
  unopened := by
    rintro d ⟨hfd, hvtp⟩
    rw [closeFpga, if_pos hfd]
    exact ⟨hfd, hvtp⟩
  closed := by
    intro l d hl h
    have hfd : 0 < d.dev.fd := by
      cases l with
      | fresh => exact absurd rfl hl
      | live => exact h.1
      | spent => exact h.1
    rw [closeFpga, if_neg (not_lt.mpr hfd.le)]
    exact ⟨hfd, null_ne_mapped⟩

theorem spi_once : OnceOnly SpiShows openSpi closeSpi .spi fun _ => true where
  missed := by
    rintro a d ⟨hfd, -⟩ hneg
    rw [openSpi, if_neg (not_lt.mpr hfd.le), if_pos hneg]
    exact ⟨error_ne_ok, hneg, decide_eq_false (not_le.mpr hneg)⟩
  first := by
    rintro a d - ⟨hfd, -⟩ hanswer
    rw [openSpi, if_neg (not_lt.mpr hfd.le), if_neg (not_lt.mpr hanswer.le), if_pos rfl]
    exact ⟨hanswer, decide_eq_true hanswer.le⟩
  again := by
    intro l a d hl h
    have hfd : 0 < d.fd := by
      cases l with
      | fresh => exact absurd rfl hl
      | live => exact h.1
      | spent => exact h.1
    rw [openSpi, if_pos hfd]
  unopened := by
    rintro d ⟨hfd, hfile⟩
    rw [closeSpi, if_pos hfd.le]
    exact ⟨hfd, hfile⟩
  closed := by
    intro l d hl h
    have hfd : 0 < d.fd := by
      cases l with
      | fresh => exact absurd rfl hl
      | live => exact h.1
      | spent => exact h.1
    rw [closeSpi, if_neg (not_le.mpr hfd)]
    exact ⟨hfd, rfl⟩

/-- Both devices are tried when the first one opens. -/
theorem openI2c_eq {a : OpenAnswers} {d : Fin 2 → DevFile} (hfirst : (d 0).fd < 0)
    (hsecond : (d 1).fd < 0) :
    openI2c a d =
      if a.fd (.i2c 0) < 0 then (error, update d 0 (.opened (a.fd (.i2c 0))))
      else
        (if a.fd (.i2c 1) < 0 then error else ok,
          update (update d 0 (.opened (a.fd (.i2c 0)))) 1 (.opened (a.fd (.i2c 1)))) := by
  have hkept : (update d 0 (.opened (a.fd (.i2c 0))) 1).fd = (d 1).fd := by
    rw [update_of_ne (by decide)]
  rw [openI2c, if_neg (not_lt.mpr hfirst.le)]
  dsimp only
  rw [hkept, if_neg (not_lt.mpr hsecond.le)]
  split
  · rfl
  · split
    · rfl
    · rfl

theorem closeI2c_eq {d : Fin 2 → DevFile} (hfirst : 0 < (d 0).fd) :
    closeI2c d =
      if (d 1).fd ≤ 0 then (error, update d 0 (d 0).closed)
      else (ok, update (update d 0 (d 0).closed) 1 (d 1).closed) := by
  have hkept : update d 0 (d 0).closed 1 = d 1 := update_of_ne (by decide) _ _
  rw [closeI2c, if_neg (not_le.mpr hfirst)]
  dsimp only
  rw [hkept]

/-- Whether the second device opens is up to its own descriptor. -/
theorem i2c_once (iid : Fin 2) : OnceOnly (I2cShows iid) openI2c closeI2c (.i2c 0)
    (fun a => decide (0 < a.fd (.i2c iid))) where
  missed := by
    rintro a d ⟨hfirst, hsecond, hfile⟩ hneg
    have hzero : update d 0 (DevFile.opened (a.fd (.i2c 0))) 0 = .opened (a.fd (.i2c 0)) :=
      update_self _ _ _
    have hone : update d 0 (DevFile.opened (a.fd (.i2c 0))) 1 = d 1 :=
      update_of_ne (by decide) _ _
    have hclosed : (update d 0 (DevFile.opened (a.fd (.i2c 0))) iid).file = false := by
      rcases eq_or_ne iid 0 with rfl | hne
      · rw [hzero]
        exact decide_eq_false (not_le.mpr hneg)
      · rw [update_of_ne hne]
        exact hfile
    rw [openI2c_eq hfirst hsecond, if_pos hneg]
    exact ⟨error_ne_ok, hzero ▸ hneg, (congrArg DevFile.fd hone).trans_lt hsecond, hclosed⟩
  first := by
    rintro a d nonzero ⟨hfirst, hsecond, -⟩ hanswer
    let d₀ := update d 0 (DevFile.opened (a.fd (.i2c 0)))
    let d' := update d₀ 1 (DevFile.opened (a.fd (.i2c 1)))
    have hzero : d' 0 = .opened (a.fd (.i2c 0)) :=
      (update_of_ne (by decide : (0 : Fin 2) ≠ 1) _ _).trans (update_self _ _ _)
    have hopened : d' iid = .opened (a.fd (.i2c iid)) := by
      rcases eq_or_ne iid 1 with rfl | hne
      · exact update_self _ _ _
      · obtain rfl : iid = 0 := by omega
        exact hzero
    have hfirst' : 0 < (d' 0).fd := hzero ▸ hanswer
    have hresult : (openI2c a d).2 = d' := by
      rw [openI2c_eq hfirst hsecond, if_neg (not_lt.mpr hanswer.le)]
    rw [hresult]
    by_cases hfd : 0 < a.fd (.i2c iid)
    · rw [decide_eq_true hfd, if_pos rfl]
      exact ⟨hfirst', hopened ▸ hfd, hopened ▸ decide_eq_true hfd.le⟩
    · have hneg : a.fd (.i2c iid) < 0 := lt_of_le_of_ne (not_lt.mp hfd) (nonzero (.i2c iid))
      rw [decide_eq_false hfd, if_neg Bool.false_ne_true]
      exact ⟨hfirst', hopened ▸ decide_eq_false (not_le.mpr hneg)⟩
  again := by
    intro l a d hl h
    have hfd : 0 < (d 0).fd := by
      cases l with
      | fresh => exact absurd rfl hl
      | live => exact h.1
      | spent => exact h.1
    rw [openI2c, if_pos hfd]
  unopened := by
    rintro d ⟨hfirst, hsecond, hfile⟩
    rw [closeI2c, if_pos hfirst.le]
    exact ⟨hfirst, hsecond, hfile⟩
  closed := by
    intro l d hl h
    have hfd : 0 < (d 0).fd := by
      cases l with
      | fresh => exact absurd rfl hl
      | live => exact h.1
      | spent => exact h.1
    have hzero : update d 0 (d 0).closed 0 = (d 0).closed := update_self _ _ _
    have hone : update d 0 (d 0).closed 1 = d 1 := update_of_ne (by decide) _ _
    rw [closeI2c_eq hfd]
    by_cases hsecond : (d 1).fd ≤ 0
    · rw [if_pos hsecond]
      have hclosed : (update d 0 (d 0).closed iid).file = false := by
        rcases eq_or_ne iid 0 with rfl | hne
        · rw [hzero]
          rfl
        · obtain rfl : iid = 1 := by omega
          rw [hone]
          cases l with
          | fresh => exact absurd rfl hl
          | live => exact absurd h.2.1 (not_lt.mpr hsecond)
          | spent => exact h.2
      exact ⟨hzero ▸ hfd, hclosed⟩
    · rw [if_neg hsecond]
      let d' := update (update d 0 (d 0).closed) 1 (d 1).closed
      have hfirst : d' 0 = (d 0).closed :=
        (update_of_ne (by decide : (0 : Fin 2) ≠ 1) _ _).trans hzero
      have hclosed : (d' iid).file = false := by
        rcases eq_or_ne iid 1 with rfl | hne
        · rw [show d' 1 = (d 1).closed from update_self _ _ _]
          rfl
        · obtain rfl : iid = 0 := by omega
          rw [hfirst]
          rfl
      have hkept : 0 < (d' 0).fd := hfirst ▸ hfd
      exact ⟨hkept, hclosed⟩

/-! ### The runs -/

section

variable {calls : List DevCall} (nonzero : ∀ c ∈ calls, Nonzero c)

include nonzero

theorem fpga_told :
    DevTold FpgaShows
      (Latch.after (DevCall.gets .fpga) (DevCall.uses OpenAnswers.mmap) (DevCall.closes .fpga)
        calls)
      (runAll calls).fpgaPart :=
  fpga_once.run openAll_fpga closeAll_fpga ⟨⟨by decide, rfl⟩, fun _ => rfl⟩ nonzero

theorem i2c_told (iid : Fin 2) :
    DevTold (I2cShows iid)
      (Latch.after (DevCall.gets (.i2c 0)) (DevCall.uses fun a => decide (0 < a.fd (.i2c iid)))
        (DevCall.closes (.i2c 0)) calls)
      (runAll calls).i2cPart :=
  (i2c_once iid).run openAll_i2c closeAll_i2c ⟨⟨by decide, by decide, rfl⟩, fun _ => rfl⟩ nonzero

theorem spi_told :
    DevTold SpiShows
      (Latch.after (DevCall.gets .spi) (DevCall.uses fun _ => true) (DevCall.closes .spi) calls)
      (runAll calls).spiPart :=
  spi_once.run openAll_spi closeAll_spi ⟨⟨by decide, rfl⟩, fun _ => rfl⟩ nonzero

end

end OwnFile

end VtpStreaming
