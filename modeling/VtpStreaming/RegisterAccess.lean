import VtpStreaming.CrateBounds
import VtpStreaming.VtpLib

/-!
# Register access of the diagnostic server

`DiagGui/DiagGuiServer.c`, `Vtp_Read32` and `Vtp_Write32`, on the registers behind
`vtpRead32` and `vtpWrite32` of `vtp/vtpLib.c`. Both keep the address in an integer, and
add one to it where a pointer would go on by four bytes.
-/

namespace VtpStreaming

open Clib Traced

/-! ## The registers -/

inductive RegAccess
  | read (addr : Word)
  | write (addr val : Word)

/-- The bytes that the registers are mapped to, and the accesses so far. -/
structure RegSpace where
  bytes : Word → Byte
  accesses : List RegAccess

namespace RegSpace

/-- The four bytes from an address on, low byte first. -/
def reg (s : RegSpace) (addr : Word) : Word :=
  wordOf ((List.range 4).map fun i => s.bytes (addr + BitVec.ofNat 32 i))

def setReg (s : RegSpace) (addr val : Word) : RegSpace :=
  { s with
    bytes := fun x =>
      if (x - addr).toNat < 4 then (leBytes 4 val.toNat).getD (x - addr).toNat 0 else s.bytes x }

def note (s : RegSpace) (access : RegAccess) : RegSpace :=
  { s with accesses := s.accesses ++ [access] }

end RegSpace

def vtpRead32 (lib : VtpLib) (s : RegSpace) (addr : Word) : Word × RegSpace :=
  if lib.checkInit then (s.reg addr, s.note (.read addr)) else (BitVec.ofInt 32 error, s)

def vtpWrite32 (lib : VtpLib) (s : RegSpace) (addr val : Word) : RegSpace :=
  if lib.checkInit then (s.setReg addr val).note (.write addr val) else s

def registerBus (lib : VtpLib) : Bus Word Word RegSpace := ⟨vtpRead32 lib, vtpWrite32 lib⟩

/-! ## The commands in the union -/

section Union

variable {δ : Type} (bus : Bus Word Word δ)

/-- The `int` at a place of the union. -/
def unionInt (mem : Nat → Byte) (off : Nat) : Word := wordOf (bytes mem off 4)

/-- The variables of the loops of `Vtp_Read32`. The response is in the union as well. -/
structure ReadLoop (δ : Type) where
  mem : Nat → Byte
  pWr : Nat
  pRd : Word
  dev : δ

def unionReadPass (adrinc : Bool) (s : ReadLoop δ) : ReadLoop δ :=
  let (val, dev) := bus.read s.dev s.pRd
  { mem := put s.mem s.pWr (leBytes 4 val.toNat)
    pWr := s.pWr + 4
    pRd := if adrinc then s.pRd + 1 else s.pRd
    dev := dev }

/-- `Vtp_Read32`, access by access. The count goes out before the flags are read. -/
def unionRead32 (mem : Nat → Byte) (dev : δ) : Word × (Nat → Byte) × δ :=
  let pRd := unionInt mem 4
  let c := unionInt mem 0
  let size := 4 + 4 * c
  let mem := put mem 0 (leBytes 4 c.toNat)
  let s := whileDec (unionReadPass bus (adrInc (unionInt mem 8))) c ⟨mem, 4, pRd, dev⟩
  (size, s.mem, s.dev)

/-- The variables of the loops of `Vtp_Write32`. -/
structure WriteLoop (δ : Type) where
  pRd : Nat
  pWr : Word
  dev : δ

def unionWritePass (mem : Nat → Byte) (adrinc : Bool) (s : WriteLoop δ) : WriteLoop δ where
  pRd := s.pRd + 4
  pWr := if adrinc then s.pWr + 1 else s.pWr
  dev := bus.write s.dev s.pWr (unionInt mem s.pRd)

/-- `Vtp_Write32`, access by access. -/
def unionWrite32 (mem : Nat → Byte) (dev : δ) : Word × δ :=
  let s := whileDec (unionWritePass bus mem (adrInc (unionInt mem 8))) (unionInt mem 0)
    ⟨12, unionInt mem 4, dev⟩
  (0, s.dev)

end Union

/-! ## What is asked of them -/

/-- The union holds a command for `n` registers. -/
structure IsCommand (mem : Nat → Byte) (n : Nat) (addr flags : Word) : Prop where
  cnt : unionInt mem 0 = BitVec.ofNat 32 n
  addr : unionInt mem 4 = addr
  flags : unionInt mem 8 = flags

/-- The value number `k` of a response, and of a write command. -/
def readVal (mem : Nat → Byte) (k : Nat) : Word := unionInt mem (4 + 4 * k)

def writeVal (mem : Nat → Byte) (k : Nat) : Word := unionInt mem (12 + 4 * k)

/-- The address for value `k` of a command. -/
def targetAddr (addr flags : Word) (k : Nat) : Word :=
  if adrInc flags then addr + BitVec.ofNat 32 (4 * k) else addr

/-- The address that the loops use for it. -/
def loopAddr (addr flags : Word) (k : Nat) : Word :=
  if adrInc flags then addr + BitVec.ofNat 32 k else addr

section

variable (lib : VtpLib) (n : Nat) (addr flags : Word)

/-- A read command returns `n` values, number `k` that of the register at its address, and
accesses nothing else. -/
def ReadsTargets : Prop :=
  ∀ mem dev, IsCommand mem n addr flags →
    (unionRead32 (registerBus lib) mem dev).1.toNat = 4 + 4 * n ∧
      unionInt (unionRead32 (registerBus lib) mem dev).2.1 0 = BitVec.ofNat 32 n ∧
      (∀ k < n, readVal (unionRead32 (registerBus lib) mem dev).2.1 k =
        dev.reg (targetAddr addr flags k)) ∧
      (unionRead32 (registerBus lib) mem dev).2.2 =
        { dev with
          accesses := dev.accesses ++
            (List.range n).map fun k => .read (targetAddr addr flags k) }

/-- A write command stores value `k` to the register at its address, the last value where
all go to one, and changes no byte of another register. -/
def WritesTargets : Prop :=
  ∀ mem dev, IsCommand mem n addr flags →
    (unionWrite32 (registerBus lib) mem dev).2.accesses =
        dev.accesses ++
          (List.range n).map (fun k => .write (targetAddr addr flags k) (writeVal mem k)) ∧
      (∀ k < n, (adrInc flags = true ∨ k + 1 = n) →
        (unionWrite32 (registerBus lib) mem dev).2.reg (targetAddr addr flags k) = writeVal mem k) ∧
      ∀ x, (∀ k < n, 4 ≤ (x - targetAddr addr flags k).toNat) →
        (unionWrite32 (registerBus lib) mem dev).2.bytes x = dev.bytes x

/-- What has just been written to a range is read back from it. -/
def ReadsBack : Prop :=
  adrInc flags = true → ∀ memW memR dev, IsCommand memW n addr flags →
    IsCommand memR n addr flags → ∀ k < n,
      readVal (unionRead32 (registerBus lib) memR
        (unionWrite32 (registerBus lib) memW dev).2).2.1 k = writeVal memW k

structure AccessesRegisters : Prop where
  reads : ReadsTargets lib n addr flags
  writes : WritesTargets lib n addr flags
  back : ReadsBack lib n addr flags

end

/-! ## The union -/

section Memory

variable {mem : Nat → Byte} {off : Nat}

/-- What is stored does not depend on how far the buffer was used. -/
theorem setAll_mem_congr {b b' : Buffer} (xs : List Byte) (h : b.mem = b'.mem) :
    (b.setAll off xs).mem = (b'.setAll off xs).mem := by
  induction xs generalizing b b' off with
  | nil => exact h
  | cons x xs ih =>
    apply ih
    funext j
    show (if j = off then x else b.mem j) = if j = off then x else b'.mem j
    rw [h]

theorem put_append (xs ys : List Byte) :
    put (put mem off xs) (off + xs.length) ys = put mem off (xs ++ ys) := by
  rw [put, put, put, Buffer.setAll_append]
  exact setAll_mem_congr ys rfl

/-- An `int` behind a store of four bytes. -/
theorem unionInt_put_before {bs : List Byte} {k : Nat} (h : off + bs.length ≤ k) :
    unionInt (put mem off bs) k = unionInt mem k := by
  rw [unionInt, bytes_congr fun i _ => put_outside (.inr (by omega))]
  rfl

/-- Value `k` of a list that is stored behind `pre`. -/
theorem unionInt_put_vals {pre : List Byte} {base k : Nat} {vals : List Word}
    (hpre : pre.length = base) (hk : k < vals.length) :
    unionInt (put mem 0 (pre ++ vals.flatMap fun v => leBytes 4 v.toNat)) (base + 4 * k) =
      vals[k] := by
  have hpiece : bytes (put mem 0 (pre ++ ((vals.flatMap fun v => leBytes 4 v.toNat) ++ [])))
      (base + 4 * k) 4 = leBytes 4 vals[k].toNat :=
    bytes_put_piece (fun v => leBytes_length 4 v.toNat) hpre hk
  rw [List.append_nil] at hpiece
  rw [unionInt, hpiece, wordOf_leBytes]

/-- The bytes of a command. -/
def commandBytes (n : Nat) (addr flags : Word) : List Byte :=
  [BitVec.ofNat 32 n, addr, flags].flatMap fun v => leBytes 4 v.toNat

theorem isCommand_put (mem : Nat → Byte) (n : Nat) (addr flags : Word) :
    IsCommand (put mem 0 (commandBytes n addr flags)) n addr flags := by
  have hint : ∀ k, (hk : k < [BitVec.ofNat 32 n, addr, flags].length) →
      unionInt (put mem 0 (commandBytes n addr flags)) (4 * k) =
        [BitVec.ofNat 32 n, addr, flags][k] := by
    intro k hk
    have hval := @unionInt_put_vals mem [] 0 k [BitVec.ofNat 32 n, addr, flags] rfl hk
    rwa [List.nil_append, Nat.zero_add] at hval
  exact ⟨hint 0 (by simp), hint 1 (by simp), hint 2 (by simp)⟩

end Memory

/-! ## The loops -/

section Loops

variable {δ : Type} (bus : Bus Word Word δ)

/-- The loop in the union stores the values that the loop over a list collects. -/
theorem iterate_unionRead (adrinc : Bool) (mem : Nat → Byte) (off : Nat) (addr : Word) (dev : δ)
    (k : Nat) :
    (unionReadPass bus adrinc)^[k] ⟨mem, off, addr, dev⟩ =
      { mem := put mem off (((read32Pass bus adrinc)^[k] ([], addr, dev)).1.flatMap fun v =>
          leBytes 4 v.toNat)
        pWr := off + 4 * k
        pRd := ((read32Pass bus adrinc)^[k] ([], addr, dev)).2.1
        dev := ((read32Pass bus adrinc)^[k] ([], addr, dev)).2.2 } := by
  induction k with
  | zero => rfl
  | succ k ih =>
    have hlen := @read32Pass_length δ bus adrinc k ([], addr, dev)
    rw [Function.iterate_succ_apply', Function.iterate_succ_apply', ih]
    generalize (read32Pass bus adrinc)^[k] ([], addr, dev) = s at hlen
    obtain ⟨vals, pRd, d⟩ := s
    have hbytes := length_flatMap_pieces vals fun v : Word => leBytes_length 4 v.toNat
    rw [List.length_nil, Nat.zero_add] at hlen
    dsimp only at hlen
    rw [hlen] at hbytes
    simp only [unionReadPass, read32Pass, List.flatMap_append, List.flatMap_singleton]
    rw [← hbytes, put_append, hbytes]
    rfl

/-- Sharing the union with the response does not harm the command: the same as reading the
command first, and storing the response last. -/
theorem unionRead32_eq (mem : Nat → Byte) (dev : δ) :
    unionRead32 bus mem dev =
      let cmd : Cmd := ⟨[unionInt mem 0, unionInt mem 4, unionInt mem 8], []⟩
      ((vtpRead32Cb bus cmd dev).1, put mem 0 (vtpRead32Cb bus cmd dev).2.1,
        (vtpRead32Cb bus cmd dev).2.2) := by
  have hflags : unionInt (put mem 0 (leBytes 4 (unionInt mem 0).toNat)) 8 = unionInt mem 8 :=
    unionInt_put_before (by simp)
  have hjoin : ∀ ys, put (put mem 0 (leBytes 4 (unionInt mem 0).toNat)) 4 ys =
      put mem 0 (leBytes 4 (unionInt mem 0).toNat ++ ys) := by
    intro ys
    have happend := @put_append mem 0 (leBytes 4 (unionInt mem 0).toNat) ys
    rwa [leBytes_length] at happend
  rw [unionRead32, hflags, whileDec, iterate_unionRead]
  dsimp only
  rw [hjoin]
  rfl

end Loops

/-! ## The registers under the loops -/

section Registers

variable {lib : VtpLib} {s : RegSpace} {addr flags : Word}

theorem loopAddr_zero : loopAddr addr flags 0 = addr := by
  rw [loopAddr]
  split
  · exact BitVec.add_zero addr
  · rfl

theorem loopAddr_succ (k : Nat) : loopAddr addr flags (k + 1) =
    if adrInc flags then loopAddr addr flags k + 1 else loopAddr addr flags k := by
  rw [loopAddr, loopAddr]
  split
  · rw [BitVec.ofNat_add, ← BitVec.add_assoc]
    rfl
  · rfl

/-- The values that `k` passes read, and their accesses. -/
theorem iterate_read32Pass (hlib : lib.checkInit = true) (k : Nat) :
    (read32Pass (registerBus lib) (adrInc flags))^[k] ([], addr, s) =
      ((List.range k).map fun i => s.reg (loopAddr addr flags i), loopAddr addr flags k,
        { s with
          accesses := s.accesses ++ (List.range k).map fun i => .read (loopAddr addr flags i) }) := by
  induction k with
  | zero =>
    rw [loopAddr_zero]
    simp
  | succ k ih =>
    rw [Function.iterate_succ_apply', ih, loopAddr_succ, List.range_succ, List.map_append,
      List.map_append, ← List.append_assoc]
    simp only [read32Pass, registerBus, vtpRead32, hlib, if_true]
    rfl

/-- The writes of `n` values, one after the other. -/
def writeList (lib : VtpLib) (addrs vals : Nat → Word) (s : RegSpace) (n : Nat) : RegSpace :=
  (List.range n).foldl (fun s k => vtpWrite32 lib s (addrs k) (vals k)) s

theorem writeList_succ (lib : VtpLib) (addrs vals : Nat → Word) (s : RegSpace) (n : Nat) :
    writeList lib addrs vals s (n + 1) =
      vtpWrite32 lib (writeList lib addrs vals s n) (addrs n) (vals n) := by
  rw [writeList, List.range_succ, List.foldl_append]
  rfl

theorem iterate_unionWrite (mem : Nat → Byte) (k : Nat) :
    (unionWritePass (registerBus lib) mem (adrInc flags))^[k] ⟨12, addr, s⟩ =
      { pRd := 12 + 4 * k
        pWr := loopAddr addr flags k
        dev := writeList lib (loopAddr addr flags) (writeVal mem) s k } := by
  induction k with
  | zero =>
    rw [loopAddr_zero]
    rfl
  | succ k ih =>
    rw [Function.iterate_succ_apply', ih, loopAddr_succ, writeList_succ]
    rfl

/-! ### Writes -/

theorem writeList_accesses (hlib : lib.checkInit = true) (addrs vals : Nat → Word) (n : Nat) :
    (writeList lib addrs vals s n).accesses =
      s.accesses ++ (List.range n).map fun k => .write (addrs k) (vals k) := by
  induction n with
  | zero => exact (List.append_nil _).symm
  | succ n ih =>
    rw [writeList_succ, vtpWrite32, if_pos hlib, List.range_succ, List.map_append,
      ← List.append_assoc, ← ih]
    rfl

/-- A byte that belongs to none of the registers. -/
theorem writeList_bytes (hlib : lib.checkInit = true) {addrs vals : Nat → Word} {n : Nat} {x : Word}
    (h : ∀ k < n, 4 ≤ (x - addrs k).toNat) :
    (writeList lib addrs vals s n).bytes x = s.bytes x := by
  induction n with
  | zero => rfl
  | succ n ih =>
    have hlast := h n (Nat.lt_succ_self n)
    rw [writeList_succ, vtpWrite32, if_pos hlib, ← ih fun k hk => h k (Nat.lt_succ_of_lt hk)]
    exact if_neg (by omega)

/-- A register that has been written. -/
theorem setReg_reg (s : RegSpace) (addr val : Word) : (s.setReg addr val).reg addr = val := by
  have hbytes : ((List.range 4).map fun i => (s.setReg addr val).bytes (addr + BitVec.ofNat 32 i)) =
      leBytes 4 val.toNat := by
    apply List.ext_getElem
    · simp
    · intro i hi hi'
      rw [leBytes_length] at hi'
      have hoff : (addr + BitVec.ofNat 32 i - addr).toNat = i := by
        rw [BitVec.add_comm, BitVec.add_sub_cancel, BitVec.toNat_ofNat]
        omega
      rw [List.getElem_map, List.getElem_range]
      simp only [RegSpace.setReg, hoff, hi', if_true]
      exact (List.getElem_eq_getD 0).symm
  rw [RegSpace.reg, hbytes, wordOf_leBytes]

/-- The last of the writes is what its register holds. -/
theorem writeList_reg (hlib : lib.checkInit = true) (addrs vals : Nat → Word) (n : Nat) :
    (writeList lib addrs vals s (n + 1)).reg (addrs n) = vals n := by
  rw [writeList_succ, vtpWrite32, if_pos hlib]
  exact setReg_reg _ _ _

end Registers

/-! ## The commands -/

section Commands

variable {lib : VtpLib} {n : Nat} {addr flags : Word} {mem : Nat → Byte} {dev : RegSpace}

/-- What a read command leaves in the union and does to the registers. -/
theorem unionRead32_command (hlib : lib.checkInit = true) (hn : n ≤ 10000)
    (hcmd : IsCommand mem n addr flags) :
    (unionRead32 (registerBus lib) mem dev).1.toNat = 4 + 4 * n ∧
      unionInt (unionRead32 (registerBus lib) mem dev).2.1 0 = BitVec.ofNat 32 n ∧
      (∀ k < n, readVal (unionRead32 (registerBus lib) mem dev).2.1 k =
        dev.reg (loopAddr addr flags k)) ∧
      (unionRead32 (registerBus lib) mem dev).2.2 =
        { dev with
          accesses := dev.accesses ++ (List.range n).map fun k => .read (loopAddr addr flags k) } := by
  obtain ⟨hcnt, haddr, hflags⟩ := hcmd
  have hc : (BitVec.ofNat 32 n).toNat = n := by
    rw [BitVec.toNat_ofNat]
    omega
  have hcb : vtpRead32Cb (registerBus lib) ⟨[BitVec.ofNat 32 n, addr, flags], []⟩ dev =
      (4 + 4 * BitVec.ofNat 32 n,
        leBytes 4 (BitVec.ofNat 32 n).toNat ++ ((List.range n).map fun k =>
          dev.reg (loopAddr addr flags k)).flatMap fun v => leBytes 4 v.toNat,
        { dev with
          accesses := dev.accesses ++
            (List.range n).map fun k => .read (loopAddr addr flags k) }) := by
    have hloop := @iterate_read32Pass lib dev addr flags hlib (BitVec.ofNat 32 n).toNat
    rw [vtpRead32Cb]
    simp only [Cmd.int, List.getD_cons_zero, List.getD_cons_succ, whileDec, hloop]
    rw [hc]
  rw [unionRead32_eq, hcnt, haddr, hflags]
  dsimp only
  rw [hcb]
  dsimp only
  refine ⟨?_, ?_, ?_, rfl⟩
  · have hfour : (4 : Word).toNat = 4 := rfl
    rw [BitVec.toNat_add, BitVec.toNat_mul, hfour, hc]
    omega
  · rw [unionInt, bytes_put_part (by simp), List.drop_zero, List.take_left' (leBytes_length 4 _),
      wordOf_leBytes]
  · intro k hk
    rw [readVal, unionInt_put_vals (leBytes_length 4 _) (by simpa using hk), List.getElem_map,
      List.getElem_range]

/-- What a write command does to the registers. -/
theorem unionWrite32_command (hn : n ≤ 10000) (hcmd : IsCommand mem n addr flags) :
    (unionWrite32 (registerBus lib) mem dev).2 =
      writeList lib (loopAddr addr flags) (writeVal mem) dev n := by
  obtain ⟨hcnt, haddr, hflags⟩ := hcmd
  have hc : (BitVec.ofNat 32 n).toNat = n := by
    rw [BitVec.toNat_ofNat]
    omega
  rw [unionWrite32, hcnt, haddr, hflags, whileDec, hc, iterate_unionWrite]

/-- The addresses differ from the second value on. -/
theorem loopAddr_eq_iff :
    (∀ k < n, loopAddr addr flags k = targetAddr addr flags k) ↔ adrInc flags = false ∨ n ≤ 1 := by
  constructor
  · intro h
    cases hinc : adrInc flags with
    | false => exact .inl rfl
    | true =>
      refine .inr (Nat.le_of_not_lt fun hn => ?_)
      have hone := h 1 hn
      rw [loopAddr, targetAddr, if_pos hinc, if_pos hinc, BitVec.add_right_inj] at hone
      exact absurd hone (by decide)
  · rintro (hinc | hn) k hk
    · rw [loopAddr, targetAddr, hinc]
      rfl
    · have hzero : k = 0 := by omega
      rw [hzero]
      rfl

end Commands

/-- The registers are accessed as asked without the flag, and with it for one register. -/
theorem register_access_iff (lib : VtpLib) (hlib : lib.checkInit = true) (n : Nat) (hn : n ≤ 10000)
    (addr flags : Word) :
    AccessesRegisters lib n addr flags ↔ adrInc flags = false ∨ n ≤ 1 := by
  rw [← @loopAddr_eq_iff n addr flags]
  constructor
  · intro h k hk
    -- the accesses of any read tell the addresses
    have hcmd := isCommand_put (fun _ => 0#8) n addr flags
    have hwanted := (h.reads _ ⟨fun _ => 0#8, []⟩ hcmd).2.2.2
    rw [(unionRead32_command hlib hn hcmd).2.2.2, RegSpace.mk.injEq, List.nil_append,
      List.nil_append] at hwanted
    have hk' := List.map_inj_left.1 hwanted.2 k (List.mem_range.2 hk)
    injection hk'
  · intro h
    have hreads : ReadsTargets lib n addr flags := by
      intro mem dev hcmd
      obtain ⟨hsize, hcnt, hvals, hdev⟩ := @unionRead32_command lib n addr flags mem dev hlib hn hcmd
      refine ⟨hsize, hcnt, fun k hk => ?_, ?_⟩
      · rw [hvals k hk, h k hk]
      · rw [hdev]
        congr 2
        exact List.map_congr_left fun k hk => by rw [h k (List.mem_range.1 hk)]
    have hwrites : WritesTargets lib n addr flags := by
      intro mem dev hcmd
      rw [unionWrite32_command hn hcmd]
      refine ⟨?_, ?_, fun x hx => ?_⟩
      · rw [writeList_accesses hlib]
        congr 1
        exact List.map_congr_left fun k hk => by rw [h k (List.mem_range.1 hk)]
      · intro k hk hlast
        have hlastly : k + 1 = n := by
          rcases hlast with hinc | hlast
          · rcases loopAddr_eq_iff.1 h with hno | hone
            · rw [hinc] at hno
              cases hno
            · omega
          · exact hlast
        subst hlastly
        rw [← h k hk]
        exact writeList_reg hlib _ _ k
      · exact writeList_bytes hlib fun k hk => by rw [h k hk]; exact hx k hk
    refine ⟨hreads, hwrites, ?_⟩
    intro hinc memW memR dev hcmdW hcmdR k hk
    rw [(hreads memR _ hcmdR).2.2.1 k hk]
    exact (hwrites memW dev hcmdW).2.1 k hk (.inl hinc)

/-- One register with the flag. -/
theorem register_access_one :
    (VtpLib.ofRegs default).checkInit = true ∧
      AccessesRegisters (VtpLib.ofRegs default) 1 0x1000#32 1#32 :=
  ⟨rfl, (register_access_iff (VtpLib.ofRegs default) rfl 1 (by decide) 0x1000#32 1#32).2
    (.inr (Nat.le_refl 1))⟩

/-- Registers that show one at 0x1004 and zero elsewhere. -/
def oneRegister : RegSpace := ⟨fun x => if x = 0x1004#32 then 1#8 else 0#8, []⟩

/-- Two registers from 0x1000 on: the second value comes from the bytes at 0x1001. -/
theorem register_access_two :
    readVal (unionRead32 (registerBus (VtpLib.ofRegs default))
        (put (fun _ => 0#8) 0 (commandBytes 2 0x1000#32 1#32)) oneRegister).2.1 1 = 0x01000000#32 ∧
      oneRegister.reg (targetAddr 0x1000#32 1#32 1) = 1#32 ∧
      ¬ AccessesRegisters (VtpLib.ofRegs default) 2 0x1000#32 1#32 := by
  have hread : readVal (unionRead32 (registerBus (VtpLib.ofRegs default))
      (put (fun _ => 0#8) 0 (commandBytes 2 0x1000#32 1#32)) oneRegister).2.1 1 = 0x01000000#32 := by
    decide
  have hreg : oneRegister.reg (targetAddr 0x1000#32 1#32 1) = 1#32 := by decide
  refine ⟨hread, hreg, fun h => ?_⟩
  have hcmd := isCommand_put (fun _ => 0#8) 2 0x1000#32 1#32
  have hval := (h.reads _ oneRegister hcmd).2.2.1 1 (by decide)
  rw [hread, hreg] at hval
  exact absurd hval (by decide)

end VtpStreaming
