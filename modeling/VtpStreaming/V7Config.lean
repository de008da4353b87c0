import VtpStreaming.Clib.Latest
import VtpStreaming.Clib.Presented
import VtpStreaming.FirmwareLoad

/-!
# Configuring the V7

`vtp/vtpLib.c`, from `vtpV7CtrlInit` to `vtpV7CfgEnd`, and `rocDownload` of
`rol/vtp_stream3_1udp_vg.c`. The bridge to the V7 has a control register, kept in a static
shadow, that drives the pins of the configuration port and two resets, and a data
register. Whatever is called in whatever order, the image of the last load is what was
presented at the port.

The registers are mapped. What the V7 does with its port is not modelled.
-/

namespace VtpStreaming

open Clib

/-! ## The bridge -/

/-- `VTP_V7BRIDGE_CTRL_*`. -/
inductive V7Ctrl
  | reset
  | resetSoft
  | csiB
  | rdwrB
  | programB
deriving DecidableEq

def V7Ctrl.bit : V7Ctrl → Nat
  | .reset => 0
  | .resetSoft => 1
  | .csiB => 2
  | .rdwrB => 3
  | .programB => 4

/-- A write to `vtp->v7.Ctrl` or `vtp->v7.Cfg`. -/
inductive V7Write
  | ctrl (w : Word)
  | cfg (w : BitVec 16)

/-- `CfgCtrl_Shadow`, how often `vtp->v7.Status` has been read, and what was written. -/
structure V7Bridge where
  shadow : Word
  reads : Nat
  writes : List V7Write

def V7Bridge.write (b : V7Bridge) (w : V7Write) : V7Bridge := { b with writes := b.writes ++ [w] }

/-- The program starts with this shadow, and has written nothing. -/
def V7Bridge.start : V7Bridge := ⟨0x1F#32, 0, []⟩

/-- Change the shadow, and write it. -/
def V7Bridge.drive (b : V7Bridge) (shadow : Word) : V7Bridge :=
  { b with shadow := shadow }.write (.ctrl shadow)

def vtpV7CtrlInit (b : V7Bridge) : V7Bridge := b.drive 0x1F#32

/-- The body of the functions that set one bit of the shadow. -/
def v7SetCtrl (c : V7Ctrl) (val : Word) (b : V7Bridge) : V7Bridge :=
  if val ≠ 0 then b.drive (b.shadow ||| 1#32 <<< c.bit)
  else b.drive (b.shadow &&& ~~~(1#32 <<< c.bit))

def vtpV7SetReset (val : Word) (b : V7Bridge) : V7Bridge := v7SetCtrl .reset val b

def vtpV7SetResetSoft (val : Word) (b : V7Bridge) : V7Bridge := v7SetCtrl .resetSoft val b

def vtpV7SoftReset (b : V7Bridge) : V7Bridge := vtpV7SetResetSoft 0 (vtpV7SetResetSoft 1 b)

def vtpV7SetProgramB (val : Word) (b : V7Bridge) : V7Bridge := v7SetCtrl .programB val b

def vtpV7SetRdwrB (val : Word) (b : V7Bridge) : V7Bridge := v7SetCtrl .rdwrB val b

def vtpV7SetCsiB (val : Word) (b : V7Bridge) : V7Bridge := v7SetCtrl .csiB val b

section Status

-- What the reads of `vtp->v7.Status` find.
variable (status : Nat → Word)

/-- `VTP_V7BRIDGE_STATUS_DONE`. -/
def vtpV7GetDone (b : V7Bridge) : Bool × V7Bridge :=
  ((status b.reads).getLsbD 0, { b with reads := b.reads + 1 })

/-- `VTP_V7BRIDGE_STATUS_INIT_B`. -/
def vtpV7GetInitB (b : V7Bridge) : Bool × V7Bridge :=
  ((status b.reads).getLsbD 1, { b with reads := b.reads + 1 })

/-- The loop of `vtpV7CfgStart`, with this many polls left after the next one. -/
def waitInitB : Nat → V7Bridge → Int × V7Bridge
  | 0, b =>
      let result := vtpV7GetInitB status b
      if result.1 then (ok, result.2) else (error, result.2)
  | n + 1, b =>
      let result := vtpV7GetInitB status b
      if result.1 then (ok, result.2) else waitInitB n result.2

/-- `V7_CFG_INITB_CNT_MAX`. -/
def v7CfgInitbCntMax : Nat := 100000

/-- `V7_CFG_DONE_CNT_MAX`. -/
def v7CfgDoneCntMax : Nat := 10000000

def vtpV7CfgStart (b : V7Bridge) : Int × V7Bridge :=
  let b := vtpV7SetRdwrB 0 (vtpV7SetProgramB 1 (vtpV7SetCsiB 1 b))
  -- what this read and the next one find is printed
  let b := (vtpV7GetInitB status b).2
  let b := vtpV7SetProgramB 0 b
  let b := (vtpV7GetInitB status b).2
  let b := vtpV7SetCsiB 0 (vtpV7SetProgramB 1 b)
  waitInitB status v7CfgInitbCntMax b

/-- The first loop of `vtpV7CfgEnd`, with this many polls left after the next one. -/
def waitDone : Nat → V7Bridge → Int × V7Bridge
  | 0, b =>
      let result := vtpV7GetDone status (b.write (.cfg 0))
      if result.1 then (ok, result.2) else (error, result.2)
  | n + 1, b =>
      let result := vtpV7GetDone status (b.write (.cfg 0))
      if result.1 then (ok, result.2) else waitDone n result.2

/-- `vtpV7WriteCfgData` of words. -/
def writeCfgWords (ws : List (BitVec 16)) (b : V7Bridge) : V7Bridge :=
  ws.foldl (fun b w => b.write (.cfg w)) b

def vtpV7CfgEnd (b : V7Bridge) : Int × V7Bridge :=
  let result := waitDone status v7CfgDoneCntMax b
  if result.1 = error then result
  else (ok, writeCfgWords (List.replicate 64 0) result.2)

/-- What a step of `vtpV7CfgLoad` does to the bridge. -/
def V7Step.run (b : V7Bridge) : V7Step → V7Bridge
  | .start => (vtpV7CfgStart status b).2
  | .data w => b.write (.cfg w)
  | .finish => (vtpV7CfgEnd status b).2

/-- The steps between the locks. -/
def LockRun.steps (out : LockRun V7Step) : List V7Step :=
  out.trace.filterMap fun
    | .other e => some e
    | _ => none

/-- `vtpV7CfgLoad`, as far as `fuel` reads, of a file of which `faults` tells the calls of
`fread` that fail, or of none, with what the stack has in `buf`. -/
def v7Load (fuel : Nat) (file : Option (List Byte)) (faults : Nat → Option Nat) (buf : Buffer)
    (b : V7Bridge) : Option (Int × V7Bridge) :=
  (vtpV7CfgLoad fuel (file.map fun data => cFile data faults) buf).map fun out =>
    (out.code, out.steps.foldl (V7Step.run status) b)

end Status

/-! ## rocDownload -/

/-- What `rocDownload` finds: `CODA`, the names that the configuration has set, the files,
the descriptor of `/dev/xdevcfg`, the reads of the V7's file that fail and the stack of
`vtpV7CfgLoad`. The one read of the Z7's file does not fail. -/
structure Download where
  coda : Option (List Char)
  firmwareZ7 : List Char
  firmwareV7 : List Char
  files : List Char → Option (List Byte)
  fd : Word
  faults : Nat → Option Nat
  buf : Buffer

namespace Download

/-- A name that is not set has a default. -/
def nameOr (name default : List Char) : List Char := if name = [] then default else name

def z7file (d : Download) : List Char :=
  nameOr d.firmwareZ7 "fe_vtp_z7_streamingv3_ejfat_v5.bin".toList

def v7file (d : Download) : List Char :=
  nameOr d.firmwareV7 "fe_vtp_v7_fadc_streamingv3_ejfat.bin".toList

/-- `snprintf` into `buf[1000]`. -/
def path (coda file : List Char) : List Char :=
  (coda ++ "/src/vtp/vtp_streaming/vtp/firmware/".toList ++ file).take 999

end Download

/-- The bridge, and what was written to `/dev/xdevcfg`. -/
structure Fpgas where
  bridge : V7Bridge
  xdevcfg : List (List Byte)

/-- `write` of `vtpZ7CfgLoad`. -/
def LockRun.written (out : LockRun Z7Step) : List (List Byte) :=
  out.trace.filterMap fun
    | .other (.write bytes) => some bytes
    | _ => none

/-- `rocDownload`. It goes on when a load fails. -/
def rocDownload (status : Nat → Word) (fuel : Nat) (d : Download) (s : Fpgas) : Option Fpgas :=
  match d.coda with
  | none => some s
  | some coda =>
    if coda = [] then some s
    else
      let z7 := vtpZ7CfgLoad (d.files (Download.path coda d.z7file)) d.fd
      (v7Load status fuel (d.files (Download.path coda d.v7file)) d.faults d.buf s.bridge).map
        fun v7 => ⟨v7.2, s.xdevcfg ++ z7.written⟩

/-! ## Runs -/

inductive V7Op
  | ctrlInit
  | setReset (val : Word)
  | setResetSoft (val : Word)
  | softReset
  | load (file : Option (List Byte)) (faults : Nat → Option Nat) (buf : Buffer)
  | download (d : Download)

namespace V7Op

/-- One call. None when the reads of a file take more than `fuel`. -/
def run (status : Nat → Word) (fuel : Nat) (s : Fpgas) : V7Op → Option Fpgas
  | .ctrlInit => some { s with bridge := vtpV7CtrlInit s.bridge }
  | .setReset val => some { s with bridge := vtpV7SetReset val s.bridge }
  | .setResetSoft val => some { s with bridge := vtpV7SetResetSoft val s.bridge }
  | .softReset => some { s with bridge := vtpV7SoftReset s.bridge }
  | .load file faults buf =>
      (v7Load status fuel file faults buf s.bridge).map fun v7 => { s with bridge := v7.2 }
  | .download d => rocDownload status fuel d s

def runAll (status : Nat → Word) (fuel : Nat) (s : Fpgas) (ops : List V7Op) : Option Fpgas :=
  ops.foldlM (run status fuel) s

/-- What a call sets `VTP_V7BRIDGE_CTRL_RESET` to. -/
def reset : V7Op → Option Bool
  | .ctrlInit => some true
  | .setReset val => some (val ≠ 0)
  | .setResetSoft _ | .softReset | .load _ _ _ | .download _ => none

/-- What a call leaves in `VTP_V7BRIDGE_CTRL_RESET_SOFT`. -/
def resetSoft : V7Op → Option Bool
  | .ctrlInit => some true
  | .setResetSoft val => some (val ≠ 0)
  | .softReset => some false
  | .setReset _ | .load _ _ _ | .download _ => none

/-- The file that a call configures the V7 with, which may not open. -/
def image : V7Op → Option (Option (List Byte))
  | .load file _ _ => some file
  | .download d => d.coda.bind fun coda =>
      if coda = [] then none else some (d.files (Download.path coda d.v7file))
  | .ctrlInit | .setReset _ | .setResetSoft _ | .softReset => none

/-- What a call writes to the Z7. -/
def z7Image : V7Op → Option (List Byte)
  | .download d => d.coda.bind fun coda =>
      if coda = [] ∨ d.fd.toInt < 1 then none else d.files (Download.path coda d.z7file)
  | .ctrlInit | .setReset _ | .setResetSoft _ | .softReset | .load _ _ _ => none

/-- The call writes the control register. -/
def drives : V7Op → Bool
  | .ctrlInit | .setReset _ | .setResetSoft _ | .softReset | .load _ _ _ => true
  | .download d => (d.coda.getD []) ≠ []

/-- The reads of the V7's file that fail. -/
def faults : V7Op → Nat → Option Nat
  | .load _ faults _ => faults
  | .download d => d.faults
  | .ctrlInit | .setReset _ | .setResetSoft _ | .softReset => fun _ => none

/-- The file that the call loads, if any, is read without an error. -/
def Clean (op : V7Op) : Prop :=
  ∀ data, op.image = some (some data) → NoFault data.length op.faults

end V7Op

/-! ## The port behind the bridge -/

/-- The pins that a control word drives. -/
def v7Pins (w : Word) : Pins where
  csiB := w.getLsbD V7Ctrl.csiB.bit
  rdwrB := w.getLsbD V7Ctrl.rdwrB.bit
  programB := w.getLsbD V7Ctrl.programB.bit

def V7Write.event : V7Write → PortEvent (BitVec 16)
  | .ctrl w => .drive (v7Pins w)
  | .cfg w => .word w

/-- What has been presented at the port, after `d`. -/
def V7Bridge.port (b : V7Bridge) (d : Presented (BitVec 16)) : Presented (BitVec 16) :=
  d.run (b.writes.map V7Write.event)

def V7Write.ctrlWord : V7Write → Option Word
  | .ctrl w => some w
  | .cfg _ => none

/-- What `vtp->v7.Ctrl` was given last, if it was given a word. -/
def V7Bridge.register (b : V7Bridge) : Option Word :=
  latest (fun w => w.ctrlWord.map some) none b.writes

/-- The image was presented, completed to words and with zeros behind it, and nothing when
the file did not open. -/
def ShowsImage (file : Option (List Byte)) (d : Presented (BitVec 16)) : Prop :=
  d.turned = false ∧
    match file with
    | none => d.words = []
    | some data => ∃ pad n, 0 < n ∧ d.words = paired pad data ++ List.replicate n 0

/-! ## One bit of the shadow -/

section Shadow

variable {b : V7Bridge} {d : Presented (BitVec 16)} {i : Nat}

theorem V7Bridge.port_write (w : V7Write) : (b.write w).port d = (b.port d).step w.event := by
  rw [V7Bridge.port, V7Bridge.write, List.map_append, Presented.run_append]
  rfl

theorem V7Bridge.port_drive (s : Word) :
    (b.drive s).port d = (b.port d).step (.drive (v7Pins s)) :=
  V7Bridge.port_write _

theorem ctrl_bit (c : V7Ctrl) : (1#32 <<< c.bit).getLsbD i = decide (c.bit = i) := by
  have hlt : c.bit < 32 := by cases c <;> decide
  have htwo : (1#32 <<< c.bit) = BitVec.twoPow 32 c.bit := rfl
  rw [htwo, BitVec.getLsbD_twoPow, decide_eq_true hlt, Bool.true_and]

theorem v7SetCtrl_bit (c : V7Ctrl) (val : Word) (hi : i < 32) :
    (v7SetCtrl c val b).shadow.getLsbD i =
      if c.bit = i then decide (val ≠ 0) else b.shadow.getLsbD i := by
  rw [v7SetCtrl]
  split
  · next hval =>
    show (b.shadow ||| 1#32 <<< c.bit).getLsbD i = _
    rw [BitVec.getLsbD_or, ctrl_bit]
    by_cases h : c.bit = i
    · rw [if_pos h, decide_eq_true h, Bool.or_true, decide_eq_true hval]
    · rw [if_neg h, decide_eq_false h, Bool.or_false]
  · next hval =>
    show (b.shadow &&& ~~~(1#32 <<< c.bit)).getLsbD i = _
    rw [BitVec.getLsbD_and, BitVec.getLsbD_not, ctrl_bit, decide_eq_true hi, Bool.true_and]
    by_cases h : c.bit = i
    · rw [if_pos h, decide_eq_true h, Bool.not_true, Bool.and_false, decide_eq_false hval]
    · rw [if_neg h, decide_eq_false h, Bool.not_false, Bool.and_true]

theorem v7SetCtrl_port (c : V7Ctrl) (val : Word) :
    (v7SetCtrl c val b).port d =
      (b.port d).step (.drive (v7Pins (v7SetCtrl c val b).shadow)) := by
  rw [v7SetCtrl]
  split
  · exact V7Bridge.port_drive _
  · exact V7Bridge.port_drive _

theorem V7Bridge.register_drive (s : Word) : (b.drive s).register = some s :=
  latest_concat (fun w : V7Write => w.ctrlWord.map some) _ b.writes (.ctrl s)

theorem v7SetCtrl_register (c : V7Ctrl) (val : Word) :
    (v7SetCtrl c val b).register = some (v7SetCtrl c val b).shadow := by
  rw [v7SetCtrl]
  split
  · exact V7Bridge.register_drive _
  · exact V7Bridge.register_drive _

/-- What a call makes of the pins. -/
def setPin (c : V7Ctrl) (level : Bool) (p : Pins) : Pins :=
  match c with
  | .csiB => { p with csiB := level }
  | .rdwrB => { p with rdwrB := level }
  | .programB => { p with programB := level }
  | .reset | .resetSoft => p

theorem v7SetCtrl_pins (c : V7Ctrl) (val : Word) :
    v7Pins (v7SetCtrl c val b).shadow = setPin c (decide (val ≠ 0)) (v7Pins b.shadow) := by
  have hcsi := @v7SetCtrl_bit b V7Ctrl.csiB.bit c val (by decide)
  have hrdwr := @v7SetCtrl_bit b V7Ctrl.rdwrB.bit c val (by decide)
  have hprogram := @v7SetCtrl_bit b V7Ctrl.programB.bit c val (by decide)
  rw [v7Pins, hcsi, hrdwr, hprogram]
  cases c <;> rfl

end Shadow

/-! ## One load -/

section Load

variable (status : Nat → Word) {b : V7Bridge} {d : Presented (BitVec 16)}

/-- Polling writes nothing. -/
theorem waitInitB_keeps (n : Nat) :
    (waitInitB status n b).2.shadow = b.shadow ∧ (waitInitB status n b).2.writes = b.writes := by
  induction n generalizing b with
  | zero =>
    rw [waitInitB]
    split <;> exact ⟨rfl, rfl⟩
  | succ n ih =>
    rw [waitInitB]
    split
    · exact ⟨rfl, rfl⟩
    · exact ih

/-- The port starts over and is selected for writing; the resets are as they were. -/
theorem cfgStart_port :
    ((vtpV7CfgStart status b).2.port d) =
        ⟨v7Pins (vtpV7CfgStart status b).2.shadow, [], false⟩ ∧
      (v7Pins (vtpV7CfgStart status b).2.shadow).Writes ∧
      (vtpV7CfgStart status b).2.register = some (vtpV7CfgStart status b).2.shadow ∧
      ∀ i < 2, (vtpV7CfgStart status b).2.shadow.getLsbD i = b.shadow.getLsbD i := by
  let b₁ := vtpV7SetRdwrB 0 (vtpV7SetProgramB 1 (vtpV7SetCsiB 1 b))
  let b₂ := vtpV7SetProgramB 0 (vtpV7GetInitB status b₁).2
  let b₃ := vtpV7SetProgramB 1 (vtpV7GetInitB status b₂).2
  let b₄ := vtpV7SetCsiB 0 b₃
  have hpins₁ : v7Pins b₁.shadow = ⟨true, false, true⟩ := by
    rw [show b₁ = v7SetCtrl .rdwrB 0 (v7SetCtrl .programB 1 (v7SetCtrl .csiB 1 b)) from rfl,
      v7SetCtrl_pins, v7SetCtrl_pins, v7SetCtrl_pins]
    rfl
  have hpins₂ : v7Pins b₂.shadow = ⟨true, false, false⟩ := by
    rw [show b₂ = v7SetCtrl .programB 0 (vtpV7GetInitB status b₁).2 from rfl, v7SetCtrl_pins]
    exact congrArg (setPin .programB false) hpins₁
  have hpins₃ : v7Pins b₃.shadow = ⟨true, false, true⟩ := by
    rw [show b₃ = v7SetCtrl .programB 1 (vtpV7GetInitB status b₂).2 from rfl, v7SetCtrl_pins]
    exact congrArg (setPin .programB true) hpins₂
  have hpins₄ : v7Pins b₄.shadow = ⟨false, false, true⟩ := by
    rw [show b₄ = v7SetCtrl .csiB 0 b₃ from rfl, v7SetCtrl_pins]
    exact congrArg (setPin .csiB false) hpins₃
  -- program starts over, and from there on neither it nor the direction changes
  have hport₂ : b₂.port d = ⟨v7Pins b₂.shadow, [], false⟩ :=
    (v7SetCtrl_port .programB 0).trans (Presented.step_program (congrArg Pins.programB hpins₂))
  have hport₃ : b₃.port d = ⟨v7Pins b₃.shadow, [], false⟩ := by
    have hstep : b₃.port d = (b₂.port d).step (.drive (v7Pins b₃.shadow)) :=
      v7SetCtrl_port .programB 1
    rw [hstep, hport₂, hpins₂, hpins₃]
    rfl
  have hport₄ : b₄.port d = ⟨v7Pins b₄.shadow, [], false⟩ := by
    have hstep : b₄.port d = (b₃.port d).step (.drive (v7Pins b₄.shadow)) :=
      v7SetCtrl_port .csiB 0
    rw [hstep, hport₃, hpins₃, hpins₄]
    rfl
  obtain ⟨hshadow, hwrites⟩ := @waitInitB_keeps status b₄ v7CfgInitbCntMax
  have hstart : vtpV7CfgStart status b = waitInitB status v7CfgInitbCntMax b₄ := rfl
  rw [hstart, V7Bridge.port, V7Bridge.register, hwrites, hshadow]
  refine ⟨hport₄, ?_, v7SetCtrl_register .csiB 0, ?_⟩
  · rw [hpins₄]
    decide
  · intro i hi
    have hlt : i < 32 := by omega
    have hresets : ∀ c : V7Ctrl, 2 ≤ c.bit → ∀ (val : Word) (b : V7Bridge),
        (v7SetCtrl c val b).shadow.getLsbD i = b.shadow.getLsbD i := by
      intro c hc val b
      rw [v7SetCtrl_bit c val hlt, if_neg (by omega)]
    calc b₄.shadow.getLsbD i
        = b₃.shadow.getLsbD i := hresets .csiB (by decide) 0 b₃
      _ = b₂.shadow.getLsbD i := hresets .programB (by decide) 1 _
      _ = b₁.shadow.getLsbD i := hresets .programB (by decide) 0 _
      _ = (v7SetCtrl .programB 1 (v7SetCtrl .csiB 1 b)).shadow.getLsbD i :=
        hresets .rdwrB (by decide) 0 _
      _ = (v7SetCtrl .csiB 1 b).shadow.getLsbD i := hresets .programB (by decide) 1 _
      _ = b.shadow.getLsbD i := hresets .csiB (by decide) 1 b

/-- A zero is written for each poll. -/
theorem waitDone_writes (n : Nat) :
    (waitDone status n b).2.shadow = b.shadow ∧
      ∃ k, 0 < k ∧ (waitDone status n b).2.writes = b.writes ++ List.replicate k (.cfg 0) := by
  induction n generalizing b with
  | zero =>
    rw [waitDone]
    split <;> exact ⟨rfl, 1, Nat.one_pos, rfl⟩
  | succ n ih =>
    rw [waitDone]
    split
    · exact ⟨rfl, 1, Nat.one_pos, rfl⟩
    · obtain ⟨hshadow, k, hk, hwrites⟩ := @ih (vtpV7GetDone status (b.write (.cfg 0))).2
      refine ⟨hshadow, k + 1, Nat.succ_pos k, ?_⟩
      rw [hwrites, List.replicate_succ]
      exact List.append_assoc _ _ _

theorem writeCfgWords_writes (ws : List (BitVec 16)) :
    (writeCfgWords ws b).shadow = b.shadow ∧
      (writeCfgWords ws b).writes = b.writes ++ ws.map .cfg := by
  induction ws generalizing b with
  | nil => exact ⟨rfl, (List.append_nil _).symm⟩
  | cons w ws ih =>
    obtain ⟨hshadow, hwrites⟩ := @ih (b.write (.cfg w))
    exact ⟨hshadow, hwrites.trans (List.append_assoc _ _ _)⟩

theorem cfgEnd_writes :
    (vtpV7CfgEnd status b).2.shadow = b.shadow ∧
      ∃ k, 0 < k ∧ (vtpV7CfgEnd status b).2.writes = b.writes ++ List.replicate k (.cfg 0) := by
  obtain ⟨hshadow, k, hk, hwrites⟩ := @waitDone_writes status b v7CfgDoneCntMax
  rw [vtpV7CfgEnd]
  split
  · exact ⟨hshadow, k, hk, hwrites⟩
  · -- 64 more zeros behind those of the polls
    obtain ⟨hshadow', hwrites'⟩ :=
      @writeCfgWords_writes (waitDone status v7CfgDoneCntMax b).2 (List.replicate 64 0)
    refine ⟨hshadow'.trans hshadow, k + 64, Nat.add_pos_left hk 64, ?_⟩
    show (writeCfgWords (List.replicate 64 0) (waitDone status v7CfgDoneCntMax b).2).writes = _
    rw [hwrites', hwrites, List.map_replicate, List.append_assoc, List.replicate_append_replicate]

theorem steps_bracket (code : Int) (es : List V7Step) :
    (LockRun.mk code (bracket es)).steps = es := by
  rw [LockRun.steps, bracket, List.filterMap_cons_none rfl, List.filterMap_append,
    List.filterMap_map]
  exact (List.append_nil _).trans List.filterMap_some

/-- The steps of a load: the file's words between start and end, or just the start. -/
theorem v7Load_steps (file : Option (List Byte)) {faults : Nat → Option Nat}
    (hclean : ∀ data, file = some data → NoFault data.length faults) (buf : Buffer) :
    ∃ code steps n, (∀ fuel ≥ n,
        v7Load status fuel file faults buf b = some (code, steps.foldl (V7Step.run status) b)) ∧
      match file with
      | none => code = error ∧ steps = [.start]
      | some data => code = ok ∧ ∃ pad, steps = .start :: (paired pad data).map .data ++ [.finish] := by
  cases file with
  | none => exact ⟨error, [.start], 0, fun _ _ => rfl, rfl, rfl⟩
  | some data =>
    obtain ⟨out, pad, hload, hcode, hwords, -⟩ := load_noFault (hclean data rfl) buf
    have hblocks := (vtpV7CfgLoad_opened hload).2
    have hout : out = ⟨ok, bracket (.start :: out.words.map .data ++ [.finish])⟩ := by
      rw [vtpV7CfgLoad, hblocks] at hload
      exact (Option.some.inj hload).symm
    refine ⟨out.code, out.steps, data.length / blockSize + 1, ?_, hcode, pad, ?_⟩
    · intro fuel hfuel
      rw [v7Load]
      exact congrArg (Option.map _) (vtpV7CfgLoad_mono hload hfuel)
    · have hsteps := steps_bracket ok (.start :: out.words.map .data ++ [.finish])
      rw [← hout, hwords] at hsteps
      exact hsteps

/-- The words of a load go where the bridge points. -/
theorem dataSteps_writes (ws : List (BitVec 16)) :
    (ws.map V7Step.data).foldl (V7Step.run status) b = writeCfgWords ws b := by
  rw [List.foldl_map]
  rfl

/-- The words that are written to a port that is selected. -/
theorem port_words {b' : V7Bridge} (htakes : (b.port d).pins.Writes) {ws : List (BitVec 16)}
    (h : b'.writes = b.writes ++ ws.map .cfg) :
    b'.port d = { b.port d with words := (b.port d).words ++ ws } := by
  have hevents : (ws.map V7Write.cfg).map V7Write.event = ws.map .word := by
    rw [List.map_map]
    rfl
  rw [V7Bridge.port, h, List.map_append, Presented.run_append, hevents]
  exact Presented.run_words htakes ws

/-- They leave the control register alone. -/
theorem register_words {b' : V7Bridge} {ws : List (BitVec 16)}
    (h : b'.writes = b.writes ++ ws.map .cfg) : b'.register = b.register := by
  have hnone : (ws.map V7Write.cfg).filterMap (fun w => w.ctrlWord.map some) = [] := by
    rw [List.filterMap_map]
    exact List.filterMap_eq_nil_iff.mpr fun _ _ => rfl
  rw [V7Bridge.register, V7Bridge.register, h, latest_append]
  rw [latest, hnone]
  rfl

/-- A load presents the image, whatever was there and whatever the status says. -/
theorem v7Load_shows (file : Option (List Byte)) {faults : Nat → Option Nat}
    (hclean : ∀ data, file = some data → NoFault data.length faults) (buf : Buffer) :
    ∃ code b' n, (∀ fuel ≥ n, v7Load status fuel file faults buf b = some (code, b')) ∧
      ShowsImage file (b'.port d) ∧ (b'.port d).pins = v7Pins b'.shadow ∧
      (v7Pins b'.shadow).programB = true ∧ b'.register = some b'.shadow ∧
      ∀ i < 2, b'.shadow.getLsbD i = b.shadow.getLsbD i := by
  obtain ⟨hport, htakes, hregister, hresets⟩ := @cfgStart_port status b d
  obtain ⟨code, steps, n, hload, hfile⟩ := @v7Load_steps status b file faults hclean buf
  refine ⟨code, _, n, hload, ?_⟩
  cases file with
  | none =>
    obtain ⟨-, rfl⟩ := hfile
    refine ⟨?_, ?_, htakes.2.2, hregister, hresets⟩
    · show ShowsImage none ((vtpV7CfgStart status b).2.port d)
      rw [hport]
      exact ⟨rfl, rfl⟩
    · exact congrArg Presented.pins hport
  | some data =>
    obtain ⟨-, pad, rfl⟩ := hfile
    let b₁ := (vtpV7CfgStart status b).2
    let b₂ := writeCfgWords (paired pad data) b₁
    have hfold : (V7Step.start :: (paired pad data).map V7Step.data ++ [V7Step.finish]).foldl
        (V7Step.run status) b = (vtpV7CfgEnd status b₂).2 := by
      rw [List.cons_append, List.foldl_cons, List.foldl_append, dataSteps_writes]
      rfl
    obtain ⟨hshadow₂, hwrites₂⟩ := @writeCfgWords_writes b₁ (paired pad data)
    obtain ⟨hshadow₃, k, hk, hwrites₃⟩ := @cfgEnd_writes status b₂
    have htakes₁ : (b₁.port d).pins.Writes := by
      rw [hport]
      exact htakes
    have hwrites : (vtpV7CfgEnd status b₂).2.writes =
        b₁.writes ++ (paired pad data ++ List.replicate k 0).map V7Write.cfg := by
      rw [hwrites₃, hwrites₂, List.map_append, List.map_replicate, List.append_assoc]
    have hport₃ := port_words htakes₁ hwrites
    rw [hport] at hport₃
    rw [hfold, hport₃, register_words hwrites, hshadow₃, hshadow₂]
    exact ⟨⟨rfl, pad, k, hk, List.nil_append _⟩, rfl, htakes.2.2, hregister, hresets⟩

end Load

/-! ## Runs of calls -/

/-- What a run keeps: the register is the shadow once it was written, and the image of the last
load was presented when there was one, with the pins as the shadow has them. -/
structure V7Holds (d : Presented (BitVec 16)) (driven reset resetSoft : Bool)
    (image : Option (Option (List Byte))) (b : V7Bridge) : Prop where
  register : b.register = if driven then some b.shadow else none
  reset : b.shadow.getLsbD 0 = reset
  resetSoft : b.shadow.getLsbD 1 = resetSoft
  program : (v7Pins b.shadow).programB = true
  kept : image = none → (b.port d).words = d.words
  image : ∀ file, image = some file →
    ShowsImage file (b.port d) ∧ (b.port d).pins = v7Pins b.shadow

section Runs

variable (status : Nat → Word) {d : Presented (BitVec 16)} {driven reset resetSoft : Bool}
  {image : Option (Option (List Byte))} {b : V7Bridge}

/-- A call that leaves the port alone, or deselects it. -/
theorem V7Holds.drive (h : V7Holds d driven reset resetSoft image b) {s : Word}
    (hprogram : (v7Pins s).programB = true)
    (hdir : (v7Pins s).csiB = true ∨ (v7Pins s).rdwrB = (v7Pins b.shadow).rdwrB) :
    V7Holds d true (s.getLsbD 0) (s.getLsbD 1) image (b.drive s) where
  register := b.register_drive s
  reset := rfl
  resetSoft := rfl
  program := hprogram
  kept hnone := by
    rw [V7Bridge.port_drive, Presented.step, hprogram]
    exact h.kept hnone
  image file hfile := by
    obtain ⟨hshows, hpins⟩ := h.image file hfile
    have hstep : (b.port d).step (.drive (v7Pins s)) = { b.port d with pins := v7Pins s } := by
      obtain hcsi | hdir := hdir
      · exact Presented.step_deselect hprogram hcsi
      · exact Presented.step_drive hprogram (by rw [hpins, hdir])
    rw [V7Bridge.port_drive, hstep]
    exact ⟨hshows, rfl⟩

theorem V7Holds.set (h : V7Holds d driven reset resetSoft image b) {c : V7Ctrl} (hc : c.bit < 2)
    (val : Word) :
    V7Holds d true (if c.bit = 0 then decide (val ≠ 0) else reset)
      (if c.bit = 1 then decide (val ≠ 0) else resetSoft) image (v7SetCtrl c val b) := by
  have hpins : v7Pins (v7SetCtrl c val b).shadow = v7Pins b.shadow := by
    rw [v7SetCtrl_pins]
    cases c with
    | reset | resetSoft => rfl
    | csiB | rdwrB | programB => exact absurd hc (by decide)
  have hdrive : v7SetCtrl c val b = b.drive (v7SetCtrl c val b).shadow := by
    rw [v7SetCtrl]
    split <;> rfl
  have hkeeps := h.drive (s := (v7SetCtrl c val b).shadow) (by rw [hpins]; exact h.program)
    (.inr (by rw [hpins]))
  rw [← hdrive, v7SetCtrl_bit c val (by decide), v7SetCtrl_bit c val (by decide), h.reset,
    h.resetSoft] at hkeeps
  exact hkeeps

theorem V7Holds.ctrlInit (h : V7Holds d driven reset resetSoft image b) :
    V7Holds d true true true image (vtpV7CtrlInit b) :=
  h.drive (s := 0x1F#32) rfl (.inl rfl)

theorem V7Holds.setReset (h : V7Holds d driven reset resetSoft image b) (val : Word) :
    V7Holds d true (decide (val ≠ 0)) resetSoft image (vtpV7SetReset val b) :=
  h.set (c := .reset) (by decide) val

theorem V7Holds.setResetSoft (h : V7Holds d driven reset resetSoft image b) (val : Word) :
    V7Holds d true reset (decide (val ≠ 0)) image (vtpV7SetResetSoft val b) :=
  h.set (c := .resetSoft) (by decide) val

theorem V7Holds.load (h : V7Holds d driven reset resetSoft image b) (file : Option (List Byte))
    (faults : Nat → Option Nat) (hclean : ∀ data, file = some data → NoFault data.length faults)
    (buf : Buffer) :
    ∃ code b' n, (∀ fuel ≥ n, v7Load status fuel file faults buf b = some (code, b')) ∧
      V7Holds d true reset resetSoft (some file) b' := by
  obtain ⟨code, b', n, hload, hshows, hpins, hprogram, hregister, hresets⟩ :=
    @v7Load_shows status b d file faults hclean buf
  refine ⟨code, b', n, hload, hregister, ?_, ?_, hprogram, ?_, ?_⟩
  · rw [hresets 0 (by decide), h.reset]
  · rw [hresets 1 (by decide), h.resetSoft]
  · exact fun hnone => absurd hnone (Option.some_ne_none _)
  · intro file' hfile
    rw [← Option.some.inj hfile]
    exact ⟨hshows, hpins⟩

/-- The Z7 gets its file when both it and the device open. -/
theorem vtpZ7CfgLoad_written (file : Option (List Byte)) (fd : Word) :
    (vtpZ7CfgLoad file fd).written = (if fd.toInt < 1 then none else file).toList := by
  cases file with
  | none => split <;> rfl
  | some bits =>
    rw [vtpZ7CfgLoad]
    split <;> rfl

/-- One call. -/
theorem V7Op.run_holds {s : Fpgas} {op : V7Op} (hclean : op.Clean)
    (h : V7Holds d driven reset resetSoft image s.bridge) :
    ∃ s' n, (∀ fuel ≥ n, op.run status fuel s = some s') ∧
      s'.xdevcfg = s.xdevcfg ++ op.z7Image.toList ∧
      V7Holds d (driven || op.drives) (op.reset.getD reset) (op.resetSoft.getD resetSoft)
        ((op.image.map some).getD image) s'.bridge := by
  cases op with
  | ctrlInit =>
    exact ⟨_, 0, fun _ _ => rfl, (List.append_nil _).symm, driven.or_true ▸ h.ctrlInit⟩
  | setReset val =>
    exact ⟨_, 0, fun _ _ => rfl, (List.append_nil _).symm, driven.or_true ▸ h.setReset val⟩
  | setResetSoft val =>
    exact ⟨_, 0, fun _ _ => rfl, (List.append_nil _).symm, driven.or_true ▸ h.setResetSoft val⟩
  | softReset =>
    exact ⟨_, 0, fun _ _ => rfl, (List.append_nil _).symm,
      driven.or_true ▸ (h.setResetSoft 1).setResetSoft 0⟩
  | load file faults buf =>
    obtain ⟨code, b', n, hload, hholds⟩ :=
      h.load status file faults (fun data hdata => hclean data (congrArg some hdata)) buf
    refine ⟨⟨b', s.xdevcfg⟩, n, ?_, (List.append_nil _).symm, driven.or_true ▸ hholds⟩
    intro fuel hfuel
    rw [V7Op.run, hload fuel hfuel]
    rfl
  | download dl =>
    simp only [V7Op.run, rocDownload, V7Op.z7Image, V7Op.drives]
    rw [V7Op.Clean, V7Op.image] at hclean
    rw [V7Op.image]
    cases hset : dl.coda with
    | none => exact ⟨s, 0, fun _ _ => rfl, (List.append_nil _).symm, driven.or_false.symm ▸ h⟩
    | some coda =>
      rw [hset, Option.bind_some] at hclean
      by_cases hcoda : coda = []
      · refine ⟨s, 0, ?_, ?_, ?_⟩
        · exact fun _ _ => if_pos hcoda
        · rw [Option.bind_some, if_pos (.inl hcoda)]
          exact (List.append_nil _).symm
        · rw [Option.bind_some, if_pos hcoda, Option.getD_some, hcoda]
          exact driven.or_false.symm ▸ h
      · rw [if_neg hcoda] at hclean
        obtain ⟨code, b', n, hload, hholds⟩ := h.load status
          (dl.files (Download.path coda dl.v7file)) dl.faults
          (fun data hdata => hclean data (congrArg some hdata)) dl.buf
        refine ⟨⟨b', s.xdevcfg ++ (vtpZ7CfgLoad (dl.files (Download.path coda dl.z7file))
          dl.fd).written⟩, n, ?_, ?_, ?_⟩
        · intro fuel hfuel
          refine (if_neg hcoda).trans ?_
          rw [hload fuel hfuel]
          rfl
        · rw [Option.bind_some, vtpZ7CfgLoad_written]
          simp only [hcoda, false_or]
        · rw [Option.bind_some, if_neg hcoda, Option.getD_some, decide_eq_true hcoda]
          exact driven.or_true.symm ▸ hholds

/-- A run of calls. -/
theorem runAll_holds {s : Fpgas} {ops : List V7Op} (hclean : ∀ op ∈ ops, op.Clean)
    (h : V7Holds d driven reset resetSoft image s.bridge) :
    ∃ s' n, (∀ fuel ≥ n, V7Op.runAll status fuel s ops = some s') ∧
      s'.xdevcfg = s.xdevcfg ++ ops.filterMap V7Op.z7Image ∧
      V7Holds d (driven || ops.any V7Op.drives) (latest V7Op.reset reset ops)
        (latest V7Op.resetSoft resetSoft ops)
        (latest (fun op => op.image.map some) image ops) s'.bridge := by
  induction ops generalizing s driven reset resetSoft image with
  | nil =>
    exact ⟨s, 0, fun _ _ => rfl, (List.append_nil _).symm, driven.or_false.symm ▸ h⟩
  | cons op ops ih =>
    rw [List.forall_mem_cons] at hclean
    obtain ⟨s₁, n₁, hrun, hz7, hone⟩ := V7Op.run_holds status hclean.1 h
    obtain ⟨s₂, n₂, hruns, hz7s, hall⟩ := ih hclean.2 hone
    refine ⟨s₂, max n₁ n₂, ?_, ?_, ?_⟩
    · intro fuel hfuel
      rw [V7Op.runAll, List.foldlM_cons, hrun fuel (le_of_max_le_left hfuel)]
      exact hruns fuel (le_of_max_le_right hfuel)
    · rw [hz7s, hz7, List.append_assoc]
      cases hop : op.z7Image with
      | none => rw [List.filterMap_cons_none hop]; rfl
      | some bytes => rw [List.filterMap_cons_some hop]; rfl
    · rwa [latest_cons, latest_cons, latest_cons, List.any_cons, ← Bool.or_assoc]

theorem V7Holds.start (d : Presented (BitVec 16)) :
    V7Holds d false true true none V7Bridge.start where
  register := rfl
  reset := rfl
  resetSoft := rfl
  program := rfl
  kept _ := rfl
  image _ hfile := absurd hfile.symm (Option.some_ne_none _)

end Runs

/-- Loads, downloads and resets in any order, with any answers of the status, and the files
read without an error: with enough fuel every call comes back, the shadow has the resets as
they were last set, and is what the control register was given last, if it was given
anything. The image of the last load is what was presented at the port, or nothing was when
there was no load, and the Z7 gets the files of the downloads in order. -/
theorem v7_configured (status : Nat → Word) {ops : List V7Op} (hclean : ∀ op ∈ ops, op.Clean)
    (d : Presented (BitVec 16)) :
    ∃ s n, (∀ fuel ≥ n, V7Op.runAll status fuel ⟨V7Bridge.start, []⟩ ops = some s) ∧
      s.xdevcfg = ops.filterMap V7Op.z7Image ∧
      V7Holds d (ops.any V7Op.drives) (latest V7Op.reset true ops)
        (latest V7Op.resetSoft true ops) (latest (fun op => op.image.map some) none ops)
        s.bridge := by
  obtain ⟨s, n, hrun, hz7, hholds⟩ :=
    runAll_holds status (s := ⟨V7Bridge.start, []⟩) hclean (.start d)
  exact ⟨s, n, hrun, hz7, hholds⟩

/-- A reset is taken off behind a load of one word, of a V7 that never answers. -/
theorem v7_configured_word :
    ∃ s n, (∀ fuel ≥ n, V7Op.runAll (fun _ => 0#32) fuel ⟨V7Bridge.start, []⟩
        [.load (some [0x34#8, 0x12#8]) (fun _ => none) ⟨fun _ => 0#8, 0⟩, .setReset 0#32] =
          some s) ∧
      s.bridge.shadow.getLsbD 0 = false ∧
      ∃ k, 0 < k ∧ (s.bridge.port ⟨⟨true, true, true⟩, [], false⟩).words =
        0x1234#16 :: List.replicate k 0 := by
  obtain ⟨s, n, hrun, -, hholds⟩ := @v7_configured (fun _ => 0#32)
    [.load (some [0x34#8, 0x12#8]) (fun _ => none) ⟨fun _ => 0#8, 0⟩, .setReset 0#32]
    (by simp only [List.forall_mem_cons]; exact ⟨fun _ _ _ _ => rfl, fun _ _ _ _ => rfl, nofun⟩)
    ⟨⟨true, true, true⟩, [], false⟩
  obtain ⟨-, pad, k, hk, hwords⟩ := (hholds.image _ rfl).1
  exact ⟨s, n, hrun, hholds.reset, k, hk, hwords⟩

end VtpStreaming
