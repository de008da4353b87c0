import VtpStreaming.Blocks
import VtpStreaming.EventBuilder

/-!
# What the streaming setters leave to the getters

The event builder, and the network interface of one stream.
-/

namespace VtpStreaming

open Clib VtpLib

/-! ## The event builder -/

/-- `Ctrl`: the builder is in reset. -/
def ebReset : BitField 32 := ⟨31, 1, by decide⟩

/-- `Ctrl`: the frame length, in ticks of 32 ns less one. -/
def ebFrame : BitField 32 := ⟨16, 14, by decide⟩

theorem ebPorts_fits : 0 + 16 ≤ 32 := by decide

/-- `Ctrl`: the payload ports. -/
def ebPorts : BitField 32 := ⟨0, 16, ebPorts_fits⟩

/-- `rocid`: what the getter reads of it. -/
def ebRocid : BitField 32 := ⟨0, 7, by decide⟩

/-- A requested frame length, cut to the range that can be programmed and rounded up
to whole ticks. -/
def frameNs (frameLen : Int) : Int := (max 1025 (min 65536 frameLen) + 31) / 32 * 32

def EbCfgReadsBack (lib : VtpLib) (mask nstreams frameLen rocId : Word) (ppInfo : Option PpInfo)
    (r : Regs) : Prop :=
  lib.vtpStreamingGetEbCfg
      (call (lib.vtpStreamingSetEbCfg mask nstreams frameLen rocId ppInfo) r) =
    some (mask &&& 0xffff#32, ebNstreams nstreams, BitVec.ofInt 32 (frameNs frameLen.toInt),
      checkRange 0 127 rocId)

def RocidReadsBack (lib : VtpLib) (id : BitVec 16) (r : Regs) : Prop :=
  ∃ mask nstreams frameLen,
    lib.vtpStreamingGetEbCfg (call (lib.vtpStreamingSetEbRocid (id.setWidth 32)) r) =
      some (mask, nstreams, frameLen, id.setWidth 32)

/-! ### The frame length -/

/-- The requested length in whole ticks, less one ns. -/
def wholeTicks (frameLen : Word) : Word := (frameLen + 31#32).sdiv 32#32 * 32#32 - 1#32

theorem frameTicks_eq (frameLen : Word) :
    frameTicks frameLen = (checkRange 1024 65535 (wholeTicks frameLen)).sshiftRight 5 := rfl

theorem cut_mem (v : Word) :
    1024 ≤ (checkRange 1024 65535 v).toInt ∧ (checkRange 1024 65535 v).toInt ≤ 65535 :=
  checkRange_mem (by decide) (by decide) (by decide) v

theorem sshiftRight_toNat {v : Word} (h : 0 ≤ v.toInt) (k : Nat) :
    ((v.sshiftRight k).toNat : Int) = v.toInt / 2 ^ k := by
  have hnat : (v.toNat : Int) = v.toInt := by
    rw [BitVec.toInt_eq_toNat_cond] at h ⊢
    split_ifs at h ⊢ <;> omega
  have hmsb : v.msb = false := by
    rw [BitVec.msb_eq_toInt]
    exact decide_eq_false (by omega)
  rw [BitVec.sshiftRight_eq_of_msb_false hmsb, BitVec.toNat_ushiftRight, Nat.shiftRight_eq_div_pow,
    ← hnat]
  norm_cast

theorem frameTicks_toNat (frameLen : Word) :
    ((frameTicks frameLen).toNat : Int) =
      (checkRange 1024 65535 (wholeTicks frameLen)).toInt / 32 := by
  have hmem := cut_mem (wholeTicks frameLen)
  rw [frameTicks_eq, sshiftRight_toNat (by omega)]
  rfl

theorem frameTicks_range (frameLen : Word) :
    32 ≤ (frameTicks frameLen).toNat ∧ (frameTicks frameLen).toNat ≤ 2047 := by
  have hmem := cut_mem (wholeTicks frameLen)
  have hticks := frameTicks_toNat frameLen
  omega

/-- A length cut to whole ticks, towards zero. -/
theorem tdiv_mul_bounds (x : Int) :
    (0 ≤ x → x.tdiv 32 * 32 = x / 32 * 32) ∧ (x < 0 → x ≤ x.tdiv 32 * 32 ∧ x.tdiv 32 * 32 ≤ 0) := by
  constructor
  · intro hpos
    rw [Int.tdiv_eq_ediv_of_nonneg hpos]
  · intro hneg
    have hback : (-x).tdiv 32 * 32 = -x / 32 * 32 := by
      rw [Int.tdiv_eq_ediv_of_nonneg (by omega)]
    rw [Int.neg_tdiv, Int.neg_mul] at hback
    omega

/-- A request that the addition does not carry out of the `int`. -/
theorem wholeTicks_toInt {frameLen : Word} (h : frameLen.toInt < 2 ^ 31 - 31) :
    (wholeTicks frameLen).toInt = (frameLen.toInt + 31).tdiv 32 * 32 - 1 := by
  have hlo := frameLen.le_toInt
  have hbounds := tdiv_mul_bounds (frameLen.toInt + 31)
  have hadd : (frameLen + 31#32).toInt = frameLen.toInt + 31 := by
    rw [BitVec.toInt_add]
    apply Int.bmod_eq_of_le <;> simp <;> omega
  have hdiv : ((frameLen + 31#32).sdiv 32#32).toInt = (frameLen.toInt + 31).tdiv 32 := by
    rw [toInt_sdiv_pos _ (by decide), hadd]
    rfl
  have hfits := sdiv_mul_fits (frameLen + 31#32) (k := 32#32) (by decide)
  have hmul : ((frameLen + 31#32).sdiv 32#32 * 32#32).toInt =
      (frameLen.toInt + 31).tdiv 32 * 32 := by
    rw [toInt_mul hfits.1 hfits.2, hdiv]
    rfl
  rw [wholeTicks, BitVec.toInt_sub, hmul]
  apply Int.bmod_eq_of_le <;> simp <;> omega

/-- The register has the frame length as it was to be programmed. -/
theorem frameTicks_frameNs {frameLen : Word} (h : frameLen.toInt < 2 ^ 31 - 31) :
    ((frameTicks frameLen).toNat : Int) * 32 + 32 = frameNs frameLen.toInt := by
  have hwhole := wholeTicks_toInt h
  have hbounds := tdiv_mul_bounds (frameLen.toInt + 31)
  have htop : (BitVec.ofInt 32 65535).toInt = 65535 := rfl
  have hbottom : (BitVec.ofInt 32 1024).toInt = 1024 := rfl
  rw [frameTicks_toNat, frameNs, checkRange]
  split_ifs with hhigh hlow
  · rw [htop]
    omega
  · rw [hbottom]
    omega
  · omega

/-! ### The registers -/

section EbCfg

variable {lib : VtpLib} (runs : lib.Runs vtpFwTypeFadcstream)
  (mask nstreams frameLen rocId : Word) (ppInfo : Option PpInfo) (r : Regs)

/-- `Ctrl` as it is programmed: the reset, the frame length and the ports. -/
theorem ebCtrl_eq_pack :
    0x80000000#32 ||| (frameTicks frameLen <<< 16) ||| (mask &&& 0xffff#32) =
      BitField.pack [(ebReset, 1#32), (ebFrame, frameTicks frameLen), (ebPorts, mask &&& 0xffff#32)] := by
  have hreset : (0x80000000#32 : Word) = 1#32 <<< ebReset.shift := by decide
  have hports : ebPorts.shift = 0 := rfl
  simp only [BitField.pack, BitVec.or_zero, hreset, hports, BitVec.shiftLeft_zero, BitVec.or_assoc]
  rfl

theorem ebCtrl_fields :
    ∀ p ∈ [(ebReset, 1#32), (ebFrame, frameTicks frameLen), (ebPorts, mask &&& 0xffff#32)],
      p.1.get (0x80000000#32 ||| (frameTicks frameLen <<< 16) ||| (mask &&& 0xffff#32)) = p.2 := by
  have hapart : [ebReset, ebFrame, ebPorts].Pairwise BitField.Apart := by decide
  have hticks : ebFrame.Holds (frameTicks frameLen) := by
    have hrange := frameTicks_range frameLen
    have hwidth : (2047 : Nat) < 2 ^ ebFrame.width := by decide
    exact (BitField.holds_iff _ _).mpr (by omega)
  have hports : ebPorts.Holds (mask &&& 0xffff#32) := ebPorts.holds_and_low mask
  have hone : ebReset.Holds 1#32 := by decide
  apply BitField.get_of_eq_pack (ebCtrl_eq_pack mask frameLen)
  · simpa using hapart
  · simp only [List.forall_mem_cons, List.not_mem_nil, false_implies, implies_true, and_true]
    exact ⟨hone, hticks, hports⟩

theorem ctrl_low_byte {ctrl : Word} (h : ebPorts.get ctrl = mask &&& 0xffff#32) :
    ctrl &&& 0xff#32 = mask &&& 0xff#32 := by
  have hlow : ebPorts.low &&& 0xff#32 = 0xff#32 := by decide
  have hpart : (0xffff#32 : Word) &&& 0xff#32 = 0xff#32 := by decide
  calc ctrl &&& 0xff#32
      = ebPorts.get ctrl &&& 0xff#32 := by
        rw [BitField.get, BitVec.and_assoc, hlow]
        rfl
    _ = mask &&& 0xff#32 := by rw [h, BitVec.and_assoc, hpart]

theorem ebStreams_get : ebStreams.get (0x08#32 ||| ebNstreams nstreams) = ebNstreams nstreams := by
  have hheader : ebStreams.get 0x08#32 = 0#32 := by decide
  rw [BitField.get_or, hheader, BitVec.zero_or]
  exact ebNstreams_holds nstreams

/-- The upper byte of the ports is lost. -/
theorem low_byte_iff : mask &&& 0xff#32 = mask &&& 0xffff#32 ↔ mask &&& 0xff00#32 = 0#32 := by
  have hlow : (0xff#32 : Word) &&& 0xff00#32 = 0#32 := by decide
  have hboth : (0xffff#32 : Word) &&& 0xff00#32 = 0xff00#32 := by decide
  have hsplit : (0xffff#32 : Word) = 0xff#32 ||| 0xff00#32 := by decide
  constructor
  · intro h
    rw [← hboth, ← BitVec.and_assoc, ← h, BitVec.and_assoc, hlow, BitVec.and_zero]
  · intro h
    rw [hsplit, BitVec.and_or_distrib_left, h, BitVec.or_zero]

/-- A tick that is taken for 4 ns gives another length. -/
theorem frame_not_back : frameTicks frameLen * 4#32 + 4#32 ≠ BitVec.ofInt 32
    (frameNs frameLen.toInt) := by
  intro h
  obtain ⟨hlo, hhi⟩ := frameTicks_range frameLen
  have hrange : 1056 ≤ frameNs frameLen.toInt ∧ frameNs frameLen.toInt ≤ 65536 := by
    rw [frameNs]
    omega
  have hticks : (frameTicks frameLen * 4#32 + 4#32).toNat = (frameTicks frameLen).toNat * 4 + 4 := by
    rw [BitVec.toNat_add, BitVec.toNat_mul]
    simp
    omega
  have hnat : (BitVec.ofInt 32 (frameNs frameLen.toInt)).toNat = (frameNs frameLen.toInt).toNat := by
    rw [BitVec.toNat_ofInt]
    omega
  rw [← h, hticks] at hnat
  rcases lt_or_ge frameLen.toInt (2 ^ 31 - 31) with hsmall | hlarge
  · have hback := frameTicks_frameNs hsmall
    omega
  · rw [frameNs] at hnat
    omega

include runs

/-- What the getter finds after the setter. -/
theorem getEbCfg_setEbCfg :
    lib.vtpStreamingGetEbCfg
        (call (lib.vtpStreamingSetEbCfg mask nstreams frameLen rocId ppInfo) r) =
      some (mask &&& 0xff#32, ebNstreams nstreams, frameTicks frameLen * 4#32 + 4#32,
        checkRange 0 127 rocId) := by
  have hfields := ebCtrl_fields mask frameLen
  simp only [List.forall_mem_cons, List.not_mem_nil, false_implies, implies_true, and_true]
    at hfields
  obtain ⟨-, hframe, hports⟩ := hfields
  have hid : ebRocid.Holds (checkRange 0 127 rocId) := holds_upTo ebRocid 127 rocId (by decide)
  have hmem : vtpFwTypeFadcstream ∈ [vtpFwTypeFadcstream] := List.mem_singleton_self _
  rw [vtpStreamingSetEbCfg, runs.call_onTypes hmem, vtpStreamingGetEbCfg, runs.onTypes hmem]
  congr 1
  refine Prod.ext (ctrl_low_byte mask hports) (Prod.ext (ebStreams_get nstreams)
    (Prod.ext ?_ hid))
  exact congrArg (fun frame : Word => frame * 4#32 + 4#32) hframe

theorem getEbCfg_setEbRocid (id : BitVec 16) :
    ∃ mask nstreams frameLen,
      lib.vtpStreamingGetEbCfg (call (lib.vtpStreamingSetEbRocid (id.setWidth 32)) r) =
        some (mask, nstreams, frameLen, id.setWidth 32 &&& 0x7f#32) := by
  have hmem : vtpFwTypeFadcstream ∈ [vtpFwTypeFadcstream] := List.mem_singleton_self _
  rw [vtpStreamingSetEbRocid, runs.call_onTypes hmem, vtpStreamingGetEbCfg, runs.onTypes hmem]
  refine ⟨_, _, _, congrArg some (Prod.ext rfl (Prod.ext rfl (Prod.ext rfl ?_)))⟩
  have hupper : ebRocid.get 0xffff0000#32 = 0#32 := by decide
  have hlower : ebRocid.get 0xffff#32 = ebRocid.low := by decide
  show ebRocid.get (r.streamingEb.rocid &&& 0xffff0000#32 ||| id.setWidth 32 &&& 0xffff#32) = _
  rw [BitField.get_or, BitField.get_and, hupper, BitVec.and_zero, BitVec.zero_or,
    BitField.get_and_of_spares hlower]
  rfl

/-! ### The result -/

/-- The getter takes a tick for 4 ns, so it never gives back the frame length. Of
the ports it gives back the lower byte, and of a roc id seven bits. -/
theorem eb_cfg_read_back_iff (id : BitVec 16) :
    ¬ EbCfgReadsBack lib mask nstreams frameLen rocId ppInfo r ∧
    (∃ ports streams frame rocid,
      lib.vtpStreamingGetEbCfg
          (call (lib.vtpStreamingSetEbCfg mask nstreams frameLen rocId ppInfo) r) =
        some (ports, streams, frame, rocid) ∧
      (ports = mask &&& 0xffff#32 ↔ mask &&& 0xff00#32 = 0#32) ∧
      streams = ebNstreams nstreams ∧
      frame ≠ BitVec.ofInt 32 (frameNs frameLen.toInt) ∧
      rocid = checkRange 0 127 rocId) ∧
    (RocidReadsBack lib id r ↔ id.toNat < 128) := by
  have hback := getEbCfg_setEbCfg runs mask nstreams frameLen rocId ppInfo r
  have hframe := frame_not_back frameLen
  refine ⟨?_, ⟨_, _, _, _, hback, low_byte_iff mask, rfl, hframe, rfl⟩, ?_⟩
  · intro h
    rw [EbCfgReadsBack, hback] at h
    simp only [Option.some.injEq, Prod.mk.injEq] at h
    exact hframe h.2.2.1
  · have hid : (id.setWidth 32 : Word) &&& 0x7f#32 = id.setWidth 32 ↔ id.toNat < 128 := by
      have hnat : (id.setWidth 32 : Word).toNat = id.toNat := by
        rw [BitVec.toNat_setWidth]
        have hlt := id.isLt
        omega
      have hholds := BitField.holds_iff ebRocid (id.setWidth 32)
      rw [hnat] at hholds
      exact hholds
    obtain ⟨ports, streams, frame, hget⟩ := getEbCfg_setEbRocid runs r id
    rw [← hid, RocidReadsBack, hget]
    simp

end EbCfg

theorem eb_cfg_read_back_id : RocidReadsBack streamingLib 127#16 default :=
  (eb_cfg_read_back_iff ⟨rfl, rfl⟩ 0x3#32 1#32 65536#32 5#32 none default 127#16).2.2.mpr
    (by decide)

/-- A frame of 65536 ns, in 2048 ticks, is read back as 8192 ns. -/
theorem eb_cfg_frame_lost :
    ¬ (EbCfgReadsBack streamingLib 0x3#32 1#32 65536#32 5#32 none default ∧
      RocidReadsBack streamingLib 5#16 default) := by
  rintro ⟨h, -⟩
  rw [EbCfgReadsBack] at h
  exact absurd h (by decide)

/-! ## A network interface -/

/-- A byte of a word. -/
def byteField (k : Fin 4) : BitField 32 := ⟨8 * k, 8, by omega⟩

theorem byteField_apart : [byteField 3, byteField 2, byteField 1, byteField 0].Pairwise BitField.Apart := by
  decide

theorem byteField_holds (k : Fin 4) (b : Byte) : (byteField k).Holds (b.setWidth 32) := by
  have hlt := b.isLt
  have hwidth : 2 ^ (byteField k).width = 256 := rfl
  rw [BitField.holds_iff, BitVec.toNat_setWidth, hwidth]
  omega

theorem setWidth_byteField (k : Fin 4) (val : Word) :
    (val >>> (8 * (k : Nat))).setWidth 8 = ((byteField k).get val).setWidth 8 := by
  apply BitVec.eq_of_getLsbD_eq
  intro i hi
  simp [BitField.getLsbD_get, byteField, hi]

theorem ipWord_eq_pack (b : Fin 4 → Byte) :
    ipWord b = BitField.pack [(byteField 3, (b 0).setWidth 32), (byteField 2, (b 1).setWidth 32),
      (byteField 1, (b 2).setWidth 32), (byteField 0, (b 3).setWidth 32)] := by
  have hzero : (byteField 0).shift = 0 := rfl
  simp only [ipWord, BitField.pack, BitVec.or_zero, hzero, BitVec.shiftLeft_zero, BitVec.or_assoc]
  rfl

/-- Each byte of an address comes back. -/
theorem byte_of_ipWord (b : Fin 4 → Byte) (k : Fin 4) :
    (ipWord b >>> (8 * (k : Nat))).setWidth 8 = b k.rev := by
  have hback := BitField.get_of_eq_pack (ipWord_eq_pack b) (by simpa using byteField_apart)
    (by simp [byteField_holds])
  simp only [List.forall_mem_cons, List.not_mem_nil, false_implies, implies_true, and_true]
    at hback
  obtain ⟨h0, h1, h2, h3⟩ := hback
  have hbyte (c : Byte) : (c.setWidth 32).setWidth 8 = c := by
    rw [BitVec.setWidth_setWidth_of_le c (by decide), BitVec.setWidth_eq]
  rw [setWidth_byteField]
  match k with
  | 0 => rw [h3, hbyte]; rfl
  | 1 => rw [h2, hbyte]; rfl
  | 2 => rw [h1, hbyte]; rfl
  | 3 => rw [h0, hbyte]; rfl

theorem ipBytes_ipWord (b : Fin 4 → Byte) : ipBytes (ipWord b) = b := by
  have h := byte_of_ipWord b
  have hlast : (ipWord b).setWidth 8 = b 3 := h 0
  funext i
  match i with
  | 0 => exact h 3
  | 1 => exact h 2
  | 2 => exact h 1
  | 3 => exact hlast

/-- The first two bytes, in the lower half of a word. -/
theorem macBytes_macWords (mac : Fin 6 → Byte) : macBytes (macWords mac) = mac := by
  have hfirst : macWords mac 1 = ipWord ![0#8, 0#8, mac 0, mac 1] := by
    simp [macWords, ipWord]
  have hhigh := ipBytes_ipWord ![0#8, 0#8, mac 0, mac 1]
  have hlow := ipBytes_ipWord ![mac 2, mac 3, mac 4, mac 5]
  funext i
  match i with
  | 0 => rw [macBytes, hfirst]; exact congrFun hhigh 2
  | 1 => rw [macBytes, hfirst]; exact congrFun hhigh 3
  | 2 => exact congrFun hlow 0
  | 3 => exact congrFun hlow 1
  | 4 => exact congrFun hlow 2
  | 5 => exact congrFun hlow 3

/-- The two ports of a word. -/
theorem portWord_upper (localport destport : BitVec 16) :
    (portWord localport destport >>> 16).setWidth 16 = localport := by
  apply BitVec.eq_of_getLsbD_eq
  intro i hi
  have hin : 16 + i < 32 ∧ i < 32 := by omega
  simp [portWord, hi, hin]

theorem portWord_lower (localport destport : BitVec 16) :
    (portWord localport destport).setWidth 16 = destport := by
  apply BitVec.eq_of_getLsbD_eq
  intro i hi
  simp [portWord, hi]

/-- The arguments that both setters take. -/
structure NetArgs where
  ipaddr : Fin 4 → Byte
  subnet : Fin 4 → Byte
  gateway : Fin 4 → Byte
  mac : Fin 6 → Byte
  destipaddr : Fin 4 → Byte
  destipport : BitVec 16
  localport : BitVec 16

section Net

variable (lib : VtpLib) (inst : Fin 4) (mode : Word) (a : NetArgs) (r : Regs)

def setNetCfg : Regs :=
  call (lib.vtpStreamingSetNetCfg inst mode a.ipaddr a.subnet a.gateway a.mac a.destipaddr
    a.destipport a.localport) r

def setTcpCfg : Regs :=
  call (lib.vtpStreamingSetTcpCfg inst a.ipaddr a.subnet a.gateway a.mac a.destipaddr
    a.destipport a.localport) r

def noAddress : Fin 4 → Byte := fun _ => 0#8

/-- What `vtpStreamingGetNetCfg` is to give back. -/
structure NetCfg.Shows (cfg : NetCfg) (mode : Word) (a : NetArgs) : Prop where
  ipaddr : cfg.ipaddr = a.ipaddr
  subnet : cfg.subnet = a.subnet
  gateway : cfg.gateway = a.gateway
  mac : cfg.mac = a.mac
  udpaddr : cfg.udpaddr = if mode ≠ 0#32 then a.destipaddr else noAddress
  tcpaddr : cfg.tcpaddr = if mode ≠ 0#32 then noAddress else a.destipaddr
  udpdest : cfg.udpport.setWidth 16 = if mode ≠ 0#32 then a.destipport else 0#16
  tcpdest : cfg.tcpport.setWidth 16 = if mode ≠ 0#32 then 0#16 else a.destipport
  tcplocal : (cfg.tcpport >>> 16).setWidth 16 = a.localport
  udplocal : (cfg.udpport >>> 16).setWidth 16 ≠ 0#16 ∧
    (cfg.udpport >>> 16).setWidth 16 ≠ a.localport

/-- What `vtpStreamingGetTcpCfg` is to give back. -/
def NetArgs.tcpCfg (a : NetArgs) : StreamingEbCfg :=
  { maskEn := 0#32, nstreams := 0#32, connect := 0#32
    ipaddr := a.ipaddr
    subnet := a.subnet
    gateway := a.gateway
    mac := a.mac
    destip := a.destipaddr
    destipport := a.destipport
    localport := a.localport }

structure NetworkReadsBack : Prop where
  net : ∃ cfg, lib.vtpStreamingGetNetCfg inst (setNetCfg lib inst mode a r) = some cfg ∧
    cfg.Shows mode a
  netOthers : ∀ j ≠ inst, (setNetCfg lib inst mode a r).tcpClient j = r.tcpClient j
  tcp : lib.vtpStreamingGetTcpCfg inst (setTcpCfg lib inst a r) = some a.tcpCfg
  tcpOthers : ∀ j ≠ inst, (setTcpCfg lib inst a r).tcpClient j = r.tcpClient j

variable {lib}

theorem setTcpClient_self (f : TcpipClientRegs → TcpipClientRegs) :
    (setTcpClient inst f r).tcpClient inst = f (r.tcpClient inst) :=
  Function.update_self ..

theorem setTcpClient_other (f : TcpipClientRegs → TcpipClientRegs) {j : Fin 4} (h : j ≠ inst) :
    (setTcpClient inst f r).tcpClient j = r.tcpClient j :=
  Function.update_of_ne h ..

theorem ipBytes_zero : ipBytes 0#32 = noAddress := by
  decide

/-- A port and the next one are two, and the next one is 0 after the last only. -/
theorem next_port (localport : BitVec 16) :
    localport + 1#16 ≠ localport ∧ (localport + 1#16 ≠ 0#16 ↔ localport ≠ 0xffff#16) := by
  bv_omega

theorem getNetCfg_setNetCfg (runs : lib.Runs vtpFwTypeFadcstream) (hport : a.localport ≠ 0#16) :
    (∃ cfg, lib.vtpStreamingGetNetCfg inst (setNetCfg lib inst mode a r) = some cfg ∧
      cfg.Shows mode a) ↔ a.localport ≠ 0xffff#16 := by
  have hnext := next_port a.localport
  have hread : ∀ cfg : NetCfg, cfg.udpport = portWord (a.localport + 1#16)
      (if mode ≠ 0#32 then a.destipport else 0#16) → cfg.Shows mode a →
      a.localport ≠ 0xffff#16 := by
    intro cfg hudp shows
    have hlocal := shows.udplocal.1
    rw [hudp, portWord_upper] at hlocal
    exact hnext.2.mp hlocal
  rw [setNetCfg, vtpStreamingSetNetCfg, runs.call_onInst inst.isLt, vtpStreamingGetNetCfg,
    runs.onInst inst.isLt]
  simp only [setTcpClient_self, localportOf, if_neg hport, Option.some.injEq, exists_eq_left']
  rcases eq_or_ne mode 0#32 with rfl | hmode
  · simp only [ne_eq, not_true_eq_false, if_false]
    refine ⟨hread _ rfl, fun hlast => ?_⟩
    exact
      { ipaddr := ipBytes_ipWord _
        subnet := ipBytes_ipWord _
        gateway := ipBytes_ipWord _
        mac := macBytes_macWords _
        udpaddr := ipBytes_zero
        tcpaddr := ipBytes_ipWord _
        udpdest := portWord_lower _ _
        tcpdest := portWord_lower _ _
        tcplocal := portWord_upper _ _
        udplocal := by
          rw [portWord_upper]
          exact ⟨hnext.2.mpr hlast, hnext.1⟩ }
  · simp only [if_pos hmode]
    refine ⟨hread _ (by rw [if_pos hmode]), fun hlast => ?_⟩
    constructor
    case ipaddr => exact ipBytes_ipWord _
    case subnet => exact ipBytes_ipWord _
    case gateway => exact ipBytes_ipWord _
    case mac => exact macBytes_macWords _
    case udpaddr => rw [if_pos hmode]; exact ipBytes_ipWord _
    case tcpaddr => rw [if_pos hmode]; exact ipBytes_zero
    case udpdest => rw [if_pos hmode]; exact portWord_lower _ _
    case tcpdest => rw [if_pos hmode]; exact portWord_lower _ _
    case tcplocal => exact portWord_upper _ _
    case udplocal =>
      rw [portWord_upper]
      exact ⟨hnext.2.mpr hlast, hnext.1⟩

theorem getTcpCfg_setTcpCfg (runs : lib.Runs vtpFwTypeFadcstream) (hport : a.localport ≠ 0#16) :
    lib.vtpStreamingGetTcpCfg inst (setTcpCfg lib inst a r) = some a.tcpCfg ↔
      (inst : Nat) ≤ 1 := by
  rw [setTcpCfg, vtpStreamingSetTcpCfg, runs.call_onInst inst.isLt, vtpStreamingGetTcpCfg]
  split
  · next hinst =>
    rw [runs.onInst inst.isLt]
    simp only [setTcpClient_self, localportOf, if_neg hport, portWord_upper, portWord_lower,
      tcpAddresses, ipBytes_ipWord, macBytes_macWords, NetArgs.tcpCfg, hinst]
  · next hinst => simp [hinst]

/-- A network interface reads back as it was configured unless its local port is
the last one, whose successor is 0 in 16 bits, or it is one of the two that
`vtpStreamingGetTcpCfg` takes for invalid. -/
theorem network_read_back_iff (runs : lib.Runs vtpFwTypeFadcstream) (hport : a.localport ≠ 0#16) :
    NetworkReadsBack lib inst mode a r ↔ a.localport ≠ 0xffff#16 ∧ (inst : Nat) ≤ 1 := by
  have hnet := getNetCfg_setNetCfg inst mode a r runs hport
  have htcp := getTcpCfg_setTcpCfg inst a r runs hport
  constructor
  · intro h
    exact ⟨hnet.mp h.net, htcp.mp h.tcp⟩
  · rintro ⟨hlast, hinst⟩
    refine ⟨hnet.mpr hlast, fun j hj => ?_, htcp.mpr hinst, fun j hj => ?_⟩
    · rw [setNetCfg, vtpStreamingSetNetCfg, runs.call_onInst inst.isLt]
      exact setTcpClient_other inst r _ hj
    · rw [setTcpCfg, vtpStreamingSetTcpCfg, runs.call_onInst inst.isLt]
      exact setTcpClient_other inst r _ hj

end Net

def sampleArgs (localport : BitVec 16) : NetArgs where
  ipaddr := ![129#8, 57#8, 69#8, 14#8]
  subnet := ![255#8, 255#8, 255#8, 0#8]
  gateway := ![129#8, 57#8, 69#8, 1#8]
  mac := ![0xce#8, 0xba#8, 0xf0#8, 0x03#8, 0x00#8, 0x9d#8]
  destipaddr := ![129#8, 57#8, 177#8, 25#8]
  destipport := 6006#16
  localport := localport

theorem network_read_back_first : NetworkReadsBack streamingLib 0 1#32
    (sampleArgs 10001#16) default :=
  (network_read_back_iff 0 1#32 (sampleArgs 10001#16) default ⟨rfl, rfl⟩ (by decide)).mpr
    (by decide)

/-- The UDP port of local port 65535 is 0. -/
theorem network_last_port : ¬ NetworkReadsBack streamingLib 0 1#32
    (sampleArgs 65535#16) default := by
  intro h
  have hruns : streamingLib.Runs vtpFwTypeFadcstream := ⟨rfl, rfl⟩
  have hnet := getNetCfg_setNetCfg 0 1#32 (sampleArgs 65535#16) default hruns (by decide)
  exact absurd (hnet.mp h.net) (by decide)

end VtpStreaming
