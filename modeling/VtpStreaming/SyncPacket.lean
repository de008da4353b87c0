import VtpStreaming.Clib.Bytes

/-!
# The sync packet of the stats sender

`rol/vtp_stream3_1udp_vg.c`, `htonll` and `setSyncData`. The EJFAT load balancer
reads the 28 bytes in network order. `setSyncData` runs on the little-endian
Zynq.
-/

namespace VtpStreaming

open Clib

/-- The upper 32 bits of a 64-bit value. -/
def hi32 (v : DWord) : Word := (v >>> 32).setWidth 32

/-- The lower 32 bits of a 64-bit value. -/
def lo32 (v : DWord) : Word := (v &&& 0xFFFFFFFF#64).setWidth 32

/-- Helper for 64-bit network byte order. Each half is swapped on its own. -/
def htonll (v : DWord) : DWord :=
  let hi := htonl (hi32 v)
  let lo := htonl (lo32 v)
  (hi.setWidth 64 <<< 32) ||| lo.setWidth 64

/-- Set sync packet data in the format of the load balancer. Every integer
store is a little-endian store of a swapped value. -/
def setSyncData (buffer : List Byte) (version : Word) (srcId : Word) (evtNum : DWord)
    (evtRate : Word) (nanos : DWord) : List Byte :=
  let b := store 0 [0x4C#8] buffer
  let b := store 1 [0x43#8] b
  let b := store 2 [version.setWidth 8] b
  let b := store 3 [0#8] b
  let b := store 4 (leBytes 4 (htonl srcId).toNat) b
  let b := store 8 (leBytes 8 (htonll evtNum).toNat) b
  let b := store 16 (leBytes 4 (htonl evtRate).toNat) b
  store 20 (leBytes 8 (htonll nanos).toNat) b

/-- What the load balancer reads. -/
structure SyncPacket where
  version : Byte
  srcId : Word
  evtNum : DWord
  evtRate : Word
  nanos : DWord
deriving DecidableEq, Repr

/-- The load balancer's reading: `LC`, then every field most significant byte
first. -/
def decodeSync (buffer : List Byte) : Option SyncPacket :=
  if load 0 1 buffer = [0x4C#8] ∧ load 1 1 buffer = [0x43#8] then
    some {
      version := BitVec.ofNat 8 (ofBe (load 2 1 buffer))
      srcId := BitVec.ofNat 32 (ofBe (load 4 4 buffer))
      evtNum := BitVec.ofNat 64 (ofBe (load 8 8 buffer))
      evtRate := BitVec.ofNat 32 (ofBe (load 16 4 buffer))
      nanos := BitVec.ofNat 64 (ofBe (load 20 8 buffer)) }
  else none

/-! ## Byte images -/

theorem hi32_toNat (v : DWord) : (hi32 v).toNat = v.toNat / 2 ^ 32 := by
  have hv := v.isLt
  rw [hi32, BitVec.toNat_setWidth, BitVec.toNat_ushiftRight, Nat.shiftRight_eq_div_pow]
  exact Nat.mod_eq_of_lt (by omega)

theorem lo32_toNat (v : DWord) : (lo32 v).toNat = v.toNat % 2 ^ 32 := by
  have hmask : v.toNat &&& 0xFFFFFFFF = v.toNat % 2 ^ 32 := Nat.and_two_pow_sub_one_eq_mod _ 32
  rw [lo32, BitVec.toNat_setWidth, BitVec.toNat_and]
  simp only [BitVec.toNat_ofNat]
  rw [show (0xFFFFFFFF % 2 ^ 64 : Nat) = 0xFFFFFFFF from rfl, hmask, Nat.mod_mod]

theorem join32_toNat (hi lo : Word) :
    ((hi.setWidth 64 <<< 32) ||| lo.setWidth 64 : DWord).toNat = lo.toNat + 2 ^ 32 * hi.toNat := by
  have hhi := hi.isLt
  have hlo := lo.isLt
  have hshift : (hi.setWidth 64 <<< 32 : DWord).toNat = 2 ^ 32 * hi.toNat := by
    rw [BitVec.toNat_shiftLeft, BitVec.toNat_setWidth, Nat.shiftLeft_eq]
    rw [Nat.mod_eq_of_lt (a := hi.toNat) (by omega), Nat.mod_eq_of_lt (by omega), Nat.mul_comm]
  have hlow : (lo.setWidth 64 : DWord).toNat = lo.toNat := by
    rw [BitVec.toNat_setWidth]
    exact Nat.mod_eq_of_lt (by omega)
  rw [BitVec.toNat_or, hshift, hlow, ← Nat.two_pow_add_eq_or_of_lt hlo, Nat.add_comm]

/-- The image of a 64-bit value in network order: the upper half first. -/
theorem beBytes_dword (v : DWord) :
    beBytes 8 v.toNat = beBytes 4 (hi32 v).toNat ++ beBytes 4 (lo32 v).toNat := by
  have hlo : leBytes 4 (lo32 v).toNat = leBytes 4 v.toNat := by
    rw [lo32_toNat]
    exact leBytes_mod 4 v.toNat
  rw [beBytes, leBytes_add 4 4, List.reverse_append, beBytes, beBytes, hlo, hi32_toNat]
  rfl

/-- The image that `htonll` leaves in memory: the lower half first. -/
theorem leBytes_htonll (v : DWord) :
    leBytes 8 (htonll v).toNat = beBytes 4 (lo32 v).toNat ++ beBytes 4 (hi32 v).toNat := by
  have hlt : (htonl (lo32 v)).toNat < 256 ^ 4 := (htonl (lo32 v)).isLt
  have hdiv : ((htonl (lo32 v)).toNat + 2 ^ 32 * (htonl (hi32 v)).toNat) / 256 ^ 4 =
      (htonl (hi32 v)).toNat := by omega
  have hmod : ((htonl (lo32 v)).toNat + 2 ^ 32 * (htonl (hi32 v)).toNat) % 256 ^ 4 =
      (htonl (lo32 v)).toNat := by omega
  rw [htonll, join32_toNat, leBytes_add 4 4, hdiv, ← leBytes_mod 4, hmod, leBytes_htonl,
    leBytes_htonl]

theorem ofBe_htonl (x : Word) : BitVec.ofNat 32 (ofBe (leBytes 4 (htonl x).toNat)) = x := by
  have hx : x.toNat % 256 ^ 4 = x.toNat := Nat.mod_eq_of_lt x.isLt
  rw [leBytes_htonl, ofBe_beBytes, hx, BitVec.ofNat_toNat, BitVec.setWidth_eq]

/-- `htonll` leaves the network image exactly when the two halves are equal. -/
theorem htonll_image_iff (v : DWord) :
    leBytes 8 (htonll v).toNat = beBytes 8 v.toNat ↔ hi32 v = lo32 v := by
  rw [leBytes_htonll, beBytes_dword]
  constructor
  · intro h
    have hparts := List.append_inj h (by simp)
    apply BitVec.eq_of_toNat_eq
    exact beBytes_inj (hi32 v).isLt (lo32 v).isLt hparts.1.symm
  · intro h
    rw [h]

theorem ofBe_htonll_iff (v : DWord) :
    BitVec.ofNat 64 (ofBe (leBytes 8 (htonll v).toNat)) = v ↔ hi32 v = lo32 v := by
  rw [← htonll_image_iff]
  have hlt : ofBe (leBytes 8 (htonll v).toNat) < 2 ^ 64 := by
    have := ofLe_lt (leBytes 8 (htonll v).toNat).reverse
    rwa [List.length_reverse, leBytes_length] at this
  have hv : ofBe (beBytes 8 v.toNat) = v.toNat := by
    rw [ofBe_beBytes]
    exact Nat.mod_eq_of_lt v.isLt
  constructor
  · intro h
    have hnat : ofBe (leBytes 8 (htonll v).toNat) = v.toNat := by
      have := congrArg BitVec.toNat h
      rwa [BitVec.toNat_ofNat, Nat.mod_eq_of_lt hlt] at this
    have hrev := ofLe_inj (by simp) (hnat.trans hv.symm)
    exact List.reverse_injective hrev
  · intro h
    rw [h, hv, BitVec.ofNat_toNat, BitVec.setWidth_eq]

/-! ## The packet -/

section Packet

variable (buffer : List Byte) (version srcId evtRate : Word) (evtNum nanos : DWord)

/-- The stores are adjacent: the packet is the blocks one after the other, and
the rest of the buffer is left as it was. -/
theorem setSyncData_eq :
    setSyncData buffer version srcId evtNum evtRate nanos =
      [0x4C#8] ++ [0x43#8] ++ [version.setWidth 8] ++ [0#8] ++ leBytes 4 (htonl srcId).toNat ++
        leBytes 8 (htonll evtNum).toNat ++ leBytes 4 (htonl evtRate).toNat ++
        leBytes 8 (htonll nanos).toNat ++ buffer.drop 28 := by
  have hfirst : store 0 [0x4C#8] buffer = [0x4C#8] ++ buffer.drop 1 := rfl
  simp only [setSyncData]
  rw [hfirst]
  repeat rw [store_append (by simp)]
  simp [List.drop_drop]

theorem load_setSyncData_magic :
    load 0 1 (setSyncData buffer version srcId evtNum evtRate nanos) = [0x4C#8] ∧
    load 1 1 (setSyncData buffer version srcId evtNum evtRate nanos) = [0x43#8] ∧
    load 2 1 (setSyncData buffer version srcId evtNum evtRate nanos) = [version.setWidth 8] := by
  rw [setSyncData_eq]
  exact ⟨rfl, rfl, rfl⟩

theorem load_setSyncData_srcId :
    load 4 4 (setSyncData buffer version srcId evtNum evtRate nanos) =
      leBytes 4 (htonl srcId).toNat := by
  rw [setSyncData_eq, List.append_assoc, List.append_assoc, List.append_assoc]
  exact load_append (by simp) (by simp)

theorem load_setSyncData_evtNum :
    load 8 8 (setSyncData buffer version srcId evtNum evtRate nanos) =
      leBytes 8 (htonll evtNum).toNat := by
  rw [setSyncData_eq, List.append_assoc, List.append_assoc]
  exact load_append (by simp) (by simp)

theorem load_setSyncData_evtRate :
    load 16 4 (setSyncData buffer version srcId evtNum evtRate nanos) =
      leBytes 4 (htonl evtRate).toNat := by
  rw [setSyncData_eq, List.append_assoc]
  exact load_append (by simp) (by simp)

theorem load_setSyncData_nanos :
    load 20 8 (setSyncData buffer version srcId evtNum evtRate nanos) =
      leBytes 8 (htonll nanos).toNat := by
  rw [setSyncData_eq]
  exact load_append (by simp) (by simp)

end Packet

/-- The load balancer recovers the version, the source id and the rate always,
and each 64-bit field up to the swap of its halves. -/
theorem decodeSync_setSyncData (buffer : List Byte) (version srcId evtRate : Word)
    (evtNum nanos : DWord) :
    decodeSync (setSyncData buffer version srcId evtNum evtRate nanos) = some {
      version := version.setWidth 8
      srcId := srcId
      evtNum := BitVec.ofNat 64 (ofBe (leBytes 8 (htonll evtNum).toNat))
      evtRate := evtRate
      nanos := BitVec.ofNat 64 (ofBe (leBytes 8 (htonll nanos).toNat)) } := by
  obtain ⟨hL, hC, hversion⟩ :=
    load_setSyncData_magic buffer version srcId evtRate evtNum nanos
  have hbyte : BitVec.ofNat 8 (ofBe [version.setWidth 8]) = version.setWidth 8 := by
    apply BitVec.eq_of_toNat_eq
    simp [ofBe, ofLe]
  rw [decodeSync, if_pos ⟨hL, hC⟩, hversion, load_setSyncData_srcId, load_setSyncData_evtNum,
    load_setSyncData_evtRate, load_setSyncData_nanos, ofBe_htonl, ofBe_htonl, hbyte]

/-- The sync packet decodes to its five arguments exactly when both 64-bit
fields have equal halves, since `htonll` puts the swapped upper half where the
lower one belongs. -/
theorem sync_roundtrip_iff (buffer : List Byte) (version : Byte) (srcId evtRate : Word)
    (evtNum nanos v : DWord) :
    (decodeSync (setSyncData buffer (version.setWidth 32) srcId evtNum evtRate nanos) =
        some ⟨version, srcId, evtNum, evtRate, nanos⟩ ↔
      hi32 evtNum = lo32 evtNum ∧ hi32 nanos = lo32 nanos) ∧
    (leBytes 8 (htonll v).toNat = beBytes 8 v.toNat ↔ hi32 v = lo32 v) := by
  refine ⟨?_, htonll_image_iff v⟩
  have hversion : (version.setWidth 32).setWidth 8 = version := by
    rw [BitVec.setWidth_setWidth_of_le version (by decide), BitVec.setWidth_eq]
  rw [decodeSync_setSyncData, hversion, ← ofBe_htonll_iff, ← ofBe_htonll_iff]
  simp

/-- Frame 1 at 65535 ns: the load balancer reads frame 2^32 and its time. -/
theorem sync_frame_one :
    decodeSync (setSyncData (List.replicate 256 0#8) ((1#8).setWidth 32) 0#32 1#64 0#32 65535#64) ≠
      some ⟨1#8, 0#32, 1#64, 0#32, 65535#64⟩ ∧
    leBytes 8 (htonll 1#64).toNat ≠ beBytes 8 (1#64).toNat := by
  decide

end VtpStreaming
