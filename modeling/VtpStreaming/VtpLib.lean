import VtpStreaming.Registers

/-!
# The VTP library

`vtp/vtpLib.h`, the return codes and firmware types, and the macros of
`vtp/vtpLib.c` that guard every library call and clamp its arguments.
-/

namespace VtpStreaming

open Clib

def ok : Int := 0
def error : Int := -1

/-! ## Firmware types -/

def vtpFwTypeCommon : Int := 0
def vtpFwTypeEc : Int := 1
def vtpFwTypeGt : Int := 2
def vtpFwTypeDc : Int := 3
def vtpFwTypeHcal : Int := 4
def vtpFwTypePc : Int := 5
def vtpFwTypePcs : Int := 6
def vtpFwTypeHtcc : Int := 7
def vtpFwTypeEcs : Int := 8
def vtpFwTypeFtcal : Int := 9
def vtpFwTypeFthodo : Int := 10
def vtpFwTypeFtof : Int := 11
def vtpFwTypeCnd : Int := 12
def vtpFwTypeHps : Int := 13
def vtpFwTypeFadcstream : Int := 14
def vtpFwTypeCompton : Int := 15
def vtpFwTypeVcodaroc : Int := 17
def zyncFwTypeZcodaroc : Int := 2

/-- The state of the library in one process: whether the registers are mapped,
and the firmware types of the V7 (chip 0) and the Zynq (chip 1). -/
structure VtpLib where
  mapped : Bool
  fwType : Fin 2 → Int

/-- `CHECKINIT`. -/
def VtpLib.checkInit (lib : VtpLib) : Bool := lib.mapped

/-- `CHECKTYPE(v,c)`. The chip is a constant at every call. -/
def VtpLib.checkType (lib : VtpLib) (v : Int) (c : Fin 2) : Bool :=
  v == vtpFwTypeCommon || v == lib.fwType c

/-- Both guards of a call pass. -/
def VtpLib.ready (lib : VtpLib) (v : Int) (c : Fin 2) : Bool :=
  lib.checkInit && lib.checkType v c

/-- What `vtpInit` leaves behind: the registers mapped, and the types read from
them. -/
def VtpLib.ofRegs (r : Regs) : VtpLib := ⟨true, fun c => (r.fwType c).toInt⟩

/-! ## Calls -/

/-- A call for the V7 firmware types `vs`: it is refused on any other, with the
registers as they were. -/
def VtpLib.onTypes {α : Type} (lib : VtpLib) (vs : List Int) (f : Regs → α) (r : Regs) :
    Option α :=
  if vs.any fun v => lib.ready v 0 then some (f r) else none

/-- A call that only needs the registers mapped. -/
def VtpLib.onInit {α : Type} (lib : VtpLib) (f : Regs → α) (r : Regs) : Option α :=
  if lib.checkInit then some (f r) else none

/-- A call that writes registers, its return code ignored. -/
def call (f : Regs → Option Regs) (r : Regs) : Regs := (f r).getD r

/-- `CHECKRANGE_INT`. -/
def checkRange (lo hi : Int) (v : Word) : Word :=
  if hi < v.toInt then BitVec.ofInt 32 hi
  else if v.toInt < lo then BitVec.ofInt 32 lo
  else v

end VtpStreaming
