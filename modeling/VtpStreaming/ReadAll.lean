import VtpStreaming.Clib.InetAddr

/-!
# The readout list's own reading of the configuration

`rol/vtp_stream3_1udp_vg.c`, `vtp_read_all_from_cfg`: the readout list takes its
network parameters from the generated file itself, past the library.
-/

namespace VtpStreaming

open Clib

/-- What the function's output parameters point to. -/
structure NetParams where
  numConnections : Word
  netMode : Word
  localPort : Word
  enableEjfat : Word
  emuip : Word
  emuport : Word
deriving DecidableEq

/-- `vtp/vtpRocLib.c`, `vtpRoc_inet_addr`. No address is 0, and so is the one
that `inet_addr` fails with. -/
def vtpRocInetAddr (ip4 : List Char) : Word :=
  match inetAton ip4 with
  | none => 0#32
  | some addr => if addr = 0xffffffff#32 then 0#32 else addr

/-- What the value of a key does. -/
abbrev NetBranch := List Char → NetParams → NetParams

/-- A number that passes the check is stored. -/
def netNumber (conv : List Char → Option (Word × List Char)) (ok : Word → Bool)
    (put : Word → NetParams → NetParams) : NetBranch := fun val p =>
  match conv val with
  | none => p
  | some (v, _) => if ok v then put v p else p

def positive (v : Word) : Bool := 0 < v.toInt

def readAllKeys : List (String × NetBranch) :=
  [("VTP_STREAMING_DESTIP", fun val p =>
      if vtpRocInetAddr val ≠ 0#32 then { p with emuip := vtpRocInetAddr val } else p),
   ("VTP_STREAMING_DESTIPPORT", netNumber scanU (fun _ => true) fun v p => { p with emuport := v }),
   ("VTP_NUM_CONNECTIONS", netNumber scanD positive fun v p => { p with numConnections := v }),
   ("VTP_STREAMING_NSTREAMS", netNumber scanD positive fun v p => { p with numConnections := v }),
   ("VTP_NET_MODE", netNumber scanD (fun _ => true) fun v p => { p with netMode := v }),
   ("VTP_LOCAL_PORT", netNumber scanD positive fun v p => { p with localPort := v }),
   ("VTP_STREAMING_LOCALPORT", netNumber scanD positive fun v p => { p with localPort := v }),
   ("VTP_ENABLE_EJFAT", netNumber scanD (fun _ => true) fun v p => { p with enableEjfat := v })]

def readAllBranchOf (key : List Char) : Option NetBranch :=
  (readAllKeys.find? fun k => k.1.toList == key).map (·.2)

/-- A piece that `fgets` has handed out. The section of a crate plays no part. -/
def readAllLine (piece : List Char) (p : NetParams) : NetParams :=
  let line := cString piece
  if line.head? = some '#' ∨ line.head? = some '\n' then p
  else
    match scanString 127 line with
    | none => p
    | some (key, rest) =>
        match scanString 511 rest with
        | none => p
        | some (val, _) =>
            match readAllBranchOf key with
            | none => p
            | some branch => branch val p

def readAllLines (ls : List (List Char)) (p : NetParams) : NetParams :=
  ls.foldl (fun p l => readAllLine l p) p

/-- A file that is not named or cannot be opened changes nothing. -/
def vtpReadAllFromCfg (files : List Char → Option (List Char)) (cfgPath : Option (List Char))
    (p : NetParams) : NetParams :=
  match cfgPath.bind files with
  | none => p
  | some text => readAllLines (fgetsLines 1023 text) p

end VtpStreaming
