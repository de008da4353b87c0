import Mathlib.Data.Fin.VecNotation
import VtpStreaming.InBounds
import VtpStreaming.ReadAll
import VtpStreaming.RoundTrip
import VtpStreaming.SkipLines

/-!
# The network file of the readout controller

`vtp/vtpRocLib.c`, `vtpRocReadNetFile` and `vtpRoc_mac_addr`, and when the two
readers of files come to an end.
-/

namespace VtpStreaming

open Clib

/-! ## Tokens -/

/-- `strtok (s, ":")`: the token, and where the next call goes on. -/
def strtok (s : List Char) : Option (List Char × List Char) :=
  let t := s.dropWhile fun c => c = ':'
  let token := t.takeWhile fun c => c ≠ ':'
  if token = [] then none else some (token, t.drop (token.length + 1))

/-- `strtol (s, NULL, 16)`. -/
def strtolHex (s : List Char) : Word :=
  let (neg, t) := scanSign (skipSpace s)
  let ds := match t with
    | '0' :: 'x' :: u | '0' :: 'X' :: u => hexDigits u
    | t => hexDigits t
  BitVec.ofInt 32 (clampInt (if neg then -(ofHex ds : Int) else ofHex ds))

/-- The first `n` tokens as numbers, if there are as many. -/
def macTokens : Nat → List Char → Option (List Word)
  | 0, _ => some []
  | n + 1, s =>
      match strtok s with
      | none => none
      | some (hx, rest) => (macTokens n rest).map (strtolHex hx :: ·)

/-- The two register words. A null token goes into `strtol`. -/
def vtpRocMacAddr (macStr : List Char) : Option (Word × Word) :=
  match macTokens 6 macStr with
  | some [m0, m1, m2, m3, m4, m5] =>
      some (m0 <<< 8 ||| m1, m2 <<< 24 ||| m3 <<< 16 ||| m4 <<< 8 ||| m5)
  | _ => none

/-- What is left of the string: `strtok` ends its first token with a NUL. -/
def macRest (macStr : List Char) : List Char :=
  (macStr.takeWhile fun c => c = ':') ++
    (macStr.dropWhile fun c => c = ':').takeWhile fun c => c ≠ ':'

/-! ## The file -/

/-- `VTP_NET_OUT`. -/
structure VtpNetOut where
  ip : Fin 4 → Word
  gw : Fin 4 → Word
  sm : Fin 4 → Word
  mac : Fin 2 → Fin 4 → Word

structure NetState where
  keyword : List Char
  value : List Char
  out : VtpNetOut

inductive NetOutcome
  | next (s : NetState)
  | nullToken
  | fault

/-- `sscanf (str_tmp, "%s %s", keyword, value)`. -/
def netWords (line : List Char) (s : NetState) : NetState :=
  match scanWord line with
  | none => s
  | some (w, rest) =>
      match scanWord rest with
      | none => { s with keyword := w }
      | some (v, _) => { s with keyword := w, value := v }

/-- Both words fit their arrays. -/
def netWordsFit (s : NetState) : Bool := s.keyword.length < 64 && s.value.length < 64

def readNetLine (line : List Char) (s : NetState) : NetOutcome :=
  let s := netWords (cString line) s
  let addr := vtpRocInetAddr s.value
  if !netWordsFit s then .fault
  else if s.keyword = "ipaddr1".toList then
    .next { s with out := { s.out with ip := Function.update s.out.ip 0 addr } }
  else if s.keyword = "gateway1".toList then
    .next { s with out := { s.out with gw := Function.update s.out.gw 0 addr } }
  else if s.keyword = "subnet1".toList then
    .next { s with out := { s.out with sm := Function.update s.out.sm 0 addr } }
  else if s.keyword = "mac1".toList then
    match vtpRocMacAddr s.value with
    | none => .nullToken
    | some (m0, m1) =>
        .next
          { s with
            value := macRest s.value
            out :=
              { s.out with
                mac := ![Function.update (s.out.mac 0) 0 m0, Function.update (s.out.mac 1) 0 m1] } }
  else .next s

inductive NetResult
  | returned (code : Int) (out : VtpNetOut)
  | hangs
  | nullToken
  | faults

def readNetPieces : List FilePiece → NetState → NetResult
  | [], s => .returned 0 s.out
  | .unended :: _, _ => .hangs
  | .line l :: ps, s =>
      match readNetLine l s with
      | .next s => readNetPieces ps s
      | .nullToken => .nullToken
      | .fault => .faults

/-- `keyword` and `value` are uninitialised before the first line. -/
def vtpRocReadNetFile (env : ConfigEnv) (filename : Option (List Char)) (keyword value : List Char)
    (out : VtpNetOut) : NetResult :=
  let name := filename.getD ("/mnt/boot/".toList ++ env.host ++ "_net.txt".toList)
  if 128 ≤ name.length then .faults
  else
    match env.files name with
    | none => .returned (-1) out
    | some text => readNetPieces (skipPieces 256 .fresh text) ⟨keyword, value, out⟩

/-! ## Groups -/

def NetOutcome.state : NetOutcome → Option NetState
  | .next s => some s
  | .nullToken | .fault => none

def Outcome.state : Outcome ReadState → Option ReadState
  | .next s => some s
  | .ret _ _ | .fault => none

def noNetOut : VtpNetOut := ⟨fun _ => 0#32, fun _ => 0#32, fun _ => 0#32, fun _ _ => 0#32⟩

end VtpStreaming
