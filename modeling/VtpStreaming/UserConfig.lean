import VtpStreaming.Clib.Lines
import VtpStreaming.ConfigBranch

/-!
# The user configuration

`vme_rol/fadc_master_stream_vg.c`, `parse_user_config`: the settings of the VME
front end and of the VTP that a run is started with, all in one file.
-/

namespace VtpStreaming

open Clib

/-- `user_config_params_t`. -/
structure UserConfigParams where
  fadcMode : Word
  fadcWOffset : Word
  fadcWWidth : Word
  fadcNsb : Word
  fadcNsa : Word
  fadcNpeak : Word
  fadcTet : Word
  fadcDac : Word
  fadcAdcMask : Fin 16 → Word
  fadcTrgMask : Fin 16 → Word
  fadcTetIgnoreMask : Fin 16 → Word
  vtpStreamingRocid : Word
  vtpStreamingNframeBuf : Word
  vtpStreamingFramelen : Word
  vtpStreaming : Word
  vtpStreamingMac : Fin 6 → Byte
  vtpStreamingNstreams : Word
  vtpStreamingIpaddr : Fin 4 → Byte
  vtpStreamingSubnet : Fin 4 → Byte
  vtpStreamingGateway : Fin 4 → Byte
  vtpStreamingDestip : List Char
  vtpStreamingDestipport : Word
  vtpStreamingLocalport : Word
  vtpStreamingConnect : Word
  haveVtpRocid : Bool
  haveVtpNframeBuf : Bool
  haveVtpFramelen : Bool
  haveVtpStreaming : Bool
  haveVtpMac : Bool
  haveVtpNstreams : Bool
  haveVtpIpaddr : Bool
  haveVtpSubnet : Bool
  haveVtpGateway : Bool
  haveVtpDestip : Bool
  haveVtpDestipport : Bool
  haveVtpLocalport : Bool
  haveVtpConnect : Bool

def initConfigParams : UserConfigParams where
  fadcMode := 1#32
  fadcWOffset := 1200#32
  fadcWWidth := 800#32
  fadcNsb := 8#32
  fadcNsa := 60#32
  fadcNpeak := 1#32
  fadcTet := 20#32
  fadcDac := 3270#32
  fadcAdcMask := fun _ => 1#32
  fadcTrgMask := fun _ => 0#32
  fadcTetIgnoreMask := fun _ => 0#32
  vtpStreamingRocid := 0#32
  vtpStreamingNframeBuf := 0#32
  vtpStreamingFramelen := 0#32
  vtpStreaming := 0#32
  vtpStreamingMac := fun _ => 0#8
  vtpStreamingNstreams := 0#32
  vtpStreamingIpaddr := fun _ => 0#8
  vtpStreamingSubnet := fun _ => 0#8
  vtpStreamingGateway := fun _ => 0#8
  vtpStreamingDestip := []
  vtpStreamingDestipport := 0#32
  vtpStreamingLocalport := 0#32
  vtpStreamingConnect := 0#32
  haveVtpRocid := false
  haveVtpNframeBuf := false
  haveVtpFramelen := false
  haveVtpStreaming := false
  haveVtpMac := false
  haveVtpNstreams := false
  haveVtpIpaddr := false
  haveVtpSubnet := false
  haveVtpGateway := false
  haveVtpDestip := false
  haveVtpDestipport := false
  haveVtpLocalport := false
  haveVtpConnect := false

/-! ## Keywords -/

/-- What the line of a keyword does. The first argument is what the local
arrays `mac`, `ip`, `subnet` and `gateway` hold before the line is scanned. -/
abbrev UserBranch := (Nat → Word) → List Char → UserConfigParams → UserConfigParams

/-- `%d` into a field, which keeps its value when the line has no number. -/
def userInt (get : UserConfigParams → Word) (put : Word → UserConfigParams → UserConfigParams) :
    UserBranch :=
  fun _ line p => put ((scanArgs scanD 1 line).getD 0 (get p)) p

/-- `%d`, sixteen times, into the elements of a field. -/
def userMask (get : UserConfigParams → Fin 16 → Word)
    (put : (Fin 16 → Word) → UserConfigParams → UserConfigParams) : UserBranch :=
  fun _ line p => put (fun i => (scanArgs scanD 16 line).getD i.val (get p i)) p

/-- `n` conversions into a local array, and its elements as bytes into a field. -/
def userBytes (conv : List Char → Option (Word × List Char)) (n : Nat)
    (put : (Fin n → Byte) → UserConfigParams → UserConfigParams) : UserBranch :=
  fun stack line p =>
    put (fun i => ((scanArgs conv n line).getD i.val (stack i.val)).setWidth 8) p

/-- `VTP_STREAMING_DESTIP`, `%63s`. -/
def userDestip : UserBranch := fun _ line p =>
  let destip := match (scanWord line).bind fun w => scanString 63 w.2 with
    | none => p.vtpStreamingDestip
    | some (w, _) => w
  { p with vtpStreamingDestip := destip, haveVtpDestip := true }

def userKeys : List (String × UserBranch) :=
  [("FADC250_MODE", userInt (·.fadcMode) fun v p => { p with fadcMode := v }),
   ("FADC250_W_OFFSET", userInt (·.fadcWOffset) fun v p => { p with fadcWOffset := v }),
   ("FADC250_W_WIDTH", userInt (·.fadcWWidth) fun v p => { p with fadcWWidth := v }),
   ("FADC250_NSB", userInt (·.fadcNsb) fun v p => { p with fadcNsb := v }),
   ("FADC250_NSA", userInt (·.fadcNsa) fun v p => { p with fadcNsa := v }),
   ("FADC250_NPEAK", userInt (·.fadcNpeak) fun v p => { p with fadcNpeak := v }),
   ("FADC250_TET", userInt (·.fadcTet) fun v p => { p with fadcTet := v }),
   ("FADC250_DAC", userInt (·.fadcDac) fun v p => { p with fadcDac := v }),
   ("FADC250_ADC_MASK", userMask (·.fadcAdcMask) fun v p => { p with fadcAdcMask := v }),
   ("FADC250_TRG_MASK", userMask (·.fadcTrgMask) fun v p => { p with fadcTrgMask := v }),
   ("FADC250_TET_IGNORE_MASK", userMask (·.fadcTetIgnoreMask) fun v p =>
      { p with fadcTetIgnoreMask := v }),
   ("VTP_STREAMING_ROCID", userInt (·.vtpStreamingRocid) fun v p =>
      { p with vtpStreamingRocid := v, haveVtpRocid := true }),
   ("VTP_STREAMING_NFRAME_BUF", userInt (·.vtpStreamingNframeBuf) fun v p =>
      { p with vtpStreamingNframeBuf := v, haveVtpNframeBuf := true }),
   ("VTP_STREAMING_FRAMELEN", userInt (·.vtpStreamingFramelen) fun v p =>
      { p with vtpStreamingFramelen := v, haveVtpFramelen := true }),
   ("VTP_STREAMING", userInt (·.vtpStreaming) fun v p =>
      { p with vtpStreaming := v, haveVtpStreaming := true }),
   ("VTP_STREAMING_MAC", userBytes scanX 6 fun v p =>
      { p with vtpStreamingMac := v, haveVtpMac := true }),
   ("VTP_STREAMING_NSTREAMS", userInt (·.vtpStreamingNstreams) fun v p =>
      { p with vtpStreamingNstreams := v, haveVtpNstreams := true }),
   ("VTP_STREAMING_IPADDR", userBytes scanU 4 fun v p =>
      { p with vtpStreamingIpaddr := v, haveVtpIpaddr := true }),
   ("VTP_STREAMING_SUBNET", userBytes scanU 4 fun v p =>
      { p with vtpStreamingSubnet := v, haveVtpSubnet := true }),
   ("VTP_STREAMING_GATEWAY", userBytes scanU 4 fun v p =>
      { p with vtpStreamingGateway := v, haveVtpGateway := true }),
   ("VTP_STREAMING_DESTIP", userDestip),
   ("VTP_STREAMING_DESTIPPORT", userInt (·.vtpStreamingDestipport) fun v p =>
      { p with vtpStreamingDestipport := v, haveVtpDestipport := true }),
   ("VTP_STREAMING_LOCALPORT", userInt (·.vtpStreamingLocalport) fun v p =>
      { p with vtpStreamingLocalport := v, haveVtpLocalport := true }),
   ("VTP_STREAMING_CONNECT", userInt (·.vtpStreamingConnect) fun v p =>
      { p with vtpStreamingConnect := v, haveVtpConnect := true })]

def userBranchOf (keyword : List Char) : Option UserBranch :=
  (userKeys.find? fun key => key.1.toList == keyword).map (·.2)

/-! ## The file -/

/-- A piece that `fgets` has handed out. -/
def userLine (stack : Nat → Word) (piece : List Char) (p : UserConfigParams) :
    UserConfigParams :=
  let line := cString piece
  if line.head? = some '#' ∨ line.head? = some '\n' ∨ line.head? = some '\r' then p
  else
    match scanString 255 line with
    | none => p
    | some (keyword, _) =>
        match userBranchOf keyword with
        | none => p
        | some branch => branch stack line p

/-- The lines one after the other. `stack k` is what the local arrays hold at
line `k`. -/
def userLines (stack : Nat → Nat → Word) :
    Nat → List (List Char) → UserConfigParams → UserConfigParams
  | _, [], p => p
  | k, l :: ls, p => userLines stack (k + 1) ls (userLine (stack k) l p)

/-- The parameters without a default, in the order of the checks. -/
def requiredParams (p : UserConfigParams) : List (String × Bool) :=
  [("VTP_STREAMING_ROCID", p.haveVtpRocid),
   ("VTP_STREAMING_NFRAME_BUF", p.haveVtpNframeBuf),
   ("VTP_STREAMING_FRAMELEN", p.haveVtpFramelen),
   ("VTP_STREAMING", p.haveVtpStreaming),
   ("VTP_STREAMING_MAC", p.haveVtpMac),
   ("VTP_STREAMING_NSTREAMS", p.haveVtpNstreams),
   ("VTP_STREAMING_IPADDR", p.haveVtpIpaddr),
   ("VTP_STREAMING_SUBNET", p.haveVtpSubnet),
   ("VTP_STREAMING_GATEWAY", p.haveVtpGateway),
   ("VTP_STREAMING_DESTIP", p.haveVtpDestip),
   ("VTP_STREAMING_DESTIPPORT", p.haveVtpDestipport),
   ("VTP_STREAMING_LOCALPORT", p.haveVtpLocalport),
   ("VTP_STREAMING_CONNECT", p.haveVtpConnect)]

/-- Why the function returns -1. -/
inductive UserConfigError
  | cannotOpen
  /-- `ERROR: Missing required parameter: `, and its keyword -/
  | missing (keyword : String)
deriving DecidableEq

/-- The file is `none` when it cannot be opened. -/
def parseUserConfig (stack : Nat → Nat → Word) (file : Option (List Char))
    (params : UserConfigParams) : Except UserConfigError UserConfigParams :=
  match file with
  | none => .error .cannotOpen
  | some text =>
      let p := userLines stack 0 (fgetsLines 1023 text) params
      match (requiredParams p).find? fun r => !r.2 with
      | some r => .error (.missing r.1)
      | none => .ok p

/-! ## What is accepted -/

/-- A word that fits `%63s`. The field is empty until a line sets it. -/
structure DestipToken (s : List Char) : Prop where
  solid : ∀ c ∈ s, isSpace c = false
  noNul : '\x00' ∉ s
  short : s.length ≤ 63

variable {stack : Nat → Nat → Word} {p params : UserConfigParams}

/-- No line but that of `VTP_STREAMING_DESTIP` sets the field. -/
theorem userKeys_destip (line : List Char) (hline : '\x00' ∉ line)
    (hp : DestipToken p.vtpStreamingDestip) {junk : Nat → Word} :
    ∀ key ∈ userKeys, DestipToken (key.2 junk line p).vtpStreamingDestip := by
  have hdestip : DestipToken (userDestip junk line p).vtpStreamingDestip := by
    unfold userDestip
    cases hword : scanWord line with
    | none => exact hp
    | some w =>
      cases hscan : scanString 63 w.2 with
      | none => simpa [hscan] using hp
      | some v =>
        obtain ⟨hsolid, hmem, hlen⟩ := scanString_out hscan
        have hrest := scanString_rest hword
        simp only [Option.bind_some, hscan]
        exact ⟨hsolid, fun h => hline (hrest _ (hmem _ h)), hlen⟩
  unfold userKeys
  simp only [List.forall_mem_cons]
  exact ⟨hp, hp, hp, hp, hp, hp, hp, hp, hp, hp, hp, hp, hp, hp, hp, hp, hp, hp, hp, hp, hdestip,
    hp, hp, hp, by simp⟩

theorem userLine_destip {junk : Nat → Word} {piece : List Char}
    (hp : DestipToken p.vtpStreamingDestip) :
    DestipToken (userLine junk piece p).vtpStreamingDestip := by
  unfold userLine
  dsimp only
  split
  · exact hp
  · cases scanString 255 (cString piece) with
    | none => exact hp
    | some k =>
      cases hfind : userKeys.find? fun key => key.1.toList == k.1 with
      | none => simpa [userBranchOf, hfind] using hp
      | some key =>
        simp only [userBranchOf, hfind, Option.map_some]
        exact userKeys_destip _ cString_noNul hp key (List.mem_of_find?_eq_some hfind)

theorem userLines_destip {ls : List (List Char)} {k : Nat}
    (hp : DestipToken p.vtpStreamingDestip) :
    DestipToken (userLines stack k ls p).vtpStreamingDestip := by
  induction ls generalizing k p with
  | nil => exact hp
  | cons l ls ih => exact ih (userLine_destip hp)

/-- The destination of accepted parameters is one word, or empty. -/
theorem parseUserConfig_destip {file : Option (List Char)}
    (h : parseUserConfig stack file initConfigParams = .ok params) :
    DestipToken params.vtpStreamingDestip := by
  have hinit : DestipToken initConfigParams.vtpStreamingDestip := ⟨nofun, nofun, by decide⟩
  cases file with
  | none => cases h
  | some text =>
    unfold parseUserConfig at h
    dsimp only at h
    split at h
    · cases h
    · cases h
      exact userLines_destip hinit

end VtpStreaming
