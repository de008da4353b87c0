import VtpStreaming.FirmwareLoad

/-!
# Giving the shared lock back

`vtp/vtpLib.c`, `vtpInit`, with the two calls that load the firmware. These three hold the
lock over several steps and leave early when a check fails. What they call takes only the
mutex of the process.
-/

namespace VtpStreaming

open Clib VtpLib

/-! ## Setting up the board -/

def vtpInitClkMask : Word := 0xF#32
def vtpInitClkInt : Word := 1#32
def vtpInitClkVxs250 : Word := 2#32
def vtpInitClkVxs125 : Word := 3#32
def vtpInitSkip : Word := 1#32 <<< 16

def si5341InSelVxs250 : Word := 1#32
def si5341InSelVxs125 : Word := 2#32
def si5341InSelLocal : Word := 3#32

def vtpSdSyncsel0 : Word := 0#32
def vtpSdSyncselVxs : Word := 2#32
def vtpSdTrig1sel0 : Word := 0#32
def vtpSdTrig1selVxs : Word := 2#32

/-- The locals of `vtpInit` that its first `switch` sets. -/
structure Sources where
  syncSrc : Word
  trig1Src : Word
  clkSrc : Word

/-- What `vtpInit` finds: the results of its checks, the firmware type of the V7, and what
stands in its locals before they are set. -/
structure Board where
  checkAddresses : Int
  pllLocked : Int
  fwType : Int
  locals : Sources

inductive InitStep
  | readFirmware
  | si5341Init (clkSrc : Word)
  | setReset (v : Bool)
  | pllReset (v : Bool)
  | setResetSoft (v : Bool)
  | setTrig1Source (src : Word)
  | setSyncSource (src : Word)
  | tiLinkInit
  | routeOutputs
  | resetClocks
  | clearErrors
deriving DecidableEq

/-- The first `switch`. Any other clock leaves the locals as they are. -/
def initSources (iFlag : Word) (locals : Sources) : Sources :=
  let clk := iFlag &&& vtpInitClkMask
  if clk = vtpInitClkInt then ⟨vtpSdSyncsel0, vtpSdTrig1sel0, si5341InSelLocal⟩
  else if clk = vtpInitClkVxs250 then ⟨vtpSdSyncselVxs, vtpSdTrig1selVxs, si5341InSelVxs250⟩
  else if clk = vtpInitClkVxs125 then ⟨vtpSdSyncselVxs, vtpSdTrig1selVxs, si5341InSelVxs125⟩
  else locals

/-- The types that the last `switch` sets up for the trigger. -/
def initTriggerTypes : List Int :=
  [vtpFwTypeEc, vtpFwTypePc, vtpFwTypeGt, vtpFwTypeHcal, vtpFwTypePcs, vtpFwTypeHtcc,
    vtpFwTypeFtof, vtpFwTypeCnd, vtpFwTypeEcs, vtpFwTypeFtcal, vtpFwTypeFthodo, vtpFwTypeHps,
    vtpFwTypeDc, vtpFwTypeCompton]

/-- The types that it sets up for streaming. -/
def initStreamTypes : List Int := [vtpFwTypeFadcstream, vtpFwTypeVcodaroc]

/-- From `si5341_Init` to the check of the PLL. -/
def startPll (clkSrc : Word) : List InitStep :=
  [.si5341Init clkSrc, .setReset true, .setReset false, .pllReset true, .pllReset false]

/-- The last `switch`. -/
def setUp (fwType : Int) (src : Sources) : Option (List InitStep) :=
  if fwType ∈ initTriggerTypes then
    some [.setTrig1Source src.trig1Src, .setSyncSource src.syncSrc, .tiLinkInit, .routeOutputs]
  else if fwType ∈ initStreamTypes then
    some [.setTrig1Source src.trig1Src, .setSyncSource src.syncSrc, .resetClocks]
  else none

def vtpInit (iFlag : Word) (board : Board) : LockRun InitStep :=
  if board.checkAddresses ≠ ok then ⟨board.checkAddresses, []⟩
  else
    let src := initSources iFlag board.locals
    if iFlag &&& vtpInitSkip ≠ 0#32 then ⟨ok, [.other .readFirmware]⟩
    else if ¬ (src.clkSrc = si5341InSelLocal ∨ src.clkSrc = si5341InSelVxs250 ∨
        src.clkSrc = si5341InSelVxs125) then
      ⟨error, bracket []⟩
    else if board.pllLocked ≠ ok then ⟨error, bracket (startPll src.clkSrc)⟩
    else
      let locked := bracket (startPll src.clkSrc ++
        [.setResetSoft true, .setResetSoft false, .readFirmware])
      match setUp board.fwType src with
      | none => ⟨error, locked⟩
      | some steps => ⟨ok, locked ++ List.map .other (steps ++ [.clearErrors])⟩

/-! ## Balance -/

/-- The lock is taken after the early returns, and all later ones give it back. -/
theorem vtpInit_balanced (iFlag : Word) (board : Board) : Balanced (vtpInit iFlag board).trace := by
  unfold vtpInit
  dsimp only
  split_ifs
  · rfl
  · -- `VTP_INIT_SKIP` returns before the lock is taken
    rfl
  · exact balanced_bracket _
  · cases setUp board.fwType (initSources iFlag board.locals) with
    | none =>
      -- the unknown firmware is found after the lock has been given back
      exact balanced_bracket _
    | some steps => exact (balanced_bracket _).append (balanced_others _)
  · exact balanced_bracket _

/-- The V7 is loaded under the lock, if the call returns. -/
theorem vtpV7CfgLoad_balanced {fuel : Nat} {file : Option OpenFile} {buf : Buffer}
    {out : LockRun V7Step} (h : vtpV7CfgLoad fuel file buf = some out) : Balanced out.trace := by
  unfold vtpV7CfgLoad at h
  cases file with
  | none =>
    cases h
    exact balanced_bracket _
  | some f =>
    dsimp only at h
    rw [Option.map_eq_some_iff] at h
    obtain ⟨⟨bad, words⟩, -, rfl⟩ := h
    cases bad with
    | true => exact balanced_bracket _
    | false => exact balanced_bracket _

/-- The error paths give back a lock that was not taken. -/
theorem vtpZ7CfgLoad_balanced {file : Option (List Byte)} {fd : Word} :
    Balanced (vtpZ7CfgLoad file fd).trace ↔ file.isSome ∧ 1 ≤ fd.toInt := by
  have hunlock : ¬ Balanced ([.unlock] : List (LockStep Z7Step)) := by decide
  cases file with
  | none => exact iff_of_false hunlock fun h => absurd h.1 Bool.false_ne_true
  | some bits =>
    unfold vtpZ7CfgLoad
    dsimp only
    split_ifs with hfd
    · exact iff_of_false hunlock fun h => absurd h.2 (not_le.mpr hfd)
    · exact iff_of_true rfl ⟨rfl, not_lt.mp hfd⟩

/-- A call of one of the three, with what it finds. -/
inductive LockUser
  | init (iFlag : Word) (board : Board)
  | v7CfgLoad (file : Option OpenFile) (buf : Buffer)
  | z7CfgLoad (file : Option (List Byte)) (fd : Word)

/-- The call returns, with the lock as often taken as given back, and never given back first. -/
def LockUser.Balances : LockUser → Prop
  | init iFlag board => Balanced (vtpInit iFlag board).trace
  | v7CfgLoad file buf => ∃ fuel out, vtpV7CfgLoad fuel file buf = some out ∧ Balanced out.trace
  | z7CfgLoad file fd => Balanced (vtpZ7CfgLoad file fd).trace

/-- A file that is opened for the V7 has an end that `feof` sees; the file for the Z7 and its
device open. -/
def LockUser.Opens : LockUser → Prop
  | init _ _ => True
  | v7CfgLoad file _ => ∀ f, file = some f → ∃ k, (f k).eof = true
  | z7CfgLoad file fd => file.isSome ∧ 1 ≤ fd.toInt

theorem lock_balance_iff (u : LockUser) : u.Balances ↔ u.Opens := by
  cases u with
  | init iFlag board => exact iff_of_true (vtpInit_balanced iFlag board) trivial
  | v7CfgLoad file buf =>
    constructor
    · rintro ⟨fuel, out, hrun, -⟩ f rfl
      exact (vtpV7CfgLoad_returns f buf).mp ⟨fuel, out, hrun⟩
    · intro hopens
      cases file with
      | none => exact ⟨0, _, rfl, balanced_bracket _⟩
      | some f =>
        obtain ⟨fuel, out, hrun⟩ := (vtpV7CfgLoad_returns f buf).mpr (hopens f rfl)
        exact ⟨fuel, out, hrun, vtpV7CfgLoad_balanced hrun⟩
  | z7CfgLoad file fd => exact vtpZ7CfgLoad_balanced

/-- The Z7 file does not open, its device does not open, and the V7 file has no end. -/
theorem lock_not_balanced :
    ¬ (LockUser.z7CfgLoad none 0#32).Balances ∧ ¬ (LockUser.z7CfgLoad (some []) (-1#32)).Balances ∧
      ∀ buf, ¬ (LockUser.v7CfgLoad (some (cFile [] fun _ => some 0)) buf).Balances := by
  refine ⟨fun h => ?_, fun h => ?_, ?_⟩
  · exact absurd (vtpZ7CfgLoad_balanced.mp h).1 Bool.false_ne_true
  · exact absurd (vtpZ7CfgLoad_balanced.mp h).2 (by decide)
  · rintro buf ⟨fuel, out, hrun, -⟩
    obtain ⟨k, hk⟩ := (vtpV7CfgLoad_returns _ buf).mp ⟨fuel, out, hrun⟩
    cases hk

end VtpStreaming
