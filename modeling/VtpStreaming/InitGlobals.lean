import Mathlib.Data.Fin.VecNotation
import VtpStreaming.Conf
import VtpStreaming.Clib.Lines

/-!
# The defaults

`vtp/vtpConfig.c`, `vtpInitGlobals`, which sets the members of the
configuration by hand.
-/

namespace VtpStreaming

open Clib

/-! ## HPS -/

def HpsSingleTrig.init : HpsSingleTrig where
  clusterEmin := 1#32
  clusterEmax := 8191#32
  clusterNmin := 1#32
  clusterXmin := -31#32
  pdeC := fun _ => []
  clusterEminEn := 0#32
  clusterEmaxEn := 0#32
  clusterNminEn := 0#32
  clusterXminEn := 0#32
  pdeEn := 0#32
  hodoL1En := 0#32
  hodoL2En := 0#32
  hodoL1l2GeomEn := 0#32
  hodoL1l2xGeomEn := 0#32
  en := 0#32

def HpsPairTrig.init : HpsPairTrig where
  clusterEmin := 1#32
  clusterEmax := 8191#32
  clusterNmin := 1#32
  pairDt := 0#32
  pairEsumMin := 0#32
  pairEsumMax := 16383#32
  pairEdiffMax := 8191#32
  pairEdFactor := []
  pairEdThr := 0#32
  pairCoplanarityTol := 0#32
  pairEsumEn := 0#32
  pairEdiffEn := 0#32
  pairEdEn := 0#32
  pairCoplanarityEn := 0#32
  hodoL1En := 0#32
  hodoL2En := 0#32
  hodoL1l2GeomEn := 0#32
  hodoL1l2xGeomEn := 0#32
  en := 0#32

def HpsMultTrig.init : HpsMultTrig := ⟨0#32, 0#32, 0#32, 0#32, 0#32, 0#32, 0#32, 0#32⟩

def HpsFeeTrig.init : HpsFeeTrig where
  clusterEmin := 1#32
  clusterEmax := 8191#32
  clusterNmin := 1#32
  prescaleXmin := fun _ => -31#32
  prescaleXmax := fun _ => -31#32
  prescale := fun _ => 0#32
  en := 0#32

/-- The words of `fee_trig` that lie where `mult_trig[2]` and `mult_trig[3]`
would be. -/
def HpsFeeTrig.under (i : Nat) (t : HpsMultTrig) (f : HpsFeeTrig) : HpsFeeTrig :=
  if i = 2 then
    { f with
      clusterEmin := t.clusterEmin
      clusterEmax := t.clusterEmax
      clusterNmin := t.clusterNmin
      prescaleXmin := ![t.multDt, t.multTopMin, t.multBotMin, t.multTotMin, t.en,
        f.prescaleXmin 5, f.prescaleXmin 6] }
  else
    { f with
      prescaleXmin := ![f.prescaleXmin 0, f.prescaleXmin 1, f.prescaleXmin 2, f.prescaleXmin 3,
        f.prescaleXmin 4, t.clusterEmin, t.clusterEmax]
      prescaleXmax := ![t.clusterNmin, t.multDt, t.multTopMin, t.multBotMin, t.multTotMin, t.en,
        f.prescaleXmax 6] }

/-- The store into `mult_trig[i]`, and whether it and all before it were in bounds. -/
def storeMultTrig (t : HpsMultTrig) (s : HpsConf × Bool) (i : Nat) : HpsConf × Bool :=
  if h : i < 2 then ({ s.1 with multTrig := Function.update s.1.multTrig ⟨i, h⟩ t }, s.2)
  else ({ s.1 with feeTrig := s.1.feeTrig.under i t }, false)

/-- The loop over `mult_trig`, which has two elements. -/
def initMultTrig (c : HpsConf) : HpsConf × Bool :=
  (List.range 4).foldl (storeMultTrig .init) (c, true)

def initHps (c : HpsConf) : HpsConf × Bool :=
  let c :=
    { c with
      cluster := ⟨0#32, 0#32, 0#32⟩
      hodoscope := ⟨0#32, 0#32, 0#32⟩
      calib := ⟨0#32, 0#32, 0#32, 0#32, 0#32, [], 0#32⟩
      singleTrig := fun _ => .init
      pairTrig := fun _ => .init }
  let (c, inBounds) := initMultTrig c
  ({ c with feeTrig := .init, trig := ⟨0#32, fun _ => 1#32⟩ }, inBounds)

/-! ## The rest -/

def EcView.init : EcView := ⟨0#32, 0#32, 0#32, 0#32, 0#32, 0#32, 0#32, 0#32⟩

def TrgBit.init : TrgBit where
  sspStriggerBitMask := fun _ => 0#32
  sspSectorMask := fun _ => 0#32
  sectorMultMin := fun _ => 0#32
  sectorCoinWidth := 0#32
  sspCtriggerBitMask := 0#32
  delay := 0#32
  pulserFreq := []
  prescale := 1#32

/-- Of an event builder everything but its local port is set. -/
def StreamingEbCfg.init (eb : StreamingEbCfg) : StreamingEbCfg where
  maskEn := 0#32
  nstreams := 0#32
  connect := 0#32
  ipaddr := fun _ => 0#8
  subnet := fun _ => 0#8
  gateway := fun _ => 0#8
  mac := fun _ => 0#8
  destip := fun _ => 0#8
  destipport := 0#16
  localport := eb.localport

def StreamingConf.init : StreamingConf where
  statsHost := "129.57.29.231".toList
  statsPort := 19531#32
  statsInst := 0#32
  syncPktLen := 28#32
  numConnections := 1#32
  netMode := 1#32
  enableEjfat := 1#32
  localPort := 10001#32
  payloadEnArray := fun _ => 0#32

def vtpInitGlobals (c : VtpConf) : VtpConf where
  fwFilenameV7 := []
  fwFilenameZ7 := []
  fwRev := fun _ => -1#32
  fwType := fun _ => -1#32
  refclk := 250#32
  windowWidth := 0#32
  windowOffset := 0#32
  payloadEn := 0#32
  fiberEn := 0#32
  vtpRoc := ⟨0#32, 0#32, 0#32, 0#32, fun _ => 0#32, ⟨0#32, 0#32, 0#32, 0#32, fun _ => 0#8⟩⟩
  fadcStreaming :=
    { rocId := 0#32
      nframeBuf := 1000#32
      frameLen := 65536#32
      eb := fun e => (c.fadcStreaming.eb e).init }
  streaming := .init
  ec := ⟨fun _ => 0#32, .init, .init⟩
  pc := ⟨fun _ => 0#32, 0#32, 0#32, 0#32, 0#32, 0#32⟩
  pcs := ⟨fun _ => 0#32, 0#32, 0#32, 0#32, 0#32, 0#32, 0#32, fun _ => 0#32, 0#32, 0#32, 0#32, 0#32,
    0#32⟩
  htcc := ⟨fun _ => 0#32, 0#32, fun _ => 0#32, 0#32⟩
  ftof := ⟨fun _ => 0#32, 0#32⟩
  cnd := ⟨fun _ => 0#32, 0#32⟩
  ecs := ⟨fun _ => 0#32, fun _ => 0#32, 0#32, 0#32, 0#32, 0#32, 0#32, 0#32,
    ⟨0#32, 0#32, 0#32, 0#32⟩, ⟨0#32, 0#32, 0#32, 0#32⟩⟩
  gt := ⟨1000#32, 100#32, fun _ => .init⟩
  dc := ⟨fun _ => 0#32, []⟩
  hcal := ⟨0#32, 0#32⟩
  -- nothing is said of `hodo_dt`, nor of `fthodo`
  ftcal :=
    { fadcsumChEn := fun _ => 0#32
      seedEmin := 0#32
      seedDt := 0#32
      hodoDt := c.ftcal.hodoDt
      deadtime := 0#32
      deadtimeEmin := 0x3fff#32 }
  fthodo := c.fthodo
  hps := (initHps c.hps).1
  compton :=
    { enableScalerReadout := 0#32
      vetrocWidth := 2#32
      fadcThreshold := fun _ => 0#32
      eplaneMultMin := fun _ => 0#32
      eplaneMask := fun _ => 0#32
      fadcMask := fun _ => 0#32
      trig := ⟨1000#32, 100#32, fun _ => 0#32, fun _ => 0#32⟩ }

/-! ## What is reset -/

/-- Whatever was there before: the stores beyond `mult_trig` hit words that are
set after them. -/
theorem initHps_eq (c : HpsConf) : initHps c =
    ({ cluster := ⟨0#32, 0#32, 0#32⟩
       hodoscope := ⟨0#32, 0#32, 0#32⟩
       calib := ⟨0#32, 0#32, 0#32, 0#32, 0#32, [], 0#32⟩
       singleTrig := fun _ => .init
       pairTrig := fun _ => .init
       multTrig := fun _ => .init
       feeTrig := .init
       trig := ⟨0#32, fun _ => 1#32⟩ }, false) := by
  have hboth : Function.update (Function.update c.multTrig 0 .init) 1 .init =
      fun _ => HpsMultTrig.init := by
    funext i
    cases i using Fin.cases with
    | zero => rfl
    | succ i =>
      rw [Fin.fin_one_eq_zero i]
      rfl
  rw [← hboth]
  rfl

end VtpStreaming
