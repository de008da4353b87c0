import VtpStreaming.ConfigBranch

/-!
# The keywords of the configuration file

`vtp/vtpConfig.c`, `vtpReadConfigFile`: every keyword with what its line does,
one list for each part of the configuration.
-/

namespace VtpStreaming

open Clib

/-! ## Common settings -/

/-- `VTP_PAYLOAD_EN`: the mask, and the same bits as an array. -/
def vtpPayloadEn : Branch VtpConf := fun line s =>
  let msk := scanMsk (scanArgs scanD 16 line) 16 s.2.msk
  if !mskOk 16 msk then .ret (-6) (s.1, { s.2 with msk := msk })
  else
    .next
      ({ s.1 with
          payloadEn := mskWord 16 msk
          streaming := { s.1.streaming with payloadEnArray := msk } },
        { s.2 with msk := msk })

/-- `VTP_FIBER_EN`. -/
def vtpFiberEn : Branch VtpConf := fun line s =>
  let msk := scanMsk (scanArgs scanD 4 line) 4 s.2.msk
  if !mskOk 4 msk then .ret (-6) (s.1, { s.2 with msk := msk })
  else .next ({ s.1 with fiberEn := mskWord 4 msk }, { s.2 with msk := msk })

/-- `VTP_REFCLK` scans into the configuration itself. -/
def vtpRefclk : Branch VtpConf := fun line s =>
  .next ({ s.1 with refclk := (scanArgs scanD 1 line).getD 0 s.1.refclk }, s.2)

def commonKeys : List (String × Branch VtpConf) :=
  [("VTP_W_WIDTH", ints 1 fun a c => { c with windowWidth := a 0 }),
   ("VTP_W_OFFSET", ints 1 fun a c => { c with windowOffset := a 0 }),
   ("VTP_FIRMWARE_V7", text fun w c => { c with fwFilenameV7 := w }),
   ("VTP_FIRMWARE_Z7", text fun w c => { c with fwFilenameZ7 := w }),
   ("VTP_REFCLK", vtpRefclk),
   ("VTP_PAYLOAD_EN", vtpPayloadEn),
   ("VTP_FIBER_EN", vtpFiberEn)]

/-! ## Network streaming -/

def streamingKeys : List (String × Branch StreamingConf) :=
  [("VTP_STATS_HOST", text fun w c => { c with statsHost := w }),
   ("VTP_STATS_PORT", ranged (fun v => 0 < v && v < 65536) fun v c => { c with statsPort := v }),
   ("VTP_STATS_INST", ranged (fun v => 0 ≤ v && v < 4) fun v c => { c with statsInst := v }),
   ("VTP_SYNC_PKT_LEN", ranged (fun v => 0 < v && v < 1500) fun v c => { c with syncPktLen := v }),
   ("VTP_NUM_CONNECTIONS",
      ranged (fun v => 1 ≤ v && v ≤ 4) fun v c => { c with numConnections := v }),
   ("VTP_NET_MODE", ranged (fun v => v == 0 || v == 1) fun v c => { c with netMode := v }),
   ("VTP_ENABLE_EJFAT", ranged (fun v => v == 0 || v == 1) fun v c => { c with enableEjfat := v }),
   ("VTP_LOCAL_PORT", ranged (fun v => 0 < v && v < 65536) fun v c => { c with localPort := v })]

/-! ## FADC streaming -/

/-- An index of the two event builders. -/
def streamingIndex (a : Word) : Option (Fin 2) :=
  if h : 0 ≤ a.toInt ∧ a.toInt ≤ 1 then some ⟨a.toInt.toNat, by omega⟩ else none

/-- `VTP_STREAMING`: the event builder that the following lines are about. -/
def vtpStreaming : Branch FadcStreamingConf := fun line s =>
  match streamingIndex (argi scanD 1 line 0) with
  | some streamingEb => .next (s.1, { s.2 with streamingEb := streamingEb })
  | none => .ret (-4) s

/-- `VTP_STREAMING_SLOT_EN`. -/
def vtpStreamingSlotEn : Branch FadcStreamingConf := fun line s =>
  let msk := scanMsk (scanArgs scanD 8 line) 8 s.2.msk
  if !mskOk 8 msk then .ret (-6) (s.1, { s.2 with msk := msk })
  else
    .next
      ({ s.1 with
          eb := Function.update s.1.eb s.2.streamingEb
            { s.1.eb s.2.streamingEb with maskEn := mskWord 8 msk } },
        { s.2 with msk := msk })

/-- Scan `n` integers and store into the current event builder. -/
def onEb (conv : List Char → Option (Word × List Char)) (n : Nat)
    (store : (Nat → Word) → StreamingEbCfg → StreamingEbCfg) : Branch FadcStreamingConf :=
  fun line s =>
    .next
      ({ s.1 with
          eb := Function.update s.1.eb s.2.streamingEb
            (store (argi conv n line) (s.1.eb s.2.streamingEb)) },
        s.2)

/-- The first `n` integers as bytes. -/
def bytesOf (n : Nat) (a : Nat → Word) (i : Fin n) : Byte := (a i.val).setWidth 8

def fadcStreamingKeys : List (String × Branch FadcStreamingConf) :=
  [("VTP_STREAMING_ROCID", ints 1 fun a c => { c with rocId := a 0 }),
   ("VTP_STREAMING_NFRAME_BUF", ints 1 fun a c => { c with nframeBuf := a 0 }),
   ("VTP_STREAMING_FRAMELEN", ints 1 fun a c => { c with frameLen := a 0 }),
   ("VTP_STREAMING", vtpStreaming),
   ("VTP_STREAMING_SLOT_EN", vtpStreamingSlotEn),
   ("VTP_STREAMING_NSTREAMS", onEb scanD 1 fun a eb => { eb with nstreams := a 0 }),
   -- the flag is stored inverted
   ("VTP_STREAMING_CONNECT", onEb scanD 1 fun a eb =>
      { eb with connect := if (a 0).toInt > 0 then 0#32 else 1#32 }),
   ("VTP_STREAMING_IPADDR", onEb scanD 4 fun a eb => { eb with ipaddr := bytesOf 4 a }),
   ("VTP_STREAMING_SUBNET", onEb scanD 4 fun a eb => { eb with subnet := bytesOf 4 a }),
   ("VTP_STREAMING_GATEWAY", onEb scanD 4 fun a eb => { eb with gateway := bytesOf 4 a }),
   ("VTP_STREAMING_MAC", onEb scanLitX 6 fun a eb => { eb with mac := bytesOf 6 a }),
   ("VTP_STREAMING_DESTIP", onEb scanD 4 fun a eb => { eb with destip := bytesOf 4 a }),
   ("VTP_STREAMING_DESTIPPORT", onEb scanD 1 fun a eb =>
      { eb with destipport := (a 0).setWidth 16 }),
   ("VTP_STREAMING_LOCALPORT", onEb scanD 1 fun a eb =>
      { eb with localport := (a 0).setWidth 16 })]

def vtpRocKeys : List (String × Branch VtpRocConf) :=
  [("VTP_ROC_ROCID", ints 1 fun a c => { c with rocId := a 0 }),
   ("VTP_ROC_DEST_IP", fun line s => .next ({ s.1 with destip := argi scanX 1 line 0 }, s.2)),
   ("VTP_ROC_DEST_PORT", ints 1 fun a c => { c with destipport := a 0 })]

/-! ## Calorimeters and hodoscopes -/

def ecInnerKeys : List (String × Branch EcView) :=
  [("VTP_EC_INNER_HIT_EMIN", ints 1 fun a c => { c with hitEmin := a 0 }),
   ("VTP_EC_INNER_HIT_DT", ints 1 fun a c => { c with hitDt := a 0 }),
   ("VTP_EC_INNER_HIT_DALITZ", ints 2 fun a c =>
      { c with dalitzMin := a 0 * 8#32, dalitzMax := a 1 * 8#32 }),
   ("VTP_EC_INNER_COSMIC_EMIN", ints 1 fun a c => { c with cosmicEmin := a 0 }),
   ("VTP_EC_INNER_COSMIC_MULTMAX", ints 1 fun a c => { c with cosmicMultmax := a 0 }),
   ("VTP_EC_INNER_COSMIC_HITWIDTH", ints 1 fun a c => { c with cosmicHitwidth := a 0 }),
   ("VTP_EC_INNER_COSMIC_EVALDELAY", ints 1 fun a c => { c with cosmicEvaldelay := a 0 })]

def ecOuterKeys : List (String × Branch EcView) :=
  [("VTP_EC_OUTER_HIT_EMIN", ints 1 fun a c => { c with hitEmin := a 0 }),
   ("VTP_EC_OUTER_HIT_DT", ints 1 fun a c => { c with hitDt := a 0 }),
   ("VTP_EC_OUTER_HIT_DALITZ", ints 2 fun a c =>
      { c with dalitzMin := a 0 * 8#32, dalitzMax := a 1 * 8#32 }),
   ("VTP_EC_OUTER_COSMIC_EMIN", ints 1 fun a c => { c with cosmicEmin := a 0 }),
   ("VTP_EC_OUTER_COSMIC_MULTMAX", ints 1 fun a c => { c with cosmicMultmax := a 0 }),
   ("VTP_EC_OUTER_COSMIC_HITWIDTH", ints 1 fun a c => { c with cosmicHitwidth := a 0 }),
   ("VTP_EC_OUTER_COSMIC_EVALDELAY", ints 1 fun a c => { c with cosmicEvaldelay := a 0 })]

def ecKeys : List (String × Branch EcConf) :=
  ("VTP_EC_FADCSUM_CH", chEn (·.fadcsumChEn) fun en c => { c with fadcsumChEn := en }) ::
  onPart (·.inner) (fun c v => { c with inner := v }) ecInnerKeys ++
  onPart (·.outer) (fun c v => { c with outer := v }) ecOuterKeys

def pcKeys : List (String × Branch PcConf) :=
  [("VTP_PC_FADCSUM_CH", chEn (·.fadcsumChEn) fun en c => { c with fadcsumChEn := en }),
   ("VTP_PC_COSMIC_EMIN", ints 1 fun a c => { c with cosmicEmin := a 0 }),
   ("VTP_PC_COSMIC_MULTMAX", ints 1 fun a c => { c with cosmicMultmax := a 0 }),
   ("VTP_PC_COSMIC_HITWIDTH", ints 1 fun a c => { c with cosmicHitwidth := a 0 }),
   ("VTP_PC_COSMIC_EVALDELAY", ints 1 fun a c => { c with cosmicEvaldelay := a 0 }),
   ("VTP_PC_COSMIC_PIXELEN", ints 1 fun a c => { c with cosmicPixelen := a 0 })]

/-- The first three integers. -/
def three (a : Nat → Word) (i : Fin 3) : Word := a i.val

def htccKeys : List (String × Branch HtccConf) :=
  [("VTP_HTCC_THRESHOLDS", ints 3 fun a c => { c with threshold := three a }),
   ("VTP_HTCC_NFRAMES", ints 1 fun a c => { c with nframes := a 0 }),
   ("VTP_CTOF_THRESHOLDS", ints 3 fun a c => { c with ctofThreshold := three a }),
   ("VTP_CTOF_NFRAMES", ints 1 fun a c => { c with ctofNframes := a 0 })]

def ftofKeys : List (String × Branch ThresholdConf) :=
  [("VTP_FTOF_THRESHOLDS", ints 3 fun a c => { c with threshold := three a }),
   ("VTP_FTOF_NFRAMES", ints 1 fun a c => { c with nframes := a 0 })]

def cndKeys : List (String × Branch ThresholdConf) :=
  [("VTP_CND_THRESHOLDS", ints 3 fun a c => { c with threshold := three a }),
   ("VTP_CND_NFRAMES", ints 1 fun a c => { c with nframes := a 0 })]

def pcsKeys : List (String × Branch PcsConf) :=
  [("VTP_PCS_THRESHOLDS", ints 3 fun a c => { c with threshold := three a }),
   ("VTP_PCS_NFRAMES", ints 1 fun a c => { c with nframes := a 0 }),
   ("VTP_PCS_DIPFACTOR", ints 1 fun a c => { c with dipfactor := a 0 }),
   ("VTP_PCS_NSTRIP", ints 2 fun a c => { c with nstripMin := a 0, nstripMax := a 1 }),
   ("VTP_PCS_DALITZ", ints 2 fun a c => { c with dalitzMin := a 0, dalitzMax := a 1 }),
   ("VTP_PCS_COSMIC_EMIN", ints 1 fun a c => { c with cosmicEmin := a 0 }),
   ("VTP_PCS_COSMIC_MULTMAX", ints 1 fun a c => { c with cosmicMultmax := a 0 }),
   ("VTP_PCS_COSMIC_HITWIDTH", ints 1 fun a c => { c with cosmicHitwidth := a 0 }),
   ("VTP_PCS_COSMIC_EVALDELAY", ints 1 fun a c => { c with cosmicEvaldelay := a 0 }),
   ("VTP_PCS_COSMIC_PIXELEN", ints 1 fun a c => { c with cosmicPixelen := a 0 }),
   ("VTP_PCU_THRESHOLDS", ints 3 fun a c => { c with pcuThreshold := three a })]

def ecsInnerKeys : List (String × Branch EcsView) :=
  [("VTP_ECS_INNER_COSMIC_EMIN", ints 1 fun a c => { c with cosmicEmin := a 0 }),
   ("VTP_ECS_INNER_COSMIC_MULTMAX", ints 1 fun a c => { c with cosmicMultmax := a 0 }),
   ("VTP_ECS_INNER_COSMIC_HITWIDTH", ints 1 fun a c => { c with cosmicHitwidth := a 0 }),
   ("VTP_ECS_INNER_COSMIC_EVALDELAY", ints 1 fun a c => { c with cosmicEvaldelay := a 0 })]

def ecsOuterKeys : List (String × Branch EcsView) :=
  [("VTP_ECS_OUTER_COSMIC_EMIN", ints 1 fun a c => { c with cosmicEmin := a 0 }),
   ("VTP_ECS_OUTER_COSMIC_MULTMAX", ints 1 fun a c => { c with cosmicMultmax := a 0 }),
   ("VTP_ECS_OUTER_COSMIC_HITWIDTH", ints 1 fun a c => { c with cosmicHitwidth := a 0 }),
   ("VTP_ECS_OUTER_COSMIC_EVALDELAY", ints 1 fun a c => { c with cosmicEvaldelay := a 0 })]

def ecsKeys : List (String × Branch EcsConf) :=
  [("VTP_ECS_FADCSUM_CH", chEn (·.fadcsumChEn) fun en c => { c with fadcsumChEn := en }),
   ("VTP_ECS_THRESHOLDS", ints 3 fun a c => { c with threshold := three a }),
   ("VTP_ECS_NFRAMES", ints 1 fun a c => { c with nframes := a 0 }),
   ("VTP_ECS_DIPFACTOR", ints 1 fun a c => { c with dipfactor := a 0 }),
   ("VTP_ECS_NSTRIP", ints 2 fun a c => { c with nstripMin := a 0, nstripMax := a 1 }),
   ("VTP_ECS_DALITZ", ints 2 fun a c => { c with dalitzMin := a 0, dalitzMax := a 1 })] ++
  onPart (·.inner) (fun c v => { c with inner := v }) ecsInnerKeys ++
  onPart (·.outer) (fun c v => { c with outer := v }) ecsOuterKeys

/-! ## Global trigger -/

/-- `VTP_GT_TRG`: the trigger bit that the following lines are about. A line
without a number leaves it as it was. -/
def vtpGtTrg : Branch GtConf := fun line s =>
  let trgBit := (scanArgs scanD 1 line).getD 0 s.2.trgBit
  if trgBit.toInt < 0 || trgBit.toInt ≥ 32 then .ret (-4) (s.1, { s.2 with trgBit := trgBit })
  else .next (s.1, { s.2 with trgBit := trgBit })

/-- Store into the current trigger bit. -/
def onTrgBit (store : List Char → TrgBit → TrgBit) : Branch GtConf := fun line s =>
  if h : 0 ≤ s.2.trgBit.toInt ∧ s.2.trgBit.toInt < 32 then
    let bit : Fin 32 := ⟨s.2.trgBit.toInt.toNat, by omega⟩
    .next
      ({ s.1 with trgbits := Function.update s.1.trgbits bit (store line (s.1.trgbits bit)) }, s.2)
  else .ret (-4) s

/-- The first value, and the second when the line gives two. -/
def oneOrTwo (values : List Word) (old : Fin 2 → Word) : Fin 2 → Word :=
  fun i => if i = 0 then values.getD 0 0#32 else if 2 ≤ values.length then values.getD 1 0#32
    else old 1

/-- `VTP_GT_TRGBIT`. -/
def vtpGtTrgbit : Branch GtConf := fun line s =>
  let values := scanArgs scanD 8 line
  let a := argi scanD 8 line
  indexed 32 8 (fun i _ c =>
    let bit := c.trgbits i
    { c with
        trgbits := Function.update c.trgbits i
          { bit with
              sspStriggerBitMask := fun k => if k = 0 then a 1 else 0#32
              sspSectorMask := fun k => if k = 0 then a 2 else 0#32
              sectorMultMin := fun k => if k = 0 then a 3 else 0#32
              sectorCoinWidth := a 4
              sspCtriggerBitMask := a 5
              delay := if values.length ≥ 7 then a 6 else bit.delay
              prescale := if values.length ≥ 8 then a 7 else bit.prescale } }) line s

/-- `VTP_GT_TRGBIT2`. -/
def vtpGtTrgbit2 : Branch GtConf :=
  indexed 32 11 fun i a c =>
    { c with
        trgbits := Function.update c.trgbits i
          { c.trgbits i with
              sspStriggerBitMask := fun k => if k = 0 then a 1 else a 4
              sspSectorMask := fun k => if k = 0 then a 2 else a 5
              sectorMultMin := fun k => if k = 0 then a 3 else a 6
              sectorCoinWidth := a 7
              sspCtriggerBitMask := a 8
              delay := a 9
              prescale := a 10 } }

def gtKeys : List (String × Branch GtConf) :=
  [("VTP_GT_LATENCY", ints 1 fun a c => { c with trigLatency := a 0 }),
   ("VTP_GT_WIDTH", ints 1 fun a c => { c with trigWidth := a 0 }),
   ("VTP_GT_TRG", vtpGtTrg),
   ("VTP_GT_TRG_SSP_STRIGGER_MASK", onTrgBit fun line bit =>
      { bit with
          sspStriggerBitMask := oneOrTwo (scanArgs scanLitX 2 line) bit.sspStriggerBitMask }),
   ("VTP_GT_TRG_SSP_CTRIGGER_MASK", onTrgBit fun line bit =>
      { bit with sspCtriggerBitMask := argi scanLitX 1 line 0 }),
   ("VTP_GT_TRG_SSP_SECTOR_MASK", onTrgBit fun line bit =>
      { bit with sspSectorMask := oneOrTwo (scanArgs scanLitX 2 line) bit.sspSectorMask }),
   ("VTP_GT_TRG_SSP_SECTOR_MULT_MIN", onTrgBit fun line bit =>
      { bit with sectorMultMin := oneOrTwo (scanArgs scanD 2 line) bit.sectorMultMin }),
   ("VTP_GT_TRG_SSP_SECTOR_WIDTH", onTrgBit fun line bit =>
      { bit with sectorCoinWidth := argi scanD 1 line 0 }),
   ("VTP_GT_TRG_PULSER_FREQ", onTrgBit fun line bit =>
      { bit with pulserFreq := floatAt (mixedArgs [.f] line) 0 }),
   ("VTP_GT_TRG_DELAY", onTrgBit fun line bit => { bit with delay := argi scanD 1 line 0 }),
   ("VTP_GT_TRG_PRESCALE", onTrgBit fun line bit => { bit with prescale := argi scanD 1 line 0 }),
   ("VTP_GT_TRGBIT", vtpGtTrgbit),
   ("VTP_GT_TRGBIT2", vtpGtTrgbit2)]

/-! ## Drift chambers, HCAL, forward tagger -/

/-- `VTP_DC_SEGTHR`: the check lets index 2 through, one past the array. -/
def vtpDcSegthr : Branch DcConf := fun line s =>
  let a := argi scanD 2 line
  if (a 0).toInt < 0 || (a 0).toInt > 2 then .ret (-1) s
  else if h : (a 0).toInt.toNat < 2 then
    .next
      ({ s.1 with
          dcsegfindThreshold :=
            Function.update s.1.dcsegfindThreshold ⟨(a 0).toInt.toNat, h⟩ (a 1) },
        s.2)
  else .fault

def dcKeys : List (String × Branch DcConf) := [("VTP_DC_SEGTHR", vtpDcSegthr)]

def hcalKeys : List (String × Branch HcalConf) :=
  [("VTP_HCAL_HIT_DT", ints 1 fun a c => { c with hitDt := a 0 }),
   ("VTP_HCAL_HIT_EMIN", ints 1 fun a c => { c with clusterEmin := a 0 })]

def ftcalKeys : List (String × Branch FtcalConf) :=
  [("VTP_FTCAL_FADCSUM_CH", chEn (·.fadcsumChEn) fun en c => { c with fadcsumChEn := en }),
   ("VTP_FTCAL_SEED_EMIN", ints 1 fun a c => { c with seedEmin := a 0 }),
   ("VTP_FTCAL_SEED_DT", ints 1 fun a c => { c with seedDt := a 0 }),
   ("VTP_FTCAL_HODO_DT", ints 1 fun a c => { c with hodoDt := a 0 }),
   ("VTP_FTCAL_CLUSTER_DEADTIME_EMIN", ints 1 fun a c => { c with deadtimeEmin := a 0 }),
   ("VTP_FTCAL_CLUSTER_DEADTIME", ints 1 fun a c => { c with deadtime := a 0 })]

def fthodoKeys : List (String × Branch FthodoConf) :=
  [("VTP_FTHODO_EMIN", ints 1 fun a c => { c with hitEmin := a 0 })]

/-! ## HPS -/

def hpsClusterKeys : List (String × Branch HpsClusterConf) :=
  [("VTP_HPS_ECAL_TOP", ints 0 fun _ c => { c with topNbottom := 1#32 }),
   ("VTP_HPS_ECAL_BOTTOM", ints 0 fun _ c => { c with topNbottom := 0#32 }),
   ("VTP_HPS_ECAL_CLUSTER_HIT_DT", ints 1 fun a c => { c with hitDt := a 0 }),
   ("VTP_HPS_ECAL_CLUSTER_SEED_THR", ints 1 fun a c => { c with seedThr := a 0 })]

def hpsHodoscopeKeys : List (String × Branch HpsHodoscopeConf) :=
  [("VTP_HPS_HODOSCOPE_FADCHIT_THR", ints 1 fun a c => { c with fadchitThr := a 0 }),
   ("VTP_HPS_HODOSCOPE_HODO_THR", ints 1 fun a c => { c with hodoThr := a 0 }),
   ("VTP_HPS_HODOSCOPE_HODO_DT", ints 1 fun a c => { c with hitDt := a 0 })]

def hpsCalibKeys : List (String × Branch HpsCalibConf) :=
  [("VTP_HPS_CALIB_HODOSCOPE_TOP_EN", ints 1 fun a c => { c with hodoscopeTopEn := a 0 }),
   ("VTP_HPS_CALIB_HODOSCOPE_BOT_EN", ints 1 fun a c => { c with hodoscopeBotEn := a 0 }),
   ("VTP_HPS_CALIB_COSMIC_DT", ints 1 fun a c => { c with cosmicDt := a 0 }),
   ("VTP_HPS_CALIB_COSMIC_TOP_EN", ints 1 fun a c => { c with cosmicTopEn := a 0 }),
   ("VTP_HPS_CALIB_COSMIC_BOT_EN", ints 1 fun a c => { c with cosmicBotEn := a 0 }),
   ("VTP_HPS_CALIB_PULSER_EN", ints 1 fun a c => { c with pulserEn := a 0 }),
   ("VTP_HPS_CALIB_PULSER_FREQ", fun line s =>
      .next ({ s.1 with pulserFreq := floatAt (mixedArgs [.f] line) 0 }, s.2))]

/-- Store into the element of an array that the line names first. -/
def onElement {n : Nat} {α σ : Type} (get : σ → Fin n → α) (put : (Fin n → α) → σ → σ) (k : Nat)
    (store : (Nat → Word) → α → α) : Branch σ :=
  indexed n k fun i a c => put (Function.update (get c) i (store a (get c i))) c

def onSingleTrig (k : Nat) (store : (Nat → Word) → HpsSingleTrig → HpsSingleTrig) :
    Branch HpsConf :=
  onElement (·.singleTrig) (fun t c => { c with singleTrig := t }) k store

def onPairTrig (k : Nat) (store : (Nat → Word) → HpsPairTrig → HpsPairTrig) : Branch HpsConf :=
  onElement (·.pairTrig) (fun t c => { c with pairTrig := t }) k store

def onMultTrig (k : Nat) (store : (Nat → Word) → HpsMultTrig → HpsMultTrig) : Branch HpsConf :=
  onElement (·.multTrig) (fun t c => { c with multTrig := t }) k store

/-- `VTP_HPS_SINGLE_PDE`. -/
def vtpHpsSinglePde : Branch HpsConf :=
  indexedMixed 4 [.d, .f, .f, .f, .f, .d] fun i vs c =>
    { c with
        singleTrig := Function.update c.singleTrig i
          { c.singleTrig i with
              pdeC := fun k => floatAt vs (k.val + 1)
              pdeEn := intAt vs 5 } }

/-- `VTP_HPS_PAIR_ENERGYDIST`. -/
def vtpHpsPairEnergydist : Branch HpsConf :=
  indexedMixed 4 [.d, .f, .d, .d] fun i vs c =>
    { c with
        pairTrig := Function.update c.pairTrig i
          { c.pairTrig i with
              pairEdFactor := floatAt vs 1
              pairEdThr := intAt vs 2
              pairEdEn := intAt vs 3 } }

def hpsSingleKeys : List (String × Branch HpsConf) :=
  [("VTP_HPS_SINGLE_EMIN", onSingleTrig 3 fun a t =>
      { t with clusterEmin := a 1, clusterEminEn := a 2 }),
   ("VTP_HPS_SINGLE_EMAX", onSingleTrig 3 fun a t =>
      { t with clusterEmax := a 1, clusterEmaxEn := a 2 }),
   ("VTP_HPS_SINGLE_NMIN", onSingleTrig 3 fun a t =>
      { t with clusterNmin := a 1, clusterNminEn := a 2 }),
   ("VTP_HPS_SINGLE_XMIN", onSingleTrig 3 fun a t =>
      { t with clusterXmin := a 1, clusterXminEn := a 2 }),
   ("VTP_HPS_SINGLE_PDE", vtpHpsSinglePde),
   ("VTP_HPS_SINGLE_HODO", onSingleTrig 5 fun a t =>
      { t with hodoL1En := a 1, hodoL2En := a 2, hodoL1l2GeomEn := a 3, hodoL1l2xGeomEn := a 4 }),
   ("VTP_HPS_SINGLE_EN", onSingleTrig 2 fun a t => { t with en := a 1 })]

def hpsPairKeys : List (String × Branch HpsConf) :=
  [("VTP_HPS_PAIR_EMIN", onPairTrig 2 fun a t => { t with clusterEmin := a 1 }),
   ("VTP_HPS_PAIR_EMAX", onPairTrig 2 fun a t => { t with clusterEmax := a 1 }),
   ("VTP_HPS_PAIR_NMIN", onPairTrig 2 fun a t => { t with clusterNmin := a 1 }),
   ("VTP_HPS_PAIR_TIMECOINCIDENCE", onPairTrig 2 fun a t => { t with pairDt := a 1 }),
   ("VTP_HPS_PAIR_SUMMAX_MIN", onPairTrig 4 fun a t =>
      { t with pairEsumMax := a 1, pairEsumMin := a 2, pairEsumEn := a 3 }),
   ("VTP_HPS_PAIR_DIFFMAX", onPairTrig 3 fun a t =>
      { t with pairEdiffMax := a 1, pairEdiffEn := a 2 }),
   ("VTP_HPS_PAIR_ENERGYDIST", vtpHpsPairEnergydist),
   ("VTP_HPS_PAIR_COPLANARITY", onPairTrig 3 fun a t =>
      { t with pairCoplanarityTol := a 1, pairCoplanarityEn := a 2 }),
   ("VTP_HPS_PAIR_HODO", onPairTrig 5 fun a t =>
      { t with hodoL1En := a 1, hodoL2En := a 2, hodoL1l2GeomEn := a 3, hodoL1l2xGeomEn := a 4 }),
   ("VTP_HPS_PAIR_EN", onPairTrig 2 fun a t => { t with en := a 1 })]

def hpsMultKeys : List (String × Branch HpsConf) :=
  [("VTP_HPS_MULT_EMIN", onMultTrig 2 fun a t => { t with clusterEmin := a 1 }),
   ("VTP_HPS_MULT_EMAX", onMultTrig 2 fun a t => { t with clusterEmax := a 1 }),
   ("VTP_HPS_MULT_NMIN", onMultTrig 2 fun a t => { t with clusterNmin := a 1 }),
   ("VTP_HPS_MULT_MIN", onMultTrig 4 fun a t =>
      { t with multTopMin := a 1, multBotMin := a 2, multTotMin := a 3 }),
   ("VTP_HPS_MULT_DT", onMultTrig 2 fun a t => { t with multDt := a 1 }),
   ("VTP_HPS_MULT_EN", onMultTrig 2 fun a t => { t with en := a 1 })]

def hpsFeeKeys : List (String × Branch HpsFeeTrig) :=
  [("VTP_HPS_FEE_EN", ints 1 fun a c => { c with en := a 0 }),
   ("VTP_HPS_FEE_PRESCALE", indexed 7 4 fun i a c =>
      { c with
          prescaleXmin := Function.update c.prescaleXmin i (a 1)
          prescaleXmax := Function.update c.prescaleXmax i (a 2)
          prescale := Function.update c.prescale i (a 3) }),
   ("VTP_HPS_FEE_EMIN", ints 1 fun a c => { c with clusterEmin := a 0 }),
   ("VTP_HPS_FEE_EMAX", ints 1 fun a c => { c with clusterEmax := a 0 }),
   ("VTP_HPS_FEE_NMIN", ints 1 fun a c => { c with clusterNmin := a 0 })]

def hpsTrigKeys : List (String × Branch HpsTrigConf) :=
  [("VTP_HPS_LATENCY", ints 1 fun a c => { c with latency := a 0 }),
   ("VTP_HPS_PRESCALE", indexed 32 2 fun i a c =>
      { c with prescale := Function.update c.prescale i (a 1) })]

def hpsKeys : List (String × Branch HpsConf) :=
  onPart (·.cluster) (fun c v => { c with cluster := v }) hpsClusterKeys ++
  onPart (·.hodoscope) (fun c v => { c with hodoscope := v }) hpsHodoscopeKeys ++
  onPart (·.calib) (fun c v => { c with calib := v }) hpsCalibKeys ++
  hpsSingleKeys ++ hpsPairKeys ++ hpsMultKeys ++
  onPart (·.feeTrig) (fun c v => { c with feeTrig := v }) hpsFeeKeys ++
  onPart (·.trig) (fun c v => { c with trig := v }) hpsTrigKeys

/-! ## Compton -/

/-- `VTP_COMPTON_FADC_EN_MASK`: the index and the 16 bits come from one scan. -/
def vtpComptonFadcEnMask : Branch ComptonConf := fun line s =>
  let values := scanArgs scanD 17 line
  let msk := scanMsk values.tail 16 s.2.msk
  let l := { s.2 with msk := msk }
  let a := values.getD 0 0#32
  if h : 0 ≤ a.toInt ∧ a.toInt < 5 then
    if !mskOk 16 msk then .ret (-6) (s.1, l)
    else
      .next
        ({ s.1 with
            fadcMask := Function.update s.1.fadcMask ⟨a.toInt.toNat, by omega⟩ (mskWord 16 msk) },
          l)
  else .ret (-4) (s.1, l)

/-- The bits of `VTP_COMPTON_EPLANE_MASK`. -/
def eplaneBits (a : Nat → Word) : Word :=
  (if a 1 = 1#32 then 0x1#32 else 0#32) ||| (if a 2 = 1#32 then 0x2#32 else 0#32) |||
  (if a 3 = 1#32 then 0x4#32 else 0#32) ||| (if a 4 = 1#32 then 0x8#32 else 0#32)

def comptonKeys : List (String × Branch ComptonConf) :=
  [("VTP_COMPTON_VETROC_WIDTH", ints 1 fun a c => { c with vetrocWidth := a 0 }),
   ("VTP_COMPTON_LATENCY", ints 1 fun a c => { c with trig := { c.trig with latency := a 0 } }),
   ("VTP_COMPTON_WIDTH", ints 1 fun a c => { c with trig := { c.trig with width := a 0 } }),
   ("VTP_COMPTON_FADC_THRESHOLD", indexed 5 2 fun i a c =>
      { c with fadcThreshold := Function.update c.fadcThreshold i (a 1) }),
   ("VTP_COMPTON_FADC_EN_MASK", vtpComptonFadcEnMask),
   ("VTP_COMPTON_EPLANE_MULT_MIN", indexed 5 2 fun i a c =>
      { c with eplaneMultMin := Function.update c.eplaneMultMin i (a 1) }),
   ("VTP_COMPTON_EPLANE_MASK", indexed 5 5 fun i a c =>
      { c with eplaneMask := Function.update c.eplaneMask i (eplaneBits a) }),
   ("VTP_COMPTON_PRESCALE", indexed 32 2 fun i a c =>
      { c with trig := { c.trig with prescale := Function.update c.trig.prescale i (a 1) } }),
   ("VTP_COMPTON_SCALER_READOUT_EN", ints 1 fun a c =>
      { c with enableScalerReadout := if (a 0).toInt > 0 then 1#32 else 0#32 }),
   ("VTP_COMPTON_DELAY", indexed 32 2 fun i a c =>
      { c with trig := { c.trig with delay := Function.update c.trig.delay i (a 1) } })]

/-! ## All keywords -/

/-- The keywords of the detectors, and of the readout controller. -/
def detectorKeys : List (String × Branch VtpConf) :=
  onPart (·.ec) (fun c v => { c with ec := v }) ecKeys ++
  onPart (·.pc) (fun c v => { c with pc := v }) pcKeys ++
  onPart (·.htcc) (fun c v => { c with htcc := v }) htccKeys ++
  onPart (·.ftof) (fun c v => { c with ftof := v }) ftofKeys ++
  onPart (·.cnd) (fun c v => { c with cnd := v }) cndKeys ++
  onPart (·.pcs) (fun c v => { c with pcs := v }) pcsKeys ++
  onPart (·.ecs) (fun c v => { c with ecs := v }) ecsKeys ++
  onPart (·.gt) (fun c v => { c with gt := v }) gtKeys ++
  onPart (·.dc) (fun c v => { c with dc := v }) dcKeys ++
  onPart (·.hcal) (fun c v => { c with hcal := v }) hcalKeys ++
  onPart (·.ftcal) (fun c v => { c with ftcal := v }) ftcalKeys ++
  onPart (·.fthodo) (fun c v => { c with fthodo := v }) fthodoKeys ++
  onPart (·.hps) (fun c v => { c with hps := v }) hpsKeys ++
  onPart (·.vtpRoc) (fun c v => { c with vtpRoc := v }) vtpRocKeys ++
  onPart (·.compton) (fun c v => { c with compton := v }) comptonKeys

/-- The common keywords and those of the streaming. -/
def networkKeys : List (String × Branch VtpConf) :=
  commonKeys ++
  onPart (·.streaming) (fun c v => { c with streaming := v }) streamingKeys ++
  onPart (·.fadcStreaming) (fun c v => { c with fadcStreaming := v }) fadcStreamingKeys

def configKeys : List (String × Branch VtpConf) := networkKeys ++ detectorKeys

/-- The branch of a keyword. -/
def branchOf (keyword : List Char) : Option (Branch VtpConf) :=
  (configKeys.find? fun key => key.1.toList == keyword).map (·.2)

end VtpStreaming
