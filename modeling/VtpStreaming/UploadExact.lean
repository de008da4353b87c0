import VtpStreaming.ReadBack

/-!
# Whether the configuration says what the registers say

After `vtpUploadAll` every parameter of the firmware that has a register should be
what the register decodes to, and the parameters of the other firmwares what they
were. The function leaves out some registers, reads others into the wrong place
and divides the Dalitz limits, so this holds exactly when what is left out is
right already and what is divided is 0.
-/

namespace VtpStreaming

open Clib Function VtpLib

/-! ## The block of a firmware type -/

section

variable {lib : VtpLib} {type : Int} {α : Type} (fpu : FloatUnit) (r : Regs) (stack : Word)

/-- Among blocks for different types at most one runs. -/
theorem foldl_onFwType {conf : VtpConf} (htype : (conf.fwType 0).toInt = type)
    (table : List (Int × (α → α))) (hnodup : (table.map (·.1)).Nodup) (a : α) :
    table.foldl (fun a b => conf.onFwType b.1 b.2 a) a =
      ((table.find? fun b => b.1 = type).map (·.2)).getD id a := by
  induction table generalizing a with
  | nil => rfl
  | cons b table ih =>
    rw [List.map_cons, List.nodup_cons] at hnodup
    obtain ⟨hb, htable⟩ := hnodup
    rw [List.foldl_cons, ih htable]
    by_cases h : b.1 = type
    · have hnone : table.find? (fun b => b.1 = type) = none := by
        rw [List.find?_eq_none]
        intro c hc heq
        exact hb (List.mem_map.mpr ⟨c, hc, by simpa [h] using heq⟩)
      rw [onFwType_same (htype.trans h.symm), List.find?_cons_of_pos (by simpa using h), hnone]
      rfl
    · have hne : (conf.fwType 0).toInt ≠ b.1 := by
        rw [htype]
        exact fun heq => h heq.symm
      rw [onFwType_other hne, List.find?_cons_of_neg (by simpa using h)]

def uploadTable (lib : VtpLib) : List (Int × (VtpConf → VtpConf)) :=
  [(vtpFwTypeEc, uploadEc lib r), (vtpFwTypePc, uploadPc lib r),
   (vtpFwTypeHtcc, uploadHtcc lib r), (vtpFwTypeFtof, uploadFtof lib r),
   (vtpFwTypeCnd, uploadCnd lib r), (vtpFwTypePcs, uploadPcs lib r),
   (vtpFwTypeEcs, uploadEcs lib r), (vtpFwTypeGt, uploadGt lib fpu r),
   (vtpFwTypeDc, uploadDc lib r), (vtpFwTypeHcal, uploadHcal lib r),
   (vtpFwTypeFtcal, uploadFtcal lib fpu r stack), (vtpFwTypeFthodo, uploadFthodo lib r),
   (vtpFwTypeHps, uploadHps lib fpu r), (vtpFwTypeCompton, uploadCompton lib r)]

def triggerTypes : List Int :=
  [vtpFwTypeEc, vtpFwTypePc, vtpFwTypeHtcc, vtpFwTypeFtof, vtpFwTypeCnd, vtpFwTypePcs, vtpFwTypeEcs,
   vtpFwTypeGt, vtpFwTypeDc, vtpFwTypeHcal, vtpFwTypeFtcal, vtpFwTypeFthodo, vtpFwTypeHps,
   vtpFwTypeCompton]

theorem triggerTypes_nodup : triggerTypes.Nodup := by decide

/-- What every firmware reads, before its own block. -/
def uploadStart (lib : VtpLib) (conf : VtpConf) : VtpConf :=
  uploadCommon lib r (uploadFirmware lib r conf)

theorem vtpUploadAll_find (conf : VtpConf) (h : lib.Runs type) (htype : (r.fwType 0).toInt = type) :
    vtpUploadAll lib fpu r stack conf =
      (((uploadTable fpu r stack lib).find? fun b => b.1 = type).map (·.2)).getD id
        (uploadStart r lib conf) := by
  have hfw : ((uploadFirmware lib r conf).fwType 0).toInt = type := by
    rw [uploadFirmware_eq r conf h, ← htype]
  have htypes : (uploadTable fpu r stack lib).map (·.1) = triggerTypes := rfl
  rw [← foldl_onFwType hfw _ (htypes ▸ triggerTypes_nodup)]
  rfl

theorem uploadStart_eq (conf : VtpConf) (h : lib.Runs type) :
    uploadStart r lib conf =
      { conf with
        fwRev := r.fwVersion
        fwType := r.fwType
        windowWidth := r.eb.windowWidth * lib.windowTick
        windowOffset := r.eb.lookback * lib.windowTick
        fiberEn := fiberMaskOf lib r } := by
  rw [uploadStart, uploadFirmware_eq r conf h, uploadCommon_eq r _ h]

end

/-! ## What the registers decode to -/

def payloadMaskOf (lib : VtpLib) (r : Regs) : Word :=
  if lib.fwType 0 ∈ fadcDecTypes then r.fadcDec
  else if lib.fwType 0 = vtpFwTypeGt then r.sspDec
  else if lib.fwType 0 = vtpFwTypeDc then r.dcrbDec
  else if lib.fwType 0 = vtpFwTypeHcal then r.hcal.ctrl
  else if lib.fwType 0 = vtpFwTypeFtcal then r.ftcalDec
  else if lib.fwType 0 = vtpFwTypeFadcstream then r.streamingEb.ctrl &&& 0xff#32
  else 0#32

/-- `vtpGetTriggerPayloadMask` reads the same, only it has no case for streaming. The line of
`vtpUploadAll` that calls it is a comment. -/
theorem vtpGetTriggerPayloadMask_eq {lib : VtpLib} {type : Int} (h : lib.Runs type)
    (hstream : type ≠ vtpFwTypeFadcstream) (r : Regs) :
    lib.vtpGetTriggerPayloadMask r = some (payloadMaskOf lib r) := by
  rw [vtpGetTriggerPayloadMask, h.onInit, payloadMaskOf, h.fwType, if_neg hstream]

/-- The ROC firmware, `vtpRocGetCfg` and `vtpRocGetTcpCfg`. -/
def vtpRocOf (r : Regs) (c : VtpRocConf) : VtpRocConf :=
  let t := r.tcpClient 0
  { c with
    rocId := r.rocID &&& 0xff#32
    destip := t.tcpDestAddr
    destipport := t.tcpPort &&& 0xffff#32
    eb :=
      { c.eb with
        ipaddr := t.ip4Addr
        subnet := t.ip4SubnetMask
        gateway := t.ip4GatewayAddr
        mac := macBytes t.macAddr } }

/-- Every parameter of the firmware `type` that has a register is what the
register decodes to. -/
@[mk_iff]
structure Decoded (fpu : FloatUnit) (lib : VtpLib) (type : Int) (r : Regs) (conf : VtpConf) :
    Prop where
  fwRev : conf.fwRev = r.fwVersion
  fwType : conf.fwType = r.fwType
  windowWidth : conf.windowWidth = r.eb.windowWidth * lib.windowTick
  windowOffset : conf.windowOffset = r.eb.lookback * lib.windowTick
  payloadEn : conf.payloadEn = payloadMaskOf lib r
  fiberEn : conf.fiberEn = fiberMaskOf lib r
  ec : type = vtpFwTypeEc → conf.ec = ecOf r
  pc : type = vtpFwTypePc → conf.pc = pcOf r
  htcc : type = vtpFwTypeHtcc → conf.htcc = htccOf r
  ftof : type = vtpFwTypeFtof → conf.ftof = thresholdConfOf r.ftofTrigger
  cnd : type = vtpFwTypeCnd → conf.cnd = thresholdConfOf r.cndTrigger
  pcs : type = vtpFwTypePcs → conf.pcs = pcsOf r conf.pcs
  ecs : type = vtpFwTypeEcs → conf.ecs = ecsOf r conf.ecs
  gt : type = vtpFwTypeGt → conf.gt = gtOf fpu r
  dc : type = vtpFwTypeDc → conf.dc = dcOf r
  hcal : type = vtpFwTypeHcal → conf.hcal = hcalOf r
  ftcal : type = vtpFwTypeFtcal → conf.ftcal = ftcalOf r
  fthodo : type = vtpFwTypeFthodo → conf.fthodo = fthodoOf r
  hps : type = vtpFwTypeHps → conf.hps = hpsOf fpu r conf.hps
  compton : type = vtpFwTypeCompton → conf.compton = comptonOf r conf.compton
  fadcStreaming : type = vtpFwTypeFadcstream →
    conf.fadcStreaming = fadcStreamingOf r conf.fadcStreaming
  vtpRoc : type = vtpFwTypeVcodaroc → conf.vtpRoc = vtpRocOf r conf.vtpRoc

/-- The parameters of the other firmwares, and those that are none's, are kept. -/
@[mk_iff]
structure OthersKept (type : Int) (conf conf' : VtpConf) : Prop where
  fwFilenameV7 : conf'.fwFilenameV7 = conf.fwFilenameV7
  fwFilenameZ7 : conf'.fwFilenameZ7 = conf.fwFilenameZ7
  refclk : conf'.refclk = conf.refclk
  ec : type ≠ vtpFwTypeEc → conf'.ec = conf.ec
  pc : type ≠ vtpFwTypePc → conf'.pc = conf.pc
  htcc : type ≠ vtpFwTypeHtcc → conf'.htcc = conf.htcc
  ftof : type ≠ vtpFwTypeFtof → conf'.ftof = conf.ftof
  cnd : type ≠ vtpFwTypeCnd → conf'.cnd = conf.cnd
  pcs : type ≠ vtpFwTypePcs → conf'.pcs = conf.pcs
  ecs : type ≠ vtpFwTypeEcs → conf'.ecs = conf.ecs
  gt : type ≠ vtpFwTypeGt → conf'.gt = conf.gt
  dc : type ≠ vtpFwTypeDc → conf'.dc = conf.dc
  hcal : type ≠ vtpFwTypeHcal → conf'.hcal = conf.hcal
  ftcal : type ≠ vtpFwTypeFtcal → conf'.ftcal = conf.ftcal
  fthodo : type ≠ vtpFwTypeFthodo → conf'.fthodo = conf.fthodo
  hps : type ≠ vtpFwTypeHps → conf'.hps = conf.hps
  compton : type ≠ vtpFwTypeCompton → conf'.compton = conf.compton
  fadcStreaming : type ≠ vtpFwTypeFadcstream →
    conf'.fadcStreaming = conf.fadcStreaming ∧ conf'.streaming = conf.streaming
  vtpRoc : type ≠ vtpFwTypeVcodaroc → conf'.vtpRoc = conf.vtpRoc

/-- What the function leaves out is right already, what it divides is 0, and
the flags that it stores for another firmware are there. -/
@[mk_iff]
structure UploadGaps (fpu : FloatUnit) (lib : VtpLib) (type : Int) (r : Regs) (stack : Word)
    (conf : VtpConf) : Prop where
  payloadEn : conf.payloadEn = payloadMaskOf lib r
  ec : type = vtpFwTypeEc → ∀ inst,
    (ecViewOf r inst).dalitzMin = 0#32 ∧ (ecViewOf r inst).dalitzMax = 0#32
  ecs : type = vtpFwTypeEcs → conf.ecs.inner = ecsViewOf r 0
  ftcal : type = vtpFwTypeFtcal → conf.ftcal = ftcalOf r
  ftcalPair : type = vtpFwTypeFtcal →
    withPairFlags stack (conf.hps.pairTrig 2) = conf.hps.pairTrig 2
  hps : type = vtpFwTypeHps → conf.hps.calib = hpsCalibOf fpu r ∧ conf.hps.trig = hpsTrigOf r
  compton : type = vtpFwTypeCompton →
    conf.compton.trig.latency = r.trigOut.latency * 4#32 ∧ conf.compton.trig.width = r.trigOut.width
  fadcStreaming : type = vtpFwTypeFadcstream →
    conf.fadcStreaming = fadcStreamingOf r conf.fadcStreaming
  vtpRoc : type = vtpFwTypeVcodaroc → conf.vtpRoc = vtpRocOf r conf.vtpRoc

/-- What is expected of the function, on a library that runs the firmware `type`. -/
def UploadExact (fpu : FloatUnit) (lib : VtpLib) (type : Int) (r : Regs) (stack : Word)
    (conf : VtpConf) : Prop :=
  let conf' := vtpUploadAll lib fpu r stack conf
  Decoded fpu lib type r conf' ∧ OthersKept type conf conf'

/-! ## One firmware at a time -/

section

variable {lib : VtpLib} {type : Int} {fpu : FloatUnit} {r : Regs} {stack : Word} {conf : VtpConf}

theorem vtpUploadAll_block (h : lib.Runs type) (htype : (r.fwType 0).toInt = type)
    (block : VtpConf → VtpConf)
    (hblock : (uploadTable fpu r stack lib).find? (fun b => b.1 = type) = some (type, block)) :
    vtpUploadAll lib fpu r stack conf = block (uploadStart r lib conf) := by
  rw [vtpUploadAll_find fpu r stack conf h htype, hblock, Option.map_some, Option.getD_some]

theorem vtpUploadAll_start (h : lib.Runs type) (htype : (r.fwType 0).toInt = type)
    (hnot : type ∉ triggerTypes) :
    vtpUploadAll lib fpu r stack conf = uploadStart r lib conf := by
  have hnone : (uploadTable fpu r stack lib).find? (fun b => b.1 = type) = none := by
    rw [List.find?_eq_none]
    intro b hb heq
    exact hnot (List.mem_map.mpr ⟨b, hb, by simpa using heq⟩)
  rw [vtpUploadAll_find fpu r stack conf h htype, hnone]
  rfl

theorem tenBits_lt (x : Word) : (x &&& 0x3ff#32).toNat < 1024 := by
  rw [BitVec.toNat_and]
  exact Nat.and_lt_two_pow x.toNat (n := 10) (by decide)

theorem eighth_toNat (x : Word) :
    ((x &&& 0x3ff#32).sdiv 8#32).toNat = (x &&& 0x3ff#32).toNat / 8 := by
  have hlt := tenBits_lt x
  generalize x &&& 0x3ff#32 = v at hlt
  have hint := toInt_sdiv_pos v (k := 8#32) (by decide)
  rw [BitVec.toInt_eq_toNat_of_lt (x := v) (by omega), show (8#32).toInt = 8 from rfl,
    Int.tdiv_eq_ediv_of_nonneg (by omega)] at hint
  rw [BitVec.toInt_eq_toNat_cond] at hint
  split_ifs at hint <;> omega

/-- Dividing by 8 changes every value of ten bits but 0. -/
theorem eighth_eq (x : Word) :
    (x &&& 0x3ff#32).sdiv 8#32 = x &&& 0x3ff#32 ↔ x &&& 0x3ff#32 = 0#32 := by
  have hnat := eighth_toNat x
  constructor
  · intro heq
    rw [heq] at hnat
    apply BitVec.eq_of_toNat_eq
    rw [BitVec.toNat_zero]
    omega
  · intro hzero
    rw [hzero]
    rfl

theorem eighths_eq (inst : Fin 2) :
    eighths (ecViewOf r inst) = ecViewOf r inst ↔
      (ecViewOf r inst).dalitzMin = 0#32 ∧ (ecViewOf r inst).dalitzMax = 0#32 := by
  have hmin := eighth_eq (r.ecTrigger inst).dalitz
  have hmax := eighth_eq ((r.ecTrigger inst).dalitz >>> 16)
  simp only [eighths, ecViewOf, EcView.mk.injEq, hmin, hmax, true_and, and_true]

attribute [local simp] decoded_iff othersKept_iff uploadGaps_iff vtpFwTypeEc vtpFwTypePc
  vtpFwTypeHtcc vtpFwTypeFtof vtpFwTypeCnd vtpFwTypePcs vtpFwTypeEcs vtpFwTypeGt vtpFwTypeDc
  vtpFwTypeHcal vtpFwTypeFtcal vtpFwTypeFthodo vtpFwTypeHps vtpFwTypeCompton vtpFwTypeFadcstream
  vtpFwTypeVcodaroc

theorem exact_ec (h : lib.Runs vtpFwTypeEc) (htype : (r.fwType 0).toInt = vtpFwTypeEc) :
    UploadExact fpu lib vtpFwTypeEc r stack conf ↔
      UploadGaps fpu lib vtpFwTypeEc r stack conf := by
  have hec : (⟨(ecOf r).fadcsumChEn, eighths (ecOf r).inner, eighths (ecOf r).outer⟩ : EcConf) =
      ecOf r ↔ ∀ inst, (ecViewOf r inst).dalitzMin = 0#32 ∧ (ecViewOf r inst).dalitzMax = 0#32 := by
    rw [Fin.forall_fin_two, ← eighths_eq, ← eighths_eq]
    simp [ecOf]
  rw [UploadExact, vtpUploadAll_block h htype (uploadEc lib r) rfl, uploadEc_eq r _ h,
    uploadStart_eq r conf h]
  simp [hec]

theorem exact_pc (h : lib.Runs vtpFwTypePc) (htype : (r.fwType 0).toInt = vtpFwTypePc) :
    UploadExact fpu lib vtpFwTypePc r stack conf ↔
      UploadGaps fpu lib vtpFwTypePc r stack conf := by
  rw [UploadExact, vtpUploadAll_block h htype (uploadPc lib r) rfl, uploadPc_eq r _ h,
    uploadStart_eq r conf h]
  simp

theorem exact_htcc (h : lib.Runs vtpFwTypeHtcc) (htype : (r.fwType 0).toInt = vtpFwTypeHtcc) :
    UploadExact fpu lib vtpFwTypeHtcc r stack conf ↔
      UploadGaps fpu lib vtpFwTypeHtcc r stack conf := by
  rw [UploadExact, vtpUploadAll_block h htype (uploadHtcc lib r) rfl, uploadHtcc_eq r _ h,
    uploadStart_eq r conf h]
  simp

theorem exact_ftof (h : lib.Runs vtpFwTypeFtof) (htype : (r.fwType 0).toInt = vtpFwTypeFtof) :
    UploadExact fpu lib vtpFwTypeFtof r stack conf ↔
      UploadGaps fpu lib vtpFwTypeFtof r stack conf := by
  rw [UploadExact, vtpUploadAll_block h htype (uploadFtof lib r) rfl, uploadFtof_eq r _ h,
    uploadStart_eq r conf h]
  simp

theorem exact_cnd (h : lib.Runs vtpFwTypeCnd) (htype : (r.fwType 0).toInt = vtpFwTypeCnd) :
    UploadExact fpu lib vtpFwTypeCnd r stack conf ↔
      UploadGaps fpu lib vtpFwTypeCnd r stack conf := by
  rw [UploadExact, vtpUploadAll_block h htype (uploadCnd lib r) rfl, uploadCnd_eq r _ h,
    uploadStart_eq r conf h]
  simp

theorem exact_pcs (h : lib.Runs vtpFwTypePcs) (htype : (r.fwType 0).toInt = vtpFwTypePcs) :
    UploadExact fpu lib vtpFwTypePcs r stack conf ↔
      UploadGaps fpu lib vtpFwTypePcs r stack conf := by
  rw [UploadExact, vtpUploadAll_block h htype (uploadPcs lib r) rfl, uploadPcs_eq r _ h,
    uploadStart_eq r conf h]
  simp [pcsOf]

/-- The outer view is read last from its own instance. -/
theorem exact_ecs (h : lib.Runs vtpFwTypeEcs) (htype : (r.fwType 0).toInt = vtpFwTypeEcs) :
    UploadExact fpu lib vtpFwTypeEcs r stack conf ↔
      UploadGaps fpu lib vtpFwTypeEcs r stack conf := by
  rw [UploadExact, vtpUploadAll_block h htype (uploadEcs lib r) rfl, uploadEcs_eq r _ h,
    uploadStart_eq r conf h]
  simp [ecsOf]

theorem exact_gt (h : lib.Runs vtpFwTypeGt) (htype : (r.fwType 0).toInt = vtpFwTypeGt) :
    UploadExact fpu lib vtpFwTypeGt r stack conf ↔
      UploadGaps fpu lib vtpFwTypeGt r stack conf := by
  rw [UploadExact, vtpUploadAll_block h htype (uploadGt lib fpu r) rfl, uploadGt_eq fpu r _ h,
    uploadStart_eq r conf h]
  simp

theorem exact_dc (h : lib.Runs vtpFwTypeDc) (htype : (r.fwType 0).toInt = vtpFwTypeDc) :
    UploadExact fpu lib vtpFwTypeDc r stack conf ↔
      UploadGaps fpu lib vtpFwTypeDc r stack conf := by
  rw [UploadExact, vtpUploadAll_block h htype (uploadDc lib r) rfl, uploadDc_eq r _ h,
    uploadStart_eq r conf h]
  simp

theorem exact_hcal (h : lib.Runs vtpFwTypeHcal) (htype : (r.fwType 0).toInt = vtpFwTypeHcal) :
    UploadExact fpu lib vtpFwTypeHcal r stack conf ↔
      UploadGaps fpu lib vtpFwTypeHcal r stack conf := by
  rw [UploadExact, vtpUploadAll_block h htype (uploadHcal lib r) rfl, uploadHcal_eq r _ h,
    uploadStart_eq r conf h]
  simp

/-- Nothing of the firmware is read, and flags of another one are written. -/
theorem exact_ftcal (h : lib.Runs vtpFwTypeFtcal) (htype : (r.fwType 0).toInt = vtpFwTypeFtcal) :
    UploadExact fpu lib vtpFwTypeFtcal r stack conf ↔
      UploadGaps fpu lib vtpFwTypeFtcal r stack conf := by
  have hhps (flags : HpsPairTrig) :
      { conf.hps with pairTrig := update conf.hps.pairTrig 2 flags } = conf.hps ↔
        flags = conf.hps.pairTrig 2 := by
    constructor
    · intro heq
      have hpair := congrArg (fun c => c.pairTrig 2) heq
      simpa using hpair
    · rintro rfl
      rw [update_eq_self]
  rw [UploadExact, vtpUploadAll_block h htype (uploadFtcal lib fpu r stack) rfl,
    uploadFtcal_eq fpu r _ h, uploadStart_eq r conf h]
  simp [hhps, and_assoc]

theorem exact_fthodo (h : lib.Runs vtpFwTypeFthodo) (htype : (r.fwType 0).toInt = vtpFwTypeFthodo) :
    UploadExact fpu lib vtpFwTypeFthodo r stack conf ↔
      UploadGaps fpu lib vtpFwTypeFthodo r stack conf := by
  rw [UploadExact, vtpUploadAll_block h htype (uploadFthodo lib r) rfl, uploadFthodo_eq r _ h,
    uploadStart_eq r conf h]
  simp

/-- The getters of HPS overwrite all that they read, so reading twice is reading once. -/
theorem exact_hps (h : lib.Runs vtpFwTypeHps) (htype : (r.fwType 0).toInt = vtpFwTypeHps) :
    UploadExact fpu lib vtpFwTypeHps r stack conf ↔
      UploadGaps fpu lib vtpFwTypeHps r stack conf := by
  rw [UploadExact, vtpUploadAll_block h htype (uploadHps lib fpu r) rfl, uploadHps_eq fpu r _ h,
    uploadStart_eq r conf h]
  simp [hpsOf, singleOf, pairOf, withSingleFlags, withPairFlags]

theorem exact_compton (h : lib.Runs vtpFwTypeCompton)
    (htype : (r.fwType 0).toInt = vtpFwTypeCompton) :
    UploadExact fpu lib vtpFwTypeCompton r stack conf ↔
      UploadGaps fpu lib vtpFwTypeCompton r stack conf := by
  have hbits (read : Fin 5 → Word) (old : Fin 32 → Word) :
      uploadBits read (uploadBits read old) = uploadBits read old := by
    funext k
    unfold uploadBits
    split_ifs <;> rfl
  rw [UploadExact, vtpUploadAll_block h htype (uploadCompton lib r) rfl, uploadCompton_eq r _ h,
    uploadStart_eq r conf h]
  simp [comptonOf, comptonTrigOf, hbits]

/-- On the streaming firmware and on the ROC no block runs. -/
theorem exact_other (h : lib.Runs type) (htype : (r.fwType 0).toInt = type)
    (hnot : type ∉ triggerTypes) :
    UploadExact fpu lib type r stack conf ↔ UploadGaps fpu lib type r stack conf := by
  rw [UploadExact, vtpUploadAll_start h htype hnot, uploadStart_eq r conf h]
  simp only [triggerTypes, List.mem_cons, List.not_mem_nil, or_false, not_or] at hnot
  simp only [decoded_iff, othersKept_iff, uploadGaps_iff, hnot, false_implies, implies_true,
    ne_eq, true_and, and_true, and_self]

/-- The function does what is expected exactly when the gaps are filled already. -/
theorem exact_iff (h : lib.Runs type) (htype : (r.fwType 0).toInt = type) :
    UploadExact fpu lib type r stack conf ↔ UploadGaps fpu lib type r stack conf := by
  by_cases hmem : type ∈ triggerTypes
  · simp only [triggerTypes, List.mem_cons, List.not_mem_nil, or_false] at hmem
    rcases hmem with rfl | rfl | rfl | rfl | rfl | rfl | rfl | rfl | rfl | rfl | rfl | rfl | rfl | rfl
    · exact exact_ec h htype
    · exact exact_pc h htype
    · exact exact_htcc h htype
    · exact exact_ftof h htype
    · exact exact_cnd h htype
    · exact exact_pcs h htype
    · exact exact_ecs h htype
    · exact exact_gt h htype
    · exact exact_dc h htype
    · exact exact_hcal h htype
    · exact exact_ftcal h htype
    · exact exact_fthodo h htype
    · exact exact_hps h htype
    · exact exact_compton h htype
  · exact exact_other h htype hmem

end

/-- After `vtpInit`, `vtpUploadAll` leaves every parameter of the firmware as its
register decodes, and the other parameters alone, exactly when the gaps are
filled already. -/
theorem upload_exact_iff (fpu : FloatUnit) (r : Regs) (stack : Word) (conf : VtpConf) :
    UploadExact fpu (VtpLib.ofRegs r) (r.fwType 0).toInt r stack conf ↔
      UploadGaps fpu (VtpLib.ofRegs r) (r.fwType 0).toInt r stack conf :=
  exact_iff (VtpLib.runs_ofRegs r) rfl

/-- An ECS board with a cosmic threshold of 1. -/
def ecsBoard : Regs :=
  { (default : Regs) with fwType := ![8#32, 0#32], ecCosmic := fun _ => ⟨1#32, 0#32⟩ }

/-- The inner view of ECS is never read, so its threshold stays 0. -/
theorem ecs_inner_not_read :
    ¬ UploadExact FloatUnit.zeros (VtpLib.ofRegs ecsBoard) (ecsBoard.fwType 0).toInt ecsBoard 0#32
      default := by
  rw [exact_iff (VtpLib.runs_ofRegs ecsBoard) rfl]
  intro h
  have hemin := congrArg EcsView.cosmicEmin (h.ecs rfl)
  exact absurd hemin (by decide)

end VtpStreaming
