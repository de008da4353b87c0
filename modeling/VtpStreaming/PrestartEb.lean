import VtpStreaming.Prestart
import VtpStreaming.StreamingReadBack

/-!
# The event builder after prestart

What `vtpStreamingSetEbCfg` programs stays until prestart ends.
-/

namespace VtpStreaming

open Clib Function VtpLib

/-! ## Calls beside the event builder -/

section Beside

variable (lib : VtpLib)

theorem call_onInst_eb {inst : Nat} {f : Fin 4 → Regs → Regs}
    (h : ∀ i r, (f i r).streamingEb = r.streamingEb) (r : Regs) :
    (call (lib.onInst inst f) r).streamingEb = r.streamingEb := by
  rw [call, onInst]
  split
  · split
    · exact h _ r
    · rfl
  · rfl

theorem call_onInit_eb {f : Regs → Regs} (h : ∀ r, (f r).streamingEb = r.streamingEb) (r : Regs) :
    (call (lib.onInit f) r).streamingEb = r.streamingEb := by
  rw [call, onInit]
  split
  · exact h r
  · rfl

theorem setNetCfg_eb (inst : Nat) (mode : Word) (ipaddr subnet gateway : Fin 4 → Byte)
    (mac : Fin 6 → Byte) (destipaddr : Fin 4 → Byte) (destipport localport : BitVec 16) (r : Regs) :
    (call (lib.vtpStreamingSetNetCfg inst mode ipaddr subnet gateway mac destipaddr destipport
      localport) r).streamingEb = r.streamingEb := by
  rw [vtpStreamingSetNetCfg]
  apply call_onInst_eb
  intro i r
  rfl

theorem migReset_eb (r : Regs) : (call lib.vtpStreamingMigReset r).streamingEb = r.streamingEb := by
  rw [vtpStreamingMigReset]
  apply call_onInit_eb
  intro r
  rfl

theorem ebioReset_eb (mode : Word) (r : Regs) :
    (call (lib.vtpStreamingEbioReset mode) r).streamingEb = r.streamingEb := by
  rw [vtpStreamingEbioReset]
  apply call_onInit_eb
  intro r
  rfl

end Beside

/-! ## Each stage -/

section Stages

variable {env : RocEnv} {lib : VtpLib} {p : NetParams} {prog : StreamingEbRegs}

/-- The registers show what was programmed, with some view of the rest. -/
def KeepsProgram (prog : StreamingEbRegs) (r : Regs) : Prop := ∃ v, EbShows prog v r.streamingEb

theorem KeepsProgram.of_eq {r r' : Regs} (h : KeepsProgram prog r)
    (heq : r'.streamingEb = r.streamingEb) : KeepsProgram prog r' := by
  obtain ⟨v, shows⟩ := h
  exact ⟨v, heq ▸ shows⟩

theorem KeepsProgram.op {r : Regs} (ready : lib.ready vtpFwTypeFadcstream 0)
    (h : KeepsProgram prog r) (op : EbOp) : KeepsProgram prog (call (op.run lib) r) := by
  obtain ⟨v, shows⟩ := h
  exact ⟨v.step op, op.step_shows ready shows⟩

/-- An instance from 4 on is refused. -/
theorem call_onInst_refused {inst : Nat} (h : ¬ inst < 4) (f : Fin 4 → Regs → Regs) (r : Regs) :
    call (lib.onInst inst f) r = r := by
  simp [call, onInst, h]

theorem toNat_inst {inst : Nat} (h : inst < 4) : (BitVec.ofNat 32 inst).toNat = inst := by
  rw [BitVec.toNat_ofNat]
  omega

theorem KeepsProgram.connect {r : Regs} (ready : lib.ready vtpFwTypeFadcstream 0)
    (h : KeepsProgram prog r) (inst : Nat) {connect : Int} (opens : 0 < connect) :
    KeepsProgram prog (call (lib.vtpStreamingTcpConnect inst connect []) r) := by
  rcases lt_or_ge inst 4 with hinst | hinst
  · have hop := h.op ready (.tcpConnect (BitVec.ofNat 32 inst) connect opens [])
    rwa [EbOp.run, toNat_inst hinst] at hop
  · rwa [vtpStreamingTcpConnect, call_onInst_refused (by omega)]

theorem KeepsProgram.control {r : Regs} (ready : lib.ready vtpFwTypeFadcstream 0)
    (h : KeepsProgram prog r) (inst : Nat) (type val0 val1 : Word) :
    KeepsProgram prog (call (lib.vtpStreamingEvioWriteControl inst type val0 val1) r) := by
  rcases lt_or_ge inst 4 with hinst | hinst
  · have hop := h.op ready (.evioWriteControl (BitVec.ofNat 32 inst) type val0 val1)
    rwa [EbOp.run, toNat_inst hinst] at hop
  · rwa [vtpStreamingEvioWriteControl, call_onInst_refused (by omega)]

theorem KeepsProgram.connectInst {s : ConnectState} (ready : lib.ready vtpFwTypeFadcstream 0)
    (hmode : 0 ≤ p.netMode.toInt) (h : KeepsProgram prog s.regs) (inst : Nat) :
    KeepsProgram prog (connectInst lib p inst s).regs :=
  (h.of_eq (setNetCfg_eb lib ..)).connect ready inst (by omega)

theorem KeepsProgram.connectAll {r : Regs} (ready : lib.ready vtpFwTypeFadcstream 0)
    (hmode : 0 ≤ p.netMode.toInt) (h : KeepsProgram prog r) (n : Nat) :
    KeepsProgram prog (connectAll env lib p n r).regs := by
  induction n with
  | zero => exact h
  | succ n ih =>
    rw [VtpStreaming.connectAll, List.range_succ, List.foldl_append]
    exact ih.connectInst ready hmode n

theorem KeepsProgram.prestartEvents {r : Regs} (ready : lib.ready vtpFwTypeFadcstream 0)
    (h : KeepsProgram prog r) (n : Nat) : KeepsProgram prog (prestartEvents env lib n r) := by
  induction n with
  | zero => exact h
  | succ n ih =>
    rw [VtpStreaming.prestartEvents, List.range_succ, List.foldl_append]
    exact ih.control ready n _ _ _

theorem KeepsProgram.selectHeaders {r : Regs} (ready : lib.ready vtpFwTypeFadcstream 0)
    (h : KeepsProgram prog r) : KeepsProgram prog (selectHeaders p r) := by
  rw [VtpStreaming.selectHeaders]
  split
  · exact h
  · have hdisable := h.op ready (.ebDisable strebCmsgHdrEn)
    split
    · exact hdisable
    · exact hdisable.op ready (.ebEnable strebEjfatEn)

theorem KeepsProgram.configureEb {r : Regs} (ready : lib.ready vtpFwTypeFadcstream 0)
    (ppmask : Word) (ppInfo : PpInfo) :
    KeepsProgram
      (call (lib.vtpStreamingSetEbCfg ppmask p.numConnections 0xffff#32 env.rocid (some ppInfo))
        r).streamingEb (configureEb env lib p ppmask ppInfo r) := by
  have hset : lib.vtpStreamingSetEbCfg ppmask p.numConnections 0xffff#32 env.rocid (some ppInfo) r =
      some (call (lib.vtpStreamingSetEbCfg ppmask p.numConnections 0xffff#32 env.rocid
        (some ppInfo)) r) := by
    rw [call, vtpStreamingSetEbCfg, onTypes, if_pos (by simpa using ready)]
    rfl
  have hstart : KeepsProgram _ _ := ⟨_, (setEbCfg_shows hset).2⟩
  have hasync := (hstart.selectHeaders (p := p) ready).op ready (.ebEnable strebAsyncFifoEn)
  refine hasync.of_eq ?_
  rw [VtpStreaming.configureEb, ebioReset_eb, migReset_eb]
  rfl

end Stages

/-! ## The whole of prestart -/

theorem mode_of_valid {p : NetParams} (h : p.valid) : 0 ≤ p.netMode.toInt := by
  simp only [NetParams.valid, Bool.and_eq_true, Bool.or_eq_true, decide_eq_true_eq] at h
  rcases h.2 with hmode | hmode
  · rw [hmode]
    decide
  · rw [hmode]
    decide

/-- What `vtpStreamingSetEbCfg` is given in prestart, as the registers show it at the
end. -/
structure EbProgrammed (env : RocEnv) (p : NetParams) (ppmask : Word) (eb : StreamingEbRegs) :
    Prop where
  rocid : eb.rocid = checkRange 0 127 env.rocid
  frame : ebFrame.get eb.ctrl = 2047#32
  ports : ebPorts.get eb.ctrl = ppmask &&& 0xffff#32
  streams : ebStreams.get eb.ctrl3 = ebNstreams p.numConnections

theorem prestartBoard_programmed (env : RocEnv) {lib : VtpLib} {p : NetParams} (s : RocState)
    (runs : lib.Runs vtpFwTypeFadcstream) (hvalid : p.valid) :
    EbProgrammed env p (prestartBoard env lib p s).ppmask
      (prestartBoard env lib p s).state.regs.streamingEb := by
  have ready : lib.ready vtpFwTypeFadcstream 0 = true := runs.ready
  have hmode : 0 ≤ (completeParams env p).netMode.toInt := mode_of_valid (p := p) hvalid
  let scan := configurePayloads s.conf.streaming.payloadEnArray s.ppInfo
  have hconfigured : KeepsProgram _ (configureEb env lib (completeParams env p) scan.ppmask
      scan.ppInfo s.regs) := KeepsProgram.configureEb ready scan.ppmask scan.ppInfo
  have hconnected : KeepsProgram _ (connectAll env lib (completeParams env p)
      p.numConnections.toInt.toNat _).regs := hconfigured.connectAll ready hmode _
  obtain ⟨v, shows⟩ : KeepsProgram _ (prestartBoard env lib p s).state.regs :=
    hconnected.prestartEvents ready _
  have hmem : vtpFwTypeFadcstream ∈ [vtpFwTypeFadcstream] := List.mem_singleton_self _
  rw [vtpStreamingSetEbCfg, runs.call_onTypes hmem] at shows
  have hfields := ebCtrl_fields scan.ppmask 0xffff#32
  simp only [List.forall_mem_cons, List.not_mem_nil, false_implies, implies_true, and_true]
    at hfields
  obtain ⟨-, hframe, hports⟩ := hfields
  have hticks : frameTicks 0xffff#32 = 2047#32 := by decide
  constructor
  · exact shows.rocid
  · exact (BitField.get_eq_of_within (by decide) shows.layout).trans (hframe.trans hticks)
  · exact (BitField.get_eq_of_within (by decide) shows.layout).trans hports
  · exact shows.streams.trans (ebStreams_get p.numConnections)

/-- A prestart that runs to its end has checked its parameters. -/
theorem rocPrestart_done {env : RocEnv} {s : RocState} {out : Prestarted}
    (h : rocPrestart env s = .done out) :
    ∃ lib p s', p.valid = true ∧ s'.ppInfo = s.ppInfo ∧ out = prestartBoard env lib p s' := by
  rw [rocPrestart] at h
  split at h
  · cases h
  · next lib r hinit =>
    split at h
    · cases h
    · next path hpath =>
      split at h
      · cases h
      · rw [prestartFrom] at h
        split at h
        · cases h
        · cases h
        · next code conf hread =>
          split at h
          next conf r hdownload =>
          dsimp only at h
          split at h
          · next hvalid =>
            cases h
            exact ⟨_, _, ⟨r, conf, s.ppInfo, s.emuData⟩, hvalid, rfl, rfl⟩
          · cases h

theorem rocPrestart_programmed {env : RocEnv} {s : RocState} {out : Prestarted}
    (h : rocPrestart env s = .done out) (runs : out.lib.Runs vtpFwTypeFadcstream) :
    EbProgrammed env out.params out.ppmask out.state.regs.streamingEb := by
  obtain ⟨lib, p, s', hvalid, -, rfl⟩ := rocPrestart_done h
  have hboard := prestartBoard_programmed env s' runs hvalid
  exact ⟨hboard.rocid, hboard.frame, hboard.ports, hboard.streams⟩

/-! ## A prestart -/

/-- A prestart runs to its end when the board comes up, the generated file is read and
the parameters in it are valid. -/
theorem rocPrestart_eq {env : RocEnv} {s : RocState} {lib : VtpLib} {r : Regs}
    {path text : List Char}
    {code : Int} {conf : VtpConf} (hinit : env.vtpInit s.regs = some (lib, r))
    (hpath : vtpGetGeneratedConfigPath env.codaConfig env.config.hostname 512 = some path)
    (hfile : env.config.files path = some text)
    (hread : vtpReadConfigFile env.config env.configStack path (vtpInitGlobals s.conf) =
      .returned code conf)
    (hvalid : (vtpReadAllFromCfg env.config.files (some path) noParams).valid) :
    rocPrestart env s =
      .done (prestartBoard env lib (vtpReadAllFromCfg env.config.files (some path) noParams)
        { s with
          conf := (vtpDownloadAll lib env.fpu conf env.uploadStack r).1
          regs := (vtpDownloadAll lib env.fpu conf env.uploadStack r).2 }) := by
  simp only [rocPrestart, hinit, hpath, hfile, Option.isNone_some, Bool.false_eq_true, if_false,
    prestartFrom, hread, hvalid, if_true]

/-- A host `test2vtp` with one generated file, which names one stream. The library takes
its lines for blank ones. -/
def sampleConfig : ConfigEnv where
  hostname := "test2vtp".toList
  vtpParams := none
  expid := []
  files := fun path =>
    if path = "/c/vtp_test2.cnf".toList then
      some " VTP_NUM_CONNECTIONS 1\n VTP_LOCAL_PORT 10001\n".toList
    else none

def sampleEnv (rocid : Word) : RocEnv where
  vtpInit r := some (streamingLib, r)
  fpu := .zeros
  codaConfig := "/c".toList
  config := sampleConfig
  configStack := { msk := fun _ => 0#32, trgBit := 0#32, keyword := [], rocName := [] }
  uploadStack := 0#32
  netStack := ⟨fun _ => 0#8, fun _ => 0#8, fun _ => 0#8, fun _ => 0#8⟩
  rocid := rocid
  net := "129.57.29.231".toList
  port := 6006#32
  runNumber := 1#32
  runType := 0#32
  evPrestart := 0xffd1#32

def sampleState : RocState where
  regs := default
  conf := default
  ppInfo := fun _ => ⟨0#32, 0#32, 0#32, 0#32⟩
  emuData := ![0x634d7367#32, 0x20697320#32, 0x636f6f6c#32, 6#32, 0#32, 4196352#32, 1#32, 0#32]

theorem samplePrestart_done (rocid : Word) :
    ∃ out, rocPrestart (sampleEnv rocid) sampleState = .done out ∧ out.lib = streamingLib := by
  have hpath : vtpGetGeneratedConfigPath "/c".toList "test2vtp".toList 512 =
      some "/c/vtp_test2.cnf".toList := by decide
  have hparams : vtpReadAllFromCfg sampleConfig.files
      (some "/c/vtp_test2.cnf".toList) noParams =
      { noParams with numConnections := 1#32, localPort := 10001#32 } := by decide
  exact ⟨_, rocPrestart_eq rfl hpath rfl rfl (congrArg NetParams.valid hparams), rfl⟩

end VtpStreaming
