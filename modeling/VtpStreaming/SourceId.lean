import VtpStreaming.TimeStamps

/-!
# The identity of the source

The event builder and the load balancer match data, control events and sync packets
by the ROC id. It comes from CODA and takes four ways: the register `streamingEb.rocid`,
the control events, which copy the register, `emuData` and the sync packets.
-/

namespace VtpStreaming

open Clib Function VtpLib

/-- `vtp_get_src_id`. -/
def vtpGetSrcId (env : RocEnv) : Word := env.rocid

/-! ## Control events -/

section Events

variable (env : RocEnv) {lib : VtpLib} (runs : lib.Runs vtpFwTypeFadcstream)

include runs

theorem evioWriteControl_data {inst : Nat} (hinst : inst < 4) (type val0 val1 : Word) (r : Regs) :
    (call (lib.vtpStreamingEvioWriteControl inst type val0 val1) r).streamingEb.cpuAsyncEventData =
      r.streamingEb.cpuAsyncEventData ++
        controlEvent ((r.ebiorx 0).getLsbD 8) r.streamingEb.rocid type val0 val1 := by
  rw [vtpStreamingEvioWriteControl, runs.call_onInst hinst]

theorem evioWriteControl_keeps (inst : Nat) (type val0 val1 : Word) (r : Regs) :
    (call (lib.vtpStreamingEvioWriteControl inst type val0 val1) r).ebiorx = r.ebiorx ∧
      (call (lib.vtpStreamingEvioWriteControl inst type val0 val1) r).streamingEb.rocid =
        r.streamingEb.rocid := by
  rcases lt_or_ge inst 4 with hinst | hinst
  · rw [vtpStreamingEvioWriteControl, runs.call_onInst hinst]
    exact ⟨rfl, rfl⟩
  · rw [vtpStreamingEvioWriteControl, call_onInst_refused (by omega)]
    exact ⟨rfl, rfl⟩

/-- The prestart events of the first four streams. -/
theorem prestartEvents_data (n : Nat) (r : Regs) :
    (prestartEvents env lib n r).ebiorx = r.ebiorx ∧
    (prestartEvents env lib n r).streamingEb.rocid = r.streamingEb.rocid ∧
    (prestartEvents env lib n r).streamingEb.cpuAsyncEventData =
      r.streamingEb.cpuAsyncEventData ++
        (List.replicate (min n 4) (controlEvent ((r.ebiorx 0).getLsbD 8) r.streamingEb.rocid
          env.evPrestart env.runNumber env.runType)).flatten := by
  induction n with
  | zero => exact ⟨rfl, rfl, (List.append_nil _).symm⟩
  | succ n ih =>
    obtain ⟨hbus, hid, hdata⟩ := ih
    have hstep : prestartEvents env lib (n + 1) r =
        call (lib.vtpStreamingEvioWriteControl n env.evPrestart env.runNumber env.runType)
          (prestartEvents env lib n r) := by
      rw [prestartEvents, List.range_succ, List.foldl_append]
      rfl
    obtain ⟨hbus', hid'⟩ := evioWriteControl_keeps runs n env.evPrestart env.runNumber env.runType
      (prestartEvents env lib n r)
    rw [hstep]
    refine ⟨hbus'.trans hbus, hid'.trans hid, ?_⟩
    rcases lt_or_ge n 4 with hinst | hinst
    · have hmin : min n 4 = n := by omega
      have hmin' : min (n + 1) 4 = n + 1 := by omega
      rw [evioWriteControl_data runs hinst, hdata, hbus, hid, hmin, hmin', List.replicate_succ',
        List.flatten_append, List.append_assoc, List.flatten_singleton]
    · have hmin : min (n + 1) 4 = min n 4 := by omega
      rw [vtpStreamingEvioWriteControl, call_onInst_refused (by omega), hdata, hmin]

end Events

/-! ## Sync packets -/

theorem load_take {i n k : Nat} (h : i + n ≤ k) (buffer : List Byte) :
    load i n (buffer.take k) = load i n buffer := by
  rw [load, load, List.drop_take, List.take_take]
  congr 1
  omega

/-- A packet that is not cut short is read like the whole buffer. -/
theorem decodeSync_take {k : Nat} (h : 28 ≤ k) (buffer : List Byte) :
    decodeSync (buffer.take k) = decodeSync buffer := by
  have hload (i n : Nat) (hin : i + n ≤ 28) : load i n (buffer.take k) = load i n buffer :=
    load_take (hin.trans h) buffer
  simp only [decodeSync, hload 0 1 (by decide), hload 1 1 (by decide), hload 2 1 (by decide),
    hload 4 4 (by decide), hload 8 8 (by decide), hload 16 4 (by decide), hload 20 8 (by decide)]

theorem senderPass_srcId {lib : VtpLib} {inst : Int} {srcId : Word} {s : StatsSender}
    {pass : SenderPass} {d : List Byte}
    (hsent : (senderPass lib inst srcId s pass).2.datagram = some d) (hlen : 28 ≤ d.length) :
    ∃ packet, decodeSync d = some packet ∧ packet.srcId = srcId := by
  obtain ⟨pktLen, fcExt, evtRate, nanos, hshape⟩ : ∃ (pktLen : Int) (fcExt : DWord)
      (evtRate : Word) (nanos : DWord), (senderPass lib inst srcId s pass).2.datagram =
        if pktLen < 0 then none
        else some ((setSyncData pass.buf 1#32 srcId fcExt evtRate nanos).take pktLen.toNat) :=
    ⟨_, _, _, _, rfl⟩
  rw [hshape] at hsent
  split at hsent
  · cases hsent
  · cases hsent
    have hcut := hlen.trans (List.length_take_le ..)
    rw [decodeSync_take hcut, decodeSync_setSyncData]
    exact ⟨_, rfl, rfl⟩

/-! ## The result -/

/-- Every place that names the source after a prestart names `ROCID`: the register, the
events of prestart and those after it, `emuData`, and each whole sync packet. -/
structure OneSourceId (env : RocEnv) (out : Prestarted) : Prop where
  register : out.state.regs.streamingEb.rocid = env.rocid
  emuData : out.state.emuData 4 = env.rocid
  prestartEvents : ∃ before udp, out.state.regs.streamingEb.cpuAsyncEventData =
    before ++ (List.replicate (min out.params.numConnections.toInt.toNat 4)
      (controlEvent udp env.rocid env.evPrestart env.runNumber env.runType)).flatten
  laterEvents : ∀ (ops : List EbOp) (inst : Nat) (type val0 val1 : Word), inst < 4 →
    ∃ udp, (call (out.lib.vtpStreamingEvioWriteControl inst type val0 val1)
        (ebRun out.lib ops out.state.regs)).streamingEb.cpuAsyncEventData =
      (ebRun out.lib ops out.state.regs).streamingEb.cpuAsyncEventData ++
        controlEvent udp env.rocid type val0 val1
  packets : ∀ inst s pass d,
    (senderPass out.lib inst (vtpGetSrcId env) s pass).2.datagram = some d → 28 ≤ d.length →
    ∃ packet, decodeSync d = some packet ∧ packet.srcId = env.rocid

theorem checkRange_rocid_iff
    (rocid : Word) : checkRange 0 127 rocid = rocid ↔ rocid.toNat ≤ 127 := by
  constructor
  · intro h
    have hmem : 0 ≤ (checkRange 0 127 rocid).toInt ∧ (checkRange 0 127 rocid).toInt ≤ 127 :=
      checkRange_mem (by decide) (by decide) (by decide) rocid
    rw [h, BitVec.toInt_eq_toNat_cond] at hmem
    split_ifs at hmem <;> omega
  · intro h
    apply checkRange_of_mem
    rw [BitVec.toInt_eq_toNat_cond]
    split_ifs <;> omega

/-- A board whose register has the id of the readout list names it everywhere. -/
theorem oneSourceId_of_register {env : RocEnv} {s : RocState} {out : Prestarted}
    (prestart : rocPrestart env s = .done out) (runs : out.lib.Runs vtpFwTypeFadcstream)
    (hregister : out.state.regs.streamingEb.rocid = env.rocid) : OneSourceId env out := by
  obtain ⟨lib, p, s', hvalid, -, rfl⟩ := rocPrestart_done prestart
  have runs : lib.Runs vtpFwTypeFadcstream := runs
  refine ⟨hregister, rfl, ?_, ?_, ?_⟩
  · obtain ⟨r, hr⟩ : ∃ r, (prestartBoard env lib p s').state.regs =
        prestartEvents env lib p.numConnections.toInt.toNat r := ⟨_, rfl⟩
    have hevents : _ ∧ _ ∧ _ :=
      prestartEvents_data env runs p.numConnections.toInt.toNat r
    rw [← hr] at hevents
    obtain ⟨-, hid, hdata⟩ := hevents
    rw [← hid, hregister] at hdata
    exact ⟨_, _, hdata⟩
  · intro ops inst type val0 val1 hinst
    have hid := (ebRun_rocid runs.ready ops (prestartBoard env lib p s').state.regs).trans hregister
    rw [← hid]
    exact ⟨_, evioWriteControl_data runs hinst type val0 val1 _⟩
  · intro inst s pass d hsent hlen
    exact senderPass_srcId hsent hlen

/-- `vtpStreamingSetEbCfg` cuts the ROC id to 127, so the places agree on `ROCID`
exactly up to there. -/
theorem one_source_id_iff {env : RocEnv} {s : RocState} {out : Prestarted}
    (prestart : rocPrestart env s = .done out) (runs : out.lib.Runs vtpFwTypeFadcstream) :
    OneSourceId env out ↔ env.rocid.toNat ≤ 127 := by
  have hprogrammed := (rocPrestart_programmed prestart runs).rocid
  rw [← checkRange_rocid_iff]
  constructor
  · intro h
    rw [← hprogrammed, h.register]
  · intro h
    exact oneSourceId_of_register prestart runs (hprogrammed.trans h)

theorem one_source_id_small :
    ∃ out, rocPrestart (sampleEnv 127#32) sampleState = .done out ∧
      OneSourceId (sampleEnv 127#32) out := by
  obtain ⟨out, hdone, hlib⟩ := samplePrestart_done 127#32
  have runs : out.lib.Runs vtpFwTypeFadcstream := by
    rw [hlib]
    exact ⟨rfl, rfl⟩
  exact ⟨out, hdone, (one_source_id_iff hdone runs).mpr (by decide)⟩

/-- With `ROCID` 128 the register has 127. -/
theorem source_id_cut :
    ∃ out, rocPrestart (sampleEnv 128#32) sampleState = .done out ∧
      out.state.regs.streamingEb.rocid = 127#32 ∧ ¬ OneSourceId (sampleEnv 128#32) out := by
  obtain ⟨out, hdone, hlib⟩ := samplePrestart_done 128#32
  have runs : out.lib.Runs vtpFwTypeFadcstream := by
    rw [hlib]
    exact ⟨rfl, rfl⟩
  have hregister : out.state.regs.streamingEb.rocid = 127#32 :=
    (rocPrestart_programmed hdone runs).rocid.trans (by decide)
  refine ⟨out, hdone, hregister, fun h => ?_⟩
  have hsame := h.register
  rw [hregister] at hsame
  exact absurd hsame (by decide)

end VtpStreaming
