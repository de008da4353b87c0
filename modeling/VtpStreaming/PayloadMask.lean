import VtpStreaming.PrestartEb

/-!
# The payload mask of a prestart

`rol/vtp_stream3_1udp_vg.c`, `rocPrestart`. The payloads of the configuration are
entered in `ppInfo` one by one, and the mask is read off the whole of `ppInfo`, which
stays from one prestart to the next.
-/

namespace VtpStreaming

open Clib Function VtpLib

/-! ## Masks as sets of ports -/

/-- A bit for each port of the list. -/
def maskOf (l : List (Fin 16)) : Word := l.foldl (fun mask n => mask ||| (1#32 <<< n.val)) 0#32

theorem portBit_getLsbD (n : Fin 16) (i : Nat) :
    (1#32 <<< n.val).getLsbD i = decide (n.val = i) := by
  have hpow : (1#32 <<< n.val).getLsbD i = (decide (n.val < 32) && decide (n.val = i)) :=
    BitVec.getLsbD_twoPow ..
  have hlt : n.val < 32 := by omega
  rw [hpow, decide_eq_true hlt, Bool.true_and]

theorem maskOf_getLsbD (l : List (Fin 16)) (i : Nat) :
    (maskOf l).getLsbD i = decide (∃ n ∈ l, n.val = i) := by
  have hfold : ∀ mask : Word,
      (l.foldl (fun mask n => mask ||| (1#32 <<< n.val)) mask).getLsbD i =
        (mask.getLsbD i || decide (∃ n ∈ l, n.val = i)) := by
    induction l with
    | nil => simp
    | cons n l ih =>
      intro mask
      rw [List.foldl_cons, ih, BitVec.getLsbD_or, portBit_getLsbD, Bool.or_assoc]
      simp
  rw [maskOf, hfold, BitVec.getLsbD_zero, Bool.false_or]

theorem maskOf_inj {l l' : List (Fin 16)} : maskOf l = maskOf l' ↔ ∀ n, n ∈ l ↔ n ∈ l' := by
  constructor
  · intro h n
    have hbit := congrArg (BitVec.getLsbD · n.val) h
    simpa [maskOf_getLsbD, Fin.val_inj] using hbit
  · intro h
    apply BitVec.eq_of_getLsbD_eq
    intro i _
    simp only [maskOf_getLsbD, h]

/-- The ports that have a module. -/
def modules (ppc : PpInfo) : List (Fin 16) :=
  (List.finRange 16).filter fun n => (ppc n).moduleId ≠ 0#32

theorem mem_modules {ppc : PpInfo} {n : Fin 16} : n ∈ modules ppc ↔ (ppc n).moduleId ≠ 0#32 := by
  simp [modules]

theorem configuredMask_eq (ppc : PpInfo) : configuredMask ppc = maskOf (modules ppc) := by
  rw [configuredMask, maskOf, modules, List.foldl_filter]
  congr 1
  funext mask n
  by_cases hn : (ppc n).moduleId = 0#32
  · simp [hn]
  · simp [hn]

/-! ## The loop -/

/-- The payloads that a configuration enables, in order. -/
def enabledPayloads (payloadEn : Fin 16 → Word) : List (Fin 16) :=
  (List.finRange 16).filter fun n => payloadEn n = 1#32

theorem mem_enabledPayloads {payloadEn : Fin 16 → Word} {n : Fin 16} :
    n ∈ enabledPayloads payloadEn ↔ payloadEn n = 1#32 := by
  simp [enabledPayloads]

section Loop

variable {payloadEn : Fin 16 → Word} {s : PayloadScan} {ns : List (Fin 16)}

/-- The loop stops behind the ninth payload, not before it. -/
theorem payloadLoop_eq {k : Nat} (hcount : s.activeCount + k = 9) (hk : 0 < k) :
    payloadLoop payloadEn ns s =
      ((ns.filter fun n => payloadEn n = 1#32).take k).foldl
        (fun s n => enablePayload (n.val + 1) s) s := by
  induction ns generalizing s k with
  | nil => rw [List.filter_nil, List.take_nil, List.foldl_nil, payloadLoop]
  | cons n ns ih =>
    rw [payloadLoop]
    by_cases hn : payloadEn n = 1#32
    · have hstep : (enablePayload (n.val + 1) s).activeCount = s.activeCount + 1 := rfl
      rw [if_pos hn, List.filter_cons_of_pos (by simpa using hn)]
      cases k with
      | zero => exact absurd hk (Nat.lt_irrefl 0)
      | succ k =>
        rw [List.take_succ_cons, List.foldl_cons]
        dsimp only
        by_cases hlast : 8 < (enablePayload (n.val + 1) s).activeCount
        · have hzero : k = 0 := by omega
          rw [if_pos hlast, hzero, List.take_zero, List.foldl_nil]
        · rw [if_neg hlast]
          exact ih (by omega) (by omega)
    · rw [if_neg hn, List.filter_cons_of_neg (by simpa using hn)]
      exact ih hcount hk

/-- One payload more. -/
theorem enablePayload_modules (n : Fin 16) :
    (∀ i, i ∈ modules (enablePayload (n.val + 1) s).ppInfo ↔ i = n ∨ i ∈ modules s.ppInfo) ∧
      (enablePayload (n.val + 1) s).ppmask =
        s.ppmask ||| maskOf (modules (enablePayload (n.val + 1) s).ppInfo) := by
  have hn := n.isLt
  have hconfig : vtpPayloadConfig (n.val + 1) s.ppInfo 1#32 1#32 0#32 1#32 =
      some (configuredMask (update s.ppInfo n ⟨1#32, 1#32, 0#32, 1#32⟩),
        update s.ppInfo n ⟨1#32, 1#32, 0#32, 1#32⟩) := by
    rw [vtpPayloadConfig, dif_pos (by omega)]
    rfl
  constructor
  · intro i
    rw [enablePayload, hconfig, mem_modules, mem_modules]
    by_cases hi : i = n
    · subst hi
      simp
    · simp [hi]
  · rw [enablePayload, hconfig, Option.getD_some, configuredMask_eq]

/-- The payloads of a list, one after the other. -/
theorem foldl_enablePayload (l : List (Fin 16)) :
    (∀ i, i ∈ modules (l.foldl (fun s n => enablePayload (n.val + 1) s) s).ppInfo ↔
      i ∈ l ∨ i ∈ modules s.ppInfo) ∧
    (∀ i, (l.foldl (fun s n => enablePayload (n.val + 1) s) s).ppmask.getLsbD i =
      (s.ppmask.getLsbD i || decide (l ≠ []) &&
        (maskOf (modules (l.foldl (fun s n => enablePayload (n.val + 1) s) s).ppInfo)).getLsbD i)) := by
  induction l generalizing s with
  | nil => simp
  | cons n l ih =>
    rcases @enablePayload_modules s n with ⟨hmodules, hmask⟩
    rcases @ih (enablePayload (n.val + 1) s) with ⟨ihmodules, ihmask⟩
    rw [List.foldl_cons]
    refine ⟨fun i => ?_, fun i => ?_⟩
    · rw [ihmodules, hmodules, List.mem_cons]
      tauto
    · -- the mask of the first payload is part of that of the last
      have hpart : (maskOf (modules (enablePayload (n.val + 1) s).ppInfo)).getLsbD i = true →
          (maskOf (modules (l.foldl (fun s n => enablePayload (n.val + 1) s)
            (enablePayload (n.val + 1) s)).ppInfo)).getLsbD i = true := by
        rw [maskOf_getLsbD, maskOf_getLsbD, decide_eq_true_iff, decide_eq_true_iff]
        rintro ⟨m, hm, rfl⟩
        exact ⟨m, (ihmodules m).mpr (Or.inr hm), rfl⟩
      rw [ihmask, hmask, BitVec.getLsbD_or]
      cases l with
      | nil => simp
      | cons m l =>
        cases hfirst : (maskOf (modules (enablePayload (n.val + 1) s).ppInfo)).getLsbD i with
        | false => simp
        | true =>
          have hlast := hpart hfirst
          rw [List.foldl_cons] at hlast
          simp [hlast]

/-- What the loop of one prestart makes of the `ppInfo` it finds. -/
theorem configurePayloads_eq (payloadEn : Fin 16 → Word) (ppInfo : PpInfo) :
    (∀ i, i ∈ modules (configurePayloads payloadEn ppInfo).ppInfo ↔
      i ∈ (enabledPayloads payloadEn).take 9 ∨ i ∈ modules ppInfo) ∧
    (configurePayloads payloadEn ppInfo).ppmask =
      if enabledPayloads payloadEn = [] then 0#32
      else maskOf (modules (configurePayloads payloadEn ppInfo).ppInfo) := by
  have hloop : configurePayloads payloadEn ppInfo =
      ((enabledPayloads payloadEn).take 9).foldl (fun s n => enablePayload (n.val + 1) s)
        { ppInfo := ppInfo, ppmask := 0#32, activeCount := 0 } :=
    payloadLoop_eq rfl (by decide)
  rcases @foldl_enablePayload { ppInfo := ppInfo, ppmask := 0#32, activeCount := 0 }
    ((enabledPayloads payloadEn).take 9) with ⟨hmodules, hmask⟩
  rw [← hloop] at hmodules hmask
  refine ⟨hmodules, BitVec.eq_of_getLsbD_eq fun i _ => ?_⟩
  rw [hmask, BitVec.getLsbD_zero, Bool.false_or]
  by_cases hnone : enabledPayloads payloadEn = []
  · simp [hnone]
  · simp [hnone]

end Loop

/-! ## The configuration of a prestart -/

section Configuration

variable {α : Type} (g : VtpConf → α)

theorem onFwType_keeps {conf c : VtpConf} {type : Int} {f : VtpConf → VtpConf}
    (h : ∀ c, g (f c) = g c) : g (conf.onFwType type f c) = g c := by
  rw [VtpConf.onFwType]
  split
  · exact h c
  · rfl

theorem uploadFirmware_payloads (lib : VtpLib) (r : Regs) (conf : VtpConf) :
    (uploadFirmware lib r conf).payloadEn = conf.payloadEn ∧
      (uploadFirmware lib r conf).streaming = conf.streaming := by
  rw [uploadFirmware]
  split
  · exact ⟨rfl, rfl⟩
  · exact ⟨rfl, rfl⟩

/-- Reading the registers back leaves the payloads as the file gives them. -/
theorem vtpUploadAll_payloads (lib : VtpLib) (fpu : FloatUnit) (r : Regs) (stack : Word)
    (conf : VtpConf) :
    (vtpUploadAll lib fpu r stack conf).payloadEn = conf.payloadEn ∧
      (vtpUploadAll lib fpu r stack conf).streaming = conf.streaming := by
  have hfirmware := uploadFirmware_payloads lib r conf
  simp only [vtpUploadAll]
  constructor
  · iterate 14
      refine Eq.trans (onFwType_keeps VtpConf.payloadEn ?_) ?_
      · exact fun _ => rfl
    exact hfirmware.1
  · iterate 14
      refine Eq.trans (onFwType_keeps VtpConf.streaming ?_) ?_
      · exact fun _ => rfl
    exact hfirmware.2

theorem vtpDownloadAll_payloads (lib : VtpLib) (fpu : FloatUnit) (conf : VtpConf) (stack : Word)
    (r : Regs) :
    (vtpDownloadAll lib fpu conf stack r).1.payloadEn = conf.payloadEn ∧
      (vtpDownloadAll lib fpu conf stack r).1.streaming = conf.streaming := by
  rcases uploadFirmware_payloads lib r conf with ⟨hmask, harray⟩
  rw [vtpDownloadAll, ← hmask, ← harray]
  exact vtpUploadAll_payloads ..

/-- The payloads that a prestart works with are those of the file it has read. -/
theorem rocPrestart_read {env : RocEnv} {s : RocState} {out : Prestarted} {path : List Char}
    {code : Int} {conf : VtpConf} (h : rocPrestart env s = .done out)
    (hpath : vtpGetGeneratedConfigPath env.codaConfig env.config.hostname 512 = some path)
    (hread : vtpReadConfigFile env.config env.configStack path (vtpInitGlobals s.conf) =
      .returned code conf) :
    out.state.conf.payloadEn = conf.payloadEn ∧ out.state.conf.streaming = conf.streaming := by
  rw [rocPrestart] at h
  split at h
  · cases h
  · rw [hpath] at h
    dsimp only at h
    split at h
    · cases h
    · rw [prestartFrom, hread] at h
      dsimp only at h
      split at h
      · cases h
        exact vtpDownloadAll_payloads ..
      · cases h

end Configuration

/-! ## One prestart -/

/-- The payloads that the configuration of a prestart enables. -/
def Prestarted.enabled (out : Prestarted) : List (Fin 16) :=
  enabledPayloads out.state.conf.streaming.payloadEnArray

/-- The mask is that of the configuration's own payloads, the first eight if there are
more. -/
def Prestarted.OwnMask (out : Prestarted) : Prop := out.ppmask = maskOf (out.enabled.take 8)

section Prestart

variable {env : RocEnv} {s : RocState} {out : Prestarted}

/-- A prestart leaves `ppInfo` as the loop over its payloads does. -/
theorem rocPrestart_payloads (h : rocPrestart env s = .done out) :
    (∀ i, i ∈ modules out.state.ppInfo ↔ i ∈ out.enabled.take 9 ∨ i ∈ modules s.ppInfo) ∧
      out.ppmask = if out.enabled = [] then 0#32 else maskOf (modules out.state.ppInfo) := by
  rcases rocPrestart_done h with ⟨lib, p, s', -, hppInfo, rfl⟩
  rw [← hppInfo]
  exact configurePayloads_eq s'.conf.streaming.payloadEnArray s'.ppInfo

/-- A list of payloads is in order and has no payload twice. -/
theorem enabledPayloads_nodup (payloadEn : Fin 16 → Word) : (enabledPayloads payloadEn).Nodup :=
  (List.nodup_finRange 16).filter _

/-- The mask of one prestart is its own if it enables all that was there before it, and no
more than eight. -/
theorem ownMask_iff (h : rocPrestart env s = .done out) :
    out.OwnMask ↔ out.enabled = [] ∨
      out.enabled.length ≤ 8 ∧ ∀ i ∈ modules s.ppInfo, i ∈ out.enabled := by
  rcases rocPrestart_payloads h with ⟨hmodules, hmask⟩
  rw [Prestarted.OwnMask, hmask]
  by_cases hnone : out.enabled = []
  · simp [hnone, maskOf]
  rw [if_neg hnone, maskOf_inj]
  simp only [hmodules]
  constructor
  · intro hsame
    right
    have hshort : out.enabled.length ≤ 8 := by
      by_contra hlong
      -- the ninth payload is in the mask, and none of the first eight
      have h9 : 8 < out.enabled.length := Nat.lt_of_not_le hlong
      have hninth : out.enabled[8] ∈ out.enabled.take 9 :=
        List.mem_take_iff_getElem.mpr ⟨8, by omega, rfl⟩
      rcases List.mem_take_iff_getElem.mp ((hsame _).mp (Or.inl hninth)) with ⟨j, hj, heq⟩
      have hnodup : out.enabled.Nodup := enabledPayloads_nodup _
      have hindex := (List.Nodup.getElem_inj_iff hnodup).mp heq
      omega
    refine ⟨hshort, fun i hi => ?_⟩
    exact List.mem_of_mem_take ((hsame i).mp (Or.inr hi))
  · rintro (hnil | ⟨hshort, hbefore⟩) i
    · exact absurd hnil hnone
    · rw [List.take_of_length_le hshort, List.take_of_length_le (by omega)]
      exact ⟨fun hi => hi.elim id (hbefore i), Or.inl⟩

end Prestart

/-! ## One process -/

/-- The prestarts of one process that run to their end. A refused one leaves what it has
read, and one that does not return is the last. -/
def executions : List RocEnv → RocState → List Prestarted
  | [], _ => []
  | env :: envs, s =>
      match rocPrestart env s with
      | .refused s => executions envs s
      | .done out => out :: executions envs out.state
      | .hangs | .faults => []

/-- `ppInfo` before the first prestart. -/
def RocState.fresh (s : RocState) : RocState :=
  { s with ppInfo := fun _ => ⟨0#32, 0#32, 0#32, 0#32⟩ }

/-- Each configuration enables no more than eight payloads, and nothing or all that the
earlier ones have enabled. -/
def Growing (runs : List (List (Fin 16))) : Prop :=
  runs.Pairwise (fun before now => now = [] ∨ ∀ i ∈ before, i ∈ now) ∧ ∀ run ∈ runs, run.length ≤ 8

theorem rocPrestart_refused {env : RocEnv} {s s' : RocState} (h : rocPrestart env s = .refused s') :
    s'.ppInfo = s.ppInfo := by
  rw [rocPrestart] at h
  split at h
  · cases h
    rfl
  · split at h
    · cases h
      rfl
    · split at h
      · cases h
        rfl
      · rw [prestartFrom] at h
        split at h
        · cases h
        · cases h
        · split at h
          next conf r hdownload =>
          dsimp only at h
          split at h
          · cases h
          · cases h
            rfl

/-- The prestarts from a state whose `ppInfo` has some modules already. -/
theorem executions_ownMask (envs : List RocEnv) (s : RocState) :
    (∀ out ∈ executions envs s, out.OwnMask) ↔
      Growing ((executions envs s).map Prestarted.enabled) ∧
        ∀ out ∈ executions envs s, out.enabled = [] ∨ ∀ i ∈ modules s.ppInfo, i ∈ out.enabled := by
  induction envs generalizing s with
  | nil => simp [executions, Growing]
  | cons env envs ih =>
    rw [executions]
    cases hrun : rocPrestart env s with
    | hangs => simp [Growing]
    | faults => simp [Growing]
    | refused s' =>
      dsimp only
      rw [ih s', rocPrestart_refused hrun]
    | done out =>
      dsimp only
      rcases rocPrestart_payloads hrun with ⟨hmodules, -⟩
      rw [List.forall_mem_cons, ownMask_iff hrun, ih out.state, List.forall_mem_cons, List.map_cons,
        Growing, Growing, List.pairwise_cons, List.forall_mem_cons]
      constructor
      · rintro ⟨hfirst, ⟨hpairs, hshort⟩, hall⟩
        have hlen : out.enabled.length ≤ 8 := by
          rcases hfirst with hnil | ⟨hlen, -⟩
          · rw [hnil]
            exact Nat.zero_le 8
          · exact hlen
        have hbefore : ∀ now ∈ executions envs out.state, now.enabled = [] ∨
            ∀ i, i ∈ out.enabled ∨ i ∈ modules s.ppInfo → i ∈ now.enabled := by
          intro now hnow
          refine (hall now hnow).imp id fun h i hi => h i ?_
          rw [hmodules, List.take_of_length_le (by omega)]
          exact hi
        refine ⟨⟨⟨?_, hpairs⟩, hlen, hshort⟩, ?_, ?_⟩
        · intro now hnow
          rcases List.mem_map.mp hnow with ⟨later, hlater, rfl⟩
          exact (hbefore later hlater).imp id fun h i hi => h i (Or.inl hi)
        · exact hfirst.imp id And.right
        · intro now hnow
          exact (hbefore now hnow).imp id fun h i hi => h i (Or.inr hi)
      · rintro ⟨⟨⟨hlater, hpairs⟩, hlen, hshort⟩, hfirst, hrest⟩
        refine ⟨hfirst.imp id fun h => ⟨hlen, h⟩, ⟨hpairs, hshort⟩, fun now hnow => ?_⟩
        have hown := hlater now.enabled (List.mem_map.mpr ⟨now, hnow, rfl⟩)
        rcases hown with hnil | hown
        · exact Or.inl hnil
        rcases hrest now hnow with hnil | hstale
        · exact Or.inl hnil
        right
        intro i hi
        rw [hmodules] at hi
        exact hi.elim (fun h => hown i (List.mem_of_mem_take h)) (hstale i)

/-- In one process every prestart has the mask of its own configuration exactly if each
configuration enables eight payloads at most, and none or all of the earlier ones'. -/
theorem own_mask_iff (envs : List RocEnv) (s : RocState) :
    (∀ out ∈ executions envs s.fresh, out.OwnMask) ↔
      Growing ((executions envs s.fresh).map Prestarted.enabled) := by
  rw [executions_ownMask]
  refine and_iff_left fun out _ => Or.inr fun i hi => ?_
  exact absurd rfl (mem_modules.mp hi)

/-- The host `test2vtp` with payloads 1 to 9 in its file. -/
def nineConfig : ConfigEnv :=
  { sampleConfig with
    files := fun path =>
      if path = "/c/vtp_test2.cnf".toList then
        some ("VTP_CRATE all\nVTP_PAYLOAD_EN 1 1 1 1 1 1 1 1 1 0 0 0 0 0 0 0\n".toList ++
          " VTP_NUM_CONNECTIONS 1\n VTP_LOCAL_PORT 10001\n".toList)
      else none }

def nineEnv : RocEnv := { sampleEnv 1#32 with config := nineConfig }

/-- The ninth payload is programmed and warned about, not left out. -/
theorem ninth_payload_enabled :
    ∃ out, executions [nineEnv] sampleState.fresh = [out] ∧ ¬out.OwnMask := by
  have hpath : vtpGetGeneratedConfigPath "/c".toList "test2vtp".toList 512 =
      some "/c/vtp_test2.cnf".toList := by decide
  have hparams : vtpReadAllFromCfg nineConfig.files (some "/c/vtp_test2.cnf".toList) noParams =
      { noParams with numConnections := 1#32, localPort := 10001#32 } := by decide
  have hread : ∃ conf, vtpReadConfigFile nineConfig nineEnv.configStack
      "/c/vtp_test2.cnf".toList (vtpInitGlobals sampleState.fresh.conf) = .returned 0 conf ∧
        (enabledPayloads conf.streaming.payloadEnArray).length = 9 := ⟨_, rfl, rfl⟩
  rcases hread with ⟨conf, hread, hnine⟩
  have hdone : ∃ out, rocPrestart nineEnv sampleState.fresh = .done out :=
    ⟨_, rocPrestart_eq rfl hpath rfl hread (congrArg NetParams.valid hparams)⟩
  rcases hdone with ⟨out, hrun⟩
  have hlen : out.enabled.length = 9 := by
    rw [Prestarted.enabled, (rocPrestart_read hrun hpath hread).2]
    exact hnine
  refine ⟨out, ?_, ?_⟩
  · rw [executions, hrun]
    rfl
  · rw [ownMask_iff hrun]
    rintro (hnil | ⟨hshort, -⟩)
    · rw [hnil] at hlen
      exact absurd hlen (by decide)
    · omega

end VtpStreaming
