import VtpStreaming.PrestartNet

/-!
# The number of streams

`rol/vtp_stream3_1udp_vg.c`, `rocPrestart`. The number of connections goes into
`vtpStreamingSetEbCfg`, which has no more than four, into `emuData`, and into the loops
over the connections and over the events.
-/

namespace VtpStreaming

open Clib Function VtpLib

/-! ## The number in the file -/

/-- No branch stores a negative number. -/
theorem readAllKeys_numConnections : ∀ key ∈ readAllKeys, ∀ (val : List Char) (p : NetParams),
    0 ≤ p.numConnections.toInt → 0 ≤ (key.2 val p).numConnections.toInt := by
  have hnumber : ∀ {conv ok put} (val : List Char) (p : NetParams),
      (∀ v, ok v = true → 0 ≤ (put v p).numConnections.toInt) → 0 ≤ p.numConnections.toInt →
        0 ≤ (netNumber conv ok put val p).numConnections.toInt := by
    intro conv ok put val p hput hp
    rw [netNumber]
    split
    · exact hp
    · split
      · next hok => exact hput _ hok
      · exact hp
  have hpositive : ∀ v : Word, positive v = true → 0 ≤ v.toInt := by
    intro v hv
    have hlt := of_decide_eq_true hv
    omega
  simp only [readAllKeys, List.forall_mem_cons]
  refine ⟨?_, ?_, ?_, ?_, ?_, ?_, ?_, ?_, nofun⟩
  · intro val p hp
    split
    · exact hp
    · exact hp
  · exact fun val p hp => hnumber val p (fun _ _ => hp) hp
  · exact fun val p hp => hnumber val p (fun v hv => hpositive v hv) hp
  · exact fun val p hp => hnumber val p (fun v hv => hpositive v hv) hp
  · exact fun val p hp => hnumber val p (fun _ _ => hp) hp
  · exact fun val p hp => hnumber val p (fun _ _ => hp) hp
  · exact fun val p hp => hnumber val p (fun _ _ => hp) hp
  · exact fun val p hp => hnumber val p (fun _ _ => hp) hp

theorem readAllLine_numConnections {line : List Char} {p : NetParams}
    (hp : 0 ≤ p.numConnections.toInt) : 0 ≤ (readAllLine line p).numConnections.toInt := by
  unfold readAllLine
  dsimp only
  split
  · exact hp
  · split
    · exact hp
    · split
      · exact hp
      · split
        · exact hp
        · next branch hbranch =>
          rw [readAllBranchOf, Option.map_eq_some_iff] at hbranch
          rcases hbranch with ⟨key, hfind, rfl⟩
          exact readAllKeys_numConnections key (List.mem_of_find?_eq_some hfind) _ p hp

theorem readAllLines_numConnections {ls : List (List Char)} {p : NetParams}
    (hp : 0 ≤ p.numConnections.toInt) : 0 ≤ (readAllLines ls p).numConnections.toInt := by
  induction ls generalizing p with
  | nil => exact hp
  | cons l ls ih => exact ih (readAllLine_numConnections hp)

/-- What the file gives is not negative, and what is not given is 0. -/
theorem vtpReadAllFromCfg_numConnections (files : List Char → Option (List Char))
    (path : Option (List Char)) :
    0 ≤ (vtpReadAllFromCfg files path noParams).numConnections.toInt := by
  have hnone : 0 ≤ noParams.numConnections.toInt := by decide
  rw [vtpReadAllFromCfg]
  split
  · exact hnone
  · exact readAllLines_numConnections hnone

/-! ## The addresses -/

theorem advance_ipaddr (addrs : NetLocals) (k : Nat) :
    (addrs.advance k).ipaddr 3 = addrs.ipaddr 3 + BitVec.ofNat 8 k := by
  rw [NetLocals.advance]
  exact update_self 3 _ addrs.ipaddr

theorem advance_mac (addrs : NetLocals) (k : Nat) :
    (addrs.advance k).mac 4 = addrs.mac 4 + BitVec.ofNat 8 k := by
  rw [NetLocals.advance]
  exact update_self 4 _ addrs.mac

/-- Four addresses one after the other differ, past 255 too. -/
theorem byte_add_inj {b : Byte} {i j : Fin 4}
    (h : b + BitVec.ofNat 8 i = b + BitVec.ofNat 8 j) : i = j := by
  have hsmall : ∀ i j : Fin 4, BitVec.ofNat 8 i = BitVec.ofNat 8 j → i = j := by decide
  exact hsmall i j ((BitVec.add_right_inj b).mp h)

theorem connectedRegs_ipaddr_inj {p : NetParams} {addrs : NetLocals} {i j : Fin 4}
    (h : (connectedRegs p (addrs.advance i)).ip4Addr = (connectedRegs p (addrs.advance j)).ip4Addr) :
    i = j := by
  have hbytes := congrArg (fun w => ipBytes w 3) h
  simp only [connectedRegs, ipBytes_ipWord, advance_ipaddr] at hbytes
  exact byte_add_inj hbytes

theorem connectedRegs_mac_inj {p : NetParams} {addrs : NetLocals} {i j : Fin 4}
    (h : (connectedRegs p (addrs.advance i)).macAddr = (connectedRegs p (addrs.advance j)).macAddr) :
    i = j := by
  have hbytes := congrArg (fun w => macBytes w 4) h
  simp only [connectedRegs, macBytes_macWords, advance_mac] at hbytes
  exact byte_add_inj hbytes

/-! ## One number -/

/-- Every record of the number of streams says the same, there is an event for each stream,
and no two streams have one address. -/
structure OneStreamCount (env : RocEnv) (r : Regs) (out : Prestarted) : Prop where
  streams : ebStreams.get out.state.regs.streamingEb.ctrl3 = out.state.emuData 6
  connected : out.connected.length = (out.state.emuData 6).toNat
  events : MoreEvents (prestartEvent env out.state.regs) (prestartLength out.state.regs)
    out.connected.length r out.state.regs
  ipaddrs : ∀ i j : Fin 4, i.val ∈ out.connected → j.val ∈ out.connected → i ≠ j →
    (out.state.regs.tcpClient i).ip4Addr ≠ (out.state.regs.tcpClient j).ip4Addr
  macs : ∀ i j : Fin 4, i.val ∈ out.connected → j.val ∈ out.connected → i ≠ j →
    (out.state.regs.tcpClient i).macAddr ≠ (out.state.regs.tcpClient j).macAddr

/-- The library has no more than four streams, and refuses the others. -/
theorem ebNstreams_eq_iff {n : Word} (hpos : 0 < n.toInt) : ebNstreams n = n ↔ n.toInt ≤ 4 := by
  rw [ebNstreams, if_neg (by omega), checkRange]
  split
  · next h =>
    constructor
    · rintro rfl
      exact absurd h (by decide)
    · intro hle
      omega
  · next h =>
    rw [if_neg (by omega)]
    simp only [true_iff]
    omega

variable {env : RocEnv} {s : RocState} {out : Prestarted} {lib : VtpLib} {r : Regs}
  {path : List Char}

/-- With four connections at most everything agrees, and with more the event builder's
number is 4. -/
theorem one_stream_count_iff (hrun : rocPrestart env s = .done out)
    (hboard : env.vtpInit s.regs = some (lib, r)) (runs : lib.Runs vtpFwTypeFadcstream)
    (htype : (r.fwType 0).toInt = vtpFwTypeFadcstream)
    (hpath : vtpGetGeneratedConfigPath env.codaConfig env.config.hostname 512 = some path) :
    OneStreamCount env r out ↔
      (vtpReadAllFromCfg env.config.files (some path) noParams).numConnections.toNat ≤ 4 := by
  rcases rocPrestart_board hrun hboard hpath with ⟨code, conf, -, hvalid, hout⟩
  have hnonneg := vtpReadAllFromCfg_numConnections env.config.files (some path)
  generalize vtpReadAllFromCfg env.config.files (some path) noParams = p at hvalid hnonneg hout ⊢
  have hparams : out.params.numConnections = p.numConnections := by
    rw [hout]
    rfl
  have hpos : 0 < p.numConnections.toInt := by
    have hne : p.numConnections ≠ 0#32 := by
      simp only [NetParams.valid, Bool.and_eq_true, decide_eq_true_eq] at hvalid
      exact hvalid.1.1
    have hzero : p.numConnections.toInt ≠ 0 := fun h => hne (BitVec.toInt_inj.mp h)
    omega
  have hnat : p.numConnections.toInt = p.numConnections.toNat := by
    have hcases := BitVec.toInt_eq_toNat_cond p.numConnections
    have hlt := p.numConnections.isLt
    split at hcases <;> omega
  have hlib : out.lib = lib := by
    rw [hout]
    rfl
  have hstreams := (rocPrestart_programmed hrun (hlib ▸ runs)).streams
  let s' : RocState :=
    { s with
      conf := (vtpDownloadAll lib env.fpu conf env.uploadStack r).1
      regs := (vtpDownloadAll lib env.fpu conf env.uploadStack r).2 }
  have hnet : NetProgrammed env s'.regs out := by
    rw [hout]
    exact prestartBoard_net s' runs hvalid
  have hsame : SameEvents r s'.regs := by
    rcases @vtpDownloadAll_streaming lib env.fpu conf env.uploadStack r runs htype with ⟨heb, -⟩
    constructor
    · show (vtpDownloadAll lib env.fpu conf env.uploadStack r).2.streamingEb.cpuAsyncEventData = _
      rw [heb]
      rfl
    · show (vtpDownloadAll lib env.fpu conf env.uploadStack r).2.streamingEb.cpuAsyncEventInfo = _
      rw [heb]
      rfl
  have hconnections := hnet.connections
  rw [hparams] at hstreams hconnections
  constructor
  · intro h
    have hcount := h.streams
    rw [hstreams, hconnections, ebNstreams_eq_iff hpos] at hcount
    omega
  · intro hle
    have hfour : p.numConnections.toInt.toNat ≤ 4 := by omega
    have hlist : out.connected = List.range p.numConnections.toInt.toNat := by
      rw [hnet.connected, hparams, Nat.min_eq_left hfour]
    have hclient : ∀ i : Fin 4, i.val ∈ out.connected → out.state.regs.tcpClient i =
        connectedRegs out.params ((s'.regs.tcpClient 0).addresses.advance i) := by
      intro i hi
      rw [hlist, List.mem_range, ← hparams] at hi
      exact hnet.clients i hi
    have hevents := hnet.events
    rw [hparams, Nat.min_eq_left hfour] at hevents
    constructor
    · rw [hstreams, hconnections, ebNstreams_eq_iff hpos]
      omega
    · rw [hlist, List.length_range, hconnections]
      omega
    · rw [hlist, List.length_range]
      exact ⟨hevents.data.trans (congrArg (· ++ _) hsame.data),
        hevents.info.trans (congrArg (· ++ _) hsame.info)⟩
    · intro i j hi hj hne heq
      rw [hclient i hi, hclient j hj] at heq
      exact hne (connectedRegs_ipaddr_inj heq)
    · intro i j hi hj hne heq
      rw [hclient i hi, hclient j hj] at heq
      exact hne (connectedRegs_mac_inj heq)

/-! ## Two files -/

/-- A board with the streaming firmware. -/
def streamingRegs : Regs := { (default : Regs) with fwType := ![14#32, 2#32] }

/-- The host `test2vtp` with this file. -/
def connectionsEnv (text : List Char) : RocEnv :=
  { sampleEnv 1#32 with
    config := { sampleConfig with
      files := fun path => if path = "/c/vtp_test2.cnf".toList then some text else none } }

def streamingState : RocState := { sampleState with regs := streamingRegs }

/-- The library takes these lines for blank ones. -/
def oneConnection : List Char := " VTP_NUM_CONNECTIONS 1\n VTP_LOCAL_PORT 10001\n".toList

def fiveConnections : List Char := " VTP_NUM_CONNECTIONS 5\n VTP_LOCAL_PORT 10001\n".toList

theorem connections_path :
    vtpGetGeneratedConfigPath "/c".toList "test2vtp".toList 512 = some "/c/vtp_test2.cnf".toList := by
  decide

theorem one_connection :
    ∃ out, rocPrestart (connectionsEnv oneConnection) streamingState = .done out ∧
      OneStreamCount (connectionsEnv oneConnection) streamingRegs out := by
  have hparams : vtpReadAllFromCfg (connectionsEnv oneConnection).config.files
      (some "/c/vtp_test2.cnf".toList) noParams =
      { noParams with numConnections := 1#32, localPort := 10001#32 } := by decide
  have hrun : ∃ out, rocPrestart (connectionsEnv oneConnection) streamingState = .done out :=
    ⟨_, rocPrestart_eq rfl connections_path rfl rfl (congrArg NetParams.valid hparams)⟩
  rcases hrun with ⟨out, hrun⟩
  refine ⟨out, hrun, (one_stream_count_iff hrun rfl ⟨rfl, rfl⟩ rfl connections_path).mpr ?_⟩
  rw [hparams]
  decide

/-- With five connections the event builder has four streams, and `emuData` five. -/
theorem fifth_connection_refused :
    ∃ out, rocPrestart (connectionsEnv fiveConnections) streamingState = .done out ∧
      out.state.emuData 6 = 5#32 ∧
      ebStreams.get out.state.regs.streamingEb.ctrl3 = 4#32 ∧
      ¬OneStreamCount (connectionsEnv fiveConnections) streamingRegs out := by
  have hparams : vtpReadAllFromCfg (connectionsEnv fiveConnections).config.files
      (some "/c/vtp_test2.cnf".toList) noParams =
      { noParams with numConnections := 5#32, localPort := 10001#32 } := by decide
  have hdone := @rocPrestart_eq (connectionsEnv fiveConnections) streamingState streamingLib
    streamingRegs _ _ _ _ rfl connections_path rfl rfl (congrArg NetParams.valid hparams)
  generalize hout : prestartBoard _ _ _ _ = out at hdone
  have hlib : out.lib = streamingLib := by
    rw [← hout]
    rfl
  have hdata : out.state.emuData 6 = 5#32 := by
    rw [← hout, hparams]
    rfl
  have hnumber : out.params.numConnections = 5#32 := by
    rw [← hout, hparams]
    rfl
  have runs : out.lib.Runs vtpFwTypeFadcstream := by
    rw [hlib]
    exact ⟨rfl, rfl⟩
  have hstreams := (rocPrestart_programmed hdone runs).streams
  have hfour : ebNstreams 5#32 = 4#32 := by decide
  rw [hnumber, hfour] at hstreams
  refine ⟨out, hdone, hdata, hstreams, fun h => ?_⟩
  have hsame := h.streams
  rw [hstreams, hdata] at hsame
  exact absurd hsame (by decide)

end VtpStreaming
