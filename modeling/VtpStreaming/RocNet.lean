import VtpStreaming.Clib.Latest
import VtpStreaming.NetFile
import VtpStreaming.StreamingReadBack

/-!
# The network of the readout controller

`vtp/vtpRocLib.c`, `vtpRocSetTcpCfg`, `vtpRocSetTcpCfg2` and `vtpRocGetTcpCfg`. What the
network file on the card says is what the first interface is programmed with, as if the
caller had given the bytes.
-/

namespace VtpStreaming

open Clib

/-! ## The interface -/

/-- What `vtpRocGetTcpCfg` stores through its pointers. -/
structure RocTcpBytes where
  ipaddr : Fin 4 → Byte
  subnet : Fin 4 → Byte
  gateway : Fin 4 → Byte
  mac : Fin 6 → Byte
  destipaddr : Fin 4 → Byte
  destipport : BitVec 16

namespace VtpLib

variable (lib : VtpLib)

/-- The checks that both setters make, and their words for the destination. -/
def rocTcp (inst : Fin 4) (destipaddr destipport : Word)
    (addresses : TcpipClientRegs → TcpipClientRegs) (r : Regs) : Int × Regs :=
  if !lib.ready zyncFwTypeZcodaroc 1 then (error, r)
  else if 0xffff < destipport.toNat then (error, r)
  else
    (ok, setTcpClient inst (fun t =>
      { addresses t with
        tcpDestAddr := destipaddr
        tcpPort := (10001#32 <<< 16) ||| destipport }) r)

def vtpRocSetTcpCfg (ipaddr subnet gateway : Fin 4 → Byte) (mac : Fin 6 → Byte)
    (destipaddr destipport : Word) (r : Regs) : Int × Regs :=
  lib.rocTcp 0 destipaddr destipport (tcpAddresses ipaddr subnet gateway mac) r

def vtpRocSetTcpCfg2 (net : VtpNetOut) (inst : Fin 4) (destipaddr destipport : Word)
    (r : Regs) : Int × Regs :=
  lib.rocTcp inst destipaddr destipport
    (fun t =>
      { t with
        ip4StateRequest := 0#32
        ip4Addr := net.ip inst
        ip4SubnetMask := net.sm inst
        ip4GatewayAddr := net.gw inst
        macAddr := ![net.mac 1 inst, net.mac 0 inst] }) r

def vtpRocGetTcpCfg (r : Regs) : Option RocTcpBytes :=
  if lib.ready zyncFwTypeZcodaroc 1 then
    let t := r.tcpClient 0
    some
      { ipaddr := ipBytes t.ip4Addr
        subnet := ipBytes t.ip4SubnetMask
        gateway := ipBytes t.ip4GatewayAddr
        mac := macBytes t.macAddr
        destipaddr := ipBytes t.tcpDestAddr
        destipport := t.tcpPort.setWidth 16 }
  else none

end VtpLib

/-! ## The file -/

/-- A line of the file. -/
inductive NetSetting
  | ipaddr (q : Fin 4 → Byte)
  | gateway (q : Fin 4 → Byte)
  | subnet (q : Fin 4 → Byte)
  | mac (m : Fin 6 → Byte)

/-- `XX:XX:XX:XX:XX:XX`. -/
def macText (m : Fin 6 → Byte) : List Char :=
  fmt02X (m 0) ++ ':' :: (fmt02X (m 1) ++ ':' :: (fmt02X (m 2) ++ ':' :: (fmt02X (m 3) ++
    ':' :: (fmt02X (m 4) ++ ':' :: fmt02X (m 5)))))

namespace NetSetting

def key : NetSetting → String
  | .ipaddr _ => "ipaddr1"
  | .gateway _ => "gateway1"
  | .subnet _ => "subnet1"
  | .mac _ => "mac1"

def value : NetSetting → List Char
  | .ipaddr q | .gateway q | .subnet q => dottedQuad q
  | .mac m => macText m

def line (s : NetSetting) : List Char := s.key.toList ++ spaces 1 ++ s.value

/-- `inet_addr` cannot tell the address of all ones from an error. -/
def quad (q : Fin 4 → Byte) : Fin 4 → Byte :=
  if ipWord q = 0xffffffff#32 then noAddress else q

def setsIpaddr : NetSetting → Option (Fin 4 → Byte)
  | .ipaddr q => some (quad q)
  | _ => none

def setsGateway : NetSetting → Option (Fin 4 → Byte)
  | .gateway q => some (quad q)
  | _ => none

def setsSubnet : NetSetting → Option (Fin 4 → Byte)
  | .subnet q => some (quad q)
  | _ => none

def setsMac : NetSetting → Option (Fin 6 → Byte)
  | .mac m => some m
  | _ => none

end NetSetting

/-- A setting on each line, behind one blank: the numbers in plain decimal, two upper-case
digits for each byte of the MAC. -/
def netText (ss : List NetSetting) : List Char := ss.flatMap fun s => s.line ++ ['\n']

/-! ## The values -/

theorem fmt02X_chars (b : Byte) :
    (fmt02X b).length = 2 ∧ ∀ c ∈ fmt02X b, isSpace c = false ∧ c ≠ ':' ∧ c ≠ '\x00' := by
  have hall : ∀ n : Fin 256, ((fmt02X (BitVec.ofFin n)).all fun c =>
      !isSpace c && c != ':' && c != '\x00') = true := by decide +kernel
  refine ⟨rfl, fun c hc => ?_⟩
  have h := List.all_eq_true.mp (hall b.toFin) c hc
  simpa [and_assoc] using h

theorem strtolHex_fmt02X (b : Byte) : strtolHex (fmt02X b) = b.setWidth 32 := by
  have hall : ∀ n : Fin 256, strtolHex (fmt02X (BitVec.ofFin n)) =
      (BitVec.ofFin n : Byte).setWidth 32 := by decide +kernel
  exact hall b.toFin

/-- A token, and the rest behind the colon. -/
theorem strtok_token {w : List Char} (hne : w ≠ []) (hw : ∀ c ∈ w, c ≠ ':') (rest : List Char) :
    strtok (w ++ ':' :: rest) = some (w, rest) ∧ strtok w = some (w, []) := by
  have hfirst : ∀ t : List Char, (w ++ t).dropWhile (fun c => decide (c = ':')) = w ++ t := by
    intro t
    obtain ⟨c, cs, rfl⟩ := List.exists_cons_of_ne_nil hne
    exact List.dropWhile_cons_of_neg (by simpa using hw c List.mem_cons_self)
  have htoken : ∀ c ∈ w, decide (c ≠ ':') = true := fun c hc => decide_eq_true (hw c hc)
  constructor
  · rw [strtok, hfirst]
    rw [List.takeWhile_append_of_pos htoken, List.takeWhile_cons_of_neg (by simp),
      List.append_nil, if_neg hne]
    simp
  · have hself := hfirst []
    rw [List.append_nil] at hself
    rw [strtok, hself]
    rw [List.takeWhile_eq_self_iff.mpr htoken, if_neg hne]
    simp

theorem vtpRocMacAddr_macText (m : Fin 6 → Byte) :
    vtpRocMacAddr (macText m) = some (macWords m 1, macWords m 0) := by
  have htok : ∀ (b : Byte) (rest : List Char),
      strtok (fmt02X b ++ ':' :: rest) = some (fmt02X b, rest) ∧
        strtok (fmt02X b) = some (fmt02X b, []) :=
    fun b rest =>
      strtok_token (List.cons_ne_nil _ _) (fun c hc => ((fmt02X_chars b).2 c hc).2.1) rest
  have htokens : macTokens 6 (macText m) = some [(m 0).setWidth 32, (m 1).setWidth 32,
      (m 2).setWidth 32, (m 3).setWidth 32, (m 4).setWidth 32, (m 5).setWidth 32] := by
    simp only [macTokens, macText, (htok _ _).1, (htok (m 5) []).2, strtolHex_fmt02X,
      Option.map_some]
  rw [vtpRocMacAddr, htokens]
  rfl

theorem vtpRocInetAddr_quad (q : Fin 4 → Byte) :
    vtpRocInetAddr (dottedQuad q) = ipWord (NetSetting.quad q) := by
  rw [vtpRocInetAddr, inetAton_dottedQuad, NetSetting.quad]
  dsimp only
  rw [show quadWord q = ipWord q from rfl]
  split
  · rfl
  · rfl

/-- Two parts and what stands between them. -/
theorem forall_joined {P : Char → Prop} {a b : List Char} {sep : Char} (ha : ∀ c ∈ a, P c)
    (hsep : P sep) (hb : ∀ c ∈ b, P c) : ∀ c ∈ a ++ sep :: b, P c := by
  intro c hc
  obtain hc | hc := List.mem_append.mp hc
  · exact ha c hc
  · obtain rfl | hc := List.mem_cons.mp hc
    · exact hsep
    · exact hb c hc

theorem dottedQuad_chars (q : Fin 4 → Byte) :
    (dottedQuad q).length ≤ 15 ∧ ∀ c ∈ dottedQuad q, c.isDigit = true ∨ c = '.' := by
  have hall : ∀ n : Fin 256, (fmtNat n).length ≤ 3 ∧ (fmtNat n).all Char.isDigit = true := by
    decide +kernel
  have hlen : ∀ b : Byte, (fmtNat b.toNat).length ≤ 3 := fun b => (hall b.toFin).1
  have hdigits : ∀ b : Byte, ∀ c ∈ fmtNat b.toNat, c.isDigit = true ∨ c = '.' :=
    fun b c hc => .inl (List.all_eq_true.mp (hall b.toFin).2 c hc)
  constructor
  · have h0 := hlen (q 0)
    have h1 := hlen (q 1)
    have h2 := hlen (q 2)
    have h3 := hlen (q 3)
    simp only [dottedQuad, List.length_append, List.length_cons]
    omega
  · exact forall_joined (hdigits _) (.inr rfl) (forall_joined (hdigits _) (.inr rfl)
      (forall_joined (hdigits _) (.inr rfl) (hdigits _)))

theorem macText_chars (m : Fin 6 → Byte) :
    (macText m).length = 17 ∧ ∀ c ∈ macText m, isSpace c = false ∧ c ≠ '\x00' := by
  have hbyte : ∀ b : Byte, ∀ c ∈ fmt02X b, isSpace c = false ∧ c ≠ '\x00' :=
    fun b c hc => ⟨((fmt02X_chars b).2 c hc).1, ((fmt02X_chars b).2 c hc).2.2⟩
  have hcolon : isSpace ':' = false ∧ ':' ≠ '\x00' := by decide
  refine ⟨rfl, ?_⟩
  exact forall_joined (hbyte _) hcolon (forall_joined (hbyte _) hcolon
    (forall_joined (hbyte _) hcolon (forall_joined (hbyte _) hcolon
      (forall_joined (hbyte _) hcolon (hbyte _)))))

namespace NetSetting

theorem value_chars (s : NetSetting) :
    s.value ≠ [] ∧ s.value.length ≤ 17 ∧ ∀ c ∈ s.value, isSpace c = false ∧ c ≠ '\x00' := by
  have hdigit : ∀ c : Char, c.isDigit = true ∨ c = '.' → isSpace c = false ∧ c ≠ '\x00' := by
    rintro c (hc | rfl)
    · have hsolid : isSpace c ≠ true := by
        intro hspace
        rw [isSpace_not_digit hspace] at hc
        cases hc
      refine ⟨Bool.eq_false_iff.mpr hsolid, ?_⟩
      rintro rfl
      exact absurd hc (by decide)
    · decide
  have hquad : ∀ q : Fin 4 → Byte, dottedQuad q ≠ [] ∧ (dottedQuad q).length ≤ 17 ∧
      ∀ c ∈ dottedQuad q, isSpace c = false ∧ c ≠ '\x00' := by
    intro q
    obtain ⟨hlen, hchars⟩ := dottedQuad_chars q
    exact ⟨by simp [dottedQuad], Nat.le_trans hlen (by decide), fun c hc => hdigit c (hchars c hc)⟩
  cases s with
  | ipaddr q | gateway q | subnet q => exact hquad q
  | mac m =>
    obtain ⟨hlen, hchars⟩ := macText_chars m
    exact ⟨List.cons_ne_nil _ _, hlen.le, hchars⟩

theorem key_chars (s : NetSetting) :
    IsWord s.key.toList ∧ Plain 10 s.key.toList ∧
      ∃ c cs, s.key.toList = c :: cs ∧ isSkip c = false ∧ c ≠ '\n' := by
  cases s with
  | ipaddr q | gateway q | subnet q | mac m =>
    rw [key, literal rfl]
    exact ⟨⟨List.cons_ne_nil _ _, solid_of_all rfl⟩, ⟨by decide, by decide, by decide⟩,
      _, _, rfl, rfl, by decide⟩

theorem value_word (s : NetSetting) : IsWord s.value :=
  ⟨s.value_chars.1, fun c hc => (s.value_chars.2.2 c hc).1⟩

theorem value_plain (s : NetSetting) : Plain 17 s.value where
  length_le := s.value_chars.2.1
  noNewline h := absurd (s.value_chars.2.2 _ h).1 (by decide)
  noNul h := (s.value_chars.2.2 _ h).2 rfl

theorem line_plain (s : NetSetting) : Plain 28 s.line :=
  (s.key_chars.2.1.append (spaces_plain 1)).append s.value_plain

/-- The two words of a line. -/
theorem netWords_line (s : NetSetting) (st : NetState) :
    netWords (cString (s.line ++ ['\n'])) st =
      { st with keyword := s.key.toList, value := s.value } := by
  have hnul : '\x00' ∉ s.line ++ ['\n'] := by
    rw [List.mem_append, not_or]
    exact ⟨s.line_plain.noNul, by decide⟩
  have hkey : scanWord (s.line ++ ['\n']) = some (s.key.toList, spaces 1 ++ s.value ++ ['\n']) := by
    rw [line, List.append_assoc, List.append_assoc]
    exact scanWord_word (show Clib.Blank [] from rfl) s.key_chars.1 rfl
  have hvalue : scanWord (spaces 1 ++ s.value ++ ['\n']) = some (s.value, ['\n']) :=
    scanWord_word (spaces_blank 1) s.value_word rfl
  rw [cString_of_noNul hnul, netWords, hkey]
  dsimp only
  rw [hvalue]

end NetSetting

/-! ## The file -/

/-- `VTP_NET_OUT` has these bytes for the first interface. -/
structure NetShows (ipaddr subnet gateway : Fin 4 → Byte) (mac : Fin 6 → Byte)
    (out : VtpNetOut) : Prop where
  ip : out.ip 0 = ipWord ipaddr
  sm : out.sm 0 = ipWord subnet
  gw : out.gw 0 = ipWord gateway
  mac0 : out.mac 0 0 = macWords mac 1
  mac1 : out.mac 1 0 = macWords mac 0

section File

variable {ipaddr subnet gateway : Fin 4 → Byte} {mac : Fin 6 → Byte}

theorem readNetLine_setting (s : NetSetting) {st : NetState}
    (h : NetShows ipaddr subnet gateway mac st.out) :
    ∃ st', readNetLine (s.line ++ ['\n']) st = .next st' ∧
      NetShows (s.setsIpaddr.getD ipaddr) (s.setsSubnet.getD subnet)
        (s.setsGateway.getD gateway) (s.setsMac.getD mac) st'.out := by
  have hfit : (!netWordsFit { st with keyword := s.key.toList, value := s.value }) = false := by
    have hkey := s.key_chars.2.1.length_le
    have hvalue := s.value_plain.length_le
    rw [netWordsFit, Bool.not_eq_false', Bool.and_eq_true, decide_eq_true_eq, decide_eq_true_eq]
    exact ⟨Nat.lt_of_le_of_lt hkey (by decide), Nat.lt_of_le_of_lt hvalue (by decide)⟩
  have hquad : ∀ (f : Fin 4 → Word) (q : Fin 4 → Byte),
      Function.update f 0 (vtpRocInetAddr (dottedQuad q)) 0 = ipWord (NetSetting.quad q) :=
    fun f q => (Function.update_self ..).trans (vtpRocInetAddr_quad q)
  have hmac : ∀ (f : Fin 4 → Word) (w : Word), Function.update f 0 w 0 = w :=
    fun f w => Function.update_self ..
  have hother : ∀ {a b : String} {k : List Char}, a.toList = k → a ≠ b → k ≠ b.toList :=
    fun hk hne h => hne (String.toList_inj.mp (hk.trans h))
  rw [readNetLine, s.netWords_line]
  dsimp only
  rw [hfit, if_neg Bool.false_ne_true]
  generalize hk : s.key.toList = k
  generalize hv : s.value = v
  cases s with
  | ipaddr q =>
    have hkey : "ipaddr1".toList = k := hk
    rw [if_pos hkey.symm, ← hv]
    exact ⟨_, rfl, { h with ip := hquad st.out.ip q }⟩
  | gateway q =>
    have hkey : "gateway1".toList = k := hk
    rw [if_neg (hother hkey (by decide)), if_pos hkey.symm, ← hv]
    exact ⟨_, rfl, { h with gw := hquad st.out.gw q }⟩
  | subnet q =>
    have hkey : "subnet1".toList = k := hk
    rw [if_neg (hother hkey (by decide)), if_neg (hother hkey (by decide)), if_pos hkey.symm, ← hv]
    exact ⟨_, rfl, { h with sm := hquad st.out.sm q }⟩
  | mac m =>
    have hkey : "mac1".toList = k := hk
    have haddr : vtpRocMacAddr v = some (macWords m 1, macWords m 0) := by
      rw [← hv]
      exact vtpRocMacAddr_macText m
    rw [if_neg (hother hkey (by decide)), if_neg (hother hkey (by decide)),
      if_neg (hother hkey (by decide)), if_pos hkey.symm, haddr]
    exact ⟨_, rfl, { h with mac0 := hmac (st.out.mac 0) _, mac1 := hmac (st.out.mac 1) _ }⟩

theorem skipPieces_settings (ss : List NetSetting) :
    skipPieces 256 .fresh (netText ss) = ss.map fun s => .line (s.line ++ ['\n']) := by
  induction ss with
  | nil => rfl
  | cons s ss ih =>
    obtain ⟨-, -, c, cs, hkey, hskip, hnewline⟩ := s.key_chars
    have hline : s.line = c :: (cs ++ spaces 1 ++ s.value) := by
      rw [NetSetting.line, hkey]
      rfl
    have hplain := s.line_plain
    have hrest : '\n' ∉ cs ++ spaces 1 ++ s.value :=
      fun h => hplain.noNewline (hline ▸ List.mem_cons_of_mem c h)
    have hlen : [c].length + (cs ++ spaces 1 ++ s.value).length + 1 < 256 := by
      have hle := hplain.length_le
      rw [hline, List.length_cons] at hle
      rw [List.length_singleton]
      omega
    rw [netText, List.flatMap_cons, List.append_assoc, List.singleton_append, List.map_cons, hline,
      List.cons_append, skipPieces, hskip, if_neg Bool.false_ne_true, if_neg hnewline,
      skipPieces_line hrest hlen, ← netText, ih]
    rfl

theorem readNetPieces_settings (ss : List NetSetting) {st : NetState}
    (h : NetShows ipaddr subnet gateway mac st.out) :
    ∃ out, readNetPieces (ss.map fun s => .line (s.line ++ ['\n'])) st = .returned 0 out ∧
      NetShows (latest NetSetting.setsIpaddr ipaddr ss) (latest NetSetting.setsSubnet subnet ss)
        (latest NetSetting.setsGateway gateway ss) (latest NetSetting.setsMac mac ss) out := by
  induction ss generalizing st ipaddr subnet gateway mac with
  | nil => exact ⟨st.out, rfl, h⟩
  | cons s ss ih =>
    obtain ⟨st', hline, hshows⟩ := readNetLine_setting s h
    obtain ⟨out, hread, hout⟩ := ih hshows
    refine ⟨out, ?_, ?_⟩
    · rw [List.map_cons, readNetPieces, hline]
      exact hread
    · rw [latest_cons, latest_cons, latest_cons, latest_cons]
      exact hout

end File

/-- A fresh process reads the file and programs the interface with what it has read: this is
as if the caller had given the bytes that the file says last, and they are read back. -/
theorem net_file_programs {lib : VtpLib} (hready : lib.ready zyncFwTypeZcodaroc 1 = true)
    {env : ConfigEnv} {netname : List Char} (hname : netname.length < 128)
    {ss : List NetSetting} (hfile : env.files netname = some (netText ss))
    (keyword value : List Char) (destipaddr : Fin 4 → Byte) (destipport : BitVec 16) (r : Regs) :
    ∃ out, vtpRocReadNetFile env (some netname) keyword value noNetOut = .returned 0 out ∧
      lib.vtpRocSetTcpCfg2 out 0 (ipWord destipaddr) (destipport.setWidth 32) r =
        lib.vtpRocSetTcpCfg (latest NetSetting.setsIpaddr noAddress ss)
          (latest NetSetting.setsSubnet noAddress ss) (latest NetSetting.setsGateway noAddress ss)
          (latest NetSetting.setsMac (fun _ => 0#8) ss)
          (ipWord destipaddr) (destipport.setWidth 32) r ∧
      lib.vtpRocGetTcpCfg
          (lib.vtpRocSetTcpCfg2 out 0 (ipWord destipaddr) (destipport.setWidth 32) r).2 =
        some
          { ipaddr := latest NetSetting.setsIpaddr noAddress ss
            subnet := latest NetSetting.setsSubnet noAddress ss
            gateway := latest NetSetting.setsGateway noAddress ss
            mac := latest NetSetting.setsMac (fun _ => 0#8) ss
            destipaddr := destipaddr
            destipport := destipport } := by
  have hfresh : NetShows noAddress noAddress noAddress (fun _ => 0#8)
      (NetState.mk keyword value noNetOut).out :=
    ⟨rfl, rfl, rfl, rfl, rfl⟩
  obtain ⟨out, hread, hout⟩ := readNetPieces_settings ss hfresh
  have hset : lib.vtpRocSetTcpCfg2 out 0 (ipWord destipaddr) (destipport.setWidth 32) r =
      lib.vtpRocSetTcpCfg (latest NetSetting.setsIpaddr noAddress ss)
        (latest NetSetting.setsSubnet noAddress ss) (latest NetSetting.setsGateway noAddress ss)
        (latest NetSetting.setsMac (fun _ => 0#8) ss)
        (ipWord destipaddr) (destipport.setWidth 32) r := by
    rw [VtpLib.vtpRocSetTcpCfg2, hout.ip, hout.sm, hout.gw, hout.mac0, hout.mac1]
    rfl
  refine ⟨out, ?_, hset, ?_⟩
  · rw [vtpRocReadNetFile, Option.getD_some, if_neg (Nat.not_le.mpr hname), hfile]
    dsimp only
    rw [skipPieces_settings]
    exact hread
  · have hport : ¬0xffff < (destipport.setWidth 32).toNat := by
      rw [BitVec.toNat_setWidth]
      omega
    have hguard : ¬(!lib.ready zyncFwTypeZcodaroc 1) = true := by
      rw [hready]
      decide
    rw [hset, VtpLib.vtpRocSetTcpCfg, VtpLib.rocTcp, if_neg hguard, if_neg hport,
      VtpLib.vtpRocGetTcpCfg, if_pos hready]
    have hlower : ((10001#32 <<< 16) ||| destipport.setWidth 32).setWidth 16 = destipport :=
      portWord_lower 10001#16 destipport
    simp only [setTcpClient_self, VtpLib.tcpAddresses, ipBytes_ipWord, macBytes_macWords, hlower]

/-- The addresses that `vtpRocTCPInit` has built in. -/
def cardSettings : List NetSetting :=
  [.ipaddr ![129#8, 57#8, 109#8, 28#8], .subnet ![255#8, 255#8, 255#8, 0#8],
    .gateway ![129#8, 57#8, 109#8, 1#8], .mac ![0xce#8, 0xba#8, 0xf0#8, 0x03#8, 0x00#8, 0xda#8]]

def cardLib : VtpLib := ⟨true, fun _ => zyncFwTypeZcodaroc⟩

theorem net_file_programs_card :
    ∃ out, vtpRocReadNetFile (hostOf (netText cardSettings)) (some "/cnf".toList) [] [] noNetOut =
        .returned 0 out ∧
      cardLib.vtpRocGetTcpCfg (cardLib.vtpRocSetTcpCfg2 out 0 (ipWord ![129#8, 57#8, 177#8, 25#8])
          ((46000#16).setWidth 32) default).2 =
        some
          { ipaddr := ![129#8, 57#8, 109#8, 28#8]
            subnet := ![255#8, 255#8, 255#8, 0#8]
            gateway := ![129#8, 57#8, 109#8, 1#8]
            mac := ![0xce#8, 0xba#8, 0xf0#8, 0x03#8, 0x00#8, 0xda#8]
            destipaddr := ![129#8, 57#8, 177#8, 25#8]
            destipport := 46000#16 } := by
  have hready : cardLib.ready zyncFwTypeZcodaroc 1 = true := rfl
  have hfile : (hostOf (netText cardSettings)).files "/cnf".toList =
      some (netText cardSettings) :=
    (hostOf_opens (netText cardSettings)).content
  obtain ⟨out, hread, -, hget⟩ := net_file_programs hready (by decide) hfile [] []
    ![129#8, 57#8, 177#8, 25#8] 46000#16 default
  exact ⟨out, hread, hget⟩

end VtpStreaming
