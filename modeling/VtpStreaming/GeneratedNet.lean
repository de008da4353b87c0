import VtpStreaming.PrestartEb
import VtpStreaming.RoundTrip

/-!
# The generated configuration, read by the readout list

What `vtp_read_all_from_cfg` makes of a file that `generate_vtp_config` has written.
The library reads the same file.
-/

namespace VtpStreaming

open Clib

variable {p : UserConfigParams} {net : NetParams}

/-! ## One line -/

/-- A word that is none of the keys. -/
def IsOther (key : List Char) : Prop :=
  key ≠ [] ∧ (key.all fun c => !isSpace c) = true ∧ key.length ≤ 127 ∧
    (readAllBranchOf key).isNone = true

instance (key : List Char) : Decidable (IsOther key) := inferInstanceAs (Decidable (_ ∧ _))

theorem readAllLine_other {key args : List Char} (hkey : IsOther key)
    (hnul : '\x00' ∉ key ++ ' ' :: args) : readAllLine (key ++ ' ' :: args) net = net := by
  rcases hkey with ⟨hne, hall, hlen, hnone⟩
  rw [Option.isNone_iff_eq_none] at hnone
  have hscan : scanString 127 (key ++ ' ' :: args) = some (key, ' ' :: args) :=
    scanString_word (show Clib.Blank [] from rfl) ⟨hne, solid_of_all hall⟩ rfl hlen
  unfold readAllLine
  dsimp only
  rw [cString_of_noNul hnul, hscan]
  split
  · rfl
  · dsimp only
    cases scanString 511 (' ' :: args) with
    | none => rfl
    | some val =>
      dsimp only
      rw [hnone]

/-- A comment or a blank line. -/
theorem readAllLine_skipped {line : List Char}
    (h : (cString line).head? = some '#' ∨ (cString line).head? = some '\n') :
    readAllLine line net = net := if_pos h

/-- A word that is one of the keys. -/
structure IsNetKey (key : List Char) (branch : NetBranch) : Prop where
  word : IsWord key
  noComment : key.head? ≠ some '#'
  noNul : '\x00' ∉ key
  short : key.length ≤ 127
  found : readAllBranchOf key = some branch

theorem readAllLine_value {key val : List Char} {branch : NetBranch} {n : Nat}
    (hkey : IsNetKey key branch) (hval : IsWord val) (hnul : '\x00' ∉ val) (hlen : val.length ≤ 511) :
    readAllLine (key ++ spaces (n + 1) ++ val ++ ['\n']) net = branch val net := by
  have hword : scanString 127 (key ++ (spaces (n + 1) ++ val ++ ['\n'])) =
      some (key, spaces (n + 1) ++ val ++ ['\n']) :=
    scanString_word (show Clib.Blank [] from rfl) hkey.word rfl hkey.short
  have hvalue : scanString 511 (spaces (n + 1) ++ val ++ ['\n']) = some (val, ['\n']) :=
    scanString_word (spaces_blank (n + 1)) hval rfl hlen
  have hstring : cString (key ++ spaces (n + 1) ++ val ++ ['\n']) =
      key ++ (spaces (n + 1) ++ val ++ ['\n']) := by
    rw [cString_of_noNul]
    · simp only [List.append_assoc]
    · simp [hkey.noNul, hnul, (spaces_plain (n + 1)).noNul]
  have hskip : ¬((key ++ (spaces (n + 1) ++ val ++ ['\n'])).head? = some '#' ∨
      (key ++ (spaces (n + 1) ++ val ++ ['\n'])).head? = some '\n') := by
    rcases List.exists_cons_of_ne_nil hkey.word.nonempty with ⟨c, cs, rfl⟩
    rintro (hhash | hnewline)
    · exact hkey.noComment hhash
    · have hc : c = '\n' := Option.some.inj hnewline
      exact absurd (hkey.word.solid c List.mem_cons_self) (by rw [hc]; decide)
  unfold readAllLine
  dsimp only
  rw [hstring, if_neg hskip, hword]
  dsimp only
  rw [hvalue]
  dsimp only
  rw [hkey.found]

/-- A key whose value is empty. -/
theorem readAllLine_empty {key : List Char} {branch : NetBranch} {n : Nat}
    (hkey : IsNetKey key branch) : readAllLine (key ++ spaces n ++ ['\n']) net = net := by
  have hskip : skipSpace (spaces n ++ ['\n']) = [] := by
    rw [skipSpace, List.dropWhile_eq_nil_iff]
    intro c hc
    rcases List.mem_append.mp hc with hspace | hnewline
    · rw [List.eq_of_mem_replicate hspace]
      rfl
    · rw [List.mem_singleton.mp hnewline]
      rfl
  have hstop : Stops (fun c => !isSpace c) (spaces n ++ ['\n']) := by
    cases n
    · rfl
    · rfl
  have hword : scanString 127 (key ++ (spaces n ++ ['\n'])) = some (key, spaces n ++ ['\n']) :=
    scanString_word (show Clib.Blank [] from rfl) hkey.word hstop hkey.short
  have hvalue : scanString 511 (spaces n ++ ['\n']) = none := by
    rw [scanString, hskip]
    rfl
  have hstring : cString (key ++ spaces n ++ ['\n']) = key ++ (spaces n ++ ['\n']) := by
    rw [cString_of_noNul, List.append_assoc]
    simp [hkey.noNul, (spaces_plain n).noNul]
  unfold readAllLine
  dsimp only
  rw [hstring, hword]
  split
  · rfl
  · dsimp only
    rw [hvalue]

/-! ## The lines of the file -/

/-- The words of the lines that carry a number. -/
theorem fmtD_isWord (v : Word) : IsWord (fmtD v) := by
  constructor
  · unfold fmtD
    split
    · exact List.cons_ne_nil _ _
    · exact Nat.toDigits_ne_nil
  · intro c hc
    unfold fmtD at hc
    split at hc
    · rcases List.mem_cons.mp hc with rfl | hdigit
      · rfl
      · exact isDigit_not_space (fmtNat_digits hdigit)
    · exact isDigit_not_space (fmtNat_digits hc)

/-- A line with a number that the file's reader takes. -/
theorem readAllLine_number {key : List Char} {n : Nat}
    {conv : List Char → Option (Word × List Char)}
    {ok : Word → Bool} {put : Word → NetParams → NetParams} {v : Word}
    (hkey : IsNetKey key (netNumber conv ok put)) (hconv : conv (fmtD v) = some (v, [])) :
    readAllLine (key ++ spaces (n + 1) ++ fmtD v ++ ['\n']) net = if ok v then put v net else net := by
  have hplain := fmtD_plain v
  rw [readAllLine_value hkey (fmtD_isWord v) hplain.noNul (hplain.length_le.trans (by decide)),
    netNumber, hconv]

theorem scanD_fmtD_all (v : Word) : scanD (fmtD v) = some (v, []) := by
  have h := @scanD_fmtD [] [] v rfl trivial
  rwa [List.nil_append, List.append_nil] at h

theorem scanU_fmtD_all (v : Word) : scanU (fmtD v) = some (v, []) := by
  have h := @scanU_fmtD [] [] v rfl trivial
  rwa [List.nil_append, List.append_nil] at h

/-- A line of another key, from the literal it begins with. -/
theorem readAllLine_literal {line : List Char} (text key : String) (n : Nat)
    (htext : text.toList = key.toList ++ spaces (n + 1)) (hkey : IsOther key.toList)
    (hline : text.toList <+: line) (hplain : Plain 108 line) :
    readAllLine (line ++ ['\n']) net = net := by
  rcases hline with ⟨args, rfl⟩
  have hargs : text.toList ++ args ++ ['\n'] = key.toList ++ ' ' :: (spaces n ++ args ++ ['\n']) := by
    rw [htext]
    simp only [List.append_assoc, spaces, List.replicate_succ, List.cons_append]
  have hwhole : '\x00' ∉ text.toList ++ args ++ ['\n'] := by
    rw [List.mem_append, not_or]
    exact ⟨hplain.noNul, by decide⟩
  rw [hargs] at hwhole ⊢
  exact readAllLine_other hkey hwhole

/-! ## The whole file -/

/-- What the function makes of the user's values. The last line of a parameter counts, when it
is in range. -/
def generatedNet (p : UserConfigParams) : NetParams where
  numConnections := if positive p.vtpStreamingNstreams then p.vtpStreamingNstreams else 1#32
  netMode := 1#32
  localPort := if positive p.vtpStreamingLocalport then p.vtpStreamingLocalport else 10001#32
  enableEjfat := 1#32
  emuip := vtpRocInetAddr p.vtpStreamingDestip
  emuport := p.vtpStreamingDestipport

/-- The values of the fixed lines. -/
def commonNet : NetParams := ⟨1#32, 1#32, 10001#32, 1#32, 0#32, 0#32⟩

theorem readAllLines_common :
    readAllLines (commonLines.map fun l => l ++ ['\n']) noParams = commonNet := by
  -- character by character, which is evaluated faster than the literals
  obtain ⟨ls, htext, hread⟩ : ∃ ls, commonLines = ls ∧
      readAllLines (ls.map fun l => l ++ ['\n']) noParams = commonNet := by
    apply Exists.intro
    refine ⟨?_, ?_⟩
    · unfold commonLines
      repeat' first | exact literal rfl | apply congrArg₂ List.cons | exact rfl
    · decide +kernel
  rw [htext]
  exact hread

theorem readAllLine_nstreams (v : Word) :
    readAllLine ("VTP_STREAMING_NSTREAMS    ".toList ++ fmtD v ++ ['\n']) net =
      if positive v then { net with numConnections := v } else net := by
  have hkey : IsNetKey "VTP_STREAMING_NSTREAMS".toList
      (netNumber scanD positive fun v p => { p with numConnections := v }) :=
    ⟨⟨by decide, solid_of_all rfl⟩, by decide, by decide, by decide, rfl⟩
  have htext : "VTP_STREAMING_NSTREAMS    ".toList = "VTP_STREAMING_NSTREAMS".toList ++ spaces 4 :=
    literal_spaces rfl rfl rfl
  rw [htext]
  exact readAllLine_number hkey (scanD_fmtD_all v)

theorem readAllLine_localport (v : Word) :
    readAllLine ("VTP_STREAMING_LOCALPORT   ".toList ++ fmtD v ++ ['\n']) net =
      if positive v then { net with localPort := v } else net := by
  have hkey : IsNetKey "VTP_STREAMING_LOCALPORT".toList
      (netNumber scanD positive fun v p => { p with localPort := v }) :=
    ⟨⟨by decide, solid_of_all rfl⟩, by decide, by decide, by decide, rfl⟩
  have htext : "VTP_STREAMING_LOCALPORT   ".toList = "VTP_STREAMING_LOCALPORT".toList ++ spaces 3 :=
    literal_spaces rfl rfl rfl
  rw [htext]
  exact readAllLine_number hkey (scanD_fmtD_all v)

theorem readAllLine_destipport (v : Word) :
    readAllLine ("VTP_STREAMING_DESTIPPORT  ".toList ++ fmtD v ++ ['\n']) net =
      { net with emuport := v } := by
  have hkey : IsNetKey "VTP_STREAMING_DESTIPPORT".toList
      (netNumber scanU (fun _ => true) fun v p => { p with emuport := v }) :=
    ⟨⟨by decide, solid_of_all rfl⟩, by decide, by decide, by decide, rfl⟩
  have htext : "VTP_STREAMING_DESTIPPORT  ".toList = "VTP_STREAMING_DESTIPPORT".toList ++ spaces 2 :=
    literal_spaces rfl rfl rfl
  rw [htext]
  exact readAllLine_number hkey (scanU_fmtD_all v)

/-- The destination is one word, or there is none. -/
theorem readAllLine_destip {destip : List Char} (h : DestipToken destip) (hnet : net.emuip = 0#32) :
    readAllLine ("VTP_STREAMING_DESTIP      ".toList ++ destip ++ ['\n']) net =
      { net with emuip := vtpRocInetAddr destip } := by
  have hkey : IsNetKey "VTP_STREAMING_DESTIP".toList (fun val p =>
      if vtpRocInetAddr val ≠ 0#32 then { p with emuip := vtpRocInetAddr val } else p) :=
    ⟨⟨by decide, solid_of_all rfl⟩, by decide, by decide, by decide, rfl⟩
  have htext : "VTP_STREAMING_DESTIP      ".toList = "VTP_STREAMING_DESTIP".toList ++ spaces 6 :=
    literal_spaces rfl rfl rfl
  rw [htext]
  by_cases hempty : destip = []
  · have hnone : vtpRocInetAddr [] = net.emuip := hnet.symm
    rw [hempty, List.append_nil, readAllLine_empty hkey, hnone]
  · rw [readAllLine_value hkey ⟨hempty, h.solid⟩ h.noNul (h.short.trans (by decide))]
    by_cases haddr : vtpRocInetAddr destip = 0#32
    · rw [if_neg (not_not_intro haddr), haddr, ← hnet]
    · rw [if_pos haddr]

theorem readAllLines_cons (l : List Char) (ls : List (List Char)) :
    readAllLines ((l :: ls).map fun l => l ++ ['\n']) net =
      readAllLines (ls.map fun l => l ++ ['\n']) (readAllLine (l ++ ['\n']) net) := rfl

theorem readAllLine_blank : readAllLine ([] ++ ['\n']) net = net :=
  readAllLine_skipped (Or.inr rfl)

/-- The lines of the event builder. -/
theorem readAllLines_eb (hdestip : DestipToken p.vtpStreamingDestip) :
    readAllLines ((ebLines p).map fun l => l ++ ['\n']) commonNet = generatedNet p := by
  have hmac (net : NetParams) := @readAllLine_literal net _ "VTP_STREAMING_MAC         "
    "VTP_STREAMING_MAC" 8 (literal_spaces rfl rfl rfl) (by decide)
    (by simp only [List.append_assoc, List.prefix_append]) (@stores_mac [] p.vtpStreamingMac).plain
  have hipaddr (net : NetParams) := @readAllLine_literal net _ "VTP_STREAMING_IPADDR      "
    "VTP_STREAMING_IPADDR" 5 (literal_spaces rfl rfl rfl) (by decide)
    (by simp only [List.append_assoc, List.prefix_append])
    (@stores_ipaddr [] p.vtpStreamingIpaddr).plain
  have hsubnet (net : NetParams) := @readAllLine_literal net _ "VTP_STREAMING_SUBNET      "
    "VTP_STREAMING_SUBNET" 5 (literal_spaces rfl rfl rfl) (by decide)
    (by simp only [List.append_assoc, List.prefix_append])
    (@stores_subnet [] p.vtpStreamingSubnet).plain
  have hgateway (net : NetParams) := @readAllLine_literal net _ "VTP_STREAMING_GATEWAY     "
    "VTP_STREAMING_GATEWAY" 4 (literal_spaces rfl rfl rfl) (by decide)
    (by simp only [List.append_assoc, List.prefix_append])
    (@stores_gateway [] p.vtpStreamingGateway).plain
  have hconnect (net : NetParams) := @readAllLine_literal net _ "VTP_STREAMING_CONNECT     "
    "VTP_STREAMING_CONNECT" 4 (literal_spaces rfl rfl rfl) (by decide) (List.prefix_append ..)
    (@stores_connect [] p.vtpStreamingConnect).plain
  rw [ebLines, readAllLines_cons, readAllLine_blank, readAllLines_cons, hmac, readAllLines_cons,
    readAllLine_blank, readAllLines_cons, readAllLine_nstreams, readAllLines_cons,
    readAllLine_blank, readAllLines_cons, hipaddr, readAllLines_cons, hsubnet, readAllLines_cons,
    hgateway, readAllLines_cons, readAllLine_blank, readAllLines_cons, readAllLine_destip hdestip,
    readAllLines_cons, readAllLine_destipport, readAllLines_cons, readAllLine_localport,
    readAllLines_cons, readAllLine_blank, readAllLines_cons, hconnect, readAllLines_cons,
    readAllLine_blank]
  · unfold generatedNet commonNet
    cases positive p.vtpStreamingNstreams
    · cases positive p.vtpStreamingLocalport <;> rfl
    · cases positive p.vtpStreamingLocalport <;> rfl
  · cases positive p.vtpStreamingNstreams <;> rfl

variable {enable : Fin 16 → Word} {rocname : RocName}

/-- The lines of the readout controller, and the one that names the event builder. -/
theorem readAllLines_roc :
    readAllLines ((rocLines p ++ [streamingLine p]).map fun l => l ++ ['\n']) net = net := by
  have hrocid (net : NetParams) := @readAllLine_literal net _ "VTP_STREAMING_ROCID       "
    "VTP_STREAMING_ROCID" 6 (literal_spaces rfl rfl rfl) (by decide) (List.prefix_append ..)
    (@stores_rocid [] p.vtpStreamingRocid).plain
  have hnframe (net : NetParams) := @readAllLine_literal net _ "VTP_STREAMING_NFRAME_BUF  "
    "VTP_STREAMING_NFRAME_BUF" 1 (literal_spaces rfl rfl rfl) (by decide) (List.prefix_append ..)
    (@stores_nframe_buf [] p.vtpStreamingNframeBuf).plain
  have hframelen (net : NetParams) := @readAllLine_literal net _ "VTP_STREAMING_FRAMELEN    "
    "VTP_STREAMING_FRAMELEN" 3 (literal_spaces rfl rfl rfl) (by decide) (List.prefix_append ..)
    (@stores_framelen [] p.vtpStreamingFramelen).plain
  have hstreaming (net : NetParams) : readAllLine (streamingLine p ++ ['\n']) net = net :=
    readAllLine_literal "VTP_STREAMING             " "VTP_STREAMING" 12 (literal_spaces rfl rfl rfl)
      (by decide) (List.prefix_append ..) (streamingLine_plain p)
  have hrule (net : NetParams) : readAllLine (rule ++ ['\n']) net = net :=
    readAllLine_skipped (Or.inl (by decide))
  have hcomment (net : NetParams) : readAllLine
      ("#VTP FADC Streaming event builder #0 (slots 3-10) #".toList ++ ['\n']) net = net :=
    readAllLine_skipped (Or.inl (by decide))
  rw [rocLines, List.cons_append, List.cons_append, List.cons_append, List.cons_append,
    List.cons_append, List.cons_append, List.cons_append, List.nil_append, readAllLines_cons,
    hrocid, readAllLines_cons, hnframe, readAllLines_cons, hframelen, readAllLines_cons,
    readAllLine_blank, readAllLines_cons, hrule, readAllLines_cons, hcomment, readAllLines_cons,
    hrule, readAllLines_cons, hstreaming]
  rfl

theorem readAllLines_payload (henable : IsMask enable) :
    readAllLines ([payloadLine enable, []].map fun l => l ++ ['\n']) net = net := by
  have hfirst : payloadLine enable = "VTP_PAYLOAD_EN ".toList ++ (' ' :: fmtD (enable 0) ++
      (List.finRange 16).tail.flatMap fun i => "  ".toList ++ fmtD (enable i)) := rfl
  have hline : "VTP_PAYLOAD_EN ".toList <+: payloadLine enable := by
    rw [hfirst]
    exact List.prefix_append ..
  have hpayload := @readAllLine_literal net _ "VTP_PAYLOAD_EN " "VTP_PAYLOAD_EN" 0
    (literal_spaces rfl rfl rfl) (by decide) hline (@stores_payload [] enable henable).plain
  rw [readAllLines_cons, hpayload]
  exact readAllLine_blank

/-- The crate's line, whatever the crate is called. -/
theorem readAllLine_crateLine :
    readAllLine (crateLine rocname.name ++ ['\n']) net = net :=
  readAllLine_literal "VTP_CRATE " "VTP_CRATE" 0 (literal_spaces rfl rfl rfl) (by decide)
    ((List.prefix_append _ _).trans (List.prefix_append _ _))
    ((crateLine_plain rocname).mono (by decide))

/-- The lines of a generated file fit any buffer. -/
theorem vtpConfigLines_plain (henable : IsMask enable)
    (hdestip : DestipToken p.vtpStreamingDestip) :
    ∀ l ∈ vtpConfigLines rocname.name enable p, Plain 108 l := by
  have hcommon := (@commonLines_store []).append
    (.store (stores_payload henable) (.blank (rocLines_store (p := p))))
  have heb := @ebLines_store [] p hdestip
  intro l hl
  rw [vtpConfigLines, List.mem_append, List.mem_cons, List.mem_cons] at hl
  rcases hl with (rfl | hl) | rfl | hl
  · exact (crateLine_plain rocname).mono (by decide)
  · exact hcommon.plain l hl
  · exact streamingLine_plain p
  · exact heb.plain l hl

theorem readAllLines_append (ls ms : List (List Char)) :
    readAllLines ((ls ++ ms).map fun l => l ++ ['\n']) net =
      readAllLines (ms.map fun l => l ++ ['\n'])
        (readAllLines (ls.map fun l => l ++ ['\n']) net) := by
  rw [readAllLines, List.map_append, List.foldl_append]
  rfl

/-- The whole file. -/
theorem vtpReadAllFromCfg_generated {files : List Char → Option (List Char)} {path : List Char}
    (henable : IsMask enable) (hdestip : DestipToken p.vtpStreamingDestip)
    (hfile : files path = some (generatedText rocname.name enable p)) :
    vtpReadAllFromCfg files (some path) noParams = generatedNet p := by
  have hfits : ∀ l ∈ vtpConfigLines rocname.name enable p, '\n' ∉ l ∧ l.length + 1 ≤ 1023 := by
    intro l hl
    have hplain := vtpConfigLines_plain henable hdestip l hl
    exact ⟨hplain.noNewline, by have hlen := hplain.length_le; omega⟩
  have hlines : vtpConfigLines rocname.name enable p = [crateLine rocname.name] ++ (commonLines ++
      ([payloadLine enable, []] ++ ((rocLines p ++ [streamingLine p]) ++ ebLines p))) := by
    simp only [vtpConfigLines, List.append_assoc, List.cons_append, List.nil_append]
  rw [vtpReadAllFromCfg, Option.bind_some, hfile]
  dsimp only
  rw [generatedText, fgetsLines_lines hfits, hlines, readAllLines_append, readAllLines_append,
    readAllLines_append, readAllLines_append]
  have hcrate : readAllLines ([crateLine rocname.name].map fun l => l ++ ['\n']) noParams =
      noParams := by
    rw [readAllLines_cons, readAllLine_crateLine]
    rfl
  rw [hcrate, readAllLines_common, readAllLines_payload henable, readAllLines_roc,
    readAllLines_eb hdestip]

/-- The file always has all that prestart asks for. -/
theorem generatedNet_valid (p : UserConfigParams) : (generatedNet p).valid = true := by
  have hpositive : ∀ v d : Word, d ≠ 0#32 → (if positive v then v else d) ≠ 0#32 := by
    intro v d hd
    split
    · next h =>
      rintro rfl
      exact absurd h (by decide)
    · exact hd
  have hstreams := hpositive p.vtpStreamingNstreams 1#32 (by decide)
  have hport := hpositive p.vtpStreamingLocalport 10001#32 (by decide)
  simp only [NetParams.valid, generatedNet, Bool.and_eq_true, Bool.or_eq_true]
  exact ⟨⟨decide_eq_true hstreams, decide_eq_true hport⟩, Or.inr rfl⟩

/-! ## Prestart -/

/-- The VTP of the crate, where the generated file is found. -/
structure OnVtp (env : RocEnv) (rocname : RocName) (path text : List Char) : Prop where
  host : env.config.host = rocname.vtpHost
  found : vtpGetGeneratedConfigPath env.codaConfig env.config.hostname 512 = some path
  opens : Opens env.config path text
  content : env.config.files path = some text

/-- A prestart with a generated file runs to its end, whichever event builder the file names. -/
theorem rocPrestart_generated {env : RocEnv} {path : List Char} {lib : VtpLib} {r : Regs}
    {s : RocState} (hdestip : DestipToken p.vtpStreamingDestip) (henable : IsMask enable)
    (hvtp : OnVtp env rocname path (generatedText rocname.name enable p))
    (hboard : env.vtpInit s.regs = some (lib, r)) :
    ∃ code conf, vtpReadConfigFile env.config env.configStack path (vtpInitGlobals s.conf) =
        .returned code conf ∧
      conf.payloadEn = mskWord 16 enable ∧ conf.streaming.payloadEnArray = enable ∧
      (∀ e : Fin 2, p.vtpStreaming.toInt = e.val →
        conf = generatedConf enable p e (vtpInitGlobals s.conf)) ∧
      rocPrestart env s = .done (prestartBoard env lib (generatedNet p)
        { s with
          conf := (vtpDownloadAll lib env.fpu conf env.uploadStack r).1
          regs := (vtpDownloadAll lib env.fpu conf env.uploadStack r).2 }) := by
  have hparams := vtpReadAllFromCfg_generated henable hdestip hvtp.content
  have hread := vtpReadConfigFile_opens hvtp.opens env.configStack (vtpInitGlobals s.conf)
  rw [hvtp.host] at hread
  have hvalid : (vtpReadAllFromCfg env.config.files (some path) noParams).valid = true := by
    rw [hparams]
    exact generatedNet_valid p
  rw [← hparams]
  by_cases hindex : 0 ≤ p.vtpStreaming.toInt ∧ p.vtpStreaming.toInt ≤ 1
  · have he : ∃ e : Fin 2, p.vtpStreaming.toInt = e.val :=
      ⟨⟨p.vtpStreaming.toInt.toNat, by omega⟩, by dsimp only; omega⟩
    rcases he with ⟨e, he⟩
    rw [readConfigText_generated _ _ henable hdestip he] at hread
    refine ⟨_, _, hread, rfl, rfl, ?_, rocPrestart_eq hboard hvtp.found hvtp.content hread hvalid⟩
    intro e' he'
    have hsame : e' = e := Fin.ext (by omega)
    rw [hsame]
  · rw [readConfigText_generated_index _ _ henable hindex] at hread
    refine ⟨_, _, hread, rfl, rfl, ?_, rocPrestart_eq hboard hvtp.found hvtp.content hread hvalid⟩
    intro e he
    have hlt := e.isLt
    omega

end VtpStreaming
