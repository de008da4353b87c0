import VtpStreaming.ConfigFrame
import VtpStreaming.ConfigLines
import VtpStreaming.ReadAll
import VtpStreaming.RoundTrip

/-!
# Two readers of one file

`vtpReadConfigFile` and `vtp_read_all_from_cfg` both take the network parameters
from the generated file. They hold the same value of a parameter when the last
line about it is one that both of them accept.
-/

namespace VtpStreaming

open Clib

/-! ## The parameters -/

/-- What both readers take from the file, the destination's address apart. -/
inductive SharedParam
  | numConnections
  | netMode
  | enableEjfat
  | localPort
  | destPort
deriving DecidableEq

namespace SharedParam

def keyword : SharedParam → String
  | numConnections => "VTP_NUM_CONNECTIONS"
  | netMode => "VTP_NET_MODE"
  | enableEjfat => "VTP_ENABLE_EJFAT"
  | localPort => "VTP_LOCAL_PORT"
  | destPort => "VTP_STREAMING_DESTIPPORT"

/-- The keywords that `vtp_read_all_from_cfg` takes for it. -/
def aliases : SharedParam → List String
  | numConnections => ["VTP_NUM_CONNECTIONS", "VTP_STREAMING_NSTREAMS"]
  | netMode => ["VTP_NET_MODE"]
  | enableEjfat => ["VTP_ENABLE_EJFAT"]
  | localPort => ["VTP_LOCAL_PORT", "VTP_STREAMING_LOCALPORT"]
  | destPort => ["VTP_STREAMING_DESTIPPORT"]

/-- The values that `vtpReadConfigFile` stores as they are. -/
def Accepts : SharedParam → Int → Prop
  | numConnections, v => 1 ≤ v ∧ v ≤ 4
  | netMode, v => v = 0 ∨ v = 1
  | enableEjfat, v => v = 0 ∨ v = 1
  | localPort, v => 0 < v ∧ v < 65536
  | destPort, v => 0 ≤ v ∧ v < 65536

def ofNet : SharedParam → NetParams → Word
  | numConnections, p => p.numConnections
  | netMode, p => p.netMode
  | enableEjfat, p => p.enableEjfat
  | localPort, p => p.localPort
  | destPort, p => p.emuport

/-- The destination's port is one of the event builder `e`. -/
def ofConf : SharedParam → Fin 2 → VtpConf → Word
  | numConnections, _, c => c.streaming.numConnections
  | netMode, _, c => c.streaming.netMode
  | enableEjfat, _, c => c.streaming.enableEjfat
  | localPort, _, c => c.streaming.localPort
  | destPort, e, c => (c.fadcStreaming.eb e).destipport.setWidth 32

end SharedParam

/-! ## The parser's side -/

section Parser

variable {x : SharedParam} {e : Fin 2}

theorem keeps_onEb {α : Type} {g : StreamingEbCfg → α}
    {conv : List Char → Option (Word × List Char)}
    {n : Nat} {store : (Nat → Word) → StreamingEbCfg → StreamingEbCfg}
    (h : ∀ a eb, g (store a eb) = g eb) :
    Keeps (fun c : FadcStreamingConf => g (c.eb e)) (onEb conv n store) := by
  intro line s t hrun
  cases hrun
  dsimp only
  by_cases he : e = s.2.streamingEb
  · subst he
    rw [Function.update_self]
    exact h _ _
  · rw [Function.update_of_ne he]

theorem commonKeys_keep : ∀ key ∈ commonKeys, Keeps (x.ofConf e) key.2 := by
  have hpayload : Keeps (x.ofConf e) vtpPayloadEn := by
    intro line s t hrun
    unfold vtpPayloadEn at hrun
    dsimp only at hrun
    split at hrun
    · cases hrun
    · cases hrun
      cases x
      all_goals rfl
  have hfiber : Keeps (x.ofConf e) vtpFiberEn := by
    intro line s t hrun
    unfold vtpFiberEn at hrun
    dsimp only at hrun
    split at hrun
    · cases hrun
    · cases hrun
      cases x
      all_goals rfl
  have hrefclk : Keeps (x.ofConf e) vtpRefclk := by
    intro line s t hrun
    cases hrun
    cases x
    all_goals rfl
  simp only [commonKeys, List.forall_mem_cons]
  refine ⟨keeps_ints ?_ 1, keeps_ints ?_ 1, keeps_text ?_, keeps_text ?_, hrefclk, hpayload, hfiber,
    by simp⟩
  all_goals
    intro _ _
    cases x
    all_goals rfl

/-- A parameter of the network streaming is set by no other part. -/
theorem streaming_keep (g : StreamingConf → Word) (hx : x.ofConf e = fun c => g c.streaming)
    (h : ∀ key ∈ streamingKeys, Keeps g key.2 ∨ key.1 = x.keyword) :
    ∀ key ∈ networkKeys, Keeps (x.ofConf e) key.2 ∨ key.1 = x.keyword := by
  have hfadc : ∀ key ∈ onPart (·.fadcStreaming) (fun c v => { c with fadcStreaming := v })
      fadcStreamingKeys, Keeps (fun c : VtpConf => g c.streaming) key.2 := by
    apply onPart_keeps
    exact fun _ _ => rfl
  simp only [networkKeys, List.forall_mem_append]
  refine ⟨⟨fun key hkey => .inl (commonKeys_keep key hkey), ?_⟩, ?_⟩
  · rw [hx]
    exact onPart_keeps_same h fun _ _ => rfl
  · rw [hx]
    exact fun key hkey => .inl (hfadc key hkey)

/-- No other keyword sets the parameter. -/
theorem networkKeys_keep : ∀ key ∈ networkKeys, Keeps (x.ofConf e) key.2 ∨ key.1 = x.keyword := by
  cases x with
  | numConnections =>
    apply streaming_keep (·.numConnections) rfl
    simp only [streamingKeys, List.forall_mem_cons]
    refine ⟨.inl (keeps_text ?_), .inl (keeps_ranged ?_ _), .inl (keeps_ranged ?_ _),
      .inl (keeps_ranged ?_ _), .inr rfl, .inl (keeps_ranged ?_ _), .inl (keeps_ranged ?_ _),
      .inl (keeps_ranged ?_ _), by simp⟩
    all_goals exact fun _ _ => rfl
  | netMode =>
    apply streaming_keep (·.netMode) rfl
    simp only [streamingKeys, List.forall_mem_cons]
    refine ⟨.inl (keeps_text ?_), .inl (keeps_ranged ?_ _), .inl (keeps_ranged ?_ _),
      .inl (keeps_ranged ?_ _), .inl (keeps_ranged ?_ _), .inr rfl, .inl (keeps_ranged ?_ _),
      .inl (keeps_ranged ?_ _), by simp⟩
    all_goals exact fun _ _ => rfl
  | enableEjfat =>
    apply streaming_keep (·.enableEjfat) rfl
    simp only [streamingKeys, List.forall_mem_cons]
    refine ⟨.inl (keeps_text ?_), .inl (keeps_ranged ?_ _), .inl (keeps_ranged ?_ _),
      .inl (keeps_ranged ?_ _), .inl (keeps_ranged ?_ _), .inl (keeps_ranged ?_ _), .inr rfl,
      .inl (keeps_ranged ?_ _), by simp⟩
    all_goals exact fun _ _ => rfl
  | localPort =>
    apply streaming_keep (·.localPort) rfl
    simp only [streamingKeys, List.forall_mem_cons]
    refine ⟨.inl (keeps_text ?_), .inl (keeps_ranged ?_ _), .inl (keeps_ranged ?_ _),
      .inl (keeps_ranged ?_ _), .inl (keeps_ranged ?_ _), .inl (keeps_ranged ?_ _),
      .inl (keeps_ranged ?_ _), .inr rfl, by simp⟩
    all_goals exact fun _ _ => rfl
  | destPort =>
    have hport : ∀ key ∈ fadcStreamingKeys,
        Keeps (fun c : FadcStreamingConf => (c.eb e).destipport.setWidth 32) key.2 ∨
          key.1 = SharedParam.destPort.keyword := by
      have hstreaming : Keeps (fun c : FadcStreamingConf => (c.eb e).destipport.setWidth 32)
          vtpStreaming := by
        intro line s t hrun
        unfold vtpStreaming at hrun
        split at hrun
        · cases hrun
          rfl
        · cases hrun
      have hslots : Keeps (fun c : FadcStreamingConf => (c.eb e).destipport.setWidth 32)
          vtpStreamingSlotEn := by
        intro line s t hrun
        unfold vtpStreamingSlotEn at hrun
        dsimp only at hrun
        split at hrun
        · cases hrun
        · cases hrun
          dsimp only
          by_cases he : e = s.2.streamingEb
          · subst he
            rw [Function.update_self]
          · rw [Function.update_of_ne he]
      have heb : ∀ {conv n} {store : (Nat → Word) → StreamingEbCfg → StreamingEbCfg},
          (∀ a eb, (store a eb).destipport = eb.destipport) →
          Keeps (fun c : FadcStreamingConf => (c.eb e).destipport.setWidth 32)
            (onEb conv n store) := by
        intro conv n store hstore
        exact @keeps_onEb e Word (fun eb => eb.destipport.setWidth 32) conv n store fun a eb => by
          rw [hstore]
      simp only [fadcStreamingKeys, List.forall_mem_cons]
      refine ⟨.inl (keeps_ints ?_ 1), .inl (keeps_ints ?_ 1), .inl (keeps_ints ?_ 1),
        .inl hstreaming, .inl hslots, .inl (heb ?_), .inl (heb ?_), .inl (heb ?_), .inl (heb ?_),
        .inl (heb ?_), .inl (heb ?_), .inl (heb ?_), .inr rfl, .inl (heb ?_), by simp⟩
      all_goals exact fun _ _ => rfl
    have hstreaming : ∀ key ∈ onPart (·.streaming) (fun c v => { c with streaming := v })
        streamingKeys, Keeps (SharedParam.destPort.ofConf e) key.2 := by
      apply onPart_keeps
      exact fun _ _ => rfl
    simp only [networkKeys, List.forall_mem_append]
    exact ⟨⟨fun key hkey => .inl (commonKeys_keep key hkey), fun key hkey => .inl (hstreaming key hkey)⟩,
      onPart_keeps_same hport fun _ _ => rfl⟩

/-- A branch that is not the parameter's leaves it alone. -/
theorem branchOf_keep {keyword : List Char} {b : Branch VtpConf} (h : branchOf keyword = some b)
    (hne : keyword ≠ x.keyword.toList) : Keeps (x.ofConf e) b := by
  obtain ⟨name, hmem, rfl⟩ := branchOf_mem h
  unfold configKeys at hmem
  obtain hnetwork | hdetector := List.mem_append.mp hmem
  · obtain hkeep | hname := networkKeys_keep (x := x) (e := e) _ hnetwork
    · exact hkeep
    · exact absurd (congrArg String.toList hname) hne
  · intro line s t hrun
    have hparts := detectorKeys_keep _ hdetector line s t hrun
    rw [Prod.mk.injEq] at hparts
    cases x
    case destPort => exact congrArg (fun c => (c.eb e).destipport.setWidth 32) hparts.2
    case numConnections => exact congrArg (·.numConnections) hparts.1
    case netMode => exact congrArg (·.netMode) hparts.1
    case enableEjfat => exact congrArg (·.enableEjfat) hparts.1
    case localPort => exact congrArg (·.localPort) hparts.1

theorem argi_word {line rest tail w : List Char} {v : Word} (hword : scanWord line = some (w, rest))
    (hvalue : scanD rest = some (v, tail)) : argi scanD 1 line 0 = v := by
  unfold argi scanArgs
  rw [hword]
  dsimp only
  rw [scanMany, hvalue]
  rfl

/-- A number in the range is stored. -/
theorem ranged_next (ok : Int → Bool) (store : Word → StreamingConf → StreamingConf)
    {line : List Char} {s t : VtpConf × Locals} (hok : ok (argi scanD 1 line 0).toInt = true)
    (h : ((ranged ok store).on (·.streaming) fun c v => { c with streaming := v }) line s =
      .next t) :
    t.1.streaming = store (argi scanD 1 line 0) s.1.streaming := by
  obtain ⟨t', hrun, rfl⟩ := on_next h
  cases hrun
  dsimp only
  rw [if_pos hok]

/-- The parameter's own branch stores an accepted value. -/
theorem branchOf_stores (x : SharedParam) :
    ∃ b, branchOf x.keyword.toList = some b ∧
      ∀ line s t, x.Accepts (argi scanD 1 line 0).toInt → b line s = .next t →
        x.ofConf s.2.streamingEb t.1 = argi scanD 1 line 0 := by
  cases x with
  | numConnections =>
    refine ⟨networkKeys[11].2, branchOf_network (i := 11) (by decide), ?_⟩
    intro line s t hok hrun
    unfold SharedParam.Accepts at hok
    have hstored := ranged_next (fun v => 1 ≤ v && v ≤ 4) (fun v c => { c with numConnections := v })
      (by simpa using hok) hrun
    exact congrArg (·.numConnections) hstored
  | netMode =>
    refine ⟨networkKeys[12].2, branchOf_network (i := 12) (by decide), ?_⟩
    intro line s t hok hrun
    unfold SharedParam.Accepts at hok
    have hstored := ranged_next (fun v => v == 0 || v == 1) (fun v c => { c with netMode := v })
      (by simpa using hok) hrun
    exact congrArg (·.netMode) hstored
  | enableEjfat =>
    refine ⟨networkKeys[13].2, branchOf_network (i := 13) (by decide), ?_⟩
    intro line s t hok hrun
    unfold SharedParam.Accepts at hok
    have hstored := ranged_next (fun v => v == 0 || v == 1) (fun v c => { c with enableEjfat := v })
      (by simpa using hok) hrun
    exact congrArg (·.enableEjfat) hstored
  | localPort =>
    refine ⟨networkKeys[14].2, branchOf_network (i := 14) (by decide), ?_⟩
    intro line s t hok hrun
    unfold SharedParam.Accepts at hok
    have hstored := ranged_next (fun v => 0 < v && v < 65536) (fun v c => { c with localPort := v })
      (by simpa using hok) hrun
    exact congrArg (·.localPort) hstored
  | destPort =>
    refine ⟨networkKeys[27].2, branchOf_network (i := 27) (by decide), ?_⟩
    intro line s t hok hrun
    cases hrun
    unfold SharedParam.ofConf
    dsimp only
    rw [Function.update_self]
    dsimp only
    generalize argi scanD 1 line 0 = v at hok ⊢
    obtain ⟨hlo, hhi⟩ := hok
    have hsmall : v.toNat < 65536 := by
      rw [BitVec.toInt_eq_toNat_cond] at hlo hhi
      have hlt := v.isLt
      split at hlo
      · omega
      · omega
    apply BitVec.eq_of_toNat_eq
    rw [BitVec.toNat_setWidth, BitVec.toNat_setWidth, Nat.mod_eq_of_lt (a := v.toNat) hsmall]
    omega

variable {host : List Char} {s s' : ReadState}

/-- A line under another keyword leaves the parameter alone. -/
theorem readLine_keep {l : List Char} (hkey : (lineWords (cString l) s).keyword ≠ x.keyword.toList)
    (h : readLine host l s = .next s') :
    x.ofConf e s'.conf = x.ofConf e s.conf ∧ s'.keyword = (lineWords (cString l) s).keyword := by
  have hconf : (lineWords (cString l) s).conf = s.conf := by
    unfold lineWords
    split
    · rfl
    · split
      · rfl
      · rfl
  obtain ⟨-, hcrate | ⟨-, hplain | ⟨-, b, conf, l, hbranch, hrun, hs'⟩⟩⟩ := readLine_cases rfl h
  · rw [hcrate.2]
    exact ⟨congrArg (x.ofConf e) hconf, rfl⟩
  · rw [hplain.2]
    exact ⟨congrArg (x.ofConf e) hconf, rfl⟩
  · rw [hs']
    refine ⟨?_, rfl⟩
    rw [branchOf_keep hbranch hkey _ _ _ hrun, hconf]

/-- A word that is not the keyword of the parameter, in every line. -/
def OtherWords (x : SharedParam) (ls : List (List Char)) : Prop :=
  ∀ l ∈ ls, ∀ w rest, scanWord l = some (w, rest) → ∀ name ∈ x.aliases, w ≠ name.toList

theorem keyword_mem_aliases (x : SharedParam) : x.keyword ∈ x.aliases := by
  cases x
  all_goals simp [SharedParam.keyword, SharedParam.aliases]

theorem readLines_keep {ls : List (List Char)} (hnul : ∀ l ∈ ls, '\x00' ∉ l)
    (hother : OtherWords x ls)
    (hkey : s.keyword ≠ x.keyword.toList) (h : readLines host ls s = some s') :
    x.ofConf e s'.conf = x.ofConf e s.conf := by
  induction ls generalizing s with
  | nil =>
    cases h
    rfl
  | cons l ls ih =>
    rw [readLines] at h
    have hstring : cString l = l := cString_of_noNul (hnul l (by simp))
    have hword : (lineWords (cString l) s).keyword ≠ x.keyword.toList := by
      rw [hstring]
      cases hscan : scanWord l with
      | none => rwa [lineWords_none hscan]
      | some w =>
        rw [(lineWords_word hscan).1]
        exact hother l (by simp) w.1 w.2 hscan x.keyword (keyword_mem_aliases x)
    cases hline : readLine host l s with
    | next s₁ =>
      rw [hline] at h
      obtain ⟨hconf, hkey₁⟩ := readLine_keep (e := e) hword hline
      rw [ih (fun m hm => hnul m (by simp [hm])) (fun m hm => hother m (by simp [hm]))
        (by rwa [hkey₁]) h, hconf]
    | ret code s₁ =>
      rw [hline] at h
      cases h
    | fault =>
      rw [hline] at h
      cases h

/-- The line that sets the parameter, in an active section. -/
theorem readLine_sets {line rest tail : List Char} {v : Word} (hnul : '\x00' ∉ line)
    (hactive : s.active = true) (hword : scanWord line = some (x.keyword.toList, rest))
    (hvalue : scanD rest = some (v, tail)) (hok : x.Accepts v.toInt)
    (h : readLine host line s = .next s') :
    x.ofConf s.locals.streamingEb s'.conf = v := by
  obtain ⟨b, hbranch, hstores⟩ := branchOf_stores x
  obtain ⟨hkey, hconf, hlocals, hact⟩ := lineWords_word (s := s) hword
  have hargi := argi_word hword hvalue
  rw [← cString_of_noNul hnul] at hkey hconf hlocals hact
  have hname : x.keyword.toList ≠ "VTP_CRATE".toList := by
    rw [ne_eq, String.toList_inj]
    cases x
    all_goals exact fun h => absurd h (by decide)
  obtain ⟨-, hcrate | ⟨-, hplain | ⟨-, b', conf, l, hbranch', hrun, hs'⟩⟩⟩ := readLine_cases rfl h
  · rw [hkey] at hcrate
    exact absurd hcrate.1 hname
  · rw [hkey, hact, hactive, hbranch] at hplain
    obtain ⟨hinactive | hnone, -⟩ := hplain
    · cases hinactive
    · cases hnone
  · rw [hkey, hbranch] at hbranch'
    cases hbranch'
    rw [hconf, hlocals, cString_of_noNul hnul] at hrun
    rw [hs']
    have hstored := hstores line (s.conf, s.locals) (conf, l) (by rwa [hargi]) hrun
    rwa [hargi] at hstored

/-- After the line and lines about other things. -/
theorem readLines_sets {line rest tail : List Char} {post : List (List Char)} {v : Word}
    (hnul : ∀ l ∈ line :: post, '\x00' ∉ l) (hactive : s.active = true)
    (hword : scanWord line = some (x.keyword.toList, rest)) (hvalue : scanD rest = some (v, tail))
    (hok : x.Accepts v.toInt) (hother : OtherWords x post)
    (hnext : ∀ l, post.head? = some l → scanWord l ≠ none)
    (h : readLines host (line :: post) s = some s') :
    x.ofConf s.locals.streamingEb s'.conf = v := by
  rw [readLines] at h
  cases hline : readLine host line s with
  | ret code s₁ =>
    rw [hline] at h
    cases h
  | fault =>
    rw [hline] at h
    cases h
  | next s₁ =>
  rw [hline] at h
  have hset := readLine_sets (hnul line (by simp)) hactive hword hvalue hok hline
  cases post with
  | nil =>
    cases h
    exact hset
  | cons l ls =>
    -- the word of the next line takes the place of the parameter's
    dsimp only at h
    rw [readLines] at h
    have hstring : cString l = l := cString_of_noNul (hnul l (by simp))
    obtain ⟨w, hscan⟩ := Option.ne_none_iff_exists'.mp (hnext l rfl)
    have hne : (lineWords (cString l) s₁).keyword ≠ x.keyword.toList := by
      rw [hstring, (lineWords_word hscan).1]
      exact hother l (by simp) w.1 w.2 hscan x.keyword (keyword_mem_aliases x)
    cases hl : readLine host l s₁ with
    | ret code s₂ =>
      rw [hl] at h
      cases h
    | fault =>
      rw [hl] at h
      cases h
    | next s₂ =>
      rw [hl] at h
      obtain ⟨hconf, hkey₂⟩ := readLine_keep (e := s.locals.streamingEb) hne hl
      rw [readLines_keep (fun m hm => hnul m (by simp [hm])) (fun m hm => hother m (by simp [hm]))
        (by rwa [hkey₂]) h, hconf, hset]

end Parser

/-! ## The readout list's side -/

section Net

variable {x : SharedParam} {l : List Char} {p : NetParams}

theorem readAllKeys_names : (readAllKeys.map fun key => key.1.toList).Nodup ∧
    ∀ key ∈ readAllKeys, key.1.toList.length ≤ 30 := by
  have hshort : (readAllKeys.map fun key => key.1.toList).all fun key => key.length ≤ 30 := by
    decide +kernel
  rw [List.all_map, List.all_eq_true] at hshort
  exact ⟨by decide +kernel, fun key hkey => by simpa using hshort key hkey⟩

theorem netNumber_keep {conv : List Char → Option (Word × List Char)} {ok : Word → Bool}
    {put : Word → NetParams → NetParams} (h : ∀ v p, x.ofNet (put v p) = x.ofNet p) (val : List Char)
    (p : NetParams) : x.ofNet (netNumber conv ok put val p) = x.ofNet p := by
  unfold netNumber
  split
  · rfl
  · split
    · exact h _ _
    · rfl

theorem readAllKeys_keep :
    ∀ key ∈ readAllKeys, (∀ val p, x.ofNet (key.2 val p) = x.ofNet p) ∨ key.1 ∈ x.aliases := by
  have hdestip : ∀ val p, x.ofNet (if vtpRocInetAddr val ≠ 0#32 then
      { p with emuip := vtpRocInetAddr val } else p) = x.ofNet p := by
    intro val p
    split
    · cases x
      all_goals rfl
    · rfl
  simp only [readAllKeys, List.forall_mem_cons]
  cases x with
  | numConnections =>
    refine ⟨.inl hdestip, .inl (netNumber_keep ?_), .inr (by decide), .inr (by decide),
      .inl (netNumber_keep ?_), .inl (netNumber_keep ?_), .inl (netNumber_keep ?_),
      .inl (netNumber_keep ?_), by simp⟩
    all_goals exact fun _ _ => rfl
  | netMode =>
    refine ⟨.inl hdestip, .inl (netNumber_keep ?_), .inl (netNumber_keep ?_),
      .inl (netNumber_keep ?_), .inr (by decide), .inl (netNumber_keep ?_),
      .inl (netNumber_keep ?_), .inl (netNumber_keep ?_), by simp⟩
    all_goals exact fun _ _ => rfl
  | enableEjfat =>
    refine ⟨.inl hdestip, .inl (netNumber_keep ?_), .inl (netNumber_keep ?_),
      .inl (netNumber_keep ?_), .inl (netNumber_keep ?_), .inl (netNumber_keep ?_),
      .inl (netNumber_keep ?_), .inr (by decide), by simp⟩
    all_goals exact fun _ _ => rfl
  | localPort =>
    refine ⟨.inl hdestip, .inl (netNumber_keep ?_), .inl (netNumber_keep ?_),
      .inl (netNumber_keep ?_), .inl (netNumber_keep ?_), .inr (by decide), .inr (by decide),
      .inl (netNumber_keep ?_), by simp⟩
    all_goals exact fun _ _ => rfl
  | destPort =>
    refine ⟨.inl hdestip, .inr (by decide), .inl (netNumber_keep ?_), .inl (netNumber_keep ?_),
      .inl (netNumber_keep ?_), .inl (netNumber_keep ?_), .inl (netNumber_keep ?_),
      .inl (netNumber_keep ?_), by simp⟩
    all_goals exact fun _ _ => rfl

/-- A line under another word leaves the parameter alone. -/
theorem readAllLine_keep (hnul : '\x00' ∉ l)
    (hother : ∀ w rest, scanWord l = some (w, rest) → ∀ name ∈ x.aliases, w ≠ name.toList) :
    x.ofNet (readAllLine l p) = x.ofNet p := by
  unfold readAllLine
  dsimp only
  rw [cString_of_noNul hnul]
  split
  · rfl
  cases hscan : scanWord l with
  | none => rw [scanString_none hscan]
  | some w =>
    rw [scanString_scanWord (by decide) hscan]
    dsimp only
    split
    · rfl
    · split
      · rfl
      · next branch hbranch =>
        unfold readAllBranchOf at hbranch
        rw [Option.map_eq_some_iff] at hbranch
        obtain ⟨key, hfind, rfl⟩ := hbranch
        have hmem := List.mem_of_find?_eq_some hfind
        have hname : key.1.toList = w.1.take 127 := by simpa using List.find?_some hfind
        obtain hkeep | halias := readAllKeys_keep (x := x) key hmem
        · exact hkeep _ _
        · -- the key is short, so that it is the whole word
          have hshort := readAllKeys_names.2 key hmem
          have hwhole : w.1.take 127 = w.1 := by
            rw [hname, List.length_take] at hshort
            exact List.take_of_length_le (by omega)
          rw [hwhole] at hname
          exact absurd hname.symm (hother w.1 w.2 hscan key.1 halias)

theorem readAllLines_keep {ls : List (List Char)} (hnul : ∀ l ∈ ls, '\x00' ∉ l)
    (hother : OtherWords x ls) : x.ofNet (readAllLines ls p) = x.ofNet p := by
  induction ls generalizing p with
  | nil => rfl
  | cons l ls ih =>
    have hrest := @ih (readAllLine l p) (fun m hm => hnul m (by simp [hm]))
      fun m hm => hother m (by simp [hm])
    have hline := readAllLine_keep (p := p) (hnul l (by simp)) (hother l (by simp))
    exact hrest.trans hline

/-- The branch of the parameter's own keyword stores an accepted value. -/
theorem readAllBranchOf_stores (x : SharedParam) :
    ∃ branch, readAllBranchOf x.keyword.toList = some branch ∧
      ∀ val v tail p, scanD val = some (v, tail) → x.Accepts v.toInt → x.ofNet (branch val p) = v := by
  have hfind : ∀ {name branch}, (name, branch) ∈ readAllKeys →
      readAllBranchOf name.toList = some branch := by
    intro name branch hmem
    unfold readAllBranchOf
    rw [find_keyword readAllKeys_names.1 hmem, Option.map_some]
  have hpositive : ∀ {v : Word}, 0 < v.toInt → positive v = true := by
    intro v hv
    unfold positive
    exact decide_eq_true hv
  cases x with
  | numConnections =>
    refine ⟨_, hfind (.tail _ (.tail _ (.head _))), ?_⟩
    intro val v tail p hval hok
    obtain ⟨hlo, -⟩ := hok
    unfold netNumber
    rw [hval]
    dsimp only
    rw [if_pos (hpositive (by omega))]
    rfl
  | netMode =>
    refine ⟨_, hfind (.tail _ (.tail _ (.tail _ (.tail _ (.head _))))), ?_⟩
    intro val v tail p hval hok
    unfold netNumber
    rw [hval]
    rfl
  | enableEjfat =>
    refine ⟨_, hfind (.tail _ (.tail _ (.tail _ (.tail _ (.tail _ (.tail _ (.tail _ (.head _)))))))), ?_⟩
    intro val v tail p hval hok
    unfold netNumber
    rw [hval]
    rfl
  | localPort =>
    refine ⟨_, hfind (.tail _ (.tail _ (.tail _ (.tail _ (.tail _ (.head _)))))), ?_⟩
    intro val v tail p hval hok
    obtain ⟨hlo, -⟩ := hok
    unfold netNumber
    rw [hval]
    dsimp only
    rw [if_pos (hpositive hlo)]
    rfl
  | destPort =>
    refine ⟨_, hfind (.tail _ (.head _)), ?_⟩
    intro val v tail p hval hok
    obtain ⟨hlo, hhi⟩ := hok
    unfold netNumber
    rw [scanU_of_scanD hval hlo (by omega)]
    rfl

/-- The line that sets the parameter. -/
theorem readAllLine_sets {line rest tail : List Char} {v : Word} (hnul : '\x00' ∉ line)
    (hlen : line.length < strlen) (hread : isRead line = true)
    (hword : scanWord line = some (x.keyword.toList, rest)) (hvalue : scanD rest = some (v, tail))
    (hok : x.Accepts v.toInt) : x.ofNet (readAllLine line p) = v := by
  have hnoskip : ¬ (line.head? = some '#' ∨ line.head? = some '\n') := by
    cases line with
    | nil => simp
    | cons c cs =>
      simp only [isRead, ne_eq, Bool.and_eq_true, decide_eq_true_eq] at hread
      simp only [List.head?_cons, Option.some.injEq]
      rintro (h | h)
      · exact hread.1.1.1 h
      · exact hread.2 h
  obtain ⟨branch, hbranch, hstores⟩ := readAllBranchOf_stores x
  have hkey : x.keyword.toList.length ≤ 127 := by
    cases x
    all_goals exact (congrArg List.length (literal rfl)).trans_le (by decide)
  obtain ⟨w, rest', tail', htoken, hnumber⟩ := scanD_word hvalue
  have hshort : w.length ≤ 511 := by
    obtain ⟨-, hskip, -⟩ := scanWord_eq hword
    obtain ⟨-, hskip', -⟩ := scanWord_eq htoken
    have hle := (@List.dropWhile_sublist _ line isSpace).length_le
    have hle' := (@List.dropWhile_sublist _ rest isSpace).length_le
    have hlen' : line.length < 250 := hlen
    have heq := congrArg List.length hskip
    have heq' := congrArg List.length hskip'
    unfold skipSpace at heq heq'
    rw [List.length_append] at heq heq'
    omega
  unfold readAllLine
  dsimp only
  rw [cString_of_noNul hnul, if_neg hnoskip, scanString_scanWord (by decide) hword,
    List.take_of_length_le hkey, List.drop_eq_nil_of_le hkey, List.nil_append]
  dsimp only
  rw [scanString_scanWord (by decide) htoken, List.take_of_length_le hshort]
  dsimp only
  rw [hbranch]
  exact hstores w v tail' p hnumber hok

end Net

/-! ## Agreement -/

/-- The last line about the parameter is under its own keyword, with a value
that the parser accepts. The line read next has a word, which ends the
parameter's. -/
structure LastSetting (x : SharedParam) (lines pre : List (List Char)) (line : List Char)
    (post : List (List Char)) (v : Word) : Prop where
  split : lines = pre ++ line :: post
  read : isRead line = true
  setting : ∃ rest tail, scanWord line = some (x.keyword.toList, rest) ∧ scanD rest = some (v, tail)
  accepted : x.Accepts v.toInt
  other : OtherWords x post
  next : ∀ l, (post.filter isRead).head? = some l → scanWord l ≠ none

/-- No `VTP_CRATE` line names the host or all hosts, and every line has a word. -/
def NeverActive (host : List Char) (ls : List (List Char)) : Prop :=
  ∀ l ∈ ls, ∃ w rest, scanWord l = some (w, rest) ∧
    (w = "VTP_CRATE".toList → ∃ name tail, scanWord rest = some (name, tail) ∧
      name ≠ host ∧ name ≠ "all".toList)

theorem readLines_inactive {host : List Char} {ls : List (List Char)} {s s' : ReadState}
    (hnul : ∀ l ∈ ls, '\x00' ∉ l) (hnever : NeverActive host ls) (hactive : s.active = false)
    (h : readLines host ls s = some s') : s'.conf = s.conf := by
  induction ls generalizing s with
  | nil =>
    cases h
    rfl
  | cons l ls ih =>
    rw [readLines] at h
    cases hline : readLine host l s with
    | ret code s₁ =>
      rw [hline] at h
      cases h
    | fault =>
      rw [hline] at h
      cases h
    | next s₁ =>
    rw [hline] at h
    obtain ⟨w, rest, hscan, hcrate⟩ := hnever l (by simp)
    obtain ⟨hkey, hconf, -, hact⟩ := lineWords_word (s := s) hscan
    have hstring : cString l = l := cString_of_noNul (hnul l (by simp))
    have hgo : s₁.active = false ∧ s₁.conf = s.conf := by
      have hcases := readLine_cases rfl hline
      rw [hstring] at hcases
      obtain ⟨-, ⟨hname, rfl⟩ | ⟨-, ⟨-, rfl⟩ | ⟨hon, -⟩⟩⟩ := hcases
      · rw [hkey] at hname
        obtain ⟨name, tail, hsecond, hhost, hall⟩ := hcrate hname
        have hrocName : (lineWords l s).rocName = name := by
          unfold lineWords
          rw [hscan]
          dsimp only
          rw [hsecond]
        refine ⟨?_, hconf⟩
        dsimp only
        rw [hrocName, decide_eq_false hhost, decide_eq_false hall]
        rfl
      · exact ⟨hact.trans hactive, hconf⟩
      · rw [hact, hactive] at hon
        cases hon
    rw [ih (fun m hm => hnul m (by simp [hm])) (fun m hm => hnever m (by simp [hm])) hgo.1 h, hgo.2]

variable {x : SharedParam} {env : ConfigEnv} {stack : ConfigStack}
  {filename cfgPath text line : List Char} {conf conf' : VtpConf}
  {pre post : List (List Char)} {v : Word}

/-- The readout list holds the value of the last line, whatever the section. So
does the parser when the section is active there, in the event builder that the
lines before have named. Without an active section it stores nothing. -/
theorem readers_agree (net : NetParams) (hopens : Opens env filename text)
    (hfile : env.files cfgPath = some text) (hfit : FittingLines text)
    (hread : vtpReadConfigFile env stack filename conf = .returned 0 conf')
    (hlast : LastSetting x (fgetsLines 1023 text) pre line post v) :
    x.ofNet (vtpReadAllFromCfg env.files (some cfgPath) net) = v ∧
      (∃ s, readLines env.host (pre.filter isRead) (readStart stack conf) = some s ∧
        (s.active = true → x.ofConf s.locals.streamingEb conf' = v)) ∧
      (NeverActive env.host (readable text) → conf' = conf) := by
  obtain ⟨rest, tail, hword, hvalue⟩ := hlast.setting
  have hmem : ∀ {l}, l ∈ pre ++ line :: post → l ∈ fgetsLines 1023 text := by
    intro l hl
    rwa [hlast.split]
  rw [vtpReadConfigFile_opens hopens] at hread
  obtain ⟨s', hrun, rfl⟩ := readLines_text hfit hread
  have hnul : ∀ l ∈ readable text, '\x00' ∉ l := fun l hl =>
    hfit.noNul l (List.mem_of_mem_filter hl)
  refine ⟨?_, ?_, ?_⟩
  · have hline := readAllLine_sets (p := readAllLines pre net) (hfit.noNul line (hmem (by simp)))
      (hfit.short line (hmem (by simp))) hlast.read hword hvalue hlast.accepted
    have hpost := readAllLines_keep (p := readAllLine line (readAllLines pre net))
      (fun l hl => hfit.noNul l (hmem (by simp [hl]))) hlast.other
    have hall : vtpReadAllFromCfg env.files (some cfgPath) net =
        readAllLines post (readAllLine line (readAllLines pre net)) := by
      unfold vtpReadAllFromCfg
      rw [Option.bind_some, hfile]
      dsimp only
      rw [hlast.split]
      unfold readAllLines
      rw [List.foldl_append, List.foldl_cons]
    rw [hall, hpost, hline]
  · have hsplit : readable text = pre.filter isRead ++ line :: post.filter isRead := by
      unfold readable
      rw [hlast.split, List.filter_append, List.filter_cons, if_pos hlast.read]
    rw [hsplit, readLines_append, Option.bind_eq_some_iff] at hrun
    obtain ⟨s, hpre, hrest⟩ := hrun
    refine ⟨s, hpre, fun hactive => ?_⟩
    apply readLines_sets _ hactive hword hvalue hlast.accepted _ hlast.next hrest
    · intro l hl
      exact hnul l (by rw [hsplit]; exact List.mem_append_right _ hl)
    · intro l hl
      exact hlast.other l (List.mem_of_mem_filter hl)
  · intro hnever
    exact readLines_inactive hnul hnever rfl hrun

/-- A file for all hosts. -/
def netModeFile : List Char := "VTP_CRATE all\nVTP_NET_MODE 0\n".toList

def ReadResult.success : ReadResult → Bool
  | .returned code _ => code = 0
  | _ => false

theorem ReadResult.success_iff {r : ReadResult} (h : r.success = true) :
    ∃ conf, r = .returned 0 conf := by
  cases r with
  | returned code conf =>
    unfold success at h
    rw [decide_eq_true_eq] at h
    exact ⟨conf, by rw [h]⟩
  | hangs => cases h
  | faults => cases h

theorem readers_agree_netMode :
    ∃ conf', vtpReadConfigFile (hostOf netModeFile) freshStack "/cnf".toList default =
        .returned 0 conf' ∧
      (vtpReadAllFromCfg (hostOf netModeFile).files (some "/cnf".toList)
        ⟨0#32, 7#32, 0#32, 0#32, 0#32, 0#32⟩).netMode = 0#32 ∧
      conf'.streaming.netMode = 0#32 := by
  have hsuccess : (vtpReadConfigFile (hostOf netModeFile) freshStack "/cnf".toList
      default).success = true := by
    decide +kernel
  obtain ⟨conf', hread⟩ := ReadResult.success_iff hsuccess
  have hfit : FittingLines netModeFile := ⟨by decide +kernel, by decide +kernel⟩
  have hlast : LastSetting .netMode (fgetsLines 1023 netModeFile) ["VTP_CRATE all\n".toList]
      "VTP_NET_MODE 0\n".toList [] 0#32 :=
    ⟨by decide +kernel, by decide +kernel,
      ⟨" 0\n".toList, "\n".toList, by decide +kernel, by decide +kernel⟩, .inl rfl, nofun, nofun⟩
  have hactive : (readLines (hostOf netModeFile).host (["VTP_CRATE all\n".toList].filter isRead)
      (readStart freshStack default)).map (·.active) = some true := by
    decide +kernel
  obtain ⟨hnet, ⟨s, hs, hconf⟩, -⟩ := readers_agree ⟨0#32, 7#32, 0#32, 0#32, 0#32, 0#32⟩
    (hostOf_opens netModeFile) (if_pos rfl) hfit hread hlast
  rw [hs, Option.map_some, Option.some.injEq] at hactive
  exact ⟨conf', hread, hnet, hconf hactive⟩

/-- The last of two keywords for one parameter wins with one reader only. -/
theorem readers_disagree :
    ∃ conf', vtpReadConfigFile
          (hostOf "VTP_CRATE all\nVTP_NUM_CONNECTIONS 1\nVTP_STREAMING_NSTREAMS 2\n".toList)
          freshStack "/cnf".toList default = .returned 0 conf' ∧
      conf'.streaming.numConnections = 1#32 ∧
      (vtpReadAllFromCfg
          (hostOf "VTP_CRATE all\nVTP_NUM_CONNECTIONS 1\nVTP_STREAMING_NSTREAMS 2\n".toList).files
          (some "/cnf".toList) ⟨0#32, 0#32, 0#32, 0#32, 0#32, 0#32⟩).numConnections = 2#32 := by
  generalize htext : "VTP_CRATE all\nVTP_NUM_CONNECTIONS 1\nVTP_STREAMING_NSTREAMS 2\n".toList = text
  have hcheck : (match vtpReadConfigFile (hostOf text) freshStack "/cnf".toList default with
      | .returned code conf => code == 0 && conf.streaming.numConnections == 1#32
      | _ => false) = true := by
    rw [← htext]
    decide +kernel
  have hnet : (vtpReadAllFromCfg (hostOf text).files (some "/cnf".toList)
      ⟨0#32, 0#32, 0#32, 0#32, 0#32, 0#32⟩).numConnections = 2#32 := by
    rw [← htext]
    decide +kernel
  cases hread : vtpReadConfigFile (hostOf text) freshStack "/cnf".toList default with
  | returned code conf' =>
    rw [hread] at hcheck
    dsimp only at hcheck
    rw [Bool.and_eq_true, beq_iff_eq, beq_iff_eq] at hcheck
    exact ⟨conf', by rw [hcheck.1], hcheck.2, hnet⟩
  | hangs =>
    rw [hread] at hcheck
    cases hcheck
  | faults =>
    rw [hread] at hcheck
    cases hcheck

end VtpStreaming
