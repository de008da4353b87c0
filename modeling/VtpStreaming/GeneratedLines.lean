import VtpStreaming.ConfigLines
import VtpStreaming.Generate

/-!
# The generated lines

What each line of a generated configuration stores when it is read back.
-/

namespace VtpStreaming

open Clib

/-! ## Settings -/

def setConf (g : VtpConf → VtpConf) (a : VtpConf × Locals) : VtpConf × Locals := (g a.1, a.2)

def setStreaming (g : StreamingConf → StreamingConf) : VtpConf × Locals → VtpConf × Locals :=
  setConf fun c => { c with streaming := g c.streaming }

def setFadc (g : FadcStreamingConf → FadcStreamingConf) : VtpConf × Locals → VtpConf × Locals :=
  setConf fun c => { c with fadcStreaming := g c.fadcStreaming }

/-- Into the current event builder. -/
def setEb (g : StreamingEbCfg → StreamingEbCfg) (a : VtpConf × Locals) : VtpConf × Locals :=
  setFadc (fun f => { f with
    eb := Function.update f.eb a.2.streamingEb (g (f.eb a.2.streamingEb)) }) a

variable {host : List Char}

/-! ## The lines with fixed values -/

theorem text_store {σ : Type} (store : List Char → σ → σ) {line w rest : List Char}
    (a : σ × Locals)
    (h : ((scanWord line).bind fun v => scanString 250 v.2) = some (w, rest)) :
    text store line a = .next (store w a.1, a.2) := by
  unfold text
  rw [h]

theorem stores_firmware_z7 :
    Stores host "VTP_FIRMWARE_Z7           fe_vtp_z7_streamingv3_ejfat_v5.bin".toList
      (setConf fun c => { c with fwFilenameZ7 := "fe_vtp_z7_streamingv3_ejfat_v5.bin".toList }) := by
  have hw : IsWord "fe_vtp_z7_streamingv3_ejfat_v5.bin".toList := by
    rw [literal rfl]
    exact ⟨by decide, solid_of_all rfl⟩
  have hplain : Plain 48 "fe_vtp_z7_streamingv3_ejfat_v5.bin".toList := by
    rw [literal rfl]
    exact ⟨by decide, by decide, by decide⟩
  refine stores_text (i := 3) (n := 11) (by decide) (literal_words rfl rfl rfl rfl) (by decide) hw
    hplain (fun w => setConf fun c => { c with fwFilenameZ7 := w }) ?_
  intro line a w rest h
  exact text_store (fun w (c : VtpConf) => { c with fwFilenameZ7 := w }) a h

theorem stores_firmware_v7 :
    Stores host "VTP_FIRMWARE_V7           fe_vtp_v7_fadc_streamingv3_ejfat.bin".toList
      (setConf fun c => { c with fwFilenameV7 := "fe_vtp_v7_fadc_streamingv3_ejfat.bin".toList }) := by
  have hw : IsWord "fe_vtp_v7_fadc_streamingv3_ejfat.bin".toList := by
    rw [literal rfl]
    exact ⟨by decide, solid_of_all rfl⟩
  have hplain : Plain 48 "fe_vtp_v7_fadc_streamingv3_ejfat.bin".toList := by
    rw [literal rfl]
    exact ⟨by decide, by decide, by decide⟩
  refine stores_text (i := 2) (n := 11) (by decide) (literal_words rfl rfl rfl rfl) (by decide) hw
    hplain (fun w => setConf fun c => { c with fwFilenameV7 := w }) ?_
  intro line a w rest h
  exact text_store (fun w (c : VtpConf) => { c with fwFilenameV7 := w }) a h

theorem stores_stats_host :
    Stores host "VTP_STATS_HOST            129.57.29.231".toList
      (setStreaming fun c => { c with statsHost := "129.57.29.231".toList }) := by
  have hw : IsWord "129.57.29.231".toList := by
    rw [literal rfl]
    exact ⟨by decide, solid_of_all rfl⟩
  have hplain : Plain 48 "129.57.29.231".toList := by
    rw [literal rfl]
    exact ⟨by decide, by decide, by decide⟩
  refine stores_text (i := 7) (n := 12) (by decide) (literal_words rfl rfl rfl rfl) (by decide) hw
    hplain (fun w => setStreaming fun c => { c with statsHost := w }) ?_
  intro line a w rest h
  have htext := text_store (fun w (c : StreamingConf) => { c with statsHost := w })
    (a.1.streaming, a.2) h
  show (text fun w (c : StreamingConf) => { c with statsHost := w }).on (·.streaming)
    (fun (c : VtpConf) t => { c with streaming := t }) line a = _
  unfold Branch.on
  rw [htext]
  rfl

/-- A line with a value in range. -/
theorem stores_ranged {i n : Nat} {ok : Int → Bool} {store : Word → StreamingConf → StreamingConf}
    {name : String} {line : List Char} {v : Word} (h : i < streamingKeys.length)
    (hkey : streamingKeys[i] = (name, ranged ok store))
    (hline : line = name.toList ++ spaces n ++ fmtD v) (hn : 0 < n ∧ n ≤ 30)
    (hok : ok v.toInt = true) : Stores host line (setStreaming (store v)) := by
  have hi : 7 + i < networkKeys.length :=
    Nat.lt_of_lt_of_le (Nat.add_lt_add_left h 7) (by decide)
  have hnetwork : networkKeys[7 + i] =
      (name, (ranged ok store).on (·.streaming) fun c t => { c with streaming := t }) := by
    have hstreaming : networkKeys[7 + i] = (streamingKeys[i].1,
        streamingKeys[i].2.on (·.streaming) fun (c : VtpConf) t => { c with streaming := t }) := by
      simp only [networkKeys, onPart, commonKeys, List.append_assoc]
      rw [List.getElem_append_right (by simp), List.getElem_append_left (by simpa using h),
        List.getElem_map]
      simp
    rw [hstreaming, hkey]
  have hstores : Stores host (networkKeys[7 + i].1.toList ++ spaces n ++ fmtD v)
      (setStreaming fun c => if ok v.toInt then store v c else c) :=
    stores_int hi rfl hn v (fun v => setStreaming fun c => if ok v.toInt then store v c else c)
      fun line a => by
        rw [hnetwork]
        rfl
  rw [hline]
  simpa only [hok, if_true, hnetwork] using hstores

theorem stores_stats_port :
    Stores host "VTP_STATS_PORT            19531".toList
      (setStreaming fun c => { c with statsPort := 19531#32 }) :=
  stores_ranged (i := 1) (n := 12) (by decide) rfl (literal rfl) (by decide) rfl

theorem stores_stats_inst :
    Stores host "VTP_STATS_INST            0".toList
      (setStreaming fun c => { c with statsInst := 0#32 }) :=
  stores_ranged (i := 2) (n := 12) (by decide) rfl (literal rfl) (by decide) rfl

theorem stores_sync_pkt_len :
    Stores host "VTP_SYNC_PKT_LEN          28".toList
      (setStreaming fun c => { c with syncPktLen := 28#32 }) :=
  stores_ranged (i := 3) (n := 10) (by decide) rfl (literal rfl) (by decide) rfl

theorem stores_num_connections :
    Stores host "VTP_NUM_CONNECTIONS       1".toList
      (setStreaming fun c => { c with numConnections := 1#32 }) :=
  stores_ranged (i := 4) (n := 7) (by decide) rfl (literal rfl) (by decide) rfl

theorem stores_net_mode :
    Stores host "VTP_NET_MODE              1".toList
      (setStreaming fun c => { c with netMode := 1#32 }) :=
  stores_ranged (i := 5) (n := 14) (by decide) rfl (literal rfl) (by decide) rfl

theorem stores_enable_ejfat :
    Stores host "VTP_ENABLE_EJFAT          1".toList
      (setStreaming fun c => { c with enableEjfat := 1#32 }) :=
  stores_ranged (i := 6) (n := 10) (by decide) rfl (literal rfl) (by decide) rfl

theorem stores_local_port :
    Stores host "VTP_LOCAL_PORT            10001".toList
      (setStreaming fun c => { c with localPort := 10001#32 }) :=
  stores_ranged (i := 7) (n := 12) (by decide) rfl (literal rfl) (by decide) rfl

/-- The settings of the fixed lines. -/
def commonStores : List (VtpConf × Locals → VtpConf × Locals) :=
  [setConf fun c => { c with fwFilenameZ7 := "fe_vtp_z7_streamingv3_ejfat_v5.bin".toList },
   setConf fun c => { c with fwFilenameV7 := "fe_vtp_v7_fadc_streamingv3_ejfat.bin".toList },
   setStreaming fun c => { c with statsHost := "129.57.29.231".toList },
   setStreaming fun c => { c with statsPort := 19531#32 },
   setStreaming fun c => { c with statsInst := 0#32 },
   setStreaming fun c => { c with syncPktLen := 28#32 },
   setStreaming fun c => { c with numConnections := 1#32 },
   setStreaming fun c => { c with netMode := 1#32 },
   setStreaming fun c => { c with enableEjfat := 1#32 },
   setStreaming fun c => { c with localPort := 10001#32 }]

theorem LinesStore.rule {ls : List (List Char)} {fs : List (VtpConf × Locals → VtpConf × Locals)}
    (h : LinesStore host ls fs) : LinesStore host (rule :: ls) fs :=
  .comment rfl (by decide) h

theorem commonLines_store : LinesStore host commonLines commonStores :=
  .blank <| .rule <| .comment rfl (by decide) <| .rule <| .comment rfl (by decide) <|
    .store stores_firmware_z7 <| .comment rfl (by decide) <| .store stores_firmware_v7 <|
    .blank <| .rule <| .comment rfl (by decide) <| .rule <| .comment rfl (by decide) <|
    .comment rfl (by decide) <| .store stores_stats_host <| .blank <|
    .comment rfl (by decide) <| .store stores_stats_port <| .blank <|
    .comment rfl (by decide) <| .store stores_stats_inst <| .blank <|
    .comment rfl (by decide) <| .store stores_sync_pkt_len <| .blank <| .rule <|
    .comment rfl (by decide) <| .rule <| .comment rfl (by decide) <|
    .store stores_num_connections <| .blank <| .comment rfl (by decide) <|
    .store stores_net_mode <| .blank <| .comment rfl (by decide) <|
    .store stores_enable_ejfat <| .blank <| .comment rfl (by decide) <|
    .store stores_local_port <| .blank <| .blank <| .comment rfl (by decide) <|
    .comment rfl (by decide) <| .nil

/-! ## The payloads -/

variable {enable : Fin 16 → Word}

/-- `VTP_PAYLOAD_EN`, in both places. -/
def setPayloadEn (enable : Fin 16 → Word) (a : VtpConf × Locals) : VtpConf × Locals :=
  ({ a.1 with
      payloadEn := mskWord 16 enable
      streaming := { a.1.streaming with payloadEnArray := enable } },
    { a.2 with msk := enable })

/-- Every payload is enabled or not. -/
def IsMask (enable : Fin 16 → Word) : Prop := ∀ j, enable j = 0#32 ∨ enable j = 1#32

theorem IsMask.mskOk (h : IsMask enable) : mskOk 16 enable = true := by
  unfold VtpStreaming.mskOk
  rw [List.all_eq_true]
  intro j _
  have hbit : (!((enable j).toInt < 0 || (enable j).toInt > 1)) = true := by
    obtain hj | hj := h j
    · rw [hj]
      decide
    · rw [hj]
      decide
  rw [hbit, Bool.or_true]

theorem scanMsk_all (msk : Fin 16 → Word) :
    scanMsk ((List.finRange 16).map enable) 16 msk = enable := by
  funext j
  unfold scanMsk
  rw [if_pos j.isLt]
  simp

theorem fmtD_mask (h : IsMask enable) (j : Fin 16) : Plain 1 (fmtD (enable j)) := by
  obtain hj | hj := h j
  · rw [hj]
    exact ⟨by decide, by decide, by decide⟩
  · rw [hj]
    exact ⟨by decide, by decide, by decide⟩

theorem stores_payload (h : IsMask enable) :
    Stores host (payloadLine enable) (setPayloadEn enable) := by
  have hi : 5 < networkKeys.length := by decide
  have hkey := networkKeys_names.1 _ (List.getElem_mem hi)
  let items : List (List Char × Word) := (List.finRange 16).map fun j => (spaces 2, enable j)
  have hline : payloadLine enable =
      networkKeys[5].1.toList ++ items.flatMap fun i => i.1 ++ fmtD i.2 := by
    unfold payloadLine
    rw [List.flatMap_map]
    rfl
  have hws : ∀ i ∈ items, i.1 ≠ [] ∧ Blank i.1 := by
    intro i hi
    obtain ⟨j, -, rfl⟩ := List.mem_map.mp hi
    exact ⟨spaces_ne_nil (by decide), spaces_blank 2⟩
  have hitem : ∀ i ∈ items, Plain (2 + 1) (i.1 ++ fmtD i.2) := by
    intro i hi
    obtain ⟨j, -, rfl⟩ := List.mem_map.mp hi
    exact (spaces_plain 2).append (fmtD_mask h j)
  have hscan (rest : List Char) (hrest : Stops Char.isDigit rest) :
      scanArgs scanD 16 (networkKeys[5].1.toList ++
        ((items.flatMap fun i => i.1 ++ fmtD i.2) ++ rest)) = (List.finRange 16).map enable := by
    have hscan := @scanArgs_items rest Word scanD fmtD id Char.isDigit networkKeys[5].1.toList
      (fun _ _ _ hblank hstop => scanD_fmtD hblank hstop) (fun _ => isSpace_not_digit) hkey.word
      items hws (List.cons_ne_nil _ _) hrest
    rwa [show items.map (fun i => id i.2) = (List.finRange 16).map enable from
      List.map_map ..] at hscan
  rw [hline]
  apply stores_key hi
  · have hlength : items.length = 16 := by simp [items]
    exact (plain_items hitem).mono (by rw [hlength]; decide)
  · exact items_stops hws (List.cons_ne_nil _ _)
  · intro a
    rw [List.append_assoc]
    show vtpPayloadEn _ a = _
    unfold vtpPayloadEn
    rw [hscan ['\n'] rfl, scanMsk_all]
    dsimp only
    rw [h.mskOk]
    rfl

/-! ## The user's values -/

theorem stores_rocid (v : Word) :
    Stores host ("VTP_STREAMING_ROCID       ".toList ++ fmtD v)
      (setFadc fun c => { c with rocId := v }) :=
  stores_int (i := 15) (n := 7) (by decide) (literal_spaces rfl rfl rfl) (by decide) v
    (fun v => setFadc fun c => { c with rocId := v }) fun _ _ => rfl

theorem stores_nframe_buf (v : Word) :
    Stores host ("VTP_STREAMING_NFRAME_BUF  ".toList ++ fmtD v)
      (setFadc fun c => { c with nframeBuf := v }) :=
  stores_int (i := 16) (n := 2) (by decide) (literal_spaces rfl rfl rfl) (by decide) v
    (fun v => setFadc fun c => { c with nframeBuf := v }) fun _ _ => rfl

theorem stores_framelen (v : Word) :
    Stores host ("VTP_STREAMING_FRAMELEN    ".toList ++ fmtD v)
      (setFadc fun c => { c with frameLen := v }) :=
  stores_int (i := 17) (n := 4) (by decide) (literal_spaces rfl rfl rfl) (by decide) v
    (fun v => setFadc fun c => { c with frameLen := v }) fun _ _ => rfl

theorem stores_nstreams (v : Word) :
    Stores host ("VTP_STREAMING_NSTREAMS    ".toList ++ fmtD v)
      (setEb fun eb => { eb with nstreams := v }) :=
  stores_int (i := 20) (n := 4) (by decide) (literal_spaces rfl rfl rfl) (by decide) v
    (fun v => setEb fun eb => { eb with nstreams := v }) fun _ _ => rfl

theorem stores_destipport (v : Word) :
    Stores host ("VTP_STREAMING_DESTIPPORT  ".toList ++ fmtD v)
      (setEb fun eb => { eb with destipport := v.setWidth 16 }) :=
  stores_int (i := 27) (n := 2) (by decide) (literal_spaces rfl rfl rfl) (by decide) v
    (fun v => setEb fun eb => { eb with destipport := v.setWidth 16 }) fun _ _ => rfl

theorem stores_localport (v : Word) :
    Stores host ("VTP_STREAMING_LOCALPORT   ".toList ++ fmtD v)
      (setEb fun eb => { eb with localport := v.setWidth 16 }) :=
  stores_int (i := 28) (n := 3) (by decide) (literal_spaces rfl rfl rfl) (by decide) v
    (fun v => setEb fun eb => { eb with localport := v.setWidth 16 }) fun _ _ => rfl

/-- What the parser stores for a flag. -/
def storedConnect (v : Word) : Word := if v.toInt > 0 then 0#32 else 1#32

theorem stores_connect (v : Word) :
    Stores host ("VTP_STREAMING_CONNECT     ".toList ++ fmtD v)
      (setEb fun eb => { eb with connect := storedConnect v }) :=
  stores_int (i := 21) (n := 5) (by decide) (literal_spaces rfl rfl rfl) (by decide) v
    (fun v => setEb fun eb => { eb with connect := storedConnect v }) fun _ _ => rfl

theorem fmtByte_plain (b : Byte) : Plain 3 (fmtByte b) := by
  have hb : b.toNat < 256 := b.isLt
  have hint : (b.setWidth 32).toInt = b.toNat := by
    rw [BitVec.toInt_eq_toNat_of_lt] <;> simp <;> omega
  unfold fmtByte fmtD
  rw [hint, if_neg (by omega)]
  exact fmtNat_plain (by decide) (by simpa using by omega)

theorem scanD_fmtByte (ws : List Char) (v : Byte) (rest : List Char) (hblank : Blank ws)
    (hstop : Stops Char.isDigit rest) :
    scanD (ws ++ fmtByte v ++ rest) = some (v.setWidth 32, rest) :=
  scanD_fmtD hblank hstop

/-- A line with the four bytes of an address. -/
theorem stores_quad {i j k l n m : Nat} (h : i < networkKeys.length) {line : List Char}
    (hline : line = networkKeys[i].1.toList ++ spaces j)
    (hgap : (0 < j ∧ j ≤ 6) ∧ (0 < k ∧ k ≤ 6) ∧ (0 < l ∧ l ≤ 6) ∧ (0 < n ∧ n ≤ 6))
    (hm : m ≤ 6) (b : Fin 4 → Byte) (g : (Fin 4 → Byte) → VtpConf × Locals → VtpConf × Locals)
    (hbranch : ∀ line a, networkKeys[i].2 line a = .next (g (bytesOf 4 (argi scanD 4 line)) a)) :
    Stores host
      (line ++ fmtByte (b 0) ++ spaces k ++ fmtByte (b 1) ++ spaces l ++ fmtByte (b 2) ++
        spaces n ++ fmtByte (b 3) ++ spaces m) (g b) := by
  have hgaps : ∀ x : Fin 4, 0 < ![j, k, l, n] x ∧ ![j, k, l, n] x ≤ 6 :=
    Fin.forall_fin_succ.mpr ⟨hgap.1, Fin.forall_fin_succ.mpr ⟨hgap.2.1,
      Fin.forall_fin_succ.mpr ⟨hgap.2.2.1, Fin.forall_fin_succ.mpr ⟨hgap.2.2.2, nofun⟩⟩⟩⟩
  have hplain (x : Fin 4) : Plain (6 + 3) (spaces (![j, k, l, n] x) ++ fmtByte (b x)) :=
    ((spaces_plain _).mono (hgaps x).2).append (fmtByte_plain (b x))
  have hstores : Stores host _ (g b) := stores_bytes (m := m) h scanD_fmtByte
    (fun _ => isSpace_not_digit) b
    ![j, k, l, n] (fun x => (hgaps x).1) (by decide) hplain (by omega) g hbranch
  rw [hline]
  simpa [List.ofFn_succ, List.append_assoc] using hstores

theorem stores_ipaddr (b : Fin 4 → Byte) :
    Stores host
      ("VTP_STREAMING_IPADDR      ".toList ++ fmtByte (b 0) ++ "  ".toList ++ fmtByte (b 1) ++
        " ".toList ++ fmtByte (b 2) ++ " ".toList ++ fmtByte (b 3))
      (setEb fun eb => { eb with ipaddr := b }) := by
  rw [← List.append_nil (_ ++ fmtByte (b 3))]
  exact stores_quad (i := 22) (j := 6) (k := 2) (l := 1) (n := 1) (m := 0) (by decide)
    (literal_spaces rfl rfl rfl) (by decide) (by decide) b (fun b => setEb fun eb => { eb with ipaddr := b })
    fun _ _ => rfl

theorem stores_subnet (b : Fin 4 → Byte) :
    Stores host
      ("VTP_STREAMING_SUBNET      ".toList ++ fmtByte (b 0) ++ " ".toList ++ fmtByte (b 1) ++
        " ".toList ++ fmtByte (b 2) ++ "   ".toList ++ fmtByte (b 3))
      (setEb fun eb => { eb with subnet := b }) := by
  rw [← List.append_nil (_ ++ fmtByte (b 3))]
  exact stores_quad (i := 23) (j := 6) (k := 1) (l := 1) (n := 3) (m := 0) (by decide)
    (literal_spaces rfl rfl rfl) (by decide) (by decide) b (fun b => setEb fun eb => { eb with subnet := b })
    fun _ _ => rfl

theorem stores_gateway (b : Fin 4 → Byte) :
    Stores host
      ("VTP_STREAMING_GATEWAY     ".toList ++ fmtByte (b 0) ++ "  ".toList ++ fmtByte (b 1) ++
        "  ".toList ++ fmtByte (b 2) ++ "   ".toList ++ fmtByte (b 3) ++ "   ".toList)
      (setEb fun eb => { eb with gateway := b }) :=
  stores_quad (i := 24) (j := 5) (k := 2) (l := 2) (n := 3) (m := 3) (by decide)
    (literal_spaces rfl rfl rfl) (by decide) (by decide) b (fun b => setEb fun eb => { eb with gateway := b })
    fun _ _ => rfl

theorem fmtMac_plain (b : Byte) : Plain 4 (fmtMac b) := by
  have hprefix : Plain 2 ['0', 'x'] := ⟨by decide, by decide, by decide⟩
  exact hprefix.append (fmt02X_plain b)

theorem scanLitX_fmtMac (ws : List Char) (v : Byte) (rest : List Char) (hblank : Blank ws)
    (hstop : Stops (fun c => (hexVal c).isSome) rest) :
    scanLitX (ws ++ fmtMac v ++ rest) = some (v.setWidth 32, rest) :=
  scanLitX_fmt02X hblank hstop

theorem stores_mac (b : Fin 6 → Byte) :
    Stores host
      ("VTP_STREAMING_MAC         ".toList ++ fmtMac (b 0) ++ " ".toList ++ fmtMac (b 1) ++
        " ".toList ++ fmtMac (b 2) ++ " ".toList ++ fmtMac (b 3) ++ " ".toList ++ fmtMac (b 4) ++
        " ".toList ++ fmtMac (b 5))
      (setEb fun eb => { eb with mac := b }) := by
  have hgap : ∀ j : Fin 6, 0 < ![9, 1, 1, 1, 1, 1] j ∧ ![9, 1, 1, 1, 1, 1] j ≤ 9 := by decide
  have hplain (j : Fin 6) : Plain (9 + 4) (spaces (![9, 1, 1, 1, 1, 1] j) ++ fmtMac (b j)) :=
    ((spaces_plain _).mono (hgap j).2).append (fmtMac_plain (b j))
  have hstores : Stores host _ (setEb fun eb => { eb with mac := b }) :=
    stores_bytes (i := 25) (m := 0) (by decide) scanLitX_fmtMac (fun _ => isSpace_not_hex) b
      ![9, 1, 1, 1, 1, 1] (fun j => (hgap j).1) (by decide) hplain (by decide)
      (fun b => setEb fun eb => { eb with mac := b }) fun _ _ => rfl
  have hline : "VTP_STREAMING_MAC         ".toList = networkKeys[25].1.toList ++ spaces 9 :=
    literal_spaces rfl rfl rfl
  have hgap1 : " ".toList = spaces 1 := rfl
  rw [hline, hgap1]
  simpa [List.ofFn_succ, List.append_assoc, show spaces 0 = [] from rfl] using hstores

/-- The destination's four bytes, as the parser takes them from its line. -/
def destipBytes (destip : List Char) : Fin 4 → Byte :=
  bytesOf 4 (argi scanD 4 ("VTP_STREAMING_DESTIP      ".toList ++ destip ++ ['\n']))

theorem stores_destip {destip : List Char} (h : DestipToken destip) :
    Stores host ("VTP_STREAMING_DESTIP      ".toList ++ destip)
      (setEb fun eb => { eb with destip := destipBytes destip }) := by
  have hline : "VTP_STREAMING_DESTIP      ".toList = networkKeys[26].1.toList ++ spaces 6 :=
    literal_spaces rfl rfl rfl
  have hplain : Plain 63 destip :=
    ⟨h.short, fun hnl => absurd (h.solid _ hnl) (by decide), h.noNul⟩
  have hstores : Stores host (networkKeys[26].1.toList ++ (spaces 6 ++ destip))
      (setEb fun eb => { eb with destip := destipBytes destip }) := by
    apply stores_key (by decide)
    · exact ((spaces_plain 6).append hplain).mono (by decide)
    · rfl
    · intro a
      unfold destipBytes
      rw [hline, ← List.append_assoc]
      rfl
  rwa [← List.append_assoc, ← hline] at hstores

/-! ## The event builder's index -/

theorem streamingIndex_some {v : Word} {e : Fin 2} (h : v.toInt = e.val) :
    streamingIndex v = some e := by
  have hlt := e.isLt
  unfold streamingIndex
  rw [dif_pos (by omega)]
  simp only [h, Int.toNat_natCast]

theorem streamingIndex_none {v : Word} (h : ¬ (0 ≤ v.toInt ∧ v.toInt ≤ 1)) :
    streamingIndex v = none :=
  dif_neg h

theorem vtpStreaming_line {key : List Char} {v : Word} (hkey : IsWord key)
    (s : FadcStreamingConf × Locals) :
    vtpStreaming (key ++ spaces 13 ++ fmtD v ++ ['\n']) s =
      match streamingIndex v with
      | some streamingEb => .next (s.1, { s.2 with streamingEb := streamingEb })
      | none => .ret (-4) s := by
  have hargi : argi scanD 1 (key ++ spaces 13 ++ fmtD v ++ ['\n']) 0 = v :=
    argi_int hkey (by decide) rfl
  unfold vtpStreaming
  cases hindex : streamingIndex v with
  | none => simp only [hargi, hindex]
  | some streamingEb => simp only [hargi, hindex]

theorem networkKeys_streaming : networkKeys[18] =
    ("VTP_STREAMING",
      vtpStreaming.on (·.fadcStreaming) fun (c : VtpConf) t => { c with fadcStreaming := t }) :=
  rfl

theorem streamingLine_eq (p : UserConfigParams) :
    streamingLine p = "VTP_STREAMING".toList ++ (spaces 13 ++ fmtD p.vtpStreaming) := by
  rw [← List.append_assoc]
  exact congrArg (· ++ fmtD p.vtpStreaming) (literal_spaces rfl rfl rfl)

theorem spaces_fmtD_plain (v : Word) : Plain 78 (spaces 13 ++ fmtD v) :=
  ((spaces_plain 13).append (fmtD_plain v)).mono (by decide)

variable {p : UserConfigParams}

theorem keyword_streaming : IsKeyword "VTP_STREAMING".toList :=
  networkKeys_names.1 networkKeys[18] (List.getElem_mem _)

theorem streamingLine_plain (p : UserConfigParams) : Plain 108 (streamingLine p) := by
  rw [streamingLine_eq]
  exact keyword_streaming.plain.append (spaces_fmtD_plain _)

theorem streamingLine_read (p : UserConfigParams) : isRead (streamingLine p) = true := by
  rw [streamingLine_eq]
  exact isRead_append keyword_streaming

theorem stores_streaming {e : Fin 2} (he : p.vtpStreaming.toInt = e.val) :
    Stores host (streamingLine p) (fun a => (a.1, { a.2 with streamingEb := e })) := by
  have hstores : Stores host (networkKeys[18].1.toList ++ (spaces 13 ++ fmtD p.vtpStreaming))
      (fun a => (a.1, { a.2 with streamingEb := e })) := by
    apply stores_key (by decide) (spaces_fmtD_plain _)
    · rfl
    · intro a
      have hline := vtpStreaming_line (v := p.vtpStreaming) keyword_streaming.word
        (a.1.fadcStreaming, a.2)
      rw [streamingIndex_some he] at hline
      rw [networkKeys_streaming, ← List.append_assoc]
      dsimp only
      unfold Branch.on
      rw [hline]
  rw [streamingLine_eq]
  exact hstores

/-- An index out of range ends the reading. -/
theorem readLine_streaming {s : ReadState} (hs : Reading s)
    (h : ¬ (0 ≤ p.vtpStreaming.toInt ∧ p.vtpStreaming.toInt ≤ 1)) :
    ∃ s', readLine host (streamingLine p ++ ['\n']) s = .ret (-4) s' ∧ s'.conf = s.conf := by
  obtain ⟨r, -, hread⟩ : ∃ r : List Char, r.length < roclen ∧ readLine host _ s = _ :=
    readLine_key (i := 18) (by decide) (spaces_fmtD_plain p.vtpStreaming) rfl hs
  have hline := vtpStreaming_line (v := p.vtpStreaming) keyword_streaming.word (s.conf.fadcStreaming, s.locals)
  have hbranch := branchOf_network (i := 18) (by decide)
  rw [streamingIndex_none h] at hline
  rw [networkKeys_streaming, ← List.append_assoc] at hread
  rw [networkKeys_streaming] at hbranch
  refine ⟨{ s with keyword := "VTP_STREAMING".toList, rocName := r }, ?_, rfl⟩
  rw [streamingLine_eq, ← List.append_assoc, hread]
  unfold runBranch
  dsimp only
  rw [hbranch]
  dsimp only
  unfold Branch.on
  rw [hline]

end VtpStreaming
