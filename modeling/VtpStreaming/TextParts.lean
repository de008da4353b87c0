import VtpStreaming.PrintedLines
import VtpStreaming.UploadText

/-!
# What the printed parts store

The lines of each part of the configuration, read over any value of it, leave what
was printed, up to the floats.
-/

namespace VtpStreaming

open Clib

/-! ## Parts of the table -/

/-- A part of the configuration whose keywords are in the table. -/
structure ConfigPart {τ : Type} (keys : List (String × Branch τ)) (get : VtpConf → τ)
    (put : VtpConf → τ → VtpConf) : Prop extends IsPart get put where
  sub : ∀ key ∈ onPart get put keys, key ∈ configKeys

section

variable {τ : Type} {keys : List (String × Branch τ)} {get : VtpConf → τ}
  {put : VtpConf → τ → VtpConf} {ls : List TextLine}

theorem ConfigPart.words (h : ConfigPart keys get put) : Words keys := by
  intro key hkey
  exact (configKeys_isSetting (h.sub _ (mem_onPart hkey))).word

/-- Lines that set the part set the configuration. -/
theorem ConfigPart.sets (h : ConfigPart keys get put) {t : τ} (c : VtpConf)
    (hs : Sets keys ls (get c) t) : Sets configKeys ls c (put c t) :=
  (hs.onPart h.toIsPart c rfl).mono h.sub

end

/-! ## Lines of thresholds -/

section

variable {σ : Type} {keys : List (String × Branch σ)} {ls : List TextLine} {c c' : σ}
  {name : String}

theorem three_getD (t : Fin 3 → Word) : three (fun i => [t 0, t 1, t 2].getD i 0#32) = t := by
  funext i
  rcases i with ⟨_ | _ | _ | i, hi⟩
  · rfl
  · rfl
  · rfl
  · omega

theorem Sets.three (hw : Words keys) (store : (Fin 3 → Word) → σ → σ)
    (hmem : (name, VtpStreaming.ints 3 fun a c => store (three a) c) ∈ keys) (t : Fin 3 → Word)
    (h : Sets keys ls (store t c) c') : Sets keys (threeLine name t :: ls) c c' := by
  refine .ints hw hmem rfl rfl ?_
  rw [three_getD]
  exact h

theorem Words.sub {σ τ : Type} {get : σ → τ} {put : σ → τ → σ} {keys : List (String × Branch σ)}
    {keys' : List (String × Branch τ)} (hw : Words keys)
    (hsub : ∀ key ∈ onPart get put keys', key ∈ keys) : Words keys' := by
  intro key hkey
  exact hw _ (hsub _ (mem_onPart hkey))

/-- The lines of a part of a part. -/
theorem Sets.sub {σ τ : Type} {get : σ → τ} {put : σ → τ → σ} {keys : List (String × Branch σ)}
    {keys' : List (String × Branch τ)} {ls : List TextLine}
    (hsub : ∀ key ∈ VtpStreaming.onPart get put keys', key ∈ keys) (hpart : IsPart get put) (c : σ)
    {t : τ} (h : Sets keys' ls (get c) t) : Sets keys ls c (put c t) :=
  (h.onPart hpart c rfl).mono hsub

end

/-! ## Calorimeters and hodoscopes -/

/-- What the parser makes of the printed Dalitz limits. -/
def eightfold (v : EcView) : EcView :=
  { v with dalitzMin := v.dalitzMin * 8#32, dalitzMax := v.dalitzMax * 8#32 }

theorem ec_part : ConfigPart ecKeys (·.ec) fun c v => { c with ec := v } where
  get_put _ _ := rfl
  put_put _ _ _ := rfl
  put_get _ := rfl
  sub key hkey := by
    apply List.mem_append_right
    repeat first | exact List.mem_append_right _ hkey | exact hkey | apply List.mem_append_left

theorem ecInner_sets (hw : Words ecInnerKeys) (v w : EcView) :
    Sets ecInnerKeys (ecInnerLines v) w (eightfold v) := by
  repeat' first
    | exact Sets.nil _ | exact rfl | exact List.Mem.head _ | apply List.Mem.tail
    | apply Sets.ints hw

theorem ecOuter_sets (hw : Words ecOuterKeys) (v w : EcView) :
    Sets ecOuterKeys (ecOuterLines v) w (eightfold v) := by
  repeat' first
    | exact Sets.nil _ | exact rfl | exact List.Mem.head _ | apply List.Mem.tail
    | apply Sets.ints hw

theorem ec_sets (c q : EcConf) :
    Sets ecKeys (ecLines q) c ⟨q.fadcsumChEn, eightfold q.inner, eightfold q.outer⟩ := by
  have hw : Words ecKeys := ec_part.words
  have hinner : ∀ key ∈ onPart (fun c : EcConf => c.inner) (fun c v => { c with inner := v })
      ecInnerKeys, key ∈ ecKeys :=
    fun key hkey => List.mem_append_left _ (List.mem_cons_of_mem _ hkey)
  have houter : ∀ key ∈ onPart (fun c : EcConf => c.outer) (fun c v => { c with outer := v })
      ecOuterKeys, key ∈ ecKeys := fun key hkey => List.mem_append_right _ hkey
  have hinnerPart : IsPart (fun c : EcConf => c.inner) fun c v => { c with inner := v } :=
    ⟨fun _ _ => rfl, fun _ _ _ => rfl, fun _ => rfl⟩
  have houterPart : IsPart (fun c : EcConf => c.outer) fun c v => { c with outer := v } :=
    ⟨fun _ _ => rfl, fun _ _ _ => rfl, fun _ => rfl⟩
  have hin := Sets.sub hinner hinnerPart { c with fadcsumChEn := q.fadcsumChEn }
    (ecInner_sets (hw.sub hinner) q.inner c.inner)
  have hout := Sets.sub houter houterPart ⟨q.fadcsumChEn, eightfold q.inner, c.outer⟩
    (ecOuter_sets (hw.sub houter) q.outer c.outer)
  exact .append (.chEn hw (List.Mem.head _) q.fadcsumChEn hin) hout

theorem pc_part : ConfigPart pcKeys (·.pc) fun c v => { c with pc := v } where
  get_put _ _ := rfl
  put_put _ _ _ := rfl
  put_get _ := rfl
  sub key hkey := by
    apply List.mem_append_right
    repeat first | exact List.mem_append_right _ hkey | exact hkey | apply List.mem_append_left

theorem pc_sets (c q : PcConf) : Sets pcKeys (pcLines q) c q := by
  have hw : Words pcKeys := pc_part.words
  refine .chEn hw (List.Mem.head _) q.fadcsumChEn ?_
  repeat' first
    | exact Sets.nil _ | exact rfl | exact List.Mem.head _ | apply List.Mem.tail
    | apply Sets.ints hw

theorem htcc_part : ConfigPart htccKeys (·.htcc) fun c v => { c with htcc := v } where
  get_put _ _ := rfl
  put_put _ _ _ := rfl
  put_get _ := rfl
  sub key hkey := by
    apply List.mem_append_right
    repeat first | exact List.mem_append_right _ hkey | exact hkey | apply List.mem_append_left

theorem htcc_sets (c q : HtccConf) : Sets htccKeys (htccLines q) c q := by
  have hw : Words htccKeys := htcc_part.words
  refine .three hw (fun t c => { c with threshold := t }) (List.Mem.head _) q.threshold ?_
  refine .ints hw (List.Mem.tail _ (List.Mem.head _)) rfl rfl ?_
  refine .three hw (fun t c => { c with ctofThreshold := t })
    (List.Mem.tail _ (List.Mem.tail _ (List.Mem.head _))) q.ctofThreshold ?_
  repeat' first
    | exact Sets.nil _ | exact rfl | exact List.Mem.head _ | apply List.Mem.tail
    | apply Sets.ints hw

theorem ftof_part : ConfigPart ftofKeys (·.ftof) fun c v => { c with ftof := v } where
  get_put _ _ := rfl
  put_put _ _ _ := rfl
  put_get _ := rfl
  sub key hkey := by
    apply List.mem_append_right
    repeat first | exact List.mem_append_right _ hkey | exact hkey | apply List.mem_append_left

theorem ftof_sets (c q : ThresholdConf) : Sets ftofKeys (ftofLines q) c q := by
  have hw : Words ftofKeys := ftof_part.words
  refine .three hw (fun t c => { c with threshold := t }) (List.Mem.head _) q.threshold ?_
  exact .ints hw (List.Mem.tail _ (List.Mem.head _)) rfl rfl (Sets.nil _)

theorem cnd_part : ConfigPart cndKeys (·.cnd) fun c v => { c with cnd := v } where
  get_put _ _ := rfl
  put_put _ _ _ := rfl
  put_get _ := rfl
  sub key hkey := by
    apply List.mem_append_right
    repeat first | exact List.mem_append_right _ hkey | exact hkey | apply List.mem_append_left

theorem cnd_sets (c q : ThresholdConf) : Sets cndKeys (cndLines q) c q := by
  have hw : Words cndKeys := cnd_part.words
  refine .three hw (fun t c => { c with threshold := t }) (List.Mem.head _) q.threshold ?_
  exact .ints hw (List.Mem.tail _ (List.Mem.head _)) rfl rfl (Sets.nil _)

theorem pcs_part : ConfigPart pcsKeys (·.pcs) fun c v => { c with pcs := v } where
  get_put _ _ := rfl
  put_put _ _ _ := rfl
  put_get _ := rfl
  sub key hkey := by
    apply List.mem_append_right
    repeat first | exact List.mem_append_right _ hkey | exact hkey | apply List.mem_append_left

theorem pcs_sets (c q : PcsConf) : Sets pcsKeys (pcsLines q) c q := by
  have hw : Words pcsKeys := pcs_part.words
  refine .three hw (fun t c => { c with threshold := t }) (List.Mem.head _) q.threshold ?_
  refine .ints hw (List.Mem.tail _ (List.Mem.head _)) rfl rfl ?_
  refine .ints hw (List.Mem.tail _ (List.Mem.tail _ (List.Mem.head _))) rfl rfl ?_
  refine .ints hw (by repeat first | exact List.Mem.head _ | apply List.Mem.tail) rfl rfl ?_
  refine .ints hw (by repeat first | exact List.Mem.head _ | apply List.Mem.tail) rfl rfl ?_
  refine .three hw (fun t c => { c with pcuThreshold := t })
    (by repeat first | exact List.Mem.head _ | apply List.Mem.tail) q.pcuThreshold ?_
  repeat' first
    | exact Sets.nil _ | exact rfl | exact List.Mem.head _ | apply List.Mem.tail
    | apply Sets.ints hw

theorem ecs_part : ConfigPart ecsKeys (·.ecs) fun c v => { c with ecs := v } where
  get_put _ _ := rfl
  put_put _ _ _ := rfl
  put_get _ := rfl
  sub key hkey := by
    apply List.mem_append_right
    repeat first | exact List.mem_append_right _ hkey | exact hkey | apply List.mem_append_left

theorem ecsInner_sets (hw : Words ecsInnerKeys) (v w : EcsView) :
    Sets ecsInnerKeys (ecsInnerLines v) w v := by
  repeat' first
    | exact Sets.nil _ | exact rfl | exact List.Mem.head _ | apply List.Mem.tail
    | apply Sets.ints hw

theorem ecsOuter_sets (hw : Words ecsOuterKeys) (v w : EcsView) :
    Sets ecsOuterKeys (ecsOuterLines v) w v := by
  repeat' first
    | exact Sets.nil _ | exact rfl | exact List.Mem.head _ | apply List.Mem.tail
    | apply Sets.ints hw

theorem ecs_sets (c q : EcsConf) : Sets ecsKeys (ecsLines q) c q := by
  have hw : Words ecsKeys := ecs_part.words
  have hinner : ∀ key ∈ onPart (fun c : EcsConf => c.inner) (fun c v => { c with inner := v })
      ecsInnerKeys, key ∈ ecsKeys :=
    fun key hkey => List.mem_append_left _ (List.mem_append_right _ hkey)
  have houter : ∀ key ∈ onPart (fun c : EcsConf => c.outer) (fun c v => { c with outer := v })
      ecsOuterKeys, key ∈ ecsKeys := fun key hkey => List.mem_append_right _ hkey
  have hhead : Sets ecsKeys
      [chLine "VTP_ECS_FADCSUM_CH" q.fadcsumChEn,
       threeLine "VTP_ECS_THRESHOLDS" q.threshold,
       intLine "VTP_ECS_NFRAMES" [q.nframes],
       intLine "VTP_ECS_DIPFACTOR" [q.dipfactor],
       intLine "VTP_ECS_NSTRIP" [q.nstripMin, q.nstripMax],
       intLine "VTP_ECS_DALITZ" [q.dalitzMin, q.dalitzMax]] c
      { q with inner := c.inner, outer := c.outer } := by
    refine .chEn hw (List.Mem.head _) q.fadcsumChEn ?_
    refine .three hw (fun t c => { c with threshold := t }) (List.Mem.tail _ (List.Mem.head _))
      q.threshold ?_
    repeat' first
      | exact Sets.nil _ | exact rfl | exact List.Mem.head _ | apply List.Mem.tail
      | apply Sets.ints hw
  have hinnerPart : IsPart (fun c : EcsConf => c.inner) fun c v => { c with inner := v } :=
    ⟨fun _ _ => rfl, fun _ _ _ => rfl, fun _ => rfl⟩
  have houterPart : IsPart (fun c : EcsConf => c.outer) fun c v => { c with outer := v } :=
    ⟨fun _ _ => rfl, fun _ _ _ => rfl, fun _ => rfl⟩
  have hout := Sets.sub houter houterPart { q with inner := c.inner, outer := c.outer }
    (ecsOuter_sets (hw.sub houter) q.outer c.outer)
  have hin := Sets.sub hinner hinnerPart { q with inner := c.inner }
    (ecsInner_sets (hw.sub hinner) q.inner c.inner)
  exact .append (.append hhead hout) hin

/-! ## HCAL and forward tagger -/

theorem hcal_part : ConfigPart hcalKeys (·.hcal) fun c v => { c with hcal := v } where
  get_put _ _ := rfl
  put_put _ _ _ := rfl
  put_get _ := rfl
  sub key hkey := by
    apply List.mem_append_right
    repeat first | exact List.mem_append_right _ hkey | exact hkey | apply List.mem_append_left

theorem hcal_sets (c q : HcalConf) : Sets hcalKeys (hcalLines q) c q := by
  have hw : Words hcalKeys := hcal_part.words
  repeat' first
    | exact Sets.nil _ | exact rfl | exact List.Mem.head _ | apply List.Mem.tail
    | apply Sets.ints hw

theorem ftcal_part : ConfigPart ftcalKeys (·.ftcal) fun c v => { c with ftcal := v } where
  get_put _ _ := rfl
  put_put _ _ _ := rfl
  put_get _ := rfl
  sub key hkey := by
    apply List.mem_append_right
    repeat first | exact List.mem_append_right _ hkey | exact hkey | apply List.mem_append_left

theorem ftcal_sets (c q : FtcalConf) : Sets ftcalKeys (ftcalLines q) c q := by
  have hw : Words ftcalKeys := ftcal_part.words
  refine .chEn hw (List.Mem.head _) q.fadcsumChEn ?_
  repeat' first
    | exact Sets.nil _ | exact rfl | exact List.Mem.head _ | apply List.Mem.tail
    | apply Sets.ints hw

theorem fthodo_part : ConfigPart fthodoKeys (·.fthodo) fun c v => { c with fthodo := v } where
  get_put _ _ := rfl
  put_put _ _ _ := rfl
  put_get _ := rfl
  sub key hkey := by
    apply List.mem_append_right
    repeat first | exact List.mem_append_right _ hkey | exact hkey | apply List.mem_append_left

theorem fthodo_sets (c q : FthodoConf) :
    Sets fthodoKeys [intLine "VTP_FTHODO_EMIN" [q.hitEmin]] c q :=
  .ints fthodo_part.words (List.Mem.head _) rfl rfl (Sets.nil _)

end VtpStreaming
