import VtpStreaming.Devices

/-!
# What the descriptors of the devices stand for

The table of descriptors against devices with a file of their own. They agree as long as
no device is closed whose number another one has by then. Such a close takes the descriptor
of that one.
-/

namespace VtpStreaming

open Clib Function OwnFile

/-! ## The table -/

namespace OwnFile

def State.dev (o : State) : Device → DevFile
  | .fpga => o.fpga.dev
  | .i2c iid => o.i2c iid
  | .spi => o.spi

theorem State.dev_fpga (o : State) (d : Fpga) :
    { o with fpga := d }.dev = update o.dev .fpga d.dev := by
  funext dev
  cases dev with
  | fpga => rfl
  | i2c iid => rfl
  | spi => rfl

theorem State.dev_i2c (o : State) (iid : Fin 2) (d : DevFile) :
    { o with i2c := update o.i2c iid d }.dev = update o.dev (.i2c iid) d := by
  funext dev
  cases dev with
  | fpga => rfl
  | i2c iid' =>
    rcases eq_or_ne iid' iid with rfl | hne
    · rw [update_self]
      exact update_self _ _ _
    · rw [update_of_ne fun h => hne (Device.i2c.inj h)]
      exact update_of_ne hne _ _
  | spi => rfl

theorem State.dev_spi (o : State) (d : DevFile) :
    { o with spi := d }.dev = update o.dev .spi d := by
  funext dev
  cases dev with
  | fpga => rfl
  | i2c iid => rfl
  | spi => rfl

end OwnFile

/-- The table has the descriptor of every device that is open, and no others. -/
structure Owns (s : Devs) (o : State) : Prop where
  fd : ∀ dev, s.fd dev = (o.dev dev).fd
  vtp : s.vtp = o.fpga.vtp
  files : ∀ n dev, s.files n = some dev ↔ (o.dev dev).file = true ∧ (o.dev dev).fd = n
  positive : ∀ dev, (o.dev dev).file = true → 0 < (o.dev dev).fd

theorem Owns.start : Owns DevState.start.devs State.start where
  fd dev := by cases dev <;> rfl
  vtp := rfl
  files n dev := by
    refine iff_of_false nofun fun h => ?_
    cases dev with
    | fpga | i2c _ | spi => exact Bool.false_ne_true h.1
  positive dev h := by
    cases dev with
    | fpga | i2c _ | spi => exact absurd h Bool.false_ne_true

section

variable {s : Devs} {o o' : State} {dev : Device}

/-- A device that has no descriptor yet gets one that is not used, or none. -/
theorem Owns.open (h : Owns s o) {n : Int} (hfd : s.fd dev ≤ 0) (hzero : n ≠ 0)
    (hfree : s.files n = none) (hdev : o'.dev = update o.dev dev (.opened n))
    (hvtp : o'.fpga.vtp = o.fpga.vtp) : Owns (s.open dev n) o' where
  fd dev' := by
    rw [hdev, Devs.open]
    dsimp only
    rcases eq_or_ne dev' dev with rfl | hne
    · rw [update_self, update_self]
      rfl
    · rw [update_of_ne hne, update_of_ne hne]
      exact h.fd dev'
  vtp := h.vtp.trans hvtp.symm
  files m dev' := by
    have hclosed : ¬(o.dev dev).file = true := fun hfile => by
      have hpos := h.positive dev hfile
      rw [← h.fd] at hpos
      exact absurd hfd (not_le.mpr hpos)
    rw [hdev, Devs.open]
    dsimp only
    rcases eq_or_ne dev' dev with rfl | hne
    · rw [update_self, DevFile.opened]
      by_cases hpos : 0 ≤ n
      · rw [if_pos hpos, decide_eq_true hpos]
        rcases eq_or_ne m n with rfl | hm
        · rw [update_self]
          exact iff_of_true rfl ⟨rfl, rfl⟩
        · rw [update_of_ne hm, h.files]
          exact iff_of_false (fun h => hclosed h.1) fun h => hm h.2.symm
      · rw [if_neg hpos, decide_eq_false hpos, h.files]
        exact iff_of_false (fun h => hclosed h.1) fun h => Bool.false_ne_true h.1
    · -- the number was nobody's, so no other device loses its file
      rw [update_of_ne hne, ← h.files]
      split
      · rcases eq_or_ne m n with rfl | hm
        · rw [update_self, hfree]
          exact iff_of_false (fun h => hne (Option.some.inj h).symm) nofun
        · rw [update_of_ne hm]
      · exact Iff.rfl
  positive dev' hfile := by
    rw [hdev] at hfile ⊢
    rcases eq_or_ne dev' dev with rfl | hne
    · rw [update_self, DevFile.opened] at hfile ⊢
      exact lt_of_le_of_ne (of_decide_eq_true hfile) hzero.symm
    · rw [update_of_ne hne] at hfile ⊢
      exact h.positive dev' hfile

/-- A device is closed whose number is no other device's. -/
theorem Owns.close (h : Owns s o) (hown : ∀ dev', s.files (s.fd dev) = some dev' → dev' = dev)
    (hdev : o'.dev = update o.dev dev (o.dev dev).closed) (hvtp : o'.fpga.vtp = o.fpga.vtp) :
    Owns (s.close dev) o' where
  fd dev' := by
    rw [hdev, Devs.close]
    dsimp only
    rcases eq_or_ne dev' dev with rfl | hne
    · rw [update_self]
      exact h.fd dev'
    · rw [update_of_ne hne]
      exact h.fd dev'
  vtp := h.vtp.trans hvtp.symm
  files m dev' := by
    rw [hdev, Devs.close]
    dsimp only
    rcases eq_or_ne dev' dev with rfl | hne
    · rw [update_self, DevFile.closed]
      refine iff_of_false (fun hm => ?_) fun h => Bool.false_ne_true h.1
      rcases eq_or_ne m (s.fd dev') with rfl | hother
      · rw [update_self] at hm
        cases hm
      · rw [update_of_ne hother, h.files] at hm
        exact hother (hm.2.symm.trans (h.fd dev').symm)
    · rw [update_of_ne hne, ← h.files]
      rcases eq_or_ne m (s.fd dev) with rfl | hother
      · rw [update_self]
        exact iff_of_false nofun fun h => hne (hown dev' h)
      · rw [update_of_ne hother]
  positive dev' hfile := by
    rw [hdev] at hfile ⊢
    rcases eq_or_ne dev' dev with rfl | hne
    · rw [update_self, DevFile.closed] at hfile
      exact absurd hfile Bool.false_ne_true
    · rw [update_of_ne hne] at hfile ⊢
      exact h.positive dev' hfile

theorem Owns.point (h : Owns s o) (v : RegPointer) :
    Owns { s with vtp := v } { o with fpga := { o.fpga with vtp := v } } := by
  have hdev : { o with fpga := { o.fpga with vtp := v } }.dev = o.dev := by
    rw [State.dev_fpga]
    exact update_eq_self _ _
  constructor
  · rw [hdev]
    exact h.fd
  · rfl
  · rw [hdev]
    exact h.files
  · rw [hdev]
    exact h.positive

/-- The device is open when the table has its number for it. -/
theorem Owns.file_iff (h : Owns s o) : s.files (s.fd dev) = some dev ↔ (o.dev dev).file = true := by
  rw [h.files]
  exact and_iff_left (h.fd dev).symm

end

/-! ## Opening -/

section

variable {a : OpenAnswers} {files : Int → Option Device} {s : Devs} {o : State}
  {rest : Device → Prop}

/-- The answers for `rest` are still not used. -/
def Spare (a : OpenAnswers) (s : Devs) (rest : Device → Prop) : Prop :=
  ∀ dev, rest dev → s.files (a.fd dev) = none

theorem Spare.open (h : Spare a s rest) (ha : a.Unused files) (dev : Device) :
    Spare a (s.open dev (a.fd dev)) fun dev' => rest dev' ∧ dev' ≠ dev := by
  rintro dev' ⟨hrest, hne⟩
  rw [Devs.open]
  dsimp only
  split
  · next hpos =>
    have hother : a.fd dev' ≠ a.fd dev := fun heq =>
      hne (ha.distinct dev dev' (lt_of_le_of_ne hpos (ha.nonzero dev).symm) heq.symm).symm
    rw [update_of_ne hother]
    exact h dev' hrest
  · exact h dev' hrest

/-- Both come to the same code and the same devices, and the rest can be opened. -/
structure Agree (a : OpenAnswers) (rest : Device → Prop) (c : Int × Devs) (code : Int)
    (o : State) : Prop where
  code : c.1 = code
  owns : Owns c.2 o
  spare : Spare a c.2 rest

theorem vtpFPGAOpen_agree (ha : a.Unused files) (h : Owns s o)
    (hspare : Spare a s fun _ => True) :
    Agree a (· ≠ .fpga) (vtpFPGAOpen a s) (openFpga a o.fpga).1
      { o with fpga := (openFpga a o.fpga).2 } := by
  have hfd : s.fd .fpga = o.fpga.dev.fd := h.fd .fpga
  rw [vtpFPGAOpen, openFpga, hfd]
  by_cases hpos : 0 < o.fpga.dev.fd
  · rw [if_pos hpos, if_pos hpos]
    exact ⟨rfl, h, fun dev _ => hspare dev trivial⟩
  · rw [if_neg hpos, if_neg hpos]
    have hopen : Owns (s.open .fpga (a.fd .fpga))
        { o with fpga := { o.fpga with dev := .opened (a.fd .fpga) } } :=
      h.open (hfd ▸ not_lt.mp hpos) (ha.nonzero _) (hspare _ trivial) (State.dev_fpga ..) rfl
    have hleft : Spare a (s.open .fpga (a.fd .fpga)) (· ≠ .fpga) :=
      fun dev hne => hspare.open ha .fpga dev ⟨trivial, hne⟩
    dsimp only
    split
    · exact ⟨rfl, hopen, hleft⟩
    · split
      · exact ⟨rfl, hopen.point .mapped, hleft⟩
      · exact ⟨rfl, hopen.point .failed, hleft⟩

theorem vtpI2COpen_agree (ha : a.Unused files) (h : Owns s o) (hspare : Spare a s (· ≠ .fpga)) :
    Agree a (· = .spi) (vtpI2COpen a s) (OwnFile.openI2c a o.i2c).1
      { o with i2c := (OwnFile.openI2c a o.i2c).2 } := by
  have hids : List.finRange 2 = [0, 1] := rfl
  have hfd : s.fd (.i2c 0) = (o.i2c 0).fd := h.fd (.i2c 0)
  rw [vtpI2COpen, hids, openI2c, OwnFile.openI2c, hfd]
  by_cases hpos : 0 < (o.i2c 0).fd
  · rw [if_pos hpos, if_pos hpos]
    exact ⟨rfl, h, fun dev hdev => hspare dev (by rw [hdev]; decide)⟩
  · rw [if_neg hpos, if_neg hpos]
    let s₀ := s.open (.i2c 0) (a.fd (.i2c 0))
    let o₀ := { o with i2c := update o.i2c 0 (.opened (a.fd (.i2c 0))) }
    have hopen : Owns s₀ o₀ :=
      h.open (hfd ▸ not_lt.mp hpos) (ha.nonzero _) (hspare _ (by decide)) (State.dev_i2c ..) rfl
    have hleft := hspare.open ha (.i2c 0)
    have hspi : Spare a s₀ (· = .spi) :=
      fun dev hdev => hleft dev (by rw [hdev]; exact ⟨by decide, by decide⟩)
    dsimp only
    by_cases hneg : a.fd (.i2c 0) < 0
    · rw [if_pos hneg, if_pos hneg]
      exact ⟨rfl, hopen, hspi⟩
    · have hfd₁ : s₀.fd (.i2c 1) = (o₀.i2c 1).fd := hopen.fd (.i2c 1)
      rw [if_neg hneg, if_neg hneg, openI2c, hfd₁]
      by_cases hpos₁ : 0 < (o₀.i2c 1).fd
      · rw [if_pos hpos₁, if_pos hpos₁]
        exact ⟨rfl, hopen, hspi⟩
      · rw [if_neg hpos₁, if_neg hpos₁]
        have hopen₁ : Owns (s₀.open (.i2c 1) (a.fd (.i2c 1)))
            { o₀ with i2c := update o₀.i2c 1 (.opened (a.fd (.i2c 1))) } :=
          hopen.open (hfd₁ ▸ not_lt.mp hpos₁) (ha.nonzero _)
            (hleft _ ⟨by decide, by decide⟩) (State.dev_i2c ..) rfl
        have hspi₁ : Spare a (s₀.open (.i2c 1) (a.fd (.i2c 1))) (· = .spi) :=
          fun dev hdev => hspi.open ha (.i2c 1) dev ⟨hdev, by rw [hdev]; decide⟩
        dsimp only
        split
        · exact ⟨rfl, hopen₁, hspi₁⟩
        · exact ⟨rfl, hopen₁, hspi₁⟩

theorem vtpSPIOpen_agree (ha : a.Unused files) (h : Owns s o) (hspare : Spare a s (· = .spi)) :
    Agree a (fun _ => False) (vtpSPIOpen a s) (openSpi a o.spi).1
      { o with spi := (openSpi a o.spi).2 } := by
  have hfd : s.fd .spi = o.spi.fd := h.fd .spi
  rw [vtpSPIOpen, openSpi, hfd]
  by_cases hpos : 0 < o.spi.fd
  · rw [if_pos hpos, if_pos hpos]
    exact ⟨rfl, h, fun _ => False.elim⟩
  · rw [if_neg hpos, if_neg hpos]
    have hopen : Owns (s.open .spi (a.fd .spi)) { o with spi := .opened (a.fd .spi) } :=
      h.open (hfd ▸ not_lt.mp hpos) (ha.nonzero _) (hspare _ rfl) (State.dev_spi ..) rfl
    dsimp only
    split
    · exact ⟨rfl, hopen, fun _ => False.elim⟩
    · exact ⟨rfl, hopen, fun _ => False.elim⟩

end

/-! ## Closing -/

section

variable {s : Devs} {o : State} {rest : Device → Prop}

/-- The numbers of the devices of `rest` are no other device's. -/
def Own (s : Devs) (rest : Device → Prop) : Prop :=
  ∀ dev, rest dev → ∀ dev', s.files (s.fd dev) = some dev' → dev' = dev

/-- A close gives nothing to anybody. -/
theorem Own.close (h : Own s rest) (dev : Device) : Own (s.close dev) rest := by
  intro dev' hrest dev'' hfile
  have hfile : update s.files (s.fd dev) none (s.fd dev') = some dev'' := hfile
  rcases eq_or_ne (s.fd dev') (s.fd dev) with heq | hother
  · rw [heq, update_self] at hfile
    cases hfile
  · rw [update_of_ne hother] at hfile
    exact h dev' hrest dev'' hfile

theorem vtpSPIClose_agree (h : Owns s o) (hown : Own s (· = .spi)) :
    (vtpSPIClose s).1 = (closeSpi o.spi).1 ∧
      Owns (vtpSPIClose s).2 { o with spi := (closeSpi o.spi).2 } := by
  have hfd : s.fd .spi = o.spi.fd := h.fd .spi
  rw [vtpSPIClose, closeSpi, hfd]
  by_cases hpos : o.spi.fd ≤ 0
  · rw [if_pos hpos, if_pos hpos]
    exact ⟨rfl, h⟩
  · rw [if_neg hpos, if_neg hpos]
    exact ⟨rfl, h.close (hown .spi rfl) (State.dev_spi ..) rfl⟩

theorem vtpI2CClose_agree (h : Owns s o) (hown : Own s fun dev => ∃ iid, dev = .i2c iid) :
    (vtpI2CClose s).1 = (OwnFile.closeI2c o.i2c).1 ∧
      Owns (vtpI2CClose s).2 { o with i2c := (OwnFile.closeI2c o.i2c).2 } := by
  have hids : List.finRange 2 = [0, 1] := rfl
  have hfd : s.fd (.i2c 0) = (o.i2c 0).fd := h.fd (.i2c 0)
  rw [vtpI2CClose, hids, closeI2c, OwnFile.closeI2c, hfd]
  by_cases hpos : (o.i2c 0).fd ≤ 0
  · rw [if_pos hpos, if_pos hpos]
    exact ⟨rfl, h⟩
  · rw [if_neg hpos, if_neg hpos]
    let o₀ := { o with i2c := update o.i2c 0 (o.i2c 0).closed }
    have hclose : Owns (s.close (.i2c 0)) o₀ :=
      h.close (hown (.i2c 0) ⟨0, rfl⟩) (State.dev_i2c ..) rfl
    have hfd₁ : (s.close (.i2c 0)).fd (.i2c 1) = (o₀.i2c 1).fd := hclose.fd (.i2c 1)
    dsimp only
    rw [closeI2c, hfd₁]
    by_cases hpos₁ : (o₀.i2c 1).fd ≤ 0
    · rw [if_pos hpos₁, if_pos hpos₁]
      exact ⟨rfl, hclose⟩
    · rw [if_neg hpos₁, if_neg hpos₁]
      have hown₁ := hown.close (.i2c 0) (.i2c 1) ⟨1, rfl⟩
      have hboth : Owns ((s.close (.i2c 0)).close (.i2c 1))
          { o₀ with i2c := update o₀.i2c 1 (o₀.i2c 1).closed } :=
        hclose.close hown₁ (State.dev_i2c ..) rfl
      exact ⟨rfl, hboth⟩

theorem vtpFPGAClose_agree (h : Owns s o) (hown : Own s (· = .fpga)) :
    (vtpFPGAClose s).1 = (closeFpga o.fpga).1 ∧
      Owns (vtpFPGAClose s).2 { o with fpga := (closeFpga o.fpga).2 } := by
  have hfd : s.fd .fpga = o.fpga.dev.fd := h.fd .fpga
  rw [vtpFPGAClose, closeFpga, hfd]
  by_cases hneg : o.fpga.dev.fd < 0
  · rw [if_pos hneg, if_pos hneg]
    exact ⟨rfl, h⟩
  · rw [if_neg hneg, if_neg hneg]
    exact ⟨rfl, (h.point .null).close (hown .fpga rfl) (State.dev_fpga ..) rfl⟩

end

/-! ## Runs -/

section

variable {D : Type} {p : Devs → D → Prop} {f : Devs → Int × Devs} {g : D → Int × D}
  {c : Devs × Word} {d : D × Word}

/-- The same branch is taken with the same code. -/
theorem openDev_agree (bit devMask : Word) (hmask : c.2 = d.2) (hstay : p c.1 d.1)
    (hcode : (f c.1).1 = (g d.1).1) (hdo : p (f c.1).2 (g d.1).2) :
    p (openDev bit f devMask c).1 (openDev bit g devMask d).1 ∧
      (openDev bit f devMask c).2 = (openDev bit g devMask d).2 := by
  unfold openDev
  rw [hmask]
  split
  · exact ⟨hstay, hmask⟩
  · split
    · exact ⟨hstay, hmask⟩
    · exact ⟨hdo, by dsimp only; rw [hcode]⟩

theorem closeDev_agree (bit devMask : Word) (hmask : c.2 = d.2) (hstay : p c.1 d.1)
    (hdo : devMask &&& bit ≠ 0#32 → (f c.1).1 = (g d.1).1 ∧ p (f c.1).2 (g d.1).2) :
    p (closeDev bit f devMask c).1 (closeDev bit g devMask d).1 ∧
      (closeDev bit f devMask c).2 = (closeDev bit g devMask d).2 := by
  unfold closeDev
  rw [hmask]
  split
  · exact ⟨hstay, hmask⟩
  · next hhit =>
    obtain ⟨hcode, hp⟩ := hdo hhit
    exact ⟨hp, by dsimp only; rw [hcode]⟩

end

/-- The devices are those of `o`, and so is the mask. -/
structure Matches (s : DevState) (o : State) : Prop where
  owns : Owns s.devs o
  mask : s.mask = o.mask

section

variable {s : DevState} {o : State}

theorem Owns.withMask {s : Devs} (h : Owns s o) (mask : Word) : Owns s { o with mask := mask } where
  fd := h.fd
  vtp := h.vtp
  files := h.files
  positive := h.positive

theorem vtpOpen_matches (h : Matches s o) {a : OpenAnswers} (ha : a.Unused s.devs.files)
    (devMask : Word) : Matches (vtpOpen devMask a s) (openAll devMask a o) := by
  have hspare : Spare a s.devs fun _ => True := fun dev _ => ha.unused dev
  let d₁ := openDev vtpFpgaOpen (openFpga a) devMask (o.fpga, o.mask)
  have hfpga := vtpFPGAOpen_agree ha h.owns hspare
  obtain ⟨⟨howns₁, hspare₁⟩, hmask₁⟩ := @openDev_agree _
    (fun s d => Owns s { o with fpga := d } ∧ Spare a s (· ≠ .fpga)) _ _
    (s.devs, s.mask) (o.fpga, o.mask) vtpFpgaOpen devMask h.mask
    ⟨h.owns, fun dev _ => hspare dev trivial⟩ hfpga.code ⟨hfpga.owns, hfpga.spare⟩
  let d₂ := openDev vtpI2cOpen (OwnFile.openI2c a) devMask (o.i2c, d₁.2)
  have hi2c := vtpI2COpen_agree ha howns₁ hspare₁
  obtain ⟨⟨howns₂, hspare₂⟩, hmask₂⟩ := @openDev_agree _
    (fun s d => Owns s { o with fpga := d₁.1, i2c := d } ∧ Spare a s (· = .spi)) _ _
    _ (o.i2c, d₁.2) vtpI2cOpen devMask hmask₁
    ⟨howns₁, fun dev hdev => hspare₁ dev (by rw [hdev]; decide)⟩ hi2c.code
    ⟨hi2c.owns, hi2c.spare⟩
  have hspi := vtpSPIOpen_agree ha howns₂ hspare₂
  obtain ⟨howns₃, hmask₃⟩ := @openDev_agree _
    (fun s d => Owns s { o with fpga := d₁.1, i2c := d₂.1, spi := d }) _ _
    _ (o.spi, d₂.2) vtpSpiOpen devMask hmask₂ howns₂ hspi.code hspi.owns
  exact ⟨howns₃.withMask _, hmask₃⟩

theorem Own.mono {s : Devs} {rest rest' : Device → Prop} (h : Own s rest)
    (hsub : ∀ dev, rest' dev → rest dev) : Own s rest' :=
  fun dev hdev => h dev (hsub dev hdev)

theorem vtpSPIClose_own {s : Devs} {rest : Device → Prop} (h : Own s rest) :
    Own (vtpSPIClose s).2 rest := by
  rw [vtpSPIClose]
  split
  · exact h
  · exact h.close .spi

theorem vtpI2CClose_own {s : Devs} {rest : Device → Prop} (h : Own s rest) :
    Own (vtpI2CClose s).2 rest := by
  have hids : List.finRange 2 = [0, 1] := rfl
  rw [vtpI2CClose, hids, closeI2c]
  split
  · exact h
  · have hfirst := h.close (.i2c 0)
    rw [closeI2c]
    split
    · exact hfirst
    · exact hfirst.close (.i2c 1)

theorem vtpClose_matches (h : Matches s o) {devMask : Word}
    (hproper : DevCall.Proper s (.closing devMask)) :
    Matches (vtpClose devMask s) (closeAll devMask o) := by
  let hit : Device → Prop := fun dev => devMask &&& dev.bit ≠ 0#32
  have hown : Own s.devs hit := fun dev hhit dev' => hproper dev dev' hhit
  let d₁ := closeDev vtpSpiOpen closeSpi devMask (o.spi, o.mask)
  obtain ⟨⟨howns₁, hown₁⟩, hmask₁⟩ := @closeDev_agree _
    (fun s d => Owns s { o with spi := d } ∧ Own s hit) _ _
    (s.devs, s.mask) (o.spi, o.mask) vtpSpiOpen devMask h.mask ⟨h.owns, hown⟩ (fun hhit => by
      obtain ⟨hcode, howns⟩ := vtpSPIClose_agree h.owns (hown.mono fun _ hdev => hdev ▸ hhit)
      exact ⟨hcode, howns, vtpSPIClose_own hown⟩)
  let d₂ := closeDev vtpI2cOpen OwnFile.closeI2c devMask (o.i2c, d₁.2)
  obtain ⟨⟨howns₂, hown₂⟩, hmask₂⟩ := @closeDev_agree _
    (fun s d => Owns s { o with spi := d₁.1, i2c := d } ∧ Own s hit) _ _
    _ (o.i2c, d₁.2) vtpI2cOpen devMask hmask₁ ⟨howns₁, hown₁⟩ (fun hhit => by
      obtain ⟨hcode, howns⟩ := vtpI2CClose_agree howns₁
        (hown₁.mono fun _ ⟨_, hdev⟩ => by rw [hdev]; exact hhit)
      exact ⟨hcode, howns, vtpI2CClose_own hown₁⟩)
  obtain ⟨howns₃, hmask₃⟩ := @closeDev_agree _
    (fun s d => Owns s { o with spi := d₁.1, i2c := d₂.1, fpga := d }) _ _
    _ (o.fpga, d₂.2) vtpFpgaOpen devMask hmask₂ howns₂ (fun hhit =>
      vtpFPGAClose_agree howns₂ (hown₂.mono fun _ hdev => hdev ▸ hhit))
  exact ⟨howns₃.withMask _, hmask₃⟩

/-- The step lemma. -/
theorem DevCall.run_matches (h : Matches s o) {c : DevCall} (hproper : c.Proper s) :
    Matches (c.run s) (OwnFile.run o c) ∧ Nonzero c := by
  cases c with
  | opening devMask a => exact ⟨vtpOpen_matches h hproper devMask, hproper.nonzero⟩
  | closing devMask => exact ⟨vtpClose_matches h hproper, trivial⟩

/-- The run lemma. -/
theorem ProperRun.matches {calls : List DevCall} (proper : ProperRun s calls) (h : Matches s o) :
    Matches (calls.foldl DevCall.run s) (calls.foldl OwnFile.run o) ∧ ∀ c ∈ calls, Nonzero c := by
  induction calls generalizing s o with
  | nil => exact ⟨h, List.forall_mem_nil _⟩
  | cons c calls ih =>
    obtain ⟨hone, hzero⟩ := DevCall.run_matches h proper.1
    obtain ⟨hall, hzeros⟩ := ih proper.2 hone
    exact ⟨hall, List.forall_mem_cons.mpr ⟨hzero, hzeros⟩⟩

end

/-! ## The result -/

/-- What the call makes of the lock. An open that cannot have the shared memory leaves it
as it is. -/
def DevCall.lock : DevCall → Option Bool
  | .opening _ a => if a.shm then some true else none
  | .closing _ => some false

theorem lock_after (calls : List DevCall) :
    (runDevCalls calls).shm = latest DevCall.lock false calls := by
  induction calls using List.reverseRecOn with
  | nil => rfl
  | append_singleton calls c ih =>
    rw [latest_concat, ← ih, runDevCalls, List.foldl_append]
    cases c with
    | opening devMask a =>
      rw [DevCall.lock]
      cases h : a.shm with
      | false => exact (congrArg (_ || ·) h).trans (Bool.or_false _)
      | true => exact (congrArg (_ || ·) h).trans (Bool.or_true _)
    | closing devMask => rfl

/-- A call that gets a descriptor ends the time without one. -/
theorem not_fresh_of_gets {gets uses closes : DevCall → Bool} {calls : List DevCall}
    (h : ∃ c ∈ calls, gets c = true) : Latch.after gets uses closes calls ≠ .fresh := by
  obtain ⟨c, hc, hgets⟩ := h
  intro hfresh
  rw [(Latch.fresh_iff calls).mp hfresh c hc] at hgets
  cases hgets

/-- The number in the variable of the device is one of the device. -/
def Devs.IsOpen (s : Devs) (dev : Device) : Prop := s.files (s.fd dev) = some dev

instance (s : Devs) (dev : Device) : Decidable (s.IsOpen dev) :=
  inferInstanceAs (Decidable (_ = _))

/-- For all calls that a process makes, as long as the system opens with numbers that are not
used and no device is closed whose number another one has by then. The registers are mapped,
and a device has an open descriptor, when the first open that got a descriptor for it went
well and no close of it has come since, so never again after a close. Every open still
reports the device. The lock is there when no close of any device has come since it was
opened. -/
theorem devices_open_once {calls : List DevCall} (proper : ProperRun .start calls) :
    ((runDevCalls calls).devs.vtp = .mapped ↔
        OpenedOnce (DevCall.gets .fpga) (DevCall.uses OpenAnswers.mmap) (DevCall.closes .fpga)
          calls) ∧
      (∀ iid, (runDevCalls calls).devs.IsOpen (.i2c iid) ↔
        OpenedOnce (DevCall.gets (.i2c 0)) (DevCall.uses fun a => decide (0 < a.fd (.i2c iid)))
          (DevCall.closes (.i2c 0)) calls) ∧
      ((runDevCalls calls).devs.IsOpen .spi ↔
        OpenedOnce (DevCall.gets .spi) (DevCall.uses fun _ => true) (DevCall.closes .spi) calls) ∧
      (∀ devMask a, a.Unused (runDevCalls calls).devs.files → ∀ dev ∈ [.fpga, .i2c 0, .spi],
        devMask &&& dev.bit ≠ 0#32 → (∃ c ∈ calls, c.gets dev = true) →
          (vtpOpen devMask a (runDevCalls calls)).mask &&& dev.bit ≠ 0#32) ∧
      (runDevCalls calls).shm = latest DevCall.lock false calls := by
  obtain ⟨hmatch, nonzero⟩ := proper.matches ⟨Owns.start, rfl⟩
  have hfpga := fpga_told nonzero
  have hi2c := i2c_told nonzero
  have hspi := spi_told nonzero
  refine ⟨?_, fun iid => ?_, ?_, fun devMask a ha => ?_, lock_after calls⟩
  · have hpointer : (runDevCalls calls).devs.vtp = (runAll calls).fpga.vtp := hmatch.owns.vtp
    rw [hpointer]
    exact hfpga.1.mapped_iff.trans (Latch.live_iff calls)
  · exact hmatch.owns.file_iff.trans ((hi2c iid).1.file_iff.trans (Latch.live_iff calls))
  · exact hmatch.owns.file_iff.trans (hspi.1.file_iff.trans (Latch.live_iff calls))
  · have hnext := (vtpOpen_matches hmatch ha devMask).mask
    have hmask : (vtpOpen devMask a (runDevCalls calls)).mask =
        (openAll devMask a (runAll calls)).mask := hnext
    rw [hmask, List.forall_mem_cons, List.forall_mem_cons, List.forall_mem_singleton]
    refine ⟨fun hhit hgot => ?_, fun hhit hgot => ?_, fun hhit hgot => ?_⟩
    · have htold := fpga_once.reported (not_fresh_of_gets hgot) hfpga hhit a
      rw [show Device.fpga.bit = vtpFpgaOpen from rfl, ← openAll_fpga] at htold
      exact of_decide_eq_true htold
    · have htold := (i2c_once 0).reported (not_fresh_of_gets hgot) (hi2c 0) hhit a
      rw [show (Device.i2c 0).bit = vtpI2cOpen from rfl, ← openAll_i2c] at htold
      exact of_decide_eq_true htold
    · have htold := spi_once.reported (not_fresh_of_gets hgot) hspi hhit a
      rw [show Device.spi.bit = vtpSpiOpen from rfl, ← openAll_spi] at htold
      exact of_decide_eq_true htold

/-- A system that opens everything. -/
def devAnswers : OpenAnswers where
  fd
    | .fpga => 3
    | .i2c iid => 4 + iid.val
    | .spi => 6
  mmap := true
  shm := true

theorem devAnswers_unused : devAnswers.Unused fun _ => none where
  nonzero dev := by
    cases dev with
    | fpga => decide
    | i2c iid => exact fun (h : (4 : Int) + iid.val = 0) => by omega
    | spi => decide
  unused _ := rfl
  distinct dev dev' _ h := by
    cases dev with
    | fpga =>
      cases dev' with
      | fpga => rfl
      | i2c iid =>
        have heq : (3 : Int) = 4 + iid.val := h
        omega
      | spi => exact absurd h (by decide)
    | i2c iid =>
      cases dev' with
      | fpga =>
        have heq : (4 : Int) + iid.val = 3 := h
        omega
      | i2c iid' =>
        have heq : (4 : Int) + iid.val = 4 + iid'.val := h
        exact congrArg Device.i2c (Fin.ext (by omega))
      | spi =>
        have heq : (4 : Int) + iid.val = 6 := h
        omega
    | spi =>
      cases dev' with
      | fpga => exact absurd h (by decide)
      | i2c iid =>
        have heq : (6 : Int) = 4 + iid.val := h
        omega
      | spi => rfl

/-- A close of the registers leaves the others open. -/
theorem devices_open_once_spi :
    (runDevCalls [.opening 7#32 devAnswers, .closing 1#32]).devs.IsOpen .spi := by
  have hclose : DevCall.Proper (vtpOpen 7#32 devAnswers .start) (.closing 1#32) := by
    intro dev dev' hhit hfile
    cases dev with
    | fpga => exact (Option.some.inj hfile).symm
    | i2c iid => exact absurd (show 1#32 &&& vtpI2cOpen = 0#32 by decide) hhit
    | spi => exact absurd (show 1#32 &&& vtpSpiOpen = 0#32 by decide) hhit
  have hspi := (@devices_open_once [.opening 7#32 devAnswers, .closing 1#32]
    ⟨devAnswers_unused, hclose, trivial⟩).2.2.1
  refine hspi.mpr ⟨[], _, [.closing 1#32], rfl, List.forall_mem_nil _, rfl, rfl, ?_⟩
  exact List.forall_mem_singleton.mpr rfl

-- after a reopen the mask is full and nothing is open
example :
    let s := runDevCalls [.opening 7#32 devAnswers, .closing 7#32, .opening 7#32 devAnswers]
    s.mask = 7#32 ∧ ∀ dev ∈ [.fpga, .i2c 0, .i2c 1, .spi], ¬s.devs.IsOpen dev := by
  decide

/-- A system that gives the number of the registers away. -/
def reusingAnswers : OpenAnswers where
  fd
    | .fpga => -1
    | .i2c iid => 3 + iid.val
    | .spi => -1
  mmap := true
  shm := true

-- the second close of the registers closes the first I2C device, which is still reported
example :
    let s := runDevCalls
      [.opening 1#32 devAnswers, .closing 1#32, .opening 2#32 reusingAnswers, .closing 1#32]
    ¬s.devs.IsOpen (.i2c 0) ∧ s.devs.IsOpen (.i2c 1) ∧ s.mask = 2#32 := by
  decide

end VtpStreaming
