import VtpStreaming.Quantities
import VtpStreaming.StatsSender

/-!
# The registers of the event builder in a run

`vtpStreamingSetEbCfg` programs the event builder. From then on its registers are
only read, changed and written back: the inputs are switched on and off, the
builder is stopped and started, and each control event names its stream.
-/

namespace VtpStreaming

open Clib VtpLib

/-! ## Fields -/

/-- `Ctrl`: the frame length and the payload ports. -/
def ebLayout : BitField 32 := ⟨0, 30, by decide⟩

/-- `Ctrl3`: the number of streams. -/
def ebStreams : BitField 32 := ⟨0, 3, by decide⟩

/-- `Ctrl3`: the network port of the asynchronous events. -/
def ebPort : BitField 32 := ⟨4, 2, by decide⟩

/-! ## Operations -/

/-- The calls of a run. An `int` instance is given by its 32 bits: a negative one is
past 3. -/
inductive EbOp
  | ebEnable (mask : Word)
  | ebDisable (dmask : Word)
  | ebGo
  | ebReset
  | tcpConnect (inst : Word) (connect : Int) (opens : 0 < connect) (cdata : List Word)
  | evioWriteControl (inst type val0 val1 : Word)

def EbOp.run (lib : VtpLib) : EbOp → Regs → Option Regs
  | .ebEnable mask => vtpStreamingEbEnable mask
  | .ebDisable dmask => vtpStreamingEbDisable dmask
  | .ebGo => fun r => some (vtpStreamingEbGo r)
  | .ebReset => fun r => some (vtpStreamingEbReset r)
  | .tcpConnect inst connect _ cdata => lib.vtpStreamingTcpConnect inst.toNat connect cdata
  | .evioWriteControl inst type val0 val1 =>
      lib.vtpStreamingEvioWriteControl inst.toNat type val0 val1

/-- The mask or the instance is one that the call takes. -/
def EbOp.Accepted : EbOp → Prop
  | .ebEnable mask => mask &&& strebEnableMask = 0#32
  | .ebDisable dmask => dmask &&& strebEnableMask = 0#32
  | .ebGo => True
  | .ebReset => True
  | .tcpConnect inst _ _ _ => inst.toNat < 4
  | .evioWriteControl inst _ _ _ => inst.toNat < 4

instance : DecidablePred EbOp.Accepted
  | .ebEnable _ => inferInstanceAs (Decidable (_ = _))
  | .ebDisable _ => inferInstanceAs (Decidable (_ = _))
  | .ebGo => inferInstanceAs (Decidable True)
  | .ebReset => inferInstanceAs (Decidable True)
  | .tcpConnect _ _ _ _ => inferInstanceAs (Decidable (_ < _))
  | .evioWriteControl _ _ _ _ => inferInstanceAs (Decidable (_ < _))

def ebRun (lib : VtpLib) (ops : List EbOp) (r : Regs) : Regs :=
  ops.foldl (fun r op => call (op.run lib) r) r

/-! ## What a run is for -/

/-- The port, the inputs and the state that the calls have asked for. -/
structure EbView where
  port : Word
  inputs : Word
  stopped : Bool

namespace EbView

/-- After `vtpStreamingSetEbCfg`: the cMsg header is on, and the builder in reset. -/
def start : EbView := { port := 0#32, inputs := 0x08#32, stopped := true }

/-- What an accepted call asks for. -/
def apply (v : EbView) : EbOp → EbView
  | .ebEnable mask => { v with inputs := v.inputs ||| mask, stopped := false }
  | .ebDisable dmask => { v with inputs := v.inputs &&& ~~~dmask, stopped := true }
  | .ebGo => { v with stopped := false }
  | .ebReset => { v with stopped := true }
  | .tcpConnect inst _ _ _ => { v with port := inst, stopped := false }
  | .evioWriteControl inst _ _ _ => { v with port := inst }

def step (v : EbView) (op : EbOp) : EbView := if op.Accepted then v.apply op else v

/-- After a run of calls. -/
def after (ops : List EbOp) : EbView := ops.foldl step start

end EbView

/-- The registers show what was asked for, and keep what was programmed in `prog`. -/
structure EbShows (prog : StreamingEbRegs) (v : EbView) (eb : StreamingEbRegs) : Prop where
  layout : ebLayout.get eb.ctrl = ebLayout.get prog.ctrl
  rocid : eb.rocid = prog.rocid
  streams : ebStreams.get eb.ctrl3 = ebStreams.get prog.ctrl3
  port : ebPort.get eb.ctrl3 = v.port
  inputs : ∀ i ∈ [3, 6, 7, 8], eb.ctrl3.getLsbD i = v.inputs.getLsbD i
  stopped : eb.ctrl.getLsbD 31 = v.stopped

/-! ## Words -/

section Accepted

variable {mask : Word} (accepted : mask &&& strebEnableMask = 0#32)

include accepted

/-- An accepted mask has none of the bits that are not for the caller. -/
theorem getLsbD_of_accepted {i : Nat} (hi : strebEnableMask.getLsbD i = true) :
    mask.getLsbD i = false := by
  have hbit := congrArg (fun w : Word => w.getLsbD i) accepted
  simpa [hi] using hbit

theorem get_of_accepted {f : BitField 32} (hf : f.get strebEnableMask = f.low) :
    f.get mask = 0#32 := by
  have hspares : f.get (mask &&& strebEnableMask) = f.get mask := BitField.get_and_of_spares hf mask
  rw [← hspares, accepted, BitField.get_zero]

/-- Its complement spares the fields. -/
theorem get_not_of_accepted {f : BitField 32} (hf : f.get strebEnableMask = f.low) :
    f.get (~~~mask) = f.low := by
  have hfits := f.fits
  apply BitVec.eq_of_getLsbD_eq
  intro i _
  rw [BitField.getLsbD_get, BitField.getLsbD_low]
  cases hi : decide (i < f.width) with
  | false => rfl
  | true =>
    have hlt : i < f.width := of_decide_eq_true hi
    have hset : strebEnableMask.getLsbD (f.shift + i) = true := by
      have hbit := congrArg (fun w : Word => w.getLsbD i) hf
      simpa [BitField.getLsbD_get, hi] using hbit
    have hw : f.shift + i < 32 := by omega
    rw [BitVec.getLsbD_not, getLsbD_of_accepted accepted hset]
    simp [hw]

end Accepted

/-- The active port is stored in its field. -/
theorem asyncPort_eq (inst : Fin 4) (ctrl3 : Word) :
    asyncPort inst ctrl3 = ebPort.put (BitVec.ofNat 32 inst) ctrl3 := by
  rw [asyncPort, BitVec.or_comm]
  rfl

theorem ebPort_holds {inst : Word} (hinst : inst.toNat < 4) : ebPort.Holds inst :=
  (BitField.holds_iff _ _).mpr hinst

theorem asyncPort_inputs (inst : Fin 4) (ctrl3 : Word) :
    ∀ i ∈ [3, 6, 7, 8], (asyncPort inst ctrl3).getLsbD i = ctrl3.getLsbD i := by
  have hbits : ∀ inst : Fin 4, ∀ i ∈ [3, 6, 7, 8],
      (BitVec.ofNat 32 inst <<< 4).getLsbD i = false ∧ (0xffffffcf#32).getLsbD i = true := by
    decide
  intro i hi
  obtain ⟨hport, hkeep⟩ := hbits inst i hi
  rw [asyncPort, BitVec.getLsbD_or, BitVec.getLsbD_and, hport, hkeep, Bool.false_or, Bool.and_true]

/-! ## One call -/

section Call

variable {lib : VtpLib} {prog : StreamingEbRegs} {v : EbView} {r : Regs}

/-- The bits 3, 6, 7 and 8 of an accepted mask are switched, and nothing else. -/
theorem ebEnable_shows {mask : Word} (accepted : mask &&& strebEnableMask = 0#32)
    (shows : EbShows prog v r.streamingEb) :
    EbShows prog (v.apply (.ebEnable mask)) (call (vtpStreamingEbEnable mask) r).streamingEb := by
  rw [call, vtpStreamingEbEnable, if_pos accepted]
  constructor
  · exact (BitField.get_and_of_spares rfl _).trans shows.layout
  · exact shows.rocid
  · exact (BitField.get_or_of_beside (get_of_accepted accepted rfl) _).trans shows.streams
  · exact (BitField.get_or_of_beside (get_of_accepted accepted rfl) _).trans shows.port
  · intro i hi
    simp only [Option.getD_some, EbView.apply, BitVec.getLsbD_or, shows.inputs i hi]
  · simp [EbView.apply]

theorem ebDisable_shows {dmask : Word} (accepted : dmask &&& strebEnableMask = 0#32)
    (shows : EbShows prog v r.streamingEb) :
    EbShows prog (v.apply (.ebDisable dmask))
      (call (vtpStreamingEbDisable dmask) r).streamingEb := by
  rw [call, vtpStreamingEbDisable, if_pos accepted]
  constructor
  · exact (BitField.get_or_of_beside rfl _).trans shows.layout
  · exact shows.rocid
  · exact (BitField.get_and_of_spares (get_not_of_accepted accepted rfl) _).trans shows.streams
  · exact (BitField.get_and_of_spares (get_not_of_accepted accepted rfl) _).trans shows.port
  · intro i hi
    simp only [Option.getD_some, EbView.apply, BitVec.getLsbD_and, shows.inputs i hi]
  · simp [EbView.apply]

theorem ebGo_shows (shows : EbShows prog v r.streamingEb) :
    EbShows prog (v.apply .ebGo) (vtpStreamingEbGo r).streamingEb where
  layout := (BitField.get_and_of_spares rfl _).trans shows.layout
  rocid := shows.rocid
  streams := shows.streams
  port := shows.port
  inputs := shows.inputs
  stopped := by simp [EbView.apply, vtpStreamingEbGo]

theorem ebReset_shows (shows : EbShows prog v r.streamingEb) :
    EbShows prog (v.apply .ebReset) (vtpStreamingEbReset r).streamingEb where
  layout := (BitField.get_or_of_beside rfl _).trans shows.layout
  rocid := shows.rocid
  streams := shows.streams
  port := shows.port
  inputs := shows.inputs
  stopped := by simp [EbView.apply, vtpStreamingEbReset]

/-- Both calls with an instance store it, and nothing else, in `Ctrl3`. -/
theorem asyncPort_shows {eb : StreamingEbRegs} {inst : Word} (hinst : inst.toNat < 4)
    (shows : EbShows prog v eb) {w : Word} {stopped : Bool} {data info : List Word}
    (hlayout : ebLayout.get w = ebLayout.get eb.ctrl) (hstopped : w.getLsbD 31 = stopped) :
    EbShows prog { v with port := inst, stopped := stopped }
      { eb with
        ctrl := w
        ctrl3 := asyncPort ⟨inst.toNat, hinst⟩ eb.ctrl3
        cpuAsyncEventData := data
        cpuAsyncEventInfo := info } where
  layout := hlayout.trans shows.layout
  rocid := shows.rocid
  streams := by
    have hbelow : ebStreams.Below ebPort := by decide
    simp only [asyncPort_eq, BitField.get_put_of_below hbelow, shows.streams]
  port := by
    simp only [asyncPort_eq, BitVec.ofNat_toNat, BitVec.setWidth_eq]
    exact BitField.get_put_of_holds (ebPort_holds hinst) _
  inputs := fun i hi => (asyncPort_inputs _ _ i hi).trans (shows.inputs i hi)
  stopped := hstopped

/-- The step lemma. -/
theorem EbOp.run_shows (ready : lib.ready vtpFwTypeFadcstream 0) {op : EbOp}
    (accepted : op.Accepted) (shows : EbShows prog v r.streamingEb) :
    EbShows prog (v.apply op) (call (op.run lib) r).streamingEb := by
  cases op with
  | ebEnable mask => exact ebEnable_shows accepted shows
  | ebDisable dmask => exact ebDisable_shows accepted shows
  | ebGo => exact ebGo_shows shows
  | ebReset => exact ebReset_shows shows
  | tcpConnect inst connect opens cdata =>
    have hinst : inst.toNat < 4 := accepted
    have hctrl (w : Word) : ebLayout.get ((w ||| 0x80000000#32) &&& 0x7fffffff#32) =
        ebLayout.get w := by
      rw [BitField.get_and_of_spares rfl, BitField.get_or_of_beside rfl]
    have hstopped (w : Word) :
        ((w ||| 0x80000000#32) &&& 0x7fffffff#32).getLsbD 31 = false := by simp
    simp only [call, EbOp.run, vtpStreamingTcpConnect, onInst, if_pos ready, dif_pos hinst,
      if_pos opens, Option.getD_some, EbView.apply, sendData]
    -- the data go to the fifos, which no field is read from
    split
    · exact asyncPort_shows hinst shows (hctrl _) (hstopped _)
    · exact asyncPort_shows hinst shows (hctrl _) (hstopped _)
  | evioWriteControl inst type val0 val1 =>
    have hinst : inst.toNat < 4 := accepted
    simp only [call, EbOp.run, vtpStreamingEvioWriteControl, onInst, if_pos ready, dif_pos hinst,
      Option.getD_some, EbView.apply]
    exact asyncPort_shows hinst shows rfl shows.stopped

/-- A call that is refused. -/
theorem EbOp.run_of_not_accepted {op : EbOp} (refused : ¬ op.Accepted) (r : Regs) :
    op.run lib r = none := by
  cases op with
  | ebEnable mask => exact if_neg refused
  | ebDisable dmask => exact if_neg refused
  | ebGo => exact absurd trivial refused
  | ebReset => exact absurd trivial refused
  | tcpConnect inst connect opens cdata =>
    have hinst : ¬ inst.toNat < 4 := refused
    simp [EbOp.run, vtpStreamingTcpConnect, onInst, hinst]
  | evioWriteControl inst type val0 val1 =>
    have hinst : ¬ inst.toNat < 4 := refused
    simp [EbOp.run, vtpStreamingEvioWriteControl, onInst, hinst]

theorem EbOp.step_shows (ready : lib.ready vtpFwTypeFadcstream 0) (op : EbOp)
    (shows : EbShows prog v r.streamingEb) :
    EbShows prog (v.step op) (call (op.run lib) r).streamingEb := by
  rw [EbView.step]
  split
  · next accepted => exact op.run_shows ready accepted shows
  · next refused =>
    rw [call, EbOp.run_of_not_accepted refused]
    exact shows

/-- The run lemma. -/
theorem ebRun_shows (ready : lib.ready vtpFwTypeFadcstream 0) (ops : List EbOp)
    (shows : EbShows prog v r.streamingEb) :
    EbShows prog (ops.foldl EbView.step v) (ebRun lib ops r).streamingEb := by
  induction ops generalizing v r with
  | nil => exact shows
  | cons op ops ih => exact ih (op.step_shows ready shows)

end Call

theorem ebNstreams_holds (nstreams : Word) : ebStreams.Holds (ebNstreams nstreams) :=
  holds_checkRange ebStreams (by decide) (by decide) (by decide) (by decide) _

/-- The port of a word with the number of streams is 0. -/
theorem ebNstreams_port (nstreams : Word) : ebPort.get
    (0x08#32 ||| ebNstreams nstreams) = 0#32 := by
  have hother : ebPort.get (ebNstreams nstreams <<< ebStreams.shift) = 0#32 :=
    BitField.get_shiftLeft_other (Or.inr (by decide)) (ebNstreams_holds nstreams)
  have hzero : ebStreams.shift = 0 := rfl
  rw [hzero, BitVec.shiftLeft_zero] at hother
  rw [BitField.get_or_of_beside hother]
  decide

theorem ebNstreams_inputs (nstreams : Word) :
    ∀ i ∈ [3, 6, 7, 8], (0x08#32 ||| ebNstreams nstreams).getLsbD i = (0x08#32).getLsbD i := by
  intro i hi
  have hlow : ebStreams.width ≤ i := by
    revert i
    decide
  rw [BitVec.getLsbD_or, (ebNstreams_holds nstreams).getLsbD hlow, Bool.or_false]

/-- What `vtpStreamingSetEbCfg` leaves behind. -/
theorem setEbCfg_shows {lib : VtpLib} {mask nstreams frameLen rocId : Word}
    {ppInfo : Option PpInfo} {r prog : Regs}
    (programmed : lib.vtpStreamingSetEbCfg mask nstreams frameLen rocId ppInfo r = some prog) :
    lib.ready vtpFwTypeFadcstream 0 ∧ EbShows prog.streamingEb EbView.start prog.streamingEb := by
  rw [vtpStreamingSetEbCfg, onTypes] at programmed
  split at programmed
  · next ready =>
    refine ⟨by simpa using ready, ?_⟩
    have hprog := Option.some.inj programmed
    have hctrl3 : prog.streamingEb.ctrl3 = 0x08#32 ||| ebNstreams nstreams := by rw [← hprog]
    have hctrl : prog.streamingEb.ctrl.getLsbD 31 = true := by
      rw [← hprog]
      simp
    exact
      { layout := rfl
        rocid := rfl
        streams := rfl
        port := by rw [hctrl3, ebNstreams_port, EbView.start]
        inputs := by rw [hctrl3]; exact ebNstreams_inputs nstreams
        stopped := by rw [hctrl, EbView.start] }
  · cases programmed

/-- What the registers show by themselves. -/
theorem EbShows.self (eb : StreamingEbRegs) :
    EbShows eb { port := ebPort.get eb.ctrl3, inputs := eb.ctrl3, stopped := eb.ctrl.getLsbD 31 } eb :=
  ⟨rfl, rfl, rfl, rfl, fun _ _ => rfl, rfl⟩

theorem ebRun_rocid {lib : VtpLib} (ready : lib.ready vtpFwTypeFadcstream 0) (ops : List EbOp)
    (r : Regs) : (ebRun lib ops r).streamingEb.rocid = r.streamingEb.rocid :=
  (ebRun_shows ready ops (EbShows.self r.streamingEb)).rocid

/-! ## The result -/

/-- Whatever is called after `vtpStreamingSetEbCfg`, the event builder keeps its
frame length, its payload ports, its roc id and its number of streams. The active
port, the inputs and the reset are what the accepted calls have asked for, and a
call that is refused changes no register at all. -/
theorem event_builder_invariant (lib : VtpLib) (mask nstreams frameLen rocId : Word)
    (ppInfo : Option PpInfo) (r prog : Regs)
    (programmed : lib.vtpStreamingSetEbCfg mask nstreams frameLen rocId ppInfo r = some prog)
    (ops : List EbOp) :
    EbShows prog.streamingEb (EbView.after ops) (ebRun lib ops prog).streamingEb ∧
      ∀ op : EbOp, ¬ op.Accepted →
        call (op.run lib) (ebRun lib ops prog) = ebRun lib ops prog := by
  obtain ⟨ready, start⟩ := setEbCfg_shows programmed
  refine ⟨ebRun_shows ready ops start, ?_⟩
  intro op refused
  rw [call, EbOp.run_of_not_accepted refused]
  rfl

/-- The streams on, then a stream that does not exist, then the first event on
stream 2. -/
theorem event_builder_invariant_go :
    ebPort.get (ebRun streamingLib
      [.ebEnable 0xc0#32, .evioWriteControl 7#32 0xffd1#32 1#32 0#32,
        .evioWriteControl 2#32 0xffd1#32 1#32 0#32]
      (call (streamingLib.vtpStreamingSetEbCfg 0x3#32 2#32 65536#32 5#32 none)
        default)).streamingEb.ctrl3 = 2#32 :=
  (event_builder_invariant streamingLib 0x3#32 2#32 65536#32 5#32 none default _ rfl _).1.port

end VtpStreaming
