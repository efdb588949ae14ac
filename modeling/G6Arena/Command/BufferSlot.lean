/-
# The frame buffer as a slot

A frame that is loaded is transferred by a refresh, or replaced before, and then counted in
`superseded_pending_`.  So the frame buffer is a slot of frames (`Display.slot`), and what a
function of the display does to it is a list of events of the slot (`Turn`): one lemma for each
function that fills the buffer, or leaves it.

`Accounted` is what that says of a command or a service that transmits nothing: a load among its
events is a call of `loadFrame` that succeeded, and the counter of reads and the state of the
display tell such a call.
-/

import G6Arena.Command.FrameRecords
import G6Arena.Lib.Slot

namespace G6Arena
namespace Command

open ByteMem Link Panel Machine SlotAccount
open Sd (ControllerError Store)

namespace Display

/-! ### The slot -/

/-- The frame buffer, as a slot of frames of the card. -/
def slot (d : Display) : Slot :=
  ⟨d.screen.frameBufIsFrame, d.marks.bufPresented, d.marks.supersededPending⟩

/-- What happens to the slot from `d` to `d'`, and whether `loadFrame` is called, which counts its
reads. -/
structure Turn (es : List SlotEvent) (read : Bool) (d d' : Display) : Prop where
  slot : d'.slot = run (Slot.act 0xFF) d.slot es
  reads : d'.health.sdReads = if read then (d.health.sdReads + 1) % 2 ^ 32 else d.health.sdReads

section

variable {d d' d'' : Display} {es es' : List SlotEvent} {read : Bool}

theorem Turn.trans (h : Turn es false d d') (h' : Turn es' read d' d'') :
    Turn (es ++ es') read d d'' := by
  constructor
  · rw [h'.slot, h.slot, run_append]
  · rw [h'.reads, h.reads]
    rfl

theorem Turn.followed (h : Turn es read d d') (h' : Turn es' false d' d'') :
    Turn (es ++ es') read d d'' := by
  constructor
  · rw [h'.slot, h.slot, run_append]
  · rw [h'.reads, h.reads]
    rfl

/-- What keeps the tally and leaves the frame. -/
theorem turn_of_tally (hframe : d'.screen.frameBufIsFrame = d.screen.frameBufIsFrame)
    (htally : d'.tally = d.tally) : Turn [] false d d' := by
  have hpresented : d'.marks.bufPresented = d.marks.bufPresented := congrArg Prod.fst htally
  have hpending : d'.marks.supersededPending = d.marks.supersededPending :=
    congrArg (fun t => t.2.1) htally
  have hreads : d'.health.sdReads = d.health.sdReads := congrArg (fun t => t.2.2) htally
  constructor
  · unfold Display.slot
    rw [hframe, hpresented, hpending]
    rfl
  · exact hreads

theorem SameView.turn (h : SameView d d') : Turn [] false d d' :=
  turn_of_tally (by rw [h.screen]) h.tally

theorem Moved.turn {index : ℕ} (h : Moved index d d') : Turn [] false d d' :=
  turn_of_tally (by rw [h.screen]) h.tally

/-- The counter of the code is the one of the slot. -/
theorem countSuperseded_eq (d : Display) : d.countSuperseded = d.slot.countLost 0xFF := by
  unfold countSuperseded Slot.countLost Slot.waiting slot
  simp only [Bool.and_eq_true, and_assoc]

theorem invalidateFrameBuf_turn (env : Env) (d : Display) :
    Turn [.replace] false d (d.invalidateFrameBuf env) := by
  constructor
  · change (⟨false, false, d.countSuperseded⟩ : Slot) = ⟨false, false, d.slot.countLost 0xFF⟩
    rw [countSuperseded_eq]
  · rfl

theorem beginLoad_turn (env : Env) (d : Display) : Turn [.replace] false d (d.beginLoad env) := by
  constructor
  · change (⟨false, false, d.countSuperseded⟩ : Slot) = ⟨false, false, d.slot.countLost 0xFF⟩
    rw [countSuperseded_eq]
  · rfl

theorem armRefreshTimer_tally (env : Env) (hz : ℕ) (d : Display) :
    (d.armRefreshTimer env hz).1.tally = d.tally := by
  obtain ⟨_, _, h⟩ := armRefreshTimer_fst env hz d
  rw [h]
  rfl

theorem armRefreshTimer_turn (env : Env) (hz : ℕ) (d : Display) :
    Turn [] false d (d.armRefreshTimer env hz).1 :=
  turn_of_tally (by rw [armRefreshTimer_screen]) (armRefreshTimer_tally env hz d)

end

/-! ### What fills the buffer -/

section

variable [Board] (env : Env) (d : Display)

@[simp] theorem transferFrame_tally : d.transferFrame.tally = d.tally := by
  obtain ⟨_, h⟩ := transferFrame_eq d
  rw [h]
  rfl

theorem enterAllOff_turn : Turn [.replace] false d (d.enterAllOff env) := by
  have hdisarm : Turn [] false d d.disarmRefreshTimer := turn_of_tally rfl rfl
  have hinvalid := invalidateFrameBuf_turn (env.call 0) d.disarmRefreshTimer
  refine (hdisarm.trans hinvalid).trans (turn_of_tally ?_ ?_)
  · rw [enterAllOff_screen]
    rfl
  · unfold enterAllOff
    dsimp only
    change (flushOpenReads (env.clock 2) _).tally = _
    rw [(flushOpenReads_sameView ..).tally, (note_sameView ..).tally]
    change (transferFrame _).tally = _
    simp only [transferFrame_tally]
    rfl

theorem enterAllOn_turn : Turn [.replace] false d (d.enterAllOn env) := by
  have hinvalid := invalidateFrameBuf_turn (env.call 0) d
  refine Turn.trans hinvalid (turn_of_tally ?_ ?_)
  · rw [enterAllOn_screen]
    rfl
  · unfold enterAllOn
    dsimp only
    rw [(note_sameView ..).tally, armRefreshTimer_tally]
    rfl

theorem showError_turn (code : ControllerError) : Turn [.replace] false d (d.showError env code) := by
  have hinvalid := invalidateFrameBuf_turn (env.call 0) d
  refine Turn.trans hinvalid (turn_of_tally ?_ ?_)
  · rw [showError_screen]
    rfl
  · unfold showError
    dsimp only
    rw [armRefreshTimer_tally, (note_sameView ..).tally]
    rfl

theorem showStream_turn (blockByteCount : ℕ) (frame : List UInt8) :
    Turn [.replace] false d (d.showStream env blockByteCount frame) := by
  have hinvalid := invalidateFrameBuf_turn (env.call 0) d
  refine Turn.trans hinvalid (turn_of_tally ?_ ?_)
  · rw [(showStream_view ..).2.1]
    rfl
  · unfold showStream enterStreamingFrame
    dsimp only
    split
    · rw [(note_sameView ..).tally, armRefreshTimer_tally]
      rfl
    · rfl

theorem buildPsramFrame_turn (index : ℕ) : Turn [.replace] false d (d.buildPsramFrame env index) := by
  have hinvalid := invalidateFrameBuf_turn env d
  exact ⟨hinvalid.slot, hinvalid.reads⟩

theorem displayPsramIndex_turn (index : ℕ) :
    Turn [.replace] false d (d.displayPsramIndex env index).1 := by
  have hbuilt := buildPsramFrame_turn (env.call 0) d index
  refine Turn.trans hbuilt (turn_of_tally ?_ ?_)
  · rw [(displayPsramIndex_view ..).1]
  · unfold displayPsramIndex
    dsimp only
    rw [armRefreshTimer_tally]
    exact (enterPsramPlay_sameView ..).tally

theorem psramPlay_turn (start count fps : ℕ) :
    Turn [.replace] false d (d.psramPlay env start count fps).1 := by
  have hbuilt := buildPsramFrame_turn (env.call 0) d start
  refine Turn.trans hbuilt (turn_of_tally ?_ ?_)
  · rw [(psramPlay_view ..).1]
  · unfold psramPlay
    dsimp only
    rw [armRefreshTimer_tally]
    exact (enterPsramPlay_sameView ..).tally

omit [Board] in
/-- A frame that is accepted is in the slot. -/
theorem acceptFrame_slot (s : Store) (index : ℕ) :
    (d.acceptFrame env s index).slot = { d.slot with full := true } := by
  obtain ⟨buf, hscreen⟩ := acceptFrame_screen_eq env d s index
  unfold slot
  rw [hscreen]
  rfl

omit [Board] in
theorem acceptFrame_health (s : Store) (index : ℕ) :
    (d.acceptFrame env s index).health = d.health := rfl

/-- A transmission presents what is in the buffer, and its record takes the count. -/
theorem transmitOnRefresh_turn (h : d.refresh.refreshFlag = true) :
    Turn (.present :: if d.frameRecord.isSome then [.report] else []) false d
      (d.transmitOnRefresh env) := by
  obtain ⟨_, hsent⟩ := transferFrame_eq { d with refresh := { d.refresh with refreshFlag := false } }
  unfold transmitOnRefresh frameRecord
  rw [if_pos h]
  dsimp only at hsent ⊢
  rw [hsent]
  by_cases hnew : d.screen.curFrameIndex ≠ d.marks.telLastFrame ∨
      d.screen.patternId ≠ d.marks.telLastPattern
  · rw [if_pos hnew, if_pos hnew]
    exact ⟨rfl, rfl⟩
  · rw [if_neg hnew, if_neg hnew]
    exact ⟨rfl, rfl⟩

/-! ### Loads -/

section

variable {env d}
variable {d' : Display} {s s' : Store} {ok : Bool}

/-- **A call of `loadFrame`.** -/
theorem loadFrame_turn {index : ℕ} (h : d.loadFrame env s index = (d', ok)) :
    Turn (if ok then [.load] else [.replace, .replace]) true d d' := by
  have hbegin := beginLoad_turn (env.call 0) d
  unfold loadFrame at h
  dsimp only at h
  generalize hread : s.readFrame env.sd index frameBufByteCountMax = r at h
  obtain ⟨bytes, err⟩ := r
  dsimp only at h
  have hturn := (countRead_sameView (env.call 1) err
    { d.beginLoad (env.call 0) with screen := { (d.beginLoad (env.call 0)).screen with
      frameBuf := ByteMem.store (d.beginLoad (env.call 0)).screen.frameBuf 0 bytes } }).turn
  generalize countRead (env.call 1) err _ = d₁ at h hturn
  have hloaded : Turn [.replace] true d d₁ := by
    have hreads : (d.beginLoad (env.call 0)).health.sdReads = d.health.sdReads := hbegin.reads
    constructor
    · exact hturn.slot.trans hbegin.slot
    · rw [hturn.reads, if_neg Bool.false_ne_true, if_pos rfl]
      dsimp only
      rw [hreads]
  split_ifs at h with herr <;> cases h
  · exact hloaded.followed (showError_turn ..)
  · constructor
    · rw [acceptFrame_slot, hloaded.slot]
      rfl
    · rw [acceptFrame_health]
      exact hloaded.reads

/-! ### What is accounted for -/

/-- The slot takes events that change its contents, and a load among them is a call of `loadFrame`
that does not end with an error on the display. -/
def Accounted (d d' : Display) : Prop :=
  ∃ es read, (∀ e ∈ es, e.changes = true) ∧ Turn es read d d' ∧
    es.count .load = (read && decide (d'.screen.state ≠ .errorDisplay)).toNat

omit [Board] in
theorem Turn.accounted (h : Turn [] false d d') : Accounted d d' :=
  ⟨[], false, nofun, h, rfl⟩

omit [Board] in
theorem accounted_of_tally (hframe : d'.screen.frameBufIsFrame = d.screen.frameBufIsFrame)
    (htally : d'.tally = d.tally) : Accounted d d' := (turn_of_tally hframe htally).accounted

omit [Board] in
theorem Turn.replaced (h : Turn [.replace] false d d') : Accounted d d' := by
  refine ⟨[.replace], false, fun e he => ?_, h, rfl⟩
  rw [List.mem_singleton.1 he]
  rfl

omit [Board] in
theorem Accounted.of_sameView {d₀ d₁ : Display} (h : Accounted d₀ d₁) (hbefore : SameView d d₀)
    (hafter : SameView d₁ d') : Accounted d d' := by
  obtain ⟨es, read, hchanges, hturn, hload⟩ := h
  refine ⟨es, read, hchanges, ?_, ?_⟩
  · have hall := (hbefore.turn.trans hturn).followed hafter.turn
    rwa [List.nil_append, List.append_nil] at hall
  · rw [hafter.screen]
    exact hload

theorem handleStreamCommand_accounted (env : Env) (d : Display) (data : Mem) (dataLen : ℕ) :
    Accounted d (d.handleStreamCommand env data dataLen).1 := by
  rcases handleStreamCommand_cases env d data dataLen with ⟨blockByteCount, -, h⟩ | h
  · rw [h]
    exact (showStream_turn ..).replaced
  · rw [h]
    exact (enterAllOff_turn ..).replaced

theorem showFrame_turn (env : Env) (d : Display) : Turn [] false d (d.showFrame env).1 := by
  obtain ⟨d₁, hview, hend⟩ := showFrame_cases env d
  have hbefore : Turn [] false d d₁ := by
    refine turn_of_tally ?_ hview.tally
    rw [hview.screen]
  rcases hend with ⟨h, -⟩ | h
  · rw [h]
    exact hbefore
  · rw [h]
    exact hbefore.trans (armRefreshTimer_turn ..)

theorem loadFramePosition_accounted (env : Env) (s : Store) (index : ℕ) (d : Display) :
    Accounted d (d.loadFramePosition env s index).1 := by
  obtain ⟨d₁, hview, d₂, ok, hload, hend⟩ :=
    loadFramePosition_cases (Prod.mk.eta (p := d.loadFramePosition env s index)).symm
  have hbefore : Turn [] false d d₁ := by
    refine turn_of_tally ?_ hview.tally
    rw [hview.screen]
  have hturn := hbefore.trans (loadFrame_turn hload)
  have hstate := (loadFrame_kept hload).2.2.2
  rcases hend with ⟨rfl, hd⟩ | ⟨rfl, hd⟩
  · rw [hd]
    refine ⟨[.replace, .replace], true, by decide, hturn, ?_⟩
    rw [hstate]
    rfl
  · rw [hd]
    refine ⟨[.load], true, by decide, hturn.followed (showFrame_turn ..), ?_⟩
    rw [(showFrame_view ..).1]
    rfl

theorem setFramePosition_accounted (env : Env) (s : Store) (index : ℕ) (d : Display) :
    Accounted d (d.setFramePosition env s index).1 := by
  rcases setFramePosition_cases (Prod.mk.eta (p := d.setFramePosition env s index)).symm with
    h | ⟨-, h⟩ | h
  · rw [h]
    exact (showError_turn ..).replaced
  · exact h.turn.accounted
  · rw [← congrArg Prod.fst h]
    exact loadFramePosition_accounted ..

/-- A pattern that starts is shown, or the display goes dark. -/
theorem startPattern_turn {mode : ArenaState} {durationTicks : ℕ}
    (h : d.startPattern env mode durationTicks = (d', ok)) :
    Turn (if ok then [] else [.replace]) false d d' ∧ d'.screen.state = if ok then mode else .allOff := by
  unfold startPattern at h
  dsimp only at h
  split at h
  · next d₁ harm =>
    cases h
    have hd₁ : _ = d₁ := congrArg Prod.fst harm
    have hbefore : Turn [] false d d₁ := by
      rw [← hd₁]
      refine turn_of_tally ?_ ?_
      · rw [armRefreshTimer_screen]
      · rw [armRefreshTimer_tally]
        rfl
    refine ⟨hbefore.trans (enterAllOff_turn ..), ?_⟩
    rw [enterAllOff_state]
    rfl
  · next d₁ harm =>
    have hd₁ : _ = d₁ := congrArg Prod.fst harm
    have hscreen : d₁.screen = { d.screen with state := mode } := by
      rw [← hd₁, armRefreshTimer_screen]
    have htally : d₁.tally = d.tally := by
      rw [← hd₁, armRefreshTimer_tally]
      rfl
    cases h
    refine ⟨turn_of_tally ?_ htally, ?_⟩
    · exact (congrArg Screen.frameBufIsFrame hscreen :)
    · exact (congrArg Screen.state hscreen :)

/-- **A trial.** -/
theorem enterPatternMode_accounted {mode : ArenaState} {patternId initFrame durationTicks : ℕ}
    {frameRateHz gain : ℤ} (hmode : mode ≠ .errorDisplay)
    (h : d.enterPatternMode env mode patternId frameRateHz gain initFrame durationTicks s
      = (d', s', ok)) : Accounted d d' := by
  unfold enterPatternMode at h
  dsimp only at h
  have hdisarm : Turn [] false d d.disarmRefreshTimer := turn_of_tally rfl rfl
  have hflush := hdisarm.trans (flushOpenReads_sameView (env.clock 0) d.disarmRefreshTimer).turn
  generalize d.disarmRefreshTimer.flushOpenReads (env.clock 0) = d₀ at h hflush
  have hinvalid := hflush.trans (invalidateFrameBuf_turn (env.call 1) d₀)
  generalize s.openPattern env.sd patternId = opened at h
  obtain ⟨s₁, err⟩ := opened
  dsimp only at h
  have hnoted := hinvalid.followed (note_sameView (env.clock 2) Telemetry.stSdOpen err.toByte patternId
    (d₀.invalidateFrameBuf (env.call 1))).turn
  generalize (d₀.invalidateFrameBuf (env.call 1)).note (env.clock 2) Telemetry.stSdOpen err.toByte
    patternId = d₁ at h hnoted
  split_ifs at h with herr
  · cases h
    refine ⟨[.replace, .replace], false, by decide, hnoted.trans (showError_turn ..), rfl⟩
  have hselect : Turn [] false d₁
      ((d₁.noteLayout (env.clock 4) env s₁).selectPattern s₁ patternId frameRateHz gain initFrame) :=
    turn_of_tally rfl rfl
  generalize (d₁.noteLayout (env.clock 4) env s₁).selectPattern s₁ patternId frameRateHz gain
    initFrame = d₂ at h hselect
  have hselected := hnoted.followed hselect
  split at h
  · next d₃ hload =>
    cases h
    refine ⟨[.replace, .replace, .replace], true, by decide,
      hselected.trans (loadFrame_turn hload), ?_⟩
    rw [(loadFrame_kept hload).2.2.2]
    rfl
  · next d₃ hload =>
    have hloaded := hselected.trans (loadFrame_turn hload)
    generalize hstart : d₃.startPattern (env.call 6) mode durationTicks = r at h
    obtain ⟨d₄, started⟩ := r
    cases h
    obtain ⟨hturn, hstate⟩ := startPattern_turn hstart
    cases started with
    | false =>
      refine ⟨[.replace, .load, .replace], true, by decide, hloaded.followed hturn, ?_⟩
      rw [hstate]
      rfl
    | true =>
      refine ⟨[.replace, .load], true, by decide, hloaded.followed hturn, ?_⟩
      rw [hstate, if_pos rfl, decide_eq_true hmode]
      rfl

end

omit [Board] in
theorem handleSetRefreshRate_turn (data : Mem) : Turn [] false d (d.handleSetRefreshRate env data).1 := by
  refine turn_of_tally (by rw [(handleSetRefreshRate_view ..).1]) ?_
  unfold handleSetRefreshRate setRefreshRate
  dsimp only
  split_ifs
  · rfl
  · split <;> next harm =>
      rw [← congrArg Prod.fst harm, armRefreshTimer_tally]
      rfl
  · rfl
  · rfl

omit [Board] in
theorem handleSetPanelDisplayMode_turn (data : Mem) :
    Turn [] false d (d.handleSetPanelDisplayMode data).1 := by
  obtain ⟨⟨mode, buf, hscreen⟩, -⟩ := handleSetPanelDisplayMode_view d data
  refine turn_of_tally (by rw [hscreen]) ?_
  unfold handleSetPanelDisplayMode
  dsimp only
  split_ifs <;> rfl

theorem serviceLateBootBlank_accounted (idle : Bool) :
    Accounted d (d.serviceLateBootBlank env idle) := by
  have hpending : Turn [] false d
      { d with playback := { d.playback with lateBootBlankPending := false } } := turn_of_tally rfl rfl
  unfold serviceLateBootBlank
  dsimp only
  split_ifs
  · exact (SameView.refl d).turn.accounted
  · exact (SameView.refl d).turn.accounted
  · exact Turn.replaced (hpending.trans (enterAllOff_turn ..))
  · exact hpending.accounted

omit [Board] in
theorem refreshIsr_accounted : Accounted d d.refreshIsr := by
  unfold refreshIsr
  split_ifs
  · exact (SameView.refl d).turn.accounted
  · exact accounted_of_tally rfl rfl

/-! ### Service -/

/-- The timers leave the buffer, or end the trial. -/
theorem serviceTimers_turn : Turn [] false d (d.serviceTimers env) ∨
    (Turn [.replace] false d (d.serviceTimers env) ∧ (d.serviceTimers env).screen.state = .allOff) := by
  have hlut : Turn [] false d (d.serviceAoLut (env.call 0)) := by
    rcases serviceAoLut_cases (env.call 0) d with h | ⟨ao, -, h⟩ <;> rw [h]
    · exact (SameView.refl d).turn
    · exact turn_of_tally rfl rfl
  unfold serviceTimers
  rcases serviceTrialTimer_cases (env.call 1) (d.serviceAoLut (env.call 0)) with ⟨h, -⟩ | ⟨h, -⟩
  · rw [h]
    exact .inl hlut
  · rw [h]
    have hend : Turn [] false (d.serviceAoLut (env.call 0)) { d.serviceAoLut (env.call 0) with
        playback := { (d.serviceAoLut (env.call 0)).playback with trialEndMs := 0 } } :=
      turn_of_tally rfl rfl
    exact .inr ⟨(hlut.trans hend).trans (enterAllOff_turn ..), enterAllOff_state ..⟩

/-- A pattern is moved on: at most one event, unless the display shows an error then and is not
transmitted. -/
theorem advance_turn (s : Store) : ∃ es read, (∀ e ∈ es, e.changes = true) ∧
    Turn es read d (d.advance env s) ∧
    es.count .load = (read && decide ((d.advance env s).screen.state ≠ .errorDisplay)).toNat ∧
    (read = true → d.screen.state ≠ .errorDisplay) ∧
    ((d.advance env s).refresh.refreshFlag = true → es.length ≤ 1) := by
  rcases advance_cases env d s with hmoved | ⟨hstate, d₁, index, heq, -, hmoved⟩ | ⟨-, d₁, index, heq, hmoved⟩
  · exact ⟨[], false, nofun, hmoved.turn, rfl, nofun, fun _ => Nat.zero_le _⟩
  · have hpattern : d.screen.state ≠ .errorDisplay := by
      rcases hstate with hstate | hstate <;> rw [hstate] <;> decide
    generalize hload : d₁.loadFrame (env.call 1) s index = r at heq
    obtain ⟨d₂, ok⟩ := r
    rw [heq]
    have hturn := hmoved.turn.trans (loadFrame_turn hload)
    have hkept := (loadFrame_kept hload).2.2.2
    cases ok with
    | true =>
      refine ⟨[.load], true, by decide, hturn, ?_, fun _ => hpattern, fun _ => le_rfl⟩
      rw [hkept, if_pos rfl, hmoved.screen, decide_eq_true hpattern]
      rfl
    | false =>
      refine ⟨[.replace, .replace], true, by decide, hturn, ?_, fun _ => hpattern, ?_⟩
      · rw [hkept]
        rfl
      · obtain ⟨d₃, bytes, err, -, -, ⟨-, -, hend⟩ | ⟨hok, -⟩⟩ := loadFrame_cases hload
        · rw [hend, showError_refreshFlag]
          nofun
        · cases hok
  · rw [heq]
    exact ⟨[.replace], false, by decide, hmoved.turn.trans (buildPsramFrame_turn ..), rfl, nofun,
      fun _ => le_rfl⟩

/-- **The service of a display that is on**: its pattern is moved on, it is transmitted if that is
due, and it goes dark if it has shown its error. -/
theorem serviceDisplay_turn {s : Store} (hon : (d.serviceTimers env).screen.state ≠ .allOff) :
    ∃ pre read post, (∀ e ∈ pre, e.changes = true) ∧
      Turn pre read d ((d.serviceTimers env).advance (env.call 2) s) ∧
      pre.count .load
        = (read && decide ((d.serviceDisplay env s).screen.state ≠ .errorDisplay)).toNat ∧
      (((d.serviceTimers env).advance (env.call 2) s).refresh.refreshFlag = true → pre.length ≤ 1) ∧
      (post = [] ∨ post = [.replace]) ∧
      Turn post false (((d.serviceTimers env).advance (env.call 2) s).transmitOnRefresh (env.call 3))
        (d.serviceDisplay env s) := by
  obtain ⟨pre, read, hchanges, hturn, hload, hread, hlen⟩ :=
    advance_turn (env.call 2) (d.serviceTimers env) s
  have htimers : Turn [] false d (d.serviceTimers env) := by
    rcases serviceTimers_turn env d with h | ⟨-, hoff⟩
    · exact h
    · exact absurd hoff hon
  have hbefore := htimers.trans hturn
  unfold serviceDisplay
  dsimp only
  rw [if_neg hon]
  split_ifs with herror
  · have hnone : read = false := by
      cases read with
      | false => rfl
      | true => exact absurd herror.1 (hread rfl)
    rw [hnone] at hbefore hload
    exact ⟨pre, false, [.replace], hchanges, hbefore, hload, hlen, .inr rfl, enterAllOff_turn ..⟩
  · refine ⟨pre, read, [], hchanges, hbefore, ?_, hlen, .inl rfl, (SameView.refl _).turn⟩
    rw [(transmitOnRefresh_view ..).1]
    exact hload

omit [Board] in
theorem changes_of_post {post : List SlotEvent} (h : post = [] ∨ post = [.replace]) :
    (∀ e ∈ post, e.changes = true) ∧ post.count .load = 0 := by
  rcases h with rfl | rfl <;> decide

/-- The service of a display that does not transmit. -/
theorem serviceDisplay_accounted {s : Store} (h : (d.serviceTimers env).screen.state = .allOff ∨
    ((d.serviceTimers env).advance (env.call 2) s).refresh.refreshFlag = false) :
    Accounted d (d.serviceDisplay env s) := by
  by_cases hoff : (d.serviceTimers env).screen.state = .allOff
  · unfold serviceDisplay
    dsimp only
    rw [if_pos hoff]
    rcases serviceTimers_turn env d with h | ⟨h, -⟩
    · exact h.accounted
    · exact h.replaced
  have hflag := h.resolve_left hoff
  have hsilent : ((d.serviceTimers env).advance (env.call 2) s).transmitOnRefresh (env.call 3)
      = (d.serviceTimers env).advance (env.call 2) s := by
    unfold transmitOnRefresh
    rw [if_neg (by rw [hflag]; nofun)]
  obtain ⟨pre, read, post, hchanges, hbefore, hload, -, hpost, hafter⟩ :=
    serviceDisplay_turn env d (s := s) hoff
  rw [hsilent] at hafter
  obtain ⟨hchanges', hnone⟩ := changes_of_post hpost
  refine ⟨pre ++ post, read, ?_, hbefore.followed hafter, ?_⟩
  · intro e he
    exact (List.mem_append.1 he).elim (hchanges e) (hchanges' e)
  · rw [List.count_append, hload, hnone, Nat.add_zero]

end

end Display

section

variable [Board]

open Display

/-- A command about the display. -/
theorem displayCommand_accounted (env : Env) (s : Store) (x : Transfers) (data : Mem) (dataLen : ℕ)
    (command : DisplayCommand) (d : Display) :
    Accounted d (displayCommand env s x data dataLen command d).1 := by
  by_cases hshows : command.shows = false
  · exact (displayCommand_sameView hshows).turn.accounted
  cases command with
  | allOff => exact (enterAllOff_turn ..).replaced
  | stopDisplay => exact (enterAllOff_turn ..).replaced
  | allOn =>
    change Accounted d (d.handleAllOn env x).1
    unfold handleAllOn
    split_ifs
    · exact (SameView.refl d).turn.accounted
    · exact (enterAllOn_turn ..).replaced
  | setRefreshRate => exact (handleSetRefreshRate_turn ..).accounted
  | setPanelDisplayMode => exact (handleSetPanelDisplayMode_turn ..).accounted
  | setFramePosition =>
    change Accounted d (d.handleSetFramePosition env s data).1
    unfold handleSetFramePosition
    dsimp only
    have hcount : SameView d { d with health := { d.health with
        cmd70Count := (d.health.cmd70Count + 1) % 2 ^ 32 } } := ⟨rfl, rfl, rfl, rfl, rfl, rfl, rfl⟩
    refine Accounted.of_sameView ?_ hcount (.refl _)
    split_ifs
    · exact (showError_turn ..).replaced
    · exact setFramePosition_accounted ..
  | displayPsramIndex =>
    change Accounted d (d.handleDisplayPsramIndex env data).1
    unfold handleDisplayPsramIndex
    split_ifs
    · exact (showError_turn ..).replaced
    · exact (displayPsramIndex_turn ..).replaced
  | psramPlay =>
    change Accounted d (d.handlePsramPlay env data).1
    unfold handlePsramPlay
    split_ifs
    · exact (showError_turn ..).replaced
    · exact (psramPlay_turn ..).replaced
  | setAoVoltage =>
    change Accounted d (d.handleSetAoVoltage env data).1
    rcases handleSetAoVoltage_cases env d data with h | ⟨-, code, mv, h⟩ <;> rw [h]
    · exact (SameView.refl d).turn.accounted
    · exact accounted_of_tally rfl rfl
  | setAoMode =>
    change Accounted d (d.handleSetAoMode env data).1
    rcases handleSetAoMode_cases env d data with h | ⟨ao, h⟩ <;> rw [h]
    · exact (SameView.refl d).turn.accounted
    · exact accounted_of_tally rfl rfl
  | getAoVoltage =>
    change Accounted d (d.handleGetAoVoltage env).1
    obtain ⟨mv, h⟩ := handleGetAoVoltage_cases env d
    rw [h]
    exact accounted_of_tally rfl rfl
  | setAoLut =>
    change Accounted d (d.handleSetAoLut env data).1
    obtain ⟨ao, h⟩ := handleSetAoLut_cases env d data
    rw [h]
    exact accounted_of_tally rfl rfl
  | _ => exact absurd rfl hshows

end

end Command
end G6Arena
