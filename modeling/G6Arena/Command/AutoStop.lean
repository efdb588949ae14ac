/-
# The auto-stop of a trial

`TRIAL_PARAMS` with a duration sets the deadline `trial_end_ms_`, and `serviceTrialTimer` turns
the display off once it is past.  `enterPatternMode` sets it anew; nothing else that ends a trial
clears it.  `Tracked` follows the trial on the display next to the controller: the auto-stop
acts on a display that is still in the trial that set the deadline, as long as no trial ends with
its deadline set (`autoStop_own_trial`).
-/

import G6Arena.Command.Service

namespace G6Arena
namespace Command

open ByteMem Link Machine
open Sd (ControllerError Store)

/-! ### Ends of a trial -/

section

variable [Board]

/-- The frame a pattern that is open starts with. -/
def firstFrame (initFrame : ℕ) (store : Store) : ℕ :=
  if 0 < store.sd.info.frameCount then initFrame % store.sd.info.frameCount else 0

/-- A pattern opens, and its first frame is read. -/
def loads (env : Env) (patternId initFrame : ℕ) (store : Store) : Bool :=
  let (opened, err) := store.openPattern env.sd patternId
  err = .ceNone
    && (opened.readFrame env.sd (firstFrame initFrame opened) frameBufByteCountMax).2 = .ceNone

/-- `SET_FRAME_POSITION` on a frame that can be shown. -/
def positions (env : Env) (store : Store) (data : Mem) (d : Display) : Bool :=
  let index := wordAt data 2 2
  2 ≤ paramLen data && store.sd.fileOpen && index < d.screen.frameCount
    && (d.sameIndexSkip index || (store.readFrame env.sd index frameBufByteCountMax).2 = .ceNone)

/-- A command about the display that takes a trial off it. -/
def DisplayCommand.endsTrial (env : Env) (store : Store) (x : Transfers) (data : Mem) (d : Display) :
    DisplayCommand → Bool
  | .allOff | .stopDisplay | .displayPsramIndex | .psramPlay => true
  | .allOn => !x.active
  | .setFramePosition => !positions env store data d
  | _ => false

namespace Controller

/-- A binary command that takes a trial off the display before it sets a deadline. -/
def endsTrial (env : Env) (data : Mem) (c : Controller) : Bool :=
  match ArenaCommand.ofByte (data 1) with
  | none => true
  | some (.display command) => command.endsTrial env c.store c.transfers data c.display
  | some (.store .trialParams) =>
    !c.transfers.active && (paramLen data < 11 || trialMode (data 2) = none
      || !loads env (wordAt data 3 2) (wordAt data 7 2) c.store)
  | some (.store .setPatternId) =>
    !c.transfers.active && claimedLen data = 3 && !loads env (wordAt data 2 2) 0 c.store
  | some (.store _) => false

/-- The refresh timer of a pattern can be armed. -/
def armsTimer (env : Env) (patternId : ℕ) (c : Controller) : Bool :=
  c.display.rateFor (c.store.openPattern env.sd patternId).1.sd.info.blockSize ≠ 0
    && ((env.call 6).call 2).timerBegin []

/-- `TRIAL_PARAMS` of a pattern that loads: the deadline is set, and the timer is not armed. -/
def failsArmed (env : Env) (data : Mem) (c : Controller) : Bool :=
  ArenaCommand.ofByte (data 1) = some (.store .trialParams) && !c.transfers.active
    && 11 ≤ paramLen data && (trialMode (data 2)).isSome
    && loads env (wordAt data 3 2) (wordAt data 7 2) c.store
    && !c.armsTimer env (wordAt data 3 2)
    && Display.trialDeadline (env.call 6) (wordAt data 11 2) ≠ 0

/-- The service of the display meets a frame that cannot be read. -/
def meetsBadFrame (env : Env) (c : Controller) : Bool :=
  let d := c.display.serviceAoLut (env.call 0)
  d.screen.state.pattern && (d.advance (env.call 2) c.store).screen.state = .errorDisplay

/-- A trial ends only when no deadline is set, and none is left by a trial that fails. -/
def DeadlineEnds (c : Controller) (i : Action × Env) : Prop :=
  let deadline := c.display.playback.trialEndMs
  match i.1 with
  | .processCommand t =>
    let cmd := (c.source t).rx.parsedCmd
    ((c.source t).hasCommand = true → c.transfers.owns t = false → cmd.isBulk = false →
      cmd.isStream = true → deadline = 0) ∧
    (c.hasBinary t = true → c.endsTrial (i.2.call 5) cmd.data = true → deadline = 0) ∧
    (c.hasBinary t = true → c.failsArmed (i.2.call 5) cmd.data = false)
  | .serviceDisplay =>
    c.meetsBadFrame i.2 = true →
      deadline = 0 ∨ Link.due ((i.2.call 1).millis 0) deadline = true
  | _ => True

instance (c : Controller) (i : Action × Env) : Decidable (c.DeadlineEnds i) := by
  unfold DeadlineEnds
  dsimp only
  split <;> infer_instance

end Controller

/-! ### The trial on the display -/

/-- The controller, and the deadline of the trial its display is in. -/
structure Tracked where
  controller : Controller
  trial : Option ℕ

/-- A step in which a command about the store is handled, and done. -/
def Controller.completes (command : StoreCommand) (i : Action × Env) (c : Controller) : Bool :=
  match i.1 with
  | .processCommand t => !c.halted && c.accepts i.2 t command
  | _ => false

/-- A trial starts with a `TRIAL_PARAMS` that is done.  It ends when the display leaves the
states of a trial, or with a `SET_PATTERN_ID` that is done. -/
def Tracked.step (s : Tracked) (i : Action × Env) : Tracked :=
  let c := s.controller.step i
  { controller := c
    trial :=
      if s.controller.completes .trialParams i then some c.display.playback.trialEndMs
      else if !c.display.screen.state.pattern || s.controller.completes .setPatternId i then none
      else s.trial }

/-- A deadline that is set is that of the trial on the display. -/
def InTrial (s : Tracked) : Prop :=
  s.controller.display.playback.trialEndMs ≠ 0 →
    s.trial = some s.controller.display.playback.trialEndMs ∧
      s.controller.display.screen.state.pattern = true

/-! ### What a command does to the deadline -/

variable {env : Env} {t : Transport} {data : Mem} {dataLen : ℕ} {c c' : Controller} {d d' : Display}
  {store store' : Store} {reply : Reply}

@[simp] theorem Display.showError_deadline (code : ControllerError) :
    (d.showError env code).playback.trialEndMs = d.playback.trialEndMs := by
  rw [Display.showError_playback]

/-- Loading a frame leaves the deadline, and the state if the frame is read. -/
theorem Display.loadFrame_deadline {index : ℕ} {ok : Bool}
    (h : d.loadFrame env store index = (d', ok)) :
    d'.playback.trialEndMs = d.playback.trialEndMs ∧
      (ok = true ↔ (store.readFrame env.sd index frameBufByteCountMax).2 = .ceNone) ∧
      (ok = true → d'.screen.state = d.screen.state) := by
  obtain ⟨d₁, bytes, err, hread, hafter, ⟨rfl, herr, rfl⟩ | ⟨rfl, herr, rfl⟩⟩ :=
    Display.loadFrame_cases h
  · rw [Display.showError_deadline, hafter.playback, hread]
    refine ⟨rfl, ?_, fun hok => absurd hok Bool.false_ne_true⟩
    constructor
    · intro hok
      cases hok
    · intro hnone
      exact absurd hnone herr
  · rw [Display.acceptFrame_playback, hafter.playback, hread]
    refine ⟨rfl, ⟨fun _ => herr, fun _ => rfl⟩, fun _ => ?_⟩
    rw [Display.acceptFrame_state, hafter.screen]

omit [Board] in
theorem Display.armRefreshTimer_snd {hz : ℕ} (h : d.refresh.armedHz = 0) :
    (d.armRefreshTimer env hz).2 = (hz ≠ 0 && env.timerBegin []) := by
  unfold Display.armRefreshTimer
  by_cases hz0 : hz = 0
  · rw [if_pos hz0, hz0]
    rfl
  · rw [if_neg hz0, if_neg (by rw [h]; exact Ne.symm hz0), if_neg (not_not.2 h)]
    cases env.timerBegin [] <;> simp [hz0]

/-- Starting a pattern sets the deadline, and is done if the timer is armed. -/
theorem Display.startPattern_deadline {mode : ArenaState} {durationTicks : ℕ} {ok : Bool}
    (h : d.startPattern env mode durationTicks = (d', ok)) (harmed : d.refresh.armedHz = 0) :
    d'.playback.trialEndMs = Display.trialDeadline env durationTicks ∧
      ok = (d.rateFor d.screen.blockByteCount ≠ 0 && (env.call 2).timerBegin []) ∧
      (ok = true → d'.screen.state = mode) := by
  refine ⟨?_, ?_, ?_⟩
  · obtain ⟨d₁, -, -, hplayback, -, -, ⟨-, -, hview⟩ | ⟨-, d₂, hview, rfl⟩⟩ :=
      Display.startPattern_cases h
    · rw [hview.playback, hplayback]
    · rw [Display.enterAllOff_playback, hview.playback, hplayback]
  · unfold Display.startPattern at h
    dsimp only at h
    split at h
    · next harm =>
      cases h
      have hsnd := congrArg Prod.snd harm
      exact hsnd.symm.trans (Display.armRefreshTimer_snd harmed)
    · next harm =>
      cases h
      have hsnd := congrArg Prod.snd harm
      exact hsnd.symm.trans (Display.armRefreshTimer_snd harmed)
  · rintro rfl
    obtain ⟨d₁, hscreen, -, -, -, -, ⟨-, -, hview⟩ | ⟨hok, -⟩⟩ := Display.startPattern_cases h
    · rw [hview.screen, hscreen]
    · cases hok

/-- What `enterPatternMode` does to the deadline. -/
theorem Display.enterPatternMode_deadline {mode : ArenaState} {patternId initFrame durationTicks : ℕ}
    {frameRateHz gain : ℤ} {ok : Bool}
    (h : d.enterPatternMode env mode patternId frameRateHz gain initFrame durationTicks store
      = (d', store', ok)) :
    (loads env patternId initFrame store = false ∧ ok = false ∧
      d'.playback.trialEndMs = d.playback.trialEndMs) ∨
    (loads env patternId initFrame store = true ∧
      d'.playback.trialEndMs = Display.trialDeadline (env.call 6) durationTicks ∧
      ok = (d.rateFor (store.openPattern env.sd patternId).1.sd.info.blockSize ≠ 0
        && ((env.call 6).call 2).timerBegin []) ∧
      (ok = true → d'.screen.state = mode)) := by
  obtain ⟨hstore, ⟨rfl, herr, d₁, -, -, hplayback, -, -, rfl⟩ |
    ⟨herr, d₁, hscreen, hrefresh, hplayback, -, -, hload⟩⟩ := Display.enterPatternMode_cases h
  · refine .inl ⟨?_, rfl, ?_⟩
    · unfold loads
      dsimp only
      rw [decide_eq_false herr, Bool.false_and]
    · rw [Display.showError_deadline, hplayback]
  · have hloads : loads env patternId initFrame store
        = decide ((store'.readFrame env.sd d₁.screen.curFrameIndex frameBufByteCountMax).2 = .ceNone) := by
      unfold loads firstFrame
      dsimp only
      rw [decide_eq_true herr, Bool.true_and, hscreen, hstore]
    rcases hload with ⟨d₂, hload, rfl, rfl⟩ | ⟨d₂, hload, hstart⟩
    · obtain ⟨hdeadline, hok, -⟩ := Display.loadFrame_deadline hload
      refine .inl ⟨?_, rfl, ?_⟩
      · rw [hloads]
        exact decide_eq_false fun hread => Bool.false_ne_true (hok.2 hread)
      · rw [hdeadline, hplayback]
    · obtain ⟨-, hok, -⟩ := Display.loadFrame_deadline hload
      have haccept : d₂.refresh = d₁.refresh ∧ d₂.screen.blockByteCount = d₁.screen.blockByteCount := by
        obtain ⟨d₃, bytes, err, -, hafter, ⟨hfalse, -⟩ | ⟨-, -, rfl⟩⟩ := Display.loadFrame_cases hload
        · cases hfalse
        · obtain ⟨buf, hbuf⟩ := Display.acceptFrame_screen_eq ((env.call 5).call 3) d₃ store'
            d₁.screen.curFrameIndex
          rw [Display.acceptFrame_refresh, hbuf, hafter.refresh, hafter.screen]
          exact ⟨rfl, rfl⟩
      obtain ⟨hdeadline, harm, hstate⟩ := Display.startPattern_deadline hstart
        (by rw [haccept.1, hrefresh])
      refine .inr ⟨?_, hdeadline, ?_, hstate⟩
      · rw [hloads]
        exact decide_eq_true (hok.1 rfl)
      · rw [harm, haccept.2, hscreen, hstore]
        unfold Display.rateFor
        rw [haccept.1, hrefresh]

/-- `SET_FRAME_POSITION` leaves the deadline, and shows the frame if it can be shown. -/
theorem Display.handleSetFramePosition_deadline (env : Env) (store : Store) (data : Mem)
    (d : Display) :
    (d.handleSetFramePosition env store data).1.playback.trialEndMs = d.playback.trialEndMs ∧
      (positions env store data d = true →
        (d.handleSetFramePosition env store data).1.screen.state = .showFrame) := by
  unfold Display.handleSetFramePosition positions
  dsimp only
  split_ifs with hshort
  · refine ⟨Display.showError_deadline .., fun h => ?_⟩
    rw [decide_eq_false (by omega)] at h
    cases h
  · generalize hd : ({ d with health := { d.health with
      cmd70Count := (d.health.cmd70Count + 1) % 2 ^ 32 } } : Display) = d₀
    have hskip : d₀.sameIndexSkip (wordAt data 2 2) = d.sameIndexSkip (wordAt data 2 2) := by
      rw [← hd]
      rfl
    have hplayback : d₀.playback = d.playback := by rw [← hd]
    have hscreen : d₀.screen = d.screen := by rw [← hd]
    rw [← hplayback, ← hscreen, ← hskip]
    unfold Display.setFramePosition
    split_ifs with hopen hindex hsame
    · refine ⟨Display.showError_deadline .., fun h => ?_⟩
      rw [Bool.not_eq_true'] at hopen
      rw [hopen, Bool.and_false, Bool.false_and, Bool.false_and] at h
      cases h
    · refine ⟨Display.showError_deadline .., fun h => ?_⟩
      rw [decide_eq_false (by omega : ¬ wordAt data 2 2 < d₀.screen.frameCount), Bool.and_false,
        Bool.false_and] at h
      cases h
    · refine ⟨rfl, fun _ => ?_⟩
      unfold Display.sameIndexSkip at hsame
      simp only [Bool.and_eq_true, decide_eq_true_eq] at hsame
      exact hsame.1.1.1.1.2
    · generalize hload : d₀.loadFramePosition env store (wordAt data 2 2) = r
      obtain ⟨d', reply⟩ := r
      obtain ⟨d₁, hview, d₂, ok, hframe, hcase⟩ := Display.loadFramePosition_cases hload
      obtain ⟨hdeadline, hok, -⟩ := Display.loadFrame_deadline hframe
      rcases hcase with ⟨rfl, rfl⟩ | ⟨rfl, rfl⟩
      · refine ⟨by rw [hdeadline, hview.playback], fun h => ?_⟩
        have hread : (store.readFrame env.sd (wordAt data 2 2) frameBufByteCountMax).2 ≠ .ceNone :=
          fun hread => Bool.false_ne_true (hok.2 hread)
        rw [Bool.not_eq_true] at hsame
        rw [hsame, Bool.false_or, decide_eq_false hread, Bool.and_false] at h
        cases h
      · obtain ⟨hshown, hplay, -⟩ := Display.showFrame_view ((env.call 1)) d₂
        rw [hplay, hshown]
        exact ⟨by rw [hdeadline, hview.playback], fun _ => rfl⟩

/-- A command about the display leaves the deadline, and a trial it does not end. -/
theorem displayCommand_deadline (env : Env) (store : Store) (x : Transfers) (data : Mem)
    (dataLen : ℕ) (command : DisplayCommand) (d : Display) :
    (displayCommand env store x data dataLen command d).1.playback.trialEndMs
        = d.playback.trialEndMs ∧
      (command.endsTrial env store x data d = false → d.screen.state.pattern = true →
        (displayCommand env store x data dataLen command d).1.screen.state.pattern = true) := by
  by_cases hshows : command.shows = false
  · have hview : Display.SameView d (displayCommand env store x data dataLen command d).1 :=
      displayCommand_sameView hshows
    rw [hview.playback, hview.screen]
    exact ⟨rfl, fun _ hpattern => hpattern⟩
  · have ended {p : Prop} {b : Bool} (hb : b = true) : b = false → p := by
      intro h
      rw [hb] at h
      cases h
    cases command with
    | allOff =>
      change (d.enterAllOff env).playback.trialEndMs = _ ∧ _
      rw [Display.enterAllOff_playback]
      exact ⟨rfl, ended rfl⟩
    | stopDisplay =>
      change (d.enterAllOff env).playback.trialEndMs = _ ∧ _
      rw [Display.enterAllOff_playback]
      exact ⟨rfl, ended rfl⟩
    | allOn =>
      change (d.handleAllOn env x).1.playback.trialEndMs = _ ∧
        (_ → _ → (d.handleAllOn env x).1.screen.state.pattern = true)
      unfold Display.handleAllOn
      split_ifs with hactive
      · exact ⟨rfl, fun _ hpattern => hpattern⟩
      · rw [Display.enterAllOn_playback]
        refine ⟨rfl, ended ?_⟩
        change (!x.active) = true
        simpa using hactive
    | setFramePosition =>
      change (d.handleSetFramePosition env store data).1.playback.trialEndMs = _ ∧
        (_ → _ → (d.handleSetFramePosition env store data).1.screen.state.pattern = true)
      obtain ⟨hdeadline, hshown⟩ := Display.handleSetFramePosition_deadline env store data d
      refine ⟨hdeadline, fun hends _ => ?_⟩
      rw [hshown (by simpa [DisplayCommand.endsTrial] using hends)]
      rfl
    | displayPsramIndex =>
      change (d.handleDisplayPsramIndex env data).1.playback.trialEndMs = _ ∧ _
      unfold Display.handleDisplayPsramIndex
      split_ifs
      · rw [Display.showError_deadline]
        exact ⟨rfl, ended rfl⟩
      · rw [(Display.displayPsramIndex_view env d _).2.1]
        exact ⟨rfl, ended rfl⟩
    | psramPlay =>
      change (d.handlePsramPlay env data).1.playback.trialEndMs = _ ∧ _
      unfold Display.handlePsramPlay
      split_ifs
      · rw [Display.showError_deadline]
        exact ⟨rfl, ended rfl⟩
      · rw [(Display.psramPlay_view env d _ _ _).2.1]
        exact ⟨rfl, ended rfl⟩
    | setRefreshRate =>
      change (d.handleSetRefreshRate env data).1.playback.trialEndMs = _ ∧
        (_ → _ → (d.handleSetRefreshRate env data).1.screen.state.pattern = true)
      obtain ⟨hscreen, hplayback, -⟩ := Display.handleSetRefreshRate_view env d data
      rw [hscreen, hplayback]
      exact ⟨rfl, fun _ hpattern => hpattern⟩
    | setPanelDisplayMode =>
      change (d.handleSetPanelDisplayMode data).1.playback.trialEndMs = _ ∧
        (_ → _ → (d.handleSetPanelDisplayMode data).1.screen.state.pattern = true)
      obtain ⟨⟨_, _, hscreen⟩, -, hplayback, -⟩ := Display.handleSetPanelDisplayMode_view d data
      rw [hscreen, hplayback]
      exact ⟨rfl, fun _ hpattern => hpattern⟩
    | setAoVoltage =>
      change (d.handleSetAoVoltage env data).1.playback.trialEndMs = _ ∧
        (_ → _ → (d.handleSetAoVoltage env data).1.screen.state.pattern = true)
      rcases Display.handleSetAoVoltage_cases env d data with h | ⟨-, _, _, h⟩ <;> rw [h] <;>
        exact ⟨rfl, fun _ hpattern => hpattern⟩
    | setAoMode =>
      change (d.handleSetAoMode env data).1.playback.trialEndMs = _ ∧
        (_ → _ → (d.handleSetAoMode env data).1.screen.state.pattern = true)
      rcases Display.handleSetAoMode_cases env d data with h | ⟨_, h⟩ <;> rw [h] <;>
        exact ⟨rfl, fun _ hpattern => hpattern⟩
    | getAoVoltage =>
      change (d.handleGetAoVoltage env).1.playback.trialEndMs = _ ∧
        (_ → _ → (d.handleGetAoVoltage env).1.screen.state.pattern = true)
      obtain ⟨_, h⟩ := Display.handleGetAoVoltage_cases env d
      rw [h]
      exact ⟨rfl, fun _ hpattern => hpattern⟩
    | setAoLut =>
      change (d.handleSetAoLut env data).1.playback.trialEndMs = _ ∧
        (_ → _ → (d.handleSetAoLut env data).1.screen.state.pattern = true)
      obtain ⟨_, h⟩ := Display.handleSetAoLut_cases env d data
      rw [h]
      exact ⟨rfl, fun _ hpattern => hpattern⟩
    | _ => exact absurd rfl hshows

/-- What a binary command does to a trial. -/
inductive TrialAfter (env : Env) (data : Mem) (c c' : Controller) (reply : Reply) : Prop
  | kept (deadline : c'.display.playback.trialEndMs = c.display.playback.trialEndMs)
      (pattern : c.display.screen.state.pattern = true → c'.display.screen.state.pattern = true)
      (refused : ∀ command, command = .trialParams ∨ command = .setPatternId →
        ArenaCommand.ofByte (data 1) = some (.store command) → reply.status ≠ 0)
  | ended (ends : c.endsTrial env data = true)
      (deadline : c'.display.playback.trialEndMs = c.display.playback.trialEndMs)
  | started (command : ArenaCommand.ofByte (data 1) = some (.store .trialParams))
      (status : reply.status = 0) (pattern : c'.display.screen.state.pattern = true)
  | failed (fails : c.failsArmed env data = true)
  | cleared (deadline : c'.display.playback.trialEndMs = 0)

/-- A pattern that a command starts, at the level of the controller. -/
theorem Controller.enterPatternMode_deadline {mode : ArenaState}
    {patternId initFrame durationTicks : ℕ} {frameRateHz gain : ℤ} {ok : Bool}
    (h : c.enterPatternMode env mode patternId frameRateHz gain initFrame durationTicks = (c', ok)) :
    (loads env patternId initFrame c.store = false ∧ ok = false ∧
      c'.display.playback.trialEndMs = c.display.playback.trialEndMs) ∨
    (loads env patternId initFrame c.store = true ∧
      c'.display.playback.trialEndMs = Display.trialDeadline (env.call 6) durationTicks ∧
      ok = c.armsTimer env patternId ∧ (ok = true → c'.display.screen.state = mode)) := by
  obtain ⟨display, store, hrun, rfl⟩ := Controller.enterPatternMode_cases h
  exact Display.enterPatternMode_deadline hrun

/-- `TRIAL_PARAMS`, whose duration is in ticks of 10 ms. -/
theorem handleTrialParams_trial (h : c.handleTrialParams env data = (c', reply))
    (hcommand : ArenaCommand.ofByte (data 1) = some (.store .trialParams)) :
    TrialAfter env data c c' reply := by
  have hends : c.endsTrial env data = (!c.transfers.active && (paramLen data < 11
      || Controller.trialMode (data 2) = none
      || !loads env (wordAt data 3 2) (wordAt data 7 2) c.store)) := by
    unfold Controller.endsTrial
    rw [hcommand]
  unfold Controller.handleTrialParams at h
  generalize (if 12 ≤ paramLen data then data 13 else 0) = duty at h
  split_ifs at h with hactive hshort
  · cases h
    refine .kept rfl id fun _ _ _ hstatus => absurd hstatus ?_
    decide
  · cases h
    refine .ended ?_ (Display.showError_deadline ..)
    rw [hends, decide_eq_true hshort, Bool.true_or, Bool.true_or, Bool.and_true]
    simpa using hactive
  · unfold Controller.startTrial at h
    dsimp only at h
    split at h
    · next hmode =>
      cases h
      refine .ended ?_ (Display.showError_deadline ..)
      rw [hends, decide_eq_true hmode, Bool.or_true, Bool.true_or, Bool.and_true]
      simpa using hactive
    · next mode hmode =>
      split at h
      · next c₁ hrun =>
        cases h
        rcases Controller.enterPatternMode_deadline hrun with ⟨-, hok, -⟩ | ⟨-, -, -, hstate⟩
        · cases hok
        · refine .started hcommand rfl ?_
          rw [hstate rfl]
          rcases Controller.trialMode_cases hmode with rfl | rfl | rfl <;> rfl
      · next c₁ hrun =>
        cases h
        rcases Controller.enterPatternMode_deadline hrun with ⟨hloads, -, hdeadline⟩ |
          ⟨hloads, hdeadline, harms, -⟩
        · refine .ended ?_ hdeadline
          change loads env (wordAt data 3 2) (wordAt data 7 2) c.store = false at hloads
          rw [hends, hloads, Bool.not_false, Bool.or_true, Bool.and_true]
          simpa using hactive
        · by_cases hzero : Display.trialDeadline (env.call 6) (wordAt data 11 2) = 0
          · exact .cleared (hdeadline.trans hzero)
          · refine .failed ?_
            change loads env (wordAt data 3 2) (wordAt data 7 2) c.store = true at hloads
            change false = c.armsTimer env (wordAt data 3 2) at harms
            unfold Controller.failsArmed
            rw [hcommand, hloads, ← harms, hmode, decide_eq_true hzero]
            simp only [Bool.not_eq_true] at hactive
            rw [hactive, decide_eq_true (by omega : 11 ≤ paramLen data)]
            rfl

/-- `SET_PATTERN_ID`, which sets no deadline. -/
theorem handleSetPatternId_trial (h : c.handleSetPatternId env data = (c', reply))
    (hcommand : ArenaCommand.ofByte (data 1) = some (.store .setPatternId)) :
    TrialAfter env data c c' reply := by
  have hends : c.endsTrial env data = (!c.transfers.active && claimedLen data = 3
      && !loads env (wordAt data 2 2) 0 c.store) := by
    unfold Controller.endsTrial
    rw [hcommand]
  unfold Controller.handleSetPatternId at h
  split_ifs at h with hlen
  · cases h
    refine .kept rfl id fun _ _ _ hstatus => absurd hstatus ?_
    decide
  unfold Controller.setPatternId at h
  split_ifs at h with hactive
  · cases h
    refine .kept rfl id fun _ _ _ hstatus => absurd hstatus ?_
    decide
  · have hcase {ok : Bool} {c₁ : Controller}
        (hrun : (c.withDuty 0).enterPatternMode env .showFrame (wordAt data 2 2) 0 0 0 0 = (c₁, ok)) :
        TrialAfter env data c c₁ reply := by
      rcases Controller.enterPatternMode_deadline hrun with ⟨hloads, -, hdeadline⟩ |
        ⟨-, hdeadline, -⟩
      · refine .ended ?_ hdeadline
        change loads env (wordAt data 2 2) 0 c.store = false at hloads
        rw [hends, hloads, decide_eq_true (not_not.1 hlen), Bool.not_false, Bool.and_true,
          Bool.and_true]
        simpa using hactive
      · exact .cleared hdeadline
    split at h
    · next hrun =>
      cases h
      exact hcase hrun
    · next hrun =>
      cases h
      exact hcase hrun

/-- **What a binary command does to a trial.** -/
theorem dispatch_trial (h : c.dispatch env t data dataLen = (c', reply)) :
    TrialAfter env data c c' reply := by
  have keeps {c₁ : Controller} {command : StoreCommand}
      (hcommand : ArenaCommand.ofByte (data 1) = some (.store command))
      (hother : command ≠ .trialParams ∧ command ≠ .setPatternId)
      (hdeadline : c₁.display.playback.trialEndMs = c.display.playback.trialEndMs)
      (hstate : c₁.display.screen.state = c.display.screen.state) :
      TrialAfter env data c c₁ reply := by
    refine .kept hdeadline (fun hpattern => by rw [hstate, hpattern]) ?_
    rintro command' hstarts hcommand' -
    rw [hcommand] at hcommand'
    cases hcommand'
    exact hstarts.elim hother.1 hother.2
  unfold Controller.dispatch at h
  split at h
  · next command hcommand =>
    cases h
    obtain ⟨hdeadline, hpattern⟩ := displayCommand_deadline env c.store c.transfers data dataLen
      command c.display
    by_cases hends : command.endsTrial env c.store c.transfers data c.display = true
    · refine .ended ?_ hdeadline
      unfold Controller.endsTrial
      rw [hcommand]
      exact hends
    · refine .kept hdeadline (hpattern (by simpa using hends)) ?_
      rintro command' - hcommand'
      rw [hcommand] at hcommand'
      cases hcommand'
  · next command hcommand =>
    cases command with
    | trialParams => exact handleTrialParams_trial h hcommand
    | setPatternId => exact handleSetPatternId_trial h hcommand
    | setPatternFilename =>
      rcases Controller.handleSetPatternFilename_cases h with rfl | ⟨-, _, _, rfl⟩ <;>
        exact keeps hcommand ⟨by decide, by decide⟩ rfl rfl
    | getPatternFile =>
      rcases Controller.handleGetPatternFile_cases h with
        rfl | ⟨-, -, _, _, _, -, -, -, -, -, rfl, -⟩ <;>
        exact keeps hcommand ⟨by decide, by decide⟩ rfl rfl
    | deletePatternFile =>
      rcases Controller.handleDeletePatternFile_cases h with
        rfl | ⟨_, _, _, -, -, -, -, ⟨-, rfl⟩ | ⟨-, rfl⟩⟩ <;>
        exact keeps hcommand ⟨by decide, by decide⟩ rfl rfl
    | purgeMemory =>
      rcases Controller.handlePurgeMemory_cases h with rfl | ⟨-, -, rfl⟩ <;>
        exact keeps hcommand ⟨by decide, by decide⟩ rfl rfl
    | getSdArchive =>
      rcases Controller.handleGetSdArchive_cases h with rfl | ⟨-, -, -, rfl, -⟩ <;>
        exact keeps hcommand ⟨by decide, by decide⟩ rfl rfl
    | setSdDiag =>
      rcases Controller.handleSetSdDiag_cases h with
        rfl | ⟨_, _, -, -, -, -, hscreen, -, hplayback, -⟩
      · exact keeps hcommand ⟨by decide, by decide⟩ rfl rfl
      · refine keeps hcommand ⟨by decide, by decide⟩ ?_ ?_
        · rw [hplayback]
        · rw [hscreen]
    | systemReset =>
      cases h
      exact keeps hcommand ⟨by decide, by decide⟩ rfl rfl
  · next hnone =>
    cases h
    refine .ended ?_ (Display.showError_deadline ..)
    unfold Controller.endsTrial
    rw [hnone]

/-! ### Steps -/

section

variable {s : Tracked} {i : Action × Env}

/-- A step that leaves the deadline and the trial. -/
theorem InTrial.kept (h : InTrial s) (hstart : s.controller.completes .trialParams i = false)
    (hreplace : s.controller.completes .setPatternId i = false)
    (hdeadline : (s.controller.step i).display.playback.trialEndMs
      = s.controller.display.playback.trialEndMs)
    (hpattern : s.controller.display.screen.state.pattern = true →
      (s.controller.step i).display.screen.state.pattern = true) : InTrial (s.step i) := by
  intro hset
  change (s.controller.step i).display.playback.trialEndMs ≠ 0 at hset
  obtain ⟨htrial, hstate⟩ := h (by rwa [hdeadline] at hset)
  refine ⟨?_, hpattern hstate⟩
  unfold Tracked.step
  dsimp only
  rw [hstart, hreplace, hpattern hstate, hdeadline]
  exact htrial

/-- A step after which no deadline is set. -/
theorem InTrial.cleared (h : (s.controller.step i).display.playback.trialEndMs = 0) :
    InTrial (s.step i) :=
  fun hset => absurd h hset

/-- A step that leaves the view of the display. -/
theorem InTrial.sameView (h : InTrial s) (hstart : s.controller.completes .trialParams i = false)
    (hreplace : s.controller.completes .setPatternId i = false)
    (hview : Display.SameView s.controller.display (s.controller.step i).display) :
    InTrial (s.step i) :=
  h.kept hstart hreplace (by rw [hview.playback]) fun hpattern => by rw [hview.screen, hpattern]

end

/-- What is handed to a handler ends a trial as it did before. -/
theorem endsTrial_sameCore (env : Env) (data : Mem) (h : Controller.SameCore c c') :
    c'.endsTrial env data = c.endsTrial env data ∧ c'.failsArmed env data = c.failsArmed env data := by
  constructor
  · unfold Controller.endsTrial DisplayCommand.endsTrial positions Display.sameIndexSkip
      Display.refreshArmedAt
    rw [h.store, h.transfers, h.display.screen, h.display.refresh, h.display.playback]
  · unfold Controller.failsArmed Controller.armsTimer Display.rateFor
    rw [h.store, h.transfers, h.display.refresh]

/-- Moving a pattern on leaves the deadline, and the state unless a frame cannot be read. -/
theorem Display.advance_deadline (env : Env) (store : Store) (d : Display) :
    (d.advance env store).playback.trialEndMs = d.playback.trialEndMs ∧
      ((d.advance env store).screen.state = d.screen.state ∨
        (d.advance env store).screen.state = .errorDisplay) := by
  rcases Display.advance_cases env d store with hmoved | ⟨-, d₁, index, heq, -, hmoved⟩ |
    ⟨-, d₁, index, heq, hmoved⟩
  · obtain ⟨_, _, _, hplayback⟩ := hmoved.playback
    rw [hplayback, hmoved.screen]
    exact ⟨rfl, .inl rfl⟩
  · obtain ⟨_, _, _, hplayback⟩ := hmoved.playback
    rw [heq]
    generalize hload : d₁.loadFrame (env.call 1) store index = r
    obtain ⟨d₂, ok⟩ := r
    obtain ⟨hdeadline, -, hstate⟩ := Display.loadFrame_deadline hload
    refine ⟨?_, ?_⟩
    · rw [hdeadline, hplayback]
    · obtain ⟨d₃, _, _, -, -, ⟨-, -, rfl⟩ | ⟨hok, -, -⟩⟩ := Display.loadFrame_cases hload
      · exact .inr (Display.showError_state ..)
      · rw [hstate hok, hmoved.screen]
        exact .inl rfl
  · obtain ⟨_, _, _, hplayback⟩ := hmoved.playback
    rw [heq]
    refine ⟨?_, .inl ?_⟩
    · change d₁.playback.trialEndMs = _
      rw [hplayback]
    · change d₁.screen.state = _
      rw [hmoved.screen]

/-- The service of the display fires the auto-stop, or leaves the deadline; it takes a trial off
the display only with a frame that cannot be read. -/
theorem Display.serviceDisplay_deadline (env : Env) (store : Store) (d : Display) :
    (d.serviceDisplay env store).playback.trialEndMs = 0 ∨
    ((d.serviceDisplay env store).playback.trialEndMs = d.playback.trialEndMs ∧
      Link.due ((env.call 1).millis 0) d.playback.trialEndMs = false ∧
      (d.screen.state.pattern = true → (d.serviceDisplay env store).screen.state.pattern = true ∨
        ((d.serviceAoLut (env.call 0)).advance (env.call 2) store).screen.state = .errorDisplay)) := by
  obtain ⟨hscreen, -, hplayback, -⟩ := Display.serviceAoLut_view (env.call 0) d
  have htimers := Display.serviceTrialTimer_cases (env.call 1) (d.serviceAoLut (env.call 0))
  unfold Display.serviceDisplay Display.serviceTimers
  dsimp only
  generalize d.serviceAoLut (env.call 0) = d₁ at hscreen hplayback htimers ⊢
  rw [← hscreen, ← hplayback]
  rcases htimers with ⟨h, hdue⟩ | ⟨h, -⟩
  · rw [h]
    rcases hdue with hzero | hdue
    · refine .inl ?_
      split_ifs
      · exact hzero
      · rw [Display.enterAllOff_playback, (Display.transmitOnRefresh_view ..).2.1,
          (Display.advance_deadline ..).1, hzero]
      · rw [(Display.transmitOnRefresh_view ..).2.1, (Display.advance_deadline ..).1, hzero]
    · refine .inr ⟨?_, hdue, fun hpattern => ?_⟩
      · split_ifs
        · rfl
        · rw [Display.enterAllOff_playback, (Display.transmitOnRefresh_view ..).2.1,
            (Display.advance_deadline ..).1]
        · rw [(Display.transmitOnRefresh_view ..).2.1, (Display.advance_deadline ..).1]
      · split_ifs with hoff herror
        · exact .inl hpattern
        · rw [herror.1] at hpattern
          cases hpattern
        · rw [(Display.transmitOnRefresh_view ..).1]
          rcases (Display.advance_deadline (env.call 2) store d₁).2 with
            hstate | hstate
          · rw [hstate]
            exact .inl hpattern
          · exact .inr hstate
  · refine .inl ?_
    rw [h, Display.enterAllOff_state, if_pos rfl, Display.enterAllOff_playback]

theorem serviceDisplay_inTrial {s : Tracked} (h : InTrial s) (hrun : s.controller.halted = false)
    (hends : s.controller.DeadlineEnds (.serviceDisplay, env)) :
    InTrial (s.step (.serviceDisplay, env)) := by
  have hstep : (s.controller.step (.serviceDisplay, env)).display
      = s.controller.display.serviceDisplay env s.controller.store := by
    unfold Controller.step
    rw [if_neg (by rw [hrun]; decide)]
    rfl
  rcases Display.serviceDisplay_deadline env s.controller.store s.controller.display with
    hzero | ⟨hdeadline, hdue, hpattern⟩
  · refine .cleared ?_
    rw [hstep, hzero]
  · by_cases hbad : s.controller.meetsBadFrame env = true
    · refine .cleared ?_
      rw [hstep, hdeadline]
      refine (hends hbad).resolve_right ?_
      rw [hdue]
      decide
    · refine h.kept rfl rfl (by rw [hstep, hdeadline]) fun hstate => ?_
      rw [hstep]
      refine (hpattern hstate).resolve_right fun herror => hbad ?_
      unfold Controller.meetsBadFrame
      dsimp only
      rw [(Display.serviceAoLut_view ..).1, hstate, herror]
      rfl

section

variable {s : Tracked}

theorem step_processCommand (env : Env) (t : Transport) (hrun : s.controller.halted = false) :
    s.controller.step (.processCommand t, env) = s.controller.processCommand env t := by
  unfold Controller.step
  rw [if_neg (by rw [hrun]; decide)]
  rfl

theorem completes_processCommand (hrun : s.controller.halted = false) (command : StoreCommand) :
    s.controller.completes command (.processCommand t, env) = s.controller.accepts env t command := by
  unfold Controller.completes
  rw [hrun]
  rfl

/-- A binary command, but for a reset: its case of the `switch` decides. -/
theorem binary_inTrial (h : InTrial s) (hrun : s.controller.halted = false)
    (hends : s.controller.DeadlineEnds (.processCommand t, env))
    (hhas : s.controller.hasBinary t = true)
    (hreset : (s.controller.source t).rx.parsedCmd.data 1 ≠ systemResetCmd) :
    InTrial (s.step (.processCommand t, env)) := by
  obtain ⟨-, hbinary, hfails⟩ := hends
  dsimp only at hbinary hfails
  have hstep := step_processCommand env t hrun
  have hcore := Controller.processCommand_binary env hhas hreset
  have hhanded := Controller.handed_sameCore env t s.controller
  have htrial : TrialAfter (env.call 5) (s.controller.source t).rx.parsedCmd.data
      (s.controller.handed env t) (s.controller.dispatched env t).1
      (s.controller.dispatched env t).2 := dispatch_trial rfl
  obtain ⟨hendsEq, hfailsEq⟩ := endsTrial_sameCore (env.call 5)
    (s.controller.source t).rx.parsedCmd.data hhanded
  have hcompletes (command : StoreCommand) : s.controller.completes command (.processCommand t, env)
      = (ArenaCommand.ofByte ((s.controller.source t).rx.parsedCmd.data 1) = some (.store command)
        && (s.controller.dispatched env t).2.status = 0) := by
    rw [completes_processCommand hrun]
    unfold Controller.accepts
    rw [hhas, Bool.true_and]
  cases htrial with
  | kept hdeadline hpattern hrefused =>
    have hnot (command : StoreCommand) (hstarts : command = .trialParams ∨ command = .setPatternId) :
        s.controller.completes command (.processCommand t, env) = false := by
      rw [hcompletes, Bool.and_eq_false_iff]
      by_cases hcommand : ArenaCommand.ofByte ((s.controller.source t).rx.parsedCmd.data 1)
          = some (.store command)
      · exact .inr (decide_eq_false (hrefused command hstarts hcommand))
      · exact .inl (decide_eq_false hcommand)
    refine h.kept (hnot _ (.inl rfl)) (hnot _ (.inr rfl)) ?_ fun hstate => ?_
    · rw [hstep, hcore.display.playback, hdeadline, hhanded.display.playback]
    · rw [hstep, hcore.display.screen]
      refine hpattern ?_
      rw [hhanded.display.screen, hstate]
  | ended hended hdeadline =>
    refine .cleared ?_
    rw [hstep, hcore.display.playback, hdeadline, hhanded.display.playback]
    exact hbinary hhas (hendsEq ▸ hended)
  | started hcommand hstatus hpattern =>
    intro _
    refine ⟨?_, ?_⟩
    · unfold Tracked.step
      dsimp only
      rw [hcompletes, decide_eq_true hcommand, decide_eq_true hstatus]
      rfl
    · change (s.controller.step (.processCommand t, env)).display.screen.state.pattern = true
      rw [hstep, hcore.display.screen, hpattern]
  | failed hfailed =>
    rw [hfailsEq, hfails hhas] at hfailed
    cases hfailed
  | cleared hzero =>
    refine .cleared ?_
    rw [hstep, hcore.display.playback, hzero]

/-- The other commands: a stream ends a trial, and the rest leave it. -/
theorem otherCommand_inTrial (h : InTrial s) (hrun : s.controller.halted = false)
    (hends : s.controller.DeadlineEnds (.processCommand t, env))
    (hother : s.controller.hasBinary t = true →
      (s.controller.source t).rx.parsedCmd.data 1 = systemResetCmd) :
    InTrial (s.step (.processCommand t, env)) := by
  obtain ⟨hstream, -, -⟩ := hends
  have hstep := step_processCommand env t hrun
  have hnot (command : StoreCommand) (hne : command ≠ .systemReset) :
      s.controller.completes command (.processCommand t, env) = false := by
    rw [completes_processCommand hrun]
    unfold Controller.accepts
    rw [Bool.and_eq_false_iff, Bool.and_eq_false_iff]
    by_cases hhas : s.controller.hasBinary t = true
    · refine .inl (.inr (decide_eq_false fun hcommand => ?_))
      rw [hother hhas, Controller.ofByte_systemReset] at hcommand
      cases hcommand
      exact hne rfl
    · exact .inl (.inl (by simpa using hhas))
  have hkept (hview : Display.SameView s.controller.display
      (s.controller.processCommand env t).display) : InTrial (s.step (.processCommand t, env)) :=
    h.sameView (hnot _ (by decide)) (hnot _ (by decide)) (by rwa [hstep])
  rcases Controller.processCommand_core env t s.controller with hidle | ⟨hready, howns, hhandles⟩
  · refine hkept ?_
    rw [hidle]
    exact .refl _
  · generalize hc : s.controller.processCommand env t = c' at hhandles hkept hstep
    cases hhandles with
    | card hcore => exact hkept hcore.display
    | upload hbulk hstart =>
      obtain ⟨_, _, -, -, hcore⟩ := hstart.core
      exact hkept hcore.display
    | stream hbulk hisStream c₁ hbefore hafter =>
      refine .cleared ?_
      rw [hstep, hafter.display.playback]
      dsimp only
      have hplayback : (c₁.display.handleStreamCommand env (s.controller.source t).rx.parsedCmd.data
          (s.controller.source t).rx.parsedCmd.dataLen).1.playback = c₁.display.playback := by
        rcases Display.handleStreamCommand_cases env c₁.display
          (s.controller.source t).rx.parsedCmd.data (s.controller.source t).rx.parsedCmd.dataLen with
          ⟨_, -, hshow⟩ | hbad
        · rw [hshow]
          exact (Display.showStream_view ..).2.2.1
        · rw [hbad, Display.enterAllOff_playback]
      rw [hplayback, hbefore.display.playback]
      exact hstream hready howns hbulk hisStream
    | binary hbulk hisStream hsound c₁ c₂ reply hbefore hrun' hafter =>
      have hhas : s.controller.hasBinary t = true := by
        unfold Controller.hasBinary
        dsimp only
        rw [hready, howns, hbulk, hisStream, decide_eq_true hsound]
        rfl
      unfold Controller.dispatch at hrun'
      rw [hother hhas, Controller.ofByte_systemReset] at hrun'
      cases hrun'
      exact hkept (hbefore.display.trans hafter.display)
    | reset hbulk hisStream hsound hopcode c₁ hbefore hafter =>
      refine h.kept (hnot _ (by decide)) (hnot _ (by decide)) ?_ fun hstate => ?_
      · rw [hstep, hafter.display.playback]
        exact congrArg Playback.trialEndMs hbefore.display.playback
      · rw [hstep, hafter.display.screen]
        change c₁.display.screen.state.pattern = true
        rw [hbefore.display.screen, hstate]

theorem processCommand_inTrial (h : InTrial s) (hrun : s.controller.halted = false)
    (hends : s.controller.DeadlineEnds (.processCommand t, env)) :
    InTrial (s.step (.processCommand t, env)) := by
  by_cases hcase : s.controller.hasBinary t = true ∧
      (s.controller.source t).rx.parsedCmd.data 1 ≠ systemResetCmd
  · exact binary_inTrial h hrun hends hcase.1 hcase.2
  · refine otherCommand_inTrial h hrun hends fun hhas => ?_
    by_contra hreset
    exact hcase ⟨hhas, hreset⟩

end

/-- **One step.** -/
theorem Tracked.step_inTrial {s : Tracked} {i : Action × Env} (h : InTrial s)
    (hends : s.controller.DeadlineEnds i) : InTrial (s.step i) := by
  obtain ⟨action, env⟩ := i
  by_cases hrun : s.controller.halted = true
  · have hstep : s.controller.step (action, env) = s.controller := by
      unfold Controller.step
      rw [if_pos hrun]
    have hnot (command : StoreCommand) : s.controller.completes command (action, env) = false := by
      unfold Controller.completes
      split
      · rw [hrun]
        rfl
      · rfl
    refine h.sameView (hnot _) (hnot _) ?_
    rw [hstep]
    exact .refl _
  rw [Bool.not_eq_true] at hrun
  have hstep : s.controller.step (action, env) = s.controller.act env action := by
    unfold Controller.step
    rw [if_neg (by rw [hrun]; decide)]
  have hserves {c' : Controller} (hact : s.controller.act env action = c')
      (hserved : Controller.Serves s.controller c')
      (hnot : ∀ command, s.controller.completes command (action, env) = false) :
      InTrial (s.step (action, env)) := by
    refine h.sameView (hnot _) (hnot _) ?_
    rw [hstep, hact, hserved.display]
    exact .refl _
  cases action with
  | arrive t bytes => exact h.sameView rfl rfl (by rw [hstep]; exact .refl _)
  | disconnect => exact h.sameView rfl rfl (by rw [hstep]; exact .refl _)
  | service t accepted => exact h.sameView rfl rfl (by rw [hstep]; exact .refl _)
  | processCommand t => exact processCommand_inTrial h hrun hends
  | serviceDisplay => exact serviceDisplay_inTrial h hrun hends
  | serviceTelemetry =>
    refine h.sameView rfl rfl ?_
    rw [hstep]
    exact ⟨rfl, rfl, rfl, rfl, rfl, rfl, rfl⟩
  | serviceDownload => exact hserves rfl (Controller.serviceDownload_serves ..) fun _ => rfl
  | serviceUpload => exact hserves rfl (Controller.serviceUpload_serves ..) fun _ => rfl
  | serviceArchive => exact hserves rfl (Controller.serviceArchive_serves ..) fun _ => rfl
  | serviceDisconnects => exact hserves rfl (Controller.serviceDisconnects_serves ..) fun _ => rfl
  | serviceLateBootBlank =>
    have hblank : (s.controller.display.serviceLateBootBlank env
          (!s.controller.transfers.active)).playback.trialEndMs
            = s.controller.display.playback.trialEndMs ∧
        (s.controller.display.serviceLateBootBlank env
          (!s.controller.transfers.active)).screen.state = s.controller.display.screen.state := by
      unfold Display.serviceLateBootBlank
      dsimp only
      split_ifs with hpending hdue hoff
      · exact ⟨rfl, rfl⟩
      · exact ⟨rfl, rfl⟩
      · rw [Display.enterAllOff_playback, Display.enterAllOff_state, hoff.1]
        exact ⟨rfl, rfl⟩
      · exact ⟨rfl, rfl⟩
    refine h.kept rfl rfl (by rw [hstep]; exact hblank.1) fun hstate => ?_
    rw [hstep]
    exact (congrArg ArenaState.pattern hblank.2).trans hstate
  | flushResponses t => exact h.sameView rfl rfl (by rw [hstep]; exact .refl _)
  | refreshIsr =>
    obtain ⟨hscreen, hplayback, -⟩ := Display.refreshIsr_view s.controller.display
    refine h.kept rfl rfl ?_ fun hstate => ?_
    · rw [hstep]
      exact congrArg Playback.trialEndMs hplayback
    · rw [hstep]
      exact (congrArg (fun screen => screen.state.pattern) hscreen).trans hstate

/-! ### Runs -/

/-- The controller after `setup()`, with no trial. -/
def Tracked.start (boot : Boot) (env : Env) : Tracked := ⟨setup boot env, none⟩

theorem Tracked.start_inTrial (boot : Boot) (env : Env) : InTrial (Tracked.start boot env) := by
  intro hset
  refine absurd ?_ hset
  change (setup boot env).display.playback.trialEndMs = 0
  unfold setup
  dsimp only
  rw [Display.enterAllOff_playback, Display.enterAllOff_playback]
  rfl

/-- **The auto-stop stops its own trial**, as long as no trial ends with its deadline set: when
`serviceTrialTimer` does anything, the display is in the trial whose deadline is past. -/
theorem autoStop_own_trial {boot : Boot} {env₀ : Env} {is : List (Action × Env)}
    (h : Along Tracked.step (fun s => s.controller.DeadlineEnds) (Tracked.start boot env₀) is) :
    let s := Machine.run Tracked.step (Tracked.start boot env₀) is
    let d := s.controller.display
    ∀ env, d.serviceTimers env ≠ d.serviceAoLut (env.call 0) →
      s.trial = some d.playback.trialEndMs ∧ d.screen.state.pattern = true := by
  intro s d env hstops
  have hinv : InTrial s := run_inv (fun _ _ hinv hends => Tracked.step_inTrial hinv hends)
    (Tracked.start_inTrial boot env₀) h
  refine hinv fun hzero => hstops ?_
  obtain ⟨-, -, hplayback, -⟩ := Display.serviceAoLut_view (env.call 0) d
  unfold Display.serviceTimers Display.serviceTrialTimer
  rw [if_pos (by rw [hplayback]; exact hzero)]

end

/-! ### A trial that ends before its deadline -/

section

local instance autoStopBoard : Board := ⟨.hw2_10⟩

/-- `TRIAL_PARAMS` of the first pattern, for one tick. -/
def trialOfOneTick : List UInt8 := [12, 0x08, 3, 1, 0, 0, 0, 0, 0, 0, 0, 1, 0]

/-- When the tick is over. -/
def afterTick : Env := { Env.calm smallIo with ms := fun _ => 10 }

set_option maxRecDepth 100000 in
/-- A trial is stopped at its deadline. -/
theorem autoStop_of_running_trial :
    let s := Machine.run Tracked.step (Tracked.start (.cold smallCard) (.calm smallIo))
      (receive .serial trialOfOneTick (.calm smallIo))
    s.trial = some s.controller.display.playback.trialEndMs ∧
      s.controller.display.screen.state.pattern = true :=
  autoStop_own_trial (by decide +kernel) afterTick fun h =>
    absurd (congrArg (fun d => d.screen.state) h) (by decide +kernel)

set_option maxRecDepth 100000 in
/-- **The deadline of a trial that was stopped turns off a later display**: `TRIAL_PARAMS`,
`ALL_OFF`, `ALL_ON`, and the tick is over. -/
theorem autoStop_of_later_display :
    let s := Machine.run Tracked.step (Tracked.start (.cold smallCard) (.calm smallIo))
      (receive .serial trialOfOneTick (.calm smallIo) ++ receive .serial [1, 0x00] (.calm smallIo)
        ++ receive .serial [1, 0xFF] (.calm smallIo))
    s.trial = none ∧ s.controller.display.screen.state = .allOn ∧
      (s.controller.display.serviceTimers afterTick).screen.state = .allOff := by
  decide +kernel

end

end Command
end G6Arena
