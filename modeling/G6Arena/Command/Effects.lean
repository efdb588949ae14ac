/-
# What the display does

One lemma per function of the display, saying what it does to the picture: the screen, the
refresh timer, the playback and the analog output.  What remains, telemetry and counters, is
about the past (`SameView`).
-/

import G6Arena.Command.Machine

namespace G6Arena
namespace Command

open ByteMem Link Panel
open Sd (ControllerError Store)

namespace Display

/-- What the accounts of frames look at: has the buffer been presented, how many were replaced
before that, and the reads. -/
def tally (d : Display) : Bool × ℕ × ℕ :=
  (d.marks.bufPresented, d.marks.supersededPending, d.health.sdReads)

/-- Displays that show the same: they differ in telemetry, counters of commands, times of requests
and digital outputs. -/
structure SameView (d d' : Display) : Prop where
  screen : d'.screen = d.screen
  refresh : d'.refresh = d.refresh
  playback : d'.playback = d.playback
  ao : d'.ao = d.ao
  clocked : d'.clocked = d.clocked
  flags : d'.marks.frameSrcFlags = d.marks.frameSrcFlags
  tally : d'.tally = d.tally

namespace SameView

variable {d d' d'' : Display}

theorem refl (d : Display) : SameView d d := ⟨rfl, rfl, rfl, rfl, rfl, rfl, rfl⟩

theorem trans (h : SameView d d') (h' : SameView d' d'') : SameView d d'' :=
  ⟨h'.screen.trans h.screen, h'.refresh.trans h.refresh, h'.playback.trans h.playback,
    h'.ao.trans h.ao, h'.clocked.trans h.clocked, h'.flags.trans h.flags, h'.tally.trans h.tally⟩

end SameView

variable {d : Display}

/-! ### Telemetry and the timer -/

theorem note_sameView (c : Telemetry.Clock) (kind code : UInt8) (arg : ℕ) (d : Display) :
    SameView d (d.note c kind code arg) := ⟨rfl, rfl, rfl, rfl, rfl, rfl, rfl⟩

theorem flushOpenReads_sameView (c : Telemetry.Clock) (d : Display) :
    SameView d (d.flushOpenReads c) := by
  unfold flushOpenReads
  split_ifs
  · exact .refl d
  · exact ⟨rfl, rfl, rfl, rfl, rfl, rfl, rfl⟩

theorem noteLayout_sameView (c : Telemetry.Clock) (env : Env) (store : Store) (d : Display) :
    SameView d (d.noteLayout c env store) := ⟨rfl, rfl, rfl, rfl, rfl, rfl, rfl⟩

theorem noteSlowRead_sameView (env : Env) (tSd : ℕ) (err : ControllerError) (d : Display) :
    SameView d (d.noteSlowRead env tSd err) := by
  unfold noteSlowRead
  split
  · exact ⟨rfl, rfl, rfl, rfl, rfl, rfl, rfl⟩
  · exact .refl d

/-- A read is counted. -/
theorem countRead_sameView (env : Env) (err : ControllerError) (d : Display) :
    SameView { d with health := { d.health with sdReads := (d.health.sdReads + 1) % 2 ^ 32 } }
      (d.countRead env err) := by
  unfold countRead
  dsimp only
  refine .trans ?_ (noteSlowRead_sameView ..)
  split_ifs <;> exact ⟨rfl, rfl, rfl, rfl, rfl, rfl, rfl⟩

/-- The timer is armed at the rate asked for, or it is not and nothing changes. -/
theorem armRefreshTimer_cases {env : Env} {hz : ℕ} {d' : Display} {ok : Bool}
    (h : d.armRefreshTimer env hz = (d', ok)) :
    (ok = true ∧ hz ≠ 0 ∧ d' = { d with refresh := { d.refresh with armedHz := hz } }) ∨
    (ok = false ∧ SameView d d' ∧ (hz = 0 ∨ d.refresh.armedHz = 0)) := by
  unfold armRefreshTimer at h
  split_ifs at h with hz0 harmed hother hbegin <;> cases h
  · exact .inr ⟨rfl, .refl d, .inl hz0⟩
  · refine .inl ⟨rfl, hz0, ?_⟩
    rw [← harmed]
  · exact .inl ⟨rfl, hz0, rfl⟩
  · exact .inr ⟨rfl, note_sameView .., .inr (not_not.1 hother)⟩
  · exact .inl ⟨rfl, hz0, rfl⟩

/-- Whatever the timer does, only its rate changes. -/
theorem armRefreshTimer_fst (env : Env) (hz : ℕ) (d : Display) : ∃ armed tel,
    (d.armRefreshTimer env hz).1
      = { d with refresh := { d.refresh with armedHz := armed }, tel := tel } := by
  unfold armRefreshTimer
  split_ifs
  · exact ⟨_, _, rfl⟩
  · exact ⟨_, _, rfl⟩
  · exact ⟨_, _, rfl⟩
  · exact ⟨_, _, rfl⟩
  · exact ⟨_, _, rfl⟩

section

variable (env : Env) (hz : ℕ) (d : Display)

@[simp] theorem armRefreshTimer_screen : (d.armRefreshTimer env hz).1.screen = d.screen := by
  obtain ⟨_, _, h⟩ := armRefreshTimer_fst env hz d
  rw [h]

@[simp] theorem armRefreshTimer_playback :
    (d.armRefreshTimer env hz).1.playback = d.playback := by
  obtain ⟨_, _, h⟩ := armRefreshTimer_fst env hz d
  rw [h]

@[simp] theorem armRefreshTimer_ao : (d.armRefreshTimer env hz).1.ao = d.ao := by
  obtain ⟨_, _, h⟩ := armRefreshTimer_fst env hz d
  rw [h]

@[simp] theorem armRefreshTimer_clocked : (d.armRefreshTimer env hz).1.clocked = d.clocked := by
  obtain ⟨_, _, h⟩ := armRefreshTimer_fst env hz d
  rw [h]

@[simp] theorem armRefreshTimer_rateHz :
    (d.armRefreshTimer env hz).1.refresh.rateHz = d.refresh.rateHz := by
  obtain ⟨_, _, h⟩ := armRefreshTimer_fst env hz d
  rw [h]

@[simp] theorem armRefreshTimer_rateExplicit :
    (d.armRefreshTimer env hz).1.refresh.rateExplicit = d.refresh.rateExplicit := by
  obtain ⟨_, _, h⟩ := armRefreshTimer_fst env hz d
  rw [h]

/-! ### Without the frame -/

/-- `enterStreamingFrame`. -/
theorem enterStreamingFrame_screen (blockByteCount : ℕ) :
    (d.enterStreamingFrame env blockByteCount).screen
      = { d.screen with blockByteCount := blockByteCount, state := .streamingFrame } := by
  unfold enterStreamingFrame
  dsimp only
  rw [(note_sameView ..).screen, armRefreshTimer_screen]
  rfl

@[simp] theorem enterStreamingFrame_playback (blockByteCount : ℕ) :
    (d.enterStreamingFrame env blockByteCount).playback = d.playback := by
  unfold enterStreamingFrame
  dsimp only
  rw [(note_sameView ..).playback, armRefreshTimer_playback]
  rfl

@[simp] theorem enterStreamingFrame_ao (blockByteCount : ℕ) :
    (d.enterStreamingFrame env blockByteCount).ao = d.ao := by
  unfold enterStreamingFrame
  dsimp only
  rw [(note_sameView ..).ao, armRefreshTimer_ao]
  rfl

/-- The buffer patched, and nothing else. -/
theorem patchDispMode_eq (s : Screen) : ∃ buf, s.patchDispMode = { s with frameBuf := buf } := by
  unfold Screen.patchDispMode
  split_ifs
  · exact ⟨_, rfl⟩
  · exact ⟨_, rfl⟩

theorem patchTrialDuty_eq (s : Screen) : ∃ buf, s.patchTrialDuty = { s with frameBuf := buf } := by
  unfold Screen.patchTrialDuty
  split_ifs
  · exact ⟨_, rfl⟩
  · exact ⟨_, rfl⟩
  · exact ⟨_, rfl⟩
  · exact ⟨_, rfl⟩

/-- `acceptFrame`. -/
theorem acceptFrame_screen (store : Store) (frameIndex : ℕ) :
    (d.acceptFrame env store frameIndex).screen = { ({ d.screen with
        frameByteCount := frameBytes store.sd.info.numPanels d.screen.blockByteCount
        frameBufIsFrame := true } : Screen).patchDispMode.patchTrialDuty with
      sdCacheOk := (deriveOutputs (env.wire [0]) frameIndex d.screen.frameCount d.ao).2 } := rfl

theorem acceptFrame_ao (store : Store) (frameIndex : ℕ) : (d.acceptFrame env store frameIndex).ao
    = (deriveOutputs (env.wire [0]) frameIndex d.screen.frameCount d.ao).1 := rfl

@[simp] theorem acceptFrame_refresh (store : Store) (frameIndex : ℕ) :
    (d.acceptFrame env store frameIndex).refresh = d.refresh := rfl

@[simp] theorem acceptFrame_playback (store : Store) (frameIndex : ℕ) :
    (d.acceptFrame env store frameIndex).playback = d.playback := rfl

/-- A frame that is accepted changes the buffer and what is known of it. -/
theorem acceptFrame_screen_eq (store : Store) (frameIndex : ℕ) : ∃ buf,
    (d.acceptFrame env store frameIndex).screen = { d.screen with
      frameBuf := buf
      frameByteCount := frameBytes store.sd.info.numPanels d.screen.blockByteCount
      frameBufIsFrame := true
      sdCacheOk := (deriveOutputs (env.wire [0]) frameIndex d.screen.frameCount d.ao).2 } := by
  rw [acceptFrame_screen]
  obtain ⟨buf, hbuf⟩ := patchDispMode_eq { d.screen with
    frameByteCount := frameBytes store.sd.info.numPanels d.screen.blockByteCount
    frameBufIsFrame := true }
  rw [hbuf]
  obtain ⟨buf', hbuf'⟩ := patchTrialDuty_eq { d.screen with
    frameBuf := buf
    frameByteCount := frameBytes store.sd.info.numPanels d.screen.blockByteCount
    frameBufIsFrame := true }
  exact ⟨buf', by rw [hbuf']⟩

@[simp] theorem acceptFrame_state (store : Store) (frameIndex : ℕ) :
    (d.acceptFrame env store frameIndex).screen.state = d.screen.state := by
  obtain ⟨buf, h⟩ := acceptFrame_screen_eq env d store frameIndex
  rw [h]

/-- A display of PSRAM frames. -/
theorem enterPsramPlay_sameView :
    SameView { d with screen := { d.screen with state := .psramPlay } } (d.enterPsramPlay env) := by
  unfold enterPsramPlay
  dsimp only
  split_ifs <;> exact ⟨rfl, rfl, rfl, rfl, rfl, rfl, rfl⟩

/-- Setting the refresh rate leaves what is shown. -/
theorem handleSetRefreshRate_view (data : Mem) :
    (d.handleSetRefreshRate env data).1.screen = d.screen ∧
      (d.handleSetRefreshRate env data).1.playback = d.playback ∧
      (d.handleSetRefreshRate env data).1.ao = d.ao := by
  unfold handleSetRefreshRate
  dsimp only
  split_ifs
  · exact ⟨rfl, rfl, rfl⟩
  · unfold setRefreshRate
    dsimp only
    split_ifs
    · split <;> next harm =>
        rw [← congrArg Prod.fst harm, armRefreshTimer_screen, armRefreshTimer_playback,
          armRefreshTimer_ao]
        exact ⟨rfl, rfl, rfl⟩
    · exact ⟨rfl, rfl, rfl⟩
  · exact ⟨rfl, rfl, rfl⟩

/-- Setting the display mode patches the buffer. -/
theorem handleSetPanelDisplayMode_view (data : Mem) :
    (∃ mode buf, (d.handleSetPanelDisplayMode data).1.screen
        = { d.screen with panelDispMode := mode, frameBuf := buf }) ∧
      (d.handleSetPanelDisplayMode data).1.refresh = d.refresh ∧
      (d.handleSetPanelDisplayMode data).1.playback = d.playback ∧
      (d.handleSetPanelDisplayMode data).1.ao = d.ao := by
  unfold handleSetPanelDisplayMode
  dsimp only
  split_ifs
  · exact ⟨⟨_, _, rfl⟩, rfl, rfl, rfl⟩
  · exact ⟨⟨_, _, rfl⟩, rfl, rfl, rfl⟩
  · obtain ⟨buf, hbuf⟩ := patchDispMode_eq { d.screen with panelDispMode := data 2 }
    exact ⟨⟨_, buf, hbuf⟩, rfl, rfl, rfl⟩

/-- `SET_AO_VOLTAGE` changes the output, and then it has no LUT. -/
theorem handleSetAoVoltage_cases (data : Mem) : (d.handleSetAoVoltage env data).1 = d ∨
    (d.ao.mode = 0 ∧ ∃ code mv, (d.handleSetAoVoltage env data).1
      = { d with ao := { d.ao with dacCode := code, mv := mv, lutLen := 0 } }) := by
  unfold handleSetAoVoltage setAoVoltage writeDacMv
  split_ifs with hlen hmv hmode hok
  · exact .inl rfl
  · exact .inl rfl
  · exact .inl rfl
  · exact .inr ⟨not_not.1 hmode, _, _, rfl⟩
  · exact .inl rfl

/-- `SET_AO_MODE` refuses, or drops the frame cache. -/
theorem handleSetAoMode_cases (data : Mem) : (d.handleSetAoMode env data).1 = d ∨
    ∃ ao, (d.handleSetAoMode env data).1 = { d.dropFrameCache with ao := ao } := by
  unfold handleSetAoMode setAoMode
  split_ifs
  · exact .inl rfl
  · exact .inl rfl
  · exact .inr ⟨_, rfl⟩
  · exact .inr ⟨_, rfl⟩

/-- `GET_AO_VOLTAGE` refreshes what is known of the level. -/
theorem handleGetAoVoltage_cases :
    ∃ mv, (d.handleGetAoVoltage env).1 = { d with ao := { d.ao with mv := mv } } := by
  unfold handleGetAoVoltage
  split
  · exact ⟨d.ao.mv, rfl⟩
  · exact ⟨_, rfl⟩

/-- `SET_AO_LUT` drops the frame cache, whatever it answers. -/
theorem handleSetAoLut_cases (data : Mem) :
    ∃ ao, (d.handleSetAoLut env data).1 = { d.dropFrameCache with ao := ao } := by
  unfold handleSetAoLut
  dsimp only
  split_ifs
  · exact ⟨d.ao, rfl⟩
  · exact ⟨d.ao, rfl⟩
  · exact ⟨d.ao, rfl⟩
  · exact ⟨d.ao, rfl⟩
  · exact ⟨d.ao, rfl⟩
  · split
    · exact ⟨_, rfl⟩
    · unfold startAoLut
      dsimp only
      split <;> exact ⟨_, rfl⟩

theorem serviceAoLut_view : (d.serviceAoLut env).screen = d.screen ∧
    (d.serviceAoLut env).refresh = d.refresh ∧ (d.serviceAoLut env).playback = d.playback ∧
    (d.serviceAoLut env).clocked = d.clocked := by
  unfold serviceAoLut
  dsimp only
  split_ifs <;> exact ⟨rfl, rfl, rfl, rfl⟩

/-- The refresh interrupt sets its flag if it is armed. -/
theorem refreshIsr_view : d.refreshIsr.screen = d.screen ∧ d.refreshIsr.playback = d.playback ∧
    d.refreshIsr.ao = d.ao ∧ d.refreshIsr.refresh.rateHz = d.refresh.rateHz ∧
    d.refreshIsr.refresh.armedHz = d.refresh.armedHz ∧ d.refreshIsr.clocked = d.clocked := by
  unfold refreshIsr
  split_ifs <;> exact ⟨rfl, rfl, rfl, rfl, rfl, rfl⟩

/-- The clocks of the playback moved. -/
def ClocksMoved (p p' : Playback) : Prop :=
  ∃ advance sample offset, p' = { p with
    lastAdvanceUs := advance, lastSampleUs := sample, psramPlayOffset := offset }

/-- A display that has moved to a frame it has not loaded yet. -/
structure Moved (index : ℕ) (d d' : Display) : Prop where
  screen : d'.screen = { d.screen with curFrameIndex := index }
  refresh : d'.refresh = d.refresh
  playback : ClocksMoved d.playback d'.playback
  marks : d'.marks = d.marks
  ao : d'.ao = d.ao
  clocked : d'.clocked = d.clocked
  health : d'.health = d.health

theorem Moved.refl (d : Display) : Moved d.screen.curFrameIndex d d :=
  ⟨rfl, rfl, ⟨_, _, _, rfl⟩, rfl, rfl, rfl, rfl⟩

theorem Moved.tally {index : ℕ} {d d' : Display} (h : Moved index d d') : d'.tally = d.tally := by
  unfold Display.tally
  rw [h.marks, h.health]

end

/-! ### Transfers and states -/

section

variable [Board] (env : Env) (d : Display)

/-- A transfer clocks the buffer out and changes nothing that is shown. -/
theorem transferFrame_eq : ∃ sent, d.transferFrame = { d with
    framesSent := sent
    clocked := d.clocked ++ if transferable d.screen.blockByteCount then
      [clockedBlocks d.screen.frameBuf d.screen.blockByteCount] else [] } := by
  unfold transferFrame
  split_ifs
  · exact ⟨_, rfl⟩
  · exact ⟨d.framesSent, by rw [List.append_nil]⟩

@[simp] theorem transferFrame_screen : d.transferFrame.screen = d.screen := by
  obtain ⟨_, h⟩ := transferFrame_eq d
  rw [h]

@[simp] theorem transferFrame_refresh : d.transferFrame.refresh = d.refresh := by
  obtain ⟨_, h⟩ := transferFrame_eq d
  rw [h]

@[simp] theorem transferFrame_playback : d.transferFrame.playback = d.playback := by
  obtain ⟨_, h⟩ := transferFrame_eq d
  rw [h]

@[simp] theorem transferFrame_ao : d.transferFrame.ao = d.ao := by
  obtain ⟨_, h⟩ := transferFrame_eq d
  rw [h]

/-- `enterAllOff`. -/
theorem enterAllOff_screen : (d.enterAllOff env).screen = { d.screen with
    frameBuf := darkBuf
    blockByteCount := panelBlockByteCountGs2
    frameByteCount := 0
    frameBufIsFrame := false
    sdCacheOk := false
    state := .allOff
    trialDuty := 0 } := by
  unfold enterAllOff
  dsimp only
  rw [(flushOpenReads_sameView ..).screen, (note_sameView ..).screen]
  simp only [transferFrame_screen]
  rfl

@[simp] theorem enterAllOff_state : (d.enterAllOff env).screen.state = .allOff := by
  rw [enterAllOff_screen]

@[simp] theorem enterAllOff_refresh :
    (d.enterAllOff env).refresh = { d.refresh with armedHz := 0, refreshFlag := false } := by
  unfold enterAllOff
  dsimp only
  rw [(flushOpenReads_sameView ..).refresh, (note_sameView ..).refresh]
  simp only [transferFrame_refresh]
  rfl

@[simp] theorem enterAllOff_playback : (d.enterAllOff env).playback = d.playback := by
  unfold enterAllOff
  dsimp only
  rw [(flushOpenReads_sameView ..).playback, (note_sameView ..).playback]
  simp only [transferFrame_playback]
  rfl

@[simp] theorem enterAllOff_ao : (d.enterAllOff env).ao = d.ao := by
  unfold enterAllOff
  dsimp only
  rw [(flushOpenReads_sameView ..).ao, (note_sameView ..).ao]
  simp only [transferFrame_ao]
  rfl

/-- `enterAllOn`. -/
theorem enterAllOn_screen : (d.enterAllOn env).screen = { d.screen with
    frameBuf := allOnBuf d.screen.panelDispMode
    blockByteCount := panelBlockByteCountGs16
    frameByteCount := frameBytes panelCountPerFrame panelBlockByteCountGs16
    frameBufIsFrame := false
    sdCacheOk := false
    state := .allOn } := by
  unfold enterAllOn
  dsimp only
  rw [(note_sameView ..).screen, armRefreshTimer_screen]
  rfl

@[simp] theorem enterAllOn_playback : (d.enterAllOn env).playback = d.playback := by
  unfold enterAllOn
  dsimp only
  rw [(note_sameView ..).playback, armRefreshTimer_playback]
  rfl

@[simp] theorem enterAllOn_ao : (d.enterAllOn env).ao = d.ao := by
  unfold enterAllOn
  dsimp only
  rw [(note_sameView ..).ao, armRefreshTimer_ao]
  rfl

/-- `showError`. -/
theorem showError_screen (code : ControllerError) : (d.showError env code).screen = { d.screen with
    frameBuf := (buildErrorFrame d.screen.frameBuf code.toByte panelCountPerFrame).1
    blockByteCount := panelBlockByteCountGs16
    frameByteCount :=
      (buildErrorFrame d.screen.frameBuf code.toByte panelCountPerFrame).2 % 2 ^ 16
    frameBufIsFrame := false
    sdCacheOk := false
    state := .errorDisplay } := by
  unfold showError
  dsimp only
  rw [armRefreshTimer_screen, (note_sameView ..).screen]
  rfl

@[simp] theorem showError_state (code : ControllerError) :
    (d.showError env code).screen.state = .errorDisplay := by
  rw [showError_screen]

theorem showError_playback (code : ControllerError) : (d.showError env code).playback
    = { d.playback with errorUntilMs := (env.millis 1 + errorDisplayHoldMs) % 2 ^ 32 } := by
  unfold showError
  dsimp only
  rw [armRefreshTimer_playback, (note_sameView ..).playback]
  rfl

@[simp] theorem showError_ao (code : ControllerError) : (d.showError env code).ao = d.ao := by
  unfold showError
  dsimp only
  rw [armRefreshTimer_ao, (note_sameView ..).ao]
  rfl

/-! ### Frames from the card -/

/-- The display of `loadFrame` when the read is over: it shows what it did, but for the bytes
in the buffer. -/
structure AfterRead (bytes : List UInt8) (d d' : Display) : Prop where
  screen : d'.screen = { d.screen with
    frameBuf := ByteMem.store d.screen.frameBuf 0 bytes
    frameBufIsFrame := false }
  refresh : d'.refresh = d.refresh
  playback : d'.playback = d.playback
  ao : d'.ao = d.ao
  clocked : d'.clocked = d.clocked

variable {env d} in
/-- A frame is read and accepted, or an error is shown. -/
theorem loadFrame_cases {store : Store} {frameIndex : ℕ} {d' : Display} {ok : Bool}
    (h : d.loadFrame env store frameIndex = (d', ok)) :
    ∃ d₁ bytes err, store.readFrame env.sd frameIndex frameBufByteCountMax = (bytes, err) ∧
      AfterRead bytes d d₁ ∧
      ((ok = false ∧ err ≠ .ceNone ∧ d' = d₁.showError (env.call 2) err) ∨
        (ok = true ∧ err = .ceNone ∧ d' = d₁.acceptFrame (env.call 3) store frameIndex)) := by
  unfold loadFrame at h
  dsimp only at h
  generalize hread : store.readFrame env.sd frameIndex frameBufByteCountMax = r at h
  obtain ⟨bytes, err⟩ := r
  dsimp only at h
  have hcount := countRead_sameView (env.call 1) err
    { d.beginLoad (env.call 0) with screen := { (d.beginLoad (env.call 0)).screen with
      frameBuf := ByteMem.store (d.beginLoad (env.call 0)).screen.frameBuf 0 bytes } }
  refine ⟨_, bytes, err, rfl,
    ⟨hcount.screen, hcount.refresh, hcount.playback, hcount.ao, hcount.clocked⟩, ?_⟩
  split_ifs at h with herr <;> cases h
  · exact .inl ⟨rfl, herr, rfl⟩
  · exact .inr ⟨rfl, not_not.1 herr, rfl⟩

/-! ### Patterns -/

/-- The deadline a trial of this length sets. -/
def trialDeadline (env : Env) (durationTicks : ℕ) : ℕ :=
  if durationTicks ≠ 0 then (env.millis 1 + durationTicks * 10) % 2 ^ 32 else 0

variable {env d} in
/-- A pattern starts, its timer armed; or the timer fails, its deadline already set. -/
theorem startPattern_cases {mode : ArenaState} {durationTicks : ℕ} {d' : Display} {ok : Bool}
    (h : d.startPattern env mode durationTicks = (d', ok)) :
    ∃ d₁ : Display, d₁.screen = { d.screen with state := mode } ∧
      d₁.refresh = { d.refresh with rateHz := d.rateFor d.screen.blockByteCount } ∧
      d₁.playback = { d.playback with
        lastAdvanceUs := env.micros 0
        lastSampleUs := env.micros 0
        trialEndMs := trialDeadline env durationTicks } ∧
      d₁.ao = d.ao ∧ d₁.clocked = d.clocked ∧
      ((ok = true ∧ d₁.refresh.rateHz ≠ 0 ∧
          SameView { d₁ with refresh := { d₁.refresh with armedHz := d₁.refresh.rateHz } } d') ∨
        (ok = false ∧ ∃ d₂, SameView d₁ d₂ ∧ d' = d₂.enterAllOff (env.call 3))) := by
  unfold startPattern at h
  dsimp only at h
  split at h
  · next harm =>
    rcases armRefreshTimer_cases harm with ⟨hok, -, -⟩ | ⟨-, hview, -⟩
    · cases hok
    · cases h
      refine ⟨_, ?_, ?_, ?_, ?_, ?_, .inr ⟨rfl, _, hview, rfl⟩⟩ <;> rfl
  · next harm =>
    rcases armRefreshTimer_cases harm with ⟨-, hz, rfl⟩ | ⟨hok, -, -⟩
    · cases h
      refine ⟨{ d with
        screen := { d.screen with state := mode }
        refresh := { d.refresh with rateHz := d.rateFor d.screen.blockByteCount }
        playback := { d.playback with
          lastAdvanceUs := env.micros 0
          lastSampleUs := env.micros 0
          trialEndMs := trialDeadline env durationTicks } },
        rfl, rfl, rfl, rfl, rfl, .inl ⟨rfl, hz, rfl, rfl, rfl, rfl, rfl, rfl, rfl⟩⟩
    · cases hok

variable {env d} in
/-- The pattern is opened or not, its first frame loaded or not, and then it starts. -/
theorem enterPatternMode_cases {mode : ArenaState} {patternId initFrame durationTicks : ℕ}
    {frameRateHz gain : ℤ} {store store' : Store} {d' : Display} {ok : Bool}
    (h : d.enterPatternMode env mode patternId frameRateHz gain initFrame durationTicks store
      = (d', store', ok)) :
    store' = (store.openPattern env.sd patternId).1 ∧
    ((ok = false ∧ (store.openPattern env.sd patternId).2 ≠ .ceNone ∧
        ∃ d₁ : Display,
          d₁.screen = { d.screen with frameBufIsFrame := false, sdCacheOk := false } ∧
          d₁.refresh = { d.refresh with armedHz := 0, refreshFlag := false } ∧
          d₁.playback = d.playback ∧ d₁.ao = d.ao ∧ d₁.clocked = d.clocked ∧
          d' = d₁.showError (env.call 3) (store.openPattern env.sd patternId).2) ∨
      ((store.openPattern env.sd patternId).2 = .ceNone ∧
        ∃ d₁ : Display, d₁.screen = { d.screen with
            frameBufIsFrame := false
            sdCacheOk := false
            patternId := patternId
            frameCount := store'.sd.info.frameCount
            blockByteCount := store'.sd.info.blockSize
            curFrameIndex := if 0 < store'.sd.info.frameCount then
              initFrame % store'.sd.info.frameCount else 0 } ∧
          d₁.refresh = { d.refresh with armedHz := 0, refreshFlag := false } ∧
          d₁.playback = { d.playback with frameRateHz := frameRateHz, gain := gain } ∧
          d₁.ao = d.ao ∧ d₁.clocked = d.clocked ∧
          ((∃ d₂, d₁.loadFrame (env.call 5) store' d₁.screen.curFrameIndex = (d₂, false) ∧
              ok = false ∧ d' = d₂) ∨
            ∃ d₂, d₁.loadFrame (env.call 5) store' d₁.screen.curFrameIndex = (d₂, true) ∧
              d₂.startPattern (env.call 6) mode durationTicks = (d', ok)))) := by
  unfold enterPatternMode at h
  dsimp only at h
  have hflush := flushOpenReads_sameView (env.clock 0) d.disarmRefreshTimer
  generalize d.disarmRefreshTimer.flushOpenReads (env.clock 0) = d₀ at h hflush
  generalize store.openPattern env.sd patternId = opened at h ⊢
  obtain ⟨store₁, err⟩ := opened
  dsimp only at h ⊢
  split_ifs at h with herr
  · cases h
    refine ⟨rfl, .inl ⟨rfl, herr, (d₀.invalidateFrameBuf (env.call 1)).note (env.clock 2)
      Telemetry.stSdOpen err.toByte patternId, ?_, hflush.refresh, hflush.playback, hflush.ao,
      hflush.clocked, rfl⟩⟩
    exact congrArg (fun s : Screen => { s with
      frameBufIsFrame := false
      sdCacheOk := false }) hflush.screen
  · have hscreen := congrArg (fun s : Screen => { s with
      frameBufIsFrame := false
      sdCacheOk := false
      patternId := patternId
      frameCount := store₁.sd.info.frameCount
      blockByteCount := store₁.sd.info.blockSize
      curFrameIndex := if 0 < store₁.sd.info.frameCount then
        initFrame % store₁.sd.info.frameCount else 0 }) hflush.screen
    have hplayback := congrArg (fun p : Playback => { p with
      frameRateHz := frameRateHz
      gain := gain }) hflush.playback
    split at h
    · next d₂ hload =>
      cases h
      refine ⟨rfl, .inr ⟨not_not.1 herr, _, ?_, ?_, ?_, ?_, ?_, .inl ⟨_, hload, rfl, rfl⟩⟩⟩
      · exact hscreen
      · exact hflush.refresh
      · exact hplayback
      · exact hflush.ao
      · exact hflush.clocked
    · next d₂ hload =>
      cases h
      refine ⟨rfl, .inr ⟨not_not.1 herr, _, ?_, ?_, ?_, ?_, ?_, .inr ⟨_, hload, rfl⟩⟩⟩
      · exact hscreen
      · exact hflush.refresh
      · exact hplayback
      · exact hflush.ao
      · exact hflush.clocked

/-! ### Handlers -/

/-- A streamed frame is shown. -/
theorem showStream_view (blockByteCount : ℕ) (frame : List UInt8) :
    (d.showStream env blockByteCount frame).screen.state = .streamingFrame ∧
      (d.showStream env blockByteCount frame).screen.frameBufIsFrame = false ∧
      (d.showStream env blockByteCount frame).playback = d.playback ∧
      (d.showStream env blockByteCount frame).ao = d.ao := by
  unfold showStream
  dsimp only
  obtain ⟨buf, hbuf⟩ := patchDispMode_eq { (d.invalidateFrameBuf (env.call 0)).screen with
    frameBuf := ByteMem.store (d.invalidateFrameBuf (env.call 0)).screen.frameBuf 0 frame
    frameByteCount := frame.length % 2 ^ 16
    blockByteCount := blockByteCount }
  rw [hbuf]
  split
  · rw [enterStreamingFrame_screen, enterStreamingFrame_playback, enterStreamingFrame_ao]
    exact ⟨rfl, rfl, rfl, rfl⟩
  · next hrearm =>
    rw [Bool.not_eq_true, Bool.or_eq_false_iff] at hrearm
    exact ⟨by simpa using hrearm.1, rfl, rfl, rfl⟩

/-- The screen of a streamed frame, but for its buffer. -/
theorem showStream_screen (blockByteCount : ℕ) (frame : List UInt8) : ∃ buf,
    (d.showStream env blockByteCount frame).screen = { d.screen with
      frameBuf := buf
      frameByteCount := frame.length % 2 ^ 16
      blockByteCount := blockByteCount
      frameBufIsFrame := false
      sdCacheOk := false
      state := .streamingFrame } := by
  obtain ⟨buf, hbuf⟩ := patchDispMode_eq { (d.invalidateFrameBuf (env.call 0)).screen with
    frameBuf := ByteMem.store (d.invalidateFrameBuf (env.call 0)).screen.frameBuf 0 frame
    frameByteCount := frame.length % 2 ^ 16
    blockByteCount := blockByteCount }
  refine ⟨buf, ?_⟩
  unfold showStream
  dsimp only
  rw [hbuf]
  split
  · rw [enterStreamingFrame_screen]
    rfl
  · next hrearm =>
    rw [Bool.not_eq_true, Bool.or_eq_false_iff] at hrearm
    have hstate : d.screen.state = .streamingFrame := not_not.1 (of_decide_eq_false hrearm.1)
    rw [← hstate]
    rfl

/-- A stream command shows its frame, or turns the display off. -/
theorem handleStreamCommand_cases (data : Mem) (dataLen : ℕ) :
    (∃ blockByteCount, (dataLen - streamHeaderByteCount = streamFrameByteCountGs2 ∨
        dataLen - streamHeaderByteCount = streamFrameByteCountGs16) ∧
      (d.handleStreamCommand env data dataLen).1 = d.showStream env blockByteCount
        (bytesAt data streamHeaderByteCount (dataLen - streamHeaderByteCount))) ∨
    ((d.handleStreamCommand env data dataLen).1 = d.enterAllOff env) := by
  unfold handleStreamCommand
  dsimp only
  split_ifs with h2 h16
  · exact .inl ⟨_, .inl h2, rfl⟩
  · exact .inl ⟨_, .inr h16, rfl⟩
  · exact .inr rfl

/-- `SET_FRAME_POSITION` on a frame that was loaded: its timer runs, or is armed if it can be. -/
theorem showFrame_cases : ∃ d₁, SameView { d with
      screen := { d.screen with state := .showFrame }
      refresh := { d.refresh with rateHz := d.rateFor d.screen.blockByteCount } } d₁ ∧
    (((d.showFrame env).1 = d₁ ∧ d₁.refreshArmedAt d₁.refresh.rateHz = true) ∨
      (d.showFrame env).1 = (d₁.armRefreshTimer (env.call 1) d₁.refresh.rateHz).1) := by
  obtain ⟨d₀, h₀, hview⟩ : ∃ d₀, (if d.screen.state ≠ .showFrame then
      d.note (env.clock 0) Telemetry.stStateChange ArenaState.showFrame.toByte d.screen.patternId
      else d) = d₀ ∧ SameView d d₀ := by
    split_ifs
    · exact ⟨_, rfl, note_sameView ..⟩
    · exact ⟨_, rfl, .refl d⟩
  have hrate : d₀.rateFor d₀.screen.blockByteCount = d.rateFor d.screen.blockByteCount := by
    rw [rateFor, rateFor, hview.refresh, hview.screen]
  have hview₁ : SameView { d with
        screen := { d.screen with state := .showFrame }
        refresh := { d.refresh with rateHz := d.rateFor d.screen.blockByteCount } }
      { d₀ with
        screen := { d₀.screen with state := .showFrame }
        refresh := { d₀.refresh with rateHz := d₀.rateFor d₀.screen.blockByteCount } } := by
    refine ⟨?_, ?_, hview.playback, hview.ao, hview.clocked, hview.flags, hview.tally⟩
    · dsimp only
      rw [hview.screen]
    · dsimp only
      rw [hrate, hview.refresh]
  refine ⟨_, hview₁, ?_⟩
  unfold showFrame
  dsimp only
  rw [h₀]
  split_ifs with harmed
  · exact .inl ⟨rfl, harmed⟩
  · right
    split <;> next h => rw [h]

/-- What is shown then, whatever the timer does. -/
theorem showFrame_view : (d.showFrame env).1.screen = { d.screen with state := .showFrame } ∧
    (d.showFrame env).1.playback = d.playback ∧ (d.showFrame env).1.ao = d.ao := by
  obtain ⟨d₁, hview, ⟨h, -⟩ | h⟩ := showFrame_cases env d
  · rw [h]
    exact ⟨hview.screen, hview.playback, hview.ao⟩
  · rw [h, armRefreshTimer_screen, armRefreshTimer_playback, armRefreshTimer_ao]
    exact ⟨hview.screen, hview.playback, hview.ao⟩

theorem displayPsramIndex_view (index : ℕ) :
    (d.displayPsramIndex env index).1.screen
      = { (d.buildPsramFrame (env.call 0) index).screen with state := .psramPlay } ∧
    (d.displayPsramIndex env index).1.playback = { d.playback with
      psramStartIndex := index, psramPlayCount := 1, psramPlayOffset := 0 } ∧
    (d.displayPsramIndex env index).1.ao = d.ao := by
  unfold displayPsramIndex
  dsimp only
  rw [armRefreshTimer_screen, armRefreshTimer_playback, armRefreshTimer_ao]
  have hview := enterPsramPlay_sameView (env.call 1) (({ d with playback := { d.playback with
    psramStartIndex := index, psramPlayCount := 1, psramPlayOffset := 0 } } :
      Display).buildPsramFrame (env.call 0) index)
  exact ⟨hview.screen, hview.playback, hview.ao⟩

theorem psramPlay_view (start count fps : ℕ) :
    (d.psramPlay env start count fps).1.screen
      = { (d.buildPsramFrame (env.call 0) start).screen with state := .psramPlay } ∧
    (d.psramPlay env start count fps).1.playback = { d.playback with
      psramStartIndex := start
      psramPlayCount := if count = 0 then 1 else count
      psramPlayOffset := 0
      frameRateHz := toInt16 fps
      lastAdvanceUs := env.micros 2 } ∧
    (d.psramPlay env start count fps).1.ao = d.ao := by
  unfold psramPlay
  dsimp only
  rw [armRefreshTimer_screen, armRefreshTimer_playback, armRefreshTimer_ao]
  have hview := enterPsramPlay_sameView (env.call 1) (({ d with playback := { d.playback with
    psramStartIndex := start
    psramPlayCount := if count = 0 then 1 else count
    psramPlayOffset := 0
    frameRateHz := toInt16 fps } } : Display).buildPsramFrame (env.call 0) start)
  refine ⟨hview.screen, ?_, hview.ao⟩
  rw [hview.playback]
  rfl

variable {env d} in
/-- The frame is loaded and shown, or an error is. -/
theorem loadFramePosition_cases {store : Store} {index : ℕ} {d' : Display} {reply : Reply}
    (h : d.loadFramePosition env store index = (d', reply)) :
    ∃ d₁, SameView { d with screen := { d.screen with curFrameIndex := index } } d₁ ∧
      ∃ d₂ ok, d₁.loadFrame (env.call 0) store index = (d₂, ok) ∧
        ((ok = false ∧ d' = d₂) ∨ (ok = true ∧ d' = (d₂.showFrame (env.call 1)).1)) := by
  unfold loadFramePosition at h
  dsimp only at h
  split at h
  · next hload =>
    cases h
    refine ⟨_, ?_, _, false, hload, .inl ⟨rfl, rfl⟩⟩
    exact ⟨rfl, rfl, rfl, rfl, rfl, rfl, rfl⟩
  · next d₂ hload =>
    refine ⟨_, ?_, d₂, true, hload, .inr ⟨rfl, (congrArg Prod.fst h).symm⟩⟩
    exact ⟨rfl, rfl, rfl, rfl, rfl, rfl, rfl⟩

variable {d} in
omit [Board] in
/-- The skip looks at what is shown. -/
theorem sameIndexSkip_congr {d' : Display} (h : SameView d d') (index : ℕ) :
    d'.sameIndexSkip index = d.sameIndexSkip index := by
  unfold sameIndexSkip refreshArmedAt
  rw [h.screen, h.playback, h.refresh]

variable {env d} in
/-- `SET_FRAME_POSITION` refuses, skips the load of a frame it has, or loads it. -/
theorem setFramePosition_cases {store : Store} {index : ℕ} {d' : Display} {reply : Reply}
    (h : d.setFramePosition env store index = (d', reply)) :
    d' = d.showError env .ceBadParam ∨
    (d.sameIndexSkip index = true ∧ SameView d d') ∨
    d.loadFramePosition env store index = (d', reply) := by
  unfold setFramePosition at h
  split_ifs at h with hopen hindex hskip
  · cases h
    exact .inl rfl
  · cases h
    exact .inl rfl
  · cases h
    exact .inr (.inl ⟨hskip, rfl, rfl, rfl, rfl, rfl, rfl, rfl⟩)
  · exact .inr (.inr h)

/-! ### Service -/

/-- The auto-stop of a trial. -/
theorem serviceTrialTimer_cases :
    (d.serviceTrialTimer env = d ∧
      (d.playback.trialEndMs = 0 ∨ Link.due (env.millis 0) d.playback.trialEndMs = false)) ∨
    (d.serviceTrialTimer env
        = ({ d with playback := { d.playback with trialEndMs := 0 } } : Display).enterAllOff (env.call 1) ∧
      d.playback.trialEndMs ≠ 0 ∧ Link.due (env.millis 0) d.playback.trialEndMs = true) := by
  unfold serviceTrialTimer
  split_ifs with h0 hdue
  · exact .inl ⟨rfl, .inl h0⟩
  · exact .inl ⟨rfl, .inr (by simpa using hdue)⟩
  · exact .inr ⟨rfl, h0, by simpa using hdue⟩

/-- A transmission, if one is due, leaves what is shown. -/
theorem transmitOnRefresh_view :
    (d.transmitOnRefresh env).screen = d.screen ∧ (d.transmitOnRefresh env).playback = d.playback ∧
    (d.transmitOnRefresh env).ao = d.ao ∧
    (d.transmitOnRefresh env).refresh = { d.refresh with refreshFlag := false } ∧
    (d.transmitOnRefresh env).clocked = d.clocked ++
      if d.refresh.refreshFlag && transferable d.screen.blockByteCount then
        [clockedBlocks d.screen.frameBuf d.screen.blockByteCount] else [] := by
  unfold transmitOnRefresh
  split_ifs with hflag htransfer
  · obtain ⟨_, h⟩ := transferFrame_eq { d with refresh := { d.refresh with refreshFlag := false } }
    dsimp only at h ⊢
    rw [h]
    rw [Bool.and_eq_true] at htransfer
    rw [if_pos htransfer.2]
    split_ifs <;> exact ⟨rfl, rfl, rfl, rfl, rfl⟩
  · obtain ⟨_, h⟩ := transferFrame_eq { d with refresh := { d.refresh with refreshFlag := false } }
    dsimp only at h ⊢
    rw [h]
    rw [hflag, Bool.true_and] at htransfer
    rw [if_neg htransfer]
    split_ifs <;> exact ⟨rfl, rfl, rfl, rfl, rfl⟩
  · next hand => exact absurd (Bool.and_eq_true .. ▸ hand).1 hflag
  · refine ⟨rfl, rfl, rfl, ?_, (List.append_nil _).symm⟩
    rw [← Bool.eq_false_iff.2 hflag]

/-- A pattern is not moved on, or a frame of it is loaded, or one of the PSRAM is. -/
theorem advance_cases (store : Store) :
    Moved d.screen.curFrameIndex d (d.advance env store) ∨
    ((d.screen.state = .openLoop ∨ d.screen.state = .closedLoop) ∧
      ∃ (d₁ : Display) (index : ℕ), d.advance env store = (d₁.loadFrame (env.call 1) store index).1 ∧
        index < d.screen.frameCount ∧ Moved index d d₁) ∨
    (d.screen.state = .psramPlay ∧
      ∃ (d₁ : Display) (index : ℕ), d.advance env store = d₁.buildPsramFrame (env.call 1) index ∧
        Moved d.screen.curFrameIndex d d₁) := by
  have hmod (i : ℤ) {n : ℕ} (hn : 0 < n) : (i % (n : ℤ)).toNat < n := by
    have hlow := Int.emod_nonneg i (show (n : ℤ) ≠ 0 by omega)
    have hhigh := Int.emod_lt_of_pos i (show (0 : ℤ) < n by omega)
    omega
  unfold advance
  split
  · next hstate =>
    unfold serviceOpenLoop
    dsimp only
    split
    · exact .inl (.refl d)
    · next hcount =>
      split
      · exact .inl (.refl d)
      · exact .inr (.inl ⟨.inl hstate, _, _, rfl, hmod _ (by omega),
          ⟨rfl, rfl, ⟨_, _, _, rfl⟩, rfl, rfl, rfl, rfl⟩⟩)
  · next hstate =>
    unfold serviceClosedLoop
    dsimp only
    split_ifs with hcount
    · exact .inl (.refl d)
    · exact .inl (.refl d)
    · exact .inl ⟨rfl, rfl, ⟨_, _, _, rfl⟩, rfl, rfl, rfl, rfl⟩
    · exact .inr (.inl ⟨.inr hstate, _, _, rfl, hmod _ (by omega),
        ⟨rfl, rfl, ⟨_, _, _, rfl⟩, rfl, rfl, rfl, rfl⟩⟩)
  · next hstate =>
    unfold servicePsramPlay
    dsimp only
    split_ifs
    · exact .inl (.refl d)
    · exact .inl (.refl d)
    · exact .inr (.inr ⟨hstate, _, _, rfl, ⟨rfl, rfl, ⟨_, _, _, rfl⟩, rfl, rfl, rfl, rfl⟩⟩)
  · exact .inl (.refl d)

/-- Moving a pattern on leaves the state, or shows an error. -/
theorem advance_state (store : Store) : (d.advance env store).screen.state = d.screen.state ∨
    (d.advance env store).screen.state = .errorDisplay := by
  rcases advance_cases env d store with hmoved | ⟨-, d₁, index, h, -, hmoved⟩ | ⟨-, d₁, index, h, hmoved⟩
  · rw [hmoved.screen]
    exact .inl rfl
  · obtain ⟨d₂, bytes, err, -, hafter, ⟨-, -, hend⟩ | ⟨-, -, hend⟩⟩ :=
      loadFrame_cases (Prod.mk.eta (p := d₁.loadFrame (env.call 1) store index)).symm
    · rw [h, hend]
      exact .inr (showError_state ..)
    · rw [h, hend, acceptFrame_state, hafter.screen, hmoved.screen]
      exact .inl rfl
  · rw [h]
    change d₁.screen.state = _ ∨ _
    rw [hmoved.screen]
    exact .inl rfl

end

end Display

/-- The commands that change what is shown, how often, or the analog output. -/
def DisplayCommand.shows : DisplayCommand → Bool
  | .allOff | .allOn | .stopDisplay | .setRefreshRate | .setPanelDisplayMode | .setFramePosition
  | .displayPsramIndex | .psramPlay | .setAoVoltage | .setAoMode | .getAoVoltage | .setAoLut => true
  | _ => false

section

variable [Board] {env : Env} {store : Store} {x : Transfers} {data : Mem} {dataLen : ℕ}
  {command : DisplayCommand} {d : Display}

/-- **The other commands leave what is shown.** -/
theorem displayCommand_sameView (h : command.shows = false) :
    Display.SameView d (displayCommand env store x data dataLen command d).1 := by
  have panel (c : UInt8) (usage stop : String) :
      Display.SameView d (d.guardedPanelCommand env c usage stop x data dataLen).1 := by
    unfold Display.guardedPanelCommand Display.panelCommand
    split_ifs <;> exact .refl d
  cases command with
  | setDigitalOut =>
    change Display.SameView d (d.handleSetDigitalOut data).1
    unfold Display.handleSetDigitalOut Display.setDigitalOut
    dsimp only
    split_ifs <;> exact ⟨rfl, rfl, rfl, rfl, rfl, rfl, rfl⟩
  | setDioRole =>
    change Display.SameView d (d.handleSetDioRole data).1
    unfold Display.handleSetDioRole
    dsimp only
    split_ifs <;> exact ⟨rfl, rfl, rfl, rfl, rfl, rfl, rfl⟩
  | setTelemetry =>
    change Display.SameView d (d.handleSetTelemetry env data).1
    unfold Display.handleSetTelemetry Display.setTelemetry
    split
    · exact .refl d
    · dsimp only
      split <;> exact ⟨rfl, rfl, rfl, rfl, rfl, rfl, rfl⟩
  | setSpiClock =>
    change Display.SameView d (d.handleSetSpiClock data).1
    unfold Display.handleSetSpiClock
    split_ifs <;> exact ⟨rfl, rfl, rfl, rfl, rfl, rfl, rfl⟩
  | getPatternFilename =>
    change Display.SameView d (d.handleGetPatternFilename store data).1
    unfold Display.handleGetPatternFilename
    split_ifs
    · exact .refl d
    · split <;> exact .refl d
  | getPatternInfo =>
    change Display.SameView d (d.handleGetPatternInfo env store data).1
    unfold Display.handleGetPatternInfo
    split_ifs
    · exact .refl d
    · split <;> exact .refl d
  | getFirmwareInfo =>
    change Display.SameView d (d.handleGetFirmwareInfo env store).1
    unfold Display.handleGetFirmwareInfo
    split
    · exact .refl d
    · dsimp only
      split_ifs <;> exact .refl d
  | g6ProgramPanel => exact panel ..
  | g6VerifyPanel => exact panel ..
  | allOff => cases h
  | allOn => cases h
  | stopDisplay => cases h
  | setRefreshRate => cases h
  | setPanelDisplayMode => cases h
  | setFramePosition => cases h
  | displayPsramIndex => cases h
  | psramPlay => cases h
  | setAoVoltage => cases h
  | setAoMode => cases h
  | getAoVoltage => cases h
  | setAoLut => cases h
  | _ => exact ⟨rfl, rfl, rfl, rfl, rfl, rfl, rfl⟩

end

end Command
end G6Arena
