/-
# What a step does to the picture

A step of the controller changes the display by a few kinds of change (`Paint`), one after the
other, or starts a trial (`Trial`), which opens a pattern: `Controller.step_shows`.  An invariant
of the display is proved by cases on them, and what a transfer sends by looking at the two kinds
that send.

A change is one of a step: `env` is what the step meets, `s` the store its frames are read from,
and `o` what its command orders (`Controller.order`).
-/

import G6Arena.Command.Storage
import Mathlib.Logic.Relation

namespace G6Arena
namespace Command

open ByteMem Link Panel
open Relation (ReflTransGen)
open Sd (ControllerError Store)

/-! ### Calls within calls -/

/-- What a call within `env` meets, however deep. -/
def Env.Within (env env' : Env) : Prop := ∃ path : List ℕ, env' = path.foldl Env.call env

namespace Env.Within

variable {env env' env'' : Env}

theorem refl (env : Env) : Within env env := ⟨[], rfl⟩

theorem call (h : Within env env') (k : ℕ) : Within env (env'.call k) := by
  obtain ⟨path, rfl⟩ := h
  exact ⟨path ++ [k], by rw [List.foldl_append]; rfl⟩

theorem trans (h : Within env env') (h' : Within env' env'') : Within env env'' := by
  obtain ⟨path, rfl⟩ := h
  obtain ⟨path', rfl⟩ := h'
  exact ⟨path ++ path', by rw [List.foldl_append]⟩

/-- The card does not change within a step. -/
theorem sd (h : Within env env') : env'.sd = env.sd := by
  obtain ⟨path, rfl⟩ := h
  induction path generalizing env with
  | nil => rfl
  | cons k path ih => exact (@ih (env.call k)).trans (call_sd env k)

/-- A timer that always begins does so in every call. -/
theorem timerBegin (h : Within env env') (hbegin : ∀ path, env.timerBegin path = true)
    (path : List ℕ) : env'.timerBegin path = true := by
  obtain ⟨calls, rfl⟩ := h
  induction calls generalizing env with
  | nil => exact hbegin path
  | cons k calls ih => exact ih (fun path => hbegin (k :: path))

end Env.Within

/-! ### Orders -/

/-- What a step orders of the display, as far as it matters later: the argument of a command, or
its service, which alone transmits. -/
inductive Order
  | rate (hz : ℕ)
  | mode (mode : UInt8)
  | position (index : ℕ)
  | reset
  | service
  deriving DecidableEq

/-- The order of a binary command, if its handler accepts it. -/
def Order.ofCommand (data : Mem) : Option Order :=
  match ArenaCommand.ofByte (data 1) with
  | some (.display .setRefreshRate) =>
    if claimedLen data = 3 ∧ 0 < wordAt data 2 2 then some (.rate (wordAt data 2 2)) else none
  | some (.display .setPanelDisplayMode) =>
    if claimedLen data = 2 ∧ data 2 ≤ 3 then some (.mode (data 2)) else none
  | some (.display .setFramePosition) =>
    if 2 ≤ paramLen data then some (.position (wordAt data 2 2)) else none
  | some (.store .systemReset) => some .reset
  | _ => none

/-- The order of a step. -/
def Controller.order (c : Controller) (i : Action × Env) : Option Order :=
  match i.1 with
  | .processCommand t =>
    if !c.halted && c.hasBinary t then Order.ofCommand (c.source t).rx.parsedCmd.data else none
  | .serviceDisplay => if !c.halted then some .service else none
  | _ => none

theorem Order.ofCommand_rate {data : Mem} {hz : ℕ} (h : ofCommand data = some (.rate hz)) :
    ArenaCommand.ofByte (data 1) = some (.display .setRefreshRate) ∧ claimedLen data = 3 ∧
      hz = wordAt data 2 2 ∧ 0 < hz := by
  unfold ofCommand at h
  split at h
  · next hcommand =>
    split_ifs at h with hclaimed
    cases h
    exact ⟨hcommand, hclaimed.1, rfl, hclaimed.2⟩
  · split_ifs at h
    cases h
  · split_ifs at h
    cases h
  · cases h
  · cases h

theorem Order.ofCommand_mode {data : Mem} {mode : UInt8} (h : ofCommand data = some (.mode mode)) :
    ArenaCommand.ofByte (data 1) = some (.display .setPanelDisplayMode) ∧ claimedLen data = 2 ∧
      mode = data 2 ∧ mode ≤ 3 := by
  unfold ofCommand at h
  split at h
  · split_ifs at h
    cases h
  · next hcommand =>
    split_ifs at h with hclaimed
    cases h
    exact ⟨hcommand, hclaimed.1, rfl, hclaimed.2⟩
  · split_ifs at h
    cases h
  · cases h
  · cases h

theorem Order.ofCommand_position {data : Mem} {index : ℕ} (h : ofCommand data = some (.position index)) :
    ArenaCommand.ofByte (data 1) = some (.display .setFramePosition) ∧ 2 ≤ paramLen data ∧
      index = wordAt data 2 2 := by
  unfold ofCommand at h
  split at h
  · split_ifs at h
    cases h
  · split_ifs at h
    cases h
  · next hcommand =>
    split_ifs at h with hlen
    cases h
    exact ⟨hcommand, hlen, rfl⟩
  · cases h
  · cases h

/-- No other command has the opcode of `SYSTEM_RESET`. -/
theorem eq_systemResetCmd {b : UInt8} (h : ArenaCommand.ofByte b = some (.store .systemReset)) :
    b = systemResetCmd := by
  have hlisted : ∀ p ∈ arenaCommands, p.2 = .store .systemReset → p.1 = systemResetCmd := by decide
  obtain ⟨l₁, l₂, hl, -⟩ := List.lookup_eq_some_iff.1 h
  exact hlisted (b, .store .systemReset) (by rw [hl]; simp) rfl

theorem Order.ofCommand_reset {data : Mem} (h : ofCommand data = some .reset) :
    data 1 = systemResetCmd := by
  unfold ofCommand at h
  split at h
  · split_ifs at h
    cases h
  · split_ifs at h
    cases h
  · split_ifs at h
    cases h
  · next hcommand => exact eq_systemResetCmd hcommand
  · cases h

theorem Order.ofCommand_ne_service (data : Mem) : ofCommand data ≠ some .service := by
  unfold ofCommand
  split
  · split_ifs <;> nofun
  · split_ifs <;> nofun
  · split_ifs <;> nofun
  · nofun
  · nofun

/-- An order is one of a command that is handled, but for a service. -/
theorem Controller.order_cases {c : Controller} {i : Action × Env} {o : Order}
    (h : c.order i = some o) (hother : o ≠ .service) :
    ∃ t, i.1 = .processCommand t ∧ c.halted = false ∧ c.hasBinary t = true ∧
      Order.ofCommand (c.source t).rx.parsedCmd.data = some o := by
  unfold order at h
  split at h
  · next t haction =>
    split_ifs at h with hbinary
    rw [Bool.and_eq_true, Bool.not_eq_true'] at hbinary
    exact ⟨t, haction, hbinary.1, hbinary.2, h⟩
  · split_ifs at h
    cases h
    exact absurd rfl hother
  · cases h

theorem Controller.order_service {c : Controller} {i : Action × Env}
    (h : c.order i = some .service) : i.1 = .serviceDisplay ∧ c.halted = false := by
  unfold order at h
  split at h
  · split_ifs at h
    exact absurd h (Order.ofCommand_ne_service _)
  · next haction =>
    split_ifs at h with hrun
    exact ⟨haction, by simpa using hrun⟩
  · cases h

namespace Display

/-! ### The analog output -/

/-- A change of the analog output that leaves the outputs of the frame as they are. -/
inductive OutputsMove (ao : AnalogOut) : AnalogOut → Prop
  | voltage (code mv : ℕ) (h : ao.mode = 0) :
      OutputsMove ao { ao with dacCode := code, mv := mv, lutLen := 0 }
  | read (mv : ℕ) : OutputsMove ao { ao with mv := mv }
  | tick (code mv idx last : ℕ) (h : 0 < ao.lutLen) (hmode : ao.lutMode = 1) :
      OutputsMove ao { ao with dacCode := code, mv := mv, lutIdx := idx, lutLastUs := last }

/-- A step of the time-based LUT. -/
theorem serviceAoLut_cases (env : Env) (d : Display) : d.serviceAoLut env = d ∨
    ∃ ao, OutputsMove d.ao ao ∧ d.serviceAoLut env = { d with ao := ao } := by
  unfold serviceAoLut
  dsimp only
  split_ifs with hlut hdue
  · refine .inr ⟨_, ?_, rfl⟩
    unfold applyAoLut writeDacMv
    split_ifs
    · exact .tick d.ao.dacCode d.ao.mv _ _ hlut.1 hlut.2.1
    · exact .tick _ _ _ _ hlut.1 hlut.2.1
    · exact .tick d.ao.dacCode d.ao.mv _ _ hlut.1 hlut.2.1
  · exact .inl rfl
  · exact .inl rfl

section

variable [Board]

/-! ### The changes -/

/-- The trial of a command, with its duty: `enterPatternMode`, and after a failure the duty
taken back. -/
inductive Trial (env : Env) (s : Store) (d : Display) (s' : Store) : Display → Prop
  | mk {mode : ArenaState} (duty : UInt8) {patternId initFrame durationTicks : ℕ}
      {frameRateHz gain : ℤ} {d₁ : Display} {ok : Bool}
      (hmode : mode = .openLoop ∨ mode = .showFrame ∨ mode = .closedLoop)
      (run : ({ d with screen := { d.screen with trialDuty := duty } } : Display).enterPatternMode
        env mode patternId frameRateHz gain initFrame durationTicks s = (d₁, s', ok))
      {d' : Display} (h : d' = d₁ ∨
        (ok = false ∧ d' = { d₁ with screen := { d₁.screen with trialDuty := 0 } })) :
      Trial env s d s' d'

/-- One change of the display. -/
inductive Paint (env : Env) (s : Store) (o : Option Order) : Display → Display → Prop
  | look {d d' : Display} (h : SameView d d') : Paint env s o d d'
  | clocks (d : Display) (p : Playback) : Paint env s o d { d with playback := p }
  | outputs (d : Display) {ao : AnalogOut} (h : OutputsMove d.ao ao) :
      Paint env s o d { d with ao := ao }
  | forget (d : Display) (ao : AnalogOut) : Paint env s o d { d.dropFrameCache with ao := ao }
  | allOff {env' : Env} (he : env.Within env') (d : Display) : Paint env s o d (d.enterAllOff env')
  | allOn {env' : Env} (he : env.Within env') (d : Display) : Paint env s o d (d.enterAllOn env')
  | error {env' : Env} (he : env.Within env') (code : ControllerError) (d : Display) :
      Paint env s o d (d.showError env' code)
  | stream {env' : Env} (he : env.Within env') {blockByteCount : ℕ} {frame : List UInt8}
      (hblock : blockByteCount = panelBlockByteCountGs2 ∨ blockByteCount = panelBlockByteCountGs16)
      (hframe : frame.length = streamFramePrefixByteCount + panelCountPerFrame * blockByteCount)
      (d : Display) : Paint env s o d (d.showStream env' blockByteCount frame)
  | rate {env' : Env} (he : env.Within env') {hz : ℕ} (ho : o = some (.rate hz)) (hz0 : 0 < hz)
      (d : Display) : Paint env s o d (d.setRefreshRate env' hz).1
  | mode {mode : UInt8} (ho : o = some (.mode mode)) (hmode : mode ≤ 3) (d : Display) :
      Paint env s o d
        { d with screen := ({ d.screen with panelDispMode := mode } : Screen).patchDispMode }
  | position {env' : Env} (he : env.Within env') {index : ℕ} (ho : o = some (.position index))
      {d : Display} (hopen : s.sd.fileOpen = true) (hindex : index < d.screen.frameCount)
      (hskip : d.sameIndexSkip index = false) : Paint env s o d (d.loadFramePosition env' s index).1
  | psramIndex {env' : Env} (he : env.Within env') (index : ℕ) (d : Display) :
      Paint env s o d (d.displayPsramIndex env' index).1
  | psramPlay {env' : Env} (he : env.Within env') (start count fps : ℕ) (d : Display) :
      Paint env s o d (d.psramPlay env' start count fps).1
  | psramNext {env' : Env} (he : env.Within env') (ho : o = some .service) (index : ℕ)
      {d d₁ : Display} (hstate : d.screen.state = .psramPlay) (hmoved : Moved d.screen.curFrameIndex d d₁) :
      Paint env s o d (d₁.buildPsramFrame env' index)
  | advance {env' : Env} (he : env.Within env') (ho : o = some .service) {index : ℕ}
      {d d₁ : Display} (hstate : d.screen.state = .openLoop ∨ d.screen.state = .closedLoop)
      (hindex : index < d.screen.frameCount) (hmoved : Moved index d d₁) :
      Paint env s o d (d₁.loadFrame env' s index).1
  | disarm (ho : o = some .reset) (d : Display) : Paint env s o d d.disarmRefreshTimer
  | transmit {env' : Env} (he : env.Within env') (ho : o = some .service) {d : Display}
      (hon : d.screen.state ≠ .allOff) : Paint env s o d (d.transmitOnRefresh env')
  | isr (d : Display) : Paint env s o d d.refreshIsr

/-- Any number of them. -/
abbrev Paints (env : Env) (s : Store) (o : Option Order) : Display → Display → Prop :=
  ReflTransGen (Paint env s o)

variable {env env' : Env} {s : Store} {o : Option Order} {d d' : Display}

theorem Paint.paints (h : Paint env s o d d') : Paints env s o d d' := .single h

theorem SameView.paints (h : SameView d d') : Paints env s o d d' := .single (.look h)

/-! ### Services -/

theorem serviceAoLut_paints (env' : Env) (d : Display) : Paints env s o d (d.serviceAoLut env') := by
  rcases serviceAoLut_cases env' d with h | ⟨ao, hmove, h⟩
  · rw [h]
  · rw [h]
    exact .single (.outputs d hmove)

theorem serviceTrialTimer_paints (he : env.Within env') (d : Display) :
    Paints env s o d (d.serviceTrialTimer env') := by
  rcases serviceTrialTimer_cases env' d with ⟨h, -⟩ | ⟨h, -⟩
  · rw [h]
  · rw [h]
    exact .tail (.single (.clocks d _)) (.allOff (he.call 1) _)

/-- A display that has moved to where it was has moved its clocks. -/
theorem Moved.paints (h : Moved d.screen.curFrameIndex d d') : Paints env s o d d' := by
  refine .tail (.single (.clocks d d'.playback)) (.look ?_)
  exact ⟨h.screen, h.refresh, rfl, h.ao, h.clocked, by rw [h.marks], h.tally⟩

theorem advance_paints (he : env.Within env') (s : Store) (d : Display) :
    Paints env s (some .service) d (d.advance env' s) := by
  rcases advance_cases env' d s with h | ⟨hstate, d₁, index, h, hindex, hmoved⟩ |
    ⟨hstate, d₁, index, h, hmoved⟩
  · exact h.paints
  · rw [h]
    exact .single (.advance (he.call 1) rfl hstate hindex hmoved)
  · rw [h]
    exact .single (.psramNext (he.call 1) rfl index hstate hmoved)

theorem serviceDisplay_paints (s : Store) (d : Display) :
    Paints env s (some .service) d (d.serviceDisplay env s) := by
  have hself := Env.Within.refl env
  have htimers : Paints env s (some .service) d (d.serviceTimers env) :=
    (serviceAoLut_paints ..).trans (serviceTrialTimer_paints (hself.call 1) _)
  unfold serviceDisplay
  dsimp only
  split
  · exact htimers
  next hon =>
  have htransmits : Paints env s (some .service) d
      (((d.serviceTimers env).advance (env.call 2) s).transmitOnRefresh (env.call 3)) := by
    refine .tail (htimers.trans (advance_paints (hself.call 2) ..)) (.transmit (hself.call 3) rfl ?_)
    rcases advance_state (env.call 2) (d.serviceTimers env) s with h | h
    · rw [h]
      exact hon
    · rw [h]
      nofun
  split_ifs
  · exact .tail htransmits (.allOff (hself.call 5) _)
  · exact htransmits

theorem serviceLateBootBlank_paints (idle : Bool) (d : Display) :
    Paints env s o d (d.serviceLateBootBlank env idle) := by
  unfold serviceLateBootBlank
  dsimp only
  split_ifs
  · exact .refl
  · exact .refl
  · exact .tail (.single (.clocks d _)) (.allOff ((Env.Within.refl env).call 1) _)
  · exact .single (.clocks d _)

/-! ### Commands -/

theorem handleStreamCommand_paints (he : env.Within env') (data : Mem) (dataLen : ℕ) :
    Paints env s o d (d.handleStreamCommand env' data dataLen).1 := by
  unfold handleStreamCommand
  dsimp only
  split_ifs with h2 h16
  · exact .single (.stream he (.inl rfl) (by rw [length_bytesAt, h2]; rfl) d)
  · exact .single (.stream he (.inr rfl) (by rw [length_bytesAt, h16]; rfl) d)
  · exact .single (.allOff he d)

theorem setFramePosition_paints (he : env.Within env') {index : ℕ} (ho : o = some (.position index))
    (d : Display) : Paints env s o d (d.setFramePosition env' s index).1 := by
  unfold setFramePosition
  split_ifs with hopen hindex hskip
  · exact .single (.error he _ d)
  · exact .single (.error he _ d)
  · exact .single (.look ⟨rfl, rfl, rfl, rfl, rfl, rfl, rfl⟩)
  · exact .single (.position he ho (by simpa using hopen) (by omega) (by simpa using hskip))

end

end Display

section

variable [Board] {env env' : Env} {s : Store} {d : Display}

open Display

/-- A command about the display. -/
theorem displayCommand_paints (he : env.Within env') (x : Transfers) {data : Mem} (dataLen : ℕ)
    {command : DisplayCommand} (hcommand : ArenaCommand.ofByte (data 1) = some (.display command)) :
    Paints env s (Order.ofCommand data) d (displayCommand env' s x data dataLen command d).1 := by
  by_cases hshows : command.shows = false
  · exact (displayCommand_sameView hshows).paints
  cases command with
  | allOff => exact .single (.allOff he d)
  | stopDisplay => exact .single (.allOff he d)
  | allOn =>
    change Paints env s _ d (d.handleAllOn env' x).1
    unfold handleAllOn
    split_ifs
    · exact .refl
    · exact .single (.allOn he d)
  | setRefreshRate =>
    change Paints env s _ d (d.handleSetRefreshRate env' data).1
    unfold handleSetRefreshRate
    dsimp only
    split_ifs with hlen hrate
    · exact .refl
    · refine .single (.rate he ?_ hrate d)
      rw [Order.ofCommand, hcommand]
      exact if_pos ⟨not_not.1 hlen, hrate⟩
    · exact .refl
  | setPanelDisplayMode =>
    change Paints env s _ d (d.handleSetPanelDisplayMode data).1
    unfold handleSetPanelDisplayMode
    dsimp only
    split_ifs with hlen hmode
    · exact .refl
    · exact .refl
    · refine .single (.mode ?_ (UInt8.not_lt.1 hmode) d)
      rw [Order.ofCommand, hcommand]
      exact if_pos ⟨not_not.1 hlen, UInt8.not_lt.1 hmode⟩
  | setFramePosition =>
    change Paints env s _ d (d.handleSetFramePosition env' s data).1
    unfold handleSetFramePosition
    dsimp only
    have hcount : SameView d { d with health := { d.health with
        cmd70Count := (d.health.cmd70Count + 1) % 2 ^ 32 } } := ⟨rfl, rfl, rfl, rfl, rfl, rfl, rfl⟩
    refine .trans hcount.paints ?_
    split_ifs with hlen
    · exact .single (.error he _ _)
    · refine setFramePosition_paints he ?_ _
      rw [Order.ofCommand, hcommand]
      exact if_pos (by omega)
  | displayPsramIndex =>
    change Paints env s _ d (d.handleDisplayPsramIndex env' data).1
    unfold handleDisplayPsramIndex
    split_ifs
    · exact .single (.error he _ d)
    · exact .single (.psramIndex he _ d)
  | psramPlay =>
    change Paints env s _ d (d.handlePsramPlay env' data).1
    unfold handlePsramPlay
    split_ifs
    · exact .single (.error he _ d)
    · exact .single (.psramPlay he _ _ _ d)
  | setAoVoltage =>
    change Paints env s _ d (d.handleSetAoVoltage env' data).1
    rcases handleSetAoVoltage_cases env' d data with h | ⟨hmode, code, mv, h⟩
    · rw [h]
    · rw [h]
      exact .single (.outputs d (.voltage code mv hmode))
  | setAoMode =>
    change Paints env s _ d (d.handleSetAoMode env' data).1
    rcases handleSetAoMode_cases env' d data with h | ⟨ao, h⟩
    · rw [h]
    · rw [h]
      exact .single (.forget d ao)
  | getAoVoltage =>
    change Paints env s _ d (d.handleGetAoVoltage env').1
    obtain ⟨mv, h⟩ := handleGetAoVoltage_cases env' d
    rw [h]
    exact .single (.outputs d (.read mv))
  | setAoLut =>
    change Paints env s _ d (d.handleSetAoLut env' data).1
    obtain ⟨ao, h⟩ := handleSetAoLut_cases env' d data
    rw [h]
    exact .single (.forget d ao)
  | _ => exact absurd rfl hshows

end

/-! ### Steps -/

namespace Controller

open Display
open Sd (OpenKept)

/-- What a step shows: changes of the display, frames read from the store before it, its handle
at most closed; or a trial. -/
inductive Shows [Board] (env : Env) (o : Option Order) (c c' : Controller) : Prop
  | paints (kept : OpenKept c.store.sd c'.store.sd)
      (paints : Paints env c.store o c.display c'.display)
  | trial {env' : Env} (he : env.Within env') {d d' : Display} (before : SameView c.display d)
      (run : Trial env' c.store d c'.store d') (after : SameView d' c'.display)

section

variable [Board] {env env' : Env} {t : Transport} {data : Mem} {o : Option Order}
  {c c' : Controller} {reply : Reply}

theorem Shows.refl (c : Controller) : Shows env o c c := .paints (.refl _) .refl

/-- What happens around it does not show. -/
theorem Shows.of_sameCore {c₀ c₁ : Controller} (h : Shows env o c₀ c₁) (hbefore : SameCore c c₀)
    (hafter : SameCore c₁ c') : Shows env o c c' := by
  have hstore := hbefore.store
  cases h with
  | paints kept paints =>
    rw [hstore] at kept paints
    rw [← hafter.store] at kept
    exact .paints kept (.tail (.head (.look hbefore.display) paints) (.look hafter.display))
  | trial he before run after =>
    rw [hstore, ← hafter.store] at run
    exact .trial he (hbefore.display.trans before) run (after.trans hafter.display)

/-- A trial, of a controller whose duty has been set. -/
theorem enterPatternMode_shows (he : env.Within env') {mode : ArenaState} (duty : UInt8)
    {patternId initFrame durationTicks : ℕ} {frameRateHz gain : ℤ} {c₁ : Controller} {ok : Bool}
    (hmode : mode = .openLoop ∨ mode = .showFrame ∨ mode = .closedLoop)
    (h : (c.withDuty duty).enterPatternMode env' mode patternId frameRateHz gain initFrame
      durationTicks = (c₁, ok))
    (hend : c' = c₁ ∨ (ok = false ∧ c' = c₁.withDuty 0)) : Shows env o c c' := by
  obtain ⟨display, store, hrun, rfl⟩ := enterPatternMode_cases h
  rcases hend with rfl | ⟨rfl, rfl⟩
  · exact .trial he (.refl _) (.mk duty hmode hrun (.inl rfl)) (.refl _)
  · exact .trial he (.refl _) (.mk duty hmode hrun (.inr ⟨rfl, rfl⟩)) (.refl _)

/-- A command about the store. -/
theorem storeCommand_shows (he : env.Within env') {command : StoreCommand}
    (h : c.storeCommand env' t data command = (c', reply)) : Shows env o c c' := by
  cases command with
  | trialParams =>
    rcases handleTrialParams_cases h with ⟨-, rfl, -⟩ | ⟨-, ⟨code, rfl, -⟩ |
      ⟨_, duty, _, _, _, _, _, c₁, ok, hmode, -, hrun, ⟨-, rfl, -⟩ | ⟨hfail, rfl, -⟩⟩⟩
    · exact .refl c'
    · exact .paints (.refl _) (.single (.error he code _))
    · exact enterPatternMode_shows he duty (trialMode_cases hmode) hrun (.inl rfl)
    · exact enterPatternMode_shows he duty (trialMode_cases hmode) hrun (.inr ⟨hfail, rfl⟩)
  | setPatternId =>
    rcases handleSetPatternId_cases h with rfl | ⟨-, patternId, ok, hrun⟩
    · exact .refl c'
    · exact enterPatternMode_shows he 0 (.inr (.inl rfl)) hrun (.inl rfl)
  | setPatternFilename =>
    rcases handleSetPatternFilename_cases h with rfl | ⟨-, idx, name, rfl⟩
    · exact .refl c'
    · exact .paints (Sd.Store.renamePattern_openKept rfl) .refl
  | getPatternFile =>
    rcases handleGetPatternFile_cases h with rfl | ⟨-, -, _, _, _, -, -, -, -, -, rfl, -⟩
    · exact .refl c'
    · exact .paints (.refl _) .refl
  | deletePatternFile =>
    rcases handleDeletePatternFile_cases h with
      rfl | ⟨idx, store, err, -, -, -, hrun, ⟨-, rfl⟩ | ⟨-, rfl⟩⟩
    · exact .refl c'
    · exact .paints (Sd.Store.deletePattern_openKept hrun) .refl
    · exact .paints (Sd.Store.deletePattern_openKept hrun) .refl
  | purgeMemory =>
    rcases handlePurgeMemory_cases h with rfl | ⟨-, -, rfl⟩
    · exact .refl c'
    · exact .paints (Sd.Store.purgeMemory_openKept ..) .refl
  | getSdArchive =>
    rcases handleGetSdArchive_cases h with rfl | ⟨-, -, -, rfl, -⟩
    · exact .refl c'
    · exact .paints (.refl _) .refl
  | setSdDiag =>
    rcases handleSetSdDiag_cases h with rfl |
      ⟨legacy, skip, hstore, -, -, -, hscreen, hrefresh, hplayback, hao, hclocked, hflags, htally⟩
    · exact .refl c'
    · refine .paints ?_ ?_
      · rw [hstore]
        exact ⟨fun hopen => hopen, rfl, rfl, rfl⟩
      · refine .head (.clocks _ { c.display.playback with sdSkipSameIndex := skip }) ?_
        cases skip with
        | true => exact .single (.look ⟨hscreen, hrefresh, hplayback, hao, hclocked, hflags, htally⟩)
        | false =>
          refine .head (.forget _ c.display.ao) ?_
          exact .single (.look ⟨hscreen, hrefresh, hplayback, hao, hclocked, hflags, htally⟩)
  | systemReset =>
    cases h
    exact .refl _

/-- A case of the `switch`. -/
theorem dispatch_shows (he : env.Within env') {dataLen : ℕ}
    (h : c.dispatch env' t data dataLen = (c', reply)) :
    Shows env (Order.ofCommand data) c c' := by
  unfold dispatch at h
  split at h
  · next command hcommand =>
    cases h
    exact .paints (.refl _) (displayCommand_paints he _ _ hcommand)
  · exact storeCommand_shows he h
  · cases h
    exact .paints (.refl _) (.single (.error he _ _))

/-- A command. -/
theorem processCommand_shows (env : Env) (t : Transport) (c : Controller) (hrun : c.halted = false) :
    Shows env (c.order (.processCommand t, env)) c (c.processCommand env t) := by
  have hself := Env.Within.refl env
  have horder {o' : Option Order} (hbinary : c.hasBinary t = true)
      (h : Order.ofCommand (c.source t).rx.parsedCmd.data = o') :
      c.order (.processCommand t, env) = o' := by
    change (if !c.halted && c.hasBinary t then _ else none) = o'
    rw [hrun, hbinary]
    exact h
  rcases processCommand_core env t c with heq | ⟨hready, howns, hhandles⟩
  · rw [heq]
    exact .refl c
  have hbinary (hbulk : (c.source t).rx.parsedCmd.isBulk = false)
      (hstream : (c.source t).rx.parsedCmd.isStream = false)
      (hsound : (c.source t).rx.parsedCmd.dataLen - 1 = claimedLen (c.source t).rx.parsedCmd.data) :
      c.hasBinary t = true := by
    unfold hasBinary
    dsimp only
    rw [hready, howns, hbulk, hstream, decide_eq_true hsound]
    rfl
  cases hhandles with
  | card core => exact .paints (.of_eq core.sd) core.display.paints
  | upload bulk start =>
    obtain ⟨entry, id, -, -, hcore⟩ := start.core
    refine .paints (.of_eq ?_) hcore.display.paints
    rw [hcore.store]
    rfl
  | stream bulk stream c₁ before after =>
    refine Shows.of_sameCore ?_ before after
    exact .paints (.refl _) (handleStreamCommand_paints hself ..)
  | binary bulk stream sound c₁ c₂ reply before run after =>
    rw [horder (hbinary bulk stream sound) rfl]
    exact (dispatch_shows (hself.call 5) run).of_sameCore before after
  | reset bulk stream sound opcode c₁ before after =>
    have hreset : Shows env (c.order (.processCommand t, env)) c₁
        { c₁ with display := c₁.display.disarmRefreshTimer, halted := true } := by
      refine .paints (.refl _) (.single (.disarm (horder (hbinary bulk stream sound) ?_) _))
      rw [Order.ofCommand, opcode, ofByte_systemReset]
    exact hreset.of_sameCore before after

/-- **What a step shows.** -/
theorem step_shows (c : Controller) (i : Action × Env) : Shows i.2 (c.order i) c (c.step i) := by
  unfold step
  split
  · exact .refl c
  next hrun =>
  have hserves {c' : Controller} (h : Serves c c') : Shows i.2 (c.order i) c c' := by
    refine .paints (.of_eq h.sd) ?_
    rw [h.display]
  obtain ⟨a, env⟩ := i
  cases a with
  | arrive t bytes => exact .paints (.refl _) .refl
  | disconnect => exact .paints (.refl _) .refl
  | service t accepted => exact .paints (.refl _) .refl
  | processCommand t => exact processCommand_shows env t c (by simpa using hrun)
  | serviceDisplay =>
    have horder : c.order (.serviceDisplay, env) = some .service := by
      change (if !c.halted then some Order.service else none) = _
      rw [if_pos (by simpa using hrun)]
    rw [horder]
    exact .paints (.refl _) (serviceDisplay_paints ..)
  | serviceTelemetry => exact .paints (.refl _) (.single (.look ⟨rfl, rfl, rfl, rfl, rfl, rfl, rfl⟩))
  | serviceDownload => exact hserves (serviceDownload_serves env c)
  | serviceUpload => exact hserves (serviceUpload_serves env c)
  | serviceArchive => exact hserves (serviceArchive_serves env c)
  | serviceDisconnects => exact hserves (serviceDisconnects_serves env c)
  | serviceLateBootBlank => exact .paints (.refl _) (serviceLateBootBlank_paints ..)
  | flushResponses t => exact .paints (.refl _) .refl
  | refreshIsr => exact .paints (.refl _) (.single (.isr _))

/-! ### Single commands -/

/-- A command about the display that is handled, as its step. -/
theorem step_displayCommand (env : Env) (hrun : c.halted = false) (h : c.hasBinary t = true)
    {command : DisplayCommand}
    (hcommand : ArenaCommand.ofByte ((c.source t).rx.parsedCmd.data 1) = some (.display command)) :
    ∃ d, SameView c.display d ∧ SameView (displayCommand (env.call 5) c.store c.transfers
        (c.source t).rx.parsedCmd.data (c.source t).rx.parsedCmd.dataLen command d).1
      (c.step (.processCommand t, env)).display := by
  have hother : (c.source t).rx.parsedCmd.data 1 ≠ systemResetCmd := by
    intro heq
    rw [heq, ofByte_systemReset] at hcommand
    cases hcommand
  have hhanded := handed_sameCore env t c
  have hcore := processCommand_binary env h hother
  unfold dispatched dispatch at hcore
  rw [hcommand] at hcore
  dsimp only [onDisplay] at hcore
  rw [hhanded.store, hhanded.transfers] at hcore
  refine ⟨_, hhanded.display, ?_⟩
  unfold step
  rw [hrun]
  exact hcore.display

/-- A reset halts. -/
theorem step_reset {i : Action × Env} (h : c.order i = some .reset) : (c.step i).halted = true := by
  obtain ⟨t, haction, hrun, hbinary, horder⟩ := order_cases h nofun
  have hreset := Order.ofCommand_reset horder
  obtain ⟨a, env⟩ := i
  subst haction
  unfold hasBinary at hbinary
  dsimp only at hbinary
  simp only [Bool.and_eq_true, Bool.not_eq_true', decide_eq_true_eq] at hbinary
  obtain ⟨⟨⟨⟨hready, howns⟩, hbulk⟩, hstream⟩, hsound⟩ := hbinary
  unfold step
  rw [hrun]
  change (c.processCommand env t).halted = true
  rcases processCommand_cases env t c with ⟨hidle | howned, -⟩ | ⟨-, -, c₁, handoff, hcall, hprocess⟩
  · rw [hready] at hidle
    cases hidle
  · rw [howns] at howned
    cases howned
  · unfold handleCommand at hcall
    rw [if_neg (by rw [hbulk]; decide), if_neg (by rw [hstream]; decide)] at hcall
    cases hcall
    obtain ⟨_, c₂, reply, -, -, -, ⟨hother, -⟩ | ⟨-, hend⟩⟩ :=
      handleBinaryCommand_cases env t (c.onSource t noteDispatched) hsound
    · exact absurd hreset hother
    · rw [hprocess, hend]
      rfl

end

end Controller

end Command
end G6Arena
