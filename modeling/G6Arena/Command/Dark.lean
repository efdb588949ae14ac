/-
# The display during a transfer

A transfer starts with the display off.  `TRIAL_PARAMS`, `SET_PATTERN_ID` and `ALL_ON` are
refused while one is active; a streamed frame, `SET_FRAME_POSITION`, the two PSRAM commands and
an opcode nobody knows are not (`unguarded`), and turn the display on.  The display stays off as
long as none of these is handled (`display_off_during_transfers`).
-/

import G6Arena.Command.Service
import G6Arena.Sd.OpenPattern

namespace G6Arena
namespace Command

open ByteMem Link Machine
open Sd (Store)

/-- The commands about the display that turn it on without a look at the transfers. -/
def DisplayCommand.unguarded : DisplayCommand → Bool
  | .setFramePosition | .displayPsramIndex | .psramPlay => true
  | _ => false

section

variable [Board]

/-- A command that turns the display on without a look at the transfers. -/
def unguarded (cmd : ParsedCommand) : Bool :=
  !cmd.isBulk &&
    if cmd.isStream then
      cmd.dataLen - streamHeaderByteCount = streamFrameByteCountGs2
        || cmd.dataLen - streamHeaderByteCount = streamFrameByteCountGs16
    else
      match ArenaCommand.ofByte (cmd.data 1) with
      | some (.display command) => command.unguarded
      | some (.store _) => false
      | none => true

/-- No such command is handled while a transfer is active. -/
def Guarded (c : Controller) (i : Action × Env) : Prop :=
  match i.1 with
  | .processCommand t => c.transfers.active = true → (c.source t).hasCommand = true →
      c.transfers.owns t = false → unguarded (c.source t).rx.parsedCmd = false
  | _ => True

instance (c : Controller) : (i : Action × Env) → Decidable (Guarded c i)
  | (.processCommand _, _) => inferInstanceAs (Decidable (_ → _ → _ → _))
  | (.arrive .., _) | (.disconnect, _) | (.service .., _) | (.serviceDisplay, _)
  | (.serviceTelemetry, _) | (.serviceDownload, _) | (.serviceUpload, _) | (.serviceArchive, _)
  | (.serviceDisconnects, _) | (.serviceLateBootBlank, _) | (.flushResponses _, _)
  | (.refreshIsr, _) => isTrue trivial

/-- A display that is off while a transfer is active. -/
def OffWhenActive (c : Controller) : Prop :=
  c.transfers.active = true → c.display.screen.state = .allOff

/-! ### Commands -/

variable {env : Env} {t : Transport} {data : Mem} {dataLen : ℕ} {c c' : Controller}

/-- The other commands about the display leave it off. -/
theorem displayCommand_off {store : Store} {x : Transfers} {command : DisplayCommand} {d : Display}
    (hoff : d.screen.state = .allOff) (hactive : x.active = true)
    (hguard : command.unguarded = false) :
    (displayCommand env store x data dataLen command d).1.screen.state = .allOff := by
  by_cases hshows : command.shows = false
  · rw [(displayCommand_sameView hshows).screen]
    exact hoff
  · cases command with
    | allOff => exact Display.enterAllOff_state ..
    | allOn =>
      change (d.handleAllOn env x).1.screen.state = .allOff
      unfold Display.handleAllOn
      rw [if_pos hactive]
      exact hoff
    | stopDisplay => exact Display.enterAllOff_state ..
    | setRefreshRate =>
      change (d.handleSetRefreshRate env data).1.screen.state = .allOff
      rw [(Display.handleSetRefreshRate_view env d data).1]
      exact hoff
    | setPanelDisplayMode =>
      change (d.handleSetPanelDisplayMode data).1.screen.state = .allOff
      obtain ⟨⟨mode, buf, hscreen⟩, -⟩ := Display.handleSetPanelDisplayMode_view d data
      rw [hscreen]
      exact hoff
    | setFramePosition => cases hguard
    | displayPsramIndex => cases hguard
    | psramPlay => cases hguard
    | setAoVoltage =>
      change (d.handleSetAoVoltage env data).1.screen.state = .allOff
      rcases Display.handleSetAoVoltage_cases env d data with h | ⟨-, _, _, h⟩
      · rw [h]
        exact hoff
      · rw [h]
        exact hoff
    | setAoMode =>
      change (d.handleSetAoMode env data).1.screen.state = .allOff
      rcases Display.handleSetAoMode_cases env d data with h | ⟨_, h⟩
      · rw [h]
        exact hoff
      · rw [h]
        exact hoff
    | getAoVoltage =>
      change (d.handleGetAoVoltage env).1.screen.state = .allOff
      obtain ⟨_, h⟩ := Display.handleGetAoVoltage_cases env d
      rw [h]
      exact hoff
    | setAoLut =>
      change (d.handleSetAoLut env data).1.screen.state = .allOff
      obtain ⟨_, h⟩ := Display.handleSetAoLut_cases env d data
      rw [h]
      exact hoff
    | _ => exact absurd rfl hshows

namespace Controller

/-- A dispatch leaves a display that is off while a transfer is active. -/
theorem dispatch_off {reply : Reply} (h : c.dispatch env t data dataLen = (c', reply))
    (hactive : c.transfers.active = true) (hoff : c.display.screen.state = .allOff)
    (hguard : ∀ command, ArenaCommand.ofByte (data 1) = some (.display command) →
      command.unguarded = false)
    (hknown : (ArenaCommand.ofByte (data 1)).isSome = true) :
    c'.display.screen.state = .allOff := by
  unfold dispatch at h
  split at h
  · next command hcommand =>
    cases h
    exact displayCommand_off hoff hactive (hguard command hcommand)
  · next command _ =>
    have hbusy : c.transfers.active ≠ false := by
      rw [hactive]
      decide
    cases command with
    | trialParams =>
      rcases handleTrialParams_cases h with ⟨-, rfl, -⟩ | ⟨hidle, -⟩
      · exact hoff
      · exact absurd hidle hbusy
    | setPatternId =>
      rcases handleSetPatternId_cases h with rfl | ⟨hidle, -⟩
      · exact hoff
      · exact absurd hidle hbusy
    | setPatternFilename =>
      rcases handleSetPatternFilename_cases h with rfl | ⟨-, _, _, rfl⟩ <;> exact hoff
    | getPatternFile =>
      rcases handleGetPatternFile_cases h with rfl | ⟨-, -, _, _, _, -, -, -, -, -, rfl, -⟩ <;>
        exact hoff
    | deletePatternFile =>
      rcases handleDeletePatternFile_cases h with rfl | ⟨_, _, _, -, -, -, -, ⟨-, rfl⟩ | ⟨-, rfl⟩⟩ <;>
        exact hoff
    | purgeMemory =>
      rcases handlePurgeMemory_cases h with rfl | ⟨-, -, rfl⟩ <;> exact hoff
    | getSdArchive =>
      rcases handleGetSdArchive_cases h with rfl | ⟨-, -, -, rfl, -⟩ <;> exact hoff
    | setSdDiag =>
      rcases handleSetSdDiag_cases h with rfl | ⟨_, _, -, -, -, -, hscreen, -⟩
      · exact hoff
      · rw [hscreen]
        exact hoff
    | systemReset =>
      cases h
      exact hoff
  · next hnone =>
    rw [hnone] at hknown
    cases hknown

/-- A command that is handled leaves a display that is off while a transfer is active. -/
theorem Handles.off {cmd : ParsedCommand} (h : Handles env t cmd c c')
    (hactive : c.transfers.active = true) (hoff : c.display.screen.state = .allOff)
    (hguard : unguarded cmd = false) : c'.display.screen.state = .allOff := by
  unfold unguarded at hguard
  cases h with
  | card hcore =>
    rw [hcore.display.screen]
    exact hoff
  | upload hbulk hstart =>
    obtain ⟨entry, id, -, -, hcore⟩ := hstart.core
    rw [hcore.display.screen]
    exact hoff
  | stream hbulk hstream c₁ hbefore hafter =>
    rw [hafter.display.screen]
    rw [hbulk, hstream, Bool.not_false, Bool.true_and, if_pos rfl, Bool.or_eq_false_iff,
      decide_eq_false_iff_not, decide_eq_false_iff_not] at hguard
    rcases Display.handleStreamCommand_cases env c₁.display cmd.data cmd.dataLen with
      ⟨_, hsize, -⟩ | hbad
    · exact absurd hsize (not_or.2 hguard)
    · dsimp only
      rw [hbad, Display.enterAllOff_state]
  | binary hbulk hstream hsound c₁ c₂ reply hbefore hrun hafter =>
    rw [hafter.display.screen]
    rw [hbulk, hstream, Bool.not_false, Bool.true_and, if_neg Bool.false_ne_true] at hguard
    refine dispatch_off hrun ?_ ?_ ?_ ?_
    · rw [hbefore.transfers]
      exact hactive
    · rw [hbefore.display.screen]
      exact hoff
    · intro command hcommand
      rw [hcommand] at hguard
      exact hguard
    · cases hbyte : ArenaCommand.ofByte (cmd.data 1) with
      | none =>
        rw [hbyte] at hguard
        cases hguard
      | some command => rfl
  | reset hbulk hstream hsound hopcode c₁ hbefore hafter =>
    rw [hafter.display.screen]
    change c₁.display.screen.state = .allOff
    rw [hbefore.display.screen]
    exact hoff

/-! ### Steps -/

/-- The services of the display leave it off. -/
theorem serviceDisplay_off {store : Store} {d : Display} (hoff : d.screen.state = .allOff) :
    (d.serviceDisplay env store).screen.state = .allOff := by
  have htimers : (d.serviceTimers env).screen.state = .allOff := by
    unfold Display.serviceTimers
    rcases Display.serviceTrialTimer_cases (env.call 1) (d.serviceAoLut (env.call 0)) with
      ⟨h, -⟩ | ⟨h, -⟩
    · rw [h, (Display.serviceAoLut_view (env.call 0) d).1]
      exact hoff
    · rw [h, Display.enterAllOff_state]
  unfold Display.serviceDisplay
  dsimp only
  rw [if_pos htimers]
  exact htimers

theorem serviceLateBootBlank_off {idle : Bool} {d : Display} (hoff : d.screen.state = .allOff) :
    (d.serviceLateBootBlank env idle).screen.state = .allOff := by
  unfold Display.serviceLateBootBlank
  dsimp only
  split_ifs
  · exact hoff
  · exact hoff
  · exact Display.enterAllOff_state ..
  · exact hoff

/-- **One step.** -/
theorem step_offWhenActive {i : Action × Env} (hinv : OffWhenActive c) (hguard : Guarded c i) :
    OffWhenActive (c.step i) := by
  obtain ⟨action, env⟩ := i
  unfold Controller.step
  split
  · exact hinv
  have hserves {c' : Controller} (h : Serves c c') : OffWhenActive c' := by
    intro hactive
    rw [h.display]
    exact hinv (h.transfers.active hactive)
  cases action with
  | arrive t bytes => exact hinv
  | disconnect => exact hinv
  | service t accepted => exact hinv
  | processCommand t =>
    change OffWhenActive (c.processCommand env t)
    rcases processCommand_core env t c with h | ⟨hready, howns, h⟩
    · rw [h]
      exact hinv
    · intro hactive
      by_cases hbefore : c.transfers.active = true
      · exact h.off hbefore (hinv hbefore) (hguard hbefore hready howns)
      · -- a transfer that was not active has started, and the screen is as it was
        generalize hx : (c.processCommand env t).transfers = x at hactive
        generalize hs : (c.processCommand env t).display.screen = s
        have hstarts := h.starts
        rw [hx, hs] at hstarts
        cases hstarts with
        | same => exact absurd hactive hbefore
        | shifted => exact absurd (shiftTransfers_active .. ▸ hactive) hbefore
        | download _ hoff => exact hoff
        | upload _ hoff => exact hoff
        | archive _ hoff => exact hoff
  | serviceDisplay => exact fun hactive => serviceDisplay_off (hinv hactive)
  | serviceTelemetry => exact hinv
  | serviceDownload => exact hserves (serviceDownload_serves env c)
  | serviceUpload => exact hserves (serviceUpload_serves env c)
  | serviceArchive => exact hserves (serviceArchive_serves env c)
  | serviceDisconnects => exact hserves (serviceDisconnects_serves env c)
  | serviceLateBootBlank => exact fun hactive => serviceLateBootBlank_off (hinv hactive)
  | flushResponses t => exact hinv
  | refreshIsr =>
    intro hactive
    change c.display.refreshIsr.screen.state = .allOff
    rw [(Display.refreshIsr_view c.display).1]
    exact hinv hactive

end Controller

/-! ### Runs -/

variable {boot : Boot} {env₀ : Env} {is : List (Action × Env)}

theorem OffWhenActive.run (h : Along Controller.step Guarded (setup boot env₀) is) :
    OffWhenActive (run Controller.step (setup boot env₀) is) :=
  run_inv (fun _ _ hinv hguard => Controller.step_offWhenActive hinv hguard)
    (fun hactive => absurd hactive Bool.false_ne_true) h

/-- A transfer that was not active is active. -/
def Begins (x x' : Transfers) : Prop :=
  (x.dl = none ∧ x'.dl ≠ none) ∨ (x.ul = none ∧ x'.ul ≠ none) ∨ (x.ar = none ∧ x'.ar ≠ none)

omit [Board] in
theorem not_begins_refl (x : Transfers) : ¬ Begins x x := by
  rintro (⟨h, h'⟩ | ⟨h, h'⟩ | ⟨h, h'⟩)
  · exact h' h
  · exact h' h
  · exact h' h

omit [Board] in
theorem Transfers.Goes.not_begins {x x' : Transfers} (h : x.Goes x') : ¬ Begins x x' := by
  rintro (⟨hx, hx'⟩ | ⟨hx, hx'⟩ | ⟨hx, hx'⟩)
  · exact hx' (h.dl.eq_none hx)
  · exact hx' (h.ul.eq_none hx)
  · exact hx' (h.ar.eq_none hx)

/-- **A transfer begins with the display off.** -/
theorem begins_off {i : Action × Env} (h : Begins c.transfers (c.step i).transfers) :
    c.display.screen.state = .allOff := by
  obtain ⟨action, env⟩ := i
  unfold Controller.step at h
  split at h
  · exact absurd h (not_begins_refl _)
  cases action with
  | processCommand t =>
    change Begins c.transfers (c.processCommand env t).transfers at h
    rcases Controller.processCommand_core env t c with hsame | ⟨-, -, hhandles⟩
    · rw [hsame] at h
      exact absurd h (not_begins_refl _)
    · generalize (c.processCommand env t) = c' at h hhandles
      have hstarts := hhandles.starts
      generalize c'.transfers = x at h hstarts
      generalize c'.display.screen = s at hstarts
      cases hstarts with
      | same => exact absurd h (not_begins_refl _)
      | shifted s idx =>
        refine absurd h ?_
        unfold Controller.shiftTransfers
        split_ifs
        · rintro (⟨hx, hx'⟩ | ⟨hx, hx'⟩ | ⟨hx, hx'⟩)
          · exact hx' (Option.map_eq_none_iff.2 hx)
          · exact hx' (Option.map_eq_none_iff.2 hx)
          · exact hx' hx
        · exact not_begins_refl _
      | download _ hoff => exact hoff
      | upload _ hoff => exact hoff
      | archive _ hoff => exact hoff
  | serviceDownload => exact absurd h (Controller.serviceDownload_serves env c).transfers.not_begins
  | serviceUpload => exact absurd h (Controller.serviceUpload_serves env c).transfers.not_begins
  | serviceArchive => exact absurd h (Controller.serviceArchive_serves env c).transfers.not_begins
  | serviceDisconnects =>
    exact absurd h (Controller.serviceDisconnects_serves env c).transfers.not_begins
  | _ => exact absurd h (not_begins_refl _)

/-- **The display stays off during a transfer**, as long as no unguarded command is handled
during one: it is off whenever a transfer is active, a transfer begins with it off, and no
command that is handled while one is active turns it on. -/
theorem display_off_during_transfers (h : Along Controller.step Guarded (setup boot env₀) is) :
    let c := Machine.run Controller.step (setup boot env₀) is
    (c.transfers.active = true → c.display.screen.state = .allOff) ∧
    (∀ i, Begins c.transfers (c.step i).transfers → c.display.screen.state = .allOff) ∧
    ∀ t env, Guarded c (.processCommand t, env) → c.transfers.active = true →
      (c.step (.processCommand t, env)).display.screen.state = .allOff := by
  have hinv := OffWhenActive.run h
  refine ⟨hinv, fun i hbegins => begins_off hbegins, fun t env hguard hactive => ?_⟩
  unfold Controller.step
  split
  · exact hinv hactive
  · rcases Controller.processCommand_core env t
      (Machine.run Controller.step (setup boot env₀) is) with hsame | ⟨hready, howns, hhandles⟩
    · change ((Machine.run Controller.step (setup boot env₀) is).processCommand env t).display.screen.state
        = .allOff
      rw [hsame]
      exact hinv hactive
    · exact hhandles.off hactive (hinv hactive) (hguard hactive hready howns)

end

/-! ### A download with the display on -/

section

local instance darkBoard : Board := ⟨.hw10_10⟩

/-- `GET_PATTERN_FILE` on one link, and one byte of an opcode on the other. -/
def downloadThen (opcode : UInt8) : List (Action × Env) := [
  (.arrive .serial [3, 0x84, 1, 0], .calm Sd.goodIo),
  (.service .serial false, .calm Sd.goodIo),
  (.processCommand .serial, .calm Sd.goodIo),
  (.service .network true, .calm Sd.goodIo),
  (.arrive .network [1, opcode], .calm Sd.goodIo),
  (.service .network false, .calm Sd.goodIo),
  (.processCommand .network, .calm Sd.goodIo)]

/-- `GET_REFRESH_RATE` leaves the display off. -/
theorem display_off_during_download :
    let c := Machine.run Controller.step (setup (.cold Sd.sampleCard) (.calm Sd.goodIo)) (downloadThen 0x17)
    (c.transfers.active = true → c.display.screen.state = .allOff) ∧
    (∀ i, Begins c.transfers (c.step i).transfers → c.display.screen.state = .allOff) ∧
    ∀ t env, Guarded c (.processCommand t, env) → c.transfers.active = true →
      (c.step (.processCommand t, env)).display.screen.state = .allOff :=
  display_off_during_transfers (by decide +kernel)

/-- **An opcode nobody knows turns the display on during a download.** -/
theorem display_on_during_download :
    let c := Machine.run Controller.step (setup (.cold Sd.sampleCard) (.calm Sd.goodIo)) (downloadThen 0x5A)
    c.transfers.active = true ∧ c.display.screen.state = .errorDisplay := by
  decide +kernel

end

end Command
end G6Arena
