/-
# The refresh timer

If the timer always begins, it is stopped exactly when the display is off, and otherwise runs at
the rate the host has set last, or at the default of the blocks in the buffer
(`refresh_timer`).

A stream keeps a timer that runs at its rate already, so that the rate kept for it has to be the
one the timer runs at; and a PSRAM frame that follows another does not look at the timer, so that
its blocks have to be of the size the timer was armed for (`Timed`).
-/

import G6Arena.Command.Paint

namespace G6Arena
namespace Command

open ByteMem Link Panel Machine
open Sd (ControllerError Store)

/-- `IntervalTimer::begin` succeeds. -/
def Env.TimerBegins (env : Env) : Prop := ∀ path, env.timerBegin path = true

theorem Env.TimerBegins.call {env : Env} (h : env.TimerBegins) (k : ℕ) : (env.call k).TimerBegins :=
  fun path => h (k :: path)

theorem Env.Within.timerBegins {env env' : Env} (he : env.Within env') (h : env.TimerBegins) :
    env'.TimerBegins := fun path => he.timerBegin h path

namespace Display

section

variable [Board]

/-! ### The invariant -/

/-- The rate for blocks of a size, for a host that has set a rate or not. -/
def rateOf (host : Option ℕ) (blockByteCount : ℕ) : ℕ :=
  host.getD (defaultRefreshFor blockByteCount)

/-- The rate kept is the host's, if it has set one. -/
structure Hosts (host : Option ℕ) (d : Display) : Prop where
  explicit : d.refresh.rateExplicit = host.isSome
  rate (hz : ℕ) : host = some hz → d.refresh.rateHz = hz ∧ hz ≠ 0

/-- The timer runs as it is to. -/
structure Timed (host : Option ℕ) (d : Display) : Prop where
  hosts : Hosts host d
  armed : d.refresh.armedHz
    = if d.screen.state = .allOff then 0 else rateOf host d.screen.blockByteCount
  stream : d.screen.state = .streamingFrame →
    d.refresh.rateHz = rateOf host d.screen.blockByteCount
  psram : d.screen.state = .psramPlay → d.screen.blockByteCount = blockByteCountPsram

/-- The timer is still to be armed. -/
structure Ready (host : Option ℕ) (d : Display) : Prop where
  hosts : Hosts host d
  on : d.screen.state ≠ .allOff
  stream : d.screen.state = .streamingFrame →
    d.refresh.rateHz = rateOf host d.screen.blockByteCount
  psram : d.screen.state = .psramPlay → d.screen.blockByteCount = blockByteCountPsram

variable {host : Option ℕ} {env env' : Env} {s : Store} {o : Option Order} {d d' : Display}

theorem Hosts.rateFor_eq (h : Hosts host d) (blockByteCount : ℕ) :
    d.rateFor blockByteCount = rateOf host blockByteCount := by
  unfold rateFor rateOf
  rw [h.explicit]
  cases host with
  | none => rfl
  | some hz => exact (h.rate hz rfl).1

theorem Hosts.rateOf_ne_zero (h : Hosts host d) (blockByteCount : ℕ) :
    rateOf host blockByteCount ≠ 0 := by
  cases host with
  | none =>
    unfold rateOf defaultRefreshFor refreshRateGs2Default refreshRateGs16Default
    rw [Option.getD_none]
    cases Board.hw <;> split_ifs <;> decide
  | some hz => exact (h.rate hz rfl).2

omit [Board] in
theorem Hosts.congr (h : Hosts host d) (hexplicit : d'.refresh.rateExplicit = d.refresh.rateExplicit)
    (hrate : d'.refresh.rateHz = d.refresh.rateHz) : Hosts host d' := by
  constructor
  · rw [hexplicit]
    exact h.explicit
  · rw [hrate]
    exact h.rate

/-- The rate may become the one of the blocks in the buffer. -/
theorem Hosts.rateFor (h : Hosts host d) (blockByteCount : ℕ)
    (hexplicit : d'.refresh.rateExplicit = d.refresh.rateExplicit) (hrate : d'.refresh.rateHz = d.rateFor blockByteCount) : Hosts host d' := by
  rw [h.rateFor_eq] at hrate
  constructor
  · rw [hexplicit]
    exact h.explicit
  · rintro hz rfl
    exact ⟨hrate, (h.rate hz rfl).2⟩

/-- What is not about the timer does not matter. -/
theorem Timed.congr (h : Timed host d) (hstate : d'.screen.state = d.screen.state)
    (hblock : d'.screen.blockByteCount = d.screen.blockByteCount)
    (hrate : d'.refresh.rateHz = d.refresh.rateHz)
    (hexplicit : d'.refresh.rateExplicit = d.refresh.rateExplicit)
    (harmed : d'.refresh.armedHz = d.refresh.armedHz) : Timed host d' := by
  constructor
  · exact h.hosts.congr hexplicit hrate
  · rw [harmed, hstate, hblock]
    exact h.armed
  · rw [hstate, hblock, hrate]
    exact h.stream
  · rw [hstate, hblock]
    exact h.psram

theorem Timed.of_sameView (h : Timed host d) (hview : SameView d d') : Timed host d' := by
  refine h.congr ?_ ?_ ?_ ?_ ?_
  · rw [hview.screen]
  · rw [hview.screen]
  · rw [hview.refresh]
  · rw [hview.refresh]
  · rw [hview.refresh]

omit [Board] in
/-- The timer is armed. -/
theorem armRefreshTimer_begins (hbegin : env.TimerBegins) {hz : ℕ} (hz0 : hz ≠ 0) (d : Display) :
    (d.armRefreshTimer env hz).1.refresh.armedHz = hz := by
  unfold armRefreshTimer
  rw [if_neg hz0]
  split_ifs with harmed hother hfail
  · exact harmed
  · rfl
  · rw [hbegin] at hfail
    cases hfail
  · rfl

theorem Ready.arm (h : Ready host d) (hbegin : env.TimerBegins) {hz : ℕ}
    (hhz : hz = rateOf host d.screen.blockByteCount) : Timed host (d.armRefreshTimer env hz).1 := by
  have hz0 : hz ≠ 0 := by
    rw [hhz]
    exact h.hosts.rateOf_ne_zero _
  constructor
  · exact h.hosts.congr (armRefreshTimer_rateExplicit ..) (armRefreshTimer_rateHz ..)
  · rw [armRefreshTimer_begins hbegin hz0, armRefreshTimer_screen, if_neg h.on, hhz]
  · rw [armRefreshTimer_screen, armRefreshTimer_rateHz]
    exact h.stream
  · rw [armRefreshTimer_screen]
    exact h.psram

/-! ### States -/

theorem enterAllOff_timed (h : Hosts host d) (env : Env) : Timed host (d.enterAllOff env) := by
  have hscreen := enterAllOff_screen env d
  have hrefresh := enterAllOff_refresh env d
  constructor
  · refine h.congr ?_ ?_ <;> rw [hrefresh]
  · rw [hrefresh, hscreen]
    rfl
  · rw [hscreen]
    nofun
  · rw [hscreen]
    nofun

theorem enterAllOn_timed (hbegin : env.TimerBegins) (h : Hosts host d) :
    Timed host (d.enterAllOn env) := by
  have hrate := h.rateFor_eq panelBlockByteCountGs16
  unfold enterAllOn
  dsimp only
  refine Timed.of_sameView ?_ (note_sameView ..)
  refine Ready.arm ?_ (hbegin.call 1) ?_
  · exact ⟨h.rateFor panelBlockByteCountGs16 rfl rfl, nofun, nofun, nofun⟩
  · exact hrate

theorem showError_timed (hbegin : env.TimerBegins) (h : Hosts host d) (code : ControllerError) :
    Timed host (d.showError env code) := by
  unfold showError
  dsimp only
  refine Ready.arm ?_ (hbegin.call 3) ?_
  · exact ⟨h.congr rfl rfl, nofun, nofun, nofun⟩
  · exact h.rateFor_eq panelBlockByteCountGs16

theorem enterStreamingFrame_timed (hbegin : env.TimerBegins) {blockByteCount : ℕ} (h : Hosts host d)
    (hrate : d.refresh.rateHz = rateOf host blockByteCount) :
    Timed host (d.enterStreamingFrame env blockByteCount) := by
  unfold enterStreamingFrame
  dsimp only
  refine Timed.of_sameView ?_ (note_sameView ..)
  refine Ready.arm ?_ (hbegin.call 0) ?_
  · exact ⟨h.congr rfl rfl, nofun, fun _ => hrate, nofun⟩
  · exact hrate

/-- A stream arms its timer, or finds it armed at its rate. -/
theorem showStream_timed (hbegin : env.TimerBegins) (h : Timed host d) (blockByteCount : ℕ)
    (frame : List UInt8) : Timed host (d.showStream env blockByteCount frame) := by
  have hwanted := h.hosts.rateFor_eq blockByteCount
  obtain ⟨buf, hbuf⟩ := patchDispMode_eq { (d.invalidateFrameBuf (env.call 0)).screen with
    frameBuf := ByteMem.store (d.invalidateFrameBuf (env.call 0)).screen.frameBuf 0 frame
    frameByteCount := frame.length % 2 ^ 16
    blockByteCount := blockByteCount }
  unfold showStream
  dsimp only
  rw [hbuf]
  split
  · exact enterStreamingFrame_timed (hbegin.call 1) (h.hosts.rateFor blockByteCount rfl rfl) hwanted
  · next hrearm =>
    rw [Bool.not_eq_true, Bool.or_eq_false_iff] at hrearm
    have hstate : d.screen.state = .streamingFrame := not_not.1 (of_decide_eq_false hrearm.1)
    have hkept : d.rateFor blockByteCount = d.refresh.rateHz := not_not.1 (of_decide_eq_false hrearm.2)
    have harmed := h.armed
    rw [hstate, ← h.stream hstate] at harmed
    refine ⟨h.hosts.rateFor blockByteCount rfl rfl, ?_, fun _ => hwanted, fun hpsram => ?_⟩
    · change d.refresh.armedHz = if d.screen.state = .allOff then 0 else rateOf host blockByteCount
      rw [harmed, hstate, ← hwanted, hkept]
    · change d.screen.state = .psramPlay at hpsram
      rw [hstate] at hpsram
      cases hpsram

theorem setRefreshRate_timed (hbegin : env.TimerBegins) (h : Timed host d) {hz : ℕ} (hz0 : 0 < hz) :
    Timed (some hz) (d.setRefreshRate env hz).1 := by
  have hhosts : Hosts (some hz) { d with refresh := { d.refresh with
      rateHz := hz, rateExplicit := true } } := by
    refine ⟨rfl, ?_⟩
    rintro _ ⟨⟩
    exact ⟨rfl, hz0.ne'⟩
  unfold setRefreshRate
  dsimp only
  split_ifs with hon
  · have hready : Ready (some hz) { d with refresh := { d.refresh with
        rateHz := hz, rateExplicit := true } } := ⟨hhosts, hon, fun _ => rfl, h.psram⟩
    have harm := hready.arm hbegin (show hz = rateOf (some hz) _ from rfl)
    split <;> next heq =>
      rw [heq] at harm
      exact harm
  · rw [not_not] at hon
    have harmed := h.armed
    rw [hon] at harmed
    refine ⟨hhosts, ?_, fun _ => rfl, h.psram⟩
    change d.refresh.armedHz = if d.screen.state = .allOff then 0 else _
    rw [harmed, hon]
    rfl

/-! ### PSRAM frames -/

/-- A display of PSRAM frames whose timer is to be armed. -/
theorem Ready.of_psram (h : Hosts host d) (hstate : d.screen.state = .psramPlay)
    (hblock : d.screen.blockByteCount = blockByteCountPsram) : Ready host d := by
  refine ⟨h, ?_, fun hstream => ?_, fun _ => hblock⟩
  · rw [hstate]
    nofun
  · rw [hstate] at hstream
    cases hstream

theorem displayPsramIndex_timed (hbegin : env.TimerBegins) (h : Hosts host d) (index : ℕ) :
    Timed host (d.displayPsramIndex env index).1 := by
  unfold displayPsramIndex
  dsimp only
  have hview := enterPsramPlay_sameView (env.call 1) (({ d with playback := { d.playback with
    psramStartIndex := index, psramPlayCount := 1, psramPlayOffset := 0 } } :
      Display).buildPsramFrame (env.call 0) index)
  generalize Display.enterPsramPlay _ _ = d₁ at hview
  have hhosts : Hosts host d₁ := by
    refine h.congr ?_ ?_ <;> rw [hview.refresh] <;> rfl
  refine Ready.arm (.of_psram (hhosts.rateFor d₁.screen.blockByteCount ?_ ?_) ?_ ?_) (hbegin.call 2) ?_
  · rfl
  · rfl
  · change d₁.screen.state = _
    rw [hview.screen]
  · change d₁.screen.blockByteCount = _
    rw [hview.screen]
    rfl
  · exact hhosts.rateFor_eq _

theorem psramPlay_timed (hbegin : env.TimerBegins) (h : Hosts host d) (start count fps : ℕ) :
    Timed host (d.psramPlay env start count fps).1 := by
  unfold psramPlay
  dsimp only
  have hview := enterPsramPlay_sameView (env.call 1) (({ d with playback := { d.playback with
    psramStartIndex := start
    psramPlayCount := if count = 0 then 1 else count
    psramPlayOffset := 0
    frameRateHz := toInt16 fps } } : Display).buildPsramFrame (env.call 0) start)
  generalize Display.enterPsramPlay _ _ = d₁ at hview
  have hhosts : Hosts host d₁ := by
    refine h.congr ?_ ?_ <;> rw [hview.refresh] <;> rfl
  refine Ready.arm (.of_psram (hhosts.congr ?_ ?_) ?_ ?_) (hbegin.call 3) ?_
  · rfl
  · rfl
  · change d₁.screen.state = _
    rw [hview.screen]
  · change d₁.screen.blockByteCount = _
    rw [hview.screen]
    rfl
  · exact hhosts.rateFor_eq _

/-- A frame of the PSRAM after another. -/
theorem buildPsramFrame_timed (h : Timed host d) (hstate : d.screen.state = .psramPlay) (env : Env)
    (index : ℕ) : Timed host (d.buildPsramFrame env index) :=
  h.congr rfl (h.psram hstate).symm rfl rfl rfl

/-! ### Frames from the card -/

/-- A frame that is loaded leaves the timer; an error arms its own. -/
theorem loadFrame_timed (hbegin : env.TimerBegins) (hhosts : Hosts host d) {index : ℕ} {ok : Bool}
    (h : d.loadFrame env s index = (d', ok)) :
    (ok = false ∧ Timed host d') ∨ (ok = true ∧ d'.refresh = d.refresh ∧
      d'.screen.state = d.screen.state ∧ d'.screen.blockByteCount = d.screen.blockByteCount) := by
  obtain ⟨d₁, bytes, err, -, hafter, ⟨hok, -, rfl⟩ | ⟨hok, -, rfl⟩⟩ := loadFrame_cases h
  · refine .inl ⟨hok, showError_timed (hbegin.call 2) (hhosts.congr ?_ ?_) err⟩ <;>
      rw [hafter.refresh]
  · obtain ⟨buf, hscreen⟩ := acceptFrame_screen_eq (env.call 3) d₁ s index
    refine .inr ⟨hok, ?_, ?_, ?_⟩
    · rw [acceptFrame_refresh, hafter.refresh]
    · rw [hscreen, hafter.screen]
    · rw [hscreen, hafter.screen]

theorem advance_timed (hbegin : env.TimerBegins) (h : Timed host d) (index : ℕ) :
    Timed host (d.loadFrame env s index).1 := by
  rcases loadFrame_timed hbegin h.hosts (Prod.mk.eta (p := d.loadFrame env s index)).symm with
    ⟨-, htimed⟩ | ⟨-, hrefresh, hstate, hblock⟩
  · exact htimed
  · refine h.congr hstate hblock ?_ ?_ ?_ <;> rw [hrefresh]

theorem showFrame_timed (hbegin : env.TimerBegins) (h : Hosts host d) :
    Timed host (d.showFrame env).1 := by
  obtain ⟨d₁, hview, hshown⟩ := showFrame_cases env d
  have hstate : d₁.screen.state = .showFrame := by rw [hview.screen]
  have hrate : d₁.refresh.rateHz = d.rateFor d₁.screen.blockByteCount := by
    rw [hview.refresh, hview.screen]
  have hhosts : Hosts host d₁ := h.rateFor _ (by rw [hview.refresh]) hrate
  rw [h.rateFor_eq] at hrate
  have hready : Ready host d₁ := by
    refine ⟨hhosts, ?_, fun _ => hrate, fun hpsram => ?_⟩
    · rw [hstate]
      nofun
    · rw [hstate] at hpsram
      cases hpsram
  rcases hshown with ⟨heq, harmed⟩ | heq
  · unfold refreshArmedAt at harmed
    rw [Bool.and_eq_true, decide_eq_true_eq] at harmed
    rw [heq]
    exact ⟨hhosts, by rw [if_neg hready.on, harmed.1, hrate], hready.stream, hready.psram⟩
  · rw [heq]
    exact hready.arm (hbegin.call 1) hrate

theorem loadFramePosition_timed (hbegin : env.TimerBegins) (h : Hosts host d) (s : Store)
    (index : ℕ) : Timed host (d.loadFramePosition env s index).1 := by
  obtain ⟨d₁, hview, d₂, ok, hload, hend⟩ :=
    loadFramePosition_cases (Prod.mk.eta (p := d.loadFramePosition env s index)).symm
  have hhosts : Hosts host d₁ := by
    refine h.congr ?_ ?_ <;> rw [hview.refresh]
  rcases loadFrame_timed (hbegin.call 0) hhosts hload with ⟨rfl, htimed⟩ | ⟨rfl, hrefresh, -⟩
  · rcases hend with ⟨-, hd⟩ | ⟨hok, -⟩
    · rw [hd]
      exact htimed
    · cases hok
  · rcases hend with ⟨hok, -⟩ | ⟨-, hd⟩
    · cases hok
    · rw [hd]
      refine showFrame_timed (hbegin.call 1) (hhosts.congr ?_ ?_) <;> rw [hrefresh]

theorem startPattern_timed {mode : ArenaState}
    (hmode : mode = .openLoop ∨ mode = .showFrame ∨ mode = .closedLoop) (hhosts : Hosts host d)
    {durationTicks : ℕ} {ok : Bool} (h : d.startPattern env mode durationTicks = (d', ok)) :
    Timed host d' := by
  obtain ⟨d₁, hscreen, hrefresh, -, -, -, ⟨-, -, hview⟩ | ⟨-, d₂, hview, rfl⟩⟩ := startPattern_cases h
  · have hstate : d'.screen.state = mode := by rw [hview.screen, hscreen]
    have hrate : d'.refresh.rateHz = d.rateFor d'.screen.blockByteCount := by
      rw [hview.refresh, hrefresh, hview.screen, hscreen]
    have harmed : d'.refresh.armedHz = d'.refresh.rateHz := by rw [hview.refresh]
    have hexplicit : d'.refresh.rateExplicit = d.refresh.rateExplicit := by
      rw [hview.refresh, hrefresh]
    have hhosts' := hhosts.rateFor _ hexplicit hrate
    rw [hhosts.rateFor_eq] at hrate
    refine ⟨hhosts', ?_, fun _ => hrate, fun hpsram => ?_⟩
    · rw [harmed, hrate, hstate, if_neg]
      rcases hmode with rfl | rfl | rfl <;> nofun
    · rw [hstate] at hpsram
      rcases hmode with rfl | rfl | rfl <;> cases hpsram
  · refine enterAllOff_timed (hhosts.rateFor d.screen.blockByteCount ?_ ?_) _ <;>
      rw [hview.refresh, hrefresh]

theorem Trial.timed {s' : Store} (hbegin : env.TimerBegins) (h : Trial env s d s' d')
    (hhosts : Hosts host d) : Timed host d' := by
  obtain ⟨duty, hmode, run, hend⟩ := h
  rename_i mode _ _ _ _ _ d₁ ok
  suffices htimed : Timed host d₁ by
    rcases hend with rfl | ⟨-, rfl⟩
    · exact htimed
    · exact htimed.congr rfl rfl rfl rfl rfl
  obtain ⟨-, ⟨-, -, d₂, -, hrefresh, -, -, -, rfl⟩ | ⟨-, d₂, -, hrefresh, -, -, -, hload⟩⟩ :=
    enterPatternMode_cases run
  · refine showError_timed (hbegin.call 3) (hhosts.congr ?_ ?_) _ <;> rw [hrefresh]
  · have hhosts₂ : Hosts host d₂ := by
      refine hhosts.congr ?_ ?_ <;> rw [hrefresh]
    rcases hload with ⟨d₃, hload, -, rfl⟩ | ⟨d₃, hload, hstart⟩
    · rcases loadFrame_timed (hbegin.call 5) hhosts₂ hload with ⟨-, htimed⟩ | ⟨hok, -⟩
      · exact htimed
      · cases hok
    · rcases loadFrame_timed (hbegin.call 5) hhosts₂ hload with ⟨hok, -⟩ | ⟨-, hkept, -⟩
      · cases hok
      · refine startPattern_timed hmode (hhosts₂.congr ?_ ?_) hstart <;> rw [hkept]

/-! ### Changes -/

/-- What the host has set after a step, if it had set `host` before. -/
def hostAfter (o : Option Order) (host : Option ℕ) : Option ℕ :=
  match o with
  | some (.rate hz) => some hz
  | _ => host

theorem Paint.timed (hbegin : env.TimerBegins) (hreset : o ≠ some .reset) (h : Paint env s o d d')
    (htimed : Timed host d) (hrate : ∀ hz, o ≠ some (.rate hz)) : Timed host d' := by
  cases h with
  | look h => exact htimed.of_sameView h
  | clocks p => exact htimed.congr rfl rfl rfl rfl rfl
  | outputs ao => exact htimed.congr rfl rfl rfl rfl rfl
  | forget ao => exact htimed.congr rfl rfl rfl rfl rfl
  | allOff he => exact enterAllOff_timed htimed.hosts _
  | allOn he => exact enterAllOn_timed (he.timerBegins hbegin) htimed.hosts
  | error he code => exact showError_timed (he.timerBegins hbegin) htimed.hosts code
  | stream he hblock hframe => exact showStream_timed (he.timerBegins hbegin) htimed _ _
  | rate he ho hz0 => exact absurd ho (hrate _)
  | mode ho hmode =>
    obtain ⟨buf, hbuf⟩ := patchDispMode_eq { d.screen with panelDispMode := _ }
    rw [hbuf]
    exact htimed.congr rfl rfl rfl rfl rfl
  | position he ho hopen hindex hskip =>
    exact loadFramePosition_timed (he.timerBegins hbegin) htimed.hosts ..
  | psramIndex he index => exact displayPsramIndex_timed (he.timerBegins hbegin) htimed.hosts _
  | psramPlay he start count fps => exact psramPlay_timed (he.timerBegins hbegin) htimed.hosts ..
  | psramNext he ho index hstate hmoved =>
    refine buildPsramFrame_timed (htimed.congr ?_ ?_ ?_ ?_ ?_) ?_ _ _
    · rw [hmoved.screen]
    · rw [hmoved.screen]
    · rw [hmoved.refresh]
    · rw [hmoved.refresh]
    · rw [hmoved.refresh]
    · rw [hmoved.screen]
      exact hstate
  | advance he ho hstate hindex hmoved =>
    refine advance_timed (he.timerBegins hbegin) (htimed.congr ?_ ?_ ?_ ?_ ?_) _
    · rw [hmoved.screen]
    · rw [hmoved.screen]
    · rw [hmoved.refresh]
    · rw [hmoved.refresh]
    · rw [hmoved.refresh]
  | disarm ho => exact absurd ho hreset
  | transmit he ho =>
    obtain ⟨hscreen, -, -, hrefresh, -⟩ := transmitOnRefresh_view _ d
    refine htimed.congr ?_ ?_ ?_ ?_ ?_
    · rw [hscreen]
    · rw [hscreen]
    · rw [hrefresh]
    · rw [hrefresh]
    · rw [hrefresh]
  | isr =>
    unfold refreshIsr
    split_ifs
    · exact htimed
    · exact htimed.congr rfl rfl rfl rfl rfl

theorem Paints.timed (hbegin : env.TimerBegins) (hreset : o ≠ some .reset)
    (hrate : ∀ hz, o ≠ some (.rate hz)) (h : Paints env s o d d') (htimed : Timed host d) :
    Timed host d' := by
  induction h with
  | refl => exact htimed
  | tail _ hpaint ih => exact hpaint.timed hbegin hreset ih hrate

end

end Display

namespace Controller

variable [Board] {host : Option ℕ} {c : Controller} {i : Action × Env}

/-! ### Runs -/

/-- The rate the host has set last in a run, if it has set one. -/
def hostRate : Controller → List (Action × Env) → Option ℕ → Option ℕ
  | _, [], host => host
  | c, i :: is, host => hostRate (c.step i) is (Display.hostAfter (c.order i) host)

/-- **A step keeps the timer.** -/
theorem step_timed (hbegin : i.2.TimerBegins) (h : c.display.Timed host)
    (hrun : (c.step i).halted = false) :
    (c.step i).display.Timed (Display.hostAfter (c.order i) host) := by
  have hreset : c.order i ≠ some .reset := by
    intro horder
    rw [step_reset horder] at hrun
    cases hrun
  by_cases hrate : ∃ hz, c.order i = some (.rate hz)
  · obtain ⟨hz, horder⟩ := hrate
    obtain ⟨t, haction, hrunning, hbinary, hof⟩ := order_cases horder nofun
    obtain ⟨hcommand, hlen, hhz, hpos⟩ := Order.ofCommand_rate hof
    obtain ⟨d, hbefore, hafter⟩ := step_displayCommand i.2 hrunning hbinary hcommand
    rw [← haction] at hafter
    rw [horder]
    refine Display.Timed.of_sameView ?_ hafter
    change (d.handleSetRefreshRate _ _).1.Timed (some hz)
    unfold Display.handleSetRefreshRate
    dsimp only
    rw [if_neg (not_not.2 hlen), ← hhz, if_pos hpos]
    exact Display.setRefreshRate_timed (hbegin.call 5) (h.of_sameView hbefore) hpos
  · have hother (hz : ℕ) : c.order i ≠ some (.rate hz) := fun horder => hrate ⟨hz, horder⟩
    have hhost : Display.hostAfter (c.order i) host = host := by
      unfold Display.hostAfter
      split
      · next hz horder => exact absurd horder (hother hz)
      · rfl
    rw [hhost]
    rcases step_shows c i with ⟨-, hpaints⟩ | ⟨he, hbefore, htrial, hafter⟩
    · exact hpaints.timed hbegin hreset hother h
    · exact (htrial.timed (he.timerBegins hbegin) (h.of_sameView hbefore).hosts).of_sameView hafter

omit [Board] in
@[simp] theorem step_of_halted [Board] (h : c.halted = true) : c.step i = c := by
  unfold step
  rw [if_pos h]

theorem run_of_halted (h : c.halted = true) (is : List (Action × Env)) : run step c is = c := by
  induction is with
  | nil => rfl
  | cons i is ih => rw [run_cons, step_of_halted h, ih]

theorem run_timed (is : List (Action × Env)) (h : c.display.Timed host)
    (hbegin : Along step (fun _ i => i.2.TimerBegins) c is) (hrun : (run step c is).halted = false) :
    (run step c is).display.Timed (hostRate c is host) := by
  induction is generalizing c host with
  | nil => exact h
  | cons i is ih =>
    have hstep : (c.step i).halted = false := by
      by_contra hhalted
      rw [Bool.not_eq_false] at hhalted
      rw [run_cons, run_of_halted hhalted, hhalted] at hrun
      cases hrun
    exact ih (step_timed hbegin.1 h hstep) hbegin.2 hrun

theorem setup_timed (boot : Boot) (env : Env) : (setup boot env).display.Timed none := by
  have hosts (tel : Telemetry.Module) : Display.Hosts none (Display.powerOn tel).begin_ := by
    refine ⟨rfl, ?_⟩
    rintro _ ⟨⟩
  exact Display.enterAllOff_timed (Display.enterAllOff_timed (hosts _) _).hosts _

/-- **The refresh timer.**  If it always begins, it is stopped exactly when the display is off, and
otherwise runs at the rate the host has set last, or, while it has set none, at the default of the
blocks in the buffer; up to a reset, which stops it for good. -/
theorem refresh_timer (boot : Boot) (env₀ : Env) (is : List (Action × Env))
    (hbegin : Along step (fun _ i => i.2.TimerBegins) (setup boot env₀) is)
    (hrun : (run step (setup boot env₀) is).halted = false) :
    let c := run step (setup boot env₀) is
    (c.display.refresh.armedHz = 0 ↔ c.display.screen.state = .allOff) ∧
      (c.display.screen.state ≠ .allOff → c.display.refresh.armedHz
        = match hostRate (setup boot env₀) is none with
          | some _ => c.display.refresh.rateHz
          | none => defaultRefreshFor c.display.screen.blockByteCount) ∧
      (∀ hz, hostRate (setup boot env₀) is none = some hz → c.display.refresh.rateHz = hz) := by
  have h := run_timed is (setup_timed boot env₀) hbegin hrun
  dsimp only
  generalize run step (setup boot env₀) is = c at h
  generalize hostRate (setup boot env₀) is none = host at h ⊢
  refine ⟨?_, fun hon => ?_, fun hz hhost => (h.hosts.rate hz hhost).1⟩
  · rw [h.armed]
    split_ifs with hoff
    · exact ⟨fun _ => hoff, fun _ => rfl⟩
    · exact iff_of_false (h.hosts.rateOf_ne_zero _) hoff
  · rw [h.armed, if_neg hon]
    cases host with
    | none => rfl
    | some hz => exact (h.hosts.rate hz rfl).1.symm

end Controller

section

local instance timerBoard : Board := ⟨.hw10_10⟩

/-- `ALL_ON`, then a rate of 500 Hz. -/
def pacedRun : List (Action × Env) :=
  receive .serial [1, 0xFF] (.calm Sd.goodIo) ++ receive .serial [3, 0x16, 0xF4, 0x01] (.calm Sd.goodIo)

theorem refresh_timer_paced :
    let c := run Controller.step (setup (.cold Sd.sampleCard) (.calm Sd.goodIo)) pacedRun
    (c.display.refresh.armedHz = 0 ↔ c.display.screen.state = .allOff) ∧
      (c.display.screen.state ≠ .allOff → c.display.refresh.armedHz
        = match Controller.hostRate (setup (.cold Sd.sampleCard) (.calm Sd.goodIo)) pacedRun none with
          | some _ => c.display.refresh.rateHz
          | none => defaultRefreshFor c.display.screen.blockByteCount) ∧
      (∀ hz, Controller.hostRate (setup (.cold Sd.sampleCard) (.calm Sd.goodIo)) pacedRun none
        = some hz → c.display.refresh.rateHz = hz) :=
  Controller.refresh_timer _ _ _ ⟨fun _ => rfl, fun _ => rfl, fun _ => rfl, fun _ => rfl,
    fun _ => rfl, fun _ => rfl, trivial⟩ (by decide +kernel)

end

end Command
end G6Arena
