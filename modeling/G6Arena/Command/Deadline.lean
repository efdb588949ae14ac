/-
# The deadline of a trial, by the clock

`enterPatternMode` sets `trial_end_ms_` from the clock of `millis()`, which wraps, and
`serviceTrialTimer` compares the two on the half of the clock around it.  As long as the service
runs twice in a turn of the clock, the display goes off at the first service that is not before
the end of the trial (`Awaits.step`).

The deadline also says whether there is one: a trial whose end falls on a time that is zero on the
clock has none, and never stops (`auto_stop_on_time`).
-/

import G6Arena.Command.AutoStop
import G6Arena.Command.Phase

namespace G6Arena
namespace Command

open Machine WrapClock
open Sd (Store)

/-- The time at which a service of the display compares the deadline, on a clock that does not
wrap. -/
def Env.timerTime (env : Env) : ℕ := env.ms [1, 0]

namespace Display

section

variable [Board]

/-- A call of `serviceDisplay`, on the card as it is then. -/
def displayStep (d : Display) (i : Env × Store) : Display := d.serviceDisplay i.1 i.2

/-- The frame that is due can be read. -/
def FrameShown (d : Display) (i : Env × Store) : Prop :=
  ((d.serviceTimers i.1).advance (i.1.call 2) i.2).screen.state ≠ .errorDisplay

/-- Services by a clock that does not go back, twice in each turn of it. -/
def Paced (start : ℕ) (ts : List ℕ) : Prop :=
  (start :: ts).IsChain fun a b => a ≤ b ∧ b ≤ a + 2 ^ 31

variable {env : Env} {s : Store} {d d' : Display} {mode : ArenaState} {start l t : ℕ}

/-! ### One service -/

/-- A deadline that is past turns the display off. -/
theorem serviceDisplay_fires (hset : d.playback.trialEndMs ≠ 0)
    (hdue : Link.due ((env.call 1).millis 0) d.playback.trialEndMs = true) :
    (d.serviceDisplay env s).screen.state = .allOff ∧
      (d.serviceDisplay env s).playback.trialEndMs = 0 := by
  obtain ⟨-, -, hplayback, -⟩ := serviceAoLut_view (env.call 0) d
  have htimers : d.serviceTimers env = ({ d.serviceAoLut (env.call 0) with
      playback := { d.playback with trialEndMs := 0 } } : Display).enterAllOff ((env.call 1).call 1) := by
    unfold serviceTimers serviceTrialTimer
    rw [hplayback, if_neg hset, hdue]
    rfl
  unfold serviceDisplay
  dsimp only
  rw [htimers, enterAllOff_state, if_pos rfl, enterAllOff_state, enterAllOff_playback]
  exact ⟨rfl, rfl⟩

/-- A deadline that is not past, or not set, leaves the trial on the display. -/
theorem serviceDisplay_waits (hwait : d.playback.trialEndMs = 0 ∨
      Link.due ((env.call 1).millis 0) d.playback.trialEndMs = false)
    (hstate : d.screen.state = .allOff ∨ d.screen.state.pattern = true)
    (hshown : FrameShown d (env, s)) :
    (d.serviceDisplay env s).screen.state = d.screen.state ∧
      (d.serviceDisplay env s).playback.trialEndMs = d.playback.trialEndMs := by
  obtain ⟨hscreen, -, hplayback, -⟩ := serviceAoLut_view (env.call 0) d
  have htimers : d.serviceTimers env = d.serviceAoLut (env.call 0) := by
    rcases serviceTrialTimer_cases (env.call 1) (d.serviceAoLut (env.call 0)) with
      ⟨h, -⟩ | ⟨-, hset, hdue⟩
    · exact h
    · rw [hplayback] at hset hdue
      rcases hwait with hzero | hnot
      · exact absurd hzero hset
      · rw [hdue] at hnot
        cases hnot
  unfold FrameShown at hshown
  unfold serviceDisplay
  dsimp only
  rw [htimers] at hshown ⊢
  rw [hscreen]
  rcases hstate with hoff | hpattern
  · rw [hoff, if_pos rfl, hscreen, hplayback, hoff]
    exact ⟨rfl, rfl⟩
  · have herror : d.screen.state ≠ .errorDisplay := by
      intro h
      rw [h] at hpattern
      cases hpattern
    have hon : d.screen.state ≠ .allOff := by
      intro h
      rw [h] at hpattern
      cases hpattern
    rw [if_neg hon, if_neg (fun h => herror h.1), (transmitOnRefresh_view ..).1,
      (transmitOnRefresh_view ..).2.1, (advance_deadline ..).1, hplayback]
    refine ⟨?_, rfl⟩
    rw [(advance_deadline ..).2.resolve_right hshown, hscreen]

/-! ### From the start to the end -/

omit [Board] in
/-- The deadline is compared on the half of the clock around it. -/
theorem due_iff {e : ℕ} (hlow : e ≤ env.timerTime + 2 ^ 31) (hhigh : env.timerTime < e + 2 ^ 31) :
    Link.due ((env.call 1).millis 0) (e % 2 ^ 32) = true ↔ e ≤ env.timerTime := by
  have hclock : (env.call 1).millis 0 % 2 ^ 32 = env.timerTime % (2 * 2 ^ 31) := Nat.mod_mod ..
  unfold Link.due
  rw [decide_eq_true_iff, hclock]
  exact elapsed_lt_iff hlow hhigh

/-- A trial that ends at the time `e`, as it is at the time `l`. -/
structure Awaits (mode : ArenaState) (e l : ℕ) (d : Display) : Prop where
  deadline : d.playback.trialEndMs = if l < e then e % 2 ^ 32 else 0
  state : d.screen.state = if l < e then mode else .allOff

/-- **One service** ends a trial that is over, and no other. -/
theorem Awaits.step {e : ℕ} (h : Awaits mode e l d) (hmode : mode.pattern = true)
    (hset : e % 2 ^ 32 ≠ 0) (hstart : e ≤ l + 2 ^ 31) (hforward : l ≤ env.timerTime)
    (hpaced : env.timerTime ≤ l + 2 ^ 31) (hshown : FrameShown d (env, s)) :
    Awaits mode e env.timerTime (d.serviceDisplay env s) := by
  obtain ⟨hdeadline, hstate⟩ := h
  by_cases hrunning : l < e
  · rw [if_pos hrunning] at hdeadline hstate
    have hdue : Link.due ((env.call 1).millis 0) (e % 2 ^ 32) = true ↔ e ≤ env.timerTime :=
      due_iff (by omega) (by omega)
    rw [← hdeadline] at hdue hset
    by_cases hover : e ≤ env.timerTime
    · obtain ⟨hoff, hclear⟩ := serviceDisplay_fires (s := s) hset (hdue.2 hover)
      constructor
      · rw [hclear, if_neg (by omega)]
      · rw [hoff, if_neg (by omega)]
    · obtain ⟨hkept, hleft⟩ := serviceDisplay_waits (.inr (Bool.eq_false_iff.2 fun h => hover (hdue.1 h)))
        (.inr (by rw [hstate, hmode])) hshown
      constructor
      · rw [hleft, hdeadline, if_pos (by omega)]
      · rw [hkept, hstate, if_pos (by omega)]
  · rw [if_neg hrunning] at hdeadline hstate
    obtain ⟨hkept, hleft⟩ := serviceDisplay_waits (.inl hdeadline) (.inl hstate) hshown
    constructor
    · rw [hleft, hdeadline, if_neg (by omega)]
    · rw [hkept, hstate, if_neg (by omega)]

/-- **Services, one after another.** -/
theorem Awaits.run {e : ℕ} (h : Awaits mode e l d) (hmode : mode.pattern = true)
    (hset : e % 2 ^ 32 ≠ 0) (hstart : e ≤ l + 2 ^ 31) {calls : List (Env × Store)} {i : Env × Store}
    (hpaced : Paced l ((calls ++ [i]).map fun i => i.1.timerTime))
    (hshown : Along displayStep FrameShown d (calls ++ [i])) :
    Awaits mode e i.1.timerTime (Machine.run displayStep d (calls ++ [i])) := by
  induction calls generalizing l d with
  | nil =>
    obtain ⟨⟨hforward, hnear⟩, -⟩ := List.isChain_cons_cons.1 hpaced
    exact h.step hmode hset hstart hforward hnear hshown.1
  | cons j calls ih =>
    obtain ⟨⟨hforward, hnear⟩, hpaced⟩ := List.isChain_cons_cons.1 hpaced
    exact ih (h.step hmode hset hstart hforward hnear hshown.1)
      (Nat.le_trans hstart (Nat.add_le_add_right hforward _)) hpaced hshown.2

/-- A trial without a deadline stays on the display. -/
theorem endless_run (hmode : mode.pattern = true) (hzero : d.playback.trialEndMs = 0)
    (hstate : d.screen.state = mode) (calls : List (Env × Store))
    (hshown : Along displayStep FrameShown d calls) :
    (Machine.run displayStep d calls).screen.state = mode := by
  refine (run_inv (I := fun d : Display => d.screen.state = mode ∧ d.playback.trialEndMs = 0)
    (fun d i hd hshown => ?_) ⟨hstate, hzero⟩ hshown).1
  obtain ⟨hkept, hleft⟩ := serviceDisplay_waits (.inl hd.2) (.inr (by rw [hd.1, hmode])) hshown
  exact ⟨hkept.trans hd.1, hleft.trans hd.2⟩

/-- A trial that has started. -/
theorem enterPatternMode_started {patternId initFrame ticks : ℕ} {rate gain : ℤ} {s' : Store}
    (h : d.enterPatternMode env mode patternId rate gain initFrame ticks s = (d', s', true)) :
    d'.screen.state = mode ∧ d'.playback.frameRateHz = rate ∧
      d'.playback.lastAdvanceUs = (env.call 6).micros 0 ∧
      d'.playback.lastSampleUs = (env.call 6).micros 0 ∧
      d'.playback.trialEndMs = trialDeadline (env.call 6) ticks := by
  obtain ⟨-, ⟨hok, -⟩ | ⟨-, d₁, -, -, hplayback, -, -, ⟨_, -, hok, -⟩ | ⟨d₂, hload, hstart⟩⟩⟩ :=
    enterPatternMode_cases h
  · cases hok
  · cases hok
  obtain ⟨d₃, hscreen₃, -, hplayback₃, -, -, ⟨-, -, hview⟩ | ⟨hok, -⟩⟩ := startPattern_cases hstart
  · obtain ⟨hhz, -⟩ := loadFrame_clock (env.call 5) s' d₁.screen.curFrameIndex d₁
    rw [hload, hplayback] at hhz
    rw [hview.screen, hscreen₃, hview.playback, hplayback₃]
    exact ⟨rfl, hhz, rfl, rfl, rfl⟩
  · cases hok

/-- No pattern moves on while no time passes. -/
theorem advance_still (hrate : d.playback.frameRateHz = 0 ∨ IsRate d.playback.frameRateHz)
    (hadvance : d.playback.lastAdvanceUs = env.micros 0)
    (hsample : d.playback.lastSampleUs = env.micros 0) (hpattern : d.screen.state.pattern = true) :
    d.advance env s = d := by
  have hsub : Telemetry.sub32 (env.micros 0) (env.micros 0) = 0 := by
    unfold Telemetry.sub32
    rw [Nat.add_sub_cancel_left]
    rfl
  unfold advance
  split
  · unfold serviceOpenLoop
    dsimp only
    by_cases hstatic : d.playback.frameRateHz = 0 ∨ d.screen.frameCount ≤ 1
    · exact if_pos hstatic
    · rw [if_neg hstatic, hadvance, hsub]
      exact if_pos (hrate.resolve_left fun h => hstatic (.inl h)).period_pos
  · unfold serviceClosedLoop
    dsimp only
    by_cases hstatic : d.screen.frameCount = 0
    · exact if_pos hstatic
    · rw [if_neg hstatic, hsample, hsub]
      exact if_pos (by decide)
  · next hpsram =>
    rw [hpsram] at hpattern
    cases hpattern
  · rfl

/-- The display is off from the first service on that is not before the end, and not before; without
an end it is never off. -/
def AutoStops (start ticks : ℕ) (d : Display) : Prop :=
  ∀ (calls : List (Env × Store)) (i : Env × Store),
    Paced start ((calls ++ [i]).map fun i => i.1.timerTime) →
    Along displayStep FrameShown d (calls ++ [i]) →
    ((run displayStep d (calls ++ [i])).screen.state = .allOff ↔
      ticks ≠ 0 ∧ start + 10 * ticks ≤ i.1.timerTime)

/-- **A trial stops on time just when it has no end, or one whose time is not zero on the clock.** -/
theorem auto_stop_on_time {patternId initFrame ticks : ℕ} {rate gain : ℤ} {s' : Store}
    (hmode : mode.pattern = true) (hrate : rate = 0 ∨ IsRate rate) (hticks : ticks < 2 ^ 16)
    (hstart : d.enterPatternMode env mode patternId rate gain initFrame ticks s = (d', s', true)) :
    AutoStops ((env.call 6).ms [1]) ticks d' ↔
      (ticks = 0 ∨ ((env.call 6).ms [1] + 10 * ticks) % 2 ^ 32 ≠ 0) := by
  obtain ⟨hstate, hhz, hadvance, hsample, hdeadline⟩ := enterPatternMode_started hstart
  have hon : mode ≠ .allOff := by
    rintro rfl
    cases hmode
  have hset (hne : ticks ≠ 0) :
      d'.playback.trialEndMs = ((env.call 6).ms [1] + 10 * ticks) % 2 ^ 32 := by
    rw [hdeadline, trialDeadline, if_pos hne, Nat.mul_comm ticks]
    exact Nat.mod_add_mod ..
  generalize (env.call 6).ms [1] = start at hset ⊢
  constructor
  · intro hstops
    by_contra hcond
    obtain ⟨hne, hzero⟩ := not_or.1 hcond
    rw [not_not] at hzero
    have hclear := (hset hne).trans hzero
    -- a service at the end of the trial, the other clock at its start
    obtain ⟨i, hend, hstill⟩ : ∃ i : Env × Store, i.1.timerTime = start + 10 * ticks ∧
        ((i.1.call 2).micros 0) = (env.call 6).micros 0 :=
      ⟨({ env with us := fun _ => (env.call 6).us [0], ms := fun _ => start + 10 * ticks }, s), rfl, rfl⟩
    have hshown : FrameShown d' i := by
      obtain ⟨hscreen, -, hplayback, -⟩ := serviceAoLut_view (i.1.call 0) d'
      unfold FrameShown serviceTimers serviceTrialTimer
      rw [hplayback, if_pos hclear, advance_still (by rw [hplayback, hhz]; exact hrate)
        (by rw [hplayback, hadvance, hstill]) (by rw [hplayback, hsample, hstill])
        (by rw [hscreen, hstate, hmode]), hscreen, hstate]
      rintro rfl
      cases hmode
    have hpaced : Paced start [i.1.timerTime] :=
      List.isChain_cons_cons.2 ⟨⟨by omega, by omega⟩, .singleton _⟩
    have hoff := (hstops [] i hpaced ⟨hshown, trivial⟩).2 ⟨hne, by omega⟩
    exact hon ((endless_run hmode hclear hstate [i] ⟨hshown, trivial⟩).symm.trans hoff)
  · intro hcond calls i hpaced hshown
    by_cases hzero : ticks = 0
    · have hclear : d'.playback.trialEndMs = 0 := by
        rw [hdeadline, trialDeadline, if_neg (not_not.2 hzero)]
      rw [endless_run hmode hclear hstate _ hshown]
      exact iff_of_false hon fun h => h.1 hzero
    · have hawaits : Awaits mode (start + 10 * ticks) start d' := by
        constructor
        · rw [hset hzero, if_pos (by omega)]
        · rw [hstate, if_pos (by omega)]
      rw [(hawaits.run hmode (hcond.resolve_left hzero) (by omega) hpaced hshown).state]
      split_ifs with hrunning
      · exact iff_of_false hon (by omega)
      · exact iff_of_true rfl ⟨hzero, by omega⟩

end

section

local instance deadlineBoard : Board := ⟨.hw2_10⟩

/-- The time at each reading of `millis()`. -/
def atMs (t : ℕ) : Env := { Env.calm smallIo with ms := fun _ => t }

/-- A trial of one tick in Mode 2, begun at this time. -/
def shortTrial (start : ℕ) : Display × Store × Bool :=
  (setup (.cold smallCard) (.calm smallIo)).display.enterPatternMode (atMs start) .openLoop 1 0 0 0 1
    (setup (.cold smallCard) (.calm smallIo)).store

set_option maxRecDepth 100000 in
theorem auto_stop_on_time_wrapped : AutoStops 4294967290 1 (shortTrial 4294967290).1 :=
  (auto_stop_on_time (by decide) (.inl rfl) (by decide)
    (eq_started (x := shortTrial 4294967290) (by decide +kernel))).2 (.inr (by decide))

set_option maxRecDepth 100000 in
/-- A trial that ends when the clock is zero does not end. -/
theorem auto_stop_at_zero : ¬ AutoStops 4294967286 1 (shortTrial 4294967286).1 := by
  intro hstops
  have h := (hstops [] (atMs 4294967296, (shortTrial 4294967286).2.1) (by unfold Paced; decide)
    ⟨by unfold FrameShown; decide +kernel, trivial⟩).2 ⟨by decide, by decide⟩
  revert h
  decide +kernel

end

end Display

end Command
end G6Arena
