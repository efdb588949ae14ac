/-
# `FRAME` records

`transmitOnRefresh` records a transfer when the index or the pattern of the display is not the one
recorded last, whatever the buffer holds.  So a record tells the truth exactly if no refresh is
served while something else than a pattern is shown and there is something new to record
(`frame_records_true`).
-/

import G6Arena.Command.Loaded
import G6Arena.Telemetry.Entries

namespace G6Arena
namespace Command

open ByteMem Link Panel Machine
open Sd (ControllerError Store)

namespace Display

/-- What a `FRAME` record says of its transfer: the frame, its pattern, and the flags. -/
def frameRecord (d : Display) : Option (ℕ × ℕ × UInt8) :=
  if d.screen.curFrameIndex ≠ d.marks.telLastFrame ∨ d.screen.patternId ≠ d.marks.telLastPattern then
    some (d.screen.curFrameIndex, d.screen.patternId, d.marks.frameSrcFlags)
  else none

section

variable [Board]

/-- **A transmission appends its record, and no other.** -/
theorem transmitOnRefresh_tel (env : Env) (d : Display) : (d.transmitOnRefresh env).tel =
    match if d.refresh.refreshFlag then d.frameRecord else none with
    | some (idx, pattern, flags) =>
      Telemetry.frame (env.clock 1) (env.micros 0) idx pattern d.health.lastSdReadUs
        (Telemetry.sub32 (env.micros 2) (env.micros 0))
        (Telemetry.sub32 (env.micros 0) d.marks.frameReqUs) (UInt8.ofNat d.marks.supersededPending)
        flags d.tel
    | none => d.tel := by
  obtain ⟨_, h⟩ := transferFrame_eq { d with refresh := { d.refresh with refreshFlag := false } }
  unfold transmitOnRefresh frameRecord
  dsimp only at h ⊢
  rw [h]
  split_ifs <;> rfl

/-- Moving a pattern on arms no refresh, and leaves the state of a display that is to be
transmitted. -/
theorem advance_refreshFlag {env : Env} {s : Store} {d : Display}
    (h : (d.advance env s).refresh.refreshFlag = true) :
    d.refresh.refreshFlag = true ∧ (d.advance env s).screen.state = d.screen.state := by
  rcases advance_cases env d s with hmoved | ⟨-, d₁, index, heq, -, hmoved⟩ | ⟨-, d₁, index, heq, hmoved⟩
  · rw [hmoved.refresh] at h
    rw [hmoved.screen]
    exact ⟨h, rfl⟩
  · obtain ⟨d₂, bytes, err, -, hafter, ⟨-, -, hend⟩ | ⟨-, -, hend⟩⟩ :=
      loadFrame_cases (Prod.mk.eta (p := d₁.loadFrame (env.call 1) s index)).symm
    · rw [heq, hend, showError_refreshFlag] at h
      cases h
    · rw [heq, hend] at h ⊢
      rw [acceptFrame_refresh, hafter.refresh, hmoved.refresh] at h
      rw [acceptFrame_state, hafter.screen, hmoved.screen]
      exact ⟨h, rfl⟩
  · rw [heq] at h ⊢
    refine ⟨?_, (congrArg Screen.state hmoved.screen :)⟩
    rw [← hmoved.refresh]
    exact h

/-- The timers leave what is to be recorded, unless they end the trial. -/
theorem serviceTimers_record {env : Env} {d : Display} (h : d.trialExpires env = false) :
    (d.serviceTimers env).screen = d.screen ∧ (d.serviceTimers env).refresh = d.refresh ∧
      (d.serviceTimers env).marks = d.marks ∧ (d.serviceTimers env).frameRecord = d.frameRecord := by
  rcases serviceTimers_cases env d with ⟨htrue, -⟩ | ⟨-, hscreen, hrefresh, hmarks, -⟩
  · rw [h] at htrue
    cases htrue
  · refine ⟨hscreen, hrefresh, hmarks, ?_⟩
    unfold frameRecord
    rw [hscreen, hmarks]

/-- Where no pattern is played, what is to be recorded stays. -/
theorem advance_record (env : Env) (s : Store) {d : Display} (h : d.screen.state.pattern = false) :
    (d.advance env s).refresh = d.refresh ∧
      (d.advance env s).frameRecord.isSome = d.frameRecord.isSome := by
  have hkept {d' : Display} (hindex : d'.screen.curFrameIndex = d.screen.curFrameIndex)
      (hpattern : d'.screen.patternId = d.screen.patternId)
      (hframe : d'.marks.telLastFrame = d.marks.telLastFrame)
      (hlast : d'.marks.telLastPattern = d.marks.telLastPattern) :
      d'.frameRecord.isSome = d.frameRecord.isSome := by
    unfold frameRecord
    rw [hindex, hpattern, hframe, hlast]
    split_ifs <;> rfl
  rcases advance_cases env d s with hmoved | ⟨hstate, -⟩ | ⟨-, d₁, index, heq, hmoved⟩
  · refine ⟨hmoved.refresh, hkept ?_ ?_ ?_ ?_⟩
    · rw [hmoved.screen]
    · rw [hmoved.screen]
    · rw [hmoved.marks]
    · rw [hmoved.marks]
  · rcases hstate with hstate | hstate <;> rw [hstate] at h <;> cases h
  · rw [heq]
    refine ⟨hmoved.refresh, hkept ?_ ?_ ?_ ?_⟩
    · exact (congrArg Screen.curFrameIndex hmoved.screen :)
    · exact (congrArg Screen.patternId hmoved.screen :)
    · exact (congrArg Marks.telLastFrame hmoved.marks :)
    · exact (congrArg Marks.telLastPattern hmoved.marks :)

end

end Display

namespace Controller

open Display

variable [Board] {c : Controller} {i : Action × Env}

/-! ### Steps -/

/-- The display that a step transmits, if it does: with its pattern moved on. -/
def transmits (c : Controller) (i : Action × Env) : Option Display :=
  match i.1 with
  | .serviceDisplay =>
    let d := (c.display.serviceTimers i.2).advance (i.2.call 2) c.store
    if c.halted = false ∧ (c.display.serviceTimers i.2).screen.state ≠ .allOff ∧
        d.refresh.refreshFlag = true then some d
    else none
  | _ => none

/-- A record is of a transfer of the frame it names, read from the card to play its pattern. -/
def RecordsTruly (c : Controller) (i : Action × Env) : Prop :=
  ∀ d ∈ c.transmits i, ∀ idx pattern flags, d.frameRecord = some (idx, pattern, flags) →
    flags &&& kFrameFlagSdRead = kFrameFlagSdRead ∧ d.screen.state.pattern = true ∧
      c.store.sd.openId = pattern ∧ ∃ bytes, c.store.storedFrame idx = some bytes ∧
        bytes.length = Sd.Store.bodyLen c.store.sd.info ∧ d.screen.Holds bytes

/-- Where no pattern is played, a refresh that is served finds nothing to record. -/
def TracksFrames (c : Controller) (i : Action × Env) : Prop :=
  i.1 = .serviceDisplay → c.halted = false → c.display.trialExpires i.2 = false →
    c.display.refresh.refreshFlag = true → c.display.screen.state ≠ .allOff →
      c.display.screen.state.pattern = false → c.display.frameRecord.isSome = false

instance (c : Controller) (i : Action × Env) : Decidable (TracksFrames c i) :=
  inferInstanceAs (Decidable (_ → _ → _ → _ → _ → _ → _))

/-- What is transmitted is of a service that finds a refresh, and shows the state before it. -/
theorem transmits_cases {d : Display} (h : c.transmits i = some d) :
    i.1 = .serviceDisplay ∧ c.halted = false ∧ c.display.trialExpires i.2 = false ∧
      c.display.refresh.refreshFlag = true ∧ c.display.screen.state ≠ .allOff ∧
      d.screen.state = c.display.screen.state ∧
      d = (c.display.serviceTimers i.2).advance (i.2.call 2) c.store := by
  unfold transmits at h
  split at h
  · next haction =>
    dsimp only at h
    split_ifs at h with hall
    cases h
    obtain ⟨hrun, hon, hflag⟩ := hall
    obtain ⟨hflag₁, hstate⟩ := advance_refreshFlag hflag
    rcases serviceTimers_cases i.2 c.display with ⟨-, d₁, env', hoff, -⟩ |
      ⟨hexpires, hscreen, hrefresh, -, -⟩
    · rw [hoff, enterAllOff_state] at hon
      exact absurd rfl hon
    · rw [hscreen] at hon hstate
      rw [hrefresh] at hflag₁
      exact ⟨haction, hrun, hexpires, hflag₁, hon, hstate, rfl⟩
  · cases h

/-- It keeps the law of the opcodes. -/
theorem transmits_lawful {d : Display} (hc : ObeysLaw playedLaw c) (h : c.transmits i = some d) :
    Lawful playedLaw d := by
  obtain ⟨-, -, hexpires, -, -, -, rfl⟩ := transmits_cases h
  obtain ⟨hscreen, -, -, -⟩ := serviceTimers_record hexpires
  have hlawful : Lawful playedLaw (c.display.serviceTimers i.2) := by
    refine hc.lawful.congr ?_ ?_ ?_ ?_ ?_ <;> rw [hscreen]
  have hpaints := advance_paints (.refl (i.2.call 2)) c.store (c.display.serviceTimers i.2)
  exact hpaints.lawful playedLaw_allows hc.fits (fun _ _ _ _ _ => .inl rfl) hlawful

/-- It keeps the invariants. -/
theorem transmits_held {d : Display} (hc : Plays c) (h : c.transmits i = some d) :
    Lawful playedLaw d ∧ Held c.store d := by
  refine ⟨transmits_lawful hc.obeys h, ?_⟩
  obtain ⟨-, -, hexpires, -, -, -, rfl⟩ := transmits_cases h
  obtain ⟨hscreen, -, hmarks, -⟩ := serviceTimers_record hexpires
  have hlawful : Lawful playedLaw (c.display.serviceTimers i.2) := by
    refine hc.obeys.lawful.congr ?_ ?_ ?_ ?_ ?_ <;> rw [hscreen]
  have hheld : Held c.store (c.display.serviceTimers i.2) :=
    hc.held.congr hscreen (by rw [hmarks])
  have hpaints := advance_paints (.refl (i.2.call 2)) c.store (c.display.serviceTimers i.2)
  exact hpaints.held hc.obeys.fits hlawful hheld

/-- **When the records of a step are true.** -/
theorem records_iff (hc : Plays c) (i : Action × Env) : TracksFrames c i ↔ RecordsTruly c i := by
  constructor
  · intro htracks d hd idx pattern flags hrecord
    obtain ⟨-, hheld⟩ := transmits_held hc hd
    obtain ⟨haction, hrun, hexpires, hflag, hon, hstate, heq⟩ := transmits_cases hd
    obtain hnot | hplays := Bool.eq_false_or_eq_true c.display.screen.state.pattern |>.symm
    · have hnone := htracks haction hrun hexpires hflag hon hnot
      obtain ⟨hscreen, -, -, hsame⟩ := serviceTimers_record hexpires
      rw [← hscreen] at hnot
      have hkept := (advance_record (i.2.call 2) c.store hnot).2
      rw [← heq, hrecord, hsame, hnone] at hkept
      cases hkept
    · have hframe : d.screen.frameBufIsFrame = true := by
        rw [hheld.plays, hstate, hplays]
      obtain ⟨hpattern, hflags, -, -, hstored, -⟩ := hheld.frame hframe
      unfold frameRecord at hrecord
      split_ifs at hrecord
      cases hrecord
      exact ⟨hflags, by rw [hstate, hplays], hpattern, hstored⟩
  · intro htruly haction hrun hexpires hflag hon hnot
    obtain ⟨hscreen, hrefresh, -, hsame⟩ := serviceTimers_record hexpires
    have hnot₁ : (c.display.serviceTimers i.2).screen.state.pattern = false := by rwa [hscreen]
    obtain ⟨hrefresh₂, hrecord⟩ := advance_record (i.2.call 2) c.store hnot₁
    have htransmits : c.transmits i
        = some ((c.display.serviceTimers i.2).advance (i.2.call 2) c.store) := by
      unfold transmits
      rw [haction]
      dsimp only
      rw [if_pos ⟨hrun, by rwa [hscreen], by rw [hrefresh₂, hrefresh, hflag]⟩]
    by_contra hsome
    rw [Bool.not_eq_false, ← hsame, ← hrecord, Option.isSome_iff_exists] at hsome
    obtain ⟨⟨idx, pattern, flags⟩, hsome⟩ := hsome
    have hplays := (htruly _ htransmits _ _ _ hsome).2.1
    rw [(transmits_cases htransmits).2.2.2.2.2.1, hnot] at hplays
    cases hplays

/-- **`FRAME` records.**  In a run, from a card whose files are well formed, the records are true
exactly if no refresh is served that finds something to record where no pattern is played. -/
theorem frame_records_true {boot : Boot} (hboot : boot.card.WellFormed) (env₀ : Env)
    (is : List (Action × Env)) : Along step TracksFrames (setup boot env₀) is ↔
      Along step RecordsTruly (setup boot env₀) is :=
  along_congr (I := Plays) (C := TracksFrames) (D := RecordsTruly) (fun _ i hc => records_iff hc i)
    (fun _ i hc => step_plays hc i) (setup_plays hboot env₀) is

end Controller

section

local instance recordsBoard : Board := ⟨.hw2_10⟩

/-- A trial of the small pattern, and a refresh of it that is served. -/
def playedRun : List (Action × Env) :=
  receive .serial [12, 0x08, 3, 1, 0, 0, 0, 0, 0, 0, 0, 0, 0] (.calm smallIo)
    ++ [(.refreshIsr, .calm smallIo), (.serviceDisplay, .calm smallIo)]

set_option maxRecDepth 100000 in
theorem frame_records_true_played :
    Along Controller.step Controller.RecordsTruly (setup (.cold smallCard) (.calm smallIo)) playedRun :=
  (Controller.frame_records_true smallCard_wellFormed _ _).1 (by decide +kernel)

/-- `ALL_ON`, and a refresh. -/
def allOnRun : List (Action × Env) :=
  receive .serial [1, 0xFF] (.calm Sd.goodIo) ++ [(.refreshIsr, .calm Sd.goodIo)]

/-- **A record of no frame.**  The first transfer of `ALL_ON` after a boot is recorded as frame 0 of
pattern 0, its flags clear. -/
theorem allOn_recorded :
    let c := run Controller.step (setup (.cold Sd.sampleCard) (.calm Sd.goodIo)) allOnRun
    let i := (Action.serviceDisplay, Env.calm Sd.goodIo)
    c.display.screen.state = .allOn ∧
      (c.transmits i).map Display.frameRecord = some (some (0, 0, 0)) ∧
      (Telemetry.pending (c.step i).display.tel.ring).getLast?.map (fun rec => rec.getD 1 0)
        = some Telemetry.recFrame := by
  decide +kernel

end

end Command
end G6Arena
