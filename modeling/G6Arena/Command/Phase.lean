/-
# Patterns that advance by the clock

`serviceOpenLoop` and `servicePsramPlay` advance by the periods that are over, a whole cycle at
most, and keep the time of the last step on the clock of `micros()`, which wraps.  As long as the
backlog is below 2³² µs they make the steps that `WrapClock.tick` counts, so that no call, late or
not, loses a step or makes one twice (`open_loop_phase`).

`PSRAM_PLAY` takes a rate of 16 bits and keeps it signed: from 32768 on it is negative, and the
index stands still (`psram_play_phase`, `psram_play_stands`).
-/

import G6Arena.Command.Blocks
import G6Arena.Lib.Machine
import G6Arena.Lib.WrapClock

namespace G6Arena
namespace Command

open ByteMem Panel Machine WrapClock
open Sd (Store)

/-- The time of the first reading of `micros()`, on a clock that does not wrap. -/
def Env.time (env : Env) : ℕ := env.us [0]

namespace Display

/-- **The loop over the periods that are over.** -/
theorem catchUp_eq {p : ℕ} (hp : 0 < p) {t l : ℕ} (hle : l ≤ t) (hlt : t < l + 2 ^ 32) (n : ℕ) :
    catchUp (t % 2 ^ 32) p n (l % 2 ^ 32)
      = ((l + min ((t - l) / p) n * p) % 2 ^ 32, min ((t - l) / p) n) := by
  induction n generalizing l with
  | zero => rw [catchUp, Nat.min_zero, Nat.zero_mul, Nat.add_zero]
  | succ n ih =>
    have helapsed : Telemetry.sub32 (t % 2 ^ 32) (l % 2 ^ 32) = t - l := elapsed_mod hle hlt
    rw [catchUp, helapsed]
    by_cases hdue : p ≤ t - l
    · have hnext : (l % 2 ^ 32 + p) % 2 ^ 32 = (l + p) % 2 ^ 32 := Nat.mod_add_mod ..
      have hsum (j : ℕ) : l + p + j * p = l + (j + 1) * p := by
        rw [Nat.add_mul, Nat.one_mul]
        omega
      rw [if_pos hdue, hnext, ih (by omega) (by omega), min_div_succ hp hdue]
      dsimp only
      rw [hsum]
    · rw [if_neg hdue, min_div_of_lt (by omega), Nat.zero_mul, Nat.add_zero]

/-- A call that is early makes no step. -/
theorem tick_of_early {p n start k t : ℕ} (h : t - (start + k * p) < p) : tick p n start k t = k := by
  unfold tick due
  rw [min_div_of_lt h, Nat.add_zero]

/-- The loop makes the steps that are due. -/
theorem catchUp_tick {p n start k t : ℕ} (hp : 0 < p) (h : Current (2 ^ 32) p start k t) :
    catchUp (t % 2 ^ 32) p n ((start + k * p) % 2 ^ 32)
      = ((start + tick p n start k t * p) % 2 ^ 32, due p n start k t) := by
  refine (catchUp_eq hp h.1 h.2 n).trans ?_
  unfold tick due
  rw [Nat.add_mul, Nat.add_assoc]

/-! ### Mode 2 -/

/-- The time between two steps. -/
def periodUs (rate : ℤ) : ℕ := 1000000 / rate.natAbs

/-- A rate that an `int16_t` holds. -/
def IsRate (rate : ℤ) : Prop := rate ≠ 0 ∧ -2 ^ 15 ≤ rate ∧ rate < 2 ^ 15

theorem IsRate.period_pos {rate : ℤ} (h : IsRate rate) : 0 < periodUs rate := by
  obtain ⟨hne, hlow, hhigh⟩ := h
  exact Nat.div_pos (by omega) (by omega)

/-- The index after the steps that a call makes. -/
theorem step_index {rate : ℤ} (hrate : rate ≠ 0) (init k n : ℕ) {count : ℕ} (hcount : 0 < count) :
    (((((init + rate.sign * k) % count + (if 0 < rate then (n : ℤ) else -(n : ℤ))) % (count : ℤ)).toNat :
        ℕ) : ℤ) = (init + rate.sign * (k + n : ℕ)) % count := by
  have hsign : (if 0 < rate then (n : ℤ) else -(n : ℤ)) = rate.sign * n := by
    split_ifs with hpos
    · rw [Int.sign_eq_one_of_pos hpos, Int.one_mul]
    · rw [Int.sign_eq_neg_one_of_neg (by omega), Int.neg_mul, Int.one_mul]
  have hsum : (init : ℤ) + rate.sign * k + rate.sign * n = init + rate.sign * (k + n : ℕ) := by
    rw [Int.add_assoc, ← Int.mul_add, Nat.cast_add]
  rw [Int.toNat_of_nonneg (Int.emod_nonneg _ (by omega)), hsign, Int.emod_add_emod, hsum]

section

variable [Board]

/-- A call of `serviceOpenLoop`, on the card as it is then. -/
def openLoopStep (d : Display) (i : Env × Store) : Display := d.serviceOpenLoop i.1 i.2

/-- A pattern `k` steps after the frame `init` at time `start`. -/
structure InPhase (rate : ℤ) (count init start k : ℕ) (d : Display) : Prop where
  hz : d.playback.frameRateHz = rate
  frames : d.screen.frameCount = count
  clock : d.playback.lastAdvanceUs = (start + k * periodUs rate) % 2 ^ 32
  frame : (d.screen.curFrameIndex : ℤ) = (init + rate.sign * k) % count

/-- A pattern that has made its steps. -/
def stepped (last steps : ℕ) (d : Display) : Display :=
  { d with
    playback := { d.playback with lastAdvanceUs := last }
    screen := { d.screen with curFrameIndex :=
      (((d.screen.curFrameIndex : ℤ) + (if 0 < d.playback.frameRateHz then (steps : ℤ) else -(steps : ℤ)))
        % (d.screen.frameCount : ℤ)).toNat } }

/-- The clock and the steps of a call. -/
def openLoopSteps (env : Env) (d : Display) : ℕ × ℕ :=
  catchUp (env.micros 0) (periodUs d.playback.frameRateHz) d.screen.frameCount d.playback.lastAdvanceUs

/-- The pattern moves if it can and a period is over. -/
theorem serviceOpenLoop_eq (env : Env) (s : Store) (d : Display) : d.serviceOpenLoop env s =
    let d' := d.stepped (d.openLoopSteps env).1 (d.openLoopSteps env).2
    if d.playback.frameRateHz = 0 ∨ d.screen.frameCount ≤ 1 then d
    else if Telemetry.sub32 (env.micros 0) d.playback.lastAdvanceUs < periodUs d.playback.frameRateHz then d
    else (d'.loadFrame (env.call 1) s d'.screen.curFrameIndex).1 := rfl

/-- A frame that is loaded, or not, leaves the clock and the index. -/
theorem loadFrame_clock (env : Env) (s : Store) (index : ℕ) (d : Display) :
    let d' := (d.loadFrame env s index).1
    d'.playback.frameRateHz = d.playback.frameRateHz ∧
      d'.playback.lastAdvanceUs = d.playback.lastAdvanceUs ∧
      d'.screen.frameCount = d.screen.frameCount ∧
      d'.screen.curFrameIndex = d.screen.curFrameIndex := by
  dsimp only
  obtain ⟨d₁, bytes, err, -, hafter, ⟨-, -, h⟩ | ⟨-, -, h⟩⟩ :=
    loadFrame_cases (Prod.mk.eta (p := d.loadFrame env s index)).symm
  · rw [h, showError_playback, showError_screen, hafter.playback, hafter.screen]
    exact ⟨rfl, rfl, rfl, rfl⟩
  · obtain ⟨buf, hscreen⟩ := acceptFrame_screen_eq (env.call 3) d₁ s index
    rw [h, acceptFrame_playback, hscreen, hafter.playback, hafter.screen]
    exact ⟨rfl, rfl, rfl, rfl⟩

variable {rate : ℤ} {count init start k : ℕ} {d : Display}

/-- **One call** makes the steps that are due. -/
theorem InPhase.step (h : InPhase rate count init start k d) (hrate : IsRate rate) (hcount : 1 < count)
    (env : Env) (s : Store) (hcurrent : Current (2 ^ 32) (periodUs rate) start k env.time) :
    InPhase rate count init start (tick (periodUs rate) count start k env.time)
      (d.serviceOpenLoop env s) := by
  have hp := hrate.period_pos
  obtain ⟨rfl, rfl, hclock, hframe⟩ := h
  have helapsed : Telemetry.sub32 (env.micros 0) d.playback.lastAdvanceUs
      = env.time - (start + k * periodUs d.playback.frameRateHz) := by
    rw [hclock]
    exact elapsed_mod hcurrent.1 hcurrent.2
  have hmoving : ¬ (d.playback.frameRateHz = 0 ∨ d.screen.frameCount ≤ 1) := by
    rintro (hzero | hone)
    · exact hrate.1 hzero
    · omega
  have hsteps : d.openLoopSteps env
      = ((start + tick (periodUs d.playback.frameRateHz) d.screen.frameCount start k env.time
          * periodUs d.playback.frameRateHz) % 2 ^ 32,
        due (periodUs d.playback.frameRateHz) d.screen.frameCount start k env.time) := by
    unfold openLoopSteps
    rw [hclock]
    exact catchUp_tick hp hcurrent
  rw [serviceOpenLoop_eq]
  dsimp only
  rw [if_neg hmoving, helapsed, hsteps]
  by_cases hearly : env.time - (start + k * periodUs d.playback.frameRateHz)
      < periodUs d.playback.frameRateHz
  · rw [if_pos hearly, tick_of_early hearly]
    exact ⟨rfl, rfl, hclock, hframe⟩
  · rw [if_neg hearly]
    generalize hd₁ : d.stepped _ _ = d₁
    obtain ⟨hhz, hlast, hcnt, hcur⟩ := loadFrame_clock (env.call 1) s d₁.screen.curFrameIndex d₁
    subst hd₁
    refine ⟨hhz, hcnt, hlast, ?_⟩
    rw [hcur]
    unfold stepped
    dsimp only
    rw [hframe]
    exact step_index hrate.1 init k _ (by omega)

variable {patternId initFrame durationTicks : ℕ} {gain : ℤ} {env : Env} {s s' : Store} {d' : Display}

omit [Board] in
theorem eq_started {x : Display × Store × Bool} (h : x.2.2 = true) : x = (x.1, x.2.1, true) := by
  rw [← h]

/-- A trial that has started is at its first frame. -/
theorem enterPatternMode_inPhase (h : d.enterPatternMode env .openLoop patternId rate gain initFrame
      durationTicks s = (d', s', true)) (hcount : 1 < s'.sd.info.frameCount) :
    InPhase rate s'.sd.info.frameCount initFrame ((env.call 6).time) 0 d' := by
  obtain ⟨-, ⟨hok, -⟩ | ⟨-, d₁, hscreen, -, hplayback, -, -, ⟨_, -, hok, -⟩ | ⟨d₂, hload, hstart⟩⟩⟩ :=
    enterPatternMode_cases h
  · cases hok
  · cases hok
  obtain ⟨d₃, hscreen₃, -, hplayback₃, -, -, ⟨-, -, hview⟩ | ⟨hok, -⟩⟩ := startPattern_cases hstart
  · obtain ⟨hhz, -, hcnt, hcur⟩ := loadFrame_clock (env.call 5) s' d₁.screen.curFrameIndex d₁
    rw [hload] at hhz hcnt hcur
    refine ⟨?_, ?_, ?_, ?_⟩
    · rw [hview.playback, hplayback₃, hhz, hplayback]
    · rw [hview.screen, hscreen₃, hcnt, hscreen]
    · rw [hview.playback, hplayback₃, Nat.zero_mul, Nat.add_zero]
      rfl
    · rw [hview.screen, hscreen₃, hcur, hscreen]
      dsimp only
      rw [if_pos (by omega), Nat.cast_zero, Int.mul_zero, Int.add_zero, Int.natCast_emod]
  · cases hok

/-- **A pattern in Mode 2 keeps its phase.**  Whatever the calls are late, and however often the
clock wraps, the frame is as many steps on as the clock says, none undone, and less than a period is
left over unless a call was cut short after a cycle. -/
theorem open_loop_phase (hrate : IsRate rate)
    (hstart : d.enterPatternMode env .openLoop patternId rate gain initFrame durationTicks s
      = (d', s', true))
    (hcount : 1 < s'.sd.info.frameCount) (calls : List (Env × Store)) (i : Env × Store)
    (hin : InTime (2 ^ 32) (periodUs rate) s'.sd.info.frameCount (env.call 6).time
      ((calls ++ [i]).map fun i => i.1.time)) :
    let steps (is : List (Env × Store)) : ℕ :=
      ticks (periodUs rate) s'.sd.info.frameCount (env.call 6).time (is.map fun i => i.1.time)
    let d'' := run openLoopStep d' (calls ++ [i])
    InPhase rate s'.sd.info.frameCount initFrame (env.call 6).time (steps (calls ++ [i])) d'' ∧
      steps calls ≤ steps (calls ++ [i]) ∧
      (steps (calls ++ [i]) < steps calls + s'.sd.info.frameCount →
        Telemetry.sub32 (i.1.micros 0) d''.playback.lastAdvanceUs < periodUs rate) := by
  have hphase : InPhase rate s'.sd.info.frameCount initFrame (env.call 6).time
      (ticks (periodUs rate) s'.sd.info.frameCount (env.call 6).time
        ((calls ++ [i]).map fun i => i.1.time)) (run openLoopStep d' (calls ++ [i])) :=
    run_tick (R := InPhase rate s'.sd.info.frameCount initFrame (env.call 6).time)
      (fun _ _ i h hc => h.step hrate hcount i.1 i.2 hc) (enterPatternMode_inPhase hstart hcount) hin.along
  dsimp only
  refine ⟨hphase, ?_, fun hshort => ?_⟩
  · rw [List.map_append]
    exact ticks_le _
  · rw [hphase.clock]
    rw [List.map_append] at hin hshort ⊢
    exact hin.elapsed_lt hrate.period_pos hshort

end

section

local instance phaseBoard : Board := ⟨.hw2_10⟩

/-- The time at each reading of the clock. -/
def atTime (t : ℕ) : Env := { Env.calm smallIo with us := fun _ => t }

/-- A trial of the small pattern in Mode 2, one frame back every second, begun just before the clock
wraps. -/
def backwardTrial : Display × Store × Bool :=
  (setup (.cold smallCard) (.calm smallIo)).display.enterPatternMode (atTime 4294967000) .openLoop 1 (-1)
    0 1 0 (setup (.cold smallCard) (.calm smallIo)).store

/-- Its second call comes two periods late. -/
def backwardCalls : List (Env × Store) := [(atTime 4295967000, backwardTrial.2.1)]

set_option maxRecDepth 100000 in
theorem open_loop_phase_late :
    let steps (ts : List ℕ) : ℕ := ticks 1000000 2 4294967000 ts
    let d := run openLoopStep backwardTrial.1 (backwardCalls ++ [(atTime 4297967001, backwardTrial.2.1)])
    InPhase (-1) 2 1 4294967000 (steps [4295967000, 4297967001]) d ∧
      steps [4295967000] ≤ steps [4295967000, 4297967001] ∧
      (steps [4295967000, 4297967001] < steps [4295967000] + 2 →
        Telemetry.sub32 ((atTime 4297967001).micros 0) d.playback.lastAdvanceUs < 1000000) := by
  have hcount : backwardTrial.2.1.sd.info.frameCount = 2 := by decide +kernel
  have h := open_loop_phase ⟨by decide, by decide, by decide⟩
    (eq_started (x := backwardTrial) (by decide +kernel)) (by rw [hcount]; decide) backwardCalls
    (atTime 4297967001, backwardTrial.2.1) (by rw [hcount]; exact ⟨by decide, by decide⟩)
  rw [hcount] at h
  exact h

end

/-! ### Indices of the panels' memory -/

/-- The index a PSRAM block names. -/
def blockIndex (block : List UInt8) : ℕ := ofLe ((block.drop 2).take 2)

/-- The blocks of a frame of one index. -/
theorem psramBuf_index [Board] (index : ℕ) (mode : UInt8) {p : ℕ} (hp : p < panelCountPerFrame) :
    blockIndex (panelBlock (psramBuf index (dispOpcodeWithMode cmdDispPsramOneshot mode))
      blockByteCountPsram p) = index % 2 ^ 16 := by
  refine panelBlock_eachBlock (fun _ => True) (fun b => blockIndex b = index % 2 ^ 16)
    (buildPsramIndexBlock_staysIn mode index) (fun off buf _ => ?_) (fun _ _ _ => trivial)
    (Nat.zero_le p) (by omega)
  rw [buildPsramIndexBlock_mode]
  generalize hblock : [headerVersionV2, dispOpcodeWithMode cmdDispPsramOneshot mode, UInt8.ofNat index,
    UInt8.ofNat (index / 256)] = block
  have hbytes : bytesAt (stampHeaderParity (ByteMem.store buf off block) off blockByteCountPsram)
      (off + 2) 2 = toLe 2 index := by
    have hstamp : bytesAt (stampHeaderParity (ByteMem.store buf off block) off blockByteCountPsram)
        (off + 2) 2 = bytesAt (ByteMem.store buf off block) (off + 2) 2 :=
      bytesAt_congr fun i hi _ => stampHeaderParity_apply_ne _ _ (by omega)
    rw [hstamp]
    have hlen : block.length = 4 := by rw [← hblock]; rfl
    have hlow : ByteMem.store buf off block (off + 2) = UInt8.ofNat index := by
      rw [store_apply_add buf off block (by omega)]
      subst hblock
      rfl
    have hhigh : ByteMem.store buf off block (off + 3) = UInt8.ofNat (index / 256) := by
      rw [store_apply_add buf off block (by omega)]
      subst hblock
      rfl
    rw [bytesAt_succ, bytesAt_succ, bytesAt_zero, hlow, hhigh]
    rfl
  have hword := bytesAt_stampHeaderParity
    (stampHeaderParity (ByteMem.store buf off block) off blockByteCountPsram) off 2
  unfold blockIndex
  rw [show blockByteCountPsram = 2 + 2 from rfl] at hbytes hword ⊢
  rw [hword]
  simp only [List.drop_succ_cons, List.drop_zero]
  rw [hbytes, List.take_of_length_le (by rw [length_toLe]), ofLe_toLe]
  rfl

section

variable [Board]

/-- A call of `servicePsramPlay`. -/
def psramStep (d : Display) (env : Env) : Display := d.servicePsramPlay env

/-- A frame whose blocks all name this index. -/
def ShowsIndex (index : ℕ) (d : Display) : Prop :=
  ∀ p < panelCountPerFrame, blockIndex (panelBlock d.screen.frameBuf blockByteCountPsram p) = index

theorem buildPsramFrame_index (env : Env) (index : ℕ) (d : Display) :
    ShowsIndex (index % 2 ^ 16) (d.buildPsramFrame env index) := by
  intro p hp
  exact psramBuf_index index d.screen.panelDispMode hp

/-- Indices from `first` on, `k` steps after the time `start`. -/
structure InCycle (first count fps start k : ℕ) (d : Display) : Prop where
  hz : d.playback.frameRateHz = toInt16 fps
  frames : d.playback.psramPlayCount = count
  origin : d.playback.psramStartIndex = first
  offset : d.playback.psramPlayOffset = k % count
  clock : d.playback.lastAdvanceUs = (start + k * (1000000 / fps)) % 2 ^ 32
  shown : ShowsIndex ((first + k % count) % 2 ^ 16) d

variable {first count fps start k : ℕ} {d : Display}

omit [Board] in
theorem fps_period_pos (hfps : 1 ≤ fps) (hsigned : fps < 2 ^ 15) : 0 < 1000000 / fps :=
  Nat.div_pos (by omega) (by omega)

/-- Indices that move make the steps that are due. -/
theorem servicePsramPlay_moving (hrate : d.playback.frameRateHz = fps) (hfps : 1 ≤ fps)
    (hcount : 2 ≤ d.playback.psramPlayCount) (env : Env) :
    let out := catchUp (env.micros 0) (1000000 / fps) d.playback.psramPlayCount d.playback.lastAdvanceUs
    let offset := (d.playback.psramPlayOffset + out.2) % d.playback.psramPlayCount
    d.servicePsramPlay env =
      if Telemetry.sub32 (env.micros 0) d.playback.lastAdvanceUs < 1000000 / fps then d
      else ({ d with playback := { d.playback with
          lastAdvanceUs := out.1, psramPlayOffset := offset } } : Display).buildPsramFrame (env.call 1)
        ((d.playback.psramStartIndex + offset) % 2 ^ 16) := by
  have hmoving : ¬ (d.playback.frameRateHz ≤ 0 ∨ d.playback.psramPlayCount ≤ 1) := by
    rw [hrate]
    rintro (hzero | hone) <;> omega
  have hperiod : d.playback.frameRateHz.natAbs = fps := by
    rw [hrate, Int.natAbs_natCast]
  unfold servicePsramPlay
  dsimp only
  rw [if_neg hmoving, hperiod]

/-- **One call** makes the steps that are due. -/
theorem InCycle.step (h : InCycle first count fps start k d) (hfps : 1 ≤ fps) (hsigned : fps < 2 ^ 15)
    (hcount : 2 ≤ count) (env : Env) (hcurrent : Current (2 ^ 32) (1000000 / fps) start k env.time) :
    InCycle first count fps start (tick (1000000 / fps) count start k env.time)
      (d.servicePsramPlay env) := by
  have hp := fps_period_pos hfps hsigned
  obtain ⟨hhz, rfl, rfl, hoffset, hclock, hshown⟩ := h
  have hrate : d.playback.frameRateHz = fps := by
    rw [hhz]
    unfold toInt16
    rw [if_pos hsigned]
  have helapsed : Telemetry.sub32 (env.micros 0) d.playback.lastAdvanceUs
      = env.time - (start + k * (1000000 / fps)) := by
    rw [hclock]
    exact elapsed_mod hcurrent.1 hcurrent.2
  have hstep := servicePsramPlay_moving hrate hfps hcount env
  dsimp only at hstep
  rw [helapsed, hclock, show env.micros 0 = env.time % 2 ^ 32 from rfl, catchUp_tick hp hcurrent] at hstep
  rw [hstep]
  by_cases hearly : env.time - (start + k * (1000000 / fps)) < 1000000 / fps
  · rw [if_pos hearly, tick_of_early hearly]
    exact ⟨hhz, rfl, rfl, hoffset, hclock, hshown⟩
  · have hnext : (d.playback.psramPlayOffset + due (1000000 / fps) d.playback.psramPlayCount start k env.time)
        % d.playback.psramPlayCount
        = tick (1000000 / fps) d.playback.psramPlayCount start k env.time % d.playback.psramPlayCount := by
      rw [hoffset, Nat.mod_add_mod]
      rfl
    rw [if_neg hearly, hnext]
    refine ⟨hhz, rfl, rfl, rfl, rfl, ?_⟩
    have hshows := buildPsramFrame_index (env.call 1) ((d.playback.psramStartIndex
      + tick (1000000 / fps) d.playback.psramPlayCount start k env.time % d.playback.psramPlayCount) % 2 ^ 16)
    rw [Nat.mod_mod] at hshows
    exact hshows _

/-- After each call the blocks name the index that the periods that are over say, no step is undone,
and less than a period is left over unless the call was cut short after a cycle. -/
def AutoAdvances (first count fps start : ℕ) (d : Display) : Prop :=
  ∀ (calls : List Env) (i : Env),
    InTime (2 ^ 32) (1000000 / fps) count start ((calls ++ [i]).map Env.time) →
    let steps (is : List Env) : ℕ := ticks (1000000 / fps) count start (is.map Env.time)
    let d' := run psramStep d (calls ++ [i])
    ShowsIndex ((first + steps (calls ++ [i]) % count) % 2 ^ 16) d' ∧
      steps calls ≤ steps (calls ++ [i]) ∧
      (steps (calls ++ [i]) < steps calls + count →
        Telemetry.sub32 (i.micros 0) d'.playback.lastAdvanceUs < 1000000 / fps)

/-- Indices that have started are at the first of them. -/
theorem psramPlay_inCycle (env : Env) (first : ℕ) (hcount : 2 ≤ count) (fps : ℕ) (d : Display) :
    InCycle first count fps (env.us [2]) 0 (d.psramPlay env first count fps).1 := by
  obtain ⟨hscreen, hplayback, -⟩ := psramPlay_view env d first count fps
  refine ⟨?_, ?_, ?_, ?_, ?_, ?_⟩
  · rw [hplayback]
  · rw [hplayback]
    exact if_neg (by omega)
  · rw [hplayback]
  · rw [hplayback, Nat.zero_mod]
  · rw [hplayback, Nat.zero_mul, Nat.add_zero]
    rfl
  · unfold ShowsIndex
    rw [hscreen, Nat.zero_mod, Nat.add_zero]
    exact buildPsramFrame_index (env.call 0) first d

theorem InCycle.autoAdvances (h : InCycle first count fps start 0 d) (hfps : 1 ≤ fps)
    (hsigned : fps < 2 ^ 15) (hcount : 2 ≤ count) : AutoAdvances first count fps start d := by
  intro calls i hin
  have hcycle : InCycle first count fps start
      (ticks (1000000 / fps) count start ((calls ++ [i]).map Env.time))
      (run psramStep d (calls ++ [i])) :=
    run_tick (R := InCycle first count fps start)
      (fun _ _ i h hc => h.step hfps hsigned hcount i hc) h hin.along
  dsimp only
  refine ⟨hcycle.shown, ?_, fun hshort => ?_⟩
  · rw [List.map_append]
    exact ticks_le _
  · rw [hcycle.clock]
    rw [List.map_append] at hin hshort ⊢
    exact hin.elapsed_lt (fps_period_pos hfps hsigned) hshort

/-- **A rate that does not fit stands still**: the first period that is over makes no step. -/
theorem InCycle.stands (h : InCycle first count fps start 0 d) (hunsigned : 2 ^ 15 ≤ fps) (hfps : fps < 2 ^ 16) (hcount : 2 ≤ count) :
    ¬ AutoAdvances first count fps start d := by
  intro hadvances
  have hp : 0 < 1000000 / fps := Nat.div_pos (by omega) (by omega)
  have hsmall : 1000000 / fps < 2 ^ 32 := Nat.lt_of_le_of_lt (Nat.div_le_self ..) (by decide)
  obtain ⟨i, hi⟩ : ∃ i : Env, i.time = start + 1000000 / fps :=
    ⟨{ Env.calm smallIo with us := fun _ => start + 1000000 / fps }, rfl⟩
  have hone : ticks (1000000 / fps) count start [start + 1000000 / fps] = 1 := by
    have hdue : due (1000000 / fps) count start 0 (start + 1000000 / fps) = 1 := by
      unfold due
      rw [Nat.zero_mul, Nat.add_zero, Nat.add_sub_cancel_left, Nat.div_self hp]
      omega
    change 0 + due (1000000 / fps) count start 0 (start + 1000000 / fps) = 1
    rw [hdue]
  have hin : InTime (2 ^ 32) (1000000 / fps) count start [start + 1000000 / fps] := by
    refine ⟨?_, ?_, trivial⟩
    · simp
    · omega
  have hstill : psramStep d i = d := by
    unfold psramStep servicePsramPlay
    refine if_pos (.inl ?_)
    rw [h.hz]
    unfold toInt16
    rw [if_neg (by omega)]
    omega
  have hshows := (hadvances [] i (by rw [List.nil_append, List.map_singleton, hi]; exact hin)).1
  dsimp only at hshows
  rw [List.nil_append, List.map_singleton, hi, hone, run_cons, run_nil, hstill] at hshows
  have hbefore := h.shown 0 panelCountPerFrame_pos
  have hafter := hshows 0 panelCountPerFrame_pos
  rw [hbefore, Nat.zero_mod, Nat.mod_eq_of_lt (show 1 < count by omega)] at hafter
  omega

/-- **Indices advance by the clock just when the rate fits into 15 bits.** -/
theorem psram_play_phase (env : Env) (data : Mem) (d : Display) (haccept : 6 ≤ paramLen data)
    (hcount : 2 ≤ wordAt data 4 2) (hfps : 1 ≤ wordAt data 6 2) :
    AutoAdvances (wordAt data 2 2) (wordAt data 4 2) (wordAt data 6 2) (env.us [2])
      (d.handlePsramPlay env data).1 ↔ wordAt data 6 2 < 2 ^ 15 := by
  have hword (off : ℕ) : wordAt data off 2 < 2 ^ 16 := by
    have := ofLe_lt (bytesAt data off 2)
    rwa [length_bytesAt] at this
  have hcycle := psramPlay_inCycle env (wordAt data 2 2) hcount (wordAt data 6 2) d
  unfold handlePsramPlay
  rw [if_neg (by omega)]
  constructor
  · intro hadvances
    by_contra hunsigned
    exact hcycle.stands (by omega) (hword 6) hcount hadvances
  · intro hsigned
    exact hcycle.autoAdvances hfps hsigned hcount

end

section

local instance cycleBoard : Board := ⟨.hw10_10⟩

/-- `PSRAM_PLAY` from the index 65535 on, of three indices at a rate. -/
def psramData (fps : ℕ) : Mem :=
  ByteMem.store (fun _ => 0) 0 ([7, Link.psramPlayCmd, 0xFF, 0xFF, 3, 0] ++ toLe 2 fps)

def psramStart (fps : ℕ) : Display :=
  ((setup (.cold Sd.sampleCard) (.calm Sd.goodIo)).display.handlePsramPlay (.calm Sd.goodIo)
    (psramData fps)).1

theorem psram_play_phase_50 : AutoAdvances 65535 3 50 0 (psramStart 50) :=
  (psram_play_phase (.calm Sd.goodIo) (psramData 50) _ (by decide) (by decide) (by decide)).2 (by decide)

/-- At 40000 Hz the index stands still. -/
theorem psram_play_stands : ¬ AutoAdvances 65535 3 40000 0 (psramStart 40000) := by
  intro hadvances
  have h := (hadvances [] (atTime 25) ⟨by decide, by decide, trivial⟩).1 0 (by decide)
  revert h
  decide +kernel

end

end Display

end Command
end G6Arena
