/-
# The table of the analog output

`SET_AO_LUT` checks each level and stores it in the table that is playing, one after another: a
level that is out of range ends the command, with the levels before it stored (`storeLut_apply`).
The playback of the table reads its entries below `ao_lut_len_` alone, so two tables that agree
there give the same levels on the output, service after service (`run_sameOutputs`).

A command that is refused leaves the playback just when it stores nothing new below that length
(`refused_ao_lut`).
-/

import G6Arena.Command.Deadline

namespace G6Arena
namespace Command

open ByteMem Machine
open Sd (ControllerError Store)

/-! ### Tables that play alike -/

namespace AnalogOut

/-- A table of other levels. -/
def withTable (lut : ℕ → ℕ) (ao : AnalogOut) : AnalogOut := { ao with lut := lut }

/-- Tables that agree as far as they are read. -/
def Agrees (ao : AnalogOut) (lut : ℕ → ℕ) : Prop := ∀ i < ao.lutLen, lut i = ao.lut i

/-- The same table, as long. -/
def Keeps (ao ao' : AnalogOut) : Prop := ao'.lut = ao.lut ∧ ao'.lutLen = ao.lutLen

variable {ao ao' : AnalogOut} {lut : ℕ → ℕ}

theorem Agrees.kept (h : ao.Agrees lut) (hkeeps : ao.Keeps ao') : ao'.Agrees lut := by
  intro i hi
  rw [hkeeps.2] at hi
  rw [hkeeps.1]
  exact h i hi

theorem writeDacMv_keeps (ok : Bool) (mv : ℕ) (ao : AnalogOut) :
    ao.Keeps (Display.writeDacMv ok mv ao).1 := by
  unfold Display.writeDacMv
  split_ifs <;> exact ⟨rfl, rfl⟩

theorem writeDacMv_withTable (ok : Bool) (mv : ℕ) (ao : AnalogOut) :
    Display.writeDacMv ok mv (ao.withTable lut)
      = ((Display.writeDacMv ok mv ao).1.withTable lut, (Display.writeDacMv ok mv ao).2) := by
  unfold Display.writeDacMv
  split_ifs <;> rfl

theorem applyAoLut_keeps (ok : Bool) (idx : ℕ) (ao : AnalogOut) :
    ao.Keeps (Display.applyAoLut ok idx ao).1 := by
  unfold Display.applyAoLut
  split_ifs
  · exact ⟨rfl, rfl⟩
  · exact writeDacMv_keeps ..

/-- An entry of the table on the output. -/
theorem Agrees.applyAoLut (h : ao.Agrees lut) (ok : Bool) (idx : ℕ) :
    Display.applyAoLut ok idx (ao.withTable lut)
      = ((Display.applyAoLut ok idx ao).1.withTable lut, (Display.applyAoLut ok idx ao).2) := by
  unfold Display.applyAoLut
  by_cases hempty : ao.lutLen = 0
  · rw [if_pos hempty]
    exact if_pos hempty
  · have hentry : (ao.withTable lut).lut (idx % ao.lutLen) = ao.lut (idx % ao.lutLen) :=
      h _ (Nat.mod_lt _ (by omega))
    rw [if_neg hempty, ← hentry, ← writeDacMv_withTable]
    exact if_neg hempty

theorem deriveOutputs_keeps (ok : Bool) (frameIndex frameCount : ℕ) (ao : AnalogOut) :
    ao.Keeps (Display.deriveOutputs ok frameIndex frameCount ao).1 := by
  unfold Display.deriveOutputs
  split_ifs
  · exact writeDacMv_keeps ..
  · exact applyAoLut_keeps ..
  · exact ⟨rfl, rfl⟩

/-- The outputs of a frame. -/
theorem Agrees.deriveOutputs (h : ao.Agrees lut) (ok : Bool) (frameIndex frameCount : ℕ) :
    Display.deriveOutputs ok frameIndex frameCount (ao.withTable lut)
      = ((Display.deriveOutputs ok frameIndex frameCount ao).1.withTable lut,
        (Display.deriveOutputs ok frameIndex frameCount ao).2) := by
  unfold Display.deriveOutputs
  by_cases hnumber : ao.mode = 1
  · rw [if_pos hnumber, ← writeDacMv_withTable]
    exact if_pos hnumber
  · rw [if_neg hnumber]
    refine (if_neg hnumber).trans ?_
    by_cases hlocked : 0 < ao.lutLen ∧ ao.lutMode = 0
    · have hmoved : Agrees { ao with lutIdx := frameIndex % ao.lutLen } lut := h
      rw [if_pos hlocked]
      exact (if_pos hlocked).trans (hmoved.applyAoLut ok _)
    · rw [if_neg hlocked]
      exact if_neg hlocked

end AnalogOut

namespace Display

/-- The display with a table of other levels, and its frame cache dropped or not. -/
def withTable (lut : ℕ → ℕ) (cached : Bool) (d : Display) : Display :=
  { d with ao := d.ao.withTable lut, screen := { d.screen with sdCacheOk := cached } }

section

variable (env : Env) (lut : ℕ → ℕ) (cached : Bool) (d : Display)

/-! ### What does not read the table -/

theorem flushOpenReads_withTable (c : Telemetry.Clock) :
    (d.withTable lut cached).flushOpenReads c = (d.flushOpenReads c).withTable lut cached := by
  unfold flushOpenReads withTable
  dsimp only
  split_ifs <;> rfl

theorem armRefreshTimer_withTable (hz : ℕ) : ((d.withTable lut cached).armRefreshTimer env hz).1
    = (d.armRefreshTimer env hz).1.withTable lut cached := by
  unfold armRefreshTimer withTable
  dsimp only
  split_ifs <;> rfl

theorem noteSlowRead_withTable (tSd : ℕ) (err : ControllerError) :
    (d.withTable lut cached).noteSlowRead env tSd err
      = (d.noteSlowRead env tSd err).withTable lut cached := by
  unfold noteSlowRead
  split_ifs <;> rfl

theorem countRead_withTable (err : ControllerError) :
    (d.withTable lut cached).countRead env err = (d.countRead env err).withTable lut cached := by
  unfold countRead
  dsimp only
  rw [← noteSlowRead_withTable]
  congr 1
  unfold withTable
  dsimp only
  split_ifs <;> rfl

section

variable [Board]

theorem transferFrame_withTable :
    (d.withTable lut cached).transferFrame = d.transferFrame.withTable lut cached := by
  unfold transferFrame withTable
  dsimp only
  split_ifs <;> rfl

theorem enterAllOff_withTable :
    (d.withTable lut cached).enterAllOff env = (d.enterAllOff env).withTable lut false := by
  have hdark : (d.withTable lut cached).disarmRefreshTimer.fillFrameBufferDark (env.call 0)
      = (d.disarmRefreshTimer.fillFrameBufferDark (env.call 0)).withTable lut false := rfl
  unfold enterAllOff
  dsimp only
  rw [hdark, transferFrame_withTable, transferFrame_withTable, transferFrame_withTable]
  generalize (d.disarmRefreshTimer.fillFrameBufferDark (env.call 0)).transferFrame.transferFrame.transferFrame
    = d₁
  have hflush := flushOpenReads_withTable lut false (({ d₁ with screen := { d₁.screen with
    state := .allOff, frameByteCount := 0 } } : Display).note (env.clock 1) Telemetry.stStateChange
      ArenaState.allOff.toByte d₁.screen.patternId) (env.clock 2)
  exact congrArg (fun d : Display => { d with screen := { d.screen with trialDuty := 0 } }) hflush

theorem showError_withTable (code : ControllerError) :
    (d.withTable lut cached).showError env code = (d.showError env code).withTable lut false := by
  unfold showError
  dsimp only
  rw [← armRefreshTimer_withTable]
  rfl

/-- `transmitOnRefresh`, once the frame is sent. -/
def notePresented (env : Env) (d : Display) : Display :=
  let d := { d with marks := { d.marks with bufPresented := true } }
  if d.screen.curFrameIndex ≠ d.marks.telLastFrame ∨ d.screen.patternId ≠ d.marks.telLastPattern then
    { d with
      marks := { d.marks with
        telLastFrame := d.screen.curFrameIndex
        telLastPattern := d.screen.patternId
        supersededPending := 0 }
      tel := Telemetry.frame (env.clock 1) (env.micros 0) d.screen.curFrameIndex d.screen.patternId
        d.health.lastSdReadUs (Telemetry.sub32 (env.micros 2) (env.micros 0))
        (Telemetry.sub32 (env.micros 0) d.marks.frameReqUs) (UInt8.ofNat d.marks.supersededPending)
        d.marks.frameSrcFlags d.tel }
  else d

theorem transmitOnRefresh_eq : d.transmitOnRefresh env =
    if d.refresh.refreshFlag then
      notePresented env
        ({ d with refresh := { d.refresh with refreshFlag := false } } : Display).transferFrame
    else d := rfl

omit [Board] in
theorem notePresented_withTable : (d.withTable lut cached).notePresented env
    = (d.notePresented env).withTable lut cached := by
  unfold notePresented withTable
  dsimp only
  split_ifs <;> rfl

theorem transmitOnRefresh_withTable : (d.withTable lut cached).transmitOnRefresh env
    = (d.transmitOnRefresh env).withTable lut cached := by
  rw [transmitOnRefresh_eq, transmitOnRefresh_eq]
  by_cases hflag : d.refresh.refreshFlag = true
  · rw [if_pos hflag, ← notePresented_withTable, ← transferFrame_withTable]
    exact if_pos hflag
  · rw [if_neg hflag]
    exact if_neg hflag

end

end

/-! ### The playback -/

section

variable [Board] {env : Env} {store : Store} {lut : ℕ → ℕ} {d d' : Display} {cached : Bool}

/-- Two displays that differ in what the playback of the table does not read. -/
def SameOutputs (d d' : Display) : Prop :=
  ∃ lut cached, d.ao.Agrees lut ∧ d' = d.withTable lut cached

omit [Board] in
theorem SameOutputs.of_withTable (cached : Bool) (h : d.ao.Agrees lut) {d₁ : Display}
    (hkeeps : d.ao.Keeps d₁.ao) : SameOutputs d₁ (d₁.withTable lut cached) :=
  ⟨lut, cached, h.kept hkeeps, rfl⟩

omit [Board] in
theorem SameOutputs.ite {p : Prop} [Decidable p] {a a' b b' : Display} (ha : p → SameOutputs a a')
    (hb : ¬ p → SameOutputs b b') : SameOutputs (if p then a else b) (if p then a' else b') := by
  split_ifs with h
  · exact ha h
  · exact hb h

omit [Board] in
theorem patch_withCache (s : Screen) (cached : Bool) :
    ({ s with sdCacheOk := cached } : Screen).patchDispMode.patchTrialDuty
      = { s.patchDispMode.patchTrialDuty with sdCacheOk := cached } := by
  unfold Screen.patchTrialDuty Screen.patchDispMode Screen.blockCount
  split_ifs <;> rfl

/-- A frame that is accepted, patched, with the outputs derived from it. -/
def accepted (store : Store) (s : Screen) (out : AnalogOut × Bool) (d : Display) : Display :=
  { d with
    screen := { s with sdCacheOk := out.2 }
    marks := { d.marks with
      frameSrcFlags := kFrameFlagSdRead ||| (if store.sd.contiguous then kFrameFlagContiguous else 0) }
    ao := out.1 }

omit [Board] in
theorem acceptFrame_eq (d : Display) (frameIndex : ℕ) : d.acceptFrame env store frameIndex
    = d.accepted store ({ d.screen with
          frameByteCount := frameBytes store.sd.info.numPanels d.screen.blockByteCount
          frameBufIsFrame := true } : Screen).patchDispMode.patchTrialDuty
        (Display.deriveOutputs (env.wire [0]) frameIndex d.screen.frameCount d.ao) := rfl

omit [Board] in
theorem acceptFrame_withTable (h : d.ao.Agrees lut) (frameIndex : ℕ) :
    (d.withTable lut cached).acceptFrame env store frameIndex
      = (d.acceptFrame env store frameIndex).withTable lut
          (d.acceptFrame env store frameIndex).screen.sdCacheOk := by
  have hpatch := patch_withCache { d.screen with
    frameByteCount := frameBytes store.sd.info.numPanels d.screen.blockByteCount
    frameBufIsFrame := true } cached
  have hout := h.deriveOutputs (env.wire [0]) frameIndex d.screen.frameCount
  rw [acceptFrame_eq, acceptFrame_eq]
  unfold withTable
  dsimp only at hpatch ⊢
  rw [hpatch, hout]
  rfl

omit [Board] in
theorem acceptFrame_keeps (d : Display) (frameIndex : ℕ) :
    d.ao.Keeps (d.acceptFrame env store frameIndex).ao := by
  rw [acceptFrame_ao]
  exact AnalogOut.deriveOutputs_keeps ..

/-- `loadFrame` up to the outcome of the read. -/
def afterRead (env : Env) (bytes : List UInt8) (err : ControllerError) (d : Display) : Display :=
  countRead (env.call 1) err { d.beginLoad (env.call 0) with screen := {
    (d.beginLoad (env.call 0)).screen with
      frameBuf := ByteMem.store (d.beginLoad (env.call 0)).screen.frameBuf 0 bytes } }

theorem loadFrame_of_read {frameIndex : ℕ} {bytes : List UInt8} {err : ControllerError}
    (hread : store.readFrame env.sd frameIndex frameBufByteCountMax = (bytes, err)) (d : Display) :
    d.loadFrame env store frameIndex =
      if err ≠ .ceNone then ((d.afterRead env bytes err).showError (env.call 2) err, false)
      else ((d.afterRead env bytes err).acceptFrame (env.call 3) store frameIndex, true) := by
  unfold loadFrame
  rw [hread]
  rfl

omit [Board] in
theorem afterRead_withTable (bytes : List UInt8) (err : ControllerError) :
    (d.withTable lut cached).afterRead env bytes err = (d.afterRead env bytes err).withTable lut cached := by
  have h := countRead_withTable (env.call 1) lut cached { d.beginLoad (env.call 0) with screen := {
    (d.beginLoad (env.call 0)).screen with
      frameBuf := ByteMem.store (d.beginLoad (env.call 0)).screen.frameBuf 0 bytes } } err
  exact h

omit [Board] in
theorem afterRead_ao (bytes : List UInt8) (err : ControllerError) : (d.afterRead env bytes err).ao = d.ao :=
  (countRead_sameView ..).ao

/-- A frame of the pattern. -/
theorem loadFrame_sameOutputs (h : SameOutputs d d') (frameIndex : ℕ) :
    SameOutputs (d.loadFrame env store frameIndex).1 (d'.loadFrame env store frameIndex).1 := by
  obtain ⟨lut, cached, hagrees, rfl⟩ := h
  generalize hread : store.readFrame env.sd frameIndex frameBufByteCountMax = r
  obtain ⟨bytes, err⟩ := r
  have hkept : (d.afterRead env bytes err).ao.Agrees lut := by
    rw [afterRead_ao]
    exact hagrees
  rw [loadFrame_of_read hread, loadFrame_of_read hread, afterRead_withTable]
  generalize d.afterRead env bytes err = d₁ at hkept ⊢
  split_ifs
  · rw [showError_withTable]
    exact .of_withTable false hkept ⟨by rw [showError_ao], by rw [showError_ao]⟩
  · rw [acceptFrame_withTable hkept]
    exact .of_withTable _ hkept (acceptFrame_keeps ..)

/-- The table one entry on. -/
def ticked (ao : AnalogOut) : AnalogOut :=
  { ao with
    lutLastUs := (ao.lutLastUs + 1000000 / ao.lutStepHz) % 2 ^ 32
    lutIdx := (ao.lutIdx + 1) % ao.lutLen }

omit [Board] in
theorem serviceAoLut_eq (d : Display) : d.serviceAoLut env =
    if 0 < d.ao.lutLen ∧ d.ao.lutMode = 1 ∧ 0 < d.ao.lutStepHz then
      if 1000000 / d.ao.lutStepHz ≤ Telemetry.sub32 (env.micros 0) d.ao.lutLastUs then
        { d with ao := (Display.applyAoLut (env.wire [1]) (ticked d.ao).lutIdx (ticked d.ao)).1 }
      else d
    else d := rfl

omit [Board] in
/-- A step of the time-based table. -/
theorem serviceAoLut_sameOutputs (h : SameOutputs d d') :
    SameOutputs (d.serviceAoLut env) (d'.serviceAoLut env) := by
  have hsame := h
  obtain ⟨lut, cached, hagrees, rfl⟩ := h
  have hticked : (ticked d.ao).Agrees lut := hagrees
  have hstep := hticked.applyAoLut (env.wire [1]) (ticked d.ao).lutIdx
  have hkeeps := AnalogOut.applyAoLut_keeps (env.wire [1]) (ticked d.ao).lutIdx (ticked d.ao)
  rw [serviceAoLut_eq, serviceAoLut_eq]
  refine .ite (fun _ => .ite (fun _ => ?_) fun _ => hsame) fun _ => hsame
  refine ⟨lut, cached, hticked.kept hkeeps, ?_⟩
  change { d.withTable lut cached with ao := (Display.applyAoLut (env.wire [1]) (ticked d.ao).lutIdx
    ((ticked d.ao).withTable lut)).1 } = _
  rw [hstep]
  rfl

/-- The pattern at the frame the input of the closed loop asks for. -/
def placed (env : Env) (d : Display) : Display :=
  { d with screen := { d.screen with curFrameIndex :=
      (((d.screen.curFrameIndex : ℤ) + env.accumSteps) % (d.screen.frameCount : ℤ)).toNat } }

/-- A sample of that input. -/
def sampled (env : Env) (d : Display) : Display :=
  { d with playback := { d.playback with lastSampleUs := env.micros 0 } }

theorem serviceClosedLoop_eq (d : Display) : d.serviceClosedLoop env store =
    if d.screen.frameCount = 0 then d
    else if Telemetry.sub32 (env.micros 0) d.playback.lastSampleUs < mode4SamplePeriodUs then d
    else if env.accumSteps = 0 then d.sampled env
    else (((d.sampled env).placed env).loadFrame (env.call 1) store
      ((d.sampled env).placed env).screen.curFrameIndex).1 := rfl

theorem servicePsramPlay_eq (d : Display) : d.servicePsramPlay env =
    let out := catchUp (env.micros 0) (1000000 / d.playback.frameRateHz.natAbs) d.playback.psramPlayCount
      d.playback.lastAdvanceUs
    let offset := (d.playback.psramPlayOffset + out.2) % d.playback.psramPlayCount
    if d.playback.frameRateHz ≤ 0 ∨ d.playback.psramPlayCount ≤ 1 then d
    else if Telemetry.sub32 (env.micros 0) d.playback.lastAdvanceUs
        < 1000000 / d.playback.frameRateHz.natAbs then d
    else ({ d with playback := { d.playback with
        lastAdvanceUs := out.1, psramPlayOffset := offset } } : Display).buildPsramFrame (env.call 1)
      ((d.playback.psramStartIndex + offset) % 2 ^ 16) := rfl

/-- A pattern that moves on. -/
theorem advance_sameOutputs (env : Env) (store : Store) (h : SameOutputs d d') :
    SameOutputs (d.advance env store) (d'.advance env store) := by
  have hsame := h
  obtain ⟨lut, cached, hagrees, rfl⟩ := h
  have hstate : (d.withTable lut cached).screen.state = d.screen.state := rfl
  unfold advance
  rw [hstate]
  cases d.screen.state with
  | openLoop =>
    have hmoved (last steps : ℕ) : SameOutputs (d.stepped last steps)
        ((d.withTable lut cached).stepped last steps) := ⟨lut, cached, hagrees, rfl⟩
    dsimp only
    rw [serviceOpenLoop_eq, serviceOpenLoop_eq]
    exact .ite (fun _ => hsame) fun _ => .ite (fun _ => hsame) fun _ =>
      loadFrame_sameOutputs (hmoved _ _) _
  | closedLoop =>
    have hsampled : SameOutputs (d.sampled env) ((d.withTable lut cached).sampled env) :=
      ⟨lut, cached, hagrees, rfl⟩
    have hplaced : SameOutputs ((d.sampled env).placed env)
        (((d.withTable lut cached).sampled env).placed env) := ⟨lut, cached, hagrees, rfl⟩
    dsimp only
    rw [serviceClosedLoop_eq, serviceClosedLoop_eq]
    exact .ite (fun _ => hsame) fun _ => .ite (fun _ => hsame) fun _ =>
      .ite (fun _ => hsampled) fun _ => loadFrame_sameOutputs hplaced _
  | psramPlay =>
    dsimp only
    rw [servicePsramPlay_eq, servicePsramPlay_eq]
    exact .ite (fun _ => hsame) fun _ => .ite (fun _ => hsame) fun _ => ⟨lut, false, hagrees, rfl⟩
  | allOff | allOn | streamingFrame | showFrame | errorDisplay => exact hsame

theorem enterAllOff_sameOutputs (env : Env) (h : SameOutputs d d') :
    SameOutputs (d.enterAllOff env) (d'.enterAllOff env) := by
  obtain ⟨lut, cached, hagrees, rfl⟩ := h
  rw [enterAllOff_withTable]
  exact .of_withTable false hagrees ⟨by rw [enterAllOff_ao], by rw [enterAllOff_ao]⟩

theorem transmitOnRefresh_sameOutputs (env : Env) (h : SameOutputs d d') :
    SameOutputs (d.transmitOnRefresh env) (d'.transmitOnRefresh env) := by
  obtain ⟨lut, cached, hagrees, rfl⟩ := h
  have hao := (transmitOnRefresh_view env d).2.2.1
  rw [transmitOnRefresh_withTable]
  exact .of_withTable cached hagrees ⟨by rw [hao], by rw [hao]⟩

theorem serviceTrialTimer_sameOutputs (env : Env) (h : SameOutputs d d') :
    SameOutputs (d.serviceTrialTimer env) (d'.serviceTrialTimer env) := by
  have hsame := h
  obtain ⟨lut, cached, hagrees, rfl⟩ := h
  unfold serviceTrialTimer
  exact .ite (fun _ => hsame) fun _ => .ite (fun _ => hsame) fun _ =>
    enterAllOff_sameOutputs _ ⟨lut, cached, hagrees, rfl⟩

/-- **One service of the display.** -/
theorem serviceDisplay_sameOutputs (env : Env) (store : Store) (h : SameOutputs d d') :
    SameOutputs (d.serviceDisplay env store) (d'.serviceDisplay env store) := by
  have htimers : SameOutputs (d.serviceTimers env) (d'.serviceTimers env) :=
    serviceTrialTimer_sameOutputs _ (serviceAoLut_sameOutputs h)
  unfold serviceDisplay
  dsimp only
  generalize d.serviceTimers env = d₁ at htimers
  generalize d'.serviceTimers env = d₁' at htimers
  have hsame := htimers
  have hshown := transmitOnRefresh_sameOutputs (env.call 3)
    (advance_sameOutputs (env.call 2) store htimers)
  obtain ⟨lut, cached, hagrees, rfl⟩ := htimers
  generalize (d₁.advance (env.call 2) store).transmitOnRefresh (env.call 3) = d₂ at hshown
  generalize ((d₁.withTable lut cached).advance (env.call 2) store).transmitOnRefresh (env.call 3) = d₂'
    at hshown
  refine .ite (fun _ => hsame) fun _ => ?_
  have hsame' := hshown
  obtain ⟨lut', cached', hagrees', rfl⟩ := hshown
  exact .ite (fun _ => enterAllOff_sameOutputs _ hsame') fun _ => hsame'

/-- **Services, one after another.** -/
theorem run_sameOutputs (h : SameOutputs d d') (calls : List (Env × Store)) :
    SameOutputs (run displayStep d calls) (run displayStep d' calls) := by
  induction calls generalizing d d' with
  | nil => exact h
  | cons i calls ih => exact ih (serviceDisplay_sameOutputs i.1 i.2 h)

end

/-! ### The levels of a command -/

/-- The `i`-th level of a `SET_AO_LUT`. -/
def lutLevel (data : Mem) (i : ℕ) : ℕ := wordAt data (7 + 2 * i) 2

/-- The command gets to its `j`-th level, from the `i`-th of `n` on. -/
def StoresLevel (data : Mem) (i n j : ℕ) : Prop :=
  i ≤ j ∧ j < i + n ∧ ∀ k, i ≤ k → k ≤ j → lutLevel data k ≤ 5000

section

variable {data : Mem} {i n j : ℕ} {lut : ℕ → ℕ}

theorem StoresLevel.tail (h : StoresLevel data (i + 1) n j) (hfirst : lutLevel data i ≤ 5000) :
    StoresLevel data i (n + 1) j := by
  refine ⟨by have := h.1; omega, by have := h.2.1; omega, fun k hik hkj => ?_⟩
  rcases Nat.eq_or_lt_of_le hik with rfl | hlt
  · exact hfirst
  · exact h.2.2 k hlt hkj

theorem StoresLevel.next (h : StoresLevel data i (n + 1) j) (hne : j ≠ i) :
    StoresLevel data (i + 1) n j :=
  ⟨by have := h.1; omega, by have := h.2.1; omega, fun k hik hkj => h.2.2 k (by omega) hkj⟩

/-- A level that the command does not get to is left. -/
theorem storeLut_of_not (h : ¬ StoresLevel data i n j) : (storeLut data i n lut).1 j = lut j := by
  induction n generalizing i lut with
  | zero => rfl
  | succ n ih =>
    unfold storeLut
    dsimp only
    split_ifs with hlarge
    · rfl
    · have hfirst : lutLevel data i ≤ 5000 := Nat.le_of_not_lt hlarge
      rw [ih fun hnext => h (hnext.tail hfirst)]
      refine Function.update_of_ne ?_ ..
      rintro rfl
      refine h ⟨le_rfl, by omega, fun k hik hkj => ?_⟩
      rw [show k = j by omega]
      exact hfirst

/-- A level that the command gets to is stored. -/
theorem storeLut_of_stores (h : StoresLevel data i n j) :
    (storeLut data i n lut).1 j = lutLevel data j := by
  induction n generalizing i lut with
  | zero => exact absurd h.2.1 (by have := h.1; omega)
  | succ n ih =>
    have hfirst : ¬ 5000 < wordAt data (7 + 2 * i) 2 := Nat.not_lt.2 (h.2.2 i le_rfl h.1)
    unfold storeLut
    dsimp only
    rw [if_neg hfirst]
    by_cases hne : j = i
    · subst hne
      rw [storeLut_of_not fun hnext => absurd hnext.1 (by omega)]
      exact Function.update_self ..
    · exact ih (h.next hne)

end

/-- The command is read up to its levels. -/
def ReadsLevels (data : Mem) (d : Display) : Prop :=
  6 ≤ claimedLen data ∧ d.ao.mode = 0 ∧ (data 2).toNat ≤ 1 ∧
    wordAt data 5 2 ≠ 0 ∧ wordAt data 5 2 ≤ kAoLutMaxLen ∧ 6 + wordAt data 5 2 * 2 = claimedLen data

/-- A display whose table plays on as before. -/
def PlaysOn [Board] (d d' : Display) : Prop :=
  (∃ lut, d.ao.Agrees lut ∧ d'.ao = d.ao.withTable lut) ∧
    ∀ calls, (run displayStep d' calls).ao.dacCode = (run displayStep d calls).ao.dacCode

theorem SameOutputs.playsOn [Board] {d d' : Display} (h : SameOutputs d d') : PlaysOn d d' := by
  refine ⟨?_, fun calls => ?_⟩
  · obtain ⟨lut, cached, hagrees, rfl⟩ := h
    exact ⟨lut, hagrees, rfl⟩
  · obtain ⟨lut, cached, -, heq⟩ := run_sameOutputs h calls
    rw [heq]
    rfl

/-- A command that is refused is not read up to its levels, or stores those before one that is out
of range. -/
theorem handleSetAoLut_refused {env : Env} {data : Mem} {d : Display}
    (hrefused : (d.handleSetAoLut env data).2.status = 1)
    (hbefore : (d.handleSetAoLut env data).2.payload ≠ ascii "I2C error writing LUT[0]") :
    (¬ ReadsLevels data d ∧ (d.handleSetAoLut env data).1 = d.dropFrameCache) ∨
    (ReadsLevels data d ∧ (d.handleSetAoLut env data).1
      = d.withTable (storeLut data 0 (wordAt data 5 2) d.ao.lut).1 false) := by
  by_cases hreads : ReadsLevels data d
  · refine .inr ⟨hreads, ?_⟩
    obtain ⟨hlen, hmode, hlutMode, hcount, hmax, hmatch⟩ := hreads
    unfold handleSetAoLut at hrefused hbefore ⊢
    dsimp only at hrefused hbefore ⊢
    have hrange : ¬ (wordAt data 5 2 = 0 ∨ kAoLutMaxLen < wordAt data 5 2) := by
      rintro (hzero | hlarge)
      · exact hcount hzero
      · omega
    have hfree : d.dropFrameCache.ao.mode = 0 := hmode
    rw [if_neg (by omega), if_neg (not_not.2 hfree), if_neg (by omega), if_neg hrange,
      if_neg (not_not.2 hmatch)] at hrefused hbefore ⊢
    generalize hstored : storeLut data 0 (wordAt data 5 2) d.ao.lut = stored
    obtain ⟨lut, fits⟩ := stored
    rw [show d.dropFrameCache.ao.lut = d.ao.lut from rfl, hstored] at hrefused hbefore ⊢
    cases fits with
    | false => rfl
    | true =>
      -- a table that is stored whole is answered with the outcome of the DAC
      exfalso
      unfold startAoLut at hrefused hbefore
      dsimp only at hrefused hbefore
      split at hrefused
      · next heq =>
        rw [heq] at hbefore
        exact hbefore rfl
      · exact absurd hrefused (show (0 : UInt8) ≠ 1 by decide)
  · refine .inl ⟨hreads, ?_⟩
    unfold handleSetAoLut
    dsimp only
    split_ifs with hlen hmode hlutMode hcount hmatch
    · rfl
    · rfl
    · rfl
    · rfl
    · rfl
    · refine absurd ⟨by omega, not_not.1 hmode, by omega, ?_, ?_, not_not.1 hmatch⟩ hreads
      · exact fun hzero => hcount (.inl hzero)
      · exact Nat.le_of_not_lt fun hlarge => hcount (.inr hlarge)

/-- **A table that is refused leaves the one that plays just when it stores nothing new in it.** -/
theorem refused_ao_lut [Board] (env : Env) (data : Mem) (d : Display)
    (hrefused : (d.handleSetAoLut env data).2.status = 1)
    (hbefore : (d.handleSetAoLut env data).2.payload ≠ ascii "I2C error writing LUT[0]") :
    PlaysOn d (d.handleSetAoLut env data).1 ↔
      (ReadsLevels data d → ∀ i < d.ao.lutLen, StoresLevel data 0 (wordAt data 5 2) i →
        lutLevel data i = d.ao.lut i) := by
  rcases handleSetAoLut_refused hrefused hbefore with ⟨hreads, heq⟩ | ⟨hreads, heq⟩
  · rw [heq]
    refine iff_of_true ?_ fun h => absurd h hreads
    exact SameOutputs.playsOn ⟨d.ao.lut, false, fun _ _ => rfl, rfl⟩
  · rw [heq]
    constructor
    · rintro ⟨⟨lut, hagrees, hao⟩, -⟩ - i hi hstores
      have hlut := congrArg AnalogOut.lut hao
      have hlevel : (storeLut data 0 (wordAt data 5 2) d.ao.lut).1 i = lutLevel data i :=
        storeLut_of_stores hstores
      rw [← hagrees i hi, ← hlevel]
      exact congrFun hlut i
    · intro hsame
      refine SameOutputs.playsOn ⟨_, false, fun i hi => ?_, rfl⟩
      by_cases hstores : StoresLevel data 0 (wordAt data 5 2) i
      · rw [storeLut_of_stores hstores, hsame hreads i hi hstores]
      · exact storeLut_of_not hstores

section

local instance tableBoard : Board := ⟨.hw10_10⟩

/-- `SET_AO_LUT` of these levels, frame-locked. -/
def lutData (levels : List ℕ) : Mem :=
  ByteMem.store (fun _ => 0) 0 ([UInt8.ofNat (6 + 2 * levels.length), Link.setAoLutCmd, 0, 0, 0]
    ++ toLe 2 levels.length ++ levels.flatMap (toLe 2))

/-- A table of two levels that plays. -/
def playingTable : Display :=
  ((setup (.cold Sd.sampleCard) (.calm Sd.goodIo)).display.handleSetAoLut (.calm Sd.goodIo)
    (lutData [1000, 2000])).1

theorem refused_ao_lut_first : PlaysOn playingTable
    (playingTable.handleSetAoLut (.calm Sd.goodIo) (lutData [6000, 3000])).1 := by
  refine (refused_ao_lut (.calm Sd.goodIo) (lutData [6000, 3000]) playingTable (by decide +kernel)
    (by decide +kernel)).2 fun _ i _ hstores => ?_
  have hlarge := hstores.2.2 0 le_rfl hstores.1
  exact absurd hlarge (by decide)

/-- The level before the one that is out of range is stored. -/
theorem refused_ao_lut_second : ¬ PlaysOn playingTable
    (playingTable.handleSetAoLut (.calm Sd.goodIo) (lutData [3000, 6000])).1 := by
  rintro ⟨⟨lut, hagrees, hao⟩, -⟩
  have hbefore : playingTable.ao.lut 0 = 1000 := by decide +kernel
  have hafter : (playingTable.handleSetAoLut (.calm Sd.goodIo) (lutData [3000, 6000])).1.ao.lut 0
      = 3000 := by decide +kernel
  have hentry := hagrees 0 (by decide +kernel)
  rw [hao] at hafter
  rw [hbefore] at hentry
  exact absurd (hafter.symm.trans hentry) (by decide)

end

end Display

end Command
end G6Arena
