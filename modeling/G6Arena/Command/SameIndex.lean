/-
# The frame that is shown already

`SET_FRAME_POSITION` does not load a frame that is in the buffer, with its outputs and its timer
(`sameIndexSkip`).  Three invariants say that to load it again would change nothing: the frame in
the buffer is the one of the display (`Held`), its outputs were derived and not changed since
(`Cached`, by `step_settles`), and it is refreshed at its rate (`Rated`).
-/

import G6Arena.Command.AoLut
import G6Arena.Command.Playback

namespace G6Arena

namespace Command

open ByteMem Link Panel Machine
open Sd (ControllerError Store)

/-! ### The outputs of a frame -/

namespace AnalogOut

variable {ao ao' : AnalogOut} {index count : ℕ}

/-- The mode of the frame number owns the output: no table is played in it. -/
def Exclusive (ao : AnalogOut) : Prop := ao.mode = 1 → ao.lutLen = 0

/-- The level of a frame and its entry of the table, if it has one. -/
def frameLevel (index count : ℕ) (ao : AnalogOut) : Option (ℕ × ℕ) :=
  if ao.mode = 1 then some (Display.frameNumberMv index count, ao.lutIdx)
  else if 0 < ao.lutLen ∧ ao.lutMode = 0 then some (ao.lut (index % ao.lutLen), index % ao.lutLen)
  else none

/-- The output is at the level of a frame. -/
def Settled (index count : ℕ) (ao : AnalogOut) : Prop :=
  ∀ level ∈ ao.frameLevel index count, ao.dacCode = level.1 * 4095 / 5000 ∧ ao.lutIdx = level.2

theorem deriveOutputs_eq (ok : Bool) (index count : ℕ) (ao : AnalogOut) :
    Display.deriveOutputs ok index count ao = match ao.frameLevel index count with
      | none => (ao, true)
      | some (mv, idx) => Display.writeDacMv ok mv { ao with lutIdx := idx } := by
  unfold Display.deriveOutputs frameLevel Display.applyAoLut
  split_ifs with hmode hlocked
  · rfl
  · dsimp only
    rw [if_neg (by omega), Nat.mod_mod]
  · rfl

theorem frameLevel_written (ok : Bool) {mv idx : ℕ}
    (h : ao.frameLevel index count = some (mv, idx)) :
    (Display.writeDacMv ok mv { ao with lutIdx := idx }).1.frameLevel index count = some (mv, idx) := by
  have hwritten {ao' : AnalogOut} (hmode : ao'.mode = ao.mode) (hlen : ao'.lutLen = ao.lutLen)
      (hlutMode : ao'.lutMode = ao.lutMode) (hlut : ao'.lut = ao.lut) (hidx : ao'.lutIdx = idx) :
      ao'.frameLevel index count = some (mv, idx) := by
    unfold frameLevel at h ⊢
    rw [hmode, hlen, hlutMode, hlut, hidx]
    split_ifs at h ⊢
    · cases h
      rfl
    · exact h
  unfold Display.writeDacMv
  cases ok
  · exact hwritten rfl rfl rfl rfl rfl
  · exact hwritten rfl rfl rfl rfl rfl

/-- What is derived with success is settled. -/
theorem deriveOutputs_settled {ok : Bool}
    (h : (Display.deriveOutputs ok index count ao).2 = true) :
    (Display.deriveOutputs ok index count ao).1.Settled index count := by
  rw [deriveOutputs_eq] at h ⊢
  rcases hlevel : ao.frameLevel index count with - | ⟨mv, idx⟩
  · intro level hmem
    rw [hlevel] at hmem
    cases hmem
  · rw [hlevel] at h
    intro level hmem
    rw [frameLevel_written ok hlevel] at hmem
    cases hmem
    cases ok with
    | false => cases h
    | true => exact ⟨rfl, rfl⟩

/-- To derive what is settled changes the level that is remembered, at most. -/
theorem Settled.derive (h : ao.Settled index count) :
    ∃ mv, Display.deriveOutputs true index count ao = ({ ao with mv := mv }, true) := by
  rw [deriveOutputs_eq]
  rcases hlevel : ao.frameLevel index count with - | ⟨mv, idx⟩
  · exact ⟨ao.mv, rfl⟩
  · obtain ⟨hcode, hidx⟩ := h _ hlevel
    refine ⟨mv, ?_⟩
    dsimp only at hcode hidx ⊢
    unfold Display.writeDacMv
    rw [if_pos rfl, ← hcode, ← hidx]

theorem deriveOutputs_exclusive (ok : Bool) (h : ao.Exclusive) :
    (Display.deriveOutputs ok index count ao).1.Exclusive := by
  rw [deriveOutputs_eq]
  rcases ao.frameLevel index count with - | ⟨mv, idx⟩
  · exact h
  · unfold Display.writeDacMv
    cases ok <;> exact h

end AnalogOut

namespace Display

open AnalogOut

/-- Another change of the output leaves a frame settled. -/
theorem OutputsMove.settled {ao ao' : AnalogOut} {index count : ℕ} (h : OutputsMove ao ao')
    (hexclusive : ao.Exclusive) (hsettled : ao.Settled index count) : ao'.Settled index count := by
  cases h with
  | voltage code mv h =>
    intro level hmem
    unfold frameLevel at hmem
    rw [if_neg (by rw [h]; decide), if_neg (by simp)] at hmem
    cases hmem
  | read mv => exact hsettled
  | tick code mv idx last h hmode =>
    intro level hmem
    have hother : ¬ao.mode = 1 := fun hnumber => absurd (hexclusive hnumber) (by omega)
    unfold frameLevel at hmem
    rw [if_neg hother, if_neg (by rw [hmode]; simp)] at hmem
    cases hmem

theorem OutputsMove.exclusive {ao ao' : AnalogOut} (h : OutputsMove ao ao')
    (hexclusive : ao.Exclusive) : ao'.Exclusive := by
  cases h with
  | voltage code mv h => exact fun _ => rfl
  | read mv => exact hexclusive
  | tick code mv idx last h hmode => exact hexclusive

/-- The outputs are those of the frame of the display, while its cache says so. -/
def Cached (d : Display) : Prop :=
  d.screen.sdCacheOk = true → d.ao.Settled d.screen.curFrameIndex d.screen.frameCount

/-- A change that keeps the outputs in step with the frame. -/
structure Settles (d d' : Display) : Prop where
  exclusive : d.ao.Exclusive → d'.ao.Exclusive
  cached : d.ao.Exclusive → d.Cached → d'.Cached

section

variable [Board] {env env' : Env} {s s' : Store} {o : Option Order} {d d' d'' : Display}

namespace Settles

omit [Board]

theorem refl (d : Display) : Settles d d := ⟨id, fun _ h => h⟩

theorem trans (h : Settles d d') (h' : Settles d' d'') : Settles d d'' :=
  ⟨fun he => h'.exclusive (h.exclusive he), fun he hc => h'.cached (h.exclusive he) (h.cached he hc)⟩

/-- The output is left, and the cache with its frame, or dropped. -/
theorem kept (hao : d'.ao = d.ao) (hcache : d'.screen.sdCacheOk = true → d.screen.sdCacheOk = true ∧
    d'.screen.curFrameIndex = d.screen.curFrameIndex ∧ d'.screen.frameCount = d.screen.frameCount) :
    Settles d d' := by
  refine ⟨fun he => hao ▸ he, fun _ hcached hok => ?_⟩
  obtain ⟨hwas, hindex, hcount⟩ := hcache hok
  rw [hao, hindex, hcount]
  exact hcached hwas

theorem dropped (hao : d'.ao = d.ao) (hcache : d'.screen.sdCacheOk = false) : Settles d d' :=
  kept hao fun hok => by
    rw [hcache] at hok
    cases hok

theorem of_sameView (h : SameView d d') : Settles d d' :=
  kept h.ao fun hok => by
    rw [h.screen] at hok ⊢
    exact ⟨hok, rfl, rfl⟩

theorem outputs {ao : AnalogOut} (h : OutputsMove d.ao ao) : Settles d { d with ao := ao } :=
  ⟨fun he => h.exclusive he, fun he hcached hok => h.settled he (hcached hok)⟩

end Settles

/-! ### Frames -/

theorem enterAllOff_settles (env : Env) (d : Display) : Settles d (d.enterAllOff env) :=
  .dropped (enterAllOff_ao ..) (by rw [enterAllOff_screen])

theorem enterAllOn_settles (env : Env) (d : Display) : Settles d (d.enterAllOn env) :=
  .dropped (enterAllOn_ao ..) (by rw [enterAllOn_screen])

theorem showError_settles (env : Env) (code : ControllerError) (d : Display) :
    Settles d (d.showError env code) :=
  .dropped (showError_ao ..) (by rw [showError_screen])

/-- A frame that is loaded has its outputs derived, wherever the display moved to it from. -/
theorem loadFrame_settles {index : ℕ} {ok : Bool} {d₁ : Display} (hao : d₁.ao = d.ao)
    (hindex : d₁.screen.curFrameIndex = index) (h : d₁.loadFrame env s index = (d', ok)) :
    Settles d d' := by
  obtain ⟨d₂, bytes, err, -, hafter, ⟨-, -, rfl⟩ | ⟨-, -, rfl⟩⟩ := loadFrame_cases h
  · exact .dropped ((showError_ao ..).trans (hafter.ao.trans hao)) (by rw [showError_screen])
  · obtain ⟨buf, hscreen⟩ := acceptFrame_screen_eq (env.call 3) d₂ s index
    refine ⟨fun he => ?_, fun _ _ hok => ?_⟩
    · rw [acceptFrame_ao, hafter.ao, hao]
      exact deriveOutputs_exclusive _ he
    · rw [hscreen] at hok ⊢
      rw [acceptFrame_ao]
      have hsettled := deriveOutputs_settled hok
      rw [hafter.screen] at hsettled ⊢
      dsimp only at hsettled ⊢
      rw [hindex]
      exact hsettled

theorem showFrame_settles (env : Env) (d : Display) : Settles d (d.showFrame env).1 := by
  obtain ⟨d₁, hview, ⟨h, -⟩ | h⟩ := showFrame_cases env d
  · rw [h]
    exact .kept hview.ao fun hok => by
      rw [hview.screen] at hok ⊢
      exact ⟨hok, rfl, rfl⟩
  · rw [h]
    refine .kept ((armRefreshTimer_ao ..).trans hview.ao) fun hok => ?_
    rw [armRefreshTimer_screen, hview.screen] at hok ⊢
    exact ⟨hok, rfl, rfl⟩

theorem loadFramePosition_settles (env : Env) (s : Store) (index : ℕ) (d : Display) :
    Settles d (d.loadFramePosition env s index).1 := by
  obtain ⟨d₁, hview, d₂, ok, hload, hend⟩ :=
    loadFramePosition_cases (Prod.mk.eta (p := d.loadFramePosition env s index)).symm
  have hloaded : Settles d d₂ := loadFrame_settles hview.ao (by rw [hview.screen]) hload
  rcases hend with ⟨-, h⟩ | ⟨-, h⟩
  · rw [h]
    exact hloaded
  · rw [h]
    exact hloaded.trans (showFrame_settles ..)

/-! ### Services -/

theorem transmitOnRefresh_settles (env : Env) (d : Display) : Settles d (d.transmitOnRefresh env) :=
  .kept (transmitOnRefresh_view env d).2.2.1 fun hok => by
    rw [(transmitOnRefresh_view env d).1] at hok ⊢
    exact ⟨hok, rfl, rfl⟩

theorem serviceTimers_settles (env : Env) (d : Display) : Settles d (d.serviceTimers env) := by
  have hlut : Settles d (d.serviceAoLut (env.call 0)) := by
    rcases serviceAoLut_cases (env.call 0) d with h | ⟨ao, hmove, h⟩
    · rw [h]
      exact .refl d
    · rw [h]
      exact .outputs hmove
  refine hlut.trans ?_
  change Settles _ ((d.serviceAoLut (env.call 0)).serviceTrialTimer (env.call 1))
  rcases serviceTrialTimer_cases (env.call 1) (d.serviceAoLut (env.call 0)) with ⟨h, -⟩ | ⟨h, -⟩
  · rw [h]
    exact .refl _
  · rw [h]
    exact .dropped (enterAllOff_ao ..) (by rw [enterAllOff_screen])

theorem advance_settles (env : Env) (s : Store) (d : Display) : Settles d (d.advance env s) := by
  rcases advance_cases env d s with h | ⟨-, d₁, index, h, -, hmoved⟩ | ⟨-, d₁, index, h, hmoved⟩
  · exact .kept h.ao fun hok => by
      rw [h.screen] at hok ⊢
      exact ⟨hok, rfl, rfl⟩
  · rw [h]
    exact loadFrame_settles hmoved.ao (by rw [hmoved.screen]) (Prod.mk.eta (p := d₁.loadFrame _ s index)).symm
  · rw [h]
    exact .dropped hmoved.ao rfl

theorem serviceDisplay_settles (env : Env) (s : Store) (d : Display) :
    Settles d (d.serviceDisplay env s) := by
  have htimers := serviceTimers_settles env d
  unfold serviceDisplay
  dsimp only
  have hsent := (htimers.trans (advance_settles (env.call 2) s _)).trans
    (transmitOnRefresh_settles (env.call 3) _)
  split_ifs
  · exact htimers
  · exact hsent.trans (enterAllOff_settles ..)
  · exact hsent

theorem serviceLateBootBlank_settles (env : Env) (idle : Bool) (d : Display) :
    Settles d (d.serviceLateBootBlank env idle) := by
  unfold serviceLateBootBlank
  dsimp only
  split_ifs
  · exact .refl d
  · exact .refl d
  · exact .dropped (enterAllOff_ao ..) (by rw [enterAllOff_screen])
  · exact .kept rfl fun hok => ⟨hok, rfl, rfl⟩

/-! ### Commands -/

theorem handleStreamCommand_settles (env : Env) (data : Mem) (dataLen : ℕ) (d : Display) :
    Settles d (d.handleStreamCommand env data dataLen).1 := by
  rcases handleStreamCommand_cases env d data dataLen with ⟨blockByteCount, -, h⟩ | h
  · rw [h]
    obtain ⟨buf, hscreen⟩ := showStream_screen env d blockByteCount
      (bytesAt data streamHeaderByteCount (dataLen - streamHeaderByteCount))
    exact .dropped (showStream_view ..).2.2.2 (by rw [hscreen])
  · rw [h]
    exact enterAllOff_settles ..

omit [Board] in
theorem ite_lutLen {p : Prop} [Decidable p] {ao ao' : AnalogOut} (h : ao.lutLen = 0)
    (h' : ao'.lutLen = 0) : (if p then ao else ao').lutLen = 0 := by
  split
  · exact h
  · exact h'

omit [Board] in
theorem applyAoLut_mode (ok : Bool) (idx : ℕ) (ao : AnalogOut) :
    (applyAoLut ok idx ao).1.mode = ao.mode := by
  unfold applyAoLut writeDacMv
  split_ifs <;> rfl

omit [Board] in
theorem setAoMode_settles (env : Env) (data : Mem) (d : Display) :
    Settles d (d.handleSetAoMode env data).1 := by
  unfold handleSetAoMode setAoMode
  split_ifs with hlen hmode hnumber
  · exact .refl d
  · exact .refl d
  · refine ⟨fun _ _ => ?_, fun _ _ => nofun⟩
    exact ite_lutLen (writeDacMv_keeps ..).2 rfl
  · exact ⟨fun _ hone => absurd hone hnumber, fun _ _ => nofun⟩

omit [Board] in
theorem setAoLut_settles (env : Env) (data : Mem) (d : Display) :
    Settles d (d.handleSetAoLut env data).1 := by
  have hdropped (lut : ℕ → ℕ) : Settles d { d.dropFrameCache with ao := { d.ao with lut := lut } } :=
    ⟨fun he => he, fun _ _ => nofun⟩
  unfold handleSetAoLut
  dsimp only
  split_ifs with hlen hmode
  · exact hdropped d.ao.lut
  · exact hdropped d.ao.lut
  · exact hdropped d.ao.lut
  · exact hdropped d.ao.lut
  · exact hdropped d.ao.lut
  split
  · exact hdropped _
  · next lut _ =>
    have hzero : d.ao.mode = 0 := not_not.1 hmode
    unfold startAoLut
    dsimp only
    split
    · exact ⟨fun _ _ => rfl, fun _ _ => nofun⟩
    · next ao happly =>
      refine ⟨fun _ hone => ?_, fun _ _ => nofun⟩
      have hmode' := congrArg (fun r => AnalogOut.mode r.1) happly
      dsimp only at hmode' hone
      rw [applyAoLut_mode, hone] at hmode'
      exact absurd (hmode'.symm.trans hzero) (by decide)

omit [Board] in
theorem setRefreshRate_settles (env : Env) (hz : ℕ) (d : Display) :
    Settles d (d.setRefreshRate env hz).1 := by
  have hao : (d.setRefreshRate env hz).1.ao = d.ao := by
    unfold setRefreshRate
    dsimp only
    split_ifs
    · obtain ⟨_, _, h⟩ := armRefreshTimer_fst env hz { d with refresh := { d.refresh with
        rateHz := hz, rateExplicit := true } }
      split <;> next harm => rw [← congrArg Prod.fst harm, h]
    · rfl
  refine .kept hao fun hok => ?_
  rw [(setRefreshRate_view env d hz).1] at hok ⊢
  exact ⟨hok, rfl, rfl⟩

/-- A command about the display. -/
theorem displayCommand_settles (env : Env) (s : Store) (x : Transfers) (data : Mem) (dataLen : ℕ)
    (command : DisplayCommand) (d : Display) :
    Settles d (displayCommand env s x data dataLen command d).1 := by
  by_cases hshows : command.shows = false
  · exact .of_sameView (displayCommand_sameView hshows)
  cases command with
  | allOff => exact enterAllOff_settles ..
  | stopDisplay => exact enterAllOff_settles ..
  | allOn =>
    change Settles d (d.handleAllOn env x).1
    unfold handleAllOn
    split_ifs
    · exact .refl d
    · exact enterAllOn_settles ..
  | setRefreshRate =>
    change Settles d (d.handleSetRefreshRate env data).1
    unfold handleSetRefreshRate
    dsimp only
    split_ifs
    · exact .refl d
    · exact setRefreshRate_settles ..
    · exact .refl d
  | setPanelDisplayMode =>
    change Settles d (d.handleSetPanelDisplayMode data).1
    unfold handleSetPanelDisplayMode
    dsimp only
    split_ifs
    · exact .refl d
    · exact .refl d
    · obtain ⟨buf, hbuf⟩ := patchDispMode_eq { d.screen with panelDispMode := data 2 }
      rw [hbuf]
      exact .kept rfl fun hok => ⟨hok, rfl, rfl⟩
  | setFramePosition =>
    change Settles d (d.handleSetFramePosition env s data).1
    unfold handleSetFramePosition setFramePosition
    dsimp only
    have hcounted : Settles d { d with health := { d.health with
        cmd70Count := (d.health.cmd70Count + 1) % 2 ^ 32 } } := .kept rfl fun hok => ⟨hok, rfl, rfl⟩
    refine hcounted.trans ?_
    split_ifs
    · exact showError_settles ..
    · exact showError_settles ..
    · exact showError_settles ..
    · exact .kept rfl fun hok => ⟨hok, rfl, rfl⟩
    · exact loadFramePosition_settles ..
  | displayPsramIndex =>
    change Settles d (d.handleDisplayPsramIndex env data).1
    unfold handleDisplayPsramIndex
    split_ifs
    · exact showError_settles ..
    · exact .dropped (displayPsramIndex_view ..).2.2 (by rw [(displayPsramIndex_view ..).1]; rfl)
  | psramPlay =>
    change Settles d (d.handlePsramPlay env data).1
    unfold handlePsramPlay
    split_ifs
    · exact showError_settles ..
    · exact .dropped (psramPlay_view ..).2.2 (by rw [(psramPlay_view ..).1]; rfl)
  | setAoVoltage =>
    change Settles d (d.handleSetAoVoltage env data).1
    rcases handleSetAoVoltage_cases env d data with h | ⟨hmode, code, mv, h⟩
    · rw [h]
      exact .refl d
    · rw [h]
      exact .outputs (.voltage code mv hmode)
  | setAoMode => exact setAoMode_settles ..
  | getAoVoltage =>
    change Settles d (d.handleGetAoVoltage env).1
    obtain ⟨mv, h⟩ := handleGetAoVoltage_cases env d
    rw [h]
    exact .outputs (.read mv)
  | setAoLut => exact setAoLut_settles ..
  | _ => exact absurd rfl hshows

/-- A trial. -/
theorem Trial.settles (h : Trial env s d s' d') : Settles d d' := by
  obtain ⟨duty, hmode, run, hend⟩ := h
  rename_i mode _ _ _ _ _ d₁ ok
  suffices hsettles : Settles d d₁ by
    rcases hend with rfl | ⟨-, rfl⟩
    · exact hsettles
    · exact hsettles.trans (.kept rfl fun hok => ⟨hok, rfl, rfl⟩)
  obtain ⟨-, ⟨-, -, d₂, -, -, -, hao, -, rfl⟩ | ⟨-, d₂, hscreen, -, -, hao, -, hload⟩⟩ :=
    enterPatternMode_cases run
  · exact .dropped ((showError_ao ..).trans hao) (by rw [showError_screen])
  rcases hload with ⟨d₃, hload, -, rfl⟩ | ⟨d₃, hload, hstart⟩
  · exact loadFrame_settles hao rfl hload
  · have hloaded : Settles d d₃ := loadFrame_settles hao rfl hload
    refine hloaded.trans ?_
    obtain ⟨d₄, hscreen₄, -, -, hao₄, -, ⟨-, -, hview⟩ | ⟨-, d₅, hview, rfl⟩⟩ := startPattern_cases hstart
    · refine .kept (hview.ao.trans hao₄) fun hok => ?_
      rw [hview.screen] at hok ⊢
      change d₄.screen.sdCacheOk = true at hok
      change _ ∧ d₄.screen.curFrameIndex = _ ∧ d₄.screen.frameCount = _
      rw [hscreen₄] at hok ⊢
      exact ⟨hok, rfl, rfl⟩
    · exact .dropped ((enterAllOff_ao ..).trans (hview.ao.trans hao₄)) (by rw [enterAllOff_screen])

end

end Display

namespace Controller

open Display

variable [Board] {env env' : Env} {t : Transport} {data : Mem} {c c' : Controller} {reply : Reply}

/-- A command about the store. -/
theorem storeCommand_settles {command : StoreCommand}
    (h : c.storeCommand env t data command = (c', reply)) : Settles c.display c'.display := by
  have hpattern {mode : ArenaState} {duty : UInt8} {patternId initFrame durationTicks : ℕ}
      {frameRateHz gain : ℤ} {c₁ : Controller} {ok : Bool}
      (hmode : mode = .openLoop ∨ mode = .showFrame ∨ mode = .closedLoop)
      (h : (c.withDuty duty).enterPatternMode env mode patternId frameRateHz gain initFrame
        durationTicks = (c₁, ok))
      (hend : c' = c₁ ∨ (ok = false ∧ c' = c₁.withDuty 0)) : Settles c.display c'.display := by
    obtain ⟨display, store, hrun, rfl⟩ := enterPatternMode_cases h
    rcases hend with rfl | ⟨rfl, rfl⟩
    · exact Trial.settles (.mk duty hmode hrun (.inl rfl))
    · exact Trial.settles (.mk duty hmode hrun (.inr ⟨rfl, rfl⟩))
  cases command with
  | trialParams =>
    rcases handleTrialParams_cases h with ⟨-, rfl, -⟩ | ⟨-, ⟨code, rfl, -⟩ |
      ⟨_, duty, _, _, _, _, _, c₁, ok, hmode, -, hrun, ⟨-, rfl, -⟩ | ⟨hfail, rfl, -⟩⟩⟩
    · exact .refl _
    · exact showError_settles ..
    · exact hpattern (trialMode_cases hmode) hrun (.inl rfl)
    · exact hpattern (trialMode_cases hmode) hrun (.inr ⟨hfail, rfl⟩)
  | setPatternId =>
    rcases handleSetPatternId_cases h with rfl | ⟨-, patternId, ok, hrun⟩
    · exact .refl _
    · exact hpattern (.inr (.inl rfl)) hrun (.inl rfl)
  | setPatternFilename =>
    rcases handleSetPatternFilename_cases h with rfl | ⟨-, idx, name, rfl⟩
    · exact .refl _
    · exact .refl _
  | getPatternFile =>
    rcases handleGetPatternFile_cases h with rfl | ⟨-, -, _, _, _, -, -, -, -, -, rfl, -⟩
    · exact .refl _
    · exact .refl _
  | deletePatternFile =>
    rcases handleDeletePatternFile_cases h with
      rfl | ⟨idx, store, err, -, -, -, hrun, ⟨-, rfl⟩ | ⟨-, rfl⟩⟩
    · exact .refl _
    · exact .refl _
    · exact .refl _
  | purgeMemory =>
    rcases handlePurgeMemory_cases h with rfl | ⟨-, -, rfl⟩
    · exact .refl _
    · exact .refl _
  | getSdArchive =>
    rcases handleGetSdArchive_cases h with rfl | ⟨-, -, -, rfl, -⟩
    · exact .refl _
    · exact .refl _
  | setSdDiag =>
    rcases handleSetSdDiag_cases h with rfl | ⟨legacy, skip, -, -, -, -, hscreen, -, -, hao, -, -, -⟩
    · exact .refl _
    · refine .kept hao fun hok => ?_
      rw [hscreen] at hok ⊢
      dsimp only at hok
      split_ifs at hok
      exact ⟨hok, rfl, rfl⟩
  | systemReset =>
    cases h
    exact .refl _

theorem dispatch_settles {dataLen : ℕ} (h : c.dispatch env t data dataLen = (c', reply)) :
    Settles c.display c'.display := by
  unfold dispatch at h
  split at h
  · cases h
    exact displayCommand_settles ..
  · exact storeCommand_settles h
  · cases h
    exact showError_settles ..

/-- **A step keeps the outputs in step with the frame.** -/
theorem step_settles (c : Controller) (i : Action × Env) : Settles c.display (c.step i).display := by
  unfold step
  split_ifs
  · exact .refl _
  obtain ⟨a, env⟩ := i
  have hserves {c' : Controller} (h : Serves c c') : Settles c.display c'.display := by
    rw [h.display]
    exact .refl _
  cases a with
  | arrive t bytes => exact .refl _
  | disconnect => exact .refl _
  | service t accepted => exact .refl _
  | processCommand t =>
    change Settles c.display (c.processCommand env t).display
    rcases processCommand_core env t c with heq | ⟨-, -, hhandles⟩
    · rw [heq]
      exact .refl _
    · generalize c.processCommand env t = c' at hhandles
      have haround {c₁ c₂ : Controller} (h : Settles c₁.display c₂.display) (hbefore : SameCore c c₁)
          (hafter : SameCore c₂ c') : Settles c.display c'.display :=
        ((Settles.of_sameView hbefore.display).trans h).trans (.of_sameView hafter.display)
      cases hhandles with
      | card core => exact .of_sameView core.display
      | upload bulk start =>
        obtain ⟨entry, id, -, -, hcore⟩ := start.core
        exact .of_sameView hcore.display
      | stream bulk stream c₁ before after => exact haround (handleStreamCommand_settles ..) before after
      | binary bulk stream sound c₁ c₂ reply before run after =>
        exact haround (dispatch_settles run) before after
      | reset bulk stream sound opcode c₁ before after =>
        have hreset : Settles c₁.display
            ({ c₁ with display := c₁.display.disarmRefreshTimer, halted := true } : Controller).display :=
          .kept rfl fun hok => ⟨hok, rfl, rfl⟩
        exact haround hreset before after
  | serviceDisplay => exact serviceDisplay_settles ..
  | serviceTelemetry => exact .kept rfl fun hok => ⟨hok, rfl, rfl⟩
  | serviceDownload => exact hserves (serviceDownload_serves env c)
  | serviceUpload => exact hserves (serviceUpload_serves env c)
  | serviceArchive => exact hserves (serviceArchive_serves env c)
  | serviceDisconnects => exact hserves (serviceDisconnects_serves env c)
  | serviceLateBootBlank => exact serviceLateBootBlank_settles ..
  | flushResponses t => exact .refl _
  | refreshIsr =>
    change Settles c.display c.display.refreshIsr
    refine .kept (refreshIsr_view _).2.2.1 fun hok => ?_
    rw [(refreshIsr_view _).1] at hok ⊢
    exact ⟨hok, rfl, rfl⟩

end Controller

/-! ### The rate of the refresh -/

namespace Display

section

variable [Board] {env : Env} {s s' : Store} {o : Option Order} {d d' : Display}

/-- A frame of the card is refreshed at the rate of its blocks, or at the one asked for. -/
def Rated (d : Display) : Prop :=
  d.screen.frameBufIsFrame = true → d.refresh.rateHz = d.rateFor d.screen.blockByteCount

theorem rateFor_congr {blockByteCount : ℕ} (hrate : d'.refresh.rateHz = d.refresh.rateHz)
    (hexplicit : d'.refresh.rateExplicit = d.refresh.rateExplicit) :
    d'.rateFor blockByteCount = d.rateFor blockByteCount := by
  unfold rateFor
  rw [hrate, hexplicit]

theorem Rated.congr (h : Rated d)
    (hframe : d'.screen.frameBufIsFrame = true → d.screen.frameBufIsFrame = true ∧
      d'.screen.blockByteCount = d.screen.blockByteCount)
    (hrate : d'.refresh.rateHz = d.refresh.rateHz)
    (hexplicit : d'.refresh.rateExplicit = d.refresh.rateExplicit) : Rated d' := by
  intro hnow
  obtain ⟨hwas, hblock⟩ := hframe hnow
  rw [rateFor_congr hrate hexplicit, hrate, hblock]
  exact h hwas

theorem rated_of_none (h : d.screen.frameBufIsFrame = false) : Rated d := by
  intro hframe
  rw [h] at hframe
  cases hframe

/-- A frame that is loaded is rated as the display was. -/
theorem loadFrame_rated {index : ℕ} {ok : Bool} (h : d.loadFrame env s index = (d', ok))
    (hrate : d.refresh.rateHz = d.rateFor d.screen.blockByteCount) : Rated d' := by
  have hframe := (loadFrame_kept h).2.2.1
  obtain ⟨d₁, bytes, err, -, hafter, ⟨rfl, -, -⟩ | ⟨rfl, -, rfl⟩⟩ := loadFrame_cases h
  · exact rated_of_none hframe
  · intro _
    obtain ⟨buf, hscreen⟩ := acceptFrame_screen_eq (env.call 3) d₁ s index
    rw [rateFor_congr (d := d) (by rw [acceptFrame_refresh, hafter.refresh])
      (by rw [acceptFrame_refresh, hafter.refresh]), acceptFrame_refresh, hafter.refresh, hscreen,
      hafter.screen]
    exact hrate

theorem showFrame_rated (env : Env) (d : Display) : Rated (d.showFrame env).1 := by
  have hself {d₁ : Display} (hview : SameView { d with
      screen := { d.screen with state := .showFrame }
      refresh := { d.refresh with rateHz := d.rateFor d.screen.blockByteCount } } d₁) : Rated d₁ := by
    intro _
    unfold rateFor
    rw [hview.refresh, hview.screen]
    dsimp only
    unfold rateFor
    split_ifs <;> rfl
  obtain ⟨d₁, hview, ⟨h, -⟩ | h⟩ := showFrame_cases env d
  · rw [h]
    exact hself hview
  · rw [h]
    exact (hself hview).congr (fun hframe => ⟨by rwa [armRefreshTimer_screen] at hframe,
      by rw [armRefreshTimer_screen]⟩) (armRefreshTimer_rateHz ..) (armRefreshTimer_rateExplicit ..)

theorem loadFramePosition_rated (env : Env) (s : Store) (index : ℕ) (d : Display) :
    Rated (d.loadFramePosition env s index).1 := by
  obtain ⟨d₁, hview, d₂, ok, hload, hend⟩ :=
    loadFramePosition_cases (Prod.mk.eta (p := d.loadFramePosition env s index)).symm
  rcases hend with ⟨rfl, h⟩ | ⟨-, h⟩
  · rw [h]
    exact rated_of_none (loadFrame_kept hload).2.2.1
  · rw [h]
    exact showFrame_rated _ _

theorem setRefreshRate_rated (env : Env) (hz : ℕ) (d : Display) : Rated (d.setRefreshRate env hz).1 := by
  have hself {d₁ : Display} (hrate : d₁.refresh.rateExplicit = true) : Rated d₁ := by
    intro _
    unfold rateFor
    rw [if_pos hrate]
  refine hself ?_
  unfold setRefreshRate
  dsimp only
  split_ifs
  · have hexplicit := armRefreshTimer_rateExplicit env hz
      { d with refresh := { d.refresh with rateHz := hz, rateExplicit := true } }
    split <;> next harm => rw [harm] at hexplicit; exact hexplicit
  · rfl

theorem Paint.rated (h : Paint env s o d d') (hheld : Held s d) (hd : Rated d) : Rated d' := by
  have hkept {d' : Display} (hscreen : d'.screen = d.screen) (hrate : d'.refresh.rateHz = d.refresh.rateHz)
      (hexplicit : d'.refresh.rateExplicit = d.refresh.rateExplicit) : Rated d' :=
    hd.congr (fun hframe => ⟨by rwa [hscreen] at hframe, by rw [hscreen]⟩) hrate hexplicit
  cases h with
  | look h => exact hkept h.screen (by rw [h.refresh]) (by rw [h.refresh])
  | clocks p => exact hkept rfl rfl rfl
  | outputs ao => exact hkept rfl rfl rfl
  | forget ao => exact hd.congr (fun hframe => ⟨hframe, rfl⟩) rfl rfl
  | allOff he => exact rated_of_none (by rw [enterAllOff_screen])
  | allOn he => exact rated_of_none (by rw [enterAllOn_screen])
  | error he code => exact rated_of_none (by rw [showError_screen])
  | stream he hblock hframe => exact rated_of_none (showStream_view ..).2.1
  | rate he ho hz0 => exact setRefreshRate_rated _ _ _
  | @mode mode ho hmode =>
    obtain ⟨buf, hbuf⟩ := patchDispMode_eq { d.screen with panelDispMode := mode }
    rw [hbuf]
    exact hd.congr (fun hframe => ⟨hframe, rfl⟩) rfl rfl
  | position he ho => exact loadFramePosition_rated _ _ _ _
  | psramIndex he index => exact rated_of_none (by rw [(displayPsramIndex_view ..).1]; rfl)
  | psramPlay he start count fps => exact rated_of_none (by rw [(psramPlay_view ..).1]; rfl)
  | psramNext he ho index hstate hmoved => exact rated_of_none rfl
  | @advance env' he ho index d d₁ hstate hindex hmoved =>
    refine loadFrame_rated (Prod.mk.eta (p := d₁.loadFrame env' s index)).symm ?_
    have hplays : d.screen.frameBufIsFrame = true := by
      rw [hheld.plays]
      rcases hstate with hstate | hstate <;> rw [hstate] <;> rfl
    rw [rateFor_congr (d := d) (by rw [hmoved.refresh]) (by rw [hmoved.refresh]), hmoved.refresh,
      hmoved.screen]
    exact hd hplays
  | disarm ho => exact hkept rfl rfl rfl
  | transmit he ho hon =>
    obtain ⟨hscreen, -, -, hrefresh, -⟩ := transmitOnRefresh_view _ d
    exact hkept hscreen (by rw [hrefresh]) (by rw [hrefresh])
  | isr =>
    refine hkept (refreshIsr_view d).1 (refreshIsr_view d).2.2.2.1 ?_
    unfold refreshIsr
    split_ifs <;> rfl

theorem Paints.rated (hfits : Sd.Store.FitsArena s.sd) (h : Paints env s o d d')
    (hlawful : Lawful playedLaw d) (hheld : Held s d) (hd : Rated d) : Rated d' := by
  suffices hall : (Lawful playedLaw d' ∧ Held s d') ∧ Rated d' from hall.2
  induction h with
  | refl => exact ⟨⟨hlawful, hheld⟩, hd⟩
  | tail _ hpaint ih =>
    exact ⟨⟨hpaint.lawful playedLaw_allows hfits (fun _ _ _ _ _ => .inl rfl) ih.1.1,
      hpaint.held hfits ih.1.1 ih.1.2⟩, hpaint.rated ih.1.2 ih.2⟩

theorem Trial.rated (h : Trial env s d s' d') : Rated d' := by
  obtain ⟨duty, hmode, run, hend⟩ := h
  rename_i mode _ _ _ _ _ d₁ ok
  suffices hrated : Rated d₁ by
    rcases hend with rfl | ⟨-, rfl⟩
    · exact hrated
    · exact hrated.congr (fun hframe => ⟨hframe, rfl⟩) rfl rfl
  obtain ⟨-, ⟨-, -, d₂, -, -, -, -, -, rfl⟩ | ⟨-, d₂, hscreen, -, -, -, -, hload⟩⟩ :=
    enterPatternMode_cases run
  · exact rated_of_none (by rw [showError_screen])
  rcases hload with ⟨d₃, hload, -, rfl⟩ | ⟨d₃, hload, hstart⟩
  · exact rated_of_none (loadFrame_kept hload).2.2.1
  · obtain ⟨d₄, hscreen₄, hrefresh, -, -, -, ⟨-, -, hview⟩ | ⟨-, d₅, -, rfl⟩⟩ := startPattern_cases hstart
    · intro _
      unfold rateFor
      rw [hview.refresh, hview.screen]
      dsimp only
      rw [hrefresh, hscreen₄]
      dsimp only
      unfold rateFor
      split_ifs <;> rfl
    · exact rated_of_none (by rw [enterAllOff_screen])

end

end Display

namespace Controller

open Display

variable [Board] {c : Controller} {i : Action × Env}

theorem step_rated (hc : Plays c) (hd : Rated c.display) (i : Action × Env) : Rated (c.step i).display := by
  have hsame {d d' : Display} (hview : SameView d d') (h : Rated d) : Rated d' :=
    h.congr (fun hframe => ⟨by rwa [hview.screen] at hframe, by rw [hview.screen]⟩)
      (by rw [hview.refresh]) (by rw [hview.refresh])
  rcases step_shows c i with ⟨-, hpaints⟩ | ⟨-, -, htrial, hafter⟩
  · exact hpaints.rated hc.obeys.fits hc.obeys.lawful hc.held hd
  · exact hsame hafter htrial.rated

end Controller

/-! ### The frame once more -/

namespace Screen

variable [Board] {s : Screen}

/-- **A frame that is held, stored and patched once more, is the same.** -/
theorem Holds.reloaded {bytes : List UInt8} (hblocks : s.Blocks (HasMode s.panelDispMode))
    (hmode : s.panelDispMode ≤ 3) (hduty : s.HasDuty) (h : s.Holds bytes) :
    ({ s with frameBuf := ByteMem.store s.frameBuf 0 bytes } : Screen).patchDispMode.patchTrialDuty
      = s := by
  have hsized : Sized { s with frameBuf := ByteMem.store s.frameBuf 0 bytes } := hblocks.sized
  have hblocks' := patchTrialDuty_blocks (patchDispMode_hasMode hsized hmode)
  obtain ⟨hholds, hdutied⟩ := patched_holds hsized hmode rfl
  have hdisp := patchDispMode_sameFrame hsized hmode
  obtain ⟨buf₁, hbuf₁⟩ := Display.patchDispMode_eq
    { s with frameBuf := ByteMem.store s.frameBuf 0 bytes }
  rw [hbuf₁] at hdisp hblocks' hdutied ⊢
  have htrial := patchTrialDuty_sameFrame (s := { s with frameBuf := buf₁ }) hblocks.sized
  obtain ⟨buf₂, hbuf₂⟩ := Display.patchTrialDuty_eq { s with frameBuf := buf₁ }
  dsimp only at hbuf₂ htrial hdisp ⊢
  rw [hbuf₂] at htrial hblocks' hdutied ⊢
  have hsame : SameFrame s.blockByteCount s.patchesDuty s.frameBuf buf₂ :=
    h.symm.trans ((hdisp.of_false _).trans htrial)
  suffices hbuf : buf₂ = s.frameBuf by rw [hbuf]
  refine hsame.eq_of_blocks hblocks.sized.three_le fun p hp => ?_
  refine hsame.panelBlock_eq hblocks.sized.three_le hp ?_ ?_ (hblocks.parity p hp) (hblocks'.parity p hp)
  · exact (hblocks'.opcode p hp).trans (hblocks.opcode p hp).symm
  · intro hpatches
    exact (hdutied hpatches p hp).trans (hduty hpatches p hp).symm

/-- So it is when its size and its source are noted again. -/
theorem Holds.accepted {bytes : List UInt8} (hblocks : s.Blocks (HasMode s.panelDispMode))
    (hmode : s.panelDispMode ≤ 3) (hduty : s.HasDuty) (h : s.Holds bytes) {frameByteCount : ℕ}
    (hbytes : s.frameByteCount = frameByteCount) (hframe : s.frameBufIsFrame = true) :
    ({ s with
      frameBuf := ByteMem.store s.frameBuf 0 bytes
      frameByteCount := frameByteCount
      frameBufIsFrame := true } : Screen).patchDispMode.patchTrialDuty = s := by
  have hreloaded := h.reloaded hblocks hmode hduty
  subst hbytes
  rwa [← hframe]

end Screen

namespace Display

variable [Board] {s : Store} {d : Display}

/-- The display of one path, for the display of another: its screen, its refresh, its clocks and
its output are the same. -/
structure SameShown (d d' : Display) : Prop where
  screen : d'.screen = d.screen
  refresh : d'.refresh = d.refresh
  playback : d'.playback = d.playback
  clocked : d'.clocked = d.clocked
  ao : ∃ mv, d'.ao = { d.ao with mv := mv }

/-- The display that is about to load a frame asked for. -/
def requested (index : ℕ) (d : Display) : Display :=
  { d with
    screen := { d.screen with curFrameIndex := index }
    marks := { d.marks with pendingReqUs := d.marks.lastCmdRxUs, pendingReqValid := true } }

/-- A frame that is held with its outputs and its rate, loaded once more. -/
theorem loadFramePosition_same {env : Env} {index : ℕ} (hlawful : Lawful playedLaw d) (hheld : Held s d)
    (hcached : d.Cached) (hrated : d.Rated)
    (hskip : d.sameIndexSkip index = true)
    (hread : (s.readFrame env.sd index frameBufByteCountMax).2 = .ceNone)
    (hwire : ∀ path, env.wire path = true) :
    ∃ d', d.loadFramePosition env s index = (d', done setFramePositionCmd []) ∧ SameShown d d' := by
  unfold sameIndexSkip refreshArmedAt at hskip
  simp only [Bool.and_eq_true, decide_eq_true_eq] at hskip
  obtain ⟨⟨⟨⟨⟨-, hstate⟩, hframe⟩, hok⟩, rfl⟩, harmed, hrate⟩ := hskip
  have hblocks : d.screen.Blocks (HasMode d.screen.panelDispMode) := by
    refine (hlawful.blocks (by rw [hstate]; decide)).mono ?_
    rintro op (herror | hmode)
    · rw [hstate] at herror
      cases herror
    · exact hmode
  have hfheld := hheld.frame hframe
  obtain ⟨bytes, hstored, -, hholds⟩ := hfheld.stored
  have hload : ∃ d₂, (d.requested d.screen.curFrameIndex).loadFrame (env.call 0) s d.screen.curFrameIndex
      = (d₂, true) ∧ SameShown d d₂ := by
    rcases hrun : (d.requested d.screen.curFrameIndex).loadFrame (env.call 0) s
      d.screen.curFrameIndex with ⟨d₂, ok⟩
    obtain ⟨d₁, bytes', err, hread', hafter, hend⟩ := loadFrame_cases hrun
    change s.readFrame env.sd _ _ = _ at hread'
    rw [hread'] at hread
    obtain rfl : err = .ceNone := hread
    rcases hend with ⟨-, herr, -⟩ | ⟨rfl, -, rfl⟩
    · exact absurd rfl herr
    obtain ⟨hopen, -⟩ := Sd.Store.readFrame_open hread'
    obtain rfl : bytes = bytes' :=
      Option.some.inj (hstored.symm.trans (Sd.Store.readFrame_stored hread').1)
    obtain ⟨mv, hderive⟩ := (hcached hok).derive
    have hwired : ((env.call 0).call 3).wire [0] = true := hwire _
    have hscreen : d₁.screen = { d.screen with
        frameBuf := ByteMem.store d.screen.frameBuf 0 bytes, frameBufIsFrame := false } := hafter.screen
    have hbytes : d.screen.frameByteCount = frameBytes s.sd.info.numPanels d.screen.blockByteCount := by
      rw [hfheld.fits.1]
      exact hblocks.bytes
    refine ⟨_, rfl, ?_, ?_, ?_, ?_, mv, ?_⟩
    · have haccepted := hholds.accepted hblocks hlawful.mode hfheld.duty hbytes hframe
      rw [acceptFrame_screen, hafter.ao, hscreen]
      dsimp only [requested]
      rw [hwired, hderive, haccepted, ← hok]
    · exact (acceptFrame_refresh ..).trans hafter.refresh
    · exact (acceptFrame_playback ..).trans hafter.playback
    · exact hafter.clocked
    · rw [acceptFrame_ao, hafter.ao, hscreen]
      dsimp only [requested]
      rw [hwired, hderive]
  obtain ⟨d₂, hload, hsame⟩ := hload
  have hshown : d₂.showFrame (env.call 1) = (d₂, done setFramePositionCmd []) := by
    have hrated₂ : d₂.rateFor d₂.screen.blockByteCount = d₂.refresh.rateHz := by
      rw [rateFor_congr (d := d) (by rw [hsame.refresh]) (by rw [hsame.refresh]), hsame.refresh,
        hsame.screen]
      exact (hrated hframe).symm
    have harmed₂ : d₂.refreshArmedAt d₂.refresh.rateHz = true := by
      unfold refreshArmedAt
      rw [hsame.refresh, decide_eq_true harmed, decide_eq_true hrate]
      rfl
    have hstate₂ : d₂.screen.state = .showFrame := by rw [hsame.screen, hstate]
    unfold showFrame
    dsimp only
    rw [if_neg (not_not.2 hstate₂), hrated₂, ← hstate₂]
    exact if_pos harmed₂
  refine ⟨d₂, ?_, hsame⟩
  unfold loadFramePosition
  dsimp only
  unfold requested at hload
  rw [hload]
  exact hshown

end Display

namespace Controller

open Display

variable [Board] {c : Controller}

/-! ### Runs -/

/-- What is shown can be shown again. -/
structure Repeats (c : Controller) : Prop where
  plays : Plays c
  exclusive : c.display.ao.Exclusive
  cached : c.display.Cached
  rated : c.display.Rated

theorem step_repeats (h : Repeats c) (i : Action × Env) : Repeats (c.step i) :=
  ⟨step_plays h.plays i, (step_settles c i).exclusive h.exclusive,
    (step_settles c i).cached h.exclusive h.cached, step_rated h.plays h.rated i⟩

theorem setup_repeats {boot : Boot} (hboot : boot.card.WellFormed) (env : Env) :
    Repeats (setup boot env) := by
  have hscreen : (setup boot env).display.screen.frameBufIsFrame = false ∧
      (setup boot env).display.screen.sdCacheOk = false := by
    change (enterAllOff _ _).screen.frameBufIsFrame = false ∧ (enterAllOff _ _).screen.sdCacheOk = false
    rw [enterAllOff_screen]
    exact ⟨rfl, rfl⟩
  refine ⟨setup_plays hboot env, ?_, ?_, rated_of_none hscreen.1⟩
  · intro _
    change (enterAllOff _ (enterAllOff _ _)).ao.lutLen = 0
    rw [enterAllOff_ao, enterAllOff_ao]
    rfl
  · intro hok
    rw [hscreen.2] at hok
    cases hok

/-- **The frame that is shown already.**  In every state a run reaches, where `SET_FRAME_POSITION`
finds the frame asked for in the buffer and does not load it, to load it with a read and a write of
the output that succeed would be to reply the same and to leave the same screen, with its buffer,
the same refresh, the same clocks and the same output. -/
theorem same_index_skip {boot : Boot} (hboot : boot.card.WellFormed) (env₀ : Env)
    (is : List (Action × Env)) {index : ℕ} {env : Env} :
    let c := run step (setup boot env₀) is
    c.display.sameIndexSkip index = true →
    (c.store.readFrame env.sd index frameBufByteCountMax).2 = .ceNone →
    (∀ path, env.wire path = true) →
      (c.display.loadFramePosition env c.store index).2
        = (c.display.setFramePosition env c.store index).2 ∧
      SameShown (c.display.setFramePosition env c.store index).1
        (c.display.loadFramePosition env c.store index).1 := by
  have hinv : Repeats (run step (setup boot env₀) is) :=
    run_inv (I := Repeats) (C := fun _ _ => True) (fun _ i h _ => step_repeats h i)
      (setup_repeats hboot env₀) (along_of_forall (fun _ _ _ => trivial) _)
  dsimp only
  generalize run step (setup boot env₀) is = c at hinv
  intro hskip hread hwire
  obtain ⟨d', hload, hsame⟩ := loadFramePosition_same hinv.plays.obeys.lawful hinv.plays.held
    hinv.cached hinv.rated hskip hread hwire
  obtain ⟨hopen, hindex⟩ := Sd.Store.readFrame_open (Prod.ext rfl hread)
  have hcount := (hinv.plays.held.opened hopen).2.1
  have hskipped : c.display.setFramePosition env c.store index
      = ({ c.display with health := { c.display.health with
          cmd70SameIndex := (c.display.health.cmd70SameIndex + 1) % 2 ^ 32 } },
        done setFramePositionCmd []) := by
    unfold setFramePosition
    rw [if_neg (by rw [hopen]; decide), if_neg (by omega), if_pos hskip]
  rw [hload, hskipped]
  exact ⟨rfl, hsame.screen, hsame.refresh, hsame.playback, hsame.clocked, hsame.ao⟩

end Controller

section

local instance repeatBoard : Board := ⟨.hw2_10⟩

set_option maxRecDepth 100000 in
/-- A trial that shows a frame with a duty of its own, and the same frame asked for. -/
theorem same_index_skip_trial :
    let c := run Controller.step (setup (.cold smallCard) (.calm smallIo)) (playedRun.take 3)
    (c.display.loadFramePosition (.calm smallIo) c.store 0).2
        = (c.display.setFramePosition (.calm smallIo) c.store 0).2 ∧
      Display.SameShown (c.display.setFramePosition (.calm smallIo) c.store 0).1
        (c.display.loadFramePosition (.calm smallIo) c.store 0).1 :=
  Controller.same_index_skip smallCard_wellFormed _ _ (by decide +kernel) (by decide +kernel)
    fun _ => rfl

end

end Command
end G6Arena
