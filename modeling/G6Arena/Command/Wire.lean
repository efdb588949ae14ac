/-
# What the panels are sent

Whatever the host streams and the card holds, every transfer is a block for each panel with a valid
parity (`transfers_parity`).

The opcodes of a frame obey a law of the state of the display and its mode (`opcodeLaw`): the error
glyph keeps its own, and whatever else is shown has the mode.  A change of the mode patches the
buffer in every state, that of the glyph too, and breaks the law there; a run without such a change
keeps it (`transfers_opcode`).
-/

import G6Arena.Command.Blocks

namespace G6Arena
namespace Command

open ByteMem Link Panel Machine
open Sd (ControllerError Store)

/-- The law of the opcodes that are sent: a glyph is exempt from the mode. -/
def opcodeLaw (state : ArenaState) (mode op : UInt8) : Prop :=
  if state = .errorDisplay then IsGlyph op else HasMode mode op

/-- A change to a mode that is not the one of a glyph's opcode. -/
def Order.repatches : Order → Bool
  | mode m => m ≠ 0
  | _ => false

/-- A law that allows what is to be sent. -/
structure Allows (law : ArenaState → UInt8 → UInt8 → Prop) : Prop where
  glyph (mode op : UInt8) : IsGlyph op → law .errorDisplay mode op
  hasMode (state : ArenaState) (mode op : UInt8) : state ≠ .errorDisplay → HasMode mode op →
    law state mode op

theorem opcodeLaw_allows : Allows opcodeLaw := by
  constructor
  · intro mode op hglyph
    exact hglyph
  · intro state mode op hstate hmode
    unfold opcodeLaw
    rwa [if_neg hstate]

theorem true_allows : Allows fun _ _ _ => True := ⟨fun _ _ _ => trivial, fun _ _ _ _ _ => trivial⟩

/-- The blank that `enterAllOff` sends. -/
def blank [Board] : Transfer := clockedBlocks darkBuf panelBlockByteCountGs2

section

variable [Board]

/-- A transfer gives each panel a block of one size, all of a kind. -/
def Carries (P : List UInt8 → Prop) (tr : Transfer) : Prop :=
  ∃ buf blockByteCount, transferable blockByteCount = true ∧ tr = clockedBlocks buf blockByteCount ∧
    ∀ p < panelCountPerFrame, P (panelBlock buf blockByteCount p)

theorem blank_carries : Carries (fun b => validateParity b = true ∧ opcodeOf b = cmdDisp2lvlPersist)
    blank := ⟨darkBuf, panelBlockByteCountGs2, rfl, rfl, fun _ hp => Display.darkBuf_block hp⟩

theorem Carries.mono {P Q : List UInt8 → Prop} {tr : Transfer} (h : Carries P tr)
    (hPQ : ∀ b, P b → Q b) : Carries Q tr := by
  obtain ⟨buf, n, hn, htr, hP⟩ := h
  exact ⟨buf, n, hn, htr, fun p hp => hPQ _ (hP p hp)⟩

theorem Screen.Blocks.carries {law : UInt8 → Prop} {s : Screen} (h : s.Blocks law) :
    Carries (fun b => validateParity b = true ∧ law (opcodeOf b))
      (clockedBlocks s.frameBuf s.blockByteCount) := by
  refine ⟨_, _, ?_, rfl, fun p hp => ⟨h.parity p hp, h.opcode p hp⟩⟩
  rcases h.size with hsize | hsize | hsize <;> rw [hsize] <;> rfl

end

namespace Display

/-! ### What is sent -/

section

variable [Board] (env : Env) (d : Display)

@[simp] theorem enterAllOff_clocked :
    (d.enterAllOff env).clocked = d.clocked ++ [blank, blank, blank] := by
  have htransfer (d : Display) (hblock : d.screen.blockByteCount = panelBlockByteCountGs2)
      (hbuf : d.screen.frameBuf = darkBuf) : d.transferFrame.clocked = d.clocked ++ [blank] := by
    obtain ⟨_, h⟩ := transferFrame_eq d
    rw [h, hblock, hbuf]
    rfl
  unfold enterAllOff
  dsimp only
  rw [(flushOpenReads_sameView ..).clocked, (note_sameView ..).clocked]
  dsimp only
  rw [htransfer, htransfer, htransfer]
  · change d.clocked ++ [blank] ++ [blank] ++ [blank] = _
    simp only [List.append_assoc, List.cons_append, List.nil_append]
  all_goals repeat rw [transferFrame_screen]
  all_goals rfl

@[simp] theorem enterAllOn_clocked : (d.enterAllOn env).clocked = d.clocked := by
  unfold enterAllOn
  dsimp only
  rw [(note_sameView ..).clocked, armRefreshTimer_clocked]
  rfl

omit [Board] in
@[simp] theorem enterStreamingFrame_clocked (blockByteCount : ℕ) :
    (d.enterStreamingFrame env blockByteCount).clocked = d.clocked := by
  unfold enterStreamingFrame
  dsimp only
  rw [(note_sameView ..).clocked, armRefreshTimer_clocked]
  rfl

@[simp] theorem showError_clocked (code : ControllerError) :
    (d.showError env code).clocked = d.clocked := by
  unfold showError
  dsimp only
  rw [armRefreshTimer_clocked, (note_sameView ..).clocked]
  rfl

@[simp] theorem showStream_clocked (blockByteCount : ℕ) (frame : List UInt8) :
    (d.showStream env blockByteCount frame).clocked = d.clocked := by
  unfold showStream
  dsimp only
  split
  · rw [enterStreamingFrame_clocked]
    rfl
  · rfl

omit [Board] in
/-- A new rate changes no picture, and sends none. -/
theorem setRefreshRate_view (hz : ℕ) : (d.setRefreshRate env hz).1.screen = d.screen ∧
    (d.setRefreshRate env hz).1.marks = d.marks ∧
    (d.setRefreshRate env hz).1.clocked = d.clocked := by
  unfold setRefreshRate
  dsimp only
  split_ifs
  · obtain ⟨_, _, h⟩ := armRefreshTimer_fst env hz { d with refresh := { d.refresh with
      rateHz := hz, rateExplicit := true } }
    split <;> next harm =>
      rw [← congrArg Prod.fst harm, h]
      exact ⟨rfl, rfl, rfl⟩
  · exact ⟨rfl, rfl, rfl⟩

@[simp] theorem displayPsramIndex_clocked (index : ℕ) :
    (d.displayPsramIndex env index).1.clocked = d.clocked := by
  unfold displayPsramIndex
  dsimp only
  rw [armRefreshTimer_clocked, (enterPsramPlay_sameView ..).clocked]
  rfl

@[simp] theorem psramPlay_clocked (start count fps : ℕ) :
    (d.psramPlay env start count fps).1.clocked = d.clocked := by
  unfold psramPlay
  dsimp only
  rw [armRefreshTimer_clocked, (enterPsramPlay_sameView ..).clocked]
  rfl

variable {env d} in
theorem loadFrame_clocked {s : Store} {index : ℕ} {d' : Display} {ok : Bool}
    (h : d.loadFrame env s index = (d', ok)) : d'.clocked = d.clocked := by
  obtain ⟨d₁, bytes, err, -, hafter, ⟨-, -, rfl⟩ | ⟨-, -, rfl⟩⟩ := loadFrame_cases h
  · rw [showError_clocked, hafter.clocked]
  · rw [← hafter.clocked]
    rfl

@[simp] theorem showFrame_clocked : (d.showFrame env).1.clocked = d.clocked := by
  obtain ⟨d₁, hview, ⟨h, -⟩ | h⟩ := showFrame_cases env d
  · rw [h, hview.clocked]
  · rw [h, armRefreshTimer_clocked, hview.clocked]

@[simp] theorem loadFramePosition_clocked (s : Store) (index : ℕ) :
    (d.loadFramePosition env s index).1.clocked = d.clocked := by
  obtain ⟨d₁, hview, d₂, ok, hload, hend⟩ :=
    loadFramePosition_cases (Prod.mk.eta (p := d.loadFramePosition env s index)).symm
  have hsent : d₂.clocked = d.clocked := (loadFrame_clocked hload).trans hview.clocked
  rcases hend with ⟨-, h⟩ | ⟨-, h⟩
  · rw [h, hsent]
  · rw [h, showFrame_clocked, hsent]

end

section

variable [Board] {env env' : Env} {s : Store} {o : Option Order} {d d' d'' : Display}

/-- What is sent from one display to another: blanks, and transfers of a kind. -/
def Sends (P : Transfer → Prop) (d d' : Display) : Prop :=
  ∃ sent, d'.clocked = d.clocked ++ sent ∧ ∀ tr ∈ sent, tr = blank ∨ P tr

variable {P Q : Transfer → Prop}

theorem Sends.of_eq (h : d'.clocked = d.clocked) : Sends P d d' :=
  ⟨[], by rw [h, List.append_nil], nofun⟩

theorem Sends.trans (h : Sends P d d') (h' : Sends P d' d'') : Sends P d d'' := by
  obtain ⟨sent, hsent, hP⟩ := h
  obtain ⟨sent', hsent', hP'⟩ := h'
  refine ⟨sent ++ sent', by rw [hsent', hsent, List.append_assoc], fun tr htr => ?_⟩
  rcases List.mem_append.1 htr with htr | htr
  · exact hP tr htr
  · exact hP' tr htr

theorem Sends.mono (h : Sends P d d') (hPQ : ∀ tr, P tr → Q tr) : Sends Q d d' := by
  obtain ⟨sent, hsent, hP⟩ := h
  exact ⟨sent, hsent, fun tr htr => (hP tr htr).imp_right (hPQ tr)⟩

theorem Sends.allOff (env : Env) (d : Display) : Sends P d (d.enterAllOff env) := by
  refine ⟨_, enterAllOff_clocked env d, fun tr htr => .inl ?_⟩
  simpa using htr

/-- A transmission sends what the display holds. -/
theorem Sends.transmit (env : Env) (d : Display) : Sends (fun tr => d.refresh.refreshFlag = true ∧
    tr = clockedBlocks d.screen.frameBuf d.screen.blockByteCount) d (d.transmitOnRefresh env) := by
  refine ⟨_, (transmitOnRefresh_view env d).2.2.2.2, fun tr htr => .inr ?_⟩
  split_ifs at htr with hflag
  · rw [Bool.and_eq_true] at hflag
    exact ⟨hflag.1, List.mem_singleton.1 htr⟩
  · cases htr

/-- A change that is not of a service sends blanks. -/
theorem Paint.sends (ho : o ≠ some .service) (h : Paint env s o d d') : Sends P d d' := by
  cases h with
  | look h => exact .of_eq h.clocked
  | clocks p => exact .of_eq rfl
  | outputs ao => exact .of_eq rfl
  | forget ao => exact .of_eq rfl
  | allOff he => exact .allOff _ d
  | allOn he => exact .of_eq (enterAllOn_clocked ..)
  | error he code => exact .of_eq (showError_clocked ..)
  | stream he hblock hframe => exact .of_eq (showStream_clocked ..)
  | rate he hrate hz0 => exact .of_eq (setRefreshRate_view ..).2.2
  | mode hmode => exact .of_eq rfl
  | position he hposition hopen hindex hskip => exact .of_eq (loadFramePosition_clocked ..)
  | psramIndex he index => exact .of_eq (displayPsramIndex_clocked ..)
  | psramPlay he start count fps => exact .of_eq (psramPlay_clocked ..)
  | psramNext he hservice => exact absurd hservice ho
  | advance he hservice => exact absurd hservice ho
  | disarm hreset => exact .of_eq rfl
  | transmit he hservice => exact absurd hservice ho
  | isr => exact .of_eq (refreshIsr_view d).2.2.2.2.2

theorem Paints.sends (ho : o ≠ some .service) (h : Paints env s o d d') : Sends P d d' := by
  induction h with
  | refl => exact .of_eq rfl
  | tail _ hpaint ih => exact ih.trans (hpaint.sends ho)

/-- A trial sends blanks. -/
theorem Trial.sends {s' : Store} (h : Trial env s d s' d') : Sends P d d' := by
  obtain ⟨duty, hmode, run, hend⟩ := h
  rename_i mode _ _ _ _ _ d₁ ok
  suffices hsends : Sends P d d₁ by
    rcases hend with rfl | ⟨-, rfl⟩
    · exact hsends
    · exact hsends
  obtain ⟨-, ⟨-, -, d₂, -, -, -, -, hclocked, rfl⟩ | ⟨-, d₂, -, -, -, -, hclocked, hload⟩⟩ :=
    enterPatternMode_cases run
  · exact .of_eq ((showError_clocked ..).trans hclocked)
  · rcases hload with ⟨d₃, hload, -, rfl⟩ | ⟨d₃, hload, hstart⟩
    · exact .of_eq ((loadFrame_clocked hload).trans hclocked)
    · have hkept : Sends P d d₃ := .of_eq ((loadFrame_clocked hload).trans hclocked)
      refine hkept.trans ?_
      obtain ⟨d₄, -, -, -, -, hclocked₄, ⟨-, -, hview⟩ | ⟨-, d₅, hview, rfl⟩⟩ := startPattern_cases hstart
      · exact .of_eq (hview.clocked.trans hclocked₄)
      · refine Sends.trans ?_ (.allOff _ d₅)
        exact .of_eq (hview.clocked.trans hclocked₄)

end

/-! ### What a service sends -/

section

variable [Board] (env : Env) (s : Store) (d : Display)

/-- An error waits for a refresh of its own. -/
theorem showError_refreshFlag (code : ControllerError) :
    (d.showError env code).refresh.refreshFlag = false := by
  unfold showError
  dsimp only
  generalize rateFor _ _ = hz
  obtain ⟨_, _, h⟩ := armRefreshTimer_fst (env.call 3) hz _
  rw [h]
  rfl

/-- The trial ends with this service. -/
def trialExpires (env : Env) (d : Display) : Bool :=
  d.playback.trialEndMs ≠ 0 && Link.due ((env.call 1).millis 0) d.playback.trialEndMs

/-- The timers of a service end the trial, or leave what it shows, what it has recorded and what
it has sent. -/
theorem serviceTimers_cases :
    (d.trialExpires env = true ∧ ∃ (d₁ : Display) (env' : Env),
      d.serviceTimers env = d₁.enterAllOff env' ∧ d₁.clocked = d.clocked) ∨
    (d.trialExpires env = false ∧ (d.serviceTimers env).screen = d.screen ∧
      (d.serviceTimers env).refresh = d.refresh ∧ (d.serviceTimers env).marks = d.marks ∧
      (d.serviceTimers env).clocked = d.clocked) := by
  obtain ⟨ao, hao⟩ : ∃ ao, d.serviceAoLut (env.call 0) = { d with ao := ao } := by
    rcases serviceAoLut_cases (env.call 0) d with h | ⟨ao, -, h⟩
    · exact ⟨d.ao, h⟩
    · exact ⟨ao, h⟩
  unfold serviceTimers trialExpires
  rw [hao]
  rcases serviceTrialTimer_cases (env.call 1) { d with ao := ao } with ⟨h, hkept⟩ | ⟨h, hset, hdue⟩
  · rw [h]
    refine .inr ⟨?_, rfl, rfl, rfl, rfl⟩
    rcases hkept with h0 | hdue
    · rw [show d.playback.trialEndMs = 0 from h0]
      rfl
    · rw [show Link.due _ d.playback.trialEndMs = false from hdue, Bool.and_false]
  · refine .inl ⟨?_, _, _, h, rfl⟩
    rw [show Link.due _ d.playback.trialEndMs = true from hdue, Bool.and_true]
    exact decide_eq_true hset

/-- Moving a pattern on sends nothing, and what is then transmitted is of the state before. -/
theorem advance_sends : (d.advance env s).clocked = d.clocked ∧
    (d.advance env s).screen.panelDispMode = d.screen.panelDispMode ∧
    ((d.advance env s).screen.state = d.screen.state ∨
      (d.advance env s).refresh.refreshFlag = false) := by
  rcases advance_cases env d s with hmoved | ⟨-, d₁, index, h, -, hmoved⟩ | ⟨-, d₁, index, h, hmoved⟩
  · rw [hmoved.clocked, hmoved.screen]
    exact ⟨rfl, rfl, .inl rfl⟩
  · have hload := (Prod.mk.eta (p := d₁.loadFrame (env.call 1) s index)).symm
    rw [h, loadFrame_clocked hload, loadFrame_mode hload, hmoved.clocked, hmoved.screen]
    refine ⟨rfl, rfl, ?_⟩
    obtain ⟨d₂, bytes, err, -, hafter, ⟨-, -, hend⟩ | ⟨-, -, hend⟩⟩ := loadFrame_cases hload
    · rw [hend]
      exact .inr (showError_refreshFlag ..)
    · rw [hend, acceptFrame_state, hafter.screen, hmoved.screen]
      exact .inl rfl
  · rw [h]
    refine ⟨hmoved.clocked, ?_, .inl ?_⟩
    · exact (congrArg Screen.panelDispMode hmoved.screen :)
    · exact (congrArg Screen.state hmoved.screen :)

end

/-! ### What the buffer holds -/

section

variable [Board] {law : ArenaState → UInt8 → UInt8 → Prop} {env env' : Env} {s : Store}
  {o : Option Order} {d d' : Display}

/-- The blocks in the buffer, unless the display is off, obey the law. -/
structure Lawful (law : ArenaState → UInt8 → UInt8 → Prop) (d : Display) : Prop where
  mode : d.screen.panelDispMode ≤ 3
  size : d.screen.blockByteCount = panelBlockByteCountGs2 ∨
    d.screen.blockByteCount = panelBlockByteCountGs16 ∨ d.screen.blockByteCount = blockByteCountPsram
  blocks : d.screen.state ≠ .allOff →
    d.screen.Blocks (law d.screen.state d.screen.panelDispMode)

theorem Lawful.congr (h : Lawful law d) (hstate : d'.screen.state = d.screen.state)
    (hmode : d'.screen.panelDispMode = d.screen.panelDispMode)
    (hbuf : d'.screen.frameBuf = d.screen.frameBuf)
    (hblock : d'.screen.blockByteCount = d.screen.blockByteCount)
    (hbytes : d'.screen.frameByteCount = d.screen.frameByteCount) : Lawful law d' := by
  constructor
  · rw [hmode]
    exact h.mode
  · rw [hblock]
    exact h.size
  · rw [hstate, hmode]
    exact fun hon => (h.blocks hon).congr hbuf hblock hbytes

theorem Lawful.of_sameView (h : Lawful law d) (hview : SameView d d') : Lawful law d' := by
  refine h.congr ?_ ?_ ?_ ?_ ?_ <;> rw [hview.screen]

/-- A frame that has the mode. -/
theorem Lawful.of_hasMode (hlaw : Allows law) (hmode : d.screen.panelDispMode ≤ 3)
    (hstate : d.screen.state ≠ .errorDisplay)
    (h : d.screen.Blocks (HasMode d.screen.panelDispMode)) : Lawful law d :=
  ⟨hmode, h.size, fun _ => h.mono fun op => hlaw.hasMode _ _ op hstate⟩

theorem enterAllOff_lawful (hmode : d.screen.panelDispMode ≤ 3) (env : Env) :
    Lawful law (d.enterAllOff env) := by
  constructor
  · rw [enterAllOff_screen]
    exact hmode
  · rw [enterAllOff_screen]
    exact .inl rfl
  · rw [enterAllOff_state]
    exact fun hon => absurd rfl hon

theorem enterAllOn_lawful (hlaw : Allows law) (hmode : d.screen.panelDispMode ≤ 3) (env : Env) :
    Lawful law (d.enterAllOn env) := by
  have hkept : (d.enterAllOn env).screen.panelDispMode = d.screen.panelDispMode := by
    rw [enterAllOn_screen]
  refine .of_hasMode hlaw ?_ ?_ ?_
  · rw [hkept]
    exact hmode
  · rw [enterAllOn_screen]
    nofun
  · rw [hkept]
    exact enterAllOn_blocks hmode env

theorem showError_lawful (hlaw : Allows law) (hmode : d.screen.panelDispMode ≤ 3) (env : Env)
    (code : ControllerError) : Lawful law (d.showError env code) := by
  have hblocks := showError_blocks env code d
  refine ⟨?_, hblocks.size, fun _ => ?_⟩
  · rw [showError_screen]
    exact hmode
  · rw [showError_state]
    exact hblocks.mono (hlaw.glyph _)

theorem showStream_lawful (hlaw : Allows law) (hmode : d.screen.panelDispMode ≤ 3)
    {blockByteCount : ℕ} {frame : List UInt8}
    (hblock : blockByteCount = panelBlockByteCountGs2 ∨ blockByteCount = panelBlockByteCountGs16)
    (hframe : frame.length = streamFramePrefixByteCount + panelCountPerFrame * blockByteCount)
    (env : Env) : Lawful law (d.showStream env blockByteCount frame) := by
  have hkept : (d.showStream env blockByteCount frame).screen.panelDispMode
      = d.screen.panelDispMode := by
    obtain ⟨buf, hscreen⟩ := showStream_screen env d blockByteCount frame
    rw [hscreen]
  refine .of_hasMode hlaw ?_ ?_ ?_
  · rw [hkept]
    exact hmode
  · rw [(showStream_view ..).1]
    nofun
  · rw [hkept]
    exact showStream_blocks hmode hblock hframe env

theorem setRefreshRate_lawful (h : Lawful law d) (env : Env) (hz : ℕ) :
    Lawful law (d.setRefreshRate env hz).1 := by
  refine h.congr ?_ ?_ ?_ ?_ ?_ <;> rw [(setRefreshRate_view env d hz).1]

/-- A frame of the PSRAM. -/
theorem lawful_of_psram (hlaw : Allows law) (hmode : d.screen.panelDispMode ≤ 3) (env : Env)
    (index : ℕ) (hscreen : d'.screen = { (d.buildPsramFrame env index).screen with
      state := .psramPlay }) : Lawful law d' := by
  have hblocks := buildPsramFrame_blocks hmode env index
  refine .of_hasMode hlaw ?_ ?_ ?_
  · rw [hscreen]
    exact hmode
  · rw [hscreen]
    nofun
  · rw [hscreen]
    exact hblocks.congr rfl rfl rfl

theorem loadFramePosition_lawful (hlaw : Allows law) (hfits : Sd.Store.FitsArena s.sd)
    (h : Lawful law d) (env : Env) (index : ℕ) : Lawful law (d.loadFramePosition env s index).1 := by
  obtain ⟨d₁, hview, d₂, ok, hload, hend⟩ :=
    loadFramePosition_cases (Prod.mk.eta (p := d.loadFramePosition env s index)).symm
  have hmode₁ : d₁.screen.panelDispMode ≤ 3 := by
    rw [hview.screen]
    exact h.mode
  have hmode₂ := loadFrame_mode hload
  have hmode : d₂.screen.panelDispMode ≤ 3 := by
    rw [hmode₂]
    exact hmode₁
  have hsize : d₁.screen.blockByteCount = panelBlockByteCountGs2 ∨
      d₁.screen.blockByteCount = panelBlockByteCountGs16 ∨
      d₁.screen.blockByteCount = blockByteCountPsram := by
    rw [hview.screen]
    exact h.size
  rcases loadFrame_blocks hfits hmode₁ hsize hload with
    ⟨rfl, hstate, hblocks⟩ | ⟨rfl, -, hblocks⟩
  · rcases hend with ⟨-, hd⟩ | ⟨hok, -⟩
    · rw [hd]
      refine ⟨hmode, hblocks.size, fun _ => ?_⟩
      rw [hstate]
      exact hblocks.mono (hlaw.glyph _)
    · cases hok
  · rcases hend with ⟨hok, -⟩ | ⟨-, hd⟩
    · cases hok
    · have hscreen := (showFrame_view (env.call 1) d₂).1
      rw [hd]
      refine .of_hasMode hlaw ?_ ?_ ?_
      · rw [hscreen]
        exact hmode
      · rw [hscreen]
        nofun
      · rw [hscreen, hmode₂]
        exact hblocks.congr rfl rfl rfl

/-- A pattern that runs is moved on. -/
theorem loadFrame_lawful (hlaw : Allows law) (hfits : Sd.Store.FitsArena s.sd) (h : Lawful law d)
    (hstate : d.screen.state ≠ .errorDisplay) {index : ℕ} {ok : Bool}
    (hload : d.loadFrame env s index = (d', ok)) : Lawful law d' := by
  have hkept := loadFrame_mode hload
  have hmode : d'.screen.panelDispMode ≤ 3 := by
    rw [hkept]
    exact h.mode
  rcases loadFrame_blocks hfits h.mode h.size hload with ⟨-, hend, hblocks⟩ | ⟨-, hend, hblocks⟩
  · refine ⟨hmode, hblocks.size, fun _ => ?_⟩
    rw [hend]
    exact hblocks.mono (hlaw.glyph _)
  · refine .of_hasMode hlaw hmode ?_ ?_
    · rw [hend]
      exact hstate
    · rw [hkept]
      exact hblocks

/-- The mode is changed: what is shown is patched. -/
theorem panelDispMode_lawful {law' : ArenaState → UInt8 → UInt8 → Prop} (hlaw : Allows law')
    (h : Lawful law d) {mode : UInt8} (hmode : mode ≤ 3)
    (hglyph : d.screen.state = .errorDisplay → ∀ op, law .errorDisplay d.screen.panelDispMode op →
      law' .errorDisplay mode (dispOpcodeWithMode (op &&& 0xFC) mode)) :
    Lawful law' { d with screen := ({ d.screen with panelDispMode := mode } : Screen).patchDispMode } := by
  obtain ⟨buf, hbuf⟩ := patchDispMode_eq { d.screen with panelDispMode := mode }
  have hstate : ({ d.screen with panelDispMode := mode } : Screen).patchDispMode.state
      = d.screen.state := by rw [hbuf]
  have hpatched : ({ d.screen with panelDispMode := mode } : Screen).patchDispMode.panelDispMode
      = mode := by rw [hbuf]
  refine ⟨?_, ?_, fun hon => ?_⟩
  · dsimp only
    rw [hpatched]
    exact hmode
  · dsimp only
    rw [hbuf]
    exact h.size
  · dsimp only at hon ⊢
    rw [hstate] at hon
    have hblocks := h.blocks hon
    have hsized : Screen.Sized { d.screen with panelDispMode := mode } := hblocks.sized
    rw [hstate, hpatched]
    by_cases herror : d.screen.state = .errorDisplay
    · rw [herror] at hblocks ⊢
      exact Screen.patchDispMode_blocks hsized (hglyph herror) hblocks.opcode
    · exact (Screen.patchDispMode_hasMode hsized hmode).mono fun op => hlaw.hasMode _ _ op herror

/-! ### Changes -/

theorem Trial.lawful {s' : Store} (hlaw : Allows law) (hfits : Sd.Store.FitsArena s.sd)
    (h : Trial env s d s' d') (hd : Lawful law d) : Lawful law d' := by
  obtain ⟨duty, hmode, run, hend⟩ := h
  rename_i mode _ _ _ _ _ d₁ ok
  suffices hlawful : Lawful law d₁ by
    rcases hend with rfl | ⟨-, rfl⟩
    · exact hlawful
    · exact hlawful.congr rfl rfl rfl rfl rfl
  obtain ⟨hstore, ⟨-, -, d₂, hscreen, -, -, -, -, rfl⟩ | ⟨hopened, d₂, hscreen, -, -, -, -, hload⟩⟩ :=
    enterPatternMode_cases run
  · refine showError_lawful hlaw ?_ _ _
    rw [hscreen]
    exact hd.mode
  have hfits' : Sd.Store.FitsArena s'.sd := by
    rw [hstore]
    exact Sd.Store.openPattern_fits hfits _ _
  have hopen : s'.sd.fileOpen = true := by
    rw [hstore]
    exact (Sd.Store.openPattern_open (Prod.ext rfl hopened)).1
  have hmode₂ : d₂.screen.panelDispMode ≤ 3 := by
    rw [hscreen]
    exact hd.mode
  have hsize : d₂.screen.blockByteCount = panelBlockByteCountGs2 ∨
      d₂.screen.blockByteCount = panelBlockByteCountGs16 ∨
      d₂.screen.blockByteCount = blockByteCountPsram := by
    rw [hscreen]
    rcases (hfits' hopen).2 with h | h
    · exact .inl h
    · exact .inr (.inl h)
  have hloaded {d₃ : Display} {ok : Bool}
      (hload : d₂.loadFrame (env.call 5) s' d₂.screen.curFrameIndex = (d₃, ok)) :
      d₃.screen.panelDispMode ≤ 3 := by
    rw [loadFrame_mode hload]
    exact hmode₂
  rcases hload with ⟨d₃, hload, -, rfl⟩ | ⟨d₃, hload, hstart⟩
  · rcases loadFrame_blocks hfits' hmode₂ hsize hload with ⟨-, hstate, hblocks⟩ | ⟨hok, -⟩
    · refine ⟨hloaded hload, hblocks.size, fun _ => ?_⟩
      rw [hstate]
      exact hblocks.mono (hlaw.glyph _)
    · cases hok
  · rcases loadFrame_blocks hfits' hmode₂ hsize hload with ⟨hok, -⟩ | ⟨-, -, hblocks⟩
    · cases hok
    rw [← loadFrame_mode hload] at hblocks
    obtain ⟨d₄, hscreen₄, -, -, -, -, ⟨-, -, hview⟩ | ⟨-, d₅, hview, rfl⟩⟩ := startPattern_cases hstart
    · refine .of_hasMode hlaw ?_ ?_ ?_
      · rw [hview.screen, hscreen₄]
        exact hloaded hload
      · rw [hview.screen, hscreen₄]
        rcases hmode with rfl | rfl | rfl <;> nofun
      · rw [hview.screen, hscreen₄]
        exact hblocks.congr rfl rfl rfl
    · refine enterAllOff_lawful ?_ _
      rw [hview.screen, hscreen₄]
      exact hloaded hload

/-- The law allows the patch of a glyph, if one is ordered. -/
def AllowsOrder (law : ArenaState → UInt8 → UInt8 → Prop) (o : Option Order) : Prop :=
  ∀ mode, o = some (.mode mode) → ∀ m op, law .errorDisplay m op →
    law .errorDisplay mode (dispOpcodeWithMode (op &&& 0xFC) mode)

theorem Paint.lawful (hlaw : Allows law) (hfits : Sd.Store.FitsArena s.sd)
    (horder : AllowsOrder law o) (h : Paint env s o d d') (hd : Lawful law d) : Lawful law d' := by
  cases h with
  | look h => exact hd.of_sameView h
  | clocks p => exact hd.congr rfl rfl rfl rfl rfl
  | outputs ao => exact hd.congr rfl rfl rfl rfl rfl
  | forget ao => exact hd.congr rfl rfl rfl rfl rfl
  | allOff he => exact enterAllOff_lawful hd.mode _
  | allOn he => exact enterAllOn_lawful hlaw hd.mode _
  | error he code => exact showError_lawful hlaw hd.mode _ code
  | stream he hblock hframe => exact showStream_lawful hlaw hd.mode hblock hframe _
  | rate he ho hz0 => exact setRefreshRate_lawful hd ..
  | mode ho hmode => exact panelDispMode_lawful hlaw hd hmode fun _ => horder _ ho _
  | position he ho hopen hindex hskip => exact loadFramePosition_lawful hlaw hfits hd ..
  | psramIndex he index =>
    exact lawful_of_psram hlaw hd.mode _ _ (displayPsramIndex_view _ d _).1
  | psramPlay he start count fps =>
    exact lawful_of_psram hlaw hd.mode _ _ (psramPlay_view _ d _ _ _).1
  | @psramNext env' he ho index d d₁ hstate hmoved =>
    have hstate₁ : d₁.screen.state = .psramPlay := by
      rw [hmoved.screen]
      exact hstate
    have hmode₁ : d₁.screen.panelDispMode ≤ 3 := by
      rw [hmoved.screen]
      exact hd.mode
    refine lawful_of_psram (d := d₁) hlaw hmode₁ env' index ?_
    rw [← hstate₁]
    rfl
  | @advance env' he ho index d d₁ hstate hindex hmoved =>
    have hd₁ : Lawful law d₁ := by
      refine hd.congr ?_ ?_ ?_ ?_ ?_ <;> rw [hmoved.screen]
    refine loadFrame_lawful hlaw hfits hd₁ ?_ (Prod.mk.eta (p := d₁.loadFrame env' s index)).symm
    rw [hmoved.screen]
    rcases hstate with hstate | hstate <;> rw [hstate] <;> nofun
  | disarm ho => exact hd.congr rfl rfl rfl rfl rfl
  | transmit he ho hon =>
    refine hd.congr ?_ ?_ ?_ ?_ ?_ <;> rw [(transmitOnRefresh_view _ d).1]
  | isr => refine hd.congr ?_ ?_ ?_ ?_ ?_ <;> rw [(refreshIsr_view d).1]

theorem Paints.lawful (hlaw : Allows law) (hfits : Sd.Store.FitsArena s.sd)
    (horder : AllowsOrder law o) (h : Paints env s o d d') (hd : Lawful law d) : Lawful law d' := by
  induction h with
  | refl => exact hd
  | tail _ hpaint ih => exact hpaint.lawful hlaw hfits horder ih

/-- **What a service sends.**  Blanks, or the frame shown, which obeys the law. -/
theorem serviceDisplay_sends (hlaw : Allows law) (hfits : Sd.Store.FitsArena s.sd)
    (h : Lawful law d) (env : Env) :
    Sends (fun tr => d.screen.state ≠ .allOff ∧ Carries (fun b => validateParity b = true ∧
      law d.screen.state d.screen.panelDispMode (opcodeOf b)) tr) d (d.serviceDisplay env s) := by
  unfold serviceDisplay
  dsimp only
  rcases serviceTimers_cases env d with ⟨-, d₁, env', hoff, hclocked⟩ | ⟨-, hscreen, -, -, hclocked⟩
  · rw [hoff, if_pos (enterAllOff_state env' d₁)]
    exact (Sends.of_eq hclocked).trans (.allOff env' d₁)
  have htimers : Lawful law (d.serviceTimers env) := by
    refine h.congr ?_ ?_ ?_ ?_ ?_ <;> rw [hscreen]
  rw [hscreen]
  split
  · exact .of_eq hclocked
  next hon =>
  obtain ⟨hkept, hmode, hstate⟩ := advance_sends (env.call 2) s (d.serviceTimers env)
  have hadvanced : Lawful law ((d.serviceTimers env).advance (env.call 2) s) :=
    (advance_paints (.refl (env.call 2)) s _).lawful hlaw hfits (fun _ h => by cases h) htimers
  rw [hscreen] at hmode hstate
  generalize (d.serviceTimers env).advance (env.call 2) s = d₂ at hkept hmode hstate hadvanced ⊢
  have htransmits : Sends (fun tr => d.screen.state ≠ .allOff ∧
      Carries (fun b => validateParity b = true ∧
        law d.screen.state d.screen.panelDispMode (opcodeOf b)) tr) d
      (d₂.transmitOnRefresh (env.call 3)) := by
    refine (Sends.of_eq (hkept.trans hclocked)).trans ((Sends.transmit (env.call 3) d₂).mono ?_)
    rintro tr ⟨hflag, rfl⟩
    rcases hstate with hstate | hnone
    · refine ⟨hon, ?_⟩
      have hblocks := hadvanced.blocks (by rwa [hstate])
      rw [hstate, hmode] at hblocks
      exact hblocks.carries
    · rw [hnone] at hflag
      cases hflag
  split_ifs
  · exact htransmits.trans (.allOff _ _)
  · exact htransmits

end

end Display

namespace Controller

open Display

section

variable [Board] {law : ArenaState → UInt8 → UInt8 → Prop} {c : Controller} {i : Action × Env}

/-! ### Steps -/

/-- What a law is to allow of a step that changes the mode under a glyph. -/
def AllowsPatch (law : ArenaState → UInt8 → UInt8 → Prop) (c : Controller) (i : Action × Env) : Prop :=
  ∀ mode, c.order i = some (.mode mode) → c.display.screen.state = .errorDisplay →
    ∀ op, law .errorDisplay c.display.screen.panelDispMode op →
      law .errorDisplay mode (dispOpcodeWithMode (op &&& 0xFC) mode)

/-- The open pattern fits the arena, and the buffer obeys the law. -/
structure ObeysLaw (law : ArenaState → UInt8 → UInt8 → Prop) (c : Controller) : Prop where
  fits : Sd.Store.FitsArena c.store.sd
  lawful : Lawful law c.display

theorem step_fits (h : Sd.Store.FitsArena c.store.sd) (i : Action × Env) :
    Sd.Store.FitsArena (c.step i).store.sd := by
  rcases step_shows c i with ⟨hkept, -⟩ | ⟨he, -, htrial, -⟩
  · exact h.kept hkept
  · obtain ⟨_, -, run, -⟩ := htrial
    rw [(Display.enterPatternMode_cases run).1]
    exact Sd.Store.openPattern_fits h _ _

/-- **A step keeps the law.** -/
theorem step_obeysLaw (hlaw : Allows law) (h : ObeysLaw law c) (hpatch : AllowsPatch law c i) :
    ObeysLaw law (c.step i) := by
  refine ⟨step_fits h.fits i, ?_⟩
  by_cases hmode : ∃ mode, c.order i = some (.mode mode)
  · obtain ⟨mode, horder⟩ := hmode
    obtain ⟨t, haction, hrun, hbinary, hof⟩ := order_cases horder nofun
    obtain ⟨hcommand, hlen, hdata, hle⟩ := Order.ofCommand_mode hof
    obtain ⟨d, hbefore, hafter⟩ := step_displayCommand i.2 hrun hbinary hcommand
    rw [← haction] at hafter
    refine Lawful.of_sameView ?_ hafter
    change Lawful law (d.handleSetPanelDisplayMode _).1
    unfold Display.handleSetPanelDisplayMode
    dsimp only
    rw [if_neg (not_not.2 hlen), ← hdata, if_neg (UInt8.not_lt.2 hle)]
    refine panelDispMode_lawful hlaw (h.lawful.of_sameView hbefore) hle ?_
    rw [hbefore.screen]
    exact hpatch mode horder
  · have hother (mode : UInt8) : c.order i ≠ some (.mode mode) := fun horder => hmode ⟨mode, horder⟩
    rcases step_shows c i with ⟨-, hpaints⟩ | ⟨he, hbefore, htrial, hafter⟩
    · exact hpaints.lawful hlaw h.fits (fun _ horder => absurd horder (hother _)) h.lawful
    · exact (htrial.lawful hlaw h.fits (h.lawful.of_sameView hbefore)).of_sameView hafter

theorem setup_obeysLaw (boot : Boot) (env : Env) : ObeysLaw law (setup boot env) := by
  refine ⟨fun hopen => ?_, enterAllOff_lawful ?_ _⟩
  · rw [show (setup boot env).store.sd.fileOpen = false from Sd.begin_fileOpen ..] at hopen
    cases hopen
  · rw [enterAllOff_screen]
    exact (by decide : (1 : UInt8) ≤ 3)

theorem run_obeysLaw (hlaw : Allows law) {boot : Boot} {env₀ : Env} {is : List (Action × Env)}
    (h : Along step (AllowsPatch law) (setup boot env₀) is) :
    ObeysLaw law (run step (setup boot env₀) is) :=
  run_inv (fun _ _ => step_obeysLaw hlaw) (setup_obeysLaw boot env₀) h

/-- **What a step sends.** -/
theorem step_sends (hlaw : Allows law) (h : ObeysLaw law c) (i : Action × Env) :
    Display.Sends (fun tr => c.display.screen.state ≠ .allOff ∧ Carries (fun b => validateParity b = true ∧
      law c.display.screen.state c.display.screen.panelDispMode (opcodeOf b)) tr)
      c.display (c.step i).display := by
  by_cases hservice : c.order i = some .service
  · obtain ⟨haction, hrun⟩ := order_service hservice
    obtain ⟨a, env⟩ := i
    dsimp only at haction
    subst haction
    unfold step
    rw [if_neg (by rw [hrun]; nofun)]
    exact serviceDisplay_sends hlaw h.fits h.lawful env
  · rcases step_shows c i with ⟨-, hpaints⟩ | ⟨he, hbefore, htrial, hafter⟩
    · exact hpaints.sends hservice
    · refine Display.Sends.trans (.of_eq hbefore.clocked) (htrial.sends.trans (.of_eq hafter.clocked))

/-! ### Runs -/

theorem setup_clocked (boot : Boot) (env : Env) :
    (setup boot env).display.clocked = List.replicate 6 blank := by
  change (Display.enterAllOff _ (Display.enterAllOff _ _)).clocked = _
  rw [enterAllOff_clocked, enterAllOff_clocked]
  rfl

/-- **Parity.**  Whatever a run does, each block of each transfer has a valid parity. -/
theorem transfers_parity (boot : Boot) (env₀ : Env) (is : List (Action × Env)) :
    ∀ tr ∈ (run step (setup boot env₀) is).display.clocked,
      Carries (fun b => validateParity b = true) tr := by
  have hblank : Carries (fun b => validateParity b = true) blank :=
    blank_carries.mono fun _ hb => hb.1
  have hstep (c : Controller) (i : Action × Env)
      (h : ObeysLaw (fun _ _ _ => True) c ∧ ∀ tr ∈ c.display.clocked,
        Carries (fun b => validateParity b = true) tr) (_ : True) :
      ObeysLaw (fun _ _ _ => True) (c.step i) ∧ ∀ tr ∈ (c.step i).display.clocked,
        Carries (fun b => validateParity b = true) tr := by
    refine ⟨step_obeysLaw true_allows h.1 fun _ _ _ _ _ => trivial, fun tr htr => ?_⟩
    obtain ⟨sent, hsent, hcarries⟩ := step_sends true_allows h.1 i
    rw [hsent] at htr
    rcases List.mem_append.1 htr with htr | htr
    · exact h.2 tr htr
    · rcases hcarries tr htr with rfl | ⟨-, hcarry⟩
      · exact hblank
      · exact hcarry.mono fun _ hb => hb.1
  refine (run_inv hstep ⟨setup_obeysLaw boot env₀, fun tr htr => ?_⟩
    (along_of_forall (fun _ _ _ => trivial) _)).2
  rw [setup_clocked] at htr
  rw [List.eq_of_mem_replicate htr]
  exact hblank

/-- The mode is not changed under a glyph, but to the one of its opcode. -/
def KeepsGlyph (c : Controller) (i : Action × Env) : Prop :=
  ∀ o ∈ c.order i, c.display.screen.state = .errorDisplay → o.repatches = false

instance (c : Controller) (i : Action × Env) : Decidable (KeepsGlyph c i) :=
  inferInstanceAs (Decidable (∀ o ∈ c.order i, c.display.screen.state = .errorDisplay →
    o.repatches = false))

omit [Board] in
theorem KeepsGlyph.allowsPatch (h : KeepsGlyph c i) : AllowsPatch opcodeLaw c i := by
  rintro mode horder hstate op hop
  obtain rfl : mode = 0 := not_not.1 (of_decide_eq_false (h _ horder hstate))
  obtain rfl : op = cmdDisp16lvlOneshot := hop
  exact (by decide +kernel : dispOpcodeWithMode (cmdDisp16lvlOneshot &&& 0xFC) 0 = cmdDisp16lvlOneshot)

/-- **Opcodes.**  In a run that changes the mode under no glyph, the blocks in the buffer of a
display that is on obey the law of its state and mode, and whatever a further step sends is the
blank, of its own opcode, or obeys the law. -/
theorem transfers_opcode (boot : Boot) (env₀ : Env) (is : List (Action × Env))
    (h : Along step KeepsGlyph (setup boot env₀) is) :
    let c := run step (setup boot env₀) is
    let law := opcodeLaw c.display.screen.state c.display.screen.panelDispMode
    (c.display.screen.state ≠ .allOff → ∀ p < panelCountPerFrame,
        law (opcodeOf (panelBlock c.display.screen.frameBuf c.display.screen.blockByteCount p))) ∧
      ∀ i, ∃ sent, (c.step i).display.clocked = c.display.clocked ++ sent ∧ ∀ tr ∈ sent,
        (tr = blank ∧ Carries (fun b => opcodeOf b = cmdDisp2lvlPersist) tr) ∨
          (c.display.screen.state ≠ .allOff ∧ Carries (fun b => law (opcodeOf b)) tr) := by
  have hobeys := run_obeysLaw opcodeLaw_allows (h.mono fun _ _ => KeepsGlyph.allowsPatch)
  dsimp only
  generalize run step (setup boot env₀) is = c at hobeys
  refine ⟨fun hon => (hobeys.lawful.blocks hon).opcode, fun i => ?_⟩
  obtain ⟨sent, hsent, hcarries⟩ := step_sends opcodeLaw_allows hobeys i
  refine ⟨sent, hsent, fun tr htr => ?_⟩
  rcases hcarries tr htr with rfl | ⟨hon, hcarry⟩
  · exact .inl ⟨rfl, blank_carries.mono fun _ hb => hb.2⟩
  · exact .inr ⟨hon, hcarry.mono fun _ hb => hb.2⟩

end

end Controller

section

local instance wireBoard : Board := ⟨.hw10_10⟩

/-- A command that does not exist, a mode, and a refresh. -/
def glyphRun : List (Action × Env) :=
  receive .serial [1, 0xEE] (.calm Sd.goodIo) ++ receive .serial [2, 0x1B, 2] (.calm Sd.goodIo)
    ++ [(.refreshIsr, .calm Sd.goodIo)]

/-- A mode, and then a command that does not exist. -/
def exemptRun : List (Action × Env) :=
  receive .serial [2, 0x1B, 2] (.calm Sd.goodIo) ++ receive .serial [1, 0xEE] (.calm Sd.goodIo)
    ++ [(.refreshIsr, .calm Sd.goodIo)]

theorem transfers_parity_glyph :
    let c := run Controller.step (setup (.cold Sd.sampleCard) (.calm Sd.goodIo))
      (glyphRun ++ [(.serviceDisplay, .calm Sd.goodIo)])
    Carries (fun b => validateParity b = true) (c.display.clocked.get ⟨6, by decide +kernel⟩) :=
  Controller.transfers_parity _ _ _ _ (List.get_mem _ _)

theorem transfers_opcode_exempt :
    let c := run Controller.step (setup (.cold Sd.sampleCard) (.calm Sd.goodIo)) exemptRun
    let law := opcodeLaw c.display.screen.state c.display.screen.panelDispMode
    (c.display.screen.state ≠ .allOff → ∀ p < panelCountPerFrame,
        law (opcodeOf (panelBlock c.display.screen.frameBuf c.display.screen.blockByteCount p))) ∧
      ∀ i, ∃ sent, (c.step i).display.clocked = c.display.clocked ++ sent ∧ ∀ tr ∈ sent,
        (tr = blank ∧ Carries (fun b => opcodeOf b = cmdDisp2lvlPersist) tr) ∨
          (c.display.screen.state ≠ .allOff ∧ Carries (fun b => law (opcodeOf b)) tr) :=
  Controller.transfers_opcode _ _ _ ⟨by decide +kernel, by decide +kernel, by decide +kernel,
    by decide +kernel, by decide +kernel, by decide +kernel, by decide +kernel, trivial⟩

/-- **A mode under a glyph.**  The glyph is sent with the mode patched into its opcode. -/
theorem glyph_repatched :
    let c := run Controller.step (setup (.cold Sd.sampleCard) (.calm Sd.goodIo)) glyphRun
    let sent := (c.step (.serviceDisplay, .calm Sd.goodIo)).display.clocked.drop 6
    c.display.screen.state = .errorDisplay ∧
      (sent.map fun tr => opcodeOf (tr.head?.getD (0, [])).2) = [0x32] := by
  decide +kernel

end

end Command
end G6Arena
