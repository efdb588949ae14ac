/-
# Frames as they are stored

While a frame of the card is in the buffer, each panel is sent its block of that frame as it is
stored, but for the mode in its opcode, its duty and its parity (`Displayed`).

`SET_FRAME_POSITION` loads a frame for blocks of the size kept for the buffer, which is that of
whatever was shown before: of a glyph, of `ALL_ON`, of the PSRAM.  A run in which it finds the size
of the open pattern there shows its frames (`sd_frames_shown`).
-/

import G6Arena.Command.FrameRecords

namespace G6Arena
namespace Command

open ByteMem Link Panel Machine
open Sd (ControllerError Store)

/-- A block as it is shown, for one that is stored. -/
structure Displayed (mode duty : UInt8) (stored shown : List UInt8) : Prop where
  length : shown.length = stored.length
  header : versionBits (shown.getD 0 0) = versionBits (stored.getD 0 0)
  family : shown.getD 1 0 &&& 0xFC = stored.getD 1 0 &&& 0xFC
  mode : HasMode mode (shown.getD 1 0)
  payload (r : ℕ) : 2 ≤ r → r + 1 < stored.length → shown.getD r 0 = stored.getD r 0
  last : shown.getD (stored.length - 1) 0 = if duty = 0 then stored.getD (stored.length - 1) 0 else duty
  parity : validateParity shown = true

namespace Display

section

variable [Board] {env env' : Env} {s s' : Store} {o : Option Order} {d d' : Display}

/-! ### The geometry of the frame -/

/-- The blocks of a frame of the card are those of the open pattern. -/
def Fitted (s : Store) (d : Display) : Prop :=
  d.screen.frameBufIsFrame = true → d.screen.blockByteCount = s.sd.info.blockSize

/-- **A frame that is held is displayed.** -/
theorem FrameHeld.displayed (hblocks : d.screen.Blocks (HasMode d.screen.panelDispMode))
    (hframe : FrameHeld s d) (hfitted : d.screen.blockByteCount = s.sd.info.blockSize) :
    ∃ bytes, s.storedFrame d.screen.curFrameIndex = some bytes ∧ ∀ p < panelCountPerFrame,
      Displayed d.screen.panelDispMode d.screen.trialDuty
        ((bytes.drop (streamFramePrefixByteCount + p * d.screen.blockByteCount)).take d.screen.blockByteCount)
        (panelBlock d.screen.frameBuf d.screen.blockByteCount p) := by
  have hlen3 := hblocks.sized.three_le
  obtain ⟨bytes, hstored, hlen, hholds⟩ := hframe.stored
  refine ⟨bytes, hstored, fun p hp => ?_⟩
  have hroom : streamFramePrefixByteCount + p * d.screen.blockByteCount + d.screen.blockByteCount
      ≤ bytes.length := by
    have hnext : (p + 1) * d.screen.blockByteCount ≤ panelCountPerFrame * d.screen.blockByteCount :=
      Nat.mul_le_mul_right _ hp
    rw [Nat.succ_mul] at hnext
    rw [hlen, Sd.Store.bodyLen, hframe.fits.1, ← hfitted, Nat.add_assoc]
    exact Nat.add_le_add_left hnext _
  have hpart := bytesAt_store_zero d.screen.frameBuf bytes hroom
  have hbytes (r : ℕ) (hr : r < d.screen.blockByteCount) := hholds.getD_panelBlock hp hr
  have hduties : d.screen.patchesDuty = decide (d.screen.trialDuty ≠ 0) := by
    unfold Screen.patchesDuty
    rw [hfitted]
    rcases hframe.fits.2 with h | h <;> rw [h] <;> simp
  rw [← hpart]
  change Displayed _ _ (panelBlock (ByteMem.store d.screen.frameBuf 0 bytes) _ p) _
  have hstoredLen : (panelBlock (ByteMem.store d.screen.frameBuf 0 bytes) d.screen.blockByteCount p).length
      = d.screen.blockByteCount := length_bytesAt ..
  constructor
  · rw [hstoredLen]
    exact length_bytesAt ..
  · have hhead := hbytes 0 (by omega)
    rwa [if_pos rfl] at hhead
  · have hop := hbytes 1 (by omega)
    rwa [if_neg Nat.one_ne_zero, if_pos rfl] at hop
  · exact hblocks.opcode p hp
  · intro r h2 hr
    rw [hstoredLen] at hr
    have hb := hbytes r (by omega)
    rw [if_neg (by omega), if_neg (by omega), if_neg] at hb
    · exact hb
    · rw [Bool.and_eq_true, decide_eq_true_eq]
      omega
  · rw [hstoredLen]
    have hb := hbytes (d.screen.blockByteCount - 1) (by omega)
    rw [if_neg (by omega), if_neg (by omega), hduties] at hb
    split_ifs with h0
    · rw [h0] at hb
      exact hb
    · exact hframe.duty (by rw [hduties, decide_eq_true h0]) p hp
  · exact hblocks.parity p hp

omit [Board] in
theorem Fitted.congr (h : Fitted s d) (hframe : d'.screen.frameBufIsFrame = d.screen.frameBufIsFrame)
    (hblock : d'.screen.blockByteCount = d.screen.blockByteCount) : Fitted s d' := by
  unfold Fitted
  rw [hframe, hblock]
  exact h

omit [Board] in
theorem fitted_of_none (h : d.screen.frameBufIsFrame = false) : Fitted s d := by
  intro hframe
  rw [h] at hframe
  cases hframe

/-- A load keeps the size of the blocks, or no frame is held. -/
theorem loadFrame_fitted {index : ℕ} {ok : Bool} (h : d.loadFrame env s index = (d', ok))
    (hfitted : ok = true → d.screen.blockByteCount = s.sd.info.blockSize) : Fitted s d' := by
  have hframe := (loadFrame_kept h).2.2.1
  obtain ⟨d₁, bytes, err, -, hafter, ⟨rfl, -, -⟩ | ⟨rfl, -, rfl⟩⟩ := loadFrame_cases h
  · exact fitted_of_none hframe
  · intro _
    obtain ⟨buf, hscreen⟩ := acceptFrame_screen_eq (env.call 3) d₁ s index
    rw [hscreen, hafter.screen]
    exact hfitted rfl

theorem Paint.fitted (hposition : ∀ index, o ≠ some (.position index)) (h : Paint env s o d d')
    (hheld : Held s d) (hd : Fitted s d) : Fitted s d' := by
  cases h with
  | look h => refine hd.congr ?_ ?_ <;> rw [h.screen]
  | clocks p => exact hd.congr rfl rfl
  | outputs ao => exact hd.congr rfl rfl
  | forget ao => exact hd.congr rfl rfl
  | allOff he => exact fitted_of_none (by rw [enterAllOff_screen])
  | allOn he => exact fitted_of_none (by rw [enterAllOn_screen])
  | error he code => exact fitted_of_none (by rw [showError_screen])
  | stream he hblock hframe => exact fitted_of_none (showStream_view ..).2.1
  | rate he ho hz0 => refine hd.congr ?_ ?_ <;> rw [(setRefreshRate_view ..).1]
  | @mode mode ho hmode =>
    obtain ⟨buf, hbuf⟩ := patchDispMode_eq { d.screen with panelDispMode := mode }
    rw [hbuf]
    exact hd.congr rfl rfl
  | position he ho => exact absurd ho (hposition _)
  | psramIndex he index => exact fitted_of_none (by rw [(displayPsramIndex_view ..).1]; rfl)
  | psramPlay he start count fps => exact fitted_of_none (by rw [(psramPlay_view ..).1]; rfl)
  | psramNext he ho index hstate hmoved => exact fitted_of_none rfl
  | @advance env' he ho index d d₁ hstate hindex hmoved =>
    refine loadFrame_fitted (Prod.mk.eta (p := d₁.loadFrame env' s index)).symm fun _ => ?_
    rw [hmoved.screen]
    refine hd ?_
    rw [hheld.plays]
    rcases hstate with hstate | hstate <;> rw [hstate] <;> rfl
  | disarm ho => exact hd.congr rfl rfl
  | transmit he ho hon => refine hd.congr ?_ ?_ <;> rw [(transmitOnRefresh_view _ d).1]
  | isr => refine hd.congr ?_ ?_ <;> rw [(refreshIsr_view d).1]

theorem Paints.fitted (hfits : Sd.Store.FitsArena s.sd) (hposition : ∀ index, o ≠ some (.position index))
    (h : Paints env s o d d') (hlawful : Lawful playedLaw d) (hheld : Held s d) (hd : Fitted s d) :
    Fitted s d' := by
  suffices hall : (Lawful playedLaw d' ∧ Held s d') ∧ Fitted s d' from hall.2
  induction h with
  | refl => exact ⟨⟨hlawful, hheld⟩, hd⟩
  | tail _ hpaint ih =>
    exact ⟨⟨hpaint.lawful playedLaw_allows hfits (fun _ _ _ _ _ => .inl rfl) ih.1.1,
      hpaint.held hfits ih.1.1 ih.1.2⟩, hpaint.fitted hposition ih.1.2 ih.2⟩

theorem Trial.fitted (h : Trial env s d s' d') : Fitted s' d' := by
  obtain ⟨duty, hmode, run, hend⟩ := h
  rename_i mode _ _ _ _ _ d₁ ok
  suffices hfitted : Fitted s' d₁ by
    rcases hend with rfl | ⟨-, rfl⟩
    · exact hfitted
    · exact hfitted.congr rfl rfl
  obtain ⟨-, ⟨-, -, d₂, -, -, -, -, -, rfl⟩ | ⟨-, d₂, hscreen, -, -, -, -, hload⟩⟩ :=
    enterPatternMode_cases run
  · exact fitted_of_none (by rw [showError_screen])
  have hfitted₂ : d₂.screen.blockByteCount = s'.sd.info.blockSize := by rw [hscreen]
  rcases hload with ⟨d₃, hload, -, rfl⟩ | ⟨d₃, hload, hstart⟩
  · exact loadFrame_fitted hload fun _ => hfitted₂
  · have hloaded := loadFrame_fitted hload fun _ => hfitted₂
    obtain ⟨d₄, hscreen₄, -, -, -, -, ⟨-, -, hview⟩ | ⟨-, d₅, -, rfl⟩⟩ := startPattern_cases hstart
    · refine hloaded.congr ?_ ?_ <;> rw [hview.screen, hscreen₄]
    · exact fitted_of_none (by rw [enterAllOff_screen])

end

end Display

namespace Controller

open Display

variable [Board] {c : Controller} {i : Action × Env}

/-! ### Runs -/

/-- A step that loads a frame on request: its pattern is open, the index is one of it, the frame is
not the one in the buffer, and it can be read. -/
def loadsPosition (c : Controller) (i : Action × Env) : Bool :=
  match c.order i with
  | some (.position index) => c.store.sd.fileOpen && decide (index < c.display.screen.frameCount)
    && !c.display.sameIndexSkip index
    && decide ((c.store.readFrame i.2.sd index frameBufByteCountMax).2 = .ceNone)
  | _ => false

/-- A frame that is loaded on request finds the size of its blocks kept. -/
def KeepsGeometry (c : Controller) (i : Action × Env) : Prop :=
  c.loadsPosition i = true → c.display.screen.blockByteCount = c.store.sd.info.blockSize

instance (c : Controller) (i : Action × Env) : Decidable (KeepsGeometry c i) :=
  inferInstanceAs (Decidable (_ → _))

/-- `SET_FRAME_POSITION`. -/
theorem step_position_fitted (hd : Fitted c.store c.display) (hkeeps : KeepsGeometry c i) {index : ℕ}
    (horder : c.order i = some (.position index)) : Fitted c.store (c.step i).display := by
  obtain ⟨t, haction, hrun, hbinary, hof⟩ := order_cases horder nofun
  obtain ⟨hcommand, hlen, hindex⟩ := Order.ofCommand_position hof
  obtain ⟨d, hbefore, hafter⟩ := step_displayCommand i.2 hrun hbinary hcommand
  rw [← haction] at hafter
  have hview {d' d'' : Display} (h : Fitted c.store d') (hview : SameView d' d'') : Fitted c.store d'' := by
    refine h.congr ?_ ?_ <;> rw [hview.screen]
  refine hview ?_ hafter
  change Fitted c.store (d.handleSetFramePosition _ _ _).1
  unfold Display.handleSetFramePosition
  dsimp only
  rw [if_neg (by omega), ← hindex]
  have hcounted : SameView c.display { d with health := { d.health with
      cmd70Count := (d.health.cmd70Count + 1) % 2 ^ 32 } } :=
    hbefore.trans ⟨rfl, rfl, rfl, rfl, rfl, rfl, rfl⟩
  generalize ({ d with health := { d.health with
      cmd70Count := (d.health.cmd70Count + 1) % 2 ^ 32 } } : Display) = d₀ at hcounted
  unfold Display.setFramePosition
  split_ifs with hopen hcount hskip
  · exact fitted_of_none (by rw [showError_screen])
  · exact fitted_of_none (by rw [showError_screen])
  · exact hview (hview hd hcounted) ⟨rfl, rfl, rfl, rfl, rfl, rfl, rfl⟩
  · obtain ⟨d₁, hview₁, d₂, ok, hload, hend⟩ := Display.loadFramePosition_cases
      (Prod.mk.eta (p := d₀.loadFramePosition (i.2.call 5) c.store index)).symm
    have hfitted : Fitted c.store d₂ := by
      refine loadFrame_fitted hload ?_
      rintro rfl
      obtain ⟨d₃, bytes, err, hread, -, ⟨hok, -⟩ | ⟨-, rfl, -⟩⟩ := loadFrame_cases hload
      · cases hok
      rw [Env.call_sd, Env.call_sd] at hread
      rw [hview₁.screen, hcounted.screen]
      refine hkeeps ?_
      rw [hcounted.screen] at hcount
      rw [sameIndexSkip_congr hcounted] at hskip
      unfold loadsPosition
      rw [horder]
      dsimp only
      rw [hread, decide_eq_true (by omega : index < c.display.screen.frameCount)]
      simp_all
    rcases hend with ⟨-, hd'⟩ | ⟨-, hd'⟩
    · rw [hd']
      exact hfitted
    · rw [hd']
      refine hfitted.congr ?_ ?_ <;> rw [(showFrame_view ..).1]

/-- **A step keeps the geometry.** -/
theorem step_fitted (hc : Plays c) (hd : Fitted c.store c.display) (hkeeps : KeepsGeometry c i) :
    Fitted (c.step i).store (c.step i).display := by
  rcases step_shows c i with ⟨hkept, hpaints⟩ | ⟨he, -, htrial, hafter⟩
  · suffices hfitted : Fitted c.store (c.step i).display by
      unfold Fitted
      rw [hkept.info]
      exact hfitted
    by_cases hposition : ∃ index, c.order i = some (.position index)
    · obtain ⟨index, horder⟩ := hposition
      exact step_position_fitted hd hkeeps horder
    · exact hpaints.fitted hc.obeys.fits (fun index horder => hposition ⟨index, horder⟩)
        hc.obeys.lawful hc.held hd
  · refine htrial.fitted.congr ?_ ?_ <;> rw [hafter.screen]

theorem transmits_fitted {d : Display} (hc : Plays c) (hfitted : Fitted c.store c.display)
    (h : c.transmits i = some d) : Fitted c.store d := by
  obtain ⟨-, -, hexpires, -, -, -, rfl⟩ := transmits_cases h
  obtain ⟨hscreen, -, hmarks, -⟩ := serviceTimers_record hexpires
  have hlawful : Lawful playedLaw (c.display.serviceTimers i.2) := by
    refine hc.obeys.lawful.congr ?_ ?_ ?_ ?_ ?_ <;> rw [hscreen]
  refine (advance_paints (.refl (i.2.call 2)) c.store _).fitted hc.obeys.fits (fun _ ho => ?_) hlawful
    (hc.held.congr hscreen (by rw [hmarks])) (hfitted.congr ?_ ?_)
  · cases ho
  · rw [hscreen]
  · rw [hscreen]

/-- What a transmission sends, first. -/
theorem step_transmits {d : Display} (h : c.transmits i = some d)
    (hsize : transferable d.screen.blockByteCount = true) : ∃ more,
    (c.step i).display.clocked
      = c.display.clocked ++ clockedBlocks d.screen.frameBuf d.screen.blockByteCount :: more := by
  obtain ⟨haction, hrun, hexpires, -, hon, -, heq⟩ := transmits_cases h
  have hflag : d.refresh.refreshFlag = true := by
    unfold transmits at h
    rw [haction] at h
    dsimp only at h
    split_ifs at h with hall
    cases h
    exact hall.2.2
  obtain ⟨a, env⟩ := i
  dsimp only at haction hexpires heq
  subst haction
  have htimers : (c.display.serviceTimers env).screen = c.display.screen ∧
      (c.display.serviceTimers env).clocked = c.display.clocked := by
    rcases serviceTimers_cases env c.display with ⟨htrue, -⟩ | ⟨-, hscreen, -, -, hclocked⟩
    · rw [hexpires] at htrue
      cases htrue
    · exact ⟨hscreen, hclocked⟩
  have hkept := (advance_sends (env.call 2) c.store (c.display.serviceTimers env)).1
  rw [← heq, htimers.2] at hkept
  have hsent := (transmitOnRefresh_view (env.call 3) d).2.2.2.2
  rw [hflag, hsize, hkept, Bool.true_and, if_pos rfl] at hsent
  have hdisplay : (c.step (.serviceDisplay, env)).display = c.display.serviceDisplay env c.store := by
    unfold step
    rw [if_neg (by rw [hrun]; nofun)]
    rfl
  rw [hdisplay]
  unfold serviceDisplay
  dsimp only
  rw [htimers.1, if_neg hon, ← heq]
  split_ifs
  · refine ⟨[blank, blank, blank], ?_⟩
    rw [enterAllOff_clocked, hsent]
    simp only [List.append_assoc, List.cons_append, List.nil_append]
  · exact ⟨[], hsent⟩

/-- **Frames as they are stored.**  In a run, from a card whose files are well formed, that loads
frames on request only where the size of their blocks is kept, a frame of the card is transmitted
as it is stored in the file opened for it. -/
theorem sd_frames_shown {boot : Boot} (hboot : boot.card.WellFormed) (env₀ : Env)
    (is : List (Action × Env)) (h : Along step KeepsGeometry (setup boot env₀) is)
    (i : Action × Env) :
    let c := run step (setup boot env₀) is
    ∀ d ∈ c.transmits i, d.screen.frameBufIsFrame = true →
      d.screen.blockByteCount = c.store.sd.info.blockSize ∧
      (∃ more, (c.step i).display.clocked
        = c.display.clocked ++ clockedBlocks d.screen.frameBuf d.screen.blockByteCount :: more) ∧
      ∃ bytes, c.store.storedFrame d.screen.curFrameIndex = some bytes ∧ ∀ p < panelCountPerFrame,
        Displayed d.screen.panelDispMode d.screen.trialDuty
          ((bytes.drop (streamFramePrefixByteCount + p * d.screen.blockByteCount)).take
            d.screen.blockByteCount)
          (panelBlock d.screen.frameBuf d.screen.blockByteCount p) := by
  have hinv := run_inv (I := fun c => Plays c ∧ Fitted c.store c.display) (C := KeepsGeometry)
    (fun c i hc hkeeps => ⟨step_plays hc.1 i, step_fitted hc.1 hc.2 hkeeps⟩)
    ⟨setup_plays hboot env₀, fitted_of_none (by
      change (enterAllOff _ _).screen.frameBufIsFrame = false
      rw [enterAllOff_screen])⟩ h
  dsimp only
  generalize run step (setup boot env₀) is = c at hinv
  obtain ⟨hc, hfitted⟩ := hinv
  intro d hd hframe
  obtain ⟨hlawful, hheld⟩ := transmits_held hc hd
  have hpattern : d.screen.state.pattern = true := by rw [← hheld.plays, hframe]
  have hblocks : d.screen.Blocks (HasMode d.screen.panelDispMode) := by
    refine (hlawful.blocks ?_).mono ?_
    · intro hoff
      rw [hoff] at hpattern
      cases hpattern
    · rintro op (herror | hmode)
      · rw [herror] at hpattern
        cases hpattern
      · exact hmode
  have hsize : d.screen.blockByteCount = c.store.sd.info.blockSize :=
    transmits_fitted hc hfitted hd hframe
  refine ⟨hsize, step_transmits hd ?_, (hheld.frame hframe).displayed hblocks hsize⟩
  rcases hblocks.size with h | h | h <;> rw [h] <;> rfl

end Controller

section

local instance playbackBoard : Board := ⟨.hw2_10⟩

set_option maxRecDepth 100000 in
theorem sd_frames_shown_played :
    let c := run Controller.step (setup (.cold smallCard) (.calm smallIo)) (playedRun.take 4)
    ∀ d ∈ c.transmits (.serviceDisplay, .calm smallIo), d.screen.frameBufIsFrame = true →
      d.screen.blockByteCount = c.store.sd.info.blockSize ∧
      (∃ more, (c.step (.serviceDisplay, .calm smallIo)).display.clocked
        = c.display.clocked ++ clockedBlocks d.screen.frameBuf d.screen.blockByteCount :: more) ∧
      ∃ bytes, c.store.storedFrame d.screen.curFrameIndex = some bytes ∧ ∀ p < panelCountPerFrame,
        Displayed d.screen.panelDispMode d.screen.trialDuty
          ((bytes.drop (streamFramePrefixByteCount + p * d.screen.blockByteCount)).take
            d.screen.blockByteCount)
          (panelBlock d.screen.frameBuf d.screen.blockByteCount p) :=
  Controller.sd_frames_shown smallCard_wellFormed _ _ (by decide +kernel) _

/-- A trial, a command that does not exist, and the first frame again. -/
def glyphThenFrame : List (Action × Env) :=
  receive .serial [12, 0x08, 3, 1, 0, 0, 0, 0, 0, 0, 0, 0, 0] (.calm smallIo)
    ++ receive .serial [1, 0xEE] (.calm smallIo) ++ receive .serial [3, 0x70, 0, 0] (.calm smallIo)
    ++ [(.refreshIsr, .calm smallIo)]

set_option maxRecDepth 100000 in
/-- **A frame cut for the blocks of a glyph.**  A frame of blocks of 53 bytes is transmitted as one
of 203. -/
theorem frame_after_glyph :
    let c := run Controller.step (setup (.cold smallCard) (.calm smallIo)) glyphThenFrame
    c.store.sd.info.blockSize = panelBlockByteCountGs2 ∧
      (c.transmits (.serviceDisplay, .calm smallIo)).map
          (fun d => (d.screen.frameBufIsFrame, d.screen.blockByteCount))
        = some (true, panelBlockByteCountGs16) := by
  decide +kernel

end

end Command
end G6Arena
