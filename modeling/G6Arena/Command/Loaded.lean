/-
# The frame in the buffer

While the buffer is said to hold a frame of the card (`frameBufIsFrame`), it holds the one stored
under the index of the display in the pattern that was opened for it, but for what patches change
(`FrameHeld`).  This is so exactly while a pattern is played (`Held`), in every run from a card
whose files are well formed (`run_held`).

The buffer is compared with itself: to store the frame in it once more would change no more than a
patch may change.
-/

import G6Arena.Command.Wire
import G6Arena.Panel.Spots

namespace G6Arena
namespace Command

open ByteMem Link Panel Machine
open Sd (ControllerError Store)

/-- The law of the opcodes, but for a glyph. -/
def playedLaw (state : ArenaState) (mode op : UInt8) : Prop :=
  state = .errorDisplay ∨ HasMode mode op

theorem playedLaw_allows : Allows playedLaw :=
  ⟨fun _ _ _ => .inl rfl, fun _ _ _ _ hmode => .inr hmode⟩

namespace Screen

section

variable [Board] {s : Screen}

/-! ### What a patch may change -/

/-- A duty is patched into every block. -/
def patchesDuty (s : Screen) : Bool :=
  s.trialDuty ≠ 0 && (s.blockByteCount = panelBlockByteCountGs2 || s.blockByteCount = panelBlockByteCountGs16)

theorem Sized.three_le (h : s.Sized) : 3 ≤ s.blockByteCount := by
  rcases h.1 with h | h | h <;> rw [h] <;> decide

/-- The mode changes opcodes. -/
theorem patchDispMode_sameFrame (h : s.Sized) (hmode : s.panelDispMode ≤ 3) :
    SameFrame s.blockByteCount false s.frameBuf s.patchDispMode.frameBuf := by
  have hlen := h.two_le
  have hprefix := h.prefix_lt
  unfold patchDispMode
  rw [if_neg (by omega), h.blockCount]
  refine SameFrame.eachBlock hlen (fun q hq buf => ?_) (by omega) _
  unfold setDispMode
  refine SameFrame.byte ?_
  rw [spot_of_block hq (by omega), if_neg (by omega), if_pos rfl]
  exact dispOpcodeWithMode_family hmode _

/-- A duty changes the last byte of each block. -/
theorem patchTrialDuty_sameFrame (h : s.Sized) :
    SameFrame s.blockByteCount s.patchesDuty s.frameBuf s.patchTrialDuty.frameBuf := by
  have hlen := h.three_le
  unfold patchTrialDuty
  split_ifs with h0 hother hprefix
  · exact .refl _ _ _
  · exact .refl _ _ _
  · exact .refl _ _ _
  have hduty : s.patchesDuty = true := by
    unfold patchesDuty
    rw [decide_eq_true h0, Bool.true_and, Bool.or_eq_true, decide_eq_true_eq, decide_eq_true_eq]
    by_contra hno
    rw [not_or] at hno
    exact hother hno
  rw [hduty]
  dsimp only
  rw [h.blockCount]
  refine SameFrame.eachBlock h.two_le (fun q hq buf => ?_) (by omega) _
  unfold setDuty
  refine SameFrame.byte ?_
  rw [show streamFramePrefixByteCount + q * s.blockByteCount + s.blockByteCount - 1
    = streamFramePrefixByteCount + q * s.blockByteCount + (s.blockByteCount - 1) by omega,
    spot_of_block hq (by omega), if_neg (by omega), if_neg (by omega), Bool.true_and,
    if_pos (by rw [decide_eq_true_eq]; omega)]
  trivial

/-- The duty in every block, if one is patched. -/
def HasDuty (s : Screen) : Prop :=
  s.patchesDuty = true → ∀ p < panelCountPerFrame,
    (panelBlock s.frameBuf s.blockByteCount p).getD (s.blockByteCount - 1) 0 = s.trialDuty

theorem patchTrialDuty_hasDuty (h : s.Sized) (hduty : s.patchesDuty = true) {p : ℕ}
    (hp : p < panelCountPerFrame) :
    (panelBlock s.patchTrialDuty.frameBuf s.blockByteCount p).getD (s.blockByteCount - 1) 0
      = s.trialDuty := by
  have hlen := h.three_le
  have hprefix := h.prefix_lt
  unfold patchesDuty at hduty
  rw [Bool.and_eq_true, Bool.or_eq_true, decide_eq_true_eq, decide_eq_true_eq, decide_eq_true_eq] at hduty
  unfold patchTrialDuty
  rw [if_neg hduty.1, if_neg (by tauto), if_neg (by omega)]
  dsimp only
  rw [h.blockCount]
  refine panelBlock_eachBlock (fun _ => True)
    (fun b => b.getD (s.blockByteCount - 1) 0 = s.trialDuty) (setDuty_staysIn _ h.two_le)
    (fun off buf _ => ?_) (fun _ _ _ => trivial) (Nat.zero_le p) (by omega)
  rw [getD_bytesAt _ _ _ _ (by omega), stampHeaderParity_apply_ne _ _ (by omega)]
  unfold setDuty
  rw [show off + (s.blockByteCount - 1) = off + s.blockByteCount - 1 + 0 by omega]
  exact store_apply_add buf _ [s.trialDuty] Nat.zero_lt_one

/-- A frame stored once more changes no more than a patch. -/
def Holds (bytes : List UInt8) (s : Screen) : Prop :=
  SameFrame s.blockByteCount s.patchesDuty (ByteMem.store s.frameBuf 0 bytes) s.frameBuf

/-- A patch leaves the frame. -/
theorem Holds.patched {bytes : List UInt8} {buf : Mem} (h : Holds bytes s)
    (hpatch : SameFrame s.blockByteCount s.patchesDuty s.frameBuf buf) :
    Holds bytes { s with frameBuf := buf } :=
  ((hpatch.store bytes).symm.trans h).trans hpatch

/-- A frame that was just stored, and patched. -/
theorem holds_patched {bytes : List UInt8} {buf₀ buf : Mem}
    (hpatch : SameFrame s.blockByteCount s.patchesDuty (ByteMem.store buf₀ 0 bytes) buf) :
    Holds bytes { s with frameBuf := buf } := by
  have hstored := hpatch.store bytes
  rw [ByteMem.store_store] at hstored
  exact hstored.symm.trans hpatch

/-- Both patches of a frame that was just stored. -/
theorem patched_holds (h : s.Sized) (hmode : s.panelDispMode ≤ 3) {bytes : List UInt8} {buf₀ : Mem}
    (hbuf : s.frameBuf = ByteMem.store buf₀ 0 bytes) :
    s.patchDispMode.patchTrialDuty.Holds bytes ∧ s.patchDispMode.patchTrialDuty.HasDuty := by
  have hdisp := patchDispMode_sameFrame h hmode
  obtain ⟨buf₁, hbuf₁⟩ := Display.patchDispMode_eq s
  rw [hbuf₁] at hdisp ⊢
  have hsized : Sized { s with frameBuf := buf₁ } := h
  have htrial := patchTrialDuty_sameFrame hsized
  have hduty := @patchTrialDuty_hasDuty _ _ hsized
  obtain ⟨buf₂, hbuf₂⟩ := Display.patchTrialDuty_eq { s with frameBuf := buf₁ }
  rw [hbuf₂] at htrial hduty ⊢
  refine ⟨?_, fun hpatches p hp => hduty hpatches hp⟩
  have hstored : SameFrame s.blockByteCount s.patchesDuty (ByteMem.store buf₀ 0 bytes) buf₁ := by
    rw [← hbuf]
    exact SameFrame.of_false hdisp _
  exact holds_patched (hstored.trans htrial)

/-- The mode patched into a frame with its duty. -/
theorem patchDispMode_hasDuty (h : s.Sized) (hmode : s.panelDispMode ≤ 3) (hduty : s.HasDuty) :
    s.patchDispMode.HasDuty := by
  have hlen := h.three_le
  have hsame := patchDispMode_sameFrame h hmode
  obtain ⟨buf, hbuf⟩ := Display.patchDispMode_eq s
  rw [hbuf] at hsame ⊢
  intro hpatches p hp
  have hlast := hsame.getD_panelBlock hp (show s.blockByteCount - 1 < s.blockByteCount by omega)
  rw [if_neg (by omega), if_neg (by omega), Bool.false_and, if_neg Bool.false_ne_true] at hlast
  exact Eq.trans hlast (hduty hpatches p hp)

end

end Screen

namespace Display

section

variable [Board] {env env' : Env} {s s' : Store} {o : Option Order} {d d' : Display}

/-! ### The invariant -/

/-- The frame in the buffer is the one of the display. -/
structure FrameHeld (s : Store) (d : Display) : Prop where
  pattern : s.sd.openId = d.screen.patternId
  flags : d.marks.frameSrcFlags &&& kFrameFlagSdRead = kFrameFlagSdRead
  below : ∃ f, s.sd.file = some f ∧ f < s.card.fresh
  fits : s.sd.info.numPanels = panelCountPerFrame ∧ (s.sd.info.blockSize = panelBlockByteCountGs2 ∨
    s.sd.info.blockSize = panelBlockByteCountGs16)
  stored : ∃ bytes, s.storedFrame d.screen.curFrameIndex = some bytes ∧
    bytes.length = Sd.Store.bodyLen s.sd.info ∧ d.screen.Holds bytes
  duty : d.screen.HasDuty

/-- The open pattern, if there is one, is the one of the display. -/
def Opened (s : Store) (d : Display) : Prop :=
  s.sd.fileOpen = true → s.sd.openId = d.screen.patternId ∧
    d.screen.frameCount = s.sd.info.frameCount ∧ ∃ f, s.sd.file = some f ∧ f < s.card.fresh

/-- The buffer holds a frame exactly while a pattern is played, and the open pattern is the one of
the display. -/
structure Held (s : Store) (d : Display) : Prop where
  opened : Opened s d
  plays : d.screen.frameBufIsFrame = d.screen.state.pattern
  frame : d.screen.frameBufIsFrame = true → FrameHeld s d

theorem FrameHeld.congr (h : FrameHeld s d) (hflags : d'.marks.frameSrcFlags = d.marks.frameSrcFlags)
    (hpattern : d'.screen.patternId = d.screen.patternId)
    (hindex : d'.screen.curFrameIndex = d.screen.curFrameIndex)
    (hbuf : d'.screen.frameBuf = d.screen.frameBuf)
    (hblock : d'.screen.blockByteCount = d.screen.blockByteCount)
    (hduty : d'.screen.trialDuty = d.screen.trialDuty) : FrameHeld s d' := by
  have hpatches : d'.screen.patchesDuty = d.screen.patchesDuty := by
    unfold Screen.patchesDuty
    rw [hduty, hblock]
  constructor
  · rw [hpattern]
    exact h.pattern
  · rw [hflags]
    exact h.flags
  · exact h.below
  · exact h.fits
  · unfold Screen.Holds
    rw [hindex, hbuf, hblock, hpatches]
    exact h.stored
  · unfold Screen.HasDuty
    rw [hpatches, hbuf, hblock, hduty]
    exact h.duty

theorem Held.congr (h : Held s d) (hscreen : d'.screen = d.screen)
    (hflags : d'.marks.frameSrcFlags = d.marks.frameSrcFlags) : Held s d' := by
  constructor
  · unfold Opened
    rw [hscreen]
    exact h.opened
  · rw [hscreen]
    exact h.plays
  · rw [hscreen]
    intro hframe
    refine (h.frame hframe).congr hflags ?_ ?_ ?_ ?_ ?_ <;> rw [hscreen]

theorem Held.of_sameView (h : Held s d) (hview : SameView d d') : Held s d' :=
  h.congr hview.screen hview.flags

/-- Whatever else is shown, no frame is held. -/
theorem Held.other (h : Held s d) (hpattern : d'.screen.patternId = d.screen.patternId)
    (hcount : d'.screen.frameCount = d.screen.frameCount) (hframe : d'.screen.frameBufIsFrame = false)
    (hplays : d'.screen.state.pattern = false) : Held s d' := by
  constructor
  · unfold Opened
    rw [hpattern, hcount]
    exact h.opened
  · rw [hframe, hplays]
  · rw [hframe]
    nofun

/-- The store moves on. -/
theorem Held.stored (h : Held s d) (hkept : Sd.OpenKept s.sd s'.sd)
    (hgrows : Sd.Card.Grows s.card s'.card) : Held s' d := by
  have hbelow (hfile : ∃ f, s.sd.file = some f ∧ f < s.card.fresh) :
      ∃ f, s'.sd.file = some f ∧ f < s'.card.fresh := by
    obtain ⟨f, hf, hlt⟩ := hfile
    exact ⟨f, hkept.file.trans hf, hlt.trans_le hgrows.fresh⟩
  constructor
  · intro hopen
    obtain ⟨hid, hcount, hfile⟩ := h.opened (hkept.fileOpen hopen)
    exact ⟨hkept.openId.trans hid, hcount.trans (by rw [hkept.info]), hbelow hfile⟩
  · exact h.plays
  · intro hframe
    obtain ⟨hpattern, hflags, hfile, hfits, ⟨bytes, hstored, hlen, hholds⟩, hduty⟩ := h.frame hframe
    refine ⟨hkept.openId.trans hpattern, hflags, hbelow hfile, ?_, ⟨bytes, ?_, ?_, hholds⟩, hduty⟩
    · rw [hkept.info]
      exact hfits
    · obtain ⟨f, hf, hlt⟩ := hfile
      exact Sd.Store.storedFrame_grows hkept.file hkept.info hf (hgrows.content f hlt) hstored hlen
    · rw [hkept.info]
      exact hlen

/-! ### Loads -/

omit [Board] in
/-- A frame that is accepted is marked as read. -/
theorem acceptFrame_flags (env : Env) (s : Store) (index : ℕ) (d : Display) :
    (d.acceptFrame env s index).marks.frameSrcFlags &&& kFrameFlagSdRead = kFrameFlagSdRead := by
  change (kFrameFlagSdRead ||| if s.sd.contiguous then kFrameFlagContiguous else 0)
    &&& kFrameFlagSdRead = kFrameFlagSdRead
  split_ifs <;> rfl

/-- A frame that is loaded is held. -/
theorem loadFrame_held (hfits : Sd.Store.FitsArena s.sd) (hmode : d.screen.panelDispMode ≤ 3)
    (hsize : d.screen.blockByteCount = panelBlockByteCountGs2 ∨
      d.screen.blockByteCount = panelBlockByteCountGs16 ∨ d.screen.blockByteCount = blockByteCountPsram)
    (hopened : Opened s d)
    (h : d.loadFrame env s d.screen.curFrameIndex = (d', true)) : FrameHeld s d' := by
  obtain ⟨d₁, bytes, err, hread, hafter, ⟨hok, -⟩ | ⟨-, rfl, rfl⟩⟩ := loadFrame_cases h
  · cases hok
  obtain ⟨hpattern, -, hfile⟩ := hopened (Sd.Store.readFrame_open hread).1
  obtain ⟨hstored, hlen⟩ := Sd.Store.readFrame_stored hread
  have hopenFits := hfits (Sd.Store.readFrame_open hread).1
  have hpanels := hopenFits.1
  have hsized : Screen.Sized { d₁.screen with
      frameByteCount := frameBytes s.sd.info.numPanels d₁.screen.blockByteCount
      frameBufIsFrame := true } := by
    refine ⟨?_, ?_⟩
    · rw [hafter.screen]
      exact hsize
    · rw [hpanels]
  have hmode₁ : d₁.screen.panelDispMode ≤ 3 := by
    rw [hafter.screen]
    exact hmode
  have hbuf : d₁.screen.frameBuf = ByteMem.store d.screen.frameBuf 0 bytes := by rw [hafter.screen]
  obtain ⟨hholds, hduty⟩ := Screen.patched_holds hsized hmode₁ hbuf
  obtain ⟨buf, hscreen⟩ := acceptFrame_screen_eq (env.call 3) d₁ s d.screen.curFrameIndex
  refine ⟨?_, ?_, hfile, hopenFits, ⟨bytes, ?_, hlen, ?_⟩, ?_⟩
  · rw [hscreen, hafter.screen]
    exact hpattern
  · exact acceptFrame_flags ..
  · rw [hscreen, hafter.screen]
    exact hstored
  · rw [acceptFrame_screen]
    exact hholds
  · rw [acceptFrame_screen]
    exact hduty

/-- What a load leaves. -/
theorem loadFrame_kept {index : ℕ} {ok : Bool} (h : d.loadFrame env s index = (d', ok)) :
    d'.screen.patternId = d.screen.patternId ∧ d'.screen.frameCount = d.screen.frameCount ∧
      d'.screen.frameBufIsFrame = ok ∧
      d'.screen.state = if ok then d.screen.state else .errorDisplay := by
  obtain ⟨d₁, bytes, err, -, hafter, ⟨rfl, -, rfl⟩ | ⟨rfl, -, rfl⟩⟩ := loadFrame_cases h
  · rw [showError_screen, hafter.screen]
    exact ⟨rfl, rfl, rfl, rfl⟩
  · obtain ⟨buf, hscreen⟩ := acceptFrame_screen_eq (env.call 3) d₁ s index
    rw [hscreen, hafter.screen]
    exact ⟨rfl, rfl, rfl, rfl⟩

/-- A frame that is shown keeps its source. -/
theorem showFrame_flags (env : Env) (d : Display) :
    (d.showFrame env).1.marks.frameSrcFlags = d.marks.frameSrcFlags := by
  obtain ⟨d₁, hview, ⟨h, -⟩ | h⟩ := showFrame_cases env d
  · rw [h, hview.flags]
  · obtain ⟨_, _, harm⟩ := armRefreshTimer_fst (env.call 1) d₁.refresh.rateHz d₁
    rw [h, harm, hview.flags]

theorem loadFramePosition_held (hfits : Sd.Store.FitsArena s.sd) (hlawful : Lawful playedLaw d)
    (h : Held s d) (env : Env) (index : ℕ) : Held s (d.loadFramePosition env s index).1 := by
  obtain ⟨d₁, hview, d₂, ok, hload, hend⟩ :=
    loadFramePosition_cases (Prod.mk.eta (p := d.loadFramePosition env s index)).symm
  obtain ⟨hpattern, hcount, hframe, hstate⟩ := loadFrame_kept hload
  rw [hview.screen] at hpattern hcount
  cases ok with
  | false =>
    rcases hend with ⟨-, hd⟩ | ⟨hok, -⟩
    · rw [hd]
      refine h.other hpattern hcount hframe ?_
      rw [hstate]
      rfl
    · cases hok
  | true =>
    rcases hend with ⟨hok, -⟩ | ⟨-, hd⟩
    · cases hok
    have hheld : FrameHeld s d₂ := by
      have hload₁ : d₁.loadFrame (env.call 0) s d₁.screen.curFrameIndex = (d₂, true) := by
        rw [hview.screen]
        exact hload
      refine loadFrame_held hfits ?_ ?_ ?_ hload₁
      · rw [hview.screen]
        exact hlawful.mode
      · rw [hview.screen]
        exact hlawful.size
      · unfold Opened
        rw [hview.screen]
        exact h.opened
    have hscreen := (showFrame_view (env.call 1) d₂).1
    rw [hd]
    constructor
    · unfold Opened
      rw [hscreen, hpattern, hcount]
      exact h.opened
    · rw [hscreen, hframe]
      rfl
    · rw [hscreen]
      intro _
      refine hheld.congr (showFrame_flags ..) ?_ ?_ ?_ ?_ ?_ <;> rw [hscreen]

/-- A pattern that is played is moved on. -/
theorem advance_held (hfits : Sd.Store.FitsArena s.sd) (hlawful : Lawful playedLaw d) (h : Held s d)
    (hstate : d.screen.state = .openLoop ∨ d.screen.state = .closedLoop) {index : ℕ} {d₁ : Display}
    (hmoved : Moved index d d₁) (env : Env) : Held s (d₁.loadFrame env s index).1 := by
  have hload := (Prod.mk.eta (p := d₁.loadFrame env s index)).symm
  generalize (d₁.loadFrame env s index).1 = d₂ at hload
  obtain ⟨hpattern, hcount, hframe, hstate₂⟩ := loadFrame_kept hload
  rw [hmoved.screen] at hpattern hcount hstate₂
  generalize (d₁.loadFrame env s index).2 = ok at hload hframe hstate₂
  cases ok with
  | false =>
    refine h.other hpattern hcount hframe ?_
    rw [hstate₂]
    rfl
  | true =>
    constructor
    · unfold Opened
      rw [hpattern, hcount]
      exact h.opened
    · rw [hframe, hstate₂]
      rcases hstate with hstate | hstate <;> exact (congrArg ArenaState.pattern hstate).symm
    · intro _
      have hload₁ : d₁.loadFrame env s d₁.screen.curFrameIndex = (d₂, true) := by
        rw [hmoved.screen]
        exact hload
      refine loadFrame_held hfits ?_ ?_ ?_ hload₁
      · rw [hmoved.screen]
        exact hlawful.mode
      · rw [hmoved.screen]
        exact hlawful.size
      · unfold Opened
        rw [hmoved.screen]
        exact h.opened

/-- The mode of a frame is changed. -/
theorem panelDispMode_held (hlawful : Lawful playedLaw d) (h : Held s d) {mode : UInt8}
    (hmode : mode ≤ 3) :
    Held s { d with screen := ({ d.screen with panelDispMode := mode } : Screen).patchDispMode } := by
  obtain ⟨buf, hbuf⟩ := patchDispMode_eq { d.screen with panelDispMode := mode }
  rw [hbuf]
  refine ⟨h.opened, h.plays, fun hframe => ?_⟩
  have hon : d.screen.state ≠ .allOff := by
    intro hoff
    have hplays := h.plays
    rw [show d.screen.frameBufIsFrame = true from hframe, hoff] at hplays
    cases hplays
  have hsized : Screen.Sized { d.screen with panelDispMode := mode } := (hlawful.blocks hon).sized
  obtain ⟨hpattern, hflags, hfile, hfits, ⟨bytes, hstored, hlen, hholds⟩, hduty⟩ := h.frame hframe
  have hsame := Screen.patchDispMode_sameFrame hsized hmode
  have hkept := Screen.patchDispMode_hasDuty hsized hmode hduty
  rw [hbuf] at hsame hkept
  exact ⟨hpattern, hflags, hfile, hfits, ⟨bytes, hstored, hlen, hholds.patched (hsame.of_false _)⟩,
    hkept⟩

/-- A transmission keeps the frame and its source. -/
theorem transmitOnRefresh_flags (env : Env) (d : Display) :
    (d.transmitOnRefresh env).marks.frameSrcFlags = d.marks.frameSrcFlags := by
  unfold transmitOnRefresh
  split
  · obtain ⟨_, h⟩ := transferFrame_eq { d with refresh := { d.refresh with refreshFlag := false } }
    dsimp only at h ⊢
    rw [h]
    split_ifs <;> rfl
  · rfl

/-! ### Changes -/

theorem Paint.held (hfits : Sd.Store.FitsArena s.sd) (h : Paint env s o d d')
    (hlawful : Lawful playedLaw d) (hd : Held s d) : Held s d' := by
  cases h with
  | look h => exact hd.of_sameView h
  | clocks p => exact hd.congr rfl rfl
  | outputs ao => exact hd.congr rfl rfl
  | forget ao => exact ⟨hd.opened, hd.plays, fun hframe => (hd.frame hframe).congr rfl rfl rfl rfl rfl rfl⟩
  | allOff he =>
    refine hd.other ?_ ?_ ?_ ?_ <;> rw [enterAllOff_screen]
    rfl
  | allOn he =>
    refine hd.other ?_ ?_ ?_ ?_ <;> rw [enterAllOn_screen]
    rfl
  | error he code =>
    refine hd.other ?_ ?_ ?_ ?_ <;> rw [showError_screen]
    rfl
  | @stream env' he blockByteCount frame hblock hframe =>
    obtain ⟨buf, hscreen⟩ := showStream_screen env' d blockByteCount frame
    refine hd.other ?_ ?_ ?_ ?_ <;> rw [hscreen]
    rfl
  | @rate env' he hz ho hz0 =>
    obtain ⟨hscreen, hmarks, -⟩ := setRefreshRate_view env' d hz
    exact hd.congr hscreen (by rw [hmarks])
  | mode ho hmode => exact panelDispMode_held hlawful hd hmode
  | position he ho hopen hindex hskip => exact loadFramePosition_held hfits hlawful hd ..
  | psramIndex he index =>
    refine hd.other ?_ ?_ ?_ ?_ <;> rw [(displayPsramIndex_view ..).1]
    all_goals rfl
  | psramPlay he start count fps =>
    refine hd.other ?_ ?_ ?_ ?_ <;> rw [(psramPlay_view ..).1]
    all_goals rfl
  | psramNext he ho index hstate hmoved =>
    refine hd.other ?_ ?_ rfl ?_
    · exact (congrArg Screen.patternId hmoved.screen :)
    · exact (congrArg Screen.frameCount hmoved.screen :)
    · exact congrArg ArenaState.pattern ((congrArg Screen.state hmoved.screen).trans hstate)
  | advance he ho hstate hindex hmoved => exact advance_held hfits hlawful hd hstate hmoved _
  | disarm ho => exact hd.congr rfl rfl
  | transmit he ho hon =>
    exact hd.congr (transmitOnRefresh_view _ d).1 (transmitOnRefresh_flags _ d)
  | isr =>
    refine hd.congr (refreshIsr_view d).1 ?_
    unfold refreshIsr
    split_ifs <;> rfl

/-- What is open after a pattern was, or was not. -/
theorem openPattern_opened (h : Opened s d) (hwf : s.card.WellFormed) {io : Sd.SdIo} {id : ℕ}
    {err : ControllerError} (hopened : s.openPattern io id = (s', err)) :
    (err ≠ .ceNone → Opened s' d) ∧
      (err = .ceNone → s'.sd.openId = id ∧ ∃ f, s'.sd.file = some f ∧ f < s'.card.fresh) := by
  rcases Sd.Store.openPattern_cases hopened with ⟨rfl, herr⟩ | ⟨rfl, herr, hopen, hid, -⟩ |
    ⟨hcard, -, -, ⟨hclosed, -, herr⟩ | ⟨entry, f, _, -, hentry, -, -, hfile, hid, -, -, -, herr⟩⟩
  · exact ⟨fun _ => h, fun hnone => absurd hnone herr⟩
  · exact ⟨fun _ => h, fun _ => ⟨hid, (h hopen).2.2⟩⟩
  · refine ⟨fun _ hopen => ?_, fun hnone => absurd hnone herr⟩
    rw [hclosed] at hopen
    cases hopen
  · refine ⟨fun hnone => absurd herr hnone, fun _ => ⟨hid, f, hfile, ?_⟩⟩
    rw [hcard]
    exact hwf.below hentry

/-- A pattern that starts keeps the source of its frame. -/
theorem startPattern_flags {mode : ArenaState} {durationTicks : ℕ}
    (h : d.startPattern env mode durationTicks = (d', true)) :
    d'.marks.frameSrcFlags = d.marks.frameSrcFlags := by
  unfold startPattern at h
  dsimp only at h
  split at h
  · cases h
  · next harm =>
    rcases armRefreshTimer_cases harm with ⟨-, -, rfl⟩ | ⟨hok, -⟩
    · cases h
      rfl
    · cases hok

theorem Trial.held (hfits : Sd.Store.FitsArena s.sd) (hwf : s.card.WellFormed)
    (h : Trial env s d s' d') (hlawful : Lawful playedLaw d) (hd : Held s d) : Held s' d' := by
  obtain ⟨duty, hmode, run, hend⟩ := h
  rename_i mode patternId _ _ _ _ d₁ ok
  suffices hheld : Held s' d₁ ∧ (ok = false → d₁.screen.frameBufIsFrame = false) by
    rcases hend with rfl | ⟨hfail, rfl⟩
    · exact hheld.1
    · obtain ⟨hopened, hplays, -⟩ := hheld.1
      have hnone := hheld.2 hfail
      refine ⟨hopened, hplays, fun hframe => ?_⟩
      rw [show d₁.screen.frameBufIsFrame = true from hframe] at hnone
      cases hnone
  obtain ⟨hstore, hrun⟩ := enterPatternMode_cases run
  obtain ⟨hfailed, hopened⟩ := openPattern_opened hd.opened hwf
    (Prod.mk.eta (p := s.openPattern env.sd patternId)).symm
  rw [← hstore] at hfailed hopened
  rcases hrun with ⟨rfl, herr, d₂, hscreen, -, -, -, -, rfl⟩ | ⟨herr, d₂, hscreen, -, -, -, -, hload⟩
  · have hopen := hfailed herr
    have hshown : (d₂.showError (env.call 3) (s.openPattern env.sd patternId).2).screen.frameBufIsFrame
        = false := by
      rw [showError_screen]
    refine ⟨⟨?_, ?_, ?_⟩, fun _ => hshown⟩
    · unfold Opened
      rw [showError_screen, hscreen]
      exact hopen
    · rw [showError_screen]
      rfl
    · rw [hshown]
      nofun
  obtain ⟨hid, hfile⟩ := hopened herr
  have hfits' : Sd.Store.FitsArena s'.sd := by
    rw [hstore]
    exact Sd.Store.openPattern_fits hfits _ _
  have hopen : s'.sd.fileOpen = true := by
    rw [hstore]
    exact (Sd.Store.openPattern_open (Prod.ext rfl herr)).1
  have hopened₂ : Opened s' d₂ := by
    unfold Opened
    rw [hscreen]
    exact fun _ => ⟨hid, rfl, hfile⟩
  have hother {d₃ : Display} (hpattern : d₃.screen.patternId = d₂.screen.patternId)
      (hcount : d₃.screen.frameCount = d₂.screen.frameCount)
      (hframe : d₃.screen.frameBufIsFrame = false) (hplays : d₃.screen.state.pattern = false) :
      Held s' d₃ := by
    refine ⟨?_, hframe.trans hplays.symm, ?_⟩
    · unfold Opened
      rw [hpattern, hcount]
      exact hopened₂
    · rw [hframe]
      nofun
  rcases hload with ⟨d₃, hload, rfl, rfl⟩ | ⟨d₃, hload, hstart⟩
  · obtain ⟨hpattern, hcount, hframe, hstate⟩ := loadFrame_kept hload
    refine ⟨hother hpattern hcount hframe ?_, fun _ => hframe⟩
    rw [hstate]
    rfl
  · obtain ⟨hpattern, hcount, hframe, -⟩ := loadFrame_kept hload
    have hheld : FrameHeld s' d₃ := by
      refine loadFrame_held (d := d₂) hfits' ?_ ?_ hopened₂ hload
      · rw [hscreen]
        exact hlawful.mode
      · rw [hscreen]
        rcases (hfits' hopen).2 with h | h
        · exact .inl h
        · exact .inr (.inl h)
    obtain ⟨d₄, hscreen₄, -, -, -, -, ⟨rfl, -, hview⟩ | ⟨rfl, d₅, hview, rfl⟩⟩ := startPattern_cases hstart
    · refine ⟨⟨?_, ?_, ?_⟩, nofun⟩
      · unfold Opened
        rw [hview.screen, hscreen₄]
        dsimp only
        rw [hpattern, hcount]
        exact hopened₂
      · rw [hview.screen, hscreen₄]
        rw [show ({ d₃.screen with state := mode } : Screen).frameBufIsFrame = true from hframe]
        rcases hmode with rfl | rfl | rfl <;> rfl
      · intro _
        refine hheld.congr (startPattern_flags hstart) ?_ ?_ ?_ ?_ ?_ <;> rw [hview.screen, hscreen₄]
    · have hscreen₅ := enterAllOff_screen (env.call 6 |>.call 3) d₅
      refine ⟨hother ?_ ?_ ?_ ?_, fun _ => ?_⟩
      · rw [hscreen₅, hview.screen, hscreen₄]
        exact hpattern
      · rw [hscreen₅, hview.screen, hscreen₄]
        exact hcount
      · rw [hscreen₅]
      · rw [hscreen₅]
        rfl
      · rw [hscreen₅]

theorem Paints.held (hfits : Sd.Store.FitsArena s.sd) (h : Paints env s o d d') (hlawful : Lawful playedLaw d) (hd : Held s d) : Held s d' := by
  suffices hboth : Lawful playedLaw d' ∧ Held s d' from hboth.2
  induction h with
  | refl => exact ⟨hlawful, hd⟩
  | tail _ hpaint ih =>
    exact ⟨hpaint.lawful playedLaw_allows hfits (fun _ _ _ _ _ => .inl rfl) ih.1, hpaint.held hfits ih.1 ih.2⟩

end

end Display

namespace Controller

open Display

variable [Board] {c : Controller} {i : Action × Env}

/-! ### Runs -/

/-- The display shows what the store has opened. -/
structure Plays (c : Controller) : Prop where
  obeys : ObeysLaw playedLaw c
  wellFormed : c.store.card.WellFormed
  held : Held c.store c.display

omit [Board] in
theorem allowsPatch_played (c : Controller) (i : Action × Env) : AllowsPatch playedLaw c i :=
  fun _ _ _ _ _ => .inl rfl

theorem step_plays (h : Plays c) (i : Action × Env) : Plays (c.step i) := by
  have hkept := step_kept c i
  refine ⟨step_obeysLaw playedLaw_allows h.obeys (allowsPatch_played c i), hkept.wellFormed h.wellFormed, ?_⟩
  rcases step_shows c i with ⟨hopen, hpaints⟩ | ⟨he, hbefore, htrial, hafter⟩
  · exact (hpaints.held h.obeys.fits h.obeys.lawful h.held).stored hopen hkept.grows
  · exact (htrial.held h.obeys.fits h.wellFormed (h.obeys.lawful.of_sameView hbefore)
      (h.held.of_sameView hbefore)).of_sameView hafter

theorem setup_plays {boot : Boot} (hboot : boot.card.WellFormed) (env : Env) :
    Plays (setup boot env) := by
  refine ⟨setup_obeysLaw boot env, (begin_kept ..).wellFormed hboot, ?_⟩
  have hscreen : (setup boot env).display.screen.frameBufIsFrame = false ∧
      (setup boot env).display.screen.state = .allOff := by
    change (enterAllOff _ _).screen.frameBufIsFrame = false ∧ (enterAllOff _ _).screen.state = _
    rw [enterAllOff_screen]
    exact ⟨rfl, rfl⟩
  constructor
  · intro hopen
    rw [show (setup boot env).store.sd.fileOpen = false from Sd.begin_fileOpen ..] at hopen
    cases hopen
  · rw [hscreen.1, hscreen.2]
    rfl
  · rw [hscreen.1]
    nofun

end Controller

/-- The files of the small card are well formed. -/
theorem smallCard_wellFormed : smallCard.WellFormed := by
  have hdir {p : Sd.Path} {id : Sd.FileId} (h : smallCard.dir p = some id) :
      p = .pattern (Sd.samplePat 0x61) ∧ id = 0 := by
    unfold smallCard at h
    dsimp only at h
    split_ifs at h with ha
    cases h
    exact ⟨ha, rfl⟩
  constructor
  · intro p q id hp hq
    rw [(hdir hp).1, (hdir hq).1]
  · intro p id hp
    rw [(hdir hp).2]
    decide

end Command
end G6Arena

