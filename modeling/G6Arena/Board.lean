/-
# The board a build is for

The panel grid is a property of the hardware, chosen by a build flag
(`-DARENA_HW_*`).  The sizes of frames and buffers follow from it.
-/

import Mathlib.Data.Nat.Notation

namespace G6Arena

/-- `ARENA_HW_10_10`, `ARENA_HW_12_18` and `ARENA_HW_2_10`. -/
inductive ArenaHw
  | hw10_10
  | hw12_18
  | hw2_10
  deriving DecidableEq

/-- The board of the build. -/
class Board where
  hw : ArenaHw

/-! ### Panel blocks -/

def panelBlockByteCountGs2 : ℕ := 53
def panelBlockByteCountGs16 : ℕ := 203
def streamFramePrefixByteCount : ℕ := 4

section

variable [Board]

/-! ### The panel grid -/

def panelCountPerFrameRow : ℕ :=
  match Board.hw with
  | .hw10_10 => 4
  | .hw12_18 => 4
  | .hw2_10 => 2

def panelCountPerFrameCol : ℕ :=
  match Board.hw with
  | .hw10_10 => 10
  | .hw12_18 => 12
  | .hw2_10 => 10

def panelCountPerFrame : ℕ := panelCountPerFrameRow * panelCountPerFrameCol

/-! ### Frames and buffers -/

def streamFrameByteCountGs2 : ℕ :=
  streamFramePrefixByteCount + panelCountPerFrame * panelBlockByteCountGs2

def streamFrameByteCountGs16 : ℕ :=
  streamFramePrefixByteCount + panelCountPerFrame * panelBlockByteCountGs16

def frameBufByteCountMax : ℕ := streamFrameByteCountGs16

/-! ### Refresh rates -/

def refreshRateGs16Default : ℕ :=
  match Board.hw with
  | .hw2_10 => 300
  | _ => 400

def refreshRateGs2Default : ℕ :=
  match Board.hw with
  | .hw2_10 => 1000
  | _ => 1200

theorem panelCountPerFrame_pos : 0 < panelCountPerFrame := by
  unfold panelCountPerFrame panelCountPerFrameRow panelCountPerFrameCol
  cases Board.hw <;> decide

theorem panelCountPerFrame_le : panelCountPerFrame ≤ 48 := by
  unfold panelCountPerFrame panelCountPerFrameRow panelCountPerFrameCol
  cases Board.hw <;> decide

end

end G6Arena
