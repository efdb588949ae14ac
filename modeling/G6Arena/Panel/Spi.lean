/-
# Frames on the panel bus

`SpiManager::transferFrame`: each panel set is two panels that share a chip select, one
on each bus, and is clocked the two blocks of its panels.  The sets are the tables of
`hw/ArenaConfig_*.h` in transmission order: a column of the first half of the arena and
the same one of the second half, row by row.
-/

import G6Arena.Panel.Protocol

namespace G6Arena
namespace Panel

open ByteMem

/-- What a transfer clocks to each panel, in order. -/
abbrev Transfer : Type := List (ℕ × List UInt8)

/-- The block of panel `p`. -/
def panelBlock (buf : Mem) (blockByteCount p : ℕ) : List UInt8 :=
  bytesAt buf (streamFramePrefixByteCount + p * blockByteCount) blockByteCount

/-- The block sizes `transferFrame` takes. -/
def transferable (blockByteCount : ℕ) : Bool :=
  blockByteCount = panelBlockByteCountGs2 || blockByteCount = panelBlockByteCountGs16
    || blockByteCount = blockByteCountPsram || blockByteCount = blockByteCountPsramDuty

section

variable [Board]

/-- `panel_sets`, without the chip select pins. -/
def panelSets : List (ℕ × ℕ) :=
  (List.range (panelCountPerFrameCol / 2)).flatMap fun c =>
    (List.range panelCountPerFrameRow).map fun r =>
      (r * panelCountPerFrameCol + c, r * panelCountPerFrameCol + c + panelCountPerFrameCol / 2)

/-- What `transferFrame` clocks out. -/
def clockedBlocks (buf : Mem) (blockByteCount : ℕ) : Transfer :=
  panelSets.flatMap fun (b0, b1) =>
    [(b0, panelBlock buf blockByteCount b0), (b1, panelBlock buf blockByteCount b1)]

/-- **A transfer gives every panel its block, once.** -/
theorem panelSets_perm :
    (panelSets.flatMap fun s => [s.1, s.2]).Perm (List.range panelCountPerFrame) := by
  unfold panelSets panelCountPerFrame panelCountPerFrameRow panelCountPerFrameCol
  cases Board.hw <;> decide

theorem clockedBlocks_eq {buf : Mem} {blockByteCount p : ℕ} {block : List UInt8}
    (h : (p, block) ∈ clockedBlocks buf blockByteCount) :
    p < panelCountPerFrame ∧ block = panelBlock buf blockByteCount p := by
  unfold clockedBlocks at h
  obtain ⟨⟨b0, b1⟩, hs, hmem⟩ := List.mem_flatMap.1 h
  have hlt : ∀ q ∈ [b0, b1], q < panelCountPerFrame := fun q hq =>
    List.mem_range.1 (panelSets_perm.mem_iff.1 (List.mem_flatMap.2 ⟨(b0, b1), hs, hq⟩))
  simp only [List.mem_cons, List.not_mem_nil, or_false, Prod.mk.injEq] at hmem
  rcases hmem with ⟨rfl, rfl⟩ | ⟨rfl, rfl⟩
  · exact ⟨hlt _ (List.mem_cons_self ..), rfl⟩
  · exact ⟨hlt _ (List.mem_cons_of_mem _ (List.mem_cons_self ..)), rfl⟩

end

end Panel
end G6Arena
