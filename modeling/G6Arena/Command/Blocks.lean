/-
# What is in the frame buffer

What each function that makes or patches a frame leaves in the buffer (`Screen.Blocks`): a block
for each panel, of the size that is kept for them, with a valid parity, and its opcode.
-/

import G6Arena.Command.Paint
import G6Arena.Panel.Blocks

namespace G6Arena
namespace Command

open ByteMem Link Panel
open Sd (ControllerError Store)

section

variable [Board]

/-- A frame of a block for each panel, with opcodes that obey a law. -/
structure Screen.Blocks (law : UInt8 → Prop) (s : Screen) : Prop where
  size : s.blockByteCount = panelBlockByteCountGs2 ∨ s.blockByteCount = panelBlockByteCountGs16 ∨
    s.blockByteCount = blockByteCountPsram
  bytes : s.frameByteCount = frameBytes panelCountPerFrame s.blockByteCount
  parity (p : ℕ) : p < panelCountPerFrame →
    validateParity (panelBlock s.frameBuf s.blockByteCount p) = true
  opcode (p : ℕ) : p < panelCountPerFrame →
    law (opcodeOf (panelBlock s.frameBuf s.blockByteCount p))

/-- The low two bits of an opcode are the panel display mode. -/
def HasMode (mode op : UInt8) : Prop := op &&& 3 = mode

/-- The opcode of the error glyph. -/
def IsGlyph (op : UInt8) : Prop := op = cmdDisp16lvlOneshot

namespace Screen

variable {law law' : UInt8 → Prop} {s s' : Screen}

theorem Blocks.mono (h : Blocks law s) (hlaw : ∀ op, law op → law' op) : Blocks law' s :=
  ⟨h.size, h.bytes, h.parity, fun p hp => hlaw _ (h.opcode p hp)⟩

theorem Blocks.congr (h : Blocks law s) (hbuf : s'.frameBuf = s.frameBuf)
    (hblock : s'.blockByteCount = s.blockByteCount) (hbytes : s'.frameByteCount = s.frameByteCount) :
    Blocks law s' := by
  constructor
  · rw [hblock]
    exact h.size
  · rw [hbytes, hblock]
    exact h.bytes
  · rw [hbuf, hblock]
    exact h.parity
  · rw [hbuf, hblock]
    exact h.opcode

/-- The geometry of a frame that is shown. -/
def Sized (s : Screen) : Prop :=
  (s.blockByteCount = panelBlockByteCountGs2 ∨ s.blockByteCount = panelBlockByteCountGs16 ∨
    s.blockByteCount = blockByteCountPsram) ∧
  s.frameByteCount = frameBytes panelCountPerFrame s.blockByteCount

theorem Blocks.sized (h : Blocks law s) : s.Sized := ⟨h.size, h.bytes⟩

theorem Sized.two_le (h : s.Sized) : 2 ≤ s.blockByteCount := by
  rcases h.1 with h | h | h <;> rw [h] <;> decide

theorem Sized.frameByteCount (h : s.Sized) :
    s.frameByteCount = streamFramePrefixByteCount + panelCountPerFrame * s.blockByteCount := by
  have hcount := panelCountPerFrame_le
  rw [h.2]
  unfold frameBytes
  refine Nat.mod_eq_of_lt ?_
  have hle : panelCountPerFrame * s.blockByteCount ≤ 48 * 203 := by
    refine Nat.mul_le_mul hcount ?_
    rcases h.1 with h | h | h <;> rw [h] <;> decide
  have hprefix : streamFramePrefixByteCount = 4 := rfl
  omega

theorem Sized.blockCount (h : s.Sized) : s.blockCount = panelCountPerFrame := by
  have hlen := h.two_le
  unfold Screen.blockCount
  rw [h.frameByteCount, Nat.add_sub_cancel_left]
  exact Nat.mul_div_cancel _ (by omega)

theorem Sized.prefix_lt (h : s.Sized) : streamFramePrefixByteCount < s.frameByteCount := by
  have hpos : 0 < panelCountPerFrame * s.blockByteCount :=
    Nat.mul_pos panelCountPerFrame_pos (Nat.lt_of_lt_of_le Nat.zero_lt_two h.two_le)
  rw [h.frameByteCount]
  omega

/-! ### Patches -/

omit [Board] in
theorem setDispMode_staysIn (mode : UInt8) {len : ℕ} (hlen : 2 ≤ len) :
    StaysIn len (setDispMode mode) := by
  intro off buf i hi
  unfold setDispMode
  rcases hi with hi | hi
  · exact store_apply_of_lt _ _ (by omega)
  · exact store_apply_of_ge _ _ (by simp only [List.length_singleton]; omega)

omit [Board] in
theorem setDuty_staysIn (duty : UInt8) {len : ℕ} (hlen : 2 ≤ len) :
    StaysIn len (setDuty len duty) := by
  intro off buf i hi
  unfold setDuty
  rcases hi with hi | hi
  · exact store_apply_of_lt _ _ (by omega)
  · exact store_apply_of_ge _ _ (by simp only [List.length_singleton]; omega)

/-- Every block changed, and stamped. -/
def patchBlocks (change : ℕ → Mem → Mem) (s : Screen) : Screen :=
  let buf := eachBlock s.blockByteCount change 0 panelCountPerFrame s.frameBuf
  { s with frameBuf := buf }

/-- **What a patch leaves in every block.** -/
theorem patchBlocks_blocks (h : s.Sized) {change : ℕ → Mem → Mem}
    (hstays : StaysIn s.blockByteCount change)
    (hopcode : ∀ off buf, law (buf (off + 1)) → law' (change off buf (off + 1)))
    (hlaw : ∀ p < panelCountPerFrame, law (opcodeOf (panelBlock s.frameBuf s.blockByteCount p))) :
    Blocks law' (s.patchBlocks change) := by
  have hlen := h.two_le
  have hblock (p : ℕ) (hp : p < panelCountPerFrame) := panelBlock_eachBlock
    (fun b => law (opcodeOf b)) (fun b => validateParity b = true ∧ law' (opcodeOf b)) hstays
    (fun off buf hbuf => by
      rw [opcodeOf_bytesAt _ _ hlen] at hbuf
      rw [opcodeOf_stampHeaderParity _ _ hlen]
      exact ⟨validateParity_stampHeaderParity _ _ hlen, hopcode off buf hbuf⟩)
    (n := panelCountPerFrame) (fun q _ hq => hlaw q (by omega)) (Nat.zero_le p) (by omega)
  exact ⟨h.1, h.2, fun p hp => (hblock p hp).1, fun p hp => (hblock p hp).2⟩

/-- **The mode patched into every block.** -/
theorem patchDispMode_blocks (h : s.Sized)
    (hopcode : ∀ op, law op → law' (dispOpcodeWithMode (op &&& 0xFC) s.panelDispMode))
    (hlaw : ∀ p < panelCountPerFrame, law (opcodeOf (panelBlock s.frameBuf s.blockByteCount p))) :
    Blocks law' s.patchDispMode := by
  have hpatched : s.patchDispMode = s.patchBlocks (setDispMode s.panelDispMode) := by
    have hlen := h.two_le
    have hprefix := h.prefix_lt
    unfold patchDispMode
    rw [if_neg (by omega), h.blockCount]
    rfl
  rw [hpatched]
  refine patchBlocks_blocks h (setDispMode_staysIn _ h.two_le) (fun off buf hop => ?_) hlaw
  unfold setDispMode
  rw [← Nat.add_zero (off + 1), store_apply_add _ _ _ Nat.zero_lt_one]
  exact hopcode _ hop

/-- Whatever the opcodes were, they have the mode then. -/
theorem patchDispMode_hasMode (h : s.Sized) (hmode : s.panelDispMode ≤ 3) :
    Blocks (HasMode s.panelDispMode) s.patchDispMode :=
  patchDispMode_blocks h (fun op (_ : True) => dispOpcodeWithMode_mode hmode op) fun _ _ => trivial

/-- A duty patched into every block leaves the opcodes. -/
theorem patchTrialDuty_blocks (h : Blocks law s) : Blocks law s.patchTrialDuty := by
  unfold patchTrialDuty
  split_ifs with h0 hother hprefix
  · exact h
  · exact h
  · exact h
  have hlen : 3 ≤ s.blockByteCount := by
    rcases h.size with h | h | h <;> rw [h] <;> decide
  dsimp only
  rw [h.sized.blockCount]
  refine patchBlocks_blocks h.sized (setDuty_staysIn _ h.sized.two_le) (fun off buf hop => ?_) h.opcode
  unfold setDuty
  rw [store_apply_of_lt _ _ (by omega)]
  exact hop

end Screen

/-! ### Frames that are made -/

namespace Display

variable {env env' : Env} {s : Store} {d d' : Display}

/-- The same block for each panel. -/
theorem fillBlocks_blocks {s : Screen} {len : ℕ} {block : List UInt8} {buf : Mem}
    (hsize : len = panelBlockByteCountGs2 ∨ len = panelBlockByteCountGs16)
    (hblock : block.length = len) (hlen : s.blockByteCount = len)
    (hbytes : s.frameByteCount = frameBytes panelCountPerFrame len)
    (hbuf : s.frameBuf = fillBlocks len block panelCountPerFrame buf) :
    s.Blocks (· = opcodeOf block) := by
  have h2 : 2 ≤ len := by
    rcases hsize with rfl | rfl <;> decide
  have hfilled (p : ℕ) (hp : p < panelCountPerFrame) :
      validateParity (panelBlock (fillBlocks len block panelCountPerFrame buf) len p) = true ∧
        opcodeOf (panelBlock (fillBlocks len block panelCountPerFrame buf) len p) = opcodeOf block :=
    panelBlock_fillBlocks hblock h2 hp
  constructor
  · rw [hlen]
    rcases hsize with h | h
    · exact .inl h
    · exact .inr (.inl h)
  · rw [hbytes, hlen]
  · intro p hp
    rw [hbuf, hlen]
    exact (hfilled p hp).1
  · intro p hp
    rw [hbuf, hlen]
    exact (hfilled p hp).2

/-- The dark frame. -/
theorem darkBuf_block {p : ℕ} (hp : p < panelCountPerFrame) :
    validateParity (panelBlock darkBuf panelBlockByteCountGs2 p) = true ∧
      opcodeOf (panelBlock darkBuf panelBlockByteCountGs2 p) = cmdDisp2lvlPersist :=
  panelBlock_fillBlocks (by decide) (by decide) hp

theorem enterAllOn_blocks (hmode : d.screen.panelDispMode ≤ 3) (env : Env) :
    (d.enterAllOn env).screen.Blocks (HasMode d.screen.panelDispMode) := by
  rw [enterAllOn_screen]
  refine (fillBlocks_blocks (.inr rfl) ?_ rfl rfl rfl).mono ?_
  · simp only [List.length_append, List.length_replicate]
    rfl
  · rintro op rfl
    exact dispOpcodeWithMode_mode hmode cmdDisp16lvlOneshot

omit [Board] in
theorem length_glyphBlock (code : ℕ) : (glyphBlock code).length = panelBlockByteCountGs16 := by
  unfold glyphBlock glyphPixels
  simp only [List.length_append, List.length_map, List.length_range]
  rfl

theorem showError_blocks (env : Env) (code : ControllerError) (d : Display) :
    (d.showError env code).screen.Blocks IsGlyph := by
  rw [showError_screen]
  exact fillBlocks_blocks (.inr rfl) (length_glyphBlock code.toByte.toNat) rfl rfl rfl

omit [Board] in
/-- A PSRAM block of a mode has no duty. -/
theorem buildPsramIndexBlock_mode (mode : UInt8) (index off : ℕ) (buf : Mem) :
    (buildPsramIndexBlock buf off index (dispOpcodeWithMode cmdDispPsramOneshot mode) 0).1
      = stampHeaderParity (ByteMem.store buf off [headerVersionV2,
          dispOpcodeWithMode cmdDispPsramOneshot mode, UInt8.ofNat index, UInt8.ofNat (index / 256)])
        off blockByteCountPsram := by
  have hshort : ¬ dispOpcodeWithMode cmdDispPsramOneshot mode &&& 0xF0 = 0x60 :=
    forall_byte (P := fun m => ¬ dispOpcodeWithMode cmdDispPsramOneshot m &&& 0xF0 = 0x60)
      (by decide +kernel) mode
  unfold buildPsramIndexBlock
  dsimp only
  rw [if_neg hshort, if_neg hshort]

omit [Board] in
theorem buildPsramIndexBlock_staysIn (mode : UInt8) (index : ℕ) : StaysIn blockByteCountPsram fun off buf =>
    (buildPsramIndexBlock buf off index (dispOpcodeWithMode cmdDispPsramOneshot mode) 0).1 := by
  intro off buf i hi
  dsimp only
  rw [buildPsramIndexBlock_mode, stampHeaderParity_apply _ hi]
  rcases hi with hi | hi
  · exact store_apply_of_lt _ _ hi
  · exact store_apply_of_ge _ _ hi

theorem buildPsramFrame_blocks (hmode : d.screen.panelDispMode ≤ 3) (env : Env) (index : ℕ) :
    (d.buildPsramFrame env index).screen.Blocks (HasMode d.screen.panelDispMode) := by
  have hstays := buildPsramIndexBlock_staysIn d.screen.panelDispMode index
  have hmakes (off : ℕ) (buf : Mem) (_ : True) : validateParity (bytesAt (stampHeaderParity
        (buildPsramIndexBlock buf off index (dispOpcodeWithMode cmdDispPsramOneshot
          d.screen.panelDispMode) 0).1 off blockByteCountPsram) off blockByteCountPsram) = true ∧
      HasMode d.screen.panelDispMode (opcodeOf (bytesAt (stampHeaderParity
        (buildPsramIndexBlock buf off index (dispOpcodeWithMode cmdDispPsramOneshot
          d.screen.panelDispMode) 0).1 off blockByteCountPsram) off blockByteCountPsram)) := by
    refine ⟨validateParity_stampHeaderParity _ _ (by decide), ?_⟩
    rw [opcodeOf_stampHeaderParity _ _ (by decide), buildPsramIndexBlock_mode,
      ← opcodeOf_bytesAt (stampHeaderParity _ off blockByteCountPsram) off
        (show 2 ≤ blockByteCountPsram by decide),
      opcodeOf_stampHeaderParity _ _ (by decide),
      store_apply_add buf off [_, _, _, _] (show 1 < 4 by decide)]
    exact dispOpcodeWithMode_mode hmode cmdDispPsramOneshot
  have hblock (p : ℕ) (hp : p < panelCountPerFrame) :
      validateParity (panelBlock (psramBuf index (dispOpcodeWithMode cmdDispPsramOneshot
        d.screen.panelDispMode)) blockByteCountPsram p) = true ∧
      HasMode d.screen.panelDispMode (opcodeOf (panelBlock (psramBuf index (dispOpcodeWithMode
        cmdDispPsramOneshot d.screen.panelDispMode)) blockByteCountPsram p)) :=
    panelBlock_eachBlock (fun _ => True)
      (fun b => validateParity b = true ∧ HasMode d.screen.panelDispMode (opcodeOf b)) hstays hmakes
      (fun _ _ _ => trivial) (Nat.zero_le p) (show p < 0 + panelCountPerFrame by omega)
  exact ⟨.inr (.inr rfl), rfl, fun p hp => (hblock p hp).1, fun p hp => (hblock p hp).2⟩

/-- A streamed frame. -/
theorem showStream_blocks (hmode : d.screen.panelDispMode ≤ 3) {blockByteCount : ℕ}
    {frame : List UInt8}
    (hblock : blockByteCount = panelBlockByteCountGs2 ∨ blockByteCount = panelBlockByteCountGs16)
    (hframe : frame.length = streamFramePrefixByteCount + panelCountPerFrame * blockByteCount)
    (env : Env) :
    (d.showStream env blockByteCount frame).screen.Blocks (HasMode d.screen.panelDispMode) := by
  have hsized : Screen.Sized { (d.invalidateFrameBuf (env.call 0)).screen with
      frameBuf := ByteMem.store (d.invalidateFrameBuf (env.call 0)).screen.frameBuf 0 frame
      frameByteCount := frame.length % 2 ^ 16
      blockByteCount := blockByteCount } := by
    refine ⟨?_, ?_⟩
    · rcases hblock with h | h
      · exact .inl h
      · exact .inr (.inl h)
    · change frame.length % 2 ^ 16 = _
      rw [hframe]
      rfl
  have hblocks := Screen.patchDispMode_hasMode hsized hmode
  obtain ⟨buf, hbuf⟩ := patchDispMode_eq { (d.invalidateFrameBuf (env.call 0)).screen with
    frameBuf := ByteMem.store (d.invalidateFrameBuf (env.call 0)).screen.frameBuf 0 frame
    frameByteCount := frame.length % 2 ^ 16
    blockByteCount := blockByteCount }
  unfold showStream
  dsimp only
  split
  · rw [enterStreamingFrame_screen]
    refine hblocks.congr rfl ?_ rfl
    rw [hbuf]
  · exact hblocks

/-- A frame that was read, accepted. -/
theorem acceptFrame_blocks (hmode : d.screen.panelDispMode ≤ 3)
    (hsize : d.screen.blockByteCount = panelBlockByteCountGs2 ∨
      d.screen.blockByteCount = panelBlockByteCountGs16 ∨ d.screen.blockByteCount = blockByteCountPsram)
    (hpanels : s.sd.info.numPanels = panelCountPerFrame) (env : Env) (index : ℕ) :
    (d.acceptFrame env s index).screen.Blocks (HasMode d.screen.panelDispMode) := by
  rw [acceptFrame_screen]
  have hsized : Screen.Sized { d.screen with
      frameByteCount := frameBytes s.sd.info.numPanels d.screen.blockByteCount
      frameBufIsFrame := true } := ⟨hsize, by rw [hpanels]⟩
  exact (Screen.patchTrialDuty_blocks (Screen.patchDispMode_hasMode hsized hmode)).congr rfl rfl rfl

/-- Loading a frame leaves the mode. -/
theorem loadFrame_mode {index : ℕ} {ok : Bool} (h : d.loadFrame env s index = (d', ok)) :
    d'.screen.panelDispMode = d.screen.panelDispMode := by
  obtain ⟨d₁, bytes, err, -, hafter, ⟨-, -, rfl⟩ | ⟨-, -, rfl⟩⟩ := loadFrame_cases h
  · rw [showError_screen, hafter.screen]
  · obtain ⟨buf, hscreen⟩ := acceptFrame_screen_eq (env.call 3) d₁ s index
    rw [hscreen, hafter.screen]

/-- A frame of the card is loaded, or an error is shown. -/
theorem loadFrame_blocks (hfits : Sd.Store.FitsArena s.sd) (hmode : d.screen.panelDispMode ≤ 3)
    (hsize : d.screen.blockByteCount = panelBlockByteCountGs2 ∨
      d.screen.blockByteCount = panelBlockByteCountGs16 ∨ d.screen.blockByteCount = blockByteCountPsram)
    {index : ℕ} {ok : Bool} (h : d.loadFrame env s index = (d', ok)) :
    (ok = false ∧ d'.screen.state = .errorDisplay ∧ d'.screen.Blocks IsGlyph) ∨
    (ok = true ∧ d'.screen.state = d.screen.state ∧
      d'.screen.Blocks (HasMode d.screen.panelDispMode)) := by
  obtain ⟨d₁, bytes, err, hread, hafter, ⟨hok, -, rfl⟩ | ⟨hok, rfl, rfl⟩⟩ := loadFrame_cases h
  · exact .inl ⟨hok, showError_state .., showError_blocks ..⟩
  · have hmode₁ : d₁.screen.panelDispMode = d.screen.panelDispMode := by rw [hafter.screen]
    have hblock₁ : d₁.screen.blockByteCount = d.screen.blockByteCount := by rw [hafter.screen]
    refine .inr ⟨hok, ?_, ?_⟩
    · rw [acceptFrame_state, hafter.screen]
    · rw [← hmode₁]
      refine acceptFrame_blocks ?_ ?_ (hfits (Sd.Store.readFrame_open hread).1).1 _ _
      · rw [hmode₁]
        exact hmode
      · rw [hblock₁]
        exact hsize

end Display

end

end Command
end G6Arena
