/-
# Frames and how they are parsed

A frame is what a host sends: `wire` is its bytes, the `header` that `parse` takes out of
the buffer and the `payload` that `readBulkBytes` takes.  `parse_frame` is the parser's
specification: on a buffer that starts as the frame does, it waits for the whole
header and then delivers the frame's `command`.
-/

import G6Arena.Link.Framing
import Mathlib.Tactic.SplitIfs

namespace G6Arena
namespace Link

open ByteMem

/-! ### Frames -/

/-- A parsed command as the handlers are meant to see it. -/
structure Command where
  cmd : UInt8
  data : List UInt8
  isStream : Bool
  isBulk : Bool
  bulkPayloadLen : ℕ
  deriving DecidableEq

def ParsedCommand.view (c : ParsedCommand) : Command where
  cmd := c.cmd
  data := bytesAt c.data 0 c.dataLen
  isStream := c.isStream
  isBulk := c.isBulk
  bulkPayloadLen := c.bulkPayloadLen

inductive Frame
  | binary (body : List UInt8)
  | stream (payload : List UInt8)
  | patternFilename (idx : ℕ) (name : List UInt8)
  | patternFile (idx : ℕ) (payload : List UInt8)
  | firmwareFile (payload : List UInt8)
  deriving DecidableEq

namespace Frame

/-- What the parser takes out of the buffer. -/
def header : Frame → List UInt8
  | binary body => UInt8.ofNat body.length :: body
  | stream payload => streamFrameCmd :: toLe 2 payload.length ++ payload
  | patternFilename idx name =>
    setPatternFilenameCmd :: toLe 2 idx ++ UInt8.ofNat name.length :: name
  | patternFile idx payload => setPatternFileCmd :: toLe 2 idx ++ toLe 8 payload.length
  | firmwareFile payload => setFirmwareFileCmd :: toLe 8 payload.length

/-- What is left for `readBulkBytes`. -/
def payload : Frame → List UInt8
  | patternFile _ payload => payload
  | firmwareFile payload => payload
  | _ => []

/-- The bytes of a frame on the link. -/
def wire (f : Frame) : List UInt8 := f.header ++ f.payload

/-- The command a frame is: `0x83` gets a length byte of its own. -/
def command (f : Frame) : Command :=
  match f with
  | binary body => ⟨body.headD 0, f.header, false, false, 0⟩
  | stream _ => ⟨streamFrameCmd, f.header, true, false, 0⟩
  | patternFilename _ name =>
    ⟨setPatternFilenameCmd, UInt8.ofNat (4 + name.length) :: f.header, false, false, 0⟩
  | patternFile _ payload => ⟨setPatternFileCmd, f.header, false, true, payload.length⟩
  | firmwareFile payload => ⟨setFirmwareFileCmd, f.header, false, true, payload.length⟩

/-- The frames a host may send. -/
def WellFormed [Board] : Frame → Prop
  | binary body => 1 ≤ body.length ∧ body.length ≤ 0x31
  | stream payload => payload.length ≤ rxBufSize - streamHeaderByteCount
  | patternFilename _ name => 1 ≤ name.length ∧ name.length ≤ 63
  | patternFile _ payload => payload.length < 2 ^ 32
  | firmwareFile payload => payload.length < 2 ^ 32

instance [Board] : (f : Frame) → Decidable f.WellFormed
  | binary _ => inferInstanceAs (Decidable (_ ∧ _))
  | stream _ => inferInstanceAs (Decidable (_ ≤ _))
  | patternFilename _ _ => inferInstanceAs (Decidable (_ ∧ _))
  | patternFile _ _ => inferInstanceAs (Decidable (_ < _))
  | firmwareFile _ => inferInstanceAs (Decidable (_ < _))

theorem header_ne_nil (f : Frame) : f.header ≠ [] := by
  cases f <;> simp [header]

end Frame

theorem rxBufSize_bounds [Board] : 68 < rxBufSize ∧ rxBufSize < 2 ^ 16 := by
  have hpos := panelCountPerFrame_pos
  have hle := panelCountPerFrame_le
  simp only [rxBufSize, streamHeaderByteCount, frameBufByteCountMax, streamFrameByteCountGs16,
    streamFramePrefixByteCount, panelBlockByteCountGs16]
  omega

/-- A whole header fits the buffer. -/
theorem Frame.WellFormed.length_header_le [Board] {f : Frame} (hf : f.WellFormed) :
    f.header.length ≤ rxBufSize := by
  have hsize := rxBufSize_bounds.1
  cases f <;> simp only [Frame.WellFormed, Frame.header, List.length_cons, List.length_append,
    length_toLe, streamHeaderByteCount] at hf ⊢ <;> omega

/-! ### The buffer -/

namespace Rx

variable {rx : Rx} {l : List UInt8}

@[simp] theorem length_pending : rx.pending.length = rx.rxLen := length_bytesAt ..

theorem pending_consume {n : ℕ} (h : n ≤ rx.rxLen) : (rx.consume n).pending = rx.pending.drop n := by
  rw [pending, pending, drop_bytesAt _ _ _ _ h, Nat.zero_add]
  exact bytesAt_store_of_length _ _ (length_bytesAt ..)

/-- The buffer agrees with `l` as far as both go. -/
def Agrees (rx : Rx) (l : List UInt8) : Prop :=
  ∀ i, i < rx.rxLen → i < l.length → rx.rxBuf i = l.getD i 0

theorem agrees_of_append {x y : List UInt8} (h : rx.pending ++ x = l ++ y) : rx.Agrees l := by
  intro i hi hl
  have hget : (rx.pending ++ x)[i]? = (l ++ y)[i]? := by rw [h]
  rw [List.getElem?_append_left (by rwa [length_pending]), List.getElem?_append_left hl, pending,
    getElem?_bytesAt _ _ _ _ hi, Nat.zero_add] at hget
  rw [List.getD_eq_getElem?_getD, ← hget, Option.getD_some]

theorem Agrees.bytesAt (h : rx.Agrees l) {off n : ℕ} (hrx : off + n ≤ rx.rxLen)
    (hl : off + n ≤ l.length) : bytesAt rx.rxBuf off n = (l.drop off).take n := by
  have hlen : ((l.drop off).take n).length = n := by
    rw [List.length_take, List.length_drop]
    omega
  refine List.ext_getElem (by rw [length_bytesAt, hlen]) fun i hi _ => ?_
  rw [length_bytesAt] at hi
  have hbyte := h (off + i) (by omega) (by omega)
  rw [List.getD_eq_getElem?_getD, List.getElem?_eq_getElem (by omega), Option.getD_some] at hbyte
  simpa [ByteMem.bytesAt] using hbyte

theorem Agrees.wordAt (h : rx.Agrees l) {off n : ℕ} (hrx : off + n ≤ rx.rxLen)
    (hl : off + n ≤ l.length) : wordAt rx.rxBuf off n = ofLe ((l.drop off).take n) := by
  rw [ByteMem.wordAt, h.bytesAt hrx hl]

/-- The data of a command copied from the buffer. -/
theorem Agrees.bytesAt_copy (h : rx.Agrees l) (hrx : l.length ≤ rx.rxLen) :
    ByteMem.bytesAt (rx.copy 0 l.length) 0 l.length = l := by
  rw [copy, bytesAt_store_of_length _ _ (length_bytesAt ..),
    h.bytesAt (by omega) (by omega), List.drop_zero, List.take_length]

@[simp] theorem deliver_pending {cmd : ParsedCommand} {n : ℕ} :
    (rx.deliver cmd n).pending = (rx.consume n).pending := rfl

/-- What the parser does with the frame whose header the buffer starts as: it waits for
the header, then delivers the command. -/
def Parses (rx rx' : Rx) (f : Frame) : Prop :=
  if rx.rxLen < f.header.length then rx' = rx
  else ∃ cmd, cmd.view = f.command ∧ rx' = rx.deliver cmd f.header.length

/-! ### The five framings -/

theorem parseBinary_frame {body : List UInt8} (hlen : body.length ≤ 0x31) (hpos : 1 ≤ body.length)
    (h : rx.Agrees (Frame.binary body).header) (hrx : 0 < rx.rxLen) :
    Parses rx rx.parseBinary (.binary body) := by
  have hn : (rx.rxBuf 0).toNat = body.length := by
    rw [h 0 hrx (Nat.succ_pos _)]
    exact Nat.mod_eq_of_lt (by omega)
  have htotal : 1 + (rx.rxBuf 0).toNat = (Frame.binary body).header.length := by
    rw [hn, Frame.header, List.length_cons, Nat.add_comm]
  rw [Parses, parseBinary, htotal]
  split_ifs with hlt
  · rfl
  · refine ⟨_, ?_, rfl⟩
    have hcmd : rx.rxBuf 1 = body.headD 0 := by
      rw [h 1 (by omega) (by rw [← htotal]; omega)]
      cases body <;> rfl
    rw [ParsedCommand.view, Frame.command, h.bytesAt_copy (by omega), hcmd]

theorem parseBulk_frame {f : Frame} {opcode : UInt8} {lenAt : ℕ} (h : rx.Agrees f.header)
    (hat : lenAt + 4 ≤ f.header.length)
    (hword : ofLe ((f.header.drop lenAt).take 4) = f.payload.length)
    (hcmd : f.command = ⟨opcode, f.header, false, true, f.payload.length⟩) :
    Parses rx (parseBulk opcode f.header.length lenAt rx) f := by
  rw [Parses, parseBulk]
  split_ifs with hlt
  · rfl
  · refine ⟨_, ?_, rfl⟩
    rw [ParsedCommand.view, hcmd, h.bytesAt_copy (by omega), h.wordAt (by omega) hat, hword]

theorem parsePatternFilename_frame {idx : ℕ} {name : List UInt8} (hpos : 1 ≤ name.length)
    (hlen : name.length ≤ 63) (h : rx.Agrees (Frame.patternFilename idx name).header) :
    Parses rx rx.parsePatternFilename (.patternFilename idx name) := by
  have hheader : (Frame.patternFilename idx name).header.length = 4 + name.length := by
    rw [Frame.header, List.length_append, List.length_cons, List.length_cons, length_toLe]
    omega
  rw [Parses, parsePatternFilename]
  by_cases hfour : rx.rxLen < 4
  · rw [if_pos hfour, if_pos (by omega)]
  · have hn : (rx.rxBuf 3).toNat = name.length := by
      rw [h 3 (by omega) (by omega)]
      exact Nat.mod_eq_of_lt (by omega)
    rw [if_neg hfour]
    dsimp only
    rw [hn, if_neg (show ¬(name.length = 0 ∨ 64 ≤ name.length) by omega), hheader]
    split_ifs with hlt
    · rfl
    · refine ⟨_, ?_, rfl⟩
      rw [ParsedCommand.view, Frame.command]
      dsimp only
      rw [Nat.add_comm (4 + name.length), bytesAt_add, Nat.zero_add,
        bytesAt_store_of_disjoint _ _ (.inl (Nat.le_refl 1)),
        bytesAt_store_of_length _ _ (List.length_singleton ..),
        bytesAt_store_of_length _ _ (length_bytesAt ..),
        h.bytesAt (by omega) (by omega), List.drop_zero, ← hheader, List.take_length]
      rfl

variable [Board]

theorem parseStream_frame {payload : List UInt8} (hf : (Frame.stream payload).WellFormed)
    (h : rx.Agrees (Frame.stream payload).header) :
    Parses rx rx.parseStream (.stream payload) := by
  have hsize := rxBufSize_bounds
  have hfits := hf.length_header_le
  have hheader : (Frame.stream payload).header.length = streamHeaderByteCount + payload.length := by
    rw [Frame.header, List.length_append, List.length_cons, length_toLe]
    rfl
  rw [Parses, parseStream]
  by_cases hthree : rx.rxLen < streamHeaderByteCount
  · rw [if_pos hthree, if_pos (by omega)]
  · have hword : wordAt rx.rxBuf 1 2 = payload.length := by
      rw [streamHeaderByteCount] at hthree hheader
      rw [h.wordAt (by omega) (by omega)]
      change ofLe ((toLe 2 payload.length ++ payload).take 2) = _
      rw [List.take_left' (length_toLe ..), ofLe_toLe_of_lt (by omega)]
    rw [if_neg hthree]
    dsimp only
    rw [hword, ← hheader,
      if_neg (show ¬rxBufSize < (Frame.stream payload).header.length by omega)]
    split_ifs with hlt
    · rfl
    · refine ⟨_, ?_, rfl⟩
      rw [ParsedCommand.view, Frame.command, h.bytesAt_copy (by omega)]

/-- **The parser on a frame.** -/
theorem parse_frame {f : Frame} (hf : f.WellFormed) (h : rx.Agrees f.header)
    (hrx : 0 < rx.rxLen) : Parses rx rx.parse f := by
  have hfirst : rx.rxBuf 0 = f.header.getD 0 0 :=
    h 0 hrx (List.length_pos_iff.2 f.header_ne_nil)
  rw [parse, hfirst]
  cases f with
  | binary body =>
    obtain ⟨hpos, hlen⟩ := hf
    have hn : (UInt8.ofNat body.length).toNat = body.length := Nat.mod_eq_of_lt (by omega)
    have hstream : UInt8.ofNat body.length ≠ streamFrameCmd := by
      intro heq
      rw [heq] at hn
      exact absurd hn (by rw [show streamFrameCmd.toNat = 0x32 from rfl]; omega)
    have hbinary : UInt8.ofNat body.length ≤ firstCommandByteMaxValueBinary := by
      rw [UInt8.le_iff_toNat_le, hn]
      exact hlen.trans (by decide)
    rw [show (Frame.binary body).header.getD 0 0 = UInt8.ofNat body.length from rfl,
      if_neg hstream, if_pos hbinary]
    exact parseBinary_frame hlen hpos h hrx
  | stream payload => exact parseStream_frame hf h
  | patternFilename idx name => exact parsePatternFilename_frame hf.1 hf.2 h
  | patternFile idx payload =>
    refine parseBulk_frame h (by simp [Frame.header]) ?_ rfl
    change ofLe ((toLe 2 idx ++ toLe 8 payload.length).drop 2 |>.take 4) = _
    rw [List.drop_left' (length_toLe ..)]
    exact ofLe_toLe_of_lt (n := 4) hf
  | firmwareFile payload =>
    exact parseBulk_frame h (by simp [Frame.header]) (ofLe_toLe_of_lt (n := 4) hf) rfl

end Rx

end Link
end G6Arena
