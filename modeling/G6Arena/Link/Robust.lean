/-
# The serial parser on arbitrary bytes

The receive side of the serial link, with every size it computes checked: `checkedParse` and
the functions around it are those of `SerialManager` in which a subtraction from `rxLen`
fails where it would wrap, and a copy fails where it would leave `rxBuf` or the data of the
parsed command, both arrays of `rxBufSize` bytes.

The host sends what it likes in chunks of any size, polls and reads come in any order, and
the consumer lets go of a command when it likes.  `serial_parser_robust` says that no check
fails and that a full buffer never stalls the parser.
-/

import G6Arena.Lib.Checked
import G6Arena.Link.Exact

namespace G6Arena
namespace Link

open ByteMem

namespace Rx

section

variable [Board]

/-! ### The checked parser -/

/-- `memmove(rx_buf_, rx_buf_ + n, rx_len_ - n)` and `rx_len_ -= n`. -/
def checkedConsume (rx : Rx) (n : ℕ) : Option Rx := do
  let rest ← Checked.sub rx.rxLen n
  let moved ← Checked.read rxBufSize rx.rxBuf n rest
  let rxBuf ← Checked.write rxBufSize rx.rxBuf 0 moved
  some { rx with rxBuf := rxBuf, rxLen := rest }

/-- `memcpy(data + off, rx_buf_, n)`, of the data of a parsed command. -/
def checkedCopy (rx : Rx) (data : Mem) (off n : ℕ) : Option Mem := do
  let block ← Checked.read rxBufSize rx.rxBuf 0 n
  Checked.write rxBufSize data off block

/-- A command made of the first `n` bytes of the buffer, behind the bytes `head`. -/
def checkedDeliver (rx : Rx) (head : List UInt8) (n : ℕ) (cmd : Mem → ParsedCommand) :
    Option Rx := do
  let data ← Checked.write rxBufSize rx.parsedCmd.data 0 head
  let data ← rx.checkedCopy data head.length n
  let rx ← rx.checkedConsume n
  some { rx with parsedCmd := cmd data, cmdReady := true }

/-- `[len, cmd, params...]`. -/
def checkedBinary (rx : Rx) : Option Rx :=
  let totalNeeded := 1 + (rx.rxBuf 0).toNat
  if rx.rxLen < totalNeeded then some rx
  else rx.checkedDeliver [] totalNeeded fun data => {
    cmd := rx.rxBuf 1
    data := data
    dataLen := totalNeeded
    isStream := false
    isBulk := false
    bulkPayloadLen := 0 }

/-- `[opcode, …, len_b0..b7, file_data...]`. -/
def checkedBulk (opcode : UInt8) (hdr lenAt : ℕ) (rx : Rx) : Option Rx :=
  if rx.rxLen < hdr then some rx
  else rx.checkedDeliver [] hdr fun data => {
    cmd := opcode
    data := data
    dataLen := hdr
    isStream := false
    isBulk := true
    bulkPayloadLen := wordAt rx.rxBuf lenAt 4 }

/-- `[0x83, idx_lo, idx_hi, name_len, chars…]`. -/
def checkedPatternFilename (rx : Rx) : Option Rx :=
  if rx.rxLen < 4 then some rx
  else
    let nameLen := (rx.rxBuf 3).toNat
    if nameLen = 0 ∨ 64 ≤ nameLen then some rx.resync
    else
      let totalNeeded := 4 + nameLen
      if rx.rxLen < totalNeeded then some rx
      else rx.checkedDeliver [UInt8.ofNat totalNeeded] totalNeeded fun data => {
        cmd := setPatternFilenameCmd
        data := data
        dataLen := totalNeeded + 1
        isStream := false
        isBulk := false
        bulkPayloadLen := 0 }

/-- `[0x32, len_lo, len_hi, ...]`. -/
def checkedStream (rx : Rx) : Option Rx :=
  if rx.rxLen < streamHeaderByteCount then some rx
  else
    let totalNeeded := streamHeaderByteCount + wordAt rx.rxBuf 1 2
    if rxBufSize < totalNeeded then some rx.resync
    else if rx.rxLen < totalNeeded then some rx
    else rx.checkedDeliver [] totalNeeded fun data => {
      cmd := streamFrameCmd
      data := data
      dataLen := totalNeeded
      isStream := true
      isBulk := false
      bulkPayloadLen := 0 }

/-- The framing of a buffer that is not empty, by its first byte. -/
def checkedParse (rx : Rx) : Option Rx :=
  let firstByte := rx.rxBuf 0
  if firstByte = streamFrameCmd then rx.checkedStream
  else if firstByte ≤ firstCommandByteMaxValueBinary then rx.checkedBinary
  else if firstByte = setPatternFileCmd then checkedBulk setPatternFileCmd 11 3 rx
  else if firstByte = setFirmwareFileCmd then checkedBulk setFirmwareFileCmd 9 1 rx
  else if firstByte = setPatternFilenameCmd then rx.checkedPatternFilename
  else some rx.resync

/-- Bytes of the link read to the end of the buffer, `cap` at most, in the room
`RX_BUF_SIZE - rx_len_`. -/
def checkedFill (rx : Rx) (link : List UInt8) (cap : ℕ) : Option (Rx × List UInt8) := do
  let room ← Checked.sub rxBufSize rx.rxLen
  let n := min cap (min link.length room)
  let rxBuf ← Checked.write rxBufSize rx.rxBuf rx.rxLen (link.take n)
  some ({ rx with rxBuf := rxBuf, rxLen := rx.rxLen + n }, link.drop n)

end

section

variable [Board] {rx : Rx}

/-! ### No check fails -/

theorem checkedConsume_eq {n : ℕ} (hfits : rx.rxLen ≤ rxBufSize) (hn : n ≤ rx.rxLen) :
    rx.checkedConsume n = some (rx.consume n) := by
  unfold checkedConsume
  rw [Checked.sub_of_le hn, Option.bind_eq_bind, Option.bind_some,
    Checked.read_of_le _ (by omega), Option.bind_eq_bind, Option.bind_some,
    Checked.write_of_le _ (by rw [length_bytesAt]; omega)]
  rfl

theorem checkedCopy_eq {n off : ℕ} (data : Mem) (h : off + n ≤ rxBufSize) :
    rx.checkedCopy data off n = some (store data off (bytesAt rx.rxBuf 0 n)) := by
  unfold checkedCopy
  rw [Checked.read_of_le _ (by omega), Option.bind_eq_bind, Option.bind_some,
    Checked.write_of_le _ (by rwa [length_bytesAt])]

/-- A command that has been received whole is copied and taken out of the buffer. -/
theorem checkedDeliver_eq {head : List UInt8} {n : ℕ} (cmd : Mem → ParsedCommand)
    (hfits : rx.rxLen ≤ rxBufSize) (hn : n ≤ rx.rxLen) (hdata : head.length + n ≤ rxBufSize) :
    rx.checkedDeliver head n cmd
      = some (rx.deliver
          (cmd (store (store rx.parsedCmd.data 0 head) head.length (bytesAt rx.rxBuf 0 n))) n) := by
  unfold checkedDeliver
  rw [Checked.write_of_le _ (by omega), Option.bind_eq_bind, Option.bind_some,
    checkedCopy_eq _ hdata, Option.bind_eq_bind, Option.bind_some, checkedConsume_eq hfits hn]
  rfl

theorem checkedBinary_eq (hfits : rx.rxLen ≤ rxBufSize) :
    rx.checkedBinary = some rx.parseBinary := by
  unfold checkedBinary parseBinary
  dsimp only
  split_ifs with hlt
  · rfl
  · rw [checkedDeliver_eq _ hfits (by omega) (by rw [List.length_nil]; omega), store_nil]
    rfl

theorem checkedBulk_eq (opcode : UInt8) (hdr lenAt : ℕ) (hfits : rx.rxLen ≤ rxBufSize) :
    checkedBulk opcode hdr lenAt rx = some (parseBulk opcode hdr lenAt rx) := by
  unfold checkedBulk parseBulk
  split_ifs with hlt
  · rfl
  · rw [checkedDeliver_eq _ hfits (by omega) (by rw [List.length_nil]; omega), store_nil]
    rfl

/-- The length byte before the `0x83` command is one byte more than the buffer gave. -/
theorem checkedPatternFilename_eq (hfits : rx.rxLen ≤ rxBufSize) :
    rx.checkedPatternFilename = some rx.parsePatternFilename := by
  have hsize := rxBufSize_bounds.1
  unfold checkedPatternFilename parsePatternFilename
  dsimp only
  split_ifs with hshort hbad hlt
  · rfl
  · rfl
  · rfl
  · rw [checkedDeliver_eq _ hfits (by omega) (by rw [List.length_singleton]; omega)]
    rfl

theorem checkedStream_eq (hfits : rx.rxLen ≤ rxBufSize) :
    rx.checkedStream = some rx.parseStream := by
  unfold checkedStream parseStream
  dsimp only
  split_ifs with hshort hlong hlt
  · rfl
  · rfl
  · rfl
  · rw [checkedDeliver_eq _ hfits (by omega) (by rw [List.length_nil]; omega), store_nil]
    rfl

theorem checkedParse_eq (hfits : rx.rxLen ≤ rxBufSize) : rx.checkedParse = some rx.parse := by
  unfold checkedParse parse
  dsimp only
  split_ifs
  · exact checkedStream_eq hfits
  · exact checkedBinary_eq hfits
  · exact checkedBulk_eq _ _ _ hfits
  · exact checkedBulk_eq _ _ _ hfits
  · exact checkedPatternFilename_eq hfits
  · rfl

theorem checkedFill_eq (link : List UInt8) (cap : ℕ) (hfits : rx.rxLen ≤ rxBufSize) :
    rx.checkedFill link cap = some (rx.fill link cap) := by
  unfold checkedFill
  rw [Checked.sub_of_le hfits, Option.bind_eq_bind, Option.bind_some]
  dsimp only
  rw [Checked.write_of_le _ (by rw [List.length_take]; omega)]
  rfl

/-! ### No framing waits for more than the buffer holds -/

/-- What a framing does with a buffer: it waits for the rest of a command that fits, it
delivers a command, or it drops the buffer. -/
inductive Outcome (rx : Rx) : Rx → Prop
  | waits (h : rx.rxLen < rxBufSize) : Outcome rx rx
  | delivers (cmd : ParsedCommand) {n : ℕ} (h : n ≤ rx.rxLen) : Outcome rx (rx.deliver cmd n)
  | resyncs : Outcome rx rx.resync

theorem parseBinary_outcome (hfirst : rx.rxBuf 0 ≤ firstCommandByteMaxValueBinary) :
    rx.Outcome rx.parseBinary := by
  have hsize := rxBufSize_bounds.1
  have hlen : (rx.rxBuf 0).toNat ≤ 0x32 := UInt8.le_iff_toNat_le.1 hfirst
  unfold parseBinary
  dsimp only
  split_ifs with hlt
  · exact .waits (by omega)
  · exact .delivers _ (by omega)

theorem parseBulk_outcome {hdr : ℕ} (opcode : UInt8) (lenAt : ℕ) (hhdr : hdr ≤ 11) :
    rx.Outcome (parseBulk opcode hdr lenAt rx) := by
  have hsize := rxBufSize_bounds.1
  unfold parseBulk
  split_ifs with hlt
  · exact .waits (by omega)
  · exact .delivers _ (by omega)

theorem parsePatternFilename_outcome : rx.Outcome rx.parsePatternFilename := by
  have hsize := rxBufSize_bounds.1
  unfold parsePatternFilename
  dsimp only
  split_ifs with hshort hbad hlt
  · exact .waits (by omega)
  · exact .resyncs
  · exact .waits (by omega)
  · exact .delivers _ (by omega)

/-- A stream frame that is longer than the buffer is dropped and not waited for. -/
theorem parseStream_outcome : rx.Outcome rx.parseStream := by
  have hsize := rxBufSize_bounds.1
  unfold parseStream
  dsimp only
  split_ifs with hshort hlong hlt
  · exact .waits (by rw [streamHeaderByteCount] at hshort; omega)
  · exact .resyncs
  · exact .waits (by omega)
  · exact .delivers _ (by omega)

theorem parse_outcome (rx : Rx) : rx.Outcome rx.parse := by
  unfold parse
  dsimp only
  split_ifs with _ hbinary
  · exact parseStream_outcome
  · exact parseBinary_outcome hbinary
  · exact parseBulk_outcome _ _ (by decide)
  · exact parseBulk_outcome _ _ (by decide)
  · exact parsePatternFilename_outcome
  · exact .resyncs

theorem Outcome.rxLen_le {rx' : Rx} (h : rx.Outcome rx') : rx'.rxLen ≤ rx.rxLen := by
  cases h with
  | waits => exact le_rfl
  | delivers cmd h => exact Nat.sub_le ..
  | resyncs => exact Nat.zero_le _

/-- A full buffer is parsed, in whole or in part, or dropped. -/
theorem Outcome.moves {rx' : Rx} (h : rx.Outcome rx') (hfull : rx.rxLen = rxBufSize) :
    rx'.cmdReady = true ∨ rx'.rxLen < rxBufSize := by
  cases h with
  | waits h => exact absurd hfull h.ne
  | delivers cmd h => exact .inl rfl
  | resyncs =>
      have hsize := rxBufSize_bounds.1
      exact .inr (show 0 < rxBufSize by omega)

end

end Rx

/-! ### The serial link -/

/-- What happens at the serial link: bytes arrive, and the three calls. -/
inductive SerialEvent
  | arrive (bytes : List UInt8)
  | serviceUsb (cap : ℕ)
  | readBulkBytes (cap maxLen : ℕ)
  | commandConsumed

section

variable [Board]

/-- The receive side, and the bytes that have arrived and were not read. -/
def serialStep : Rx × List UInt8 → SerialEvent → Rx × List UInt8
  | (rx, link), .arrive bytes => (rx, link ++ bytes)
  | (rx, link), .serviceUsb cap => SerialManager.serviceUsb cap rx link
  | (rx, link), .readBulkBytes cap maxLen =>
    let (rx, link, _) := SerialManager.readBulkBytes cap maxLen rx link
    (rx, link)
  | (rx, link), .commandConsumed => (commandConsumed rx, link)

namespace SerialManager

def checkedServiceUsb (cap : ℕ) (rx : Rx) (link : List UInt8) : Option (Rx × List UInt8) :=
  if rx.cmdReady then some (rx, link)
  else do
    let (rx, link) ← rx.checkedFill link cap
    if rx.rxLen = 0 then some (rx, link)
    else do
      let rx ← rx.checkedParse
      some (rx, link)

def checkedReadBulkBytes (cap maxLen : ℕ) (rx : Rx) (link : List UInt8) :
    Option (Rx × List UInt8 × List UInt8) := do
  let (rx, link) ← rx.checkedFill link cap
  let n := min rx.rxLen maxLen
  let bytes ← Checked.read rxBufSize rx.rxBuf 0 n
  let rx ← rx.checkedConsume n
  some (rx, link, bytes)

variable {rx : Rx} {link : List UInt8}

theorem checkedServiceUsb_eq (cap : ℕ) (hfits : rx.rxLen ≤ rxBufSize) :
    checkedServiceUsb cap rx link = some (serviceUsb cap rx link) := by
  unfold checkedServiceUsb serviceUsb
  split_ifs with hready
  · rfl
  · have hfill := Rx.fill_rxLen_le link cap hfits
    rw [Rx.checkedFill_eq link cap hfits, Option.bind_eq_bind, Option.bind_some]
    generalize rx.fill link cap = filled at hfill
    obtain ⟨rx, link⟩ := filled
    dsimp only at hfill ⊢
    split_ifs with hzero
    · rfl
    · rw [Rx.checkedParse_eq hfill]
      rfl

theorem checkedReadBulkBytes_eq (cap maxLen : ℕ) (hfits : rx.rxLen ≤ rxBufSize) :
    checkedReadBulkBytes cap maxLen rx link = some (readBulkBytes cap maxLen rx link) := by
  have hfill := Rx.fill_rxLen_le link cap hfits
  unfold checkedReadBulkBytes readBulkBytes
  rw [Rx.checkedFill_eq link cap hfits, Option.bind_eq_bind, Option.bind_some]
  generalize rx.fill link cap = filled at hfill
  obtain ⟨rx, link⟩ := filled
  dsimp only at hfill ⊢
  rw [Checked.read_of_le _ (by omega), Option.bind_eq_bind, Option.bind_some,
    Rx.checkedConsume_eq hfill (Nat.min_le_left ..)]
  rfl

theorem serviceUsb_rxLen_le (cap : ℕ) (hfits : rx.rxLen ≤ rxBufSize) :
    (serviceUsb cap rx link).1.rxLen ≤ rxBufSize := by
  unfold serviceUsb
  split_ifs with hready
  · exact hfits
  · have hfill := Rx.fill_rxLen_le link cap hfits
    generalize rx.fill link cap = filled at hfill
    obtain ⟨rx, link⟩ := filled
    dsimp only at hfill ⊢
    split_ifs with hzero
    · exact hfill
    · exact (rx.parse_outcome.rxLen_le).trans hfill

end SerialManager

/-- A step in which every size is checked. -/
def checkedSerialStep : Rx × List UInt8 → SerialEvent → Option (Rx × List UInt8)
  | (rx, link), .arrive bytes => some (rx, link ++ bytes)
  | (rx, link), .serviceUsb cap => SerialManager.checkedServiceUsb cap rx link
  | (rx, link), .readBulkBytes cap maxLen => do
    let (rx, link, _) ← SerialManager.checkedReadBulkBytes cap maxLen rx link
    some (rx, link)
  | (rx, link), .commandConsumed => some (commandConsumed rx, link)

theorem checkedSerialStep_eq (s : Rx × List UInt8) (e : SerialEvent)
    (hfits : s.1.rxLen ≤ rxBufSize) : checkedSerialStep s e = some (serialStep s e) := by
  obtain ⟨rx, link⟩ := s
  cases e with
  | arrive bytes => rfl
  | serviceUsb cap => exact SerialManager.checkedServiceUsb_eq cap hfits
  | readBulkBytes cap maxLen =>
      unfold checkedSerialStep
      dsimp only
      rw [SerialManager.checkedReadBulkBytes_eq cap maxLen hfits]
      rfl
  | commandConsumed => rfl

theorem serialStep_rxLen_le (s : Rx × List UInt8) (e : SerialEvent)
    (hfits : s.1.rxLen ≤ rxBufSize) : (serialStep s e).1.rxLen ≤ rxBufSize := by
  obtain ⟨rx, link⟩ := s
  cases e with
  | arrive bytes => exact hfits
  | serviceUsb cap => exact SerialManager.serviceUsb_rxLen_le cap hfits
  | readBulkBytes cap maxLen =>
      exact (Nat.sub_le ..).trans (Rx.fill_rxLen_le link cap hfits)
  | commandConsumed => exact hfits

/-- **The serial parser is robust.**  On every stream of bytes, however it arrives, and in
every order of polls, reads and releases: no check fails, the buffer is never overrun, and
a full buffer without a command in hand is parsed into a command or gives up room. -/
theorem serial_parser_robust (rxBuf : Mem) (parsedCmd : ParsedCommand) (es : List SerialEvent) :
    let start : Rx × List UInt8 := (⟨rxBuf, 0, parsedCmd, false⟩, [])
    Checked.run checkedSerialStep start es = some (Machine.run serialStep start es) ∧
      (Machine.run serialStep start es).1.rxLen ≤ rxBufSize ∧
      ∀ rx : Rx, rx.cmdReady = false → rx.rxLen = rxBufSize →
        (SerialManager.parseIncoming rx).cmdReady = true ∨
          (SerialManager.parseIncoming rx).rxLen < rxBufSize := by
  intro start
  obtain ⟨hrun, hfits⟩ := Checked.run_eq (I := fun s : Rx × List UInt8 => s.1.rxLen ≤ rxBufSize)
    checkedSerialStep_eq serialStep_rxLen_le (s := start) (Nat.zero_le _) es
  exact ⟨hrun, hfits, fun rx _ hfull => rx.parse_outcome.moves hfull⟩

end

end Link
end G6Arena
