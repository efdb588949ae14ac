/-
# Framing

The parser of both transports (`parseIncoming`), over the receive buffer.  Five framings
share it: a binary command `[len, cmd, …]`, a stream frame `[0x32, len, len, …]`, the
long filename command `0x83`, and the headers of the two uploads, whose payload stays
in the buffer for `readBulkBytes`.

The buffer and the data of a parsed command are arrays that keep what was in them
before.  `Rx.pending` is the part of the buffer that has been received and not parsed.
-/

import G6Arena.Board
import G6Arena.Lib.ByteMem
import G6Arena.Link.Opcodes

namespace G6Arena
namespace Link

open ByteMem

structure ParsedCommand where
  cmd : UInt8
  data : Mem
  dataLen : ℕ
  isStream : Bool
  isBulk : Bool
  bulkPayloadLen : ℕ

/-- The receive side of a transport. -/
structure Rx where
  rxBuf : Mem
  rxLen : ℕ
  parsedCmd : ParsedCommand
  cmdReady : Bool

def streamHeaderByteCount : ℕ := 3
def firstCommandByteMaxValueBinary : UInt8 := 0x32

/-- `RX_BUF_SIZE`, also the size of `ParsedCommand::data`. -/
def rxBufSize [Board] : ℕ := streamHeaderByteCount + frameBufByteCountMax + 16

namespace Rx

/-- The bytes received and not parsed. -/
def pending (rx : Rx) : List UInt8 := bytesAt rx.rxBuf 0 rx.rxLen

/-- The first `n` bytes taken out of the buffer. -/
def consume (rx : Rx) (n : ℕ) : Rx :=
  { rx with rxBuf := store rx.rxBuf 0 (bytesAt rx.rxBuf n (rx.rxLen - n)), rxLen := rx.rxLen - n }

/-- A command made ready, and its `n` bytes taken out of the buffer. -/
def deliver (rx : Rx) (cmd : ParsedCommand) (n : ℕ) : Rx :=
  { rx.consume n with parsedCmd := cmd, cmdReady := true }

/-- The buffer dropped to resync. -/
def resync (rx : Rx) : Rx := { rx with rxLen := 0 }

/-- The data of the parsed command with the first `n` bytes of the buffer copied to `off`. -/
def copy (rx : Rx) (off n : ℕ) : Mem := store rx.parsedCmd.data off (bytesAt rx.rxBuf 0 n)

/-- `[len, cmd, params...]`. -/
def parseBinary (rx : Rx) : Rx :=
  let totalNeeded := 1 + (rx.rxBuf 0).toNat
  if rx.rxLen < totalNeeded then rx
  else rx.deliver {
    cmd := rx.rxBuf 1
    data := rx.copy 0 totalNeeded
    dataLen := totalNeeded
    isStream := false
    isBulk := false
    bulkPayloadLen := 0 } totalNeeded

/-- `[opcode, …, len_b0..b7, file_data...]`, with the length at `lenAt` of a header of `hdr`
bytes.  The upper half of the length is ignored. -/
def parseBulk (opcode : UInt8) (hdr lenAt : ℕ) (rx : Rx) : Rx :=
  if rx.rxLen < hdr then rx
  else rx.deliver {
    cmd := opcode
    data := rx.copy 0 hdr
    dataLen := hdr
    isStream := false
    isBulk := true
    bulkPayloadLen := wordAt rx.rxBuf lenAt 4 } hdr

/-- `[0x83, idx_lo, idx_hi, name_len, chars…]`, packed behind a length byte of its own. -/
def parsePatternFilename (rx : Rx) : Rx :=
  if rx.rxLen < 4 then rx
  else
    let nameLen := (rx.rxBuf 3).toNat
    if nameLen = 0 ∨ 64 ≤ nameLen then rx.resync
    else
      let totalNeeded := 4 + nameLen
      if rx.rxLen < totalNeeded then rx
      else
        let data := store rx.parsedCmd.data 0 [UInt8.ofNat totalNeeded]
        rx.deliver {
          cmd := setPatternFilenameCmd
          data := store data 1 (bytesAt rx.rxBuf 0 totalNeeded)
          dataLen := totalNeeded + 1
          isStream := false
          isBulk := false
          bulkPayloadLen := 0 } totalNeeded

section

variable [Board]

/-- `[0x32, len_lo, len_hi, ...]`. -/
def parseStream (rx : Rx) : Rx :=
  if rx.rxLen < streamHeaderByteCount then rx
  else
    let totalNeeded := streamHeaderByteCount + wordAt rx.rxBuf 1 2
    if rxBufSize < totalNeeded then rx.resync
    else if rx.rxLen < totalNeeded then rx
    else rx.deliver {
      cmd := streamFrameCmd
      data := rx.copy 0 totalNeeded
      dataLen := totalNeeded
      isStream := true
      isBulk := false
      bulkPayloadLen := 0 } totalNeeded

/-- The framing of a buffer that is not empty, by its first byte. -/
def parse (rx : Rx) : Rx :=
  let firstByte := rx.rxBuf 0
  if firstByte = streamFrameCmd then rx.parseStream
  else if firstByte ≤ firstCommandByteMaxValueBinary then rx.parseBinary
  else if firstByte = setPatternFileCmd then parseBulk setPatternFileCmd 11 3 rx
  else if firstByte = setFirmwareFileCmd then parseBulk setFirmwareFileCmd 9 1 rx
  else if firstByte = setPatternFilenameCmd then rx.parsePatternFilename
  else rx.resync

/-- Bytes of the link read to the end of the buffer, `cap` at most: the bytes left on the
link, and the buffer. -/
def fill (rx : Rx) (link : List UInt8) (cap : ℕ) : Rx × List UInt8 :=
  let n := min cap (min link.length (rxBufSize - rx.rxLen))
  ({ rx with rxBuf := store rx.rxBuf rx.rxLen (link.take n), rxLen := rx.rxLen + n }, link.drop n)

end

end Rx

/-! ### The two transports -/

inductive Transport
  | serial
  | network
  deriving DecidableEq

/-! What a poll does to the receive side and to the bytes that have arrived on the link,
when at most `cap` of them are read.
-/

namespace SerialManager

variable [Board]

/-- `SerialManager::parseIncoming`. -/
def parseIncoming (rx : Rx) : Rx := rx.parse

/-- `SerialManager::serviceUsb`. -/
def serviceUsb (cap : ℕ) (rx : Rx) (link : List UInt8) : Rx × List UInt8 :=
  if rx.cmdReady then (rx, link)
  else
    let (rx, link) := rx.fill link cap
    if rx.rxLen = 0 then (rx, link) else (parseIncoming rx, link)

/-- `SerialManager::readBulkBytes`: the receive side, the link and the bytes read. -/
def readBulkBytes (cap maxLen : ℕ) (rx : Rx) (link : List UInt8) : Rx × List UInt8 × List UInt8 :=
  let (rx, link) := rx.fill link cap
  let n := min rx.rxLen maxLen
  (rx.consume n, link, bytesAt rx.rxBuf 0 n)

end SerialManager

namespace NetworkManager

variable [Board]

/-- `NetworkManager::parseIncoming`. -/
def parseIncoming (connected : Bool) (cap : ℕ) (rx : Rx) (link : List UInt8) : Rx × List UInt8 :=
  if !connected then (rx, link)
  else if rx.cmdReady then (rx, link)
  else
    let (rx, link) := rx.fill link cap
    if rx.rxLen = 0 then (rx, link) else (rx.parse, link)

/-- `NetworkManager::serviceTcp`: the client is connected or not before and after
`server_.accept()`. -/
def serviceTcp (before after : Bool) (cap : ℕ) (rx : Rx) (link : List UInt8) :
    Rx × List UInt8 :=
  let rx := if before then rx else { rx with rxLen := 0, cmdReady := false }
  parseIncoming after cap rx link

/-- `NetworkManager::readBulkBytes`. -/
def readBulkBytes (connected : Bool) (cap maxLen : ℕ) (rx : Rx) (link : List UInt8) :
    Rx × List UInt8 × List UInt8 :=
  if 0 < rx.rxLen then
    let n := min rx.rxLen maxLen
    (rx.consume n, link, bytesAt rx.rxBuf 0 n)
  else if connected then
    let n := min cap (min link.length maxLen)
    (rx, link.drop n, link.take n)
  else (rx, link, [])

end NetworkManager

/-- `commandConsumed`, of both. -/
def commandConsumed (rx : Rx) : Rx := { rx with cmdReady := false }

end Link
end G6Arena
