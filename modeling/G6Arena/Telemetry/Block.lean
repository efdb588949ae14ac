/-
# GET_TELEMETRY_BLOCK

`CommandProcessor::handleGetTelemetryBlock`: the request acknowledges what the host has
stored and the reply carries an 18-byte header and the next records, verbatim.

| offset | bytes | field |
| ---: | ---: | --- |
| 0 | 4 | `t_now_us` |
| 4 | 4 | `first_seq`, `0` if there is no record |
| 8 | 2 | `n_records` |
| 10 | 4 | `dropped` |
| 14 | 1 | `more` |
| 15 | 1 | `flags` |
| 16 | 2 | `boot_count`, saturated |
-/

import G6Arena.Link.Reply
import G6Arena.Telemetry.Calls

namespace G6Arena
namespace Telemetry

open ByteMem

def getTelemetryBlockCmd : UInt8 := 0xA9

def kBlockHeaderLen : ℕ := 18
def kPayloadMax : ℕ := respBufSize - 4
def kRecordBytesMax : ℕ := kPayloadMax - kBlockHeaderLen

/-- The block header. -/
def blockHeader (now : ℕ) (info : BlockInfo) (t : Module) : List UInt8 :=
  toLe 4 now ++ toLe 4 info.firstSeq ++ toLe 2 info.nRecords ++ toLe 4 (dropped t)
    ++ [if info.more then 1 else 0, blockFlags t] ++ toLe 2 (min (bootCount t) 0xFFFF)

/-- The module after the ack and the peek of a request, the bytes copied and the block
info.  Each of the two reads the clock at most once. -/
def drain (c : Clock) (ackSeq maxBytes : ℕ) (t : Module) : Module × List UInt8 × BlockInfo :=
  peek (c.after 1) (min maxBytes kRecordBytesMax) (ack c ackSeq t)

/-- `handleGetTelemetryBlock`, on the bytes of the command. -/
def handleGetTelemetryBlock (c : Clock) (buf : Mem) (t : Module) : Module × Reply :=
  if (buf 0).toNat < 7 then
    (t, ⟨getTelemetryBlockCmd, 1, ascii "Expected [08 A9 ack_seq(4) max_bytes(2) flags]"⟩)
  else
    let (t, bytes, info) := drain c (wordAt buf 2 4) (wordAt buf 6 2) t
    (t, ⟨getTelemetryBlockCmd, 0, blockHeader (c.us 2) info t ++ bytes⟩)

end Telemetry
end G6Arena
