/-
# The host's decoder

`tests/telemetry_codec.py`: `parse_block` and what it calls.  A `ValueError` is an
`Except.error` with its message; a `dict` of fields is an association list in insertion
order; Python's integers, never negative here, are natural numbers.
-/

import Mathlib.Data.Nat.Notation
import G6Arena.Lib.ByteMem

namespace G6Arena
namespace Codec

open ByteMem

/-! ### Constants -/

def blockHeaderLen : ℕ := 18
def recordHeaderLen : ℕ := 10
def frameRecordLenV1 : ℕ := 20
def frameMinBody : ℕ := frameRecordLenV1 - recordHeaderLen
def stateRecordLen : ℕ := 14

def recPad : ℕ := 0
def recCmd : ℕ := 1
def recFrame : ℕ := 2
def recState : ℕ := 3

def stBoot : ℕ := 1
def stStateChange : ℕ := 2
def stErrorGlyph : ℕ := 3
def stSdSlow : ℕ := 4
def stRingOverrun : ℕ := 5
def stTelemetry : ℕ := 6
def stSdOpen : ℕ := 7
def stWdogContext : ℕ := 8
def stPrevIsrCount : ℕ := 9
def stTimerFail : ℕ := 10
def stSdLayout : ℕ := 11
def stSdSlowCtx : ℕ := 12
def stSdReads : ℕ := 13
def stSdReadsCkpt : ℕ := 14

def sdSlowPhaseNames : List (ℕ × String) :=
  [(0, "unknown"), (1, "seek"), (2, "body"), (3, "tail")]

def sdSlowErrorFlag : ℕ := 0x80
def frameFlagSdRead : ℕ := 0x01
def frameFlagContiguous : ℕ := 0x02

def stateKindNames : List (ℕ × String) :=
  [(stBoot, "boot"), (stStateChange, "state_change"), (stErrorGlyph, "error_glyph"),
    (stSdSlow, "sd_slow"), (stRingOverrun, "ring_overrun"), (stTelemetry, "telemetry"),
    (stSdOpen, "sd_open"), (stWdogContext, "wdog_context"),
    (stPrevIsrCount, "prev_isr_count"), (stTimerFail, "timer_fail"),
    (stSdLayout, "sd_layout"), (stSdSlowCtx, "sd_slow_ctx"), (stSdReads, "sd_reads"),
    (stSdReadsCkpt, "sd_reads_ckpt")]

def isrNames : List String := ["none", "refresh", "dma", "wdog", "usb", "sdhc", "lpspi", "pit"]

def arenaStateNames : List String :=
  ["ALL_OFF", "ALL_ON", "STREAMING_FRAME", "OPEN_LOOP", "SHOW_FRAME", "CLOSED_LOOP", "PSRAM_PLAY",
    "ERROR_DISPLAY"]

def overrunCodeHeapCollision : ℕ := 0xFF
def syntheticCmd : ℕ := 0xFE
def setFlagEvents : ℕ := 0x01
def setFlagSynthetic : ℕ := 0x80

/-! ### Values -/

/-- A value of a record's `fields`. -/
inductive Val
  | int (n : ℕ)
  | bool (b : Bool)
  | str (s : String)
  | none
  deriving DecidableEq

/-- A record's `fields`. -/
abbrev Fields : Type := List (String × Val)

/-- `@dataclass BlockHeader`. -/
structure BlockHeader where
  tNowUs : ℕ
  firstSeq : ℕ
  nRecords : ℕ
  dropped : ℕ
  more : ℕ
  flags : ℕ
  bootCount : ℕ
  deriving DecidableEq

/-- `@dataclass Record`. -/
structure Record where
  type : ℕ
  seq : ℕ
  tUs : ℕ
  raw : List UInt8
  fields : Fields
  deriving DecidableEq

/-- `struct.unpack` of one little-endian field: `n` bytes at `off`. -/
def unpack (buf : List UInt8) (off n : ℕ) : ℕ := ofLe ((buf.drop off).take n)

def hexDigit (n : ℕ) : Char := "0123456789abcdef".toList.getD n '0'

/-- `bytes.hex`. -/
def hex (bs : List UInt8) : String :=
  String.ofList (bs.flatMap fun b => [hexDigit (b.toNat / 16), hexDigit (b.toNat % 16)])

/-- `bool(n & mask)`. -/
def bit (n mask : ℕ) : Val := .bool (n &&& mask ≠ 0)

/-! ### Records -/

/-- `classify_exc_return`. -/
def classifyExcReturn (lowByte : ℕ) : String :=
  let lo := lowByte &&& 0xFF
  if lo ∉ [0xF1, 0xF9, 0xFD, 0xE1, 0xE9, 0xED] then "unknown"
  else if lo &&& 0x08 ≠ 0 then "thread" else "handler"

/-- `ISR_NAMES[n] if n < len(ISR_NAMES) else f"isr{n}"`. -/
def isrName (n : ℕ) : String := isrNames.getD n s!"isr{n}"

/-- Fields present when a condition holds. -/
def fieldsIf (c : Bool) (fields : Fields) : Fields := if c then fields else []

/-- The fields `_decode_payload` adds to those every `STATE` record has. -/
def stateExtras (kind code arg : ℕ) : Fields :=
  let ipsr := arg &&& 0x1FF
  let prior := (arg >>> 9) &&& 0x7F
  List.flatten
    [fieldsIf (kind = stStateChange && code < arenaStateNames.length)
      [("state_name", .str (arenaStateNames.getD code ""))],
    fieldsIf (kind = stBoot)
      [("prev_breadcrumb_op", .int (arg >>> 8)), ("prev_wdog_fired", bit arg 2),
        ("prev_breadcrumb_valid", .int (arg &&& 1))],
    fieldsIf (kind = stRingOverrun)
      [("heap_collision", .bool (code = overrunCodeHeapCollision))],
    fieldsIf (kind = stWdogContext)
      [("exc_return_lo", .int code), ("preempted", .str (classifyExcReturn code)),
        ("fp_stacked", .bool (code &&& 0x10 = 0)), ("ipsr", .int ipsr),
        ("ipsr_irq", if 16 ≤ ipsr then .int (ipsr - 16) else .none), ("prior_isr", .int prior),
        ("prior_isr_name", .str (isrName prior))],
    fieldsIf (kind = stPrevIsrCount)
      [("isr_name", .str (isrName code)), ("entries_approx", .int (arg <<< 12))],
    fieldsIf (kind = stTimerFail) [("requested_hz", .int arg)],
    fieldsIf (kind = stSdSlow)
      [("read_us", .int (arg * 100)),
        ("phase", .str ((sdSlowPhaseNames.lookup (code &&& 0x03)).getD "unknown")),
        ("read_error", bit code sdSlowErrorFlag)],
    fieldsIf (kind = stSdLayout)
      [("contiguous", bit code 1), ("exfat", bit code 2), ("legacy_seek", bit code 4),
        ("no_same_index_skip", bit code 8), ("sectors_per_cluster", .int arg)],
    fieldsIf (kind = stSdSlowCtx)
      [("card_error_code", .int code), ("irqstat_hi", .int arg),
        ("driver_saw_error", .bool (code ≠ 0))],
    fieldsIf (kind = stSdReads)
      [("reads", .int (arg <<< (code &&& 0x7F))), ("checkpoint", bit code 0x80)],
    fieldsIf (kind = stSdReadsCkpt)
      [("reads", .int (arg <<< code)), ("checkpoint", .bool true)],
    fieldsIf (kind = stTelemetry && code = 0xCE) [("sd_diag_flags", .int arg)],
    fieldsIf (kind = stTelemetry && code ≠ 0xCE)
      [("events", bit code setFlagEvents), ("synthetic", bit code setFlagSynthetic),
        ("rate_hz", .int arg)]]

/-- The fields of a `STATE` record. -/
def stateFields (kind code arg : ℕ) : Fields :=
  [("kind", .int kind), ("kind_name", .str ((stateKindNames.lookup kind).getD s!"kind{kind}")),
    ("code", .int code), ("arg", .int arg)] ++ stateExtras kind code arg

/-- The fields of a `CMD` record whose payload length checks out. -/
def cmdFields (body : List UInt8) : Fields :=
  let cmd := unpack body 0 1
  let plen := unpack body 2 1
  [("cmd", .int cmd), ("status", .int (unpack body 1 1)),
    ("params", .str (hex ((body.drop 3).take plen)))] ++
  if cmd = syntheticCmd ∧ plen = 4 then [("counter", .int (unpack body 3 4))] else []

/-- The fields of a `FRAME` record that is long enough. -/
def frameFields (body : List UInt8) : Fields :=
  [("idx", .int (unpack body 0 2)), ("pattern", .int (unpack body 2 2)),
    ("sd_load_us", .int (unpack body 4 4)), ("spi_us", .int (unpack body 8 2))] ++
  (if 16 ≤ body.length then
    let flags := unpack body 15 1
    [("req_age_us", .int (unpack body 10 4)), ("superseded", .int (unpack body 14 1)),
      ("flags", .int flags), ("sd_read", bit flags frameFlagSdRead),
      ("contiguous", bit flags frameFlagContiguous)] else []) ++
  if 16 < body.length then [("extra", .str (hex (body.drop 16)))] else []

/-- `_decode_payload`. -/
def decodePayload (rtype : ℕ) (body : List UInt8) : Except String Fields :=
  if rtype = recCmd then
    if body.length < 3 then .error "CMD record payload too short"
    else
      let plen := unpack body 2 1
      if body.length ≠ 3 + plen then
        .error s!"CMD record plen={plen} but {body.length - 3} payload bytes present"
      else .ok (cmdFields body)
  else if rtype = recFrame then
    if body.length < frameMinBody then
      .error s!"FRAME record payload is {body.length} B, expected >= {frameMinBody}"
    else .ok (frameFields body)
  else if rtype = recState then
    if body.length ≠ stateRecordLen - recordHeaderLen then
      .error s!"STATE record payload is {body.length} B, expected 4"
    else .ok (stateFields (unpack body 0 1) (unpack body 1 1) (unpack body 2 2))
  else .error s!"unknown record type {rtype}"

/-- One pass of `parse_records`: the record of `rlen` bytes at `i`. -/
def parseRecord (buf : List UInt8) (i rlen : ℕ) : Except String Record :=
  if rlen < recordHeaderLen then
    .error s!"record at {i} has len {rlen} < {recordHeaderLen} (PAD or corrupt)"
  else if buf.length < i + rlen then
    .error s!"record at {i} (len {rlen}) runs past block end ({buf.length}) — split record"
  else
    let raw := (buf.drop i).take rlen
    let rtype := unpack raw 1 1
    if rtype = recPad then .error s!"PAD record returned at {i}"
    else
      (decodePayload rtype (raw.drop recordHeaderLen)).map fun fields =>
        { type := rtype, seq := unpack raw 2 4, tUs := unpack raw 6 4, raw := raw, fields := fields }

/-- A parsed record is at least a header long. -/
theorem le_of_parseRecord {buf : List UInt8} {i rlen : ℕ} {r : Record}
    (h : parseRecord buf i rlen = .ok r) : recordHeaderLen ≤ rlen := by
  unfold parseRecord at h
  split_ifs at h
  omega

/-- `parse_records`, from offset `i` on. -/
def parseRecords (buf : List UInt8) (i : ℕ) : Except String (List Record) :=
  if i < buf.length then
    match h : parseRecord buf i (unpack buf i 1) with
    | .error e => .error e
    | .ok r =>
      have : recordHeaderLen ≤ unpack buf i 1 := le_of_parseRecord h
      (parseRecords buf (i + unpack buf i 1)).map fun rest => r :: rest
  else .ok []
termination_by buf.length - i
decreasing_by
  have hlen : recordHeaderLen = 10 := rfl
  omega

/-! ### Blocks -/

/-- `parse_block_header`. -/
def parseBlockHeader (payload : List UInt8) : Except String BlockHeader :=
  if payload.length < blockHeaderLen then
    .error s!"block payload too short: {payload.length} < {blockHeaderLen}"
  else
    .ok { tNowUs := unpack payload 0 4, firstSeq := unpack payload 4 4
          nRecords := unpack payload 8 2, dropped := unpack payload 10 4
          more := unpack payload 14 1, flags := unpack payload 15 1
          bootCount := unpack payload 16 2 }

/-- The cross-checks of `parse_block` between the header and the records. -/
def checkBlock (hdr : BlockHeader) (recs : List Record) :
    Except String (BlockHeader × List Record) :=
  if recs.length ≠ hdr.nRecords then
    .error s!"header says {hdr.nRecords} records, decoded {recs.length}"
  else match recs with
    | [] =>
      if hdr.firstSeq ≠ 0 then .error s!"empty block but first_seq={hdr.firstSeq}"
      else .ok (hdr, recs)
    | r :: _ =>
      if r.seq ≠ hdr.firstSeq then
        .error s!"header first_seq={hdr.firstSeq} but first record seq={r.seq}"
      else .ok (hdr, recs)

/-- `parse_block`. -/
def parseBlock (payload : List UInt8) : Except String (BlockHeader × List Record) :=
  match parseBlockHeader payload with
  | .error e => .error e
  | .ok hdr => match parseRecords (payload.drop blockHeaderLen) 0 with
    | .error e => .error e
    | .ok recs => checkBlock hdr recs

end Codec
end G6Arena
