/-
# The telemetry module

The public functions of `src/Telemetry.cpp` over the ring of
`G6Arena.Telemetry.Ring`: boot, the three producers, the synthetic producer,
`SET_TELEMETRY`, and the drain.

`Module` is its state: the ring and the mirrors in DTCM.  A call
reads the heap break `__brkval`, constant while the call runs, and `micros()`;
both come from its `Clock`, whose `us k` is the `k`-th reading the call may
take.  Ring memory is written by `appendRaw`, `sealHeader` and `initRing` only,
and every path to them tests the heap guard first.
-/

import G6Arena.Telemetry.Ring

namespace G6Arena
namespace Telemetry

open ByteMem BoundedLoop

/-! ### Record kinds -/

def stBoot : UInt8 := 1
def stStateChange : UInt8 := 2
def stErrorGlyph : UInt8 := 3
def stSdSlow : UInt8 := 4
def stRingOverrun : UInt8 := 5
def stTelemetry : UInt8 := 6
def stSdOpen : UInt8 := 7
def stWdogContext : UInt8 := 8
def stPrevIsrCount : UInt8 := 9
def stTimerFail : UInt8 := 10
def stSdLayout : UInt8 := 11
def stSdSlowCtx : UInt8 := 12
def stSdReads : UInt8 := 13
def stSdReadsCkpt : UInt8 := 14

def kOverrunCodeEvicted : UInt8 := 0x00
def kOverrunCodeHeapCollision : UInt8 := 0xFF
def kSyntheticCmd : UInt8 := 0xFE

def kEvictEpisodeGapUs : ℕ := 1000000
def kSynthCatchUpMax : ℕ := 256

/-! ### State -/

/-- What a call reads of the hardware: `__brkval` and the readings of `micros()`. -/
structure Clock where
  brk : ℕ
  us : ℕ → ℕ

/-- The readings from the `k`-th on. -/
def Clock.after (c : Clock) (k : ℕ) : Clock := { c with us := fun j => c.us (k + j) }

@[simp] theorem Clock.after_brk (c : Clock) (k : ℕ) : (c.after k).brk = c.brk := rfl

/-- The module's state. -/
structure Module where
  ring : Ring
  ringOk : Bool
  enabled : Bool
  kept : Bool
  heapCollision : Bool
  droppedReported : ℕ
  lastEvictUs : ℕ
  evictedEver : Bool
  synthOn : Bool
  synthRate : ℕ
  synthPeriodUs : ℕ
  synthLastUs : ℕ
  synthCounter : ℕ

/-- The mirrors before `begin()` runs, over whatever OCRAM holds. -/
def powerUp (ring : Ring) : Module where
  ring := ring
  ringOk := false
  enabled := false
  kept := false
  heapCollision := false
  droppedReported := 0
  lastEvictUs := 0
  evictedEver := false
  synthOn := false
  synthRate := 0
  synthPeriodUs := 0
  synthLastUs := 0
  synthCounter := 0

/-- `heapTooClose`. -/
def heapTooClose (brk : ℕ) : Bool := kRingBase - kHeapGuardBytes ≤ brk

/-! ### Append -/

/-- `buildState`: a `STATE` record, its sequence number not yet stamped. -/
def buildState (tUs : ℕ) (kind code : UInt8) (arg : ℕ) : List UInt8 :=
  [UInt8.ofNat kStateRecordLen, recState, 0, 0, 0, 0] ++ toLe 4 tUs ++ [kind, code] ++ toLe 2 arg

/-- `tripHeapGuard`. -/
def tripHeapGuard (c : Clock) (t : Module) : Module :=
  let t := { t with heapCollision := true }
  let t :=
    if c.brk < kRingBase then
      let r := (appendRaw (buildState (c.us 0) stRingOverrun kOverrunCodeHeapCollision 0) t.ring).1
      { t with ring := writeFlags (r.hdr.flags &&& (0xFF - kFlagEventsEnabled)) r }
    else t
  { t with enabled := false, synthOn := false, ringOk := false }

/-- Does this eviction, seen at `now`, open a new eviction episode? -/
def newEpisode (now : ℕ) (t : Module) : Bool :=
  !t.evictedEver || kEvictEpisodeGapUs ≤ sub32 now t.lastEvictUs

/-- The `STATE(ring_overrun)` marker of a new episode: it carries the evictions
since the last marker. -/
def overrunMarker (now droppedReported : ℕ) (r : Ring) : List UInt8 :=
  buildState now stRingOverrun kOverrunCodeEvicted (min (sub32 r.hdr.dropped droppedReported) 0xFFFF)

/-- `append`: the shared tail of every producer. -/
def append (c : Clock) (rec : List UInt8) (t : Module) : Module :=
  if heapTooClose c.brk then tripHeapGuard c t
  else
    let (r, evicted) := appendRaw rec t.ring
    if evicted ≠ 0 then
      let now := c.us 0
      let t :=
        if newEpisode now t then
          let r := (appendRaw (overrunMarker now t.droppedReported r) r).1
          { t with ring := r, droppedReported := r.hdr.dropped }
        else { t with ring := r }
      { t with evictedEver := true, lastEvictUs := now }
    else { t with ring := r }

/-! ### Producers -/

/-- The record `cmd` appends: at most `kCmdPayloadMax` request bytes. -/
def cmdRecord (tRxUs : ℕ) (cmdByte status : UInt8) (req : List UInt8) : List UInt8 :=
  let req := req.take kCmdPayloadMax
  [UInt8.ofNat (kRecordHeaderLen + 3 + req.length), recCmd, 0, 0, 0, 0] ++ toLe 4 tRxUs
    ++ [cmdByte, status, UInt8.ofNat req.length] ++ req

/-- `cmd`. -/
def cmd (c : Clock) (tRxUs : ℕ) (cmdByte status : UInt8) (req : List UInt8) (t : Module) :
    Module :=
  if !t.enabled then t else append c (cmdRecord tRxUs cmdByte status req) t

/-- The record `frame` appends: `spi_us` saturates at 16 bits. -/
def frameRecord (tUs idx pattern sdLoadUs spiUs reqAgeUs : ℕ) (superseded flags : UInt8) :
    List UInt8 :=
  [UInt8.ofNat kFrameRecordLen, recFrame, 0, 0, 0, 0] ++ toLe 4 tUs ++ toLe 2 idx ++ toLe 2 pattern
    ++ toLe 4 sdLoadUs ++ toLe 2 (min spiUs 0xFFFF) ++ toLe 4 reqAgeUs ++ [superseded, flags]

/-- `frame`. -/
def frame (c : Clock) (tUs idx pattern sdLoadUs spiUs reqAgeUs : ℕ) (superseded flags : UInt8)
    (t : Module) : Module :=
  if !t.enabled then t
  else append c (frameRecord tUs idx pattern sdLoadUs spiUs reqAgeUs superseded flags) t

/-- `state`: its time stamp is the first reading of the clock. -/
def state (c : Clock) (kind code : UInt8) (arg : ℕ) (t : Module) : Module :=
  if !t.enabled then t else append (c.after 1) (buildState (c.us 0) kind code arg) t

/-! ### Boot -/

/-- The fields of `Health::stats` that `begin` reads. -/
structure BootHealth where
  resetCause : ℕ
  /-- `reset_cause & SRC_SRSR_WDOG3_RST_B`. -/
  wdog3Reset : Bool
  prevLastOp : ℕ
  prevValid : Bool
  prevIsrValid : Bool
  prevWdogFired : Bool
  prevWdogXpsr : ℕ
  prevWdogPrevIsr : ℕ
  prevWdogExcret : ℕ
  prevIsrCnt : ℕ → ℕ

/-- `Health::ISR_ID_COUNT`. -/
def isrIdCount : ℕ := 8

/-- The `STATE` records `begin` appends, as `(kind, code, arg)`, in order. -/
def bootRecords (hs : BootHealth) : List (UInt8 × UInt8 × ℕ) :=
  let arg := (hs.prevLastOp <<< 8) % 2 ^ 16 ||| (if hs.prevValid then 1 else 0)
    ||| (if hs.prevIsrValid && hs.prevWdogFired then 2 else 0)
  [(stBoot, UInt8.ofNat hs.resetCause, arg)] ++
    if hs.prevIsrValid && hs.wdog3Reset then
      (if hs.prevWdogFired then
        [(stWdogContext, UInt8.ofNat hs.prevWdogExcret,
          (hs.prevWdogXpsr &&& 0x1FF) ||| ((hs.prevWdogPrevIsr &&& 0x7F) <<< 9))]
      else []) ++
      ((List.range isrIdCount).tail.filter fun id => hs.prevIsrCnt id ≠ 0).map fun id =>
        (stPrevIsrCount, UInt8.ofNat id, min (hs.prevIsrCnt id >>> 12) 0xFFFF)
    else []

/-- `state` for each of a list of records; each call takes two readings. -/
def states (c : Clock) : List (UInt8 × UInt8 × ℕ) → Module → Module
  | [], t => t
  | (kind, code, arg) :: rest, t => states (c.after 2) rest (state c kind code arg t)

/-- `begin`, over the contents of OCRAM. -/
def begin (c : Clock) (hs : BootHealth) (mem : Ring) : Module :=
  let t := powerUp mem
  if heapTooClose c.brk then { t with heapCollision := true }
  else
    let (r, kept) := beginRing mem
    states c (bootRecords hs)
      { t with ring := r, ringOk := true, kept := kept, enabled := true, droppedReported := r.hdr.dropped }

/-! ### Service and configuration -/

/-- The record of the synthetic producer. -/
def synthRecord (tUs counter : ℕ) : List UInt8 :=
  [17, recCmd, 0, 0, 0, 0] ++ toLe 4 tUs ++ [kSyntheticCmd, 0, 4] ++ toLe 4 counter

/-- The body of the catch-up loop of `service`: one synthetic record, stamped with its
scheduled time. -/
def synthAppend (c : Clock) (t : Module) : Module :=
  let due := (t.synthLastUs + t.synthPeriodUs) % 2 ^ 32
  append c (synthRecord due t.synthCounter)
    { t with synthLastUs := due, synthCounter := (t.synthCounter + 1) % 2 ^ 32 }

/-- One pass of the catch-up loop of `service`: the module state, the passes made,
and whether the loop has been left. -/
def servicePass (c : Clock) (now : ℕ) : Module × ℕ × Bool → Option (Module × ℕ × Bool) :=
  fun (t, steps, left) =>
    if left || sub32 now t.synthLastUs < t.synthPeriodUs then none
    else
      let t := synthAppend (c.after (steps + 1)) t
      if !t.ringOk then some (t, steps, true)
      else if kSynthCatchUpMax ≤ steps + 1 then
        some ({ t with synthLastUs := now }, steps + 1, true)
      else some (t, steps + 1, false)

/-- `service`: heap guard and synthetic producer. -/
def service (c : Clock) (t : Module) : Module :=
  if !t.ringOk then t
  else if heapTooClose c.brk then tripHeapGuard c t
  else if !t.synthOn then t
  else (loop (servicePass c (c.us 0)) (kSynthCatchUpMax + 1) (t, 0, false)).1

/-- `configure`, before its record: switch events on, here and in the header. -/
def enableEvents (on : Bool) (t : Module) : Module :=
  if on && !t.enabled then
    { t with
      enabled := true
      ring := writeFlags (t.ring.hdr.flags ||| kFlagEventsEnabled) t.ring }
  else t

/-- `configure`, after its record: switch events off, here and in the header. -/
def disableEvents (on : Bool) (t : Module) : Module :=
  if !on && t.enabled then
    { t with
      enabled := false
      ring := writeFlags (t.ring.hdr.flags &&& (0xFF - kFlagEventsEnabled)) t.ring }
  else t

/-- The synthetic producer's part of `configure`; `rate = none` leaves the stored rate
unchanged. -/
def configureSynth (now : ℕ) (synth : Bool) (rateHz : Option ℕ) (t : Module) : Module :=
  let rate := match rateHz with
    | some rate => min rate 0xFFFF
    | none => t.synthRate
  let on := synth && 0 < rate
  { t with
    synthRate := rate
    synthOn := on
    synthPeriodUs := if on then 1000000 / rate else 0
    synthLastUs := now
    synthCounter := 0 }

/-- `configure` (`SET_TELEMETRY`): its `STATE(telemetry)` is recorded while events are
still, or newly, enabled. -/
def configure (c : Clock) (flags : UInt8) (rateHz : Option ℕ) (t : Module) : Module :=
  if !t.ringOk then t
  else if heapTooClose c.brk then tripHeapGuard c t
  else
    let on : Bool := flags.toNat &&& kFlagEventsEnabled ≠ 0
    let synth : Bool := flags.toNat &&& kFlagSynthetic ≠ 0
    let t := configureSynth (c.us 0) synth rateHz (enableEvents on t)
    disableEvents on (state (c.after 1) stTelemetry flags t.synthRate t)

/-! ### Drain -/

/-- `ack`. -/
def ack (c : Clock) (ackSeq : ℕ) (t : Module) : Module :=
  if !t.ringOk || ackSeq = 0xFFFFFFFF then t
  else if heapTooClose c.brk then tripHeapGuard c t
  else { t with ring := ackRing ackSeq t.ring }

/-- `peek`: the module state, the bytes copied and the block info. -/
def peek (c : Clock) (maxBytes : ℕ) (t : Module) : Module × List UInt8 × BlockInfo :=
  if !t.ringOk then (t, [], ⟨0, 0, false⟩)
  else if heapTooClose c.brk then (tripHeapGuard c t, [], ⟨0, 0, false⟩)
  else (t, peekRing maxBytes t.ring)

/-! ### Views for the block header -/

def blockFlags (t : Module) : UInt8 :=
  (if t.enabled then 0x01 else 0) ||| (if t.ringOk && t.ring.hdr.bootCount ≠ 0 then 0x02 else 0)
    ||| (if t.heapCollision then 0x04 else 0) ||| (if t.synthOn then 0x08 else 0)

def dropped (t : Module) : ℕ := if t.ringOk then t.ring.hdr.dropped else 0
def bootCount (t : Module) : ℕ := if t.ringOk then t.ring.hdr.bootCount else 0
def nextSeq (t : Module) : ℕ := if t.ringOk then t.ring.hdr.nextSeq else 0
def pendingBytes (t : Module) : ℕ := if t.ringOk then usedBytes t.ring.hdr else 0

end Telemetry
end G6Arena
