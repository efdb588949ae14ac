/-
# The display

The display side of `CommandProcessor`: the frame buffer and what it holds, the refresh
timer, the playback clocks, the analog output, the digital IO, the telemetry, and the
functions that change them without a command (`enterAllOff`, `showError`,
`loadFrame`, the service of each mode).

The fields of the class are in records by what they are about.  `clocked` is a history:
what the transfers have sent to the panels.  `frame_accum_` is a float and is not kept:
what it adds up to between two calls is given (`Env.accumSteps`).
-/

import G6Arena.Command.Env
import G6Arena.Panel.ErrorGlyph
import G6Arena.Panel.Spi

namespace G6Arena
namespace Command

open ByteMem Panel
open Sd (ControllerError Store)

/-- `ArenaState`. -/
inductive ArenaState
  | allOff
  | allOn
  | streamingFrame
  | openLoop
  | showFrame
  | closedLoop
  | psramPlay
  | errorDisplay
  deriving DecidableEq

def ArenaState.toByte : ArenaState → UInt8
  | allOff => 0
  | allOn => 1
  | streamingFrame => 2
  | openLoop => 3
  | showFrame => 4
  | closedLoop => 5
  | psramPlay => 6
  | errorDisplay => 7

/-- The states a trial is in. -/
def ArenaState.pattern : ArenaState → Bool
  | .openLoop | .showFrame | .closedLoop => true
  | _ => false

/-! ### State -/

/-- The frame buffer, its geometry, and the frame it is to hold. -/
structure Screen where
  state : ArenaState
  blockByteCount : ℕ
  panelDispMode : UInt8
  frameBuf : Mem
  frameByteCount : ℕ
  patternId : ℕ
  frameCount : ℕ
  curFrameIndex : ℕ
  trialDuty : UInt8
  frameBufIsFrame : Bool
  sdCacheOk : Bool

/-- The refresh rate, and `SpiManager`'s refresh timer. -/
structure Refresh where
  rateHz : ℕ
  rateExplicit : Bool
  armedHz : ℕ
  refreshFlag : Bool
  isrCount : ℕ
  deriving DecidableEq

structure Playback where
  frameRateHz : ℤ
  gain : ℤ
  lastAdvanceUs : ℕ
  lastSampleUs : ℕ
  trialEndMs : ℕ
  errorUntilMs : ℕ
  psramStartIndex : ℕ
  psramPlayCount : ℕ
  psramPlayOffset : ℕ
  sdSkipSameIndex : Bool
  lateBootBlankPending : Bool
  deriving DecidableEq

/-- From request to presentation: what the `FRAME` records are made of. -/
structure Marks where
  telLastFrame : ℕ
  telLastPattern : ℕ
  lastCmdRxUs : ℕ
  pendingReqUs : ℕ
  pendingReqValid : Bool
  frameReqUs : ℕ
  frameSrcFlags : UInt8
  bufPresented : Bool
  supersededPending : ℕ
  openReads : ℕ
  deriving DecidableEq

/-- The counters of `Health::stats` the command processor writes. -/
structure Health where
  sdReads : ℕ
  sdReadMaxUs : ℕ
  lastSdReadUs : ℕ
  cmd70Count : ℕ
  cmd70SameIndex : ℕ
  deriving DecidableEq

structure AnalogOut where
  /-- the code in the DAC -/
  dacCode : ℕ
  mv : ℕ
  mode : ℕ
  lut : ℕ → ℕ
  lutLen : ℕ
  lutMode : ℕ
  lutStepHz : ℕ
  lutIdx : ℕ
  lutLastUs : ℕ

/-- `DioRole`. -/
inductive DioRole
  | off
  | inTrigger
  | outProgrammable
  | outFramescan
  deriving DecidableEq

/-- `pinMode` and `digitalWrite`. -/
inductive PinOp
  | mode (pin : ℕ) (output : Bool)
  | write (pin : ℕ) (high : Bool)
  deriving DecidableEq

structure DigitalIo where
  role1 : DioRole
  role2 : DioRole
  /-- the gate pins of `SpiManager` -/
  framescan1 : Bool
  framescan2 : Bool
  ops : List PinOp

structure Display where
  screen : Screen
  refresh : Refresh
  playback : Playback
  marks : Marks
  health : Health
  ao : AnalogOut
  dio : DigitalIo
  tel : Telemetry.Module
  framesSent : ℕ
  spiClockMhz : ℕ
  clocked : List Transfer
  dbgOn : Bool

/-! ### Buffers -/

/-- The opcode of a block in a display mode, its family kept. -/
def setDispMode (mode : UInt8) (off : ℕ) (buf : Mem) : Mem :=
  store buf (off + 1) [dispOpcodeWithMode (buf (off + 1) &&& 0xFC) mode]

/-- The duty of a block, its last byte. -/
def setDuty (blockByteCount : ℕ) (duty : UInt8) (off : ℕ) (buf : Mem) : Mem :=
  store buf (off + blockByteCount - 1) [duty]

namespace Screen

/-- How many blocks of the frame are patched. -/
def blockCount (s : Screen) : ℕ :=
  (s.frameByteCount - streamFramePrefixByteCount) / s.blockByteCount

/-- `patchDispMode`. -/
def patchDispMode (s : Screen) : Screen :=
  if s.blockByteCount = 0 ∨ s.frameByteCount ≤ streamFramePrefixByteCount then s
  else { s with
    frameBuf := eachBlock s.blockByteCount (setDispMode s.panelDispMode) 0 s.blockCount s.frameBuf }

/-- `patchTrialDuty`. -/
def patchTrialDuty (s : Screen) : Screen :=
  if s.trialDuty = 0 then s
  else if s.blockByteCount ≠ panelBlockByteCountGs2 ∧ s.blockByteCount ≠ panelBlockByteCountGs16 then s
  else if s.frameByteCount ≤ streamFramePrefixByteCount then s
  else
    let change := setDuty s.blockByteCount s.trialDuty
    { s with frameBuf := eachBlock s.blockByteCount change 0 s.blockCount s.frameBuf }

end Screen

/-- A buffer of zeros with the frame prefix. -/
def clearedBuf : Mem := ByteMem.store (fun _ => 0) 0 [0x46, 0x52, 0, 0]

section

variable [Board]

/-- The buffer `fillFrameBufferDark` makes. -/
def darkBuf : Mem :=
  fillBlocks panelBlockByteCountGs2 ([headerVersionV1, cmdDisp2lvlPersist] ++ List.replicate 51 0)
    panelCountPerFrame clearedBuf

/-- The buffer `fillFrameBufferAllOn` makes, for GS16 blocks. -/
def allOnBuf (panelDispMode : UInt8) : Mem :=
  fillBlocks panelBlockByteCountGs16
    ([headerVersionV1, dispOpcodeWithMode cmdDisp16lvlOneshot panelDispMode]
      ++ List.replicate 201 0xFF)
    panelCountPerFrame clearedBuf

/-- `defaultRefreshFor`. -/
def defaultRefreshFor (blockByteCount : ℕ) : ℕ :=
  if blockByteCount = panelBlockByteCountGs2 then refreshRateGs2Default else refreshRateGs16Default

end

/-- `stream_frame_prefix_byte_count + n * block_byte_count`, as a `uint16_t`. -/
def frameBytes (n blockByteCount : ℕ) : ℕ := (streamFramePrefixByteCount + n * blockByteCount) % 2 ^ 16

/-- `while (v > 0xFFFF) { v >>= 1; ++shift; }`: the shift and what is left. -/
def shiftDown : ℕ → ℕ → ℕ × ℕ
  | 0, v => (0, v)
  | n + 1, v => if 0xFFFF < v then ((shiftDown n (v / 2)).1 + 1, (shiftDown n (v / 2)).2) else (0, v)

def kSdReadsCheckpoint : ℕ := 30000
def kSdSlowThresholdUs : ℕ := 10000
def errorDisplayHoldMs : ℕ := 750
def kFrameFlagSdRead : UInt8 := 0x01
def kFrameFlagContiguous : UInt8 := 0x02

namespace Display

/-! ### Telemetry and the refresh timer -/

/-- `Telemetry::state`. -/
def note (c : Telemetry.Clock) (kind code : UInt8) (arg : ℕ) (d : Display) : Display :=
  { d with tel := Telemetry.state c kind code arg d.tel }

/-- `SpiManager::disarmRefreshTimer`. -/
def disarmRefreshTimer (d : Display) : Display :=
  { d with refresh := { d.refresh with armedHz := 0, refreshFlag := false } }

/-- `SpiManager::armRefreshTimer`. -/
def armRefreshTimer (env : Env) (hz : ℕ) (d : Display) : Display × Bool :=
  if hz = 0 then (d, false)
  else if d.refresh.armedHz = hz then (d, true)
  else if d.refresh.armedHz ≠ 0 then ({ d with refresh := { d.refresh with armedHz := hz } }, true)
  else if !env.timerBegin [] then
    (d.note (env.clock 0) Telemetry.stTimerFail 0 (min hz 0xFFFF), false)
  else ({ d with refresh := { d.refresh with armedHz := hz } }, true)

/-- `SpiManager::refreshArmedAt`. -/
def refreshArmedAt (hz : ℕ) (d : Display) : Bool := d.refresh.armedHz = hz && hz ≠ 0

/-- `flushOpenReads`. -/
def flushOpenReads (c : Telemetry.Clock) (d : Display) : Display :=
  if d.marks.openReads = 0 then d
  else
    let (shift, v) := shiftDown 32 d.marks.openReads
    let d := d.note c Telemetry.stSdReads (UInt8.ofNat shift) v
    { d with marks := { d.marks with openReads := 0 } }

/-! ### The analog output -/

/-- `writeDacMv`. -/
def writeDacMv (ok : Bool) (mv : ℕ) (ao : AnalogOut) : AnalogOut × Bool :=
  if ok then ({ ao with dacCode := mv * 4095 / 5000, mv := mv }, true) else (ao, false)

/-- `applyAoLut`. -/
def applyAoLut (ok : Bool) (idx : ℕ) (ao : AnalogOut) : AnalogOut × Bool :=
  if ao.lutLen = 0 then (ao, true) else writeDacMv ok (ao.lut (idx % ao.lutLen)) ao

/-- The level of the frame-number mode. -/
def frameNumberMv (frameIndex frameCount : ℕ) : ℕ :=
  if 1 < frameCount then frameIndex * 5000 / (frameCount - 1) % 2 ^ 16 else 0

/-- The outputs `loadFrame` derives from the frame. -/
def deriveOutputs (ok : Bool) (frameIndex frameCount : ℕ) (ao : AnalogOut) : AnalogOut × Bool :=
  if ao.mode = 1 then writeDacMv ok (frameNumberMv frameIndex frameCount) ao
  else if 0 < ao.lutLen ∧ ao.lutMode = 0 then
    let idx := frameIndex % ao.lutLen
    applyAoLut ok idx { ao with lutIdx := idx }
  else (ao, true)

/-! ### Buffer ownership -/

/-- A frame that was never presented, counted. -/
def countSuperseded (d : Display) : ℕ :=
  if d.screen.frameBufIsFrame ∧ !d.marks.bufPresented ∧ d.marks.supersededPending < 0xFF then
    d.marks.supersededPending + 1
  else d.marks.supersededPending

/-- `dropFrameCache`. -/
def dropFrameCache (d : Display) : Display :=
  { d with screen := { d.screen with sdCacheOk := false } }

/-- `invalidateFrameBuf`. -/
def invalidateFrameBuf (env : Env) (d : Display) : Display :=
  { d with
    marks := { d.marks with
      supersededPending := d.countSuperseded
      frameSrcFlags := 0
      frameReqUs := env.micros 0
      bufPresented := false }
    screen := { d.screen with frameBufIsFrame := false, sdCacheOk := false } }

section

variable [Board]

/-- `fillFrameBufferDark`. -/
def fillFrameBufferDark (env : Env) (d : Display) : Display :=
  let d := d.invalidateFrameBuf env
  { d with screen := { d.screen with
      frameBuf := darkBuf
      blockByteCount := panelBlockByteCountGs2
      frameByteCount := frameBytes panelCountPerFrame panelBlockByteCountGs2 } }

/-- `fillFrameBufferAllOn`, for GS16 blocks. -/
def fillFrameBufferAllOn (env : Env) (d : Display) : Display :=
  let d := d.invalidateFrameBuf env
  { d with screen := { d.screen with
      frameBuf := allOnBuf d.screen.panelDispMode
      frameByteCount := frameBytes panelCountPerFrame panelBlockByteCountGs16 } }

/-- The buffer `buildPsramFrame` makes, for blocks without a duty. -/
def psramBuf (index : ℕ) (cmdId : UInt8) : Mem :=
  eachBlock blockByteCountPsram (fun off buf => (buildPsramIndexBlock buf off index cmdId 0).1)
    0 panelCountPerFrame
    (ByteMem.store (fun _ => 0) 0 [0x46, 0x52, UInt8.ofNat index, UInt8.ofNat (index / 256)])

/-- `buildPsramFrame`. -/
def buildPsramFrame (env : Env) (index : ℕ) (d : Display) : Display :=
  let d := d.invalidateFrameBuf env
  let cmdId := dispOpcodeWithMode cmdDispPsramOneshot d.screen.panelDispMode
  { d with screen := { d.screen with
      frameBuf := psramBuf index cmdId
      blockByteCount := blockByteCountPsram
      frameByteCount := frameBytes panelCountPerFrame blockByteCountPsram } }

/-- `SpiManager::transferFrame` of the frame buffer. -/
def transferFrame (d : Display) : Display :=
  if transferable d.screen.blockByteCount then
    { d with
      framesSent := (d.framesSent + 1) % 2 ^ 32
      clocked := d.clocked ++ [clockedBlocks d.screen.frameBuf d.screen.blockByteCount] }
  else d

/-! ### State transitions -/

/-- `enterAllOff`. -/
def enterAllOff (env : Env) (d : Display) : Display :=
  let d := d.disarmRefreshTimer
  let d := d.fillFrameBufferDark (env.call 0)
  let d := d.transferFrame.transferFrame.transferFrame
  let d := { d with screen := { d.screen with state := .allOff, frameByteCount := 0 } }
  let d := d.note (env.clock 1) Telemetry.stStateChange ArenaState.allOff.toByte d.screen.patternId
  let d := d.flushOpenReads (env.clock 2)
  { d with screen := { d.screen with trialDuty := 0 } }

/-- The rate a display without one of its own runs at. -/
def rateFor (blockByteCount : ℕ) (d : Display) : ℕ :=
  if d.refresh.rateExplicit then d.refresh.rateHz else defaultRefreshFor blockByteCount

/-- `enterAllOn`. -/
def enterAllOn (env : Env) (d : Display) : Display :=
  let d := d.disarmRefreshTimer
  let d := { d with
    screen := { d.screen with blockByteCount := panelBlockByteCountGs16 }
    refresh := { d.refresh with
      rateHz := if d.refresh.rateExplicit then d.refresh.rateHz else refreshRateGs16Default } }
  let d := d.fillFrameBufferAllOn (env.call 0)
  let d := { d with screen := { d.screen with state := .allOn } }
  let d := (d.armRefreshTimer (env.call 1) d.refresh.rateHz).1
  d.note (env.clock 2) Telemetry.stStateChange ArenaState.allOn.toByte 0

/-- `enterStreamingFrame`. -/
def enterStreamingFrame (env : Env) (blockByteCount : ℕ) (d : Display) : Display :=
  let d := d.disarmRefreshTimer
  let d := { d with screen := { d.screen with
    blockByteCount := blockByteCount
    state := .streamingFrame } }
  let d := (d.armRefreshTimer (env.call 0) d.refresh.rateHz).1
  d.note (env.clock 1) Telemetry.stStateChange ArenaState.streamingFrame.toByte 0

/-- `showError`. -/
def showError (env : Env) (code : ControllerError) (d : Display) : Display :=
  let d := d.disarmRefreshTimer
  let d := { d with screen := { d.screen with blockByteCount := panelBlockByteCountGs16 } }
  let d := d.invalidateFrameBuf (env.call 0)
  let (buf, bytes) := buildErrorFrame d.screen.frameBuf code.toByte panelCountPerFrame
  let d := { d with
    screen := { d.screen with frameBuf := buf, frameByteCount := bytes % 2 ^ 16, state := .errorDisplay }
    playback := { d.playback with errorUntilMs := (env.millis 1 + errorDisplayHoldMs) % 2 ^ 32 } }
  let d := d.note (env.clock 2) Telemetry.stErrorGlyph code.toByte 0
  (d.armRefreshTimer (env.call 3) (d.rateFor d.screen.blockByteCount)).1

/-! ### Frames from the card -/

/-- The `STATE` records of a slow read. -/
def noteSlowRead (env : Env) (tSd : ℕ) (err : ControllerError) (d : Display) : Display :=
  if kSdSlowThresholdUs < tSd then
    let (s, b, c) := env.phaseUs
    let phase : UInt8 := if b ≤ s ∧ c ≤ s then 1 else if c ≤ b then 2 else 3
    let phase := if err ≠ .ceNone then phase ||| 0x80 else phase
    let d := d.note (env.clock 0) Telemetry.stSdSlow phase (min (tSd / 100) 0xFFFF)
    d.note (env.clock 1) Telemetry.stSdSlowCtx env.card.errorCode (env.card.errorData / 2 ^ 16 % 2 ^ 16)
  else d

/-- `loadFrame` up to the read: what is about to be overwritten, and for which request. -/
def beginLoad (env : Env) (d : Display) : Display :=
  { d with
    marks := { d.marks with
      supersededPending := d.countSuperseded
      frameReqUs := if d.marks.pendingReqValid then d.marks.pendingReqUs else env.micros 0
      pendingReqValid := false
      frameSrcFlags := 0
      bufPresented := false }
    screen := { d.screen with frameBufIsFrame := false } }

/-- `loadFrame`, after the read: its counts and times. -/
def countRead (env : Env) (err : ControllerError) (d : Display) : Display :=
  let tSd := Telemetry.sub32 (env.micros 1) (env.micros 0)
  let d := { d with
    health := { d.health with sdReads := (d.health.sdReads + 1) % 2 ^ 32 }
    marks := { d.marks with openReads := (d.marks.openReads + 1) % 2 ^ 32 } }
  let d :=
    if d.marks.openReads % kSdReadsCheckpoint = 0 then
      let (shift, v) := shiftDown 32 d.marks.openReads
      d.note (env.clock 2) Telemetry.stSdReadsCkpt (UInt8.ofNat shift) v
    else d
  let d := { d with health := { d.health with
    sdReadMaxUs := max d.health.sdReadMaxUs tSd
    lastSdReadUs := tSd } }
  d.noteSlowRead (env.call 3) tSd err

/-- `loadFrame`, on a frame that was read. -/
def acceptFrame (env : Env) (store : Store) (frameIndex : ℕ) (d : Display) : Display :=
  let d := { d with
    screen := { d.screen with
      frameByteCount := frameBytes store.sd.info.numPanels d.screen.blockByteCount
      frameBufIsFrame := true }
    marks := { d.marks with
      frameSrcFlags := kFrameFlagSdRead ||| (if store.sd.contiguous then kFrameFlagContiguous else 0) } }
  let (ao, ok) := deriveOutputs (env.wire [0]) frameIndex d.screen.frameCount d.ao
  { d with
    screen := { d.screen.patchDispMode.patchTrialDuty with sdCacheOk := ok }
    ao := ao }

/-- `loadFrame`. -/
def loadFrame (env : Env) (store : Store) (frameIndex : ℕ) (d : Display) : Display × Bool :=
  let d := d.beginLoad (env.call 0)
  let (bytes, err) := store.readFrame env.sd frameIndex frameBufByteCountMax
  let d := { d with screen := { d.screen with frameBuf := ByteMem.store d.screen.frameBuf 0 bytes } }
  let d := d.countRead (env.call 1) err
  if err ≠ .ceNone then (d.showError (env.call 2) err, false)
  else (d.acceptFrame (env.call 3) store frameIndex, true)

/-- `enterPatternMode` on an open pattern, up to its first frame. -/
def selectPattern (store : Store) (patternId : ℕ) (frameRateHz gain : ℤ) (initFrame : ℕ)
    (d : Display) : Display :=
  let info := store.sd.info
  { d with
    screen := { d.screen with
      patternId := patternId
      frameCount := info.frameCount
      blockByteCount := info.blockSize
      curFrameIndex := if 0 < info.frameCount then initFrame % info.frameCount else 0 }
    playback := { d.playback with frameRateHz := frameRateHz, gain := gain } }

/-- `enterPatternMode`, once its first frame is loaded. -/
def startPattern (env : Env) (mode : ArenaState) (durationTicks : ℕ) (d : Display) :
    Display × Bool :=
  let now := env.micros 0
  let d := { d with
    screen := { d.screen with state := mode }
    refresh := { d.refresh with
      rateHz := d.rateFor d.screen.blockByteCount }
    playback := { d.playback with
      lastAdvanceUs := now
      lastSampleUs := now
      trialEndMs := if durationTicks ≠ 0 then (env.millis 1 + durationTicks * 10) % 2 ^ 32 else 0 } }
  match d.armRefreshTimer (env.call 2) d.refresh.rateHz with
  | (d, false) => (d.enterAllOff (env.call 3), false)
  | (d, true) =>
    let d := d.note (env.clock 4) Telemetry.stStateChange mode.toByte d.screen.patternId
    ({ d with marks := { d.marks with telLastFrame := 0xFFFF, telLastPattern := 0xFFFF } }, true)

/-- `STATE(sd_layout)` of a pattern just opened. -/
def noteLayout (c : Telemetry.Clock) (env : Env) (store : Store) (d : Display) : Display :=
  let code : UInt8 := (if store.sd.contiguous then 1 else 0) ||| (if env.card.fatType = 64 then 2 else 0)
    ||| (if store.sd.appliedLegacySeek then 4 else 0) ||| (if d.playback.sdSkipSameIndex then 0 else 8)
  d.note c Telemetry.stSdLayout code (min env.card.sectorsPerCluster 0xFFFF)

/-- `enterPatternMode`. -/
def enterPatternMode (env : Env) (mode : ArenaState) (patternId : ℕ) (frameRateHz gain : ℤ)
    (initFrame durationTicks : ℕ) (store : Store) (d : Display) : Display × Store × Bool :=
  let d := d.disarmRefreshTimer
  let d := d.flushOpenReads (env.clock 0)
  let d := d.invalidateFrameBuf (env.call 1)
  let (store, err) := store.openPattern env.sd patternId
  let d := d.note (env.clock 2) Telemetry.stSdOpen err.toByte patternId
  if err ≠ .ceNone then (d.showError (env.call 3) err, store, false)
  else
    let d := d.noteLayout (env.clock 4) env store
    let d := d.selectPattern store patternId frameRateHz gain initFrame
    match d.loadFrame (env.call 5) store d.screen.curFrameIndex with
    | (d, false) => (d, store, false)
    | (d, true) =>
      let (d, ok) := d.startPattern (env.call 6) mode durationTicks
      (d, store, ok)

/-! ### Service -/

/-- `transmitOnRefresh`. -/
def transmitOnRefresh (env : Env) (d : Display) : Display :=
  if d.refresh.refreshFlag then
    let d := { d with refresh := { d.refresh with refreshFlag := false } }
    let t0 := env.micros 0
    let d := d.transferFrame
    let d := { d with marks := { d.marks with bufPresented := true } }
    if d.screen.curFrameIndex ≠ d.marks.telLastFrame ∨ d.screen.patternId ≠ d.marks.telLastPattern then
      let superseded := d.marks.supersededPending
      let d := { d with marks := { d.marks with
        telLastFrame := d.screen.curFrameIndex
        telLastPattern := d.screen.patternId
        supersededPending := 0 } }
      let spiUs := Telemetry.sub32 (env.micros 2) t0
      let reqAgeUs := Telemetry.sub32 t0 d.marks.frameReqUs
      let tel := Telemetry.frame (env.clock 1) t0 d.screen.curFrameIndex d.screen.patternId
        d.health.lastSdReadUs spiUs reqAgeUs (UInt8.ofNat superseded) d.marks.frameSrcFlags d.tel
      { d with tel := tel }
    else d
  else d

/-- The time-based analog LUT, at the head of `serviceDisplay`. -/
def serviceAoLut (env : Env) (d : Display) : Display :=
  let ao := d.ao
  if 0 < ao.lutLen ∧ ao.lutMode = 1 ∧ 0 < ao.lutStepHz then
    let periodUs := 1000000 / ao.lutStepHz
    if periodUs ≤ Telemetry.sub32 (env.micros 0) ao.lutLastUs then
      let idx := (ao.lutIdx + 1) % ao.lutLen
      { d with ao := (applyAoLut (env.wire [1]) idx
          { ao with lutLastUs := (ao.lutLastUs + periodUs) % 2 ^ 32, lutIdx := idx }).1 }
    else d
  else d

/-- `serviceTrialTimer`. -/
def serviceTrialTimer (env : Env) (d : Display) : Display :=
  if d.playback.trialEndMs = 0 then d
  else if !Link.due (env.millis 0) d.playback.trialEndMs then d
  else ({ d with playback := { d.playback with trialEndMs := 0 } } : Display).enterAllOff (env.call 1)

/-- The periods to catch up with, `n` at most: the clock after them, and how many. -/
def catchUp (now periodUs : ℕ) : ℕ → ℕ → ℕ × ℕ
  | 0, last => (last, 0)
  | n + 1, last =>
    if periodUs ≤ Telemetry.sub32 now last then
      let out := catchUp now periodUs n ((last + periodUs) % 2 ^ 32)
      (out.1, out.2 + 1)
    else (last, 0)

/-- `serviceOpenLoop`. -/
def serviceOpenLoop (env : Env) (store : Store) (d : Display) : Display :=
  let rate := d.playback.frameRateHz
  let count := d.screen.frameCount
  if rate = 0 ∨ count ≤ 1 then d
  else
    let periodUs := 1000000 / rate.natAbs
    let now := env.micros 0
    if Telemetry.sub32 now d.playback.lastAdvanceUs < periodUs then d
    else
      let (last, steps) := catchUp now periodUs count d.playback.lastAdvanceUs
      let idx : ℤ := ((d.screen.curFrameIndex : ℤ) + (if 0 < rate then (steps : ℤ) else -(steps : ℤ)))
        % (count : ℤ)
      let d := { d with
        playback := { d.playback with lastAdvanceUs := last }
        screen := { d.screen with curFrameIndex := idx.toNat } }
      (d.loadFrame (env.call 1) store d.screen.curFrameIndex).1

/-- `servicePsramPlay`. -/
def servicePsramPlay (env : Env) (d : Display) : Display :=
  let p := d.playback
  if p.frameRateHz ≤ 0 ∨ p.psramPlayCount ≤ 1 then d
  else
    let periodUs := 1000000 / p.frameRateHz.natAbs
    let now := env.micros 0
    if Telemetry.sub32 now p.lastAdvanceUs < periodUs then d
    else
      let (last, steps) := catchUp now periodUs p.psramPlayCount p.lastAdvanceUs
      let offset := (p.psramPlayOffset + steps) % p.psramPlayCount
      let d := { d with playback := { p with lastAdvanceUs := last, psramPlayOffset := offset } }
      d.buildPsramFrame (env.call 1) ((p.psramStartIndex + offset) % 2 ^ 16)

def mode4SamplePeriodUs : ℕ := 2000

/-- `serviceClosedLoop`. -/
def serviceClosedLoop (env : Env) (store : Store) (d : Display) : Display :=
  if d.screen.frameCount = 0 then d
  else
    let now := env.micros 0
    if Telemetry.sub32 now d.playback.lastSampleUs < mode4SamplePeriodUs then d
    else
      let d := { d with playback := { d.playback with lastSampleUs := now } }
      if env.accumSteps = 0 then d
      else
        let idx := ((d.screen.curFrameIndex : ℤ) + env.accumSteps) % (d.screen.frameCount : ℤ)
        let d := { d with screen := { d.screen with curFrameIndex := idx.toNat } }
        (d.loadFrame (env.call 1) store d.screen.curFrameIndex).1

/-- The part of `serviceDisplay` that moves a pattern on. -/
def advance (env : Env) (store : Store) (d : Display) : Display :=
  match d.screen.state with
  | .openLoop => d.serviceOpenLoop env store
  | .closedLoop => d.serviceClosedLoop env store
  | .psramPlay => d.servicePsramPlay env
  | _ => d

/-- `serviceDisplay`, before its `switch`. -/
def serviceTimers (env : Env) (d : Display) : Display :=
  (d.serviceAoLut (env.call 0)).serviceTrialTimer (env.call 1)

/-- `serviceDisplay`. -/
def serviceDisplay (env : Env) (store : Store) (d : Display) : Display :=
  let d := d.serviceTimers env
  let state := d.screen.state
  if state = .allOff then d
  else
    let d := (d.advance (env.call 2) store).transmitOnRefresh (env.call 3)
    if state = .errorDisplay ∧ Link.due (env.millis 4) d.playback.errorUntilMs then
      d.enterAllOff (env.call 5)
    else d

def panelLateBootBlankMs : ℕ := 3500

/-- `serviceLateBootBlank`; `idle` says that no transfer is active. -/
def serviceLateBootBlank (env : Env) (idle : Bool) (d : Display) : Display :=
  if !d.playback.lateBootBlankPending then d
  else if !Link.due (env.millis 0) panelLateBootBlankMs then d
  else
    let d := { d with playback := { d.playback with lateBootBlankPending := false } }
    if d.screen.state = .allOff ∧ idle then d.enterAllOff (env.call 1) else d

/-- `SpiManager::refreshISR`, which the timer runs when it is armed. -/
def refreshIsr (d : Display) : Display :=
  if d.refresh.armedHz = 0 then d
  else { d with refresh := { d.refresh with
    refreshFlag := true
    isrCount := (d.refresh.isrCount + 1) % 2 ^ 32 } }

end

end Display
end Command
end G6Arena
