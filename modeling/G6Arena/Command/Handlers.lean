/-
# Commands about the display

The handlers that answer a command from the display, its outputs, the telemetry and the
card, and change only the display.  Each reads its arguments from the data of the command,
`[len, opcode, ...]`, behind its own check of the length, and gives one reply.
-/

import G6Arena.Command.Transfers
import G6Arena.Telemetry.Block

namespace G6Arena
namespace Command

open ByteMem Link
open Sd (ControllerError Store)

/-- `claimed_len`. -/
def claimedLen (data : Mem) : ℕ := (data 0).toNat

/-- `cmd.data[0] - 1`, as a `uint8_t`. -/
def paramLen (data : Mem) : ℕ := ((data 0).toNat + 255) % 256

/-- A `uint16_t` read as an `int16_t`. -/
def toInt16 (n : ℕ) : ℤ := if n < 2 ^ 15 then n else (n : ℤ) - 2 ^ 16

/-- The reply to a command that was done. -/
def done (command : UInt8) (payload : List UInt8) : Reply := ⟨command, 0, payload⟩

/-- The reply to a command that was refused, with its text. -/
def refused (command : UInt8) (text : String) : Reply := ⟨command, 1, ascii text⟩

def sdBusy : String := "SD transfer in progress"

namespace Display

/-! ### Refresh rate, display mode, counters -/

/-- `SET_REFRESH_RATE`, on a rate that is not zero. -/
def setRefreshRate (env : Env) (rate : ℕ) (d : Display) : Display × Reply :=
  let d := { d with refresh := { d.refresh with rateHz := rate, rateExplicit := true } }
  if d.screen.state ≠ .allOff then
    match d.armRefreshTimer env rate with
    | (d, false) => (d, refused setRefreshRateCmd "refresh timer unavailable")
    | (d, true) => (d, done setRefreshRateCmd [])
  else (d, done setRefreshRateCmd [])

def handleSetRefreshRate (env : Env) (data : Mem) (d : Display) : Display × Reply :=
  if claimedLen data ≠ 3 then (d, refused setRefreshRateCmd "Expected [03 16 hz_lo hz_hi]")
  else
    let rate := wordAt data 2 2
    if 0 < rate then d.setRefreshRate env rate else (d, done setRefreshRateCmd [])

def handleGetRefreshRate (d : Display) : Display × Reply :=
  (d, done getRefreshRateCmd (toLe 2 d.refresh.rateHz))

def handleSetPanelDisplayMode (data : Mem) (d : Display) : Display × Reply :=
  if claimedLen data ≠ 2 then (d, refused setPanelDisplayModeCmd "Expected [02 1B mode]")
  else
    let mode := data 2
    if 3 < mode then
      (d, refused setPanelDisplayModeCmd "mode must be 0-3 (oneshot/persist/triggered/gated)")
    else
      ({ d with screen := ({ d.screen with panelDispMode := mode } : Screen).patchDispMode },
        done setPanelDisplayModeCmd [mode])

def handleGetPanelDisplayMode (d : Display) : Display × Reply :=
  (d, done getPanelDisplayModeCmd [d.screen.panelDispMode])

def handleGetFramesSent (d : Display) : Display × Reply :=
  (d, done getFramesSentCmd (toLe 4 d.framesSent))

def handleResetFramesSent (d : Display) : Display × Reply :=
  ({ d with framesSent := 0 }, done resetFramesSentCmd [])

def handleGetFramePosition (d : Display) : Display × Reply :=
  (d, done getFramePositionCmd (toLe 2 d.screen.curFrameIndex ++ toLe 2 d.screen.frameCount))

/-- `SET_DIAG_OUTPUT`: without an argument it switches on. -/
def handleSetDiagOutput (data : Mem) (d : Display) : Display × Reply :=
  let on := if 2 ≤ claimedLen data then data 2 ≠ 0 else true
  ({ d with dbgOn := on }, done setDiagOutputCmd (ascii (if on then "diag on" else "diag off")))

def handleGetDiagOutput (d : Display) : Display × Reply :=
  (d, done getDiagOutputCmd [if d.dbgOn then 1 else 0])

/-- `SET_SPI_CLOCK`: `setSpiClockMhz` clamps to 1..30. -/
def handleSetSpiClock (data : Mem) (d : Display) : Display × Reply :=
  if claimedLen data ≠ 3 then (d, refused setSpiClockCmd "Expected [03 C5 mhz_lo mhz_hi]")
  else
    let mhz := min (max (wordAt data 2 2) 1) 30
    ({ d with spiClockMhz := mhz }, done setSpiClockCmd (toLe 2 mhz))

def handleGetSpiClock (d : Display) : Display × Reply :=
  (d, done getSpiClockCmd (toLe 2 d.spiClockMhz))

section

variable [Board]

/-! ### Display states -/

def handleAllOff (env : Env) (d : Display) : Display × Reply :=
  (d.enterAllOff env, done allOffCmd (ascii "All-Off Received"))

def handleAllOn (env : Env) (x : Transfers) (d : Display) : Display × Reply :=
  if x.active then (d, refused allOnCmd sdBusy)
  else (d.enterAllOn env, done allOnCmd (ascii "All-On Received"))

def handleStopDisplay (env : Env) (d : Display) : Display × Reply :=
  (d.enterAllOff env, done stopDisplayCmd (ascii "Display has been stopped"))

/-- An opcode `handleBinaryCommand` does not know. -/
def handleUnknown (env : Env) (command : UInt8) (d : Display) : Display × Reply :=
  (d.showError env .ceUnknownCmd, refused command "Unknown command")

def handleSwitchGrayscale (d : Display) : Display × Reply :=
  (d, refused switchGrayscaleCmd "SWITCH_GRAYSCALE dropped for G6; mode inferred from stream size")

/-- A streamed frame in the buffer, of a size that is known. -/
def showStream (env : Env) (blockByteCount : ℕ) (frame : List UInt8) (d : Display) : Display :=
  let d := d.invalidateFrameBuf (env.call 0)
  let d := { d with screen := ({ d.screen with
    frameBuf := ByteMem.store d.screen.frameBuf 0 frame
    frameByteCount := frame.length % 2 ^ 16
    blockByteCount := blockByteCount } : Screen).patchDispMode }
  let want := d.rateFor blockByteCount
  let rearm : Bool := d.screen.state ≠ .streamingFrame || want ≠ d.refresh.rateHz
  let d := { d with refresh := { d.refresh with rateHz := want } }
  if rearm then d.enterStreamingFrame (env.call 1) blockByteCount else d

/-- `handleStreamCommand`. -/
def handleStreamCommand (env : Env) (data : Mem) (dataLen : ℕ) (d : Display) : Display × Reply :=
  let frame := bytesAt data streamHeaderByteCount (dataLen - streamHeaderByteCount)
  if dataLen - streamHeaderByteCount = streamFrameByteCountGs2 then
    (d.showStream env panelBlockByteCountGs2 frame, done streamFrameCmd [])
  else if dataLen - streamHeaderByteCount = streamFrameByteCountGs16 then
    (d.showStream env panelBlockByteCountGs16 frame, done streamFrameCmd [])
  else (d.enterAllOff env, refused streamFrameCmd "Bad stream-frame size")

/-! ### Frame position -/

/-- Is the frame asked for the one in the buffer, with its outputs and its timer? -/
def sameIndexSkip (index : ℕ) (d : Display) : Bool :=
  d.playback.sdSkipSameIndex && d.screen.state = .showFrame && d.screen.frameBufIsFrame
    && d.screen.sdCacheOk && index = d.screen.curFrameIndex && d.refreshArmedAt d.refresh.rateHz

/-- `SET_FRAME_POSITION` on a frame that was loaded. -/
def showFrame (env : Env) (d : Display) : Display × Reply :=
  let d :=
    if d.screen.state ≠ .showFrame then
      d.note (env.clock 0) Telemetry.stStateChange ArenaState.showFrame.toByte d.screen.patternId
    else d
  let d := { d with
    screen := { d.screen with state := .showFrame }
    refresh := { d.refresh with rateHz := d.rateFor d.screen.blockByteCount } }
  if d.refreshArmedAt d.refresh.rateHz then (d, done setFramePositionCmd [])
  else
    match d.armRefreshTimer (env.call 1) d.refresh.rateHz with
    | (d, false) => (d, refused setFramePositionCmd "SET_FRAME_POSITION: refresh timer unavailable")
    | (d, true) => (d, done setFramePositionCmd [])

/-- `SET_FRAME_POSITION`, by the path that loads the frame. -/
def loadFramePosition (env : Env) (store : Store) (index : ℕ) (d : Display) : Display × Reply :=
  let d := { d with
    screen := { d.screen with curFrameIndex := index }
    marks := { d.marks with pendingReqUs := d.marks.lastCmdRxUs, pendingReqValid := true } }
  match d.loadFrame (env.call 0) store index with
  | (d, false) => (d, refused setFramePositionCmd "SET_FRAME_POSITION: frame read failed")
  | (d, true) => d.showFrame (env.call 1)

/-- `handleSetFramePosition`, once its argument is read. -/
def setFramePosition (env : Env) (store : Store) (index : ℕ) (d : Display) : Display × Reply :=
  if !store.sd.fileOpen then
    (d.showError env .ceBadParam, refused setFramePositionCmd
      "SET_FRAME_POSITION: no pattern selected (send trial-params first)")
  else if d.screen.frameCount ≤ index then
    (d.showError env .ceBadParam, refused setFramePositionCmd "SET_FRAME_POSITION: index out of range")
  else if d.sameIndexSkip index then
    ({ d with health := { d.health with cmd70SameIndex := (d.health.cmd70SameIndex + 1) % 2 ^ 32 } },
      done setFramePositionCmd [])
  else d.loadFramePosition env store index

/-- `handleSetFramePosition`. -/
def handleSetFramePosition (env : Env) (store : Store) (data : Mem) (d : Display) :
    Display × Reply :=
  let d := { d with health := { d.health with cmd70Count := (d.health.cmd70Count + 1) % 2 ^ 32 } }
  if paramLen data < 2 then
    (d.showError env .ceBadPayloadLen, refused setFramePositionCmd "SET_FRAME_POSITION too short")
  else d.setFramePosition env store (wordAt data 2 2)

/-! ### PSRAM -/

/-- A display of PSRAM frames in the buffer, its timer armed. -/
def enterPsramPlay (env : Env) (d : Display) : Display :=
  let d :=
    if d.screen.state ≠ .psramPlay then
      d.note (env.clock 0) Telemetry.stStateChange ArenaState.psramPlay.toByte 0
    else d
  { d with screen := { d.screen with state := .psramPlay } }

/-- `handleDisplayPsramIndex`. -/
def displayPsramIndex (env : Env) (index : ℕ) (d : Display) : Display × Reply :=
  let d := { d with playback := { d.playback with
    psramStartIndex := index, psramPlayCount := 1, psramPlayOffset := 0 } }
  let d := (d.buildPsramFrame (env.call 0) index).enterPsramPlay (env.call 1)
  let d := { d with refresh := { d.refresh with rateHz := d.rateFor d.screen.blockByteCount } }
  ((d.armRefreshTimer (env.call 2) d.refresh.rateHz).1, done displayPsramIndexCmd [])

def handleDisplayPsramIndex (env : Env) (data : Mem) (d : Display) : Display × Reply :=
  if paramLen data < 2 then
    (d.showError env .ceBadPayloadLen, refused displayPsramIndexCmd "DISPLAY_PSRAM too short")
  else d.displayPsramIndex env (wordAt data 2 2)

/-- `handlePsramPlay`, which leaves `refresh_rate_hz_` as it is. -/
def psramPlay (env : Env) (start count fps : ℕ) (d : Display) : Display × Reply :=
  let d := { d with playback := { d.playback with
    psramStartIndex := start
    psramPlayCount := if count = 0 then 1 else count
    psramPlayOffset := 0
    frameRateHz := toInt16 fps } }
  let d := (d.buildPsramFrame (env.call 0) start).enterPsramPlay (env.call 1)
  let d := { d with playback := { d.playback with lastAdvanceUs := env.micros 2 } }
  ((d.armRefreshTimer (env.call 3) (d.rateFor d.screen.blockByteCount)).1, done psramPlayCmd [])

def handlePsramPlay (env : Env) (data : Mem) (d : Display) : Display × Reply :=
  if paramLen data < 6 then
    (d.showError env .ceBadPayloadLen, refused psramPlayCmd "PSRAM_PLAY too short")
  else d.psramPlay env (wordAt data 2 2) (wordAt data 4 2) (wordAt data 6 2)

end

/-! ### Digital IO -/

def do1DataPin : ℕ := 37
def do1DirPin : ℕ := 36
def do2DataPin : ℕ := 35
def do2DirPin : ℕ := 34

def roleName : DioRole → String
  | .off => "off"
  | .inTrigger => "in_trigger"
  | .outProgrammable => "out_programmable"
  | .outFramescan => "out_debug_framescan"

def roleByte : DioRole → UInt8
  | .off => 0
  | .inTrigger => 1
  | .outProgrammable => 2
  | .outFramescan => 3

/-- The role of a byte below 4. -/
def roleOf (b : UInt8) : DioRole :=
  if b = 0 then .off else if b = 1 then .inTrigger else if b = 2 then .outProgrammable
  else .outFramescan

/-- The pin operations of `applyDioRole`, in the order that leaves the net undriven by two. -/
def roleOps (data dir : ℕ) (role : DioRole) : List PinOp :=
  .mode dir true ::
    match role with
    | .outProgrammable | .outFramescan => [.write dir true, .mode data true, .write data false]
    | .off | .inTrigger => [.mode data false, .write dir false]

/-- `applyDioRole`; port 1 is the first. -/
def applyDioRole (first : Bool) (role : DioRole) (io : DigitalIo) : DigitalIo :=
  let io := if first then
      { io with role1 := role, ops := io.ops ++ roleOps do1DataPin do1DirPin role }
    else { io with role2 := role, ops := io.ops ++ roleOps do2DataPin do2DirPin role }
  { io with
    framescan1 := io.role1 = .outFramescan
    framescan2 := io.role2 = .outFramescan }

def roleAt (first : Bool) (io : DigitalIo) : DioRole := if first then io.role1 else io.role2

/-- `SET_DIGITAL_OUT` on a channel: a port that is off becomes an output. -/
def setDigitalOut (first high : Bool) (d : Display) : Display × Reply :=
  let io := if roleAt first d.dio = .off then applyDioRole first .outProgrammable d.dio else d.dio
  let role := roleAt first io
  if role ≠ .outProgrammable then
    ({ d with dio := io }, refused setDigitalOutCmd
      ("Digital IO " ++ (if first then "1" else "2") ++ " role is " ++ roleName role
        ++ " - SET_DIO_ROLE (0xAC) it to out_programmable first"))
  else
    let pin := if first then do1DataPin else do2DataPin
    ({ d with dio := { io with ops := io.ops ++ [.write pin high] } }, done setDigitalOutCmd [])

def handleSetDigitalOut (data : Mem) (d : Display) : Display × Reply :=
  if claimedLen data ≠ 3 then (d, refused setDigitalOutCmd "Expected [03 AA channel state]")
  else
    let channel := data 2
    if channel ≠ 1 ∧ channel ≠ 2 then (d, refused setDigitalOutCmd "channel must be 1 or 2")
    else d.setDigitalOut (channel = 1) (data 3 ≠ 0)

def handleGetDigitalOut (env : Env) (d : Display) : Display × Reply :=
  (d, done getDigitalOutCmd [if env.pin1 then 1 else 0, if env.pin2 then 1 else 0])

def handleSetDioRole (data : Mem) (d : Display) : Display × Reply :=
  if claimedLen data ≠ 3 then (d, refused setDioRoleCmd "Expected [03 AC port role]")
  else
    let port := data 2
    let role := data 3
    if port ≠ 1 ∧ port ≠ 2 then (d, refused setDioRoleCmd "port must be 1 or 2")
    else if 3 < role then
      (d, refused setDioRoleCmd
        "role must be 0=off 1=in_trigger 2=out_programmable 3=out_debug_framescan")
    else ({ d with dio := applyDioRole (port = 1) (roleOf role) d.dio }, done setDioRoleCmd [])

def handleGetDioRole (env : Env) (d : Display) : Display × Reply :=
  (d, done getDioRoleCmd [roleByte d.dio.role1, if env.pin1 then 1 else 0,
    roleByte d.dio.role2, if env.pin2 then 1 else 0])

/-! ### Analog IO -/

def aoInFrameNumber : String := "AO is in frame_number mode - SET_AO_MODE (0xA3) 0 first"

def setAoVoltage (env : Env) (mv : ℕ) (d : Display) : Display × Reply :=
  if 5000 < mv then (d, refused setAoVoltageCmd "mv out of range (0-5000)")
  else if d.ao.mode ≠ 0 then (d, refused setAoVoltageCmd aoInFrameNumber)
  else
    match writeDacMv (env.wire [0]) mv d.ao with
    | (_, false) => (d, refused setAoVoltageCmd "I2C write failed")
    | (ao, true) => ({ d with ao := { ao with lutLen := 0 } }, done setAoVoltageCmd (toLe 2 mv))

def handleSetAoVoltage (env : Env) (data : Mem) (d : Display) : Display × Reply :=
  if claimedLen data ≠ 3 then (d, refused setAoVoltageCmd "Expected [03 A0 mv_lo mv_hi]")
  else d.setAoVoltage env (wordAt data 2 2)

/-- `SET_AO_MODE` to a mode that is known: frame-number mode takes the DAC over at once. -/
def setAoMode (env : Env) (mode : ℕ) (d : Display) : Display × Reply :=
  let d := ({ d with ao := { d.ao with mode := mode } } : Display).dropFrameCache
  if mode = 1 then
    let ao := { d.ao with lutLen := 0 }
    let ao :=
      if 1 ≤ d.screen.frameCount then
        (writeDacMv (env.wire [0]) (frameNumberMv d.screen.curFrameIndex d.screen.frameCount) ao).1
      else ao
    ({ d with ao := ao }, done setAoModeCmd [])
  else (d, done setAoModeCmd [])

def handleSetAoMode (env : Env) (data : Mem) (d : Display) : Display × Reply :=
  if claimedLen data ≠ 2 then (d, refused setAoModeCmd "Expected [02 A3 mode]")
  else if 1 < data 2 then
    (d, refused setAoModeCmd "mode must be 0 (programmable) or 1 (frame_number)")
  else d.setAoMode env (data 2).toNat

/-- A signed level as two bytes. -/
def int16Bytes (mv : ℤ) : List UInt8 := toLe 2 (mv % 2 ^ 16).toNat

def handleGetAnalogIn (env : Env) (d : Display) : Display × Reply :=
  (d, done getAnalogInCmd (int16Bytes env.analogMv.1 ++ int16Bytes env.analogMv.2))

def handleGetAoVoltage (env : Env) (d : Display) : Display × Reply :=
  match env.dac with
  | none => (d, refused getAoVoltageCmd "I2C read failed")
  | some (_, hi, lo) =>
    let code := hi.toNat * 16 + lo.toNat / 16
    let mv := code * 5000 / 4095
    ({ d with ao := { d.ao with mv := mv } }, done getAoVoltageCmd (toLe 2 mv))

def kAoLutMaxLen : ℕ := 4096

/-- The levels of a `SET_AO_LUT`, from the `i`-th on, stored up to one that is out of range. -/
def storeLut (data : Mem) : ℕ → ℕ → (ℕ → ℕ) → (ℕ → ℕ) × Bool
  | _, 0, lut => (lut, true)
  | i, n + 1, lut =>
    let mv := wordAt data (7 + 2 * i) 2
    if 5000 < mv then (lut, false)
    else storeLut data (i + 1) n (Function.update lut i mv)

/-- `SET_AO_LUT`, once its levels are stored. -/
def startAoLut (env : Env) (mode stepHz count : ℕ) (d : Display) : Display × Reply :=
  let ao := { d.ao with
    lutLen := count
    lutMode := mode
    lutStepHz := stepHz
    lutIdx := 0
    lutLastUs := env.micros 0 }
  match applyAoLut (env.wire [0]) 0 ao with
  | (ao, false) =>
    ({ d with ao := { ao with lutLen := 0 } }, refused setAoLutCmd "I2C error writing LUT[0]")
  | (ao, true) => ({ d with ao := ao }, done setAoLutCmd (toLe 2 count))

/-- `SET_AO_LUT`. -/
def handleSetAoLut (env : Env) (data : Mem) (d : Display) : Display × Reply :=
  let d := d.dropFrameCache
  if claimedLen data < 6 then (d, refused setAoLutCmd "Too short (need mode+step_hz+count)")
  else if d.ao.mode ≠ 0 then (d, refused setAoLutCmd aoInFrameNumber)
  else
    let mode := (data 2).toNat
    let stepHz := wordAt data 3 2
    let count := wordAt data 5 2
    if 1 < mode then (d, refused setAoLutCmd "mode must be 0 (frame-locked) or 1 (time-based)")
    else if count = 0 ∨ kAoLutMaxLen < count then
      (d, refused setAoLutCmd "count out of range (1-4096)")
    else if 6 + count * 2 ≠ claimedLen data then (d, refused setAoLutCmd "count/length mismatch")
    else
      match storeLut data 0 count d.ao.lut with
      | (lut, false) =>
        ({ d with ao := { d.ao with lut := lut } }, refused setAoLutCmd "mv out of range (0-5000)")
      | (lut, true) => ({ d with ao := { d.ao with lut := lut } } : Display).startAoLut env mode stepHz count

/-! ### Telemetry -/

/-- `SET_TELEMETRY`: the watchdog bits count only behind bit 4. -/
def setTelemetry (env : Env) (flags : UInt8) (rate : Option ℕ) (d : Display) : Display × Reply :=
  let d := { d with tel := Telemetry.configure (env.clock 0) flags rate d.tel }
  let d :=
    if flags &&& 0x10 ≠ 0 ∧ !env.watchdog [0] then
      d.note (env.clock 1) Telemetry.stTelemetry 0xEE setTelemetryCmd.toNat
    else d
  (d, done setTelemetryCmd [])

def handleSetTelemetry (env : Env) (data : Mem) (d : Display) : Display × Reply :=
  if claimedLen data ≠ 2 ∧ claimedLen data ≠ 4 then
    (d, refused setTelemetryCmd "Expected [04 A8 flags rate_lo rate_hi] or [02 A8 flags]")
  else
    d.setTelemetry env (data 2) (if claimedLen data = 4 then some (wordAt data 3 2) else none)

def handleGetTelemetryBlock (env : Env) (data : Mem) (d : Display) : Display × Reply :=
  let (tel, reply) := Telemetry.handleGetTelemetryBlock (env.clock 0) data d.tel
  ({ d with tel := tel }, reply)

/-! ### Identity and health -/

def handleGetEthernetIpAddress (env : Env) (d : Display) : Display × Reply :=
  (d, done getEthernetIpAddressCmd env.ipAddress)

def handleGetControllerInfo (env : Env) (d : Display) : Display × Reply :=
  (d, done getControllerInfoCmd ([1, 0xA3] ++ env.mac))

def bit (b : Bool) (v : ℕ) : ℕ := if b then v else 0

/-- `handleGetHealth`. -/
def handleGetHealth (env : Env) (store : Store) (d : Display) : Display × Reply :=
  let h := env.health
  let flags := bit store.sd.mounted 1 + bit store.sd.fileOpen 2
    + bit (d.screen.state ≠ .allOff) 4 + bit h.prevValid 8
  let fields : List (ℕ × ℕ) := [
    (1, 5), (1, flags), (4, env.millis 0), (4, h.loopCount), (4, h.loopMaxUs), (4, h.loopMax1sUs),
    (4, d.health.sdReads), (4, d.health.sdReadMaxUs), (1, env.card.errorCode.toNat),
    (4, env.card.errorData), (4, d.framesSent), (4, d.refresh.isrCount), (4, d.health.cmd70Count),
    (1, d.screen.state.toByte.toNat), (2, d.screen.curFrameIndex), (4, h.resetCause),
    (1, h.prevLastOp), (4, h.prevStampUs), (1, h.prevOpArg), (1, h.prevSlowOp), (4, h.prevSlowUs),
    (1, h.slowOp), (4, h.slowUs), (1, h.prevIsrLast), (4, h.prevIsrCount), (4, h.prevWdogPc),
    (4, h.prevWdogLr), (1, h.watchdogFlags), (1, h.isrLast), (4, h.isrCount), (4, h.wdogKicks),
    (4, h.watchdogCsAtBoot), (4, h.watchdogCsNow), (4, h.watchdogTickHz), (4, h.watchdogTovalNow),
    (1, h.watchdogVerify), (2, h.watchdogCntBeforeMax), (2, h.watchdogCntAfterMin),
    (2, h.watchdogCntAfterMax), (2, h.watchdogCntNow)]
  (d, done getHealthCmd (fields.flatMap fun (n, v) => toLe n v))

def handleGetCrashReport (env : Env) (d : Display) : Display × Reply :=
  (d, done getCrashreportCmd env.crashReport)

/-- `putField`: cut to a width, padded with spaces. -/
def putField (width : ℕ) (text : List UInt8) : List UInt8 :=
  text.take width ++ List.replicate (width - text.length) 0x20

def handleGetFirmwareVersion [Board] (env : Env) (d : Display) : Display × Reply :=
  let flags := bit env.build.dirty 0x01 + bit env.build.debug 0x02 + 0x7C
  (d, done getFirmwareVersionCmd ([1, UInt8.ofNat panelCountPerFrameRow,
    UInt8.ofNat panelCountPerFrameCol, UInt8.ofNat flags]
    ++ putField 8 env.build.sha ++ putField 10 env.build.date ++ putField 24 env.build.branch))

/-- `sdDiagFlags`. -/
def sdDiagFlags (store : Store) (d : Display) : ℕ :=
  bit store.sd.legacySeek 1 + bit (!d.playback.sdSkipSameIndex) 2

/-- `handleGetSdInfo`: without a card the fields are zero. -/
def handleGetSdInfo (env : Env) (store : Store) (d : Display) : Display × Reply :=
  let card := env.card
  let mounted := store.sd.mounted && card.mounted
  let payload :=
    if mounted then
      [1, UInt8.ofNat (1 + bit card.cidValid 2 + bit card.csdValid 4), card.cardType, card.fatType]
        ++ toLe 4 card.sectors ++ toLe 4 card.bytesPerCluster ++ card.cid.take 16
    else [1, 0, 0, 0] ++ List.replicate 24 0
  (d, ⟨getSdInfoCmd, if mounted then 0 else 1, payload
    ++ [0xFF, UInt8.ofNat (d.sdDiagFlags store + bit store.sd.appliedLegacySeek 4)]⟩)

/-! ### Files -/

def handleGetFileCount (store : Store) (d : Display) : Display × Reply :=
  (d, done getFileCountCmd (toLe 2 store.sd.patternCount))

def handleGetPatternFilename (store : Store) (data : Mem) (d : Display) : Display × Reply :=
  if claimedLen data ≠ 3 then (d, refused getPatternFilenameCmd "Expected [03 82 idx_lo idx_hi]")
  else
    match store.sd.pattern? (wordAt data 2 2) with
    | none => (d, refused getPatternFilenameCmd "Index out of range")
    | some entry => (d, done getPatternFilenameCmd (UInt8.ofNat entry.name.length :: entry.name))

def handleGetPatternInfo (env : Env) (store : Store) (data : Mem) (d : Display) : Display × Reply :=
  if claimedLen data ≠ 3 then (d, refused getPatternInfoCmd "Expected [03 88 idx_lo idx_hi]")
  else
    match store.readPatternInfo env.sd (wordAt data 2 2) with
    | .error err => (d, ⟨getPatternInfoCmd, err.toByte, ascii "pattern info read failed"⟩)
    | .ok m => (d, done getPatternInfoCmd (toLe 2 m.frameCount
        ++ [m.gsVal, m.rows, m.cols, m.arenaId, m.observerId] ++ toLe 4 m.fileSize ++ [m.dutyCycle]))

def firmwareFooterByteCount : ℕ := 32

/-- `handleGetFirmwareInfo`. -/
def handleGetFirmwareInfo (env : Env) (store : Store) (d : Display) : Display × Reply :=
  match store.card.openRead (env.sd.ok .openRead) .firmware with
  | none => (d, refused getFirmwareInfoCmd "No firmware image present")
  | some id =>
    let size := (store.card.content id).length % 2 ^ 32
    if size < firmwareFooterByteCount then (d, refused getFirmwareInfoCmd "Firmware image too small")
    else
      let footer := store.card.read (env.sd.cap (.read 0)) id (size - firmwareFooterByteCount)
        firmwareFooterByteCount
      if footer.length ≠ firmwareFooterByteCount then
        (d, refused getFirmwareInfoCmd "Footer read failed")
      else (d, done getFirmwareInfoCmd footer)

/-! ### Panel firmware -/

/-- A panel command once the display is off and no transfer runs: `dataLen` is the length
of the command, and the panel number counts from 1. -/
def panelCommand (env : Env) (command : UInt8) (usage : String) (data : Mem) (dataLen : ℕ)
    (d : Display) : Display × Reply :=
  if dataLen < 3 then (d, refused command usage)
  else if data 2 < 1 then (d, refused command "panel numbers are 1-based (1..N)")
  else (d, ⟨command, if env.isp.1 then 0 else 1, env.isp.2⟩)

/-- The guards of the two panel commands. -/
def guardedPanelCommand (env : Env) (command : UInt8) (usage stop : String) (x : Transfers)
    (data : Mem) (dataLen : ℕ) (d : Display) : Display × Reply :=
  if d.screen.state ≠ .allOff then
    (d, ⟨command, ControllerError.ceDisplayActive.toByte, ascii stop⟩)
  else if x.active then (d, refused command sdBusy)
  else d.panelCommand env command usage data dataLen

/-- `handleProgramPanel`, guarded. -/
def handleProgramPanel (env : Env) (x : Transfers) (data : Mem) (dataLen : ℕ) (d : Display) :
    Display × Reply :=
  d.guardedPanelCommand env g6ProgramPanelCmd "Expected [02 C8 panel_number]"
    "Stop display before flashing a panel" x data dataLen

/-- `handleVerifyPanel`, guarded. -/
def handleVerifyPanel (env : Env) (x : Transfers) (data : Mem) (dataLen : ℕ) (d : Display) :
    Display × Reply :=
  d.guardedPanelCommand env g6VerifyPanelCmd "Expected [02 C9 panel_number]"
    "Stop display before verifying a panel" x data dataLen

end Display
end Command
end G6Arena
