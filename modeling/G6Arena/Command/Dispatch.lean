/-
# Dispatch

The commands about the card and the transfers, the two tables of `handleBinaryCommand`,
the bulk commands, and `processCommand` for one source.  A binary command gives one
reply; a bulk command that hands its source over to `serviceUpload` gives none yet.
-/

import G6Arena.Command.Handlers

namespace G6Arena
namespace Command

open ByteMem Link
open Sd (Card ControllerError FileId Store)

/-! ### The commands -/

/-- The commands that change the display only. -/
inductive DisplayCommand
  | allOff
  | allOn
  | stopDisplay
  | setRefreshRate
  | getRefreshRate
  | setPanelDisplayMode
  | getPanelDisplayMode
  | getEthernetIpAddress
  | getControllerInfo
  | getHealth
  | getFirmwareVersion
  | getCrashReport
  | getSdInfo
  | setDiagOutput
  | getDiagOutput
  | setFramePosition
  | getFramePosition
  | displayPsramIndex
  | psramPlay
  | getFramesSent
  | resetFramesSent
  | getFileCount
  | getPatternFilename
  | getPatternInfo
  | getFirmwareInfo
  | g6ProgramPanel
  | g6VerifyPanel
  | setSpiClock
  | getSpiClock
  | getDigitalOut
  | setDigitalOut
  | setDioRole
  | getDioRole
  | setTelemetry
  | getTelemetryBlock
  | setAoVoltage
  | setAoMode
  | getAnalogIn
  | getAoVoltage
  | setAoLut
  | switchGrayscale
  deriving DecidableEq

/-- The commands that change the store or start a transfer, and the reset. -/
inductive StoreCommand
  | trialParams
  | setPatternId
  | setPatternFilename
  | getPatternFile
  | deletePatternFile
  | purgeMemory
  | getSdArchive
  | setSdDiag
  | systemReset
  deriving DecidableEq

inductive ArenaCommand
  | display (command : DisplayCommand)
  | store (command : StoreCommand)
  deriving DecidableEq

/-- `enum ArenaCommands`, as far as `handleBinaryCommand` has a case for it. -/
def arenaCommands : List (UInt8 × ArenaCommand) := [
  (allOffCmd, .display .allOff),
  (systemResetCmd, .store .systemReset),
  (setPatternIdCmd, .store .setPatternId),
  (switchGrayscaleCmd, .display .switchGrayscale),
  (trialParamsCmd, .store .trialParams),
  (setRefreshRateCmd, .display .setRefreshRate),
  (getRefreshRateCmd, .display .getRefreshRate),
  (setPanelDisplayModeCmd, .display .setPanelDisplayMode),
  (getPanelDisplayModeCmd, .display .getPanelDisplayMode),
  (stopDisplayCmd, .display .stopDisplay),
  (getFramesSentCmd, .display .getFramesSent),
  (resetFramesSentCmd, .display .resetFramesSent),
  (displayPsramIndexCmd, .display .displayPsramIndex),
  (psramPlayCmd, .display .psramPlay),
  (setFramePositionCmd, .display .setFramePosition),
  (getFramePositionCmd, .display .getFramePosition),
  (getFileCountCmd, .display .getFileCount),
  (getPatternFilenameCmd, .display .getPatternFilename),
  (setPatternFilenameCmd, .store .setPatternFilename),
  (getPatternFileCmd, .store .getPatternFile),
  (deletePatternFileCmd, .store .deletePatternFile),
  (getPatternInfoCmd, .display .getPatternInfo),
  (getSdArchiveCmd, .store .getSdArchive),
  (purgeMemoryCmd, .store .purgeMemory),
  (setAoVoltageCmd, .display .setAoVoltage),
  (getAoVoltageCmd, .display .getAoVoltage),
  (setAoLutCmd, .display .setAoLut),
  (setAoModeCmd, .display .setAoMode),
  (getAnalogInCmd, .display .getAnalogIn),
  (setTelemetryCmd, .display .setTelemetry),
  (Telemetry.getTelemetryBlockCmd, .display .getTelemetryBlock),
  (setDigitalOutCmd, .display .setDigitalOut),
  (getDigitalOutCmd, .display .getDigitalOut),
  (setDioRoleCmd, .display .setDioRole),
  (getDioRoleCmd, .display .getDioRole),
  (getEthernetIpAddressCmd, .display .getEthernetIpAddress),
  (getControllerInfoCmd, .display .getControllerInfo),
  (setDiagOutputCmd, .display .setDiagOutput),
  (getDiagOutputCmd, .display .getDiagOutput),
  (setSpiClockCmd, .display .setSpiClock),
  (getSpiClockCmd, .display .getSpiClock),
  (g6ProgramPanelCmd, .display .g6ProgramPanel),
  (g6VerifyPanelCmd, .display .g6VerifyPanel),
  (getHealthCmd, .display .getHealth),
  (getFirmwareVersionCmd, .display .getFirmwareVersion),
  (getCrashreportCmd, .display .getCrashReport),
  (getSdInfoCmd, .display .getSdInfo),
  (setSdDiagCmd, .store .setSdDiag),
  (getFirmwareInfoCmd, .display .getFirmwareInfo),
  (allOnCmd, .display .allOn)]

def ArenaCommand.ofByte (b : UInt8) : Option ArenaCommand := arenaCommands.lookup b

/-- The commands whose handler may run longer than the watchdog allows. -/
def longOp (command : UInt8) : Bool :=
  command = purgeMemoryCmd || command = g6ProgramPanelCmd || command = g6VerifyPanelCmd
    || command = getSdArchiveCmd

section

variable [Board]

/-- The cases of `handleBinaryCommand` about the display. -/
def displayCommand (env : Env) (store : Store) (x : Transfers) (data : Mem) (dataLen : ℕ)
    (command : DisplayCommand) (d : Display) : Display × Reply :=
  match command with
  | .allOff => d.handleAllOff env
  | .allOn => d.handleAllOn env x
  | .stopDisplay => d.handleStopDisplay env
  | .setRefreshRate => d.handleSetRefreshRate env data
  | .getRefreshRate => d.handleGetRefreshRate
  | .setPanelDisplayMode => d.handleSetPanelDisplayMode data
  | .getPanelDisplayMode => d.handleGetPanelDisplayMode
  | .getEthernetIpAddress => d.handleGetEthernetIpAddress env
  | .getControllerInfo => d.handleGetControllerInfo env
  | .getHealth => d.handleGetHealth env store
  | .getFirmwareVersion => d.handleGetFirmwareVersion env
  | .getCrashReport => d.handleGetCrashReport env
  | .getSdInfo => d.handleGetSdInfo env store
  | .setDiagOutput => d.handleSetDiagOutput data
  | .getDiagOutput => d.handleGetDiagOutput
  | .setFramePosition => d.handleSetFramePosition env store data
  | .getFramePosition => d.handleGetFramePosition
  | .displayPsramIndex => d.handleDisplayPsramIndex env data
  | .psramPlay => d.handlePsramPlay env data
  | .getFramesSent => d.handleGetFramesSent
  | .resetFramesSent => d.handleResetFramesSent
  | .getFileCount => d.handleGetFileCount store
  | .getPatternFilename => d.handleGetPatternFilename store data
  | .getPatternInfo => d.handleGetPatternInfo env store data
  | .getFirmwareInfo => d.handleGetFirmwareInfo env store
  | .g6ProgramPanel => d.handleProgramPanel env x data dataLen
  | .g6VerifyPanel => d.handleVerifyPanel env x data dataLen
  | .setSpiClock => d.handleSetSpiClock data
  | .getSpiClock => d.handleGetSpiClock
  | .getDigitalOut => d.handleGetDigitalOut env
  | .setDigitalOut => d.handleSetDigitalOut data
  | .setDioRole => d.handleSetDioRole data
  | .getDioRole => d.handleGetDioRole env
  | .setTelemetry => d.handleSetTelemetry env data
  | .getTelemetryBlock => d.handleGetTelemetryBlock env data
  | .setAoVoltage => d.handleSetAoVoltage env data
  | .setAoMode => d.handleSetAoMode env data
  | .getAnalogIn => d.handleGetAnalogIn env
  | .getAoVoltage => d.handleGetAoVoltage env
  | .setAoLut => d.handleSetAoLut env data
  | .switchGrayscale => d.handleSwitchGrayscale

end

namespace Controller

/-- A command of the display. -/
def onDisplay (f : Display → Display × Reply) (c : Controller) : Controller × Reply :=
  let out := f c.display
  ({ c with display := out.1 }, out.2)

def note (clock : Telemetry.Clock) (kind code : UInt8) (arg : ℕ) (c : Controller) : Controller :=
  { c with display := c.display.note clock kind code arg }

/-- The refusal while the display is on. -/
def displayActive (command : UInt8) (text : String) : Reply :=
  ⟨command, ControllerError.ceDisplayActive.toByte, ascii text⟩

/-! ### Trials -/

section

variable [Board]

/-- `enterPatternMode`, which opens the pattern. -/
def enterPatternMode (env : Env) (mode : ArenaState) (patternId : ℕ) (frameRateHz gain : ℤ)
    (initFrame durationTicks : ℕ) (c : Controller) : Controller × Bool :=
  let (display, store, ok) :=
    c.display.enterPatternMode env mode patternId frameRateHz gain initFrame durationTicks c.store
  ({ c with display := display, store := store }, ok)

/-- `trial_duty_` set. -/
def withDuty (duty : UInt8) (c : Controller) : Controller :=
  { c with display := { c.display with screen := { c.display.screen with trialDuty := duty } } }

def showError (env : Env) (code : ControllerError) (c : Controller) : Controller :=
  { c with display := c.display.showError env code }

/-- `param[0]` of `TRIAL_PARAMS`. -/
def trialMode (mode : UInt8) : Option ArenaState :=
  if mode = 2 then some .openLoop else if mode = 3 then some .showFrame
  else if mode = 4 then some .closedLoop else none

/-- The arguments of `TRIAL_PARAMS`. -/
structure TrialParams where
  mode : UInt8
  patternId : ℕ
  frameRate : ℤ
  initPos : ℕ
  gain : ℤ
  duration : ℕ
  duty : UInt8

/-- `handleTrialParams`, once its arguments are read. -/
def startTrial (env : Env) (p : TrialParams) (c : Controller) : Controller × Reply :=
  match trialMode p.mode with
  | none =>
    (c.showError env .ceBadParam, refused trialParamsCmd "TRIAL_PARAMS: mode must be 2/3/4")
  | some mode =>
    match (c.withDuty p.duty).enterPatternMode env mode p.patternId p.frameRate p.gain p.initPos
      p.duration with
    | (c, true) => (c, done trialParamsCmd [])
    | (c, false) => (c.withDuty 0, refused trialParamsCmd "TRIAL_PARAMS: load failed")

/-- `handleTrialParams`. -/
def handleTrialParams (env : Env) (data : Mem) (c : Controller) : Controller × Reply :=
  if c.transfers.active then (c, refused trialParamsCmd sdBusy)
  else if paramLen data < 11 then
    (c.showError env .ceBadPayloadLen, refused trialParamsCmd "TRIAL_PARAMS too short")
  else c.startTrial env {
    mode := data 2
    patternId := wordAt data 3 2
    frameRate := toInt16 (wordAt data 5 2)
    initPos := wordAt data 7 2
    gain := toInt16 (wordAt data 9 2)
    duration := wordAt data 11 2
    duty := if 12 ≤ paramLen data then data 13 else 0 }

def setPatternId (env : Env) (patternId : ℕ) (c : Controller) : Controller × Reply :=
  if c.transfers.active then (c, refused setPatternIdCmd sdBusy)
  else
    match (c.withDuty 0).enterPatternMode env .showFrame patternId 0 0 0 0 with
    | (c, false) => (c, refused setPatternIdCmd "SET_PATTERN_ID: load failed")
    | (c, true) => (c, done setPatternIdCmd (toLe 2 patternId))

def handleSetPatternId (env : Env) (data : Mem) (c : Controller) : Controller × Reply :=
  if claimedLen data ≠ 3 then (c, refused setPatternIdCmd "Expected [03 03 id_lo id_hi]")
  else c.setPatternId env (wordAt data 2 2)

end

/-! ### The list of patterns -/

def renamePattern (env : Env) (idx : ℕ) (name : Sd.Name) (c : Controller) : Controller × Reply :=
  if c.store.sd.patternCount < idx then (c, refused setPatternFilenameCmd "Index out of range")
  else if c.transfers.active then (c, refused setPatternFilenameCmd sdBusy)
  else
    let (store, err, newIdx) := c.store.renamePattern env.sd idx name
    let c := { c with store := store }
    if err ≠ .ceNone then (c, ⟨setPatternFilenameCmd, err.toByte, ascii "Rename failed"⟩)
    else (c, done setPatternFilenameCmd (toLe 2 (newIdx.getD 0)))

/-- `SET_PATTERN_FILENAME`. -/
def handleSetPatternFilename (env : Env) (data : Mem) (c : Controller) : Controller × Reply :=
  if claimedLen data < 4 then (c, refused setPatternFilenameCmd "Too short")
  else
    let nameLen := (data 4).toNat
    if nameLen = 0 ∨ Sd.patternNameByteCount ≤ nameLen ∨ claimedLen data < (4 + nameLen) % 256 then
      (c, refused setPatternFilenameCmd "Bad name length")
    else c.renamePattern env (wordAt data 2 2) (Sd.cstr (bytesAt data 5 nameLen))

/-- The indices of the transfers after a delete of a lower one. -/
def shiftTransfers (idx : ℕ) (x : Transfers) : Transfers :=
  if 1 ≤ idx then
    { x with
      dl := x.dl.map fun dl => if idx < dl.idx then { dl with idx := dl.idx - 1 } else dl
      ul := x.ul.map fun ul => if idx < ul.idx then { ul with idx := ul.idx - 1 } else ul }
  else x

def deletePattern (env : Env) (idx : ℕ) (c : Controller) : Controller × Reply :=
  if c.transfers.patternBusy idx then (c, refused deletePatternFileCmd "Pattern is in use")
  else
    let (store, err) := c.store.deletePattern env.sd idx
    let c := { c with store := store }
    if err ≠ .ceNone then (c, ⟨deletePatternFileCmd, err.toByte, ascii "Delete failed"⟩)
    else ({ c with transfers := shiftTransfers idx c.transfers }, done deletePatternFileCmd [])

/-- `DELETE_PATTERN_FILE`. -/
def handleDeletePatternFile (env : Env) (data : Mem) (c : Controller) : Controller × Reply :=
  if claimedLen data ≠ 3 then (c, refused deletePatternFileCmd "Expected [03 86 idx_lo idx_hi]")
  else c.deletePattern env (wordAt data 2 2)

/-- `PURGE_MEMORY`. -/
def handlePurgeMemory (env : Env) (c : Controller) : Controller × Reply :=
  if c.display.screen.state ≠ .allOff then (c, displayActive purgeMemoryCmd "Stop display first")
  else if c.transfers.active then (c, refused purgeMemoryCmd "A transfer is in progress")
  else
    let (store, err) := c.store.purgeMemory env.sd
    let c := { c with store := store }
    if err ≠ .ceNone then (c, ⟨purgeMemoryCmd, err.toByte, ascii "Purge-memory failed"⟩)
    else (c, done purgeMemoryCmd [])

/-- `SET_SD_DIAG`, on flags that are known. -/
def setSdDiag (env : Env) (flags : UInt8) (c : Controller) : Controller × Reply :=
  let store := { c.store with sd := { c.store.sd with legacySeek := flags &&& 1 ≠ 0 } }
  let skip : Bool := flags &&& 2 = 0
  let d := { c.display with playback := { c.display.playback with sdSkipSameIndex := skip } }
  let d := if skip then d else d.dropFrameCache
  let echo := d.sdDiagFlags store
  ({ c with store := store, display := d.note (env.clock 0) Telemetry.stTelemetry 0xCE echo },
    done setSdDiagCmd [UInt8.ofNat echo])

/-- `handleSetSdDiag`. -/
def handleSetSdDiag (env : Env) (data : Mem) (c : Controller) : Controller × Reply :=
  if claimedLen data ≠ 2 then (c, refused setSdDiagCmd "Expected [02 CE flags]")
  else
    let flags := data 2
    if flags &&& 0xFC ≠ 0 then (c, refused setSdDiagCmd "SET_SD_DIAG: bits 2-7 reserved")
    else if flags &&& 1 ≠ 0 ∧ env.card.fatType = 64 then
      (c, refused setSdDiagCmd "SET_SD_DIAG: legacy seek has no effect on exFAT")
    else c.setSdDiag env flags

/-! ### The start of a transfer -/

/-- `GET_PATTERN_FILE`, on a pattern of the list. -/
def startDownload (env : Env) (t : Transport) (idx : ℕ) (entry : Sd.Entry) (c : Controller) :
    Controller × Reply :=
  match c.store.card.openRead (env.sd.ok .openRead) entry.path with
  | none => (c, refused getPatternFileCmd "File open failed")
  | some id =>
    let size := (c.store.card.content id).length % 2 ^ 32
    (c.withDl (some {
      file := id
      pos := 0
      source := t
      idx := idx
      remaining := size
      deadline := (env.millis 0 + kDownloadIdleTimeoutMs) % 2 ^ 32 }),
      done getPatternFileCmd (toLe 8 size))

def getPatternFile (env : Env) (t : Transport) (idx : ℕ) (c : Controller) : Controller × Reply :=
  if idx = 0 ∨ c.store.sd.patternCount < idx then (c, refused getPatternFileCmd "Index out of range")
  else if c.transfers.patternBusy idx then (c, refused getPatternFileCmd "Pattern is in use")
  else
    match c.store.sd.pattern? idx with
    | none => (c, refused getPatternFileCmd "Pattern not found")
    | some entry => c.startDownload env t idx entry

/-- `GET_PATTERN_FILE`. -/
def handleGetPatternFile (env : Env) (t : Transport) (data : Mem) (c : Controller) :
    Controller × Reply :=
  if c.display.screen.state ≠ .allOff then (c, displayActive getPatternFileCmd "Stop display first")
  else if c.transfers.dl.isSome then (c, refused getPatternFileCmd "Download already in progress")
  else if claimedLen data ≠ 3 then (c, refused getPatternFileCmd "Expected [03 84 idx_lo idx_hi]")
  else c.getPatternFile env t (wordAt data 2 2)

/-- The archive of a list of collected entries. -/
def archiveOf (entries : List ZipEntry) (t : Transport) (deadline : ℕ) : Archive where
  entries := placeEntries 0 entries
  entryIdx := 0
  phase := if entries = [] then .eocd else .localHeader
  file := none
  fileRemaining := 0
  crc := 0
  cdOffset := cdOffsetOf entries
  cdSize := cdSizeOf entries
  source := t
  deadline := deadline

/-- The size an archive of these entries is announced with. -/
def archiveSize (entries : List ZipEntry) : ℕ := cdOffsetOf entries + cdSizeOf entries + 22

/-- `handleGetSdArchive`. -/
def startArchive (env : Env) (t : Transport) (c : Controller) : Controller × Reply :=
  let entries := collectEntries env c.store
  (c.withAr (some (archiveOf entries t ((env.millis 0 + kArchiveIdleTimeoutMs) % 2 ^ 32))),
    done getSdArchiveCmd (toLe 8 (archiveSize entries)))

/-- `GET_SD_ARCHIVE`. -/
def handleGetSdArchive (env : Env) (t : Transport) (c : Controller) : Controller × Reply :=
  if c.display.screen.state ≠ .allOff then (c, displayActive getSdArchiveCmd "Stop display first")
  else if c.transfers.ar.isSome then (c, refused getSdArchiveCmd "Archive already in progress")
  else if c.transfers.ul.isSome then (c, refused getSdArchiveCmd "Upload in progress")
  else c.startArchive env t

/-! ### Binary commands -/

/-- `SYSTEM_RESET`, before its reset. -/
def handleSystemReset (c : Controller) : Controller × Reply :=
  (c, done systemResetCmd (ascii "rebooting"))

/-- `SYSTEM_RESET`, once its reply is queued: both sources are flushed, and nothing
follows. -/
def systemReset (env : Env) (c : Controller) : Controller :=
  let c := c.onSource .network (·.flushResponses .network (env.flush .network))
  let c := c.onSource .serial (·.flushResponses .serial (env.flush .serial))
  { c with display := c.display.disarmRefreshTimer, halted := true }

/-- `Telemetry::cmd` of the command just answered. -/
def recordCommand (env : Env) (t : Transport) (tRxUs : ℕ) (command : UInt8) (req : List UInt8)
    (c : Controller) : Controller :=
  { c with display := { c.display with
    tel := Telemetry.cmd (env.clock 0) tRxUs command (c.source t).lastResponseStatus req
      c.display.tel } }

/-- `STATE(telemetry)` when the watchdog did not take its window. -/
def noteWatchdog (refusedWindow : Bool) (clock : Telemetry.Clock) (command : UInt8)
    (c : Controller) : Controller :=
  if refusedWindow then c.note clock Telemetry.stTelemetry 0xEE command.toNat else c

section

variable [Board]

/-- The cases of `handleBinaryCommand` about the store and the transfers. -/
def storeCommand (env : Env) (t : Transport) (data : Mem) (command : StoreCommand)
    (c : Controller) : Controller × Reply :=
  match command with
  | .trialParams => c.handleTrialParams env data
  | .setPatternId => c.handleSetPatternId env data
  | .setPatternFilename => c.handleSetPatternFilename env data
  | .getPatternFile => c.handleGetPatternFile env t data
  | .deletePatternFile => c.handleDeletePatternFile env data
  | .purgeMemory => c.handlePurgeMemory env
  | .getSdArchive => c.handleGetSdArchive env t
  | .setSdDiag => c.handleSetSdDiag env data
  | .systemReset => c.handleSystemReset

/-- The `switch` of `handleBinaryCommand`. -/
def dispatch (env : Env) (t : Transport) (data : Mem) (dataLen : ℕ) (c : Controller) :
    Controller × Reply :=
  match ArenaCommand.ofByte (data 1) with
  | some (.display command) =>
    c.onDisplay (displayCommand env c.store c.transfers data dataLen command)
  | some (.store command) => c.storeCommand env t data command
  | none => c.onDisplay (·.handleUnknown env (data 1))

/-- `handleBinaryCommand`, before its `switch`. -/
def beginCommand (env : Env) (command : UInt8) (c : Controller) : Controller :=
  let c := { c with display := { c.display with
    marks := { c.display.marks with lastCmdRxUs := env.micros 0 } } }
  c.noteWatchdog (longOp command && !env.watchdog [0]) (env.clock 1) command

/-- `handleBinaryCommand`, after its `switch`. -/
def endCommand (env : Env) (t : Transport) (data : Mem) (c : Controller) : Controller :=
  let command := data 1
  let c := c.noteWatchdog (longOp command && !env.watchdog [2]) (env.clock 3) command
  if command = Telemetry.getTelemetryBlockCmd then c
  else c.recordCommand (env.call 4) t (env.micros 0) command (bytesAt data 2 (claimedLen data - 1))

/-- `handleBinaryCommand`. -/
def handleBinaryCommand (env : Env) (t : Transport) (data : Mem) (dataLen : ℕ) (c : Controller) :
    Controller :=
  if dataLen - 1 ≠ claimedLen data then c
  else
    let (c, reply) := (c.beginCommand env (data 1)).dispatch (env.call 5) t data dataLen
    let c := c.onSource t (·.sendResponse reply)
    if data 1 = systemResetCmd then c.systemReset env else c.endCommand env t data

/-! ### Bulk commands -/

/-- `drainBulkData`: the loop, from the reading of the clock it starts with. -/
def drainPasses (t : Transport) (start : ℕ) : List BulkPass → ℕ → ℕ → Source → Source
  | [], _, _, s => s
  | pass :: rest, t0, remaining, s =>
    if remaining = 0 then s
    else if 15000 < Telemetry.sub32 pass.now start then s
    else
      let s := { s with link := s.link ++ pass.arrived }
      let (s, got) := s.readBulkBytes t pass.cap (min remaining 256)
      if got ≠ [] then drainPasses t start rest pass.after (remaining - got.length) s
      else if 5000 < Telemetry.sub32 pass.after t0 then s
      else drainPasses t start rest t0 remaining s

/-- `drainBulkData`. -/
def drainBulkData (env : Env) (t : Transport) (remaining : ℕ) (c : Controller) : Controller :=
  c.onSource t (drainPasses t (env.millis 8) env.drain (env.millis 8) remaining)

/-- A bulk command refused: its payload is drained and the refusal sent. -/
def rejectBulk (env : Env) (t : Transport) (remaining : ℕ) (reply : Reply) (c : Controller) :
    Controller :=
  (c.drainBulkData env t remaining).onSource t (·.sendResponse reply)

/-- How the loop of `handleSetFirmwareFile` ends. -/
inductive FirmwareEnd
  | stored (crc : UInt32)
  | failed (text : String) (remaining : ℕ)

/-- The loop of `handleSetFirmwareFile`: a pass that reads nothing for too long ends it, and
so does the clock once the passes are used up. -/
def firmwarePasses (t : Transport) (id : FileId) :
    List BulkPass → ℕ → ℕ → UInt32 → Source → Card → Source × Card × FirmwareEnd
  | passes, tIdle, remaining, crc, s, card =>
    if remaining = 0 then (s, card, .stored crc)
    else
      match passes with
      | [] => (s, card, .failed "Upload timeout" remaining)
      | pass :: rest =>
        let s := { s with link := s.link ++ pass.arrived }
        let (s, got) := s.readBulkBytes t pass.cap (min remaining chunkBytes)
        if got ≠ [] then
          let written := got.take pass.wrote
          let card := card.append id written
          if written.length ≠ got.length then
            (s, card, .failed "SD write error (card full?)" remaining)
          else
            firmwarePasses t id rest pass.after (remaining - got.length)
              (Panel.crc32Update crc got) s card
        else if 30000 < Telemetry.sub32 pass.after tIdle then
          (s, card, .failed "Upload timeout" remaining)
        else firmwarePasses t id rest tIdle remaining crc s card

/-- `handleSetFirmwareFile`, on the file it has opened. -/
def storeFirmware (env : Env) (t : Transport) (id : FileId) (totalLen : ℕ) (c : Controller) :
    Controller :=
  let (source, card, ending) :=
    firmwarePasses t id env.firmware (env.millis 0) totalLen 0xFFFFFFFF (c.source t) c.store.card
  let c := (c.withCard card).onSource t fun _ => source
  match ending with
  | .stored crc =>
    c.onSource t (·.sendResponse (done setFirmwareFileCmd (toLe 4 (crc ^^^ 0xFFFFFFFF).toNat)))
  | .failed text remaining =>
    let c := c.withCard (c.store.card.remove (env.sd.ok (.discard .firmware)) .firmware).1
    c.rejectBulk env t remaining (refused setFirmwareFileCmd text)

/-- `handleSetFirmwareFile`. -/
def handleSetFirmwareFile (env : Env) (t : Transport) (totalLen : ℕ) (c : Controller) : Controller :=
  if c.display.screen.state ≠ .allOff then
    c.rejectBulk env t totalLen
      (displayActive setFirmwareFileCmd "Stop display before writing to SD")
  else if c.transfers.active then
    c.rejectBulk env t totalLen (refused setFirmwareFileCmd "Bulk transfer already in progress")
  else
    let card := (c.store.card.remove (env.sd.ok (.remove .firmware)) .firmware).1
    match card.openWrite (env.sd.ok (.openWrite .firmware)) .firmware with
    | (card, none) =>
      (c.withCard card).rejectBulk env t totalLen (refused setFirmwareFileCmd "SD open failed")
    | (card, some id) => (c.withCard card).storeFirmware env t id totalLen

/-- `handleBulkWriteCommand`, on an upload that nothing speaks against.  The result says
whether the command is handed over to `serviceUpload`. -/
def startUpload (env : Env) (t : Transport) (idx totalLen : ℕ) (entry : Sd.Entry)
    (c : Controller) : Controller × Bool :=
  let card := (c.store.card.remove (env.sd.ok (.remove entry.path)) entry.path).1
  match card.openWrite (env.sd.ok (.openWrite entry.path)) entry.path with
  | (card, none) =>
    ((c.withCard card).rejectBulk env t totalLen (refused setPatternFileCmd "SD open failed"), false)
  | (card, some id) =>
    ((c.withCard card).withUl (some {
      path := entry.path
      file := id
      source := t
      idx := idx
      remaining := totalLen
      total := totalLen
      deadline := (env.millis 1 + kUploadIdleTimeoutMs) % 2 ^ 32
      drainDeadline := 0
      startMs := env.millis 0
      phase := .writing
      failStatus := 0
      failMsg := [] }), true)

/-- `handleBulkWriteCommand` for `SET_PATTERN_FILE`.  `target` finds nothing exactly
beyond `patternCount`. -/
def handleSetPatternFile (env : Env) (t : Transport) (idx totalLen : ℕ) (c : Controller) :
    Controller × Bool :=
  if totalLen = 0 then
    (c.onSource t (·.sendResponse (refused setPatternFileCmd "Empty upload not supported")), false)
  else if c.display.screen.state ≠ .allOff then
    (c.rejectBulk env t totalLen
      (displayActive setPatternFileCmd "Stop display before writing to SD"), false)
  else if c.transfers.ul.isSome then
    (c.rejectBulk env t totalLen (refused setPatternFileCmd "Upload already in progress"), false)
  else if c.transfers.dl.any (·.idx = idx) then
    (c.rejectBulk env t totalLen (refused setPatternFileCmd "Pattern is being downloaded"), false)
  else if c.transfers.ar.isSome then
    (c.rejectBulk env t totalLen (refused setPatternFileCmd "Archive in progress"), false)
  else
    match c.store.sd.target idx with
    | none => (c.rejectBulk env t totalLen (refused setPatternFileCmd "Index out of range"), false)
    | some entry => c.startUpload env t idx totalLen entry

/-- `handleBulkWriteCommand`. -/
def handleBulkWriteCommand (env : Env) (t : Transport) (cmd : ParsedCommand) (c : Controller) :
    Controller × Bool :=
  if cmd.cmd = setFirmwareFileCmd then (c.handleSetFirmwareFile env t cmd.bulkPayloadLen, false)
  else if cmd.cmd ≠ setPatternFileCmd then
    (c.rejectBulk env t cmd.bulkPayloadLen (refused cmd.cmd "Unknown bulk command"), false)
  else c.handleSetPatternFile env t (wordAt cmd.data 1 2) cmd.bulkPayloadLen

/-! ### processCommand -/

/-- A parsed command handed to its handler.  The result says whether the command stays
with its source. -/
def handleCommand (env : Env) (t : Transport) (cmd : ParsedCommand) (c : Controller) :
    Controller × Bool :=
  if cmd.isBulk then
    let fw : Bool := cmd.cmd = setFirmwareFileCmd
    let c := c.noteWatchdog (fw && !env.watchdog [0]) (env.clock 0) cmd.cmd
    let (c, handoff) := c.handleBulkWriteCommand (env.call 1) t cmd
    (c.noteWatchdog (fw && !env.watchdog [2]) (env.clock 2) cmd.cmd, handoff)
  else if cmd.isStream then
    let (c, reply) := c.onDisplay (·.handleStreamCommand env cmd.data cmd.dataLen)
    (c.onSource t (·.sendResponse reply), false)
  else (c.handleBinaryCommand env t cmd.data cmd.dataLen, false)

/-- `processCommand`, for one source: the command of a source that owns a transfer waits. -/
def processCommand (env : Env) (t : Transport) (c : Controller) : Controller :=
  if !(c.source t).hasCommand || c.transfers.owns t then c
  else
    let cmd := (c.source t).rx.parsedCmd
    let c := c.onSource t fun s => { s with events := s.events ++ [.dispatched] }
    match c.handleCommand env t cmd with
    | (c, true) => c
    | (c, false) => if c.halted then c else c.onSource t (·.commandConsumed)

end

end Controller
end Command
end G6Arena
