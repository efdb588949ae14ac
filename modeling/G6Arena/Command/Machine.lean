/-
# The controller as a machine

What happens to the controller, one action at a time: the functions `loop()` calls, the
refresh interrupt, and the links outside.  An action meets an environment of its own, and a
run is a list of actions in any order (`step`).  `InTurn` says that the functions `loop()` calls
come in the order `loop()` has them, over and over, with what happens outside in between.

A step of the machine is a change of the display, the store and the transfers, and a change of
the two sources.  The lemmas here say which of them an operation leaves.
-/

import G6Arena.Command.Dispatch
import G6Arena.Lib.Machine
import G6Arena.Sd.OpenPattern

namespace G6Arena
namespace Command

open ByteMem Link Machine
open Sd (Card Store)

/-! ### Boot -/

/-- What outlives a reset, and what is known of it. -/
structure Boot where
  card : Card
  ring : Telemetry.Ring
  health : Telemetry.BootHealth

/-- A reset with nothing left in memory. -/
def Boot.cold (card : Card) : Boot where
  card := card
  ring := ⟨⟨0, 0, 0, 0, 0, 0, 0, 0, 0, 0⟩, fun _ => 0⟩
  health := {
    resetCause := 0
    wdog3Reset := false
    prevLastOp := 0
    prevValid := false
    prevIsrValid := false
    prevWdogFired := false
    prevWdogXpsr := 0
    prevWdogPrevIsr := 0
    prevWdogExcret := 0
    prevIsrCnt := fun _ => 0 }

/-- `CommandProcessor` and `SpiManager` before `begin`. -/
def Display.powerOn [Board] (tel : Telemetry.Module) : Display where
  screen := {
    state := .allOff
    blockByteCount := panelBlockByteCountGs16
    panelDispMode := 1
    frameBuf := fun _ => 0
    frameByteCount := 0
    patternId := 0
    frameCount := 0
    curFrameIndex := 0
    trialDuty := 0
    frameBufIsFrame := false
    sdCacheOk := false }
  refresh := {
    rateHz := refreshRateGs16Default
    rateExplicit := false
    armedHz := 0
    refreshFlag := false
    isrCount := 0 }
  playback := {
    frameRateHz := 0
    gain := 0
    lastAdvanceUs := 0
    lastSampleUs := 0
    trialEndMs := 0
    errorUntilMs := 0
    psramStartIndex := 0
    psramPlayCount := 1
    psramPlayOffset := 0
    sdSkipSameIndex := true
    lateBootBlankPending := true }
  marks := {
    telLastFrame := 0xFFFF
    telLastPattern := 0xFFFF
    lastCmdRxUs := 0
    pendingReqUs := 0
    pendingReqValid := false
    frameReqUs := 0
    frameSrcFlags := 0
    bufPresented := true
    supersededPending := 0
    openReads := 0 }
  health := {
    sdReads := 0
    sdReadMaxUs := 0
    lastSdReadUs := 0
    cmd70Count := 0
    cmd70SameIndex := 0 }
  ao := {
    dacCode := 0
    mv := 0
    mode := 0
    lut := fun _ => 0
    lutLen := 0
    lutMode := 0
    lutStepHz := 0
    lutIdx := 0
    lutLastUs := 0 }
  dio := {
    role1 := .off
    role2 := .off
    framescan1 := false
    framescan2 := false
    ops := [] }
  tel := tel
  framesSent := 0
  spiClockMhz := 25
  clocked := []
  dbgOn := false

/-- `CommandProcessor::begin`. -/
def Display.begin_ (d : Display) : Display :=
  { d with dio := Display.applyDioRole false .inTrigger (Display.applyDioRole true .outProgrammable d.dio) }

/-- `setup()`, with its two blanks. -/
def setup [Board] (boot : Boot) (env : Env) : Controller where
  display := ((Display.powerOn (Telemetry.begin (env.clock 0) boot.health boot.ring)).begin_.enterAllOff
    (env.call 1)).enterAllOff (env.call 2)
  store := (Store.powerOn boot.card).begin_ env.sd
  transfers := .none
  source _ := Source.powerOn
  halted := false

/-! ### Actions -/

inductive Action
  /-- bytes that arrive on a link -/
  | arrive (t : Transport) (bytes : List UInt8)
  /-- the TCP client is lost -/
  | disconnect
  /-- `serviceUsb` or `serviceTcp`, with a client that waits or not -/
  | service (t : Transport) (accepted : Bool)
  /-- `processCommand`, for one source -/
  | processCommand (t : Transport)
  | serviceDisplay
  | serviceTelemetry
  | serviceDownload
  | serviceUpload
  | serviceArchive
  | serviceDisconnects
  | serviceLateBootBlank
  | flushResponses (t : Transport)
  | refreshIsr
  deriving DecidableEq

section

variable [Board]

namespace Controller

/-- One action. -/
def act (env : Env) (a : Action) (c : Controller) : Controller :=
  match a with
  | .arrive t bytes => c.onSource t fun s => { s with link := s.link ++ bytes }
  | .disconnect => c.onSource .network fun s => { s with connected := false }
  | .service t accepted => c.onSource t (·.service t env.cap accepted)
  | .processCommand t => c.processCommand env t
  | .serviceDisplay => { c with display := c.display.serviceDisplay env c.store }
  | .serviceTelemetry =>
    { c with display := { c.display with tel := Telemetry.service (env.clock 0) c.display.tel } }
  | .serviceDownload => c.serviceDownload env
  | .serviceUpload => c.serviceUpload env
  | .serviceArchive => c.serviceArchive env
  | .serviceDisconnects => c.serviceDisconnects env
  | .serviceLateBootBlank =>
    { c with display := c.display.serviceLateBootBlank env (!c.transfers.active) }
  | .flushResponses t => c.onSource t (·.flushResponses t (env.flush t))
  | .refreshIsr => { c with display := c.display.refreshIsr }

/-- **One step**: after a reset nothing follows. -/
def step (c : Controller) (i : Action × Env) : Controller :=
  if c.halted then c else c.act i.2 i.1

/-- What `loop()` calls, in its order; the calls of the TCP link are commented out in it. -/
def loopActions : List Action := [
  .serviceDisconnects,
  .service .serial false,
  .processCommand .network,
  .processCommand .serial,
  .serviceDisplay,
  .serviceTelemetry,
  .serviceDownload,
  .serviceUpload,
  .serviceArchive,
  .serviceLateBootBlank,
  .flushResponses .serial]

/-- What happens outside `loop()`. -/
def external : Action → Bool
  | .arrive _ _ | .refreshIsr => true
  | _ => false

/-- What `loop()` calls comes in turn, from its `k`-th call on. -/
def InTurn : ℕ → List Action → Bool
  | _, [] => true
  | k, a :: as =>
    if external a then InTurn k as
    else loopActions[k]? = some a && InTurn ((k + 1) % loopActions.length) as

end Controller

end

/-! ### A small arena -/

/-- The header of a GS2 pattern of two frames, for 20 panels. -/
def smallHeader : List UInt8 :=
  [0x47, 0x36, 0x50, 0x54, 0x20, 0, 2, 0, 2, 10, 1, 0, 0, 0, 0, 0, 0, 37]

/-- A dark frame of it, with its CRC. -/
def smallFrame : List UInt8 := [0x46, 0x52, 0, 0] ++ List.replicate 1060 0 ++ toLe 2 64039

/-- A card with that pattern as `a.pat`. -/
def smallCard : Card where
  key := id
  dir p := if p = .pattern (Sd.samplePat 0x61) then some 0 else none
  content id := if id = 0 then smallHeader ++ smallFrame ++ smallFrame else []
  fresh := 1

def smallIo : Sd.SdIo where
  ok _ := true
  cap _ := 65536
  kept _ := true
  listing := [Sd.samplePat 0x61]

/-- Bytes that arrive on a link, are taken in, and are handled if they are a command. -/
def receive (t : Transport) (bytes : List UInt8) (env : Env) : List (Action × Env) :=
  [(.arrive t bytes, env), (.service t false, env), (.processCommand t, env)]

end Command
end G6Arena
