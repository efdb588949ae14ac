/-
# The hardware around a step

What one step of the controller reads of the world: clock readings, outcomes of bus
transfers, pins, the card, the room of the transmit buffers.

A step is functions that call others.  Readings and outcomes are numbered by call:
`env.call k` is what the `k`-th call of a function meets, and a list of numbers names a
reading for good, so that no two of a step share one.
-/

import G6Arena.Link.Source
import G6Arena.Sd.Manager
import G6Arena.Telemetry.Calls

namespace G6Arena
namespace Command

open Link

/-- The values of `GET_HEALTH` that nothing else here keeps, in the order of the reply. -/
structure HealthReadings where
  loopCount : ℕ
  loopMaxUs : ℕ
  loopMax1sUs : ℕ
  resetCause : ℕ
  prevValid : Bool
  prevLastOp : ℕ
  prevStampUs : ℕ
  prevOpArg : ℕ
  prevSlowOp : ℕ
  prevSlowUs : ℕ
  slowOp : ℕ
  slowUs : ℕ
  prevIsrLast : ℕ
  prevIsrCount : ℕ
  prevWdogPc : ℕ
  prevWdogLr : ℕ
  watchdogFlags : ℕ
  isrLast : ℕ
  isrCount : ℕ
  wdogKicks : ℕ
  watchdogCsAtBoot : ℕ
  watchdogCsNow : ℕ
  watchdogTickHz : ℕ
  watchdogTovalNow : ℕ
  watchdogVerify : ℕ
  watchdogCntBeforeMax : ℕ
  watchdogCntAfterMin : ℕ
  watchdogCntAfterMax : ℕ
  watchdogCntNow : ℕ
  deriving Inhabited

/-- `SdManager::CardInfo`, and what SdFat caches of the card. -/
structure CardInfo where
  mounted : Bool
  cidValid : Bool
  csdValid : Bool
  cardType : UInt8
  fatType : UInt8
  sectors : ℕ
  bytesPerCluster : ℕ
  cid : List UInt8
  sectorsPerCluster : ℕ
  errorCode : UInt8
  errorData : ℕ
  deriving Inhabited

/-- `Version.h`. -/
structure Build where
  sha : List UInt8
  date : List UInt8
  branch : List UInt8
  dirty : Bool
  debug : Bool
  deriving Inhabited

/-- What one pass of a loop that takes in a bulk payload meets. -/
structure BulkPass where
  /-- `millis()` before and after the read -/
  now : ℕ
  after : ℕ
  /-- the bytes that have arrived since the pass before -/
  arrived : List UInt8
  /-- how much one read of the link gives at most -/
  cap : ℕ
  /-- how much `File::write` takes -/
  wrote : ℕ

structure Env where
  /-- `micros()` -/
  us : List ℕ → ℕ
  /-- `millis()` -/
  ms : List ℕ → ℕ
  /-- `__brkval` -/
  brk : ℕ
  /-- `Wire.endTransmission() == 0` -/
  wire : List ℕ → Bool
  /-- `IntervalTimer::begin` -/
  timerBegin : List ℕ → Bool
  /-- `watchdogSuspend`, `watchdogResume`, `watchdogSetEnabled` -/
  watchdog : List ℕ → Bool
  sd : Sd.SdIo
  /-- `lastSeekUs`, `lastBodyUs`, `lastTailUs` -/
  phaseUs : ℕ × ℕ × ℕ
  card : CardInfo
  /-- whole steps of `frame_accum_`: positive ones forward -/
  accumSteps : ℤ
  /-- `digitalRead` of the data pins of the two ports -/
  pin1 : Bool
  pin2 : Bool
  /-- the two analog inputs, in mV -/
  analogMv : ℤ × ℤ
  /-- the three bytes the DAC reads back -/
  dac : Option (UInt8 × UInt8 × UInt8)
  health : HealthReadings
  /-- the 128 bytes at `crashreport_addr` -/
  crashReport : List UInt8
  build : Build
  mac : List UInt8
  ipAddress : List UInt8
  /-- the outcome of an ISP session, and the text about it -/
  isp : Bool × List UInt8
  /-- how much one read of the link gives at most -/
  cap : ℕ
  tx : TxIo
  /-- what `flushResponses` of a source meets -/
  flush : Transport → TxPass
  /-- the passes of the loop of `handleSetFirmwareFile` -/
  firmware : List BulkPass
  /-- the passes of `drainBulkData` -/
  drain : List BulkPass

namespace Env

/-- What the `k`-th call of a function meets. -/
def call (env : Env) (k : ℕ) : Env :=
  { env with
    us := fun path => env.us (k :: path)
    ms := fun path => env.ms (k :: path)
    wire := fun path => env.wire (k :: path)
    timerBegin := fun path => env.timerBegin (k :: path)
    watchdog := fun path => env.watchdog (k :: path) }

/-- The `k`-th reading of `micros()` of a function. -/
def micros (env : Env) (k : ℕ) : ℕ := env.us [k] % 2 ^ 32

/-- The `k`-th reading of `millis()` of a function. -/
def millis (env : Env) (k : ℕ) : ℕ := env.ms [k] % 2 ^ 32

/-- What the telemetry call `k` of a function reads. -/
def clock (env : Env) (k : ℕ) : Telemetry.Clock := ⟨env.brk, fun j => env.us [k, j] % 2 ^ 32⟩

@[simp] theorem call_sd (env : Env) (k : ℕ) : (env.call k).sd = env.sd := rfl

/-- Nothing fails, nothing is short, and no time passes. -/
def calm (sd : Sd.SdIo) : Env where
  us _ := 0
  ms _ := 0
  brk := 0
  wire _ := true
  timerBegin _ := true
  watchdog _ := true
  sd := sd
  phaseUs := (0, 0, 0)
  card := default
  accumSteps := 0
  pin1 := false
  pin2 := false
  analogMv := (0, 0)
  dac := some (0, 0, 0)
  health := default
  crashReport := []
  build := default
  mac := []
  ipAddress := []
  isp := (true, [])
  cap := 4096
  tx := ⟨0, [⟨4096, 0, true, 4096⟩], 0, [⟨4096, 0, true, 4096⟩, ⟨4096, 0, true, 4096⟩]⟩
  flush _ := ⟨4096, 0, true, 4096⟩
  firmware := []
  drain := []

end Env

end Command
end G6Arena
