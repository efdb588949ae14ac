/-
# A message source

A transport as `CommandProcessor` has it (`MessageSource`): the receive side, the bytes
that wait on the link, the one reply frame `resp_buf_` holds, and what has been written
to the link.

The loops of `sendRaw` run on the clock and the room of the transmit buffer.  A list of
passes gives what they meet; a loop that has used up its list has met its
deadline.

`events` is a history of what happened to the commands of the source.
-/

import G6Arena.Link.Framing
import G6Arena.Link.Reply

namespace G6Arena
namespace Link

open ByteMem

/-- `(int32_t)(now - deadline) >= 0`. -/
def due (now deadline : ℕ) : Bool := (now % 2 ^ 32 + 2 ^ 32 - deadline) % 2 ^ 32 < 2 ^ 31

/-- What happens to the commands of a source. -/
inductive SourceEvent
  /-- `cmd_ready_` set -/
  | parsed
  /-- handed to its handler -/
  | dispatched
  | replied (reply : Reply)
  /-- the queued reply written out -/
  | flushed
  | released
  deriving DecidableEq

structure Source where
  rx : Rx
  link : List UInt8
  connected : Bool
  resp : List UInt8
  sent : List UInt8
  events : List SourceEvent

/-- What one pass of a loop that writes meets. -/
structure TxPass where
  /-- `availableForWrite()` -/
  room : ℕ
  /-- `millis()` -/
  now : ℕ
  /-- `client_.connected()` -/
  connected : Bool
  /-- how much of it `client_.write` takes -/
  accepted : ℕ

/-- What `sendRaw` meets. -/
structure TxIo where
  start : ℕ
  spin : List TxPass
  stallStart : ℕ
  write : List TxPass

namespace Source

/-- A source before its first byte. -/
def powerOn : Source where
  rx := {
    rxBuf := fun _ => 0
    rxLen := 0
    parsedCmd := {
      cmd := 0
      data := fun _ => 0
      dataLen := 0
      isStream := false
      isBulk := false
      bulkPayloadLen := 0 }
    cmdReady := false }
  link := []
  connected := false
  resp := []
  sent := []
  events := []

/-- `sendResponse`. -/
def sendResponse (reply : Reply) (s : Source) : Source :=
  { s with resp := G6Arena.sendResponse reply, events := s.events ++ [.replied reply] }

/-- `lastResponseStatus`. -/
def lastResponseStatus (s : Source) : UInt8 :=
  match s.resp with
  | _ :: status :: _ => status
  | _ => 0xFF

/-- `hasCommand`. -/
def hasCommand (s : Source) : Bool := s.rx.cmdReady

/-- `isConnected`, which USB always is. -/
def isConnected (t : Transport) (s : Source) : Bool := t = .serial || s.connected

/-- `commandConsumed`. -/
def commandConsumed (s : Source) : Source :=
  { s with rx := Link.commandConsumed s.rx, events := s.events ++ [.released] }

/-- `flushResponses`, of both. -/
def flushResponses (t : Transport) (pass : TxPass) (s : Source) : Source :=
  match t with
  | .serial =>
    if s.resp = [] then s
    else if pass.room < s.resp.length then s
    else { s with sent := s.sent ++ s.resp, resp := [], events := s.events ++ [.flushed] }
  | .network =>
    if !pass.connected then s
    else if s.resp = [] then s
    else { s with
      sent := s.sent ++ s.resp.take pass.accepted
      resp := []
      events := s.events ++ [.flushed] }

/-! ### sendRaw -/

def respTimeoutMs : ℕ := 5000
def kStallTimeoutMs : ℕ := 2000

/-- The wait of `SerialManager::sendRaw` for room for the queued reply. -/
def spinFlush (deadline : ℕ) : List TxPass → Source → Source
  | [], s => s
  | pass :: rest, s =>
    if s.resp = [] then s
    else if due pass.now deadline then s
    else spinFlush deadline rest (s.flushResponses .serial pass)

/-- The loop of `SerialManager::sendRaw` over the bytes left: the source, and how many
were written. -/
def writeSerial : ℕ → List TxPass → List UInt8 → Source → Source × ℕ
  | _, [], _, s => (s, 0)
  | _, _, [], s => (s, 0)
  | stall, pass :: rest, b :: buf, s =>
    if pass.room = 0 then
      if due pass.now stall then (s, 0) else writeSerial stall rest (b :: buf) s
    else
      let n := min pass.room (b :: buf).length
      let out := writeSerial ((pass.now + kStallTimeoutMs) % 2 ^ 32) rest ((b :: buf).drop n)
        { s with sent := s.sent ++ (b :: buf).take n }
      (out.1, out.2 + n)

/-- The loop of `NetworkManager::sendRaw`. -/
def writeNetwork : ℕ → List TxPass → List UInt8 → Source → Source × ℕ
  | _, [], _, s => (s, 0)
  | _, _, [], s => (s, 0)
  | stall, pass :: rest, b :: buf, s =>
    if !pass.connected then (s, 0)
    else
      let n := min pass.accepted (min pass.room (b :: buf).length)
      if n = 0 then
        if due pass.now stall then (s, 0) else writeNetwork stall rest (b :: buf) s
      else
        let out := writeNetwork ((pass.now + kStallTimeoutMs) % 2 ^ 32) rest ((b :: buf).drop n)
          { s with sent := s.sent ++ (b :: buf).take n }
        (out.1, out.2 + n)

/-- `sendRaw`, of both: the source, and how many of the bytes were written. -/
def sendRaw (t : Transport) (io : TxIo) (buf : List UInt8) (s : Source) : Source × ℕ :=
  match t with
  | .serial =>
    let s := spinFlush ((io.start + respTimeoutMs) % 2 ^ 32) io.spin s
    writeSerial ((io.stallStart + kStallTimeoutMs) % 2 ^ 32) io.write buf s
  | .network =>
    match io.spin with
    | [] => (s, 0)
    | pass :: _ =>
      writeNetwork ((io.stallStart + kStallTimeoutMs) % 2 ^ 32) io.write buf
        (s.flushResponses .network pass)

/-! ### The receive side -/

section

variable [Board]

/-- `readBulkBytes`: the source, and the bytes read. -/
def readBulkBytes (t : Transport) (cap maxLen : ℕ) (s : Source) : Source × List UInt8 :=
  let out := match t with
    | .serial => SerialManager.readBulkBytes cap maxLen s.rx s.link
    | .network => NetworkManager.readBulkBytes s.connected cap maxLen s.rx s.link
  ({ s with rx := out.1, link := out.2.1 }, out.2.2)

/-- A command that has become ready, in the history. -/
def noteParsed (before : Bool) (s : Source) : Source :=
  if !before && s.rx.cmdReady then { s with events := s.events ++ [.parsed] } else s

/-- `serviceUsb`, and `serviceTcp` with `accepted` a client that waits. -/
def service (t : Transport) (cap : ℕ) (accepted : Bool) (s : Source) : Source :=
  match t with
  | .serial =>
    let out := SerialManager.serviceUsb cap s.rx s.link
    noteParsed s.rx.cmdReady { s with rx := out.1, link := out.2 }
  | .network =>
    let after := s.connected || accepted
    let link := if s.connected then s.link else []
    let out := NetworkManager.serviceTcp s.connected after cap s.rx link
    noteParsed (s.connected && s.rx.cmdReady)
      { s with rx := out.1, link := out.2, connected := after }

end

end Source

end Link
end G6Arena
