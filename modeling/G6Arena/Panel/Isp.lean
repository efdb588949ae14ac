/-
# In-system programming

`IspController`: one panel is given a new firmware over the panel bus.  The image of
`/firmware/panel.bin` is staged on the panel page by page (`ISP_ENTER`, `ISP_WRITE_PAGE`), checked
there (`ISP_VERIFY_STAGED`) and installed (`ISP_COMMIT`); then the panel reboots and is asked whether
it is alive.

A session is a computation that ends early with a text, as the `break`s of the source do.  What it
clocks to the panel is kept as a history.  What the line gives is an input, byte by byte and
transfer by transfer, and nothing is assumed of it.  The readings of `millis()` in a loop that polls
are a list; when it is used up the time is.
-/

import G6Arena.Panel.Blocks
import G6Arena.Panel.IspReply

namespace G6Arena
namespace Panel
namespace Isp

open ByteMem

def ispEnter : UInt8 := 0xE4
def ispWritePage : UInt8 := 0xE5
def ispVerifyStaged : UInt8 := 0xE6
def ispCommit : UInt8 := 0xE7
def ispVerifyCrc : UInt8 := 0xE8

def kIspClockAMhz : ℕ := 25
def kIspClockBMhz : ℕ := 2
def kPageBytes : ℕ := 256
def kVerifyTimeoutMs : ℕ := 3000
def kCommitTimeoutMs : ℕ := 15000
def kAliveTimeoutMs : ℕ := 12000
def kCommCheckCmd : UInt8 := 0x01
def firmwareFooterByteCount : ℕ := 32

/-- `kSentinel`, with its NUL, and `kUnlock`. -/
def enterPayload : List UInt8 := ascii "G6PANELISPENTER" ++ [0] ++ ascii "ISP!"

/-! ### State -/

/-- A transfer to the panel: its clock, and the bytes both ways. -/
structure Exchange where
  mhz : ℕ
  copi : List UInt8
  cipo : List UInt8
  deriving DecidableEq

/-- The controller in a session: the clock of the bus, `session_nonce_`, the locals `resp` and
`status`, and what was clocked. -/
structure State where
  mhz : ℕ
  nonce : List UInt8
  resp : List UInt8
  status : UInt8
  history : List Exchange

/-- What a session meets. -/
structure IspIo where
  /-- whether the file can be opened -/
  opened : Bool
  seeks : ℕ → Bool
  /-- how much a read of the file gives at most -/
  reads : ℕ → ℕ
  /-- what the line gives in each transfer -/
  line : ℕ → ℕ → UInt8
  /-- `millis()`, where it goes into the text -/
  ms : ℕ → ℕ
  /-- `millis()` in each of the loops that poll: at its start, and after each try that fails -/
  start : ℕ → ℕ
  polls : ℕ → List ℕ

/-- A session, or a part of it, that may end with a text. -/
abbrev Session (α : Type) : Type := ExceptT (List UInt8) (StateM State) α

/-- A session that goes on if `ok`, and ends with the text otherwise. -/
def require (ok : Bool) (text : List UInt8) : Session Unit := if ok then pure () else throw text

/-- `setSpiClockMhz`. -/
def setSpiClockMhz (mhz : ℕ) (s : State) : State := { s with mhz := max 1 (min mhz 30) }

/-- The time from one reading of `millis()` to another. -/
def elapsed (now start : ℕ) : ℕ := (now + 2 ^ 32 - start % 2 ^ 32) % 2 ^ 32

/-! ### Transfers -/

/-- `buildMsg`. -/
def buildMsg (cmd : UInt8) (payload : List UInt8) : List UInt8 :=
  let len := 2 + payload.length
  bytesAt (stampHeaderParity (store (fun _ => 0) 0 (headerVersionV1 :: cmd :: payload)) 0 len) 0 len

/-- What the line gives in a transfer of `len` bytes. -/
def IspIo.cipo (io : IspIo) (k len : ℕ) : List UInt8 := (List.range len).map (io.line k)

section

variable [Board]

/-- `transferSinglePanel`, kept in the history. -/
def transfer (io : IspIo) (panel : ℕ) (copi : List UInt8) : Session (Option (List UInt8)) := do
  let s ← get
  match transferSinglePanel panel (io.cipo s.history.length copi.length) with
  | none => return none
  | some cipo =>
    set { s with history := s.history ++ [Exchange.mk s.mhz copi cipo] }
    return some cipo

/-- `sendCmd`. -/
def sendCmd (io : IspIo) (panel : ℕ) (msg : List UInt8) : Session Bool := do
  modify (setSpiClockMhz kIspClockAMhz)
  return (← transfer io panel msg).isSome

/-- `readResp`, on the buffer of the session. -/
def readResp (io : IspIo) (panel respLen : ℕ) : Session Bool := do
  modify (setSpiClockMhz kIspClockBMhz)
  match ← transfer io panel (List.replicate (respLen + 1) 0) with
  | none => return false
  | some raw =>
    let s ← get
    let r := Panel.readResp panel respLen raw s.resp (some s.status)
    set { s with resp := r.resp ++ s.resp.drop respLen, status := r.status.getD s.status }
    return r.ok

/-- `pollResp`, from its reading `start` of the clock. -/
def pollResp (io : IspIo) (panel respLen timeoutMs start : ℕ) : List ℕ → Session Bool
  | [] => readResp io panel respLen
  | now :: rest => do
    if ← readResp io panel respLen then return true
    if timeoutMs ≤ elapsed now start then return false
    pollResp io panel respLen timeoutMs start rest

/-- The frame of `pollPanelAlive`. -/
def commCheck : List UInt8 := buildMsg kCommCheckCmd ((List.range 200).map UInt8.ofNat)

/-- The confirmation a panel arms for the next transfer. -/
def confirmation : List UInt8 :=
  let masked := commCheck.getD 0 0 &&& 0x7F
  let chk := crc8Autosar (masked :: commCheck.drop 1)
  let ones := popcount masked + popcount kCommCheckCmd + popcount chk
  [masked ||| (UInt8.ofNat (ones % 2) <<< 7), kCommCheckCmd, chk]

/-- The confirmation is there, up to the slip of the return line. -/
def confirms (rx : List UInt8) : Bool :=
  ([0, 1, 2] : List UInt8).any fun bits => realigned bits 3 rx = confirmation

/-- One try of `pollPanelAlive`. -/
def probeAlive (io : IspIo) (panel : ℕ) (primed : Bool) : Session Bool := do
  modify (setSpiClockMhz kIspClockBMhz)
  return primed && (← transfer io panel commCheck).any confirms

/-- `pollPanelAlive`, from its reading `start` of the clock. -/
def pollPanelAlive (io : IspIo) (panel start : ℕ) : List ℕ → Bool → Session Bool
  | [], primed => probeAlive io panel primed
  | now :: rest, primed => do
    if ← probeAlive io panel primed then return true
    if kAliveTimeoutMs ≤ elapsed now start then return false
    pollPanelAlive io panel start rest true

/-! ### Texts -/

/-- `n` hexadecimal digits. -/
def hexDigits (n v : ℕ) : List UInt8 :=
  (List.range n).map fun i =>
    UInt8.ofNat ((Nat.digitChar (v / 16 ^ (n - 1 - i) % 16)).toUpper.toNat)

def decimal (v : ℕ) : List UInt8 := ascii (toString v)

/-- The bytes of a capture, with a blank after each. -/
def hexDump (bytes : List UInt8) : List UInt8 :=
  bytes.flatMap fun b => hexDigits 2 b.toNat ++ ascii " "

/-- `ISP_ENTER` without a reply: the panel is silent, or its reply garbled. -/
def enterFailure (resp : List UInt8) : List UInt8 :=
  if ((resp.take 19).drop 2).all (· = 0) then
    -- the dash is a character of three bytes
    ascii "ISP_ENTER: no valid reply " ++ [0xE2, 0x80, 0x94]
      ++ ascii " is the panel at this index running this ISP firmware? (also check wiring/CIPO)"
  else ascii "ISP_ENTER garbled CIPO: " ++ hexDump (resp.take 19)

/-! ### The image -/

/-- The fields of the footer. -/
structure Footer where
  imageCrc32 : ℕ
  imageSize : ℕ
  deriving DecidableEq

/-- The footer read, and where the file stands then; `verifyPanel` does not compare the sizes. -/
def readFooter (io : IspIo) (comparesSize : Bool) (content : List UInt8) :
    Except (List UInt8) (Footer × ℕ) :=
  let fileSize := content.length % 2 ^ 32
  if !io.opened then .error (ascii "no firmware on SD")
  else if fileSize ≤ firmwareFooterByteCount then .error (ascii "firmware too small")
  else
    let pos := if io.seeks 0 then fileSize - firmwareFooterByteCount else 0
    let footer := (content.drop pos).take (min firmwareFooterByteCount (io.reads 0))
    if footer.length ≠ firmwareFooterByteCount then .error (ascii "footer read failed")
    else if footer.take 7 ≠ ascii "G6PANFW" then .error (ascii "bad footer magic")
    else
      let fw : Footer := ⟨ofLe ((footer.drop 24).take 4), ofLe ((footer.drop 28).take 4)⟩
      if comparesSize ∧ fw.imageSize ≠ fileSize - firmwareFooterByteCount then
        .error (ascii "footer size mismatch")
      else .ok (fw, pos + firmwareFooterByteCount)

/-- The messages of a session. -/
def enterMsg : List UInt8 := buildMsg ispEnter enterPayload

def writePageMsg (p : ℕ) (nonce page : List UInt8) : List UInt8 :=
  buildMsg ispWritePage (toLe 3 p ++ nonce ++ page ++ toLe 4 (crc32 page).toNat)

def verifyStagedMsg (nonce : List UInt8) (fw : Footer) : List UInt8 :=
  buildMsg ispVerifyStaged (nonce ++ toLe 3 fw.imageSize ++ toLe 4 fw.imageCrc32)

def commitMsg (nonce : List UInt8) (fw : Footer) : List UInt8 :=
  buildMsg ispCommit (nonce ++ toLe 3 fw.imageSize)

def verifyCrcMsg (nonce : List UInt8) (fw : Footer) : List UInt8 :=
  buildMsg ispVerifyCrc ([0, 0, 0] ++ toLe 3 fw.imageSize ++ nonce ++ toLe 4 fw.imageCrc32)

/-! ### The phases of a session -/

/-- One try of `ISP_ENTER`. -/
def tryEnter (io : IspIo) (panel : ℕ) : Session Bool := do
  require (← sendCmd io panel enterMsg) (ascii "panel not in arena map")
  modify fun s => { s with resp := List.replicate 20 0 }
  readResp io panel 19

/-- `ISP_ENTER`, sent a second time if there is no reply. -/
def enterReply (io : IspIo) (panel : ℕ) : Session Bool := do
  if ← tryEnter io panel then return true
  tryEnter io panel

/-- `session_nonce_` taken from the reply to `ISP_ENTER`. -/
def keepNonce : Session Unit := modify fun s => { s with nonce := (s.resp.drop 1).take 4 }

/-- `ISP_ENTER`. -/
def enter (io : IspIo) (panel : ℕ) : Session Unit := do
  let replied ← enterReply io panel
  let s ← get
  require replied (enterFailure s.resp)
  require (s.status = 0) (ascii "ISP_ENTER rejected by panel (status=" ++ decimal s.status.toNat
    ++ ascii " " ++ [0xE2, 0x80, 0x94] ++ ascii " bad sentinel/token or PSRAM alloc)")
  keepNonce

/-- What is read of page `p` of the image, at `pos` of the file. -/
def readPage (io : IspIo) (content : List UInt8) (p pos want : ℕ) : List UInt8 :=
  (content.drop pos).take (min want (io.reads (p + 1)))

/-- Page `p` streamed: after the end of the image it is 0xFF. -/
def streamPage (io : IspIo) (panel : ℕ) (content : List UInt8) (p pos want : ℕ) : Session Unit := do
  let data := readPage io content p pos want
  require (data.length = want) (ascii "SD read error")
  let page := data ++ List.replicate (kPageBytes - want) 0xFF
  require (← sendCmd io panel (writePageMsg p (← get).nonce page)) (ascii "write-page send failed")
  let replied ← readResp io panel 2
  require (replied && (← get).status = 0) (ascii "ISP_WRITE_PAGE " ++ decimal p ++ ascii " failed")

/-- `n` pages streamed, from page `p` and from `pos` of the file on. -/
def streamPages (io : IspIo) (panel : ℕ) (content : List UInt8) (imageSize : ℕ) :
    ℕ → ℕ → ℕ → Session Unit
  | 0, _, _ => pure ()
  | n + 1, p, pos => do
    let want := min (imageSize - p * kPageBytes) kPageBytes
    streamPage io panel content p pos want
    streamPages io panel content imageSize n (p + 1) (pos + want)

/-- `ISP_VERIFY_STAGED`. -/
def verifyStaged (io : IspIo) (panel : ℕ) (fw : Footer) : Session Unit := do
  require (← sendCmd io panel (verifyStagedMsg (← get).nonce fw)) (ascii "verify-staged send failed")
  let got ← pollResp io panel 6 kVerifyTimeoutMs (io.start 0) (io.polls 0)
  let s ← get
  require got (ascii "verify-staged garbled CIPO: " ++ hexDump (s.resp.take 6))
  require (s.status = 0) (ascii "staged CRC mismatch: panel=0x"
    ++ hexDigits 8 (ofLe ((s.resp.drop 1).take 4)) ++ ascii " expected=0x" ++ hexDigits 8 fw.imageCrc32
    ++ ascii " (len=" ++ decimal fw.imageSize ++ ascii ")")

/-- `ISP_COMMIT`. -/
def commit (io : IspIo) (panel : ℕ) (fw : Footer) : Session Unit := do
  require (← sendCmd io panel (commitMsg (← get).nonce fw)) (ascii "commit send failed")
  let got ← pollResp io panel 2 kCommitTimeoutMs (io.start 1) (io.polls 1)
  let s ← get
  require got
    (ascii "commit: no receipt within 15 s; run g6-verify-panel to check whether the flash took")
  require (s.status ≠ 8) (ascii "commit: OTA staging failed on panel (LittleFS/space?)")
  require (s.status = 0) (ascii "commit rejected (status " ++ decimal s.status.toNat ++ ascii ")")

/-- The panel back after its reboot. -/
def awaitReboot (io : IspIo) (panel : ℕ) : Session Unit := do
  require (← pollPanelAlive io panel (io.start 2) (io.polls 2) false) (ascii
    "panel did not come back within 12 s after OTA reboot; check power/wiring, then g6-verify-panel")

/-- How many pages an image has, in 32 bits. -/
def pageCount (imageSize : ℕ) : ℕ := (imageSize + kPageBytes - 1) % 2 ^ 32 / kPageBytes

/-- The text of a session that succeeds. -/
def flashedText (io : IspIo) (panel : ℕ) (fw : Footer) : List UInt8 :=
  let span k := decimal (elapsed (io.ms (k + 1)) (io.ms k))
  ascii "panel " ++ decimal (panel + 1) ++ ascii " flashed via OTA (" ++ decimal fw.imageSize
    ++ ascii " bytes) in " ++ decimal (elapsed (io.ms 10) (io.ms 0) / 1000) ++ ascii "."
    ++ decimal (elapsed (io.ms 11) (io.ms 0) % 1000 / 100) ++ ascii " s (stream " ++ span 2
    ++ ascii " + verify " ++ span 4 ++ ascii " + commit " ++ span 6 ++ ascii " + boot " ++ span 8
    ++ ascii " ms, " ++ decimal (pageCount fw.imageSize) ++ ascii " pages)"

/-- The session of `programPanel`, on an image that is in order. -/
def program (io : IspIo) (panel : ℕ) (content : List UInt8) (fw : Footer) (pos : ℕ) :
    Session (List UInt8) := do
  enter io panel
  streamPages io panel content fw.imageSize (pageCount fw.imageSize) 0 (if io.seeks 1 then 0 else pos)
  verifyStaged io panel fw
  commit io panel fw
  awaitReboot io panel
  return flashedText io panel fw

/-- The session of `verifyPanel`. -/
def verify (io : IspIo) (panel : ℕ) (fw : Footer) : Session (Bool × List UInt8) := do
  let replied ← enterReply io panel
  require (replied && (← get).status = 0)
    (ascii "ISP_ENTER: no valid reply (is the panel running this ISP firmware?)")
  keepNonce
  require (← sendCmd io panel (verifyCrcMsg (← get).nonce fw)) (ascii "verify-crc send failed")
  let got ← pollResp io panel 6 kVerifyTimeoutMs (io.start 0) (io.polls 0)
  require got (ascii "verify-crc: no/garbled reply")
  let s ← get
  return (s.status = 0,
    ascii "panel " ++ decimal (panel + 1) ++ ascii " running-app CRC=0x"
      ++ hexDigits 8 (ofLe ((s.resp.drop 1).take 4)) ++ ascii " expected=0x"
      ++ hexDigits 8 fw.imageCrc32 ++ ascii " -> "
      ++ ascii (if s.status = 0 then "MATCH (this firmware is installed)"
        else "MISMATCH (a different firmware is running)"))

/-! ### The two calls -/

/-- The result of a call: what it returns, and its text. -/
structure Outcome where
  ok : Bool
  msg : List UInt8
  deriving DecidableEq

/-- The clock saved and set for a session, and restored after it. -/
def keepingClock {α : Type} (m : Session α) (s : State) : Except (List UInt8) α × State :=
  let out := m.run (setSpiClockMhz kIspClockBMhz { s with status := 0xFF })
  (out.1, setSpiClockMhz s.mhz out.2)

/-- `programPanel`, on a buffer of `msgLen` bytes for the text. -/
def programPanel (io : IspIo) (panel : ℕ) (content : List UInt8) (msgLen : ℕ) (s : State) :
    Outcome × State :=
  match readFooter io true content with
  | .error text => (⟨false, text.take (msgLen - 1)⟩, s)
  | .ok (fw, pos) =>
    match keepingClock (program io panel content fw pos) s with
    | (.ok text, s) => (⟨true, text.take (msgLen - 1)⟩, s)
    | (.error text, s) => (⟨false, text.take (msgLen - 1)⟩, s)

/-- `verifyPanel`, on a buffer of `msgLen` bytes for the text. -/
def verifyPanel (io : IspIo) (panel : ℕ) (content : List UInt8) (msgLen : ℕ) (s : State) :
    Outcome × State :=
  match readFooter io false content with
  | .error text => (⟨false, text.take (msgLen - 1)⟩, s)
  | .ok (fw, _) =>
    match keepingClock (verify io panel fw) s with
    | (.ok (ok, text), s) => (⟨ok, text.take (msgLen - 1)⟩, s)
    | (.error text, s) => (⟨false, text.take (msgLen - 1)⟩, s)

end

end Isp
end Panel
end G6Arena
