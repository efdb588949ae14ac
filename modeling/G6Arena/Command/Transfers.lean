/-
# Transfers

The three bulk transfers `CommandProcessor` runs a chunk at a time from `loop()`: a
download (0x84), an upload (0x85) and an archive (0x8A), each owned by the source that
asked for it.  A transfer that is not active is `none`: its fields are set anew
when it starts.
-/

import G6Arena.Command.Display

namespace G6Arena
namespace Command

open ByteMem Link
open Sd (Card Entry FileId Path Store)

/-! ### State -/

structure Download where
  file : FileId
  /-- how far the file has been read -/
  pos : ℕ
  source : Transport
  idx : ℕ
  remaining : ℕ
  deadline : ℕ
  deriving DecidableEq

inductive UploadPhase
  | writing
  | draining
  deriving DecidableEq

structure Upload where
  path : Path
  file : FileId
  source : Transport
  idx : ℕ
  remaining : ℕ
  total : ℕ
  deadline : ℕ
  drainDeadline : ℕ
  startMs : ℕ
  phase : UploadPhase
  failStatus : UInt8
  failMsg : List UInt8
  deriving DecidableEq

/-- `ZipEntry`. -/
structure ZipEntry where
  zipName : List UInt8
  path : Path
  fileSize : ℕ
  crc32 : UInt32
  lhfOffset : ℕ
  deriving DecidableEq

inductive ArchivePhase
  | localHeader
  | fileData
  | dataDescriptor
  | centralDir
  | eocd
  deriving DecidableEq

structure Archive where
  entries : List ZipEntry
  entryIdx : ℕ
  phase : ArchivePhase
  /-- the open file, and how far it has been read -/
  file : Option (FileId × ℕ)
  fileRemaining : ℕ
  crc : UInt32
  cdOffset : ℕ
  cdSize : ℕ
  source : Transport
  deadline : ℕ
  deriving DecidableEq

structure Transfers where
  dl : Option Download
  ul : Option Upload
  ar : Option Archive
  deriving DecidableEq

namespace Transfers

def none : Transfers := ⟨.none, .none, .none⟩

/-- `dl_active_ || ul_active_ || ar_active_`. -/
def active (x : Transfers) : Bool := x.dl.isSome || x.ul.isSome || x.ar.isSome

/-- Does a source own a transfer? -/
def owns (x : Transfers) (t : Transport) : Bool :=
  x.dl.any (·.source = t) || x.ul.any (·.source = t) || x.ar.any (·.source = t)

/-- `patternBusy`. -/
def patternBusy (x : Transfers) (idx : ℕ) : Bool :=
  x.dl.any (·.idx = idx) || x.ul.any (·.idx = idx)

end Transfers

/-- The controller: the command processor over its card and its two sources.
`halted` is after a reset that does not return. -/
structure Controller where
  display : Display
  store : Store
  transfers : Transfers
  source : Transport → Source
  halted : Bool

namespace Controller

/-- One source changed. -/
def onSource (t : Transport) (f : Source → Source) (c : Controller) : Controller :=
  { c with source := Function.update c.source t (f (c.source t)) }

/-- A reply on a source. -/
def respond (t : Transport) (command status : UInt8) (payload : List UInt8) (c : Controller) :
    Controller :=
  c.onSource t (·.sendResponse ⟨command, status, payload⟩)

def withCard (card : Card) (c : Controller) : Controller := { c with store := { c.store with card := card } }

def withDl (dl : Option Download) (c : Controller) : Controller :=
  { c with transfers := { c.transfers with dl := dl } }

def withUl (ul : Option Upload) (c : Controller) : Controller :=
  { c with transfers := { c.transfers with ul := ul } }

def withAr (ar : Option Archive) (c : Controller) : Controller :=
  { c with transfers := { c.transfers with ar := ar } }

section

variable (c : Controller) (t : Transport) (f : Source → Source) (card : Card)

@[simp] theorem onSource_display : (c.onSource t f).display = c.display := rfl
@[simp] theorem onSource_store : (c.onSource t f).store = c.store := rfl
@[simp] theorem onSource_transfers : (c.onSource t f).transfers = c.transfers := rfl
@[simp] theorem onSource_halted : (c.onSource t f).halted = c.halted := rfl

@[simp] theorem onSource_self : (c.onSource t f).source t = f (c.source t) := Function.update_self ..

theorem onSource_of_ne {u : Transport} (h : u ≠ t) : (c.onSource t f).source u = c.source u :=
  Function.update_of_ne h ..

@[simp] theorem withCard_display : (c.withCard card).display = c.display := rfl
@[simp] theorem withCard_sd : (c.withCard card).store.sd = c.store.sd := rfl
@[simp] theorem withCard_card : (c.withCard card).store.card = card := rfl
@[simp] theorem withCard_transfers : (c.withCard card).transfers = c.transfers := rfl
@[simp] theorem withCard_source : (c.withCard card).source = c.source := rfl
@[simp] theorem withCard_halted : (c.withCard card).halted = c.halted := rfl

@[simp] theorem withDl_display (dl : Option Download) : (c.withDl dl).display = c.display := rfl
@[simp] theorem withDl_store (dl : Option Download) : (c.withDl dl).store = c.store := rfl
@[simp] theorem withDl_transfers (dl : Option Download) :
    (c.withDl dl).transfers = { c.transfers with dl := dl } := rfl
@[simp] theorem withDl_source (dl : Option Download) : (c.withDl dl).source = c.source := rfl
@[simp] theorem withDl_halted (dl : Option Download) : (c.withDl dl).halted = c.halted := rfl

@[simp] theorem withUl_display (ul : Option Upload) : (c.withUl ul).display = c.display := rfl
@[simp] theorem withUl_store (ul : Option Upload) : (c.withUl ul).store = c.store := rfl
@[simp] theorem withUl_transfers (ul : Option Upload) :
    (c.withUl ul).transfers = { c.transfers with ul := ul } := rfl
@[simp] theorem withUl_source (ul : Option Upload) : (c.withUl ul).source = c.source := rfl
@[simp] theorem withUl_halted (ul : Option Upload) : (c.withUl ul).halted = c.halted := rfl

@[simp] theorem withAr_display (ar : Option Archive) : (c.withAr ar).display = c.display := rfl
@[simp] theorem withAr_store (ar : Option Archive) : (c.withAr ar).store = c.store := rfl
@[simp] theorem withAr_transfers (ar : Option Archive) :
    (c.withAr ar).transfers = { c.transfers with ar := ar } := rfl
@[simp] theorem withAr_source (ar : Option Archive) : (c.withAr ar).source = c.source := rfl
@[simp] theorem withAr_halted (ar : Option Archive) : (c.withAr ar).halted = c.halted := rfl

end

/-! ### Download -/

def chunkBytes : ℕ := 4096
def kDownloadIdleTimeoutMs : ℕ := 60000

/-- `serviceDownload`, on an active download. -/
def downloadStep (env : Env) (dl : Download) (c : Controller) : Controller :=
  if Link.due (env.millis 0) dl.deadline then c.withDl none
  else if dl.remaining = 0 then c.withDl none
  else
    let chunk := c.store.card.read (env.sd.cap (.read 0)) dl.file dl.pos (min dl.remaining chunkBytes)
    if chunk = [] then c.withDl none
    else
      let (source, sent) := (c.source dl.source).sendRaw dl.source env.tx chunk
      let c := c.onSource dl.source fun _ => source
      let dl := { dl with remaining := dl.remaining - sent, pos := dl.pos + chunk.length }
      if sent < chunk.length then c.withDl none
      else
        let dl := { dl with deadline := (env.millis 1 + kDownloadIdleTimeoutMs) % 2 ^ 32 }
        if dl.remaining = 0 then c.withDl none else c.withDl (some dl)

/-- `serviceDownload`. -/
def serviceDownload (env : Env) (c : Controller) : Controller :=
  match c.transfers.dl with
  | none => c
  | some dl => c.downloadStep env dl

/-! ### Upload -/

def kUploadIdleTimeoutMs : ℕ := 30000
def kUploadDrainTimeoutMs : ℕ := 5000

/-- An upload given up: its file is removed, and the rest of it is to be drained. -/
def failUpload (env : Env) (msg : List UInt8) (ul : Upload) (c : Controller) : Upload × Controller :=
  ({ ul with
      failStatus := 1
      failMsg := msg
      phase := .draining
      drainDeadline := (env.millis 1 + kUploadDrainTimeoutMs) % 2 ^ 32 },
    c.withCard (c.store.card.remove (env.sd.ok (.discard ul.path)) ul.path).1)

/-- The reply to an upload, and its end. -/
def finishUpload (ul : Upload) (status : UInt8) (msg : List UInt8) (c : Controller) : Controller :=
  ((c.respond ul.source setPatternFileCmd status msg).withUl none).onSource ul.source
    (·.commandConsumed)

/-- A chunk of an upload written to its file. -/
def writeChunk (env : Env) (chunk : List UInt8) (ul : Upload) (c : Controller) :
    Upload × Controller :=
  let written := chunk.take (env.sd.cap (.write ul.path 0))
  let c := c.withCard (c.store.card.append ul.file written)
  if written.length ≠ chunk.length then
    c.failUpload env (ascii "SD write error (card full?)") ul
  else (ul, c)

section

variable [Board]

/-- `serviceUpload`, once there is a chunk. -/
def takeChunk (env : Env) (chunk : List UInt8) (ul : Upload) (c : Controller) : Controller :=
  let (ul, c) := if ul.phase = .writing then c.writeChunk env chunk ul else (ul, c)
  let ul := { ul with remaining := ul.remaining - chunk.length }
  let ul :=
    if ul.phase = .writing then
      { ul with deadline := (env.millis 2 + kUploadIdleTimeoutMs) % 2 ^ 32 }
    else ul
  if ul.remaining = 0 then
    match ul.phase with
    | .draining => c.finishUpload ul ul.failStatus ul.failMsg
    | .writing => c.finishUpload ul 0 []
  else c.withUl (some ul)

/-- `serviceUpload`, past its timeouts. -/
def readChunk (env : Env) (ul : Upload) (c : Controller) : Controller :=
  let (source, chunk) :=
    (c.source ul.source).readBulkBytes ul.source env.cap (min ul.remaining chunkBytes)
  let c := c.onSource ul.source fun _ => source
  if chunk = [] then c else c.takeChunk env chunk ul

/-- `serviceUpload`, on an active upload. -/
def uploadStep (env : Env) (ul : Upload) (c : Controller) : Controller :=
  match ul.phase with
  | .writing =>
    if Link.due (env.millis 0) ul.deadline then
      let (ul, c) := c.failUpload env (ascii "Upload timeout") ul
      c.withUl (some ul)
    else c.readChunk env ul
  | .draining =>
    if Link.due (env.millis 0) ul.drainDeadline then c.finishUpload ul ul.failStatus ul.failMsg
    else c.readChunk env ul

/-- `serviceUpload`. -/
def serviceUpload (env : Env) (c : Controller) : Controller :=
  match c.transfers.ul with
  | none => c
  | some ul => c.uploadStep env ul

end

/-- `abortUpload`. -/
def abortUpload (env : Env) (ul : Upload) (c : Controller) : Controller :=
  ((c.withCard (c.store.card.remove (env.sd.ok (.discard ul.path)) ul.path).1).withUl none).onSource
    ul.source (·.commandConsumed)

end Controller

/-! ### Archive -/

def kArchiveMaxEntries : ℕ := 258
def kArchiveIdleTimeoutMs : ℕ := 60000

namespace ZipEntry

/-- The local file header. -/
def localHeader (e : ZipEntry) : List UInt8 :=
  [0x50, 0x4B, 0x03, 0x04, 20, 0, 0x08, 0] ++ List.replicate 18 0
    ++ [UInt8.ofNat e.zipName.length, 0, 0, 0] ++ e.zipName

/-- The data descriptor. -/
def dataDescriptor (e : ZipEntry) : List UInt8 :=
  [0x50, 0x4B, 0x07, 0x08] ++ toLe 4 e.crc32.toNat ++ toLe 4 e.fileSize ++ toLe 4 e.fileSize

/-- The record in the central directory. -/
def centralRecord (e : ZipEntry) : List UInt8 :=
  [0x50, 0x4B, 0x01, 0x02, 20, 0, 20, 0, 0x08, 0] ++ List.replicate 6 0
    ++ toLe 4 e.crc32.toNat ++ toLe 4 e.fileSize ++ toLe 4 e.fileSize
    ++ [UInt8.ofNat e.zipName.length, 0] ++ List.replicate 12 0 ++ toLe 4 e.lhfOffset ++ e.zipName

end ZipEntry

/-- The end of the central directory. -/
def eocdRecord (count cdSize cdOffset : ℕ) : List UInt8 :=
  [0x50, 0x4B, 0x05, 0x06, 0, 0, 0, 0] ++ toLe 2 count ++ toLe 2 count ++ toLe 4 cdSize
    ++ toLe 4 cdOffset ++ [0, 0]

/-- The entry of a file, if it can be opened. -/
def zipEntryOf (ok : Bool) (card : Card) (zipName : List UInt8) (path : Path) : Option ZipEntry :=
  (card.openRead ok path).map fun id => {
    zipName := zipName
    path := path
    fileSize := (card.content id).length % 2 ^ 32
    crc32 := 0
    lhfOffset := 0 }

/-- The files `handleGetSdArchive` collects; each is opened once, with an outcome of its own. -/
def collectEntries (env : Env) (store : Store) : List ZipEntry :=
  let root := [(ascii "MANIFEST.bin", Path.manifestBin), (ascii "MANIFEST.txt", Path.manifestTxt)]
  let patterns := store.sd.patterns.map fun entry => (ascii "patterns/" ++ entry.name, entry.path)
  ((root ++ patterns).zipIdx.filterMap fun ((name, path), i) =>
    zipEntryOf (env.sd.ok (.exists i)) store.card name path).take kArchiveMaxEntries

/-- The local header offsets, from an offset on. -/
def placeEntries : ℕ → List ZipEntry → List ZipEntry
  | _, [] => []
  | offset, e :: rest =>
    { e with lhfOffset := offset }
      :: placeEntries ((offset + (30 + e.zipName.length + e.fileSize + 16)) % 2 ^ 32) rest

/-- The bytes of the entries, up to the central directory. -/
def cdOffsetOf (entries : List ZipEntry) : ℕ :=
  (entries.map fun e => 30 + e.zipName.length + e.fileSize + 16).sum % 2 ^ 32

/-- The bytes of the central directory. -/
def cdSizeOf (entries : List ZipEntry) : ℕ := (entries.map fun e => 46 + e.zipName.length).sum % 2 ^ 32

namespace Controller

/-- A step of the archive that sends `bytes` and goes on with `next`. -/
def archiveSend (env : Env) (ar : Archive) (bytes : List UInt8) (next : Archive) (c : Controller) :
    Controller :=
  let (source, sent) := (c.source ar.source).sendRaw ar.source env.tx bytes
  let c := c.onSource ar.source fun _ => source
  if sent < bytes.length then c.withAr none else c.withAr (some next)

/-- `serviceArchive` in `kFileData`, with bytes left. -/
def archiveData (env : Env) (ar : Archive) (c : Controller) : Controller :=
  let want := min ar.fileRemaining chunkBytes
  let deadline := (env.millis 1 + kArchiveIdleTimeoutMs) % 2 ^ 32
  let send (data : List UInt8) (file : Option (FileId × ℕ)) :=
    c.archiveSend env ar data { ar with
      crc := Panel.crc32Update ar.crc data
      file := file
      fileRemaining := ar.fileRemaining - data.length
      deadline := deadline }
  match ar.file with
  | some (id, pos) =>
    let data := c.store.card.read (env.sd.cap (.read 0)) id pos want
    if data ≠ [] then send data (some (id, pos + data.length)) else send (List.replicate want 0) none
  | none => send (List.replicate want 0) none

/-- `serviceArchive`, on an active archive. -/
def archiveStep (env : Env) (ar : Archive) (c : Controller) : Controller :=
  let deadline := (env.millis 1 + kArchiveIdleTimeoutMs) % 2 ^ 32
  if Link.due (env.millis 0) ar.deadline then c.withAr none
  else
    match ar.phase, ar.entries[ar.entryIdx]? with
    | .localHeader, some e =>
      c.archiveSend env ar e.localHeader { ar with
        crc := 0xFFFFFFFF
        fileRemaining := e.fileSize
        file := (c.store.card.openRead (env.sd.ok .openRead) e.path).map (·, 0)
        phase := .fileData
        deadline := deadline }
    | .fileData, some e =>
      if ar.fileRemaining = 0 then
        c.withAr (some { ar with
          file := none
          entries := ar.entries.set ar.entryIdx { e with crc32 := ar.crc ^^^ 0xFFFFFFFF }
          phase := .dataDescriptor })
      else c.archiveData env ar
    | .dataDescriptor, some e =>
      c.archiveSend env ar e.dataDescriptor { ar with
        entryIdx := if ar.entryIdx + 1 < ar.entries.length then ar.entryIdx + 1 else 0
        phase := if ar.entryIdx + 1 < ar.entries.length then .localHeader else .centralDir
        deadline := deadline }
    | .centralDir, some e =>
      c.archiveSend env ar e.centralRecord { ar with
        entryIdx := ar.entryIdx + 1
        phase := if ar.entries.length ≤ ar.entryIdx + 1 then .eocd else .centralDir
        deadline := deadline }
    | .eocd, _ =>
      let (source, _) := (c.source ar.source).sendRaw ar.source env.tx
        (eocdRecord ar.entries.length ar.cdSize ar.cdOffset)
      (c.onSource ar.source fun _ => source).withAr none
    | _, none => c.withAr none

/-- `serviceArchive`. -/
def serviceArchive (env : Env) (c : Controller) : Controller :=
  match c.transfers.ar with
  | none => c
  | some ar => c.archiveStep env ar

/-! ### Disconnects -/

/-- `serviceDisconnects`, for each transfer. -/
def disconnectDownload (c : Controller) : Controller :=
  match c.transfers.dl with
  | some dl => if (c.source dl.source).isConnected dl.source then c else c.withDl none
  | none => c

def disconnectUpload (env : Env) (c : Controller) : Controller :=
  match c.transfers.ul with
  | some ul => if (c.source ul.source).isConnected ul.source then c else c.abortUpload env ul
  | none => c

def disconnectArchive (c : Controller) : Controller :=
  match c.transfers.ar with
  | some ar => if (c.source ar.source).isConnected ar.source then c else c.withAr none
  | none => c

/-- `serviceDisconnects`. -/
def serviceDisconnects (env : Env) (c : Controller) : Controller :=
  (c.disconnectDownload.disconnectUpload env).disconnectArchive

end Controller
end Command
end G6Arena
