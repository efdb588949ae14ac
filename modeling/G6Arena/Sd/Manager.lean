/-
# The pattern store

`SdManager`: the patterns in `/patterns` sorted by name and addressed by a 1-based
id, the one pattern the display has open, and the manifest files rewritten after each
change of the list.

`names_` and `origin_names_` are the two fields of a list of entries, and `file_`
keeps naming the file it was opened on when it is closed: `fileOpen` says whether it
can be read.  Times of the phases of a read are not kept.
-/

import G6Arena.Board
import G6Arena.Lib.ByteMem
import G6Arena.Lib.SortedInsert
import G6Arena.Panel.Crc
import G6Arena.Panel.Protocol
import G6Arena.Sd.Card
import Mathlib.Data.List.Lex

namespace G6Arena
namespace Sd

open ByteMem

/-- `ControllerError`. -/
inductive ControllerError
  | ceNone
  | ceUnknownCmd
  | ceBadPayloadLen
  | ceBadParam
  | ceSdNotPresent
  | ceSdFileError
  | ceHeaderCrc
  | ceFrameCrc
  | ceArenaMismatch
  | ceManifestWriteError
  | ceDisplayActive
  | ceSdFormatError
  deriving DecidableEq

/-- The byte of an error, the status of a reply. -/
def ControllerError.toByte : ControllerError → UInt8
  | ceNone => 0
  | ceUnknownCmd => 1
  | ceBadPayloadLen => 2
  | ceBadParam => 3
  | ceSdNotPresent => 4
  | ceSdFileError => 5
  | ceHeaderCrc => 6
  | ceFrameCrc => 7
  | ceArenaMismatch => 8
  | ceManifestWriteError => 9
  | ceDisplayActive => 10
  | ceSdFormatError => 11

open ControllerError

/-! ### Names -/

def patternMaxCount : ℕ := 256
def patternNameByteCount : ℕ := 64

/-- `"pattern.temp"`, the staging file. -/
def patternTempName : Name :=
  [0x70, 0x61, 0x74, 0x74, 0x65, 0x72, 0x6E, 0x2E, 0x74, 0x65, 0x6D, 0x70]

/-- What `strcmp` compares. -/
def nameKey (name : Name) : List ℕ := name.map UInt8.toNat

/-- `hasPatExtension`. -/
def hasPatExtension (name : Name) : Bool :=
  match name.drop (name.length - 4) with
  | [dot, p, a, t] =>
    dot = 0x2E && (p = 0x70 || p = 0x50) && (a = 0x61 || a = 0x41) && (t = 0x74 || t = 0x54)
  | _ => false

/-- The bytes of a buffer up to its first NUL. -/
def cstr (bytes : List UInt8) : Name := bytes.takeWhile (· ≠ 0)

/-- `"X%03u_%s"` as it fits the buffer of a name, for `n` below 1000. -/
def numbered (n : ℕ) (name : Name) : Name :=
  (0x58 :: UInt8.ofNat (0x30 + n / 100) :: UInt8.ofNat (0x30 + n / 10 % 10)
    :: UInt8.ofNat (0x30 + n % 10) :: 0x5F :: name).take (patternNameByteCount - 1)

/-! ### Pattern headers -/

def patternHeaderByteCount : ℕ := 18
def patternFramePrefixByteCount : ℕ := 4
def patternFrameCrcByteCount : ℕ := 2
def patternFormatVersion : UInt8 := 2
def arenaPanelCountMax : ℕ := 48

structure PatternInfo where
  frameCount : ℕ
  rowCount : ℕ
  colCount : ℕ
  gsVal : UInt8
  blockSize : ℕ
  numPanels : ℕ
  frameSize : ℕ
  deriving DecidableEq

/-- `info_` before any pattern was opened. -/
def PatternInfo.none : PatternInfo := ⟨0, 0, 0, 0, 0, 0, 0⟩

/-- `le16`. -/
def le16 (bytes : List UInt8) (off : ℕ) : ℕ :=
  (bytes.getD off 0).toNat + 256 * (bytes.getD (off + 1) 0).toNat

/-- `validateHeaderBytes`, on a header of 18 bytes. -/
def validateHeaderBytes (hdr : List UInt8) : ControllerError :=
  if hdr.take 4 ≠ [0x47, 0x36, 0x50, 0x54] then ceHeaderCrc
  else if hdr.getD 4 0 >>> 4 ≠ patternFormatVersion then ceHeaderCrc
  else if Panel.crc8Autosar (hdr.take (patternHeaderByteCount - 1))
      ≠ hdr.getD (patternHeaderByteCount - 1) 0 then ceHeaderCrc
  else if le16 hdr 6 = 0 then ceHeaderCrc
  else if hdr.getD 10 0 ≠ 1 ∧ hdr.getD 10 0 ≠ 2 then ceHeaderCrc
  else ceNone

/-- The block size of a `gs_val`. -/
def blockSizeOf (gs : UInt8) : ℕ :=
  if gs = 1 then panelBlockByteCountGs2 else panelBlockByteCountGs16

section

variable [Board]

/-- `validateHeader`: the `info_` it fills in. -/
def validateHeader (hdr : List UInt8) : Except ControllerError PatternInfo :=
  let err := validateHeaderBytes hdr
  if err ≠ ceNone then .error err
  else
    let row := (hdr.getD 8 0).toNat
    let col := (hdr.getD 9 0).toNat
    let numPanels := row * col
    if numPanels = 0 ∨ arenaPanelCountMax < numPanels then .error ceArenaMismatch
    else if numPanels < ((hdr.drop 11).take 6 |>.map Panel.popcount).sum then .error ceArenaMismatch
    else if row ≠ panelCountPerFrameRow ∨ col ≠ panelCountPerFrameCol then .error ceArenaMismatch
    else
      let gs := hdr.getD 10 0
      .ok {
        frameCount := le16 hdr 6
        rowCount := row
        colCount := col
        gsVal := gs
        blockSize := blockSizeOf gs
        numPanels := numPanels
        frameSize := patternFramePrefixByteCount + numPanels * blockSizeOf gs
          + patternFrameCrcByteCount }

end

/-! ### The store -/

structure Entry where
  name : Name
  origin : Name
  deriving DecidableEq

/-- The path of a listed pattern. -/
def Entry.path (entry : Entry) : Path := .pattern entry.name

def Entry.key (entry : Entry) : List ℕ := nameKey entry.name

structure SdManager where
  mounted : Bool
  patterns : List Entry
  file : Option FileId
  fileOpen : Bool
  contiguous : Bool
  legacySeek : Bool
  appliedLegacySeek : Bool
  openId : ℕ
  info : PatternInfo

/-- The card and the `SdManager` over it. -/
structure Store where
  card : Card
  sd : SdManager

namespace SdManager

/-- `SdManager` before `begin`. -/
def reset : SdManager := {
  mounted := false
  patterns := []
  file := none
  fileOpen := false
  contiguous := false
  legacySeek := false
  appliedLegacySeek := false
  openId := 0
  info := .none }

/-- `patternCount`. -/
def patternCount (sd : SdManager) : ℕ := sd.patterns.length

/-- The file `readFrame` reads. -/
def openFile (sd : SdManager) : Option FileId := if sd.fileOpen then sd.file else none

/-- `patternName` and `patternOrigin`. -/
def pattern? (sd : SdManager) (patternId : ℕ) : Option Entry :=
  if patternId = 0 then none else sd.patterns[patternId - 1]?

/-- `insertSorted`. -/
def insertSorted (sd : SdManager) (entry : Entry) : SdManager :=
  if patternMaxCount ≤ sd.patternCount then sd
  else { sd with patterns := SortedInsert.insert Entry.key entry sd.patterns }

/-- `removeAt`, of the pattern with this id. -/
def removeAt (sd : SdManager) (patternId : ℕ) : SdManager :=
  if patternId = 0 then sd else { sd with patterns := sd.patterns.eraseIdx (patternId - 1) }

/-- The handle closed if it is the one of this id. -/
def closeIf (sd : SdManager) (patternId : ℕ) : SdManager :=
  if patternId ≠ 0 ∧ sd.fileOpen ∧ sd.openId = patternId then { sd with fileOpen := false } else sd

/-- What a delete or a rename is about: `pattern.temp` has id 0. -/
def target (sd : SdManager) (patternId : ℕ) : Option Entry :=
  if patternId = 0 then some ⟨patternTempName, []⟩ else sd.pattern? patternId

/-- `scanPatterns`, on the names `openNextFile` walks through. -/
def scanPatterns (sd : SdManager) (listing : List Name) : SdManager :=
  listing.foldl (fun sd name =>
    if name.head? ≠ some 0x2E ∧ hasPatExtension name ∧ name.length < patternNameByteCount then
      sd.insertSorted ⟨name, name⟩
    else sd) sd

end SdManager

/-! ### The name of a rename -/

/-- The search of a rename for a free name, with `n` prefixes left to try. -/
def freeName (io : SdIo) (newName : Name) (c : Card) : ℕ → Name → Name
  | 0, candidate => candidate
  | n + 1, candidate =>
    if c.exists_ (io.ok (.exists (999 - n))) (.pattern candidate) then
      freeName io newName c n (numbered (999 - n) newName)
    else candidate

/-- The name a rename to `newName` gives. -/
def candidateName (io : SdIo) (newName : Name) (c : Card) : Name :=
  freeName io newName c 999 (newName.take (patternNameByteCount - 1))

/-! ### The manifest -/

/-- `patternSetId`: FNV-1a over the names, a newline after each. -/
def patternSetId (patterns : List Entry) : UInt32 :=
  (patterns.flatMap fun entry => entry.name ++ [0x0A]).foldl
    (fun h b => (h ^^^ b.toUInt32) * 16777619) 2166136261

/-- `%08X`. -/
def hex8 (v : UInt32) : List UInt8 :=
  (List.range 8).map fun i => UInt8.ofNat
    ((Nat.digitChar (v.toNat / 16 ^ (7 - i) % 16)).toUpper.toNat)

/-- The prints of `MANIFEST.bin` and `MANIFEST.txt`, each with whether all of it has to be
written for the next one to be tried. -/
def manifestBin (patterns : List Entry) : List (Bool × List UInt8) :=
  [(true, toLe 2 patterns.length ++ [0, 0, 0, 0])]

def manifestTxt (patterns : List Entry) : List (Bool × List UInt8) :=
  [(false, ascii "Timestamp: 0\r\n"),
    (false, ascii "Pattern Count: " ++ ascii (toString patterns.length) ++ ascii "\r\n"),
    (false, ascii "Pattern Set ID: " ++ hex8 (patternSetId patterns) ++ ascii "\r\n"),
    (false, ascii "\r\n"),
    (false, ascii "Mapping:\r\n")]
  ++ patterns.map fun entry => (true, entry.name ++ ascii " <- " ++ entry.origin ++ ascii "\r\n")

/-- The prints into an open file, from the `n`-th on, up to one that fails. -/
def writeLines (io : SdIo) (p : Path) (id : FileId) :
    ℕ → List (Bool × List UInt8) → Card → Card × Bool
  | _, [], c => (c, true)
  | n, (whole, line) :: rest, c =>
    let sent := line.take (io.cap (.write p n))
    if if whole then sent.length = line.length else 0 < sent.length then
      writeLines io p id (n + 1) rest (c.append id sent)
    else (c.append id sent, false)

/-- One of the manifest's files written anew, and removed if that fails. -/
def rewrite (io : SdIo) (p : Path) (lines : List (Bool × List UInt8)) (c : Card) : Card × Bool :=
  let c := (c.remove (io.ok (.remove p)) p).1
  match c.openWrite (io.ok (.openWrite p)) p with
  | (c, none) => (c, false)
  | (c, some id) =>
    match writeLines io p id 0 lines c with
    | (c, true) => (c, true)
    | (c, false) => ((c.remove (io.ok (.discard p)) p).1, false)

/-- `writeManifest`, once mounted. -/
def writeManifest (io : SdIo) (patterns : List Entry) (c : Card) : Card × Bool :=
  match rewrite io .manifestBin (manifestBin patterns) c with
  | (c, false) => (c, false)
  | (c, true) => rewrite io .manifestTxt (manifestTxt patterns) c

namespace Store

/-- A card under an `SdManager` just powered on. -/
def powerOn (card : Card) : Store := ⟨card, .reset⟩

/-- `begin`. -/
def begin_ (io : SdIo) (s : Store) : Store :=
  let sd := { s.sd with mounted := io.ok .mount, patterns := [] }
  if sd.mounted then
    let sd := sd.scanPatterns io.listing
    ⟨(writeManifest io sd.patterns s.card).1, sd⟩
  else { s with sd := sd }

/-- The reply to a change of the list once the manifest is written. -/
def finish (io : SdIo) (sd : SdManager) (card : Card) : Store × ControllerError :=
  match writeManifest io sd.patterns card with
  | (card, true) => (⟨card, sd⟩, ceNone)
  | (card, false) => (⟨card, sd⟩, ceManifestWriteError)

/-- `deletePattern`. -/
def deletePattern (io : SdIo) (patternId : ℕ) (s : Store) : Store × ControllerError :=
  if !s.sd.mounted then (s, ceSdNotPresent)
  else if patternId = 0 ∧ !s.card.exists_ (io.ok (.exists 0)) (.pattern patternTempName) then
    (s, ceBadParam)
  else
    match s.sd.target patternId with
    | none => (s, ceBadParam)
    | some entry =>
      let sd := s.sd.closeIf patternId
      match s.card.remove (io.ok (.remove entry.path)) entry.path with
      | (card, false) => (⟨card, sd⟩, ceSdFileError)
      | (card, true) => finish io (sd.removeAt patternId) card

/-- `purgeMemory`. -/
def purgeMemory (io : SdIo) (s : Store) : Store × ControllerError :=
  if !s.sd.mounted then (s, ceSdNotPresent)
  else
    let sd := { s.sd with fileOpen := false }
    match s.card.format io with
    | (card, false) => (⟨card, sd⟩, ceSdFormatError)
    | (card, true) => finish io { sd with patterns := [] } card

/-- `renamePattern`: the last component is `*new_idx_out`, where it is set. -/
def renamePattern (io : SdIo) (patternId : ℕ) (newName : Name) (s : Store) :
    Store × ControllerError × Option ℕ :=
  if !s.sd.mounted then (s, ceSdNotPresent, none)
  else
    match s.sd.target patternId with
    | none => (s, ceBadParam, none)
    | some entry =>
      let sd := s.sd.closeIf patternId
      let candidate := candidateName io newName s.card
      match s.card.rename (io.ok .rename) entry.path (.pattern candidate) with
      | (card, false) => (⟨card, sd⟩, ceSdFileError, none)
      | (card, true) =>
        let origin := if patternId = 0 then candidate else entry.origin
        let sd := (sd.removeAt patternId).insertSorted ⟨candidate, origin⟩
        let newIdx := (sd.patterns.findIdx? (·.name = candidate)).elim 0 (· + 1)
        let out := finish io sd card
        (out.1, out.2, some newIdx)

/-! ### The open pattern -/

section

variable [Board]

/-- `openPattern`. -/
def openPattern (io : SdIo) (patternId : ℕ) (s : Store) : Store × ControllerError :=
  if !s.sd.mounted then (s, ceSdNotPresent)
  else
    match s.sd.pattern? patternId with
    | none => (s, ceBadParam)
    | some entry =>
      if s.sd.fileOpen ∧ s.sd.openId = patternId ∧ s.sd.appliedLegacySeek = s.sd.legacySeek then
        (s, ceNone)
      else
        let sd := { s.sd with fileOpen := false, contiguous := false }
        match s.card.openRead (io.ok .openRead) entry.path with
        | none => (⟨s.card, { sd with file := none }⟩, ceSdFileError)
        | some id =>
          let sd := { sd with file := some id }
          let hdr := s.card.read (io.cap (.read 0)) id 0 patternHeaderByteCount
          if hdr.length ≠ patternHeaderByteCount then (⟨s.card, sd⟩, ceSdFileError)
          else
            match validateHeader hdr with
            | .error err => (⟨s.card, sd⟩, err)
            | .ok info =>
              (⟨s.card, { sd with
                info := info
                contiguous := !sd.legacySeek && io.ok .contiguous
                appliedLegacySeek := sd.legacySeek
                fileOpen := true
                openId := patternId }⟩, ceNone)

end

/-- The bytes of a frame before its checksum. -/
def bodyLen (info : PatternInfo) : ℕ :=
  patternFramePrefixByteCount + info.numPanels * info.blockSize

/-- `readFrame`: what it writes to `dest`, and its result. -/
def readFrame (io : SdIo) (frameIndex destCap : ℕ) (s : Store) : List UInt8 × ControllerError :=
  if !s.sd.mounted then ([], ceSdNotPresent)
  else
    match s.sd.openFile with
    | none => ([], ceSdFileError)
    | some id =>
      if s.sd.info.frameCount ≤ frameIndex then ([], ceBadParam)
      else
        let len := bodyLen s.sd.info
        if destCap < len then ([], ceBadParam)
        else
          let offset := patternHeaderByteCount + frameIndex * s.sd.info.frameSize
          if !io.ok .seek then ([], ceSdFileError)
          else
            let body := s.card.read (io.cap (.read 1)) id offset len
            if body.length ≠ len then (body, ceSdFileError)
            else
              let crc := s.card.read (io.cap (.read 2)) id (offset + len) patternFrameCrcByteCount
              if crc.length ≠ patternFrameCrcByteCount then (body, ceSdFileError)
              else if body.take 2 ≠ [0x46, 0x52] then (body, ceFrameCrc)
              else if Panel.crc16CcittFalse body ≠ le16 crc 0 then (body, ceFrameCrc)
              else (body, ceNone)

/-! ### Metadata of a pattern that is not open -/

structure PatternMeta where
  frameCount : ℕ
  gsVal : UInt8
  rows : UInt8
  cols : UInt8
  arenaId : UInt8
  observerId : UInt8
  fileSize : ℕ
  dutyCycle : UInt8

/-- `readPatternInfo`. -/
def readPatternInfo (io : SdIo) (patternId : ℕ) (s : Store) : Except ControllerError PatternMeta :=
  if !s.sd.mounted then .error ceSdNotPresent
  else
    match s.sd.pattern? patternId with
    | none => .error ceBadParam
    | some entry =>
      match s.card.openRead (io.ok .openRead) entry.path with
      | none => .error ceSdFileError
      | some id =>
        let hdr := s.card.read (io.cap (.read 0)) id 0 patternHeaderByteCount
        if hdr.length ≠ patternHeaderByteCount then .error ceSdFileError
        else
          let err := validateHeaderBytes hdr
          if err ≠ ceNone then .error err
          else
            let gs := hdr.getD 10 0
            let fileSize := (s.card.content id).length % 2 ^ 32
            let dutyCycleOff := patternHeaderByteCount + patternFramePrefixByteCount
              + blockSizeOf gs - 1
            match s.card.read (io.cap (.read 1)) id dutyCycleOff 1 with
            | [dutyCycle] =>
              if fileSize ≤ dutyCycleOff ∨ !io.ok .seek then .error ceSdFileError
              else .ok {
                frameCount := le16 hdr 6
                gsVal := gs
                rows := hdr.getD 8 0
                cols := hdr.getD 9 0
                arenaId := ((hdr.getD 4 0 &&& 0x0F) <<< 2) ||| (hdr.getD 5 0 >>> 6)
                observerId := hdr.getD 5 0 &&& 0x3F
                fileSize := fileSize
                dutyCycle := dutyCycle }
            | _ => .error ceSdFileError

end Store
end Sd
end G6Arena
