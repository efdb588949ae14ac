/-
# The archive stream

`GET_SD_ARCHIVE` announces a size and arms a stream that `serviceArchive` sends one piece at a
time.  Between two calls the rest of the controller may do what it likes: a run of the
stream is a list of calls, each with the controller as it then is.

`Streaming` is the invariant: what has been sent is the start of an archive of the entries
that were collected, with a block of data for each, as long as its entry says, which
is what the reads of the file gave and then zeros.  `archive_is_zip` follows when no
send is short and no deadline is met.

The announced size is summed up in 32 bits: `archive_size` says that it is the number of
bytes streamed just when the entries and their data stay below 4 GB.
-/

import G6Arena.Command.Machine
import G6Arena.Command.Steps
import G6Arena.Lib.Zip
import G6Arena.Panel.Checksums
import Mathlib.Data.List.Forall2

namespace G6Arena
namespace Command

open ByteMem Link
open Machine
open Controller (archiveOf archiveSize chunkBytes)
open Sd (Card FileId Path)

/-! ### One call -/

namespace Archive

variable {env : Env} {card : Card} {ar : Archive} {e : ZipEntry}

/-- The data `kFileData` sends, with bytes left. -/
def dataChunk (env : Env) (card : Card) (ar : Archive) : List UInt8 :=
  let want := min ar.fileRemaining chunkBytes
  match ar.file with
  | some (id, pos) =>
    let data := card.read (env.sd.cap (.read 0)) id pos want
    if data ≠ [] then data else List.replicate want 0
  | none => List.replicate want 0

/-- The file a piece of data leaves open. -/
def dataFile (env : Env) (card : Card) (ar : Archive) : Option (FileId × ℕ) :=
  match ar.file with
  | some (id, pos) =>
    let data := card.read (env.sd.cap (.read 0)) id pos (min ar.fileRemaining chunkBytes)
    if data ≠ [] then some (id, pos + data.length) else none
  | none => none

/-- What a call hands to `sendRaw`. -/
def chunk (env : Env) (card : Card) (ar : Archive) : List UInt8 :=
  match ar.phase, ar.entries[ar.entryIdx]? with
  | .localHeader, some e => e.localHeader
  | .fileData, some _ => if ar.fileRemaining = 0 then [] else ar.dataChunk env card
  | .dataDescriptor, some e => e.dataDescriptor
  | .centralDir, some e => e.centralRecord
  | .eocd, _ => eocdRecord ar.entries.length ar.cdSize ar.cdOffset
  | _, none => []

end Archive

/-- Every byte of a buffer is sent. -/
def SentWhole (env : Env) (c : Controller) (t : Transport) (bytes : List UInt8) : Prop :=
  ((c.source t).sendRaw t env.tx bytes).2 = bytes.length

instance (env : Env) (c : Controller) (t : Transport) (bytes : List UInt8) :
    Decidable (SentWhole env c t bytes) := inferInstanceAs (Decidable (_ = _))

namespace Controller

variable {env : Env} {c : Controller} {ar next : Archive} {bytes : List UInt8} {e : ZipEntry}

theorem archiveSend_whole (h : SentWhole env c ar.source bytes) :
    (c.archiveSend env ar bytes next).transfers.ar = some next := by
  unfold SentWhole at h
  unfold archiveSend
  dsimp only
  rw [h, if_neg (lt_irrefl _)]
  rfl

theorem archiveSend_source : (c.archiveSend env ar bytes next).source
    = Function.update c.source ar.source ((c.source ar.source).sendRaw ar.source env.tx bytes).1 := by
  unfold archiveSend
  dsimp only
  split_ifs <;> rfl

/-! What a call does in each phase, before the deadline. -/

/-- A piece of data, from the file or zeros. -/
theorem archiveData_eq (env : Env) (ar : Archive) (c : Controller) :
    c.archiveData env ar = c.archiveSend env ar (ar.dataChunk env c.store.card) { ar with
      crc := Panel.crc32Update ar.crc (ar.dataChunk env c.store.card)
      file := ar.dataFile env c.store.card
      fileRemaining := ar.fileRemaining - (ar.dataChunk env c.store.card).length
      deadline := (env.millis 1 + kArchiveIdleTimeoutMs) % 2 ^ 32 } := by
  unfold archiveData Archive.dataChunk Archive.dataFile
  cases ar.file with
  | none => rfl
  | some file =>
    dsimp only
    split_ifs <;> rfl

section

variable (c) (hdue : Link.due (env.millis 0) ar.deadline = false)

include hdue

theorem archiveStep_localHeader (hphase : ar.phase = .localHeader)
    (hentry : ar.entries[ar.entryIdx]? = some e) :
    c.archiveStep env ar = c.archiveSend env ar e.localHeader { ar with
      crc := 0xFFFFFFFF
      fileRemaining := e.fileSize
      file := (c.store.card.openRead (env.sd.ok .openRead) e.path).map (·, 0)
      phase := .fileData
      deadline := (env.millis 1 + kArchiveIdleTimeoutMs) % 2 ^ 32 } := by
  unfold archiveStep
  rw [hdue, if_neg Bool.false_ne_true, hphase, hentry]

theorem archiveStep_fileData (hphase : ar.phase = .fileData)
    (hentry : ar.entries[ar.entryIdx]? = some e) (hleft : ar.fileRemaining ≠ 0) :
    c.archiveStep env ar = c.archiveSend env ar (ar.dataChunk env c.store.card) { ar with
      crc := Panel.crc32Update ar.crc (ar.dataChunk env c.store.card)
      file := ar.dataFile env c.store.card
      fileRemaining := ar.fileRemaining - (ar.dataChunk env c.store.card).length
      deadline := (env.millis 1 + kArchiveIdleTimeoutMs) % 2 ^ 32 } := by
  unfold archiveStep
  rw [hdue, if_neg Bool.false_ne_true, hphase, hentry]
  dsimp only
  rw [if_neg hleft, archiveData_eq, hphase]

theorem archiveStep_fileEnd (hphase : ar.phase = .fileData)
    (hentry : ar.entries[ar.entryIdx]? = some e) (hleft : ar.fileRemaining = 0) :
    c.archiveStep env ar = c.withAr (some { ar with
      file := none
      entries := ar.entries.set ar.entryIdx { e with crc32 := ar.crc ^^^ 0xFFFFFFFF }
      phase := .dataDescriptor }) := by
  unfold archiveStep
  rw [hdue, if_neg Bool.false_ne_true, hphase, hentry]
  dsimp only
  rw [if_pos hleft]

theorem archiveStep_dataDescriptor (hphase : ar.phase = .dataDescriptor)
    (hentry : ar.entries[ar.entryIdx]? = some e) :
    c.archiveStep env ar = c.archiveSend env ar e.dataDescriptor { ar with
      entryIdx := if ar.entryIdx + 1 < ar.entries.length then ar.entryIdx + 1 else 0
      phase := if ar.entryIdx + 1 < ar.entries.length then .localHeader else .centralDir
      deadline := (env.millis 1 + kArchiveIdleTimeoutMs) % 2 ^ 32 } := by
  unfold archiveStep
  rw [hdue, if_neg Bool.false_ne_true, hphase, hentry]

theorem archiveStep_centralDir (hphase : ar.phase = .centralDir)
    (hentry : ar.entries[ar.entryIdx]? = some e) :
    c.archiveStep env ar = c.archiveSend env ar e.centralRecord { ar with
      entryIdx := ar.entryIdx + 1
      phase := if ar.entries.length ≤ ar.entryIdx + 1 then .eocd else .centralDir
      deadline := (env.millis 1 + kArchiveIdleTimeoutMs) % 2 ^ 32 } := by
  unfold archiveStep
  rw [hdue, if_neg Bool.false_ne_true, hphase, hentry]

theorem archiveStep_eocd (hphase : ar.phase = .eocd) :
    c.archiveStep env ar = (c.onSource ar.source fun _ => ((c.source ar.source).sendRaw ar.source env.tx
      (eocdRecord ar.entries.length ar.cdSize ar.cdOffset)).1).withAr none := by
  unfold archiveStep
  rw [hdue, if_neg Bool.false_ne_true, hphase]

end

end Controller

/-! ### The stream -/

/-- An archive as it streams. -/
structure Stream where
  ar : Option Archive
  /-- the bytes that have been sent -/
  out : List UInt8
  /-- the calls so far, each with the controller it was made on -/
  calls : List (Env × Controller)

namespace Stream

def start (ar : Option Archive) : Stream := ⟨ar, [], []⟩

/-- What a call sends. -/
def chunk (s : Stream) (i : Env × Controller) : List UInt8 :=
  match s.ar with
  | none => []
  | some ar => ar.chunk i.1 i.2.store.card

/-- A call of `serviceArchive`, on whatever the rest of the controller has become. -/
def step (s : Stream) (i : Env × Controller) : Stream where
  ar := ((i.2.withAr s.ar).serviceArchive i.1).transfers.ar
  out := s.out ++ s.chunk i
  calls := s.calls ++ [i]

/-- Nothing is short: the deadline has not come, and the bytes are sent whole. -/
def Whole (s : Stream) (i : Env × Controller) : Prop :=
  match s.ar with
  | none => True
  | some ar => Link.due (i.1.millis 0) ar.deadline = false ∧
      SentWhole i.1 i.2 ar.source (ar.chunk i.1 i.2.store.card)

instance (s : Stream) (i : Env × Controller) : Decidable (s.Whole i) := by
  unfold Whole
  cases s.ar <;> infer_instance

end Stream

/-! ### What has been sent -/

/-- The start of a file, with zeros behind it. -/
def Padded (bytes data : List UInt8) : Prop :=
  ∃ k, k ≤ bytes.length ∧ k ≤ data.length ∧ data = bytes.take k ++ List.replicate (data.length - k) 0

/-- The file under a path was opened in one of the calls, and the data is what it held, as far as
the calls agree about that; zeros, if it could not be opened. -/
def ReadFrom (calls : List (Env × Controller)) (path : Path) (data : List UInt8) : Prop :=
  ∃ i ∈ calls, match i.2.store.card.openRead (i.1.sd.ok .openRead) path with
    | none => data = List.replicate data.length 0
    | some id => ∀ bytes, (∀ j ∈ calls, j.2.store.card.content id = bytes) → Padded bytes data

/-- An entry whose data has been sent: its checksum is set. -/
def ZipEntry.seal (e : ZipEntry) (data : List UInt8) : ZipEntry := { e with crc32 := Panel.crc32 data }

/-- The data of an entry is as long as the entry says. -/
structure Filled (calls : List (Env × Controller)) (e : ZipEntry) (data : List UInt8) : Prop where
  length : data.length = e.fileSize
  read : ReadFrom calls e.path data

/-- The entries of an archive and the data sent for the first of them. -/
abbrev Sent : Type := List (ZipEntry × List UInt8)

namespace Sent

def sealed (ds : Sent) : List ZipEntry := ds.map fun p => p.1.seal p.2

/-- The members as they were sent. -/
def bodies (ds : Sent) : List UInt8 :=
  ds.flatMap fun p => p.1.localHeader ++ p.2 ++ (p.1.seal p.2).dataDescriptor

/-- Their records. -/
def records (ds : Sent) : List UInt8 := ds.flatMap fun p => (p.1.seal p.2).centralRecord

@[simp] theorem length_sealed (ds : Sent) : ds.sealed.length = ds.length := List.length_map ..

theorem sealed_append (ds ds' : Sent) : sealed (ds ++ ds') = ds.sealed ++ ds'.sealed :=
  List.map_append

theorem bodies_append (ds ds' : Sent) : bodies (ds ++ ds') = ds.bodies ++ ds'.bodies :=
  List.flatMap_append

theorem records_append (ds ds' : Sent) : records (ds ++ ds') = ds.records ++ ds'.records :=
  List.flatMap_append

end Sent

/-- The archive is of the entries `es`: those of `ds` have their data, those of `rest` do not. -/
structure Collected (calls : List (Env × Controller)) (es : List ZipEntry) (cd : ℕ × ℕ) (ds : Sent)
    (rest : List ZipEntry) (ar : Archive) : Prop where
  split : es = ds.map Prod.fst ++ rest
  entries : ar.entries = ds.sealed ++ rest
  cdOffset : ar.cdOffset = cd.1
  cdSize : ar.cdSize = cd.2
  filled : ∀ p ∈ ds, Filled calls p.1 p.2

/-- An entry whose data is being sent, `cur` of it so far. -/
structure Filling (calls : List (Env × Controller)) (e : ZipEntry) (cur : List UInt8) (ar : Archive) :
    Prop where
  length : cur.length + ar.fileRemaining = e.fileSize
  crc : ar.crc = Panel.crc32Update 0xFFFFFFFF cur
  read : match ar.file with
    | none => ReadFrom calls e.path cur
    | some (id, pos) => pos = cur.length ∧
        (∃ i ∈ calls, i.2.store.card.openRead (i.1.sd.ok .openRead) e.path = some id) ∧
        ∀ bytes, (∀ j ∈ calls, j.2.store.card.content id = bytes) →
          cur.length ≤ bytes.length ∧ cur = bytes.take cur.length

/-- The calls that members take, one byte of data a call at worst. -/
def memberCalls (es : List ZipEntry) : ℕ := (es.map fun e => e.fileSize + 3).sum

/-- **The invariant of a stream**, with the calls it takes at most to its end and the bytes it has
sent. -/
inductive Streaming (calls : List (Env × Controller)) (es : List ZipEntry) (cd : ℕ × ℕ) :
    ℕ → Option Archive → List UInt8 → Prop
  | localHeader {ar : Archive} {ds : Sent} {e : ZipEntry} {rest : List ZipEntry}
      (h : Collected calls es cd ds (e :: rest) ar) (phase : ar.phase = .localHeader)
      (idx : ar.entryIdx = ds.length) :
      Streaming calls es cd (memberCalls (e :: rest) + es.length + 1) (some ar) ds.bodies
  | fileData {ar : Archive} {ds : Sent} {e : ZipEntry} {rest : List ZipEntry} {cur : List UInt8}
      (h : Collected calls es cd ds (e :: rest) ar) (phase : ar.phase = .fileData)
      (idx : ar.entryIdx = ds.length) (filling : Filling calls e cur ar) :
      Streaming calls es cd (ar.fileRemaining + 2 + memberCalls rest + es.length + 1) (some ar)
        (ds.bodies ++ (e.localHeader ++ cur))
  | dataDescriptor {ar : Archive} {ds : Sent} {e : ZipEntry} {data : List UInt8}
      {rest : List ZipEntry} (h : Collected calls es cd (ds ++ [(e, data)]) rest ar)
      (phase : ar.phase = .dataDescriptor) (idx : ar.entryIdx = ds.length) :
      Streaming calls es cd (1 + memberCalls rest + es.length + 1) (some ar)
        (ds.bodies ++ (e.localHeader ++ data))
  | centralDir {ar : Archive} {ds ds' : Sent} {p : ZipEntry × List UInt8}
      (h : Collected calls es cd (ds ++ p :: ds') [] ar) (phase : ar.phase = .centralDir)
      (idx : ar.entryIdx = ds.length) :
      Streaming calls es cd (ds'.length + 2) (some ar) (Sent.bodies (ds ++ p :: ds') ++ ds.records)
  | eocd {ar : Archive} {ds : Sent} (h : Collected calls es cd ds [] ar) (phase : ar.phase = .eocd) :
      Streaming calls es cd 1 (some ar) (ds.bodies ++ ds.records)
  | ended {ds : Sent} (split : es = ds.map Prod.fst) (filled : ∀ p ∈ ds, Filled calls p.1 p.2) :
      Streaming calls es cd 0 none (ds.bodies ++ ds.records ++ eocdRecord ds.length cd.2 cd.1)

section

variable {calls : List (Env × Controller)} {es rest : List ZipEntry} {cd : ℕ × ℕ} {ds : Sent}
  {ar ar' : Archive} {e : ZipEntry} {cur data : List UInt8} {i : Env × Controller}

/-! What a call knows of the ones before it stays known. -/

theorem ReadFrom.mono {path : Path} (h : ReadFrom calls path data) (i : Env × Controller) :
    ReadFrom (calls ++ [i]) path data := by
  obtain ⟨j, hj, hread⟩ := h
  refine ⟨j, List.mem_append_left _ hj, ?_⟩
  cases hopen : j.2.store.card.openRead (j.1.sd.ok .openRead) path with
  | none => rwa [hopen] at hread
  | some id =>
    rw [hopen] at hread
    exact fun bytes hbytes => hread bytes fun k hk => hbytes k (List.mem_append_left _ hk)

theorem Filled.mono (h : Filled calls e data) (i : Env × Controller) : Filled (calls ++ [i]) e data :=
  ⟨h.length, h.read.mono i⟩

theorem filled_mono (h : ∀ p ∈ ds, Filled calls p.1 p.2) (i : Env × Controller) :
    ∀ p ∈ ds, Filled (calls ++ [i]) p.1 p.2 := fun p hp => (h p hp).mono i

namespace Collected

/-- An archive with the same entries. -/
theorem mono (h : Collected calls es cd ds rest ar) (i : Env × Controller)
    (hentries : ar'.entries = ar.entries) (hcd : ar'.cdOffset = ar.cdOffset ∧ ar'.cdSize = ar.cdSize) :
    Collected (calls ++ [i]) es cd ds rest ar' where
  split := h.split
  entries := hentries.trans h.entries
  cdOffset := hcd.1.trans h.cdOffset
  cdSize := hcd.2.trans h.cdSize
  filled := filled_mono h.filled i

/-- The entry that is next. -/
theorem entry (h : Collected calls es cd ds (e :: rest) ar) (hidx : ar.entryIdx = ds.length) :
    ar.entries[ar.entryIdx]? = some e := by
  rw [h.entries, hidx, List.getElem?_append_right (by simp)]
  simp

/-- An entry whose data has been sent. -/
theorem entry_sealed {ds' : Sent} {p : ZipEntry × List UInt8}
    (h : Collected calls es cd (ds ++ p :: ds') rest ar) (hidx : ar.entryIdx = ds.length) :
    ar.entries[ar.entryIdx]? = some (p.1.seal p.2) := by
  rw [h.entries, hidx, Sent.sealed_append, List.append_assoc, List.getElem?_append_right (by simp)]
  simp [Sent.sealed]

theorem length_entries (h : Collected calls es cd ds rest ar) :
    ar.entries.length = ds.length + rest.length := by
  rw [h.entries, List.length_append, Sent.length_sealed]

/-- The next entry gets its checksum. -/
theorem push (h : Collected calls es cd ds (e :: rest) ar) (hidx : ar.entryIdx = ds.length)
    (hdata : Filled calls e data) (i : Env × Controller)
    (hentries : ar'.entries = ar.entries.set ar.entryIdx (e.seal data))
    (hcd : ar'.cdOffset = ar.cdOffset ∧ ar'.cdSize = ar.cdSize) :
    Collected (calls ++ [i]) es cd (ds ++ [(e, data)]) rest ar' where
  split := by simpa using h.split
  entries := by
    rw [hentries, h.entries, hidx, List.set_append_right _ _ (by simp), Sent.sealed_append]
    simp [Sent.sealed]
  cdOffset := hcd.1.trans h.cdOffset
  cdSize := hcd.2.trans h.cdSize
  filled := by
    intro p hp
    rcases List.mem_append.1 hp with hp | hp
    · exact (h.filled p hp).mono i
    · rw [List.mem_singleton.1 hp]
      exact hdata.mono i

end Collected

/-! ### Data -/

/-- Zeros behind what was read. -/
theorem Padded.zeros {bytes : List UInt8} (h : Padded bytes data) (n : ℕ) :
    Padded bytes (data ++ List.replicate n 0) := by
  obtain ⟨k, hbytes, hdata, heq⟩ := h
  refine ⟨k, hbytes, ?_, ?_⟩
  · rw [List.length_append]
    omega
  · rw [List.length_append, List.length_replicate, Nat.sub_add_comm hdata,
      List.replicate_add, ← List.append_assoc, ← heq]

theorem ReadFrom.zeros {path : Path} (h : ReadFrom calls path data) (n : ℕ) :
    ReadFrom calls path (data ++ List.replicate n 0) := by
  obtain ⟨j, hj, hread⟩ := h
  refine ⟨j, hj, ?_⟩
  cases hopen : j.2.store.card.openRead (j.1.sd.ok .openRead) path with
  | none =>
    rw [hopen] at hread
    rw [List.length_append, List.length_replicate, List.replicate_add, ← hread]
  | some id =>
    rw [hopen] at hread
    exact fun bytes hbytes => (hread bytes hbytes).zeros n

namespace Filling

/-- Data as far as it goes is data of a file that is done with. -/
theorem readFrom (h : Filling calls e cur ar) : ReadFrom calls e.path cur := by
  have hread := h.read
  cases hfile : ar.file with
  | none => rwa [hfile] at hread
  | some file =>
    rw [hfile] at hread
    obtain ⟨-, ⟨j, hj, hopen⟩, hbytes⟩ := hread
    refine ⟨j, hj, ?_⟩
    rw [hopen]
    intro bytes hsame
    obtain ⟨hlen, heq⟩ := hbytes bytes hsame
    exact ⟨cur.length, hlen, le_rfl, by rw [Nat.sub_self, List.replicate_zero, List.append_nil, ← heq]⟩

/-- The file of an entry is opened, or is not. -/
theorem opened (i : Env × Controller) (hleft : ar.fileRemaining = e.fileSize)
    (hcrc : ar.crc = 0xFFFFFFFF)
    (hfile : ar.file = (i.2.store.card.openRead (i.1.sd.ok .openRead) e.path).map (·, 0)) :
    Filling (calls ++ [i]) e [] ar where
  length := by rw [hleft, List.length_nil, Nat.zero_add]
  crc := hcrc
  read := by
    have hi : i ∈ calls ++ [i] := List.mem_append_right _ (List.mem_singleton_self i)
    rw [hfile]
    cases hopen : i.2.store.card.openRead (i.1.sd.ok .openRead) e.path with
    | none => exact ⟨i, hi, by rw [hopen]; rfl⟩
    | some id => exact ⟨rfl, ⟨i, hi, hopen⟩, fun bytes _ => ⟨Nat.zero_le _, rfl⟩⟩

end Filling

theorem length_dataChunk (env : Env) (card : Card) (ar : Archive) :
    (ar.dataChunk env card).length ≤ ar.fileRemaining ∧
      (ar.fileRemaining ≠ 0 → (ar.dataChunk env card).length ≠ 0) := by
  have hzeros : (List.replicate (min ar.fileRemaining chunkBytes) (0 : UInt8)).length ≤ ar.fileRemaining ∧
      (ar.fileRemaining ≠ 0 →
        (List.replicate (min ar.fileRemaining chunkBytes) (0 : UInt8)).length ≠ 0) := by
    rw [List.length_replicate, chunkBytes]
    omega
  unfold Archive.dataChunk
  cases ar.file with
  | none => exact hzeros
  | some file =>
    dsimp only
    split_ifs with hdata
    · refine ⟨?_, fun _ => fun hnil => hdata (List.length_eq_zero_iff.1 hnil)⟩
      rw [Card.read, List.length_take]
      omega
    · exact hzeros

/-- A piece of data: the next bytes of the file, or zeros once a read has failed. -/
theorem Filling.next (h : Filling calls e cur ar) (i : Env × Controller)
    (hleft : ar'.fileRemaining = ar.fileRemaining - (ar.dataChunk i.1 i.2.store.card).length)
    (hcrc : ar'.crc = Panel.crc32Update ar.crc (ar.dataChunk i.1 i.2.store.card))
    (hfile : ar'.file = ar.dataFile i.1 i.2.store.card) :
    Filling (calls ++ [i]) e (cur ++ ar.dataChunk i.1 i.2.store.card) ar' where
  length := by
    have hlen := h.length
    have hchunk := (length_dataChunk i.1 i.2.store.card ar).1
    rw [hleft, List.length_append]
    omega
  crc := by rw [hcrc, h.crc, Panel.crc32Update_append]
  read := by
    have hread := h.read
    rw [hfile]
    unfold Archive.dataFile Archive.dataChunk
    cases hold : ar.file with
    | none =>
      rw [hold] at hread
      exact (hread.mono i).zeros _
    | some file =>
      obtain ⟨id, pos⟩ := file
      rw [hold] at hread
      obtain ⟨hpos, ⟨j, hj, hopen⟩, hbytes⟩ := hread
      dsimp only
      split_ifs with hdata
      · refine ⟨by rw [List.length_append, hpos], ⟨j, List.mem_append_left _ hj, hopen⟩, ?_⟩
        intro bytes hsame
        obtain ⟨hlen, heq⟩ := hbytes bytes fun k hk => hsame k (List.mem_append_left _ hk)
        have hcontent : i.2.store.card.content id = bytes :=
          hsame i (List.mem_append_right _ (List.mem_singleton_self i))
        rw [Card.read, hcontent, hpos, List.length_append, List.length_take, List.length_drop]
        refine ⟨by omega, ?_⟩
        generalize min (min ar.fileRemaining chunkBytes) (i.1.sd.cap (.read 0)) = n
        rw [List.take_add, ← heq, ← List.length_drop, ← List.take_eq_take_min]
      · exact (h.readFrom.mono i).zeros _

end

/-! ### The steps -/

namespace Streaming

variable {es : List ZipEntry} {cd : ℕ × ℕ} {s : Stream}

theorem memberCalls_cons (e : ZipEntry) (rest : List ZipEntry) :
    memberCalls (e :: rest) = e.fileSize + 3 + memberCalls rest := rfl

/-- The archive after a call that sends `chunk` and goes on with `next`. -/
theorem step_of_send {ar next : Archive} {bytes : List UInt8} {i : Env × Controller}
    (har : s.ar = some ar) (hwhole : s.Whole i) (hchunk : ar.chunk i.1 i.2.store.card = bytes)
    (hstep : (i.2.withAr s.ar).archiveStep i.1 ar
      = (i.2.withAr s.ar).archiveSend i.1 ar bytes next) :
    s.step i = ⟨some next, s.out ++ bytes, s.calls ++ [i]⟩ := by
  unfold Stream.Whole at hwhole
  rw [har] at hwhole
  obtain ⟨-, hsent⟩ := hwhole
  rw [hchunk] at hsent
  have hnext : ((i.2.withAr s.ar).serviceArchive i.1).transfers.ar = some next := by
    unfold Controller.serviceArchive
    rw [Controller.withAr_transfers]
    dsimp only
    rw [har] at hstep ⊢
    dsimp only
    rw [hstep]
    exact Controller.archiveSend_whole hsent
  unfold Stream.step Stream.chunk
  rw [hnext, har]
  dsimp only
  rw [hchunk]

/-- The archive after a call that sends nothing, and after the last one. -/
theorem step_of_eq {ar : Archive} {next : Option Archive} {bytes : List UInt8} {c : Controller}
    {i : Env × Controller} (har : s.ar = some ar) (hchunk : ar.chunk i.1 i.2.store.card = bytes)
    (hstep : (i.2.withAr s.ar).archiveStep i.1 ar = c.withAr next) :
    s.step i = ⟨next, s.out ++ bytes, s.calls ++ [i]⟩ := by
  have hnext : ((i.2.withAr s.ar).serviceArchive i.1).transfers.ar = next := by
    unfold Controller.serviceArchive
    rw [Controller.withAr_transfers]
    dsimp only
    rw [har] at hstep ⊢
    dsimp only
    rw [hstep]
    rfl
  unfold Stream.step Stream.chunk
  rw [hnext, har]
  dsimp only
  rw [hchunk]

/-- **A call** that is whole sends the next bytes of the archive. -/
theorem step {n : ℕ} (h : Streaming s.calls es cd n s.ar s.out) {i : Env × Controller}
    (hwhole : s.Whole i) :
    ∃ n', n' ≤ n - 1 ∧ Streaming (s.step i).calls es cd n' (s.step i).ar (s.step i).out := by
  obtain ⟨ar, har⟩ | hnone : (∃ ar, s.ar = some ar) ∨ s.ar = none := by
    cases s.ar with
    | none => exact .inr rfl
    | some ar => exact .inl ⟨ar, rfl⟩
  · have hdue : Link.due (i.1.millis 0) ar.deadline = false := by
      have hboth := hwhole
      unfold Stream.Whole at hboth
      rw [har] at hboth
      exact hboth.1
    generalize hout : s.out = out at h
    rw [har] at h
    cases h with
    | @localHeader _ ds e rest h hphase hidx =>
      have hentry := h.entry hidx
      have hchunk : ar.chunk i.1 i.2.store.card = e.localHeader := by
        rw [Archive.chunk, hphase, hentry]
      rw [step_of_send har hwhole hchunk (Controller.archiveStep_localHeader _ hdue hphase hentry), hout,
        ← List.append_nil e.localHeader]
      refine ⟨_, ?_, .fileData (h.mono i rfl ⟨rfl, rfl⟩) rfl hidx (.opened i rfl rfl rfl)⟩
      rw [memberCalls_cons]
      dsimp only
      omega
    | @fileData _ ds e rest cur h hphase hidx hfilling =>
      have hentry := h.entry hidx
      by_cases hleft : ar.fileRemaining = 0
      · have hchunk : ar.chunk i.1 i.2.store.card = [] := by
          rw [Archive.chunk, hphase, hentry]
          exact if_pos hleft
        have hlen := hfilling.length
        rw [hleft, Nat.add_zero] at hlen
        rw [step_of_eq har hchunk (Controller.archiveStep_fileEnd _ hdue hphase hentry hleft), hout,
          List.append_nil]
        refine ⟨_, ?_, .dataDescriptor (h.push hidx ⟨hlen, hfilling.readFrom⟩ i ?_ ⟨rfl, rfl⟩) rfl
          hidx⟩
        · omega
        · dsimp only
          rw [hfilling.crc]
          rfl
      · have hchunk : ar.chunk i.1 i.2.store.card = ar.dataChunk i.1 i.2.store.card := by
          rw [Archive.chunk, hphase, hentry]
          exact if_neg hleft
        rw [step_of_send har hwhole hchunk
            (Controller.archiveStep_fileData _ hdue hphase hentry hleft), hout,
          List.append_assoc, List.append_assoc]
        have hsome := (length_dataChunk i.1 i.2.store.card ar).2 hleft
        refine ⟨_, ?_, .fileData (h.mono i rfl ⟨rfl, rfl⟩) hphase hidx (hfilling.next i rfl rfl rfl)⟩
        rw [Controller.withAr_store]
        dsimp only
        omega
    | @dataDescriptor _ ds e data rest h hphase hidx =>
      have hentry := h.entry_sealed hidx
      have hchunk : ar.chunk i.1 i.2.store.card = (e.seal data).dataDescriptor := by
        rw [Archive.chunk, hphase, hentry]
      have hbodies : ds.bodies ++ (e.localHeader ++ data) ++ (e.seal data).dataDescriptor
          = Sent.bodies (ds ++ [(e, data)]) := by
        rw [Sent.bodies_append, List.append_assoc]
        simp [Sent.bodies]
      have hlast : ar.entryIdx + 1 < ar.entries.length ↔ 0 < rest.length := by
        rw [h.length_entries, hidx, List.length_append, List.length_singleton]
        omega
      rw [step_of_send har hwhole hchunk
          (Controller.archiveStep_dataDescriptor _ hdue hphase hentry), hout, hbodies]
      cases rest with
      | nil =>
        rw [if_neg (by rw [hlast]; exact lt_irrefl 0), if_neg (by rw [hlast]; exact lt_irrefl 0)]
        obtain ⟨p, ds', hds⟩ := List.exists_cons_of_ne_nil (List.concat_ne_nil (e, data) ds)
        rw [hds] at h ⊢
        rw [← List.append_nil (Sent.bodies (p :: ds'))]
        have hlen := congrArg List.length h.split
        rw [List.length_append, List.length_map, List.length_cons, List.length_nil] at hlen
        refine ⟨_, ?_, @centralDir _ _ _ _ [] ds' p (h.mono i rfl ⟨rfl, rfl⟩) rfl rfl⟩
        omega
      | cons e' rest =>
        rw [if_pos (hlast.2 (Nat.succ_pos _)), if_pos (hlast.2 (Nat.succ_pos _))]
        refine ⟨_, ?_, .localHeader (h.mono i rfl ⟨rfl, rfl⟩) rfl ?_⟩
        · omega
        · dsimp only
          rw [hidx, List.length_append, List.length_singleton]
    | @centralDir _ ds ds' p h hphase hidx =>
      have hentry := h.entry_sealed hidx
      have hchunk : ar.chunk i.1 i.2.store.card = (p.1.seal p.2).centralRecord := by
        rw [Archive.chunk, hphase, hentry]
      have hrecords : ds.records ++ (p.1.seal p.2).centralRecord = Sent.records (ds ++ [p]) := by
        rw [Sent.records_append]
        simp [Sent.records]
      have hlast : ar.entries.length ≤ ar.entryIdx + 1 ↔ ds'.length = 0 := by
        rw [h.length_entries, hidx, List.length_append, List.length_cons, List.length_nil]
        omega
      have hidx' : ar.entryIdx + 1 = (ds ++ [p]).length := by
        rw [hidx, List.length_append, List.length_singleton]
      rw [step_of_send har hwhole hchunk (Controller.archiveStep_centralDir _ hdue hphase hentry), hout,
        List.append_assoc, hrecords]
      cases ds' with
      | nil =>
        rw [if_pos (hlast.2 rfl)]
        exact ⟨_, le_rfl, .eocd (h.mono i rfl ⟨rfl, rfl⟩) rfl⟩
      | cons q ds' =>
        rw [if_neg (fun hle => absurd (hlast.1 hle) (Nat.succ_ne_zero _))]
        rw [List.append_cons] at h ⊢
        exact ⟨_, le_rfl, .centralDir (h.mono i rfl ⟨rfl, rfl⟩) rfl hidx'⟩
    | @eocd _ ds h hphase =>
      have hchunk : ar.chunk i.1 i.2.store.card
          = eocdRecord ds.length cd.2 cd.1 := by
        rw [Archive.chunk, hphase]
        dsimp only
        rw [h.length_entries, h.cdSize, h.cdOffset, List.length_nil, Nat.add_zero]
      rw [step_of_eq har hchunk (Controller.archiveStep_eocd _ hdue hphase), hout]
      exact ⟨_, le_rfl, .ended (h.split.trans (List.append_nil _)) (filled_mono h.filled i)⟩
  · generalize hout : s.out = out at h
    rw [hnone] at h
    have hstep : s.step i = ⟨none, s.out, s.calls ++ [i]⟩ := by
      unfold Stream.step Stream.chunk
      rw [hnone]
      dsimp only
      rw [List.append_nil]
      rfl
    rw [hstep, hout]
    cases h with
    | ended hsplit hfilled => exact ⟨_, le_rfl, .ended hsplit (filled_mono hfilled i)⟩

end Streaming

/-! ### A run -/

section

variable {es : List ZipEntry} {cd : ℕ × ℕ}

/-- **A run** of whole calls. -/
theorem Streaming.run {s : Stream} {n : ℕ} {is : List (Env × Controller)}
    (h : Streaming s.calls es cd n s.ar s.out) (hwhole : Along Stream.step Stream.Whole s is) :
    ∃ n', n' ≤ n - is.length ∧ Streaming (Machine.run Stream.step s is).calls es cd n'
      (Machine.run Stream.step s is).ar (Machine.run Stream.step s is).out := by
  induction is generalizing s n with
  | nil => exact ⟨n, le_rfl, h⟩
  | cons i is ih =>
    obtain ⟨m, hm, hnext⟩ := h.step hwhole.1
    obtain ⟨n', hn', hrun⟩ := ih hnext hwhole.2
    refine ⟨n', ?_, hrun⟩
    rw [List.length_cons]
    omega

theorem Stream.run_calls (s : Stream) (is : List (Env × Controller)) :
    (Machine.run Stream.step s is).calls = s.calls ++ is := by
  induction is generalizing s with
  | nil => exact (List.append_nil _).symm
  | cons i is ih =>
    rw [Machine.run_cons, ih]
    exact List.append_assoc s.calls [i] is

/-- What of an entry does not depend on its place. -/
theorem map_placeEntries {α : Type} (f : ZipEntry → α)
    (hf : ∀ (e : ZipEntry) (offset : ℕ), f { e with lhfOffset := offset } = f e) (offset : ℕ)
    (entries : List ZipEntry) : (placeEntries offset entries).map f = entries.map f := by
  induction entries generalizing offset with
  | nil => rfl
  | cons e rest ih => rw [placeEntries, List.map_cons, List.map_cons, hf, ih]

theorem length_placeEntries (offset : ℕ) (entries : List ZipEntry) :
    (placeEntries offset entries).length = entries.length := by
  rw [← List.length_map (fun _ => ()), map_placeEntries _ (fun _ _ => rfl), List.length_map]

/-- The calls an archive takes. -/
def archiveCalls (entries : List ZipEntry) : ℕ := memberCalls entries + entries.length + 1

/-- The archive is armed. -/
theorem Streaming.armed (entries : List ZipEntry) (t : Transport) (deadline : ℕ) :
    ∃ n, n ≤ archiveCalls entries ∧ Streaming [] (placeEntries 0 entries)
      (cdOffsetOf entries, cdSizeOf entries) n (some (archiveOf entries t deadline)) [] := by
  have hcollected : Collected [] (placeEntries 0 entries) (cdOffsetOf entries, cdSizeOf entries) []
      (placeEntries 0 entries) (archiveOf entries t deadline) :=
    ⟨rfl, rfl, rfl, rfl, fun p hp => absurd hp (List.not_mem_nil)⟩
  cases entries with
  | nil => exact ⟨1, Nat.le_add_left .., .eocd hcollected rfl⟩
  | cons e rest =>
    refine ⟨_, ?_, .localHeader hcollected rfl rfl⟩
    have hcalls : memberCalls (placeEntries 0 (e :: rest)) = memberCalls (e :: rest) := by
      unfold memberCalls
      rw [map_placeEntries _ fun _ _ => rfl]
    have hlen := length_placeEntries 0 (e :: rest)
    rw [placeEntries] at hcalls hlen
    rw [placeEntries, hcalls, hlen]
    exact le_rfl

/-- An archive that is done after a whole run: its data, and its bytes. -/
theorem Streaming.done {entries : List ZipEntry} {t : Transport} {deadline : ℕ}
    {is : List (Env × Controller)}
    (hwhole : Along Stream.step Stream.Whole (.start (some (archiveOf entries t deadline))) is) :
    let s := Machine.run Stream.step (.start (some (archiveOf entries t deadline))) is
    (archiveCalls entries ≤ is.length → s.ar = none) ∧
      (s.ar = none → ∃ ds : Sent, ds.map Prod.fst = placeEntries 0 entries ∧
        (∀ p ∈ ds, Filled is p.1 p.2) ∧
        s.out = ds.bodies ++ ds.records
          ++ eocdRecord ds.length (cdSizeOf entries) (cdOffsetOf entries)) := by
  intro s
  obtain ⟨n, hn, harmed⟩ := Streaming.armed entries t deadline
  obtain ⟨n', hn', hrun⟩ := harmed.run hwhole
  have hcalls : s.calls = is := Stream.run_calls ..
  change Streaming s.calls _ _ _ s.ar s.out at hrun
  rw [hcalls] at hrun
  generalize s.ar = ar, s.out = out at hrun
  constructor
  · intro hlong
    have hzero : n' = 0 := by omega
    cases hrun with
    | ended => rfl
    | _ => omega
  · rintro rfl
    cases hrun with
    | ended hsplit hfilled => exact ⟨_, hsplit.symm, hfilled, rfl⟩

end

/-! ### The bytes -/

namespace Sent

variable {calls : List (Env × Controller)} {ds : Sent}

def member (p : ZipEntry × List UInt8) : Zip.Member := ⟨p.1.zipName, p.2⟩

end Sent

/-- The bytes of an archive of these entries. -/
def zipSize (entries : List ZipEntry) : ℕ :=
  (entries.map fun e => 30 + e.zipName.length + e.fileSize + 16).sum
    + (entries.map fun e => 46 + e.zipName.length).sum + 22

section

variable {calls is : List (Env × Controller)} {entries : List ZipEntry} {ds : Sent} {t : Transport}
  {deadline : ℕ}

theorem Sent.length_bodies (hfilled : ∀ p ∈ ds, Filled calls p.1 p.2) :
    ds.bodies.length
      = ((ds.map Prod.fst).map fun e => 30 + e.zipName.length + e.fileSize + 16).sum := by
  induction ds with
  | nil => rfl
  | cons p ds ih =>
    have hrest := ih fun q hq => hfilled q (List.mem_cons_of_mem _ hq)
    have hp := (hfilled p (List.mem_cons_self ..)).length
    rw [bodies, List.flatMap_cons, ← bodies, List.length_append, hrest, List.map_cons, List.map_cons,
      List.sum_cons, List.length_append, List.length_append, hp]
    simp [ZipEntry.localHeader, ZipEntry.dataDescriptor]
    omega

theorem Sent.length_records (ds : Sent) :
    ds.records.length = ((ds.map Prod.fst).map fun e => 46 + e.zipName.length).sum := by
  induction ds with
  | nil => rfl
  | cons p ds ih =>
    rw [records, List.flatMap_cons, ← records, List.length_append, ih, List.map_cons, List.map_cons,
      List.sum_cons]
    simp [ZipEntry.centralRecord, ZipEntry.seal]
    omega

@[simp] theorem length_eocdRecord (count size offset : ℕ) : (eocdRecord count size offset).length = 22 := by
  simp [eocdRecord]

/-- **The bytes streamed**, when nothing is short. -/
theorem length_streamed
    (hwhole : Along Stream.step Stream.Whole (.start (some (archiveOf entries t deadline))) is)
    (hdone : (Machine.run Stream.step (.start (some (archiveOf entries t deadline))) is).ar = none) :
    (Machine.run Stream.step (.start (some (archiveOf entries t deadline))) is).out.length
      = zipSize entries := by
  obtain ⟨ds, hds, hfilled, hout⟩ := (Streaming.done hwhole).2 hdone
  rw [hout, List.length_append, List.length_append, Sent.length_bodies hfilled, Sent.length_records,
    hds, map_placeEntries _ (fun _ _ => rfl), map_placeEntries _ (fun _ _ => rfl), length_eocdRecord]
  rfl

end

/-! ### A link that takes everything -/

/-- A stream on the serial link at a clock that stands still, with names that leave a piece of it
within what the link takes at once. -/
structure CalmStream (ar : Archive) : Prop where
  source : ar.source = .serial
  deadline : ar.deadline = kArchiveIdleTimeoutMs
  names : ∀ e ∈ ar.entries, e.zipName.length ≤ 100

section

variable {sd : Sd.SdIo} {c : Controller} {ar next : Archive}

theorem millis_calm (k : ℕ) : (Env.calm sd).millis k = 0 := Nat.zero_mod _

theorem sentWhole_calm {bytes : List UInt8} (hresp : (c.source .serial).resp = [])
    (hlen : bytes.length ≤ 4096) : SentWhole (.calm sd) c .serial bytes := by
  have hspin : Source.spinFlush ((0 + Source.respTimeoutMs) % 2 ^ 32) [⟨4096, 0, true, 4096⟩]
      (c.source .serial) = c.source .serial := by
    unfold Source.spinFlush
    rw [if_pos hresp]
  unfold SentWhole Env.calm Source.sendRaw
  dsimp only
  rw [hspin]
  cases bytes with
  | nil => rfl
  | cons b bytes =>
    have hall : min 4096 (b :: bytes).length = (b :: bytes).length := Nat.min_eq_right hlen
    unfold Source.writeSerial
    dsimp only
    rw [if_neg (by decide), hall, List.drop_length]
    exact Nat.zero_add _

theorem CalmStream.length_chunk (h : CalmStream ar) (env : Env) (card : Card) :
    (ar.chunk env card).length ≤ 4096 := by
  have hname : ∀ e, ar.entries[ar.entryIdx]? = some e → e.zipName.length ≤ 100 := fun e he =>
    h.names e (List.mem_of_getElem? he)
  have hdata : (ar.dataChunk env card).length ≤ 4096 := by
    unfold Archive.dataChunk
    cases ar.file with
    | none => simp [chunkBytes]
    | some file =>
      dsimp only
      split_ifs
      · rw [Card.read, List.length_take, chunkBytes]
        omega
      · simp [chunkBytes]
  unfold Archive.chunk
  split
  next e _ he =>
    have := hname e he
    simp [ZipEntry.localHeader]
    omega
  next =>
    split_ifs
    · exact Nat.zero_le _
    · exact hdata
  next e _ he =>
    simp [ZipEntry.dataDescriptor]
  next e _ he =>
    have := hname e he
    simp [ZipEntry.centralRecord]
    omega
  next => rw [length_eocdRecord]; decide
  next => exact Nat.zero_le _

theorem CalmStream.step (h : CalmStream ar)
    (hnext : (c.archiveStep (.calm sd) ar).transfers.ar = some next) : CalmStream next := by
  have hsend : ∀ {bytes : List UInt8} {n : Archive},
      (c.archiveSend (.calm sd) ar bytes n).transfers.ar = some next → n = next := by
    intro bytes n hn
    unfold Controller.archiveSend at hn
    dsimp only at hn
    split_ifs at hn
    · cases hn
    · exact Option.some.inj hn
  have hdue : Link.due ((Env.calm sd).millis 0) ar.deadline = false := by
    rw [h.deadline, millis_calm]
    decide
  have hdeadline : ((Env.calm sd).millis 1 + kArchiveIdleTimeoutMs) % 2 ^ 32
      = kArchiveIdleTimeoutMs := by
    rw [millis_calm]
    decide
  unfold Controller.archiveStep at hnext
  rw [hdue, if_neg Bool.false_ne_true, hdeadline] at hnext
  dsimp only at hnext
  split at hnext
  next => exact hsend hnext ▸ ⟨h.source, rfl, h.names⟩
  next e _ he =>
    split_ifs at hnext
    · obtain rfl := Option.some.inj hnext
      refine ⟨h.source, h.deadline, fun x hx => ?_⟩
      rcases List.mem_or_eq_of_mem_set hx with hx | rfl
      · exact h.names x hx
      · exact h.names e (List.mem_of_getElem? he)
    · rw [Controller.archiveData_eq] at hnext
      exact hsend hnext ▸ ⟨h.source, hdeadline, h.names⟩
  next => exact hsend hnext ▸ ⟨h.source, rfl, h.names⟩
  next => exact hsend hnext ▸ ⟨h.source, rfl, h.names⟩
  next => cases hnext
  next => cases hnext

/-- Such a stream is whole. -/
theorem CalmStream.whole (h : CalmStream ar) (hresp : (c.source .serial).resp = []) (n : ℕ) :
    Along Stream.step Stream.Whole (.start (some ar)) (List.replicate n (.calm sd, c)) := by
  refine along_of_inv (I := fun s : Stream => ∀ ar, s.ar = some ar → CalmStream ar) ?_ ?_
  · intro s i hi hcalm
    obtain rfl := List.eq_of_mem_replicate hi
    constructor
    · unfold Stream.Whole
      cases har : s.ar with
      | none => trivial
      | some ar =>
        have h := hcalm ar har
        refine ⟨by rw [h.deadline, millis_calm]; decide, ?_⟩
        rw [h.source]
        exact sentWhole_calm hresp (h.length_chunk _ _)
    · intro next hnext
      cases har : s.ar with
      | none =>
        unfold Stream.step at hnext
        rw [har] at hnext
        cases hnext
      | some ar =>
        unfold Stream.step Controller.serviceArchive at hnext
        rw [har] at hnext
        have hcall : ((c.withAr (some ar)).archiveStep (.calm sd) ar).transfers.ar = some next := hnext
        exact (hcalm ar har).step hcall
  · intro x hx
    exact Option.some.inj hx ▸ h

end

/-! ### What is announced -/

section

variable {env : Env} {c c' : Controller} {t : Transport} {reply : Reply}

/-- An archive that is not refused is armed, and announced with its size. -/
theorem handleGetSdArchive_started (h : c.handleGetSdArchive env t = (c', reply))
    (hstatus : reply.status = 0) :
    c'.transfers.ar = some (archiveOf (collectEntries env c.store) t
      ((env.millis 0 + kArchiveIdleTimeoutMs) % 2 ^ 32)) ∧
      ofLe reply.payload = archiveSize (collectEntries env c.store) := by
  unfold Controller.handleGetSdArchive at h
  split_ifs at h with hstate har hul
  · cases h
    exact absurd hstatus (by decide)
  · cases h
    exact absurd hstatus (by decide)
  · cases h
    exact absurd hstatus (by decide)
  · cases h
    refine ⟨rfl, ofLe_toLe_of_lt ?_⟩
    have hoffset := Nat.mod_lt ((collectEntries env c.store).map fun e =>
      30 + e.zipName.length + e.fileSize + 16).sum (by decide : 2 ^ 32 > 0)
    have hsize := Nat.mod_lt ((collectEntries env c.store).map fun e =>
      46 + e.zipName.length).sum (by decide : 2 ^ 32 > 0)
    unfold archiveSize cdOffsetOf cdSizeOf
    omega

/-- The bytes of the members: local headers, data and descriptors. -/
def membersSize (entries : List ZipEntry) : ℕ :=
  (entries.map fun e => 30 + e.zipName.length + e.fileSize + 16).sum

theorem directory_le_members (entries : List ZipEntry) :
    (entries.map fun e => 46 + e.zipName.length).sum ≤ membersSize entries := by
  unfold membersSize
  induction entries with
  | nil => exact le_rfl
  | cons e rest ih =>
    rw [List.map_cons, List.map_cons, List.sum_cons, List.sum_cons]
    omega

/-- The announced size is summed up in 32 bits. -/
theorem archiveSize_eq_iff (entries : List ZipEntry) :
    zipSize entries = archiveSize entries ↔ membersSize entries < 2 ^ 32 := by
  have hle := directory_le_members entries
  unfold zipSize archiveSize cdOffsetOf cdSizeOf
  change membersSize entries + _ + 22 = membersSize entries % 2 ^ 32 + _ + 22 ↔ _
  omega

/-- **The size an archive is announced with is the number of bytes streamed just when its members
stay below 4 GB.** -/
theorem archive_size (h : c.handleGetSdArchive env t = (c', reply)) (hstatus : reply.status = 0)
    (is : List (Env × Controller))
    (hwhole : Along Stream.step Stream.Whole (.start c'.transfers.ar) is) :
    let s := run Stream.step (.start c'.transfers.ar) is
    (archiveCalls (collectEntries env c.store) ≤ is.length → s.ar = none) ∧
      (s.ar = none →
        (s.out.length = ofLe reply.payload ↔ membersSize (collectEntries env c.store) < 2 ^ 32)) := by
  obtain ⟨harmed, hsize⟩ := handleGetSdArchive_started h hstatus
  rw [harmed] at hwhole ⊢
  refine ⟨(Streaming.done hwhole).1, fun hdone => ?_⟩
  rw [length_streamed hwhole hdone, hsize]
  exact archiveSize_eq_iff _

end

section

variable {env : Env} {c c' : Controller} {t : Transport} {reply : Reply}

end

section

local instance libraryBoard : Board := ⟨.hw2_10⟩

/-- A card with one pattern, `a.pat`, and no manifest. -/
def library (content : List UInt8) : Controller where
  display := (setup (.cold smallCard) (.calm smallIo)).display
  store := {
    card := {
      key := id
      dir := fun p => if p = .pattern (Sd.samplePat 0x61) then some 0 else none
      content := fun id => if id = 0 then content else []
      fresh := 1 }
    sd := { Sd.SdManager.reset with
      mounted := true
      patterns := [⟨Sd.samplePat 0x61, Sd.samplePat 0x61⟩] } }
  transfers := .none
  source _ := .powerOn
  halted := false

def askArchive (content : List UInt8) : Controller × Reply :=
  (library content).handleGetSdArchive (.calm smallIo) .serial

/-- Calls on a link that takes everything. -/
def archiveRun (content : List UInt8) (n : ℕ) : List (Env × Controller) :=
  List.replicate n (.calm smallIo, (askArchive content).1)

/-- The entry of the pattern. -/
def libraryEntry (content : List UInt8) : ZipEntry where
  zipName := ascii "patterns/a.pat"
  path := .pattern (Sd.samplePat 0x61)
  fileSize := content.length % 2 ^ 32
  crc32 := 0
  lhfOffset := 0

theorem library_entries (content : List UInt8) :
    collectEntries (.calm smallIo) (library content).store = [libraryEntry content] := rfl

theorem askArchive_eq (content : List UInt8) :
    askArchive content = (library content).startArchive (.calm smallIo) .serial := by
  have hoff : (setup (.cold smallCard) (.calm smallIo)).display.screen.state = .allOff := by
    decide +kernel
  unfold askArchive Controller.handleGetSdArchive
  rw [show (library content).display.screen.state = .allOff from hoff]
  rfl

theorem askArchive_status (content : List UInt8) : (askArchive content).2.status = 0 := by
  rw [askArchive_eq]
  rfl

theorem asked (content : List UInt8) : (library content).handleGetSdArchive (.calm smallIo) .serial
    = ((askArchive content).1, (askArchive content).2) := rfl

theorem library_whole (content : List UInt8) (n : ℕ) :
    Along Stream.step Stream.Whole (.start (askArchive content).1.transfers.ar)
      (archiveRun content n) := by
  unfold archiveRun
  rw [askArchive_eq]
  refine CalmStream.whole ⟨rfl, ?_, ?_⟩ rfl n
  · change ((Env.calm smallIo).millis 0 + kArchiveIdleTimeoutMs) % 2 ^ 32 = _
    rw [millis_calm]
    decide
  · intro e he
    have hname : (ascii "patterns/a.pat").length ≤ 100 := by decide
    rwa [List.mem_singleton.1 he]

/-- The archive of one pattern: what is announced and what is sent. -/
theorem library_streamed {content : List UInt8} (hlen : content.length < 2 ^ 32) :
    let is := archiveRun content (content.length + 5)
    let s := run Stream.step (.start (askArchive content).1.transfers.ar) is
    s.ar = none ∧ ofLe (askArchive content).2.payload = (content.length + 60) % 2 ^ 32 + 82 ∧
      s.out.length = content.length + 142 := by
  intro is s
  have hwhole := library_whole content (content.length + 5)
  obtain ⟨harmed, hannounced⟩ := handleGetSdArchive_started (asked content) (askArchive_status content)
  rw [library_entries] at harmed hannounced
  have hsize : (libraryEntry content).fileSize = content.length := Nat.mod_eq_of_lt hlen
  have hname : (libraryEntry content).zipName.length = 14 := (by decide : (ascii "patterns/a.pat").length = 14)
  rw [harmed] at hwhole
  have hdone : s.ar = none := by
    change (run Stream.step (.start (askArchive content).1.transfers.ar) is).ar = none
    rw [harmed]
    refine (Streaming.done hwhole).1 ?_
    unfold archiveCalls memberCalls archiveRun
    simp [hsize]
  have hout : s.out.length = zipSize [libraryEntry content] := by
    change (run Stream.step (.start (askArchive content).1.transfers.ar) is).ar = none at hdone
    change (run Stream.step (.start (askArchive content).1.transfers.ar) is).out.length = _
    rw [harmed] at hdone ⊢
    exact length_streamed hwhole hdone
  refine ⟨hdone, ?_, ?_⟩
  · rw [hannounced]
    simp [archiveSize, cdOffsetOf, cdSizeOf, hsize, hname]
    omega
  · rw [hout]
    simp [zipSize, hsize, hname]
    omega

theorem archive_size_small :
    let s := run Stream.step (.start (askArchive [1, 2, 3]).1.transfers.ar) (archiveRun [1, 2, 3] 8)
    s.ar = none ∧ s.out.length = ofLe (askArchive [1, 2, 3]).2.payload := by
  have h := archive_size (asked [1, 2, 3]) (askArchive_status _) (archiveRun [1, 2, 3] 8)
    (library_whole _ 8)
  rw [library_entries] at h
  have hdone := h.1 (by decide)
  exact ⟨hdone, (h.2 hdone).2 (by decide)⟩

/-- A pattern one byte short of 4 GB is announced as 141 bytes. -/
theorem archive_size_wraps :
    let content := List.replicate 4294967295 (0 : UInt8)
    let is := archiveRun content (content.length + 5)
    let s := run Stream.step (.start (askArchive content).1.transfers.ar) is
    (askArchive content).2.status = 0 ∧
      Along Stream.step Stream.Whole (.start (askArchive content).1.transfers.ar) is ∧ s.ar = none ∧
      ofLe (askArchive content).2.payload = 141 ∧ s.out.length = 4294967437 := by
  intro content
  have hlen : content.length = 4294967295 := List.length_replicate
  have hshort : content.length < 2 ^ 32 := by omega
  obtain ⟨hdone, hannounced, hout⟩ := library_streamed hshort
  refine ⟨askArchive_status _, library_whole _ _, hdone, ?_, ?_⟩
  · rw [hannounced, hlen]
    rfl
  · rw [hout, hlen]

end

end Command
end G6Arena
