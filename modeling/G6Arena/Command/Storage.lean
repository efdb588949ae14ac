/-
# What a command does to the store

The inversion of `processCommand` as far as the card, the list of patterns and the transfers go
(`processCommand_stores`): most commands leave all three, and the others are the calls of the
store, each with the guard its handler has checked.
-/

import G6Arena.Command.Firmware
import G6Arena.Command.Machine
import G6Arena.Sd.Files

namespace G6Arena
namespace Command

open ByteMem Link
open Sd (Card ControllerError Entry FileId FilesKept SamePatterns Store)

namespace Controller

section

variable [Board]

/-- What a command that is handled does to a store `s` and transfers `x`, in a state of the
display. -/
inductive Stores (env : Env) (t : Transport) (cmd : ParsedCommand) (state : ArenaState) (s : Store)
    (x : Transfers) (s' : Store) (x' : Transfers) : Prop
  | same (store : s' = s) (transfers : x' = x)
  | seek (legacy : Bool) (store : s' = { s with sd := { s.sd with legacySeek := legacy } })
      (transfers : x' = x)
  /-- a trial, or `SET_PATTERN_ID` -/
  | opened (patternId : ℕ) (idle : x.active = false) (store : s' = (s.openPattern env.sd patternId).1)
      (transfers : x' = x)
  | renamed (idx : ℕ) (name : Sd.Name) (idle : x.active = false)
      (store : s' = (s.renamePattern env.sd idx name).1) (transfers : x' = x)
  | purged (idle : x.active = false) (store : s' = (s.purgeMemory env.sd).1) (transfers : x' = x)
  | deleted (idx : ℕ) (err : ControllerError) (bulk : cmd.isBulk = false)
      (stream : cmd.isStream = false) (sound : cmd.dataLen - 1 = claimedLen cmd.data)
      (claimed : claimedLen cmd.data = 3)
      (opcode : ArenaCommand.ofByte (cmd.data 1) = some (.store .deletePatternFile))
      (index : idx = wordAt cmd.data 2 2) (free : x.patternBusy idx = false)
      (run : s.deletePattern env.sd idx = (s', err))
      (transfers : x' = if err = .ceNone then shiftTransfers idx x else x)
  | downloads (entry : Entry) (dl : Download) (off : state = .allOff) (free : x.dl = none)
      (idx : dl.idx = wordAt cmd.data 2 2) (listed : dl.idx ≠ 0)
      (busy : x.patternBusy dl.idx = false) (pattern : s.sd.pattern? dl.idx = some entry)
      (file : s.card.file entry.path = some dl.file) (pos : dl.pos = 0) (source : dl.source = t)
      (size : dl.remaining = (s.card.content dl.file).length % 2 ^ 32) (store : s' = s)
      (transfers : x' = { x with dl := some dl })
  | archives (deadline : ℕ) (off : state = .allOff) (free : x.ar = none) (quiet : x.ul = none)
      (store : s' = s)
      (transfers : x' = { x with
        ar := some (archiveOf (collectEntries (env.call 5) s) t deadline) })
  | firmware (idle : x.active = false) (kept : FilesKept s.card s'.card)
      (spared : ∀ id, Card.Spared id s.card s'.card) (patterns : SamePatterns s.card s'.card)
      (sd : s'.sd = s.sd) (transfers : x' = x)
  /-- an upload that finds no file to write to, after it has removed the old one -/
  | refuses (entry : Entry) (quiet : x.ul = none)
      (free : x.dl.any (·.idx = wordAt cmd.data 1 2) = false) (still : x.ar = none)
      (target : s.sd.target (wordAt cmd.data 1 2) = some entry)
      (failed : (uploadCard (env.call 1) entry s.card).2 = none)
      (store : s' = ⟨(uploadCard (env.call 1) entry s.card).1, s.sd⟩) (transfers : x' = x)
  | uploads (entry : Entry) (id : FileId) (opcode : cmd.cmd = setPatternFileCmd)
      (len : cmd.bulkPayloadLen ≠ 0) (off : state = .allOff) (quiet : x.ul = none)
      (free : x.dl.any (·.idx = wordAt cmd.data 1 2) = false) (still : x.ar = none)
      (target : s.sd.target (wordAt cmd.data 1 2) = some entry)
      (opened : (uploadCard (env.call 1) entry s.card).2 = some id)
      (store : s' = ⟨(uploadCard (env.call 1) entry s.card).1, s.sd⟩)
      (transfers : x' = { x with
        ul := some (newUpload (env.call 1) t (wordAt cmd.data 1 2) cmd.bulkPayloadLen entry id) })

variable {env : Env} {t : Transport} {cmd : ParsedCommand} {c c' : Controller}

/-! ### The firmware -/

/-- What leaves the files of patterns and the directory they are in. -/
structure LeavesPatterns (card card' : Card) : Prop where
  kept : FilesKept card card'
  spared : ∀ id, Card.Spared id card card'
  patterns : SamePatterns card card'

omit [Board] in
theorem LeavesPatterns.trans {card card' card'' : Card} (h : LeavesPatterns card card')
    (h' : LeavesPatterns card' card'') : LeavesPatterns card card'' :=
  ⟨h.kept.trans h'.kept, fun id => (h.spared id).trans (h'.spared id), h.patterns.trans h'.patterns⟩

omit [Board] in
theorem remove_leavesPatterns {p : Sd.Path} (hp : Sd.IsSystem p) (ok : Bool) (card : Card) :
    LeavesPatterns card (card.remove ok p).1 :=
  ⟨Sd.remove_kept .., fun _ => Card.remove_spared .., Sd.remove_same hp ..⟩

omit [Board] in
theorem openWrite_leavesPatterns {p : Sd.Path} (hp : Sd.IsSystem p) (ok : Bool) (card : Card) :
    LeavesPatterns card (card.openWrite ok p).1 :=
  ⟨Sd.openWrite_kept .., fun _ => Card.openWrite_spared .., Sd.openWrite_same hp ..⟩

omit [Board] in
theorem append_leavesPatterns {card : Card} {p : Sd.Path} (hp : Sd.IsSystem p) {id : FileId}
    (hid : card.file p = some id) (bytes : List UInt8) : LeavesPatterns card (card.append id bytes) := by
  have hne {j : FileId} (hj : card.Apart j) : j ≠ id := by
    rintro rfl
    rw [Card.file, hp.entry] at hid
    exact hj.entry p hp hid
  refine ⟨Sd.append_kept .., fun j => ⟨fun hj => ?_, fun hj => ?_⟩, Sd.append_same ..⟩
  · exact (Card.append_spared (hne hj) bytes card).apart hj
  · exact (Card.append_spared (hne hj) bytes card).content hj

/-- An upload of firmware leaves the patterns. -/
theorem handleSetFirmwareFile_stores (env : Env) (t : Transport) (total : ℕ) (c : Controller) :
    (c.handleSetFirmwareFile env t total).store = c.store ∨
    (c.transfers.active = false ∧ (c.handleSetFirmwareFile env t total).store.sd = c.store.sd ∧
      LeavesPatterns c.store.card (c.handleSetFirmwareFile env t total).store.card) := by
  rcases handleSetFirmwareFile_cases env t total c with
    ⟨reply, -, heq⟩ | ⟨-, hidle, card, rfl, hopen⟩
  · rw [heq, rejectBulk_eq]
    exact .inl rfl
  · refine .inr ⟨hidle, ?_⟩
    have hfirmware := Sd.isSystem_firmware
    have hremoved := remove_leavesPatterns hfirmware (env.sd.ok (.remove .firmware)) c.store.card
    have hopened := hremoved.trans
      (openWrite_leavesPatterns hfirmware (env.sd.ok (.openWrite .firmware)) _)
    rcases hopen with ⟨-, heq⟩ | ⟨id, hid, heq⟩
    · rw [heq, rejectBulk_eq]
      exact ⟨rfl, hopened⟩
    · have hfile := Card.file_openWrite_self hid
      have hwritten (bytes : List UInt8) := hopened.trans (append_leavesPatterns hfirmware hfile bytes)
      rw [heq]
      generalize ((c.store.card.remove (env.sd.ok (.remove .firmware)) .firmware).1.openWrite
        (env.sd.ok (.openWrite .firmware)) .firmware).1 = card at hwritten
      generalize hread : firmwareRead t env.firmware (env.millis 0) total (c.source t) = next
      obtain ⟨r, stop⟩ := next
      by_cases hstop : stop = .whole
      · subst hstop
        rw [storeFirmware_whole (c := c.withCard card) hread]
        exact ⟨rfl, hwritten _⟩
      · obtain ⟨written, text, heq⟩ : ∃ written text, (c.withCard card).storeFirmware env t id total = _ :=
          storeFirmware_failed hread hstop
        rw [heq, rejectBulk_eq]
        exact ⟨rfl, (hwritten written).trans (remove_leavesPatterns hfirmware ..)⟩

theorem handleSetFirmwareFile_transfers (env : Env) (t : Transport) (total : ℕ) (c : Controller) :
    (c.handleSetFirmwareFile env t total).transfers = c.transfers := by
  rcases handleSetFirmwareFile_cases env t total c with
    ⟨reply, -, heq⟩ | ⟨-, -, card, -, ⟨-, heq⟩ | ⟨id, -, heq⟩⟩
  · rw [heq, rejectBulk_eq]
    rfl
  · rw [heq, rejectBulk_eq]
    rfl
  · rw [heq]
    exact (storeFirmware_cardOnly id total).transfers

/-! ### Commands -/

theorem handleBulkWriteCommand_stores {handoff : Bool}
    (h : c.handleBulkWriteCommand (env.call 1) t cmd = (c', handoff)) :
    Stores env t cmd c.display.screen.state c.store c.transfers c'.store c'.transfers := by
  rcases handleBulkWriteCommand_cases h with ⟨-, -, rfl⟩ | ⟨-, reply, -, rfl⟩ | ⟨hcmd, hupload⟩
  · have htransfers := handleSetFirmwareFile_transfers (env.call 1) t cmd.bulkPayloadLen c
    rcases handleSetFirmwareFile_stores (env.call 1) t cmd.bulkPayloadLen c with
      heq | ⟨hidle, hsd, hleaves⟩
    · exact .same heq htransfers
    · exact .firmware hidle hleaves.kept hleaves.spared hleaves.patterns hsd htransfers
  · rw [rejectBulk_eq]
    exact .same rfl rfl
  · rcases handleSetPatternFile_cases hupload with
      ⟨-, reply, -, ⟨-, rfl⟩ | ⟨-, rfl⟩⟩ |
      ⟨hlen, hstate, hul, hdl, har, entry, hentry, ⟨-, hid, rfl⟩ | ⟨-, id, hid, rfl⟩⟩
    · exact .same rfl rfl
    · rw [rejectBulk_eq]
      exact .same rfl rfl
    · rw [rejectBulk_eq]
      exact .refuses entry hul hdl har hentry hid rfl rfl
    · exact .uploads entry id hcmd hlen hstate hul hdl har hentry hid rfl rfl

theorem storeCommand_stores {command : StoreCommand} {reply : Reply} (hbulk : cmd.isBulk = false)
    (hstream : cmd.isStream = false) (hsound : cmd.dataLen - 1 = claimedLen cmd.data)
    (hcommand : ArenaCommand.ofByte (cmd.data 1) = some (.store command))
    (h : c.storeCommand (env.call 5) t cmd.data command = (c', reply)) :
    Stores env t cmd c.display.screen.state c.store c.transfers c'.store c'.transfers := by
  cases command with
  | trialParams =>
    rcases handleTrialParams_cases h with ⟨-, rfl, -⟩ | ⟨hidle, ⟨_, rfl, -⟩ |
      ⟨_, _, _, _, _, _, _, c₁, _, -, -, hrun, ⟨-, rfl, -⟩ | ⟨-, rfl, -⟩⟩⟩
    · exact .same rfl rfl
    · exact .same rfl rfl
    · obtain ⟨display, store, hdisplay, rfl⟩ := enterPatternMode_cases hrun
      exact .opened _ hidle (Display.enterPatternMode_cases hdisplay).1 rfl
    · obtain ⟨display, store, hdisplay, rfl⟩ := enterPatternMode_cases hrun
      exact .opened _ hidle (Display.enterPatternMode_cases hdisplay).1 rfl
  | setPatternId =>
    rcases handleSetPatternId_cases h with rfl | ⟨hidle, _, _, hrun⟩
    · exact .same rfl rfl
    · obtain ⟨display, store, hdisplay, rfl⟩ := enterPatternMode_cases hrun
      exact .opened _ hidle (Display.enterPatternMode_cases hdisplay).1 rfl
  | setPatternFilename =>
    rcases handleSetPatternFilename_cases h with rfl | ⟨hidle, _, _, rfl⟩
    · exact .same rfl rfl
    · exact .renamed _ _ hidle rfl rfl
  | getPatternFile =>
    rcases handleGetPatternFile_cases h with
      rfl | ⟨hoff, hdl, idx, entry, id, hidx, hpos, hbusy, hentry, hopen, rfl, -⟩
    · exact .same rfl rfl
    · have hfile : c.store.card.file entry.path = some id := by
        unfold Card.openRead at hopen
        split_ifs at hopen
        exact hopen
      exact .downloads entry _ hoff hdl hidx hpos hbusy hentry hfile rfl rfl rfl rfl rfl
  | deletePatternFile =>
    rcases handleDeletePatternFile_cases h with
      rfl | ⟨idx, store, err, hlen, hidx, hbusy, hrun, ⟨herr, rfl⟩ | ⟨herr, rfl⟩⟩
    · exact .same rfl rfl
    · exact .deleted idx err hbulk hstream hsound hlen hcommand hidx hbusy hrun (by rw [if_neg herr])
    · exact .deleted idx err hbulk hstream hsound hlen hcommand hidx hbusy hrun (by rw [if_pos herr])
  | purgeMemory =>
    rcases handlePurgeMemory_cases h with rfl | ⟨-, hidle, rfl⟩
    · exact .same rfl rfl
    · exact .purged hidle rfl rfl
  | getSdArchive =>
    rcases handleGetSdArchive_cases h with rfl | ⟨hoff, har, hul, rfl, -⟩
    · exact .same rfl rfl
    · exact .archives _ hoff har hul rfl rfl
  | setSdDiag =>
    rcases handleSetSdDiag_cases h with rfl | ⟨legacy, _, hstore, htransfers, -⟩
    · exact .same rfl rfl
    · exact .seek legacy hstore htransfers
  | systemReset =>
    cases h
    exact .same rfl rfl

theorem dispatch_stores {reply : Reply} {dataLen : ℕ} (hbulk : cmd.isBulk = false)
    (hstream : cmd.isStream = false) (hsound : cmd.dataLen - 1 = claimedLen cmd.data)
    (h : c.dispatch (env.call 5) t cmd.data dataLen = (c', reply)) :
    Stores env t cmd c.display.screen.state c.store c.transfers c'.store c'.transfers := by
  unfold dispatch at h
  split at h
  · cases h
    exact .same rfl rfl
  · next command hcommand => exact storeCommand_stores hbulk hstream hsound hcommand h
  · cases h
    exact .same rfl rfl

/-- What happens around a handler does not matter. -/
theorem Stores.of_sameCore {c₀ c₁ : Controller}
    (h : Stores env t cmd c₀.display.screen.state c₀.store c₀.transfers c₁.store c₁.transfers)
    (hbefore : SameCore c c₀) (hafter : SameCore c₁ c') :
    Stores env t cmd c.display.screen.state c.store c.transfers c'.store c'.transfers := by
  rwa [hbefore.display.screen, hbefore.store, hbefore.transfers, ← hafter.store,
    ← hafter.transfers] at h

theorem handleCommand_stores {handoff : Bool} (h : c.handleCommand env t cmd = (c', handoff)) :
    Stores env t cmd c.display.screen.state c.store c.transfers c'.store c'.transfers := by
  unfold handleCommand at h
  split at h
  · dsimp only at h
    have hbefore := noteWatchdog_sameCore (decide (cmd.cmd = setFirmwareFileCmd) && !env.watchdog [0])
      (env.clock 0) cmd.cmd c
    generalize hcall : (Controller.noteWatchdog _ _ _ _).handleBulkWriteCommand _ _ _ = r at h
    obtain ⟨c₂, handoff'⟩ := r
    cases h
    exact (handleBulkWriteCommand_stores hcall).of_sameCore hbefore (noteWatchdog_sameCore ..)
  next hbulk =>
  split at h
  · cases h
    exact .same rfl rfl
  · next hstream =>
    cases h
    have hbinary : cmd.isBulk = false := by simpa using hbulk
    have hstream : cmd.isStream = false := by simpa using hstream
    by_cases hlen : cmd.dataLen - 1 = claimedLen cmd.data
    · obtain ⟨c₁, c₂, reply, hbefore, -, hrun, ⟨-, hafter, -⟩ | ⟨hreset, hend⟩⟩ :=
        handleBinaryCommand_cases env t c hlen
      · exact (dispatch_stores hbinary hstream hlen hrun).of_sameCore hbefore hafter
      · rw [hend]
        have hstores := (dispatch_stores hbinary hstream hlen hrun).of_sameCore hbefore (.refl c₂)
        exact hstores
    · unfold handleBinaryCommand
      rw [if_pos hlen]
      exact .same rfl rfl

/-- **What a command does to the store and the transfers.** -/
theorem processCommand_stores (env : Env) (t : Transport) (c : Controller) :
    c.processCommand env t = c ∨
    ((c.source t).hasCommand = true ∧ c.transfers.owns t = false ∧
      Stores env t (c.source t).rx.parsedCmd c.display.screen.state c.store c.transfers
        (c.processCommand env t).store (c.processCommand env t).transfers) := by
  rcases processCommand_cases env t c with ⟨-, h⟩ | ⟨hready, howns, c₁, handoff, hcall, h⟩
  · exact .inl h
  refine .inr ⟨hready, howns, ?_⟩
  have hafter : SameCore c₁ (c.processCommand env t) := by
    rw [h]
    split_ifs
    · exact .refl c₁
    · exact ⟨.refl _, rfl, rfl, rfl⟩
  exact (handleCommand_stores hcall).of_sameCore ⟨.refl _, rfl, rfl, rfl⟩ hafter

/-! ### The card -/

omit [Board] in
theorem uploadCard_kept (env : Env) (entry : Entry) (card : Card) :
    FilesKept card (uploadCard env entry card).1 :=
  (Sd.remove_kept ..).trans (Sd.openWrite_kept ..)

theorem openPattern_card (io : Sd.SdIo) (patternId : ℕ) (s : Store) :
    (s.openPattern io patternId).1.card = s.card := by
  generalize hopen : s.openPattern io patternId = r
  obtain ⟨s', err⟩ := r
  rcases Store.openPattern_cases hopen with ⟨rfl, -⟩ | ⟨rfl, -⟩ | ⟨hcard, -⟩
  · rfl
  · rfl
  · exact hcard

/-- A command leaves the files there are, or lets them grow. -/
theorem Stores.kept {state : ArenaState} {s s' : Store} {x x' : Transfers}
    (h : Stores env t cmd state s x s' x') : FilesKept s.card s'.card := by
  cases h with
  | same store => exact store ▸ .refl _
  | seek legacy store => exact store ▸ .refl _
  | opened patternId idle store =>
    rw [store, openPattern_card]
    exact .refl _
  | renamed idx name idle store => exact store ▸ Store.renamePattern_files ..
  | purged idle store => exact store ▸ Store.purgeMemory_files ..
  | deleted idx err bulk stream sound claimed opcode index free run =>
    have hfiles := (Store.deletePattern_files env.sd idx s).1
    rwa [run] at hfiles
  | downloads entry dl off free idx listed busy pattern file pos source size store =>
    exact store ▸ .refl _
  | archives deadline off free quiet store => exact store ▸ .refl _
  | firmware idle kept => exact kept
  | refuses entry quiet free still target failed store => exact store ▸ uploadCard_kept ..
  | uploads entry id opcode len off quiet free still target opened store =>
    exact store ▸ uploadCard_kept ..

omit [Board] in
theorem failUpload_kept (env : Env) (msg : List UInt8) (ul : Upload) (c : Controller) :
    FilesKept c.store.card (c.failUpload env msg ul).2.store.card := Sd.remove_kept ..

omit [Board] in
theorem writeChunk_kept {chunk : List UInt8} {ul ul' : Upload}
    (h : (if ul.phase = .writing then c.writeChunk env chunk ul else (ul, c)) = (ul', c')) :
    FilesKept c.store.card c'.store.card := by
  split_ifs at h
  · rcases writeChunk_cases h with ⟨-, -, rfl⟩ | ⟨-, hfail⟩
    · exact Sd.append_kept ..
    · have hkept := failUpload_kept env (ascii "SD write error (card full?)") ul (c.withCard
        (c.store.card.append ul.file (chunk.take (env.sd.cap (.write ul.path 0)))))
      rw [hfail] at hkept
      exact (Sd.append_kept ..).trans hkept
  · cases h
    exact .refl _

theorem serviceUpload_kept (env : Env) (c : Controller) :
    FilesKept c.store.card (c.serviceUpload env).store.card := by
  have hread (ul : Upload) : FilesKept c.store.card (c.readChunk env ul).store.card := by
    unfold readChunk
    dsimp only
    split_ifs
    · exact .refl _
    · generalize ((c.source ul.source).readBulkBytes ul.source env.cap
        (min ul.remaining chunkBytes)).2 = chunk
      obtain ⟨ul₁, c₁, deadline, hwrite, hend⟩ := takeChunk_cases env chunk ul (c.onSource ul.source
        fun _ => ((c.source ul.source).readBulkBytes ul.source env.cap (min ul.remaining chunkBytes)).1)
      have hkept := writeChunk_kept hwrite
      rcases hend with ⟨-, -, hend⟩ | ⟨-, -, hend⟩ | ⟨-, hend⟩ <;> rw [hend] <;> exact hkept
  unfold serviceUpload
  split
  · exact .refl _
  unfold uploadStep
  split
  · split
    · exact Sd.remove_kept ..
    · exact hread _
  · split
    · exact .refl _
    · exact hread _

omit [Board] in
theorem serviceDisconnects_kept (env : Env) (c : Controller) :
    FilesKept c.store.card (c.serviceDisconnects env).store.card := by
  have hdl : c.disconnectDownload.store = c.store := by
    unfold disconnectDownload
    split
    · split_ifs <;> rfl
    · rfl
  have hul (c : Controller) : FilesKept c.store.card (c.disconnectUpload env).store.card := by
    unfold disconnectUpload
    split
    · split_ifs
      · exact .refl _
      · exact Sd.remove_kept ..
    · exact .refl _
  have har (c : Controller) : c.disconnectArchive.store = c.store := by
    unfold disconnectArchive
    split
    · split_ifs <;> rfl
    · rfl
  unfold serviceDisconnects
  rw [har, ← hdl]
  exact hul _

/-- A service that sends what it reads: it leaves the store, and the uploads. -/
structure Sends (c c' : Controller) : Prop where
  store : c'.store = c.store
  ul : c'.transfers.ul = c.transfers.ul
  flushed : ∀ t, Flushed (c.source t) (c'.source t)

omit [Board] in
theorem Sends.refl (c : Controller) : Sends c c := ⟨rfl, rfl, fun _ => .refl _⟩

omit [Board] in
theorem sendRaw_sends (t : Transport) (io : TxIo) (buf : List UInt8) (c : Controller) (u : Transport) :
    Flushed (c.source u) ((c.onSource t fun _ => ((c.source t).sendRaw t io buf).1).source u) := by
  by_cases hu : u = t
  · subst hu
    rw [onSource_self]
    exact sendRaw_flushed ..
  · rw [onSource_of_ne _ _ _ hu]
    exact .refl _

omit [Board] in
theorem serviceDownload_sends (env : Env) (c : Controller) : Sends c (c.serviceDownload env) := by
  unfold serviceDownload
  split
  · exact .refl c
  next dl hdl =>
  have hend : Sends c (c.withDl none) := ⟨rfl, rfl, fun _ => .refl _⟩
  unfold downloadStep
  dsimp only
  generalize c.store.card.read _ _ _ _ = chunk
  have hsent := sendRaw_sends dl.source env.tx chunk c
  split_ifs
  · exact hend
  · exact hend
  · exact hend
  · exact ⟨rfl, rfl, hsent⟩
  · exact ⟨rfl, rfl, hsent⟩
  · exact ⟨rfl, rfl, hsent⟩

omit [Board] in
theorem archiveSend_sends (env : Env) (ar next : Archive) (bytes : List UInt8) (c : Controller) :
    Sends c (c.archiveSend env ar bytes next) := by
  have hsent := sendRaw_sends ar.source env.tx bytes c
  unfold archiveSend
  dsimp only
  split_ifs
  · exact ⟨rfl, rfl, hsent⟩
  · exact ⟨rfl, rfl, hsent⟩

omit [Board] in
theorem serviceArchive_sends (env : Env) (c : Controller) : Sends c (c.serviceArchive env) := by
  unfold serviceArchive
  split
  · exact .refl c
  next ar har =>
  have hend (ar' : Option Archive) : Sends c (c.withAr ar') := ⟨rfl, rfl, fun _ => .refl _⟩
  unfold archiveStep
  dsimp only
  split
  · exact hend none
  split
  · exact archiveSend_sends ..
  · split
    · exact hend _
    · unfold archiveData
      dsimp only
      split
      · split <;> exact archiveSend_sends ..
      · exact archiveSend_sends ..
  · exact archiveSend_sends ..
  · exact archiveSend_sends ..
  · have hsent := sendRaw_sends ar.source env.tx
      (eocdRecord ar.entries.length ar.cdSize ar.cdOffset) c
    exact ⟨rfl, rfl, hsent⟩
  · exact hend none

/-- **A step keeps the card well formed and its files growing.** -/
theorem step_kept (c : Controller) (i : Action × Env) :
    FilesKept c.store.card (c.step i).store.card := by
  unfold step
  split_ifs
  · exact .refl _
  obtain ⟨a, env⟩ := i
  cases a with
  | arrive t bytes => exact .refl _
  | disconnect => exact .refl _
  | service t accepted => exact .refl _
  | processCommand t =>
    change FilesKept c.store.card (c.processCommand env t).store.card
    rcases processCommand_stores env t c with heq | ⟨-, -, hstores⟩
    · rw [heq]
      exact .refl _
    · exact hstores.kept
  | serviceDisplay => exact .refl _
  | serviceTelemetry => exact .refl _
  | serviceDownload =>
    change FilesKept c.store.card (c.serviceDownload env).store.card
    rw [(serviceDownload_sends env c).store]
    exact .refl _
  | serviceUpload => exact serviceUpload_kept env c
  | serviceArchive =>
    change FilesKept c.store.card (c.serviceArchive env).store.card
    rw [(serviceArchive_sends env c).store]
    exact .refl _
  | serviceDisconnects => exact serviceDisconnects_kept env c
  | serviceLateBootBlank => exact .refl _
  | flushResponses t => exact .refl _
  | refreshIsr => exact .refl _

omit [Board] in
theorem begin_kept (io : Sd.SdIo) (card : Card) :
    FilesKept card ((Store.powerOn card).begin_ io).card := by
  unfold Store.begin_
  dsimp only
  split_ifs
  · exact Sd.writeManifest_kept ..
  · exact .refl _

theorem run_kept (c : Controller) (is : List (Action × Env)) :
    FilesKept c.store.card (Machine.run step c is).store.card := by
  induction is generalizing c with
  | nil => exact .refl _
  | cons i is ih => exact (step_kept c i).trans (ih _)

/-- The card stays well formed. -/
theorem run_wellFormed {boot : Boot} (h : boot.card.WellFormed) (env₀ : Env)
    (is : List (Action × Env)) :
    (Machine.run step (setup boot env₀) is).store.card.WellFormed :=
  (run_kept _ is).wellFormed ((begin_kept ..).wellFormed h)

end

end Controller
end Command
end G6Arena
