/-
# What a command does

One lemma per command about the store and the transfers, saying all it can do, and what
`processCommand` makes of them: before and after a handler only telemetry is written, and the
source of the command alone hears of it.
-/

import G6Arena.Command.Effects

namespace G6Arena
namespace Command

open ByteMem Link
open Sd (Card ControllerError Entry FileId Store)

namespace Controller

/-! ### Around a handler -/

/-- Controllers that differ in what their displays do not show, and in their sources. -/
structure SameCore (c c' : Controller) : Prop where
  display : Display.SameView c.display c'.display
  store : c'.store = c.store
  transfers : c'.transfers = c.transfers
  halted : c'.halted = c.halted

namespace SameCore

variable {c c' c'' : Controller}

theorem refl (c : Controller) : SameCore c c := ⟨.refl _, rfl, rfl, rfl⟩

theorem trans (h : SameCore c c') (h' : SameCore c' c'') : SameCore c c'' :=
  ⟨h.display.trans h'.display, h'.store.trans h.store, h'.transfers.trans h.transfers,
    h'.halted.trans h.halted⟩

theorem onSource (h : SameCore c c') (t : Transport) (f : Source → Source) :
    SameCore c (c'.onSource t f) := ⟨h.display, h.store, h.transfers, h.halted⟩

end SameCore

/-- Controllers that differ in their cards too. -/
structure CardOnly (c c' : Controller) : Prop where
  display : Display.SameView c.display c'.display
  sd : c'.store.sd = c.store.sd
  transfers : c'.transfers = c.transfers
  halted : c'.halted = c.halted

namespace CardOnly

variable {c c' c'' : Controller}

theorem trans (h : CardOnly c c') (h' : CardOnly c' c'') : CardOnly c c'' :=
  ⟨h.display.trans h'.display, h'.sd.trans h.sd, h'.transfers.trans h.transfers,
    h'.halted.trans h.halted⟩

end CardOnly

theorem SameCore.cardOnly {c c' : Controller} (h : SameCore c c') : CardOnly c c' :=
  ⟨h.display, congrArg Store.sd h.store, h.transfers, h.halted⟩

theorem noteWatchdog_sameCore (refusedWindow : Bool) (clock : Telemetry.Clock) (command : UInt8)
    (c : Controller) : SameCore c (c.noteWatchdog refusedWindow clock command) := by
  unfold noteWatchdog
  split_ifs
  · exact ⟨Display.note_sameView .., rfl, rfl, rfl⟩
  · exact .refl c

@[simp] theorem noteWatchdog_source (refusedWindow : Bool) (clock : Telemetry.Clock)
    (command : UInt8) (c : Controller) :
    (c.noteWatchdog refusedWindow clock command).source = c.source := by
  unfold noteWatchdog
  split_ifs <;> rfl

theorem beginCommand_sameCore (env : Env) (command : UInt8) (c : Controller) :
    SameCore c (c.beginCommand env command) := by
  have hmark : SameCore c { c with display := { c.display with
      marks := { c.display.marks with lastCmdRxUs := env.micros 0 } } } :=
    ⟨⟨rfl, rfl, rfl, rfl, rfl, rfl, rfl⟩, rfl, rfl, rfl⟩
  exact hmark.trans (noteWatchdog_sameCore ..)

@[simp] theorem beginCommand_source (env : Env) (command : UInt8) (c : Controller) :
    (c.beginCommand env command).source = c.source := noteWatchdog_source ..

theorem endCommand_sameCore (env : Env) (t : Transport) (data : Mem) (c : Controller) :
    SameCore c (c.endCommand env t data) := by
  have hnote := noteWatchdog_sameCore (longOp (data 1) && !env.watchdog [2]) (env.clock 3)
    (data 1) c
  unfold endCommand
  dsimp only
  split_ifs
  · exact hnote
  · exact hnote.trans ⟨⟨rfl, rfl, rfl, rfl, rfl, rfl, rfl⟩, rfl, rfl, rfl⟩

@[simp] theorem endCommand_source (env : Env) (t : Transport) (data : Mem) (c : Controller) :
    (c.endCommand env t data).source = c.source := by
  unfold endCommand
  dsimp only
  split_ifs
  · exact noteWatchdog_source ..
  · exact noteWatchdog_source ..

section

variable {env : Env} {t : Transport} {data : Mem} {c c' : Controller} {reply : Reply}

/-! ### Commands about the store -/

/-- A rename refuses or is the one of the store, with no transfer active. -/
theorem handleSetPatternFilename_cases (h : c.handleSetPatternFilename env data = (c', reply)) :
    c' = c ∨ (c.transfers.active = false ∧ ∃ idx name,
      c' = { c with store := (c.store.renamePattern env.sd idx name).1 }) := by
  unfold handleSetPatternFilename at h
  dsimp only at h
  split_ifs at h
  · cases h
    exact .inl rfl
  · cases h
    exact .inl rfl
  · unfold renamePattern at h
    dsimp only at h
    split_ifs at h with hidx hactive herr <;> cases h
    · exact .inl rfl
    · exact .inl rfl
    · exact .inr ⟨by simpa using hactive, _, _, rfl⟩
    · exact .inr ⟨by simpa using hactive, _, _, rfl⟩

/-- A delete refuses, or is the one of the store, and moves the transfers if it succeeds. -/
theorem handleDeletePatternFile_cases (h : c.handleDeletePatternFile env data = (c', reply)) :
    c' = c ∨ ∃ idx store err, claimedLen data = 3 ∧ idx = wordAt data 2 2 ∧
      c.transfers.patternBusy idx = false ∧
      c.store.deletePattern env.sd idx = (store, err) ∧
      ((err ≠ .ceNone ∧ c' = { c with store := store }) ∨
        (err = .ceNone ∧
          c' = { c with store := store, transfers := shiftTransfers idx c.transfers })) := by
  unfold handleDeletePatternFile at h
  split_ifs at h with hlen
  · cases h
    exact .inl rfl
  · unfold deletePattern at h
    split_ifs at h with hbusy
    · cases h
      exact .inl rfl
    · refine .inr ⟨_, _, _, not_not.1 hlen, rfl, by simpa using hbusy, rfl, ?_⟩
      dsimp only at h
      split_ifs at h with herr <;> cases h
      · exact .inl ⟨herr, rfl⟩
      · exact .inr ⟨not_not.1 herr, rfl⟩

/-- A purge refuses, or is the one of the store, with the display off and no transfer active. -/
theorem handlePurgeMemory_cases (h : c.handlePurgeMemory env = (c', reply)) :
    c' = c ∨ (c.display.screen.state = .allOff ∧ c.transfers.active = false ∧
      c' = { c with store := (c.store.purgeMemory env.sd).1 }) := by
  unfold handlePurgeMemory at h
  dsimp only at h
  split_ifs at h with hstate hactive herr <;> cases h
  · exact .inl rfl
  · exact .inl rfl
  · exact .inr ⟨not_not.1 hstate, by simpa using hactive, rfl⟩
  · exact .inr ⟨not_not.1 hstate, by simpa using hactive, rfl⟩

/-- `SET_SD_DIAG` refuses, or sets its two switches. -/
theorem handleSetSdDiag_cases (h : c.handleSetSdDiag env data = (c', reply)) :
    c' = c ∨ ∃ legacy skip,
      c'.store = { c.store with sd := { c.store.sd with legacySeek := legacy } } ∧
      c'.transfers = c.transfers ∧ c'.source = c.source ∧ c'.halted = c.halted ∧
      c'.display.screen = { c.display.screen with
        sdCacheOk := if skip then c.display.screen.sdCacheOk else false } ∧
      c'.display.refresh = c.display.refresh ∧
      c'.display.playback = { c.display.playback with sdSkipSameIndex := skip } ∧
      c'.display.ao = c.display.ao ∧ c'.display.clocked = c.display.clocked ∧
      c'.display.marks.frameSrcFlags = c.display.marks.frameSrcFlags ∧
      c'.display.tally = c.display.tally := by
  unfold handleSetSdDiag at h
  dsimp only at h
  split_ifs at h
  · cases h
    exact .inl rfl
  · cases h
    exact .inl rfl
  · cases h
    exact .inl rfl
  · unfold setSdDiag at h
    cases h
    refine .inr ⟨_, decide (data 2 &&& 2 = 0), rfl, rfl, rfl, rfl, ?_⟩
    dsimp only
    split_ifs <;> exact ⟨rfl, rfl, rfl, rfl, rfl, rfl, rfl⟩

/-- A download refuses, or starts with the display off and no other download. -/
theorem handleGetPatternFile_cases (h : c.handleGetPatternFile env t data = (c', reply)) :
    c' = c ∨ (c.display.screen.state = .allOff ∧ c.transfers.dl = none ∧
      ∃ idx entry id, idx = wordAt data 2 2 ∧ idx ≠ 0 ∧ c.transfers.patternBusy idx = false ∧
        c.store.sd.pattern? idx = some entry ∧
        c.store.card.openRead (env.sd.ok .openRead) entry.path = some id ∧
        c' = c.withDl (some {
          file := id
          pos := 0
          source := t
          idx := idx
          remaining := (c.store.card.content id).length % 2 ^ 32
          deadline := (env.millis 0 + kDownloadIdleTimeoutMs) % 2 ^ 32 }) ∧
        reply = done getPatternFileCmd (toLe 8 ((c.store.card.content id).length % 2 ^ 32))) := by
  unfold handleGetPatternFile at h
  split_ifs at h with hstate hdl hlen
  · cases h
    exact .inl rfl
  · cases h
    exact .inl rfl
  · cases h
    exact .inl rfl
  · unfold getPatternFile at h
    split_ifs at h with hidx hbusy
    · cases h
      exact .inl rfl
    · cases h
      exact .inl rfl
    · split at h
      · cases h
        exact .inl rfl
      · next entry hentry =>
        unfold startDownload at h
        split at h
        · cases h
          exact .inl rfl
        · next id hopen =>
          cases h
          refine .inr ⟨not_not.1 hstate, by simpa using hdl, _, entry, id, rfl, ?_,
            by simpa using hbusy, hentry, hopen, rfl, rfl⟩
          exact fun h0 => hidx (.inl h0)

/-- An archive refuses, or starts with the display off and no upload. -/
theorem handleGetSdArchive_cases (h : c.handleGetSdArchive env t = (c', reply)) :
    c' = c ∨ (c.display.screen.state = .allOff ∧ c.transfers.ar = none ∧ c.transfers.ul = none ∧
      c' = c.withAr (some (archiveOf (collectEntries env c.store) t
        ((env.millis 0 + kArchiveIdleTimeoutMs) % 2 ^ 32))) ∧
      reply = done getSdArchiveCmd (toLe 8 (archiveSize (collectEntries env c.store)))) := by
  unfold handleGetSdArchive at h
  split_ifs at h with hstate har hul
  · cases h
    exact .inl rfl
  · cases h
    exact .inl rfl
  · cases h
    exact .inl rfl
  · cases h
    exact .inr ⟨not_not.1 hstate, by simpa using har, by simpa using hul, rfl, rfl⟩

/-! ### Trials -/

/-- The modes of a trial. -/
theorem trialMode_cases {b : UInt8} {mode : ArenaState} (h : trialMode b = some mode) :
    mode = .openLoop ∨ mode = .showFrame ∨ mode = .closedLoop := by
  unfold trialMode at h
  split_ifs at h <;> cases h
  · exact .inl rfl
  · exact .inr (.inl rfl)
  · exact .inr (.inr rfl)

variable [Board]

/-- What a call of `enterPatternMode` leaves of the controller. -/
theorem enterPatternMode_cases {mode : ArenaState} {patternId initFrame durationTicks : ℕ}
    {frameRateHz gain : ℤ} {ok : Bool}
    (h : c.enterPatternMode env mode patternId frameRateHz gain initFrame durationTicks = (c', ok)) :
    ∃ display store, c.display.enterPatternMode env mode patternId frameRateHz gain initFrame
        durationTicks c.store = (display, store, ok) ∧
      c' = { c with display := display, store := store } := by
  unfold enterPatternMode at h
  cases h
  exact ⟨_, _, rfl, rfl⟩

/-- `TRIAL_PARAMS` refuses, shows an error, or starts a trial, which may fail. -/
theorem handleTrialParams_cases (h : c.handleTrialParams env data = (c', reply)) :
    (c.transfers.active = true ∧ c' = c ∧ reply.status = 1) ∨
    (c.transfers.active = false ∧
      ((∃ code, c' = c.showError env code ∧ reply.status = 1) ∨
        ∃ mode duty patternId frameRateHz gain initFrame durationTicks c₁ ok,
          trialMode (data 2) = some mode ∧ durationTicks = wordAt data 11 2 ∧
          (c.withDuty duty).enterPatternMode env mode patternId frameRateHz gain initFrame durationTicks
            = (c₁, ok) ∧
          ((ok = true ∧ c' = c₁ ∧ reply.status = 0) ∨
            (ok = false ∧ c' = c₁.withDuty 0 ∧ reply.status = 1)))) := by
  unfold handleTrialParams at h
  split at h
  · next hactive =>
    cases h
    exact .inl ⟨hactive, rfl, rfl⟩
  next hactive =>
  refine .inr ⟨by simpa using hactive, ?_⟩
  split at h
  · cases h
    exact .inl ⟨_, rfl, rfl⟩
  · unfold startTrial at h
    dsimp only at h
    split at h
    · cases h
      exact .inl ⟨_, rfl, rfl⟩
    · next mode hmode =>
      split at h
      · next c₁ hrun =>
        cases h
        exact .inr ⟨mode, _, _, _, _, _, _, _, true, hmode, rfl, hrun, .inl ⟨rfl, rfl, rfl⟩⟩
      · next c₁ hrun =>
        cases h
        exact .inr ⟨mode, _, _, _, _, _, _, c₁, false, hmode, rfl, hrun, .inr ⟨rfl, rfl, rfl⟩⟩

/-- `SET_PATTERN_ID` refuses, or shows the first frame of a pattern, which may fail. -/
theorem handleSetPatternId_cases (h : c.handleSetPatternId env data = (c', reply)) :
    c' = c ∨ (c.transfers.active = false ∧ ∃ patternId ok,
      (c.withDuty 0).enterPatternMode env .showFrame patternId 0 0 0 0 = (c', ok)) := by
  unfold handleSetPatternId at h
  split_ifs at h
  · cases h
    exact .inl rfl
  · unfold setPatternId at h
    split_ifs at h with hactive
    · cases h
      exact .inl rfl
    · refine .inr ⟨by simpa using hactive, wordAt data 2 2, ?_⟩
      split at h
      · next hrun =>
        cases h
        exact ⟨false, hrun⟩
      · next hrun =>
        cases h
        exact ⟨true, hrun⟩

/-! ### Binary commands -/

/-- The handlers leave the sources to `handleBinaryCommand`. -/
theorem storeCommand_source {command : StoreCommand}
    (h : c.storeCommand env t data command = (c', reply)) :
    c'.source = c.source ∧ c'.halted = c.halted := by
  cases command with
  | trialParams =>
    rcases handleTrialParams_cases h with ⟨-, rfl, -⟩ | ⟨-, ⟨_, rfl, -⟩ |
      ⟨_, _, _, _, _, _, _, c₁, _, -, -, hrun, ⟨-, rfl, -⟩ | ⟨-, rfl, -⟩⟩⟩
    · exact ⟨rfl, rfl⟩
    · exact ⟨rfl, rfl⟩
    · obtain ⟨_, _, -, rfl⟩ := enterPatternMode_cases hrun
      exact ⟨rfl, rfl⟩
    · obtain ⟨_, _, -, rfl⟩ := enterPatternMode_cases hrun
      exact ⟨rfl, rfl⟩
  | setPatternId =>
    rcases handleSetPatternId_cases h with rfl | ⟨-, _, _, hrun⟩
    · exact ⟨rfl, rfl⟩
    · obtain ⟨_, _, -, rfl⟩ := enterPatternMode_cases hrun
      exact ⟨rfl, rfl⟩
  | setPatternFilename =>
    rcases handleSetPatternFilename_cases h with rfl | ⟨-, _, _, rfl⟩ <;> exact ⟨rfl, rfl⟩
  | getPatternFile =>
    rcases handleGetPatternFile_cases h with rfl | ⟨-, -, _, _, _, -, -, -, -, -, rfl, -⟩ <;>
      exact ⟨rfl, rfl⟩
  | deletePatternFile =>
    rcases handleDeletePatternFile_cases h with rfl | ⟨_, _, _, -, -, -, -, ⟨-, rfl⟩ | ⟨-, rfl⟩⟩ <;>
      exact ⟨rfl, rfl⟩
  | purgeMemory =>
    rcases handlePurgeMemory_cases h with rfl | ⟨-, -, rfl⟩ <;> exact ⟨rfl, rfl⟩
  | getSdArchive =>
    rcases handleGetSdArchive_cases h with rfl | ⟨-, -, -, rfl, -⟩ <;> exact ⟨rfl, rfl⟩
  | setSdDiag =>
    rcases handleSetSdDiag_cases h with rfl | ⟨_, _, -, -, hsource, hhalted, -⟩
    · exact ⟨rfl, rfl⟩
    · exact ⟨hsource, hhalted⟩
  | systemReset =>
    cases h
    exact ⟨rfl, rfl⟩

theorem dispatch_source {dataLen : ℕ} (h : c.dispatch env t data dataLen = (c', reply)) :
    c'.source = c.source ∧ c'.halted = c.halted := by
  unfold dispatch at h
  split at h
  · cases h
    exact ⟨rfl, rfl⟩
  · exact storeCommand_source h
  · cases h
    exact ⟨rfl, rfl⟩

/-- A binary command of a sound length: its case of the `switch`, then its reply. -/
theorem handleBinaryCommand_cases (env : Env) (t : Transport) (c : Controller) {dataLen : ℕ}
    (hlen : dataLen - 1 = claimedLen data) :
    ∃ c₁ c₂ reply, SameCore c c₁ ∧ c₁.source = c.source ∧
      c₁.dispatch (env.call 5) t data dataLen = (c₂, reply) ∧
      ((data 1 ≠ systemResetCmd ∧ SameCore c₂ (c.handleBinaryCommand env t data dataLen) ∧
          (c.handleBinaryCommand env t data dataLen).source
            = (c₂.onSource t (·.sendResponse reply)).source) ∨
        (data 1 = systemResetCmd ∧ c.handleBinaryCommand env t data dataLen
          = (c₂.onSource t (·.sendResponse reply)).systemReset env)) := by
  unfold handleBinaryCommand
  rw [if_neg (not_not.2 hlen)]
  refine ⟨c.beginCommand env (data 1), _, _, beginCommand_sameCore .., beginCommand_source .., rfl, ?_⟩
  dsimp only
  split_ifs with hreset
  · exact .inr ⟨hreset, rfl⟩
  · refine .inl ⟨hreset, ?_, endCommand_source ..⟩
    exact ((SameCore.refl _).onSource t _).trans (endCommand_sameCore ..)

/-! ### Bulk commands -/

omit [Board] in
theorem onSource_onSource (t : Transport) (f g : Source → Source) (c : Controller) :
    (c.onSource t f).onSource t g = c.onSource t fun s => g (f s) := by
  unfold onSource
  dsimp only
  rw [Function.update_self, Function.update_idem]

/-- A refusal changes the source of the command alone. -/
theorem rejectBulk_eq (env : Env) (t : Transport) (remaining : ℕ) (reply : Reply) (c : Controller) :
    c.rejectBulk env t remaining reply = c.onSource t fun s =>
      (drainPasses t (env.millis 8) env.drain (env.millis 8) remaining s).sendResponse reply :=
  onSource_onSource ..

/-- A firmware upload is refused, finds no file to write to, or is stored. -/
theorem handleSetFirmwareFile_cases (env : Env) (t : Transport) (totalLen : ℕ) (c : Controller) :
    (∃ reply, reply.status ≠ 0 ∧
      c.handleSetFirmwareFile env t totalLen = c.rejectBulk env t totalLen reply) ∨
    (c.display.screen.state = .allOff ∧ c.transfers.active = false ∧
      ∃ card, card = (c.store.card.remove (env.sd.ok (.remove .firmware)) .firmware).1 ∧
        (((card.openWrite (env.sd.ok (.openWrite .firmware)) .firmware).2 = none ∧
            c.handleSetFirmwareFile env t totalLen
              = (c.withCard (card.openWrite (env.sd.ok (.openWrite .firmware)) .firmware).1).rejectBulk
                env t totalLen (refused setFirmwareFileCmd "SD open failed")) ∨
          ∃ id, (card.openWrite (env.sd.ok (.openWrite .firmware)) .firmware).2 = some id ∧
            c.handleSetFirmwareFile env t totalLen
              = (c.withCard (card.openWrite (env.sd.ok (.openWrite .firmware)) .firmware).1).storeFirmware
                env t id totalLen)) := by
  unfold handleSetFirmwareFile
  dsimp only
  split_ifs with hstate hactive
  · exact .inl ⟨_, by decide, rfl⟩
  · exact .inl ⟨_, by decide, rfl⟩
  · refine .inr ⟨not_not.1 hstate, by simpa using hactive, _, rfl, ?_⟩
    split
    · next card hopen =>
      rw [hopen]
      exact .inl ⟨rfl, rfl⟩
    · next card id hopen =>
      rw [hopen]
      exact .inr ⟨id, rfl, rfl⟩

/-- The upload a command starts. -/
def newUpload (env : Env) (t : Transport) (idx totalLen : ℕ) (entry : Entry) (id : FileId) :
    Upload where
  path := entry.path
  file := id
  source := t
  idx := idx
  remaining := totalLen
  total := totalLen
  deadline := (env.millis 1 + kUploadIdleTimeoutMs) % 2 ^ 32
  drainDeadline := 0
  startMs := env.millis 0
  phase := .writing
  failStatus := 0
  failMsg := []

/-- The card of an upload that starts: the old file removed, a file opened to write. -/
def uploadCard (env : Env) (entry : Entry) (card : Card) : Card × Option FileId :=
  (card.remove (env.sd.ok (.remove entry.path)) entry.path).1.openWrite
    (env.sd.ok (.openWrite entry.path)) entry.path

/-- An upload is refused, finds no file to write to, or starts. -/
theorem handleSetPatternFile_cases {idx totalLen : ℕ} {handoff : Bool}
    (h : c.handleSetPatternFile env t idx totalLen = (c', handoff)) :
    (handoff = false ∧ ∃ reply, reply.status ≠ 0 ∧
      ((totalLen = 0 ∧ c' = c.onSource t (·.sendResponse reply)) ∨
        (totalLen ≠ 0 ∧ c' = c.rejectBulk env t totalLen reply))) ∨
    (totalLen ≠ 0 ∧ c.display.screen.state = .allOff ∧ c.transfers.ul = none ∧
      c.transfers.dl.any (·.idx = idx) = false ∧ c.transfers.ar = none ∧
      ∃ entry, c.store.sd.target idx = some entry ∧
        ((handoff = false ∧ (uploadCard env entry c.store.card).2 = none ∧
            c' = (c.withCard (uploadCard env entry c.store.card).1).rejectBulk env t totalLen
              (refused setPatternFileCmd "SD open failed")) ∨
          (handoff = true ∧ ∃ id, (uploadCard env entry c.store.card).2 = some id ∧
            c' = (c.withCard (uploadCard env entry c.store.card).1).withUl
              (some (newUpload env t idx totalLen entry id))))) := by
  unfold handleSetPatternFile at h
  split_ifs at h with h0 hstate hul hdl har
  · cases h
    exact .inl ⟨rfl, _, by decide, .inl ⟨h0, rfl⟩⟩
  · cases h
    exact .inl ⟨rfl, _, by decide, .inr ⟨h0, rfl⟩⟩
  · cases h
    exact .inl ⟨rfl, _, by decide, .inr ⟨h0, rfl⟩⟩
  · cases h
    exact .inl ⟨rfl, _, by decide, .inr ⟨h0, rfl⟩⟩
  · cases h
    exact .inl ⟨rfl, _, by decide, .inr ⟨h0, rfl⟩⟩
  · split at h
    · cases h
      exact .inl ⟨rfl, _, by decide, .inr ⟨h0, rfl⟩⟩
    · next entry hentry =>
      refine .inr ⟨h0, not_not.1 hstate, by simpa using hul, by simpa using hdl, by simpa using har,
        entry, hentry, ?_⟩
      unfold startUpload at h
      dsimp only at h
      split at h
      · next card hopen =>
        cases h
        unfold uploadCard
        rw [hopen]
        exact .inl ⟨rfl, rfl, rfl⟩
      · next card id hopen =>
        cases h
        unfold uploadCard
        rw [hopen]
        exact .inr ⟨rfl, id, rfl, rfl⟩

/-- A bulk command is a firmware upload, one nobody knows, or an upload. -/
theorem handleBulkWriteCommand_cases {cmd : ParsedCommand} {handoff : Bool}
    (h : c.handleBulkWriteCommand env t cmd = (c', handoff)) :
    (cmd.cmd = setFirmwareFileCmd ∧ handoff = false ∧
      c' = c.handleSetFirmwareFile env t cmd.bulkPayloadLen) ∨
    (handoff = false ∧ ∃ reply, reply.status ≠ 0 ∧ c' = c.rejectBulk env t cmd.bulkPayloadLen reply) ∨
    (cmd.cmd = setPatternFileCmd ∧
      c.handleSetPatternFile env t (wordAt cmd.data 1 2) cmd.bulkPayloadLen = (c', handoff)) := by
  unfold handleBulkWriteCommand at h
  split_ifs at h with hfw hother
  · cases h
    exact .inl ⟨hfw, rfl, rfl⟩
  · cases h
    exact .inr (.inl ⟨rfl, _, (by decide : (1 : UInt8) ≠ 0), rfl⟩)
  · exact .inr (.inr ⟨not_not.1 hother, h⟩)

/-! ### processCommand -/

/-- The log of a source that hands a command to its handler. -/
def noteDispatched (s : Source) : Source := { s with events := s.events ++ [.dispatched] }

/-- A source has no command or waits for its transfer, or its command is handled. -/
theorem processCommand_cases (env : Env) (t : Transport) (c : Controller) :
    (((c.source t).hasCommand = false ∨ c.transfers.owns t = true) ∧ c.processCommand env t = c) ∨
    ((c.source t).hasCommand = true ∧ c.transfers.owns t = false ∧
      ∃ c₁ handoff, (c.onSource t noteDispatched).handleCommand env t (c.source t).rx.parsedCmd
          = (c₁, handoff) ∧
        c.processCommand env t
          = if handoff || c₁.halted then c₁ else c₁.onSource t (·.commandConsumed)) := by
  unfold processCommand
  split_ifs with hskip
  · refine .inl ⟨?_, rfl⟩
    simpa using hskip
  · rw [Bool.or_eq_true, not_or, Bool.not_eq_true, Bool.not_eq_true, Bool.not_eq_false'] at hskip
    refine .inr ⟨hskip.1, hskip.2, ?_⟩
    dsimp only
    split
    · next c₁ hcall => exact ⟨c₁, true, hcall, rfl⟩
    · next c₁ hcall => exact ⟨c₁, false, hcall, rfl⟩

/-! ### The display, the store and the transfers -/

/-- Storing a firmware image changes the card and the source alone. -/
theorem storeFirmware_cardOnly (id : FileId) (totalLen : ℕ) :
    CardOnly c (c.storeFirmware env t id totalLen) := by
  unfold storeFirmware
  dsimp only
  split
  · exact ⟨.refl _, rfl, rfl, rfl⟩
  · rw [rejectBulk_eq]
    exact ⟨.refl _, rfl, rfl, rfl⟩

/-- An upload that starts, after the display and the transfers were right for it. -/
structure StartsUpload (env : Env) (t : Transport) (cmd : ParsedCommand) (c c' : Controller) :
    Prop where
  opcode : cmd.cmd = setPatternFileCmd
  len : cmd.bulkPayloadLen ≠ 0
  state : c.display.screen.state = .allOff
  ul : c.transfers.ul = none
  dl : c.transfers.dl.any (·.idx = wordAt cmd.data 1 2) = false
  ar : c.transfers.ar = none
  core : ∃ entry id, c.store.sd.target (wordAt cmd.data 1 2) = some entry ∧
    (uploadCard env entry c.store.card).2 = some id ∧
    SameCore ((c.withCard (uploadCard env entry c.store.card).1).withUl
      (some (newUpload env t (wordAt cmd.data 1 2) cmd.bulkPayloadLen entry id))) c'

omit [Board] in
/-- What happens around it does not matter. -/
theorem StartsUpload.of_sameCore {cmd : ParsedCommand} {c₀ c₁ : Controller}
    (h : StartsUpload env t cmd c₀ c₁) (hbefore : SameCore c c₀) (hafter : SameCore c₁ c') :
    StartsUpload env t cmd c c' := by
  obtain ⟨entry, id, hentry, hid, hcore⟩ := h.core
  refine ⟨h.opcode, h.len, ?_, ?_, ?_, ?_, entry, id, ?_, ?_, ?_⟩
  · rw [← hbefore.display.screen]
    exact h.state
  · rw [← hbefore.transfers]
    exact h.ul
  · rw [← hbefore.transfers]
    exact h.dl
  · rw [← hbefore.transfers]
    exact h.ar
  · rw [← hbefore.store]
    exact hentry
  · rw [← hbefore.store]
    exact hid
  · have hboth := hcore.trans hafter
    refine ⟨hbefore.display.trans hboth.display, ?_, ?_, hboth.halted.trans hbefore.halted⟩
    · rw [hboth.store]
      simp only [withUl_store, withCard, hbefore.store]
    · rw [hboth.transfers]
      simp only [withCard_transfers, withUl_transfers, hbefore.transfers]

/-- A bulk command changes the card at most, or starts an upload. -/
theorem handleBulkWriteCommand_core {cmd : ParsedCommand} {handoff : Bool}
    (h : c.handleBulkWriteCommand env t cmd = (c', handoff)) :
    (handoff = false ∧ CardOnly c c') ∨ (handoff = true ∧ StartsUpload env t cmd c c') := by
  rcases handleBulkWriteCommand_cases h with
    ⟨-, rfl, rfl⟩ | ⟨rfl, reply, -, rfl⟩ | ⟨hcmd, hupload⟩
  · refine .inl ⟨rfl, ?_⟩
    rcases handleSetFirmwareFile_cases env t cmd.bulkPayloadLen c with
      ⟨reply, -, heq⟩ | ⟨-, -, card, -, ⟨-, heq⟩ | ⟨id, -, heq⟩⟩
    · rw [heq, rejectBulk_eq]
      exact ⟨.refl _, rfl, rfl, rfl⟩
    · rw [heq, rejectBulk_eq]
      exact ⟨.refl _, rfl, rfl, rfl⟩
    · rw [heq]
      have hcard : CardOnly c
          (c.withCard (card.openWrite (env.sd.ok (.openWrite .firmware)) .firmware).1) :=
        ⟨.refl _, rfl, rfl, rfl⟩
      exact hcard.trans (storeFirmware_cardOnly ..)
  · rw [rejectBulk_eq]
    exact .inl ⟨rfl, .refl _, rfl, rfl, rfl⟩
  · rcases handleSetPatternFile_cases hupload with
      ⟨rfl, reply, -, ⟨-, rfl⟩ | ⟨-, rfl⟩⟩ |
      ⟨hlen, hstate, hul, hdl, har, entry, hentry, ⟨rfl, -, rfl⟩ | ⟨rfl, id, hid, rfl⟩⟩
    · exact .inl ⟨rfl, .refl _, rfl, rfl, rfl⟩
    · rw [rejectBulk_eq]
      exact .inl ⟨rfl, .refl _, rfl, rfl, rfl⟩
    · rw [rejectBulk_eq]
      exact .inl ⟨rfl, .refl _, rfl, rfl, rfl⟩
    · exact .inr ⟨rfl, hcmd, hlen, hstate, hul, hdl, har, entry, id, hentry, hid, .refl _⟩

/-- What `processCommand` does to the display, the store and the transfers for a command that
is handled. -/
inductive Handles (env : Env) (t : Transport) (cmd : ParsedCommand) (c c' : Controller) : Prop
  /-- a bulk command that starts nothing, or a command of an unsound length -/
  | card (core : CardOnly c c')
  | upload (bulk : cmd.isBulk = true) (start : StartsUpload (env.call 1) t cmd c c')
  | stream (bulk : cmd.isBulk = false) (stream : cmd.isStream = true) (c₁ : Controller)
      (before : SameCore c c₁)
      (after : SameCore { c₁ with display :=
        (c₁.display.handleStreamCommand env cmd.data cmd.dataLen).1 } c')
  | binary (bulk : cmd.isBulk = false) (stream : cmd.isStream = false)
      (sound : cmd.dataLen - 1 = claimedLen cmd.data) (c₁ c₂ : Controller) (reply : Reply) (before : SameCore c c₁)
      (run : c₁.dispatch (env.call 5) t cmd.data cmd.dataLen = (c₂, reply)) (after : SameCore c₂ c')
  | reset (bulk : cmd.isBulk = false) (stream : cmd.isStream = false)
      (sound : cmd.dataLen - 1 = claimedLen cmd.data)
      (opcode : cmd.data 1 = systemResetCmd) (c₁ : Controller) (before : SameCore c c₁)
      (after : SameCore { c₁ with display := c₁.display.disarmRefreshTimer, halted := true } c')

omit [Board] in
theorem ofByte_systemReset : ArenaCommand.ofByte systemResetCmd = some (.store .systemReset) := by
  decide

/-- A handler that is called does as `Handles` says. -/
theorem handleCommand_core {cmd : ParsedCommand} {handoff : Bool}
    (h : c.handleCommand env t cmd = (c', handoff)) : Handles env t cmd c c' := by
  unfold handleCommand at h
  split at h
  · next hbulk =>
    dsimp only at h
    generalize hcall : (Controller.noteWatchdog _ _ _ _).handleBulkWriteCommand _ _ _ = r at h
    obtain ⟨c₂, handoff'⟩ := r
    cases h
    have hbefore := noteWatchdog_sameCore (decide (cmd.cmd = setFirmwareFileCmd) && !env.watchdog [0])
      (env.clock 0) cmd.cmd c
    have hafter := noteWatchdog_sameCore (decide (cmd.cmd = setFirmwareFileCmd) && !env.watchdog [2])
      (env.clock 2) cmd.cmd c₂
    rcases handleBulkWriteCommand_core hcall with ⟨-, hcore⟩ | ⟨-, hstart⟩
    · exact .card (hbefore.cardOnly.trans (hcore.trans hafter.cardOnly))
    · exact .upload hbulk (hstart.of_sameCore hbefore hafter)
  next hbulk =>
  split at h
  · next hstream =>
    cases h
    exact .stream (by simpa using hbulk) hstream c (.refl c) ⟨.refl _, rfl, rfl, rfl⟩
  · next hstream =>
    cases h
    by_cases hlen : cmd.dataLen - 1 = claimedLen cmd.data
    · obtain ⟨c₁, c₂, reply, hbefore, -, hrun, ⟨-, hafter, -⟩ | ⟨hreset, hend⟩⟩ :=
        handleBinaryCommand_cases env t c hlen
      · exact .binary (by simpa using hbulk) (by simpa using hstream) hlen c₁ c₂ reply hbefore hrun hafter
      · unfold dispatch at hrun
        rw [hreset, ofByte_systemReset] at hrun
        cases hrun
        rw [hend]
        exact .reset (by simpa using hbulk) (by simpa using hstream) hlen hreset c₁ hbefore
          ⟨.refl _, rfl, rfl, rfl⟩
    · unfold handleBinaryCommand
      rw [if_pos hlen]
      exact .card ⟨.refl _, rfl, rfl, rfl⟩

theorem Handles.of_sameCore {cmd : ParsedCommand} {c₀ c₁ : Controller}
    (h : Handles env t cmd c₀ c₁) (hbefore : SameCore c c₀) (hafter : SameCore c₁ c') :
    Handles env t cmd c c' := by
  cases h with
  | card hcore => exact .card (hbefore.cardOnly.trans (hcore.trans hafter.cardOnly))
  | upload hbulk hstart => exact .upload hbulk (hstart.of_sameCore hbefore hafter)
  | stream hbulk hstream c₂ hbefore' hafter' =>
    exact .stream hbulk hstream c₂ (hbefore.trans hbefore') (hafter'.trans hafter)
  | binary hbulk hstream hsound c₂ c₃ reply hbefore' hrun hafter' =>
    exact .binary hbulk hstream hsound c₂ c₃ reply (hbefore.trans hbefore') hrun (hafter'.trans hafter)
  | reset hbulk hstream hsound hopcode c₂ hbefore' hafter' =>
    exact .reset hbulk hstream hsound hopcode c₂ (hbefore.trans hbefore') (hafter'.trans hafter)

/-- **A command.**  It is not handled, or it does what its handler does. -/
theorem processCommand_core (env : Env) (t : Transport) (c : Controller) :
    c.processCommand env t = c ∨
    ((c.source t).hasCommand = true ∧ c.transfers.owns t = false ∧
      Handles env t (c.source t).rx.parsedCmd c (c.processCommand env t)) := by
  rcases processCommand_cases env t c with ⟨-, h⟩ | ⟨hready, howns, c₁, handoff, hcall, h⟩
  · exact .inl h
  refine .inr ⟨hready, howns, ?_⟩
  have hafter : SameCore c₁ (c.processCommand env t) := by
    rw [h]
    split_ifs
    · exact .refl c₁
    · exact ⟨.refl _, rfl, rfl, rfl⟩
  exact (handleCommand_core hcall).of_sameCore ⟨.refl _, rfl, rfl, rfl⟩ hafter

/-! ### Binary commands that are handled -/

/-- A source has a binary command of a sound length, and it is handled. -/
def hasBinary (t : Transport) (c : Controller) : Bool :=
  let cmd := (c.source t).rx.parsedCmd
  (c.source t).hasCommand && !c.transfers.owns t && !cmd.isBulk && !cmd.isStream
    && cmd.dataLen - 1 = claimedLen cmd.data

/-- The controller the case of the `switch` for it meets. -/
def handed (env : Env) (t : Transport) (c : Controller) : Controller :=
  (c.onSource t noteDispatched).beginCommand env ((c.source t).rx.parsedCmd.data 1)

/-- Its case of the `switch`. -/
def dispatched (env : Env) (t : Transport) (c : Controller) : Controller × Reply :=
  (c.handed env t).dispatch (env.call 5) t (c.source t).rx.parsedCmd.data
    (c.source t).rx.parsedCmd.dataLen

/-- A command about the store is handled, and done. -/
def accepts (env : Env) (t : Transport) (command : StoreCommand) (c : Controller) : Bool :=
  c.hasBinary t && ArenaCommand.ofByte ((c.source t).rx.parsedCmd.data 1) = some (.store command)
    && (c.dispatched env t).2.status = 0

omit [Board] in
theorem handed_sameCore (env : Env) (t : Transport) (c : Controller) :
    SameCore c (c.handed env t) :=
  ((SameCore.refl c).onSource t noteDispatched).trans (beginCommand_sameCore ..)

/-- What is left of a binary command, but for a reset, is what its case did. -/
theorem processCommand_binary (env : Env) {t : Transport} {c : Controller} (h : c.hasBinary t = true)
    (hreset : (c.source t).rx.parsedCmd.data 1 ≠ systemResetCmd) :
    SameCore (c.dispatched env t).1 (c.processCommand env t) := by
  unfold hasBinary at h
  dsimp only at h
  simp only [Bool.and_eq_true, Bool.not_eq_true', decide_eq_true_eq] at h
  obtain ⟨⟨⟨⟨hready, howns⟩, hbulk⟩, hstream⟩, hsound⟩ := h
  rcases processCommand_cases env t c with ⟨hidle | howned, -⟩ | ⟨-, -, c₁, handoff, hcall, hprocess⟩
  · rw [hready] at hidle
    cases hidle
  · rw [howns] at howned
    cases howned
  · unfold handleCommand at hcall
    rw [if_neg (by rw [hbulk]; decide), if_neg (by rw [hstream]; decide)] at hcall
    cases hcall
    have hcore : SameCore (c.dispatched env t).1 ((c.onSource t noteDispatched).handleBinaryCommand
        env t (c.source t).rx.parsedCmd.data (c.source t).rx.parsedCmd.dataLen) := by
      unfold handleBinaryCommand
      rw [if_neg (not_not.2 hsound)]
      dsimp only
      rw [if_neg hreset]
      exact ((SameCore.refl _).onSource t _).trans (endCommand_sameCore ..)
    rw [hprocess]
    split_ifs
    · exact hcore
    · exact hcore.onSource t _

/-! ### The transfers a command starts -/

/-- What a command does to the screen and the transfers: it starts no transfer and moves
their indices at most, after a delete; or it starts one for its source, and leaves the screen,
which is off. -/
inductive Starts (t : Transport) (s : Screen) (x : Transfers) : Screen → Transfers → Prop
  | same (s' : Screen) : Starts t s x s' x
  | shifted (s' : Screen) (idx : ℕ) : Starts t s x s' (shiftTransfers idx x)
  | download (dl : Download) (off : s.state = .allOff) (free : x.dl = none) (source : dl.source = t) :
      Starts t s x s { x with dl := some dl }
  | upload (ul : Upload) (off : s.state = .allOff) (free : x.ul = none) (ar : x.ar = none)
      (source : ul.source = t) (phase : ul.phase = .writing) (left : ul.remaining ≠ 0) :
      Starts t s x s { x with ul := some ul }
  | archive (ar : Archive) (off : s.state = .allOff) (free : x.ar = none) (ul : x.ul = none)
      (source : ar.source = t) : Starts t s x s { x with ar := some ar }

omit [Board] in
theorem shiftTransfers_ul (idx : ℕ) (x : Transfers) :
    (shiftTransfers idx x).ul.map Upload.source = x.ul.map Upload.source := by
  unfold shiftTransfers
  split_ifs
  · rw [Option.map_map]
    congr 1
    funext ul
    dsimp only [Function.comp]
    split_ifs <;> rfl
  · rfl

/-- No binary command starts an upload. -/
theorem dispatch_starts {dataLen : ℕ} (h : c.dispatch env t data dataLen = (c', reply)) :
    Starts t c.display.screen c.transfers c'.display.screen c'.transfers ∧
      c'.transfers.ul.map Upload.source = c.transfers.ul.map Upload.source := by
  unfold dispatch at h
  split at h
  · cases h
    exact ⟨.same _, rfl⟩
  · next command _ =>
    cases command with
    | trialParams =>
      rcases handleTrialParams_cases h with ⟨-, rfl, -⟩ | ⟨-, ⟨_, rfl, -⟩ |
        ⟨_, _, _, _, _, _, _, c₁, _, -, -, hrun, ⟨-, rfl, -⟩ | ⟨-, rfl, -⟩⟩⟩
      · exact ⟨.same _, rfl⟩
      · exact ⟨.same _, rfl⟩
      · obtain ⟨_, _, -, rfl⟩ := enterPatternMode_cases hrun
        exact ⟨.same _, rfl⟩
      · obtain ⟨_, _, -, rfl⟩ := enterPatternMode_cases hrun
        exact ⟨.same _, rfl⟩
    | setPatternId =>
      rcases handleSetPatternId_cases h with rfl | ⟨-, _, _, hrun⟩
      · exact ⟨.same _, rfl⟩
      · obtain ⟨_, _, -, rfl⟩ := enterPatternMode_cases hrun
        exact ⟨.same _, rfl⟩
    | setPatternFilename =>
      rcases handleSetPatternFilename_cases h with rfl | ⟨-, _, _, rfl⟩ <;> exact ⟨.same _, rfl⟩
    | getPatternFile =>
      rcases handleGetPatternFile_cases h with rfl | ⟨hoff, hdl, _, _, _, -, -, -, -, -, rfl, -⟩
      · exact ⟨.same _, rfl⟩
      · exact ⟨.download _ hoff hdl rfl, rfl⟩
    | deletePatternFile =>
      rcases handleDeletePatternFile_cases h with rfl | ⟨_, _, _, -, -, -, -, ⟨-, rfl⟩ | ⟨-, rfl⟩⟩
      · exact ⟨.same _, rfl⟩
      · exact ⟨.same _, rfl⟩
      · exact ⟨.shifted _ _, shiftTransfers_ul ..⟩
    | purgeMemory =>
      rcases handlePurgeMemory_cases h with rfl | ⟨-, -, rfl⟩ <;> exact ⟨.same _, rfl⟩
    | getSdArchive =>
      rcases handleGetSdArchive_cases h with rfl | ⟨hoff, har, hul, rfl, -⟩
      · exact ⟨.same _, rfl⟩
      · exact ⟨.archive _ hoff har hul rfl, rfl⟩
    | setSdDiag =>
      rcases handleSetSdDiag_cases h with rfl | ⟨_, _, -, htransfers, -⟩
      · exact ⟨.same _, rfl⟩
      · rw [htransfers]
        exact ⟨.same _, rfl⟩
    | systemReset =>
      cases h
      exact ⟨.same _, rfl⟩
  · cases h
    exact ⟨.same _, rfl⟩

theorem Handles.starts {cmd : ParsedCommand} (h : Handles env t cmd c c') :
    Starts t c.display.screen c.transfers c'.display.screen c'.transfers := by
  cases h with
  | card hcore =>
    rw [hcore.transfers]
    exact .same _
  | upload hbulk hstart =>
    obtain ⟨entry, id, -, -, hcore⟩ := hstart.core
    rw [hcore.transfers, hcore.display.screen]
    exact .upload _ hstart.state hstart.ul hstart.ar rfl rfl hstart.len
  | stream hbulk hstream c₁ hbefore hafter =>
    rw [hafter.transfers]
    change Starts t _ _ _ c₁.transfers
    rw [hbefore.transfers]
    exact .same _
  | binary hbulk hstream hsound c₁ c₂ reply hbefore hrun hafter =>
    have hstarts := (dispatch_starts hrun).1
    rwa [hbefore.display.screen, hbefore.transfers, ← hafter.transfers,
      ← hafter.display.screen] at hstarts
  | reset hbulk hstream hsound hopcode c₁ hbefore hafter =>
    rw [hafter.transfers]
    change Starts t _ _ _ c₁.transfers
    rw [hbefore.transfers]
    exact .same _

omit [Board] in
@[simp] theorem shiftTransfers_active (idx : ℕ) (x : Transfers) :
    (shiftTransfers idx x).active = x.active := by
  unfold shiftTransfers Transfers.active
  split_ifs
  · dsimp only
    rw [Option.isSome_map, Option.isSome_map]
  · rfl

end

end Controller
end Command
end G6Arena
