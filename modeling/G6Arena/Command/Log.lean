/-
# What a step adds to the history of a source

A command that is handled is dispatched, replied to and released in one step, but for an upload,
which `serviceUpload` replies to and releases when it ends, and a reset, which nothing follows.
The other steps write out queued replies at most.
-/

import G6Arena.Command.Service
import G6Arena.Link.Log

namespace G6Arena
namespace Command

open ByteMem Link
open Sd (Card FileId)

namespace Controller

/-! ### Sources -/

/-- One source has heard `es`, the other nothing. -/
structure HeardAt (t : Transport) (es : List SourceEvent) (c c' : Controller) : Prop where
  self : Heard es (c.source t) (c'.source t)
  others : ∀ u, u ≠ t → c'.source u = c.source u

namespace HeardAt

variable {t : Transport} {es es' : List SourceEvent} {c c' c'' : Controller}

theorem of_source (t : Transport) (h : c'.source = c.source) : HeardAt t [] c c' := by
  rw [show c' = { c' with source := c.source } by rw [← h]]
  exact ⟨.refl _, fun _ _ => rfl⟩

theorem trans (h : HeardAt t es c c') (h' : HeardAt t es' c' c'') : HeardAt t (es ++ es') c c'' :=
  ⟨h.self.trans h'.self, fun u hu => (h'.others u hu).trans (h.others u hu)⟩

theorem onSource {f : Source → Source} (h : Heard es (c.source t) (f (c.source t))) :
    HeardAt t es c (c.onSource t f) :=
  ⟨by rwa [onSource_self], fun _ hu => onSource_of_ne c t f hu⟩

end HeardAt

theorem arrive_heardAt (t : Transport) (bytes : List UInt8) (c : Controller) :
    HeardAt t [] c (c.onSource t fun s => { s with link := s.link ++ bytes }) :=
  .onSource ((Heard.refl _).link _)

theorem respond_heardAt (t : Transport) (reply : Reply) (c : Controller) :
    HeardAt t [.replied reply] c (c.onSource t (·.sendResponse reply)) :=
  .onSource (sendResponse_heard ..)

section

variable [Board] {env : Env} {t : Transport} {c c' : Controller}

/-! ### Bulk commands -/

theorem drainPasses_heard (start : ℕ) (passes : List BulkPass) (t0 remaining : ℕ) (s : Source) :
    Heard [] s (drainPasses t start passes t0 remaining s) := by
  induction passes generalizing t0 remaining s with
  | nil => exact .refl s
  | cons pass rest ih =>
    unfold drainPasses
    dsimp only
    have hread := readBulkBytes_heard t pass.cap (min remaining 256)
      { s with link := s.link ++ pass.arrived }
    have harrived : Heard [] s { s with link := s.link ++ pass.arrived } := (Heard.refl s).link _
    split_ifs
    · exact .refl s
    · exact .refl s
    · exact (harrived.trans hread).trans (ih _ _ _)
    · exact harrived.trans hread
    · exact (harrived.trans hread).trans (ih _ _ _)

theorem rejectBulk_heardAt (env : Env) (t : Transport) (remaining : ℕ) (reply : Reply)
    (c : Controller) : HeardAt t [.replied reply] c (c.rejectBulk env t remaining reply) := by
  rw [rejectBulk_eq]
  exact .onSource ((drainPasses_heard ..).trans (sendResponse_heard ..))

theorem firmwarePasses_heard (t : Transport) (id : FileId) (passes : List BulkPass) (tIdle remaining : ℕ)
    (crc : UInt32) (s : Source) (card : Card) :
    Heard [] s (firmwarePasses t id passes tIdle remaining crc s card).1 := by
  induction passes generalizing tIdle remaining crc s card with
  | nil =>
    unfold firmwarePasses
    split_ifs <;> exact .refl s
  | cons pass rest ih =>
    unfold firmwarePasses
    dsimp only
    have hread := readBulkBytes_heard t pass.cap (min remaining chunkBytes)
      { s with link := s.link ++ pass.arrived }
    have harrived : Heard [] s { s with link := s.link ++ pass.arrived } := (Heard.refl s).link _
    split_ifs
    · exact .refl s
    · exact harrived.trans hread
    · exact (harrived.trans hread).trans (ih _ _ _ _ _)
    · exact harrived.trans hread
    · exact (harrived.trans hread).trans (ih _ _ _ _ _)

theorem storeFirmware_heardAt (env : Env) (t : Transport) (id : FileId) (totalLen : ℕ)
    (c : Controller) :
    ∃ reply, HeardAt t [.replied reply] c (c.storeFirmware env t id totalLen) := by
  have hpasses := firmwarePasses_heard t id env.firmware (env.millis 0) totalLen
    0xFFFFFFFF (c.source t) c.store.card
  unfold storeFirmware
  dsimp only
  generalize firmwarePasses t id env.firmware (env.millis 0) totalLen 0xFFFFFFFF (c.source t)
    c.store.card = r at hpasses
  obtain ⟨source, card, ending⟩ := r
  dsimp only at hpasses ⊢
  have htaken : HeardAt t [] c ((c.withCard card).onSource t fun _ => source) :=
    (HeardAt.of_source t (withCard_source c card)).trans (.onSource hpasses)
  cases ending with
  | stored crc => exact ⟨_, htaken.trans (respond_heardAt ..)⟩
  | failed text remaining =>
    exact ⟨_, (htaken.trans (.of_source t (withCard_source ..))).trans (rejectBulk_heardAt ..)⟩

theorem handleSetFirmwareFile_heardAt (env : Env) (t : Transport) (totalLen : ℕ) (c : Controller) :
    ∃ reply, HeardAt t [.replied reply] c (c.handleSetFirmwareFile env t totalLen) := by
  rcases handleSetFirmwareFile_cases env t totalLen c with
    ⟨reply, -, heq⟩ | ⟨-, -, card, -, ⟨-, heq⟩ | ⟨id, -, heq⟩⟩
  · rw [heq]
    exact ⟨_, rejectBulk_heardAt ..⟩
  · rw [heq]
    exact ⟨_, (HeardAt.of_source t (withCard_source ..)).trans (rejectBulk_heardAt ..)⟩
  · rw [heq]
    obtain ⟨reply, h⟩ := storeFirmware_heardAt env t id totalLen (c.withCard
      (card.openWrite (env.sd.ok (.openWrite .firmware)) .firmware).1)
    exact ⟨reply, (HeardAt.of_source t (withCard_source ..)).trans h⟩

/-- A bulk command is replied to, or starts an upload. -/
theorem handleBulkWriteCommand_heardAt {cmd : ParsedCommand} {handoff : Bool}
    (h : c.handleBulkWriteCommand env t cmd = (c', handoff)) :
    (handoff = false ∧ c'.transfers = c.transfers ∧ c'.halted = c.halted ∧
      ∃ reply, HeardAt t [.replied reply] c c') ∨
    (handoff = true ∧ c'.source = c.source ∧ StartsUpload env t cmd c c') := by
  rcases handleBulkWriteCommand_core h with ⟨hhandoff, hcore⟩ | ⟨hhandoff, hstart⟩
  · refine .inl ⟨hhandoff, hcore.transfers, hcore.halted, ?_⟩
    rcases handleBulkWriteCommand_cases h with ⟨-, -, rfl⟩ | ⟨-, reply, -, rfl⟩ | ⟨-, hupload⟩
    · exact handleSetFirmwareFile_heardAt ..
    · exact ⟨_, rejectBulk_heardAt ..⟩
    · rcases handleSetPatternFile_cases hupload with
        ⟨-, reply, -, ⟨-, rfl⟩ | ⟨-, rfl⟩⟩ | ⟨-, -, -, -, -, entry, -, ⟨-, -, rfl⟩ | ⟨rfl, -⟩⟩
      · exact ⟨_, respond_heardAt ..⟩
      · exact ⟨_, rejectBulk_heardAt ..⟩
      · exact ⟨_, (HeardAt.of_source t (withCard_source ..)).trans (rejectBulk_heardAt ..)⟩
      · cases hhandoff
  · refine .inr ⟨hhandoff, ?_, hstart⟩
    rcases handleBulkWriteCommand_cases h with ⟨-, rfl, -⟩ | ⟨rfl, -⟩ | ⟨-, hupload⟩
    · cases hhandoff
    · cases hhandoff
    · rcases handleSetPatternFile_cases hupload with
        ⟨rfl, -⟩ | ⟨-, -, -, -, -, entry, -, ⟨rfl, -⟩ | ⟨-, id, -, rfl⟩⟩
      · cases hhandoff
      · cases hhandoff
      · rfl

/-! ### Commands -/

/-- What a handler leaves of the sources. -/
inductive Replies (env : Env) (t : Transport) (cmd : ParsedCommand) (c c' : Controller) : Bool → Prop
  | served (reply : Reply) (heard : HeardAt t [.replied reply] c c') (halted : c'.halted = c.halted)
      (uploads : c'.transfers.ul.map Upload.source = c.transfers.ul.map Upload.source) :
      Replies env t cmd c c' false
  | handed (source : c'.source = c.source) (start : StartsUpload (env.call 1) t cmd c c') :
      Replies env t cmd c c' true
  | reset (reply : Reply) (n : ℕ)
      (heard : Heard ([.replied reply] ++ List.replicate n .flushed) (c.source t) (c'.source t))
      (others : ∀ u, u ≠ t → ∃ m, Heard (List.replicate m .flushed) (c.source u) (c'.source u))
      (halted : c'.halted = true) : Replies env t cmd c c' false

omit [Board] in
/-- The two flushes of a reset. -/
theorem systemReset_heard (env : Env) (u : Transport) (c : Controller) :
    ∃ n, Heard (List.replicate n .flushed) (c.source u) ((c.systemReset env).source u) := by
  have hnetwork : ((c.systemReset env).source .network)
      = (c.source .network).flushResponses .network (env.flush .network) := by
    unfold systemReset
    dsimp only
    rw [onSource_of_ne _ _ _ (by decide), onSource_self]
  have hserial : ((c.systemReset env).source .serial)
      = (c.source .serial).flushResponses .serial (env.flush .serial) := by
    unfold systemReset
    dsimp only
    rw [onSource_self, onSource_of_ne _ _ _ (by decide)]
  cases u with
  | serial =>
    rw [hserial]
    exact flushResponses_heard ..
  | network =>
    rw [hnetwork]
    exact flushResponses_heard ..

theorem handleCommand_replies {cmd : ParsedCommand} {handoff : Bool}
    (h : c.handleCommand env t cmd = (c', handoff))
    (hsound : cmd.isBulk = false → cmd.isStream = false → cmd.dataLen - 1 = claimedLen cmd.data) :
    Replies env t cmd c c' handoff := by
  unfold handleCommand at h
  split at h
  · next hbulk =>
    dsimp only at h
    generalize hnote : c.noteWatchdog (decide (cmd.cmd = setFirmwareFileCmd) && !env.watchdog [0])
      (env.clock 0) cmd.cmd = c₀ at h
    have hbefore : SameCore c c₀ := hnote ▸ noteWatchdog_sameCore ..
    have hsource : c₀.source = c.source := hnote ▸ noteWatchdog_source ..
    generalize hcall : c₀.handleBulkWriteCommand _ _ _ = r at h
    obtain ⟨c₁, handoff'⟩ := r
    cases h
    have hafter := noteWatchdog_sameCore (decide (cmd.cmd = setFirmwareFileCmd) && !env.watchdog [2])
      (env.clock 2) cmd.cmd c₁
    have hsource' := noteWatchdog_source (decide (cmd.cmd = setFirmwareFileCmd) && !env.watchdog [2])
      (env.clock 2) cmd.cmd c₁
    rcases handleBulkWriteCommand_heardAt hcall with ⟨rfl, htransfers, hhalted, reply, hheard⟩ |
      ⟨rfl, hsame, hstart⟩
    · refine .served reply ?_ ?_ ?_
      · exact ((HeardAt.of_source t hsource).trans hheard).trans (.of_source t hsource')
      · rw [hafter.halted, hhalted, hbefore.halted]
      · rw [hafter.transfers, htransfers, hbefore.transfers]
    · refine .handed ?_ (hstart.of_sameCore hbefore hafter)
      rw [hsource', hsame, hsource]
  next hbulk =>
  split at h
  · cases h
    refine .served (c.display.handleStreamCommand env cmd.data cmd.dataLen).2 ?_ rfl rfl
    have hsource : ({ c with display := (c.display.handleStreamCommand env cmd.data cmd.dataLen).1 } :
      Controller).source = c.source := rfl
    exact (HeardAt.of_source t hsource).trans (respond_heardAt ..)
  · next hstream =>
    cases h
    have hlen := hsound (by simpa using hbulk) (by simpa using hstream)
    obtain ⟨c₁, c₂, reply, hbefore, hsource, hrun, hend⟩ := handleBinaryCommand_cases env t c hlen
    obtain ⟨hsource₂, hhalted₂⟩ := dispatch_source hrun
    have hreplied : HeardAt t [.replied reply] c (c₂.onSource t (·.sendResponse reply)) :=
      (HeardAt.of_source t (hsource₂.trans hsource)).trans (respond_heardAt ..)
    rcases hend with ⟨-, hafter, hsource'⟩ | ⟨-, hend⟩
    · refine .served reply (hreplied.trans (.of_source t hsource')) ?_ ?_
      · rw [hafter.halted, hhalted₂, hbefore.halted]
      · rw [hafter.transfers, (dispatch_starts hrun).2, hbefore.transfers]
    · rw [hend]
      obtain ⟨n, hn⟩ := systemReset_heard env t (c₂.onSource t (·.sendResponse reply))
      refine .reset reply n (hreplied.self.trans hn) (fun u hu => ?_) rfl
      obtain ⟨m, hm⟩ := systemReset_heard env u (c₂.onSource t (·.sendResponse reply))
      rw [hreplied.others u hu] at hm
      exact ⟨m, hm⟩

/-- What `processCommand` leaves of a command that is handled. -/
inductive Processes (env : Env) (t : Transport) (c c' : Controller) : Prop
  | served (reply : Reply)
      (events : (c'.source t).events
        = (c.source t).events ++ [.dispatched, .replied reply, .released])
      (ready : (c'.source t).rx.cmdReady = false) (queued : (c'.source t).resp ≠ [])
      (connected : (c'.source t).connected = (c.source t).connected)
      (others : ∀ u, u ≠ t → c'.source u = c.source u) (halted : c'.halted = false)
      (uploads : c'.transfers.ul.map Upload.source = c.transfers.ul.map Upload.source)
  | handed (events : (c'.source t).events = (c.source t).events ++ [.dispatched])
      (rx : (c'.source t).rx = (c.source t).rx)
      (connected : (c'.source t).connected = (c.source t).connected)
      (resp : (c'.source t).resp = (c.source t).resp)
      (others : ∀ u, u ≠ t → c'.source u = c.source u) (halted : c'.halted = false)
      (start : StartsUpload (env.call 1) t (c.source t).rx.parsedCmd c c')
  | reset (reply : Reply) (n : ℕ)
      (events : (c'.source t).events = (c.source t).events ++ ([.dispatched, .replied reply]
        ++ List.replicate n .flushed))
      (queued : decide ((c'.source t).resp ≠ [])
        = queuedAfter (decide ((c.source t).resp ≠ [])) (.replied reply :: List.replicate n .flushed))
      (others : ∀ u, u ≠ t → ∃ m, Heard (List.replicate m .flushed) (c.source u) (c'.source u))
      (halted : c'.halted = true)

/-- **A command is dispatched, replied to and released**, handed over to `serviceUpload`, or is a
reset. -/
theorem processCommand_processes (env : Env) {t : Transport} {c : Controller}
    (hrun : c.halted = false) (hready : (c.source t).hasCommand = true)
    (howns : c.transfers.owns t = false) (hsound : (c.source t).rx.Sound) :
    Processes env t c (c.processCommand env t) := by
  rcases processCommand_cases env t c with ⟨hidle | howned, -⟩ | ⟨-, -, c₁, handoff, hcall, hprocess⟩
  · rw [hready] at hidle
    cases hidle
  · rw [howns] at howned
    cases howned
  have hevents : ((c.onSource t noteDispatched).source t).events
      = (c.source t).events ++ [.dispatched] := by
    rw [onSource_self]
    rfl
  rw [hprocess]
  cases handleCommand_replies hcall (hsound hready) with
  | served reply heard halted uploads =>
    have hhalted : c₁.halted = false := halted.trans hrun
    rw [hhalted, if_neg (by decide)]
    refine .served reply ?_ ?_ ?_ ?_ (fun u hu => ?_) hhalted uploads
    · rw [onSource_self]
      change (c₁.source t).events ++ [.released] = _
      rw [heard.self.events, hevents, List.append_assoc, List.append_assoc]
      rfl
    · rw [onSource_self]
      rfl
    · rw [onSource_self]
      exact of_decide_eq_true heard.self.queued
    · rw [onSource_self]
      refine heard.self.connected.trans ?_
      rw [onSource_self]
      rfl
    · rw [onSource_of_ne _ _ _ hu, heard.others u hu, onSource_of_ne _ _ _ hu]
  | handed source start =>
    rw [Bool.true_or, if_pos rfl]
    have hself : c₁.source t = noteDispatched (c.source t) := by
      rw [source, onSource_self]
    refine .handed ?_ (by rw [hself]; rfl) (by rw [hself]; rfl) (by rw [hself]; rfl) (fun u hu => ?_) ?_ ?_
    · rw [hself]
      rfl
    · rw [source, onSource_of_ne _ _ _ hu]
    · obtain ⟨_, _, -, -, hcore⟩ := start.core
      rw [hcore.halted]
      exact hrun
    · exact start.of_sameCore ((SameCore.refl c).onSource t _) (.refl _)
  | reset reply n heard others halted =>
    rw [halted, Bool.or_true, if_pos rfl]
    refine .reset reply n ?_ ?_ (fun u hu => ?_) halted
    · rw [heard.events, hevents, List.append_assoc]
      rfl
    · exact heard.queued
    · obtain ⟨m, hm⟩ := others u hu
      rw [onSource_of_ne _ _ _ hu] at hm
      exact ⟨m, hm⟩

/-! ### Services -/

omit [Board] in
theorem sendRaw_heardAt (t : Transport) (io : TxIo) (buf : List UInt8) (c : Controller) :
    ∃ n, HeardAt t (List.replicate n .flushed) c
      (c.onSource t fun _ => ((c.source t).sendRaw t io buf).1) := by
  obtain ⟨n, hn⟩ := sendRaw_heard t io buf (c.source t)
  exact ⟨n, .onSource hn⟩

omit [Board] in
theorem serviceDownload_heardAt (env : Env) (c : Controller) :
    ∃ t n, HeardAt t (List.replicate n .flushed) c (c.serviceDownload env) ∧
      (c.serviceDownload env).transfers.ul = c.transfers.ul := by
  unfold serviceDownload
  split
  · exact ⟨.serial, 0, .of_source _ rfl, rfl⟩
  next dl hdl =>
  unfold downloadStep
  dsimp only
  generalize c.store.card.read _ _ _ _ = chunk
  obtain ⟨n, hn⟩ := sendRaw_heardAt dl.source env.tx chunk c
  split_ifs
  · exact ⟨.serial, 0, .of_source _ rfl, rfl⟩
  · exact ⟨.serial, 0, .of_source _ rfl, rfl⟩
  · exact ⟨.serial, 0, .of_source _ rfl, rfl⟩
  · exact ⟨dl.source, n, ⟨hn.self, hn.others⟩, rfl⟩
  · exact ⟨dl.source, n, ⟨hn.self, hn.others⟩, rfl⟩
  · exact ⟨dl.source, n, ⟨hn.self, hn.others⟩, rfl⟩

omit [Board] in
theorem archiveSend_heardAt (env : Env) (ar next : Archive) (bytes : List UInt8) (c : Controller) :
    ∃ t n, HeardAt t (List.replicate n .flushed) c (c.archiveSend env ar bytes next) ∧
      (c.archiveSend env ar bytes next).transfers.ul = c.transfers.ul := by
  obtain ⟨n, hn⟩ := sendRaw_heardAt ar.source env.tx bytes c
  unfold archiveSend
  dsimp only
  split_ifs
  · exact ⟨ar.source, n, ⟨hn.self, hn.others⟩, rfl⟩
  · exact ⟨ar.source, n, ⟨hn.self, hn.others⟩, rfl⟩

omit [Board] in
theorem serviceArchive_heardAt (env : Env) (c : Controller) :
    ∃ t n, HeardAt t (List.replicate n .flushed) c (c.serviceArchive env) ∧
      (c.serviceArchive env).transfers.ul = c.transfers.ul := by
  unfold serviceArchive
  split
  · exact ⟨.serial, 0, .of_source _ rfl, rfl⟩
  next ar har =>
  unfold archiveStep
  dsimp only
  split
  · exact ⟨.serial, 0, .of_source _ rfl, rfl⟩
  split
  · exact archiveSend_heardAt ..
  · split
    · exact ⟨.serial, 0, .of_source _ rfl, rfl⟩
    · unfold archiveData
      dsimp only
      split
      · split <;> exact archiveSend_heardAt ..
      · exact archiveSend_heardAt ..
  · exact archiveSend_heardAt ..
  · exact archiveSend_heardAt ..
  · next e _ =>
    obtain ⟨n, hn⟩ := sendRaw_heardAt ar.source env.tx
      (eocdRecord ar.entries.length ar.cdSize ar.cdOffset) c
    exact ⟨ar.source, n, ⟨hn.self, hn.others⟩, rfl⟩
  · exact ⟨.serial, 0, .of_source _ rfl, rfl⟩

/-- An upload goes on, or ends with its reply and the release of its command. -/
inductive Uploads (c c' : Controller) : Prop
  | goes (t : Transport) (heard : HeardAt t [] c c')
      (uploads : c'.transfers.ul.map Upload.source = c.transfers.ul.map Upload.source)
  | ends (ul : Upload) (reply : Reply) (active : c.transfers.ul = some ul)
      (events : (c'.source ul.source).events
        = (c.source ul.source).events ++ [.replied reply, .released])
      (ready : (c'.source ul.source).rx.cmdReady = false) (queued : (c'.source ul.source).resp ≠ [])
      (connected : (c'.source ul.source).connected = (c.source ul.source).connected)
      (others : ∀ u, u ≠ ul.source → c'.source u = c.source u) (done : c'.transfers.ul = none)

omit [Board] in
theorem finishUpload_uploads {c₀ : Controller} {ul ul' : Upload} {status : UInt8} {msg : List UInt8}
    (hul : c₀.transfers.ul = some ul) (hsource : ul'.source = ul.source)
    (h : HeardAt ul.source [] c₀ c) : Uploads c₀ (c.finishUpload ul' status msg) := by
  have hself : (c.finishUpload ul' status msg).source ul.source = ((c.source ul.source).sendResponse
      ⟨setPatternFileCmd, status, msg⟩).commandConsumed := by
    unfold finishUpload respond
    rw [hsource, onSource_self, withUl_source, onSource_self]
  refine .ends ul ⟨setPatternFileCmd, status, msg⟩ hul ?_ ?_ ?_ ?_ (fun u hu => ?_) rfl
  · rw [hself]
    change (c.source ul.source).events ++ [_] ++ [_] = _
    rw [h.self.events, List.append_nil, List.append_assoc]
    rfl
  · rw [hself]
    rfl
  · rw [hself]
    exact List.cons_ne_nil _ _
  · rw [hself]
    exact h.self.connected
  · unfold finishUpload respond
    rw [hsource, onSource_of_ne _ _ _ hu, withUl_source, onSource_of_ne _ _ _ hu, h.others u hu]

theorem readChunk_uploads {ul : Upload} (hul : c.transfers.ul = some ul) :
    Uploads c (c.readChunk env ul) := by
  have hread := readBulkBytes_heard ul.source env.cap (min ul.remaining chunkBytes) (c.source ul.source)
  unfold readChunk
  dsimp only
  generalize (c.source ul.source).readBulkBytes ul.source env.cap (min ul.remaining chunkBytes) = r
    at hread ⊢
  obtain ⟨source, chunk⟩ := r
  dsimp only at hread ⊢
  have htaken : HeardAt ul.source [] c (c.onSource ul.source fun _ => source) := .onSource hread
  split_ifs
  · exact .goes _ htaken rfl
  · obtain ⟨ul₁, c₁, deadline, hwrite, hend⟩ := takeChunk_cases env chunk ul
      (c.onSource ul.source fun _ => source)
    obtain ⟨-, -, htransfers, hsource, -, hkeep, -⟩ := writeChunk_keeps hwrite
    have hheard : HeardAt ul.source [] c c₁ := htaken.trans (.of_source _ hsource)
    have hul₁ : ul₁.source = ul.source := congrArg (fun k => k.2.2.1) hkeep
    rcases hend with ⟨-, -, hend⟩ | ⟨-, -, hend⟩ | ⟨-, hend⟩
    · rw [hend]
      exact finishUpload_uploads hul hul₁ hheard
    · rw [hend]
      exact finishUpload_uploads hul hul₁ hheard
    · rw [hend]
      refine .goes ul.source ⟨hheard.self, hheard.others⟩ ?_
      rw [hul]
      exact congrArg some hul₁

theorem serviceUpload_uploads (env : Env) (c : Controller) : Uploads c (c.serviceUpload env) := by
  unfold serviceUpload
  split
  · exact .goes .serial (.of_source _ rfl) rfl
  next ul hul =>
  unfold uploadStep
  split
  · split
    · unfold failUpload
      generalize (env.millis 1 + kUploadDrainTimeoutMs) % 2 ^ 32 = deadline
      refine .goes ul.source ⟨.refl _, fun _ _ => rfl⟩ ?_
      rw [hul]
      rfl
    · exact readChunk_uploads hul
  · split
    · exact finishUpload_uploads hul rfl (.of_source _ rfl)
    · exact readChunk_uploads hul

end

end Controller
end Command
end G6Arena
