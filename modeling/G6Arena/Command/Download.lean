/-
# A download, from its command to the client

`GET_PATTERN_FILE` queues a reply with the size of the file, and `serviceDownload` writes the file
after it, a chunk at a time, with commands of the other source in between.  `Fetching` is
what holds meanwhile on the serial link: what is written and what is queued are the reply and as
much of the file as has been read.

`SerialManager::sendRaw` waits for the queued reply to go out first, for 5 s and not longer: what
`downloads_end_to_end` says is about the runs in which it does (`body_before_header`).
-/

import G6Arena.Command.Uploads
import G6Arena.Link.Client

namespace G6Arena

namespace Link
namespace Source

variable {s : Source}

/-- What is written and what is queued, together. -/
theorem flushResponses_writes (pass : TxPass) (s : Source) :
    (s.flushResponses .serial pass = s) ∨
      ((s.flushResponses .serial pass).sent = s.sent ++ s.resp ∧
        (s.flushResponses .serial pass).resp = []) := by
  unfold flushResponses
  dsimp only
  split_ifs
  · exact .inl rfl
  · exact .inl rfl
  · exact .inr ⟨rfl, rfl⟩

theorem spinFlush_writes (deadline : ℕ) (passes : List TxPass) (s : Source) :
    (spinFlush deadline passes s).sent ++ (spinFlush deadline passes s).resp = s.sent ++ s.resp := by
  induction passes generalizing s with
  | nil => rfl
  | cons pass rest ih =>
    unfold spinFlush
    split_ifs
    · rfl
    · rfl
    · rw [ih]
      rcases flushResponses_writes pass s with heq | ⟨hsent, hresp⟩
      · rw [heq]
      · rw [hsent, hresp, List.append_nil]

/-- The bytes `sendRaw` writes are the first ones it is given. -/
theorem writeSerial_writes (stall : ℕ) (passes : List TxPass) (buf : List UInt8) (s : Source) :
    ∃ n ≤ buf.length,
      writeSerial stall passes buf s = ({ s with sent := s.sent ++ buf.take n }, n) := by
  have hnone (buf : List UInt8) (s : Source) :
      ∃ n ≤ buf.length, (s, 0) = ({ s with sent := s.sent ++ buf.take n }, n) :=
    ⟨0, Nat.zero_le _, by rw [List.take_zero, List.append_nil]⟩
  induction passes generalizing stall buf s with
  | nil => cases buf <;> exact hnone _ s
  | cons pass rest ih =>
    cases buf with
    | nil => exact hnone _ s
    | cons b buf =>
      unfold writeSerial
      dsimp only
      split_ifs
      · exact hnone _ s
      · exact ih ..
      · generalize hk : min pass.room (b :: buf).length = k
        have hle : k ≤ (b :: buf).length := hk ▸ Nat.min_le_right ..
        obtain ⟨n, hn, hwrite⟩ := ih ((pass.now + kStallTimeoutMs) % 2 ^ 32) ((b :: buf).drop k)
          { s with sent := s.sent ++ (b :: buf).take k }
        rw [List.length_drop] at hn
        refine ⟨n + k, by omega, ?_⟩
        rw [hwrite, Nat.add_comm n k, List.take_add, List.append_assoc]

end Source
end Link

namespace Command

open ByteMem Link Machine
open Link.Source (flushResponses_writes kStallTimeoutMs respTimeoutMs spinFlush spinFlush_writes
  writeSerial_writes)
open Sd (Card Store)

namespace Controller

/-! ### The services of other transfers -/

/-- A source is left as it is, and so is the download. -/
structure Beside (t : Transport) (c c' : Controller) : Prop where
  source : c'.source t = c.source t
  dl : c'.transfers.dl = c.transfers.dl

section

variable [Board] {t : Transport} {env : Env} {c : Controller}

theorem serviceUpload_beside (h : ∀ ul ∈ c.transfers.ul, ul.source ≠ t) :
    Beside t c (c.serviceUpload env) := by
  unfold serviceUpload
  split
  · exact ⟨rfl, rfl⟩
  next ul hul =>
  have hne : t ≠ ul.source := (h ul hul).symm
  have hfinish {ul' : Upload} (hsource : ul'.source = ul.source) (status : UInt8) (msg : List UInt8)
      {c' : Controller} (hleft : Beside t c c') : Beside t c (c'.finishUpload ul' status msg) := by
    refine ⟨?_, hleft.dl⟩
    unfold finishUpload respond
    rw [hsource, onSource_of_ne _ _ _ hne, withUl_source, onSource_of_ne _ _ _ hne]
    exact hleft.source
  have hread : Beside t c (c.readChunk env ul) := by
    have hpolled (f : Source → Source) : Beside t c (c.onSource ul.source f) :=
      ⟨onSource_of_ne _ _ _ hne, rfl⟩
    unfold readChunk
    dsimp only
    split_ifs
    · exact hpolled _
    generalize ((c.source ul.source).readBulkBytes ul.source env.cap (min ul.remaining chunkBytes)).2
      = chunk
    obtain ⟨ul₁, c₁, deadline, hwrite, hend⟩ := takeChunk_cases env chunk ul (c.onSource ul.source
      fun _ => ((c.source ul.source).readBulkBytes ul.source env.cap (min ul.remaining chunkBytes)).1)
    obtain ⟨-, -, htransfers, hsource, -, hkeep, -⟩ := writeChunk_keeps hwrite
    have hul₁ : ul₁.source = ul.source := congrArg (fun k => k.2.2.1) hkeep
    have hleft : Beside t c c₁ := by
      constructor
      · rw [hsource]
        exact (hpolled _).source
      · rw [htransfers]
        exact (hpolled id).dl
    rcases hend with ⟨-, -, hend⟩ | ⟨-, -, hend⟩ | ⟨-, hend⟩
    · rw [hend]
      exact hfinish hul₁ _ _ hleft
    · rw [hend]
      exact hfinish hul₁ _ _ hleft
    · rw [hend]
      exact ⟨hleft.source, hleft.dl⟩
  unfold uploadStep
  split
  · split
    · unfold failUpload
      generalize (env.millis 1 + kUploadDrainTimeoutMs) % 2 ^ 32 = deadline
      exact ⟨rfl, rfl⟩
    · exact hread
  · split
    · exact hfinish rfl _ _ ⟨rfl, rfl⟩
    · exact hread

omit [Board] in
theorem serviceArchive_beside (h : ∀ ar ∈ c.transfers.ar, ar.source ≠ t) :
    Beside t c (c.serviceArchive env) := by
  unfold serviceArchive
  split
  · exact ⟨rfl, rfl⟩
  next ar har =>
  have hne : t ≠ ar.source := (h ar har).symm
  have hend (ar' : Option Archive) : Beside t c (c.withAr ar') := ⟨rfl, rfl⟩
  have hsent (f : Source → Source) (ar' : Option Archive) :
      Beside t c ((c.onSource ar.source f).withAr ar') := ⟨onSource_of_ne _ _ _ hne, rfl⟩
  have hsend (bytes : List UInt8) (next : Archive) : Beside t c (c.archiveSend env ar bytes next) := by
    unfold archiveSend
    dsimp only
    split_ifs <;> exact hsent ..
  unfold archiveStep
  dsimp only
  split
  · exact hend none
  split
  · exact hsend ..
  · split
    · exact hend _
    · unfold archiveData
      dsimp only
      split
      · split <;> exact hsend ..
      · exact hsend ..
  · exact hsend ..
  · exact hsend ..
  · exact hsent ..
  · exact hend none

omit [Board] in
/-- A download over USB has no client to lose. -/
theorem serviceDisconnects_beside {dl : Download} (hdl : c.transfers.dl = some dl)
    (hsource : dl.source = .serial) (hul : ∀ ul ∈ c.transfers.ul, ul.source ≠ .serial) :
    Beside .serial c (c.serviceDisconnects env) := by
  have hstays : c.disconnectDownload = c := by
    unfold disconnectDownload
    rw [hdl]
    dsimp only
    rw [hsource]
    exact if_pos rfl
  have hupload : Beside .serial c (c.disconnectUpload env) := by
    unfold disconnectUpload
    split
    · next ul hsome =>
      split_ifs
      · exact ⟨rfl, rfl⟩
      · exact ⟨onSource_of_ne _ _ _ (hul ul hsome).symm, rfl⟩
    · exact ⟨rfl, rfl⟩
  have harchive (c : Controller) : Beside .serial c c.disconnectArchive := by
    unfold disconnectArchive
    split
    · split_ifs <;> exact ⟨rfl, rfl⟩
    · exact ⟨rfl, rfl⟩
  have hlast := harchive (c.disconnectUpload env)
  unfold serviceDisconnects
  rw [hstays]
  exact ⟨hlast.source.trans hupload.source, hlast.dl.trans hupload.dl⟩

end

/-! ### The start of a download -/

section

variable [Board] {t : Transport} {env : Env} {c c' : Controller} {dl : Download}

theorem storeCommand_started {data : Mem} {command : StoreCommand} {reply : Reply}
    (hidle : c.transfers.dl = none) (h : c.storeCommand env t data command = (c', reply))
    (hstart : c'.transfers.dl = some dl) :
    reply = done getPatternFileCmd (toLe 8 dl.remaining) := by
  have hno {p : Prop} (hnone : c'.transfers.dl = none) : p := by
    rw [hnone] at hstart
    cases hstart
  cases command with
  | trialParams =>
    rcases handleTrialParams_cases h with ⟨-, rfl, -⟩ | ⟨-, ⟨_, rfl, -⟩ |
      ⟨_, _, _, _, _, _, _, c₁, _, -, -, hrun, ⟨-, rfl, -⟩ | ⟨-, rfl, -⟩⟩⟩
    · exact hno hidle
    · exact hno hidle
    · obtain ⟨_, _, -, rfl⟩ := enterPatternMode_cases hrun
      exact hno hidle
    · obtain ⟨_, _, -, rfl⟩ := enterPatternMode_cases hrun
      exact hno hidle
  | setPatternId =>
    rcases handleSetPatternId_cases h with rfl | ⟨-, _, _, hrun⟩
    · exact hno hidle
    · obtain ⟨_, _, -, rfl⟩ := enterPatternMode_cases hrun
      exact hno hidle
  | setPatternFilename =>
    rcases handleSetPatternFilename_cases h with rfl | ⟨-, _, _, rfl⟩ <;> exact hno hidle
  | getPatternFile =>
    rcases handleGetPatternFile_cases h with rfl | ⟨-, -, _, _, _, -, -, -, -, -, rfl, hreply⟩
    · exact hno hidle
    · cases hstart
      exact hreply
  | deletePatternFile =>
    rcases handleDeletePatternFile_cases h with
      rfl | ⟨idx, _, _, -, -, -, -, ⟨-, rfl⟩ | ⟨-, rfl⟩⟩
    · exact hno hidle
    · exact hno hidle
    · refine hno ?_
      change (shiftTransfers idx c.transfers).dl = none
      unfold shiftTransfers
      split_ifs
      · dsimp only
        rw [hidle, Option.map_none]
      · exact hidle
  | purgeMemory =>
    rcases handlePurgeMemory_cases h with rfl | ⟨-, -, rfl⟩ <;> exact hno hidle
  | getSdArchive =>
    rcases handleGetSdArchive_cases h with rfl | ⟨-, -, -, rfl, -⟩ <;> exact hno hidle
  | setSdDiag =>
    rcases handleSetSdDiag_cases h with rfl | ⟨_, _, -, htransfers, -⟩
    · exact hno hidle
    · exact hno (htransfers ▸ hidle)
  | systemReset =>
    cases h
    exact hno hidle

/-- The command that starts a download queues the size of the file, and writes nothing. -/
theorem processCommand_started (hidle : c.transfers.dl = none)
    (hstart : (c.processCommand env t).transfers.dl = some dl) :
    ((c.processCommand env t).source t).sent = (c.source t).sent ∧
      ((c.processCommand env t).source t).resp
        = G6Arena.sendResponse ⟨getPatternFileCmd, 0, toLe 8 dl.remaining⟩ := by
  have hno {p : Prop} {c' : Controller} (hnone : c'.transfers.dl = none)
      (hsome : c'.transfers.dl = some dl) : p := by
    rw [hnone] at hsome
    cases hsome
  rcases processCommand_cases env t c with ⟨-, heq⟩ | ⟨-, -, c₁, handoff, hcall, heq⟩
  · rw [heq] at hstart
    exact hno hidle hstart
  have htransfers : (c.processCommand env t).transfers = c₁.transfers := by
    rw [heq]
    split_ifs <;> rfl
  have hsource : ((c.processCommand env t).source t).sent = (c₁.source t).sent ∧
      ((c.processCommand env t).source t).resp = (c₁.source t).resp := by
    rw [heq]
    split_ifs
    · exact ⟨rfl, rfl⟩
    · rw [onSource_self]
      exact ⟨rfl, rfl⟩
  rw [htransfers] at hstart
  rw [hsource.1, hsource.2]
  have hbegin : ((c.onSource t noteDispatched).source t).sent = (c.source t).sent := by
    rw [onSource_self]
    rfl
  have hidle₀ : (c.onSource t noteDispatched).transfers.dl = none := hidle
  rw [← hbegin]
  generalize c.onSource t noteDispatched = c₀ at hcall hidle₀
  generalize (c.source t).rx.parsedCmd = cmd at hcall
  unfold handleCommand at hcall
  split at hcall
  · dsimp only at hcall
    generalize hnote : c₀.noteWatchdog (decide (cmd.cmd = setFirmwareFileCmd) && !env.watchdog [0])
      (env.clock 0) cmd.cmd = c₂ at hcall
    have hbefore : SameCore c₀ c₂ := hnote ▸ noteWatchdog_sameCore ..
    generalize hrun : c₂.handleBulkWriteCommand _ _ _ = r at hcall
    obtain ⟨c₃, handoff'⟩ := r
    obtain ⟨rfl, -⟩ := Prod.mk.inj hcall
    rw [(noteWatchdog_sameCore ..).transfers] at hstart
    refine hno ?_ hstart
    rcases handleBulkWriteCommand_heardAt hrun with ⟨-, hsame, -⟩ | ⟨-, -, hupload⟩
    · rw [hsame, hbefore.transfers, hidle₀]
    · obtain ⟨_, _, -, -, hcore⟩ := hupload.core
      rw [hcore.transfers]
      change c₂.transfers.dl = none
      rw [hbefore.transfers, hidle₀]
  split at hcall
  · obtain ⟨rfl, -⟩ := Prod.mk.inj hcall
    exact hno hidle₀ hstart
  · obtain ⟨rfl, -⟩ := Prod.mk.inj hcall
    by_cases hlen : cmd.dataLen - 1 = claimedLen cmd.data
    · obtain ⟨c₂, c₃, reply, hbefore, hkept, hrun, hend⟩ := handleBinaryCommand_cases env t c₀ hlen
      have hidle₂ : c₂.transfers.dl = none := hbefore.transfers ▸ hidle₀
      have hsent : (c₃.source t).sent = (c₀.source t).sent := by
        rw [(dispatch_source hrun).1, hkept]
      have hreply (hstart₃ : c₃.transfers.dl = some dl) :
          reply = done getPatternFileCmd (toLe 8 dl.remaining) := by
        unfold dispatch at hrun
        split at hrun
        · cases hrun
          exact hno hidle₂ hstart₃
        · exact storeCommand_started hidle₂ hrun hstart₃
        · cases hrun
          exact hno hidle₂ hstart₃
      rcases hend with ⟨-, hafter, hend⟩ | ⟨hreset, hend⟩
      · rw [hafter.transfers] at hstart
        rw [hend, onSource_self, hreply hstart]
        exact ⟨hsent, rfl⟩
      · rw [hend] at hstart
        have hopcode : ArenaCommand.ofByte (cmd.data 1) = some (.store .systemReset) := by
          rw [hreset]
          rfl
        unfold dispatch storeCommand handleSystemReset at hrun
        rw [hopcode] at hrun
        cases hrun
        exact hno hidle₂ hstart
    · unfold handleBinaryCommand at hstart
      rw [if_pos hlen] at hstart
      exact hno hidle₀ hstart

end

/-! ### The state of a download -/

/-- A download under way on the serial link, to which `base` had been written before: what is
written and queued since is the reply `head` and the beginning of `body`. -/
structure Fetching (base head body : List UInt8) (c : Controller) (dl : Download) : Prop where
  active : c.transfers.dl = some dl
  source : dl.source = .serial
  count : dl.pos + dl.remaining = body.length
  below : dl.file < c.store.card.fresh
  file : body <+: c.store.card.content dl.file
  wire : (c.source .serial).sent ++ (c.source .serial).resp = base ++ (head ++ body.take dl.pos)
  queued : (c.source .serial).resp = [] ∨ ((c.source .serial).resp = head ∧ dl.pos = 0)
  ul : ∀ ul ∈ c.transfers.ul, ul.source ≠ .serial
  ar : ∀ ar ∈ c.transfers.ar, ar.source ≠ .serial

/-- A download that has ended.  All of it was sent if `whole`. -/
structure Fetched (base stream : List UInt8) (whole : Prop) (c : Controller) : Prop where
  ended : c.transfers.dl = none
  written : ∃ p, p <+: stream ∧ (c.source .serial).sent = base ++ p
  complete : whole → (c.source .serial).sent ++ (c.source .serial).resp = base ++ stream

/-- The next chunk of a download. -/
def nextRead (env : Env) (dl : Download) (c : Controller) : List UInt8 :=
  c.store.card.read (env.sd.cap (.read 0)) dl.file dl.pos (min dl.remaining chunkBytes)

/-- The queued reply is written out before the next chunk. -/
def replyFirst (env : Env) (c : Controller) : Bool :=
  (spinFlush ((env.tx.start + respTimeoutMs) % 2 ^ 32) env.tx.spin
    (c.source .serial)).resp = []

/-- A download is given up in this step: the link has been idle for too long, nothing can be read of
the file, or the link stalls. -/
def downloadAborts (c : Controller) (i : Action × Env) : Bool :=
  i.1 = .serviceDownload && c.transfers.dl.any fun dl =>
    Link.due (i.2.millis 0) dl.deadline || (dl.remaining ≠ 0 && (c.nextRead i.2 dl = [] ||
      ((c.source dl.source).sendRaw dl.source i.2.tx (c.nextRead i.2 dl)).2
        < (c.nextRead i.2 dl).length))

/-- A step a download over USB can go on in: it is active, and its reply goes out before its
file. -/
def downloadMeets (c : Controller) (i : Action × Env) : Bool :=
  c.transfers.dl.isSome && (i.1 ≠ .serviceDownload || c.replyFirst i.2)

section

variable {base head body : List UInt8} {c c' : Controller} {dl : Download} {env : Env}

/-- A download that is served: it ends, or its next chunk is sent. -/
theorem serviceDownload_cases (env : Env) (hdl : c.transfers.dl = some dl) :
    (Link.due (env.millis 0) dl.deadline = true ∧ c.serviceDownload env = c.withDl none) ∨
    (Link.due (env.millis 0) dl.deadline = false ∧
      ((dl.remaining = 0 ∧ c.serviceDownload env = c.withDl none) ∨
      (dl.remaining ≠ 0 ∧
        ((c.nextRead env dl = [] ∧ c.serviceDownload env = c.withDl none) ∨
        (c.nextRead env dl ≠ [] ∧ ∃ source n deadline,
          (c.source dl.source).sendRaw dl.source env.tx (c.nextRead env dl) = (source, n) ∧
          ((n < (c.nextRead env dl).length ∧
            c.serviceDownload env = (c.onSource dl.source fun _ => source).withDl none) ∨
          ((c.nextRead env dl).length ≤ n ∧ dl.remaining - n = 0 ∧
            c.serviceDownload env = (c.onSource dl.source fun _ => source).withDl none) ∨
          ((c.nextRead env dl).length ≤ n ∧ dl.remaining - n ≠ 0 ∧
            c.serviceDownload env = (c.onSource dl.source fun _ => source).withDl (some { dl with
              remaining := dl.remaining - n
              pos := dl.pos + (c.nextRead env dl).length
              deadline := deadline })))))))) := by
  have hserve : c.serviceDownload env = c.downloadStep env dl := by
    unfold serviceDownload
    rw [hdl]
  rw [hserve]
  unfold downloadStep
  dsimp only
  generalize (env.millis 1 + kDownloadIdleTimeoutMs) % 2 ^ 32 = deadline
  generalize hchunk : c.store.card.read (env.sd.cap (.read 0)) dl.file dl.pos
    (min dl.remaining chunkBytes) = chunk
  have hread : c.nextRead env dl = chunk := hchunk
  rw [hread]
  generalize hsend : (c.source dl.source).sendRaw dl.source env.tx chunk = r
  obtain ⟨source, n⟩ := r
  dsimp only
  cases hdue : Link.due (env.millis 0) dl.deadline with
  | true => exact .inl ⟨rfl, if_pos rfl⟩
  | false =>
    refine .inr ⟨rfl, ?_⟩
    rw [if_neg Bool.false_ne_true]
    by_cases hzero : dl.remaining = 0
    · exact .inl ⟨hzero, if_pos hzero⟩
    refine .inr ⟨hzero, ?_⟩
    rw [if_neg hzero]
    by_cases hnil : chunk = []
    · exact .inl ⟨hnil, if_pos hnil⟩
    refine .inr ⟨hnil, source, n, deadline, rfl, ?_⟩
    rw [if_neg hnil]
    by_cases hshort : n < chunk.length
    · exact .inl ⟨hshort, if_pos hshort⟩
    rw [if_neg hshort]
    by_cases hdone : dl.remaining - n = 0
    · exact .inr (.inl ⟨Nat.le_of_not_lt hshort, hdone, if_pos hdone⟩)
    · exact .inr (.inr ⟨Nat.le_of_not_lt hshort, hdone, if_neg hdone⟩)

/-- What is written is the beginning of the stream. -/
theorem Fetching.written (h : Fetching base head body c dl) :
    ∃ p, p <+: head ++ body ∧ (c.source .serial).sent = base ++ p := by
  have hwire := h.wire
  rcases h.queued with hresp | ⟨hresp, hpos⟩
  · rw [hresp, List.append_nil] at hwire
    exact ⟨_, (List.prefix_append_right_inj _).2 (List.take_prefix ..), hwire⟩
  · rw [hresp, hpos, List.take_zero, List.append_nil] at hwire
    exact ⟨[], List.nil_prefix, by rw [List.append_nil]; exact List.append_cancel_right hwire⟩

/-- The next chunk is the next part of the body. -/
theorem Fetching.nextRead (h : Fetching base head body c dl) (env : Env) :
    ∃ k ≤ dl.remaining, c.nextRead env dl = (body.drop dl.pos).take k ∧
      (c.nextRead env dl).length = k := by
  obtain ⟨rest, hrest⟩ := h.file
  have hcount := h.count
  generalize hk : min (min dl.remaining chunkBytes) (env.sd.cap (.read 0)) = k
  have hle : k ≤ dl.remaining := by omega
  have hread : c.nextRead env dl = (body.drop dl.pos).take k := by
    unfold Controller.nextRead Card.read
    rw [hk, ← hrest, List.drop_append_of_le_length (by omega),
      List.take_append_of_le_length (by rw [List.length_drop]; omega)]
  refine ⟨k, hle, hread, ?_⟩
  rw [hread, List.length_take, List.length_drop]
  omega

/-- A step that leaves the serial link, or flushes it, and the file. -/
theorem Fetching.quiet {dl' : Download} (h : Fetching base head body c dl)
    (hdl : c'.transfers.dl = some dl') (hsource : dl'.source = dl.source) (hpos : dl'.pos = dl.pos)
    (hleft : dl'.remaining = dl.remaining) (hfile : dl'.file = dl.file)
    (hgrows : Card.Grows c.store.card c'.store.card)
    (hserial : c'.source .serial = c.source .serial ∨
      ((c'.source .serial).sent = (c.source .serial).sent ++ (c.source .serial).resp ∧
        (c'.source .serial).resp = []))
    (hul : ∀ ul ∈ c'.transfers.ul, ul.source ≠ .serial)
    (har : ∀ ar ∈ c'.transfers.ar, ar.source ≠ .serial) : Fetching base head body c' dl' := by
  refine ⟨hdl, hsource.trans h.source, ?_, ?_, ?_, ?_, ?_, hul, har⟩
  · rw [hpos, hleft]
    exact h.count
  · rw [hfile]
    exact h.below.trans_le hgrows.fresh
  · rw [hfile]
    exact h.file.trans (hgrows.content _ h.below)
  · rw [hpos, ← h.wire]
    rcases hserial with heq | ⟨hsent, hresp⟩
    · rw [heq]
    · rw [hsent, hresp, List.append_nil]
  · rcases hserial with heq | ⟨-, hresp⟩
    · rw [heq, hpos]
      exact h.queued
    · exact .inl hresp

/-- The same transfers. -/
theorem Fetching.same (h : Fetching base head body c dl) (htransfers : c'.transfers = c.transfers)
    (hcard : c'.store.card = c.store.card)
    (hserial : c'.source .serial = c.source .serial ∨
      ((c'.source .serial).sent = (c.source .serial).sent ++ (c.source .serial).resp ∧
        (c'.source .serial).resp = [])) : Fetching base head body c' dl := by
  refine h.quiet (htransfers ▸ h.active) rfl rfl rfl rfl (hcard ▸ .refl _) hserial ?_ ?_
  · rw [htransfers]
    exact h.ul
  · rw [htransfers]
    exact h.ar

/-- A chunk of which `n` bytes are written. -/
theorem Fetching.send (h : Fetching base head body c dl) (hfirst : c.replyFirst env = true) :
    ∃ n ≤ (c.nextRead env dl).length, ∃ source,
      (c.source dl.source).sendRaw dl.source env.tx (c.nextRead env dl) = (source, n) ∧
      source.resp = [] ∧ source.sent = base ++ (head ++ body.take (dl.pos + n)) := by
  obtain ⟨k, -, hread, hlen⟩ := h.nextRead env
  have hflushed := spinFlush_writes ((env.tx.start + respTimeoutMs) % 2 ^ 32) env.tx.spin
    (c.source .serial)
  unfold replyFirst at hfirst
  have hresp := of_decide_eq_true hfirst
  rw [h.source]
  unfold Source.sendRaw
  dsimp only
  generalize spinFlush ((env.tx.start + respTimeoutMs) % 2 ^ 32) env.tx.spin (c.source .serial) = s
    at hflushed hresp ⊢
  obtain ⟨n, hn, hwrite⟩ := writeSerial_writes ((env.tx.stallStart + kStallTimeoutMs) % 2 ^ 32)
    env.tx.write (c.nextRead env dl) s
  refine ⟨n, hn, _, hwrite, hresp, ?_⟩
  rw [hresp, List.append_nil, h.wire] at hflushed
  have htake : (c.nextRead env dl).take n = (body.drop dl.pos).take n := by
    rw [hread, List.take_take, Nat.min_eq_left (by omega)]
  change s.sent ++ (c.nextRead env dl).take n = _
  rw [hflushed, htake, List.take_add, List.append_assoc, List.append_assoc]

/-- **A call of `serviceDownload`** goes on with a download, or ends it. -/
theorem Fetching.serviceDownload (h : Fetching base head body c dl)
    (hfirst : c.replyFirst env = true) :
    (∃ dl', Fetching base head body (c.serviceDownload env) dl') ∨
      Fetched base (head ++ body) (c.downloadAborts (.serviceDownload, env) = false)
        (c.serviceDownload env) := by
  have haborts : c.downloadAborts (.serviceDownload, env)
      = (Link.due (env.millis 0) dl.deadline || (dl.remaining ≠ 0 && (c.nextRead env dl = [] ||
        ((c.source dl.source).sendRaw dl.source env.tx (c.nextRead env dl)).2
          < (c.nextRead env dl).length))) := by
    unfold downloadAborts
    rw [h.active, Option.any_some, decide_eq_true rfl, Bool.true_and]
  have hcount := h.count
  have hgiven {whole : Prop} (hno : ¬ whole) : Fetched base (head ++ body) whole (c.withDl none) :=
    ⟨rfl, h.written, fun hwhole => absurd hwhole hno⟩
  rw [haborts]
  rcases serviceDownload_cases env h.active with ⟨hdue, heq⟩ | ⟨-, ⟨hzero, heq⟩ | ⟨hmore,
    ⟨hnil, heq⟩ | ⟨-, source, n, deadline, hsend, hend⟩⟩⟩
  · rw [heq, hdue]
    exact .inr (hgiven (by simp))
  · rw [heq]
    refine .inr ⟨rfl, h.written, fun _ => ?_⟩
    have hwire := h.wire
    rw [List.take_of_length_le (by omega)] at hwire
    exact hwire
  · rw [heq, hnil]
    exact .inr (hgiven (by simp [hmore]))
  obtain ⟨k, hk, hread, hlen⟩ := h.nextRead env
  obtain ⟨n', hn, source', hsend', hresp, hsent⟩ := h.send hfirst
  obtain ⟨rfl, rfl⟩ := Prod.mk.inj (hsend.symm.trans hsend')
  have hself (dl' : Option Download) :
      ((c.onSource dl.source fun _ => source).withDl dl').source .serial = source := by
    rw [withDl_source, h.source, onSource_self]
  have hbegins : head ++ body.take (dl.pos + n) <+: head ++ body :=
    (List.prefix_append_right_inj _).2 (List.take_prefix ..)
  rcases hend with ⟨hshort, heq⟩ | ⟨hwhole, hdone, heq⟩ | ⟨hwhole, hmore, heq⟩
  · rw [heq, hsend]
    refine .inr ⟨rfl, ⟨_, hbegins, ?_⟩, fun hno => ?_⟩
    · rw [hself, hsent]
    · simp [hmore, hshort] at hno
  · rw [heq]
    refine .inr ⟨rfl, ⟨_, hbegins, ?_⟩, fun _ => ?_⟩
    · rw [hself, hsent]
    · rw [hself, hsent, hresp, List.append_nil, List.take_of_length_le (by omega)]
  · rw [heq]
    refine .inl ⟨_, rfl, h.source, ?_, h.below, h.file, ?_, ?_, h.ul, h.ar⟩
    · change dl.pos + (c.nextRead env dl).length + (dl.remaining - n) = body.length
      omega
    · change ((c.onSource dl.source fun _ => source).source .serial).sent
        ++ ((c.onSource dl.source fun _ => source).source .serial).resp
          = base ++ (head ++ body.take (dl.pos + (c.nextRead env dl).length))
      rw [h.source, onSource_self, hresp, List.append_nil, hsent, Nat.le_antisymm hn hwhole]
    · left
      rw [hself, hresp]

/-! ### Runs -/

variable [Board]

omit [Board] in
theorem shiftTransfers_dl_some {x : Transfers} (h : x.dl = some dl) (idx : ℕ) :
    ∃ n, (shiftTransfers idx x).dl = some { dl with idx := n } := by
  unfold shiftTransfers
  split_ifs
  · dsimp only
    rw [h, Option.map_some]
    split_ifs
    · exact ⟨dl.idx - 1, rfl⟩
    · exact ⟨dl.idx, rfl⟩
  · exact ⟨dl.idx, h⟩

omit [Board] in
theorem shiftTransfers_sources {x : Transfers} (hul : ∀ ul ∈ x.ul, ul.source ≠ .serial) (idx : ℕ) :
    ∀ ul ∈ (shiftTransfers idx x).ul, ul.source ≠ .serial := by
  unfold shiftTransfers
  split_ifs
  · intro ul hmem
    obtain ⟨ul₀, hmem₀, rfl⟩ := Option.mem_map.1 hmem
    have hne := hul ul₀ hmem₀
    split_ifs <;> exact hne
  · exact hul

/-- A command that is handled meanwhile. -/
theorem Fetching.command (h : Fetching base head body c dl) (env : Env) (u : Transport) :
    ∃ dl', Fetching base head body (c.processCommand env u) dl' := by
  have howned : c.transfers.owns .serial = true := by
    unfold Transfers.owns
    rw [h.active, Option.any_some, decide_eq_true h.source, Bool.true_or, Bool.true_or]
  have hbusy {p : Prop} (hidle : c.transfers.active = false) : p := by
    unfold Transfers.active at hidle
    rw [h.active, Option.isSome_some, Bool.true_or, Bool.true_or] at hidle
    cases hidle
  rcases processCommand_stores env u c with heq | ⟨-, howns, hstores⟩
  · rw [heq]
    exact ⟨dl, h⟩
  have hu : Transport.serial ≠ u := by
    rintro rfl
    rw [howned] at howns
    cases howns
  have hserial : (c.processCommand env u).source .serial = c.source .serial ∨
      (((c.processCommand env u).source .serial).sent
          = (c.source .serial).sent ++ (c.source .serial).resp ∧
        ((c.processCommand env u).source .serial).resp = []) := by
    rcases processCommand_other env hu c with heq | heq
    · exact .inl heq
    · rw [heq]
      exact flushResponses_writes ..
  have hgrows := hstores.kept.grows
  generalize c.processCommand env u = c' at hstores hserial hgrows ⊢
  have hkeeps {dl' : Option Download} (hdl : c'.transfers.dl = dl') (hsome : dl' = some dl)
      (hul : ∀ ul ∈ c'.transfers.ul, ul.source ≠ .serial)
      (har : ∀ ar ∈ c'.transfers.ar, ar.source ≠ .serial) : ∃ dl', Fetching base head body c' dl' :=
    ⟨dl, h.quiet (hdl.trans hsome) rfl rfl rfl rfl hgrows hserial hul har⟩
  have hsame (htransfers : c'.transfers = c.transfers) : ∃ dl', Fetching base head body c' dl' :=
    hkeeps (by rw [htransfers]) h.active (htransfers ▸ h.ul) (htransfers ▸ h.ar)
  cases hstores with
  | same store transfers => exact hsame transfers
  | seek legacy store transfers => exact hsame transfers
  | opened patternId idle => exact hbusy idle
  | renamed idx name idle => exact hbusy idle
  | purged idle => exact hbusy idle
  | deleted idx err bulk stream sound claimed opcode index free run transfers =>
    split_ifs at transfers
    · obtain ⟨n, hdl⟩ := shiftTransfers_dl_some h.active idx
      rw [← transfers] at hdl
      refine ⟨_, h.quiet hdl rfl rfl rfl rfl hgrows hserial ?_ ?_⟩
      · rw [transfers]
        exact shiftTransfers_sources h.ul idx
      · rw [transfers]
        unfold shiftTransfers
        split_ifs <;> exact h.ar
    · exact hsame transfers
  | downloads entry dl' off free =>
    rw [h.active] at free
    cases free
  | archives deadline off free quiet store transfers =>
    refine hkeeps (by rw [transfers]) h.active (by rw [transfers]; exact h.ul) ?_
    rw [transfers]
    rintro ar ⟨⟩
    exact hu.symm
  | firmware idle => exact hbusy idle
  | refuses entry quiet free still target failed store transfers => exact hsame transfers
  | uploads entry id opcode len off quiet free still target opened store transfers =>
    refine hkeeps (by rw [transfers]) h.active ?_ (by rw [transfers]; exact h.ar)
    rw [transfers]
    rintro ul ⟨⟩
    exact hu.symm

/-- A source that is polled writes nothing. -/
theorem service_writes (t : Transport) (cap : ℕ) (accepted : Bool) (s : Source) :
    (s.service t cap accepted).sent = s.sent ∧ (s.service t cap accepted).resp = s.resp := by
  have hnote (before : Bool) (s : Source) :
      (Source.noteParsed before s).sent = s.sent ∧ (Source.noteParsed before s).resp = s.resp := by
    unfold Source.noteParsed
    split_ifs <;> exact ⟨rfl, rfl⟩
  unfold Source.service
  cases t with
  | serial => exact hnote ..
  | network => exact hnote ..

/-- **A step of a run** a download is under way in. -/
theorem Fetching.step {i : Action × Env} (h : Fetching base head body c dl)
    (hmeets : c.downloadMeets i = true) :
    (∃ dl', Fetching base head body (c.step i) dl') ∨
      Fetched base (head ++ body) (c.downloadAborts i = false) (c.step i) := by
  obtain ⟨a, env⟩ := i
  unfold Controller.step
  split_ifs
  · exact .inl ⟨dl, h⟩
  have hlink (t : Transport) {f : Source → Source} (hsent : ∀ s, (f s).sent = s.sent)
      (hresp : ∀ s, (f s).resp = s.resp) : Fetching base head body (c.onSource t f) dl := by
    by_cases ht : t = .serial
    · subst ht
      refine ⟨h.active, h.source, h.count, h.below, h.file, ?_, ?_, h.ul, h.ar⟩
      · rw [onSource_self, hsent, hresp]
        exact h.wire
      · rw [onSource_self, hresp]
        exact h.queued
    · exact h.same rfl rfl (.inl (onSource_of_ne _ _ _ (Ne.symm ht)))
  have hserved {c' : Controller} (hbeside : Beside .serial c c') (hgoes : c.transfers.Goes c'.transfers)
      (hkept : Sd.FilesKept c.store.card c'.store.card) :
      (∃ dl', Fetching base head body c' dl') ∨
        Fetched base (head ++ body) (c.downloadAborts (a, env) = false) c' := by
    refine .inl ⟨dl, h.quiet (hbeside.dl.trans h.active) rfl rfl rfl rfl hkept.grows
      (.inl hbeside.source) (fun ul' hmem' => ?_) fun ar' hmem' => ?_⟩
    · rcases hgoes.ul with hnone | ⟨ul, ul₁, hul, hul₁, hkeeps⟩
      · rw [hnone] at hmem'
        cases hmem'
      · rw [hul₁] at hmem'
        cases hmem'
        have hsource : ul'.source = ul.source := congrArg (fun k => k.2.2.1) hkeeps
        rw [hsource]
        exact h.ul ul hul
    · rcases hgoes.ar with hnone | ⟨ar, ar₁, har, har₁, hkeeps⟩
      · rw [hnone] at hmem'
        cases hmem'
      · rw [har₁] at hmem'
        cases hmem'
        have hsource : ar'.source = ar.source := hkeeps
        rw [hsource]
        exact h.ar ar har
  cases a with
  | arrive t bytes =>
    have harrived := hlink t (f := fun s => { s with link := s.link ++ bytes }) (fun _ => rfl) fun _ => rfl
    exact .inl ⟨dl, harrived⟩
  | disconnect =>
    have hlost := hlink .network (f := fun s => { s with connected := false }) (fun _ => rfl) fun _ => rfl
    exact .inl ⟨dl, hlost⟩
  | service t accepted =>
    exact .inl ⟨dl, hlink t (fun s => (service_writes t env.cap accepted s).1) fun s =>
      (service_writes t env.cap accepted s).2⟩
  | processCommand t => exact .inl (h.command env t)
  | serviceDisplay => exact .inl ⟨dl, h.same rfl rfl (.inl rfl)⟩
  | serviceTelemetry => exact .inl ⟨dl, h.same rfl rfl (.inl rfl)⟩
  | serviceDownload =>
    have hfirst : c.replyFirst env = true := by
      unfold downloadMeets at hmeets
      rw [h.active, Option.isSome_some, Bool.true_and] at hmeets
      simpa using hmeets
    exact h.serviceDownload hfirst
  | serviceUpload =>
    exact hserved (serviceUpload_beside h.ul) (serviceUpload_serves env c).transfers
      (serviceUpload_kept env c)
  | serviceArchive =>
    have hkept : Sd.FilesKept c.store.card (c.serviceArchive env).store.card := by
      rw [(serviceArchive_sends env c).store]
      exact .refl _
    exact hserved (serviceArchive_beside h.ar) (serviceArchive_serves env c).transfers hkept
  | serviceDisconnects =>
    exact hserved (serviceDisconnects_beside h.active h.source h.ul)
      (serviceDisconnects_serves env c).transfers (serviceDisconnects_kept env c)
  | serviceLateBootBlank => exact .inl ⟨dl, h.same rfl rfl (.inl rfl)⟩
  | flushResponses t =>
    refine .inl ⟨dl, h.same rfl rfl ?_⟩
    change (c.onSource t _).source .serial = _ ∨ ((c.onSource t _).source .serial).sent = _ ∧
      ((c.onSource t _).source .serial).resp = _
    by_cases ht : t = .serial
    · subst ht
      rw [onSource_self]
      exact flushResponses_writes ..
    · left
      exact onSource_of_ne _ _ _ (Ne.symm ht)
  | refreshIsr => exact .inl ⟨dl, h.same rfl rfl (.inl rfl)⟩

/-- **A run** a download is under way in: it is under way, or has ended with the last step. -/
theorem Fetching.run {is : List (Action × Env)} (h : Fetching base head body c dl)
    (hmeets : Along Controller.step (fun c i => c.downloadMeets i = true) c is) :
    (∃ dl', Fetching base head body (Machine.run Controller.step c is) dl') ∨
      Fetched base (head ++ body)
        (Along Controller.step (fun c i => c.downloadAborts i = false) c is)
        (Machine.run Controller.step c is) := by
  induction is generalizing c dl with
  | nil => exact .inl ⟨dl, h⟩
  | cons i is ih =>
    rcases h.step hmeets.1 with ⟨dl', h'⟩ | hfetched
    · rcases ih h' hmeets.2 with hgoes | hends
      · exact .inl hgoes
      · exact .inr ⟨hends.ended, hends.written, fun hall => hends.complete hall.2⟩
    · -- nothing follows a download that has ended
      cases is with
      | nil => exact .inr ⟨hfetched.ended, hfetched.written, fun hall => hfetched.complete hall.1⟩
      | cons i' is =>
        have hactive : (c.step i).downloadMeets i' = true := hmeets.2.1
        unfold downloadMeets at hactive
        rw [hfetched.ended] at hactive
        cases hactive

/-- The command that starts a download. -/
theorem Fetching.start {env : Env} (hcard : c.store.card.WellFormed) (hidle : c.transfers.dl = none)
    (hstart : (c.processCommand env .serial).transfers.dl = some dl) :
    Fetching (c.source .serial).sent (sendResponse ⟨getPatternFileCmd, 0, toLe 8 dl.remaining⟩)
        ((c.store.card.content dl.file).take dl.remaining) (c.processCommand env .serial) dl ∧
      dl.remaining = (c.store.card.content dl.file).length % 2 ^ 32 ∧
      ∃ entry, c.store.sd.pattern? dl.idx = some entry ∧
        c.store.card.file entry.path = some dl.file := by
  have hno {p : Prop} {x : Transfers} (hnone : x.dl = none) (hsome : x.dl = some dl) : p := by
    rw [hnone] at hsome
    cases hsome
  obtain ⟨hsent, hresp⟩ := processCommand_started hidle hstart
  rcases processCommand_stores env .serial c with heq | ⟨-, howns, hstores⟩
  · rw [heq] at hstart
    exact hno hidle hstart
  generalize c.processCommand env .serial = c' at hstores hstart hsent hresp ⊢
  cases hstores with
  | same store transfers => exact hno (transfers ▸ hidle) hstart
  | seek legacy store transfers => exact hno (transfers ▸ hidle) hstart
  | opened patternId idle store transfers => exact hno (transfers ▸ hidle) hstart
  | renamed idx name idle store transfers => exact hno (transfers ▸ hidle) hstart
  | purged idle store transfers => exact hno (transfers ▸ hidle) hstart
  | deleted idx err bulk stream sound claimed opcode index free run transfers =>
    refine hno ?_ hstart
    rw [transfers]
    split_ifs
    · unfold shiftTransfers
      split_ifs
      · dsimp only
        rw [hidle, Option.map_none]
      · exact hidle
    · exact hidle
  | downloads entry dl' off free idx listed busy pattern file pos source size store transfers =>
    rw [transfers] at hstart
    cases hstart
    have hle : dl.remaining ≤ (c.store.card.content dl.file).length := by
      rw [size]
      exact Nat.mod_le ..
    unfold Transfers.owns at howns
    rw [Bool.or_eq_false_iff, Bool.or_eq_false_iff] at howns
    refine ⟨⟨by rw [transfers], source, ?_, ?_, ?_, ?_, ?_, ?_, ?_⟩, size, entry, pattern, file⟩
    · rw [pos, List.length_take]
      omega
    · rw [store]
      exact hcard.below file
    · rw [store]
      exact List.take_prefix ..
    · rw [hsent, hresp, pos, List.take_zero, List.append_nil]
    · exact .inr ⟨hresp, pos⟩
    · rw [transfers]
      intro ul hul heq
      have hfalse := howns.1.2
      rw [hul, Option.any_some, decide_eq_true heq] at hfalse
      cases hfalse
    · rw [transfers]
      intro ar har heq
      have hfalse := howns.2
      rw [har, Option.any_some, decide_eq_true heq] at hfalse
      cases hfalse
  | archives deadline off free quiet store transfers => exact hno (transfers ▸ hidle) hstart
  | firmware idle kept spared patterns sd transfers => exact hno (transfers ▸ hidle) hstart
  | refuses entry quiet free still target failed store transfers =>
    exact hno (transfers ▸ hidle) hstart
  | uploads entry id opcode len off quiet free still target opened store transfers =>
    refine hno ?_ hstart
    rw [transfers]
    exact hidle

/-- **A download, end to end.**  A client that asks over USB for a pattern gets the file that pattern
then had, or nothing, whatever the other source does meanwhile, however the bytes arrive and
wherever they stop; and it does get the file if the download ends without being given up. -/
theorem downloads_end_to_end {boot : Boot} (hboot : boot.card.WellFormed) (env₀ env : Env)
    {before is : List (Action × Env)} {dl : Download} :
    let c := Machine.run Controller.step (setup boot env₀) before
    let c₁ := c.step (.processCommand .serial, env)
    let c' := Machine.run Controller.step c₁ is
    c.transfers.dl = none → c₁.transfers.dl = some dl →
    Along Controller.step (fun c i => c.downloadMeets i = true) c₁ is →
    ∃ entry file wire, c.store.sd.pattern? dl.idx = some entry ∧
      c.store.card.contentOf entry.path = some file ∧
      (c'.source .serial).sent = (c.source .serial).sent ++ wire ∧
      (∀ chunks, chunks.flatten <+: wire → Client.receiveFile chunks = none ∨
        Client.receiveFile chunks = some
          ⟨some 0, some getPatternFileCmd, file.take (file.length % 2 ^ 32), []⟩) ∧
      (c'.transfers.dl = none →
        Along Controller.step (fun c i => c.downloadAborts i = false) c₁ is →
        (c'.source .serial).resp = [] → ∀ chunks, chunks.flatten = wire →
        Client.receiveFile chunks = some
          ⟨some 0, some getPatternFileCmd, file.take (file.length % 2 ^ 32), []⟩) := by
  intro c c₁ c' hidle hstart hmeets
  have hcard : c.store.card.WellFormed := run_wellFormed hboot env₀ before
  have hrun : c.halted = false := by
    by_contra hhalted
    have hstays : c₁ = c := if_pos (by simpa using hhalted)
    rw [hstays, hidle] at hstart
    cases hstart
  have hc₁ : c₁ = c.processCommand env .serial := if_neg (by rw [hrun]; decide)
  obtain ⟨hfetching, hsize, entry, hentry, hfile⟩ := Fetching.start hcard hidle (hc₁ ▸ hstart)
  rw [← hc₁] at hfetching
  have hlen : ((c.store.card.content dl.file).take dl.remaining).length = dl.remaining := by
    rw [List.length_take, hsize]
    exact Nat.min_eq_left (Nat.mod_le ..)
  have hreceives (chunks : List (List UInt8)) := @Client.receiveFile_eq
    ((c.store.card.content dl.file).take dl.remaining) chunks getPatternFileCmd (by omega)
  rw [hlen] at hreceives
  refine ⟨entry, c.store.card.content dl.file, ?_⟩
  rw [← hsize, Card.contentOf, hfile, Option.map_some]
  generalize (c.store.card.content dl.file).take dl.remaining = body at hfetching hreceives ⊢
  generalize hhead : sendResponse ⟨getPatternFileCmd, 0, toLe 8 dl.remaining⟩ = head
    at hfetching hreceives
  have hnever {chunks : List (List UInt8)} (hbegins : chunks.flatten <+: head ++ body) :
      Client.receiveFile chunks = none ∨
        Client.receiveFile chunks = some ⟨some 0, some getPatternFileCmd, body, []⟩ := by
    rw [hreceives chunks hbegins]
    split_ifs
    · exact .inr rfl
    · exact .inl rfl
  have hrun := hfetching.run hmeets
  change (∃ dl', Fetching _ _ _ c' dl') ∨ Fetched _ _ _ c' at hrun
  rcases hrun with ⟨dl', hgoes⟩ | hends
  · obtain ⟨wire, hwire, hsent⟩ := hgoes.written
    refine ⟨wire, hentry, rfl, hsent, fun chunks hchunks => hnever (hchunks.trans hwire), fun hended => ?_⟩
    rw [hgoes.active] at hended
    cases hended
  · obtain ⟨wire, hwire, hsent⟩ := hends.written
    refine ⟨wire, hentry, rfl, hsent, fun chunks hchunks => hnever (hchunks.trans hwire),
      fun _ hall hresp chunks hchunks => ?_⟩
    have hwhole := hends.complete hall
    rw [hresp, List.append_nil, hsent, List.append_cancel_left_eq] at hwhole
    rw [hwhole] at hchunks
    rw [hreceives chunks (hchunks ▸ List.prefix_rfl), if_pos hchunks]

end

end Controller

section

local instance downloadBoard : Board := ⟨.hw2_10⟩

/-- The first pattern of the small card is asked for over USB. -/
def askedFor : List (Action × Env) :=
  [(.arrive .serial [3, 0x84, 1, 0], .calm smallIo), (.service .serial false, .calm smallIo)]

/-- It is downloaded, with a command of the other source in between. -/
def downloaded : List (Action × Env) :=
  (.flushResponses .serial, .calm smallIo) :: receive .network [1, 0x17] (.calm smallIo)
    ++ [(.serviceDownload, .calm smallIo)]

set_option maxRecDepth 100000 in
theorem downloads_end_to_end_small :
    let c := run Controller.step (setup (.cold smallCard) (.calm smallIo)) askedFor
    let c₁ := c.step (.processCommand .serial, .calm smallIo)
    let c' := run Controller.step c₁ downloaded
    ∃ entry file wire, c.store.sd.pattern? 1 = some entry ∧
      c.store.card.contentOf entry.path = some file ∧
      (c'.source .serial).sent = (c.source .serial).sent ++ wire ∧
      ∀ chunks, chunks.flatten = wire → Client.receiveFile chunks = some
        ⟨some 0, some getPatternFileCmd, file.take (file.length % 2 ^ 32), []⟩ := by
  obtain ⟨entry, file, wire, hentry, hfile, hsent, -, hall⟩ :=
    @Controller.downloads_end_to_end downloadBoard (.cold smallCard) smallCard_wellFormed (.calm smallIo)
      (.calm smallIo) askedFor downloaded ⟨0, 0, .serial, 1, 2150, 60000⟩ (by decide +kernel)
      (by decide +kernel) (by decide +kernel)
  exact ⟨entry, file, wire, hentry, hfile, hsent, hall (by decide +kernel) (by decide +kernel)
    (by decide +kernel)⟩

/-- A link that takes nothing until the wait for the reply is over. -/
def lateTx (env : Env) : Env := { env with
  tx := ⟨0, [⟨0, 0, true, 0⟩], 5000, [⟨4096, 5000, true, 4096⟩]⟩ }

set_option maxRecDepth 100000 in
/-- **A body before its header.**  The reply has not gone out when the wait for it is over, and
the file is written: the host takes its first byte, 0x47, for the length of a reply. -/
theorem body_before_header :
    let c := run Controller.step (setup (.cold smallCard) (.calm smallIo))
      (receive .serial [3, 0x84, 1, 0] (.calm smallIo) ++ [(.serviceDownload, lateTx (.calm smallIo))])
    (c.source .serial).sent = smallHeader ++ smallFrame ++ smallFrame ∧
      (c.source .serial).resp = sendResponse ⟨getPatternFileCmd, 0, toLe 8 2150⟩ := by
  decide +kernel

end

end Command
end G6Arena
