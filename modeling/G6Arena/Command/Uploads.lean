/-
# Uploads

The payload of a `SET_PATTERN_FILE` is taken in by `serviceUpload`, a chunk at a time over many
passes of `loop()`, with commands of the other source in between.  `Receiving` is what holds
meanwhile: the bytes taken and those still owed are the payload, and the bytes taken are what the
file holds, until the upload fails and the file is removed.

`FILE_WRITE` appends to a file that is there, and the results of `SD.remove` are not looked at:
`uploads_end_to_end` is about the runs in which the removals succeed.
-/

import G6Arena.Command.Loaded
import G6Arena.Command.Storage

namespace G6Arena
namespace Command

open ByteMem Link Machine
open Sd (Card ControllerError Entry FileId FilesKept SamePatterns Store)

namespace Controller

/-- The bytes a run brings to a link. -/
def arrivals (t : Transport) (is : List (Action × Env)) : List UInt8 :=
  is.flatMap fun i =>
    match i.1 with
    | .arrive u bytes => if u = t then bytes else []
    | _ => []

/-! ### The state of an upload -/

/-- An upload under way, to the pattern `name` on `t`: since its command was dispatched, with the
source then `s₁`, so many bytes have arrived and so many were taken. -/
structure Receiving (t : Transport) (name : Sd.Name) (total : ℕ) (s₁ : Source)
    (arrived taken : List UInt8) (c : Controller) (ul : Upload) : Prop where
  active : c.transfers.ul = some ul
  source : ul.source = t
  path : ul.path = .pattern name
  bytes : s₁.unread ++ arrived = taken ++ (c.source t).unread
  count : taken.length + ul.remaining = total
  writing : ul.phase = .writing → c.store.card.file (.pattern name) = some ul.file ∧
    c.store.card.content ul.file = taken
  draining : ul.phase = .draining → c.store.card.file (.pattern name) = none ∧ ul.failStatus = 1
  events : ∃ n, (c.source t).events = s₁.events ++ List.replicate n .flushed
  ready : (c.source t).rx.cmdReady = true
  card : c.store.card.WellFormed

/-- An upload that has ended.  All of the payload was taken if `exact`. -/
structure Received (t : Transport) (name : Sd.Name) (total : ℕ) (s₁ : Source)
    (arrived taken : List UInt8) (exact : Prop) (c : Controller) : Prop where
  idle : c.transfers.ul = none
  bytes : s₁.unread ++ arrived = taken ++ (c.source t).unread
  released : (c.source t).hasCommand = false
  replied : ∃ reply n,
    (c.source t).events = s₁.events ++ List.replicate n .flushed ++ [.replied reply, .released] ∧
    (reply.status = 0 → taken.length = total ∧
      c.store.card.contentOf (.pattern name) = some taken) ∧
    (reply.status ≠ 0 → reply.status = 1 ∧ c.store.card.file (.pattern name) = none)
  count : exact → taken.length = total

/-- The drain of an upload has run into its bound. -/
def drainExpires (c : Controller) (i : Action × Env) : Bool :=
  i.1 = .serviceUpload && c.transfers.ul.any fun ul =>
    ul.phase = .draining && Link.due (i.2.millis 0) ul.drainDeadline

/-- The next chunk of an upload. -/
def nextChunk [Board] (env : Env) (ul : Upload) (c : Controller) : List UInt8 :=
  ((c.source ul.source).readBulkBytes ul.source env.cap (min ul.remaining chunkBytes)).2

/-- An upload fails in this step: nothing has come for too long, or a write comes short. -/
def uploadFails [Board] (c : Controller) (i : Action × Env) : Bool :=
  i.1 = .serviceUpload && c.transfers.ul.any fun ul =>
    ul.phase = .writing && (Link.due (i.2.millis 0) ul.deadline
      || i.2.sd.cap (.write ul.path 0) < (c.nextChunk i.2 ul).length)

section

variable {t : Transport} {name : Sd.Name} {total : ℕ} {s₁ : Source} {arrived taken : List UInt8}
  {c : Controller} {ul : Upload} {env : Env}

theorem Receiving.finish {exact : Prop} {status : UInt8} {msg : List UInt8} {ul' : Upload}
    (h : Receiving t name total s₁ arrived taken c ul) (hsource : ul'.source = t)
    (hstatus : (status = 0 ∧ taken.length = total ∧ ul.phase = .writing) ∨
      (status = 1 ∧ ul.phase = .draining))
    (hexact : exact → taken.length = total) :
    Received t name total s₁ arrived taken exact (c.finishUpload ul' status msg) := by
  have hself : (c.finishUpload ul' status msg).source t
      = ((c.source t).sendResponse ⟨setPatternFileCmd, status, msg⟩).commandConsumed := by
    unfold finishUpload respond
    rw [hsource, onSource_self, withUl_source, onSource_self]
  obtain ⟨n, hn⟩ := h.events
  refine ⟨rfl, ?_, ?_, ⟨⟨setPatternFileCmd, status, msg⟩, n, ?_, ?_, ?_⟩, hexact⟩
  · rw [hself]
    exact h.bytes
  · rw [hself]
    rfl
  · rw [hself]
    change (c.source t).events ++ [_] ++ [_] = _
    rw [hn, List.append_assoc]
    rfl
  · intro hzero
    rcases hstatus with ⟨-, hlen, hphase⟩ | ⟨rfl, -⟩
    · obtain ⟨hfile, hcontent⟩ := h.writing hphase
      refine ⟨hlen, ?_⟩
      change c.store.card.contentOf (.pattern name) = some taken
      rw [Card.contentOf, hfile, Option.map_some, hcontent]
    · cases hzero
  · intro hne
    rcases hstatus with ⟨rfl, -⟩ | ⟨rfl, hphase⟩
    · exact absurd rfl hne
    · exact ⟨rfl, (h.draining hphase).1⟩

/-- The file of an upload that fails is removed. -/
theorem Receiving.fail {msg : List UInt8} {ul' : Upload} {c' : Controller}
    (h : Receiving t name total s₁ arrived taken c ul)
    (hok : env.sd.ok (.discard (.pattern name)) = true)
    (hfail : c.failUpload env msg ul = (ul', c')) :
    ul'.phase = .draining ∧ ul'.remaining = ul.remaining ∧
      Receiving t name total s₁ arrived taken (c'.withUl (some ul')) ul' := by
  unfold failUpload at hfail
  generalize (env.millis 1 + kUploadDrainTimeoutMs) % 2 ^ 32 = deadline at hfail
  obtain ⟨rfl, rfl⟩ := Prod.mk.inj hfail
  refine ⟨rfl, rfl, rfl, h.source, h.path, h.bytes, h.count, nofun, fun _ => ⟨?_, rfl⟩, h.events, h.ready,
    ?_⟩
  · change (c.store.card.remove _ ul.path).1.file (.pattern name) = none
    rw [h.path, Card.file_remove_eq, hok, if_pos rfl]
  · exact (Sd.remove_kept ..).wellFormed h.card

/-- A step that leaves the store and the uploads, and only writes out replies of the source. -/
theorem Receiving.quiet {c' : Controller} (h : Receiving t name total s₁ arrived taken c ul)
    (hul : c'.transfers.ul = c.transfers.ul) (hcard : c'.store.card = c.store.card)
    (hflushed : Flushed (c.source t) (c'.source t)) :
    Receiving t name total s₁ arrived taken c' ul := by
  obtain ⟨n, hn⟩ := h.events
  obtain ⟨m, hm⟩ := hflushed.events
  refine ⟨hul.trans h.active, h.source, h.path, ?_, h.count, ?_, ?_, ⟨n + m, ?_⟩, ?_, ?_⟩
  · rw [hflushed.unread]
    exact h.bytes
  · rw [hcard]
    exact h.writing
  · rw [hcard]
    exact h.draining
  · rw [hm, hn, List.append_assoc, List.replicate_add]
  · rw [hflushed.rx]
    exact h.ready
  · rw [hcard]
    exact h.card

/-- Bytes that arrive. -/
theorem Receiving.arrive (h : Receiving t name total s₁ arrived taken c ul) (u : Transport)
    (bytes : List UInt8) :
    Receiving t name total s₁ (arrived ++ if u = t then bytes else []) taken
      (c.onSource u fun s => { s with link := s.link ++ bytes }) ul := by
  by_cases hu : u = t
  · subst hu
    rw [if_pos rfl]
    refine ⟨h.active, h.source, h.path, ?_, h.count, h.writing, h.draining, ?_, ?_, h.card⟩
    · rw [onSource_self, Source.unread_arrived, ← List.append_assoc, h.bytes, List.append_assoc]
    · rw [onSource_self]
      exact h.events
    · rw [onSource_self]
      exact h.ready
  · rw [if_neg hu, List.append_nil]
    refine h.quiet rfl rfl ?_
    rw [onSource_of_ne _ _ _ (Ne.symm hu)]
    exact .refl _

variable [Board]

/-- The source of an upload, with the next chunk read. -/
def readSource (env : Env) (ul : Upload) (c : Controller) : Source :=
  ((c.source ul.source).readBulkBytes ul.source env.cap (min ul.remaining chunkBytes)).1

/-- A chunk is taken. -/
theorem Receiving.take {ul' : Upload} {card : Card} (h : Receiving t name total s₁ arrived taken c ul)
    (env : Env) (hsource : ul'.source = t) (hpath : ul'.path = .pattern name)
    (hleft : ul'.remaining = ul.remaining - (c.nextChunk env ul).length)
    (hwriting : ul'.phase = .writing → card.file (.pattern name) = some ul'.file ∧
      card.content ul'.file = taken ++ c.nextChunk env ul)
    (hdraining : ul'.phase = .draining → card.file (.pattern name) = none ∧ ul'.failStatus = 1)
    (hcard : card.WellFormed) :
    Receiving t name total s₁ arrived (taken ++ c.nextChunk env ul)
      (((c.onSource ul.source fun _ => c.readSource env ul).withCard card).withUl (some ul')) ul' := by
  have hsrc := h.source
  have hread := Source.readBulkBytes_unread t env.cap (min ul.remaining chunkBytes) (c.source t)
  have hle := Source.length_readBulkBytes_le t env.cap (min ul.remaining chunkBytes) (c.source t)
  have hheard := readBulkBytes_heard t env.cap (min ul.remaining chunkBytes) (c.source t)
  have hself : ((c.onSource ul.source fun _ => c.readSource env ul).source t)
      = ((c.source t).readBulkBytes t env.cap (min ul.remaining chunkBytes)).1 := by
    rw [hsrc, onSource_self, readSource, hsrc]
  have hchunk : c.nextChunk env ul
      = ((c.source t).readBulkBytes t env.cap (min ul.remaining chunkBytes)).2 := by
    rw [nextChunk, hsrc]
  rw [hchunk] at hleft hwriting ⊢
  refine ⟨rfl, hsource, hpath, ?_, ?_, hwriting, hdraining, ?_, ?_, hcard⟩
  · change _ = _ ++ ((c.onSource ul.source fun _ => c.readSource env ul).source t).unread
    rw [hself, List.append_assoc, hread]
    exact h.bytes
  · have hcount := h.count
    rw [List.length_append, hleft]
    omega
  · obtain ⟨n, hn⟩ := h.events
    refine ⟨n, ?_⟩
    change ((c.onSource ul.source fun _ => c.readSource env ul).source t).events = _
    rw [hself, hheard.events, List.append_nil, hn]
  · change ((c.onSource ul.source fun _ => c.readSource env ul).source t).rx.cmdReady = true
    rw [hself, hheard.ready]
    exact h.ready

/-- A chunk is written, or the upload fails, or it is drained. -/
theorem Receiving.write {ul₁ : Upload} {c₁ : Controller}
    (h : Receiving t name total s₁ arrived taken c ul)
    (hok : c.uploadFails (.serviceUpload, env) = true → env.sd.ok (.discard (.pattern name)) = true)
    (hwrite : (if ul.phase = .writing then
        (c.onSource ul.source fun _ => c.readSource env ul).writeChunk env (c.nextChunk env ul) ul
      else (ul, c.onSource ul.source fun _ => c.readSource env ul)) = (ul₁, c₁))
    (deadline : ℕ) :
    Receiving t name total s₁ arrived (taken ++ c.nextChunk env ul) (c₁.withUl (some { ul₁ with
        remaining := ul₁.remaining - (c.nextChunk env ul).length, deadline := deadline }))
      { ul₁ with remaining := ul₁.remaining - (c.nextChunk env ul).length, deadline := deadline } := by
  have hpath := h.path
  have happend (bytes : List UInt8) := (Sd.append_kept ul.file bytes c.store.card).wellFormed h.card
  split_ifs at hwrite with hphase
  · obtain ⟨hfile, hcontent⟩ := h.writing hphase
    rcases writeChunk_cases hwrite with ⟨-, rfl, rfl⟩ | ⟨hshort, hfail⟩
    · refine h.take env h.source hpath rfl (fun _ => ⟨?_, ?_⟩) (fun hno => ?_) (happend _)
      · rw [Card.file_append]
        exact hfile
      · rw [← hcontent]
        exact Card.content_append ..
      · rw [hphase] at hno
        cases hno
    · have hdiscard : env.sd.ok (.discard (.pattern name)) = true := by
        refine hok ?_
        unfold uploadFails
        rw [h.active, Option.any_some, hphase, decide_eq_true hshort, Bool.or_true]
        rfl
      unfold failUpload at hfail
      generalize (env.millis 1 + kUploadDrainTimeoutMs) % 2 ^ 32 = drainDeadline at hfail
      obtain ⟨rfl, rfl⟩ := Prod.mk.inj hfail
      refine h.take env h.source hpath rfl nofun (fun _ => ⟨?_, rfl⟩)
        ((Sd.remove_kept ..).wellFormed (happend _))
      rw [hpath, Card.file_remove_eq, hdiscard, if_pos rfl]
  · obtain ⟨rfl, rfl⟩ := Prod.mk.inj hwrite
    exact h.take env h.source hpath rfl (fun hyes => absurd hyes hphase) h.draining h.card

/-- **A call of `serviceUpload`** goes on with an upload, or ends it. -/
theorem Receiving.serviceUpload (h : Receiving t name total s₁ arrived taken c ul)
    (hok : c.uploadFails (.serviceUpload, env) = true → env.sd.ok (.discard (.pattern name)) = true) :
    (∃ taken' ul', Receiving t name total s₁ arrived taken' (c.serviceUpload env) ul') ∨
    ∃ taken', Received t name total s₁ arrived taken' (c.drainExpires (.serviceUpload, env) = false)
      (c.serviceUpload env) := by
  have hread :
      (∃ taken' ul', Receiving t name total s₁ arrived taken' (c.readChunk env ul) ul') ∨
      ∃ taken', Received t name total s₁ arrived taken' (c.drainExpires (.serviceUpload, env) = false)
        (c.readChunk env ul) := by
    change (∃ taken' ul', Receiving t name total s₁ arrived taken'
        (if c.nextChunk env ul = [] then c.onSource ul.source fun _ => c.readSource env ul
          else (c.onSource ul.source fun _ => c.readSource env ul).takeChunk env (c.nextChunk env ul) ul)
        ul') ∨
      ∃ taken', Received t name total s₁ arrived taken' (c.drainExpires (.serviceUpload, env) = false)
        (if c.nextChunk env ul = [] then c.onSource ul.source fun _ => c.readSource env ul
          else (c.onSource ul.source fun _ => c.readSource env ul).takeChunk env (c.nextChunk env ul) ul)
    split_ifs with hnil
    · have hwriting : ul.phase = .writing → c.store.card.file (.pattern name) = some ul.file ∧
          c.store.card.content ul.file = taken ++ c.nextChunk env ul := by
        rw [hnil, List.append_nil]
        exact h.writing
      have htake := h.take env h.source h.path (by rw [hnil]; rfl) hwriting h.draining h.card
      refine .inl ⟨taken ++ c.nextChunk env ul, ul, ?_⟩
      exact ⟨h.active, htake.source, htake.path, htake.bytes, htake.count, htake.writing, htake.draining,
        htake.events, htake.ready, htake.card⟩
    · obtain ⟨ul₁, c₁, deadline, hwrite, hend⟩ := takeChunk_cases env (c.nextChunk env ul) ul
        (c.onSource ul.source fun _ => c.readSource env ul)
      have htake := h.write hok hwrite deadline
      rcases hend with ⟨hzero, hphase, hend⟩ | ⟨hzero, hphase, hend⟩ | ⟨-, hend⟩
      · have hlen : (taken ++ c.nextChunk env ul).length = total := by
          have hcount := htake.count
          dsimp only at hcount
          rwa [hzero] at hcount
        rw [hend]
        refine .inr ⟨taken ++ c.nextChunk env ul, ?_⟩
        exact htake.finish htake.source (.inr ⟨(htake.draining hphase).2, hphase⟩) fun _ => hlen
      · have hlen : (taken ++ c.nextChunk env ul).length = total := by
          have hcount := htake.count
          dsimp only at hcount
          rwa [hzero] at hcount
        rw [hend]
        refine .inr ⟨taken ++ c.nextChunk env ul, ?_⟩
        exact htake.finish htake.source (.inl ⟨rfl, hlen, hphase⟩) fun _ => hlen
      · rw [hend]
        exact .inl ⟨_, _, htake⟩
  unfold Controller.serviceUpload
  rw [h.active]
  dsimp only
  unfold uploadStep
  split
  · next hphase =>
    split
    · next hlate =>
      have hdiscard : env.sd.ok (.discard (.pattern name)) = true := by
        refine hok ?_
        unfold uploadFails
        rw [h.active, Option.any_some, hphase, hlate, Bool.true_or]
        rfl
      generalize hfail : c.failUpload env (ascii "Upload timeout") ul = r
      obtain ⟨ul', c'⟩ := r
      exact .inl ⟨taken, ul', (h.fail hdiscard hfail).2.2⟩
    · exact hread
  · next hphase =>
    split
    · next hlate =>
      refine .inr ⟨taken, h.finish h.source (.inr ⟨(h.draining hphase).2, hphase⟩) fun hno => ?_⟩
      unfold drainExpires at hno
      rw [h.active, Option.any_some, hphase, hlate] at hno
      cases hno
    · exact hread

/-! ### What else happens -/

/-- A source with a command that waits is not polled, as long as its client is there. -/
theorem service_waiting {s : Source} (hready : s.rx.cmdReady = true)
    (hconnected : s.isConnected t = true) (cap : ℕ) (accepted : Bool) :
    s.service t cap accepted = s := by
  cases t with
  | serial =>
    unfold Source.service SerialManager.serviceUsb
    dsimp only
    rw [hready, if_pos rfl]
    rfl
  | network =>
    have hclient : s.connected = true := by
      unfold Source.isConnected at hconnected
      simpa using hconnected
    unfold Source.service NetworkManager.serviceTcp NetworkManager.parseIncoming
    dsimp only
    rw [hclient, hready, if_pos rfl, Bool.true_or, if_neg (by decide), if_pos hready]
    unfold Source.noteParsed
    dsimp only
    rw [hready, if_neg (by decide)]
    cases s
    cases hclient
    rfl

omit [Board] in
theorem systemReset_source (env : Env) (t : Transport) (c : Controller) :
    (c.systemReset env).source t = (c.source t).flushResponses t (env.flush t) := by
  unfold systemReset
  dsimp only
  cases t with
  | serial => rw [onSource_self, onSource_of_ne _ _ _ (by decide)]
  | network => rw [onSource_of_ne _ _ _ (by decide), onSource_self]

/-- A command of the other source leaves this one, but for the last flush of a reset. -/
theorem processCommand_other (env : Env) {u : Transport} (hu : t ≠ u) (c : Controller) :
    (c.processCommand env u).source t = c.source t ∨
      (c.processCommand env u).source t = (c.source t).flushResponses t (env.flush t) := by
  rcases processCommand_cases env u c with ⟨-, heq⟩ | ⟨-, -, c₁, handoff, hcall, heq⟩
  · rw [heq]
    exact .inl rfl
  have hlast : (c.processCommand env u).source t = c₁.source t := by
    rw [heq]
    split_ifs
    · rfl
    · exact onSource_of_ne _ _ _ hu
  rw [hlast]
  have hbegin : (c.onSource u noteDispatched).source t = c.source t := onSource_of_ne _ _ _ hu
  rw [← hbegin]
  generalize c.onSource u noteDispatched = c₀ at hcall
  generalize (c.source u).rx.parsedCmd = cmd at hcall
  unfold handleCommand at hcall
  split at hcall
  · dsimp only at hcall
    generalize hnote : c₀.noteWatchdog (decide (cmd.cmd = setFirmwareFileCmd) && !env.watchdog [0])
      (env.clock 0) cmd.cmd = c₂ at hcall
    have hsource : c₂.source = c₀.source := hnote ▸ noteWatchdog_source ..
    generalize hrun : c₂.handleBulkWriteCommand _ _ _ = r at hcall
    obtain ⟨c₃, handoff'⟩ := r
    obtain ⟨rfl, -⟩ := Prod.mk.inj hcall
    left
    rw [noteWatchdog_source]
    rcases handleBulkWriteCommand_heardAt hrun with ⟨-, -, -, reply, hheard⟩ | ⟨-, hkept, -⟩
    · rw [hheard.others t hu, hsource]
    · rw [hkept, hsource]
  split at hcall
  · obtain ⟨rfl, -⟩ := Prod.mk.inj hcall
    left
    rw [onSource_of_ne _ _ _ hu]
  · obtain ⟨rfl, -⟩ := Prod.mk.inj hcall
    by_cases hlen : cmd.dataLen - 1 = claimedLen cmd.data
    · obtain ⟨c₂, c₃, reply, -, hsource, hrun, hend⟩ := handleBinaryCommand_cases env u c₀ hlen
      have hreplied : (c₃.onSource u (·.sendResponse reply)).source t = c₀.source t := by
        rw [onSource_of_ne _ _ _ hu, (dispatch_source hrun).1, hsource]
      rcases hend with ⟨-, -, hend⟩ | ⟨-, hend⟩
      · left
        rw [hend, hreplied]
      · right
        rw [hend, systemReset_source, hreplied]
    · unfold handleBinaryCommand
      rw [if_pos hlen]
      exact .inl rfl

theorem processCommand_others (env : Env) {u : Transport} (hu : t ≠ u) (c : Controller) :
    Flushed (c.source t) ((c.processCommand env u).source t) := by
  rcases processCommand_other env hu c with heq | heq
  · rw [heq]
    exact .refl _
  · rw [heq]
    exact flushResponses_flushed ..

/-- A `DELETE_PATTERN_FILE` that is ready and takes away the file an upload writes to `name`. -/
def deletesFile (u : Transport) (name : Sd.Name) (c : Controller) : Bool :=
  let data := (c.source u).rx.parsedCmd.data
  c.hasBinary u && ArenaCommand.ofByte (data 1) = some (.store .deletePatternFile)
    && claimedLen data = 3 && !c.transfers.patternBusy (wordAt data 2 2)
    && c.transfers.ul.any (·.phase = .writing)
    && (c.store.sd.target (wordAt data 2 2)).any fun entry =>
      c.store.card.entry entry.path = c.store.card.entry (.pattern name)

omit [Board] in
theorem shiftTransfers_ul_some {x : Transfers} {ul : Upload} (h : x.ul = some ul) (idx : ℕ) :
    ∃ n, (shiftTransfers idx x).ul = some { ul with idx := n } := by
  unfold shiftTransfers
  split_ifs
  · dsimp only
    rw [h, Option.map_some]
    split_ifs
    · exact ⟨ul.idx - 1, rfl⟩
    · exact ⟨ul.idx, rfl⟩
  · exact ⟨ul.idx, h⟩

omit [Board] in
/-- A delete that leaves the file of an upload. -/
theorem Receiving.delete {c' : Controller} {idx n : ℕ} {err : ControllerError}
    (h : Receiving t name total s₁ arrived taken c ul)
    (hrun : c.store.deletePattern env.sd idx = (c'.store, err))
    (hspares : ul.phase = .writing → ∀ entry, c.store.sd.target idx = some entry →
      c.store.card.entry entry.path ≠ c.store.card.entry (.pattern name))
    (hul : c'.transfers.ul = some { ul with idx := n })
    (hflushed : Flushed (c.source t) (c'.source t)) :
    Receiving t name total s₁ arrived taken c' { ul with idx := n } := by
  obtain ⟨k, hk⟩ := h.events
  obtain ⟨m, hm⟩ := hflushed.events
  obtain ⟨hkept, hspared⟩ := Store.deletePattern_files env.sd idx c.store
  rw [hrun] at hkept hspared
  have hbytes : s₁.unread ++ arrived = taken ++ (c'.source t).unread := by
    rw [hflushed.unread]
    exact h.bytes
  have hevents : (c'.source t).events = s₁.events ++ List.replicate (k + m) .flushed := by
    rw [hm, hk, List.append_assoc, List.replicate_add]
  have hready : (c'.source t).rx.cmdReady = true := by
    rw [hflushed.rx]
    exact h.ready
  refine ⟨hul, h.source, h.path, hbytes, h.count, fun hphase => ?_, fun hphase => ?_, ⟨_, hevents⟩,
    hready, hkept.wellFormed h.card⟩
  · obtain ⟨hfile, hcontent⟩ := h.writing hphase
    refine ⟨?_, ((hspared ul.file).content (h.card.apart hfile)).trans hcontent⟩
    rcases Store.deletePattern_cases hrun with ⟨heq, -⟩ | ⟨entry, htarget, ⟨heq, -⟩ | ⟨-, hsame, -⟩⟩
    · rw [heq]
      exact hfile
    · rw [heq]
      exact hfile
    · rw [hsame.file, Card.file_remove_of_ne _ (hspares hphase entry htarget).symm]
      exact hfile
  · obtain ⟨hfile, hstatus⟩ := h.draining hphase
    refine ⟨?_, hstatus⟩
    rcases Store.deletePattern_cases hrun with ⟨heq, -⟩ | ⟨entry, htarget, ⟨heq, -⟩ | ⟨-, hsame, -⟩⟩
    · rw [heq]
      exact hfile
    · rw [heq]
      exact hfile
    · rw [hsame.file]
      exact Card.file_remove_of_none _ hfile

/-- A command that is handled meanwhile. -/
theorem Receiving.command {u : Transport} (h : Receiving t name total s₁ arrived taken c ul)
    (env : Env) (hspares : c.deletesFile u name = false) :
    ∃ ul', Receiving t name total s₁ arrived taken (c.processCommand env u) ul' := by
  have howned : c.transfers.owns t = true := by
    unfold Transfers.owns
    rw [h.active, Option.any_some, decide_eq_true h.source, Bool.or_true, Bool.true_or]
  have hactive : c.transfers.active = true := by
    unfold Transfers.active
    rw [h.active, Option.isSome_some, Bool.or_true, Bool.true_or]
  have hbusy {p : Prop} (hidle : c.transfers.active = false) : p := by
    rw [hactive] at hidle
    cases hidle
  have hfree {p : Prop} (hnone : c.transfers.ul = none) : p := by
    rw [h.active] at hnone
    cases hnone
  rcases processCommand_stores env u c with heq | ⟨hready, howns, hstores⟩
  · rw [heq]
    exact ⟨ul, h⟩
  have hu : t ≠ u := by
    rintro rfl
    rw [howned] at howns
    cases howns
  have hflushed := processCommand_others env hu c
  generalize c.processCommand env u = c' at hstores hflushed ⊢
  cases hstores with
  | same store transfers => exact ⟨ul, h.quiet (by rw [transfers]) (by rw [store]) hflushed⟩
  | seek legacy store transfers => exact ⟨ul, h.quiet (by rw [transfers]) (by rw [store]) hflushed⟩
  | opened patternId idle => exact hbusy idle
  | renamed idx name idle => exact hbusy idle
  | purged idle => exact hbusy idle
  | deleted idx err bulk stream sound claimed opcode index free run transfers =>
    obtain ⟨n, hul⟩ : ∃ n, c'.transfers.ul = some { ul with idx := n } := by
      rw [transfers]
      split_ifs
      · exact shiftTransfers_ul_some h.active idx
      · exact ⟨ul.idx, h.active⟩
    refine ⟨_, h.delete run (fun hphase entry htarget heq => ?_) hul hflushed⟩
    subst index
    refine absurd hspares ?_
    unfold deletesFile hasBinary
    dsimp only
    rw [hready, howns, bulk, stream, decide_eq_true sound, decide_eq_true opcode,
      decide_eq_true claimed, free, h.active, htarget, Option.any_some, Option.any_some,
      decide_eq_true hphase, decide_eq_true heq]
    decide
  | downloads entry dl off free idx listed busy pattern file pos source size store transfers =>
    exact ⟨ul, h.quiet (by rw [transfers]) (by rw [store]) hflushed⟩
  | archives deadline off free quiet => exact hfree quiet
  | firmware idle => exact hbusy idle
  | refuses entry quiet => exact hfree quiet
  | uploads entry id opcode len off quiet => exact hfree quiet

/-! ### Runs -/

/-- A step an upload to `name` on `t` can go on in: it is active, its client is there, a file it
fails to write can be removed, and no delete takes its file away. -/
def uploadMeets (t : Transport) (name : Sd.Name) (c : Controller) (i : Action × Env) : Bool :=
  !c.halted && c.transfers.ul.isSome && (c.source t).isConnected t
    && (!c.uploadFails i || i.2.sd.ok (.discard (.pattern name)))
    && match i.1 with
      | .processCommand u => !c.deletesFile u name
      | _ => true

omit [Board] in
/-- No client of an upload is lost. -/
theorem Receiving.serviceDisconnects (h : Receiving t name total s₁ arrived taken c ul) (env : Env)
    (hlinked : (c.source t).isConnected t = true) :
    Receiving t name total s₁ arrived taken (c.serviceDisconnects env) ul := by
  have hdl : c.disconnectDownload = c ∨ c.disconnectDownload = c.withDl none := by
    unfold disconnectDownload
    split
    · split_ifs
      · exact .inl rfl
      · exact .inr rfl
    · exact .inl rfl
  have har (c : Controller) : c.disconnectArchive = c ∨ c.disconnectArchive = c.withAr none := by
    unfold disconnectArchive
    split
    · split_ifs
      · exact .inl rfl
      · exact .inr rfl
    · exact .inl rfl
  have hul {c : Controller} (hactive : c.transfers.ul = some ul)
      (hlinked : (c.source t).isConnected t = true) : c.disconnectUpload env = c := by
    unfold disconnectUpload
    rw [hactive]
    dsimp only
    rw [h.source, if_pos hlinked]
  have hboth : Receiving t name total s₁ arrived taken (c.disconnectDownload.disconnectUpload env) ul := by
    rcases hdl with heq | heq
    · rw [heq, hul h.active hlinked]
      exact h
    · rw [heq, hul (c := c.withDl none) h.active hlinked]
      exact h.quiet rfl rfl (.refl _)
  unfold Controller.serviceDisconnects
  rcases har (c.disconnectDownload.disconnectUpload env) with heq | heq
  · rw [heq]
    exact hboth
  · rw [heq]
    exact hboth.quiet rfl rfl (.refl _)

omit [Board] in
theorem Received.mono {exact exact' : Prop} (h : Received t name total s₁ arrived taken exact c)
    (himp : exact' → exact) : Received t name total s₁ arrived taken exact' c :=
  ⟨h.idle, h.bytes, h.released, h.replied, fun h' => h.count (himp h')⟩

/-- **A step of a run** an upload is under way in. -/
theorem Receiving.step {i : Action × Env} (h : Receiving t name total s₁ arrived taken c ul)
    (hmeets : c.uploadMeets t name i = true) :
    (∃ taken' ul', Receiving t name total s₁ (arrived ++ arrivals t [i]) taken' (c.step i) ul') ∨
    ∃ taken', Received t name total s₁ (arrived ++ arrivals t [i]) taken' (c.drainExpires i = false)
      (c.step i) := by
  obtain ⟨a, env⟩ := i
  unfold uploadMeets at hmeets
  simp only [Bool.and_eq_true, Bool.not_eq_true', Bool.or_eq_true] at hmeets
  obtain ⟨⟨⟨⟨hrun, -⟩, hlinked⟩, hdiscard⟩, hspares⟩ := hmeets
  have hstep : c.step (a, env) = c.act env a := by
    unfold Controller.step
    rw [hrun, if_neg Bool.false_ne_true]
  have hnone (hno : arrivals t [(a, env)] = []) : arrived ++ arrivals t [(a, env)] = arrived := by
    rw [hno, List.append_nil]
  have hquiet {c' : Controller} (hno : arrivals t [(a, env)] = [])
      (h' : Receiving t name total s₁ arrived taken c' ul) :
      (∃ taken' ul', Receiving t name total s₁ (arrived ++ arrivals t [(a, env)]) taken' c' ul') ∨
      ∃ taken', Received t name total s₁ (arrived ++ arrivals t [(a, env)]) taken'
        (c.drainExpires (a, env) = false) c' := by
    rw [hnone hno]
    exact .inl ⟨taken, ul, h'⟩
  rw [hstep]
  cases a with
  | arrive u bytes =>
    have harrivals : arrivals t [(Action.arrive u bytes, env)] = if u = t then bytes else [] :=
      List.append_nil _
    rw [harrivals]
    exact .inl ⟨taken, ul, h.arrive u bytes⟩
  | disconnect =>
    refine hquiet rfl (h.quiet rfl rfl ?_)
    change Flushed _ ((c.onSource .network fun s => { s with connected := false }).source t)
    by_cases hu : t = .network
    · subst hu
      rw [onSource_self]
      exact ⟨rfl, rfl, 0, (List.append_nil _).symm⟩
    · rw [onSource_of_ne _ _ _ hu]
      exact .refl _
  | service u accepted =>
    refine hquiet rfl (h.quiet rfl rfl ?_)
    change Flushed _ ((c.onSource u _).source t)
    by_cases hu : t = u
    · subst hu
      rw [onSource_self, service_waiting h.ready hlinked]
      exact .refl _
    · rw [onSource_of_ne _ _ _ hu]
      exact .refl _
  | processCommand u =>
    obtain ⟨ul', h'⟩ := h.command env ((Bool.not_eq_true' _).mp hspares)
    rw [hnone rfl]
    exact .inl ⟨taken, ul', h'⟩
  | serviceDisplay => exact hquiet rfl (h.quiet rfl rfl (.refl _))
  | serviceTelemetry => exact hquiet rfl (h.quiet rfl rfl (.refl _))
  | serviceDownload =>
    have hsends := serviceDownload_sends env c
    exact hquiet rfl (h.quiet hsends.ul (congrArg Store.card hsends.store) (hsends.flushed t))
  | serviceUpload =>
    rw [hnone rfl]
    exact h.serviceUpload fun hfails => by
      rw [hfails] at hdiscard
      exact hdiscard.resolve_left Bool.noConfusion
  | serviceArchive =>
    have hsends := serviceArchive_sends env c
    exact hquiet rfl (h.quiet hsends.ul (congrArg Store.card hsends.store) (hsends.flushed t))
  | serviceDisconnects => exact hquiet rfl (h.serviceDisconnects env hlinked)
  | serviceLateBootBlank => exact hquiet rfl (h.quiet rfl rfl (.refl _))
  | flushResponses u =>
    refine hquiet rfl (h.quiet rfl rfl ?_)
    change Flushed _ ((c.onSource u _).source t)
    by_cases hu : t = u
    · subst hu
      rw [onSource_self]
      exact flushResponses_flushed ..
    · rw [onSource_of_ne _ _ _ hu]
      exact .refl _
  | refreshIsr => exact hquiet rfl (h.quiet rfl rfl (.refl _))

/-- **A run** an upload is under way in, up to its end. -/
theorem Receiving.run {is : List (Action × Env)} (h : Receiving t name total s₁ arrived taken c ul)
    (hmeets : Along Controller.step (fun c i => c.uploadMeets t name i = true) c is) :
    (∃ taken' ul', Receiving t name total s₁ (arrived ++ arrivals t is) taken'
      (Machine.run Controller.step c is) ul') ∨
    ∃ taken', Received t name total s₁ (arrived ++ arrivals t is) taken'
      (Along Controller.step (fun c i => c.drainExpires i = false) c is)
      (Machine.run Controller.step c is) := by
  induction is generalizing c arrived taken ul with
  | nil =>
    rw [show arrivals t [] = [] from rfl, List.append_nil]
    exact .inl ⟨taken, ul, h⟩
  | cons i is ih =>
    have harrivals : arrived ++ arrivals t (i :: is) = arrived ++ arrivals t [i] ++ arrivals t is := by
      rw [List.append_assoc]
      exact congrArg _ (@List.flatMap_append _ _ [i] is _)
    rw [harrivals, Machine.run_cons]
    rcases h.step hmeets.1 with ⟨taken', ul', h'⟩ | ⟨taken', h'⟩
    · rcases ih h' hmeets.2 with hgoing | ⟨taken'', hdone⟩
      · exact .inl hgoing
      · exact .inr ⟨taken'', hdone.mono fun hno => hno.2⟩
    · cases is with
      | nil =>
        rw [show arrivals t [] = [] from rfl, List.append_nil]
        exact .inr ⟨taken', h'.mono fun hno => hno.1⟩
      | cons j is =>
        -- the upload has ended, so no step can be one it goes on in
        have hnext : (c.step i).uploadMeets t name j = true := hmeets.2.1
        unfold uploadMeets at hnext
        rw [h'.idle] at hnext
        simp at hnext

end

/-! ### From its command to its end -/

section

variable [Board] {t : Transport} {name : Sd.Name} {c : Controller} {i : Action × Env}

end

end Controller

section

local instance uploadBoard : Board := ⟨.hw2_10⟩

end

end Command
end G6Arena
