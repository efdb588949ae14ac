/-
# The CRC-32 of what is stored and of what is sent

Two loops fold `crc32Update` over the chunks they happen to get: that of a firmware upload, and
`serviceArchive`, over as many calls as a member takes.  Both end at the bit-by-bit CRC-32 of
the whole: `firmware_sum` of the bytes that are appended to the image, `archive_sums` of each
member's data.

`archive_sums` is about every run of a stream, also one that is cut short.  What has been sent
then is the start of a file in which every member has the checksum of its data.
-/

import G6Arena.Command.Archive
import G6Arena.Command.Firmware

namespace G6Arena
namespace Command

open ByteMem Link
open Machine
open Controller (archiveOf)
open Sd (Card)

/-! ### What a link takes -/

section

variable (stall : ℕ) (passes : List TxPass) (buf : List UInt8) (s : Source)

theorem writeSerial_count : (Source.writeSerial stall passes buf s).2 ≤ buf.length := by
  induction passes generalizing stall buf s with
  | nil => exact Nat.zero_le _
  | cons pass rest ih =>
    cases buf with
    | nil => exact le_rfl
    | cons b buf =>
      unfold Source.writeSerial
      dsimp only
      split_ifs
      · exact Nat.zero_le _
      · exact ih _ _ _
      · have hrest := ih ((pass.now + Source.kStallTimeoutMs) % 2 ^ 32)
          ((b :: buf).drop (min pass.room (b :: buf).length))
          { s with sent := s.sent ++ (b :: buf).take (min pass.room (b :: buf).length) }
        rw [List.length_drop] at hrest
        omega

theorem writeNetwork_count : (Source.writeNetwork stall passes buf s).2 ≤ buf.length := by
  induction passes generalizing stall buf s with
  | nil => exact Nat.zero_le _
  | cons pass rest ih =>
    cases buf with
    | nil => exact le_rfl
    | cons b buf =>
      unfold Source.writeNetwork
      dsimp only
      split_ifs
      · exact Nat.zero_le _
      · exact Nat.zero_le _
      · exact ih _ _ _
      · have hrest := ih ((pass.now + Source.kStallTimeoutMs) % 2 ^ 32)
          ((b :: buf).drop (min pass.accepted (min pass.room (b :: buf).length)))
          { s with sent := s.sent
              ++ (b :: buf).take (min pass.accepted (min pass.room (b :: buf).length)) }
        rw [List.length_drop] at hrest
        omega

theorem sendRaw_count (t : Transport) (io : TxIo) : (s.sendRaw t io buf).2 ≤ buf.length := by
  cases t with
  | serial => exact writeSerial_count ..
  | network =>
    unfold Source.sendRaw
    cases io.spin with
    | nil => exact Nat.zero_le _
    | cons pass rest => exact writeNetwork_count ..

end

/-! ### A call that is cut short -/

namespace Controller

variable {env : Env} {c : Controller} {ar : Archive} {bytes : List UInt8}

theorem archiveStep_due (c : Controller) (h : Link.due (env.millis 0) ar.deadline = true) :
    c.archiveStep env ar = c.withAr none := by
  unfold archiveStep
  rw [h, if_pos rfl]

theorem archiveSend_short (next : Archive)
    (h : ((c.source ar.source).sendRaw ar.source env.tx bytes).2 < bytes.length) :
    c.archiveSend env ar bytes next = (c.onSource ar.source fun _ =>
      ((c.source ar.source).sendRaw ar.source env.tx bytes).1).withAr none := by
  unfold archiveSend
  dsimp only
  rw [if_pos h]

/-- Before the deadline a call hands its bytes to the link and goes on, or it is the last one, or
it has nothing to send. -/
theorem archiveStep_cases (c : Controller) (hdue : Link.due (env.millis 0) ar.deadline = false) :
    (∃ next, c.archiveStep env ar = c.archiveSend env ar (ar.chunk env c.store.card) next) ∨
      (∃ c' : Controller, c.archiveStep env ar = c'.withAr none) ∨
      ar.chunk env c.store.card = [] := by
  unfold Archive.chunk
  cases hphase : ar.phase with
  | eocd => exact .inr (.inl ⟨_, archiveStep_eocd c hdue hphase⟩)
  | localHeader =>
    cases hentry : ar.entries[ar.entryIdx]? with
    | none => exact .inr (.inr rfl)
    | some e => exact .inl ⟨_, archiveStep_localHeader c hdue hphase hentry⟩
  | fileData =>
    cases hentry : ar.entries[ar.entryIdx]? with
    | none => exact .inr (.inr rfl)
    | some e =>
      dsimp only
      split_ifs with hleft
      · exact .inr (.inr rfl)
      · exact .inl ⟨_, archiveStep_fileData c hdue hphase hentry hleft⟩
  | dataDescriptor =>
    cases hentry : ar.entries[ar.entryIdx]? with
    | none => exact .inr (.inr rfl)
    | some e => exact .inl ⟨_, archiveStep_dataDescriptor c hdue hphase hentry⟩
  | centralDir =>
    cases hentry : ar.entries[ar.entryIdx]? with
    | none => exact .inr (.inr rfl)
    | some e => exact .inl ⟨_, archiveStep_centralDir c hdue hphase hentry⟩

end Controller

/-! ### A stream that may be cut short -/

namespace Stream

/-- What of a call's bytes goes out: nothing once the deadline has come, and else as many as the
link takes. -/
def sentBytes (s : Stream) (i : Env × Controller) : List UInt8 :=
  match s.ar with
  | none => []
  | some ar =>
    if Link.due (i.1.millis 0) ar.deadline then []
    else (s.chunk i).take ((i.2.source ar.source).sendRaw ar.source i.1.tx (s.chunk i)).2

/-- What goes out along a run. -/
def sentAlong : Stream → List (Env × Controller) → List UInt8
  | _, [] => []
  | s, i :: is => s.sentBytes i ++ sentAlong (s.step i) is

theorem sentAlong_none {s : Stream} (h : s.ar = none) (is : List (Env × Controller)) :
    s.sentAlong is = [] := by
  induction is generalizing s with
  | nil => rfl
  | cons i is ih =>
    have hstep : (s.step i).ar = none := by
      unfold step
      rw [h]
      rfl
    rw [sentAlong, ih hstep]
    unfold sentBytes
    rw [h]
    rfl

theorem sentBytes_prefix (s : Stream) (i : Env × Controller) : s.sentBytes i <+: s.chunk i := by
  unfold sentBytes
  cases s.ar with
  | none => exact List.nil_prefix
  | some ar =>
    dsimp only
    split_ifs
    · exact List.nil_prefix
    · exact List.take_prefix ..

theorem sentBytes_whole {s : Stream} {i : Env × Controller} (h : s.Whole i) :
    s.sentBytes i = s.chunk i := by
  unfold Whole at h
  unfold sentBytes chunk
  cases har : s.ar with
  | none => rfl
  | some ar =>
    rw [har] at h
    obtain ⟨hdue, hsent⟩ := h
    unfold SentWhole at hsent
    dsimp only
    rw [hdue, if_neg Bool.false_ne_true, hsent, List.take_length]

theorem step_ar {s : Stream} {ar : Archive} {i : Env × Controller} {c : Controller}
    (har : s.ar = some ar) (h : (i.2.withAr s.ar).archiveStep i.1 ar = c.withAr none) :
    (s.step i).ar = none := by
  unfold step Controller.serviceArchive
  rw [Controller.withAr_transfers]
  dsimp only
  rw [har] at h ⊢
  dsimp only
  rw [h]
  rfl

/-- A call that is not whole is the last one that sends. -/
theorem step_cut {s : Stream} {i : Env × Controller} (h : ¬ s.Whole i) : (s.step i).ar = none := by
  cases har : s.ar with
  | none =>
    unfold step
    rw [har]
    rfl
  | some ar =>
    unfold Whole at h
    rw [har] at h
    by_cases hdue : Link.due (i.1.millis 0) ar.deadline = true
    · exact step_ar har (Controller.archiveStep_due _ hdue)
    · rw [Bool.not_eq_true] at hdue
      have hcount := sendRaw_count (ar.chunk i.1 i.2.store.card) (i.2.source ar.source) ar.source i.1.tx
      have hshort : ((i.2.source ar.source).sendRaw ar.source i.1.tx
          (ar.chunk i.1 i.2.store.card)).2 < (ar.chunk i.1 i.2.store.card).length :=
        lt_of_le_of_ne hcount fun heq => h ⟨hdue, heq⟩
      rcases Controller.archiveStep_cases (i.2.withAr s.ar) hdue with ⟨next, hstep⟩ | ⟨c, hstep⟩ | hnone
      · exact step_ar har (hstep.trans (Controller.archiveSend_short next hshort))
      · exact step_ar har hstep
      · rw [Controller.withAr_store] at hnone
        rw [hnone] at hshort
        exact absurd hshort (Nat.not_lt_zero _)

end Stream

/-! ### What a stream is going to send -/

namespace Sent

/-- The file whose members are these. -/
def file (cd : ℕ × ℕ) (ds : Sent) : List UInt8 :=
  ds.bodies ++ ds.records ++ eocdRecord ds.length cd.2 cd.1

/-- Every member has the data its entry says. -/
def Exact (ds : Sent) : Prop := ∀ p ∈ ds, p.2.length = p.1.fileSize

/-- Members whose data has not been read. -/
def unread (es : List ZipEntry) : Sent := es.map fun e => (e, List.replicate e.fileSize 0)

theorem unread_fst (es : List ZipEntry) : (unread es).map Prod.fst = es := by
  unfold unread
  rw [List.map_map]
  exact List.map_id _

theorem unread_exact (es : List ZipEntry) : (unread es).Exact := by
  intro p hp
  obtain ⟨e, -, rfl⟩ := List.mem_map.1 hp
  exact List.length_replicate

theorem Exact.middle {ds ds' : Sent} {p : ZipEntry × List UInt8} (h : ds.Exact) (h' : ds'.Exact)
    (hp : p.2.length = p.1.fileSize) : Exact (ds ++ p :: ds') := by
  intro q hq
  rcases List.mem_append.1 hq with hq | hq
  · exact h q hq
  · rcases List.mem_cons.1 hq with rfl | hq
    · exact hp
    · exact h' q hq

/-- The start of a member is the start of a file, behind the members before it. -/
theorem prefix_file (cd : ℕ × ℕ) (ds ds' : Sent) {p : ZipEntry × List UInt8} {bytes : List UInt8}
    (h : bytes <+: p.1.localHeader ++ p.2 ++ (p.1.seal p.2).dataDescriptor) :
    ds.bodies ++ bytes <+: file cd (ds ++ p :: ds') := by
  obtain ⟨rest, hrest⟩ := h
  refine ⟨rest ++ Sent.bodies ds' ++ Sent.records (ds ++ p :: ds')
    ++ eocdRecord (ds ++ p :: ds').length cd.2 cd.1, ?_⟩
  rw [file, bodies_append]
  have hbodies : Sent.bodies (p :: ds') = bytes ++ rest ++ ds'.bodies := by
    rw [hrest]
    rfl
  rw [hbodies]
  simp only [List.append_assoc]

end Sent

/-- **What a call sends is the next piece of the file**, whatever data is still to come. -/
theorem Streaming.chunk_prefix {calls : List (Env × Controller)} {es : List ZipEntry} {cd : ℕ × ℕ}
    {n : ℕ} {ar : Archive} {out : List UInt8} (h : Streaming calls es cd n (some ar) out) (env : Env)
    (card : Card) : ∃ ds : Sent, ds.map Prod.fst = es ∧ ds.Exact ∧
      out ++ ar.chunk env card <+: ds.file cd := by
  have hexact : ∀ {ds : Sent}, (∀ p ∈ ds, Filled calls p.1 p.2) → ds.Exact :=
    fun hfilled p hp => (hfilled p hp).length
  cases h with
  | @localHeader _ ds e rest h hphase hidx =>
    refine ⟨ds ++ (e, List.replicate e.fileSize 0) :: Sent.unread rest, ?_,
      (hexact h.filled).middle (Sent.unread_exact rest) List.length_replicate, ?_⟩
    · rw [List.map_append, List.map_cons, Sent.unread_fst, ← h.split]
    · rw [Archive.chunk, hphase, h.entry hidx]
      refine Sent.prefix_file cd ds _ ?_
      rw [List.append_assoc]
      exact List.prefix_append ..
  | @fileData _ ds e rest cur h hphase hidx hfilling =>
    obtain ⟨chunk, hchunk, hlen⟩ : ∃ chunk, ar.chunk env card = chunk ∧
        chunk.length ≤ ar.fileRemaining := by
      refine ⟨_, rfl, ?_⟩
      rw [Archive.chunk, hphase, h.entry hidx]
      dsimp only
      split_ifs
      · exact Nat.zero_le _
      · exact (length_dataChunk env card ar).1
    have hsize := hfilling.length
    refine ⟨ds ++ (e, cur ++ chunk ++ List.replicate (ar.fileRemaining - chunk.length) 0)
      :: Sent.unread rest, ?_, (hexact h.filled).middle (Sent.unread_exact rest) ?_, ?_⟩
    · rw [List.map_append, List.map_cons, Sent.unread_fst, ← h.split]
    · simp only [List.length_append, List.length_replicate]
      omega
    · rw [hchunk, List.append_assoc]
      refine Sent.prefix_file cd ds _ ?_
      rw [List.append_assoc, List.append_assoc]
      exact (List.prefix_append_right_inj _).2 (List.prefix_append_of_prefix (List.prefix_append ..))
  | @dataDescriptor _ ds e data rest h hphase hidx =>
    refine ⟨ds ++ (e, data) :: Sent.unread rest, ?_, ?_, ?_⟩
    · rw [List.map_append, List.map_cons, Sent.unread_fst, h.split]
      simp
    · have hall := hexact h.filled
      exact Sent.Exact.middle (fun p hp => hall p (List.mem_append_left _ hp))
        (Sent.unread_exact rest) (hall (e, data) (by simp))
    · rw [Archive.chunk, hphase, h.entry_sealed hidx, List.append_assoc]
      exact Sent.prefix_file cd ds _ (List.prefix_refl _)
  | @centralDir _ ds ds' p h hphase hidx =>
    refine ⟨ds ++ p :: ds', ?_, hexact h.filled, ?_⟩
    · rw [h.split, List.append_nil]
    · rw [Archive.chunk, hphase, h.entry_sealed hidx, Sent.file, Sent.records_append]
      refine ⟨Sent.records ds' ++ eocdRecord (ds ++ p :: ds').length cd.2 cd.1, ?_⟩
      have hrecords : Sent.records (p :: ds') = (p.1.seal p.2).centralRecord ++ ds'.records := rfl
      rw [hrecords]
      simp only [List.append_assoc]
  | @eocd _ ds h hphase =>
    refine ⟨ds, ?_, hexact h.filled, ?_⟩
    · rw [h.split, List.append_nil]
    · rw [Archive.chunk, hphase]
      dsimp only
      rw [h.length_entries, h.cdSize, h.cdOffset, List.length_nil, Nat.add_zero]
      exact List.prefix_refl _

theorem Streaming.next_prefix {s : Stream} {es : List ZipEntry} {cd : ℕ × ℕ} {n : ℕ}
    (h : Streaming s.calls es cd n s.ar s.out) (i : Env × Controller) :
    ∃ ds : Sent, ds.map Prod.fst = es ∧ ds.Exact ∧ s.out ++ s.chunk i <+: ds.file cd := by
  generalize har : s.ar = active at h
  cases active with
  | some ar =>
    obtain ⟨ds, hes, hexact, hprefix⟩ := h.chunk_prefix i.1 i.2.store.card
    refine ⟨ds, hes, hexact, ?_⟩
    unfold Stream.chunk
    rwa [har]
  | none =>
    have hnothing : s.chunk i = [] := by
      unfold Stream.chunk
      rw [har]
    rw [hnothing, List.append_nil]
    generalize s.out = out at h
    cases h with
    | @ended ds hsplit hfilled =>
      exact ⟨ds, hsplit.symm, fun p hp => (hfilled p hp).length, List.prefix_refl _⟩

/-- A whole call leaves what it sends in `out`; after any other there is nothing more to come. -/
theorem Streaming.sentAlong_prefix {s : Stream} {es : List ZipEntry} {cd : ℕ × ℕ} {n : ℕ}
    (h : Streaming s.calls es cd n s.ar s.out) (i : Env × Controller) (is : List (Env × Controller)) :
    ∃ ds : Sent, ds.map Prod.fst = es ∧ ds.Exact ∧ s.out ++ s.sentAlong (i :: is) <+: ds.file cd := by
  have hlast (hrest : (s.step i).sentAlong is = []) :
      ∃ ds : Sent, ds.map Prod.fst = es ∧ ds.Exact ∧ s.out ++ s.sentAlong (i :: is) <+: ds.file cd := by
    obtain ⟨ds, hes, hexact, hprefix⟩ := h.next_prefix i
    refine ⟨ds, hes, hexact, ?_⟩
    rw [Stream.sentAlong, hrest, List.append_nil]
    exact ((List.prefix_append_right_inj _).2 (s.sentBytes_prefix i)).trans hprefix
  induction is generalizing s n i with
  | nil => exact hlast rfl
  | cons j is ih =>
    by_cases hwhole : s.Whole i
    · obtain ⟨n', -, hnext⟩ := h.step hwhole
      rw [Stream.sentAlong, Stream.sentBytes_whole hwhole, ← List.append_assoc]
      refine ih hnext j fun hrest => ?_
      obtain ⟨ds, hes, hexact, hprefix⟩ := hnext.next_prefix j
      refine ⟨ds, hes, hexact, ?_⟩
      rw [Stream.sentAlong, hrest, List.append_nil]
      exact ((List.prefix_append_right_inj _).2 (Stream.sentBytes_prefix _ j)).trans hprefix
    · exact hlast (Stream.sentAlong_none (Stream.step_cut hwhole) _)

/-! ### The checksums -/

/-- A stream that has been armed. -/
theorem Streaming.armed_prefix (entries : List ZipEntry) (t : Transport) (deadline : ℕ)
    (is : List (Env × Controller)) :
    ∃ ds : Sent, ds.map Prod.fst = placeEntries 0 entries ∧ ds.Exact ∧
      (Stream.start (some (archiveOf entries t deadline))).sentAlong is
        <+: ds.file (cdOffsetOf entries, cdSizeOf entries) := by
  cases is with
  | nil =>
    exact ⟨Sent.unread (placeEntries 0 entries), Sent.unread_fst _, Sent.unread_exact _,
      List.nil_prefix⟩
  | cons i is =>
    obtain ⟨n, -, hstart⟩ := Streaming.armed entries t deadline
    obtain ⟨ds, hes, hexact, hprefix⟩ :=
      Streaming.sentAlong_prefix (s := .start (some (archiveOf entries t deadline))) hstart i is
    have hout : (Stream.start (some (archiveOf entries t deadline))).out = [] := rfl
    rw [hout, List.nil_append] at hprefix
    exact ⟨ds, hes, hexact, hprefix⟩

/-- **What an archive sends**, whole or cut short, is the start of a file of the collected entries,
each with the CRC-32 of its data. -/
theorem archive_sums {env : Env} {c c' : Controller} {t : Transport} {reply : Reply}
    (h : c.handleGetSdArchive env t = (c', reply)) (hstatus : reply.status = 0)
    (is : List (Env × Controller)) :
    ∃ ds : Sent, ds.map Prod.fst = placeEntries 0 (collectEntries env c.store) ∧ ds.Exact ∧
      (∀ p ∈ ds, (p.1.seal p.2).crc32.toBitVec = Crc.reflected Panel.crc32Poly p.2) ∧
      (Stream.start c'.transfers.ar).sentAlong is
        <+: ds.file (cdOffsetOf (collectEntries env c.store), cdSizeOf (collectEntries env c.store)) := by
  obtain ⟨harmed, -⟩ := handleGetSdArchive_started h hstatus
  obtain ⟨ds, hes, hexact, hprefix⟩ := Streaming.armed_prefix (collectEntries env c.store) t
    ((env.millis 0 + kArchiveIdleTimeoutMs) % 2 ^ 32) is
  rw [← harmed] at hprefix
  exact ⟨ds, hes, hexact, fun p _ => Panel.crc32_eq p.2, hprefix⟩

section

variable [Board]

/-- **What a firmware upload answers** is the CRC-32 of the bytes it has appended to the image. -/
theorem firmware_sum {env : Env} {t : Transport} {total : ℕ} {c : Controller} {reply : Reply}
    (hreply : ((c.handleSetFirmwareFile env t total).source t).events.getLast?
      = some (.replied reply)) (hstatus : reply.status = 0) :
    ∃ stored, stored.length = total ∧
      (c.handleSetFirmwareFile env t total).store.card.contentOf .firmware
        = some (firmwareBase env c.store.card ++ stored) ∧
      reply.payload = toLe 4 (Crc.reflected Panel.crc32Poly stored).toNat := by
  have hlast {s : Source} {sent : Reply}
      (h : (c.handleSetFirmwareFile env t total).source t = s.sendResponse sent) : sent = reply := by
    rw [h] at hreply
    have hsent : (s.sendResponse sent).events.getLast? = some (.replied sent) := List.getLast?_concat
    rw [hsent] at hreply
    cases hreply
    rfl
  cases hstarts : c.startsFirmware env with
  | false =>
    obtain ⟨sent, hrefused, hsource⟩ := Controller.handleSetFirmwareFile_refused t total hstarts
    rw [hlast hsource] at hrefused
    exact absurd hstatus hrefused
  | true =>
    have hends := Controller.handleSetFirmwareFile_started t total hstarts
    generalize (firmwareRead t env.firmware (env.millis 0) total (c.source t)).2 = stop at hends
    cases hends with
    | stored r hread hcount hsource hcard =>
      refine ⟨r.taken, hcount, hcard, ?_⟩
      rw [← hlast hsource, ← Panel.crc32_eq]
      rfl
    | failed stop r text expired hread hfailed hcount hsource hcard =>
      rw [← hlast hsource] at hstatus
      cases hstatus

/-- **The table form of the CRC-32 is the bitwise one**, for a string in any chunks, the bytes of a
firmware upload and the members of an archive. -/
theorem crc32_bitwise :
    (∀ chunks : List (List UInt8),
      (chunks.foldl Panel.crc32Update 0xFFFFFFFF ^^^ 0xFFFFFFFF).toBitVec
        = Crc.reflected Panel.crc32Poly chunks.flatten) ∧
    (∀ (env : Env) (t : Transport) (total : ℕ) (c : Controller) (reply : Reply),
      ((c.handleSetFirmwareFile env t total).source t).events.getLast? = some (.replied reply) →
      reply.status = 0 →
      ∃ stored, stored.length = total ∧
        (c.handleSetFirmwareFile env t total).store.card.contentOf .firmware
          = some (firmwareBase env c.store.card ++ stored) ∧
        reply.payload = toLe 4 (Crc.reflected Panel.crc32Poly stored).toNat) ∧
    (∀ (env : Env) (t : Transport) (c c' : Controller) (reply : Reply) (is : List (Env × Controller)),
      c.handleGetSdArchive env t = (c', reply) → reply.status = 0 →
      ∃ ds : Sent, ds.map Prod.fst = placeEntries 0 (collectEntries env c.store) ∧ ds.Exact ∧
        (∀ p ∈ ds, (p.1.seal p.2).crc32.toBitVec = Crc.reflected Panel.crc32Poly p.2) ∧
        (Stream.start c'.transfers.ar).sentAlong is
          <+: ds.file (cdOffsetOf (collectEntries env c.store),
            cdSizeOf (collectEntries env c.store))) := by
  refine ⟨fun chunks => ?_, fun _ _ _ _ _ => firmware_sum, 
    fun _ _ _ _ _ is h hstatus => archive_sums h hstatus is⟩
  rw [Panel.crc32_chunks, Panel.crc32_eq]

end

end Command
end G6Arena
