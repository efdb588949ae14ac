/-
# A host that drains the ring

A `Session` is the module and a host that drains it by `GET_TELEMETRY_BLOCK`.  The
host keeps the records it has stored; each request acknowledges the last of them, or
nothing while it has none.  A reply may arrive at any later time, any number of times,
or never, and a host that meets a record it has stored already drops it.  `appended`
and `evicted` are history: the records ever appended, and those dropped for room.

`drain_lossless` is the result: over every session the host stores records in order,
verbatim and once each, every record is stored, pending or evicted, and what the host
misses between two stored records was evicted.
-/

import G6Arena.Lib.SortedLog
import G6Arena.Telemetry.Queue
import G6Arena.Telemetry.RoundTrip

namespace G6Arena
namespace Telemetry

open ByteMem ByteRing Machine SortedLog Codec

/-! ### The session -/

/-- The sequence number of the last record stored, `0` before the first. -/
def lastSeq (stored : List Record) : ℕ := (stored.getLast?.map Record.seq).getD 0

/-- The `ack_seq` of the next request. -/
def ackSeqOf (stored : List Record) : ℕ := (stored.getLast?.map Record.seq).getD 0xFFFFFFFF

/-- The request `[8, 0xA9, ack_seq, max_bytes, flags]`. -/
def requestBytes (ackSeq maxBytes : ℕ) : Mem :=
  asMem ([8, getTelemetryBlockCmd] ++ (toLe 4 ackSeq ++ (toLe 2 maxBytes ++ [0])))

/-- What the host has stored after a reply arrives. -/
def arrive (payload : List UInt8) (stored : List Record) : List Record :=
  match parseBlock payload with
  | .ok (_, recs) => stored ++ recs.filter (lastSeq stored < ·.seq)
  | .error _ => stored

/-- The module, the host and the replies sent so far. -/
structure Session where
  dev : Module
  stored : List Record
  replies : List (List UInt8)
  appended : List (List UInt8)
  evicted : List (List UInt8)

inductive SessionEvent
  /-- a producer appends a record -/
  | append (rec : List UInt8)
  /-- the host sends a request, and the module answers it -/
  | request (maxBytes : ℕ)
  /-- a copy of reply number `i` reaches the host -/
  | deliver (i : ℕ)

namespace Session

/-- Before the first append. -/
def start (t : Module) : Session := ⟨t, [], [], [], []⟩

/-- The module and its reply to the host's next request. -/
def answer (s : Session) (c : Clock) (maxBytes : ℕ) : Module × List UInt8 :=
  let a := handleGetTelemetryBlock c (requestBytes (ackSeqOf s.stored) maxBytes) s.dev
  (a.1, a.2.payload)

def step (s : Session) : Clock × SessionEvent → Session
  | (c, .append rec) =>
    { s with
      dev := append c rec s.dev
      appended := s.appended ++ appendedBy c rec s.dev
      evicted := s.evicted ++ evictedBy c rec s.dev }
  | (c, .request maxBytes) =>
    { s with
      dev := (s.answer c maxBytes).1
      replies := s.replies ++ [(s.answer c maxBytes).2] }
  | (_, .deliver i) =>
    match s.replies[i]? with
    | some payload => { s with stored := arrive payload s.stored }
    | none => s

/-- The heap guard is clear, fewer than `2^32 - 2` records have been appended, and a
request leaves room for a record. -/
def Legal (s : Session) : Clock × SessionEvent → Prop
  | (c, .append rec) => heapTooClose c.brk = false ∧ IsRecord rec ∧
      (s.appended ++ appendedBy c rec s.dev).length < 2 ^ 32 - 2
  | (c, .request maxBytes) => heapTooClose c.brk = false ∧ 26 ≤ maxBytes ∧ maxBytes < 2 ^ 16
  | (_, .deliver _) => True

/-- The record is behind the host: evicted, or no later than the last one stored. -/
def Behind (s : Session) (rec : List UInt8) : Prop :=
  rec ∈ s.evicted ∨ seqOf rec ≤ lastSeq s.stored

/-- A reply in flight carries a run of the log with nothing the host still lacks before it. -/
def Served (s : Session) (payload : List UInt8) : Prop :=
  ∃ hdr before taken after, parseBlock payload = .ok (hdr, taken.map decoded) ∧
    s.appended = before ++ (taken ++ after) ∧ ∀ rec ∈ before, s.Behind rec

/-- **The invariant of a session**, for the queue the ring holds. -/
structure Sound (s : Session) (q : Queue) : Prop where
  ok : s.dev.ringOk = true
  ring : Represents s.dev.ring q
  log : q.log = s.appended
  count : s.appended.length < 2 ^ 32 - 2
  evicted : q.evicted = s.evicted
  isRecord : ∀ rec ∈ s.appended, IsRecord rec
  /-- what left the ring is behind the host -/
  freed : ∀ rec ∈ s.appended, rec ∈ q.held ∨ s.Behind rec
  /-- what is behind the host it stored, or it was evicted -/
  behind : ∀ rec ∈ s.appended, s.Behind rec → rec ∈ s.evicted ∨ rec ∈ s.stored.map Record.raw
  /-- the host stored records of the log, in order -/
  raws : (s.stored.map Record.raw).Sublist s.appended
  seqs : ∀ r ∈ s.stored, r.seq = seqOf r.raw
  replies : ∀ payload ∈ s.replies, s.Served payload

variable {s : Session} {q : Queue}

theorem sound_start {data : Mem} {t : Module} (hring : t.ring = initRing data)
    (hok : t.ringOk = true) : (start t).Sound .empty where
  ok := hok
  ring := by rw [show (start t).dev.ring = initRing data from hring]; exact represents_initRing data
  log := rfl
  count := show ([] : List (List UInt8)).length < 2 ^ 32 - 2 by decide
  evicted := rfl
  isRecord := fun rec h => by cases h
  freed := fun rec h => by cases h
  behind := fun rec h => by cases h
  raws := .slnil
  seqs := fun r h => by cases h
  replies := fun payload h => by cases h

theorem Sound.sorted (h : s.Sound q) : s.appended.Pairwise (seqOf · < seqOf ·) :=
  h.log ▸ h.ring.sorted

theorem Sound.sorted_stored (h : s.Sound q) : s.stored.Pairwise (·.seq < ·.seq) := by
  have hraw := List.pairwise_map.1 (h.sorted.sublist h.raws)
  exact hraw.imp_of_mem fun ha hb hlt => by rwa [h.seqs _ ha, h.seqs _ hb]

/-- The last record stored is one of the log. -/
theorem Sound.stored_cases (h : s.Sound q) :
    s.stored = [] ∨ ∃ rec ∈ s.appended, ackSeqOf s.stored = seqOf rec ∧
      lastSeq s.stored = seqOf rec := by
  rcases List.eq_nil_or_concat' s.stored with hs | ⟨l, r, hs⟩
  · exact .inl hs
  · have hr : r ∈ s.stored := by rw [hs]; simp
    refine .inr ⟨r.raw, h.raws.subset (List.mem_map_of_mem hr), ?_, ?_⟩
    · simp [ackSeqOf, hs, h.seqs r hr]
    · simp [lastSeq, hs, h.seqs r hr]

/-- Sequence numbers of the log lie between 1 and `next_seq`. -/
theorem Sound.seq_range (h : s.Sound q) {rec : List UInt8} (hrec : rec ∈ s.appended) :
    0 < seqOf rec ∧ seqOf rec < q.nextSeq := by
  have hmem : seqOf rec ∈ q.log.map seqOf := List.mem_map_of_mem (h.log ▸ hrec)
  rw [h.ring.seqs, List.mem_range'_1] at hmem
  unfold Queue.nextSeq
  omega

/-! ### Appends -/

theorem Behind.append {rec : List UInt8} (h : s.Behind rec) (c : Clock) (new : List UInt8) :
    (s.step (c, .append new)).Behind rec :=
  h.imp_left (List.mem_append_left _)

theorem isRecord_appendedBy {c : Clock} {rec : List UInt8} (t : Module) (h : IsRecord rec) :
    ∀ r ∈ appendedBy c rec t, IsRecord r := by
  intro r hr
  unfold appendedBy at hr
  rcases List.mem_cons.1 hr with rfl | hr
  · exact (h.stampSeq _).1
  · split_ifs at hr
    · rw [List.mem_singleton.1 hr]
      exact ((isRecord_overrunMarker ..).stampSeq _).1
    · cases hr

theorem Sound.append (h : s.Sound q) {c : Clock} {rec : List UInt8}
    (hlegal : s.Legal (c, .append rec)) : ∃ q', (s.step (c, .append rec)).Sound q' := by
  obtain ⟨hguard, hrec, hcount⟩ := hlegal
  have hwrap : s.dev.ring.hdr.nextSeq + (appendedBy c rec s.dev).length ≤ 0xFFFFFFFF := by
    rw [h.ring.nextSeq, Queue.nextSeq, h.log]
    rw [List.length_append] at hcount
    omega
  obtain ⟨q', -, hrep, hlog, hev, hheld⟩ := append_step h.ring hrec hguard hwrap
  refine ⟨q', ?_⟩
  constructor
  · exact (append_ringOk hguard).trans h.ok
  · exact hrep
  · rw [hlog, h.log]; rfl
  · exact hcount
  · rw [hev, h.evicted]; rfl
  · intro r hr
    rcases List.mem_append.1 hr with hr | hr
    · exact h.isRecord r hr
    · exact isRecord_appendedBy _ hrec r hr
  · intro r hr
    -- an entry of the queue before, or a new one: evicted by now, or still held
    have hmem : r ∈ q.held ++ appendedBy c rec s.dev ∨ s.Behind r := by
      rcases List.mem_append.1 hr with hr | hr
      · exact (h.freed r hr).imp_left (List.mem_append_left _)
      · exact .inl (List.mem_append_right _ hr)
    rcases hmem with hmem | hbehind
    · rw [hheld] at hmem
      rcases List.mem_append.1 hmem with hmem | hmem
      · exact .inr (.inl (List.mem_append_right _ hmem))
      · exact .inl hmem
    · exact .inr (hbehind.append c rec)
  · intro r hr hbehind
    rcases hbehind with hevicted | hle
    · exact .inl hevicted
    · rcases List.mem_append.1 hr with hr | hr
      · exact (h.behind r hr (.inr hle)).imp_left (List.mem_append_left _)
      · -- a record appended now comes after all the host has stored
        exfalso
        have hsort : (s.appended ++ appendedBy c rec s.dev).Pairwise (seqOf · < seqOf ·) := by
          rw [← h.log, ← hlog]
          exact hrep.sorted
        have hpos : 0 < seqOf r := by
          have hmem : seqOf r ∈ q'.log.map seqOf := by
            rw [hlog]
            exact List.mem_map_of_mem (List.mem_append_right _ hr)
          rw [hrep.seqs, List.mem_range'_1] at hmem
          omega
        rcases h.stored_cases with hnil | ⟨x, hx, -, hlast⟩
        · rw [show (s.step (c, .append rec)).stored = s.stored from rfl, hnil] at hle
          exact absurd hle (by simp [lastSeq]; omega)
        · have hlt := lt_of_append hsort hx hr
          rw [show (s.step (c, .append rec)).stored = s.stored from rfl, hlast] at hle
          omega
  · exact h.raws.trans (List.sublist_append_left ..)
  · exact h.seqs
  · intro payload hp
    obtain ⟨hdr, before, taken, after, hparse, hsplit, hbefore⟩ := h.replies payload hp
    refine ⟨hdr, before, taken, after ++ appendedBy c rec s.dev, hparse, ?_, ?_⟩
    · change s.appended ++ _ = _
      rw [hsplit]
      simp only [List.append_assoc]
    · exact fun r hr => (hbefore r hr).append c rec

/-! ### Requests -/

theorem wordAt_requestBytes (ackSeq maxBytes : ℕ) :
    wordAt (requestBytes ackSeq maxBytes) 2 4 = ackSeq % 2 ^ 32 ∧
      wordAt (requestBytes ackSeq maxBytes) 6 2 = maxBytes % 2 ^ 16 := by
  unfold requestBytes
  constructor
  · rw [← unpack_eq_wordAt (by simp), unpack_append_right (by simp)]
    exact unpack_toLe_append ..
  · rw [← unpack_eq_wordAt (by simp), unpack_append_right (by simp), unpack_append_right (by simp)]
    simp [unpack_toLe_append]

/-- The host's ack frees the records it has stored and no others. -/
theorem Sound.ack (h : s.Sound q) {c : Clock} (hguard : heapTooClose c.brk = false) :
    ∃ q', Represents (Telemetry.ack c (ackSeqOf s.stored) s.dev).ring q' ∧
      (Telemetry.ack c (ackSeqOf s.stored) s.dev).ringOk = true ∧
      q'.log = q.log ∧ q'.evicted = q.evicted ∧
      q'.held = q.held.filter (lastSeq s.stored < seqOf ·) := by
  have hmem : ∀ rec ∈ q.held, rec ∈ s.appended := by
    obtain ⟨gone, hlog, -⟩ := h.ring.history
    intro rec hrec
    rw [← h.log, hlog]
    exact List.mem_append_right _ hrec
  rcases h.stored_cases with hnil | ⟨rec, hrec, hack, hlast⟩
  · have hnone : Telemetry.ack c (ackSeqOf s.stored) s.dev = s.dev := by
      simp [Telemetry.ack, ackSeqOf, hnil]
    rw [hnone]
    refine ⟨q, h.ring, h.ok, rfl, rfl, (List.filter_eq_self.2 fun rec hrec => ?_).symm⟩
    have := (h.seq_range (hmem rec hrec)).1
    simpa [lastSeq, hnil] using this
  · have hlt := (h.seq_range hrec).2
    have hcount := h.count
    have hne : seqOf rec ≠ 0xFFFFFFFF := by
      rw [Queue.nextSeq, h.log] at hlt
      omega
    have hstep : Telemetry.ack c (ackSeqOf s.stored) s.dev
        = { s.dev with ring := ackRing (seqOf rec) s.dev.ring } := by
      simp [Telemetry.ack, hack, h.ok, hne, hguard]
    rw [hstep, hlast]
    exact ⟨_, h.ring.ack hlt, h.ok, rfl, rfl, records_dropWhile_acked _ h.ring.sorted_held⟩

/-- **The answer to a request**: it frees what the host has stored, and carries the first
records of the rest. -/
theorem Sound.answer (h : s.Sound q) {c : Clock} {maxBytes : ℕ}
    (hlegal : s.Legal (c, .request maxBytes)) :
    ∃ q' hdr, Represents (s.answer c maxBytes).1.ring q' ∧
      (s.answer c maxBytes).1.ringOk = true ∧ q'.log = q.log ∧ q'.evicted = q.evicted ∧
      q'.held = q.held.filter (lastSeq s.stored < seqOf ·) ∧
      parseBlock (s.answer c maxBytes).2
        = .ok (hdr, (takeFit (min maxBytes kRecordBytesMax) q'.held).map decoded) := by
  obtain ⟨hguard, -, hmax⟩ := hlegal
  obtain ⟨hackWord, hmaxWord⟩ := wordAt_requestBytes (ackSeqOf s.stored) maxBytes
  have hackLt : ackSeqOf s.stored < 2 ^ 32 := by
    rcases h.stored_cases with hnil | ⟨rec, hrec, hack, -⟩
    · simp [ackSeqOf, hnil]
    · have hlt := (h.seq_range hrec).2
      have hcount := h.count
      rw [Queue.nextSeq, h.log] at hlt
      omega
  rw [Nat.mod_eq_of_lt hackLt] at hackWord
  rw [Nat.mod_eq_of_lt hmax] at hmaxWord
  obtain ⟨q', hrep, hok, hlog, hev, hheld⟩ := h.ack hguard
  have hsound : Telemetry.Sound s.dev := fun _ =>
    ⟨q.entries, h.ring.holds.mono fun _ _ he => he.1⟩
  have hlen : 7 ≤ ((requestBytes (ackSeqOf s.stored) maxBytes) 0).toNat := by
    change 7 ≤ (8 : UInt8).toNat
    decide
  -- the module after the request is the module after its ack
  have hdev : (s.answer c maxBytes).1 = Telemetry.ack c (ackSeqOf s.stored) s.dev := by
    change (handleGetTelemetryBlock c (requestBytes (ackSeqOf s.stored) maxBytes) s.dev).1 = _
    rw [handleGetTelemetryBlock, if_neg (by omega)]
    simp [drain, Telemetry.peek, hackWord, hok, hguard]
  obtain ⟨-, -, -, hdr, hparse, -⟩ := reply_decodes hsound c hlen
  have hpending : pendingOf (s.answer c maxBytes).1 = q'.held := by
    rw [hdev, pendingOf, if_pos hok, hrep.holds.pending_eq entryPred_entryEnd, Queue.held]
  refine ⟨q', hdr, hdev ▸ hrep, hdev ▸ hok, hlog, hev, hheld, ?_⟩
  rw [hmaxWord] at hparse
  rw [← hpending]
  exact hparse

theorem Sound.request (h : s.Sound q) {c : Clock} {maxBytes : ℕ}
    (hlegal : s.Legal (c, .request maxBytes)) : ∃ q', (s.step (c, .request maxBytes)).Sound q' := by
  obtain ⟨q', hdr, hrep, hok, hlog, hev, hheld, hparse⟩ := h.answer hlegal
  obtain ⟨gone, hgone, -⟩ := hrep.history
  refine ⟨q', ?_⟩
  constructor
  · exact hok
  · exact hrep
  · exact hlog.trans h.log
  · exact h.count
  · exact hev.trans h.evicted
  · exact h.isRecord
  · intro rec hrec
    rcases h.freed rec hrec with hmem | hbehind
    · rcases Nat.lt_or_ge (lastSeq s.stored) (seqOf rec) with hlt | hge
      · rw [hheld]
        exact .inl (List.mem_filter.2 ⟨hmem, by simpa using hlt⟩)
      · exact .inr (.inr hge)
    · exact .inr hbehind
  · exact h.behind
  · exact h.raws
  · exact h.seqs
  · intro payload hp
    rcases List.mem_append.1 hp with hp | hp
    · exact h.replies payload hp
    · obtain ⟨rest, hrest⟩ := takeFit_isPrefix (min maxBytes kRecordBytesMax) q'.held
      rw [List.mem_singleton.1 hp]
      refine ⟨hdr, gone, _, rest, hparse, ?_, ?_⟩
      · rw [hrest, ← hgone, hlog, h.log]; rfl
      · -- the log before the first record held is what the ring let go
        intro rec hrec
        have hmem : rec ∈ s.appended := by
          rw [← h.log, ← hlog, hgone]
          exact List.mem_append_left _ hrec
        rcases h.freed rec hmem with hold | hbehind
        · right
          by_contra hn
          have hin : rec ∈ q'.held := by
            rw [hheld]
            exact List.mem_filter.2 ⟨hold, decide_eq_true (Nat.lt_of_not_le hn)⟩
          have hsort := hrep.sorted
          rw [hgone] at hsort
          exact Nat.lt_irrefl _ (lt_of_append hsort hrec hin)
        · exact hbehind

/-! ### Replies -/

theorem raw_comp_decoded : Record.raw ∘ decoded = id := rfl

theorem Sound.seq_le_lastSeq (h : s.Sound q) {rec : List UInt8}
    (hrec : rec ∈ s.stored.map Record.raw) : seqOf rec ≤ lastSeq s.stored := by
  obtain ⟨r, hr, rfl⟩ := List.mem_map.1 hrec
  rw [← h.seqs r hr]
  exact le_getLast h.sorted_stored hr

/-- The records of a reply that the host stores when it arrives. -/
def fresh (s : Session) (taken : List (List UInt8)) : List (List UInt8) :=
  taken.filter (lastSeq s.stored < seqOf ·)

theorem arrive_served (h : s.Sound q) {payload : List UInt8} {hdr : BlockHeader}
    {before taken after : List (List UInt8)}
    (hparse : parseBlock payload = .ok (hdr, taken.map decoded))
    (hlog : s.appended = before ++ (taken ++ after)) :
    arrive payload s.stored = s.stored ++ (s.fresh taken).map decoded := by
  have hrec : ∀ seg ∈ taken, IsRecord seg := fun seg hseg =>
    h.isRecord seg (by rw [hlog]; simp [hseg])
  simp only [arrive, hparse, fresh, List.filter_map]
  congr 2
  refine List.filter_congr fun seg hseg => ?_
  simp [decoded_seq (hrec seg hseg)]

/-- The last record stored once the fresh records of a reply are. -/
theorem lastSeq_append (stored : List Record) {new : List (List UInt8)}
    (hrec : ∀ seg ∈ new, IsRecord seg) :
    lastSeq (stored ++ new.map decoded) = (new.getLast?.map seqOf).getD (lastSeq stored) := by
  rcases List.eq_nil_or_concat' new with rfl | ⟨l, seg, rfl⟩
  · simp
  · have hseg := decoded_seq (hrec seg (by simp))
    simp [lastSeq, hseg, ← List.append_assoc]

theorem Sound.deliver (h : s.Sound q) {payload : List UInt8} (hp : payload ∈ s.replies) :
    ({ s with stored := arrive payload s.stored } : Session).Sound q := by
  obtain ⟨hdr, before, taken, after, hparse, hlog, hbefore⟩ := h.replies payload hp
  have hsort := h.sorted
  rw [hlog] at hsort
  have htaken := (List.pairwise_append.1 (List.pairwise_append.1 hsort).2.1).1
  obtain ⟨old, hold, hle⟩ := split_at_key htaken (lastSeq s.stored)
  have hstored := arrive_served h hparse hlog
  have hfresh : ∀ seg ∈ s.fresh taken, IsRecord seg := fun seg hseg =>
    h.isRecord seg (by rw [hlog]; simp [List.mem_of_mem_filter hseg])
  -- the log, split where the host stands
  have hsplit : s.appended = (before ++ old) ++ (s.fresh taken ++ after) := by
    rw [hlog, fresh]
    conv_lhs => rw [hold]
    simp only [List.append_assoc]
  have hlast := lastSeq_append s.stored hfresh
  rw [← hstored] at hlast
  have hmono : lastSeq s.stored ≤ lastSeq (arrive payload s.stored) := by
    rw [hlast]
    cases hl : (s.fresh taken).getLast? with
    | none => exact Nat.le_refl _
    | some seg =>
        have := (List.mem_filter.1 (List.mem_of_getLast? hl)).2
        simp only [decide_eq_true_eq] at this
        exact Nat.le_of_lt this
  have hbehind : ∀ rec, s.Behind rec →
      ({ s with stored := arrive payload s.stored } : Session).Behind rec := fun rec hb =>
    hb.imp_right fun hle => hle.trans hmono
  constructor
  · exact h.ok
  · exact h.ring
  · exact h.log
  · exact h.count
  · exact h.evicted
  · exact h.isRecord
  · exact fun rec hrec => (h.freed rec hrec).imp_right (hbehind rec)
  · intro rec hrec hb
    rcases hb with hev | hseq
    · exact .inl hev
    · change rec ∈ s.evicted ∨ rec ∈ (arrive payload s.stored).map Record.raw
      rw [hstored, List.map_append, List.mem_append, List.map_map]
      have hkeep : s.Behind rec → rec ∈ s.evicted ∨
          (rec ∈ s.stored.map Record.raw ∨ rec ∈ (s.fresh taken).map (Record.raw ∘ decoded)) :=
        fun hb => (h.behind rec hrec hb).imp_right .inl
      rw [hsplit] at hrec
      rcases List.mem_append.1 hrec with hrec | hrec
      · rcases List.mem_append.1 hrec with hrec | hrec
        · exact hkeep (hbefore rec hrec)
        · exact hkeep (.inr (hle rec hrec))
      · rcases List.mem_append.1 hrec with hrec | hrec
        · exact .inr (.inr (List.mem_map.2 ⟨rec, hrec, rfl⟩))
        · -- past the reply: past the last record stored
          cases hl : (s.fresh taken).getLast? with
          | none =>
              rw [hlast, hl] at hseq
              exact hkeep (.inr hseq)
          | some seg =>
              rw [hlast, hl] at hseq
              have hs := h.sorted
              rw [hsplit] at hs
              have := lt_of_append (List.pairwise_append.1 hs).2.1 (List.mem_of_getLast? hl) hrec
              exact absurd hseq (by simp; omega)
  · change ((arrive payload s.stored).map Record.raw).Sublist s.appended
    rw [hstored, List.map_append, List.map_map, raw_comp_decoded, List.map_id]
    cases hf : s.fresh taken with
    | nil => simpa using h.raws
    | cons seg rest =>
        -- nothing from the first fresh record on is stored yet
        rw [hsplit, hf]
        refine List.Sublist.append (sublist_of_forall_notMem (hsplit ▸ h.raws) ?_)
          (List.sublist_append_left ..)
        intro rec hrec hmem
        have hs := h.sorted
        rw [hsplit] at hs
        have hseg : lastSeq s.stored < seqOf seg := by
          have hmem : seg ∈ s.fresh taken := by rw [hf]; simp
          simpa using (List.mem_filter.1 hmem).2
        have hge : seqOf seg ≤ seqOf rec := by
          rw [hf] at hs hmem
          rcases List.mem_cons.1 hmem with rfl | hmem
          · exact Nat.le_refl _
          · exact Nat.le_of_lt
              ((List.pairwise_cons.1 (List.pairwise_append.1 hs).2.1).1 rec hmem)
        have hle := h.seq_le_lastSeq hrec
        omega
  · intro r hr
    change r ∈ arrive payload s.stored at hr
    rw [hstored] at hr
    rcases List.mem_append.1 hr with hr | hr
    · exact h.seqs r hr
    · obtain ⟨seg, hseg, rfl⟩ := List.mem_map.1 hr
      exact decoded_seq (hfresh seg hseg)
  · intro payload' hp'
    obtain ⟨hdr', before', taken', after', hparse', hlog', hbefore'⟩ := h.replies payload' hp'
    exact ⟨hdr', before', taken', after', hparse', hlog', fun rec hrec => hbehind rec (hbefore' rec hrec)⟩

/-! ### Whole sessions -/

theorem Sound.step (h : s.Sound q) {event : Clock × SessionEvent} (hlegal : s.Legal event) :
    ∃ q', (s.step event).Sound q' := by
  obtain ⟨c, event⟩ := event
  cases event with
  | append rec => exact h.append hlegal
  | request maxBytes => exact h.request hlegal
  | deliver i =>
      cases hi : s.replies[i]? with
      | none => exact ⟨q, by simpa [Session.step, hi] using h⟩
      | some payload =>
          have hd := h.deliver (List.mem_of_getElem? hi)
          exact ⟨q, by simpa [Session.step, hi] using hd⟩

theorem Sound.evicted_sublist (h : s.Sound q) : s.evicted.Sublist s.appended := by
  obtain ⟨gone, hlog, hsub⟩ := h.ring.history
  rw [← h.evicted, ← h.log, hlog]
  exact hsub.trans (List.sublist_append_left ..)

/-- What the host misses between two records it stored in a row was evicted. -/
theorem Sound.gap (h : s.Sound q) {a b : Record} (hadj : [a, b] <:+: s.stored) {n : ℕ}
    (ha : a.seq < n) (hb : n < b.seq) : ∃ rec ∈ s.evicted, seqOf rec = n := by
  have hbm : b ∈ s.stored := hadj.subset (by simp)
  have hbr : b.raw ∈ s.stored.map Record.raw := List.mem_map_of_mem hbm
  have hlast := h.seq_le_lastSeq hbr
  obtain ⟨-, hblt⟩ := h.seq_range (h.raws.subset hbr)
  rw [h.seqs b hbm] at hb
  obtain ⟨rec, hrec, rfl⟩ : ∃ rec ∈ s.appended, seqOf rec = n := by
    refine List.mem_map.1 ?_
    rw [← h.log, h.ring.seqs, List.mem_range'_1]
    unfold Queue.nextSeq at hblt
    omega
  rcases h.behind rec hrec (.inr (by omega)) with hev | hst
  · exact ⟨rec, hev, rfl⟩
  · obtain ⟨r, hr, rfl⟩ := List.mem_map.1 hst
    rw [← h.seqs r hr] at ha hb
    rw [← h.seqs b hbm] at hb
    exact absurd hr (notMem_of_adjacent h.sorted_stored hadj ha hb)

/-- A request with records pending is answered with some the host lacks. -/
theorem Sound.progress (h : s.Sound q) {c : Clock} {maxBytes : ℕ}
    (hlegal : s.Legal (c, .request maxBytes))
    (hpending : pending (s.answer c maxBytes).1.ring ≠ []) :
    ∃ new, new ≠ [] ∧ arrive (s.answer c maxBytes).2 s.stored = s.stored ++ new ∧
      ∀ r ∈ new, r.raw ∈ s.appended ∧ r.raw ∉ s.stored.map Record.raw := by
  obtain ⟨q', hdr, hrep, -, hlog, -, hheld, hparse⟩ := h.answer hlegal
  rw [hrep.holds.pending_eq entryPred_entryEnd] at hpending
  change q'.held ≠ [] at hpending
  obtain ⟨gone, hgone, -⟩ := hrep.history
  have hsplit : s.appended = gone ++ q'.held := by rw [← h.log, ← hlog, hgone]
  obtain ⟨after, hafter⟩ := takeFit_isPrefix (min maxBytes kRecordBytesMax) q'.held
  have hnew := arrive_served h hparse (by rw [hafter]; exact hsplit)
  have hpast : ∀ seg ∈ q'.held, lastSeq s.stored < seqOf seg := by
    rw [hheld]
    exact fun seg hseg => of_decide_eq_true (List.mem_filter.1 hseg).2
  have htaken : ∀ seg ∈ takeFit (min maxBytes kRecordBytesMax) q'.held, seg ∈ q'.held := fun _ hseg =>
    (takeFit_isPrefix ..).subset hseg
  have hfresh : s.fresh (takeFit (min maxBytes kRecordBytesMax) q'.held)
      = takeFit (min maxBytes kRecordBytesMax) q'.held :=
    List.filter_eq_self.2 fun seg hseg => decide_eq_true (hpast seg (htaken seg hseg))
  rw [hfresh] at hnew
  refine ⟨_, ?_, hnew, ?_⟩
  · -- the first record pending fits
    cases hh : q'.held with
    | nil => exact absurd hh hpending
    | cons seg rest =>
        have hle := (h.isRecord seg (by rw [hsplit, hh]; simp)).length_le
        have hmax : kRecordLenMax = 26 := rfl
        have hbytes : kRecordBytesMax = 178 := rfl
        obtain ⟨-, hmin, -⟩ := hlegal
        rw [takeFit, if_pos (by omega)]
        exact List.cons_ne_nil _ _
  · intro r hr
    obtain ⟨seg, hseg, rfl⟩ := List.mem_map.1 hr
    rw [decoded_raw]
    constructor
    · rw [hsplit]
      exact List.mem_append_right _ (htaken seg hseg)
    · intro hst
      have := h.seq_le_lastSeq hst
      have := hpast seg (htaken seg hseg)
      omega

end Session

/-- **The drain is lossless.**  Over every session from an initialised ring, with the heap
guard clear, fewer than `2^32 - 2` records appended and at least 26 bytes asked for:
the records stored are in order of their sequence numbers, and are records appended,
verbatim and once each.  Every record appended is stored, pending or evicted, and `dropped`
counts the evicted ones.  Every sequence number between two records stored in a row is
that of an evicted record.  A request that leaves records pending is answered with at
least one the host lacks, all of which it stores when the reply arrives. -/
theorem drain_lossless (data : Mem) (t : Module) (events : List (Clock × SessionEvent))
    (hring : t.ring = initRing data) (hok : t.ringOk = true)
    (hlegal : Along Session.step Session.Legal (Session.start t) events) :
    let s := run Session.step (Session.start t) events
    s.stored.Pairwise (·.seq < ·.seq) ∧ (∀ r ∈ s.stored, r.seq = seqOf r.raw) ∧
    (s.stored.map Record.raw).Sublist s.appended ∧
    s.appended.map seqOf = List.range' 1 s.appended.length ∧
    (∀ rec ∈ s.appended,
      rec ∈ s.stored.map Record.raw ∨ rec ∈ pending s.dev.ring ∨ rec ∈ s.evicted) ∧
    s.evicted.Sublist s.appended ∧ dropped s.dev = s.evicted.length ∧
    (∀ a b, [a, b] <:+: s.stored → ∀ n, a.seq < n → n < b.seq →
      ∃ rec ∈ s.evicted, seqOf rec = n) ∧
    ∀ c maxBytes, s.Legal (c, .request maxBytes) → pending (s.answer c maxBytes).1.ring ≠ [] →
      ∃ new, new ≠ [] ∧ arrive (s.answer c maxBytes).2 s.stored = s.stored ++ new ∧
        ∀ r ∈ new, r.raw ∈ s.appended ∧ r.raw ∉ s.stored.map Record.raw := by
  obtain ⟨q, h⟩ : ∃ q, (run Session.step (Session.start t) events).Sound q :=
    run_inv (I := fun s => ∃ q, s.Sound q) (fun s event ⟨q, h⟩ hl => h.step hl)
      ⟨_, Session.sound_start hring hok⟩ hlegal
  refine ⟨h.sorted_stored, h.seqs, h.raws, ?_, ?_, h.evicted_sublist, ?_, fun a b hadj n => h.gap hadj,
    fun c maxBytes => h.progress⟩
  · rw [← h.log]
    exact h.ring.seqs
  · intro rec hrec
    rw [h.ring.holds.pending_eq entryPred_entryEnd]
    rcases h.freed rec hrec with hheld | hbehind
    · exact .inr (.inl hheld)
    · rcases h.behind rec hrec hbehind with hev | hst
      · exact .inr (.inr hev)
      · exact .inl hst
  · rw [dropped, if_pos h.ok, h.ring.dropped, h.evicted]

theorem legal_append {s : Session} {rec : List UInt8} (hrec : IsRecord rec)
    (hcount : s.appended.length + 2 < 2 ^ 32 - 2) : s.Legal (quietClock, .append rec) := by
  have hle := length_appendedBy_le quietClock rec s.dev
  refine ⟨by decide, hrec, ?_⟩
  rw [List.length_append]
  omega

/-- Two records, a request whose reply arrives twice. -/
theorem drain_lossless_twice :
    let s := run Session.step (Session.start started)
      [(quietClock, .append (cmdRecord 0 0x10 0 [])), (quietClock, .append (cmdRecord 5 0x11 0 [])),
        (quietClock, .request 178), (quietClock, .deliver 0), (quietClock, .deliver 0)]
    s.stored.Pairwise (·.seq < ·.seq) ∧ (s.stored.map Record.raw).Sublist s.appended := by
  have h := drain_lossless (fun _ => 0) started
    [(quietClock, .append (cmdRecord 0 0x10 0 [])), (quietClock, .append (cmdRecord 5 0x11 0 [])),
      (quietClock, .request 178), (quietClock, .deliver 0), (quietClock, .deliver 0)] rfl rfl
    ⟨legal_append (isRecord_cmdRecord ..) (by decide), legal_append (isRecord_cmdRecord ..) (by
      have hle := length_appendedBy_le quietClock (cmdRecord 0 0x10 0 []) started
      change ([] ++ appendedBy quietClock (cmdRecord 0 0x10 0 []) started).length + 2 < _
      rw [List.nil_append]
      omega), ⟨by decide, by decide, by decide⟩, trivial, trivial, trivial⟩
  exact ⟨h.1, h.2.2.1⟩

end Telemetry
end G6Arena
