/-
# The ring as a queue of records

What the ring is for: a bounded queue of records.  A `Queue` has the entries held,
oldest first, and its history: every record appended (`log`) and every record
dropped to make room (`evicted`).  Sequence numbers count the appends from 1.

`Push` is the append of one record: the shortest prefix of the oldest entries goes,
a `PAD` comes in where the tail of the area is too short, and the record, stamped
with the next sequence number, goes to the end.  `QueueStep` is one call of the
module as the queue sees it; `Represents` relates a ring to the queue it holds.

`ring_refines_queue` says that every run of the module from an initialised ring is
a run of the queue.
-/

import G6Arena.Telemetry.Reach

namespace G6Arena
namespace Telemetry

open ByteMem ByteRing BoundedLoop Machine

/-! ### The queue -/

/-- A queue of records with its history. -/
structure Queue where
  entries : List (List UInt8)
  writeOff : ℕ
  log : List (List UInt8)
  evicted : List (List UInt8)

namespace Queue

/-- The queue of an initialised ring. -/
def empty : Queue where
  entries := []
  writeOff := 0
  log := []
  evicted := []

/-- The records held, oldest first. -/
def held (q : Queue) : List (List UInt8) := records q.entries

/-- The sequence number of the next record. -/
def nextSeq (q : Queue) : ℕ := q.log.length + 1

end Queue

/-- Appending one record. -/
inductive Push (rec : List UInt8) (q : Queue) : Queue → Prop
  | mk {k : ℕ} {pads : List (List UInt8)}
      (room : Room (appendNeed q.writeOff rec.length) q.entries k)
      (isPads : Pads q.writeOff rec.length pads) :
      Push rec q
        { entries := q.entries.drop k ++ pads ++ [stampSeq rec q.nextSeq]
          writeOff := nextOff (appendAt q.writeOff rec.length + rec.length)
          log := q.log ++ [stampSeq rec q.nextSeq]
          evicted := q.evicted ++ records (q.entries.take k) }

/-- A call of the module: the shared tail of the producers, the two halves of the drain. -/
inductive RingCall
  | produce (rec : List UInt8)
  | ack (ackSeq : ℕ)
  | peek (maxBytes : ℕ)

/-- The module after a call. -/
def RingCall.step (t : Module) : Clock × RingCall → Module
  | (c, .produce rec) => append c rec t
  | (c, .ack ackSeq) => Telemetry.ack c ackSeq t
  | (c, .peek maxBytes) => (Telemetry.peek c maxBytes t).1

/-- A call with the heap guard clear, of a record as the producers build them. -/
def RingCall.Legal : Clock × RingCall → Prop
  | (c, .produce rec) => heapTooClose c.brk = false ∧ IsRecord rec
  | (c, _) => heapTooClose c.brk = false

/-- A call as the queue sees it.  A producer pushes its record and, after an eviction,
possibly the marker of an eviction episode. -/
inductive QueueStep : Clock × RingCall → Queue → Queue → Prop
  | push {c : Clock} {rec : List UInt8} {q q' : Queue} (h : Push rec q q') :
      QueueStep (c, .produce rec) q q'
  | pushMarked {c : Clock} {rec : List UInt8} {tUs since : ℕ} {q q' q'' : Queue}
      (h : Push rec q q') (evicts : q.evicted.length < q'.evicted.length)
      (hm : Push (buildState tUs stRingOverrun kOverrunCodeEvicted since) q' q'') :
      QueueStep (c, .produce rec) q q''
  | ack {c : Clock} {ackSeq : ℕ} {q : Queue} {rest : List (List UInt8)}
      (valid : ackSeq < q.nextSeq) (suffix : rest <:+ q.entries)
      (exact : records rest = q.held.filter (ackSeq < seqOf ·)) :
      QueueStep (c, .ack ackSeq) q { q with entries := rest }
  | ackIgnored {c : Clock} {ackSeq : ℕ} {q : Queue}
      (ignored : q.nextSeq ≤ ackSeq ∨ ackSeq = 0xFFFFFFFF) : QueueStep (c, .ack ackSeq) q q
  | peek {c : Clock} {maxBytes : ℕ} {q : Queue} : QueueStep (c, .peek maxBytes) q q

/-! ### Rings and queues -/

/-- Ring `r` holds queue `q`. -/
structure Represents (r : Ring) (q : Queue) : Prop where
  holds : Holds EntryEnd r q.entries
  writeOff : r.hdr.writeOff = q.writeOff
  nextSeq : r.hdr.nextSeq = q.nextSeq
  dropped : r.hdr.dropped = q.evicted.length
  /-- the appends are numbered from 1 -/
  seqs : q.log.map seqOf = List.range' 1 q.log.length
  /-- the records held are the last ones appended, and the evicted ones came before -/
  history : ∃ gone, q.log = gone ++ q.held ∧ q.evicted.Sublist gone

theorem represents_initRing (data : Mem) : Represents (initRing data) .empty :=
  ⟨initRing_holds _ data, rfl, rfl, rfl, rfl, [], rfl, .slnil⟩

variable {r : Ring} {q : Queue}

/-- Sequence numbers grow along the log. -/
theorem Represents.sorted (h : Represents r q) : q.log.Pairwise (seqOf · < seqOf ·) := by
  have hr : (q.log.map seqOf).Pairwise (· < ·) := by
    rw [h.seqs]
    exact List.pairwise_lt_range'
  exact List.pairwise_map.1 hr

theorem Represents.sorted_held (h : Represents r q) : q.held.Pairwise (seqOf · < seqOf ·) := by
  obtain ⟨gone, hlog, -⟩ := h.history
  have hs := h.sorted
  rw [hlog, List.pairwise_append] at hs
  exact hs.2.1

theorem Represents.length_evicted (h : Represents r q) : q.evicted.length ≤ q.log.length := by
  obtain ⟨gone, hlog, hsub⟩ := h.history
  have hle := hsub.length_le
  rw [hlog, List.length_append]
  omega

theorem stampOf_of_lt {n : ℕ} (h0 : n ≠ 0) (h : n < 0xFFFFFFFF) : stampOf n = n := by
  rw [stampOf, if_neg (by omega)]

/-- **An append is a push.** -/
theorem Represents.push (h : Represents r q) {rec : List UInt8} (hrec : IsRecord rec)
    (hlog : q.log.length < 2 ^ 32 - 2) :
    ∃ q', Push rec q q' ∧ Represents (appendRaw rec r).1 q' ∧
      q'.log = q.log ++ [stampSeq rec (stampOf r.hdr.nextSeq)] ∧
      q'.evicted = q.evicted ++ (pending r).take (appendRaw rec r).2 ∧
      q'.evicted.length = q.evicted.length + (appendRaw rec r).2 ∧
      q.held ++ [stampSeq rec (stampOf r.hdr.nextSeq)]
        = (pending r).take (appendRaw rec r).2 ++ q'.held := by
  obtain ⟨k, off, pads, ⟨hev, hpads, hholds⟩⟩ := appendRaw_spec entryPred_entryEnd h.holds hrec
  have hseq : stampOf r.hdr.nextSeq = q.nextSeq := by
    rw [h.nextSeq]
    exact stampOf_of_lt (by simp [Queue.nextSeq]) (by unfold Queue.nextSeq; omega)
  have hcount : (appendRaw rec r).2 = (records (q.entries.take k)).length := by
    simp only [appendRaw, hev.eq]
  have hroom := hev.room
  obtain ⟨gone, hgone, hsub⟩ := h.history
  have hsplit : q.held = records (q.entries.take k) ++ records (q.entries.drop k) := by
    rw [Queue.held, ← records_append, List.take_append_drop]
  have htake : (pending r).take (appendRaw rec r).2 = records (q.entries.take k) := by
    rw [h.holds.pending_eq entryPred_entryEnd, hcount]
    change q.held.take _ = _
    rw [hsplit, List.take_left]
  rw [hseq] at hholds ⊢
  rw [htake]
  rw [h.writeOff] at hroom hpads
  have hheld : records (q.entries.drop k ++ pads ++ [stampSeq rec q.nextSeq])
      = records (q.entries.drop k) ++ [stampSeq rec q.nextSeq] := by
    rw [records_append, records_append, hpads.records, List.append_nil,
      records_cons_of_not_pad (hrec.stampSeq q.nextSeq).1.notPad, records_nil]
  refine ⟨_, .mk hroom hpads, ⟨hholds, ?_, ?_, ?_, ?_, gone ++ records (q.entries.take k), ?_, ?_⟩,
    rfl, rfl, ?_, ?_⟩
  · rw [appendRaw_hdr hev, h.writeOff]; rfl
  · rw [appendRaw_hdr hev, hseq]
    simp only [sealHeader, Queue.nextSeq, List.length_append, List.length_singleton]
    omega
  · rw [appendRaw_hdr hev, List.length_append, ← h.dropped]
    have hle := h.length_evicted
    have hlen := congrArg List.length hgone
    have hsl := hsub.length_le
    have hheld := congrArg List.length hsplit
    simp only [List.length_append] at hlen hheld
    unfold publishEviction
    split_ifs with hz
    · simp only [sealHeader, Ring.setReadOff]
      rw [h.dropped]
      omega
    · simp only [sealHeader, Ring.setReadOff]
      omega
  · rw [List.map_append, h.seqs, List.map_singleton, (hrec.stampSeq _).2, List.length_append,
      List.length_singleton, List.range'_1_concat, Queue.nextSeq]
    congr 2
    omega
  · simp only [Queue.held, hheld]
    rw [hgone, hsplit]
    simp only [List.append_assoc]
  · exact hsub.append (List.Sublist.refl _)
  · rw [List.length_append, hcount]
  · simp only [Queue.held, hheld]
    rw [← List.append_assoc, ← hsplit, Queue.held]

/-- The entries left by an ack hold the records past it. -/
theorem records_dropWhile_acked {segs : List (List UInt8)} (ackSeq : ℕ)
    (h : (records segs).Pairwise (seqOf · < seqOf ·)) :
    records (segs.dropWhile (acked ackSeq)) = (records segs).filter (ackSeq < seqOf ·) := by
  induction segs with
  | nil => rfl
  | cons seg segs ih =>
      cases hp : isPad seg with
      | true =>
          rw [records_cons_of_pad hp] at h ⊢
          rw [List.dropWhile_cons_of_pos (by simp [acked, hp])]
          exact ih h
      | false =>
          rw [records_cons_of_not_pad hp] at h ⊢
          obtain ⟨hhead, htail⟩ := List.pairwise_cons.1 h
          by_cases hs : seqOf seg ≤ ackSeq
          · rw [List.dropWhile_cons_of_pos (by simp [acked, hs]), List.filter_cons_of_neg (by simpa)]
            exact ih htail
          · rw [List.dropWhile_cons_of_neg (by simpa [acked, hp] using hs),
              records_cons_of_not_pad hp, List.filter_cons_of_pos (by simpa using hs)]
            congr 1
            refine (List.filter_eq_self.2 fun seg' hmem => ?_).symm
            have := hhead seg' hmem
            simp only [decide_eq_true_eq]
            omega

/-- **An ack of a sequence number already given out drops the records up to it.** -/
theorem Represents.ack (h : Represents r q) {ackSeq : ℕ} (hack : ackSeq < q.nextSeq) :
    Represents (ackRing ackSeq r) { q with entries := q.entries.dropWhile (acked ackSeq) } := by
  obtain ⟨hholds, hring⟩ := ackRing_spec entryPred_entryEnd h.holds (h.nextSeq.symm ▸ hack)
  obtain ⟨gone, hlog, hsub⟩ := h.history
  have hsplit : q.held = records (q.entries.takeWhile (acked ackSeq))
      ++ records (q.entries.dropWhile (acked ackSeq)) := by
    rw [Queue.held, ← records_append, List.takeWhile_append_dropWhile]
  refine ⟨hholds, ?_, ?_, ?_, h.seqs, gone ++ records (q.entries.takeWhile (acked ackSeq)), ?_,
    hsub.trans (List.sublist_append_left ..)⟩
  · rcases hring with hr | ⟨off, hr⟩ <;> rw [hr] <;> exact h.writeOff
  · rcases hring with hr | ⟨off, hr⟩ <;> rw [hr] <;> exact h.nextSeq
  · rcases hring with hr | ⟨off, hr⟩ <;> rw [hr] <;> exact h.dropped
  · rw [hlog, hsplit, List.append_assoc]; rfl

/-! ### Runs of the module -/

/-- The records a producer call appends, stamped: its own and, in a new eviction
episode, the marker. -/
def appendedBy (c : Clock) (rec : List UInt8) (t : Module) : List (List UInt8) :=
  let a := appendRaw rec t.ring
  stampSeq rec (stampOf t.ring.hdr.nextSeq) ::
    if a.2 ≠ 0 ∧ newEpisode (c.us 0) t then
      [stampSeq (overrunMarker (c.us 0) t.droppedReported a.1) (stampOf a.1.hdr.nextSeq)]
    else []

/-- The records a producer call evicts: those its own record needs the room of and, in a
new eviction episode, those of the marker. -/
def evictedBy (c : Clock) (rec : List UInt8) (t : Module) : List (List UInt8) :=
  let a := appendRaw rec t.ring
  (pending t.ring).take a.2 ++
    if a.2 ≠ 0 ∧ newEpisode (c.us 0) t then
      (pending a.1).take (appendRaw (overrunMarker (c.us 0) t.droppedReported a.1) a.1).2
    else []

/-- The records a call appends. -/
def RingCall.appended (t : Module) : Clock × RingCall → List (List UInt8)
  | (c, .produce rec) => appendedBy c rec t
  | _ => []

/-- The call gives out no sequence number past `0xFFFFFFFE`, so that `next_seq` does not
wrap. -/
def RingCall.NoWrap (t : Module) (call : Clock × RingCall) : Prop :=
  t.ring.hdr.nextSeq + (RingCall.appended t call).length ≤ 0xFFFFFFFF

/-- **A producer call is a step of the queue.** -/
theorem append_step {t : Module} {c : Clock} {rec : List UInt8} (h : Represents t.ring q)
    (hrec : IsRecord rec) (hguard : heapTooClose c.brk = false)
    (hwrap : t.ring.hdr.nextSeq + (appendedBy c rec t).length ≤ 0xFFFFFFFF) :
    ∃ q', QueueStep (c, .produce rec) q q' ∧ Represents (append c rec t).ring q' ∧
      q'.log = q.log ++ appendedBy c rec t ∧ q'.evicted = q.evicted ++ evictedBy c rec t ∧
      q.held ++ appendedBy c rec t = evictedBy c rec t ++ q'.held := by
  rw [h.nextSeq, Queue.nextSeq] at hwrap
  unfold appendedBy at hwrap ⊢
  unfold evictedBy
  rw [List.length_cons] at hwrap
  obtain ⟨q₁, hpush, hrep, hlog, hev, hevLen, hheld⟩ := h.push hrec (by omega)
  by_cases hmark : (appendRaw rec t.ring).2 ≠ 0 ∧ newEpisode (c.us 0) t = true
  · rw [if_pos hmark, List.length_singleton] at hwrap
    obtain ⟨q₂, hpush₂, hrep₂, hlog₂, hev₂, -, hheld₂⟩ := hrep.push
      (isRecord_buildState (c.us 0) stRingOverrun kOverrunCodeEvicted
        (min (sub32 (appendRaw rec t.ring).1.hdr.dropped t.droppedReported) 0xFFFF))
      (by rw [hlog, List.length_append, List.length_singleton]; omega)
    refine ⟨q₂, .pushMarked hpush (by omega) hpush₂, ?_, ?_, ?_, ?_⟩
    · simpa [append, hguard, hmark, overrunMarker] using hrep₂
    · simp only [if_pos hmark]
      rw [hlog₂, hlog, List.append_assoc]
      rfl
    · simp only [if_pos hmark]
      rw [hev₂, hev, List.append_assoc]
      rfl
    · simp only [if_pos hmark]
      rw [List.append_assoc, overrunMarker, ← hheld₂, ← List.append_assoc, ← hheld,
        List.append_assoc]
      rfl
  · refine ⟨q₁, .push hpush, ?_, ?_, ?_, ?_⟩
    · have hring : (append c rec t).ring = (appendRaw rec t.ring).1 := by
        simp only [append, hguard, Bool.false_eq_true, if_false]
        split_ifs with hz hep
        · exact absurd ⟨hz, hep⟩ hmark
        · rfl
        · rfl
      rw [hring]
      exact hrep
    · simp only [if_neg hmark]
      exact hlog
    · simp only [if_neg hmark, List.append_nil]
      exact hev
    · simp only [if_neg hmark, List.append_nil]
      exact hheld

theorem append_ringOk {t : Module} {c : Clock} {rec : List UInt8}
    (hguard : heapTooClose c.brk = false) : (append c rec t).ringOk = t.ringOk := by
  simp only [append, hguard, Bool.false_eq_true, if_false]
  split_ifs <;> rfl

/-- **A call is a step of the queue.** -/
theorem ringCall_step {t : Module} (h : t.ringOk = true ∧ Represents t.ring q)
    {call : Clock × RingCall} (hcall : RingCall.Legal call ∧ RingCall.NoWrap t call) :
    ∃ q', QueueStep call q q' ∧ (RingCall.step t call).ringOk = true ∧
      Represents (RingCall.step t call).ring q' := by
  obtain ⟨hok, hrep⟩ := h
  obtain ⟨hlegal, hwrap⟩ := hcall
  obtain ⟨c, call⟩ := call
  cases call with
  | produce rec =>
      obtain ⟨q', hstep, hrep', -, -, -⟩ := append_step hrep hlegal.2 hlegal.1 hwrap
      exact ⟨q', hstep, (append_ringOk hlegal.1).trans hok, hrep'⟩
  | ack ackSeq =>
      have hguard : heapTooClose c.brk = false := hlegal
      by_cases hno : ackSeq = 0xFFFFFFFF
      · refine ⟨q, .ackIgnored (.inr hno), ?_⟩
        simpa [RingCall.step, ack, hok, hno] using hrep
      · have hack : (RingCall.step t (c, .ack ackSeq)) = { t with ring := ackRing ackSeq t.ring } := by
          simp [RingCall.step, ack, hok, hno, hguard]
        rw [hack]
        rcases Nat.lt_or_ge ackSeq q.nextSeq with hlt | hge
        · exact ⟨_, .ack hlt (List.dropWhile_suffix _)
            (records_dropWhile_acked ackSeq hrep.sorted_held), hok, hrep.ack hlt⟩
        · refine ⟨q, .ackIgnored (.inl hge), hok, ?_⟩
          simpa [ackRing_of_le (hrep.nextSeq.symm ▸ hge)] using hrep
  | peek maxBytes =>
      have hguard : heapTooClose c.brk = false := hlegal
      refine ⟨q, .peek, ?_⟩
      simpa [RingCall.step, peek, hok, hguard] using hrep

/-- No append of `rec` to `r` takes an emergency exit of `makeRoom`. -/
def NeverStuck (rec : List UInt8) (r : Ring) : Prop :=
  ∀ t, Trace (makeRoomPass (appendNeed r.hdr.writeOff rec.length)) (r, 0) t →
    ¬ Stuck (appendNeed r.hdr.writeOff rec.length) t.1

theorem Represents.neverStuck (h : Represents r q) {rec : List UInt8} (hrec : IsRecord rec) :
    NeverStuck rec r := fun _ ht =>
  not_stuck_of_trace entryPred_entryEnd h.holds (hrec.need_le _) ht

/-- **The byte ring refines the queue.**  Every run of producer calls, acks and peeks
from an initialised ring, with the heap guard clear and no wrap of `next_seq`, is a run
of the queue.  The ring at its end holds the queue at its end: both cursors lie in the
area, the walk from `read_off` reaches `write_off` through whole entries that neither
straddle the end of the area nor reach across `write_off`, and the records met are the
ones held.  No append goes through an emergency exit of `makeRoom`. -/
theorem ring_refines_queue (data : Mem) (t : Module) (calls : List (Clock × RingCall))
    (hring : t.ring = initRing data) (hok : t.ringOk = true)
    (hcalls : Along RingCall.step (fun t call => RingCall.Legal call ∧ RingCall.NoWrap t call)
      t calls) :
    ∃ q, Run QueueStep calls .empty q ∧
      let r := (run RingCall.step t calls).ring
      r.hdr.writeOff < kDataSize ∧ r.hdr.readOff < kDataSize ∧
      Chain kDataSize (fun o seg => EntryEnd o seg ∧ o ≠ r.hdr.writeOff ∧
        (o < r.hdr.writeOff → o + seg.length ≤ r.hdr.writeOff))
        r.data r.hdr.writeOff r.hdr.readOff q.entries ∧
      entries r = q.entries ∧ pending r = q.held ∧
      r.hdr.nextSeq = q.nextSeq ∧ r.hdr.dropped = q.evicted.length ∧
      ∀ rec, IsRecord rec → NeverStuck rec r ∧
        ∀ rec', IsRecord rec' → NeverStuck rec' (appendRaw rec r).1 := by
  obtain ⟨q, hrun, -, hrep⟩ := run_sim (R := fun t q => t.ringOk = true ∧ Represents t.ring q)
    (fun t call q h hcall => by
      obtain ⟨q', hq, hok', hrep'⟩ := ringCall_step h hcall
      exact ⟨q', hq, hok', hrep'⟩)
    (a := .empty) ⟨hok, hring ▸ represents_initRing data⟩ hcalls
  have hh := hrep.holds
  refine ⟨q, hrun, hh.write_lt, hh.read_lt, hh.chain.clear hh.read_lt hh.total_lt,
    hh.entries_eq entryPred_entryEnd, hh.pending_eq entryPred_entryEnd, hrep.nextSeq, hrep.dropped,
    fun rec hrec => ⟨hrep.neverStuck hrec, fun rec' hrec' => ?_⟩⟩
  obtain ⟨k, off, pads, happ⟩ := appendRaw_spec entryPred_entryEnd hh hrec
  exact fun _ ht => not_stuck_of_trace entryPred_entryEnd happ.holds (hrec'.need_le _) ht

theorem length_appendedBy_le (c : Clock) (rec : List UInt8) (t : Module) :
    (appendedBy c rec t).length ≤ 2 := by
  simp only [appendedBy]
  split_ifs <;> simp

/-- The first calls after a start. -/
theorem ring_refines_queue_started :
    ∃ q, Run QueueStep [(quietClock, .peek 178), (quietClock, .ack 5),
        (quietClock, .produce (buildState 0 stBoot 0 0))] .empty q ∧
      pending (run RingCall.step started [(quietClock, .peek 178), (quietClock, .ack 5),
        (quietClock, .produce (buildState 0 stBoot 0 0))]).ring = q.held := by
  have hle := length_appendedBy_le quietClock (buildState 0 stBoot 0 0) started
  have hwrap : started.ring.hdr.nextSeq
      + (appendedBy quietClock (buildState 0 stBoot 0 0) started).length ≤ 0xFFFFFFFF := by
    have hseq : started.ring.hdr.nextSeq = 1 := rfl
    omega
  have hguard : heapTooClose quietClock.brk = false := by decide
  obtain ⟨q, hq, -, -, -, -, hp, -⟩ := ring_refines_queue (fun _ => 0) started
    [(quietClock, .peek 178), (quietClock, .ack 5),
      (quietClock, .produce (buildState 0 stBoot 0 0))] rfl rfl
    ⟨⟨hguard, show 1 + 0 ≤ 0xFFFFFFFF by decide⟩, ⟨hguard, show 1 + 0 ≤ 0xFFFFFFFF by decide⟩,
      ⟨⟨hguard, isRecord_buildState ..⟩, hwrap⟩, trivial⟩
  exact ⟨q, hq, hp⟩

end Telemetry
end G6Arena
