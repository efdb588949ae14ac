/-
# What the overrun markers account for

`dropped` counts the records evicted, and the marker of an eviction episode carries those since the
last one.  `dropped_reported_` is what the markers have accounted for; the rest waits for the next.

A marker is a record too, and its own append may evict others.  They are counted in `dropped`, and
`dropped_reported_` is set to that afterwards: no marker reports them (`overrun_accounting`).
-/

import G6Arena.Telemetry.Queue

namespace G6Arena
namespace Telemetry

open ByteMem BoundedLoop Machine

/-! ### The log of a run -/

/-- The count a `STATE(ring_overrun)` of an eviction episode carries, and zero for another record. -/
def overrunArg (rec : List UInt8) : ℕ :=
  if rec.getD 1 0 = recState ∧ rec.getD 10 0 = stRingOverrun ∧ rec.getD 11 0 = kOverrunCodeEvicted then
    ofLe ((rec.drop 12).take 2)
  else 0

/-- What the markers of a log report. -/
def reported (log : List (List UInt8)) : ℕ := (log.map overrunArg).sum

@[simp] theorem reported_nil : reported [] = 0 := rfl

@[simp] theorem reported_cons (rec : List UInt8) (log : List (List UInt8)) :
    reported (rec :: log) = overrunArg rec + reported log := List.sum_cons ..

@[simp] theorem reported_append (log log' : List (List UInt8)) :
    reported (log ++ log') = reported log + reported log' := by
  unfold reported
  rw [List.map_append, List.sum_append]

/-- The record that a trip of the heap guard leaves. -/
def trippedBy (c : Clock) (t : Module) : List (List UInt8) :=
  if c.brk < kRingBase then
    [stampSeq (buildState (c.us 0) stRingOverrun kOverrunCodeHeapCollision 0) (stampOf t.ring.hdr.nextSeq)]
  else []

/-- The records a call appends, the heap guard clear or not. -/
def RingCall.logged (t : Module) : Clock × RingCall → List (List UInt8)
  | (c, .produce rec) => if heapTooClose c.brk then trippedBy c t else appendedBy c rec t
  | (c, .ack ackSeq) =>
    if t.ringOk && ackSeq ≠ 0xFFFFFFFF && heapTooClose c.brk then trippedBy c t else []
  | (c, .peek _) => if t.ringOk && heapTooClose c.brk then trippedBy c t else []

/-- The module, and the records it has appended. -/
structure Audited where
  module : Module
  log : List (List UInt8)

def Audited.step (s : Audited) (call : Clock × RingCall) : Audited :=
  ⟨RingCall.step s.module call, s.log ++ RingCall.logged s.module call⟩

/-- The module of `begin`, before its records. -/
def begun (mem : Ring) : Module :=
  { powerUp mem with
    ring := (beginRing mem).1
    ringOk := true
    kept := (beginRing mem).2
    enabled := true
    droppedReported := (beginRing mem).1.hdr.dropped }

theorem begin_eq {c : Clock} (h : heapTooClose c.brk = false) (hs : BootHealth) (mem : Ring) :
    begin c hs mem = states c (bootRecords hs) (begun mem) := by
  unfold begin
  rw [h]
  rfl

/-- What the markers have reported, and what waits for the next, are the evictions since `begin`,
as the 32 bits of the counters tell. -/
def Accounted (dropped₀ : ℕ) (s : Audited) : Prop :=
  (reported s.log + sub32 s.module.ring.hdr.dropped s.module.droppedReported) % 2 ^ 32
    = sub32 s.module.ring.hdr.dropped dropped₀

/-- The call opens an eviction episode. -/
def opensEpisode (t : Module) : Clock × RingCall → Bool
  | (c, .produce rec) =>
    !heapTooClose c.brk && (appendRaw rec t.ring).2 ≠ 0 && newEpisode (c.us 0) t
  | _ => false

/-- The records that the marker of the episode has to evict for itself. -/
def evictedByMarker (t : Module) : Clock × RingCall → ℕ
  | (_, .produce rec) =>
    let r := (appendRaw rec t.ring).1
    (makeRoom (appendNeed r.hdr.writeOff kStateRecordLen) r).2
  | _ => 0

/-- A record as the producers build them, not a marker itself. -/
def PlainRecord : Clock × RingCall → Prop
  | (_, .produce rec) => IsRecord rec ∧ overrunArg rec = 0
  | _ => True

/-- The count of the marker fits into its 16 bits. -/
def CountFits (t : Module) : Clock × RingCall → Prop
  | (c, .produce rec) => opensEpisode t (c, .produce rec) = true →
    sub32 (appendRaw rec t.ring).1.hdr.dropped t.droppedReported ≤ 0xFFFF
  | _ => True

/-- The marker finds room without an eviction. -/
def MarkerFits (t : Module) (call : Clock × RingCall) : Prop :=
  opensEpisode t call = true → evictedByMarker t call = 0

/-! ### The counters -/

variable {r : Ring} {t : Module} {c : Clock} {rec : List UInt8}

theorem makeRoomPass_some {need e : ℕ} {s : Ring × ℕ} (h : makeRoomPass need (r, e) = some s) :
    s.1.hdr.dropped = r.hdr.dropped ∧ s.2 ≤ e + 1 := by
  unfold makeRoomPass at h
  dsimp only at h
  split_ifs at h
  · cases h
    exact ⟨rfl, by omega⟩
  · cases h
    exact ⟨rfl, Nat.add_le_add_left (Bool.toNat_le _) _⟩

theorem loop_makeRoomPass (need n : ℕ) (s : Ring × ℕ) :
    (loop (makeRoomPass need) n s).1.hdr.dropped = s.1.hdr.dropped ∧
      (loop (makeRoomPass need) n s).2 ≤ s.2 + n := by
  induction n generalizing s with
  | zero => exact ⟨rfl, le_rfl⟩
  | succ n ih =>
    cases h : makeRoomPass need s with
    | none =>
      rw [loop_of_none h]
      exact ⟨rfl, by omega⟩
    | some s' =>
      obtain ⟨hdropped, hle⟩ := makeRoomPass_some h
      obtain ⟨hdropped', hle'⟩ := ih s'
      rw [loop_succ_of_some h]
      exact ⟨hdropped'.trans hdropped, by omega⟩

/-- An append counts what it evicts, which is less than the area has bytes. -/
theorem appendRaw_dropped (rec : List UInt8) (h : r.hdr.dropped < 2 ^ 32) :
    (appendRaw rec r).1.hdr.dropped = (r.hdr.dropped + (appendRaw rec r).2) % 2 ^ 32 ∧
      (appendRaw rec r).2 ≤ kDataSize := by
  obtain ⟨hdropped, hle⟩ := loop_makeRoomPass (appendNeed r.hdr.writeOff rec.length) kDataSize (r, 0)
  change (makeRoom (appendNeed r.hdr.writeOff rec.length) r).1.hdr.dropped = r.hdr.dropped at hdropped
  change (makeRoom (appendNeed r.hdr.writeOff rec.length) r).2 ≤ 0 + kDataSize at hle
  rw [Nat.zero_add] at hle
  have hpublished : (appendRaw rec r).1.hdr.dropped = (publishEviction
      (makeRoom (appendNeed r.hdr.writeOff rec.length) r).2
      (makeRoom (appendNeed r.hdr.writeOff rec.length) r).1).hdr.dropped := by
    unfold appendRaw appendPublish
    dsimp only [sealHeader]
    rw [appendRecord_hdr, appendPad_hdr]
    rfl
  refine ⟨?_, hle⟩
  rw [hpublished]
  unfold publishEviction
  split_ifs with hnone
  · rw [← hdropped]
    rfl
  · rw [hdropped]
    change _ = (_ + (makeRoom (appendNeed r.hdr.writeOff rec.length) r).2) % 2 ^ 32
    rw [not_not.1 hnone, Nat.add_zero, Nat.mod_eq_of_lt h]

theorem ackRing_dropped (ackSeq : ℕ) (r : Ring) : (ackRing ackSeq r).hdr.dropped = r.hdr.dropped := by
  unfold ackRing
  split_ifs
  · rfl
  · dsimp only
    split_ifs <;> rfl

/-! ### The records -/

theorem overrunArg_stampSeq (h : 6 ≤ rec.length) (seq : ℕ) :
    overrunArg (stampSeq rec seq) = overrunArg rec := by
  have hbyte (i : ℕ) (hi : i < 2 ∨ 6 ≤ i) : (stampSeq rec seq).getD i 0 = rec.getD i 0 :=
    asMem_stampSeq h seq hi
  have htail : (stampSeq rec seq).drop 12 = rec.drop 12 := by
    have hlen : (rec.take 2 ++ toLe 4 seq).length = 6 := by
      rw [List.length_append, List.length_take, length_toLe]
      omega
    unfold stampSeq
    rw [show 12 = (rec.take 2 ++ toLe 4 seq).length + 6 by rw [hlen], List.drop_length_add_append,
      List.drop_drop, hlen]
  unfold overrunArg
  rw [hbyte 1 (by omega), hbyte 10 (by omega), hbyte 11 (by omega), htail]

theorem overrunArg_buildState (tUs : ℕ) (kind code : UInt8) {arg : ℕ} (harg : arg ≤ 0xFFFF) :
    overrunArg (buildState tUs kind code arg)
      = if kind = stRingOverrun ∧ code = kOverrunCodeEvicted then arg else 0 := by
  have htake : ((buildState tUs kind code arg).drop 12).take 2 = toLe 2 arg := rfl
  have hkind : (buildState tUs kind code arg).getD 10 0 = kind := rfl
  have hcode : (buildState tUs kind code arg).getD 11 0 = code := rfl
  have htype : (buildState tUs kind code arg).getD 1 0 = recState := rfl
  unfold overrunArg
  rw [htake, hkind, hcode, htype, ofLe_toLe_of_lt (show arg < 256 ^ 2 by omega)]
  split_ifs with h h' h'
  · rfl
  · exact absurd h.2 h'
  · exact absurd ⟨rfl, h'⟩ h
  · rfl

/-- What the producers append is no marker of an eviction episode. -/
theorem plain_producers (c : Clock) :
    (∀ tRxUs cmdByte status req, PlainRecord (c, .produce (cmdRecord tRxUs cmdByte status req))) ∧
    (∀ tUs idx pattern sdLoadUs spiUs reqAgeUs superseded flags, PlainRecord
      (c, .produce (frameRecord tUs idx pattern sdLoadUs spiUs reqAgeUs superseded flags))) ∧
    (∀ tUs counter, PlainRecord (c, .produce (synthRecord tUs counter))) ∧
    ∀ tUs kind code arg, kind ≠ stRingOverrun → arg ≤ 0xFFFF →
      PlainRecord (c, .produce (buildState tUs kind code arg)) := by
  refine ⟨fun _ _ _ _ => ⟨isRecord_cmdRecord .., rfl⟩, fun _ _ _ _ _ _ _ _ => ⟨isRecord_frameRecord .., rfl⟩,
    fun _ _ => ⟨isRecord_synthRecord .., rfl⟩, fun tUs kind code arg hkind harg => ?_⟩
  refine ⟨isRecord_buildState .., ?_⟩
  rw [overrunArg_buildState _ _ _ harg]
  exact if_neg fun h => hkind h.1

theorem length_buildState (tUs : ℕ) (kind code : UInt8) (arg : ℕ) :
    (buildState tUs kind code arg).length = kStateRecordLen := by
  simp [buildState, kStateRecordLen, kRecordHeaderLen]

theorem reported_trippedBy (c : Clock) (t : Module) : reported (trippedBy c t) = 0 := by
  unfold trippedBy
  split_ifs
  · rw [reported_cons, reported_nil, overrunArg_stampSeq (by rw [length_buildState]; decide),
      overrunArg_buildState _ _ _ (by decide)]
    rfl
  · rfl

/-! ### Calls -/

/-- Records may be evicted; none is reported. -/
def Evicts (t t' : Module) : Prop :=
  ∃ e, t'.ring.hdr.dropped = (t.ring.hdr.dropped + e) % 2 ^ 32 ∧ t'.droppedReported = t.droppedReported

theorem Evicts.refl (h : t.ring.hdr.dropped < 2 ^ 32) : Evicts t t := ⟨0, (Nat.mod_eq_of_lt h).symm, rfl⟩

theorem tripHeapGuard_evicts (c : Clock) (h : t.ring.hdr.dropped < 2 ^ 32) :
    Evicts t (tripHeapGuard c t) := by
  have hdropped := (appendRaw_dropped (buildState (c.us 0) stRingOverrun kOverrunCodeHeapCollision 0) h).1
  unfold tripHeapGuard
  dsimp only
  generalize appendRaw (buildState (c.us 0) stRingOverrun kOverrunCodeHeapCollision 0) t.ring = a
    at hdropped ⊢
  split_ifs
  · exact ⟨a.2, hdropped, rfl⟩
  · exact .refl h

/-- A producer call with the guard clear: its record is appended and, in a new episode, the marker. -/
theorem append_clear (hguard : heapTooClose c.brk = false) (rec : List UInt8) (t : Module) :
    append c rec t =
      let a := appendRaw rec t.ring
      if a.2 ≠ 0 then
        if newEpisode (c.us 0) t then
          let b := appendRaw (overrunMarker (c.us 0) t.droppedReported a.1) a.1
          { t with ring := b.1, droppedReported := b.1.hdr.dropped, evictedEver := true, lastEvictUs := c.us 0 }
        else { t with ring := a.1, evictedEver := true, lastEvictUs := c.us 0 }
      else { t with ring := a.1 } := by
  unfold append
  rw [hguard, if_neg (by decide)]
  dsimp only
  split_ifs <;> rfl

theorem ack_evicts (c : Clock) (ackSeq : ℕ) (h : t.ring.hdr.dropped < 2 ^ 32) :
    Evicts t (ack c ackSeq t) := by
  unfold ack
  split_ifs
  · exact .refl h
  · exact tripHeapGuard_evicts c h
  · exact ⟨0, by rw [ackRing_dropped, Nat.add_zero, Nat.mod_eq_of_lt h], rfl⟩

theorem peek_evicts (c : Clock) (maxBytes : ℕ) (h : t.ring.hdr.dropped < 2 ^ 32) :
    Evicts t (peek c maxBytes t).1 := by
  unfold peek
  split_ifs
  · exact .refl h
  · exact tripHeapGuard_evicts c h
  · exact .refl h

/-- A record that is appended without a marker. -/
theorem append_evicts (hno : opensEpisode t (c, .produce rec) = false)
    (h : t.ring.hdr.dropped < 2 ^ 32) : Evicts t (append c rec t) := by
  cases hguard : heapTooClose c.brk with
  | true =>
    unfold append
    rw [hguard]
    exact tripHeapGuard_evicts c h
  | false =>
    have hdropped := (appendRaw_dropped rec h).1
    unfold opensEpisode at hno
    dsimp only at hno
    rw [append_clear hguard]
    rw [hguard] at hno
    generalize appendRaw rec t.ring = a at hdropped hno
    dsimp only
    split_ifs with hevicted hepisode
    · rw [hepisode, decide_eq_true hevicted] at hno
      cases hno
    · exact ⟨a.2, hdropped, rfl⟩
    · exact ⟨a.2, hdropped, rfl⟩

/-- A call that opens no episode reports nothing. -/
theorem reported_of_no_episode {call : Clock × RingCall} (hplain : PlainRecord call)
    (hno : opensEpisode t call = false) : reported (RingCall.logged t call) = 0 := by
  obtain ⟨c, call⟩ := call
  unfold RingCall.logged
  cases call with
  | ack ackSeq | peek maxBytes =>
    dsimp only
    split_ifs
    · exact reported_trippedBy c t
    · rfl
  | produce rec =>
    dsimp only
    split_ifs with hguard
    · exact reported_trippedBy c t
    · have hone : ¬ ((appendRaw rec t.ring).2 ≠ 0 ∧ newEpisode (c.us 0) t = true) := by
        rintro ⟨hevicted, hepisode⟩
        unfold opensEpisode at hno
        dsimp only at hno
        rw [Bool.eq_false_iff.2 hguard, decide_eq_true hevicted, hepisode] at hno
        cases hno
      unfold appendedBy
      dsimp only
      rw [if_neg hone, reported_cons, reported_nil,
        overrunArg_stampSeq (Nat.le_trans (by decide) hplain.1.length_ge)]
      exact hplain.2

theorem step_of_no_episode {call : Clock × RingCall} (hplain : PlainRecord call)
    (hno : opensEpisode t call = false) (h : t.ring.hdr.dropped < 2 ^ 32) :
    reported (RingCall.logged t call) = 0 ∧ Evicts t (RingCall.step t call) := by
  refine ⟨reported_of_no_episode hplain hno, ?_⟩
  obtain ⟨c, call⟩ := call
  cases call with
  | produce rec => exact append_evicts hno h
  | ack ackSeq => exact ack_evicts c ackSeq h
  | peek maxBytes => exact peek_evicts c maxBytes h

/-- A call that opens an episode reports what waits, and takes what its marker evicts for reported. -/
theorem step_of_episode {call : Clock × RingCall} (hplain : PlainRecord call)
    (hfits : CountFits t call) (hopens : opensEpisode t call = true)
    (h : t.ring.hdr.dropped < 2 ^ 32) : ∃ e,
      reported (RingCall.logged t call)
        = sub32 ((t.ring.hdr.dropped + e) % 2 ^ 32) t.droppedReported ∧
      (RingCall.step t call).ring.hdr.dropped
        = ((t.ring.hdr.dropped + e) % 2 ^ 32 + evictedByMarker t call) % 2 ^ 32 ∧
      (RingCall.step t call).droppedReported = (RingCall.step t call).ring.hdr.dropped ∧
      evictedByMarker t call ≤ kDataSize := by
  obtain ⟨c, call⟩ := call
  cases call with
  | ack ackSeq => cases hopens
  | peek maxBytes => cases hopens
  | produce rec =>
    have hcount : sub32 (appendRaw rec t.ring).1.hdr.dropped t.droppedReported ≤ 0xFFFF := hfits hopens
    unfold opensEpisode at hopens
    dsimp only at hopens
    rw [Bool.and_eq_true, Bool.and_eq_true, Bool.not_eq_true', decide_eq_true_iff] at hopens
    obtain ⟨⟨hguard, hevicted⟩, hepisode⟩ := hopens
    obtain ⟨hdropped, -⟩ := appendRaw_dropped rec h
    have hlen : (overrunMarker (c.us 0) t.droppedReported (appendRaw rec t.ring).1).length
        = kStateRecordLen := length_buildState ..
    have harg : overrunArg (overrunMarker (c.us 0) t.droppedReported (appendRaw rec t.ring).1)
        = sub32 (appendRaw rec t.ring).1.hdr.dropped t.droppedReported := by
      unfold overrunMarker
      rw [Nat.min_eq_left hcount, overrunArg_buildState _ _ _ hcount]
      exact if_pos ⟨rfl, rfl⟩
    obtain ⟨hdropped', hle⟩ := appendRaw_dropped (r := (appendRaw rec t.ring).1)
      (overrunMarker (c.us 0) t.droppedReported (appendRaw rec t.ring).1)
      (by rw [hdropped]; exact Nat.mod_lt _ (by decide))
    have hmarker : (appendRaw (overrunMarker (c.us 0) t.droppedReported (appendRaw rec t.ring).1)
        (appendRaw rec t.ring).1).2 = evictedByMarker t (c, .produce rec) := by
      unfold evictedByMarker
      dsimp only
      rw [← hlen]
      rfl
    rw [hmarker, hdropped] at hdropped'
    rw [hmarker] at hle
    refine ⟨(appendRaw rec t.ring).2, ?_, ?_, ?_, hle⟩
    · unfold RingCall.logged appendedBy
      dsimp only
      rw [hguard]
      rw [if_neg (by decide), if_pos ⟨hevicted, hepisode⟩, reported_cons, reported_cons, reported_nil,
        overrunArg_stampSeq (Nat.le_trans (by decide) hplain.1.length_ge),
        overrunArg_stampSeq (by rw [hlen]; decide), harg, hplain.2, hdropped, Nat.zero_add, Nat.add_zero]
    all_goals
      unfold RingCall.step
      dsimp only
      rw [append_clear hguard]
      dsimp only
      rw [if_pos hevicted, if_pos hepisode]
    exact hdropped'

/-! ### Runs -/

/-- The counters of a module have 32 bits. -/
def Bounded (t : Module) : Prop := t.ring.hdr.dropped < 2 ^ 32 ∧ t.droppedReported < 2 ^ 32

/-- What is taken for reported is what the markers say. -/
def Balanced (dropped₀ : ℕ) (s : Audited) : Prop :=
  (reported s.log + dropped₀) % 2 ^ 32 = s.module.droppedReported

theorem accounted_iff {dropped₀ : ℕ} {s : Audited} (h₀ : dropped₀ < 2 ^ 32) (h : Bounded s.module) :
    Accounted dropped₀ s ↔ Balanced dropped₀ s := by
  obtain ⟨hdropped, hreported⟩ := h
  unfold Accounted Balanced sub32
  omega

theorem Bounded.step (h : Bounded t) {call : Clock × RingCall} (hplain : PlainRecord call)
    (hfits : CountFits t call) : Bounded (RingCall.step t call) := by
  have hmod (n : ℕ) : n % 2 ^ 32 < 2 ^ 32 := Nat.mod_lt _ (by decide)
  cases hopens : opensEpisode t call with
  | false =>
    obtain ⟨-, e, hcount, hkept⟩ := step_of_no_episode hplain hopens h.1
    rw [Bounded, hcount, hkept]
    exact ⟨hmod _, h.2⟩
  | true =>
    obtain ⟨e, -, hcount, htaken, -⟩ := step_of_episode hplain hfits hopens h.1
    rw [Bounded, htaken, hcount]
    exact ⟨hmod _, hmod _⟩

/-- **One call** keeps the balance just when its marker evicts nothing for itself. -/
theorem Balanced.step {dropped₀ : ℕ} {s : Audited} (h : Balanced dropped₀ s)
    (hbounds : Bounded s.module) {call : Clock × RingCall} (hplain : PlainRecord call)
    (hfits : CountFits s.module call) :
    Balanced dropped₀ (s.step call) ↔ MarkerFits s.module call := by
  have hreported := hbounds.2
  unfold Balanced at h
  change (reported (s.log ++ RingCall.logged s.module call) + dropped₀) % 2 ^ 32
    = (RingCall.step s.module call).droppedReported ↔ _
  rw [reported_append]
  cases hopens : opensEpisode s.module call with
  | false =>
    obtain ⟨hnone, e, hcount, hkept⟩ := step_of_no_episode hplain hopens hbounds.1
    rw [hnone, hkept]
    exact iff_of_true h fun hopen => absurd hopen (by rw [hopens]; decide)
  | true =>
    obtain ⟨e, hreports, hcount, htaken, hle⟩ := step_of_episode hplain hfits hopens hbounds.1
    have hsize : kDataSize = 65504 := kDataSize_eq
    unfold MarkerFits
    rw [hreports, htaken, hcount, hopens]
    unfold sub32
    constructor
    · rintro hbalance -
      omega
    · intro hmarker
      have hnone := hmarker rfl
      omega

theorem along_accounted {dropped₀ : ℕ} (h₀ : dropped₀ < 2 ^ 32) {s : Audited}
    (h : Balanced dropped₀ s) (hbounds : Bounded s.module) {calls : List (Clock × RingCall)}
    (hcalls : Along Audited.step (fun s call => PlainRecord call ∧ CountFits s.module call) s calls) :
    Along Audited.step (fun s call => Accounted dropped₀ (s.step call)) s calls ↔
      Along Audited.step (fun s call => MarkerFits s.module call) s calls := by
  induction calls generalizing s with
  | nil => exact Iff.rfl
  | cons call calls ih =>
    obtain ⟨⟨hplain, hfits⟩, hcalls⟩ := hcalls
    have hbounds' := hbounds.step hplain hfits
    have hstep := h.step hbounds hplain hfits
    have hiff := (accounted_iff (s := s.step call) h₀ hbounds').trans hstep
    constructor
    · rintro ⟨haccounted, hrest⟩
      have hmarker := hiff.1 haccounted
      exact ⟨hmarker, (ih (hstep.2 hmarker) hbounds' hcalls).1 hrest⟩
    · rintro ⟨hmarker, hrest⟩
      exact ⟨hiff.2 hmarker, (ih (hstep.2 hmarker) hbounds' hcalls).2 hrest⟩

/-- **The markers account for every eviction just when none of them evicts a record for itself.**
The run begins with `begin`, its own records among the appends. -/
theorem overrun_accounting (mem : Ring) (hmem : (beginRing mem).1.hdr.dropped < 2 ^ 32)
    (calls : List (Clock × RingCall))
    (hcalls : Along Audited.step (fun s call => PlainRecord call ∧ CountFits s.module call)
      ⟨begun mem, []⟩ calls) :
    Along Audited.step (fun s call => Accounted (beginRing mem).1.hdr.dropped (s.step call))
        ⟨begun mem, []⟩ calls ↔
      Along Audited.step (fun s call => MarkerFits s.module call) ⟨begun mem, []⟩ calls := by
  refine along_accounted hmem ?_ ⟨hmem, hmem⟩ hcalls
  unfold Balanced
  rw [reported_nil, Nat.zero_add, Nat.mod_eq_of_lt hmem]
  rfl

/-- A ring full of `FRAME` records, ten bytes short of the end of its area. -/
def fullRing : Ring where
  hdr := sealHeader {
    magic := kMagic
    ver := kVersion
    flags := kFlagEventsEnabled
    reserved := 0
    writeOff := 65494
    readOff := 0
    nextSeq := 2520
    dropped := 0
    bootCount := 0
    checksum := 0 }
  data i := if i % 26 = 0 then 26 else if i % 26 = 1 then recFrame else 0

/-- A record evicts two, and the marker that reports them has room. -/
def framedCall : Clock × RingCall := (quietClock, .produce (frameRecord 0 0 0 0 0 0 0 0))

set_option maxRecDepth 100000 in
theorem overrun_accounting_frame :
    Along Audited.step (fun s call => Accounted (beginRing fullRing).1.hdr.dropped (s.step call))
        ⟨begun fullRing, []⟩ [framedCall] ↔
      Along Audited.step (fun s call => MarkerFits s.module call) ⟨begun fullRing, []⟩ [framedCall] :=
  overrun_accounting fullRing (by decide +kernel) [framedCall]
    ⟨⟨⟨isRecord_frameRecord .., by decide⟩, fun _ => by decide +kernel⟩, trivial⟩

/-- A shorter record evicts one, and the marker that reports it evicts another. -/
def statedCall : Clock × RingCall := (quietClock, .produce (buildState 0 stBoot 0 0))

set_option maxRecDepth 100000 in
theorem overrun_unreported :
    Along Audited.step (fun s call => PlainRecord call ∧ CountFits s.module call)
        ⟨begun fullRing, []⟩ [statedCall] ∧
      ¬ Along Audited.step (fun s call => Accounted (beginRing fullRing).1.hdr.dropped (s.step call))
        ⟨begun fullRing, []⟩ [statedCall] := by
  refine ⟨⟨⟨⟨isRecord_buildState .., by decide⟩, fun _ => by decide +kernel⟩, trivial⟩, ?_⟩
  rintro ⟨haccounted, -⟩
  unfold Accounted at haccounted
  revert haccounted
  decide +kernel

end Telemetry
end G6Arena
