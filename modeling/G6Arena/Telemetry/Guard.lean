/-
# The heap guard

`malloc` can grow into the ring, so `begin()`, every producer, `ack`, `peek`, `configure` and
`service` compare the heap break with the ring before they touch it.  A call that finds the
break within `kHeapGuardBytes` of the ring trips the guard: it leaves one
`STATE(ring_overrun)` while the ring is intact, and gives the ring up until the next boot
(`heap_guard`).

That nothing reads a ring is said by what a call does not depend on: over any other ring the
module moves in the same way and gives the same answer.
-/

import G6Arena.Telemetry.Reach

namespace G6Arena
namespace Telemetry

open Machine

/-! ### Every call of the module -/

/-- The views of the module's state. -/
inductive Getter
  | enabled
  | syntheticOn
  | ringOk
  | heapCollision
  | keptAcrossReset
  | blockFlags
  | dropped
  | bootCount
  | nextSeq
  | pendingBytes

def Getter.read (t : Module) : Getter → ℕ
  | .enabled => t.enabled.toNat
  | .syntheticOn => t.synthOn.toNat
  | .ringOk => t.ringOk.toNat
  | .heapCollision => t.heapCollision.toNat
  | .keptAcrossReset => t.kept.toNat
  | .blockFlags => (Telemetry.blockFlags t).toNat
  | .dropped => Telemetry.dropped t
  | .bootCount => Telemetry.bootCount t
  | .nextSeq => Telemetry.nextSeq t
  | .pendingBytes => Telemetry.pendingBytes t

/-- A call of the module: `begin`, of this boot or the next, and those after it. -/
inductive ApiCall
  | begin (hs : BootHealth)
  | after (call : Call)
  | get (getter : Getter)

/-- What a call gives back. -/
inductive Answer
  | done
  | number (n : ℕ)
  | block (bytes : List UInt8) (info : BlockInfo)

namespace ApiCall

def step (t : Module) : Clock × ApiCall → Module
  | (c, .begin hs) => Telemetry.begin c hs t.ring
  | (c, .after call) => Call.step t (c, call)
  | (_, .get _) => t

def answer (t : Module) : Clock × ApiCall → Answer
  | (c, .after (.peek maxBytes)) => .block (peek c maxBytes t).2.1 (peek c maxBytes t).2.2
  | (_, .get getter) => .number (getter.read t)
  | _ => .done

def isBegin : ApiCall → Bool
  | .begin _ => true
  | _ => false

/-- Does the call come to its test of the heap guard?  It stands behind `enabled_` in the
producers, and behind `ring_ok_` in the others. -/
def checks (t : Module) : ApiCall → Bool
  | .begin _ => true
  | .after (.cmd ..) | .after (.frame ..) | .after (.state ..) => t.enabled
  | .after .service | .after (.configure ..) | .after (.peek _) => t.ringOk
  | .after (.ack ackSeq) => t.ringOk && ackSeq ≠ 0xFFFFFFFF
  | .get _ => false

end ApiCall

/-! ### The trip -/

/-- A ring that took the marker of the trip, or nothing. -/
def Marked (c : Clock) (r r' : Ring) : Prop :=
  r' = r ∨ (c.brk < kRingBase ∧ ∃ tUs flags, r' = writeFlags flags
    (appendRaw (buildState tUs stRingOverrun kOverrunCodeHeapCollision 0) r).1)

/-- The ring is given up for this boot. -/
structure Tripped (t : Module) : Prop where
  collision : t.heapCollision = true
  enabled : t.enabled = false
  synthOn : t.synthOn = false
  ringOk : t.ringOk = false

theorem Tripped.withRing {t : Module} (h : Tripped t) (ring : Ring) :
    Tripped { t with ring := ring } :=
  ⟨h.collision, h.enabled, h.synthOn, h.ringOk⟩

/-- What a call does that finds the heap too close. -/
structure Trips (c : Clock) (t t' : Module) : Prop where
  ring : Marked c t.ring t'.ring
  tripped : Tripped t'

theorem tripHeapGuard_trips (c : Clock) (t : Module) : Trips c t (tripHeapGuard c t) := by
  unfold tripHeapGuard
  dsimp only
  split_ifs with hbrk
  · exact ⟨.inr ⟨hbrk, _, _, rfl⟩, rfl, rfl, rfl, rfl⟩
  · exact ⟨.inl rfl, rfl, rfl, rfl, rfl⟩

section

variable {c : Clock} {t : Module}

/-- A producer's tail trips the guard first. -/
theorem append_trips (h : heapTooClose c.brk = true) (rec : List UInt8) :
    Trips c t (append c rec t) := by
  unfold append
  rw [if_pos h]
  exact tripHeapGuard_trips c t

/-- Where events are still recorded, the guard has not tripped. -/
theorem append_enabled {rec : List UInt8} (h : (append c rec t).enabled = true) :
    heapTooClose c.brk = false ∧ t.enabled = true := by
  rcases Bool.eq_false_or_eq_true (heapTooClose c.brk) with hclose | hclear
  · rw [(append_trips hclose rec).tripped.enabled] at h
    cases h
  · refine ⟨hclear, ?_⟩
    unfold append at h
    rw [if_neg (by rw [hclear]; nofun)] at h
    dsimp only at h
    split_ifs at h <;> exact h

theorem state_enabled {kind code : UInt8} {arg : ℕ} (h : (state c kind code arg t).enabled = true) :
    t.enabled = true := by
  unfold state at h
  split_ifs at h with hoff
  · exact h
  · exact (append_enabled h).2

theorem begin_trips (h : heapTooClose c.brk = true) (hs : BootHealth) :
    Trips c t (begin c hs t.ring) := by
  unfold begin
  dsimp only
  rw [if_pos h]
  exact ⟨.inl rfl, rfl, rfl, rfl, rfl⟩

/-- The clock of a nested call has the heap break of the outer one. -/
theorem Trips.of_after {k : ℕ} {t' : Module} (h : Trips (c.after k) t t') : Trips c t t' :=
  ⟨h.ring, h.tripped⟩

/-- **A call that finds the heap too close trips the guard**, if it comes to the test. -/
theorem ApiCall.step_trips (h : heapTooClose c.brk = true) {api : ApiCall}
    (hchecks : api.checks t = true) : Trips c t (ApiCall.step t (c, api)) := by
  cases api with
  | begin hs => exact begin_trips h hs
  | get getter => cases hchecks
  | after call =>
    cases call with
    | cmd tRxUs cmdByte status req =>
      change Trips c t (cmd c tRxUs cmdByte status req t)
      rw [cmd, show t.enabled = true from hchecks]
      exact append_trips h _
    | frame tUs idx pattern sdLoadUs spiUs reqAgeUs superseded flags =>
      change Trips c t (frame c tUs idx pattern sdLoadUs spiUs reqAgeUs superseded flags t)
      rw [frame, show t.enabled = true from hchecks]
      exact append_trips h _
    | state kind code arg =>
      change Trips c t (state c kind code arg t)
      rw [state, show t.enabled = true from hchecks]
      exact (append_trips (c := c.after 1) h _).of_after
    | service =>
      change Trips c t (service c t)
      rw [service, show t.ringOk = true from hchecks, if_pos h]
      exact tripHeapGuard_trips c t
    | configure flags rateHz =>
      change Trips c t (configure c flags rateHz t)
      rw [configure, show t.ringOk = true from hchecks, if_pos h]
      exact tripHeapGuard_trips c t
    | ack ackSeq =>
      obtain ⟨hok, hseq⟩ := Bool.and_eq_true .. ▸ hchecks
      change Trips c t (ack c ackSeq t)
      rw [ack, hok, if_neg (by simpa using hseq), if_pos h]
      exact tripHeapGuard_trips c t
    | peek maxBytes =>
      change Trips c t (peek c maxBytes t).1
      rw [peek, show t.ringOk = true from hchecks, if_pos h]
      exact tripHeapGuard_trips c t

/-- A call that does not come to the test does nothing. -/
theorem ApiCall.step_unchecked {api : ApiCall} (hchecks : api.checks t = false) :
    ApiCall.step t (c, api) = t := by
  cases api with
  | begin hs => cases hchecks
  | get getter => rfl
  | after call =>
    cases call with
    | cmd =>
      change cmd .. = t
      rw [cmd, show t.enabled = false from hchecks]
      rfl
    | frame =>
      change frame .. = t
      rw [frame, show t.enabled = false from hchecks]
      rfl
    | state =>
      change state .. = t
      rw [state, show t.enabled = false from hchecks]
      rfl
    | service =>
      change service c t = t
      rw [service, show t.ringOk = false from hchecks]
      rfl
    | configure =>
      change configure .. = t
      rw [configure, show t.ringOk = false from hchecks]
      rfl
    | ack ackSeq =>
      change ack c ackSeq t = t
      rw [ack, if_pos]
      rcases Bool.and_eq_false_iff.1 hchecks with hok | hseq
      · rw [hok]
        rfl
      · rw [Bool.or_eq_true]
        exact .inr (by simpa using hseq)
    | peek =>
      change (peek ..).1 = t
      rw [peek, show t.ringOk = false from hchecks]
      rfl

/-! ### After the trip -/

/-- No call but `begin` comes to the test again. -/
theorem Tripped.unchecked (h : Tripped t) {api : ApiCall} (hbegin : api.isBegin = false) :
    api.checks t = false := by
  cases api with
  | begin hs => cases hbegin
  | get getter => rfl
  | after call =>
    cases call with
    | cmd => exact h.enabled
    | frame => exact h.enabled
    | state => exact h.enabled
    | service => exact h.ringOk
    | configure => exact h.ringOk
    | ack ackSeq =>
      change (t.ringOk && _) = false
      rw [h.ringOk, Bool.false_and]
    | peek => exact h.ringOk

theorem Tripped.run (h : Tripped t) {later : List (Clock × ApiCall)}
    (hlater : ∀ i ∈ later, i.2.isBegin = false) : Machine.run ApiCall.step t later = t := by
  refine run_inv (I := fun t' => t' = t) (C := fun _ i => i.2.isBegin = false) ?_ rfl
    (along_of_forall (fun _ i hi => hlater i hi) t)
  rintro _ ⟨c, api⟩ rfl hbegin
  exact ApiCall.step_unchecked (h.unchecked hbegin)

/-- What a call answers does not depend on the ring. -/
theorem Tripped.answer (h : Tripped t) (ring : Ring) (i : Clock × ApiCall) :
    ApiCall.answer { t with ring := ring } i = ApiCall.answer t i := by
  obtain ⟨c, api⟩ := i
  cases api with
  | begin hs => rfl
  | get getter =>
    change Answer.number _ = Answer.number _
    congr 1
    cases getter <;> simp only [Getter.read, blockFlags, dropped, bootCount, nextSeq,
      pendingBytes, h.ringOk, Bool.false_and, Bool.false_eq_true, if_false]
  | after call =>
    cases call with
    | peek maxBytes =>
      change Answer.block _ _ = Answer.block _ _
      simp only [peek, h.ringOk, Bool.not_false, if_true]
    | _ => rfl

end

/-! ### The guard -/

theorem heapTooClose_of_le {brk : ℕ} (h : kRingBase ≤ brk) : heapTooClose brk = true :=
  decide_eq_true ((Nat.sub_le ..).trans h)

/-- **Heap guard.**  After any calls of the module, each with a heap break of its own:

* a call that finds the break inside the ring leaves the ring as it is;
* a call that finds it too close and does not come to its test changes nothing;
* one that does come to it appends the one `ring_overrun` marker at most, and from then until
  the next `begin` the calls neither write the ring nor depend on it. -/
theorem heap_guard (mem : Ring) (calls : List (Clock × ApiCall)) (c : Clock) (api : ApiCall) :
    let t := run ApiCall.step (powerUp mem) calls
    let t' := ApiCall.step t (c, api)
    (kRingBase ≤ c.brk → t'.ring = t.ring) ∧
    (heapTooClose c.brk = true → api.checks t = false → t' = t) ∧
    (heapTooClose c.brk = true → api.checks t = true → Marked c t.ring t'.ring ∧
      ∀ later : List (Clock × ApiCall), (∀ i ∈ later, i.2.isBegin = false) → ∀ ring i,
        run ApiCall.step { t' with ring := ring } later = { t' with ring := ring } ∧
        ApiCall.answer { t' with ring := ring } i = ApiCall.answer t' i) := by
  intro t t'
  refine ⟨fun hbrk => ?_, fun _ hchecks => ApiCall.step_unchecked hchecks, fun h hchecks => ?_⟩
  · cases hchecks : api.checks t with
    | false => exact congrArg Module.ring (ApiCall.step_unchecked hchecks)
    | true =>
      rcases (ApiCall.step_trips (heapTooClose_of_le hbrk) hchecks).ring with hring | ⟨hlt, -⟩
      · exact hring
      · exact absurd hbrk (Nat.not_le.2 hlt)
  · have htrips := ApiCall.step_trips h hchecks
    refine ⟨htrips.ring, fun later hlater ring i => ⟨?_, htrips.tripped.answer ring i⟩⟩
    exact (htrips.tripped.withRing ring).run hlater

/-- A boot on an empty ring, with nothing kept of the one before. -/
def firstBoot : Clock × ApiCall := (quietClock, .begin {
  resetCause := 0
  wdog3Reset := false
  prevLastOp := 0
  prevValid := false
  prevIsrValid := false
  prevWdogFired := false
  prevWdogXpsr := 0
  prevWdogPrevIsr := 0
  prevWdogExcret := 0
  prevIsrCnt := fun _ => 0 })

/-- A heap that has come within the guard of the ring. -/
def closeClock : Clock := { quietClock with brk := kRingBase - 1 }

/-- `service` trips the guard after a boot, and a producer finds the ring given up. -/
theorem heap_guard_service :
    let t := run ApiCall.step (powerUp (initRing fun _ => 0)) [firstBoot]
    let t' := ApiCall.step t (closeClock, .after .service)
    Marked closeClock t.ring t'.ring ∧
      run ApiCall.step t' [(quietClock, .after (.state stTelemetry 0 0))] = t' := by
  have h := (heap_guard (initRing fun _ => 0) [firstBoot] closeClock (.after .service)).2.2
    (by decide) (by decide +kernel)
  exact ⟨h.1, (h.2 _ (by decide) _ (quietClock, .get .dropped)).1⟩

end Telemetry
end G6Arena
