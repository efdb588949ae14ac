/-
# The record over nested interrupts

A boot calls the hooks in pairs: a handler enters with its id and exits with the id its entry
returned, and handlers nest (`Hook`, `step`).  Each hook runs with interrupts masked, so a
run is a list of them; a cache line may be written back between any two.

The abstract machine is the stack of the active ids and the list of all entries (`Active`).
The record follows it, under both of its checksums (`Tracks`).
-/

import G6Arena.Health.Record
import G6Arena.Lib.Machine

namespace G6Arena
namespace Health

open Machine

/-! ### Runs -/

inductive Hook
  /-- `isrEnter`, or `isrEnterLite` -/
  | enter (lite : Bool) (id : UInt8)
  /-- the exit of the innermost entry, of its kind -/
  | exit
  | writeBack (line : Line)
  deriving DecidableEq

/-- The record, and the entries that have not exited: their kind and the id they returned. -/
structure State where
  ocram : Ocram
  opened : List (Bool × UInt8)

def enter (lite : Bool) (id : UInt8) (o : Ocram) : Ocram × UInt8 :=
  if lite then isrEnterLite id o else isrEnter id o

def exit (lite : Bool) (prev : UInt8) (o : Ocram) : Ocram :=
  if lite then isrExitLite prev o else isrExit prev o

/-- One hook; without an entry there is no exit. -/
def step (s : State) : Hook → State
  | .enter lite id =>
    { ocram := (enter lite id s.ocram).1, opened := (lite, (enter lite id s.ocram).2) :: s.opened }
  | .exit =>
    match s.opened with
    | [] => s
    | (lite, prev) :: rest => { ocram := exit lite prev s.ocram, opened := rest }
  | .writeBack line => { s with ocram := s.ocram.writeBack line }

/-- Hooks that exit all they enter. -/
inductive Balanced : List Hook → Prop
  | nil : Balanced []
  | writeBack (line : Line) {hs : List Hook} : Balanced hs → Balanced (.writeBack line :: hs)
  | nest (lite : Bool) (id : UInt8) {inner rest : List Hook} : Balanced inner → Balanced rest →
      Balanced (.enter lite id :: inner ++ .exit :: rest)

/-! ### The abstract machine -/

/-- The ids that are active, the innermost first, and all that were entered, the last first. -/
structure Active where
  stack : List UInt8
  entered : List UInt8

def Active.none : Active := ⟨[], []⟩

/-- The id that is active. -/
def Active.current (a : Active) : UInt8 := a.stack.headD isrNone

def Active.step (a : Active) : Hook → Active
  | .enter _ id => ⟨id :: a.stack, id :: a.entered⟩
  | .exit => { a with stack := a.stack.tail }
  | .writeBack _ => a

/-! ### Checksums -/

/-- Both checksums hold. -/
structure Sealed (r : IsrRecord) : Prop where
  check0 : r.check0 = computeIsrCheck0 r
  checkAll : r.checkAll = computeIsrCheckAll r

theorem sealIsr_sealed (o : Ocram) : Sealed (sealIsr o).cached := ⟨rfl, rfl⟩

/-- The context of a record whose `isr_last` is another. -/
theorem context_isrLast (r : IsrRecord) (isrLast : UInt8) :
    IsrRecord.context { r with isrLast := isrLast }
      = r.context.set 1 (IsrRecord.packed isrLast r.wdogFired r.wdogPrevIsr r.pad) := rfl

theorem xorSum_context_isrLast (r : IsrRecord) (isrLast : UInt8) :
    xorSum (IsrRecord.context { r with isrLast := isrLast })
      = xorSum r.context ^^^ lastDelta r isrLast := by
  rw [context_isrLast]
  exact xorSum_set (by change 1 < 7; decide) _

theorem xorSum_counts (r : IsrRecord) : xorSum r.counts
    = xorSum r.cnt.toList ^^^ (r.isrCount ^^^ xorSum r.reserved.toList) := xorSum_append ..

theorem xorSum_cnt (cnt : Vector UInt32 isrIdCount) {i : ℕ} (h : i < isrIdCount) (w : UInt32) :
    xorSum (cnt.set i w).toList = xorSum cnt.toList ^^^ (cnt[i] ^^^ w) := by
  rw [Vector.toList_set, xorSum_set (by rwa [Vector.length_toList]), Vector.getElem_toList]

/-- The counts after an entry. -/
theorem xorSum_counts_entry (r : IsrRecord) (id isrLast : UInt8) :
    xorSum (countEntry id { r with isrLast := isrLast, isrCount := r.isrCount + 1 }).counts
      = xorSum r.counts ^^^ (r.isrCount ^^^ (r.isrCount + 1)) ^^^ countDelta r id := by
  have hcount (cnt : Vector UInt32 isrIdCount) : xorSum (IsrRecord.counts
      { r with isrLast := isrLast, isrCount := r.isrCount + 1, cnt := cnt })
        = xorSum cnt.toList ^^^ (r.isrCount + 1 ^^^ xorSum r.reserved.toList) := xorSum_counts _
  -- the old number of entries is met twice
  have htwice : r.isrCount ^^^ xorSum r.reserved.toList ^^^ (r.isrCount ^^^ (r.isrCount + 1))
      = r.isrCount + 1 ^^^ xorSum r.reserved.toList := by
    rw [UInt32.xor_comm r.isrCount (xorSum _), UInt32.xor_assoc, ← UInt32.xor_assoc r.isrCount,
      UInt32.xor_self, UInt32.zero_xor, UInt32.xor_comm]
  unfold countEntry countDelta
  split_ifs with h
  · refine (hcount _).trans ?_
    rw [xorSum_cnt _ h, xorSum_counts, ← htwice]
    ac_rfl
  · rw [UInt32.xor_zero]
    refine (hcount r.cnt).trans ?_
    rw [xorSum_counts, ← htwice]
    ac_rfl

/-- A count of an entry leaves the context and the checksums. -/
theorem countEntry_kept (id : UInt8) (r : IsrRecord) : (countEntry id r).context = r.context ∧
    (countEntry id r).check0 = r.check0 ∧ (countEntry id r).checkAll = r.checkAll := by
  unfold countEntry
  split_ifs <;> exact ⟨rfl, rfl, rfl⟩

/-- **The deltas of an entry.** -/
theorem isrEnterLite_sealed {o : Ocram} (h : Sealed o.cached) (id : UInt8) :
    Sealed (isrEnterLite id o).1.cached := by
  obtain ⟨hcontext, hcheck0, hcheckAll⟩ :=
    countEntry_kept id { o.cached with isrLast := id, isrCount := o.cached.isrCount + 1 }
  have hcontext := (congrArg xorSum hcontext).trans (xorSum_context_isrLast o.cached id)
  have hcounts := xorSum_counts_entry o.cached id id
  refine ⟨(congrArg (· ^^^ _) (hcheck0.trans h.check0)).trans ?_,
    (congrArg (· ^^^ _) (hcheckAll.trans h.checkAll)).trans ?_⟩
  · rw [computeIsrCheck0, UInt32.not_xor]
    exact congrArg (~~~ ·) hcontext.symm
  · rw [computeIsrCheckAll, UInt32.not_xor]
    refine congrArg (~~~ ·) (Eq.trans ?_ (xorSum_append ..).symm)
    refine Eq.trans ?_ (congrArg₂ (· ^^^ ·) hcontext.symm hcounts.symm)
    rw [xorSum_append]
    ac_rfl

/-- **The delta of an exit.** -/
theorem isrExitLite_sealed {o : Ocram} (h : Sealed o.cached) (prev : UInt8) :
    Sealed (isrExitLite prev o).cached := by
  have hcontext := xorSum_context_isrLast o.cached prev
  refine ⟨(congrArg (· ^^^ _) h.check0).trans ?_, (congrArg (· ^^^ _) h.checkAll).trans ?_⟩
  · rw [computeIsrCheck0, UInt32.not_xor]
    exact congrArg (~~~ ·) hcontext.symm
  · rw [computeIsrCheckAll, UInt32.not_xor]
    refine congrArg (~~~ ·) (Eq.trans ?_ (xorSum_append ..).symm)
    refine Eq.trans ?_ (congrArg (· ^^^ xorSum o.cached.counts) hcontext.symm)
    rw [xorSum_append]
    ac_rfl

/-! ### What the hooks do -/

/-- An entry of an id, by either hook. -/
structure Entered (id : UInt8) (r r' : IsrRecord) : Prop where
  magic : r'.magic = r.magic
  isrLast : r'.isrLast = id
  isrCount : r'.isrCount = r.isrCount + 1
  cnt : r'.cnt = (countEntry id r).cnt
  checks : Sealed r'

/-- An exit to an id, by either hook. -/
structure Exited (prev : UInt8) (r r' : IsrRecord) : Prop where
  magic : r'.magic = r.magic
  isrLast : r'.isrLast = prev
  isrCount : r'.isrCount = r.isrCount
  cnt : r'.cnt = r.cnt
  checks : Sealed r'

/-- A count changes its counter, whatever else has changed. -/
theorem countEntry_entered (id : UInt8) (r : IsrRecord) :
    let r' := countEntry id { r with isrLast := id, isrCount := r.isrCount + 1 }
    r'.magic = r.magic ∧ r'.isrLast = id ∧ r'.isrCount = r.isrCount + 1 ∧
      r'.cnt = (countEntry id r).cnt := by
  unfold countEntry
  dsimp only
  split_ifs <;> exact ⟨rfl, rfl, rfl, rfl⟩

theorem enter_entered {o : Ocram} (h : Sealed o.cached) (lite : Bool) (id : UInt8) :
    Entered id o.cached (enter lite id o).1.cached ∧ (enter lite id o).2 = o.cached.isrLast := by
  obtain ⟨hmagic, hlast, hcount, hcnt⟩ := countEntry_entered id o.cached
  cases lite with
  | true => exact ⟨⟨hmagic, hlast, hcount, hcnt, isrEnterLite_sealed h id⟩, rfl⟩
  | false => exact ⟨⟨hmagic, hlast, hcount, hcnt, sealIsr_sealed _⟩, rfl⟩

theorem exit_exited {o : Ocram} (h : Sealed o.cached) (lite : Bool) (prev : UInt8) :
    Exited prev o.cached (exit lite prev o).cached := by
  cases lite with
  | true => exact ⟨rfl, rfl, rfl, rfl, isrExitLite_sealed h prev⟩
  | false => exact ⟨rfl, rfl, rfl, rfl, rfl, rfl⟩

/-! ### The record follows the nesting -/

/-- The record of a nesting. -/
structure Tracks (a : Active) (s : State) : Prop where
  magic : s.ocram.cached.magic = kIsrMagic
  checks : Sealed s.ocram.cached
  /-- the id in the record, and those the open entries returned -/
  ids : s.ocram.cached.isrLast :: s.opened.map Prod.snd = a.stack ++ [isrNone]
  isrCount : s.ocram.cached.isrCount = UInt32.ofNat a.entered.length
  cnt : ∀ id : UInt8, ∀ h : id.toNat < isrIdCount,
    s.ocram.cached.cnt[id.toNat] = UInt32.ofNat (a.entered.count id)

theorem Tracks.current {a : Active} {s : State} (h : Tracks a s) :
    s.ocram.cached.isrLast = a.current := by
  have hids := h.ids
  unfold Active.current
  cases hstack : a.stack with
  | nil =>
    rw [hstack] at hids
    exact (List.cons.inj hids).1
  | cons id rest =>
    rw [hstack] at hids
    exact (List.cons.inj hids).1

/-- The counters after an entry. -/
theorem countEntry_cnt {r : IsrRecord} {ids : List UInt8} (id : UInt8)
    (h : ∀ id' : UInt8, ∀ hlt : id'.toNat < isrIdCount,
      r.cnt[id'.toNat] = UInt32.ofNat (ids.count id'))
    (id' : UInt8) (hlt : id'.toNat < isrIdCount) :
    (countEntry id r).cnt[id'.toNat] = UInt32.ofNat ((id :: ids).count id') := by
  unfold countEntry
  by_cases heq : id = id'
  · subst heq
    rw [dif_pos hlt, List.count_cons_self, UInt32.ofNat_add]
    simp only [Vector.getElem_set_self, h id hlt]
    rfl
  · rw [List.count_cons_of_ne heq]
    split_ifs with hid
    · rw [Vector.getElem_set_ne _ _ (fun hsame => heq (UInt8.toNat_inj.1 hsame))]
      exact h id' hlt
    · exact h id' hlt

/-- **One hook.** -/
theorem step_tracks {a : Active} {s : State} (h : Tracks a s) (hook : Hook) :
    Tracks (a.step hook) (step s hook) := by
  cases hook with
  | enter lite id =>
    obtain ⟨hentered, hprev⟩ := enter_entered h.checks lite id
    refine ⟨hentered.magic.trans h.magic, hentered.checks, ?_, ?_, ?_⟩
    · change (enter lite id s.ocram).1.cached.isrLast :: (enter lite id s.ocram).2 :: _
        = id :: (a.stack ++ [isrNone])
      rw [hentered.isrLast, hprev, h.ids]
    · change (enter lite id s.ocram).1.cached.isrCount = UInt32.ofNat (a.entered.length + 1)
      rw [hentered.isrCount, h.isrCount, UInt32.ofNat_add]
      rfl
    · intro id' hlt
      change (enter lite id s.ocram).1.cached.cnt[id'.toNat] = _
      rw [hentered.cnt]
      exact countEntry_cnt id h.cnt id' hlt
  | exit =>
    have hids := h.ids
    change Tracks { a with stack := a.stack.tail } (match s.opened with
      | [] => s
      | (lite, prev) :: rest => ⟨exit lite prev s.ocram, rest⟩)
    split
    · next hopened =>
      -- nothing is open, so no id is active
      rw [hopened] at hids
      have hstack : a.stack = [] := by
        cases hstack : a.stack with
        | nil => rfl
        | cons id rest =>
          rw [hstack] at hids
          have := congrArg List.length hids
          simp at this
      rw [hstack] at hids ⊢
      exact ⟨h.magic, h.checks, by rw [hopened]; exact hids, h.isrCount, h.cnt⟩
    · next lite prev rest hopened =>
      have hexited := exit_exited h.checks lite prev
      rw [hopened] at hids
      refine ⟨hexited.magic.trans h.magic, hexited.checks, ?_, ?_, ?_⟩
      · change (exit lite prev s.ocram).cached.isrLast :: rest.map Prod.snd = _
        rw [hexited.isrLast]
        cases hstack : a.stack with
        | nil =>
          rw [hstack] at hids
          have := congrArg List.length hids
          simp at this
        | cons id ids =>
          rw [hstack] at hids
          exact (List.cons.inj hids).2
      · exact hexited.isrCount.trans h.isrCount
      · intro id' hlt
        change (exit lite prev s.ocram).cached.cnt[id'.toNat] = _
        rw [hexited.cnt]
        exact h.cnt id' hlt
  | writeBack line =>
    have hcached : (s.ocram.writeBack line).cached = s.ocram.cached := Ocram.writeBack_cached ..
    exact ⟨hcached ▸ h.magic, hcached ▸ h.checks, hcached ▸ h.ids, hcached ▸ h.isrCount,
      hcached ▸ h.cnt⟩

theorem run_tracks {a : Active} {s : State} (h : Tracks a s) (hooks : List Hook) :
    Tracks (run Active.step a hooks) (run step s hooks) := by
  induction hooks generalizing a s with
  | nil => exact h
  | cons hook hooks ih => exact ih (step_tracks h hook)

/-- Hooks that exit all they enter leave the active ids as they were. -/
theorem Balanced.stack {hooks : List Hook} (h : Balanced hooks) (a : Active) :
    (run Active.step a hooks).stack = a.stack := by
  induction h generalizing a with
  | nil => rfl
  | writeBack line _ ih => exact ih a
  | nest lite id _ _ ihinner ihrest =>
    rw [List.cons_append, run_cons, run_append, run_cons, ihrest]
    change (run Active.step _ _).stack.tail = a.stack
    rw [ihinner]
    rfl

/-! ### The watchdog -/

/-- The eight words an exception stacks: `frame[5]` is LR, `frame[6]` PC and `frame[7]` xPSR. -/
abbrev ExceptionFrame : Type := Vector UInt32 8

/-- `health_rtwdog_isr_c`, up to the loop that waits for the reset. -/
def rtwdogIsr (frame : ExceptionFrame) (excReturn nowUs : UInt32) (o : Ocram) : Ocram :=
  let r := { o.cached with
    wdogPrevIsr := o.cached.isrLast
    wdogPc := frame[6]
    wdogLr := frame[5]
    wdogXpsr := frame[7]
    wdogExcret := excReturn
    wdogStampUs := nowUs
    wdogFired := 1
    isrLast := isrWdog }
  let o := Ocram.flush { o with cached := { r with check0 := computeIsrCheck0 r } } [.context]
  Ocram.flush { o with cached := { o.cached with checkAll := computeIsrCheckAll o.cached } } [.ids, .total]

/-- The watchdog handler leaves the record in memory as it left it in the cache. -/
theorem rtwdogIsr_memory (frame : ExceptionFrame) (excReturn nowUs : UInt32) (o : Ocram) :
    (rtwdogIsr frame excReturn nowUs o).memory = (rtwdogIsr frame excReturn nowUs o).cached := rfl

theorem rtwdogIsr_sealed (frame : ExceptionFrame) (excReturn nowUs : UInt32) (o : Ocram) :
    Sealed (rtwdogIsr frame excReturn nowUs o).cached := ⟨rfl, rfl⟩

/-- **What the boot after a watchdog reset harvests.** -/
theorem harvest_rtwdogIsr {o : Ocram} (hmagic : o.cached.magic = kIsrMagic)
    (frame : ExceptionFrame) (excReturn nowUs : UInt32) (stats : Stats) :
    harvestIsr (rtwdogIsr frame excReturn nowUs o).memory stats = { stats with
      prevIsrValid := true
      prevIsrLast := isrWdog
      prevWdogFired := true
      prevWdogPc := frame[6]
      prevWdogLr := frame[5]
      prevWdogXpsr := frame[7]
      prevWdogExcret := excReturn
      prevWdogPrevIsr := o.cached.isrLast
      prevIsrCount := o.cached.isrCount
      prevIsrCnt := o.cached.cnt } := by
  have hchecks := rtwdogIsr_sealed frame excReturn nowUs o
  rw [rtwdogIsr_memory]
  unfold harvestIsr
  rw [if_pos ⟨hmagic, hchecks.check0⟩]
  dsimp only
  rw [if_pos hchecks.checkAll]
  rfl

/-! ### The record of a boot -/

/-- The record once `begin` has set it up, over whatever was there. -/
def afterBegin (resetCause : UInt32) (crumb : Breadcrumb) (r : IsrRecord) : State :=
  ⟨(begin_ resetCause crumb r).2.2, []⟩

theorem tracks_afterBegin (resetCause : UInt32) (crumb : Breadcrumb) (r : IsrRecord) :
    Tracks .none (afterBegin resetCause crumb r) := by
  refine ⟨rfl, sealIsr_sealed _, rfl, rfl, fun id hlt => ?_⟩
  exact Vector.getElem_replicate ..

/-- **The record of a run of hooks.**  After any hooks, entered and exited in pairs:

* both checksums are those of the record;
* the record names the id that is active, and an exit names the one that was active when its
  handler entered;
* the counters count the entries, modulo `2 ^ 32`;
* if the watchdog handler then runs to its end, the next boot harvests the context it
  interrupted, the id that was active, and the counters. -/
theorem isr_record (resetCause : UInt32) (crumb : Breadcrumb) (r : IsrRecord) (hooks : List Hook) :
    let s := run step (afterBegin resetCause crumb r) hooks
    let a := run Active.step .none hooks
    (s.ocram.cached.check0 = computeIsrCheck0 s.ocram.cached ∧
      s.ocram.cached.checkAll = computeIsrCheckAll s.ocram.cached) ∧
    (s.ocram.cached.isrLast = a.current ∧ ∀ lite id body, Balanced body →
      (run step s (.enter lite id :: body ++ [.exit])).ocram.cached.isrLast
        = s.ocram.cached.isrLast) ∧
    (s.ocram.cached.isrCount = UInt32.ofNat a.entered.length ∧
      ∀ id : UInt8, ∀ h : id.toNat < isrIdCount,
        s.ocram.cached.cnt[id.toNat] = UInt32.ofNat (a.entered.count id)) ∧
    ∀ (frame : ExceptionFrame) (excReturn nowUs resetCause' : UInt32) (crumb' : Breadcrumb),
      let stats := (begin_ resetCause' crumb' (rtwdogIsr frame excReturn nowUs s.ocram).memory).1
      stats.prevIsrValid = true ∧ stats.prevWdogFired = true ∧
      stats.prevWdogPc = frame[6] ∧ stats.prevWdogLr = frame[5] ∧
      stats.prevWdogXpsr = frame[7] ∧ stats.prevWdogExcret = excReturn ∧
      stats.prevWdogPrevIsr = a.current ∧
      stats.prevIsrCount = UInt32.ofNat a.entered.length ∧
      ∀ id : UInt8, ∀ h : id.toNat < isrIdCount,
        stats.prevIsrCnt[id.toNat] = UInt32.ofNat (a.entered.count id) := by
  intro s a
  have htracks : Tracks a s := run_tracks (tracks_afterBegin resetCause crumb r) hooks
  refine ⟨⟨htracks.checks.check0, htracks.checks.checkAll⟩, ⟨htracks.current, ?_⟩,
    ⟨htracks.isrCount, htracks.cnt⟩, ?_⟩
  · intro lite id body hbody
    have hafter := run_tracks htracks (.enter lite id :: body ++ [.exit])
    have hstack : (run Active.step a (.enter lite id :: body ++ [.exit])).stack = a.stack :=
      (Balanced.nest lite id hbody .nil).stack a
    rw [hafter.current, htracks.current, Active.current, Active.current, hstack]
  · intro frame excReturn nowUs resetCause' crumb' stats
    have hstats : stats = _ := harvest_rtwdogIsr htracks.magic frame excReturn nowUs _
    rw [hstats]
    exact ⟨rfl, rfl, rfl, rfl, rfl, rfl, htracks.current, htracks.isrCount, htracks.cnt⟩

end Health
end G6Arena
