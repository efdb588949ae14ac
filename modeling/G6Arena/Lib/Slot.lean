/-
# A slot and what becomes of its items

A slot holds one item at a time, or something that is none.  An item is presented, once or many
times, or it is replaced before it ever was, and then it is lost.  The lost ones are counted until
the count is reported; the counter stops at `cap`.

`Account` is what an observer counts who does not look at the counter.  As long as the counter has
room when it is to count, the two agree: every item that was loaded has been presented, or is
reported, or is still counted, or is in the slot and waits (`Book.run_balanced`).
-/

import G6Arena.Lib.Machine
import Mathlib.Order.Lattice

namespace SlotAccount

open Machine

structure Slot where
  /-- an item is in the slot -/
  full : Bool
  /-- what is in the slot has been presented -/
  shown : Bool
  lost : ℕ
  deriving DecidableEq

inductive SlotEvent
  /-- something that is no item comes into the slot -/
  | replace
  /-- an item does -/
  | load
  | present
  | report
  deriving DecidableEq

namespace Slot

/-- The slot holds an item that has not been presented. -/
def waiting (s : Slot) : Bool := s.full && !s.shown

/-- The count of the lost when the contents of the slot are replaced. -/
def countLost (cap : ℕ) (s : Slot) : ℕ := if s.waiting ∧ s.lost < cap then s.lost + 1 else s.lost

def act (cap : ℕ) (s : Slot) : SlotEvent → Slot
  | .replace => ⟨false, false, s.countLost cap⟩
  | .load => ⟨true, false, s.countLost cap⟩
  | .present => { s with shown := true }
  | .report => { s with lost := 0 }

/-- The counter has room if it is to count. -/
def Room (cap : ℕ) (s : Slot) : SlotEvent → Prop
  | .replace | .load => s.waiting = true → s.lost < cap
  | .present | .report => True

end Slot

/-- The events that change the contents. -/
def SlotEvent.changes : SlotEvent → Bool
  | .replace | .load => true
  | .present | .report => false

/-! ### Changes of the contents -/

section

variable {cap : ℕ} {s : Slot} {e : SlotEvent} {es : List SlotEvent}

theorem Slot.le_countLost (cap : ℕ) (s : Slot) : s.lost ≤ s.countLost cap := by
  unfold countLost
  split_ifs <;> omega

theorem Slot.countLost_le (s : Slot) (h : s.lost ≤ cap) : s.countLost cap ≤ cap := by
  unfold countLost
  split_ifs <;> omega

theorem Slot.lost_le_act (h : e.changes = true) : s.lost ≤ (s.act cap e).lost := by
  cases e with
  | replace => exact s.le_countLost cap
  | load => exact s.le_countLost cap
  | present => cases h
  | report => cases h

theorem lost_le_run (h : ∀ e ∈ es, e.changes = true) : s.lost ≤ (run (Slot.act cap) s es).lost := by
  induction es generalizing s with
  | nil => exact le_rfl
  | cons e es ih =>
      exact (Slot.lost_le_act (h e (List.mem_cons_self ..))).trans
        (ih fun e he => h e (List.mem_cons_of_mem _ he))

theorem Slot.act_lost_le (h : s.lost ≤ cap) (e : SlotEvent) : (s.act cap e).lost ≤ cap := by
  cases e with
  | replace => exact s.countLost_le h
  | load => exact s.countLost_le h
  | present => exact h
  | report => exact Nat.zero_le _

/-- The counter stays below its end. -/
theorem run_lost_le (h : s.lost ≤ cap) (es : List SlotEvent) : (run (Slot.act cap) s es).lost ≤ cap := by
  induction es generalizing s with
  | nil => exact h
  | cons e es ih => exact ih (Slot.act_lost_le h e)

/-- The counter has room for one event, if it has some at first. -/
theorem room_of_length_le (h : es.length ≤ 1) (hlost : s.lost < cap) :
    Along (Slot.act cap) (Slot.Room cap) s es := by
  match es, h with
  | [], _ => trivial
  | [e], _ =>
    refine ⟨?_, trivial⟩
    cases e with
    | replace => exact fun _ => hlost
    | load => exact fun _ => hlost
    | present => trivial
    | report => trivial

/-- The counter had room all along, if it has some in the end. -/
theorem room_of_lost_lt (h : ∀ e ∈ es, e.changes = true)
    (hend : (run (Slot.act cap) s es).lost < cap) : Along (Slot.act cap) (Slot.Room cap) s es := by
  induction es generalizing s with
  | nil => trivial
  | cons e es ih =>
      have hrest : ∀ e ∈ es, e.changes = true := fun e he => h e (List.mem_cons_of_mem _ he)
      have hlost : s.lost ≤ (run (Slot.act cap) (s.act cap e) es).lost :=
        (Slot.lost_le_act (h e (List.mem_cons_self ..))).trans (lost_le_run hrest)
      refine ⟨?_, ih hrest hend⟩
      cases e with
      | replace => exact fun _ => hlost.trans_lt hend
      | load => exact fun _ => hlost.trans_lt hend
      | present => trivial
      | report => trivial

end

/-! ### Accounts -/

structure Account where
  loads : ℕ
  /-- the items that were presented at least once -/
  presented : ℕ
  reported : ℕ
  /-- nothing has been presented since the last load -/
  fresh : Bool
  deriving DecidableEq

def Account.zero : Account := ⟨0, 0, 0, false⟩

/-- An event of the slot, entered. -/
def Account.enter (s : Slot) (a : Account) : SlotEvent → Account
  | .replace => a
  | .load => { a with loads := a.loads + 1, fresh := true }
  | .present => { a with presented := a.presented + (s.full && a.fresh).toNat, fresh := false }
  | .report => { a with reported := a.reported + s.lost }

@[ext] structure Book where
  slot : Slot
  account : Account

namespace Book

def step (cap : ℕ) (b : Book) (e : SlotEvent) : Book := ⟨b.slot.act cap e, b.account.enter b.slot e⟩

/-- Every item that was loaded is accounted for. -/
structure Balanced (b : Book) : Prop where
  fresh : b.slot.full = true → b.account.fresh = !b.slot.shown
  loads : b.account.loads = b.account.presented + b.account.reported + b.slot.lost
    + (b.slot.full && b.account.fresh).toNat

variable {cap : ℕ} {b : Book} {e : SlotEvent} {es : List SlotEvent}

/-- An item that waits is one that is new. -/
theorem Balanced.waiting (h : b.Balanced) : b.slot.waiting = (b.slot.full && b.account.fresh) := by
  unfold Slot.waiting
  cases hfull : b.slot.full with
  | false => rfl
  | true => rw [h.fresh hfull]

/-- The item in the slot is counted when it is replaced. -/
theorem Balanced.countLost (h : b.Balanced) (hroom : b.slot.waiting = true → b.slot.lost < cap) :
    b.slot.countLost cap = b.slot.lost + (b.slot.full && b.account.fresh).toNat := by
  unfold Slot.countLost
  rw [← h.waiting]
  cases hwaits : b.slot.waiting with
  | false => simp
  | true =>
    rw [if_pos ⟨rfl, hroom hwaits⟩]
    rfl

/-- **One event.** -/
theorem Balanced.step (h : b.Balanced) (hroom : b.slot.Room cap e) : (b.step cap e).Balanced := by
  have hloads := h.loads
  cases e with
  | replace =>
    constructor
    · nofun
    · change b.account.loads = b.account.presented + b.account.reported + b.slot.countLost cap + 0
      rw [h.countLost hroom]
      omega
  | load =>
    constructor
    · exact fun _ => rfl
    · change b.account.loads + 1
        = b.account.presented + b.account.reported + b.slot.countLost cap + 1
      rw [h.countLost hroom]
      omega
  | present =>
    constructor
    · exact fun _ => rfl
    · change b.account.loads = b.account.presented + (b.slot.full && b.account.fresh).toNat
        + b.account.reported + b.slot.lost + (b.slot.full && false).toNat
      rw [Bool.and_false]
      simp only [Bool.toNat_false]
      omega
  | report =>
    constructor
    · exact h.fresh
    · change b.account.loads = b.account.presented + (b.account.reported + b.slot.lost) + 0
        + (b.slot.full && b.account.fresh).toNat
      omega

@[simp] theorem run_slot (b : Book) (es : List SlotEvent) :
    (run (Book.step cap) b es).slot = run (Slot.act cap) b.slot es := by
  induction es generalizing b with
  | nil => rfl
  | cons e es ih => exact ih (b.step cap e)

/-- **Any run in which the counter has room.** -/
theorem run_balanced (h : b.Balanced) (hroom : Along (Slot.act cap) (Slot.Room cap) b.slot es) :
    (run (Book.step cap) b es).Balanced := by
  induction es generalizing b with
  | nil => exact h
  | cons e es ih => exact ih (h.step hroom.1) hroom.2

/-- Of changes, the loads are entered. -/
theorem run_account (h : ∀ e ∈ es, e.changes = true) : (run (Book.step cap) b es).account
    = { b.account with
      loads := b.account.loads + es.count .load
      fresh := b.account.fresh || decide (SlotEvent.load ∈ es) } := by
  induction es generalizing b with
  | nil => simp
  | cons e es ih =>
      have hrest := @ih (b.step cap e) fun e he => h e (List.mem_cons_of_mem _ he)
      cases e with
      | replace =>
        rw [run_cons, hrest]
        simp [Book.step, Account.enter]
      | load =>
        rw [run_cons, hrest]
        simp [Book.step, Account.enter]
        omega
      | present => cases h _ (List.mem_cons_self ..)
      | report => cases h _ (List.mem_cons_self ..)

end Book

end SlotAccount
