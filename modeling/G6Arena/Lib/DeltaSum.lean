/-
# Sums kept by deltas

A checksum over the words of a record, in an operation under which every word is its own
inverse, such as exclusive or.  A word that changes from `a` to `b` changes the sum by
`a · b`, so that the sum can be kept without a look at the other words (`sum_set`).
-/

import Mathlib.Data.List.Basic
import Mathlib.Logic.Basic

namespace DeltaSum

variable {α : Type*} (op : α → α → α) (e : α)

/-- The sum of a list of words. -/
def sum (ws : List α) : α := ws.foldr op e

@[simp] theorem sum_nil : sum op e [] = e := rfl

@[simp] theorem sum_cons (w : α) (ws : List α) : sum op e (w :: ws) = op w (sum op e ws) := rfl

section

variable [Std.Associative op] [Std.LawfulIdentity op e]

theorem assoc (a b c : α) : op (op a b) c = op a (op b c) := Std.Associative.assoc a b c

theorem sum_append (ws vs : List α) : sum op e (ws ++ vs) = op (sum op e ws) (sum op e vs) := by
  induction ws with
  | nil => exact (Std.LawfulLeftIdentity.left_id _).symm
  | cons w ws ih =>
      rw [List.cons_append, sum_cons, sum_cons, ih, assoc op]

variable [Std.Commutative op]

/-- A word met twice does not count. -/
theorem cancel (hself : ∀ a, op a a = e) (a b : α) : op (op a b) a = b := by
  have hcomm : op a b = op b a := Std.Commutative.comm a b
  rw [hcomm, assoc op, hself]
  exact Std.LawfulRightIdentity.right_id b

/-- **The delta of a word.** -/
theorem sum_set (hself : ∀ a, op a a = e) {ws : List α} {i : ℕ} (h : i < ws.length) (w : α) :
    sum op e (ws.set i w) = op (sum op e ws) (op ws[i] w) := by
  induction ws generalizing i with
  | nil => exact absurd h (Nat.not_lt_zero i)
  | cons v ws ih =>
      cases i with
      | zero =>
          have hcancel := cancel op e hself v (sum op e ws)
          rw [List.set_cons_zero, sum_cons, sum_cons, List.getElem_cons_zero, ← assoc op, hcancel]
          exact Std.Commutative.comm w _
      | succ i =>
          rw [List.set_cons_succ, sum_cons, sum_cons, List.getElem_cons_succ,
            ih (Nat.lt_of_succ_lt_succ h), assoc op]

end

end DeltaSum
