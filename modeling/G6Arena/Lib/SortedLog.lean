/-
# Logs ordered by a key

A log is a list whose entries carry strictly growing keys.  A reader that remembers
the key of the last entry it took splits what it meets at that key: `split_at_key`.
Between two entries it took in a row it took nothing (`not_mem_of_adjacent`).
-/

import Mathlib.Data.List.Basic

namespace SortedLog

variable {α : Type*} {key : α → ℕ}

/-- The entries past a key are the end of the log. -/
theorem split_at_key {l : List α} (h : l.Pairwise (key · < key ·)) (n : ℕ) :
    ∃ old, l = old ++ l.filter (n < key ·) ∧ ∀ x ∈ old, key x ≤ n := by
  induction l with
  | nil => exact ⟨[], rfl, by simp⟩
  | cons x l ih =>
      obtain ⟨hx, hl⟩ := List.pairwise_cons.1 h
      by_cases hn : n < key x
      · refine ⟨[], ?_, by simp⟩
        rw [List.nil_append, List.filter_eq_self.2]
        intro y hy
        rcases List.mem_cons.1 hy with rfl | hy
        · simpa using hn
        · have := hx y hy
          simp only [decide_eq_true_eq]
          omega
      · obtain ⟨old, hold, hle⟩ := ih hl
        refine ⟨x :: old, ?_, ?_⟩
        · rw [List.filter_cons_of_neg (by simpa using hn), List.cons_append, ← hold]
        · intro y hy
          rcases List.mem_cons.1 hy with rfl | hy
          · omega
          · exact hle y hy

/-- Entries met after others have a larger key. -/
theorem lt_of_append {a b : List α} (h : (a ++ b).Pairwise (key · < key ·)) {x y : α} (hx : x ∈ a)
    (hy : y ∈ b) : key x < key y :=
  (List.pairwise_append.1 h).2.2 x hx y hy

/-- A selection that takes nothing of the end of a log is one of its start. -/
theorem sublist_of_forall_notMem {l a b : List α} (h : l.Sublist (a ++ b)) (hb : ∀ x ∈ l, x ∉ b) :
    l.Sublist a := by
  obtain ⟨l₁, l₂, rfl, h₁, h₂⟩ := List.sublist_append_iff.1 h
  cases l₂ with
  | nil => simpa using h₁
  | cons x l₂ => exact absurd (h₂.subset (List.mem_cons_self ..)) (hb x (by simp))

/-- Nothing lies between two neighbours. -/
theorem notMem_of_adjacent {l : List α} (h : l.Pairwise (key · < key ·)) {x y z : α}
    (hadj : [x, y] <:+: l) (hx : key x < key z) (hy : key z < key y) : z ∉ l := by
  obtain ⟨a, b, rfl⟩ := hadj
  intro hz
  rw [List.append_assoc, List.pairwise_append] at h
  obtain ⟨-, hxb, hax⟩ := h
  rcases List.mem_append.1 hz with hz | hz
  · rcases List.mem_append.1 hz with hz | hz
    · have := hax z hz x (by simp)
      omega
    · simp only [List.mem_cons, List.not_mem_nil, or_false] at hz
      rcases hz with rfl | rfl <;> omega
  · have := (List.pairwise_append.1 hxb).2.2 y (by simp) z hz
    omega

/-- The last entry has the largest key. -/
theorem le_getLast {l : List α} (h : l.Pairwise (key · < key ·)) {x : α} (hx : x ∈ l) :
    key x ≤ (l.getLast?.map key).getD 0 := by
  obtain ⟨l, y, rfl⟩ := (List.eq_nil_or_concat' l).resolve_left (List.ne_nil_of_mem hx)
  rw [List.getLast?_concat, Option.map_some, Option.getD_some]
  rcases List.mem_append.1 hx with hx | hx
  · exact Nat.le_of_lt (lt_of_append h hx (List.mem_singleton_self y))
  · exact Nat.le_of_eq (congrArg key (List.mem_singleton.1 hx))

end SortedLog
