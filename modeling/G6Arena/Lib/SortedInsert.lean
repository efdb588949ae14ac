/-
# Inserting into a sorted list from its end

`insert key x l` walks `l` from its end, past the entries larger than `x`, and puts
`x` there: the inner loop of an insertion sort over an array.  It keeps a sorted list
sorted (`Sorted.insert`), leaves an entry that is not larger than `x` where it was
and moves one that is larger up by one (`getElem?_insert_of_le`,
`getElem?_insert_of_lt`).

A list that is `StrictSorted` is known from its entries (`StrictSorted.ext`), and stays so as long
as what is put into it has a key of its own.
-/

import Mathlib.Data.List.DropRight
import Mathlib.Data.List.Pairwise
import Mathlib.Order.Lattice
import Mathlib.Tactic.Tauto

namespace SortedInsert

variable {α β : Type*} [LinearOrder β] {key : α → β}

/-- No entry is larger than a later one. -/
def Sorted (key : α → β) (l : List α) : Prop := l.Pairwise (key · ≤ key ·)

/-- `x` put before the entries at the end of `l` that are larger. -/
def insert (key : α → β) (x : α) (l : List α) : List α :=
  l.rdropWhile (key x < key ·) ++ x :: l.rtakeWhile (key x < key ·)

/-- The walk splits the list in two. -/
theorem split_at (key : α → β) (x : α) (l : List α) :
    l.rdropWhile (key x < key ·) ++ l.rtakeWhile (key x < key ·) = l :=
  List.rdropWhile_append_rtakeWhile

/-- Where the walk stops, the entry is not larger. -/
theorem getLast_le {x y : α} {l : List α} (h : (l.rdropWhile (key x < key ·)).getLast? = some y) :
    key y ≤ key x := by
  rw [List.rdropWhile, List.getLast?_reverse] at h
  have hy := List.head?_dropWhile_not (p := (key x < key ·)) (l := l.reverse)
  rw [h] at hy
  simpa using hy

theorem lt_of_mem_rtakeWhile {x y : α} {l : List α} (h : y ∈ l.rtakeWhile (key x < key ·)) :
    key x < key y := by
  simpa using List.mem_rtakeWhile_imp h

/-- In a sorted list every entry before the stop is not larger either. -/
theorem le_of_mem_rdropWhile {x y : α} {l : List α} (hl : Sorted key l)
    (h : y ∈ l.rdropWhile (key x < key ·)) : key y ≤ key x := by
  have hs : Sorted key (l.rdropWhile (key x < key ·)) :=
    List.Pairwise.sublist (List.rdropWhile_prefix ..).sublist hl
  obtain ⟨init, last, hlast⟩ :=
    (List.eq_nil_or_concat' _).resolve_left (List.ne_nil_of_mem h)
  have hle : key last ≤ key x := getLast_le (l := l) (by rw [hlast]; simp)
  rw [hlast] at h hs
  rcases List.mem_append.1 h with h | h
  · exact ((List.pairwise_append.1 hs).2.2 y h last (by simp)).trans hle
  · rw [List.mem_singleton.1 h]
    exact hle

theorem Sorted.insert {l : List α} (hl : Sorted key l) (x : α) : Sorted key (insert key x l) := by
  have happ := hl
  rw [← split_at key x l, Sorted, List.pairwise_append] at happ
  refine List.pairwise_append.2 ⟨happ.1, List.pairwise_cons.2 ⟨?_, happ.2.1⟩, ?_⟩
  · exact fun y hy => (lt_of_mem_rtakeWhile hy).le
  · intro y hy z hz
    rcases List.mem_cons.1 hz with rfl | hz
    · exact le_of_mem_rdropWhile hl hy
    · exact happ.2.2 y hy z hz

theorem Sorted.eraseIdx {l : List α} (hl : Sorted key l) (i : ℕ) : Sorted key (l.eraseIdx i) :=
  List.Pairwise.sublist (List.eraseIdx_sublist ..) hl

/-- **An entry that is not larger stays.** -/
theorem getElem?_insert_of_le {x y : α} {l : List α} {i : ℕ} (h : l[i]? = some y)
    (hy : ¬ key x < key y) : (insert key x l)[i]? = some y := by
  have hsplit := split_at key x l
  rcases Nat.lt_or_ge i (l.rdropWhile (key x < key ·)).length with hi | hi
  · rw [insert, List.getElem?_append_left hi, ← h]
    conv_rhs => rw [← hsplit, List.getElem?_append_left hi]
  · rw [← hsplit, List.getElem?_append_right hi] at h
    exact absurd (lt_of_mem_rtakeWhile (List.mem_of_getElem? h)) hy

/-- **A larger entry moves up by one.** -/
theorem getElem?_insert_of_lt {x y : α} {l : List α} (hl : Sorted key l) {i : ℕ}
    (h : l[i]? = some y) (hy : key x < key y) : (insert key x l)[i + 1]? = some y := by
  have hsplit := split_at key x l
  rcases Nat.lt_or_ge i (l.rdropWhile (key x < key ·)).length with hi | hi
  · rw [← hsplit, List.getElem?_append_left hi] at h
    exact absurd hy (le_of_mem_rdropWhile hl (List.mem_of_getElem? h)).not_gt
  · rw [insert, List.getElem?_append_right (by omega), Nat.succ_sub hi, List.getElem?_cons_succ]
    rw [← hsplit, List.getElem?_append_right hi] at h
    exact h

theorem length_insert (x : α) (l : List α) : (insert key x l).length = l.length + 1 := by
  have h := congrArg List.length (split_at key x l)
  rw [List.length_append] at h
  rw [insert, List.length_append, List.length_cons]
  omega

theorem mem_insert {x y : α} {l : List α} : y ∈ insert key x l ↔ y = x ∨ y ∈ l := by
  have h : y ∈ l ↔ y ∈ l.rdropWhile (key x < key ·) ∨ y ∈ l.rtakeWhile (key x < key ·) := by
    rw [← List.mem_append, List.rdropWhile_append_rtakeWhile]
  rw [insert, List.mem_append, List.mem_cons, h]
  tauto

/-! ### Lists without two entries of one key -/

/-- Every entry is smaller than the later ones. -/
def StrictSorted (key : α → β) (l : List α) : Prop := l.Pairwise (key · < key ·)

variable {l l' : List α}

theorem StrictSorted.sorted (h : StrictSorted key l) : Sorted key l := h.imp le_of_lt

theorem StrictSorted.nodup (h : StrictSorted key l) : l.Nodup :=
  h.imp fun hlt heq => absurd (heq ▸ hlt) (lt_irrefl _)

/-- Two entries of one key are the same. -/
theorem StrictSorted.eq_of_key (h : StrictSorted key l) {x y : α} (hx : x ∈ l) (hy : y ∈ l)
    (hkey : key x = key y) : x = y := by
  by_contra hne
  have hsymm : Std.Symm fun x y => key x ≠ key y := ⟨fun _ _ h => h.symm⟩
  have hdistinct : l.Pairwise fun x y => key x ≠ key y := h.imp ne_of_lt
  exact hdistinct.forall hx hy hne hkey

theorem StrictSorted.eraseIdx (h : StrictSorted key l) (i : ℕ) : StrictSorted key (l.eraseIdx i) :=
  List.Pairwise.sublist (List.eraseIdx_sublist ..) h

/-- **A new key.** -/
theorem StrictSorted.insert (h : StrictSorted key l) {x : α} (hx : ∀ y ∈ l, key y ≠ key x) :
    StrictSorted key (SortedInsert.insert key x l) := by
  have happ := h
  rw [← split_at key x l, StrictSorted, List.pairwise_append] at happ
  refine List.pairwise_append.2 ⟨happ.1, List.pairwise_cons.2 ⟨?_, happ.2.1⟩, ?_⟩
  · exact fun y hy => lt_of_mem_rtakeWhile hy
  · intro y hy z hz
    have hmem : y ∈ l := (List.rdropWhile_prefix ..).subset hy
    rcases List.mem_cons.1 hz with rfl | hz
    · exact lt_of_le_of_ne (le_of_mem_rdropWhile h.sorted hy) (hx y hmem)
    · exact happ.2.2 y hy z hz

/-- **A strictly sorted list is known from its entries.** -/
theorem StrictSorted.ext (h : StrictSorted key l) (h' : StrictSorted key l')
    (hmem : ∀ x, x ∈ l ↔ x ∈ l') : l = l' := by
  have hperm : l.Perm l' := (List.perm_ext_iff_of_nodup h.nodup h'.nodup).2 hmem
  exact hperm.eq_of_pairwise (fun _ _ _ _ hxy hyx => absurd hxy hyx.not_gt) h h'

end SortedInsert
