/-
# Chains of segments in a circular byte memory

A circular memory of `N` bytes holds a chain of byte segments: each starts
where the one before it ends, none straddles the end of the memory, and after
one that ends at `N` the next starts at `0`.  `Chain N P m w off segs` says that
walking the segments `segs` of memory `m` from offset `off` arrives at `w`,
where `P o seg` holds of every segment `seg` met, at its offset `o`.

As long as the segments together are shorter than `N`, the two ends determine
their total length (`Chain.used_eq`), the walk meets its end `w` only once
(`Chain.off_ne`) and never steps across it (`Chain.not_cross`), and a write
outside the occupied bytes leaves the chain as it is (`Chain.congr`).  A
segment written at `w` extends the chain (`Chain.push`); a prefix dropped moves
its start (`Chain.split`).
-/

import G6Arena.Lib.ByteMem

namespace ByteRing

open ByteMem

variable {N : ℕ} {P Q : ℕ → List UInt8 → Prop} {m m' : Mem}

/-- Offset `e`, with the end of the memory identified with its start. -/
def wrap (N e : ℕ) : ℕ := if e = N then 0 else e

theorem wrap_lt {e : ℕ} (hN : 0 < N) (h : e ≤ N) : wrap N e < N := by
  unfold wrap; split_ifs <;> omega

/-- The bytes a list of segments takes. -/
def total (segs : List (List UInt8)) : ℕ := (segs.map List.length).sum

@[simp] theorem total_nil : total [] = 0 := rfl

@[simp] theorem total_cons (seg : List UInt8) (segs : List (List UInt8)) :
    total (seg :: segs) = seg.length + total segs := by
  simp [total]

@[simp] theorem total_append (s t : List (List UInt8)) : total (s ++ t) = total s + total t := by
  simp [total]

/-- Walking `segs` from an offset arrives at `w`. -/
inductive Chain (N : ℕ) (P : ℕ → List UInt8 → Prop) (m : Mem) (w : ℕ) :
    ℕ → List (List UInt8) → Prop
  | nil : Chain N P m w w []
  | cons {off : ℕ} {seg : List UInt8} {segs : List (List UInt8)} (pos : 0 < seg.length)
      (fits : off + seg.length ≤ N) (bytes : bytesAt m off seg.length = seg) (ok : P off seg)
      (rest : Chain N P m w (wrap N (off + seg.length)) segs) : Chain N P m w off (seg :: segs)

/-- Byte `i` lies among the `t` bytes from `off` on, around the end. -/
def Occ (N off t i : ℕ) : Prop := i < N ∧ (off ≤ i ∧ i < off + t ∨ i + N < off + t)

/-- The two ends of a chain determine its total length. -/
theorem Chain.ends {w off : ℕ} {segs : List (List UInt8)} (h : Chain N P m w off segs)
    (hoff : off < N) (ht : total segs < N) :
    w < N ∧ (off + total segs = w ∨ off + total segs = w + N) := by
  induction h with
  | nil => exact ⟨hoff, .inl (by simp)⟩
  | @cons off seg segs pos fits _ _ _ ih =>
      rw [total_cons] at ht ⊢
      have hw := wrap_lt (by omega) fits
      obtain ⟨h₁, h₂⟩ := ih hw (by omega)
      refine ⟨h₁, ?_⟩
      unfold wrap at h₂
      split_ifs at h₂ <;> omega

/-- **The length of a chain from its two ends.** -/
theorem Chain.used_eq {w off : ℕ} {segs : List (List UInt8)} (h : Chain N P m w off segs)
    (hoff : off < N) (ht : total segs < N) :
    (if off ≤ w then w - off else N - off + w) = total segs := by
  obtain ⟨hw, h | h⟩ := h.ends hoff ht <;> split_ifs <;> omega

/-- The walk is not at its end while a segment is left. -/
theorem Chain.off_ne {w off : ℕ} {seg : List UInt8} {segs : List (List UInt8)}
    (h : Chain N P m w off (seg :: segs)) (hoff : off < N) (ht : total (seg :: segs) < N) :
    off ≠ w := by
  have hpos : 0 < seg.length := by cases h; assumption
  obtain ⟨hw, h | h⟩ := h.ends hoff ht <;> rw [total_cons] at h ht <;> omega

/-- The walk does not step across its end. -/
theorem Chain.not_cross {w off : ℕ} {seg : List UInt8} {segs : List (List UInt8)}
    (h : Chain N P m w off (seg :: segs)) (hoff : off < N) (ht : total (seg :: segs) < N)
    (hlt : off < w) : off + seg.length ≤ w := by
  obtain ⟨hw, h | h⟩ := h.ends hoff ht <;> rw [total_cons] at h ht <;> omega

/-- **A chain stays clear of its end**: it meets `w` only when it is through, and no
segment lies across it. -/
theorem Chain.clear {w off : ℕ} {segs : List (List UInt8)} (h : Chain N P m w off segs)
    (hoff : off < N) (ht : total segs < N) :
    Chain N (fun o seg => P o seg ∧ o ≠ w ∧ (o < w → o + seg.length ≤ w)) m w off segs := by
  induction h with
  | nil => exact .nil
  | @cons off seg segs pos fits bytes ok rest ih =>
      have hall := Chain.cons pos fits bytes ok rest
      refine .cons pos fits bytes ⟨ok, hall.off_ne hoff ht, hall.not_cross hoff ht⟩ (ih ?_ ?_)
      · exact wrap_lt (by omega) fits
      · rw [total_cons] at ht; omega

theorem Chain.head_fits {w off : ℕ} {seg : List UInt8} {segs : List (List UInt8)}
    (h : Chain N P m w off (seg :: segs)) : off + seg.length ≤ N := by
  cases h; assumption

theorem Chain.head_ok {w off : ℕ} {seg : List UInt8} {segs : List (List UInt8)}
    (h : Chain N P m w off (seg :: segs)) : P off seg := by
  cases h; assumption

theorem Chain.mono {w off : ℕ} {segs : List (List UInt8)} (h : Chain N P m w off segs)
    (hPQ : ∀ o seg, P o seg → Q o seg) : Chain N Q m w off segs := by
  induction h with
  | nil => exact .nil
  | cons pos fits bytes ok _ ih => exact .cons pos fits bytes (hPQ _ _ ok) ih

/-- Every segment of a chain satisfies a property that all offsets grant. -/
theorem Chain.forall {R : List UInt8 → Prop} {w off : ℕ} {segs : List (List UInt8)}
    (h : Chain N P m w off segs) (hR : ∀ o seg, P o seg → R seg) : ∀ seg ∈ segs, R seg := by
  induction h with
  | nil => simp
  | cons _ _ _ ok _ ih =>
      intro s hs
      rcases List.mem_cons.1 hs with rfl | hs
      · exact hR _ _ ok
      · exact ih s hs

/-- **Frame rule.**  A chain depends on the bytes it occupies and on no others. -/
theorem Chain.congr {w off : ℕ} {segs : List (List UInt8)} (h : Chain N P m w off segs)
    (hoff : off < N) (ht : total segs < N) (hm : ∀ i, Occ N off (total segs) i → m' i = m i) :
    Chain N P m' w off segs := by
  induction h with
  | nil => exact .nil
  | @cons off seg segs pos fits bytes ok _ ih =>
      rw [total_cons] at ht hm
      have hw := wrap_lt (by omega) fits
      refine .cons pos fits ?_ ok (ih hw (by omega) fun i hi => hm i ?_)
      · rw [← bytes, length_bytesAt]
        exact bytesAt_congr fun i h₁ h₂ => hm i ⟨by omega, .inl ⟨h₁, by omega⟩⟩
      · obtain ⟨hi, hi'⟩ := hi
        refine ⟨hi, ?_⟩
        unfold wrap at hi'
        split_ifs at hi' <;> omega

theorem Chain.append {a w off : ℕ} {s t : List (List UInt8)} (hs : Chain N P m a off s)
    (ht : Chain N P m w a t) : Chain N P m w off (s ++ t) := by
  induction hs with
  | nil => exact ht
  | cons pos fits bytes ok _ ih => exact .cons pos fits bytes ok ih

/-- A chain of `s ++ t` passes through the offset where `t` starts. -/
theorem Chain.split {w off : ℕ} {s t : List (List UInt8)} (h : Chain N P m w off (s ++ t)) :
    ∃ a, Chain N P m a off s ∧ Chain N P m w a t := by
  induction s generalizing off with
  | nil => exact ⟨off, .nil, h⟩
  | cons seg s ih =>
      cases h with
      | cons pos fits bytes ok rest =>
          obtain ⟨a, h₁, h₂⟩ := ih rest
          exact ⟨a, .cons pos fits bytes ok h₁, h₂⟩

/-- The `n` bytes from the end of a chain on are free when there is room for them. -/
theorem Chain.free {w off n i : ℕ} {segs : List (List UInt8)} (h : Chain N P m w off segs)
    (hoff : off < N) (hroom : total segs + n ≤ N) (ht : total segs < N) (hi : w ≤ i)
    (hin : i < w + n) : ¬ Occ N off (total segs) i := by
  rintro ⟨hiN, hocc⟩
  obtain ⟨hw, h | h⟩ := h.ends hoff ht <;> rcases hocc with hocc | hocc <;> omega

/-- **Push.**  A memory that agrees with `m` on the chain and holds `seg` at its
end holds the longer chain. -/
theorem Chain.push {w off : ℕ} {seg : List UInt8} {segs : List (List UInt8)}
    (h : Chain N P m w off segs) (hoff : off < N) (ht : total segs < N)
    (hm : ∀ i, Occ N off (total segs) i → m' i = m i) (pos : 0 < seg.length)
    (fits : w + seg.length ≤ N) (bytes : bytesAt m' w seg.length = seg) (ok : P w seg) :
    Chain N P m' (wrap N (w + seg.length)) off (segs ++ [seg]) :=
  (h.congr hoff ht hm).append (.cons pos fits bytes ok .nil)

end ByteRing
