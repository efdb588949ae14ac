/-
# Byte memories and little-endian words

A byte memory is a function from offsets to bytes: a fixed-size buffer of a C
program, with the bound left to the facts about the code that indexes it.
`bytesAt m off n` reads `n` bytes, `store m off bs` writes a block
(`memcpy`), and the lemmas say what a block read after a block write sees.

`toLe n v` is the `n`-byte little-endian form of `v` (the low `8 n` bits) and
`ofLe` reads a byte string back.
-/

import Mathlib.Data.List.Basic
import Mathlib.Data.Nat.Basic
import Mathlib.Tactic.Ring

namespace ByteMem

/-- A byte memory. -/
abbrev Mem : Type := ℕ → UInt8

/-- The `n` bytes at `off`. -/
def bytesAt (m : Mem) (off n : ℕ) : List UInt8 := (List.range n).map fun i => m (off + i)

/-- `m` with the block `bs` written at `off`. -/
def store (m : Mem) (off : ℕ) (bs : List UInt8) : Mem := fun i =>
  if off ≤ i ∧ i < off + bs.length then bs.getD (i - off) 0 else m i

@[simp] theorem length_bytesAt (m : Mem) (off n : ℕ) : (bytesAt m off n).length = n := by
  simp [bytesAt]

@[simp] theorem bytesAt_zero (m : Mem) (off : ℕ) : bytesAt m off 0 = [] := rfl

theorem getElem?_bytesAt (m : Mem) (off n i : ℕ) (hi : i < n) :
    (bytesAt m off n)[i]? = some (m (off + i)) := by
  simp [bytesAt, hi]

theorem getD_bytesAt (m : Mem) (off n i : ℕ) (hi : i < n) :
    (bytesAt m off n).getD i 0 = m (off + i) := by
  rw [List.getD_eq_getElem?_getD, getElem?_bytesAt m off n i hi, Option.getD_some]

/-- A block read depends on the bytes it covers and on no others. -/
theorem bytesAt_congr {m m' : Mem} {off n : ℕ} (h : ∀ i, off ≤ i → i < off + n → m i = m' i) :
    bytesAt m off n = bytesAt m' off n := by
  refine List.map_congr_left fun i hi => ?_
  have := List.mem_range.1 hi
  exact h _ (by omega) (by omega)

theorem bytesAt_add (m : Mem) (off a b : ℕ) :
    bytesAt m off (a + b) = bytesAt m off a ++ bytesAt m (off + a) b := by
  simp [bytesAt, List.range_add, Nat.add_assoc]

theorem bytesAt_succ (m : Mem) (off n : ℕ) :
    bytesAt m off (n + 1) = m off :: bytesAt m (off + 1) n := by
  rw [Nat.add_comm n 1, bytesAt_add]
  rfl

theorem take_bytesAt (m : Mem) (off n k : ℕ) (hk : k ≤ n) :
    (bytesAt m off n).take k = bytesAt m off k := by
  obtain ⟨d, rfl⟩ := Nat.exists_eq_add_of_le hk
  rw [bytesAt_add, List.take_left' (length_bytesAt ..)]

theorem drop_bytesAt (m : Mem) (off n k : ℕ) (hk : k ≤ n) :
    (bytesAt m off n).drop k = bytesAt m (off + k) (n - k) := by
  obtain ⟨d, rfl⟩ := Nat.exists_eq_add_of_le hk
  rw [bytesAt_add, List.drop_left' (length_bytesAt ..), Nat.add_sub_cancel_left]

theorem store_apply_of_lt (m : Mem) {off i : ℕ} (bs : List UInt8) (h : i < off) :
    store m off bs i = m i := by
  rw [store, if_neg (by omega)]

theorem store_apply_of_ge (m : Mem) {off i : ℕ} (bs : List UInt8) (h : off + bs.length ≤ i) :
    store m off bs i = m i := by
  rw [store, if_neg (by omega)]

theorem store_apply_add (m : Mem) (off : ℕ) (bs : List UInt8) {i : ℕ} (h : i < bs.length) :
    store m off bs (off + i) = bs.getD i 0 := by
  rw [store, if_pos (by omega), Nat.add_sub_cancel_left]

/-- What is stored twice. -/
theorem store_store (m : Mem) (off : ℕ) (bs : List UInt8) : store (store m off bs) off bs = store m off bs := by
  funext i
  by_cases h : off ≤ i ∧ i < off + bs.length
  · obtain ⟨k, rfl⟩ := Nat.exists_eq_add_of_le h.1
    rw [store_apply_add _ _ _ (by omega), store_apply_add _ _ _ (by omega)]
  · rcases Nat.lt_or_ge i off with hlt | hge
    · rw [store_apply_of_lt _ _ hlt]
    · rw [store_apply_of_ge _ _ (by omega)]

@[simp] theorem store_nil (m : Mem) (off : ℕ) : store m off [] = m := by
  funext i
  rw [store, if_neg (by simp only [List.length_nil]; omega)]

/-- **A block is read back as it was written.** -/
@[simp] theorem bytesAt_store (m : Mem) (off : ℕ) (bs : List UInt8) :
    bytesAt (store m off bs) off bs.length = bs := by
  refine List.ext_getElem (length_bytesAt ..) fun i _ hi => ?_
  simp [bytesAt, store_apply_add m off bs hi, hi]

theorem bytesAt_store_of_length (m : Mem) (off : ℕ) {bs : List UInt8} {n : ℕ} (h : bs.length = n) :
    bytesAt (store m off bs) off n = bs := by
  subst h
  exact bytesAt_store ..

/-- A part of what is stored at the start. -/
theorem bytesAt_store_zero (m : Mem) (bs : List UInt8) {off n : ℕ} (h : off + n ≤ bs.length) :
    bytesAt (store m 0 bs) off n = (bs.drop off).take n := by
  have hwhole := bytesAt_store m 0 bs
  have hpart := drop_bytesAt (store m 0 bs) 0 bs.length off (by omega)
  rw [hwhole, Nat.zero_add] at hpart
  rw [hpart, take_bytesAt _ _ _ _ (by omega)]

/-- A block read that misses the written block is unchanged. -/
theorem bytesAt_store_of_disjoint (m : Mem) {off a n : ℕ} (bs : List UInt8)
    (h : a + n ≤ off ∨ off + bs.length ≤ a) : bytesAt (store m off bs) a n = bytesAt m a n := by
  refine bytesAt_congr fun i h₁ h₂ => ?_
  rcases h with h | h
  · exact store_apply_of_lt m bs (by omega)
  · exact store_apply_of_ge m bs (by omega)

/-- The bytes of an ASCII text. -/
def ascii (text : String) : List UInt8 := text.toList.map fun c => UInt8.ofNat c.toNat

/-! ### Little-endian words -/

/-- The `n` low bytes of `v`, lowest first. -/
def toLe : ℕ → ℕ → List UInt8
  | 0, _ => []
  | n + 1, v => UInt8.ofNat v :: toLe n (v / 256)

/-- The number a byte string spells, lowest byte first. -/
def ofLe : List UInt8 → ℕ
  | [] => 0
  | b :: bs => b.toNat + 256 * ofLe bs

@[simp] theorem length_toLe (n v : ℕ) : (toLe n v).length = n := by
  induction n generalizing v with
  | zero => rfl
  | succ n ih => rw [toLe, List.length_cons, ih]

/-- **Reading back the `n`-byte form of `v` gives the low `8 n` bits of `v`.** -/
theorem ofLe_toLe (n v : ℕ) : ofLe (toLe n v) = v % 256 ^ n := by
  induction n generalizing v with
  | zero => simp [toLe, ofLe, Nat.mod_one]
  | succ n ih =>
      have hb : (UInt8.ofNat v).toNat = v % 256 := UInt8.toNat_ofNat' ..
      rw [toLe, ofLe, ih, hb, pow_succ, Nat.mul_comm (256 ^ n), Nat.mod_mul]

theorem ofLe_toLe_of_lt {n v : ℕ} (h : v < 256 ^ n) : ofLe (toLe n v) = v := by
  rw [ofLe_toLe, Nat.mod_eq_of_lt h]

theorem ofLe_lt (bs : List UInt8) : ofLe bs < 256 ^ bs.length := by
  induction bs with
  | nil => simp [ofLe]
  | cons b bs ih =>
      have hb := b.toNat_lt
      rw [ofLe, List.length_cons, pow_succ]
      omega

/-- The word of `n` bytes at `off`. -/
def wordAt (m : Mem) (off n : ℕ) : ℕ := ofLe (bytesAt m off n)

/-! ### Memories that agree -/

/-- Two memories are the same below `n`. -/
def AgreeBelow (n : ℕ) (a b : Mem) : Prop := ∀ i < n, a i = b i

namespace AgreeBelow

variable {n : ℕ} {a b : Mem}

theorem mono (h : AgreeBelow n a b) {k : ℕ} (hle : k ≤ n) : AgreeBelow k a b :=
  fun i hi => h i (by omega)

theorem bytesAt (h : AgreeBelow n a b) {off len : ℕ} (hle : off + len ≤ n) :
    bytesAt a off len = bytesAt b off len :=
  bytesAt_congr fun i _ hi => h i (by omega)

theorem wordAt (h : AgreeBelow n a b) {off len : ℕ} (hle : off + len ≤ n) :
    wordAt a off len = wordAt b off len := by
  unfold ByteMem.wordAt
  rw [h.bytesAt hle]

theorem store (h : AgreeBelow n a b) (off : ℕ) (bs : List UInt8) :
    AgreeBelow n (ByteMem.store a off bs) (ByteMem.store b off bs) := by
  intro i hi
  unfold ByteMem.store
  split_ifs
  · rfl
  · exact h i hi

/-- What is stored behind the part that agrees extends it. -/
theorem append (h : AgreeBelow n a b) (bs : List UInt8) :
    AgreeBelow (n + bs.length) (ByteMem.store a n bs) (ByteMem.store b n bs) := by
  intro i hi
  unfold ByteMem.store
  split_ifs with hin
  · rfl
  · exact h i (by omega)

/-- Whatever the two were before. -/
theorem stored (a b : Mem) (bs : List UInt8) :
    AgreeBelow bs.length (ByteMem.store a 0 bs) (ByteMem.store b 0 bs) := by
  have hnone : AgreeBelow 0 a b := fun i hi => absurd hi (Nat.not_lt_zero i)
  have happend := hnone.append bs
  rwa [Nat.zero_add] at happend

end AgreeBelow

end ByteMem
