/-
# CRC registers

A CRC register of `w` bits divides a stream of bits by a polynomial.  `shift` is one step of
a register that takes the top bit of a byte first: the bit that goes out at the top
decides whether the polynomial is added.  `shiftDown` is the step of a reflected register.
Both are linear over exclusive or.

A register whose polynomial has a constant term never forgets: its step is injective.  Hence
`burst_detected`: two streams that differ in at most `w` consecutive bits leave it in
different states, whatever comes before and after, since `w` bits that are shifted in from the
same state are a word added to it (`feed_eq`).

For a reflected register, four bits at a time can be looked up in a table:
`shiftsDown_nibble`.
-/

import Mathlib.Algebra.Group.Nat.Defs
import Mathlib.Data.List.Basic
import Mathlib.Data.List.GetD
import Mathlib.Data.Nat.Notation
import Mathlib.Tactic.SplitIfs

namespace Crc

/-! ### Top bit first -/

section

variable {w : ℕ} {poly c c' : BitVec w}

/-- One step. -/
def shift (poly c : BitVec w) : BitVec w := if c.msb then (c <<< 1) ^^^ poly else c <<< 1

def shifts (poly : BitVec w) : ℕ → BitVec w → BitVec w
  | 0, c => c
  | n + 1, c => shifts poly n (shift poly c)

/-- A bit taken in at the top, and a step. -/
def push (poly c : BitVec w) (b : Bool) : BitVec w :=
  shift poly (c ^^^ if b then BitVec.twoPow w (w - 1) else 0#w)

/-- A stream of bits. -/
def feed (poly c : BitVec w) (bits : List Bool) : BitVec w := bits.foldl (push poly) c

theorem feed_append (poly c : BitVec w) (xs ys : List Bool) :
    feed poly c (xs ++ ys) = feed poly (feed poly c xs) ys := List.foldl_append

theorem xor_xor_xor_comm (a b x y : BitVec w) : a ^^^ x ^^^ (b ^^^ y) = a ^^^ b ^^^ (x ^^^ y) := by
  rw [BitVec.xor_assoc, ← BitVec.xor_assoc x b y, BitVec.xor_comm x b, BitVec.xor_assoc b x y,
    ← BitVec.xor_assoc a b]

/-- **A step is linear.** -/
theorem shift_xor (poly a b : BitVec w) : shift poly (a ^^^ b) = shift poly a ^^^ shift poly b := by
  unfold shift
  rw [BitVec.msb_xor, BitVec.shiftLeft_xor_distrib]
  cases a.msb with
  | false => cases b.msb with
    | false => rfl
    | true => exact BitVec.xor_assoc ..
  | true => cases b.msb with
    | false =>
      change a <<< 1 ^^^ b <<< 1 ^^^ poly = a <<< 1 ^^^ poly ^^^ b <<< 1
      rw [BitVec.xor_assoc, BitVec.xor_comm (b <<< 1), BitVec.xor_assoc]
    | true =>
      change a <<< 1 ^^^ b <<< 1 = a <<< 1 ^^^ poly ^^^ (b <<< 1 ^^^ poly)
      rw [xor_xor_xor_comm, BitVec.xor_self, BitVec.xor_zero]

/-- A step forgets nothing but zero. -/
theorem eq_zero_of_shift (hpoly : poly.getLsbD 0 = true) (h : shift poly c = 0#w) : c = 0#w := by
  have hw : 0 < w := BitVec.lt_of_getLsbD hpoly
  unfold shift at h
  split_ifs at h with hmsb
  · have hbit : (c <<< 1 ^^^ poly).getLsbD 0 = false := by rw [h]; exact BitVec.getLsbD_zero
    rw [BitVec.getLsbD_xor, BitVec.getLsbD_shiftLeft, hpoly] at hbit
    simp at hbit
  · refine BitVec.eq_of_getLsbD_eq fun i hi => ?_
    rw [BitVec.getLsbD_zero]
    rcases Nat.lt_or_ge (i + 1) w with hlt | hge
    · have hbit : (c <<< 1).getLsbD (i + 1) = false := by rw [h]; exact BitVec.getLsbD_zero
      rw [BitVec.getLsbD_shiftLeft] at hbit
      simpa [hlt] using hbit
    · have htop : i = w - 1 := by omega
      rw [BitVec.msb_eq_getLsbD_last] at hmsb
      rw [htop]
      exact Bool.eq_false_iff.2 hmsb

theorem shift_injective (hpoly : poly.getLsbD 0 = true) : Function.Injective (shift poly) := by
  intro a b hab
  have hzero : shift poly (a ^^^ b) = 0#w := by rw [shift_xor, hab]; exact BitVec.xor_self
  exact BitVec.xor_eq_zero_iff.1 (eq_zero_of_shift hpoly hzero)

theorem shifts_injective (hpoly : poly.getLsbD 0 = true) (n : ℕ) :
    Function.Injective (shifts poly n) := by
  induction n with
  | zero => exact fun _ _ h => h
  | succ n ih => exact fun a b h => shift_injective hpoly (ih h)

theorem push_injective (hpoly : poly.getLsbD 0 = true) (b : Bool) :
    Function.Injective fun c => push poly c b := by
  intro c c' h
  have hxor := shift_injective hpoly h
  exact (BitVec.xor_left_inj _).1 hxor

theorem feed_injective (hpoly : poly.getLsbD 0 = true) (bits : List Bool) :
    Function.Injective fun c => feed poly c bits := by
  induction bits with
  | nil => exact fun _ _ h => h
  | cons b bits ih => exact fun c c' h => push_injective hpoly b (ih h)

/-! Bits as a word. -/

/-- Bits at the top of a word. -/
def atTop (w : ℕ) : List Bool → BitVec w
  | [] => 0#w
  | b :: bits => (if b then BitVec.twoPow w (w - 1) else 0#w) ^^^ (atTop w bits >>> 1)

theorem getMsbD_atTop {bits : List Bool} (hlen : bits.length ≤ w) (i : ℕ) :
    (atTop w bits).getMsbD i = bits.getD i false := by
  induction bits generalizing i with
  | nil => rw [atTop]; exact BitVec.getMsbD_zero
  | cons b bits ih =>
    rw [List.length_cons] at hlen
    have htop : (if b then BitVec.twoPow w (w - 1) else 0#w).getMsbD i = (b && decide (i = 0)) := by
      cases b with
      | false => exact BitVec.getMsbD_zero
      | true =>
        have hlast : w - 1 < w := by omega
        have hfirst : w - (w - 1) - 1 = 0 := by omega
        rw [if_pos rfl, BitVec.getMsbD_twoPow]
        simp [hlast, hfirst]
    rw [atTop, BitVec.getMsbD_xor, htop, BitVec.getMsbD_ushiftRight]
    cases i with
    | zero => simp
    | succ i =>
      rw [Nat.add_sub_cancel, ih (by omega), List.getD_cons_succ]
      rcases Nat.lt_or_ge i bits.length with hlt | hge
      · have hiw : i + 1 < w := by omega
        simp [hiw]
      · rw [List.getD_eq_default _ _ hge]
        simp

theorem atTop_inj {xs ys : List Bool} (hlen : xs.length = ys.length) (hw : xs.length ≤ w)
    (h : atTop w xs = atTop w ys) : xs = ys := by
  refine List.ext_getElem hlen fun i hx hy => ?_
  have hbit := congrArg (fun v => BitVec.getMsbD v i) h
  rw [getMsbD_atTop hw, getMsbD_atTop (hlen ▸ hw), List.getD_eq_getElem _ _ hx,
    List.getD_eq_getElem _ _ hy] at hbit
  exact hbit

/-- Bits that are not at the bottom yet only move. -/
theorem shift_atTop {bits : List Bool} (hlen : bits.length < w) :
    shift poly (atTop w bits >>> 1) = atTop w bits := by
  have hmsb : (atTop w bits >>> 1).msb = false := by
    rw [BitVec.msb_ushiftRight]
    rfl
  unfold shift
  rw [hmsb, if_neg Bool.false_ne_true]
  refine BitVec.eq_of_getMsbD_eq fun i hi => ?_
  rw [BitVec.getMsbD_shiftLeft, BitVec.getMsbD_ushiftRight, Nat.add_sub_cancel,
    getMsbD_atTop (by omega)]
  rcases Nat.lt_or_ge (i + 1) w with hlt | hge
  · simp [hlt]
  · rw [List.getD_eq_default _ _ (by omega)]
    simp

/-- **Up to `w` bits are a word added to the register.** -/
theorem feed_eq {bits : List Bool} (hlen : bits.length ≤ w) (c : BitVec w) :
    feed poly c bits = shifts poly bits.length (c ^^^ atTop w bits) := by
  induction bits generalizing c with
  | nil =>
    rw [atTop]
    exact BitVec.xor_zero.symm
  | cons b bits ih =>
    rw [List.length_cons] at hlen
    have hstep : shift poly (c ^^^ atTop w (b :: bits)) = push poly c b ^^^ atTop w bits := by
      rw [atTop, ← BitVec.xor_assoc, shift_xor, shift_atTop (by omega)]
      rfl
    rw [List.length_cons, shifts, hstep, ← ih (by omega)]
    rfl

/-! Byte strings. -/

/-- The bits of a byte, the highest first. -/
def byteBits (b : UInt8) : List Bool := (List.range 8).map fun i => b.toBitVec.getMsbD i

/-- The bits of a byte string, each byte's highest first. -/
def bits (bytes : List UInt8) : List Bool := bytes.flatMap byteBits

@[simp] theorem length_byteBits (b : UInt8) : (byteBits b).length = 8 := by simp [byteBits]

@[simp] theorem bits_cons (b : UInt8) (bytes : List UInt8) :
    bits (b :: bytes) = byteBits b ++ bits bytes := rfl

theorem bits_append (xs ys : List UInt8) : bits (xs ++ ys) = bits xs ++ bits ys :=
  List.flatMap_append

@[simp] theorem length_bits (bytes : List UInt8) : (bits bytes).length = 8 * bytes.length := by
  induction bytes with
  | nil => rfl
  | cons b bytes ih =>
    rw [bits_cons, List.length_append, ih, length_byteBits, List.length_cons]
    omega

theorem byteBits_inj {a b : UInt8} (h : byteBits a = byteBits b) : a = b := by
  refine UInt8.toBitVec_inj.1 (BitVec.eq_of_getMsbD_eq fun i hi => ?_)
  exact List.map_inj_left.1 h i (List.mem_range.2 hi)

theorem bits_inj {xs ys : List UInt8} (hlen : xs.length = ys.length) (h : bits xs = bits ys) :
    xs = ys := by
  induction xs generalizing ys with
  | nil => exact (List.length_eq_zero_iff.1 hlen.symm).symm
  | cons x xs ih =>
    cases ys with
    | nil => exact absurd hlen (Nat.succ_ne_zero _)
    | cons y ys =>
      obtain ⟨hhead, htail⟩ := List.append_inj h (by rw [length_byteBits, length_byteBits])
      rw [byteBits_inj hhead, ih (Nat.succ.inj hlen) htail]

theorem atTop_byteBits (hw : 8 ≤ w) (b : UInt8) :
    atTop w (byteBits b) = (b.toBitVec.setWidth w) <<< (w - 8) := by
  refine BitVec.eq_of_getMsbD_eq fun i hi => ?_
  rw [getMsbD_atTop (by rw [length_byteBits]; exact hw), BitVec.getMsbD_shiftLeft,
    BitVec.getMsbD_setWidth]
  have hindex : i + (w - 8) + 8 - w = i := by omega
  rcases Nat.lt_or_ge i 8 with hlt | hge
  · rw [List.getD_eq_getElem _ _ (by rw [length_byteBits]; exact hlt)]
    simp [byteBits, hindex]
  · rw [List.getD_eq_default _ _ (by rw [length_byteBits]; exact hge)]
    simp [hindex, BitVec.getMsbD_of_ge b.toBitVec i hge]

/-- A byte is taken in by eight steps. -/
theorem feed_byteBits (hw : 8 ≤ w) (c : BitVec w) (b : UInt8) :
    feed poly c (byteBits b) = shifts poly 8 (c ^^^ (b.toBitVec.setWidth w) <<< (w - 8)) := by
  rw [feed_eq (by rw [length_byteBits]; exact hw), length_byteBits, atTop_byteBits hw]

/-- **A burst of at most `w` bits is caught.** -/
theorem burst_detected (hpoly : poly.getLsbD 0 = true) (c : BitVec w) {xs ys : List Bool}
    (before after : List Bool) (hlen : xs.length = ys.length) (hw : xs.length ≤ w) (hne : xs ≠ ys) :
    feed poly c (before ++ (xs ++ after)) ≠ feed poly c (before ++ (ys ++ after)) := by
  intro h
  rw [feed_append, feed_append, feed_append, feed_append] at h
  have hfeed := feed_injective hpoly after h
  have hwy : ys.length ≤ w := hlen ▸ hw
  rw [feed_eq hw, feed_eq hwy, hlen] at hfeed
  have hword := shifts_injective hpoly _ hfeed
  exact hne (atTop_inj hlen hw ((BitVec.xor_right_inj _).1 hword))

/-! A stream read from a few bits too early. -/

theorem push_xor (poly c e : BitVec w) (b : Bool) :
    push poly (c ^^^ e) b = push poly c b ^^^ shift poly e := by
  unfold push
  rw [BitVec.xor_assoc, BitVec.xor_comm e, ← BitVec.xor_assoc, shift_xor]

/-- What two registers differ in only moves on. -/
theorem feed_xor (poly c e : BitVec w) (bits : List Bool) :
    feed poly (c ^^^ e) bits = feed poly c bits ^^^ shifts poly bits.length e := by
  induction bits generalizing c e with
  | nil => rfl
  | cons b bits ih =>
    have hstep : feed poly (c ^^^ e) (b :: bits) = feed poly (push poly (c ^^^ e) b) bits := rfl
    rw [hstep, push_xor, ih]
    rfl

/-- **A window that begins with `fill` and misses the `last` bits** leaves the register where the
whole stream does or not, whatever the rest of the stream is: only its length counts. -/
theorem feed_window (hpoly : poly.getLsbD 0 = true) (c : BitVec w)
    {window stream fill last : List Bool} (hslid : window ++ last = fill ++ stream) :
    feed poly c window = feed poly c stream ↔
      feed poly (feed poly c stream) last
        = feed poly c stream ^^^ shifts poly stream.length (feed poly c fill ^^^ c) := by
  have hboth : feed poly (feed poly c window) last
      = feed poly c stream ^^^ shifts poly stream.length (feed poly c fill ^^^ c) := by
    have hfill : feed poly c fill = c ^^^ (feed poly c fill ^^^ c) := by
      rw [BitVec.xor_comm, BitVec.xor_assoc, BitVec.xor_self, BitVec.xor_zero]
    rw [← feed_append, hslid, feed_append, hfill, feed_xor, ← hfill]
  rw [← hboth]
  constructor
  · intro h
    rw [h]
  · intro h
    exact (feed_injective hpoly last h).symm

/-- A window that is the whole stream: the stream repeats `fill`. -/
theorem eq_replicate_of_window {α : Type*} {stream fill last : List α}
    (h : stream ++ last = fill ++ stream) (n : ℕ) (hlen : stream.length = n * fill.length) :
    stream = (List.replicate n fill).flatten := by
  induction n generalizing stream with
  | zero => simpa using hlen
  | succ n ih =>
    have hle : fill.length ≤ stream.length := by
      rw [hlen, Nat.succ_mul]
      exact Nat.le_add_left ..
    obtain ⟨rest, rfl⟩ : fill <+: stream :=
      List.prefix_of_prefix_length_le ⟨stream, h.symm⟩ ⟨last, rfl⟩ hle
    rw [List.append_assoc] at h
    rw [List.length_append, Nat.succ_mul] at hlen
    rw [List.replicate_succ, List.flatten_cons, ← ih (List.append_cancel_left h) (by omega)]

end

/-! ### Lowest bit first -/

section

variable {w : ℕ}

/-- One step of a reflected register. -/
def shiftDown (poly c : BitVec w) : BitVec w := if c.getLsbD 0 then (c >>> 1) ^^^ poly else c >>> 1

def shiftsDown (poly : BitVec w) : ℕ → BitVec w → BitVec w
  | 0, c => c
  | n + 1, c => shiftsDown poly n (shiftDown poly c)

/-- A byte string, its bytes taken in at the bottom. -/
def feedDown (poly c : BitVec w) (bytes : List UInt8) : BitVec w :=
  bytes.foldl (fun c b => shiftsDown poly 8 (c ^^^ b.toBitVec.setWidth w)) c

/-- The reflected CRC of a byte string: all ones at first, and complemented at the end. -/
def reflected (poly : BitVec w) (bytes : List UInt8) : BitVec w :=
  feedDown poly (BitVec.allOnes w) bytes ^^^ BitVec.allOnes w

theorem shiftDown_xor (poly a b : BitVec w) :
    shiftDown poly (a ^^^ b) = shiftDown poly a ^^^ shiftDown poly b := by
  unfold shiftDown
  rw [BitVec.getLsbD_xor, BitVec.ushiftRight_xor_distrib]
  cases a.getLsbD 0 with
  | false => cases b.getLsbD 0 with
    | false => rfl
    | true => exact BitVec.xor_assoc ..
  | true => cases b.getLsbD 0 with
    | false =>
      change a >>> 1 ^^^ b >>> 1 ^^^ poly = a >>> 1 ^^^ poly ^^^ b >>> 1
      rw [BitVec.xor_assoc, BitVec.xor_comm (b >>> 1), BitVec.xor_assoc]
    | true =>
      change a >>> 1 ^^^ b >>> 1 = a >>> 1 ^^^ poly ^^^ (b >>> 1 ^^^ poly)
      rw [xor_xor_xor_comm, BitVec.xor_self, BitVec.xor_zero]

theorem shiftsDown_xor (poly : BitVec w) (n : ℕ) (a b : BitVec w) :
    shiftsDown poly n (a ^^^ b) = shiftsDown poly n a ^^^ shiftsDown poly n b := by
  induction n generalizing a b with
  | zero => rfl
  | succ n ih => rw [shiftsDown, shiftDown_xor, ih]; rfl

theorem shiftsDown_add (poly : BitVec w) (m n : ℕ) (c : BitVec w) :
    shiftsDown poly (m + n) c = shiftsDown poly n (shiftsDown poly m c) := by
  induction m generalizing c with
  | zero => rw [Nat.zero_add]; rfl
  | succ m ih => rw [Nat.succ_add, shiftsDown, ih]; rfl

/-- Bits that are not at the bottom yet only move. -/
theorem shiftsDown_high (poly : BitVec w) {n : ℕ} {c : BitVec w}
    (h : ∀ i < n, c.getLsbD i = false) : shiftsDown poly n c = c >>> n := by
  induction n generalizing c with
  | zero => exact (BitVec.ushiftRight_zero c).symm
  | succ n ih =>
    have hstep : shiftDown poly c = c >>> 1 := by
      unfold shiftDown
      rw [h 0 (Nat.succ_pos n), if_neg Bool.false_ne_true]
    rw [shiftsDown, hstep, ih, ← BitVec.shiftRight_add, Nat.add_comm]
    intro i hi
    rw [BitVec.getLsbD_ushiftRight]
    exact h (1 + i) (by omega)

/-- **`n` steps at once**: those of the low `n` bits, and the rest moved down. -/
theorem shiftsDown_low (poly : BitVec w) (n : ℕ) (c : BitVec w) :
    shiftsDown poly n c = shiftsDown poly n (c &&& BitVec.ofNat w (2 ^ n - 1)) ^^^ (c >>> n) := by
  have hsplit : c = (c &&& BitVec.ofNat w (2 ^ n - 1)) ^^^ (c &&& ~~~BitVec.ofNat w (2 ^ n - 1)) := by
    refine BitVec.eq_of_getLsbD_eq fun i hi => ?_
    rw [BitVec.getLsbD_xor, BitVec.getLsbD_and, BitVec.getLsbD_and, BitVec.getLsbD_not]
    cases c.getLsbD i <;> cases (BitVec.ofNat w (2 ^ n - 1)).getLsbD i <;> simp [hi]
  have hlow (i : ℕ) : (BitVec.ofNat w (2 ^ n - 1)).getLsbD i = (decide (i < w) && decide (i < n)) := by
    rw [BitVec.getLsbD_ofNat, Nat.testBit_two_pow_sub_one]
  have hhigh : shiftsDown poly n (c &&& ~~~BitVec.ofNat w (2 ^ n - 1)) = c >>> n := by
    rw [shiftsDown_high poly]
    · refine BitVec.eq_of_getLsbD_eq fun i hi => ?_
      rw [BitVec.getLsbD_ushiftRight, BitVec.getLsbD_ushiftRight, BitVec.getLsbD_and,
        BitVec.getLsbD_not, hlow]
      rcases Nat.lt_or_ge (n + i) w with hlt | hge
      · simp [hlt]
      · rw [BitVec.getLsbD_of_ge c _ hge]
        simp
    · intro i hi
      rw [BitVec.getLsbD_and, BitVec.getLsbD_not, hlow]
      simp [hi]
  conv_lhs => rw [hsplit]
  rw [shiftsDown_xor, hhigh]

theorem feedDown_append (poly c : BitVec w) (xs ys : List UInt8) :
    feedDown poly c (xs ++ ys) = feedDown poly (feedDown poly c xs) ys := List.foldl_append

end

end Crc
