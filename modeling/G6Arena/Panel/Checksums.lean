/-
# What the checksums catch

`crc8Autosar` and `crc16CcittFalse` are registers of the CRC library fed a byte at a time.  Data
with its CRC-8 leaves the register at a constant (`crc8_checks`); the CRC-16 tells apart two byte
strings that differ in one short burst (`crc16_burst`).

`crc32Update` looks up a nibble at a time what the reflected register does in four steps
(`crc32Nibble_eq`), so that chunks of any size leave it where the bit-by-bit CRC-32 of the
whole string is (`crc32_chunks`).
-/

import G6Arena.Lib.Crc
import G6Arena.Panel.Crc
import Mathlib.Tactic.SplitIfs

namespace G6Arena
namespace Panel

theorem crcBits_eq {w : ℕ} (poly : BitVec w) (n : ℕ) (c : BitVec w) :
    crcBits poly n c = Crc.shifts poly n c := by
  induction n generalizing c with
  | zero => rfl
  | succ n ih => exact ih _

/-! ### CRC-8 -/

/-- The CRC-8 is the register fed with the bits of the data, and complemented. -/
theorem crc8_eq (data : List UInt8) :
    (crc8Autosar data).toBitVec = Crc.feed 0x2F#8 0xFF#8 (Crc.bits data) ^^^ 0xFF#8 := by
  unfold crc8Autosar
  change data.foldl _ 0xFF#8 ^^^ 0xFF#8 = _
  congr 1
  generalize 0xFF#8 = c
  induction data generalizing c with
  | nil => rfl
  | cons b data ih =>
    rw [List.foldl_cons, ih, crcBits_eq, Crc.bits_cons, Crc.feed_append, Crc.feed_byteBits (Nat.le_refl 8),
      BitVec.setWidth_eq, Nat.sub_self, BitVec.shiftLeft_zero]

/-- What the register is left with by data and its CRC-8. -/
def crc8Residue : BitVec 8 := Crc.shifts 0x2F#8 8 0xFF#8

theorem crc8_checks (data : List UInt8) (crc : UInt8) :
    crc8Autosar data = crc ↔ Crc.feed 0x2F#8 0xFF#8 (Crc.bits (data ++ [crc])) = crc8Residue := by
  have hlast : Crc.bits [crc] = Crc.byteBits crc := List.append_nil _
  have hxor (a b : BitVec 8) : a ^^^ 0xFF#8 = b ↔ a ^^^ b = 0xFF#8 := by
    constructor
    · rintro rfl
      rw [← BitVec.xor_assoc, BitVec.xor_self, BitVec.zero_xor]
    · intro h
      rw [← h, ← BitVec.xor_assoc, BitVec.xor_self, BitVec.zero_xor]
  rw [← UInt8.toBitVec_inj, crc8_eq, Crc.bits_append, Crc.feed_append, hlast,
    Crc.feed_byteBits (Nat.le_refl 8), BitVec.setWidth_eq, Nat.sub_self, BitVec.shiftLeft_zero, hxor]
  exact (Crc.shifts_injective (by decide) 8).eq_iff.symm

/-! ### CRC-16 -/

/-- The CRC-16 is the register fed with the bits of the data. -/
theorem crc16_eq (data : List UInt8) :
    crc16CcittFalse data = (Crc.feed 0x1021#16 0xFFFF#16 (Crc.bits data)).toNat := by
  unfold crc16CcittFalse
  generalize 0xFFFF#16 = c
  congr 1
  induction data generalizing c with
  | nil => rfl
  | cons b data ih =>
    rw [List.foldl_cons, ih, crcBits_eq, Crc.bits_cons, Crc.feed_append,
      Crc.feed_byteBits (by decide)]
    rfl

/-- The two byte strings have the same bits but for `n` of them in a row. -/
def BurstOf (n : ℕ) (xs ys : List UInt8) : Prop :=
  xs.length = ys.length ∧ ∃ first, ∀ i, (i < first ∨ first + n ≤ i) →
    (Crc.bits xs)[i]? = (Crc.bits ys)[i]?

/-- The bits before, in and behind a burst. -/
theorem BurstOf.split {n : ℕ} {xs ys : List UInt8} (h : BurstOf n xs ys) :
    ∃ before bx by' after, Crc.bits xs = before ++ (bx ++ after) ∧
      Crc.bits ys = before ++ (by' ++ after) ∧ bx.length = by'.length ∧ bx.length ≤ n := by
  obtain ⟨hlen, first, hsame⟩ := h
  have hbits : (Crc.bits xs).length = (Crc.bits ys).length := by
    rw [Crc.length_bits, Crc.length_bits, hlen]
  have hbefore : (Crc.bits xs).take first = (Crc.bits ys).take first := by
    refine List.ext_getElem? fun i => ?_
    rw [List.getElem?_take, List.getElem?_take]
    split_ifs with hi
    · exact hsame i (.inl hi)
    · rfl
  have hafter : ((Crc.bits xs).drop first).drop n = ((Crc.bits ys).drop first).drop n := by
    refine List.ext_getElem? fun i => ?_
    rw [List.drop_drop, List.drop_drop, List.getElem?_drop, List.getElem?_drop]
    exact hsame _ (.inr (by omega))
  refine ⟨(Crc.bits xs).take first, ((Crc.bits xs).drop first).take n,
    ((Crc.bits ys).drop first).take n, ((Crc.bits xs).drop first).drop n, ?_, ?_, ?_, ?_⟩
  · rw [List.take_append_drop, List.take_append_drop]
  · rw [hbefore, hafter, List.take_append_drop, List.take_append_drop]
  · rw [List.length_take, List.length_take, List.length_drop, List.length_drop, hbits]
  · exact List.length_take_le ..

/-- Bytes in a row are a burst of their bits. -/
theorem burstOf_bytes {n : ℕ} {xs ys : List UInt8} (before after : List UInt8)
    (hlen : xs.length = ys.length) (hn : 8 * xs.length ≤ n) :
    BurstOf n (before ++ (xs ++ after)) (before ++ (ys ++ after)) := by
  refine ⟨by simp [hlen], 8 * before.length, fun i hi => ?_⟩
  rw [Crc.bits_append, Crc.bits_append, Crc.bits_append, Crc.bits_append]
  rcases hi with hi | hi
  · rw [List.getElem?_append_left (by rw [Crc.length_bits]; exact hi),
      List.getElem?_append_left (by rw [Crc.length_bits]; exact hi)]
  · rw [← List.append_assoc, ← List.append_assoc,
      List.getElem?_append_right (by rw [List.length_append, Crc.length_bits, Crc.length_bits]; omega),
      List.getElem?_append_right (by rw [List.length_append, Crc.length_bits, Crc.length_bits]; omega)]
    rw [List.length_append, List.length_append, Crc.length_bits, Crc.length_bits, Crc.length_bits, hlen]

/-- **The CRC-16 catches every burst of at most 16 bits.** -/
theorem crc16_burst {xs ys : List UInt8} (h : BurstOf 16 xs ys) (hne : xs ≠ ys) :
    crc16CcittFalse xs ≠ crc16CcittFalse ys := by
  obtain ⟨before, bx, by', after, hxs, hys, hlen, hn⟩ := h.split
  have hdiff : bx ≠ by' := by
    rintro rfl
    exact hne (Crc.bits_inj h.1 (hxs.trans hys.symm))
  rw [crc16_eq, crc16_eq, hxs, hys]
  exact fun heq => Crc.burst_detected (by decide) _ before after hlen hn hdiff
    (BitVec.eq_of_toNat_eq heq)

/-! ### CRC-32 -/

/-- The polynomial of `crc32_update`, reflected. -/
def crc32Poly : BitVec 32 := 0xEDB88320#32

/-- The table holds what four steps make of a nibble. -/
theorem crc32Table_eq (x : BitVec 32) :
    (crc32Table.getD (x &&& 15#32).toNat 0).toBitVec = Crc.shiftsDown crc32Poly 4 (x &&& 15#32) := by
  have hlt : (x &&& 15#32).toNat < 16 := by
    rw [BitVec.toNat_and]
    exact Nat.lt_succ_of_le Nat.and_le_right
  have htable : ∀ n : Fin 16,
      (crc32Table.getD n 0).toBitVec = Crc.shiftsDown crc32Poly 4 (BitVec.ofNat 32 n) := by decide
  have hnibble := htable ⟨(x &&& 15#32).toNat, hlt⟩
  rwa [BitVec.ofNat_toNat, BitVec.setWidth_eq] at hnibble

/-- **A look-up is four steps**, but for the rest of the byte, which is not moved down yet. -/
theorem crc32Nibble_eq (crc x : UInt32) :
    (crc32Table.getD ((crc ^^^ x) &&& 0xF).toNat 0 ^^^ (crc >>> 4)).toBitVec
      = Crc.shiftsDown crc32Poly 4 (crc.toBitVec ^^^ x.toBitVec) ^^^ (x.toBitVec >>> 4) := by
  have hlow : Crc.shiftsDown crc32Poly 4 (crc.toBitVec ^^^ x.toBitVec)
      = Crc.shiftsDown crc32Poly 4 ((crc.toBitVec ^^^ x.toBitVec) &&& 15#32)
        ^^^ (crc.toBitVec ^^^ x.toBitVec) >>> 4 := Crc.shiftsDown_low crc32Poly 4 _
  rw [BitVec.ushiftRight_xor_distrib] at hlow
  have htable : (crc32Table.getD ((crc ^^^ x) &&& 0xF).toNat 0).toBitVec
      = Crc.shiftsDown crc32Poly 4 ((crc.toBitVec ^^^ x.toBitVec) &&& 15#32) := crc32Table_eq _
  have hshift : (crc >>> 4).toBitVec = crc.toBitVec >>> 4 := rfl
  rw [UInt32.toBitVec_xor, htable, hshift, hlow, ← BitVec.xor_assoc,
    BitVec.xor_assoc _ (x.toBitVec >>> 4), BitVec.xor_self, BitVec.xor_zero]

/-- A byte of the table form is eight steps. -/
theorem crc32Byte_eq (crc : UInt32) (b : UInt8) :
    (crc32Byte crc b).toBitVec
      = Crc.shiftsDown crc32Poly 8 (crc.toBitVec ^^^ b.toBitVec.setWidth 32) := by
  have hhigh : (b >>> 4).toUInt32.toBitVec = b.toBitVec.setWidth 32 >>> 4 := by
    have hshift : (b >>> 4).toBitVec = b.toBitVec >>> 4 := rfl
    rw [UInt8.toBitVec_toUInt32, hshift, BitVec.setWidth_ushiftRight (by decide)]
  have hnone : b.toBitVec.setWidth 32 >>> 4 >>> 4 = 0#32 := by
    refine BitVec.eq_of_getLsbD_eq fun i _ => ?_
    rw [BitVec.getLsbD_ushiftRight, BitVec.getLsbD_ushiftRight, BitVec.getLsbD_setWidth,
      BitVec.getLsbD_of_ge b.toBitVec _ (by omega)]
    simp
  have hfirst := crc32Nibble_eq crc b.toUInt32
  rw [UInt8.toBitVec_toUInt32] at hfirst
  unfold crc32Byte
  dsimp only
  rw [crc32Nibble_eq, hfirst, hhigh, hnone, BitVec.xor_zero, BitVec.xor_assoc, BitVec.xor_self,
    BitVec.xor_zero, ← Crc.shiftsDown_add]

theorem crc32Update_eq (crc : UInt32) (data : List UInt8) :
    (crc32Update crc data).toBitVec = Crc.feedDown crc32Poly crc.toBitVec data := by
  unfold crc32Update Crc.feedDown
  induction data generalizing crc with
  | nil => rfl
  | cons b data ih => rw [List.foldl_cons, ih, crc32Byte_eq, List.foldl_cons]

theorem crc32Update_append (crc : UInt32) (xs ys : List UInt8) :
    crc32Update crc (xs ++ ys) = crc32Update (crc32Update crc xs) ys := List.foldl_append

/-- **The CRC-32 is the bitwise one.** -/
theorem crc32_eq (data : List UInt8) : (crc32 data).toBitVec = Crc.reflected crc32Poly data := by
  unfold crc32 Crc.reflected
  rw [UInt32.toBitVec_xor, crc32Update_eq]
  rfl

/-- **In chunks**, however they are cut. -/
theorem crc32_chunks (chunks : List (List UInt8)) :
    chunks.foldl crc32Update 0xFFFFFFFF ^^^ 0xFFFFFFFF = crc32 chunks.flatten := by
  unfold crc32
  congr 1
  generalize (0xFFFFFFFF : UInt32) = crc
  induction chunks generalizing crc with
  | nil => rfl
  | cons chunk chunks ih => rw [List.foldl_cons, ih, List.flatten_cons, crc32Update_append]

end Panel
end G6Arena
