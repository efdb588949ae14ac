/-
# The bytes that a patch may change

Patches leave a frame what it is, but for a few spots of each block: the parity bit of its header,
the low two bits of its opcode, and, where a duty is patched, its last byte (`SameFrame`).  A block
with a valid parity is known from the rest of it (`SameFrame.panelBlock_eq`).
-/

import G6Arena.Panel.Blocks

namespace G6Arena
namespace Panel

open ByteMem

/-- What patches may change of a byte. -/
inductive Spot
  | kept
  | header
  | opcode
  | duty
  deriving DecidableEq

/-- Bytes that are the same, but for what a patch may change. -/
def Spot.Same : Spot → UInt8 → UInt8 → Prop
  | .kept, b, b' => b' = b
  | .header, b, b' => versionBits b' = versionBits b
  | .opcode, b, b' => b' &&& 0xFC = b &&& 0xFC
  | .duty, _, _ => True

namespace Spot.Same

variable {k : Spot} {b b' b'' : UInt8}

theorem refl (k : Spot) (b : UInt8) : k.Same b b := by
  cases k
  · rfl
  · rfl
  · rfl
  · trivial

theorem symm (h : k.Same b b') : k.Same b' b := by
  cases k
  · exact Eq.symm h
  · exact Eq.symm h
  · exact Eq.symm h
  · trivial

theorem trans (h : k.Same b b') (h' : k.Same b' b'') : k.Same b b'' := by
  cases k
  · exact Eq.trans h' h
  · exact Eq.trans h' h
  · exact Eq.trans h' h
  · trivial

end Spot.Same

/-- The opcode in another mode is of the same family. -/
theorem dispOpcodeWithMode_family {mode : UInt8} (hmode : mode ≤ 3) (op : UInt8) :
    dispOpcodeWithMode (op &&& 0xFC) mode &&& 0xFC = op &&& 0xFC := by
  have hcases : mode = 0 ∨ mode = 1 ∨ mode = 2 ∨ mode = 3 := by
    revert hmode
    exact forall_byte (P := fun m => m ≤ 3 → m = 0 ∨ m = 1 ∨ m = 2 ∨ m = 3) (by decide +kernel) mode
  rcases hcases with rfl | rfl | rfl | rfl
  · exact forall_byte (P := fun op => dispOpcodeWithMode (op &&& 0xFC) 0 &&& 0xFC = op &&& 0xFC)
      (by decide +kernel) op
  · exact forall_byte (P := fun op => dispOpcodeWithMode (op &&& 0xFC) 1 &&& 0xFC = op &&& 0xFC)
      (by decide +kernel) op
  · exact forall_byte (P := fun op => dispOpcodeWithMode (op &&& 0xFC) 2 &&& 0xFC = op &&& 0xFC)
      (by decide +kernel) op
  · exact forall_byte (P := fun op => dispOpcodeWithMode (op &&& 0xFC) 3 &&& 0xFC = op &&& 0xFC)
      (by decide +kernel) op

/-- An opcode is known from its family and its mode. -/
theorem opcode_eq {op op' : UInt8} (hfamily : op' &&& 0xFC = op &&& 0xFC) (hmode : op' &&& 3 = op &&& 3) :
    op' = op := by
  have hsplit (op : UInt8) : op = dispOpcodeWithMode (op &&& 0xFC) (op &&& 3) :=
    forall_byte (P := fun op => op = dispOpcodeWithMode (op &&& 0xFC) (op &&& 3)) (by decide +kernel) op
  rw [hsplit op', hfamily, hmode, ← hsplit op]

theorem versionBits_versionBits (b : UInt8) : versionBits (versionBits b) = versionBits b :=
  forall_byte (P := fun b => versionBits (versionBits b) = versionBits b) (by decide +kernel) b

/-- The parity bit of a header. -/
def parityBit (header : UInt8) : UInt8 := (header >>> 7) &&& 1

/-- A header is known from its version bits and its parity bit. -/
theorem header_eq {b b' : UInt8} (hversion : versionBits b' = versionBits b)
    (hparity : parityBit b' = parityBit b) : b' = b := by
  have hsplit (b : UInt8) : b = stampedHeader (versionBits b) (parityBit b) :=
    forall_byte (P := fun b => b = stampedHeader (versionBits b) (parityBit b)) (by decide +kernel) b
  rw [hsplit b', hversion, hparity, ← hsplit b]

/-! ### Spots of a frame -/

section

variable [Board]

/-- The spot of a byte of a frame of blocks of a size, with a duty patched or not. -/
def spot (len : ℕ) (duty : Bool) (i : ℕ) : Spot :=
  if streamFramePrefixByteCount ≤ i ∧ i < streamFramePrefixByteCount + panelCountPerFrame * len then
    let r := (i - streamFramePrefixByteCount) % len
    if r = 0 then .header else if r = 1 then .opcode else if duty && r + 1 = len then .duty else .kept
  else .kept

/-- Frames that are the same, but for what a patch may change. -/
def SameFrame (len : ℕ) (duty : Bool) (buf buf' : Mem) : Prop :=
  ∀ i, (spot len duty i).Same (buf i) (buf' i)

variable {len : ℕ} {duty : Bool} {buf buf' buf'' : Mem} {p r : ℕ}

theorem spot_of_block (hp : p < panelCountPerFrame) (hr : r < len) :
    spot len duty (streamFramePrefixByteCount + p * len + r)
      = if r = 0 then .header else if r = 1 then .opcode
        else if duty && r + 1 = len then .duty else .kept := by
  have hnext : (p + 1) * len ≤ panelCountPerFrame * len := Nat.mul_le_mul_right _ hp
  have hstep : (p + 1) * len = p * len + len := Nat.succ_mul p len
  have hmod : (streamFramePrefixByteCount + p * len + r - streamFramePrefixByteCount) % len = r := by
    rw [Nat.add_assoc, Nat.add_sub_cancel_left, Nat.mul_comm, Nat.mul_add_mod, Nat.mod_eq_of_lt hr]
  unfold spot
  rw [if_pos ⟨by omega, by omega⟩]
  dsimp only
  rw [hmod]

namespace SameFrame

theorem refl (len : ℕ) (duty : Bool) (buf : Mem) : SameFrame len duty buf buf := fun _ => .refl _ _

theorem symm (h : SameFrame len duty buf buf') : SameFrame len duty buf' buf := fun i => (h i).symm

theorem trans (h : SameFrame len duty buf buf') (h' : SameFrame len duty buf' buf'') :
    SameFrame len duty buf buf'' := fun i => (h i).trans (h' i)

/-- Where no duty is patched, less may change. -/
theorem of_false (h : SameFrame len false buf buf') (duty : Bool) : SameFrame len duty buf buf' := by
  intro i
  have hi := h i
  unfold spot at hi ⊢
  dsimp only at hi ⊢
  rw [Bool.false_and, if_neg Bool.false_ne_true] at hi
  split_ifs at hi ⊢
  · exact hi
  · exact hi
  · trivial
  · exact hi
  · exact hi

/-- The same bytes stored at the start. -/
theorem store (h : SameFrame len duty buf buf') (bytes : List UInt8) :
    SameFrame len duty (ByteMem.store buf 0 bytes) (ByteMem.store buf' 0 bytes) := by
  intro i
  by_cases hi : i < bytes.length
  · rw [← Nat.zero_add i, store_apply_add _ _ _ hi, store_apply_add _ _ _ hi]
    exact .refl _ _
  · rw [store_apply_of_ge _ _ (by omega), store_apply_of_ge _ _ (by omega)]
    exact h i

/-- A change of one byte. -/
theorem byte {b : UInt8} {i : ℕ} (h : (spot len duty i).Same (buf i) b) :
    SameFrame len duty buf (ByteMem.store buf i [b]) := by
  intro j
  rcases Nat.lt_trichotomy j i with hlt | rfl | hgt
  · rw [store_apply_of_lt _ _ hlt]
    exact .refl _ _
  · have hstored : ByteMem.store buf j [b] (j + 0) = b := store_apply_add _ _ [b] Nat.zero_lt_one
    rw [Nat.add_zero] at hstored
    rwa [hstored]
  · rw [store_apply_of_ge _ _ (by simp only [List.length_singleton]; omega)]
    exact .refl _ _

theorem stamp (hlen : 2 ≤ len) (hp : p < panelCountPerFrame) (buf : Mem) : SameFrame len duty buf
    (stampHeaderParity buf (streamFramePrefixByteCount + p * len) len) := by
  have hspot : spot len duty (streamFramePrefixByteCount + p * len) = .header :=
    spot_of_block hp (show 0 < len by omega)
  unfold stampHeaderParity
  rw [if_neg (by omega)]
  refine byte ?_
  rw [hspot]
  have hbits := (stampedHeader_bits (buf (streamFramePrefixByteCount + p * len))
    (computeParityBit_cases (versionBits (buf (streamFramePrefixByteCount + p * len)))
      (buf (streamFramePrefixByteCount + p * len + 1))
      (bytesAt buf (streamFramePrefixByteCount + p * len + 2) (len - 2)))).1
  rw [versionBits_versionBits] at hbits
  exact hbits

/-- **Changes of spots, block by block.** -/
theorem eachBlock {change : ℕ → Mem → Mem} (hlen : 2 ≤ len)
    (hchange : ∀ q < panelCountPerFrame, ∀ buf,
      SameFrame len duty buf (change (streamFramePrefixByteCount + q * len) buf))
    {n : ℕ} (hn : p + n ≤ panelCountPerFrame) (buf : Mem) :
    SameFrame len duty buf (Panel.eachBlock len change p n buf) := by
  induction n generalizing p buf with
  | zero => exact .refl _ _ _
  | succ n ih =>
    unfold Panel.eachBlock
    dsimp only
    exact ((hchange p (by omega) buf).trans (.stamp hlen (by omega) _)).trans (ih (by omega) _)

/-- The bytes of a block. -/
theorem getD_panelBlock (h : SameFrame len duty buf buf') (hp : p < panelCountPerFrame) (hr : r < len) :
    (if r = 0 then Spot.header else if r = 1 then .opcode
      else if duty && r + 1 = len then .duty else .kept).Same
        ((panelBlock buf len p).getD r 0) ((panelBlock buf' len p).getD r 0) := by
  have hi := h (streamFramePrefixByteCount + p * len + r)
  rw [spot_of_block hp hr] at hi
  unfold panelBlock
  rw [getD_bytesAt _ _ _ _ hr, getD_bytesAt _ _ _ _ hr]
  exact hi

/-- **A block is known from the rest of it.** -/
theorem panelBlock_eq (h : SameFrame len duty buf buf') (hlen : 3 ≤ len) (hp : p < panelCountPerFrame)
    (hopcode : opcodeOf (panelBlock buf' len p) &&& 3 = opcodeOf (panelBlock buf len p) &&& 3)
    (hduty : duty = true →
      (panelBlock buf' len p).getD (len - 1) 0 = (panelBlock buf len p).getD (len - 1) 0)
    (hparity : validateParity (panelBlock buf len p) = true)
    (hparity' : validateParity (panelBlock buf' len p) = true) :
    panelBlock buf' len p = panelBlock buf len p := by
  obtain ⟨n, rfl⟩ := Nat.exists_eq_add_of_le' (show 2 ≤ len by omega)
  have hbytes (r : ℕ) (hr : r < n + 2) := h.getD_panelBlock hp hr
  have hop : opcodeOf (panelBlock buf' (n + 2) p) = opcodeOf (panelBlock buf (n + 2) p) :=
    opcode_eq (hbytes 1 (by omega)) hopcode
  have hpayload (r : ℕ) (h2 : 2 ≤ r) (hr : r < n + 2) :
      (panelBlock buf' (n + 2) p).getD r 0 = (panelBlock buf (n + 2) p).getD r 0 := by
    have hb := hbytes r hr
    rw [if_neg (by omega), if_neg (by omega)] at hb
    split_ifs at hb with hlast
    · rw [Bool.and_eq_true, decide_eq_true_eq] at hlast
      obtain rfl : r = n + 2 - 1 := by omega
      exact hduty hlast.1
    · exact hb
  have hhead := hbytes 0 (by omega)
  rw [if_pos rfl] at hhead
  unfold panelBlock opcodeOf at *
  simp only [bytesAt_succ, List.getD_cons_zero, List.getD_cons_succ] at hop hhead hparity hparity' ⊢
  have htail : bytesAt buf' (streamFramePrefixByteCount + p * (n + 2) + 1 + 1) n
      = bytesAt buf (streamFramePrefixByteCount + p * (n + 2) + 1 + 1) n := by
    refine bytesAt_congr fun i hi hin => ?_
    have hr := hpayload (i - (streamFramePrefixByteCount + p * (n + 2))) (by omega) (by omega)
    rw [getD_bytesAt _ _ _ _ (by omega), getD_bytesAt _ _ _ _ (by omega)] at hr
    rwa [Nat.add_sub_cancel' (by omega)] at hr
  unfold validateParity at hparity hparity'
  rw [decide_eq_true_iff] at hparity hparity'
  rw [htail, hop, computeParityBit_congr hhead, hparity] at hparity'
  have hheader := header_eq hhead hparity'.symm
  rw [htail, hop, hheader]

/-- **A frame is known from its blocks.** -/
theorem eq_of_blocks (h : SameFrame len duty buf buf') (hlen : 3 ≤ len)
    (hblocks : ∀ p < panelCountPerFrame, panelBlock buf' len p = panelBlock buf len p) : buf' = buf := by
  funext i
  by_cases hi : streamFramePrefixByteCount ≤ i ∧
      i < streamFramePrefixByteCount + panelCountPerFrame * len
  · obtain ⟨j, rfl⟩ := Nat.exists_eq_add_of_le hi.1
    have hp : j / len < panelCountPerFrame := Nat.div_lt_of_lt_mul (by rw [Nat.mul_comm]; omega)
    have hr : j % len < len := Nat.mod_lt _ (by omega)
    have hsplit : j / len * len + j % len = j := Nat.div_add_mod' j len
    have hbyte := congrArg (fun block => block.getD (j % len) 0) (hblocks _ hp)
    unfold panelBlock at hbyte
    rwa [getD_bytesAt _ _ _ _ hr, getD_bytesAt _ _ _ _ hr, Nat.add_assoc, hsplit] at hbyte
  · have hkept := h i
    unfold spot at hkept
    rwa [if_neg hi] at hkept

end SameFrame

end

end Panel
end G6Arena
