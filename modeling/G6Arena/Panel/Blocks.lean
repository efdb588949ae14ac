/-
# The blocks of a frame

What a loop over the blocks of a frame leaves in each: a change that stays within its block,
and the parity stamped after it (`panelBlock_eachBlock`).  The parity of a block that was just
stamped is valid, and no other byte of it has changed (`bytesAt_stampHeaderParity`).
-/

import G6Arena.Panel.Spi

namespace G6Arena
namespace Panel

open ByteMem

/-- `validate_parity`. -/
def validateParity : List UInt8 → Bool
  | header :: cmd :: payload => computeParityBit header cmd payload = (header >>> 7) &&& 1
  | _ => false

/-- The opcode of a block. -/
def opcodeOf (block : List UInt8) : UInt8 := block.getD 1 0

/-! ### Bytes -/

/-- A property of bytes, checked for each. -/
theorem forall_byte {P : UInt8 → Prop} (h : ∀ n < 256, P (UInt8.ofNat n)) (b : UInt8) : P b := by
  have hb := h b.toNat b.toNat_lt
  rwa [UInt8.ofNat_toNat] at hb

/-- The opcode with a mode: its low two bits are the mode. -/
theorem dispOpcodeWithMode_mode {mode : UInt8} (hmode : mode ≤ 3) (op : UInt8) :
    dispOpcodeWithMode (op &&& 0xFC) mode &&& 3 = mode := by
  have hcases : mode = 0 ∨ mode = 1 ∨ mode = 2 ∨ mode = 3 := by
    revert hmode
    exact forall_byte (P := fun m => m ≤ 3 → m = 0 ∨ m = 1 ∨ m = 2 ∨ m = 3) (by decide +kernel) mode
  rcases hcases with rfl | rfl | rfl | rfl
  · exact forall_byte (P := fun op => dispOpcodeWithMode (op &&& 0xFC) 0 &&& 3 = 0) (by decide +kernel) op
  · exact forall_byte (P := fun op => dispOpcodeWithMode (op &&& 0xFC) 1 &&& 3 = 1) (by decide +kernel) op
  · exact forall_byte (P := fun op => dispOpcodeWithMode (op &&& 0xFC) 2 &&& 3 = 2) (by decide +kernel) op
  · exact forall_byte (P := fun op => dispOpcodeWithMode (op &&& 0xFC) 3 &&& 3 = 3) (by decide +kernel) op

theorem computeParityBit_cases (version cmd : UInt8) (payload : List UInt8) :
    computeParityBit version cmd payload = 0 ∨ computeParityBit version cmd payload = 1 := by
  unfold computeParityBit
  rcases Nat.mod_two_eq_zero_or_one (popcount (version &&& 0x7F) + popcount cmd
    + (payload.map popcount).sum) with h | h <;> rw [h]
  · exact .inl rfl
  · exact .inr rfl

/-- The version bits of a header. -/
def versionBits (header : UInt8) : UInt8 := header &&& 0x7F

/-- The header of a version with a parity bit. -/
def stampedHeader (version p : UInt8) : UInt8 := version ||| (p <<< 7)

/-- Its version bits and its parity bit. -/
theorem stampedHeader_bits (b : UInt8) {p : UInt8} (hp : p = 0 ∨ p = 1) :
    versionBits (stampedHeader (versionBits b) p) = versionBits (versionBits b) ∧
      (stampedHeader (versionBits b) p >>> 7) &&& 1 = p := by
  rcases hp with rfl | rfl
  · exact forall_byte (P := fun b => versionBits (stampedHeader (versionBits b) 0)
      = versionBits (versionBits b) ∧ (stampedHeader (versionBits b) 0 >>> 7) &&& 1 = 0)
      (by decide +kernel) b
  · exact forall_byte (P := fun b => versionBits (stampedHeader (versionBits b) 1)
      = versionBits (versionBits b) ∧ (stampedHeader (versionBits b) 1 >>> 7) &&& 1 = 1)
      (by decide +kernel) b

/-- The parity counts the version bits of a header alone. -/
theorem computeParityBit_congr {v v' : UInt8} (h : versionBits v = versionBits v') (cmd : UInt8)
    (payload : List UInt8) : computeParityBit v cmd payload = computeParityBit v' cmd payload := by
  unfold versionBits at h
  unfold computeParityBit
  rw [h]

/-! ### The stamp -/

/-- A block that is stamped: a new header, and the rest of it. -/
theorem bytesAt_stampHeaderParity (buf : Mem) (off n : ℕ) :
    bytesAt (stampHeaderParity buf off (n + 2)) off (n + 2)
      = stampedHeader (versionBits (buf off)) (computeParityBit (versionBits (buf off)) (buf (off + 1))
          (bytesAt buf (off + 2) n)) :: buf (off + 1) :: bytesAt buf (off + 2) n := by
  unfold stampHeaderParity
  rw [if_neg (by omega), bytesAt_succ, bytesAt_succ]
  dsimp only
  rw [Nat.add_sub_cancel]
  congr 1
  · exact store_apply_add _ off [stampedHeader (versionBits (buf off)) _] Nat.zero_lt_one
  · rw [store_apply_of_ge _ _ (by rfl), bytesAt_store_of_disjoint _ _ (.inr (by simp))]

/-- A stamp changes the header alone. -/
theorem stampHeaderParity_apply_ne (buf : Mem) {off i : ℕ} (len : ℕ) (h : i ≠ off) :
    stampHeaderParity buf off len i = buf i := by
  unfold stampHeaderParity
  split_ifs with hlen
  · rfl
  · rcases Nat.lt_or_gt_of_ne h with h | h
    · exact store_apply_of_lt _ _ h
    · exact store_apply_of_ge _ _ (by simp only [List.length_singleton]; omega)

/-- A stamp leaves what is outside its block. -/
theorem stampHeaderParity_apply (buf : Mem) {off len i : ℕ} (h : i < off ∨ off + len ≤ i) :
    stampHeaderParity buf off len i = buf i := by
  unfold stampHeaderParity
  split_ifs with hlen
  · rfl
  · rcases h with h | h
    · exact store_apply_of_lt _ _ h
    · exact store_apply_of_ge _ _ (by simp; omega)

/-- **A block that is stamped has a valid parity.** -/
theorem validateParity_stampHeaderParity (buf : Mem) (off : ℕ) {len : ℕ} (hlen : 2 ≤ len) :
    validateParity (bytesAt (stampHeaderParity buf off len) off len) = true := by
  obtain ⟨n, rfl⟩ := Nat.exists_eq_add_of_le' hlen
  rw [bytesAt_stampHeaderParity]
  unfold validateParity
  rw [decide_eq_true_iff]
  have hparity := computeParityBit_cases (versionBits (buf off)) (buf (off + 1))
    (bytesAt buf (off + 2) n)
  obtain ⟨hversion, hbit⟩ := stampedHeader_bits (buf off) hparity
  rw [computeParityBit_congr hversion, hbit]

/-- A stamp leaves the opcode. -/
theorem opcodeOf_stampHeaderParity (buf : Mem) (off : ℕ) {len : ℕ} (hlen : 2 ≤ len) :
    opcodeOf (bytesAt (stampHeaderParity buf off len) off len) = buf (off + 1) := by
  obtain ⟨n, rfl⟩ := Nat.exists_eq_add_of_le' hlen
  rw [bytesAt_stampHeaderParity]
  rfl

theorem opcodeOf_bytesAt (buf : Mem) (off : ℕ) {len : ℕ} (hlen : 2 ≤ len) :
    opcodeOf (bytesAt buf off len) = buf (off + 1) :=
  getD_bytesAt buf off len 1 (by omega)

/-! ### Each block -/

section

variable {len : ℕ} {change : ℕ → Mem → Mem}

/-- A change of a block stays within it. -/
def StaysIn (len : ℕ) (change : ℕ → Mem → Mem) : Prop :=
  ∀ off buf i, i < off ∨ off + len ≤ i → change off buf i = buf i

/-- What is outside the blocks is left. -/
theorem eachBlock_apply (hchange : StaysIn len change) {n p : ℕ} {buf : Mem} {i : ℕ}
    (h : i < streamFramePrefixByteCount + p * len ∨ streamFramePrefixByteCount + (p + n) * len ≤ i) :
    eachBlock len change p n buf i = buf i := by
  induction n generalizing p buf with
  | zero => rfl
  | succ n ih =>
    have hnext : (p + 1 + n) * len = (p + (n + 1)) * len := by
      congr 1
      omega
    have hstep : (p + 1) * len = p * len + len := Nat.succ_mul p len
    have hmono : (p + 1) * len ≤ (p + 1 + n) * len := Nat.mul_le_mul_right _ (by omega)
    unfold eachBlock
    dsimp only
    rw [ih (by omega), stampHeaderParity_apply _ (by omega)]
    exact hchange _ _ _ (by omega)

/-- **Each block becomes what the change makes of it, stamped.** -/
theorem panelBlock_eachBlock (P₀ P : List UInt8 → Prop) (hchange : StaysIn len change)
    (hmakes : ∀ off buf, P₀ (bytesAt buf off len) →
      P (bytesAt (stampHeaderParity (change off buf) off len) off len))
    {n p : ℕ} {buf : Mem} (h : ∀ q, p ≤ q → q < p + n → P₀ (panelBlock buf len q)) {q : ℕ}
    (hp : p ≤ q) (hq : q < p + n) : P (panelBlock (eachBlock len change p n buf) len q) := by
  induction n generalizing p buf with
  | zero => omega
  | succ n ih =>
    have hstep : (p + 1) * len = p * len + len := Nat.succ_mul p len
    unfold eachBlock
    dsimp only
    rcases Nat.eq_or_lt_of_le hp with rfl | hlt
    · have hmade := hmakes _ _ (h p le_rfl (by omega))
      unfold panelBlock
      rwa [bytesAt_congr (fun i _ hi => eachBlock_apply hchange (.inl (by omega)))]
    · refine ih (fun q' hp' hq' => ?_) hlt (by omega)
      have hmul : (p + 1) * len ≤ q' * len := Nat.mul_le_mul_right _ hp'
      have hkept : panelBlock (stampHeaderParity (change (streamFramePrefixByteCount + p * len) buf)
          (streamFramePrefixByteCount + p * len) len) len q' = panelBlock buf len q' := by
        unfold panelBlock
        refine bytesAt_congr fun i hi _ => ?_
        rw [stampHeaderParity_apply _ (.inr (by omega))]
        exact hchange _ _ _ (.inr (by omega))
      rw [hkept]
      exact h q' (by omega) (by omega)

/-- The same block for each panel. -/
theorem panelBlock_fillBlocks {block : List UInt8} (hblock : block.length = len) (hlen : 2 ≤ len)
    {n : ℕ} {buf : Mem} {q : ℕ} (hq : q < n) :
    validateParity (panelBlock (fillBlocks len block n buf) len q) = true ∧
      opcodeOf (panelBlock (fillBlocks len block n buf) len q) = opcodeOf block := by
  unfold fillBlocks
  refine panelBlock_eachBlock (fun _ => True) (fun b => validateParity b = true ∧
    opcodeOf b = opcodeOf block) (fun off buf i hi => ?_) (fun off buf _ => ⟨?_, ?_⟩)
    (fun _ _ _ => trivial) (Nat.zero_le q) (by omega)
  · rcases hi with hi | hi
    · exact store_apply_of_lt _ _ hi
    · exact store_apply_of_ge _ _ (by omega)
  · exact validateParity_stampHeaderParity _ _ hlen
  · rw [opcodeOf_stampHeaderParity _ _ hlen]
    exact store_apply_add _ _ _ (by omega)

end

end Panel
end G6Arena
