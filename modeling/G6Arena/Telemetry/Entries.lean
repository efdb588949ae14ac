/-
# What the ring holds

The bytes between `read_off` and `write_off` are a chain of entries, records and
`PAD`s, in the sense of `ByteRing.Chain`.  `Holds P r segs` says that ring `r`
holds the entries `segs`, each of them satisfying `P` at its offset.

The predicates of the code read the ring at an offset; on a ring that holds
entries they agree with the same predicates read off the entry itself
(`Holds.wellFormedAt`, `Holds.isPadAt`, `Holds.seqAt`), and conversely an entry
that `wellFormedAt` accepts is a well-formed one (`entry_of_wellFormedAt`).
-/

import G6Arena.Telemetry.Ring

namespace G6Arena
namespace Telemetry

open ByteMem ByteRing BoundedLoop

/-! ### Entries -/

/-- An entry as a memory of its own. -/
def asMem (seg : List UInt8) : Mem := fun i => seg.getD i 0

/-- Is the entry a `PAD`? -/
def isPad (seg : List UInt8) : Bool := isPadAt (asMem seg) 0

/-- The sequence number of a record. -/
def seqOf (seg : List UInt8) : ℕ := seqAt (asMem seg) 0

/-- An entry whose length byte is its length and whose shape is one of a type. -/
structure WellFormed (seg : List UInt8) : Prop where
  len : (asMem seg 0).toNat = seg.length
  pos : 0 < seg.length
  shape : shapeAt (asMem seg) 0 = true

/-- The records among the entries. -/
def records (segs : List (List UInt8)) : List (List UInt8) := segs.filter fun seg => !isPad seg

@[simp] theorem records_nil : records [] = [] := rfl

theorem records_cons_of_pad {seg : List UInt8} (h : isPad seg = true) (segs : List (List UInt8)) :
    records (seg :: segs) = records segs := by
  simp [records, h]

theorem records_cons_of_not_pad {seg : List UInt8} (h : isPad seg = false)
    (segs : List (List UInt8)) : records (seg :: segs) = seg :: records segs := by
  simp [records, h]

@[simp] theorem records_append (s t : List (List UInt8)) :
    records (s ++ t) = records s ++ records t := by
  simp [records]

theorem isPad_of_mem_records {seg : List UInt8} {segs : List (List UInt8)}
    (h : seg ∈ records segs) : isPad seg = false := by
  simpa [records] using (List.mem_filter.1 h).2

theorem mem_of_mem_records {seg : List UInt8} {segs : List (List UInt8)}
    (h : seg ∈ records segs) : seg ∈ segs :=
  (List.mem_filter.1 h).1

/-- A record is at least a record header long. -/
theorem kRecordHeaderLen_le {seg : List UInt8} (h : WellFormed seg) (hp : isPad seg = false) :
    kRecordHeaderLen ≤ seg.length := by
  simp only [isPad, isPadAt, h.len, Bool.or_eq_false_iff, decide_eq_false_iff_not] at hp
  omega

theorem WellFormed.length_lt {seg : List UInt8} (h : WellFormed seg) : seg.length < 256 := by
  rw [← h.len]
  exact UInt8.toNat_lt _

/-- A record has a record's length: at most `kRecordLenMax` bytes. -/
theorem WellFormed.length_le {seg : List UInt8} (h : WellFormed seg) (hp : isPad seg = false) :
    seg.length ≤ kRecordLenMax := by
  have hl := kRecordHeaderLen_le h hp
  have hs := h.shape
  simp only [isPad, isPadAt, Bool.or_eq_false_iff, decide_eq_false_iff_not] at hp
  simp only [shapeAt, h.len, if_neg (show ¬ seg.length < kRecordHeaderLen by omega), if_neg hp.2]
    at hs
  have hmax : kRecordLenMax = 26 := rfl
  have hcmd : kCmdRecordLenMax = 21 := rfl
  split_ifs at hs
  · simp only [Bool.and_eq_true, decide_eq_true_eq] at hs
    omega
  · rw [of_decide_eq_true hs, hmax]; decide
  · rw [of_decide_eq_true hs, hmax]; decide

/-! ### Entries in memory -/

variable {data : Mem} {off w : ℕ} {seg : List UInt8}

theorem asMem_eq (h : bytesAt data off seg.length = seg) {i : ℕ} (hi : i < seg.length) :
    asMem seg i = data (off + i) := by
  rw [asMem, ← h, getD_bytesAt data off _ i (by simpa using hi)]

theorem shapeAt_asMem (h : bytesAt data off seg.length = seg) (hpos : 0 < seg.length)
    (hlen : (data off).toNat = seg.length) : shapeAt (asMem seg) 0 = shapeAt data off := by
  have h0 : asMem seg 0 = data off := asMem_eq h hpos
  rcases Nat.lt_or_ge seg.length 2 with h2 | h2
  · have h1 : seg.length = 1 := by omega
    simp [shapeAt, h0, hlen, h1, kRecordHeaderLen]
  · have h1 : asMem seg (0 + 1) = data (off + 1) := by rw [Nat.zero_add]; exact asMem_eq h h2
    rcases Nat.lt_or_ge seg.length 13 with h13 | h13
    · have hc : ¬ kRecordHeaderLen + 3 ≤ seg.length := by unfold kRecordHeaderLen; omega
      simp only [shapeAt, h0, hlen, h1, hc, decide_false, Bool.false_and]
    · have h12 : asMem seg (0 + 12) = data (off + 12) := by
        rw [Nat.zero_add]; exact asMem_eq h (by omega)
      simp only [shapeAt, h0, hlen, h1, h12]

theorem isPadAt_asMem (h : bytesAt data off seg.length = seg) (hpos : 0 < seg.length)
    (hlen : (data off).toNat = seg.length) : isPad seg = isPadAt data off := by
  have h0 : asMem seg 0 = data off := asMem_eq h hpos
  rcases Nat.lt_or_ge seg.length 2 with h2 | h2
  · have h1 : seg.length = 1 := by omega
    simp [isPad, isPadAt, h0, hlen, h1, kRecordHeaderLen]
  · have h1 : asMem seg (0 + 1) = data (off + 1) := by rw [Nat.zero_add]; exact asMem_eq h h2
    simp only [isPad, isPadAt, h0, hlen, h1]

theorem seqAt_asMem (h : bytesAt data off seg.length = seg) (h6 : 6 ≤ seg.length) :
    seqOf seg = seqAt data off := by
  have hb : bytesAt (asMem seg) (0 + 2) 4 = bytesAt data (off + 2) 4 := by
    refine List.ext_getElem (by simp) fun i hi _ => ?_
    have hi4 : i < 4 := by simpa using hi
    simp only [bytesAt, List.getElem_map, List.getElem_range]
    rw [asMem_eq h (by omega)]
    congr 1; omega
  simp only [seqOf, seqAt, wordAt, hb]

/-- **What `wellFormedAt` accepts is a well-formed entry** that ends in the area and
does not straddle the write cursor. -/
theorem entry_of_wellFormedAt (h : wellFormedAt data off w = true) :
    ∃ seg, bytesAt data off seg.length = seg ∧ (data off).toNat = seg.length ∧ WellFormed seg ∧
      off + seg.length ≤ kDataSize ∧ (off < w → off + seg.length ≤ w) := by
  unfold wellFormedAt at h
  simp only at h
  split_ifs at h with h₁ h₂ h₃
  have hl : (bytesAt data off (data off).toNat).length = (data off).toNat := length_bytesAt ..
  refine ⟨bytesAt data off (data off).toNat, by rw [hl], hl.symm, ?_, by omega, by omega⟩
  have hb : bytesAt data off (bytesAt data off (data off).toNat).length
      = bytesAt data off (data off).toNat := by rw [hl]
  refine ⟨?_, by omega, ?_⟩
  · rw [asMem_eq hb (by omega), Nat.add_zero, hl]
  · rw [shapeAt_asMem hb (by omega) hl.symm, h]

/-- Conversely, a well-formed entry that ends in the area and does not straddle the
write cursor is accepted. -/
theorem wellFormedAt_of_entry (hb : bytesAt data off seg.length = seg) (hs : WellFormed seg)
    (hfit : off + seg.length ≤ kDataSize) (hcross : off < w → off + seg.length ≤ w) :
    wellFormedAt data off w = true ∧ (data off).toNat = seg.length := by
  have hlen : (data off).toNat = seg.length := by
    have := asMem_eq hb hs.pos
    rw [Nat.add_zero] at this
    rw [← this, hs.len]
  have hpos := hs.pos
  have hshape := hs.shape
  rw [shapeAt_asMem hb hpos hlen] at hshape
  refine ⟨?_, hlen⟩
  simp only [wellFormedAt, hlen, hshape]
  rw [if_neg (by omega), if_neg (by omega), if_neg (by omega)]

/-! ### Rings that hold entries -/

/-- A property of entries at their offsets that the ring's operations keep: it holds
of every well-formed record, and of every `PAD` that ends at the end of the area. -/
structure EntryPred (P : ℕ → List UInt8 → Prop) : Prop where
  wellFormed : ∀ {o seg}, P o seg → WellFormed seg
  ofRecord : ∀ {o seg}, WellFormed seg → isPad seg = false → P o seg
  ofPad : ∀ {o seg}, WellFormed seg → o + seg.length = kDataSize → P o seg

/-- Ring `r` holds the entries `segs`. -/
structure Holds (P : ℕ → List UInt8 → Prop) (r : Ring) (segs : List (List UInt8)) : Prop where
  read_lt : r.hdr.readOff < kDataSize
  chain : Chain kDataSize P r.data r.hdr.writeOff r.hdr.readOff segs
  total_lt : total segs < kDataSize

/-- Every entry is well formed. -/
def Entry (_ : ℕ) (seg : List UInt8) : Prop := WellFormed seg

/-- Every entry is well formed and every `PAD` ends at the end of the area. -/
def EntryEnd (o : ℕ) (seg : List UInt8) : Prop :=
  WellFormed seg ∧ (isPad seg = true → o + seg.length = kDataSize)

theorem entryPred_entry : EntryPred Entry :=
  ⟨fun h => h, fun h _ => h, fun h _ => h⟩

theorem entryPred_entryEnd : EntryPred EntryEnd :=
  ⟨fun h => h.1, fun h hp => ⟨h, fun h' => by rw [hp] at h'; cases h'⟩, fun h he => ⟨h, fun _ => he⟩⟩

variable {P : ℕ → List UInt8 → Prop} {r : Ring} {segs : List (List UInt8)}

theorem Holds.write_lt (h : Holds P r segs) : r.hdr.writeOff < kDataSize :=
  (h.chain.ends h.read_lt h.total_lt).1

theorem Holds.usedBytes (h : Holds P r segs) : usedBytes r.hdr = total segs :=
  h.chain.used_eq h.read_lt h.total_lt

theorem Holds.freeBytes (h : Holds P r segs) : freeBytes r.hdr = kDataSize - 1 - total segs := by
  rw [Telemetry.freeBytes, h.usedBytes]

theorem Holds.mono {Q : ℕ → List UInt8 → Prop} (h : Holds P r segs)
    (hPQ : ∀ o seg, P o seg → Q o seg) : Holds Q r segs :=
  ⟨h.read_lt, h.chain.mono hPQ, h.total_lt⟩

theorem Holds.wellFormed (hP : EntryPred P) (h : Holds P r segs) : ∀ seg ∈ segs, WellFormed seg :=
  h.chain.forall fun _ _ => hP.wellFormed

/-- What the walkers of the code see at an offset where a chain starts. -/
theorem walk_cons (hP : EntryPred P) (hoff : off < kDataSize)
    (h : Chain kDataSize P data w off (seg :: segs)) (ht : total (seg :: segs) < kDataSize) :
    off ≠ w ∧ wellFormedAt data off w = true ∧ (data off).toNat = seg.length ∧
      isPadAt data off = isPad seg ∧ bytesAt data off seg.length = seg ∧
      (isPad seg = false → seqAt data off = seqOf seg) ∧
      Chain kDataSize P data w (nextOff (off + (data off).toNat)) segs ∧
      nextOff (off + (data off).toNat) < kDataSize := by
  have hne := h.off_ne hoff ht
  have hcross := h.not_cross hoff ht
  cases h with
  | cons pos fits bytes ok rest =>
      have hwf := hP.wellFormed ok
      obtain ⟨hw, hlen⟩ := wellFormedAt_of_entry bytes hwf fits hcross
      refine ⟨hne, hw, hlen, (isPadAt_asMem bytes pos hlen).symm, bytes, fun hp => ?_, ?_, ?_⟩
      · have := kRecordHeaderLen_le hwf hp
        exact (seqAt_asMem bytes (by unfold kRecordHeaderLen at this; omega)).symm
      · rw [hlen]; exact rest
      · rw [hlen]; exact wrap_lt (by omega) fits

/-- The entries from an offset to the write cursor, as the walkers of the code meet
them: up to the first one that `wellFormedAt` rejects. -/
def walkFrom (data : Mem) (w : ℕ) : ℕ → ℕ → List (List UInt8)
  | 0, _ => []
  | fuel + 1, off =>
    if off = w then []
    else if wellFormedAt data off w then
      bytesAt data off (data off).toNat :: walkFrom data w fuel (nextOff (off + (data off).toNat))
    else []

/-- The entries of a ring. -/
def entries (r : Ring) : List (List UInt8) :=
  walkFrom r.data r.hdr.writeOff kDataSize r.hdr.readOff

/-- The pending records of a ring, oldest first. -/
def pending (r : Ring) : List (List UInt8) := records (entries r)

theorem walkFrom_eq (hP : EntryPred P) {fuel : ℕ} (hoff : off < kDataSize)
    (h : Chain kDataSize P data w off segs) (ht : total segs < kDataSize)
    (hf : segs.length ≤ fuel) : walkFrom data w fuel off = segs := by
  induction segs generalizing off fuel with
  | nil =>
      cases h
      cases fuel <;> simp [walkFrom]
  | cons seg segs ih =>
      obtain ⟨hne, hw, hlen, -, hb, -, hrest, hlt⟩ := walk_cons hP hoff h ht
      obtain ⟨fuel, rfl⟩ := Nat.exists_eq_add_of_lt (show 0 < fuel by simp at hf; omega)
      rw [total_cons] at ht
      rw [Nat.zero_add, walkFrom, if_neg hne, if_pos hw,
        ih hlt hrest (by omega) (by simpa using hf), hlen, hb]

theorem length_le_total (hseg : ∀ seg ∈ segs, 0 < seg.length) : segs.length ≤ total segs := by
  induction segs with
  | nil => simp
  | cons seg segs ih =>
      have h₁ := hseg seg (List.mem_cons_self ..)
      have h₂ := ih fun s hs => hseg s (List.mem_cons_of_mem _ hs)
      rw [total_cons, List.length_cons]
      omega

theorem Holds.length_le (hP : EntryPred P) (h : Holds P r segs) : segs.length ≤ kDataSize := by
  have h₁ := length_le_total fun seg hs => (h.wellFormed hP seg hs).pos
  have h₂ := h.total_lt
  omega

/-- **The entries a ring holds are the ones a walk meets**, so they are determined by
the ring. -/
theorem Holds.entries_eq (hP : EntryPred P) (h : Holds P r segs) : entries r = segs :=
  walkFrom_eq hP h.read_lt h.chain h.total_lt (h.length_le hP)

theorem Holds.pending_eq (hP : EntryPred P) (h : Holds P r segs) : pending r = records segs := by
  rw [pending, h.entries_eq hP]

end Telemetry
end G6Arena
