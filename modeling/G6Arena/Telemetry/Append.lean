/-
# Append, entry by entry

What `makeRoom` and `appendRaw` do to the entries a ring holds.  `makeRoom`
drops the shortest prefix of entries that leaves the room asked for
(`makeRoom_spec`); its two emergency exits, an empty ring without room and a
corrupt chain, are never taken (`not_stuck_of_trace`).  `appendRaw` then extends
what is left by a `PAD`, when the tail of the area is too short, and the stamped
record (`appendRaw_spec`).

The writes of one append go to free bytes, so that they leave the entries of any
header with that much room as they are (`Holds.appendPad`, `Holds.appendRecord`).
-/

import G6Arena.Telemetry.Entries

namespace G6Arena
namespace Telemetry

open ByteMem ByteRing BoundedLoop

variable {P : ℕ → List UInt8 → Prop} {r : Ring} {segs : List (List UInt8)}

/-! ### Making room -/

/-- `k` is the least number of entries to drop from the front so that `need` bytes
are free. -/
structure Room (need : ℕ) (segs : List (List UInt8)) (k : ℕ) : Prop where
  le : k ≤ segs.length
  room : total (segs.drop k) + need ≤ kDataSize - 1
  least : ∀ j < k, kDataSize - 1 < total (segs.drop j) + need

/-- The two exits of `makeRoom` that its comments call impossible: the ring is empty
and still short of room, or `read_off` is not at an entry. -/
def Stuck (need : ℕ) (r : Ring) : Prop :=
  freeBytes r.hdr < need ∧ (r.hdr.readOff = r.hdr.writeOff ∨ (r.data r.hdr.readOff).toNat = 0 ∨
    kDataSize < r.hdr.readOff + (r.data r.hdr.readOff).toNat)

/-- `makeRoom` under way: `k` entries of `segs` dropped, all of them needed, and the
records among them counted. -/
structure Evicting (P : ℕ → List UInt8 → Prop) (need : ℕ) (r : Ring) (segs : List (List UInt8))
    (k : ℕ) (t : Ring × ℕ) : Prop where
  ring : t.1 = r.setReadOff t.1.hdr.readOff
  holds : Holds P t.1 (segs.drop k)
  evicted : t.2 = (records (segs.take k)).length
  le : k ≤ segs.length
  least : ∀ j < k, kDataSize - 1 < total (segs.drop j) + need

theorem take_succ_of_drop {α : Type*} {l rest : List α} {a : α} {k : ℕ}
    (h : l.drop k = a :: rest) :
    k < l.length ∧ l.take (k + 1) = l.take k ++ [a] ∧ l.drop (k + 1) = rest := by
  have hk : k < l.length := by
    have := congrArg List.length h
    simp only [List.length_drop, List.length_cons] at this
    omega
  have ha : l[k]? = some a := by
    have := congrArg List.head? h
    simpa [List.head?_drop] using this
  refine ⟨hk, ?_, ?_⟩
  · rw [List.take_add_one, ha]; rfl
  · rw [← List.drop_drop, h]; rfl

/-- While room is missing there is an entry left, and it is at `read_off`. -/
theorem Evicting.not_stuck (hP : EntryPred P) {need k : ℕ} (hneed : need ≤ kDataSize - 1)
    {t : Ring × ℕ} (h : Evicting P need r segs k t) : ¬ Stuck need t.1 := by
  rintro ⟨hfree, hbad⟩
  rw [h.holds.freeBytes] at hfree
  cases hd : segs.drop k with
  | nil => rw [hd, total_nil] at hfree; omega
  | cons seg rest =>
      have hh := h.holds
      rw [hd] at hh
      obtain ⟨hne, -, hlen, -⟩ := walk_cons hP hh.read_lt hh.chain hh.total_lt
      have hpos := (hh.wellFormed hP seg (List.mem_cons_self ..)).pos
      have hfit := hh.chain.head_fits
      rw [hlen] at hbad
      omega

/-- **One pass of `makeRoom` drops one entry.** -/
theorem Evicting.pass (hP : EntryPred P) {need k : ℕ} (hneed : need ≤ kDataSize - 1)
    {t t' : Ring × ℕ} (h : Evicting P need r segs k t) (ht : makeRoomPass need t = some t') :
    Evicting P need r segs (k + 1) t' ∧ usedBytes t'.1.hdr < usedBytes t.1.hdr := by
  obtain ⟨t, evicted⟩ := t
  have hns := h.not_stuck hP hneed
  obtain ⟨hring, hh, hev, hle, hleast⟩ := h
  dsimp only at hns hring hh hev
  simp only [makeRoomPass] at ht
  split_ifs at ht with hfree hempty hbad
  · exact absurd ⟨by omega, .inr hbad⟩ hns
  have hused := hh.freeBytes
  cases hd : segs.drop k with
  | nil =>
      rw [hd, total_nil] at hused
      omega
  | cons seg rest =>
      obtain ⟨hk, htake, hdrop⟩ := take_succ_of_drop hd
      rw [hd] at hh
      obtain ⟨-, -, hlen, hpad, -, -, hrest, hlt⟩ := walk_cons hP hh.read_lt hh.chain hh.total_lt
      have htot := hh.total_lt
      have hpos := (hh.wellFormed hP seg (List.mem_cons_self ..)).pos
      rw [total_cons] at htot
      obtain rfl := Option.some.inj ht
      have hh' : Holds P (t.setReadOff (nextOff (t.hdr.readOff + (t.data t.hdr.readOff).toNat)))
          rest := ⟨hlt, hrest, by omega⟩
      refine ⟨⟨?_, by rw [hdrop]; exact hh', ?_, hk, ?_⟩, ?_⟩
      · rw [hring]; rfl
      · dsimp only
        rw [htake, records_append, List.length_append, ← hev, hpad]
        cases hp : isPad seg with
        | true => simp [records_cons_of_pad hp]
        | false => simp [records_cons_of_not_pad hp]
      · intro j hj
        rcases Nat.lt_succ_iff_lt_or_eq.1 hj with hj | rfl
        · exact hleast j hj
        · omega
      · rw [hh'.usedBytes, hh.usedBytes, total_cons]
        omega

/-- **`makeRoom` drops the shortest prefix of entries that leaves the room asked for**,
and counts the records among them. -/
theorem makeRoom_spec (hP : EntryPred P) (h : Holds P r segs) {need : ℕ}
    (hneed : need ≤ kDataSize - 1) :
    ∃ k, Evicting P need r segs k (makeRoom need r) ∧ Room need segs k := by
  have hstart : ∃ k, Evicting P need r segs k (r, 0) :=
    ⟨0, rfl, h, by simp, Nat.zero_le _, fun j hj => absurd hj (Nat.not_lt_zero j)⟩
  have hstep : ∀ t t', (∃ k, Evicting P need r segs k t) → makeRoomPass need t = some t' →
      (∃ k, Evicting P need r segs k t') ∧ usedBytes t'.1.hdr < usedBytes t.1.hdr := by
    rintro t t' ⟨k, hk⟩ ht
    obtain ⟨h₁, h₂⟩ := hk.pass hP hneed ht
    exact ⟨⟨_, h₁⟩, h₂⟩
  obtain ⟨k, hk⟩ := loop_inv (fun t t' hi ht => (hstep t t' hi ht).1) kDataSize hstart
  have hexit := loop_exit (fun t : Ring × ℕ => usedBytes t.1.hdr) hstep kDataSize hstart
    (by simp only [h.usedBytes]; exact h.total_lt.le)
  refine ⟨k, hk, hk.le, ?_, hk.least⟩
  have hns := hk.not_stuck hP hneed
  have htot := hk.holds.total_lt
  have hfree : need ≤ freeBytes (loop (makeRoomPass need) kDataSize (r, 0)).1.hdr := by
    by_contra hfree
    have hne : ¬ _ := fun hempty => hns ⟨Nat.lt_of_not_le hfree, .inl hempty⟩
    simp only [makeRoomPass, if_neg hfree, if_neg hne] at hexit
    split_ifs at hexit
  rw [hk.holds.freeBytes] at hfree
  omega

/-- **The emergency exits of `makeRoom` are never taken**: no state it passes through
is stuck. -/
theorem not_stuck_of_trace (hP : EntryPred P) (h : Holds P r segs) {need : ℕ}
    (hneed : need ≤ kDataSize - 1) {t : Ring × ℕ} (ht : Trace (makeRoomPass need) (r, 0) t) :
    ¬ Stuck need t.1 := by
  have hi : ∃ k, Evicting P need r segs k t := by
    refine ht.inv (I := fun t => ∃ k, Evicting P need r segs k t) ?_
      ⟨0, rfl, h, by simp, Nat.zero_le _, fun j hj => absurd hj (Nat.not_lt_zero j)⟩
    rintro t t' ⟨k, hk⟩ hp
    exact ⟨_, (hk.pass hP hneed hp).1⟩
  obtain ⟨k, hk⟩ := hi
  exact hk.not_stuck hP hneed

/-! ### Records -/

/-- A record as a producer builds it: well formed, and not a `PAD`. -/
structure IsRecord (rec : List UInt8) : Prop where
  wellFormed : WellFormed rec
  notPad : isPad rec = false

theorem IsRecord.length_ge {rec : List UInt8} (h : IsRecord rec) : kRecordHeaderLen ≤ rec.length :=
  kRecordHeaderLen_le h.wellFormed h.notPad

theorem IsRecord.length_le {rec : List UInt8} (h : IsRecord rec) : rec.length ≤ kRecordLenMax :=
  h.wellFormed.length_le h.notPad

@[simp] theorem length_stampSeq {rec : List UInt8} (h : 6 ≤ rec.length) (seq : ℕ) :
    (stampSeq rec seq).length = rec.length := by
  simp only [stampSeq, List.length_append, List.length_take, length_toLe, List.length_drop]
  omega

/-- Stamping writes bytes 2 to 5 and no others. -/
theorem asMem_stampSeq {rec : List UInt8} (h : 6 ≤ rec.length) (seq : ℕ) {i : ℕ}
    (hi : i < 2 ∨ 6 ≤ i) : asMem (stampSeq rec seq) i = asMem rec i := by
  have htake : (rec.take 2).length = 2 := by rw [List.length_take]; omega
  simp only [asMem, stampSeq, List.getD_eq_getElem?_getD]
  congr 1
  rcases hi with hi | hi
  · rw [List.append_assoc, List.getElem?_append_left (by omega), List.getElem?_take_of_lt hi]
  · rw [List.getElem?_append_right (by simp [htake]; omega), List.getElem?_drop]
    simp only [List.length_append, htake, length_toLe]
    congr 1; omega

/-- **Stamping keeps a record a record**, and sets its sequence number. -/
theorem IsRecord.stampSeq {rec : List UInt8} (h : IsRecord rec) (seq : ℕ) :
    IsRecord (stampSeq rec seq) ∧ seqOf (stampSeq rec seq) = seq % 2 ^ 32 := by
  have hge := h.length_ge
  have h6 : 6 ≤ rec.length := by unfold kRecordHeaderLen at hge; omega
  have h0 := asMem_stampSeq h6 seq (i := 0) (by omega)
  have h1 := asMem_stampSeq h6 seq (i := 0 + 1) (by omega)
  have h12 := asMem_stampSeq h6 seq (i := 0 + 12) (by omega)
  refine ⟨⟨⟨?_, ?_, ?_⟩, ?_⟩, ?_⟩
  · rw [h0, length_stampSeq h6]; exact h.wellFormed.len
  · rw [length_stampSeq h6]; omega
  · have hs := h.wellFormed.shape
    simpa only [shapeAt, h0, h1, h12] using hs
  · have hp := h.notPad
    simpa only [isPad, isPadAt, h0, h1] using hp
  · have htake : (rec.take 2).length = 2 := by rw [List.length_take]; omega
    have hb : bytesAt (asMem (Telemetry.stampSeq rec seq)) (0 + 2) 4 = toLe 4 seq := by
      refine List.ext_getElem (by simp) fun i hi _ => ?_
      have hi4 : i < 4 := by simpa using hi
      simp only [bytesAt, List.getElem_map, List.getElem_range, asMem, Telemetry.stampSeq,
        List.getD_eq_getElem?_getD]
      rw [List.append_assoc, List.getElem?_append_right (by omega), htake,
        show 0 + 2 + i - 2 = i by omega, List.getElem?_append_left (by simpa using hi4),
        List.getElem?_eq_getElem (by simpa using hi4), Option.getD_some]
    rw [seqOf, seqAt, wordAt, hb, ofLe_toLe]
    norm_num

/-- A record lies at most this far beyond the write cursor, so one append never asks
for more room than the area has. -/
theorem IsRecord.need_le {rec : List UInt8} (h : IsRecord rec) (w : ℕ) :
    appendNeed w rec.length ≤ kDataSize - 1 := by
  have hle := h.length_le
  have hmax : kRecordLenMax = 26 := rfl
  have hN := kDataSize_eq
  unfold appendNeed
  split_ifs <;> omega

/-! ### The writes of an append -/

/-- What a ring holds depends on its two cursors and on the bytes between them. -/
theorem Holds.congr (h : Holds P r segs) {r' : Ring} (hr : r'.hdr.readOff = r.hdr.readOff)
    (hw : r'.hdr.writeOff = r.hdr.writeOff)
    (hm : ∀ i, Occ kDataSize r.hdr.readOff (total segs) i → r'.data i = r.data i) :
    Holds P r' segs := by
  refine ⟨hr ▸ h.read_lt, ?_, h.total_lt⟩
  rw [hr, hw]
  exact h.chain.congr h.read_lt h.total_lt hm

/-- The `n` bytes from the write cursor on are free while there is room for them. -/
theorem Holds.free (h : Holds P r segs) {n i : ℕ} (hroom : total segs + n ≤ kDataSize)
    (hi : Occ kDataSize r.hdr.readOff (total segs) i) :
    ¬ (r.hdr.writeOff ≤ i ∧ i < r.hdr.writeOff + n) := fun ⟨h₁, h₂⟩ =>
  h.chain.free h.read_lt hroom h.total_lt h₁ h₂ hi

/-- The bytes from the start of the area on are free while there is room for the tail
and for them. -/
theorem Holds.free_start (h : Holds P r segs) {n i : ℕ}
    (hroom : total segs + (kDataSize - r.hdr.writeOff + n) ≤ kDataSize)
    (hi : Occ kDataSize r.hdr.readOff (total segs) i) : n ≤ i := by
  have hr := h.read_lt
  have hw := h.write_lt
  obtain ⟨-, he⟩ := h.chain.ends h.read_lt h.total_lt
  obtain ⟨hiN, hocc⟩ := hi
  rcases he with he | he <;> rcases hocc with hocc | hocc <;> omega

theorem length_padBytes_le {n : ℕ} (h : 0 < n) : (padBytes n).length ≤ n := by
  unfold padBytes
  split_ifs <;> simp <;> omega

/-- **The `PAD` is written beyond the entries.** -/
theorem Holds.appendPad (h : Holds P r segs) {n : ℕ}
    (hroom : total segs + appendNeed r.hdr.writeOff n ≤ kDataSize) :
    Holds P (appendPad n r) segs := by
  have hw := h.write_lt
  unfold Telemetry.appendPad
  unfold appendNeed at hroom
  split_ifs at hroom ⊢ with ht
  · refine h.congr rfl rfl fun i hi => ?_
    have hfree := h.free (n := kDataSize - r.hdr.writeOff) (by omega) hi
    have hpad := length_padBytes_le (n := kDataSize - r.hdr.writeOff) (by omega)
    rcases Nat.lt_or_ge i r.hdr.writeOff with hlt | hge
    · exact store_apply_of_lt _ _ hlt
    · exact store_apply_of_ge _ _ (by omega)
  · exact h

/-- **The record is written beyond the entries.** -/
theorem Holds.appendRecord (h : Holds P r segs) {rec : List UInt8} (hrec : IsRecord rec)
    (hroom : total segs + appendNeed r.hdr.writeOff rec.length ≤ kDataSize) :
    Holds P (appendRecord rec r) segs := by
  have hlen : (stampSeq rec (stampOf r.hdr.nextSeq)).length = rec.length :=
    length_stampSeq (hrec.length_ge.trans' (by decide)) _
  unfold Telemetry.appendRecord
  unfold appendNeed at hroom
  refine h.congr rfl rfl fun i hi => ?_
  simp only [appendAt]
  split_ifs at hroom ⊢ with ht
  · have hstart := h.free_start hroom hi
    exact store_apply_of_ge _ _ (by omega)
  · have hfree := h.free hroom hi
    rcases Nat.lt_or_ge i r.hdr.writeOff with hlt | hge
    · exact store_apply_of_lt _ _ hlt
    · exact store_apply_of_ge _ _ (by omega)

/-- The entries an append inserts before its record: a `PAD` of the whole tail when the
record does not fit there. -/
def Pads (w len : ℕ) (pads : List (List UInt8)) : Prop :=
  if kDataSize - w < len then
    ∃ pad, pads = [pad] ∧ isPad pad = true ∧ pad.length = kDataSize - w
  else pads = []

theorem Pads.records {w len : ℕ} {pads : List (List UInt8)} (h : Pads w len pads) :
    records pads = [] := by
  unfold Pads at h
  split_ifs at h
  · obtain ⟨pad, rfl, hp, -⟩ := h
    exact records_cons_of_pad hp []
  · rw [h]; rfl

theorem Pads.total {w len : ℕ} {pads : List (List UInt8)} (h : Pads w len pads) :
    ByteRing.total pads + len = appendNeed w len := by
  unfold Pads at h
  unfold appendNeed
  split_ifs at h ⊢
  · obtain ⟨pad, rfl, -, hl⟩ := h
    simp [hl]
  · simp [h]

/-- The bytes a `PAD` occupies, read back once its first bytes are written. -/
theorem pad_bytes {m : Mem} {w tail : ℕ} (hpos : 0 < tail) (hlt : tail < 256)
    (h0 : m w = UInt8.ofNat tail) (h1 : 2 ≤ tail → m (w + 1) = recPad) :
    WellFormed (bytesAt m w tail) ∧ isPad (bytesAt m w tail) = true := by
  have hlen : (bytesAt m w tail).length = tail := length_bytesAt ..
  have hb : bytesAt m w (bytesAt m w tail).length = bytesAt m w tail := by rw [hlen]
  have hnat : (UInt8.ofNat tail).toNat = tail := UInt8.toNat_ofNat_of_lt' hlt
  have hm0 : (asMem (bytesAt m w tail) 0).toNat = tail := by
    rw [asMem_eq hb (by omega), Nat.add_zero, h0, hnat]
  rcases Nat.lt_or_ge tail 2 with h2 | h2
  · have hshort : tail < kRecordHeaderLen := by unfold kRecordHeaderLen; omega
    have ht : decide (tail = 1) = true := decide_eq_true (by omega)
    refine ⟨⟨by rw [hm0, hlen], by omega, ?_⟩, ?_⟩
    · simp only [shapeAt, hm0, if_pos hshort, ht, Bool.true_or]
    · simp only [isPad, isPadAt, hm0, hshort, decide_true, Bool.true_or]
  · have hm1 : asMem (bytesAt m w tail) (0 + 1) = recPad := by
      rw [Nat.zero_add, asMem_eq hb (by omega), h1 h2]
    refine ⟨⟨by rw [hm0, hlen], by omega, ?_⟩, ?_⟩
    · simp only [shapeAt, hm1]
      split_ifs <;> simp
    · simp [isPad, isPadAt, hm1]

theorem store_padBytes (m : Mem) (w tail : ℕ) :
    store m w (padBytes tail) w = UInt8.ofNat tail ∧
      (2 ≤ tail → store m w (padBytes tail) (w + 1) = recPad) := by
  constructor
  · have h0 := store_apply_add m w (padBytes tail) (i := 0)
      (by unfold padBytes; split_ifs <;> simp)
    rw [Nat.add_zero] at h0
    rw [h0]
    unfold padBytes; split_ifs <;> rfl
  · intro h2
    rw [store_apply_add _ _ _ (by simp [padBytes, h2])]
    simp [padBytes, h2]

/-- `hdr->write_off = off`. -/
def Ring.setWriteOff (r : Ring) (off : ℕ) : Ring := { r with hdr := { r.hdr with writeOff := off } }

/-- **Pushing the `PAD`.**  Once it is written, the entries extended by it end where the
record goes. -/
theorem Holds.push_pads (hP : EntryPred P) (h : Holds P r segs) {n : ℕ} (hlen : 0 < n)
    (hmax : n < 256) (hroom : total segs + appendNeed r.hdr.writeOff n ≤ kDataSize - 1) :
    ∃ pads, Pads r.hdr.writeOff n pads ∧
      Holds P ((Telemetry.appendPad n r).setWriteOff (appendAt r.hdr.writeOff n))
        (segs ++ pads) := by
  have hw := h.write_lt
  have hpad := h.appendPad (n := n) (by omega)
  unfold Pads appendAt
  unfold appendNeed at hroom
  split_ifs at hroom ⊢ with ht
  · have htail : 0 < kDataSize - r.hdr.writeOff := by omega
    obtain ⟨h0, h1⟩ := store_padBytes r.data r.hdr.writeOff (kDataSize - r.hdr.writeOff)
    obtain ⟨hwf, hisp⟩ := pad_bytes htail (by omega) h0 h1
    refine ⟨_, ⟨_, rfl, hisp, length_bytesAt ..⟩, ?_⟩
    have hdata : (Telemetry.appendPad n r).data
        = store r.data r.hdr.writeOff (padBytes (kDataSize - r.hdr.writeOff)) := by
      rw [Telemetry.appendPad, if_pos ht]
    have hhdr : (Telemetry.appendPad n r).hdr = r.hdr := by
      rw [Telemetry.appendPad, if_pos ht]
    refine ⟨?_, ?_, ?_⟩
    · simp only [Ring.setWriteOff, hhdr]; exact h.read_lt
    · have hchain := hpad.chain
      rw [hdata, hhdr] at hchain
      simp only [Ring.setWriteOff, hhdr, hdata]
      refine hchain.append ?_
      have hend : r.hdr.writeOff + (bytesAt (store r.data r.hdr.writeOff
          (padBytes (kDataSize - r.hdr.writeOff))) r.hdr.writeOff
          (kDataSize - r.hdr.writeOff)).length = kDataSize := by
        rw [length_bytesAt]; omega
      refine .cons hwf.pos hend.le (by rw [length_bytesAt]) (hP.ofPad hwf hend) ?_
      rw [hend, wrap, if_pos rfl]
      exact .nil
    · rw [total_append, total_cons, total_nil, length_bytesAt]
      omega
  · refine ⟨[], rfl, ?_⟩
    rw [List.append_nil]
    have heq : Telemetry.appendPad n r = r := by rw [Telemetry.appendPad, if_neg ht]
    rw [heq]
    exact h

/-- **Pushing the record.** -/
theorem Holds.push_record (hP : EntryPred P) (h : Holds P r segs) {rec : List UInt8}
    (hrec : IsRecord rec) (hfit : r.hdr.writeOff + rec.length ≤ kDataSize)
    (hroom : total segs + rec.length ≤ kDataSize - 1) :
    Holds P (Ring.setWriteOff { r with data := store r.data r.hdr.writeOff rec }
      (nextOff (r.hdr.writeOff + rec.length))) (segs ++ [rec]) := by
  have hr := h.read_lt
  refine ⟨hr, ?_, by simp only [total_append, total_cons, total_nil]; omega⟩
  refine h.chain.push h.read_lt h.total_lt (fun i hi => ?_) hrec.wellFormed.pos hfit
    (bytesAt_store ..) (hP.ofRecord hrec.wellFormed hrec.notPad)
  have hfree := h.free (n := rec.length) (by omega) hi
  rcases Nat.lt_or_ge i r.hdr.writeOff with hlt | hge
  · exact store_apply_of_lt _ _ hlt
  · exact store_apply_of_ge _ _ (by omega)

/-! ### The append as a whole -/

theorem publishEviction_zero (r : Ring) : publishEviction 0 r = r := rfl

@[simp] theorem publishEviction_data (n : ℕ) (r : Ring) :
    (publishEviction n r).data = r.data := by
  unfold publishEviction; split_ifs <;> rfl

@[simp] theorem publishEviction_readOff (n : ℕ) (r : Ring) :
    (publishEviction n r).hdr.readOff = r.hdr.readOff := by
  unfold publishEviction; split_ifs <;> rfl

@[simp] theorem publishEviction_writeOff (n : ℕ) (r : Ring) :
    (publishEviction n r).hdr.writeOff = r.hdr.writeOff := by
  unfold publishEviction; split_ifs <;> rfl

@[simp] theorem publishEviction_nextSeq (n : ℕ) (r : Ring) :
    (publishEviction n r).hdr.nextSeq = r.hdr.nextSeq := by
  unfold publishEviction; split_ifs <;> rfl

@[simp] theorem appendPad_hdr (len : ℕ) (r : Ring) : (appendPad len r).hdr = r.hdr := by
  unfold appendPad; split_ifs <;> rfl

@[simp] theorem appendRecord_hdr (rec : List UInt8) (r : Ring) :
    (appendRecord rec r).hdr = r.hdr := rfl

/-- What the first step of an append does: `k` entries dropped by moving `read_off` to
`off`, the records among them counted and published. -/
structure Evicted (P : ℕ → List UInt8 → Prop) (len : ℕ) (r : Ring) (segs : List (List UInt8))
    (k off : ℕ) : Prop where
  room : Room (appendNeed r.hdr.writeOff len) segs k
  holds : Holds P (r.setReadOff off) (segs.drop k)
  eq : appendEvict len r = (publishEviction (records (segs.take k)).length (r.setReadOff off),
    (records (segs.take k)).length)

theorem appendEvict_spec (hP : EntryPred P) (h : Holds P r segs) {rec : List UInt8}
    (hrec : IsRecord rec) : ∃ k off, Evicted P rec.length r segs k off := by
  obtain ⟨k, ⟨hring, hholds, hev, -, -⟩, hroom⟩ :=
    makeRoom_spec hP h (hrec.need_le r.hdr.writeOff)
  refine ⟨k, _, hroom, hring ▸ hholds, ?_⟩
  rw [appendEvict, ← hev, ← hring]

/-- What one append does to the ring: entries dropped as in `Evicted`, then `pads` and the
stamped record pushed. -/
structure Appended (P : ℕ → List UInt8 → Prop) (rec : List UInt8) (r : Ring)
    (segs : List (List UInt8)) (k off : ℕ) (pads : List (List UInt8)) : Prop where
  evicted : Evicted P rec.length r segs k off
  isPads : Pads r.hdr.writeOff rec.length pads
  holds : Holds P (appendRaw rec r).1
    (segs.drop k ++ pads ++ [stampSeq rec (stampOf r.hdr.nextSeq)])

/-- **`appendRaw` drops the shortest prefix that makes room and pushes the stamped
record**, after a `PAD` where the tail of the area is too short. -/
theorem appendRaw_spec (hP : EntryPred P) (h : Holds P r segs) {rec : List UInt8}
    (hrec : IsRecord rec) : ∃ k off pads, Appended P rec r segs k off pads := by
  obtain ⟨k, off, he⟩ := appendEvict_spec hP h hrec
  have hge := hrec.length_ge
  have hle := hrec.length_le
  have h6 : 6 ≤ rec.length := by unfold kRecordHeaderLen at hge; omega
  have hmax : kRecordLenMax = 26 := rfl
  have hN := kDataSize_eq
  have hw := h.write_lt
  -- the ring once the eviction is published
  have hpub : Holds P (appendEvict rec.length r).1 (segs.drop k) := by
    rw [he.eq]
    exact he.holds.congr (by simp) (by simp) fun i _ => by simp
  have hwo : (appendEvict rec.length r).1.hdr.writeOff = r.hdr.writeOff := by rw [he.eq]; simp
  have hseq : (appendEvict rec.length r).1.hdr.nextSeq = r.hdr.nextSeq := by
    rw [he.eq]
    exact publishEviction_nextSeq ..
  obtain ⟨pads, hpads, hpush⟩ := hpub.push_pads hP (n := rec.length) (by omega) (by omega)
    (by rw [hwo]; exact he.room.room)
  rw [hwo] at hpads hpush
  have hroom := he.room.room
  have htot := hpads.total
  obtain ⟨hstamped, -⟩ := hrec.stampSeq (stampOf r.hdr.nextSeq)
  have hlen := length_stampSeq h6 (stampOf r.hdr.nextSeq)
  have hfit : appendAt r.hdr.writeOff rec.length + rec.length ≤ kDataSize := by
    unfold appendAt; split_ifs <;> omega
  have hfinal := hpush.push_record hP hstamped (by rw [hlen]; exact hfit)
    (by rw [total_append, hlen]; omega)
  refine ⟨k, off, pads, he, hpads, hfinal.congr ?_ ?_ fun i _ => ?_⟩
  · simp [appendRaw, appendPublish, appendRecord, sealHeader, Ring.setWriteOff]
  · simp [appendRaw, appendPublish, appendRecord, sealHeader, Ring.setWriteOff, hwo, hlen]
  · simp [appendRaw, appendPublish, appendRecord, sealHeader, Ring.setWriteOff, hwo, hseq]

/-- The header after an append. -/
theorem appendRaw_hdr {rec : List UInt8} {k off : ℕ} (h : Evicted P rec.length r segs k off) :
    (appendRaw rec r).1.hdr = sealHeader
      { (publishEviction (records (segs.take k)).length (r.setReadOff off)).hdr with
        writeOff := nextOff (appendAt r.hdr.writeOff rec.length + rec.length)
        nextSeq := (stampOf r.hdr.nextSeq + 1) % 2 ^ 32 } := by
  simp [appendRaw, appendPublish, appendRecord, h.eq]

theorem Appended.records {rec : List UInt8} {k off : ℕ} {pads : List (List UInt8)}
    (h : Appended P rec r segs k off pads) (hrec : IsRecord rec) :
    records (segs.drop k ++ pads ++ [Telemetry.stampSeq rec (stampOf r.hdr.nextSeq)])
      = (records segs).drop (appendRaw rec r).2 ++ [Telemetry.stampSeq rec (stampOf r.hdr.nextSeq)] := by
  have hev : (appendRaw rec r).2 = (Telemetry.records (segs.take k)).length := by
    simp only [appendRaw, h.evicted.eq]
  have hsplit : Telemetry.records segs
      = Telemetry.records (segs.take k) ++ Telemetry.records (segs.drop k) := by
    rw [← records_append, List.take_append_drop]
  rw [records_append, records_append, h.isPads.records, List.append_nil, hev, hsplit,
    List.drop_left]
  rw [records_cons_of_not_pad (hrec.stampSeq _).1.notPad, records_nil]

/-- **An append with room before the end of the area** drops nothing and inserts no `PAD`. -/
theorem appendRaw_of_fits (hP : EntryPred P) (h : Holds P r segs) {rec : List UInt8}
    (hrec : IsRecord rec) (hfit : r.hdr.writeOff + rec.length < kDataSize)
    (hroom : total segs + rec.length ≤ kDataSize - 1) :
    (appendRaw rec r).2 = 0 ∧
      Holds P (appendRaw rec r).1 (segs ++ [stampSeq rec (stampOf r.hdr.nextSeq)]) ∧
      (appendRaw rec r).1.hdr = sealHeader { r.hdr with
        writeOff := r.hdr.writeOff + rec.length
        nextSeq := (stampOf r.hdr.nextSeq + 1) % 2 ^ 32 } := by
  obtain ⟨k, off, pads, ⟨hev, hpads, hholds⟩⟩ := appendRaw_spec hP h hrec
  have hneed : appendNeed r.hdr.writeOff rec.length = rec.length := by
    rw [appendNeed, if_neg (by omega)]
  have hk : k = 0 := by
    by_contra hk
    have hleast := hev.room.least 0 (by omega)
    rw [List.drop_zero, hneed] at hleast
    omega
  subst hk
  have hoff : off = r.hdr.readOff := by
    have hr := h.read_lt
    have hr' := hev.holds.read_lt
    have he := (h.chain.ends hr h.total_lt).2
    have he' := (hev.holds.chain.ends hr' hev.holds.total_lt).2
    simp only [List.drop_zero, Ring.setReadOff_readOff, Ring.setReadOff_writeOff] at hr' he'
    omega
  rw [Pads, if_neg (by omega)] at hpads
  refine ⟨by simp only [appendRaw, hev.eq]; rfl, ?_, ?_⟩
  · simpa [hpads] using hholds
  · have hat : appendAt r.hdr.writeOff rec.length = r.hdr.writeOff := by
      rw [appendAt, if_neg (by omega)]
    rw [appendRaw_hdr hev, hoff, hat, nextOff, if_neg (by omega)]
    rfl

end Telemetry
end G6Arena
