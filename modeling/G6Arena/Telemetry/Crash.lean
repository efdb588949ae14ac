/-
# Crash consistency of the append

OCRAM is cached write-back and a reset loses what was not flushed.  `appendRaw`
flushes at up to four points: the header once an eviction is counted, the `PAD`, the
record, and the header that publishes it.  `appendFlushes` lists what OCRAM holds
after each of them; `CrashSafe` says that a boot from any of these images finds the
records pending before the append, less the evicted ones, with or without the new one.

The header that moves `read_off` is flushed before the record only when a record was
evicted (`if (evicted)`).  An append whose eviction is a `PAD` alone leaves OCRAM with a
`read_off` that points at the `PAD`, and may then write the record over it.
`padOverwritten` is that case.  Outside of it every append is crash safe
(`append_crashSafe`); inside it a reset can lose every pending record
(`padOverwritten_loses_all`).
-/

import Mathlib.Data.List.TakeWhile
import G6Arena.Telemetry.Reach

namespace G6Arena
namespace Telemetry

open ByteMem ByteRing BoundedLoop Machine

/-! ### Flush points -/

/-- OCRAM after each flush of an append, in program order.  The header in OCRAM is the one
sealed last: until the record is published, the one from before the append unless an
evicted record made `appendRaw` seal it. -/
def appendFlushes (rec : List UInt8) (r : Ring) : List Ring :=
  let e := appendEvict rec.length r
  let flushed := if e.2 ≠ 0 then e.1.hdr else r.hdr
  let padded := appendPad rec.length e.1
  let written := appendRecord rec padded
  (if e.2 ≠ 0 then [e.1] else [])
    ++ (if kDataSize - r.hdr.writeOff < rec.length then [{ padded with hdr := flushed }] else [])
    ++ [{ written with hdr := flushed }, appendPublish rec.length written]

/-- **Crash safety of an append**: a boot from OCRAM as any flush of it leaves it finds the
records pending before, less the evicted ones, or those followed by the new record. -/
def CrashSafe (rec : List UInt8) (r : Ring) : Prop :=
  ∀ img ∈ appendFlushes rec r,
    pending (beginRing img).1 = (pending r).drop (appendRaw rec r).2 ∨
    pending (beginRing img).1 =
      (pending r).drop (appendRaw rec r).2 ++ [stampSeq rec (stampOf r.hdr.nextSeq)]

/-- The record would be written over the `PAD` that `read_off` points at. -/
def padOverwritten (rec : List UInt8) (r : Ring) : Prop :=
  isPadAt r.data r.hdr.readOff = true ∧ r.hdr.writeOff < r.hdr.readOff ∧
    r.hdr.readOff < r.hdr.writeOff + rec.length ∧ r.hdr.writeOff + rec.length < kDataSize

/-- The last image is the ring itself: at the end of an append everything is flushed. -/
theorem appendRaw_mem_appendFlushes (rec : List UInt8) (r : Ring) :
    (appendRaw rec r).1 ∈ appendFlushes rec r := by
  simp [appendFlushes, appendRaw]

/-! ### Committed rings -/

theorem validHeader_iff (h : RingHeader) :
    validHeader h = true ↔ h.magic = kMagic ∧ h.ver = kVersion ∧ h.checksum = computeCheck h ∧
      h.writeOff < kDataSize ∧ h.readOff < kDataSize ∧ h.nextSeq ≠ 0 := by
  unfold validHeader
  split_ifs with h₁ h₂ h₃ h₄
  · simp only [false_iff]; tauto
  · simp only [false_iff]; tauto
  · simp only [false_iff]; omega
  · simp only [false_iff]; tauto
  · simp only [true_iff]
    refine ⟨by tauto, by tauto, not_not.1 h₂, by omega, by omega, h₄⟩

/-- A ring as it is between two calls: it holds entries, `PAD`s at the end of the area
only, and its header is sealed. -/
structure Committed (r : Ring) (segs : List (List UInt8)) : Prop where
  holds : Holds EntryEnd r segs
  valid : validHeader r.hdr = true
  seq_lt : r.hdr.nextSeq < 2 ^ 32

variable {r : Ring} {segs : List (List UInt8)}

/-- Sealing a header whose fields are in range makes it valid. -/
theorem validHeader_sealHeader {h h' : RingHeader} (hv : validHeader h = true)
    (hm : h'.magic = h.magic) (hver : h'.ver = h.ver) (hw : h'.writeOff < kDataSize)
    (hr : h'.readOff < kDataSize) (hs : h'.nextSeq ≠ 0) : validHeader (sealHeader h') = true := by
  obtain ⟨h₁, h₂, -⟩ := (validHeader_iff h).1 hv
  exact (validHeader_iff _).2 ⟨hm.trans h₁, hver.trans h₂, rfl, hw, hr, hs⟩

theorem committed_initRing (data : Mem) : Committed (initRing data) [] :=
  ⟨initRing_holds _ data, (validHeader_iff _).2 ⟨rfl, rfl, rfl, show 0 < kDataSize by decide,
    show 0 < kDataSize by decide, show 1 ≠ 0 by decide⟩, show 1 < 2 ^ 32 by decide⟩

theorem stampOf_range {n : ℕ} (h : n < 2 ^ 32) :
    stampOf n ≠ 0 ∧ stampOf n + 1 < 2 ^ 32 := by
  unfold stampOf
  split_ifs with h' <;> omega

theorem Committed.seal (h : Committed r segs) {t : Ring} {segs' : List (List UInt8)}
    (hh : Holds EntryEnd { t with hdr := sealHeader t.hdr } segs')
    (hm : t.hdr.magic = r.hdr.magic) (hver : t.hdr.ver = r.hdr.ver) (hs : t.hdr.nextSeq ≠ 0)
    (hlt : t.hdr.nextSeq < 2 ^ 32) :
    Committed { t with hdr := sealHeader t.hdr } segs' :=
  ⟨hh, validHeader_sealHeader h.valid hm hver hh.write_lt hh.read_lt hs, hlt⟩

theorem Committed.nextSeq_ne (h : Committed r segs) : r.hdr.nextSeq ≠ 0 :=
  ((validHeader_iff _).1 h.valid).2.2.2.2.2

/-- An append leaves the ring committed. -/
theorem Committed.append (h : Committed r segs) {rec : List UInt8} (hrec : IsRecord rec) :
    ∃ k off pads, Appended EntryEnd rec r segs k off pads ∧
      Committed (appendRaw rec r).1
        (segs.drop k ++ pads ++ [stampSeq rec (stampOf r.hdr.nextSeq)]) := by
  obtain ⟨k, off, pads, happ⟩ := appendRaw_spec entryPred_entryEnd h.holds hrec
  have hsp := stampOf_range h.seq_lt
  have hhdr := appendRaw_hdr happ.evicted
  refine ⟨k, off, pads, happ, happ.holds, ?_, ?_⟩
  · have hw := happ.holds.write_lt
    have hr := happ.holds.read_lt
    rw [hhdr] at hw hr ⊢
    refine validHeader_sealHeader h.valid ?_ ?_ hw hr ?_
    · unfold publishEviction; split_ifs <;> rfl
    · unfold publishEviction; split_ifs <;> rfl
    · simp only; omega
  · rw [hhdr]
    simp only [sealHeader]
    omega

/-- **Every ring step leaves the ring committed.** -/
theorem committed_step {r r' : Ring} (h : ∃ segs, Committed r segs) (hstep : RingStep r r') :
    ∃ segs, Committed r' segs := by
  obtain ⟨segs, h⟩ := h
  cases hstep with
  | append hrec =>
      obtain ⟨k, off, pads, -, hc⟩ := h.append hrec
      exact ⟨_, hc⟩
  | ack ackSeq =>
      rcases Nat.lt_or_ge ackSeq r.hdr.nextSeq with hlt | hge
      · obtain ⟨hh, hr | ⟨off, hr⟩⟩ := ackRing_spec entryPred_entryEnd h.holds hlt
        · rw [hr]; exact ⟨segs, h⟩
        · rw [hr] at hh ⊢
          exact ⟨_, h.seal (t := r.setReadOff off) hh rfl rfl h.nextSeq_ne h.seq_lt⟩
      · rw [ackRing_of_le hge]
        exact ⟨segs, h⟩
  | flags f =>
      exact ⟨segs, h.seal (t := { r with hdr := { r.hdr with flags := f } })
        (h.holds.congr rfl rfl fun _ _ => rfl) rfl rfl h.nextSeq_ne h.seq_lt⟩

/-- **A boot from a committed ring finds its records.** -/
theorem Committed.pending_begin (h : Committed r segs) :
    pending (beginRing r).1 = records segs := by
  rw [beginRing, if_pos h.valid, repairChain_eq entryPred_entryEnd h.holds]
  exact Holds.pending_eq entryPred_entryEnd (h.holds.congr rfl rfl fun _ _ => rfl)

/-! ### The append outside the bad case -/

/-- A record dropped is counted, so an eviction that counts none drops at most the `PAD`
at the end of the area; outside the bad case the record then fits before it. -/
theorem room_of_no_eviction (h : Holds EntryEnd r segs) {rec : List UInt8} {k off : ℕ}
    (hev : Evicted EntryEnd rec.length r segs k off) (hnone : records (segs.take k) = [])
    (hkept : ¬ padOverwritten rec r) :
    total segs + appendNeed r.hdr.writeOff rec.length ≤ kDataSize := by
  have hroom := hev.room.room
  cases k with
  | zero =>
      rw [List.drop_zero] at hroom
      omega
  | succ k =>
      cases segs with
      | nil => exact absurd hev.room.le (by simp)
      | cons seg rest =>
          have hpad : isPad seg = true := by
            cases hp : isPad seg with
            | true => rfl
            | false => rw [List.take_succ_cons, records_cons_of_not_pad hp] at hnone; cases hnone
          obtain ⟨-, -, hl, hat, -, -, hch, hlt⟩ :=
            walk_cons entryPred_entryEnd h.read_lt h.chain h.total_lt
          have htot := h.total_lt
          have hwf := h.wellFormed entryPred_entryEnd
          have hend : r.hdr.readOff + seg.length = kDataSize := h.chain.head_ok.2 hpad
          rw [hl, hend, nextOff, if_pos rfl] at hch hlt
          rw [total_cons] at htot ⊢
          -- the entries after the `PAD` run from the start of the area to the write cursor
          have hw : total rest = r.hdr.writeOff := by
            obtain ⟨-, he | he⟩ := hch.ends hlt (by omega) <;> omega
          have hk : k = 0 := by
            cases rest with
            | nil =>
                have := hev.room.le
                simpa using this
            | cons seg' rest' =>
                by_contra hk
                obtain ⟨k, rfl⟩ := Nat.exists_eq_succ_of_ne_zero hk
                have hpad' : isPad seg' = true := by
                  cases hp : isPad seg' with
                  | true => rfl
                  | false =>
                      rw [List.take_succ_cons, List.take_succ_cons, records_cons_of_pad hpad,
                        records_cons_of_not_pad hp] at hnone
                      cases hnone
                have hend' : 0 + seg'.length = kDataSize := hch.head_ok.2 hpad'
                have h256 := (hwf seg' (by simp)).length_lt
                have hN := kDataSize_eq
                omega
          subst hk
          rw [List.drop_succ_cons, List.drop_zero, hw] at hroom
          have hpos := (hwf seg (List.mem_cons_self ..)).pos
          have hpadAt : isPadAt r.data r.hdr.readOff = true := hat.trans hpad
          rw [hw]
          unfold appendNeed at hroom ⊢
          split_ifs at hroom ⊢ with ht
          · omega
          · by_contra hover
            exact hkept ⟨hpadAt, by omega, by omega, by omega⟩

theorem appendPad_setReadOff (len off : ℕ) (r : Ring) :
    appendPad len (r.setReadOff off) = (appendPad len r).setReadOff off := by
  by_cases ht : kDataSize - r.hdr.writeOff < len
  · have ht' : kDataSize - (r.setReadOff off).hdr.writeOff < len := ht
    rw [appendPad, if_pos ht', appendPad, if_pos ht]; rfl
  · have ht' : ¬ kDataSize - (r.setReadOff off).hdr.writeOff < len := ht
    rw [appendPad, if_neg ht', appendPad, if_neg ht]

theorem appendRecord_setReadOff (rec : List UInt8) (off : ℕ) (r : Ring) :
    appendRecord rec (r.setReadOff off) = (appendRecord rec r).setReadOff off := rfl

/-- The header a reset falls back to, over the data written since. -/
theorem setReadOff_with_hdr {x : Ring} (h : x.hdr = r.hdr) (off : ℕ) :
    { x.setReadOff off with hdr := r.hdr } = x := by
  rw [← h]; rfl

/-- Data written beyond the entries leaves a ring committed. -/
theorem Committed.of_hdr (h : Committed r segs) {r' : Ring} (hh : Holds EntryEnd r' segs)
    (heq : r'.hdr = r.hdr) : Committed r' segs :=
  ⟨hh, heq ▸ h.valid, heq ▸ h.seq_lt⟩

/-- The ring once an eviction is published. -/
theorem Committed.publish (h : Committed r segs) {rec : List UInt8} {k off : ℕ}
    (hev : Evicted EntryEnd rec.length r segs k off) (hn : (records (segs.take k)).length ≠ 0) :
    Committed (publishEviction (records (segs.take k)).length (r.setReadOff off))
      (segs.drop k) := by
  rw [publishEviction, if_pos hn]
  exact h.seal (t := { r.setReadOff off with hdr := { (r.setReadOff off).hdr with
    dropped := (r.hdr.dropped + (records (segs.take k)).length) % 2 ^ 32 } })
    (hev.holds.congr rfl rfl fun _ _ => rfl) rfl rfl h.nextSeq_ne h.seq_lt

/-- **The images of an append without a counted eviction**: until the record is published,
OCRAM keeps the header, and with it the entries, from before. -/
theorem Committed.flushes_of_none (h : Committed r segs) {rec : List UInt8} (hrec : IsRecord rec)
    {k off : ℕ} (hev : Evicted EntryEnd rec.length r segs k off)
    (hnone : (records (segs.take k)).length = 0) (hkept : ¬ padOverwritten rec r) :
    ∀ img ∈ appendFlushes rec r, img = (appendRaw rec r).1 ∨ Committed img segs := by
  have hfree := room_of_no_eviction h.holds hev (List.length_eq_zero_iff.1 hnone) hkept
  have hpad := h.holds.appendPad (n := rec.length) hfree
  have hwrite := hpad.appendRecord hrec (by rw [appendPad_hdr]; exact hfree)
  intro img himg
  simp only [appendFlushes, hev.eq, hnone, publishEviction_zero, appendPad_setReadOff,
    appendRecord_setReadOff, ne_eq, not_true_eq_false, if_false, List.nil_append, List.mem_append,
    List.mem_ite_nil_right, List.mem_cons, List.not_mem_nil, or_false] at himg
  obtain ⟨-, rfl⟩ | rfl | rfl := himg
  · rw [setReadOff_with_hdr (appendPad_hdr ..)]
    exact .inr (h.of_hdr hpad (appendPad_hdr ..))
  · rw [setReadOff_with_hdr (x := appendRecord rec (appendPad rec.length r)) (appendPad_hdr ..)]
    exact .inr (h.of_hdr hwrite (appendPad_hdr ..))
  · left
    simp only [appendRaw, hev.eq, hnone, publishEviction_zero, appendPad_setReadOff,
      appendRecord_setReadOff]

/-- **The images of an append with a counted eviction**: it is published first, so that
until the record is published OCRAM holds the entries kept. -/
theorem Committed.flushes_of_some (h : Committed r segs) {rec : List UInt8} (hrec : IsRecord rec)
    {k off : ℕ} (hev : Evicted EntryEnd rec.length r segs k off)
    (hsome : (records (segs.take k)).length ≠ 0) :
    ∀ img ∈ appendFlushes rec r, img = (appendRaw rec r).1 ∨ Committed img (segs.drop k) := by
  have hpub := h.publish hev hsome
  have hroom := hev.room.room
  have hwo : (publishEviction (records (segs.take k)).length (r.setReadOff off)).hdr.writeOff
      = r.hdr.writeOff := by simp
  have hpad := hpub.holds.appendPad (n := rec.length) (by rw [hwo]; omega)
  have hwrite := hpad.appendRecord hrec (by rw [appendPad_hdr, hwo]; omega)
  intro img himg
  simp only [appendFlushes, hev.eq, ne_eq, hsome, not_false_eq_true, if_true, List.mem_append,
    List.mem_ite_nil_right, List.mem_cons, List.not_mem_nil, or_false] at himg
  obtain (rfl | ⟨-, rfl⟩) | rfl | rfl := himg
  · exact .inr hpub
  · exact .inr (hpub.of_hdr (hpad.congr (by simp) (by simp) fun _ _ => rfl) rfl)
  · exact .inr (hpub.of_hdr (hwrite.congr (by simp) (by simp) fun _ _ => rfl) rfl)
  · left
    simp only [appendRaw, hev.eq]

/-- **Outside the bad case an append is crash safe.** -/
theorem Committed.crashSafe (h : Committed r segs) {rec : List UInt8} (hrec : IsRecord rec)
    (hkept : ¬ padOverwritten rec r) : CrashSafe rec r := by
  obtain ⟨k, off, pads, happ, hfinal⟩ := h.append hrec
  have hev := happ.evicted
  have hcount : (appendRaw rec r).2 = (records (segs.take k)).length := by
    simp only [appendRaw, hev.eq]
  intro img himg
  rw [h.holds.pending_eq entryPred_entryEnd]
  by_cases hnone : (records (segs.take k)).length = 0
  · rcases h.flushes_of_none hrec hev hnone hkept img himg with rfl | hc
    · exact .inr (hfinal.pending_begin.trans (happ.records hrec))
    · left
      rw [hc.pending_begin, hcount, hnone, List.drop_zero]
  · rcases h.flushes_of_some hrec hev hnone img himg with rfl | hc
    · exact .inr (hfinal.pending_begin.trans (happ.records hrec))
    · left
      have hsplit : records segs = records (segs.take k) ++ records (segs.drop k) := by
        rw [← records_append, List.take_append_drop]
      rw [hc.pending_begin, hcount, hsplit, List.drop_left]

/-- **Every append outside the bad case is crash safe**, on every ring reached from an
initialised one, and the same goes for a second append in the same call, such as the
marker of an eviction episode. -/
theorem append_crashSafe {data : Mem} {t : Module} (ht : t.ring = initRing data)
    (calls : List (Clock × Call)) {r : Ring}
    (hr : r = (run Call.step t calls).ring ∨
      ∃ rec₀, IsRecord rec₀ ∧ r = (appendRaw rec₀ (run Call.step t calls).ring).1)
    {rec : List UInt8} (hrec : IsRecord rec) (hkept : ¬ padOverwritten rec r) :
    CrashSafe rec r := by
  have hc : ∃ segs, Committed (run Call.step t calls).ring segs :=
    (run_moves t calls).ring.inv (fun _ _ => committed_step) (ht ▸ ⟨[], committed_initRing data⟩)
  have hcr : ∃ segs, Committed r segs := by
    rcases hr with rfl | ⟨rec₀, hrec₀, rfl⟩
    · exact hc
    · exact committed_step hc (.append hrec₀ _)
  obtain ⟨segs, hcr⟩ := hcr
  exact hcr.crashSafe hrec hkept

/-! ### The bad case -/

/-- **In the bad case a reset can lose every pending record.**  The record puts a zero
byte where `read_off` points, and nothing is counted as evicted, so the boot after a reset
between the flush of the record and that of the header truncates the chain at its start. -/
theorem padOverwritten_loses_all {segs : List (List UInt8)} {pad : List UInt8}
    (h : Committed r (pad :: segs)) {rec : List UInt8} (hrec : IsRecord rec)
    (hbad : padOverwritten rec r) (hfit : total segs + rec.length ≤ kDataSize - 1)
    (hzero : (stampSeq rec (stampOf r.hdr.nextSeq)).getD (r.hdr.readOff - r.hdr.writeOff) 0 = 0) :
    ∃ img ∈ appendFlushes rec r, pending (beginRing img).1 = [] ∧ (appendRaw rec r).2 = 0 := by
  obtain ⟨hpadAt, hlt, hover, hend⟩ := hbad
  obtain ⟨k, off, hev⟩ := appendEvict_spec entryPred_entryEnd h.holds hrec
  have hlen := length_stampSeq (hrec.length_ge.trans' (by decide : 6 ≤ kRecordHeaderLen))
    (stampOf r.hdr.nextSeq)
  have hneed : appendNeed r.hdr.writeOff rec.length = rec.length := by
    rw [appendNeed, if_neg (by omega)]
  have hpad : isPad pad = true := by
    obtain ⟨-, -, -, hat, -⟩ :=
      walk_cons entryPred_entryEnd h.holds.read_lt h.holds.chain h.holds.total_lt
    rw [← hat, hpadAt]
  have hk : k ≤ 1 := by
    by_contra hk
    have hleast := hev.room.least 1 (by omega)
    rw [List.drop_succ_cons, List.drop_zero, hneed] at hleast
    omega
  have hnone : records ((pad :: segs).take k) = [] := by
    obtain rfl | rfl : k = 0 ∨ k = 1 := by omega
    · rfl
    · exact records_cons_of_pad hpad []
  have hpadded : appendPad rec.length r = r := by rw [appendPad, if_neg (by omega)]
  refine ⟨appendRecord rec r, ?_, ?_, ?_⟩
  · simp only [appendFlushes, hev.eq, hnone, List.length_nil, publishEviction_zero,
      appendPad_setReadOff, appendRecord_setReadOff, hpadded]
    simp only [ne_eq, not_true_eq_false, if_false, List.nil_append, List.mem_append,
      List.mem_cons]
    exact .inr (.inl rfl)
  · -- the boot finds a zero length where the walk starts
    have hbyte : (appendRecord rec r).data r.hdr.readOff = 0 := by
      have hat : appendAt r.hdr.writeOff rec.length = r.hdr.writeOff := by
        rw [appendAt, if_neg (by omega)]
      simp only [appendRecord, hat]
      rw [store, if_pos ⟨hlt.le, by rw [hlen]; exact hover⟩, hzero]
    have hwalk : repairChain (appendRecord rec r)
        = (appendRecord rec r).setWriteOff r.hdr.readOff := by
      have hN : kDataSize = 65503 + 1 := rfl
      rw [repairChain, appendRecord_hdr, hN, repairWalk, if_neg (by omega)]
      simp [wellFormedAt, hbyte, Ring.setWriteOff]
    have hheld : Holds Entry ((appendRecord rec r).setWriteOff r.hdr.readOff) [] :=
      ⟨h.holds.read_lt, .nil, (Nat.zero_le _).trans_lt h.holds.read_lt⟩
    rw [beginRing, if_pos (by rw [appendRecord_hdr]; exact h.valid), hwalk]
    exact (hheld.congr rfl rfl fun _ _ => rfl).pending_eq entryPred_entry
  · simp only [appendRaw, hev.eq, hnone, List.length_nil]

/-! ### A run into the bad case -/

/-- A `frame` record of zeros. -/
def zeroFrame : List UInt8 := frameRecord 0 0 0 0 0 0 0 0

/-- The boot record, 2518 frames up to 22 bytes before the end of the area, an ack of all
of them, and 2518 frames around the end of the area. -/
def padOnlyCalls : List (Clock × Call) :=
  (quietClock, .state stBoot 0 0) ::
    (List.replicate 2518 (quietClock, .frame 0 0 0 0 0 0 0 0) ++
      ((quietClock, .ack 2519) :: List.replicate 2518 (quietClock, .frame 0 0 0 0 0 0 0 0)))

theorem append_of_none {c : Clock} {rec : List UInt8} {t : Module}
    (hguard : heapTooClose c.brk = false) (hnone : (appendRaw rec t.ring).2 = 0) :
    append c rec t = { t with ring := (appendRaw rec t.ring).1 } := by
  simp [append, hguard, hnone]

theorem step_zeroFrame {t : Module} (hen : t.enabled = true)
    (hnone : (appendRaw zeroFrame t.ring).2 = 0) :
    Call.step t (quietClock, .frame 0 0 0 0 0 0 0 0)
      = { t with ring := (appendRaw zeroFrame t.ring).1 } := by
  have happ := append_of_none (c := quietClock) (by decide) hnone
  rw [Call.step, frame, if_neg (by simp [hen])]
  exact happ

theorem isRecord_zeroFrame : IsRecord zeroFrame := isRecord_frameRecord ..

theorem length_zeroFrame : zeroFrame.length = 26 := rfl

/-- Frames appended while there is room before the end of the area. -/
theorem run_frames {t : Module} (hen : t.enabled = true)
    (h : Holds EntryEnd t.ring segs) {s : ℕ} (hs : t.ring.hdr.nextSeq = s) (hs0 : s ≠ 0) (n : ℕ)
    (hlt : s + n < 0xFFFFFFFF) (hw : t.ring.hdr.writeOff + 26 * n < kDataSize)
    (hroom : total segs + 26 * n ≤ kDataSize - 1) :
    ∃ r, run Call.step t (List.replicate n (quietClock, .frame 0 0 0 0 0 0 0 0))
        = { t with ring := r } ∧
      Holds EntryEnd r (segs ++ (List.range n).map fun i => stampSeq zeroFrame (s + i)) ∧
      r.hdr.writeOff = t.ring.hdr.writeOff + 26 * n ∧ r.hdr.readOff = t.ring.hdr.readOff ∧
      r.hdr.nextSeq = s + n := by
  induction n with
  | zero => exact ⟨t.ring, rfl, by simpa using h, rfl, rfl, hs⟩
  | succ n ih =>
      obtain ⟨r, hrun, hh, hwr, hrd, hseq⟩ := ih (by omega) (by omega) (by omega)
      have htot : total (segs ++ (List.range n).map fun i => stampSeq zeroFrame (s + i))
          = total segs + 26 * n := by
        have hused := hh.chain.ends hh.read_lt hh.total_lt
        have hused' := h.chain.ends h.read_lt h.total_lt
        rw [hwr, hrd] at hused
        rw [total_append] at hused ⊢
        have hN := hh.total_lt
        rw [total_append] at hN
        omega
      obtain ⟨hnone, hh', hhdr⟩ := appendRaw_of_fits entryPred_entryEnd hh isRecord_zeroFrame
        (by rw [hwr, length_zeroFrame]; omega) (by rw [htot, length_zeroFrame]; omega)
      have hstamp : stampOf r.hdr.nextSeq = s + n := by
        rw [hseq, stampOf, if_neg (by omega)]
      have hstep := step_zeroFrame (t := { t with ring := r }) hen hnone
      refine ⟨(appendRaw zeroFrame r).1, ?_, ?_, ?_, ?_, ?_⟩
      · rw [List.replicate_succ', run_append, hrun]
        exact hstep
      · rw [List.range_succ, List.map_append, ← List.append_assoc]
        simpa [hstamp] using hh'
      · rw [hhdr]
        simp only [sealHeader, hwr, length_zeroFrame]
        omega
      · rw [hhdr]; exact hrd
      · rw [hhdr, hstamp]
        simp only [sealHeader]
        omega

/-- The first half: the ring is empty, 22 bytes before the end of its area. -/
theorem run_first_lap :
    ∃ r, run Call.step started ((quietClock, .state stBoot 0 0) ::
        (List.replicate 2518 (quietClock, .frame 0 0 0 0 0 0 0 0) ++ [(quietClock, .ack 2519)]))
        = { started with ring := r } ∧
      Holds EntryEnd r [] ∧ r.hdr.writeOff = 65482 ∧ r.hdr.nextSeq = 2520 := by
  have hboot := isRecord_buildState 0 stBoot 0 0
  obtain ⟨hnone, hh₁, hhdr₁⟩ := appendRaw_of_fits entryPred_entryEnd
    (initRing_holds EntryEnd fun _ => 0) hboot (by decide) (by decide)
  have hs₁ : Call.step started (quietClock, .state stBoot 0 0)
      = { started with ring := (appendRaw (buildState 0 stBoot 0 0) (initRing fun _ => 0)).1 } :=
    append_of_none (c := quietClock.after 1) (t := started) (by decide) hnone
  obtain ⟨r₂, hs₂, hh₂, hw₂, -, hseq₂⟩ := run_frames
    (t := { started with ring := (appendRaw (buildState 0 stBoot 0 0) (initRing fun _ => 0)).1 })
    rfl hh₁ (s := 2) (by rw [hhdr₁]; rfl) (by decide) 2518 (by decide) (by rw [hhdr₁]; decide)
    (by decide)
  have hw₂' : r₂.hdr.writeOff = 65482 := by rw [hw₂, hhdr₁]; rfl
  obtain ⟨hh₃, hr₃⟩ := ackRing_spec entryPred_entryEnd hh₂ (show 2519 < _ by omega)
  have hall : ([] ++ [stampSeq (buildState 0 stBoot 0 0) (stampOf (initRing fun _ => 0).hdr.nextSeq)]
      ++ (List.range 2518).map fun i => stampSeq zeroFrame (2 + i)).dropWhile (acked 2519) = [] := by
    refine List.dropWhile_eq_nil_iff.2 fun seg hseg => ?_
    rcases List.mem_append.1 hseg with hseg | hseg
    · rw [List.nil_append, List.mem_singleton] at hseg
      rw [hseg, acked, (hboot.stampSeq _).2]
      simp [stampOf, initRing, sealHeader]
    · obtain ⟨i, hi, rfl⟩ := List.mem_map.1 hseg
      have hi := List.mem_range.1 hi
      rw [acked, (isRecord_zeroFrame.stampSeq _).2]
      simp only [Bool.or_eq_true, decide_eq_true_eq]
      omega
  rw [hall] at hh₃
  refine ⟨ackRing 2519 r₂, ?_, hh₃, ?_, ?_⟩
  · rw [run_cons, hs₁, run_append, hs₂]
    rfl
  · rcases hr₃ with hr | ⟨off, hr⟩ <;> rw [hr] <;> exact hw₂'
  · rcases hr₃ with hr | ⟨off, hr⟩ <;> rw [hr] <;> exact hseq₂

/-- Where the run ends: `read_off` at the 22 bytes of `PAD`, `write_off` 14 bytes before. -/
theorem run_padOnlyCalls :
    ∃ r pad segs, run Call.step started padOnlyCalls = { started with ring := r } ∧
      Committed r (pad :: segs) ∧ isPad pad = true ∧ total segs = 65468 ∧ records segs ≠ [] ∧
      r.hdr.writeOff = 65468 ∧ r.hdr.readOff = 65482 := by
  obtain ⟨r₃, hs₃, hh₃, hw₃, hseq₃⟩ := run_first_lap
  have hrd₃ : r₃.hdr.readOff = 65482 := by
    have := (hh₃.chain.ends hh₃.read_lt hh₃.total_lt).2
    rw [total_nil, hw₃] at this
    have := hh₃.read_lt
    have := kDataSize_eq
    omega
  -- the frame that goes around the end of the area
  obtain ⟨k, off, pads, ⟨hev, hpads, hh₄⟩⟩ :=
    appendRaw_spec entryPred_entryEnd hh₃ isRecord_zeroFrame
  obtain rfl : k = 0 := Nat.le_zero.1 hev.room.le
  have hoff : off = 65482 := by
    have := (hev.holds.chain.ends hev.holds.read_lt hev.holds.total_lt).2
    have := hev.holds.read_lt
    have := kDataSize_eq
    simp only [List.drop_nil, total_nil, Ring.setReadOff_readOff, Ring.setReadOff_writeOff] at *
    omega
  have hhdr₄ := appendRaw_hdr hev
  rw [hw₃, Pads, if_pos (by decide)] at hpads
  obtain ⟨pad, rfl, hpad, hpadLen⟩ := hpads
  have hnone : (appendRaw zeroFrame r₃).2 = 0 := by simp only [appendRaw, hev.eq]; rfl
  have hs₄ := step_zeroFrame (t := { started with ring := r₃ }) rfl hnone
  have hw₄ : (appendRaw zeroFrame r₃).1.hdr.writeOff = 26 := by
    rw [hhdr₄, hw₃]; rfl
  have hrd₄ : (appendRaw zeroFrame r₃).1.hdr.readOff = 65482 := by
    rw [hhdr₄, hoff]
    exact publishEviction_readOff ..
  have hseq₄ : (appendRaw zeroFrame r₃).1.hdr.nextSeq = 2521 := by
    rw [hhdr₄, hseq₃]; rfl
  have htot₄ := hh₄.usedBytes
  rw [usedBytes, hrd₄, hw₄, if_neg (by decide)] at htot₄
  obtain ⟨r, hs₅, hh₅, hw₅, hrd₅, hseq₅⟩ := run_frames
    (t := { started with ring := (appendRaw zeroFrame r₃).1 }) rfl hh₄ hseq₄ (by decide) 2517
    (by decide) (by rw [hw₄]; decide) (by rw [← htot₄]; decide)
  have hrun : run Call.step started padOnlyCalls = { started with ring := r } := by
    have hsplit : padOnlyCalls = ((quietClock, .state stBoot 0 0) ::
        (List.replicate 2518 (quietClock, .frame 0 0 0 0 0 0 0 0) ++ [(quietClock, .ack 2519)]))
        ++ List.replicate (2517 + 1) (quietClock, .frame 0 0 0 0 0 0 0 0) := by
      simp only [padOnlyCalls, List.cons_append, List.append_assoc, List.nil_append]
    rw [hsplit, run_append, hs₃, List.replicate_succ, run_cons, hs₄]
    exact hs₅
  obtain ⟨segs', hc⟩ : ∃ segs, Committed r segs := by
    have := (run_moves started padOnlyCalls).ring.inv (fun _ _ => committed_step)
      ⟨[], committed_initRing fun _ => 0⟩
    rwa [hrun] at this
  have hwr : r.hdr.writeOff = 65468 := by rw [hw₅, hw₄]
  have hrd : r.hdr.readOff = 65482 := by rw [hrd₅, hrd₄]
  refine ⟨r, pad, stampSeq zeroFrame (stampOf r₃.hdr.nextSeq) ::
    (List.range 2517).map fun i => stampSeq zeroFrame (2521 + i), hrun, ⟨?_, hc.valid, hc.seq_lt⟩,
    hpad, ?_, ?_, hwr, hrd⟩
  · simpa using hh₅
  · have htot := hh₅.usedBytes
    rw [usedBytes, hrd, hwr, if_neg (by decide)] at htot
    simp only [List.drop_nil, List.nil_append, List.cons_append, total_cons, hpadLen] at htot ⊢
    have := kDataSize_eq
    omega
  · rw [records_cons_of_not_pad (isRecord_zeroFrame.stampSeq _).1.notPad]
    exact List.cons_ne_nil _ _

/-- **The append that breaks the claim**: a frame after this run, reset once its record is
flushed. -/
theorem frame_not_crashSafe :
    ¬ CrashSafe (frameRecord 0 0 0 0 0 0 0 0) (run Call.step started padOnlyCalls).ring := by
  obtain ⟨r, pad, segs, hrun, hc, hpad, htot, hne, hw, hr⟩ := run_padOnlyCalls
  rw [hrun]
  change ¬ CrashSafe zeroFrame r
  have hbad : padOverwritten zeroFrame r := by
    obtain ⟨-, -, -, hat, -⟩ :=
      walk_cons entryPred_entryEnd hc.holds.read_lt hc.holds.chain hc.holds.total_lt
    rw [padOverwritten, hat, hw, hr, length_zeroFrame]
    exact ⟨hpad, by decide, by decide, by decide⟩
  obtain ⟨img, himg, hlost, hnone⟩ := padOverwritten_loses_all hc isRecord_zeroFrame hbad
    (by rw [htot]; decide) (by rw [hw, hr]; rfl)
  have hpending : pending r ≠ [] := by
    rw [hc.holds.pending_eq entryPred_entryEnd, records_cons_of_pad hpad]
    exact hne
  intro hsafe
  rcases hsafe img himg with h | h
  · rw [hlost, hnone, List.drop_zero] at h
    exact hpending h.symm
  · rw [hlost] at h
    exact absurd h (by simp)

/-- One byte less than the gap before the `PAD`, and the append is crash safe. -/
theorem cmd_crashSafe : CrashSafe (cmdRecord 0 0 0 []) (run Call.step started padOnlyCalls).ring := by
  refine append_crashSafe (t := started) rfl padOnlyCalls (.inl rfl) (isRecord_cmdRecord ..) ?_
  obtain ⟨r, pad, segs, hrun, -, -, -, -, hw, hr⟩ := run_padOnlyCalls
  rintro ⟨-, -, hover, -⟩
  rw [hrun] at hover
  change r.hdr.readOff < r.hdr.writeOff + 13 at hover
  omega

end Telemetry
end G6Arena
