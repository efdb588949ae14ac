/-
# Ack, peek and boot, entry by entry

What the three walks of the ring do to the entries it holds.  `ackRing` drops the
entries up to the first record past the acknowledged sequence number
(`ackRing_spec`); `peekRing` copies the longest prefix of the pending records that
fits the budget (`peekRing_spec`); `repairChain` leaves a chain of entries over any
memory (`repairChain_holds`) and leaves a chain that is one already as it is
(`repairChain_eq`).
-/

import G6Arena.Telemetry.Append

namespace G6Arena
namespace Telemetry

open ByteMem ByteRing BoundedLoop

variable {P : ℕ → List UInt8 → Prop} {r : Ring} {segs : List (List UInt8)} {data : Mem}
  {off w : ℕ}

/-! ### Ack -/

/-- Does an ack of `ackSeq` free the entry?  `PAD`s go with the records before them. -/
def acked (ackSeq : ℕ) (seg : List UInt8) : Bool := isPad seg || seqOf seg ≤ ackSeq

/-- **The walk of `ack`** ends at the first record that is not acknowledged; the flag
`moved` tells whether it went anywhere. -/
theorem loop_ackPass (hP : EntryPred P) (hoff : off < kDataSize)
    (h : Chain kDataSize P data w off segs) (ht : total segs < kDataSize) (ackSeq : ℕ) {n : ℕ}
    (hn : segs.length ≤ n) (moved : Bool) :
    ∃ off' moved', loop (ackPass data w ackSeq) n (off, moved) = (off', moved') ∧
      off' < kDataSize ∧ Chain kDataSize P data w off' (segs.dropWhile (acked ackSeq)) ∧
      (moved' = false → off' = off ∧ segs.dropWhile (acked ackSeq) = segs) := by
  induction segs generalizing off moved n with
  | nil =>
      cases h
      have hnone : ackPass data w ackSeq (w, moved) = none := by simp [ackPass]
      exact ⟨w, moved, loop_of_none hnone n, hoff, .nil, fun _ => ⟨rfl, rfl⟩⟩
  | cons seg segs ih =>
      obtain ⟨hne, hwf, -, hpad, -, hseq, hrest, hlt⟩ := walk_cons hP hoff h ht
      rw [total_cons] at ht
      cases hack : acked ackSeq seg with
      | false =>
          obtain ⟨hp, hs⟩ : isPad seg = false ∧ ackSeq < seqOf seg := by
            simpa [acked] using hack
          have hnone : ackPass data w ackSeq (off, moved) = none := by
            simp [ackPass, hne, hwf, hpad, hp, hseq hp, hs]
          rw [List.dropWhile_cons_of_neg (by simp [hack])]
          exact ⟨off, moved, loop_of_none hnone n, hoff, h, fun _ => ⟨rfl, rfl⟩⟩
      | true =>
          have hsome : ackPass data w ackSeq (off, moved)
              = some (nextOff (off + (data off).toNat), true) := by
            cases hp : isPad seg with
            | true => simp [ackPass, hne, hwf, hpad, hp]
            | false =>
                have hs : ¬ ackSeq < seqOf seg := by simpa [acked, hp] using hack
                simp [ackPass, hne, hwf, hpad, hp, hseq hp, hs]
          obtain ⟨n, rfl⟩ := Nat.exists_eq_add_of_lt (show 0 < n by simp at hn; omega)
          obtain ⟨off', moved', hl, hlt', hch, hm⟩ :=
            ih hlt hrest (by omega) (n := n) (by simp at hn; omega) true
          rw [List.dropWhile_cons_of_pos hack, Nat.zero_add, loop_succ_of_some hsome]
          refine ⟨off', moved', hl, hlt', hch, fun hmf => ?_⟩
          -- a walk that has moved stays moved
          have hkeep : (loop (ackPass data w ackSeq) n
              (nextOff (off + (data off).toNat), true)).2 = true :=
            loop_inv (I := fun s : ℕ × Bool => s.2 = true) (fun s s' _ hs => by
              obtain ⟨o, b⟩ := s
              simp only [ackPass] at hs
              split_ifs at hs
              obtain rfl := Option.some.inj hs
              rfl) n rfl
          rw [hl] at hkeep
          rw [hmf] at hkeep
          cases hkeep

/-- **`ack` frees the entries up to the first record past the acknowledged one.** -/
theorem ackRing_spec (hP : EntryPred P) (h : Holds P r segs) {ackSeq : ℕ}
    (hack : ackSeq < r.hdr.nextSeq) :
    Holds P (ackRing ackSeq r) (segs.dropWhile (acked ackSeq)) ∧
      (ackRing ackSeq r = r ∨ ∃ off, ackRing ackSeq r
        = { r with hdr := sealHeader { r.hdr with readOff := off } }) := by
  obtain ⟨off, moved, hl, hlt, hch, hm⟩ :=
    loop_ackPass hP h.read_lt h.chain h.total_lt ackSeq (h.length_le hP) false
  have htot : total (segs.dropWhile (acked ackSeq)) < kDataSize := by
    have h₁ := congrArg total (List.takeWhile_append_dropWhile (p := acked ackSeq) (l := segs))
    have h₂ := h.total_lt
    rw [total_append] at h₁
    omega
  rw [ackRing, if_neg (by omega), hl]
  cases moved with
  | false =>
      obtain ⟨-, hd⟩ := hm rfl
      rw [hd]
      exact ⟨h, .inl rfl⟩
  | true => exact ⟨⟨hlt, hch, htot⟩, .inr ⟨off, rfl⟩⟩

theorem ackRing_of_le {ackSeq : ℕ} (h : r.hdr.nextSeq ≤ ackSeq) : ackRing ackSeq r = r := by
  rw [ackRing, if_pos h]

/-! ### Peek -/

/-- The longest prefix of the records that fits in `budget` bytes. -/
def takeFit : ℕ → List (List UInt8) → List (List UInt8)
  | _, [] => []
  | budget, rec :: recs =>
    if rec.length ≤ budget then rec :: takeFit (budget - rec.length) recs else []

theorem takeFit_isPrefix (budget : ℕ) (recs : List (List UInt8)) :
    takeFit budget recs <+: recs := by
  induction recs generalizing budget with
  | nil => exact List.prefix_rfl
  | cons rec recs ih =>
      unfold takeFit
      split_ifs
      · exact List.cons_prefix_cons.2 ⟨rfl, ih _⟩
      · exact List.nil_prefix

theorem total_takeFit_le (budget : ℕ) (recs : List (List UInt8)) :
    total (takeFit budget recs) ≤ budget := by
  induction recs generalizing budget with
  | nil => exact Nat.zero_le _
  | cons rec recs ih =>
      unfold takeFit
      split_ifs with hfit
      · have := ih (budget - rec.length)
        rw [total_cons]; omega
      · exact Nat.zero_le _

/-- **No longer prefix fits.** -/
theorem takeFit_longest {budget : ℕ} {recs pre : List (List UInt8)} (hpre : pre <+: recs)
    (hfit : total pre ≤ budget) : pre.length ≤ (takeFit budget recs).length := by
  induction recs generalizing budget pre with
  | nil => rw [List.prefix_nil.1 hpre]; exact Nat.zero_le _
  | cons rec recs ih =>
      cases pre with
      | nil => exact Nat.zero_le _
      | cons seg pre =>
          obtain ⟨rfl, htail⟩ := List.cons_prefix_cons.1 hpre
          rw [total_cons] at hfit
          rw [takeFit, if_pos (by omega), List.length_cons, List.length_cons]
          have hlen := ih htail (show total pre ≤ budget - seg.length by omega)
          omega

/-- **The walk of `peek`** copies the records that fit and stops before the first that
does not. -/
theorem loop_peekPass (hP : EntryPred P) (hoff : off < kDataSize)
    (h : Chain kDataSize P data w off segs) (ht : total segs < kDataSize) {b n : ℕ}
    (hn : segs.length ≤ n) (out : List UInt8) (hout : out.length ≤ b) (first cnt : ℕ) :
    ∃ off', loop (peekPass data w b) n ⟨off, out, first, cnt⟩
        = ⟨off', out ++ (takeFit (b - out.length) (records segs)).flatten,
            if cnt = 0 then
              ((takeFit (b - out.length) (records segs)).head?.map seqOf).getD first
            else first,
            cnt + (takeFit (b - out.length) (records segs)).length⟩ ∧
      (off' = w ↔ takeFit (b - out.length) (records segs) = records segs) := by
  induction segs generalizing off out first cnt n with
  | nil =>
      cases h
      have hnone : peekPass data w b ⟨w, out, first, cnt⟩ = none := by simp [peekPass]
      exact ⟨w, by rw [loop_of_none hnone]; simp [takeFit], by simp [takeFit]⟩
  | cons seg segs ih =>
      obtain ⟨hne, hwf, hlen, hpad, hbytes, hseq, hrest, hlt⟩ := walk_cons hP hoff h ht
      rw [total_cons] at ht
      obtain ⟨n, rfl⟩ := Nat.exists_eq_add_of_lt (show 0 < n by simp at hn; omega)
      rw [Nat.zero_add]
      have hn' : segs.length ≤ n := by simp at hn; omega
      cases hp : isPad seg with
      | true =>
          have hsome : peekPass data w b ⟨off, out, first, cnt⟩
              = some ⟨nextOff (off + (data off).toNat), out, first, cnt⟩ := by
            simp [peekPass, hne, hwf, hpad, hp]
          rw [records_cons_of_pad hp, loop_succ_of_some hsome]
          exact ih hlt hrest (by omega) hn' out hout first cnt
      | false =>
          rw [records_cons_of_not_pad hp]
          rcases Nat.lt_or_ge (b - out.length) seg.length with hbig | hfit
          · have hnone : peekPass data w b ⟨off, out, first, cnt⟩ = none := by
              simp [peekPass, hne, hwf, hpad, hp, hlen]
              omega
            rw [loop_of_none hnone, takeFit, if_neg (by omega)]
            exact ⟨off, by simp, by simp [hne]⟩
          · have hsome : peekPass data w b ⟨off, out, first, cnt⟩
                = some ⟨nextOff (off + (data off).toNat), out ++ seg,
                    if cnt = 0 then seqOf seg else first, cnt + 1⟩ := by
              simp [peekPass, hne, hwf, hpad, hp, hlen, hbytes, hseq hp]
              omega
            rw [loop_succ_of_some hsome, takeFit, if_pos hfit]
            obtain ⟨off', hl, hiff⟩ := ih hlt hrest (by omega) hn' (out ++ seg)
              (by rw [List.length_append]; omega) (if cnt = 0 then seqOf seg else first) (cnt + 1)
            rw [List.length_append, ← Nat.sub_sub] at hl hiff
            refine ⟨off', ?_, by rw [hiff, List.cons_eq_cons]; simp⟩
            rw [hl]
            simp [Nat.add_assoc, Nat.add_comm 1]

/-- **`peek` copies the longest prefix of the pending records that fits**, verbatim, and
says whether a record is left. -/
theorem peekRing_spec (hP : EntryPred P) (h : Holds P r segs) (maxBytes : ℕ) :
    peekRing maxBytes r =
      ((takeFit maxBytes (records segs)).flatten,
        { firstSeq := ((takeFit maxBytes (records segs)).head?.map seqOf).getD 0
          nRecords := (takeFit maxBytes (records segs)).length
          more := takeFit maxBytes (records segs) ≠ records segs }) := by
  obtain ⟨off, hl, hiff⟩ := loop_peekPass hP h.read_lt h.chain h.total_lt (b := maxBytes)
    (h.length_le hP) [] (Nat.zero_le _) 0 0
  simp only [List.length_nil, Nat.sub_zero] at hl hiff
  simp [peekRing, hl, hiff]

/-! ### Boot -/

/-- The bytes from `off` on to `w`, around the end of the area. -/
def bytesAhead (off w : ℕ) : ℕ := if off ≤ w then w - off else kDataSize - off + w

theorem bytesAhead_lt (hoff : off < kDataSize) (hw : w < kDataSize) :
    bytesAhead off w < kDataSize := by
  unfold bytesAhead
  split_ifs <;> omega

/-- An entry that `wellFormedAt` accepts is taken off the bytes ahead. -/
theorem bytesAhead_next {len : ℕ} (hw : w < kDataSize) (hne : off ≠ w) (hpos : 0 < len)
    (hfit : off + len ≤ kDataSize) (hcross : off < w → off + len ≤ w) :
    len + bytesAhead (nextOff (off + len)) w = bytesAhead off w := by
  unfold bytesAhead nextOff
  split_ifs <;> omega

/-- **The walk of `repairChain`** ends where a chain of entries ends, whatever the memory
holds: it meets no byte twice. -/
theorem repairWalk_chain (data : Mem) (hw : w < kDataSize) (n : ℕ) (hoff : off < kDataSize) :
    ∃ segs, Chain kDataSize Entry data (repairWalk data w n off) off segs ∧
      total segs ≤ bytesAhead off w := by
  induction n generalizing off with
  | zero => exact ⟨[], .nil, Nat.zero_le _⟩
  | succ n ih =>
      unfold repairWalk
      split_ifs with hend hwf
      · rw [← hend]
        exact ⟨[], .nil, Nat.zero_le _⟩
      · exact ⟨[], .nil, Nat.zero_le _⟩
      · obtain ⟨seg, hb, hlen, hwell, hfit, hcross⟩ :=
          entry_of_wellFormedAt (by simpa using hwf : wellFormedAt data off w = true)
        have hnext : nextOff (off + seg.length) < kDataSize := wrap_lt (by omega) hfit
        rw [hlen]
        obtain ⟨segs, hch, hle⟩ := ih hnext
        have hahead := bytesAhead_next hw hend hwell.pos hfit hcross
        refine ⟨seg :: segs, .cons hwell.pos hfit hb hwell hch, ?_⟩
        rw [total_cons]
        omega

theorem repairWalk_eq (hP : EntryPred P) (hoff : off < kDataSize)
    (h : Chain kDataSize P data w off segs) (ht : total segs < kDataSize) {n : ℕ}
    (hn : segs.length ≤ n) : repairWalk data w n off = w := by
  induction segs generalizing off n with
  | nil =>
      cases h
      cases n <;> simp [repairWalk]
  | cons seg segs ih =>
      obtain ⟨hne, hwf, -, -, -, -, hrest, hlt⟩ := walk_cons hP hoff h ht
      rw [total_cons] at ht
      obtain ⟨n, rfl⟩ := Nat.exists_eq_add_of_lt (show 0 < n by simp at hn; omega)
      rw [Nat.zero_add, repairWalk, if_neg hne, hwf]
      exact ih hlt hrest (by omega) (by simp at hn; omega)

/-- **A repaired ring holds entries**, over any memory whose cursors are in range. -/
theorem repairChain_holds (hr : r.hdr.readOff < kDataSize) (hw : r.hdr.writeOff < kDataSize) :
    ∃ segs, Holds Entry (repairChain r) segs := by
  obtain ⟨segs, hch, hle⟩ := repairWalk_chain r.data hw kDataSize hr
  exact ⟨segs, hr, hch, hle.trans_lt (bytesAhead_lt hr hw)⟩

/-- **A ring that holds entries needs no repair.** -/
theorem repairChain_eq (hP : EntryPred P) (h : Holds P r segs) : repairChain r = r := by
  rw [repairChain, repairWalk_eq hP h.read_lt h.chain h.total_lt (h.length_le hP)]

theorem initRing_holds (P : ℕ → List UInt8 → Prop) (data : Mem) : Holds P (initRing data) [] :=
  ⟨show 0 < kDataSize by decide, .nil, show 0 < kDataSize by decide⟩

/-- **Whatever OCRAM held, a boot starts from a ring that holds entries.** -/
theorem beginRing_holds (mem : Ring) : ∃ segs, Holds Entry (beginRing mem).1 segs := by
  unfold beginRing
  split_ifs with hv
  · have hcur : mem.hdr.readOff < kDataSize ∧ mem.hdr.writeOff < kDataSize := by
      unfold validHeader at hv
      split_ifs at hv with h₁ h₂ h₃
      omega
    obtain ⟨segs, h⟩ := repairChain_holds hcur.1 hcur.2
    exact ⟨segs, h.congr rfl rfl fun _ _ => rfl⟩
  · exact ⟨[], initRing_holds Entry mem.data⟩

end Telemetry
end G6Arena
