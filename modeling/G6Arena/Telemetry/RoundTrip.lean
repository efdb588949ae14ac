/-
# Blocks the host can decode

Encoder and decoder agree.  The encoder is `handleGetTelemetryBlock` over a byte ring,
the decoder `parse_block` over a flat payload.  A record that `wellFormedAt` accepts is
one that `_decode_payload` accepts (`decodePayload_ok`), so `parse_records` splits a block
where the ring did (`parseRecords_flatten`) and the cross-checks of `parse_block` hold.
The ring may be one that `repairChain` salvaged from arbitrary memory
(`reachable_holds`).
-/

import G6Arena.Telemetry.Block
import G6Arena.Telemetry.Codec
import G6Arena.Telemetry.Reach
import Mathlib

namespace G6Arena
namespace Telemetry

open ByteMem ByteRing BoundedLoop Machine Codec

/-! ### Unpacking -/

theorem unpack_append_right {xs ys : List UInt8} {off n : ℕ} (h : xs.length ≤ off) :
    unpack (xs ++ ys) off n = unpack ys (off - xs.length) n := by
  obtain ⟨d, rfl⟩ := Nat.exists_eq_add_of_le h
  rw [unpack, unpack, List.drop_length_add_append, Nat.add_sub_cancel_left]

theorem unpack_append_left {xs ys : List UInt8} {off n : ℕ} (h : off + n ≤ xs.length) :
    unpack (xs ++ ys) off n = unpack xs off n := by
  rw [unpack, unpack, List.drop_append_of_le_length (by omega),
    List.take_append_of_le_length (by rw [List.length_drop]; omega)]

@[simp] theorem unpack_cons_succ (b : UInt8) (bs : List UInt8) (off n : ℕ) :
    unpack (b :: bs) (off + 1) n = unpack bs off n := rfl

@[simp] theorem unpack_byte (b : UInt8) (bs : List UInt8) : unpack (b :: bs) 0 1 = b.toNat := by
  simp [unpack, ofLe]

/-- The first field of a buffer is the word written there. -/
theorem unpack_toLe_append (n v : ℕ) (bs : List UInt8) :
    unpack (toLe n v ++ bs) 0 n = v % 256 ^ n := by
  rw [unpack, List.drop_zero, List.take_left' (length_toLe n v), ofLe_toLe]

theorem unpack_toLe (n v : ℕ) : unpack (toLe n v) 0 n = v % 256 ^ n := by
  simpa using unpack_toLe_append n v []

/-- A field of an entry, read in the ring. -/
theorem unpack_eq_wordAt {seg : List UInt8} {off n : ℕ} (h : off + n ≤ seg.length) :
    unpack seg off n = wordAt (asMem seg) off n := by
  rw [unpack, wordAt]
  congr 1
  refine List.ext_getElem (by simp; omega) fun i hi _ => ?_
  have hin : i < n := by
    rw [List.length_take] at hi
    omega
  simp [bytesAt, asMem, List.getElem_drop, show off + i < seg.length by omega]

theorem unpack_byte_eq {seg : List UInt8} {off : ℕ} (h : off < seg.length) :
    unpack seg off 1 = (asMem seg off).toNat := by
  rw [unpack_eq_wordAt (by omega)]
  simp [wordAt, bytesAt, ofLe]

/-! ### Records -/

/-- A well-formed record as the host decodes it. -/
def decoded (seg : List UInt8) : Record where
  type := unpack seg 1 1
  seq := unpack seg 2 4
  tUs := unpack seg 6 4
  raw := seg
  fields := match decodePayload (unpack seg 1 1) (seg.drop recordHeaderLen) with
    | .ok fields => fields
    | .error _ => []

@[simp] theorem decoded_raw (seg : List UInt8) : (decoded seg).raw = seg := rfl

variable {seg : List UInt8}

theorem decoded_seq (h : IsRecord seg) : (decoded seg).seq = seqOf seg := by
  have hge := h.length_ge
  have hlen : kRecordHeaderLen = 10 := rfl
  exact unpack_eq_wordAt (by omega)

/-- **What `wellFormedAt` accepts, `_decode_payload` accepts.** -/
theorem decodePayload_ok (h : IsRecord seg) :
    decodePayload (unpack seg 1 1) (seg.drop recordHeaderLen) = .ok (decoded seg).fields := by
  have hge := h.length_ge
  have hh : kRecordHeaderLen = 10 := rfl
  have hh' : recordHeaderLen = 10 := rfl
  have hs := h.wellFormed.shape
  have hp := h.notPad
  have hlen := h.wellFormed.len
  have htype : unpack seg 1 1 = (asMem seg (0 + 1)).toNat := unpack_byte_eq (by omega)
  simp only [isPad, isPadAt, hlen, Bool.or_eq_false_iff, decide_eq_false_iff_not] at hp
  simp only [shapeAt, hlen, if_neg hp.1, if_neg hp.2] at hs
  suffices hok : ∃ f, decodePayload (unpack seg 1 1) (seg.drop recordHeaderLen) = .ok f by
    obtain ⟨f, hf⟩ := hok
    simp only [decoded, hf]
  rw [htype]
  split_ifs at hs with hcmd hframe hstate
  · -- the payload length byte agrees with the record length
    simp only [Bool.and_eq_true, decide_eq_true_eq] at hs
    have hmax : kCmdRecordLenMax = 21 := rfl
    have hplen : unpack (seg.drop recordHeaderLen) 2 1 = seg.length - 13 := by
      have hdrop : unpack (seg.drop recordHeaderLen) 2 1 = unpack seg 12 1 := by
        rw [unpack, unpack, List.drop_drop, hh']
      rw [hdrop, unpack_byte_eq (by omega)]
      have h12 : asMem seg 12 = UInt8.ofNat (seg.length - (kRecordHeaderLen + 3)) := hs.2
      rw [h12, UInt8.toNat_ofNat_of_lt' (by change _ < 256; omega), hh]
    have hcmd' : (asMem seg (0 + 1)).toNat = Codec.recCmd := by rw [hcmd]; rfl
    refine ⟨cmdFields (seg.drop recordHeaderLen), ?_⟩
    rw [decodePayload, if_pos hcmd', if_neg (by rw [List.length_drop]; omega)]
    simp only [hplen, List.length_drop]
    rw [if_neg (by omega)]
  · have hl := of_decide_eq_true hs
    have hmin : kFrameRecordLen = 26 := rfl
    have hbody : frameMinBody = 10 := rfl
    refine ⟨frameFields (seg.drop recordHeaderLen), ?_⟩
    rw [decodePayload, hframe, if_neg (by decide), if_pos (by decide),
      if_neg (by rw [List.length_drop]; omega)]
  · have hl := of_decide_eq_true hs
    have hmin : kStateRecordLen = 14 := rfl
    refine ⟨stateFields (unpack (seg.drop recordHeaderLen) 0 1)
      (unpack (seg.drop recordHeaderLen) 1 1) (unpack (seg.drop recordHeaderLen) 2 2), ?_⟩
    rw [decodePayload, hstate, if_neg (by decide), if_neg (by decide), if_pos (by decide),
      if_neg (by rw [List.length_drop, hl]; decide)]

/-- **`parse_records` decodes a record where it lies.** -/
theorem parseRecord_ok (h : IsRecord seg) (pre post : List UInt8) :
    parseRecord (pre ++ seg ++ post) pre.length seg.length = .ok (decoded seg) := by
  have hge := h.length_ge
  have hh : kRecordHeaderLen = 10 := rfl
  have hh' : recordHeaderLen = 10 := rfl
  have hraw : ((pre ++ seg ++ post).drop pre.length).take seg.length = seg := by
    rw [List.append_assoc, List.drop_left, List.take_left]
  have hpad : ¬ unpack seg 1 1 = Codec.recPad := by
    have hp := h.notPad
    simp only [isPad, isPadAt, Bool.or_eq_false_iff, decide_eq_false_iff_not] at hp
    rw [unpack_byte_eq (by omega)]
    exact fun hz => hp.2 (UInt8.toNat_inj.1 hz)
  rw [parseRecord, if_neg (by omega),
    if_neg (by simp only [List.length_append]; omega), hraw, if_neg hpad, decodePayload_ok h]
  rfl

theorem parseRecords_of_ok {buf : List UInt8} {i : ℕ} {rec : Record} (hi : i < buf.length)
    (h : parseRecord buf i (unpack buf i 1) = .ok rec) :
    parseRecords buf i = (parseRecords buf (i + unpack buf i 1)).map fun rest => rec :: rest := by
  rw [parseRecords, if_pos hi]
  split
  · next e he => rw [h] at he; cases he
  · next r hr => rw [h] at hr; cases hr; rfl

/-- **`parse_records` splits the bytes where the ring did.** -/
theorem parseRecords_flatten {recs : List (List UInt8)} (h : ∀ seg ∈ recs, IsRecord seg)
    (pre : List UInt8) :
    parseRecords (pre ++ recs.flatten) pre.length = .ok (recs.map decoded) := by
  induction recs generalizing pre with
  | nil =>
      rw [parseRecords, if_neg (by simp)]
      rfl
  | cons seg recs ih =>
      have hseg := h seg (List.mem_cons_self ..)
      have hpos := hseg.wellFormed.pos
      have hlen : unpack (pre ++ (seg :: recs).flatten) pre.length 1 = seg.length := by
        rw [List.flatten_cons, unpack_append_right le_rfl, Nat.sub_self,
          unpack_append_left (by omega), unpack_byte_eq hpos, hseg.wellFormed.len]
      have hone : parseRecord (pre ++ (seg :: recs).flatten) pre.length
          (unpack (pre ++ (seg :: recs).flatten) pre.length 1) = .ok (decoded seg) := by
        rw [hlen, List.flatten_cons, ← List.append_assoc]
        exact parseRecord_ok hseg pre recs.flatten
      have hrest := ih (fun s hs => h s (List.mem_cons_of_mem _ hs)) (pre ++ seg)
      rw [List.append_assoc, ← List.flatten_cons, List.length_append] at hrest
      rw [parseRecords_of_ok (by simp only [List.length_append, List.flatten_cons]; omega) hone,
        hlen, hrest]
      rfl

/-! ### The fields of the producers' records -/

/-- A stamped record, taken apart at its header. -/
theorem stampSeq_layout (len type : UInt8) (seq tUs : ℕ) (body : List UInt8) :
    stampSeq ([len, type, 0, 0, 0, 0] ++ toLe 4 tUs ++ body) seq
      = [len, type] ++ (toLe 4 seq ++ (toLe 4 tUs ++ body)) := by
  simp [stampSeq]

/-- What the host reads off a stamped record. -/
theorem decoded_layout (len type : UInt8) (seq tUs : ℕ) (body : List UInt8) :
    (decoded ([len, type] ++ (toLe 4 seq ++ (toLe 4 tUs ++ body)))).type = type.toNat ∧
    (decoded ([len, type] ++ (toLe 4 seq ++ (toLe 4 tUs ++ body)))).seq = seq % 2 ^ 32 ∧
    (decoded ([len, type] ++ (toLe 4 seq ++ (toLe 4 tUs ++ body)))).tUs = tUs % 2 ^ 32 ∧
    ([len, type] ++ (toLe 4 seq ++ (toLe 4 tUs ++ body))).drop recordHeaderLen = body := by
  refine ⟨by simp [decoded], ?_, ?_, ?_⟩
  · simp only [decoded]
    rw [unpack_append_right (by simp), show 2 - [len, type].length = 0 from rfl,
      unpack_toLe_append]
    norm_num
  · simp only [decoded]
    rw [unpack_append_right (by simp), show 6 - [len, type].length = 4 from rfl,
      unpack_append_right (by simp), length_toLe, Nat.sub_self, unpack_toLe_append]
    norm_num
  · simp [recordHeaderLen, ← List.append_assoc]

theorem fields_of_cmd (h : IsRecord seg) (ht : unpack seg 1 1 = Codec.recCmd) :
    (decoded seg).fields = cmdFields (seg.drop recordHeaderLen) := by
  have hok := decodePayload_ok h
  rw [ht, decodePayload, if_pos rfl] at hok
  split_ifs at hok
  simp only at hok
  split_ifs at hok
  exact (Except.ok.inj hok).symm

theorem fields_of_frame (h : IsRecord seg) (ht : unpack seg 1 1 = Codec.recFrame) :
    (decoded seg).fields = frameFields (seg.drop recordHeaderLen) := by
  have hok := decodePayload_ok h
  rw [ht, decodePayload, if_neg (by decide), if_pos rfl] at hok
  split_ifs at hok
  exact (Except.ok.inj hok).symm

theorem fields_of_state (h : IsRecord seg) (ht : unpack seg 1 1 = Codec.recState) :
    (decoded seg).fields = stateFields (unpack (seg.drop recordHeaderLen) 0 1)
      (unpack (seg.drop recordHeaderLen) 1 1) (unpack (seg.drop recordHeaderLen) 2 2) := by
  have hok := decodePayload_ok h
  rw [ht, decodePayload, if_neg (by decide), if_neg (by decide), if_pos rfl] at hok
  split_ifs at hok
  exact (Except.ok.inj hok).symm

/-- The decoded record shows the arguments of a `cmd` call, the request truncated to
`kCmdPayloadMax` bytes. -/
structure ShowsCmd (r : Record) (tRxUs : ℕ) (cmdByte status : UInt8) (req : List UInt8)
    (seq : ℕ) : Prop where
  type : r.type = Codec.recCmd
  seq : r.seq = seq % 2 ^ 32
  tUs : r.tUs = tRxUs % 2 ^ 32
  cmd : r.fields.lookup "cmd" = some (.int cmdByte.toNat)
  status : r.fields.lookup "status" = some (.int status.toNat)
  params : r.fields.lookup "params" = some (.str (hex (req.take 8)))

/-- The decoded record shows the arguments of a `frame` call, `spi_us` saturated. -/
structure ShowsFrame (r : Record) (tUs idx pattern sdLoadUs spiUs reqAgeUs : ℕ)
    (superseded flags : UInt8) (seq : ℕ) : Prop where
  type : r.type = Codec.recFrame
  seq : r.seq = seq % 2 ^ 32
  tUs : r.tUs = tUs % 2 ^ 32
  idx : r.fields.lookup "idx" = some (.int (idx % 2 ^ 16))
  pattern : r.fields.lookup "pattern" = some (.int (pattern % 2 ^ 16))
  sdLoadUs : r.fields.lookup "sd_load_us" = some (.int (sdLoadUs % 2 ^ 32))
  spiUs : r.fields.lookup "spi_us" = some (.int (min spiUs 65535))
  reqAgeUs : r.fields.lookup "req_age_us" = some (.int (reqAgeUs % 2 ^ 32))
  superseded : r.fields.lookup "superseded" = some (.int superseded.toNat)
  flags : r.fields.lookup "flags" = some (.int flags.toNat)

/-- The decoded record shows the arguments of a `state` call. -/
structure ShowsState (r : Record) (tUs : ℕ) (kind code : UInt8) (arg seq : ℕ) : Prop where
  type : r.type = Codec.recState
  seq : r.seq = seq % 2 ^ 32
  tUs : r.tUs = tUs % 2 ^ 32
  kind : r.fields.lookup "kind" = some (.int kind.toNat)
  code : r.fields.lookup "code" = some (.int code.toNat)
  arg : r.fields.lookup "arg" = some (.int (arg % 2 ^ 16))

/-- **A `CMD` record decodes to the arguments of `cmd`.** -/
theorem decoded_cmdRecord (tRxUs : ℕ) (cmdByte status : UInt8) (req : List UInt8) (seq : ℕ) :
    ShowsCmd (decoded (stampSeq (cmdRecord tRxUs cmdByte status req) seq)) tRxUs cmdByte status req
      seq := by
  have hrec := ((isRecord_cmdRecord tRxUs cmdByte status req).stampSeq seq).1
  have hle : (req.take 8).length ≤ 8 := List.length_take_le ..
  have hlay : stampSeq (cmdRecord tRxUs cmdByte status req) seq = [UInt8.ofNat
      (kRecordHeaderLen + 3 + (req.take 8).length), recCmd] ++ (toLe 4 seq ++ (toLe 4 tRxUs ++
      ([cmdByte, status, UInt8.ofNat (req.take 8).length] ++ req.take 8))) := by
    rw [← stampSeq_layout]
    simp only [cmdRecord, kCmdPayloadMax, List.append_assoc]
  rw [hlay] at hrec ⊢
  obtain ⟨htype, hseq, htus, hbody⟩ := decoded_layout
    (UInt8.ofNat (kRecordHeaderLen + 3 + (req.take 8).length)) recCmd seq tRxUs
    ([cmdByte, status, UInt8.ofNat (req.take 8).length] ++ req.take 8)
  have hf := fields_of_cmd hrec htype
  rw [hbody] at hf
  refine ⟨htype, hseq, htus, ?_, ?_, ?_⟩ <;> rw [hf] <;> generalize req.take 8 = req8 at hle ⊢
  · simp [cmdFields]
  · simp [cmdFields, List.lookup]
  · have hplen : req8.length % 256 = req8.length := Nat.mod_eq_of_lt (by omega)
    simp [cmdFields, List.lookup, hplen]

/-- **A `FRAME` record decodes to the arguments of `frame`.** -/
theorem decoded_frameRecord (tUs idx pattern sdLoadUs spiUs reqAgeUs : ℕ)
    (superseded flags : UInt8) (seq : ℕ) :
    ShowsFrame (decoded
      (stampSeq (frameRecord tUs idx pattern sdLoadUs spiUs reqAgeUs superseded flags) seq))
      tUs idx pattern sdLoadUs spiUs reqAgeUs superseded flags seq := by
  have hrec := ((isRecord_frameRecord tUs idx pattern sdLoadUs spiUs reqAgeUs superseded
    flags).stampSeq seq).1
  have hlay : stampSeq (frameRecord tUs idx pattern sdLoadUs spiUs reqAgeUs superseded flags) seq
      = [UInt8.ofNat kFrameRecordLen, recFrame] ++ (toLe 4 seq ++ (toLe 4 tUs ++
        (toLe 2 idx ++ (toLe 2 pattern ++ (toLe 4 sdLoadUs ++ (toLe 2 (min spiUs 0xFFFF) ++
        (toLe 4 reqAgeUs ++ [superseded, flags]))))))) := by
    rw [← stampSeq_layout]
    simp only [frameRecord, List.append_assoc]
  rw [hlay] at hrec ⊢
  obtain ⟨htype, hseq, htus, hbody⟩ := decoded_layout (UInt8.ofNat kFrameRecordLen) recFrame seq tUs
    (toLe 2 idx ++ (toLe 2 pattern ++ (toLe 4 sdLoadUs ++ (toLe 2 (min spiUs 0xFFFF) ++
      (toLe 4 reqAgeUs ++ [superseded, flags])))))
  have hf := fields_of_frame hrec htype
  rw [hbody] at hf
  have hspi : min spiUs 65535 % 65536 = min spiUs 65535 := Nat.mod_eq_of_lt (by omega)
  refine ⟨htype, hseq, htus, ?_, ?_, ?_, ?_, ?_, ?_, ?_⟩ <;> rw [hf] <;>
    simp [frameFields, List.lookup, unpack_append_right, unpack_toLe_append, hspi]

/-- **A `STATE` record decodes to the arguments of `state`.** -/
theorem decoded_stateRecord (tUs : ℕ) (kind code : UInt8) (arg seq : ℕ) :
    ShowsState (decoded (stampSeq (buildState tUs kind code arg) seq)) tUs kind code arg seq := by
  have hrec := ((isRecord_buildState tUs kind code arg).stampSeq seq).1
  have hlay : stampSeq (buildState tUs kind code arg) seq
      = [UInt8.ofNat kStateRecordLen, recState] ++ (toLe 4 seq ++ (toLe 4 tUs ++
        ([kind, code] ++ toLe 2 arg))) := by
    rw [← stampSeq_layout]
    simp only [buildState, List.append_assoc]
  rw [hlay] at hrec ⊢
  obtain ⟨htype, hseq, htus, hbody⟩ := decoded_layout (UInt8.ofNat kStateRecordLen) recState seq tUs
    ([kind, code] ++ toLe 2 arg)
  have hf := fields_of_state hrec htype
  rw [hbody] at hf
  refine ⟨htype, hseq, htus, ?_, ?_, ?_⟩ <;> rw [hf] <;>
    simp [stateFields, List.lookup, unpack_toLe]

/-! ### The block header -/

/-- The host reads back the header fields it was sent. -/
theorem parseBlockHeader_ok (now : ℕ) (info : BlockInfo) (t : Module) (bytes : List UInt8) :
    ∃ hdr, parseBlockHeader (blockHeader now info t ++ bytes) = .ok hdr ∧
      hdr.firstSeq = info.firstSeq % 2 ^ 32 ∧ hdr.nRecords = info.nRecords % 2 ^ 16 ∧
      hdr.dropped = dropped t % 2 ^ 32 ∧ hdr.more = (if info.more then 1 else 0) := by
  have hlen : ¬ (blockHeader now info t ++ bytes).length < Codec.blockHeaderLen := by
    simp [blockHeader, Codec.blockHeaderLen]
    omega
  refine ⟨_, by rw [parseBlockHeader, if_neg hlen], ?_⟩
  simp only [blockHeader, List.append_assoc]
  refine ⟨?_, ?_, ?_, ?_⟩
  · simp [unpack_append_right, unpack_toLe_append]
  · simp [unpack_append_right, unpack_toLe_append]
  · simp [unpack_append_right, unpack_toLe_append]
  · simp [unpack_append_right]
    split_ifs <;> rfl

theorem length_blockHeader (now : ℕ) (info : BlockInfo) (t : Module) :
    (blockHeader now info t).length = 18 := by
  simp [blockHeader]

/-! ### Reachable states -/

/-- In every state reached the ring holds entries, unless the module gave it up. -/
def Sound (t : Module) : Prop := t.ringOk = true → ∃ segs, Holds Entry t.ring segs

theorem holds_step {r r' : Ring} (h : ∃ segs, Holds Entry r segs) (hstep : RingStep r r') :
    ∃ segs, Holds Entry r' segs := by
  obtain ⟨segs, h⟩ := h
  cases hstep with
  | append hrec =>
      obtain ⟨k, off, pads, happ⟩ := appendRaw_spec entryPred_entry h hrec
      exact ⟨_, happ.holds⟩
  | ack ackSeq =>
      rcases Nat.lt_or_ge ackSeq r.hdr.nextSeq with hlt | hge
      · exact ⟨_, (ackRing_spec entryPred_entry h hlt).1⟩
      · rw [ackRing_of_le hge]
        exact ⟨segs, h⟩
  | flags f => exact ⟨segs, h.congr rfl rfl fun _ _ => rfl⟩

theorem Sound.moves {t t' : Module} (h : Sound t) (hm : Moves t t') : Sound t' := fun hok =>
  hm.ring.inv (fun _ _ => holds_step) (h (hm.ok hok))

/-- **Whatever OCRAM held, the ring of a reached state holds entries.** -/
theorem reachable_holds (c : Clock) (hs : BootHealth) (mem : Ring) (calls : List (Clock × Call)) :
    Sound (run Call.step (begin c hs mem) calls) := by
  refine Sound.moves ?_ (run_moves _ calls)
  unfold begin
  split_ifs
  · exact fun h => nomatch h
  · refine Sound.moves (fun _ => ?_) (states_moves ..)
    exact beginRing_holds mem

/-- The pending records of the module: none once it gave the ring up. -/
def pendingOf (t : Module) : List (List UInt8) := if t.ringOk then pending t.ring else []

/-- **What a request drains**: the longest prefix that fits of the records pending after
its ack. -/
theorem drain_spec {t : Module} (h : Sound t) (c : Clock) (ackSeq maxBytes : ℕ) :
    let taken := takeFit (min maxBytes kRecordBytesMax) (pendingOf (drain c ackSeq maxBytes t).1)
    (drain c ackSeq maxBytes t).2 =
      (taken.flatten,
        { firstSeq := (taken.head?.map seqOf).getD 0, nRecords := taken.length
          more := taken ≠ pendingOf (drain c ackSeq maxBytes t).1 }) ∧
      ∀ seg ∈ pendingOf (drain c ackSeq maxBytes t).1, IsRecord seg := by
  have hack := h.moves (ack_moves c ackSeq t)
  unfold drain peek
  split_ifs with hoff hguard
  · have hp : pendingOf (ack c ackSeq t) = [] := by
      rw [pendingOf, if_neg (by simpa using hoff)]
    simp [hp, takeFit]
  · have hp : pendingOf (tripHeapGuard (c.after 1) (ack c ackSeq t)) = [] := rfl
    simp [hp, takeFit]
  · have hok : (ack c ackSeq t).ringOk = true := by simpa using hoff
    obtain ⟨segs, hh⟩ := hack hok
    have hp : pendingOf (ack c ackSeq t) = records segs := by
      rw [pendingOf, if_pos hok, hh.pending_eq entryPred_entry]
    simp only [hp]
    refine ⟨by rw [peekRing_spec entryPred_entry hh], fun seg hseg => ⟨?_, ?_⟩⟩
    · exact hh.wellFormed entryPred_entry seg (mem_of_mem_records hseg)
    · exact isPad_of_mem_records hseg

/-- A block holds few records. -/
theorem length_takeFit_le {budget : ℕ} {recs : List (List UInt8)} (h : ∀ seg ∈ recs, IsRecord seg) :
    (takeFit budget recs).length ≤ budget := by
  have hpos : ∀ seg ∈ takeFit budget recs, 0 < seg.length := fun seg hseg =>
    (h seg ((takeFit_isPrefix budget recs).subset hseg)).wellFormed.pos
  exact (length_le_total hpos).trans (total_takeFit_le budget recs)

theorem length_flatten_eq_total (segs : List (List UInt8)) : segs.flatten.length = total segs := by
  simp [total, List.length_flatten]

theorem firstSeq_lt (segs : List (List UInt8)) :
    (segs.head?.map seqOf).getD 0 < 2 ^ 32 := by
  cases segs with
  | nil => exact Nat.two_pow_pos 32
  | cons seg _ =>
      have := ofLe_lt (bytesAt (asMem seg) (0 + 2) 4)
      rw [length_bytesAt] at this
      simpa [seqOf, seqAt, wordAt] using this

/-- **The reply to a request, as the host decodes it.** -/
theorem reply_decodes {t : Module} (h : Sound t) (c : Clock) {buf : Mem}
    (hlen : 7 ≤ (buf 0).toNat) :
    let reply := (handleGetTelemetryBlock c buf t).2
    let held := pendingOf (handleGetTelemetryBlock c buf t).1
    let taken := takeFit (min (wordAt buf 6 2) kRecordBytesMax) held
    reply.command = getTelemetryBlockCmd ∧ reply.status = 0 ∧ reply.payload.length ≤ 196 ∧
    ∃ hdr, parseBlock reply.payload = .ok (hdr, taken.map decoded) ∧
      hdr.nRecords = taken.length ∧ hdr.firstSeq = (taken.head?.map seqOf).getD 0 ∧
      hdr.dropped = dropped (handleGetTelemetryBlock c buf t).1 % 2 ^ 32 ∧
      hdr.more = if taken = held then 0 else 1 := by
  have hge : ¬ (buf 0).toNat < 7 := by omega
  obtain ⟨hdrain, hrec⟩ := drain_spec h c (wordAt buf 2 4) (wordAt buf 6 2)
  have hhandle : handleGetTelemetryBlock c buf t
      = ((drain c (wordAt buf 2 4) (wordAt buf 6 2) t).1, ⟨getTelemetryBlockCmd, 0,
          blockHeader (c.us 2) (drain c (wordAt buf 2 4) (wordAt buf 6 2) t).2.2
            (drain c (wordAt buf 2 4) (wordAt buf 6 2) t).1
          ++ (drain c (wordAt buf 2 4) (wordAt buf 6 2) t).2.1⟩) := by
    rw [handleGetTelemetryBlock, if_neg hge]
  rw [hhandle, hdrain]
  simp only
  generalize (drain c (wordAt buf 2 4) (wordAt buf 6 2) t).1 = t' at hrec ⊢
  generalize htaken : takeFit (min (wordAt buf 6 2) kRecordBytesMax) (pendingOf t') = taken
  have hsub : ∀ seg ∈ taken, IsRecord seg := fun seg hseg =>
    hrec seg ((htaken ▸ takeFit_isPrefix _ _ : taken <+: pendingOf t').subset hseg)
  have hfit : total taken ≤ 178 := by
    have := total_takeFit_le (min (wordAt buf 6 2) kRecordBytesMax) (pendingOf t')
    have hmax : kRecordBytesMax = 178 := rfl
    rw [htaken] at this
    omega
  have hcount : taken.length ≤ 178 :=
    (length_le_total fun seg hseg => (hsub seg hseg).wellFormed.pos).trans hfit
  obtain ⟨hdr, hparse, hfirst, hn, hdropped, hmore⟩ := parseBlockHeader_ok (c.us 2)
    { firstSeq := (taken.head?.map seqOf).getD 0, nRecords := taken.length
      more := taken ≠ pendingOf t' } t' taken.flatten
  have hseq : hdr.firstSeq = (taken.head?.map seqOf).getD 0 := by
    rw [hfirst]
    exact Nat.mod_eq_of_lt (firstSeq_lt taken)
  have hnum : hdr.nRecords = taken.length := by
    rw [hn]
    exact Nat.mod_eq_of_lt (show taken.length < 2 ^ 16 by omega)
  have hdrop : ∀ info, (blockHeader (c.us 2) info t' ++ taken.flatten).drop Codec.blockHeaderLen
      = [] ++ taken.flatten := fun info => List.drop_left' (length_blockHeader ..)
  refine ⟨trivial, trivial, ?_, hdr, ?_, hnum, hseq, hdropped, ?_⟩
  · rw [List.length_append, length_blockHeader, length_flatten_eq_total]
    omega
  · have hrecs := parseRecords_flatten hsub []
    simp only [parseBlock, hparse, hdrop]
    rw [show (0 : ℕ) = ([] : List UInt8).length from rfl, hrecs]
    simp only [checkBlock, List.length_map, hnum, ne_eq, not_true_eq_false, if_false]
    cases taken with
    | nil => simp [hseq]
    | cons seg rest =>
        have h₁ := decoded_seq (hsub seg (List.mem_cons_self ..))
        simp only [List.map_cons, List.head?_cons, Option.map_some, Option.getD_some] at hseq ⊢
        rw [if_neg (by rw [h₁, hseq]; exact fun hne => hne rfl)]
  · rw [hmore]
    by_cases heq : taken = pendingOf t' <;> simp [heq]

/-- What is pending after a request is records. -/
theorem handle_pending_isRecord {t : Module} (h : Sound t) (c : Clock) {buf : Mem}
    (hlen : 7 ≤ (buf 0).toNat) :
    ∀ seg ∈ pendingOf (handleGetTelemetryBlock c buf t).1, IsRecord seg := by
  rw [handleGetTelemetryBlock, if_neg (by omega)]
  exact (drain_spec h c (wordAt buf 2 4) (wordAt buf 6 2)).2

/-- **Encoder and decoder agree.**  In every state reached after a boot over any memory,
every well-formed request is answered by a payload of at most 196 bytes, which the
transport sends whole and `parse_block` accepts.  It decodes to the longest prefix of the
pending records that fits in the budget, verbatim; `n_records` and `first_seq` match, and
`more` tells whether a pending record remains.  Records of the producers decode to the
arguments they recorded. -/
theorem block_decodes (c₀ : Clock) (hs : BootHealth) (mem : Ring) (calls : List (Clock × Call))
    (c : Clock) (buf : Mem) (hlen : 7 ≤ (buf 0).toNat) :
    let t := run Call.step (begin c₀ hs mem) calls
    let reply := (handleGetTelemetryBlock c buf t).2
    let held := pendingOf (handleGetTelemetryBlock c buf t).1
    let budget := min (wordAt buf 6 2) 178
    reply.payload.length ≤ 196 ∧
    sendResponse reply = [UInt8.ofNat (2 + reply.payload.length), 0, 0xA9] ++ reply.payload ∧
    ∃ hdr recs, parseBlock reply.payload = .ok (hdr, recs) ∧
      recs.map Record.raw <+: held ∧ total (recs.map Record.raw) ≤ budget ∧
      (∀ pre, pre <+: held → total pre ≤ budget → pre.length ≤ recs.length) ∧
      hdr.nRecords = recs.length ∧ hdr.firstSeq = (recs.head?.map Record.seq).getD 0 ∧
      hdr.more = (if recs.map Record.raw = held then 0 else 1) ∧
      ∀ r ∈ recs,
        (∀ tRxUs cmdByte status req seq, r.raw = stampSeq (cmdRecord tRxUs cmdByte status req) seq →
          ShowsCmd r tRxUs cmdByte status req seq) ∧
        (∀ tUs idx pattern sdLoadUs spiUs reqAgeUs superseded flags seq,
          r.raw = stampSeq
            (frameRecord tUs idx pattern sdLoadUs spiUs reqAgeUs superseded flags) seq →
          ShowsFrame r tUs idx pattern sdLoadUs spiUs reqAgeUs superseded flags seq) ∧
        (∀ tUs kind code arg seq, r.raw = stampSeq (buildState tUs kind code arg) seq →
          ShowsState r tUs kind code arg seq) := by
  have hsound := reachable_holds c₀ hs mem calls
  obtain ⟨hcmd, hstatus, hle, hdr, hparse, hn, hfirst, -, hmore⟩ := reply_decodes hsound c hlen
  have hrec := handle_pending_isRecord hsound c hlen
  have hsend := sendResponse_of_fits hle
  rw [hcmd, hstatus] at hsend
  have hraw : ∀ l : List (List UInt8), (l.map decoded).map Record.raw = l := fun l => by
    simp [Function.comp_def]
  refine ⟨hle, hsend, hdr, _, hparse, ?_, ?_, ?_, ?_, ?_, ?_, ?_⟩
  · rw [hraw]; exact takeFit_isPrefix ..
  · rw [hraw]; exact total_takeFit_le ..
  · intro pre hpre hfit
    rw [List.length_map]
    exact takeFit_longest hpre hfit
  · rw [hn, List.length_map]
  · rw [hfirst, List.head?_map, Option.map_map]
    exact congrArg (Option.getD · 0) (Option.map_congr fun seg hseg => (decoded_seq (hrec seg
      ((takeFit_isPrefix ..).subset (List.mem_of_mem_head? hseg)))).symm)
  · rw [hraw]; exact hmore
  · intro r hr
    obtain ⟨seg, -, rfl⟩ := List.mem_map.1 hr
    refine ⟨?_, ?_, ?_⟩
    · rintro tRxUs cmdByte status req seq heq
      rw [show seg = _ from heq]
      exact decoded_cmdRecord ..
    · rintro tUs idx pattern sdLoadUs spiUs reqAgeUs superseded flags seq heq
      rw [show seg = _ from heq]
      exact decoded_frameRecord ..
    · rintro tUs kind code arg seq heq
      rw [show seg = _ from heq]
      exact decoded_stateRecord ..

/-- The module of a cold boot, its memory all zero. -/
def coldBoot : BootHealth := ⟨0, false, 0, false, false, false, 0, 0, 0, fun _ => 0⟩

/-- The request `[8, 0xA9, ack_seq, max_bytes, flags]` that acknowledges nothing and asks
for all a block can hold. -/
def drainRequest : Mem := asMem ([8, getTelemetryBlockCmd] ++ toLe 4 0xFFFFFFFF ++ toLe 2 0xFFFF ++ [0])

/-- The first drain after a cold boot. -/
theorem block_decodes_coldBoot :
    ∃ hdr recs, parseBlock (handleGetTelemetryBlock quietClock drainRequest
        (begin quietClock coldBoot (initRing fun _ => 0))).2.payload = .ok (hdr, recs) ∧
      hdr.nRecords = recs.length := by
  obtain ⟨-, -, hdr, recs, hparse, -, -, -, hn, -⟩ :=
    block_decodes quietClock coldBoot (initRing fun _ => 0) [] quietClock drainRequest (by decide)
  exact ⟨hdr, recs, hparse, hn⟩

end Telemetry
end G6Arena
