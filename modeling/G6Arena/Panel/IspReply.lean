/-
# Replies of the panels

A panel answers an in-system-programming command in a second transfer.  Its reply ends in a
CRC-8, and comes over a return line that may be late by a bit or two, so that `readResp` clocks
one byte more than it is asked for and takes the first of three alignments whose CRC-8 is right.

An alignment that is too early sees `fill` bits of the line before the reply and misses as many
`last` bits of it.  Whether its CRC-8 is right then does not depend on the rest of the reply, but
only on its length (`checks_early`): five cases in all are mistaken for a reply, `mistakes`.
-/

import G6Arena.Panel.Checksums
import G6Arena.Panel.Spi

namespace G6Arena
namespace Panel

/-! ### `readResp` -/

/-- What `readResp` gives back: its result, and what it leaves in `resp` and in `*status`, if that
is not null. -/
structure IspReply where
  ok : Bool
  resp : List UInt8
  status : Option UInt8
  deriving DecidableEq

/-- `raw`, moved up by so many bits. -/
def realigned (bits : UInt8) (respLen : ℕ) (raw : List UInt8) : List UInt8 :=
  (List.range respLen).map fun i =>
    if bits = 0 then raw.getD i 0
    else (raw.getD i 0 <<< bits) ||| (raw.getD (i + 1) 0 >>> (8 - bits))

/-- The last byte is the CRC-8 of the others. -/
def checks (respLen : ℕ) (resp : List UInt8) : Bool :=
  crc8Autosar (resp.take (respLen - 1)) = resp.getD (respLen - 1) 0

section

variable [Board]

/-- `SpiManager::transferSinglePanel`, when the line of the panel gives `cipo`. -/
def transferSinglePanel (panel : ℕ) (cipo : List UInt8) : Option (List UInt8) :=
  if panelSets.any fun s => s.1 = panel || s.2 = panel then some cipo else none

/-- `IspController::readResp`, with the `respLen + 1` bytes the line gives. -/
def readResp (panel respLen : ℕ) (cipo resp : List UInt8) (status : Option UInt8) : IspReply :=
  if 21 < respLen + 1 then ⟨false, resp, status⟩
  else
    match transferSinglePanel panel cipo with
    | none => ⟨false, resp, status⟩
    | some raw =>
      match ([0, 1, 2] : List UInt8).find? fun bits => checks respLen (realigned bits respLen raw) with
      | some bits =>
        ⟨true, realigned bits respLen raw, status.map fun _ => (realigned bits respLen raw).getD 0 0⟩
      | none => ⟨false, realigned 0 respLen raw, status⟩

theorem transferSinglePanel_wired {panel : ℕ} (h : panel < panelCountPerFrame) (cipo : List UInt8) :
    transferSinglePanel panel cipo = some cipo := by
  obtain ⟨s, hs, hpanel⟩ := List.mem_flatMap.1 (panelSets_perm.mem_iff.2 (List.mem_range.2 h))
  have hwired : panelSets.any (fun s => s.1 = panel || s.2 = panel) = true := by
    refine List.any_eq_true.2 ⟨s, hs, ?_⟩
    rw [Bool.or_eq_true, decide_eq_true_iff, decide_eq_true_iff]
    rcases List.mem_cons.1 hpanel with heq | hmem
    · exact .inl heq.symm
    · exact .inr (List.mem_singleton.1 hmem).symm
  rw [transferSinglePanel, if_pos hwired]

end

/-! ### Alignments, as bits -/

/-- Two bytes in a row, moved up. -/
theorem byteBits_realigned {bits : UInt8} (h : bits = 0 ∨ bits = 1 ∨ bits = 2) (x y : UInt8) :
    Crc.byteBits (if bits = 0 then x else (x <<< bits) ||| (y >>> (8 - bits)))
      = (Crc.byteBits x).drop bits.toNat ++ (Crc.byteBits y).take bits.toNat := by
  have hrange : List.range 8 = [0, 1, 2, 3, 4, 5, 6, 7] := rfl
  rcases h with rfl | rfl | rfl
  · exact (List.append_nil _).symm
  · have hmoved : ((x <<< 1) ||| (y >>> (8 - 1))).toBitVec = (x.toBitVec <<< 1) ||| (y.toBitVec >>> 7) := rfl
    rw [if_neg (by decide)]
    unfold Crc.byteBits
    rw [hmoved, hrange]
    simp
  · have hmoved : ((x <<< 2) ||| (y >>> (8 - 2))).toBitVec = (x.toBitVec <<< 2) ||| (y.toBitVec >>> 6) := rfl
    rw [if_neg (by decide)]
    unfold Crc.byteBits
    rw [hmoved, hrange]
    simp

@[simp] theorem length_realigned (bits : UInt8) (respLen : ℕ) (raw : List UInt8) :
    (realigned bits respLen raw).length = respLen := by
  simp [realigned]

/-- **An alignment is a window of the bits.** -/
theorem bits_realigned {bits : UInt8} (h : bits = 0 ∨ bits = 1 ∨ bits = 2) {respLen : ℕ}
    {raw : List UInt8} (hlen : raw.length = respLen + 1) :
    Crc.bits (realigned bits respLen raw)
      = ((Crc.bits raw).drop bits.toNat).take (8 * respLen) := by
  have hbits : bits.toNat ≤ 8 := by rcases h with rfl | rfl | rfl <;> decide
  induction respLen generalizing raw with
  | zero => rfl
  | succ n ih =>
    obtain ⟨x, raw, rfl⟩ := List.exists_cons_of_length_pos (by omega : 0 < raw.length)
    rw [List.length_cons, Nat.add_right_cancel_iff] at hlen
    obtain ⟨y, rest, rfl⟩ := List.exists_cons_of_length_pos (by omega : 0 < raw.length)
    have hcons : realigned bits (n + 1) (x :: y :: rest)
        = (if bits = 0 then x else (x <<< bits) ||| (y >>> (8 - bits)))
          :: realigned bits n (y :: rest) := by
      unfold realigned
      rw [List.range_succ_eq_map, List.map_cons, List.map_map]
      rfl
    have hdrop : ((Crc.byteBits x).drop bits.toNat).length = 8 - bits.toNat := by
      rw [List.length_drop, Crc.length_byteBits]
    have hleft : 8 * (n + 1) = (8 - bits.toNat) + (bits.toNat + 8 * n) := by omega
    rw [hcons, Crc.bits_cons, ih hlen, byteBits_realigned h, Crc.bits_cons x,
      List.drop_append_of_le_length (by rw [Crc.length_byteBits]; exact hbits), hleft, ← hdrop,
      List.take_length_add_append, List.take_add, Crc.bits_cons,
      List.take_append_of_le_length (by rw [Crc.length_byteBits]; exact hbits), List.append_assoc]

/-- The CRC-8 of an alignment is right when its bits leave the register at the residue. -/
theorem checks_iff {resp : List UInt8} (hpos : 0 < resp.length) :
    checks resp.length resp = true ↔ Crc.feed 0x2F#8 0xFF#8 (Crc.bits resp) = crc8Residue := by
  have hlast : resp.getD (resp.length - 1) 0 = resp.getLast (List.ne_nil_of_length_pos hpos) := by
    rw [List.getLast_eq_getElem, List.getD_eq_getElem _ _ (by omega)]
  unfold checks
  rw [decide_eq_true_iff, hlast, ← List.dropLast_eq_take, crc8_checks, List.dropLast_append_getLast]

/-! ### A line that is late -/

/-- What an alignment at `bits` sees of a reply that comes after the bits `before`: the length of
the reply, the bits before it and the bits it misses. -/
def early (before : List Bool) (reply : List UInt8) (bits : ℕ) : ℕ × List Bool × List Bool :=
  (reply.length, before.drop bits,
    (Crc.bits reply).drop (8 * reply.length - (before.length - bits)))

/-- What is taken for a reply one or two bits too early. -/
def mistakes : List (ℕ × List Bool × List Bool) := [
  (2, [true], [true]),
  (2, [true, true], [true, true]),
  (6, [false, true], [true, false]),
  (10, [true, false], [true, false]),
  (15, [true, true], [false, false])]

/-- Some alignment before the right one is taken for a reply, and is another one. -/
def Mistaken (before : List Bool) (reply : List UInt8) : Prop :=
  (∃ bits < before.length, early before reply bits ∈ mistakes) ∧
    reply ≠ [0xFF, 0xFF] ∧ reply ≠ List.replicate 10 0xAA

instance (before : List Bool) (reply : List UInt8) : Decidable (Mistaken before reply) := by
  unfold Mistaken
  infer_instance

/-- Is the CRC-8 right of a window that begins with `fill` and misses the `last` bits? -/
def windowChecks (w : ℕ × List Bool × List Bool) : Bool :=
  Crc.feed 0x2F#8 crc8Residue w.2.2
    = crc8Residue ^^^ Crc.shifts 0x2F#8 (8 * w.1) (Crc.feed 0x2F#8 0xFF#8 w.2.1 ^^^ 0xFF#8)

theorem windowChecks_one : ∀ len < 21, 2 ≤ len → ∀ f l : Bool,
    windowChecks (len, [f], [l]) = decide ((len, [f], [l]) ∈ mistakes) := by
  decide +kernel

theorem windowChecks_two : ∀ len < 21, 2 ≤ len → ∀ f f' l l' : Bool,
    windowChecks (len, [f, f'], [l, l']) = decide ((len, [f, f'], [l, l']) ∈ mistakes) := by
  decide +kernel

section

variable {reply cipo : List UInt8} {before after : List Bool} {bits : UInt8}

/-- One or two bits too early, the five cases are all there are. -/
theorem windowChecks_iff {len : ℕ} {fill last : List Bool} (hmin : 2 ≤ len) (hmax : len ≤ 20)
    (hfill : fill.length = 1 ∨ fill.length = 2) (hlast : last.length = fill.length) :
    windowChecks (len, fill, last) = true ↔ (len, fill, last) ∈ mistakes := by
  rcases hfill with hone | htwo
  · obtain ⟨f, rfl⟩ := List.length_eq_one_iff.1 hone
    obtain ⟨l, rfl⟩ := List.length_eq_one_iff.1 (hlast.trans hone)
    rw [windowChecks_one len (by omega) hmin, decide_eq_true_iff]
  · obtain ⟨f, f', rfl⟩ := List.length_eq_two.1 htwo
    obtain ⟨l, l', rfl⟩ := List.length_eq_two.1 (hlast.trans htwo)
    rw [windowChecks_two len (by omega) hmin, decide_eq_true_iff]

/-- The bits an early alignment sees. -/
theorem early_window (hbits : bits = 0 ∨ bits = 1 ∨ bits = 2) (hle : bits.toNat ≤ before.length)
    (hbefore : before.length ≤ 2) (hpos : 0 < reply.length)
    (hfull : before.length + after.length = 8)
    (hcipo : Crc.bits cipo = before ++ (Crc.bits reply ++ after)) :
    Crc.bits (realigned bits reply.length cipo) ++ (early before reply bits.toNat).2.2
      = before.drop bits.toNat ++ Crc.bits reply := by
  have hlen : cipo.length = reply.length + 1 := by
    have hcount := congrArg List.length hcipo
    rw [List.length_append, List.length_append, Crc.length_bits, Crc.length_bits] at hcount
    omega
  have hleft : 8 * reply.length = (before.drop bits.toNat).length
      + (8 * reply.length - (before.length - bits.toNat)) := by
    rw [List.length_drop]
    omega
  have htake : 8 * reply.length - (before.length - bits.toNat) ≤ (Crc.bits reply).length := by
    rw [Crc.length_bits]
    omega
  rw [bits_realigned hbits hlen, hcipo, List.drop_append_of_le_length hle]
  conv_lhs => enter [1]; rw [hleft]
  rw [List.take_length_add_append, List.take_append_of_le_length htake, List.append_assoc]
  unfold early
  rw [List.take_append_drop]

/-- The right alignment. -/
theorem realigned_right (hbits : bits = 0 ∨ bits = 1 ∨ bits = 2) (heq : bits.toNat = before.length)
    (hbefore : before.length ≤ 2) (hpos : 0 < reply.length)
    (hfull : before.length + after.length = 8)
    (hcipo : Crc.bits cipo = before ++ (Crc.bits reply ++ after)) :
    realigned bits reply.length cipo = reply := by
  have hwindow := early_window hbits heq.le hbefore hpos hfull hcipo
  have hlast : (early before reply bits.toNat).2.2 = [] := by
    unfold early
    rw [heq, Nat.sub_self, Nat.sub_zero, ← Crc.length_bits]
    exact List.drop_length
  rw [hlast, List.append_nil, heq, List.drop_length, List.nil_append] at hwindow
  exact Crc.bits_inj (length_realigned ..) hwindow

/-- **An early alignment is taken for a reply in five cases**, whatever the reply is otherwise. -/
theorem checks_early (hbits : bits = 0 ∨ bits = 1 ∨ bits = 2) (hlt : bits.toNat < before.length)
    (hbefore : before.length ≤ 2) (hmin : 2 ≤ reply.length) (hmax : reply.length ≤ 20)
    (hcrc : checks reply.length reply = true) (hfull : before.length + after.length = 8)
    (hcipo : Crc.bits cipo = before ++ (Crc.bits reply ++ after)) :
    checks reply.length (realigned bits reply.length cipo) = true
      ↔ early before reply bits.toNat ∈ mistakes := by
  have hwindow := early_window hbits hlt.le hbefore (by omega) hfull hcipo
  have hfill : (before.drop bits.toNat).length = before.length - bits.toNat := List.length_drop
  have hlast : (early before reply bits.toNat).2.2.length = (before.drop bits.toNat).length := by
    unfold early
    rw [hfill, List.length_drop, Crc.length_bits]
    omega
  have hreply := (checks_iff (by omega)).1 hcrc
  have hpos : 0 < (realigned bits reply.length cipo).length := by
    rw [length_realigned]
    omega
  have hchecks := checks_iff hpos
  rw [length_realigned] at hchecks
  have hslid := Crc.feed_window (by decide : (0x2F#8).getLsbD 0 = true) 0xFF#8 hwindow
  rw [hreply, Crc.length_bits] at hslid
  rw [hchecks, hslid]
  refine Iff.trans ?_ (windowChecks_iff hmin hmax (by omega) hlast)
  unfold windowChecks
  rw [decide_eq_true_iff]
  rfl

/-- In three of them the reply may be one pattern over and over, and is seen where it is not yet. -/
theorem repeats_iff {fill last : List Bool} (hmem : (reply.length, fill, last) ∈ mistakes) :
    Crc.bits reply ++ last = fill ++ Crc.bits reply
      ↔ reply = [0xFF, 0xFF] ∨ reply = List.replicate 10 0xAA := by
  have hrepeat (n : ℕ) (hn : 8 * reply.length = n * fill.length)
      (h : Crc.bits reply ++ last = fill ++ Crc.bits reply) :
      Crc.bits reply = (List.replicate n fill).flatten :=
    Crc.eq_replicate_of_window h n (by rw [Crc.length_bits, hn])
  simp only [mistakes, List.mem_cons, List.not_mem_nil, or_false, Prod.mk.injEq] at hmem
  rcases hmem with ⟨hlen, rfl, rfl⟩ | ⟨hlen, rfl, rfl⟩ | ⟨hlen, rfl, rfl⟩ | ⟨hlen, rfl, rfl⟩ | ⟨hlen, rfl, rfl⟩
  · constructor
    · intro h
      have hbits : Crc.bits reply = Crc.bits [0xFF, 0xFF] := hrepeat 16 (by rw [hlen]; rfl) h
      exact .inl (Crc.bits_inj hlen hbits)
    · rintro (rfl | rfl)
      · decide
      · cases hlen
  · constructor
    · intro h
      have hbits : Crc.bits reply = Crc.bits [0xFF, 0xFF] := hrepeat 8 (by rw [hlen]; rfl) h
      exact .inl (Crc.bits_inj hlen hbits)
    · rintro (rfl | rfl)
      · decide
      · cases hlen
  · constructor
    · intro h
      rw [hrepeat 24 (by rw [hlen]; rfl) h] at h
      exact absurd h (by decide)
    · rintro (rfl | rfl) <;> cases hlen
  · constructor
    · intro h
      have hbits : Crc.bits reply = Crc.bits (List.replicate 10 0xAA) := hrepeat 40 (by rw [hlen]; rfl) h
      exact .inr (Crc.bits_inj hlen hbits)
    · rintro (rfl | rfl)
      · cases hlen
      · decide
  · constructor
    · intro h
      rw [hrepeat 60 (by rw [hlen]; rfl) h] at h
      exact absurd h (by decide)
    · rintro (rfl | rfl) <;> cases hlen

theorem realigned_eq_iff (hbits : bits = 0 ∨ bits = 1 ∨ bits = 2) (hle : bits.toNat ≤ before.length)
    (hbefore : before.length ≤ 2) (hpos : 0 < reply.length)
    (hfull : before.length + after.length = 8)
    (hcipo : Crc.bits cipo = before ++ (Crc.bits reply ++ after))
    (hmem : early before reply bits.toNat ∈ mistakes) :
    realigned bits reply.length cipo = reply
      ↔ reply = [0xFF, 0xFF] ∨ reply = List.replicate 10 0xAA := by
  have hwindow := early_window hbits hle hbefore hpos hfull hcipo
  refine Iff.trans ?_ (repeats_iff hmem)
  rw [← hwindow]
  constructor
  · intro h
    rw [h]
    rfl
  · intro h
    exact Crc.bits_inj (length_realigned ..) (List.append_cancel_right h).symm

/-! ### The reply -/

theorem exists_shift {n : ℕ} (h : n ≤ 2) :
    ∃ bits : UInt8, (bits = 0 ∨ bits = 1 ∨ bits = 2) ∧ bits.toNat = n := by
  have hcases : n = 0 ∨ n = 1 ∨ n = 2 := by omega
  rcases hcases with rfl | rfl | rfl
  · exact ⟨0, .inl rfl, rfl⟩
  · exact ⟨1, .inr (.inl rfl), rfl⟩
  · exact ⟨2, .inr (.inr rfl), rfl⟩

/-- The alignment that is taken is the first whose CRC-8 is right. -/
theorem find?_first (right : UInt8 → Bool) (hbits : bits = 0 ∨ bits = 1 ∨ bits = 2)
    (h : right bits = true) :
    ∃ first : UInt8, ([0, 1, 2] : List UInt8).find? right = some first ∧
      (first = 0 ∨ first = 1 ∨ first = 2) ∧ right first = true ∧
      ∀ b : UInt8, b.toNat < first.toNat → right b = false := by
  cases h0 : right 0 with
  | true => 
    exact ⟨0, List.find?_cons_of_pos h0, .inl rfl, h0, fun b hb => absurd hb (Nat.not_lt_zero _)⟩
  | false =>
    have hzero (b : UInt8) (hb : b.toNat < 1) : right b = false := by
      have heq : b = 0 := UInt8.toNat_inj.1 (Nat.lt_one_iff.1 hb)
      rwa [heq]
    cases h1 : right 1 with
    | true =>
      refine ⟨1, ?_, .inr (.inl rfl), h1, hzero⟩
      rw [List.find?_cons, h0, List.find?_cons, h1]
    | false =>
      have h2 : right 2 = true := by
        rcases hbits with rfl | rfl | rfl
        · exact absurd h (by rw [h0]; decide)
        · exact absurd h (by rw [h1]; decide)
        · exact h
      refine ⟨2, ?_, .inr (.inr rfl), h2, fun b hb => ?_⟩
      · rw [List.find?_cons, h0, List.find?_cons, h1, List.find?_cons, h2]
      · rcases Nat.lt_or_ge b.toNat 1 with hlt | hge
        · exact hzero b hlt
        · have heq : b = 1 := UInt8.toNat_inj.1 (Nat.le_antisymm (Nat.lt_succ_iff.1 hb) hge)
          rwa [heq]

end

section

variable [Board]

/-- **A reply that is late by up to two bits is read**, and as it is unless it is mistaken. -/
theorem readResp_realigns {panel : ℕ} (hpanel : panel < panelCountPerFrame) {reply cipo : List UInt8}
    (hmin : 2 ≤ reply.length) (hmax : reply.length ≤ 20) (hcrc : checks reply.length reply = true)
    {before after : List Bool} (hbefore : before.length ≤ 2) (hfull : before.length + after.length = 8)
    (hcipo : Crc.bits cipo = before ++ (Crc.bits reply ++ after)) (resp : List UInt8)
    (status : Option UInt8) :
    (readResp panel reply.length cipo resp status).ok = true ∧
      (readResp panel reply.length cipo resp status
          = ⟨true, reply, status.map fun _ => reply.getD 0 0⟩ ↔ ¬ Mistaken before reply) := by
  have hpos : 0 < reply.length := by omega
  obtain ⟨late, hlate, hdelay⟩ := exists_shift hbefore
  have hright := realigned_right hlate hdelay hbefore hpos hfull hcipo
  obtain ⟨first, hfind, hfirst, hchecks, hnone⟩ :=
    find?_first (fun bits => checks reply.length (realigned bits reply.length cipo)) hlate
      (by rw [hright]; exact hcrc)
  have hread : readResp panel reply.length cipo resp status
      = ⟨true, realigned first reply.length cipo,
          status.map fun _ => (realigned first reply.length cipo).getD 0 0⟩ := by
    unfold readResp
    rw [if_neg (by omega), transferSinglePanel_wired hpanel]
    dsimp only
    rw [hfind]
  rw [hread]
  refine ⟨rfl, ?_⟩
  have hsame : (⟨true, realigned first reply.length cipo,
        status.map fun _ => (realigned first reply.length cipo).getD 0 0⟩ : IspReply)
      = ⟨true, reply, status.map fun _ => reply.getD 0 0⟩ ↔
      realigned first reply.length cipo = reply := by
    constructor
    · intro h
      exact congrArg IspReply.resp h
    · intro h
      rw [h]
  rw [hsame]
  unfold Mistaken
  have hle : first.toNat ≤ late.toNat := by
    by_contra hlt
    have hno := hnone late (by omega)
    rw [hright, hcrc] at hno
    cases hno
  rcases hle.lt_or_eq with hlt | heq
  · rw [hdelay] at hlt
    have hmem := (checks_early hfirst hlt hbefore hmin hmax hcrc hfull hcipo).1 hchecks
    rw [realigned_eq_iff hfirst hlt.le hbefore hpos hfull hcipo hmem]
    constructor
    · rintro (h | h) ⟨-, hff, haa⟩
      · exact hff h
      · exact haa h
    · intro h
      by_contra hno
      rw [not_or] at hno
      exact h ⟨⟨first.toNat, hlt, hmem⟩, hno⟩
  · rw [realigned_right hfirst (heq.trans hdelay) hbefore hpos hfull hcipo]
    refine iff_of_true rfl ?_
    rintro ⟨⟨b, hb, hmem⟩, -, -⟩
    obtain ⟨shift, hshift, rfl⟩ := exists_shift (hb.le.trans hbefore)
    have hno := hnone shift (by omega)
    rw [(checks_early hshift hb hbefore hmin hmax hcrc hfull hcipo).2 hmem] at hno
    cases hno

/-- A reply that does not fit the buffer is not read at all. -/
theorem readResp_long {respLen : ℕ} (h : 20 < respLen) (panel : ℕ) (cipo resp : List UInt8)
    (status : Option UInt8) : readResp panel respLen cipo resp status = ⟨false, resp, status⟩ := by
  unfold readResp
  rw [if_pos (by omega)]

end

section

local instance replyBoard : Board := ⟨.hw10_10⟩

/-- The reply `00 BD`, late by a bit, on a line that is low before it. -/
theorem readResp_realigns_low :
    readResp 0 2 [0x00, 0x5E, 0x80] [0, 0] (some 7) = ⟨true, [0x00, 0xBD], some 0x00⟩ := by
  have hcrc : checks [0x00, 0xBD].length [0x00, 0xBD] = true := by decide +kernel
  have hcipo : Crc.bits [0x00, 0x5E, 0x80]
      = [false] ++ (Crc.bits [0x00, 0xBD] ++ List.replicate 7 false) := by decide +kernel
  have hread := readResp_realigns (by decide : 0 < panelCountPerFrame) (by decide) (by decide) hcrc
    (by decide) (by decide) hcipo [0, 0] (some 7)
  exact hread.2.2 (by decide +kernel)

/-- **The same reply on a line that is high before it** is read as `80 5E`, and one of 21 bytes is
not read. -/
theorem readResp_mistaken :
    (checks 2 [0x00, 0xBD] = true ∧
      Crc.bits [0x80, 0x5E, 0x80] = [true] ++ (Crc.bits [0x00, 0xBD] ++ List.replicate 7 false) ∧
      readResp 0 2 [0x80, 0x5E, 0x80] [0, 0] (some 7) = ⟨true, [0x80, 0x5E], some 0x80⟩) ∧
    (checks 21 (List.replicate 20 0 ++ [0x0A]) = true ∧
      readResp 0 21 (List.replicate 20 0 ++ [0x0A, 0]) (List.replicate 21 1) (some 7)
        = ⟨false, List.replicate 21 1, some 7⟩) := by
  decide +kernel

end

end Panel
end G6Arena
