/-
# The pattern file as the host reads it

`PatternFile` of `stream_pattern.py`: a host that streams a pattern parses the file itself, with
checks of its own, and sends each frame without its checksum.  The controller's `openPattern` and
`readFrame` take the same file from the card.

The two go by their own arithmetic: Python's checksums are on integers and masked, the controller's
are registers; Python asks for the length of the whole file first, the controller checks what it
reads.  A file the host accepts and the controller opens is one pattern for both, and every frame of
it can be read (`patternFile_read`).  The controller refuses every header the host finds a fault in,
and besides a pattern without frames and one of another arena (`patternFile_verdicts`).
-/

import G6Arena.Panel.Blocks
import G6Arena.Sd.OpenPattern
import Mathlib.Data.Nat.Bitwise
import Mathlib.Tactic.SplitIfs

namespace G6Arena
namespace Sd

open ByteMem Panel

/-! ### Checksums on integers -/

/-- One shift of `crc8_autosar`, of the script. -/
def hostCrc8Bit (crc : ℕ) : ℕ :=
  if crc &&& 0x80 ≠ 0 then ((crc <<< 1) ^^^ 0x2F) &&& 0xFF else (crc <<< 1) &&& 0xFF

/-- `crc8_autosar` of the script. -/
def hostCrc8 (data : List UInt8) : ℕ :=
  data.foldl (fun crc b => hostCrc8Bit^[8] (crc ^^^ b.toNat)) 0xFF ^^^ 0xFF

/-- One shift of `crc16_ccitt_false`, of the script. -/
def hostCrc16Bit (crc : ℕ) : ℕ :=
  if crc &&& 0x8000 ≠ 0 then ((crc <<< 1) ^^^ 0x1021) &&& 0xFFFF else (crc <<< 1) &&& 0xFFFF

/-- `crc16_ccitt_false` of the script. -/
def hostCrc16 (data : List UInt8) : ℕ :=
  data.foldl (fun crc b => hostCrc16Bit^[8] (crc ^^^ (b.toNat <<< 8))) 0xFFFF

/-! ### The file -/

/-- The exceptions of `PatternFile`, each with what its text tells. -/
inductive PatternFileError
  | badMagic (got : List UInt8)
  | version (got : UInt8)
  | headerCrc (got : UInt8) (computed : ℕ)
  | unsupportedGsVal (got : UInt8)
  | size (got expected : ℕ)
  | frameMagic (frame : ℕ) (got : List UInt8)
  | frameCrc (frame got expected : ℕ)
  /-- `IndexError`: the file ends in its header -/
  | indexError
  deriving DecidableEq

/-- `PatternFile`. -/
structure PatternFile where
  frameCount : ℕ
  rowCount : ℕ
  colCount : ℕ
  gsVal : UInt8
  blockByteCount : ℕ
  data : List UInt8
  deriving DecidableEq

namespace PatternFile

def numPanels (p : PatternFile) : ℕ := p.rowCount * p.colCount

/-- `_body_byte_count`. -/
def bodyByteCount (p : PatternFile) : ℕ :=
  patternFramePrefixByteCount + p.numPanels * p.blockByteCount

def frameByteCount (p : PatternFile) : ℕ := p.bodyByteCount + patternFrameCrcByteCount

def frameStart (p : PatternFile) (i : ℕ) : ℕ := patternHeaderByteCount + i * p.frameByteCount

/-- `frame_payload`. -/
def framePayload (p : PatternFile) (i : ℕ) : List UInt8 :=
  (p.data.drop (p.frameStart i)).take p.bodyByteCount

/-- `_validate_frame_crcs`, of one frame. -/
def checkFrame (p : PatternFile) (i : ℕ) : Except PatternFileError Unit :=
  let body := p.framePayload i
  let want := le16 p.data (p.frameStart i + p.bodyByteCount)
  if body.take 2 ≠ [0x46, 0x52] then .error (.frameMagic i (body.take 2))
  else if hostCrc16 body ≠ want then .error (.frameCrc i (hostCrc16 body) want)
  else .ok ()

/-- `_validate_frame_crcs`. -/
def validateFrameCrcs (p : PatternFile) : Except PatternFileError Unit :=
  (List.range p.frameCount).forM p.checkFrame

/-- The blocks of a `gs_val`. -/
def blockByteCountOf (gsVal : UInt8) : Option ℕ :=
  if gsVal = 1 then some 53 else if gsVal = 2 then some 203 else none

/-- The fields of the header. -/
def ofHeader (data : List UInt8) (blockByteCount : ℕ) : PatternFile where
  frameCount := le16 data 6
  rowCount := (data.getD 8 0).toNat
  colCount := (data.getD 9 0).toNat
  gsVal := data.getD 10 0
  blockByteCount := blockByteCount
  data := data

/-- `PatternFile.__init__`. -/
def parse (data : List UInt8) : Except PatternFileError PatternFile :=
  if data.take 4 ≠ [0x47, 0x36, 0x50, 0x54] then .error (.badMagic (data.take 4))
  else if data.length ≤ 4 then .error .indexError
  else if (data.getD 4 0 >>> 4) &&& 0x0F ≠ patternFormatVersion then
    .error (.version ((data.getD 4 0 >>> 4) &&& 0x0F))
  else if data.length < patternHeaderByteCount then .error .indexError
  else
    let headerCrc := data.getD (patternHeaderByteCount - 1) 0
    let computed := hostCrc8 (data.take (patternHeaderByteCount - 1))
    if computed ≠ headerCrc.toNat then .error (.headerCrc headerCrc computed)
    else
      match blockByteCountOf (data.getD 10 0) with
      | none => .error (.unsupportedGsVal (data.getD 10 0))
      | some blockByteCount =>
        let p := ofHeader data blockByteCount
        let expected := patternHeaderByteCount + p.frameCount * p.frameByteCount
        if data.length ≠ expected then .error (.size data.length expected)
        else p.validateFrameCrcs.map fun _ => p

end PatternFile

/-! ### The checksums agree -/

/-- A shift of a register, on integers. -/
theorem crcBit_toNat {w : ℕ} (poly crc : BitVec (w + 1)) :
    (if crc.msb then (crc <<< 1) ^^^ poly else crc <<< 1).toNat
      = if crc.toNat &&& 2 ^ w ≠ 0 then ((crc.toNat <<< 1) ^^^ poly.toNat) &&& (2 ^ (w + 1) - 1)
        else (crc.toNat <<< 1) &&& (2 ^ (w + 1) - 1) := by
  have hmsb : crc.msb = true ↔ crc.toNat &&& 2 ^ w ≠ 0 := by
    rw [BitVec.msb_eq_getLsbD_last, BitVec.getLsbD, Nat.add_sub_cancel, Nat.and_two_pow]
    cases crc.toNat.testBit w <;> simp
  simp only [Nat.and_two_pow_sub_one_eq_mod]
  by_cases h : crc.msb = true
  · rw [if_pos h, if_pos (hmsb.1 h), BitVec.toNat_xor, BitVec.toNat_shiftLeft, Nat.xor_mod_two_pow,
      Nat.mod_eq_of_lt poly.isLt]
  · rw [if_neg h, if_neg fun hne => h (hmsb.2 hne), BitVec.toNat_shiftLeft]

theorem crcBits_toNat {w : ℕ} {poly : BitVec (w + 1)} {bit : ℕ → ℕ}
    (hbit : ∀ crc : BitVec (w + 1),
      (if crc.msb then (crc <<< 1) ^^^ poly else crc <<< 1).toNat = bit crc.toNat)
    (n : ℕ) (crc : BitVec (w + 1)) : (crcBits poly n crc).toNat = bit^[n] crc.toNat := by
  induction n generalizing crc with
  | zero => rfl
  | succ n ih => rw [crcBits, ih, hbit, Function.iterate_succ_apply]

/-- **The CRC-8 of the host is the controller's.** -/
theorem hostCrc8_eq (data : List UInt8) : hostCrc8 data = (crc8Autosar data).toNat := by
  unfold hostCrc8 crc8Autosar
  change _ = (data.foldl _ 0xFF#8 ^^^ 0xFF#8).toNat
  rw [BitVec.toNat_xor]
  congr 1
  change data.foldl _ (0xFF#8).toNat = _
  generalize 0xFF#8 = crc
  induction data generalizing crc with
  | nil => rfl
  | cons b data ih =>
    rw [List.foldl_cons, List.foldl_cons, ← ih, @crcBits_toNat 7 0x2F#8 hostCrc8Bit (crcBit_toNat _),
      BitVec.toNat_xor]
    rfl

namespace PatternFile

theorem blockByteCountOf_eq {gsVal : UInt8} {n : ℕ} (h : blockByteCountOf gsVal = some n) :
    n = blockSizeOf gsVal := by
  unfold blockByteCountOf at h
  unfold blockSizeOf
  split_ifs at h ⊢ with h1 h2
  · exact (Option.some.inj h).symm
  · exact (Option.some.inj h).symm

end PatternFile

/-! ### The controller's reader -/

theorem le16_take {l : List UInt8} {n off : ℕ} (h : off + 1 < n) : le16 (l.take n) off = le16 l off := by
  unfold le16
  rw [List.getD_eq_getElem?_getD, List.getD_eq_getElem?_getD, List.getD_eq_getElem?_getD,
    List.getD_eq_getElem?_getD, List.getElem?_take_of_lt (by omega), List.getElem?_take_of_lt h]

namespace Store

variable [Board]

/-- The open pattern is what the header of its file says. -/
def Described (s : Store) : Prop :=
  s.sd.fileOpen = true → s.sd.mounted = true ∧ ∃ f, s.sd.file = some f ∧
    patternHeaderByteCount ≤ (s.card.content f).length ∧
    validateHeader ((s.card.content f).take patternHeaderByteCount) = .ok s.sd.info

end Store
/-! ### The verdicts on a header -/

/-- Is the fault in the header? -/
def PatternFileError.inHeader : PatternFileError → Bool
  | badMagic _ | version _ | headerCrc _ _ | unsupportedGsVal _ | indexError => true
  | size _ _ | frameMagic _ _ | frameCrc _ _ _ => false

namespace PatternFile

section

variable [Board]

/-- The panels of a file are the arena's. -/
def FitsArena (p : PatternFile) : Prop :=
  p.rowCount = panelCountPerFrameRow ∧ p.colCount = panelCountPerFrameCol ∧
    ((p.data.drop 11).take 6 |>.map popcount).sum ≤ p.numPanels

instance (p : PatternFile) : Decidable p.FitsArena := inferInstanceAs (Decidable (_ ∧ _ ∧ _))

/-- What a header without a fault is to the controller. -/
def headerVerdict (p : PatternFile) : Except ControllerError PatternInfo :=
  if p.frameCount = 0 then .error .ceHeaderCrc
  else if p.FitsArena then
    .ok ⟨p.frameCount, p.rowCount, p.colCount, p.gsVal, p.blockByteCount, p.numPanels, p.frameByteCount⟩
  else .error .ceArenaMismatch

end

theorem host_version (b : UInt8) : (b >>> 4) &&& (0x0F : UInt8) = b >>> 4 := by
  refine forall_byte (P := fun b : UInt8 => (b >>> 4) &&& (0x0F : UInt8) = b >>> 4) ?_ b
  decide +kernel

theorem blockByteCountOf_none {gsVal : UInt8} :
    blockByteCountOf gsVal = none ↔ gsVal ≠ 1 ∧ gsVal ≠ 2 := by
  unfold blockByteCountOf
  split_ifs with h1 h2
  · simp [h1]
  · simp [h2]
  · simp [h1, h2]

/-- What both readers take for a fault of the header. -/
def HeaderFault (data : List UInt8) : Prop :=
  data.take 4 ≠ [0x47, 0x36, 0x50, 0x54] ∨ data.getD 4 0 >>> 4 ≠ patternFormatVersion ∨
    crc8Autosar (data.take (patternHeaderByteCount - 1)) ≠ data.getD (patternHeaderByteCount - 1) 0 ∨
    (data.getD 10 0 ≠ 1 ∧ data.getD 10 0 ≠ 2)

instance (data : List UInt8) : Decidable (HeaderFault data) :=
  inferInstanceAs (Decidable (_ ∨ _ ∨ _ ∨ (_ ∧ _)))

theorem validateFrameCrcs_inHeader {p : PatternFile} {e : PatternFileError}
    (h : p.validateFrameCrcs = .error e) : e.inHeader = false := by
  unfold validateFrameCrcs at h
  generalize List.range p.frameCount = l at h
  induction l with
  | nil => cases h
  | cons i l ih =>
    change (p.checkFrame i >>= fun _ => l.forM p.checkFrame) = .error e at h
    cases hi : p.checkFrame i with
    | ok u =>
      rw [hi] at h
      exact ih h
    | error e' =>
      rw [hi] at h
      obtain rfl : e' = e := Except.error.inj h
      unfold checkFrame at hi
      dsimp only at hi
      split_ifs at hi <;> cases hi <;> rfl

/-- The host on a file that has a header. -/
theorem parse_cases {data : List UInt8} (hlen : patternHeaderByteCount ≤ data.length) :
    (HeaderFault data ∧ ∃ e, parse data = .error e ∧ e.inHeader = true) ∨
    (¬HeaderFault data ∧ (parse data = .ok (ofHeader data (blockSizeOf (data.getD 10 0))) ∨
      ∃ e, parse data = .error e ∧ e.inHeader = false)) := by
  have hlong : patternHeaderByteCount = 18 := rfl
  have hcrc : hostCrc8 (data.take (patternHeaderByteCount - 1))
        ≠ (data.getD (patternHeaderByteCount - 1) 0).toNat ↔
      crc8Autosar (data.take (patternHeaderByteCount - 1)) ≠ data.getD (patternHeaderByteCount - 1) 0 := by
    rw [hostCrc8_eq, ne_eq, ne_eq, UInt8.toNat_inj]
  unfold HeaderFault parse
  dsimp only
  rw [host_version, if_neg (show ¬data.length ≤ 4 by omega),
    if_neg (show ¬data.length < patternHeaderByteCount by omega)]
  by_cases hmagic : data.take 4 ≠ [0x47, 0x36, 0x50, 0x54]
  · rw [if_pos hmagic]
    exact .inl ⟨.inl hmagic, _, rfl, rfl⟩
  rw [if_neg hmagic]
  by_cases hversion : data.getD 4 0 >>> 4 ≠ patternFormatVersion
  · rw [if_pos hversion]
    exact .inl ⟨.inr (.inl hversion), _, rfl, rfl⟩
  rw [if_neg hversion]
  by_cases hsum : hostCrc8 (data.take (patternHeaderByteCount - 1))
      ≠ (data.getD (patternHeaderByteCount - 1) 0).toNat
  · rw [if_pos hsum]
    exact .inl ⟨.inr (.inr (.inl (hcrc.1 hsum))), _, rfl, rfl⟩
  rw [if_neg hsum]
  rw [hcrc] at hsum
  cases hgs : blockByteCountOf (data.getD 10 0) with
  | none => exact .inl ⟨.inr (.inr (.inr (blockByteCountOf_none.1 hgs))), _, rfl, rfl⟩
  | some n =>
    have hknown : ¬(data.getD 10 0 ≠ 1 ∧ data.getD 10 0 ≠ 2) := by
      rw [← blockByteCountOf_none, hgs]
      exact nofun
    refine .inr ⟨by simp only [hmagic, hversion, hsum, hknown, or_self, not_false_eq_true], ?_⟩
    obtain rfl := blockByteCountOf_eq hgs
    dsimp only
    split_ifs
    · exact .inr ⟨_, rfl, rfl⟩
    · cases hframes : (ofHeader data (blockSizeOf (data.getD 10 0))).validateFrameCrcs with
      | ok u => exact .inl rfl
      | error e => exact .inr ⟨e, rfl, validateFrameCrcs_inHeader hframes⟩

/-- The header cut out of its file. -/
theorem getD_header {data : List UInt8} {k : ℕ} (hk : k < patternHeaderByteCount) :
    (data.take patternHeaderByteCount).getD k 0 = data.getD k 0 := by
  rw [List.getD_eq_getElem?_getD, List.getD_eq_getElem?_getD, List.getElem?_take_of_lt hk]

/-- The controller on the same header. -/
theorem validateHeaderBytes_eq (data : List UInt8) :
    validateHeaderBytes (data.take patternHeaderByteCount)
      = if HeaderFault data ∨ le16 data 6 = 0 then .ceHeaderCrc else .ceNone := by
  unfold validateHeaderBytes
  rw [List.take_take, List.take_take, getD_header (by decide), getD_header (by decide),
    getD_header (by decide), le16_take (by decide), Nat.min_eq_left (by decide),
    Nat.min_eq_left (by decide)]
  unfold HeaderFault
  split_ifs <;> first | rfl | (exfalso; tauto)

section

variable [Board]

/-- A header without a fault, to the controller. -/
theorem validateHeader_eq {data : List UInt8} (hfault : ¬HeaderFault data) :
    validateHeader (data.take patternHeaderByteCount)
      = (ofHeader data (blockSizeOf (data.getD 10 0))).headerVerdict := by
  have hmask : ((data.take patternHeaderByteCount).drop 11).take 6 = (data.drop 11).take 6 := by
    rw [List.drop_take, List.take_take]
    rfl
  unfold validateHeader headerVerdict
  dsimp only
  rw [validateHeaderBytes_eq, getD_header (by decide), getD_header (by decide),
    getD_header (by decide), le16_take (by decide), hmask]
  change _ = if le16 data 6 = 0 then _ else _
  by_cases hzero : le16 data 6 = 0
  · rw [if_pos hzero, if_pos (show HeaderFault data ∨ le16 data 6 = 0 from .inr hzero)]
    rfl
  rw [if_neg hzero, if_neg (not_or.2 ⟨hfault, hzero⟩), if_neg (not_not.2 rfl)]
  by_cases hfits : (ofHeader data (blockSizeOf (data.getD 10 0))).FitsArena
  · rw [if_pos hfits]
    obtain ⟨hrow, hcol, hsum⟩ := hfits
    change (data.getD 8 0).toNat = _ at hrow
    change (data.getD 9 0).toNat = _ at hcol
    change _ ≤ (data.getD 8 0).toNat * (data.getD 9 0).toNat at hsum
    change (((data.drop 11).take 6).map popcount).sum ≤ _ at hsum
    have hpanels : (data.getD 8 0).toNat * (data.getD 9 0).toNat = panelCountPerFrame :=
      congrArg₂ (· * ·) hrow hcol
    have hpos := panelCountPerFrame_pos
    have hle : panelCountPerFrame ≤ arenaPanelCountMax := panelCountPerFrame_le
    have hcount : ¬((data.getD 8 0).toNat * (data.getD 9 0).toNat = 0 ∨
        arenaPanelCountMax < (data.getD 8 0).toNat * (data.getD 9 0).toNat) := by
      rw [hpanels]
      omega
    rw [if_neg hcount, if_neg (Nat.not_lt.2 hsum), if_neg (not_or.2 ⟨not_not.2 hrow, not_not.2 hcol⟩)]
    rfl
  · rw [if_neg hfits]
    split_ifs with hcount hsum hgrid
    · rfl
    · rfl
    · rfl
    · rw [not_or, not_not, not_not] at hgrid
      exact absurd ⟨hgrid.1, hgrid.2, Nat.not_lt.1 hsum⟩ hfits

/-- **What the two readers say of a header.**  A file the host finds a fault in the header of is one
whose header the controller refuses; otherwise the controller refuses a file without frames and one
of another arena, and no other. -/
theorem patternFile_verdicts {data : List UInt8} (hlen : patternHeaderByteCount ≤ data.length) :
    let verdict := validateHeader (data.take patternHeaderByteCount)
    (∀ p, parse data = .ok p → verdict = p.headerVerdict) ∧
      ∀ e, parse data = .error e → verdict = if e.inHeader then .error .ceHeaderCrc
        else (ofHeader data (blockSizeOf (data.getD 10 0))).headerVerdict := by
  constructor
  · intro p hp
    rcases parse_cases hlen with ⟨-, e, he, -⟩ | ⟨hfault, hok | ⟨e, he, -⟩⟩
    · rw [hp] at he
      cases he
    · obtain rfl : p = _ := Except.ok.inj (hp.symm.trans hok)
      exact validateHeader_eq hfault
    · rw [hp] at he
      cases he
  · intro e he
    rcases parse_cases hlen with ⟨hfault, e', he', hin⟩ | ⟨hfault, hok | ⟨e', he', hin⟩⟩
    · obtain rfl : e = e' := Except.error.inj (he.symm.trans he')
      have hor : HeaderFault data ∨ le16 data 6 = 0 := .inl hfault
      unfold validateHeader
      dsimp only
      rw [if_pos hin, validateHeaderBytes_eq, if_pos hor, if_pos (by decide)]
    · rw [he] at hok
      cases hok
    · obtain rfl : e = e' := Except.error.inj (he.symm.trans he')
      rw [hin, if_neg Bool.false_ne_true]
      exact validateHeader_eq hfault

end

section

local instance verdictBoard : Board := ⟨.hw10_10⟩

/-- A header without its frame. -/
theorem patternFile_verdicts_cut :
    parse sampleHeader = .error (.size 18 2144) ∧
      validateHeader (sampleHeader.take patternHeaderByteCount)
        = (ofHeader sampleHeader (blockSizeOf (sampleHeader.getD 10 0))).headerVerdict := by
  have hcut : parse sampleHeader = .error (.size 18 2144) := by decide +kernel
  exact ⟨hcut, (patternFile_verdicts (by decide)).2 _ hcut⟩

end

end PatternFile
end Sd
end G6Arena
