/-
# A damaged frame is not shown

`readFrame` compares the CRC-16 of the body with the trailer.  A frame was stored with the
right trailer; the bytes that are read of it are others, by damage on the card or on the way.
If the damage stays within 16 consecutive bits of the body, or within the trailer,
`readFrame` answers `CE_FRAME_CRC` (`frame_burst`).
-/

import G6Arena.Panel.Checksums
import G6Arena.Sd.OpenPattern

namespace G6Arena
namespace Sd

open ControllerError
open Panel (BurstOf crc16CcittFalse crc16_burst)

namespace Store

variable {s : Store} {io : SdIo} {frameIndex destCap : ℕ} {body trailer : List UInt8}

/-- `readFrame` gets as far as the checks, on this body and this trailer. -/
structure ReadsFrame (io : SdIo) (frameIndex destCap : ℕ) (s : Store) (body trailer : List UInt8) :
    Prop where
  mounted : s.sd.mounted = true
  index : frameIndex < s.sd.info.frameCount
  room : bodyLen s.sd.info ≤ destCap
  seek : io.ok .seek = true
  read : ∃ id, s.sd.openFile = some id ∧
    s.card.read (io.cap (.read 1)) id (patternHeaderByteCount + frameIndex * s.sd.info.frameSize)
      (bodyLen s.sd.info) = body ∧
    s.card.read (io.cap (.read 2)) id (patternHeaderByteCount + frameIndex * s.sd.info.frameSize
      + bodyLen s.sd.info) patternFrameCrcByteCount = trailer
  bodyWhole : body.length = bodyLen s.sd.info
  trailerWhole : trailer.length = patternFrameCrcByteCount

/-- The checks of `readFrame`. -/
theorem readFrame_of_reads (h : ReadsFrame io frameIndex destCap s body trailer) :
    s.readFrame io frameIndex destCap = (body,
      if body.take 2 ≠ [0x46, 0x52] then ceFrameCrc
      else if crc16CcittFalse body ≠ le16 trailer 0 then ceFrameCrc
      else ceNone) := by
  obtain ⟨id, hopen, hbody, htrailer⟩ := h.read
  unfold readFrame
  rw [h.mounted, hopen]
  dsimp only
  rw [hbody, htrailer, if_neg (by decide), if_neg (Nat.not_le.2 h.index), if_neg (Nat.not_lt.2 h.room),
    h.seek, if_neg (by decide), if_neg (not_not.2 h.bodyWhole), if_neg (not_not.2 h.trailerWhole)]
  split_ifs <;> rfl

/-- A frame whose checksum is not its trailer's is refused. -/
theorem readFrame_of_ne (h : ReadsFrame io frameIndex destCap s body trailer)
    (hne : crc16CcittFalse body ≠ le16 trailer 0) :
    s.readFrame io frameIndex destCap = (body, ceFrameCrc) := by
  rw [readFrame_of_reads h, if_pos hne, ite_self]

end Store

/-- Trailers are the two bytes of a number, the low one first. -/
theorem le16_inj {xs ys : List UInt8} (hxs : xs.length = 2) (hys : ys.length = 2)
    (h : le16 xs 0 = le16 ys 0) : xs = ys := by
  obtain ⟨a, b, rfl⟩ := List.length_eq_two.1 hxs
  obtain ⟨c, d, rfl⟩ := List.length_eq_two.1 hys
  have hlow := a.toNat_lt
  have hlow' := c.toNat_lt
  change a.toNat + 256 * b.toNat = c.toNat + 256 * d.toNat at h
  rw [UInt8.toNat_inj.1 (show a.toNat = c.toNat by omega),
    UInt8.toNat_inj.1 (show b.toNat = d.toNat by omega)]

/-- **A short burst in the body, or any damage to the trailer, is caught.** -/
theorem frame_burst {s : Store} {io : SdIo} {frameIndex destCap : ℕ}
    {body trailer stored storedTrailer : List UInt8}
    (h : s.ReadsFrame io frameIndex destCap body trailer)
    (hstored : crc16CcittFalse stored = le16 storedTrailer 0)
    (htrailer : storedTrailer.length = patternFrameCrcByteCount)
    (hdamage : (BurstOf 16 stored body ∧ stored ≠ body ∧ trailer = storedTrailer) ∨
      (body = stored ∧ trailer ≠ storedTrailer)) :
    s.readFrame io frameIndex destCap = (body, ceFrameCrc) := by
  refine Store.readFrame_of_ne h ?_
  rcases hdamage with ⟨hburst, hne, rfl⟩ | ⟨rfl, hne⟩
  · rw [← hstored]
    exact (crc16_burst hburst hne).symm
  · rw [hstored]
    exact fun heq => hne (le16_inj htrailer h.trailerWhole heq).symm

section

local instance damagedBoard : Board := ⟨.hw2_10⟩

/-- The header of a pattern of one frame for a 2 × 10 arena. -/
def darkHeader : List UInt8 :=
  let hdr := [0x47, 0x36, 0x50, 0x54, 0x20, 0, 1, 0, 2, 10, 1, 0, 0, 0, 0, 0, 0]
  hdr ++ [Panel.crc8Autosar hdr]

/-- The body of a dark frame, and one with two bits of a block set. -/
def darkBody : List UInt8 := [0x46, 0x52, 0, 0] ++ ([0] ++ List.replicate 1059 0)
def damagedBody : List UInt8 := [0x46, 0x52, 0, 0] ++ ([0x18] ++ List.replicate 1059 0)

def darkTrailer : List UInt8 := ByteMem.toLe 2 64039

/-- A card with the damaged frame under the trailer of the dark one. -/
def damagedCard : Card where
  key := id
  dir p := if p = .pattern (samplePat 0x61) then some 0 else none
  content id := if id = 0 then darkHeader ++ damagedBody ++ darkTrailer else []
  fresh := 1

def damagedIo : SdIo where
  ok _ := true
  cap _ := 65536
  kept _ := true
  listing := [samplePat 0x61]

def damagedStore : Store := (((Store.powerOn damagedCard).begin_ damagedIo).openPattern damagedIo 1).1

set_option maxRecDepth 100000 in
theorem frame_burst_dark : damagedStore.readFrame damagedIo 0 4096 = (damagedBody, ceFrameCrc) := by
  have hreads : damagedStore.ReadsFrame damagedIo 0 4096 damagedBody darkTrailer :=
    ⟨by decide +kernel, by decide +kernel, by decide +kernel, rfl, ⟨0, by decide +kernel⟩, by decide +kernel, rfl⟩
  have hstored : crc16CcittFalse darkBody = le16 darkTrailer 0 := by decide +kernel
  exact frame_burst hreads hstored rfl
    (.inl ⟨Panel.burstOf_bytes _ _ rfl (by decide), by decide +kernel, rfl⟩)

end

end Sd
end G6Arena
