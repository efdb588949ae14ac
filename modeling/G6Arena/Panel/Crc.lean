/-
# Checksums

`crc8Autosar` guards a pattern header and `crc16CcittFalse` each frame.  Both go bit by
bit over the register; `crcBits` is one byte's worth of shifts.  `crc32Update` goes nibble
by nibble through a table.
-/

import Mathlib.Data.Nat.Notation

namespace G6Arena
namespace Panel

/-- Eight shifts of a CRC register, dividing by `poly` where the top bit goes out. -/
def crcBits {w : ℕ} (poly : BitVec w) : ℕ → BitVec w → BitVec w
  | 0, crc => crc
  | n + 1, crc => crcBits poly n (if crc.msb then (crc <<< 1) ^^^ poly else crc <<< 1)

/-- `G6::crc8_autosar`. -/
def crc8Autosar (data : List UInt8) : UInt8 :=
  ⟨data.foldl (fun crc b => crcBits 0x2F#8 8 (crc ^^^ b.toBitVec)) 0xFF#8 ^^^ 0xFF#8⟩

/-- `G6::crc16_ccitt_false`. -/
def crc16CcittFalse (data : List UInt8) : ℕ :=
  (data.foldl (fun crc b => crcBits 0x1021#16 8 (crc ^^^ (b.toBitVec.setWidth 16).shiftLeft 8))
    0xFFFF#16).toNat

/-- The check values of the two CRCs, over `"123456789"`. -/
example : crc8Autosar [0x31, 0x32, 0x33, 0x34, 0x35, 0x36, 0x37, 0x38, 0x39] = 0xDF ∧
    crc16CcittFalse [0x31, 0x32, 0x33, 0x34, 0x35, 0x36, 0x37, 0x38, 0x39] = 0x29B1 := by
  decide +kernel

/-- The table of `crc32_update`. -/
def crc32Table : List UInt32 := [
  0x00000000, 0x1db71064, 0x3b6e20c8, 0x26d930ac,
  0x76dc4190, 0x6b6b51f4, 0x4db26158, 0x5005713c,
  0xedb88320, 0xf00f9344, 0xd6d6a3e8, 0xcb61b38c,
  0x9b64c2b0, 0x86d3d2d4, 0xa00ae278, 0xbdbdf21c]

/-- One byte of `crc32_update`, its low nibble first. -/
def crc32Byte (crc : UInt32) (b : UInt8) : UInt32 :=
  let crc := crc32Table.getD ((crc ^^^ b.toUInt32) &&& 0xF).toNat 0 ^^^ (crc >>> 4)
  crc32Table.getD ((crc ^^^ (b >>> 4).toUInt32) &&& 0xF).toNat 0 ^^^ (crc >>> 4)

/-- `G6::crc32_update`. -/
def crc32Update (crc : UInt32) (data : List UInt8) : UInt32 := data.foldl crc32Byte crc

/-- A CRC-32 as it is sent and stored. -/
def crc32 (data : List UInt8) : UInt32 := crc32Update 0xFFFFFFFF data ^^^ 0xFFFFFFFF

/-- The check value of the CRC-32. -/
example : crc32 [0x31, 0x32, 0x33, 0x34, 0x35, 0x36, 0x37, 0x38, 0x39] = 0xCBF43926 := by
  decide +kernel

end Panel
end G6Arena
