/-
# The error glyph

`ErrorGlyph.cpp`: the frame that shows "CE" over a two-digit code on every panel.  A
panel is 20 by 20 pixels, row 0 at the bottom, two pixels to a byte with the even one in
the high nibble.
-/

import G6Arena.Panel.Protocol

namespace G6Arena
namespace Panel

open ByteMem

def panelPixelCountPerRow : ℕ := 20

/-- `kFontDigits`: seven rows of five columns, bit 4 the leftmost. -/
def kFontDigits : List (List ℕ) := [
  [0x0E, 0x11, 0x13, 0x15, 0x19, 0x11, 0x0E],
  [0x04, 0x0C, 0x04, 0x04, 0x04, 0x04, 0x0E],
  [0x0E, 0x11, 0x01, 0x02, 0x04, 0x08, 0x1F],
  [0x1F, 0x02, 0x04, 0x02, 0x01, 0x11, 0x0E],
  [0x02, 0x06, 0x0A, 0x12, 0x1F, 0x02, 0x02],
  [0x1F, 0x10, 0x1E, 0x01, 0x01, 0x11, 0x0E],
  [0x06, 0x08, 0x10, 0x1E, 0x11, 0x11, 0x0E],
  [0x1F, 0x01, 0x02, 0x04, 0x08, 0x08, 0x08],
  [0x0E, 0x11, 0x11, 0x0E, 0x11, 0x11, 0x0E],
  [0x0E, 0x11, 0x11, 0x0F, 0x01, 0x02, 0x0C]]

def kFontC : List ℕ := [0x0E, 0x11, 0x10, 0x10, 0x10, 0x11, 0x0E]
def kFontE : List ℕ := [0x1F, 0x10, 0x10, 0x1E, 0x10, 0x10, 0x1F]

/-- Does a glyph at `(top, left)` light the pixel `(r, c)`? -/
def stampGlyph (glyph : List ℕ) (top left r c : ℕ) : Bool :=
  top ≤ r && r < top + 7 && left ≤ c && c < left + 5
    && (glyph.getD (r - top) 0).testBit (4 - (c - left))

/-- The image of the code, row 0 at the top. -/
def glyphPixel (code r c : ℕ) : ℕ :=
  let code := min code 99
  if stampGlyph kFontC 2 4 r c || stampGlyph kFontE 2 11 r c
      || stampGlyph (kFontDigits.getD (code / 10) []) 11 4 r c
      || stampGlyph (kFontDigits.getD (code % 10) []) 11 11 r c then 0x0F else 0

/-- The pixel with a number, counted from the bottom left. -/
def pixelAt (code pixelNum : ℕ) : ℕ :=
  glyphPixel code (panelPixelCountPerRow - 1 - pixelNum / panelPixelCountPerRow)
    (pixelNum % panelPixelCountPerRow)

/-- The 200 pixel bytes of the code. -/
def glyphPixels (code : ℕ) : List UInt8 :=
  (List.range 200).map fun i =>
    UInt8.ofNat (pixelAt code (2 * i) * 16 + pixelAt code (2 * i + 1))

/-- A panel block of the code, its parity not yet stamped. -/
def glyphBlock (code : ℕ) : List UInt8 :=
  [headerVersionV1, cmdDisp16lvlOneshot] ++ glyphPixels code ++ [0x80]

/-- `buildErrorFrame`: the buffer and the byte count of the frame. -/
def buildErrorFrame (buf : Mem) (code : UInt8) (panelCount : ℕ) : Mem × ℕ :=
  let buf := store buf 0 [0x46, 0x52, 0, 0]
  (fillBlocks panelBlockByteCountGs16 (glyphBlock code.toNat) panelCount buf,
    streamFramePrefixByteCount + panelCount * panelBlockByteCountGs16)

end Panel
end G6Arena
