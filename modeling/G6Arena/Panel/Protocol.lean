/-
# The panel protocol

`G6PanelProtocol.h`: a panel block is a header byte, an opcode and a payload, and the
top bit of the header makes the number of ones even.  The low two bits of every
display opcode are the panel display mode.

Blocks live in a frame buffer; the functions here write the block at an offset of it.
-/

import G6Arena.Board
import G6Arena.Lib.ByteMem

namespace G6Arena
namespace Panel

open ByteMem

/-! ### Opcodes -/

def headerVersionV1 : UInt8 := 0x01
def headerVersionV2 : UInt8 := 0x02

def cmdDisp2lvlOneshot : UInt8 := 0x10
def cmdDisp2lvlPersist : UInt8 := 0x11
def cmdDisp16lvlOneshot : UInt8 := 0x30
def cmdDispPsramOneshot : UInt8 := 0x50

def blockByteCountPsram : ℕ := 4
def blockByteCountPsramDuty : ℕ := 5

/-- `disp_opcode_with_mode`. -/
def dispOpcodeWithMode (base mode : UInt8) : UInt8 := base ||| (if mode < 4 then mode else 1)

/-! ### Parity -/

/-- `__builtin_popcount`. -/
def popcount (b : UInt8) : ℕ := ((List.range 8).map fun i => (b.toNat >>> i) % 2).sum

/-- `compute_parity_bit`. -/
def computeParityBit (version cmd : UInt8) (payload : List UInt8) : UInt8 :=
  UInt8.ofNat ((popcount (version &&& 0x7F) + popcount cmd + (payload.map popcount).sum) % 2)

/-- `stamp_header_parity` on the block of `len` bytes at `off`. -/
def stampHeaderParity (buf : Mem) (off len : ℕ) : Mem :=
  if len < 2 then buf
  else
    let version := buf off &&& 0x7F
    let p := computeParityBit version (buf (off + 1)) (bytesAt buf (off + 2) (len - 2))
    store buf off [version ||| (p <<< 7)]

/-! ### The blocks of a frame -/

/-- `n` blocks from panel `p` on, each changed by `change` at its offset and stamped. -/
def eachBlock (blockLen : ℕ) (change : ℕ → Mem → Mem) : ℕ → ℕ → Mem → Mem
  | _, 0, buf => buf
  | p, n + 1, buf =>
    let off := streamFramePrefixByteCount + p * blockLen
    eachBlock blockLen change (p + 1) n (stampHeaderParity (change off buf) off blockLen)

/-- The same block for each of `n` panels. -/
def fillBlocks (blockLen : ℕ) (block : List UInt8) (n : ℕ) (buf : Mem) : Mem :=
  eachBlock blockLen (fun off buf => store buf off block) 0 n buf

/-! ### PSRAM blocks -/

/-- `build_psram_index_block` at `off`: the buffer and the byte count of the block. -/
def buildPsramIndexBlock (buf : Mem) (off index : ℕ) (cmdId duty : UInt8) : Mem × ℕ :=
  let explicitDuty := cmdId &&& 0xF0 = 0x60
  let buf := store buf off [headerVersionV2, cmdId, UInt8.ofNat index, UInt8.ofNat (index / 256)]
  let buf := if explicitDuty then store buf (off + 4) [duty] else buf
  let len := if explicitDuty then blockByteCountPsramDuty else blockByteCountPsram
  (stampHeaderParity buf off len, len)

end Panel
end G6Arena
