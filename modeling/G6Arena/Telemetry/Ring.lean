/-
# The telemetry byte ring

`src/Telemetry.h` and the anonymous namespace of `src/Telemetry.cpp`: a 32-byte
header and a record area of `kDataSize` bytes at a fixed OCRAM address.

A `Ring` is the header and the record area as the module reads and writes them.
Offsets and counters are natural numbers, reduced modulo `2 ^ 32` where the C++
`uint32_t` can wrap; offsets stay below `kDataSize`.

| record | bytes | layout |
| --- | ---: | --- |
| `PAD` | 1 … | `len`, type `0` (a one-byte `PAD` has no type byte) |
| `CMD` | 13 … 21 | `len`, type, seq, t_us, cmd, status, plen, payload |
| `FRAME` | 26 | `len`, type, seq, t_us, 16 bytes |
| `STATE` | 14 | `len`, type, seq, t_us, kind, code, arg |
-/

import G6Arena.Lib.BoundedLoop
import G6Arena.Lib.ByteRing

namespace G6Arena
namespace Telemetry

open ByteMem BoundedLoop

/-! ### Constants of `Telemetry.h` -/

def kRingBase : ℕ := 0x2026F000
def kRingSize : ℕ := 0x10000
def kHeaderSize : ℕ := 32
def kDataSize : ℕ := kRingSize - kHeaderSize
def kMagic : ℕ := 0x47365452
def kVersion : ℕ := 2
def kHeapGuardBytes : ℕ := 4096

def kFlagEventsEnabled : ℕ := 0x01
def kFlagSynthetic : ℕ := 0x80

def recPad : UInt8 := 0
def recCmd : UInt8 := 1
def recFrame : UInt8 := 2
def recState : UInt8 := 3

def kRecordHeaderLen : ℕ := 10
def kCmdPayloadMax : ℕ := 8
def kCmdRecordLenMax : ℕ := kRecordHeaderLen + 3 + kCmdPayloadMax
def kFrameRecordLen : ℕ := kRecordHeaderLen + 16
def kStateRecordLen : ℕ := kRecordHeaderLen + 4
def kRecordLenMax : ℕ := max kFrameRecordLen kCmdRecordLenMax

theorem kDataSize_eq : kDataSize = 65504 := rfl

/-- `uint32_t` subtraction. -/
def sub32 (a b : ℕ) : ℕ := (a + 2 ^ 32 - b) % 2 ^ 32

/-! ### Header and record area -/

/-- `struct RingHeader`. -/
structure RingHeader where
  magic : ℕ
  ver : ℕ
  flags : ℕ
  reserved : ℕ
  writeOff : ℕ
  readOff : ℕ
  nextSeq : ℕ
  dropped : ℕ
  bootCount : ℕ
  checksum : ℕ
  deriving DecidableEq

/-- The ring: `*hdr` and `data[0 .. kDataSize)`. -/
structure Ring where
  hdr : RingHeader
  data : Mem

/-- `hdr->read_off = off`. -/
def Ring.setReadOff (r : Ring) (off : ℕ) : Ring := { r with hdr := { r.hdr with readOff := off } }

@[simp] theorem Ring.setReadOff_data (r : Ring) (off : ℕ) : (r.setReadOff off).data = r.data := rfl

@[simp] theorem Ring.setReadOff_readOff (r : Ring) (off : ℕ) :
    (r.setReadOff off).hdr.readOff = off := rfl

@[simp] theorem Ring.setReadOff_writeOff (r : Ring) (off : ℕ) :
    (r.setReadOff off).hdr.writeOff = r.hdr.writeOff := rfl

@[simp] theorem Ring.setReadOff_nextSeq (r : Ring) (off : ℕ) :
    (r.setReadOff off).hdr.nextSeq = r.hdr.nextSeq := rfl

@[simp] theorem Ring.setReadOff_setReadOff (r : Ring) (off off' : ℕ) :
    (r.setReadOff off).setReadOff off' = r.setReadOff off' := rfl

@[simp] theorem Ring.setReadOff_self (r : Ring) : r.setReadOff r.hdr.readOff = r := rfl

/-- `computeCheck`: the sum of the seven header words above the checksum. -/
def computeCheck (h : RingHeader) : ℕ :=
  (h.magic + (h.ver ||| h.flags <<< 8 ||| h.reserved <<< 16) + h.writeOff + h.readOff
    + h.nextSeq + h.dropped + h.bootCount) % 2 ^ 32

/-- `sealHeader`, without its cache flush. -/
def sealHeader (h : RingHeader) : RingHeader := { h with checksum := computeCheck h }

/-- `hdr->flags = f; sealHeader();`. -/
def writeFlags (f : ℕ) (r : Ring) : Ring := { r with hdr := sealHeader { r.hdr with flags := f } }

def usedBytes (h : RingHeader) : ℕ :=
  if h.readOff ≤ h.writeOff then h.writeOff - h.readOff else kDataSize - h.readOff + h.writeOff

/-- One byte is kept free, so that a full ring differs from an empty one. -/
def freeBytes (h : RingHeader) : ℕ := kDataSize - 1 - usedBytes h

def isPadAt (data : Mem) (off : ℕ) : Bool :=
  (data off).toNat < kRecordHeaderLen || data (off + 1) = recPad

def seqAt (data : Mem) (off : ℕ) : ℕ := wordAt data (off + 2) 4

/-- The offset after an entry that ends at `e`: `(e == kDataSize) ? 0 : e`. -/
def nextOff (e : ℕ) : ℕ := if e = kDataSize then 0 else e

/-- The last part of `wellFormedAt`: the per-type record shape. -/
def shapeAt (data : Mem) (off : ℕ) : Bool :=
  let len := (data off).toNat
  if len < kRecordHeaderLen then len = 1 || data (off + 1) = recPad
  else if data (off + 1) = recPad then true
  else if data (off + 1) = recCmd then
    kRecordHeaderLen + 3 ≤ len && len ≤ kCmdRecordLenMax
      && data (off + 12) = UInt8.ofNat (len - (kRecordHeaderLen + 3))
  else if data (off + 1) = recFrame then len = kFrameRecordLen
  else if data (off + 1) = recState then len = kStateRecordLen
  else false

/-- `wellFormedAt`: an entry that straddles neither the end of the area nor the
write cursor `w`, of an exact shape. -/
def wellFormedAt (data : Mem) (off w : ℕ) : Bool :=
  let len := (data off).toNat
  if len = 0 then false
  else if kDataSize < off + len then false
  else if off < w ∧ w < off + len then false
  else shapeAt data off

/-! ### Eviction and append -/

/-- One pass of the `while` loop of `makeRoom`, on the ring and the number of
records evicted.  Discarding a corrupt chain leaves `read_off == write_off`, where
the next pass ends the loop, as the `break` does. -/
def makeRoomPass (need : ℕ) : Ring × ℕ → Option (Ring × ℕ) := fun (r, evicted) =>
  if need ≤ freeBytes r.hdr then none
  else if r.hdr.readOff = r.hdr.writeOff then none
  else
    let len := (r.data r.hdr.readOff).toNat
    if len = 0 ∨ kDataSize < r.hdr.readOff + len then
      some (r.setReadOff r.hdr.writeOff, evicted)
    else
      some (r.setReadOff (nextOff (r.hdr.readOff + len)),
        evicted + (!isPadAt r.data r.hdr.readOff).toNat)

/-- `makeRoom`: advance `read_off` past whole records until `need` bytes are free;
also the number of records evicted. -/
def makeRoom (need : ℕ) (r : Ring) : Ring × ℕ := loop (makeRoomPass need) kDataSize (r, 0)

/-- The bytes an append needs: the record, and the tail of the area when the
record does not fit in it. -/
def appendNeed (w len : ℕ) : ℕ :=
  if kDataSize - w < len then kDataSize - w + len else len

/-- Publish an eviction: `if (evicted) { hdr->dropped += evicted; sealHeader(); }`. -/
def publishEviction (evicted : ℕ) (r : Ring) : Ring :=
  if evicted ≠ 0 then
    { r with hdr := sealHeader { r.hdr with dropped := (r.hdr.dropped + evicted) % 2 ^ 32 } }
  else r

/-- `appendRaw`, first step: make room and publish the eviction. -/
def appendEvict (len : ℕ) (r : Ring) : Ring × ℕ :=
  let m := makeRoom (appendNeed r.hdr.writeOff len) r
  (publishEviction m.2 m.1, m.2)

/-- The bytes a `PAD` of `tail` bytes writes: `len` and, when there is room, the type. -/
def padBytes (tail : ℕ) : List UInt8 :=
  if 2 ≤ tail then [UInt8.ofNat tail, recPad] else [UInt8.ofNat tail]

/-- `appendRaw`, second step: when the tail cannot hold the record, a `PAD` fills it. -/
def appendPad (len : ℕ) (r : Ring) : Ring :=
  if kDataSize - r.hdr.writeOff < len then
    { r with data := store r.data r.hdr.writeOff (padBytes (kDataSize - r.hdr.writeOff)) }
  else r

/-- Where `appendRaw` writes a record of `len` bytes. -/
def appendAt (w len : ℕ) : ℕ := if kDataSize - w < len then 0 else w

/-- The sequence number `appendRaw` stamps: `0` means "none" in block headers and
`0xFFFFFFFF` means "no ack", so both are skipped. -/
def stampOf (nextSeq : ℕ) : ℕ := if nextSeq = 0 ∨ nextSeq = 0xFFFFFFFF then 1 else nextSeq

/-- `put32(rec + 2, seq)`. -/
def stampSeq (rec : List UInt8) (seq : ℕ) : List UInt8 := rec.take 2 ++ toLe 4 seq ++ rec.drop 6

/-- `appendRaw`, third step: the record bytes. -/
def appendRecord (rec : List UInt8) (r : Ring) : Ring :=
  let w := appendAt r.hdr.writeOff rec.length
  { r with data := store r.data w (stampSeq rec (stampOf r.hdr.nextSeq)) }

/-- `appendRaw`, last step: publish the record through the header. -/
def appendPublish (len : ℕ) (r : Ring) : Ring :=
  { r with hdr := sealHeader { r.hdr with
      writeOff := nextOff (appendAt r.hdr.writeOff len + len)
      nextSeq := (stampOf r.hdr.nextSeq + 1) % 2 ^ 32 } }

/-- `appendRaw`: the ring after the append and the number of records evicted. -/
def appendRaw (rec : List UInt8) (r : Ring) : Ring × ℕ :=
  let e := appendEvict rec.length r
  (appendPublish rec.length (appendRecord rec (appendPad rec.length e.1)), e.2)

/-! ### Boot -/

def validHeader (h : RingHeader) : Bool :=
  if h.magic ≠ kMagic ∨ h.ver ≠ kVersion then false
  else if h.checksum ≠ computeCheck h then false
  else if kDataSize ≤ h.writeOff ∨ kDataSize ≤ h.readOff then false
  else if h.nextSeq = 0 then false
  else true

/-- `repairChain`, from offset `off` with `steps` passes left: where the walk ends. -/
def repairWalk (data : Mem) (w : ℕ) : ℕ → ℕ → ℕ
  | 0, off => off
  | steps + 1, off =>
    if off = w then w
    else if !wellFormedAt data off w then off
    else repairWalk data w steps (nextOff (off + (data off).toNat))

/-- `repairChain`: truncate the kept chain at its first inconsistent record. -/
def repairChain (r : Ring) : Ring :=
  { r with hdr := { r.hdr with
      writeOff := repairWalk r.data r.hdr.writeOff kDataSize r.hdr.readOff } }

/-- `initRing`, over the bytes already in the record area. -/
def initRing (data : Mem) : Ring where
  hdr := sealHeader
    { magic := kMagic, ver := kVersion, flags := kFlagEventsEnabled, reserved := 0
      writeOff := 0, readOff := 0, nextSeq := 1, dropped := 0, bootCount := 0, checksum := 0 }
  data := data

/-- The ring part of `begin()`: keep a valid ring or initialise it, before the boot
records are appended.  Also whether the ring was kept. -/
def beginRing (r : Ring) : Ring × Bool :=
  if validHeader r.hdr then
    let r := repairChain r
    ({ r with hdr := sealHeader { r.hdr with
        bootCount := (r.hdr.bootCount + 1) % 2 ^ 32
        flags := r.hdr.flags ||| kFlagEventsEnabled } }, true)
  else (initRing r.data, false)

/-! ### Ack and peek -/

/-- One pass of the loop of `ack`, on the walk offset and the flag `moved`. -/
def ackPass (data : Mem) (w ackSeq : ℕ) : ℕ × Bool → Option (ℕ × Bool) := fun (off, _) =>
  if off = w then none
  else if !wellFormedAt data off w then none
  else if !isPadAt data off && ackSeq < seqAt data off then none
  else some (nextOff (off + (data off).toNat), true)

/-- `ack` on a usable ring: free every record with `seq <= ackSeq`. -/
def ackRing (ackSeq : ℕ) (r : Ring) : Ring :=
  if r.hdr.nextSeq ≤ ackSeq then r
  else
    let (off, moved) :=
      loop (ackPass r.data r.hdr.writeOff ackSeq) kDataSize (r.hdr.readOff, false)
    if moved then { r with hdr := sealHeader { r.hdr with readOff := off } } else r

/-- `struct BlockInfo`. -/
structure BlockInfo where
  firstSeq : ℕ
  nRecords : ℕ
  more : Bool
  deriving DecidableEq

/-- The walk state of `peek`: offset, bytes copied, first sequence number, count. -/
structure PeekState where
  off : ℕ
  out : List UInt8
  firstSeq : ℕ
  nRecords : ℕ

/-- One pass of the loop of `peek`. -/
def peekPass (data : Mem) (w maxBytes : ℕ) (s : PeekState) : Option PeekState :=
  if s.off = w then none
  else if !wellFormedAt data s.off w then none
  else
    let len := (data s.off).toNat
    let next := nextOff (s.off + len)
    if isPadAt data s.off then some { s with off := next }
    else if maxBytes < s.out.length + len then none
    else some
      { off := next
        out := s.out ++ bytesAt data s.off len
        firstSeq := if s.nRecords = 0 then seqAt data s.off else s.firstSeq
        nRecords := s.nRecords + 1 }

/-- `peek` on a usable ring: the bytes copied and the block info. -/
def peekRing (maxBytes : ℕ) (r : Ring) : List UInt8 × BlockInfo :=
  let s := loop (peekPass r.data r.hdr.writeOff maxBytes) kDataSize ⟨r.hdr.readOff, [], 0, 0⟩
  (s.out, { firstSeq := s.firstSeq, nRecords := s.nRecords, more := s.off ≠ r.hdr.writeOff })

end Telemetry
end G6Arena
