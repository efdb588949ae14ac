/-
# The interrupt record

`Health.cpp`: the record at `0x2027FEC0` that survives a reset and says which interrupt
handler was active, how many ran, and what the watchdog interrupted.  The hooks of the handlers
keep it under two checksums, the full ones by summing the record anew, the lite ones by deltas.

The record is three cache lines, and OCRAM is cached write-back: the hooks write the cached
copy, a reset loses it, and `begin` reads the copy in memory.

| line | words | contents |
| ---: | --- | --- |
| 0 | 0 … 7 | the context, and `check0` over words 0 … 6 |
| 1 | 8 … 15 | the entries of each id |
| 2 | 16 … 23 | all entries, reserved words, and `check_all` over words 0 … 6 and 8 … 22 |
-/

import G6Arena.Lib.DeltaSum
import Mathlib.Data.List.Basic

namespace G6Arena
namespace Health

/-! ### The record -/

/-- `ISR_ID_COUNT`. -/
def isrIdCount : ℕ := 8

def isrNone : UInt8 := 0
def isrWdog : UInt8 := 3

def kMagic : UInt32 := 0x48364C54
def kIsrMagic : UInt32 := 0x48364952

structure IsrRecord where
  magic : UInt32
  isrLast : UInt8
  wdogFired : UInt8
  wdogPrevIsr : UInt8
  pad : UInt8
  wdogPc : UInt32
  wdogLr : UInt32
  wdogXpsr : UInt32
  wdogExcret : UInt32
  wdogStampUs : UInt32
  check0 : UInt32
  cnt : Vector UInt32 isrIdCount
  isrCount : UInt32
  reserved : Vector UInt32 6
  checkAll : UInt32

namespace IsrRecord

/-- Word 1, of four fields of a byte. -/
def packed (isrLast wdogFired wdogPrevIsr pad : UInt8) : UInt32 :=
  isrLast.toUInt32 ||| wdogFired.toUInt32 <<< 8 ||| wdogPrevIsr.toUInt32 <<< 16
    ||| pad.toUInt32 <<< 24

/-- Words 0 … 6. -/
def context (r : IsrRecord) : List UInt32 :=
  [r.magic, packed r.isrLast r.wdogFired r.wdogPrevIsr r.pad, r.wdogPc, r.wdogLr, r.wdogXpsr,
    r.wdogExcret, r.wdogStampUs]

/-- Words 8 … 22. -/
def counts (r : IsrRecord) : List UInt32 := r.cnt.toList ++ r.isrCount :: r.reserved.toList

end IsrRecord

/-- The exclusive or of a list of words. -/
def xorSum (ws : List UInt32) : UInt32 := DeltaSum.sum (· ^^^ ·) 0 ws

theorem xorSum_append (ws vs : List UInt32) : xorSum (ws ++ vs) = xorSum ws ^^^ xorSum vs :=
  DeltaSum.sum_append ..

theorem xorSum_set {ws : List UInt32} {i : ℕ} (h : i < ws.length) (w : UInt32) :
    xorSum (ws.set i w) = xorSum ws ^^^ (ws[i] ^^^ w) :=
  DeltaSum.sum_set _ _ (fun _ => UInt32.xor_self) h w

def computeIsrCheck0 (r : IsrRecord) : UInt32 := ~~~ xorSum r.context
def computeIsrCheckAll (r : IsrRecord) : UInt32 := ~~~ xorSum (r.context ++ r.counts)

/-! ### The cache -/

/-- The record as the core sees it, and as it is in memory. -/
structure Ocram where
  cached : IsrRecord
  memory : IsrRecord

inductive Line
  | context
  | ids
  | total
  deriving DecidableEq

/-- A line of the cached copy written to memory. -/
def Ocram.writeBack (o : Ocram) : Line → Ocram
  | .context => { o with memory := { o.cached with
      cnt := o.memory.cnt
      isrCount := o.memory.isrCount
      reserved := o.memory.reserved
      checkAll := o.memory.checkAll } }
  | .ids => { o with memory := { o.memory with cnt := o.cached.cnt } }
  | .total => { o with memory := { o.memory with
      isrCount := o.cached.isrCount
      reserved := o.cached.reserved
      checkAll := o.cached.checkAll } }

/-- `arm_dcache_flush`, of some lines of the record. -/
def Ocram.flush (o : Ocram) (lines : List Line) : Ocram := lines.foldl Ocram.writeBack o

@[simp] theorem Ocram.writeBack_cached (o : Ocram) (line : Line) :
    (o.writeBack line).cached = o.cached := by
  cases line <;> rfl

@[simp] theorem Ocram.flush_cached (o : Ocram) (lines : List Line) :
    (o.flush lines).cached = o.cached := by
  induction lines generalizing o with
  | nil => rfl
  | cons line lines ih => exact (ih _).trans (writeBack_cached o line)

/-- `sealIsr`. -/
def sealIsr (o : Ocram) : Ocram :=
  let r := o.cached
  let r := { r with check0 := computeIsrCheck0 r }
  let r := { r with checkAll := computeIsrCheckAll r }
  Ocram.flush { o with cached := r } [.context, .ids, .total]

/-! ### The hooks -/

/-- The entry of an id in the counts. -/
def countEntry (id : UInt8) (r : IsrRecord) : IsrRecord :=
  if h : id.toNat < isrIdCount then { r with cnt := r.cnt.set id.toNat (r.cnt[id.toNat] + 1) } else r

/-- `isrEnter`: also the id it returns. -/
def isrEnter (id : UInt8) (o : Ocram) : Ocram × UInt8 :=
  let prev := o.cached.isrLast
  let r := { o.cached with isrLast := id, isrCount := o.cached.isrCount + 1 }
  (sealIsr { o with cached := countEntry id r }, prev)

/-- `isrExit`. -/
def isrExit (prev : UInt8) (o : Ocram) : Ocram :=
  sealIsr { o with cached := { o.cached with isrLast := prev } }

/-- The delta of word 1 when `isr_last` changes. -/
def lastDelta (r : IsrRecord) (isrLast : UInt8) : UInt32 :=
  IsrRecord.packed r.isrLast r.wdogFired r.wdogPrevIsr r.pad
    ^^^ IsrRecord.packed isrLast r.wdogFired r.wdogPrevIsr r.pad

/-- The delta of the counter of an id. -/
def countDelta (r : IsrRecord) (id : UInt8) : UInt32 :=
  if h : id.toNat < isrIdCount then r.cnt[id.toNat] ^^^ (r.cnt[id.toNat] + 1) else 0

/-- `isrEnterLite`: also the id it returns. -/
def isrEnterLite (id : UInt8) (o : Ocram) : Ocram × UInt8 :=
  let r := o.cached
  let d0 := lastDelta r id
  let dall := d0 ^^^ (r.isrCount ^^^ (r.isrCount + 1)) ^^^ countDelta r id
  let r' := countEntry id { r with isrLast := id, isrCount := r.isrCount + 1 }
  ({ o with cached := { r' with
      check0 := r'.check0 ^^^ d0
      checkAll := r'.checkAll ^^^ dall } }, r.isrLast)

/-- `isrExitLite`. -/
def isrExitLite (prev : UInt8) (o : Ocram) : Ocram :=
  let r := o.cached
  let d := lastDelta r prev
  { o with cached := { r with
    isrLast := prev
    check0 := r.check0 ^^^ d
    checkAll := r.checkAll ^^^ d } }

/-! ### Boot -/

/-- The breadcrumb of the main loop, at `0x2027FF40`. -/
structure Breadcrumb where
  magic : UInt32
  lastOp : UInt8
  opArg : UInt8
  slowOp : UInt8
  stampUs : UInt32
  slowUs : UInt32
  check : UInt32

/-- `computeCheck`. -/
def computeCheck (b : Breadcrumb) : UInt32 :=
  ~~~ (b.magic ^^^ (b.lastOp.toUInt32 ||| b.opArg.toUInt32 <<< 8 ||| b.slowOp.toUInt32 <<< 16)
    ^^^ b.stampUs ^^^ b.slowUs)

/-- What `begin` harvests of the boot before. -/
structure Stats where
  resetCause : UInt32
  prevValid : Bool
  prevLastOp : UInt8
  prevOpArg : UInt8
  prevSlowOp : UInt8
  prevStampUs : UInt32
  prevSlowUs : UInt32
  prevIsrValid : Bool
  prevIsrLast : UInt8
  prevIsrCount : UInt32
  prevIsrCnt : Vector UInt32 isrIdCount
  prevWdogFired : Bool
  prevWdogPc : UInt32
  prevWdogLr : UInt32
  prevWdogXpsr : UInt32
  prevWdogExcret : UInt32
  prevWdogPrevIsr : UInt8

/-- `Stats` of a boot that harvests nothing. -/
def Stats.fresh (resetCause : UInt32) : Stats where
  resetCause := resetCause
  prevValid := false
  prevLastOp := 0
  prevOpArg := 0
  prevSlowOp := 0
  prevStampUs := 0
  prevSlowUs := 0
  prevIsrValid := false
  prevIsrLast := 0
  prevIsrCount := 0
  prevIsrCnt := Vector.replicate isrIdCount 0
  prevWdogFired := false
  prevWdogPc := 0
  prevWdogLr := 0
  prevWdogXpsr := 0
  prevWdogExcret := 0
  prevWdogPrevIsr := 0

/-- The breadcrumb harvested. -/
def harvestCrumb (crumb : Breadcrumb) (s : Stats) : Stats :=
  if crumb.magic = kMagic ∧ crumb.check = computeCheck crumb then
    { s with
      prevValid := true
      prevLastOp := crumb.lastOp
      prevOpArg := crumb.opArg
      prevSlowOp := crumb.slowOp
      prevStampUs := crumb.stampUs
      prevSlowUs := crumb.slowUs }
  else s

/-- The interrupt record harvested: the context counts without the counts. -/
def harvestIsr (r : IsrRecord) (s : Stats) : Stats :=
  if r.magic = kIsrMagic ∧ r.check0 = computeIsrCheck0 r then
    let s := { s with
      prevIsrValid := true
      prevIsrLast := r.isrLast
      prevWdogFired := r.wdogFired ≠ 0
      prevWdogPc := r.wdogPc
      prevWdogLr := r.wdogLr
      prevWdogXpsr := r.wdogXpsr
      prevWdogExcret := r.wdogExcret
      prevWdogPrevIsr := r.wdogPrevIsr }
    if r.checkAll = computeIsrCheckAll r then
      { s with prevIsrCount := r.isrCount, prevIsrCnt := r.cnt }
    else s
  else s

/-- The records of a boot, not yet sealed. -/
def freshCrumb : Breadcrumb := ⟨kMagic, 0, 0, 0, 0, 0, 0⟩

def freshIsr (r : IsrRecord) : IsrRecord where
  magic := kIsrMagic
  isrLast := isrNone
  wdogFired := 0
  wdogPrevIsr := 0
  pad := 0
  wdogPc := 0
  wdogLr := 0
  wdogXpsr := 0
  wdogExcret := 0
  wdogStampUs := 0
  check0 := r.check0
  cnt := Vector.replicate isrIdCount 0
  isrCount := 0
  reserved := Vector.replicate 6 0
  checkAll := r.checkAll

/-- `begin`, on the two records in memory: what it harvests, and the records it leaves. -/
def begin_ (resetCause : UInt32) (crumb : Breadcrumb) (r : IsrRecord) : Stats × Breadcrumb × Ocram :=
  (harvestIsr r (harvestCrumb crumb (Stats.fresh resetCause)),
    { freshCrumb with check := computeCheck freshCrumb },
    sealIsr ⟨freshIsr r, r⟩)

end Health
end G6Arena
