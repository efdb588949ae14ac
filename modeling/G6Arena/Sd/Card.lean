/-
# The SD card

The file system under the firmware, as far as the firmware relies on it.  A directory
maps paths to files; a file is named by an identity of its own, so that a handle keeps
reading the file it was opened on when the file is removed and another is made under
its name.

The card decides which names are the same (FAT compares without case and drops trailing
dots): `key` is what it compares, and nothing here assumes more of it.  An operation
takes the outcome the hardware gives it, and one that fails changes nothing, but for
a format, which can lose any file.
-/

import Mathlib.Data.Nat.Notation
import Mathlib.Logic.Function.Basic
import Mathlib.Tactic.SplitIfs

namespace G6Arena
namespace Sd

/-- A file name, without its terminator. -/
abbrev Name : Type := List UInt8

abbrev FileId : Type := ℕ

/-- The paths the firmware uses. -/
inductive Path
  /-- a file in `/patterns` -/
  | pattern (name : Name)
  | manifestBin
  | manifestTxt
  | firmware
  deriving DecidableEq

/-- The operations of one call whose outcome the hardware decides. -/
inductive SdOp
  | mount
  | exists (n : ℕ)
  | remove (p : Path)
  /-- the removal of a file whose writing failed -/
  | discard (p : Path)
  | rename
  | format
  | openRead
  | openWrite (p : Path)
  | write (p : Path) (n : ℕ)
  | seek
  | read (n : ℕ)
  | contiguous
  deriving DecidableEq

/-- What the hardware does during one call. -/
structure SdIo where
  ok : SdOp → Bool
  /-- how many bytes a read or a write moves at most -/
  cap : SdOp → ℕ
  /-- the files a failing format leaves -/
  kept : Path → Bool
  /-- the names `openNextFile` walks through -/
  listing : List Name

structure Card where
  key : Name → Name
  dir : Path → Option FileId
  content : FileId → List UInt8
  /-- no file has this identity or a larger one -/
  fresh : FileId

namespace Card

/-- The directory entry a path stands for. -/
def entry (c : Card) : Path → Path
  | .pattern name => .pattern (c.key name)
  | p => p

/-- The file under a path. -/
def file (c : Card) (p : Path) : Option FileId := c.dir (c.entry p)

/-- What the file under a path holds. -/
def contentOf (c : Card) (p : Path) : Option (List UInt8) := (c.file p).map c.content

/-- `SD.exists`. -/
def exists_ (c : Card) (ok : Bool) (p : Path) : Bool := ok && (c.file p).isSome

/-- `SD.remove`. -/
def remove (c : Card) (ok : Bool) (p : Path) : Card × Bool :=
  if ok && (c.file p).isSome then
    ({ c with dir := Function.update c.dir (c.entry p) none }, true)
  else (c, false)

/-- `SD.rename`, which does not replace a file. -/
def rename (c : Card) (ok : Bool) (p q : Path) : Card × Bool :=
  match c.file p, c.file q with
  | some id, none =>
    if ok then
      ({ c with dir := Function.update (Function.update c.dir (c.entry p) none) (c.entry q) (some id) },
        true)
    else (c, false)
  | _, _ => (c, false)

/-- `SD.open(path, FILE_READ)`. -/
def openRead (c : Card) (ok : Bool) (p : Path) : Option FileId := if ok then c.file p else none

/-- `SD.open(path, FILE_WRITE)`: an existing file is appended to. -/
def openWrite (c : Card) (ok : Bool) (p : Path) : Card × Option FileId :=
  if ok then
    match c.file p with
    | some id => (c, some id)
    | none =>
      ({ c with
          dir := Function.update c.dir (c.entry p) (some c.fresh)
          content := Function.update c.content c.fresh []
          fresh := c.fresh + 1 }, some c.fresh)
  else (c, none)

/-- `File::write` at the end of a file. -/
def append (c : Card) (id : FileId) (bytes : List UInt8) : Card :=
  { c with content := Function.update c.content id (c.content id ++ bytes) }

/-- `File::read` of `n` bytes from `off` on. -/
def read (c : Card) (cap : ℕ) (id : FileId) (off n : ℕ) : List UInt8 :=
  ((c.content id).drop off).take (min n cap)

/-- `SD.format`. -/
def format (c : Card) (io : SdIo) : Card × Bool :=
  if io.ok .format then ({ c with dir := fun _ => none }, true)
  else ({ c with dir := fun p => if io.kept p then c.dir p else none }, false)

/-! ### What an operation leaves -/

variable {c : Card} {p q : Path}

/-- A whole read gives what the file holds there. -/
theorem read_eq {cap off n : ℕ} {id : FileId} (h : (c.read cap id off n).length = n) :
    c.read cap id off n = ((c.content id).drop off).take n := by
  rw [read, List.length_take] at h
  rw [read]
  rcases Nat.le_total n cap with hle | hle
  · rw [Nat.min_eq_left hle]
  · rw [Nat.min_eq_right hle] at h ⊢
    have hcap : cap = n := by omega
    rw [hcap]

/-- A whole read from the start gives the start of the file. -/
theorem read_eq_take {cap n : ℕ} {id : FileId} (h : (c.read cap id 0 n).length = n) :
    c.read cap id 0 n = (c.content id).take n := by
  rw [read_eq h, List.drop_zero]

theorem file_congr (h : c.entry p = c.entry q) : c.file p = c.file q := congrArg c.dir h

@[simp] theorem remove_key (ok : Bool) : (c.remove ok p).1.key = c.key := by
  unfold remove
  split_ifs <;> rfl

@[simp] theorem remove_content (ok : Bool) : (c.remove ok p).1.content = c.content := by
  unfold remove
  split_ifs <;> rfl

@[simp] theorem remove_fresh (ok : Bool) : (c.remove ok p).1.fresh = c.fresh := by
  unfold remove
  split_ifs <;> rfl

theorem entry_eq_of_key {c' : Card} (h : c'.key = c.key) (p : Path) : c'.entry p = c.entry p := by
  cases p with
  | pattern name => rw [entry, entry, h]
  | manifestBin => rfl
  | manifestTxt => rfl
  | firmware => rfl

/-- A removal that fails changes nothing. -/
theorem remove_of_failed {ok : Bool} (h : (c.remove ok p).2 = false) : (c.remove ok p).1 = c := by
  unfold remove at h ⊢
  split_ifs at h ⊢
  rfl

/-- A removal that is made removes a file. -/
theorem remove_done {ok : Bool} (h : (c.remove ok p).2 = true) : (c.file p).isSome := by
  unfold remove at h
  split_ifs at h with hfile
  exact (Bool.and_eq_true_iff.1 hfile).2

/-- A removal leaves the other files. -/
theorem file_remove_of_ne (ok : Bool) (h : c.entry q ≠ c.entry p) :
    (c.remove ok p).1.file q = c.file q := by
  rw [file, entry_eq_of_key (remove_key ok)]
  unfold remove
  split_ifs
  · exact Function.update_of_ne h ..
  · rfl

/-- A removed file is gone. -/
theorem file_remove (h : (c.remove ok p).2 = true) : (c.remove ok p).1.file p = none := by
  rw [file, entry_eq_of_key (remove_key ok)]
  unfold remove at h ⊢
  split_ifs at h ⊢
  exact Function.update_self ..

@[simp] theorem rename_key (ok : Bool) : (c.rename ok p q).1.key = c.key := by
  unfold rename
  split
  · split_ifs <;> rfl
  · rfl

@[simp] theorem rename_content (ok : Bool) : (c.rename ok p q).1.content = c.content := by
  unfold rename
  split
  · split_ifs <;> rfl
  · rfl

@[simp] theorem rename_fresh (ok : Bool) : (c.rename ok p q).1.fresh = c.fresh := by
  unfold rename
  split
  · split_ifs <;> rfl
  · rfl

/-- A rename that fails changes nothing. -/
theorem rename_of_failed {ok : Bool} (h : (c.rename ok p q).2 = false) :
    (c.rename ok p q).1 = c := by
  unfold rename at h ⊢
  split at h
  · split_ifs at h ⊢
    rfl
  · rfl

/-- A rename leaves the files under other paths. -/
theorem file_rename_of_ne (ok : Bool) {r : Path} {id : FileId} (hr : c.file r = some id)
    (hp : c.entry r ≠ c.entry p) : (c.rename ok p q).1.file r = some id := by
  rw [file, entry_eq_of_key (rename_key ok)]
  unfold rename
  split
  · next hq =>
    split_ifs
    · have hne : c.entry r ≠ c.entry q := fun he => by
        rw [file_congr he, hq] at hr
        cases hr
      simp only [Function.update_of_ne hne, Function.update_of_ne hp]
      exact hr
    · exact hr
  · exact hr

/-- A rename that is made moves one file to a path that was free. -/
theorem rename_done {ok : Bool} (h : (c.rename ok p q).2 = true) : ∃ f, c.file p = some f ∧
    c.file q = none ∧ (c.rename ok p q).1.file q = some f ∧ ∀ r, c.entry r ≠ c.entry q →
      (c.rename ok p q).1.file r = if c.entry r = c.entry p then none else c.file r := by
  have hentry := entry_eq_of_key (rename_key (c := c) (p := p) (q := q) ok)
  unfold file at hentry ⊢
  simp only [hentry]
  unfold rename at h ⊢
  split at h
  · next f hp hq =>
    split_ifs at h ⊢
    refine ⟨f, hp, hq, Function.update_self .., fun r hr => (Function.update_of_ne hr ..).trans ?_⟩
    split_ifs with hrp
    · rw [hrp, Function.update_self]
    · exact Function.update_of_ne hrp ..
  · cases h

theorem rename_free {f : FileId} (hp : c.file p = some f) (hq : c.file q = none) :
    (c.rename true p q).2 = true := by
  unfold rename
  rw [hp, hq]
  rfl

@[simp] theorem openWrite_key (ok : Bool) : (c.openWrite ok p).1.key = c.key := by
  unfold openWrite
  split_ifs
  · split <;> rfl
  · rfl

/-- Opening to write leaves the files there are. -/
theorem file_openWrite (ok : Bool) {r : Path} {id : FileId} (hr : c.file r = some id) :
    (c.openWrite ok p).1.file r = some id := by
  rw [file, entry_eq_of_key (openWrite_key ok)]
  unfold openWrite
  split_ifs
  · split
    · exact hr
    · next hnone =>
      have hne : c.entry r ≠ c.entry p := fun he => by
        rw [file_congr he, hnone] at hr
        cases hr
      simp only [Function.update_of_ne hne]
      exact hr
  · exact hr

/-- What was opened to write is under its path. -/
theorem file_openWrite_self {ok : Bool} {id : FileId} (h : (c.openWrite ok p).2 = some id) :
    (c.openWrite ok p).1.file p = some id := by
  rw [file, entry_eq_of_key (openWrite_key ok)]
  unfold openWrite at h ⊢
  split_ifs at h ⊢
  split at h <;> obtain rfl := Option.some.inj h
  · next hsome => exact hsome
  · exact Function.update_self ..

@[simp] theorem append_key (id : FileId) (bytes : List UInt8) : (c.append id bytes).key = c.key := rfl

@[simp] theorem file_append (id : FileId) (bytes : List UInt8) (p : Path) :
    (c.append id bytes).file p = c.file p := by
  rw [file, entry_eq_of_key (append_key ..)]
  rfl

@[simp] theorem content_append (id : FileId) (bytes : List UInt8) :
    (c.append id bytes).content id = c.content id ++ bytes := Function.update_self ..

theorem append_nil (id : FileId) : c.append id [] = c := by
  rw [append, List.append_nil, Function.update_eq_self]

theorem append_append (id : FileId) (bytes bytes' : List UInt8) :
    (c.append id bytes).append id bytes' = c.append id (bytes ++ bytes') := by
  rw [append, content_append, append, append, Function.update_idem, List.append_assoc]

/-- A file opened to write holds what it held, and nothing if it is new. -/
theorem content_openWrite {ok : Bool} {id : FileId} (h : (c.openWrite ok p).2 = some id) :
    (c.openWrite ok p).1.content id = (c.contentOf p).getD [] := by
  rw [contentOf]
  unfold openWrite at h ⊢
  split_ifs at h ⊢
  split at h <;> obtain rfl := Option.some.inj h
  · next hsome =>
    rw [hsome]
    rfl
  · next hnone =>
    rw [hnone]
    exact Function.update_self ..

/-- A removal takes the file away if it can. -/
theorem file_remove_eq (ok : Bool) : (c.remove ok p).1.file p = if ok then none else c.file p := by
  rw [file, entry_eq_of_key (remove_key ok)]
  unfold remove
  cases ok with
  | true =>
    cases hfile : c.file p with
    | none => exact hfile
    | some id => exact Function.update_self ..
  | false => rfl

/-- A removal makes no file. -/
theorem file_remove_of_none (ok : Bool) (h : c.file q = none) : (c.remove ok p).1.file q = none := by
  by_cases hentry : c.entry q = c.entry p
  · have hcongr : (c.remove ok p).1.file q = (c.remove ok p).1.file p := by
      rw [file, file, entry_eq_of_key (remove_key ok), entry_eq_of_key (remove_key ok), hentry]
    rw [hcongr, file_remove_eq, ← file_congr hentry, h]
    split_ifs <;> rfl
  · rw [file_remove_of_ne ok hentry, h]

theorem contentOf_remove (ok : Bool) :
    (c.remove ok p).1.contentOf p = if ok then none else c.contentOf p := by
  rw [contentOf, file_remove_eq, remove_content]
  cases ok <;> rfl

/-- What is written behind an opening goes after what the file held. -/
theorem contentOf_append {ok : Bool} {id : FileId} (h : (c.openWrite ok p).2 = some id)
    (bytes : List UInt8) :
    ((c.openWrite ok p).1.append id bytes).contentOf p = some ((c.contentOf p).getD [] ++ bytes) := by
  rw [contentOf, file_append, file_openWrite_self h, Option.map_some, content_append,
    content_openWrite h]

theorem format_snd (io : SdIo) : (c.format io).2 = io.ok .format := by
  unfold format
  split_ifs with h
  · exact h.symm
  · exact (Bool.not_eq_true _ ▸ h : io.ok .format = false).symm

@[simp] theorem format_key (io : SdIo) : (c.format io).1.key = c.key := by
  unfold format
  split_ifs <;> rfl

end Card
end Sd
end G6Arena
