/-
# The id of the open pattern

Ids are places in a sorted list, and every delete, rename and promotion moves the
entries behind it.  `openPattern` keeps the handle it has when it is asked for the id
that the handle was opened under, and neither `deletePattern` nor `renamePattern` moves
`open_id_` along.  So a handle stays with the listed file (`OpenListed`) exactly as long
as the calls in between leave its place and its file alone (`Keeps`), and a delete of
a lower id breaks it (`openPattern_other_file`).
-/

import G6Arena.Lib.Machine
import G6Arena.Sd.Calls

namespace G6Arena
namespace Sd

open Machine
open ControllerError

/-! ### The pattern calls -/

inductive Call
  | openPattern (patternId : ℕ)
  | renamePattern (patternId : ℕ) (newName : Name)
  | deletePattern (patternId : ℕ)
  | purgeMemory
  | setLegacySeek (on : Bool)

/-- A call and what the card does during it. -/
def callStep [Board] (s : Store) : Call × SdIo → Store
  | (.openPattern id, io) => (s.openPattern io id).1
  | (.renamePattern id newName, io) => (s.renamePattern io id newName).1
  | (.deletePattern id, io) => (s.deletePattern io id).1
  | (.purgeMemory, io) => (s.purgeMemory io).1
  | (.setLegacySeek on, _) => { s with sd := { s.sd with legacySeek := on } }

/-- The file a handle reads is the one listed under its id. -/
def ReadsListed (s : Store) (id : ℕ) : Prop :=
  ∃ entry f, s.sd.pattern? id = some entry ∧ s.sd.openFile = some f ∧
    s.card.file entry.path = some f

/-- **`open_id_` is the id of the open file.** -/
def OpenListed (s : Store) : Prop := s.sd.fileOpen = true → ReadsListed s s.sd.openId

/-- Two paths of one file. -/
def SameFile (c : Card) (e o : Entry) : Prop := c.entry e.path = c.entry o.path

/-- A delete of another pattern leaves the place and the file of the open one: it fails,
or its id is higher and its file another. -/
def KeepsDelete (s : Store) (io : SdIo) (id : ℕ) (e o : Entry) : Prop :=
  (s.card.remove (io.ok (.remove e.path)) e.path).2 = true →
    ¬ (1 ≤ id ∧ id < s.sd.openId) ∧ ¬ SameFile s.card e o

/-- A rename of another pattern leaves the place and the file of the open one: it fails,
or it takes an entry out before the open one exactly if it puts one in there, and its
file is another. -/
def KeepsRename (s : Store) (io : SdIo) (id : ℕ) (newName : Name) (e o : Entry) : Prop :=
  (s.card.rename (io.ok .rename) e.path (.pattern (candidateName io newName s.card))).2 = true →
    (1 ≤ id ∧ id < s.sd.openId ↔
      nameKey (candidateName io newName s.card) < o.key ∧
        (s.sd.removeAt id).patternCount < patternMaxCount) ∧
    ¬ SameFile s.card e o

/-- A call that leaves the open pattern alone, or is about it. -/
def Keeps (s : Store) (i : Call × SdIo) : Prop :=
  s.sd.fileOpen = true →
    match i with
    | (.deletePattern id, io) =>
      id ≠ s.sd.openId → ∀ e ∈ s.sd.target id, ∀ o ∈ s.sd.pattern? s.sd.openId,
        KeepsDelete s io id e o
    | (.renamePattern id newName, io) =>
      id ≠ s.sd.openId → ∀ e ∈ s.sd.target id, ∀ o ∈ s.sd.pattern? s.sd.openId,
        KeepsRename s io id newName e o
    | _ => True

instance (s : Store) (id : ℕ) : Decidable (ReadsListed s id) :=
  decidable_of_iff (∃ e ∈ s.sd.pattern? id, ∃ f ∈ s.sd.openFile, s.card.file e.path = some f)
    ⟨fun ⟨e, he, f, hf, h⟩ => ⟨e, f, he, hf, h⟩, fun ⟨e, f, he, hf, h⟩ => ⟨e, he, f, hf, h⟩⟩

instance (c : Card) (e o : Entry) : Decidable (SameFile c e o) :=
  inferInstanceAs (Decidable (_ = _))

instance (s : Store) (io : SdIo) (id : ℕ) (e o : Entry) : Decidable (KeepsDelete s io id e o) :=
  inferInstanceAs (Decidable (_ → _))

instance (s : Store) (io : SdIo) (id : ℕ) (newName : Name) (e o : Entry) :
    Decidable (KeepsRename s io id newName e o) :=
  inferInstanceAs (Decidable (_ → _))

instance (s : Store) : (i : Call × SdIo) → Decidable (Keeps s i)
  | (.openPattern _, _) => inferInstanceAs (Decidable (_ → True))
  | (.renamePattern id _, _) => inferInstanceAs (Decidable (_ → _ ≠ _ → ∀ e ∈ s.sd.target id, _))
  | (.deletePattern id, _) => inferInstanceAs (Decidable (_ → _ ≠ _ → ∀ e ∈ s.sd.target id, _))
  | (.purgeMemory, _) => inferInstanceAs (Decidable (_ → True))
  | (.setLegacySeek _, _) => inferInstanceAs (Decidable (_ → True))

/-! ### Places in the list -/

theorem pattern?_pos {sd : SdManager} {k : ℕ} {o : Entry} (h : sd.pattern? k = some o) :
    1 ≤ k ∧ sd.patterns[k - 1]? = some o := by
  unfold SdManager.pattern? at h
  split_ifs at h with hk
  exact ⟨by omega, h⟩

theorem pattern?_of_getElem? {sd : SdManager} {k : ℕ} {o : Entry}
    (h : sd.patterns[k]? = some o) : sd.pattern? (k + 1) = some o := by
  rw [SdManager.pattern?, if_neg (by omega), Nat.add_sub_cancel]
  exact h

/-- Taking out an entry moves the later ones down. -/
theorem removeAt_pattern? {sd : SdManager} {k id : ℕ} {o : Entry} (h : sd.pattern? k = some o)
    (hne : id ≠ k) :
    (sd.removeAt id).pattern? (if 1 ≤ id ∧ id < k then k - 1 else k) = some o := by
  obtain ⟨hk, ho⟩ := pattern?_pos h
  obtain ⟨k, rfl⟩ := Nat.exists_eq_add_of_le' hk
  rw [Nat.add_sub_cancel] at ho ⊢
  split_ifs with hlt
  · obtain ⟨k, rfl⟩ : ∃ j, k = j + 1 := ⟨k - 1, by omega⟩
    refine pattern?_of_getElem? ?_
    rw [SdManager.removeAt_patterns, if_neg (by omega), List.getElem?_eraseIdx,
      if_neg (by omega), ho]
  · refine pattern?_of_getElem? ?_
    rw [SdManager.removeAt_patterns]
    split_ifs with h0
    · exact ho
    · rw [List.getElem?_eraseIdx, if_pos (by omega), ho]

/-- Putting in an entry moves the larger ones up, if there is room for it. -/
theorem insertSorted_pattern? {sd : SdManager} {k : ℕ} {e o : Entry}
    (hs : SortedInsert.Sorted Entry.key sd.patterns) (h : sd.pattern? k = some o) :
    (sd.insertSorted e).pattern?
      (if nameKey e.name < o.key ∧ sd.patternCount < patternMaxCount then k + 1 else k)
        = some o := by
  obtain ⟨hk, ho⟩ := pattern?_pos h
  obtain ⟨k, rfl⟩ := Nat.exists_eq_add_of_le' hk
  rw [Nat.add_sub_cancel] at ho
  split_ifs with hlt
  · refine pattern?_of_getElem? ?_
    rw [SdManager.insertSorted_patterns, if_neg (by omega)]
    exact SortedInsert.getElem?_insert_of_lt hs ho hlt.1
  · refine pattern?_of_getElem? ?_
    rw [SdManager.insertSorted_patterns]
    split_ifs with hfull
    · exact ho
    · exact SortedInsert.getElem?_insert_of_le ho fun hkey => hlt ⟨hkey, by omega⟩

theorem sorted_removeAt {sd : SdManager} (id : ℕ)
    (hs : SortedInsert.Sorted Entry.key sd.patterns) :
    SortedInsert.Sorted Entry.key (sd.removeAt id).patterns := by
  rw [SdManager.removeAt_patterns]
  split_ifs
  · exact hs
  · exact hs.eraseIdx _

theorem sorted_insertSorted {sd : SdManager} (e : Entry)
    (hs : SortedInsert.Sorted Entry.key sd.patterns) :
    SortedInsert.Sorted Entry.key (sd.insertSorted e).patterns := by
  rw [SdManager.insertSorted_patterns]
  split_ifs
  · exact hs
  · exact hs.insert e

theorem sorted_scanPatterns {sd : SdManager} (listing : List Name)
    (hs : SortedInsert.Sorted Entry.key sd.patterns) :
    SortedInsert.Sorted Entry.key (sd.scanPatterns listing).patterns := by
  unfold SdManager.scanPatterns
  induction listing generalizing sd with
  | nil => exact hs
  | cons name rest ih =>
    rw [List.foldl_cons]
    refine ih ?_
    split_ifs
    · exact sorted_insertSorted _ hs
    · exact hs

theorem scanPatterns_fileOpen (sd : SdManager) (listing : List Name) :
    (sd.scanPatterns listing).fileOpen = sd.fileOpen := by
  unfold SdManager.scanPatterns
  induction listing generalizing sd with
  | nil => rfl
  | cons name rest ih =>
    rw [List.foldl_cons, ih]
    split_ifs
    · exact SdManager.insertSorted_fileOpen
    · rfl

/-! ### The invariant -/

/-- What every call keeps that meets `Keeps`. -/
structure OpenInv (s : Store) : Prop where
  sorted : SortedInsert.Sorted Entry.key s.sd.patterns
  listed : OpenListed s

section

variable {s : Store} {io : SdIo}

/-- A handle closed by a call breaks nothing. -/
theorem OpenInv.of_closed {s' : Store} (hs : SortedInsert.Sorted Entry.key s'.sd.patterns)
    (hclosed : s'.sd.fileOpen = false) : OpenInv s' :=
  ⟨hs, fun hopen => absurd (hclosed.symm.trans hopen) Bool.false_ne_true⟩

theorem OpenInv.closeIf (hinv : OpenInv s) (id : ℕ) : OpenInv ⟨s.card, s.sd.closeIf id⟩ := by
  constructor
  · rw [SdManager.closeIf_patterns]
    exact hinv.sorted
  · intro hopen
    have hclose : s.sd.closeIf id = s.sd := (SdManager.closeIf_of_open hopen).1
    have hwas : s.sd.fileOpen = true := hclose ▸ hopen
    change ReadsListed ⟨s.card, s.sd.closeIf id⟩ (s.sd.closeIf id).openId
    rw [hclose]
    exact hinv.listed hwas

/-- What is left open by a delete or a rename was open under another id. -/
theorem ne_openId_of_open {id : ℕ} {o : Entry} (hopen : (s.sd.closeIf id).fileOpen = true)
    (ho : s.sd.pattern? s.sd.openId = some o) : id ≠ s.sd.openId := by
  have hpos := (pattern?_pos ho).1
  rcases (SdManager.closeIf_of_open hopen).2 with hid | hid
  · omega
  · exact hid.symm

theorem OpenInv.deletePattern {id : ℕ} (hinv : OpenInv s)
    (hkeeps : Keeps s (.deletePattern id, io)) : OpenInv (s.deletePattern io id).1 := by
  generalize hcall : s.deletePattern io id = r
  obtain ⟨s', err⟩ := r
  rcases Store.deletePattern_cases hcall with
    ⟨rfl, -⟩ | ⟨e, he, ⟨rfl, -⟩ | ⟨hremove, hsame, hsd, -⟩⟩
  · exact hinv
  · exact hinv.closeIf id
  · constructor
    · rw [hsd]
      exact sorted_removeAt id (hinv.closeIf id).sorted
    · intro hopen
      rw [hsd, SdManager.removeAt_fileOpen] at hopen
      have hclose := (SdManager.closeIf_of_open hopen).1
      have hwas : s.sd.fileOpen = true := hclose ▸ hopen
      obtain ⟨o, f, ho, hf, hfile⟩ := hinv.listed hwas
      have hne := ne_openId_of_open hopen ho
      obtain ⟨hplace, hother⟩ := hkeeps hwas hne e he o ho hremove
      have hplace' := removeAt_pattern? ho hne
      rw [if_neg hplace] at hplace'
      rw [ReadsListed, hsd, hclose]
      refine ⟨o, f, ?_, ?_, ?_⟩
      · rwa [SdManager.removeAt_openId]
      · rwa [SdManager.removeAt_openFile]
      · rw [← hfile, Entry.path, hsame.file]
        exact Card.file_remove_of_ne _ fun h => hother h.symm

theorem OpenInv.renamePattern {id : ℕ} {newName : Name} (hinv : OpenInv s)
    (hkeeps : Keeps s (.renamePattern id newName, io)) :
    OpenInv (s.renamePattern io id newName).1 := by
  generalize hcall : s.renamePattern io id newName = r
  obtain ⟨s', err, newIdx⟩ := r
  rcases Store.renamePattern_cases hcall with
    ⟨rfl, -⟩ | ⟨e, he, ⟨rfl, -⟩ | ⟨hrename, hsame, hsd, -⟩⟩
  · exact hinv
  · exact hinv.closeIf id
  · constructor
    · rw [hsd]
      exact sorted_insertSorted _ (sorted_removeAt id (hinv.closeIf id).sorted)
    · intro hopen
      rw [hsd, SdManager.insertSorted_fileOpen, SdManager.removeAt_fileOpen] at hopen
      have hclose := (SdManager.closeIf_of_open hopen).1
      have hwas : s.sd.fileOpen = true := hclose ▸ hopen
      obtain ⟨o, f, ho, hf, hfile⟩ := hinv.listed hwas
      have hne := ne_openId_of_open hopen ho
      obtain ⟨hplace, hother⟩ := hkeeps hwas hne e he o ho hrename
      rw [ReadsListed, hsd, hclose]
      refine ⟨o, f, ?_, ?_, ?_⟩
      · rw [SdManager.insertSorted_openId, SdManager.removeAt_openId]
        -- the two moves of the open place, down and up, are both made or both not
        have hmove := insertSorted_pattern? (e := ⟨candidateName io newName s.card,
            if id = 0 then candidateName io newName s.card else e.origin⟩)
          (sorted_removeAt id hinv.sorted) (removeAt_pattern? ho hne)
        have hpos := (pattern?_pos ho).1
        by_cases hlt : 1 ≤ id ∧ id < s.sd.openId
        · rw [if_pos hlt, if_pos (hplace.1 hlt), Nat.sub_add_cancel hpos] at hmove
          exact hmove
        · rw [if_neg hlt, if_neg (mt hplace.2 hlt)] at hmove
          exact hmove
      · rwa [SdManager.insertSorted_openFile, SdManager.removeAt_openFile]
      · rw [Entry.path, hsame.file]
        exact Card.file_rename_of_ne _ hfile fun h => hother h.symm

theorem OpenInv.purgeMemory (hinv : OpenInv s) : OpenInv (s.purgeMemory io).1 := by
  generalize hcall : s.purgeMemory io = r
  obtain ⟨s', err⟩ := r
  rcases Store.purgeMemory_cases hcall with ⟨rfl, -⟩ | ⟨hclosed, -, ⟨hl, -⟩ | ⟨hl, -⟩⟩
  · exact hinv
  · exact .of_closed (hl ▸ hinv.sorted) hclosed
  · exact .of_closed (hl ▸ List.Pairwise.nil) hclosed

variable [Board]

/-- What `openPattern` does to the handle, whatever it answers, and what it opens. -/
theorem openPattern_listed (hinv : OpenInv s) (id : ℕ) :
    OpenInv (s.openPattern io id).1 ∧
      ((s.openPattern io id).2 = ceNone → ReadsListed (s.openPattern io id).1 id) := by
  generalize hcall : s.openPattern io id = r
  obtain ⟨s', err⟩ := r
  rcases Store.openPattern_cases hcall with
    ⟨rfl, herr⟩ | ⟨rfl, -, hopen, rfl, -⟩ |
    ⟨hcard, hlist, -, ⟨hclosed, -, herr⟩ | ⟨e, f, info, he, hf, -, hopen, hfile, hid, -⟩⟩
  · exact ⟨hinv, fun h => absurd h herr⟩
  · exact ⟨hinv, fun _ => hinv.listed hopen⟩
  · exact ⟨.of_closed (hlist ▸ hinv.sorted) hclosed, fun h => absurd h herr⟩
  · have hreads : ReadsListed s' id := by
      refine ⟨e, f, ?_, ?_, ?_⟩
      · rw [SdManager.pattern?, hlist]
        exact he
      · rw [SdManager.openFile, if_pos hopen, hfile]
      · rw [hcard, hf]
    exact ⟨⟨hlist ▸ hinv.sorted, fun _ => hid ▸ hreads⟩, fun _ => hreads⟩

/-- **One call.** -/
theorem OpenInv.step {i : Call × SdIo} (hinv : OpenInv s) (hkeeps : Keeps s i) :
    OpenInv (callStep s i) := by
  obtain ⟨call, io⟩ := i
  cases call with
  | openPattern id => exact (openPattern_listed hinv id).1
  | renamePattern id newName => exact hinv.renamePattern hkeeps
  | deletePattern id => exact hinv.deletePattern hkeeps
  | purgeMemory => exact hinv.purgeMemory
  | setLegacySeek on => exact ⟨hinv.sorted, hinv.listed⟩

end

theorem OpenInv.begin (card : Card) (io : SdIo) : OpenInv ((Store.powerOn card).begin_ io) := by
  unfold Store.begin_
  dsimp only
  split_ifs
  · exact .of_closed (sorted_scanPatterns _ List.Pairwise.nil) (scanPatterns_fileOpen ..)
  · exact .of_closed List.Pairwise.nil rfl

/-- No pattern is open at first. -/
theorem begin_fileOpen (card : Card) (io : SdIo) :
    ((Store.powerOn card).begin_ io).sd.fileOpen = false := by
  unfold Store.begin_
  dsimp only
  split_ifs
  · exact scanPatterns_fileOpen ..
  · rfl

/-! ### Runs -/

section

variable [Board] {card : Card} {boot : SdIo} {calls : List (Call × SdIo)}

theorem OpenInv.run (h : Along callStep Keeps ((Store.powerOn card).begin_ boot) calls) :
    OpenInv (run callStep ((Store.powerOn card).begin_ boot) calls) :=
  run_inv (fun _ _ hinv hkeeps => hinv.step hkeeps) (OpenInv.begin card boot) h

/-- **Open-pattern identity.**  As long as no delete and no rename moves the open pattern
or its file, its handle is the one of the file listed under its id, and an open that
succeeds reads the file listed under the id asked for. -/
theorem open_pattern_identity
    (h : Along callStep Keeps ((Store.powerOn card).begin_ boot) calls) :
    OpenListed (run callStep ((Store.powerOn card).begin_ boot) calls) ∧
      ∀ io id, ((run callStep ((Store.powerOn card).begin_ boot) calls).openPattern io id).2
          = ceNone →
        ReadsListed ((run callStep ((Store.powerOn card).begin_ boot) calls).openPattern io id).1
          id :=
  ⟨(OpenInv.run h).listed, fun _ id => (openPattern_listed (OpenInv.run h) id).2⟩

end

/-! ### A handle left behind -/

section

local instance sampleBoard : Board := ⟨.hw10_10⟩

/-- The header of a pattern of one frame for a 4 × 10 arena. -/
def sampleHeader : List UInt8 :=
  let hdr := [0x47, 0x36, 0x50, 0x54, 0x20, 0, 1, 0, 4, 10, 1, 0, 0, 0, 0, 0, 0]
  hdr ++ [Panel.crc8Autosar hdr]

def samplePat (letter : UInt8) : Name := [letter, 0x2E, 0x70, 0x61, 0x74]

/-- A card with `a.pat`, `b.pat` and `c.pat`, which are files 0, 1 and 2. -/
def sampleCard : Card where
  key := id
  dir p :=
    if p = .pattern (samplePat 0x61) then some 0
    else if p = .pattern (samplePat 0x62) then some 1
    else if p = .pattern (samplePat 0x63) then some 2
    else none
  content id := if id < 3 then sampleHeader else []
  fresh := 3

/-- Nothing fails. -/
def goodIo : SdIo where
  ok _ := true
  cap _ := 1000
  kept _ := true
  listing := [samplePat 0x61, samplePat 0x62, samplePat 0x63]

/-- A delete of a later pattern leaves the open one in its place. -/
theorem open_pattern_identity_later :
    OpenListed (run callStep ((Store.powerOn sampleCard).begin_ goodIo)
      [(.openPattern 2, goodIo), (.deletePattern 3, goodIo)]) ∧
      ∀ io id, ((run callStep ((Store.powerOn sampleCard).begin_ goodIo)
        [(.openPattern 2, goodIo), (.deletePattern 3, goodIo)]).openPattern io id).2 = ceNone →
        ReadsListed ((run callStep ((Store.powerOn sampleCard).begin_ goodIo)
          [(.openPattern 2, goodIo), (.deletePattern 3, goodIo)]).openPattern io id).1 id :=
  open_pattern_identity ⟨by decide +kernel, by decide +kernel, trivial⟩

/-- **A delete of an earlier pattern leaves the handle behind.**  With the second of three
patterns open and the first deleted, `openPattern 2` answers `CE_NONE` on the handle of
`b.pat`, and the second pattern of the list is `c.pat`. -/
theorem openPattern_other_file :
    let s := run callStep ((Store.powerOn sampleCard).begin_ goodIo)
      [(.openPattern 2, goodIo), (.deletePattern 1, goodIo)]
    (s.openPattern goodIo 2).2 = ceNone ∧ ¬ ReadsListed (s.openPattern goodIo 2).1 2 := by
  decide +kernel

end

end Sd
end G6Arena
