/-
# The list of patterns

`names_` and `origin_names_` under any order of `begin`, renames, promotions, deletes and purges.
The list stays strictly sorted, within its capacity and made of files that the card has
(`Catalogue`); a file keeps its origin, and a rename reports the place of its file
(`pattern_list`).

`insertSorted` drops a name that the list has no room for, and `renamePattern` does not look: a
promotion onto a full list succeeds and reports place 0 (`promote_full`).  Nor does it keep
`pattern.temp` for the staging file, so that a pattern of that name is one more exception (`Fits`).
-/

import G6Arena.Sd.Files
import G6Arena.Sd.OpenPattern
import Mathlib.Data.List.Nodup

namespace G6Arena
namespace Sd

open ByteMem Machine
open ControllerError
open SortedInsert (StrictSorted)

/-! ### Changes of the list -/

inductive Change
  | begin_
  | call (call : Call)
  /-- an upload to index 0 -/
  | upload

/-- What an upload to index 0 makes of the directory. -/
def uploadTemp (io : SdIo) (c : Card) : Card :=
  let p : Path := .pattern patternTempName
  ((c.remove (io.ok (.remove p)) p).1.openWrite (io.ok (.openWrite p)) p).1

/-- A change and what the card does during it. -/
def changeStep [Board] (s : Store) : Change × SdIo → Store
  | (.begin_, io) => s.begin_ io
  | (.call call, io) => callStep s (call, io)
  | (.upload, io) => { s with card := uploadTemp io s.card }

/-- What `openNextFile` walks through: files, no two of them the same to the card. -/
structure Lists (c : Card) (names : List Name) : Prop where
  files : ∀ n ∈ names, (c.file (.pattern n)).isSome
  single : (names.map c.key).Nodup

/-- The list of a card: its order, its room, and a file for each entry. -/
structure Catalogue (s : Store) : Prop where
  strict : StrictSorted Entry.key s.sd.patterns
  bound : s.sd.patternCount ≤ patternMaxCount
  files : ∀ e ∈ s.sd.patterns, (s.card.file e.path).isSome
  single : ∀ e ∈ s.sd.patterns, ∀ o ∈ s.sd.patterns, SameFile s.card e o → e = o

/-- No listed pattern is the staging file. -/
def TempApart (s : Store) : Prop :=
  ∀ e ∈ s.sd.patterns, ¬ SameFile s.card e ⟨patternTempName, []⟩

/-- A change the list fits: a promotion finds room, the staging file is not a listed one, and a
format that fails leaves the listed files.  A `begin` walks through the files of the card. -/
def Fits (s : Store) : Change × SdIo → Prop
  | (.begin_, io) => Lists s.card io.listing
  | (.call (.renamePattern id _), _) =>
    id = 0 → s.sd.patternCount < patternMaxCount ∧ TempApart s
  | (.call (.deletePattern id), _) => id = 0 → TempApart s
  | (.call .purgeMemory, io) =>
    io.ok .format = false → ∀ e ∈ s.sd.patterns, io.kept (s.card.entry e.path) = true
  | (.call (.openPattern _), _) => True
  | (.call (.setLegacySeek _), _) => True
  | (.upload, _) => TempApart s

/-- A file that stays in the list keeps its origin. -/
def KeepsOrigins (s s' : Store) : Prop :=
  ∀ e ∈ s.sd.patterns, ∀ e' ∈ s'.sd.patterns, ∀ f, s.card.file e.path = some f →
    s'.card.file e'.path = some f → e'.origin = e.origin

/-- A rename reports the place where its file is listed; the origin of a promoted file is the name
it got. -/
def ReportsPlace (s s' : Store) (id : ℕ) (newIdx : Option ℕ) : Prop :=
  ∃ old f k e, s.sd.target id = some old ∧ s.card.file old.path = some f ∧ newIdx = some k ∧
    s'.sd.pattern? k = some e ∧ s'.card.file e.path = some f ∧
    e.origin = if id = 0 then e.name else old.origin

/-! ### Entries -/

theorem nameKey_injective : Function.Injective nameKey :=
  List.map_injective_iff.2 fun _ _ h => UInt8.toNat_inj.1 h

theorem Entry.key_inj {e o : Entry} : e.key = o.key ↔ e.name = o.name := nameKey_injective.eq_iff

section

variable {s s' : Store} {io : SdIo} {id : ℕ} {old : Entry}

/-- What is left when the target is taken out. -/
theorem mem_removeAt (hnodup : s.sd.patterns.Nodup) (htarget : s.sd.target id = some old)
    {e : Entry} : e ∈ (s.sd.removeAt id).patterns ↔ e ∈ s.sd.patterns ∧ (id ≠ 0 → e ≠ old) := by
  rw [SdManager.removeAt_patterns]
  unfold SdManager.target at htarget
  split_ifs at htarget ⊢ with hid
  · exact ⟨fun h => ⟨h, fun hne => absurd hid hne⟩, fun h => h.1⟩
  · obtain ⟨-, hold⟩ := pattern?_pos htarget
    rw [List.mem_eraseIdx_iff_getElem?]
    constructor
    · rintro ⟨i, hi, he⟩
      refine ⟨List.mem_of_getElem? he, ?_⟩
      rintro - rfl
      have hlt : i < s.sd.patterns.length := (List.getElem?_eq_some_iff.1 he).1
      exact hi ((List.getElem?_inj hlt hnodup).1 (he.trans hold.symm))
    · rintro ⟨hmem, hne⟩
      obtain ⟨i, he⟩ := List.mem_iff_getElem?.1 hmem
      refine ⟨i, ?_, he⟩
      rintro rfl
      exact hne hid (Option.some.inj (he.symm.trans hold))

/-! ### What keeps the list -/

/-- Fewer entries, or the same, and the files of those that stay. -/
structure Drops (s s' : Store) : Prop where
  sublist : s'.sd.patterns.Sublist s.sd.patterns
  key : s'.card.key = s.card.key
  file : ∀ e ∈ s'.sd.patterns, s'.card.file e.path = s.card.file e.path

theorem Drops.of_same (hlist : s'.sd.patterns = s.sd.patterns) (hcard : s'.card = s.card) :
    Drops s s' := by
  refine ⟨?_, by rw [hcard], fun _ _ => by rw [hcard]⟩
  rw [hlist]

/-- What is listed under two names is listed once. -/
theorem Catalogue.eq_of_file (h : Catalogue s) (hcard : s.card.WellFormed) {e o : Entry} {f : FileId}
    (he : e ∈ s.sd.patterns) (ho : o ∈ s.sd.patterns) (hfe : s.card.file e.path = some f)
    (hfo : s.card.file o.path = some f) : e = o :=
  h.single e he o ho (hcard.single hfe hfo)

theorem Drops.keepsOrigins (hdrops : Drops s s') (h : Catalogue s) (hcard : s.card.WellFormed) :
    KeepsOrigins s s' := by
  intro e he e' he' f hf hf'
  rw [hdrops.file e' he'] at hf'
  rw [h.eq_of_file hcard he (hdrops.sublist.subset he') hf hf']

namespace Catalogue

theorem drops (h : Catalogue s) (hdrops : Drops s s') : Catalogue s' := by
  constructor
  · exact List.Pairwise.sublist hdrops.sublist h.strict
  · exact hdrops.sublist.length_le.trans h.bound
  · intro e he
    rw [hdrops.file e he]
    exact h.files e (hdrops.sublist.subset he)
  · intro e he o ho hsame
    rw [SameFile, Card.entry_eq_of_key hdrops.key, Card.entry_eq_of_key hdrops.key] at hsame
    exact h.single e (hdrops.sublist.subset he) o (hdrops.sublist.subset ho) hsame

/-- One more entry, of a file that no other entry has. -/
theorem insert (h : Catalogue s) {e : Entry} (hfile : (s.card.file e.path).isSome)
    (hother : ∀ o ∈ s.sd.patterns, ¬ SameFile s.card o e) :
    Catalogue ⟨s.card, s.sd.insertSorted e⟩ := by
  by_cases hfull : patternMaxCount ≤ s.sd.patternCount
  · have hsame : s.sd.insertSorted e = s.sd := if_pos hfull
    rw [hsame]
    exact h
  have hlist : (s.sd.insertSorted e).patterns = SortedInsert.insert Entry.key e s.sd.patterns := by
    rw [SdManager.insertSorted_patterns, if_neg hfull]
  constructor
  · rw [hlist]
    refine h.strict.insert fun o ho hkey => hother o ho ?_
    rw [SameFile, Entry.path, Entry.path, Entry.key_inj.1 hkey]
  · change (s.sd.insertSorted e).patterns.length ≤ _
    rw [hlist, SortedInsert.length_insert]
    exact Nat.lt_of_not_le hfull
  · intro o ho
    rw [hlist, SortedInsert.mem_insert] at ho
    rcases ho with rfl | ho
    · exact hfile
    · exact h.files o ho
  · intro o ho o' ho' hsame
    rw [hlist, SortedInsert.mem_insert] at ho ho'
    rcases ho with rfl | ho <;> rcases ho' with rfl | ho'
    · rfl
    · exact absurd hsame.symm (hother o' ho')
    · exact absurd hsame (hother o ho)
    · exact h.single o ho o' ho' hsame

/-- Nothing is listed. -/
theorem of_empty (h : s.sd.patterns = []) : Catalogue s := by
  constructor
  · rw [h]
    exact List.Pairwise.nil
  · rw [SdManager.patternCount, h]
    exact Nat.zero_le _
  · rw [h]
    nofun
  · rw [h]
    nofun

/-- An entry that stays when the target is taken out is of another file. -/
theorem apart (h : Catalogue s) (htarget : s.sd.target id = some old) (htemp : id = 0 → TempApart s)
    {e : Entry} (he : e ∈ (s.sd.removeAt id).patterns) : e ∈ s.sd.patterns ∧ ¬ SameFile s.card e old := by
  obtain ⟨hmem, hne⟩ := (mem_removeAt h.strict.nodup htarget).1 he
  refine ⟨hmem, fun hsame => ?_⟩
  unfold SdManager.target at htarget
  split_ifs at htarget with hid
  · cases htarget
    exact htemp hid e hmem hsame
  · exact hne hid (h.single e hmem old (List.mem_of_getElem? (pattern?_pos htarget).2) hsame)

/-- A rename finds room in the list, but for a promotion onto a full one. -/
theorem room (h : Catalogue s) (htarget : s.sd.target id = some old)
    (hfits : id = 0 → s.sd.patternCount < patternMaxCount) :
    (s.sd.removeAt id).patternCount < patternMaxCount := by
  rw [SdManager.patternCount, SdManager.removeAt_patterns]
  split_ifs with hid
  · exact hfits hid
  · rw [SdManager.target, if_neg hid] at htarget
    obtain ⟨-, hget⟩ := pattern?_pos htarget
    have hlt : id - 1 < s.sd.patterns.length := (List.getElem?_eq_some_iff.1 hget).1
    have hbound : s.sd.patterns.length ≤ patternMaxCount := h.bound
    rw [List.length_eraseIdx_of_lt hlt]
    omega

end Catalogue

theorem removeAt_sublist (sd : SdManager) (id : ℕ) :
    (sd.removeAt id).patterns.Sublist sd.patterns := by
  rw [SdManager.removeAt_patterns]
  split_ifs
  · exact List.Sublist.refl _
  · exact List.eraseIdx_sublist ..

theorem closeIf_removeAt_patterns (sd : SdManager) (id : ℕ) :
    ((sd.closeIf id).removeAt id).patterns = (sd.removeAt id).patterns := by
  rw [SdManager.removeAt_patterns, SdManager.removeAt_patterns, SdManager.closeIf_patterns]

/-! ### One change -/

theorem deletePattern_drops {err : ControllerError} (h : Catalogue s) (htemp : id = 0 → TempApart s)
    (hcall : s.deletePattern io id = (s', err)) : Drops s s' := by
  rcases Store.deletePattern_cases hcall with ⟨rfl, -⟩ | ⟨e, he, ⟨rfl, -⟩ | ⟨-, hsame, hsd, -⟩⟩
  · exact .of_same rfl rfl
  · exact .of_same SdManager.closeIf_patterns rfl
  · have hlist : s'.sd.patterns = (s.sd.removeAt id).patterns := by
      rw [hsd, closeIf_removeAt_patterns]
    refine ⟨?_, hsame.key.trans (Card.remove_key _), fun o ho => ?_⟩
    · rw [hlist]
      exact removeAt_sublist ..
    · rw [hlist] at ho
      rw [Entry.path, hsame.file]
      exact Card.file_remove_of_ne _ (h.apart he htemp ho).2

theorem purgeMemory_drops {err : ControllerError}
    (hkept : io.ok .format = false → ∀ e ∈ s.sd.patterns, io.kept (s.card.entry e.path) = true)
    (hcall : s.purgeMemory io = (s', err)) : Drops s s' := by
  rcases Store.purgeMemory_cases hcall with ⟨rfl, -⟩ | ⟨-, hsame, ⟨hlist, -, hfail⟩ | ⟨hlist, -⟩⟩
  · exact .of_same rfl rfl
  · refine ⟨by rw [hlist], hsame.key.trans (Card.format_key io), fun e he => ?_⟩
    rw [hlist] at he
    rw [Entry.path, hsame.file, Card.file, Card.entry_eq_of_key (Card.format_key io), Card.format,
      if_neg (by rw [hfail]; exact Bool.false_ne_true)]
    exact if_pos (hkept hfail e he)
  · refine ⟨?_, hsame.key.trans (Card.format_key io), ?_⟩ <;> rw [hlist]
    · exact List.nil_sublist _
    · exact fun e he => absurd he List.not_mem_nil

theorem upload_drops (h : Catalogue s) (htemp : TempApart s) :
    Drops s { s with card := uploadTemp io s.card } := by
  refine ⟨List.Sublist.refl _, (Card.openWrite_key _).trans (Card.remove_key _), fun e he => ?_⟩
  obtain ⟨f, hf⟩ := Option.isSome_iff_exists.1 (h.files e he)
  rw [hf]
  exact Card.file_openWrite _ ((Card.file_remove_of_ne _ (htemp e he)).trans hf)

theorem mem_insertSorted {sd : SdManager} {e o : Entry} (h : o ∈ (sd.insertSorted e).patterns) :
    o = e ∨ o ∈ sd.patterns := by
  rw [SdManager.insertSorted_patterns] at h
  split_ifs at h
  · exact .inr h
  · exact SortedInsert.mem_insert.1 h

/-- The search for a name of the list finds its place. -/
theorem Catalogue.findIdx (h : Catalogue s) {e : Entry} (he : e ∈ s.sd.patterns) :
    s.sd.pattern? ((s.sd.patterns.findIdx? (·.name = e.name)).elim 0 (· + 1)) = some e := by
  cases hfound : s.sd.patterns.findIdx? (·.name = e.name) with
  | none =>
    rw [List.findIdx?_eq_none_iff] at hfound
    exact absurd (hfound e he) (by simp)
  | some k =>
    obtain ⟨hk, hname, -⟩ := List.findIdx?_eq_some_iff_getElem.1 hfound
    refine pattern?_of_getElem? ?_
    have hkey : (s.sd.patterns[k]).key = e.key := Entry.key_inj.2 (of_decide_eq_true hname)
    rw [List.getElem?_eq_getElem hk, h.strict.eq_of_key (List.getElem_mem hk) he hkey]

/-- **A rename.** -/
theorem renamePattern_moves {newName : Name} {err : ControllerError} {newIdx : Option ℕ}
    (h : Catalogue s) (hcard : s.card.WellFormed)
    (hfits : id = 0 → s.sd.patternCount < patternMaxCount ∧ TempApart s)
    (hcall : s.renamePattern io id newName = (s', err, newIdx)) :
    Catalogue s' ∧ KeepsOrigins s s' ∧
      (err = ceNone ∨ err = ceManifestWriteError → ReportsPlace s s' id newIdx) := by
  rcases Store.renamePattern_cases hcall with
    ⟨rfl, hrefused⟩ | ⟨old, htarget, ⟨rfl, rfl⟩ | ⟨hrename, hsame, hsd, hidx, -⟩⟩
  · refine ⟨h, (Drops.of_same rfl rfl).keepsOrigins h hcard, fun herr => ?_⟩
    rcases hrefused with rfl | rfl <;> rcases herr with herr | herr <;> cases herr
  · have hdrops : Drops s ⟨s.card, s.sd.closeIf id⟩ := .of_same SdManager.closeIf_patterns rfl
    exact ⟨h.drops hdrops, hdrops.keepsOrigins h hcard, fun herr => by rcases herr with h | h <;> cases h⟩
  obtain ⟨f, hold, hfree, hnew, hrest⟩ := Card.rename_done hrename
  generalize candidateName io newName s.card = name at *
  generalize hmid : (s.sd.closeIf id).removeAt id = sd at hsd
  have hlist : sd.patterns = (s.sd.removeAt id).patterns := by
    rw [← hmid, closeIf_removeAt_patterns]
  have hkey : s'.card.key = s.card.key := hsame.key.trans (Card.rename_key _)
  have happart {e : Entry} (he : e ∈ sd.patterns) : e ∈ s.sd.patterns ∧ ¬ SameFile s.card e old ∧
      s.card.entry e.path ≠ s.card.entry (.pattern name) := by
    rw [hlist] at he
    obtain ⟨hmem, hother⟩ := h.apart htarget (fun hid => (hfits hid).2) he
    refine ⟨hmem, hother, fun hentry => ?_⟩
    have hfile := h.files e hmem
    rw [Card.file_congr hentry, hfree] at hfile
    cases hfile
  have hdrops : Drops s ⟨s'.card, sd⟩ := by
    refine ⟨by rw [hlist]; exact removeAt_sublist .., hkey, fun e he => ?_⟩
    obtain ⟨-, hother, hentry⟩ := happart he
    exact (hsame.file _).trans ((hrest _ hentry).trans (if_neg hother))
  have hfile : s'.card.file (.pattern name) = some f := (hsame.file _).trans hnew
  have hcat : Catalogue s' := by
    have hinsert := (h.drops hdrops).insert (e := ⟨name, if id = 0 then name else old.origin⟩)
      (Option.isSome_iff_exists.2 ⟨f, hfile⟩) fun o ho hentry => (happart ho).2.2 <| by
        rwa [SameFile, Card.entry_eq_of_key hkey, Card.entry_eq_of_key hkey] at hentry
    rw [← hsd] at hinsert
    exact hinsert
  refine ⟨hcat, ?_, fun _ => ?_⟩
  · intro e he e' he' g hg hg'
    rw [hsd] at he'
    rcases mem_insertSorted he' with rfl | hmem
    · -- the renamed file was the one of the target
      obtain rfl : f = g := Option.some.inj (hfile.symm.trans hg')
      have hentry : SameFile s.card e old := hcard.single hg hold
      unfold SdManager.target at htarget
      split_ifs at htarget with hid
      · cases htarget
        exact absurd hentry ((hfits hid).2 e he)
      · rw [h.single e he old (List.mem_of_getElem? (pattern?_pos htarget).2) hentry]
        exact if_neg hid
    · exact hdrops.keepsOrigins h hcard e he e' hmem g hg hg'
  · have hroom : ¬ patternMaxCount ≤ sd.patternCount := by
      rw [SdManager.patternCount, hlist]
      exact Nat.not_le.2 (h.room htarget fun hid => (hfits hid).1)
    have hmem : (⟨name, if id = 0 then name else old.origin⟩ : Entry) ∈ s'.sd.patterns := by
      rw [hsd, SdManager.insertSorted_patterns, if_neg hroom]
      exact SortedInsert.mem_insert.2 (.inl rfl)
    exact ⟨old, f, _, _, htarget, hold, hidx, hcat.findIdx hmem, hfile, rfl⟩

end

/-! ### The scan -/

/-- A name that the scan takes. -/
def scanned (name : Name) : Bool :=
  name.head? ≠ some 0x2E ∧ hasPatExtension name ∧ name.length < patternNameByteCount

section

variable {sd : SdManager} {listing : List Name} {name : Name}

theorem scanPatterns_cons : sd.scanPatterns (name :: listing)
    = (if scanned name then sd.insertSorted ⟨name, name⟩ else sd).scanPatterns listing := by
  rw [SdManager.scanPatterns, List.foldl_cons, SdManager.scanPatterns]
  simp only [scanned, decide_eq_true_eq]

theorem scanPatterns_mounted : (sd.scanPatterns listing).mounted = sd.mounted := by
  induction listing generalizing sd with
  | nil => rfl
  | cons name rest ih =>
    rw [scanPatterns_cons, ih]
    unfold SdManager.insertSorted
    split_ifs <;> rfl

theorem of_mem_scanPatterns {e : Entry} (h : e ∈ (sd.scanPatterns listing).patterns) :
    e ∈ sd.patterns ∨ e.name ∈ listing ∧ scanned e.name = true ∧ e.origin = e.name := by
  induction listing generalizing sd with
  | nil => exact .inl h
  | cons name rest ih =>
    rw [scanPatterns_cons] at h
    rcases ih h with h | ⟨hmem, hrest⟩
    · split_ifs at h with hscanned
      · rcases mem_insertSorted h with rfl | h
        · exact .inr ⟨List.mem_cons_self, hscanned, rfl⟩
        · exact .inl h
      · exact .inl h
    · exact .inr ⟨List.mem_cons_of_mem _ hmem, hrest⟩

theorem insertSorted_bound (h : sd.patternCount ≤ patternMaxCount) (e : Entry) :
    (sd.insertSorted e).patternCount ≤ patternMaxCount := by
  unfold SdManager.patternCount at h ⊢
  rw [SdManager.insertSorted_patterns]
  split_ifs with hfull
  · exact h
  · rw [SortedInsert.length_insert]
    exact Nat.lt_of_not_le hfull

theorem insertSorted_strict (h : StrictSorted Entry.key sd.patterns) {e : Entry}
    (he : ∀ o ∈ sd.patterns, o.name ≠ e.name) :
    StrictSorted Entry.key (sd.insertSorted e).patterns := by
  rw [SdManager.insertSorted_patterns]
  split_ifs
  · exact h
  · exact h.insert fun o ho hkey => he o ho (Entry.key_inj.1 hkey)

theorem scanPatterns_bound (h : sd.patternCount ≤ patternMaxCount) :
    (sd.scanPatterns listing).patternCount ≤ patternMaxCount := by
  induction listing generalizing sd with
  | nil => exact h
  | cons name rest ih =>
    rw [scanPatterns_cons]
    refine ih ?_
    split_ifs
    · exact insertSorted_bound h _
    · exact h

/-- Nothing is left out as long as there is room. -/
theorem scanPatterns_room (h : sd.patternCount + listing.countP scanned ≤ patternMaxCount) :
    (sd.scanPatterns listing).patternCount = sd.patternCount + listing.countP scanned ∧
      (∀ e ∈ sd.patterns, e ∈ (sd.scanPatterns listing).patterns) ∧
      ∀ n ∈ listing, scanned n = true → ⟨n, n⟩ ∈ (sd.scanPatterns listing).patterns := by
  induction listing generalizing sd with
  | nil => exact ⟨rfl, fun _ he => he, nofun⟩
  | cons name rest ih =>
    rw [scanPatterns_cons, List.countP_cons] at *
    by_cases hscanned : scanned name = true
    · rw [if_pos hscanned] at h ⊢
      rw [if_pos hscanned]
      have hlist : (sd.insertSorted ⟨name, name⟩).patterns
          = SortedInsert.insert Entry.key ⟨name, name⟩ sd.patterns := by
        rw [SdManager.insertSorted_patterns, if_neg (by omega)]
      have hcount : (sd.insertSorted ⟨name, name⟩).patternCount = sd.patternCount + 1 := by
        rw [SdManager.patternCount, hlist, SortedInsert.length_insert, SdManager.patternCount]
      obtain ⟨htotal, hold, hnew⟩ := @ih (sd.insertSorted ⟨name, name⟩) (by omega)
      refine ⟨by omega, fun e he => hold e ?_, fun n hn hs => ?_⟩
      · rw [hlist]
        exact SortedInsert.mem_insert.2 (.inr he)
      · rcases List.mem_cons.1 hn with rfl | hn
        · refine hold _ ?_
          rw [hlist]
          exact SortedInsert.mem_insert.2 (.inl rfl)
        · exact hnew n hn hs
    · rw [if_neg hscanned] at h ⊢
      rw [if_neg hscanned]
      obtain ⟨htotal, hold, hnew⟩ := ih h
      refine ⟨htotal, hold, fun n hn hs => ?_⟩
      rcases List.mem_cons.1 hn with rfl | hn
      · exact absurd hs hscanned
      · exact hnew n hn hs

/-- The scan of names that are all different sorts them strictly. -/
theorem scanPatterns_strict (h : StrictSorted Entry.key sd.patterns)
    (hnew : ∀ e ∈ sd.patterns, e.name ∉ listing) (hnodup : listing.Nodup) :
    StrictSorted Entry.key (sd.scanPatterns listing).patterns := by
  induction listing generalizing sd with
  | nil => exact h
  | cons name rest ih =>
    rw [scanPatterns_cons]
    obtain ⟨hname, hrest⟩ := List.nodup_cons.1 hnodup
    have hold : ∀ e ∈ sd.patterns, e.name ∉ rest := fun e he hmem =>
      hnew e he (List.mem_cons_of_mem _ hmem)
    split_ifs
    · refine ih (insertSorted_strict h fun o ho heq => ?_) (fun e he => ?_) hrest
      · refine hnew o ho ?_
        rw [heq]
        exact List.mem_cons_self
      · rcases mem_insertSorted he with rfl | he
        · exact hname
        · exact hold e he
    · exact ih h hold hrest

end

/-! ### Runs -/

section

variable {s : Store} {io : SdIo}

theorem begin_mounted (s : Store) (io : SdIo) : (s.begin_ io).sd.mounted = io.ok .mount := by
  unfold Store.begin_
  dsimp only
  split_ifs
  · exact scanPatterns_mounted
  · rfl

theorem begin_scans (s : Store) (io : SdIo) :
    SamePatterns s.card (s.begin_ io).card ∧ FilesKept s.card (s.begin_ io).card ∧
      (s.begin_ io).sd.patterns = if io.ok .mount then
        (SdManager.scanPatterns { s.sd with mounted := true, patterns := [] } io.listing).patterns
        else [] := by
  unfold Store.begin_
  dsimp only
  cases io.ok .mount with
  | true => exact ⟨writeManifest_same .., writeManifest_kept .., rfl⟩
  | false => exact ⟨.refl _, .refl _, rfl⟩

/-- What is listed at boot is walked through, under its own name. -/
theorem of_mem_begin {e : Entry} (h : e ∈ (s.begin_ io).sd.patterns) :
    e.name ∈ io.listing ∧ scanned e.name = true ∧ e.origin = e.name := by
  rw [(begin_scans s io).2.2] at h
  split_ifs at h
  · exact (of_mem_scanPatterns h).resolve_left List.not_mem_nil
  · cases h

theorem Lists.nodup {c : Card} {names : List Name} (h : Lists c names) : names.Nodup :=
  List.Nodup.of_map _ h.single

theorem Catalogue.begin_ (h : Lists s.card io.listing) : Catalogue (s.begin_ io) := by
  obtain ⟨hsame, -, hlist⟩ := begin_scans s io
  constructor
  · rw [hlist]
    split_ifs
    · exact scanPatterns_strict List.Pairwise.nil nofun h.nodup
    · exact List.Pairwise.nil
  · rw [SdManager.patternCount, hlist]
    split_ifs
    · exact scanPatterns_bound (Nat.zero_le _)
    · exact Nat.zero_le _
  · intro e he
    rw [Entry.path, hsame.file]
    exact h.files _ (of_mem_begin he).1
  · intro e he o ho hentry
    obtain ⟨hmem, -, horigin⟩ := of_mem_begin he
    obtain ⟨hmem', -, horigin'⟩ := of_mem_begin ho
    rw [SameFile, hsame.entry, hsame.entry] at hentry
    have hname : e.name = o.name :=
      List.inj_on_of_nodup_map h.single hmem hmem' (Path.pattern.inj hentry)
    obtain ⟨name, origin⟩ := e
    obtain ⟨name', origin'⟩ := o
    dsimp only at horigin horigin' hname
    rw [horigin, horigin', hname]

variable [Board]

theorem openPattern_list (s : Store) (io : SdIo) (id : ℕ) :
    (s.openPattern io id).1.sd.patterns = s.sd.patterns ∧ (s.openPattern io id).1.card = s.card := by
  generalize hcall : s.openPattern io id = r
  obtain ⟨s', err⟩ := r
  rcases Store.openPattern_cases hcall with ⟨rfl, -⟩ | ⟨rfl, -⟩ | ⟨hcard, hlist, -⟩
  · exact ⟨rfl, rfl⟩
  · exact ⟨rfl, rfl⟩
  · exact ⟨hlist, hcard⟩

/-- **One call.** -/
theorem callStep_keeps {call : Call} (h : Catalogue s) (hcard : s.card.WellFormed)
    (hfits : Fits s (.call call, io)) :
    Catalogue (callStep s (call, io)) ∧ KeepsOrigins s (callStep s (call, io)) := by
  have hdrop (s' : Store) (hdrops : Drops s s') : Catalogue s' ∧ KeepsOrigins s s' :=
    ⟨h.drops hdrops, hdrops.keepsOrigins h hcard⟩
  cases call with
  | openPattern id =>
    obtain ⟨hlist, hsame⟩ := openPattern_list s io id
    exact hdrop _ (.of_same hlist hsame)
  | renamePattern id newName =>
    obtain ⟨hcat, horigins, -⟩ := renamePattern_moves h hcard hfits
      (Prod.mk.eta (p := s.renamePattern io id newName)).symm
    exact ⟨hcat, horigins⟩
  | deletePattern id =>
    exact hdrop _ (deletePattern_drops h hfits (Prod.mk.eta (p := s.deletePattern io id)).symm)
  | purgeMemory =>
    exact hdrop _ (purgeMemory_drops hfits (Prod.mk.eta (p := s.purgeMemory io)).symm)
  | setLegacySeek on => exact hdrop _ (.of_same rfl rfl)

theorem callStep_files (s : Store) (call : Call) (io : SdIo) :
    FilesKept s.card (callStep s (call, io)).card := by
  cases call with
  | openPattern id =>
    rw [callStep, (openPattern_list s io id).2]
    exact .refl _
  | renamePattern id newName => exact Store.renamePattern_files ..
  | deletePattern id => exact (Store.deletePattern_files ..).1
  | purgeMemory => exact Store.purgeMemory_files ..
  | setLegacySeek on => exact .refl _

theorem changeStep_files (s : Store) (i : Change × SdIo) : FilesKept s.card (changeStep s i).card := by
  obtain ⟨change, io⟩ := i
  cases change with
  | begin_ => exact (begin_scans s io).2.1
  | call call => exact callStep_files ..
  | upload => exact (remove_kept ..).trans (openWrite_kept ..)

/-- **One change.** -/
theorem Catalogue.step {i : Change × SdIo} (h : Catalogue s) (hcard : s.card.WellFormed)
    (hfits : Fits s i) : Catalogue (changeStep s i) := by
  obtain ⟨change, io⟩ := i
  cases change with
  | begin_ => exact .begin_ hfits
  | call call => exact (callStep_keeps h hcard hfits).1
  | upload => exact h.drops (upload_drops h hfits)

variable {card : Card} {changes : List (Change × SdIo)}

theorem Catalogue.run (hcard : card.WellFormed)
    (h : Along changeStep Fits (.powerOn card) changes) :
    Catalogue (run changeStep (.powerOn card) changes) ∧
      (run changeStep (.powerOn card) changes).card.WellFormed := by
  refine run_inv (I := fun s => Catalogue s ∧ s.card.WellFormed) (fun s i hinv hfits => ?_)
    ⟨.of_empty rfl, hcard⟩ h
  exact ⟨hinv.1.step hinv.2 hfits, (changeStep_files s i).wellFormed hinv.2⟩

/-- **The list of patterns.**  In a run whose changes the list fits it is strictly sorted and within
its capacity.  A call leaves each listed file its origin, a rename that succeeds reports the place
its file has, and a `begin` starts the origins anew. -/
theorem pattern_list (hcard : card.WellFormed)
    (h : Along changeStep Fits (.powerOn card) changes) :
    let s := run changeStep (.powerOn card) changes
    StrictSorted Entry.key s.sd.patterns ∧ s.sd.patternCount ≤ patternMaxCount ∧
      (∀ call io, Fits s (.call call, io) → KeepsOrigins s (changeStep s (.call call, io))) ∧
      (∀ id newName io, Fits s (.call (.renamePattern id newName), io) →
        let out := s.renamePattern io id newName
        out.2.1 = ceNone ∨ out.2.1 = ceManifestWriteError → ReportsPlace s out.1 id out.2.2) ∧
      ∀ io, ∀ e ∈ (changeStep s (.begin_, io)).sd.patterns, e.origin = e.name := by
  obtain ⟨hcat, hfiles⟩ := Catalogue.run hcard h
  refine ⟨hcat.strict, hcat.bound, fun call io hfits => (callStep_keeps hcat hfiles hfits).2,
    fun id newName io hfits => ?_, fun io e he => (of_mem_begin he).2.2⟩
  exact (renamePattern_moves hcat hfiles hfits
    (Prod.mk.eta (p := Store.renamePattern io id newName _)).symm).2.2

end

/-! ### A full list -/

/-- **A promotion onto a full list** is made and reports no place. -/
theorem promote_full {s : Store} {io : SdIo} {newName : Name} (h : Catalogue s)
    (hfull : s.sd.patternCount = patternMaxCount)
    (herr : (s.renamePattern io 0 newName).2.1 = ceNone ∨
      (s.renamePattern io 0 newName).2.1 = ceManifestWriteError) :
    (s.renamePattern io 0 newName).1.sd.patterns = s.sd.patterns ∧
      (s.renamePattern io 0 newName).2.2 = some 0 ∧
      ¬ ReportsPlace s (s.renamePattern io 0 newName).1 0 (s.renamePattern io 0 newName).2.2 := by
  generalize hcall : s.renamePattern io 0 newName = r at herr ⊢
  obtain ⟨s', err, newIdx⟩ := r
  dsimp only at herr ⊢
  rcases Store.renamePattern_cases hcall with
    ⟨rfl, hrefused⟩ | ⟨old, -, ⟨rfl, rfl⟩ | ⟨hrename, -, hsd, hidx, -⟩⟩
  · rcases hrefused with rfl | rfl <;> rcases herr with herr | herr <;> cases herr
  · rcases herr with herr | herr <;> cases herr
  have hlist : s'.sd.patterns = s.sd.patterns := by
    rw [hsd, SdManager.insertSorted_patterns, SdManager.patternCount, closeIf_removeAt_patterns]
    exact if_pos hfull.ge
  have hzero : newIdx = some 0 := by
    rw [hidx, hlist, List.findIdx?_eq_none_iff.2 fun e he => ?_]
    · rfl
    · obtain ⟨f, -, hfree, -⟩ := Card.rename_done hrename
      refine decide_eq_false fun hname => ?_
      have hfile := h.files e he
      rw [Entry.path, hname, hfree] at hfile
      cases hfile
  refine ⟨hlist, hzero, ?_⟩
  rintro ⟨_, _, k, e, -, -, hk, hpattern, -⟩
  obtain rfl : 0 = k := Option.some.inj (hzero.symm.trans hk)
  cases hpattern

/-! A card that takes all of a manifest. -/

theorem writeLines_done {io : SdIo} {p : Path} {lines : List (Bool × List UInt8)}
    (h : ∀ line ∈ lines, 0 < line.2.length ∧ ∀ n, line.2.length ≤ io.cap (.write p n)) (f : FileId)
    (n : ℕ) (c : Card) : (writeLines io p f n lines c).2 = true := by
  induction lines generalizing n c with
  | nil => rfl
  | cons line rest ih =>
    obtain ⟨hpos, hcap⟩ := h line List.mem_cons_self
    have hrest := ih fun l hl => h l (List.mem_cons_of_mem _ hl)
    have hwhole : if line.1 then line.2.length = line.2.length else 0 < line.2.length := by
      split_ifs
      · rfl
      · exact hpos
    rw [writeLines, List.take_of_length_le (hcap n)]
    exact (congrArg Prod.snd (if_pos hwhole)).trans (hrest ..)

theorem rewrite_done {io : SdIo} {p : Path} {lines : List (Bool × List UInt8)}
    (hopen : io.ok (.openWrite p) = true)
    (h : ∀ line ∈ lines, 0 < line.2.length ∧ ∀ n, line.2.length ≤ io.cap (.write p n)) (c : Card) :
    (rewrite io p lines c).2 = true := by
  have hid : ((c.remove (io.ok (.remove p)) p).1.openWrite true p).2 ≠ none := by
    unfold Card.openWrite
    rw [if_pos rfl]
    split <;> nofun
  unfold rewrite
  dsimp only
  rw [hopen]
  split
  · next heq =>
    rw [heq] at hid
    exact absurd rfl hid
  · next c' f heq =>
    have hdone := writeLines_done h f 0 c'
    split
    · rfl
    · next heq' =>
      rw [heq'] at hdone
      cases hdone

theorem writeManifest_done {io : SdIo} {patterns : List Entry}
    (hopen : ∀ p, io.ok (.openWrite p) = true)
    (h : ∀ line ∈ manifestBin patterns ++ manifestTxt patterns,
      0 < line.2.length ∧ ∀ p n, line.2.length ≤ io.cap (.write p n)) (c : Card) :
    (writeManifest io patterns c).2 = true := by
  have hbin : (rewrite io .manifestBin (manifestBin patterns) c).2 = true :=
    rewrite_done (hopen .manifestBin) (fun line hl =>
      ⟨(h line (List.mem_append_left _ hl)).1, (h line (List.mem_append_left _ hl)).2 _⟩) c
  unfold writeManifest
  split
  · next heq =>
    rw [heq] at hbin
    cases hbin
  · exact rewrite_done (hopen .manifestTxt) (fun line hl =>
      ⟨(h line (List.mem_append_right _ hl)).1, (h line (List.mem_append_right _ hl)).2 _⟩) _

/-- A name that is free is the one a rename gives. -/
theorem candidateName_of_free {io : SdIo} {newName : Name} {c : Card}
    (h : c.exists_ (io.ok (.exists 1)) (.pattern (newName.take (patternNameByteCount - 1))) = false) :
    candidateName io newName c = newName.take (patternNameByteCount - 1) := by
  rw [candidateName, freeName, if_neg (by rw [h]; exact Bool.false_ne_true)]

/-- A rename that is made, with its manifest, succeeds. -/
theorem renamePattern_none {s : Store} {io : SdIo} {id : ℕ} {old : Entry} {newName : Name}
    (hmounted : s.sd.mounted = true) (htarget : s.sd.target id = some old)
    (hrename : (s.card.rename (io.ok .rename) old.path
      (.pattern (candidateName io newName s.card))).2 = true)
    (hwritten : ∀ c, (writeManifest io (((s.sd.closeIf id).removeAt id).insertSorted
      ⟨candidateName io newName s.card,
        if id = 0 then candidateName io newName s.card else old.origin⟩).patterns c).2 = true) :
    (s.renamePattern io id newName).2.1 = ceNone := by
  generalize hmoved : s.card.rename (io.ok .rename) old.path
      (.pattern (candidateName io newName s.card)) = r at hrename
  obtain ⟨card, ok⟩ := r
  obtain rfl : ok = true := hrename
  unfold Store.renamePattern
  rw [if_neg (by rw [hmounted]; exact Bool.false_ne_true), htarget]
  dsimp only
  rw [hmoved]
  dsimp only
  unfold Store.finish
  split
  · rfl
  · next heq =>
    have hdone := hwritten card
    rw [heq] at hdone
    cases hdone

section

local instance listingBoard : Board := ⟨.hw10_10⟩

instance (s : Store) : Decidable (TempApart s) :=
  inferInstanceAs (Decidable (∀ e ∈ s.sd.patterns, ¬ SameFile s.card e ⟨patternTempName, []⟩))

theorem sampleCard_wellFormed : sampleCard.WellFormed := by
  have hdir {p : Path} {f : FileId} (h : sampleCard.dir p = some f) :
      p = .pattern (samplePat (UInt8.ofNat (0x61 + f))) ∧ f < 3 := by
    unfold sampleCard at h
    dsimp only at h
    split_ifs at h with ha hb hc <;> cases h
    · exact ⟨ha, by decide⟩
    · exact ⟨hb, by decide⟩
    · exact ⟨hc, by decide⟩
  constructor
  · intro p q f hp hq
    rw [(hdir hp).1, (hdir hq).1]
  · intro p f hp
    exact (hdir hp).2

/-- An upload is promoted to the name of a file there is, and the first pattern deleted. -/
def listingRun : List (Change × SdIo) :=
  [(.begin_, goodIo), (.upload, goodIo), (.call (.renamePattern 0 (samplePat 0x62)), goodIo),
    (.call (.deletePattern 1), goodIo)]

set_option maxRecDepth 10000 in
theorem pattern_list_promoted :
    let s := run changeStep (.powerOn sampleCard) listingRun
    StrictSorted Entry.key s.sd.patterns ∧ s.sd.patternCount ≤ patternMaxCount ∧
      (∀ call io, Fits s (.call call, io) → KeepsOrigins s (changeStep s (.call call, io))) ∧
      (∀ id newName io, Fits s (.call (.renamePattern id newName), io) →
        let out := s.renamePattern io id newName
        out.2.1 = ceNone ∨ out.2.1 = ceManifestWriteError → ReportsPlace s out.1 id out.2.2) ∧
      ∀ io, ∀ e ∈ (changeStep s (.begin_, io)).sd.patterns, e.origin = e.name :=
  pattern_list sampleCard_wellFormed
    ⟨⟨by decide, by decide⟩, (by decide +kernel : TempApart _),
      fun _ => ⟨by decide +kernel, by decide +kernel⟩, nofun, trivial⟩

/-- `"000.pat"`, `"001.pat"` and so on. -/
def countedPat (n : ℕ) : Name :=
  [UInt8.ofNat (0x30 + n / 100), UInt8.ofNat (0x30 + n / 10 % 10), UInt8.ofNat (0x30 + n % 10),
    0x2E, 0x70, 0x61, 0x74]

def countedPats : List Name := (List.range patternMaxCount).map countedPat

/-- The file of one of these names. -/
def countedFile : Name → Option FileId
  | [a, b, c, 0x2E, 0x70, 0x61, 0x74] =>
    let n := (a.toNat - 0x30) * 100 + (b.toNat - 0x30) * 10 + (c.toNat - 0x30)
    if n < patternMaxCount ∧ countedPat n = [a, b, c, 0x2E, 0x70, 0x61, 0x74] then some n else none
  | _ => none

/-- A card with as many patterns as the list has room for, and a file to be promoted. -/
def fullCard : Card where
  key := id
  dir
    | .pattern name => if name = patternTempName then some patternMaxCount else countedFile name
    | _ => none
  content _ := []
  fresh := 257

def fullIo : SdIo := { goodIo with listing := countedPats }

theorem fullCard_file : ∀ n < patternMaxCount, fullCard.file (.pattern (countedPat n)) = some n := by
  decide +kernel

theorem fullCard_lists : Lists fullCard fullIo.listing := by
  have hinj : ∀ m ∈ List.range patternMaxCount, ∀ n ∈ List.range patternMaxCount,
      countedPat m = countedPat n → m = n := by
    intro m hm n hn heq
    have hfile := fullCard_file m (List.mem_range.1 hm)
    rw [heq, fullCard_file n (List.mem_range.1 hn)] at hfile
    exact (Option.some.inj hfile).symm
  constructor
  · intro name hname
    obtain ⟨n, hn, rfl⟩ := List.mem_map.1 hname
    rw [fullCard_file n (List.mem_range.1 hn)]
    rfl
  · change (countedPats.map id).Nodup
    rw [List.map_id]
    exact List.nodup_range.map_on hinj

/-- The lines of the manifest of a full list of such names. -/
theorem manifest_lines {patterns : List Entry} (hfull : patterns.length = patternMaxCount)
    (hmem : ∀ e ∈ patterns, e.name.length = 7 ∧ e.origin.length = 7) :
    ∀ line ∈ manifestBin patterns ++ manifestTxt patterns,
      0 < line.2.length ∧ line.2.length ≤ 1000 := by
  intro line hline
  rcases List.mem_append.1 hline with hbin | htxt
  · rw [List.mem_singleton.1 hbin, List.length_append, length_toLe]
    decide
  · rcases List.mem_append.1 htxt with hfixed | hentry
    · rw [hfull] at hfixed
      simp only [List.mem_cons, List.not_mem_nil, or_false] at hfixed
      rcases hfixed with rfl | rfl | rfl | rfl | rfl
      · decide
      · decide +kernel
      · rw [List.length_append, List.length_append, hex8, List.length_map, List.length_range]
        decide
      · decide
      · decide
    · obtain ⟨e, he, rfl⟩ := List.mem_map.1 hentry
      obtain ⟨hname, horigin⟩ := hmem e he
      simp only [List.length_append, hname, horigin]
      decide

/-- **A file that is not listed.**  The 257th pattern is promoted, and `CE_NONE` comes with place 0. -/
theorem promotion_unlisted :
    let s := (Store.powerOn fullCard).begin_ fullIo
    let out := s.renamePattern fullIo 0 (countedPat 300)
    Lists fullCard fullIo.listing ∧ out.2.1 = ceNone ∧ out.2.2 = some 0 ∧
      ¬ ReportsPlace s out.1 0 out.2.2 := by
  have hcat : Catalogue ((Store.powerOn fullCard).begin_ fullIo) := .begin_ fullCard_lists
  obtain ⟨hsame, -, hscan⟩ := begin_scans (.powerOn fullCard) fullIo
  have hmounted := begin_mounted (.powerOn fullCard) fullIo
  have hmem (e : Entry) (he : e ∈ ((Store.powerOn fullCard).begin_ fullIo).sd.patterns) :
      e.name.length = 7 ∧ e.origin.length = 7 := by
    obtain ⟨hname, -, horigin⟩ := of_mem_begin he
    obtain ⟨n, -, hn⟩ := List.mem_map.1 hname
    rw [horigin, ← hn]
    exact ⟨rfl, rfl⟩
  have hfull : ((Store.powerOn fullCard).begin_ fullIo).sd.patternCount = patternMaxCount := by
    have hcount : countedPats.countP scanned = patternMaxCount := by decide +kernel
    rw [SdManager.patternCount, hscan, if_pos (show fullIo.ok .mount = true from rfl)]
    have hroom : (SdManager.scanPatterns { SdManager.reset with mounted := true } countedPats).patternCount
        = SdManager.patternCount { SdManager.reset with mounted := true } + countedPats.countP scanned :=
      (scanPatterns_room (by rw [hcount]; decide)).1
    rw [hcount] at hroom
    exact hroom
  generalize (Store.powerOn fullCard).begin_ fullIo = s at *
  have hname : candidateName fullIo (countedPat 300) s.card = countedPat 300 :=
    candidateName_of_free (by rw [Card.exists_, hsame.file]; rfl)
  have herr : (s.renamePattern fullIo 0 (countedPat 300)).2.1 = ceNone := by
    refine renamePattern_none hmounted rfl ?_ ?_
    · rw [hname]
      exact Card.rename_free ((hsame.file _).trans rfl) ((hsame.file _).trans rfl)
    · have hlist : (((s.sd.closeIf 0).removeAt 0).insertSorted
          ⟨candidateName fullIo (countedPat 300) s.card, candidateName fullIo (countedPat 300) s.card⟩).patterns
          = s.sd.patterns := by
        rw [SdManager.insertSorted_patterns, SdManager.patternCount, closeIf_removeAt_patterns]
        exact if_pos hfull.ge
      rw [if_pos rfl, hlist]
      refine writeManifest_done (fun _ => rfl) fun line hline => ?_
      obtain ⟨hpos, hle⟩ := manifest_lines hfull hmem line hline
      exact ⟨hpos, fun _ _ => hle⟩
  exact ⟨fullCard_lists, herr, (promote_full hcat hfull (.inl herr)).2⟩

end

end Sd
end G6Arena
