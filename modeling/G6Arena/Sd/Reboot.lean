/-
# Ids after a reboot

An id is a place in the list, and the list is made twice: by the scan at boot, and by the changes
since.  Both give the same places as long as the names that are given are ones the scan takes
(`ids_survive_reboot`).  `SET_PATTERN_FILENAME` takes others too: a file that is not named `.pat`
is listed until the next boot and not after it (`id_moves_at_reboot`).

The directory is the list of the names `openNextFile` walks through (`Folder`).  What the file
system makes of a name is left open but for plain names (`Naming`).
-/

import G6Arena.Sd.Listing
import Mathlib.Data.List.Perm.Subperm

namespace G6Arena
namespace Sd

open Machine
open ControllerError
open SortedInsert (StrictSorted)

/-- What the file system makes of names: `key` is what it compares, and a file made under a name is
shown in the directory as its `label`, if it is there at all.  A plain name is kept as it is, and
no name with the extension is the one of the staging file. -/
structure Naming (key : Name → Name) (label : Name → Option Name) : Prop where
  plain : ∀ name, hasPatExtension name = true → 0x2F ∉ name → name.head? ≠ some 0x20 →
    label name = some name
  staged : label patternTempName = some patternTempName
  apart : ∀ name, hasPatExtension name = true → key name ≠ key patternTempName

/-- The store, and the directory as it is walked through. -/
structure Folder where
  store : Store
  names : List Name

/-- The name a change gives to a file. -/
def givenName (s : Store) : Change × SdIo → Option Name
  | (.call (.renamePattern _ newName), io) => some (candidateName io newName s.card)
  | (.upload, _) => some patternTempName
  | _ => none

/-- The names on a changed card: those of the files that stayed, and the one of a file that came. -/
def relist (label : Name → Option Name) (c c' : Card) (given : Option Name) (names : List Name) :
    List Name :=
  names.filter (fun n => c'.file (.pattern n) = c.file (.pattern n))
    ++ ((given.filter fun n => c'.file (.pattern n) ≠ c.file (.pattern n)
      && (c'.file (.pattern n)).isSome).bind label).toList

def folderStep [Board] (label : Name → Option Name) (d : Folder) (i : Change × SdIo) : Folder where
  store := changeStep d.store i
  names := relist label d.store.card (changeStep d.store i).card (givenName d.store i) d.names

/-- A name that the scan takes, under the name that a rename gives the file. -/
def Rescanned (io : SdIo) (c : Card) (newName : Name) : Prop :=
  let name := newName.take (patternNameByteCount - 1)
  0x2F ∉ name ∧
    if c.exists_ (io.ok (.exists 1)) (.pattern name) then
      hasPatExtension (newName.take (patternNameByteCount - 6)) = true
    else scanned name = true ∧ name.head? ≠ some 0x20

/-- A change after which the list is the one of the scan: the name given to a file is one that the
scan takes, and a promotion finds room.  A boot mounts the card and walks through its directory,
and a purge succeeds. -/
def Survives (d : Folder) : Change × SdIo → Prop
  | (.begin_, io) => io.ok .mount = true ∧ io.listing.Perm d.names
  | (.call (.renamePattern id newName), io) =>
    (id = 0 → d.store.sd.patternCount < patternMaxCount) ∧ Rescanned io d.store.card newName
  | (.call .purgeMemory, io) => io.ok .format = true
  | _ => True

/-- The list is the one of the directory. -/
structure InStep (d : Folder) : Prop where
  catalogue : Catalogue d.store
  lists : Lists d.store.card d.names
  mem : ∀ n, (∃ e ∈ d.store.sd.patterns, e.name = n) ↔ n ∈ d.names ∧ scanned n = true

/-! ### Names that are given -/

theorem hasPatExtension_append {p name : Name} (h : hasPatExtension name = true) :
    hasPatExtension (p ++ name) = true := by
  have hlen : 4 ≤ name.length := by
    by_contra hshort
    have hdrop : name.length - 4 = 0 := by omega
    unfold hasPatExtension at h
    rw [hdrop, List.drop_zero] at h
    split at h
    · exact hshort (le_refl 4)
    · cases h
  have hdrop : (p ++ name).drop ((p ++ name).length - 4) = name.drop (name.length - 4) := by
    have hindex : (p ++ name).length - 4 - p.length = name.length - 4 := by
      rw [List.length_append]
      omega
    rw [List.drop_append, hindex, List.drop_eq_nil_of_le, List.nil_append]
    rw [List.length_append]
    omega
  unfold hasPatExtension at h ⊢
  rw [hdrop]
  exact h

theorem scanned_iff {name : Name} : scanned name = true ↔
    name.head? ≠ some 0x2E ∧ hasPatExtension name = true ∧ name.length < patternNameByteCount := by
  unfold scanned
  rw [decide_eq_true_eq]

/-- The name that was asked for, or one with a number. -/
theorem freeName_cases (io : SdIo) (newName : Name) (c : Card) {n : ℕ} (hn : n ≤ 999)
    (candidate : Name) : freeName io newName c n candidate = candidate ∨
      ∃ k, k ≤ 999 ∧ freeName io newName c n candidate = numbered k newName := by
  induction n generalizing candidate with
  | zero => exact .inl rfl
  | succ n ih =>
    rw [freeName]
    split_ifs
    · rcases ih (by omega) (numbered (999 - n) newName) with h | h
      · exact .inr ⟨999 - n, by omega, h⟩
      · exact .inr h
    · exact .inl rfl

/-- The name with a number is scanned if what is left of the one that was asked for has the
extension. -/
theorem numbered_scanned {k : ℕ} (hk : k ≤ 999) {newName : Name}
    (hext : hasPatExtension (newName.take (patternNameByteCount - 6)) = true)
    (hplain : 0x2F ∉ newName.take (patternNameByteCount - 1)) :
    scanned (numbered k newName) = true ∧ 0x2F ∉ numbered k newName ∧
      (numbered k newName).head? ≠ some 0x20 := by
  have heq : numbered k newName = [0x58, UInt8.ofNat (0x30 + k / 100),
      UInt8.ofNat (0x30 + k / 10 % 10), UInt8.ofNat (0x30 + k % 10), 0x5F]
        ++ newName.take (patternNameByteCount - 6) := rfl
  have hlen : (newName.take (patternNameByteCount - 6)).length ≤ patternNameByteCount - 6 :=
    List.length_take_le ..
  have hdigit : ∀ d ≤ 9, (0x2F : UInt8) ≠ UInt8.ofNat (0x30 + d) := by decide
  refine ⟨scanned_iff.2 ⟨?_, ?_, ?_⟩, ?_, ?_⟩
  · rw [heq]
    exact fun h => absurd (Option.some.inj h) (by decide)
  · rw [heq]
    exact hasPatExtension_append hext
  · rw [heq, List.length_append]
    exact Nat.lt_of_le_of_lt (Nat.add_le_add_left hlen 5) (by decide)
  · rw [heq]
    intro hmem
    rcases List.mem_append.1 hmem with hmem | hmem
    · simp only [List.mem_cons, List.not_mem_nil, or_false] at hmem
      rcases hmem with h | h | h | h | h
      · cases h
      · exact hdigit _ (by omega) h
      · exact hdigit _ (by omega) h
      · exact hdigit _ (by omega) h
      · cases h
    · have hsub : newName.take (patternNameByteCount - 6) <+: newName.take (patternNameByteCount - 1) :=
        List.take_prefix_take_left (by decide)
      exact hplain (hsub.subset hmem)
  · rw [heq]
    exact fun h => absurd (Option.some.inj h) (by decide)

/-- **The name a rename gives** is scanned, and kept by the file system. -/
theorem candidate_scanned {key : Name → Name} {label : Name → Option Name} (hn : Naming key label)
    {io : SdIo} {c : Card} {newName : Name} (h : Rescanned io c newName) :
    scanned (candidateName io newName c) = true ∧
      label (candidateName io newName c) = some (candidateName io newName c) := by
  obtain ⟨hplain, hname⟩ := h
  have hkept (name : Name) (hscanned : scanned name = true) (hslash : 0x2F ∉ name)
      (hblank : name.head? ≠ some 0x20) : scanned name = true ∧ label name = some name :=
    ⟨hscanned, hn.plain name (scanned_iff.1 hscanned).2.1 hslash hblank⟩
  split_ifs at hname with htaken
  · rw [candidateName, freeName, if_pos htaken]
    rcases freeName_cases io newName c (n := 998) (by omega) (numbered (999 - 998) newName) with
      heq | ⟨k, hk, heq⟩
    · rw [heq]
      obtain ⟨hscanned, hslash, hblank⟩ := numbered_scanned (k := 999 - 998) (by omega) hname hplain
      exact hkept _ hscanned hslash hblank
    · rw [heq]
      obtain ⟨hscanned, hslash, hblank⟩ := numbered_scanned hk hname hplain
      exact hkept _ hscanned hslash hblank
  · rw [candidateName_of_free (Bool.not_eq_true _ ▸ htaken)]
    exact hkept _ hname.1 hplain hname.2

/-! ### The directory after a change -/

section

variable {label : Name → Option Name} {c c' : Card} {given : Option Name} {names : List Name}

theorem mem_relist (hlabel : ∀ g ∈ given, label g = some g) {n : Name} :
    n ∈ relist label c c' given names ↔
      n ∈ names ∧ c'.file (.pattern n) = c.file (.pattern n) ∨
        n ∈ given ∧ c'.file (.pattern n) ≠ c.file (.pattern n) ∧ (c'.file (.pattern n)).isSome := by
  rw [relist, List.mem_append, List.mem_filter, decide_eq_true_eq, Option.mem_toList]
  refine or_congr Iff.rfl ?_
  cases given with
  | none => exact ⟨nofun, nofun⟩
  | some g =>
    have hg := hlabel g rfl
    rw [Option.filter_some]
    split_ifs with hnew
    · rw [Bool.and_eq_true, decide_eq_true_eq] at hnew
      rw [Option.bind_some, hg]
      constructor
      · rintro h
        obtain rfl := Option.some.inj h
        exact ⟨rfl, hnew⟩
      · exact fun h => h.1
    · rw [Bool.and_eq_true, decide_eq_true_eq] at hnew
      refine ⟨nofun, ?_⟩
      rintro ⟨h, hnew'⟩
      obtain rfl := Option.some.inj h
      exact absurd hnew' hnew

theorem Lists.relist (h : Lists c names) (hkey : c'.key = c.key)
    (hlabel : ∀ g ∈ given, label g = some g) : Lists c' (relist label c c' given names) := by
  constructor
  · intro n hn
    rcases (mem_relist hlabel).1 hn with ⟨hn, hsame⟩ | ⟨-, -, hsome⟩
    · rw [hsame]
      exact h.files n hn
    · exact hsome
  · rw [hkey, Sd.relist, List.map_append, List.nodup_append]
    refine ⟨List.Nodup.sublist (List.Sublist.map _ List.filter_sublist) h.single, ?_, ?_⟩
    · cases ((given.filter _).bind label) with
      | none => exact List.nodup_nil
      | some g => exact List.nodup_singleton _
    · intro k hk k' hk' heq
      obtain ⟨n, hn, rfl⟩ := List.mem_map.1 hk
      obtain ⟨g, hg, rfl⟩ := List.mem_map.1 hk'
      -- a file that came is not one that stayed
      rw [List.mem_filter, decide_eq_true_eq] at hn
      have hcame : g ∈ Sd.relist label c c' given [] := List.mem_append_right _ hg
      rcases (mem_relist hlabel).1 hcame with ⟨hnil, -⟩ | ⟨-, hne, -⟩
      · cases hnil
      · have hentry : c.entry (.pattern n) = c.entry (.pattern g) := congrArg Path.pattern heq
        have hentry' : c'.entry (.pattern n) = c'.entry (.pattern g) := by
          rw [Card.entry_eq_of_key hkey, Card.entry_eq_of_key hkey, hentry]
        rw [← Card.file_congr hentry, ← Card.file_congr hentry'] at hne
        exact hne hn.2

/-- Where every file stays, so do the names. -/
theorem relist_same (hsame : ∀ n, c'.file (.pattern n) = c.file (.pattern n)) :
    relist label c c' given names = names := by
  have hkept : names.filter (fun n => c'.file (.pattern n) = c.file (.pattern n)) = names :=
    List.filter_eq_self.2 fun n _ => decide_eq_true (hsame n)
  have hcame : (given.filter fun n => c'.file (.pattern n) ≠ c.file (.pattern n)
      && (c'.file (.pattern n)).isSome) = none := by
    rw [Option.filter_eq_none_iff]
    intro n _
    rw [decide_eq_false (not_not.2 (hsame n)), Bool.false_and]
    exact Bool.false_ne_true
  rw [relist, hkept, hcame]
  exact List.append_nil _

end

/-! ### One change -/

section

variable {label : Name → Option Name} {d : Folder} {s' : Store} {io : SdIo} {id : ℕ}

/-- The places of the list are those of the directory after a change. -/
def MemKept (label : Name → Option Name) (d : Folder) (s' : Store) (given : Option Name) : Prop :=
  ∀ n, (∃ e ∈ s'.sd.patterns, e.name = n) ↔
    n ∈ relist label d.store.card s'.card given d.names ∧ scanned n = true

namespace InStep

/-- A listed name is one that the scan takes. -/
theorem scanned (h : InStep d) {e : Entry} (he : e ∈ d.store.sd.patterns) :
    e.name ∈ d.names ∧ Sd.scanned e.name = true := (h.mem e.name).1 ⟨e, he, rfl⟩

theorem tempApart (h : InStep d) (hn : Naming d.store.card.key label) : TempApart d.store :=
  fun _ he hsame => hn.apart _ (scanned_iff.1 (h.scanned he).2).2.1 (Path.pattern.inj hsame)

/-- A change that lists no file anew: the entries that stay are those whose file does. -/
theorem mem_drops (h : InStep d) {given : Option Name} (hlabel : ∀ g ∈ given, label g = some g)
    (hgiven : ∀ g ∈ given, Sd.scanned g = false) (hdrops : Drops d.store s')
    (hback : ∀ e ∈ d.store.sd.patterns, s'.card.file e.path = d.store.card.file e.path →
      e ∈ s'.sd.patterns) : MemKept label d s' given := by
  intro n
  rw [mem_relist hlabel]
  constructor
  · rintro ⟨e, he, rfl⟩
    obtain ⟨hname, hscanned⟩ := h.scanned (hdrops.sublist.subset he)
    exact ⟨.inl ⟨hname, hdrops.file e he⟩, hscanned⟩
  · rintro ⟨⟨hname, hsame⟩ | ⟨hg, -⟩, hscanned⟩
    · obtain ⟨e, he, rfl⟩ := (h.mem n).2 ⟨hname, hscanned⟩
      exact ⟨e, hback e he hsame, rfl⟩
    · rw [hgiven n hg] at hscanned
      cases hscanned

theorem mem_same (h : InStep d) {given : Option Name} (hlist : s'.sd.patterns = d.store.sd.patterns)
    (hcard : s'.card = d.store.card) : MemKept label d s' given := by
  intro n
  rw [relist_same fun _ => by rw [hcard], hlist]
  exact h.mem n

theorem deletePattern (h : InStep d) (hn : Naming d.store.card.key label) {err : ControllerError}
    (hcall : d.store.deletePattern io id = (s', err)) : MemKept label d s' none := by
  have hdrops := deletePattern_drops h.catalogue (fun _ => h.tempApart hn) hcall
  rcases Store.deletePattern_cases hcall with
    ⟨rfl, -⟩ | ⟨old, htarget, ⟨rfl, -⟩ | ⟨hremove, hsame, hsd, -⟩⟩
  · exact h.mem_same rfl rfl
  · exact h.mem_same SdManager.closeIf_patterns rfl
  · refine h.mem_drops nofun nofun hdrops fun e he hfile => ?_
    rw [hsd, closeIf_removeAt_patterns]
    refine (mem_removeAt h.catalogue.strict.nodup htarget).2 ⟨he, fun _ => ?_⟩
    rintro rfl
    have hgone : s'.card.file e.path = none := (hsame.file _).trans (Card.file_remove hremove)
    have hsome := Card.remove_done hremove
    rw [← hfile, hgone] at hsome
    cases hsome

theorem purgeMemory (h : InStep d) (hformat : io.ok .format = true) {err : ControllerError}
    (hcall : d.store.purgeMemory io = (s', err)) : MemKept label d s' none := by
  have hdrops := purgeMemory_drops (fun hfail => absurd (hfail.symm.trans hformat) Bool.false_ne_true)
    hcall
  rcases Store.purgeMemory_cases hcall with ⟨rfl, -⟩ | ⟨-, hsame, ⟨-, -, hfail⟩ | ⟨-, -⟩⟩
  · exact h.mem_same rfl rfl
  · rw [hformat] at hfail
    cases hfail
  · refine h.mem_drops nofun nofun hdrops fun e he hfile => ?_
    have hgone : s'.card.file e.path = none := by
      rw [Entry.path, hsame.file, Card.format, if_pos hformat]
      rfl
    have hsome := h.catalogue.files e he
    rw [← hfile, hgone] at hsome
    cases hsome

theorem upload (h : InStep d) (hn : Naming d.store.card.key label) :
    MemKept label d { d.store with card := uploadTemp io d.store.card } (some patternTempName) := by
  refine h.mem_drops ?_ ?_ (upload_drops h.catalogue (h.tempApart hn)) fun e he _ => he
  · rintro g hg
    obtain rfl := Option.some.inj hg
    exact hn.staged
  · rintro g hg
    obtain rfl := Option.some.inj hg
    decide

theorem renamePattern (h : InStep d) (hn : Naming d.store.card.key label) {newName : Name}
    (hroom : id = 0 → d.store.sd.patternCount < patternMaxCount)
    (hname : Rescanned io d.store.card newName) {err : ControllerError} {newIdx : Option ℕ}
    (hcall : d.store.renamePattern io id newName = (s', err, newIdx)) :
    MemKept label d s' (some (candidateName io newName d.store.card)) := by
  rcases Store.renamePattern_cases hcall with
    ⟨rfl, -⟩ | ⟨old, htarget, ⟨rfl, -⟩ | ⟨hrename, hsame, hsd, -⟩⟩
  · exact h.mem_same rfl rfl
  · exact h.mem_same SdManager.closeIf_patterns rfl
  obtain ⟨hscanned, hlabel⟩ := candidate_scanned hn hname
  obtain ⟨f, hold, hfree, hnew, hrest⟩ := Card.rename_done hrename
  have hlist : s'.sd.patterns = SortedInsert.insert Entry.key ⟨candidateName io newName d.store.card,
      if id = 0 then candidateName io newName d.store.card else old.origin⟩
      (d.store.sd.removeAt id).patterns := by
    rw [hsd, SdManager.insertSorted_patterns, SdManager.patternCount, closeIf_removeAt_patterns]
    exact if_neg (Nat.not_le.2 (h.catalogue.room htarget hroom))
  generalize candidateName io newName d.store.card = name at *
  have hother {r : Path} (hr : (d.store.card.file r).isSome) :
      d.store.card.entry r ≠ d.store.card.entry (.pattern name) := fun heq => by
    rw [Card.file_congr heq, hfree] at hr
    cases hr
  intro n
  rw [mem_relist (fun g hg => by rwa [← Option.some.inj hg]), hlist]
  constructor
  · rintro ⟨e, he, rfl⟩
    rcases SortedInsert.mem_insert.1 he with rfl | he
    · refine ⟨.inr ⟨rfl, ?_⟩, hscanned⟩
      rw [hsame.file, hnew, hfree]
      exact ⟨fun hnone => absurd hnone (Option.some_ne_none f), rfl⟩
    · obtain ⟨hmem, hapart⟩ := h.catalogue.apart htarget (fun _ => h.tempApart hn) he
      obtain ⟨hmem', hscan⟩ := h.scanned hmem
      have hstays := (hrest e.path (hother (h.catalogue.files e hmem))).trans (if_neg hapart)
      exact ⟨.inl ⟨hmem', (hsame.file _).trans hstays⟩, hscan⟩
  · rintro ⟨⟨hmem, hfile⟩ | ⟨hg, -⟩, hscan⟩
    · obtain ⟨e, he, rfl⟩ := (h.mem n).2 ⟨hmem, hscan⟩
      refine ⟨e, SortedInsert.mem_insert.2 (.inr ?_), rfl⟩
      refine (mem_removeAt h.catalogue.strict.nodup htarget).2 ⟨he, fun _ => ?_⟩
      rintro rfl
      have hgone := hrest e.path (hother (Option.isSome_iff_exists.2 ⟨f, hold⟩))
      rw [if_pos rfl] at hgone
      rw [hsame.file] at hfile
      cases (hgone.symm.trans hfile).trans hold
    · obtain rfl := Option.some.inj hg
      exact ⟨_, SortedInsert.mem_insert.2 (.inl rfl), rfl⟩

/-- The scan finds no more names than the list has. -/
theorem count (h : InStep d) : d.names.countP Sd.scanned ≤ patternMaxCount := by
  have hnodup : (d.names.filter Sd.scanned).Nodup := h.lists.nodup.filter _
  have hsub : d.names.filter Sd.scanned ⊆ d.store.sd.patterns.map Entry.name := by
    intro n hn
    rw [List.mem_filter] at hn
    obtain ⟨e, he, rfl⟩ := (h.mem n).2 hn
    exact List.mem_map_of_mem he
  have hle := (List.Nodup.subperm hnodup hsub).length_le
  rw [List.length_map] at hle
  rw [List.countP_eq_length_filter]
  exact hle.trans h.catalogue.bound

end InStep

/-- A boot lists what the scan takes. -/
theorem begin_mem {s : Store} {names : List Name} (hmount : io.ok .mount = true)
    (hperm : io.listing.Perm names) (hroom : names.countP scanned ≤ patternMaxCount) (n : Name) :
    (∃ e ∈ (s.begin_ io).sd.patterns, e.name = n) ↔ n ∈ names ∧ scanned n = true := by
  constructor
  · rintro ⟨e, he, rfl⟩
    obtain ⟨hmem, hscanned, -⟩ := of_mem_begin he
    exact ⟨hperm.mem_iff.1 hmem, hscanned⟩
  · rintro ⟨hmem, hscanned⟩
    rw [(begin_scans s io).2.2, if_pos hmount]
    refine ⟨⟨n, n⟩, (scanPatterns_room ?_).2.2 n (hperm.mem_iff.2 hmem) hscanned, rfl⟩
    rw [hperm.countP_eq]
    exact (Nat.zero_add _).trans_le hroom

theorem begin_inStep {s : Store} {names : List Name} (hmount : io.ok .mount = true)
    (hlists : Lists s.card names) (hperm : io.listing.Perm names)
    (hroom : names.countP scanned ≤ patternMaxCount) : InStep ⟨s.begin_ io, names⟩ := by
  obtain ⟨hsame, -⟩ := begin_scans s io
  have hwalk : Lists s.card io.listing :=
    ⟨fun n hn => hlists.files n (hperm.mem_iff.1 hn), (hperm.map _).nodup_iff.2 hlists.single⟩
  refine ⟨.begin_ hwalk, ⟨fun n hn => ?_, ?_⟩, begin_mem hmount hperm hroom⟩
  · rw [hsame.file]
    exact hlists.files n hn
  · rw [hsame.key]
    exact hlists.single

variable [Board] {i : Change × SdIo}

theorem changeStep_key (s : Store) (i : Change × SdIo) : (changeStep s i).card.key = s.card.key := by
  obtain ⟨change, io⟩ := i
  cases change with
  | begin_ => exact (begin_scans s io).1.key
  | upload => exact (Card.openWrite_key _).trans (Card.remove_key _)
  | call call =>
    cases call with
    | openPattern id => exact congrArg Card.key (openPattern_list s io id).2
    | setLegacySeek on => rfl
    | renamePattern id newName =>
      rcases Store.renamePattern_cases (Prod.mk.eta (p := s.renamePattern io id newName)).symm with
        ⟨h, -⟩ | ⟨old, -, ⟨h, -⟩ | ⟨-, hsame, -⟩⟩
      · exact congrArg (·.card.key) h
      · exact congrArg (·.card.key) h
      · exact hsame.key.trans (Card.rename_key _)
    | deletePattern id =>
      rcases Store.deletePattern_cases (Prod.mk.eta (p := s.deletePattern io id)).symm with
        ⟨h, -⟩ | ⟨old, -, ⟨h, -⟩ | ⟨-, hsame, -⟩⟩
      · exact congrArg (·.card.key) h
      · exact congrArg (·.card.key) h
      · exact hsame.key.trans (Card.remove_key _)
    | purgeMemory =>
      rcases Store.purgeMemory_cases (Prod.mk.eta (p := s.purgeMemory io)).symm with
        ⟨h, -⟩ | ⟨-, hsame, -⟩
      · exact congrArg (·.card.key) h
      · exact hsame.key.trans (Card.format_key io)

omit [Board] in
/-- A change after which the list is the one of the scan fits the list. -/
theorem InStep.fits (h : InStep d) (hn : Naming d.store.card.key label) (hs : Survives d i) :
    Fits d.store i := by
  have htemp := h.tempApart hn
  obtain ⟨change, io⟩ := i
  cases change with
  | begin_ =>
    obtain ⟨-, hperm⟩ := hs
    exact ⟨fun n hmem => h.lists.files n (hperm.mem_iff.1 hmem),
      (hperm.map _).nodup_iff.2 h.lists.single⟩
  | upload => exact htemp
  | call call =>
    cases call with
    | openPattern id => trivial
    | setLegacySeek on => trivial
    | renamePattern id newName => exact fun hid => ⟨hs.1 hid, htemp⟩
    | deletePattern id => exact fun _ => htemp
    | purgeMemory => exact fun hfail => absurd (hfail.symm.trans hs) Bool.false_ne_true

/-- **One change.** -/
theorem InStep.step (h : InStep d) (hcard : d.store.card.WellFormed)
    (hn : Naming d.store.card.key label) (hs : Survives d i) : InStep (folderStep label d i) := by
  have hcat := h.catalogue.step hcard (h.fits hn hs)
  have hkey := changeStep_key d.store i
  obtain ⟨change, io⟩ := i
  cases change with
  | begin_ =>
    obtain ⟨hmount, hperm⟩ := hs
    have hnames : (folderStep label d (.begin_, io)).names = d.names :=
      relist_same (begin_scans d.store io).1.file
    have hbegin : InStep ⟨d.store.begin_ io, d.names⟩ := begin_inStep hmount h.lists hperm h.count
    rw [← hnames] at hbegin
    exact hbegin
  | upload =>
    refine ⟨hcat, h.lists.relist hkey fun g hg => ?_, h.upload hn⟩
    obtain rfl := Option.some.inj hg
    exact hn.staged
  | call call =>
    cases call with
    | openPattern id =>
      obtain ⟨hlist, hsame⟩ := openPattern_list d.store io id
      exact ⟨hcat, h.lists.relist hkey nofun, h.mem_same hlist hsame⟩
    | setLegacySeek on => exact ⟨hcat, h.lists.relist hkey nofun, h.mem_same rfl rfl⟩
    | renamePattern id newName =>
      refine ⟨hcat, h.lists.relist hkey fun g hg => ?_,
        h.renamePattern hn hs.1 hs.2 (Prod.mk.eta (p := d.store.renamePattern io id newName)).symm⟩
      obtain rfl := Option.some.inj hg
      exact (candidate_scanned hn hs.2).2
    | deletePattern id =>
      exact ⟨hcat, h.lists.relist hkey nofun,
        h.deletePattern hn (Prod.mk.eta (p := d.store.deletePattern io id)).symm⟩
    | purgeMemory =>
      exact ⟨hcat, h.lists.relist hkey nofun,
        h.purgeMemory hs (Prod.mk.eta (p := d.store.purgeMemory io)).symm⟩

end

/-! ### Runs -/

section

variable [Board] {label : Name → Option Name} {card : Card} {names : List Name} {boot : SdIo}
  {changes : List (Change × SdIo)}

omit [Board] in
/-- The list a boot makes from the directory it is in step with. -/
theorem InStep.begin_names {d : Folder} (h : InStep d) {io : SdIo} (hmount : io.ok .mount = true)
    (hperm : io.listing.Perm d.names) (s : Store) (hcard : s.card = d.store.card) :
    (s.begin_ io).sd.patterns.map Entry.name = d.store.sd.patterns.map Entry.name := by
  have hlists : Lists s.card d.names := hcard ▸ h.lists
  have hboot : InStep ⟨s.begin_ io, d.names⟩ := begin_inStep hmount hlists hperm h.count
  have hstrict {s : Store} (hs : Catalogue s) : StrictSorted nameKey (s.sd.patterns.map Entry.name) :=
    List.pairwise_map.2 hs.strict
  refine (hstrict hboot.catalogue).ext (hstrict h.catalogue) fun n => ?_
  rw [List.mem_map, List.mem_map]
  exact (hboot.mem n).trans (h.mem n).symm

/-- **Ids survive a reboot.**  In a run whose changes give names that the scan takes, a boot from the
directory as it is makes the list there is, and each id is that of the file it was. -/
theorem ids_survive_reboot (hcard : card.WellFormed) (hn : Naming card.key label)
    (hlists : Lists card names) (hroom : names.countP scanned ≤ patternMaxCount)
    (hmount : boot.ok .mount = true) (hperm : boot.listing.Perm names)
    (h : Along (folderStep label) Survives ⟨(Store.powerOn card).begin_ boot, names⟩ changes) :
    let d := run (folderStep label) ⟨(Store.powerOn card).begin_ boot, names⟩ changes
    ∀ io, io.ok .mount = true → io.listing.Perm d.names →
      let s' := (Store.powerOn d.store.card).begin_ io
      s'.sd.patterns.map Entry.name = d.store.sd.patterns.map Entry.name ∧
        ∀ id, (s'.sd.pattern? id).map (fun e => s'.card.file e.path)
          = (d.store.sd.pattern? id).map (fun e => d.store.card.file e.path) := by
  obtain ⟨hsame, hkept, -⟩ := begin_scans (.powerOn card) boot
  have hstart : InStep ⟨(Store.powerOn card).begin_ boot, names⟩ := begin_inStep hmount hlists hperm hroom
  have hinv := run_inv (I := fun d => InStep d ∧ d.store.card.WellFormed ∧ d.store.card.key = card.key)
    (fun d i hinv hs => ?_) ⟨hstart, hkept.wellFormed hcard, hsame.key⟩ h
  · intro d io hboot hwalk
    obtain ⟨hin, -, -⟩ := hinv
    have hnames := hin.begin_names hboot hwalk (.powerOn d.store.card) rfl
    have hsame' := (begin_scans (.powerOn d.store.card) io).1
    refine ⟨hnames, fun id => ?_⟩
    have hpattern (s : Store) (id : ℕ) : (s.sd.pattern? id).map Entry.name
        = if id = 0 then none else (s.sd.patterns.map Entry.name)[id - 1]? := by
      unfold SdManager.pattern?
      split_ifs
      · rfl
      · exact (List.getElem?_map ..).symm
    have hid : (((Store.powerOn d.store.card).begin_ io).sd.pattern? id).map Entry.name
        = (d.store.sd.pattern? id).map Entry.name := by
      rw [hpattern, hpattern, hnames]
    have hfile := congrArg (Option.map fun n => d.store.card.file (.pattern n)) hid
    rw [Option.map_map, Option.map_map] at hfile
    refine Eq.trans ?_ hfile
    refine congrArg (Option.map · _) (funext fun e => ?_)
    exact hsame'.file e.name
  · obtain ⟨hin, hfiles, hkey⟩ := hinv
    exact ⟨hin.step hfiles (hkey ▸ hn) hs, (changeStep_files d.store i).wellFormed hfiles,
      (changeStep_key d.store i).trans hkey⟩

end

/-! ### A name that the scan leaves out -/

section

local instance rebootBoard : Board := ⟨.hw10_10⟩

instance (io : SdIo) (c : Card) (newName : Name) : Decidable (Rescanned io c newName) :=
  inferInstanceAs (Decidable (_ ∧ ite _ _ _))

theorem plainNaming : Naming id some := by
  refine ⟨fun _ _ _ _ => rfl, rfl, ?_⟩
  rintro name hext rfl
  cases hext

/-- `"X001_b.pat"`. -/
def secondName : Name := numbered 1 (samplePat 0x62)

/-- An upload is promoted to the name of a file there is, and the first pattern deleted. -/
def stagedRun : List (Change × SdIo) :=
  [(.upload, goodIo), (.call (.renamePattern 0 (samplePat 0x62)), goodIo),
    (.call (.deletePattern 2), goodIo)]

def stagedIo : SdIo := { goodIo with listing := [samplePat 0x63, samplePat 0x62, secondName] }

set_option maxRecDepth 10000 in
theorem stagedRun_survives : Along (folderStep some) Survives
    ⟨(Store.powerOn sampleCard).begin_ goodIo, goodIo.listing⟩ stagedRun :=
  ⟨trivial, ⟨fun _ => by decide +kernel, by decide +kernel⟩, trivial, trivial⟩

set_option maxRecDepth 10000 in
theorem ids_survive_reboot_staged :
    let d := run (folderStep some) ⟨(Store.powerOn sampleCard).begin_ goodIo, goodIo.listing⟩ stagedRun
    let s' := (Store.powerOn d.store.card).begin_ stagedIo
    s'.sd.patterns.map Entry.name = d.store.sd.patterns.map Entry.name ∧
      ∀ id, (s'.sd.pattern? id).map (fun e => s'.card.file e.path)
        = (d.store.sd.pattern? id).map (fun e => d.store.card.file e.path) :=
  ids_survive_reboot sampleCard_wellFormed plainNaming ⟨by decide, by decide⟩ (by decide) rfl
    (List.Perm.refl _) stagedRun_survives stagedIo rfl (by decide +kernel)

set_option maxRecDepth 10000 in
/-- **An id that moves at a reboot.**  A file promoted to the name `a` is the first of the list, and
not listed after the next boot. -/
theorem id_moves_at_reboot :
    let d := run (folderStep some) ⟨(Store.powerOn sampleCard).begin_ goodIo, goodIo.listing⟩
      [(.upload, goodIo), (.call (.renamePattern 0 [0x61]), goodIo)]
    let s' := (Store.powerOn d.store.card).begin_ { goodIo with listing := d.names }
    (d.store.sd.pattern? 1).map Entry.name = some [0x61] ∧
      (s'.sd.pattern? 1).map Entry.name = some (samplePat 0x61) := by
  decide +kernel

end

end Sd
end G6Arena
