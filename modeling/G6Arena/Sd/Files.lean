/-
# Files and handles

What the operations on a card leave of the files on it.  On a card that is `WellFormed` every
entry of the directory has a file of its own, below `fresh`.  A file only ever grows (`Grows`),
removed or not, so that a handle goes on reading what it read before; and a pattern's is left alone
by a change of the manifest or of the firmware (`Spared`).
-/

import G6Arena.Sd.Calls
import Mathlib.Data.List.Infix

namespace G6Arena
namespace Sd

namespace Card

/-! ### The directory -/

/-- Every entry of the directory has a file of its own. -/
structure WellFormed (c : Card) : Prop where
  single : ∀ {p q : Path} {id : FileId}, c.dir p = some id → c.dir q = some id → p = q
  below : ∀ {p : Path} {id : FileId}, c.dir p = some id → id < c.fresh

variable {c : Card} {p q : Path}

/-- A directory with entries taken away. -/
theorem WellFormed.sub {c' : Card} (h : c.WellFormed) (hfresh : c.fresh ≤ c'.fresh)
    (hdir : ∀ p, c'.dir p = c.dir p ∨ c'.dir p = none) : c'.WellFormed := by
  have hold {p : Path} {id : FileId} (hp : c'.dir p = some id) : c.dir p = some id := by
    rcases hdir p with heq | hnone
    · rw [← heq, hp]
    · rw [hnone] at hp
      cases hp
  exact ⟨fun hp hq => h.single (hold hp) (hold hq), fun hp => (h.below (hold hp)).trans_le hfresh⟩

theorem WellFormed.remove (h : c.WellFormed) (ok : Bool) (p : Path) : (c.remove ok p).1.WellFormed := by
  refine h.sub (remove_fresh ok).ge fun q => ?_
  unfold Card.remove
  split_ifs
  · by_cases hq : q = c.entry p
    · exact .inr (by rw [hq]; exact Function.update_self ..)
    · exact .inl (Function.update_of_ne hq ..)
  · exact .inl rfl

theorem WellFormed.format (h : c.WellFormed) (io : SdIo) : (c.format io).1.WellFormed := by
  unfold Card.format
  split_ifs
  · exact h.sub le_rfl fun _ => .inr rfl
  · refine h.sub le_rfl fun p => ?_
    dsimp only
    split_ifs
    · exact .inl rfl
    · exact .inr rfl

theorem WellFormed.append (h : c.WellFormed) (id : FileId) (bytes : List UInt8) :
    (c.append id bytes).WellFormed := ⟨h.single, h.below⟩

/-- One more entry, for a file that had none. -/
theorem WellFormed.insert {c' : Card} (h : c.WellFormed) {id : FileId}
    (hid : ∀ q, c.dir q ≠ some id) (hfresh : c.fresh ≤ c'.fresh) (hbelow : id < c'.fresh)
    (hdir : c'.dir = Function.update c.dir p (some id)) : c'.WellFormed := by
  have hcases {q : Path} {j : FileId} (hq : c'.dir q = some j) :
      (q = p ∧ j = id) ∨ (q ≠ p ∧ c.dir q = some j) := by
    rw [hdir] at hq
    by_cases hqp : q = p
    · rw [hqp, Function.update_self] at hq
      exact .inl ⟨hqp, (Option.some.inj hq).symm⟩
    · rw [Function.update_of_ne hqp] at hq
      exact .inr ⟨hqp, hq⟩
  constructor
  · intro q r j hq hr
    rcases hcases hq with ⟨rfl, rfl⟩ | ⟨-, hq⟩
    · rcases hcases hr with ⟨rfl, -⟩ | ⟨-, hr⟩
      · rfl
      · exact absurd hr (hid r)
    · rcases hcases hr with ⟨-, rfl⟩ | ⟨-, hr⟩
      · exact absurd hq (hid q)
      · exact h.single hq hr
  · intro q j hq
    rcases hcases hq with ⟨-, rfl⟩ | ⟨-, hq⟩
    · exact hbelow
    · exact (h.below hq).trans_le hfresh

theorem WellFormed.openWrite (h : c.WellFormed) (ok : Bool) (p : Path) :
    (c.openWrite ok p).1.WellFormed := by
  unfold Card.openWrite
  split_ifs
  · split
    · exact h
    · have hnew (q : Path) : c.dir q ≠ some c.fresh := fun hq => absurd (h.below hq) (lt_irrefl _)
      exact h.insert hnew (Nat.le_succ _) (Nat.lt_succ_self _) rfl
  · exact h

theorem WellFormed.rename (h : c.WellFormed) (ok : Bool) (p q : Path) :
    (c.rename ok p q).1.WellFormed := by
  unfold Card.rename
  split
  · next id hp _ =>
    split_ifs
    · have hsub : ({ c with dir := Function.update c.dir (c.entry p) none } : Card).WellFormed := by
        refine h.sub le_rfl fun r => ?_
        by_cases hr : r = c.entry p
        · exact .inr (by rw [hr]; exact Function.update_self ..)
        · exact .inl (Function.update_of_ne hr ..)
      refine hsub.insert (fun r hr => ?_) le_rfl (h.below hp) rfl
      by_cases hrp : r = c.entry p
      · rw [hrp] at hr
        change Function.update c.dir (c.entry p) none (c.entry p) = _ at hr
        rw [Function.update_self] at hr
        cases hr
      · change Function.update c.dir (c.entry p) none r = _ at hr
        rw [Function.update_of_ne hrp] at hr
        exact hrp (h.single hr hp)
    · exact h
  · exact h

/-! ### Contents -/

/-- The files there were have only grown. -/
structure Grows (c c' : Card) : Prop where
  fresh : c.fresh ≤ c'.fresh
  content : ∀ id, id < c.fresh → c.content id <+: c'.content id

theorem Grows.refl (c : Card) : Grows c c := ⟨le_rfl, fun _ _ => List.prefix_rfl⟩

theorem Grows.trans {c' c'' : Card} (h : Grows c c') (h' : Grows c' c'') : Grows c c'' :=
  ⟨h.fresh.trans h'.fresh,
    fun id hid => (h.content id hid).trans (h'.content id (hid.trans_le h.fresh))⟩

/-- Nothing is written. -/
theorem Grows.of_eq {c' : Card} (hfresh : c'.fresh = c.fresh) (hcontent : c'.content = c.content) :
    Grows c c' := ⟨hfresh.ge, fun _ _ => by rw [hcontent]⟩

theorem remove_grows (ok : Bool) (p : Path) (c : Card) : Grows c (c.remove ok p).1 :=
  .of_eq (remove_fresh ok) (remove_content ok)

theorem rename_grows (ok : Bool) (p q : Path) (c : Card) : Grows c (c.rename ok p q).1 :=
  .of_eq (rename_fresh ok) (rename_content ok)

theorem format_grows (io : SdIo) (c : Card) : Grows c (c.format io).1 := by
  unfold format
  split_ifs <;> exact .of_eq rfl rfl

theorem append_grows (id : FileId) (bytes : List UInt8) (c : Card) : Grows c (c.append id bytes) := by
  refine ⟨le_rfl, fun j _ => ?_⟩
  by_cases hj : j = id
  · rw [hj, content_append]
    exact List.prefix_append ..
  · rw [append]
    dsimp only
    rw [Function.update_of_ne hj]

theorem openWrite_grows (ok : Bool) (p : Path) (c : Card) : Grows c (c.openWrite ok p).1 := by
  unfold openWrite
  split_ifs
  · split
    · exact .refl c
    · refine ⟨Nat.le_succ _, fun id hid => ?_⟩
      dsimp only
      rw [Function.update_of_ne hid.ne]
  · exact .refl c

/-! ### The files of patterns -/

/-- A file that is neither the manifest's nor the firmware. -/
structure Apart (c : Card) (id : FileId) : Prop where
  below : id < c.fresh
  entry : ∀ p, IsSystem p → c.dir p ≠ some id

/-- What is opened under the name of a pattern is its own. -/
theorem WellFormed.apart (h : c.WellFormed) {name : Name} {id : FileId}
    (hfile : c.file (.pattern name) = some id) : c.Apart id := by
  exact ⟨h.below hfile, fun p hp hdir => hp _ (h.single hdir hfile)⟩

/-- A card on which a file, if it is a pattern's, has been left alone. -/
structure Spared (id : FileId) (c c' : Card) : Prop where
  apart : c.Apart id → c'.Apart id
  content : c.Apart id → c'.content id = c.content id

theorem Spared.refl (id : FileId) (c : Card) : Spared id c c := ⟨fun h => h, fun _ => rfl⟩

theorem Spared.trans {id : FileId} {c' c'' : Card} (h : Spared id c c') (h' : Spared id c' c'') :
    Spared id c c'' :=
  ⟨fun hid => h'.apart (h.apart hid),
    fun hid => (h'.content (h.apart hid)).trans (h.content hid)⟩

variable {id : FileId}

theorem remove_spared (ok : Bool) (p : Path) (c : Card) : Spared id c (c.remove ok p).1 := by
  refine ⟨fun hid => ⟨by rw [remove_fresh]; exact hid.below, fun q hq hdir => ?_⟩,
    fun _ => by rw [remove_content]⟩
  unfold remove at hdir
  split_ifs at hdir
  · by_cases hqp : q = c.entry p
    · rw [hqp] at hdir
      dsimp only at hdir
      rw [Function.update_self] at hdir
      cases hdir
    · dsimp only at hdir
      rw [Function.update_of_ne hqp] at hdir
      exact hid.entry q hq hdir
  · exact hid.entry q hq hdir

/-- What opening to write makes is another file. -/
theorem openWrite_spared (ok : Bool) (p : Path) (c : Card) : Spared id c (c.openWrite ok p).1 := by
  unfold openWrite
  split_ifs
  · split
    · exact .refl id c
    · refine ⟨fun hid => ⟨hid.below.trans (Nat.lt_succ_self _), fun q hq hdir => ?_⟩, fun hid => ?_⟩
      · by_cases hqp : q = c.entry p
        · rw [hqp] at hdir
          dsimp only at hdir
          rw [Function.update_self] at hdir
          exact hid.below.ne' (Option.some.inj hdir)
        · dsimp only at hdir
          rw [Function.update_of_ne hqp] at hdir
          exact hid.entry q hq hdir
      · exact Function.update_of_ne hid.below.ne ..
  · exact .refl id c

theorem append_spared {j : FileId} (hne : id ≠ j) (bytes : List UInt8) (c : Card) :
    Spared id c (c.append j bytes) :=
  ⟨fun hid => ⟨hid.below, hid.entry⟩, fun _ => Function.update_of_ne hne ..⟩

end Card

/-! ### The manifest -/

/-- What a change leaves of the files: a well-formed card, and contents that grow. -/
structure FilesKept (c c' : Card) : Prop where
  wellFormed : c.WellFormed → c'.WellFormed
  grows : Card.Grows c c'

namespace FilesKept

variable {c c' c'' : Card}

theorem refl (c : Card) : FilesKept c c := ⟨id, .refl c⟩

theorem trans (h : FilesKept c c') (h' : FilesKept c' c'') : FilesKept c c'' :=
  ⟨fun hc => h'.wellFormed (h.wellFormed hc), h.grows.trans h'.grows⟩

end FilesKept

theorem remove_kept (ok : Bool) (p : Path) (c : Card) : FilesKept c (c.remove ok p).1 :=
  ⟨fun h => h.remove ok p, Card.remove_grows ..⟩

theorem rename_kept (ok : Bool) (p q : Path) (c : Card) : FilesKept c (c.rename ok p q).1 :=
  ⟨fun h => h.rename ok p q, Card.rename_grows ..⟩

theorem openWrite_kept (ok : Bool) (p : Path) (c : Card) : FilesKept c (c.openWrite ok p).1 :=
  ⟨fun h => h.openWrite ok p, Card.openWrite_grows ..⟩

theorem append_kept (id : FileId) (bytes : List UInt8) (c : Card) : FilesKept c (c.append id bytes) :=
  ⟨fun h => h.append id bytes, Card.append_grows ..⟩

theorem format_kept (io : SdIo) (c : Card) : FilesKept c (c.format io).1 :=
  ⟨fun h => h.format io, Card.format_grows ..⟩

theorem writeLines_kept (io : SdIo) (p : Path) (id : FileId) (n : ℕ)
    (lines : List (Bool × List UInt8)) (c : Card) : FilesKept c (writeLines io p id n lines c).1 := by
  induction lines generalizing n c with
  | nil => exact .refl c
  | cons line rest ih =>
    rw [writeLines]
    have happ := append_kept id (line.2.take (io.cap (.write p n))) c
    split_ifs
    · exact happ.trans (ih ..)
    · exact happ
    · exact happ.trans (ih ..)
    · exact happ

theorem rewrite_kept (io : SdIo) (p : Path) (lines : List (Bool × List UInt8)) (c : Card) :
    FilesKept c (rewrite io p lines c).1 := by
  have hremove := remove_kept (io.ok (.remove p)) p c
  have hopen := openWrite_kept (io.ok (.openWrite p)) p (c.remove (io.ok (.remove p)) p).1
  unfold rewrite
  dsimp only
  split
  · next c' heq =>
    rw [heq] at hopen
    exact hremove.trans hopen
  · next c' id heq =>
    rw [heq] at hopen
    have hwrite := writeLines_kept io p id 0 lines c'
    split
    · next c'' heq' =>
      rw [heq'] at hwrite
      exact hremove.trans (hopen.trans hwrite)
    · next c'' heq' =>
      rw [heq'] at hwrite
      exact hremove.trans (hopen.trans (hwrite.trans (remove_kept ..)))

theorem writeManifest_kept (io : SdIo) (patterns : List Entry) (c : Card) :
    FilesKept c (writeManifest io patterns c).1 := by
  have hbin := rewrite_kept io .manifestBin (manifestBin patterns) c
  unfold writeManifest
  split
  · next c' heq =>
    rw [heq] at hbin
    exact hbin
  · next c' heq =>
    rw [heq] at hbin
    exact hbin.trans (rewrite_kept ..)

/-! What writes the manifest or the firmware spares the files of patterns. -/

theorem writeLines_spared (io : SdIo) (p : Path) {id j : FileId} (hne : id ≠ j) (n : ℕ)
    (lines : List (Bool × List UInt8)) (c : Card) :
    Card.Spared id c (writeLines io p j n lines c).1 := by
  induction lines generalizing n c with
  | nil => exact .refl id c
  | cons line rest ih =>
    rw [writeLines]
    have happ := Card.append_spared hne (line.2.take (io.cap (.write p n))) c
    split_ifs
    · exact happ.trans (ih ..)
    · exact happ
    · exact happ.trans (ih ..)
    · exact happ

theorem rewrite_spared {p : Path} (hp : IsSystem p) (id : FileId) (io : SdIo)
    (lines : List (Bool × List UInt8)) (c : Card) : Card.Spared id c (rewrite io p lines c).1 := by
  have hremove : Card.Spared id c _ := Card.remove_spared (io.ok (.remove p)) p c
  have hopen : Card.Spared id _ _ := Card.openWrite_spared (io.ok (.openWrite p)) p
    (c.remove (io.ok (.remove p)) p).1
  have hself (j : FileId) : ((c.remove (io.ok (.remove p)) p).1.openWrite (io.ok (.openWrite p)) p).2
      = some j → _ := Card.file_openWrite_self
  suffices h : c.Apart id → Card.Spared id c (rewrite io p lines c).1 from
    ⟨fun hid => (h hid).apart hid, fun hid => (h hid).content hid⟩
  intro hid
  unfold rewrite
  dsimp only
  split
  · next c' heq =>
    rw [heq] at hopen
    exact hremove.trans hopen
  · next c' j heq =>
    rw [heq] at hopen hself
    -- the file the lines go to is another one
    have hne : id ≠ j := by
      rintro rfl
      have hfile : c'.file p = some id := hself id rfl
      rw [Card.file, hp.entry] at hfile
      exact ((hremove.trans hopen).apart hid).entry p hp hfile
    have hwrite := writeLines_spared io p hne 0 lines c'
    split
    · next c'' heq' =>
      rw [heq'] at hwrite
      exact hremove.trans (hopen.trans hwrite)
    · next c'' heq' =>
      rw [heq'] at hwrite
      exact hremove.trans (hopen.trans (hwrite.trans (Card.remove_spared ..)))

/-- **Writing the manifest spares the files of patterns.** -/
theorem writeManifest_spared (id : FileId) (io : SdIo) (patterns : List Entry) (c : Card) :
    Card.Spared id c (writeManifest io patterns c).1 := by
  have hbin := rewrite_spared isSystem_manifestBin id io (manifestBin patterns) c
  unfold writeManifest
  split
  · next c' heq =>
    rw [heq] at hbin
    exact hbin
  · next c' heq =>
    rw [heq] at hbin
    exact hbin.trans (rewrite_spared isSystem_manifestTxt ..)

/-! ### The calls of the store -/

namespace Store

variable {io : SdIo} {s : Store} {id : ℕ}

theorem finish_kept (io : SdIo) (sd : SdManager) (card : Card) :
    FilesKept card (finish io sd card).1.card := by
  rw [finish_fst]
  exact writeManifest_kept ..

theorem finish_spared (j : FileId) (io : SdIo) (sd : SdManager) (card : Card) :
    Card.Spared j card (finish io sd card).1.card := by
  rw [finish_fst]
  exact writeManifest_spared ..

theorem deletePattern_files (io : SdIo) (id : ℕ) (s : Store) :
    FilesKept s.card (s.deletePattern io id).1.card ∧
      ∀ j, Card.Spared j s.card (s.deletePattern io id).1.card := by
  have hsame : FilesKept s.card s.card ∧ ∀ j, Card.Spared j s.card s.card :=
    ⟨.refl _, fun j => .refl j _⟩
  unfold deletePattern
  split_ifs
  · exact hsame
  · exact hsame
  · split
    · exact hsame
    · next entry _ =>
      dsimp only
      have hkept := remove_kept (io.ok (.remove entry.path)) entry.path s.card
      have hspared (j : FileId) : Card.Spared j s.card _ :=
        Card.remove_spared (io.ok (.remove entry.path)) entry.path s.card
      generalize s.card.remove (io.ok (.remove entry.path)) entry.path = r at hkept hspared
      obtain ⟨card, ok⟩ := r
      cases ok with
      | false => exact ⟨hkept, hspared⟩
      | true =>
        exact ⟨hkept.trans (finish_kept ..), fun j => (hspared j).trans (finish_spared ..)⟩

theorem renamePattern_files (io : SdIo) (id : ℕ) (name : Name) (s : Store) :
    FilesKept s.card (s.renamePattern io id name).1.card := by
  unfold renamePattern
  split
  · exact .refl _
  · split
    · exact .refl _
    · next entry _ =>
      dsimp only
      have hkept := rename_kept (io.ok .rename) entry.path
        (.pattern (candidateName io name s.card)) s.card
      generalize s.card.rename (io.ok .rename) entry.path
        (.pattern (candidateName io name s.card)) = r at hkept
      obtain ⟨card, ok⟩ := r
      cases ok with
      | false => exact hkept
      | true => exact hkept.trans (finish_kept ..)

theorem purgeMemory_files (io : SdIo) (s : Store) : FilesKept s.card (s.purgeMemory io).1.card := by
  unfold purgeMemory
  split_ifs
  · exact .refl _
  · have hkept := format_kept io s.card
    dsimp only
    generalize s.card.format io = r at hkept
    obtain ⟨card, ok⟩ := r
    cases ok with
    | false => exact hkept
    | true => exact hkept.trans (finish_kept ..)

end Store

end Sd
end G6Arena
