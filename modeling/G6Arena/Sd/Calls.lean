/-
# What a call to the pattern store does

One lemma per call of `SdManager`, saying all that the call can do: the exit it takes,
what it leaves of the card and of the list, and its result.  The manifest is
written after most of them and touches no pattern (`writeManifest_same`).
-/

import G6Arena.Sd.Manager
import Mathlib.Tactic.SplitIfs

namespace G6Arena
namespace Sd

open ControllerError

/-! ### The manifest -/

/-- The same patterns on two cards. -/
structure SamePatterns (c c' : Card) : Prop where
  key : c'.key = c.key
  dir : ∀ name, c'.dir (.pattern name) = c.dir (.pattern name)

namespace SamePatterns

variable {c c' c'' : Card}

theorem refl (c : Card) : SamePatterns c c := ⟨rfl, fun _ => rfl⟩

theorem trans (h : SamePatterns c c') (h' : SamePatterns c' c'') : SamePatterns c c'' :=
  ⟨h'.key.trans h.key, fun name => (h'.dir name).trans (h.dir name)⟩

theorem entry (h : SamePatterns c c') (p : Path) : c'.entry p = c.entry p :=
  Card.entry_eq_of_key h.key p

theorem file (h : SamePatterns c c') (name : Name) :
    c'.file (.pattern name) = c.file (.pattern name) := by
  rw [Card.file, h.entry]
  exact h.dir _

end SamePatterns

/-- A path of the manifest or of the firmware, which is no pattern's. -/
def IsSystem (p : Path) : Prop := ∀ name, p ≠ .pattern name

section

variable {p : Path}

theorem IsSystem.entry (h : IsSystem p) (c : Card) : c.entry p = p := by
  cases p with
  | pattern name => exact absurd rfl (h name)
  | manifestBin => rfl
  | manifestTxt => rfl
  | firmware => rfl

theorem IsSystem.ne_pattern (h : IsSystem p) (c : Card) (name : Name) :
    Path.pattern name ≠ c.entry p := by
  rw [h.entry]
  exact (h name).symm

theorem isSystem_manifestBin : IsSystem .manifestBin := nofun
theorem isSystem_manifestTxt : IsSystem .manifestTxt := nofun
theorem isSystem_firmware : IsSystem .firmware := nofun

theorem remove_same (hp : IsSystem p) (ok : Bool) (c : Card) :
    SamePatterns c (c.remove ok p).1 := by
  refine ⟨Card.remove_key ok, fun name => ?_⟩
  unfold Card.remove
  split_ifs
  · exact Function.update_of_ne (hp.ne_pattern c name) ..
  · rfl

theorem openWrite_same (hp : IsSystem p) (ok : Bool) (c : Card) :
    SamePatterns c (c.openWrite ok p).1 := by
  refine ⟨Card.openWrite_key ok, fun name => ?_⟩
  unfold Card.openWrite
  split_ifs
  · split
    · rfl
    · exact Function.update_of_ne (hp.ne_pattern c name) ..
  · rfl

theorem append_same (id : FileId) (bytes : List UInt8) (c : Card) :
    SamePatterns c (c.append id bytes) := ⟨rfl, fun _ => rfl⟩

theorem writeLines_same (io : SdIo) (p : Path) (id : FileId) (n : ℕ)
    (lines : List (Bool × List UInt8)) (c : Card) :
    SamePatterns c (writeLines io p id n lines c).1 := by
  induction lines generalizing n c with
  | nil => exact .refl c
  | cons line rest ih =>
    rw [writeLines]
    have happ := append_same id (line.2.take (io.cap (.write p n))) c
    split_ifs
    · exact happ.trans (ih ..)
    · exact happ
    · exact happ.trans (ih ..)
    · exact happ

theorem rewrite_same (hp : IsSystem p) (io : SdIo) (lines : List (Bool × List UInt8))
    (c : Card) : SamePatterns c (rewrite io p lines c).1 := by
  have hremove := remove_same hp (io.ok (.remove p)) c
  have hopen := openWrite_same hp (io.ok (.openWrite p)) (c.remove (io.ok (.remove p)) p).1
  unfold rewrite
  dsimp only
  split
  · next c' heq =>
    rw [heq] at hopen
    exact hremove.trans hopen
  · next c' id heq =>
    rw [heq] at hopen
    have hwrite := writeLines_same io p id 0 lines c'
    split
    · next c'' heq' =>
      rw [heq'] at hwrite
      exact hremove.trans (hopen.trans hwrite)
    · next c'' heq' =>
      rw [heq'] at hwrite
      exact hremove.trans (hopen.trans (hwrite.trans (remove_same hp _ _)))

end

/-- **Writing the manifest leaves the patterns.** -/
theorem writeManifest_same (io : SdIo) (patterns : List Entry) (c : Card) :
    SamePatterns c (writeManifest io patterns c).1 := by
  have hbin := rewrite_same isSystem_manifestBin io (manifestBin patterns) c
  unfold writeManifest
  split
  · next c' heq =>
    rw [heq] at hbin
    exact hbin
  · next c' heq =>
    rw [heq] at hbin
    exact hbin.trans (rewrite_same isSystem_manifestTxt io _ _)

/-! ### The list -/

namespace SdManager

variable {sd : SdManager} {id : ℕ}

@[simp] theorem closeIf_patterns : (sd.closeIf id).patterns = sd.patterns := by
  unfold closeIf
  split_ifs <;> rfl

/-- What `closeIf` leaves open it does not touch. -/
theorem closeIf_of_open (h : (sd.closeIf id).fileOpen = true) :
    sd.closeIf id = sd ∧ (id = 0 ∨ sd.openId ≠ id) := by
  unfold closeIf at h ⊢
  split_ifs at h ⊢ with hc
  exact ⟨rfl, by tauto⟩

theorem removeAt_patterns : (sd.removeAt id).patterns
    = if id = 0 then sd.patterns else sd.patterns.eraseIdx (id - 1) := by
  unfold removeAt
  split_ifs <;> rfl

@[simp] theorem removeAt_fileOpen : (sd.removeAt id).fileOpen = sd.fileOpen := by
  unfold removeAt
  split_ifs <;> rfl

@[simp] theorem removeAt_openFile : (sd.removeAt id).openFile = sd.openFile := by
  unfold removeAt
  split_ifs <;> rfl

@[simp] theorem removeAt_openId : (sd.removeAt id).openId = sd.openId := by
  unfold removeAt
  split_ifs <;> rfl

variable {entry : Entry}

theorem insertSorted_patterns : (sd.insertSorted entry).patterns
    = if patternMaxCount ≤ sd.patternCount then sd.patterns
      else SortedInsert.insert Entry.key entry sd.patterns := by
  unfold insertSorted
  split_ifs <;> rfl

@[simp] theorem insertSorted_fileOpen : (sd.insertSorted entry).fileOpen = sd.fileOpen := by
  unfold insertSorted
  split_ifs <;> rfl

@[simp] theorem insertSorted_openFile : (sd.insertSorted entry).openFile = sd.openFile := by
  unfold insertSorted
  split_ifs <;> rfl

@[simp] theorem insertSorted_openId : (sd.insertSorted entry).openId = sd.openId := by
  unfold insertSorted
  split_ifs <;> rfl

end SdManager

/-! ### Headers -/

/-- A header that is refused is refused with an error. -/
theorem validateHeader_error [Board] {hdr : List UInt8} {err : ControllerError}
    (h : validateHeader hdr = .error err) : err ≠ ceNone := by
  unfold validateHeader at h
  dsimp only at h
  split_ifs at h with h₁ h₂ h₃ h₄ <;> cases h
  · exact h₁
  all_goals decide

/-! ### The calls -/

namespace Store

variable {io : SdIo} {s s' : Store} {id : ℕ} {err : ControllerError}

theorem finish_fst (io : SdIo) (sd : SdManager) (card : Card) :
    (finish io sd card).1 = ⟨(writeManifest io sd.patterns card).1, sd⟩ := by
  unfold finish
  split <;> next h => rw [h]

theorem finish_snd (io : SdIo) (sd : SdManager) (card : Card) :
    (finish io sd card).2 = ceNone ∨ (finish io sd card).2 = ceManifestWriteError := by
  unfold finish
  split
  · exact .inl rfl
  · exact .inr rfl

/-- A delete refuses, fails to remove the file, or removes it and drops its entry. -/
theorem deletePattern_cases (h : deletePattern io id s = (s', err)) :
    (s' = s ∧ (err = ceSdNotPresent ∨ err = ceBadParam)) ∨
    ∃ entry, s.sd.target id = some entry ∧
      ((s' = ⟨s.card, s.sd.closeIf id⟩ ∧ err = ceSdFileError) ∨
        (s.card.remove (io.ok (.remove entry.path)) entry.path).2 = true ∧
        SamePatterns (s.card.remove (io.ok (.remove entry.path)) entry.path).1 s'.card ∧
        s'.sd = (s.sd.closeIf id).removeAt id ∧ (err = ceNone ∨ err = ceManifestWriteError)) := by
  unfold deletePattern at h
  split_ifs at h with hm hx
  · cases h
    exact .inl ⟨rfl, by decide⟩
  · cases h
    exact .inl ⟨rfl, by decide⟩
  · split at h
    · cases h
      exact .inl ⟨rfl, by decide⟩
    · next entry htarget =>
      refine .inr ⟨entry, htarget, ?_⟩
      dsimp only at h
      split at h
      · next card heq =>
        cases h
        have hcard : card = s.card := by
          rw [← Card.remove_of_failed (congrArg Prod.snd heq), heq]
        exact .inl ⟨by rw [hcard], rfl⟩
      · next card heq =>
        have hs' := finish_fst io ((s.sd.closeIf id).removeAt id) card
        have herr := finish_snd io ((s.sd.closeIf id).removeAt id) card
        rw [h] at hs' herr
        subst hs'
        rw [heq]
        exact .inr ⟨rfl, writeManifest_same .., rfl, herr⟩

/-- A rename refuses, fails to rename the file, or renames it and moves its entry. -/
theorem renamePattern_cases {newName : Name} {newIdx : Option ℕ}
    (h : renamePattern io id newName s = (s', err, newIdx)) :
    (s' = s ∧ (err = ceSdNotPresent ∨ err = ceBadParam)) ∨
    ∃ entry, s.sd.target id = some entry ∧
      ((s' = ⟨s.card, s.sd.closeIf id⟩ ∧ err = ceSdFileError) ∨
        (s.card.rename (io.ok .rename) entry.path
          (.pattern (candidateName io newName s.card))).2 = true ∧
        SamePatterns (s.card.rename (io.ok .rename) entry.path
          (.pattern (candidateName io newName s.card))).1 s'.card ∧
        s'.sd = ((s.sd.closeIf id).removeAt id).insertSorted
          ⟨candidateName io newName s.card,
            if id = 0 then candidateName io newName s.card else entry.origin⟩ ∧
        newIdx = some ((s'.sd.patterns.findIdx? (·.name = candidateName io newName s.card)).elim
          0 (· + 1)) ∧
        (err = ceNone ∨ err = ceManifestWriteError)) := by
  unfold renamePattern at h
  split at h
  · cases h
    exact .inl ⟨rfl, by decide⟩
  · split at h
    · cases h
      exact .inl ⟨rfl, by decide⟩
    · next entry htarget =>
      refine .inr ⟨entry, htarget, ?_⟩
      dsimp only at h
      split at h
      · next card heq =>
        cases h
        have hcard : card = s.card := by
          rw [← Card.rename_of_failed (congrArg Prod.snd heq), heq]
        exact .inl ⟨by rw [hcard], rfl⟩
      · next card heq =>
        cases h
        refine .inr ⟨?_, ?_, ?_, ?_, finish_snd ..⟩
        · rw [heq]
        · rw [heq, finish_fst]
          exact writeManifest_same ..
        · rw [finish_fst]
        · rw [finish_fst]

/-- A purge refuses, or closes the open pattern and formats the card. -/
theorem purgeMemory_cases (h : purgeMemory io s = (s', err)) :
    (s' = s ∧ err ≠ ceNone) ∨
    (s'.sd.fileOpen = false ∧ SamePatterns (s.card.format io).1 s'.card ∧
      (s'.sd.patterns = s.sd.patterns ∧ err = ceSdFormatError ∧ io.ok .format = false ∨
        s'.sd.patterns = [] ∧ io.ok .format = true)) := by
  unfold purgeMemory at h
  split at h
  · cases h
    exact .inl ⟨rfl, by decide⟩
  · dsimp only at h
    split at h
    · next card heq =>
      cases h
      rw [heq]
      exact .inr ⟨rfl, .refl _, .inl ⟨rfl, rfl, (Card.format_snd io).symm.trans (congrArg Prod.snd heq)⟩⟩
    · next card heq =>
      have hs' := congrArg Prod.fst h
      rw [finish_fst] at hs'
      subst hs'
      rw [heq]
      exact .inr ⟨rfl, writeManifest_same .., .inr ⟨rfl, (Card.format_snd io).symm.trans (congrArg Prod.snd heq)⟩⟩

section

variable [Board]

/-- An open refuses, keeps the handle it has, closes it and fails, or opens the file and
reads its header. -/
theorem openPattern_cases (h : openPattern io id s = (s', err)) :
    (s' = s ∧ err ≠ ceNone) ∨
    (s' = s ∧ err = ceNone ∧ s.sd.fileOpen = true ∧ s.sd.openId = id ∧
      s.sd.appliedLegacySeek = s.sd.legacySeek) ∨
    s'.card = s.card ∧ s'.sd.patterns = s.sd.patterns ∧ s'.sd.mounted = s.sd.mounted ∧
      ((s'.sd.fileOpen = false ∧ s'.sd.info = s.sd.info ∧ err ≠ ceNone) ∨
        ∃ entry f info, s.sd.pattern? id = some entry ∧ s.card.file entry.path = some f ∧
          validateHeader ((s.card.content f).take patternHeaderByteCount) = .ok info ∧
          s'.sd.fileOpen = true ∧ s'.sd.file = some f ∧ s'.sd.openId = id ∧ s'.sd.info = info ∧
          s'.sd.appliedLegacySeek = s.sd.legacySeek ∧ s'.sd.legacySeek = s.sd.legacySeek ∧
          err = ceNone) := by
  unfold openPattern at h
  split at h
  · cases h
    exact .inl ⟨rfl, by decide⟩
  · split at h
    · cases h
      exact .inl ⟨rfl, by decide⟩
    · next entry hentry =>
      split at h
      · next hcached =>
        cases h
        exact .inr (.inl ⟨rfl, rfl, hcached⟩)
      · refine .inr (.inr ?_)
        dsimp only at h
        split at h
        · cases h
          exact ⟨rfl, rfl, rfl, .inl ⟨rfl, rfl, by decide⟩⟩
        · next f hf =>
          split at h
          · cases h
            exact ⟨rfl, rfl, rfl, .inl ⟨rfl, rfl, by decide⟩⟩
          · next hlen =>
            split at h
            · next e herr =>
              cases h
              exact ⟨rfl, rfl, rfl, .inl ⟨rfl, rfl, validateHeader_error herr⟩⟩
            · next info hinfo =>
              cases h
              have hfile : s.card.file entry.path = some f := by
                unfold Card.openRead at hf
                split_ifs at hf
                exact hf
              rw [Card.read_eq_take (not_not.1 hlen)] at hinfo
              exact ⟨rfl, rfl, rfl, .inr ⟨entry, f, info, hentry, hfile, hinfo, rfl, rfl, rfl, rfl,
                rfl, rfl, rfl⟩⟩

end

end Store
/-! ### The open handle -/

/-- The handle is the one it was, or it is closed. -/
structure OpenKept (sd sd' : SdManager) : Prop where
  fileOpen : sd'.fileOpen = true → sd.fileOpen = true
  file : sd'.file = sd.file
  openId : sd'.openId = sd.openId
  info : sd'.info = sd.info

namespace OpenKept

variable {sd sd' sd'' : SdManager}

theorem refl (sd : SdManager) : OpenKept sd sd := ⟨id, rfl, rfl, rfl⟩

theorem trans (h : OpenKept sd sd') (h' : OpenKept sd' sd'') : OpenKept sd sd'' :=
  ⟨fun hopen => h.fileOpen (h'.fileOpen hopen), h'.file.trans h.file, h'.openId.trans h.openId,
    h'.info.trans h.info⟩

theorem of_eq (h : sd' = sd) : OpenKept sd sd' := by
  rw [h]
  exact .refl sd

theorem closeIf (sd : SdManager) (id : ℕ) : OpenKept sd (sd.closeIf id) := by
  unfold SdManager.closeIf
  split_ifs
  · exact ⟨fun h => absurd h Bool.false_ne_true, rfl, rfl, rfl⟩
  · exact .refl sd

theorem removeAt (sd : SdManager) (id : ℕ) : OpenKept sd (sd.removeAt id) := by
  unfold SdManager.removeAt
  split_ifs
  · exact .refl sd
  · exact ⟨fun h => h, rfl, rfl, rfl⟩

theorem insertSorted (sd : SdManager) (entry : Entry) : OpenKept sd (sd.insertSorted entry) := by
  unfold SdManager.insertSorted
  split_ifs
  · exact .refl sd
  · exact ⟨fun h => h, rfl, rfl, rfl⟩

end OpenKept

namespace Store

variable {io : SdIo} {s s' : Store} {id : ℕ} {err : ControllerError}

theorem deletePattern_openKept (h : deletePattern io id s = (s', err)) : OpenKept s.sd s'.sd := by
  rcases deletePattern_cases h with ⟨rfl, -⟩ | ⟨entry, -, ⟨rfl, -⟩ | ⟨-, -, hsd, -⟩⟩
  · exact .refl _
  · exact .closeIf ..
  · rw [hsd]
    exact (OpenKept.closeIf ..).trans (.removeAt ..)

theorem renamePattern_openKept {newName : Name} {newIdx : Option ℕ}
    (h : renamePattern io id newName s = (s', err, newIdx)) : OpenKept s.sd s'.sd := by
  rcases renamePattern_cases h with ⟨rfl, -⟩ | ⟨entry, -, ⟨rfl, -⟩ | ⟨-, -, hsd, -⟩⟩
  · exact .refl _
  · exact .closeIf ..
  · rw [hsd]
    exact ((OpenKept.closeIf ..).trans (.removeAt ..)).trans (.insertSorted ..)

theorem purgeMemory_openKept (io : SdIo) (s : Store) : OpenKept s.sd (s.purgeMemory io).1.sd := by
  have hclosed (patterns : List Entry) :
      OpenKept s.sd { s.sd with fileOpen := false, patterns := patterns } :=
    ⟨fun h => absurd h Bool.false_ne_true, rfl, rfl, rfl⟩
  unfold purgeMemory
  split
  · exact .refl _
  · dsimp only
    split
    · exact hclosed s.sd.patterns
    · rw [finish_fst]
      exact hclosed []

/-- A frame that is read is one of the open pattern. -/
theorem readFrame_open {index cap : ℕ} {bytes : List UInt8}
    (h : s.readFrame io index cap = (bytes, ceNone)) :
    s.sd.fileOpen = true ∧ index < s.sd.info.frameCount := by
  unfold readFrame at h
  split at h
  · cases h
  · split at h
    · cases h
    · next id hfile =>
      split at h
      · cases h
      · next hindex =>
        refine ⟨?_, by omega⟩
        unfold SdManager.openFile at hfile
        split_ifs at hfile with hopen
        exact hopen

/-- The body of a frame of the pattern that is open, as it is stored. -/
def storedFrame (index : ℕ) (s : Store) : Option (List UInt8) :=
  s.sd.file.map fun f => ((s.card.content f).drop
    (patternHeaderByteCount + index * s.sd.info.frameSize)).take (bodyLen s.sd.info)

/-- A whole frame stays where it is stored while its file grows. -/
theorem storedFrame_grows {index : ℕ} {bytes : List UInt8} {f : FileId} (hfile : s'.sd.file = s.sd.file)
    (hinfo : s'.sd.info = s.sd.info) (hf : s.sd.file = some f)
    (hgrows : s.card.content f <+: s'.card.content f) (h : s.storedFrame index = some bytes)
    (hlen : bytes.length = bodyLen s.sd.info) : s'.storedFrame index = some bytes := by
  unfold storedFrame at h ⊢
  rw [hf, Option.map_some, Option.some.injEq] at h
  rw [hfile, hf, hinfo, Option.map_some, Option.some.injEq]
  obtain ⟨more, hmore⟩ := hgrows
  rw [← h, List.length_take, List.length_drop] at hlen
  rw [← hmore, ← h]
  rcases Nat.eq_zero_or_pos (bodyLen s.sd.info) with hzero | hpos
  · rw [hzero, List.take_zero, List.take_zero]
  · rw [List.drop_append_of_le_length (by omega), List.take_append_of_le_length]
    rw [List.length_drop]
    omega

/-- **A frame that is read is the one stored, whole.** -/
theorem readFrame_stored {index cap : ℕ} {bytes : List UInt8}
    (h : s.readFrame io index cap = (bytes, ceNone)) :
    s.storedFrame index = some bytes ∧ bytes.length = bodyLen s.sd.info := by
  unfold readFrame at h
  split at h
  · cases h
  · split at h
    · cases h
    · next id hfile =>
      split at h
      · cases h
      · dsimp only at h
        split_ifs at h with hcap hseek hbody htail hmagic hcrc
        all_goals cases h
        have hlen := not_not.1 hbody
        refine ⟨?_, hlen⟩
        unfold SdManager.openFile at hfile
        split_ifs at hfile
        unfold storedFrame
        rw [hfile, Option.map_some, Card.read_eq hlen]

section

variable [Board]

/-! ### The geometry of the open pattern -/

/-- An open pattern is one for the panels of this arena. -/
def FitsArena (sd : SdManager) : Prop :=
  sd.fileOpen = true → sd.info.numPanels = panelCountPerFrame ∧
    (sd.info.blockSize = panelBlockByteCountGs2 ∨ sd.info.blockSize = panelBlockByteCountGs16)

theorem validateHeader_fits {hdr : List UInt8} {info : PatternInfo}
    (h : validateHeader hdr = .ok info) : info.numPanels = panelCountPerFrame ∧
      (info.blockSize = panelBlockByteCountGs2 ∨ info.blockSize = panelBlockByteCountGs16) := by
  unfold validateHeader at h
  dsimp only at h
  split_ifs at h with herr hpanels hmask hgrid
  cases h
  rw [not_or, not_not, not_not] at hgrid
  refine ⟨?_, ?_⟩
  · dsimp only
    rw [hgrid.1, hgrid.2]
    rfl
  · dsimp only
    unfold blockSizeOf
    split_ifs
    · exact .inl rfl
    · exact .inr rfl

theorem FitsArena.kept {sd sd' : SdManager} (h : FitsArena sd) (hkept : OpenKept sd sd') :
    FitsArena sd' := by
  intro hopen
  rw [hkept.info]
  exact h (hkept.fileOpen hopen)

/-- A pattern that is opened is open. -/
theorem openPattern_open (h : openPattern io id s = (s', ceNone)) :
    s'.sd.fileOpen = true ∧ s'.sd.openId = id := by
  rcases openPattern_cases h with ⟨-, herr⟩ | ⟨rfl, -, hopen, hid, -⟩ |
    ⟨-, -, -, ⟨-, -, herr⟩ | ⟨_, _, _, -, -, -, hopen, -, hid, -⟩⟩
  · exact absurd rfl herr
  · exact ⟨hopen, hid⟩
  · exact absurd rfl herr
  · exact ⟨hopen, hid⟩

theorem openPattern_fits (h : FitsArena s.sd) (io : SdIo) (id : ℕ) :
    FitsArena (s.openPattern io id).1.sd := by
  rcases openPattern_cases (Prod.mk.eta (p := s.openPattern io id)).symm with
    ⟨hsame, -⟩ | ⟨hsame, -⟩ | ⟨-, -, -, ⟨hclosed, -, -⟩ |
      ⟨entry, f, info, -, -, hvalid, -, -, -, hinfo, -⟩⟩
  · rw [hsame]
    exact h
  · rw [hsame]
    exact h
  · intro hopen
    rw [hclosed] at hopen
    cases hopen
  · intro _
    rw [hinfo]
    exact validateHeader_fits hvalid

end

end Store

end Sd
end G6Arena
