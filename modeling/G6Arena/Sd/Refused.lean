/-
# Deletes and renames that are refused

`deletePattern` and `renamePattern` close the handle of the pattern they are about before they ask
the card.  So a refusal leaves the list, the origins and the card as they were (`refused_edit`), and
the handle too, but for one case: the card refuses the pattern that is open, which is then closed
(`refused_closed`).
-/

import G6Arena.Sd.OpenPattern

namespace G6Arena
namespace Sd

open Machine
open ControllerError

/-- A change of one pattern of the list, or of `pattern.temp`. -/
inductive Edit
  | rename (patternId : ℕ) (newName : Name)
  | delete (patternId : ℕ)

def Edit.patternId : Edit → ℕ
  | rename id _ => id
  | delete id => id

def Edit.run (io : SdIo) (s : Store) : Edit → Store × ControllerError
  | rename id newName => ((s.renamePattern io id newName).1, (s.renamePattern io id newName).2.1)
  | delete id => s.deletePattern io id

/-- The results of an edit that is not made. -/
def ControllerError.refusal : ControllerError → Bool
  | ceBadParam | ceSdNotPresent | ceSdFileError => true
  | _ => false

/-- The pattern that is open is the one of this id. -/
def SdManager.opens (sd : SdManager) (id : ℕ) : Prop := id ≠ 0 ∧ sd.fileOpen = true ∧ sd.openId = id

instance (sd : SdManager) (id : ℕ) : Decidable (sd.opens id) := inferInstanceAs (Decidable (_ ∧ _))

/-- Every exit of an edit that is not made. -/
theorem Edit.run_cases {io : SdIo} {s s' : Store} {edit : Edit} {err : ControllerError}
    (h : edit.run io s = (s', err)) (hrefused : err.refusal = true) :
    s' = s ∧ err ≠ ceSdFileError ∨ s' = ⟨s.card, s.sd.closeIf edit.patternId⟩ ∧ err = ceSdFileError := by
  have hearly (herr : err = ceSdNotPresent ∨ err = ceBadParam) : err ≠ ceSdFileError := by
    rcases herr with rfl | rfl <;> decide
  have hmade (herr : err = ceNone ∨ err = ceManifestWriteError) : False := by
    rcases herr with rfl | rfl <;> cases hrefused
  cases edit with
  | delete id =>
    rcases Store.deletePattern_cases h with ⟨hs, herr⟩ | ⟨old, -, hfail | ⟨-, -, -, herr⟩⟩
    · exact .inl ⟨hs, hearly herr⟩
    · exact .inr hfail
    · exact (hmade herr).elim
  | rename id newName =>
    generalize hcall : s.renamePattern io id newName = r at h
    unfold run at h
    dsimp only at h
    rw [hcall] at h
    cases h
    rcases Store.renamePattern_cases (Prod.mk.eta (p := r) ▸ hcall) with
      ⟨hs, herr⟩ | ⟨old, -, hfail | ⟨-, -, -, -, herr⟩⟩
    · exact .inl ⟨hs, hearly herr⟩
    · exact .inr hfail
    · exact (hmade herr).elim

/-- **A refusal.**  The card, the list and the origins are as they were, and so is the open pattern,
but for the one the card refused: it is closed. -/
theorem refused_edit (io : SdIo) (s : Store) (edit : Edit)
    (hrefused : (edit.run io s).2.refusal = true) :
    let out := edit.run io s
    out.1.card = s.card ∧ out.1.sd.patterns = s.sd.patterns ∧
      out.1.sd = if out.2 = ceSdFileError ∧ s.sd.opens edit.patternId then
        { s.sd with fileOpen := false } else s.sd := by
  dsimp only
  generalize hcall : edit.run io s = r at hrefused ⊢
  obtain ⟨s', err⟩ := r
  rcases Edit.run_cases hcall hrefused with ⟨rfl, herr⟩ | ⟨rfl, rfl⟩
  · refine ⟨rfl, rfl, ?_⟩
    rw [if_neg fun h => herr h.1]
  · refine ⟨rfl, SdManager.closeIf_patterns, ?_⟩
    unfold SdManager.closeIf SdManager.opens
    simp only [true_and]

section

local instance refusedBoard : Board := ⟨.hw10_10⟩

/-- A card that removes nothing. -/
def stuckIo : SdIo := { goodIo with
  ok
    | .remove _ => false
    | _ => true }

/-- The pattern that plays, and a delete of another that the card refuses. -/
theorem refused_edit_other :
    let s := run callStep ((Store.powerOn sampleCard).begin_ goodIo) [(.openPattern 2, goodIo)]
    let out := (Edit.delete 1).run stuckIo s
    out.1.card = s.card ∧ out.1.sd.patterns = s.sd.patterns ∧
      out.1.sd = if out.2 = ceSdFileError ∧ s.sd.opens (Edit.delete 1).patternId then
        { s.sd with fileOpen := false } else s.sd :=
  refused_edit stuckIo _ (.delete 1) (by decide +kernel)

/-- **A refusal that closes the pattern.**  It plays, and the card does not remove it. -/
theorem refused_closed :
    let s := run callStep ((Store.powerOn sampleCard).begin_ goodIo) [(.openPattern 2, goodIo)]
    let out := (Edit.delete 2).run stuckIo s
    out.2 = ceSdFileError ∧ s.sd.fileOpen = true ∧ out.1.sd.fileOpen = false := by
  decide +kernel

end

end Sd
end G6Arena
