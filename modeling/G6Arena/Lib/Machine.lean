/-
# Machines and their runs

A machine is a step function `step : σ → ι → σ`, and a run feeds it a list of
inputs.  `Along step C s is` says that every step of the run from `s` on `is` meets
the condition `C`, a condition on the state before the step and on its input.

`run_inv` carries an invariant along such a run.  `run_sim` carries a simulation: a
relation between the states of the machine and those of an abstract one, given by a
step relation, that every step keeps.  `Run` is the runs of the abstract machine.
-/

import Mathlib.Data.List.Basic

namespace Machine

variable {σ ι α : Type*} {step : σ → ι → σ}

/-- The state after a list of inputs. -/
def run (step : σ → ι → σ) (s : σ) (is : List ι) : σ := is.foldl step s

@[simp] theorem run_nil (s : σ) : run step s [] = s := rfl

@[simp] theorem run_cons (s : σ) (i : ι) (is : List ι) :
    run step s (i :: is) = run step (step s i) is := rfl

theorem run_append (s : σ) (is js : List ι) :
    run step s (is ++ js) = run step (run step s is) js :=
  List.foldl_append ..

/-- Every step of the run from `s` on the inputs meets `C`. -/
def Along (step : σ → ι → σ) (C : σ → ι → Prop) : σ → List ι → Prop
  | _, [] => True
  | s, i :: is => C s i ∧ Along step C (step s i) is

instance Along.decidable {C : σ → ι → Prop} [∀ s i, Decidable (C s i)] :
    (s : σ) → (is : List ι) → Decidable (Along step C s is)
  | _, [] => isTrue trivial
  | s, i :: is => @instDecidableAnd _ _ _ (Along.decidable (step s i) is)

theorem Along.mono {C D : σ → ι → Prop} (hCD : ∀ s i, C s i → D s i) {s : σ} {is : List ι}
    (h : Along step C s is) : Along step D s is := by
  induction is generalizing s with
  | nil => trivial
  | cons i is ih => exact ⟨hCD s i h.1, ih h.2⟩

theorem along_of_forall {C : σ → ι → Prop} {is : List ι} (h : ∀ s, ∀ i ∈ is, C s i) (s : σ) :
    Along step C s is := by
  induction is generalizing s with
  | nil => trivial
  | cons i is ih =>
      exact ⟨h s i (List.mem_cons_self ..), ih (fun s j hj => h s j (List.mem_cons_of_mem _ hj)) _⟩

theorem along_append {C : σ → ι → Prop} {s : σ} (is js : List ι) :
    Along step C s (is ++ js) ↔ Along step C s is ∧ Along step C (run step s is) js := by
  induction is generalizing s with
  | nil => exact ⟨fun h => ⟨trivial, h⟩, And.right⟩
  | cons i is ih => exact (and_congr Iff.rfl ih).trans and_assoc.symm

/-- Conditions that are the same wherever an invariant holds. -/
theorem along_congr {I : σ → Prop} {C D : σ → ι → Prop} (hCD : ∀ s i, I s → (C s i ↔ D s i))
    (hstep : ∀ s i, I s → I (step s i)) {s : σ} (hs : I s) (is : List ι) :
    Along step C s is ↔ Along step D s is := by
  induction is generalizing s with
  | nil => exact Iff.rfl
  | cons i is ih => exact and_congr (hCD s i hs) (ih (hstep s i hs))

/-- **Invariant rule.** -/
theorem run_inv {I : σ → Prop} {C : σ → ι → Prop} (hstep : ∀ s i, I s → C s i → I (step s i))
    {s : σ} {is : List ι} (hs : I s) (h : Along step C s is) : I (run step s is) := by
  induction is generalizing s with
  | nil => exact hs
  | cons i is ih => exact ih (hstep s i hs h.1) h.2

/-- A condition that holds wherever an invariant does. -/
theorem along_of_inv {I : σ → Prop} {C : σ → ι → Prop} {is : List ι}
    (hstep : ∀ s, ∀ i ∈ is, I s → C s i ∧ I (step s i)) {s : σ} (hs : I s) : Along step C s is := by
  induction is generalizing s with
  | nil => trivial
  | cons i is ih =>
      obtain ⟨hC, hI⟩ := hstep s i (List.mem_cons_self ..) hs
      exact ⟨hC, ih (fun s j hj => hstep s j (List.mem_cons_of_mem _ hj)) hI⟩

/-- The runs of an abstract machine given by a step relation. -/
inductive Run (Step : ι → α → α → Prop) : List ι → α → α → Prop
  | nil (a : α) : Run Step [] a a
  | cons {i : ι} {is : List ι} {a b c : α} : Step i a b → Run Step is b c → Run Step (i :: is) a c

/-- **Simulation rule.**  A relation kept by every step, the abstract machine taking a
step of its own for each, holds between the ends of two runs. -/
theorem run_sim {R : σ → α → Prop} {C : σ → ι → Prop} {Step : ι → α → α → Prop}
    (hstep : ∀ s i a, R s a → C s i → ∃ b, Step i a b ∧ R (step s i) b)
    {s : σ} {is : List ι} {a : α} (hs : R s a) (h : Along step C s is) :
    ∃ b, Run Step is a b ∧ R (run step s is) b := by
  induction is generalizing s a with
  | nil => exact ⟨a, .nil a, hs⟩
  | cons i is ih =>
      obtain ⟨b, hb, hR⟩ := hstep s i a hs h.1
      obtain ⟨c, hc, hR'⟩ := ih hR h.2
      exact ⟨c, .cons hb hc, hR'⟩

end Machine
