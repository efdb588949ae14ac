/-
# Loops with a bound

`BoundedLoop.loop body n s` runs `body` from `s` until it answers `none`, at
most `n` times.  `body s = some s'` is one pass of a `while` body whose guard
holds in `s`; `body s = none` is the guard failing or a `break`.

Two rules are enough for the loops of an embedding.  `loop_inv` carries an
invariant from the first state to the last.  `loop_exit` says that the bound
is not what stopped the loop: under an invariant, a measure that every pass
lowers and that starts at or below the bound, the last state is one where
`body` answers `none`.  `loop_trace` names the states in between, for facts
about every pass and not only about the result.
-/

import Mathlib.Logic.Function.Iterate
import Mathlib.Data.Nat.Basic

namespace BoundedLoop

variable {σ : Type*}

/-- Run `body` until it answers `none`, at most `n` times. -/
def loop (body : σ → Option σ) : ℕ → σ → σ
  | 0, s => s
  | n + 1, s => match body s with
    | none => s
    | some s' => loop body n s'

@[simp] theorem loop_zero (body : σ → Option σ) (s : σ) : loop body 0 s = s := rfl

theorem loop_of_none {body : σ → Option σ} {s : σ} (h : body s = none) (n : ℕ) :
    loop body n s = s := by
  cases n with
  | zero => rfl
  | succ n => rw [loop, h]

theorem loop_succ_of_some {body : σ → Option σ} {s s' : σ} (h : body s = some s') (n : ℕ) :
    loop body (n + 1) s = loop body n s' := by
  rw [loop, h]

/-- The states a loop passes through: `Trace body s t` when some number of
passes leads from `s` to `t`. -/
inductive Trace (body : σ → Option σ) (s : σ) : σ → Prop
  | start : Trace body s s
  | pass {t t' : σ} : Trace body s t → body t = some t' → Trace body s t'

theorem Trace.head {body : σ → Option σ} {s s' t : σ} (h : body s = some s')
    (ht : Trace body s' t) : Trace body s t := by
  induction ht with
  | start => exact .pass .start h
  | pass _ hb ih => exact .pass ih hb

/-- **An invariant holds in every state a loop passes through.** -/
theorem Trace.inv {body : σ → Option σ} {I : σ → Prop}
    (hstep : ∀ s s', I s → body s = some s' → I s') {s t : σ} (hs : I s)
    (ht : Trace body s t) : I t := by
  induction ht with
  | start => exact hs
  | pass _ hb ih => exact hstep _ _ ih hb

/-- The result of a loop is one of the states it passes through. -/
theorem loop_trace (body : σ → Option σ) (n : ℕ) (s : σ) : Trace body s (loop body n s) := by
  induction n generalizing s with
  | zero => exact .start
  | succ n ih =>
      cases h : body s with
      | none => rw [loop_of_none h]; exact .start
      | some s' => rw [loop_succ_of_some h]; exact (ih s').head h

/-- **Invariant rule.** -/
theorem loop_inv {body : σ → Option σ} {I : σ → Prop}
    (hstep : ∀ s s', I s → body s = some s' → I s') (n : ℕ) {s : σ} (hs : I s) :
    I (loop body n s) :=
  (loop_trace body n s).inv hstep hs

/-- **Termination rule.**  A measure that starts at or below the bound and that
every pass lowers leaves the loop at a state where `body` answers `none`. -/
theorem loop_exit {body : σ → Option σ} {I : σ → Prop} (μ : σ → ℕ)
    (hstep : ∀ s s', I s → body s = some s' → I s' ∧ μ s' < μ s) (n : ℕ) {s : σ} (hs : I s)
    (hn : μ s ≤ n) : body (loop body n s) = none := by
  induction n generalizing s with
  | zero =>
      cases h : body s with
      | none => exact h
      | some s' =>
          have := (hstep s s' hs h).2
          omega
  | succ n ih =>
      cases h : body s with
      | none => rw [loop_of_none h]; exact h
      | some s' =>
          rw [loop_succ_of_some h]
          obtain ⟨hs', hμ⟩ := hstep s s' hs h
          exact ih hs' (by omega)

end BoundedLoop
