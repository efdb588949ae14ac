/-
# Periods on a clock that wraps

A task with a period `p` keeps the time of its last step on a clock that counts modulo `M`, and a
call makes the steps that are due, `n` at most.  `tick` counts them on a clock that does not wrap.

The distance of two readings is the one of the times as long as that is below `M`
(`elapsed_mod`).  A call never undoes a step (`le_tick`), never makes one too early (`tick_le`), and
leaves less than a period undone if it was not cut short (`tick_backlog`).

`InTime` is a run of calls by a clock that does not go back, with a backlog that the clock can tell
(`InTime.along`), and `run_tick` carries what one call does to such a run.
-/

import G6Arena.Lib.Machine
import Mathlib.Data.Nat.Basic
import Mathlib.Data.Nat.Notation

namespace WrapClock

open Machine

variable {M p n start k t l : ℕ}

/-- The time from the reading `b` to the reading `a`. -/
def elapsed (M a b : ℕ) : ℕ := (a + M - b) % M

/-- **The distance of two readings** that are not further apart than the clock counts. -/
theorem elapsed_mod (hle : l ≤ t) (hlt : t < l + M) : elapsed M (t % M) (l % M) = t - l := by
  have hM : 0 < M := by omega
  have hl := Nat.mod_add_div l M
  have ht := Nat.mod_add_div t M
  have hlmod := Nat.mod_lt l hM
  have htmod := Nat.mod_lt t hM
  unfold elapsed
  rcases Nat.lt_or_ge (t % M) (l % M) with h | h
  · -- the clock has wrapped once
    have hquot : t / M = l / M + 1 := by
      have hlow : l / M ≤ t / M := Nat.div_le_div_right hle
      have hhigh : t / M ≤ l / M + 1 := by
        rw [← Nat.add_div_right l hM]
        exact Nat.div_le_div_right (Nat.le_of_lt hlt)
      have hne : t / M ≠ l / M := by
        intro heq
        rw [heq] at ht
        omega
      omega
    rw [hquot, Nat.mul_add, Nat.mul_one] at ht
    rw [Nat.mod_eq_of_lt (by omega)]
    omega
  · have hquot : t / M = l / M := by
      have hlow : l / M ≤ t / M := Nat.div_le_div_right hle
      have hhigh : t / M < l / M + 1 := by
        by_contra hge
        have hmul : M * (l / M + 1) ≤ M * (t / M) := Nat.mul_le_mul_left _ (Nat.le_of_not_lt hge)
        rw [Nat.mul_add, Nat.mul_one] at hmul
        omega
      omega
    have hsub : t % M + M - l % M = (t - l) + M := by
      rw [hquot] at ht
      omega
    rw [hsub, Nat.add_mod_right, Nat.mod_eq_of_lt]
    rw [hquot] at ht
    omega

/-- **A time that is reached**: less than half of the clock has passed since then. -/
theorem elapsed_lt_iff {H : ℕ} (hlow : l ≤ t + H) (hhigh : t < l + H) :
    elapsed (2 * H) (t % (2 * H)) (l % (2 * H)) < H ↔ l ≤ t := by
  constructor
  · intro helapsed
    by_contra hbefore
    rw [← Nat.add_mod_right t, elapsed_mod (by omega) (by omega)] at helapsed
    omega
  · intro hle
    rw [elapsed_mod hle (by omega)]
    omega

/-- The steps that a call at time `t` makes after `k` of them. -/
def due (p n start k t : ℕ) : ℕ := min ((t - (start + k * p)) / p) n

/-- The steps made after a call at time `t`. -/
def tick (p n start k t : ℕ) : ℕ := k + due p n start k t

/-- A call whose backlog the clock can tell. -/
def Current (M p start k t : ℕ) : Prop := start + k * p ≤ t ∧ t < start + k * p + M

instance : Decidable (Current M p start k t) := inferInstanceAs (Decidable (_ ∧ _))

/-- **No step is undone.** -/
theorem le_tick : k ≤ tick p n start k t := Nat.le_add_right ..

/-- **No step is early.** -/
theorem tick_le (h : start + k * p ≤ t) : start + tick p n start k t * p ≤ t := by
  have hdue : due p n start k t * p ≤ t - (start + k * p) :=
    Nat.le_trans (Nat.mul_le_mul_right _ (Nat.min_le_left ..)) (Nat.div_mul_le_self ..)
  unfold tick
  rw [Nat.add_mul]
  omega

/-- **No step is left out** by a call that is not cut short. -/
theorem tick_backlog (hp : 0 < p) (h : due p n start k t < n) :
    t - (start + tick p n start k t * p) < p := by
  have hdue : due p n start k t = (t - (start + k * p)) / p := by
    unfold due at h ⊢
    omega
  have hmod := Nat.mod_lt (t - (start + k * p)) hp
  have hdiv := Nat.mod_add_div (t - (start + k * p)) p
  unfold tick
  rw [hdue, Nat.add_mul, Nat.mul_comm ((t - (start + k * p)) / p) p]
  omega

/-- Nothing is due before a period is over. -/
theorem min_div_of_lt (h : t - l < p) (n : ℕ) : min ((t - l) / p) n = 0 := by
  rw [Nat.div_eq_of_lt h, Nat.zero_min]

/-- The first of the steps that are due. -/
theorem min_div_succ (hp : 0 < p) (h : p ≤ t - l) (n : ℕ) :
    min ((t - l) / p) (n + 1) = min ((t - (l + p)) / p) n + 1 := by
  have hdiv : (t - l) / p = (t - (l + p)) / p + 1 := by
    rw [← Nat.sub_sub, ← Nat.div_eq_sub_div hp h]
  rw [hdiv, Nat.add_min_add_right]

/-! ### Calls, one after another -/

/-- The steps made after calls at these times. -/
def ticks (p n start : ℕ) (ts : List ℕ) : ℕ := run (tick p n start) 0 ts

/-- Calls by a clock that does not go back, none with a backlog that the clock cannot tell. -/
structure InTime (M p n start : ℕ) (ts : List ℕ) : Prop where
  forward : (start :: ts).IsChain (· ≤ ·)
  late : Along (tick p n start) (fun k t => t < start + k * p + M) 0 ts

theorem along_current {ts : List ℕ} (hle : start + k * p ≤ l) (hforward : (l :: ts).IsChain (· ≤ ·))
    (hlate : Along (tick p n start) (fun k t => t < start + k * p + M) k ts) :
    Along (tick p n start) (Current M p start) k ts := by
  induction ts generalizing k l with
  | nil => trivial
  | cons t ts ih =>
    rw [List.isChain_cons_cons] at hforward
    have hcurrent : start + k * p ≤ t := by omega
    exact ⟨⟨hcurrent, hlate.1⟩, ih (tick_le hcurrent) hforward.2 hlate.2⟩

/-- **The clock can tell every backlog** of such calls. -/
theorem InTime.along {ts : List ℕ} (h : InTime M p n start ts) :
    Along (tick p n start) (Current M p start) 0 ts := by
  refine along_current (l := start) ?_ h.forward h.late
  rw [Nat.zero_mul, Nat.add_zero]

theorem ticks_append (p n start : ℕ) (ts : List ℕ) (t : ℕ) :
    ticks p n start (ts ++ [t]) = tick p n start (ticks p n start ts) t := by
  unfold ticks
  rw [run_append, run_cons, run_nil]

/-- The last of such calls. -/
theorem InTime.last {ts : List ℕ} (h : InTime M p n start (ts ++ [t])) :
    Current M p start (ticks p n start ts) t :=
  ((along_append ts [t]).1 h.along).2.1

/-- **No step is undone** by the last call. -/
theorem ticks_le (ts : List ℕ) : ticks p n start ts ≤ ticks p n start (ts ++ [t]) := by
  rw [ticks_append]
  exact le_tick

/-- **Less than a period is left over**, unless the last call was cut short. -/
theorem InTime.elapsed_lt {ts : List ℕ} (h : InTime M p n start (ts ++ [t])) (hp : 0 < p)
    (hshort : ticks p n start (ts ++ [t]) < ticks p n start ts + n) :
    elapsed M (t % M) ((start + ticks p n start (ts ++ [t]) * p) % M) < p := by
  rw [ticks_append] at hshort ⊢
  have hlast := h.last
  have hle := tick_le (n := n) hlast.1
  have hmono : ticks p n start ts * p ≤ tick p n start (ticks p n start ts) t * p :=
    Nat.mul_le_mul_right _ le_tick
  rw [elapsed_mod hle (by have := hlast.2; omega)]
  exact tick_backlog hp (Nat.lt_of_add_lt_add_left hshort)

/-- **Run rule.**  What each call keeps, with the steps it makes, holds after all of them. -/
theorem run_tick {σ ι : Type*} {step : σ → ι → σ} {time : ι → ℕ} {R : ℕ → σ → Prop}
    (hstep : ∀ k s i, R k s → Current M p start k (time i) →
      R (tick p n start k (time i)) (step s i)) {s : σ} (hs : R k s) {is : List ι}
    (h : Along (tick p n start) (Current M p start) k (is.map time)) :
    R (run (tick p n start) k (is.map time)) (run step s is) := by
  induction is generalizing k s with
  | nil => exact hs
  | cons i is ih => exact ih (hstep k s i hs h.1) h.2

end WrapClock
