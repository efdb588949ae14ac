/-
# Checked arrays and machines that may fail

What C code does with sizes it has computed, as partial functions: a subtraction of
unsigned numbers fails where it would wrap, and a block read or write where it would leave
the array.

A machine whose step may fail runs until a step does.  `run_eq` is its rule: where an
invariant makes every step succeed, and do what the step of a total machine does, no run
fails, and every run is the total machine's.
-/

import G6Arena.Lib.ByteMem
import G6Arena.Lib.Machine

namespace Checked

open ByteMem

/-! ### Sizes and blocks -/

/-- `a - b`, when it does not wrap. -/
def sub (a b : ℕ) : Option ℕ := if b ≤ a then some (a - b) else none

/-- The `n` bytes at `off` of an array of `size` bytes. -/
def read (size : ℕ) (m : Mem) (off n : ℕ) : Option (List UInt8) :=
  if off + n ≤ size then some (bytesAt m off n) else none

/-- An array of `size` bytes with the block `bs` written at `off`. -/
def write (size : ℕ) (m : Mem) (off : ℕ) (bs : List UInt8) : Option Mem :=
  if off + bs.length ≤ size then some (store m off bs) else none

theorem sub_of_le {a b : ℕ} (h : b ≤ a) : sub a b = some (a - b) := if_pos h

theorem read_of_le {size off n : ℕ} (m : Mem) (h : off + n ≤ size) :
    read size m off n = some (bytesAt m off n) := if_pos h

theorem write_of_le {size off : ℕ} {bs : List UInt8} (m : Mem) (h : off + bs.length ≤ size) :
    write size m off bs = some (store m off bs) := if_pos h

/-! ### Machines -/

variable {σ ι : Type*} {checked : σ → ι → Option σ} {step : σ → ι → σ}

/-- The state after a list of inputs, if no step fails. -/
def run (checked : σ → ι → Option σ) : σ → List ι → Option σ
  | s, [] => some s
  | s, i :: is => (checked s i).bind fun s' => run checked s' is

/-- **Checked runs.** -/
theorem run_eq {I : σ → Prop} (hchecked : ∀ s i, I s → checked s i = some (step s i))
    (hstep : ∀ s i, I s → I (step s i)) {s : σ} (hs : I s) (is : List ι) :
    run checked s is = some (Machine.run step s is) ∧ I (Machine.run step s is) := by
  induction is generalizing s with
  | nil => exact ⟨rfl, hs⟩
  | cons i is ih =>
      rw [run, hchecked s i hs, Option.bind_some]
      exact ih (hstep s i hs)

end Checked
