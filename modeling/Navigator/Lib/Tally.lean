/-
Counting over runs.

A machine takes inputs one after the other.  `tally` adds up a measure of its steps; if
every step pays for what it does, out of a credit the state carries or with what it gains,
then so does the run (`tally_add_le`).
-/
import Mathlib

namespace Tally

variable {σ ι : Type} {step : σ → ι → σ} {I : σ → Prop} {s : σ}
variable {is : List ι} {f : σ → ι → ℕ}

/-- The state after some inputs. -/
def run (step : σ → ι → σ) : List ι → σ → σ
  | [], s => s
  | i :: rest, s => run step rest (step s i)

/-- The sum of a measure over the steps of a run. -/
def tally (step : σ → ι → σ) (f : σ → ι → ℕ) : List ι → σ → ℕ
  | [], _ => 0
  | i :: rest, s => f s i + tally step f rest (step s i)

/-- Every input of a run meets the condition `C` in the state before it. -/
def Along (step : σ → ι → σ) (C : σ → ι → Prop) : List ι → σ → Prop
  | [], _ => True
  | i :: rest, s => C s i ∧ Along step C rest (step s i)

instance {C : σ → ι → Prop} [∀ s i, Decidable (C s i)] :
    ∀ is s, Decidable (Along step C is s)
  | [], _ => .isTrue trivial
  | i :: rest, s =>
    have : Decidable (Along step C rest (step s i)) := instDecidableAlong rest (step s i)
    inferInstanceAs (Decidable (C s i ∧ Along step C rest (step s i)))

theorem along_append {C : σ → ι → Prop} {is' : List ι} :
    Along step C (is ++ is') s ↔ Along step C is s ∧ Along step C is' (run step is s) := by
  induction is generalizing s with
  | nil => simp [Along, run]
  | cons i rest ih => simp only [List.cons_append, Along, run, ih, and_assoc]

theorem run_induction (hstep : ∀ s i, I s → I (step s i)) (is : List ι) (hs : I s) :
    I (run step is s) := by
  induction is generalizing s with
  | nil => exact hs
  | cons i rest ih => exact ih (hstep s i hs)

/-- **What every step pays for, the run pays for.** -/
theorem tally_add_le (cost gain : σ → ι → ℕ) (credit : σ → ℕ) (hstep : ∀ s i, I s → I (step s i))
    (hpaid : ∀ s i, I s → cost s i + credit (step s i) ≤ credit s + gain s i)
    (is : List ι) (hs : I s) :
    tally step cost is s + credit (run step is s) ≤ credit s + tally step gain is s := by
  induction is generalizing s with
  | nil => simp [tally, run]
  | cons i rest ih =>
    have hfirst := hpaid s i hs
    have hrest := ih (hstep s i hs)
    simp only [tally, run]
    omega

theorem tally_eq_zero_iff : tally step f is s = 0 ↔ Along step (fun s i => f s i = 0) is s := by
  induction is generalizing s with
  | nil => simp [tally, Along]
  | cons i rest ih => simp only [tally, Along, Nat.add_eq_zero_iff, ih]

/-- A measure is zero over a run if any step that counts would leave a mark that lasts, and
there is none in the end. -/
theorem tally_eq_zero {M : σ → Prop} (hstep : ∀ s i, I s → I (step s i))
    (hlasts : ∀ s i, I s → M s → M (step s i)) (hcounts : ∀ s i, I s → f s i ≠ 0 → M s)
    (is : List ι) (hs : I s) (hend : ¬ M (run step is s)) : tally step f is s = 0 := by
  induction is generalizing s with
  | nil => rfl
  | cons i rest ih =>
    have hfirst : f s i = 0 := by
      by_contra hne
      have hboth : I s ∧ M s := ⟨hs, hcounts s i hs hne⟩
      exact hend (run_induction (I := fun s => I s ∧ M s)
        (fun s i h => ⟨hstep s i h.1, hlasts s i h.1 h.2⟩) (i :: rest) hboth).2
    simp only [tally, hfirst, ih (hstep s i hs) hend]

end Tally
