/-
Fencing by epochs and leases.

A `Fence` is held by at most one holder, under an epoch and until a time.  Time is a
floor that is raised and never lowered, so a lease that has run out stays that way
whatever the clock says later; epochs are handed out in order, so a holder that was
followed by another is recognised by its epoch.

* **`Retired.run`** — an epoch that is retired stays retired;
* **`Retired.not_accepts`** — and is never accepted;
* **`Accepts.unique`** — at most one holder and epoch is accepted at a time.
-/
import Mathlib

/-- Who holds the fence, under which epoch and until when; the highest epoch handed
out; and the time that has been seen. -/
structure Fence (H T : Type) where
  holder : Option (H × ℕ × T)
  highWater : ℕ
  floor : T
  bounded : ∀ h ∈ holder, h.2.1 ≤ highWater

namespace Fence

variable {H T : Type} [LinearOrder T]
variable {h : H} {e : ℕ}

/-- What can happen to a fence. -/
inductive Step : Fence H T → Fence H T → Prop
  /-- Time is seen to pass. -/
  | observe {f f' : Fence H T} (holder : f'.holder = f.holder)
      (highWater : f'.highWater = f.highWater) (floor : f.floor ≤ f'.floor) : Step f f'
  /-- The next epoch goes to a new holder, once the lease of the last has run out. -/
  | acquire {f f' : Fence H T} (h : H) (until' : T) (free : ∀ held ∈ f.holder, held.2.2 ≤ f.floor)
      (holder : f'.holder = some (h, f.highWater + 1, until'))
      (highWater : f'.highWater = f.highWater + 1) (floor : f'.floor = f.floor) : Step f f'
  /-- The holder extends its lease while it is in force. -/
  | renew {f f' : Fence H T} (h : H) (e : ℕ) (t until' : T) (held : f.holder = some (h, e, t))
      (inForce : f.floor < t) (holder : f'.holder = some (h, e, until'))
      (highWater : f'.highWater = f.highWater) (floor : f'.floor = f.floor) : Step f f'
  /-- The holder leaves. -/
  | release {f f' : Fence H T} (holder : f'.holder = none)
      (highWater : f'.highWater = f.highWater) (floor : f'.floor = f.floor) : Step f f'

/-- The holder `h` of epoch `e` is let through. -/
def Accepts (f : Fence H T) (h : H) (e : ℕ) : Prop :=
  ∃ t, f.holder = some (h, e, t) ∧ f.floor < t

/-- The epoch has been handed out, and whoever held it has lost it: to another, or to
time. -/
def Retired (f : Fence H T) (h : H) (e : ℕ) : Prop :=
  e ≤ f.highWater ∧ ∀ t, f.holder = some (h, e, t) → t ≤ f.floor

variable {f : Fence H T}

theorem Accepts.unique {h' : H} {e' : ℕ} (hf : f.Accepts h e) (hf' : f.Accepts h' e') :
    h = h' ∧ e = e' := by
  obtain ⟨t, ht, -⟩ := hf
  obtain ⟨t', ht', -⟩ := hf'
  rw [ht] at ht'
  cases ht'
  exact ⟨rfl, rfl⟩

variable {f' : Fence H T}

theorem Step.highWater_le (h : Step f f') : f.highWater ≤ f'.highWater := by
  cases h <;> omega

theorem Step.floor_le (h : Step f f') : f.floor ≤ f'.floor := by
  cases h with
  | observe _ _ h => exact h
  | acquire _ _ _ _ _ h | renew _ _ _ _ _ _ _ _ h | release _ _ h => exact h.ge

abbrev Run : Fence H T → Fence H T → Prop := Relation.ReflTransGen Step

theorem Run.highWater_le (h : Run f f') : f.highWater ≤ f'.highWater := by
  induction h with
  | refl => exact Nat.le_refl _
  | tail _ hs ih => exact Nat.le_trans ih hs.highWater_le

theorem Run.floor_le (h : Run f f') : f.floor ≤ f'.floor := by
  induction h with
  | refl => exact le_rfl
  | tail _ hs ih => exact ih.trans hs.floor_le

/-- One step keeps an epoch retired: nothing hands it out again, and a lease that has run
out is not extended. -/
theorem Retired.step (hr : f.Retired h e) (hs : Step f f') : f'.Retired h e := by
  refine ⟨Nat.le_trans hr.1 hs.highWater_le, fun t ht => ?_⟩
  cases hs with
  | observe holder _ floor => exact (hr.2 t (holder ▸ ht)).trans floor
  | acquire g _ _ holder _ _ =>
    rw [holder] at ht
    cases ht
    exact absurd hr.1 (Nat.not_succ_le_self _)
  | renew g e' u _ held inForce holder _ _ =>
    rw [holder] at ht
    cases ht
    exact absurd (hr.2 u held) inForce.not_ge
  | release holder _ _ =>
    rw [holder] at ht
    cases ht

theorem Retired.run (hr : f.Retired h e) (hs : Run f f') : f'.Retired h e := by
  induction hs with
  | refl => exact hr
  | tail _ hs ih => exact ih.step hs

theorem Retired.not_accepts (hr : f.Retired h e) : ¬ f.Accepts h e := by
  rintro ⟨t, ht, hlt⟩
  exact absurd (hr.2 t ht) hlt.not_ge

/-- An epoch below the holder's is retired. -/
theorem Retired.of_newer {g : H} {e' : ℕ} {t : T} (hold : f.holder = some (g, e', t))
    (hlt : e < e') : f.Retired h e := by
  refine ⟨Nat.le_trans (Nat.le_of_lt hlt) (f.bounded _ hold), fun u hu => ?_⟩
  rw [hold] at hu
  cases hu
  exact absurd hlt (Nat.lt_irrefl _)

end Fence
