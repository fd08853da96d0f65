/-
Transaction bodies.

A transaction reads and writes a state `σ` and ends in one of three ways: it is
done, it is refused (what it wrote so far is kept, so that the refusal can be
recorded in the same transaction), or it is aborted and rolled back.  `Tx` is the
monad of such bodies; `Write` is the part of a body after which no refusal is
possible any more.

* **`bind_done`** — a finished sequence splits into its finished parts;
* **`RefusesWithin.bind`** — what a refused sequence may have changed;
* **`each_induction`** — the loop rule for `each`.
-/
import Mathlib

namespace Txn

/-- How a transaction body ends. -/
inductive Outcome (σ ρ ε α : Type) where
  /-- It ran to its end. -/
  | done (value : α) (state : σ)
  /-- It gave up, and the state it gave up in is committed. -/
  | refused (reason : ρ) (state : σ)
  /-- It failed, and everything it wrote is rolled back. -/
  | aborted (error : ε)

/-- A transaction body over the state `σ`. -/
def Tx (σ ρ ε α : Type) : Type := σ → Outcome σ ρ ε α

/-- A transaction body that is never refused. -/
abbrev Write (σ ε α : Type) : Type := Tx σ Empty ε α

variable {σ ρ ε α β : Type}

namespace Tx

/-- Sequencing: a refusal and an abort both end the body. -/
def bind (x : Tx σ ρ ε α) (f : α → Tx σ ρ ε β) : Tx σ ρ ε β := fun s =>
  match x s with
  | .done a s₁ => f a s₁
  | .refused r s₁ => .refused r s₁
  | .aborted e => .aborted e

instance : Monad (Tx σ ρ ε) where
  pure a := fun s => .done a s
  bind := bind

instance : LawfulMonad (Tx σ ρ ε) := LawfulMonad.mk' (Tx σ ρ ε)
  (by
    intro α x
    funext s
    change Tx.bind x _ s = _
    unfold Tx.bind
    cases x s <;> rfl)
  (fun _ _ => rfl)
  (by
    intro α β γ x f g
    funext s
    change Tx.bind (Tx.bind x f) g s = Tx.bind x (fun a => Tx.bind (f a) g) s
    unfold Tx.bind
    cases x s <;> rfl)

/-- Read the state. -/
def read (f : σ → α) : Tx σ ρ ε α := fun s => .done (f s) s

/-- Change the state. -/
def write (f : σ → σ) : Tx σ ρ ε Unit := fun s => .done () (f s)

/-- Give up for `r`, and keep what was written. -/
def refuse (r : ρ) : Tx σ ρ ε α := fun s => .refused r s

/-- Fail with `e`, and roll back. -/
def abort (e : ε) : Tx σ ρ ε α := fun _ => .aborted e

/-- Give up for `r` unless `p` holds. -/
def require (p : Prop) [Decidable p] (r : ρ) : Tx σ ρ ε Unit :=
  if p then pure () else refuse r

/-- Fail with `e` unless `p` holds. -/
def ensure (p : Prop) [Decidable p] (e : ε) : Tx σ ρ ε Unit :=
  if p then pure () else abort e

/-- The value of an option, or a failure. -/
def orAbort (o : Option α) (e : ε) : Tx σ ρ ε α :=
  match o with
  | some a => pure a
  | none => abort e

/-- The value of an option, or a refusal. -/
def orRefuse (o : Option α) (r : ρ) : Tx σ ρ ε α :=
  match o with
  | some a => pure a
  | none => refuse r

/-- The value of a result, or a failure with its error. -/
def ofExcept (x : Except ε α) : Tx σ ρ ε α :=
  match x with
  | .ok a => pure a
  | .error e => abort e

/-- The value of a result, or a refusal that says why. -/
def acceptOr (reason : ε → ρ) (x : Except ε α) : Tx σ ρ ε α :=
  match x with
  | .ok a => pure a
  | .error e => refuse (reason e)

/-- The write phase of a body. -/
def commit (w : Write σ ε α) : Tx σ ρ ε α := fun s =>
  match w s with
  | .done a s₁ => .done a s₁
  | .aborted e => .aborted e

/-- Run `f` on the members of a list, first to last. -/
def each (f : β → Tx σ ρ ε Unit) : List β → Tx σ ρ ε Unit
  | [] => pure ()
  | b :: bs => do
    f b
    each f bs

/-- Run `f` on every member of a list and keep what it returns. -/
def collect (f : β → Tx σ ρ ε α) : List β → Tx σ ρ ε (List α)
  | [] => pure []
  | b :: bs => do
    let a ← f b
    let as ← collect f bs
    return a :: as

/-! ### Results -/

variable {a b : α} {p : Prop} [Decidable p] {r : ρ} {e : ε} {o : Option α}

@[simp] theorem result_bind_ok {x : Except ε α} {f : α → Except ε β} {b : β} :
    (x >>= f) = .ok b ↔ ∃ a, x = .ok a ∧ f a = .ok b := by
  cases x <;> simp [Bind.bind, Except.bind]

@[simp] theorem result_map_ok {x : Except ε α} {f : α → β} {b : β} :
    x.map f = .ok b ↔ ∃ a, x = .ok a ∧ f a = b := by
  cases x <;> simp [Except.map]

@[simp] theorem result_pure_ok : (Pure.pure a : Except ε α) = .ok b ↔ a = b := by
  simp [Pure.pure, Except.pure]

/-- Fail unless `p`. -/
def check (p : Prop) [Decidable p] (e : ε) : Except ε Unit :=
  if p then .ok () else .error e

/-- Fail unless there is a value. -/
def need (o : Option α) (e : ε) : Except ε α :=
  match o with
  | some a => .ok a
  | none => .error e

@[simp] theorem check_ok : check p e = .ok u ↔ p := by
  by_cases hp : p <;> simp [check, hp]

@[simp] theorem need_ok : need o e = .ok a ↔ o = some a := by
  cases o <;> simp [need]

variable {bs : List β}

/-- A loop over a list returns what each member returns, if each of them passes. -/
theorem result_mapM_ok {f : α → Except ε β} {g : α → β} {p : α → Prop} {l : List α}
    (h : ∀ a ∈ l, ∀ b, f a = .ok b ↔ g a = b ∧ p a) :
    l.mapM f = .ok bs ↔ l.map g = bs ∧ ∀ a ∈ l, p a := by
  induction l generalizing bs with
  | nil => simp [Pure.pure, Except.pure]
  | cons a l ih =>
    have hrest : ∀ bs, l.mapM f = .ok bs ↔ l.map g = bs ∧ ∀ a ∈ l, p a :=
      fun bs => ih fun a ha => h a (List.mem_cons_of_mem _ ha)
    have hfirst := h a List.mem_cons_self
    simp only [List.mapM_cons, result_bind_ok, result_pure_ok, hfirst, hrest, List.map_cons,
      List.forall_mem_cons]
    constructor
    · rintro ⟨_, ⟨rfl, ha⟩, _, ⟨rfl, hl⟩, rfl⟩
      exact ⟨rfl, ha, hl⟩
    · rintro ⟨rfl, ha, hl⟩
      exact ⟨_, ⟨rfl, ha⟩, _, ⟨rfl, hl⟩, rfl⟩

/-! ### Finished bodies -/

variable {s s' : σ} {x : Tx σ ρ ε α} {f : α → Tx σ ρ ε β}

theorem bind_done {b : β} :
    (x >>= f) s = .done b s' ↔ ∃ a s₁, x s = .done a s₁ ∧ f a s₁ = .done b s' := by
  change Tx.bind x f s = _ ↔ _
  unfold Tx.bind
  cases x s with
  | done a s₁ => exact ⟨fun h => ⟨a, s₁, rfl, h⟩, by rintro ⟨_, _, ⟨⟩, h⟩; exact h⟩
  | _ => simp

@[simp] theorem pure_done : (pure a : Tx σ ρ ε α) s = .done b s' ↔ a = b ∧ s = s' := by
  change Outcome.done a s = _ ↔ _
  simp

@[simp] theorem map_done {f : α → β} {b : β} :
    (f <$> x) s = .done b s' ↔ ∃ a, x s = .done a s' ∧ f a = b := by
  rw [map_eq_pure_bind, bind_done]
  simp only [pure_done]
  constructor
  · rintro ⟨a, s₁, hx, rfl, rfl⟩
    exact ⟨a, hx, rfl⟩
  · rintro ⟨a, hx, rfl⟩
    exact ⟨a, s', hx, rfl, rfl⟩

@[simp] theorem read_done {f : σ → α} :
    (read f : Tx σ ρ ε α) s = .done b s' ↔ f s = b ∧ s = s' := by
  simp [read]

@[simp] theorem write_done {f : σ → σ} : (write f : Tx σ ρ ε Unit) s = .done u s' ↔ f s = s' := by
  simp [write]

@[simp] theorem refuse_done : ¬ (refuse r : Tx σ ρ ε α) s = .done b s' := by
  simp [refuse]

@[simp] theorem abort_done : ¬ (abort e : Tx σ ρ ε α) s = .done b s' := by
  simp [abort]

@[simp] theorem require_done : (require p r : Tx σ ρ ε Unit) s = .done u s' ↔ p ∧ s = s' := by
  unfold require
  split <;> simp_all

@[simp] theorem ensure_done : (ensure p e : Tx σ ρ ε Unit) s = .done u s' ↔ p ∧ s = s' := by
  unfold ensure
  split <;> simp_all

@[simp] theorem orAbort_done : (orAbort o e : Tx σ ρ ε α) s = .done b s' ↔ o = some b ∧ s = s' := by
  cases o <;> simp [orAbort]

@[simp] theorem orRefuse_done :
    (orRefuse o r : Tx σ ρ ε α) s = .done b s' ↔ o = some b ∧ s = s' := by
  cases o <;> simp [orRefuse]

@[simp] theorem ofExcept_done {x : Except ε α} :
    (ofExcept x : Tx σ ρ ε α) s = .done b s' ↔ x = .ok b ∧ s = s' := by
  cases x <;> simp [ofExcept]

variable {reason : ε → ρ}

@[simp] theorem acceptOr_done {x : Except ε α} :
    (acceptOr reason x : Tx σ ρ ε α) s = .done b s' ↔ x = .ok b ∧ s = s' := by
  cases x <;> simp [acceptOr]

variable {w : Write σ ε α}

@[simp] theorem commit_done : (commit w : Tx σ ρ ε α) s = .done b s' ↔ w s = .done b s' := by
  unfold commit
  cases w s with
  | refused r _ => exact r.elim
  | _ => simp

@[simp] theorem write_bind_done {f : σ → σ} {k : Unit → Tx σ ρ ε α} :
    (write f >>= k) s = .done a s' ↔ k () (f s) = .done a s' := Iff.rfl

/-- The rules for a body that begins with a step that looks or writes, and for its end. -/
@[simp] theorem looks_done :
    (∀ {α β : Type} {a : α} {f : σ → β} {g : β → Tx σ ρ ε α},
      (read f >>= g) s = .done a s' ↔ g (f s) s = .done a s') ∧
    (∀ {α : Type} {a : α} {p : Prop} [Decidable p] {r : ρ} {k : Unit → Tx σ ρ ε α},
      (require p r >>= k) s = .done a s' ↔ p ∧ k () s = .done a s') ∧
    (∀ {α : Type} {a : α} {p : Prop} [Decidable p] {e : ε} {k : Unit → Tx σ ρ ε α},
      (ensure p e >>= k) s = .done a s' ↔ p ∧ k () s = .done a s') ∧
    (∀ {α β : Type} {a : α} {o : Option β} {e : ε} {g : β → Tx σ ρ ε α},
      (orAbort o e >>= g) s = .done a s' ↔ ∃ b, o = some b ∧ g b s = .done a s') ∧
    (∀ {α β : Type} {a : α} {o : Option β} {r : ρ} {g : β → Tx σ ρ ε α},
      (orRefuse o r >>= g) s = .done a s' ↔ ∃ b, o = some b ∧ g b s = .done a s') ∧
    (∀ {α β : Type} {a : α} {x : Except ε β} {g : β → Tx σ ρ ε α},
      (ofExcept x >>= g) s = .done a s' ↔ ∃ b, x = .ok b ∧ g b s = .done a s') ∧
    (∀ {α β : Type} {a : α} {reason : ε → ρ} {x : Except ε β} {g : β → Tx σ ρ ε α},
      (acceptOr reason x >>= g) s = .done a s' ↔ ∃ b, x = .ok b ∧ g b s = .done a s') ∧
    (∀ {α : Type} {a : α} {f : σ → σ} {k : Unit → Tx σ ρ ε α},
      (write f >>= k) s = .done a s' ↔ k () (f s) = .done a s') ∧
    (∀ {α β : Type} {a : α} {w : Write σ ε β} {g : β → Tx σ ρ ε α},
      (commit w >>= g) s = .done a s' ↔ ∃ b s₁, w s = .done b s₁ ∧ g b s₁ = .done a s') ∧
    (∀ {f : σ → σ} {u : Unit}, (write f : Tx σ ρ ε Unit) s = .done u s' ↔ f s = s') ∧
    ∀ {α : Type} {a b : α}, (pure a : Tx σ ρ ε α) s = .done b s' ↔ a = b ∧ s = s' := by
  simp [bind_done, and_assoc, Unique.exists_iff]

/-- **The loop rule**: what holds of all members before the loop, and of the
remaining ones after each round, holds of none at the end. -/
theorem each_induction {u : Unit} {f : β → Tx σ ρ ε Unit} {motive : List β → σ → Prop}
    (step : ∀ b bs s s', motive (b :: bs) s → f b s = .done () s' → motive bs s') (h0 : motive bs s)
    (h : each f bs s = .done u s') : motive [] s' := by
  induction bs generalizing s with
  | nil =>
    cases h
    exact h0
  | cons b bs ih =>
    obtain ⟨_, s₁, hb, hbs⟩ := bind_done.mp h
    exact ih (step b bs s s₁ h0 hb) hbs

/-- The loop rule for `collect`. -/
theorem collect_induction {f : β → Tx σ ρ ε α} {motive : List β → σ → Prop}
    (step : ∀ b bs s a s', motive (b :: bs) s → f b s = .done a s' → motive bs s') {as : List α}
    (h0 : motive bs s) (h : collect f bs s = .done as s') : motive [] s' := by
  induction bs generalizing s as with
  | nil =>
    cases h
    exact h0
  | cons b bs ih =>
    obtain ⟨a, s₁, hb, h⟩ := bind_done.mp h
    obtain ⟨as', s2, hbs, h⟩ := bind_done.mp h
    cases h
    exact ih (step b bs s a s₁ h0 hb) hbs

/-- A loop whose every round goes through goes through. -/
theorem collect_total {f : β → Tx σ ρ ε α} {motive : List β → σ → Prop}
    (step : ∀ b bs s, motive (b :: bs) s → ∃ a s', f b s = .done a s' ∧ motive bs s')
    (h : motive bs s) : ∃ as s', collect f bs s = .done as s' := by
  induction bs generalizing s with
  | nil => exact ⟨[], s, rfl⟩
  | cons b bs ih =>
    obtain ⟨a, s₁, hb, h1⟩ := step b bs s h
    obtain ⟨as, s2, hbs⟩ := ih h1
    exact ⟨a :: as, s2, bind_done.mpr ⟨a, s₁, hb, bind_done.mpr ⟨as, s2, hbs, rfl⟩⟩⟩

/-! ### What a body may change -/

section Within

variable {R : σ → σ → Prop}

/-- However `x` commits, it leaves the state within `R` of where it began. -/
def Within (R : σ → σ → Prop) (x : Tx σ ρ ε α) : Prop :=
  (∀ s a s', x s = .done a s' → R s s') ∧ ∀ s r s', x s = .refused r s' → R s s'

/-- Every refusal of `x` leaves the state within `R` of where `x` began. -/
def RefusesWithin (R : σ → σ → Prop) (x : Tx σ ρ ε α) : Prop :=
  ∀ s r s', x s = .refused r s' → R s s'

theorem Within.done (hx : x s = .done a s') (h : Within R x) : R s s' :=
  h.1 s a s' hx

/-- A body that is never refused. -/
theorem Within.of_done (h : ∀ s a s', w s = .done a s' → R s s') : Within R w :=
  ⟨h, fun _ r _ _ => r.elim⟩

/-- A relation may be enlarged. -/
theorem Within.mono {R' : σ → σ → Prop} (h : Within R x) (hR : ∀ s s', R s s' → R' s s') :
    Within R' x :=
  ⟨fun s a s' hx => hR _ _ (h.1 s a s' hx), fun s r s' hx => hR _ _ (h.2 s r s' hx)⟩

@[simp] theorem RefusesWithin.commit : RefusesWithin R (commit w : Tx σ ρ ε α) := by
  intro s r s' h
  unfold Tx.commit at h
  cases hw : w s with
  | refused r _ => exact r.elim
  | done _ _ => simp [hw] at h
  | aborted _ => simp [hw] at h

@[simp] theorem RefusesWithin.map {f : α → β} (h : RefusesWithin R x) :
    RefusesWithin R (f <$> x) := by
  intro s r s' hx
  change Tx.bind x (fun a => Pure.pure (f a)) s = _ at hx
  unfold Tx.bind at hx
  cases ha : x s with
  | done _ _ => simp [ha, Pure.pure] at hx
  | aborted _ => simp [ha] at hx
  | refused r' s₁ =>
    simp only [ha, Outcome.refused.injEq] at hx
    exact hx.2 ▸ h s r' s₁ ha

@[simp] theorem RefusesWithin.pure : RefusesWithin R (Pure.pure a : Tx σ ρ ε α) := by
  intro s r s' h
  cases h

@[simp] theorem RefusesWithin.bind [IsTrans σ R] (hx : Within R x)
    (hf : ∀ a, RefusesWithin R (f a)) : RefusesWithin R (x >>= f) := by
  intro s r s' h
  change Tx.bind x f s = _ at h
  unfold Tx.bind at h
  cases hs : x s with
  | done a s₁ =>
    rw [hs] at h
    exact Trans.trans (hx.1 s a s₁ hs) (hf a s₁ r s' h)
  | refused r1 s₁ =>
    rw [hs] at h
    cases h
    exact hx.2 s r s' hs
  | aborted e =>
    rw [hs] at h
    cases h

@[simp] theorem Within.bind [IsTrans σ R] (hx : Within R x) (hf : ∀ a, Within R (f a)) :
    Within R (x >>= f) := by
  refine ⟨fun s b s' h => ?_, RefusesWithin.bind hx fun a => (hf a).2⟩
  obtain ⟨a, s₁, hs, hb⟩ := bind_done.mp h
  exact Trans.trans (hx.1 s a s₁ hs) ((hf a).1 s₁ b s' hb)

@[simp] theorem Within.map {f : α → β} (h : Within R x) :
    Within R (f <$> x) := by
  refine ⟨fun s b s' hx => ?_, RefusesWithin.map h.2⟩
  obtain ⟨a, ha, -⟩ := map_done.mp hx
  exact h.1 s a s' ha

@[simp] theorem Within.commit (h : Within R w) : Within R (Tx.commit w : Tx σ ρ ε α) :=
  ⟨fun s a s' hw => h.1 s a s' (commit_done.mp hw), RefusesWithin.commit⟩

theorem Within.write {f : σ → σ} (h : ∀ s, R s (f s)) : Within R (Tx.write f : Tx σ ρ ε Unit) := by
  refine ⟨fun s u s' hw => ?_, fun _ _ _ hw => (nomatch hw)⟩
  cases hw
  exact h s

@[simp] theorem Within.abort : Within R (abort e : Tx σ ρ ε α) :=
  ⟨fun _ _ _ h => (nomatch h), fun _ _ _ h => (nomatch h)⟩

variable [Std.Refl R]

@[simp] theorem Within.pure : Within R (Pure.pure a : Tx σ ρ ε α) := by
  refine ⟨fun s b s' h => ?_, RefusesWithin.pure⟩
  cases h
  exact Std.Refl.refl s

@[simp] theorem Within.refuse : Within R (refuse r : Tx σ ρ ε α) := by
  refine ⟨fun s b s' h => (refuse_done h).elim, fun s r s' h => ?_⟩
  cases h
  exact Std.Refl.refl s

theorem Within.collect [IsTrans σ R] {f : β → Tx σ ρ ε α} (h : ∀ b, Within R (f b)) :
    Within R (Tx.collect f bs) := by
  induction bs with
  | nil => exact Within.pure
  | cons b bs ih => exact Within.bind (h b) fun _ => Within.bind ih fun _ => Within.pure

@[simp] theorem Within.read {f : σ → α} : Within R (read f : Tx σ ρ ε α) := by
  refine ⟨fun s b s' h => ?_, fun _ _ _ h => (nomatch h)⟩
  obtain ⟨-, rfl⟩ := read_done.mp h
  exact Std.Refl.refl s

@[simp] theorem Within.require : Within R (require p r : Tx σ ρ ε Unit) := by
  unfold Tx.require
  split
  · exact Within.pure
  · exact Within.refuse

@[simp] theorem Within.ensure : Within R (ensure p e : Tx σ ρ ε Unit) := by
  unfold Tx.ensure
  split
  · exact Within.pure
  · exact Within.abort

@[simp] theorem Within.orAbort : Within R (orAbort o e : Tx σ ρ ε α) := by
  cases o
  · exact Within.abort
  · exact Within.pure

@[simp] theorem Within.orRefuse : Within R (orRefuse o r : Tx σ ρ ε α) := by
  cases o
  · exact Within.refuse
  · exact Within.pure

@[simp] theorem Within.ofExcept {x : Except ε α} : Within R (ofExcept x : Tx σ ρ ε α) := by
  cases x
  · exact Within.abort
  · exact Within.pure

@[simp] theorem Within.acceptOr {x : Except ε α} : Within R (acceptOr reason x : Tx σ ρ ε α) := by
  cases x
  · exact Within.refuse
  · exact Within.pure

end Within

end Tx

end Txn
