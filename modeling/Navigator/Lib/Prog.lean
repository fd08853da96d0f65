/-
Programs that call on an environment.

A program makes calls `e : E` and goes on with their answers, of type `A e`; what the
environment answers is not the program's to decide.  It ends with a result or with an
error.  What has happened so far is a history of calls and answers, newest first.

* **`Prog`** — programs, a monad;
* **`Prog.Obeys`** — whatever the answers, each call is one that the history before it
  allows, and the result is as the history at the end requires; with a rule for each
  way of building a program;
* **`Prog.Goes`** — the executions of a program, stopped anywhere;
* **`Prog.Obeys.goes`**, **`Prog.Obeys.always`** — a program that obeys a rule has obeyed it
  wherever it is stopped;
* **`Prog.Leads`** — where the answers of a world lead a program, with its rules.
-/
import Mathlib

namespace Navigator

/-- A program: it has ended, or it makes a call and goes on with the answer. -/
inductive Prog (E : Type) (A : E → Type) (ε α : Type) : Type
  | ret (x : Except ε α)
  | call (e : E) (k : A e → Prog E A ε α)

/-- A call with its answer. -/
abbrev Act (E : Type) (A : E → Type) : Type := (e : E) × A e

namespace Prog

variable {E : Type} {A : E → Type} {ε α β : Type}

protected def bind : Prog E A ε α → (α → Prog E A ε β) → Prog E A ε β
  | ret (.ok a), f => f a
  | ret (.error e), _ => ret (.error e)
  | call e k, f => call e fun r => (k r).bind f

instance : Monad (Prog E A ε) where
  pure a := ret (.ok a)
  bind := Prog.bind

/-- A call, for its answer. -/
def perform (e : E) : Prog E A ε (A e) := call e fun r => ret (.ok r)

def fail (e : ε) : Prog E A ε α := ret (.error e)

/-- A value that may be an error. -/
def ofExcept (x : Except ε α) : Prog E A ε α := ret x

/-- The result of a program, an error or not. -/
def attempt {ε' : Type} : Prog E A ε α → Prog E A ε' (Except ε α)
  | ret x => ret (.ok x)
  | call e k => call e fun r => (k r).attempt

/-- A program whose calls are made as calls of another kind. -/
def embed {E' : Type} {A' : E' → Type} (f : E → E') (g : ∀ e, A' (f e) → A e) :
    Prog E A ε α → Prog E' A' ε α
  | ret x => ret x
  | call e k => call (f e) fun r => (k (g e r)).embed f g

/-! ### Rules that a program obeys -/

/-- Whatever the answers are, `G` allows each call after the history before it, and `Q` holds
of the result and the history at the end. -/
def Obeys (G : List (Act E A) → E → Prop) (Q : Except ε α → List (Act E A) → Prop) :
    List (Act E A) → Prog E A ε α → Prop
  | h, ret x => Q x h
  | h, call e k => G h e ∧ ∀ r, Obeys G Q (⟨e, r⟩ :: h) (k r)

variable {G : List (Act E A) → E → Prop} {Q Q' : Except ε α → List (Act E A) → Prop}
  {h h' : List (Act E A)} {p p' : Prog E A ε α}
variable {x : Except ε α} {e : E}

@[simp] theorem obeys_ret : (ret x : Prog E A ε α).Obeys G Q h ↔ Q x h :=
  .rfl

@[simp] theorem obeys_pure {a : α} : (pure a : Prog E A ε α).Obeys G Q h ↔ Q (.ok a) h :=
  .rfl

@[simp] theorem obeys_fail {e : ε} : (fail e : Prog E A ε α).Obeys G Q h ↔ Q (.error e) h :=
  .rfl

@[simp] theorem obeys_ofExcept : (ofExcept x : Prog E A ε α).Obeys G Q h ↔ Q x h :=
  .rfl

theorem obeys_call {k : A e → Prog E A ε α} :
    (call e k).Obeys G Q h ↔ G h e ∧ ∀ r, (k r).Obeys G Q (⟨e, r⟩ :: h) :=
  .rfl

@[simp] theorem obeys_perform {R : Except ε (A e) → List (Act E A) → Prop} :
    (perform e : Prog E A ε (A e)).Obeys G R h ↔ G h e ∧ ∀ r, R (.ok r) (⟨e, r⟩ :: h) :=
  .rfl

/-- What is required where the first part of a program has ended. -/
def Then (G : List (Act E A) → E → Prop) (Q : Except ε β → List (Act E A) → Prop)
    (f : α → Prog E A ε β) : Except ε α → List (Act E A) → Prop
  | .ok a, h => (f a).Obeys G Q h
  | .error e, h => Q (.error e) h

variable {f : α → Prog E A ε β}

@[simp] theorem then_ok {R : Except ε β → List (Act E A) → Prop} {a : α} :
    Then G R f (.ok a) h ↔ (f a).Obeys G R h :=
  .rfl

@[simp] theorem then_error {R : Except ε β → List (Act E A) → Prop} {e : ε} :
    Then G R f (.error e) h ↔ R (.error e) h :=
  .rfl

@[simp] theorem obeys_bind {R : Except ε β → List (Act E A) → Prop} :
    (p >>= f).Obeys G R h ↔ p.Obeys G (Then G R f) h := by
  change (p.bind f).Obeys G R h ↔ _
  induction p generalizing h with
  | ret x => cases x <;> exact .rfl
  | call e k ih => exact and_congr .rfl (forall_congr' fun r => ih r)

@[simp] theorem obeys_attempt {ε' : Type} {R : Except ε' (Except ε α) → List (Act E A) → Prop} :
    (p.attempt : Prog E A ε' (Except ε α)).Obeys G R h ↔ p.Obeys G (fun x => R (.ok x)) h := by
  induction p generalizing h with
  | ret x => exact .rfl
  | call e k ih => exact and_congr .rfl (forall_congr' fun r => ih r)

/-- A call and what follows on its answer. -/
theorem Obeys.perform {f : A e → Prog E A ε β} {R : Except ε β → List (Act E A) → Prop}
    (hG : G h e) (hf : ∀ r, (f r).Obeys G R (⟨e, r⟩ :: h)) :
    (Prog.perform e >>= f).Obeys G R h :=
  ⟨hG, hf⟩

theorem Obeys.ite {b : Prop} [Decidable b] {q : Prog E A ε α} (hp : p.Obeys G Q h)
    (hq : q.Obeys G Q h) : (if b then p else q).Obeys G Q h := by
  split
  · exact hp
  · exact hq

theorem Obeys.mono (hp : p.Obeys G Q h) (hQ : ∀ x h, Q x h → Q' x h) : p.Obeys G Q' h := by
  induction p generalizing h with
  | ret x => exact hQ x h hp
  | call e k ih => exact ⟨hp.1, fun r => ih r (hp.2 r)⟩

/-- The rule of sequences. -/
theorem Obeys.bind {R : Except ε β → List (Act E A) → Prop} (hp : p.Obeys G Q h)
    (hf : ∀ x h', Q x h' → Then G R f x h') : (p >>= f).Obeys G R h :=
  obeys_bind.mpr (hp.mono hf)

/-! ### What has been done -/

/-- Something of a kind has been done. -/
def Did (kind : Act E A → Bool) (h : List (Act E A)) : Prop := ∃ a ∈ h, kind a = true

instance {kind : Act E A → Bool} : Decidable (Did kind h) :=
  inferInstanceAs (Decidable (∃ a ∈ h, kind a = true))

variable {kind : Act E A → Bool} {a : Act E A}

theorem did_cons : Did kind (a :: h) ↔ kind a = true ∨ Did kind h := by
  simp [Did]

theorem not_did_nil : ¬ Did kind ([] : List (Act E A)) := by
  simp [Did]

theorem did_head (ha : kind a = true) : Did kind (a :: h) :=
  did_cons.mpr (.inl ha)

theorem Did.cons (hdid : Did kind h) : Did kind (a :: h) :=
  did_cons.mpr (.inr hdid)

/-- An act of another kind adds nothing. -/
theorem Did.of_cons (hdid : Did kind (a :: h)) (ha : kind a = false) : Did kind h :=
  (did_cons.mp hdid).resolve_left (by rw [ha]; exact nofun)

theorem Did.mono (hdid : Did kind h) (hsuffix : h <:+ h') : Did kind h' :=
  hdid.imp fun _ ha => ⟨hsuffix.mem ha.1, ha.2⟩

/-! ### Executions -/

/-- From the history `h` and the program `p` the execution has come to `h'` and `p'`. -/
inductive Goes : List (Act E A) → Prog E A ε α → List (Act E A) → Prog E A ε α → Prop
  | refl {h : List (Act E A)} {p : Prog E A ε α} : Goes h p h p
  | step {h h' : List (Act E A)} {p : Prog E A ε α} {e : E} {k : A e → Prog E A ε α} (r : A e)
      (before : Goes h p h' (call e k)) : Goes h p (⟨e, r⟩ :: h') (k r)

/-- The execution of a program that is answered by a function: its history and its result. -/
def play (f : (e : E) → A e) : List (Act E A) → Prog E A ε α → List (Act E A) × Except ε α
  | h, ret x => (h, x)
  | h, call e k => play f (⟨e, f e⟩ :: h) (k (f e))

theorem goes_play (f : (e : E) → A e) (p : Prog E A ε α) (h : List (Act E A)) :
    Goes h p (p.play f h).1 (ret (p.play f h).2) := by
  have hfrom : ∀ (q : Prog E A ε α) h', Goes h p h' q →
      Goes h p (q.play f h').1 (ret (q.play f h').2) := by
    intro q
    induction q with
    | ret x => exact fun h' hgoes => hgoes
    | call e k ih => exact fun h' hgoes => ih (f e) _ (.step (f e) hgoes)
  exact hfrom p h .refl

theorem Obeys.goes (hp : p.Obeys G Q h) (hgoes : Goes h p h' p') : p'.Obeys G Q h' := by
  induction hgoes with
  | refl => exact hp
  | step r _ ih => exact (ih hp).2 r

/-- What every call of a program leads to, whatever its answer, holds wherever the program is
stopped. -/
theorem Obeys.always {I : List (Act E A) → Prop}
    (hp : p.Obeys (fun h e => ∀ r, I (⟨e, r⟩ :: h)) Q h) (hI : I h) (hgoes : Goes h p h' p') :
    I h' := by
  induction hgoes with
  | refl => exact hI
  | step r hbefore _ => exact (hp.goes hbefore).1 r

/-- Every call of a history was allowed when it was made. -/
def Allowed (G : List (Act E A) → E → Prop) : List (Act E A) → Prop
  | [] => True
  | a :: h => G h a.1 ∧ Allowed G h

/-- What the history before a call was like is known of any call of an execution. -/
theorem Allowed.of_append {before : List (Act E A)} (hh : Allowed G (h ++ a :: before)) :
    G before a.1 := by
  induction h with
  | nil => exact hh.1
  | cons _ _ ih => exact ih hh.2

/-! ### The answers of a world -/

section Worlds

variable {W : Type} {live : Prop} {S : W → (e : E) → A e → W → Prop}

/-- However a world answers within `S`, the program ends with a result and in a world that `Q`
holds of; if `live`, there is an answer to every call that it makes. -/
def Leads (live : Prop) (S : W → (e : E) → A e → W → Prop) (Q : W → Except ε α → Prop) :
    Prog E A ε α → W → Prop
  | ret x, w => Q w x
  | call e k, w =>
    (live → ∃ r w', S w e r w') ∧ ∀ r w', S w e r w' → Leads live S Q (k r) w'

/-- The program ends, and `Q` holds. -/
abbrev Ends (S : W → (e : E) → A e → W → Prop) (Q : W → Except ε α → Prop)
    (p : Prog E A ε α) (w : W) : Prop :=
  p.Leads True S Q w

variable {w : W} {R : W → Except ε β → Prop}

@[simp] theorem leads_ret {x : Except ε β} : (ret x : Prog E A ε β).Leads live S R w ↔ R w x :=
  .rfl

@[simp] theorem leads_pure {b : β} : (pure b : Prog E A ε β).Leads live S R w ↔ R w (.ok b) :=
  .rfl

@[simp] theorem leads_fail {e : ε} : (fail e : Prog E A ε β).Leads live S R w ↔ R w (.error e) :=
  .rfl

@[simp] theorem leads_bind :
    (p >>= f).Leads live S R w ↔ p.Leads live S (fun w' x => match x with
      | .ok a => (f a).Leads live S R w'
      | .error e => R w' (.error e)) w := by
  change (p.bind f).Leads live S R w ↔ _
  induction p generalizing w with
  | ret x => cases x <;> exact .rfl
  | call e k ih => exact and_congr .rfl (forall_congr' fun r => forall₂_congr fun w' _ => ih r)

@[simp] theorem leads_attempt {ε' : Type} {Q' : W → Except ε' (Except ε α) → Prop} :
    (p.attempt : Prog E A ε' (Except ε α)).Leads live S Q' w ↔
      p.Leads live S (fun w' x => Q' w' (.ok x)) w := by
  induction p generalizing w with
  | ret x => exact .rfl
  | call e k ih => exact and_congr .rfl (forall_congr' fun r => forall₂_congr fun w' _ => ih r)

/-- A call and what follows on its answer. -/
theorem Leads.perform {f : A e → Prog E A ε β} (hlive : live → ∃ r w', S w e r w')
    (hf : ∀ r w', S w e r w' → (f r).Leads live S R w') :
    (Prog.perform e >>= f).Leads live S R w :=
  ⟨hlive, hf⟩

theorem Leads.mono {Q Q' : W → Except ε α → Prop} (hQ : ∀ w x, Q w x → Q' w x)
    (hp : p.Leads live S Q w) : p.Leads live S Q' w := by
  induction p generalizing w with
  | ret x => exact hQ w x hp
  | call e k ih => exact ⟨hp.1, fun r w' hr => ih r (hp.2 r w' hr)⟩

/-- A program that ends is led somewhere. -/
theorem Ends.meets {Q Q' : W → Except ε α → Prop} (hp : p.Ends S Q w)
    (hp' : p.Leads live S Q' w) : ∃ w' x, Q w' x ∧ Q' w' x := by
  induction p generalizing w with
  | ret x => exact ⟨w, x, hp, hp'⟩
  | call e k ih =>
    obtain ⟨r, w', hr⟩ := hp.1 trivial
    exact ih r (hp.2 r w' hr) (hp'.2 r w' hr)

end Worlds

end Prog

end Navigator
