/-
One worker per operation.

A cancellation takes its workers out of the registry first; then it aborts them and waits for
them, one after the other.  A worker that is started in between runs beside the one that was
taken out, and a shutdown that comes in between does not know of it.

* **`FirstOperation.Follows`** — what a call does to the workers and their handles;
* **`FirstOperation.Warrant`** — what a call has to do with the handles it has taken out;
* **`one_worker_per_operation`** — if nobody comes in between, there is one worker at most, and
  none after the shutdown;
* **`cancelled_worker_runs_on`** — otherwise there may be two.
-/
import Navigator.Accounting
import Navigator.Core.WorkerRegistry

namespace Navigator

open Prog

variable {k : OperationId} {W : Worker} {x : OperationId × ℕ} {hs : List (OperationId × ℕ)}

namespace FirstOperation

variable {ι : Type} {w w' : World}
variable {n : ℕ} {input : Input ι} {e : ServiceCall ι} {r : e.Answer}

abbrev History (ι : Type) : Type := List (Act (ServiceCall ι) ServiceCall.Answer)

variable {h : History ι}

/-! ### Workers -/

/-- A worker that has not come to its end. -/
def Live (w : World) (operationId : OperationId) (task : ℕ) : Prop :=
  (task, operationId) ∈ w.tasks ∧ task ∉ w.ended

/-- A worker that has passed its gate, and has neither ended nor been aborted. -/
def Running (w : World) (operationId : OperationId) (task : ℕ) : Prop :=
  Live w operationId task ∧ task ∈ w.started ∧ (operationId, task) ∉ w.aborted

instance (w : World) (operationId : OperationId) (task : ℕ) :
    Decidable (Running w operationId task) :=
  inferInstanceAs (Decidable (((task, operationId) ∈ w.tasks ∧ task ∉ w.ended) ∧ _))

/-- An operation has at most one worker, and is active while its handle is in the registry. -/
structure Alone (w : World) : Prop where
  one : ∀ {k n m}, Live w k n → Live w k m → n = m
  active : ∀ {x}, x ∈ w.registry.handles → x.1 ∈ w.registry.active

/-- The handles that a call has taken out of the registry. -/
def ServiceCall.handed : (e : ServiceCall ι) → e.Answer → List (OperationId × ℕ)
  | .withdraw _, handles => handles
  | .drain, handles => handles
  | _, _ => []

def handed (h : History ι) : List (OperationId × ℕ) := h.flatMap fun a => a.1.handed a.2

/-- Nobody comes in between: a worker is started only if those of its operation that were taken out
of the registry have ended, a cancellation takes out one worker at most, and the registry is
closed only while every worker that has neither ended nor been aborted has its handle there. -/
def isOrderly (w : World) : (e : ServiceCall ι) → e.Answer → Bool
  | .register k _, some _ | .registerOrWake k _, .spawned _ => w.tasks.all fun x =>
    x.2 = k → x.1 ∈ w.ended ∨ (k, x.1) ∈ w.registry.handles
  | .withdraw _, handles => handles.length ≤ 1
  | .drain, _ => w.tasks.all fun x =>
    x.1 ∈ w.ended ∨ (x.2, x.1) ∈ w.aborted ∨ (x.2, x.1) ∈ w.registry.handles
  | _, _ => true

/-! ### Calls -/

/-- How the world goes on: what has ended has ended, and once the registry is closed no task
comes to be. -/
structure Grows (w w' : World) : Prop where
  tasks : ∀ {x}, x ∈ w.tasks → x ∈ w'.tasks
  ended : ∀ {n}, n ∈ w.ended → n ∈ w'.ended
  aborted : ∀ {x}, x ∈ w.aborted → x ∈ w'.aborted
  closed : w.registry.accepting = false → w'.registry.accepting = false ∧ w'.tasks = w.tasks

/-- What a call does: the world goes on, an operation still has one worker, and a worker has its
handle in the registry, or the call has taken it out, unless it was not there before. -/
structure Follows (w : World) (e : ServiceCall ι) (r : e.Answer) (w' : World) : Prop
    extends Grows w w' where
  alone : Alone w'
  covers : ∀ {k n}, Live w' k n → (k, n) ∈ w'.registry.handles ∨ (k, n) ∈ e.handed r ∨
    Live w k n ∧ (k, n) ∉ w.registry.handles
  aborts : ∀ {x}, x ∈ w'.aborted → x ∈ w.aborted ∨ (⟨e, r⟩ : Act _ _) = ⟨.abort x, ()⟩

/-- A call that starts no worker. -/
theorem Follows.of_eq (hw : Alone w) (htasks : w'.tasks = w.tasks)
    (hended : ∀ {n}, n ∈ w.ended → n ∈ w'.ended)
    (haccepting : w.registry.accepting = false → w'.registry.accepting = false)
    (hactive : ∀ {x}, x ∈ w'.registry.handles → x.1 ∈ w'.registry.active)
    (hhandles : ∀ {k n}, Live w' k n → (k, n) ∈ w.registry.handles →
      (k, n) ∈ w'.registry.handles ∨ (k, n) ∈ e.handed r)
    (haborted : w'.aborted = w.aborted ∨
      ∃ x, w'.aborted = x :: w.aborted ∧ (⟨e, r⟩ : Act _ _) = ⟨.abort x, ()⟩) :
    Follows w e r w' := by
  have hlive : ∀ {k n}, Live w' k n → Live w k n := fun hn =>
    ⟨htasks ▸ hn.1, fun hin => hn.2 (hended hin)⟩
  refine ⟨⟨fun hx => htasks ▸ hx, hended, fun hx => ?_, fun hclosed =>
    ⟨haccepting hclosed, htasks⟩⟩, ⟨fun hn hm => hw.one (hlive hn) (hlive hm), hactive⟩,
    fun {k n} hn => ?_, fun hx => ?_⟩
  · rcases haborted with heq | ⟨x, heq, -⟩ <;> rw [heq]
    · exact hx
    · exact List.mem_cons_of_mem _ hx
  · by_cases hin : (k, n) ∈ w.registry.handles
    · exact (hhandles hn hin).imp_right .inl
    · exact .inr (.inr ⟨hlive hn, hin⟩)
  · rcases haborted with heq | ⟨x, heq, hact⟩ <;> rw [heq] at hx
    · exact .inl hx
    · rcases List.mem_cons.mp hx with rfl | hx
      · exact .inr hact
      · exact .inl hx

/-- A call that has to do neither with the tasks nor with the handles. -/
theorem Follows.idle (hw : Alone w) {failures : List (OperationId × WorkerError)}
    {wakeRequested : List OperationId} {started : List ℕ} : Follows w e r { w with
      registry := { w.registry with failures, wakeRequested }, started } :=
  .of_eq hw rfl id id hw.active (fun _ hin => .inl hin) (.inl rfl)

/-- A worker is started for an operation that is not active, and whose workers outside the
registry have ended. -/
theorem Follows.spawn (hw : Alone w) (hopen : w.registry.accepting ≠ false)
    (hinactive : k ∉ w.registry.active)
    (hfree : ∀ x ∈ w.tasks, x.2 = k → x.1 ∈ w.ended ∨ (k, x.1) ∈ w.registry.handles) :
    Follows w e r (w.spawn k) := by
  -- a worker of another operation, or the new one
  have hcases : ∀ {k' n}, Live (w.spawn k) k' n →
      (k' = k ∧ n = w.tasks.length) ∨ (k' ≠ k ∧ Live w k' n) := by
    rintro k' n ⟨hn, hended⟩
    rcases List.mem_cons.mp hn with heq | hn
    · cases heq
      exact .inl ⟨rfl, rfl⟩
    · refine .inr ⟨fun hk => hinactive ?_, hn, hended⟩
      exact hw.active ((hfree _ hn hk).resolve_left hended)
  refine ⟨⟨List.mem_cons_of_mem _, id, id, fun hclosed => absurd hclosed hopen⟩,
    ⟨fun hn hm => ?_, fun hx => ?_⟩, fun {k' n} hn => ?_, .inl⟩
  · rcases hcases hn with ⟨rfl, rfl⟩ | ⟨hk, hn⟩ <;> rcases hcases hm with ⟨hk', rfl⟩ | ⟨hk', hm⟩
    · rfl
    · exact absurd rfl hk'
    · exact absurd hk' hk
    · exact hw.one hn hm
  · rcases List.mem_cons.mp hx with rfl | hx
    · exact List.mem_cons_self
    · exact List.mem_cons_of_mem _ (hw.active (List.mem_filter.mp hx).1)
  · rcases hcases hn with ⟨rfl, rfl⟩ | ⟨hk, hn⟩
    · exact .inl List.mem_cons_self
    by_cases hin : (k', n) ∈ w.registry.handles
    · exact .inl (List.mem_cons_of_mem _ (List.mem_filter.mpr ⟨hin, decide_eq_true hk⟩))
    · exact .inr (.inr ⟨hn, hin⟩)

theorem withdrawAll_accepting (ks : List OperationId) (registry : WorkerRegistry) :
    (registry.withdrawAll ks).2.accepting = registry.accepting := by
  induction ks generalizing registry with
  | nil => rfl
  | cons k ks ih => exact ih _

theorem active_withdraw {registry : WorkerRegistry}
    (hactive : ∀ {x}, x ∈ registry.handles → x.1 ∈ registry.active)
    (hx : x ∈ (registry.withdraw k).handles) : x.1 ∈ (registry.withdraw k).active := by
  obtain ⟨hx, hk⟩ := List.mem_filter.mp hx
  exact List.mem_filter.mpr ⟨hactive hx, hk⟩

theorem active_withdrawAll (ks : List OperationId) {registry : WorkerRegistry}
    (hactive : ∀ {x}, x ∈ registry.handles → x.1 ∈ registry.active)
    (hx : x ∈ (registry.withdrawAll ks).2.handles) :
    x.1 ∈ (registry.withdrawAll ks).2.active := by
  induction ks generalizing registry with
  | nil => exact hactive hx
  | cons k ks ih => exact ih (active_withdraw hactive) hx

/-- What is taken out of the registry is handed on. -/
theorem mem_withdrawAll (ks : List OperationId) {registry : WorkerRegistry}
    (hx : x ∈ registry.handles) :
    x ∈ (registry.withdrawAll ks).2.handles ∨ x ∈ (registry.withdrawAll ks).1 := by
  induction ks generalizing registry with
  | nil => exact .inl hx
  | cons k ks ih =>
    by_cases hk : x.1 = k
    · exact .inr (List.mem_append_left _ (List.mem_filter.mpr ⟨hx, decide_eq_true hk⟩))
    · refine (ih ?_).imp_right fun hin => List.mem_append_right _ hin
      exact List.mem_filter.mpr ⟨hx, decide_eq_true hk⟩

theorem recordResult_frame (registry : WorkerRegistry) (k : OperationId)
    (error : Option WorkerError) : ∃ failures,
      registry.recordResult k error = { registry with failures } := by
  cases error <;> exact ⟨_, rfl⟩

/-- **What a call does.**  Where a worker takes itself out of the registry it is the worker of
its operation. -/
theorem answer_follows (hw : Alone w) (hgate : ∀ {n k}, e = .rerun n k → (n, k) ∈ w.tasks)
    (horderly : isOrderly w e r = true) (hanswer : w.answer input e = some (r, w')) :
    Follows w e r w' := by
  cases e with
  | register k job =>
    have heq : w.register k = (r, w') := Option.some.inj hanswer
    unfold World.register at heq
    split at heq
    · cases heq
      exact .idle hw
    next hfree =>
    cases heq
    obtain ⟨hopen, hinactive⟩ := not_or.mp hfree
    exact .spawn hw hopen hinactive (by simpa [isOrderly, imp_iff_not_or] using horderly)
  | registerOrWake k job =>
    have heq : w.registerOrWake k = (r, w') := Option.some.inj hanswer
    unfold World.registerOrWake at heq
    split at heq
    · cases heq
      exact .idle hw
    next hopen =>
    split at heq
    · cases heq
      exact .idle hw
    next hinactive =>
    cases heq
    exact .spawn hw hopen hinactive (by simpa [isOrderly, imp_iff_not_or] using horderly)
  | forgetFailure k =>
    obtain ⟨failures, heq⟩ := recordResult_frame w.registry k none
    obtain rfl : { w with registry := w.registry.recordResult k none } = w' :=
      congrArg Prod.snd (Option.some.inj hanswer)
    rw [heq]
    exact .idle hw
  | withdraw ks =>
    cases hanswer
    refine .of_eq hw rfl id (fun hclosed => ?_) (active_withdrawAll ks hw.active)
      (fun _ => mem_withdrawAll ks) (.inl rfl)
    exact (withdrawAll_accepting ks w.registry).trans hclosed
  | drain =>
    cases hanswer
    exact .of_eq hw rfl id (fun _ => rfl) nofun (fun _ => .inr) (.inl rfl)
  | gate n k =>
    simp only [World.answer] at hanswer
    split at hanswer <;> cases hanswer
    exact .idle hw
  | work n e =>
    simp only [World.answer] at hanswer
    split at hanswer
    · split at hanswer <;> cases hanswer
      exact .idle hw
    · cases hanswer
  | recordResult n k error =>
    simp only [World.answer] at hanswer
    split at hanswer <;> cases hanswer
    obtain ⟨failures, heq⟩ := recordResult_frame w.registry k error
    rw [heq]
    exact .idle hw
  | rerun n k =>
    simp only [World.answer] at hanswer
    split at hanswer
    · cases hanswer
    next hended =>
    have heq : w.rerun n k = (r, w') := Option.some.inj hanswer
    unfold World.rerun at heq
    split at heq
    · cases heq
      exact .idle hw
    cases heq
    refine .of_eq hw rfl (List.mem_cons_of_mem _) id (active_withdraw hw.active)
      (fun {k' m} hm hin => .inl ?_) (.inl rfl)
    refine List.mem_filter.mpr ⟨hin, decide_eq_true fun heq => hm.2 ?_⟩
    change k' = k at heq
    subst heq
    -- the worker that takes itself out is the only one
    rw [hw.one ⟨hm.1, fun hin => hm.2 (List.mem_cons_of_mem _ hin)⟩ ⟨hgate rfl, hended⟩]
    exact List.mem_cons_self
  | abort x =>
    cases hanswer
    exact .of_eq hw rfl id id hw.active (fun _ => .inl) (.inr ⟨x, rfl, rfl⟩)
  | join x =>
    simp only [World.answer] at hanswer
    split at hanswer <;> cases hanswer
    exact .idle hw
  | external e =>
    simp only [World.answer] at hanswer
    split at hanswer <;> cases hanswer
    exact .idle hw
  | unfinished => cases hanswer

/-! ### What a call has to do -/

/-- All handles that were taken out have been aborted, and their tasks have ended. -/
def Cleared (h : History ι) : Prop :=
  ∀ x ∈ handed h, ⟨.abort x, ()⟩ ∈ h ∧ ⟨.join x, ()⟩ ∈ h

/-- A call that has taken out handles does nothing but abort them and wait for them; it waits
when it has aborted all, or it has taken out several as a cancellation does.  A worker takes
itself out of the registry after it has passed its gate. -/
def Warrant (h : History ι) : ServiceCall ι → Prop
  | .abort x => x ∈ handed h
  | .join _ => (∀ x ∈ handed h, ⟨.abort x, ()⟩ ∈ h) ∨
    ∃ ks handles, ⟨.withdraw ks, handles⟩ ∈ h ∧ 1 < handles.length
  | .rerun n k => Cleared h ∧ ⟨.gate n k, ()⟩ ∈ h
  | _ => Cleared h

variable {α β : Type} {p : ServiceProg ι α} {f : α → ServiceProg ι β}

/-- The worker is aborted, and nothing is done before but to abort others. -/
def AboutToAbort (x : OperationId × ℕ) : ServiceProg ι α → Prop
  | .call (.abort y) k => y = x ∨ AboutToAbort x (k ())
  | _ => False

/-- The task is waited for, and nothing is done before but to abort workers and wait for others. -/
def Awaits (x : OperationId × ℕ) : ServiceProg ι α → Prop
  | .call (.abort _) k => Awaits x (k ())
  | .call (.join y) k => y = x ∨ Awaits x (k ())
  | _ => False

section

variable (hp : p.Obeys Warrant (fun _ => Cleared) h) (hx : x ∈ handed h)
include hp hx

/-- A call that has taken out a handle and has not aborted it is about to. -/
theorem aboutToAbort_of_handed
    (hfew : ∀ {ks handles}, ⟨.withdraw ks, handles⟩ ∈ h → handles.length ≤ 1)
    (habort : ⟨.abort x, ()⟩ ∉ h) : AboutToAbort x p := by
  induction p generalizing h with
  | ret y => exact absurd (hp x hx).1 habort
  | call e k ih =>
    obtain ⟨hwarrant, hrest⟩ := hp
    cases e with
    | abort y =>
      by_cases hy : y = x
      · exact .inl hy
      refine .inr (ih () (hrest ()) hx (fun hin => hfew ?_) fun hin => ?_)
      · exact (List.mem_cons.mp hin).resolve_left nofun
      · rcases List.mem_cons.mp hin with heq | hin
        · cases heq
          exact hy rfl
        · exact habort hin
    | join y =>
      rcases hwarrant with hall | ⟨ks, handles, hin, hlong⟩
      · exact absurd (hall x hx) habort
      · exact absurd (hfew hin) (Nat.not_le.mpr hlong)
    | rerun n k => exact absurd (hwarrant.1 x hx).1 habort
    | _ => exact absurd (hwarrant x hx).1 habort

/-- A call that has taken out a handle waits until its task has ended. -/
theorem awaits_of_handed (hjoin : ⟨.join x, ()⟩ ∉ h) : Awaits x p := by
  induction p generalizing h with
  | ret y => exact absurd (hp x hx).2 hjoin
  | call e k ih =>
    obtain ⟨hwarrant, hrest⟩ := hp
    cases e with
    | abort y =>
      exact ih () (hrest ()) hx fun hin => hjoin ((List.mem_cons.mp hin).resolve_left nofun)
    | join y =>
      by_cases hy : y = x
      · exact .inl hy
      refine .inr (ih () (hrest ()) hx fun hin => ?_)
      rcases List.mem_cons.mp hin with heq | hin
      · cases heq
        exact hy rfl
      · exact hjoin hin
    | rerun n k => exact absurd (hwarrant.1 x hx).2 hjoin
    | _ => exact absurd (hwarrant x hx).2 hjoin

end

/-! ### What a call knows -/

/-- What a call may rely on: its task is one, what it has aborted was handed to it, what it has
waited for has ended, and after it has closed the registry no worker is left but those it was
handed and those that were aborted. -/
structure Recalls (w : World) (h : History ι) : Prop where
  gated : ∀ {n k}, ⟨.gate n k, ()⟩ ∈ h → (n, k) ∈ w.tasks
  aborted : ∀ {x}, ⟨.abort x, ()⟩ ∈ h → x ∈ handed h ∧ x ∈ w.aborted
  joined : ∀ {x}, ⟨.join x, ()⟩ ∈ h → x.2 ∈ w.ended
  few : ∀ {ks handles}, ⟨.withdraw ks, handles⟩ ∈ h → handles.length ≤ 1
  drained : ∀ {handles}, ⟨.drain, handles⟩ ∈ h → w.registry.accepting = false ∧
    ∀ {k n}, Live w k n → (k, n) ∉ w.aborted → (k, n) ∈ handles

theorem Recalls.mono (hrecalls : Recalls w h) (hgrows : Grows w w') : Recalls w' h where
  gated hgate := hgrows.tasks (hrecalls.gated hgate)
  aborted habort := (hrecalls.aborted habort).imp_right hgrows.aborted
  joined hjoin := hgrows.ended (hrecalls.joined hjoin)
  few := hrecalls.few
  drained hdrain := by
    obtain ⟨hclosed, hleft⟩ := hrecalls.drained hdrain
    obtain ⟨hclosed', htasks⟩ := hgrows.closed hclosed
    exact ⟨hclosed', fun hlive haborted => hleft
      ⟨htasks ▸ hlive.1, fun hin => hlive.2 (hgrows.ended hin)⟩ fun hin =>
        haborted (hgrows.aborted hin)⟩

/-- What a call learns of its own. -/
theorem Recalls.answer (hrecalls : Recalls w h) (hgrows : Grows w w') (hwarrant : Warrant h e)
    (horderly : isOrderly w e r = true) (hanswer : w.answer input e = some (r, w')) :
    Recalls w' (⟨e, r⟩ :: h) := by
  have hold := hrecalls.mono hgrows
  refine ⟨fun hgate => ?_, fun habort => ?_, fun hjoin => ?_, fun hwithdraw => ?_,
    fun hdrain => ?_⟩
  · rcases List.mem_cons.mp hgate with heq | hgate
    · cases heq
      simp only [World.answer] at hanswer
      split at hanswer
      · next hgate =>
        cases hanswer
        exact hgate.1
      · cases hanswer
    · exact hold.gated hgate
  · rcases List.mem_cons.mp habort with heq | habort
    · cases heq
      cases hanswer
      exact ⟨hwarrant, List.mem_cons_self⟩
    · exact (hold.aborted habort).imp_left (List.mem_append_right _)
  · rcases List.mem_cons.mp hjoin with heq | hjoin
    · cases heq
      simp only [World.answer] at hanswer
      split at hanswer
      · next hended =>
        cases hanswer
        exact hended
      · cases hanswer
    · exact hold.joined hjoin
  · rcases List.mem_cons.mp hwithdraw with heq | hwithdraw
    · cases heq
      exact of_decide_eq_true horderly
    · exact hold.few hwithdraw
  · rcases List.mem_cons.mp hdrain with heq | hdrain
    · cases heq
      cases hanswer
      refine ⟨rfl, fun {k n} hlive haborted => ?_⟩
      have hin := List.all_eq_true.mp horderly (n, k) hlive.1
      rw [decide_eq_true_eq] at hin
      exact (hin.resolve_left hlive.2).resolve_left haborted
    · exact hold.drained hdrain

theorem Warrant.gate (hrecalls : Recalls w h) (hwarrant : Warrant h e) {k : OperationId}
    (he : e = .rerun n k) : (n, k) ∈ w.tasks := by
  subst he
  exact hrecalls.gated hwarrant.2

theorem grows_stop (n : ℕ) (w : World) : Grows w (w.stop n) :=
  ⟨id, List.mem_cons_of_mem _, id, fun hclosed => ⟨hclosed, rfl⟩⟩

theorem sound_alone (rounds : ℕ) : (pool ι rounds).Sound Warrant
    (fun w _ e r => isOrderly w e r = true) (fun _ _ => True) Alone Recalls where
  fresh w _ := ⟨nofun, nofun, nofun, nofun, nofun⟩
  outside n w hw := by
    refine ⟨⟨fun hn hm => ?_, hw.active⟩, fun h hrecalls => hrecalls.mono (grows_stop n w)⟩
    exact hw.one ⟨hn.1, fun hin => hn.2 (List.mem_cons_of_mem _ hin)⟩
      ⟨hm.1, fun hin => hm.2 (List.mem_cons_of_mem _ hin)⟩
  call hw hrecalls hwarrant horderly hanswer := by
    have hfollows := answer_follows hw (hwarrant.gate hrecalls) horderly hanswer
    exact ⟨hfollows.alone, hrecalls.answer hfollows.toGrows hwarrant horderly hanswer,
      fun h' hh' _ => hh'.mono hfollows.toGrows⟩

/-! ### Where the handles are -/

/-- Every worker has its handle in the registry, or a call has taken it out; what was aborted
some call has aborted; and a call that was dropped had aborted what it had taken out. -/
structure Kept (σ : State ι) : Prop where
  covered : ∀ {k n}, Live σ.world k n →
    (k, n) ∈ σ.world.registry.handles ∨ σ.Someone ((k, n) ∈ handed ·)
  aborted : ∀ {x}, x ∈ σ.world.aborted → σ.Someone (⟨.abort x, ()⟩ ∈ ·)
  dropped : ∀ t ∈ σ.threads, t.rest = none → ∀ x ∈ handed t.history, ⟨.abort x, ()⟩ ∈ t.history

/-- Where a call may be dropped it has aborted what it has taken out. -/
theorem Warrant.aborted (hwarrant : Warrant h e) (hrecalls : Recalls w h) (he : e.awaits = true)
    (hx : x ∈ handed h) : ⟨.abort x, ()⟩ ∈ h := by
  cases e with
  | abort y => cases he
  | join y =>
    rcases hwarrant with hall | ⟨ks, handles, hin, hlong⟩
    · exact hall x hx
    · exact absurd (hrecalls.few hin) (Nat.not_le.mpr hlong)
  | rerun n k => exact (hwarrant.1 x hx).1
  | _ => exact (hwarrant x hx).1

variable {rounds : ℕ} {σ : State ι} {event : Event ι}

theorem Kept.step (hσ : σ.Holds Warrant (fun _ => Cleared) Alone Recalls) (hkept : Kept σ)
    (hmeets : (pool ι rounds).Admits (fun w _ e r => isOrderly w e r = true) σ event) :
    Kept ((pool ι rounds).step σ event) := by
  have hchange := (pool ι rounds).step_change σ event
  generalize (pool ι rounds).step σ event = σ' at hchange
  cases hchange with
  | outside n =>
    refine ⟨fun hn => hkept.covered ⟨hn.1, fun hin => ?_⟩, hkept.aborted, hkept.dropped⟩
    exact hn.2 (List.mem_cons_of_mem _ hin)
  | started request =>
    refine ⟨fun hn => (hkept.covered hn).imp_right (·.started _),
      fun hx => (hkept.aborted hx).started _, fun t ht hnone => ?_⟩
    rcases List.mem_append.mp ht with ht | ht
    · exact hkept.dropped t ht hnone
    · cases List.mem_singleton.mp ht
      cases hnone
  | @answered i input h e k r w hthread hanswer =>
    obtain ⟨hrecalls, hobeys⟩ := hσ.threads _ (List.mem_of_getElem? hthread)
    have hfollows := answer_follows hσ.world ((obeys_call.mp (hobeys _ rfl)).1.gate hrecalls)
      (hmeets.of_answered hthread hanswer) hanswer
    have hown := Pool.mem_answered_new (P := pool ι rounds) (r := r) (w := w) hthread
    refine ⟨fun {k' n} hn => ?_, fun {x} hx => ?_, fun t ht hnone => ?_⟩
    · rcases hfollows.covers hn with hin | hin | ⟨hn, hout⟩
      · exact .inl hin
      · exact .inr ⟨_, hown, List.mem_append_left _ hin⟩
      · exact .inr (((hkept.covered hn).resolve_left hout).answered hthread
          (List.mem_append_right _))
    · rcases hfollows.aborts hx with hx | hact
      · exact (hkept.aborted hx).answered hthread (List.mem_cons_of_mem _)
      · exact ⟨_, hown, hact ▸ List.mem_cons_self⟩
    · rcases Pool.mem_answered ht with ⟨j, -, hj⟩ | rfl | ⟨p, -, rfl⟩
      · exact hkept.dropped t (List.mem_of_getElem? hj) hnone
      · cases hnone
      · cases hnone
  | @dropped i h e k hthread hawaits =>
    obtain ⟨hrecalls, hobeys⟩ := hσ.threads _ (List.mem_of_getElem? hthread)
    refine ⟨fun hn => (hkept.covered hn).imp_right (·.dropped hthread),
      fun hx => (hkept.aborted hx).dropped hthread, fun t ht hnone => ?_⟩
    rcases List.mem_or_eq_of_mem_set ht with ht | rfl
    · exact hkept.dropped t ht hnone
    · exact fun x hx => (obeys_call.mp (hobeys _ rfl)).1.aborted hrecalls hawaits hx
  | idle => exact hkept

/-! ### Programs -/

section Programs

/-- A program that settles what it takes out. -/
def Keeps (h : History ι) (p : ServiceProg ι α) : Prop :=
  Cleared h → p.Obeys Warrant (fun _ h' => Cleared h' ∧ h <:+ h') h

theorem keeps_ret {x : Except FirstOperationError α} : Keeps h (.ret x : ServiceProg ι α) :=
  fun hcleared => ⟨hcleared, List.suffix_rfl⟩

theorem keeps_bind (hp : Keeps h p) (hf : ∀ a h', h <:+ h' → Keeps h' (f a)) :
    Keeps h (p >>= f) := by
  intro hcleared
  refine (hp hcleared).bind fun x h' hx => ?_
  cases x with
  | error e => exact hx
  | ok a =>
    exact (hf a h' hx.2 hx.1).mono fun _ _ hy => ⟨hy.1, hx.2.trans hy.2⟩

/-- A call that takes out nothing. -/
theorem Cleared.cons (hcleared : Cleared h) (he : e.handed r = []) : Cleared (⟨e, r⟩ :: h) := by
  intro x hx
  rw [handed, List.flatMap_cons, he, List.nil_append] at hx
  exact (hcleared x hx).imp (List.mem_cons_of_mem _) (List.mem_cons_of_mem _)

theorem keeps_act {k : e.Answer → ServiceProg ι β} (hwarrant : Cleared h → Warrant h e)
    (he : ∀ r, e.handed r = []) (hk : ∀ r, Keeps (⟨e, r⟩ :: h) (k r)) : Keeps h (.call e k) :=
  fun hcleared => ⟨hwarrant hcleared, fun r => (hk r (hcleared.cons (he r))).mono fun _ _ hy =>
    ⟨hy.1, (List.suffix_cons _ _).trans hy.2⟩⟩

/-- A call, and what follows on its answer. -/
theorem keeps_call {f : e.Answer → ServiceProg ι β} (hwarrant : Cleared h → Warrant h e)
    (he : ∀ r, e.handed r = []) (hf : ∀ r, Keeps (⟨e, r⟩ :: h) (f r)) : Keeps h (ask e >>= f) :=
  keeps_act hwarrant he hf

theorem keeps_ask (hwarrant : Cleared h → Warrant h e) (he : ∀ r, e.handed r = []) :
    Keeps h (ask e) :=
  keeps_act hwarrant he fun _ => keeps_ret

theorem keeps_stored {x : Except StoreError α} : Keeps h (stored x : ServiceProg ι α) := by
  cases x <;> exact keeps_ret

theorem keeps_check : Keeps h (check : ServiceProg ι Unit) := by
  refine keeps_call id (fun _ => rfl) fun r => ?_
  cases r <;> exact keeps_ret

/-- No call that a worker makes in its task closes the registry. -/
theorem keeps_inTask {task : ℕ} {q : WorkerProg ι α} : Keeps h (inTask task q) := by
  unfold inTask
  generalize q.attempt = q'
  induction q' generalizing h with
  | ret x => exact keeps_ret
  | call e k ih => exact keeps_act id (fun _ => rfl) fun r => ih r

theorem keeps_rerunStarted (rounds : ℕ) (hgate : ⟨.gate n k, ()⟩ ∈ h) :
    Keeps h (rerunStarted W n k rounds : ServiceProg ι Unit) := by
  induction rounds generalizing h with
  | zero => exact keeps_ask id (fun _ => rfl)
  | succ rounds ih =>
    refine keeps_call (fun hcleared => ⟨hcleared, hgate⟩) (fun _ => rfl) fun again => ?_
    have hgate1 := List.mem_cons_of_mem ⟨.rerun n k, again⟩ hgate
    obtain _ | _ := again
    · exact keeps_ret
    refine keeps_call id (fun _ => rfl) fun loaded => ?_
    have hgate2 := List.mem_cons_of_mem ⟨.work n (.load k), loaded⟩ hgate1
    cases loaded with
    | error e => exact ih hgate2
    | ok operation =>
      refine keeps_bind keeps_inTask fun result h' hsuffix => ?_
      exact keeps_call id (fun _ => rfl) fun _ => ih (List.mem_cons_of_mem _ (hsuffix.mem hgate2))

theorem keeps_runResumed (rounds : ℕ) {operation : OperationSnapshot}
    (hgate : ⟨.gate n k, ()⟩ ∈ h) :
    Keeps h (runResumed W n k rounds operation : ServiceProg ι Unit) := by
  induction rounds generalizing h operation with
  | zero => exact keeps_ask id (fun _ => rfl)
  | succ rounds ih =>
    refine keeps_bind keeps_inTask fun result h1 hsuffix => ?_
    refine keeps_call id (fun _ => rfl) fun _ => ?_
    have hgate1 := List.mem_cons_of_mem ⟨.recordResult n k (errorOf result), ()⟩ (hsuffix.mem hgate)
    refine keeps_call (fun hcleared => ⟨hcleared, hgate1⟩) (fun _ => rfl) fun again => ?_
    obtain _ | _ := again
    · exact keeps_ret
    refine keeps_bind (keeps_call id (fun _ => rfl) fun loaded => ?_) fun _ h2 hsuffix2 =>
      ih (hsuffix2.mem (List.mem_cons_of_mem _ hgate1))
    cases loaded <;> exact keeps_ret

theorem keeps_job (rounds task : ℕ) (job : WorkerJob) :
    Keeps h (job.program rounds task : ServiceProg ι Outcome) := by
  cases job with
  | started W command =>
    refine keeps_call id (fun _ => rfl) fun _ => keeps_bind keeps_inTask fun _ h1 hsuffix => ?_
    exact keeps_bind (keeps_rerunStarted rounds (hsuffix.mem List.mem_cons_self))
      fun _ _ _ => keeps_ret
  | resumed W operationId operation =>
    refine keeps_call id (fun _ => rfl) fun _ => ?_
    exact keeps_bind (keeps_runResumed rounds List.mem_cons_self) fun _ _ _ => keeps_ret

theorem keeps_start {command : StartOperation} :
    Keeps h (start W command : ServiceProg ι (Mutation OperationSnapshot)) := by
  refine keeps_bind keeps_check fun _ h1 _ => keeps_call id (fun _ => rfl) fun task => ?_
  obtain _ | task := task
  · exact keeps_ret
  refine keeps_call id (fun _ => rfl) fun admitted => ?_
  cases admitted with
  | none => exact keeps_ret
  | some admitted => exact keeps_stored

theorem keeps_resumeExisting :
    Keeps h (resumeExisting W k : ServiceProg ι Bool) := by
  refine keeps_bind keeps_check fun _ h1 _ => keeps_call id (fun _ => rfl) fun loaded => ?_
  refine keeps_bind keeps_stored fun operation h2 _ => ?_
  split
  · exact keeps_call id (fun _ => rfl) fun _ => keeps_ret
  · refine keeps_call id (fun _ => rfl) fun input => keeps_bind keeps_stored fun _ h3 _ => ?_
    refine keeps_call id (fun _ => rfl) fun registration => ?_
    cases registration <;> exact keeps_ret

/-- The workers that are left are aborted and waited for, one after the other. -/
theorem interrupt_obeys (left : List (OperationId × ℕ)) (hleft : ∀ x ∈ left, x ∈ handed h)
    (hlong : 1 < left.length → ∃ ks handles, ⟨.withdraw ks, handles⟩ ∈ h ∧ 1 < handles.length)
    (hdone : ∀ x ∈ handed h, x ∈ left ∨ ⟨.abort x, ()⟩ ∈ h ∧ ⟨.join x, ()⟩ ∈ h) :
    (interrupt left : ServiceProg ι Unit).Obeys Warrant
      (fun y h' => y = .ok () ∧ Cleared h' ∧ h <:+ h') h := by
  induction left generalizing h with
  | nil => exact ⟨rfl, fun x hx => (hdone x hx).resolve_left List.not_mem_nil, List.suffix_rfl⟩
  | cons handle rest ih =>
    refine ⟨hleft handle List.mem_cons_self, fun _ => ⟨?_, fun _ => ?_⟩⟩
    · rcases rest with _ | ⟨next, rest⟩
      · refine .inl fun x hx => ?_
        rcases hdone x hx with hx | hx
        · rw [List.mem_singleton.mp hx]
          exact List.mem_cons_self
        · exact List.mem_cons_of_mem _ hx.1
      · obtain ⟨ks, handles, hin, hmany⟩ := hlong (by simp)
        exact .inr ⟨ks, handles, List.mem_cons_of_mem _ hin, hmany⟩
    · refine (ih (h := ⟨.join handle, ()⟩ :: ⟨.abort handle, ()⟩ :: h)
        (fun x hx => hleft x (List.mem_cons_of_mem _ hx)) (fun hmany => ?_) fun x hx => ?_).mono
        fun _ h' hy => ⟨hy.1, hy.2.1,
          ((List.suffix_cons _ _).trans (List.suffix_cons _ _)).trans hy.2.2⟩
      · obtain ⟨ks, handles, hin, hlen⟩ := hlong (Nat.lt_succ_of_lt hmany)
        exact ⟨ks, handles, List.mem_cons_of_mem _ (List.mem_cons_of_mem _ hin), hlen⟩
      · rcases hdone x hx with hx | hx
        · rcases List.mem_cons.mp hx with rfl | hx
          · exact .inr ⟨List.mem_cons_of_mem _ List.mem_cons_self, List.mem_cons_self⟩
          · exact .inl hx
        · exact .inr ⟨List.mem_cons_of_mem _ (List.mem_cons_of_mem _ hx.1),
            List.mem_cons_of_mem _ (List.mem_cons_of_mem _ hx.2)⟩

/-- What is taken out by a cancellation is settled next. -/
theorem keeps_withdraw {ks : List OperationId} {f : Unit → ServiceProg ι β}
    (hf : ∀ h', Keeps h' (f ())) :
    Keeps h (ask (.withdraw ks) >>= fun handles => interrupt handles >>= f) := by
  refine fun hcleared => ⟨hcleared, fun handles => ?_⟩
  have hown : ⟨.withdraw ks, handles⟩ ∈ (⟨.withdraw ks, handles⟩ :: h : History ι) :=
    List.mem_cons_self
  refine (interrupt_obeys handles (fun x hx => List.mem_append_left _ hx)
    (fun hlong => ⟨ks, handles, hown, hlong⟩) fun x hx => ?_).bind fun y h' hy => ?_
  · refine (List.mem_append.mp hx).imp_right fun hx => ?_
    exact (hcleared x hx).imp (List.mem_cons_of_mem _) (List.mem_cons_of_mem _)
  · obtain ⟨rfl, hcleared', hsuffix⟩ := hy
    exact (hf h' hcleared').mono fun _ _ hz =>
      ⟨hz.1, (List.suffix_cons _ _).trans (hsuffix.trans hz.2)⟩

theorem keeps_driveCancellations (records : List CancellationRecord) :
    Keeps h (driveCancellations records : ServiceProg ι Unit) := by
  induction records generalizing h with
  | nil => exact keeps_ret
  | cons record rest ih =>
    unfold driveCancellations
    split
    · exact ih
    refine keeps_bind keeps_check fun _ h1 _ => keeps_call id (fun _ => rfl) fun r => ?_
    cases r with
    | error e => exact keeps_ret
    | ok u => exact ih

theorem keeps_resumeCancelling (records : List CancellationRecord) :
    Keeps h (resumeCancelling W records : ServiceProg ι Unit) := by
  induction records generalizing h with
  | nil => exact keeps_ret
  | cons record rest ih =>
    unfold resumeCancelling
    split
    · exact keeps_bind keeps_resumeExisting fun _ _ _ => ih
    · exact ih

theorem keeps_cancelSubtree {command : CancelSubtree} :
    Keeps h (cancelSubtree W command : ServiceProg ι CancelSubtreeOutcome) := by
  refine keeps_bind keeps_check fun _ _ _ => keeps_call id (fun _ => rfl) fun r => ?_
  refine keeps_bind keeps_stored fun committed _ _ => keeps_withdraw fun _ => ?_
  refine keeps_bind (keeps_driveCancellations _) fun _ _ _ => ?_
  refine keeps_call id (fun _ => rfl) fun r => keeps_bind keeps_stored fun current _ _ => ?_
  exact keeps_bind (keeps_resumeCancelling _) fun _ _ _ => keeps_ret

theorem abortAll_obeys (left : List (OperationId × ℕ)) (hleft : ∀ x ∈ left, x ∈ handed h) :
    (abortAll left : ServiceProg ι Unit).Obeys Warrant (fun y h' => y = .ok () ∧ h <:+ h' ∧
      handed h' = handed h ∧ ∀ x ∈ left, ⟨.abort x, ()⟩ ∈ h') h := by
  induction left generalizing h with
  | nil => exact ⟨rfl, List.suffix_rfl, rfl, nofun⟩
  | cons handle rest ih =>
    refine ⟨hleft handle List.mem_cons_self, fun _ => ?_⟩
    refine (ih (h := ⟨.abort handle, ()⟩ :: h)
      fun x hx => hleft x (List.mem_cons_of_mem _ hx)).mono fun _ h' hy => ?_
    obtain ⟨hok, hsuffix, hsame, haborted⟩ := hy
    refine ⟨hok, (List.suffix_cons _ _).trans hsuffix, hsame, fun x hx => ?_⟩
    rcases List.mem_cons.mp hx with rfl | hx
    · exact hsuffix.mem List.mem_cons_self
    · exact haborted x hx

theorem joinAll_obeys (left : List (OperationId × ℕ))
    (haborted : ∀ x ∈ handed h, ⟨.abort x, ()⟩ ∈ h) :
    (joinAll left : ServiceProg ι Unit).Obeys Warrant (fun y h' => y = .ok () ∧ h <:+ h' ∧
      handed h' = handed h ∧ ∀ x ∈ left, ⟨.join x, ()⟩ ∈ h') h := by
  induction left generalizing h with
  | nil => exact ⟨rfl, List.suffix_rfl, rfl, nofun⟩
  | cons handle rest ih =>
    refine ⟨.inl haborted, fun _ => ?_⟩
    refine (ih (h := ⟨.join handle, ()⟩ :: h)
      fun x hx => List.mem_cons_of_mem _ (haborted x hx)).mono fun _ h' hy => ?_
    obtain ⟨hok, hsuffix, hsame, hjoined⟩ := hy
    refine ⟨hok, (List.suffix_cons _ _).trans hsuffix, hsame, fun x hx => ?_⟩
    rcases List.mem_cons.mp hx with rfl | hx
    · exact hsuffix.mem List.mem_cons_self
    · exact hjoined x hx

theorem keeps_shutdownUntil : Keeps h (shutdownUntil : ServiceProg ι Unit) := by
  refine fun hcleared => ⟨hcleared, fun handles => ?_⟩
  refine (abortAll_obeys handles fun x hx => List.mem_append_left _ hx).bind fun y h1 hy => ?_
  obtain ⟨rfl, hsuffix1, hsame1, haborted⟩ := hy
  -- what was settled before, and what was taken out now
  have hall : ∀ x ∈ handed h1, ⟨.abort x, ()⟩ ∈ h1 ∧ (x ∈ handles ∨ ⟨.join x, ()⟩ ∈ h1) := by
    intro x hx
    rw [hsame1] at hx
    rcases List.mem_append.mp hx with hx | hx
    · exact ⟨haborted x hx, .inl hx⟩
    · obtain ⟨habort, hjoin⟩ := hcleared x hx
      exact ⟨hsuffix1.mem (List.mem_cons_of_mem _ habort),
        .inr (hsuffix1.mem (List.mem_cons_of_mem _ hjoin))⟩
  refine (joinAll_obeys handles fun x hx => (hall x hx).1).bind fun y h2 hy => ?_
  obtain ⟨rfl, hsuffix2, hsame2, hjoined⟩ := hy
  have hcleared2 : Cleared h2 := by
    intro x hx
    rw [hsame2] at hx
    obtain ⟨habort, hjoin⟩ := hall x hx
    exact ⟨hsuffix2.mem habort, hjoin.elim (hjoined x) hsuffix2.mem⟩
  refine (keeps_call id (fun _ => rfl) (fun r => ?_) hcleared2).mono fun _ _ hy =>
    ⟨hy.1, (List.suffix_cons _ _).trans (hsuffix1.trans (hsuffix2.trans hy.2))⟩
  cases r <;> exact keeps_ret

theorem Keeps.cleared (hp : Keeps [] p) : p.Obeys Warrant (fun _ => Cleared) [] :=
  (hp fun _ hx => absurd hx List.not_mem_nil).mono fun _ _ hy => hy.1

/-- Every call and every task keeps to the rules. -/
theorem disciplined (rounds : ℕ) : (pool ι rounds).Disciplined Warrant fun _ => Cleared where
  programs request := by
    cases request with
    | start W command => exact (keeps_bind keeps_start fun _ _ _ => keeps_ret).cleared
    | resumeExisting W k => exact (keeps_bind keeps_resumeExisting fun _ _ _ => keeps_ret).cleared
    | cancelSubtree W command =>
      exact (keeps_bind keeps_cancelSubtree fun _ _ _ => keeps_ret).cleared
    | shutdownUntil => exact (keeps_bind keeps_shutdownUntil fun _ _ _ => keeps_ret).cleared
  forks e r p hp := by
    cases e with
    | register k job =>
      cases r with
      | none => exact absurd hp List.not_mem_nil
      | some task =>
        cases List.mem_singleton.mp hp
        exact (keeps_job rounds task job).cleared
    | registerOrWake k job =>
      cases r with
      | spawned task =>
        cases List.mem_singleton.mp hp
        exact (keeps_job rounds task job).cleared
      | _ => exact absurd hp List.not_mem_nil
    | _ => exact absurd hp List.not_mem_nil

end Programs

theorem holds_init : (init ι).Holds Warrant (fun _ => Cleared) Alone Recalls where
  world := ⟨fun hlive => absurd hlive.1 List.not_mem_nil, nofun⟩
  threads := nofun

theorem kept_init : Kept (init ι) :=
  ⟨fun hlive => absurd hlive.1 List.not_mem_nil, nofun, nofun⟩

theorem Kept.run (hσ : σ.Holds Warrant (fun _ => Cleared) Alone Recalls) (hkept : Kept σ)
    (events : List (Event ι)) (hmeets : Tally.Along (pool ι rounds).step
      ((pool ι rounds).Admits fun w _ e r => isOrderly w e r = true) events σ) :
    Kept ((pool ι rounds).run events σ) := by
  induction events generalizing σ with
  | nil => exact hkept
  | cons event rest ih =>
    exact ih (hσ.step (disciplined rounds) (sound_alone rounds) σ.apart_true event hmeets.1)
      (hkept.step hσ hmeets.1) hmeets.2

end FirstOperation

open FirstOperation

/-- **One worker per operation**: in every run in which a worker is started only when those of its
operation that were taken out of the registry have ended, a cancellation takes out one worker at
most, and the registry is closed while every running worker is in it, an operation has at most one
running worker at every moment; its handle is in the registry, or the call that has taken it out is
about to abort it; one that was aborted and has not ended is waited for by the call that has
aborted it, unless that was dropped; and when a shutdown has returned no worker is running. -/
theorem one_worker_per_operation (ι : Type) (rounds : ℕ) (events : List (Event ι))
    (horderly : Tally.Along (pool ι rounds).step
      ((pool ι rounds).Admits fun w _ e r => isOrderly w e r = true) events (init ι)) :
    let σ := (pool ι rounds).run events (init ι)
    (∀ k n m, Running σ.world k n → Running σ.world k m → n = m) ∧
    (∀ k n, Running σ.world k n → (k, n) ∈ σ.world.registry.handles ∨
      ∃ t ∈ σ.threads, ∃ p ∈ t.rest, AboutToAbort (k, n) p) ∧
    (∀ k n, Live σ.world k n → (k, n) ∈ σ.world.aborted → ∃ t ∈ σ.threads,
      ⟨.abort (k, n), ()⟩ ∈ t.history ∧ ∀ p ∈ t.rest, Awaits (k, n) p) ∧
    ∀ t ∈ σ.threads, ∀ handles x, ⟨.drain, handles⟩ ∈ t.history → t.rest = some (.ret x) →
      ∀ k n, ¬ Running σ.world k n := by
  intro σ
  obtain ⟨halone, hthreads⟩ : σ.Holds Warrant (fun _ => Cleared) Alone Recalls :=
    holds_init.run (disciplined rounds) (sound_alone rounds)
      (fun _ => Pool.State.apart_true _) events horderly
  have hkept : Kept σ := kept_init.run holds_init events horderly
  refine ⟨fun k n m hn hm => halone.one hn.1 hm.1, fun k n hn => ?_,
    fun k n hlive haborted => ?_, ?_⟩
  · refine (hkept.covered hn.1).imp_right fun ⟨t, ht, hhanded⟩ => ?_
    obtain ⟨hrecalls, hobeys⟩ := hthreads t ht
    have habort : ⟨.abort (k, n), ()⟩ ∉ t.history := fun hin => hn.2.2 (hrecalls.aborted hin).2
    cases hrest : t.rest with
    | none => exact absurd (hkept.dropped t ht hrest _ hhanded) habort
    | some p =>
      exact ⟨t, ht, p, hrest, aboutToAbort_of_handed (hobeys p hrest) hhanded hrecalls.few habort⟩
  · obtain ⟨t, ht, habort⟩ := hkept.aborted haborted
    obtain ⟨hrecalls, hobeys⟩ := hthreads t ht
    exact ⟨t, ht, habort, fun p hp => awaits_of_handed (hobeys p hp) (hrecalls.aborted habort).1
      fun hjoin => hlive.2 (hrecalls.joined hjoin)⟩
  · intro t ht handles _ hdrain hrest k n hrunning
    obtain ⟨hrecalls, hobeys⟩ := hthreads t ht
    have hcleared : Cleared t.history := hobeys _ hrest
    -- what was left when the registry was closed has been waited for
    have hleft := (hrecalls.drained hdrain).2 hrunning.1 hrunning.2.2
    have hhanded : (k, n) ∈ handed t.history := List.mem_flatMap.mpr ⟨_, hdrain, hleft⟩
    exact hrunning.1.2 (hrecalls.joined (hcleared _ hhanded).2)

namespace Sample

def someWorker : Worker := ⟨fun _ _ _ => request 0, epoch⟩

def runningOperation : OperationSnapshot where
  sessionId := session
  operationId := operation
  participantId := root
  startRequestId := id 0
  inputMessageId := id 0
  waitingOnMessageId := none
  inputDigest := 0
  state := .running
  revision := .initial
  terminalOutcome := none
  createdAt := seconds 0
  updatedAt := seconds 0

def cancelling : CancelSubtree := ⟨request 0, session, epoch, root⟩

/-- The store has one operation, which runs and is cancelled. -/
def told : Input Unit :=
  .external fun
    | .check => true
    | .load _ => .ok runningOperation
    | .input _ => .ok []
    | .cancelSubtree _ => .ok (.applied ⟨root, [⟨runningOperation, none⟩]⟩)
    | .driveCancellation .. => .ok ()
    | .admitted _ => none
    | .shutdownExecutor => .ok ()

/-- A worker is resumed by the call `i` and passes its gate as the thread `j`. -/
def resuming (i j : ℕ) : List (FirstOperation.Event Unit) :=
  [.start (.resumeExisting someWorker operation), .resume i told, .resume i told, .resume i told,
    .resume i .go, .resume j .go]

/-- The first worker is taken out by a cancellation, but not yet aborted when another is
resumed; then the service is shut down. -/
def overtaken : List (FirstOperation.Event Unit) :=
  resuming 0 1 ++
  [.start (.cancelSubtree someWorker cancelling), .resume 2 told, .resume 2 told, .resume 2 .go] ++
  resuming 3 4 ++
  [.start .shutdownUntil, .resume 5 .go, .resume 5 .go, .outside 1, .resume 5 .go, .resume 5 told]

/-- The first worker is aborted and has ended when the other one is resumed. -/
def inTurn : List (FirstOperation.Event Unit) :=
  resuming 0 1 ++
  [.start (.cancelSubtree someWorker cancelling), .resume 2 told, .resume 2 told, .resume 2 .go,
    .resume 2 .go, .outside 0, .resume 2 .go] ++
  resuming 3 4

end Sample

open Sample

/-- Two workers of one operation run at the same time, and the first of them still does when
the shutdown has returned, without having been aborted. -/
theorem cancelled_worker_runs_on :
    Running ((pool Unit 1).run (overtaken.take 16) (init Unit)).world operation 0 ∧
      Running ((pool Unit 1).run (overtaken.take 16) (init Unit)).world operation 1 ∧
      ((pool Unit 1).run overtaken (init Unit)).result? 5 = some (.ok .shut) ∧
      Running ((pool Unit 1).run overtaken (init Unit)).world operation 0 ∧
      ((pool Unit 1).run overtaken (init Unit)).world.registry.handles = [] := by
  decide +kernel

theorem one_worker_per_operation_inTurn :
    Running ((pool Unit 1).run inTurn (init Unit)).world operation 1 ∧
      ∀ n, Running ((pool Unit 1).run inTurn (init Unit)).world operation n → n = 1 := by
  have horderly : Tally.Along (pool Unit 1).step
      ((pool Unit 1).Admits fun w _ e r => isOrderly w e r = true) inTurn (init Unit) := by
    decide +kernel
  have hrunning : Running ((pool Unit 1).run inTurn (init Unit)).world operation 1 := by
    decide +kernel
  exact ⟨hrunning, fun n hn =>
    (one_worker_per_operation Unit 1 inTurn horderly).1 operation n 1 hn hrunning⟩

end Navigator
