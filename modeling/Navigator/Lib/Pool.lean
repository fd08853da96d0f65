/-
Threads over a shared world.

Any number of threads are under way, each a program stopped at its next call.  The world
answers one call at a time, and changes; a call may start further threads.  A thread that
waits for an answer may be dropped there, and the world may change by itself.  What is not
possible does nothing.

* **`Pool.step`** — the events; **`Pool.Change`** — what they can do;
* **`Pool.Sound`** — an assertion about the world and one about the world and what a single
  thread has done, such that every allowed call keeps the one, and the other for all threads;
* **`Pool.State.Holds.run`** — both hold throughout, and every thread obeys its rule;
* **`Pool.count_run_le`** — how often something has been done, by all threads together.
-/
import Navigator.Lib.Prog
import Navigator.Lib.Tally

namespace Navigator

open Prog

/-- The programs that threads may run, the answers of the world, the threads that a call
starts, the calls at which a thread may be dropped, and what else happens to the world. -/
structure Pool (W X K I E : Type) (A : E → Type) (ε α : Type) where
  program : K → Prog E A ε α
  answer : W → I → (e : E) → Option (A e × W)
  forks : (e : E) → A e → List (Prog E A ε α)
  awaits : E → Bool
  outside : X → W → W

namespace Pool

variable {W X K I E : Type} {A : E → Type} {ε α : Type}

/-- What a thread has done, and what it has left to do if it was not dropped. -/
structure Thread (E : Type) (A : E → Type) (ε α : Type) where
  history : List (Act E A)
  rest : Option (Prog E A ε α)

structure State (W E : Type) (A : E → Type) (ε α : Type) where
  world : W
  threads : List (Thread E A ε α)

inductive Event (X K I : Type) where
  | outside (x : X)
  | start (k : K)
  | resume (i : ℕ) (input : I)
  | drop (i : ℕ)

/-- A thread that has just started. -/
def Thread.new (p : Prog E A ε α) : Thread E A ε α := ⟨[], some p⟩

/-- The state after the call `e` of a thread has been answered with `r`. -/
def answered (P : Pool W X K I E A ε α) (σ : State W E A ε α) (i : ℕ) (h : List (Act E A))
    (e : E) (k : A e → Prog E A ε α) (r : A e) (w : W) : State W E A ε α :=
  ⟨w, σ.threads.set i ⟨⟨e, r⟩ :: h, some (k r)⟩ ++ (P.forks e r).map Thread.new⟩

/-- A thread goes on with the answer to its call, if there is one. -/
def resume (P : Pool W X K I E A ε α) (σ : State W E A ε α) (i : ℕ) (input : I) :
    State W E A ε α :=
  match σ.threads[i]? with
  | some ⟨h, some (.call e k)⟩ =>
    match P.answer σ.world input e with
    | some (r, w) => P.answered σ i h e k r w
    | none => σ
  | _ => σ

/-- A thread that waits will not go on. -/
def drop (P : Pool W X K I E A ε α) (σ : State W E A ε α) (i : ℕ) : State W E A ε α :=
  match σ.threads[i]? with
  | some ⟨h, some (.call e _)⟩ =>
    if P.awaits e then { σ with threads := σ.threads.set i ⟨h, none⟩ } else σ
  | _ => σ

def step (P : Pool W X K I E A ε α) (σ : State W E A ε α) : Event X K I → State W E A ε α
  | .outside x => { σ with world := P.outside x σ.world }
  | .start k => { σ with threads := σ.threads ++ [.new (P.program k)] }
  | .resume i input => P.resume σ i input
  | .drop i => P.drop σ i

def run (P : Pool W X K I E A ε α) (events : List (Event X K I)) (σ : State W E A ε α) :
    State W E A ε α :=
  Tally.run P.step events σ

/-- The call at which a thread is stopped, and what it has done before. -/
def State.nextCall? (σ : State W E A ε α) (i : ℕ) : Option (List (Act E A) × E) :=
  match σ.threads[i]? with
  | some ⟨h, some (.call e _)⟩ => some (h, e)
  | _ => none

/-- What a thread that has ended has ended with. -/
def State.result? (σ : State W E A ε α) (i : ℕ) : Option (Except ε α) :=
  match σ.threads[i]? with
  | some ⟨_, some (.ret x)⟩ => some x
  | _ => none

/-- The calls that are answered, and their answers, are such as `C` allows after what the thread
has done and in the world before them. -/
def Admits (P : Pool W X K I E A ε α) (C : W → List (Act E A) → (e : E) → A e → Prop)
    (σ : State W E A ε α) : Event X K I → Prop
  | .resume i input =>
    ∀ next ∈ σ.nextCall? i, ∀ answer ∈ P.answer σ.world input next.2,
      C σ.world next.1 next.2 answer.1
  | _ => True

instance {P : Pool W X K I E A ε α} {C : W → List (Act E A) → (e : E) → A e → Prop}
    [∀ w h e r, Decidable (C w h e r)] {σ : State W E A ε α} :
    (event : Event X K I) → Decidable (P.Admits C σ event)
  | .resume i input => inferInstanceAs (Decidable
      (∀ next ∈ σ.nextCall? i, ∀ answer ∈ P.answer σ.world input next.2,
        C σ.world next.1 next.2 answer.1))
  | .outside _ | .start _ | .drop _ => .isTrue trivial

/-- The calls that are answered are such as `C` allows in the world before them. -/
abbrev Meets (P : Pool W X K I E A ε α) (C : W → E → Prop) (σ : State W E A ε α) :
    Event X K I → Prop :=
  P.Admits (fun w _ e _ => C w e) σ

variable {P : Pool W X K I E A ε α} {σ : State W E A ε α}
variable {i : ℕ} {input : I} {h : List (Act E A)} {e : E} {k : A e → Prog E A ε α} {r : A e} {w : W}

/-- What an event can do. -/
inductive Change (P : Pool W X K I E A ε α) (σ : State W E A ε α) :
    Event X K I → State W E A ε α → Prop
  | outside (x : X) : Change P σ (.outside x) { σ with world := P.outside x σ.world }
  | started (k : K) :
      Change P σ (.start k) { σ with threads := σ.threads ++ [.new (P.program k)] }
  | answered {i : ℕ} {input : I} {h : List (Act E A)} {e : E} {k : A e → Prog E A ε α} {r : A e}
      {w : W} (thread : σ.threads[i]? = some ⟨h, some (.call e k)⟩)
      (answer : P.answer σ.world input e = some (r, w)) :
      Change P σ (.resume i input) (P.answered σ i h e k r w)
  | dropped {i : ℕ} {h : List (Act E A)} {e : E} {k : A e → Prog E A ε α}
      (thread : σ.threads[i]? = some ⟨h, some (.call e k)⟩) (awaits : P.awaits e = true) :
      Change P σ (.drop i) { σ with threads := σ.threads.set i ⟨h, none⟩ }
  | idle (event : Event X K I) : Change P σ event σ

theorem step_change (P : Pool W X K I E A ε α) (σ : State W E A ε α) (event : Event X K I) :
    P.Change σ event (P.step σ event) := by
  cases event with
  | outside x => exact .outside x
  | start k => exact .started k
  | resume i input =>
    change P.Change σ _ (P.resume σ i input)
    unfold resume
    split
    · next h e k hthread =>
      split
      · next r w hanswer => exact .answered hthread hanswer
      · exact .idle _
    · exact .idle _
  | drop i =>
    change P.Change σ _ (P.drop σ i)
    unfold drop
    split
    · next h e k hthread =>
      split
      · next hawaits => exact .dropped hthread hawaits
      · exact .idle _
    · exact .idle _

theorem Admits.of_answered {C : W → List (Act E A) → (e : E) → A e → Prop}
    (hadmits : P.Admits C σ (.resume i input))
    (hthread : σ.threads[i]? = some ⟨h, some (.call e k)⟩)
    (hanswer : P.answer σ.world input e = some (r, w)) : C σ.world h e r :=
  hadmits (h, e) (by simp [State.nextCall?, hthread]) (r, w) hanswer

variable {t : Thread E A ε α}

theorem mem_answered (ht : t ∈ (P.answered σ i h e k r w).threads) :
    (∃ j, j ≠ i ∧ σ.threads[j]? = some t) ∨ t = ⟨⟨e, r⟩ :: h, some (k r)⟩ ∨
      ∃ p ∈ P.forks e r, t = .new p := by
  rcases List.mem_append.mp ht with ht | ht
  · obtain ⟨j, hj⟩ := List.mem_iff_getElem?.mp ht
    rw [List.getElem?_set] at hj
    split at hj
    · split at hj
      · exact .inr (.inl (Option.some.inj hj).symm)
      · cases hj
    · next hij => exact .inl ⟨j, Ne.symm hij, hj⟩
  · obtain ⟨p, hp, rfl⟩ := List.mem_map.mp ht
    exact .inr (.inr ⟨p, hp, rfl⟩)

/-- The thread that was answered has taken the place of what it was before. -/
theorem mem_answered_new (hthread : σ.threads[i]? = some ⟨h, some (.call e k)⟩) :
    ⟨⟨e, r⟩ :: h, some (k r)⟩ ∈ (P.answered σ i h e k r w).threads := by
  obtain ⟨hlt, -⟩ := List.getElem?_eq_some_iff.mp hthread
  exact List.mem_append_left _ (List.mem_set hlt _)

/-- The other threads are as they were. -/
theorem mem_answered_of_mem (hthread : σ.threads[i]? = some ⟨h, some (.call e k)⟩)
    (ht : t ∈ σ.threads) : t ∈ (P.answered σ i h e k r w).threads ∨ t = ⟨h, some (.call e k)⟩ := by
  obtain ⟨j, hj⟩ := List.mem_iff_getElem?.mp ht
  by_cases hij : i = j
  · subst hij
    rw [hthread] at hj
    exact .inr (Option.some.inj hj).symm
  · refine .inl (List.mem_append_left _ (List.mem_of_getElem? (i := j) ?_))
    rw [List.getElem?_set_ne hij]
    exact hj

/-- Some thread has done what `φ` says. -/
def State.Someone (φ : List (Act E A) → Prop) (σ : State W E A ε α) : Prop :=
  ∃ t ∈ σ.threads, φ t.history

variable {φ : List (Act E A) → Prop}

/-- What a thread has done remains when another is started. -/
theorem State.Someone.started (hsome : σ.Someone φ) (new : Thread E A ε α) :
    ∃ t ∈ σ.threads ++ [new], φ t.history :=
  hsome.imp fun _ ht => ⟨List.mem_append_left _ ht.1, ht.2⟩

/-- What a thread has done remains when it goes on. -/
theorem State.Someone.answered (hthread : σ.threads[i]? = some ⟨h, some (.call e k)⟩)
    (hφ : φ h → φ (⟨e, r⟩ :: h)) (hsome : σ.Someone φ) :
    (P.answered σ i h e k r w).Someone φ := by
  obtain ⟨t, ht, hdone⟩ := hsome
  rcases mem_answered_of_mem (r := r) (w := w) hthread ht with ht | rfl
  · exact ⟨t, ht, hdone⟩
  · exact ⟨_, mem_answered_new hthread, hφ hdone⟩

/-- What a thread has done remains when it is dropped. -/
theorem State.Someone.dropped (hthread : σ.threads[i]? = some ⟨h, some (.call e k)⟩)
    (hsome : σ.Someone φ) : ∃ t ∈ σ.threads.set i ⟨h, none⟩, φ t.history := by
  obtain ⟨t, ht, hdone⟩ := hsome
  obtain ⟨j, hj⟩ := List.mem_iff_getElem?.mp ht
  by_cases hij : i = j
  · subst hij
    obtain ⟨hlt, -⟩ := List.getElem?_eq_some_iff.mp hthread
    cases hj.symm.trans hthread
    exact ⟨⟨h, none⟩, List.mem_set hlt _, hdone⟩
  · refine ⟨t, List.mem_of_getElem? (i := j) ?_, hdone⟩
    rw [List.getElem?_set_ne hij]
    exact hj

/-- Where a thread comes from. -/
theorem Change.thread {event : Event X K I} {σ' : State W E A ε α} (hchange : P.Change σ event σ')
    (ht : σ'.threads[i]? = some t) :
    σ.threads[i]? = some t ∨ t.history = [] ∨ (∃ h e k, σ.threads[i]? = some ⟨h, some (.call e k)⟩ ∧
      (t = ⟨h, none⟩ ∨ ∃ input r w, P.answer σ.world input e = some (r, w) ∧
        t = ⟨⟨e, r⟩ :: h, some (k r)⟩)) := by
  cases hchange with
  | outside x => exact .inl ht
  | started k =>
    rw [List.getElem?_append] at ht
    split at ht
    · exact .inl ht
    · obtain rfl := List.mem_singleton.mp (List.mem_of_getElem? ht)
      exact .inr (.inl rfl)
  | @answered j input h e k r w hat hanswer =>
    change (_ ++ _)[i]? = _ at ht
    rw [List.getElem?_append] at ht
    split at ht
    · by_cases hij : j = i
      · subst hij
        obtain ⟨hlt, -⟩ := List.getElem?_eq_some_iff.mp hat
        rw [List.getElem?_set_self hlt] at ht
        exact .inr (.inr ⟨h, e, k, hat, .inr ⟨input, r, w, hanswer, (Option.some.inj ht).symm⟩⟩)
      · rw [List.getElem?_set_ne hij] at ht
        exact .inl ht
    · obtain ⟨p, -, rfl⟩ := List.mem_map.mp (List.mem_of_getElem? ht)
      exact .inr (.inl rfl)
  | @dropped j h e k hat hawaits =>
    by_cases hij : j = i
    · subst hij
      obtain ⟨hlt, -⟩ := List.getElem?_eq_some_iff.mp hat
      rw [List.getElem?_set_self hlt] at ht
      exact .inr (.inr ⟨h, e, k, hat, .inl (Option.some.inj ht).symm⟩)
    · rw [List.getElem?_set_ne hij] at ht
      exact .inl ht
  | idle => exact .inl ht

/-! ### Rules and assertions -/

/-- Every program obeys the rule `G`, and ends as `Q` says. -/
structure Disciplined (P : Pool W X K I E A ε α) (G : List (Act E A) → E → Prop)
    (Q : Except ε α → List (Act E A) → Prop) : Prop where
  programs : ∀ k, (P.program k).Obeys G Q []
  forks : ∀ e r, ∀ p ∈ P.forks e r, p.Obeys G Q []

/-- What is asserted of the world, `J`, and of the world and what a thread has done, `L`: both
are kept when a call that the rule `G` and the condition `C` allow is answered, the latter for
every other thread that is compatible, as `R` says, with the one that is answered. -/
structure Sound (P : Pool W X K I E A ε α) (G : List (Act E A) → E → Prop)
    (C : W → List (Act E A) → (e : E) → A e → Prop)
    (R : List (Act E A) → List (Act E A) → Prop)
    (J : W → Prop) (L : W → List (Act E A) → Prop) : Prop where
  fresh : ∀ w, J w → L w []
  outside : ∀ x w, J w → J (P.outside x w) ∧ ∀ h, L w h → L (P.outside x w) h
  call : ∀ {w input e r w' h}, J w → L w h → G h e → C w h e r → P.answer w input e = some (r, w') →
    J w' ∧ L w' (⟨e, r⟩ :: h) ∧ ∀ h', L w h' → R h h' → L w' h'

/-- Any two threads are compatible. -/
def State.Apart (R : List (Act E A) → List (Act E A) → Prop) (σ : State W E A ε α) : Prop :=
  ∀ (i j : ℕ) (t t' : Thread E A ε α), i ≠ j → σ.threads[i]? = some t → σ.threads[j]? = some t' →
    R t.history t'.history

/-- What holds of a state: the assertions, and that the threads obey their rule. -/
structure State.Holds (G : List (Act E A) → E → Prop) (Q : Except ε α → List (Act E A) → Prop)
    (J : W → Prop) (L : W → List (Act E A) → Prop) (σ : State W E A ε α) : Prop where
  world : J σ.world
  threads : ∀ t ∈ σ.threads, L σ.world t.history ∧ ∀ p ∈ t.rest, p.Obeys G Q t.history

variable {G : List (Act E A) → E → Prop} {Q : Except ε α → List (Act E A) → Prop}
  {C : W → List (Act E A) → (e : E) → A e → Prop} {R : List (Act E A) → List (Act E A) → Prop}
  {J : W → Prop} {L : W → List (Act E A) → Prop}

theorem State.Holds.step (hP : P.Disciplined G Q) (hsound : P.Sound G C R J L)
    (h : σ.Holds G Q J L) (hapart : σ.Apart R) (event : Event X K I) (hmeets : P.Admits C σ event) :
    (P.step σ event).Holds G Q J L := by
  have hchange := P.step_change σ event
  generalize P.step σ event = σ' at hchange
  cases hchange with
  | outside x =>
    obtain ⟨hworld, hlocal⟩ := hsound.outside x σ.world h.world
    exact ⟨hworld, fun t ht => ⟨hlocal _ (h.threads t ht).1, (h.threads t ht).2⟩⟩
  | started k =>
    refine ⟨h.world, fun t ht => ?_⟩
    rcases List.mem_append.mp ht with ht | ht
    · exact h.threads t ht
    obtain rfl := List.mem_singleton.mp ht
    refine ⟨hsound.fresh _ h.world, fun p hp => ?_⟩
    cases hp
    exact hP.programs k
  | @answered i input hist e k r w hthread hanswer =>
    obtain ⟨hlocal, hobeys⟩ := h.threads _ (List.mem_of_getElem? hthread)
    obtain ⟨hallowed, hrest⟩ := obeys_call.mp (hobeys _ rfl)
    obtain ⟨hworld, hown, hothers⟩ :=
      hsound.call h.world hlocal hallowed (hmeets.of_answered hthread hanswer) hanswer
    refine ⟨hworld, fun t ht => ?_⟩
    rcases mem_answered ht with ⟨j, hij, hj⟩ | rfl | ⟨p, hp, rfl⟩
    · obtain ⟨hlocal', hobeys'⟩ := h.threads t (List.mem_of_getElem? hj)
      exact ⟨hothers _ hlocal' (hapart i j _ _ hij.symm hthread hj), hobeys'⟩
    · refine ⟨hown, fun p hp => ?_⟩
      cases hp
      exact hrest r
    · refine ⟨hsound.fresh _ hworld, fun q hq => ?_⟩
      cases hq
      exact hP.forks e r p hp
  | dropped hthread =>
    refine ⟨h.world, fun t ht => ?_⟩
    rcases List.mem_or_eq_of_mem_set ht with ht | rfl
    · exact h.threads t ht
    · exact ⟨(h.threads _ (List.mem_of_getElem? hthread)).1, nofun⟩
  | idle => exact h

/-- **What is asserted holds throughout**, if every call that is answered meets the condition
and the threads are compatible in every state. -/
theorem State.Holds.run (hP : P.Disciplined G Q) (hsound : P.Sound G C R J L)
    (h : σ.Holds G Q J L) (hapart : ∀ events, (P.run events σ).Apart R)
    (events : List (Event X K I)) (hmeets : Tally.Along P.step (P.Admits C) events σ) :
    (P.run events σ).Holds G Q J L := by
  induction events generalizing σ with
  | nil => exact h
  | cons event rest ih =>
    exact ih (h.step hP hsound (hapart []) event hmeets.1) (fun events => hapart (event :: events))
      hmeets.2

/-- A condition that is always met. -/
theorem meets_true (event : Event X K I) : P.Admits (fun _ _ _ _ => True) σ event := by
  cases event with
  | resume i input => exact fun _ _ _ _ => trivial
  | _ => trivial

theorem along_meets_true (events : List (Event X K I)) :
    Tally.Along P.step (P.Admits fun _ _ _ _ => True) events σ := by
  induction events generalizing σ with
  | nil => trivial
  | cons event rest ih => exact ⟨meets_true event, ih⟩

theorem State.apart_true (σ : State W E A ε α) : σ.Apart fun _ _ => True :=
  fun _ _ _ _ _ _ _ => trivial

/-! ### Counting -/

/-- How much a thread has done, each act counted as `f` says. -/
def amount (f : Act E A → ℕ) (h : List (Act E A)) : ℕ := (h.map f).sum

/-- How much has been done in all. -/
def State.count (f : Act E A → ℕ) (σ : State W E A ε α) : ℕ :=
  (σ.threads.map fun t => amount f t.history).sum

variable {f g : Act E A → ℕ}

@[simp] theorem amount_nil : amount f [] = 0 := rfl

@[simp] theorem amount_cons {a : Act E A} : amount f (a :: h) = f a + amount f h := by
  simp [amount]

theorem le_amount {a : Act E A} (ha : a ∈ h) : f a ≤ amount f h :=
  List.single_le_sum (fun _ _ => Nat.zero_le _) _ (List.mem_map_of_mem ha)

/-- Replacing an entry of a list changes the sum by the difference. -/
theorem sum_map_set {τ : Type} (m : τ → ℕ) {ts : List τ} {i : ℕ} {t : τ} (t' : τ)
    (ht : ts[i]? = some t) : ((ts.set i t').map m).sum + m t = (ts.map m).sum + m t' := by
  induction ts generalizing i with
  | nil => cases ht
  | cons u us ih =>
    cases i with
    | zero =>
      cases ht
      simp only [List.set_cons_zero, List.map_cons, List.sum_cons]
      omega
    | succ i =>
      have hus := ih ht
      simp only [List.set_cons_succ, List.map_cons, List.sum_cons]
      omega

theorem count_answered (hthread : σ.threads[i]? = some ⟨h, some (.call e k)⟩) :
    (P.answered σ i h e k r w).count f = σ.count f + f ⟨e, r⟩ := by
  have hset := sum_map_set (fun t => amount f t.history) ⟨⟨e, r⟩ :: h, some (k r)⟩ hthread
  -- The threads that the call starts have done nothing.
  have hforks : (((P.forks e r).map Thread.new).map fun t => amount f t.history).sum = 0 := by
    refine List.sum_eq_zero fun n hn => ?_
    rw [List.map_map] at hn
    obtain ⟨p, -, rfl⟩ := List.mem_map.mp hn
    rfl
  simp only [amount_cons] at hset
  simp only [State.count, answered, List.map_append, List.sum_append, hforks]
  omega

/-- Two threads together have done no more than all. -/
theorem State.amount_add_le {i j : ℕ} {t' : Thread E A ε α} (hij : i ≠ j)
    (ht : σ.threads[i]? = some t) (ht' : σ.threads[j]? = some t') :
    amount f t.history + amount f t'.history ≤ σ.count f := by
  have hset := sum_map_set (fun t => amount f t.history) ⟨[], none⟩ ht
  have hj : (σ.threads.set i ⟨[], none⟩)[j]? = some t' := by
    rw [List.getElem?_set_ne hij]
    exact ht'
  have hle : amount f t'.history ≤ ((σ.threads.set i ⟨[], none⟩).map
      fun t => amount f t.history).sum :=
    List.single_le_sum (fun _ _ => Nat.zero_le _) _
      (List.mem_map_of_mem (f := fun t : Thread E A ε α => amount f t.history)
        (List.mem_of_getElem? hj))
  simp only [amount_nil, add_zero] at hset
  unfold State.count
  omega

/-- What every thread has done less of than of something else, all have. -/
theorem State.count_le_count (h : ∀ t ∈ σ.threads, amount f t.history ≤ amount g t.history) :
    σ.count f ≤ σ.count g :=
  List.sum_le_sum h

/-- **How much has been done is bounded by a measure of the world**, if each call that adds to
the one adds to the other, in such worlds as there are. -/
theorem count_run_le {μ : W → ℕ} (hJ : ∀ events, J (P.run events σ).world)
    (houtside : ∀ x w, J w → μ w ≤ μ (P.outside x w))
    (hcall : ∀ {w input e r w'}, J w → P.answer w input e = some (r, w') → μ w + f ⟨e, r⟩ ≤ μ w')
    (h : σ.count f ≤ μ σ.world) (events : List (Event X K I)) :
    (P.run events σ).count f ≤ μ (P.run events σ).world := by
  induction events generalizing σ with
  | nil => exact h
  | cons event rest ih =>
    refine ih (fun events => hJ (event :: events)) ?_
    have hworld : J σ.world := hJ []
    have hchange := P.step_change σ event
    generalize P.step σ event = σ' at hchange
    cases hchange with
    | outside x => exact h.trans (houtside x _ hworld)
    | started k =>
      change ((σ.threads ++ [Thread.new (P.program k)]).map _).sum ≤ _
      rw [List.map_append, List.sum_append]
      exact h
    | answered hthread hanswer =>
      rw [count_answered hthread]
      exact (Nat.add_le_add_right h _).trans (hcall hworld hanswer)
    | @dropped i hist e k hthread =>
      have hset := sum_map_set (fun t => amount f t.history) ⟨hist, none⟩ hthread
      exact (Nat.add_right_cancel hset).le.trans h
    | idle => exact h

end Pool

end Navigator
