/-
No process is forgotten.

A supervisor keeps a binding for every process that it has spawned until the process is seen
to have exited.  The exception is a loss of the ownership after which the process neither exits
by itself nor can be stopped in the regular way, because the store fails: then the process is
stopped as well as may be, and forgotten whether or not that has helped.

* **`no_live_process_is_forgotten`** — if the store does not fail then, every process is bound
  or seen to have exited; and the watchdog closes its fence and revokes the ownership before it
  does anything else to a process;
* **`failed_stop_is_forgotten`** — otherwise a process may be lost.
-/
import Navigator.Supervisor.Signals

namespace Navigator

open Prog

namespace Supervision

open InstanceSupervisor

variable {env : Env} {h : History} {attemptId : LaunchAttemptId}
variable {a : SupervisorAct} {w : World} {hostId : HostId} {epoch : FencingEpoch}
  {ids : StopRequestIds}

/-! ### Removing a binding -/

/-- The attempt whose ownership is revoked. -/
def revoked? : SupervisorAct → Option LaunchAttemptId
  | ⟨.revokeOwnership a, .ok ()⟩ => some a
  | _ => none

/-- While an ownership is revoked and the exit of its process not seen, no call on the store
fails, and a launch that is loaded has a process or is stopped. -/
def Steady (h : History) (e : SupervisorCall) (r : e.Answer) : Prop :=
  ∀ a ∈ h, ∀ k ∈ revoked? a, ¬ Did (showsExit k) h → falters ⟨e, r⟩ = false

instance {e : SupervisorCall} {r : e.Answer} : Decidable (Steady h e r) :=
  inferInstanceAs (Decidable (∀ a ∈ h, ∀ k ∈ revoked? a, ¬ Did (showsExit k) h →
    falters ⟨e, r⟩ = false))

theorem revoked?_of_revokes (ha : revokes attemptId a = true) : revoked? a = some attemptId := by
  unfold revokes at ha
  split at ha
  · obtain rfl := of_decide_eq_true ha
    rfl
  · cases ha

/-- Nothing has gone wrong for the worse. -/
def Unfaltering (h : History) : Prop := ∀ k, ¬ Faltered k h

theorem Unfaltering.cons (hsteady : Unfaltering h) {e : SupervisorCall} {r : e.Answer}
    (hstep : Steady h e r) : Unfaltering (⟨e, r⟩ :: h) := by
  rintro k ⟨a, before, hsuffix, hfalters, hrevoked, hexit⟩
  rcases List.suffix_cons_iff.mp hsuffix with heq | hsuffix
  · obtain ⟨rfl, rfl⟩ := List.cons.inj heq
    obtain ⟨x, hx, hrevokes⟩ := hrevoked
    cases hfalters.symm.trans (hstep x hx k (revoked?_of_revokes hrevokes) hexit)
  · exact hsteady k ⟨a, before, hsuffix, hfalters, hrevoked, hexit⟩

theorem sound_unfaltering : (pool env).Sound Warrant (fun _ h e r => Steady h e r)
    (fun _ _ => True) (fun _ => True) fun _ h => Unfaltering h where
  fresh _ _ := by
    rintro k ⟨a, before, hsuffix, -⟩
    exact absurd (List.suffix_nil.mp hsuffix) nofun
  outside _ _ _ := ⟨trivial, fun _ h => h⟩
  call _ hsteady _ hstep _ := ⟨trivial, hsteady.cons hstep, fun _ h _ => h⟩

theorem unfaltering_run {events : List Event}
    (hsteady : Tally.Along (pool env).step ((pool env).Admits fun _ h e r => Steady h e r)
      events start) : ∀ t ∈ ((pool env).run events start).threads, Unfaltering t.history := by
  have hstart : start.Holds Warrant (fun _ => Calm) (fun _ => True)
      fun _ h => Unfaltering h := ⟨trivial, nofun⟩
  exact fun t ht => ((hstart.run (disciplined env) sound_unfaltering
    (fun _ => Pool.State.apart_true _) events hsteady).threads t ht).1

/-- The exit of a process was seen: an inspection of it has answered so, or a wait. -/
def ExitProven (attemptId : LaunchAttemptId) (evidence : ProcessEvidence) (h : History) : Prop :=
  ⟨.inspect attemptId evidence, .ok .exited⟩ ∈ h ∨
    ∃ timeout, ⟨.waitForExit attemptId timeout, .ok true⟩ ∈ h

theorem exitProven_of_showsExit {evidence : ProcessEvidence} {h' : History}
    (hw : Consistent env w) (hrecalls : Recalls w h') (hsuffix : h <:+ h')
    (hevidence : (attemptId, evidence) ∈ w.evidence) (hdid : Did (showsExit attemptId) h) :
    ExitProven attemptId evidence h := by
  obtain ⟨a, ha, hshows⟩ := hdid
  unfold showsExit at hshows
  split at hshows
  · obtain rfl := of_decide_eq_true hshows
    -- what was inspected is the process
    have hsame := hw.unique (hrecalls.inspected (hsuffix.mem ha)) hevidence
    subst hsame
    exact .inl ha
  · obtain rfl := of_decide_eq_true hshows
    exact .inr ⟨_, ha⟩
  · cases hshows

/-! ### Bound, or let go of -/

/-- A process is bound, somebody has removed its binding, or the call that has spawned it has
just been handed it. -/
def Held (σ : State) (attemptId : LaunchAttemptId) (evidence : ProcessEvidence) : Prop :=
  (∃ i binding, ((i, attemptId), binding) ∈ σ.world.bindings ∧ binding.evidence = evidence) ∨
  (σ.Someone fun h => ∃ i, ⟨.unbind i attemptId, ()⟩ ∈ h) ∨
  σ.Someone fun h => ∃ before, h = ⟨.spawned attemptId, .ok evidence⟩ :: before

def AllHeld (σ : State) : Prop :=
  ∀ {attemptId evidence}, (attemptId, evidence) ∈ σ.world.evidence → Held σ attemptId evidence

/-- Bindings survive a change of the world unless they are removed. -/
theorem Change.bound {w' : World} (hw : Consistent env w) (hrecalls : Recalls w h)
    (hwarrant : Warrant h a.1) (hchange : Change env w a w') {i : ℕ} {binding : RuntimeBinding}
    (hbound : ((i, attemptId), binding) ∈ w.bindings) :
    (∃ i' binding', ((i', attemptId), binding') ∈ w'.bindings ∧
      binding'.evidence = binding.evidence) ∨ a = ⟨.unbind i attemptId, ()⟩ := by
  cases hchange with
  | bind supervisor attemptId' binding' =>
    obtain ⟨before, rfl⟩ := hwarrant
    by_cases hkey : (i, attemptId) = (supervisor, attemptId')
    · -- the same process again
      obtain ⟨rfl, rfl⟩ := Prod.mk.inj hkey
      refine .inl ⟨i, binding', List.mem_cons_self, ?_⟩
      exact hw.unique (hrecalls.told (did_head (by simp [tells]))) (hw.bound hbound)
    · refine .inl ⟨i, binding, List.mem_cons_of_mem _ (List.mem_filter.mpr ⟨hbound, ?_⟩), rfl⟩
      exact decide_eq_true hkey
  | unbind supervisor attemptId' =>
    by_cases hkey : (i, attemptId) = (supervisor, attemptId')
    · obtain ⟨rfl, rfl⟩ := Prod.mk.inj hkey
      exact .inr rfl
    · refine .inl ⟨i, binding, List.mem_filter.mpr ⟨hbound, ?_⟩, rfl⟩
      exact decide_eq_true hkey
  | _ => exact .inl ⟨i, binding, hbound, rfl⟩

/-- Only the answer to a spawn adds to the evidence. -/
theorem Change.evidence {w' : World} (hchange : Change env w a w') {evidence : ProcessEvidence}
    (hmem : (attemptId, evidence) ∈ w'.evidence) :
    (attemptId, evidence) ∈ w.evidence ∨ a = ⟨.spawned attemptId, .ok evidence⟩ := by
  cases hchange with
  | spawned attemptId' evidence' =>
    rcases List.mem_cons.mp hmem with heq | hmem
    · obtain ⟨rfl, rfl⟩ := Prod.mk.inj heq
      exact .inr rfl
    · exact .inl hmem
  | _ => exact .inl hmem

theorem AllHeld.step {σ : State}
    (hσ : σ.Holds Warrant (fun _ => Calm) (Consistent env) Recalls) (hheld : AllHeld σ)
    (event : Event) : AllHeld ((pool env).step σ event) := by
  have hchange := (pool env).step_change σ event
  generalize (pool env).step σ event = σ' at hchange
  intro attemptId evidence hmem
  cases hchange with
  | outside x =>
    -- what others do leaves the bindings and the evidence alone
    obtain ⟨-, hevidence, hbindings⟩ := (outside_drift x : Drift env σ.world _).frame
    change _ ∈ (σ.world.outside env x).evidence at hmem
    rw [hevidence] at hmem
    rcases hheld hmem with ⟨i, binding, hbound, heq⟩ | hrest
    · refine .inl ⟨i, binding, ?_, heq⟩
      change _ ∈ (σ.world.outside env x).bindings
      rw [hbindings]
      exact hbound
    · exact .inr hrest
  | started k =>
    exact (hheld hmem).imp id (Or.imp (·.started _) (·.started _))
  | @dropped i hist e k hthread hawaits =>
    exact (hheld hmem).imp id (Or.imp (·.dropped hthread) (·.dropped hthread))
  | idle => exact hheld hmem
  | @answered i input hist e k r w hthread hanswer =>
    obtain ⟨hrecalls, hobeys⟩ := hσ.threads _ (List.mem_of_getElem? hthread)
    have hwarrant : Warrant hist e := (obeys_call.mp (hobeys _ rfl)).1
    have hchange := (answer_spec hanswer).1
    have hown := Pool.mem_answered_new (P := pool env) (r := r) (w := w) hthread
    rcases hchange.evidence hmem with hold | heq
    · rcases hheld hold with ⟨j, binding, hbound, heq⟩ | hunbound | ⟨t, ht, before, heq⟩
      · rcases hchange.bound hσ.world hrecalls hwarrant hbound with ⟨j', binding', hb, he⟩ | hact
        · exact .inl ⟨j', binding', hb, he.trans heq⟩
        · refine .inr (.inl ⟨_, hown, j, ?_⟩)
          rw [hact]
          exact List.mem_cons_self
      · refine .inr (.inl (hunbound.answered hthread fun hact => ?_))
        exact hact.imp fun _ => List.mem_cons_of_mem _
      · rcases Pool.mem_answered_of_mem (P := pool env) (r := r) (w := w) hthread ht with ht | rfl
        · exact .inr (.inr ⟨t, ht, before, heq⟩)
        -- the call that was handed the process binds it
        subst heq
        cases e with
        | bind supervisor attemptId' binding =>
          obtain ⟨before', heq⟩ := hwarrant
          obtain ⟨hact, -⟩ := List.cons.inj heq
          cases hact
          cases hanswer
          exact .inl ⟨supervisor, binding, List.mem_cons_self, rfl⟩
        | _ => exact hwarrant.1.elim
    · exact .inr (.inr ⟨_, hown, hist, by rw [heq]⟩)

theorem allHeld_run {σ : State}
    (hσ : σ.Holds Warrant (fun _ => Calm) (Consistent env) Recalls) (hheld : AllHeld σ)
    (hapart : ∀ events, ((pool env).run events σ).Apart Compatible) (events : List Event) :
    AllHeld ((pool env).run events σ) := by
  induction events generalizing σ with
  | nil => exact hheld
  | cons event rest ih =>
    exact ih (hσ.step (disciplined env) sound_books (hapart []) event (Pool.meets_true event))
      (hheld.step hσ event) fun events => hapart (event :: events)

/-- The call was dropped when it had just been handed the process. -/
def stranded (attemptId : LaunchAttemptId) (evidence : ProcessEvidence)
    (t : Pool.Thread SupervisorCall SupervisorCall.Answer SupervisorError Outcome) : Bool :=
  match t with
  | ⟨⟨.spawned a, .ok found⟩ :: _, none⟩ => a = attemptId && found = evidence
  | _ => false

/-- The call has been handed the process and binds it next. -/
def AboutToBind (attemptId : LaunchAttemptId) (evidence : ProcessEvidence)
    (t : Pool.Thread SupervisorCall SupervisorCall.Answer SupervisorError Outcome) : Prop :=
  ∃ before i binding k, binding.evidence = evidence ∧
    t = ⟨⟨.spawned attemptId, .ok evidence⟩ :: before,
      some (.call (.bind i attemptId binding) k)⟩

/-- A call that has just been handed a process can only go on by binding it. -/
theorem aboutToBind_of_handed {before : History} {evidence : ProcessEvidence}
    {rest : Option (SupervisorProg Outcome)}
    (hobeys : ∀ p ∈ rest, p.Obeys Warrant (fun _ => Calm)
      (⟨.spawned attemptId, .ok evidence⟩ :: before))
    (hstranded : stranded attemptId evidence ⟨⟨.spawned attemptId, .ok evidence⟩ :: before, rest⟩ =
      false) :
    AboutToBind attemptId evidence ⟨⟨.spawned attemptId, .ok evidence⟩ :: before, rest⟩ := by
  obtain _ | ⟨x⟩ | ⟨e, k⟩ := rest
  · simp [stranded] at hstranded
  · exact (hobeys _ rfl).elim
  · have hwarrant := (obeys_call.mp (hobeys _ rfl)).1
    cases e with
    | bind i attemptId' binding =>
      obtain ⟨before', heq⟩ := hwarrant
      cases heq
      exact ⟨before, i, binding, k, rfl, rfl⟩
    | _ => exact hwarrant.1.elim

/-! ### The watchdog -/

def closesFence : SupervisorAct → Bool
  | ⟨.closeFence, _⟩ => true
  | _ => false

/-- The rule of the watchdog: the ownership is revoked once the fence, if there is one, is
closed, and nothing is waited for or sent a signal before that. -/
def Fenced (attemptId : LaunchAttemptId) (fence : Bool) (h : History) : SupervisorCall → Prop
  | .revokeOwnership _ => fence = true → Did closesFence h
  | .waitForExit .. | .signal .. => Did (revokes attemptId) h
  | _ => True

variable {fence : Bool} {I : InstanceSupervisor}

/-- After that the rule asks for nothing. -/
theorem obeys_fenced {α : Type} (p : SupervisorProg α) (hfence : fence = true → Did closesFence h)
    (hrevoked : Did (revokes attemptId) h) :
    p.Obeys (Fenced attemptId fence) (fun _ _ => True) h := by
  induction p generalizing h with
  | ret x => trivial
  | call e k ih =>
    refine ⟨?_, fun r => ih r (fun hf => (hfence hf).cons) hrevoked.cons⟩
    cases e with
    | revokeOwnership a => exact hfence
    | waitForExit a timeout => exact hrevoked
    | signal kind a evidence => exact hrevoked
    | _ => trivial

theorem setTerminalFence_fenced {α : Type} {f : Unit → SupervisorProg α}
    (hf : ∀ h', (fence = true → Did closesFence h') →
      (f ()).Obeys (Fenced attemptId fence) (fun _ _ => True) h') :
    (setTerminalFence fence >>= f).Obeys (Fenced attemptId fence) (fun _ _ => True) h := by
  cases fence with
  | true => exact Obeys.perform trivial fun _ => hf _ fun _ => did_head rfl
  | false => exact hf _ nofun

theorem ownershipLost_fenced (hfence : fence = true → Did closesFence h) :
    (I.ownershipLost attemptId hostId epoch ids).Obeys (Fenced attemptId fence)
      (fun _ _ => True) h := by
  refine Obeys.perform hfence fun r => obeys_bind.mpr ?_
  cases r with
  | error error => trivial
  | ok u =>
    exact obeys_fenced _ (fun hf => (hfence hf).cons) (did_head (decide_eq_true rfl))

theorem revokeUnloaded_fenced {error : StoreError} :
    (I.revokeUnloaded attemptId fence error).Obeys (Fenced attemptId fence)
      (fun _ _ => True) h := by
  refine setTerminalFence_fenced fun h' hfence => Obeys.perform trivial fun r => ?_
  obtain _ | binding := r
  · trivial
  refine Obeys.perform (fun hf => (hfence hf).cons) fun r => obeys_bind.mpr ?_
  cases r with
  | error error => trivial
  | ok u =>
    exact obeys_fenced _ (fun hf => (hfence hf).cons.cons) (did_head (decide_eq_true rfl))

/-- Whenever the watchdog decides to revoke, it closes the fence and revokes the ownership before
anything else. -/
theorem watchOwnershipWithFence_fenced {rounds : ℕ} {uncertainty : Option Instant} :
    (I.watchOwnershipWithFence attemptId hostId epoch ids fence rounds uncertainty).Obeys
      (Fenced attemptId fence) (fun _ _ => True) h := by
  induction rounds generalizing h uncertainty with
  | zero => exact Obeys.perform trivial fun _ => trivial
  | succ rounds ih =>
    refine Obeys.perform trivial fun r => ?_
    cases r with
    | error error =>
      change (ite _ _ _ : SupervisorProg StopOutcome).Obeys _ _ _
      split
      · refine Obeys.perform trivial fun _ => .ite ?_ ?_
        · exact setTerminalFence_fenced fun _ hfence => ownershipLost_fenced hfence
        · exact Obeys.perform trivial fun _ => ih
      · exact revokeUnloaded_fenced
    | ok snapshot =>
      change (ite _ _ _ : SupervisorProg StopOutcome).Obeys _ _ _
      split
      · exact setTerminalFence_fenced fun _ _ => trivial
      · refine Obeys.perform trivial fun _ => Obeys.perform trivial fun _ => .ite ?_ ?_
        · exact setTerminalFence_fenced fun _ hfence => ownershipLost_fenced hfence
        · exact Obeys.perform trivial fun _ => ih

end Supervision

open Supervision

/-- **No live process is forgotten**, in every run in which the store does not fail between the
revocation of an ownership and the exit of its process: a binding is removed after the exit of
the process was seen, so every process that was handed over is bound, or its exit was seen, or
the call that has spawned it is under way and binds it next, unless it was dropped there.  In
every run, the watchdog closes its fence before it revokes an ownership, and revokes it before it
waits or sends a signal. -/
theorem no_live_process_is_forgotten (env : Env) (events : List Event)
    (hsteady : Tally.Along (pool env).step ((pool env).Admits fun _ h e r => Steady h e r)
      events start) :
    (∀ t ∈ ((pool env).run events start).threads, ∀ i attemptId later before evidence,
      t.history = later ++ ⟨.unbind i attemptId, ()⟩ :: before →
      (attemptId, evidence) ∈ ((pool env).run events start).world.evidence →
        ExitProven attemptId evidence before) ∧
    (∀ attemptId evidence, (attemptId, evidence) ∈ ((pool env).run events start).world.evidence →
      (∀ t ∈ ((pool env).run events start).threads, stranded attemptId evidence t = false) →
        (∃ i binding, ((i, attemptId), binding) ∈ ((pool env).run events start).world.bindings ∧
          binding.evidence = evidence) ∨
        (∃ t ∈ ((pool env).run events start).threads, ExitProven attemptId evidence t.history) ∨
        ∃ t ∈ ((pool env).run events start).threads, AboutToBind attemptId evidence t) ∧
    ∀ (I : InstanceSupervisor) attemptId hostId epoch ids fence rounds uncertainty,
      (I.watchOwnershipWithFence attemptId hostId epoch ids fence rounds uncertainty).Obeys
        (Fenced attemptId fence) (fun _ _ => True) [] := by
  obtain ⟨hworld, hthreads⟩ := holds_run env events
  have hremoved : ∀ t ∈ ((pool env).run events start).threads, ∀ i attemptId later before evidence,
        t.history = later ++ ⟨.unbind i attemptId, ()⟩ :: before →
        (attemptId, evidence) ∈ ((pool env).run events start).world.evidence →
          ExitProven attemptId evidence before := by
    intro t ht i attemptId later before evidence heq hevidence
    have hsuffix : before <:+ t.history := by
      rw [heq]
      exact (List.suffix_cons _ _).trans (List.suffix_append _ _)
    have hallowed := allowed_run env events t ht
    rw [heq] at hallowed
    obtain ⟨-, hexit | ⟨a, since, hsince, hfaltered⟩⟩ := hallowed.of_append
    · exact exitProven_of_showsExit hworld (hthreads t ht).1 hsuffix hevidence hexit
    · exact (unfaltering_run hsteady t ht attemptId
        ⟨a, since, hsince.trans hsuffix, hfaltered⟩).elim
  refine ⟨hremoved, fun attemptId evidence hevidence hstranded => ?_, fun _ _ _ _ _ _ _ _ =>
    watchOwnershipWithFence_fenced⟩
  have hheld : AllHeld start := fun hmem => absurd hmem List.not_mem_nil
  rcases allHeld_run holds_start hheld apart_run events hevidence with
    hbound | ⟨t, ht, i, hact⟩ | ⟨⟨_, rest⟩, ht, before, rfl⟩
  · exact .inl hbound
  · obtain ⟨later, before, heq⟩ := List.append_of_mem hact
    refine .inr (.inl ⟨t, ht, ?_⟩)
    rw [heq]
    exact (hremoved t ht i attemptId later before evidence heq hevidence).imp
      (fun hmem => List.mem_append_right _ (List.mem_cons_of_mem _ hmem))
      fun ⟨timeout, hmem⟩ => ⟨timeout, List.mem_append_right _ (List.mem_cons_of_mem _ hmem)⟩
  · exact .inr (.inr ⟨_, ht, aboutToBind_of_handed (hthreads _ ht).2 (hstranded _ ht)⟩)

namespace Sample

/-- A process is spawned, bound and attached, and its ownership is revoked. -/
def revoking : List Event :=
  spawning ++ [.resume 0 .go, .resume 0 (.answers (seconds 0)), .resume 0 .go,
    .start (supervisor, .ownershipLost launch hostA epoch ⟨id 24, id 25⟩), .resume 1 .go]

/-- It does not exit, the store fails, and so do an inspection and the cleanup. -/
def forgetting : List Event :=
  revoking ++ [.resume 1 (.flag false), .resume 1 (.instant 0),
    .resume 1 (.fails .unavailable none), .resume 1 .go, .resume 1 (.instant 0),
    .resume 1 (.error .process), .resume 1 (.error .process), .resume 1 .go]

/-- It exits. -/
def following : List Event :=
  revoking ++ [.outside (.vanishes launch), .resume 1 (.flag true),
    .resume 1 (.answers (seconds 0)), .resume 1 (.answers (seconds 0)),
    .resume 1 (.answers (seconds 0)), .resume 1 .go, .resume 1 .go]

end Sample

open Sample

/-- A process that runs on, and whose exit nobody has seen, is bound no more. -/
theorem failed_stop_is_forgotten :
    (launch, process) ∈ ((pool world).run forgetting start).world.evidence ∧
      ((pool world).run forgetting start).world.bindings = [] ∧
      launch ∉ ((pool world).run forgetting start).world.exited ∧
      ∀ t ∈ ((pool world).run forgetting start).threads, ¬ Did (showsExit launch) t.history := by
  decide +kernel

theorem no_live_process_is_forgotten_following :
    (launch, process) ∈ ((pool world).run following start).world.evidence ∧
      ((pool world).run following start).world.bindings = [] ∧
      Tally.Along (pool world).step ((pool world).Admits fun _ h e r => Steady h e r)
        following start ∧
      ((∃ i binding, ((i, launch), binding) ∈ ((pool world).run following start).world.bindings ∧
          binding.evidence = process) ∨
        (∃ t ∈ ((pool world).run following start).threads, ExitProven launch process t.history) ∨
        ∃ t ∈ ((pool world).run following start).threads, AboutToBind launch process t) := by
  have hsteady : Tally.Along (pool world).step
      ((pool world).Admits fun _ h e r => Steady h e r) following start := by
    decide +kernel
  have hevidence : (launch, process) ∈ ((pool world).run following start).world.evidence := by
    decide +kernel
  exact ⟨hevidence, by decide +kernel, hsteady, (no_live_process_is_forgotten world following
    hsteady).2.1 launch process hevidence (by decide +kernel)⟩

end Navigator
