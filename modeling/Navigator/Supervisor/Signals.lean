/-
Signals.

A supervisor sends a signal only to the process that was spawned for the attempt, after an
inspection that has found this very process and a look at the clock.  Stopping is a sequence of
at most two signals; it goes on only as long as the inspections find the process.  A caller
that asks for a process to be stopped has to own the session.

* **`signals_go_to_the_verified_process`** — for every run, every stop and every sequence.
-/
import Navigator.Supervisor.Books

namespace Navigator

open Prog InstanceSupervisor

namespace Supervision

variable {h : History} {attemptId : LaunchAttemptId} {evidence : ProcessEvidence}
  {deadline : Instant} {I : InstanceSupervisor}
variable {R : Except SupervisorError Bool → History → Prop} {kind : SupervisorAct → Bool}

def isSignal : SupervisorCall → Bool
  | .signal .. => true
  | _ => false

/-- The caller is told that it owns the session. -/
def validates (host : HostId) (epoch : FencingEpoch) : SupervisorAct → Bool
  | ⟨.validateLaunchAuthority _ h e, .ok ()⟩ => h = host && e = epoch
  | _ => false

/-! ### One sequence -/

/-- Every inspection has found the process. -/
def AllSame (h : History) : Prop :=
  ∀ attemptId evidence r, ⟨.inspect attemptId evidence, r⟩ ∈ h → r = .ok .same

/-- The rule of a sequence with the deadline: a signal is for the process, every inspection has
found it, and so has the one that the last look at the clock, before the deadline, comes
after. -/
def InSequence (attemptId : LaunchAttemptId) (evidence : ProcessEvidence) (deadline : Instant)
    (h : History) (e : SupervisorCall) : Prop :=
  isSignal e = true → (∃ kind, e = .signal kind attemptId evidence) ∧ AllSame h ∧
    ∃ now before, h = ⟨.now (some deadline), now⟩ ::
      ⟨.inspect attemptId evidence, .ok .same⟩ :: before ∧ now < deadline

theorem AllSame.cons {a : SupervisorAct} (hsame : AllSame h)
    (ha : ∀ attemptId evidence r, a = ⟨.inspect attemptId evidence, r⟩ → r = .ok .same) :
    AllSame (a :: h) := by
  intro attemptId evidence r hmem
  rcases List.mem_cons.mp hmem with heq | hmem
  · exact ha _ _ _ heq.symm
  · exact hsame _ _ _ hmem

theorem afterFailedSignal_inSequence {error : SupervisorError} (hR : ∀ x h', R x h') :
    (afterFailedSignal attemptId evidence error).Obeys (InSequence attemptId evidence deadline) R
      h := by
  refine Obeys.perform nofun fun r => obeys_bind.mpr ?_
  match r with
  | .error e => exact hR _ _
  | .ok .exited => exact hR _ _
  | .ok .mismatch => exact hR _ _
  | .ok .same => exact hR _ _

theorem signalAndWait_inSequence {kind : StopSignal} {timeout : Nanos}
    {R : Except SupervisorError (Option Bool) → History → Prop} (hsame : AllSame h)
    (hR : ∀ x h', (x = .ok none → AllSame h') → R x h') :
    (signalAndWait kind timeout attemptId evidence deadline).Obeys
      (InSequence attemptId evidence deadline) R h := by
  refine Obeys.perform nofun fun r => obeys_bind.mpr ?_
  match r with
  | .error e => exact hR _ _ nofun
  | .ok .exited => exact hR _ _ nofun
  | .ok .mismatch => exact hR _ _ nofun
  | .ok .same =>
    replace hsame : AllSame (⟨.inspect attemptId evidence, .ok .same⟩ :: h) :=
      hsame.cons fun _ _ r heq => by cases heq; rfl
    refine Obeys.perform nofun fun now => ?_
    replace hsame := hsame.cons (a := ⟨.now (some deadline), now⟩) fun _ _ _ heq => by cases heq
    split
    · exact hR _ _ nofun
    next hnow =>
    refine Obeys.perform (fun _ => ⟨⟨kind, rfl⟩, hsame, now, h, rfl, not_le.mp hnow⟩) fun r => ?_
    obtain error | u := r
    · refine obeys_bind.mpr (afterFailedSignal_inSequence fun x h' => ?_)
      cases x <;> exact hR _ _ fun heq => by cases heq
    replace hsame := hsame.cons (a := ⟨.signal kind attemptId evidence, .ok u⟩)
      fun _ _ _ heq => by cases heq
    refine Obeys.perform nofun fun now => ?_
    replace hsame := hsame.cons (a := ⟨.now (some deadline), now⟩) fun _ _ _ heq => by cases heq
    dsimp only
    split
    · exact hR _ _ nofun
    refine Obeys.perform nofun fun r => obeys_bind.mpr ?_
    match r with
    | .error e => exact hR _ _ nofun
    | .ok true => exact hR _ _ nofun
    | .ok false => exact hR _ _ fun _ => hsame.cons fun _ _ _ heq => by cases heq

/-- A sequence goes on only as long as the inspections find the process. -/
theorem stopVerifiedUntil_inSequence :
    (I.stopVerifiedUntil attemptId evidence deadline).Obeys
      (InSequence attemptId evidence deadline) (fun _ _ => True) [] := by
  have hnone : AllSame [] := fun _ _ _ hmem => absurd hmem List.not_mem_nil
  refine obeys_bind.mpr (signalAndWait_inSequence hnone fun x h1 hsame => ?_)
  match x with
  | .error e => trivial
  | .ok (some b) => trivial
  | .ok none =>
    refine obeys_bind.mpr (signalAndWait_inSequence (hsame rfl) fun x h2 _ => ?_)
    match x with
    | .error e => trivial
    | .ok (some b) => trivial
    | .ok none => trivial

/-! ### Stopping on behalf of an owner -/

/-- A rule that asks for something to have been done is obeyed once it has been. -/
theorem obeys_of_did {α : Type} {P : SupervisorCall → Prop} (p : SupervisorProg α)
    (hdid : Did kind h) : p.Obeys (fun h e => P e → Did kind h) (fun _ _ => True) h := by
  induction p generalizing h with
  | ret x => trivial
  | call e k ih => exact ⟨fun _ => hdid, fun r => ih r hdid.cons⟩

theorem isLateCleanup_unsignalled {snapshot : LaunchSnapshot} (hR : ∀ b h', R (.ok b) h') :
    (isLateCleanup snapshot deadline).Obeys (fun h e => isSignal e = true → Did kind h) R h := by
  unfold isLateCleanup
  split
  · exact Obeys.perform nofun fun _ => hR _ _
  · exact hR _ _

/-- A process is stopped for somebody who has been told to own the session. -/
theorem stopWithDeadline_validated {hostId : HostId} {epoch : FencingEpoch} {ids : StopRequestIds} :
    (I.stopWithDeadline attemptId hostId epoch ids deadline).Obeys
      (fun h e => isSignal e = true → Did (validates hostId epoch) h) (fun _ _ => True) [] := by
  refine Obeys.perform nofun fun r => obeys_bind.mpr ?_
  obtain error | snapshot := r
  · trivial
  change (ite _ _ _ : SupervisorProg StopOutcome).Obeys _ _ _
  split
  · trivial
  refine obeys_bind.mpr (isLateCleanup_unsignalled fun late h1 => ?_)
  cases late with
  | true => trivial
  | false =>
    refine then_ok.mpr (Obeys.perform (fun hsignal => by cases hsignal) fun r =>
      obeys_bind.mpr ?_)
    cases r with
    | error error => trivial
    | ok u => exact obeys_of_did _ (did_head (by simp [validates]))

/-! ### Every run -/

/-- The calls of a thread were warranted when they were made. -/
theorem allowed_run (env : Env) (events : List Event) :
    ∀ t ∈ ((pool env).run events start).threads, Allowed Warrant t.history := by
  have hsound : (pool env).Sound Warrant (fun _ _ _ _ => True) (fun _ _ => True) (fun _ => True)
      fun _ h => Allowed Warrant h :=
    ⟨fun _ _ => trivial, fun _ _ _ => ⟨trivial, fun _ h => h⟩,
      fun _ hallowed hwarrant _ _ => ⟨trivial, ⟨hwarrant, hallowed⟩, fun _ h _ => h⟩⟩
  have hstart : start.Holds Warrant (fun _ => Calm) (fun _ => True)
      fun _ h => Allowed Warrant h := ⟨trivial, nofun⟩
  exact fun t ht => ((hstart.run (disciplined env) hsound (fun _ => Pool.State.apart_true _) events
    (Pool.along_meets_true events)).threads t ht).1

end Supervision

open Supervision

/-- **Signals go to the verified process.**  In every run, a signal is for the process that was
spawned for its attempt, which is the one recorded for it if one is, and comes right after a
look at the clock, before the deadline, that comes right after an inspection which has found
this process.  A stop sends signals only after the caller was told, in the same call, that it
owns the session.  And the sequence that stops a process sends none after an inspection that
has not found it; its deadline is the one that it was given. -/
theorem signals_go_to_the_verified_process (env : Env) :
    (∀ events, ∀ t ∈ ((pool env).run events start).threads,
      ∀ kind attemptId evidence r later before,
        t.history = later ++ ⟨.signal kind attemptId evidence, r⟩ :: before →
          Verified attemptId evidence before ∧
          (attemptId, evidence) ∈ ((pool env).run events start).world.evidence ∧
          ∀ l ∈ ((pool env).run events start).world.store.launches.find? attemptId,
            ∀ recorded ∈ l.evidence, recorded = evidence) ∧
    (∀ (I : InstanceSupervisor) attemptId hostId epoch ids deadline,
      (I.stopWithDeadline attemptId hostId epoch ids deadline).Obeys
        (fun h e => isSignal e = true → Did (validates hostId epoch) h) (fun _ _ => True) []) ∧
    ∀ (I : InstanceSupervisor) attemptId evidence deadline,
      (I.stopVerifiedUntil attemptId evidence deadline).Obeys
        (InSequence attemptId evidence deadline) (fun _ _ => True) [] := by
  refine ⟨?_, fun _ _ _ _ _ _ => stopWithDeadline_validated,
    fun _ _ _ _ => stopVerifiedUntil_inSequence⟩
  intro events t ht kind attemptId evidence r later before heq
  obtain ⟨hworld, hthreads⟩ := holds_run env events
  have hallowed := allowed_run env events t ht
  rw [heq] at hallowed
  obtain ⟨-, htold, hverified⟩ := hallowed.of_append
  have hevidence : (attemptId, evidence) ∈ ((pool env).run events start).world.evidence := by
    refine (hthreads t ht).1.told (htold.mono ?_)
    rw [heq]
    exact (List.suffix_cons _ _).trans (List.suffix_append _ _)
  refine ⟨hverified, hevidence, fun l hl recorded hrecorded => ?_⟩
  exact hworld.unique (hworld.recorded hl hrecorded) hevidence

open Sample in
/-- A process whose launch cannot be attached is sent a signal. -/
example : ((pool world).run (spawning ++ [.resume 0 .go, .resume 0 (.fails .unavailable none),
    .resume 0 (.instant 0), .resume 0 (.observation .same), .resume 0 (.instant 0),
    .resume 0 .go]) start).threads.map (fun t => t.history.any fun a => isSignal a.1) = [true] := by
  decide +kernel

end Navigator
