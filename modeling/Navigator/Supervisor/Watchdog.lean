/-
When the watchdog revokes.

The watchdog goes through rounds of reading a launch and validating its ownership.  What it
observes is kept as one deadline, set by the first failure since the ownership was last found
valid; here it is a list of observations, newest first, and the rule is about that failure.
The deadline forgets nothing the rule needs (`deadlineAfter_eq`), so that the loop is the loop
which decides by the rule.

* **`watchdog_revokes_by_the_rule`** — for every sequence of observations, and for the loop.
-/
import Navigator.Supervisor.Instance

namespace Navigator

namespace InstanceSupervisor

/-- What was observed and when, newest first. -/
abbrev Observations : Type := List (AuthorityObservation × Instant)

variable {budget : Nanos} {seen : Observations} {now : Instant}

/-- The deadline of the uncertainty after some observations. -/
def deadlineAfter (budget : Nanos) : Observations → Option Instant
  | [] => none
  | (observation, now) :: earlier =>
    (authorityUncertaintyRequiresRevocation observation (deadlineAfter budget earlier) now budget).2

/-- The first failure since the ownership was last found valid. -/
def firstFailure : Observations → Option Instant
  | [] => none
  | (.authorityValidated, _) :: _ => none
  | (.retryableFailure, now) :: earlier => (firstFailure earlier).or (some now)
  | _ :: earlier => firstFailure earlier

/-- The rule: the ownership is lost, or a failure comes as late as the budget allows after the
first, if there is a budget and an instant so late. -/
def Demands (budget : Nanos) (seen : Observations) (now : Instant) :
    AuthorityObservation → Prop
  | .launchLoaded | .authorityValidated => False
  | .retryableFailure =>
    budget = 0 ∨ instantBound ≤ (firstFailure seen).getD now + budget ∨
      (firstFailure seen).getD now + budget ≤ now
  | .authoritativeLoss => True

instance : DecidablePred (Demands budget seen now) := fun observation => by
  cases observation <;> unfold Demands <;> infer_instance

/-- The deadline is that of the first failure, if it is representable. -/
def Recalls (budget : Nanos) (seen : Observations) : Prop :=
  budget ≠ 0 → deadlineAfter budget seen = (firstFailure seen).bind (·.checkedAdd budget)

/-- The deadline of the first failure is representable. -/
def Fits (budget : Nanos) (seen : Observations) : Prop :=
  ∀ first, firstFailure seen = some first → first + budget < instantBound

/-- What an observation demands, and what it leaves, if the clock has not gone back to where the
deadline could be represented. -/
theorem Recalls.next (h : Recalls budget seen)
    (hlate : ∀ first, firstFailure seen = some first → instantBound ≤ first + budget → first ≤ now)
    (observation : AuthorityObservation) :
    ((authorityUncertaintyRequiresRevocation observation (deadlineAfter budget seen) now budget).1 =
        true ↔ Demands budget seen now observation) ∧
      Recalls budget ((observation, now) :: seen) ∧
      (Fits budget seen → ¬ Demands budget seen now observation →
        Fits budget ((observation, now) :: seen)) := by
  cases observation with
  | launchLoaded => exact ⟨⟨nofun, nofun⟩, h, fun hfits _ => hfits⟩
  | authorityValidated => exact ⟨⟨nofun, nofun⟩, fun _ => rfl, fun _ _ => nofun⟩
  | authoritativeLoss => exact ⟨⟨fun _ => trivial, fun _ => rfl⟩, h, fun hfits _ => hfits⟩
  | retryableFailure =>
    by_cases hbudget : budget = 0
    · exact ⟨by simp [authorityUncertaintyRequiresRevocation, Demands, hbudget], absurd hbudget,
        fun _ hno => absurd (.inl hbudget) hno⟩
    have hdeadline := h hbudget
    rcases hfirst : firstFailure seen with _ | first
    · rw [hfirst] at hdeadline
      by_cases hbound : now + budget < instantBound <;>
        simp [authorityUncertaintyRequiresRevocation, Demands, Recalls, deadlineAfter, Fits,
          firstFailure, hfirst, hdeadline, hbudget, Instant.checkedAdd, hbound, not_lt.mp,
          not_le.mpr]
    · rw [hfirst] at hdeadline
      by_cases hbound : first + budget < instantBound
      · simp [authorityUncertaintyRequiresRevocation, Demands, Recalls, deadlineAfter, Fits,
          firstFailure, hfirst, hdeadline, hbudget, Instant.checkedAdd, hbound, not_le.mpr hbound]
      · have hnow : ¬ now + budget < instantBound := fun hnow => hbound
          (lt_of_le_of_lt (Nat.add_le_add_right (hlate first hfirst (not_lt.mp hbound)) _) hnow)
        simp [authorityUncertaintyRequiresRevocation, Demands, Recalls, deadlineAfter, Fits,
          firstFailure, hfirst, hdeadline, hbudget, Instant.checkedAdd, hbound, hnow,
          not_lt.mp hbound]

theorem firstFailure_mem {first : Instant} (h : firstFailure seen = some first) :
    (.retryableFailure, first) ∈ seen := by
  fun_induction firstFailure seen with
  | case1 => cases h
  | case2 => cases h
  | case3 now earlier ih =>
    cases hearlier : firstFailure earlier <;> simp_all
  | case4 _ _ _ _ ih => exact List.mem_cons_of_mem _ (ih h)

/-- In the order of time, the deadline is always as it should be. -/
theorem recalls_of_pairwise (h : seen.Pairwise fun a b => b.2 ≤ a.2) : Recalls budget seen := by
  induction seen with
  | nil => exact fun _ => rfl
  | cons x earlier ih =>
    obtain ⟨hfirst, hearlier⟩ := List.pairwise_cons.mp h
    exact ((ih hearlier).next (fun first hmem _ => hfirst _ (firstFailure_mem hmem)) x.1).2.1

/-! ### The loop -/

variable (I : InstanceSupervisor) (attemptId : LaunchAttemptId) (hostId : HostId)
  (epoch : FencingEpoch) (ids : StopRequestIds) (fence : Bool)

/-- How a round ends. -/
def endRound (lost : SupervisorProg StopOutcome) (revoke : Bool)
    (rest : SupervisorProg StopOutcome) : SupervisorProg StopOutcome :=
  if revoke = true then lost
  else do
    ask .sleep
    rest

/-- The watchdog that remembers what it has observed, and decides by the rule. -/
def watchByRule : ℕ → Observations → SupervisorProg StopOutcome
  | 0, _ => do
    ask .unfinished
    return .cleanupRequired
  | rounds + 1, seen =>
    let lost : SupervisorProg StopOutcome := do
      setTerminalFence fence
      I.ownershipLost attemptId hostId epoch ids
    let observe (observation : AuthorityObservation) : SupervisorProg StopOutcome := do
      let now ← ask (.now none)
      endRound lost (Demands I.config.ownershipLossTimeout seen now observation)
        (watchByRule rounds ((observation, now) :: seen))
    do
      match ← ask (.loadLaunch attemptId) with
      | .error error =>
        if error.retryable = true then observe .retryableFailure
        else I.revokeUnloaded attemptId fence error
      | .ok snapshot =>
        if snapshot.state = .stopped ∨ snapshot.state = .cleanupRequired then
          setTerminalFence fence
          return if snapshot.state = .stopped then .stopped else .cleanupRequired
        else
          let validation ← ask (.validateLaunchAuthority snapshot.sessionId hostId epoch)
          observe (.ofValidation validation)

theorem watchOwnershipWithFence_eq (rounds : ℕ) {seen : Observations}
    (h : Recalls I.config.ownershipLossTimeout seen)
    (hfits : Fits I.config.ownershipLossTimeout seen) :
    I.watchOwnershipWithFence attemptId hostId epoch ids fence rounds
        (deadlineAfter I.config.ownershipLossTimeout seen) =
      I.watchByRule attemptId hostId epoch ids fence rounds seen := by
  induction rounds generalizing seen with
  | zero => rfl
  | succ rounds ih =>
    -- the answers to an observation agree, and so do the rounds that follow on it
    have hround (lost) (observation : AuthorityObservation) (now : Instant) :
        endRound lost (authorityUncertaintyRequiresRevocation observation
            (deadlineAfter I.config.ownershipLossTimeout seen) now
            I.config.ownershipLossTimeout).1
          (I.watchOwnershipWithFence attemptId hostId epoch ids fence rounds
            (deadlineAfter I.config.ownershipLossTimeout ((observation, now) :: seen))) =
        endRound lost (Demands I.config.ownershipLossTimeout seen now observation)
          (I.watchByRule attemptId hostId epoch ids fence rounds ((observation, now) :: seen)) := by
      have hlate (first) (hfirst : firstFailure seen = some first)
          (hbound : instantBound ≤ first + I.config.ownershipLossTimeout) : first ≤ now :=
        absurd (hfits first hfirst) (not_lt.mpr hbound)
      obtain ⟨hiff, hrecalls, hnext⟩ := h.next hlate observation
      rw [Bool.eq_iff_iff.mpr (hiff.trans decide_eq_true_iff.symm)]
      by_cases hdemands : Demands I.config.ownershipLossTimeout seen now observation
      · simp only [endRound, hdemands, decide_true, if_true]
      · rw [ih hrecalls (hnext hfits hdemands)]
    refine congrArg (Prog.call _) (funext fun r => ?_)
    cases r with
    | error error =>
      change ite _ _ _ = ite _ _ _
      congr 1
      exact congrArg (Prog.call _) (funext fun now => hround _ .retryableFailure now)
    | ok snapshot =>
      change ite _ _ _ = ite _ _ _
      congr 1
      refine congrArg (Prog.call _) (funext fun validation => ?_)
      exact congrArg (Prog.call _) (funext fun now => hround _ (.ofValidation validation) now)

end InstanceSupervisor

open InstanceSupervisor

/-- **The watchdog revokes by the rule**: so is every sequence of observations answered, in the
order of time and for every budget, and the loop calls on `ownershipLost` when the rule demands
it, and then only. -/
theorem watchdog_revokes_by_the_rule :
    (∀ budget seen now observation,
      List.Pairwise (fun a b => b.2 ≤ a.2) ((observation, now) :: seen) →
      ((authorityUncertaintyRequiresRevocation observation (deadlineAfter budget seen) now
        budget).1 = true ↔ Demands budget seen now observation)) ∧
    ∀ (I : InstanceSupervisor) attemptId hostId epoch ids fence rounds,
      I.watchOwnershipWithFence attemptId hostId epoch ids fence rounds none =
        I.watchByRule attemptId hostId epoch ids fence rounds [] := by
  refine ⟨fun budget seen now observation h => ?_, fun I _ _ _ _ _ rounds => ?_⟩
  · obtain ⟨hnow, hseen⟩ := List.pairwise_cons.mp h
    exact ((recalls_of_pairwise hseen).next
      (fun first hfirst _ => hnow _ (firstFailure_mem hfirst)) observation).1
  · have hnone : Recalls I.config.ownershipLossTimeout [] := fun _ => rfl
    exact I.watchOwnershipWithFence_eq _ _ _ _ _ rounds hnone fun _ h => nomatch h

/-- A second failure demands the revocation once the budget since the first has run out. -/
theorem watchdog_revokes_by_the_rule_late :
    (authorityUncertaintyRequiresRevocation .retryableFailure
      (deadlineAfter 5 [(.launchLoaded, 12), (.retryableFailure, 10)]) 15 5).1 = true ∧
    (authorityUncertaintyRequiresRevocation .retryableFailure
      (deadlineAfter 5 [(.launchLoaded, 12), (.retryableFailure, 10)]) 14 5).1 = false := by
  obtain ⟨hrule, -⟩ := watchdog_revokes_by_the_rule
  refine ⟨(hrule 5 _ 15 .retryableFailure (by decide)).mpr (by decide), ?_⟩
  exact Bool.eq_false_iff.mpr (mt (hrule 5 _ 14 .retryableFailure (by decide)).mp (by decide))

end Navigator
