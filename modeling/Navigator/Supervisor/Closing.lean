/-
Closing the launch of a dead process.

Whoever stops a launch derives the request identities from its attempt, so that every further
try repeats those of the one before.  A stop records what has become of the process under one
of them; if that was not its end, it cannot record the end later.  And what has no evidence of
a process cannot be stopped at all.

* **`Supervision.Closable`** — the launches that can be closed;
* **`dead_launch_is_closed_iff`** — exactly these are, if all that is asked of the store, the
  process and the clock is done;
* **`dead_launch_stays_open`** — others remain.
-/
import Navigator.LaunchMoves
import Navigator.Supervisor.Books

namespace Navigator

open Prog

variable {c : TransitionLaunch} {deadline : Instant} {evidence : ProcessEvidence}

/-! ### Derived identities -/

namespace DriverExecutor

/-- `request`. -/
def request (env : Env) (domain : String) (attemptId : LaunchAttemptId) : RequestId :=
  ⟨Env.uuidOfDigest (env.sha256 (Bytes.utf8 domain ++ attemptId.bytes)), Env.uuidOfDigest_ne_zero _⟩

/-- On what occasion a launch is stopped. -/
inductive StopOccasion where
  | shutdown | bootstrap | ownershipLost | pending
deriving DecidableEq

def StopOccasion.asStr : StopOccasion → String
  | shutdown => "shutdown"
  | bootstrap => "bootstrap"
  | ownershipLost => "ownership-lost"
  | pending => "pending"

def stopRequestIds (env : Env) (occasion : StopOccasion) (attemptId : LaunchAttemptId) :
    StopRequestIds where
  stopping := request env (occasion.asStr ++ "-stop") attemptId
  terminal := request env (occasion.asStr ++ "-terminal") attemptId

/-- The identities of `reconcile_pending_launch_locked`. -/
def reconcileRequestIds (env : Env) (attemptId : LaunchAttemptId) : ReconcileRequestIds where
  cleanup := request env "pending-cleanup" attemptId
  stop := stopRequestIds env .pending attemptId

end DriverExecutor

namespace Supervision

open InstanceSupervisor

variable {env : Env} {w : World} {k : LaunchAttemptId} {l : LaunchSnapshot}

/-! ### What is needed -/

/-- A launch is recorded as stopped. -/
def IsStopped (k : LaunchAttemptId) (w : World) : Prop :=
  ∃ l, w.store.launches.find? k = some l ∧ l.state = .stopped

/-- A launch that a stop under some request identities can close: a process is known, nothing
was recorded under the identities that are needed, and there are revisions left. -/
structure Stoppable (s : Store) (l : LaunchSnapshot) (ids : StopRequestIds) : Prop where
  evidence : l.evidence.isSome = true
  terminal : s.Unseen ids.terminal
  stopping : l.state = .attached ∨ l.state = .ready →
    s.Unseen ids.stopping ∧ ids.stopping ≠ ids.terminal ∧ l.revision.get + 2 < i64Bound
  room : l.revision.get + 1 < i64Bound

def Closable (s : Store) (l : LaunchSnapshot) (ids : StopRequestIds) : Prop :=
  l.state = .stopped ∨ Stoppable s l ids

/-- There was no process, or nothing of it is left. -/
def Dead (k : LaunchAttemptId) (w : World) : Prop :=
  k ∉ w.spawned ∨ k ∈ w.exited ∧ k ∈ w.gone

/-- Answers as they are hoped for: the store's before the ownership ends, a process has exited,
a cleanup succeeds, and no deadline has passed. -/
def Cooperative (expiresAt : Timestamp) : SupervisorCall → Input → Prop
  | .prepareLaunch _, input | .attachLaunch _, input | .transitionLaunch _, input
  | .transitionLaunchBy .., input | .loadLaunch _, input
  | .validateLaunchAuthority .., input => ∃ t < expiresAt, input = .answers t
  | .inspect .., input => input = .observation .exited
  | .cleanup _, input => input = .go
  | .now (some deadline), input => ∃ instant < deadline, input = .instant instant
  | .deadline, input => ∃ instant > 0, input = .instant instant
  | _, _ => True

def Cooperates (env : Env) (expiresAt : Timestamp) (w : World) (e : SupervisorCall)
    (r : e.Answer) (w' : World) : Prop :=
  ∃ input, Cooperative expiresAt e input ∧ w.answer env input e = some (r, w')

/-- Whatever is answered as hoped for, a program ends with a launch recorded as stopped. -/
def Closes {α : Type} (env : Env) (expiresAt : Timestamp) (k : LaunchAttemptId)
    (p : SupervisorProg α) (w : World) : Prop :=
  p.Ends (Cooperates env expiresAt) (fun w' _ => IsStopped k w') w

/-! ### Calls that are answered as hoped for -/

section Calls

variable {live : Prop} {expiresAt : Timestamp} {α : Type}
  {Q : World → Except SupervisorError α → Prop}
variable {f : Instant → SupervisorProg α}

/-- A transaction of the store. -/
theorem transact_leads {β : Type} {e : SupervisorCall} {f : e.Answer → SupervisorProg α}
    {τ : Timestamp → Store → β × Store} {g : β → e.Answer}
    (hbefore : ∃ t, t < expiresAt)
    (hanswer : ∀ t, w.answer env (.answers t) e =
      some (g (τ t w.store).1, { w with store := (τ t w.store).2 }))
    (hcooperative : ∀ input, Cooperative expiresAt e input ↔ ∃ t < expiresAt, input = .answers t)
    (hf : ∀ t < expiresAt, (f (g (τ t w.store).1)).Leads live
      (Cooperates env expiresAt) Q { w with store := (τ t w.store).2 }) :
    (ask e >>= f).Leads live (Cooperates env expiresAt) Q w := by
  refine Leads.perform (fun _ => ?_) fun r w' h => ?_
  · obtain ⟨t, ht⟩ := hbefore
    exact ⟨_, _, _, (hcooperative _).mpr ⟨t, ht, rfl⟩, hanswer t⟩
  obtain ⟨input, hinput, hr⟩ := h
  obtain ⟨t, ht, rfl⟩ := (hcooperative _).mp hinput
  cases (hanswer t).symm.trans hr
  exact hf t ht

theorem load_leads {f : Except StoreError LaunchSnapshot → SupervisorProg α}
    (hbefore : ∃ t, t < expiresAt)
    (hf : (f (loadLaunch k w.store)).Leads live (Cooperates env expiresAt) Q w) :
    (ask (.loadLaunch k) >>= f).Leads live (Cooperates env expiresAt) Q w :=
  transact_leads (τ := fun _ s => (loadLaunch k s, s)) (g := id) hbefore
    (fun _ => rfl) (fun _ => .rfl) fun _ _ => hf

theorem transition_leads {f : Except StoreError (Mutation LaunchSnapshot) → SupervisorProg α}
    (hbefore : ∃ t, t < expiresAt)
    (hf : ∀ t < expiresAt, ∀ r s', settle env c (transitionLaunch env t c) w.store = (r, s') →
      (f r).Leads live (Cooperates env expiresAt) Q { w with store := s' }) :
    (ask (.transitionLaunch c) >>= f).Leads live (Cooperates env expiresAt) Q w :=
  transact_leads (τ := fun t => settle env c (transitionLaunch env t c)) (g := id) hbefore
    (fun _ => rfl) (fun _ => .rfl) fun t ht => hf t ht _ _ rfl

/-- The owner's authority is found valid. -/
theorem validate_leads {sessionId : SessionId} {host : HostId} {epoch : FencingEpoch}
    {f : Except StoreError Unit → SupervisorProg α} (hs : Reachable env w.store)
    (howned : w.store.Owned sessionId host epoch expiresAt)
    (hf : (f (.ok ())).Leads live (Cooperates env expiresAt) Q w) :
    (ask (.validateLaunchAuthority sessionId host epoch) >>= f).Leads live
      (Cooperates env expiresAt) Q w := by
  have hvalid : ∀ t < expiresAt,
      launchAuthority t sessionId host epoch w.store = (.ok (), w.store) := by
    intro t ht
    obtain ⟨r, hr, -⟩ := howned.authorized ht
    obtain ⟨row, hopen, hdecodes, howner⟩ :=
      hr.passes (hs.sound.sessions r (Table.mem_of_find? hr.found)) .prepareLaunch
    unfold launchAuthority settleUnrecorded
    rw [validateLaunchAuthority_eq, hopen]
    dsimp only
    rw [hdecodes.floor, howner]
    rfl
  refine transact_leads (τ := fun t => launchAuthority t sessionId host epoch) (g := id)
    howned.before (fun _ => rfl) (fun _ => .rfl) fun t ht => ?_
  rw [hvalid t ht]
  exact hf

/-- The clock, when no deadline is there to be kept. -/
theorem now_leads (hf : ∀ instant, (f instant).Leads live (Cooperates env expiresAt) Q w) :
    (ask (.now none) >>= f).Leads live (Cooperates env expiresAt) Q w := by
  refine Leads.perform (fun _ => ⟨(0 : Instant), w, .instant 0, trivial, rfl⟩) fun r w' h => ?_
  obtain ⟨input, -, hr⟩ := h
  cases input <;> cases hr
  exact hf _

/-- The clock, when a deadline is. -/
theorem onTime_leads (hahead : 0 < deadline)
    (hf : ∀ instant < deadline, (f instant).Leads live (Cooperates env expiresAt) Q w) :
    (ask (.now (some deadline)) >>= f).Leads live (Cooperates env expiresAt) Q w := by
  refine Leads.perform (fun _ => ⟨(0 : Instant), w, .instant 0, ⟨0, hahead, rfl⟩, rfl⟩)
    fun r w' h => ?_
  obtain ⟨input, ⟨instant, hlt, rfl⟩, hr⟩ := h
  cases hr
  exact hf _ hlt

/-- A call that is answered at once, if it is answered. -/
theorem if_leads {e : SupervisorCall} {f : e.Answer → SupervisorProg α} {r : e.Answer}
    {input : Input} {p : Prop} [Decidable p]
    (hanswer : w.answer env input e = if p then none else some (r, w))
    (hcooperative : ∀ input', Cooperative expiresAt e input' ↔ input' = input)
    (hfree : live → ¬ p) (hf : (f r).Leads live (Cooperates env expiresAt) Q w) :
    (ask e >>= f).Leads live (Cooperates env expiresAt) Q w := by
  refine Leads.perform (fun hlive => ⟨r, w, input, (hcooperative _).mpr rfl,
    hanswer.trans (if_neg (hfree hlive))⟩) fun r' w' h => ?_
  obtain ⟨input', hinput, hr⟩ := h
  obtain rfl := (hcooperative _).mp hinput
  rw [hanswer] at hr
  split at hr
  · cases hr
  · cases hr
    exact hf

end Calls

/-! ### Stopping -/

section Stopping

variable {live P : Prop} {expiresAt : Timestamp} {host : HostId} {epoch : FencingEpoch}
  {ids : StopRequestIds} (I : InstanceSupervisor)
variable {Q : World → Except SupervisorError Bool → Prop}

/-- A transition that the owner can make now. -/
structure Ready (env : Env) (expiresAt : Timestamp) (w : World) (c : TransitionLaunch) : Prop where
  reachable : Reachable env w.store
  owned : w.store.Owned c.sessionId c.context.caller c.epoch expiresAt
  reasoned : c.target = .cleanupRequired ↔ c.cleanupReason.isSome = true
  launch : ∃ l, w.store.launches.find? c.attemptId = some l ∧ l.sessionId = c.sessionId ∧
    w.store.Movable c l

/-- A transition that cannot be made. -/
def Stuck (w : World) (c : TransitionLaunch) : Prop :=
  ∀ l, w.store.launches.find? c.attemptId = some l → ¬ w.store.Movable c l

/-- The last transition of a stop is made if it can be, and otherwise not however often it is
tried. -/
theorem terminal_leads (rounds : ℕ) (hbefore : ∃ t, t < expiresAt) (hahead : 0 < deadline)
    (hlive : live → P ∧ 0 < rounds) (hready : P → Ready env expiresAt w c)
    (hstuck : ¬ P → Stuck w c) :
    (transitionTerminalWithRetry c deadline rounds).Leads live (Cooperates env expiresAt)
      (fun w' _ => (P → ∃ l, w'.store.launches.find? c.attemptId = some l ∧ l.state = c.target) ∧
        (¬ P → w'.store.launches = w.store.launches)) w := by
  induction rounds generalizing w with
  | zero =>
    refine ⟨fun h => absurd (hlive h).2 (Nat.lt_irrefl 0), fun r w' h => ?_⟩
    obtain ⟨input, -, hr⟩ := h
    cases hr
  | succ rounds ih =>
    unfold transitionTerminalWithRetry
    refine transact_leads (τ := fun t => settle env c (transitionLaunch env t c)) (g := some)
      hbefore (fun _ => rfl) (fun _ => .rfl) fun t ht => ?_
    rcases hr : settle env c (transitionLaunch env t c) w.store with ⟨r, s'⟩
    by_cases hP : P
    · obtain ⟨hs, howned, hreason, l, hl, hsession, hmovable⟩ := hready hP
      obtain ⟨l', s', hsettle, hmoved, -⟩ :=
        transitionLaunch_applies hs howned ht hl hsession hreason hmovable
      cases hsettle.symm.trans hr
      exact ⟨fun _ => ⟨l', hmoved.found, hmoved.state⟩, fun h => absurd hP h⟩
    · obtain ⟨hlaunches, hagain⟩ := transitionLaunch_stuck env t (hstuck hP)
      rw [hr] at hlaunches hagain
      have hdone : (P → ∃ l, s'.launches.find? c.attemptId = some l ∧ l.state = c.target) ∧
          (¬ P → s'.launches = w.store.launches) :=
        ⟨fun h => absurd h hP, fun _ => hlaunches⟩
      rcases r with error | v
      · dsimp only
        split
        · refine onTime_leads hahead fun instant hlt => ?_
          rw [if_pos hlt]
          refine Leads.perform (fun _ => ⟨(), _, .go, trivial, rfl⟩) fun r w' h => ?_
          obtain ⟨input, -, hr⟩ := h
          cases hr
          refine (ih (fun h => absurd (hlive h).1 hP) (fun h => absurd h hP)
            fun _ l hl => ?_).mono fun w' _ h => ⟨h.1, fun hP => (h.2 hP).trans hlaunches⟩
          exact hagain l (hlaunches ▸ hl)
        · exact hdone
      · exact hdone

/-- A process that has exited is found stopped. -/
theorem verifyStopped_leads (hdead : live → k ∈ w.exited ∧ k ∈ w.gone) (hQ : Q w (.ok true)) :
    (I.verifyStopped k evidence deadline).Leads live (Cooperates env expiresAt) Q w := by
  unfold verifyStopped orFalse
  refine leads_bind.mpr (leads_bind.mpr (leads_attempt.mpr ?_))
  unfold stopVerifiedUntil signalAndWait
  refine leads_bind.mpr (if_leads rfl (fun _ => .rfl) (fun h hnot => hnot.2 (hdead h).1) ?_)
  exact if_leads (r := .ok ()) rfl (fun _ => .rfl) (fun h hnot => hnot.2 (hdead h).2) hQ

/-- The transition by which a launch is recorded as stopped. -/
def lastTransition (k : LaunchAttemptId) (host : HostId) (epoch : FencingEpoch)
    (ids : StopRequestIds) (stopping : LaunchSnapshot) : TransitionLaunch :=
  moveTo ⟨ids.terminal, host⟩ stopping.sessionId epoch k stopping.revision .stopped

/-- What is left to do once a launch is recorded as stopping. -/
theorem finish_leads {stopping : LaunchSnapshot} (hbefore : ∃ t, t < expiresAt)
    (hahead : 0 < deadline) (hlive : live → P ∧ 0 < I.rounds)
    (hdead : live → k ∈ w.exited ∧ k ∈ w.gone) (hopen : ¬ IsStopped k w)
    (hready : P → Ready env expiresAt w (lastTransition k host epoch ids stopping))
    (hstuck : ¬ P → Stuck w (lastTransition k host epoch ids stopping)) :
    (do
      let stopped ← I.verifyStopped k evidence deadline
      I.recordStop k host epoch ids deadline stopping stopped : SupervisorProg StopOutcome).Leads
      live (Cooperates env expiresAt) (fun w' _ => IsStopped k w' ↔ P) w := by
  refine leads_bind.mpr (verifyStopped_leads I hdead ?_)
  refine now_leads fun instant => leads_bind.mpr ?_
  refine (terminal_leads I.rounds hbefore (lt_max_of_lt_left hahead) hlive hready hstuck).mono
    fun w' x h => ?_
  have hstopped : IsStopped k w' ↔ P := by
    by_cases hP : P
    · exact iff_of_true (h.1 hP) hP
    · refine iff_of_false (fun hstopped => hopen ?_) hP
      rwa [IsStopped, h.2 hP] at hstopped
  obtain e | u := x
  · exact hstopped
  refine Leads.perform (fun _ => ⟨(), _, .go, trivial, rfl⟩) fun r w'' h => ?_
  obtain ⟨input, -, hr⟩ := h
  cases hr
  exact hstopped

theorem isLateCleanup_leads (hahead : 0 < deadline) (hQ : Q w (.ok false)) :
    (isLateCleanup l deadline).Leads live (Cooperates env expiresAt) Q w := by
  unfold isLateCleanup
  split
  · refine onTime_leads hahead fun instant hlt => ?_
    change Q w (.ok (decide (deadline ≤ instant)))
    rwa [decide_eq_false (Nat.not_le.mpr hlt)]
  · exact hQ

/-- The transition by which a launch is recorded as stopping. -/
def firstTransition (k : LaunchAttemptId) (host : HostId) (epoch : FencingEpoch)
    (ids : StopRequestIds) (l : LaunchSnapshot) : TransitionLaunch :=
  moveTo ⟨ids.stopping, host⟩ l.sessionId epoch k l.revision .stopping

section Process

variable (hahead : 0 < deadline) (hlive : live → Stoppable w.store l ids ∧ 0 < I.rounds)
  (hdead : live → k ∈ w.exited ∧ k ∈ w.gone) (hevidence : l.evidence = some evidence)
include hahead hlive hdead hevidence

/-- A launch that is being stopped, or is to be cleaned up. -/
theorem finish_leads_of_stopping (hw : Consistent env w) (hl : w.store.launches.find? k = some l)
    (howned : w.store.Owned l.sessionId host epoch expiresAt)
    (hstate : l.state = .stopping ∨ l.state = .cleanupRequired) :
    (do
      let stopped ← I.verifyStopped k evidence deadline
      I.recordStop k host epoch ids deadline l stopped : SupervisorProg StopOutcome).Leads
      live (Cooperates env expiresAt) (fun w' _ => IsStopped k w' ↔ Stoppable w.store l ids) w := by
  have hvalid : validLaunchTransition l.state .stopped = true := by
    rcases hstate with h | h <;> rw [h] <;> rfl
  refine finish_leads I howned.before hahead hlive hdead ?_ (fun h => ?_)
    fun h l' hl' hmovable => ?_
  · rintro ⟨l', hl', hstopped⟩
    cases hl.symm.trans hl'
    rcases hstate with h | h <;> cases h.symm.trans hstopped
  · exact ⟨hw.reachable, howned, ⟨nofun, nofun⟩, l, hl, rfl, h.terminal, rfl, hvalid, h.room⟩
  · cases hl.symm.trans hl'
    refine h ⟨by rw [hevidence]; rfl, hmovable.unseen, fun hearly => ?_, hmovable.room⟩
    rcases hstate with h | h <;> rcases hearly with h' | h' <;> cases h.symm.trans h'

/-- What follows on the first transition if it was made. -/
theorem finish_leads_of_moved {l' : LaunchSnapshot} {s' : Store} (hs' : Reachable env s')
    (hmovable : w.store.Movable (firstTransition k host epoch ids l) l)
    (hmoved : (firstTransition k host epoch ids l).Moved w.store l l' s')
    (howned : s'.Owned l.sessionId host epoch expiresAt)
    (hstate : l.state = .attached ∨ l.state = .ready) :
    (do
      let stopped ← I.verifyStopped k evidence deadline
      I.recordStop k host epoch ids deadline l' stopped : SupervisorProg StopOutcome).Leads
      live (Cooperates env expiresAt) (fun w' _ => IsStopped k w' ↔ Stoppable w.store l ids)
      { w with store := s' } := by
  have hstopping : l'.state = .stopping := hmoved.state
  refine finish_leads I howned.before hahead hlive hdead ?_ (fun h => ?_) fun h l'' hl'' hlast => ?_
  · rintro ⟨l'', hl'', hstopped⟩
    cases hmoved.found.symm.trans hl''
    cases hstopping.symm.trans hstopped
  · obtain ⟨-, hdiffer, hroom⟩ := h.stopping hstate
    have hsession : l'.sessionId = l.sessionId := hmoved.sessionId
    rw [← hsession] at howned
    refine ⟨hs', howned, ⟨nofun, nofun⟩, l', hmoved.found, rfl,
      (hmoved.others _ hdiffer.symm).mpr h.terminal, rfl, ?_, ?_⟩
    · rw [hstopping]
      rfl
    · rw [hmoved.revision]
      exact hroom
  · cases hmoved.found.symm.trans hl''
    have hdiffer : ids.stopping ≠ ids.terminal := by
      intro heq
      refine hmoved.used ?_
      change s'.Unseen ids.stopping
      rw [heq]
      exact hlast.unseen
    have hroom := hlast.room
    rw [hmoved.revision] at hroom
    exact h ⟨by rw [hevidence]; rfl, (hmoved.others _ hdiffer.symm).mp hlast.unseen,
      fun _ => ⟨hmovable.unseen, hdiffer, hroom⟩, hmovable.room⟩

/-- A launch with a process, from the first transition on. -/
theorem begin_leads (hw : Consistent env w) (hl : w.store.launches.find? k = some l)
    (howned : w.store.Owned l.sessionId host epoch expiresAt) (hopen : l.state ≠ .stopped) :
    (do
      let stopping ← beginStop k host epoch ids l
      let stopped ← I.verifyStopped k evidence deadline
      I.recordStop k host epoch ids deadline stopping stopped : SupervisorProg StopOutcome).Leads
      live (Cooperates env expiresAt) (fun w' _ => IsStopped k w' ↔ Stoppable w.store l ids) w := by
  by_cases hstate : l.state = .stopping ∨ l.state = .cleanupRequired
  · refine leads_bind.mpr ?_
    unfold beginStop
    rw [if_pos hstate]
    exact finish_leads_of_stopping I hahead hlive hdead hevidence hw hl howned hstate
  have hkept := hw.reachable.launches.1 l (Table.mem_of_find? hl)
  have hearly : l.state = .attached ∨ l.state = .ready := by
    have hprepared : l.state ≠ .prepared := by
      intro h
      have htogether := hkept.together
      rw [hkept.free h, hevidence] at htogether
      cases htogether
    revert hstate hopen hprepared
    cases l.state <;> simp
  refine leads_bind.mpr ?_
  unfold beginStop
  rw [if_neg hstate]
  refine transition_leads (c := firstTransition k host epoch ids l) howned.before
    fun t ht r s' hr => ?_
  have hs' : Reachable env (settle env _ (transitionLaunch env t _) w.store).2 :=
    hw.reachable.tail (.call t (.transitionLaunch (firstTransition k host epoch ids l)))
  rw [hr] at hs'
  by_cases hmovable : w.store.Movable (firstTransition k host epoch ids l) l
  · obtain ⟨l', s', hsettle, hmoved, howned'⟩ :=
      transitionLaunch_applies hw.reachable (c := firstTransition k host epoch ids l) howned ht hl
        rfl ⟨nofun, nofun⟩ hmovable
    cases hsettle.symm.trans hr
    exact finish_leads_of_moved I hahead hlive hdead hevidence hs' hmovable hmoved howned' hearly
  · -- the launch stays as it is, and is not one that can be recorded as stopped
    have hnot : ¬ Stoppable w.store l ids := by
      intro h
      obtain ⟨hunseen, -, -⟩ := h.stopping hearly
      refine hmovable ⟨hunseen, rfl, ?_, h.room⟩
      rcases hearly with h | h <;> rw [h] <;> rfl
    have hstuck : Stuck w (firstTransition k host epoch ids l) := by
      intro l' hl'
      cases hl.symm.trans hl'
      exact hmovable
    obtain ⟨hlaunches, -⟩ := transitionLaunch_stuck env t hstuck
    rw [hr] at hlaunches
    have hopen' : ¬ IsStopped k { w with store := s' } := by
      rintro ⟨l', hl', hstopped⟩
      rw [hlaunches] at hl'
      cases hl.symm.trans hl'
      exact hopen hstopped
    obtain e | v := r
    · exact iff_of_false hopen' hnot
    refine finish_leads I howned.before hahead hlive hdead hopen' (fun h => absurd h hnot)
      fun _ l' hl' hlast => ?_
    rw [hlaunches] at hl'
    cases hl.symm.trans hl'
    have hvalid := hlast.valid
    rcases hearly with h | h <;> rw [h] at hvalid <;> cases hvalid

end Process

section Dead

variable (hw : Consistent env w) (hl : w.store.launches.find? k = some l) (hdead : Dead k w)
  (howned : w.store.Owned l.sessionId host epoch expiresAt)
include hw hl hdead howned

/-- Where a stop leads: the launch is recorded as stopped exactly if it can be. -/
theorem stopWithDeadline_leads (hahead : 0 < deadline)
    (hlive : live → Closable w.store l ids ∧ 0 < I.rounds) :
    (I.stopWithDeadline k host epoch ids deadline).Leads live (Cooperates env expiresAt)
      (fun w' _ => IsStopped k w' ↔ Closable w.store l ids) w := by
  have hload : loadLaunch k w.store = .ok l := by rw [loadLaunch, hl]
  unfold stopWithDeadline
  refine load_leads howned.before ?_
  rw [hload]
  change (ite (l.state = .stopped) _ _ : SupervisorProg StopOutcome).Leads _ _ _ _
  split
  · next hstopped => exact iff_of_true ⟨l, hl, hstopped⟩ (.inl hstopped)
  next hopen =>
  have hclosable : Closable w.store l ids ↔ Stoppable w.store l ids := or_iff_right hopen
  rw [hclosable] at hlive ⊢
  refine leads_bind.mpr (isLateCleanup_leads hahead (validate_leads hw.reachable howned ?_))
  cases hevidence : l.evidence with
  | none =>
    refine iff_of_false ?_ fun h => ?_
    · rintro ⟨l', hl', hstopped⟩
      cases hl.symm.trans hl'
      exact hopen hstopped
    · have hsome := h.evidence
      rw [hevidence] at hsome
      cases hsome
  | some evidence =>
    refine onTime_leads hahead fun instant hlt => ?_
    rw [if_neg (Nat.not_le.mpr hlt)]
    have hspawned : k ∈ w.spawned := hw.spawned (hw.recorded hl hevidence)
    exact begin_leads I hahead hlive
      (fun _ => hdead.resolve_left fun hnot => hnot hspawned) hevidence hw hl howned hopen

theorem stop_leads (hlive : live → Closable w.store l ids ∧ 0 < I.rounds) :
    (I.stop k host epoch ids).Leads live (Cooperates env expiresAt)
      (fun w' _ => IsStopped k w' ↔ Closable w.store l ids) w :=
  now_leads fun instant => stopWithDeadline_leads I hw hl hdead howned
    (Nat.add_pos_right _ (by decide)) hlive

theorem stopByDeadline_leads (hlive : live → Closable w.store l ids ∧ 0 < I.rounds) :
    (I.stopByDeadline k host epoch ids).Leads live (Cooperates env expiresAt)
      (fun w' _ => IsStopped k w' ↔ Closable w.store l ids) w := by
  refine Leads.perform (fun _ => ⟨(1 : Instant), w, .instant 1, ⟨1, Nat.one_pos, rfl⟩, rfl⟩)
    fun r w' h => ?_
  obtain ⟨input, ⟨instant, hahead, rfl⟩, hr⟩ := h
  cases hr
  exact stopWithDeadline_leads I hw hl hdead howned hahead hlive

/-- A reconciliation stops what has a process; what was only prepared is left to a cleanup that
cannot come. -/
theorem reconcileLaunch_leads {ids : ReconcileRequestIds}
    (hlive : live → Closable w.store l ids.stop ∧ 0 < I.rounds) :
    (I.reconcileLaunch k host epoch ids).Leads live (Cooperates env expiresAt)
      (fun w' _ => IsStopped k w' ↔ Closable w.store l ids.stop) w := by
  have hload : loadLaunch k w.store = .ok l := by rw [loadLaunch, hl]
  unfold reconcileLaunch
  refine load_leads howned.before ?_
  rw [hload]
  rw [show ∀ f : _ → SupervisorProg StopOutcome, (stored (.ok l) >>= f) = f l from fun _ => rfl]
  have hstop := stop_leads I hw hl hdead howned hlive
  cases hstate : l.state with
  | stopped => exact iff_of_true ⟨l, hl, hstate⟩ (.inl hstate)
  | prepared =>
    refine transition_leads howned.before fun t ht r s' hr => ?_
    have hkept := hw.reachable.launches.1 l (Table.mem_of_find? hl)
    have hnot : ¬ Closable w.store l ids.stop := by
      rintro (hstopped | h)
      · cases hstate.symm.trans hstopped
      · have hsome := h.evidence
        rw [← hkept.together, hkept.free hstate] at hsome
        cases hsome
    have hopen : ¬ IsStopped k { w with store := s' } := by
      rintro ⟨l', hl', hstopped⟩
      have hexec := congrArg (fun result => result.2.launches.find? k) hr
      cases exec_launchBecomes hw.reachable.sound t (.transitionLaunch _)
        (hexec.trans hl') with
      | kept found =>
        cases hl.symm.trans found
        cases hstate.symm.trans hstopped
      | moved _ _ _ _ state => cases state.symm.trans hstopped
    cases r <;> exact iff_of_false hopen hnot
  | attached => exact hstop
  | ready => exact hstop
  | stopping => exact hstop
  | cleanupRequired => exact hstop

end Dead

/-- What can be closed, and only that, is closed. -/
theorem closes_iff {I : InstanceSupervisor} (hrounds : 0 < I.rounds)
    {p : SupervisorProg StopOutcome}
    (hleads : ∀ live : Prop, (live → P ∧ 0 < I.rounds) → p.Leads live (Cooperates env expiresAt)
      (fun w' _ => IsStopped k w' ↔ P) w) : Closes env expiresAt k p w ↔ P := by
  refine ⟨fun hcloses => ?_, fun hP => ?_⟩
  · obtain ⟨_, _, hstopped, hiff⟩ := Ends.meets hcloses (hleads False nofun)
    exact hiff.mp hstopped
  · exact (hleads True fun _ => ⟨hP, hrounds⟩).mono fun _ _ hiff => hiff.mpr hP

end Stopping

end Supervision

open Supervision DriverExecutor

/-- **When a dead launch can be closed**: after any history, and if there was no process for an
attempt or nothing is left of it, a stop or a reconciliation by the owner, under the identities
derived from the attempt, ends with the launch recorded as stopped exactly if it is so already,
or has evidence of a process, and nothing was recorded before under the identities that are
needed now. -/
theorem dead_launch_is_closed_iff (env : Env) (events : List Event) (I : InstanceSupervisor)
    (hrounds : 0 < I.rounds) (occasion : StopOccasion) {k : LaunchAttemptId} {l : LaunchSnapshot}
    {host : HostId} {epoch : FencingEpoch} {expiresAt : Timestamp}
    (hl : ((pool env).run events start).world.store.launches.find? k = some l)
    (hdead : Dead k ((pool env).run events start).world)
    (howned : ((pool env).run events start).world.store.Owned l.sessionId host epoch expiresAt) :
    (Closes env expiresAt k (I.stop k host epoch (stopRequestIds env occasion k))
        ((pool env).run events start).world ↔
      Closable ((pool env).run events start).world.store l (stopRequestIds env occasion k)) ∧
    (Closes env expiresAt k (I.stopByDeadline k host epoch (stopRequestIds env occasion k))
        ((pool env).run events start).world ↔
      Closable ((pool env).run events start).world.store l (stopRequestIds env occasion k)) ∧
    (Closes env expiresAt k (I.reconcileLaunch k host epoch (reconcileRequestIds env k))
        ((pool env).run events start).world ↔
      Closable ((pool env).run events start).world.store l (reconcileRequestIds env k).stop) := by
  have hw := (holds_run env events).world
  exact ⟨closes_iff hrounds fun _ hlive => stop_leads I hw hl hdead howned hlive,
    closes_iff hrounds fun _ hlive => stopByDeadline_leads I hw hl hdead howned hlive,
    closes_iff hrounds fun _ hlive => reconcileLaunch_leads I hw hl hdead howned hlive⟩

namespace Sample

/-- The process is attached to its launch. -/
def attaching : List Event :=
  spawning ++ [.resume 0 .go, .resume 0 (.answers (seconds 0)), .resume 0 .go]

def attachedLaunch : LaunchSnapshot :=
  { (InstanceSupervisor.LaunchPlan.prepare world plan (List.replicate 32 0)).launch with
    instanceId := some driver
    evidence := some process
    state := .attached
    revision := ⟨2, Nat.two_pos⟩ }

/-- Nothing is left of the process. -/
def vanished : List Event := attaching ++ [.outside (.vanishes launch)]

def pendingIds : ReconcileRequestIds := reconcileRequestIds world launch

/-- The process cannot be inspected when the launch is first reconciled; when nothing is left of
it, the launch is reconciled again. -/
def reconciledTwice : List Event :=
  attaching ++
  [.start (supervisor, .reconcileLaunch launch hostA epoch pendingIds),
    .resume 1 (.answers (seconds 0)), .resume 1 (.instant 0), .resume 1 (.answers (seconds 0)),
    .resume 1 (.answers (seconds 0)), .resume 1 (.instant 0), .resume 1 (.answers (seconds 0)),
    .resume 1 (.error .process), .resume 1 (.error .process), .resume 1 (.instant 0),
    .resume 1 (.answers (seconds 0)),
    .outside (.vanishes launch),
    .start (supervisor, .reconcileLaunch launch hostA epoch pendingIds),
    .resume 2 (.answers (seconds 0)), .resume 2 (.instant 0), .resume 2 (.answers (seconds 0)),
    .resume 2 (.instant 0), .resume 2 (.answers (seconds 0)), .resume 2 (.instant 0),
    .resume 2 (.observation .exited), .resume 2 .go, .resume 2 (.instant 0),
    .resume 2 (.answers (seconds 0))]

/-- A launch is given up before anything is spawned; it is reconciled, and then stopped. -/
def neverSpawned : List Event :=
  spawning.take 5 ++
  [.drop 0, .start (supervisor, .reconcileLaunch launch hostA epoch pendingIds),
    .resume 1 (.answers (seconds 0)), .resume 1 (.answers (seconds 0)),
    .start (supervisor, .stop launch hostA epoch pendingIds.stop),
    .resume 2 (.instant 0), .resume 2 (.answers (seconds 0)), .resume 2 (.instant 0),
    .resume 2 (.answers (seconds 0))]

end Sample

open Sample

/-- A launch for which nothing was ever spawned cannot be stopped, and one whose first
reconciliation has left it to be cleaned up cannot be closed by the next. -/
theorem dead_launch_stays_open :
    launch ∉ ((pool world).run neverSpawned start).world.spawned ∧
      ((pool world).run neverSpawned start).result? 1 = some (.ok (.stop .cleanupRequired)) ∧
      ((pool world).run neverSpawned start).result? 2 = some (.error .notAttached) ∧
      (((pool world).run neverSpawned start).world.store.launches.find? launch).map
        LaunchSnapshot.state = some .cleanupRequired ∧
    launch ∈ ((pool world).run reconciledTwice start).world.gone ∧
      ((pool world).run reconciledTwice start).result? 1 = some (.ok (.stop .cleanupRequired)) ∧
      ((pool world).run reconciledTwice start).result? 2 =
        some (.error (.store (.requestConflict pendingIds.stop.terminal))) ∧
      (((pool world).run reconciledTwice start).world.store.launches.find? launch).map
        LaunchSnapshot.state = some .cleanupRequired := by
  decide +kernel

theorem dead_launch_is_closed_iff_vanished :
    Closable ((pool world).run vanished start).world.store attachedLaunch pendingIds.stop ∧
      Closes world (seconds 30) launch
        (supervisor.stop launch hostA epoch (stopRequestIds world .pending launch))
        ((pool world).run vanished start).world ∧
      Closes world (seconds 30) launch
        (supervisor.reconcileLaunch launch hostA epoch (reconcileRequestIds world launch))
        ((pool world).run vanished start).world := by
  have hchecks : ((pool world).run vanished start).world.store.launches.find? launch =
        some attachedLaunch ∧
      (launch ∈ ((pool world).run vanished start).world.exited ∧
        launch ∈ ((pool world).run vanished start).world.gone) ∧
      ((pool world).run vanished start).world.store.Owned attachedLaunch.sessionId hostA epoch
        (seconds 30) ∧
      ((pool world).run vanished start).world.store.Unseen pendingIds.stop.terminal ∧
      ((pool world).run vanished start).world.store.Unseen pendingIds.stop.stopping ∧
      pendingIds.stop.stopping ≠ pendingIds.stop.terminal := by
    decide +kernel
  obtain ⟨hl, hdead, howned, hterminal, hstopping, hdiffer⟩ := hchecks
  have hclosable : Closable ((pool world).run vanished start).world.store attachedLaunch
      pendingIds.stop :=
    .inr ⟨rfl, hterminal, fun _ => ⟨hstopping, hdiffer, by decide⟩, by decide⟩
  obtain ⟨hstop, -, hreconcile⟩ := dead_launch_is_closed_iff world vanished supervisor
    Nat.one_pos .pending hl (.inr hdead) howned
  exact ⟨hclosable, hstop.mpr hclosable, hreconcile.mpr hclosable⟩

end Navigator
