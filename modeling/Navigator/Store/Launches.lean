/-
Launches of participants' drivers.

A launch is prepared, attached to a process, made ready, and stopped or handed to
cleanup.  `attachLaunch` and `transitionLaunch` are one transaction
(`mutateLaunch`) with a different change each.
-/
import Navigator.Store.Sessions

namespace Navigator

open Txn Tx

/-- `participant_cancellation_requested`. -/
def Store.cancellationRequested (s : Store) (participantId : ParticipantId) : Bool :=
  ((s.participants.find? participantId).map ParticipantRow.cancellationRequested).getD false

/-- `insert_launch`. -/
def insertLaunch (l : LaunchSnapshot) : Write Unit := do
  ensure (∀ e ∈ l.ownershipEpoch, e.get < i64Bound) .corrupt
  let launches ← orAbort ((← read Store.launches).insert? l) .unavailable
  write fun s => { s with launches }

/-- A launch as it is prepared. -/
def PrepareLaunch.launch (c : PrepareLaunch) : LaunchSnapshot where
  sessionId := c.sessionId
  ownershipEpoch := some c.epoch
  participantId := c.participantId
  driverId := c.driverId
  driverConfigurationDigest := c.driverConfigurationDigest
  attemptId := c.attemptId
  instanceId := none
  state := .prepared
  revision := .initial
  credentialDigest := c.credentialDigest
  evidence := none
  cleanupReason := none

/-- `prepare_launch`. -/
def prepareLaunch (env : Env) (observedAt : Timestamp) (c : PrepareLaunch) :
    Call (Mutation LaunchSnapshot) :=
  replayOr env c
    (fun value => do
      let snapshot ← orAbort value.launch? .corrupt
      ensure ((← read (·.cancellationRequested c.participantId)) = false) .invalid
      return snapshot)
    do
      authorize c.sessionId c.context c.epoch .prepareLaunch observedAt
      require ((← read (·.cancellationRequested c.participantId)) = false) (c.sessionId, .invalid)
      match ← read (·.launches.find? c.attemptId) with
      | some existing =>
        require (existing.sessionId = c.sessionId ∧ existing.participantId = c.participantId ∧
          existing.driverId = c.driverId ∧
          existing.driverConfigurationDigest = c.driverConfigurationDigest ∧
          existing.credentialDigest = c.credentialDigest) (c.sessionId, .invalid)
        commit (record env c.sessionId c .unchanged (.launch existing))
        return .unchanged existing
      | none =>
        commit do
          insertLaunch c.launch
          record env c.sessionId c .applied (.launch c.launch)
        return .applied c.launch

/-- `update_launch`: the row must still be at the expected revision. -/
def updateLaunch (l : LaunchSnapshot) (expectedRevision : Revision) : Write Unit := do
  ensure (l.revision.get < i64Bound ∧ expectedRevision.get < i64Bound) .corrupt
  let current ← orAbort ((← read Store.launches).find? l.attemptId) .invalid
  ensure (current.revision = expectedRevision) .invalid
  write fun s => { s with launches := s.launches.replace l }

/-- `mutate_launch`. -/
def mutateLaunch {χ : Type} [MutableRequest χ] (env : Env) (observedAt : Timestamp)
    (sessionId : SessionId) (epoch : FencingEpoch) (attemptId : LaunchAttemptId)
    (expectedRevision : Revision) (request : χ)
    (apply : LaunchSnapshot → Except StoreError LaunchSnapshot) :
    Call (Mutation LaunchSnapshot) :=
  replayOr env request (fun value => orAbort value.launch? .corrupt) do
    authorize sessionId (MutableRequest.context request) epoch (MutableRequest.action request)
      observedAt
    let current ← orRefuse (← read (·.launches.find? attemptId)) (sessionId, .invalid)
    require (current.sessionId = sessionId) (sessionId, .invalid)
    require (current.revision = expectedRevision) (sessionId, .invalid)
    let snapshot ← acceptOr (sessionId, ·) (apply current)
    require (∀ l ∈ (← read Store.launches).rows, snapshot.instanceId.isSome →
      l.instanceId = snapshot.instanceId → l.attemptId = attemptId) (sessionId, .invalid)
    let snapshot ← commit do
      let revision ← orAbort snapshot.revision.next .corrupt
      let snapshot := { snapshot with revision }
      updateLaunch snapshot expectedRevision
      record env sessionId request .applied (.launch snapshot)
      return snapshot
    return .applied snapshot

/-- `attach_launch`. -/
def attachLaunch (env : Env) (observedAt : Timestamp) (c : AttachLaunch) :
    Call (Mutation LaunchSnapshot) :=
  mutateLaunch env observedAt c.sessionId c.epoch c.attemptId c.expectedRevision c
    fun snapshot =>
      if snapshot.state = .prepared ∧ snapshot.instanceId = none ∧ c.evidence.processId ≠ 0 ∧
          c.evidence.processGroupId ≠ 0 ∧ c.evidence.parentProcessId ≠ 0 ∧
          c.evidence.creationMarker ≠ 0 ∧ c.evidence.executableIdentity ≠ 0 then
        .ok { snapshot with
          instanceId := some c.instanceId
          evidence := some c.evidence
          state := .attached }
      else .error .invalid

/-- `valid_launch_transition`. -/
def validLaunchTransition : LaunchState → LaunchState → Bool
  | .attached, .ready => true
  | .attached, .stopping | .ready, .stopping => true
  | .prepared, .cleanupRequired | .attached, .cleanupRequired | .ready, .cleanupRequired
  | .stopping, .cleanupRequired | .cleanupRequired, .cleanupRequired => true
  | .stopping, .stopped | .cleanupRequired, .stopped => true
  | _, _ => false

/-- `transition_launch`. -/
def transitionLaunch (env : Env) (observedAt : Timestamp) (c : TransitionLaunch) :
    Call (Mutation LaunchSnapshot) :=
  mutateLaunch env observedAt c.sessionId c.epoch c.attemptId c.expectedRevision c
    fun snapshot =>
      if validLaunchTransition snapshot.state c.target ∧
          (c.target = .cleanupRequired ↔ c.cleanupReason.isSome) then
        .ok { snapshot with state := c.target, cleanupReason := c.cleanupReason }
      else .error .invalid

/-! ### Watching over a launch -/

/-- Whether an error says that an ownership has expired. -/
def StoreError.isExpiry : StoreError → Bool
  | ownershipExpired .. => true
  | _ => false

/-- `validate_launch_authority`: nothing is written unless the ownership has expired, and then
the time at which it has is.  The highest time a process has seen so far, which it keeps for
itself, counts as the reading of the clock. -/
def validateLaunchAuthority (observedAt : Timestamp) (sessionId : SessionId) (host : HostId)
    (epoch : FencingEpoch) : Call (Mutation Unit) := do
  let row ← ofExcept (← read (requireOpenSession sessionId .prepareLaunch))
  match requireOwner row host epoch (max row.timeFloor observedAt) with
  | .ok () => return .unchanged ()
  | .error e =>
    ensure (e.isExpiry = true) e
    let sealed ← advanceTimeFloor sessionId row.timeFloor (max row.timeFloor observedAt)
    acceptOr (sessionId, ·) (requireOwner row host epoch sealed)
    return .unchanged ()

/-- An ownership that is found expired is sealed at the time at which it was. -/
theorem validateLaunchAuthority_eq {t : Timestamp} {sessionId : SessionId} {host : HostId}
    {epoch : FencingEpoch} {s : Store} :
    validateLaunchAuthority t sessionId host epoch s =
      match requireOpenSession sessionId .prepareLaunch s with
      | .error e => .aborted e
      | .ok row =>
        match requireOwner row host epoch (max row.timeFloor t) with
        | .ok () => .done (.unchanged ()) s
        | .error e =>
          if e.isExpiry then
            .refused (sessionId, e) (s.withFloor sessionId (max row.timeFloor t))
          else .aborted e := by
  change Tx.bind (ofExcept (requireOpenSession sessionId .prepareLaunch s)) _ s = _
  rcases hrow : requireOpenSession sessionId .prepareLaunch s with e | row
  · rfl
  change (match requireOwner row host epoch (max row.timeFloor t) with
    | .ok () => pure (.unchanged ())
    | .error e => _ : Call (Mutation Unit)) s = _
  dsimp only
  cases howner : requireOwner row host epoch (max row.timeFloor t) with
  | ok u => rfl
  | error e =>
    by_cases he : e.isExpiry = true
    · simp only [ensure, if_pos he]
      change Tx.bind (acceptOr (sessionId, ·) (requireOwner row host epoch
        (max row.timeFloor (max row.timeFloor t)))) _ _ = _
      rw [max_eq_right (le_max_left _ _), howner]
      rfl
    · simp only [ensure, if_neg he]
      rfl

end Navigator
