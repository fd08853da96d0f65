/-
Recoveries.

The host that has taken a session over writes down what it found: a batch of
classifications, each checked against the tables, in one row and one event.  A batch has
no place in the request ledger; asked for again, it is compared with its row.
-/
import Navigator.Store.Approvals

namespace Navigator

open Txn Tx

/-! ### The states of things -/

/-- `recovery_launch_state`. -/
def recoveryLaunchState : LaunchState → RecoveryState
  | .prepared => .instancePrepared
  | .attached => .instanceAttached
  | .ready => .instanceReady
  | .stopping => .instanceStopping
  | .stopped => .instanceStopped
  | .cleanupRequired => .instanceCleanupRequired

/-- `recovery_operation_state`. -/
def recoveryOperationState : OperationState → RecoveryState
  | .queued => .operationQueued
  | .starting => .operationStarting
  | .running => .operationRunning
  | .waiting => .operationWaiting
  | .cancelling => .operationCancelling
  | _ => .operationTerminal

/-- `recovery_message_state`. -/
def recoveryMessageState (now : Timestamp) : MessageDeliveryState → RecoveryState
  | .queued => .messageQueued
  | .retryScheduled notBefore =>
    if notBefore ≤ now then .messageRetryScheduled else .messageRetryDeferred
  | .leased lease => if lease.expiresAt ≤ now then .messageLeased else .messageLeaseActive
  | .acceptancePending _ => .messageAcceptancePending
  | .acceptanceUnknown _ => .messageAcceptanceUnknown
  | .accepted .. => .messageAccepted
  | .uncertain .. => .messageUncertain
  | .deadLetter _ => .messageDeadLetter

/-- `recovery_effect_state`. -/
def recoveryEffectState (effectClass : EffectClass) : EffectJournalPhase → RecoveryState
  | .reserved => .effectReserved
  | .retryAuthorized => .effectStartedRetryable
  | .started =>
    match effectClass with
    | .readOnly | .idempotent => .effectStartedRetryable
    | _ => .effectStartedUnsafe
  | .uncertain => .effectStartedUnsafe
  | .completed | .failed => .effectCompleted

/-- `load_effect_in`. -/
def loadEffect (s : Store) (requestId : RequestId) :
    Except StoreError (Option EffectJournalEntry) :=
  match s.journal.effects.find? requestId with
  | none => .ok none
  | some e =>
    if e.isValid then do
      match ← loadParticipant s e.participantId, ← loadOperation s e.operationId with
      | some p, some o =>
        if p.sessionId = e.sessionId ∧ o.sessionId = e.sessionId ∧
            o.participantId = e.participantId then .ok (some e)
        else .error .corrupt
      | _, _ => .error .corrupt
    else .error .corrupt

/-- An effect that is loaded can be decoded, and its participant and operation are there. -/
theorem loadEffect_ok_some {s : Store} {requestId : RequestId} {e : EffectJournalEntry}
    (h : loadEffect s requestId = .ok (some e)) :
    s.journal.effects.find? requestId = some e ∧ e.isValid = true ∧
      ∃ p o, loadParticipant s e.participantId = .ok (some p) ∧
        loadOperation s e.operationId = .ok (some o) ∧ p.sessionId = e.sessionId ∧
        o.sessionId = e.sessionId ∧ o.participantId = e.participantId := by
  unfold loadEffect at h
  rcases hfound : s.journal.effects.find? requestId with _ | e'
  · simp [hfound] at h
  simp only [hfound] at h
  split at h
  · next hvalid =>
    simp only [result_bind_ok] at h
    obtain ⟨p?, hp, o?, ho, h⟩ := h
    split at h
    · split at h
      · next hsame =>
        cases h
        exact ⟨rfl, hvalid, _, _, hp, ho, hsame⟩
      · cases h
    · cases h
  · cases h

/-- The state of an entity of a session. -/
def recoveryState (s : Store) (sessionId : SessionId) (now : Timestamp) :
    RecoveryEventEntity → Except StoreError (Option RecoveryState)
  | .session id => .ok (if id = sessionId then some .sessionOpen else none)
  | .participant id => do
    let p ← loadParticipant s id
    return (p.filter (·.sessionId = sessionId)).map fun _ => .participantRegistered
  | .driverInstance id =>
    .ok (((s.launches.find? id).filter (·.sessionId = sessionId)).map fun l =>
      recoveryLaunchState l.state)
  | .operation id => do
    let o ← loadOperation s id
    return (o.filter (·.sessionId = sessionId)).map fun o => recoveryOperationState o.state
  | .message id => do
    let m ← loadMessage s id
    return (m.filter (·.sessionId = sessionId)).map fun m => recoveryMessageState now m.state
  | .effect id => do
    let e ← loadEffect s id
    return (e.filter (·.sessionId = sessionId)).map fun e =>
      recoveryEffectState e.effectClass e.phase

/-- `validate_recovery_classifications`. -/
def validateRecoveryClassifications (s : Store) (sessionId : SessionId) (now : Timestamp) :
    List RecoveryEventClassification → Except StoreError Unit
  | [] => .ok ()
  | r :: rs => do
    if (← recoveryState s sessionId now r.entity) = some r.state then
      validateRecoveryClassifications s sessionId now rs
    else .error .invalid

/-! ### The batch -/

/-- Whether `reject_global_request_collision` finds a request identity. -/
def Store.requestRecorded (s : Store) (requestId : RequestId) : Bool :=
  (s.ledger.find? requestId).isSome ∨ (s.approvalMutations.find? requestId).isSome ∨
    (s.approvalEffects.find? requestId).isSome

/-- Whether an effect, or a change of one, has used a request identity. -/
def Store.requestOfEffect (s : Store) (requestId : RequestId) : Bool :=
  (s.journal.effects.find? requestId).isSome ∨ (s.journal.effectMutations.find? requestId).isSome

/-- The event of a batch. -/
def RecordRecoveryClassifications.event (c : RecordRecoveryClassifications)
    (revision : Revision) : EventData :=
  .recovery c.sessionId c.context.requestId revision c.classifications

/-- The writes of `record_recovery_classifications`. -/
def commitRecovery (env : Env) (c : RecordRecoveryClassifications) (revision : Revision)
    (now : Timestamp) : Write Unit := do
  ensure (c.epoch.get < i64Bound) .corrupt
  let recoveries ← orAbort ((← read Store.recoveries).insert?
    ⟨c.context.requestId, c.sessionId, c.context.caller, c.epoch, c.digest env⟩) .unavailable
  write fun s => { s with recoveries }
  appendEventData env c.context.requestId c.sessionId revision .recoveryClassified
    (c.event revision) now

/-- `record_recovery_classifications`: every failure rolls back.  Both successes return the
same unit in the source. -/
def recordRecoveryClassifications (env : Env) (observedAt : Timestamp)
    (c : RecordRecoveryClassifications) : Write (Mutation Unit) := do
  ensure (c.isStructurallyValid = true) .invalid
  let requestId := c.context.requestId
  ensure ((← read (·.requestRecorded requestId)) = false) (.requestConflict requestId)
  ensure ((← read (·.requestOfEffect requestId)) = false) (.requestConflict requestId)
  let row ← ofExcept (← read (requireOpenSession c.sessionId .acquireOwnership))
  let now ← advanceTimeFloor c.sessionId row.timeFloor observedAt
  ofExcept (requireOwner row c.context.caller c.epoch now)
  match ← read (·.recoveries.find? requestId) with
  | some existing =>
    ensure (existing.digest = c.digest env ∧ existing.sessionId = c.sessionId ∧
      existing.caller = c.context.caller ∧ existing.ownerEpoch = c.epoch)
      (.requestConflict requestId)
    return .replayed ()
  | none =>
    ofExcept (← read (validateRecoveryClassifications · c.sessionId now c.classifications))
    commitRecovery env c row.snapshot.revision now
    return .applied ()

/-! ### The inventory -/

/-- What a new owner has to look after. -/
structure RecoveryInventory where
  sessionId : SessionId
  snapshotAt : Timestamp
  launches : List LaunchSnapshot
  participants : List ParticipantSnapshot
  operations : List OperationSnapshot
  messages : List MessageSnapshot
  effects : List EffectJournalEntry
deriving DecidableEq

/-- Rows in the order of their identities. -/
def orderedBy {ρ : Type} {k : IdKind} (id : ρ → Id k) (rows : List ρ) : List ρ :=
  rows.insertionSort fun a b => (id a).uuid ≤ (id b).uuid

/-- An effect that is neither completed nor failed. -/
def EffectJournalPhase.isOpen : EffectJournalPhase → Bool
  | completed | failed => false
  | _ => true

/-- The unfinished business of a session. -/
def recoveryInventory (s : Store) (sessionId : SessionId) (now : Timestamp) :
    Except StoreError RecoveryInventory := do
  let launches := orderedBy LaunchSnapshot.attemptId (s.launches.rows.filter fun l =>
    l.sessionId = sessionId && l.state ≠ .stopped)
  let participants := orderedBy (·.snapshot.participantId) (s.participants.rows.filter fun r =>
    r.snapshot.sessionId = sessionId)
  let operations := orderedBy (·.snapshot.operationId) (s.operations.rows.filter fun r =>
    r.snapshot.sessionId = sessionId && r.snapshot.terminalOutcome = none)
  let messages := orderedBy MessageRow.messageId (s.messages.rows.filter fun r =>
    r.sessionId = sessionId)
  let effects := orderedBy EffectJournalEntry.requestId (s.journal.effects.rows.filter fun e =>
    e.sessionId = sessionId && e.phase.isOpen)
  check (1 + launches.length + participants.length + operations.length + messages.length +
    effects.length ≤ maxRecoveryClassifications) .invalid
  let participants ← participants.mapM fun r => do
    need (← loadParticipant s r.snapshot.participantId) .corrupt
  let operations ← operations.mapM fun r => do
    need (← loadOperation s r.snapshot.operationId) .corrupt
  let messages ← messages.mapM decodeMessageRow
  let effects ← effects.mapM fun e => do need (← loadEffect s e.requestId) .corrupt
  return ⟨sessionId, now, launches, participants, operations,
    messages.filter fun m => !m.state.isTerminal, effects⟩

/-- `load_recovery_inventory`. -/
def loadRecoveryInventory (observedAt : Timestamp) (sessionId : SessionId) (owner : HostId)
    (epoch : FencingEpoch) : Write (Mutation RecoveryInventory) := do
  let (_, now) ← authorizeOwner sessionId owner epoch .acquireOwnership observedAt
  return .unchanged (← ofExcept (← read (recoveryInventory · sessionId now)))

end Navigator
