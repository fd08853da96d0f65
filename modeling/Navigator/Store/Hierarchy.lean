/-
The hierarchy of participants.

A participant may ask its parent, remind its neighbours, cancel or answer its
children (`applyHierarchyEffect`) and look at its children (`authorizedStatus`); a
host may cancel a whole subtree (`cancelSubtree`).  What is not allowed is recorded as
denied, not refused.
-/
import Navigator.Store.Authority

namespace Navigator

open Txn Tx

/-! ### Cancelling a subtree -/

/-- A generation of participants and all that descend from it, at most `n` generations. -/
def Store.descendants (s : Store) (sessionId : SessionId) :
    ℕ → List ParticipantId → List ParticipantId
  | 0, _ => []
  | n + 1, generation => generation ++ s.descendants sessionId n
      ((s.participants.rows.filter fun r => r.snapshot.sessionId = sessionId ∧
        r.snapshot.parentParticipantId.any (· ∈ generation)).map (·.snapshot.participantId))

/-- The recursive query of `cancel_subtree`.  No participant is further down than
there are participants. -/
def Store.subtree (s : Store) (sessionId : SessionId) (root : ParticipantId) :
    List ParticipantId :=
  s.descendants sessionId (s.participants.rows.length + 1) [root]

/-- A participant marked as cancelled, if it is one of `ids`. -/
def ParticipantRow.flagged (ids : List ParticipantId) (r : ParticipantRow) : ParticipantRow :=
  if r.snapshot.participantId ∈ ids then { r with cancellationRequested := true } else r

theorem ParticipantRow.flagged_snapshot (ids : List ParticipantId) (r : ParticipantRow) :
    (r.flagged ids).snapshot = r.snapshot := by
  unfold flagged
  split <;> rfl

/-- The store after some participants are told to stop. -/
def Store.withCancellation (s : Store) (ids : List ParticipantId) : Store :=
  { s with
    participants := s.participants.rewrite (ParticipantRow.flagged ids)
      fun r => congrArg ParticipantSnapshot.participantId (r.flagged_snapshot ids) }

/-- `UPDATE participants SET cancellation_requested = 1`. -/
def requestCancellation (ids : List ParticipantId) : Write Unit :=
  write fun s => s.withCancellation ids

/-- The operations of a subtree, oldest first. -/
def Store.subtreeOperations (s : Store) (sessionId : SessionId) (ids : List ParticipantId) :
    List OperationId :=
  ((s.operations.rows.filter fun r =>
    r.snapshot.sessionId = sessionId ∧ r.snapshot.participantId ∈ ids).insertionSort
    fun a b => a.snapshot.createdAt < b.snapshot.createdAt ∨
      a.snapshot.createdAt = b.snapshot.createdAt ∧
        a.snapshot.operationId.uuid ≤ b.snapshot.operationId.uuid).map (·.snapshot.operationId)

/-- `load_cancel_notification_in`, which reads the snapshots without checking them. -/
def Store.cancelNotification (s : Store) (o : OperationSnapshot) : Option MessageSnapshot :=
  (((s.messages.rows.filter fun r =>
    r.sessionId = o.sessionId ∧ r.destination = o.participantId).insertionSort
    fun a b => a.mailboxSequence ≤ b.mailboxSequence).map MessageRow.snapshot).find?
    fun m => m.envelope.body = .control o.operationId .cancel

/-- Whether an operation can be ended without its driver: it was never handed to one. -/
def Store.endsWithoutDriver (s : Store) (sessionId : SessionId) (o : OperationSnapshot) : Bool :=
  o.state = .queued ∨ o.state = .starting ∧
    ∀ l ∈ s.launches.rows, ¬ (l.sessionId = sessionId ∧ l.participantId = o.participantId)

/-- An operation as `cancel_subtree` leaves it. -/
def OperationSnapshot.cancel (o : OperationSnapshot) (withoutDriver : Bool) (revision : Revision)
    (now : Timestamp) : OperationSnapshot :=
  { o with
    state := if withoutDriver then .cancelled else .cancelling
    waitingOnMessageId := none
    terminalOutcome := if withoutDriver then some .cancelled else none
    revision
    updatedAt := max now o.updatedAt }

/-- The message that tells a driver to cancel. -/
def cancelNotice (env : Env) (c : CancelSubtree) (o : OperationSnapshot) (now : Timestamp) :
    Write MessageSnapshot := do
  let messageId ← orAbort (derivedStoreMessageId env c.context.requestId
    (Bytes.utf8 "navigator.operation.cancel.v1" ++ o.operationId.bytes)) .corrupt
  let m ← ofExcept (← read (hierarchyMessage env c.sessionId messageId o.participantId
    o.participantId ⟨some o.operationId, none⟩ ⟨.control o.operationId .cancel⟩ now))
  queueHierarchyMessage env c.context.requestId m
  return m

/-- One round of the loop in `cancel_subtree`.  An operation that ends here ends
without `retireCorrelatedMessages`. -/
def cancelOperation (env : Env) (c : CancelSubtree) (now : Timestamp)
    (operationId : OperationId) : Write CancellationRecord := do
  let o ← ofExcept (← read (loadOperation · operationId))
  let o ← orAbort o .corrupt
  let notification ← read (·.cancelNotification o)
  if o.state.isTerminal = false ∧ o.state ≠ .cancelling then do
    let withoutDriver ← read (·.endsWithoutDriver c.sessionId o)
    let revision ← orAbort o.revision.next .corrupt
    let cancelled := o.cancel withoutDriver revision now
    updateOperation cancelled o.revision
    appendEventData env c.context.requestId c.sessionId revision (.operation cancelled.state)
      (operationEventPayload env cancelled) now
    if withoutDriver then return ⟨cancelled, notification⟩
    else return ⟨cancelled, some (← cancelNotice env c cancelled now)⟩
  else return ⟨o, notification⟩

/-- One record of `refresh_cancellation_outcome`. -/
def refreshCancellation (previous : CancellationRecord) : Write CancellationRecord := do
  let operation ← ofExcept (← read (loadOperation · previous.operation.operationId))
  let operation ← orAbort operation .corrupt
  match previous.notification with
  | none => return ⟨operation, none⟩
  | some message => do
    let current ← ofExcept (← read (loadMessage · message.messageId))
    return ⟨operation, some (← orAbort current .corrupt)⟩

/-- The writes of `cancel_subtree`. -/
def commitCancellation (env : Env) (c : CancelSubtree) : Write CancelSubtreeOutcome := do
  let ids ← read (·.subtree c.sessionId c.rootParticipantId)
  requestCancellation ids
  let operations ← read (·.subtreeOperations c.sessionId ids)
  let now ← loadTimeFloor c.sessionId
  let records ← collect (cancelOperation env c now) operations
  let outcome : CancelSubtreeOutcome := ⟨c.rootParticipantId, records⟩
  record env c.sessionId c .applied (.cancellation outcome)
  return outcome

/-- `cancel_subtree`. -/
def cancelSubtree (env : Env) (observedAt : Timestamp) (c : CancelSubtree) :
    Call (Mutation CancelSubtreeOutcome) :=
  replayOr env c
    (fun value => do
      let stored ← orAbort value.cancellation? .corrupt
      return ⟨stored.rootParticipantId, ← collect refreshCancellation stored.records⟩)
    do
      authorize c.sessionId c.context c.epoch .cancelSubtree observedAt
      let root ← ofExcept (← read (loadParticipant · c.rootParticipantId))
      require (root.map ParticipantSnapshot.sessionId = some c.sessionId) (c.sessionId, .invalid)
      return .applied (← commit (commitCancellation env c))

/-! ### Looking at a child -/

/-- What a status query finds. -/
def AuthorizedStatus.outcome (c : AuthorizedStatus) (s : Store) (now : Timestamp)
    (caller target : Option ParticipantSnapshot) : Except StoreError AuthorizedStatusOutcome :=
  let requested : ScopedCapability :=
    ⟨⟨"participant.status"⟩, .participant c.targetParticipantId⟩
  match caller, target with
  | some caller, some target =>
    if caller.sessionId = c.sessionId ∧ target.sessionId = c.sessionId ∧
        target.parentParticipantId = some caller.participantId ∧
        ((s.policies.find? c.callerParticipantId).any fun p =>
          (p.ceilings.authorizeEffect c.callerParticipantId c.sessionId requested none
            now).isSome) then
      match c.operationId with
      | none => .ok (.allowed target none)
      | some operationId => do
        match ← loadOperation s operationId with
        | some o =>
          if o.sessionId = c.sessionId ∧ o.participantId = target.participantId then
            return .allowed target (some o)
          else return .denied
        | none => return .denied
    else .ok .denied
  | _, _ => .ok .denied

/-- `authorized_status`.  A caller who does not own the session is denied without a
record. -/
def authorizedStatus (env : Env) (observedAt : Timestamp) (c : AuthorizedStatus) :
    Call (Mutation AuthorizedStatusOutcome) :=
  replayOr env c (fun value => orAbort value.status? .corrupt) do
    match ← authorizeLaunch c.sessionId c.context c.epoch .checkAuthorityEffect observedAt with
    | .error _ => return .unchanged .denied
    | .ok () => do
      let caller ← ofExcept (← read (loadParticipant · c.callerParticipantId))
      let target ← ofExcept (← read (loadParticipant · c.targetParticipantId))
      let now ← loadTimeFloor c.sessionId
      let outcome ← ofExcept (← read (c.outcome · now caller target))
      commit (record env c.sessionId c .applied (.status outcome))
      return .applied outcome

/-! ### Effects on neighbours -/

/-- What an effect asks for, once the operation it names has been found. -/
structure HierarchyPlan where
  messageId : MessageId
  destination : ParticipantId
  envelope : ValidatedMessageEnvelope
  operation : OperationSnapshot
  inReplyTo : Option MessageId
  grantId : Option GrantId
  requested : ScopedCapability
  change : Option OperationAction

/-- The operation an effect names, if it is of the session and as `p` says. -/
def ApplyHierarchyEffect.named (c : ApplyHierarchyEffect) (s : Store)
    (operationId : OperationId) (p : OperationSnapshot → Bool) :
    Except StoreError (Option OperationSnapshot) := do
  let o ← loadOperation s operationId
  return o.filter fun o => o.sessionId = c.sessionId && p o

/-- What an effect asks leave for. -/
def HierarchyEffect.requested : HierarchyEffect → ScopedCapability
  | questionUpward _ operationId _ _ _ => ⟨⟨"message.question"⟩, .operation operationId⟩
  | send _ destination _ _ => ⟨⟨"message.send"⟩, .participant destination⟩
  | cancelChild _ _ operationId _ => ⟨⟨"operation.cancel"⟩, .operation operationId⟩
  | resumeChild _ _ operationId _ _ _ => ⟨⟨"operation.resume"⟩, .operation operationId⟩

/-- The grant an effect names. -/
def HierarchyEffect.grantId : HierarchyEffect → Option GrantId
  | questionUpward _ _ _ _ grantId | send _ _ _ grantId | cancelChild _ _ _ grantId
  | resumeChild _ _ _ _ _ grantId => grantId

/-- The four effects; none is denied for a reason of its own. -/
def ApplyHierarchyEffect.plan (c : ApplyHierarchyEffect) (caller : ParticipantSnapshot)
    (s : Store) : Except StoreError (Option HierarchyPlan) :=
  match c.effect with
  | .questionUpward messageId operationId deliveredMessageId code grantId =>
    match caller.parentParticipantId with
    | none => .ok none
    | some parentId => do
      let o ← c.named s operationId fun o => o.participantId = caller.participantId &&
        o.inputMessageId = deliveredMessageId && o.state = .running &&
        o.waitingOnMessageId.isNone
      return o.map fun o => ⟨messageId, parentId, ⟨.question operationId code⟩, o, none, grantId,
        ⟨⟨"message.question"⟩, .operation operationId⟩, some .wait⟩
  | .send messageId destination envelope grantId =>
    match envelope.body with
    | .control operationId .reminder => do
      let o ← c.named s operationId fun o => o.participantId = destination && !o.state.isTerminal
      return o.map fun o => ⟨messageId, destination, envelope, o, none, grantId,
        ⟨⟨"message.send"⟩, .participant destination⟩, none⟩
    | _ => .ok none
  | .cancelChild messageId childId operationId grantId => do
    let o ← c.named s operationId fun o => o.participantId = childId && !o.state.isTerminal
    return o.map fun o => ⟨messageId, childId, ⟨.control operationId .cancel⟩, o, none, grantId,
      ⟨⟨"operation.cancel"⟩, .operation operationId⟩, some .requestCancel⟩
  | .resumeChild messageId childId operationId inReplyTo feedback grantId => do
    let o ← c.named s operationId fun o => o.participantId = childId && o.state = .waiting &&
      o.waitingOnMessageId = some inReplyTo
    return o.map fun o => ⟨messageId, childId, ⟨.correlatedFeedback operationId inReplyTo feedback⟩,
      o, some inReplyTo, grantId, ⟨⟨"operation.resume"⟩, .operation operationId⟩, none⟩

/-- Whether the target stands to the caller as the effect requires. -/
def ApplyHierarchyEffect.isNeighbour (c : ApplyHierarchyEffect)
    (caller target : ParticipantSnapshot) : Bool :=
  target.sessionId = c.sessionId &&
    match c.effect with
    | .cancelChild .. | .resumeChild .. =>
      target.parentParticipantId = some caller.participantId
    | .questionUpward .. => caller.parentParticipantId = some target.participantId
    | .send .. => target.participantId = caller.participantId ||
        target.parentParticipantId = some caller.participantId ||
        caller.parentParticipantId = some target.participantId

/-- The plan of an effect that is allowed. -/
def ApplyHierarchyEffect.authorizedPlan (c : ApplyHierarchyEffect) (now : Timestamp)
    (s : Store) : Except StoreError (Option HierarchyPlan) := do
  match ← loadParticipant s c.callerParticipantId with
  | none => return none
  | some caller =>
    if caller.sessionId ≠ c.sessionId then return none
    else
      match ← c.plan caller s with
      | none => return none
      | some plan =>
        if plan.change.any fun action =>
            (nextOperationState plan.operation.state action).isNone then return none
        else
          let target ← loadParticipant s plan.destination
          if target.any (c.isNeighbour caller) ∧
              (s.effectDecision c.sessionId c.callerParticipantId plan.requested plan.grantId
                now).isSome then
            return some plan
          else return none

/-- `commit_hierarchy_denied`. -/
def commitHierarchyDenied (env : Env) (c : ApplyHierarchyEffect) (now : Timestamp) :
    Write HierarchyEffectOutcome := do
  appendAuthorityEvent env c.sessionId c.context .authorityDenied c.callerParticipantId now
  record env c.sessionId c .applied (.hierarchy .denied)
  return .denied

/-- An operation after a change by a neighbour. -/
def HierarchyPlan.changed (plan : HierarchyPlan) (action : OperationAction)
    (next : OperationState) (revision : Revision) (now : Timestamp) : OperationSnapshot :=
  { plan.operation with
    state := next
    revision
    updatedAt := max now plan.operation.updatedAt
    waitingOnMessageId := if action = .wait then some plan.messageId else none }

/-- The operation of an effect after its message is queued: changed, or read again. -/
def settleOperation (c : ApplyHierarchyEffect) (plan : HierarchyPlan) (now : Timestamp) :
    Write (Option OperationSnapshot) :=
  match plan.change with
  | some action => do
    let next ← orAbort (nextOperationState plan.operation.state action) .corrupt
    let revision ← orAbort plan.operation.revision.next .corrupt
    let o := plan.changed action next revision now
    updateOperation o plan.operation.revision
    return some o
  | none => do
    let o ← ofExcept (← read (loadOperation · plan.operation.operationId))
    return o.filter fun o => o.sessionId = c.sessionId && o.participantId = plan.destination &&
      !o.state.isTerminal

/-- The writes of an effect that is allowed. -/
def performEffect (env : Env) (c : ApplyHierarchyEffect) (plan : HierarchyPlan)
    (message : MessageSnapshot) (now : Timestamp) : Write HierarchyEffectOutcome := do
  queueHierarchyMessage env c.context.requestId message
  match ← settleOperation c plan now with
  | none => commitHierarchyDenied env c now
  | some o => do
    consumeGrant (← read (·.namedGrant plan.grantId)) now
    appendAuthorityEvent env c.sessionId c.context .authorityAllowed c.callerParticipantId now
    let outcome := .allowed message (some o)
    record env c.sessionId c .applied (.hierarchy outcome)
    return outcome

/-- The message of a plan, if its mailbox has room for it. -/
def HierarchyPlan.message (env : Env) (c : ApplyHierarchyEffect) (plan : HierarchyPlan)
    (now : Timestamp) (s : Store) : Except StoreError MessageSnapshot :=
  hierarchyMessage env c.sessionId plan.messageId c.callerParticipantId plan.destination
    ⟨some plan.operation.operationId, plan.inReplyTo⟩ plan.envelope now s

/-- The writes of `apply_hierarchy_effect`. -/
def commitHierarchyEffect (env : Env) (c : ApplyHierarchyEffect) (plan : Option HierarchyPlan)
    (now : Timestamp) : Write HierarchyEffectOutcome :=
  match plan with
  | none => commitHierarchyDenied env c now
  | some plan => do
    match ← read (plan.message env c now) with
    | .ok message => performEffect env c plan message now
    | .error .invalid | .error .mailboxQuotaExceeded | .error .messageOversize =>
      commitHierarchyDenied env c now
    | .error e => abort e

/-- A replayed effect: the message it queued must be exactly what it was. -/
def replayHierarchy (value : StoredValue) : Write HierarchyEffectOutcome := do
  let outcome ← orAbort value.hierarchy? .corrupt
  match outcome with
  | .denied => return outcome
  | .allowed message _ => do
    let current ← ofExcept (← read (loadMessage · message.messageId))
    ensure (current = some message) .corrupt
    return outcome

/-- `apply_hierarchy_effect`. -/
def applyHierarchyEffect (env : Env) (observedAt : Timestamp) (c : ApplyHierarchyEffect) :
    Call (Mutation HierarchyEffectOutcome) :=
  replayOr env c replayHierarchy do
    authorize c.sessionId c.context c.epoch .applyHierarchyEffect observedAt
    let now ← loadTimeFloor c.sessionId
    let plan ← ofExcept (← read (c.authorizedPlan now))
    return .applied (← commit (commitHierarchyEffect env c plan now))

end Navigator
