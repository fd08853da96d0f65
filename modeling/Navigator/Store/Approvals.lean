/-
Approvals in the store.

The approval store has a ledger of its own.  A check that fails before the first
write commits the time floor and is not recorded; one that fails later rolls the
transaction back.  A decision, granted or denied, is relayed to the participant that
asked, through its mailbox (`insertDecisionRelay`).
-/
import Navigator.Store.Hierarchy

namespace Navigator

open Txn Tx

/-! ### The ledger of approvals -/

namespace ApprovalResult

def request? : ApprovalResult → Option ApprovalRequest
  | request r => if r.isValid then some r else none
  | _ => none

def grant? : ApprovalResult → Option ApprovalGrant
  | grant g => if g.isValid then some g else none
  | _ => none

def effect? : ApprovalResult → Option ApprovalEffectIntent
  | effect e => if e.isValid then some e else none
  | _ => none

end ApprovalResult

/-- The digest of a resource. -/
def ApprovalResource.digest (env : Env) (r : ApprovalResource) : Digest :=
  env.semanticDigest "approval.resource.v1" r.bytes

/-- `ApprovedRequest::validate`. -/
def approvedIsValid (env : Env) (r : ApprovalRequest) (g : ApprovalGrant) : Bool :=
  r.isValid && g.isValid && r.status = .granted && r.sessionId = g.sessionId &&
    g.isOf r (r.resource.digest env) && 0 < g.maxUses && g.expiresAt ≤ r.expiresAt &&
    r.decidedAt = some g.createdAt && g.issuedBy = .trustedConsumer

/-- `ConsumedApprovalGrant::validate`. -/
def consumedIsValid (g : ApprovalGrant) (e : ApprovalEffectIntent) : Bool :=
  g.isValid && e.isValid && 0 < g.usedCount && e.sessionId = g.sessionId && e.grantId = g.id &&
    e.subjectId = g.subjectId && e.operationId = g.operationId &&
    e.capability = g.capability && e.resourceHash = g.resourceHash && e.phase = .reserved

def ApprovalResult.approved? (env : Env) :
    ApprovalResult → Option (ApprovalRequest × ApprovalGrant)
  | approved r g => if approvedIsValid env r g then some (r, g) else none
  | _ => none

def ApprovalResult.consumed? : ApprovalResult → Option (ApprovalGrant × ApprovalEffectIntent)
  | consumed g e => if consumedIsValid g e then some (g, e) else none
  | _ => none

/-- `approval_replay`. -/
def approvalReplay (env : Env) (c : ApprovalCommand) (s : Store) :
    Except StoreError (Option ApprovalResult) :=
  let requestId := c.context.requestId
  match s.approvalMutations.find? requestId with
  | none =>
    if (s.ledger.find? requestId).isSome ∨ s.journaled requestId ∨
        (s.approvalEffects.find? requestId).isSome then
      .error (.requestConflict requestId)
    else .ok none
  | some row =>
    if row.caller = c.context.caller ∧ row.action = c.action ∧ row.digest = c.digest env then
      .ok (some row.result)
    else .error (.requestConflict requestId)

/-- `approval_record`. -/
def approvalRecord (env : Env) (c : ApprovalCommand) (result : ApprovalResult) : Write Unit := do
  let requestId := c.context.requestId
  let s ← read id
  ensure ((s.ledger.find? requestId).isNone ∧ s.requestJournaled requestId = false)
    (.requestConflict requestId)
  let rows ← orAbort (s.approvalMutations.insert?
    ⟨requestId, c.sessionId, c.context.caller, c.action, c.digest env, result⟩) .unavailable
  write fun s => { s with approvalMutations := rows }

/-- `approval_authorize`. -/
def approvalAuthorize (c : ApprovalCommand) (observedAt : Timestamp) : Call Timestamp := do
  let row ← acceptOr (c.sessionId, ·) (← read (requireOpenSession c.sessionId .startOperation))
  let now ← advanceTimeFloor c.sessionId row.timeFloor observedAt
  acceptOr (c.sessionId, ·) (requireOwner row c.context.caller c.ownerEpoch now)
  return now

/-- A mutation of the approval store. -/
def approvalMutation {α : Type} (env : Env) (observedAt : Timestamp) (c : ApprovalCommand)
    (decode : ApprovalResult → Option α) (body : Timestamp → Call α) : Call (Mutation α) := do
  match ← ofExcept (← read (approvalReplay env c)) with
  | some result => return .replayed (← orAbort (decode result) .corrupt)
  | none => do
    let now ← approvalAuthorize c observedAt
    return .applied (← body now)

theorem approvalMutation_eq {α : Type} (env : Env) (t : Timestamp) (c : ApprovalCommand)
    (decode : ApprovalResult → Option α) (body : Timestamp → Call α) (s : Store) :
    approvalMutation env t c decode body s =
      match approvalReplay env c s with
      | .error e => .aborted e
      | .ok (some result) => (Mutation.replayed <$> orAbort (decode result) .corrupt) s
      | .ok none => (approvalAuthorize c t >>= fun now => Mutation.applied <$> body now) s := by
  simp only [approvalMutation, map_eq_pure_bind]
  change (ofExcept (approvalReplay env c s) >>= _) s = _
  cases approvalReplay env c s with
  | error e => rfl
  | ok found => cases found <;> rfl

/-- The end of every approval mutation: its record and its event. -/
def finishApproval (env : Env) (c : ApprovalCommand) (result about : ApprovalResult)
    (revision : Revision) (eventType : EventType) (now : Timestamp) : Write Unit := do
  approvalRecord env c result
  appendEventData env c.context.requestId c.sessionId revision eventType (.approval about) now

/-! ### Reading -/

/-- `approval_request_in`. -/
def approvalRequestIn (id : ApprovalRequestId) (s : Store) : Except StoreError ApprovalRequest :=
  match s.approvalRequests.find? id with
  | none => .error .invalid
  | some r => if r.isValid then .ok r else .error .corrupt

/-- `approval_grant_in`. -/
def approvalGrantIn (id : GrantId) (s : Store) : Except StoreError ApprovalGrant :=
  match s.approvalGrants.find? id with
  | none => .error .invalid
  | some g => if g.isValid then .ok g else .error .corrupt

/-- `approval_effect_in`. -/
def approvalEffectIn (id : RequestId) (s : Store) : Except StoreError ApprovalEffectIntent :=
  match s.approvalEffects.find? id with
  | none => .error .invalid
  | some e => if e.isValid then .ok e else .error .corrupt

/-- `approval_operation_live`, and the liveness check of a new request. -/
def Store.operationLive (s : Store) (sessionId : SessionId) (participantId : ParticipantId)
    (operationId : OperationId) : Bool :=
  (s.operations.find? operationId).any fun r => r.snapshot.sessionId = sessionId ∧
    r.snapshot.participantId = participantId ∧
    (r.snapshot.state = .running ∨ r.snapshot.state = .waiting)

/-! ### Requests -/

/-- Whether a message is the accepted input of the operation an approval is asked for. -/
def RequestApproval.isCause (c : RequestApproval) (coordinator : ParticipantId)
    (o : OperationSnapshot) (m : MessageSnapshot) : Bool :=
  m.sessionId = c.sessionId && m.destination = c.requesterId && m.source = coordinator &&
    m.messageId = o.inputMessageId && m.correlation.operationId = some c.operationId &&
    m.envelope.body = .operationInput c.operationId o.inputDigest &&
    match m.state with
    | .accepted attemptId _ _ => attemptId = c.sourceDeliveryAttemptId
    | _ => false

def RequestApproval.request (c : RequestApproval) (coordinator : ParticipantId)
    (now : Timestamp) : ApprovalRequest where
  id := c.approvalId
  sessionId := c.sessionId
  requesterId := c.requesterId
  operationId := c.operationId
  sourceMessageId := c.sourceMessageId
  sourceDeliveryAttemptId := c.sourceDeliveryAttemptId
  coordinatorId := coordinator
  capability := c.capability
  resource := c.resource
  summary := c.summary
  status := .pending
  expiresAt := c.expiresAt
  grantId := none
  decisionSource := none
  createdAt := now
  decidedAt := none
  revision := .initial

/-- `request_approval`. -/
def requestApproval (env : Env) (observedAt : Timestamp) (c : RequestApproval) :
    Call (Mutation ApprovalRequest) :=
  approvalMutation env observedAt c.command ApprovalResult.request? fun now => do
    let invalid := (c.sessionId, StoreError.invalid)
    require (now < c.expiresAt) invalid
    require ((← read (·.approvalRequests.find? c.approvalId)) = none) invalid
    require ((← read (·.participantSession c.requesterId)) = some c.sessionId ∧
      (← read (·.operationLive c.sessionId c.requesterId c.operationId)) = true) invalid
    let cause ← orAbort (← read (·.messages.find? c.sourceMessageId)) .invalid
    let operation ← ofExcept (← read (loadOperation · c.operationId))
    let operation ← orRefuse operation invalid
    let requester ← ofExcept (← read (loadParticipant · c.requesterId))
    let requester ← orRefuse requester invalid
    let coordinator := requester.parentParticipantId.getD c.requesterId
    require (c.isCause coordinator operation cause.snapshot = true) invalid
    let request := c.request coordinator now
    commit do
      ensure (request.isValid = true) .invalid
      let rows ← orAbort ((← read Store.approvalRequests).insert? request) .unavailable
      write fun s => { s with approvalRequests := rows }
      finishApproval env c.command (.request request) (.request request) request.revision
        .approvalRequested now
    return request

/-- `approval_update_request`. -/
def approvalUpdateRequest (r : ApprovalRequest) : Write Unit := do
  ensure (r.revision.get < i64Bound) .invalid
  ensure (((← read Store.approvalRequests).find? r.id).isSome = true) .invalid
  write fun s => { s with approvalRequests := s.approvalRequests.replace r }

/-- `approval_update_grant`. -/
def approvalUpdateGrant (g : ApprovalGrant) : Write Unit := do
  ensure (g.revision.get < i64Bound) .invalid
  ensure (((← read Store.approvalGrants).find? g.id).isSome = true) .invalid
  write fun s => { s with approvalGrants := s.approvalGrants.replace g }

/-! ### Decisions -/

/-- The part of a relay's identity that says what was decided. -/
def ApprovalStatus.relayTag : ApprovalStatus → Option String
  | granted => some "granted"
  | denied => some "denied"
  | _ => none

/-- The identity of the message that relays a decision. -/
def relayMessageId (env : Env) (r : ApprovalRequest) (tag : String) : Option MessageId :=
  Id.fromUuid (Env.uuidOfDigest
    (env.semanticDigest "approval.decision.relay.v1" (r.id.bytes ++ Bytes.utf8 tag)))

/-- The message that relays a decision to the participant that asked. -/
def relayMessage (r : ApprovalRequest) (messageId : MessageId) (sequence : ℕ)
    (now : Timestamp) : MessageSnapshot :=
  newMessage r.sessionId messageId r.coordinatorId r.requesterId
    ⟨some r.operationId, some r.sourceMessageId⟩
    ⟨.approvalDecision r.id r.operationId r.status r.grantId⟩ sequence now

/-- `approval_insert_decision_relay`. -/
def insertDecisionRelay (env : Env) (requestId : RequestId) (r : ApprovalRequest)
    (now : Timestamp) : Write Unit := do
  let tag ← orAbort r.status.relayTag .invalid
  let messageId ← orAbort (relayMessageId env r tag) .corrupt
  let counter ← read (·.counterOf r.requesterId)
  let message := relayMessage r messageId counter.nextSequence now
  ensure (counter.queuedBytes + env.envelopeSize message.envelope ≤ maxMailboxQueuedBytes ∧
    counter.queuedMessages + 1 ≤ maxMailboxQueuedMessages) .mailboxQuotaExceeded
  queueMessage env message
  appendMessageEvent env requestId message now

/-- `ApproveRequest::validate_against`. -/
def ApproveRequest.isValidAgainst (c : ApproveRequest) (r : ApprovalRequest)
    (now : Timestamp) : Bool :=
  r.id = c.approvalId && r.sessionId = c.sessionId && r.status = .pending &&
    r.revision = c.expectedRevision && now < r.expiresAt && c.grantExpiresAt ≤ r.expiresAt &&
    now < c.grantExpiresAt && c.maxUses ≠ 0 && c.maxUses ≤ maxApprovalUses

def ApproveRequest.grant (env : Env) (c : ApproveRequest) (r : ApprovalRequest)
    (now : Timestamp) : ApprovalGrant where
  id := c.grantId
  requestId := r.id
  sessionId := r.sessionId
  subjectId := r.requesterId
  operationId := r.operationId
  capability := r.capability
  resourceHash := r.resource.digest env
  issuedBy := .trustedConsumer
  maxUses := c.maxUses
  usedCount := 0
  expiresAt := c.grantExpiresAt
  revokedAt := none
  createdAt := now
  revision := .initial

/-- A request once it is granted. -/
def ApprovalRequest.granted (r : ApprovalRequest) (grantId : GrantId) (revision : Revision)
    (now : Timestamp) : ApprovalRequest :=
  { r with
    status := .granted
    grantId := some grantId
    decisionSource := some .trustedConsumer
    decidedAt := some now
    revision }

/-- `approve_request`. -/
def approveRequest (env : Env) (observedAt : Timestamp) (c : ApproveRequest) :
    Call (Mutation (ApprovalRequest × ApprovalGrant)) :=
  approvalMutation env observedAt c.command (ApprovalResult.approved? env) fun now => do
    let invalid := (c.sessionId, StoreError.invalid)
    let pending ← acceptOr (c.sessionId, ·) (← read (approvalRequestIn c.approvalId))
    require (c.isValidAgainst pending now = true) invalid
    require ((← read (·.operationLive pending.sessionId pending.requesterId
      pending.operationId)) = true) invalid
    require ((← read (·.approvalGrants.find? c.grantId)) = none) invalid
    let grant := c.grant env pending now
    commit do
      ensure (grant.isValid = true) .invalid
      let revision ← orAbort pending.revision.next .invalid
      let request := pending.granted grant.id revision now
      ensure (approvedIsValid env request grant = true) .invalid
      approvalUpdateRequest request
      -- UNIQUE (approval_id)
      ensure (∀ g ∈ (← read Store.approvalGrants).rows, g.requestId ≠ grant.requestId) .unavailable
      let rows ← orAbort ((← read Store.approvalGrants).insert? grant) .unavailable
      write fun s => { s with approvalGrants := rows }
      insertDecisionRelay env c.context.requestId request now
      finishApproval env c.command (.approved request grant) (.request request)
        request.revision .approvalGranted now
      return (request, grant)

/-- A request that is decided without a grant. -/
def ApprovalRequest.closed (r : ApprovalRequest) (status : ApprovalStatus) (revision : Revision)
    (now : Timestamp) : ApprovalRequest :=
  { r with
    status
    revision
    decisionSource := if status = .expired then r.decisionSource else some .trustedConsumer
    decidedAt := if status = .expired then r.decidedAt else some now }

/-- A denial is relayed, an expiry is not. -/
def relayDenial (env : Env) (requestId : RequestId) (r : ApprovalRequest) (now : Timestamp) :
    Write Unit :=
  if r.status = .denied then insertDecisionRelay env requestId r now else pure ()

/-- `approval_decide_terminal`. -/
def approvalDecideTerminal (env : Env) (observedAt : Timestamp) (c : ApprovalCommand)
    (id : ApprovalRequestId) (expected : Revision) (status : ApprovalStatus) :
    Call (Mutation ApprovalRequest) :=
  approvalMutation env observedAt c ApprovalResult.request? fun now => do
    let invalid := (c.sessionId, StoreError.invalid)
    let pending ← acceptOr (c.sessionId, ·) (← read (approvalRequestIn id))
    require (pending.sessionId = c.sessionId ∧ pending.revision = expected ∧
      pending.status = .pending) invalid
    require (if status = .expired then pending.expiresAt ≤ now else now < pending.expiresAt)
      invalid
    require (status ≠ .expired → (← read (·.operationLive pending.sessionId pending.requesterId
      pending.operationId)) = true) invalid
    commit do
      let revision ← orAbort pending.revision.next .invalid
      let request := pending.closed status revision now
      ensure (request.isValid = true) .invalid
      approvalUpdateRequest request
      relayDenial env c.context.requestId request now
      finishApproval env c (.request request) (.request request) request.revision
        (if status = .denied then .approvalDenied else .approvalExpired) now
      return request

/-- `deny_request`. -/
def denyRequest (env : Env) (observedAt : Timestamp) (c : DenyRequest) :
    Call (Mutation ApprovalRequest) :=
  approvalDecideTerminal env observedAt
    ⟨c.context, c.sessionId, c.ownerEpoch, .deny, .decide c.approvalId c.expectedRevision⟩
    c.approvalId c.expectedRevision .denied

/-- `expire_approval`. -/
def expireApproval (env : Env) (observedAt : Timestamp) (c : ExpireApproval) :
    Call (Mutation ApprovalRequest) :=
  approvalDecideTerminal env observedAt
    ⟨c.context, c.sessionId, c.ownerEpoch, .expire, .decide c.approvalId c.expectedRevision⟩
    c.approvalId c.expectedRevision .expired

/-! ### Grants and effects -/

/-- `RevokeApprovalGrant::validate_against`. -/
def RevokeApprovalGrant.isValidAgainst (env : Env) (c : RevokeApprovalGrant)
    (r : ApprovalRequest) (g : ApprovalGrant) (now : Timestamp) : Bool :=
  g.id = c.grantId && g.sessionId = c.sessionId && r.sessionId = c.sessionId &&
    g.isOf r (r.resource.digest env) && r.status = .granted &&
    g.revision = c.expectedRevision && g.revokedAt.isNone && g.usedCount < g.maxUses &&
    now < g.expiresAt

/-- `revoke_approval_grant`. -/
def revokeApprovalGrant (env : Env) (observedAt : Timestamp) (c : RevokeApprovalGrant) :
    Call (Mutation ApprovalGrant) :=
  approvalMutation env observedAt c.command ApprovalResult.grant? fun now => do
    let g ← acceptOr (c.sessionId, ·) (← read (approvalGrantIn c.grantId))
    let r ← acceptOr (c.sessionId, ·) (← read (approvalRequestIn g.requestId))
    require (c.isValidAgainst env r g now = true) (c.sessionId, .invalid)
    commit do
      let grantRevision ← orAbort g.revision.next .invalid
      let requestRevision ← orAbort r.revision.next .invalid
      let grant := { g with revokedAt := some now, revision := grantRevision }
      approvalUpdateGrant grant
      approvalUpdateRequest { r with status := .revoked, revision := requestRevision }
      finishApproval env c.command (.grant grant) (.grant grant) grant.revision .approvalRevoked now
      return grant

/-- `ConsumeApprovalGrant::validate_against`. -/
def ConsumeApprovalGrant.isValidAgainst (env : Env) (c : ConsumeApprovalGrant)
    (g : ApprovalGrant) (r : ApprovalRequest) (now : Timestamp) : Bool :=
  g.id = c.grantId && g.sessionId = c.sessionId && r.sessionId = c.sessionId &&
    g.isOf r (r.resource.digest env) && r.status = .granted && g.subjectId = c.subjectId &&
    g.operationId = c.operationId && g.capability = c.capability &&
    g.resourceHash = c.resourceHash && g.revision = c.expectedRevision && g.isUsableAt now

def ConsumeApprovalGrant.effect (c : ConsumeApprovalGrant) (now : Timestamp) :
    ApprovalEffectIntent where
  effectId := c.effectId
  sessionId := c.sessionId
  grantId := c.grantId
  subjectId := c.subjectId
  operationId := c.operationId
  capability := c.capability
  resourceHash := c.resourceHash
  phase := .reserved
  createdAt := now
  finishedAt := none
  revision := .initial

/-- `approval_effect_identity_available`. -/
def effectIdentityAvailable (requestId effectId : RequestId) (s : Store) : Bool :=
  requestId ≠ effectId && (s.ledger.find? effectId).isNone && !s.requestJournaled effectId

/-- The last use of a grant closes its request. -/
def closeConsumed (r : ApprovalRequest) (g : ApprovalGrant) : Write Unit :=
  if g.usedCount = g.maxUses then do
    let revision ← orAbort r.revision.next .invalid
    approvalUpdateRequest { r with status := .consumed, revision }
  else pure ()

/-- `consume_approval_grant`. -/
def consumeApprovalGrant (env : Env) (observedAt : Timestamp) (c : ConsumeApprovalGrant) :
    Call (Mutation (ApprovalGrant × ApprovalEffectIntent)) :=
  approvalMutation env observedAt c.command ApprovalResult.consumed? fun now => do
    let g ← acceptOr (c.sessionId, ·) (← read (approvalGrantIn c.grantId))
    let r ← acceptOr (c.sessionId, ·) (← read (approvalRequestIn g.requestId))
    require (c.isValidAgainst env g r now = true) (c.sessionId, .invalid)
    require ((← read (·.operationLive r.sessionId r.requesterId r.operationId)) = true)
      (c.sessionId, .invalid)
    require ((← read (effectIdentityAvailable c.context.requestId c.effectId)) = true)
      (c.sessionId, .requestConflict c.effectId)
    let effect := c.effect now
    commit do
      let grantRevision ← orAbort g.revision.next .invalid
      let grant := { g with usedCount := g.usedCount + 1, revision := grantRevision }
      closeConsumed r grant
      ensure (effect.isValid = true) .invalid
      approvalUpdateGrant grant
      let rows ← orAbort ((← read Store.approvalEffects).insert? effect) .unavailable
      write fun s => { s with approvalEffects := rows }
      ensure (consumedIsValid grant effect = true) .invalid
      finishApproval env c.command (.consumed grant effect) (.effect effect) effect.revision
        .approvalConsumed now
      return (grant, effect)

/-- `finish_approval_effect`. -/
def finishApprovalEffect (env : Env) (observedAt : Timestamp) (c : FinishApprovalEffect) :
    Call (Mutation ApprovalEffectIntent) :=
  approvalMutation env observedAt c.command ApprovalResult.effect? fun now => do
    let e ← acceptOr (c.sessionId, ·) (← read (approvalEffectIn c.effectId))
    require (e.effectId = c.effectId ∧ e.sessionId = c.sessionId ∧
      e.revision = c.expectedRevision ∧ e.phase = .reserved ∧ e.finishedAt = none)
      (c.sessionId, .invalid)
    commit do
      let revision ← orAbort e.revision.next .invalid
      let effect := { e with phase := c.phase.phase, finishedAt := some now, revision }
      ensure (effect.isValid = true) .invalid
      ensure (effect.revision.get < i64Bound) .invalid
      write fun s => { s with approvalEffects := s.approvalEffects.replace effect }
      finishApproval env c.command (.effect effect) (.effect effect) effect.revision
        .approvalEffectFinished now
      return effect

/-- Run an approval mutation's transaction: a refusal is committed, without a record. -/
def settleUnrecorded {α : Type} (body : Call α) (s : Store) : Except StoreError α × Store :=
  match body s with
  | .done value s' => (.ok value, s')
  | .aborted error => (.error error, s)
  | .refused (_, error) s' => (.error error, s')

end Navigator
