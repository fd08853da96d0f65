/-
The tables of the store.

A row type carries the CHECK constraints of its table as fields, so that a row
the database would refuse cannot be written down; keys are unique by the type of
`Table`.  A column that is generated from another (the delivery state of a
message, the operation it is correlated with) is a function of it.
-/
import Navigator.Api.Capacity
import Navigator.Lib.Table
import Navigator.Lib.Txn

namespace Navigator

/-! ### Sessions -/

/-- A row of `sessions`. -/
structure SessionRecord where
  sessionId : SessionId
  storageKey : String
  publicConsumerKey : ConsumerKey
  compatibility : CompatibilityIdentity
  revision : Revision
  closed : Bool
  createdAt : Timestamp
  updatedAt : Timestamp
  /-- The host that holds the session, and until when: both columns or neither. -/
  owner : Option (HostId × Timestamp)
  /-- Kept when the owner leaves. -/
  ownerEpoch : Option FencingEpoch
  epochHighWater : ℕ
  timeFloor : Timestamp
  manifestComplete : Bool
  configurationIdentity : Option CompatibilityIdentity
  ownerHasEpoch : owner.isSome → ownerEpoch.isSome
  epochBounded : ∀ e ∈ ownerEpoch, e.get ≤ epochHighWater

instance : Keyed SessionRecord SessionId := ⟨SessionRecord.sessionId⟩

/-- A row of `session_template_manifest`. -/
structure ManifestRow where
  sessionId : SessionId
  binding : TemplateCompatibilityBinding
deriving DecidableEq

instance : Keyed ManifestRow (SessionId × TemplateId) :=
  ⟨fun r => (r.sessionId, r.binding.templateId)⟩

instance : Keyed TemplateRecord TemplateId := ⟨TemplateRecord.identity⟩

/-! ### Participants, launches and operations -/

/-- A row of `participants`. -/
structure ParticipantRow where
  snapshot : ParticipantSnapshot
  cancellationRequested : Bool
deriving DecidableEq

instance : Keyed ParticipantRow ParticipantId := ⟨fun r => r.snapshot.participantId⟩

instance : Keyed LaunchSnapshot LaunchAttemptId := ⟨LaunchSnapshot.attemptId⟩

/-- A row of `operations`. -/
structure OperationRow where
  snapshot : OperationSnapshot
  inputPayload : List UInt8
deriving DecidableEq

instance : Keyed OperationRow OperationId := ⟨fun r => r.snapshot.operationId⟩

/-! ### Mailboxes -/

/-- A row of `mailbox_counters`. -/
structure MailboxCounter where
  destination : ParticipantId
  nextSequence : ℕ
  queuedBytes : ℕ
  queuedMessages : ℕ
deriving DecidableEq

instance : Keyed MailboxCounter ParticipantId := ⟨MailboxCounter.destination⟩

/-- A row of `messages`: the key columns, and the snapshot. -/
structure MessageRow where
  messageId : MessageId
  sessionId : SessionId
  source : ParticipantId
  destination : ParticipantId
  mailboxSequence : ℕ
  priority : MessagePriority
  snapshot : MessageSnapshot
deriving DecidableEq

instance : Keyed MessageRow MessageId := ⟨MessageRow.messageId⟩

/-! ### Authority -/

structure GrantSnapshot where
  grant : Grant
  singleUse : Bool
  consumedAt : Option Timestamp
deriving DecidableEq

instance : Keyed GrantSnapshot GrantId := ⟨fun g => g.grant.id⟩

instance : Keyed AuthorityPolicySnapshot ParticipantId :=
  ⟨AuthorityPolicySnapshot.participantId⟩

instance : Keyed AuthorityTemplatePolicy TemplateId := ⟨AuthorityTemplatePolicy.templateId⟩

/-! ### Outcomes of mutations -/

inductive AuthorityEffectOutcome where
  | allowed (decision : AuthorityDecision)
  | denied
deriving DecidableEq

inductive AuthorizedChildOutcome where
  | allowed (participant : ParticipantSnapshot) (policy : AuthorityPolicySnapshot)
      (operation : OperationSnapshot) (decision : AuthorityDecision)
  | denied
deriving DecidableEq

inductive HierarchyEffectOutcome where
  | allowed (message : MessageSnapshot) (operation : Option OperationSnapshot)
  | denied
deriving DecidableEq

inductive AuthorizedStatusOutcome where
  | allowed (participant : ParticipantSnapshot) (operation : Option OperationSnapshot)
  | denied
deriving DecidableEq

structure CancellationRecord where
  operation : OperationSnapshot
  notification : Option MessageSnapshot
deriving DecidableEq

structure CancelSubtreeOutcome where
  rootParticipantId : ParticipantId
  records : List CancellationRecord
deriving DecidableEq

/-! ### The request ledger -/

/-- What the result column of a successful request holds: a value in the JSON (or,
for the end of an ownership, the literal) its mutation writes. -/
inductive StoredValue where
  | session (snapshot : SessionSnapshot)
  | lease (lease : OwnershipLease) (issuedAt : Timestamp)
  | unowned
  | launch (snapshot : LaunchSnapshot)
  | participant (snapshot : ParticipantSnapshot)
  | operation (snapshot : OperationSnapshot)
  | message (snapshot : Option MessageSnapshot)
  | policy (policy : AuthorityPolicySnapshot)
  | templatePolicy (policy : AuthorityTemplatePolicy)
  | grant (snapshot : GrantSnapshot)
  | effect (outcome : AuthorityEffectOutcome)
  | child (outcome : AuthorizedChildOutcome)
  | hierarchy (outcome : HierarchyEffectOutcome)
  | cancellation (outcome : CancelSubtreeOutcome)
  | status (outcome : AuthorizedStatusOutcome)
  | toolRegistration (snapshot : ToolRegistrationSnapshot)
  | toolConnection (snapshot : ToolProviderConnectionSnapshot)
  | artifact (snapshot : ArtifactSnapshot)
deriving DecidableEq

inductive StoredEffect where
  | applied | unchanged
deriving DecidableEq

/-- What the result column of a failed request holds. -/
inductive FailureWire where
  | sessionNotFound (sessionId : SessionId)
  | templateNotFound (templateId : TemplateId)
  | participantNotFound (participantId : ParticipantId)
  | rootParticipantNotFound (sessionId : SessionId)
  | operationNotFound (operationId : OperationId)
  | sessionClosed (sessionId : SessionId)
  | alreadyClosed (sessionId : SessionId)
  | compatibilityConflict (sessionId : SessionId) (persisted requested : CompatibilityIdentity)
  | interruptedSession (sessionId : SessionId)
  | consumerConflict (sessionId : SessionId) (persisted requested : ConsumerKey)
  | requestConflict (requestId : RequestId)
  | ownershipHeld (ownership : OwnershipSnapshot)
  | ownershipExpired (sessionId : SessionId) (epoch : FencingEpoch)
  | staleOwnership (sessionId : SessionId) (attempted : FencingEpoch)
      (current : Option FencingEpoch)
  | leaseTooLong
  | schemaTooNew (found supported : ℕ)
  | corrupt
  | busy
  | invalid
  | messageNotFound (messageId : MessageId)
  | artifactNotFound (artifactId : ArtifactId)
  | launchNotFound (attemptId : LaunchAttemptId)
  | messageOversize
  | mailboxQuotaExceeded
  | capacityExceeded (reason : CapacityReason)
  | projectionStale
  | unavailable
deriving DecidableEq

/-- The outcome, effect and result columns. -/
inductive LedgerOutcome where
  | succeeded (effect : StoredEffect) (result : StoredValue)
  | failed (error : FailureWire)
deriving DecidableEq

/-- A row of `request_ledger`. -/
structure LedgerRow where
  requestId : RequestId
  sessionId : SessionId
  caller : HostId
  action : StoreAction
  digest : Digest
  outcome : LedgerOutcome
deriving DecidableEq

instance : Keyed LedgerRow RequestId := ⟨LedgerRow.requestId⟩

/-! ### Effects and recoveries -/

instance : Keyed EffectJournalEntry RequestId := ⟨EffectJournalEntry.requestId⟩

/-- A row of `recovery_classifications`, of which the payload is never read. -/
structure RecoveryRow where
  requestId : RequestId
  sessionId : SessionId
  caller : HostId
  ownerEpoch : FencingEpoch
  digest : Digest
deriving DecidableEq

instance : Keyed RecoveryRow RequestId := ⟨RecoveryRow.requestId⟩

/-- What the result column of a changed effect holds. -/
inductive EffectMutationResult where
  | entry (entry : EffectJournalEntry)
  | resolution (outcome : AuthorizedEffectResolution)
deriving DecidableEq

/-- A row of `effect_journal_mutations`. -/
structure EffectMutationRow where
  requestId : RequestId
  effectRequestId : RequestId
  caller : HostId
  digest : Digest
  result : EffectMutationResult
deriving DecidableEq

instance : Keyed EffectMutationRow RequestId := ⟨EffectMutationRow.requestId⟩

/-! ### Tools -/

/-- A registration is never changed, so that its columns are those of its snapshot. -/
instance : Keyed ToolRegistrationSnapshot (SessionId × ToolName × ToolVersion) :=
  ⟨fun r => (r.sessionId, r.definition.name, r.definition.version)⟩

/-- A row of `tool_provider_connections` is the connection's snapshot, column by column. -/
instance : Keyed ToolProviderConnectionSnapshot (SessionId × ToolProviderId) :=
  ⟨fun c => (c.sessionId, c.providerId)⟩

/-- A row of `tool_invocations`: columns of its own, and the snapshot they should agree with. -/
structure ToolInvocationRow where
  invocationId : ToolInvocationId
  effectRequestId : RequestId
  registrationId : ToolRegistrationId
  dispatchId : ToolDispatchId
  providerId : ToolProviderId
  serverSequence : ℕ
  deadline : Timestamp
  connectionGeneration : Option ℕ
  cancellationId : Option ToolCancellationId
  cancellationServerSequence : Option ℕ
  terminalDigest : Option Digest
  sessionId : SessionId
  participantId : ParticipantId
  operationId : OperationId
  toolName : ToolName
  toolVersion : ToolVersion
  snapshot : ToolInvocationSnapshot
deriving DecidableEq

instance : Keyed ToolInvocationRow ToolInvocationId := ⟨ToolInvocationRow.invocationId⟩

/-- The row of a snapshot. -/
def ToolInvocationRow.of (t : ToolInvocationSnapshot) : ToolInvocationRow where
  invocationId := t.invocation.invocationId
  effectRequestId := t.invocation.requestId
  registrationId := t.registrationId
  dispatchId := t.dispatch.dispatchId
  providerId := t.dispatch.providerId
  serverSequence := t.dispatch.serverSequence
  deadline := t.dispatch.deadline
  connectionGeneration := t.dispatch.connectionGeneration
  cancellationId := t.dispatch.cancellationId
  cancellationServerSequence := t.dispatch.cancellationServerSequence
  terminalDigest := t.dispatch.terminalDigest
  sessionId := t.invocation.sessionId
  participantId := t.invocation.participantId
  operationId := t.invocation.operationId
  toolName := t.invocation.toolName
  toolVersion := t.invocation.toolVersion
  snapshot := t

/-- A row of `tool_invocation_mutations`. -/
structure ToolMutationRow where
  requestId : RequestId
  invocationId : ToolInvocationId
  caller : HostId
  digest : Digest
  result : ToolInvocationSnapshot
deriving DecidableEq

instance : Keyed ToolMutationRow RequestId := ⟨ToolMutationRow.requestId⟩

/-- The tables of effects and tools. -/
structure Journal where
  effects : Table EffectJournalEntry
  effectMutations : Table EffectMutationRow
  toolRegistrations : Table ToolRegistrationSnapshot
  toolConnections : Table ToolProviderConnectionSnapshot
  toolInvocations : Table ToolInvocationRow
  toolMutations : Table ToolMutationRow

/-! ### Approvals -/

instance : Keyed ApprovalRequest ApprovalRequestId := ⟨ApprovalRequest.id⟩
instance : Keyed ApprovalGrant GrantId := ⟨ApprovalGrant.id⟩
instance : Keyed ApprovalEffectIntent RequestId := ⟨ApprovalEffectIntent.effectId⟩

/-- A row of `approval_mutations`, the ledger the approval store keeps for itself. -/
structure ApprovalMutationRow where
  requestId : RequestId
  sessionId : SessionId
  caller : HostId
  action : ApprovalAction
  digest : Digest
  result : ApprovalResult
deriving DecidableEq

instance : Keyed ApprovalMutationRow RequestId := ⟨ApprovalMutationRow.requestId⟩

/-! ### Events -/

/-- A row of `events`. -/
structure EventRow where
  sessionId : SessionId
  position : ℕ
  eventId : EventId
  revision : Revision
  eventType : EventType
  relatedRequestId : RequestId
  data : EventData
  occurredAt : Timestamp
deriving DecidableEq

/-! ### Artifacts and capacity -/

/-- The locator of an artifact is unique since it is made of its identity. -/
instance : Keyed ArtifactSnapshot ArtifactId := ⟨ArtifactSnapshot.artifactId⟩

instance : Keyed CapacityReservation RequestId := ⟨CapacityReservation.reservationId⟩
instance : Keyed GlobalCapacityReservation RequestId := ⟨GlobalCapacityReservation.reservationId⟩
instance : Keyed SubscriptionLease RequestId := ⟨SubscriptionLease.reservationId⟩

/-- A row of `capacity_session_usage`. -/
structure SessionUsage where
  sessionId : SessionId
  resource : CapacityResource
  used : ℕ
deriving DecidableEq

instance : Keyed SessionUsage (SessionId × CapacityResource) :=
  ⟨fun r => (r.sessionId, r.resource)⟩

/-- A row of `capacity_global_usage`. -/
structure GlobalUsage where
  resource : CapacityResource
  used : ℕ
deriving DecidableEq

instance : Keyed GlobalUsage CapacityResource := ⟨GlobalUsage.resource⟩

/-- The tables of what is set aside, and of how much that is. -/
structure Quotas where
  sessionUsage : Table SessionUsage
  globalUsage : Table GlobalUsage
  reservations : Table CapacityReservation
  globalReservations : Table GlobalCapacityReservation
  subscriptionLeases : Table SubscriptionLease

/-! ### The store -/

/-- The state of the store. -/
structure Store where
  sessions : Table SessionRecord
  manifest : Table ManifestRow
  templates : Table TemplateRecord
  participants : Table ParticipantRow
  launches : Table LaunchSnapshot
  operations : Table OperationRow
  counters : Table MailboxCounter
  messages : Table MessageRow
  policies : Table AuthorityPolicySnapshot
  templatePolicies : Table AuthorityTemplatePolicy
  grants : Table GrantSnapshot
  approvalRequests : Table ApprovalRequest
  approvalGrants : Table ApprovalGrant
  approvalEffects : Table ApprovalEffectIntent
  approvalMutations : Table ApprovalMutationRow
  quotas : Quotas
  artifacts : Table ArtifactSnapshot
  /-- Newest first. -/
  events : List EventRow
  ledger : Table LedgerRow
  recoveries : Table RecoveryRow
  journal : Journal

/-- The store after its migrations, before any request. -/
def Store.empty : Store where
  sessions := .empty
  manifest := .empty
  templates := .empty
  participants := .empty
  launches := .empty
  operations := .empty
  counters := .empty
  messages := .empty
  policies := .empty
  templatePolicies := .empty
  grants := .empty
  approvalRequests := .empty
  approvalGrants := .empty
  approvalEffects := .empty
  approvalMutations := .empty
  quotas := ⟨.empty, .empty, .empty, .empty, .empty⟩
  artifacts := .empty
  events := []
  ledger := .empty
  recoveries := .empty
  journal := ⟨.empty, .empty, .empty, .empty, .empty, .empty⟩

/-- The part of a transaction that writes: it ends well or is rolled back. -/
abbrev Write := Txn.Write Store StoreError

/-- A transaction body.  A refusal is a failure that is recorded in the ledger (in
the name of a session) and committed with what the body has written. -/
abbrev Call := Txn.Tx Store (SessionId × StoreError) StoreError

end Navigator
