/-
Requests, their digests and their failures.

Every mutation names a request identity, a caller and an action, and carries a
semantic digest: SHA-256 over the action's name and a canonical encoding of what
the mutation asks for.  What the store takes from elsewhere (the hash, the JSON
texts that are hashed or measured, the validation of templates, the configured
limits) is collected in `Env`.
-/
import Navigator.Domain.Event

namespace Navigator

inductive StoreAction where
  | openSession | closeSession | acquireOwnership | renewOwnership | releaseOwnership
  | prepareLaunch | attachLaunch | transitionLaunch
  | createRootParticipant | createChildParticipant
  | startOperation | transitionOperation
  | enqueueMessage | leaseNextMessage | transitionMessageDelivery
  | putAuthorityPolicy | issueGrant | revokeGrant | checkAuthorityEffect
  | createAuthorizedChild | applyHierarchyEffect | cancelSubtree
  | registerAuthorityTemplatePolicy
  | publishArtifact | deleteArtifact | eraseArtifact
  | registerTool | connectToolProvider
  | reserveEffect | startEffect | resolveEffect | takeoverEffect | resolveAuthorizedEffect
  | reserveToolInvocation | transitionToolInvocation
deriving DecidableEq

def StoreAction.asStr : StoreAction → String
  | openSession => "session.open"
  | closeSession => "session.close"
  | acquireOwnership => "ownership.acquire"
  | renewOwnership => "ownership.renew"
  | releaseOwnership => "ownership.release"
  | prepareLaunch => "instance.prepare_launch"
  | attachLaunch => "instance.attach_launch"
  | transitionLaunch => "instance.transition_launch"
  | createRootParticipant => "participant.create_root"
  | createChildParticipant => "participant.create_child"
  | startOperation => "operation.start"
  | transitionOperation => "operation.transition"
  | enqueueMessage => "message.enqueue"
  | leaseNextMessage => "message.lease_next"
  | transitionMessageDelivery => "message.transition_delivery"
  | putAuthorityPolicy => "authority.put_policy"
  | issueGrant => "authority.issue_grant"
  | revokeGrant => "authority.revoke_grant"
  | checkAuthorityEffect => "authority.check_effect"
  | createAuthorizedChild => "authority.create_child"
  | applyHierarchyEffect => "hierarchy.apply_effect"
  | cancelSubtree => "operation.cancel_subtree"
  | registerAuthorityTemplatePolicy => "authority.register_template_policy"
  | publishArtifact => "artifact.publish"
  | deleteArtifact => "artifact.delete"
  | eraseArtifact => "artifact.erase"
  | registerTool => "tool.register"
  | connectToolProvider => "tool.provider.connect"
  | reserveEffect => "effect.reserve"
  | startEffect => "effect.start"
  | resolveEffect => "effect.resolve"
  | takeoverEffect => "effect.takeover"
  | resolveAuthorizedEffect => "effect.resolve_authorized"
  | reserveToolInvocation => "tool.invoke.reserve"
  | transitionToolInvocation => "tool.invoke.transition"

/-- Who asks, and under which request identity. -/
structure RequestContext where
  requestId : RequestId
  caller : HostId
deriving DecidableEq

/-! ### Failures -/

inductive CapacityResource where
  | participants | activeOperations | queuedOperations | messages | messageBytes
  | artifacts | artifactBytes | pendingRequests | subscriptions | retries | retainedEvents
deriving DecidableEq

inductive CapacityReason where
  | sessionLimit (resource : CapacityResource)
  | globalLimit (resource : CapacityResource)
deriving DecidableEq

inductive StoreError where
  | sessionNotFound (sessionId : SessionId)
  | templateNotFound (templateId : TemplateId)
  | participantNotFound (participantId : ParticipantId)
  | rootParticipantNotFound (sessionId : SessionId)
  | operationNotFound (operationId : OperationId)
  | messageNotFound (messageId : MessageId)
  | artifactNotFound (artifactId : ArtifactId)
  | launchNotFound (attemptId : LaunchAttemptId)
  | messageOversize
  | mailboxQuotaExceeded
  | capacityExceeded (reason : CapacityReason)
  | sessionClosed (sessionId : SessionId)
  | alreadyClosed (sessionId : SessionId)
  | compatibilityConflict (sessionId : SessionId) (persisted requested : CompatibilityIdentity)
  | interruptedSession (sessionId : SessionId)
  | consumerConflict (sessionId : SessionId) (persisted requested : ConsumerKey)
  | requestConflict (requestId : RequestId)
  | ownershipHeld (ownership : OwnershipSnapshot)
  | ownershipExpired (sessionId : SessionId) (epoch : FencingEpoch)
  | staleOwnership (sessionId : SessionId) (attempted : FencingEpoch)
      (current : Option FencingEpoch)
  | leaseTooLong
  | schemaTooNew (found supported : ℕ)
  | corrupt
  | busy
  | invalid
  | projectionStale
  | unavailable
deriving DecidableEq

/-- A mutation's success: it took effect, it had been done before under the same
request, or there was nothing to do. -/
inductive Mutation (α : Type) where
  | applied (value : α)
  | replayed (value : α)
  | unchanged (value : α)
deriving DecidableEq

def Mutation.value {α : Type} : Mutation α → α
  | applied v | replayed v | unchanged v => v

def Mutation.map {α β : Type} (f : α → β) : Mutation α → Mutation β
  | applied v => .applied (f v)
  | replayed v => .replayed (f v)
  | unchanged v => .unchanged (f v)

/-! ### What the store takes from elsewhere -/

structure AuthorityTemplatePolicy where
  templateId : TemplateId
  allowedParentTemplates : List TemplateId
  template : AuthorityProfile
  relationship : AuthorityProfile
  subject : AuthorityProfile
deriving DecidableEq

structure AuthorityPolicySnapshot where
  sessionId : SessionId
  participantId : ParticipantId
  session : AuthorityProfile
  parent : AuthorityProfile
  template : AuthorityProfile
  relationship : AuthorityProfile
  subject : AuthorityProfile
deriving DecidableEq

/-- What the commands of the approval store say, beyond who speaks for which session. -/
inductive ApprovalInput where
  | request (approvalId : ApprovalRequestId) (requesterId : ParticipantId)
      (operationId : OperationId) (sourceMessageId : MessageId)
      (sourceDeliveryAttemptId : DeliveryAttemptId) (capability : Capability)
      (resource : ApprovalResource) (summary : ApprovalSummary) (expiresAt : Timestamp)
  | approve (approvalId : ApprovalRequestId) (expectedRevision : Revision)
      (grantId : GrantId) (grantExpiresAt : Timestamp) (maxUses : ℕ)
  | decide (approvalId : ApprovalRequestId) (expectedRevision : Revision)
  | revoke (grantId : GrantId) (expectedRevision : Revision)
  | consume (grantId : GrantId) (expectedRevision : Revision) (effectId : RequestId)
      (subjectId : ParticipantId) (operationId : OperationId) (capability : Capability)
      (resourceHash : Digest)
  | finish (effectId : RequestId) (expectedRevision : Revision)
      (phase : TerminalApprovalEffectPhase)

/-- The values of which the JSON text is hashed or measured. -/
inductive JsonValue where
  | approval (context : RequestContext) (sessionId : SessionId) (ownerEpoch : FencingEpoch)
      (input : ApprovalInput)
  | envelope (body : MessageBody)
  | message (snapshot : MessageSnapshot)
  | terminalOutcome (outcome : OperationTerminalOutcome)
  | policy (policy : AuthorityPolicySnapshot)
  | templatePolicy (policy : AuthorityTemplatePolicy)
  | grant (grant : Grant) (singleUse : Bool)
  | event (data : EventData)
  | classifications (classifications : List RecoveryEventClassification)
  | effect (participantId : ParticipantId) (requested : ScopedCapability) (grantId : Option GrantId)
  | authorizedChild (parentParticipantId : ParticipantId) (templateId : TemplateId)
      (expectedCompatibility : CompatibilityIdentity) (requested : ScopedCapability)
      (grantId : Option GrantId) (input : List UInt8)
  | resolution (sessionId : SessionId) (participantId : ParticipantId) (grantId : GrantId)
      (effectRequestId : RequestId) (decision : ResolveUncertaintyDecision)
      (toolTerminal : Option ToolTerminal)
  | toolDefinition (definition : ToolDefinition)
  | toolInvocation (invocation : ToolInvocation)
  | toolTransition (transition : ToolTransition)
  | toolResult (result : ToolResult)
  | toolFailure (failure : ToolFailure)

/-- How much of a resource one session, and all sessions together, may use. -/
structure ResourceLimit where
  perSession : ℕ
  global : ℕ
deriving DecidableEq

/-- `LimitProfile::hard_ceiling`. -/
def hardCeiling : CapacityResource → ResourceLimit
  | .participants | .activeOperations => ⟨4096, 65536⟩
  | .queuedOperations | .artifacts | .pendingRequests | .retries => ⟨65536, 1048576⟩
  | .messages => ⟨262144, 4194304⟩
  | .messageBytes => ⟨2 ^ 34, 2 ^ 38⟩
  | .artifactBytes => ⟨2 ^ 40, 2 ^ 44⟩
  | .subscriptions => ⟨1024, 16384⟩
  | .retainedEvents => ⟨4194304, 67108864⟩

/-- What `LimitProfile::new` asks of a limit. -/
structure ResourceLimit.Valid (limit ceiling : ResourceLimit) : Prop where
  pos : 0 < limit.perSession
  ordered : limit.perSession ≤ limit.global
  session : limit.perSession ≤ ceiling.perSession
  total : limit.global ≤ ceiling.global

/-- The configured limits. -/
structure LimitProfile where
  get : CapacityResource → ResourceLimit
  valid : ∀ r, (get r).Valid (hardCeiling r)

instance : CoeFun LimitProfile fun _ => CapacityResource → ResourceLimit := ⟨LimitProfile.get⟩

/-- The store's surroundings: third-party functions and the configuration. -/
structure Env where
  sha256 : List UInt8 → Digest
  json : JsonValue → List UInt8
  templateValid : TemplateRecord → Bool
  /-- A template's input schema: the canonical form of an acceptable input. -/
  validateInput : TemplateRecord → List UInt8 → Option (List UInt8)
  /-- A tool's input and output schemas: whether a document conforms. -/
  toolInputValid : ToolDefinition → CanonicalJson maxToolInlineBytes → Bool
  toolOutputValid : ToolDefinition → CanonicalJson maxToolInlineBytes → Bool
  maxLeaseMillis : ℕ
  limits : LimitProfile

namespace Env

/-- What is hashed for an action and its input. -/
def semanticInput (action : String) (input : List UInt8) : List UInt8 :=
  Bytes.utf8 "navigator.semantic-input.v1" ++ [0] ++ Bytes.utf8 action ++ [0] ++ input

/-- `SemanticDigest::v1`. -/
def semanticDigest (env : Env) (action : String) (input : List UInt8) : Digest :=
  env.sha256 (semanticInput action input)

/-- A UUID from the first half of a digest, marked as version 4. -/
def uuidOfDigest (d : Digest) : BitVec 128 :=
  let half : BitVec 128 := d.extractLsb' 128 128
  (half &&& 0xffffffffffff0fff3fffffffffffffff#128) ||| 0x00000000000040008000000000000000#128

/-- The version is never nil. -/
theorem uuidOfDigest_ne_zero (d : Digest) : uuidOfDigest d ≠ 0 := by
  intro h
  have hbit := congrArg (fun b : BitVec 128 => b.getLsbD 63) h
  simp [uuidOfDigest] at hbit

/-- The length of an envelope's text. -/
def envelopeSize (env : Env) (e : ValidatedMessageEnvelope) : ℕ :=
  (env.json (.envelope e.body)).length

end Env

/-- A command that changes the store: its request, its action, and the canonical
encoding of what it asks for. -/
class MutableRequest (χ : Type) where
  context : χ → RequestContext
  action : χ → StoreAction
  canonicalInput : Env → χ → List UInt8

/-- What is hashed for a command. -/
def MutableRequest.hashed {χ : Type} [MutableRequest χ] (env : Env) (c : χ) : List UInt8 :=
  Env.semanticInput (action c).asStr (canonicalInput env c)

/-- The semantic digest of a command. -/
def MutableRequest.digest {χ : Type} [MutableRequest χ] (env : Env) (c : χ) : Digest :=
  env.sha256 (hashed env c)

/-! ### Canonical inputs -/

/-- Eight bytes of a number. -/
def CanonicalInput.u64 (n : ℕ) : List UInt8 := Bytes.bigEndian 8 n

/-- Thirty-two bytes of a digest. -/
def CanonicalInput.fixed (d : Digest) : List UInt8 := Bytes.bigEndian 32 d.toNat

/-- A point in time: its seconds in two's complement, then the nanoseconds past them. -/
def CanonicalInput.timestamp (t : Timestamp) : List UInt8 :=
  Bytes.bigEndian 8 (t.nanos / 1000000000 % (2 : ℤ) ^ 64).toNat ++ u64 (t.nanos % 1000000000).toNat

/-- A byte string after its length. -/
def CanonicalInput.bytes (bs : List UInt8) : List UInt8 := Bytes.prefixed bs

/-- A text after its length. -/
def CanonicalInput.text (s : String) : List UInt8 := Bytes.prefixed (Bytes.utf8 s)

end Navigator
