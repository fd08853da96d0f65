/-
Messages and their delivery.

A message travels through one mailbox, that of its destination.  Its snapshot says
where it stands: queued, waiting for a retry, leased to a host that is delivering
it, waiting for the driver's acceptance, or finished in one of three ways.
`MessageSnapshot.IsStructurallyValid` is what a stored snapshot is checked for
every time it is read back.
-/
import Navigator.Domain.Values

namespace Navigator

/-- A SHA-256 value. -/
abbrev Digest := BitVec 256

/-- A bounded lowercase identifier, such as `message.outcome`. -/
structure Capability where
  asStr : String
deriving DecidableEq

/-- A text that is not empty and has at most `max` bytes. -/
structure BoundedText (max : ℕ) where
  asStr : String
  bounded : asStr ≠ "" ∧ asStr.utf8ByteSize ≤ max
deriving DecidableEq

/-! ### Envelopes -/

inductive MessageKind where
  | operationInput | question | operationOutcome | correlatedFeedback | control
  | approvalDecision
deriving DecidableEq

inductive ControlMessageKind where
  | cancel | reminder
deriving DecidableEq

inductive FeedbackKind where
  | acknowledged | rejected
deriving DecidableEq

inductive PublicOperationOutcome where
  | succeeded | failed | cancelled | blocked | uncertain
deriving DecidableEq

inductive ApprovalStatus where
  | pending | granted | consumed | denied | expired | revoked
deriving DecidableEq

inductive MessageBody where
  | operationInput (operationId : OperationId) (inputDigest : Digest)
  | correlatedFeedback (operationId : OperationId) (inReplyTo : MessageId) (feedback : FeedbackKind)
  | question (operationId : OperationId) (code : Capability)
  | operationOutcome (operationId : OperationId) (outcome : PublicOperationOutcome)
      (resultDigest : Digest)
  | control (operationId : OperationId) (command : ControlMessageKind)
  | approvalDecision (approvalId : ApprovalRequestId) (operationId : OperationId)
      (status : ApprovalStatus) (grantId : Option GrantId)
deriving DecidableEq

/-- A body in schema version 1, the only one there is. -/
structure ValidatedMessageEnvelope where
  body : MessageBody
deriving DecidableEq

def ValidatedMessageEnvelope.kind (e : ValidatedMessageEnvelope) : MessageKind :=
  match e.body with
  | .operationInput .. => .operationInput
  | .correlatedFeedback .. => .correlatedFeedback
  | .question .. => .question
  | .operationOutcome .. => .operationOutcome
  | .control .. => .control
  | .approvalDecision .. => .approvalDecision

/-! ### Delivery -/

inductive MessagePriority where
  | control | ordinary
deriving DecidableEq

/-- The number the priority column holds: control messages go first. -/
def MessagePriority.rank : MessagePriority → ℕ
  | .control => 0
  | .ordinary => 1

def priorityFor : MessageKind → MessagePriority
  | .operationInput | .question => .ordinary
  | .operationOutcome | .correlatedFeedback | .control | .approvalDecision => .control

structure MessageCorrelation where
  operationId : Option OperationId
  inReplyTo : Option MessageId
deriving DecidableEq

structure DeliveryLease where
  attemptId : DeliveryAttemptId
  owner : HostId
  ownershipEpoch : FencingEpoch
  driverOwnershipEpoch : FencingEpoch
  driverLaunchAttemptId : LaunchAttemptId
  instanceId : InstanceId
  expiresAt : Timestamp
deriving DecidableEq

def maxDeliveryReasonBytes : ℕ := 1024

inductive MessageDeliveryState where
  | queued
  | retryScheduled (notBefore : Timestamp)
  | leased (lease : DeliveryLease)
  | acceptancePending (lease : DeliveryLease)
  | acceptanceUnknown (lease : DeliveryLease)
  | accepted (attemptId : DeliveryAttemptId) (proofDigest : Digest) (acceptedAt : Timestamp)
  | uncertain (attemptId : DeliveryAttemptId) (reason : BoundedText maxDeliveryReasonBytes)
  | deadLetter (reason : BoundedText maxDeliveryReasonBytes)
deriving DecidableEq

namespace MessageDeliveryState

def isTerminal : MessageDeliveryState → Bool
  | accepted .. | uncertain .. | deadLetter .. => true
  | _ => false

/-- The lease under which the driver was asked to accept the message. -/
def acceptanceLease? : MessageDeliveryState → Option DeliveryLease
  | acceptancePending lease | acceptanceUnknown lease => some lease
  | _ => none

/-- The lease of a delivery that has begun and is not finished. -/
def lease? : MessageDeliveryState → Option DeliveryLease
  | leased lease | acceptancePending lease | acceptanceUnknown lease => some lease
  | _ => none

end MessageDeliveryState

def maxDeliveryAttempts : ℕ := 32

structure MessageSnapshot where
  sessionId : SessionId
  messageId : MessageId
  source : ParticipantId
  destination : ParticipantId
  mailboxSequence : ℕ
  priority : MessagePriority
  correlation : MessageCorrelation
  envelope : ValidatedMessageEnvelope
  attemptCount : ℕ
  state : MessageDeliveryState
  revision : Revision
  createdAt : Timestamp
  updatedAt : Timestamp
deriving DecidableEq

namespace MessageSnapshot

/-- What the delivery state of a snapshot says about its counters and times. -/
def stateValid (m : MessageSnapshot) : Bool :=
  match m.state with
  | .queued => m.attemptCount = 0
  | .retryScheduled notBefore => 0 < m.attemptCount ∧ m.updatedAt ≤ notBefore
  | .leased lease | .acceptancePending lease | .acceptanceUnknown lease =>
    0 < m.attemptCount ∧ m.updatedAt < lease.expiresAt
  | .accepted _ _ acceptedAt => 0 < m.attemptCount ∧ acceptedAt = m.updatedAt
  | .uncertain .. => 0 < m.attemptCount
  | .deadLetter _ => true

/-- `is_structurally_valid`. -/
@[mk_iff] structure IsStructurallyValid (m : MessageSnapshot) : Prop where
  sequence : m.mailboxSequence ≠ 0
  attempts : m.attemptCount ≤ maxDeliveryAttempts
  times : m.createdAt ≤ m.updatedAt
  priority : m.priority = priorityFor m.envelope.kind
  state : m.stateValid

instance (m : MessageSnapshot) : Decidable m.IsStructurallyValid :=
  decidable_of_iff' _ m.isStructurallyValid_iff

end MessageSnapshot

end Navigator
