/-
Approvals.

A participant asks for leave to use a capability on a resource; a trusted consumer
grants or denies it; a grant is used a number of times, each use being an effect
that is first reserved and then finished.  Each record carries the checks of its
`validate` as a predicate that every stored value has passed.
-/
import Navigator.Domain.Hierarchy

namespace Navigator

/-- A canonical JSON object. -/
structure ApprovalResource where
  bytes : List UInt8
deriving DecidableEq

/-- A line of text for people to read. -/
structure ApprovalSummary where
  asStr : String
deriving DecidableEq

inductive ApprovalDecisionSource where
  | trustedConsumer
deriving DecidableEq

def maxApprovalUses : ℕ := 1024

structure ApprovalRequest where
  id : ApprovalRequestId
  sessionId : SessionId
  requesterId : ParticipantId
  operationId : OperationId
  sourceMessageId : MessageId
  sourceDeliveryAttemptId : DeliveryAttemptId
  coordinatorId : ParticipantId
  capability : Capability
  resource : ApprovalResource
  summary : ApprovalSummary
  status : ApprovalStatus
  expiresAt : Timestamp
  grantId : Option GrantId
  decisionSource : Option ApprovalDecisionSource
  createdAt : Timestamp
  decidedAt : Option Timestamp
  revision : Revision
deriving DecidableEq

/-- `ApprovalRequest::validate`. -/
def ApprovalRequest.isValid (r : ApprovalRequest) : Bool :=
  (match r.status with
    | .pending | .expired => r.grantId.isNone && r.decisionSource.isNone && r.decidedAt.isNone
    | .denied => r.grantId.isNone && r.decisionSource.isSome && r.decidedAt.isSome
    | .granted | .consumed | .revoked =>
      r.grantId.isSome && r.decisionSource.isSome && r.decidedAt.isSome) &&
    r.createdAt < r.expiresAt && r.decidedAt.all fun t => r.createdAt ≤ t && t < r.expiresAt

structure ApprovalGrant where
  id : GrantId
  requestId : ApprovalRequestId
  sessionId : SessionId
  subjectId : ParticipantId
  operationId : OperationId
  capability : Capability
  resourceHash : Digest
  issuedBy : ApprovalDecisionSource
  maxUses : ℕ
  usedCount : ℕ
  expiresAt : Timestamp
  revokedAt : Option Timestamp
  createdAt : Timestamp
  revision : Revision
deriving DecidableEq

namespace ApprovalGrant

/-- `ApprovalGrant::validate`. -/
def isValid (g : ApprovalGrant) : Bool :=
  0 < g.maxUses && g.maxUses ≤ maxApprovalUses && g.usedCount ≤ g.maxUses &&
    g.createdAt < g.expiresAt && g.revokedAt.all fun t => g.createdAt ≤ t

def isUsableAt (g : ApprovalGrant) (now : Timestamp) : Bool :=
  g.revokedAt.isNone && now < g.expiresAt && g.usedCount < g.maxUses && 0 < g.maxUses &&
    g.maxUses ≤ maxApprovalUses

/-- Whether a grant is the one a request was given. -/
def isOf (g : ApprovalGrant) (r : ApprovalRequest) (resourceHash : Digest) : Bool :=
  g.requestId = r.id && r.grantId = some g.id && r.requesterId = g.subjectId &&
    r.operationId = g.operationId && r.capability = g.capability &&
    resourceHash = g.resourceHash

end ApprovalGrant

inductive ApprovalEffectPhase where
  | reserved | succeeded | failed | uncertain
deriving DecidableEq

inductive TerminalApprovalEffectPhase where
  | succeeded | failed | uncertain
deriving DecidableEq

def TerminalApprovalEffectPhase.phase : TerminalApprovalEffectPhase → ApprovalEffectPhase
  | succeeded => .succeeded
  | failed => .failed
  | uncertain => .uncertain

structure ApprovalEffectIntent where
  effectId : RequestId
  sessionId : SessionId
  grantId : GrantId
  subjectId : ParticipantId
  operationId : OperationId
  capability : Capability
  resourceHash : Digest
  phase : ApprovalEffectPhase
  createdAt : Timestamp
  finishedAt : Option Timestamp
  revision : Revision
deriving DecidableEq

/-- `ApprovalEffectIntent::validate`. -/
def ApprovalEffectIntent.isValid (e : ApprovalEffectIntent) : Bool :=
  (decide (e.phase = .reserved) == e.finishedAt.isNone) && e.finishedAt.all fun t => e.createdAt ≤ t

end Navigator
