/-
Sessions, their templates and the events they publish.
-/
import Navigator.Domain.Hierarchy

namespace Navigator

/-- The name under which a consumer opens a session. -/
abbrev ConsumerKey := BoundedText 256

inductive SessionStatus where
  | open | closed
deriving DecidableEq

/-- A session as callers see it. -/
structure SessionSnapshot where
  id : SessionId
  consumerKey : ConsumerKey
  compatibility : CompatibilityIdentity
  status : SessionStatus
  revision : Revision
  createdAt : Timestamp
  updatedAt : Timestamp
  ordered : createdAt ≤ updatedAt
  closedRevised : status = .closed → revision ≠ .initial
deriving DecidableEq

/-- Closing a session: later than its last change, and under a new revision. -/
def SessionSnapshot.close (s : SessionSnapshot) (at_ : Timestamp) : Option SessionSnapshot :=
  if h : s.status = .open ∧ s.updatedAt ≤ at_ then
    match hr : s.revision.next with
    | none => none
    | some revision =>
      some { s with
        status := .closed
        revision := revision
        updatedAt := at_
        ordered := le_trans s.ordered h.2
        closedRevised := fun _ heq => by
          have hget := Revision.next_get hr
          have hpos := s.revision.pos
          rw [heq] at hget
          simp only [Revision.initial] at hget
          omega }
  else none

theorem SessionSnapshot.close_revised {s s' : SessionSnapshot} {at_ : Timestamp}
    (h : s.close at_ = some s') : s'.revision ≠ .initial := by
  refine s'.closedRevised ?_
  unfold close at h
  split at h
  · split at h
    · cases h
    · cases h
      rfl
  · cases h

inductive OwnershipSnapshot where
  | unowned
  | owned (hostId : HostId) (epoch : FencingEpoch) (expiresAt : Timestamp)
deriving DecidableEq

/-- A host's hold on a session, until it expires. -/
structure OwnershipLease where
  sessionId : SessionId
  owner : HostId
  epoch : FencingEpoch
  expiresAt : Timestamp
deriving DecidableEq

def OwnershipLease.isEffectiveAt (l : OwnershipLease) (observedAt : Timestamp) : Bool :=
  observedAt < l.expiresAt

def OwnershipLease.snapshot (l : OwnershipLease) : OwnershipSnapshot :=
  .owned l.owner l.epoch l.expiresAt

/-! ### Templates -/

structure TemplateCompatibilityBinding where
  templateId : TemplateId
  compatibility : CompatibilityIdentity
deriving DecidableEq

def maxSessionTemplates : ℕ := 128

/-- The templates a session is opened for, in the order of their identities. -/
structure SessionCompatibilityManifest where
  configurationIdentity : CompatibilityIdentity
  templates : List TemplateCompatibilityBinding
  sorted : templates.Pairwise fun a b => a.templateId.uuid < b.templateId.uuid
  sized : templates ≠ [] ∧ templates.length ≤ maxSessionTemplates
deriving DecidableEq

/-- A registered template.  Its role, trusted configuration, resource bounds and
input schema are only ever compared and validated as a whole: `content`. -/
structure TemplateRecord where
  identity : TemplateId
  driverId : DriverId
  authority : AuthorityProfile
  content : List UInt8
  compatibility : CompatibilityIdentity
deriving DecidableEq

/-! ### Events -/

def OperationState.asStr : OperationState → String
  | queued => "queued"
  | starting => "starting"
  | running => "running"
  | waiting => "waiting"
  | cancelling => "cancelling"
  | succeeded => "succeeded"
  | failed => "failed"
  | cancelled => "cancelled"
  | blocked => "blocked"
  | uncertain => "uncertain"

/-- The kinds of event a session publishes. -/
inductive EventType where
  | sessionCreated | sessionClosed | ownershipAcquired | ownershipReleased
  | participantCreated
  | operation (state : OperationState)
  | operationResumed
  | messageEnqueued | messageRetryScheduled | messageLeased | messageAcceptancePending
  | messageAcceptanceUnknown | messageAccepted | messageUncertain | messageDeadLettered
  | authorityAllowed | authorityDenied | authorityPolicyApplied | authorityGrantIssued
  | authorityGrantRevoked
  | approvalRequested | approvalGranted | approvalDenied | approvalExpired | approvalRevoked
  | approvalConsumed | approvalEffectFinished
  | artifactPublished | artifactLogicallyDeleted | artifactPhysicallyErased
  | toolRegistered | toolProviderConnected
  | toolInvocationReserved | toolInvocationStarted | toolInvocationCompleted
  | toolInvocationFailed | toolInvocationUncertain | toolInvocationCancelRequested
  | effectUncertaintyResolved
  | recoveryClassified
deriving DecidableEq

def EventType.asStr : EventType → String
  | sessionCreated => "session.created"
  | sessionClosed => "session.closed"
  | ownershipAcquired => "ownership.acquired"
  | ownershipReleased => "ownership.released"
  | participantCreated => "participant.created"
  | operation state => "operation." ++ state.asStr
  | operationResumed => "operation.resumed"
  | messageEnqueued => "message.enqueued"
  | messageRetryScheduled => "message.retry_scheduled"
  | messageLeased => "message.leased"
  | messageAcceptancePending => "message.acceptance_pending"
  | messageAcceptanceUnknown => "message.acceptance_unknown"
  | messageAccepted => "message.accepted"
  | messageUncertain => "message.uncertain"
  | messageDeadLettered => "message.dead_lettered"
  | authorityAllowed => "authority.allowed"
  | authorityDenied => "authority.denied"
  | authorityPolicyApplied => "authority.policy_applied"
  | authorityGrantIssued => "authority.grant_issued"
  | authorityGrantRevoked => "authority.grant_revoked"
  | approvalRequested => "approval.requested"
  | approvalGranted => "approval.granted"
  | approvalDenied => "approval.denied"
  | approvalExpired => "approval.expired"
  | approvalRevoked => "approval.revoked"
  | approvalConsumed => "approval.consumed"
  | approvalEffectFinished => "approval.effect.finished"
  | artifactPublished => "artifact.published"
  | artifactLogicallyDeleted => "artifact.logically_deleted"
  | artifactPhysicallyErased => "artifact.physically_erased"
  | toolRegistered => "tool.registered"
  | toolProviderConnected => "tool.provider_connected"
  | toolInvocationReserved => "tool.invocation_reserved"
  | toolInvocationStarted => "tool.invocation_started"
  | toolInvocationCompleted => "tool.invocation_completed"
  | toolInvocationFailed => "tool.invocation_failed"
  | toolInvocationUncertain => "tool.invocation_uncertain"
  | toolInvocationCancelRequested => "tool.invocation_cancel_requested"
  | effectUncertaintyResolved => "effect.uncertainty_resolved"
  | recoveryClassified => "recovery.classified"

/-- The event a message's delivery state is announced by. -/
def MessageDeliveryState.eventType : MessageDeliveryState → EventType
  | queued => .messageEnqueued
  | retryScheduled _ => .messageRetryScheduled
  | leased _ => .messageLeased
  | acceptancePending _ => .messageAcceptancePending
  | acceptanceUnknown _ => .messageAcceptanceUnknown
  | accepted .. => .messageAccepted
  | uncertain .. => .messageUncertain
  | deadLetter _ => .messageDeadLettered

end Navigator
