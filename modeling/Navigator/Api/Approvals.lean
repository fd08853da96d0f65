/-
The commands of the approval store.

They share a context, a session and an epoch, and differ in their `ApprovalInput`;
their digest covers all of it, the request identity included.
-/
import Navigator.Api.Commands

namespace Navigator

inductive ApprovalAction where
  | request | approve | deny | expire | revoke | consume | finishEffect
deriving DecidableEq

def ApprovalAction.asStr : ApprovalAction → String
  | request => "approval.request"
  | approve => "approval.approve"
  | deny => "approval.deny"
  | expire => "approval.expire"
  | revoke => "approval.revoke"
  | consume => "approval.consume"
  | finishEffect => "approval.effect.finish"

/-- A command of the approval store. -/
structure ApprovalCommand where
  context : RequestContext
  sessionId : SessionId
  ownerEpoch : FencingEpoch
  action : ApprovalAction
  input : ApprovalInput

/-- The digest of a command. -/
def ApprovalCommand.digest (env : Env) (c : ApprovalCommand) : Digest :=
  env.semanticDigest c.action.asStr
    (env.json (.approval c.context c.sessionId c.ownerEpoch c.input))

structure RequestApproval where
  context : RequestContext
  sessionId : SessionId
  ownerEpoch : FencingEpoch
  approvalId : ApprovalRequestId
  requesterId : ParticipantId
  operationId : OperationId
  sourceMessageId : MessageId
  sourceDeliveryAttemptId : DeliveryAttemptId
  capability : Capability
  resource : ApprovalResource
  summary : ApprovalSummary
  expiresAt : Timestamp

def RequestApproval.command (c : RequestApproval) : ApprovalCommand :=
  ⟨c.context, c.sessionId, c.ownerEpoch, .request,
    .request c.approvalId c.requesterId c.operationId c.sourceMessageId
      c.sourceDeliveryAttemptId c.capability c.resource c.summary c.expiresAt⟩

structure ApproveRequest where
  context : RequestContext
  sessionId : SessionId
  ownerEpoch : FencingEpoch
  approvalId : ApprovalRequestId
  expectedRevision : Revision
  grantId : GrantId
  grantExpiresAt : Timestamp
  maxUses : ℕ

def ApproveRequest.command (c : ApproveRequest) : ApprovalCommand :=
  ⟨c.context, c.sessionId, c.ownerEpoch, .approve,
    .approve c.approvalId c.expectedRevision c.grantId c.grantExpiresAt c.maxUses⟩

structure DenyRequest where
  context : RequestContext
  sessionId : SessionId
  ownerEpoch : FencingEpoch
  approvalId : ApprovalRequestId
  expectedRevision : Revision

structure ExpireApproval where
  context : RequestContext
  sessionId : SessionId
  ownerEpoch : FencingEpoch
  approvalId : ApprovalRequestId
  expectedRevision : Revision

structure RevokeApprovalGrant where
  context : RequestContext
  sessionId : SessionId
  ownerEpoch : FencingEpoch
  grantId : GrantId
  expectedRevision : Revision

def RevokeApprovalGrant.command (c : RevokeApprovalGrant) : ApprovalCommand :=
  ⟨c.context, c.sessionId, c.ownerEpoch, .revoke, .revoke c.grantId c.expectedRevision⟩

structure ConsumeApprovalGrant where
  context : RequestContext
  sessionId : SessionId
  ownerEpoch : FencingEpoch
  grantId : GrantId
  expectedRevision : Revision
  effectId : RequestId
  subjectId : ParticipantId
  operationId : OperationId
  capability : Capability
  resourceHash : Digest

def ConsumeApprovalGrant.command (c : ConsumeApprovalGrant) : ApprovalCommand :=
  ⟨c.context, c.sessionId, c.ownerEpoch, .consume,
    .consume c.grantId c.expectedRevision c.effectId c.subjectId c.operationId c.capability
      c.resourceHash⟩

structure FinishApprovalEffect where
  context : RequestContext
  sessionId : SessionId
  ownerEpoch : FencingEpoch
  effectId : RequestId
  expectedRevision : Revision
  phase : TerminalApprovalEffectPhase

def FinishApprovalEffect.command (c : FinishApprovalEffect) : ApprovalCommand :=
  ⟨c.context, c.sessionId, c.ownerEpoch, .finishEffect,
    .finish c.effectId c.expectedRevision c.phase⟩

end Navigator
