/-
Events.

What happens to a session is published as a sequence of events, each with data of its
own kind.  The data are bounded: a reader is not given more than `maxEventDataBytes` of
them at a time.
-/
import Navigator.Domain.Approval
import Navigator.Domain.Tool

namespace Navigator

/-- What an approval mutation returns, and what its event is about. -/
inductive ApprovalResult where
  | request (request : ApprovalRequest)
  | approved (request : ApprovalRequest) (grant : ApprovalGrant)
  | grant (grant : ApprovalGrant)
  | consumed (grant : ApprovalGrant) (effect : ApprovalEffectIntent)
  | effect (effect : ApprovalEffectIntent)
deriving DecidableEq

/-- What is in the data column of an event. -/
inductive EventData where
  | empty
  | session (sessionId : SessionId) (status : SessionStatus) (revision : Revision)
      (createdAt updatedAt : Timestamp)
  | participant (sessionId : Option SessionId) (participantId : ParticipantId)
      (parentParticipantId : Option ParticipantId) (templateId : TemplateId) (depth : ℕ)
      (revision : Revision)
  | operation (sessionId : SessionId) (operationId : OperationId)
      (participantId : ParticipantId) (state : OperationState) (inputMessageId : MessageId)
      (waitingOnMessageId : Option MessageId) (terminalOutcome : Option OperationState)
      (terminalPublicDigest : Option Digest) (revision : Revision)
      (createdAt updatedAt : Timestamp)
  | message (sessionId : SessionId) (messageId : MessageId)
      (source destination : ParticipantId) (mailboxSequence : ℕ)
      (priority : MessagePriority) (correlation : MessageCorrelation) (state : EventType)
      (attemptCount : ℕ) (revision : Revision) (createdAt updatedAt : Timestamp)
  | authority (participantId : ParticipantId)
  | approval (record : ApprovalResult)
  | toolInvocation (invocationId : ToolInvocationId) (requestId : RequestId)
      (participantId : ParticipantId) (operationId : OperationId)
      (registrationId : ToolRegistrationId) (toolName : ToolName) (toolVersion : ToolVersion)
      (phase : ToolInvocationPhase) (revision : Revision) (connectionGeneration : Option ℕ)
      (terminalDigest : Option Digest)
  | effectResolution (effectRequestId : RequestId) (effectSemanticDigest : Digest)
      (operationId : OperationId) (participantId : ParticipantId) (resolution : String)
      (reasonDigest : Digest) (proofKind : Option EffectProofKind) (proofDigest : Option Digest)
      (assertionDigest : Digest)
  | recovery (sessionId : SessionId) (requestId : RequestId) (revision : Revision)
      (classifications : List RecoveryEventClassification)
deriving DecidableEq

end Navigator
