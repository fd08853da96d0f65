/-
The commands of the store and their canonical inputs.

A command's digest covers what the command asks for, not the identities it
proposes for new objects: `LeaseNextMessage` leaves out the proposed delivery
attempt, `StartOperation` the operation it would create, and so on.
-/
import Navigator.Api.Request

namespace Navigator

open CanonicalInput

/-! ### Sessions and ownership -/

inductive SessionOpenMode where
  | exact | open | resume | reset
deriving DecidableEq

def SessionOpenMode.code : SessionOpenMode → UInt8
  | exact => 0
  | .open => 1
  | resume => 2
  | reset => 3

structure OpenSession where
  context : RequestContext
  sessionId : SessionId
  consumerKey : ConsumerKey
  compatibility : CompatibilityIdentity
  manifest : Option SessionCompatibilityManifest
  mode : SessionOpenMode

/-- A template and its compatibility, as every digest lists them. -/
def bindingInput (templateId : TemplateId) (compatibility : CompatibilityIdentity) :
    List UInt8 :=
  templateId.bytes ++ fixed compatibility

def manifestInput : Option SessionCompatibilityManifest → List UInt8
  | none => [0]
  | some m => 1 :: (fixed m.configurationIdentity ++ u64 m.templates.length ++
      m.templates.flatMap fun b => bindingInput b.templateId b.compatibility)

/-- The session is only part of what an exact open asks for. -/
def OpenSession.sessionInput (c : OpenSession) : List UInt8 :=
  if c.mode = .exact then c.sessionId.bytes else []

instance : MutableRequest OpenSession where
  context := OpenSession.context
  action _ := .openSession
  canonicalInput _ c :=
    c.sessionInput ++ text c.consumerKey.asStr ++ fixed c.compatibility ++ [c.mode.code] ++
      manifestInput c.manifest

/-- Whether `templates` are the ones a session is opened for. -/
def OpenSession.IsFor (c : OpenSession) (templates : List TemplateRecord) : Prop :=
  match c.manifest with
  | some m => m.templates = templates.map fun t => ⟨t.identity, t.compatibility⟩
  | none => templates.map TemplateRecord.compatibility = [c.compatibility]

/-- Register templates and open a session for exactly these. -/
structure RegisterTemplatesAndOpenSession where
  openSession : OpenSession
  templates : List TemplateRecord
  sorted : templates.Pairwise fun a b => a.identity.uuid < b.identity.uuid
  exact : openSession.IsFor templates

instance : MutableRequest RegisterTemplatesAndOpenSession where
  context c := c.openSession.context
  action _ := .openSession
  canonicalInput env c :=
    c.openSession.sessionInput ++ text c.openSession.consumerKey.asStr ++
      fixed c.openSession.compatibility ++ fixed (MutableRequest.digest env c.openSession) ++
      u64 c.templates.length ++
      c.templates.flatMap fun t => bindingInput t.identity t.compatibility

structure CloseSession where
  context : RequestContext
  sessionId : SessionId
  epoch : FencingEpoch

instance : MutableRequest CloseSession where
  context := CloseSession.context
  action _ := .closeSession
  canonicalInput _ c := c.sessionId.bytes ++ u64 c.epoch.get

structure AcquireOwnership where
  context : RequestContext
  sessionId : SessionId
  duration : LeaseDuration

instance : MutableRequest AcquireOwnership where
  context := AcquireOwnership.context
  action _ := .acquireOwnership
  canonicalInput _ c := c.sessionId.bytes ++ u64 c.duration.millis

structure RenewOwnership where
  context : RequestContext
  sessionId : SessionId
  epoch : FencingEpoch
  duration : LeaseDuration

instance : MutableRequest RenewOwnership where
  context := RenewOwnership.context
  action _ := .renewOwnership
  canonicalInput _ c := c.sessionId.bytes ++ u64 c.epoch.get ++ u64 c.duration.millis

structure ReleaseOwnership where
  context : RequestContext
  sessionId : SessionId
  epoch : FencingEpoch

instance : MutableRequest ReleaseOwnership where
  context := ReleaseOwnership.context
  action _ := .releaseOwnership
  canonicalInput _ c := c.sessionId.bytes ++ u64 c.epoch.get

/-! ### Launches -/

structure PrepareLaunch where
  context : RequestContext
  epoch : FencingEpoch
  sessionId : SessionId
  participantId : ParticipantId
  driverId : DriverId
  driverConfigurationDigest : Digest
  attemptId : LaunchAttemptId
  credentialDigest : Digest

instance : MutableRequest PrepareLaunch where
  context := PrepareLaunch.context
  action _ := .prepareLaunch
  canonicalInput _ c :=
    c.sessionId.bytes ++ c.participantId.bytes ++ c.driverId.bytes ++
      fixed c.driverConfigurationDigest ++ c.attemptId.bytes ++ u64 c.epoch.get ++
      fixed c.credentialDigest

structure AttachLaunch where
  context : RequestContext
  sessionId : SessionId
  epoch : FencingEpoch
  attemptId : LaunchAttemptId
  expectedRevision : Revision
  instanceId : InstanceId
  evidence : ProcessEvidence

instance : MutableRequest AttachLaunch where
  context := AttachLaunch.context
  action _ := .attachLaunch
  canonicalInput _ c :=
    c.sessionId.bytes ++ c.attemptId.bytes ++ c.instanceId.bytes ++ u64 c.epoch.get ++
      u64 c.expectedRevision.get ++ u64 c.evidence.processId ++
      u64 c.evidence.processGroupId ++ u64 c.evidence.parentProcessId ++
      u64 c.evidence.creationMarker ++ fixed c.evidence.executableIdentity

structure TransitionLaunch where
  context : RequestContext
  sessionId : SessionId
  epoch : FencingEpoch
  attemptId : LaunchAttemptId
  expectedRevision : Revision
  target : LaunchState
  cleanupReason : Option (BoundedText 1024)

def LaunchState.asStr : LaunchState → String
  | prepared => "prepared"
  | attached => "attached"
  | ready => "ready"
  | stopping => "stopping"
  | stopped => "stopped"
  | cleanupRequired => "cleanup_required"

instance : MutableRequest TransitionLaunch where
  context := TransitionLaunch.context
  action _ := .transitionLaunch
  canonicalInput _ c :=
    c.sessionId.bytes ++ c.attemptId.bytes ++ u64 c.epoch.get ++
      u64 c.expectedRevision.get ++ text c.target.asStr ++
      (c.cleanupReason.map fun r => text r.asStr).getD []

/-! ### Participants and operations -/

structure CreateRootParticipant where
  context : RequestContext
  sessionId : SessionId
  epoch : FencingEpoch
  participantId : ParticipantId
  templateId : TemplateId
  expectedCompatibility : CompatibilityIdentity

instance : MutableRequest CreateRootParticipant where
  context := CreateRootParticipant.context
  action _ := .createRootParticipant
  canonicalInput _ c := c.sessionId.bytes ++ bindingInput c.templateId c.expectedCompatibility

structure CreateChildParticipant where
  context : RequestContext
  sessionId : SessionId
  epoch : FencingEpoch
  participantId : ParticipantId
  parentParticipantId : ParticipantId
  templateId : TemplateId
  expectedCompatibility : CompatibilityIdentity

instance : MutableRequest CreateChildParticipant where
  context := CreateChildParticipant.context
  action _ := .createChildParticipant
  canonicalInput _ c :=
    c.sessionId.bytes ++ c.parentParticipantId.bytes ++
      bindingInput c.templateId c.expectedCompatibility

structure StartOperation where
  context : RequestContext
  sessionId : SessionId
  epoch : FencingEpoch
  operationId : OperationId
  participantId : ParticipantId
  inputMessageId : MessageId
  input : List UInt8

instance : MutableRequest StartOperation where
  context := StartOperation.context
  action _ := .startOperation
  canonicalInput _ c := c.sessionId.bytes ++ c.participantId.bytes ++ bytes c.input

structure TransitionOperation where
  context : RequestContext
  sessionId : SessionId
  epoch : FencingEpoch
  operationId : OperationId
  expectedRevision : Revision
  action : OperationAction
  reportMessageId : Option MessageId
  terminalOutcome : Option OperationTerminalOutcome

def OperationAction.asStr : OperationAction → String
  | beginStart => "begin_start"
  | reportRunning => "report_running"
  | wait => "wait"
  | resume => "resume"
  | requestCancel => "request_cancel"
  | reportSuccess => "report_success"
  | reportFailure => "report_failure"
  | reportCancelled => "report_cancelled"
  | reportBlocked => "report_blocked"
  | reportUncertain => "report_uncertain"
  | observeIdle => "observe_idle"

def OperationTerminalOutcome.canonicalInput : OperationTerminalOutcome → List UInt8
  | succeeded result => text "succeeded" ++ CanonicalInput.bytes result.bytes
  | failed code detail => text "failed" ++ text code.asStr ++ text detail.asStr
  | cancelled => text "cancelled"
  | blocked reason => text "blocked" ++ text reason.asStr
  | uncertain reason => text "uncertain" ++ text reason.asStr

instance : MutableRequest TransitionOperation where
  context := TransitionOperation.context
  action _ := .transitionOperation
  canonicalInput _ c :=
    c.sessionId.bytes ++ c.operationId.bytes ++ u64 c.epoch.get ++
      u64 c.expectedRevision.get ++ text c.action.asStr ++
      (c.reportMessageId.map Id.bytes).getD [] ++
      (c.terminalOutcome.map OperationTerminalOutcome.canonicalInput).getD []

/-! ### Mailboxes -/

structure EnqueueMessage where
  context : RequestContext
  sessionId : SessionId
  epoch : FencingEpoch
  messageId : MessageId
  source : ParticipantId
  destination : ParticipantId
  correlation : MessageCorrelation
  envelope : ValidatedMessageEnvelope

/-- An optional identity, tagged with whether it is there. -/
def optionalInput {k : IdKind} (name : String) : Option (Id k) → List UInt8
  | some id => text (name ++ ":some") ++ id.bytes
  | none => text (name ++ ":none")

def MessagePriority.asStr : MessagePriority → String
  | control => "control"
  | ordinary => "ordinary"

instance : MutableRequest EnqueueMessage where
  context := EnqueueMessage.context
  action _ := .enqueueMessage
  canonicalInput env c :=
    c.sessionId.bytes ++ c.messageId.bytes ++ c.source.bytes ++ c.destination.bytes ++
      text (priorityFor c.envelope.kind).asStr ++
      optionalInput "operation" c.correlation.operationId ++
      optionalInput "reply" c.correlation.inReplyTo ++
      bytes (env.json (.envelope c.envelope.body))

structure LeaseNextMessage where
  context : RequestContext
  sessionId : SessionId
  epoch : FencingEpoch
  destination : ParticipantId
  instanceId : InstanceId
  driverLaunchAttemptId : LaunchAttemptId
  proposedAttemptId : DeliveryAttemptId
  leaseDuration : Duration

/-- Milliseconds as a 64-bit number, saturating. -/
def Duration.millisInput (d : Duration) : List UInt8 :=
  u64 (if d.asMillis < u64Bound then d.asMillis else u64Bound - 1)

instance : MutableRequest LeaseNextMessage where
  context := LeaseNextMessage.context
  action _ := .leaseNextMessage
  canonicalInput _ c :=
    c.sessionId.bytes ++ u64 c.epoch.get ++ c.destination.bytes ++ c.instanceId.bytes ++
      c.driverLaunchAttemptId.bytes ++ c.leaseDuration.millisInput

inductive DeliveryTransition where
  | acceptancePending
  | acceptanceUnknown
  | retryAfter (delay : Duration)
  | accepted (proofDigest : Digest)
  | uncertain (reason : BoundedText maxDeliveryReasonBytes)
  | deadLetter (reason : BoundedText maxDeliveryReasonBytes)
deriving DecidableEq

def DeliveryTransition.canonicalInput : DeliveryTransition → List UInt8
  | acceptancePending => text "acceptance_pending"
  | acceptanceUnknown => text "acceptance_unknown"
  | retryAfter delay => text "retry_after" ++ delay.millisInput
  | accepted proofDigest => text "accepted" ++ fixed proofDigest
  | uncertain reason => text "uncertain" ++ text reason.asStr
  | deadLetter reason => text "dead_letter" ++ text reason.asStr

structure TransitionMessageDelivery where
  context : RequestContext
  sessionId : SessionId
  epoch : FencingEpoch
  messageId : MessageId
  attemptId : DeliveryAttemptId
  expectedRevision : Revision
  transition : DeliveryTransition

instance : MutableRequest TransitionMessageDelivery where
  context := TransitionMessageDelivery.context
  action _ := .transitionMessageDelivery
  canonicalInput _ c :=
    c.sessionId.bytes ++ c.messageId.bytes ++ c.attemptId.bytes ++ u64 c.epoch.get ++
      u64 c.expectedRevision.get ++ c.transition.canonicalInput

/-! ### Authority -/

structure RegisterAuthorityTemplatePolicy where
  context : RequestContext
  sessionId : SessionId
  epoch : FencingEpoch
  policy : AuthorityTemplatePolicy

instance : MutableRequest RegisterAuthorityTemplatePolicy where
  context := RegisterAuthorityTemplatePolicy.context
  action _ := .registerAuthorityTemplatePolicy
  canonicalInput env c := bytes (env.json (.templatePolicy c.policy))

structure PutAuthorityPolicy where
  context : RequestContext
  sessionId : SessionId
  epoch : FencingEpoch
  policy : AuthorityPolicySnapshot

instance : MutableRequest PutAuthorityPolicy where
  context := PutAuthorityPolicy.context
  action _ := .putAuthorityPolicy
  canonicalInput env c := bytes (env.json (.policy c.policy))

structure IssueGrant where
  context : RequestContext
  sessionId : SessionId
  epoch : FencingEpoch
  grant : Grant
  singleUse : Bool

instance : MutableRequest IssueGrant where
  context := IssueGrant.context
  action _ := .issueGrant
  canonicalInput env c := bytes (env.json (.grant c.grant c.singleUse))

structure RevokeGrant where
  context : RequestContext
  sessionId : SessionId
  epoch : FencingEpoch
  grantId : GrantId

instance : MutableRequest RevokeGrant where
  context := RevokeGrant.context
  action _ := .revokeGrant
  canonicalInput _ c := c.grantId.bytes

structure CheckAuthorityEffect where
  context : RequestContext
  sessionId : SessionId
  epoch : FencingEpoch
  participantId : ParticipantId
  requested : ScopedCapability
  grantId : Option GrantId

instance : MutableRequest CheckAuthorityEffect where
  context := CheckAuthorityEffect.context
  action _ := .checkAuthorityEffect
  canonicalInput env c := bytes (env.json (.effect c.participantId c.requested c.grantId))

structure CreateAuthorizedChild where
  context : RequestContext
  sessionId : SessionId
  epoch : FencingEpoch
  parentParticipantId : ParticipantId
  participantId : ParticipantId
  templateId : TemplateId
  expectedCompatibility : CompatibilityIdentity
  requested : ScopedCapability
  grantId : Option GrantId
  operationId : OperationId
  inputMessageId : MessageId
  input : List UInt8

instance : MutableRequest CreateAuthorizedChild where
  context := CreateAuthorizedChild.context
  action _ := .createAuthorizedChild
  canonicalInput env c :=
    bytes (env.json (.authorizedChild c.parentParticipantId c.templateId
      c.expectedCompatibility c.requested c.grantId c.input))

/-! ### The hierarchy -/

structure AuthorizedStatus where
  context : RequestContext
  sessionId : SessionId
  epoch : FencingEpoch
  callerParticipantId : ParticipantId
  targetParticipantId : ParticipantId
  operationId : Option OperationId

/-- A status query is an authority check under its own input. -/
instance : MutableRequest AuthorizedStatus where
  context := AuthorizedStatus.context
  action _ := .checkAuthorityEffect
  canonicalInput _ c :=
    c.sessionId.bytes ++ c.callerParticipantId.bytes ++ c.targetParticipantId.bytes ++
      optionalInput "operation" c.operationId

inductive HierarchyEffect where
  | questionUpward (messageId : MessageId) (operationId : OperationId)
      (deliveredMessageId : MessageId) (code : Capability) (grantId : Option GrantId)
  | send (messageId : MessageId) (destination : ParticipantId)
      (envelope : ValidatedMessageEnvelope) (grantId : Option GrantId)
  | cancelChild (messageId : MessageId) (childId : ParticipantId)
      (operationId : OperationId) (grantId : Option GrantId)
  | resumeChild (messageId : MessageId) (childId : ParticipantId)
      (operationId : OperationId) (inReplyTo : MessageId) (feedback : FeedbackKind)
      (grantId : Option GrantId)
deriving DecidableEq

def FeedbackKind.asStr : FeedbackKind → String
  | acknowledged => "ack"
  | rejected => "reject"

def HierarchyEffect.canonicalInput (env : Env) : HierarchyEffect → List UInt8
  | questionUpward _ operationId deliveredMessageId code grantId =>
    text "question" ++ operationId.bytes ++ deliveredMessageId.bytes ++ text code.asStr ++
      optionalInput "grant" grantId
  | send _ destination envelope grantId =>
    text "send" ++ destination.bytes ++ bytes (env.json (.envelope envelope.body)) ++
      optionalInput "grant" grantId
  | cancelChild _ childId operationId grantId =>
    text "cancel" ++ childId.bytes ++ operationId.bytes ++ optionalInput "grant" grantId
  | resumeChild _ childId operationId inReplyTo feedback grantId =>
    text "resume" ++ childId.bytes ++ operationId.bytes ++ inReplyTo.bytes ++
      text feedback.asStr ++ optionalInput "grant" grantId

structure ApplyHierarchyEffect where
  context : RequestContext
  sessionId : SessionId
  epoch : FencingEpoch
  callerParticipantId : ParticipantId
  effect : HierarchyEffect

instance : MutableRequest ApplyHierarchyEffect where
  context := ApplyHierarchyEffect.context
  action _ := .applyHierarchyEffect
  canonicalInput env c :=
    c.sessionId.bytes ++ c.callerParticipantId.bytes ++ c.effect.canonicalInput env

structure CancelSubtree where
  context : RequestContext
  sessionId : SessionId
  epoch : FencingEpoch
  rootParticipantId : ParticipantId

instance : MutableRequest CancelSubtree where
  context := CancelSubtree.context
  action _ := .cancelSubtree
  canonicalInput _ c :=
    c.sessionId.bytes ++ c.rootParticipantId.bytes ++ u64 c.epoch.get

/-! ### Recoveries -/

structure RecordRecoveryClassifications where
  context : RequestContext
  sessionId : SessionId
  epoch : FencingEpoch
  classifications : List RecoveryEventClassification

/-- One classification of a batch, after the entity before it. -/
def RecoveryEventClassification.isValidAfter (r : RecoveryEventClassification)
    (sessionId : SessionId) (previous : Option RecoveryEventEntity) : Bool :=
  classifyRecovery r.state r.observation = .ok r.decision &&
    (match r.entity with
      | .session id => id = sessionId
      | _ => true) &&
    previous.all fun e => e.before r.entity

/-- The loop of `is_structurally_valid`. -/
def classificationsValid (sessionId : SessionId) :
    Option RecoveryEventEntity → List RecoveryEventClassification → Bool
  | _, [] => true
  | previous, r :: rs =>
    r.isValidAfter sessionId previous && classificationsValid sessionId (some r.entity) rs

/-- `RecordRecoveryClassifications::is_structurally_valid`. -/
def RecordRecoveryClassifications.isStructurallyValid (c : RecordRecoveryClassifications) :
    Bool :=
  !c.classifications.isEmpty && c.classifications.length ≤ maxRecoveryClassifications &&
    classificationsValid c.sessionId none c.classifications

/-- The digest of a batch. -/
def RecordRecoveryClassifications.digest (env : Env) (c : RecordRecoveryClassifications) :
    Digest :=
  env.semanticDigest "recovery.classify" (env.json (.classifications c.classifications))

end Navigator
