/-
Participants, operations and the authority they act under.

A session is a tree of participants, each with a launch of its driver and at most
one unfinished operation.  What a participant may do is the intersection of five
profiles (`AuthorityCeilings`), narrowed further by a grant if one is used.
-/
import Navigator.Domain.Message

namespace Navigator

/-- The identity of a configuration: what two sessions must share to be compatible. -/
abbrev CompatibilityIdentity := Digest

abbrev DriverId := Id .driver

/-! ### Operations -/

inductive OperationState where
  | queued | starting | running | waiting | cancelling
  | succeeded | failed | cancelled | blocked | uncertain
deriving DecidableEq

def OperationState.isTerminal : OperationState → Bool
  | succeeded | failed | cancelled | blocked | uncertain => true
  | _ => false

inductive OperationAction where
  | beginStart | reportRunning | wait | resume | requestCancel
  | reportSuccess | reportFailure | reportCancelled | reportBlocked | reportUncertain
  | observeIdle
deriving DecidableEq

/-- A byte string of at most `max` bytes. -/
structure BoundedBytes (max : ℕ) where
  bytes : List UInt8
  bounded : bytes.length ≤ max
deriving DecidableEq

/-- Canonical JSON of at most `max` bytes. -/
structure CanonicalJson (max : ℕ) where
  bytes : List UInt8
  bounded : bytes.length ≤ max
deriving DecidableEq

def maxOperationOutcomeBytes : ℕ := 65536
def maxOperationReasonBytes : ℕ := 1024

inductive OperationTerminalOutcome where
  | succeeded (result : BoundedBytes maxOperationOutcomeBytes)
  | failed (code : BoundedText 128) (detail : BoundedText maxOperationReasonBytes)
  | cancelled
  | blocked (reason : BoundedText maxOperationReasonBytes)
  | uncertain (reason : BoundedText maxOperationReasonBytes)
deriving DecidableEq

/-- The state an operation with this outcome is in. -/
def OperationTerminalOutcome.state : OperationTerminalOutcome → OperationState
  | succeeded _ => .succeeded
  | failed .. => .failed
  | cancelled => .cancelled
  | blocked _ => .blocked
  | uncertain _ => .uncertain

structure OperationSnapshot where
  sessionId : SessionId
  operationId : OperationId
  participantId : ParticipantId
  startRequestId : RequestId
  inputMessageId : MessageId
  waitingOnMessageId : Option MessageId
  inputDigest : Digest
  state : OperationState
  revision : Revision
  terminalOutcome : Option OperationTerminalOutcome
  createdAt : Timestamp
  updatedAt : Timestamp
deriving DecidableEq

/-! ### Participants and their launches -/

structure ParticipantSnapshot where
  sessionId : SessionId
  participantId : ParticipantId
  parentParticipantId : Option ParticipantId
  depth : ℕ
  templateId : TemplateId
  templateCompatibility : CompatibilityIdentity
  revision : Revision
deriving DecidableEq

def maxParticipantDepth : ℕ := 8
def maxDirectChildren : ℕ := 64
def maxSessionParticipants : ℕ := 1024

inductive LaunchState where
  | prepared | attached | ready | stopping | stopped | cleanupRequired
deriving DecidableEq

structure ProcessEvidence where
  processId : ℕ
  processGroupId : ℕ
  parentProcessId : ℕ
  creationMarker : ℕ
  executableIdentity : Digest
deriving DecidableEq

structure LaunchSnapshot where
  sessionId : SessionId
  ownershipEpoch : Option FencingEpoch
  participantId : ParticipantId
  driverId : DriverId
  driverConfigurationDigest : Digest
  attemptId : LaunchAttemptId
  instanceId : Option InstanceId
  state : LaunchState
  revision : Revision
  credentialDigest : Digest
  evidence : Option ProcessEvidence
  cleanupReason : Option (BoundedText 1024)
deriving DecidableEq

/-! ### Authority -/

inductive ResourceScope where
  | session (id : SessionId)
  | participant (id : ParticipantId)
  | operation (id : OperationId)
  | artifact (id : ArtifactId)
deriving DecidableEq

structure ScopedCapability where
  capability : Capability
  resource : ResourceScope
deriving DecidableEq

/-- Two sets of rules, each listed in order: what may be done, and what may be
handed on to a child. -/
structure AuthorityProfile where
  active : List ScopedCapability
  delegable : List ScopedCapability
deriving DecidableEq

/-- An operation's rules follow from the rules of its session. -/
def sessionParent (requested : ScopedCapability) (sessionId : SessionId) : ScopedCapability :=
  match requested.resource with
  | .operation _ => ⟨requested.capability, .session sessionId⟩
  | _ => requested

namespace AuthorityProfile

def permitsDelegation (p : AuthorityProfile) (requested : ScopedCapability) : Bool :=
  requested ∈ p.delegable

def permitsActiveEffect (p : AuthorityProfile) (requested : ScopedCapability)
    (sessionId : SessionId) : Bool :=
  requested ∈ p.active ∨ sessionParent requested sessionId ∈ p.active

def permitsEffectDelegation (p : AuthorityProfile) (requested : ScopedCapability)
    (sessionId : SessionId) : Bool :=
  requested ∈ p.delegable ∨ sessionParent requested sessionId ∈ p.delegable

end AuthorityProfile

structure Grant where
  id : GrantId
  sessionId : SessionId
  subject : ParticipantId
  authority : ScopedCapability
  expiresAt : Timestamp
  revoked : Bool
deriving DecidableEq

def Grant.isActive (g : Grant) (now : Timestamp) : Bool :=
  !g.revoked && now < g.expiresAt

structure AuthorityCeilings where
  session : AuthorityProfile
  parent : AuthorityProfile
  template : AuthorityProfile
  relationship : AuthorityProfile
  subject : AuthorityProfile

inductive AuthorityOrigin where
  | session | parentDelegation | template | relationship | subject
  | grant (id : GrantId)
deriving DecidableEq

structure AuthorityDecision where
  authority : ScopedCapability
  origins : List AuthorityOrigin
deriving DecidableEq

namespace AuthorityCeilings

/-- The origins every decision rests on. -/
def origins : List AuthorityOrigin :=
  [.session, .parentDelegation, .template, .relationship, .subject]

def authorizeChildCreation (c : AuthorityCeilings) (requested : ScopedCapability) :
    Option AuthorityDecision :=
  if c.session.permitsDelegation requested && c.parent.permitsDelegation requested &&
      c.template.permitsDelegation requested && c.relationship.permitsDelegation requested &&
      c.subject.permitsDelegation requested then
    some ⟨requested, origins⟩
  else none

def authorizeEffect (c : AuthorityCeilings) (subject : ParticipantId) (sessionId : SessionId)
    (requested : ScopedCapability) (grant : Option Grant) (now : Timestamp) :
    Option AuthorityDecision :=
  if c.session.permitsActiveEffect requested sessionId &&
      c.parent.permitsEffectDelegation requested sessionId &&
      c.template.permitsActiveEffect requested sessionId &&
      c.relationship.permitsActiveEffect requested sessionId &&
      c.subject.permitsActiveEffect requested sessionId then
    match grant with
    | none => some ⟨requested, origins⟩
    | some g =>
      if g.sessionId = sessionId ∧ g.subject = subject ∧ g.authority = requested ∧
          g.isActive now then
        some ⟨requested, origins ++ [.grant g.id]⟩
      else none
  else none

end AuthorityCeilings

end Navigator
