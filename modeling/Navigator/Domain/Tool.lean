/-
Tools.

A consumer registers tools and connects providers that run them.  An invocation is
dispatched to the provider of its tool under a sequence number and is settled by the
provider's answer.  `ToolInvocationSnapshot` carries the checks of its constructor, so that
a snapshot whose phase and terminal disagree cannot be written down.
-/
import Navigator.Domain.Recovery
import Navigator.Domain.Session

namespace Navigator

abbrev ToolDispatchId := Id .toolDispatch
abbrev ToolCancellationId := Id .toolCancellation

/-! ### Definitions -/

abbrev ToolName := BoundedText 128
abbrev ToolVersion := BoundedText 64

def maxToolSchemaBytes : ℕ := 16384
def maxToolInlineBytes : ℕ := 65536
def maxToolArtifactRefs : ℕ := 32
def maxToolRegistrations : ℕ := 64
def maxToolTimeoutMillis : ℕ := 3600000

inductive ToolCancellation where
  | cooperative | unsupported
deriving DecidableEq

inductive IdempotencyContract where
  | noExternalEffect | invocationIdentity | externalTransactionProof | neverReplay
deriving DecidableEq

/-- The contract that goes with a class of effects. -/
def EffectClass.idempotency : EffectClass → IdempotencyContract
  | readOnly => .noExternalEffect
  | idempotent => .invocationIdentity
  | transactional => .externalTransactionProof
  | nonIdempotent | unknown => .neverReplay

structure ToolTimeout where
  millis : ℕ
  valid : 0 < millis ∧ millis ≤ maxToolTimeoutMillis
deriving DecidableEq

structure ToolDefinition where
  name : ToolName
  version : ToolVersion
  inputSchema : CanonicalJson maxToolSchemaBytes
  outputSchema : CanonicalJson maxToolSchemaBytes
  requiredAuthority : Capability
  timeout : ToolTimeout
  cancellation : ToolCancellation
  effectClass : EffectClass
  idempotency : IdempotencyContract
  requiresApproval : Bool
  coherent : idempotency = effectClass.idempotency
deriving DecidableEq

/-! ### Invocations -/

structure ToolInvocation where
  invocationId : ToolInvocationId
  requestId : RequestId
  sessionId : SessionId
  participantId : ParticipantId
  operationId : OperationId
  toolName : ToolName
  toolVersion : ToolVersion
  input : CanonicalJson maxToolInlineBytes
  authorityGrantId : Option GrantId
  approvalGrantId : Option GrantId
  approvalEffectId : Option RequestId
deriving DecidableEq

def maxArtifactBytes : ℕ := 67108864

/-- An artifact as it is passed around. -/
structure ArtifactRef where
  artifactId : ArtifactId
  sessionId : SessionId
  creatorParticipantId : ParticipantId
  creatorOperationId : OperationId
  mediaType : BoundedText 255
  size : ℕ
  digest : Digest
  bounded : size ≤ maxArtifactBytes
deriving DecidableEq

inductive ToolFailureKind where
  | invalidInput | invalidOutput | unauthorized | timedOut | cancelled | providerUnavailable
  | handlerFailed | effectUncertain
deriving DecidableEq

/-- The name of a kind of failure, in lower case. -/
def ToolFailureKind.asStr : ToolFailureKind → String
  | invalidInput => "invalidinput"
  | invalidOutput => "invalidoutput"
  | unauthorized => "unauthorized"
  | timedOut => "timedout"
  | cancelled => "cancelled"
  | providerUnavailable => "providerunavailable"
  | handlerFailed => "handlerfailed"
  | effectUncertain => "effectuncertain"

structure ToolFailure where
  invocationId : ToolInvocationId
  kind : ToolFailureKind
  message : BoundedText 1024
  retryable : Bool
deriving DecidableEq

structure ToolResult where
  invocationId : ToolInvocationId
  output : CanonicalJson maxToolInlineBytes
  artifacts : List ArtifactRef
  bounded : artifacts.length ≤ maxToolArtifactRefs
deriving DecidableEq

inductive ToolInvocationPhase where
  | reserved | started | uncertain | completed | failed
deriving DecidableEq

/-- Whether an invocation has been answered. -/
def ToolInvocationPhase.isSettled : ToolInvocationPhase → Bool
  | completed | failed => true
  | _ => false

inductive ToolTerminal where
  | completed (result : ToolResult)
  | failed (failure : ToolFailure)
deriving DecidableEq

/-- What a provider, or the owner of its session, does to an invocation. -/
inductive ToolTransition where
  | start
  | complete (result : ToolResult)
  | fail (failure : ToolFailure)
  | markUncertain
  | requestCancel (cancellationId : ToolCancellationId)
deriving DecidableEq

/-- The terminal a transition asks for. -/
def ToolTransition.terminal? : ToolTransition → Option ToolTerminal
  | complete result => some (.completed result)
  | fail failure => some (.failed failure)
  | _ => none

def ToolTransition.isCancel : ToolTransition → Bool
  | requestCancel _ => true
  | _ => false

/-- How an invocation is sent to its provider. -/
structure ToolDispatchSnapshot where
  dispatchId : ToolDispatchId
  providerId : ToolProviderId
  serverSequence : ℕ
  deadline : Timestamp
  connectionId : Option ToolConnectionId
  connectionGeneration : Option ℕ
  cancellationId : Option ToolCancellationId
  cancellationServerSequence : Option ℕ
  terminalDigest : Option Digest
deriving DecidableEq

/-- `ToolDispatchSnapshot::structurally_valid`. -/
def ToolDispatchSnapshot.structurallyValid (d : ToolDispatchSnapshot) : Bool :=
  0 < d.serverSequence && d.connectionGeneration ≠ some 0 &&
    d.connectionId.isSome == d.connectionGeneration.isSome &&
    d.cancellationId.isSome == d.cancellationServerSequence.isSome &&
    d.cancellationServerSequence.all fun q => d.serverSequence < q

/-! ### Snapshots -/

/-- Whether a terminal is the answer to an invocation: it names it, and its artifacts are the
work of the invocation's operation. -/
def ToolInvocation.isAnsweredBy (i : ToolInvocation) : Option ToolTerminal → Bool
  | none => true
  | some (.failed failure) => failure.invocationId = i.invocationId
  | some (.completed result) =>
    result.invocationId = i.invocationId && result.artifacts.all fun a =>
      a.sessionId = i.sessionId && a.creatorParticipantId = i.participantId &&
        a.creatorOperationId = i.operationId

/-- Whether a phase goes with a terminal. -/
def ToolInvocationPhase.isEndedBy : ToolInvocationPhase → Option ToolTerminal → Bool
  | reserved, none | started, none | uncertain, none => true
  | completed, some (.completed _) | failed, some (.failed _) => true
  | _, _ => false

structure ToolInvocationSnapshot where
  registrationId : ToolRegistrationId
  definition : ToolDefinition
  invocation : ToolInvocation
  phase : ToolInvocationPhase
  terminal : Option ToolTerminal
  revision : Revision
  dispatch : ToolDispatchSnapshot
  valid : dispatch.structurallyValid = true ∧ invocation.isAnsweredBy terminal = true ∧
    phase.isEndedBy terminal = true ∧ definition.name = invocation.toolName ∧
    definition.version = invocation.toolVersion
deriving DecidableEq

namespace ToolInvocationSnapshot

/-- `ToolInvocationSnapshot::new`. -/
def new (registrationId : ToolRegistrationId) (definition : ToolDefinition)
    (invocation : ToolInvocation) (phase : ToolInvocationPhase) (terminal : Option ToolTerminal)
    (revision : Revision) (dispatch : ToolDispatchSnapshot) : Option ToolInvocationSnapshot :=
  if h : dispatch.structurallyValid = true ∧ invocation.isAnsweredBy terminal = true ∧
      phase.isEndedBy terminal = true ∧ definition.name = invocation.toolName ∧
      definition.version = invocation.toolVersion then
    some ⟨registrationId, definition, invocation, phase, terminal, revision, dispatch, h⟩
  else none

/-- A snapshot in which the invocation has moved on. -/
def moved (t : ToolInvocationSnapshot) (phase : ToolInvocationPhase)
    (terminal : Option ToolTerminal) (revision : Revision) (dispatch : ToolDispatchSnapshot) :
    Option ToolInvocationSnapshot :=
  new t.registrationId t.definition t.invocation phase terminal revision dispatch

/-- What is the same in all snapshots of an invocation. -/
structure Same (t t' : ToolInvocationSnapshot) : Prop where
  registrationId : t'.registrationId = t.registrationId
  definition : t'.definition = t.definition
  invocation : t'.invocation = t.invocation

theorem moved_eq {t t' : ToolInvocationSnapshot} {phase : ToolInvocationPhase}
    {terminal : Option ToolTerminal} {revision : Revision} {dispatch : ToolDispatchSnapshot}
    (h : t.moved phase terminal revision dispatch = some t') :
    t.Same t' ∧ t'.phase = phase ∧ t'.terminal = terminal ∧ t'.revision = revision ∧
      t'.dispatch = dispatch := by
  unfold moved new at h
  split at h
  · cases h
    exact ⟨⟨rfl, rfl, rfl⟩, rfl, rfl, rfl, rfl⟩
  · cases h

end ToolInvocationSnapshot

/-! ### Registrations and connections -/

structure ToolRegistrationSnapshot where
  registrationId : ToolRegistrationId
  sessionId : SessionId
  consumerKey : ConsumerKey
  definition : ToolDefinition
  revision : Revision
  registeredAt : Timestamp
deriving DecidableEq

structure ToolProviderConnectionSnapshot where
  sessionId : SessionId
  consumerKey : ConsumerKey
  providerId : ToolProviderId
  connectionId : ToolConnectionId
  registrationIds : List ToolRegistrationId
  generation : ℕ
  acknowledgedServerSequence : ℕ
  nextServerSequence : ℕ
  connectedAt : Timestamp
deriving DecidableEq

/-- Registrations in the order of their identities. -/
def ToolRegistrationId.ordered (ids : List ToolRegistrationId) : List ToolRegistrationId :=
  ids.insertionSort fun a b => a.uuid ≤ b.uuid

/-- Registrations in the order of their identities, each once. -/
def ToolRegistrationId.sorted (ids : List ToolRegistrationId) : List ToolRegistrationId :=
  (ordered ids).dedup

/-- `ToolProviderConnectionSnapshot::is_structurally_valid`. -/
def ToolProviderConnectionSnapshot.isStructurallyValid (c : ToolProviderConnectionSnapshot) :
    Bool :=
  0 < c.generation && c.acknowledgedServerSequence < c.nextServerSequence &&
    c.registrationIds ≠ [] && c.registrationIds.length ≤ maxToolRegistrations &&
    c.registrationIds = ToolRegistrationId.sorted c.registrationIds

end Navigator
