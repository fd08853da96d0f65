/-
The commands of the effect journal and of the tool store.

An effect's reservation and its takeover carry a digest their caller chose, since their
fields are public; the digest of every other command is computed from what it asks for.
-/
import Navigator.Api.Approvals

namespace Navigator

open CanonicalInput

/-! ### Effects -/

structure ReserveEffect where
  context : RequestContext
  sessionId : SessionId
  participantId : ParticipantId
  operationId : OperationId
  ownerEpoch : FencingEpoch
  action : Capability
  semanticDigest : Digest
  effectClass : EffectClass
  resolutionContract : EffectResolutionContract
  leaseDuration : Duration

inductive EffectResolution where
  | completed (result : BoundedBytes maxEffectResultBytes)
  | failed (id : BoundedText 256)
  | uncertain
deriving DecidableEq

/-- The start of an effect, or (with a resolution) its end. -/
structure EffectTransition where
  context : RequestContext
  effectRequestId : RequestId
  ownerEpoch : FencingEpoch
  expectedRevision : Revision
  resolution : Option EffectResolution

/-- `transition_input`. -/
def EffectTransition.input (c : EffectTransition) : List UInt8 :=
  c.effectRequestId.bytes ++ u64 c.ownerEpoch.get ++ u64 c.expectedRevision.get ++
    match c.resolution with
    | none => [0]
    | some .uncertain => [1]
    | some (.completed result) => 2 :: bytes result.bytes
    | some (.failed id) => 3 :: text id.asStr

def EffectTransition.action (c : EffectTransition) : StoreAction :=
  if c.resolution.isSome then .resolveEffect else .startEffect

def EffectTransition.semanticDigest (env : Env) (c : EffectTransition) : Digest :=
  env.semanticDigest c.action.asStr c.input

structure TakeoverEffect where
  context : RequestContext
  effectRequestId : RequestId
  ownerEpoch : FencingEpoch
  expectedRevision : Revision
  leaseDuration : Duration
  semanticDigest : Digest

structure ResolveAuthorizedEffect where
  context : RequestContext
  sessionId : SessionId
  ownerEpoch : FencingEpoch
  participantId : ParticipantId
  grantId : GrantId
  effectRequestId : RequestId
  expectedEffectRevision : Revision
  decision : ResolveUncertaintyDecision
  /-- The answer to the tool invocation the effect belongs to. -/
  toolTerminal : Option ToolTerminal

namespace ResolveAuthorizedEffect

def digest (env : Env) (c : ResolveAuthorizedEffect) : Digest :=
  env.semanticDigest StoreAction.resolveAuthorizedEffect.asStr
    (bytes (env.json (.resolution c.sessionId c.participantId c.grantId c.effectRequestId
      c.decision c.toolTerminal)))

/-- The bytes of the proof's digest, if there is a proof. -/
def proofBytes (c : ResolveAuthorizedEffect) : List UInt8 :=
  (c.decision.resolution.proof?.map fun proof => fixed proof.digest).getD []

/-- `assertion_digest`: the proof, bound to the effect it is about. -/
def assertionDigest (env : Env) (c : ResolveAuthorizedEffect) (effectDigest : Digest) : Digest :=
  env.semanticDigest "effect.resolution.assertion.v1"
    (c.effectRequestId.bytes ++ fixed effectDigest ++ c.proofBytes)

end ResolveAuthorizedEffect

/-- What an authorized resolution returns. -/
structure AuthorizedEffectResolution where
  effectEntry : EffectJournalEntry
  currentOperation : OperationSnapshot
  auditEventPosition : ℕ
  authorityDecision : AuthorityDecision
deriving DecidableEq

/-! ### Tools -/

structure RegisterTool where
  context : RequestContext
  sessionId : SessionId
  ownerEpoch : FencingEpoch
  consumerKey : ConsumerKey
  registrationId : ToolRegistrationId
  definition : ToolDefinition

instance : MutableRequest RegisterTool where
  context := RegisterTool.context
  action _ := .registerTool
  canonicalInput env c :=
    c.sessionId.bytes ++ c.registrationId.bytes ++ u64 c.ownerEpoch.get ++
      text c.consumerKey.asStr ++ bytes (env.json (.toolDefinition c.definition))

structure ConnectToolProvider where
  context : RequestContext
  sessionId : SessionId
  ownerEpoch : FencingEpoch
  consumerKey : ConsumerKey
  providerId : ToolProviderId
  connectionId : ToolConnectionId
  afterServerSequence : ℕ
  registrationIds : List ToolRegistrationId

instance : MutableRequest ConnectToolProvider where
  context := ConnectToolProvider.context
  action _ := .connectToolProvider
  canonicalInput _ c :=
    c.sessionId.bytes ++ u64 c.ownerEpoch.get ++ text c.consumerKey.asStr ++
      c.providerId.bytes ++ c.connectionId.bytes ++ u64 c.afterServerSequence ++
      (ToolRegistrationId.ordered c.registrationIds).flatMap Id.bytes

structure ReserveToolInvocation where
  context : RequestContext
  ownerEpoch : FencingEpoch
  invocation : ToolInvocation
  dispatchId : ToolDispatchId
  providerId : ToolProviderId
  registrationId : ToolRegistrationId
  deadline : Timestamp
  leaseDuration : Duration

/-- The milliseconds of a duration, as far as they fit. -/
def Duration.boundedMillis (d : Duration) : ℕ := min d.asMillis (u64Bound - 1)

instance : MutableRequest ReserveToolInvocation where
  context := ReserveToolInvocation.context
  action _ := .reserveToolInvocation
  canonicalInput env c :=
    bytes (env.json (.toolInvocation c.invocation)) ++ c.dispatchId.bytes ++
      c.providerId.bytes ++ c.registrationId.bytes ++ timestamp c.deadline ++
      u64 c.ownerEpoch.get ++ u64 c.leaseDuration.boundedMillis

structure TransitionToolInvocation where
  context : RequestContext
  invocationId : ToolInvocationId
  ownerEpoch : FencingEpoch
  expectedRevision : Revision
  transition : ToolTransition
  providerId : ToolProviderId
  connectionId : ToolConnectionId
  connectionGeneration : ℕ
  dispatchId : ToolDispatchId
  serverSequence : ℕ

instance : MutableRequest TransitionToolInvocation where
  context := TransitionToolInvocation.context
  action _ := .transitionToolInvocation
  canonicalInput env c :=
    c.invocationId.bytes ++ u64 c.ownerEpoch.get ++ u64 c.expectedRevision.get ++
      bytes (env.json (.toolTransition c.transition)) ++ c.providerId.bytes ++
      c.connectionId.bytes ++ u64 c.connectionGeneration ++ c.dispatchId.bytes ++
      u64 c.serverSequence

end Navigator
