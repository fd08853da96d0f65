/-
What a host finds when it takes a session over.

Every durable thing is put in one of the states of `RecoveryState`, looked at once more
from outside (`LiveObservation`), and sorted by `classifyRecovery` into what may be done
about it.  A pair that cannot be is a contradiction, never a reason to go on.
-/
import Navigator.Domain.Hierarchy

namespace Navigator

/-! ### Effects -/

inductive EffectClass where
  | readOnly | idempotent | transactional | nonIdempotent | unknown
deriving DecidableEq

inductive EffectJournalPhase where
  | reserved | started | uncertain | completed | failed | retryAuthorized
deriving DecidableEq

def maxEffectResultBytes : ℕ := 65536

inductive EffectTerminal where
  | completed (result : BoundedBytes maxEffectResultBytes)
  | failed (id : BoundedText 256)
deriving DecidableEq

inductive EffectProofKind where
  | externalCommit | idempotencyReceipt | effectAbsent
deriving DecidableEq

/-- Which resolutions of an uncertain effect are allowed, and on what proof. -/
structure EffectResolutionContract where
  allowConfirmCompleted : Bool
  allowDoNotRetry : Bool
  allowRetryWithProof : Bool
  allowedProofKinds : List EffectProofKind
deriving DecidableEq

namespace EffectResolutionContract

/-- `EffectResolutionContract::conservative`. -/
def conservative : EffectResolutionContract := ⟨true, true, false, [.externalCommit]⟩

/-- `is_completion_proof`. -/
def isCompletionProof : EffectProofKind → Bool
  | .externalCommit | .idempotencyReceipt => true
  | .effectAbsent => false

/-- `EffectResolutionContract::is_valid`. -/
def isValid (c : EffectResolutionContract) : Bool :=
  (c.allowConfirmCompleted || c.allowDoNotRetry || c.allowRetryWithProof) &&
    c.allowedProofKinds.Nodup && c.allowedProofKinds.length ≤ 3 &&
    (!c.allowConfirmCompleted || c.allowedProofKinds.any isCompletionProof) &&
    (!c.allowRetryWithProof || c.allowedProofKinds.contains .effectAbsent)

/-- `allows_completion_proof`. -/
def allowsCompletionProof (c : EffectResolutionContract) (kind : EffectProofKind) : Bool :=
  c.allowConfirmCompleted && isCompletionProof kind && c.allowedProofKinds.contains kind

/-- `allows_retry_proof`. -/
def allowsRetryProof (c : EffectResolutionContract) (kind : EffectProofKind) : Bool :=
  c.allowRetryWithProof && kind = .effectAbsent && c.allowedProofKinds.contains kind

end EffectResolutionContract

structure EffectJournalEntry where
  requestId : RequestId
  sessionId : SessionId
  participantId : ParticipantId
  operationId : OperationId
  caller : HostId
  action : Capability
  semanticDigest : Digest
  effectClass : EffectClass
  resolutionContract : EffectResolutionContract
  phase : EffectJournalPhase
  ownerHost : HostId
  ownerEpoch : FencingEpoch
  leaseExpiresAt : Timestamp
  terminal : Option EffectTerminal
  revision : Revision
deriving DecidableEq

/-- Whether a phase goes with a terminal. -/
def EffectJournalPhase.isEndedBy : EffectJournalPhase → Option EffectTerminal → Bool
  | completed, some (.completed _) | failed, some (.failed _) => true
  | reserved, none | started, none | uncertain, none | retryAuthorized, none => true
  | _, _ => false

/-- What `decode_effect` asks of a row. -/
def EffectJournalEntry.isValid (e : EffectJournalEntry) : Bool :=
  e.phase.isEndedBy e.terminal && e.resolutionContract.isValid

/-- An effect that has not ended has no terminal. -/
theorem EffectJournalPhase.isEndedBy_none {p : EffectJournalPhase}
    {terminal : Option EffectTerminal} (h : p.isEndedBy terminal = true)
    (hcompleted : p ≠ completed) (hfailed : p ≠ failed) : terminal = none := by
  cases p <;> rcases terminal with _ | _ | _ <;> simp_all [isEndedBy]

theorem EffectJournalEntry.isValid_iff {e : EffectJournalEntry} :
    e.isValid = true ↔
      e.phase.isEndedBy e.terminal = true ∧ e.resolutionContract.isValid = true := by
  rw [isValid, Bool.and_eq_true]

/-! ### Resolutions -/

def maxEffectProofBytes : ℕ := 16384

/-- What a caller puts forward about an effect, with the hash of its evidence. -/
structure EffectProof where
  kind : EffectProofKind
  digest : Digest
  evidence : BoundedBytes maxEffectProofBytes
deriving DecidableEq

/-- What becomes of an uncertain effect. -/
inductive UncertaintyResolution where
  | confirmCompleted (proof : EffectProof)
  | doNotRetry
  | retryWithEffectProof (proof : EffectProof)
deriving DecidableEq

structure ResolveUncertaintyDecision where
  sessionId : SessionId
  operationId : OperationId
  reason : BoundedText 1024
  resolution : UncertaintyResolution
deriving DecidableEq

namespace UncertaintyResolution

def proof? : UncertaintyResolution → Option EffectProof
  | confirmCompleted proof | retryWithEffectProof proof => some proof
  | doNotRetry => none

def asStr : UncertaintyResolution → String
  | confirmCompleted _ => "confirm_completed"
  | doNotRetry => "do_not_retry"
  | retryWithEffectProof _ => "retry_with_effect_proof"

/-- The phase an effect is left in. -/
def phase : UncertaintyResolution → EffectJournalPhase
  | confirmCompleted _ => .completed
  | doNotRetry => .failed
  | retryWithEffectProof _ => .retryAuthorized

end UncertaintyResolution

/-- Whether a contract allows a resolution. -/
def EffectResolutionContract.allows (c : EffectResolutionContract) :
    UncertaintyResolution → Bool
  | .confirmCompleted proof => c.allowsCompletionProof proof.kind
  | .doNotRetry => c.allowDoNotRetry
  | .retryWithEffectProof proof => c.allowsRetryProof proof.kind

/-! ### States and observations -/

/-- Durable state, normalised. -/
inductive RecoveryState where
  | sessionOpen | participantRegistered
  | instancePrepared | instanceAttached | instanceReady | instanceStopping
  | instanceCleanupRequired | instanceStopped
  | operationQueued | operationStarting | operationRunning | operationWaiting
  | operationCancelling | operationTerminal
  | messageQueued | messageRetryScheduled | messageRetryDeferred | messageLeased
  | messageLeaseActive | messageAcceptancePending | messageAcceptanceUnknown | messageAccepted
  | messageUncertain | messageDeadLetter
  | effectReserved | effectStartedRetryable | effectStartedUnsafe | effectCompleted
deriving DecidableEq

inductive LiveObservation where
  | notApplicable | notInspected | absent | sameAuthenticatedInstance
  | sameUnauthenticatedInstance | differentInstance | unreachable
deriving DecidableEq

inductive RecoveryClass where
  | safeToContinue | safeToRedeliver | externallyAlive | effectUncertain | cleanupRequired
  | terminal
deriving DecidableEq

inductive RecoveryReason where
  | durableWorkNotStarted | exactMessageIsDeduplicated | declaredEffectIsRetryable
  | exactAuthenticatedInstanceObserved | externalEffectMayHaveOccurred
  | staleVerifiedResourceObserved | durableOutcomeExists | liveIdentityCannotBeProven
  | eligibilityWindowNotReached
deriving DecidableEq

inductive RecoveryAction where
  | continue_ | redeliverExactMessage | reconnectExactInstance | scheduleExistingOperation
  | cleanupVerifiedResource | awaitResolution | none
deriving DecidableEq

structure RecoveryDecision where
  class_ : RecoveryClass
  reason : RecoveryReason
  action : RecoveryAction
deriving DecidableEq

inductive RecoveryContradiction where
  | inspectionRequired | unexpectedLiveObservation | terminalStateHasLiveWork
deriving DecidableEq

/-! ### The table -/

/-- An instance that may be alive. -/
def RecoveryState.isOpenInstance : RecoveryState → Bool
  | instancePrepared | instanceAttached | instanceReady | instanceStopping
  | instanceCleanupRequired => true
  | _ => false

def RecoveryDecision.terminal : RecoveryDecision :=
  ⟨.terminal, .durableOutcomeExists, .none⟩

/-- `classify_recovery` for an instance. -/
def classifyInstance : RecoveryState → LiveObservation →
    Except RecoveryContradiction RecoveryDecision
  | .instanceAttached, .sameAuthenticatedInstance
  | .instanceReady, .sameAuthenticatedInstance =>
    .ok ⟨.externallyAlive, .exactAuthenticatedInstanceObserved, .reconnectExactInstance⟩
  | .instanceStopping, .sameAuthenticatedInstance
  | .instanceStopping, .sameUnauthenticatedInstance
  | .instanceCleanupRequired, .sameAuthenticatedInstance
  | .instanceCleanupRequired, .sameUnauthenticatedInstance =>
    .ok ⟨.cleanupRequired, .staleVerifiedResourceObserved, .cleanupVerifiedResource⟩
  | .instancePrepared, .absent => .ok ⟨.safeToContinue, .durableWorkNotStarted, .continue_⟩
  | .instanceStopped, .sameAuthenticatedInstance
  | .instanceStopped, .sameUnauthenticatedInstance => .error .terminalStateHasLiveWork
  | .instanceStopped, .absent | .instanceStopped, .notApplicable => .ok .terminal
  | state, .absent =>
    if state.isOpenInstance then
      .ok ⟨.cleanupRequired, .staleVerifiedResourceObserved, .cleanupVerifiedResource⟩
    else .error .unexpectedLiveObservation
  | state, .notInspected =>
    if state.isOpenInstance then .error .inspectionRequired
    else .error .unexpectedLiveObservation
  | state, .differentInstance | state, .unreachable | state, .sameUnauthenticatedInstance =>
    if state.isOpenInstance then
      .ok ⟨.effectUncertain, .liveIdentityCannotBeProven, .awaitResolution⟩
    else .error .unexpectedLiveObservation
  | _, _ => .error .unexpectedLiveObservation

/-- `classify_recovery` for what no process stands behind. -/
def classifyRecord : RecoveryState → Except RecoveryContradiction RecoveryDecision
  | .operationQueued =>
    .ok ⟨.safeToContinue, .durableWorkNotStarted, .scheduleExistingOperation⟩
  | .operationStarting | .operationRunning | .operationWaiting | .operationCancelling =>
    .ok ⟨.effectUncertain, .externalEffectMayHaveOccurred, .awaitResolution⟩
  | .messageQueued | .messageRetryScheduled | .messageLeased =>
    .ok ⟨.safeToRedeliver, .exactMessageIsDeduplicated, .redeliverExactMessage⟩
  | .messageRetryDeferred | .messageLeaseActive =>
    .ok ⟨.safeToContinue, .eligibilityWindowNotReached, .continue_⟩
  | .messageAcceptancePending | .messageAcceptanceUnknown | .messageUncertain =>
    .ok ⟨.effectUncertain, .externalEffectMayHaveOccurred, .awaitResolution⟩
  | .operationTerminal | .messageAccepted | .messageDeadLetter | .effectCompleted =>
    .ok .terminal
  | .effectReserved => .ok ⟨.safeToContinue, .durableWorkNotStarted, .continue_⟩
  | .effectStartedRetryable => .ok ⟨.safeToContinue, .declaredEffectIsRetryable, .continue_⟩
  | .effectStartedUnsafe =>
    .ok ⟨.effectUncertain, .externalEffectMayHaveOccurred, .awaitResolution⟩
  | .sessionOpen | .participantRegistered =>
    .ok ⟨.safeToContinue, .durableWorkNotStarted, .continue_⟩
  | _ => .error .unexpectedLiveObservation

/-- `classify_recovery`. -/
def classifyRecovery (state : RecoveryState) (observation : LiveObservation) :
    Except RecoveryContradiction RecoveryDecision :=
  if state.isOpenInstance ∨ state = .instanceStopped then classifyInstance state observation
  else if observation = .notApplicable then classifyRecord state
  else .error .unexpectedLiveObservation

/-! ### Classifications -/

inductive RecoveryEventEntity where
  | session (id : SessionId)
  | participant (id : ParticipantId)
  | driverInstance (id : LaunchAttemptId)
  | operation (id : OperationId)
  | message (id : MessageId)
  | effect (id : RequestId)
deriving DecidableEq

/-- `entity_key`: the kinds one after the other, identities by their bytes. -/
def RecoveryEventEntity.key : RecoveryEventEntity → ℕ × BitVec 128
  | session id => (1, id.uuid)
  | participant id => (2, id.uuid)
  | driverInstance id => (3, id.uuid)
  | operation id => (4, id.uuid)
  | message id => (5, id.uuid)
  | effect id => (6, id.uuid)

/-- The order of keys. -/
def RecoveryEventEntity.before (e e' : RecoveryEventEntity) : Bool :=
  e.key.1 < e'.key.1 || e.key.1 = e'.key.1 && e.key.2 < e'.key.2

structure RecoveryEventClassification where
  entity : RecoveryEventEntity
  state : RecoveryState
  observation : LiveObservation
  decision : RecoveryDecision
deriving DecidableEq

def maxRecoveryClassifications : ℕ := 16384

end Navigator
