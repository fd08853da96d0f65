/-
The reconciler: what a host does about a session it has taken over.

It acquires the session, reads what is unfinished in it, looks at every instance, classifies
everything, records the classifications, and only then acts on them.

* **`Reconciler.reconcile`** — the whole of it, as a program that calls on a backend;
* **`Reconciler.classifyOnly`**, **`Reconciler.executeActions`** — its two halves.
-/
import Navigator.Lib.Prog
import Navigator.Domain.Recovery

namespace Navigator

open Prog

/-! ### What there is to recover -/

inductive RecoveryEntity where
  | session (sessionId : SessionId)
  | participant (participantId : ParticipantId)
  | driverInstance (attemptId : LaunchAttemptId)
  | operation (operationId : OperationId) (inputMessageId : MessageId)
  | message (messageId : MessageId)
  | effect (requestId : RequestId)
deriving DecidableEq

structure RecoveryCandidate where
  ordinal : ℕ
  sessionId : SessionId
  entity : RecoveryEntity
  state : RecoveryState
deriving DecidableEq

structure ClassifiedRecovery where
  entity : RecoveryEntity
  state : RecoveryState
  observation : LiveObservation
  decision : RecoveryDecision
deriving DecidableEq

inductive ReconcileError (ε : Type) where
  | backend (error : ε)
  | contradiction (contradiction : RecoveryContradiction)
  | actionEntityMismatch
  | inventoryOrder
  | duplicateEntity
  | crossSessionEntity
deriving DecidableEq

inductive RecoveryExecutionStatus where
  | executed | noOp | pending | blockedByUncertainty | blockedByCleanup
deriving DecidableEq

structure RecoveryExecution where
  classification : ClassifiedRecovery
  status : RecoveryExecutionStatus
deriving DecidableEq

structure Reconciliation where
  epoch : FencingEpoch
  classifications : List ClassifiedRecovery
  actions : List ClassifiedRecovery
  executions : List RecoveryExecution
deriving DecidableEq

structure RecoveryRunIds where
  ownershipRequestId : RequestId
  classificationRequestId : RequestId
deriving DecidableEq

/-! ### The backend -/

/-- The calls of a `RecoveryBackend`. -/
inductive RecoveryCall where
  | acquireEpoch (sessionId : SessionId) (recoveryRequestId : RequestId)
  | unfinished (sessionId : SessionId) (epoch : FencingEpoch)
  | inspectInstance (attemptId : LaunchAttemptId) (epoch : FencingEpoch)
  | recordClassifications (epoch : FencingEpoch) (recoveryRequestId : RequestId)
      (classifications : List ClassifiedRecovery)
  | scheduleExistingOperation (epoch : FencingEpoch) (operationId : OperationId)
      (inputMessageId : MessageId)
  | redeliverExactMessage (epoch : FencingEpoch) (messageId : MessageId)
  | reconnectExactInstance (epoch : FencingEpoch) (attemptId : LaunchAttemptId)
  | cleanupVerifiedInstance (epoch : FencingEpoch) (attemptId : LaunchAttemptId)
deriving DecidableEq

/-- Any call may fail, with an error of the backend. -/
abbrev RecoveryCall.Answer (ε : Type) : RecoveryCall → Type
  | acquireEpoch .. => Except ε FencingEpoch
  | unfinished .. => Except ε (List RecoveryCandidate)
  | inspectInstance .. => Except ε LiveObservation
  | recordClassifications .. | scheduleExistingOperation .. => Except ε Unit
  | redeliverExactMessage .. | reconnectExactInstance .. | cleanupVerifiedInstance .. =>
    Except ε Bool

abbrev RecoveryProg (ε α : Type) : Type :=
  Prog RecoveryCall (RecoveryCall.Answer ε) (ReconcileError ε) α

namespace Reconciler

variable {ε : Type}

abbrev ask (e : RecoveryCall) : RecoveryProg ε (e.Answer ε) := perform e

/-- `map_err(ReconcileError::Backend)?`. -/
def backend {α : Type} (answer : Except ε α) : RecoveryProg ε α :=
  ofExcept (answer.mapError .backend)

/-! ### Classifying -/

/-- The loop over the inventory: every candidate is of the session, later than the one before,
and not among those seen. -/
def checkInventory (sessionId : SessionId) :
    ℕ → List RecoveryEntity → List RecoveryCandidate → Except (ReconcileError ε) Unit
  | _, _, [] => .ok ()
  | previous, seen, candidate :: rest =>
    if candidate.sessionId ≠ sessionId then .error .crossSessionEntity
    else if candidate.ordinal = 0 ∨ candidate.ordinal ≤ previous then .error .inventoryOrder
    else if candidate.entity ∈ seen then .error .duplicateEntity
    else checkInventory sessionId candidate.ordinal (candidate.entity :: seen) rest

/-- Only instances are looked at. -/
def observe (epoch : FencingEpoch) : RecoveryEntity → RecoveryProg ε LiveObservation
  | .driverInstance attemptId => do backend (← ask (.inspectInstance attemptId epoch))
  | _ => return .notApplicable

/-- The loop that classifies the candidates. -/
def classifyAll (epoch : FencingEpoch) :
    List RecoveryCandidate → RecoveryProg ε (List ClassifiedRecovery)
  | [] => return []
  | candidate :: rest => do
    let observation ← observe epoch candidate.entity
    let decision ← ofExcept ((classifyRecovery candidate.state observation).mapError .contradiction)
    let classified ← classifyAll epoch rest
    return ⟨candidate.entity, candidate.state, observation, decision⟩ :: classified

def hasUncertainty (classified : List ClassifiedRecovery) : Bool :=
  classified.any fun item => item.decision.class_ = .effectUncertain

def hasCleanup (classified : List ClassifiedRecovery) : Bool :=
  classified.any fun item => item.decision.class_ = .cleanupRequired

/-- `planned_status`. -/
def plannedStatus (item : ClassifiedRecovery) (hasUncertainty hasCleanup : Bool) :
    RecoveryExecutionStatus :=
  match item.decision.action with
  | .none | .continue_ => .noOp
  | .awaitResolution => .pending
  | .scheduleExistingOperation | .redeliverExactMessage | .reconnectExactInstance =>
    if hasUncertainty then .blockedByUncertainty
    else if hasCleanup then .blockedByCleanup
    else .pending
  | .cleanupVerifiedResource => if hasUncertainty then .blockedByUncertainty else .pending

/-- `classify_only`. -/
def classifyOnly (sessionId : SessionId) (ids : RecoveryRunIds) :
    RecoveryProg ε Reconciliation := do
  let epoch ← backend (← ask (.acquireEpoch sessionId ids.ownershipRequestId))
  let candidates ← backend (← ask (.unfinished sessionId epoch))
  ofExcept (checkInventory sessionId 0 [] candidates)
  let classified ← classifyAll epoch candidates
  backend (← ask (.recordClassifications epoch ids.classificationRequestId classified))
  return {
    epoch
    classifications := classified
    actions := classified.filter fun item =>
      item.decision.action ≠ .none ∧ item.decision.action ≠ .awaitResolution
    executions := classified.map fun item =>
      ⟨item, plannedStatus item (hasUncertainty classified) (hasCleanup classified)⟩ }

/-! ### Acting -/

/-- The action for one classification, and whether it was executed. -/
def executeAction (epoch : FencingEpoch) (item : ClassifiedRecovery) : RecoveryProg ε Bool :=
  match item.decision.action, item.entity with
  | .scheduleExistingOperation, .operation operationId inputMessageId => do
    backend (← ask (.scheduleExistingOperation epoch operationId inputMessageId))
    return true
  | .redeliverExactMessage, .message messageId => do
    backend (← ask (.redeliverExactMessage epoch messageId))
  | .reconnectExactInstance, .driverInstance attemptId => do
    backend (← ask (.reconnectExactInstance epoch attemptId))
  | .cleanupVerifiedResource, .driverInstance attemptId => do
    backend (← ask (.cleanupVerifiedInstance epoch attemptId))
  | .continue_, _ | .none, _ => return true
  | .awaitResolution, _ => return false
  | _, _ => Prog.fail .actionEntityMismatch

/-- `execute_actions`, over the executions that are left. -/
def executeActions (epoch : FencingEpoch) :
    List RecoveryExecution → RecoveryProg ε (List RecoveryExecution)
  | [] => return []
  | execution :: rest =>
    if execution.status ≠ .pending then do
      let executions ← executeActions epoch rest
      return execution :: executions
    else do
      let executed ← executeAction epoch execution.classification
      let executions ← executeActions epoch rest
      return { execution with status := if executed then .executed else .pending } :: executions

/-- `reconcile`. -/
def reconcile (sessionId : SessionId) (ids : RecoveryRunIds) : RecoveryProg ε Reconciliation := do
  let reconciliation ← classifyOnly sessionId ids
  let executions ← executeActions reconciliation.epoch reconciliation.executions
  return { reconciliation with executions }

end Reconciler

end Navigator
