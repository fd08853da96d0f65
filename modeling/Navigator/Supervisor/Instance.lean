/-
The supervision of driver processes.

A supervisor launches the process of a launch attempt, makes it ready, stops it, and watches
over the ownership under which it was launched.  It keeps, in memory, a binding for every
process that it has spawned.  Whatever it asks of the store, of the processes, of the clock or
of its bindings is a call, and may be answered in any way.

* **`SupervisorCall`** — the calls;
* **`InstanceSupervisor.stopVerifiedUntil`** — the sequence of inspections and signals that
  stops a process;
* **`InstanceSupervisor.launch`**, **`ready`**, **`connectStartReady`**, **`stop`**,
  **`ownershipLost`**, **`watchOwnershipWithFence`**, **`reconcileLaunch`** — the programs.

A loop goes through at most `rounds` rounds, a number without meaning: what is after them is a
call that is never answered.
-/
import Navigator.Lib.Prog
import Navigator.Api.Commands
import Navigator.Domain.Recovery

namespace Navigator

open Prog

/-! ### Requests and answers -/

/-- Instants and spans of time, counted in nanoseconds. -/
abbrev Instant : Type := ℕ

abbrev Nanos : Type := ℕ

namespace Nanos

def millis (n : ℕ) : Nanos := n * 1000000

/-- The longest span, of `u64::MAX` seconds and a fraction. -/
def longest : Nanos := (2 ^ 64 - 1) * 1000000000 + 999999999

def saturatingAdd (a b : Nanos) : Nanos := min (a + b) longest

end Nanos

/-- The instants that are representable are before this one. -/
def instantBound : Instant := 2 ^ 63 * 1000000000

def Instant.checkedAdd (instant : Instant) (span : Nanos) : Option Instant :=
  if instant + span < instantBound then some (instant + span) else none

/-- The part of a launch plan that the supervisor reads; the rest is for the process. -/
structure LaunchPlan where
  sessionId : SessionId
  participantId : ParticipantId
  driverId : DriverId
  driverConfigurationDigest : Digest
  attemptId : LaunchAttemptId
  instanceId : InstanceId
  hostId : HostId
  ownershipEpoch : FencingEpoch
  prepareRequestId : RequestId
  attachRequestId : RequestId
  compensationRequestId : RequestId
  compensationTerminalRequestId : RequestId
  environment : List (String × String)
  environmentAllowlist : List String

structure StopRequestIds where
  stopping : RequestId
  terminal : RequestId

structure ReconcileRequestIds where
  cleanup : RequestId
  stop : StopRequestIds

structure ReadyRequest where
  requestId : RequestId
  attemptId : LaunchAttemptId
  hostId : HostId
  ownershipEpoch : FencingEpoch
  nonce : Digest

structure DriverBootstrapRequest where
  attemptId : LaunchAttemptId
  hostId : HostId
  epoch : FencingEpoch
  startRequestId : RequestId
  readyRequestId : RequestId
  cleanupIds : StopRequestIds

/-- Who a driver says it is. -/
structure InstanceIdentity where
  driverId : DriverId
  sessionId : SessionId
  participantId : ParticipantId
  launchAttemptId : LaunchAttemptId
  instanceId : InstanceId
  ownershipEpoch : FencingEpoch
deriving DecidableEq

inductive FaultPoint where
  | beforeSpawn | afterSpawn | afterAttach | beforeReady
deriving DecidableEq

inductive IdentityObservation where
  | same | exited | mismatch
deriving DecidableEq

/-- `graceful_stop` and `force_stop_group`. -/
inductive StopSignal where
  | graceful | force
deriving DecidableEq

structure SupervisorConfig where
  gracefulTimeout : Nanos
  forcedTimeout : Nanos
  ownershipLossTimeout : Nanos

inductive StopOutcome where
  | stopped | alreadyStopped | cleanupRequired
deriving DecidableEq

inductive SupervisorError where
  | store (error : StoreError)
  | environmentDenied | invalidCredential | authentication | identityMismatch | notAttached
  | notReady | reconciliationRequired | process | timeout | cleanupRequired
  | injected (point : FaultPoint)
deriving DecidableEq

structure RuntimeBinding where
  evidence : ProcessEvidence
  credential : List UInt8
deriving DecidableEq

def StoreError.retryable : StoreError → Bool
  | busy | unavailable => true
  | _ => false

/-- The calls of a supervisor: on its credentials, the store, the injector of faults, the
processes, the clock, its bindings, the fence that it was given, and a driver's socket.

A process is spawned with one call and the answer is awaited with another, so that one may
happen without the other.  A reading of the clock names the deadline that it is compared with,
if there is one; `deadline` is one that a caller has chosen. -/
inductive SupervisorCall where
  | nextCredential
  | prepareLaunch (c : PrepareLaunch)
  | attachLaunch (c : AttachLaunch)
  | transitionLaunch (c : TransitionLaunch)
  | transitionLaunchBy (deadline : Instant) (c : TransitionLaunch)
  | loadLaunch (attemptId : LaunchAttemptId)
  | validateLaunchAuthority (sessionId : SessionId) (host : HostId) (epoch : FencingEpoch)
  | hit (point : FaultPoint)
  | spawn (plan : LaunchPlan) (credential : List UInt8)
  | spawned (attemptId : LaunchAttemptId)
  | inspect (attemptId : LaunchAttemptId) (expected : ProcessEvidence)
  | signal (kind : StopSignal) (attemptId : LaunchAttemptId) (expected : ProcessEvidence)
  | waitForExit (attemptId : LaunchAttemptId) (timeout : Nanos)
  | revokeOwnership (attemptId : LaunchAttemptId)
  | cleanup (attemptId : LaunchAttemptId)
  | now (compared : Option Instant)
  | deadline
  | sleep
  | binding (supervisor : ℕ) (attemptId : LaunchAttemptId)
  | bind (supervisor : ℕ) (attemptId : LaunchAttemptId) (binding : RuntimeBinding)
  | unbind (supervisor : ℕ) (attemptId : LaunchAttemptId)
  | closeFence
  | openDriver (attemptId : LaunchAttemptId) (startRequestId : RequestId) (credential : List UInt8)
  | unfinished

/-- A transition that has to be made by a deadline is not answered if the deadline passes. -/
abbrev SupervisorCall.Answer : SupervisorCall → Type
  | nextCredential => Except SupervisorError (List UInt8)
  | prepareLaunch _ | attachLaunch _ | transitionLaunch _ =>
    Except StoreError (Mutation LaunchSnapshot)
  | transitionLaunchBy .. => Option (Except StoreError (Mutation LaunchSnapshot))
  | loadLaunch _ => Except StoreError LaunchSnapshot
  | validateLaunchAuthority .. => Except StoreError Unit
  | spawned _ => Except SupervisorError ProcessEvidence
  | inspect .. => Except SupervisorError IdentityObservation
  | waitForExit .. => Except SupervisorError Bool
  | hit _ | signal .. | revokeOwnership _ | cleanup _ => Except SupervisorError Unit
  | now _ | deadline => Instant
  | binding .. => Option RuntimeBinding
  | openDriver .. => Except SupervisorError InstanceIdentity
  | spawn .. | sleep | bind .. | unbind .. | closeFence | unfinished => Unit

abbrev SupervisorProg (α : Type) : Type :=
  Prog SupervisorCall SupervisorCall.Answer SupervisorError α

namespace InstanceSupervisor

abbrev ask (e : SupervisorCall) : SupervisorProg e.Answer := perform e

/-- An answer of the store, its error as the supervisor's. -/
def stored {α : Type} : Except StoreError α → SupervisorProg α
  | .ok a => return a
  | .error error => Prog.fail (.store error)

end InstanceSupervisor

/-- A supervisor; its bindings are its own.  `readyProof` is the keyed hash of an instance's
identity under the credential that it was given. -/
structure InstanceSupervisor where
  id : ℕ
  config : SupervisorConfig
  readyProof : List UInt8 → SessionId → InstanceId → LaunchAttemptId → FencingEpoch → Digest →
    Except SupervisorError Digest
  rounds : ℕ

namespace InstanceSupervisor

variable (I : InstanceSupervisor)

def processStopBudget : Nanos :=
  Nanos.saturatingAdd I.config.gracefulTimeout I.config.forcedTimeout

def configuredStopBudget : Nanos := Nanos.saturatingAdd I.processStopBudget (Nanos.millis 100)

/-! ### Stopping a process -/

/-- A signal that failed: the process may have exited before it. -/
def afterFailedSignal (attemptId : LaunchAttemptId) (evidence : ProcessEvidence)
    (error : SupervisorError) : SupervisorProg Bool := do
  match ← ofExcept (← ask (.inspect attemptId evidence)) with
  | .exited => return true
  | .mismatch => return false
  | .same => Prog.fail error

/-- One stage of `stop_verified_until`: inspect, look at the clock, signal, and wait.  There is
no answer yet if the wait was in vain. -/
def signalAndWait (kind : StopSignal) (timeout : Nanos) (attemptId : LaunchAttemptId)
    (evidence : ProcessEvidence) (deadline : Instant) : SupervisorProg (Option Bool) := do
  match ← ofExcept (← ask (.inspect attemptId evidence)) with
  | .exited => return some true
  | .mismatch => return some false
  | .same =>
    if deadline ≤ (← ask (.now deadline)) then return some false
    else
      match ← ask (.signal kind attemptId evidence) with
      | .error error => return some (← afterFailedSignal attemptId evidence error)
      | .ok () =>
        let remaining := deadline - (← ask (.now deadline))
        if remaining = 0 then return some false
        else if ← ofExcept (← ask (.waitForExit attemptId (min timeout remaining))) then
          return some true
        else return none

/-- `stop_verified_until`. -/
def stopVerifiedUntil (attemptId : LaunchAttemptId) (evidence : ProcessEvidence)
    (deadline : Instant) : SupervisorProg Bool := do
  match ← signalAndWait .graceful I.config.gracefulTimeout attemptId evidence deadline with
  | some stopped => return stopped
  | none =>
    match ← signalAndWait .force I.config.forcedTimeout attemptId evidence deadline with
    | some stopped => return stopped
    | none => return false

/-- `stop_verified`.  Here and in `stop` the source panics if the deadline is not representable;
the configured budgets are taken to be far below that. -/
def stopVerified (attemptId : LaunchAttemptId) (evidence : ProcessEvidence) :
    SupervisorProg Bool := do
  let now ← ask (.now none)
  I.stopVerifiedUntil attemptId evidence (now + I.processStopBudget)

/-- The result of a stop, an error counting as none. -/
def orFalse (p : SupervisorProg Bool) : SupervisorProg Bool := do
  match ← p.attempt with
  | .ok stopped => return stopped
  | .error _ => return false

/-- `exact_process_exited`. -/
def exactProcessExited (attemptId : LaunchAttemptId) (evidence : ProcessEvidence) :
    SupervisorProg Bool := do
  match ← ask (.inspect attemptId evidence) with
  | .ok .exited => return true
  | _ => return false

/-! ### Launching -/

def LaunchPlan.prepare (env : Env) (plan : LaunchPlan) (credential : List UInt8) :
    PrepareLaunch where
  context := ⟨plan.prepareRequestId, plan.hostId⟩
  epoch := plan.ownershipEpoch
  sessionId := plan.sessionId
  participantId := plan.participantId
  driverId := plan.driverId
  driverConfigurationDigest := plan.driverConfigurationDigest
  attemptId := plan.attemptId
  credentialDigest := env.sha256 credential

def LaunchPlan.attach (plan : LaunchPlan) (expectedRevision : Revision)
    (evidence : ProcessEvidence) : AttachLaunch where
  context := ⟨plan.attachRequestId, plan.hostId⟩
  sessionId := plan.sessionId
  epoch := plan.ownershipEpoch
  attemptId := plan.attemptId
  expectedRevision := expectedRevision
  instanceId := plan.instanceId
  evidence := evidence

/-- The reasons that are given for a cleanup. -/
def terminationVerified : BoundedText 1024 :=
  ⟨"launch failed after spawn; process termination verified", by decide⟩

def terminationUncertain : BoundedText 1024 :=
  ⟨"launch failed after spawn; process termination is uncertain", by decide⟩

def stoppedBeforeCreation : BoundedText 1024 :=
  ⟨"launch stopped before process creation", by decide⟩

def unprovenByDeadline : BoundedText 1024 :=
  ⟨"process identity or termination could not be proven before the shutdown deadline",
    by decide⟩

def unproven : BoundedText 1024 :=
  ⟨"process identity or termination could not be proven", by decide⟩

def identityUnavailable : BoundedText 1024 :=
  ⟨"process identity is unavailable after a Prepared recovery boundary", by decide⟩

/-- The transitions that a launch makes when it fails. -/
def LaunchPlan.compensate (plan : LaunchPlan) (snapshot : LaunchSnapshot)
    (reason : BoundedText 1024) : TransitionLaunch where
  context := ⟨plan.compensationRequestId, plan.hostId⟩
  sessionId := snapshot.sessionId
  epoch := plan.ownershipEpoch
  attemptId := plan.attemptId
  expectedRevision := snapshot.revision
  target := .cleanupRequired
  cleanupReason := some reason

def LaunchPlan.compensateTerminal (plan : LaunchPlan) (snapshot cleanup : LaunchSnapshot) :
    TransitionLaunch where
  context := ⟨plan.compensationTerminalRequestId, plan.hostId⟩
  sessionId := snapshot.sessionId
  epoch := plan.ownershipEpoch
  attemptId := plan.attemptId
  expectedRevision := cleanup.revision
  target := .stopped
  cleanupReason := none

/-- `compensate_launch`. -/
def compensateLaunch (plan : LaunchPlan) (evidence : ProcessEvidence) : SupervisorProg Unit := do
  let stopped ← orFalse (I.stopVerified plan.attemptId evidence)
  if stopped then
    let _ ← ask (.cleanup plan.attemptId)
    ask (.unbind I.id plan.attemptId)
  match ← ask (.loadLaunch plan.attemptId) with
  | .error _ => return ()
  | .ok snapshot =>
    let reason := if stopped then terminationVerified else terminationUncertain
    match ← ask (.transitionLaunch (LaunchPlan.compensate plan snapshot reason)) with
    | .error _ => return ()
    | .ok cleanup =>
      if stopped then
        let _ ← ask (.transitionLaunch (LaunchPlan.compensateTerminal plan snapshot cleanup.value))
        return ()
      else return ()

/-- `classify_without_process`. -/
def classifyWithoutProcess (plan : LaunchPlan) (snapshot : LaunchSnapshot) :
    SupervisorProg Unit := do
  match ← ask (.transitionLaunch (LaunchPlan.compensate plan snapshot stoppedBeforeCreation)) with
  | .error _ => return ()
  | .ok cleanup =>
    let _ ← ask (.transitionLaunch (LaunchPlan.compensateTerminal plan snapshot cleanup.value))
    return ()

/-- `validate_environment`. -/
def environmentAllowed (plan : LaunchPlan) : Bool :=
  plan.environment.all fun entry => plan.environmentAllowlist.contains entry.1

/-- What a launch does once its attempt has been reserved. -/
def launchPrepared (plan : LaunchPlan) (credential : List UInt8) (prepared : LaunchSnapshot) :
    SupervisorProg LaunchSnapshot := do
  match ← ask (.hit .beforeSpawn) with
  | .error error =>
    classifyWithoutProcess plan prepared
    Prog.fail error
  | .ok () =>
    ask (.spawn plan credential)
    let evidence ← ofExcept (← ask (.spawned plan.attemptId))
    ask (.bind I.id plan.attemptId ⟨evidence, credential⟩)
    match ← ask (.hit .afterSpawn) with
    | .error error =>
      I.compensateLaunch plan evidence
      Prog.fail error
    | .ok () =>
      match ← ask (.attachLaunch (LaunchPlan.attach plan prepared.revision evidence)) with
      | .error error =>
        I.compensateLaunch plan evidence
        Prog.fail (.store error)
      | .ok attached =>
        match ← ask (.hit .afterAttach) with
        | .error error =>
          I.compensateLaunch plan evidence
          Prog.fail error
        | .ok () => return attached.value

/-- `launch`. -/
def launch (env : Env) (plan : LaunchPlan) : SupervisorProg LaunchSnapshot := do
  if environmentAllowed plan = false then Prog.fail .environmentDenied
  else
    let credential ← ofExcept (← ask .nextCredential)
    if credential.length < 32 ∨ 4096 < credential.length then Prog.fail .invalidCredential
    else
      match ← stored (← ask (.prepareLaunch (LaunchPlan.prepare env plan credential))) with
      | .applied prepared => I.launchPrepared plan credential prepared
      | .replayed prepared | .unchanged prepared =>
        if prepared.state = .prepared then Prog.fail .reconciliationRequired
        else return prepared

/-! ### Readiness -/

/-- A transition to a state that is not one of cleanup. -/
def moveTo (context : RequestContext) (sessionId : SessionId) (epoch : FencingEpoch)
    (attemptId : LaunchAttemptId) (expectedRevision : Revision) (target : LaunchState) :
    TransitionLaunch :=
  ⟨context, sessionId, epoch, attemptId, expectedRevision, target, none⟩

/-- `ready`. -/
def ready (request : ReadyRequest) (proof : Digest) : SupervisorProg LaunchSnapshot := do
  ofExcept (← ask (.hit .beforeReady))
  let snapshot ← stored (← ask (.loadLaunch request.attemptId))
  match ← ask (.binding I.id request.attemptId) with
  | none => Prog.fail .notAttached
  | some binding =>
    match snapshot.instanceId with
    | none => Prog.fail .notAttached
    | some instanceId =>
      let expectedProof ← ofExcept (I.readyProof binding.credential snapshot.sessionId instanceId
        request.attemptId request.ownershipEpoch request.nonce)
      if proof ≠ expectedProof then Prog.fail .authentication
      else if (← ofExcept (← ask (.inspect request.attemptId binding.evidence))) ≠ .same then
        Prog.fail .identityMismatch
      else
        let mutation ← stored (← ask (.transitionLaunch (moveTo
          ⟨request.requestId, request.hostId⟩ snapshot.sessionId request.ownershipEpoch
          request.attemptId snapshot.revision .ready)))
        return mutation.value

/-! ### Stopping -/

/-- `transition_terminal_with_retry`. -/
def transitionTerminalWithRetry (c : TransitionLaunch) (deadline : Instant) :
    ℕ → SupervisorProg Unit
  | 0 => ask .unfinished
  | rounds + 1 => do
    match ← ask (.transitionLaunchBy deadline c) with
    | none => Prog.fail .process
    | some (.ok _) => return ()
    | some (.error error) =>
      if error.retryable = true then
        if (← ask (.now deadline)) < deadline then
          ask .sleep
          transitionTerminalWithRetry c deadline rounds
        else Prog.fail (.store error)
      else Prog.fail (.store error)

/-- The end of `stop_with_deadline`: what the process has come to is recorded. -/
def recordStop (attemptId : LaunchAttemptId) (hostId : HostId) (epoch : FencingEpoch)
    (ids : StopRequestIds) (deadline : Instant) (stopping : LaunchSnapshot) (stopped : Bool) :
    SupervisorProg StopOutcome := do
  if stopped = false ∧ stopping.state = .cleanupRequired then return .cleanupRequired
  else
    let terminal : TransitionLaunch :=
      ⟨⟨ids.terminal, hostId⟩, stopping.sessionId, epoch, attemptId, stopping.revision,
        if stopped then .stopped else .cleanupRequired, if stopped then none else some unproven⟩
    let later := (Instant.checkedAdd (← ask (.now none)) (Nanos.millis 100)).getD deadline
    transitionTerminalWithRetry terminal (max deadline later) I.rounds
    if stopped then
      ask (.unbind I.id attemptId)
      return .stopped
    else return .cleanupRequired

/-- A launch that is to be cleaned up is left alone when the deadline has passed. -/
def isLateCleanup (snapshot : LaunchSnapshot) (deadline : Instant) : SupervisorProg Bool := do
  if snapshot.state = .cleanupRequired then return deadline ≤ (← ask (.now deadline))
  else return false

/-- The launch is recorded as stopping, unless it is already. -/
def beginStop (attemptId : LaunchAttemptId) (hostId : HostId) (epoch : FencingEpoch)
    (ids : StopRequestIds) (snapshot : LaunchSnapshot) : SupervisorProg LaunchSnapshot := do
  if snapshot.state = .stopping ∨ snapshot.state = .cleanupRequired then return snapshot
  else
    let mutation ← stored (← ask (.transitionLaunch (moveTo ⟨ids.stopping, hostId⟩
      snapshot.sessionId epoch attemptId snapshot.revision .stopping)))
    return mutation.value

/-- The process is stopped and cleaned up after. -/
def verifyStopped (attemptId : LaunchAttemptId) (evidence : ProcessEvidence)
    (deadline : Instant) : SupervisorProg Bool := do
  let proven ← orFalse (I.stopVerifiedUntil attemptId evidence deadline)
  let exited ← if proven then pure true else exactProcessExited attemptId evidence
  if exited then return (← ask (.cleanup attemptId)).isOk
  else return false

/-- `stop_with_deadline`. -/
def stopWithDeadline (attemptId : LaunchAttemptId) (hostId : HostId) (epoch : FencingEpoch)
    (ids : StopRequestIds) (deadline : Instant) : SupervisorProg StopOutcome := do
  let snapshot ← stored (← ask (.loadLaunch attemptId))
  if snapshot.state = .stopped then return .alreadyStopped
  else if ← isLateCleanup snapshot deadline then return .cleanupRequired
  else
    stored (← ask (.validateLaunchAuthority snapshot.sessionId hostId epoch))
    match snapshot.evidence with
    | none => Prog.fail .notAttached
    | some evidence =>
      if deadline ≤ (← ask (.now deadline)) then
        let now ← ask (.now none)
        transitionTerminalWithRetry
          ⟨⟨ids.terminal, hostId⟩, snapshot.sessionId, epoch, attemptId, snapshot.revision,
            .cleanupRequired, some unprovenByDeadline⟩ (now + Nanos.millis 100) I.rounds
        return .cleanupRequired
      else
        let stopping ← beginStop attemptId hostId epoch ids snapshot
        let stopped ← I.verifyStopped attemptId evidence deadline
        I.recordStop attemptId hostId epoch ids deadline stopping stopped

/-- `stop`. -/
def stop (attemptId : LaunchAttemptId) (hostId : HostId) (epoch : FencingEpoch)
    (ids : StopRequestIds) : SupervisorProg StopOutcome := do
  let now ← ask (.now none)
  I.stopWithDeadline attemptId hostId epoch ids (now + I.processStopBudget + Nanos.millis 100)

/-- `stop_with_deadline`, with a deadline that the caller has chosen. -/
def stopByDeadline (attemptId : LaunchAttemptId) (hostId : HostId) (epoch : FencingEpoch)
    (ids : StopRequestIds) : SupervisorProg StopOutcome := do
  let deadline ← ask .deadline
  I.stopWithDeadline attemptId hostId epoch ids deadline

/-- `compensate_bootstrap`. -/
def compensateBootstrap {α : Type} (attemptId : LaunchAttemptId) (hostId : HostId)
    (epoch : FencingEpoch) (ids : StopRequestIds) (error : SupervisorError) :
    SupervisorProg α := do
  match ← (I.stop attemptId hostId epoch ids).attempt with
  | .ok .stopped | .ok .alreadyStopped => Prog.fail error
  | .ok .cleanupRequired | .error _ => Prog.fail .cleanupRequired

/-- `connect_start_ready`. -/
def connectStartReady (env : Env) (request : DriverBootstrapRequest) :
    SupervisorProg LaunchSnapshot := do
  let compensate := I.compensateBootstrap request.attemptId request.hostId request.epoch
    request.cleanupIds
  let snapshot ← stored (← ask (.loadLaunch request.attemptId))
  if snapshot.state ≠ .attached then Prog.fail .notAttached
  else
    stored (← ask (.validateLaunchAuthority snapshot.sessionId request.hostId request.epoch))
    match ← ask (.binding I.id request.attemptId) with
    | none => Prog.fail .notAttached
    | some binding =>
      match snapshot.instanceId with
      | none => Prog.fail .notAttached
      | some expectedInstance =>
        match ← ask (.openDriver request.attemptId request.startRequestId binding.credential) with
        | .error error => compensate error
        | .ok identity =>
          if identity ≠ ⟨snapshot.driverId, snapshot.sessionId, snapshot.participantId,
              request.attemptId, expectedInstance, request.epoch⟩ then
            compensate .identityMismatch
          else
            let nonce := env.sha256 request.readyRequestId.bytes
            match ← ask (.binding I.id request.attemptId) with
            | none => compensate .notAttached
            | some binding =>
              match I.readyProof binding.credential snapshot.sessionId expectedInstance
                  request.attemptId request.epoch nonce with
              | .error error => compensate error
              | .ok proof =>
                match ← (I.ready ⟨request.readyRequestId, request.attemptId, request.hostId,
                    request.epoch, nonce⟩ proof).attempt with
                | .error error => compensate error
                | .ok launch => return launch

/-! ### The loss of the ownership -/

/-- `finish_already_exited`. -/
def finishAlreadyExited (attemptId : LaunchAttemptId) (hostId : HostId) (epoch : FencingEpoch)
    (ids : StopRequestIds) : SupervisorProg StopOutcome := do
  let snapshot ← stored (← ask (.loadLaunch attemptId))
  let stopping ← stored (← ask (.transitionLaunch (moveTo ⟨ids.stopping, hostId⟩
    snapshot.sessionId epoch attemptId snapshot.revision .stopping)))
  let _ ← stored (← ask (.transitionLaunch (moveTo ⟨ids.terminal, hostId⟩
    snapshot.sessionId epoch attemptId stopping.value.revision .stopped)))
  ofExcept (← ask (.cleanup attemptId))
  ask (.unbind I.id attemptId)
  return .stopped

/-- What `ownership_lost` does when a stop fails: the process is cleaned up after as well as may
be, and forgotten. -/
def abandon (attemptId : LaunchAttemptId) : SupervisorProg StopOutcome := do
  let _ ← ask (.cleanup attemptId)
  ask (.unbind I.id attemptId)
  return .cleanupRequired

/-- `ownership_lost`. -/
def ownershipLost (attemptId : LaunchAttemptId) (hostId : HostId) (epoch : FencingEpoch)
    (ids : StopRequestIds) : SupervisorProg StopOutcome := do
  ofExcept (← ask (.revokeOwnership attemptId))
  if ← ofExcept (← ask (.waitForExit attemptId I.config.ownershipLossTimeout)) then
    match ← (I.finishAlreadyExited attemptId hostId epoch ids).attempt with
    | .error _ => I.abandon attemptId
    | .ok outcome => return outcome
  else
    match ← (I.stop attemptId hostId epoch ids).attempt with
    | .ok outcome => return outcome
    | .error _ =>
      match ← ask (.binding I.id attemptId) with
      | some binding =>
        let _ ← orFalse (I.stopVerified attemptId binding.evidence)
        I.abandon attemptId
      | none => I.abandon attemptId

inductive AuthorityObservation where
  | launchLoaded | authorityValidated | retryableFailure | authoritativeLoss
deriving DecidableEq

/-- `authority_uncertainty_requires_revocation`: the answer, and the deadline afterwards. -/
def authorityUncertaintyRequiresRevocation (observation : AuthorityObservation)
    (transientDeadline : Option Instant) (now : Instant) (transientBudget : Nanos) :
    Bool × Option Instant :=
  match observation with
  | .launchLoaded => (false, transientDeadline)
  | .authorityValidated => (false, none)
  | .retryableFailure =>
    if transientBudget = 0 then (true, transientDeadline)
    else
      match transientDeadline with
      | some deadline => (deadline ≤ now, some deadline)
      | none =>
        match Instant.checkedAdd now transientBudget with
        | none => (true, none)
        | some deadline => (deadline ≤ now, some deadline)
  | .authoritativeLoss => (true, transientDeadline)

/-- `set_terminal_fence`. -/
def setTerminalFence (fence : Bool) : SupervisorProg Unit :=
  if fence then ask .closeFence else return ()

/-- A process that does not exit by itself is stopped; the deadline has to be representable. -/
def stopUnwilling (attemptId : LaunchAttemptId) (evidence : ProcessEvidence) :
    SupervisorProg Bool := do
  match Instant.checkedAdd (← ask (.now none)) I.configuredStopBudget with
  | none => Prog.fail .cleanupRequired
  | some deadline => orFalse (I.stopVerifiedUntil attemptId evidence deadline)

/-- A process whose ownership was revoked is given time to exit. -/
def stopRevoked (attemptId : LaunchAttemptId) (evidence : ProcessEvidence) :
    SupervisorProg Bool := do
  match ← ask (.waitForExit attemptId I.config.ownershipLossTimeout) with
  | .ok true => return true
  | .ok false | .error _ => I.stopUnwilling attemptId evidence

/-- What the watchdog does when a launch cannot be loaded: it relies on its own binding. -/
def revokeUnloaded (attemptId : LaunchAttemptId) (fence : Bool) (error : StoreError) :
    SupervisorProg StopOutcome := do
  setTerminalFence fence
  match ← ask (.binding I.id attemptId) with
  | none => Prog.fail .notAttached
  | some binding =>
    ofExcept (← ask (.revokeOwnership attemptId))
    let stopped ← I.stopRevoked attemptId binding.evidence
    if stopped = false then Prog.fail .cleanupRequired
    else
      match ← ask (.cleanup attemptId) with
      | .error _ => Prog.fail .cleanupRequired
      | .ok () =>
        ask (.unbind I.id attemptId)
        Prog.fail (.store error)

/-- The observation that the answer of a validation is. -/
def AuthorityObservation.ofValidation : Except StoreError Unit → AuthorityObservation
  | .ok () => .authorityValidated
  | .error error => if error.retryable then .retryableFailure else .authoritativeLoss

/-- `watch_ownership_with_fence`; the last argument is the deadline of the uncertainty. -/
def watchOwnershipWithFence (attemptId : LaunchAttemptId) (hostId : HostId)
    (epoch : FencingEpoch) (ids : StopRequestIds) (fence : Bool) :
    ℕ → Option Instant → SupervisorProg StopOutcome
  | 0, _ => do
    ask .unfinished
    return .cleanupRequired
  | rounds + 1, uncertainty => do
    match ← ask (.loadLaunch attemptId) with
    | .error error =>
      if error.retryable = true then
        let (revoke, uncertainty) := authorityUncertaintyRequiresRevocation .retryableFailure
          uncertainty (← ask (.now none)) I.config.ownershipLossTimeout
        if revoke then
          setTerminalFence fence
          I.ownershipLost attemptId hostId epoch ids
        else
          ask .sleep
          watchOwnershipWithFence attemptId hostId epoch ids fence rounds uncertainty
      else I.revokeUnloaded attemptId fence error
    | .ok snapshot =>
      if snapshot.state = .stopped ∨ snapshot.state = .cleanupRequired then
        setTerminalFence fence
        return if snapshot.state = .stopped then .stopped else .cleanupRequired
      else
        let validation ← ask (.validateLaunchAuthority snapshot.sessionId hostId epoch)
        let (revoke, uncertainty) := authorityUncertaintyRequiresRevocation
          (.ofValidation validation) uncertainty (← ask (.now none))
          I.config.ownershipLossTimeout
        if revoke then
          setTerminalFence fence
          I.ownershipLost attemptId hostId epoch ids
        else
          ask .sleep
          watchOwnershipWithFence attemptId hostId epoch ids fence rounds uncertainty

/-! ### Recovery -/

/-- `reconcile_launch`. -/
def reconcileLaunch (attemptId : LaunchAttemptId) (hostId : HostId) (epoch : FencingEpoch)
    (ids : ReconcileRequestIds) : SupervisorProg StopOutcome := do
  let snapshot ← stored (← ask (.loadLaunch attemptId))
  match snapshot.state with
  | .stopped => return .alreadyStopped
  | .prepared =>
    let _ ← stored (← ask (.transitionLaunch
      ⟨⟨ids.cleanup, hostId⟩, snapshot.sessionId, epoch, attemptId, snapshot.revision,
        .cleanupRequired, some identityUnavailable⟩))
    return .cleanupRequired
  | .attached | .ready | .stopping | .cleanupRequired =>
    I.stop attemptId hostId epoch ids.stop

/-- `inspect_for_recovery`. -/
def inspectForRecovery (attemptId : LaunchAttemptId) (hostId : HostId) (epoch : FencingEpoch) :
    SupervisorProg LiveObservation := do
  let snapshot ← stored (← ask (.loadLaunch attemptId))
  stored (← ask (.validateLaunchAuthority snapshot.sessionId hostId epoch))
  if snapshot.state = .stopped then return .absent
  else
    match snapshot.evidence with
    | none => return if snapshot.state = .prepared then .absent else .unreachable
    | some evidence =>
      match ← ofExcept (← ask (.inspect attemptId evidence)) with
      | .exited => return .absent
      | .mismatch => return .differentInstance
      | .same => return .sameUnauthenticatedInstance

end InstanceSupervisor

end Navigator
