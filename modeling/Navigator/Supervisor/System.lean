/-
Any number of supervisors over one store and one machine.

The world of the supervisors is the store, which others use too, the bindings that they keep,
and the processes: for which attempts one has been spawned, with which evidence, whose leader
has exited, and whose whole group is gone.  A call may fail in any way, with or without an
effect on the store, and an answer may be anything that is not untrue: an inspection that
answers `exited` speaks of the leader, and a wait that answers `true` and a cleanup that
succeeds of the whole group.

* **`Supervision.World.answer`** — how calls are answered;
* **`Supervision.pool`** — the supervisors' calls, interleaved in any way and dropped anywhere.
-/
import Navigator.Lib.Pool
import Navigator.Supervisor.Instance
import Navigator.Deeds.Calls

namespace Navigator

open Prog

namespace Supervision

structure World where
  store : Store
  bindings : List ((ℕ × LaunchAttemptId) × RuntimeBinding)
  /-- The attempts for which `spawn` was called. -/
  spawned : List LaunchAttemptId
  /-- The processes that it has answered with. -/
  evidence : List (LaunchAttemptId × ProcessEvidence)
  /-- The processes whose leader has exited. -/
  exited : List LaunchAttemptId
  /-- The processes of which nothing is left, neither the leader nor another member of its
  group. -/
  gone : List LaunchAttemptId

/-- What is left open about an answer. -/
inductive Input where
  /-- The store answers, with the clock at `t`. -/
  | answers (t : Timestamp)
  /-- The store's answer is an error; its transaction may have happened all the same. -/
  | fails (error : StoreError) (effect : Option Timestamp)
  /-- The deadline of a call on the store passes; its transaction may have happened. -/
  | late (effect : Option Timestamp)
  | error (error : SupervisorError)
  | credential (credential : List UInt8)
  | evidence (evidence : ProcessEvidence)
  | observation (observation : IdentityObservation)
  | flag (value : Bool)
  | instant (instant : Instant)
  | identity (identity : InstanceIdentity)
  | go

/-- Others call on the store, and processes exit. -/
inductive Outside where
  | command (t : Timestamp) (c : Command)
  | exits (attemptId : LaunchAttemptId)
  | vanishes (attemptId : LaunchAttemptId)

/-! ### Answers -/

variable (env : Env)

/-- A transaction of the store, as far as it takes place. -/
def World.effect {α : Type} (w : World) (transaction : Timestamp → Store → α × Store) :
    Option Timestamp → World
  | some t => { w with store := (transaction t w.store).2 }
  | none => w

/-- A call on the store. -/
def World.transact {α : Type} (w : World)
    (transaction : Timestamp → Store → Except StoreError α × Store) :
    Input → Option (Except StoreError α × World)
  | .answers t => some ((transaction t w.store).1, w.effect transaction (some t))
  | .fails error effect => some (.error error, w.effect transaction effect)
  | _ => none

/-- The same, with a deadline. -/
def World.transactBy {α : Type} (w : World)
    (transaction : Timestamp → Store → Except StoreError α × Store) (input : Input) :
    Option (Option (Except StoreError α) × World) :=
  match input with
  | .late effect => some (none, w.effect transaction effect)
  | _ => (w.transact transaction input).map fun (r, w') => (some r, w')

/-- `load_launch`. -/
def loadLaunch (attemptId : LaunchAttemptId) (s : Store) : Except StoreError LaunchSnapshot :=
  match s.launches.find? attemptId with
  | some l => .ok l
  | none => .error (.launchNotFound attemptId)

/-- `validate_launch_authority`, as its caller sees it. -/
def launchAuthority (t : Timestamp) (sessionId : SessionId) (host : HostId)
    (epoch : FencingEpoch) (s : Store) : Except StoreError Unit × Store :=
  let (result, s') := settleUnrecorded (validateLaunchAuthority t sessionId host epoch) s
  (result.map fun _ => (), s')

/-- A call that succeeds, or fails with an error of the supervisor's. -/
def unitAnswer (w : World) : Input → Option (Except SupervisorError Unit × World)
  | .go => some (.ok (), w)
  | .error error => some (.error error, w)
  | _ => none

def World.answer (w : World) (input : Input) :
    (e : SupervisorCall) → Option (e.Answer × World)
  | .prepareLaunch c => w.transact (fun t => settle env c (prepareLaunch env t c)) input
  | .attachLaunch c => w.transact (fun t => settle env c (attachLaunch env t c)) input
  | .transitionLaunch c => w.transact (fun t => settle env c (transitionLaunch env t c)) input
  | .transitionLaunchBy _ c =>
    w.transactBy (fun t => settle env c (transitionLaunch env t c)) input
  | .loadLaunch attemptId => w.transact (fun _ s => (loadLaunch attemptId s, s)) input
  | .validateLaunchAuthority sessionId host epoch =>
    w.transact (fun t => launchAuthority t sessionId host epoch) input
  | .nextCredential =>
    match input with
    | .credential credential => some (.ok credential, w)
    | .error error => some (.error error, w)
    | _ => none
  | .hit _ | .signal .. | .revokeOwnership _ => unitAnswer w input
  | .spawn plan _ => some ((), { w with spawned := plan.attemptId :: w.spawned })
  | .spawned attemptId =>
    match input with
    | .evidence evidence =>
      some (.ok evidence, { w with evidence := (attemptId, evidence) :: w.evidence })
    | .error error => some (.error error, w)
    | _ => none
  | .inspect attemptId _ =>
    match input with
    | .observation observation =>
      if observation = .exited ∧ attemptId ∉ w.exited then none
      else some (.ok observation, w)
    | .error error => some (.error error, w)
    | _ => none
  | .waitForExit attemptId _ =>
    match input with
    | .flag value =>
      if value = true ∧ attemptId ∉ w.gone then none
      else some (.ok value, w)
    | .error error => some (.error error, w)
    | _ => none
  | .cleanup attemptId =>
    match input with
    | .go =>
      -- A process that was never spawned has left nothing.
      if attemptId ∈ w.spawned ∧ attemptId ∉ w.gone then none
      else some (.ok (), w)
    | .error error => some (.error error, w)
    | _ => none
  | .now _ | .deadline =>
    match input with
    | .instant instant => some (instant, w)
    | _ => none
  | .binding supervisor attemptId => some (w.bindings.lookup (supervisor, attemptId), w)
  | .bind supervisor attemptId binding =>
    some ((), { w with bindings := ((supervisor, attemptId), binding) ::
      w.bindings.filter fun entry => entry.1 ≠ (supervisor, attemptId) })
  | .unbind supervisor attemptId =>
    some ((), { w with bindings :=
      w.bindings.filter fun entry => entry.1 ≠ (supervisor, attemptId) })
  | .openDriver .. =>
    match input with
    | .identity identity => some (.ok identity, w)
    | .error error => some (.error error, w)
    | _ => none
  | .sleep | .closeFence => some ((), w)
  | .unfinished => none

/-- What others do: they make no launches, and only a process that was spawned exits. -/
def World.outside (w : World) : Outside → World
  | .command t c => if c.isLaunch then w else { w with store := (exec env t c w.store).2 }
  | .exits attemptId =>
    if attemptId ∈ w.spawned then { w with exited := attemptId :: w.exited } else w
  | .vanishes attemptId =>
    if attemptId ∈ w.spawned then
      { w with exited := attemptId :: w.exited, gone := attemptId :: w.gone }
    else w

/-! ### Runs -/

/-- What a supervisor is asked to do. -/
inductive Job where
  | launch (plan : LaunchPlan)
  | ready (request : ReadyRequest) (proof : Digest)
  | connectStartReady (request : DriverBootstrapRequest)
  | stop (attemptId : LaunchAttemptId) (hostId : HostId) (epoch : FencingEpoch)
      (ids : StopRequestIds)
  | stopByDeadline (attemptId : LaunchAttemptId) (hostId : HostId) (epoch : FencingEpoch)
      (ids : StopRequestIds)
  | ownershipLost (attemptId : LaunchAttemptId) (hostId : HostId) (epoch : FencingEpoch)
      (ids : StopRequestIds)
  | watchOwnership (attemptId : LaunchAttemptId) (hostId : HostId) (epoch : FencingEpoch)
      (ids : StopRequestIds) (fence : Bool)
  | reconcileLaunch (attemptId : LaunchAttemptId) (hostId : HostId) (epoch : FencingEpoch)
      (ids : ReconcileRequestIds)
  | inspectForRecovery (attemptId : LaunchAttemptId) (hostId : HostId) (epoch : FencingEpoch)

inductive Outcome where
  | launch (snapshot : LaunchSnapshot)
  | stop (outcome : StopOutcome)
  | observation (observation : LiveObservation)
deriving DecidableEq

def Job.program (I : InstanceSupervisor) : Job → SupervisorProg Outcome
  | .launch plan => .launch <$> I.launch env plan
  | .ready request proof => .launch <$> I.ready request proof
  | .connectStartReady request => .launch <$> I.connectStartReady env request
  | .stop attemptId hostId epoch ids => .stop <$> I.stop attemptId hostId epoch ids
  | .stopByDeadline attemptId hostId epoch ids =>
    .stop <$> I.stopByDeadline attemptId hostId epoch ids
  | .ownershipLost attemptId hostId epoch ids =>
    .stop <$> I.ownershipLost attemptId hostId epoch ids
  | .watchOwnership attemptId hostId epoch ids fence =>
    .stop <$> I.watchOwnershipWithFence attemptId hostId epoch ids fence I.rounds none
  | .reconcileLaunch attemptId hostId epoch ids =>
    .stop <$> I.reconcileLaunch attemptId hostId epoch ids
  | .inspectForRecovery attemptId hostId epoch =>
    .observation <$> InstanceSupervisor.inspectForRecovery attemptId hostId epoch

/-- A call may be dropped, or its process die, wherever it waits. -/
def pool : Pool World Outside (InstanceSupervisor × Job) Input SupervisorCall SupervisorCall.Answer
    SupervisorError Outcome where
  program job := job.2.program env job.1
  answer w input e := w.answer env input e
  forks _ _ := []
  awaits _ := true
  outside x w := w.outside env x

abbrev State : Type :=
  Pool.State World SupervisorCall SupervisorCall.Answer SupervisorError Outcome

abbrev Event : Type := Pool.Event Outside (InstanceSupervisor × Job) Input

/-- Nothing has happened yet. -/
def start : State := ⟨⟨.empty, [], [], [], [], []⟩, []⟩

end Supervision

end Navigator
