/-
The registry of the workers of operations.

The service starts a worker as a task of its own, and keeps, under one lock, which operations
are active and the handles of their tasks.  A worker takes itself out of the registry when it
has nothing left to do; a cancellation and the shutdown take workers out, abort them, and wait
for their tasks to end.

* **`FirstOperation.World.answer`** — what is done under the lock, and the fate of the tasks;
* **`FirstOperation.start`**, **`resumeExisting`**, **`cancelSubtree`**, **`shutdownUntil`**,
  **`WorkerJob.program`** — the programs;
* **`FirstOperation.pool`** — any number of them, interleaved in any way.

The last thing that a worker does under the lock is the end of its task.  A task that is aborted
may go on for a while.
-/
import Navigator.Lib.Pool
import Navigator.Core.Worker
import Navigator.Store.State

namespace Navigator

open Prog

namespace FirstOperation

/-! ### The registry -/

def maxWorkerFailureRecords : ℕ := 1024

/-- Tasks are numbered. -/
structure WorkerRegistry where
  accepting : Bool
  active : List OperationId
  wakeRequested : List OperationId
  handles : List (OperationId × ℕ)
  failures : List (OperationId × WorkerError)

namespace WorkerRegistry

/-- An operation with its handle is taken out. -/
def withdraw (registry : WorkerRegistry) (operationId : OperationId) : WorkerRegistry :=
  { registry with
    active := registry.active.filter (· ≠ operationId)
    handles := registry.handles.filter (·.1 ≠ operationId) }

/-- Operations are taken out one after the other, for the handles that there are. -/
def withdrawAll : List OperationId → WorkerRegistry → List (OperationId × ℕ) × WorkerRegistry
  | [], registry => ([], registry)
  | operationId :: rest, registry =>
    let withdrawn := registry.withdraw operationId
    let (handles, registry') := withdrawAll rest { withdrawn with
      failures := withdrawn.failures.filter (·.1 ≠ operationId) }
    (registry.handles.filter (·.1 = operationId) ++ handles, registry')

/-- `record_worker_result`. -/
def recordResult (registry : WorkerRegistry) (operationId : OperationId)
    (error : Option WorkerError) : WorkerRegistry :=
  let others := registry.failures.filter (·.1 ≠ operationId)
  match error with
  | none => { registry with failures := others }
  | some error =>
    let kept := if others.length = registry.failures.length ∧
        others.length = maxWorkerFailureRecords then
      others.dropLast else others
    { registry with failures := (operationId, error) :: kept }

end WorkerRegistry

/-! ### Calls -/

inductive FirstOperationError where
  | service
  | store (error : StoreError)
  | workerStopped
deriving DecidableEq

/-- What a worker is started for. -/
inductive WorkerJob where
  | started (W : Worker) (command : StartOperation)
  | resumed (W : Worker) (operationId : OperationId) (operation : OperationSnapshot)

/-- The calls on the permit, the store, the executor, and the worker that is waited for. -/
inductive External where
  | check
  | load (operationId : OperationId)
  | input (operationId : OperationId)
  | cancelSubtree (command : CancelSubtree)
  | driveCancellation (operation : OperationSnapshot) (notification : MessageSnapshot)
  | admitted (task : ℕ)
  | shutdownExecutor

/-- The worker has been dropped if it does not say whether its operation was admitted. -/
abbrev External.Answer : External → Type
  | check => Bool
  | load _ => Except StoreError OperationSnapshot
  | input _ => Except StoreError (List UInt8)
  | cancelSubtree _ => Except StoreError (Mutation CancelSubtreeOutcome)
  | driveCancellation .. => Except ExecutorError Unit
  | admitted _ => Option (Except StoreError (Mutation OperationSnapshot))
  | shutdownExecutor => Except ExecutorError Unit

/-- How a resumption is registered. -/
inductive Registration where
  | refused | woken
  | spawned (task : ℕ)
deriving DecidableEq

/-- The sections under the lock, what is done with the handle of a task, and all other calls. -/
inductive ServiceCall (ι : Type) where
  | register (operationId : OperationId) (job : WorkerJob)
  | registerOrWake (operationId : OperationId) (job : WorkerJob)
  | forgetFailure (operationId : OperationId)
  | withdraw (operationIds : List OperationId)
  | drain
  | gate (task : ℕ) (operationId : OperationId)
  | work (task : ℕ) (e : WorkerCall ι)
  | recordResult (task : ℕ) (operationId : OperationId) (error : Option WorkerError)
  | rerun (task : ℕ) (operationId : OperationId)
  | abort (handle : OperationId × ℕ)
  | join (handle : OperationId × ℕ)
  | external (e : External)
  | unfinished

abbrev ServiceCall.Answer {ι : Type} : ServiceCall ι → Type
  | register .. => Option ℕ
  | registerOrWake .. => Registration
  | withdraw _ | drain => List (OperationId × ℕ)
  | work _ e => e.Answer
  | rerun .. => Bool
  | external e => e.Answer
  | forgetFailure _ | gate .. | recordResult .. | abort _ | join _ | unfinished => Unit

inductive Outcome where
  | ended
  | handle (admitted : Mutation OperationSnapshot)
  | resumed (spawned : Bool)
  | cancelled (outcome : CancelSubtreeOutcome)
  | shut
deriving DecidableEq

variable {ι : Type}

abbrev ServiceProg (ι α : Type) : Type :=
  Prog (ServiceCall ι) ServiceCall.Answer FirstOperationError α

abbrev ask (e : ServiceCall ι) : ServiceProg ι e.Answer := perform e

/-- A call that has nothing to do with the registry. -/
abbrev outside (e : External) : ServiceProg ι e.Answer := ask (.external e)

def stored {α : Type} : Except StoreError α → ServiceProg ι α
  | .ok a => return a
  | .error error => Prog.fail (.store error)

/-- `AdmissionPermit::check`. -/
def check : ServiceProg ι Unit := do
  if ← outside .check then return () else Prog.fail .service

/-! ### Workers -/

/-- What a worker does in its task, for its result. -/
def inTask {α : Type} (task : ℕ) (p : WorkerProg ι α) : ServiceProg ι (Except WorkerFailure α) :=
  p.attempt.embed (.work task) fun _ r => r

def errorOf {α : Type} : Except WorkerFailure α → Option WorkerError
  | .ok _ => none
  | .error failure => some failure.error

/-- The loop at the end of a worker that was started. -/
def rerunStarted (W : Worker) (task : ℕ) (operationId : OperationId) : ℕ → ServiceProg ι Unit
  | 0 => ask .unfinished
  | rounds + 1 => do
    if ← ask (.rerun task operationId) then
      match ← ask (.work task (.load operationId)) with
      | .error _ => rerunStarted W task operationId rounds
      | .ok operation =>
        let result ← inTask task (W.execute operation)
        ask (.recordResult task operationId (errorOf result))
        rerunStarted W task operationId rounds
    else return ()

/-- The operation as a worker has known it last. -/
def lastKnown : Except WorkerFailure Execution → OperationSnapshot
  | .ok ended => ended.operation
  | .error failure => failure.operation

/-- After a failure to load its operation, a worker that was resumed executes the one it has. -/
def reload (task : ℕ) (operationId : OperationId) (operation : OperationSnapshot) :
    ServiceProg ι OperationSnapshot := do
  match ← ask (.work task (.load operationId)) with
  | .error _ => return operation
  | .ok reloaded => return reloaded

/-- The loop of a worker that was resumed. -/
def runResumed (W : Worker) (task : ℕ) (operationId : OperationId) :
    ℕ → OperationSnapshot → ServiceProg ι Unit
  | 0, _ => ask .unfinished
  | rounds + 1, operation => do
    let result ← inTask task (W.executeExistingWithRetry operation)
    ask (.recordResult task operationId (errorOf result))
    if ← ask (.rerun task operationId) then
      let operation ← reload task operationId (lastKnown result)
      runResumed W task operationId rounds operation
    else return ()

/-- The task of a worker. -/
def WorkerJob.program (rounds task : ℕ) : WorkerJob → ServiceProg ι Outcome
  | started W command => do
    ask (.gate task command.operationId)
    let _ ← inTask task (W.run command)
    rerunStarted W task command.operationId rounds
    return .ended
  | resumed W operationId operation => do
    ask (.gate task operationId)
    runResumed W task operationId rounds operation
    return .ended

/-! ### The service -/

/-- `start`. -/
def start (W : Worker) (command : StartOperation) :
    ServiceProg ι (Mutation OperationSnapshot) := do
  check
  match ← ask (.register command.operationId (.started W command)) with
  | none => Prog.fail .workerStopped
  | some task =>
    match ← outside (.admitted task) with
    | none => Prog.fail .workerStopped
    | some admitted => stored admitted

/-- `resume_existing`. -/
def resumeExisting (W : Worker) (operationId : OperationId) : ServiceProg ι Bool := do
  check
  let operation ← stored (← outside (.load operationId))
  if operation.state.isTerminal then
    ask (.forgetFailure operationId)
    return false
  else
    let _ ← stored (← outside (.input operationId))
    match ← ask (.registerOrWake operationId (.resumed W operationId operation)) with
    | .refused => Prog.fail .workerStopped
    | .woken => return false
    | .spawned _ => return true

/-- Each of the interrupted workers is aborted and waited for. -/
def interrupt : List (OperationId × ℕ) → ServiceProg ι Unit
  | [] => return ()
  | handle :: rest => do
    ask (.abort handle)
    ask (.join handle)
    interrupt rest

/-- The drivers are told of a cancellation. -/
def driveCancellations : List CancellationRecord → ServiceProg ι Unit
  | [] => return ()
  | record :: rest =>
    match record.notification with
    | none => driveCancellations rest
    | some notification => do
      check
      match ← outside (.driveCancellation record.operation notification) with
      | .error _ => Prog.fail .workerStopped
      | .ok () => driveCancellations rest

/-- What is still being cancelled is resumed. -/
def resumeCancelling (W : Worker) : List CancellationRecord → ServiceProg ι Unit
  | [] => return ()
  | record :: rest =>
    if record.operation.state = .cancelling then do
      let _ ← resumeExisting W record.operation.operationId
      resumeCancelling W rest
    else resumeCancelling W rest

/-- `cancel_subtree`. -/
def cancelSubtree (W : Worker) (command : CancelSubtree) :
    ServiceProg ι CancelSubtreeOutcome := do
  check
  let committed ← stored (← outside (.cancelSubtree command))
  let interrupted ← ask (.withdraw
    (committed.value.records.map fun record => record.operation.operationId))
  interrupt interrupted
  driveCancellations committed.value.records
  let current ← stored (← outside (.cancelSubtree command))
  resumeCancelling W current.value.records
  return current.value

def abortAll : List (OperationId × ℕ) → ServiceProg ι Unit
  | [] => return ()
  | handle :: rest => do
    ask (.abort handle)
    abortAll rest

def joinAll : List (OperationId × ℕ) → ServiceProg ι Unit
  | [] => return ()
  | handle :: rest => do
    ask (.join handle)
    joinAll rest

/-- `shutdown_until`. -/
def shutdownUntil : ServiceProg ι Unit := do
  let handles ← ask .drain
  abortAll handles
  joinAll handles
  match ← outside .shutdownExecutor with
  | .error _ => Prog.fail .workerStopped
  | .ok () => return ()

/-! ### The system -/

/-- The registry and the tasks: which there are, for which operations, which have passed their
gate, by which handles they were aborted, and which have ended. -/
structure World where
  registry : WorkerRegistry
  tasks : List (ℕ × OperationId)
  started : List ℕ
  aborted : List (OperationId × ℕ)
  ended : List ℕ

/-- What is left open about an answer. -/
inductive Input (ι : Type) where
  | go
  | external (f : (e : External) → e.Answer)
  | worker (f : (e : WorkerCall ι) → e.Answer)

/-- A worker is spawned, and its handle kept. -/
def World.spawn (w : World) (operationId : OperationId) : World :=
  { w with
    tasks := (w.tasks.length, operationId) :: w.tasks
    registry := { w.registry with
      active := operationId :: w.registry.active
      handles := (operationId, w.tasks.length) :: w.registry.handles.filter (·.1 ≠ operationId) } }

def World.register (w : World) (operationId : OperationId) : Option ℕ × World :=
  if w.registry.accepting = false ∨ operationId ∈ w.registry.active then (none, w)
  else (some w.tasks.length, w.spawn operationId)

def World.registerOrWake (w : World) (operationId : OperationId) : Registration × World :=
  if w.registry.accepting = false then (.refused, w)
  else if operationId ∈ w.registry.active then
    (.woken, { w with registry := { w.registry with
      wakeRequested := operationId :: w.registry.wakeRequested } })
  else (.spawned w.tasks.length, w.spawn operationId)

def World.withdraw (w : World) (operationIds : List OperationId) :
    List (OperationId × ℕ) × World :=
  let (handles, registry) := w.registry.withdrawAll operationIds
  (handles, { w with registry })

def World.drain (w : World) : List (OperationId × ℕ) × World :=
  (w.registry.handles, { w with registry := ⟨false, [], [], [], []⟩ })

/-- A worker that was asked to goes on; another takes itself out, and ends. -/
def World.rerun (w : World) (task : ℕ) (operationId : OperationId) : Bool × World :=
  if operationId ∈ w.registry.wakeRequested then
    (true, { w with registry := { w.registry with
      wakeRequested := w.registry.wakeRequested.filter (· ≠ operationId) } })
  else (false, { w with
    registry := w.registry.withdraw operationId
    ended := task :: w.ended })

/-- A task that has ended makes no calls, and is waited for until it has. -/
def World.answer (w : World) (input : Input ι) :
    (e : ServiceCall ι) → Option (e.Answer × World)
  | .register operationId _ => some (w.register operationId)
  | .registerOrWake operationId _ => some (w.registerOrWake operationId)
  | .forgetFailure operationId =>
    some ((), { w with registry := w.registry.recordResult operationId none })
  | .withdraw operationIds => some (w.withdraw operationIds)
  | .drain => some w.drain
  | .gate task operationId =>
    if (task, operationId) ∈ w.tasks ∧ task ∉ w.ended then
      some ((), { w with started := task :: w.started })
    else none
  | .work task e =>
    match input with
    | .worker f => if task ∈ w.ended then none else some (f e, w)
    | _ => none
  | .recordResult task operationId error =>
    if task ∈ w.ended then none
    else some ((), { w with registry := w.registry.recordResult operationId error })
  | .rerun task operationId =>
    if task ∈ w.ended then none else some (w.rerun task operationId)
  | .abort handle => some ((), { w with aborted := handle :: w.aborted })
  | .join handle => if handle.2 ∈ w.ended then some ((), w) else none
  | .external e =>
    match input with
    | .external f => some (f e, w)
    | _ => none
  | .unfinished => none

/-- A task may end anywhere: it was aborted, or panics. -/
def World.stop (task : ℕ) (w : World) : World := { w with ended := task :: w.ended }

/-- The calls on the service. -/
inductive Request where
  | start (W : Worker) (command : StartOperation)
  | resumeExisting (W : Worker) (operationId : OperationId)
  | cancelSubtree (W : Worker) (command : CancelSubtree)
  | shutdownUntil

def Request.program : Request → ServiceProg ι Outcome
  | .start W command => .handle <$> FirstOperation.start W command
  | .resumeExisting W operationId => .resumed <$> FirstOperation.resumeExisting W operationId
  | .cancelSubtree W command => .cancelled <$> FirstOperation.cancelSubtree W command
  | .shutdownUntil => do
    FirstOperation.shutdownUntil
    return .shut

/-- The task that is spawned by a call. -/
def spawns (rounds : ℕ) : (e : ServiceCall ι) → e.Answer → List (ServiceProg ι Outcome)
  | .register _ job, some task => [job.program rounds task]
  | .registerOrWake _ job, .spawned task => [job.program rounds task]
  | _, _ => []

/-- Where a call may be dropped: not where it aborts a worker, nor at the check of its permit. -/
def ServiceCall.awaits : ServiceCall ι → Bool
  | .abort _ | .external .check => false
  | _ => true

def pool (ι : Type) (rounds : ℕ) : Pool World ℕ Request (Input ι) (ServiceCall ι)
    ServiceCall.Answer FirstOperationError Outcome where
  program := Request.program
  answer w input e := w.answer input e
  forks := spawns rounds
  awaits := ServiceCall.awaits
  outside := World.stop

abbrev State (ι : Type) : Type :=
  Pool.State World (ServiceCall ι) ServiceCall.Answer FirstOperationError Outcome

abbrev Event (ι : Type) : Type := Pool.Event ℕ Request (Input ι)

/-- A new service. -/
def init (ι : Type) : State ι := ⟨⟨⟨true, [], [], [], []⟩, [], [], [], []⟩, []⟩

end FirstOperation

end Navigator
