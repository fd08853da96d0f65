/-
The worker of an operation.

A worker takes one operation to its end: it waits for capacity, begins the operation, has its
input delivered to a driver, and observes the driver's reports until one of them is terminal,
or until it has waited or been told too much.  It writes through transitions of the operation
only, each under a request that its factory of contexts derives.

* **`WorkerCall`** — the calls of a worker on the store, the executor, the capacity and the
  clock;
* **`Worker.execute`**, **`Worker.observe`** — the programs;
* **`Worker.executeExistingWithRetry`**, **`Worker.run`** — how they are run.

The type `ι` is that of the executor's authenticated instances.
-/
import Navigator.Lib.Prog
import Navigator.Api.Commands

namespace Navigator

open Prog

/-! ### Reports -/

inductive DeliveryAcceptance where
  | accepted | notAccepted | unknown
deriving DecidableEq

inductive ExecutorTerminalOutcome where
  | succeeded (result : List UInt8)
  | failed (code detail : String)
  | cancelled
  | blocked (reason : String)
  | uncertain (reason : String)
deriving DecidableEq

inductive ExecutorReport where
  | progress (operationId : OperationId) (messageId : MessageId) (payload : List UInt8)
  | waiting (operationId : OperationId) (messageId : MessageId)
  | idle
  | disconnected
  | terminal (operationId : OperationId) (messageId : MessageId) (outcome : ExecutorTerminalOutcome)
deriving DecidableEq

structure ExecutorError where
  message : String
deriving DecidableEq

/-- `service` is the error of a permit whose admission is closed. -/
inductive WorkerError where
  | store (error : StoreError)
  | service
  | executor (error : ExecutorError)
  | correlation | bound
deriving DecidableEq

/-- What a worker that fails leaves behind: the operation as it has known it last. -/
structure WorkerFailure where
  operation : OperationSnapshot
  error : WorkerError

/-- What an execution comes to, and the operation as the worker has known it last. -/
structure Execution where
  operation : OperationSnapshot
  result : OperationSnapshot

def maxReportsPerOperation : ℕ := 1024
def maxProgressBytes : ℕ := 65536
def maxPreStartRetries : ℕ := 3

/-! ### Calls -/

/-- The calls of a worker: on its permit, the store, the capacity, the executor, those who wait
for it, and the clock.  The next report is waited for until the reminder is due, or, if it was
given, until the deadline. -/
inductive WorkerCall (ι : Type) where
  | check
  | start (c : StartOperation)
  | campaign (participantId : ParticipantId)
  | load (operationId : OperationId)
  | input (operationId : OperationId)
  | transition (c : TransitionOperation)
  | acquire (campaign : ParticipantId)
  | ensureReady (operation : OperationSnapshot)
  | deliver (driver : ι) (operation : OperationSnapshot) (input : List UInt8)
  | nextReport (driver : ι) (operation : OperationSnapshot) (reminded : Bool)
  | acknowledgeReport (driver : ι) (operationId : OperationId) (messageId : MessageId)
  | remind (driver : ι) (operation : OperationSnapshot)
  | admitted (result : Except StoreError (Mutation OperationSnapshot))
  | completion (result : Except WorkerError OperationSnapshot)
  | sleep

/-- Capacity is not acquired, and a report is not answered, if the time is over. -/
abbrev WorkerCall.Answer {ι : Type} : WorkerCall ι → Type
  | check => Bool
  | start _ | transition _ => Except StoreError (Mutation OperationSnapshot)
  | campaign _ => Except StoreError ParticipantId
  | load _ => Except StoreError OperationSnapshot
  | input _ => Except StoreError (List UInt8)
  | acquire _ => Bool
  | ensureReady _ => Except ExecutorError ι
  | deliver .. => Except ExecutorError DeliveryAcceptance
  | nextReport .. => Option (Except ExecutorError ExecutorReport)
  | acknowledgeReport .. | remind .. => Except ExecutorError Unit
  | admitted _ | completion _ | sleep => Unit

abbrev WorkerProg (ι α : Type) : Type := Prog (WorkerCall ι) WorkerCall.Answer WorkerFailure α

/-- A worker: its factory of contexts, and the epoch of its owner. -/
structure Worker where
  contexts : OperationId → OperationAction → ℕ → RequestContext
  epoch : FencingEpoch

namespace Worker

variable {ι : Type} (W : Worker) (o : OperationSnapshot)

abbrev ask (e : WorkerCall ι) : WorkerProg ι e.Answer := perform e

def failWith {α : Type} (error : WorkerError) : WorkerProg ι α := Prog.fail ⟨o, error⟩

/-- An answer of the store. -/
def stored {α : Type} : Except StoreError α → WorkerProg ι α
  | .ok a => return a
  | .error error => failWith o (.store error)

/-- An answer of the executor. -/
def executed {α : Type} : Except ExecutorError α → WorkerProg ι α
  | .ok a => return a
  | .error error => failWith o (.executor error)

/-- `AdmissionPermit::check`. -/
def check : WorkerProg ι Unit := do
  if ← ask .check then return () else failWith o .service

/-! ### Transitions -/

/-- `transition`. -/
def transition (action : OperationAction) (reportMessageId : Option MessageId)
    (terminalOutcome : Option OperationTerminalOutcome) (ordinal : ℕ) :
    WorkerProg ι OperationSnapshot := do
  check o
  let mutation ← stored o (← ask (.transition
    { context := W.contexts o.operationId action ordinal
      sessionId := o.sessionId
      epoch := W.epoch
      operationId := o.operationId
      expectedRevision := o.revision
      action
      reportMessageId
      terminalOutcome }))
  return mutation.value

def boundedText (max : ℕ) (text : String) : Except WorkerError (BoundedText max) :=
  if h : text ≠ "" ∧ text.utf8ByteSize ≤ max then .ok ⟨text, h⟩ else .error .bound

def boundedBytes (max : ℕ) (bytes : List UInt8) : Except WorkerError (BoundedBytes max) :=
  if h : bytes.length ≤ max then .ok ⟨bytes, h⟩ else .error .bound

/-- `terminal`. -/
def terminal : ExecutorTerminalOutcome →
    Except WorkerError (OperationAction × OperationTerminalOutcome)
  | .succeeded result => do
    return (.reportSuccess, .succeeded (← boundedBytes _ result))
  | .failed code detail => do
    return (.reportFailure, .failed (← boundedText _ code) (← boundedText _ detail))
  | .cancelled => return (.reportCancelled, .cancelled)
  | .blocked reason => do return (.reportBlocked, .blocked (← boundedText _ reason))
  | .uncertain reason => do return (.reportUncertain, .uncertain (← boundedText _ reason))

/-- The outcome in the place of one that exceeds its bound. -/
def invalidReport : OperationTerminalOutcome :=
  .failed ⟨"invalid_report", by decide⟩ ⟨"Executor terminal report exceeded its bound", by decide⟩

/-- The action and the outcome that a terminal report is committed with. -/
def committed (outcome : ExecutorTerminalOutcome) :
    OperationAction × OperationTerminalOutcome :=
  match terminal outcome with
  | .ok value => value
  | .error _ => (.reportFailure, invalidReport)

/-- `commit_terminal`. -/
def commitTerminal (outcome : ExecutorTerminalOutcome) (ordinal : ℕ) :
    WorkerProg ι Execution := do
  let result ← W.transition o (committed outcome).1 (some o.inputMessageId)
    (some (committed outcome).2) ordinal
  return ⟨o, result⟩

/-- `system_report_message`. -/
def systemReportMessage : Option MessageId :=
  if o.state = .running ∨ o.state = .waiting ∨ o.state = .cancelling then some o.inputMessageId
  else none

def bounded {α : Type} : Except WorkerError α → WorkerProg ι α
  | .ok a => return a
  | .error error => failWith o error

/-- `fail`. -/
def fail (code detail : String) (ordinal : ℕ) : WorkerProg ι Execution := do
  let code ← bounded o (boundedText _ code)
  let detail ← bounded o (boundedText _ detail)
  let result ← W.transition o .reportFailure (systemReportMessage o)
    (some (.failed code detail)) ordinal
  return ⟨o, result⟩

/-- `uncertain`. -/
def uncertain (reason : String) (ordinal : ℕ) : WorkerProg ι Execution := do
  let reason ← bounded o (boundedText _ reason)
  let result ← W.transition o .reportUncertain (systemReportMessage o)
    (some (.uncertain reason)) ordinal
  return ⟨o, result⟩

/-! ### Observation -/

def cancellationPending : WorkerError :=
  .executor ⟨"cancellation remains pending without an authenticated terminal report"⟩

/-- What becomes of an operation that cannot be observed any more: one that is being cancelled
stays as it is. -/
def unlessCancelling (p : WorkerProg ι Execution) : WorkerProg ι Execution :=
  if o.state = .cancelling then failWith o cancellationPending else p

/-- The driver is reminded, and then observed further. -/
def remindThen (driver : ι) (next : WorkerProg ι Execution) :
    WorkerProg ι Execution := do
  match ← ask (.remind driver o) with
  | .ok () => next
  | .error _ => unlessCancelling o (W.uncertain o "Driver reminder delivery failed" 3)

/-- A question of the driver's. -/
def onWaiting (driver : ι) (operationId : OperationId) (messageId : MessageId) :
    WorkerProg ι Execution := do
  if o.operationId ≠ operationId then
    W.fail o "invalid_correlation"
      "Driver question does not identify the delivered Operation and Message" 3
  else
    let waiting ← stored o (← ask (.load o.operationId))
    if waiting.state ≠ .waiting ∨ waiting.waitingOnMessageId.isNone then
      W.fail o "invalid_question" "Question was not committed atomically" 3
    else
      executed o (← ask (.acknowledgeReport driver operationId messageId))
      return ⟨o, waiting⟩

/-- Progress of the driver's. -/
def onProgress (driver : ι) (operationId : OperationId) (messageId : MessageId)
    (payload : List UInt8) (next : WorkerProg ι Execution) :
    WorkerProg ι Execution := do
  if o.operationId ≠ operationId then
    W.fail o "invalid_correlation"
      "Driver report does not identify the delivered Operation and Message" 3
  else if maxProgressBytes < payload.length then
    W.fail o "invalid_report" "Progress exceeds bound" 3
  else
    executed o (← ask (.acknowledgeReport driver operationId messageId))
    next

/-- The driver's last report. -/
def onTerminal (driver : ι) (operationId : OperationId) (messageId : MessageId)
    (outcome : ExecutorTerminalOutcome) : WorkerProg ι Execution := do
  if o.operationId ≠ operationId then
    W.fail o "invalid_correlation"
      "Driver terminal report does not identify the delivered Operation and Message" 3
  else
    let current ← stored o (← ask (.load o.operationId))
    let ended ← W.commitTerminal current outcome 3
    executed current (← ask (.acknowledgeReport driver operationId messageId))
    return ended

/-- One round of `observe`.  What follows on the reminder is there if it was not given, and what
follows on another report, given whether the driver was reminded, if more are allowed. -/
def observeRound (driver : ι) (later : Option (WorkerProg ι Execution))
    (again : Option (Bool → WorkerProg ι Execution)) : WorkerProg ι Execution := do
  match ← ask (.nextReport driver o later.isNone) with
  | none =>
    match later with
    | some later => W.remindThen o driver later
    | none => unlessCancelling o (W.fail o "result_deadline"
        "Executor produced no explicit terminal report" 3)
  | some (.error error) => unlessCancelling o (W.uncertain o error.message 3)
  | some (.ok report) =>
    match again with
    | none => W.fail o "report_capacity" "Driver report budget was exhausted" 3
    | some again =>
      match report with
      | .waiting operationId messageId => W.onWaiting o driver operationId messageId
      | .progress operationId messageId payload =>
        W.onProgress o driver operationId messageId payload (again later.isNone)
      | .idle =>
        if later.isSome then W.remindThen o driver (again true)
        else unlessCancelling o (W.fail o "result_deadline"
          "Executor settled without an explicit terminal report" 3)
      | .disconnected => again later.isNone
      | .terminal operationId messageId outcome =>
        W.onTerminal o driver operationId messageId outcome

/-- The rest of `observe` once the driver was reminded, with so many reports left. -/
def observeReminded (driver : ι) : ℕ → WorkerProg ι Execution
  | 0 => W.observeRound o driver none none
  | left + 1 => W.observeRound o driver none (some fun _ => observeReminded driver left)

/-- `observe`, with so many reports left. -/
def observeFor (driver : ι) : ℕ → WorkerProg ι Execution
  | 0 => W.observeRound o driver (some (W.observeReminded o driver 0)) none
  | left + 1 =>
    W.observeRound o driver (some (W.observeReminded o driver (left + 1)))
      (some fun reminded =>
        if reminded then W.observeReminded o driver left else observeFor driver left)

/-- `observe`. -/
def observe (driver : ι) : WorkerProg ι Execution :=
  W.observeFor o driver maxReportsPerOperation

/-! ### Execution -/

/-- The input is delivered, and the operation is running if it was accepted. -/
def deliverInput (driver : ι) : WorkerProg ι Execution := do
  check o
  let input ← stored o (← ask (.input o.operationId))
  check o
  match ← ask (.deliver driver o input) with
  | .error _ => W.uncertain o "Driver delivery failed after durable intent" 2
  | .ok .notAccepted =>
    W.fail o "delivery_rejected" "Driver did not accept the durable Message" 2
  | .ok .unknown => W.uncertain o "delivery acceptance is unknown" 2
  | .ok .accepted =>
    let running ← W.transition o .reportRunning (some o.inputMessageId) none 2
    W.observe running driver

/-- What is left to do once there is capacity and the operation has begun. -/
def executeStarted : WorkerProg ι Execution := do
  let current ← stored o (← ask (.load o.operationId))
  if current.state = .cancelled then return ⟨current, current⟩
  else
    match ← ask (.ensureReady current) with
    | .error _ => W.fail current "executor_unavailable" "Executor could not become ready" 2
    | .ok driver =>
      if current.state = .running ∨ current.state = .waiting ∨ current.state = .cancelling then
        W.observe current driver
      else W.deliverInput current driver

/-- `execute`. -/
def execute : WorkerProg ι Execution := do
  if o.state.isTerminal then return ⟨o, o⟩
  else
    let campaign ← stored o (← ask (.campaign o.participantId))
    if ← ask (.acquire campaign) then
      if o.state = .queued then
        let started ← W.transition o .beginStart none none 1
        W.executeStarted started
      else W.executeStarted o
    else W.fail o "capacity" "execution capacity deadline elapsed" 1

/-- `execute_existing_with_retry`, with so many attempts left after the first. -/
def executeWithRetry : ℕ → OperationSnapshot → WorkerProg ι Execution
  | left, o => do
    match ← (W.execute o).attempt with
    | .ok ended => return ended
    | .error failure =>
      match ← ask (.load failure.operation.operationId), left with
      | .error _, 0 => Prog.fail failure
      | .error _, left + 1 =>
        check failure.operation
        ask .sleep
        executeWithRetry left failure.operation
      | .ok reloaded, left =>
        if reloaded.state ≠ .queued then Prog.fail failure
        else
          match left with
          | 0 => Prog.fail ⟨reloaded, failure.error⟩
          | left + 1 =>
            check reloaded
            ask .sleep
            executeWithRetry left reloaded

def executeExistingWithRetry : WorkerProg ι Execution :=
  W.executeWithRetry (maxPreStartRetries - 1) o

/-- `run`. -/
def run (command : StartOperation) : WorkerProg ι Unit := do
  match ← ask (.start command) with
  | .error error => ask (.admitted (.error error))
  | .ok started =>
    ask (.admitted (.ok started))
    match ← (W.execute started.value).attempt with
    | .ok ended => ask (.completion (.ok ended.result))
    | .error failure => ask (.completion (.error failure.error))

end Worker

end Navigator
