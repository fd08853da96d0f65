/-
The supervision of the ownership of a session.

A supervisor renews its lease from time to time, in the background or when asked to, and
keeps a gate through which work is admitted.  Whoever finds that the session is lost closes
the gate and then reports the loss.  The gate, the lease and the status are separate cells,
and everybody may be stopped between two accesses.

* **`Ownership.tick`**, **`Ownership.lose`**, **`Ownership.background`**,
  **`Ownership.shutdown`** — the programs;
* **`Ownership.pool`** — any number of them over the same cells.
-/
import Navigator.Lib.Pool
import Navigator.Api.Commands

namespace Navigator

open Prog

inductive OwnershipLoss where
  | expired | renewalFailed | stale | shutdown
deriving DecidableEq

inductive OwnershipStatus where
  | active (sessionId : SessionId) (epoch : FencingEpoch) (expiresAt : Timestamp)
  | lost (sessionId : SessionId) (epoch : FencingEpoch) (reason : OwnershipLoss)
deriving DecidableEq

def OwnershipStatus.isActive : OwnershipStatus → Bool
  | active .. => true
  | lost .. => false

/-- A permit is of the generation of the gate in which it was given. -/
structure AdmissionPermit where
  generation : ℕ
deriving DecidableEq

inductive ReleaseOutcome where
  | released | failed | timedOut | commandFailed
deriving DecidableEq

/-- Why the worker goes on: the renewal period is over, it was told to stop, or its task was
aborted. -/
inductive Wakening where
  | due | stopped | aborted
deriving DecidableEq

namespace Ownership

/-! ### The cells -/

/-- The accesses to the cells of a supervisor, and its calls on the clock, the factories, the
store and the task of its worker. -/
inductive Cell where
  | isOpen
  | generation
  | shut
  | bump
  | now
  | lease
  | setLease (lease : OwnershipLease)
  | setStatus (status : OwnershipStatus)
  | createRenewal (lease : OwnershipLease)
  | renewOwnership (command : RenewOwnership)
  | stopRunning
  | pause
  | sendStop
  | joinWorker
  | createRelease (lease : OwnershipLease)
  | releaseOwnership (command : ReleaseOwnership)

/-- A renewal that is not answered is one whose future was dropped. -/
abbrev Cell.Answer : Cell → Type
  | isOpen => Bool
  | generation => ℕ
  | now => Timestamp
  | lease => OwnershipLease
  | createRenewal _ => Option RenewOwnership
  | renewOwnership _ => Option (Except StoreError OwnershipLease)
  | pause => Wakening
  | createRelease _ => Option ReleaseOwnership
  | releaseOwnership _ => ReleaseOutcome
  | shut | bump | setLease _ | setStatus _ | stopRunning | sendStop | joinWorker => Unit

/-- The errors of a tick, and its being dropped. -/
inductive Failure where
  | admissionClosed | renewalCommand | invalidRenewedLease
  | store (error : StoreError)
  | dropped

inductive Result where
  | admitted (permit : AdmissionPermit)
  | checked (permit : AdmissionPermit)
  | finished

abbrev OwnershipProg (α : Type) : Type := Prog Cell Cell.Answer Failure α

abbrev ask (e : Cell) : OwnershipProg e.Answer := perform e

/-! ### The programs -/

/-- `AdmissionPermit::check`. -/
def check (permit : AdmissionPermit) : OwnershipProg Unit := do
  if ← ask .isOpen then
    let generation ← ask .generation
    if generation = permit.generation then return ()
    else Prog.fail .admissionClosed
  else Prog.fail .admissionClosed

/-- `AdmissionGate::admit`. -/
def gateAdmit : OwnershipProg AdmissionPermit := do
  let generation ← ask .generation
  check ⟨generation⟩
  return ⟨generation⟩

/-- `AdmissionGate::close`. -/
def close : OwnershipProg Unit := do
  ask .shut
  ask .bump

/-- `OwnershipState::lose`. -/
def lose (lease : OwnershipLease) (reason : OwnershipLoss) : OwnershipProg Unit := do
  close
  ask (.setStatus (.lost lease.sessionId lease.epoch reason))

/-- A renewed lease is that of the session, the owner and the epoch, and in force. -/
def isRenewal (lease renewed : OwnershipLease) (now : Timestamp) : Bool :=
  renewed.sessionId = lease.sessionId && renewed.owner = lease.owner &&
    renewed.epoch = lease.epoch && now < renewed.expiresAt

/-- `OwnershipState::tick`. -/
def tick : OwnershipProg Unit := do
  if ← ask .isOpen then
    let now ← ask .now
    let lease ← ask .lease
    if lease.expiresAt ≤ now then
      lose lease .expired
      Prog.fail .admissionClosed
    else
      match ← ask (.createRenewal lease) with
      | none =>
        lose lease .renewalFailed
        Prog.fail .renewalCommand
      | some command =>
        match ← ask (.renewOwnership command) with
        | none => Prog.fail .dropped
        | some (.ok renewed) =>
          if isRenewal lease renewed (← ask .now) then
            ask (.setLease renewed)
            ask (.setStatus (.active renewed.sessionId renewed.epoch renewed.expiresAt))
          else
            lose lease .renewalFailed
            Prog.fail .invalidRenewedLease
        | some (.error error) =>
          lose lease (match error with | .staleOwnership .. => .stale | _ => .renewalFailed)
          Prog.fail (.store error)
  else Prog.fail .admissionClosed

/-- `WorkerGuard::drop`. -/
def guardDrop (sessionId : SessionId) (epoch : FencingEpoch) : OwnershipProg Unit := do
  ask .stopRunning
  if ← ask .isOpen then
    close
    ask (.setStatus (.lost sessionId epoch .renewalFailed))

/-- The worker in the background, for at most so many periods. -/
def background (sessionId : SessionId) (epoch : FencingEpoch) : ℕ → OwnershipProg Unit
  | 0 => guardDrop sessionId epoch
  | periods + 1 => do
    match ← ask .pause with
    | .stopped | .aborted => guardDrop sessionId epoch
    | .due =>
      match ← tick.attempt with
      | .ok () => background sessionId epoch periods
      | .error _ => guardDrop sessionId epoch

/-- `OwnershipSupervisor::drop`. -/
def supervisorDrop : OwnershipProg Unit := do
  close
  ask .sendStop

/-- `shutdown`, and the drop of the supervisor at its end. -/
def shutdown : OwnershipProg Unit := do
  let lease ← ask .lease
  lose lease .shutdown
  ask .sendStop
  ask .joinWorker
  match ← ask (.createRelease lease) with
  | some command =>
    let _ ← ask (.releaseOwnership command)
    supervisorDrop
  | none => supervisorDrop

/-- `shutdown_after_ownership_cleared`, and the drop of the supervisor at its end. -/
def shutdownAfterOwnershipCleared : OwnershipProg Unit := do
  let lease ← ask .lease
  lose lease .shutdown
  ask .sendStop
  ask .joinWorker
  supervisorDrop

/-- What threads may run. -/
inductive Role where
  | gateAdmit
  | check (permit : AdmissionPermit)
  | tick
  | background (sessionId : SessionId) (epoch : FencingEpoch) (periods : ℕ)
  | shutdown
  | shutdownAfterOwnershipCleared

def Role.program : Role → OwnershipProg Result
  | .gateAdmit => do return .admitted (← Ownership.gateAdmit)
  | .check permit => do
    Ownership.check permit
    return .checked permit
  | .tick => do
    Ownership.tick
    return .finished
  | .background sessionId epoch periods => do
    Ownership.background sessionId epoch periods
    return .finished
  | .shutdown => do
    Ownership.shutdown
    return .finished
  | .shutdownAfterOwnershipCleared => do
    Ownership.shutdownAfterOwnershipCleared
    return .finished

/-! ### The system -/

structure World where
  isOpen : Bool
  generation : ℕ
  lease : OwnershipLease
  status : OwnershipStatus
  running : Bool
deriving DecidableEq

/-- What a thread is told that is not in the cells. -/
inductive Input where
  | go
  | time (now : Timestamp)
  | renewal (command : Option RenewOwnership)
  | renewed (answer : Option (Except StoreError OwnershipLease))
  | woken (wakening : Wakening)
  | release (command : Option ReleaseOwnership)
  | outcome (outcome : ReleaseOutcome)

def World.answer (w : World) : Input → (e : Cell) → Option (e.Answer × World)
  | .go, .isOpen => some (w.isOpen, w)
  | .go, .generation => some (w.generation, w)
  | .go, .shut => some ((), { w with isOpen := false })
  | .go, .bump => some ((), { w with generation := w.generation + 1 })
  | .time now, .now => some (now, w)
  | .go, .lease => some (w.lease, w)
  | .go, .setLease lease => some ((), { w with lease })
  | .go, .setStatus status => some ((), { w with status })
  | .renewal command, .createRenewal _ => some (command, w)
  | .renewed answer, .renewOwnership _ => some (answer, w)
  | .go, .stopRunning => some ((), { w with running := false })
  | .woken wakening, .pause => some (wakening, w)
  | .go, .sendStop => some ((), w)
  | .go, .joinWorker => some ((), w)
  | .release command, .createRelease _ => some (command, w)
  | .outcome outcome, .releaseOwnership _ => some (outcome, w)
  | _, _ => none

/-- The cells of a supervisor that has just started. -/
def World.start (lease : OwnershipLease) : World :=
  ⟨true, 1, lease, .active lease.sessionId lease.epoch lease.expiresAt, true⟩

/-- Any number of threads over the cells of one supervisor. -/
def pool : Pool World Empty Role Input Cell Cell.Answer Failure Result where
  program := Role.program
  answer := World.answer
  forks _ _ := []
  awaits _ := false
  outside x := nomatch x

abbrev State : Type := Pool.State World Cell Cell.Answer Failure Result
abbrev Event : Type := Pool.Event Empty Role Input

/-- The state of a supervisor that has just started. -/
def start (lease : OwnershipLease) : State := ⟨.start lease, []⟩

end Ownership

end Navigator
