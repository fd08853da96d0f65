/-
Artifacts in the store.

Publishing an artifact turns what its creator has set aside into use.  The clock is read
anew at each step of these calls: the reading under which the caller is checked need not be
the one that is recorded.
-/
import Navigator.Store.Capacity
import Navigator.Store.Effects

namespace Navigator

open Txn Tx

/-- `authorize_artifact`. -/
def authorizeArtifact (sessionId : SessionId) (owner : HostId) (epoch : FencingEpoch)
    (observedAt : Timestamp) : Write Unit := do
  let _ ← authorizeOwner sessionId owner epoch .publishArtifact observedAt

/-- `load_artifact_in`. -/
def loadArtifact (s : Store) (id : ArtifactId) : Except StoreError (Option ArtifactSnapshot) :=
  match s.artifacts.find? id with
  | none => .ok none
  | some a => if a.structurallyValid then .ok (some a) else .error .corrupt

/-! ### Publication -/

def PublishArtifact.snapshot (c : PublishArtifact) (now : Timestamp) : ArtifactSnapshot where
  artifactId := c.artifactId
  sessionId := c.sessionId
  creatorParticipantId := c.creatorParticipantId
  creatorOperationId := c.creatorOperationId
  mediaType := c.mediaType
  size := c.size
  digest := c.digest
  locator := c.locator
  state := .available
  revision := .initial
  retentionUntil := c.retentionUntil
  createdAt := now
  deletedAt := none

/-- The bytes of an artifact are taken from a reservation, unless there are none. -/
def consumeBytes (c : PublishArtifact) : Write Unit :=
  match c.byteReservationId with
  | none => ensure (c.size = 0) .invalid
  | some id => do
    ensure (c.size ≠ 0) .invalid
    consumeCapacityReservation id c.sessionId c.creatorParticipantId .artifactBytes c.size

/-- A publication that is new to the ledger. -/
def publishNew (env : Env) (observedAt now : Timestamp) (c : PublishArtifact) :
    Write (Mutation ArtifactSnapshot) := do
  authorizeArtifact c.sessionId c.owner c.epoch observedAt
  let creator ← ofExcept (← read (loadParticipant · c.creatorParticipantId))
  let creator ← orAbort creator (.participantNotFound c.creatorParticipantId)
  let operation ← ofExcept (← read (loadOperation · c.creatorOperationId))
  let operation ← orAbort operation (.operationNotFound c.creatorOperationId)
  ensure (creator.sessionId = c.sessionId ∧ operation.sessionId = c.sessionId ∧
    operation.participantId = c.creatorParticipantId) .invalid
  ensure (c.locator = artifactLocator c.sessionId c.artifactId ∧ c.size ≤ maxArtifactBytes) .invalid
  let snapshot := c.snapshot now
  ensure (snapshot.structurallyValid = true) .invalid
  consumeCapacityReservation c.artifactReservationId c.sessionId c.creatorParticipantId .artifacts 1
  consumeBytes c
  ensureDerivedCapacity env c.sessionId .artifacts 1
  ensureDerivedCapacity env c.sessionId .artifactBytes c.size
  let artifacts ← orAbort ((← read Store.artifacts).insert? snapshot) .unavailable
  write fun s => { s with artifacts }
  appendEvent env c.context.requestId c.sessionId snapshot.revision .artifactPublished now
  record env c.sessionId c .applied (.artifact snapshot)
  return .applied snapshot

/-- `publish_artifact`. -/
def publishArtifact (env : Env) (observedAt now : Timestamp) (c : PublishArtifact) :
    Write (Mutation ArtifactSnapshot) :=
  replayOrWrite env c (fun value => orAbort value.artifact? .corrupt)
    (publishNew env observedAt now c)

/-! ### Deletion and erasure -/

/-- `UPDATE artifacts … WHERE artifact_id=? AND revision=?`: the artifact was just read. -/
def updateArtifact (a : ArtifactSnapshot) : Write Unit := do
  ensure (a.revision.get < i64Bound) .corrupt
  write fun s => { s with artifacts := s.artifacts.replace a }

/-- A deletion that is new to the ledger. -/
def deleteNew (env : Env) (observedAt now : Timestamp) (c : DeleteArtifact) :
    Write (Mutation ArtifactSnapshot) := do
  authorizeArtifact c.sessionId c.owner c.epoch observedAt
  let found ← ofExcept (← read (loadArtifact · c.artifactId))
  let a ← orAbort found (.artifactNotFound c.artifactId)
  ensure (a.sessionId = c.sessionId) .invalid
  ensure (a.state = .available) .invalid
  let revision ← orAbort a.revision.next .corrupt
  let snapshot := { a with state := .logicallyDeleted, deletedAt := some now, revision }
  updateArtifact snapshot
  appendEvent env c.context.requestId c.sessionId revision .artifactLogicallyDeleted now
  record env c.sessionId c .applied (.artifact snapshot)
  return .applied snapshot

/-- `logically_delete_artifact`. -/
def logicallyDeleteArtifact (env : Env) (observedAt now : Timestamp) (c : DeleteArtifact) :
    Write (Mutation ArtifactSnapshot) :=
  replayOrWrite env c (fun value => orAbort value.artifact? .corrupt)
    (deleteNew env observedAt now c)

/-- The artifact an erasure is about, deleted and past its retention. -/
def erasable (c : EraseArtifact) (checkedAt : Timestamp) : Write ArtifactSnapshot := do
  let found ← ofExcept (← read (loadArtifact · c.artifactId))
  let a ← orAbort found (.artifactNotFound c.artifactId)
  ensure (a.sessionId = c.sessionId ∧ a.state = .logicallyDeleted ∧
    a.retentionUntil ≤ checkedAt) .invalid
  return a

/-- An erasure that is new to the ledger. -/
def eraseNew (env : Env) (observedAt checkedAt now : Timestamp) (c : EraseArtifact) :
    Write (Mutation ArtifactSnapshot) := do
  authorizeArtifact c.sessionId c.owner c.epoch observedAt
  let a ← erasable c checkedAt
  let revision ← orAbort a.revision.next .corrupt
  let snapshot := { a with state := .physicallyErased, revision }
  updateArtifact snapshot
  appendEvent env c.context.requestId c.sessionId revision .artifactPhysicallyErased now
  record env c.sessionId c .applied (.artifact snapshot)
  return .applied snapshot

/-- `record_physical_erasure`. -/
def recordPhysicalErasure (env : Env) (observedAt checkedAt now : Timestamp)
    (c : EraseArtifact) : Write (Mutation ArtifactSnapshot) :=
  replayOrWrite env c (fun value => orAbort value.artifact? .corrupt)
    (eraseNew env observedAt checkedAt now c)

/-- `authorize_physical_erasure`. -/
def authorizePhysicalErasure (env : Env) (observedAt checkedAt : Timestamp)
    (c : EraseArtifact) : Write (Mutation ArtifactSnapshot) :=
  replayOrWrite env c
    (fun value => do
      let snapshot ← orAbort value.artifact? .corrupt
      ensure (snapshot.state = .physicallyErased) .corrupt
      return snapshot)
    do
      authorizeArtifact c.sessionId c.owner c.epoch observedAt
      return .unchanged (← erasable c checkedAt)

/-- `load_artifact`. -/
def readArtifact (observedAt : Timestamp) (c : ArtifactAccess) :
    Write (Mutation ArtifactSnapshot) := do
  authorizeArtifact c.sessionId c.owner c.epoch observedAt
  let found ← ofExcept (← read (loadArtifact · c.artifactId))
  let available := found.filter fun a => a.sessionId = c.sessionId && a.state = .available
  return .unchanged (← orAbort available (.artifactNotFound c.artifactId))

end Navigator
