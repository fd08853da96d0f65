/-
Artifacts.

What an operation leaves behind: a blob the store knows the size, the digest and the place
of.  An artifact is available until it is deleted, and after its retention it is erased.
-/
import Navigator.Domain.Tool

namespace Navigator

inductive ArtifactState where
  | available | logicallyDeleted | physicallyErased
deriving DecidableEq

/-- The text of a state in its column. -/
def ArtifactState.asStr : ArtifactState → String
  | available => "available"
  | logicallyDeleted => "logically_deleted"
  | physicallyErased => "physically_erased"

structure ArtifactSnapshot where
  artifactId : ArtifactId
  sessionId : SessionId
  creatorParticipantId : ParticipantId
  creatorOperationId : OperationId
  mediaType : BoundedText 255
  size : ℕ
  digest : Digest
  locator : String
  state : ArtifactState
  revision : Revision
  retentionUntil : Timestamp
  createdAt : Timestamp
  deletedAt : Option Timestamp
deriving DecidableEq

/-- A place relative to the root of the blobs, and below it. -/
def isLocator (locator : String) : Bool :=
  (locator.toList.splitOn '/').all fun part => part ≠ [] && part ≠ ['.'] && part ≠ ['.', '.']

/-- `ArtifactSnapshot::structurally_valid`.  A locator that is empty or starts with a slash has
an empty part. -/
def ArtifactSnapshot.structurallyValid (a : ArtifactSnapshot) : Bool :=
  a.size ≤ maxArtifactBytes && isLocator a.locator &&
    a.deletedAt.isNone == decide (a.state = .available)

/-- Where the blob of an artifact is kept. -/
def artifactLocator (sessionId : SessionId) (artifactId : ArtifactId) : String :=
  sessionId.asText ++ "/" ++ artifactId.asText ++ ".blob"

end Navigator
