/-
The commands of the capacity store and of the artifact store.

Capacity is set aside under a request identity of its own, which names the reservation and
is not looked up in the ledger of requests.
-/
import Navigator.Api.Tools
import Navigator.Domain.Artifact

namespace Navigator

open CanonicalInput

/-! ### Reservations -/

structure ReserveCapacity where
  reservationId : RequestId
  sessionId : SessionId
  campaignId : ParticipantId
  resource : CapacityResource
  amount : ℕ

structure ReserveGlobalCapacity where
  reservationId : RequestId
  resource : CapacityResource
  amount : ℕ

/-- A place among the subscribers of a session, for as long as its owner stays. -/
structure SubscriptionLease where
  reservationId : RequestId
  sessionId : SessionId
  campaignId : ParticipantId
  ownerHostId : HostId
  ownerEpoch : FencingEpoch
  expiresAt : Timestamp
deriving DecidableEq

/-- Asking for a lease says all that the lease says. -/
structure ReserveSubscriptionLease where
  lease : SubscriptionLease

/-- What a session has set aside. -/
structure CapacityReservation where
  reservationId : RequestId
  sessionId : SessionId
  campaignId : ParticipantId
  resource : CapacityResource
  amount : ℕ
  released : Bool
deriving DecidableEq

/-- What is set aside for no session in particular. -/
structure GlobalCapacityReservation where
  reservationId : RequestId
  resource : CapacityResource
  amount : ℕ
  released : Bool
deriving DecidableEq

/-! ### Artifacts -/

structure PublishArtifact where
  context : RequestContext
  sessionId : SessionId
  owner : HostId
  epoch : FencingEpoch
  artifactId : ArtifactId
  creatorParticipantId : ParticipantId
  creatorOperationId : OperationId
  mediaType : BoundedText 255
  size : ℕ
  digest : Digest
  locator : String
  retentionUntil : Timestamp
  artifactReservationId : RequestId
  byteReservationId : Option RequestId

instance : MutableRequest PublishArtifact where
  context := PublishArtifact.context
  action _ := .publishArtifact
  canonicalInput _ c :=
    c.sessionId.bytes ++ c.artifactId.bytes ++ c.creatorParticipantId.bytes ++
      c.creatorOperationId.bytes ++ c.owner.bytes ++ u64 c.epoch.get ++
      text c.mediaType.asStr ++ u64 c.size ++ fixed c.digest ++ text c.locator ++
      timestamp c.retentionUntil ++ c.artifactReservationId.bytes ++
      u64 c.byteReservationId.toList.length ++ c.byteReservationId.toList.flatMap Id.bytes

/-- The deletion of an artifact, and its erasure, ask for the same. -/
structure ArtifactRequest where
  context : RequestContext
  sessionId : SessionId
  owner : HostId
  epoch : FencingEpoch
  artifactId : ArtifactId

def ArtifactRequest.input (c : ArtifactRequest) : List UInt8 :=
  c.sessionId.bytes ++ c.artifactId.bytes ++ c.owner.bytes ++ u64 c.epoch.get

structure DeleteArtifact extends ArtifactRequest

instance : MutableRequest DeleteArtifact where
  context c := c.context
  action _ := .deleteArtifact
  canonicalInput _ c := c.input

structure EraseArtifact extends ArtifactRequest

instance : MutableRequest EraseArtifact where
  context c := c.context
  action _ := .eraseArtifact
  canonicalInput _ c := c.input

structure ArtifactAccess where
  sessionId : SessionId
  owner : HostId
  epoch : FencingEpoch
  artifactId : ArtifactId

end Navigator
