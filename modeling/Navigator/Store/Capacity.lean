/-
Reservations of capacity.

Capacity can be set aside before it is used: for a session, for no session in particular, or
as a place among the subscribers of a session.  How much is set aside is kept in counters of
its own, which every reservation, release and use adjusts, and which are computed anew from
the reservations of the sessions whenever lapsed subscriptions are cleared away.
-/
import Navigator.Store.Mailbox

namespace Navigator

open Txn Tx

/-! ### Counters -/

namespace Quotas

/-- A session's counter is set, whether it exists or not. -/
def putSession (q : Quotas) (sessionId : SessionId) (resource : CapacityResource) (used : ℕ) :
    Quotas :=
  { q with sessionUsage := q.sessionUsage.upsert ⟨sessionId, resource, used⟩ }

/-- The counter of all sessions is set, whether it exists or not. -/
def putGlobal (q : Quotas) (resource : CapacityResource) (used : ℕ) : Quotas :=
  { q with globalUsage := q.globalUsage.upsert ⟨resource, used⟩ }

/-- A session's counter is set if it exists; at zero it is deleted. -/
def setSession (q : Quotas) (sessionId : SessionId) (resource : CapacityResource) (used : ℕ) :
    Quotas :=
  { q with
    sessionUsage :=
      if used = 0 then
        q.sessionUsage.filter fun u => ¬(u.sessionId = sessionId ∧ u.resource = resource)
      else q.sessionUsage.modify (sessionId, resource) ({ · with used }) (fun _ => rfl) }

/-- The counter of all sessions is set if it exists; at zero it is deleted. -/
def setGlobal (q : Quotas) (resource : CapacityResource) (used : ℕ) : Quotas :=
  { q with
    globalUsage :=
      if used = 0 then q.globalUsage.filter fun u => u.resource ≠ resource
      else q.globalUsage.modify resource ({ · with used }) (fun _ => rfl) }

/-- A session's counter is lowered, if it is high enough. -/
def lowerSession (q : Quotas) (sessionId : SessionId) (resource : CapacityResource)
    (amount : ℕ) : Option Quotas :=
  match q.sessionUsage.find? (sessionId, resource) with
  | some u => if amount ≤ u.used then some (q.putSession sessionId resource (u.used - amount))
    else none
  | none => none

/-- The counter of all sessions is lowered, if it is high enough. -/
def lowerGlobal (q : Quotas) (resource : CapacityResource) (amount : ℕ) : Option Quotas :=
  match q.globalUsage.find? resource with
  | some u => if amount ≤ u.used then some (q.putGlobal resource (u.used - amount)) else none
  | none => none

/-- What a session has set aside of a resource, by its reservations. -/
def heldBySession (q : Quotas) (sessionId : SessionId) (resource : CapacityResource) : ℕ :=
  q.reservations.total fun r =>
    if r.sessionId = sessionId && r.resource = resource && !r.released then r.amount else 0

/-- What all sessions have set aside of a resource, by their reservations. -/
def heldBySessions (q : Quotas) (resource : CapacityResource) : ℕ :=
  q.reservations.total fun r => if r.resource = resource && !r.released then r.amount else 0

end Quotas

/-- Change the tables of what is set aside. -/
def writeQuotas (f : Quotas → Quotas) : Write Unit :=
  write fun s => { s with quotas := f s.quotas }

/-! ### Reservations of a session -/

/-- `INSERT INTO capacity_reservations`. -/
def insertReservation (r : CapacityReservation) : Write Unit := do
  let reservations ← orAbort ((← read (·.quotas.reservations)).insert? r) .unavailable
  writeQuotas fun q => { q with reservations }

def ReserveCapacity.reservation (c : ReserveCapacity) : CapacityReservation :=
  ⟨c.reservationId, c.sessionId, c.campaignId, c.resource, c.amount, false⟩

/-- `reserve_capacity`. -/
def reserveCapacity (env : Env) (c : ReserveCapacity) : Write (Mutation CapacityReservation) := do
  let overSession := StoreError.capacityExceeded (.sessionLimit c.resource)
  let overGlobal := StoreError.capacityExceeded (.globalLimit c.resource)
  ensure (c.resource ≠ .subscriptions) .invalid
  ensure (c.amount ≠ 0) .invalid
  match ← read (·.quotas.reservations.find? c.reservationId) with
  | some existing =>
    ensure (existing = { c.reservation with released := existing.released })
      (.requestConflict c.reservationId)
    return .replayed existing
  | none =>
    ensure ((← read (·.participantSession c.campaignId)) = some c.sessionId)
      (.participantNotFound c.campaignId)
    let s ← read id
    let derived := derivedCapacityUsage env s c.sessionId c.resource
    let sessionUsed := s.quotas.sessionUsed c.sessionId c.resource
    let globalUsed := s.quotas.globalUsed c.resource
    ensure (derived.1 + sessionUsed + c.amount < u64Bound) overSession
    ensure (derived.2 + globalUsed + c.amount < u64Bound) overGlobal
    ensure (derived.1 + sessionUsed + c.amount ≤ (env.limits c.resource).perSession) overSession
    ensure (derived.2 + globalUsed + c.amount ≤ (env.limits c.resource).global) overGlobal
    insertReservation c.reservation
    writeQuotas fun q =>
      (q.putSession c.sessionId c.resource (sessionUsed + c.amount)).putGlobal c.resource
        (globalUsed + c.amount)
    return .applied c.reservation

/-- A reservation is spent: it is released, and the counters are lowered. -/
def spendReservation (r : CapacityReservation) : Write Unit := do
  writeQuotas fun q =>
    { q with reservations := q.reservations.replace { r with released := true } }
  let q ← orAbort ((← read Store.quotas).lowerSession r.sessionId r.resource r.amount) .corrupt
  let q ← orAbort (q.lowerGlobal r.resource r.amount) .corrupt
  writeQuotas fun _ => q

/-- A reservation is spent unless it was before. -/
def spendHeld (r : CapacityReservation) : Write Unit :=
  if r.released then pure () else spendReservation r

/-- What is left of a released place among the subscribers: nothing. -/
def Quotas.dropSubscription (q : Quotas) (r : CapacityReservation) : Quotas :=
  { q with
    reservations := q.reservations.filter fun x =>
      ¬(x.reservationId = r.reservationId ∧ x.released = true)
    subscriptionLeases := q.subscriptionLeases.filter fun l => l.reservationId ≠ r.reservationId
    sessionUsage := q.sessionUsage.filter fun u =>
      ¬(u.sessionId = r.sessionId ∧ u.resource = r.resource ∧ u.used = 0)
    globalUsage := q.globalUsage.filter fun u => ¬(u.resource = r.resource ∧ u.used = 0) }

/-- `release_capacity`. -/
def releaseCapacity (reservationId : RequestId) : Write (Mutation CapacityReservation) := do
  let r ← orAbort (← read (·.quotas.reservations.find? reservationId)) .invalid
  spendHeld r
  writeQuotas fun q => if r.resource = .subscriptions then q.dropSubscription r else q
  return .applied { r with released := true }

/-- `consume_capacity_reservation`. -/
def consumeCapacityReservation (reservationId : RequestId) (sessionId : SessionId)
    (campaignId : ParticipantId) (resource : CapacityResource) (amount : ℕ) : Write Unit := do
  let r ← orAbort (← read (·.quotas.reservations.find? reservationId)) .invalid
  ensure (r.sessionId = sessionId ∧ r.campaignId = campaignId ∧ r.resource = resource ∧
    r.amount = amount ∧ r.released = false) .invalid
  spendReservation r

/-! ### Reservations of no session -/

def ReserveGlobalCapacity.reservation (c : ReserveGlobalCapacity) : GlobalCapacityReservation :=
  ⟨c.reservationId, c.resource, c.amount, false⟩

/-- `reserve_global_capacity`.  What is used of the resource does not count. -/
def reserveGlobalCapacity (env : Env) (c : ReserveGlobalCapacity) :
    Write (Mutation GlobalCapacityReservation) := do
  ensure (c.amount ≠ 0) .invalid
  match ← read (·.quotas.globalReservations.find? c.reservationId) with
  | some existing =>
    ensure (existing = { c.reservation with released := existing.released })
      (.requestConflict c.reservationId)
    return .replayed existing
  | none =>
    let used ← read (·.quotas.globalUsed c.resource)
    ensure (used + c.amount ≤ (env.limits c.resource).global)
      (.capacityExceeded (.globalLimit c.resource))
    let globalReservations ←
      orAbort ((← read (·.quotas.globalReservations)).insert? c.reservation) .unavailable
    writeQuotas fun q => { q with globalReservations }.putGlobal c.resource (used + c.amount)
    return .applied c.reservation

/-- What is left of a released request: nothing. -/
def Quotas.dropPending (q : Quotas) (r : GlobalCapacityReservation) : Quotas :=
  { q with
    globalReservations := q.globalReservations.filter fun x =>
      ¬(x.reservationId = r.reservationId ∧ x.released = true)
    globalUsage := q.globalUsage.filter fun u => ¬(u.resource = r.resource ∧ u.used = 0) }

/-- A reservation of no session is spent unless it was before. -/
def spendGlobalHeld (r : GlobalCapacityReservation) : Write Unit :=
  if r.released then pure ()
  else do
    writeQuotas fun q =>
      { q with globalReservations := q.globalReservations.replace { r with released := true } }
    let q ← orAbort ((← read Store.quotas).lowerGlobal r.resource r.amount) .corrupt
    writeQuotas fun _ => q

/-- `release_global_capacity`. -/
def releaseGlobalCapacity (reservationId : RequestId) :
    Write (Mutation GlobalCapacityReservation) := do
  let r ← orAbort (← read (·.quotas.globalReservations.find? reservationId)) .invalid
  spendGlobalHeld r
  writeQuotas fun q => if r.resource = .pendingRequests then q.dropPending r else q
  return .applied { r with released := true }

/-! ### Subscriptions -/

/-- Whether the session has moved on without a lease's owner, or past the lease. -/
def SubscriptionLease.isStale (l : SubscriptionLease) (r : SessionRecord) : Bool :=
  match r.owner with
  | none => true
  | some (host, _) => host ≠ l.ownerHostId || r.ownerEpoch ≠ some l.ownerEpoch ||
      decide (l.expiresAt ≤ r.timeFloor)

def Store.isStaleLease (s : Store) (l : SubscriptionLease) : Bool :=
  (s.sessions.find? l.sessionId).any l.isStale

/-- The reservations of some leases, and the leases with them, are deleted. -/
def Quotas.clearLeases (q : Quotas) (p : SubscriptionLease → Bool) : Quotas :=
  { q with
    reservations := q.reservations.filter fun r =>
      !(q.subscriptionLeases.find? r.reservationId).any p
    subscriptionLeases := q.subscriptionLeases.filter fun l => !p l }

/-- `reclaim_stale_subscription_leases`.  The counters are computed from the reservations of
the sessions alone. -/
def reclaimStaleSubscriptionLeases (sessionId : SessionId) : Write Unit := do
  let s ← read id
  writeQuotas (·.clearLeases fun l => l.sessionId = sessionId && s.isStaleLease l)
  writeQuotas fun q =>
    q.setSession sessionId .subscriptions (q.heldBySession sessionId .subscriptions)
  writeQuotas fun q => q.setGlobal .subscriptions (q.heldBySessions .subscriptions)

/-- `reconcile_abandoned_subscriptions`, which is done whenever the store is opened. -/
def reconcileAbandonedSubscriptions : Write Unit := do
  let s ← read id
  writeQuotas (·.clearLeases s.isStaleLease)
  writeQuotas fun q =>
    { q with
      sessionUsage := (q.sessionUsage.rewrite (fun u =>
          if u.resource = .subscriptions then
            { u with used := q.heldBySession u.sessionId .subscriptions }
          else u) fun u => by split <;> rfl).filter
        fun u => ¬(u.resource = .subscriptions ∧ u.used = 0) }
  writeQuotas fun q => q.setGlobal .subscriptions (q.heldBySessions .subscriptions)

/-- `validate_subscription_owner`.  A session without an owner is a row that cannot be read. -/
def validateSubscriptionOwner (l : SubscriptionLease) : Write Unit := do
  let r ← orAbort ((← read (·.sessions.find? l.sessionId)).filter (!·.closed))
    (.sessionNotFound l.sessionId)
  let (host, expiry) ← orAbort r.owner .unavailable
  ensure (host = l.ownerHostId ∧ r.ownerEpoch = some l.ownerEpoch ∧
    r.timeFloor < l.expiresAt ∧ l.expiresAt ≤ expiry)
    (.staleOwnership l.sessionId l.ownerEpoch r.ownerEpoch)
  ensure ((← read (·.participantSession l.campaignId)) = some l.sessionId)
    (.participantNotFound l.campaignId)

/-- `reserve_subscription_lease`. -/
def reserveSubscriptionLease (env : Env) (c : ReserveSubscriptionLease) :
    Write (Mutation SubscriptionLease) := do
  let l := c.lease
  validateSubscriptionOwner l
  reclaimStaleSubscriptionLeases l.sessionId
  match ← read (·.quotas.subscriptionLeases.find? l.reservationId) with
  | some existing =>
    ensure (existing = l) (.requestConflict l.reservationId)
    return .replayed l
  | none =>
    let q ← read Store.quotas
    let sessionUsed := q.sessionUsed l.sessionId .subscriptions
    let globalUsed := q.globalUsed .subscriptions
    ensure (sessionUsed < (env.limits .subscriptions).perSession)
      (.capacityExceeded (.sessionLimit .subscriptions))
    ensure (globalUsed < (env.limits .subscriptions).global)
      (.capacityExceeded (.globalLimit .subscriptions))
    insertReservation ⟨l.reservationId, l.sessionId, l.campaignId, .subscriptions, 1, false⟩
    ensure (l.ownerEpoch.get < i64Bound) .corrupt
    let subscriptionLeases ← orAbort ((← read (·.quotas.subscriptionLeases)).insert? l) .unavailable
    writeQuotas fun q =>
      ({ q with subscriptionLeases }.putSession l.sessionId .subscriptions
        (sessionUsed + 1)).putGlobal .subscriptions (globalUsed + 1)
    return .applied l

/-- `renew_subscription_lease`: a lease is never shortened. -/
def renewSubscriptionLease (c : ReserveSubscriptionLease) : Write (Mutation SubscriptionLease) := do
  let l := c.lease
  validateSubscriptionOwner l
  ensure (l.ownerEpoch.get < i64Bound) .corrupt
  let existing ← read (·.quotas.subscriptionLeases.find? l.reservationId)
  ensure (existing.any fun e => e = { l with expiresAt := e.expiresAt } &&
    decide (e.expiresAt ≤ l.expiresAt)) (.requestConflict l.reservationId)
  writeQuotas fun q => { q with subscriptionLeases := q.subscriptionLeases.replace l }
  return .applied l

end Navigator
