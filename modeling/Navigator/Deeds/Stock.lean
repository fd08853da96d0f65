/-
What a call does to what is set aside, and to the artifacts.

The tables of reservations, their counters and the artifacts are changed by ten calls.
`StockChange` says what each of them does to those tables and what it has checked before;
what is proved about capacity and about artifacts is proved from it.

* **`StockChange`** — the changes;
* **`exec_stock`** — every call makes one of them.
-/
import Navigator.Deeds.Changes

namespace Navigator

open Txn Tx

variable {env : Env} {s s' : Store} {t : Timestamp}
variable {r : CapacityReservation} {u : Unit} {k : SessionId} {resource : CapacityResource}
  {now : Timestamp} {a : ArtifactSnapshot} {v : Mutation ArtifactSnapshot}
variable {q q' : Quotas} {amount : ℕ} {checkedAt : Timestamp} {c : Command}

/-! ### What is set aside -/

/-- A reservation is spent: it is released, and the counters are lowered. -/
def Quotas.spend? (q : Quotas) (r : CapacityReservation) : Option Quotas :=
  ({ q with reservations := q.reservations.replace { r with released := true } }.lowerSession
    r.sessionId r.resource r.amount).bind (·.lowerGlobal r.resource r.amount)

/-- A reservation that is unspent and as it should be is spent. -/
structure Quotas.Takes (q : Quotas) (id : RequestId) (k : SessionId) (p : ParticipantId)
    (resource : CapacityResource) (amount : ℕ) (q' : Quotas) : Prop where
  found : q.reservations.find? id = some ⟨id, k, p, resource, amount, false⟩
  spent : q.spend? ⟨id, k, p, resource, amount, false⟩ = some q'

/-- A reservation that is made. -/
structure ReserveCapacity.Reserves (c : ReserveCapacity) (env : Env) (s : Store)
    (reservations : Table CapacityReservation) : Prop where
  resource : c.resource ≠ .subscriptions
  amount : c.amount ≠ 0
  campaign : s.participantSession c.campaignId = some c.sessionId
  sessionRoom : (derivedCapacityUsage env s c.sessionId c.resource).1 +
    s.quotas.sessionUsed c.sessionId c.resource + c.amount ≤ (env.limits c.resource).perSession
  globalRoom : (derivedCapacityUsage env s c.sessionId c.resource).2 +
    s.quotas.globalUsed c.resource + c.amount ≤ (env.limits c.resource).global
  inserted : s.quotas.reservations.insert? c.reservation = some reservations

/-- The tables after a reservation. -/
def ReserveCapacity.quotas (c : ReserveCapacity) (q : Quotas)
    (reservations : Table CapacityReservation) : Quotas :=
  ({ q with reservations }.putSession c.sessionId c.resource
    (q.sessionUsed c.sessionId c.resource + c.amount)).putGlobal c.resource
      (q.globalUsed c.resource + c.amount)

/-- A reservation is spent unless it was before. -/
def Quotas.Spends (q : Quotas) (r : CapacityReservation) (q' : Quotas) : Prop :=
  if r.released then q' = q else q.spend? r = some q'

/-- A reservation of no session is spent unless it was before. -/
def Quotas.SpendsGlobal (q : Quotas) (r : GlobalCapacityReservation) (q' : Quotas) : Prop :=
  if r.released then q' = q
  else Quotas.lowerGlobal
    { q with globalReservations := q.globalReservations.replace { r with released := true } }
    r.resource r.amount = some q'

/-! ### Subscriptions -/

/-- Some leases are cleared away, and the counters of subscriptions computed anew. -/
def Quotas.reclaim (q : Quotas) (k : SessionId) (p : SubscriptionLease → Bool) : Quotas :=
  let q₁ := q.clearLeases p
  let q₂ := q₁.setSession k .subscriptions (q₁.heldBySession k .subscriptions)
  q₂.setGlobal .subscriptions (q₂.heldBySessions .subscriptions)

/-- What a session has set aside, without the leases that are stale. -/
def Store.reclaimed (s : Store) (k : SessionId) : Quotas :=
  s.quotas.reclaim k fun l => l.sessionId = k && s.isStaleLease l

/-- What is set aside when the store is opened. -/
def Store.reconciled (s : Store) : Quotas :=
  let q := s.quotas.clearLeases s.isStaleLease
  let q : Quotas := { q with
    sessionUsage := (q.sessionUsage.rewrite (fun u : SessionUsage =>
        if u.resource = .subscriptions then
          { u with used := q.heldBySession u.sessionId .subscriptions }
        else u) fun u => by split <;> rfl).filter
      fun u => ¬(u.resource = .subscriptions ∧ u.used = 0) }
  q.setGlobal .subscriptions (q.heldBySessions .subscriptions)

/-- A lease of a subscription that is made. -/
structure SubscriptionLease.Leases (l : SubscriptionLease) (env : Env) (q : Quotas)
    (reservations : Table CapacityReservation)
    (subscriptionLeases : Table SubscriptionLease) : Prop where
  sessionRoom : q.sessionUsed l.sessionId .subscriptions < (env.limits .subscriptions).perSession
  globalRoom : q.globalUsed .subscriptions < (env.limits .subscriptions).global
  reserved : q.reservations.insert? ⟨l.reservationId, l.sessionId, l.campaignId, .subscriptions,
    1, false⟩ = some reservations
  inserted : q.subscriptionLeases.insert? l = some subscriptionLeases

/-- The tables after a lease. -/
def SubscriptionLease.quotas (l : SubscriptionLease) (q : Quotas)
    (reservations : Table CapacityReservation) (subscriptionLeases : Table SubscriptionLease) :
    Quotas :=
  ({ q with reservations, subscriptionLeases }.putSession l.sessionId .subscriptions
    (q.sessionUsed l.sessionId .subscriptions + 1)).putGlobal .subscriptions
      (q.globalUsed .subscriptions + 1)

/-! ### Artifacts -/

/-- The bytes of an artifact are taken from a reservation, unless there are none. -/
def PublishArtifact.TakesBytes (c : PublishArtifact) (q q' : Quotas) : Prop :=
  match c.byteReservationId with
  | none => c.size = 0 ∧ q' = q
  | some id => c.size ≠ 0 ∧ q.Takes id c.sessionId c.creatorParticipantId .artifactBytes c.size q'

/-- A publication that goes through. -/
structure PublishArtifact.Publishes (c : PublishArtifact) (t now : Timestamp) (s : Store)
    (r : SessionRecord) (quotas quotas' : Quotas) (artifacts : Table ArtifactSnapshot) :
    Prop where
  owner : s.Authorized c.sessionId c.owner c.epoch t r
  located : c.locator = artifactLocator c.sessionId c.artifactId
  valid : (c.snapshot now).structurallyValid = true
  taken : s.quotas.Takes c.artifactReservationId c.sessionId c.creatorParticipantId
    .artifacts 1 quotas
  bytes : c.TakesBytes quotas quotas'
  inserted : s.artifacts.insert? (c.snapshot now) = some artifacts

/-- A deletion that goes through. -/
structure DeleteArtifact.Deletes (c : DeleteArtifact) (s : Store) (a : ArtifactSnapshot)
    (revision : Revision) : Prop where
  found : s.artifacts.find? c.artifactId = some a
  valid : a.structurallyValid = true
  session : a.sessionId = c.sessionId
  available : a.state = .available
  next : a.revision.next = some revision

/-- The artifact, deleted. -/
def ArtifactSnapshot.deleted (a : ArtifactSnapshot) (now : Timestamp) (revision : Revision) :
    ArtifactSnapshot :=
  { a with state := .logicallyDeleted, deletedAt := some now, revision }

/-- An artifact that may be erased: it is deleted, and past its retention. -/
structure EraseArtifact.Erases (c : EraseArtifact) (s : Store) (checkedAt : Timestamp)
    (a : ArtifactSnapshot) : Prop where
  found : s.artifacts.find? c.artifactId = some a
  session : a.sessionId = c.sessionId
  deleted : a.state = .logicallyDeleted
  retained : a.retentionUntil ≤ checkedAt

/-- The artifact, erased. -/
def ArtifactSnapshot.erased (a : ArtifactSnapshot) (revision : Revision) : ArtifactSnapshot :=
  { a with state := .physicallyErased, revision }

/-! ### The changes -/

/-- What a call does to what is set aside and to the artifacts, and its answer. -/
inductive StockChange (env : Env) (t : Timestamp) (s : Store) :
    Command → Result → Quotas → Table ArtifactSnapshot → Prop
  /-- Nothing: another call, a replay or a failure. -/
  | same {c : Command} {result : Result}
      (idle : c.isResource = true → ∀ a, result ≠ .ok (.applied a)) :
      StockChange env t s c result s.quotas s.artifacts
  | reserved {c : ReserveCapacity} {reservations : Table CapacityReservation}
      (made : c.Reserves env s reservations) :
      StockChange env t s (.reserveCapacity c) (.ok (.applied (.reservation c.reservation)))
        (c.quotas s.quotas reservations) s.artifacts
  | released {id : RequestId} {r : CapacityReservation} {q : Quotas}
      (found : s.quotas.reservations.find? id = some r) (spent : s.quotas.Spends r q) :
      StockChange env t s (.releaseCapacity id)
        (.ok (.applied (.reservation { r with released := true })))
        (if r.resource = .subscriptions then q.dropSubscription r else q) s.artifacts
  | globalReserved {c : ReserveGlobalCapacity}
      {globalReservations : Table GlobalCapacityReservation} (amount : c.amount ≠ 0)
      (room : s.quotas.globalUsed c.resource + c.amount ≤ (env.limits c.resource).global)
      (inserted : s.quotas.globalReservations.insert? c.reservation = some globalReservations) :
      StockChange env t s (.reserveGlobalCapacity c)
        (.ok (.applied (.globalReservation c.reservation)))
        ({ s.quotas with globalReservations }.putGlobal c.resource
          (s.quotas.globalUsed c.resource + c.amount)) s.artifacts
  | globalReleased {id : RequestId} {r : GlobalCapacityReservation} {q : Quotas}
      (found : s.quotas.globalReservations.find? id = some r)
      (spent : s.quotas.SpendsGlobal r q) :
      StockChange env t s (.releaseGlobalCapacity id)
        (.ok (.applied (.globalReservation { r with released := true })))
        (if r.resource = .pendingRequests then q.dropPending r else q) s.artifacts
  | reclaimed {c : ReserveSubscriptionLease}
      (found : (s.reclaimed c.lease.sessionId).subscriptionLeases.find? c.lease.reservationId =
        some c.lease) :
      StockChange env t s (.reserveSubscriptionLease c) (.ok (.replayed (.subscription c.lease)))
        (s.reclaimed c.lease.sessionId) s.artifacts
  | leased {c : ReserveSubscriptionLease} {reservations : Table CapacityReservation}
      {leases : Table SubscriptionLease}
      (made : c.lease.Leases env (s.reclaimed c.lease.sessionId) reservations leases) :
      StockChange env t s (.reserveSubscriptionLease c) (.ok (.applied (.subscription c.lease)))
        (c.lease.quotas (s.reclaimed c.lease.sessionId) reservations leases) s.artifacts
  | renewed {c : ReserveSubscriptionLease} {old : SubscriptionLease}
      (found : s.quotas.subscriptionLeases.find? c.lease.reservationId = some old)
      (same : old = { c.lease with expiresAt := old.expiresAt }) :
      StockChange env t s (.renewSubscriptionLease c) (.ok (.applied (.subscription c.lease)))
        { s.quotas with subscriptionLeases := s.quotas.subscriptionLeases.replace c.lease }
        s.artifacts
  | reopened : StockChange env t s .reopen (.ok (.unchanged .reopened)) s.reconciled s.artifacts
  | published {c : PublishArtifact} {now : Timestamp} {r : SessionRecord}
      {quotas quotas' : Quotas} {artifacts : Table ArtifactSnapshot}
      (made : c.Publishes t now s r quotas quotas' artifacts) :
      StockChange env t s (.publishArtifact c now) (.ok (.applied (.artifact (c.snapshot now))))
        quotas' artifacts
  | deleted {c : DeleteArtifact} {now : Timestamp} {a : ArtifactSnapshot} {revision : Revision}
      (made : c.Deletes s a revision) :
      StockChange env t s (.logicallyDeleteArtifact c now)
        (.ok (.applied (.artifact (a.deleted now revision)))) s.quotas
        (s.artifacts.replace (a.deleted now revision))
  | erased {c : EraseArtifact} {checkedAt now : Timestamp} {a : ArtifactSnapshot}
      {revision : Revision} (made : c.Erases s checkedAt a)
      (next : a.revision.next = some revision) :
      StockChange env t s (.recordPhysicalErasure c checkedAt now)
        (.ok (.applied (.artifact (a.erased revision)))) s.quotas
        (s.artifacts.replace (a.erased revision))

/-! ### Spending a reservation -/

theorem spendReservation_done :
    spendReservation r s = .done u s' ↔
      ∃ q, s.quotas.spend? r = some q ∧ { s with quotas := q } = s' := by
  simp only [spendReservation, writeQuotas, looks_done, Quotas.spend?, Option.bind_eq_some_iff]
  constructor
  · rintro ⟨q₁, h1, q₂, h2, rfl⟩
    exact ⟨q₂, ⟨q₁, h1, h2⟩, rfl⟩
  · rintro ⟨q₂, ⟨q₁, h1, h2⟩, rfl⟩
    exact ⟨q₁, h1, q₂, h2, rfl⟩

theorem Quotas.lowerSession_frame (h : q.lowerSession k resource amount = some q') :
    q' = { q with sessionUsage := q'.sessionUsage } := by
  unfold lowerSession at h
  repeat' split at h
  all_goals cases h
  rfl

theorem Quotas.lowerGlobal_frame (h : q.lowerGlobal resource amount = some q') :
    q' = { q with globalUsage := q'.globalUsage } := by
  unfold lowerGlobal at h
  repeat' split at h
  all_goals cases h
  rfl

/-- Beside the counters, only the reservation changes. -/
theorem Quotas.spend?_frame (h : q.spend? r = some q') :
    q' = { q with
      reservations := q.reservations.replace { r with released := true }
      sessionUsage := q'.sessionUsage
      globalUsage := q'.globalUsage } := by
  obtain ⟨q₁, h1, h2⟩ := Option.bind_eq_some_iff.mp h
  rw [lowerGlobal_frame h2, lowerSession_frame h1]

theorem consumeCapacityReservation_done {id : RequestId} {p : ParticipantId}
    (h : consumeCapacityReservation id k p resource amount s = .done u s') :
    ∃ q, s.quotas.Takes id k p resource amount q ∧ { s with quotas := q } = s' := by
  simp only [consumeCapacityReservation, looks_done, spendReservation_done] at h
  obtain ⟨r, hfound, ⟨rfl, rfl, rfl, rfl, hheld⟩, q, hspent, rfl⟩ := h
  obtain rfl : r.reservationId = id := (Table.key_of_find? hfound :)
  have hr : r = ⟨r.reservationId, r.sessionId, r.campaignId, r.resource, r.amount, false⟩ := by
    rw [← hheld]
  exact ⟨q, ⟨hfound.trans (congrArg some hr), hr ▸ hspent⟩, rfl⟩

/-! ### Publication, deletion, erasure -/

theorem consumeBytes_done {c : PublishArtifact} (h : consumeBytes c s = .done u s') :
    ∃ q, c.TakesBytes s.quotas q ∧ { s with quotas := q } = s' := by
  unfold consumeBytes at h
  unfold PublishArtifact.TakesBytes
  cases hid : c.byteReservationId with
  | none =>
    simp only [hid, ensure_done] at h
    obtain ⟨hsize, rfl⟩ := h
    exact ⟨_, ⟨hsize, rfl⟩, rfl⟩
  | some id =>
    simp only [hid, looks_done] at h
    obtain ⟨hsize, h⟩ := h
    obtain ⟨q, htakes, rfl⟩ := consumeCapacityReservation_done h
    exact ⟨q, ⟨hsize, htakes⟩, rfl⟩

theorem authorizeArtifact_done {owner : HostId} {epoch : FencingEpoch}
    (h : authorizeArtifact k owner epoch t s = .done u s') :
    ∃ r, s.Authorized k owner epoch t r ∧ s' = s.withFloor k (max r.timeFloor t) := by
  obtain ⟨_, r, hr, -, h⟩ := authorizeOwner_bind_done h
  exact ⟨r, hr, (pure_done.mp h).2.symm⟩

/-- What an event and a record leave alone, at the end of a call about an artifact. -/
theorem artifact_recorded {χ : Type} [MutableRequest χ] {c : χ} {q : RequestId}
    {revision : Revision} {type : EventType} (h : (do
      appendEvent env q k revision type now
      record env k c .applied (.artifact a)
      return .applied a : Write (Mutation ArtifactSnapshot)) s = .done v s') :
    v = .applied a ∧ s'.quotas = s.quotas ∧ s'.artifacts = s.artifacts ∧
      s.ledger.insert? ⟨(MutableRequest.context c).requestId, k,
        (MutableRequest.context c).caller, MutableRequest.action c, MutableRequest.digest env c,
        .succeeded .applied (.artifact a)⟩ = some s'.ledger := by
  obtain ⟨_, s1, hevent, h⟩ := bind_done.mp h
  obtain ⟨_, s2, hrecord, h⟩ := bind_done.mp h
  cases h
  have haside : Aside env s s1 := Within.done hevent appendEvent_within
  obtain ⟨ledger, hinsert, rfl⟩ := insertLedger_done hrecord
  rw [haside.ledger] at hinsert
  exact ⟨rfl, haside.quotas, haside.artifacts, hinsert⟩

/-- The artifact that a call is about, of the session of the call. -/
theorem loadArtifact_ok_some {id : ArtifactId} (h : loadArtifact s id = .ok (some a)) :
    s.artifacts.find? id = some a ∧ a.structurallyValid = true := by
  unfold loadArtifact at h
  rcases hfind : s.artifacts.find? id with _ | b
  · simp [hfind] at h
  simp only [hfind] at h
  split at h <;> cases h
  exact ⟨rfl, ‹_›⟩

theorem updateArtifact_done :
    updateArtifact a s = .done u s' ↔
      a.revision.get < i64Bound ∧ { s with artifacts := s.artifacts.replace a } = s' := by
  simp only [updateArtifact, looks_done]

theorem publishNew_stock {c : PublishArtifact} (h : publishNew env t now c s = .done v s') :
    StockChange env t s (.publishArtifact c now) (.ok (v.map .artifact)) s'.quotas
      s'.artifacts := by
  obtain ⟨_, s1, hauthorize, h⟩ := bind_done.mp h
  obtain ⟨r, hr, rfl⟩ := authorizeArtifact_done hauthorize
  simp only [looks_done] at h
  obtain ⟨_, -, creator, -, _, -, operation, -, -, ⟨hlocated, -⟩, hvalid, h⟩ := h
  obtain ⟨_, s2, htake, h⟩ := bind_done.mp h
  obtain ⟨q₁, htakes, rfl⟩ := consumeCapacityReservation_done htake
  obtain ⟨_, s3, hbytes, h⟩ := bind_done.mp h
  obtain ⟨q₂, htakesBytes, rfl⟩ := consumeBytes_done hbytes
  simp only [ensureDerivedCapacity_bind_done, looks_done] at h
  obtain ⟨-, -, artifacts, hinserted, h⟩ := h
  obtain ⟨rfl, hquotas, hartifacts, -⟩ := artifact_recorded h
  rw [hquotas, hartifacts]
  exact .published ⟨hr, hlocated, hvalid, htakes, htakesBytes, hinserted⟩

theorem deleteNew_stock {c : DeleteArtifact} (h : deleteNew env t now c s = .done v s') :
    StockChange env t s (.logicallyDeleteArtifact c now) (.ok (v.map .artifact)) s'.quotas
      s'.artifacts := by
  obtain ⟨_, s1, hauthorize, h⟩ := bind_done.mp h
  obtain ⟨r, hr, rfl⟩ := authorizeArtifact_done hauthorize
  simp only [looks_done] at h
  obtain ⟨_, hload, a, rfl, hsession, havailable, revision, hnext, h⟩ := h
  obtain ⟨hfound, hvalid⟩ := loadArtifact_ok_some hload
  obtain ⟨_, s2, hupdate, h⟩ := bind_done.mp h
  obtain ⟨-, rfl⟩ := updateArtifact_done.mp hupdate
  obtain ⟨rfl, hquotas, hartifacts, -⟩ := artifact_recorded h
  rw [hquotas, hartifacts]
  exact .deleted ⟨hfound, hvalid, hsession, havailable, hnext⟩

theorem erasable_done {c : EraseArtifact} (h : erasable c checkedAt s = .done a s') :
    c.Erases s checkedAt a ∧ s = s' := by
  simp only [erasable, looks_done] at h
  obtain ⟨_, hload, a, rfl, ⟨hsession, hdeleted, hretained⟩, rfl, rfl⟩ := h
  exact ⟨⟨(loadArtifact_ok_some hload).1, hsession, hdeleted, hretained⟩, rfl⟩

theorem eraseNew_done {c : EraseArtifact} (h : eraseNew env t checkedAt now c s = .done v s') :
    ∃ a revision, c.Erases s checkedAt a ∧ a.revision.next = some revision ∧
      v = .applied (a.erased revision) ∧ s'.quotas = s.quotas ∧
      s'.artifacts = s.artifacts.replace (a.erased revision) ∧
      s.ledger.insert? ⟨c.context.requestId, c.sessionId, c.context.caller, .eraseArtifact,
        MutableRequest.digest env c, .succeeded .applied (.artifact (a.erased revision))⟩ =
          some s'.ledger := by
  obtain ⟨_, s1, hauthorize, h⟩ := bind_done.mp h
  obtain ⟨r, hr, rfl⟩ := authorizeArtifact_done hauthorize
  obtain ⟨a, s2, herasable, h⟩ := bind_done.mp h
  obtain ⟨herases, rfl⟩ := erasable_done herasable
  simp only [looks_done] at h
  obtain ⟨revision, hnext, h⟩ := h
  obtain ⟨_, s3, hupdate, h⟩ := bind_done.mp h
  obtain ⟨-, rfl⟩ := updateArtifact_done.mp hupdate
  obtain ⟨rfl, hquotas, hartifacts, hledger⟩ := artifact_recorded h
  exact ⟨a, revision, ⟨herases.found, herases.session, herases.deleted, herases.retained⟩, hnext,
    rfl, hquotas, hartifacts, hledger⟩

/-! ### Reservations -/

theorem reserveCapacity_stock {c : ReserveCapacity} {v : Mutation CapacityReservation}
    (h : reserveCapacity env c s = .done v s') :
    StockChange env t s (.reserveCapacity c) (.ok (v.map .reservation)) s'.quotas
      s'.artifacts := by
  simp only [reserveCapacity, looks_done] at h
  obtain ⟨hresource, hamount, h⟩ := h
  cases hfound : s.quotas.reservations.find? c.reservationId with
  | some existing =>
    simp only [hfound, looks_done] at h
    obtain ⟨-, rfl, rfl⟩ := h
    exact .same (by simp [Mutation.map])
  | none =>
    simp only [hfound, looks_done, insertReservation, bind_assoc, writeQuotas] at h
    obtain ⟨hcampaign, -, -, hsession, hglobal, reservations, hinserted, rfl, rfl⟩ := h
    exact .reserved ⟨hresource, hamount, hcampaign, hsession, hglobal, hinserted⟩

theorem spendHeld_done :
    spendHeld r s = .done u s' ↔ ∃ q, s.quotas.Spends r q ∧ { s with quotas := q } = s' := by
  unfold spendHeld Quotas.Spends
  split
  · simp only [pure_done, true_and, exists_eq_left]
  · exact spendReservation_done

theorem releaseCapacity_stock {id : RequestId} {v : Mutation CapacityReservation}
    (h : releaseCapacity id s = .done v s') :
    StockChange env t s (.releaseCapacity id) (.ok (v.map .reservation)) s'.quotas
      s'.artifacts := by
  simp only [releaseCapacity, looks_done] at h
  obtain ⟨r, hfound, h⟩ := h
  obtain ⟨_, s1, hspend, h⟩ := bind_done.mp h
  obtain ⟨q, hspends, rfl⟩ := spendHeld_done.mp hspend
  simp only [writeQuotas, write_bind_done, pure_done] at h
  obtain ⟨rfl, rfl⟩ := h
  exact .released hfound hspends

theorem reserveGlobalCapacity_stock {c : ReserveGlobalCapacity}
    {v : Mutation GlobalCapacityReservation} (h : reserveGlobalCapacity env c s = .done v s') :
    StockChange env t s (.reserveGlobalCapacity c) (.ok (v.map .globalReservation)) s'.quotas
      s'.artifacts := by
  simp only [reserveGlobalCapacity, looks_done] at h
  obtain ⟨hamount, h⟩ := h
  cases hfound : s.quotas.globalReservations.find? c.reservationId with
  | some existing =>
    simp only [hfound, looks_done] at h
    obtain ⟨-, rfl, rfl⟩ := h
    exact .same (by simp [Mutation.map])
  | none =>
    simp only [hfound, looks_done, writeQuotas] at h
    obtain ⟨hroom, rows, hinserted, rfl, rfl⟩ := h
    exact .globalReserved hamount hroom hinserted

theorem releaseGlobalCapacity_stock {id : RequestId} {v : Mutation GlobalCapacityReservation}
    (h : releaseGlobalCapacity id s = .done v s') :
    StockChange env t s (.releaseGlobalCapacity id) (.ok (v.map .globalReservation)) s'.quotas
      s'.artifacts := by
  simp only [releaseGlobalCapacity, looks_done] at h
  obtain ⟨r, hfound, h⟩ := h
  obtain ⟨_, s1, hspend, h⟩ := bind_done.mp h
  simp only [writeQuotas, write_bind_done, pure_done] at h
  obtain ⟨rfl, rfl⟩ := h
  suffices hspends : ∃ q, s.quotas.SpendsGlobal r q ∧ { s with quotas := q } = s1 by
    obtain ⟨q, hq, rfl⟩ := hspends
    exact .globalReleased hfound hq
  unfold spendGlobalHeld at hspend
  unfold Quotas.SpendsGlobal
  split at hspend
  · next hreleased =>
    cases hspend
    exact ⟨s.quotas, by simp [hreleased], rfl⟩
  · next hreleased =>
    simp only [writeQuotas, looks_done] at hspend
    obtain ⟨q, hlower, rfl⟩ := hspend
    exact ⟨q, by rwa [if_neg hreleased], rfl⟩

/-! ### Subscriptions -/

theorem reclaimStaleSubscriptionLeases_done :
    reclaimStaleSubscriptionLeases k s = .done u s' ↔
      { s with quotas := s.reclaimed k } = s' := by
  simp only [reclaimStaleSubscriptionLeases, looks_done, writeQuotas]
  rfl

theorem reconcileAbandonedSubscriptions_done :
    reconcileAbandonedSubscriptions s = .done u s' ↔
      { s with quotas := s.reconciled } = s' := by
  simp only [reconcileAbandonedSubscriptions, looks_done, writeQuotas]
  rfl

theorem validateSubscriptionOwner_state {l : SubscriptionLease}
    (h : validateSubscriptionOwner l s = .done u s') : s = s' := by
  simp only [validateSubscriptionOwner, looks_done, ensure_done] at h
  obtain ⟨_, -, _, -, -, -, rfl⟩ := h
  rfl

theorem reserveSubscriptionLease_stock {c : ReserveSubscriptionLease}
    {v : Mutation SubscriptionLease} (h : reserveSubscriptionLease env c s = .done v s') :
    StockChange env t s (.reserveSubscriptionLease c) (.ok (v.map .subscription)) s'.quotas
      s'.artifacts := by
  simp only [reserveSubscriptionLease] at h
  obtain ⟨_, s1, howner, h⟩ := bind_done.mp h
  obtain rfl := validateSubscriptionOwner_state howner
  obtain ⟨_, s2, hreclaim, h⟩ := bind_done.mp h
  obtain rfl := reclaimStaleSubscriptionLeases_done.mp hreclaim
  simp only [looks_done] at h
  cases hfound : (s.reclaimed c.lease.sessionId).subscriptionLeases.find?
      c.lease.reservationId with
  | some existing =>
    simp only [hfound, looks_done] at h
    obtain ⟨rfl, rfl, rfl⟩ := h
    exact .reclaimed hfound
  | none =>
    simp only [hfound, looks_done, insertReservation, bind_assoc, writeQuotas] at h
    obtain ⟨hsession, hglobal, reservations, hreserved, -, leases, hinserted, rfl, rfl⟩ := h
    exact .leased ⟨hsession, hglobal, hreserved, hinserted⟩

theorem renewSubscriptionLease_stock {c : ReserveSubscriptionLease}
    {v : Mutation SubscriptionLease} (h : renewSubscriptionLease c s = .done v s') :
    StockChange env t s (.renewSubscriptionLease c) (.ok (v.map .subscription)) s'.quotas
      s'.artifacts := by
  simp only [renewSubscriptionLease] at h
  obtain ⟨_, s1, howner, h⟩ := bind_done.mp h
  obtain rfl := validateSubscriptionOwner_state howner
  simp only [looks_done, writeQuotas] at h
  obtain ⟨-, hany, rfl, rfl⟩ := h
  obtain ⟨old, hfound, hold⟩ := (Option.any_eq_true _ _).mp hany
  rw [Bool.and_eq_true] at hold
  exact .renewed hfound (of_decide_eq_true hold.1)

/-! ### Calls -/

/-- The other calls leave these tables alone. -/
theorem exec_stock_eq (hs : Sound s) (hc : c.isResource = false) :
    (exec env t c s).2.quotas = s.quotas ∧ (exec env t c s).2.artifacts = s.artifacts := by
  refine (exec_path hs t c).keeps
    (I := fun s1 => s1.quotas = s.quotas ∧ s1.artifacts = s.artifacts)
    (fun s1 s2 l hl hd h => ?_) ⟨rfl, rfl⟩
  have hsame := hd.frame.stock.resolve_left fun hj => by
    subst hj
    rw [show c.isResource = true from hl] at hc
    cases hc
  exact ⟨hsame.1.trans h.1, hsame.2.trans h.2⟩

theorem stockChange_of_done {α : Type} {wrap : α → Answer} {body : Write (Mutation α)}
    (hexec : exec env t c = unrecorded wrap body) (h : ∀ v s', body s = .done v s' →
      StockChange env t s c (.ok (v.map wrap)) s'.quotas s'.artifacts) :
    StockChange env t s c (exec env t c s).1 (exec env t c s).2.quotas
      (exec env t c s).2.artifacts := by
  rw [hexec]
  obtain ⟨v, s', hdone, heq⟩ | ⟨e, heq⟩ := unrecorded_cases wrap body s
  · rw [heq]
    exact h v s' hdone
  · rw [heq]
    exact .same (by simp)

/-- An artifact's call that is replayed changes nothing, and one that is not is new. -/
theorem artifactReplay_done {χ : Type} [MutableRequest χ] {c : χ}
    {body : Write (Mutation ArtifactSnapshot)}
    (h : replayOrWrite env c (fun value => orAbort value.artifact? .corrupt) body s =
      .done v s') : (∃ a, v = .replayed a ∧ s' = s) ∨ body s = .done v s' := by
  obtain ⟨value, a, -, hreplay, rfl⟩ | ⟨-, hbody⟩ := replayOrWrite_done env h
  · obtain ⟨-, rfl⟩ := orAbort_done.mp hreplay
    exact .inl ⟨a, rfl, rfl⟩
  · exact .inr hbody

/-- **Every call makes one of the changes.** -/
theorem exec_stock (hs : Sound s) (t : Timestamp) (c : Command) :
    StockChange env t s c (exec env t c s).1 (exec env t c s).2.quotas
      (exec env t c s).2.artifacts := by
  cases c with
  | reserveCapacity c => exact stockChange_of_done rfl fun _ _ => reserveCapacity_stock
  | releaseCapacity id => exact stockChange_of_done rfl fun _ _ => releaseCapacity_stock
  | reserveGlobalCapacity c => exact stockChange_of_done rfl fun _ _ => reserveGlobalCapacity_stock
  | releaseGlobalCapacity id => exact stockChange_of_done rfl fun _ _ => releaseGlobalCapacity_stock
  | reserveSubscriptionLease c =>
    exact stockChange_of_done rfl fun _ _ => reserveSubscriptionLease_stock
  | renewSubscriptionLease c =>
    exact stockChange_of_done rfl fun _ _ => renewSubscriptionLease_stock
  | publishArtifact c now =>
    refine stockChange_of_done rfl fun v s' h => ?_
    obtain ⟨a, rfl, rfl⟩ | h := artifactReplay_done h
    · exact .same (by simp [Mutation.map])
    · exact publishNew_stock h
  | logicallyDeleteArtifact c now =>
    refine stockChange_of_done rfl fun v s' h => ?_
    obtain ⟨a, rfl, rfl⟩ | h := artifactReplay_done h
    · exact .same (by simp [Mutation.map])
    · exact deleteNew_stock h
  | recordPhysicalErasure c checkedAt now =>
    refine stockChange_of_done rfl fun v s' h => ?_
    obtain ⟨a, rfl, rfl⟩ | h := artifactReplay_done h
    · exact .same (by simp [Mutation.map])
    · obtain ⟨a, revision, hmade, hnext, rfl, hquotas, hartifacts, -⟩ := eraseNew_done h
      rw [hquotas, hartifacts]
      exact .erased hmade hnext
  | reopen =>
    refine stockChange_of_done rfl fun v s' h => ?_
    rw [map_eq_pure_bind] at h
    obtain ⟨_, s1, hreconcile, h⟩ := bind_done.mp h
    cases h
    obtain rfl := reconcileAbandonedSubscriptions_done.mp hreconcile
    exact .reopened
  | _ =>
    rw [(exec_stock_eq hs rfl).1, (exec_stock_eq hs rfl).2]
    exact .same (by rintro ⟨⟩)

end Navigator
