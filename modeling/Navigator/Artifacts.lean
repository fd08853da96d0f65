/-
The life of an artifact.

An artifact is published, deleted and erased, in this order and once each; beside its state
it never changes (`StockChange.artifact`).  What its publication takes is a reservation that
was made for it, and a reservation that has been spent stays spent (`StockChange.keeps`), so
no two publications take the same one.
-/
import Navigator.Deeds.Stock
import Navigator.Deeds.Requests
import Navigator.Effects

namespace Navigator

open Txn Tx

variable {env : Env} {s s' : Store} {t : Timestamp} {c : Command}
variable {q q' : Quotas} {artifacts : Table ArtifactSnapshot} {a : ArtifactSnapshot}
  {a' : Option ArtifactSnapshot} {r : CapacityReservation}
variable {result : Result} {q1 q2 : Quotas} {d : EraseArtifact} {checkedAt now : Timestamp}

/-! ### One artifact -/

/-- What a call can do to an artifact. -/
inductive ArtifactStep (c : Command) : Option ArtifactSnapshot → Option ArtifactSnapshot → Prop
  | same (a : Option ArtifactSnapshot) : ArtifactStep c a a
  | published {d : PublishArtifact} {now : Timestamp} (call : c = .publishArtifact d now) :
      ArtifactStep c none (some (d.snapshot now))
  | deleted {d : DeleteArtifact} {now : Timestamp} {a : ArtifactSnapshot} {revision : Revision}
      (call : c = .logicallyDeleteArtifact d now) (available : a.state = .available)
      (next : a.revision.next = some revision) :
      ArtifactStep c (some a) (some (a.deleted now revision))
  | erased {d : EraseArtifact} {checkedAt now : Timestamp} {a : ArtifactSnapshot}
      {revision : Revision} (call : c = .recordPhysicalErasure d checkedAt now)
      (deleted : a.state = .logicallyDeleted) (retained : a.retentionUntil ≤ checkedAt)
      (next : a.revision.next = some revision) :
      ArtifactStep c (some a) (some (a.erased revision))

/-- **An artifact takes one step at a time.** -/
theorem StockChange.artifact (h : StockChange env t s c result q artifacts) (id : ArtifactId) :
    ArtifactStep c (s.artifacts.find? id) (artifacts.find? id) := by
  cases h with
  | published made =>
    rw [Table.find?_insert made.inserted]
    split
    · next hid =>
      rw [← hid, Table.insert?_fresh made.inserted]
      exact .published rfl
    · exact .same _
  | @deleted d now a revision made =>
    rw [Table.find?_replaced (r := a.deleted now revision) made.found
      (Table.key_of_find? made.found :)]
    split
    · next hid =>
      rw [← hid, made.found]
      exact .deleted rfl made.available made.next
    · exact .same _
  | @erased d checkedAt now a revision made next =>
    rw [Table.find?_replaced (r := a.erased revision) made.found (Table.key_of_find? made.found :)]
    split
    · next hid =>
      rw [← hid, made.found]
      exact .erased rfl made.deleted made.retained next
    · exact .same _
  | _ => exact .same _

theorem exec_artifact (env : Env) (hs : Sound s) (t : Timestamp) (c : Command) (id : ArtifactId) :
    ArtifactStep c (s.artifacts.find? id) ((exec env t c s).2.artifacts.find? id) :=
  (exec_stock hs t c).artifact id

/-- What is the same of an artifact whatever its state. -/
def ArtifactSnapshot.identity (a : ArtifactSnapshot) :=
  (a.artifactId, a.sessionId, a.creatorParticipantId, a.creatorOperationId, a.mediaType, a.size,
    a.digest, a.locator, a.retentionUntil, a.createdAt)

/-- How far an artifact has come. -/
def ArtifactState.rank : ArtifactState → ℕ
  | available => 0
  | logicallyDeleted => 1
  | physicallyErased => 2

/-- **An artifact that is there stays**, the same but for its state, which goes forward with
its revision. -/
theorem ArtifactStep.follows (h : ArtifactStep c (some a) a') :
    ∃ b, a' = some b ∧ b.identity = a.identity ∧
      (b = a ∨ b.state.rank = a.state.rank + 1 ∧ b.revision.get = a.revision.get + 1) := by
  cases h with
  | same => exact ⟨a, rfl, rfl, .inl rfl⟩
  | deleted call available next =>
    refine ⟨_, rfl, rfl, .inr ⟨?_, Revision.next_get next⟩⟩
    rw [available]
    rfl
  | erased call deleted retained next =>
    refine ⟨_, rfl, rfl, .inr ⟨?_, Revision.next_get next⟩⟩
    rw [deleted]
    rfl

/-- Only a publication brings an artifact. -/
theorem ArtifactStep.of_none {a : Option ArtifactSnapshot} (h : ArtifactStep c a a') (ha : a = none)
    (hc : ∀ d now, c ≠ .publishArtifact d now) : a' = none := by
  cases h with
  | same => exact ha
  | published call => exact absurd call (hc _ _)
  | deleted => cases ha
  | erased => cases ha

/-! ### Reservations -/

/-- The reservations of subscriptions are those that have a lease. -/
def Quotas.Leased (q : Quotas) : Prop :=
  ∀ {id l}, q.subscriptionLeases.find? id = some l →
    ∃ r, q.reservations.find? id = some r ∧ r.resource = .subscriptions

/-- A reservation of something else than a subscription stays, and once spent stays spent. -/
structure CapacityReservation.Precedes (r r' : CapacityReservation) : Prop where
  same : r' = { r with released := r'.released }
  spent : r.released = true → r'.released = true

/-- What a change of what is set aside keeps. -/
structure Quotas.Keeps (q q' : Quotas) : Prop where
  leased : q'.Leased
  reservations : ∀ {id r}, q.reservations.find? id = some r → r.resource ≠ .subscriptions →
    ∃ r', q'.reservations.find? id = some r' ∧ r.Precedes r'

theorem CapacityReservation.Precedes.refl (r : CapacityReservation) : r.Precedes r := ⟨rfl, id⟩

theorem Quotas.Keeps.refl (h : q.Leased) : q.Keeps q :=
  ⟨h, fun hr _ => ⟨_, hr, .refl _⟩⟩

theorem Quotas.Keeps.trans {q3 : Quotas} (h1 : q1.Keeps q2) (h2 : q2.Keeps q3) : q1.Keeps q3 where
  leased := h2.leased
  reservations hr hresource := by
    obtain ⟨r2, hr2, hsame, hspent⟩ := h1.reservations hr hresource
    have hresource2 : r2.resource ≠ .subscriptions := by
      rw [hsame]
      exact hresource
    obtain ⟨r3, hr3, hsame', hspent'⟩ := h2.reservations hr2 hresource2
    refine ⟨r3, hr3, ?_, fun h => hspent' (hspent h)⟩
    rw [hsame', hsame]

/-- Only these two tables count. -/
theorem Quotas.Keeps.of_eq (h : q.Keeps q1) (hreservations : q2.reservations = q1.reservations)
    (hleases : q2.subscriptionLeases = q1.subscriptionLeases) : q.Keeps q2 where
  leased := by
    unfold Quotas.Leased
    rw [hreservations, hleases]
    exact h.leased
  reservations := by
    rw [hreservations]
    exact h.reservations

/-- Every reservation stays. -/
def Quotas.Stays (q q' : Quotas) : Prop :=
  ∀ id r, q.reservations.find? id = some r →
    ∃ r', q'.reservations.find? id = some r' ∧ r.Precedes r'

theorem Quotas.Stays.keeps (h : q.Stays q') (hleased : q.Leased)
    (hleases : q'.subscriptionLeases = q.subscriptionLeases) : q.Keeps q' := by
  refine ⟨fun hl => ?_, fun hr _ => h _ _ hr⟩
  rw [hleases] at hl
  obtain ⟨r, hr, hresource⟩ := hleased hl
  obtain ⟨r', hr', hprecedes⟩ := h _ _ hr
  refine ⟨r', hr', ?_⟩
  rw [hprecedes.same]
  exact hresource

theorem Quotas.stays_insert {reservations : Table CapacityReservation}
    (hinsert : q.reservations.insert? r = some reservations) : q.Stays { q with reservations } :=
  fun _ _ hr => ⟨_, Table.Grows.insert hinsert _ _ hr, .refl _⟩

/-- A reservation that is spent is there, spent; the others are as they were. -/
theorem Quotas.find?_spend {id : RequestId} (hfound : q.reservations.find? id = some r)
    (hspend : q.spend? r = some q') (id' : RequestId) :
    q'.reservations.find? id' =
      if id = id' then some { r with released := true } else q.reservations.find? id' := by
  rw [spend?_frame hspend]
  exact Table.find?_replaced (r := { r with released := true }) hfound
    (Table.key_of_find? hfound :) id'

theorem Quotas.stays_spend {id : RequestId} (hfound : q.reservations.find? id = some r)
    (hspend : q.spend? r = some q') :
    q.Stays q' := by
  intro id' r' hr'
  rw [find?_spend hfound hspend]
  split
  · next hid =>
    rw [← hid, hfound] at hr'
    cases hr'
    exact ⟨_, rfl, rfl, fun _ => rfl⟩
  · exact ⟨r', hr', .refl _⟩

theorem Quotas.keeps_spend (h : q.Leased) {id : RequestId}
    (hfound : q.reservations.find? id = some r) (hspend : q.spend? r = some q') : q.Keeps q' :=
  (stays_spend hfound hspend).keeps h (by rw [spend?_frame hspend])

theorem Quotas.keeps_spends (h : q.Leased) {id : RequestId}
    (hfound : q.reservations.find? id = some r) (hspends : q.Spends r q') :
    q.Keeps q' ∧ ∃ r', q'.reservations.find? id = some r' ∧ r.Precedes r' := by
  unfold Spends at hspends
  split at hspends
  · rw [hspends]
    exact ⟨.refl h, r, hfound, .refl r⟩
  · exact ⟨keeps_spend h hfound hspends, stays_spend hfound hspends _ _ hfound⟩

/-- Reservations may be taken away with their leases if they are of subscriptions. -/
theorem Quotas.keeps_filter (h : q.Leased) {p : CapacityReservation → Bool}
    {p' : SubscriptionLease → Bool} (hreservations : q'.reservations = q.reservations.filter p)
    (hleases : q'.subscriptionLeases = q.subscriptionLeases.filter p')
    (hgone : ∀ {id r}, q.reservations.find? id = some r → p r = false →
      r.resource = .subscriptions ∧ ∀ l, q.subscriptionLeases.find? id = some l → p' l = false) :
    q.Keeps q' := by
  have hstays : ∀ {id r}, q.reservations.find? id = some r → p r ≠ false →
      q'.reservations.find? id = some r := by
    intro id r hr hkept
    rw [hreservations, Table.find?_filter, hr, Option.filter_some, if_pos (by simpa using hkept)]
  refine ⟨fun {id l} hl => ?_, fun {id r} hr hother => ?_⟩
  · rw [hleases, Table.find?_filter, Option.filter_eq_some_iff] at hl
    obtain ⟨r, hr, hsubscription⟩ := h hl.1
    refine ⟨r, hstays hr fun hnot => ?_, hsubscription⟩
    exact absurd (((hgone hr hnot).2 l hl.1).symm.trans hl.2) nofun
  · exact ⟨r, hstays hr fun hnot => hother (hgone hr hnot).1, .refl _⟩

/-- A subscription that is given up goes with its lease. -/
theorem Quotas.keeps_drop (h : q.Leased) {id : RequestId} {old : CapacityReservation}
    (hid : r.reservationId = id) (hfound : q.reservations.find? id = some old)
    (hresource : old.resource = .subscriptions) : q.Keeps (q.dropSubscription r) := by
  refine keeps_filter h rfl rfl fun {id' r'} hr' hgone => ?_
  have hkey : r'.reservationId = id' := (Table.key_of_find? hr' :)
  obtain ⟨rfl, -⟩ : id' = id ∧ r'.released = true := by simpa [hkey, hid] using hgone
  cases hr'.symm.trans hfound
  refine ⟨hresource, fun l hl => ?_⟩
  have hkey' : l.reservationId = id' := Table.key_of_find? hl
  simp [hid, hkey']

/-- Leases that are cleared away go with their reservations. -/
theorem Quotas.keeps_clear (h : q.Leased) (p : SubscriptionLease → Bool) :
    q.Keeps (q.clearLeases p) := by
  refine keeps_filter h rfl rfl fun {id r} hr hgone => ?_
  have hkey : r.reservationId = id := (Table.key_of_find? hr :)
  rw [hkey, Bool.not_eq_false', Option.any_eq_true] at hgone
  obtain ⟨l, hl, hp⟩ := hgone
  obtain ⟨r', hr', hsubscription⟩ := h hl
  cases hr.symm.trans hr'
  refine ⟨hsubscription, fun l' hl' => ?_⟩
  cases hl.symm.trans hl'
  rw [hp, Bool.not_true]

/-- **What every call keeps of what is set aside.** -/
theorem StockChange.keeps (h : StockChange env t s c result q artifacts)
    (hleased : s.quotas.Leased) : s.quotas.Keeps q := by
  have hreclaimed : ∀ k, s.quotas.Keeps (s.reclaimed k) := fun k =>
    (Quotas.keeps_clear hleased fun l => l.sessionId = k && s.isStaleLease l).of_eq rfl rfl
  cases h with
  | same | deleted | erased => exact .refl hleased
  | reserved made =>
    exact ((Quotas.stays_insert made.inserted).keeps hleased rfl).of_eq rfl rfl
  | released found spent =>
    obtain ⟨hspent, r', hr', hprecedes⟩ := Quotas.keeps_spends hleased found spent
    split
    · next hresource =>
      refine hspent.trans (Quotas.keeps_drop hspent.leased (Table.key_of_find? found :) hr' ?_)
      rw [hprecedes.same]
      exact hresource
    · exact hspent
  | globalReserved => exact (Quotas.Keeps.refl hleased).of_eq rfl rfl
  | @globalReleased id r q1 found spent =>
    have hsame : q1.reservations = s.quotas.reservations ∧
        q1.subscriptionLeases = s.quotas.subscriptionLeases := by
      unfold Quotas.SpendsGlobal at spent
      split at spent
      · rw [spent]
        exact ⟨rfl, rfl⟩
      · rw [Quotas.lowerGlobal_frame spent]
        exact ⟨rfl, rfl⟩
    have hkeeps := (Quotas.Keeps.refl hleased).of_eq hsame.1 hsame.2
    split
    · exact hkeeps.of_eq rfl rfl
    · exact hkeeps
  | reclaimed => exact hreclaimed _
  | @leased d reservations leases made =>
    have hkept := hreclaimed d.lease.sessionId
    have hadded := (Quotas.stays_insert made.reserved).keeps hkept.leased rfl
    refine ⟨fun {id l} hl => ?_, fun hr hother => ?_⟩
    · change leases.find? id = _ at hl
      change ∃ r, reservations.find? id = _ ∧ _
      rw [Table.find?_insert made.inserted] at hl
      split at hl
      · next hid =>
        refine ⟨⟨d.lease.reservationId, d.lease.sessionId, d.lease.campaignId, .subscriptions, 1,
          false⟩, ?_, rfl⟩
        rw [← hid]
        exact (Table.find?_insert made.reserved _).trans (if_pos rfl)
      · exact hadded.leased hl
    · exact (hkept.trans hadded).reservations hr hother
  | @renewed d old found same =>
    refine ⟨fun {id l} hl => ?_, fun hr _ => ⟨_, hr, .refl _⟩⟩
    change (s.quotas.subscriptionLeases.replace d.lease).find? id = _ at hl
    rw [Table.find?_replaced found rfl] at hl
    split at hl
    · next hid => exact hid ▸ hleased found
    · exact hleased hl
  | reopened => exact (Quotas.keeps_clear hleased s.isStaleLease).of_eq rfl rfl
  | @published d now r q1 q2 artifacts made =>
    have hkept := Quotas.keeps_spend hleased made.taken.found made.taken.spent
    refine hkept.trans ?_
    have hbytes := made.bytes
    unfold PublishArtifact.TakesBytes at hbytes
    split at hbytes
    · rw [hbytes.2]
      exact .refl hkept.leased
    · exact Quotas.keeps_spend hkept.leased hbytes.2.found hbytes.2.spent

theorem Reachable.leased (h : Reachable env s) : s.quotas.Leased := by
  refine Reachable.rec' (P := fun s => s.quotas.Leased) (fun hl => by cases hl) ?_ h
  rintro s1 s2 hs hleased ⟨t, c⟩
  exact ((exec_stock hs.sound t c).keeps hleased).leased

/-! ### Erasures -/

/-- What the ledger has of an erasure stands: the artifact is as the erasure left it. -/
def Store.ErasuresStand (s : Store) : Prop :=
  ∀ row ∈ s.ledger, row.action = .eraseArtifact → ∀ effect value,
    row.outcome = .succeeded effect value → ∃ a, value = .artifact a ∧
      a.state = .physicallyErased ∧ s.artifacts.find? a.artifactId = some a

/-- An artifact that is erased stays as it is. -/
theorem ArtifactStep.of_erased (h : ArtifactStep c (some a) a')
    (herased : a.state = .physicallyErased) :
    a' = some a := by
  cases h with
  | same => rfl
  | deleted call available next =>
    rw [herased] at available
    cases available
  | erased call deleted retained next =>
    rw [herased] at deleted
    cases deleted

/-- Erasures are recorded by one call alone. -/
theorem Command.action_eraseArtifact {i : RequestIdentity} (h : c.identity? env = some i)
    (haction : i.action = .eraseArtifact) :
    ∃ d checkedAt now, c = .recordPhysicalErasure d checkedAt now := by
  cases c <;> cases h <;> first | exact ⟨_, _, _, rfl⟩ | cases haction

/-- What the ledger has of an erasure that goes through. -/
theorem recordPhysicalErasure_ledger {row : LedgerRow}
    (hrow : row ∈ (exec env t (.recordPhysicalErasure d checkedAt now) s).2.ledger) :
    row ∈ s.ledger ∨ ∃ a revision, d.Erases s checkedAt a ∧
      row.outcome = .succeeded .applied (.artifact (a.erased revision)) ∧
      (exec env t (.recordPhysicalErasure d checkedAt now) s).2.artifacts =
        s.artifacts.replace (a.erased revision) := by
  obtain ⟨v, s', hdone, heq⟩ | ⟨e, heq⟩ :=
    unrecorded_cases .artifact (recordPhysicalErasure env t checkedAt now d) s
  all_goals
    rw [show exec env t (.recordPhysicalErasure d checkedAt now) s = _ from heq] at hrow ⊢
  · obtain ⟨a, rfl, rfl⟩ | hdone := artifactReplay_done hdone
    · exact .inl hrow
    obtain ⟨a, revision, hmade, -, -, -, hartifacts, hinsert⟩ := eraseNew_done hdone
    obtain rfl | hold := (Table.mem_insert hinsert).mp hrow
    · exact .inr ⟨a, revision, hmade, rfl, hartifacts⟩
    · exact .inl hold
  · exact .inl hrow

theorem Store.ErasuresStand.step (hs : Sound s) (h : s.ErasuresStand) (t : Timestamp)
    (c : Command) : (exec env t c s).2.ErasuresStand := by
  intro row hrow haction effect value houtcome
  by_cases hold : row ∈ s.ledger
  · obtain ⟨a, rfl, herased, ha⟩ := h row hold haction effect value houtcome
    exact ⟨a, rfl, herased, (ha ▸ exec_artifact env hs t c a.artifactId :).of_erased herased⟩
  -- the record is new, so it is that of the call
  obtain hsame | ⟨new, hnew, hinsert⟩ := exec_ledger (c := c) hs t
  · rw [hsame] at hrow
    exact absurd hrow hold
  obtain rfl := ((Table.mem_insert hinsert).mp hrow).resolve_right hold
  obtain ⟨d, checkedAt, now, rfl⟩ := Command.action_eraseArtifact hnew haction
  obtain ⟨a, revision, hmade, hvalue, hartifacts⟩ :=
    (recordPhysicalErasure_ledger hrow).resolve_left hold
  rw [houtcome] at hvalue
  cases hvalue
  have hkey : (a.erased revision).artifactId = d.artifactId :=
    (Table.key_of_find? hmade.found :)
  refine ⟨_, rfl, rfl, ?_⟩
  rw [hartifacts, Table.find?_replaced hmade.found hkey, if_pos hkey.symm]

theorem Reachable.erasuresStand (h : Reachable env s) : s.ErasuresStand := by
  refine Reachable.rec' (P := Store.ErasuresStand) (fun _ hrow => by cases hrow) ?_ h
  rintro s1 s2 hs hstands ⟨t, c⟩
  exact hstands.step hs.sound t c

/-- A request that is replayed is in the ledger. -/
theorem replayLookup_some {χ : Type} [MutableRequest χ] {d : χ} {value : StoredValue}
    (h : replayLookup env d s = .ok (some value)) :
    ∃ row effect, row ∈ s.ledger ∧ row.action = MutableRequest.action d ∧
      row.outcome = .succeeded effect value := by
  unfold replayLookup Store.replayOf MutableRequest.identity at h
  cases hrow : s.ledger.find? (MutableRequest.context d).requestId with
  | none =>
    simp only [hrow] at h
    split at h <;> cases h
  | some row =>
    simp only [hrow] at h
    split at h
    · next hmatches =>
      cases houtcome : row.outcome with
      | failed error =>
        rw [houtcome] at h
        cases h
      | succeeded effect result =>
        rw [houtcome] at h
        cases h
        exact ⟨row, effect, Table.mem_of_find? hrow, hmatches.2.1, houtcome⟩
    · cases h

/-- **When an erasure is allowed**: the artifact is deleted and its retention over, unless the
erasure was recorded before and is repeated. -/
theorem authorizePhysicalErasure_ok (hs : Reachable env s) {a : Mutation Answer}
    (h : (exec env t (.authorizePhysicalErasure d checkedAt) s).1 = .ok a) :
    (∃ x, a = .unchanged (.artifact x) ∧ d.Erases s checkedAt x) ∨
    ∃ x, a = .replayed (.artifact x) ∧ x.state = .physicallyErased ∧
      s.artifacts.find? x.artifactId = some x := by
  obtain ⟨v, s', hdone, heq⟩ | ⟨e, heq⟩ :=
    unrecorded_cases .artifact (authorizePhysicalErasure env t checkedAt d) s
  all_goals rw [show exec env t (.authorizePhysicalErasure d checkedAt) s = _ from heq] at h
  · cases h
    obtain ⟨value, x, hlookup, hreplay, rfl⟩ | ⟨-, hbody⟩ := replayOrWrite_done env hdone
    · simp only [looks_done] at hreplay
      obtain ⟨x, hvalue, herased, rfl, rfl⟩ := hreplay
      obtain ⟨row, effect, hrow, haction, houtcome⟩ := replayLookup_some hlookup
      obtain ⟨y, rfl, -, hy⟩ := hs.erasuresStand row hrow haction effect value houtcome
      cases hvalue
      exact .inr ⟨x, rfl, herased, hy⟩
    · obtain ⟨_, s1, hauthorize, hbody⟩ := bind_done.mp hbody
      obtain ⟨r, -, rfl⟩ := authorizeArtifact_done hauthorize
      obtain ⟨x, s2, herasable, hbody⟩ := bind_done.mp hbody
      obtain ⟨herases, rfl⟩ := erasable_done herasable
      cases hbody
      exact .inl ⟨x, rfl, ⟨herases.found, herases.session, herases.deleted, herases.retained⟩⟩
  · cases h

/-! ### Publications -/

/-- The reservations a publication takes. -/
def PublishArtifact.reservationIds (d : PublishArtifact) : List RequestId :=
  d.artifactReservationId :: d.byteReservationId.toList

/-- **What a publication takes**: one reservation of an artifact, and one of its bytes if it
has any; both are of its session and its creator, both were unspent, and no other changes. -/
structure PublishArtifact.Consumes (d : PublishArtifact) (q q' : Quotas) : Prop where
  artifact : q.reservations.find? d.artifactReservationId =
    some ⟨d.artifactReservationId, d.sessionId, d.creatorParticipantId, .artifacts, 1, false⟩
  bytes : ∀ id ∈ d.byteReservationId, q.reservations.find? id =
    some ⟨id, d.sessionId, d.creatorParticipantId, .artifactBytes, d.size, false⟩
  positive : d.byteReservationId.isSome = true ↔ 0 < d.size
  distinct : d.reservationIds.Nodup
  spent : ∀ id ∈ d.reservationIds, q'.reservations.find? id =
    (q.reservations.find? id).map fun r => { r with released := true }
  others : ∀ id, id ∉ d.reservationIds → q'.reservations.find? id = q.reservations.find? id

theorem PublishArtifact.Publishes.consumes {d : PublishArtifact} {r : SessionRecord}
    (h : d.Publishes t now s r q1 q2 artifacts) : d.Consumes s.quotas q2 := by
  have hfound := h.taken.found
  have hfirst := Quotas.find?_spend hfound h.taken.spent
  have hbytes := h.bytes
  unfold TakesBytes at hbytes
  cases hid : d.byteReservationId with
  | none =>
    obtain ⟨hsize, rfl⟩ : d.size = 0 ∧ q2 = q1 := by simpa only [hid] using hbytes
    refine ⟨hfound, fun id h => by simp [hid] at h, by simp [hid, hsize],
      by simp [reservationIds, hid], fun id h => ?_, fun id h => ?_⟩
    · obtain rfl : id = d.artifactReservationId := by simpa [reservationIds, hid] using h
      rw [hfirst, if_pos rfl, hfound]
      rfl
    · rw [hfirst, if_neg]
      rintro rfl
      exact h List.mem_cons_self
  | some id =>
    obtain ⟨hsize, htaken⟩ : d.size ≠ 0 ∧ q1.Takes id d.sessionId d.creatorParticipantId
        .artifactBytes d.size q2 := by simpa only [hid] using hbytes
    have hsecond := Quotas.find?_spend htaken.found htaken.spent
    -- the first reservation is spent when the second is taken, so they are two
    have hne : d.artifactReservationId ≠ id := by
      intro heq
      have hspent := hfirst id
      rw [if_pos heq, htaken.found] at hspent
      cases hspent
    have hbefore : s.quotas.reservations.find? id = _ :=
      ((hfirst id).trans (if_neg hne)).symm.trans htaken.found
    have hids : d.reservationIds = [d.artifactReservationId, id] := by simp [reservationIds, hid]
    refine ⟨hfound, fun id' h => ?_, by simp [hid]; omega, by simp [hids, hne], fun id' h => ?_,
      fun id' h => ?_⟩
    · obtain rfl : id = id' := by simpa [hid] using h
      exact hbefore
    · rw [hids, List.mem_pair] at h
      obtain rfl | rfl := h
      · rw [hsecond, if_neg hne.symm, hfirst, if_pos rfl, hfound]
        rfl
      · rw [hsecond, if_pos rfl, hbefore]
        rfl
    · rw [hids, List.mem_pair, not_or] at h
      rw [hsecond, if_neg (Ne.symm h.2), hfirst, if_neg (Ne.symm h.1)]

/-- A publication of a run: the store before and after it, and what was asked for. -/
structure Publication where
  before : Store
  after : Store
  request : PublishArtifact

/-- What a call publishes. -/
def publicationOf (env : Env) (t : Timestamp) (c : Command) (s : Store) : List Publication :=
  match c with
  | .publishArtifact d _ =>
    if (exec env t c s).1.isApplied then [⟨s, (exec env t c s).2, d⟩] else []
  | _ => []

/-- The publications of a run. -/
def publications (env : Env) : List (Timestamp × Command) → Store → List Publication
  | [], _ => []
  | (t, c) :: rest, s => publicationOf env t c s ++ publications env rest (exec env t c s).2

/-- What a call publishes is new, and takes what it should. -/
theorem publicationOf_cases (hs : Sound s) (t : Timestamp) (c : Command) :
    publicationOf env t c s = [] ∧ (∀ id, s.artifacts.find? id = none →
      (exec env t c s).2.artifacts.find? id = none) ∨
    ∃ d now, publicationOf env t c s = [⟨s, (exec env t c s).2, d⟩] ∧
      d.Consumes s.quotas (exec env t c s).2.quotas ∧
      s.artifacts.insert? (d.snapshot now) = some (exec env t c s).2.artifacts := by
  have hchange : StockChange env t s c _ _ _ := exec_stock hs t c
  unfold publicationOf
  generalize hr : (exec env t c s).1 = result at hchange
  generalize hq : (exec env t c s).2.quotas = q at hchange ⊢
  generalize ha : (exec env t c s).2.artifacts = artifacts at hchange ⊢
  have hstep := hchange.artifact
  cases hchange with
  | published made => exact .inr ⟨_, _, rfl, made.consumes, made.inserted⟩
  | same idle =>
    refine .inl ⟨?_, fun _ h => h⟩
    split
    · refine if_neg fun happlied => ?_
      obtain ⟨a, ha⟩ := Result.exists_applied happlied
      exact idle rfl a ha
    · rfl
  | _ =>
    exact .inl ⟨rfl, fun id hnone => (hstep id).of_none hnone fun _ _ h => by cases h⟩

/-- A reservation that has been spent. -/
def Quotas.Spent (q : Quotas) (id : RequestId) : Prop :=
  ∃ r, q.reservations.find? id = some r ∧ r.resource ≠ .subscriptions ∧ r.released = true

theorem Quotas.Keeps.spent (h : q.Keeps q') {id : RequestId} (hspent : q.Spent id) :
    q'.Spent id := by
  obtain ⟨r, hr, hresource, hreleased⟩ := hspent
  obtain ⟨r', hr', hsame, hspent'⟩ := h.reservations hr hresource
  refine ⟨r', hr', ?_, hspent' hreleased⟩
  rw [hsame]
  exact hresource

/-- What a publication takes was unspent and is spent. -/
theorem PublishArtifact.Consumes.spends {d : PublishArtifact} (h : d.Consumes q q') {id : RequestId}
    (hid : id ∈ d.reservationIds) :
    ¬ q.Spent id ∧ q'.Spent id := by
  have hspent := h.spent id hid
  obtain ⟨r, hr, hheld, hresource⟩ : ∃ r, q.reservations.find? id = some r ∧
      r.released = false ∧ r.resource ≠ .subscriptions := by
    obtain rfl | hid := List.mem_cons.mp hid
    · exact ⟨_, h.artifact, rfl, nofun⟩
    · exact ⟨_, h.bytes id (Option.mem_toList.mp hid), rfl, nofun⟩
  refine ⟨?_, { r with released := true }, by rw [hspent, hr]; rfl, hresource, rfl⟩
  rintro ⟨r', hr', -, hreleased⟩
  cases hr.symm.trans hr'
  cases hheld.symm.trans hreleased

/-- **No reservation is taken twice in a run**, and none that was spent before it. -/
theorem publications_take_once (hs : Reachable env s) (cs : List (Timestamp × Command)) :
    ((publications env cs s).flatMap (·.request.reservationIds)).Nodup ∧
      ∀ p ∈ publications env cs s, p.request.Consumes p.before.quotas p.after.quotas ∧
        ∀ id ∈ p.request.reservationIds, ¬ s.quotas.Spent id := by
  induction cs generalizing s with
  | nil => exact ⟨List.nodup_nil, fun _ hp => by cases hp⟩
  | cons tc rest ih =>
    obtain ⟨t, c⟩ := tc
    obtain ⟨hnodup, hrest⟩ := ih (hs.tail (.call t c))
    have hchange : StockChange env t s c _ _ _ := exec_stock hs.sound t c
    have hkeeps := hchange.keeps hs.leased
    have hlater : ∀ p ∈ publications env rest (exec env t c s).2,
        p.request.Consumes p.before.quotas p.after.quotas ∧
          ∀ id ∈ p.request.reservationIds, ¬ s.quotas.Spent id :=
      fun p hp => ⟨(hrest p hp).1, fun id hid hspent => (hrest p hp).2 id hid (hkeeps.spent hspent)⟩
    unfold publications
    obtain ⟨hnone, -⟩ | ⟨d, now, hone, hconsumes, -⟩ := publicationOf_cases hs.sound t c
    · rw [hnone]
      exact ⟨hnodup, hlater⟩
    rw [hone, List.singleton_append, List.flatMap_cons, List.nodup_append, List.forall_mem_cons]
    refine ⟨⟨hconsumes.distinct, hnodup, ?_⟩, ⟨hconsumes, fun id hid =>
      (hconsumes.spends hid).1⟩, hlater⟩
    rintro id hid _ hid' rfl
    obtain ⟨p, hp, hid'⟩ := List.mem_flatMap.mp hid'
    exact (hrest p hp).2 id hid' (hconsumes.spends hid).2

/-- An artifact stays the same artifact in a run. -/
theorem calls_artifact (hs : Reachable env s) (cs : List (Timestamp × Command)) {id : ArtifactId}
    (ha : s.artifacts.find? id = some a) :
    ∃ b, (calls env cs s).artifacts.find? id = some b ∧ b.identity = a.identity := by
  induction cs generalizing s a with
  | nil => exact ⟨a, ha, rfl⟩
  | cons tc rest ih =>
    have hstep := exec_artifact env hs.sound tc.1 tc.2 id
    rw [ha] at hstep
    obtain ⟨b, hb, hsame, -⟩ := hstep.follows
    obtain ⟨b', hb', hsame'⟩ := ih (hs.tail (.call tc.1 tc.2)) hb
    exact ⟨b', hb', hsame'.trans hsame⟩

/-- **Every artifact was published once in its run**, or was there before it. -/
theorem publications_of_artifacts (hs : Reachable env s) (cs : List (Timestamp × Command)) :
    ((publications env cs s).map (·.request.artifactId)).Nodup ∧
      (∀ p ∈ publications env cs s, s.artifacts.find? p.request.artifactId = none) ∧
      ∀ id a, (calls env cs s).artifacts.find? id = some a → s.artifacts.find? id = none →
        ∃ p ∈ publications env cs s, p.request.artifactId = id ∧ a.sessionId = p.request.sessionId ∧
          a.creatorParticipantId = p.request.creatorParticipantId ∧ a.size = p.request.size := by
  induction cs generalizing s with
  | nil =>
    refine ⟨List.nodup_nil, fun _ hp => (List.not_mem_nil hp).elim, fun id a ha hnone => ?_⟩
    cases hnone.symm.trans ha
  | cons tc rest ih =>
    obtain ⟨t, c⟩ := tc
    have hnext : Reachable env (exec env t c s).2 := hs.tail (.call t c)
    obtain ⟨hnodup, hfresh, hall⟩ := ih hnext
    -- an artifact that is not there after the call was not there before it
    have hbefore : ∀ id, (exec env t c s).2.artifacts.find? id = none →
        s.artifacts.find? id = none := by
      intro id hnone
      by_contra hsome
      obtain ⟨a, ha⟩ := Option.ne_none_iff_exists'.mp hsome
      have hstep := exec_artifact env hs.sound t c id
      rw [ha, hnone] at hstep
      obtain ⟨b, hb, -⟩ := hstep.follows
      cases hb
    unfold publications
    obtain ⟨hnone, hstays⟩ | ⟨d, now, hone, -, hinsert⟩ := publicationOf_cases hs.sound t c
    · rw [hnone]
      exact ⟨hnodup, fun p hp => hbefore _ (hfresh p hp),
        fun id a ha h => hall id a ha (hstays id h)⟩
    · have hfound : (exec env t c s).2.artifacts.find? d.artifactId = some (d.snapshot now) :=
        (Table.find?_insert hinsert _).trans (if_pos rfl)
      rw [hone, List.singleton_append, List.map_cons, List.nodup_cons, List.forall_mem_cons]
      refine ⟨⟨fun hmem => ?_, hnodup⟩, ⟨Table.insert?_fresh hinsert,
        fun p hp => hbefore _ (hfresh p hp)⟩, fun id a ha h => ?_⟩
      · obtain ⟨p, hp, hid⟩ := List.mem_map.mp hmem
        cases (hid ▸ hfresh p hp).symm.trans hfound
      by_cases hid : d.artifactId = id
      · obtain ⟨b, hb, hsame⟩ := calls_artifact hnext rest hfound
        rw [hid] at hb
        cases ha.symm.trans hb
        simp only [ArtifactSnapshot.identity, Prod.mk.injEq] at hsame
        exact ⟨_, List.mem_cons_self, hid, hsame.2.1, hsame.2.2.1, hsame.2.2.2.2.2.1⟩
      · have hnone : (exec env t c s).2.artifacts.find? id = none := by
          rw [Table.find?_insert hinsert]
          exact (if_neg hid).trans h
        obtain ⟨p, hp, hrest⟩ := hall id a ha hnone
        exact ⟨p, List.mem_cons_of_mem _ hp, hrest⟩

/-- **Artifacts are published, deleted and erased, each once and in this order**, the same but
for their state, and erased only when their retention is over; an erasure is allowed then
only, unless it is repeated after it was recorded.  In every run, what is published takes one
unspent reservation of an artifact and one of its bytes, if it has any, and no reservation is
taken twice. -/
theorem artifact_lifecycle_is_kept (env : Env) {s : Store} (hs : Reachable env s) :
    (∀ t c id, ArtifactStep c (s.artifacts.find? id) ((exec env t c s).2.artifacts.find? id) ∧
      ∀ a, s.artifacts.find? id = some a → ∃ b,
        (exec env t c s).2.artifacts.find? id = some b ∧ b.identity = a.identity ∧
        (b = a ∨ b.state.rank = a.state.rank + 1 ∧ b.revision.get = a.revision.get + 1)) ∧
    (∀ t d checkedAt a, (exec env t (.authorizePhysicalErasure d checkedAt) s).1 = .ok a →
      (∃ x, a = .unchanged (.artifact x) ∧ d.Erases s checkedAt x) ∨
      ∃ x, a = .replayed (.artifact x) ∧ x.state = .physicallyErased ∧
        s.artifacts.find? x.artifactId = some x) ∧
    ∀ cs, (∀ p ∈ publications env cs s, p.request.Consumes p.before.quotas p.after.quotas) ∧
      ((publications env cs s).flatMap (·.request.reservationIds)).Nodup ∧
      ((publications env cs s).map (·.request.artifactId)).Nodup ∧
      ∀ id a, (calls env cs s).artifacts.find? id = some a → s.artifacts.find? id = none →
        ∃ p ∈ publications env cs s, p.request.artifactId = id ∧ a.sessionId = p.request.sessionId ∧
          a.creatorParticipantId = p.request.creatorParticipantId ∧ a.size = p.request.size := by
  refine ⟨fun t c id => ?_, fun t d checkedAt a h => authorizePhysicalErasure_ok hs h, fun cs => ?_⟩
  · have hstep := exec_artifact env hs.sound t c id
    refine ⟨hstep, fun a ha => ?_⟩
    rw [ha] at hstep
    exact hstep.follows
  · obtain ⟨htake, hconsumes⟩ := publications_take_once hs cs
    obtain ⟨hnodup, -, hall⟩ := publications_of_artifacts hs cs
    exact ⟨fun p hp => (hconsumes p hp).1, htake, hnodup, hall⟩

namespace Sample

/-- An artifact of four bytes is published, deleted, and erased when its retention is over. -/
def artifactCalls : List (Timestamp × Command) :=
  [(seconds 1, .reserveCapacity ⟨id 30, session, root, .artifacts, 1⟩),
    (seconds 1, .reserveCapacity ⟨id 31, session, root, .artifactBytes, 4⟩),
    (seconds 1, .publishArtifact ⟨request 32, session, hostA, epoch, id 5, root, operation,
      ⟨"text/plain", by decide⟩, 4, 0, artifactLocator session (id 5), seconds 3, id 30,
      some (id 31)⟩ (seconds 1)),
    (seconds 2, .logicallyDeleteArtifact ⟨⟨request 33, session, hostA, epoch, id 5⟩⟩ (seconds 2)),
    (seconds 3, .recordPhysicalErasure ⟨⟨request 34, session, hostA, epoch, id 5⟩⟩ (seconds 3)
      (seconds 3))]

end Sample

open Sample

/-- An artifact is erased, and its publication took what was set aside for it. -/
theorem artifact_lifecycle_is_kept_erased :
    ((calls world artifactCalls running).artifacts.find? (Sample.id 5)).any
      (·.state = .physicallyErased) = true ∧
    ∃ p ∈ publications world artifactCalls running, p.request.artifactId = Sample.id 5 ∧
      p.request.Consumes p.before.quotas p.after.quotas := by
  have hall : ((calls world artifactCalls running).artifacts.find?
        (Sample.id 5)).any (·.state = .physicallyErased) = true ∧
      running.artifacts.find? (Sample.id 5) = none := by
    decide +kernel
  obtain ⟨herased, hnone⟩ := hall
  obtain ⟨-, -, hruns⟩ := artifact_lifecycle_is_kept world running_reachable
  obtain ⟨hconsumes, -, -, hpublished⟩ := hruns artifactCalls
  obtain ⟨a, ha, -⟩ := (Option.any_eq_true _ _).mp herased
  obtain ⟨p, hp, hid, -⟩ := hpublished _ a ha hnone
  exact ⟨herased, p, hp, hid, hconsumes p hp⟩

end Navigator
