/-
Sessions and their ownership.

A host acquires a session for a time and gets an epoch; every mutation of the
session names the host and the epoch and is let through (`authorizeLaunch`) only
while that ownership is in effect.  The time a lease is measured against is the
session's own: the highest clock reading any mutation has brought
(`advanceTimeFloor`), so that a clock that goes back does not revive a lease.
-/
import Navigator.Store.Events

namespace Navigator

open Txn Tx

variable {r : SessionRecord} {sessionId : SessionId} {action : StoreAction} {s s' : Store}
  {epoch : FencingEpoch} {now t : Timestamp} {u : Unit} {context : RequestContext}
variable {caller : HostId} {k : SessionId} {ρ α : Type}

/-! ### Reading a session -/

/-- A session as its row is decoded. -/
structure SessionRow where
  snapshot : SessionSnapshot
  owner : Option OwnershipLease
  epochHighWater : ℕ
  timeFloor : Timestamp

def SessionRecord.status (r : SessionRecord) : SessionStatus :=
  if r.closed then .closed else .open

/-- The snapshot of a row, if `SessionSnapshot::new` accepts it. -/
def SessionRecord.snapshot? (r : SessionRecord) : Option SessionSnapshot :=
  if h : r.createdAt ≤ r.updatedAt ∧ (r.status = .closed → r.revision ≠ .initial) then
    some
      { id := r.sessionId
        consumerKey := r.publicConsumerKey
        compatibility := r.compatibility
        status := r.status
        revision := r.revision
        createdAt := r.createdAt
        updatedAt := r.updatedAt
        ordered := h.1
        closedRevised := h.2 }
  else none

/-- The lease of a row's owner.  It is restored as issued just before it expires. -/
def SessionRecord.lease? (r : SessionRecord) : Except StoreError (Option OwnershipLease) :=
  match r.owner, r.ownerEpoch with
  | none, _ => .ok none
  | some (host, expiresAt), some epoch =>
    match expiresAt.before with
    | some _ => .ok (some ⟨r.sessionId, host, epoch, expiresAt⟩)
    | none => .error .corrupt
  | some _, none => .error .corrupt

/-- `decode_session`. -/
def decodeSession (r : SessionRecord) : Except StoreError SessionRow :=
  match r.snapshot?, r.lease? with
  | some snapshot, .ok owner => .ok ⟨snapshot, owner, r.epochHighWater, r.timeFloor⟩
  | _, _ => .error .corrupt

/-- What a decoded row says of the row. -/
structure SessionRow.Decodes (row : SessionRow) (r : SessionRecord) : Prop where
  sessionId : row.snapshot.id = r.sessionId
  consumer : row.snapshot.consumerKey = r.publicConsumerKey
  status : row.snapshot.status = r.status
  revision : row.snapshot.revision = r.revision
  floor : row.timeFloor = r.timeFloor
  highWater : row.epochHighWater = r.epochHighWater
  free : row.owner = none → r.owner = none
  held : ∀ lease ∈ row.owner,
    r.owner = some (lease.owner, lease.expiresAt) ∧ r.ownerEpoch = some lease.epoch

theorem decodeSession_ok {row : SessionRow} (h : decodeSession r = .ok row) :
    row.Decodes r := by
  unfold decodeSession at h
  split at h
  · next snapshot owner hsnapshot howner =>
    cases h
    unfold SessionRecord.snapshot? at hsnapshot
    split at hsnapshot
    · cases hsnapshot
      unfold SessionRecord.lease? at howner
      cases hr : r.owner with
      | none =>
        rw [hr] at howner
        cases howner
        exact ⟨rfl, rfl, rfl, rfl, rfl, rfl, fun _ => hr, by simp⟩
      | some o =>
        rcases he : r.ownerEpoch with _ | e
        · simp [hr, he] at howner
        simp only [hr, he] at howner
        split at howner
        · cases howner
          refine ⟨rfl, rfl, rfl, rfl, rfl, rfl, by simp, fun _ h => ?_⟩
          cases h
          exact ⟨hr, he⟩
        · cases howner
    · cases hsnapshot
  · cases h

/-- A row that can be decoded: it has not gone back in time, it has been revised if it is
closed, and its lease can be restored. -/
structure SessionRecord.Kept (r : SessionRecord) : Prop where
  created : r.createdAt ≤ r.updatedAt
  updated : r.updatedAt ≤ r.timeFloor
  revised : r.closed = true → r.revision ≠ .initial
  lease : ∀ held, r.owner = some held → held.2.before.isSome = true
  fits : r.revision.get < i64Bound ∧ r.epochHighWater < i64Bound

theorem SessionRecord.Kept.decodes (h : r.Kept) :
    ∃ row, decodeSession r = .ok row := by
  have hsnapshot : ∃ snapshot, r.snapshot? = some snapshot := by
    unfold SessionRecord.snapshot?
    refine ⟨_, dif_pos ⟨h.created, fun hclosed => h.revised ?_⟩⟩
    unfold SessionRecord.status at hclosed
    by_contra hopen
    simp [hopen] at hclosed
  have hlease : ∃ lease, r.lease? = .ok lease := by
    unfold SessionRecord.lease?
    rcases howner : r.owner with _ | held
    · exact ⟨none, rfl⟩
    obtain ⟨epoch, hepoch⟩ := Option.isSome_iff_exists.mp (r.ownerHasEpoch (by simp [howner]))
    obtain ⟨t, ht⟩ := Option.isSome_iff_exists.mp (h.lease held howner)
    exact ⟨some ⟨r.sessionId, held.1, epoch, held.2⟩, by simp [hepoch, ht]⟩
  obtain ⟨snapshot, hsnapshot⟩ := hsnapshot
  obtain ⟨lease, hlease⟩ := hlease
  exact ⟨_, by rw [decodeSession, hsnapshot, hlease]⟩

/-- `load_session_in`. -/
def loadSession (s : Store) (sessionId : SessionId) : Except StoreError (Option SessionRow) :=
  match s.sessions.find? sessionId with
  | none => .ok none
  | some r => (decodeSession r).map some

/-- `require_open_session`. -/
def requireOpenSession (sessionId : SessionId) (action : StoreAction) (s : Store) :
    Except StoreError SessionRow := do
  match ← loadSession s sessionId with
  | none => .error (.sessionNotFound sessionId)
  | some row =>
    if row.snapshot.status = .closed then
      .error (if action = .closeSession then .alreadyClosed sessionId
        else .sessionClosed sessionId)
    else .ok row

theorem requireOpenSession_ok {row : SessionRow}
    (h : requireOpenSession sessionId action s = .ok row) :
    ∃ r, s.sessions.find? sessionId = some r ∧ r.closed = false ∧ row.Decodes r := by
  unfold requireOpenSession loadSession at h
  rcases hr : s.sessions.find? sessionId with _ | r
  · simp [hr] at h
  simp only [hr, result_bind_ok, result_map_ok] at h
  obtain ⟨_, ⟨row', hrow, rfl⟩, h⟩ := h
  have hdecodes := decodeSession_ok hrow
  by_cases hclosed : row'.snapshot.status = .closed
  · simp [hclosed] at h
  simp only [hclosed, if_false, Except.ok.injEq] at h
  subst h
  refine ⟨r, rfl, ?_, hdecodes⟩
  rw [hdecodes.status, SessionRecord.status] at hclosed
  simpa using hclosed

/-- `require_owner`. -/
def requireOwner (row : SessionRow) (caller : HostId) (attempted : FencingEpoch)
    (observedAt : Timestamp) : Except StoreError Unit :=
  match row.owner with
  | none => .error (.staleOwnership row.snapshot.id attempted none)
  | some owner =>
    if owner.epoch ≠ attempted ∨ owner.owner ≠ caller then
      .error (.staleOwnership row.snapshot.id attempted (some owner.epoch))
    else if owner.isEffectiveAt observedAt then .ok ()
    else .error (.ownershipExpired row.snapshot.id attempted)

/-- The row is held by `host` under `epoch`, beyond `now`. -/
def SessionRecord.HeldUntil (r : SessionRecord) (host : HostId) (epoch : FencingEpoch)
    (now : Timestamp) : Prop :=
  ∃ expiresAt, r.owner = some (host, expiresAt) ∧ r.ownerEpoch = some epoch ∧ now < expiresAt

theorem requireOwner_ok {row : SessionRow} (hr : row.Decodes r)
    (h : requireOwner row caller epoch now = .ok u) : r.HeldUntil caller epoch now := by
  unfold requireOwner at h
  split at h
  · cases h
  next lease hlease =>
  obtain ⟨howner, hepoch⟩ := hr.held lease hlease
  split at h
  · cases h
  next hmatch =>
  obtain ⟨rfl, rfl⟩ : lease.epoch = epoch ∧ lease.owner = caller := by simpa using hmatch
  split at h
  · next heffective =>
    exact ⟨lease.expiresAt, howner, hepoch, by
      simpa [OwnershipLease.isEffectiveAt] using heffective⟩
  · cases h

/-! ### The time floor -/

/-- The time floor of a session. -/
def Store.floorOf (s : Store) (sessionId : SessionId) : Option Timestamp :=
  (s.sessions.find? sessionId).map SessionRecord.timeFloor

/-- A session whose time floor is `t`. -/
def Store.withFloor (s : Store) (sessionId : SessionId) (t : Timestamp) : Store :=
  { s with
    sessions := s.sessions.modify sessionId (fun r => { r with timeFloor := t }) (fun _ => rfl) }

@[simp] theorem Store.withFloor_journal : (s.withFloor k t).journal = s.journal := rfl

theorem Store.find?_withFloor (hr : s.sessions.find? k = some r) (t : Timestamp) :
    (s.withFloor k t).sessions.find? k = some { r with timeFloor := t } := by
  rw [Store.withFloor, Table.find?_modify, if_pos rfl, hr]
  rfl

/-- `advance_time_floor`. -/
def advanceTimeFloor {ρ : Type} (sessionId : SessionId) (persisted observed : Timestamp) :
    Tx Store ρ StoreError Timestamp := do
  write fun s => s.withFloor sessionId (max persisted observed)
  return max persisted observed

@[simp] theorem advanceTimeFloor_bind_done {persisted observed : Timestamp}
    {g : Timestamp → Tx Store ρ StoreError α} {a : α} :
    (advanceTimeFloor sessionId persisted observed >>= g) s = .done a s' ↔
      g (max persisted observed) (s.withFloor sessionId (max persisted observed)) =
        .done a s' := by
  simp [advanceTimeFloor]

/-- `load_session_in(…).ok_or(Corrupt)?.time_floor`. -/
def loadTimeFloor {ρ : Type} (sessionId : SessionId) : Tx Store ρ StoreError Timestamp := do
  let row ← ofExcept (← read (loadSession · sessionId))
  return (← orAbort row .corrupt).timeFloor

theorem loadTimeFloor_done
    (h : (loadTimeFloor sessionId : Tx Store ρ StoreError Timestamp) s = .done t s') :
    s.floorOf sessionId = some t ∧ s' = s := by
  simp only [loadTimeFloor, looks_done] at h
  obtain ⟨_, hload, row, rfl, rfl, rfl⟩ := h
  unfold loadSession at hload
  rcases hr : s.sessions.find? sessionId with _ | r
  · simp [hr] at hload
  simp only [hr, result_map_ok, Option.some.injEq] at hload
  obtain ⟨_, hrow, rfl⟩ := hload
  exact ⟨by simp [Store.floorOf, hr, (decodeSession_ok hrow).floor], rfl⟩

/-- `authorize_launch`: the session is open and the caller's epoch is in effect.  The
time floor is advanced in any case but the first. -/
def authorizeLaunch {ρ : Type} (sessionId : SessionId) (context : RequestContext)
    (epoch : FencingEpoch) (action : StoreAction) (observedAt : Timestamp) :
    Tx Store ρ StoreError (Except StoreError Unit) := do
  match ← read (requireOpenSession sessionId action) with
  | .error e => return .error e
  | .ok row =>
    let now ← advanceTimeFloor sessionId row.timeFloor observedAt
    return requireOwner row context.caller epoch now

/-- `authorize_launch`, where its failure is recorded. -/
def authorize (sessionId : SessionId) (context : RequestContext) (epoch : FencingEpoch)
    (action : StoreAction) (observedAt : Timestamp) : Call Unit := do
  acceptOr (sessionId, ·) (← authorizeLaunch sessionId context epoch action observedAt)

/-- An authorized call: the caller holds the session at the time its own call has
brought, and that time is recorded. -/
structure Store.Authorized (s : Store) (sessionId : SessionId) (caller : HostId)
    (epoch : FencingEpoch) (observedAt : Timestamp) (r : SessionRecord) : Prop where
  found : s.sessions.find? sessionId = some r
  isOpen : r.closed = false
  held : r.HeldUntil caller epoch (max r.timeFloor observedAt)

/-- A session that is open at a time when the caller holds it. -/
theorem Store.authorized_of_ok {row : SessionRow} {u : Unit}
    (hrow : requireOpenSession sessionId action s = .ok row)
    (howner : requireOwner row caller epoch (max row.timeFloor t) = .ok u) :
    ∃ r, s.Authorized sessionId caller epoch t r ∧ row.Decodes r := by
  obtain ⟨r, hr, hopen, hdecodes⟩ := requireOpenSession_ok hrow
  rw [hdecodes.floor] at howner
  exact ⟨r, ⟨hr, hopen, requireOwner_ok hdecodes howner⟩, hdecodes⟩

theorem authorizeLaunch_ok (h : (authorizeLaunch sessionId context epoch action t :
      Tx Store ρ StoreError _) s = .done (.ok u) s') :
    ∃ r, s.Authorized sessionId context.caller epoch t r ∧
      s' = s.withFloor sessionId (max r.timeFloor t) := by
  simp only [authorizeLaunch, looks_done] at h
  rcases hrow : requireOpenSession sessionId action s with e | row
  · simp [hrow] at h
  simp only [hrow, advanceTimeFloor_bind_done, pure_done] at h
  obtain ⟨howner, rfl⟩ := h
  obtain ⟨r, hr, hdecodes⟩ := Store.authorized_of_ok hrow howner
  exact ⟨r, hr, by rw [hdecodes.floor]⟩

theorem authorize_done (h : authorize sessionId context epoch action t s = .done u s') :
    ∃ r, s.Authorized sessionId context.caller epoch t r ∧
      s' = s.withFloor sessionId (max r.timeFloor t) := by
  obtain ⟨x, s1, hx, h⟩ := bind_done.mp h
  obtain ⟨hok, rfl⟩ := acceptOr_done.mp h
  rw [hok] at hx
  exact authorizeLaunch_ok hx

theorem authorize_bind_done {f : Unit → Call α} {v : α}
    (h : (authorize sessionId context epoch action t >>= f) s = .done v s') :
    ∃ r, s.Authorized sessionId context.caller epoch t r ∧
      f () (s.withFloor sessionId (max r.timeFloor t)) = .done v s' := by
  obtain ⟨_, s1, hauthorize, h⟩ := bind_done.mp h
  obtain ⟨r, hr, rfl⟩ := authorize_done hauthorize
  exact ⟨r, hr, h⟩

theorem Store.Authorized.floorOf (h : s.Authorized sessionId caller epoch t r) :
    (s.withFloor sessionId (max r.timeFloor t)).floorOf sessionId = some (max r.timeFloor t) := by
  rw [Store.floorOf, Store.find?_withFloor h.found]
  rfl

/-- An authorized call that looks at its time. -/
theorem authorize_floor_done {f : Timestamp → Call α} {v : α}
    (h : (authorize sessionId context epoch action t >>= fun _ =>
      loadTimeFloor sessionId >>= f) s = .done v s') :
    ∃ r, s.Authorized sessionId context.caller epoch t r ∧
      f (max r.timeFloor t) (s.withFloor sessionId (max r.timeFloor t)) = .done v s' := by
  obtain ⟨r, hr, h⟩ := authorize_bind_done h
  obtain ⟨now, s1, hnow, h⟩ := bind_done.mp h
  obtain ⟨hfloor, rfl⟩ := loadTimeFloor_done hnow
  rw [hr.floorOf] at hfloor
  cases hfloor
  exact ⟨r, hr, h⟩

/-- `require_open_session`, `advance_time_floor` and `require_owner`, in a transaction that is
rolled back if one of them fails. -/
def authorizeOwner (sessionId : SessionId) (caller : HostId) (epoch : FencingEpoch)
    (action : StoreAction) (observedAt : Timestamp) : Write (SessionRow × Timestamp) := do
  let row ← ofExcept (← read (requireOpenSession sessionId action))
  let now ← advanceTimeFloor sessionId row.timeFloor observedAt
  ofExcept (requireOwner row caller epoch now)
  return (row, now)

theorem authorizeOwner_done {v : SessionRow × Timestamp}
    (h : authorizeOwner sessionId caller epoch action t s = .done v s') :
    ∃ r, s.Authorized sessionId caller epoch t r ∧ v.1.Decodes r ∧ v.2 = max r.timeFloor t ∧
      s' = s.withFloor sessionId (max r.timeFloor t) := by
  simp only [authorizeOwner, looks_done, advanceTimeFloor_bind_done] at h
  obtain ⟨row, hrow, _, howner, rfl, rfl⟩ := h
  obtain ⟨r, hr, hdecodes⟩ := Store.authorized_of_ok hrow howner
  rw [hdecodes.floor]
  exact ⟨r, hr, hdecodes, rfl, rfl⟩

theorem authorizeOwner_bind_done {f : SessionRow × Timestamp → Write α} {a : α}
    (h : (authorizeOwner sessionId caller epoch action t >>= f) s = .done a s') :
    ∃ row r, s.Authorized sessionId caller epoch t r ∧ SessionRow.Decodes row r ∧
      f (row, max r.timeFloor t) (s.withFloor sessionId (max r.timeFloor t)) = .done a s' := by
  obtain ⟨⟨row, now⟩, s1, howner, h⟩ := bind_done.mp h
  obtain ⟨r, hr, hdecodes, rfl, rfl⟩ := authorizeOwner_done howner
  exact ⟨row, r, hr, hdecodes, h⟩

/-- The owner of a session that can be decoded passes both checks. -/
theorem Store.Authorized.passes (hkept : r.Kept) (hr : s.Authorized sessionId caller epoch t r)
    (action : StoreAction) :
    ∃ row, requireOpenSession sessionId action s = .ok row ∧ row.Decodes r ∧
      requireOwner row caller epoch (max r.timeFloor t) = .ok () := by
  obtain ⟨row, hrow⟩ := hkept.decodes
  have hdecodes := decodeSession_ok hrow
  have hopen : requireOpenSession sessionId action s = .ok row := by
    have hstatus : row.snapshot.status ≠ .closed := by
      rw [hdecodes.status, SessionRecord.status, hr.isOpen]
      nofun
    simp [requireOpenSession, loadSession, hr.found, hrow, hstatus, Except.map, Bind.bind,
      Except.bind]
  refine ⟨row, hopen, hdecodes, ?_⟩
  obtain ⟨expiresAt, hheld, hepoch, hlt⟩ := hr.held
  unfold requireOwner
  rcases hlease : row.owner with _ | lease
  · rw [hdecodes.free hlease] at hheld
    cases hheld
  obtain ⟨howner, hepoch'⟩ := hdecodes.held lease hlease
  have hsame : (caller, expiresAt) = (lease.owner, lease.expiresAt) :=
    Option.some.inj (hheld.symm.trans howner)
  have hsameEpoch : epoch = lease.epoch := Option.some.inj (hepoch.symm.trans hepoch')
  obtain ⟨hcaller, rfl⟩ := Prod.mk.inj hsame
  simp [OwnershipLease.isEffectiveAt, hlt, hcaller, hsameEpoch]

/-- The owner of a session that can be decoded is let through. -/
theorem authorize_of_authorized (hkept : r.Kept)
    (hr : s.Authorized sessionId context.caller epoch t r) :
    authorize sessionId context epoch action t s =
      .done () (s.withFloor sessionId (max r.timeFloor t)) := by
  obtain ⟨row, hopen, hdecodes, howner⟩ := hr.passes hkept action
  refine bind_done.mpr ⟨.ok (), _, ?_, acceptOr_done.mpr ⟨rfl, rfl⟩⟩
  simp only [authorizeLaunch, looks_done, hopen, advanceTimeFloor_bind_done, hdecodes.floor]
  exact ⟨howner, trivial⟩

theorem authorizeOwner_of_authorized (hkept : r.Kept)
    (hr : s.Authorized sessionId caller epoch t r) (action : StoreAction) :
    ∃ row, authorizeOwner sessionId caller epoch action t s =
      .done (row, max r.timeFloor t) (s.withFloor sessionId (max r.timeFloor t)) := by
  obtain ⟨row, hopen, hdecodes, howner⟩ := hr.passes hkept action
  refine ⟨row, ?_⟩
  rw [← hdecodes.floor] at howner ⊢
  simp only [authorizeOwner, looks_done, advanceTimeFloor_bind_done]
  exact ⟨row, hopen, (), howner, rfl, rfl⟩

/-- The time floor of a session that can be decoded. -/
theorem loadTimeFloor_of_kept (hr : s.sessions.find? sessionId = some r) (hkept : r.Kept) :
    (loadTimeFloor sessionId : Tx Store ρ StoreError Timestamp) s = .done r.timeFloor s := by
  obtain ⟨row, hrow⟩ := hkept.decodes
  simp only [loadTimeFloor, looks_done]
  exact ⟨some row, by simp [loadSession, hr, hrow, Except.map], row, rfl,
    (decodeSession_ok hrow).floor, trivial⟩

/-- `expiry`. -/
def expiry (env : Env) (now : Timestamp) (duration : LeaseDuration) :
    Except StoreError Timestamp :=
  if env.maxLeaseMillis < duration.millis then .error .leaseTooLong
  else match now.checkedAdd (duration.millis * 1000000) with
    | some value => .ok value
    | none => .error .invalid

theorem lt_of_expiry {env : Env} {duration : LeaseDuration} (h : expiry env now duration = .ok t) :
    now < t := by
  unfold expiry at h
  split at h
  · cases h
  split at h
  · next hadd =>
    cases h
    exact Timestamp.lt_of_checkedAdd (Nat.mul_pos duration.valid.1 (by decide)) hadd
  · cases h

/-! ### Templates and manifests -/

/-- `load_template_in`. -/
def loadTemplate (env : Env) (s : Store) (templateId : TemplateId) :
    Except StoreError (Option TemplateRecord) :=
  match s.templates.find? templateId with
  | none => .ok none
  | some record => if env.templateValid record then .ok (some record) else .error .corrupt

/-- The manifest rows of a session, by template. -/
def Store.sessionManifest (s : Store) (sessionId : SessionId) :
    List TemplateCompatibilityBinding :=
  ((s.manifest.rows.filter fun r => r.sessionId = sessionId).map ManifestRow.binding).insertionSort
    fun a b => a.templateId.uuid ≤ b.templateId.uuid

/-- `validate_session_manifest_in`. -/
def validateSessionManifest (c : OpenSession) (s : Store) : Except StoreError Unit :=
  let conflict := .compatibilityConflict c.sessionId c.compatibility c.compatibility
  match s.sessions.find? c.sessionId with
  | none => .error .unavailable
  | some r =>
    match c.manifest, r.manifestComplete with
    | none, false => .ok ()
    | some manifest, true =>
      if s.sessionManifest c.sessionId = manifest.templates then .ok () else .error conflict
    | _, _ => .error conflict

/-- `new_session_manifest_is_registered`, binding by binding. -/
def bindingsRegistered (env : Env) (s : Store) :
    List TemplateCompatibilityBinding → Except StoreError Bool
  | [] => .ok true
  | b :: bs => do
    match ← loadTemplate env s b.templateId with
    | some template =>
      if template.compatibility = b.compatibility then bindingsRegistered env s bs
      else .ok false
    | none => .ok false

def newSessionManifestIsRegistered (env : Env) (c : OpenSession) (s : Store) :
    Except StoreError Bool :=
  match c.manifest with
  | none => .ok true
  | some manifest => bindingsRegistered env s manifest.templates

/-- The bindings a session is opened for. -/
def OpenSession.bindings (c : OpenSession) : List TemplateCompatibilityBinding :=
  match c.manifest with
  | none => []
  | some manifest => manifest.templates

/-- `INSERT INTO session_template_manifest`. -/
def insertBinding (sessionId : SessionId) (binding : TemplateCompatibilityBinding) :
    Write Unit := do
  let rows ← orAbort ((← read Store.manifest).insert? ⟨sessionId, binding⟩) .unavailable
  write fun s => { s with manifest := rows }

/-- `insert_session_manifest`. -/
def insertSessionManifest (c : OpenSession) : Write Unit :=
  each (insertBinding c.sessionId) c.bindings

/-- The rows of a manifest are put before the rows there are. -/
theorem insertBindings_done {bs : List TemplateCompatibilityBinding}
    (h : each (insertBinding sessionId) bs s = .done u s') :
    ∃ manifest : Table ManifestRow,
      manifest.rows = (bs.map (ManifestRow.mk sessionId)).reverse ++ s.manifest.rows ∧
        s' = { s with manifest } := by
  induction bs generalizing s with
  | nil =>
    obtain ⟨-, rfl⟩ := pure_done.mp h
    exact ⟨s.manifest, rfl, rfl⟩
  | cons b bs ih =>
    obtain ⟨_, s1, hb, h⟩ := bind_done.mp h
    simp only [insertBinding, looks_done] at hb
    obtain ⟨rows, hrows, rfl⟩ := hb
    obtain ⟨manifest, hmanifest, rfl⟩ := ih h
    exact ⟨manifest, by simp [hmanifest, Table.insert?_rows hrows], rfl⟩

/-- The storage key of a session whose consumer key is taken by an older one. -/
def fallbackStorageKey (sessionId : SessionId) : String := "session:" ++ sessionId.asText

/-- The row of a new session. -/
def OpenSession.row (c : OpenSession) (storageKey : String) (now : Timestamp) :
    SessionRecord where
  sessionId := c.sessionId
  storageKey
  publicConsumerKey := c.consumerKey
  compatibility := c.compatibility
  revision := .initial
  closed := false
  createdAt := now
  updatedAt := now
  owner := none
  ownerEpoch := none
  epochHighWater := 0
  timeFloor := now
  manifestComplete := c.manifest.isSome
  configurationIdentity := c.manifest.map SessionCompatibilityManifest.configurationIdentity
  ownerHasEpoch := nofun
  epochBounded := nofun

/-- `insert_session_row`, with the UNIQUE constraints on the storage key and on the
open sessions of a consumer. -/
def insertSessionRow (c : OpenSession) (now : Timestamp) : Write Unit := do
  let s ← read id
  let storageKey :=
    if ∃ r ∈ s.sessions.rows, r.storageKey = c.consumerKey.asStr then
      fallbackStorageKey c.sessionId
    else c.consumerKey.asStr
  ensure (∀ r ∈ s.sessions.rows, r.storageKey ≠ storageKey) .unavailable
  ensure (∀ r ∈ s.sessions.rows, r.closed = false → r.publicConsumerKey ≠ c.consumerKey)
    .unavailable
  let sessions ← orAbort (s.sessions.insert? (c.row storageKey now)) .unavailable
  write fun s => { s with sessions }

/-! ### Opening and closing -/

/-- `validate_open_replay`, and the manifest as it is stored now. -/
def replayOpen (c : OpenSession) (value : StoredValue) : Write SessionSnapshot := do
  let snapshot ← orAbort value.session? .corrupt
  ensure (snapshot.id = c.sessionId ∧ snapshot.consumerKey = c.consumerKey ∧
    snapshot.compatibility = c.compatibility) .corrupt
  ofExcept (← read (validateSessionManifest c))
  return snapshot

/-- Opening a session that exists: its identity must be the requested one. -/
def openExisting (env : Env) (c : OpenSession) (row : SessionRow) :
    Call (Mutation SessionSnapshot) := do
  require (row.snapshot.compatibility = c.compatibility)
    (c.sessionId, .compatibilityConflict c.sessionId row.snapshot.compatibility c.compatibility)
  require (row.snapshot.consumerKey = c.consumerKey)
    (c.sessionId, .consumerConflict c.sessionId row.snapshot.consumerKey c.consumerKey)
  acceptOr (c.sessionId, ·) (← read (validateSessionManifest c))
  commit (record env c.sessionId c .unchanged (.session row.snapshot))
  return .unchanged row.snapshot

/-- A session as it is created. -/
def OpenSession.created (c : OpenSession) (now : Timestamp) : SessionSnapshot where
  id := c.sessionId
  consumerKey := c.consumerKey
  compatibility := c.compatibility
  status := .open
  revision := .initial
  createdAt := now
  updatedAt := now
  ordered := le_rfl
  closedRevised := nofun

/-- The rows and the event of a new session. -/
def createSession (env : Env) (c : OpenSession) (now : Timestamp) : Write Unit := do
  insertSessionRow c now
  insertSessionManifest c
  appendEventData env c.context.requestId c.sessionId .initial .sessionCreated
    (sessionEventPayload (c.created now)) now

def openNew (env : Env) (now : Timestamp) (c : OpenSession) :
    Call (Mutation SessionSnapshot) := do
  let registered ← ofExcept (← read (newSessionManifestIsRegistered env c))
  require (registered = true) (c.sessionId, .invalid)
  commit do
    createSession env c now
    record env c.sessionId c .applied (.session (c.created now))
  return .applied (c.created now)

/-- `open_session`. -/
def openSession (env : Env) (observedAt : Timestamp) (c : OpenSession) :
    Call (Mutation SessionSnapshot) :=
  replayOr env c (replayOpen c) do
    match ← ofExcept (← read (loadSession · c.sessionId)) with
    | some row => openExisting env c row
    | none => openNew env observedAt c

/-- A row whose owner is `host` under `epoch`. -/
def SessionRecord.HeldBy (r : SessionRecord) (host : HostId) (epoch : FencingEpoch) : Prop :=
  r.owner.map Prod.fst = some host ∧ r.ownerEpoch = some epoch

instance (r : SessionRecord) (host : HostId) (epoch : FencingEpoch) :
    Decidable (r.HeldBy host epoch) :=
  inferInstanceAs (Decidable (_ ∧ _))

/-- `UPDATE sessions SET … WHERE session_id = ? AND owner_host_id = ? AND owner_epoch = ?`,
which must change one row. -/
def updateHeldSession (sessionId : SessionId) (host : HostId) (epoch : FencingEpoch)
    (f : SessionRecord → SessionRecord) (hf : ∀ r, (f r).sessionId = r.sessionId) :
    Write Unit := do
  let r ← orAbort ((← read Store.sessions).find? sessionId) .corrupt
  ensure (r.HeldBy host epoch) .corrupt
  write fun s => { s with sessions := s.sessions.modify sessionId f hf }

theorem updateHeldSession_done {host : HostId} {f : SessionRecord → SessionRecord}
    {hf : ∀ r, (f r).sessionId = r.sessionId}
    (h : updateHeldSession sessionId host epoch f hf s = .done u s') :
    s' = { s with sessions := s.sessions.modify sessionId f hf } := by
  simp only [updateHeldSession, looks_done] at h
  obtain ⟨_, -, -, rfl⟩ := h
  rfl

/-- The owner leaves, and the row is revised. -/
def SessionRecord.vacate (r : SessionRecord) (revision : Revision) (now : Timestamp)
    (closed : Bool) : SessionRecord :=
  { r with
    closed
    revision
    updatedAt := now
    owner := none
    ownerHasEpoch := nofun }

/-- `close_session`. -/
def closeSession (env : Env) (observedAt : Timestamp) (c : CloseSession) :
    Call (Mutation SessionSnapshot) :=
  replayOr env c
    (fun value => do
      let snapshot ← orAbort value.session? .corrupt
      ensure (snapshot.id = c.sessionId ∧ snapshot.status = .closed) .corrupt
      return snapshot)
    do
      let row ← acceptOr (c.sessionId, ·) (← read (requireOpenSession c.sessionId .closeSession))
      let now ← advanceTimeFloor c.sessionId row.timeFloor observedAt
      acceptOr (c.sessionId, ·) (requireOwner row c.context.caller c.epoch now)
      let snapshot ← orAbort (row.snapshot.close now) .invalid
      commit do
        ensure (snapshot.revision.get < i64Bound) .corrupt
        updateHeldSession c.sessionId c.context.caller c.epoch
          (·.vacate snapshot.revision now true) fun _ => rfl
        appendEventData env c.context.requestId c.sessionId snapshot.revision .sessionClosed
          (sessionEventPayload snapshot) now
        record env c.sessionId c .applied (.session snapshot)
      return .applied snapshot

/-! ### Ownership -/

/-- `validate_lease_replay`: a recorded lease, if it is one the command could have got. -/
def replayLease (sessionId : SessionId) (caller : HostId) (epoch : Option FencingEpoch)
    (duration : LeaseDuration) (value : StoredValue) : Write OwnershipLease := do
  let (lease, issuedAt) ← orAbort value.lease? .corrupt
  ensure (lease.sessionId = sessionId ∧ lease.owner = caller ∧ (∀ e ∈ epoch, lease.epoch = e) ∧
    (lease.expiresAt.nanos - issuedAt.nanos).tdiv 1000000 = duration.millis) .corrupt
  return lease

/-- A row taken over by `host` under the next epoch. -/
def SessionRecord.occupy (r : SessionRecord) (host : HostId) (expiresAt : Timestamp)
    (epoch : FencingEpoch) (revision : Revision) (now : Timestamp) : SessionRecord :=
  { r with
    revision
    updatedAt := now
    owner := some (host, expiresAt)
    ownerEpoch := some epoch
    epochHighWater := epoch.get
    ownerHasEpoch := fun _ => rfl
    epochBounded := fun _ h => by cases h; exact le_rfl }

/-- No other ownership is in effect. -/
def requireUnowned (row : SessionRow) (now : Timestamp) : Except StoreError Unit :=
  match row.owner with
  | some owner =>
    if owner.isEffectiveAt now then .error (.ownershipHeld owner.snapshot) else .ok ()
  | none => .ok ()

theorem requireUnowned_ok {row : SessionRow} (hr : row.Decodes r)
    (h : requireUnowned row now = .ok u) :
    ∀ held ∈ r.owner, held.2 ≤ now := by
  intro held hheld
  unfold requireUnowned at h
  split at h
  · next lease hlease =>
    obtain ⟨howner, -⟩ := hr.held lease hlease
    rw [howner] at hheld
    cases hheld
    split at h
    · cases h
    · next heffective => simpa [OwnershipLease.isEffectiveAt] using heffective
  · next hnone =>
    rw [hr.free hnone] at hheld
    cases hheld

/-- The rows, the event and the ledger entry of an acquisition. -/
def takeOwnership (env : Env) (c : AcquireOwnership) (row : SessionRow)
    (now expiresAt : Timestamp) : Write OwnershipLease := do
  ensure (row.epochHighWater + 1 < u64Bound) .corrupt
  let epoch : FencingEpoch := ⟨row.epochHighWater + 1, Nat.succ_pos _⟩
  let revision ← orAbort row.snapshot.revision.next .corrupt
  ensure (epoch.get < i64Bound ∧ revision.get < i64Bound) .corrupt
  let lease : OwnershipLease := ⟨c.sessionId, c.context.caller, epoch, expiresAt⟩
  write fun s => { s with
    sessions := s.sessions.modify c.sessionId
      (·.occupy c.context.caller expiresAt epoch revision now) (fun _ => rfl) }
  appendEvent env c.context.requestId c.sessionId revision .ownershipAcquired now
  record env c.sessionId c .applied (.lease lease now)
  return lease

/-- `acquire_ownership`. -/
def acquireOwnership (env : Env) (observedAt : Timestamp) (c : AcquireOwnership) :
    Call (Mutation OwnershipLease) :=
  replayOr env c (replayLease c.sessionId c.context.caller none c.duration) do
    let row ← acceptOr (c.sessionId, ·) (← read (requireOpenSession c.sessionId .acquireOwnership))
    let now ← advanceTimeFloor c.sessionId row.timeFloor observedAt
    let expiresAt ← acceptOr (c.sessionId, ·) (expiry env now c.duration)
    require (now < expiresAt) (c.sessionId, .invalid)
    acceptOr (c.sessionId, ·) (requireUnowned row now)
    return .applied (← commit (takeOwnership env c row now expiresAt))

/-- A row whose owner holds it until `expiresAt`. -/
def SessionRecord.extend (r : SessionRecord) (expiresAt : Timestamp) : SessionRecord :=
  { r with
    owner := r.owner.map fun o => (o.1, expiresAt)
    ownerHasEpoch := fun h => r.ownerHasEpoch (by simpa using h) }

/-- `renew_ownership`. -/
def renewOwnership (env : Env) (observedAt : Timestamp) (c : RenewOwnership) :
    Call (Mutation OwnershipLease) :=
  replayOr env c (replayLease c.sessionId c.context.caller (some c.epoch) c.duration) do
    let row ← acceptOr (c.sessionId, ·) (← read (requireOpenSession c.sessionId .renewOwnership))
    let now ← advanceTimeFloor c.sessionId row.timeFloor observedAt
    acceptOr (c.sessionId, ·) (requireOwner row c.context.caller c.epoch now)
    let expiresAt ← acceptOr (c.sessionId, ·) (expiry env now c.duration)
    require (now < expiresAt) (c.sessionId, .invalid)
    let lease : OwnershipLease := ⟨c.sessionId, c.context.caller, c.epoch, expiresAt⟩
    commit do
      ensure (c.epoch.get < i64Bound) .corrupt
      updateHeldSession c.sessionId c.context.caller c.epoch (·.extend expiresAt) fun _ => rfl
      record env c.sessionId c .applied (.lease lease now)
    return .applied lease

/-- `release_ownership`. -/
def releaseOwnership (env : Env) (observedAt : Timestamp) (c : ReleaseOwnership) :
    Call (Mutation OwnershipSnapshot) :=
  replayOr env c
    (fun value => do
      ensure (value = .unowned) .corrupt
      return .unowned)
    do
      let row ← acceptOr (c.sessionId, ·)
        (← read (requireOpenSession c.sessionId .releaseOwnership))
      let now ← advanceTimeFloor c.sessionId row.timeFloor observedAt
      acceptOr (c.sessionId, ·) (requireOwner row c.context.caller c.epoch now)
      commit do
        let revision ← orAbort row.snapshot.revision.next .corrupt
        ensure (revision.get < i64Bound ∧ c.epoch.get < i64Bound) .corrupt
        updateHeldSession c.sessionId c.context.caller c.epoch
          (fun r => r.vacate revision now r.closed) fun _ => rfl
        appendEvent env c.context.requestId c.sessionId revision .ownershipReleased now
        record env c.sessionId c .applied .unowned
      return .applied .unowned

end Navigator
