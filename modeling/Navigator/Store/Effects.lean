/-
The effect journal.

An effect is reserved before it is made, started, and then ended; when nobody can tell
whether it was made it is uncertain, and what becomes of it is decided under authority.
The journal keeps a ledger of its own: a change of an effect is recorded with its outcome
in the transaction that makes it (`effectMutation`).  Every failure rolls back.
-/
import Navigator.Store.Recovery

namespace Navigator

open Txn Tx

variable {env : Env} {t : Timestamp} {v : Mutation EffectJournalEntry}
variable {e : EffectJournalEntry} {s s' : Store}

/-! ### Identities -/

/-- `reject_global_request_collision`. -/
def rejectGlobalRequestCollision (requestId : RequestId) : Write Unit := do
  ensure ((← read (·.requestRecorded requestId)) = false) (.requestConflict requestId)

/-- `reject_recovery_request_collision`. -/
def rejectRecoveryRequestCollision (requestId : RequestId) : Write Unit := do
  ensure ((← read (·.recoveries.find? requestId)) = none) (.requestConflict requestId)

/-- `reject_effect_request_collision`. -/
def rejectEffectRequestCollision (requestId : RequestId) : Write Unit := do
  ensure ((← read (·.requestOfEffect requestId)) = false) (.requestConflict requestId)

/-- `reject_effect_identity_collision`. -/
def rejectEffectIdentityCollision (mutationRequestId effectRequestId : RequestId) :
    Write Unit := do
  ensure (mutationRequestId ≠ effectRequestId) (.requestConflict mutationRequestId)
  ensure ((← read (·.journal.effects.find? mutationRequestId)) = none)
    (.requestConflict mutationRequestId)

section Identities

variable {s s' : Store} {α : Type} {g : Unit → Write α} {a : α} {q e : RequestId}

@[simp] theorem rejectGlobalRequestCollision_bind_done :
    (rejectGlobalRequestCollision q >>= g) s = .done a s' ↔
      s.requestRecorded q = false ∧ g () s = .done a s' := by
  simp [rejectGlobalRequestCollision]

@[simp] theorem rejectRecoveryRequestCollision_bind_done :
    (rejectRecoveryRequestCollision q >>= g) s = .done a s' ↔
      s.recoveries.find? q = none ∧ g () s = .done a s' := by
  simp [rejectRecoveryRequestCollision]

@[simp] theorem rejectEffectRequestCollision_bind_done :
    (rejectEffectRequestCollision q >>= g) s = .done a s' ↔
      s.requestOfEffect q = false ∧ g () s = .done a s' := by
  simp [rejectEffectRequestCollision]

@[simp] theorem rejectEffectIdentityCollision_bind_done :
    (rejectEffectIdentityCollision q e >>= g) s = .done a s' ↔
      (q ≠ e ∧ s.journal.effects.find? q = none) ∧ g () s = .done a s' := by
  simp [rejectEffectIdentityCollision, and_assoc]

end Identities

/-- `effect_expiry`. -/
def effectExpiry (now : Timestamp) (d : Duration) : Except StoreError Timestamp :=
  if d.asMillis < i64Bound then
    match now.checkedAdd (d.asMillis * 1000000) with
    | some expiry => .ok expiry
    | none => .error .invalid
  else .error .leaseTooLong

/-! ### The table -/

/-- `insert_effect`. -/
def insertEffect (e : EffectJournalEntry) : Write Unit := do
  ensure (e.ownerEpoch.get < i64Bound ∧ e.revision.get < i64Bound) .corrupt
  let effects ← orAbort ((← read (·.journal.effects)).insert? e) .unavailable
  write fun s => { s with journal := { s.journal with effects } }

/-- The columns `update_effect` sets. -/
def EffectJournalEntry.updatedBy (e new : EffectJournalEntry) : EffectJournalEntry :=
  { e with
    phase := new.phase
    ownerHost := new.ownerHost
    ownerEpoch := new.ownerEpoch
    leaseExpiresAt := new.leaseExpiresAt
    terminal := new.terminal
    revision := new.revision }

/-- The journal with an effect's columns set. -/
def Journal.withEffect (j : Journal) (e : EffectJournalEntry) : Journal :=
  { j with effects := j.effects.modify e.requestId (·.updatedBy e) (fun _ => rfl) }

theorem Journal.find?_withEffect (j : Journal) (e : EffectJournalEntry) (q : RequestId) :
    (j.withEffect e).effects.find? q =
      if q = e.requestId then (j.effects.find? e.requestId).map (·.updatedBy e)
      else j.effects.find? q :=
  j.effects.find?_modify e.requestId (·.updatedBy e) (fun _ => rfl) q

theorem Journal.isSome_withEffect (j : Journal) (e : EffectJournalEntry) (q : RequestId) :
    ((j.withEffect e).effects.find? q).isSome = (j.effects.find? q).isSome := by
  rw [Journal.find?_withEffect]
  split
  · next hq => rw [Option.isSome_map, hq]
  · rfl

/-- `update_effect`: of an effect at the revision before. -/
def updateEffect (e : EffectJournalEntry) : Write Unit := do
  ensure (e.ownerEpoch.get < i64Bound ∧ e.revision.get < i64Bound) .corrupt
  ensure (((← read (·.journal.effects.find? e.requestId)).map fun old => old.revision.get) =
    some (e.revision.get - 1)) .invalid
  write fun s => { s with journal := s.journal.withEffect e }

/-- An effect whose counters fit in their columns. -/
def EffectJournalEntry.Fits (e : EffectJournalEntry) : Prop :=
  e.ownerEpoch.get < i64Bound ∧ e.revision.get < i64Bound

theorem insertEffect_done {u : Unit} (h : insertEffect e s = .done u s') :
    ∃ effects, s.journal.effects.insert? e = some effects ∧ e.Fits ∧
      s' = { s with journal := { s.journal with effects } } := by
  simp only [insertEffect, looks_done] at h
  obtain ⟨hfits, effects, hinsert, rfl⟩ := h
  exact ⟨effects, hinsert, hfits, rfl⟩

/-- The effect that is updated is at the revision before. -/
theorem updateEffect_done {old : EffectJournalEntry} {u : Unit}
    (hold : s.journal.effects.find? e.requestId = some old)
    (hnext : old.revision.next = some e.revision) :
    updateEffect e s = .done u s' ↔
      e.Fits ∧ s' = { s with journal := s.journal.withEffect e } := by
  have hget := Revision.next_get hnext
  simp only [updateEffect, looks_done, hold, Option.map_some, Option.some.injEq,
    EffectJournalEntry.Fits, eq_comm (a := s')]
  constructor
  · exact fun h => ⟨h.1, h.2.2⟩
  · exact fun h => ⟨h.1, by omega, h.2⟩

/-! ### Reservation -/

/-- Whether an effect is the one a reservation asks for. -/
def ReserveEffect.Asks (c : ReserveEffect) (e : EffectJournalEntry) : Prop :=
  e.sessionId = c.sessionId ∧ e.caller = c.context.caller ∧ e.action = c.action ∧
    e.semanticDigest = c.semanticDigest ∧ e.effectClass = c.effectClass ∧
    e.participantId = c.participantId ∧ e.operationId = c.operationId ∧
    e.resolutionContract = c.resolutionContract

instance (c : ReserveEffect) (e : EffectJournalEntry) : Decidable (c.Asks e) :=
  inferInstanceAs (Decidable (_ ∧ _))

/-- The effect a reservation makes. -/
def ReserveEffect.entry (c : ReserveEffect) (leaseExpiresAt : Timestamp) :
    EffectJournalEntry where
  requestId := c.context.requestId
  sessionId := c.sessionId
  participantId := c.participantId
  operationId := c.operationId
  caller := c.context.caller
  action := c.action
  semanticDigest := c.semanticDigest
  effectClass := c.effectClass
  resolutionContract := c.resolutionContract
  phase := .reserved
  ownerHost := c.context.caller
  ownerEpoch := c.ownerEpoch
  leaseExpiresAt
  terminal := none
  revision := .initial

/-- An effect that is reserved once more: one that was started and has lapsed is uncertain. -/
def reserveAgain (c : ReserveEffect) (existing : EffectJournalEntry) (now : Timestamp) :
    Write (Mutation EffectJournalEntry) := do
  ensure (c.Asks existing) (.requestConflict c.context.requestId)
  if existing.phase = .started ∧ existing.leaseExpiresAt ≤ now then
    let revision ← orAbort existing.revision.next .corrupt
    let lapsed := { existing with phase := .uncertain, revision }
    updateEffect lapsed
    return .applied lapsed
  else return .replayed existing

def reserveNew (c : ReserveEffect) (now : Timestamp) : Write (Mutation EffectJournalEntry) := do
  let leaseExpiresAt ← ofExcept (effectExpiry now c.leaseDuration)
  insertEffect (c.entry leaseExpiresAt)
  return .applied (c.entry leaseExpiresAt)

/-- An operation in which effects are made. -/
def OperationState.isWorking : OperationState → Bool
  | running | waiting => true
  | _ => false

/-- A participant of a session that is at work on an operation. -/
def Store.Works (s : Store) (sessionId : SessionId) (participantId : ParticipantId)
    (operationId : OperationId) : Prop :=
  ∃ p o, loadParticipant s participantId = .ok (some p) ∧
    loadOperation s operationId = .ok (some o) ∧ p.sessionId = sessionId ∧
    o.sessionId = sessionId ∧ o.participantId = participantId ∧ o.state.isWorking = true

/-- `reserve_effect`.  The source returns the entry alone. -/
def reserveEffect (env : Env) (observedAt : Timestamp) (c : ReserveEffect) :
    Write (Mutation EffectJournalEntry) := do
  let requestId := c.context.requestId
  ensure (c.resolutionContract.isValid = true) .invalid
  ensure (0 < c.leaseDuration.nanos ∧ c.leaseDuration.asMillis ≤ env.maxLeaseMillis) .leaseTooLong
  rejectGlobalRequestCollision requestId
  rejectRecoveryRequestCollision requestId
  ensure ((← read (·.journal.effectMutations.find? requestId)) = none) (.requestConflict requestId)
  let (_, now) ← authorizeOwner c.sessionId c.context.caller c.ownerEpoch .reserveEffect
    observedAt
  let participant ← ofExcept (← read (loadParticipant · c.participantId))
  let participant ← orAbort participant (.participantNotFound c.participantId)
  let operation ← ofExcept (← read (loadOperation · c.operationId))
  let operation ← orAbort operation (.operationNotFound c.operationId)
  ensure (participant.sessionId = c.sessionId ∧ operation.sessionId = c.sessionId ∧
    operation.participantId = c.participantId ∧ operation.state.isWorking = true) .invalid
  match ← ofExcept (← read (loadEffect · requestId)) with
  | some existing => reserveAgain c existing now
  | none => reserveNew c now

/-- An identity under which an effect may be reserved. -/
structure Store.ReservationFree (s : Store) (requestId : RequestId) : Prop where
  global : s.requestRecorded requestId = false
  recovery : s.recoveries.find? requestId = none
  mutation : s.journal.effectMutations.find? requestId = none

/-- A reservation that is made. -/
structure ReserveEffect.Reserves (t : Timestamp) (c : ReserveEffect) (s : Store)
    (r : SessionRecord) (leaseExpiresAt : Timestamp) (effects : Table EffectJournalEntry) :
    Prop where
  owner : s.Authorized c.sessionId c.context.caller c.ownerEpoch t r
  free : s.ReservationFree c.context.requestId
  valid : c.resolutionContract.isValid = true
  works : s.Works c.sessionId c.participantId c.operationId
  lease : effectExpiry (max r.timeFloor t) c.leaseDuration = .ok leaseExpiresAt
  inserted : s.journal.effects.insert? (c.entry leaseExpiresAt) = some effects

/-- A reservation that finds its effect started and lapsed. -/
structure ReserveEffect.Lapses (t : Timestamp) (c : ReserveEffect) (s : Store)
    (r : SessionRecord) (e : EffectJournalEntry) (revision : Revision) : Prop where
  owner : s.Authorized c.sessionId c.context.caller c.ownerEpoch t r
  free : s.ReservationFree c.context.requestId
  found : s.journal.effects.find? c.context.requestId = some e
  valid : e.isValid = true
  asks : c.Asks e
  started : e.phase = .started
  ended : e.leaseExpiresAt ≤ max r.timeFloor t
  next : e.revision.next = some revision

/-- A lapsed effect, uncertain. -/
def EffectJournalEntry.lapsed (e : EffectJournalEntry) (revision : Revision) :
    EffectJournalEntry :=
  { e with phase := .uncertain, revision }

theorem EffectJournalEntry.requestId_of_found {q : RequestId}
    (h : s.journal.effects.find? q = some e) : e.requestId = q :=
  Table.key_of_find? h

/-! ### Changes -/

/-- The recorded outcome of a change: none if it is new. -/
def Store.effectReplay (s : Store) (context : RequestContext) (effectRequestId : RequestId)
    (digest : Digest) : Except StoreError (Option EffectMutationResult) :=
  match s.journal.effectMutations.find? context.requestId with
  | none => .ok none
  | some row =>
    if row.effectRequestId = effectRequestId ∧ row.caller = context.caller ∧
        row.digest = digest then .ok (some row.result)
    else .error (.requestConflict context.requestId)

/-- `INSERT INTO effect_journal_mutations`. -/
def recordEffectMutation (row : EffectMutationRow) : Write Unit := do
  let effectMutations ← orAbort ((← read (·.journal.effectMutations)).insert? row) .unavailable
  write fun s => { s with journal := { s.journal with effectMutations } }

/-- What the changes of an effect have in common: one that was made before is answered from
its record, and a new one is recorded. -/
def effectMutation {α : Type} (context : RequestContext) (effectRequestId : RequestId)
    (digest : Digest) (onReplay : EffectMutationResult → Write α)
    (result : α → EffectMutationResult) (body : Write α) : Write (Mutation α) := do
  rejectGlobalRequestCollision context.requestId
  rejectRecoveryRequestCollision context.requestId
  rejectEffectIdentityCollision context.requestId effectRequestId
  match ← ofExcept (← read (·.effectReplay context effectRequestId digest)) with
  | some recorded => return .replayed (← onReplay recorded)
  | none =>
    let value ← body
    recordEffectMutation ⟨context.requestId, effectRequestId, context.caller, digest, result value⟩
    return .applied value

/-- A change under an identity that neither a request nor an effect has. -/
structure Store.ChangeFree (s : Store) (requestId effectRequestId : RequestId) : Prop where
  global : s.requestRecorded requestId = false
  recovery : s.recoveries.find? requestId = none
  distinct : requestId ≠ effectRequestId
  effect : s.journal.effects.find? requestId = none

/-- A change that is done was answered from its record, or is recorded. -/
theorem effectMutation_done {α : Type} {context : RequestContext} {effectRequestId : RequestId}
    {digest : Digest} {onReplay : EffectMutationResult → Write α}
    {result : α → EffectMutationResult} {body : Write α} {v : Mutation α}
    (h : effectMutation context effectRequestId digest onReplay result body s = .done v s') :
    s.ChangeFree context.requestId effectRequestId ∧
    ((∃ row a, s.journal.effectMutations.find? context.requestId = some row ∧
        row.effectRequestId = effectRequestId ∧ row.caller = context.caller ∧
        row.digest = digest ∧ onReplay row.result s = .done a s' ∧ v = .replayed a) ∨
      ∃ a s1 effectMutations, s.journal.effectMutations.find? context.requestId = none ∧
        body s = .done a s1 ∧ s1.journal.effectMutations.insert?
          ⟨context.requestId, effectRequestId, context.caller, digest, result a⟩ =
            some effectMutations ∧
        s' = { s1 with journal := { s1.journal with effectMutations } } ∧ v = .applied a) := by
  simp only [effectMutation, rejectGlobalRequestCollision_bind_done,
    rejectRecoveryRequestCollision_bind_done, rejectEffectIdentityCollision_bind_done, looks_done]
    at h
  obtain ⟨hglobal, hrecovery, ⟨hdistinct, heffect⟩, replay, hreplay, h⟩ := h
  refine ⟨⟨hglobal, hrecovery, hdistinct, heffect⟩, ?_⟩
  unfold Store.effectReplay at hreplay
  cases hrow : s.journal.effectMutations.find? context.requestId with
  | none =>
    simp only [hrow, Except.ok.injEq] at hreplay
    subst hreplay
    obtain ⟨a, s1, hbody, h⟩ := bind_done.mp h
    obtain ⟨_, s2, hrecord, h⟩ := bind_done.mp h
    cases h
    simp only [recordEffectMutation, looks_done] at hrecord
    obtain ⟨rows, hinsert, rfl⟩ := hrecord
    exact .inr ⟨a, s1, rows, rfl, hbody, hinsert, rfl, rfl⟩
  | some row =>
    simp only [hrow] at hreplay
    split at hreplay
    · next hmatch =>
      cases hreplay
      obtain ⟨a, s1, ha, h⟩ := bind_done.mp h
      cases h
      exact .inl ⟨row, a, rfl, hmatch.1, hmatch.2.1, hmatch.2.2, ha, rfl⟩
    · cases hreplay

def EffectMutationResult.entry? : EffectMutationResult → Option EffectJournalEntry
  | entry e => some e
  | resolution _ => none

def EffectMutationResult.resolution? : EffectMutationResult → Option AuthorizedEffectResolution
  | entry _ => none
  | resolution outcome => some outcome

/-- Where a transition leads. -/
def EffectTransition.next (c : EffectTransition) (e : EffectJournalEntry) (now : Timestamp) :
    Option (EffectJournalPhase × Option EffectTerminal) :=
  match c.resolution, e.phase with
  | none, .reserved | none, .retryAuthorized =>
    if now < e.leaseExpiresAt then some (.started, e.terminal) else none
  | some .uncertain, .started => some (.uncertain, e.terminal)
  | some (.completed result), .started => some (.completed, some (.completed result))
  | some (.failed id), .started => some (.failed, some (.failed id))
  | _, _ => none

/-- `transition_effect`. -/
def transitionEffect (env : Env) (observedAt : Timestamp) (c : EffectTransition) :
    Write (Mutation EffectJournalEntry) :=
  effectMutation c.context c.effectRequestId (c.semanticDigest env)
      (fun recorded => orAbort recorded.entry? .corrupt) .entry do
    let found ← ofExcept (← read (loadEffect · c.effectRequestId))
    let entry ← orAbort found .invalid
    let (_, now) ← authorizeOwner entry.sessionId c.context.caller c.ownerEpoch c.action
      observedAt
    ensure (entry.ownerHost = c.context.caller ∧ entry.ownerEpoch = c.ownerEpoch ∧
      entry.revision = c.expectedRevision) .invalid
    let (phase, terminal) ← orAbort (c.next entry now) .invalid
    let revision ← orAbort entry.revision.next .corrupt
    let changed := { entry with phase, terminal, revision }
    updateEffect changed
    return changed

/-- An effect at a new phase. -/
def EffectJournalEntry.movedTo (e : EffectJournalEntry) (phase : EffectJournalPhase)
    (terminal : Option EffectTerminal) (revision : Revision) : EffectJournalEntry :=
  { e with phase, terminal, revision }

/-- The journal with an effect's columns set and the change recorded. -/
def Journal.changed (j : Journal) (e : EffectJournalEntry)
    (effectMutations : Table EffectMutationRow) : Journal :=
  { j.withEffect e with effectMutations }

/-- A transition that is made. -/
structure EffectTransition.Makes (t : Timestamp) (c : EffectTransition) (s : Store)
    (r : SessionRecord) (e : EffectJournalEntry) (phase : EffectJournalPhase)
    (terminal : Option EffectTerminal) (revision : Revision) : Prop where
  owner : s.Authorized e.sessionId c.context.caller c.ownerEpoch t r
  free : s.ChangeFree c.context.requestId c.effectRequestId
  found : s.journal.effects.find? c.effectRequestId = some e
  valid : e.isValid = true
  held : e.ownerHost = c.context.caller ∧ e.ownerEpoch = c.ownerEpoch
  expected : e.revision = c.expectedRevision
  leads : c.next e (max r.timeFloor t) = some (phase, terminal)
  next : e.revision.next = some revision

/-- What a takeover makes of a lapsed effect: a reservation goes to the new owner, and an
effect that was started is uncertain. -/
def TakeoverEffect.taken (c : TakeoverEffect) (e : EffectJournalEntry) (now : Timestamp) :
    Except StoreError EffectJournalEntry :=
  if e.phase = .reserved then do
    let leaseExpiresAt ← effectExpiry now c.leaseDuration
    return { e with ownerHost := c.context.caller, ownerEpoch := c.ownerEpoch, leaseExpiresAt }
  else .ok { e with phase := .uncertain }

/-- `takeover_effect`. -/
def takeoverEffect (env : Env) (observedAt : Timestamp) (c : TakeoverEffect) :
    Write (Mutation EffectJournalEntry) := do
  ensure (0 < c.leaseDuration.nanos ∧ c.leaseDuration.asMillis ≤ env.maxLeaseMillis) .leaseTooLong
  effectMutation c.context c.effectRequestId c.semanticDigest
      (fun recorded => orAbort recorded.entry? .corrupt) .entry do
    let found ← ofExcept (← read (loadEffect · c.effectRequestId))
    let entry ← orAbort found .invalid
    let (_, now) ← authorizeOwner entry.sessionId c.context.caller c.ownerEpoch .takeoverEffect
      observedAt
    ensure (entry.leaseExpiresAt ≤ now ∧ entry.revision = c.expectedRevision ∧
      (entry.phase = .reserved ∨ entry.phase = .started)) .invalid
    let taken ← ofExcept (c.taken entry now)
    let revision ← orAbort entry.revision.next .corrupt
    let changed := { taken with revision }
    updateEffect changed
    return changed

/-- A takeover that is made. -/
structure TakeoverEffect.Takes (t : Timestamp) (c : TakeoverEffect) (s : Store)
    (r : SessionRecord) (e e' : EffectJournalEntry) : Prop where
  owner : s.Authorized e.sessionId c.context.caller c.ownerEpoch t r
  free : s.ChangeFree c.context.requestId c.effectRequestId
  found : s.journal.effects.find? c.effectRequestId = some e
  valid : e.isValid = true
  ended : e.leaseExpiresAt ≤ max r.timeFloor t
  expected : e.revision = c.expectedRevision
  phase : e.phase = .reserved ∨ e.phase = .started
  taken : ∃ e₁, c.taken e (max r.timeFloor t) = .ok e₁ ∧ e' = { e₁ with revision := e'.revision }
  next : e.revision.next = some e'.revision

theorem TakeoverEffect.taken_requestId {c : TakeoverEffect} {e₁ : EffectJournalEntry}
    {now : Timestamp} (h : c.taken e now = .ok e₁) : e₁.requestId = e.requestId := by
  unfold taken at h
  split at h
  · simp only [result_bind_ok, result_pure_ok] at h
    obtain ⟨_, -, rfl⟩ := h
    rfl
  · cases h
    rfl

end Navigator
