/-
Tools.

A session's consumer registers tools and connects their providers, each connection under a
new generation.  An invocation is dispatched under the next sequence number of its
provider's connection, as an effect of the journal, and every later change of it is made to
the two of them together.  Every failure rolls back.
-/
import Navigator.Store.Effects

namespace Navigator

open Txn Tx

/-! ### Reading -/

/-- `load_tool_registration_in`: the consumer must still be the session's. -/
def loadToolRegistration (s : Store) (sessionId : SessionId) (name : ToolName)
    (version : ToolVersion) : Except StoreError (Option ToolRegistrationSnapshot) :=
  match s.journal.toolRegistrations.find? (sessionId, name, version) with
  | none => .ok none
  | some v => do
    let session ← need (← loadSession s sessionId) .corrupt
    check (v.consumerKey = session.snapshot.consumerKey) .corrupt
    return some v

/-- The phases of an effect that go with a phase of its invocation. -/
def ToolInvocationPhase.matches : ToolInvocationPhase → EffectJournalPhase → Bool
  | reserved, .reserved | reserved, .retryAuthorized => true
  | started, .started | uncertain, .uncertain => true
  | completed, .completed | failed, .completed | failed, .failed => true
  | _, _ => false

/-- Whether an effect is that of an invocation. -/
def ToolInvocationSnapshot.isEffect (t : ToolInvocationSnapshot) (e : EffectJournalEntry) :
    Bool :=
  e.sessionId = t.invocation.sessionId && e.participantId = t.invocation.participantId &&
    e.operationId = t.invocation.operationId && e.action = t.definition.requiredAuthority &&
    e.effectClass = t.definition.effectClass

/-- `load_tool_invocation_in`. -/
def loadToolInvocation (s : Store) (id : ToolInvocationId) :
    Except StoreError (Option ToolInvocationSnapshot) :=
  match s.journal.toolInvocations.find? id with
  | none => .ok none
  | some row => do
    let t := row.snapshot
    check (row = .of t) .corrupt
    let effect ← need (← loadEffect s t.invocation.requestId) .corrupt
    check (t.phase.matches effect.phase = true ∧ effect.revision = t.revision) .corrupt
    let participant ← need (← loadParticipant s t.invocation.participantId) .corrupt
    let operation ← need (← loadOperation s t.invocation.operationId) .corrupt
    check (participant.sessionId = t.invocation.sessionId ∧
      operation.sessionId = t.invocation.sessionId ∧
      operation.participantId = t.invocation.participantId ∧ t.isEffect effect = true) .corrupt
    let registration ← need (← loadToolRegistration s t.invocation.sessionId
      t.invocation.toolName t.invocation.toolVersion) .corrupt
    check (t.registrationId = registration.registrationId ∧
      registration.definition = t.definition) .corrupt
    return some t

/-- A registration that is loaded is in the table, for the session's consumer. -/
theorem loadToolRegistration_ok_some {s : Store} {sessionId : SessionId} {name : ToolName}
    {version : ToolVersion} {v : ToolRegistrationSnapshot}
    (h : loadToolRegistration s sessionId name version = .ok (some v)) :
    s.journal.toolRegistrations.find? (sessionId, name, version) = some v := by
  unfold loadToolRegistration at h
  rcases hfound : s.journal.toolRegistrations.find? (sessionId, name, version) with _ | v'
  · simp [hfound] at h
  simp only [hfound, result_bind_ok, result_pure_ok, Option.some.injEq] at h
  obtain ⟨_, -, _, -, _, -, rfl⟩ := h
  rfl

/-- What `load_tool_invocation_in` finds in order. -/
structure ToolInvocationSnapshot.Loads (s : Store) (t : ToolInvocationSnapshot)
    (e : EffectJournalEntry) : Prop where
  effect : loadEffect s t.invocation.requestId = .ok (some e)
  phase : t.phase.matches e.phase = true
  revision : e.revision = t.revision
  same : t.isEffect e = true
  registration : ∃ v, loadToolRegistration s t.invocation.sessionId t.invocation.toolName
    t.invocation.toolVersion = .ok (some v) ∧ t.registrationId = v.registrationId ∧
    v.definition = t.definition

/-- An invocation that is loaded moves in step with its effect. -/
theorem loadToolInvocation_ok_some {s : Store} {id : ToolInvocationId}
    {t : ToolInvocationSnapshot} (h : loadToolInvocation s id = .ok (some t)) :
    s.journal.toolInvocations.find? id = some (.of t) ∧ ∃ e, t.Loads s e := by
  unfold loadToolInvocation at h
  rcases hrow : s.journal.toolInvocations.find? id with _ | row
  · simp [hrow] at h
  simp only [hrow, result_bind_ok, check_ok, need_ok, result_pure_ok, Option.some.injEq] at h
  obtain ⟨_, hof, _, heffect, e, rfl, _, hphase, _, -, p, rfl, _, -, o, rfl, _, hsame, _, hv, v,
    rfl, _, hregistration, rfl⟩ := h
  rw [← hof]
  exact ⟨rfl, _, heffect, hphase.1, hphase.2, hsame.2.2.2, v, hv, hregistration⟩

/-- An invocation that is not settled. -/
def ToolInvocationRow.isPending (r : ToolInvocationRow) : Bool := !r.snapshot.phase.isSettled

def maxToolInvocationsListed : ℕ := 16384

/-- Some invocations, one after the other. -/
def loadToolInvocations (s : Store) (rows : List ToolInvocationRow) :
    Except StoreError (List ToolInvocationSnapshot) := do
  check (rows.length ≤ maxToolInvocationsListed) .invalid
  rows.mapM fun r => do need (← loadToolInvocation s r.invocationId) .corrupt

/-- `list_recoverable_tool_invocations`. -/
def listRecoverableToolInvocations (s : Store) (sessionId : SessionId) :
    Except StoreError (List ToolInvocationSnapshot) :=
  loadToolInvocations s ((s.journal.toolInvocations.rows.filter fun r =>
    r.sessionId = sessionId && r.isPending).insertionSort
      fun a b => a.invocationId.uuid ≤ b.invocationId.uuid)

/-- `list_provider_replay`. -/
def listProviderReplay (s : Store) (sessionId : SessionId) (providerId : ToolProviderId)
    (after : ℕ) : Except StoreError (List ToolInvocationSnapshot) := do
  check (after < i64Bound) .corrupt
  let snapshots ← loadToolInvocations s ((s.journal.toolInvocations.rows.filter fun r =>
    r.sessionId = sessionId && r.providerId = providerId &&
      (r.isPending || decide (after < r.serverSequence))).insertionSort
        fun a b => a.serverSequence ≤ b.serverSequence)
  check (∀ t ∈ snapshots, t.invocation.sessionId = sessionId ∧
    t.dispatch.providerId = providerId) .corrupt
  return snapshots

/-! ### Registration -/

/-- The registration under an identity. -/
def Store.registrationOf (s : Store) (id : ToolRegistrationId) :
    Option ToolRegistrationSnapshot :=
  s.journal.toolRegistrations.rows.find? fun r => r.registrationId = id

/-- The registration of a session under an identity. -/
def Store.sessionRegistration (s : Store) (sessionId : SessionId) (id : ToolRegistrationId) :
    Option ToolRegistrationSnapshot :=
  s.journal.toolRegistrations.rows.find? fun r =>
    r.sessionId = sessionId && r.registrationId = id

def Store.sessionRegistrations (s : Store) (sessionId : SessionId) : ℕ :=
  s.journal.toolRegistrations.rows.countP fun r => r.sessionId = sessionId

/-- A recorded registration, which must be the current one. -/
def replayRegistration (c : RegisterTool) (value : StoredValue) :
    Write ToolRegistrationSnapshot := do
  let value ← orAbort value.toolRegistration? .corrupt
  let session ← ofExcept (← read (loadSession · c.sessionId))
  let session ← orAbort session .corrupt
  let current ← ofExcept (← read (loadToolRegistration · c.sessionId c.definition.name
    c.definition.version))
  let current ← orAbort current .corrupt
  ensure (value = current ∧ value.sessionId = c.sessionId ∧
    value.registrationId = c.registrationId ∧ value.consumerKey = c.consumerKey ∧
    value.consumerKey = session.snapshot.consumerKey ∧ value.definition = c.definition) .corrupt
  return value

@[simp] theorem replayRegistration_within [IsTrans Store R] [Std.Refl R] {c : RegisterTool} :
    Within R (replayRegistration c value) := by
  unfold replayRegistration
  repeat refine .bind (by simp) fun _ => ?_
  simp

def RegisterTool.snapshot (c : RegisterTool) (now : Timestamp) : ToolRegistrationSnapshot where
  registrationId := c.registrationId
  sessionId := c.sessionId
  consumerKey := c.consumerKey
  definition := c.definition
  revision := .initial
  registeredAt := now

/-- A registration that is new to the ledger. -/
def registerNew (env : Env) (observedAt : Timestamp) (c : RegisterTool) :
    Write (Mutation ToolRegistrationSnapshot) := do
  let conflict := StoreError.requestConflict c.context.requestId
  let (row, now) ← authorizeOwner c.sessionId c.context.caller c.ownerEpoch .registerTool
    observedAt
  ensure (row.snapshot.consumerKey = c.consumerKey) .invalid
  let aliased ← read (·.registrationOf c.registrationId)
  ensure (aliased.all fun r => r.sessionId = c.sessionId && r.definition.name = c.definition.name
    && r.definition.version = c.definition.version) conflict
  match ← read (·.journal.toolRegistrations.find?
      (c.sessionId, c.definition.name, c.definition.version)) with
  | some existing =>
    ensure (existing.consumerKey = c.consumerKey ∧ existing.definition = c.definition ∧
      existing.registrationId = c.registrationId) conflict
    record env c.sessionId c .applied (.toolRegistration existing)
    return .unchanged existing
  | none =>
    ensure ((← read (·.sessionRegistrations c.sessionId)) < maxToolRegistrations) .invalid
    let toolRegistrations ←
      orAbort ((← read (·.journal.toolRegistrations)).insert? (c.snapshot now)) .unavailable
    write fun s => { s with journal := { s.journal with toolRegistrations } }
    appendEvent env c.context.requestId c.sessionId .initial .toolRegistered now
    record env c.sessionId c .applied (.toolRegistration (c.snapshot now))
    return .applied (c.snapshot now)

/-- `register_tool`. -/
def registerTool (env : Env) (observedAt : Timestamp) (c : RegisterTool) :
    Write (Mutation ToolRegistrationSnapshot) :=
  replayOrWrite env c (replayRegistration c) (registerNew env observedAt c)

/-- A registration that is made. -/
structure RegisterTool.Registers (t : Timestamp) (c : RegisterTool) (s : Store)
    (r : SessionRecord) (toolRegistrations : Table ToolRegistrationSnapshot) : Prop where
  owner : s.Authorized c.sessionId c.context.caller c.ownerEpoch t r
  consumer : r.publicConsumerKey = c.consumerKey
  unused : ∀ x ∈ s.journal.toolRegistrations, x.registrationId ≠ c.registrationId
  inserted : s.journal.toolRegistrations.insert? (c.snapshot (max r.timeFloor t)) =
    some toolRegistrations

/-! ### Connection -/

/-- The sequence numbers up to `after` that the provider need not be sent again: those of
invocations that are settled or to be cancelled, and those of cancellations. -/
def ToolInvocationRow.settledSequences (r : ToolInvocationRow) (after : ℕ) : List ℕ :=
  (if r.serverSequence ≤ after ∧
      (r.snapshot.phase.isSettled = true ∨ r.snapshot.dispatch.cancellationId.isSome = true) then
    [r.serverSequence]
  else []) ++ r.cancellationServerSequence.toList.filter (· ≤ after)

/-- The settled sequence numbers of a provider, in order. -/
def Store.durablePrefix (s : Store) (sessionId : SessionId) (providerId : ToolProviderId)
    (after : ℕ) : List ℕ :=
  (((s.journal.toolInvocations.rows.filter fun r =>
    r.sessionId = sessionId && r.providerId = providerId).flatMap
      (·.settledSequences after)).insertionSort (· ≤ ·)).dedup

/-- A connection before it is made: its generation, the next sequence number and the one
acknowledged so far. -/
def ConnectToolProvider.prior (c : ConnectToolProvider) :
    Option ToolProviderConnectionSnapshot → Except StoreError (ℕ × ℕ × ℕ)
  | none => .ok (1, 1, 0)
  | some previous => do
    check (previous.consumerKey = c.consumerKey) .invalid
    check (previous.generation + 1 < u64Bound) .corrupt
    return (previous.generation + 1, previous.nextServerSequence,
      previous.acknowledgedServerSequence)

/-- The row of a pending invocation, bound to a connection. -/
def ToolInvocationRow.rebound (r : ToolInvocationRow) (connectionId : ToolConnectionId)
    (generation : ℕ) : Option ToolInvocationRow :=
  (r.snapshot.moved r.snapshot.phase r.snapshot.terminal r.snapshot.revision
    { r.snapshot.dispatch with
      connectionId := some connectionId
      connectionGeneration := some generation }).map fun t =>
    { r with snapshot := t, connectionGeneration := some generation }

def ToolInvocationRow.isPendingAt (r : ToolInvocationRow) (sessionId : SessionId)
    (providerId : ToolProviderId) : Bool :=
  r.sessionId = sessionId && r.providerId = providerId && r.isPending

/-- The journal with every pending invocation of a provider bound to a connection. -/
def Journal.rebound (j : Journal) (sessionId : SessionId) (providerId : ToolProviderId)
    (connectionId : ToolConnectionId) (generation : ℕ) : Journal :=
  { j with
    toolInvocations := j.toolInvocations.rewrite (fun r =>
      if r.isPendingAt sessionId providerId then (r.rebound connectionId generation).getD r
      else r) fun r => by
        split
        · cases h : r.rebound connectionId generation with
          | none => rfl
          | some r' =>
            obtain ⟨_, -, rfl⟩ := Option.map_eq_some_iff.mp h
            rfl
        · rfl }

/-- Every pending invocation of the provider is bound to the connection. -/
def rebindPending (sessionId : SessionId) (providerId : ToolProviderId)
    (connectionId : ToolConnectionId) (generation : ℕ) : Write Unit := do
  ensure (∀ r ∈ (← read (·.journal.toolInvocations.rows)),
    r.isPendingAt sessionId providerId = true →
      (r.rebound connectionId generation).isSome = true) .corrupt
  write fun s => { s with
    journal := s.journal.rebound sessionId providerId connectionId generation }

/-- The connection a command makes. -/
def ConnectToolProvider.snapshot (c : ConnectToolProvider) (ids : List ToolRegistrationId)
    (generation next : ℕ) (now : Timestamp) : ToolProviderConnectionSnapshot where
  sessionId := c.sessionId
  consumerKey := c.consumerKey
  providerId := c.providerId
  connectionId := c.connectionId
  registrationIds := ids
  generation
  acknowledgedServerSequence := c.afterServerSequence
  nextServerSequence := next
  connectedAt := now

/-- A recorded connection, which the current one must continue. -/
def replayConnection (c : ConnectToolProvider) (ids : List ToolRegistrationId)
    (value : StoredValue) : Write ToolProviderConnectionSnapshot := do
  let value ← orAbort value.toolConnection? .corrupt
  let event ← orAbort (← read (·.events.find? fun e =>
    e.relatedRequestId = c.context.requestId && e.eventType = .toolProviderConnected)) .corrupt
  let durable ← orAbort (← read (·.journal.toolConnections.find? (c.sessionId, c.providerId)))
    .corrupt
  ensure (value.isStructurallyValid = true ∧ value.connectedAt = event.occurredAt ∧
    value.sessionId = c.sessionId ∧ value.consumerKey = c.consumerKey ∧
    value.providerId = c.providerId ∧ value.connectionId = c.connectionId ∧
    value.registrationIds = ids ∧ value.generation ≤ durable.generation ∧
    value.acknowledgedServerSequence = c.afterServerSequence ∧
    durable.consumerKey = c.consumerKey ∧
    value.acknowledgedServerSequence ≤ durable.acknowledgedServerSequence ∧
    value.nextServerSequence ≤ durable.nextServerSequence) .corrupt
  let s ← read id
  ensure (∀ id ∈ value.registrationIds, ∃ r ∈ s.sessionRegistration value.sessionId id,
    r.consumerKey = value.consumerKey) .corrupt
  return value

@[simp] theorem replayConnection_within [IsTrans Store R] [Std.Refl R] {c : ConnectToolProvider}
    {ids : List ToolRegistrationId} : Within R (replayConnection c ids value) := by
  unfold replayConnection
  repeat refine .bind (by simp) fun _ => ?_
  simp

/-- A connection that is new to the ledger. -/
def connectNew (env : Env) (observedAt : Timestamp) (c : ConnectToolProvider)
    (ids : List ToolRegistrationId) : Write (Mutation ToolProviderConnectionSnapshot) := do
  let (row, now) ← authorizeOwner c.sessionId c.context.caller c.ownerEpoch
    .connectToolProvider observedAt
  ensure (c.consumerKey = row.snapshot.consumerKey) .invalid
  let s ← read id
  ensure (∀ id ∈ c.registrationIds, (s.sessionRegistration c.sessionId id).map
    ToolRegistrationSnapshot.consumerKey = some row.snapshot.consumerKey) .invalid
  ensure (∀ r ∈ s.journal.toolConnections.rows, r.connectionId = c.connectionId →
    r.sessionId = c.sessionId ∧ r.providerId = c.providerId)
    (.requestConflict c.context.requestId)
  let (generation, next, priorAck) ← ofExcept
    (c.prior (s.journal.toolConnections.find? (c.sessionId, c.providerId)))
  ensure (priorAck ≤ c.afterServerSequence ∧ c.afterServerSequence < next) .invalid
  let acknowledged := s.durablePrefix c.sessionId c.providerId c.afterServerSequence
  ensure (priorAck < c.afterServerSequence →
    acknowledged.length = c.afterServerSequence ∧ acknowledged.head? = some 1 ∧
      acknowledged.getLast? = some c.afterServerSequence) .invalid
  ensure (generation < i64Bound) .corrupt
  let snapshot := c.snapshot ids generation next now
  write fun s => { s with
    journal := { s.journal with toolConnections := s.journal.toolConnections.upsert snapshot } }
  rebindPending c.sessionId c.providerId c.connectionId generation
  let revision ← orAbort (if h : 0 < generation then some ⟨generation, h⟩ else none) .corrupt
  appendEvent env c.context.requestId c.sessionId revision .toolProviderConnected now
  record env c.sessionId c .applied (.toolConnection snapshot)
  return .applied snapshot

/-- `connect_tool_provider`. -/
def connectToolProvider (env : Env) (observedAt : Timestamp) (c : ConnectToolProvider) :
    Write (Mutation ToolProviderConnectionSnapshot) := do
  ensure (c.registrationIds ≠ [] ∧ c.registrationIds.length ≤ maxToolRegistrations) .invalid
  let ids := ToolRegistrationId.sorted c.registrationIds
  ensure (ids.length = c.registrationIds.length) .invalid
  replayOrWrite env c (replayConnection c ids) (connectNew env observedAt c ids)

/-- A connection that is made. -/
structure ConnectToolProvider.Connects (t : Timestamp) (c : ConnectToolProvider) (s : Store)
    (r : SessionRecord) (generation next priorAck : ℕ) : Prop where
  owner : s.Authorized c.sessionId c.context.caller c.ownerEpoch t r
  consumer : c.consumerKey = r.publicConsumerKey
  registered : ∀ id ∈ c.registrationIds, (s.sessionRegistration c.sessionId id).map
    ToolRegistrationSnapshot.consumerKey = some r.publicConsumerKey
  alone : ∀ x ∈ s.journal.toolConnections, x.connectionId = c.connectionId →
    x.sessionId = c.sessionId ∧ x.providerId = c.providerId
  prior : c.prior (s.journal.toolConnections.find? (c.sessionId, c.providerId)) =
    .ok (generation, next, priorAck)
  acknowledges : priorAck ≤ c.afterServerSequence ∧ c.afterServerSequence < next
  settled : priorAck < c.afterServerSequence →
    (s.durablePrefix c.sessionId c.providerId c.afterServerSequence).length =
      c.afterServerSequence ∧
    (s.durablePrefix c.sessionId c.providerId c.afterServerSequence).head? = some 1 ∧
    (s.durablePrefix c.sessionId c.providerId c.afterServerSequence).getLast? =
      some c.afterServerSequence
  pending : ∀ x ∈ s.journal.toolInvocations, x.isPendingAt c.sessionId c.providerId = true →
    (x.rebound c.connectionId generation).isSome = true

/-- The journal after a connection is made. -/
def Journal.connected (j : Journal) (connection : ToolProviderConnectionSnapshot) : Journal :=
  { j with toolConnections := j.toolConnections.upsert connection }.rebound connection.sessionId
    connection.providerId connection.connectionId connection.generation

end Navigator
