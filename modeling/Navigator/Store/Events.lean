/-
Capacity and the event log.

Usage is counted from the tables themselves (`derivedCapacityUsage`), to which the
reserved amounts are added.  An event takes the next position of its session, a
time no earlier than the one before it, and an identity derived from the request
and the event type: two events of one type under one request collide, and the
second insertion fails.
-/
import Navigator.Lib.Log
import Navigator.Store.Ledger

namespace Navigator

open Txn Tx

variable {env : Env} {sessionId : SessionId} {s s' : Store} {requestId : RequestId}
  {revision : Revision} {eventType : EventType} {data : EventData} {t : Timestamp}
variable {u : Unit}

/-! ### Capacity -/

/-- How many of the rows are a session's, and how many there are. -/
def usage {ρ : Type} (rows : List ρ) (session : ρ → SessionId) (sessionId : SessionId)
    (size : ρ → ℕ) : ℕ × ℕ :=
  (((rows.filter fun r => session r = sessionId).map size).sum, (rows.map size).sum)

/-- A message that counts: everything but an accepted one. -/
def MessageRow.isRetained (r : MessageRow) : Bool :=
  match r.snapshot.state with
  | .accepted .. => false
  | _ => true

def MessageRow.isRetryScheduled (r : MessageRow) : Bool :=
  match r.snapshot.state with
  | .retryScheduled _ => true
  | _ => false

/-- An artifact that counts: the query leaves out a state `erased`. -/
def ArtifactSnapshot.isRetained (a : ArtifactSnapshot) : Bool := a.state.asStr ≠ "erased"

/-- `derived_capacity_usage`: a session's usage and the usage of all sessions. -/
def derivedCapacityUsage (env : Env) (s : Store) (sessionId : SessionId) :
    CapacityResource → ℕ × ℕ
  | .participants =>
    usage s.participants.rows (·.snapshot.sessionId) sessionId fun _ => 1
  | .activeOperations =>
    usage (s.operations.rows.filter fun r =>
      r.snapshot.terminalOutcome = none ∧ r.snapshot.state ≠ .queued)
      (·.snapshot.sessionId) sessionId fun _ => 1
  | .queuedOperations =>
    usage (s.operations.rows.filter fun r => r.snapshot.state = .queued)
      (·.snapshot.sessionId) sessionId fun _ => 1
  | .messages =>
    usage (s.messages.rows.filter MessageRow.isRetained) (·.sessionId) sessionId fun _ => 1
  | .messageBytes =>
    usage (s.messages.rows.filter MessageRow.isRetained) (·.sessionId) sessionId
      fun r => (env.json (.message r.snapshot)).length
  | .retries =>
    usage (s.messages.rows.filter MessageRow.isRetryScheduled) (·.sessionId) sessionId fun _ => 1
  | .artifacts =>
    usage (s.artifacts.rows.filter ArtifactSnapshot.isRetained) (·.sessionId) sessionId fun _ => 1
  | .artifactBytes =>
    usage (s.artifacts.rows.filter ArtifactSnapshot.isRetained) (·.sessionId) sessionId
      ArtifactSnapshot.size
  | .retainedEvents => usage s.events (·.sessionId) sessionId fun _ => 1
  | .pendingRequests | .subscriptions => (0, 0)

theorem derivedCapacityUsage_retainedEvents (env : Env) (s : Store) (sessionId : SessionId) :
    derivedCapacityUsage env s sessionId .retainedEvents =
      (s.events.countP fun e => e.sessionId = sessionId, s.events.length) := by
  simp [derivedCapacityUsage, usage, List.countP_eq_length_filter]

/-- What a session has reserved of a resource. -/
def Quotas.sessionUsed (q : Quotas) (sessionId : SessionId) (resource : CapacityResource) : ℕ :=
  ((q.sessionUsage.find? (sessionId, resource)).map SessionUsage.used).getD 0

/-- What all sessions have reserved of a resource. -/
def Quotas.globalUsed (q : Quotas) (resource : CapacityResource) : ℕ :=
  ((q.globalUsage.find? resource).map GlobalUsage.used).getD 0

/-- Room for `amount` more of a resource: what a session uses and has reserved stays
within its limit, and what all sessions do within theirs. -/
def Store.hasRoom (env : Env) (s : Store) (sessionId : SessionId) (resource : CapacityResource)
    (amount : ℕ) : Bool × Bool :=
  let derived := derivedCapacityUsage env s sessionId resource
  (derived.1 + s.quotas.sessionUsed sessionId resource + amount ≤ (env.limits resource).perSession,
    derived.2 + s.quotas.globalUsed resource + amount ≤ (env.limits resource).global)

/-- `ensure_derived_capacity`. -/
def ensureDerivedCapacity {ρ : Type} (env : Env) (sessionId : SessionId)
    (resource : CapacityResource) (amount : ℕ) : Tx Store ρ StoreError Unit := do
  let room ← read (·.hasRoom env sessionId resource amount)
  ensure (room.1 = true) (.capacityExceeded (.sessionLimit resource))
  ensure (room.2 = true) (.capacityExceeded (.globalLimit resource))

@[simp] theorem ensureDerivedCapacity_bind_done {ρ α : Type} {resource : CapacityResource}
    {amount : ℕ} {g : Unit → Tx Store ρ StoreError α} {a : α} :
    (ensureDerivedCapacity env sessionId resource amount >>= g) s = .done a s' ↔
      s.hasRoom env sessionId resource amount = (true, true) ∧ g () s = .done a s' := by
  simp [ensureDerivedCapacity, Prod.ext_iff, and_assoc]

/-! ### Events -/

/-- The identity of the event a request causes. -/
def eventIdentity (env : Env) (requestId : RequestId) (eventType : EventType) : EventId :=
  ⟨Env.uuidOfDigest (env.semanticDigest "event.identity.v1"
    (requestId.bytes ++ Bytes.utf8 eventType.asStr)), Env.uuidOfDigest_ne_zero _⟩

/-- How many events may be retained. -/
def Env.eventQuota (env : Env) : Log.Quota :=
  ⟨(env.limits .retainedEvents).perSession, (env.limits .retainedEvents).global⟩

instance : Entry EventRow SessionId Timestamp :=
  ⟨EventRow.sessionId, EventRow.position, EventRow.occurredAt⟩

/-- The event of a session at its highest position: events are kept newest first. -/
def Store.lastEvent? (s : Store) (sessionId : SessionId) : Option EventRow :=
  s.events.find? fun e => e.sessionId = sessionId

/-- `append_event_data`. -/
def appendEventData (env : Env) (requestId : RequestId) (sessionId : SessionId)
    (revision : Revision) (eventType : EventType) (data : EventData) (occurredAt : Timestamp) :
    Write Unit := do
  let s ← read id
  let used := derivedCapacityUsage env s sessionId .retainedEvents
  let limit := env.limits .retainedEvents
  ensure (used.1 < limit.perSession) (.capacityExceeded (.sessionLimit .retainedEvents))
  ensure (used.2 < limit.global) (.capacityExceeded (.globalLimit .retainedEvents))
  let previous := s.lastEvent? sessionId
  let eventId := eventIdentity env requestId eventType
  ensure (revision.get < i64Bound) .corrupt
  -- UNIQUE (session_id, event_id)
  ensure (∀ e ∈ s.events, e.sessionId = sessionId → e.eventId ≠ eventId) .unavailable
  write fun s => { s with
    events :=
      { sessionId
        position := (previous.map EventRow.position).getD 0 + 1
        eventId
        revision
        eventType
        relatedRequestId := requestId
        data
        occurredAt := max ((previous.map EventRow.occurredAt).getD occurredAt) occurredAt } ::
          s.events }

theorem appendEventData_done
    (h : appendEventData env requestId sessionId revision eventType data t s = .done u s') :
    ∃ e, Log.Admits env.eventQuota s.events e ∧ s' = { s with events := e :: s.events } := by
  simp only [appendEventData, looks_done, derivedCapacityUsage_retainedEvents, id_eq]
    at h
  obtain ⟨hsession, htotal, -, -, -, rfl⟩ := h
  refine ⟨_, ⟨⟨rfl, fun e' he' => ?_⟩, ?_, htotal⟩, rfl⟩
  swap
  · rw [Log.length_entries]
    exact hsession
  change s.lastEvent? sessionId = some e' at he'
  change e'.occurredAt ≤ max ((s.lastEvent? sessionId |>.map EventRow.occurredAt).getD t) t
  rw [he']
  exact le_max_left _ _

/-- Whether the log takes an event of a session: there is room for it, and no other event of
the session has its identity. -/
structure Store.TakesEvent (env : Env) (s : Store) (sessionId : SessionId)
    (eventId : EventId) : Prop where
  session : (s.events.countP fun e => e.sessionId = sessionId) <
    (env.limits .retainedEvents).perSession
  total : s.events.length < (env.limits .retainedEvents).global
  fresh : ∀ e ∈ s.events, e.sessionId = sessionId → e.eventId ≠ eventId

theorem Store.TakesEvent.of_eq {eventId : EventId} (h : s.TakesEvent env sessionId eventId)
    (hevents : s'.events = s.events) : s'.TakesEvent env sessionId eventId :=
  ⟨hevents ▸ h.session, hevents ▸ h.total, hevents ▸ h.fresh⟩

/-- **An event is appended** if the log takes it. -/
theorem appendEventData_iff :
    (∃ s', appendEventData env requestId sessionId revision eventType data t s = .done () s') ↔
      revision.get < i64Bound ∧ s.TakesEvent env sessionId
        (eventIdentity env requestId eventType) := by
  simp only [appendEventData, looks_done, derivedCapacityUsage_retainedEvents, id_eq]
  constructor
  · rintro ⟨s', hsession, htotal, hrevision, hfresh, -⟩
    exact ⟨hrevision, hsession, htotal, hfresh⟩
  · rintro ⟨hrevision, hsession, htotal, hfresh⟩
    exact ⟨_, hsession, htotal, hrevision, hfresh, rfl⟩

/-- What is known of the event. -/
theorem appendEventData_event
    (h : appendEventData env requestId sessionId revision eventType data t s = .done u s') :
    ∃ e : EventRow, e.sessionId = sessionId ∧ e.eventId = eventIdentity env requestId eventType ∧
      s' = { s with events := e :: s.events } := by
  simp only [appendEventData, looks_done] at h
  obtain ⟨-, -, -, -, -, rfl⟩ := h
  exact ⟨_, rfl, rfl, rfl⟩

/-- `append_event`: without data. -/
def appendEvent (env : Env) (requestId : RequestId) (sessionId : SessionId)
    (revision : Revision) (eventType : EventType) (occurredAt : Timestamp) : Write Unit :=
  appendEventData env requestId sessionId revision eventType .empty occurredAt

theorem appendEventData_journal
    (h : appendEventData env requestId sessionId revision eventType data t s = .done u s') :
    s'.journal = s.journal := by
  obtain ⟨e, -, rfl⟩ := appendEventData_done h
  rfl

/-- `session_event_payload`. -/
def sessionEventPayload (s : SessionSnapshot) : EventData :=
  .session s.id s.status s.revision s.createdAt s.updatedAt

def participantEventPayload (p : ParticipantSnapshot) : EventData :=
  .participant (some p.sessionId) p.participantId p.parentParticipantId p.templateId p.depth
    p.revision

/-- `terminal_public_digest`. -/
def terminalPublicDigest (env : Env) (outcome : OperationTerminalOutcome) : Digest :=
  env.semanticDigest "operation.public-outcome.v1" (env.json (.terminalOutcome outcome))

/-- `operation_event_payload`. -/
def operationEventPayload (env : Env) (o : OperationSnapshot) : EventData :=
  .operation o.sessionId o.operationId o.participantId o.state o.inputMessageId
    o.waitingOnMessageId (o.terminalOutcome.map OperationTerminalOutcome.state)
    (o.terminalOutcome.map (terminalPublicDigest env)) o.revision o.createdAt o.updatedAt

/-- `append_message_event`. -/
def appendMessageEvent (env : Env) (requestId : RequestId) (m : MessageSnapshot)
    (observedAt : Timestamp) : Write Unit :=
  appendEventData env requestId m.sessionId m.revision m.state.eventType
    (.message m.sessionId m.messageId m.source m.destination m.mailboxSequence m.priority
      m.correlation m.state.eventType m.attemptCount m.revision m.createdAt m.updatedAt)
    observedAt

/-- `append_authority_event`. -/
def appendAuthorityEvent (env : Env) (sessionId : SessionId) (context : RequestContext)
    (eventType : EventType) (participantId : ParticipantId) (observedAt : Timestamp) :
    Write Unit :=
  appendEventData env context.requestId sessionId .initial eventType
    (.authority participantId) observedAt

end Navigator
