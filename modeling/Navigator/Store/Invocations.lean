/-
Tool invocations.

An invocation is reserved together with the effect it is, and from then on the two change
in one transaction: it is started under the authority of the participant it is made for,
answered, found uncertain or asked to stop, each under the provider's current connection.
-/
import Navigator.Store.Tools

namespace Navigator

open Txn Tx

variable {env : Env} {c : TransitionToolInvocation} {s s' : Store} {now : Timestamp}
  {connection : ToolProviderConnectionSnapshot} {current : ToolInvocationSnapshot}
variable {registration : ToolRegistrationSnapshot} {t : Timestamp} {d : ToolDispatchSnapshot}
  {v : ToolInvocationSnapshot}
variable {u : Unit}

/-! ### Reservation -/

/-- What an invocation needs to be authorized for. -/
def ToolInvocation.requested (i : ToolInvocation) (definition : ToolDefinition) :
    ScopedCapability :=
  ⟨definition.requiredAuthority, .operation i.operationId⟩

/-- The effect of an invocation. -/
def ReserveToolInvocation.effect (env : Env) (c : ReserveToolInvocation)
    (definition : ToolDefinition) (leaseExpiresAt : Timestamp) : EffectJournalEntry where
  requestId := c.context.requestId
  sessionId := c.invocation.sessionId
  participantId := c.invocation.participantId
  operationId := c.invocation.operationId
  caller := c.context.caller
  action := definition.requiredAuthority
  semanticDigest := MutableRequest.digest env c
  effectClass := definition.effectClass
  resolutionContract := .conservative
  phase := .reserved
  ownerHost := c.context.caller
  ownerEpoch := c.ownerEpoch
  leaseExpiresAt
  terminal := none
  revision := .initial

/-- How an invocation is dispatched over a connection. -/
def ReserveToolInvocation.dispatch (c : ReserveToolInvocation)
    (connection : ToolProviderConnectionSnapshot) : ToolDispatchSnapshot where
  dispatchId := c.dispatchId
  providerId := c.providerId
  serverSequence := connection.nextServerSequence
  deadline := c.deadline
  connectionId := some connection.connectionId
  connectionGeneration := some connection.generation
  cancellationId := none
  cancellationServerSequence := none
  terminalDigest := none

/-- A connection whose next sequence number has been taken. -/
def ToolProviderConnectionSnapshot.advance (c : ToolProviderConnectionSnapshot) :
    ToolProviderConnectionSnapshot :=
  { c with nextServerSequence := c.nextServerSequence + 1 }

/-- The journal with a connection's next sequence number taken. -/
def Journal.advanced (j : Journal) (c : ToolProviderConnectionSnapshot) : Journal :=
  { j with toolConnections := j.toolConnections.replace c.advance }

/-- The next sequence number of a connection is taken. -/
def takeSequence (c : ToolProviderConnectionSnapshot) : Write Unit := do
  ensure (c.nextServerSequence + 1 < i64Bound) .corrupt
  write fun s => { s with journal := s.journal.advanced c }

/-- `INSERT INTO tool_invocations`, with its unique columns. -/
def insertToolInvocation (row : ToolInvocationRow) : Write Unit := do
  ensure (∀ r ∈ (← read (·.journal.toolInvocations.rows)),
    r.effectRequestId ≠ row.effectRequestId ∧ r.dispatchId ≠ row.dispatchId) .unavailable
  let toolInvocations ← orAbort ((← read (·.journal.toolInvocations)).insert? row) .unavailable
  write fun s => { s with journal := { s.journal with toolInvocations } }

/-- An invocation that was reserved before, as it is now. -/
def reserveToolAgain (env : Env) (c : ReserveToolInvocation) (existing : ToolInvocationSnapshot) :
    Write (Mutation ToolInvocationSnapshot) := do
  let effect ← ofExcept (← read (loadEffect · existing.invocation.requestId))
  let effect ← orAbort effect .corrupt
  ensure (existing.invocation = c.invocation ∧ effect.caller = c.context.caller ∧
    effect.ownerEpoch = c.ownerEpoch ∧ effect.semanticDigest = MutableRequest.digest env c)
    (.requestConflict c.context.requestId)
  return .replayed existing

/-- The checks and writes of an invocation that is new, after its registration and its
provider's connection are found. -/
def dispatchTool (env : Env) (c : ReserveToolInvocation) (registration : ToolRegistrationSnapshot)
    (connection : ToolProviderConnectionSnapshot) (now : Timestamp) :
    Write ToolInvocationSnapshot := do
  let i := c.invocation
  takeSequence connection
  let participant ← ofExcept (← read (loadParticipant · i.participantId))
  let participant ← orAbort participant .invalid
  let operation ← ofExcept (← read (loadOperation · i.operationId))
  let operation ← orAbort operation .invalid
  ensure (participant.sessionId = i.sessionId ∧ operation.sessionId = i.sessionId ∧
    operation.participantId = i.participantId ∧ operation.state.isWorking = true) .invalid
  ensure ((← read (·.effectDecision i.sessionId i.participantId
    (i.requested registration.definition) i.authorityGrantId now)).isSome = true) .invalid
  let leaseExpiresAt ← ofExcept (effectExpiry now c.leaseDuration)
  insertEffect (c.effect env registration.definition leaseExpiresAt)
  let snapshot ← orAbort (ToolInvocationSnapshot.new c.registrationId registration.definition i
    .reserved none .initial (c.dispatch connection)) .invalid
  insertToolInvocation (.of snapshot)
  appendEvent env c.context.requestId i.sessionId .initial .toolInvocationReserved now
  return snapshot

def reserveToolNew (env : Env) (observedAt : Timestamp) (c : ReserveToolInvocation) :
    Write (Mutation ToolInvocationSnapshot) := do
  let i := c.invocation
  let (_, now) ← authorizeOwner i.sessionId c.context.caller c.ownerEpoch
    .reserveToolInvocation observedAt
  let registration ← ofExcept (← read (loadToolRegistration · i.sessionId i.toolName i.toolVersion))
  let registration ← orAbort registration .invalid
  ensure (registration.registrationId = c.registrationId) .invalid
  ensure (env.toolInputValid registration.definition i.input = true) .invalid
  let connection ← orAbort (← read (·.journal.toolConnections.find?
    (i.sessionId, c.providerId))) .invalid
  ensure (registration.registrationId ∈ connection.registrationIds) .invalid
  ensure (now < c.deadline ∧ c.deadline.nanos - now.nanos ≤
    registration.definition.timeout.millis * 1000000) .invalid
  return .applied (← dispatchTool env c registration connection now)

/-- `reserve_tool_invocation`.  The source returns the snapshot alone. -/
def reserveToolInvocation (env : Env) (observedAt : Timestamp) (c : ReserveToolInvocation) :
    Write (Mutation ToolInvocationSnapshot) := do
  let requestId := c.context.requestId
  ensure (requestId = c.invocation.requestId ∧ 0 < c.leaseDuration.nanos ∧
    c.leaseDuration.asMillis ≤ env.maxLeaseMillis) .invalid
  rejectGlobalRequestCollision requestId
  rejectRecoveryRequestCollision requestId
  ensure ((← read (·.journal.toolMutations.find? requestId)) = none) (.requestConflict requestId)
  ensure (∀ r ∈ (← read (·.journal.toolInvocations.rows)),
    r.effectRequestId = requestId → r.invocationId = c.invocation.invocationId)
    (.requestConflict requestId)
  match ← ofExcept (← read (loadToolInvocation · c.invocation.invocationId)) with
  | some existing => reserveToolAgain env c existing
  | none => reserveToolNew env observedAt c

/-- An invocation that is reserved over a connection. -/
structure ReserveToolInvocation.Dispatches (env : Env) (c : ReserveToolInvocation) (s : Store)
    (now : Timestamp) (registration : ToolRegistrationSnapshot)
    (connection : ToolProviderConnectionSnapshot) (leaseExpiresAt : Timestamp)
    (snapshot : ToolInvocationSnapshot) (effects : Table EffectJournalEntry)
    (toolInvocations : Table ToolInvocationRow) : Prop where
  room : connection.nextServerSequence + 1 < i64Bound
  works : s.Works c.invocation.sessionId c.invocation.participantId c.invocation.operationId
  decided : ∃ decision, s.effectDecision c.invocation.sessionId c.invocation.participantId
    (c.invocation.requested registration.definition) c.invocation.authorityGrantId now =
      some decision
  inserted : s.journal.effects.insert? (c.effect env registration.definition leaseExpiresAt) =
    some effects
  made : ToolInvocationSnapshot.new c.registrationId registration.definition c.invocation
    .reserved none .initial (c.dispatch connection) = some snapshot
  unique : ∀ x ∈ s.journal.toolInvocations, x.effectRequestId ≠ c.invocation.requestId ∧
    x.dispatchId ≠ c.dispatchId
  invoked : s.journal.toolInvocations.insert? (.of snapshot) = some toolInvocations

theorem ToolInvocationSnapshot.new_eq {registrationId : ToolRegistrationId}
    {definition : ToolDefinition} {i : ToolInvocation} {phase : ToolInvocationPhase}
    {terminal : Option ToolTerminal} {revision : Revision} {t : ToolInvocationSnapshot}
    (h : ToolInvocationSnapshot.new registrationId definition i phase terminal revision d =
      some t) :
    t.registrationId = registrationId ∧ t.definition = definition ∧ t.invocation = i ∧
      t.phase = phase ∧ t.terminal = terminal ∧ t.revision = revision ∧ t.dispatch = d := by
  unfold ToolInvocationSnapshot.new at h
  split at h
  · cases h
    exact ⟨rfl, rfl, rfl, rfl, rfl, rfl, rfl⟩
  · cases h

theorem dispatchTool_done {c : ReserveToolInvocation}
    (h : dispatchTool env c registration connection now s = .done v s') :
    ∃ leaseExpiresAt effects toolInvocations,
      c.Dispatches env s now registration connection leaseExpiresAt v effects toolInvocations ∧
      s'.journal = { s.journal.advanced connection with effects, toolInvocations } := by
  obtain ⟨_, s₁, hsequence, h⟩ := bind_done.mp h
  simp only [takeSequence, looks_done] at hsequence
  obtain ⟨hroom, rfl⟩ := hsequence
  simp only [looks_done] at h
  obtain ⟨_, hp, p, rfl, _, ho, o, rfl, hworks, hdecision, lease, -, h⟩ := h
  obtain ⟨_, s2, hinsert, h⟩ := bind_done.mp h
  obtain ⟨effects, hinserted, -, rfl⟩ := insertEffect_done hinsert
  simp only [looks_done] at h
  obtain ⟨snapshot, hsnapshot, h⟩ := h
  obtain ⟨_, s3, htool, h⟩ := bind_done.mp h
  simp only [insertToolInvocation, looks_done] at htool
  obtain ⟨hunique, tools, htools, rfl⟩ := htool
  obtain ⟨_, s4, hevent, h⟩ := bind_done.mp h
  cases h
  obtain ⟨-, -, hinvocation, -, -, -, hdispatch⟩ := ToolInvocationSnapshot.new_eq hsnapshot
  refine ⟨lease, effects, tools, ⟨hroom, ⟨p, o, hp, ho, hworks⟩,
    Option.isSome_iff_exists.mp hdecision, hinserted, hsnapshot, fun x hx => ?_, htools⟩,
    appendEventData_journal hevent⟩
  have hx' := hunique x hx
  rwa [ToolInvocationRow.of, hinvocation, hdispatch] at hx'

/-- A reservation that is made. -/
structure ReserveToolInvocation.Reserves (env : Env) (t : Timestamp) (c : ReserveToolInvocation)
    (s : Store) (r : SessionRecord) (registration : ToolRegistrationSnapshot)
    (connection : ToolProviderConnectionSnapshot) : Prop where
  named : c.context.requestId = c.invocation.requestId
  global : s.requestRecorded c.context.requestId = false
  recovery : s.recoveries.find? c.context.requestId = none
  mutation : s.journal.toolMutations.find? c.context.requestId = none
  owner : s.Authorized c.invocation.sessionId c.context.caller c.ownerEpoch t r
  registered : s.journal.toolRegistrations.find? (c.invocation.sessionId,
    c.invocation.toolName, c.invocation.toolVersion) = some registration
  same : registration.registrationId = c.registrationId
  connected : s.journal.toolConnections.find? (c.invocation.sessionId, c.providerId) =
    some connection
  served : registration.registrationId ∈ connection.registrationIds

/-! ### Transitions -/

/-- The effect a failed invocation is ended as. -/
def ToolFailureKind.failureId (k : ToolFailureKind) : BoundedText 256 :=
  ⟨k.asStr, by cases k <;> decide⟩

/-- The failures of an invocation that its provider never started. -/
def ToolFailureKind.isOfReserved : ToolFailureKind → Bool
  | timedOut | cancelled | providerUnavailable => true
  | _ => false

/-- The classes of effects that can be uncertain. -/
def EffectClass.isUnsafe : EffectClass → Bool
  | transactional | nonIdempotent | unknown => true
  | readOnly | idempotent => false

/-- Where a transition leads: the invocation, its effect, and the event. -/
structure ToolStep where
  phase : ToolInvocationPhase
  terminal : Option ToolTerminal
  effectPhase : EffectJournalPhase
  effectTerminal : Option EffectTerminal
  event : EventType

/-- A result as the effect's outcome, if it is not too long. -/
def effectResult (env : Env) (result : ToolResult) :
    Option (BoundedBytes maxEffectResultBytes) :=
  if h : (env.json (.toolResult result)).length ≤ maxEffectResultBytes then
    some ⟨env.json (.toolResult result), h⟩
  else none

/-- The transitions that are allowed. -/
def ToolTransition.step (env : Env) (tr : ToolTransition) (current : ToolInvocationSnapshot)
    (effect : EffectJournalEntry) : Option ToolStep :=
  match tr, current.phase with
  | start, .reserved => some ⟨.started, none, .started, none, .toolInvocationStarted⟩
  | complete result, .started =>
    if env.toolOutputValid current.definition result.output then
      (effectResult env result).map fun bytes =>
        ⟨.completed, some (.completed result), .completed, some (.completed bytes),
          .toolInvocationCompleted⟩
    else none
  | fail failure, .started =>
    some ⟨.failed, some (.failed failure), .failed, some (.failed failure.kind.failureId),
      .toolInvocationFailed⟩
  | fail failure, .reserved =>
    if failure.kind.isOfReserved then
      some ⟨.failed, some (.failed failure), .failed, some (.failed failure.kind.failureId),
        .toolInvocationFailed⟩
    else none
  | markUncertain, .started =>
    if effect.effectClass.isUnsafe then
      some ⟨.uncertain, none, .uncertain, none, .toolInvocationUncertain⟩
    else none
  | requestCancel _, .reserved | requestCancel _, .started =>
    some ⟨current.phase, current.terminal, effect.phase, effect.terminal,
      .toolInvocationCancelRequested⟩
  | _, _ => none

/-- The digest of a terminal. -/
def ToolTerminal.digest (env : Env) : ToolTerminal → Digest
  | completed result => env.semanticDigest "tool.result" (env.json (.toolResult result))
  | failed failure => env.semanticDigest "tool.failure" (env.json (.toolFailure failure))

/-- Whether a command speaks for the provider's current connection, of the invocation as it
was dispatched. -/
def TransitionToolInvocation.Speaks (c : TransitionToolInvocation)
    (current : ToolInvocationSnapshot) (connection : ToolProviderConnectionSnapshot) : Prop :=
  c.providerId = current.dispatch.providerId ∧ current.dispatch.connectionId = some c.connectionId ∧
    c.dispatchId = current.dispatch.dispatchId ∧
    c.serverSequence = current.dispatch.serverSequence ∧ c.connectionGeneration ≠ 0 ∧
    connection.connectionId = c.connectionId ∧ connection.generation = c.connectionGeneration

instance (c : TransitionToolInvocation) (current : ToolInvocationSnapshot)
    (connection : ToolProviderConnectionSnapshot) : Decidable (c.Speaks current connection) :=
  inferInstanceAs (Decidable (_ ∧ _))

/-- The authority to start an invocation, which uses up a grant for a single use. -/
def authorizeStart (current : ToolInvocationSnapshot) (now : Timestamp) : Write Unit := do
  let i := current.invocation
  ensure (current.dispatch.cancellationId = none) .invalid
  let participant ← ofExcept (← read (loadParticipant · i.participantId))
  let participant ← orAbort participant .invalid
  let operation ← ofExcept (← read (loadOperation · i.operationId))
  let operation ← orAbort operation .invalid
  ensure (participant.sessionId = i.sessionId ∧ operation.sessionId = i.sessionId ∧
    operation.participantId = participant.participantId ∧ operation.state = .running) .invalid
  ensure ((← read (·.effectDecision i.sessionId i.participantId (i.requested current.definition)
    i.authorityGrantId now)).isSome = true) .invalid
  consumeGrant (← read (·.namedGrant i.authorityGrantId)) now

/-- An invocation is started under a decision, whose grant is then used up. -/
theorem authorizeStart_done (h : authorizeStart current now s = .done u s') :
    current.dispatch.cancellationId = none ∧
    (∃ o, loadOperation s current.invocation.operationId = .ok (some o) ∧
      o.sessionId = current.invocation.sessionId ∧ o.state = .running) ∧
    ∃ decision, s.effectDecision current.invocation.sessionId current.invocation.participantId
        (current.invocation.requested current.definition) current.invocation.authorityGrantId
        now = some decision ∧
      consumeGrant (s.namedGrant current.invocation.authorityGrantId) now s = .done u s' := by
  simp only [authorizeStart, looks_done] at h
  obtain ⟨hcancel, _, -, p, -, _, ho, o, rfl, ⟨-, hsession, -, hstate⟩, hdecision, h⟩ := h
  obtain ⟨decision, hdecision⟩ := Option.isSome_iff_exists.mp hdecision
  exact ⟨hcancel, ⟨o, ho, hsession, hstate⟩, decision, hdecision, h⟩

/-- The dispatch after a transition; a cancellation takes the connection's next sequence
number. -/
def TransitionToolInvocation.dispatch (env : Env) (c : TransitionToolInvocation)
    (current : ToolInvocationSnapshot) (connection : ToolProviderConnectionSnapshot) :
    Write ToolDispatchSnapshot := do
  let bound := { current.dispatch with connectionGeneration := some c.connectionGeneration }
  match c.transition with
  | .complete result =>
    return { bound with terminalDigest := some ((ToolTerminal.completed result).digest env) }
  | .fail failure =>
    return { bound with terminalDigest := some ((ToolTerminal.failed failure).digest env) }
  | .requestCancel cancellationId =>
    ensure (bound.cancellationId = none) (.requestConflict c.context.requestId)
    takeSequence connection
    return { bound with
      cancellationId := some cancellationId
      cancellationServerSequence := some connection.nextServerSequence }
  | .start | .markUncertain => return bound

/-- The dispatch after a transition. -/
def TransitionToolInvocation.dispatched (env : Env) (c : TransitionToolInvocation)
    (current : ToolInvocationSnapshot) (connection : ToolProviderConnectionSnapshot) :
    ToolDispatchSnapshot :=
  let bound := { current.dispatch with connectionGeneration := some c.connectionGeneration }
  match c.transition with
  | .complete result =>
    { bound with terminalDigest := some ((ToolTerminal.completed result).digest env) }
  | .fail failure =>
    { bound with terminalDigest := some ((ToolTerminal.failed failure).digest env) }
  | .requestCancel cancellationId =>
    { bound with
      cancellationId := some cancellationId
      cancellationServerSequence := some connection.nextServerSequence }
  | .start | .markUncertain => bound

/-- The journal after a transition has taken the sequence number it needs. -/
def TransitionToolInvocation.sequenced (c : TransitionToolInvocation) (j : Journal)
    (connection : ToolProviderConnectionSnapshot) : Journal :=
  if c.transition.isCancel then j.advanced connection else j

theorem TransitionToolInvocation.dispatch_done
    (h : c.dispatch env current connection s = .done d s') :
    d = c.dispatched env current connection ∧
    (c.transition.isCancel = true → current.dispatch.cancellationId = none ∧
      connection.nextServerSequence + 1 < i64Bound) ∧
    s' = { s with journal := c.sequenced s.journal connection } := by
  unfold dispatch at h
  unfold dispatched sequenced
  cases htransition : c.transition with
  | requestCancel cancellationId =>
    simp only [htransition, takeSequence, bind_assoc, looks_done] at h
    obtain ⟨hnone, hroom, rfl, rfl⟩ := h
    exact ⟨rfl, fun _ => ⟨hnone, hroom⟩, rfl⟩
  | _ =>
    simp only [htransition, pure_done] at h
    obtain ⟨rfl, rfl⟩ := h
    exact ⟨rfl, by simp [ToolTransition.isCancel], rfl⟩

/-- The columns a transition sets. -/
def ToolInvocationRow.movedTo (r : ToolInvocationRow) (t : ToolInvocationSnapshot) :
    ToolInvocationRow :=
  { r with
    snapshot := t
    connectionGeneration := t.dispatch.connectionGeneration
    cancellationId := t.dispatch.cancellationId
    cancellationServerSequence := t.dispatch.cancellationServerSequence
    terminalDigest := t.dispatch.terminalDigest }

/-- The journal with an invocation's columns set. -/
def Journal.withTool (j : Journal) (id : ToolInvocationId) (t : ToolInvocationSnapshot) :
    Journal :=
  { j with toolInvocations := j.toolInvocations.modify id (·.movedTo t) (fun _ => rfl) }

/-- `tool_invocation_event_payload`. -/
def toolInvocationEventPayload (t : ToolInvocationSnapshot) : EventData :=
  .toolInvocation t.invocation.invocationId t.invocation.requestId t.invocation.participantId
    t.invocation.operationId t.registrationId t.invocation.toolName t.invocation.toolVersion
    t.phase t.revision t.dispatch.connectionGeneration t.dispatch.terminalDigest

/-- `record_tool_mutation`. -/
def recordToolMutation (env : Env) (c : TransitionToolInvocation) (t : ToolInvocationSnapshot) :
    Write Unit := do
  let toolMutations ← orAbort ((← read (·.journal.toolMutations)).insert?
    ⟨c.context.requestId, c.invocationId, c.context.caller, MutableRequest.digest env c, t⟩)
    .unavailable
  write fun s => { s with journal := { s.journal with toolMutations } }

/-- An invocation and its effect move. -/
def moveTool (env : Env) (c : TransitionToolInvocation) (current : ToolInvocationSnapshot)
    (effect : EffectJournalEntry) (connection : ToolProviderConnectionSnapshot)
    (now : Timestamp) : Write ToolInvocationSnapshot := do
  let step ← orAbort (c.transition.step env current effect) .invalid
  let revision ← orAbort current.revision.next .corrupt
  let dispatch ← c.dispatch env current connection
  let updated ← orAbort (current.moved step.phase step.terminal revision dispatch) .corrupt
  updateEffect { effect with
    phase := step.effectPhase
    terminal := step.effectTerminal
    revision }
  write fun s => { s with journal := s.journal.withTool c.invocationId updated }
  appendEventData env c.context.requestId current.invocation.sessionId revision step.event
    (toolInvocationEventPayload updated) now
  recordToolMutation env c updated
  return updated

/-- A start needs authority; the other transitions do not. -/
def authorizeTransition (c : TransitionToolInvocation) (current : ToolInvocationSnapshot)
    (now : Timestamp) : Write Unit :=
  if c.transition = .start then authorizeStart current now else pure ()

/-- An invocation that is settled answers as it was settled; any other moves. -/
def answerTool (env : Env) (c : TransitionToolInvocation) (current : ToolInvocationSnapshot)
    (effect : EffectJournalEntry) (connection : ToolProviderConnectionSnapshot)
    (now : Timestamp) : Write (Mutation ToolInvocationSnapshot) := do
  ensure (c.transition.isCancel = true → current.definition.cancellation ≠ .unsupported) .invalid
  if current.phase.isSettled then
    ensure (c.transition.terminal? = current.terminal) (.requestConflict c.context.requestId)
    recordToolMutation env c current
    return .unchanged current
  else return .applied (← moveTool env c current effect connection now)

/-- A transition that is new. -/
def transitionToolNew (env : Env) (observedAt : Timestamp) (c : TransitionToolInvocation) :
    Write (Mutation ToolInvocationSnapshot) := do
  let requestId := c.context.requestId
  rejectGlobalRequestCollision requestId
  rejectEffectRequestCollision requestId
  rejectRecoveryRequestCollision requestId
  let current ← ofExcept (← read (loadToolInvocation · c.invocationId))
  let current ← orAbort current .invalid
  let i := current.invocation
  let (_, now) ← authorizeOwner i.sessionId c.context.caller c.ownerEpoch
    .transitionToolInvocation observedAt
  ensure (current.revision = c.expectedRevision) .invalid
  let effect ← ofExcept (← read (loadEffect · i.requestId))
  let effect ← orAbort effect .corrupt
  ensure (effect.ownerEpoch = c.ownerEpoch) .invalid
  let connection ← orAbort (← read (·.journal.toolConnections.find? (i.sessionId, c.providerId)))
    .invalid
  ensure (c.Speaks current connection) .invalid
  authorizeTransition c current now
  answerTool env c current effect connection now

/-! ### What a transition does -/

theorem authorizeTransition_done (h : authorizeTransition c current now s = .done u s') :
    (c.transition = .start → authorizeStart current now s = .done u s') ∧
      s' = { s with grants := s'.grants } := by
  unfold authorizeTransition at h
  split at h
  · obtain ⟨-, -, _, -, hconsume⟩ := authorizeStart_done h
    exact ⟨fun _ => h, consumeGrant_done hconsume⟩
  · next hstart =>
    exact ⟨fun hs => absurd hs hstart, by rw [(pure_done.mp h).2]⟩

/-- A transition that is let through. -/
structure TransitionToolInvocation.Admits (t : Timestamp) (c : TransitionToolInvocation)
    (s : Store) (r : SessionRecord) (current : ToolInvocationSnapshot)
    (effect : EffectJournalEntry) (connection : ToolProviderConnectionSnapshot) : Prop where
  global : s.requestRecorded c.context.requestId = false
  ofEffect : s.requestOfEffect c.context.requestId = false
  recovery : s.recoveries.find? c.context.requestId = none
  loaded : loadToolInvocation s c.invocationId = .ok (some current)
  owner : s.Authorized current.invocation.sessionId c.context.caller c.ownerEpoch t r
  expected : current.revision = c.expectedRevision
  found : loadEffect s current.invocation.requestId = .ok (some effect)
  epoch : effect.ownerEpoch = c.ownerEpoch
  connected : s.journal.toolConnections.find? (current.invocation.sessionId, c.providerId) =
    some connection
  speaks : c.Speaks current connection
  started : c.transition = .start → ∃ s₁, authorizeStart current (max r.timeFloor t)
    (s.withFloor current.invocation.sessionId (max r.timeFloor t)) = .done () s₁
  cancellable : c.transition.isCancel = true → current.definition.cancellation ≠ .unsupported

/-- A transition by which an invocation moves. -/
structure TransitionToolInvocation.Moves (env : Env) (c : TransitionToolInvocation) (s : Store)
    (current : ToolInvocationSnapshot) (effect : EffectJournalEntry)
    (connection : ToolProviderConnectionSnapshot) (step : ToolStep) (revision : Revision)
    (updated : ToolInvocationSnapshot) : Prop where
  unsettled : current.phase.isSettled = false
  leads : c.transition.step env current effect = some step
  next : current.revision.next = some revision
  sequenced : c.transition.isCancel = true → current.dispatch.cancellationId = none ∧
    connection.nextServerSequence + 1 < i64Bound
  moved : current.moved step.phase step.terminal revision (c.dispatched env current connection) =
    some updated
  fits : revision.get < i64Bound
  takes : s.TakesEvent env current.invocation.sessionId
    (eventIdentity env c.context.requestId step.event)

/-- The journal after an invocation and its effect have moved. -/
def TransitionToolInvocation.journal (c : TransitionToolInvocation) (j : Journal)
    (effect : EffectJournalEntry) (connection : ToolProviderConnectionSnapshot)
    (step : ToolStep) (updated : ToolInvocationSnapshot)
    (toolMutations : Table ToolMutationRow) : Journal :=
  { ((c.sequenced j connection).withEffect (effect.movedTo step.effectPhase step.effectTerminal
      updated.revision)).withTool c.invocationId updated with
    toolMutations }

theorem TransitionToolInvocation.sequenced_effects {j : Journal} :
    (c.sequenced j connection).effects = j.effects := by
  unfold sequenced
  split <;> rfl

theorem TransitionToolInvocation.sequenced_toolMutations {j : Journal} :
    (c.sequenced j connection).toolMutations = j.toolMutations := by
  unfold sequenced
  split <;> rfl

theorem recordToolMutation_done {t : ToolInvocationSnapshot}
    (h : recordToolMutation env c t s = .done u s') :
    ∃ toolMutations, s.journal.toolMutations.insert? ⟨c.context.requestId, c.invocationId,
        c.context.caller, MutableRequest.digest env c, t⟩ = some toolMutations ∧
      s' = { s with journal := { s.journal with toolMutations } } := by
  simp only [recordToolMutation, looks_done] at h
  obtain ⟨rows, hinsert, rfl⟩ := h
  exact ⟨rows, hinsert, rfl⟩

theorem moveTool_done {effect : EffectJournalEntry} (hunsettled : current.phase.isSettled = false)
    (hfound : s.journal.effects.find? effect.requestId = some effect)
    (hrevision : effect.revision = current.revision)
    (h : moveTool env c current effect connection now s = .done v s') :
    ∃ step revision toolMutations, c.Moves env s current effect connection step revision v ∧
      s.journal.toolMutations.insert? ⟨c.context.requestId, c.invocationId, c.context.caller,
        MutableRequest.digest env c, v⟩ = some toolMutations ∧
      s'.journal = c.journal s.journal effect connection step v toolMutations ∧
      s'.grants = s.grants := by
  simp only [moveTool, looks_done] at h
  obtain ⟨step, hstep, revision, hnext, h⟩ := h
  obtain ⟨d, s₁, hdispatch, h⟩ := bind_done.mp h
  obtain ⟨rfl, hsequenced, rfl⟩ := TransitionToolInvocation.dispatch_done hdispatch
  simp only [looks_done] at h
  obtain ⟨updated, hmoved, h⟩ := h
  obtain ⟨_, s2, hupdate, h⟩ := bind_done.mp h
  obtain ⟨⟨-, hfits⟩, rfl⟩ := (updateEffect_done
    (by rw [TransitionToolInvocation.sequenced_effects]; exact hfound)
    (by rw [hrevision]; exact hnext)).mp hupdate
  simp only [write_bind_done] at h
  obtain ⟨_, s3, hevent, h⟩ := bind_done.mp h
  obtain ⟨_, s4, hrecord, h⟩ := bind_done.mp h
  cases h
  obtain ⟨rows, hinsert, rfl⟩ := recordToolMutation_done hrecord
  obtain ⟨-, -, -, hrev, -⟩ := ToolInvocationSnapshot.moved_eq hmoved
  have htakes := (appendEventData_iff.mp ⟨_, hevent⟩).2
  obtain ⟨_, -, rfl⟩ := appendEventData_done hevent
  refine ⟨step, revision, rows, ⟨hunsettled, hstep, hnext, hsequenced, hmoved, hfits,
    htakes.of_eq rfl⟩, ?_, ?_, rfl⟩
  · rwa [← TransitionToolInvocation.sequenced_toolMutations (c := c)]
  · simp only [TransitionToolInvocation.journal, EffectJournalEntry.movedTo, hrev]

/-! ### Replays -/

/-- Whether a recorded snapshot is what a transition leads to. -/
def TransitionToolInvocation.isResult (c : TransitionToolInvocation)
    (recorded : ToolInvocationSnapshot) (next : Revision) : Bool :=
  match c.transition with
  | .start => recorded.phase = .started && recorded.terminal = none && recorded.revision = next
  | .complete result =>
    recorded.phase = .completed && recorded.terminal = some (.completed result) &&
      (recorded.revision = c.expectedRevision || recorded.revision = next)
  | .fail failure =>
    recorded.phase = .failed && recorded.terminal = some (.failed failure) &&
      (recorded.revision = c.expectedRevision || recorded.revision = next)
  | .markUncertain =>
    recorded.phase = .uncertain && recorded.terminal = none && recorded.revision = next
  | .requestCancel cancellationId =>
    recorded.dispatch.cancellationId = some cancellationId && recorded.revision = next &&
      recorded.terminal = none

/-- `validate_tool_transition_replay`. -/
def TransitionToolInvocation.isReplay (c : TransitionToolInvocation)
    (recorded current : ToolInvocationSnapshot) : Bool :=
  recorded.invocation.invocationId = c.invocationId &&
    recorded.invocation = current.invocation && recorded.definition = current.definition &&
    recorded.registrationId = current.registrationId &&
    recorded.dispatch.dispatchId = c.dispatchId &&
    recorded.dispatch.dispatchId = current.dispatch.dispatchId &&
    recorded.dispatch.providerId = c.providerId &&
    recorded.dispatch.providerId = current.dispatch.providerId &&
    recorded.dispatch.serverSequence = c.serverSequence &&
    recorded.dispatch.serverSequence = current.dispatch.serverSequence &&
    recorded.dispatch.deadline = current.dispatch.deadline &&
    (c.expectedRevision.next.any (c.isResult recorded)) &&
    (recorded.terminal = none ||
      recorded.terminal = current.terminal && recorded.phase = current.phase)

/-- A transition that was made before. -/
def replayToolTransition (env : Env) (c : TransitionToolInvocation) (row : ToolMutationRow) :
    Write ToolInvocationSnapshot := do
  ensure (row.invocationId = c.invocationId ∧ row.caller = c.context.caller ∧
    row.digest = MutableRequest.digest env c) (.requestConflict c.context.requestId)
  let current ← ofExcept (← read (loadToolInvocation · c.invocationId))
  let current ← orAbort current .corrupt
  ensure (c.isReplay row.result current = true) .corrupt
  return row.result

@[simp] theorem replayToolTransition_within {R : Store → Store → Prop} [IsTrans Store R]
    [Std.Refl R] {row : ToolMutationRow} :
    Within R (replayToolTransition env c row) := by
  unfold replayToolTransition
  repeat refine .bind (by simp) fun _ => ?_
  simp

/-- `transition_tool_invocation`.  The source returns the snapshot alone. -/
def transitionToolInvocation (env : Env) (observedAt : Timestamp)
    (c : TransitionToolInvocation) : Write (Mutation ToolInvocationSnapshot) := do
  match ← read (·.journal.toolMutations.find? c.context.requestId) with
  | some row => return .replayed (← replayToolTransition env c row)
  | none => transitionToolNew env observedAt c

theorem transitionToolInvocation_done {v : Mutation ToolInvocationSnapshot}
    (h : transitionToolInvocation env t c s = .done v s') :
    (∃ a, v = .replayed a ∧ s.journal.toolMutations.find? c.context.requestId ≠ none ∧
      s'.journal = s.journal) ∨
    ∃ r current effect connection toolMutations, c.Admits t s r current effect connection ∧
      (c.transition = .start → ∃ s₁, authorizeStart current (max r.timeFloor t)
        (s.withFloor current.invocation.sessionId (max r.timeFloor t)) = .done () s₁ ∧
        s'.grants = s₁.grants) ∧
      (current.phase.isSettled = true ∧ c.transition.terminal? = current.terminal ∧
        v = .unchanged current ∧
        s.journal.toolMutations.insert? ⟨c.context.requestId, c.invocationId, c.context.caller,
          MutableRequest.digest env c, current⟩ = some toolMutations ∧
        s'.journal = { s.journal with toolMutations } ∨
      ∃ step revision updated, c.Moves env s current effect connection step revision updated ∧
        v = .applied updated ∧
        s.journal.toolMutations.insert? ⟨c.context.requestId, c.invocationId, c.context.caller,
          MutableRequest.digest env c, updated⟩ = some toolMutations ∧
        s'.journal = c.journal s.journal effect connection step updated toolMutations) := by
  simp only [transitionToolInvocation, looks_done] at h
  cases hrow : s.journal.toolMutations.find? c.context.requestId with
  | some row =>
    simp only [hrow] at h
    obtain ⟨a, s₁, hreplay, h⟩ := bind_done.mp h
    cases h
    have heq : s = s' := Within.done hreplay (by simp)
    exact .inl ⟨a, rfl, by simp, by rw [heq]⟩
  | none =>
    simp only [hrow, transitionToolNew, rejectGlobalRequestCollision_bind_done,
      rejectEffectRequestCollision_bind_done, rejectRecoveryRequestCollision_bind_done, looks_done]
      at h
    obtain ⟨hglobal, heffect, hrecovery, _, hload, current, rfl, h⟩ := h
    obtain ⟨row, r, hr, -, h⟩ := authorizeOwner_bind_done h
    simp only [looks_done] at h
    obtain ⟨hexpected, _, hfound, effect, rfl, hepoch, connection, hconnection, hspeaks, h⟩ := h
    obtain ⟨_, s2, hauthorize, h⟩ := bind_done.mp h
    obtain ⟨hstart, hgrants⟩ := authorizeTransition_done hauthorize
    simp only [answerTool, looks_done] at h
    obtain ⟨hcancellable, h⟩ := h
    have hjournal : s2.journal = s.journal := by rw [hgrants]; rfl
    obtain ⟨-, e, hloads⟩ := loadToolInvocation_ok_some hload
    obtain rfl : e = effect := by
      simpa using (hloads.effect.symm.trans hfound)
    have hadmits : c.Admits t s r current e connection :=
      ⟨hglobal, heffect, hrecovery, hload, hr, hexpected, hfound, hepoch, hconnection, hspeaks,
        fun hs => ⟨s2, hstart hs⟩, hcancellable⟩
    split at h
    · next hsettled =>
      simp only [looks_done] at h
      obtain ⟨hterminal, h⟩ := h
      obtain ⟨_, s3, hrecord, h⟩ := bind_done.mp h
      cases h
      obtain ⟨rows, hinsert, rfl⟩ := recordToolMutation_done hrecord
      rw [hjournal] at hinsert
      exact .inr ⟨r, current, e, connection, rows, hadmits, fun hs => ⟨s2, hstart hs, rfl⟩,
        .inl ⟨hsettled, hterminal, rfl, hinsert, by rw [hjournal]⟩⟩
    · next hunsettled =>
      obtain ⟨a, s3, hmove, h⟩ := bind_done.mp h
      cases h
      obtain ⟨hrow, -⟩ := loadEffect_ok_some hfound
      have hid := EffectJournalEntry.requestId_of_found hrow
      obtain ⟨step, revision, rows, hmoves, hinsert, hafter, hsame⟩ :=
        moveTool_done (by simpa using hunsettled) (by rw [hjournal, hid]; exact hrow)
          hloads.revision hmove
      rw [hjournal] at hinsert hafter
      have hmoves' : c.Moves env s current e connection step revision a :=
        { hmoves with takes := hmoves.takes.of_eq (by rw [hgrants]; rfl) }
      exact .inr ⟨r, current, e, connection, rows, hadmits, fun hs => ⟨s2, hstart hs, hsame⟩,
        .inr ⟨step, revision, a, hmoves', rfl, hinsert, hafter⟩⟩

end Navigator
