/-
Operations.

An operation is started with the message that carries its input, moves through
the states of `nextOperationState`, and ends with an outcome.  When it ends, the
messages still on their way to it are retired, and its participant's parent is
told, if it is working and the participant may tell it.
-/
import Navigator.Store.Messages

namespace Navigator

open Txn Tx

variable {s s' : Store} {o : OperationSnapshot} {next : OperationState} {action : OperationAction}
  {c : TransitionOperation}
variable {state : OperationState} {t : Timestamp}

/-! ### Reading -/

/-- `terminal_matches_state` and its neighbours in `load_operation_in`. -/
@[mk_iff] structure OperationSnapshot.Readable (o : OperationSnapshot) : Prop where
  times : o.createdAt ≤ o.updatedAt
  terminal : o.terminalOutcome.isSome = o.state.isTerminal
  outcome : ∀ t ∈ o.terminalOutcome, t.state = o.state
  waiting : o.waitingOnMessageId.isSome = decide (o.state = .waiting)

instance (o : OperationSnapshot) : Decidable o.Readable :=
  decidable_of_iff' _ o.readable_iff

/-- `load_operation_in`. -/
def loadOperation (s : Store) (operationId : OperationId) :
    Except StoreError (Option OperationSnapshot) :=
  match s.operations.find? operationId with
  | none => .ok none
  | some row => if row.snapshot.Readable then .ok (some row.snapshot) else .error .corrupt

theorem loadOperation_ok_some {operationId : OperationId}
    (h : loadOperation s operationId = .ok (some o)) :
    ∃ row, s.operations.find? operationId = some row ∧ row.snapshot = o ∧ o.Readable := by
  unfold loadOperation at h
  split at h
  · cases h
  next row hrow =>
  split at h
  · cases h
    exact ⟨row, hrow, rfl, ‹_›⟩
  · cases h

/-- The operation a participant has not finished. -/
def Store.unfinishedOperation (s : Store) (sessionId : SessionId) (participantId : ParticipantId) :
    Option OperationId :=
  (s.operations.rows.find? fun r => r.snapshot.sessionId = sessionId ∧
    r.snapshot.participantId = participantId ∧ r.snapshot.terminalOutcome = none).map
    (·.snapshot.operationId)

/-! ### Starting -/

/-- The digest of an operation's input. -/
def inputDigest (env : Env) (input : List UInt8) : Digest :=
  env.semanticDigest "operation.input.v1" input

/-- `INSERT INTO operations`, with the index that allows a participant one operation
without an outcome. -/
def insertOperation (row : OperationRow) : Write Unit := do
  let s ← read id
  ensure (row.snapshot.terminalOutcome = none → ∀ r ∈ s.operations.rows,
    r.snapshot.participantId = row.snapshot.participantId →
    r.snapshot.terminalOutcome ≠ none) .unavailable
  let operations ← orAbort (s.operations.insert? row) .unavailable
  write fun s => { s with operations }

theorem insertOperation_done {row : OperationRow} {u : Unit}
    (h : insertOperation row s = .done u s') :
    ∃ operations, s.operations.insert? row = some operations ∧
      (row.snapshot.terminalOutcome = none → ∀ r ∈ s.operations,
        r.snapshot.participantId = row.snapshot.participantId →
        r.snapshot.terminalOutcome ≠ none) ∧
      s' = { s with operations } := by
  simp only [insertOperation, looks_done] at h
  obtain ⟨hunique, operations, hinsert, -, rfl⟩ := h
  exact ⟨operations, hinsert, hunique, rfl⟩

/-- The message that carries an operation's input to its participant. -/
def inputMessage (o : OperationSnapshot) (sequence : ℕ) (now : Timestamp) : MessageSnapshot :=
  newMessage o.sessionId o.inputMessageId o.participantId o.participantId
    ⟨some o.operationId, none⟩ ⟨.operationInput o.operationId o.inputDigest⟩ sequence now

/-- `commit_operation_start`. -/
def commitOperationStart (env : Env) (c : StartOperation) (o : OperationSnapshot)
    (observedAt : Timestamp) : Write Unit := do
  insertOperation ⟨o, c.input⟩
  let counter ← read (·.counterOf o.participantId)
  let message := inputMessage o counter.nextSequence observedAt
  ensure (counter.queuedBytes + env.envelopeSize message.envelope ≤ maxMailboxQueuedBytes ∧
    counter.queuedMessages + 1 ≤ maxMailboxQueuedMessages) .mailboxQuotaExceeded
  queueMessage env message
  appendEventData env c.context.requestId c.sessionId o.revision (.operation .queued)
    (operationEventPayload env o) observedAt
  appendMessageEvent env c.context.requestId message observedAt
  record env c.sessionId c .applied (.operation o)

/-- An operation as it is started. -/
def StartOperation.operation (env : Env) (c : StartOperation) (now : Timestamp) :
    OperationSnapshot where
  sessionId := c.sessionId
  operationId := c.operationId
  participantId := c.participantId
  startRequestId := c.context.requestId
  inputMessageId := c.inputMessageId
  waitingOnMessageId := none
  inputDigest := inputDigest env c.input
  state := .queued
  revision := .initial
  terminalOutcome := none
  createdAt := now
  updatedAt := now

/-- A replayed start reads the operation and its input message as they are now. -/
def replayStart (value : StoredValue) : Write OperationSnapshot := do
  let recorded ← orAbort value.operation? .corrupt
  let snapshot ← ofExcept (← read (loadOperation · recorded.operationId))
  let snapshot ← orAbort snapshot .corrupt
  ensure (snapshot.sessionId = recorded.sessionId ∧
    snapshot.participantId = recorded.participantId ∧
    snapshot.startRequestId = recorded.startRequestId ∧
    snapshot.inputMessageId = recorded.inputMessageId) .corrupt
  let message ← ofExcept (← read (loadMessage · snapshot.inputMessageId))
  let message ← orAbort message .corrupt
  ensure (message.sessionId = snapshot.sessionId ∧ message.source = snapshot.participantId ∧
    message.destination = snapshot.participantId ∧
    message.correlation = ⟨some snapshot.operationId, none⟩ ∧
    message.envelope = ⟨.operationInput snapshot.operationId snapshot.inputDigest⟩) .corrupt
  return snapshot

/-- The checks of `start_operation`, and the operation it makes. -/
def admitStart (env : Env) (observedAt : Timestamp) (c : StartOperation) :
    Call OperationSnapshot := do
  let invalid := (c.sessionId, StoreError.invalid)
  authorize c.sessionId c.context c.epoch .startOperation observedAt
  let now ← loadTimeFloor c.sessionId
  let participant ← ofExcept (← read (loadParticipant · c.participantId))
  let participant ← orRefuse participant invalid
  require (participant.sessionId = c.sessionId) invalid
  require ((← read (·.cancellationRequested c.participantId)) = false) invalid
  let template ← ofExcept (← read (loadTemplate env · participant.templateId))
  let template ← orAbort template .corrupt
  ensure (participant.templateCompatibility = template.compatibility) .corrupt
  require ((env.validateInput template c.input).isSome) invalid
  require (∀ r ∈ (← read Store.operations).rows, r.snapshot.participantId = c.participantId →
    r.snapshot.terminalOutcome ≠ none) invalid
  let existing ← ofExcept (← read (loadOperation · c.operationId))
  require (existing = none) invalid
  ensureDerivedCapacity env c.sessionId .queuedOperations 1
  require ((← read (·.messages.find? c.inputMessageId)) = none) invalid
  let counter ← read (·.counterOf c.participantId)
  let size := env.envelopeSize ⟨.operationInput c.operationId (inputDigest env c.input)⟩
  ensureDerivedCapacity env c.sessionId .messages 1
  ensureDerivedCapacity env c.sessionId .messageBytes size
  require (counter.queuedBytes + size ≤ maxMailboxQueuedBytes ∧
    counter.queuedMessages + 1 ≤ maxMailboxQueuedMessages)
    (c.sessionId, .mailboxQuotaExceeded)
  return c.operation env now

/-- `start_operation`. -/
def startOperation (env : Env) (observedAt : Timestamp) (c : StartOperation) :
    Call (Mutation OperationSnapshot) :=
  replayOr env c replayStart do
    let operation ← admitStart env observedAt c
    commit (commitOperationStart env c operation operation.createdAt)
    return .applied operation

/-! ### Transitions -/

/-- `next_operation_state`. -/
def nextOperationState : OperationState → OperationAction → Option OperationState
  | .queued, .beginStart => some .starting
  | .starting, .reportRunning | .waiting, .resume => some .running
  | .running, .wait => some .waiting
  | .queued, .requestCancel | .starting, .requestCancel | .running, .requestCancel
  | .waiting, .requestCancel => some .cancelling
  | .queued, .reportCancelled | .cancelling, .reportCancelled => some .cancelled
  | .queued, .reportFailure | .starting, .reportFailure | .running, .reportFailure
  | .waiting, .reportFailure | .cancelling, .reportFailure => some .failed
  | .running, .reportSuccess => some .succeeded
  | .running, .reportBlocked | .waiting, .reportBlocked => some .blocked
  | .starting, .reportUncertain | .running, .reportUncertain | .waiting, .reportUncertain
  | .cancelling, .reportUncertain => some .uncertain
  | _, _ => none

theorem nextOperationState_live (h : nextOperationState state action = some next) :
    state.isTerminal = false := by
  cases state <;> cases action <;> first | rfl | cases h

/-- An operation waits exactly when it is told to. -/
theorem nextOperationState_waiting (h : nextOperationState state action = some next) :
    next = .waiting ↔ action = .wait := by
  cases state <;> cases action <;> cases h <;> simp

def MessageDeliveryState.isAccepted : MessageDeliveryState → Bool
  | accepted .. => true
  | _ => false

/-- Whether a message proves a driver's report: accepted for this operation. -/
def provesReport (o : OperationSnapshot) (m : MessageSnapshot) : Bool :=
  m.sessionId = o.sessionId ∧ m.destination = o.participantId ∧
    m.correlation.operationId = some o.operationId ∧ m.state.isAccepted = true

/-- `valid_report_correlation`. -/
def validReportCorrelation (o : OperationSnapshot) (c : TransitionOperation) (s : Store) :
    Except StoreError Bool :=
  match c.action with
  | .wait => .ok (c.reportMessageId.isSome ∧ c.reportMessageId ≠ some o.inputMessageId ∧
      o.waitingOnMessageId = none)
  | .resume => .ok (o.waitingOnMessageId.isSome ∧ c.reportMessageId = o.waitingOnMessageId)
  | .reportRunning | .reportSuccess | .reportFailure | .reportCancelled | .reportBlocked
  | .reportUncertain =>
    match c.reportMessageId with
    | none => .ok ((c.action = .reportFailure ∨ c.action = .reportUncertain) ∧
        (o.state = .queued ∨ o.state = .starting))
    | some messageId => (loadMessage s messageId).map fun m => m.any (provesReport o)
  | .beginStart | .requestCancel | .observeIdle => .ok c.reportMessageId.isNone

/-- `valid_terminal_outcome`. -/
def validTerminalOutcome (state : OperationState) : Option OperationTerminalOutcome → Bool
  | some outcome => outcome.state = state
  | none => !state.isTerminal

/-- An operation after a transition. -/
def OperationSnapshot.transition (o : OperationSnapshot) (c : TransitionOperation)
    (next : OperationState) (revision : Revision) (observedAt : Timestamp) :
    OperationSnapshot :=
  { o with
    state := next
    waitingOnMessageId :=
      if c.action = .wait then c.reportMessageId
      else if next = .waiting then o.waitingOnMessageId else none
    revision
    updatedAt := max observedAt o.updatedAt
    terminalOutcome := c.terminalOutcome }

theorem validTerminalOutcome_iff {outcome : Option OperationTerminalOutcome}
    (h : validTerminalOutcome state outcome = true) :
    outcome.isSome = state.isTerminal ∧ ∀ t ∈ outcome, t.state = state := by
  obtain _ | t := outcome
  · exact ⟨by simpa [validTerminalOutcome] using h, fun _ h => (nomatch h)⟩
  have hstate : t.state = state := by simpa [validTerminalOutcome] using h
  subst hstate
  exact ⟨by cases t <;> rfl, fun _ h => by cases h; rfl⟩

/-- A transition that is accepted leaves an operation that reads back. -/
theorem OperationSnapshot.transition_readable {revision : Revision} (ho : o.Readable)
    (hcorrelation : validReportCorrelation o c s = .ok true)
    (hnext : nextOperationState o.state c.action = some next)
    (houtcome : validTerminalOutcome next c.terminalOutcome = true) :
    (o.transition c next revision t).Readable where
  times := ho.times.trans (le_max_right _ _)
  terminal := (validTerminalOutcome_iff houtcome).1
  outcome := (validTerminalOutcome_iff houtcome).2
  waiting := by
    have hwaiting := nextOperationState_waiting hnext
    simp only [transition]
    by_cases haction : c.action = .wait
    · have hreport : c.reportMessageId.isSome := by
        simp only [validReportCorrelation, haction, Except.ok.injEq, decide_eq_true_eq]
          at hcorrelation
        exact hcorrelation.1
      simp [haction, hwaiting.mpr haction, hreport]
    · have hne : next ≠ .waiting := fun h => haction (hwaiting.mp h)
      simp [haction, hne]

/-- `UPDATE operations … WHERE operation_id = ? AND revision = ?`. -/
def updateOperation (o : OperationSnapshot) (expectedRevision : Revision) : Write Unit := do
  ensure (o.revision.get < i64Bound ∧ expectedRevision.get < i64Bound) .corrupt
  let row ← orAbort ((← read Store.operations).find? o.operationId) .corrupt
  ensure (row.snapshot.revision = expectedRevision) .corrupt
  write fun s => { s with operations := s.operations.replace { row with snapshot := o } }

theorem updateOperation_done {expected : Revision} {u : Unit}
    (h : updateOperation o expected s = .done u s') :
    ∃ row, s.operations.find? o.operationId = some row ∧ row.snapshot.revision = expected ∧
      s' = { s with operations := s.operations.replace { row with snapshot := o } } := by
  simp only [updateOperation, looks_done] at h
  obtain ⟨-, row, hrow, hrevision, -, rfl⟩ := h
  exact ⟨row, hrow, hrevision, rfl⟩

/-! ### The end of an operation -/

/-- A message on its way to the operation's participant. -/
def MessageRow.isLiveFor (o : OperationSnapshot) (r : MessageRow) : Bool :=
  r.sessionId = o.sessionId ∧ r.snapshot.correlation.operationId = some o.operationId ∧
    r.destination = o.participantId ∧ r.snapshot.state.isTerminal = false

def Store.liveMessages (s : Store) (o : OperationSnapshot) : List MessageRow :=
  (s.messages.rows.filter (MessageRow.isLiveFor o)).insertionSort
    fun a b => a.mailboxSequence ≤ b.mailboxSequence

def retirementReason : BoundedText maxDeliveryReasonBytes :=
  ⟨"correlated operation became terminal", by decide⟩

/-- Where a message goes when its operation ends: what the driver may have accepted is
uncertain, the rest is dead. -/
def MessageDeliveryState.retired : MessageDeliveryState → Option MessageDeliveryState
  | acceptancePending lease | acceptanceUnknown lease =>
    some (uncertain lease.attemptId retirementReason)
  | queued | retryScheduled _ | leased _ => some (deadLetter retirementReason)
  | accepted .. | uncertain .. | deadLetter _ => none

/-- One round of `retire_correlated_messages`. -/
def retireMessage (env : Env) (requestId : RequestId) (o : OperationSnapshot)
    (observedAt : Timestamp) (r : MessageRow) : Write Unit := do
  let m ← ofExcept (decodeMessageRow r)
  ensure (m.destination = o.participantId) .corrupt
  let revision ← orAbort m.revision.next .corrupt
  let state ← orAbort m.state.retired .corrupt
  let m := { m with revision, updatedAt := max observedAt m.updatedAt, state }
  updateMessageSnapshot m
  decrementMailboxBytes env m
  appendMessageEvent env requestId m observedAt

/-- `retire_correlated_messages`. -/
def retireCorrelatedMessages (env : Env) (requestId : RequestId) (o : OperationSnapshot)
    (observedAt : Timestamp) : Write Unit := do
  each (retireMessage env requestId o observedAt) (← read (·.liveMessages o))

/-- `derived_store_message_id`. -/
def derivedStoreMessageId (env : Env) (requestId : RequestId) (domain : List UInt8) :
    Option MessageId :=
  Id.fromUuid (Env.uuidOfDigest
    (env.semanticDigest "message.identity.v1" (domain ++ requestId.bytes)))

/-- `public_terminal_outcome`. -/
def OperationTerminalOutcome.publicOutcome : OperationTerminalOutcome → PublicOperationOutcome
  | succeeded _ => .succeeded
  | failed .. => .failed
  | cancelled => .cancelled
  | blocked _ => .blocked
  | uncertain _ => .uncertain

/-- `policy_ceilings`. -/
def AuthorityPolicySnapshot.ceilings (p : AuthorityPolicySnapshot) : AuthorityCeilings :=
  ⟨p.session, p.parent, p.template, p.relationship, p.subject⟩

/-- Queue a message of the store's own; a message that does not fit, or is there
already, is left out. -/
def tryQueue (env : Env) (requestId : RequestId) (checked : Except StoreError MessageSnapshot) :
    Write Bool :=
  match checked with
  | .ok m => do
    queueHierarchyMessage env requestId m
    return true
  | .error .invalid | .error .mailboxQuotaExceeded | .error .messageOversize => return false
  | .error e => abort e

/-- The message by which a parent learns of an outcome. -/
def outcomeEnvelope (env : Env) (o : OperationSnapshot) (outcome : OperationTerminalOutcome) :
    ValidatedMessageEnvelope :=
  ⟨.operationOutcome o.operationId outcome.publicOutcome (terminalPublicDigest env outcome)⟩

/-- Tell the parent of the operation's participant. -/
def reportOutcome (env : Env) (c : TransitionOperation) (o : OperationSnapshot)
    (outcome : OperationTerminalOutcome) : Write Unit := do
  let participant ← ofExcept (← read (loadParticipant · o.participantId))
  let participant ← orAbort participant .corrupt
  match participant.parentParticipantId with
  | none => pure ()
  | some parentId => do
    let messageId ← orAbort (derivedStoreMessageId env c.context.requestId
      (Bytes.utf8 "navigator.operation.outcome.v1")) .corrupt
    let policy ← read (·.policies.find? o.participantId)
    let parentOperation ← read (·.unfinishedOperation c.sessionId parentId)
    let now ← loadTimeFloor c.sessionId
    let authorized := parentOperation.isSome && policy.any fun p =>
      (p.ceilings.authorizeEffect o.participantId c.sessionId
        ⟨⟨"message.outcome"⟩, .operation o.operationId⟩ none now).isSome
    let delivered ←
      if authorized then do
        tryQueue env c.context.requestId (← read (hierarchyMessage env c.sessionId messageId
          o.participantId parentId ⟨parentOperation, none⟩ (outcomeEnvelope env o outcome)
          o.updatedAt))
      else pure false
    appendAuthorityEvent env c.sessionId c.context
      (if delivered then .authorityAllowed else .authorityDenied) o.participantId o.updatedAt

/-- The writes of `transition_operation`. -/
def commitTransition (env : Env) (c : TransitionOperation) (o : OperationSnapshot)
    (observedAt : Timestamp) : Write Unit := do
  updateOperation o c.expectedRevision
  match o.terminalOutcome with
  | some outcome => do
    retireCorrelatedMessages env c.context.requestId o observedAt
    reportOutcome env c o outcome
  | none => pure ()
  appendEventData env c.context.requestId c.sessionId o.revision (.operation o.state)
    (operationEventPayload env o) observedAt
  record env c.sessionId c .applied (.operation o)

/-- The checks of `transition_operation`, and the operation after it. -/
def decideTransition (env : Env) (observedAt : Timestamp) (c : TransitionOperation) :
    Call OperationSnapshot := do
  let invalid := (c.sessionId, StoreError.invalid)
  authorize c.sessionId c.context c.epoch .transitionOperation observedAt
  let current ← ofExcept (← read (loadOperation · c.operationId))
  let current ← orRefuse current invalid
  require (current.sessionId = c.sessionId ∧ current.revision = c.expectedRevision) invalid
  let correlated ← ofExcept (← read (validReportCorrelation current c))
  require (correlated = true) invalid
  let next ← orRefuse (nextOperationState current.state c.action) invalid
  require (validTerminalOutcome next c.terminalOutcome = true) invalid
  if current.state = .queued ∧ next.isTerminal = false ∧ next ≠ .queued then
    ensureDerivedCapacity env c.sessionId .activeOperations 1
  ensureDerivedCapacity env c.sessionId .retainedEvents 1
  let revision ← orAbort current.revision.next .corrupt
  return current.transition c next revision observedAt

/-- A transition that is accepted. -/
structure OperationSnapshot.Decided (o o' : OperationSnapshot) (c : TransitionOperation)
    (t : Timestamp) : Prop where
  readable : o.Readable
  session : o.sessionId = c.sessionId
  expected : o.revision = c.expectedRevision
  next : ∃ next revision, nextOperationState o.state c.action = some next ∧
    o.revision.next = some revision ∧ o' = o.transition c next revision t
  readable' : o'.Readable

theorem decideTransition_done {env : Env} {o' : OperationSnapshot}
    (h : decideTransition env t c s = .done o' s') :
    ∃ r row, s.Authorized c.sessionId c.context.caller c.epoch t r ∧
      s' = s.withFloor c.sessionId (max r.timeFloor t) ∧
      s.operations.find? c.operationId = some row ∧ row.snapshot.Decided o' c t := by
  obtain ⟨r, hr, h⟩ := authorize_bind_done h
  simp only [looks_done] at h
  obtain ⟨_, hload, o, rfl, ⟨hsession, hexpected⟩, _, hcorrelation, rfl, next, hnext,
    houtcome, h⟩ := h
  obtain ⟨row, hrow, rfl, hreadable⟩ := loadOperation_ok_some hload
  obtain ⟨revision, hrevision, rfl, rfl⟩ : ∃ revision, row.snapshot.revision.next = some revision ∧
      row.snapshot.transition c next revision t = o' ∧
      s.withFloor c.sessionId (max r.timeFloor t) = s' := by
    split at h <;>
      simp only [ensureDerivedCapacity_bind_done, looks_done] at h
    · obtain ⟨-, -, h⟩ := h
      exact h
    · obtain ⟨-, h⟩ := h
      exact h
  exact ⟨r, row, hr, rfl, hrow, hreadable, hsession, hexpected,
    ⟨next, revision, hnext, hrevision, rfl⟩,
    OperationSnapshot.transition_readable hreadable hcorrelation hnext houtcome⟩

/-- `transition_operation`. -/
def transitionOperation (env : Env) (observedAt : Timestamp) (c : TransitionOperation) :
    Call (Mutation OperationSnapshot) :=
  replayOr env c (fun value => orAbort value.operation? .corrupt) do
    let updated ← decideTransition env observedAt c
    commit (commitTransition env c updated observedAt)
    return .applied updated

end Navigator
