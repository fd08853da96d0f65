/-
Mailboxes.

A host that owns the session delivers the messages of a mailbox one at a time:
`leaseNextMessage` picks the message (`selectDelivery`), `transitionMessageDelivery`
records how the delivery went.
-/
import Navigator.Store.Operations

namespace Navigator

open Txn Tx

/-! ### Enqueueing -/

/-- The part the bodies without a reply have in common: the correlation names the
operation and nothing else, and the operation is of the session and as `p` says. -/
def EnqueueMessage.isAbout (c : EnqueueMessage) (s : Store) (operationId : OperationId)
    (p : OperationSnapshot → Bool) : Except StoreError Bool := do
  let operation ← loadOperation s operationId
  return c.correlation = ⟨some operationId, none⟩ &&
    operation.any fun o => o.sessionId = c.sessionId && p o

/-- A reply: its operation is the source's, and it answers a message that went the
other way. -/
def EnqueueMessage.isReply (c : EnqueueMessage) (s : Store) (operationId : OperationId)
    (inReplyTo : MessageId) : Except StoreError Bool := do
  if c.correlation = ⟨some operationId, some inReplyTo⟩ ∧ inReplyTo ≠ c.messageId then
    let operation ← loadOperation s operationId
    if operation.any fun o => o.sessionId = c.sessionId && o.participantId = c.source then
      let reply ← loadMessage s inReplyTo
      return reply.any fun m => m.sessionId = c.sessionId && m.source = c.destination &&
        m.destination = c.source
    else return false
  else return false

/-- Whether the body of a message fits its correlation and the operation it names. -/
def EnqueueMessage.bodyAccepted (env : Env) (c : EnqueueMessage) (s : Store) :
    Except StoreError Bool :=
  match c.envelope.body with
  | .operationInput operationId digest =>
    c.isAbout s operationId fun o => o.participantId = c.destination &&
      o.inputMessageId = c.messageId && o.inputDigest = digest
  | .control operationId _ => c.isAbout s operationId fun o => o.participantId = c.destination
  | .question operationId _ =>
    c.isAbout s operationId fun o => o.participantId = c.source && o.state = .waiting &&
      o.waitingOnMessageId = some c.messageId
  | .operationOutcome operationId _ digest =>
    c.isAbout s operationId fun o => o.participantId = c.source && o.state.isTerminal &&
      o.terminalOutcome.any fun t => terminalPublicDigest env t = digest
  | .correlatedFeedback operationId inReplyTo _ => c.isReply s operationId inReplyTo
  | .approvalDecision .. => .ok false

/-- The session of a participant. -/
def Store.participantSession (s : Store) (participantId : ParticipantId) : Option SessionId :=
  (s.participants.find? participantId).map (·.snapshot.sessionId)

/-- The checks of `enqueue_message`, and the message it queues. -/
def admitMessage (env : Env) (observedAt : Timestamp) (c : EnqueueMessage) :
    Call MessageSnapshot := do
  let invalid := (c.sessionId, StoreError.invalid)
  authorize c.sessionId c.context c.epoch .enqueueMessage observedAt
  let now ← loadTimeFloor c.sessionId
  ensureDerivedCapacity env c.sessionId .messages 1
  ensureDerivedCapacity env c.sessionId .messageBytes (env.envelopeSize c.envelope)
  require ((← read (·.participantSession c.source)) = some c.sessionId ∧
    (← read (·.participantSession c.destination)) = some c.sessionId) invalid
  let accepted ← ofExcept (← read (c.bodyAccepted env))
  require (accepted = true) invalid
  require ((← read (·.messages.find? c.messageId)) = none) invalid
  let counter ← read (·.counterOf c.destination)
  require (counter.queuedBytes + env.envelopeSize c.envelope ≤ maxMailboxQueuedBytes ∧
    counter.queuedMessages + 1 ≤ maxMailboxQueuedMessages)
    (c.sessionId, .mailboxQuotaExceeded)
  return newMessage c.sessionId c.messageId c.source c.destination c.correlation c.envelope
    counter.nextSequence now

/-- What is written for a message that is enqueued. -/
def commitEnqueue (env : Env) (c : EnqueueMessage) (m : MessageSnapshot)
    (observedAt : Timestamp) : Write Unit := do
  queueMessage env m
  appendMessageEvent env c.context.requestId m observedAt
  record env c.sessionId c .applied (.message (some m))

/-- A recorded message: `null` is not one. -/
def replayMessage (value : StoredValue) : Write MessageSnapshot := do
  orAbort (← orAbort value.optionalMessage? .corrupt) .corrupt

/-- `enqueue_message`. -/
def enqueueMessage (env : Env) (observedAt : Timestamp) (c : EnqueueMessage) :
    Call (Mutation MessageSnapshot) :=
  replayOr env c replayMessage do
    let message ← admitMessage env observedAt c
    commit (commitEnqueue env c message observedAt)
    return .applied message

/-! ### Selecting a delivery -/

/-- The driver was asked to accept the message, under a lease that has run out. -/
def MessageSnapshot.expiredAcceptance (m : MessageSnapshot) (now : Timestamp) : Bool :=
  m.state.acceptanceLease?.any fun lease => lease.expiresAt ≤ now

/-- The message is being delivered under a lease in force. -/
def MessageSnapshot.activeLease (m : MessageSnapshot) (now : Timestamp) : Bool :=
  m.state.lease?.any fun lease => now < lease.expiresAt

/-- The message can be delivered, if it is its turn. -/
def MessageSnapshot.isDue (m : MessageSnapshot) (now : Timestamp) : Bool :=
  match m.state with
  | .queued => true
  | .retryScheduled notBefore => notBefore ≤ now
  | .leased lease => lease.expiresAt ≤ now
  | _ => false

/-- The first unfinished control message, or else the first unfinished ordinary one. -/
def mailboxHead (messages : List MessageSnapshot) : Option MessageSnapshot :=
  (messages.find? fun m => m.priority = .control && !m.state.isTerminal) <|>
    messages.find? fun m => m.priority = .ordinary && !m.state.isTerminal

variable {rows : List MessageRow}

/-- The head of a mailbox is its first unfinished message. -/
theorem mailboxHead_sorted (hsorted : rows.Pairwise MessageRow.before)
    (hpriority : ∀ r ∈ rows, r.priority = r.snapshot.priority) :
    mailboxHead (rows.map MessageRow.snapshot) =
      ((rows.filter fun r => !r.snapshot.state.isTerminal).head?).map MessageRow.snapshot := by
  -- both sides only look at the unfinished messages
  have hfind : ∀ p : MessagePriority, ((rows.map MessageRow.snapshot).find? fun m =>
      m.priority = p && !m.state.isTerminal) =
      ((rows.filter fun r => !r.snapshot.state.isTerminal).find? fun r =>
        r.snapshot.priority = p).map MessageRow.snapshot := by
    intro p
    rw [List.find?_map, List.find?_filter]
    congr 2
    funext r
    simp [Bool.and_comm]
  have hlive : (rows.filter fun r => !r.snapshot.state.isTerminal).Pairwise MessageRow.before :=
    hsorted.filter _
  have hrank : ∀ r ∈ rows.filter fun r => !r.snapshot.state.isTerminal,
      r.priority = r.snapshot.priority := fun r hr => hpriority r (List.mem_of_mem_filter hr)
  rw [mailboxHead, hfind, hfind]
  generalize rows.filter (fun r => !r.snapshot.state.isTerminal) = live at hlive hrank
  obtain _ | ⟨x, xs⟩ := live
  · rfl
  obtain ⟨hx, -⟩ := List.pairwise_cons.mp hlive
  rcases hp : x.snapshot.priority with _ | _
  · simp [hp]
  -- nothing after an ordinary message is a control message
  have hnone : xs.find? (fun r => r.snapshot.priority = MessagePriority.control) = none := by
    refine List.find?_eq_none.mpr fun y hy => ?_
    have hbefore := hx y hy
    have hxr := hrank x List.mem_cons_self
    have hyr := hrank y (List.mem_cons_of_mem _ hy)
    unfold MessageRow.before at hbefore
    rw [hxr, hyr, hp] at hbefore
    cases hy : y.snapshot.priority <;> simp [hy, MessagePriority.rank] at hbefore ⊢
  simp [hp, hnone]

/-- The message `lease_next_message` takes up: a stalled acceptance before anything
else, nothing while a lease is in force, and otherwise the head if it is due. -/
def selectDelivery (now : Timestamp) (messages : List MessageSnapshot) :
    Option MessageSnapshot :=
  match messages.find? (·.expiredAcceptance now) with
  | some m => some m
  | none =>
    if messages.any (·.activeLease now) then none
    else (mailboxHead messages).filter (·.isDue now)

/-- What is known of the message that is taken up. -/
theorem selectDelivery_some {now : Timestamp} {m : MessageSnapshot}
    (hsorted : rows.Pairwise MessageRow.before)
    (hpriority : ∀ r ∈ rows, r.priority = r.snapshot.priority)
    (h : selectDelivery now (rows.map MessageRow.snapshot) = some m) :
    ∃ r ∈ rows, r.snapshot = m ∧ (m.expiredAcceptance now = true ∨
      m.isDue now = true ∧ ∀ r' ∈ rows, r'.snapshot.expiredAcceptance now = false ∧
        r'.snapshot.activeLease now = false ∧
        (r'.snapshot.state.isTerminal = false → r.before r')) := by
  unfold selectDelivery at h
  split at h
  · next m' hfind =>
    cases h
    obtain ⟨r, hr, rfl⟩ := List.mem_map.mp (List.mem_of_find?_eq_some hfind)
    have hexpired := List.find?_some hfind
    exact ⟨r, hr, rfl, .inl hexpired⟩
  · next hfind =>
    split at h
    · cases h
    next hactive =>
    rw [mailboxHead_sorted hsorted hpriority] at h
    obtain ⟨hhead, hdue⟩ := Option.filter_eq_some_iff.mp h
    obtain ⟨r, hr, rfl⟩ := Option.map_eq_some_iff.mp hhead
    have hlive : (rows.filter fun r => !r.snapshot.state.isTerminal).Pairwise
        MessageRow.before := hsorted.filter _
    refine ⟨r, List.mem_of_mem_filter (List.mem_of_head? hr), rfl,
      .inr ⟨hdue, fun r' hr' => ⟨?_, ?_, fun hterminal => ?_⟩⟩⟩
    · simpa using List.find?_eq_none.mp hfind _ (List.mem_map_of_mem hr')
    · simp only [List.any_eq_true, List.mem_map, not_exists, not_and] at hactive
      simpa using hactive _ ⟨r', hr', rfl⟩
    -- the head comes before every unfinished message
    have hmem : r' ∈ rows.filter fun r => !r.snapshot.state.isTerminal :=
      List.mem_filter.mpr ⟨hr', by simp [hterminal]⟩
    generalize rows.filter (fun r => !r.snapshot.state.isTerminal) = live at hr hlive hmem
    obtain _ | ⟨x, xs⟩ := live
    · cases hmem
    cases hr
    rcases List.mem_cons.mp hmem with rfl | hmem
    · exact r'.before_refl
    · exact (List.pairwise_cons.mp hlive).1 r' hmem

/-! ### Leasing -/

/-- A stalled acceptance under a new lease: the delivery attempt and the driver it
went to stay what they were. -/
def MessageDeliveryState.relet (caller : HostId) (epoch : FencingEpoch) (expiresAt : Timestamp) :
    MessageDeliveryState → Option MessageDeliveryState
  | acceptancePending lease =>
    some (acceptancePending { lease with owner := caller, ownershipEpoch := epoch, expiresAt })
  | acceptanceUnknown lease =>
    some (acceptanceUnknown { lease with owner := caller, ownershipEpoch := epoch, expiresAt })
  | _ => none

def exhaustionReason : BoundedText maxDeliveryReasonBytes :=
  ⟨"delivery attempt limit exhausted", by decide⟩

/-- The lease of a new delivery attempt. -/
def LeaseNextMessage.lease (c : LeaseNextMessage) (expiresAt : Timestamp) : DeliveryLease where
  attemptId := c.proposedAttemptId
  owner := c.context.caller
  ownershipEpoch := c.epoch
  driverOwnershipEpoch := c.epoch
  driverLaunchAttemptId := c.driverLaunchAttemptId
  instanceId := c.instanceId
  expiresAt

/-- The selected message after the lease. -/
def LeaseNextMessage.leased (c : LeaseNextMessage) (m : MessageSnapshot) (revision : Revision)
    (now expiresAt : Timestamp) : MessageSnapshot :=
  match m.state.relet c.context.caller c.epoch expiresAt with
  | some state => { m with state, revision, updatedAt := now }
  | none =>
    if maxDeliveryAttempts ≤ m.attemptCount then
      { m with state := .deadLetter exhaustionReason, revision, updatedAt := now }
    else
      { m with
        attemptCount := m.attemptCount + 1
        state := .leased (c.lease expiresAt)
        revision
        updatedAt := now }

/-- Whether the driver instance a delivery would go to is ready. -/
def LeaseNextMessage.instanceReady (c : LeaseNextMessage) (s : Store) : Bool :=
  (s.launches.find? c.driverLaunchAttemptId).any fun l => l.sessionId = c.sessionId ∧
    l.ownershipEpoch = some c.epoch ∧ l.participantId = c.destination ∧
    l.instanceId = some c.instanceId ∧ l.state = .ready

/-- What is written for a message that has moved. -/
def commitDelivery {χ : Type} [MutableRequest χ] (env : Env) (sessionId : SessionId) (c : χ)
    (m : MessageSnapshot) (observedAt : Timestamp) : Write Unit := do
  updateMessageSnapshot m
  if m.state.isTerminal then decrementMailboxBytes env m
  appendMessageEvent env (MutableRequest.context c).requestId m observedAt
  record env sessionId c .applied (.message (some m))

/-- The message `lease_next_message` takes up, under its new lease. -/
def selectLease (env : Env) (observedAt : Timestamp) (c : LeaseNextMessage) :
    Call (Option MessageSnapshot) := do
  let duration ← orRefuse (LeaseDuration.fromMillis c.leaseDuration.asMillis)
    (c.sessionId, .leaseTooLong)
  authorize c.sessionId c.context c.epoch .leaseNextMessage observedAt
  let now ← loadTimeFloor c.sessionId
  let expiresAt ← acceptOr (c.sessionId, ·) (expiry env now duration)
  let messages ← ofExcept (decodeMessageRows (← read (·.mailbox c.sessionId c.destination)))
  match selectDelivery now messages with
  | none => return none
  | some m =>
    require (m.state.acceptanceLease? = none → (← read c.instanceReady) = true)
      (c.sessionId, .invalid)
    let revision ← orAbort m.revision.next .corrupt
    return some (c.leased m revision now expiresAt)

/-- `lease_next_message`. -/
def leaseNextMessage (env : Env) (observedAt : Timestamp) (c : LeaseNextMessage) :
    Call (Mutation (Option MessageSnapshot)) :=
  replayOr env c (fun value => orAbort value.optionalMessage? .corrupt) do
    match ← selectLease env observedAt c with
    | none =>
      commit (record env c.sessionId c .applied (.message none))
      return .applied none
    | some leased =>
      commit (commitDelivery env c.sessionId c leased observedAt)
      return .applied (some leased)

/-! ### Delivering -/

/-- When a retry may be made. -/
def DeliveryTransition.retryNotBefore (env : Env) (now : Timestamp) :
    DeliveryTransition → Except StoreError (Option Timestamp)
  | retryAfter delay =>
    match LeaseDuration.fromMillis delay.asMillis with
    | none => .error .leaseTooLong
    | some duration => (expiry env now duration).map some
  | _ => .ok none

/-- The lease under which a host may report on a delivery.  Its expiry counts only
until the driver has been asked to accept. -/
def TransitionMessageDelivery.heldLease (c : TransitionMessageDelivery) (now : Timestamp) :
    MessageDeliveryState → Option DeliveryLease
  | .leased lease =>
    if lease.attemptId = c.attemptId ∧ lease.owner = c.context.caller ∧
        lease.ownershipEpoch = c.epoch ∧ now < lease.expiresAt then some lease else none
  | .acceptancePending lease | .acceptanceUnknown lease =>
    if lease.attemptId = c.attemptId ∧ lease.owner = c.context.caller ∧
        lease.ownershipEpoch = c.epoch then some lease else none
  | _ => none

/-- The state a delivery goes to; `notBefore` is there whenever the transition is a
retry. -/
def DeliveryTransition.next (lease : DeliveryLease) (attemptId : DeliveryAttemptId)
    (now : Timestamp) (notBefore : Option Timestamp) :
    DeliveryTransition → MessageDeliveryState → Option MessageDeliveryState
  | acceptancePending, .leased _ => some (.acceptancePending lease)
  | acceptanceUnknown, .acceptancePending _ => some (.acceptanceUnknown lease)
  | retryAfter _, .acceptancePending _ | retryAfter _, .acceptanceUnknown _ =>
    notBefore.map .retryScheduled
  | accepted digest, .acceptancePending _ | accepted digest, .acceptanceUnknown _ =>
    some (.accepted attemptId digest now)
  | uncertain reason, .acceptancePending _ | uncertain reason, .acceptanceUnknown _ =>
    some (.uncertain attemptId reason)
  | deadLetter reason, _ => some (.deadLetter reason)
  | _, _ => none

/-- The operation an accepted reply is for, and what it replies to. -/
def MessageSnapshot.acceptedReply (m : MessageSnapshot) : Option (OperationId × MessageId) :=
  match m.state, m.envelope.body with
  | .accepted .., .correlatedFeedback operationId inReplyTo _ => some (operationId, inReplyTo)
  | _, _ => none

/-- An accepted reply wakes the operation that waits for it. -/
def resumeWaiting (env : Env) (c : TransitionMessageDelivery) (m : MessageSnapshot)
    (now observedAt : Timestamp) : Write Unit :=
  match m.acceptedReply with
  | some (operationId, inReplyTo) => do
    let o ← ofExcept (← read (loadOperation · operationId))
    let o ← orAbort o .corrupt
    if o.sessionId = c.sessionId ∧ o.participantId = m.destination ∧ o.state = .waiting ∧
        o.waitingOnMessageId = some inReplyTo then do
      let revision ← orAbort o.revision.next .corrupt
      let resumed := { o with
        state := .running
        waitingOnMessageId := none
        revision
        updatedAt := max now o.updatedAt }
      updateOperation resumed o.revision
      appendEventData env c.context.requestId c.sessionId revision .operationResumed
        (operationEventPayload env resumed) observedAt
    else pure ()
  | none => pure ()

/-- The writes of `transition_message_delivery`. -/
def commitDeliveryTransition (env : Env) (c : TransitionMessageDelivery) (m : MessageSnapshot)
    (now observedAt : Timestamp) : Write Unit := do
  updateMessageSnapshot m
  appendMessageEvent env c.context.requestId m observedAt
  resumeWaiting env c m now observedAt
  if m.state.isTerminal then decrementMailboxBytes env m
  record env c.sessionId c .applied (.message (some m))

/-- The checks of `transition_message_delivery`, and the message after it. -/
def decideDelivery (env : Env) (observedAt : Timestamp) (c : TransitionMessageDelivery) :
    Call MessageSnapshot := do
  let invalid := (c.sessionId, StoreError.invalid)
  authorize c.sessionId c.context c.epoch .transitionMessageDelivery observedAt
  let now ← loadTimeFloor c.sessionId
  let notBefore ← acceptOr (c.sessionId, ·) (c.transition.retryNotBefore env now)
  let m ← ofExcept (← read (loadMessage · c.messageId))
  let m ← orRefuse m (c.sessionId, .messageNotFound c.messageId)
  require (m.sessionId = c.sessionId ∧ m.revision = c.expectedRevision ∧
    m.state.isTerminal = false) invalid
  let lease ← orRefuse (c.heldLease now m.state) invalid
  if notBefore.isSome then ensureDerivedCapacity env c.sessionId .retries 1
  ensureDerivedCapacity env c.sessionId .retainedEvents 1
  let state ← orRefuse (c.transition.next lease c.attemptId now notBefore m.state) invalid
  let revision ← orAbort m.revision.next .corrupt
  return { m with state, revision, updatedAt := now }

/-- `transition_message_delivery`. -/
def transitionMessageDelivery (env : Env) (observedAt : Timestamp)
    (c : TransitionMessageDelivery) : Call (Mutation MessageSnapshot) :=
  replayOr env c replayMessage do
    let moved ← decideDelivery env observedAt c
    commit (commitDeliveryTransition env c moved moved.updatedAt observedAt)
    return .applied moved

/-! ### Finding work -/

/-- `load_mailbox`. -/
def loadMailbox (s : Store) (destination : ParticipantId) :
    Except StoreError (List MessageSnapshot) :=
  decodeMessageRows ((s.messages.rows.filter fun r => r.destination = destination).insertionSort
    fun a b => a.mailboxSequence ≤ b.mailboxSequence)

/-- An item of `load_due_session_delivery_work`: what a host has to deliver. -/
structure SessionDeliveryWork where
  message : MessageSnapshot
  operation : OperationSnapshot
deriving DecidableEq

end Navigator
