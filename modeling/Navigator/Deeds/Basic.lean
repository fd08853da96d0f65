/-
Deeds.

Every call changes the store by a sequence of deeds: it raises a time floor, it
queues a message, it moves one along, it advances an operation, and so on.  A `Deed`
says what is changed and what the store has checked before it changes it; that the
calls are made of deeds is proved, call by call, in the modules that follow, and what
holds of every run is then proved deed by deed.

* **`Deed`** — the deeds;
* **`Path`** — sequences of deeds;
* **`Path.keeps`** — what every deed of a path keeps, the path keeps.
-/
import Navigator.Deeds.Tree

namespace Navigator

/-! ### What changes beside the point -/

/-- A grant after it has been used up or revoked. -/
structure GrantSnapshot.Precedes (g g' : GrantSnapshot) : Prop where
  same : g'.grant = { g.grant with revoked := g'.grant.revoked }
  singleUse : g'.singleUse = g.singleUse
  revoked : g.grant.revoked = true → g'.grant.revoked = true
  consumed : ∀ t, g.consumedAt = some t → g'.consumedAt = some t

theorem GrantSnapshot.Precedes.refl (g : GrantSnapshot) : g.Precedes g :=
  ⟨rfl, rfl, id, fun _ h => h⟩

theorem GrantSnapshot.Precedes.trans {g1 g2 g3 : GrantSnapshot} (h1 : g1.Precedes g2)
    (h2 : g2.Precedes g3) : g1.Precedes g3 where
  same := by rw [h2.same, h1.same]
  singleUse := h2.singleUse.trans h1.singleUse
  revoked h := h2.revoked (h1.revoked h)
  consumed t h := h2.consumed t (h1.consumed t h)

/-- Changes to the tables that the invariants are not about.  Of these, templates and
policies only grow, events are appended, and grants are used up. -/
structure Aside (env : Env) (s s' : Store) : Prop where
  sessions : s'.sessions = s.sessions
  manifest : s'.manifest = s.manifest
  participants : s'.participants = s.participants
  launches : s'.launches = s.launches
  operations : s'.operations = s.operations
  counters : s'.counters = s.counters
  messages : s'.messages = s.messages
  journal : s'.journal = s.journal
  quotas : s'.quotas = s.quotas
  artifacts : s'.artifacts = s.artifacts
  templates : s.templates.Grows s'.templates
  policies : s.policies.Grows s'.policies
  templatePolicies : s.templatePolicies.Grows s'.templatePolicies
  ledger : s'.ledger = s.ledger
  approvalEffects : s'.approvalEffects = s.approvalEffects
  approvalMutations : s'.approvalMutations = s.approvalMutations
  recoveries : s'.recoveries = s.recoveries
  grants : s.grants.Evolves GrantSnapshot.Precedes s'.grants
  events : Log.Extends s.events s'.events
  counted : env.eventQuota.Holds s.events → env.eventQuota.Holds s'.events

variable {s s' : Store} {env : Env} {m' : MessageSnapshot}

section Aside

theorem Aside.refl (env : Env) (s : Store) : Aside env s s :=
  ⟨rfl, rfl, rfl, rfl, rfl, rfl, rfl, rfl, rfl, rfl, .refl _, .refl _, .refl _, rfl, rfl, rfl, rfl,
    .of_eq GrantSnapshot.Precedes.refl rfl, .refl, id⟩

theorem Aside.trans {s1 s2 s3 : Store} (h1 : Aside env s1 s2) (h2 : Aside env s2 s3) :
    Aside env s1 s3 where
  sessions := h2.sessions.trans h1.sessions
  manifest := h2.manifest.trans h1.manifest
  participants := h2.participants.trans h1.participants
  launches := h2.launches.trans h1.launches
  operations := h2.operations.trans h1.operations
  counters := h2.counters.trans h1.counters
  messages := h2.messages.trans h1.messages
  journal := h2.journal.trans h1.journal
  quotas := h2.quotas.trans h1.quotas
  artifacts := h2.artifacts.trans h1.artifacts
  templates := h1.templates.trans h2.templates
  policies := h1.policies.trans h2.policies
  templatePolicies := h1.templatePolicies.trans h2.templatePolicies
  ledger := h2.ledger.trans h1.ledger
  approvalEffects := h2.approvalEffects.trans h1.approvalEffects
  approvalMutations := h2.approvalMutations.trans h1.approvalMutations
  recoveries := h2.recoveries.trans h1.recoveries
  grants := h1.grants.trans GrantSnapshot.Precedes.trans h2.grants
  events := h1.events.trans h2.events
  counted := h2.counted ∘ h1.counted

/-- The tables of which `Aside` says something. -/
def Store.core (s : Store) :=
  (s.sessions, s.manifest, s.participants, s.launches, s.operations, s.counters, s.messages,
    s.journal, s.quotas, s.artifacts, s.templates, s.policies, s.templatePolicies, s.ledger,
    s.approvalEffects, s.approvalMutations, s.recoveries, s.grants, s.events)

/-- A change of none of them. -/
theorem Aside.of_core (h : s'.core = s.core) : Aside env s s' := by
  simp only [Store.core, Prod.mk.injEq] at h
  obtain ⟨h1, h2, h3, h4, h5, h6, h7, hj, hq, ha, h8, h9, h10, hl, he, hm, hr, hg, hv⟩ := h
  exact ⟨h1, h2, h3, h4, h5, h6, h7, hj, hq, ha, h8 ▸ .refl _, h9 ▸ .refl _, h10 ▸ .refl _, hl,
    he, hm, hr, .of_eq GrantSnapshot.Precedes.refl hg, hv ▸ .refl, fun h => hv ▸ h⟩

/-- An event is appended. -/
theorem Aside.append {e : EventRow} (h : Log.Admits env.eventQuota s.events e) :
    Aside env s { s with events := e :: s.events } :=
  { Aside.refl env s with events := .append h.toNext, counted := h.holds }

instance : IsTrans Store (Aside env) := ⟨fun _ _ _ => Aside.trans⟩
instance : Std.Refl (Aside env) := ⟨Aside.refl env⟩

end Aside

/-! ### Deliveries -/

/-- The ways a delivery goes on. -/
inductive Move where
  /-- A new attempt, under a new lease. -/
  | attempt
  /-- A stalled acceptance, under a new lease. -/
  | relet
  /-- The driver is asked to accept. -/
  | ask
  /-- The driver's answer is unknown. -/
  | doubt
  /-- Another attempt, later. -/
  | retry
deriving DecidableEq

/-- What stays of a message whatever becomes of its delivery. -/
structure MessageIdentity where
  sessionId : SessionId
  messageId : MessageId
  source : ParticipantId
  destination : ParticipantId
  mailboxSequence : ℕ
  priority : MessagePriority
  correlation : MessageCorrelation
  envelope : ValidatedMessageEnvelope
  createdAt : Timestamp

def MessageSnapshot.identity (m : MessageSnapshot) : MessageIdentity :=
  ⟨m.sessionId, m.messageId, m.source, m.destination, m.mailboxSequence, m.priority,
    m.correlation, m.envelope, m.createdAt⟩

/-- A message before and after it has moved. -/
structure MessageSnapshot.Touched (m m' : MessageSnapshot) : Prop where
  same : m'.identity = m.identity
  revised : m.revision.next = some m'.revision

namespace MessageSnapshot.Touched

variable {m m' : MessageSnapshot} (h : m.Touched m')
include h

theorem messageId : m'.messageId = m.messageId := congrArg MessageIdentity.messageId h.same

theorem destination : m'.destination = m.destination :=
  congrArg MessageIdentity.destination h.same

theorem envelope : m'.envelope = m.envelope := congrArg MessageIdentity.envelope h.same

end MessageSnapshot.Touched

/-- How a delivery goes on at the time `now`. -/
inductive Moves (now : Timestamp) : Move → MessageSnapshot → MessageSnapshot → Prop
  | attempt {m m' : MessageSnapshot} (lease : DeliveryLease) (due : m.isDue now = true)
      (few : m.attemptCount < maxDeliveryAttempts) (state : m'.state = .leased lease)
      (inForce : now < lease.expiresAt) (counted : m'.attemptCount = m.attemptCount + 1) :
      Moves now .attempt m m'
  | relet {m m' : MessageSnapshot} (lease lease' : DeliveryLease)
      (stalled : m.state.acceptanceLease? = some lease) (ended : lease.expiresAt ≤ now)
      (state : m'.state.acceptanceLease? = some lease') (inForce : now < lease'.expiresAt)
      (counted : m'.attemptCount = m.attemptCount) : Moves now .relet m m'
  | ask {m m' : MessageSnapshot} (lease : DeliveryLease) (leased : m.state = .leased lease)
      (inForce : now < lease.expiresAt) (state : m'.state = .acceptancePending lease)
      (counted : m'.attemptCount = m.attemptCount) : Moves now .ask m m'
  | doubt {m m' : MessageSnapshot} (lease : DeliveryLease)
      (pending : m.state = .acceptancePending lease) (state : m'.state = .acceptanceUnknown lease)
      (counted : m'.attemptCount = m.attemptCount) : Moves now .doubt m m'
  | retry {m m' : MessageSnapshot} (lease : DeliveryLease) (notBefore : Timestamp)
      (asked : m.state.acceptanceLease? = some lease)
      (state : m'.state = .retryScheduled notBefore) (later : now ≤ notBefore)
      (counted : m'.attemptCount = m.attemptCount) : Moves now .retry m m'

/-- How a delivery ends.  That the driver accepted it, or may have, is said only of a
message it was asked to accept. -/
structure Finishes (m m' : MessageSnapshot) : Prop where
  ended : m'.state.isTerminal = true
  counted : m'.attemptCount = m.attemptCount
  accepted : ∀ a d t, m'.state = .accepted a d t →
    t = m'.updatedAt ∧ m.state.acceptanceLease?.isSome = true
  uncertain : ∀ a r, m'.state = .uncertain a r → m.state.acceptanceLease?.isSome = true

/-- A message may be attempted: of the unfinished messages of its mailbox it is the first,
and none is being delivered. -/
def Store.Clear (s : Store) (r : MessageRow) (now : Timestamp) : Prop :=
  ∀ r' ∈ s.messages, r'.sessionId = r.sessionId → r'.destination = r.destination →
    r'.snapshot.state.isTerminal = false →
    r.before r' ∧ r'.snapshot.activeLease now = false ∧ r'.snapshot.state.acceptanceLease? = none

/-! ### Operations -/

/-- What stays of an operation whatever becomes of it. -/
structure OperationIdentity where
  sessionId : SessionId
  operationId : OperationId
  participantId : ParticipantId
  startRequestId : RequestId
  inputMessageId : MessageId
  inputDigest : Digest
  createdAt : Timestamp

def OperationSnapshot.identity (o : OperationSnapshot) : OperationIdentity :=
  ⟨o.sessionId, o.operationId, o.participantId, o.startRequestId, o.inputMessageId,
    o.inputDigest, o.createdAt⟩

/-- An operation before and after it has advanced. -/
structure OperationSnapshot.Advances (o o' : OperationSnapshot) : Prop where
  same : o'.identity = o.identity
  live : o.state.isTerminal = false
  revised : o.revision.next = some o'.revision
  later : o.updatedAt ≤ o'.updatedAt
  readable : o'.Readable

namespace OperationSnapshot.Advances

variable {o o' : OperationSnapshot} (h : o.Advances o')
include h

theorem operationId : o'.operationId = o.operationId :=
  congrArg OperationIdentity.operationId h.same

theorem participantId : o'.participantId = o.participantId :=
  congrArg OperationIdentity.participantId h.same

theorem sessionId : o'.sessionId = o.sessionId :=
  congrArg OperationIdentity.sessionId h.same

end OperationSnapshot.Advances

/-! ### Deeds -/

/-- What is done to sessions: one is opened, time is seen to pass, and the owner of one
comes, stays or leaves. -/
inductive SessionDeed : Store → Store → Prop
  | opened {s : Store} {r : SessionRecord} {sessions : Table SessionRecord}
      {manifest : Table ManifestRow} {new : List ManifestRow}
      (inserted : s.sessions.insert? r = some sessions) (kept : r.Kept)
      (rows : manifest.rows = new ++ s.manifest.rows)
      (own : ∀ row ∈ new, row.sessionId = r.sessionId)
      (alone : ∀ r' ∈ s.sessions, r'.closed = false → r'.publicConsumerKey ≠ r.publicConsumerKey) :
      SessionDeed s { s with sessions, manifest }
  | floor {s : Store} {sessions : Table SessionRecord} (raised : ∀ k, ∃ t, sessions.find? k =
        (s.sessions.find? k).map fun r => { r with timeFloor := max r.timeFloor t }) :
      SessionDeed s { s with sessions }
  | occupied {s : Store} {k : SessionId} {r : SessionRecord} (host : HostId) (expiresAt : Timestamp)
      (epoch : FencingEpoch) (revision : Revision)
      (found : s.sessions.find? k = some r) (revised : revision ≠ .initial)
      (later : expiresAt.before.isSome = true)
      (free : ∀ held ∈ r.owner, held.2 ≤ r.timeFloor)
      (next : epoch.get = r.epochHighWater + 1)
      (fits : revision.get < i64Bound ∧ epoch.get < i64Bound) :
      SessionDeed s { s with
        sessions := s.sessions.modify k
          (·.occupy host expiresAt epoch revision r.timeFloor) (fun _ => rfl) }
  | extended {s : Store} {k : SessionId} {r : SessionRecord} (host : HostId)
      (epoch : FencingEpoch) (expiresAt : Timestamp) (found : s.sessions.find? k = some r)
      (later : expiresAt.before.isSome = true) (held : r.HeldUntil host epoch r.timeFloor) :
      SessionDeed s { s with
        sessions := s.sessions.modify k (·.extend expiresAt) (fun _ => rfl) }
  | vacated {s : Store} {k : SessionId} {r : SessionRecord} (revision : Revision)
      (closed : SessionRecord → Bool) (found : s.sessions.find? k = some r)
      (revised : revision ≠ .initial) (fits : revision.get < i64Bound)
      (shut : ∀ r', r'.closed = true → closed r' = true) :
      SessionDeed s { s with
        sessions := s.sessions.modify k
          (fun r' => r'.vacate revision r.timeFloor (closed r')) (fun _ => rfl) }

/-- What is done to participants: one joins, and some are told to stop. -/
inductive PeopleDeed : Store → Store → Prop
  | joined {s : Store} {p : ParticipantSnapshot} {participants : Table ParticipantRow}
      (inserted : s.participants.insert? ⟨p, false⟩ = some participants) (admitted : s.Receives p) :
      PeopleDeed s { s with participants }
  | flagged {s : Store} (ids : List ParticipantId)
      (closed : ∀ r ∈ s.participants, ∀ q ∈ ids, r.snapshot.parentParticipantId = some q →
        r.snapshot.participantId ∈ ids) :
      PeopleDeed s { s with
        participants := s.participants.rewrite (ParticipantRow.flagged ids)
          fun r => congrArg ParticipantSnapshot.participantId (r.flagged_snapshot ids) }

/-- What is done to launches: one is prepared, for a participant that is not told to stop,
and one goes on. -/
inductive LaunchDeed : Store → Store → Prop
  | prepared {s : Store} {l : LaunchSnapshot} {launches : Table LaunchSnapshot}
      (inserted : s.launches.insert? l = some launches)
      (active : s.cancellationRequested l.participantId = false) :
      LaunchDeed s { s with launches }
  | changed {s : Store} {l l' : LaunchSnapshot} (found : s.launches.find? l'.attemptId = some l)
      (session : l'.sessionId = l.sessionId) (participant : l'.participantId = l.participantId) :
      LaunchDeed s { s with launches := s.launches.replace l' }

/-- What a deed is, and to what it is done. -/
inductive Label where
  | aside
  | session
  | people
  | launch
  | journal
  | resources
  | recorded (row : LedgerRow)
  | filed (requestId : RequestId) (table : RequestTable)
  | began (o : OperationSnapshot)
  | advanced (o o' : OperationSnapshot)
  | queued (m : MessageSnapshot)
  | moved (k : Move) (m m' : MessageSnapshot)
  | finished (m m' : MessageSnapshot)

/-- What is done to operations. -/
inductive OperationDeed : Label → Store → Store → Prop
  | began {s : Store} {row : OperationRow} {operations : Table OperationRow} {now : Timestamp}
      (inserted : s.operations.insert? row = some operations)
      (alone : ∀ r ∈ s.operations, r.snapshot.participantId = row.snapshot.participantId →
        r.snapshot.terminalOutcome ≠ none)
      (queued : row.snapshot.state = .queued) (readable : row.snapshot.Readable)
      (session : s.participantSession row.snapshot.participantId = some row.snapshot.sessionId)
      (active : s.cancellationRequested row.snapshot.participantId = false)
      (floor : s.floorOf row.snapshot.sessionId = some now) (time : row.snapshot.updatedAt ≤ now) :
      OperationDeed (.began row.snapshot) s { s with operations }
  | advanced {s : Store} {row : OperationRow} {o' : OperationSnapshot} {now : Timestamp}
      (found : s.operations.find? row.snapshot.operationId = some row)
      (advances : row.snapshot.Advances o')
      (floor : s.floorOf row.snapshot.sessionId = some now)
      (time : row.snapshot.updatedAt ≤ now → o'.updatedAt ≤ now) :
      OperationDeed (.advanced row.snapshot o') s
        { s with operations := s.operations.replace { row with snapshot := o' } }

/-- What is done to messages and the counters of their mailboxes. -/
inductive MessageDeed (env : Env) : Label → Store → Store → Prop
  | queued {s : Store} {m : MessageSnapshot} {messages : Table MessageRow} {now : Timestamp}
      (inserted : s.messages.insert? (.ofSnapshot m) = some messages)
      (sequence : m.mailboxSequence = (s.counterOf m.destination).nextSequence)
      (fits : (s.counterOf m.destination).nextSequence + 1 < i64Bound)
      (new : m = newMessage m.sessionId m.messageId m.source m.destination m.correlation
        m.envelope m.mailboxSequence m.createdAt)
      (session : s.participantSession m.destination = some m.sessionId)
      (floor : s.floorOf m.sessionId = some now) (time : m.createdAt ≤ now) :
      MessageDeed env (.queued m) s { s with
        messages
        counters := s.counters.upsert
          ((s.counterOf m.destination).advance (env.envelopeSize m.envelope)) }
  | moved {s : Store} {r : MessageRow} {k : Move} {m' : MessageSnapshot} {now : Timestamp}
      (found : s.messages.find? r.messageId = some r) (readable : r.Readable)
      (touched : r.snapshot.Touched m') (moves : Moves now k r.snapshot m')
      (clear : k = .attempt → s.Clear r now)
      (floor : s.floorOf r.sessionId = some now) (time : m'.updatedAt = now) :
      MessageDeed env (.moved k r.snapshot m') s
        { s with messages := s.messages.replace { r with snapshot := m' } }
  | finished {s : Store} {r : MessageRow} {m' : MessageSnapshot} {counter : MailboxCounter}
      {now : Timestamp}
      (found : s.messages.find? r.messageId = some r) (readable : r.Readable)
      (live : r.snapshot.state.isTerminal = false)
      (touched : r.snapshot.Touched m') (finishes : Finishes r.snapshot m')
      (counted : s.counters.find? r.destination = some counter)
      (floor : s.floorOf r.sessionId = some now)
      (later : r.snapshot.updatedAt ≤ now → r.snapshot.updatedAt ≤ m'.updatedAt)
      (time : r.snapshot.updatedAt ≤ now → m'.updatedAt ≤ now) :
      MessageDeed env (.finished r.snapshot m') s { s with
        messages := s.messages.replace { r with snapshot := m' }
        counters := s.counters.replace (counter.recede (env.envelopeSize r.snapshot.envelope)) }

/-- What is done to the tables of approvals and recoveries: nothing is entered but one
request in one of them. -/
structure Filed (q : RequestId) (table : RequestTable) (s s' : Store) : Prop where
  frame : s' = { s with
    approvalEffects := s'.approvalEffects
    approvalMutations := s'.approvalMutations
    recoveries := s'.recoveries }
  effects : ∀ k, (k, .approvalEffectIntents) ≠ (q, table) →
    (s'.approvalEffects.find? k).isSome = (s.approvalEffects.find? k).isSome
  mutations : ∀ k, (k, .approvalMutations) ≠ (q, table) →
    s'.approvalMutations.find? k = s.approvalMutations.find? k
  recovered : ∀ k, (k, .recoveryClassifications) ≠ (q, table) →
    s'.recoveries.find? k = s.recoveries.find? k

/-- A change of the store. -/
inductive Deed (env : Env) : Label → Store → Store → Prop
  | aside {s s' : Store} (h : Aside env s s') : Deed env .aside s s'
  | session {s s' : Store} (h : SessionDeed s s') : Deed env .session s s'
  | people {s s' : Store} (h : PeopleDeed s s') : Deed env .people s s'
  | launch {s s' : Store} (h : LaunchDeed s s') : Deed env .launch s s'
  /-- A change of the tables of effects and tools; what changes are made to them is the
  subject of the modules about them. -/
  | journal {s : Store} (journal : Journal) : Deed env .journal s { s with journal }
  /-- A change of the tables of artifacts and of what is set aside. -/
  | resources {s : Store} (quotas : Quotas) (artifacts : Table ArtifactSnapshot) :
      Deed env .resources s { s with quotas, artifacts }
  /-- A request is recorded in the ledger. -/
  | recorded {s : Store} {row : LedgerRow} {ledger : Table LedgerRow}
      (inserted : s.ledger.insert? row = some ledger) : Deed env (.recorded row) s { s with ledger }
  | filed {s s' : Store} {q : RequestId} {table : RequestTable} (h : Filed q table s s') :
      Deed env (.filed q table) s s'
  | operation {l : Label} {s s' : Store} (h : OperationDeed l s s') : Deed env l s s'
  | message {l : Label} {s s' : Store} (h : MessageDeed env l s s') : Deed env l s s'

/-! Each kind of deed leaves the other tables alone. -/

theorem SessionDeed.frame (h : SessionDeed s s') :
    ∃ sessions manifest, s' = { s with sessions, manifest } := by
  cases h <;> exact ⟨_, _, rfl⟩

theorem PeopleDeed.frame (h : PeopleDeed s s') : ∃ participants, s' = { s with participants } := by
  cases h <;> exact ⟨_, rfl⟩

theorem LaunchDeed.frame (h : LaunchDeed s s') : ∃ launches, s' = { s with launches } := by
  cases h <;> exact ⟨_, rfl⟩

variable {l : Label}

theorem OperationDeed.frame (h : OperationDeed l s s') :
    ∃ operations, s' = { s with operations } := by
  cases h <;> exact ⟨_, rfl⟩

theorem MessageDeed.frame (h : MessageDeed env l s s') :
    ∃ messages counters, s' = { s with messages, counters } := by
  cases h <;> exact ⟨_, _, rfl⟩

/-- What a deed changes: the tables of its kind, and no others. -/
structure Deed.Frame (env : Env) (l : Label) (s s' : Store) : Prop where
  messages : MessageDeed env l s s' ∨ s'.messages = s.messages ∧ s'.counters = s.counters
  operations : OperationDeed l s s' ∨ s'.operations = s.operations
  launches : l = .launch ∨ s'.launches = s.launches
  journal : l = .journal ∨ s'.journal = s.journal
  stock : l = .resources ∨ s'.quotas = s.quotas ∧ s'.artifacts = s.artifacts
  ledger : (∃ row, l = .recorded row ∧ s.ledger.insert? row = some s'.ledger) ∨ s'.ledger = s.ledger
  filed : (∃ q table, l = .filed q table ∧ Filed q table s s') ∨
    s'.approvalEffects = s.approvalEffects ∧ s'.approvalMutations = s.approvalMutations ∧
      s'.recoveries = s.recoveries

theorem Deed.frame (h : Deed env l s s') : Deed.Frame env l s s' := by
  cases h with
  | aside h =>
    exact ⟨.inr ⟨h.messages, h.counters⟩, .inr h.operations, .inr h.launches, .inr h.journal,
      .inr ⟨h.quotas, h.artifacts⟩, .inr h.ledger,
      .inr ⟨h.approvalEffects, h.approvalMutations, h.recoveries⟩⟩
  | session h =>
    obtain ⟨_, _, rfl⟩ := h.frame
    constructor <;> simp
  | people h =>
    obtain ⟨_, rfl⟩ := h.frame
    constructor <;> simp
  | launch h =>
    obtain ⟨_, rfl⟩ := h.frame
    constructor <;> simp
  | journal | resources => constructor <;> simp
  | recorded inserted => constructor <;> simp [inserted]
  | filed h =>
    refine ⟨.inr ?_, .inr ?_, .inr ?_, .inr ?_, .inr ?_, .inr ?_, .inl ⟨_, _, rfl, h⟩⟩ <;>
      rw [h.frame] <;> simp
  | operation h =>
    obtain ⟨_, rfl⟩ := h.frame
    constructor <;> simp [h]
  | message h =>
    obtain ⟨_, _, rfl⟩ := h.frame
    constructor <;> simp [h]

/-- The tables that record requests. -/
def Store.requests (s : Store) :=
  (s.ledger, s.approvalEffects, s.approvalMutations, s.recoveries, s.journal)

theorem MessageDeed.terminal {m : MessageSnapshot} (h : MessageDeed env (.finished m m') s s') :
    m'.state.isTerminal = true := by
  cases h with
  | finished _ _ _ _ finishes => exact finishes.ended

/-! What is in a table after a row of it has changed. -/

theorem Store.mem_messages_replace {r x : MessageRow}
    (found : s.messages.find? r.messageId = some r) :
    x ∈ s.messages.replace { r with snapshot := m' } ↔
      x = { r with snapshot := m' } ∨ x ∈ s.messages ∧ x.messageId ≠ r.messageId :=
  Table.mem_replace (r := { r with snapshot := m' }) found

theorem Store.mem_operations_replace {row x : OperationRow} {o' : OperationSnapshot}
    (found : s.operations.find? row.snapshot.operationId = some row)
    (hid : o'.operationId = row.snapshot.operationId) :
    x ∈ s.operations.replace { row with snapshot := o' } ↔
      x = { row with snapshot := o' } ∨
        x ∈ s.operations ∧ x.snapshot.operationId ≠ row.snapshot.operationId := by
  rw [← hid] at found ⊢
  exact Table.mem_replace (r := { row with snapshot := o' }) found

/-! ### Paths -/

/-- A sequence of deeds, each as `P` says of the store it is done to. -/
def Path (env : Env) (P : Store → Label → Prop) : Store → Store → Prop :=
  Relation.ReflTransGen fun s s' => ∃ l, P s l ∧ Deed env l s s'

namespace Path

variable {env : Env} {P Q : Store → Label → Prop} {s s1 s2 s3 : Store}

theorem refl : Path env P s s := Relation.ReflTransGen.refl

theorem single (hl : P s l) (h : Deed env l s s1) : Path env P s s1 :=
  Relation.ReflTransGen.single ⟨l, hl, h⟩

theorem trans (h1 : Path env P s1 s2) (h2 : Path env P s2 s3) : Path env P s1 s3 :=
  Relation.ReflTransGen.trans h1 h2

instance : IsTrans Store (Path env P) := ⟨fun _ _ _ => trans⟩
instance : Std.Refl (Path env P) := ⟨fun _ => refl⟩

theorem mono (hPQ : ∀ s l, P s l → Q s l) (h : Path env P s1 s2) : Path env Q s1 s2 :=
  Relation.ReflTransGen.mono (fun _ _ ⟨l, hl, h⟩ => ⟨l, hPQ _ l hl, h⟩) _ _ h

/-- **The rule of invariants**: what every deed of the path keeps, the path keeps. -/
theorem keeps {I : Store → Prop} (step : ∀ s s' l, P s l → Deed env l s s' → I s → I s')
    (h : Path env P s1 s2) (h0 : I s1) : I s2 := by
  induction h with
  | refl => exact h0
  | tail _ hl ih =>
    obtain ⟨l, hl, hd⟩ := hl
    exact step _ _ l hl hd ih

/-- The rule for preorders on stores. -/
theorem within {R : Store → Store → Prop} (hrefl : ∀ s, R s s)
    (htrans : ∀ {s1 s2 s3}, R s1 s2 → R s2 s3 → R s1 s3)
    (step : ∀ s s' l, P s l → Deed env l s s' → R s s')
    (h : Path env P s1 s2) : R s1 s2 :=
  h.keeps (fun _ _ l hl hd ih => htrans ih (step _ _ l hl hd)) (hrefl s1)

end Path

end Navigator
