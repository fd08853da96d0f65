/-
The message table.

Messages are inserted together with the counter of their destination
(`queueMessage`), read back through a decoder that refuses a row it could not have
written (`decodeMessageRow`), and taken off the counter when they are finished
(`decrementMailboxBytes`).  `hierarchyMessage` and `queueHierarchyMessage` are the insertion the
store makes on its own account: outcomes, questions, replies and cancellations.

* **`Store.mailbox_sorted`** — a mailbox is read in its order.
-/
import Navigator.Store.Participants

namespace Navigator

open Txn Tx

variable {m : MessageSnapshot} {s : Store}
variable {r : MessageRow} {rows : List MessageRow} {s' : Store} {u : Unit} {env : Env}
variable {messageId : MessageId} {sessionId : SessionId} {destination : ParticipantId}

def maxMailboxQueuedBytes : ℕ := 4 * 1024 * 1024
def maxMailboxQueuedMessages : ℕ := 4096
def maxMailboxReservedOutcomes : ℕ := 64
def maxMailboxReservedOutcomeBytes : ℕ := 64 * 1024

/-! ### Reading -/

/-- What a row must satisfy to be read back: its columns repeat the snapshot, and the
snapshot is valid. -/
@[mk_iff] structure MessageRow.Readable (r : MessageRow) : Prop where
  messageId : r.messageId = r.snapshot.messageId
  sessionId : r.sessionId = r.snapshot.sessionId
  source : r.source = r.snapshot.source
  destination : r.destination = r.snapshot.destination
  sequence : r.mailboxSequence = r.snapshot.mailboxSequence
  sequenceFits : r.snapshot.mailboxSequence < i64Bound
  priority : r.priority = r.snapshot.priority
  valid : r.snapshot.IsStructurallyValid

instance (r : MessageRow) : Decidable r.Readable :=
  decidable_of_iff' _ r.readable_iff

/-- `decode_message_row`. -/
def decodeMessageRow (r : MessageRow) : Except StoreError MessageSnapshot :=
  if r.Readable then .ok r.snapshot else .error .corrupt

theorem decodeMessageRow_ok (h : decodeMessageRow r = .ok m) :
    r.Readable ∧ r.snapshot = m := by
  unfold decodeMessageRow at h
  split at h
  · exact ⟨‹_›, by simpa using h⟩
  · cases h

/-- `load_message_in`. -/
def loadMessage (s : Store) (messageId : MessageId) :
    Except StoreError (Option MessageSnapshot) :=
  match s.messages.find? messageId with
  | none => .ok none
  | some r => (decodeMessageRow r).map some

theorem loadMessage_ok_some (h : loadMessage s messageId = .ok (some m)) :
    ∃ r, s.messages.find? messageId = some r ∧ r.Readable ∧ r.snapshot = m := by
  unfold loadMessage at h
  split at h
  · cases h
  · next r hr =>
    obtain ⟨_, hm, ⟨⟩⟩ := result_map_ok.mp h
    exact ⟨r, hr, decodeMessageRow_ok hm⟩

/-- Every row of a list decoded, or `Corrupt` for all. -/
def decodeMessageRows : List MessageRow → Except StoreError (List MessageSnapshot)
  | [] => .ok []
  | r :: rs => do
    let m ← decodeMessageRow r
    return m :: (← decodeMessageRows rs)

theorem decodeMessageRows_ok {messages : List MessageSnapshot}
    (h : decodeMessageRows rows = .ok messages) :
    messages = rows.map MessageRow.snapshot ∧ ∀ r ∈ rows, r.Readable := by
  induction rows generalizing messages with
  | nil =>
    cases h
    exact ⟨rfl, fun _ h => (nomatch h)⟩
  | cons r rows ih =>
    simp only [decodeMessageRows, result_bind_ok, result_pure_ok] at h
    obtain ⟨m, hm, ms, hms, rfl⟩ := h
    obtain ⟨hread, rfl⟩ := decodeMessageRow_ok hm
    obtain ⟨rfl, hrows⟩ := ih hms
    exact ⟨rfl, List.forall_mem_cons.mpr ⟨hread, hrows⟩⟩

theorem decodeMessageRow_of_readable (h : r.Readable) :
    decodeMessageRow r = .ok r.snapshot :=
  if_pos h

theorem decodeMessageRows_of_readable (h : ∀ r ∈ rows, r.Readable) :
    decodeMessageRows rows = .ok (rows.map MessageRow.snapshot) := by
  induction rows with
  | nil => rfl
  | cons r rows ih =>
    obtain ⟨hr, hrows⟩ := List.forall_mem_cons.mp h
    simp only [decodeMessageRows, decodeMessageRow_of_readable hr, ih hrows]
    rfl

/-- The order of a mailbox: control messages first, then by sequence. -/
def MessageRow.before (a b : MessageRow) : Prop :=
  a.priority.rank < b.priority.rank ∨
    a.priority.rank = b.priority.rank ∧ a.mailboxSequence ≤ b.mailboxSequence

instance : DecidableRel MessageRow.before := fun _ _ => inferInstanceAs (Decidable (_ ∨ _ ∧ _))

/-- The messages a session holds for a destination, in the order of the mailbox. -/
def Store.mailbox (s : Store) (sessionId : SessionId) (destination : ParticipantId) :
    List MessageRow :=
  (s.messages.rows.filter fun r =>
    r.sessionId = sessionId ∧ r.destination = destination).insertionSort MessageRow.before

theorem MessageRow.before_refl (a : MessageRow) : a.before a := .inr ⟨rfl, le_rfl⟩

instance : Std.Total MessageRow.before :=
  ⟨fun a b => by unfold MessageRow.before; omega⟩

instance : IsTrans MessageRow MessageRow.before :=
  ⟨fun a b c => by unfold MessageRow.before; omega⟩

theorem Store.mem_mailbox :
    r ∈ s.mailbox sessionId destination ↔
      r ∈ s.messages ∧ r.sessionId = sessionId ∧ r.destination = destination := by
  simp [Store.mailbox, Table.mem_def]

theorem Store.mailbox_sorted (s : Store) (sessionId : SessionId) (destination : ParticipantId) :
    (s.mailbox sessionId destination).Pairwise MessageRow.before :=
  List.pairwise_insertionSort _ _

/-! ### Writing -/

/-- The counter of a destination, which starts at sequence one. -/
def Store.counterOf (s : Store) (destination : ParticipantId) : MailboxCounter :=
  (s.counters.find? destination).getD ⟨destination, 1, 0, 0⟩

/-- A message as a row: its key columns repeat it. -/
def MessageRow.ofSnapshot (m : MessageSnapshot) : MessageRow :=
  ⟨m.messageId, m.sessionId, m.source, m.destination, m.mailboxSequence, m.priority, m⟩

/-- `INSERT INTO messages`, with the constraint that a sequence is used once. -/
def insertMessageRow (m : MessageSnapshot) : Write Unit := do
  let s ← read id
  ensure (∀ r ∈ s.messages.rows, r.destination = m.destination →
    r.mailboxSequence ≠ m.mailboxSequence) .unavailable
  let messages ← orAbort (s.messages.insert? (.ofSnapshot m)) .unavailable
  write fun s => { s with messages }

theorem insertMessageRow_done (h : insertMessageRow m s = .done u s') :
    ∃ messages, s.messages.insert? (.ofSnapshot m) = some messages ∧
      s' = { s with messages } := by
  simp only [insertMessageRow, looks_done] at h
  obtain ⟨-, messages, hm, -, rfl⟩ := h
  exact ⟨messages, hm, rfl⟩

/-- The counter after one more message of `size` bytes. -/
def MailboxCounter.advance (c : MailboxCounter) (size : ℕ) : MailboxCounter :=
  { c with
    nextSequence := c.nextSequence + 1
    queuedBytes := c.queuedBytes + size
    queuedMessages := c.queuedMessages + 1 }

/-- The insertion of a message and the update of its destination's counter. -/
def queueMessage (env : Env) (m : MessageSnapshot) : Write Unit := do
  let counter ← read (·.counterOf m.destination)
  insertMessageRow m
  ensure (counter.nextSequence + 1 < i64Bound) .corrupt
  write fun s => { s with
    counters := s.counters.upsert (counter.advance (env.envelopeSize m.envelope)) }

theorem queueMessage_done (h : queueMessage env m s = .done u s') :
    ∃ messages, s.messages.insert? (.ofSnapshot m) = some messages ∧
      (s.counterOf m.destination).nextSequence + 1 < i64Bound ∧
      s' = { s with
        messages
        counters := s.counters.upsert
          ((s.counterOf m.destination).advance (env.envelopeSize m.envelope)) } := by
  simp only [queueMessage, looks_done] at h
  obtain ⟨_, s1, hinsert, h⟩ := bind_done.mp h
  obtain ⟨messages, hm, rfl⟩ := insertMessageRow_done hinsert
  simp only [looks_done] at h
  obtain ⟨hfits, -, rfl⟩ := h
  exact ⟨messages, hm, hfits, rfl⟩

/-- `update_message_snapshot`. -/
def updateMessageSnapshot (m : MessageSnapshot) : Write Unit := do
  let r ← orAbort ((← read Store.messages).find? m.messageId) .corrupt
  write fun s => { s with messages := s.messages.replace { r with snapshot := m } }

theorem updateMessageSnapshot_done (h : updateMessageSnapshot m s = .done u s') :
    ∃ r, s.messages.find? m.messageId = some r ∧
      s' = { s with messages := s.messages.replace { r with snapshot := m } } := by
  simp only [updateMessageSnapshot, looks_done] at h
  obtain ⟨r, hr, -, rfl⟩ := h
  exact ⟨r, hr, rfl⟩

/-- The counter after a message of `size` bytes is finished. -/
def MailboxCounter.recede (c : MailboxCounter) (size : ℕ) : MailboxCounter :=
  { c with
    queuedBytes := c.queuedBytes - size
    queuedMessages := c.queuedMessages - 1 }

/-- `decrement_mailbox_bytes`. -/
def decrementMailboxBytes (env : Env) (m : MessageSnapshot) : Write Unit := do
  let counter ← orAbort ((← read Store.counters).find? m.destination) .corrupt
  let size := env.envelopeSize m.envelope
  ensure (size ≤ counter.queuedBytes ∧ 0 < counter.queuedMessages) .corrupt
  write fun s => { s with counters := s.counters.replace (counter.recede size) }

theorem decrementMailboxBytes_done :
    decrementMailboxBytes env m s = .done u s' ↔
    ∃ counter, s.counters.find? m.destination = some counter ∧
      env.envelopeSize m.envelope ≤ counter.queuedBytes ∧ 0 < counter.queuedMessages ∧
      { s with
        counters := s.counters.replace (counter.recede (env.envelopeSize m.envelope)) } = s' := by
  simp only [decrementMailboxBytes, looks_done, and_assoc]

/-! ### The store's own messages -/

/-- A message as it is queued, before it has a sequence. -/
def newMessage (sessionId : SessionId) (messageId : MessageId)
    (source destination : ParticipantId) (correlation : MessageCorrelation)
    (envelope : ValidatedMessageEnvelope) (sequence : ℕ) (now : Timestamp) :
    MessageSnapshot where
  sessionId
  messageId
  source
  destination
  mailboxSequence := sequence
  priority := priorityFor envelope.kind
  correlation
  envelope
  attemptCount := 0
  state := .queued
  revision := .initial
  createdAt := now
  updatedAt := now

/-- The checks of `insert_hierarchy_message`, which come before it writes anything. -/
def hierarchyMessage (env : Env) (sessionId : SessionId) (messageId : MessageId)
    (source destination : ParticipantId) (correlation : MessageCorrelation)
    (envelope : ValidatedMessageEnvelope) (now : Timestamp) (s : Store) :
    Except StoreError MessageSnapshot := do
  match ← loadMessage s messageId with
  | some _ => .error .invalid
  | none =>
    let counter := s.counterOf destination
    -- An outcome may use a reserve that other messages may not.
    let reserved := envelope.kind = .operationOutcome
    let byteLimit :=
      maxMailboxQueuedBytes + if reserved then maxMailboxReservedOutcomeBytes else 0
    let messageLimit :=
      maxMailboxQueuedMessages + if reserved then maxMailboxReservedOutcomes else 0
    if byteLimit < counter.queuedBytes + env.envelopeSize envelope ∨
        messageLimit < counter.queuedMessages + 1 then
      .error .mailboxQuotaExceeded
    else
      .ok (newMessage sessionId messageId source destination correlation envelope
        counter.nextSequence now)

theorem hierarchyMessage_ok {source : ParticipantId} {correlation : MessageCorrelation}
    {envelope : ValidatedMessageEnvelope} {now : Timestamp}
    (h : hierarchyMessage env sessionId messageId source destination correlation envelope now s =
      .ok m) :
    m = newMessage sessionId messageId source destination correlation envelope
      (s.counterOf destination).nextSequence now := by
  simp only [hierarchyMessage, result_bind_ok] at h
  obtain ⟨existing, -, h⟩ := h
  cases existing with
  | some _ => cases h
  | none =>
    obtain ⟨-, h⟩ | ⟨-, h⟩ := ite_eq_iff.mp h
    · cases h
    · cases h
      rfl

/-- What `insert_hierarchy_message` writes. -/
def queueHierarchyMessage (env : Env) (requestId : RequestId) (m : MessageSnapshot) :
    Write Unit := do
  queueMessage env m
  appendMessageEvent env requestId m m.createdAt

end Navigator
