/-
Cancelling one operation.

`cancelSubtree` goes through the operations of a subtree.  One that was never handed to a
driver is ended; one that was is marked, and its driver is told; one that is finished or
marked already is left alone.

* **`cancelOperation_iff`** — the rounds of the loop are these three;
* **`cancelNotice_done`**, **`cancelNotice_of_room`** — what it takes to tell a driver.
-/
import Navigator.Hierarchy

namespace Navigator

open Txn Tx

variable {env : Env} {s s' : Store}
variable {sessionId : SessionId} {k : OperationId} {row : OperationRow} {o : OperationSnapshot}
  {c : CancelSubtree} {now : Timestamp}
variable {m : MessageSnapshot} {messageId : MessageId}

/-! ### Three fates -/

/-- What a cancellation does to an operation. -/
inductive Fate where
  /-- Nothing. -/
  | left
  /-- It ends, without its driver. -/
  | ended
  /-- It is marked, and its driver is told. -/
  | told
deriving DecidableEq

def Store.fate (s : Store) (sessionId : SessionId) (k : OperationId) : Fate :=
  match s.operations.find? k with
  | none => .left
  | some row =>
    if row.snapshot.state.isTerminal = false ∧ row.snapshot.state ≠ .cancelling then
      if s.endsWithoutDriver sessionId row.snapshot then .ended else .told
    else .left

/-- How many operations of a list meet a fate. -/
def Store.fated (s : Store) (sessionId : SessionId) (fate : Fate) (ks : List OperationId) : ℕ :=
  ks.countP fun k => s.fate sessionId k = fate

theorem Store.fated_append (s : Store) (sessionId : SessionId) (fate : Fate)
    (ks : List OperationId) (k : OperationId) :
    s.fated sessionId fate (ks ++ [k]) =
      s.fated sessionId fate ks + if s.fate sessionId k = fate then 1 else 0 := by
  simp [Store.fated, List.countP_append, List.countP_cons]

/-- Fates depend on the operation and on the launches. -/
theorem Store.fate_congr (hoperation : s'.operations.find? k = s.operations.find? k)
    (hlaunches : s'.launches = s.launches) : s'.fate sessionId k = s.fate sessionId k := by
  have hends : ∀ o, s'.endsWithoutDriver sessionId o = s.endsWithoutDriver sessionId o := by
    intro o
    unfold Store.endsWithoutDriver
    rw [hlaunches]
  simp only [Store.fate, hoperation, hends]

theorem Store.fate_of_found (hrow : s.operations.find? k = some row) :
    s.fate sessionId k =
      if row.snapshot.state.isTerminal = false ∧ row.snapshot.state ≠ .cancelling then
        if s.endsWithoutDriver sessionId row.snapshot then .ended else .told
      else .left := by
  rw [Store.fate, hrow]

/-- An operation that is left alone is finished or marked. -/
theorem Store.settled_of_left (hrow : s.operations.find? k = some row)
    (hfate : s.fate sessionId k = .left) :
    row.snapshot.state.isTerminal = true ∨ row.snapshot.state = .cancelling := by
  rw [Store.fate_of_found hrow] at hfate
  by_contra hlive
  push Not at hlive
  rw [if_pos ⟨by simpa using hlive.1, hlive.2⟩] at hfate
  split at hfate <;> cases hfate

/-! ### One round -/

/-- The store after an operation is rewritten. -/
def Store.withOperation (s : Store) (row : OperationRow) (o : OperationSnapshot) : Store :=
  { s with operations := s.operations.replace { row with snapshot := o } }

theorem Store.find?_withOperation (hrow : s.operations.find? o.operationId = some row) :
    (s.withOperation row o).operations.find? o.operationId = some { row with snapshot := o } := by
  rw [Store.withOperation, Table.find?_replace, hrow]
  exact if_pos rfl

@[simp] theorem Store.withOperation_events (s : Store) (row : OperationRow)
    (o : OperationSnapshot) : (s.withOperation row o).events = s.events := rfl

theorem Store.find?_withOperation_ne (hk : k ≠ o.operationId) :
    (s.withOperation row o).operations.find? k = s.operations.find? k :=
  (Table.find?_replace _ _ _).trans (if_neg hk.symm)

/-- One round of the loop. -/
inductive Round (env : Env) (c : CancelSubtree) (now : Timestamp) (k : OperationId) :
    Store → Store → Prop
  | left {s : Store} (fate : s.fate c.sessionId k = .left) : Round env c now k s s
  | ended {s s' : Store} {row : OperationRow} {revision : Revision}
      (found : s.operations.find? k = some row) (fate : s.fate c.sessionId k = .ended)
      (next : row.snapshot.revision.next = some revision)
      (event : appendEventData env c.context.requestId c.sessionId revision
        (.operation .cancelled) (operationEventPayload env (row.snapshot.cancel true revision now))
        now (s.withOperation row (row.snapshot.cancel true revision now)) = .done () s') :
      Round env c now k s s'
  | told {s s₁ s' : Store} {row : OperationRow} {revision : Revision} {m : MessageSnapshot}
      (found : s.operations.find? k = some row) (fate : s.fate c.sessionId k = .told)
      (next : row.snapshot.revision.next = some revision)
      (event : appendEventData env c.context.requestId c.sessionId revision (.operation .cancelling)
        (operationEventPayload env (row.snapshot.cancel false revision now)) now
        (s.withOperation row (row.snapshot.cancel false revision now)) = .done () s₁)
      (notice : cancelNotice env c (row.snapshot.cancel false revision now) now s₁ = .done m s') :
      Round env c now k s s'

/-- The update of an operation that is there. -/
theorem updateOperation_of_found (hrow : s.operations.find? o.operationId = some row)
    (hnext : row.snapshot.revision.next = some o.revision) (hfits : o.revision.get < i64Bound) :
    updateOperation o row.snapshot.revision s = .done () (s.withOperation row o) := by
  have hget := Revision.next_get hnext
  simp only [updateOperation, looks_done]
  exact ⟨⟨hfits, by omega⟩, row, hrow, rfl, rfl⟩

theorem updateOperation_withOperation {expected : Revision} {u : Unit}
    (hrow : s.operations.find? o.operationId = some row)
    (h : updateOperation o expected s = .done u s') : s' = s.withOperation row o := by
  obtain ⟨row', hrow', -, rfl⟩ := updateOperation_done h
  cases hrow.symm.trans hrow'
  rfl

/-- **The rounds of the loop are these three.** -/
theorem cancelOperation_iff (hrow : s.operations.find? k = some row)
    (hread : row.snapshot.Readable) :
    (∃ a, cancelOperation env c now k s = .done a s') ↔ Round env c now k s s' := by
  obtain rfl : row.snapshot.operationId = k := Table.key_of_find? hrow
  have hload : loadOperation s row.snapshot.operationId = .ok (some row.snapshot) := by
    rw [loadOperation, hrow]
    exact if_pos hread
  have hfate : s.fate c.sessionId row.snapshot.operationId = _ := Store.fate_of_found hrow
  simp only [cancelOperation, looks_done, hload, Except.ok.injEq, exists_eq_left',
    Option.some.injEq]
  by_cases hlive : row.snapshot.state.isTerminal = false ∧ row.snapshot.state ≠ .cancelling
  · rw [if_pos hlive] at hfate
    simp only [if_pos hlive, looks_done]
    cases hdriver : s.endsWithoutDriver c.sessionId row.snapshot with
    | true =>
      rw [hdriver] at hfate
      constructor
      · rintro ⟨a, revision, hnext, h⟩
        obtain ⟨_, s₁, hupdate, h⟩ := bind_done.mp h
        obtain rfl := updateOperation_withOperation (by exact hrow) hupdate
        obtain ⟨_, s2, hevent, h⟩ := bind_done.mp h
        cases h
        exact .ended hrow hfate hnext hevent
      · intro h
        cases h with
        | left fate => rw [hfate] at fate; cases fate
        | told _ fate => rw [hfate] at fate; cases fate
        | ended found _ next event =>
          cases hrow.symm.trans found
          have hfits := (appendEventData_iff.mp ⟨_, event⟩).1
          exact ⟨_, _, next, bind_done.mpr ⟨(), _, updateOperation_of_found hrow next hfits,
            bind_done.mpr ⟨(), _, event, rfl⟩⟩⟩
    | false =>
      rw [hdriver] at hfate
      constructor
      · rintro ⟨a, revision, hnext, h⟩
        obtain ⟨_, s₁, hupdate, h⟩ := bind_done.mp h
        obtain rfl := updateOperation_withOperation (by exact hrow) hupdate
        obtain ⟨_, s2, hevent, h⟩ := bind_done.mp h
        obtain ⟨m, s3, hnotice, h⟩ := bind_done.mp h
        cases h
        exact .told hrow hfate hnext hevent hnotice
      · intro h
        obtain fate | ⟨_, fate⟩ | ⟨found, _, next, event, notice⟩ := h
        · rw [hfate] at fate; cases fate
        · rw [hfate] at fate; cases fate
        cases hrow.symm.trans found
        have hfits := (appendEventData_iff.mp ⟨_, event⟩).1
        exact ⟨_, _, next, bind_done.mpr ⟨(), _, updateOperation_of_found hrow next hfits,
          bind_done.mpr ⟨(), _, event, bind_done.mpr ⟨_, _, notice, rfl⟩⟩⟩⟩
  · rw [if_neg hlive] at hfate
    simp only [if_neg hlive, pure_done]
    constructor
    · rintro ⟨a, -, rfl⟩
      exact .left hfate
    · intro h
      cases h with
      | left => exact ⟨_, rfl, rfl⟩
      | ended _ fate => rw [hfate] at fate; cases fate
      | told _ fate => rw [hfate] at fate; cases fate

/-! ### Notices -/

/-- The identity of the notice of a cancellation. -/
def CancelSubtree.noticeId (env : Env) (c : CancelSubtree) (k : OperationId) : Option MessageId :=
  derivedStoreMessageId env c.context.requestId
    (Bytes.utf8 "navigator.operation.cancel.v1" ++ k.bytes)

/-- The notice itself. -/
def CancelSubtree.notice (c : CancelSubtree) (messageId : MessageId) (o : OperationSnapshot)
    (sequence : ℕ) (now : Timestamp) : MessageSnapshot :=
  newMessage c.sessionId messageId o.participantId o.participantId ⟨some o.operationId, none⟩
    ⟨.control o.operationId .cancel⟩ sequence now

/-- What a notice writes. -/
theorem cancelNotice_done (h : cancelNotice env c o now s = .done m s') :
    ∃ messageId messages, ∃ e : EventRow, c.noticeId env o.operationId = some messageId ∧
      m = c.notice messageId o (s.counterOf o.participantId).nextSequence now ∧
      s.messages.insert? (.ofSnapshot m) = some messages ∧
      (s.counterOf o.participantId).nextSequence + 1 < i64Bound ∧
      s.TakesEvent env c.sessionId (eventIdentity env c.context.requestId .messageEnqueued) ∧
      e.sessionId = c.sessionId ∧
      e.eventId = eventIdentity env c.context.requestId .messageEnqueued ∧
      s' = { s with
        messages
        counters := s.counters.upsert
          ((s.counterOf o.participantId).advance (env.envelopeSize m.envelope))
        events := e :: s.events } := by
  simp only [cancelNotice, looks_done] at h
  obtain ⟨messageId, hid, m', hmessage, h⟩ := h
  obtain ⟨_, s₁, hqueue, h⟩ := bind_done.mp h
  cases h
  obtain rfl := hierarchyMessage_ok hmessage
  obtain ⟨_, s2, hqueue, happend⟩ := bind_done.mp hqueue
  obtain ⟨messages, hinsert, hfits, rfl⟩ := queueMessage_done hqueue
  obtain ⟨e, hsession, hevent, rfl⟩ := appendEventData_event happend
  have htakes := (appendEventData_iff.mp ⟨_, happend⟩).2
  exact ⟨messageId, messages, e, hid, rfl, hinsert, hfits, htakes.of_eq rfl, hsession, hevent, rfl⟩

theorem queueMessage_of_free (hfresh : s.messages.find? m.messageId = none)
    (hfree : ∀ r ∈ s.messages, r.destination = m.destination →
      r.mailboxSequence ≠ m.mailboxSequence)
    (hfits : (s.counterOf m.destination).nextSequence + 1 < i64Bound) :
    ∃ s', queueMessage env m s = .done () s' ∧ s'.events = s.events := by
  obtain ⟨messages, hmessages⟩ := Table.exists_insert (r := MessageRow.ofSnapshot m) hfresh
  simp only [queueMessage, insertMessageRow, looks_done, bind_assoc]
  exact ⟨_, ⟨hfree, messages, hmessages, hfits, rfl⟩, rfl⟩

/-- A notice is queued if there is room for it. -/
theorem cancelNotice_of_room (hid : c.noticeId env o.operationId = some messageId)
    (hfresh : s.messages.find? messageId = none)
    (hbytes : (s.counterOf o.participantId).queuedBytes +
      env.envelopeSize ⟨.control o.operationId .cancel⟩ ≤ maxMailboxQueuedBytes)
    (hmessages : (s.counterOf o.participantId).queuedMessages + 1 ≤ maxMailboxQueuedMessages)
    (hnext : ∀ r ∈ s.messages, r.destination = o.participantId →
      r.mailboxSequence < (s.counterOf o.participantId).nextSequence)
    (hfits : (s.counterOf o.participantId).nextSequence + 1 < i64Bound)
    (htakes : s.TakesEvent env c.sessionId
      (eventIdentity env c.context.requestId .messageEnqueued)) :
    ∃ m s', cancelNotice env c o now s = .done m s' := by
  obtain ⟨s₁, hqueue, hevents⟩ : ∃ s₁, queueMessage env
      (c.notice messageId o (s.counterOf o.participantId).nextSequence now) s = .done () s₁ ∧
        s₁.events = s.events :=
    queueMessage_of_free hfresh (fun r hr hd => (hnext r hr hd).ne) hfits
  obtain ⟨s', hevent⟩ : ∃ s', appendMessageEvent env c.context.requestId
      (c.notice messageId o (s.counterOf o.participantId).nextSequence now) now s₁ = .done () s' :=
    appendEventData_iff.mpr ⟨Nat.one_lt_two_pow (by decide), htakes.of_eq hevents⟩
  have hload : loadMessage s messageId = .ok none := by rw [loadMessage, hfresh]
  simp only [cancelNotice, hierarchyMessage, looks_done, result_bind_ok]
  refine ⟨_, s', messageId, hid, _, ⟨none, hload, if_neg ?_⟩,
    bind_done.mpr ⟨(), s', bind_done.mpr ⟨(), _, hqueue, hevent⟩, rfl⟩⟩
  push Not
  exact ⟨hbytes.trans (Nat.le_add_right _ _), hmessages.trans (Nat.le_add_right _ _)⟩

end Navigator
