/-
Cancelling operations one after another.

The events of a cancellation are identified by the request and their type, and no two of a
session may have one identity.  So a loop that goes through has ended at most one operation
and told at most one driver; and if there is no more to do, and there is room, it does go
through.

* **`Swept`** — the state of the loop;
* **`swept_of_collect`**, **`collect_of_separate`** — both directions of this.
-/
import Navigator.Cancellation.Rounds

namespace Navigator

open Txn Tx

variable {env : Env} {s s' t t' : Store}
variable {k : OperationId} {c : CancelSubtree} {seen rest : List OperationId}

/-! ### The events of a cancellation -/

/-- The log of a cancellation that has ended some operations and told the drivers of others:
an identity is used for each kind of event, and only once. -/
structure Recorded (env : Env) (c : CancelSubtree) (old : List EventRow) (ended told : ℕ)
    (new : List EventRow) : Prop where
  total : new.length = old.length + (ended + 2 * told)
  session : (new.countP fun e => e.sessionId = c.sessionId) =
    (old.countP fun e => e.sessionId = c.sessionId) + (ended + 2 * told)
  endedOnce : ended ≤ 1
  toldOnce : told ≤ 1
  endedMark : 0 < ended → ∃ e ∈ new, e.sessionId = c.sessionId ∧
    e.eventId = eventIdentity env c.context.requestId (.operation .cancelled)
  toldMark : 0 < told → ∃ e ∈ new, e.sessionId = c.sessionId ∧
    e.eventId = eventIdentity env c.context.requestId (.operation .cancelling)
  marks : ∀ e ∈ new, e ∈ old ∨
    0 < ended ∧ e.eventId = eventIdentity env c.context.requestId (.operation .cancelled) ∨
    0 < told ∧ (e.eventId = eventIdentity env c.context.requestId (.operation .cancelling) ∨
      e.eventId = eventIdentity env c.context.requestId .messageEnqueued)

namespace Recorded

variable {c : CancelSubtree} {old new : List EventRow} {ended told : ℕ}

theorem start : Recorded env c old 0 0 old :=
  ⟨rfl, rfl, Nat.zero_le _, Nat.zero_le _, fun h => (h.false).elim, fun h => (h.false).elim,
    fun _ he => .inl he⟩

theorem endOne (h : Recorded env c old 0 told new) {e : EventRow}
    (hsession : e.sessionId = c.sessionId)
    (hid : e.eventId = eventIdentity env c.context.requestId (.operation .cancelled)) :
    Recorded env c old 1 told (e :: new) where
  total := by rw [List.length_cons, h.total]; omega
  session := by rw [List.countP_cons_of_pos (by simpa using hsession), h.session]; omega
  endedOnce := le_rfl
  toldOnce := h.toldOnce
  endedMark _ := ⟨e, List.mem_cons_self .., hsession, hid⟩
  toldMark ht := by
    obtain ⟨e', he', hmark⟩ := h.toldMark ht
    exact ⟨e', List.mem_cons_of_mem _ he', hmark⟩
  marks e' he' := by
    rcases List.mem_cons.mp he' with rfl | he'
    · exact .inr (.inl ⟨Nat.one_pos, hid⟩)
    rcases h.marks e' he' with hold | ⟨hlt, -⟩ | htold
    · exact .inl hold
    · exact absurd hlt (Nat.lt_irrefl _)
    · exact .inr (.inr htold)

theorem tellOne (h : Recorded env c old ended 0 new) {e1 e2 : EventRow}
    (hsession1 : e1.sessionId = c.sessionId)
    (hid1 : e1.eventId = eventIdentity env c.context.requestId (.operation .cancelling))
    (hsession2 : e2.sessionId = c.sessionId)
    (hid2 : e2.eventId = eventIdentity env c.context.requestId .messageEnqueued) :
    Recorded env c old ended 1 (e2 :: e1 :: new) where
  total := by rw [List.length_cons, List.length_cons, h.total]; omega
  session := by
    rw [List.countP_cons_of_pos (by simpa using hsession2),
      List.countP_cons_of_pos (by simpa using hsession1), h.session]
    omega
  endedOnce := h.endedOnce
  toldOnce := le_rfl
  endedMark he := by
    obtain ⟨e', he', hmark⟩ := h.endedMark he
    exact ⟨e', List.mem_cons_of_mem _ (List.mem_cons_of_mem _ he'), hmark⟩
  toldMark _ := ⟨e1, List.mem_cons_of_mem _ List.mem_cons_self, hsession1, hid1⟩
  marks e' he' := by
    rcases List.mem_cons.mp he' with rfl | he'
    · exact .inr (.inr ⟨Nat.one_pos, .inr hid2⟩)
    rcases List.mem_cons.mp he' with rfl | he'
    · exact .inr (.inr ⟨Nat.one_pos, .inl hid1⟩)
    rcases h.marks e' he' with hold | hended | ⟨hlt, -⟩
    · exact .inl hold
    · exact .inr (.inl hended)
    · exact absurd hlt (Nat.lt_irrefl _)

end Recorded

/-! ### The loop -/

/-- What has become of an operation of `s`. -/
def Settled (s t : Store) (sessionId : SessionId) (k : OperationId) : Prop :=
  match s.fate sessionId k with
  | .left => t.operations.find? k = s.operations.find? k
  | .ended => ∃ row, t.operations.find? k = some row ∧ row.snapshot.state = .cancelled
  | .told => ∃ row, t.operations.find? k = some row ∧ row.snapshot.state = .cancelling ∧
    ∃ m ∈ t.messages, m.sessionId = sessionId ∧ m.destination = row.snapshot.participantId ∧
      m.snapshot.envelope.body = .control k .cancel

theorem Settled.mono {sessionId : SessionId} (h : Settled s t sessionId k)
    (hoperation : t'.operations.find? k = t.operations.find? k)
    (hmessages : ∀ m ∈ t.messages, m ∈ t'.messages) : Settled s t' sessionId k := by
  unfold Settled at h ⊢
  rw [hoperation]
  split at h
  · exact h
  · exact h
  · obtain ⟨row, hrow, hstate, m, hm, hnotice⟩ := h
    exact ⟨row, hrow, hstate, m, hmessages m hm, hnotice⟩

/-- The numbers of an operation and of its mailbox are not used up. -/
structure Store.Numbered (s : Store) (sessionId : SessionId) (k : OperationId) : Prop where
  revision : ∀ row ∈ s.operations.find? k, s.fate sessionId k ≠ .left →
    row.snapshot.revision.get + 1 < i64Bound
  sequence : ∀ row ∈ s.operations.find? k, s.fate sessionId k = .told →
    (s.counterOf row.snapshot.participantId).nextSequence + 1 < i64Bound

/-- A message that tells of the cancellation of an operation of `s`. -/
structure Notice (s : Store) (sessionId : SessionId) (k : OperationId) (m : MessageRow) : Prop where
  told : s.fate sessionId k = .told
  found : ∃ row, s.operations.find? k = some row ∧ m.destination = row.snapshot.participantId
  correlation : m.snapshot.correlation.operationId = some k

/-- The state of the loop after the operations `seen`. -/
structure Swept (env : Env) (c : CancelSubtree) (s : Store) (seen : List OperationId)
    (t : Store) : Prop where
  sessions : t.sessions = s.sessions
  participants : t.participants = s.participants
  launches : t.launches = s.launches
  ledger : t.ledger = s.ledger
  others : ∀ k, k ∉ seen → t.operations.find? k = s.operations.find? k
  settled : ∀ k ∈ seen, Settled s t c.sessionId k
  numbered : ∀ k ∈ seen, s.Numbered c.sessionId k
  kept : ∀ m ∈ s.messages, m ∈ t.messages
  added : ∀ m ∈ t.messages, m ∈ s.messages ∨ ∃ k ∈ seen, Notice s c.sessionId k m
  quiet : s.fated c.sessionId .told seen = 0 → t.messages = s.messages ∧ t.counters = s.counters
  events : Recorded env c s.events (s.fated c.sessionId .ended seen)
    (s.fated c.sessionId .told seen) t.events

namespace Swept

variable {c : CancelSubtree} {seen : List OperationId} {now : Timestamp} {k : OperationId}

theorem start : Swept env c s [] s where
  sessions := rfl
  participants := rfl
  launches := rfl
  ledger := rfl
  others _ _ := rfl
  settled _ h := (nomatch h)
  numbered _ h := (nomatch h)
  kept _ h := h
  added _ h := .inl h
  quiet _ := ⟨rfl, rfl⟩
  events := .start

theorem fate (h : Swept env c s seen t) (hk : k ∉ seen) :
    t.fate c.sessionId k = s.fate c.sessionId k :=
  Store.fate_congr (h.others k hk) h.launches

/-- One more operation. -/
theorem extend (h : Swept env c s seen t) (hk : k ∉ seen)
    (hframe : t'.sessions = t.sessions ∧ t'.participants = t.participants ∧
      t'.launches = t.launches ∧ t'.ledger = t.ledger)
    (hothers : ∀ k', k' ≠ k → t'.operations.find? k' = t.operations.find? k')
    (hsettled : Settled s t' c.sessionId k) (hnumbered : s.Numbered c.sessionId k)
    (hkept : ∀ m ∈ t.messages, m ∈ t'.messages)
    (hadded : ∀ m ∈ t'.messages, m ∈ t.messages ∨ Notice s c.sessionId k m)
    (hquiet : s.fate c.sessionId k ≠ .told → t'.messages = t.messages ∧ t'.counters = t.counters)
    (hevents : Recorded env c s.events (s.fated c.sessionId .ended (seen ++ [k]))
      (s.fated c.sessionId .told (seen ++ [k])) t'.events) :
    Swept env c s (seen ++ [k]) t' where
  sessions := hframe.1.trans h.sessions
  participants := hframe.2.1.trans h.participants
  launches := hframe.2.2.1.trans h.launches
  ledger := hframe.2.2.2.trans h.ledger
  others k' hk' := by
    simp only [List.mem_append, List.mem_singleton, not_or] at hk'
    rw [hothers k' hk'.2, h.others k' hk'.1]
  settled k' hk' := by
    rcases List.mem_append.mp hk' with hk' | hk'
    · exact (h.settled k' hk').mono (hothers k' fun heq => hk (heq ▸ hk')) hkept
    · rw [List.mem_singleton.mp hk']
      exact hsettled
  numbered k' hk' := by
    rcases List.mem_append.mp hk' with hk' | hk'
    · exact h.numbered k' hk'
    · rw [List.mem_singleton.mp hk']
      exact hnumbered
  kept m hm := hkept m (h.kept m hm)
  added m hm := by
    rcases hadded m hm with hm | hnotice
    · rcases h.added m hm with hm | ⟨k', hk', hnotice⟩
      · exact .inl hm
      · exact .inr ⟨k', List.mem_append_left _ hk', hnotice⟩
    · exact .inr ⟨k, List.mem_append_right _ (List.mem_singleton_self k), hnotice⟩
  quiet hnone := by
    rw [Store.fated_append] at hnone
    have hfate : s.fate c.sessionId k ≠ .told := fun hfate => by simp [hfate] at hnone
    obtain ⟨hmessages, hcounters⟩ := h.quiet (by omega)
    exact ⟨(hquiet hfate).1.trans hmessages, (hquiet hfate).2.trans hcounters⟩
  events := hevents

/-- **A round.** -/
theorem step (h : Swept env c s seen t) (hk : k ∉ seen) (hround : Round env c now k t t') :
    Swept env c s (seen ++ [k]) t' := by
  cases hround with
  | left fate =>
    rw [h.fate hk] at fate
    refine h.extend hk ⟨rfl, rfl, rfl, rfl⟩ (fun _ _ => rfl) ?_ ?_ (fun _ hm => hm)
      (fun _ hm => .inl hm) (fun _ => ⟨rfl, rfl⟩) ?_
    · unfold Settled
      rw [fate]
      exact h.others k hk
    · refine ⟨fun _ _ hfate => absurd fate hfate, fun _ _ hfate => ?_⟩
      rw [fate] at hfate
      cases hfate
    · simpa [Store.fated_append, fate] using h.events
  | @ended _ row revision found fate next event =>
    rw [h.fate hk] at fate
    have hfound := (h.others k hk).symm.trans found
    obtain rfl : row.snapshot.operationId = k := Table.key_of_find? found
    obtain ⟨hfits, htakes⟩ := appendEventData_iff.mp ⟨_, event⟩
    obtain ⟨e, hsession, hid, rfl⟩ := appendEventData_event event
    have hzero := Nat.eq_zero_of_not_pos fun hpos => by
      obtain ⟨e, he, hsession, hid⟩ := h.events.endedMark hpos
      exact htakes.fresh e he hsession hid
    refine h.extend hk ⟨rfl, rfl, rfl, rfl⟩
      (fun k' hk' => Store.find?_withOperation_ne hk') ?_ ?_ (fun _ hm => hm)
      (fun _ hm => .inl hm) (fun _ => ⟨rfl, rfl⟩) ?_
    · unfold Settled
      rw [fate]
      exact ⟨_, Store.find?_withOperation found, rfl⟩
    · refine ⟨fun row' hrow' _ => ?_, fun _ _ hfate => by rw [fate] at hfate; cases hfate⟩
      cases hfound.symm.trans hrow'
      exact Revision.next_get next ▸ hfits
    · have hevents := h.events
      rw [hzero] at hevents
      simpa [Store.fated_append, fate, hzero] using hevents.endOne hsession hid
  | @told _ s1 row revision m found fate next event notice =>
    rw [h.fate hk] at fate
    have hfound := (h.others k hk).symm.trans found
    obtain rfl : row.snapshot.operationId = k := Table.key_of_find? found
    obtain ⟨hfits, htakes⟩ := appendEventData_iff.mp ⟨_, event⟩
    obtain ⟨e1, hsession1, hid1, rfl⟩ := appendEventData_event event
    obtain ⟨messageId, messages, e2, -, rfl, hinsert, hnumber, -, hsession2, hid2, rfl⟩ :=
      cancelNotice_done notice
    -- the first driver to be told: the mailboxes are as they were
    have hzero := Nat.eq_zero_of_not_pos fun hpos => by
      obtain ⟨e, he, hsession, hid⟩ := h.events.toldMark hpos
      exact htakes.fresh e he hsession hid
    obtain ⟨hmessages, hcounters⟩ := h.quiet hzero
    refine h.extend hk ⟨rfl, rfl, rfl, rfl⟩
      (fun k' hk' => Store.find?_withOperation_ne hk') ?_ ?_ (fun x hx => ?_) (fun x hx => ?_)
      (fun hfate => absurd fate hfate) ?_
    · unfold Settled
      rw [fate]
      exact ⟨_, Store.find?_withOperation found, rfl, _,
        (Table.mem_insert hinsert).mpr (.inl rfl), rfl, rfl, rfl⟩
    · refine ⟨fun row' hrow' _ => ?_, fun row' hrow' _ => ?_⟩
      · cases hfound.symm.trans hrow'
        exact Revision.next_get next ▸ hfits
      · cases hfound.symm.trans hrow'
        rw [Store.counterOf, ← hcounters]
        exact hnumber
    · exact (Table.mem_insert hinsert).mpr (.inr hx)
    · rcases (Table.mem_insert hinsert).mp hx with rfl | hx
      · exact .inr ⟨fate, ⟨row, hfound, rfl⟩, rfl⟩
      · exact .inl hx
    · have hevents := h.events
      rw [hzero] at hevents
      simpa [Store.fated_append, fate, hzero] using hevents.tellOne hsession1 hid1 hsession2 hid2

end Swept

/-! ### Going through -/

namespace CancelSubtree

/-- The operations a cancellation goes through. -/
def operations (c : CancelSubtree) (s : Store) : List OperationId :=
  s.subtreeOperations c.sessionId (s.subtree c.sessionId c.rootParticipantId)

/-- The types of the events of a cancellation. -/
def eventTypes : List EventType :=
  [.operation .cancelled, .operation .cancelling, .messageEnqueued]

/-- The request is new: it is in no ledger, and nothing has an identity derived from it. -/
structure Fresh (env : Env) (c : CancelSubtree) (s : Store) : Prop where
  ledger : s.ledger.find? c.context.requestId = none
  journal : s.requestJournaled c.context.requestId = false
  events : ∀ e ∈ s.events, e.sessionId = c.sessionId → ∀ eventType ∈ eventTypes,
    e.eventId ≠ eventIdentity env c.context.requestId eventType
  apart : (eventTypes.map (eventIdentity env c.context.requestId)).Nodup
  notices : ∀ k ∈ c.operations s, ∀ messageId ∈ c.noticeId env k, s.messages.find? messageId = none

/-- There is room for the events of a cancellation in the log, and for its notices in the
mailboxes. -/
structure Room (env : Env) (c : CancelSubtree) (s : Store) : Prop where
  session : (s.events.countP fun e => e.sessionId = c.sessionId) +
      (s.fated c.sessionId .ended (c.operations s) +
        2 * s.fated c.sessionId .told (c.operations s)) ≤ (env.limits .retainedEvents).perSession
  total : s.events.length + (s.fated c.sessionId .ended (c.operations s) +
    2 * s.fated c.sessionId .told (c.operations s)) ≤ (env.limits .retainedEvents).global
  mailbox : ∀ k ∈ c.operations s, ∀ row ∈ s.operations.find? k, s.fate c.sessionId k = .told →
    (s.counterOf row.snapshot.participantId).queuedBytes +
        env.envelopeSize ⟨.control k .cancel⟩ ≤ maxMailboxQueuedBytes ∧
      (s.counterOf row.snapshot.participantId).queuedMessages + 1 ≤ maxMailboxQueuedMessages

/-- At most one operation is ended and at most one driver is told, and no number of theirs is
used up. -/
structure Separate (c : CancelSubtree) (s : Store) : Prop where
  ended : s.fated c.sessionId .ended (c.operations s) ≤ 1
  told : s.fated c.sessionId .told (c.operations s) ≤ 1
  numbered : ∀ k ∈ c.operations s, s.Numbered c.sessionId k

end CancelSubtree

/-- The identities of the three events differ. -/
theorem CancelSubtree.Fresh.distinct (h : c.Fresh env s) :
    let identity := eventIdentity env c.context.requestId
    identity (.operation .cancelled) ≠ identity (.operation .cancelling) ∧
      identity (.operation .cancelled) ≠ identity .messageEnqueued ∧
      identity (.operation .cancelling) ≠ identity .messageEnqueued := by
  have hapart := h.apart
  simp only [CancelSubtree.eventTypes, List.map_cons, List.map_nil, List.nodup_cons,
    List.mem_cons, List.not_mem_nil, or_false, not_or] at hapart
  exact ⟨hapart.1.1, hapart.1.2, hapart.2.1⟩

/-- The log takes an event whose identity is not used. -/
theorem Recorded.fresh {old new : List EventRow} {ended told : ℕ}
    (h : Recorded env c old ended told new) {eventId : EventId}
    (hold : ∀ e ∈ old, e.sessionId = c.sessionId → e.eventId ≠ eventId)
    (hended : 0 < ended → eventIdentity env c.context.requestId (.operation .cancelled) ≠ eventId)
    (htold : 0 < told → eventIdentity env c.context.requestId (.operation .cancelling) ≠ eventId ∧
        eventIdentity env c.context.requestId .messageEnqueued ≠ eventId) :
    ∀ e ∈ new, e.sessionId = c.sessionId → e.eventId ≠ eventId := by
  intro e he hsession
  rcases h.marks e he with he | ⟨hpos, hid⟩ | ⟨hpos, hid | hid⟩
  · exact hold e he hsession
  · exact hid ▸ hended hpos
  · exact hid ▸ (htold hpos).1
  · exact hid ▸ (htold hpos).2

/-- **A round goes through**: the operation is the only one of its fate. -/
theorem Swept.next {row : OperationRow} (now : Timestamp) (h : Swept env c s seen t)
    (hoperations : c.operations s = seen ++ k :: rest) (hk : k ∉ seen)
    (hrow : s.operations.find? k = some row) (haccounts : ∀ d, s.Accounted env d)
    (hfresh : c.Fresh env s) (hroom : c.Room env s) (hseparate : c.Separate s) :
    ∃ t', Round env c now k t t' := by
  have hmem : k ∈ c.operations s := by simp [hoperations]
  have hnumbered := hseparate.numbered k hmem
  have hcount : ∀ fate, s.fated c.sessionId fate (c.operations s) =
      s.fated c.sessionId fate seen + s.fated c.sessionId fate rest +
        if s.fate c.sessionId k = fate then 1 else 0 := by
    intro fate
    simp only [hoperations, Store.fated, List.countP_append, List.countP_cons, decide_eq_true_eq]
    omega
  have hfirst : ∀ fate, s.fated c.sessionId fate (c.operations s) ≤ 1 →
      s.fate c.sessionId k = fate → s.fated c.sessionId fate seen = 0 := by
    intro fate hone hfate
    rw [hcount, if_pos hfate] at hone
    omega
  have hfound : t.operations.find? k = some row := (h.others k hk).trans hrow
  have hfate' := h.fate (k := k) hk
  have hsession := hroom.session
  have htotal := hroom.total
  obtain ⟨hdistinct1, hdistinct2, hdistinct3⟩ := hfresh.distinct
  have hold : ∀ eventType ∈ CancelSubtree.eventTypes, ∀ e ∈ s.events, e.sessionId = c.sessionId →
      e.eventId ≠ eventIdentity env c.context.requestId eventType :=
    fun eventType htype e he hsession => hfresh.events e he hsession eventType htype
  rw [hcount, hcount] at hsession htotal
  cases hfate : s.fate c.sessionId k with
  | left => exact ⟨t, .left (hfate'.trans hfate)⟩
  | ended =>
    have hzero : s.fated c.sessionId .ended seen = 0 := hfirst .ended hseparate.ended hfate
    obtain ⟨revision, hnext, hfits⟩ :=
      Revision.exists_next (hnumbered.revision row hrow (by simp [hfate]))
    simp only [hfate, if_pos, reduceCtorEq, if_false] at hsession htotal
    have htakes : t.TakesEvent env c.sessionId
        (eventIdentity env c.context.requestId (.operation .cancelled)) := by
      refine ⟨by rw [h.events.session]; omega, by rw [h.events.total]; omega, ?_⟩
      exact h.events.fresh (hold _ (by simp [CancelSubtree.eventTypes]))
        (fun hpos => absurd hzero hpos.ne') fun _ => ⟨hdistinct1.symm, hdistinct2.symm⟩
    obtain ⟨t', hevent⟩ := appendEventData_iff.mpr ⟨hfits, htakes.of_eq
      (t.withOperation_events row (row.snapshot.cancel true revision now))⟩
    exact ⟨t', .ended hfound (hfate'.trans hfate) hnext hevent⟩
  | told =>
    have hzero : s.fated c.sessionId .told seen = 0 := hfirst .told hseparate.told hfate
    obtain ⟨hmessages, hcounters⟩ := h.quiet hzero
    obtain ⟨revision, hnext, hfits⟩ :=
      Revision.exists_next (hnumbered.revision row hrow (by simp [hfate]))
    obtain rfl : row.snapshot.operationId = k := Table.key_of_find? hrow
    simp only [hfate, if_pos, reduceCtorEq, if_false] at hsession htotal
    have htakes : t.TakesEvent env c.sessionId
        (eventIdentity env c.context.requestId (.operation .cancelling)) := by
      refine ⟨by rw [h.events.session]; omega, by rw [h.events.total]; omega, ?_⟩
      exact h.events.fresh (hold _ (by simp [CancelSubtree.eventTypes])) (fun _ => hdistinct1)
        fun hpos => absurd hzero hpos.ne'
    obtain ⟨t1, hevent⟩ := appendEventData_iff.mpr ⟨hfits, htakes.of_eq
      (t.withOperation_events row (row.snapshot.cancel false revision now))⟩
    obtain ⟨e, hsession1, hid, heq⟩ := appendEventData_event hevent
    have htakes1 : t1.TakesEvent env c.sessionId
        (eventIdentity env c.context.requestId .messageEnqueued) := by
      subst heq
      refine ⟨?_, ?_, fun e' he' => ?_⟩
      · rw [List.countP_cons_of_pos (by simpa using hsession1), t.withOperation_events,
          h.events.session]
        omega
      · rw [List.length_cons, t.withOperation_events, h.events.total]
        omega
      · rcases List.mem_cons.mp he' with rfl | he'
        · rw [hid]
          exact fun _ => hdistinct3
        · exact h.events.fresh (hold _ (by simp [CancelSubtree.eventTypes])) (fun _ => hdistinct2)
            (fun hpos => absurd hzero hpos.ne') e' he'
    have hmessages1 : t1.messages = s.messages := by rw [heq]; exact hmessages
    have hcounter : t1.counterOf row.snapshot.participantId =
        s.counterOf row.snapshot.participantId := by
      rw [heq, Store.counterOf, Store.counterOf, ← hcounters]
      rfl
    obtain ⟨hbytes, hfew⟩ := hroom.mailbox _ hmem row hrow hfate
    obtain ⟨messageId, hmessageId⟩ : ∃ messageId,
        c.noticeId env row.snapshot.operationId = some messageId :=
      ⟨_, dif_pos (Env.uuidOfDigest_ne_zero _)⟩
    obtain ⟨m, t', hnotice⟩ : ∃ m t', cancelNotice env c
        (row.snapshot.cancel false revision now) now t1 = .done m t' := cancelNotice_of_room
      hmessageId (hmessages1 ▸ hfresh.notices _ hmem _ hmessageId) (hcounter ▸ hbytes)
      (hcounter ▸ hfew) (hmessages1 ▸ hcounter ▸ (haccounts row.snapshot.participantId).next)
      (hcounter ▸ hnumbered.sequence row hrow hfate) htakes1
    exact ⟨t', .told hfound (hfate'.trans hfate) hnext hevent hnotice⟩

/-- The operation whose turn it is has not had its turn, and can be read. -/
theorem CancelSubtree.turn (hs : Sound s) (h : seen ++ k :: rest = c.operations s) :
    k ∉ seen ∧ ∃ row, s.operations.find? k = some row ∧ row.snapshot.Readable := by
  have hnodup : (seen ++ k :: rest).Nodup := h ▸ Store.subtreeOperations_nodup
  have hmem : k ∈ c.operations s := by simp [← h]
  obtain ⟨row, hrow, -⟩ := Store.mem_subtreeOperations hmem
  refine ⟨fun hk => ?_, row, hrow, (hs.operations row (Table.mem_of_find? hrow)).readable⟩
  exact (List.nodup_append.mp hnodup).2.2 k hk k List.mem_cons_self rfl

/-- **A loop that goes through** has been through every operation. -/
theorem swept_of_collect {now : Timestamp} {records : List CancellationRecord} (hs : Sound s)
    (h : collect (cancelOperation env c now) (c.operations s) s = .done records t) :
    Swept env c s (c.operations s) t := by
  have hend : ∃ seen, seen ++ [] = c.operations s ∧ Swept env c s seen t := by
    refine collect_induction
      (motive := fun rest t => ∃ seen, seen ++ rest = c.operations s ∧ Swept env c s seen t)
      (fun k rest t a t' hloop hround => ?_) ⟨[], rfl, .start⟩ h
    obtain ⟨seen, hseen, hswept⟩ := hloop
    obtain ⟨hk, row, hrow, hread⟩ := c.turn hs hseen
    have hfound := (hswept.others k hk).trans hrow
    exact ⟨seen ++ [k], by rw [← hseen, List.append_assoc]; rfl,
      hswept.step hk ((cancelOperation_iff hfound hread).mp ⟨a, hround⟩)⟩
  obtain ⟨seen, hseen, hswept⟩ := hend
  rw [List.append_nil] at hseen
  exact hseen ▸ hswept

/-- **The loop goes through** if the operations are separate. -/
theorem collect_of_separate (now : Timestamp) (hs : Sound s) (haccounts : ∀ d, s.Accounted env d)
    (hfresh : c.Fresh env s) (hroom : c.Room env s) (hseparate : c.Separate s) :
    ∃ records t, collect (cancelOperation env c now) (c.operations s) s = .done records t := by
  refine collect_total
    (motive := fun rest t => ∃ seen, seen ++ rest = c.operations s ∧ Swept env c s seen t)
    (fun k rest t hloop => ?_) ⟨[], rfl, .start⟩
  obtain ⟨seen, hseen, hswept⟩ := hloop
  obtain ⟨hk, row, hrow, hread⟩ := c.turn hs hseen
  have hfound := (hswept.others k hk).trans hrow
  obtain ⟨t', hround⟩ := hswept.next now hseen.symm hk hrow haccounts hfresh hroom
    hseparate
  obtain ⟨a, ha⟩ := (cancelOperation_iff hfound hread).mpr hround
  exact ⟨a, t', ha, seen ++ [k], by rw [← hseen, List.append_assoc]; rfl, hswept.step hk hround⟩

end Navigator
