/-
Calls as deeds: mailboxes.

A message that is leased is attempted anew, taken over from a stalled acceptance, or
given up; a message whose delivery is reported on is moved along or finished.  Either
way it is one message that changes, and it was unfinished before.

* **`selectLease_done`**, **`decideDelivery_done`** — what the checks of the two calls
  establish;
* **`enqueueMessage_path`**, **`leaseNextMessage_path`**,
  **`transitionMessageDelivery_path`** — the calls as deeds.
-/
import Navigator.Deeds.Operations

namespace Navigator

open Txn Tx

variable {env : Env} {W : LedgerRow → Prop} {P : Store → Label → Prop} {s s' : Store}
variable {c : TransitionMessageDelivery} {t expiresAt now : Timestamp} {m m' : MessageSnapshot}
  {state : MessageDeliveryState} {sessionId : SessionId} {row : MessageRow} {k : Option Move}
  {u : Unit}
variable {wrap : MessageSnapshot → Answer} {host : HostId} {epoch : FencingEpoch}
  {revision : Revision} {transition : DeliveryTransition} {lease : DeliveryLease}

/-! ### Enqueueing -/

/-- What a body says of its operation can be said of one that is there. -/
theorem EnqueueMessage.isAbout_ok {c : EnqueueMessage} {operationId : OperationId}
    {p : OperationSnapshot → Bool} (h : c.isAbout s operationId p = .ok true) :
    c.correlation.operationId = some operationId ∧ ∃ row ∈ s.operations,
      row.snapshot.operationId = operationId ∧ row.snapshot.sessionId = c.sessionId ∧
      p row.snapshot = true := by
  simp only [isAbout, result_bind_ok, result_pure_ok, Bool.and_eq_true, decide_eq_true_eq] at h
  obtain ⟨found, hfound, hcorrelation, hany⟩ := h
  obtain ⟨o, rfl, hp⟩ := (Option.any_eq_true _ _).mp hany
  simp only [Bool.and_eq_true, decide_eq_true_eq] at hp
  obtain ⟨row, hrow, rfl, -⟩ := loadOperation_ok_some hfound
  exact ⟨by rw [hcorrelation], row, Table.mem_of_find? hrow, Table.key_of_find? hrow, hp⟩

theorem EnqueueMessage.bodyAccepted_links {c : EnqueueMessage}
    (h : c.bodyAccepted env s = .ok true) (sequence : ℕ) (now : Timestamp) :
    s.Links (newMessage c.sessionId c.messageId c.source c.destination c.correlation c.envelope
      sequence now) := by
  -- whoever the operation is of, it is of the session
  have habout : ∀ {operationId : OperationId} {p : OperationSnapshot → Bool},
      c.isAbout s operationId p = .ok true →
      (∀ o, p o = true → o.participantId = c.destination ∨ o.participantId = c.source) →
      s.Links (newMessage c.sessionId c.messageId c.source c.destination c.correlation c.envelope
        sequence now) := by
    intro operationId p h hp
    obtain ⟨hcorrelation, row, hrow, rfl, hsession, hrow'⟩ := isAbout_ok h
    exact ⟨row, hrow, hcorrelation, hsession, hp _ hrow'⟩
  unfold bodyAccepted at h
  split at h
  · exact habout h fun o ho => .inl (by simp at ho; exact ho.1.1)
  · exact habout h fun o ho => .inl (by simpa using ho)
  · exact habout h fun o ho => .inr (by simp at ho; exact ho.1.1)
  · exact habout h fun o ho => .inr (by simp at ho; exact ho.1.1)
  · -- a reply is about an operation of the one who replies
    unfold isReply at h
    split at h
    · next hcorrelation =>
      simp only [result_bind_ok] at h
      obtain ⟨found, hfound, h⟩ := h
      split at h
      · next hany =>
        obtain ⟨o, rfl, ho⟩ := (Option.any_eq_true _ _).mp hany
        simp only [Bool.and_eq_true, decide_eq_true_eq] at ho
        obtain ⟨row, hrow, rfl, -⟩ := loadOperation_ok_some hfound
        have hid := congrArg MessageCorrelation.operationId hcorrelation.1
        rw [← Table.key_of_find? hrow] at hid
        exact ⟨row, Table.mem_of_find? hrow, hid, ho.1, .inr ho.2⟩
      · cases h
    · cases h
  · cases h

theorem admitMessage_done {c : EnqueueMessage} (h : admitMessage env t c s = .done m s') :
    ∃ r, s.Authorized c.sessionId c.context.caller c.epoch t r ∧
      s' = s.withFloor c.sessionId (max r.timeFloor t) ∧
      s.participantSession c.destination = some c.sessionId ∧ s.Links m ∧
      m = newMessage c.sessionId c.messageId c.source c.destination c.correlation c.envelope
        (s.counterOf c.destination).nextSequence (max r.timeFloor t) := by
  obtain ⟨r, hr, h⟩ := authorize_floor_done h
  simp only [looks_done, ensureDerivedCapacity_bind_done] at h
  obtain ⟨-, -, ⟨-, hsession⟩, accepted, haccepted, rfl, -, -, rfl, rfl⟩ := h
  exact ⟨r, hr, rfl, hsession, EnqueueMessage.bodyAccepted_links haccepted _ _, rfl⟩

theorem admitMessage_within (hP : Tolerant W P) {c : EnqueueMessage} :
    Within (Path env P) (admitMessage env t c) := by
  refine Within.bind (authorize_within hP) fun _ => ?_
  repeat refine .bind (by simp) fun _ => ?_
  simp

theorem replayMessage_within {value : StoredValue} : Within Eq (replayMessage value) :=
  Within.bind (by simp) fun _ => by simp

theorem enqueueMessage_path {c : EnqueueMessage} :
    Path env ((Command.enqueueMessage c).Permits env t s) s
      (ledgered env c wrap (enqueueMessage env t c) s).2 := by
  have hP := (Command.enqueueMessage c).permits_tolerant env t s
  refine mutation_path hP (fun value => replayMessage_within) (fun v s' h => ?_) ?_
  · obtain ⟨m, s1, hadmit, h⟩ := bind_done.mp h
    obtain ⟨r, hr, rfl, hsession, hlinks, rfl⟩ := admitMessage_done hadmit
    simp only [looks_done] at h
    obtain ⟨_, s2, hcommit, -, rfl⟩ := h
    obtain ⟨_, s3, hqueue, h⟩ := bind_done.mp hcommit
    have hqueued : Path env ((Command.enqueueMessage c).Permits env t s)
        (s.withFloor c.sessionId (max r.timeFloor t)) s3 :=
      queueMessage_path (.inr ⟨rfl, rfl, rfl, hlinks⟩) hsession hr.floorOf le_rfl hqueue
    exact (withFloor_path hP hr.found t).trans (hqueued.trans
      ((told_within hP appendMessageEvent_within).done h))
  · exact RefusesWithin.bind (admitMessage_within hP) fun _ => by simp

/-! ### Leasing -/

theorem MessageDeliveryState.relet_some {state' : MessageDeliveryState}
    (h : state.relet host epoch expiresAt = some state') :
    ∃ lease lease', state.acceptanceLease? = some lease ∧
      state'.acceptanceLease? = some lease' ∧ lease'.expiresAt = expiresAt := by
  cases state <;> cases h <;> exact ⟨_, _, rfl, rfl, rfl⟩

theorem MessageDeliveryState.relet_none (h : state.relet host epoch expiresAt = none) :
    state.acceptanceLease? = none := by
  cases state <;> first | rfl | cases h

/-- Where the delivery of a message has gone: on, or to its end. -/
inductive Delivered (now : Timestamp) (m m' : MessageSnapshot) : Option Move → Prop
  | on {k : Move} (h : Moves now k m m') : Delivered now m m' (some k)
  | ended (live : m.state.isTerminal = false) (h : Finishes m m') : Delivered now m m' none

/-- A message after it has been leased. -/
theorem LeaseNextMessage.leased_delivered (c : LeaseNextMessage) (revision : Revision)
    (hexpiry : now < expiresAt) (hselected : m.expiredAcceptance now = true ∨ m.isDue now = true) :
    ∃ k, Delivered now m (c.leased m revision now expiresAt) k ∧ k ≠ some .doubt ∧
      (k = some .attempt → m.expiredAcceptance now = false) := by
  unfold LeaseNextMessage.leased
  split
  · next state hstate =>
    obtain ⟨lease, lease', hlease, hlease', rfl⟩ := MessageDeliveryState.relet_some hstate
    have hover : lease.expiresAt ≤ now := by
      rcases hselected with hexpired | hdue
      · simpa [MessageSnapshot.expiredAcceptance, hlease] using hexpired
      · unfold MessageSnapshot.isDue at hdue
        cases hm : m.state <;> simp_all [MessageDeliveryState.acceptanceLease?]
    exact ⟨some .relet, .on (.relet lease lease' hlease hover hlease' hexpiry rfl), by simp,
      by simp⟩
  · next hnone =>
    have hlease := MessageDeliveryState.relet_none hnone
    have hstalled : m.expiredAcceptance now = false := by
      simp [MessageSnapshot.expiredAcceptance, hlease]
    have hdue : m.isDue now = true := by simpa [hstalled] using hselected
    split
    · refine ⟨none, .ended ?_ ⟨rfl, rfl, by simp, by simp⟩, by simp, by simp⟩
      unfold MessageSnapshot.isDue at hdue
      cases hm : m.state <;> simp_all [MessageDeliveryState.isTerminal]
    · next hfew =>
      exact ⟨some .attempt, .on (.attempt (c.lease expiresAt) hdue (Nat.lt_of_not_le hfew) rfl
        hexpiry rfl), by simp, fun _ => hstalled⟩

theorem LeaseNextMessage.leased_touched (c : LeaseNextMessage) (now expiresAt : Timestamp)
    (h : m.revision.next = some revision) :
    m.Touched (c.leased m revision now expiresAt) ∧
      (c.leased m revision now expiresAt).updatedAt = now := by
  unfold LeaseNextMessage.leased
  split
  · exact ⟨⟨rfl, h⟩, rfl⟩
  · split <;> exact ⟨⟨rfl, h⟩, rfl⟩

/-- A lease accepts nothing. -/
theorem LeaseNextMessage.leased_unaccepted (c : LeaseNextMessage) (now expiresAt : Timestamp) :
    (c.leased m revision now expiresAt).state.isAccepted = false := by
  unfold LeaseNextMessage.leased
  split
  · next state hstate =>
    obtain ⟨-, lease, -, hlease, -⟩ := MessageDeliveryState.relet_some hstate
    cases state <;> first | rfl | cases hlease
  · split <;> rfl

/-- A delivery that is neither stalled nor under a lease in force has not begun. -/
theorem MessageSnapshot.idle (hexpired : m.expiredAcceptance now = false)
    (hactive : m.activeLease now = false) :
    m.state.acceptanceLease? = none := by
  cases hm : m.state <;>
    simp_all [expiredAcceptance, activeLease, MessageDeliveryState.acceptanceLease?,
      MessageDeliveryState.lease?]

/-- What is known of the message a call has moved: whose it is, that it could be read, and
where its delivery has gone. -/
structure Handled (s : Store) (sessionId : SessionId) (now : Timestamp) (row : MessageRow)
    (m' : MessageSnapshot) (k : Option Move) : Prop where
  found : s.messages.find? row.messageId = some row
  session : row.sessionId = sessionId
  readable : row.Readable
  touched : row.snapshot.Touched m'
  time : m'.updatedAt = now
  delivered : Delivered now row.snapshot m' k
  clear : k = some .attempt → s.Clear row now

theorem selectLease_done {c : LeaseNextMessage} {selected : Option MessageSnapshot}
    (h : selectLease env t c s = .done selected s') :
    ∃ r, s.Authorized c.sessionId c.context.caller c.epoch t r ∧
      s' = s.withFloor c.sessionId (max r.timeFloor t) ∧
      ∀ m' ∈ selected, ∃ row k, Handled s c.sessionId (max r.timeFloor t) row m' k ∧
        k ≠ some .doubt ∧ ∃ revision expiresAt,
          m' = c.leased row.snapshot revision (max r.timeFloor t) expiresAt := by
  simp only [selectLease, looks_done] at h
  obtain ⟨duration, -, h⟩ := h
  obtain ⟨r, hr, h⟩ := authorize_floor_done h
  simp only [looks_done] at h
  obtain ⟨expiresAt, hexpiry, messages, hmessages, h⟩ := h
  obtain ⟨rfl, hread⟩ := decodeMessageRows_ok hmessages
  cases hselect : selectDelivery (max r.timeFloor t)
      (((s.withFloor c.sessionId (max r.timeFloor t)).mailbox c.sessionId c.destination).map
        MessageRow.snapshot) with
  | none =>
    simp only [hselect, pure_done] at h
    obtain ⟨rfl, rfl⟩ := h
    exact ⟨r, hr, rfl, by simp⟩
  | some m =>
    simp only [hselect, looks_done] at h
    obtain ⟨-, revision, hrevision, rfl, rfl⟩ := h
    refine ⟨r, hr, rfl, fun m' hm' => ?_⟩
    cases hm'
    obtain ⟨row, hmem, rfl, hchoice⟩ := selectDelivery_some (s.mailbox_sorted _ _)
      (fun r hr => (hread r hr).priority) hselect
    obtain ⟨hrow, hsession, hdestination⟩ := Store.mem_mailbox.mp hmem
    obtain ⟨k, hdelivered, hdoubt, hattempt⟩ := c.leased_delivered revision
      (lt_of_expiry hexpiry) (hchoice.imp id And.left)
    obtain ⟨htouched, htime⟩ := c.leased_touched (max r.timeFloor t) expiresAt hrevision
    refine ⟨row, k, ⟨Table.find?_of_mem hrow, hsession, hread row hmem, htouched, htime,
      hdelivered, fun hk r' hr' hsame hdest hlive => ?_⟩, hdoubt, revision, expiresAt, rfl⟩
    -- an attempt is made only if the message was chosen as the head
    have hclear := (hchoice.resolve_left (by simp [hattempt hk])).2 r'
      (Store.mem_mailbox.mpr ⟨hr', hsame.trans hsession, hdest.trans hdestination⟩)
    exact ⟨hclear.2.2 hlive, hclear.2.1, MessageSnapshot.idle hclear.1 hclear.2.1⟩

theorem selectLease_within (hP : Tolerant W P) {c : LeaseNextMessage} :
    Within (Path env P) (selectLease env t c) := by
  refine .bind (by simp) fun _ => Within.bind (authorize_within hP) fun _ => ?_
  iterate 4 refine .bind (by simp) fun _ => ?_
  split
  · simp
  · repeat refine .bind (by simp) fun _ => ?_
    simp

/-- What the counters become with a message that has moved or ended: one that has ended is no
longer counted. -/
def Uncounts (env : Env) (m : MessageSnapshot) (cs cs' : Table MailboxCounter) : Prop :=
  if m.state.isTerminal then
    ∃ counter, cs.find? m.destination = some counter ∧
      cs' = cs.replace (counter.recede (env.envelopeSize m.envelope))
  else cs' = cs

theorem uncounts_of_done {α : Type} {x : α} {k : Unit → Write α}
    (h : (if m.state.isTerminal then decrementMailboxBytes env m >>= k else k ()) s = .done x s') :
    ∃ cs u, Uncounts env m s.counters cs ∧ k u { s with counters := cs } = .done x s' := by
  split at h
  · next hover =>
    obtain ⟨u, s1, hdecrement, h⟩ := bind_done.mp h
    obtain ⟨counter, hcounter, -, -, rfl⟩ := decrementMailboxBytes_done.mp hdecrement
    exact ⟨_, u, by rw [Uncounts, if_pos hover]; exact ⟨counter, hcounter, rfl⟩, h⟩
  · next hover => exact ⟨s.counters, (), by rw [Uncounts, if_neg hover], h⟩

/-- The deed of a delivery: a move, or the end. -/
def deliveryLabel (m m' : MessageSnapshot) : Option Move → Label
  | some k => .moved k m m'
  | none => .finished m m'

section

variable (h : Handled s sessionId now row m' k)
include h

/-- The row that is written is the one that was read. -/
theorem Handled.row_eq {row' : MessageRow}
    (hrow' : s.messages.find? m'.messageId = some row') : row' = row := by
  rw [h.touched.messageId, ← h.readable.messageId, h.found] at hrow'
  exact (Option.some.inj hrow').symm

theorem Handled.live : row.snapshot.state.isTerminal = false := by
  cases h.delivered with
  | on hmoves => exact hmoves.live.1
  | ended live => exact live

/-- A message that has moved or ended, as one deed. -/
theorem Handled.deed {s1 : Store} {cs : Table MailboxCounter}
    (hfloor : s.floorOf sessionId = some now) (hupdate : updateMessageSnapshot m' s = .done u s1)
    (hcounters : Uncounts env m' s1.counters cs) :
    MessageDeed env (deliveryLabel row.snapshot m' k) s { s1 with counters := cs } := by
  obtain ⟨row', hrow', rfl⟩ := updateMessageSnapshot_done hupdate
  obtain rfl := h.row_eq hrow'
  rw [← h.session] at hfloor
  cases h.delivered with
  | @on k hmoves =>
    rw [Uncounts, if_neg (by simp [hmoves.live])] at hcounters
    subst hcounters
    exact .moved h.found h.readable h.touched hmoves (fun hk => h.clear (congrArg some hk)) hfloor
      h.time
  | ended hlive hfinishes =>
    rw [Uncounts, if_pos hfinishes.ended] at hcounters
    obtain ⟨counter, hcounter, rfl⟩ := hcounters
    rw [h.touched.destination, ← h.readable.destination] at hcounter
    rw [h.touched.envelope]
    exact .finished h.found h.readable hlive h.touched hfinishes hcounter hfloor
      (fun hle => h.time ▸ hle) (fun _ => h.time.le)

end

theorem leaseNextMessage_path {c : LeaseNextMessage} {wrap : Option MessageSnapshot → Answer} :
    Path env ((Command.leaseNextMessage c).Permits env t s) s
      (ledgered env c wrap (leaseNextMessage env t c) s).2 := by
  have hP := (Command.leaseNextMessage c).permits_tolerant env t s
  refine mutation_path hP (fun value => by simp) (fun v s' h => ?_) ?_
  · obtain ⟨selected, s1, hselect, h⟩ := bind_done.mp h
    obtain ⟨r, hr, rfl, hselected⟩ := selectLease_done hselect
    refine (withFloor_path hP hr.found t).trans ?_
    cases selected with
    | none =>
      simp only [looks_done] at h
      obtain ⟨_, s2, hrecord, -, rfl⟩ := h
      exact (record_within hP).done hrecord
    | some m' =>
      simp only [looks_done] at h
      obtain ⟨_, s2, hcommit, -, rfl⟩ := h
      obtain ⟨row, k, hm, hdoubt, revision, expiresAt, hleased⟩ := hselected m' rfl
      have hrow := Table.mem_of_find? hm.found
      have hm' : Handled (s.withFloor c.sessionId (max r.timeFloor t)) c.sessionId
          (max r.timeFloor t) row m' k := ⟨hm.found, hm.session, hm.readable, hm.touched, hm.time,
        hm.delivered, hm.clear⟩
      obtain ⟨_, s3, hupdate, hcommit⟩ := bind_done.mp hcommit
      obtain ⟨cs, _, hcounters, hcommit⟩ := uncounts_of_done hcommit
      refine .trans (.single ?_ (.message (hm'.deed hr.floorOf hupdate hcounters)))
        ((told_within hP appendMessageEvent_within).done hcommit)
      cases k with
      | none =>
        refine ⟨⟨row, hrow, rfl⟩, fun haccepted => ?_⟩
        rw [hleased, c.leased_unaccepted] at haccepted
        cases haccepted
      | some k => exact ⟨⟨row, hrow, rfl⟩, fun _ => rfl,
          fun hk => absurd (congrArg some hk) hdoubt, rfl⟩
  · refine RefusesWithin.bind (selectLease_within hP) fun selected => ?_
    cases selected <;> simp

/-! ### Delivering -/

theorem DeliveryTransition.retryNotBefore_some {notBefore : Timestamp}
    (h : transition.retryNotBefore env now = .ok (some notBefore)) : now ≤ notBefore := by
  cases transition <;> simp only [retryNotBefore, Except.ok.injEq, reduceCtorEq] at h
  split at h
  · cases h
  · obtain ⟨_, hexpiry, ⟨⟩⟩ := result_map_ok.mp h
    exact (lt_of_expiry hexpiry).le

/-- The lease a host reports under is the one the message has. -/
theorem TransitionMessageDelivery.heldLease_some (h : c.heldLease now state = some lease) :
    state.lease? = some lease ∧
      (∀ l, state = .leased l → now < lease.expiresAt) := by
  cases state <;> simp only [heldLease, reduceCtorEq] at h
  all_goals
    split at h
    · cases h
      next hc => exact ⟨rfl, fun l hl => by cases hl <;> exact hc.2.2.2⟩
    · cases h

theorem DeliveryTransition.next_delivered {attemptId : DeliveryAttemptId}
    {notBefore : Option Timestamp} (hlease : m.state.lease? = some lease)
    (hleased : ∀ l, m.state = .leased l → now < lease.expiresAt)
    (hnotBefore : ∀ t ∈ notBefore, now ≤ t)
    (h : transition.next lease attemptId now notBefore m.state = some state) (revision : Revision) :
    ∃ k, Delivered now m { m with state, revision, updatedAt := now } k ∧ k ≠ some .attempt ∧
      (k = some .doubt ↔ transition = .acceptanceUnknown) := by
  -- the message has not ended: it is under a lease
  have hlive : m.state.isTerminal = false := by
    cases hm : m.state <;> simp_all [MessageDeliveryState.lease?, MessageDeliveryState.isTerminal]
  -- once the driver has been asked, the lease is that of the acceptance
  have hasked : m.state.acceptanceLease?.isSome = true →
      m.state.acceptanceLease? = some lease := by
    intro hsome
    cases hm : m.state <;> rw [hm] at hlease hsome <;> first | exact hlease | cases hsome
  cases transition with
  | acceptancePending =>
    cases hm : m.state <;> rw [hm] at h hlease <;> cases h
    cases hlease
    exact ⟨some .ask, .on (.ask _ hm (hleased _ hm) rfl rfl), by simp, by simp⟩
  | acceptanceUnknown =>
    cases hm : m.state <;> rw [hm] at h hlease <;> cases h
    cases hlease
    exact ⟨some .doubt, .on (.doubt _ hm rfl rfl), by simp, by simp⟩
  | retryAfter delay =>
    have hstate : m.state.acceptanceLease?.isSome = true ∧
        notBefore.map .retryScheduled = some state := by
      cases hm : m.state <;> rw [hm] at h <;> first | exact ⟨rfl, h⟩ | cases h
    obtain ⟨t, ht, rfl⟩ := Option.map_eq_some_iff.mp hstate.2
    exact ⟨some .retry, .on (.retry lease t (hasked hstate.1) rfl (hnotBefore t ht) rfl),
      by simp, by simp⟩
  | accepted digest =>
    have hstate : m.state.acceptanceLease?.isSome = true ∧
        some (.accepted attemptId digest now) = some state := by
      cases hm : m.state <;> rw [hm] at h <;> first | exact ⟨rfl, h⟩ | cases h
    cases hstate.2
    refine ⟨none, .ended hlive ⟨rfl, rfl, fun a d u hs => ?_, by simp⟩, by simp, by simp⟩
    cases hs
    exact ⟨rfl, hstate.1⟩
  | uncertain reason =>
    have hstate : m.state.acceptanceLease?.isSome = true ∧
        some (.uncertain attemptId reason) = some state := by
      cases hm : m.state <;> rw [hm] at h <;> first | exact ⟨rfl, h⟩ | cases h
    cases hstate.2
    exact ⟨none, .ended hlive ⟨rfl, rfl, by simp, fun _ _ _ => hstate.1⟩, by simp, by simp⟩
  | deadLetter reason =>
    have hstate : some (.deadLetter reason) = some state := by
      cases hm : m.state <;> rw [hm] at h <;> exact h
    cases hstate
    exact ⟨none, .ended hlive ⟨rfl, rfl, by simp, by simp⟩, by simp, by simp⟩

/-- A report accepts a message if it says so. -/
theorem DeliveryTransition.next_accepted {attemptId : DeliveryAttemptId}
    {notBefore : Option Timestamp} {state' : MessageDeliveryState}
    (h : transition.next lease attemptId now notBefore state = some state') :
    state'.isAccepted = transition.accepts := by
  cases transition <;> cases state <;>
    simp only [next, Option.map_eq_some_iff, Option.some.injEq, reduceCtorEq] at h <;>
    first | (obtain ⟨_, -, h⟩ := h; rw [← h]; rfl) | (rw [← h]; rfl)

theorem decideDelivery_done (h : decideDelivery env t c s = .done m' s') :
    ∃ r row k, s.Authorized c.sessionId c.context.caller c.epoch t r ∧
      s' = s.withFloor c.sessionId (max r.timeFloor t) ∧
      s.messages.find? c.messageId = some row ∧
      Handled s c.sessionId (max r.timeFloor t) row m' k ∧
      (k = some .doubt ↔ c.transition = .acceptanceUnknown) ∧
      ∃ lease notBefore, c.heldLease (max r.timeFloor t) row.snapshot.state = some lease ∧
        c.transition.next lease c.attemptId (max r.timeFloor t) notBefore row.snapshot.state =
          some m'.state := by
  obtain ⟨r, hr, h⟩ := authorize_floor_done h
  simp only [looks_done] at h
  obtain ⟨notBefore, hnotBefore, _, hload, m, rfl, ⟨hsession, -, -⟩, lease, hlease, h⟩ := h
  obtain ⟨row, hrow, hread, rfl⟩ := loadMessage_ok_some hload
  obtain ⟨state, hstate, revision, hrevision, rfl, rfl⟩ : ∃ state,
      c.transition.next lease c.attemptId (max r.timeFloor t) notBefore row.snapshot.state =
        some state ∧
      ∃ revision, row.snapshot.revision.next = some revision ∧
        { row.snapshot with state, revision, updatedAt := max r.timeFloor t } = m' ∧
        s.withFloor c.sessionId (max r.timeFloor t) = s' := by
    split at h <;> simp only [ensureDerivedCapacity_bind_done, looks_done] at h
    · exact h.2.2
    · exact h.2
  obtain ⟨hheld, hleased⟩ := TransitionMessageDelivery.heldLease_some hlease
  obtain ⟨k, hdelivered, hattempt, hdoubt⟩ := DeliveryTransition.next_delivered hheld hleased
    (fun t ht => DeliveryTransition.retryNotBefore_some (ht ▸ hnotBefore)) hstate revision
  exact ⟨r, row, k, hr, rfl, hrow,
    ⟨Table.find?_of_mem (Table.mem_of_find? hrow), hread.sessionId.trans hsession, hread,
      ⟨rfl, hrevision⟩, rfl, hdelivered, fun hk => absurd hk hattempt⟩, hdoubt, lease, notBefore,
    hlease, hstate⟩

theorem decideDelivery_within (hP : Tolerant W P) :
    Within (Path env P) (decideDelivery env t c) := by
  refine Within.bind (authorize_within hP) fun _ => ?_
  iterate 7 refine .bind (by simp) fun _ => ?_
  split
  · iterate 4 refine .bind (by simp) fun _ => ?_
    simp
  · iterate 3 refine .bind (by simp) fun _ => ?_
    simp

/-- An operation that waited for a reply runs again. -/
theorem resumed_advances {o : OperationSnapshot} (ho : o.Readable) (hwaiting : o.state = .waiting)
    (hrevision : o.revision.next = some revision) :
    o.Advances
      { o with
        state := .running, waitingOnMessageId := none, revision
        updatedAt := max t o.updatedAt } := by
  have hnone : o.terminalOutcome = none := by
    have := ho.terminal
    rw [hwaiting] at this
    simpa [OperationState.isTerminal] using this
  refine ⟨rfl, by rw [hwaiting]; rfl, hrevision, le_max_right _ _,
    ho.times.trans (le_max_right _ _), ?_, fun _ h => ?_, rfl⟩
  · change o.terminalOutcome.isSome = _
    rw [hnone]
    rfl
  · change o.terminalOutcome = _ at h
    rw [hnone] at h
    cases h

theorem resumeWaiting_done (h : resumeWaiting env c m now t s = .done u s') :
    s' = s ∨ ∃ row o' e, s.operations.find? row.snapshot.operationId = some row ∧
      row.snapshot.Advances o' ∧ o'.state = .running ∧ row.snapshot.sessionId = c.sessionId ∧
      o'.updatedAt = max now row.snapshot.updatedAt ∧ Log.Admits env.eventQuota s.events e ∧
      s' = { s with
        operations := s.operations.replace { row with snapshot := o' }
        events := e :: s.events } := by
  unfold resumeWaiting at h
  rcases hm : m.acceptedReply with _ | reply
  · simp only [hm, pure_done] at h
    exact .inl h.2.symm
  simp only [hm, looks_done] at h
  obtain ⟨_, hload, o, rfl, h⟩ := h
  split at h
  · next hcond =>
    simp only [looks_done] at h
    obtain ⟨revision, hrevision, h⟩ := h
    obtain ⟨_, s1, hupdate, hevent⟩ := bind_done.mp h
    obtain ⟨row, hrow, rfl, hread⟩ := loadOperation_ok_some hload
    obtain ⟨row', hrow', -, rfl⟩ := updateOperation_done hupdate
    obtain ⟨e, he, rfl⟩ := appendEventData_done hevent
    have hfound := Table.find?_of_mem (Table.mem_of_find? hrow)
    have hsame : row' = row := by
      change s.operations.find? row.snapshot.operationId = some row' at hrow'
      rw [show s.operations.find? row.snapshot.operationId = some row from hfound] at hrow'
      exact (Option.some.inj hrow').symm
    subst hsame
    exact .inr ⟨row', _, e, hfound, resumed_advances hread hcond.2.2.1 hrevision, rfl, hcond.1,
      rfl, he, rfl⟩
  · exact .inl (pure_done.mp h).2.symm

/-- The writes of `transition_message_delivery`.  The counter is written after an operation
is woken, but the two have nothing to do with each other: the message and its counter are
one deed. -/
theorem commitDeliveryTransition_path (hP : Tolerant (Writes env c) P)
    (hm : Handled s c.sessionId now row m' k) (hfloor : s.floorOf c.sessionId = some now)
    (hpermits : P s (deliveryLabel row.snapshot m' k))
    (hresumed : ∀ s1, ∀ row ∈ s.operations, ∀ o', o'.state = .running →
      P s1 (.advanced row.snapshot o'))
    (h : commitDeliveryTransition env c m' now t s = .done u s') : Path env P s s' := by
  obtain ⟨_, s1, hupdate, h⟩ := bind_done.mp h
  obtain ⟨_, s2, hevent, h⟩ := bind_done.mp h
  obtain ⟨_, s3, hresume, h⟩ := bind_done.mp h
  obtain ⟨cs, _, hcounters, hrecord⟩ := uncounts_of_done h
  obtain ⟨e, he, rfl⟩ := appendEventData_done hevent
  have hrest : s1.sessions = s.sessions ∧ s1.operations = s.operations := by
    obtain ⟨_, _, rfl⟩ := updateMessageSnapshot_done hupdate
    exact ⟨rfl, rfl⟩
  have hdeed {cs'} (hcs' : Uncounts env m' s1.counters cs') :
      Path env P s { s1 with counters := cs' } :=
    Path.single hpermits (.message (hm.deed hfloor hupdate hcs'))
  refine Path.trans ?_ ((record_within hP).done hrecord)
  obtain rfl | ⟨row', o', e', hrow', hadvances, hrunning, hsession, htime, he', rfl⟩ :=
    resumeWaiting_done hresume
  · exact (hdeed hcounters).trans (Aside.path hP (.append he))
  have hadvanced : OperationDeed (.advanced row'.snapshot o')
      { s1 with counters := cs, events := e :: s1.events } _ :=
    .advanced hrow' hadvances (by rw [Store.floorOf]; simp only [hrest.1, hsession]; exact hfloor)
      fun hle => htime ▸ max_le le_rfl hle
  have hmem : row' ∈ s.operations := hrest.2 ▸ Table.mem_of_find? hrow'
  have hwoken : Path env P _ _ :=
    Path.single (hresumed _ row' hmem o' hrunning) (.operation hadvanced)
  refine (hdeed hcounters).trans (Path.trans ?_ (hwoken.trans ?_))
  · exact Aside.path hP (.append he)
  · exact Aside.path hP (.append he')

theorem commitDeliveryTransition_messages
    (h : commitDeliveryTransition env c m now t s = .done u s') :
    ∃ r, s.messages.find? m.messageId = some r ∧
      s'.messages = s.messages.replace { r with snapshot := m } := by
  obtain ⟨_, s1, hupdate, h⟩ := bind_done.mp h
  obtain ⟨_, s2, hevent, h⟩ := bind_done.mp h
  obtain ⟨_, s3, hresume, h⟩ := bind_done.mp h
  obtain ⟨cs, _, -, hrecord⟩ := uncounts_of_done h
  obtain ⟨r, hr, rfl⟩ := updateMessageSnapshot_done hupdate
  refine ⟨r, hr, ?_⟩
  have hresumed : s3.messages = s2.messages := by
    obtain rfl | ⟨_, _, _, _, _, _, _, _, _, rfl⟩ := resumeWaiting_done hresume <;> rfl
  obtain ⟨_, -, rfl⟩ := insertLedger_done hrecord
  exact hresumed.trans (appendMessageEvent_within.1 _ _ _ hevent).messages

theorem transitionMessageDelivery_path :
    Path env ((Command.transitionMessageDelivery c).Permits env t s) s
      (ledgered env c wrap (transitionMessageDelivery env t c) s).2 := by
  have hP := (Command.transitionMessageDelivery c).permits_tolerant env t s
  refine mutation_path hP (fun value => replayMessage_within) (fun v s' h => ?_) ?_
  · obtain ⟨m', s1, hdecide, h⟩ := bind_done.mp h
    obtain ⟨r, row, k, hr, rfl, hrow, hm, hdoubt, lease, notBefore, -, hnext⟩ :=
      decideDelivery_done hdecide
    simp only [looks_done] at h
    obtain ⟨_, s2, hcommit, -, rfl⟩ := h
    rw [hm.time] at hcommit
    have hmem := Table.mem_of_find? hrow
    refine (withFloor_path hP hr.found t).trans (commitDeliveryTransition_path hP (k := k)
      ⟨hm.found, hm.session, hm.readable, hm.touched, hm.time, hm.delivered, hm.clear⟩
      hr.floorOf ?_ ?_ hcommit)
    · obtain _ | k := k
      · exact ⟨⟨row, hmem, rfl⟩, (DeliveryTransition.next_accepted hnext).symm.trans⟩
      refine ⟨⟨row, hmem, rfl⟩, fun _ => rfl, fun hk => ⟨hdoubt.mp (congrArg some hk), ?_, ?_,
        r.timeFloor, ?_, hm.time⟩, rfl⟩
      · exact (Table.key_of_find? hrow).symm.trans hm.readable.messageId
      · exact hm.session.symm.trans hm.readable.sessionId
      · rw [Store.floorOf, hr.found]
        rfl
    · exact fun _ row hrow o' hrunning => ⟨⟨row, hrow, rfl⟩, fun h => by
        rw [hrunning] at h
        cases h⟩
  · exact RefusesWithin.bind (decideDelivery_within hP) fun _ => by simp

end Navigator
