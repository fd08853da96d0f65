/-
Approvals.

A participant at work may ask for leave to use a capability.  It names the message that
brought it its work, and that message must come from its coordinator, which is its parent,
or itself if it has none.  But an operation's input always comes from the participant itself,
so only those without a parent are heard.

* **`approval_can_be_asked`** — a request that is in order is applied exactly if its
  participant has no parent, its identity is new and there is room for its event;
* **`child_cannot_ask`** — a child at work whose request is not applied.
-/
import Navigator.Deeds.Inputs
import Navigator.Requests
import Navigator.Hierarchy

namespace Navigator

open Txn Tx

variable {env : Env} {s s' : Store} {t : Timestamp}
variable {d : ApprovalCommand} {now : Timestamp} {c : RequestApproval}

/-! ### Applied mutations -/

theorem unledgered_isApplied {α : Type} {wrap : α → Answer} {body : Call (Mutation α)} :
    (unledgered wrap body s).1.isApplied = true ↔ ∃ a s', body s = .done (.applied a) s' := by
  unfold unledgered settleUnrecorded
  cases body s with
  | done v s' => cases v <;> simp [Except.map, Mutation.map, Result.isApplied]
  | refused r s' => simp [Except.map, Result.isApplied]
  | aborted e => simp [Except.map, Result.isApplied]

/-- A request is new to the ledger of approvals if it is in no table. -/
theorem approvalReplay_eq_none :
    approvalReplay env d s = .ok none ↔ ∀ table, s.records d.context.requestId table = false := by
  refine ⟨approvalReplay_none, fun h => ?_⟩
  obtain ⟨hledger, hjournal⟩ := Store.records_eq_false.mp h
  simp_all [approvalReplay, Store.requestJournaled]

/-- An approval mutation is applied if its request is new, its caller is the owner, and its
body is done. -/
theorem approvalMutation_applied {α : Type} {decode : ApprovalResult → Option α}
    {body : Timestamp → Call α} {a : α} {r : SessionRecord} (hkept : r.Kept)
    (hr : s.Authorized d.sessionId d.context.caller d.ownerEpoch t r) :
    approvalMutation env t d decode body s = .done (.applied a) s' ↔
      (∀ table, s.records d.context.requestId table = false) ∧
      body (max r.timeFloor t) (s.withFloor d.sessionId (max r.timeFloor t)) = .done a s' := by
  have hnew : approvalReplay env d s = .ok none ↔ _ := approvalReplay_eq_none
  rw [approvalMutation_eq, ← hnew]
  rcases hreplay : approvalReplay env d s with e | found
  · simp
  cases found with
  | some result =>
    cases hdecode : decode result <;> simp [orAbort, hdecode]
  | none =>
    simp only [true_and, bind_done, approvalAuthorize_of_authorized hkept hr, map_done]
    constructor
    · rintro ⟨_, _, heq, _, hbody, ha⟩
      cases heq
      cases ha
      exact hbody
    · exact fun hbody => ⟨_, _, rfl, a, hbody, rfl⟩

/-- The end of an approval mutation whose request is new: all that is left is its event. -/
theorem finishApproval_iff {result about : ApprovalResult} {revision : Revision}
    {eventType : EventType} (hnew : ∀ table, s.records d.context.requestId table = false) :
    (∃ u s', finishApproval env d result about revision eventType now s = .done u s') ↔
      revision.get < i64Bound ∧
        s.TakesEvent env d.sessionId (eventIdentity env d.context.requestId eventType) := by
  have hmutations : s.approvalMutations.find? d.context.requestId = none := by
    simpa [Store.records] using hnew .approvalMutations
  obtain ⟨hledger, hjournal⟩ := Store.records_eq_false.mp hnew
  simp only [finishApproval, approvalRecord, bind_assoc, looks_done, id_eq, hledger, hjournal]
  constructor
  · rintro ⟨u, s', -, rows, -, h⟩
    obtain ⟨hrevision, htakes⟩ := appendEventData_iff.mp ⟨s', h⟩
    exact ⟨hrevision, htakes.of_eq rfl⟩
  · rintro ⟨hrevision, htakes⟩
    obtain ⟨rows, hinsert⟩ := Table.exists_insert (t := s.approvalMutations)
      (r := ⟨_, d.sessionId, d.context.caller, d.action, d.digest env, result⟩) hmutations
    have htakes' : Store.TakesEvent env { s with approvalMutations := rows } d.sessionId
        (eventIdentity env d.context.requestId eventType) := htakes.of_eq rfl
    obtain ⟨s', h⟩ := appendEventData_iff.mpr ⟨hrevision, htakes'⟩
    exact ⟨(), s', ⟨trivial, trivial⟩, rows, hinsert, h⟩

/-! ### Asking -/

/-- A request for approval that is in order: the owner asks for a participant that has a
running or waiting operation, naming its accepted input, under a new identity and for a time
to come. -/
structure RequestApproval.Asks (c : RequestApproval) (t : Timestamp) (s : Store) : Prop where
  authorized : ∃ r, s.Authorized c.sessionId c.context.caller c.ownerEpoch t r ∧
    max r.timeFloor t < c.expiresAt
  operation : ∃ row, s.operations.find? c.operationId = some row ∧
    row.snapshot.sessionId = c.sessionId ∧ row.snapshot.participantId = c.requesterId ∧
    (row.snapshot.state = .running ∨ row.snapshot.state = .waiting) ∧
    row.snapshot.inputMessageId = c.sourceMessageId
  accepted : ∃ m driver time, s.messages.find? c.sourceMessageId = some m ∧
    m.snapshot.state = .accepted c.sourceDeliveryAttemptId driver time
  fresh : s.approvalRequests.find? c.approvalId = none

instance (r : SessionRecord) (host : HostId) (epoch : FencingEpoch) (now : Timestamp) :
    Decidable (r.HeldUntil host epoch now) :=
  decidable_of_iff (∃ held ∈ r.owner, held.1 = host ∧ r.ownerEpoch = some epoch ∧ now < held.2)
    ⟨fun ⟨held, hheld, hhost, hepoch, hnow⟩ => ⟨held.2, hhost ▸ hheld, hepoch, hnow⟩,
      fun ⟨_, hheld, hepoch, hnow⟩ => ⟨_, hheld, rfl, hepoch, hnow⟩⟩

/-- The attempt in which a message was accepted. -/
def MessageDeliveryState.acceptedIn? : MessageDeliveryState → Option DeliveryAttemptId
  | accepted attemptId _ _ => some attemptId
  | _ => none

theorem MessageDeliveryState.acceptedIn?_eq_some {state : MessageDeliveryState}
    {attemptId : DeliveryAttemptId} :
    state.acceptedIn? = some attemptId ↔
      ∃ driver time, state = .accepted attemptId driver time := by
  cases state <;> simp [acceptedIn?]

instance (c : RequestApproval) (t : Timestamp) (s : Store) : Decidable (c.Asks t s) :=
  decidable_of_iff ((∃ r ∈ s.sessions.find? c.sessionId, r.closed = false ∧
      r.HeldUntil c.context.caller c.ownerEpoch (max r.timeFloor t) ∧
      max r.timeFloor t < c.expiresAt) ∧
    (∃ row ∈ s.operations.find? c.operationId, row.snapshot.sessionId = c.sessionId ∧
      row.snapshot.participantId = c.requesterId ∧
      (row.snapshot.state = .running ∨ row.snapshot.state = .waiting) ∧
      row.snapshot.inputMessageId = c.sourceMessageId) ∧
    (∃ m ∈ s.messages.find? c.sourceMessageId,
      m.snapshot.state.acceptedIn? = some c.sourceDeliveryAttemptId) ∧
    s.approvalRequests.find? c.approvalId = none) (by
    constructor
    · rintro ⟨⟨r, hr, hopen, hheld, hfuture⟩, hoperation, ⟨m, hm, haccepted⟩, hfresh⟩
      obtain ⟨driver, time, hstate⟩ := MessageDeliveryState.acceptedIn?_eq_some.mp haccepted
      exact ⟨⟨r, ⟨hr, hopen, hheld⟩, hfuture⟩, hoperation, ⟨m, driver, time, hm, hstate⟩, hfresh⟩
    · rintro ⟨⟨r, hr, hfuture⟩, hoperation, ⟨m, driver, time, hm, hstate⟩, hfresh⟩
      exact ⟨⟨r, hr.found, hr.isOpen, hr.held, hfuture⟩, hoperation,
        ⟨m, hm, MessageDeliveryState.acceptedIn?_eq_some.mpr ⟨driver, time, hstate⟩⟩, hfresh⟩)

/-- The participant has no parent. -/
def Store.IsRoot (s : Store) (p : ParticipantId) : Prop :=
  ∃ row, s.participants.find? p = some row ∧ row.snapshot.parentParticipantId = none

/-- Nobody is their own parent. -/
theorem Store.Tree.parent_ne (hs : s.Tree) {p : ParticipantRow} (hp : p ∈ s.participants) :
    p.snapshot.parentParticipantId ≠ some p.snapshot.participantId := fun h => by
  obtain ⟨p', hp', hkey, hdepth⟩ := hs.ranked.child p hp _ h
  obtain rfl : p' = p := Table.key_injOn hp' hp hkey
  exact absurd hdepth (Nat.ne_of_lt (Nat.lt_succ_self _))

theorem requestApproval_applied (hs : Sound s) (hinputs : s.Inputs) (h : c.Asks t s) :
    (exec env t (.requestApproval c) s).1.isApplied = true ↔
      s.IsRoot c.requesterId ∧ (∀ table, s.records c.context.requestId table = false) ∧
        s.TakesEvent env c.sessionId
          (eventIdentity env c.context.requestId .approvalRequested) := by
  obtain ⟨⟨r, hr, hfuture⟩, ⟨row, hrow, hsession, hrequester, hstate, hinput⟩,
    ⟨m, driver, time, hm, haccepted⟩, hfresh⟩ := h
  have hkept := hs.sessions r (Table.mem_of_find? hr.found)
  change (unledgered _ (requestApproval env t c) s).1.isApplied = true ↔ _
  rw [unledgered_isApplied]
  unfold requestApproval
  simp only [approvalMutation_applied (d := c.command) hkept hr, looks_done]
  obtain ⟨x, sequence, now, hx, hsame⟩ := hinputs row (Table.mem_of_find? hrow)
  rw [hinput, hm] at hx
  cases hx
  have hid : row.snapshot.operationId = c.operationId := Table.key_of_find? hrow
  have hcause : ∀ coordinator, c.isCause coordinator row.snapshot m.snapshot = true ↔
      coordinator = c.requesterId := by
    simp only [MessageSnapshot.identity, inputMessage, newMessage, MessageIdentity.mk.injEq]
      at hsame
    obtain ⟨h1, h2, h3, h4, -, -, h5, h6, -⟩ := hsame
    simp [RequestApproval.isCause, h1, h2, h3, h4, h5, h6, haccepted, hid, hsession, hrequester,
      eq_comm]
  constructor
  · rintro ⟨a, s', hnew, -, -, -, b, hb, o', ho', o, rfl, p', hp', p, rfl, hcaused, _, _,
      ⟨-, rows, -, hfinish⟩, -⟩
    obtain ⟨row', hrow', rfl, -⟩ := loadOperation_ok_some ho'
    obtain ⟨prow, hprow, rfl⟩ := loadParticipant_ok_some hp'
    cases hb.symm.trans hm
    cases hrow'.symm.trans hrow
    refine ⟨⟨prow, hprow, ?_⟩, hnew, ?_⟩
    · have hself := (hcause _).mp hcaused
      rcases hparent : prow.snapshot.parentParticipantId with _ | q
      · rfl
      rw [hparent] at hself
      have hkey : prow.snapshot.participantId = c.requesterId := Table.key_of_find? hprow
      refine absurd ?_ (hs.tree.parent_ne (Table.mem_of_find? hprow))
      rw [hparent, hkey]
      exact congrArg some hself
    · refine ((finishApproval_iff fun table => ?_).mp ⟨_, _, hfinish⟩).2.of_eq rfl
      exact (Store.records_of_requests rfl _ table).trans (hnew table)
  · rintro ⟨⟨prow, hprow, hroot⟩, hnew, htakes⟩
    obtain ⟨rows, hinsert⟩ := Table.exists_insert (t := s.approvalRequests)
      (r := c.request c.requesterId (max r.timeFloor t)) hfresh
    have hsession' : s.participantSession c.requesterId = some c.sessionId := by
      rw [← hrequester, ← hsession]
      exact (hs.operations row (Table.mem_of_find? hrow)).session
    have hlive : s.operationLive c.sessionId c.requesterId c.operationId = true := by
      simp [Store.operationLive, hrow, hsession, hrequester, hstate]
    have hload := hs.operation_loads hrow
    have hself : prow.snapshot.parentParticipantId.getD c.requesterId = c.requesterId := by
      rw [hroot]
      rfl
    have hvalid : (c.request c.requesterId (max r.timeFloor t)).isValid = true := by
      simp [ApprovalRequest.isValid, RequestApproval.request, hfuture]
    obtain ⟨u, s', hfinish⟩ : ∃ u s', finishApproval env c.command
        (.request (c.request c.requesterId (max r.timeFloor t)))
        (.request (c.request c.requesterId (max r.timeFloor t))) .initial .approvalRequested
        (max r.timeFloor t)
        { s.withFloor c.sessionId (max r.timeFloor t) with approvalRequests := rows } =
          .done u s' :=
      (finishApproval_iff fun table =>
        (Store.records_of_requests rfl _ table).trans (hnew table)).mpr
        ⟨by decide, htakes.of_eq rfl⟩
    refine ⟨_, s', hnew, hfuture, hfresh, ⟨hsession', hlive⟩, m, hm, _, hload, _, rfl, _,
      hs.tree.loadParticipant hprow, _, rfl, (hcause _).mpr hself, u, s', ⟨?_, rows, ?_, ?_⟩,
      rfl, rfl⟩
    · rw [hself]
      exact hvalid
    · rw [hself]
      exact hinsert
    · rw [hself]
      exact hfinish

/-- **A participant can ask for approval** if it has no parent.  Its request must be new, and
there must be room for its event; nothing else is asked of a request that is in order. -/
theorem approval_can_be_asked (h : Reachable env s) {c : RequestApproval} (hasks : c.Asks t s) :
    (exec env t (.requestApproval c) s).1.isApplied = true ↔
      s.IsRoot c.requesterId ∧ (∀ table, s.records c.context.requestId table = false) ∧
        s.TakesEvent env c.sessionId (eventIdentity env c.context.requestId .approvalRequested) :=
  requestApproval_applied h.sound h.inputs hasks

/-! ### A parent and its child -/

namespace Sample

/-- A participant asks for leave to write, for its operation and its input. -/
def ask (n : ℕ) (participantId : ParticipantId) (operationId : OperationId)
    (inputId : MessageId) (attemptId : DeliveryAttemptId) : RequestApproval :=
  ⟨request n, session, epoch, id n, participantId, operationId, inputId, attemptId,
    ⟨"file.write"⟩, ⟨[]⟩, ⟨"write"⟩, seconds 5⟩

/-- The child has an operation of its own, whose input its driver has accepted, and runs it. -/
def busyChild : Store :=
  calls world [(seconds 0, .createChildParticipant ⟨request 20, session, epoch, child, root,
      id 0, 5⟩),
    (seconds 0, .startOperation ⟨request 21, session, epoch, id 1, child, id 1, [1]⟩),
    (seconds 0, .prepareLaunch ⟨request 22, epoch, session, child, id 0, 0, id 1, 0⟩),
    (seconds 0, .attachLaunch ⟨request 23, session, epoch, id 1, .initial, id 1, ⟨2, 2, 2, 2, 2⟩⟩),
    (seconds 0, .transitionLaunch
      ⟨request 24, session, epoch, id 1, ⟨2, Nat.two_pos⟩, .ready, none⟩),
    (seconds 0, .leaseNextMessage
      ⟨request 25, session, epoch, child, id 1, id 1, id 1, ⟨5000000000⟩⟩),
    (seconds 0, .transitionMessageDelivery ⟨request 26, session, epoch, id 1, id 1,
      ⟨2, Nat.two_pos⟩, .acceptancePending⟩),
    (seconds 0, .transitionMessageDelivery ⟨request 27, session, epoch, id 1, id 1,
      ⟨3, three_pos⟩, .accepted 5⟩),
    (seconds 0, .transitionOperation ⟨request 28, session, epoch, id 1, .initial,
      .beginStart, none, none⟩),
    (seconds 0, .transitionOperation ⟨request 29, session, epoch, id 1, ⟨2, Nat.two_pos⟩,
      .reportRunning, some (id 1), none⟩)] running

theorem busyChild_reachable : Reachable world busyChild :=
  running_reachable.trans (run_calls _ _)

end Sample

open Sample

/-- The participant without a parent asks, and is heard. -/
theorem approval_can_be_asked_running :
    (ask 30 root operation input (Sample.id 0)).Asks (seconds 1) running ∧
    running.IsRoot root ∧
    running.TakesEvent world session
      (eventIdentity world (Sample.id 30) .approvalRequested) := by
  have hasks : (ask 30 root operation input (Sample.id 0)).Asks
      (seconds 1) running := by decide +kernel
  obtain ⟨hroot, -, htakes⟩ :=
    (approval_can_be_asked running_reachable hasks).mp (by decide +kernel)
  exact ⟨hasks, hroot, htakes⟩

/-- A child at work asks in the same way, with a new request and room for its event, and is
not heard. -/
theorem child_cannot_ask :
    Reachable world busyChild ∧
    (ask 30 child (Sample.id 1) (Sample.id 1) (Sample.id 1)).Asks (seconds 1) busyChild ∧
    (∀ table, busyChild.records (Sample.id 30) table = false) ∧
    busyChild.TakesEvent world session (eventIdentity world (Sample.id 30) .approvalRequested) ∧
    (exec world (seconds 1) (.requestApproval
      (ask 30 child (Sample.id 1) (Sample.id 1) (Sample.id 1)))
      busyChild).1 = .error .invalid := by
  exact ⟨busyChild_reachable, by decide +kernel, Store.records_eq_false.mpr (by decide +kernel),
    ⟨by decide +kernel, by decide +kernel, by decide +kernel⟩, by decide +kernel⟩

end Navigator
