/-
Calls as deeds: participants and operations.

An operation begins with the message that carries its input, advances as
`nextOperationState` says, and when it ends its messages are finished one by one and its
participant's parent may be told.
-/
import Navigator.Deeds.Sessions

namespace Navigator

open Txn Tx

variable {env : Env} {W : LedgerRow → Prop} {P : Store → Label → Prop} {s s' : Store}
variable {u : Unit} {sessionId : SessionId} {t now : Timestamp} {messageId : MessageId}
  {source destination : ParticipantId} {correlation : MessageCorrelation}
  {envelope : ValidatedMessageEnvelope} {requestId : RequestId} {m : MessageSnapshot}
  {c : TransitionOperation} {o o' : OperationSnapshot} {row : OperationRow}
  {state : MessageDeliveryState} {r : MessageRow}
variable {value : StoredValue} {p : ParticipantId} {wrap : ParticipantSnapshot → Answer}
  {state' : MessageDeliveryState}

/-! ### Participants -/

theorem replayParticipant_within : Within Eq (replayParticipant value) := by
  unfold replayParticipant
  repeat refine .bind (by simp) fun _ => ?_
  simp

theorem Store.cancellationRequested_of_find? {r : ParticipantRow}
    (h : s.participants.find? p = some r) :
    s.cancellationRequested p = r.cancellationRequested := by
  rw [Store.cancellationRequested, h]
  rfl

theorem Store.cancellationRequested_true (h : s.cancellationRequested p = true) :
    ∃ r, s.participants.find? p = some r ∧ r.cancellationRequested = true := by
  cases hfound : s.participants.find? p with
  | none =>
    rw [Store.cancellationRequested, hfound] at h
    cases h
  | some r => exact ⟨r, rfl, Store.cancellationRequested_of_find? hfound ▸ h⟩

theorem commitParticipant_path {χ : Type} [MutableRequest χ] {c : χ}
    (hP : Tolerant (Writes env c) P) {p : ParticipantSnapshot} (hadmitted : s.Receives p)
    (h : commitParticipant env sessionId c p t s = .done u s') :
    Path env P s s' := by
  obtain ⟨_, s1, hinsert, h⟩ := bind_done.mp h
  obtain ⟨participants, hrow, rfl⟩ := insertParticipant_done hinsert
  exact (PeopleDeed.path hP (.joined hrow hadmitted)).trans
    ((told_within hP appendEventData_within).done h)

theorem createRootParticipant_path {c : CreateRootParticipant} (hP : Tolerant (Writes env c) P) :
    Path env P s (ledgered env c wrap (createRootParticipant env t c) s).2 := by
  refine mutation_path hP (fun value => replayParticipant_within) (fun v s' h => ?_) ?_
  · obtain ⟨r, hr, h⟩ := authorize_bind_done h
    refine (withFloor_path hP hr.found t).trans ?_
    simp only [looks_done] at h
    obtain ⟨_, -, template, -, -, -, existing, -, h⟩ := h
    cases existing with
    | some existing =>
      simp only [looks_done] at h
      obtain ⟨-, _, s2, hrecord, -, rfl⟩ := h
      exact (record_within hP).done hrecord
    | none =>
      simp only [looks_done, ensureDerivedCapacity_bind_done] at h
      obtain ⟨hfirst, -, _, s2, hcommit, -, rfl⟩ := h
      exact commitParticipant_path hP ⟨fun _ => ⟨rfl, hfirst⟩, fun _ h => by cases h⟩ hcommit
  · refine RefusesWithin.bind (authorize_within hP) fun _ => ?_
    iterate 8 refine .bind (by simp) fun _ => ?_
    split
    · simp
    · iterate 3 refine .bind (by simp) fun _ => ?_
      simp

theorem createChildParticipant_path {c : CreateChildParticipant} (hP : Tolerant (Writes env c) P) :
    Path env P s (ledgered env c wrap (createChildParticipant env t c) s).2 := by
  refine mutation_path hP (fun value => replayParticipant_within) (fun v s' h => ?_) ?_
  · obtain ⟨r, hr, h⟩ := authorize_bind_done h
    refine (withFloor_path hP hr.found t).trans ?_
    simp only [looks_done, ensureDerivedCapacity_bind_done] at h
    obtain ⟨_, hload, parent, rfl, hactive, _, -, template, -, ⟨hsession, -, -, hdepth⟩, -, _, -, -,
      ⟨hfew, hsmall⟩, -, _, s2, hcommit, -, rfl⟩ := h
    obtain ⟨row, hrow, rfl⟩ := loadParticipant_ok_some hload
    refine commitParticipant_path hP ⟨fun h => (by cases h), fun q hq => ?_⟩ hcommit
    cases hq
    rw [Store.cancellationRequested_of_find? hrow] at hactive
    exact ⟨row, hrow, hsession, hactive, rfl, hdepth, hfew, hsmall⟩
  · refine RefusesWithin.bind (authorize_within hP) fun _ => ?_
    iterate 18 refine .bind (by simp) fun _ => ?_
    simp

/-! ### Queueing a message -/

theorem queueMessage_path
    (hpermits : P s (.queued (newMessage sessionId messageId source destination correlation
      envelope (s.counterOf destination).nextSequence t)))
    (hsession : s.participantSession destination = some sessionId)
    (hfloor : s.floorOf sessionId = some now) (htime : t ≤ now)
    (h : queueMessage env (newMessage sessionId messageId source destination correlation
      envelope (s.counterOf destination).nextSequence t) s = .done u s') :
    Path env P s s' := by
  obtain ⟨messages, hinsert, hfits, rfl⟩ := queueMessage_done h
  exact .single hpermits (.message (.queued hinsert rfl hfits rfl hsession hfloor htime))

/-- A message of the store's own. -/
theorem queueHierarchyMessage_path (hP : Tolerant W P)
    (hm : hierarchyMessage env sessionId messageId source destination correlation envelope t s =
      .ok m) (hpermits : P s (.queued m))
    (hsession : s.participantSession destination = some sessionId)
    (hfloor : s.floorOf sessionId = some now) (htime : t ≤ now)
    (h : queueHierarchyMessage env requestId m s = .done u s') : Path env P s s' := by
  obtain ⟨_, s1, hqueue, hevent⟩ := bind_done.mp h
  have heq := hierarchyMessage_ok hm
  subst heq
  exact (queueMessage_path hpermits hsession hfloor htime hqueue).trans
    ((appendMessageEvent_within.1 _ _ _ hevent).path hP)

theorem queueHierarchyMessage_frame (h : queueHierarchyMessage env requestId m s = .done u s') :
    s'.operations = s.operations ∧ s'.sessions = s.sessions ∧ s'.grants = s.grants := by
  obtain ⟨_, s1, hqueue, hevent⟩ := bind_done.mp h
  obtain ⟨messages, -, -, rfl⟩ := queueMessage_done hqueue
  obtain ⟨e, -, rfl⟩ := appendEventData_done hevent
  exact ⟨rfl, rfl, rfl⟩

/-! ### Starting -/

/-- What is known once a start is admitted. -/
theorem admitStart_done {c : StartOperation} (h : admitStart env t c s = .done o s') :
    ∃ r, s.Authorized c.sessionId c.context.caller c.epoch t r ∧
      s' = s.withFloor c.sessionId (max r.timeFloor t) ∧
      o = c.operation env (max r.timeFloor t) ∧
      s.participantSession c.participantId = some c.sessionId ∧
      s.cancellationRequested c.participantId = false := by
  obtain ⟨r, hr, h⟩ := authorize_floor_done h
  simp only [looks_done, ensureDerivedCapacity_bind_done] at h
  obtain ⟨_, hload, p, rfl, hsession, hactive, -, -, -, -, -, -, -, -, -, -, -, -, -, -, -, rfl,
    rfl⟩ := h
  obtain ⟨row, hrow, rfl⟩ := loadParticipant_ok_some hload
  refine ⟨r, hr, rfl, rfl, ?_, hactive⟩
  rw [Store.participantSession, show s.participants.find? _ = some row from hrow,
    Option.map_some, hsession]

/-- An operation begins with its input. -/
theorem insertOperation_path (hbegan : ∀ s, P s (.began row.snapshot))
    (hqueued : row.snapshot.state = .queued) (hreadable : row.snapshot.Readable)
    (hsession : s.participantSession row.snapshot.participantId = some row.snapshot.sessionId)
    (hactive : s.cancellationRequested row.snapshot.participantId = false)
    (hfloor : s.floorOf row.snapshot.sessionId = some now) (htime : row.snapshot.updatedAt ≤ now)
    (h : insertOperation row s = .done u s') :
    Path env P s s' ∧ row ∈ s'.operations ∧ s' = { s with operations := s'.operations } := by
  obtain ⟨operations, hinsert, halone, rfl⟩ := insertOperation_done h
  have hnone : row.snapshot.terminalOutcome = none := by
    have := hreadable.terminal
    rw [hqueued] at this
    simpa [OperationState.isTerminal] using this
  exact ⟨.single (hbegan s)
    (.operation (.began hinsert (halone hnone) hqueued hreadable hsession hactive hfloor htime)),
    (Table.mem_insert hinsert).mpr (.inl rfl), rfl⟩

theorem StartOperation.operation_readable (c : StartOperation) (now : Timestamp) :
    (c.operation env now).Readable :=
  ⟨le_rfl, rfl, fun _ h => (nomatch h), rfl⟩

/-- The input of an operation that has begun serves it. -/
theorem inputMessage_serves (hrow : row ∈ s.operations)
    (hlive : row.snapshot.terminalOutcome = none) (sequence : ℕ) (now : Timestamp) :
    s.Serves (inputMessage row.snapshot sequence now) :=
  ⟨row, hrow, rfl, rfl, rfl, hlive⟩

theorem commitOperationStart_path {c : StartOperation} (hP : Tolerant (Writes env c) P)
    (hstarts : ∀ s, P s (.began (c.operation env now)))
    (hserves : ∀ s m, s.Serves m → P s (.queued m))
    (hsession : s.participantSession c.participantId = some c.sessionId)
    (hactive : s.cancellationRequested c.participantId = false)
    (hfloor : s.floorOf c.sessionId = some now)
    (h : commitOperationStart env c (c.operation env now) now s = .done u s') :
    Path env P s s' := by
  obtain ⟨_, s1, hinsert, h⟩ := bind_done.mp h
  obtain ⟨hbegan, hrow, heq⟩ : Path env P s s1 ∧ _ ∧ _ := insertOperation_path hstarts rfl
    (c.operation_readable now) hsession hactive hfloor le_rfl hinsert
  simp only [looks_done] at h
  obtain ⟨-, h⟩ := h
  obtain ⟨_, s2, hqueue, h⟩ := bind_done.mp h
  have hqueued : Path env P s1 s2 := by
    refine queueMessage_path (hserves _ _ (inputMessage_serves hrow rfl _ _)) ?_ ?_ le_rfl hqueue
    · rw [heq]
      exact hsession
    · rw [heq]
      exact hfloor
  obtain ⟨_, s3, hevent, h⟩ := bind_done.mp h
  exact hbegan.trans (hqueued.trans (((appendEventData_within.1 _ _ _ hevent).path hP).trans
    ((told_within hP appendMessageEvent_within).done h)))

theorem replayStart_within : Within Eq (replayStart value) := by
  unfold replayStart
  repeat refine .bind (by simp) fun _ => ?_
  simp

theorem admitStart_within (hP : Tolerant W P) {c : StartOperation} :
    Within (Path env P) (admitStart env t c) := by
  refine Within.bind (authorize_within hP) fun _ => ?_
  repeat refine .bind (by simp) fun _ => ?_
  simp

theorem startOperation_path {c : StartOperation} {wrap : OperationSnapshot → Answer} :
    Path env ((Command.startOperation c).Permits env t s) s
      (ledgered env c wrap (startOperation env t c) s).2 := by
  have hP := (Command.startOperation c).permits_tolerant env t s
  refine mutation_path hP (fun value => replayStart_within) (fun v s' h => ?_) ?_
  · obtain ⟨o, s1, hadmit, h⟩ := bind_done.mp h
    obtain ⟨r, hr, rfl, rfl, hsession, hactive⟩ := admitStart_done hadmit
    simp only [looks_done] at h
    obtain ⟨_, s2, hcommit, -, rfl⟩ := h
    exact (withFloor_path hP hr.found t).trans (commitOperationStart_path hP
      (fun _ => rfl) (fun _ _ h => .inl h) hsession hactive hr.floorOf hcommit)
  · exact RefusesWithin.bind (admitStart_within hP) fun _ => by simp

/-! ### Retiring messages -/

theorem MessageDeliveryState.retired_finishes (h : m.state.retired = some state)
    (revision : Revision) (t : Timestamp) :
    Finishes m { m with revision, updatedAt := t, state } := by
  refine ⟨?_, rfl, fun a d u hs => ?_, fun a r hs => ?_⟩
  · cases hm : m.state <;> rw [hm] at h <;> cases h <;> rfl
  · change state = _ at hs
    subst hs
    cases hm : m.state <;> rw [hm] at h <;> cases h
  · change state = _ at hs
    subst hs
    cases hm : m.state <;> rw [hm] at h <;> cases h <;> rfl

theorem MessageDeliveryState.retired_live (h : state.retired = some state') :
    state.isTerminal = false := by
  cases state <;> first | rfl | cases h

theorem MessageDeliveryState.retired_unaccepted (h : state.retired = some state') :
    state'.isAccepted = false := by
  cases state <;> cases h <;> rfl

/-- One message is retired, and the others are left as they were. -/
theorem retireMessage_path (hP : Tolerant W P) (hr : s.messages.find? r.messageId = some r)
    (hpermits : ∀ m', m'.state.isAccepted = false → P s (.finished r.snapshot m'))
    (hfloor : ∃ now, s.floorOf r.sessionId = some now ∧ t ≤ now)
    (h : retireMessage env requestId o t r s = .done u s') :
    Path env P s s' ∧ ∃ m', m'.state.isTerminal = true ∧
        s'.messages = s.messages.replace { r with snapshot := m' } := by
  obtain ⟨now, hnow, hle⟩ := hfloor
  simp only [retireMessage, looks_done] at h
  obtain ⟨m, hm, -, revision, hrevision, state, hstate, h⟩ := h
  obtain ⟨hread, rfl⟩ := decodeMessageRow_ok hm
  obtain ⟨_, s1, hupdate, h⟩ := bind_done.mp h
  obtain ⟨r', hr', rfl⟩ := updateMessageSnapshot_done hupdate
  have hsame : r' = r := by
    change s.messages.find? r.snapshot.messageId = some r' at hr'
    rw [← hread.messageId, hr] at hr'
    exact (Option.some.inj hr').symm
  subst hsame
  obtain ⟨_, s2, hdecrement, hevent⟩ := bind_done.mp h
  obtain ⟨counter, hcounter, -, -, rfl⟩ := decrementMailboxBytes_done.mp hdecrement
  have hcounted : s.counters.find? r'.destination = some counter := by
    rw [hread.destination]
    exact hcounter
  have hfinishes := MessageDeliveryState.retired_finishes hstate revision
    (max t r'.snapshot.updatedAt)
  have htouched : r'.snapshot.Touched
      { r'.snapshot with revision, updatedAt := max t r'.snapshot.updatedAt, state } :=
    ⟨rfl, hrevision⟩
  have hfinished : MessageDeed env _ s _ := .finished hr hread
    (MessageDeliveryState.retired_live hstate) htouched hfinishes hcounted hnow
    (fun _ => le_max_right _ _) (fun h => max_le hle h)
  have hevent := appendMessageEvent_within.1 _ _ _ hevent
  refine ⟨(Path.single (hpermits _ (MessageDeliveryState.retired_unaccepted hstate))
    (.message hfinished)).trans (hevent.path hP),
    _, hfinished.terminal, ?_⟩
  rw [hevent.messages]

theorem Store.mem_liveMessages :
    r ∈ s.liveMessages o ↔ r ∈ s.messages ∧ r.isLiveFor o = true := by
  rw [Store.liveMessages, List.mem_insertionSort, List.mem_filter, Table.mem_def]

theorem Store.liveMessages_nodup :
    ((s.liveMessages o).map MessageRow.messageId).Nodup := by
  have hsublist := (List.filter_sublist (l := s.messages.rows)
    (p := MessageRow.isLiveFor o)).map MessageRow.messageId
  exact ((List.perm_insertionSort _ _).map _).nodup_iff.mpr (hsublist.nodup s.messages.nodup)

/-- The state of the loop of `retireCorrelatedMessages`: the messages still to be retired are
as they were, and no others are live. -/
structure Retiring (env : Env) (P : Store → Label → Prop) (o : OperationSnapshot) (s : Store)
    (rest : List MessageRow) (t : Store) : Prop where
  path : Path env P s t
  nodup : (rest.map MessageRow.messageId).Nodup
  found : ∀ r ∈ rest, t.messages.find? r.messageId = some r ∧ r ∈ s.messages ∧ r.isLiveFor o = true
  live : ∀ r ∈ t.messages, r.isLiveFor o = true → r ∈ rest

theorem MessageRow.isLiveFor_iff :
    r.isLiveFor o = true ↔ r.sessionId = o.sessionId ∧
      r.snapshot.correlation.operationId = some o.operationId ∧
      r.destination = o.participantId ∧ r.snapshot.state.isTerminal = false := by
  simp [MessageRow.isLiveFor]

theorem Retiring.start (o : OperationSnapshot) : Retiring env P o s (s.liveMessages o) s where
  path := .refl
  nodup := s.liveMessages_nodup
  found _ hr :=
    have ⟨hmem, hlive⟩ := Store.mem_liveMessages.mp hr
    ⟨Table.find?_of_mem hmem, hmem, hlive⟩
  live _ hr hlive := Store.mem_liveMessages.mpr ⟨hr, hlive⟩

/-- One round of the loop. -/
theorem Retiring.step (hP : Tolerant W P) {rest : List MessageRow} {s1 s2 : Store}
    (hpermits : ∀ s1, ∀ r ∈ s.messages, ∀ m', m'.state.isAccepted = false →
      P s1 (.finished r.snapshot m')) (hfloor : ∃ now, s.floorOf o.sessionId = some now ∧ t ≤ now)
    (hs : Retiring env P o s (r :: rest) s1)
    (h : retireMessage env requestId o t r s1 = .done u s2) : Retiring env P o s rest s2 := by
  obtain ⟨hfound, hmem, hlive⟩ := hs.found r List.mem_cons_self
  have hsession := (MessageRow.isLiveFor_iff.mp hlive).1
  obtain ⟨hpath, m', hover, hmessages⟩ := retireMessage_path hP hfound (hpermits s1 r hmem)
    (hsession ▸ floor_mono hs.path.follows hfloor) h
  obtain ⟨hfresh, hnodup⟩ := List.nodup_cons.mp hs.nodup
  refine ⟨hs.path.trans hpath, hnodup, fun x hx => ?_, fun x hx hxlive => ?_⟩
  · obtain ⟨hxfound, hxmem, hxlive⟩ := hs.found x (List.mem_cons_of_mem _ hx)
    refine ⟨?_, hxmem, hxlive⟩
    have hne : r.messageId ≠ x.messageId := fun heq =>
      hfresh (heq ▸ List.mem_map_of_mem hx)
    rw [hmessages, Table.find?_replace]
    exact (if_neg hne).trans hxfound
  · rw [hmessages] at hx
    rcases (Store.mem_messages_replace hfound).mp hx with rfl | ⟨hx, hne⟩
    · have hterminal := (MessageRow.isLiveFor_iff.mp hxlive).2.2.2
      rw [show ({ r with snapshot := m' } : MessageRow).snapshot.state.isTerminal = true
        from hover] at hterminal
      cases hterminal
    · rcases List.mem_cons.mp (hs.live x hx hxlive) with rfl | hrest
      · exact absurd rfl hne
      · exact hrest

/-- **The loop of `retireCorrelatedMessages`** finishes messages, and leaves none live. -/
theorem retireCorrelatedMessages_path (hP : Tolerant W P)
    (hpermits : ∀ s1, ∀ r ∈ s.messages, ∀ m', m'.state.isAccepted = false →
      P s1 (.finished r.snapshot m')) (hfloor : ∃ now, s.floorOf o.sessionId = some now ∧ t ≤ now)
    (h : retireCorrelatedMessages env requestId o t s = .done u s') :
    Path env P s s' ∧ ∀ r ∈ s'.messages, r.isLiveFor o = false := by
  have hend : Retiring env P o s [] s' := each_induction
    (motive := fun rest t => Retiring env P o s rest t)
    (fun r rest s1 s2 hs hround => hs.step hP hpermits hfloor hround) (.start o) h
  refine ⟨hend.path, fun r hr => ?_⟩
  by_contra hlive
  cases hend.live r hr (by simpa using hlive)

/-! ### Transitions -/

theorem tryQueue_path (hP : Tolerant W P) {b : Bool}
    (hpermits : ∀ sequence, P s (.queued (newMessage sessionId messageId source destination
      correlation envelope sequence t)))
    (hsession : s.participantSession destination = some sessionId)
    (hfloor : s.floorOf sessionId = some now) (htime : t ≤ now)
    (h : tryQueue env requestId (hierarchyMessage env sessionId messageId source destination
      correlation envelope t s) s = .done b s') : Path env P s s' := by
  cases hm : hierarchyMessage env sessionId messageId source destination correlation
      envelope t s with
  | ok m =>
    rw [hm] at h
    obtain ⟨_, s1, hqueue, h⟩ := bind_done.mp h
    cases h
    exact queueHierarchyMessage_path hP hm (hierarchyMessage_ok hm ▸ hpermits _) hsession hfloor
      htime hqueue
  | error e =>
    rw [hm] at h
    cases e <;> cases h <;> exact .refl

/-- The parent that is told of an outcome is working. -/
theorem reportOutcome_path (hP : Tolerant W P) {outcome : OperationTerminalOutcome} (hs : Sound s)
    (hserves : ∀ s m, s.Serves m → P s (.queued m))
    (hfloor : ∃ now, s.floorOf c.sessionId = some now ∧ o.updatedAt ≤ now)
    (h : reportOutcome env c o outcome s = .done u s') : Path env P s s' := by
  obtain ⟨now, hnow, hle⟩ := hfloor
  simp only [reportOutcome, looks_done] at h
  obtain ⟨_, -, participant, -, h⟩ := h
  rcases hparent : participant.parentParticipantId with _ | parentId
  · simp only [hparent, pure_done] at h
    exact h.2 ▸ .refl
  simp only [hparent, looks_done] at h
  obtain ⟨messageId, -, h⟩ := h
  obtain ⟨now', s1, hload, h⟩ := bind_done.mp h
  obtain ⟨-, rfl⟩ := loadTimeFloor_done hload
  split at h
  · next hauthorized =>
    simp only [Bool.and_eq_true] at hauthorized
    obtain ⟨operationId, hoperation⟩ := Option.isSome_iff_exists.mp hauthorized.1
    obtain ⟨row, hfound, hid⟩ := Option.map_eq_some_iff.mp hoperation
    have hprop := List.find?_some hfound
    simp only [decide_eq_true_eq] at hprop
    obtain ⟨hsession, hparticipant, hlive⟩ := hprop
    have hrow := List.mem_of_find?_eq_some hfound
    have hdestination := (hs.operations row hrow).session
    rw [hparticipant, hsession] at hdestination
    simp only [looks_done, hoperation] at h
    obtain ⟨delivered, s2, hqueue, hevent⟩ := bind_done.mp h
    have hqueued : Path env P s1 s2 := by
      refine tryQueue_path hP (fun _ => hserves _ _ ?_) hdestination hnow hle hqueue
      exact ⟨row, hrow, congrArg some hid.symm, hparticipant, hsession, hlive⟩
    exact hqueued.trans ((appendAuthorityEvent_within.1 _ _ _ hevent).path hP)
  · exact (appendAuthorityEvent_within.1 _ _ _ h).path hP

/-- The operation of an accepted transition advances. -/
theorem OperationSnapshot.Decided.advances (h : o.Decided o' c t) : o.Advances o' := by
  obtain ⟨next, revision, hnext, hrevision, rfl⟩ := h.next
  exact ⟨rfl, nextOperationState_live hnext, hrevision, le_max_right _ _, h.readable'⟩

theorem OperationSnapshot.Decided.updatedAt (h : o.Decided o' c t) :
    o'.updatedAt = max t o.updatedAt := by
  obtain ⟨next, revision, -, -, rfl⟩ := h.next
  rfl

/-- What `updateOperation` does to an operation that advances. -/
theorem updateOperation_path {expected : Revision} (hpermits : P s (.advanced row.snapshot o'))
    (hrow : s.operations.find? row.snapshot.operationId = some row)
    (hadvances : row.snapshot.Advances o') (hfloor : s.floorOf row.snapshot.sessionId = some now)
    (htime : row.snapshot.updatedAt ≤ now → o'.updatedAt ≤ now)
    (h : updateOperation o' expected s = .done u s') :
    Path env P s s' ∧
      s' = { s with operations := s.operations.replace { row with snapshot := o' } } := by
  obtain ⟨row', hrow', -, rfl⟩ := updateOperation_done h
  have hsame : row' = row := by
    rw [hadvances.operationId, hrow] at hrow'
    exact (Option.some.inj hrow').symm
  subst hsame
  exact ⟨.single hpermits (.operation (.advanced hrow hadvances hfloor htime)), rfl⟩

/-- A transition writes the operation and, if that has ended, retires what is on its way to
it; what comes then queues nothing but a report to a parent at work. -/
theorem commitTransition_stages (hP : Tolerant W P) (hs : Sound s)
    (hadvanced : P s (.advanced row.snapshot o'))
    (hfinished : ∀ s1, ∀ r ∈ s.messages, ∀ m', m'.state.isAccepted = false →
      P s1 (.finished r.snapshot m')) (hrow : s.operations.find? c.operationId = some row)
    (ho : row.snapshot.Decided o' c t) (hfloor : s.floorOf c.sessionId = some now) (htime : t ≤ now)
    (h : commitTransition env c o' t s = .done u s') :
    ∃ s2, Path env P s s2 ∧
      (o'.terminalOutcome ≠ none → ∀ r ∈ s2.messages, r.isLiveFor o' = false) ∧
      ∀ Q, Tolerant (Writes env c) Q → (∀ s m, s.Serves m → Q s (.queued m)) →
        Path env Q s2 s' := by
  obtain ⟨_, s1, hupdate, h⟩ := bind_done.mp h
  have hid : row.snapshot.operationId = c.operationId := Table.key_of_find? hrow
  obtain ⟨hpath, heq⟩ : Path env P s s1 ∧ _ := updateOperation_path hadvanced (hid ▸ hrow)
    ho.advances (ho.session ▸ hfloor) (fun hle => ho.updatedAt ▸ max_le htime hle) hupdate
  have hmessages : s1.messages = s.messages := by rw [heq]
  have hsession : o'.sessionId = c.sessionId := ho.advances.sessionId.trans ho.session
  have htimes : ∃ now, s1.floorOf c.sessionId = some now ∧ o'.updatedAt ≤ now := by
    have hle := (hs.operations row (Table.mem_of_find? hrow)).updatedAt_le (ho.session ▸ hfloor)
    exact floor_mono hpath.follows ⟨now, hfloor, ho.updatedAt ▸ max_le htime hle⟩
  rcases hterminal : o'.terminalOutcome with _ | outcome
  · simp only [hterminal] at h
    exact ⟨s1, hpath, fun hne => absurd rfl hne,
      fun Q hQ _ => (told_within hQ appendEventData_within).done h⟩
  simp only [hterminal] at h
  obtain ⟨_, s2, hretire, h⟩ := bind_done.mp h
  obtain ⟨hretired, hlive⟩ : Path env P s1 s2 ∧ _ := retireCorrelatedMessages_path hP
    (fun s1 r hr => hfinished s1 r (hmessages ▸ hr))
    (hsession ▸ floor_mono hpath.follows ⟨now, hfloor, htime⟩) hretire
  obtain ⟨_, s3, hreport, h⟩ := bind_done.mp h
  refine ⟨s2, hpath.trans hretired, fun _ => hlive, fun Q hQ hserves => ?_⟩
  have hreported : Path env Q s2 s3 := reportOutcome_path hQ ((hpath.trans hretired).sound hs)
    hserves (floor_mono hretired.follows htimes) hreport
  exact hreported.trans ((told_within hQ appendEventData_within).done h)

theorem decideTransition_within (hP : Tolerant W P) :
    Within (Path env P) (decideTransition env t c) := by
  refine Within.bind (authorize_within hP) fun _ => ?_
  iterate 8 refine .bind (by simp) fun _ => ?_
  split
  · refine .bind (by simp) fun _ => Within.bind (by simp) fun _ => ?_
    simp
  · exact Within.bind (by simp) fun _ => Within.bind (by simp) fun _ => by simp

theorem transitionOperation_path {wrap : OperationSnapshot → Answer} (hs : Sound s) :
    Path env ((Command.transitionOperation c).Permits env t s) s
      (ledgered env c wrap (transitionOperation env t c) s).2 := by
  have hP := (Command.transitionOperation c).permits_tolerant env t s
  refine mutation_path hP (fun value => by simp) (fun v s' h => ?_) ?_
  · obtain ⟨o', s1, hdecide, h⟩ := bind_done.mp h
    obtain ⟨r, row, hr, rfl, hrow, ho⟩ := decideTransition_done hdecide
    simp only [looks_done] at h
    obtain ⟨_, s2, hcommit, -, rfl⟩ := h
    have hfloor : Path env ((Command.transitionOperation c).Permits env t s) s _ :=
      withFloor_path hP hr.found t
    obtain ⟨_, hpath, -, hrest⟩ := commitTransition_stages hP (hfloor.sound hs)
      ⟨⟨row, Table.mem_of_find? hrow, rfl⟩, fun _ => (Table.key_of_find? hrow).symm⟩
      (fun _ r hr _ hno => ⟨⟨r, hr, rfl⟩, fun h => absurd (hno.symm.trans h) (by simp)⟩)
      hrow ho hr.floorOf (le_max_right _ _) hcommit
    exact hfloor.trans (hpath.trans (hrest _ hP fun _ _ h => .inl h))
  · exact RefusesWithin.bind (decideTransition_within hP) fun _ => by simp

end Navigator
