/-
Calls as deeds: the hierarchy.

`cancelSubtree` goes through the operations of a subtree one by one; each is changed at
most once, and the notice of a cancellation is for an operation that is still unfinished.
The messages of `applyHierarchyEffect` are for an unfinished operation of their
destination, but for a question, which is about the operation of the one who asks.
-/
import Navigator.Deeds.Authority

namespace Navigator

open Txn Tx

variable {env : Env} {W : LedgerRow → Prop} {P : Store → Label → Prop} {s s' : Store}
variable {c : ApplyHierarchyEffect} {now t : Timestamp} {row : OperationRow} {m : MessageSnapshot}
  {plan : HierarchyPlan}
variable {ids : List ParticipantId} {o : OperationSnapshot} {a : CancellationRecord}
  {wrap : CancelSubtreeOutcome → Answer} {caller : ParticipantSnapshot}
variable {sessionId : SessionId} {operationId : OperationId} {revision : Revision}

/-! ### Cancelling a subtree -/

theorem Store.mem_subtreeOperations (h : operationId ∈ s.subtreeOperations sessionId ids) :
    ∃ row, s.operations.find? operationId = some row ∧ row.snapshot.sessionId = sessionId := by
  obtain ⟨row, hrow, rfl⟩ := List.mem_map.mp h
  obtain ⟨hmem, hrow⟩ := List.mem_filter.mp ((List.mem_insertionSort _).mp hrow)
  exact ⟨row, Table.find?_of_mem hmem, (of_decide_eq_true hrow).1⟩

theorem Store.subtreeOperations_nodup : (s.subtreeOperations sessionId ids).Nodup := by
  have hsublist := (List.filter_sublist (l := s.operations.rows) (p := fun r =>
    decide (r.snapshot.sessionId = sessionId ∧ r.snapshot.participantId ∈ ids))).map
      (·.snapshot.operationId)
  exact ((List.perm_insertionSort _ _).map _).nodup_iff.mpr (hsublist.nodup s.operations.nodup)

theorem OperationSnapshot.cancel_advances (withoutDriver : Bool) (now : Timestamp)
    (ho : o.Readable) (hlive : o.state.isTerminal = false)
    (hrevision : o.revision.next = some revision) :
    o.Advances (o.cancel withoutDriver revision now) := by
  refine ⟨rfl, hlive, hrevision, le_max_right _ _, ho.times.trans (le_max_right _ _), ?_, ?_, ?_⟩
  · cases withoutDriver <;> rfl
  · intro outcome houtcome
    cases withoutDriver <;> cases houtcome
    rfl
  · cases withoutDriver <;> rfl

/-- The notice of a cancellation is for an operation that is not finished. -/
theorem cancelNotice_path (hP : Tolerant W P) {c : CancelSubtree} (hs : Sound s)
    (hserves : ∀ s m, s.Serves m → P s (.queued m)) (hrow : row ∈ s.operations)
    (hlive : row.snapshot.terminalOutcome = none) (hsession : row.snapshot.sessionId = c.sessionId)
    (hfloor : s.floorOf c.sessionId = some now)
    (h : cancelNotice env c row.snapshot now s = .done m s') :
    Path env P s s' ∧ s'.operations = s.operations ∧ s'.sessions = s.sessions := by
  simp only [cancelNotice, looks_done] at h
  obtain ⟨messageId, -, m', hmessage, h⟩ := h
  obtain ⟨_, s1, hqueue, h⟩ := bind_done.mp h
  cases h
  obtain ⟨hoperations, hsessions, -⟩ := queueHierarchyMessage_frame hqueue
  refine ⟨?_, hoperations, hsessions⟩
  refine queueHierarchyMessage_path hP hmessage (hserves _ _ ?_)
    (hsession ▸ (hs.operations row hrow).session) hfloor le_rfl hqueue
  rw [hierarchyMessage_ok hmessage]
  exact ⟨row, hrow, rfl, rfl, hsession, hlive⟩

/-- One round of the loop of `cancel_subtree` changes one operation. -/
theorem cancelOperation_path (hP : Tolerant W P) {c : CancelSubtree} (hs : Sound s)
    (hadvanced : ∀ s1 o', P s1 (.advanced row.snapshot o'))
    (hserves : ∀ s m, s.Serves m → P s (.queued m))
    (hrow : s.operations.find? row.snapshot.operationId = some row)
    (hsession : row.snapshot.sessionId = c.sessionId) (hfloor : s.floorOf c.sessionId = some now)
    (h : cancelOperation env c now row.snapshot.operationId s = .done a s') :
    Path env P s s' ∧ s'.floorOf c.sessionId = some now ∧
      ∀ k, k ≠ row.snapshot.operationId → s'.operations.find? k = s.operations.find? k := by
  simp only [cancelOperation, looks_done] at h
  obtain ⟨_, hload, o, rfl, h⟩ := h
  obtain ⟨row', hrow', rfl, hread⟩ := loadOperation_ok_some hload
  rw [hrow] at hrow'
  cases hrow'
  split at h
  · next hlive =>
    simp only [looks_done] at h
    obtain ⟨revision, hrevision, h⟩ := h
    obtain ⟨_, s1, hupdate, h⟩ := bind_done.mp h
    have hadvances := OperationSnapshot.cancel_advances
      (s.endsWithoutDriver c.sessionId row.snapshot) now hread hlive.1 hrevision
    obtain ⟨hpath, heq⟩ : Path env P s s1 ∧ _ := updateOperation_path (hadvanced s _) hrow
      hadvances (hsession ▸ hfloor) (max_le le_rfl) hupdate
    have hfloor1 : s1.floorOf c.sessionId = some now := heq ▸ hfloor
    have hothers : ∀ k, k ≠ row.snapshot.operationId →
        s1.operations.find? k = s.operations.find? k := by
      intro k hk
      rw [heq]
      exact (Table.find?_replace _ _ _).trans (if_neg hk.symm)
    obtain ⟨_, s2, hevent, h⟩ := bind_done.mp h
    have hevent := appendEventData_within.1 _ _ _ hevent
    have hpath2 : Path env P s s2 := hpath.trans (hevent.path hP)
    have hfloor2 : s2.floorOf c.sessionId = some now := by
      rw [Store.floorOf, hevent.sessions]
      exact hfloor1
    split at h
    · cases h
      exact ⟨hpath2, hfloor2, fun k hk => hevent.operations ▸ hothers k hk⟩
    next hdriver =>
    obtain ⟨m, s3, hnotice, h⟩ := bind_done.mp h
    cases h
    have hmem : OperationRow.mk (row.snapshot.cancel
        (s.endsWithoutDriver c.sessionId row.snapshot) revision now) row.inputPayload ∈
          s2.operations := by
      rw [hevent.operations, heq]
      exact (Store.mem_operations_replace hrow hadvances.operationId).mpr (.inl rfl)
    obtain ⟨hnoticed, hoperations, hsessions⟩ := cancelNotice_path hP (hpath2.sound hs) hserves
      hmem (by simp [OperationSnapshot.cancel, hdriver]) hsession hfloor2 hnotice
    refine ⟨hpath2.trans hnoticed, ?_, fun k hk => ?_⟩
    · rw [Store.floorOf, hsessions]
      exact hfloor2
    · rw [hoperations, hevent.operations]
      exact hothers k hk
  · cases h
    exact ⟨.refl, hfloor, fun _ _ => rfl⟩

/-- The state of the loop of `cancel_subtree`: the operations still to come are as they
were. -/
structure Cancelling (env : Env) (P : Store → Label → Prop) (sessionId : SessionId)
    (now : Timestamp) (s : Store) (rest : List OperationId) (t : Store) : Prop where
  path : Path env P s t
  floor : t.floorOf sessionId = some now
  nodup : rest.Nodup
  found : ∀ k ∈ rest, ∃ row, s.operations.find? k = some row ∧
    t.operations.find? k = some row ∧ row.snapshot.sessionId = sessionId

theorem Cancelling.step (hP : Tolerant W P) {c : CancelSubtree} {k : OperationId}
    {rest : List OperationId} {s1 s2 : Store} (hs : Sound s)
    (hadvanced : ∀ s1, ∀ row ∈ s.operations, ∀ o', P s1 (.advanced row.snapshot o'))
    (hserves : ∀ s m, s.Serves m → P s (.queued m))
    (hloop : Cancelling env P c.sessionId now s (k :: rest) s1)
    (h : cancelOperation env c now k s1 = .done a s2) :
    Cancelling env P c.sessionId now s rest s2 := by
  obtain ⟨row, hbefore, hrow, hsession⟩ := hloop.found k List.mem_cons_self
  obtain rfl : row.snapshot.operationId = k := Table.key_of_find? hrow
  obtain ⟨hfresh, hnodup⟩ := List.nodup_cons.mp hloop.nodup
  obtain ⟨hpath, hfloor, hothers⟩ := cancelOperation_path hP (hloop.path.sound hs)
    (fun s1 => hadvanced s1 row (Table.mem_of_find? hbefore)) hserves hrow hsession hloop.floor h
  refine ⟨hloop.path.trans hpath, hfloor, hnodup, fun k' hk' => ?_⟩
  obtain ⟨row', hbefore', hrow', hsession'⟩ := hloop.found k' (List.mem_cons_of_mem _ hk')
  have hne : k' ≠ row.snapshot.operationId := fun heq => hfresh (heq ▸ hk')
  exact ⟨row', hbefore', (hothers k' hne).trans hrow', hsession'⟩

theorem refreshCancellation_within {previous : CancellationRecord} :
    Within Eq (refreshCancellation previous) := by
  unfold refreshCancellation
  iterate 3 refine .bind (by simp) fun _ => ?_
  split
  · simp
  · refine .bind (by simp) fun _ => Within.bind (by simp) fun _ => ?_
    simp

/-- A subtree is told to stop. -/
theorem withCancellation_path (hP : Tolerant W P) {k : SessionId} {root : ParticipantId}
    (hs : Sound s) (hroot : s.participantSession root = some k) :
    Path env P s (s.withCancellation (s.subtree k root)) := by
  refine PeopleDeed.path hP (.flagged _ fun r hr q hq hparent => ?_)
  rw [hs.tree.mem_subtree hroot] at hq ⊢
  exact hq.tail ⟨r, hr, hparent, rfl⟩

/-- What `cancel_subtree` writes after the subtree is told to stop. -/
theorem commitCancellation_path {c : CancelSubtree} (hP : Tolerant (Writes env c) P)
    {outcome : CancelSubtreeOutcome} (hs : Sound s)
    (hadvanced : ∀ s1, ∀ row ∈ s.operations, ∀ o', P s1 (.advanced row.snapshot o'))
    (hserves : ∀ s m, s.Serves m → P s (.queued m))
    (hroot : s.participantSession c.rootParticipantId = some c.sessionId)
    (hfloor : s.floorOf c.sessionId = some now)
    (h : commitCancellation env c s = .done outcome s') :
    Path env P (s.withCancellation (s.subtree c.sessionId c.rootParticipantId)) s' := by
  simp only [commitCancellation, requestCancellation, looks_done] at h
  have hflagged : Path env P s _ := withCancellation_path hP hs hroot
  obtain ⟨now', s1, hload, h⟩ := bind_done.mp h
  obtain ⟨hnow, rfl⟩ := loadTimeFloor_done hload
  obtain rfl : now = now' := Option.some.inj (hfloor.symm.trans hnow)
  obtain ⟨records, s2, hloop, h⟩ := bind_done.mp h
  obtain ⟨_, s3, hrecord, h⟩ := bind_done.mp h
  cases h
  have hend : Cancelling env P c.sessionId now _ [] s2 := collect_induction
    (motive := fun rest t => Cancelling env P c.sessionId now _ rest t)
    (fun k rest s1 a s2 hs1 hround => hs1.step hP (hflagged.sound hs) hadvanced hserves hround)
    ⟨.refl, hfloor, Store.subtreeOperations_nodup, fun k hk =>
      (Store.mem_subtreeOperations hk).imp fun row hrow => ⟨hrow.1, hrow.1, hrow.2⟩⟩ hloop
  exact hend.path.trans ((record_within hP).done hrecord)

/-- A cancellation that is not replayed is the owner's, and of a subtree of the session. -/
theorem cancelSubtree_done {c : CancelSubtree} {v : Mutation CancelSubtreeOutcome} (h : (do
      authorize c.sessionId c.context c.epoch .cancelSubtree t
      let root ← ofExcept (← read (loadParticipant · c.rootParticipantId))
      require (root.map ParticipantSnapshot.sessionId = some c.sessionId) (c.sessionId, .invalid)
      return .applied (← commit (commitCancellation env c)) :
        Call (Mutation CancelSubtreeOutcome)) s = .done v s') :
    ∃ r outcome, s.Authorized c.sessionId c.context.caller c.epoch t r ∧
      s.participantSession c.rootParticipantId = some c.sessionId ∧ v = .applied outcome ∧
      commitCancellation env c (s.withFloor c.sessionId (max r.timeFloor t)) =
        .done outcome s' := by
  obtain ⟨r, hr, h⟩ := authorize_bind_done h
  simp only [looks_done] at h
  obtain ⟨root, hload, hsession, outcome, s2, hcommit, rfl, rfl⟩ := h
  obtain ⟨p, rfl, hp⟩ := Option.map_eq_some_iff.mp hsession
  obtain ⟨row, hrow, rfl⟩ := loadParticipant_ok_some hload
  refine ⟨r, outcome, hr, ?_, rfl, hcommit⟩
  rw [Store.participantSession, show s.participants.find? _ = some row from hrow,
    Option.map_some, hp]

/-- A cancellation has been written, or has let time pass at most. -/
theorem cancelSubtree_cases {c : CancelSubtree} (hP : Tolerant (Writes env c) P) :
    (∃ r outcome, s.Authorized c.sessionId c.context.caller c.epoch t r ∧
      s.participantSession c.rootParticipantId = some c.sessionId ∧
      commitCancellation env c (s.withFloor c.sessionId (max r.timeFloor t)) =
        .done outcome (ledgered env c wrap (cancelSubtree env t c) s).2) ∨
    Path env P s (ledgered env c wrap (cancelSubtree env t c) s).2 := by
  obtain ⟨v, h⟩ | h : (∃ v, _ = Outcome.done v (ledgered env c wrap _ s).2) ∨
      Path env P s (ledgered env c wrap (cancelSubtree env t c) s).2 := by
    refine mutation_cases hP (fun value => ?_) ?_
    · refine .bind (by simp) fun _ => Within.bind ?_ fun _ => by simp
      exact Within.collect fun _ => refreshCancellation_within
    · refine RefusesWithin.bind (authorize_within hP) fun _ => ?_
      iterate 3 refine .bind (by simp) fun _ => ?_
      simp
  · obtain ⟨r, outcome, hr, hroot, -, hcommit⟩ := cancelSubtree_done h
    exact .inl ⟨r, outcome, hr, hroot, hcommit⟩
  · exact .inr h

theorem cancelSubtree_path {c : CancelSubtree} (hs : Sound s) :
    Path env ((Command.cancelSubtree c).Permits env t s) s
      (ledgered env c wrap (cancelSubtree env t c) s).2 := by
  have hP := (Command.cancelSubtree c).permits_tolerant env t s
  obtain ⟨r, outcome, hr, hroot, hcommit⟩ | h :
      _ ∨ Path env ((Command.cancelSubtree c).Permits env t s) s
        (ledgered env c wrap (cancelSubtree env t c) s).2 := cancelSubtree_cases hP
  · have hfloor : Path env ((Command.cancelSubtree c).Permits env t s) s _ :=
      withFloor_path hP hr.found t
    have hsound := hfloor.sound hs
    exact hfloor.trans ((withCancellation_path hP hsound hroot).trans
      (commitCancellation_path hP hsound
        (fun _ row hrow o' => ⟨⟨row, hrow, rfl⟩, fun _ => trivial⟩) (fun _ _ h => .inl h)
        hroot hr.floorOf hcommit))
  · exact h

/-! ### Looking at a child -/

theorem authorizedStatus_path {c : AuthorizedStatus} (hP : Tolerant (Writes env c) P)
    {wrap : AuthorizedStatusOutcome → Answer} :
    Path env P s (ledgered env c wrap (authorizedStatus env t c) s).2 := by
  refine mutation_path_of_within hP (fun value => by simp) ?_
  refine Within.bind (authorizeLaunch_within hP) fun result => ?_
  obtain e | _ := result
  · simp
  simp only
  iterate 7 refine .bind (by simp) fun _ => ?_
  exact Within.bind (Within.commit (record_within hP)) fun _ => by simp

/-! ### Effects on neighbours -/

theorem replayHierarchy_within {value : StoredValue} : Within Eq (replayHierarchy value) := by
  refine .bind (by simp) fun outcome => ?_
  cases outcome with
  | denied => simp
  | allowed message operation =>
    simp only
    iterate 3 refine .bind (by simp) fun _ => ?_
    simp

theorem ApplyHierarchyEffect.named_ok {p : OperationSnapshot → Bool}
    {f : OperationSnapshot → HierarchyPlan}
    (h : (return (← c.named s operationId p).map f : Except StoreError _) = .ok (some plan)) :
    ∃ row, s.operations.find? row.snapshot.operationId = some row ∧ row.snapshot.Readable ∧
      row.snapshot.sessionId = c.sessionId ∧ p row.snapshot = true ∧ f row.snapshot = plan := by
  simp only [named, result_bind_ok, result_pure_ok] at h
  obtain ⟨_, ⟨found, hload, rfl⟩, h⟩ := h
  obtain ⟨o, ho, rfl⟩ := Option.map_eq_some_iff.mp h
  obtain ⟨rfl, hp⟩ := Option.filter_eq_some_iff.mp ho
  obtain ⟨row, hrow, rfl, hread⟩ := loadOperation_ok_some hload
  simp only [Bool.and_eq_true, decide_eq_true_eq] at hp
  exact ⟨row, Table.find?_of_mem (Table.mem_of_find? hrow), hread, hp.1, hp.2, rfl⟩

/-- A plan is about an unfinished operation; its destination is whose operation it is, but
for a question. -/
structure HierarchyPlan.About (plan : HierarchyPlan) (c : ApplyHierarchyEffect) (s : Store)
    (row : OperationRow) : Prop where
  found : s.operations.find? row.snapshot.operationId = some row
  operation : plan.operation = row.snapshot
  readable : row.snapshot.Readable
  session : row.snapshot.sessionId = c.sessionId
  live : row.snapshot.state.isTerminal = false
  owner : row.snapshot.participantId = plan.destination ∨
    row.snapshot.participantId = c.callerParticipantId ∧
      ∃ messageId operationId delivered code grantId,
        c.effect = .questionUpward messageId operationId delivered code grantId
  gentle : ∀ action ∈ plan.change, action = .wait ∨ action = .requestCancel

/-- What a plan is about, what it asks for, and under which grant. -/
theorem ApplyHierarchyEffect.plan_ok (hcaller : caller.participantId = c.callerParticipantId)
    (h : c.plan caller s = .ok (some plan)) :
    ∃ row, plan.About c s row ∧ plan.requested = c.effect.requested ∧
      plan.grantId = c.effect.grantId := by
  unfold ApplyHierarchyEffect.plan at h
  cases heffect : c.effect with
  | questionUpward messageId operationId delivered code grantId =>
    simp only [heffect] at h
    rcases hparent : caller.parentParticipantId with _ | parentId
    · simp [hparent] at h
    rw [hparent] at h
    obtain ⟨row, hrow, hread, hsession, hp, rfl⟩ := named_ok h
    simp only [Bool.and_eq_true, decide_eq_true_eq] at hp
    exact ⟨row, ⟨hrow, rfl, hread, hsession, by rw [hp.1.2]; rfl, .inr ⟨hp.1.1.1.trans hcaller,
      messageId, operationId, delivered, code, grantId, heffect⟩, by simp⟩, rfl, rfl⟩
  | send messageId destination envelope grantId =>
    simp only [heffect] at h
    split at h
    · obtain ⟨row, hrow, hread, hsession, hp, rfl⟩ := named_ok h
      simp only [Bool.and_eq_true, decide_eq_true_eq, Bool.not_eq_eq_eq_not, Bool.not_true] at hp
      exact ⟨row, ⟨hrow, rfl, hread, hsession, hp.2, .inl hp.1, by simp⟩, rfl, rfl⟩
    · cases h
  | cancelChild messageId childId operationId grantId =>
    simp only [heffect] at h
    obtain ⟨row, hrow, hread, hsession, hp, rfl⟩ := named_ok h
    simp only [Bool.and_eq_true, decide_eq_true_eq, Bool.not_eq_eq_eq_not, Bool.not_true] at hp
    exact ⟨row, ⟨hrow, rfl, hread, hsession, hp.2, .inl hp.1, by simp⟩, rfl, rfl⟩
  | resumeChild messageId childId operationId inReplyTo feedback grantId =>
    simp only [heffect] at h
    obtain ⟨row, hrow, hread, hsession, hp, rfl⟩ := named_ok h
    simp only [Bool.and_eq_true, decide_eq_true_eq] at hp
    exact ⟨row, ⟨hrow, rfl, hread, hsession, by rw [hp.1.2]; rfl, .inl hp.1.1, by simp⟩, rfl, rfl⟩

theorem ApplyHierarchyEffect.authorizedPlan_ok (h : c.authorizedPlan now s = .ok (some plan)) :
    ∃ row decision, plan.About c s row ∧ s.participantSession plan.destination = some c.sessionId ∧
      s.effectDecision c.sessionId c.callerParticipantId c.effect.requested c.effect.grantId now =
        some decision ∧ plan.grantId = c.effect.grantId := by
  simp only [authorizedPlan, result_bind_ok] at h
  obtain ⟨caller, hcaller, h⟩ := h
  obtain _ | caller := caller
  · simp at h
  obtain ⟨p, hp, rfl⟩ := loadParticipant_ok_some hcaller
  simp only at h
  split at h
  · simp at h
  simp only [result_bind_ok] at h
  obtain ⟨plan', hplan, h⟩ := h
  obtain _ | plan' := plan'
  · simp at h
  simp only at h
  split at h
  · simp at h
  simp only [result_bind_ok] at h
  obtain ⟨target, htarget, h⟩ := h
  split at h
  · next hallowed =>
    simp only [result_pure_ok, Option.some.injEq] at h
    subst h
    obtain ⟨row, habout, hrequested, hgrant⟩ := plan_ok (Table.key_of_find? hp) hplan
    obtain ⟨decision, hdecision⟩ := Option.isSome_iff_exists.mp hallowed.2
    rw [hrequested, hgrant] at hdecision
    refine ⟨row, decision, habout, ?_, hdecision, hgrant⟩
    obtain ⟨target, rfl, hneighbour⟩ := (Option.any_eq_true _ _).mp hallowed.1
    simp only [isNeighbour, Bool.and_eq_true, decide_eq_true_eq] at hneighbour
    obtain ⟨p, hp, rfl⟩ := loadParticipant_ok_some htarget
    rw [Store.participantSession, hp]
    exact congrArg some hneighbour.1
  · simp at h

/-- A change by a neighbour is an advance. -/
theorem HierarchyPlan.changed_advances {action : OperationAction} {next : OperationState}
    (now : Timestamp) (hread : plan.operation.Readable)
    (haction : action = .wait ∨ action = .requestCancel)
    (hnext : nextOperationState plan.operation.state action = some next)
    (hrevision : plan.operation.revision.next = some revision) :
    plan.operation.Advances (plan.changed action next revision now) ∧
      next.isTerminal = false := by
  have hlive := nextOperationState_live hnext
  have hnone : plan.operation.terminalOutcome = none := by
    have := hread.terminal
    rw [hlive] at this
    simpa using this
  have hnext' : next = if action = .wait then .waiting else .cancelling := by
    rcases haction with rfl | rfl <;> cases hstate : plan.operation.state <;>
      rw [hstate] at hnext <;> cases hnext <;> rfl
  subst hnext'
  refine ⟨⟨rfl, hlive, hrevision, le_max_right _ _, hread.times.trans (le_max_right _ _), ?_, ?_,
    ?_⟩, ?_⟩
  · change plan.operation.terminalOutcome.isSome = _
    rw [hnone]
    rcases haction with rfl | rfl <;> rfl
  · intro outcome houtcome
    change plan.operation.terminalOutcome = _ at houtcome
    rw [hnone] at houtcome
    cases houtcome
  · rcases haction with rfl | rfl <;> rfl
  · rcases haction with rfl | rfl <;> rfl

theorem commitHierarchyDenied_within (hP : Tolerant (Writes env c) P) :
    Within (Path env P) (commitHierarchyDenied env c now) :=
  (within_aside hP appendAuthorityEvent_within).bind fun _ =>
    (record_within hP).bind fun _ => by simp

/-- The operation of an effect is changed, or only read. -/
theorem settleOperation_path {o : Option OperationSnapshot} (habout : plan.About c s row)
    (hadvanced : ∀ o', o'.state.isTerminal = false → P s (.advanced row.snapshot o'))
    (hfloor : s.floorOf c.sessionId = some now) (h : settleOperation c plan now s = .done o s') :
    Path env P s s' ∧ s'.grants = s.grants := by
  unfold settleOperation at h
  cases hchange : plan.change with
  | none =>
    simp only [hchange, looks_done] at h
    obtain ⟨_, -, -, rfl⟩ := h
    exact ⟨.refl, rfl⟩
  | some action =>
    simp only [hchange, looks_done] at h
    obtain ⟨next, hnext, revision, hrevision, h⟩ := h
    obtain ⟨_, s1, hupdate, h⟩ := bind_done.mp h
    cases h
    obtain ⟨hadvances, hlive⟩ := HierarchyPlan.changed_advances now
      (habout.operation ▸ habout.readable) (habout.gentle action hchange) hnext hrevision
    rw [habout.operation] at hadvances
    have htime : row.snapshot.updatedAt ≤ now → max now plan.operation.updatedAt ≤ now := by
      intro hle
      rw [habout.operation]
      exact max_le le_rfl hle
    obtain ⟨hpath, heq⟩ : Path env P s s' ∧ _ := updateOperation_path (hadvanced _ hlive)
      habout.found hadvances (habout.session ▸ hfloor) htime hupdate
    exact ⟨hpath, by rw [heq]⟩

theorem performEffect_path (hP : Tolerant (Writes env c) P) {outcome : HierarchyEffectOutcome}
    (habout : plan.About c s row)
    (hsession : s.participantSession plan.destination = some c.sessionId)
    (husable : s.Usable (s.namedGrant plan.grantId)) (hfloor : s.floorOf c.sessionId = some now)
    (hm : plan.message env c now s = .ok m) (hqueued : P s (.queued m))
    (hadvanced : ∀ s1 o', o'.state.isTerminal = false → P s1 (.advanced row.snapshot o'))
    (h : performEffect env c plan m now s = .done outcome s') : Path env P s s' := by
  obtain ⟨_, s1, hqueue, h⟩ := bind_done.mp h
  have hpath : Path env P s s1 :=
    queueHierarchyMessage_path hP hm hqueued hsession hfloor le_rfl hqueue
  obtain ⟨hoperations, hsessions, hgrants⟩ := queueHierarchyMessage_frame hqueue
  obtain ⟨o, s2, hsettle, h⟩ := bind_done.mp h
  obtain ⟨hsettled, hgrants2⟩ : Path env P s1 s2 ∧ _ := by
    refine settleOperation_path ⟨hoperations ▸ habout.found, habout.operation, habout.readable,
      habout.session, habout.live, habout.owner, habout.gentle⟩ (hadvanced s1) ?_ hsettle
    rw [Store.floorOf, hsessions]
    exact hfloor
  refine hpath.trans (hsettled.trans ?_)
  obtain _ | o := o
  · exact (commitHierarchyDenied_within hP).done h
  simp only [looks_done] at h
  obtain ⟨_, s3, hconsume, h⟩ := bind_done.mp h
  have heq : s2.grants = s.grants := hgrants2.trans hgrants
  have husable2 : s2.Usable (s2.namedGrant plan.grantId) := by
    unfold Store.Usable Store.namedGrant
    rw [heq]
    exact husable
  have hconsumed : Aside env s2 s3 := consumeGrant_aside husable2 hconsume
  refine (hconsumed.path hP).trans (Within.done h ?_)
  exact (within_aside hP appendAuthorityEvent_within).bind fun _ =>
    (record_within hP).bind fun _ => by simp

/-- The message of an effect serves its destination, or is a question that does no harm. -/
theorem HierarchyPlan.About.posts (habout : plan.About c s row)
    (hm : plan.message env c now s = .ok m) :
    s.Serves m ∨ (Command.applyHierarchyEffect c).posts s m := by
  have hnone : row.snapshot.terminalOutcome = none := by
    have := habout.readable.terminal
    rw [habout.live] at this
    simpa using this
  rw [hierarchyMessage_ok hm]
  have hid : some plan.operation.operationId = some row.snapshot.operationId := by
    rw [habout.operation]
  rcases habout.owner with howner | ⟨hcaller, hquestion⟩
  · exact .inl ⟨row, Table.mem_of_find? habout.found, hid, howner, habout.session, hnone⟩
  refine .inr ⟨hquestion, fun row' hrow' hid' _ => ?_, row, Table.mem_of_find? habout.found,
    hid, habout.session, .inr hcaller⟩
  have hsame : row'.snapshot.operationId = row.snapshot.operationId := by
    rw [← habout.operation]
    exact (Option.some.inj hid').symm
  rw [Table.key_injOn hrow' (Table.mem_of_find? habout.found) hsame]
  exact hnone

theorem applyHierarchyEffect_path {wrap : HierarchyEffectOutcome → Answer} :
    Path env ((Command.applyHierarchyEffect c).Permits env t s) s
      (ledgered env c wrap (applyHierarchyEffect env t c) s).2 := by
  have hP := (Command.applyHierarchyEffect c).permits_tolerant env t s
  refine mutation_path hP (fun value => replayHierarchy_within) (fun v s' h => ?_) ?_
  · obtain ⟨r, hr, h⟩ := authorize_floor_done h
    refine (withFloor_path hP hr.found t).trans ?_
    simp only [looks_done] at h
    obtain ⟨plan, hplan, outcome, s3, hcommit, -, rfl⟩ := h
    obtain _ | plan := plan
    · exact (commitHierarchyDenied_within hP).done hcommit
    obtain ⟨row, decision, habout, hsession, hdecision, hgrant⟩ :=
      ApplyHierarchyEffect.authorizedPlan_ok hplan
    have husable := hgrant ▸ Store.usable_of_effectDecision hdecision
    simp only [commitHierarchyEffect, looks_done] at hcommit
    cases hm : plan.message env c (max r.timeFloor t)
        (s.withFloor c.sessionId (max r.timeFloor t)) with
    | ok m =>
      simp only [hm] at hcommit
      refine performEffect_path hP habout hsession husable hr.floorOf hm ?_ ?_ hcommit
      · exact (habout.posts hm).imp_right fun hposts => ⟨rfl, hposts⟩
      · exact fun _ o' hlive => ⟨⟨row, Table.mem_of_find? habout.found, rfl⟩,
          fun h => by rw [hlive] at h; cases h⟩
    | error e =>
      cases e <;> simp only [hm] at hcommit <;>
        first
        | exact (commitHierarchyDenied_within hP).done hcommit
        | cases hcommit
  · refine RefusesWithin.bind (authorize_within hP) fun _ => ?_
    iterate 3 refine .bind (by simp) fun _ => ?_
    simp

end Navigator
