/-
Calls as deeds: approvals.

Approvals have tables of their own.  A decision is relayed to the participant that asked,
whose operation is running or waiting, so that the message serves it.
-/
import Navigator.Deeds.Hierarchy

namespace Navigator

open Txn Tx

variable {env : Env} {W : LedgerRow → Prop} {P : Store → Label → Prop} {s s' : Store}
variable {c : ApprovalCommand} {t now : Timestamp} {r : ApprovalRequest}
variable {α : Type} {result : ApprovalResult} {revision : Revision} {g : ApprovalGrant}

/-! ### What approval mutations have in common -/

theorem approvalAuthorize_done (h : approvalAuthorize c t s = .done now s') :
    ∃ r, s.Authorized c.sessionId c.context.caller c.ownerEpoch t r ∧
      now = max r.timeFloor t ∧ s' = s.withFloor c.sessionId (max r.timeFloor t) := by
  simp only [approvalAuthorize, looks_done, advanceTimeFloor_bind_done] at h
  obtain ⟨row, hrow, _, howner, rfl, rfl⟩ := h
  obtain ⟨r, hr, hdecodes⟩ := Store.authorized_of_ok hrow howner
  rw [hdecodes.floor]
  exact ⟨r, hr, rfl, rfl⟩

/-- The owner of a session that can be decoded is let through. -/
theorem approvalAuthorize_of_authorized {r : SessionRecord} (hkept : r.Kept)
    (hr : s.Authorized c.sessionId c.context.caller c.ownerEpoch t r) :
    approvalAuthorize c t s =
      .done (max r.timeFloor t) (s.withFloor c.sessionId (max r.timeFloor t)) := by
  obtain ⟨row, hopen, hdecodes, howner⟩ := hr.passes hkept .startOperation
  simp only [approvalAuthorize, looks_done, advanceTimeFloor_bind_done]
  exact ⟨row, hopen, (), hdecodes.floor ▸ howner, by simp [hdecodes.floor]⟩

theorem approvalAuthorize_within (hP : Tolerant W P) :
    Within (Path env P) (approvalAuthorize c t) := by
  refine ⟨fun s now s' h => ?_, observed_refuses hP fun _ _ => ?_⟩
  · obtain ⟨r, hr, -, rfl⟩ := approvalAuthorize_done h
    exact withFloor_path hP hr.found t
  · exact RefusesWithin.bind (by simp) fun _ => by simp

variable {decode : ApprovalResult → Option α} {body : Timestamp → Call α}

/-- An approval mutation that is done was answered from its record, or ran its body. -/
theorem approvalMutation_done {v : Mutation α}
    (h : approvalMutation env t c decode body s = .done v s') :
    s' = s ∨ ∃ r a, s.Authorized c.sessionId c.context.caller c.ownerEpoch t r ∧
      body (max r.timeFloor t) (s.withFloor c.sessionId (max r.timeFloor t)) = .done a s' := by
  simp only [approvalMutation, looks_done] at h
  obtain ⟨replay, -, h⟩ := h
  cases replay with
  | some result =>
    simp only [looks_done] at h
    obtain ⟨_, -, -, rfl⟩ := h
    exact .inl rfl
  | none =>
    obtain ⟨now, s1, hauthorize, h⟩ := bind_done.mp h
    obtain ⟨r, hr, rfl, rfl⟩ := approvalAuthorize_done hauthorize
    obtain ⟨a, s2, hbody, h⟩ := bind_done.mp h
    cases h
    exact .inr ⟨r, a, hr, hbody⟩

theorem approvalMutation_refuses (hP : Tolerant W P)
    (hrefused : ∀ now, RefusesWithin (Path env P) (body now)) :
    RefusesWithin (Path env P) (approvalMutation env t c decode body) := by
  refine .bind (by simp) fun _ => RefusesWithin.bind (by simp) fun replay => ?_
  cases replay with
  | some result => exact RefusesWithin.bind (by simp) fun _ => by simp
  | none => exact RefusesWithin.bind (approvalAuthorize_within hP) fun now =>
      RefusesWithin.map (hrefused now)

variable {wrap : α → Answer}

theorem approvalMutation_path (hP : Tolerant W P)
    (hdone : ∀ r a s', s.Authorized c.sessionId c.context.caller c.ownerEpoch t r →
      body (max r.timeFloor t) (s.withFloor c.sessionId (max r.timeFloor t)) = .done a s' →
      Path env P (s.withFloor c.sessionId (max r.timeFloor t)) s')
    (hrefused : ∀ now, RefusesWithin (Path env P) (body now)) :
    Path env P s (unledgered wrap (approvalMutation env t c decode body) s).2 := by
  refine unledgered_path (fun v s' h => ?_) (approvalMutation_refuses hP hrefused s)
  obtain rfl | ⟨r, a, hr, hbody⟩ := approvalMutation_done h
  · exact .refl
  · exact (withFloor_path hP hr.found t).trans (hdone r a s' hr hbody)

theorem approvalMutation_path_of_within (hP : Tolerant W P)
    (hbody : ∀ now, Within (Path env P) (body now)) :
    Path env P s (unledgered wrap (approvalMutation env t c decode body) s).2 :=
  approvalMutation_path hP (fun _ _ _ _ h => (hbody _).done h) fun now => (hbody now).2

theorem Filed.path {q : RequestId} {table : RequestTable} (hF : ∀ s, P s (.filed q table))
    (h : Filed q table s s') : Path env P s s' :=
  .single (hF s) (.filed h)

theorem finishApproval_within (hP : Tolerant W P)
    (hF : ∀ s, P s (.filed c.context.requestId .approvalMutations)) {about : ApprovalResult}
    {eventType : EventType} :
    Within (Path env P) (finishApproval env c result about revision eventType now) := by
  refine Within.bind (.of_done fun s _ _ h => ?_) fun _ => within_aside hP appendEventData_within
  simp only [approvalRecord, looks_done] at h
  obtain ⟨-, rows, hinsert, -, rfl⟩ := h
  refine Filed.path hF ⟨rfl, fun _ _ => rfl, fun k hk => ?_, fun _ _ => rfl⟩
  exact (Table.find?_insert hinsert k).trans (if_neg fun h => hk (congrArg (·, _) h.symm))

@[simp] theorem approvalUpdateRequest_within :
    Within (Aside env) (approvalUpdateRequest r) := by
  iterate 3 refine .bind (by simp) fun _ => ?_
  exact Within.write fun _ => .of_core rfl

@[simp] theorem approvalUpdateGrant_within : Within (Aside env) (approvalUpdateGrant g) := by
  iterate 3 refine .bind (by simp) fun _ => ?_
  exact Within.write fun _ => .of_core rfl

/-! ### Requests, grants and effects -/

theorem requestApproval_path (hP : Tolerant W P) {c : RequestApproval}
    (hF : ∀ s, P s (.filed c.context.requestId .approvalMutations))
    {wrap : ApprovalRequest → Answer} :
    Path env P s (unledgered wrap (requestApproval env t c) s).2 := by
  refine approvalMutation_path_of_within hP fun now => ?_
  iterate 15 refine .bind (by simp) fun _ => ?_
  refine Within.bind (Within.commit ?_) fun _ => by simp
  iterate 3 refine .bind (by simp) fun _ => ?_
  refine Within.bind (Within.write fun _ => ?_) fun _ =>
    finishApproval_within (c := c.command) hP hF
  exact Aside.path hP (.of_core rfl)

theorem revokeApprovalGrant_path (hP : Tolerant W P) {c : RevokeApprovalGrant}
    (hF : ∀ s, P s (.filed c.context.requestId .approvalMutations))
    {wrap : ApprovalGrant → Answer} :
    Path env P s (unledgered wrap (revokeApprovalGrant env t c) s).2 := by
  refine approvalMutation_path_of_within hP fun now => ?_
  iterate 5 refine .bind (by simp) fun _ => ?_
  refine Within.commit ?_
  iterate 2 refine .bind (by simp) fun _ => ?_
  refine (within_aside hP approvalUpdateGrant_within).bind fun _ => ?_
  refine (within_aside hP approvalUpdateRequest_within).bind fun _ => ?_
  exact (finishApproval_within (c := c.command) hP hF).bind fun _ => by simp

theorem closeConsumed_within : Within (Aside env) (closeConsumed r g) := by
  unfold closeConsumed
  split
  · simp
  · simp

theorem consumeApprovalGrant_path (hP : Tolerant W P) {c : ConsumeApprovalGrant}
    (hF : ∀ s, P s (.filed c.context.requestId .approvalMutations))
    (hE : ∀ s, P s (.filed c.effectId .approvalEffectIntents))
    {wrap : ApprovalGrant × ApprovalEffectIntent → Answer} :
    Path env P s (unledgered wrap (consumeApprovalGrant env t c) s).2 := by
  refine approvalMutation_path_of_within hP fun now => ?_
  iterate 9 refine .bind (by simp) fun _ => ?_
  refine Within.commit (Within.bind (by simp) fun _ => ?_)
  refine (within_aside hP closeConsumed_within).bind fun _ => Within.bind (by simp) fun _ => ?_
  refine (within_aside hP approvalUpdateGrant_within).bind fun _ => .of_done fun s _ s' h => ?_
  simp only [looks_done] at h
  obtain ⟨rows, hinsert, -, h⟩ := h
  refine .trans ?_
    (Within.done h ((finishApproval_within (c := c.command) hP hF).bind fun _ => by simp))
  refine Filed.path hE ⟨rfl, fun k hk => ?_, fun _ _ => rfl, fun _ _ => rfl⟩
  rw [Table.find?_insert hinsert k, if_neg fun h => hk (congrArg (·, _) h.symm)]

theorem finishApprovalEffect_path (hP : Tolerant W P) {c : FinishApprovalEffect}
    (hF : ∀ s, P s (.filed c.context.requestId .approvalMutations))
    {wrap : ApprovalEffectIntent → Answer} :
    Path env P s (unledgered wrap (finishApprovalEffect env t c) s).2 := by
  refine approvalMutation_path_of_within hP fun now => ?_
  iterate 3 refine .bind (by simp) fun _ => ?_
  refine Within.commit ?_
  iterate 3 refine .bind (by simp) fun _ => ?_
  refine Within.bind (Within.write fun s => ?_) fun _ =>
    (finishApproval_within (c := c.command) hP hF).bind fun _ => by simp
  refine Filed.path hF ⟨rfl, fun k _ => ?_, fun _ _ => rfl, fun _ _ => rfl⟩
  exact (congrArg Option.isSome (Table.find?_replace _ _ _)).trans (by split <;> simp)

/-! ### Decisions -/

theorem Store.operationLive_true {sessionId : SessionId} {participantId : ParticipantId}
    {operationId : OperationId} (hs : Sound s)
    (h : s.operationLive sessionId participantId operationId = true) :
    ∃ row ∈ s.operations, row.snapshot.operationId = operationId ∧
      row.snapshot.sessionId = sessionId ∧ row.snapshot.participantId = participantId ∧
      row.snapshot.terminalOutcome = none := by
  obtain ⟨row, hrow, hlive⟩ := (Option.any_eq_true _ _).mp h
  obtain ⟨hsession, hparticipant, hstate⟩ := of_decide_eq_true hlive
  have hmem := Table.mem_of_find? hrow
  refine ⟨row, hmem, Table.key_of_find? hrow, hsession, hparticipant, ?_⟩
  have hread := (hs.operations row hmem).readable.terminal
  rcases hstate with hstate | hstate <;> rw [hstate] at hread <;>
    simpa [OperationState.isTerminal] using hread

/-- A decision is relayed to a participant that is working. -/
theorem insertDecisionRelay_path (hP : Tolerant W P) {requestId : RequestId} {u : Unit}
    (hs : Sound s) (hserves : ∀ s m, s.Serves m → P s (.queued m))
    (hlive : s.operationLive r.sessionId r.requesterId r.operationId = true)
    (hfloor : s.floorOf r.sessionId = some now)
    (h : insertDecisionRelay env requestId r now s = .done u s') : Path env P s s' := by
  obtain ⟨row, hrow, hid, hsession, hparticipant, hnone⟩ := Store.operationLive_true hs hlive
  simp only [insertDecisionRelay, looks_done] at h
  obtain ⟨tag, -, messageId, -, -, h⟩ := h
  obtain ⟨_, s1, hqueue, hevent⟩ := bind_done.mp h
  have hdestination := (hs.operations row hrow).session
  rw [hparticipant, hsession] at hdestination
  have hqueued : Path env P s s1 := by
    refine queueMessage_path (hserves _ _ ?_) hdestination hfloor le_rfl hqueue
    exact ⟨row, hrow, congrArg some hid.symm, hparticipant, hsession, hnone⟩
  exact hqueued.trans ((appendMessageEvent_within.1 _ _ _ hevent).path hP)

theorem approveRequest_path {c : ApproveRequest} {wrap : ApprovalRequest × ApprovalGrant → Answer}
    (hs : Sound s) :
    Path env ((Command.approveRequest c).Permits env t s) s
      (unledgered wrap (approveRequest env t c) s).2 := by
  have hP := (Command.approveRequest c).permits_tolerant env t s
  refine approvalMutation_path hP (fun r a s' hr h => ?_) fun now => ?_
  · simp only [looks_done, commit_done] at h
    obtain ⟨pending, -, hvalid, hlive, -, -, revision, -, -, h⟩ := h
    have hsession : pending.sessionId = c.sessionId := by
      simp only [ApproveRequest.isValidAgainst, Bool.and_eq_true, decide_eq_true_eq] at hvalid
      exact hvalid.1.1.1.1.1.1.1.2
    have hfloor : Path env ((Command.approveRequest c).Permits env t s) s _ :=
      withFloor_path hP hr.found t
    obtain ⟨_, s1, hupdate, h⟩ := bind_done.mp h
    have hupdate : Aside env _ s1 := approvalUpdateRequest_within.1 _ _ _ hupdate
    simp only [looks_done] at h
    obtain ⟨-, rows, -, h⟩ := h
    have hgranted : Aside env (s.withFloor c.sessionId (max r.timeFloor t))
        { s1 with approvalGrants := rows } := hupdate.trans (.of_core rfl)
    have hgrantedPath : Path env ((Command.approveRequest c).Permits env t s) _ _ :=
      hgranted.path hP
    obtain ⟨_, s2, hrelay, h⟩ := bind_done.mp h
    obtain ⟨_, s3, hfinish, h⟩ := bind_done.mp h
    cases h
    have hfinished := (finishApproval_within (c := c.command) hP
      fun _ => List.mem_singleton_self _).done hfinish
    refine hgrantedPath.trans ((insertDecisionRelay_path hP
      (hgrantedPath.sound (hfloor.sound hs)) (fun _ _ h => .inl h) ?_ ?_ hrelay).trans hfinished)
    · rw [Store.operationLive, hgranted.operations]
      exact hlive
    · change Store.floorOf _ pending.sessionId = _
      rw [hsession, Store.floorOf, hgranted.sessions]
      exact hr.floorOf
  · iterate 7 refine .bind (by simp) fun _ => ?_
    simp

theorem approvalDecideTerminal_path (hP : Tolerant W P)
    (hF : ∀ s, P s (.filed c.context.requestId .approvalMutations)) {id : ApprovalRequestId}
    {expected : Revision} {status : ApprovalStatus} {wrap : ApprovalRequest → Answer} (hs : Sound s)
    (hserves : ∀ s m, s.Serves m → P s (.queued m)) :
    Path env P s
      (unledgered wrap (approvalDecideTerminal env t c id expected status) s).2 := by
  refine approvalMutation_path hP (fun r a s' hr h => ?_) fun now => ?_
  · simp only [looks_done, commit_done] at h
    obtain ⟨pending, -, ⟨hsession, -, -⟩, -, hlive, revision, -, -, h⟩ := h
    have hfloor : Path env P s _ := withFloor_path hP hr.found t
    obtain ⟨_, s1, hupdate, h⟩ := bind_done.mp h
    have hupdate : Aside env _ s1 := approvalUpdateRequest_within.1 _ _ _ hupdate
    have hupdatePath : Path env P _ _ := hupdate.path hP
    obtain ⟨_, s2, hrelay, h⟩ := bind_done.mp h
    obtain ⟨_, s3, hfinish, h⟩ := bind_done.mp h
    cases h
    have hrelayed : Path env P s1 s2 := by
      unfold relayDenial at hrelay
      split at hrelay
      · next hdenied =>
        change status = .denied at hdenied
        refine insertDecisionRelay_path hP (hupdatePath.sound (hfloor.sound hs)) hserves ?_ ?_
          hrelay
        · rw [Store.operationLive, hupdate.operations]
          exact hlive (by simp [hdenied])
        · change Store.floorOf _ pending.sessionId = _
          rw [hsession, Store.floorOf, hupdate.sessions]
          exact hr.floorOf
      · cases hrelay
        exact .refl
    exact hupdatePath.trans (hrelayed.trans ((finishApproval_within hP hF).done hfinish))
  · iterate 6 refine .bind (by simp) fun _ => ?_
    simp

/-! ### Recoveries -/

theorem commitRecovery_within (hP : Tolerant W P) {c : RecordRecoveryClassifications}
    (hF : ∀ s, P s (.filed c.context.requestId .recoveryClassifications)) :
    Within (Path env P) (commitRecovery env c revision now) := by
  refine .of_done fun s _ s' h => ?_
  simp only [commitRecovery, looks_done] at h
  obtain ⟨-, rows, hinsert, h⟩ := h
  have hrows : Filed c.context.requestId .recoveryClassifications s { s with recoveries := rows } :=
    ⟨rfl, fun _ _ => rfl, fun _ _ => rfl, fun k hk => (Table.find?_insert hinsert k).trans
      (if_neg fun h => hk (congrArg (·, _) h.symm))⟩
  exact (hrows.path hF).trans ((appendEventData_within.1 _ _ _ h).path hP)

theorem recordRecoveryClassifications_path (hP : Tolerant W P) {c : RecordRecoveryClassifications}
    (hF : ∀ s, P s (.filed c.context.requestId .recoveryClassifications)) {wrap : Unit → Answer} :
    Path env P s (unrecorded wrap (recordRecoveryClassifications env t c) s).2 := by
  refine unrecorded_path fun v s' h => ?_
  simp only [recordRecoveryClassifications, looks_done, advanceTimeFloor_bind_done] at h
  obtain ⟨-, -, -, row, hrow, -, -, h⟩ := h
  obtain ⟨r, hr, -, hdecodes⟩ := requireOpenSession_ok hrow
  rw [hdecodes.floor] at h
  refine (withFloor_path hP hr t).trans ?_
  cases hfound : s.recoveries.find? c.context.requestId with
  | some existing =>
    simp only [Store.withFloor, hfound, looks_done] at h
    exact h.2.2 ▸ .refl
  | none =>
    simp only [Store.withFloor, hfound, looks_done] at h
    obtain ⟨-, -, h⟩ := h
    obtain ⟨_, s1, hcommit, h⟩ := bind_done.mp h
    cases h
    exact (commitRecovery_within hP hF).done hcommit

end Navigator
