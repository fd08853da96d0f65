/-
Calls as deeds: effects and tools.

Besides the journal, these calls let time pass, use up grants, publish events and are
recorded; each of them rolls back when it fails.
-/
import Navigator.Deeds.Approvals

namespace Navigator

open Txn Tx

variable {env : Env} {W : LedgerRow → Prop} {P : Store → Label → Prop}
variable {t now : Timestamp} {q : RequestId} {c : TransitionToolInvocation}
  {current : ToolInvocationSnapshot} {connection : ToolProviderConnectionSnapshot}
variable {sessionId : SessionId} {e : EffectJournalEntry}

/-! ### What they have in common -/

theorem authorizeOwner_within (hP : Tolerant W P) {caller : HostId} {epoch : FencingEpoch}
    {action : StoreAction} :
    Within (Path env P) (authorizeOwner sessionId caller epoch action t) :=
  .of_done fun _ _ _ h => by
    obtain ⟨r, hr, -, -, rfl⟩ := authorizeOwner_done h
    exact withFloor_path hP hr.found t

/-- A change of the journal and of nothing else. -/
def Rejournaled (s s' : Store) : Prop := s' = { s with journal := s'.journal }

instance : Std.Refl Rejournaled := ⟨fun _ => rfl⟩

instance : IsTrans Store Rejournaled where
  trans s₁ s₂ s₃ h₁ h₂ := by
    unfold Rejournaled at h₁ h₂ ⊢
    rw [h₂, h₁]

theorem Rejournaled.grants {s s' : Store} (h : Rejournaled s s') : s'.grants = s.grants := by
  rw [h]

theorem Rejournaled.path (hJ : ∀ s, P s .journal) {s s' : Store} (h : Rejournaled s s') :
    Path env P s s' := by
  rw [h]
  exact .single (hJ s) (.journal s'.journal)

theorem within_journal (hJ : ∀ s, P s .journal) {ρ α : Type} {x : Tx Store ρ StoreError α}
    (h : Within Rejournaled x) : Within (Path env P) x :=
  h.mono fun _ _ h => h.path hJ

@[simp] theorem writeJournal_within {f : Store → Journal} :
    Within Rejournaled (Tx.write fun s => { s with journal := f s } : Write Unit) :=
  .write fun _ => rfl

section Parts

variable {R : Store → Store → Prop} [IsTrans Store R] [Std.Refl R]

@[simp] theorem rejectGlobalRequestCollision_within : Within R (rejectGlobalRequestCollision q) :=
  .bind .read fun _ => .ensure

@[simp] theorem rejectRecoveryRequestCollision_within :
    Within R (rejectRecoveryRequestCollision q) :=
  .bind .read fun _ => .ensure

@[simp] theorem rejectEffectRequestCollision_within : Within R (rejectEffectRequestCollision q) :=
  .bind .read fun _ => .ensure

@[simp] theorem rejectEffectIdentityCollision_within {e : RequestId} :
    Within R (rejectEffectIdentityCollision q e) :=
  .bind .ensure fun _ => .bind .read fun _ => .ensure

end Parts

/-! ### Writes -/

@[simp] theorem insertEffect_within : Within Rejournaled (insertEffect e) :=
  .bind .ensure fun _ => .bind .read fun _ => .bind .orAbort fun _ => writeJournal_within

@[simp] theorem updateEffect_within : Within Rejournaled (updateEffect e) :=
  .bind .ensure fun _ => .bind .read fun _ => .bind .ensure fun _ => writeJournal_within

@[simp] theorem recordEffectMutation_within {row : EffectMutationRow} :
    Within Rejournaled (recordEffectMutation row) :=
  .bind .read fun _ => .bind .orAbort fun _ => writeJournal_within

@[simp] theorem rebindPending_within {providerId : ToolProviderId}
    {connectionId : ToolConnectionId} {generation : ℕ} :
    Within Rejournaled (rebindPending sessionId providerId connectionId generation) :=
  .bind .read fun _ => .bind .ensure fun _ => writeJournal_within

@[simp] theorem takeSequence_within {c : ToolProviderConnectionSnapshot} :
    Within Rejournaled (takeSequence c) :=
  .bind .ensure fun _ => writeJournal_within

@[simp] theorem insertToolInvocation_within {row : ToolInvocationRow} :
    Within Rejournaled (insertToolInvocation row) :=
  .bind .read fun _ => .bind .ensure fun _ => .bind .read fun _ => .bind .orAbort fun _ =>
    writeJournal_within

@[simp] theorem recordToolMutation_within {t : ToolInvocationSnapshot} :
    Within Rejournaled (recordToolMutation env c t) :=
  .bind .read fun _ => .bind .orAbort fun _ => writeJournal_within

@[simp] theorem TransitionToolInvocation.dispatch_within :
    Within Rejournaled (c.dispatch env current connection) := by
  unfold TransitionToolInvocation.dispatch
  split <;> simp

@[simp] theorem resolveTool_within {c : ResolveAuthorizedEffect} {revision : Revision} :
    Within Rejournaled (resolveTool env c revision) := by
  refine .bind (by simp) fun row => ?_
  split
  · simp
  · iterate 3 refine .bind (by simp) fun _ => ?_
    exact writeJournal_within

section Calls

variable (hP : Tolerant W P) (hJ : ∀ s, P s .journal)
variable {effect : EffectJournalEntry}
include hP hJ

omit hP in
theorem effectMutation_within {α : Type} {context : RequestContext}
    {effectRequestId : RequestId} {digest : Digest} {onReplay : EffectMutationResult → Write α}
    {result : α → EffectMutationResult} {body : Write α}
    (hreplay : ∀ r, Within (Path env P) (onReplay r)) (hbody : Within (Path env P) body) :
    Within (Path env P)
      (effectMutation context effectRequestId digest onReplay result body) := by
  unfold effectMutation
  iterate 5 refine .bind (by simp) fun _ => ?_
  split
  · exact (hreplay _).bind fun _ => by simp
  · refine hbody.bind fun _ => Within.bind ?_ fun _ => by simp
    exact within_journal hJ recordEffectMutation_within

/-! ### Effects -/

theorem reserveEffect_within {c : ReserveEffect} :
    Within (Path env P) (reserveEffect env t c) := by
  unfold reserveEffect
  iterate 6 refine .bind (by simp) fun _ => ?_
  refine (authorizeOwner_within hP).bind fun v => ?_
  iterate 9 refine .bind (by simp) fun _ => ?_
  split
  · refine .bind (by simp) fun _ => ?_
    split
    · refine .bind (by simp) fun _ => ?_
      exact (within_journal hJ updateEffect_within).bind fun _ => by simp
    · simp
  · refine .bind (by simp) fun _ => ?_
    exact (within_journal hJ insertEffect_within).bind fun _ => by simp

theorem transitionEffect_within {c : EffectTransition} :
    Within (Path env P) (transitionEffect env t c) := by
  refine effectMutation_within hJ (fun _ => by simp) ?_
  iterate 3 refine .bind (by simp) fun _ => ?_
  refine (authorizeOwner_within hP).bind fun v => ?_
  iterate 3 refine .bind (by simp) fun _ => ?_
  exact (within_journal hJ updateEffect_within).bind fun _ => by simp

theorem takeoverEffect_within {c : TakeoverEffect} :
    Within (Path env P) (takeoverEffect env t c) := by
  refine .bind (by simp) fun _ => effectMutation_within hJ (fun _ => by simp) ?_
  iterate 3 refine .bind (by simp) fun _ => ?_
  refine (authorizeOwner_within hP).bind fun v => ?_
  iterate 3 refine .bind (by simp) fun _ => ?_
  exact (within_journal hJ updateEffect_within).bind fun _ => by simp

/-! ### Tools -/

omit hP in
theorem registerTool_within {c : RegisterTool} (hP : Tolerant (Writes env c) P) :
    Within (Path env P) (registerTool env t c) := by
  refine replayOrWrite_within (fun value => by simp) ?_
  refine (authorizeOwner_within hP).bind fun v => ?_
  iterate 4 refine .bind (by simp) fun _ => ?_
  split
  · refine .bind (by simp) fun _ => ?_
    exact (record_within hP).bind fun _ => by simp
  iterate 4 refine .bind (by simp) fun _ => ?_
  refine (within_journal hJ writeJournal_within).bind fun _ => ?_
  refine (within_aside hP appendEvent_within).bind fun _ => ?_
  exact (record_within hP).bind fun _ => by simp

omit hP in
theorem connectToolProvider_within {c : ConnectToolProvider} (hP : Tolerant (Writes env c) P) :
    Within (Path env P) (connectToolProvider env t c) := by
  iterate 2 refine .bind (by simp) fun _ => ?_
  refine replayOrWrite_within (fun value => by simp) ?_
  refine (authorizeOwner_within hP).bind fun v => ?_
  iterate 8 refine .bind (by simp) fun _ => ?_
  refine (within_journal hJ writeJournal_within).bind fun _ => ?_
  refine (within_journal hJ rebindPending_within).bind fun _ => ?_
  refine .bind (by simp) fun _ => ?_
  refine (within_aside hP appendEvent_within).bind fun _ => ?_
  exact (record_within hP).bind fun _ => by simp

theorem dispatchTool_within {c : ReserveToolInvocation} {registration : ToolRegistrationSnapshot} :
    Within (Path env P) (dispatchTool env c registration connection now) := by
  refine (within_journal hJ takeSequence_within).bind fun _ => ?_
  iterate 10 refine .bind (by simp) fun _ => ?_
  refine (within_journal hJ insertEffect_within).bind fun _ => Within.bind (by simp) fun _ => ?_
  refine (within_journal hJ insertToolInvocation_within).bind fun _ => ?_
  exact (within_aside hP appendEvent_within).bind fun _ => by simp

theorem reserveToolInvocation_within {c : ReserveToolInvocation} :
    Within (Path env P) (reserveToolInvocation env t c) := by
  iterate 9 refine .bind (by simp) fun _ => ?_
  split
  · unfold reserveToolAgain
    repeat refine .bind (by simp) fun _ => ?_
    simp
  · refine (authorizeOwner_within hP).bind fun v => ?_
    iterate 9 refine .bind (by simp) fun _ => ?_
    exact (dispatchTool_within hP hJ).bind fun _ => by simp

omit hJ in
theorem authorizeStart_within : Within (Path env P) (authorizeStart current now) :=
  .of_done fun _ _ _ h => by
    obtain ⟨-, -, _, hdecision, hconsume⟩ := authorizeStart_done h
    exact (consumeGrant_aside (Store.usable_of_effectDecision hdecision) hconsume).path hP

theorem moveTool_within : Within (Path env P) (moveTool env c current effect connection now) := by
  iterate 2 refine .bind (by simp) fun _ => ?_
  refine (within_journal hJ TransitionToolInvocation.dispatch_within).bind fun _ => ?_
  refine .bind (by simp) fun _ => (within_journal hJ updateEffect_within).bind fun _ => ?_
  refine (within_journal hJ writeJournal_within).bind fun _ => ?_
  refine (within_aside hP appendEventData_within).bind fun _ => ?_
  exact (within_journal hJ recordToolMutation_within).bind fun _ => by simp

omit hJ in
theorem authorizeTransition_within :
    Within (Path env P) (authorizeTransition c current now) := by
  unfold authorizeTransition
  split
  · exact authorizeStart_within hP
  · simp

theorem answerTool_within :
    Within (Path env P) (answerTool env c current effect connection now) := by
  refine .bind (by simp) fun _ => ?_
  split
  · refine .bind (by simp) fun _ => ?_
    exact (within_journal hJ recordToolMutation_within).bind fun _ => by simp
  · exact (moveTool_within hP hJ).bind fun _ => by simp

theorem transitionToolInvocation_within :
    Within (Path env P) (transitionToolInvocation env t c) := by
  refine .bind (by simp) fun row => ?_
  split
  · simp
  iterate 6 refine .bind (by simp) fun _ => ?_
  refine (authorizeOwner_within hP).bind fun v => ?_
  iterate 8 refine .bind (by simp) fun _ => ?_
  exact (authorizeTransition_within hP).bind fun _ => answerTool_within hP hJ

/-! ### Resolutions -/

theorem resolveAuthorizedEffect_within {c : ResolveAuthorizedEffect} :
    Within (Path env P) (resolveAuthorizedEffect env t c) := by
  refine effectMutation_within hJ (fun r => Within.bind (by simp) fun recorded => by simp) ?_
  refine .of_done fun s v s' h => ?_
  obtain ⟨r, e, g, s₂, hr, hgrounds, htool, s₃, hconsume, hevent⟩ := resolveNew_done h
  have hwrites : Rejournaled (s.withFloor c.sessionId (max r.timeFloor t)) s₂ := by
    rw [Rejournaled, resolveTool_within.done htool]
  have husable : s₂.Usable (some g) := by
    have hbefore := Store.usable_of_effectDecision hgrounds.decided
    rw [Store.namedGrant, Option.bind_some, hgrounds.grant] at hbefore
    rwa [Store.Usable, hwrites.grants]
  calc Path env P s _ := withFloor_path hP hr.found t
    Path env P _ s₂ := hwrites.path hJ
    Path env P s₂ s₃ := (consumeGrant_aside husable hconsume).path hP
    Path env P s₃ s' := (appendEventData_within.done hevent).path hP

end Calls

end Navigator
