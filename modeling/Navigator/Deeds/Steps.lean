/-
Runs as deeds.

Every call is a path of deeds (`exec_path`), so what the deeds keep is kept by every run.

* **`exec_path`** — a call is a path of deeds it is permitted;
* **`Reachable.sound`** — every store a run leads to is sound;
* **`Run.follows`** — a later state of a run follows an earlier one.
-/
import Navigator.Deeds.Resources

namespace Navigator

open Txn Tx

variable {env : Env} {s s' : Store}
variable {P : Store → Label → Prop}

theorem resources_path {c : Command} {t : Timestamp} {α : Type} {body : Write (Mutation α)}
    {wrap : α → Answer} (hc : c.isResource = true) (hbody : Within Restocked body) :
    Path env (c.Permits env t s) s (unrecorded wrap body s).2 :=
  unrecorded_path fun _ _ h => (within_resources (fun _ => hc) hbody).done h

/-- **A call is a path of deeds**, each permitted to it. -/
theorem exec_path (hs : Sound s) (t : Timestamp) (c : Command) :
    Path env (c.Permits env t s) s (exec env t c s).2 := by
  have hP := c.permits_tolerant env t s
  cases c with
  | openSession c => exact openSession_path hP
  | registerTemplatesAndOpenSession c => exact registerTemplatesAndOpenSession_path hP
  | closeSession c => exact closeSession_path hP
  | acquireOwnership c => exact acquireOwnership_path hP
  | renewOwnership c => exact renewOwnership_path hP
  | releaseOwnership c => exact releaseOwnership_path hP
  | prepareLaunch c => exact prepareLaunch_path hP fun _ => rfl
  | attachLaunch c => exact attachLaunch_path hP fun _ => rfl
  | transitionLaunch c => exact transitionLaunch_path hP fun _ => rfl
  | registerTemplate template => exact registerTemplate_path hP
  | createRootParticipant c => exact createRootParticipant_path hP
  | createChildParticipant c => exact createChildParticipant_path hP
  | startOperation c => exact startOperation_path
  | transitionOperation c => exact transitionOperation_path hs
  | enqueueMessage c => exact enqueueMessage_path
  | leaseNextMessage c => exact leaseNextMessage_path
  | transitionMessageDelivery c => exact transitionMessageDelivery_path
  | registerAuthorityTemplatePolicy c => exact registerAuthorityTemplatePolicy_path hP
  | putAuthorityPolicy c => exact putAuthorityPolicy_path hP
  | issueGrant c => exact issueGrant_path hP
  | revokeGrant c => exact revokeGrant_path hP
  | checkAuthorityEffect c => exact checkAuthorityEffect_path hP
  | createAuthorizedChild c => exact createAuthorizedChild_path
  | cancelSubtree c => exact cancelSubtree_path hs
  | authorizedStatus c => exact authorizedStatus_path hP
  | applyHierarchyEffect c => exact applyHierarchyEffect_path
  | requestApproval c => exact requestApproval_path hP fun _ => List.mem_singleton_self _
  | approveRequest c => exact approveRequest_path hs
  | denyRequest c =>
    exact approvalDecideTerminal_path hP (fun _ => List.mem_singleton_self _) hs fun _ _ h => .inl h
  | expireApproval c =>
    exact approvalDecideTerminal_path hP (fun _ => List.mem_singleton_self _) hs fun _ _ h => .inl h
  | revokeApprovalGrant c =>
    exact revokeApprovalGrant_path hP fun _ => List.mem_singleton_self _
  | consumeApprovalGrant c =>
    exact consumeApprovalGrant_path hP (fun _ => by simp [Command.Permits, Command.files])
      fun _ => by simp [Command.Permits, Command.files]
  | finishApprovalEffect c =>
    exact finishApprovalEffect_path hP fun _ => List.mem_singleton_self _
  | recordRecoveryClassifications c =>
    exact recordRecoveryClassifications_path hP fun _ => List.mem_singleton_self _
  | reserveEffect c =>
    exact unrecorded_path fun _ _ h => (reserveEffect_within hP fun _ => rfl).done h
  | transitionEffect c =>
    exact unrecorded_path fun _ _ h => (transitionEffect_within hP fun _ => rfl).done h
  | takeoverEffect c =>
    exact unrecorded_path fun _ _ h => (takeoverEffect_within hP fun _ => rfl).done h
  | resolveAuthorizedEffect c =>
    exact unrecorded_path fun _ _ h => (resolveAuthorizedEffect_within hP fun _ => rfl).done h
  | registerTool c =>
    have hc := Command.permits_journal env (c := .registerTool c) t s rfl
    exact unrecorded_path fun _ _ h => (registerTool_within hc hP).done h
  | connectToolProvider c =>
    have hc := Command.permits_journal env (c := .connectToolProvider c) t s rfl
    exact unrecorded_path fun _ _ h => (connectToolProvider_within hc hP).done h
  | reserveToolInvocation c =>
    exact unrecorded_path fun _ _ h => (reserveToolInvocation_within hP fun _ => rfl).done h
  | transitionToolInvocation c =>
    exact unrecorded_path fun _ _ h => (transitionToolInvocation_within hP fun _ => rfl).done h
  | validateLaunchAuthority sessionId host epoch =>
    exact unledgered_path (fun _ _ h => (validateLaunchAuthority_within hP).done h)
      fun r s' h => (validateLaunchAuthority_within hP).2 s r s' h
  | loadRecoveryInventory sessionId owner epoch =>
    exact unrecorded_path fun _ _ h => (loadRecoveryInventory_within hP).done h
  | reserveCapacity c => exact resources_path rfl reserveCapacity_within
  | releaseCapacity reservationId => exact resources_path rfl releaseCapacity_within
  | reserveGlobalCapacity c => exact resources_path rfl reserveGlobalCapacity_within
  | releaseGlobalCapacity reservationId => exact resources_path rfl releaseGlobalCapacity_within
  | reserveSubscriptionLease c => exact resources_path rfl reserveSubscriptionLease_within
  | renewSubscriptionLease c => exact resources_path rfl renewSubscriptionLease_within
  | publishArtifact c now =>
    have hc := Command.permits_resources env (c := .publishArtifact c now) t s rfl
    exact unrecorded_path fun _ _ h => (publishArtifact_within hc hP).done h
  | logicallyDeleteArtifact c now =>
    have hc := Command.permits_resources env (c := .logicallyDeleteArtifact c now) t s rfl
    exact unrecorded_path fun _ _ h => (logicallyDeleteArtifact_within hc hP).done h
  | authorizePhysicalErasure c checkedAt =>
    exact unrecorded_path fun _ _ h => (authorizePhysicalErasure_within hP).done h
  | recordPhysicalErasure c checkedAt now =>
    have hc := Command.permits_resources env (c := .recordPhysicalErasure c checkedAt now) t s rfl
    exact unrecorded_path fun _ _ h => (recordPhysicalErasure_within hc hP).done h
  | readArtifact c => exact unrecorded_path fun _ _ h => (readArtifact_within hP).done h
  | reopen => exact resources_path rfl reconcileAbandonedSubscriptions_within.map

/-- A step is a path of the deeds permitted to a call. -/
theorem Step.path (hs : Sound s) (h : Step env s s')
    (hcall : ∀ t (c : Command) s1 l, c.Permits env t s s1 l → P s1 l) : Path env P s s' := by
  cases h with
  | call t c => exact (exec_path hs t c).mono (hcall t c)

/-- A step under a condition is a path of the deeds permitted to the calls that meet it. -/
theorem StepIf.path {ok : Timestamp → Command → Store → Prop} (hs : Sound s)
    (h : StepIf env ok s s') (hcall : ∀ t c s1 l, ok t c s → c.Permits env t s s1 l → P s1 l) :
    Path env P s s' := by
  cases h with
  | call t c hok => exact (exec_path hs t c).mono fun s1 l => hcall t c s1 l hok

/-- What the deeds of a step keep, the step keeps. -/
theorem Step.keeps {I : Store → Prop} (hdeed : ∀ s s' l, Deed env l s s' → Sound s → I s → I s')
    (hs : Sound s) (h : Step env s s') (h0 : I s) : I s' := by
  have hpath := h.path hs fun _ _ _ _ _ => trivial
  exact (hpath.keeps (I := fun s => Sound s ∧ I s)
    (fun s s' l _ hd ⟨hs, hI⟩ => ⟨hd.sound hs, hdeed s s' l hd hs hI⟩) ⟨hs, h0⟩).2

theorem Step.follows (hs : Sound s) (h : Step env s s') : Follows s s' :=
  (h.path hs fun _ _ _ _ _ => trivial).follows

theorem Step.sound (hs : Sound s) (h : Step env s s') : Sound s' :=
  (h.path hs fun _ _ _ _ _ => trivial).sound hs

/-- Every store a run leads to is sound. -/
theorem Reachable.sound (h : Reachable env s) : Sound s :=
  h.rec' .empty fun _ _ _ hs hstep => hstep.sound hs

theorem Run.sound (hs : Sound s) (h : Run env s s') : Sound s' := by
  induction h with
  | refl => exact hs
  | tail _ hstep ih => exact hstep.sound ih

/-- A later state of a run follows an earlier one. -/
theorem Run.follows (hs : Sound s) (h : Run env s s') : Follows s s' := by
  induction h with
  | refl => exact .refl s
  | tail hrun hstep ih => exact ih.trans (hstep.follows (Run.sound hs hrun))

end Navigator
