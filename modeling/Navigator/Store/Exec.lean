/-
Runs of the store.

`exec` is one call: a command, a reading of the clock, and the store before it give
the answer and the store after it.  Calls are transactions that take the write lock
first, so an interleaving of calls is a sequence of them; that the store is closed and opened
again is one of them.  The clock is not assumed to go forward.
-/
import Navigator.Store.Artifacts
import Navigator.Store.Resolution

namespace Navigator

open Txn Tx

variable {env : Env} {s : Store}
variable {P : Store → Prop}

/-! ### Commands -/

inductive Command where
  | openSession (c : OpenSession)
  | registerTemplatesAndOpenSession (c : RegisterTemplatesAndOpenSession)
  | closeSession (c : CloseSession)
  | acquireOwnership (c : AcquireOwnership)
  | renewOwnership (c : RenewOwnership)
  | releaseOwnership (c : ReleaseOwnership)
  | prepareLaunch (c : PrepareLaunch)
  | attachLaunch (c : AttachLaunch)
  | transitionLaunch (c : TransitionLaunch)
  | registerTemplate (template : TemplateRecord)
  | createRootParticipant (c : CreateRootParticipant)
  | createChildParticipant (c : CreateChildParticipant)
  | startOperation (c : StartOperation)
  | transitionOperation (c : TransitionOperation)
  | enqueueMessage (c : EnqueueMessage)
  | leaseNextMessage (c : LeaseNextMessage)
  | transitionMessageDelivery (c : TransitionMessageDelivery)
  | registerAuthorityTemplatePolicy (c : RegisterAuthorityTemplatePolicy)
  | putAuthorityPolicy (c : PutAuthorityPolicy)
  | issueGrant (c : IssueGrant)
  | revokeGrant (c : RevokeGrant)
  | checkAuthorityEffect (c : CheckAuthorityEffect)
  | createAuthorizedChild (c : CreateAuthorizedChild)
  | cancelSubtree (c : CancelSubtree)
  | authorizedStatus (c : AuthorizedStatus)
  | applyHierarchyEffect (c : ApplyHierarchyEffect)
  | requestApproval (c : RequestApproval)
  | approveRequest (c : ApproveRequest)
  | denyRequest (c : DenyRequest)
  | expireApproval (c : ExpireApproval)
  | revokeApprovalGrant (c : RevokeApprovalGrant)
  | consumeApprovalGrant (c : ConsumeApprovalGrant)
  | finishApprovalEffect (c : FinishApprovalEffect)
  | recordRecoveryClassifications (c : RecordRecoveryClassifications)
  | reserveEffect (c : ReserveEffect)
  | transitionEffect (c : EffectTransition)
  | takeoverEffect (c : TakeoverEffect)
  | resolveAuthorizedEffect (c : ResolveAuthorizedEffect)
  | registerTool (c : RegisterTool)
  | connectToolProvider (c : ConnectToolProvider)
  | reserveToolInvocation (c : ReserveToolInvocation)
  | transitionToolInvocation (c : TransitionToolInvocation)
  | validateLaunchAuthority (sessionId : SessionId) (host : HostId) (epoch : FencingEpoch)
  | loadRecoveryInventory (sessionId : SessionId) (owner : HostId) (epoch : FencingEpoch)
  | reserveCapacity (c : ReserveCapacity)
  | releaseCapacity (reservationId : RequestId)
  | reserveGlobalCapacity (c : ReserveGlobalCapacity)
  | releaseGlobalCapacity (reservationId : RequestId)
  | reserveSubscriptionLease (c : ReserveSubscriptionLease)
  | renewSubscriptionLease (c : ReserveSubscriptionLease)
  /-- These calls read the clock more than once; the later readings come with the call. -/
  | publishArtifact (c : PublishArtifact) (now : Timestamp)
  | logicallyDeleteArtifact (c : DeleteArtifact) (now : Timestamp)
  | authorizePhysicalErasure (c : EraseArtifact) (checkedAt : Timestamp)
  | recordPhysicalErasure (c : EraseArtifact) (checkedAt now : Timestamp)
  | readArtifact (c : ArtifactAccess)
  /-- The store is closed, or its process dies, and it is opened again. -/
  | reopen

/-- What a call returns. -/
inductive Answer where
  | session (snapshot : SessionSnapshot)
  | lease (lease : OwnershipLease)
  | ownership (snapshot : OwnershipSnapshot)
  | launch (snapshot : LaunchSnapshot)
  | template (record : TemplateRecord)
  | participant (snapshot : ParticipantSnapshot)
  | operation (snapshot : OperationSnapshot)
  | message (snapshot : MessageSnapshot)
  | optionalMessage (snapshot : Option MessageSnapshot)
  | templatePolicy (policy : AuthorityTemplatePolicy)
  | policy (policy : AuthorityPolicySnapshot)
  | grant (snapshot : GrantSnapshot)
  | effect (outcome : AuthorityEffectOutcome)
  | child (outcome : AuthorizedChildOutcome)
  | cancellation (outcome : CancelSubtreeOutcome)
  | status (outcome : AuthorizedStatusOutcome)
  | hierarchy (outcome : HierarchyEffectOutcome)
  | approvalRequest (request : ApprovalRequest)
  | approved (result : ApprovalRequest × ApprovalGrant)
  | approvalGrant (grant : ApprovalGrant)
  | consumed (result : ApprovalGrant × ApprovalEffectIntent)
  | approvalEffect (effect : ApprovalEffectIntent)
  | recovery
  | effectEntry (entry : EffectJournalEntry)
  | resolution (outcome : AuthorizedEffectResolution)
  | toolRegistration (snapshot : ToolRegistrationSnapshot)
  | toolConnection (snapshot : ToolProviderConnectionSnapshot)
  | toolInvocation (snapshot : ToolInvocationSnapshot)
  | authority
  | inventory (inventory : RecoveryInventory)
  | reservation (reservation : CapacityReservation)
  | globalReservation (reservation : GlobalCapacityReservation)
  | subscription (lease : SubscriptionLease)
  | artifact (snapshot : ArtifactSnapshot)
  | reopened
deriving DecidableEq

abbrev Result := Except StoreError (Mutation Answer)

/-- The answer of a call to a mutation that is recorded in the ledger. -/
def ledgered {χ α : Type} [MutableRequest χ] (env : Env) (c : χ) (wrap : α → Answer)
    (body : Call (Mutation α)) (s : Store) : Result × Store :=
  let (result, s') := settle env c body s
  (result.map (Mutation.map wrap), s')

/-- The answer of a call to a mutation that is not. -/
def unledgered {α : Type} (wrap : α → Answer) (body : Call (Mutation α)) (s : Store) :
    Result × Store :=
  let (result, s') := settleUnrecorded body s
  (result.map (Mutation.map wrap), s')

/-- The answer of a call whose every failure is rolled back and leaves no record. -/
def unrecorded {α : Type} (wrap : α → Answer) (body : Write (Mutation α)) (s : Store) :
    Result × Store :=
  unledgered wrap (commit body) s

/-- One call, with the clock at `t`. -/
def exec (env : Env) (t : Timestamp) : Command → Store → Result × Store
  | .openSession c => ledgered env c .session (openSession env t c)
  | .registerTemplatesAndOpenSession c =>
    ledgered env c .session (registerTemplatesAndOpenSession env t c)
  | .closeSession c => ledgered env c .session (closeSession env t c)
  | .acquireOwnership c => ledgered env c .lease (acquireOwnership env t c)
  | .renewOwnership c => ledgered env c .lease (renewOwnership env t c)
  | .releaseOwnership c => ledgered env c .ownership (releaseOwnership env t c)
  | .prepareLaunch c => ledgered env c .launch (prepareLaunch env t c)
  | .attachLaunch c => ledgered env c .launch (attachLaunch env t c)
  | .transitionLaunch c => ledgered env c .launch (transitionLaunch env t c)
  | .registerTemplate template => unledgered .template (registerTemplate env template)
  | .createRootParticipant c => ledgered env c .participant (createRootParticipant env t c)
  | .createChildParticipant c => ledgered env c .participant (createChildParticipant env t c)
  | .startOperation c => ledgered env c .operation (startOperation env t c)
  | .transitionOperation c => ledgered env c .operation (transitionOperation env t c)
  | .enqueueMessage c => ledgered env c .message (enqueueMessage env t c)
  | .leaseNextMessage c => ledgered env c .optionalMessage (leaseNextMessage env t c)
  | .transitionMessageDelivery c =>
    ledgered env c .message (transitionMessageDelivery env t c)
  | .registerAuthorityTemplatePolicy c =>
    ledgered env c .templatePolicy (registerAuthorityTemplatePolicy env t c)
  | .putAuthorityPolicy c => ledgered env c .policy (putAuthorityPolicy env t c)
  | .issueGrant c => ledgered env c .grant (issueGrant env t c)
  | .revokeGrant c => ledgered env c .grant (revokeGrant env t c)
  | .checkAuthorityEffect c => ledgered env c .effect (checkAuthorityEffect env t c)
  | .createAuthorizedChild c => ledgered env c .child (createAuthorizedChild env t c)
  | .cancelSubtree c => ledgered env c .cancellation (cancelSubtree env t c)
  | .authorizedStatus c => ledgered env c .status (authorizedStatus env t c)
  | .applyHierarchyEffect c => ledgered env c .hierarchy (applyHierarchyEffect env t c)
  | .requestApproval c => unledgered .approvalRequest (requestApproval env t c)
  | .approveRequest c => unledgered .approved (approveRequest env t c)
  | .denyRequest c => unledgered .approvalRequest (denyRequest env t c)
  | .expireApproval c => unledgered .approvalRequest (expireApproval env t c)
  | .revokeApprovalGrant c => unledgered .approvalGrant (revokeApprovalGrant env t c)
  | .consumeApprovalGrant c => unledgered .consumed (consumeApprovalGrant env t c)
  | .finishApprovalEffect c => unledgered .approvalEffect (finishApprovalEffect env t c)
  | .recordRecoveryClassifications c =>
    unrecorded (fun _ => .recovery) (recordRecoveryClassifications env t c)
  | .reserveEffect c => unrecorded .effectEntry (reserveEffect env t c)
  | .transitionEffect c => unrecorded .effectEntry (transitionEffect env t c)
  | .takeoverEffect c => unrecorded .effectEntry (takeoverEffect env t c)
  | .resolveAuthorizedEffect c => unrecorded .resolution (resolveAuthorizedEffect env t c)
  | .registerTool c => unrecorded .toolRegistration (registerTool env t c)
  | .connectToolProvider c => unrecorded .toolConnection (connectToolProvider env t c)
  | .reserveToolInvocation c => unrecorded .toolInvocation (reserveToolInvocation env t c)
  | .transitionToolInvocation c =>
    unrecorded .toolInvocation (transitionToolInvocation env t c)
  | .validateLaunchAuthority sessionId host epoch =>
    unledgered (fun _ => .authority) (validateLaunchAuthority t sessionId host epoch)
  | .loadRecoveryInventory sessionId owner epoch =>
    unrecorded .inventory (loadRecoveryInventory t sessionId owner epoch)
  | .reserveCapacity c => unrecorded .reservation (reserveCapacity env c)
  | .releaseCapacity reservationId => unrecorded .reservation (releaseCapacity reservationId)
  | .reserveGlobalCapacity c => unrecorded .globalReservation (reserveGlobalCapacity env c)
  | .releaseGlobalCapacity reservationId =>
    unrecorded .globalReservation (releaseGlobalCapacity reservationId)
  | .reserveSubscriptionLease c => unrecorded .subscription (reserveSubscriptionLease env c)
  | .renewSubscriptionLease c => unrecorded .subscription (renewSubscriptionLease c)
  | .publishArtifact c now => unrecorded .artifact (publishArtifact env t now c)
  | .logicallyDeleteArtifact c now => unrecorded .artifact (logicallyDeleteArtifact env t now c)
  | .authorizePhysicalErasure c checkedAt =>
    unrecorded .artifact (authorizePhysicalErasure env t checkedAt c)
  | .recordPhysicalErasure c checkedAt now =>
    unrecorded .artifact (recordPhysicalErasure env t checkedAt now c)
  | .readArtifact c => unrecorded .artifact (readArtifact t c)
  | .reopen => unrecorded (fun _ => .reopened) (.unchanged <$> reconcileAbandonedSubscriptions)

/-! ### Runs -/

/-- One step of a run. -/
inductive Step (env : Env) : Store → Store → Prop
  | call {s : Store} (t : Timestamp) (c : Command) : Step env s (exec env t c s).2

/-- A run from one state of the store to another. -/
abbrev Run (env : Env) : Store → Store → Prop := Relation.ReflTransGen (Step env)

/-- The states a store can get to. -/
def Reachable (env : Env) (s : Store) : Prop := Run env Store.empty s

/-- **Induction over runs**: what holds of the empty store and is kept by every step from
a reachable state holds of every reachable state. -/
theorem Reachable.rec' (empty : P Store.empty)
    (step : ∀ s s', Reachable env s → P s → Step env s s' → P s') (h : Reachable env s) : P s := by
  unfold Reachable at h
  induction h with
  | refl => exact empty
  | tail hs hstep ih => exact step _ _ hs ih hstep

/-- One step of a run whose calls all meet a condition: on the clock, on what is called, and
on the store before it. -/
inductive StepIf (env : Env) (ok : Timestamp → Command → Store → Prop) : Store → Store → Prop
  | call {s : Store} (t : Timestamp) (c : Command) (h : ok t c s) :
      StepIf env ok s (exec env t c s).2

/-- The states a store can get to by such runs. -/
def ReachableIf (env : Env) (ok : Timestamp → Command → Store → Prop) (s : Store) : Prop :=
  Relation.ReflTransGen (StepIf env ok) Store.empty s

variable {ok : Timestamp → Command → Store → Prop}

theorem StepIf.step {s' : Store} (h : StepIf env ok s s') : Step env s s' := by
  cases h with
  | call t c => exact .call t c

theorem ReachableIf.reachable (h : ReachableIf env ok s) : Reachable env s :=
  Relation.ReflTransGen.mono (fun _ _ => StepIf.step) _ _ h

theorem ReachableIf.rec' (empty : P Store.empty)
    (step : ∀ s s', Reachable env s → P s → StepIf env ok s s' → P s') (h : ReachableIf env ok s) :
    P s := by
  unfold ReachableIf at h
  induction h with
  | refl => exact empty
  | tail hs hstep ih => exact step _ _ (ReachableIf.reachable hs) ih hstep

/-- The store after some calls, each with its reading of the clock. -/
def calls (env : Env) : List (Timestamp × Command) → Store → Store
  | [], s => s
  | (t, c) :: rest, s => calls env rest (exec env t c s).2

theorem run_calls (cs : List (Timestamp × Command)) (s : Store) :
    Run env s (calls env cs s) := by
  induction cs generalizing s with
  | nil => exact .refl
  | cons tc rest ih => exact .head (.call tc.1 tc.2) (ih _)

/-- Calls that meet a condition on any store. -/
theorem ReachableIf.calls {cs : List (Timestamp × Command)} (h : ReachableIf env ok s)
    (hok : ∀ tc ∈ cs, ∀ s, ok tc.1 tc.2 s) : ReachableIf env ok (calls env cs s) := by
  induction cs generalizing s with
  | nil => exact h
  | cons tc rest ih =>
    obtain ⟨htc, hrest⟩ := List.forall_mem_cons.mp hok
    exact ih (h.tail (.call tc.1 tc.2 (htc s))) hrest

theorem reachable_calls (cs : List (Timestamp × Command)) :
    Reachable env (calls env cs .empty) :=
  run_calls cs .empty

end Navigator
