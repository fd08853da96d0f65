/-
Calls as deeds: what every call has in common.

A call looks its request up, lets time pass, checks, and writes.  The writes are what
differs; the rest is done once here: a call that is refused has let time pass and been
recorded, a call that is replayed has done nothing.

* **`mutation_path`** — a call is a path of deeds if its body is;
* **`authorize_within`** — the check of the caller's ownership is such a path.
-/
import Navigator.Deeds.Sound

namespace Navigator

open Txn Tx

variable {m : MessageSnapshot} {sessionId : SessionId} {context : RequestContext} {t : Timestamp}
  {R : Store → Store → Prop} {requestId : RequestId} {eventType : EventType}
variable {s s' : Store} {P : Store → Label → Prop} {ρ : Type}

/-! ### What calls may do -/

/-- A message that has work to be delivered to: it is correlated with an unfinished
operation of its destination. -/
def Store.Serves (s : Store) (m : MessageSnapshot) : Prop :=
  ∃ row ∈ s.operations, m.correlation.operationId = some row.snapshot.operationId ∧
    row.snapshot.participantId = m.destination ∧ row.snapshot.sessionId = m.sessionId ∧
    row.snapshot.terminalOutcome = none

/-- A message that is not correlated with a finished operation of its destination. -/
def Store.Harmless (s : Store) (m : MessageSnapshot) : Prop :=
  ∀ row ∈ s.operations, m.correlation.operationId = some row.snapshot.operationId →
    row.snapshot.participantId = m.destination → row.snapshot.terminalOutcome = none

theorem Store.Serves.harmless (h : s.Serves m) : s.Harmless m := by
  intro row hrow hid _
  obtain ⟨row', hrow', hid', -, -, hlive⟩ := h
  rw [hid'] at hid
  rw [Table.key_injOn hrow hrow' (Option.some.inj hid).symm]
  exact hlive

/-- A message about an operation of its session: one of its destination, or of its source. -/
def Store.Links (s : Store) (m : MessageSnapshot) : Prop :=
  ∃ row ∈ s.operations, m.correlation.operationId = some row.snapshot.operationId ∧
    row.snapshot.sessionId = m.sessionId ∧
    (row.snapshot.participantId = m.destination ∨ row.snapshot.participantId = m.source)

/-- The calls that can end an operation. -/
def Command.ends : Command → OperationId → Prop
  | .transitionOperation c, operationId => c.operationId = operationId
  | .cancelSubtree _, _ => True
  | _, _ => False

/-- The calls that can queue a message which does not serve its destination: a message is
enqueued as its sender says, and a question is about the sender's own operation. -/
def Command.posts : Command → Store → MessageSnapshot → Prop
  | .enqueueMessage c, s, m => m.destination = c.destination ∧ m.correlation = c.correlation ∧
      s.Links m
  | .applyHierarchyEffect c, s, m =>
    (∃ messageId operationId delivered code grantId,
      c.effect = .questionUpward messageId operationId delivered code grantId) ∧
      s.Harmless m ∧ s.Links m
  | _, _, _ => False

/-- The calls that can put a delivery in doubt, and the time at which they do. -/
def Command.doubts : Command → Timestamp → Store → MessageSnapshot → Timestamp → Prop
  | .transitionMessageDelivery c, t, s, m, now =>
    c.transition = .acceptanceUnknown ∧ c.messageId = m.messageId ∧
      c.sessionId = m.sessionId ∧ ∃ floor, s.floorOf c.sessionId = some floor ∧ now = max floor t
  | _, _, _, _, _ => False

/-- The calls that change the tables of effects and tools. -/
def Command.isJournal : Command → Bool
  | .reserveEffect _ | .transitionEffect _ | .takeoverEffect _ | .resolveAuthorizedEffect _
  | .registerTool _ | .connectToolProvider _ | .reserveToolInvocation _
  | .transitionToolInvocation _ => true
  | _ => false

/-- The calls that change the tables of artifacts and of what is set aside. -/
def Command.isResource : Command → Bool
  | .reserveCapacity _ | .releaseCapacity _ | .reserveGlobalCapacity _
  | .releaseGlobalCapacity _ | .reserveSubscriptionLease _ | .renewSubscriptionLease _
  | .publishArtifact .. | .logicallyDeleteArtifact .. | .recordPhysicalErasure .. | .reopen => true
  | _ => false

/-- The calls that change the table of launches. -/
def Command.isLaunch : Command → Bool
  | .prepareLaunch _ | .attachLaunch _ | .transitionLaunch _ => true
  | _ => false

/-- The calls that deliver messages. -/
def Command.delivers : Command → Bool
  | .leaseNextMessage _ | .transitionMessageDelivery _ => true
  | _ => false

/-- The transition says that the message was accepted. -/
def DeliveryTransition.accepts : DeliveryTransition → Bool
  | accepted _ => true
  | _ => false

/-- The calls that say so. -/
def Command.accepts : Command → Bool
  | .transitionMessageDelivery c => c.transition.accepts
  | _ => false

/-- The request under which a call is recorded in the ledger. -/
def Command.identity? (env : Env) : Command → Option RequestIdentity
  | .openSession c => some (MutableRequest.identity env c)
  | .registerTemplatesAndOpenSession c => some (MutableRequest.identity env c)
  | .closeSession c => some (MutableRequest.identity env c)
  | .acquireOwnership c => some (MutableRequest.identity env c)
  | .renewOwnership c => some (MutableRequest.identity env c)
  | .releaseOwnership c => some (MutableRequest.identity env c)
  | .prepareLaunch c => some (MutableRequest.identity env c)
  | .attachLaunch c => some (MutableRequest.identity env c)
  | .transitionLaunch c => some (MutableRequest.identity env c)
  | .createRootParticipant c => some (MutableRequest.identity env c)
  | .createChildParticipant c => some (MutableRequest.identity env c)
  | .startOperation c => some (MutableRequest.identity env c)
  | .transitionOperation c => some (MutableRequest.identity env c)
  | .enqueueMessage c => some (MutableRequest.identity env c)
  | .leaseNextMessage c => some (MutableRequest.identity env c)
  | .transitionMessageDelivery c => some (MutableRequest.identity env c)
  | .registerAuthorityTemplatePolicy c => some (MutableRequest.identity env c)
  | .putAuthorityPolicy c => some (MutableRequest.identity env c)
  | .issueGrant c => some (MutableRequest.identity env c)
  | .revokeGrant c => some (MutableRequest.identity env c)
  | .checkAuthorityEffect c => some (MutableRequest.identity env c)
  | .createAuthorizedChild c => some (MutableRequest.identity env c)
  | .cancelSubtree c => some (MutableRequest.identity env c)
  | .authorizedStatus c => some (MutableRequest.identity env c)
  | .applyHierarchyEffect c => some (MutableRequest.identity env c)
  | .registerTool c => some (MutableRequest.identity env c)
  | .connectToolProvider c => some (MutableRequest.identity env c)
  | .publishArtifact c _ => some (MutableRequest.identity env c)
  | .logicallyDeleteArtifact c _ => some (MutableRequest.identity env c)
  | .recordPhysicalErasure c _ _ => some (MutableRequest.identity env c)
  | _ => none

/-- The operation a call starts. -/
def Command.starts : Command → Option OperationId
  | .startOperation c => some c.operationId
  | .createAuthorizedChild c => some c.operationId
  | _ => none

/-- The requests a call enters in the tables of approvals and recoveries. -/
def Command.files : Command → List (RequestId × RequestTable)
  | .requestApproval c => [(c.context.requestId, .approvalMutations)]
  | .approveRequest c => [(c.context.requestId, .approvalMutations)]
  | .denyRequest c => [(c.context.requestId, .approvalMutations)]
  | .expireApproval c => [(c.context.requestId, .approvalMutations)]
  | .revokeApprovalGrant c => [(c.context.requestId, .approvalMutations)]
  | .consumeApprovalGrant c =>
    [(c.context.requestId, .approvalMutations), (c.effectId, .approvalEffectIntents)]
  | .finishApprovalEffect c => [(c.context.requestId, .approvalMutations)]
  | .recordRecoveryClassifications c => [(c.context.requestId, .recoveryClassifications)]
  | _ => []

/-- What a call on the store `s₀` may do in the course of its transaction: what it changes
is as it was when the call began, so nothing is changed twice. -/
def Command.Permits (env : Env) (c : Command) (t : Timestamp) (s₀ s : Store) : Label → Prop
  | .aside | .session | .people => True
  | .launch => c.isLaunch = true
  | .began o => c.starts = some o.operationId
  | .journal => c.isJournal = true
  | .resources => c.isResource = true
  | .recorded row => c.identity? env = some row.identity
  | .filed q table => (q, table) ∈ c.files
  | .advanced o o' => (∃ row ∈ s₀.operations, row.snapshot = o) ∧
      (o'.state.isTerminal = true → c.ends o.operationId)
  | .queued m => s.Serves m ∨ s.operations = s₀.operations ∧ c.posts s₀ m
  | .moved k m m' => (∃ r ∈ s₀.messages, r.snapshot = m) ∧
      (k = .attempt → s.messages = s₀.messages) ∧
      (k = .doubt → c.doubts t s₀ m m'.updatedAt) ∧ c.delivers = true
  | .finished m m' => (∃ r ∈ s₀.messages, r.snapshot = m) ∧
      (m'.state.isAccepted = true → c.accepts = true)

/-! ### Time and the other tables -/

/-- Time may pass, participants may come, rows as `W` says may be written to the ledger, and
the other tables may change, wherever `P` is asked. -/
structure Tolerant (W : LedgerRow → Prop) (P : Store → Label → Prop) : Prop where
  aside : ∀ s, P s .aside
  session : ∀ s, P s .session
  people : ∀ s, P s .people
  recorded : ∀ s row, W row → P s (.recorded row)

/-- The row of a request. -/
def Writes {χ : Type} [MutableRequest χ] (env : Env) (c : χ) (row : LedgerRow) : Prop :=
  some (MutableRequest.identity env c) = some row.identity

theorem Command.permits_tolerant (c : Command) (env : Env) (t : Timestamp) (s₀ : Store) :
    Tolerant (fun row => c.identity? env = some row.identity) (c.Permits env t s₀) :=
  ⟨fun _ => trivial, fun _ => trivial, fun _ => trivial, fun _ _ h => h⟩

theorem Command.permits_journal (env : Env) {c : Command} (t : Timestamp) (s₀ : Store)
    (hc : c.isJournal = true) : ∀ s, c.Permits env t s₀ s .journal :=
  fun _ => hc

theorem Command.permits_resources (env : Env) {c : Command} (t : Timestamp) (s₀ : Store)
    (hc : c.isResource = true) : ∀ s, c.Permits env t s₀ s .resources :=
  fun _ => hc

theorem tolerant_true : Tolerant (fun _ => True) fun _ _ => True :=
  ⟨fun _ => trivial, fun _ => trivial, fun _ => trivial, fun _ _ _ => trivial⟩

/-- Where any row may be written, some may. -/
theorem Tolerant.weaken {W : LedgerRow → Prop} (h : Tolerant (fun _ => True) P) : Tolerant W P :=
  { h with recorded := fun s row _ => h.recorded s row trivial }

theorem LaunchDeed.path {env : Env} (hL : ∀ s, P s .launch) (h : LaunchDeed s s') :
    Path env P s s' :=
  .single (hL s) (.launch h)

section Tolerant

variable {env : Env} {W : LedgerRow → Prop} (hP : Tolerant W P)
variable {epoch : FencingEpoch} {action : StoreAction}
include hP

theorem Aside.path (h : Aside env s s') : Path env P s s' :=
  .single (hP.aside s) (.aside h)

theorem SessionDeed.path (h : SessionDeed s s') : Path env P s s' :=
  .single (hP.session s) (.session h)

theorem PeopleDeed.path (h : PeopleDeed s s') : Path env P s s' :=
  .single (hP.people s) (.people h)

theorem within_aside {α : Type} {x : Tx Store ρ StoreError α} (h : Within (Aside env) x) :
    Within (Path env P) x :=
  h.mono fun _ _ h => h.path hP

theorem withFloor_path {k : SessionId} {r : SessionRecord} (hr : s.sessions.find? k = some r)
    (t : Timestamp) : Path env P s (s.withFloor k (max r.timeFloor t)) := by
  refine SessionDeed.path hP (.floor fun k' => ?_)
  rw [Table.find?_modify]
  by_cases hk : k' = k
  · subst hk
    exact ⟨t, by simp [hr]⟩
  rw [if_neg hk]
  cases s.sessions.find? k' with
  | none => exact ⟨t, rfl⟩
  | some r' => exact ⟨r'.timeFloor, by simp⟩

theorem authorizeLaunch_within :
    Within (Path env P)
      (authorizeLaunch sessionId context epoch action t : Tx Store ρ StoreError _) := by
  refine ⟨fun s result s' h => ?_, RefusesWithin.bind Within.read fun result => ?_⟩
  · simp only [authorizeLaunch, looks_done] at h
    rcases hrow : requireOpenSession sessionId action s with e | row
    · simp only [hrow, pure_done] at h
      exact h.2 ▸ .refl
    simp only [hrow, advanceTimeFloor_bind_done, pure_done] at h
    obtain ⟨r, hr, -, hdecodes⟩ := requireOpenSession_ok hrow
    rw [hdecodes.floor] at h
    exact h.2 ▸ withFloor_path hP hr t
  · cases result with
    | error e => exact RefusesWithin.pure
    | ok row => exact fun _ _ _ h => by cases h

theorem authorize_within : Within (Path env P) (authorize sessionId context epoch action t) :=
  Within.bind (authorizeLaunch_within hP) fun _ => Within.acceptOr

end Tolerant

@[simp] theorem loadTimeFloor_within [IsTrans Store R] [Std.Refl R] :
    Within R (loadTimeFloor sessionId : Tx Store ρ StoreError Timestamp) := by
  unfold loadTimeFloor
  repeat refine .bind (by simp) fun _ => ?_
  simp

@[simp] theorem ensureDerivedCapacity_within [IsTrans Store R] [Std.Refl R] {env : Env}
    {resource : CapacityResource} {amount : ℕ} :
    Within R (ensureDerivedCapacity env sessionId resource amount :
      Tx Store ρ StoreError Unit) := by
  unfold ensureDerivedCapacity
  simp

/-! ### Events and records -/

section Asides

variable {env : Env}

@[simp] theorem appendEventData_within {data : EventData} :
    Within (Aside env) (appendEventData env requestId sessionId revision eventType data t) :=
  .of_done fun _ _ _ h => by
    obtain ⟨e, he, rfl⟩ := appendEventData_done h
    exact .append he

@[simp] theorem appendEvent_within :
    Within (Aside env) (appendEvent env requestId sessionId revision eventType t) :=
  appendEventData_within

@[simp] theorem appendMessageEvent_within :
    Within (Aside env) (appendMessageEvent env requestId m t) :=
  appendEventData_within

@[simp] theorem appendAuthorityEvent_within {p : ParticipantId} :
    Within (Aside env) (appendAuthorityEvent env sessionId context eventType p t) :=
  appendEventData_within

variable {W : LedgerRow → Prop}

theorem insertLedger_within (hP : Tolerant W P) {row : LedgerRow} (hrow : W row) :
    Within (Path env P) (insertLedger row) :=
  .of_done fun s _ _ h => by
    obtain ⟨ledger, hledger, rfl⟩ := insertLedger_done h
    exact .single (hP.recorded s row hrow) (.recorded hledger)

variable {χ : Type} [MutableRequest χ] {c : χ}
variable {revision : Revision} {effect : StoredEffect} {result : StoredValue}

theorem record_within (hP : Tolerant (Writes env c) P) :
    Within (Path env P) (record env sessionId c effect result) :=
  insertLedger_within hP rfl

/-- The end of a call: its event, then its record. -/
theorem told_within (hP : Tolerant (Writes env c) P) {event : Write Unit}
    (hevent : Within (Aside env) event) :
    Within (Path env P) (event >>= fun _ => record env sessionId c effect result) :=
  (within_aside hP hevent).bind fun _ => record_within hP

theorem recordFailure_within (hP : Tolerant (Writes env c) P) {e : StoreError} :
    Within (Path env P) (recordFailure env sessionId c e) :=
  insertLedger_within hP rfl

/-! ### Calls -/

variable {α : Type} {wrap : α → Answer} {onReplay : StoredValue → Write α}
  {body : Call (Mutation α)}

/-- A mutation is refused where its body is. -/
theorem replayOr_refuses (hrefused : RefusesWithin (Path env P) body) :
    RefusesWithin (Path env P) (replayOr env c onReplay body) := by
  refine RefusesWithin.bind ?_ fun value => ?_
  · exact Within.bind (by simp) fun _ => by simp
  · cases value with
    | none => exact hrefused
    | some value => simp

section

variable (hP : Tolerant (Writes env c) P)
include hP

section

variable (hreplay : ∀ value, Within Eq (onReplay value))
include hreplay

/-- A call has done what its body does, or it was refused or replayed, and has let time pass
at most. -/
theorem mutation_cases (hrefused : RefusesWithin (Path env P) body) :
    (∃ v, body s = .done v (ledgered env c wrap (replayOr env c onReplay body) s).2) ∨
    Path env P s (ledgered env c wrap (replayOr env c onReplay body) s).2 := by
  change (∃ v, body s = .done v (settle env c (replayOr env c onReplay body) s).2) ∨
    Path env P s (settle env c (replayOr env c onReplay body) s).2
  obtain ⟨v, s', hbody, heq⟩ | ⟨sessionId, e, s1, s', u, hbody, hrecord, heq⟩ | ⟨e, heq⟩ :=
    settle_cases env c (replayOr env c onReplay body) s
  · rw [heq]
    obtain ⟨value, a, -, h, -⟩ | ⟨-, h⟩ := replayOr_done env hbody
    · exact .inr ((hreplay value).1 _ _ _ h ▸ .refl)
    · exact .inl ⟨v, h⟩
  · rw [heq]
    exact .inr ((replayOr_refuses hrefused s _ s1 hbody).trans
      ((recordFailure_within hP).done hrecord))
  · rw [heq]
    exact .inr .refl

/-- A call leaves the store as its body does, if this is done, or is a path of deeds. -/
theorem mutation_or {Q : Store → Prop}
    (hdone : ∀ v s', body s = .done v s' → Q s' ∨ Path env P s s')
    (hrefused : RefusesWithin (Path env P) body) :
    Q (ledgered env c wrap (replayOr env c onReplay body) s).2 ∨
      Path env P s (ledgered env c wrap (replayOr env c onReplay body) s).2 := by
  obtain ⟨v, h⟩ | h : (∃ v, body s = .done v (ledgered env c wrap _ s).2) ∨ _ :=
    mutation_cases hP hreplay hrefused
  · exact hdone v _ h
  · exact .inr h

/-- **A call is a path of deeds** if its body is, whether it is done or refused; a replay
reads and does nothing. -/
theorem mutation_path (hdone : ∀ v s', body s = .done v s' → Path env P s s')
    (hrefused : RefusesWithin (Path env P) body) :
    Path env P s (ledgered env c wrap (replayOr env c onReplay body) s).2 := by
  obtain ⟨v, h⟩ | h : (∃ v, body s = .done v (ledgered env c wrap _ s).2) ∨ _ :=
    mutation_cases hP hreplay hrefused
  · exact hdone v _ h
  · exact h

/-- A call whose body is within some deeds throughout. -/
theorem mutation_path_of_within (hbody : Within (Path env P) body) :
    Path env P s (ledgered env c wrap (replayOr env c onReplay body) s).2 :=
  mutation_path hP hreplay (fun v s' h => hbody.1 s v s' h) hbody.2

end

end

theorem replayOrWrite_within [IsTrans Store R] [Std.Refl R] {body : Write (Mutation α)}
    (hreplay : ∀ value, Within R (onReplay value)) (hbody : Within R body) :
    Within R (replayOrWrite env c onReplay body) := by
  refine Within.bind (Within.bind (by simp) fun _ => by simp) fun value => ?_
  split
  · exact (hreplay _).bind fun _ => by simp
  · exact hbody

theorem unledgered_path (hdone : ∀ v s', body s = .done v s' → Path env P s s')
    (hrefused : ∀ r s', body s = .refused r s' → Path env P s s') :
    Path env P s (unledgered wrap body s).2 := by
  change Path env P s (settleUnrecorded body s).2
  unfold settleUnrecorded
  cases hbody : body s with
  | done v s' => exact hdone v s' hbody
  | aborted e => exact .refl
  | refused r s' => exact hrefused r s' hbody

theorem unrecorded_path {body : Write (Mutation α)}
    (hdone : ∀ v s', body s = .done v s' → Path env P s s') :
    Path env P s (unrecorded wrap body s).2 :=
  unledgered_path (fun v s' h => hdone v s' (commit_done.mp h)) (RefusesWithin.commit s)

end Asides

end Navigator
