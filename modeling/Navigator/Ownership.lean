/-
Ownership is fenced.

A session row is a fence (`SessionRecord.fence`), and a run moves it only as fences move
(`Run.follows`).  What is left to see is that a call made under an ownership takes effect
only if the fence lets its host and epoch through (`Applies.authorized`), and what an
applied acquisition, release or close leaves behind.

* **`ownership_is_fenced`** — epochs increase, time does not go back, one owner is let
  through at a time, and an ownership that is lost is lost for good.
-/
import Navigator.Deeds.Changes

namespace Navigator

open Txn Tx

variable {env : Env} {s s' : Store}
variable {k : SessionId} {h : HostId} {e : FencingEpoch} {r : SessionRecord}
variable {t now : Timestamp} {c : Command} {a : Answer}

/-! ### Calls that take effect -/

/-- The call takes effect, and answers `a`. -/
def Applies (env : Env) (t : Timestamp) (c : Command) (s : Store) (a : Answer) : Prop :=
  (exec env t c s).1 = .ok (.applied a)

instance {t : Timestamp} {c : Command} {a : Answer} : Decidable (Applies env t c s a) := by
  unfold Applies
  infer_instance

def Result.isApplied : Result → Bool
  | .ok (.applied _) => true
  | _ => false

theorem Result.exists_applied {r : Result} (h : r.isApplied = true) :
    ∃ a, r = .ok (.applied a) := by
  unfold isApplied at h
  split at h
  · exact ⟨_, rfl⟩
  · cases h

/-- The session, host and epoch under which a call is made.  A change of an effect or of a
tool invocation is made in the session of what it changes. -/
def Command.fence? (s : Store) : Command → Option (SessionId × HostId × FencingEpoch)
  | openSession _ | registerTemplatesAndOpenSession _ | acquireOwnership _
  | registerTemplate _ | reserveCapacity _ | releaseCapacity _ | reserveGlobalCapacity _
  | releaseGlobalCapacity _ | reopen => none
  | closeSession c => some (c.sessionId, c.context.caller, c.epoch)
  | renewOwnership c => some (c.sessionId, c.context.caller, c.epoch)
  | releaseOwnership c => some (c.sessionId, c.context.caller, c.epoch)
  | prepareLaunch c => some (c.sessionId, c.context.caller, c.epoch)
  | attachLaunch c => some (c.sessionId, c.context.caller, c.epoch)
  | transitionLaunch c => some (c.sessionId, c.context.caller, c.epoch)
  | createRootParticipant c => some (c.sessionId, c.context.caller, c.epoch)
  | createChildParticipant c => some (c.sessionId, c.context.caller, c.epoch)
  | startOperation c => some (c.sessionId, c.context.caller, c.epoch)
  | transitionOperation c => some (c.sessionId, c.context.caller, c.epoch)
  | enqueueMessage c => some (c.sessionId, c.context.caller, c.epoch)
  | leaseNextMessage c => some (c.sessionId, c.context.caller, c.epoch)
  | transitionMessageDelivery c => some (c.sessionId, c.context.caller, c.epoch)
  | registerAuthorityTemplatePolicy c => some (c.sessionId, c.context.caller, c.epoch)
  | putAuthorityPolicy c => some (c.sessionId, c.context.caller, c.epoch)
  | issueGrant c => some (c.sessionId, c.context.caller, c.epoch)
  | revokeGrant c => some (c.sessionId, c.context.caller, c.epoch)
  | checkAuthorityEffect c => some (c.sessionId, c.context.caller, c.epoch)
  | createAuthorizedChild c => some (c.sessionId, c.context.caller, c.epoch)
  | cancelSubtree c => some (c.sessionId, c.context.caller, c.epoch)
  | authorizedStatus c => some (c.sessionId, c.context.caller, c.epoch)
  | applyHierarchyEffect c => some (c.sessionId, c.context.caller, c.epoch)
  | requestApproval c => some (c.sessionId, c.context.caller, c.ownerEpoch)
  | approveRequest c => some (c.sessionId, c.context.caller, c.ownerEpoch)
  | denyRequest c => some (c.sessionId, c.context.caller, c.ownerEpoch)
  | expireApproval c => some (c.sessionId, c.context.caller, c.ownerEpoch)
  | revokeApprovalGrant c => some (c.sessionId, c.context.caller, c.ownerEpoch)
  | consumeApprovalGrant c => some (c.sessionId, c.context.caller, c.ownerEpoch)
  | finishApprovalEffect c => some (c.sessionId, c.context.caller, c.ownerEpoch)
  | recordRecoveryClassifications c => some (c.sessionId, c.context.caller, c.epoch)
  | reserveEffect c => some (c.sessionId, c.context.caller, c.ownerEpoch)
  | transitionEffect c => (s.journal.effects.find? c.effectRequestId).map fun e =>
      (e.sessionId, c.context.caller, c.ownerEpoch)
  | takeoverEffect c => (s.journal.effects.find? c.effectRequestId).map fun e =>
      (e.sessionId, c.context.caller, c.ownerEpoch)
  | resolveAuthorizedEffect c => some (c.sessionId, c.context.caller, c.ownerEpoch)
  | registerTool c => some (c.sessionId, c.context.caller, c.ownerEpoch)
  | connectToolProvider c => some (c.sessionId, c.context.caller, c.ownerEpoch)
  | reserveToolInvocation c => some (c.invocation.sessionId, c.context.caller, c.ownerEpoch)
  | transitionToolInvocation c => (s.journal.toolInvocations.find? c.invocationId).map fun r =>
      (r.snapshot.invocation.sessionId, c.context.caller, c.ownerEpoch)
  | validateLaunchAuthority sessionId host epoch => some (sessionId, host, epoch)
  | loadRecoveryInventory sessionId owner epoch => some (sessionId, owner, epoch)
  | reserveSubscriptionLease c | renewSubscriptionLease c =>
    some (c.lease.sessionId, c.lease.ownerHostId, c.lease.ownerEpoch)
  | publishArtifact c _ => some (c.sessionId, c.owner, c.epoch)
  | logicallyDeleteArtifact c _ => some (c.sessionId, c.owner, c.epoch)
  | authorizePhysicalErasure c _ => some (c.sessionId, c.owner, c.epoch)
  | recordPhysicalErasure c _ _ => some (c.sessionId, c.owner, c.epoch)
  | readArtifact c => some (c.sessionId, c.owner, c.epoch)

section Applied

variable {α χ : Type} [MutableRequest χ] {c : χ} {wrap : α → Answer}
  {onReplay : StoredValue → Write α}

/-- A mutation that takes effect ran its body to the end. -/
theorem mutation_applied {body : Call (Mutation α)}
    (h : (ledgered env c wrap (replayOr env c onReplay body) s).1 = .ok (.applied a)) :
    ∃ v s', (ledgered env c wrap (replayOr env c onReplay body) s).2 = s' ∧
      body s = .done (.applied v) s' ∧ a = wrap v := by
  change (settle env c _ s).1.map (Mutation.map wrap) = _ at h
  obtain ⟨v, s', hbody, heq⟩ | ⟨_, _, _, s', _, _, _, heq⟩ | ⟨_, heq⟩ :=
    settle_cases env c (replayOr env c onReplay body) s
  · rw [heq] at h
    cases v with
    | applied v =>
      cases h
      exact ⟨v, s', congrArg Prod.snd heq, replayOr_applied env hbody, rfl⟩
    | replayed v => cases h
    | unchanged v => cases h
  · rw [heq] at h
    cases h
  · rw [heq] at h
    cases h

omit [MutableRequest χ] in
/-- A call without a record that takes effect ran its body to the end. -/
theorem unrecorded_applied {body : Write (Mutation α)}
    (h : (unrecorded wrap body s).1 = .ok (.applied a)) :
    ∃ v, body s = .done (.applied v) (unrecorded wrap body s).2 ∧ a = wrap v := by
  change (settleUnrecorded (commit body) s).1.map (Mutation.map wrap) = _ at h
  change ∃ v, body s = .done (.applied v) (settleUnrecorded (commit body) s).2 ∧ a = wrap v
  unfold settleUnrecorded at h ⊢
  cases hbody : (commit body : Call _) s with
  | done v s' =>
    rw [hbody] at h
    cases v with
    | applied v =>
      cases h
      exact ⟨v, commit_done.mp hbody, rfl⟩
    | replayed v => cases h
    | unchanged v => cases h
  | aborted e =>
    rw [hbody] at h
    cases h
  | refused reason s' => exact (RefusesWithin.commit (R := fun _ _ => False) s _ s' hbody).elim

variable {sessionId : SessionId} {context : RequestContext} {epoch : FencingEpoch}

/-- A mutation that begins with `authorize` takes effect only for the owner. -/
theorem fenced_applied {action : StoreAction} {rest : Unit → Call (Mutation α)}
    (h : (ledgered env c wrap (replayOr env c onReplay
      (authorize sessionId context epoch action t >>= rest)) s).1 = .ok (.applied a)) :
    ∃ r, s.Authorized sessionId context.caller epoch t r := by
  obtain ⟨v, s', -, hdone, -⟩ := mutation_applied h
  obtain ⟨_, s1, hauthorize, -⟩ := bind_done.mp hdone
  obtain ⟨r, hr, -⟩ := authorize_done hauthorize
  exact ⟨r, hr⟩

omit [MutableRequest χ] in
/-- An approval mutation takes effect only for the owner. -/
theorem approval_applied {command : ApprovalCommand} {decode : ApprovalResult → Option α}
    {body : Timestamp → Call α}
    (h : (unledgered wrap (approvalMutation env t command decode body) s).1 = .ok (.applied a)) :
    ∃ r, s.Authorized command.sessionId command.context.caller command.ownerEpoch t r := by
  change (settleUnrecorded (approvalMutation env t command decode body) s).1.map
    (Mutation.map wrap) = _ at h
  unfold settleUnrecorded at h
  cases hbody : approvalMutation env t command decode body s with
  | done v s' =>
    rw [hbody] at h
    simp only [approvalMutation, looks_done] at hbody
    obtain ⟨replay, -, hbody⟩ := hbody
    cases replay with
    | some result =>
      simp only [looks_done] at hbody
      obtain ⟨_, -, rfl, -⟩ := hbody
      cases h
    | none =>
      obtain ⟨now, s1, hauthorize, -⟩ := bind_done.mp hbody
      obtain ⟨r, hr, -, -⟩ := approvalAuthorize_done hauthorize
      exact ⟨r, hr⟩
  | aborted e =>
    rw [hbody] at h
    cases h
  | refused reason s' =>
    rw [hbody] at h
    cases h

/-- A mutation that begins with `authorize_artifact` takes effect only for the owner. -/
theorem artifact_applied {owner : HostId} {rest : Unit → Write (Mutation α)}
    (h : (unrecorded wrap (replayOrWrite env c onReplay
      (authorizeArtifact sessionId owner epoch t >>= rest)) s).1 = .ok (.applied a)) :
    ∃ r, s.Authorized sessionId owner epoch t r := by
  obtain ⟨v, hdone, -⟩ := unrecorded_applied h
  obtain ⟨_, _, -, -, ⟨⟩⟩ | ⟨-, hdone⟩ := replayOrWrite_done env hdone
  obtain ⟨_, s1, hauthorize, -⟩ := bind_done.mp hdone
  obtain ⟨_, r, hr, -⟩ := authorizeOwner_bind_done hauthorize
  exact ⟨r, hr⟩

end Applied

/-- A change of the journal is made by the owner. -/
theorem JournalChange.owner {j : Journal} (hchange : JournalChange env t s c (.ok (.applied a)) j)
    (hc : c.isJournal = true) (hfence : c.fence? s = some (k, h, e)) :
    ∃ r, s.Authorized k h e t r := by
  cases hchange with
  | same idle => exact absurd rfl (idle hc a)
  | effectReserved made =>
    cases hfence
    exact ⟨_, made.owner⟩
  | effectLapsed made =>
    cases hfence
    exact ⟨_, made.owner⟩
  | effectMoved made =>
    rw [Command.fence?, made.found] at hfence
    cases hfence
    exact ⟨_, made.owner⟩
  | effectTaken made =>
    rw [Command.fence?, made.found] at hfence
    cases hfence
    exact ⟨_, made.owner⟩
  | effectResolved _ owner =>
    cases hfence
    exact ⟨_, owner⟩
  | toolRegistered made =>
    cases hfence
    exact ⟨_, made.owner⟩
  | toolConnected made =>
    cases hfence
    exact ⟨_, made.owner⟩
  | toolReserved made =>
    cases hfence
    exact ⟨_, made.owner⟩
  | toolMoved admitted =>
    rw [Command.fence?, (loadToolInvocation_ok_some admitted.loaded).1] at hfence
    cases hfence
    exact ⟨_, admitted.owner⟩

/-! ### Ownership that changes hands -/

theorem takeOwnership_done {c : AcquireOwnership} {row : SessionRow} {expiresAt : Timestamp}
    {lease : OwnershipLease} (hr : s.sessions.find? c.sessionId = some r)
    (h : takeOwnership env c row now expiresAt s = .done lease s') :
    lease.epoch.get = row.epochHighWater + 1 ∧ ∃ r', s'.sessions.find? c.sessionId = some r' ∧
      r'.fence.holder = some (c.context.caller, lease.epoch.get, lease.expiresAt) := by
  simp only [takeOwnership, looks_done] at h
  obtain ⟨-, revision, -, -, h⟩ := h
  obtain ⟨_, s1, hevent, h⟩ := bind_done.mp h
  obtain ⟨_, s2, hrecord, h⟩ := bind_done.mp h
  cases h
  obtain ⟨_, -, rfl⟩ := insertLedger_done hrecord
  have hsessions := (appendEvent_within.1 _ _ _ hevent).sessions
  exact ⟨rfl, _, Table.find?_modified (by intro; rfl) hsessions hr, rfl⟩

/-- An acquisition hands out the epoch after the highest one. -/
theorem acquireOwnership_applied {c : AcquireOwnership} {l : OwnershipLease}
    (h : Applies env t (.acquireOwnership c) s (.lease l)) :
    ∃ r r', s.sessions.find? c.sessionId = some r ∧ l.epoch.get = r.fence.highWater + 1 ∧
      (exec env t (.acquireOwnership c) s).2.sessions.find? c.sessionId = some r' ∧
      r'.fence.holder = some (c.context.caller, l.epoch.get, l.expiresAt) := by
  obtain ⟨v, s', hs', hdone, hv⟩ := mutation_applied h
  cases hv
  simp only [looks_done, advanceTimeFloor_bind_done] at hdone
  obtain ⟨row, hrow, expiresAt, -, -, _, -, lease, s1, htake, hv, rfl⟩ := hdone
  cases hv
  obtain ⟨r, hr, -, hdecodes⟩ := requireOpenSession_ok hrow
  obtain ⟨hepoch, r', hr', hholder⟩ := takeOwnership_done (Store.find?_withFloor hr _) htake
  exact ⟨r, r', hr, hepoch.trans (congrArg (· + 1) hdecodes.highWater), hs' ▸ hr', hholder⟩

/-- After a release or a close nobody holds the session, and the epoch was handed out. -/
def Vacated (s : Store) (k : SessionId) (e : FencingEpoch) : Prop :=
  ∃ r, s.sessions.find? k = some r ∧ r.fence.holder = none ∧ e.get ≤ r.fence.highWater

theorem vacated_of_held {host : HostId} {floor : Timestamp} {revision : Revision}
    {closed : SessionRecord → Bool} (hr : s.sessions.find? k = some { r with timeFloor := floor })
    (hheld : r.HeldUntil host e now) (hsessions : s'.sessions = s.sessions.modify k
      (fun r => r.vacate revision floor (closed r)) (fun _ => rfl)) : Vacated s' k e := by
  obtain ⟨t, hholder, -⟩ := SessionRecord.holder_of_heldUntil hheld
  exact ⟨_, Table.find?_modified (by intro; rfl) hsessions hr, rfl, r.fence.bounded _ hholder⟩

theorem releaseOwnership_applied {c : ReleaseOwnership}
    (h : Applies env t (.releaseOwnership c) s a) :
    (∃ r, s.Authorized c.sessionId c.context.caller c.epoch t r) ∧
      Vacated (exec env t (.releaseOwnership c) s).2 c.sessionId c.epoch := by
  obtain ⟨v, s', hs', hdone, -⟩ := mutation_applied h
  simp only [looks_done, advanceTimeFloor_bind_done] at hdone
  obtain ⟨row, hrow, _, howner, _, s1, ⟨revision, -, -, hwrites⟩, -, rfl⟩ := hdone
  obtain ⟨r, hr, hdecodes⟩ := Store.authorized_of_ok hrow howner
  rw [hdecodes.floor] at hwrites
  obtain ⟨_, s2, hupdate, hwrites⟩ := bind_done.mp hwrites
  obtain ⟨_, s3, hevent, hrecord⟩ := bind_done.mp hwrites
  obtain rfl := updateHeldSession_done hupdate
  obtain ⟨_, -, rfl⟩ := insertLedger_done hrecord
  refine ⟨⟨r, hr⟩, ?_⟩
  exact hs' ▸ vacated_of_held (Store.find?_withFloor hr.found _) hr.held
    (appendEvent_within.1 _ _ _ hevent).sessions

theorem closeSession_applied {c : CloseSession} (h : Applies env t (.closeSession c) s a) :
    (∃ r, s.Authorized c.sessionId c.context.caller c.epoch t r) ∧
      Vacated (exec env t (.closeSession c) s).2 c.sessionId c.epoch := by
  obtain ⟨v, s', hs', hdone, -⟩ := mutation_applied h
  simp only [looks_done, advanceTimeFloor_bind_done] at hdone
  obtain ⟨row, hrow, _, howner, snapshot, -, _, s1, ⟨-, hwrites⟩, -, rfl⟩ := hdone
  obtain ⟨r, hr, hdecodes⟩ := Store.authorized_of_ok hrow howner
  rw [hdecodes.floor] at hwrites
  obtain ⟨_, s2, hupdate, hwrites⟩ := bind_done.mp hwrites
  obtain ⟨_, s3, hevent, hrecord⟩ := bind_done.mp hwrites
  obtain rfl := updateHeldSession_done hupdate
  obtain ⟨_, -, rfl⟩ := insertLedger_done hrecord
  refine ⟨⟨r, hr⟩, ?_⟩
  exact hs' ▸ vacated_of_held (Store.find?_withFloor hr.found _) hr.held
    (appendEventData_within.1 _ _ _ hevent).sessions

theorem renewOwnership_applied {c : RenewOwnership} (h : Applies env t (.renewOwnership c) s a) :
    ∃ r, s.Authorized c.sessionId c.context.caller c.epoch t r := by
  obtain ⟨v, s', -, hdone, -⟩ := mutation_applied h
  simp only [looks_done, advanceTimeFloor_bind_done] at hdone
  obtain ⟨row, hrow, _, howner, -⟩ := hdone
  exact (Store.authorized_of_ok hrow howner).imp fun _ h => h.1

/-! ### The fence -/

theorem validateLaunchAuthority_not_applied :
    ¬ Applies env t (.validateLaunchAuthority k h e) s a := by
  intro happlies
  simp only [Applies, exec, unledgered, settleUnrecorded, validateLaunchAuthority_eq] at happlies
  rcases hrow : requireOpenSession k .prepareLaunch s with e | row
  · simp [hrow, Except.map] at happlies
  simp only [hrow] at happlies
  cases howner : requireOwner row h e (max row.timeFloor t) with
  | ok u => simp [howner, Except.map, Mutation.map] at happlies
  | error error =>
    by_cases he : error.isExpiry = true <;> simp [howner, he, Except.map] at happlies

/-- A call that leaves the journal alone, made under an ownership and with a reading of the
clock, takes effect only for the owner. -/
theorem Applies.authorized (happlies : Applies env t c s a)
    (hclock : ∀ l, c ≠ .reserveSubscriptionLease l ∧ c ≠ .renewSubscriptionLease l)
    (hjournal : c.isJournal = false) (hfence : c.fence? s = some (k, h, e)) :
    ∃ r, s.Authorized k h e t r := by
  cases c <;> first | (cases hjournal; done) | cases hfence
  case closeSession c => exact (closeSession_applied happlies).1
  case renewOwnership c => exact renewOwnership_applied happlies
  case releaseOwnership c => exact (releaseOwnership_applied happlies).1
  case startOperation c =>
    obtain ⟨v, s', -, hdone, -⟩ := mutation_applied happlies
    obtain ⟨_, s1, hadmit, -⟩ := bind_done.mp hdone
    obtain ⟨r, hr, -⟩ := admitStart_done hadmit
    exact ⟨r, hr⟩
  case transitionOperation c =>
    obtain ⟨v, s', -, hdone, -⟩ := mutation_applied happlies
    obtain ⟨_, s1, hdecide, -⟩ := bind_done.mp hdone
    obtain ⟨r, _, hr, -⟩ := decideTransition_done hdecide
    exact ⟨r, hr⟩
  case enqueueMessage c =>
    obtain ⟨v, s', -, hdone, -⟩ := mutation_applied happlies
    obtain ⟨_, s1, hadmit, -⟩ := bind_done.mp hdone
    obtain ⟨r, hr, -⟩ := admitMessage_done hadmit
    exact ⟨r, hr⟩
  case leaseNextMessage c =>
    obtain ⟨v, s', -, hdone, -⟩ := mutation_applied happlies
    obtain ⟨_, s1, hselect, -⟩ := bind_done.mp hdone
    obtain ⟨r, hr, -⟩ := selectLease_done hselect
    exact ⟨r, hr⟩
  case transitionMessageDelivery c =>
    obtain ⟨v, s', -, hdone, -⟩ := mutation_applied happlies
    obtain ⟨_, s1, hdecide, -⟩ := bind_done.mp hdone
    obtain ⟨r, _, _, hr, -⟩ := decideDelivery_done hdecide
    exact ⟨r, hr⟩
  case authorizedStatus c =>
    obtain ⟨v, s', -, hdone, -⟩ := mutation_applied happlies
    obtain ⟨result, s1, hlaunch, hdone⟩ := bind_done.mp hdone
    cases result with
    | error error =>
      obtain ⟨⟨⟩, -⟩ := pure_done.mp hdone
    | ok _ =>
      obtain ⟨r, hr, -⟩ := authorizeLaunch_ok hlaunch
      exact ⟨r, hr⟩
  case recordRecoveryClassifications c =>
    obtain ⟨v, hdone, -⟩ := unrecorded_applied happlies
    simp only [recordRecoveryClassifications, looks_done, advanceTimeFloor_bind_done] at hdone
    obtain ⟨-, -, -, row, hrow, _, howner, -⟩ := hdone
    exact (Store.authorized_of_ok hrow howner).imp fun _ h => h.1
  case validateLaunchAuthority => exact absurd happlies validateLaunchAuthority_not_applied
  case loadRecoveryInventory =>
    obtain ⟨v, hdone, -⟩ := unrecorded_applied happlies
    obtain ⟨_, r, hr, -⟩ := authorizeOwner_bind_done hdone
    exact ⟨r, hr⟩
  case readArtifact =>
    obtain ⟨v, hdone, -⟩ := unrecorded_applied happlies
    obtain ⟨_, s1, hauthorize, -⟩ := bind_done.mp hdone
    obtain ⟨_, r, hr, -⟩ := authorizeOwner_bind_done hauthorize
    exact ⟨r, hr⟩
  case reserveSubscriptionLease c => exact absurd rfl (hclock c).1
  case renewSubscriptionLease c => exact absurd rfl (hclock c).2
  all_goals first
    | exact fenced_applied happlies
    | exact approval_applied happlies
    | exact artifact_applied happlies

/-- The check of `authorize_launch` lets the host through, with the clock at `t`. -/
def Store.Admits (s : Store) (k : SessionId) (h : HostId) (e : FencingEpoch) (t : Timestamp) :
    Prop :=
  ∃ context action s', context.caller = h ∧
    (authorizeLaunch k context e action t : Call _) s = .done (.ok ()) s'

theorem Store.Admits.authorized (hadmits : s.Admits k h e t) : ∃ r, s.Authorized k h e t r := by
  obtain ⟨context, action, s', rfl, hlaunch⟩ := hadmits
  obtain ⟨r, hr, -⟩ := authorizeLaunch_ok hlaunch
  exact ⟨r, hr⟩

/-- Whoever is let through is let through by the fence. -/
theorem Store.Authorized.accepts (hr : s.Authorized k h e t r) : r.fence.Accepts h e.get := by
  obtain ⟨u, hholder, hlt⟩ := SessionRecord.holder_of_heldUntil hr.held
  exact ⟨u, hholder, (le_max_left _ _).trans_lt hlt⟩

theorem subscription_accepted {l : SubscriptionLease} {α : Type} {wrap : α → Answer}
    {rest : Unit → Write (Mutation α)}
    (h : (unrecorded wrap (validateSubscriptionOwner l >>= rest) s).1 = .ok (.applied a)) :
    ∃ r, s.sessions.find? l.sessionId = some r ∧
      r.fence.Accepts l.ownerHostId l.ownerEpoch.get := by
  obtain ⟨v, hdone, -⟩ := unrecorded_applied h
  obtain ⟨_, s1, howner, -⟩ := bind_done.mp hdone
  simp only [validateSubscriptionOwner, looks_done, ensure_done] at howner
  obtain ⟨r, hr, ⟨host, expiry⟩, howner, ⟨rfl, hepoch, hlt, hle⟩, -⟩ := howner
  exact ⟨r, (Option.filter_eq_some_iff.mp hr).1, expiry,
    by simp [SessionRecord.fence, SessionRecord.holder, howner, hepoch], hlt.trans_le hle⟩

/-- **A call made under an ownership takes effect only for the owner.** -/
theorem Applies.accepted (hs : Sound s) (happlies : Applies env t c s a)
    (hfence : c.fence? s = some (k, h, e)) :
    ∃ r, s.sessions.find? k = some r ∧ r.fence.Accepts h e.get := by
  cases hjournal : c.isJournal with
  | true =>
    have hchange : JournalChange env t s c _ _ := exec_journal hs t c
    rw [happlies] at hchange
    obtain ⟨r, hr⟩ := hchange.owner hjournal hfence
    exact ⟨r, hr.found, hr.accepts⟩
  | false =>
    by_cases hclock : ∀ l, c ≠ .reserveSubscriptionLease l ∧ c ≠ .renewSubscriptionLease l
    · obtain ⟨r, hr⟩ := happlies.authorized hclock hjournal hfence
      exact ⟨r, hr.found, hr.accepts⟩
    simp only [not_forall, not_and_or, not_not] at hclock
    obtain ⟨l, rfl | rfl⟩ := hclock
    all_goals
      cases hfence
      exact subscription_accepted happlies

/-- The ownership is lost: from here on the host is not let through under that epoch,
whatever the clock says, and no call it makes under it takes effect. -/
def Lost (env : Env) (s : Store) (k : SessionId) (h : HostId) (e : FencingEpoch) : Prop :=
  ∀ s', Run env s s' → ∀ t, ¬ s'.Admits k h e t ∧
    ∀ c a, c.fence? s' = some (k, h, e) → ¬ Applies env t c s' a

theorem Lost.of_retired (hs : Sound s) (hr : s.sessions.find? k = some r)
    (hretired : r.fence.Retired h e.get) :
    Lost env s k h e := by
  intro s' hrun t
  obtain ⟨r', hr', hprecedes⟩ := (Run.follows hs hrun).sessions k r hr
  have hnot : ∀ r'', s'.sessions.find? k = some r'' → ¬ r''.fence.Accepts h e.get := by
    intro r'' hr'' haccepts
    rw [hr'] at hr''
    cases hr''
    exact (hretired.run hprecedes.fence).not_accepts haccepts
  refine ⟨fun hadmits => ?_, fun c a hfence happlies => ?_⟩
  · obtain ⟨r'', hr''⟩ := hadmits.authorized
    exact hnot r'' hr''.found hr''.accepts
  · obtain ⟨r'', hr'', haccepts⟩ := happlies.accepted (Run.sound hs hrun) hfence
    exact hnot r'' hr'' haccepts

theorem Vacated.lost (hs : Sound s) (h : Vacated s k e) (host : HostId) : Lost env s k host e := by
  obtain ⟨r, hr, hnone, hle⟩ := h
  refine .of_retired hs hr ⟨hle, fun t ht => ?_⟩
  rw [hnone] at ht
  cases ht

/-- **Ownership is fenced.**  In every run, with any readings of the clock, the epochs of
applied acquisitions increase, the time floor does not go back, at most one host and epoch
is let through, and an ownership is lost for good once a later epoch has been acquired, it
has been released or closed, or its end has been recorded in the time floor. -/
theorem ownership_is_fenced (hs : Reachable env s) (k : SessionId) :
    (∀ t c l s' t' c' l', c.sessionId = k → c'.sessionId = k →
      Applies env t (.acquireOwnership c) s (.lease l) →
      Run env (exec env t (.acquireOwnership c) s).2 s' →
      Applies env t' (.acquireOwnership c') s' (.lease l') → l.epoch.get < l'.epoch.get) ∧
    (∀ s' floor, Run env s s' → s.floorOf k = some floor →
      ∃ floor', s'.floorOf k = some floor' ∧ floor ≤ floor') ∧
    (∀ h e t h' e' t', s.Admits k h e t → s.Admits k h' e' t' → h = h' ∧ e = e') ∧
    (∀ t c l, c.sessionId = k → Applies env t (.acquireOwnership c) s (.lease l) →
      ∀ h e, e.get < l.epoch.get → Lost env (exec env t (.acquireOwnership c) s).2 k h e) ∧
    (∀ t c a, c.sessionId = k → Applies env t (.releaseOwnership c) s a →
      Lost env (exec env t (.releaseOwnership c) s).2 k c.context.caller c.epoch) ∧
    (∀ t c a, c.sessionId = k → Applies env t (.closeSession c) s a →
      Lost env (exec env t (.closeSession c) s).2 k c.context.caller c.epoch) ∧
    (∀ r h e expiresAt, s.sessions.find? k = some r → r.owner = some (h, expiresAt) →
      r.ownerEpoch = some e → expiresAt ≤ r.timeFloor → Lost env s k h e) := by
  have hsound := hs.sound
  refine ⟨?_, ?_, ?_, ?_, ?_, ?_, ?_⟩
  · rintro t c l s' t' c' l' rfl hk happlies hrun happlies'
    obtain ⟨r, r₁, hr, -, hr₁, hholder⟩ := acquireOwnership_applied happlies
    obtain ⟨r', -, hr', hepoch', -, -⟩ := acquireOwnership_applied happlies'
    obtain ⟨r'', hr'', hprecedes⟩ :=
      (Run.follows (Step.sound hsound (.call t _)) hrun).sessions _ r₁ hr₁
    rw [hk, hr''] at hr'
    cases hr'
    have hle := hprecedes.fence.highWater_le
    have hbound := r₁.fence.bounded _ hholder
    rw [hepoch']
    exact Nat.lt_succ_of_le (hbound.trans hle)
  · intro s' floor hrun hfloor
    exact floor_mono (Run.follows hsound hrun) ⟨floor, hfloor, le_rfl⟩
  · intro h e t h' e' t' hadmits hadmits'
    obtain ⟨r, hr⟩ := hadmits.authorized
    obtain ⟨r', hr'⟩ := hadmits'.authorized
    have hsame := hr.found
    rw [hr'.found] at hsame
    cases hsame
    obtain ⟨rfl, he⟩ := hr.accepts.unique hr'.accepts
    exact ⟨rfl, FencingEpoch.ext_get he⟩
  · rintro t c l rfl happlies h e hlt
    obtain ⟨r, r', -, -, hr', hholder⟩ := acquireOwnership_applied happlies
    exact .of_retired (Step.sound hsound (.call t _)) hr' (.of_newer hholder hlt)
  · rintro t c a rfl happlies
    exact (releaseOwnership_applied happlies).2.lost (Step.sound hsound (.call t _)) _
  · rintro t c a rfl happlies
    exact (closeSession_applied happlies).2.lost (Step.sound hsound (.call t _)) _
  · intro r h e expiresAt hr howner hepoch hle
    have hholder : r.fence.holder = some (h, e.get, expiresAt) := by
      simp [SessionRecord.fence, SessionRecord.holder, howner, hepoch]
    refine .of_retired hsound hr ⟨r.fence.bounded _ hholder, fun t ht => ?_⟩
    rw [hholder] at ht
    cases ht
    exact hle

/-! ### A session of two hosts -/

namespace Sample

/-- Surroundings in which a run can be computed: a polynomial hash in the place of SHA-256,
and one text for every value. -/
def world : Env where
  sha256 bytes := bytes.foldl (fun h b => (h + 1 + BitVec.ofNat 256 b.toNat) *
    0x9e3779b97f4a7c15f39cc0605cedc8341082276bf3a27251f86c6a11d0c18e95) 7
  json _ := [0x7b, 0x7d]
  templateValid _ := true
  toolInputValid _ _ := true
  toolOutputValid _ _ := true
  validateInput _ input := some input
  maxLeaseMillis := 60000
  limits := ⟨fun _ => ⟨1024, 4096⟩, fun r => by
    cases r <;> exact ⟨by decide, by decide, by decide, by decide⟩⟩

/-- The identity numbered `n`. -/
def id {k : IdKind} (n : ℕ) : Id k :=
  ⟨BitVec.ofNat 128 (n % 1000 + 1), fun h => by
    have := congrArg BitVec.toNat h
    simp only [BitVec.toNat_ofNat, BitVec.ofNat_eq_ofNat] at this
    omega⟩

/-- A number of seconds after the beginning of Unix time. -/
def seconds (n : ℕ) : Timestamp := ⟨(n % 1000000 : ℕ) * 1000000000, by omega⟩

def session : SessionId := id 0
def hostA : HostId := id 0
def hostB : HostId := id 1
def epoch : FencingEpoch := ⟨1, Nat.one_pos⟩

/-- The request numbered `n`, by the first host. -/
def request (n : ℕ) : RequestContext := ⟨id n, hostA⟩

def openSession : OpenSession :=
  ⟨request 0, session, ⟨"demo", by decide⟩, 5, none, .exact⟩

def acquireOwnership : AcquireOwnership := ⟨request 1, session, ⟨30000, by decide⟩⟩

/-- The first host has opened the session and owns it for thirty seconds. -/
def owned : Store :=
  calls world [(seconds 0, .openSession openSession),
    (seconds 0, .acquireOwnership acquireOwnership)] .empty

/-- The second host wants the session. -/
def takeOver : AcquireOwnership := ⟨⟨id 2, hostB⟩, session, ⟨10000, by decide⟩⟩

end Sample

open Sample

/-- The second host takes the session over when the lease of the first has run out, and the
first has lost it, even if the clock goes back. -/
theorem ownership_is_fenced_takeOver :
    Applies world (seconds 30) (.acquireOwnership takeOver) owned
      (.lease ⟨session, hostB, ⟨2, Nat.two_pos⟩, seconds 40⟩) ∧
    Lost world (exec world (seconds 30) (.acquireOwnership takeOver) owned).2
      session hostA epoch := by
  have happlies : Applies world (seconds 30) (.acquireOwnership takeOver)
      owned (.lease ⟨session, hostB, ⟨2, Nat.two_pos⟩,
        seconds 40⟩) := by
    decide +kernel
  obtain ⟨-, -, -, hlost, -⟩ := ownership_is_fenced (s := owned) (reachable_calls _) session
  exact ⟨happlies, hlost _ _ _ rfl happlies _ _ (by decide)⟩

end Navigator
