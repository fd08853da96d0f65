/-
Authority.

Six calls ask leave of a participant's policy, and name a grant if they have one: an effect is
checked, a child is created, a neighbour is acted upon, a tool is reserved and started, and an
effect is resolved.  `exec_passed` says once what each of them has found when it goes through,
and what it has done to the grant.

* **`grants_are_used_once`** — a grant for a single use is used at most once, and a grant that
  was revoked or has expired is not used again;
* **`named_grants_are_backed`** — a call that goes through under a grant is backed by it exactly
  if there is such a grant;
* **`authority_does_not_grow`** — nobody down a line of authorized children may do, or hand on,
  what those above may not hand on.
-/
import Navigator.Lib.Tally
import Navigator.Requests

namespace Navigator

open Txn Tx

variable {env : Env} {s s' : Store} {t : Timestamp}
variable {now : Timestamp} {c : TransitionToolInvocation} {v current : ToolInvocationSnapshot}
  {sessionId : SessionId} {connection : ToolProviderConnectionSnapshot}
  {effect : EffectJournalEntry} {requested : ScopedCapability} {decision : AuthorityDecision}
  {k : GrantId}
variable {plan : HierarchyPlan} {answer : Answer} {ceilings : AuthorityCeilings}
  {subject : ParticipantId} {g : GrantSnapshot} {call : Timestamp × Command}

/-! ### What is asked -/

/-- What a call asks leave for, and the grant it names. -/
structure Asked where
  sessionId : SessionId
  subject : ParticipantId
  requested : ScopedCapability
  grantId : Option GrantId
deriving DecidableEq

/-- The answer of an effect that is allowed. -/
def Answer.isAllowed : Answer → Bool
  | .effect (.allowed _) | .child (.allowed ..) | .hierarchy (.allowed ..) => true
  | _ => false

def Answer.invocation? : Answer → Option ToolInvocationSnapshot
  | .toolInvocation v => some v
  | _ => none

/-- What an invocation asks leave for. -/
def ToolInvocationSnapshot.asked (v : ToolInvocationSnapshot) : Asked :=
  ⟨v.invocation.sessionId, v.invocation.participantId, v.invocation.requested v.definition,
    v.invocation.authorityGrantId⟩

/-- What a call that went through, with this answer, had asked leave for. -/
def Command.asked (c : Command) (answer : Answer) : Option Asked :=
  match c with
  | .checkAuthorityEffect c =>
    if answer.isAllowed then some ⟨c.sessionId, c.participantId, c.requested, c.grantId⟩ else none
  | .createAuthorizedChild c =>
    if answer.isAllowed then some ⟨c.sessionId, c.parentParticipantId, c.requested, c.grantId⟩
    else none
  | .applyHierarchyEffect c =>
    if answer.isAllowed then
      some ⟨c.sessionId, c.callerParticipantId, c.effect.requested, c.effect.grantId⟩
    else none
  | .reserveToolInvocation _ => answer.invocation?.map ToolInvocationSnapshot.asked
  | .transitionToolInvocation c =>
    if c.transition = .start then answer.invocation?.map ToolInvocationSnapshot.asked else none
  | .resolveAuthorizedEffect c =>
    some ⟨c.sessionId, c.participantId, c.requested, some c.grantId⟩
  | _ => none

/-- What a call asked leave for, if it has gone through. -/
def Command.passed (c : Command) : Result → Option Asked
  | .ok (.applied answer) => c.asked answer
  | _ => none

theorem Command.passed_iff {c : Command} {a : Asked} :
    c.passed (exec env t c s).1 = some a ↔
      ∃ answer, Applies env t c s answer ∧ c.asked answer = some a := by
  unfold Applies
  generalize (exec env t c s).1 = result
  constructor
  · intro h
    obtain e | outcome := result
    · cases h
    cases outcome with
    | applied answer => exact ⟨answer, rfl, h⟩
    | _ => cases h
  · rintro ⟨answer, rfl, hasked⟩
    exact hasked

/-- The calls that use the grant they name; a reservation only looks at it. -/
def Command.usesGrant : Command → Bool
  | .reserveToolInvocation _ => false
  | _ => true

/-- The grants after one of them is used. -/
def Store.usedUp (s : Store) (grantId : Option GrantId) (now : Timestamp) : Table GrantSnapshot :=
  match s.namedGrant grantId with
  | some g => if g.singleUse then s.grants.replace { g with consumedAt := some now } else s.grants
  | none => s.grants

/-- A call that went through: leave was given, at the session's time, and the grant was used. -/
structure Passed (t : Timestamp) (c : Command) (s s' : Store) (a : Asked) : Prop where
  decided : ∃ r decision, s.sessions.find? a.sessionId = some r ∧
    s.effectDecision a.sessionId a.subject a.requested a.grantId (max r.timeFloor t) =
      some decision ∧
    (c.usesGrant = true → s'.grants = s.usedUp a.grantId (max r.timeFloor t))

theorem consumeGrant_grants {s1 s2 : Store} {grant : Option GrantSnapshot}
    {grantId : Option GrantId} {u : Unit} (h : consumeGrant grant now s1 = .done u s2)
    (hgrant : grant = s.namedGrant grantId) (hgrants : s1.grants = s.grants) :
    s2.grants = s.usedUp grantId now := by
  unfold Store.usedUp
  rw [← hgrant]
  obtain _ | g := grant
  · rw [← (pure_done.mp h).2, hgrants]
  simp only [consumeGrant] at h
  by_cases hsingle : g.singleUse = true
  · rw [if_pos hsingle] at h
    rw [updateGrant_done h, hgrants]
    exact (if_pos hsingle).symm
  · rw [if_neg hsingle] at h
    rw [← (pure_done.mp h).2, hgrants]
    exact (if_neg hsingle).symm

/-! ### The calls -/

theorem checkAuthorityEffect_passed {c : CheckAuthorityEffect} {v : AuthorityEffectOutcome}
    (h : Applies env t (.checkAuthorityEffect c) s (.effect v))
    (hallowed : (Answer.effect v).isAllowed = true) :
    Passed t (.checkAuthorityEffect c) s (exec env t (.checkAuthorityEffect c) s).2
      ⟨c.sessionId, c.participantId, c.requested, c.grantId⟩ := by
  obtain ⟨_, s', heq, hbody, ⟨⟩⟩ := mutation_applied h
  change Passed t _ s (ledgered env c _ (checkAuthorityEffect env t c) s).2 _
  rw [checkAuthorityEffect, heq]
  obtain ⟨r, hr, hbody⟩ := authorize_floor_done hbody
  simp only [looks_done] at hbody
  cases hdecision : (s.withFloor c.sessionId (max r.timeFloor t)).effectDecision c.sessionId
      c.participantId c.requested c.grantId (max r.timeFloor t) with
  | none =>
    simp only [hdecision, looks_done] at hbody
    obtain ⟨_, s3, -, hv, -⟩ := hbody
    cases hv
    cases hallowed
  | some decision =>
    simp only [hdecision, looks_done] at hbody
    obtain ⟨_, s3, hcommit, -, rfl⟩ := hbody
    obtain ⟨_, s4, hconsume, hcommit⟩ := bind_done.mp hcommit
    obtain ⟨_, s5, hevent, hrecord⟩ := bind_done.mp hcommit
    have hused : s4.grants = s.usedUp c.grantId (max r.timeFloor t) :=
      consumeGrant_grants hconsume rfl rfl
    obtain ⟨e, -, rfl⟩ := appendEventData_done hevent
    obtain ⟨_, -, rfl⟩ := insertLedger_done hrecord
    exact ⟨r, decision, hr.found, hdecision, fun _ => hused⟩

/-- A child that is allowed was checked, and its policy is stored. -/
theorem createAuthorizedChild_allowed {c : CreateAuthorizedChild} {v : AuthorizedChildOutcome}
    (h : Applies env t (.createAuthorizedChild c) s (.child v))
    (hallowed : (Answer.child v).isAllowed = true) :
    ∃ (r : SessionRecord) (child : AuthorizedChild), s.sessions.find? c.sessionId = some r ∧
      child.Checked c (s.withFloor c.sessionId (max r.timeFloor t)) (max r.timeFloor t) ∧
      (exec env t (.createAuthorizedChild c) s).2.grants = s.usedUp c.grantId (max r.timeFloor t) ∧
      s.policies.insert? child.policy =
        some (exec env t (.createAuthorizedChild c) s).2.policies := by
  obtain ⟨_, s', heq, hbody, ⟨⟩⟩ := mutation_applied h
  have hafter : (exec env t (.createAuthorizedChild c) s).2 = s' := heq
  rw [hafter]
  obtain ⟨r, hr, hbody⟩ := authorize_floor_done hbody
  simp only [looks_done] at hbody
  obtain ⟨parent, -, -, outcome, houtcome, hbody⟩ := hbody
  cases outcome with
  | none =>
    simp only [looks_done] at hbody
    obtain ⟨_, s3, hcommit, hv, -⟩ := hbody
    cases hv
    obtain ⟨_, s4, -, hcommit⟩ := bind_done.mp hcommit
    obtain ⟨_, s5, -, hcommit⟩ := bind_done.mp hcommit
    obtain ⟨rfl, -⟩ := pure_done.mp hcommit
    cases hallowed
  | some child =>
    simp only [looks_done] at hbody
    obtain ⟨_, s3, hcommit, -, rfl⟩ := hbody
    obtain ⟨-, hchecked⟩ := CreateAuthorizedChild.authorized_ok houtcome
    obtain ⟨_, s4, hconsume, hgrants, hafter, hpolicies, -⟩ := commitAuthorizedChild_done hcommit
    exact ⟨r, child, hr.found, hchecked,
      hafter.trans (consumeGrant_grants hconsume rfl hgrants), hpolicies⟩

theorem settleOperation_grants {c : ApplyHierarchyEffect} {o : Option OperationSnapshot}
    (h : settleOperation c plan now s = .done o s') : s'.grants = s.grants := by
  cases hchange : plan.change with
  | some action =>
    simp only [settleOperation, hchange, looks_done] at h
    obtain ⟨_, -, _, -, h⟩ := h
    obtain ⟨_, s1, hupdate, h⟩ := bind_done.mp h
    cases h
    obtain ⟨_, -, -, rfl⟩ := updateOperation_done hupdate
    rfl
  | none =>
    simp only [settleOperation, hchange, looks_done] at h
    obtain ⟨_, -, -, rfl⟩ := h
    rfl

theorem commitHierarchyDenied_outcome {c : ApplyHierarchyEffect} {v : HierarchyEffectOutcome}
    (h : commitHierarchyDenied env c now s = .done v s') :
    v = .denied := by
  obtain ⟨_, _, -, h⟩ := bind_done.mp h
  obtain ⟨_, _, -, h⟩ := bind_done.mp h
  exact (pure_done.mp h).1.symm

/-- An effect that is performed uses the grant of its plan. -/
theorem performEffect_grants {c : ApplyHierarchyEffect} {m : MessageSnapshot}
    {v : HierarchyEffectOutcome} (h : performEffect env c plan m now s = .done v s')
    (hallowed : v ≠ .denied) : s'.grants = s.usedUp plan.grantId now := by
  obtain ⟨_, s1, hqueue, h⟩ := bind_done.mp h
  obtain ⟨-, -, hgrants1⟩ := queueHierarchyMessage_frame hqueue
  obtain ⟨o, s2, hsettle, h⟩ := bind_done.mp h
  have hgrants : s2.grants = s.grants := (settleOperation_grants hsettle).trans hgrants1
  obtain _ | o := o
  · exact absurd (commitHierarchyDenied_outcome h) hallowed
  simp only [looks_done] at h
  obtain ⟨_, s3, hconsume, h⟩ := bind_done.mp h
  have hused : s3.grants = s.usedUp plan.grantId now :=
    consumeGrant_grants hconsume (by rw [Store.namedGrant, hgrants]; rfl) hgrants
  obtain ⟨_, s4, hevent, h⟩ := bind_done.mp h
  obtain ⟨_, s5, hrecord, h⟩ := bind_done.mp h
  cases h
  obtain ⟨_, -, rfl⟩ := appendEventData_done hevent
  obtain ⟨_, -, rfl⟩ := insertLedger_done hrecord
  exact hused

theorem applyHierarchyEffect_passed {c : ApplyHierarchyEffect} {v : HierarchyEffectOutcome}
    (h : Applies env t (.applyHierarchyEffect c) s (.hierarchy v))
    (hallowed : (Answer.hierarchy v).isAllowed = true) :
    Passed t (.applyHierarchyEffect c) s (exec env t (.applyHierarchyEffect c) s).2
      ⟨c.sessionId, c.callerParticipantId, c.effect.requested, c.effect.grantId⟩ := by
  obtain ⟨_, s', heq, hbody, ⟨⟩⟩ := mutation_applied h
  change Passed t _ s (ledgered env c _ (applyHierarchyEffect env t c) s).2 _
  rw [applyHierarchyEffect, heq]
  obtain ⟨r, hr, hbody⟩ := authorize_floor_done hbody
  simp only [looks_done] at hbody
  obtain ⟨plan, hplan, outcome, s3, hcommit, hv, rfl⟩ := hbody
  cases hv
  have hdenied : v ≠ .denied := by
    rintro rfl
    cases hallowed
  obtain _ | plan := plan
  · exact absurd (commitHierarchyDenied_outcome hcommit) hdenied
  obtain ⟨row, decision, -, -, hdecision, hgrant⟩ := ApplyHierarchyEffect.authorizedPlan_ok hplan
  simp only [commitHierarchyEffect, looks_done] at hcommit
  cases hm : plan.message env c (max r.timeFloor t)
      (s.withFloor c.sessionId (max r.timeFloor t)) with
  | ok m =>
    simp only [hm] at hcommit
    have hused := performEffect_grants hcommit hdenied
    rw [hgrant] at hused
    exact ⟨r, decision, hr.found, hdecision, fun _ => hused⟩
  | error e =>
    cases e <;> simp only [hm] at hcommit <;>
      first
      | exact absurd (commitHierarchyDenied_outcome hcommit) hdenied
      | cases hcommit

/-! ### Tools and resolutions -/

theorem transitionToolInvocation_passed
    (h : Applies env t (.transitionToolInvocation c) s (.toolInvocation v))
    (hstart : c.transition = .start) :
    Passed t (.transitionToolInvocation c) s (exec env t (.transitionToolInvocation c) s).2
      v.asked := by
  obtain ⟨_, hbody, ⟨⟩⟩ := unrecorded_applied h
  change transitionToolInvocation env t c s =
    .done (.applied v) (exec env t (.transitionToolInvocation c) s).2 at hbody
  obtain ⟨_, ⟨⟩, -⟩ | ⟨r, current, effect, connection, rows, hadmits, hauthorized,
    ⟨-, -, ⟨⟩, -⟩ | ⟨step, revision, _, hmoves, ⟨⟩, -⟩⟩ := transitionToolInvocation_done hbody
  obtain ⟨s1, hauthorize, hgrants⟩ := hauthorized hstart
  obtain ⟨-, -, decision, hdecision, hconsume⟩ := authorizeStart_done hauthorize
  obtain ⟨hsame, -⟩ := ToolInvocationSnapshot.moved_eq hmoves.moved
  rw [ToolInvocationSnapshot.asked, hsame.invocation, hsame.definition]
  exact ⟨r, decision, hadmits.owner.found, hdecision, fun _ =>
    hgrants.trans (consumeGrant_grants hconsume rfl rfl)⟩

theorem reserveToolInvocation_passed (hs : Sound s) {c : ReserveToolInvocation}
    (h : Applies env t (.reserveToolInvocation c) s (.toolInvocation v)) :
    Passed t (.reserveToolInvocation c) s (exec env t (.reserveToolInvocation c) s).2
      v.asked := by
  have hchange : JournalChange env t s (.reserveToolInvocation c) _ _ := exec_journal hs t _
  rw [show (exec env t (.reserveToolInvocation c) s).1 = _ from h] at hchange
  generalize (exec env t (.reserveToolInvocation c) s).2.journal = j at hchange
  cases hchange with
  | same idle => exact absurd rfl (idle rfl _)
  | toolReserved made dispatched =>
    obtain ⟨decision, hdecision⟩ := dispatched.decided
    obtain ⟨-, hdefinition, hinvocation, -⟩ := ToolInvocationSnapshot.new_eq dispatched.made
    rw [ToolInvocationSnapshot.asked, hdefinition, hinvocation]
    exact ⟨_, decision, made.owner.found, hdecision, nofun⟩

theorem resolveAuthorizedEffect_passed {c : ResolveAuthorizedEffect} {a : Answer}
    (h : Applies env t (.resolveAuthorizedEffect c) s a) :
    Passed t (.resolveAuthorizedEffect c) s (exec env t (.resolveAuthorizedEffect c) s).2
      ⟨c.sessionId, c.participantId, c.requested, some c.grantId⟩ := by
  obtain ⟨v, hbody, -⟩ := unrecorded_applied h
  change resolveAuthorizedEffect env t c s =
    .done (.applied v) (exec env t (.resolveAuthorizedEffect c) s).2 at hbody
  obtain ⟨-, ⟨_, _, -, -, -, -, -, ⟨⟩⟩ | ⟨_, s1, rows, -, hnew, -, heq, ⟨⟩⟩⟩ :=
    effectMutation_done hbody
  obtain ⟨r, e, g, s2, hr, hgrounds, htool, s3, hconsume, hevent⟩ := resolveNew_done hnew
  refine ⟨r, _, hr.found, hgrounds.decided, fun _ => ?_⟩
  have htools : s2.grants = s.grants := by
    obtain ⟨-, -, rfl⟩ | ⟨_, _, _, -, rfl⟩ := resolveTool_done htool <;> rfl
  have hnamed : some g = s.namedGrant (some c.grantId) := hgrounds.grant.symm
  have hused : s3.grants = s.usedUp (some c.grantId) (max r.timeFloor t) :=
    consumeGrant_grants hconsume hnamed htools
  obtain ⟨_, -, rfl⟩ := appendEventData_done hevent
  rw [heq]
  exact hused

/-- **A call that goes through was given leave**, and has used the grant it named. -/
theorem exec_passed (hs : Sound s) {c : Command} {a : Asked} (h : Applies env t c s answer)
    (hasked : c.asked answer = some a) : Passed t c s (exec env t c s).2 a := by
  cases c with
  | checkAuthorityEffect c =>
    obtain ⟨v, -, -, -, rfl⟩ := mutation_applied h
    obtain ⟨hallowed, ⟨⟩⟩ := Option.ite_none_right_eq_some.mp hasked
    exact checkAuthorityEffect_passed h hallowed
  | createAuthorizedChild c =>
    obtain ⟨v, -, -, -, rfl⟩ := mutation_applied h
    obtain ⟨hallowed, ⟨⟩⟩ := Option.ite_none_right_eq_some.mp hasked
    obtain ⟨r, child, hr, hchecked, hused, -⟩ := createAuthorizedChild_allowed h hallowed
    exact ⟨r, child.decision, hr, hchecked.decided, fun _ => hused⟩
  | applyHierarchyEffect c =>
    obtain ⟨v, -, -, -, rfl⟩ := mutation_applied h
    obtain ⟨hallowed, ⟨⟩⟩ := Option.ite_none_right_eq_some.mp hasked
    exact applyHierarchyEffect_passed h hallowed
  | reserveToolInvocation c =>
    obtain ⟨v, -, rfl⟩ := unrecorded_applied h
    cases hasked
    exact reserveToolInvocation_passed hs h
  | transitionToolInvocation c =>
    obtain ⟨v, -, rfl⟩ := unrecorded_applied h
    obtain ⟨hstart, ⟨⟩⟩ := Option.ite_none_right_eq_some.mp hasked
    exact transitionToolInvocation_passed h hstart
  | resolveAuthorizedEffect c =>
    cases hasked
    exact resolveAuthorizedEffect_passed h
  | _ => cases hasked

/-! ### The grant behind a call -/

/-- A grant that backs what is asked, at a time. -/
structure GrantSnapshot.Backs (g : GrantSnapshot) (a : Asked) (now : Timestamp) : Prop where
  named : a.grantId = some g.grant.id
  sessionId : g.grant.sessionId = a.sessionId
  subject : g.grant.subject = a.subject
  authority : g.grant.authority = a.requested
  unrevoked : g.grant.revoked = false
  unexpired : now < g.grant.expiresAt
  unconsumed : g.consumedAt = none

/-- A grant that is found backs what is decided. -/
theorem Store.backs_of_effectDecision {a : Asked}
    (h : s.effectDecision a.sessionId a.subject a.requested a.grantId now = some decision)
    (hnamed : a.grantId = some k) (hg : s.grants.find? k = some g) : g.Backs a now := by
  have hgrant : s.namedGrant a.grantId = some g := by rw [hnamed]; exact hg
  obtain ⟨-, hunused⟩ := Store.usable_of_effectDecision h g hgrant
  obtain ⟨hdecided, -⟩ := Option.filter_eq_some_iff.mp h
  obtain ⟨policy, -, hdecided⟩ := Option.bind_eq_some_iff.mp hdecided
  rw [hgrant] at hdecided
  -- the decision rests on the grant only if it has passed every check
  obtain ⟨-, hdecided⟩ := Option.ite_none_right_eq_some.mp hdecided
  obtain ⟨⟨hsession, hsubject, hauthority, hactive⟩, -⟩ :=
    Option.ite_none_right_eq_some.mp hdecided
  simp only [Grant.isActive, Bool.and_eq_true, Bool.not_eq_true', decide_eq_true_eq] at hactive
  obtain rfl := Table.key_of_find? hg
  exact ⟨hnamed, hsession, hsubject, hauthority, hactive.1, hactive.2, hunused⟩

/-- **A call under a grant is backed by it exactly if there is one.**  A grant that is named
and was never issued is passed over, as if none had been named. -/
theorem named_grants_are_backed (hs : Reachable env s) {c : Command} {answer : Answer} {a : Asked}
    {k : GrantId} (happlies : Applies env t c s answer) (hasked : c.asked answer = some a)
    (hnamed : a.grantId = some k) :
    (∃ r g, s.sessions.find? a.sessionId = some r ∧ s.grants.find? k = some g ∧
      g.Backs a (max r.timeFloor t)) ↔ (s.grants.find? k).isSome = true := by
  constructor
  · rintro ⟨r, g, -, hg, -⟩
    exact Option.isSome_iff_exists.mpr ⟨g, hg⟩
  · intro hissued
    obtain ⟨g, hg⟩ := Option.isSome_iff_exists.mp hissued
    obtain ⟨r, decision, hr, hdecision, -⟩ := (exec_passed hs.sound happlies hasked).decided
    exact ⟨r, g, hr, hg, Store.backs_of_effectDecision hdecision hnamed hg⟩

namespace Sample

/-- The root asks to write a file under the grant numbered `k`. -/
def checkWrite (n k : ℕ) : CheckAuthorityEffect :=
  ⟨request n, session, epoch, root, ⟨⟨"file.write"⟩, .session session⟩, some (id k)⟩

/-- What the root asks then. -/
def askWrite (k : ℕ) : Asked :=
  ⟨session, root, ⟨⟨"file.write"⟩, .session session⟩, some (id k)⟩

/-- A grant to the root to write files, for a single use. -/
def issueWrite (n k : ℕ) : IssueGrant :=
  ⟨request n, session, epoch, ⟨id k, session, root, ⟨⟨"file.write"⟩, .session session⟩,
    seconds 50, false⟩, true⟩

/-- The grant numbered 30 is issued. -/
def granted : Store := calls world [(seconds 1, .issueGrant (issueWrite 22 30))] tooled

theorem granted_reachable : Reachable world granted := tooled_reachable.trans (run_calls _ _)

end Sample

open Sample

/-- A file is written under a grant that was issued. -/
theorem named_grants_are_backed_write :
    ∃ answer g, Applies world (seconds 2)
      (.checkAuthorityEffect (checkWrite 40 30)) granted answer ∧
      granted.grants.find? (Sample.id 30) = some g ∧
      g.Backs (askWrite 30) (seconds 2) := by
  obtain ⟨answer, happlies, hasked⟩ := Command.passed_iff.mp
    (show (Command.checkAuthorityEffect (checkWrite 40 30)).passed (exec world
      (seconds 2) (.checkAuthorityEffect (checkWrite 40 30)) granted).1 =
        some (askWrite 30) by decide +kernel)
  obtain ⟨r, g, hr, hg, hbacks⟩ := (named_grants_are_backed granted_reachable happlies
    hasked rfl).mpr (by decide +kernel)
  have hfloor : granted.floorOf (askWrite 30).sessionId =
      some (seconds 1) := by decide +kernel
  rw [Store.floorOf, hr] at hfloor
  have htime : max r.timeFloor (seconds 2) = seconds 2 := by
    rw [Option.some.inj hfloor]
    decide
  rw [htime] at hbacks
  exact ⟨answer, g, happlies, hg, hbacks⟩

/-- **Leave under a grant nobody issued**: the grant numbered 31 is not there, and the root may
write under it. -/
theorem unissued_grant_is_passed_over :
    ∃ t c s answer a k, Reachable world s ∧ Applies world t c s answer ∧
      c.asked answer = some a ∧ a.grantId = some k ∧ s.grants.find? k = none := by
  obtain ⟨answer, happlies, hasked⟩ := Command.passed_iff.mp
    (show (Command.checkAuthorityEffect (checkWrite 40 31)).passed (exec world
      (seconds 2) (.checkAuthorityEffect (checkWrite 40 31)) granted).1 =
        some (askWrite 31) by decide +kernel)
  exact ⟨_, _, _, answer, _, _, granted_reachable, happlies, hasked, rfl,
    by decide +kernel⟩

/-! ### Grants that are used -/

/-- One if a call loads a grant, and goes through under it. -/
def usesNamed (env : Env) (k : GrantId) (s : Store) (call : Timestamp × Command) : ℕ :=
  if (s.grants.find? k).isSome = true ∧ call.2.usesGrant = true ∧
    (call.2.passed (exec env call.1 call.2 s).1).bind Asked.grantId = some k then 1 else 0

/-- How often some calls go through under a grant. -/
def uses (env : Env) (k : GrantId) : List (Timestamp × Command) → Store → ℕ :=
  Tally.tally (afterCall env) (usesNamed env k)

/-- The uses of a grant that was found: it has backed the call, and one for a single use is
used up. -/
theorem usesNamed_ne_zero (hs : Sound s) (h : usesNamed env k s call ≠ 0) :
    ∃ g a r, s.grants.find? k = some g ∧ s.sessions.find? a.sessionId = some r ∧
      g.Backs a (max r.timeFloor call.1) ∧
      (g.singleUse = true → (afterCall env s call).grants.find? k =
        some { g with consumedAt := some (max r.timeFloor call.1) }) := by
  obtain ⟨hfound, huses, hpassed⟩ := (ite_ne_right_iff.mp h).1
  obtain ⟨g, hg⟩ := Option.isSome_iff_exists.mp hfound
  obtain ⟨a, hpassed, hnamed⟩ := Option.bind_eq_some_iff.mp hpassed
  obtain ⟨answer, happlies, hasked⟩ := Command.passed_iff.mp hpassed
  obtain ⟨r, decision, hr, hdecision, hgrants⟩ := (exec_passed hs happlies hasked).decided
  refine ⟨g, a, r, hg, hr, Store.backs_of_effectDecision hdecision hnamed hg, fun hsingle => ?_⟩
  have hgrant : s.namedGrant a.grantId = some g := by rw [hnamed]; exact hg
  rw [afterCall, hgrants huses, Store.usedUp, hgrant]
  obtain rfl := Table.key_of_find? hg
  simp only [hsingle, if_true]
  rw [Table.find?_replace, hg]
  exact if_pos rfl

/-- Whether a grant may still be used once. -/
def Store.usesLeft (s : Store) (k : GrantId) : ℕ :=
  if (s.grants.find? k).any (fun g => g.singleUse && g.consumedAt.isSome) = true then 0 else 1

/-- One if a call goes through under a grant for more than one use. -/
def usesAgain (env : Env) (k : GrantId) (s : Store) (call : Timestamp × Command) : ℕ :=
  if (s.grants.find? k).any GrantSnapshot.singleUse = true then 0 else usesNamed env k s call

theorem Store.usesLeft_le (s : Store) (k : GrantId) : s.usesLeft k ≤ 1 := by
  unfold usesLeft
  split <;> decide

theorem Store.usesLeft_eq_zero_iff :
    s.usesLeft k = 0 ↔ ∃ g now, s.grants.find? k = some g ∧ g.singleUse = true ∧
      g.consumedAt = some now := by
  unfold usesLeft
  cases hg : s.grants.find? k with
  | none => simp
  | some g => simp [Option.isSome_iff_exists]

/-- What a later store knows of a grant. -/
theorem afterCall_grant (hs : Sound s) (hg : s.grants.find? k = some g) :
    ∃ g', (afterCall env s call).grants.find? k = some g' ∧ g.Precedes g' :=
  (Run.follows hs (.single (.call call.1 call.2))).grants k g hg

/-- A grant that is used up stays so. -/
theorem usesLeft_afterCall_le (k : GrantId) (hs : Sound s) (call : Timestamp × Command) :
    (afterCall env s call).usesLeft k ≤ s.usesLeft k := by
  by_cases hzero : s.usesLeft k = 0
  · obtain ⟨g, now, hg, hsingle, hused⟩ := Store.usesLeft_eq_zero_iff.mp hzero
    obtain ⟨g', hg', hprecedes⟩ := afterCall_grant hs hg
    have hafter : (afterCall env s call).usesLeft k = 0 := Store.usesLeft_eq_zero_iff.mpr
        ⟨g', now, hg', hprecedes.singleUse.trans hsingle, hprecedes.consumed now hused⟩
    omega
  · have hle := (afterCall env s call).usesLeft_le k
    omega

theorem usesNamed_add_usesLeft_le (k : GrantId) (s : Store) (call : Timestamp × Command)
    (hs : Sound s) :
    usesNamed env k s call + (afterCall env s call).usesLeft k ≤
      s.usesLeft k + usesAgain env k s call := by
  have hkept : (afterCall env s call).usesLeft k ≤ s.usesLeft k := usesLeft_afterCall_le k hs call
  by_cases hzero : usesNamed env k s call = 0
  · omega
  obtain ⟨g, a, r, hg, -, hbacks, hafter⟩ := usesNamed_ne_zero hs hzero
  have hone : usesNamed env k s call = 1 := if_pos (ite_ne_right_iff.mp hzero).1
  by_cases hsingle : g.singleUse = true
  · have hleft : s.usesLeft k = 1 := by simp [Store.usesLeft, hg, hbacks.unconsumed]
    have hnone : (afterCall env s call).usesLeft k = 0 :=
      Store.usesLeft_eq_zero_iff.mpr ⟨_, _, hafter hsingle, hsingle, rfl⟩
    omega
  · have hagain : usesAgain env k s call = usesNamed env k s call := by
      simp [usesAgain, hg, hsingle]
    omega

/-- A grant that can never be used again: it is revoked, or the session's time has reached
its expiry. -/
def Store.Void (s : Store) (k : GrantId) : Prop :=
  ∃ g, s.grants.find? k = some g ∧ (g.grant.revoked = true ∨
    ∃ now, s.floorOf g.grant.sessionId = some now ∧ g.grant.expiresAt ≤ now)

theorem void_afterCall (hs : Sound s) (call : Timestamp × Command) (h : s.Void k) :
    (afterCall env s call).Void k := by
  obtain ⟨g, hg, hvoid⟩ := h
  have hfollows : Follows s (afterCall env s call) := Run.follows hs (.single (.call call.1 call.2))
  obtain ⟨g', hg', hprecedes⟩ := hfollows.grants k g hg
  refine ⟨g', hg', hvoid.imp hprecedes.revoked ?_⟩
  rintro ⟨now, hfloor, hexpired⟩
  obtain ⟨now', hfloor', hle⟩ := hfollows.floor hfloor
  rw [hprecedes.same]
  exact ⟨now', hfloor', hexpired.trans hle⟩

theorem usesNamed_eq_zero (hs : Sound s) (call : Timestamp × Command) (h : s.Void k) :
    usesNamed env k s call = 0 := by
  obtain ⟨g, hg, hvoid⟩ := h
  by_contra hne
  obtain ⟨g', a, r, hg', hr, hbacks, -⟩ := usesNamed_ne_zero hs hne
  cases hg.symm.trans hg'
  rcases hvoid with hrevoked | ⟨now, hfloor, hexpired⟩
  · cases hrevoked.symm.trans hbacks.unrevoked
  rw [hbacks.sessionId, Store.floorOf, hr] at hfloor
  have hnow : r.timeFloor = now := Option.some.inj hfloor
  have hlate : g.grant.expiresAt ≤ max r.timeFloor call.1 :=
    hexpired.trans (hnow ▸ le_max_left _ _)
  exact absurd hbacks.unexpired (not_lt.mpr hlate)

/-- A grant that is void is not used in any run. -/
theorem uses_eq_zero (hs : Sound s) (h : s.Void k) (cs : List (Timestamp × Command)) :
    uses env k cs s = 0 :=
  Tally.tally_eq_zero (I := fun s => Sound s ∧ s.Void k) (M := fun _ => False)
    (fun s call h => ⟨afterCall_sound s call h.1, void_afterCall h.1 call h.2⟩)
    (fun _ _ _ h => h) (fun _ call h hne => hne (usesNamed_eq_zero h.1 call h.2)) cs ⟨hs, h⟩ id

/-- A grant that a call has revoked is void. -/
theorem revokeGrant_void {c : RevokeGrant} (h : Applies env t (.revokeGrant c) s answer) :
    (exec env t (.revokeGrant c) s).2.Void c.grantId := by
  obtain ⟨v, s', heq, hbody, -⟩ := mutation_applied h
  change (ledgered env c _ (revokeGrant env t c) s).2.Void _
  rw [revokeGrant, heq]
  obtain ⟨r, -, hbody⟩ := authorize_bind_done hbody
  simp only [looks_done] at hbody
  obtain ⟨g, hg, -, _, s2, hcommit, -, rfl⟩ := hbody
  obtain ⟨_, s3, hupdate, hcommit⟩ := bind_done.mp hcommit
  obtain ⟨_, s4, hevent, hrecord⟩ := bind_done.mp hcommit
  have hgrants : s3.grants = s.grants.replace _ := congrArg Store.grants (updateGrant_done hupdate)
  obtain ⟨_, -, rfl⟩ := appendEventData_done hevent
  obtain ⟨_, -, rfl⟩ := insertLedger_done hrecord
  have hfound : s.grants.find? c.grantId = some g := hg
  refine ⟨{ g with grant := { g.grant with revoked := true } }, ?_, .inl rfl⟩
  change s3.grants.find? c.grantId = _
  rw [hgrants, Table.find?_replace, hfound]
  exact if_pos (Table.key_of_find? hfound)

/-- **A grant for a single use is used once**, whichever of the calls uses it; and a grant that
was revoked, or whose time is up, is not used any more. -/
theorem grants_are_used_once (k : GrantId) :
    (∀ s cs g, Reachable env s → (calls env cs s).grants.find? k = some g →
      g.singleUse = true → uses env k cs s ≤ 1) ∧
    (∀ s t c answer, Reachable env s → Applies env t (.revokeGrant c) s answer →
      c.grantId = k → ∀ cs, uses env k cs (exec env t (.revokeGrant c) s).2 = 0) ∧
    ∀ s g now, Reachable env s → s.grants.find? k = some g →
      s.floorOf g.grant.sessionId = some now → g.grant.expiresAt ≤ now →
      ∀ cs, uses env k cs s = 0 := by
  refine ⟨fun s cs g hs hg hsingle => ?_, ?_, ?_⟩
  · have hpaid := Tally.tally_add_le (I := Sound) (usesNamed env k) (usesAgain env k)
      (fun s => s.usesLeft k) afterCall_sound (usesNamed_add_usesLeft_le k) cs hs.sound
    have hnone : Tally.tally (afterCall env) (usesAgain env k) cs s = 0 := by
      refine Tally.tally_eq_zero (I := Sound)
        (M := fun s => ∃ g, s.grants.find? k = some g ∧ g.singleUse = false) afterCall_sound
        ?_ ?_ cs hs.sound ?_
      · rintro s call hs ⟨g, hg, hmany⟩
        obtain ⟨g', hg', hprecedes⟩ := afterCall_grant hs hg
        exact ⟨g', hg', hprecedes.singleUse.trans hmany⟩
      · intro s call hs hne
        obtain ⟨hmany, hne⟩ := ite_ne_left_iff.mp hne
        obtain ⟨g, -, -, hg, -⟩ := usesNamed_ne_zero hs (Ne.symm hne)
        exact ⟨g, hg, by simpa [hg] using hmany⟩
      · rintro ⟨g', hg', hmany⟩
        rw [← calls_eq_run, hg] at hg'
        cases hg'
        cases hsingle.symm.trans hmany
    have hleft : s.usesLeft k ≤ 1 := s.usesLeft_le k
    unfold uses
    omega
  · rintro s t c answer hs happlies rfl cs
    exact uses_eq_zero (Run.sound hs.sound (.single (.call t _))) (revokeGrant_void happlies) cs
  · intro s g now hs hg hfloor hexpired cs
    exact uses_eq_zero hs.sound ⟨g, hg, .inr ⟨now, hfloor, hexpired⟩⟩ cs

namespace Sample

/-- The root writes under the grant, and then tries to once more. -/
def writeTwice : List (Timestamp × Command) :=
  [(seconds 2, .checkAuthorityEffect (checkWrite 40 30)),
    (seconds 3, .checkAuthorityEffect (checkWrite 41 30))]

end Sample

/-- Of two writes under the grant one goes through, and none does once it is revoked. -/
theorem grants_are_used_once_write :
    uses world (Sample.id 30) writeTwice granted = 1 ∧
    uses world (Sample.id 30) writeTwice (exec world (seconds 1)
        (.revokeGrant ⟨request 42, session, epoch, Sample.id 30⟩)
        granted).2 = 0 := by
  obtain ⟨honce, hrevoked, -⟩ := @grants_are_used_once world (Sample.id 30)
  have hsingle : ((calls world writeTwice granted).grants.find?
      (Sample.id 30)).any GrantSnapshot.singleUse = true := by decide +kernel
  obtain ⟨g, hg, hsingle⟩ := (Option.any_eq_true _ _).mp hsingle
  have hused : uses world (Sample.id 30) writeTwice granted ≠ 0 := by
    decide +kernel
  have hle := honce _ _ g granted_reachable hg hsingle
  obtain ⟨answer, happlies⟩ := Result.exists_applied (show (exec world (seconds 1)
      (.revokeGrant ⟨request 42, session, epoch, Sample.id 30⟩)
      granted).1.isApplied = true by decide +kernel)
  exact ⟨by omega, hrevoked _ _ _ answer granted_reachable happlies rfl _⟩

/-! ### Lines of authorized children -/

/-- A policy below another. -/
structure AuthorityPolicySnapshot.Descends (p q : AuthorityPolicySnapshot) : Prop where
  session : q.session = p.session
  parent : q.parent = p.subject
  delegable : ∀ x ∈ q.subject.delegable, x ∈ p.subject.delegable

/-- A participant was created from another, earlier in the run. -/
def Created (env : Env) (s : Store) (p q : ParticipantId) : Prop :=
  ∃ s₀ t c answer, Reachable env s₀ ∧ Applies env t (.createAuthorizedChild c) s₀ answer ∧
    answer.isAllowed = true ∧ c.parentParticipantId = p ∧ c.participantId = q ∧
    Run env (exec env t (.createAuthorizedChild c) s₀).2 s

theorem AuthorityPolicySnapshot.withinCeilings_delegable {p : AuthorityPolicySnapshot}
    (h : p.withinCeilings sessionId now = true) :
    ∀ x ∈ p.subject.delegable, x ∈ p.parent.delegable := by
  intro x hx
  simp only [withinCeilings, Bool.and_eq_true, List.all_eq_true] at h
  obtain ⟨decision, hdecision⟩ := Option.isSome_iff_exists.mp (h.2 x hx)
  simp only [AuthorityCeilings.authorizeChildCreation] at hdecision
  obtain ⟨hpermits, -⟩ := Option.ite_none_right_eq_some.mp hdecision
  simp only [Bool.and_eq_true, AuthorityProfile.permitsDelegation, decide_eq_true_eq] at hpermits
  exact hpermits.1.1.1.2

/-- The policy of a child descends from its parent's, for good. -/
theorem Created.descends {p q : ParticipantId} (h : Created env s p q) :
    ∃ policy policy', s.policies.find? p = some policy ∧ s.policies.find? q = some policy' ∧
      policy.Descends policy' := by
  obtain ⟨s₀, t, c, answer, hs0, happlies, hallowed, rfl, rfl, hrun⟩ := h
  obtain ⟨v, -, -, -, rfl⟩ := mutation_applied happlies
  obtain ⟨r, child, -, hchecked, -, hpolicies⟩ := createAuthorizedChild_allowed happlies hallowed
  obtain ⟨trusted, policy, hpolicy, hchild, hceilings⟩ := hchecked.derived
  have hgrows := (Run.follows (Run.sound hs0.sound (.single (.call t _))) hrun).policies
  refine ⟨policy, child.policy, hgrows _ _ (Table.Grows.insert hpolicies _ _ hpolicy),
    hgrows _ _ ?_, ?_⟩
  · rw [Table.find?_insert hpolicies]
    exact if_pos (congrArg AuthorityPolicySnapshot.participantId hchild)
  refine ⟨?_, ?_, fun x hx => ?_⟩
  · rw [hchild]; rfl
  · rw [hchild]; rfl
  · have hparent := AuthorityPolicySnapshot.withinCeilings_delegable hceilings x hx
    rw [hchild] at hparent
    exact hparent

/-- What is known of the policy at the end of a line: it has the session ceiling of the first,
and what it may hand on, or was handed, everyone above may hand on. -/
theorem line_descends {p : ℕ → ParticipantId} {k : ℕ}
    (hline : ∀ i < k, Created env s (p i) (p (i + 1))) {policy : AuthorityPolicySnapshot}
    (hpolicy : s.policies.find? (p k) = some policy) :
    (∃ first, s.policies.find? (p 0) = some first ∧ policy.session = first.session) ∧
    ∀ i < k, ∃ above, s.policies.find? (p i) = some above ∧
      (∀ x ∈ policy.subject.delegable, x ∈ above.subject.delegable) ∧
      ∀ x ∈ policy.parent.delegable, x ∈ above.subject.delegable := by
  induction k generalizing policy with
  | zero => exact ⟨⟨policy, hpolicy, rfl⟩, fun i hi => absurd hi (Nat.not_lt_zero i)⟩
  | succ k ih =>
    obtain ⟨parent, policy', hparent, hpolicy', hdescends⟩ := (hline k k.lt_succ_self).descends
    cases hpolicy.symm.trans hpolicy'
    obtain ⟨⟨first, hfirst, hsession⟩, habove⟩ :=
      ih (fun i hi => hline i (hi.trans k.lt_succ_self)) hparent
    refine ⟨⟨first, hfirst, hdescends.session.trans hsession⟩, fun i hi => ?_⟩
    rw [hdescends.parent]
    rcases Nat.lt_succ_iff_lt_or_eq.mp hi with hlt | rfl
    · obtain ⟨above, hfound, hdelegable, -⟩ := habove i hlt
      exact ⟨above, hfound, fun x hx => hdelegable x (hdescends.delegable x hx), hdelegable⟩
    · exact ⟨parent, hparent, hdescends.delegable, fun _ hx => hx⟩

/-- **Authority does not grow down the tree.**  In a line of authorized children of any length,
what the last may do at any time the session ceiling of the first permits, and all above it may
hand on; and what the last may hand on, all above it may. -/
theorem authority_does_not_grow {p : ℕ → ParticipantId} {k : ℕ}
    (hline : ∀ i < k, Created env s (p i) (p (i + 1))) {policy : AuthorityPolicySnapshot}
    (hpolicy : s.policies.find? (p k) = some policy) :
    (∀ subject sessionId requested grant now decision,
      policy.ceilings.authorizeEffect subject sessionId requested grant now = some decision →
      (∃ first, s.policies.find? (p 0) = some first ∧
        first.session.permitsActiveEffect requested sessionId = true) ∧
      ∀ i < k, ∃ above, s.policies.find? (p i) = some above ∧
        above.subject.permitsEffectDelegation requested sessionId = true) ∧
    ∀ x, policy.subject.permitsDelegation x = true → ∀ i < k, ∃ above,
      s.policies.find? (p i) = some above ∧ above.subject.permitsDelegation x = true := by
  obtain ⟨⟨first, hfirst, hsession⟩, habove⟩ := line_descends hline hpolicy
  refine ⟨fun subject sessionId requested grant now decision h => ?_, fun x hx i hi => ?_⟩
  · obtain ⟨hpermits, -⟩ := Option.ite_none_right_eq_some.mp h
    simp only [Bool.and_eq_true] at hpermits
    obtain ⟨hactive, hparent⟩ := hpermits.1.1.1
    refine ⟨⟨first, hfirst, hsession ▸ hactive⟩, fun i hi => ?_⟩
    obtain ⟨above, hfound, -, hhanded⟩ := habove i hi
    refine ⟨above, hfound, ?_⟩
    simp only [AuthorityProfile.permitsEffectDelegation, decide_eq_true_eq] at hparent ⊢
    exact hparent.imp (hhanded _) (hhanded _)
  · obtain ⟨above, hfound, hdelegable, -⟩ := habove i hi
    simp only [AuthorityProfile.permitsDelegation, decide_eq_true_eq] at hx ⊢
    exact ⟨above, hfound, hdelegable x hx⟩

namespace Sample

/-- The template of the root may be given to its children, who may write files. -/
def trusted : AuthorityTemplatePolicy := ⟨id 0, [id 0], writing, writing, writing⟩

/-- The participant numbered `n` creates the next one. -/
def createNext (n : ℕ) : CreateAuthorizedChild :=
  ⟨request (50 + n), session, epoch, id n, id (n + 1), id 0, 5,
    ⟨⟨"file.write"⟩, .session session⟩, none, id (60 + n), id (60 + n), [0x7b, 0x7d]⟩

/-- The root may create children. -/
def entrusted : Store :=
  calls world [(seconds 1, .registerAuthorityTemplatePolicy
    ⟨request 49, session, epoch, trusted⟩)] tooled

/-- The store after a line of children of some length is created. -/
def line : ℕ → Store
  | 0 => entrusted
  | n + 1 => (exec world (seconds 1) (.createAuthorizedChild (createNext n)) (line n)).2

theorem line_run (n m : ℕ) : Run world (line n) (line (n + m)) := by
  induction m with
  | zero => exact .refl
  | succ m ih => exact ih.tail (.call _ _)

theorem line_reachable (n : ℕ) : Reachable world (line n) := by
  have hentrusted : Reachable world entrusted := tooled_reachable.trans (run_calls _ _)
  have hrun := line_run 0 n
  rw [Nat.zero_add] at hrun
  exact hentrusted.trans hrun

theorem line_created {n : ℕ} (m : ℕ)
    (h : ((Command.createAuthorizedChild (createNext n)).passed (exec world (seconds 1)
      (.createAuthorizedChild (createNext n)) (line n)).1).isSome = true) :
    Created world (line (n + 1 + m)) (id n) (id (n + 1)) := by
  obtain ⟨a, ha⟩ := Option.isSome_iff_exists.mp h
  obtain ⟨answer, happlies, hasked⟩ := Command.passed_iff.mp ha
  exact ⟨line n, seconds 1, createNext n, answer, line_reachable n, happlies,
    (Option.ite_none_right_eq_some.mp hasked).1, rfl, rfl, line_run (n + 1) m⟩

end Sample

/-- The grandchild may write files, and so the root may let its children do so. -/
theorem authority_does_not_grow_line :
    Created world (line 2) (Sample.id 0) (Sample.id 1) ∧
    Created world (line 2) (Sample.id 1) (Sample.id 2) ∧
    ∃ above, (line 2).policies.find? (Sample.id 0) = some above ∧
      above.subject.permitsDelegation ⟨⟨"file.write"⟩, .session session⟩ = true := by
  have hfirst : Created world (line 2) (Sample.id 0) (Sample.id 1) :=
    line_created 1 (by decide +kernel)
  have hsecond : Created world (line 2) (Sample.id 1) (Sample.id 2) :=
    line_created 0 (by decide +kernel)
  have hline : ∀ i < 2, Created world (line 2) (Sample.id i) (Sample.id (i + 1)) := by
    intro i hi
    match i, hi with
    | 0, _ => exact hfirst
    | 1, _ => exact hsecond
  have hpolicy : (line 2).policies.find? (Sample.id 2) = some ((createNext 1).childPolicy trusted
        ((createNext 0).childPolicy trusted policy)) := by decide +kernel
  obtain ⟨-, hdelegable⟩ := authority_does_not_grow hline hpolicy
  exact ⟨hfirst, hsecond, hdelegable _ (by decide) 0 (by decide)⟩

end Navigator
