/-
Calls as deeds: authority.

Policies and grants are tables of their own, so all but one of these calls only let time
pass.  `createAuthorizedChild` makes a participant that has work from its first moment: it
joins, its operation begins, and the operation's input is queued.
-/
import Navigator.Deeds.Mailbox

namespace Navigator

open Txn Tx

variable {env : Env} {W : LedgerRow → Prop} {P : Store → Label → Prop} {s s' : Store}
variable {g : GrantSnapshot} {u : Unit} {now t : Timestamp} {c : CreateAuthorizedChild}
variable {grantId : Option GrantId} {grant : Option GrantSnapshot} {value : StoredValue}
  {wrap : GrantSnapshot → Answer} {child : AuthorizedChild}

/-! ### Policies and grants -/

@[simp] theorem insertPolicy_within {p : AuthorityPolicySnapshot} :
    Within (Aside env) (insertPolicy p) :=
  .of_done fun s _ _ h => by
    simp only [insertPolicy, looks_done] at h
    obtain ⟨policies, hinsert, -, rfl⟩ := h
    exact { Aside.refl env s with policies := .insert hinsert }

theorem updateGrant_done (h : updateGrant g s = .done u s') :
    s' = { s with grants := s.grants.replace g } := by
  simp only [updateGrant, looks_done] at h
  exact h.2.symm

/-- A grant is changed as grants may change. -/
theorem updateGrant_aside {g' : GrantSnapshot} (h : updateGrant g' s = .done u s')
    (hfound : s.grants.find? g'.grant.id = some g) (hprecedes : g.Precedes g') :
    Aside env s s' := by
  rw [updateGrant_done h]
  exact { Aside.refl env s with grants := .replace GrantSnapshot.Precedes.refl hfound hprecedes }

/-- A grant that is named and not used up. -/
def Store.Usable (s : Store) (grant : Option GrantSnapshot) : Prop :=
  ∀ g, grant = some g → s.grants.find? g.grant.id = some g ∧ g.consumedAt = none

theorem Store.namedGrant_found (h : s.namedGrant grantId = some g) :
    s.grants.find? g.grant.id = some g := by
  obtain ⟨id, -, hg⟩ := Option.bind_eq_some_iff.mp h
  obtain rfl := Table.key_of_find? hg
  exact hg

/-- The grant behind a decision is not used up. -/
theorem Store.usable_of_effectDecision {sessionId : SessionId} {participantId : ParticipantId}
    {requested : ScopedCapability} {decision : AuthorityDecision}
    (h : s.effectDecision sessionId participantId requested grantId now = some decision) :
    s.Usable (s.namedGrant grantId) := by
  intro g hg
  obtain ⟨-, hall⟩ := Option.filter_eq_some_iff.mp h
  rw [hg] at hall
  exact ⟨Store.namedGrant_found hg, by simpa using hall⟩

theorem consumeGrant_aside (husable : s.Usable grant) (h : consumeGrant grant now s = .done u s') :
    Aside env s s' := by
  unfold consumeGrant at h
  obtain _ | g := grant
  · exact (pure_done.mp h).2 ▸ .refl env s
  obtain ⟨hfound, hunused⟩ := husable g rfl
  simp only at h
  split at h
  · refine updateGrant_aside h hfound ⟨rfl, rfl, id, fun t ht => ?_⟩
    rw [hunused] at ht
    cases ht
  · exact (pure_done.mp h).2 ▸ .refl env s

theorem replayTemplatePolicy_within : Within Eq (replayTemplatePolicy value) := by
  unfold replayTemplatePolicy
  repeat refine .bind (by simp) fun _ => ?_
  simp

theorem registerAuthorityTemplatePolicy_path {c : RegisterAuthorityTemplatePolicy}
    (hP : Tolerant (Writes env c) P) {wrap : AuthorityTemplatePolicy → Answer} :
    Path env P s (ledgered env c wrap (registerAuthorityTemplatePolicy env t c) s).2 := by
  refine mutation_path_of_within hP (fun value => replayTemplatePolicy_within) ?_
  refine Within.bind (authorize_within hP) fun _ => ?_
  iterate 5 refine .bind (by simp) fun _ => ?_
  split
  · exact Within.bind (by simp) fun _ =>
      Within.bind (Within.commit (record_within hP)) fun _ => by simp
  refine Within.bind (Within.commit (.of_done fun s _ _ h => ?_)) fun _ => by simp
  simp only [looks_done] at h
  obtain ⟨rows, hinsert, hrecord⟩ := h
  have hinserted : Aside env s { s with templatePolicies := rows } :=
    { Aside.refl env s with templatePolicies := .insert hinsert }
  exact (hinserted.path hP).trans ((record_within hP).done hrecord)

theorem putAuthorityPolicy_path {c : PutAuthorityPolicy} (hP : Tolerant (Writes env c) P)
    {wrap : AuthorityPolicySnapshot → Answer} :
    Path env P s (ledgered env c wrap (putAuthorityPolicy env t c) s).2 := by
  refine mutation_path_of_within hP (fun value => by simp) ?_
  refine Within.bind (authorize_within hP) fun _ => ?_
  iterate 6 refine .bind (by simp) fun _ => ?_
  split
  · exact Within.bind (by simp) fun _ =>
      Within.bind (Within.commit (record_within hP)) fun _ => by simp
  · refine Within.bind (Within.commit ?_) fun _ => by simp
    refine (within_aside hP insertPolicy_within).bind fun _ => ?_
    exact told_within hP appendAuthorityEvent_within

theorem issueGrant_path {c : IssueGrant} (hP : Tolerant (Writes env c) P) :
    Path env P s (ledgered env c wrap (issueGrant env t c) s).2 := by
  refine mutation_path_of_within hP (fun value => by simp) ?_
  refine Within.bind (authorize_within hP) fun _ => ?_
  iterate 6 refine .bind (by simp) fun _ => ?_
  refine Within.bind (Within.commit (.of_done fun s _ s' h => ?_)) fun _ => by simp
  simp only [looks_done] at h
  obtain ⟨grants, hinsert, h⟩ := h
  have hissued : Aside env s { s with grants } :=
    { Aside.refl env s with grants := .insert GrantSnapshot.Precedes.refl hinsert }
  refine (hissued.path hP).trans (Within.done h ?_)
  exact told_within hP appendAuthorityEvent_within

theorem revokeGrant_path {c : RevokeGrant} (hP : Tolerant (Writes env c) P) :
    Path env P s (ledgered env c wrap (revokeGrant env t c) s).2 := by
  refine mutation_path hP (fun value => by simp) (fun v s' h => ?_) ?_
  · obtain ⟨r, hr, h⟩ := authorize_bind_done h
    refine (withFloor_path hP hr.found t).trans ?_
    simp only [looks_done] at h
    obtain ⟨g, hg, -, _, s2, hcommit, -, rfl⟩ := h
    obtain ⟨_, s3, hupdate, hcommit⟩ := bind_done.mp hcommit
    have hfound := Table.find?_of_mem (Table.mem_of_find? hg)
    have hrevoked : Aside env _ s3 :=
      updateGrant_aside hupdate hfound ⟨rfl, rfl, fun _ => rfl, fun _ h => h⟩
    refine (hrevoked.path hP).trans (Within.done hcommit ?_)
    exact told_within hP appendAuthorityEvent_within
  · refine RefusesWithin.bind (authorize_within hP) fun _ => ?_
    iterate 3 refine .bind (by simp) fun _ => ?_
    simp

theorem checkAuthorityEffect_path {c : CheckAuthorityEffect} (hP : Tolerant (Writes env c) P)
    {wrap : AuthorityEffectOutcome → Answer} :
    Path env P s (ledgered env c wrap (checkAuthorityEffect env t c) s).2 := by
  refine mutation_path hP (fun value => by simp) (fun v s' h => ?_) ?_
  · obtain ⟨r, hr, h⟩ := authorize_floor_done h
    refine (withFloor_path hP hr.found t).trans ?_
    simp only [looks_done] at h
    cases hdecision : (s.withFloor c.sessionId (max r.timeFloor t)).effectDecision c.sessionId
        c.participantId c.requested c.grantId (max r.timeFloor t) with
    | some decision =>
      simp only [hdecision, looks_done] at h
      obtain ⟨_, s3, hcommit, -, rfl⟩ := h
      obtain ⟨_, s4, hconsume, hcommit⟩ := bind_done.mp hcommit
      have hconsumed : Aside env _ s4 :=
        consumeGrant_aside (Store.usable_of_effectDecision hdecision) hconsume
      refine (hconsumed.path hP).trans (Within.done hcommit ?_)
      exact told_within hP appendAuthorityEvent_within
    | none =>
      simp only [hdecision, looks_done] at h
      obtain ⟨_, s3, hcommit, -, rfl⟩ := h
      refine Within.done hcommit ?_
      exact told_within hP appendAuthorityEvent_within
  · refine RefusesWithin.bind (authorize_within hP) fun _ => ?_
    iterate 3 refine .bind (by simp) fun _ => ?_
    split <;> simp

/-! ### Authorized children -/

theorem replayChild_within : Within Eq (replayChild value) := by
  refine .bind (by simp) fun outcome => ?_
  cases outcome with
  | denied => simp
  | allowed participant policy operation decision =>
    simp only
    iterate 6 refine .bind (by simp) fun _ => ?_
    repeat refine .bind (by simp) fun _ => ?_
    simp

theorem CreateAuthorizedChild.operation_readable (c : CreateAuthorizedChild) (now : Timestamp) :
    (c.operation env now).Readable :=
  ⟨le_rfl, rfl, fun _ h => (nomatch h), rfl⟩

/-- The first message of a mailbox. -/
theorem insertCounter_path {m : MessageSnapshot} {messages : Table MessageRow}
    (hinsert : s.messages.insert? (.ofSnapshot m) = some messages)
    (hnew : m = newMessage m.sessionId m.messageId m.source m.destination m.correlation
      m.envelope 1 m.createdAt) (hpermits : P s (.queued m))
    (hsession : s.participantSession m.destination = some m.sessionId)
    (hfloor : s.floorOf m.sessionId = some now) (htime : m.createdAt ≤ now)
    (h : insertCounter ⟨m.destination, 2, env.envelopeSize m.envelope, 1⟩ { s with messages } =
      .done u s') : Path env P s s' := by
  simp only [insertCounter, looks_done] at h
  obtain ⟨counters, hcounters, -, rfl⟩ := h
  have hcounter : s.counterOf m.destination = ⟨m.destination, 1, 0, 0⟩ := by
    have hnone : s.counters.find? m.destination = none := Table.insert?_fresh hcounters
    rw [Store.counterOf, hnone]
    rfl
  have hsequence : m.mailboxSequence = 1 := congrArg MessageSnapshot.mailboxSequence hnew
  have hadvance : (s.counterOf m.destination).advance (env.envelopeSize m.envelope) =
      ⟨m.destination, 2, env.envelopeSize m.envelope, 1⟩ := by
    rw [hcounter, MailboxCounter.advance]
    simp
  have hupsert : counters = s.counters.upsert
      ((s.counterOf m.destination).advance (env.envelopeSize m.envelope)) := by
    rw [hadvance, Table.upsert, hcounters]
  rw [hupsert]
  refine .single hpermits (.message (.queued hinsert ?_ ?_ ?_ hsession hfloor htime))
  · rw [hsequence, hcounter]
  · rw [hcounter]
    change 2 < i64Bound
    decide
  · rw [hsequence]
    exact hnew

/-- What is known of a child that is authorized. -/
structure AuthorizedChild.Checked (child : AuthorizedChild) (c : CreateAuthorizedChild)
    (s : Store) (now : Timestamp) : Prop where
  session : child.parent.sessionId = c.sessionId
  shallow : child.parent.depth < maxParticipantDepth
  few : s.directChildren c.sessionId c.parentParticipantId < maxDirectChildren
  small : s.sessionParticipants c.sessionId < maxSessionParticipants
  decided : s.effectDecision c.sessionId c.parentParticipantId c.requested c.grantId now =
    some child.decision
  derived : ∃ trusted policy, s.policies.find? c.parentParticipantId = some policy ∧
    child.policy = c.childPolicy trusted policy ∧
    child.policy.withinCeilings c.sessionId now = true

theorem CreateAuthorizedChild.authorized_ok {parent : Option ParticipantSnapshot}
    (h : c.authorized env now parent s = .ok (some child)) :
    parent = some child.parent ∧ child.Checked c s now := by
  simp only [authorized, result_bind_ok] at h
  obtain ⟨template, -, h⟩ := h
  split at h
  · next parent _ _ trusted policy _ hpolicy =>
    split at h
    · next hchecked =>
      obtain ⟨hceilings, -, hsession, hdepth, -, -, -⟩ := hchecked
      simp only [result_bind_ok] at h
      obtain ⟨existing, -, h⟩ := h
      split at h
      · next hroom =>
        obtain ⟨-, -, -, -, hfew, hsmall⟩ := hroom
        simp only [result_pure_ok] at h
        obtain ⟨decision, hdecision, rfl⟩ := Option.map_eq_some_iff.mp h
        exact ⟨rfl, hsession, hdepth, hfew, hsmall, hdecision, trusted, policy, hpolicy, rfl,
          hceilings⟩
      · simp at h
    · simp at h
  · simp at h

theorem insertAuthorizedChild_done (h : insertAuthorizedChild env c child now s = .done u s') :
    s'.grants = s.grants ∧ s.policies.insert? child.policy = some s'.policies ∧
      s.operations.insert? ⟨c.operation env now, c.input⟩ = some s'.operations ∧
      s.messages.insert? (.ofSnapshot (inputMessage (c.operation env now) 1 now)) =
        some s'.messages := by
  obtain ⟨_, s1, hjoin, h⟩ := bind_done.mp h
  obtain ⟨participants, -, rfl⟩ := insertParticipant_done hjoin
  obtain ⟨_, s2, hpolicy, h⟩ := bind_done.mp h
  simp only [insertPolicy, looks_done] at hpolicy
  obtain ⟨policies, hpolicies, -, rfl⟩ := hpolicy
  obtain ⟨_, s3, hinsert, h⟩ := bind_done.mp h
  obtain ⟨operations, hrow, -, rfl⟩ := insertOperation_done hinsert
  obtain ⟨_, s4, hmessage, h⟩ := bind_done.mp h
  obtain ⟨messages, hinput, rfl⟩ := insertMessageRow_done hmessage
  simp only [insertCounter, looks_done] at h
  obtain ⟨counters, -, -, rfl⟩ := h
  exact ⟨rfl, hpolicies, hrow, hinput⟩

/-- The rows of a child that is allowed, and the grant that is used for it. -/
theorem commitAuthorizedChild_done {v : AuthorizedChildOutcome}
    (h : commitAuthorizedChild env c child grant now s = .done v s') :
    ∃ s1 s2, consumeGrant grant now s1 = .done () s2 ∧ s1.grants = s.grants ∧
      s'.grants = s2.grants ∧ s.policies.insert? child.policy = some s'.policies ∧
      s.operations.insert? ⟨c.operation env now, c.input⟩ = some s'.operations ∧
      s.messages.insert? (.ofSnapshot (inputMessage (c.operation env now) 1 now)) =
        some s'.messages := by
  obtain ⟨_, s1, hinsert, h⟩ := bind_done.mp h
  obtain ⟨_, s2, hevent, h⟩ := bind_done.mp h
  obtain ⟨_, s3, hmessage, h⟩ := bind_done.mp h
  obtain ⟨_, s4, hconsume, h⟩ := bind_done.mp h
  obtain ⟨_, s5, hcreated, h⟩ := bind_done.mp h
  obtain ⟨_, s6, hauthority, h⟩ := bind_done.mp h
  obtain ⟨_, s7, hrecord, h⟩ := bind_done.mp h
  cases h
  obtain ⟨_, -, rfl⟩ := appendEventData_done hevent
  obtain ⟨_, -, rfl⟩ := appendEventData_done hmessage
  have hrest := consumeGrant_done hconsume
  obtain ⟨_, -, rfl⟩ := appendEventData_done hcreated
  obtain ⟨_, -, rfl⟩ := appendEventData_done hauthority
  obtain ⟨_, -, rfl⟩ := insertLedger_done hrecord
  obtain ⟨hgrants, hpolicies, hrow, hinput⟩ := insertAuthorizedChild_done hinsert
  refine ⟨_, s4, hconsume, hgrants, rfl, ?_⟩
  rw [hrest]
  exact ⟨hpolicies, hrow, hinput⟩

theorem insertAuthorizedChild_path (hP : Tolerant W P)
    (hadmitted : s.Receives (c.participant child.parent))
    (hstarts : ∀ s, P s (.began (c.operation env now)))
    (hserves : ∀ s m, s.Serves m → P s (.queued m)) (hfloor : s.floorOf c.sessionId = some now)
    (h : insertAuthorizedChild env c child now s = .done u s') : Path env P s s' := by
  obtain ⟨_, s1, hjoin, h⟩ := bind_done.mp h
  obtain ⟨participants, hparticipants, rfl⟩ := insertParticipant_done hjoin
  have hjoined : Path env P s { s with participants } :=
    PeopleDeed.path hP (.joined hparticipants hadmitted)
  obtain ⟨_, s2, hpolicy, h⟩ := bind_done.mp h
  have hpolicy : Aside env _ s2 := insertPolicy_within.1 _ _ _ hpolicy
  have hactive : s2.cancellationRequested c.participantId = false := by
    rw [Store.cancellationRequested, hpolicy.participants, Table.find?_insert hparticipants]
    exact congrArg (fun r => (Option.map _ r).getD false) (if_pos rfl)
  have hsession : s2.participantSession c.participantId = some c.sessionId := by
    rw [Store.participantSession, hpolicy.participants, Table.find?_insert hparticipants]
    exact congrArg (Option.map _) (if_pos rfl)
  have hfloor2 : s2.floorOf c.sessionId = some now := by
    rw [Store.floorOf, hpolicy.sessions]
    exact hfloor
  obtain ⟨_, s3, hoperation, h⟩ := bind_done.mp h
  obtain ⟨hbegan, hrow, heq⟩ : Path env P s2 s3 ∧ _ ∧ _ := insertOperation_path hstarts rfl
    (c.operation_readable now) hsession hactive hfloor2 le_rfl hoperation
  obtain ⟨_, s4, hmessage, h⟩ := bind_done.mp h
  obtain ⟨messages, hmessages, rfl⟩ := insertMessageRow_done hmessage
  have hqueued : Path env P s3 s' := by
    refine insertCounter_path hmessages rfl (hserves _ _ (inputMessage_serves hrow rfl _ _))
      ?_ ?_ le_rfl h
    · rw [heq]
      exact hsession
    · rw [heq]
      exact hfloor2
  exact hjoined.trans ((hpolicy.path hP).trans (hbegan.trans hqueued))

theorem createAuthorizedChild_path {wrap : AuthorizedChildOutcome → Answer} :
    Path env ((Command.createAuthorizedChild c).Permits env t s) s
      (ledgered env c wrap (createAuthorizedChild env t c) s).2 := by
  have hP := (Command.createAuthorizedChild c).permits_tolerant env t s
  refine mutation_path hP (fun value => replayChild_within) (fun v s' h => ?_) ?_
  · obtain ⟨r, hr, h⟩ := authorize_floor_done h
    refine (withFloor_path hP hr.found t).trans ?_
    simp only [looks_done] at h
    obtain ⟨parent, hparent, hactive, outcome, houtcome, h⟩ := h
    cases outcome with
    | none =>
      simp only [looks_done] at h
      obtain ⟨_, s3, hcommit, -, rfl⟩ := h
      refine Within.done hcommit ?_
      refine (within_aside hP appendAuthorityEvent_within).bind fun _ => ?_
      exact (record_within hP).bind fun _ => by simp
    | some child =>
      simp only [looks_done] at h
      obtain ⟨_, s3, hcommit, -, rfl⟩ := h
      obtain ⟨_, s4, hinsert, hcommit⟩ := bind_done.mp hcommit
      obtain ⟨rfl, hchecked⟩ := CreateAuthorizedChild.authorized_ok houtcome
      obtain ⟨row, hrow, hsnapshot⟩ := loadParticipant_ok_some hparent
      rw [Store.cancellationRequested_of_find? hrow] at hactive
      have hadmitted : (s.withFloor c.sessionId (max r.timeFloor t)).Receives
          (c.participant child.parent) := by
        refine ⟨fun h => (by cases h), fun q hq => ?_⟩
        cases hq
        exact ⟨row, hrow, hsnapshot ▸ hchecked.session, hactive, hsnapshot ▸ rfl,
          hsnapshot ▸ hchecked.shallow, hchecked.few, hchecked.small⟩
      have hpath : Path env _ _ s4 := insertAuthorizedChild_path hP hadmitted (fun _ => rfl)
        (fun _ _ h => .inl h) hr.floorOf hinsert
      refine hpath.trans ?_
      obtain ⟨_, s5, hevent, hrest⟩ := bind_done.mp hcommit
      obtain ⟨_, s6, hmessage, hrest'⟩ := bind_done.mp hrest
      obtain ⟨_, s7, hconsume, hrecord⟩ := bind_done.mp hrest'
      obtain ⟨e, he, rfl⟩ := appendEventData_done hevent
      obtain ⟨e', he', rfl⟩ := appendEventData_done hmessage
      have husable := Store.usable_of_effectDecision hchecked.decided
      have hconsumed : Aside env _ s7 := consumeGrant_aside
        (fun g hg => ⟨(insertAuthorizedChild_done hinsert).1 ▸ (husable g hg).1,
          (husable g hg).2⟩) hconsume
      have haside : Aside env s4 s7 := (Aside.append he).trans ((Aside.append he').trans hconsumed)
      refine (haside.path hP).trans (Within.done hrecord ?_)
      refine (within_aside hP appendEventData_within).bind fun _ => ?_
      refine (within_aside hP appendAuthorityEvent_within).bind fun _ => ?_
      exact (record_within hP).bind fun _ => by simp
  · refine RefusesWithin.bind (authorize_within hP) fun _ => ?_
    iterate 8 refine .bind (by simp) fun _ => ?_
    split <;> simp

end Navigator
