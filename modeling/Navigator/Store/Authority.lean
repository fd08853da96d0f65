/-
Authority.

Policies are recorded once and never change; grants may be revoked, and used up if
they are for a single use.  `createAuthorizedChild` makes a participant, its policy,
its first operation and the message that carries the operation's input in one
transaction, or records that it was denied.
-/
import Navigator.Store.Mailbox

namespace Navigator

open Txn Tx

/-! ### Policies -/

/-- A recorded template policy, as long as it is still the one recorded. -/
def replayTemplatePolicy (value : StoredValue) : Write AuthorityTemplatePolicy := do
  let policy ← orAbort value.templatePolicy? .corrupt
  ensure ((← read (·.templatePolicies.find? policy.templateId)) = some policy) .corrupt
  return policy

/-- `register_authority_template_policy`. -/
def registerAuthorityTemplatePolicy (env : Env) (observedAt : Timestamp)
    (c : RegisterAuthorityTemplatePolicy) : Call (Mutation AuthorityTemplatePolicy) :=
  replayOr env c replayTemplatePolicy do
    let invalid := (c.sessionId, StoreError.invalid)
    authorize c.sessionId c.context c.epoch .registerAuthorityTemplatePolicy observedAt
    require (c.policy.allowedParentTemplates ≠ [] ∧
      c.policy.allowedParentTemplates.length ≤ 256) invalid
    let template ← ofExcept (← read (loadTemplate env · c.policy.templateId))
    require (template.isSome = true) invalid
    match ← read (·.templatePolicies.find? c.policy.templateId) with
    | some existing =>
      require (existing = c.policy) invalid
      commit (record env c.sessionId c .unchanged (.templatePolicy existing))
      return .unchanged existing
    | none =>
      commit do
        let rows ← orAbort ((← read Store.templatePolicies).insert? c.policy) .unavailable
        write fun s => { s with templatePolicies := rows }
        record env c.sessionId c .applied (.templatePolicy c.policy)
      return .applied c.policy

/-- Whether a policy gives its subject nothing beyond its own ceilings. -/
def AuthorityPolicySnapshot.withinCeilings (p : AuthorityPolicySnapshot)
    (sessionId : SessionId) (now : Timestamp) : Bool :=
  p.subject.active.all (fun requested =>
    (p.ceilings.authorizeEffect p.participantId sessionId requested none now).isSome) &&
  p.subject.delegable.all fun requested =>
    (p.ceilings.authorizeChildCreation requested).isSome

/-- `INSERT INTO authority_policies`. -/
def insertPolicy (p : AuthorityPolicySnapshot) : Write Unit := do
  let policies ← orAbort ((← read Store.policies).insert? p) .unavailable
  write fun s => { s with policies }

/-- `put_authority_policy`. -/
def putAuthorityPolicy (env : Env) (observedAt : Timestamp) (c : PutAuthorityPolicy) :
    Call (Mutation AuthorityPolicySnapshot) :=
  replayOr env c (fun value => orAbort value.policy? .corrupt) do
    let invalid := (c.sessionId, StoreError.invalid)
    authorize c.sessionId c.context c.epoch .putAuthorityPolicy observedAt
    require (c.policy.sessionId = c.sessionId) invalid
    let participant ← ofExcept (← read (loadParticipant · c.policy.participantId))
    require (participant.map ParticipantSnapshot.sessionId = some c.sessionId) invalid
    require (c.policy.withinCeilings c.sessionId observedAt = true) invalid
    match ← read (·.policies.find? c.policy.participantId) with
    | some existing =>
      require (existing = c.policy) invalid
      commit (record env c.sessionId c .unchanged (.policy existing))
      return .unchanged existing
    | none =>
      commit do
        insertPolicy c.policy
        appendAuthorityEvent env c.sessionId c.context .authorityPolicyApplied
          c.policy.participantId observedAt
        record env c.sessionId c .applied (.policy c.policy)
      return .applied c.policy

/-! ### Grants -/

/-- `issue_grant`. -/
def issueGrant (env : Env) (observedAt : Timestamp) (c : IssueGrant) :
    Call (Mutation GrantSnapshot) :=
  replayOr env c (fun value => orAbort value.grant? .corrupt) do
    let invalid := (c.sessionId, StoreError.invalid)
    authorize c.sessionId c.context c.epoch .issueGrant observedAt
    require (c.grant.sessionId = c.sessionId ∧ c.grant.revoked = false ∧
      c.grant.isActive observedAt = true) invalid
    let policy ← orAbort (← read (·.policies.find? c.grant.subject)) .invalid
    require ((policy.ceilings.authorizeEffect c.grant.subject c.sessionId c.grant.authority none
      observedAt).isSome = true) invalid
    require ((← read (·.grants.find? c.grant.id)) = none) invalid
    let snapshot : GrantSnapshot := ⟨c.grant, c.singleUse, none⟩
    commit do
      let grants ← orAbort ((← read Store.grants).insert? snapshot) .unavailable
      write fun s => { s with grants }
      appendAuthorityEvent env c.sessionId c.context .authorityGrantIssued c.grant.subject
        observedAt
      record env c.sessionId c .applied (.grant snapshot)
    return .applied snapshot

/-- `update_grant_in`. -/
def updateGrant (g : GrantSnapshot) : Write Unit := do
  ensure (((← read Store.grants).find? g.grant.id).isSome = true) .corrupt
  write fun s => { s with grants := s.grants.replace g }

/-- `revoke_grant`. -/
def revokeGrant (env : Env) (observedAt : Timestamp) (c : RevokeGrant) :
    Call (Mutation GrantSnapshot) :=
  replayOr env c (fun value => orAbort value.grant? .corrupt) do
    authorize c.sessionId c.context c.epoch .revokeGrant observedAt
    let current ← orAbort (← read (·.grants.find? c.grantId)) .invalid
    require (current.grant.sessionId = c.sessionId) (c.sessionId, .invalid)
    let snapshot := { current with grant := { current.grant with revoked := true } }
    commit do
      updateGrant snapshot
      appendAuthorityEvent env c.sessionId c.context .authorityGrantRevoked
        snapshot.grant.subject observedAt
      record env c.sessionId c .applied (.grant snapshot)
    return .applied snapshot

/-- The grant a command names.  One that does not exist counts as none named. -/
def Store.namedGrant (s : Store) (grantId : Option GrantId) : Option GrantSnapshot :=
  grantId.bind s.grants.find?

/-- What a participant's policy and the named grant say to an effect. -/
def Store.effectDecision (s : Store) (sessionId : SessionId) (participantId : ParticipantId)
    (requested : ScopedCapability) (grantId : Option GrantId) (now : Timestamp) :
    Option AuthorityDecision :=
  let grant := s.namedGrant grantId
  ((s.policies.find? participantId).bind fun policy =>
    policy.ceilings.authorizeEffect participantId sessionId requested
      (grant.map GrantSnapshot.grant) now).filter fun _ =>
    grant.all fun g => g.consumedAt = none

/-- A grant for a single use is used up. -/
def consumeGrant (grant : Option GrantSnapshot) (now : Timestamp) : Write Unit :=
  match grant with
  | some g => if g.singleUse then updateGrant { g with consumedAt := some now } else pure ()
  | none => pure ()

/-- The grant is used up, and nothing else changes. -/
theorem consumeGrant_done {grant : Option GrantSnapshot} {now : Timestamp} {s s' : Store}
    {u : Unit} (h : consumeGrant grant now s = .done u s') :
    s' = { s with grants := s'.grants } := by
  unfold consumeGrant at h
  split at h
  · split at h
    · simp only [updateGrant, looks_done] at h
      rw [← h.2]
    · rw [(pure_done.mp h).2]
  · rw [(pure_done.mp h).2]

/-- `check_authority_effect`. -/
def checkAuthorityEffect (env : Env) (observedAt : Timestamp) (c : CheckAuthorityEffect) :
    Call (Mutation AuthorityEffectOutcome) :=
  replayOr env c (fun value => orAbort value.effect? .corrupt) do
    authorize c.sessionId c.context c.epoch .checkAuthorityEffect observedAt
    let now ← loadTimeFloor c.sessionId
    let grant ← read (·.namedGrant c.grantId)
    match ← read (·.effectDecision c.sessionId c.participantId c.requested c.grantId now) with
    | some decision =>
      commit do
        consumeGrant grant now
        appendAuthorityEvent env c.sessionId c.context .authorityAllowed c.participantId now
        record env c.sessionId c .applied (.effect (.allowed decision))
      return .applied (.allowed decision)
    | none =>
      commit do
        appendAuthorityEvent env c.sessionId c.context .authorityDenied c.participantId now
        record env c.sessionId c .applied (.effect .denied)
      return .applied .denied

/-! ### Authorized children -/

/-- The policy of a child: its parent's subject profile becomes the parent ceiling. -/
def CreateAuthorizedChild.childPolicy (c : CreateAuthorizedChild)
    (trusted : AuthorityTemplatePolicy) (parent : AuthorityPolicySnapshot) :
    AuthorityPolicySnapshot where
  sessionId := c.sessionId
  participantId := c.participantId
  session := parent.session
  parent := parent.subject
  template := trusted.template
  relationship := trusted.relationship
  subject := trusted.subject

def CreateAuthorizedChild.participant (c : CreateAuthorizedChild)
    (parent : ParticipantSnapshot) : ParticipantSnapshot where
  sessionId := c.sessionId
  participantId := c.participantId
  parentParticipantId := some c.parentParticipantId
  depth := parent.depth + 1
  templateId := c.templateId
  templateCompatibility := c.expectedCompatibility
  revision := .initial

/-- The child's first operation. -/
def CreateAuthorizedChild.operation (env : Env) (c : CreateAuthorizedChild) (now : Timestamp) :
    OperationSnapshot where
  sessionId := c.sessionId
  operationId := c.operationId
  participantId := c.participantId
  startRequestId := c.context.requestId
  inputMessageId := c.inputMessageId
  waitingOnMessageId := none
  inputDigest := inputDigest env c.input
  state := .queued
  revision := .initial
  terminalOutcome := none
  createdAt := now
  updatedAt := now

/-- What a child is created from. -/
structure AuthorizedChild where
  parent : ParticipantSnapshot
  policy : AuthorityPolicySnapshot
  decision : AuthorityDecision

/-- The checks of `create_authorized_child` after the parent and its template are read;
any that fails denies the child. -/
def CreateAuthorizedChild.authorized (env : Env) (c : CreateAuthorizedChild) (now : Timestamp)
    (parent : Option ParticipantSnapshot) (s : Store) :
    Except StoreError (Option AuthorizedChild) := do
  let template ← loadTemplate env s c.templateId
  match parent, template, s.templatePolicies.find? c.templateId,
      s.policies.find? c.parentParticipantId with
  | some parent, some template, some trusted, some parentPolicy =>
    let policy := c.childPolicy trusted parentPolicy
    if policy.withinCeilings c.sessionId now ∧ c.participantId ≠ c.parentParticipantId ∧
        parent.sessionId = c.sessionId ∧ parent.depth < maxParticipantDepth ∧
        parent.templateId ∈ trusted.allowedParentTemplates ∧
        template.compatibility = c.expectedCompatibility ∧
        s.sessionAllowsTemplate c.sessionId template then
      let existing ← loadParticipant s c.participantId
      if existing = none ∧ env.validateInput template c.input = some c.input ∧
          s.operations.find? c.operationId = none ∧
          s.messages.find? c.inputMessageId = none ∧
          s.directChildren c.sessionId c.parentParticipantId < maxDirectChildren ∧
          s.sessionParticipants c.sessionId < maxSessionParticipants then
        return (s.effectDecision c.sessionId c.parentParticipantId c.requested c.grantId
          now).map fun decision => ⟨parent, policy, decision⟩
      else return none
    else return none
  | _, _, _, _ => return none

/-- `INSERT INTO mailbox_counters`, for the mailbox of a new participant. -/
def insertCounter (counter : MailboxCounter) : Write Unit := do
  let counters ← orAbort ((← read Store.counters).insert? counter) .unavailable
  write fun s => { s with counters }

/-- The event of an authorized child's creation, which leaves the session out. -/
def authorizedChildEventPayload (p : ParticipantSnapshot) : EventData :=
  .participant none p.participantId p.parentParticipantId p.templateId p.depth p.revision

/-- The rows of an authorized child. -/
def insertAuthorizedChild (env : Env) (c : CreateAuthorizedChild) (child : AuthorizedChild)
    (now : Timestamp) : Write Unit := do
  let operation := c.operation env now
  let message := inputMessage operation 1 now
  insertParticipant (c.participant child.parent)
  insertPolicy child.policy
  insertOperation ⟨operation, c.input⟩
  insertMessageRow message
  insertCounter ⟨c.participantId, 2, env.envelopeSize message.envelope, 1⟩

/-- The writes of a creation that is allowed. -/
def commitAuthorizedChild (env : Env) (c : CreateAuthorizedChild) (child : AuthorizedChild)
    (grant : Option GrantSnapshot) (now : Timestamp) : Write AuthorizedChildOutcome := do
  let requestId := c.context.requestId
  let participant := c.participant child.parent
  let operation := c.operation env now
  insertAuthorizedChild env c child now
  appendEventData env requestId c.sessionId operation.revision (.operation .queued)
    (operationEventPayload env operation) now
  appendMessageEvent env requestId (inputMessage operation 1 now) now
  consumeGrant grant now
  appendEventData env requestId c.sessionId .initial .participantCreated
    (authorizedChildEventPayload participant) now
  appendAuthorityEvent env c.sessionId c.context .authorityAllowed c.parentParticipantId now
  let outcome := .allowed participant child.policy operation child.decision
  record env c.sessionId c .applied (.child outcome)
  return outcome

def commitChildDenied (env : Env) (c : CreateAuthorizedChild) (now : Timestamp) :
    Write AuthorizedChildOutcome := do
  appendAuthorityEvent env c.sessionId c.context .authorityDenied c.parentParticipantId now
  record env c.sessionId c .applied (.child .denied)
  return .denied

/-- A replayed creation: everything it made must still be there. -/
def replayChild (value : StoredValue) : Write AuthorizedChildOutcome := do
  let outcome ← orAbort value.child? .corrupt
  match outcome with
  | .denied => return outcome
  | .allowed participant policy operation _ => do
    let message ← ofExcept (← read (loadMessage · operation.inputMessageId))
    let current ← ofExcept (← read (loadOperation · operation.operationId))
    let child ← ofExcept (← read (loadParticipant · participant.participantId))
    ensure (child = some participant) .corrupt
    ensure ((← read (·.policies.find? participant.participantId)) = some policy) .corrupt
    ensure (∃ o ∈ current, o.sessionId = operation.sessionId ∧
      o.operationId = operation.operationId ∧ o.participantId = operation.participantId ∧
      o.startRequestId = operation.startRequestId ∧
      o.inputMessageId = operation.inputMessageId ∧ o.inputDigest = operation.inputDigest ∧
      o.createdAt = operation.createdAt) .corrupt
    ensure (∃ m ∈ message, m.sessionId = participant.sessionId ∧
      m.source = participant.participantId ∧ m.destination = participant.participantId ∧
      m.correlation.operationId = some operation.operationId ∧
      m.envelope = ⟨.operationInput operation.operationId operation.inputDigest⟩) .corrupt
    return outcome

/-- `create_authorized_child`. -/
def createAuthorizedChild (env : Env) (observedAt : Timestamp) (c : CreateAuthorizedChild) :
    Call (Mutation AuthorizedChildOutcome) :=
  replayOr env c replayChild do
    authorize c.sessionId c.context c.epoch .createAuthorizedChild observedAt
    let now ← loadTimeFloor c.sessionId
    let parent ← ofExcept (← read (loadParticipant · c.parentParticipantId))
    require ((← read (·.cancellationRequested c.parentParticipantId)) = false)
      (c.sessionId, .invalid)
    let grant ← read (·.namedGrant c.grantId)
    match ← ofExcept (← read (c.authorized env now parent)) with
    | some child => return .applied (← commit (commitAuthorizedChild env c child grant now))
    | none => return .applied (← commit (commitChildDenied env c now))

end Navigator
