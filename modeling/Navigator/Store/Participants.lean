/-
Templates and participants.

A session has one root participant; the others are created below a participant
that is not being cancelled, to a depth of eight and with at most 64 children each.
-/
import Navigator.Store.Launches

namespace Navigator

open Txn Tx

/-! ### Templates -/

/-- `register_template`. -/
def registerTemplate (env : Env) (template : TemplateRecord) :
    Call (Mutation TemplateRecord) := do
  ensure (env.templateValid template = true) .invalid
  match ← ofExcept (← read (loadTemplate env · template.identity)) with
  | some existing =>
    ensure (existing = template) .invalid
    return .unchanged existing
  | none =>
    let templates ← orAbort ((← read Store.templates).insert? template) .unavailable
    write fun s => { s with templates }
    return .applied template

/-- `validate_template_set_before_open`. -/
def validateTemplateSet (env : Env) (s : Store) : List TemplateRecord → Except StoreError Unit
  | [] => .ok ()
  | template :: rest => do
    if env.templateValid template then
      match ← loadTemplate env s template.identity with
      | some existing =>
        if existing = template then validateTemplateSet env s rest else .error .invalid
      | none => validateTemplateSet env s rest
    else .error .invalid

/-- `validate_registered_templates`. -/
def validateRegisteredTemplates (env : Env) (s : Store) :
    List TemplateRecord → Except StoreError Unit
  | [] => .ok ()
  | template :: rest => do
    if (← loadTemplate env s template.identity) = some template then
      validateRegisteredTemplates env s rest
    else .error .corrupt

/-- `insert_missing_templates`. -/
def insertMissingTemplates (env : Env) (templates : List TemplateRecord) : Write Unit :=
  each (fun template => do
    match ← ofExcept (← read (loadTemplate env · template.identity)) with
    | some _ => pure ()
    | none =>
      let rows ← orAbort ((← read Store.templates).insert? template) .unavailable
      write fun s => { s with templates := rows }) templates

/-- The open session of a consumer. -/
def Store.openSessionOf (s : Store) (consumerKey : ConsumerKey) : Option SessionId :=
  (s.sessions.rows.find? fun r => r.publicConsumerKey = consumerKey ∧ r.closed = false).map
    SessionRecord.sessionId

/-- Whether a session has an operation that is not over: neither succeeded nor
failed nor cancelled. -/
def Store.hasInterruptedWork (s : Store) (sessionId : SessionId) : Bool :=
  s.operations.rows.any fun r => r.snapshot.sessionId = sessionId ∧
    r.snapshot.state ≠ .succeeded ∧ r.snapshot.state ≠ .failed ∧ r.snapshot.state ≠ .cancelled

/-- Whether some session of a consumer has a launch that is not stopped. -/
def Store.hasUnresolvedLaunch (s : Store) (consumerKey : ConsumerKey) : Bool :=
  s.launches.rows.any fun l => l.state ≠ .stopped ∧
    s.sessions.rows.any fun r => r.sessionId = l.sessionId ∧ r.publicConsumerKey = consumerKey

/-- The session a request in a mode other than exact is about: the consumer's open
session, or the candidate if it has none. -/
def resolveOpenMode (c : OpenSession) : Call OpenSession := do
  if c.mode = .exact then return c
  match ← read (·.openSessionOf c.consumerKey) with
  | some existingId =>
    let row ← ofExcept (← read (loadSession · existingId))
    let row ← orAbort row .corrupt
    require (c.mode ≠ .reset) (existingId, .interruptedSession existingId)
    require (row.snapshot.compatibility = c.compatibility)
      (existingId, .compatibilityConflict existingId row.snapshot.compatibility c.compatibility)
    require (c.mode = .open → (← read (·.hasInterruptedWork existingId)) = false)
      (existingId, .interruptedSession existingId)
    return { c with sessionId := existingId }
  | none =>
    ensure (c.mode = .reset → (← read (·.hasUnresolvedLaunch c.consumerKey)) = false) .invalid
    return c

/-- The session as it is after the templates are there: the existing one, if it is
the one asked for, or a new one. -/
def openResolved (env : Env) (now : Timestamp) (c : RegisterTemplatesAndOpenSession)
    (target : OpenSession) : Write (Mutation SessionSnapshot) := do
  ofExcept (← read (validateTemplateSet env · c.templates))
  match ← ofExcept (← read (loadSession · target.sessionId)) with
  | some row =>
    ensure (row.snapshot.consumerKey = target.consumerKey ∧
      row.snapshot.compatibility = target.compatibility) .invalid
    ensure ((← read (validateSessionManifest target)).isOk) .invalid
    insertMissingTemplates env c.templates
    record env target.sessionId c .unchanged (.session row.snapshot)
    return .unchanged row.snapshot
  | none =>
    insertMissingTemplates env c.templates
    insertSessionRow target now
    insertSessionManifest target
    appendEvent env target.context.requestId target.sessionId .initial .sessionCreated now
    record env target.sessionId c .applied (.session (target.created now))
    return .applied (target.created now)

/-- `register_templates_and_open_session`. -/
def registerTemplatesAndOpenSession (env : Env) (observedAt : Timestamp)
    (c : RegisterTemplatesAndOpenSession) : Call (Mutation SessionSnapshot) :=
  replayOr env c
    (fun value => do
      let snapshot ← orAbort value.session? .corrupt
      ensure (c.openSession.mode = .exact → snapshot.id = c.openSession.sessionId ∧
        snapshot.consumerKey = c.openSession.consumerKey ∧
        snapshot.compatibility = c.openSession.compatibility) .corrupt
      ofExcept (← read (validateRegisteredTemplates env · c.templates))
      return snapshot)
    do
      let target ← resolveOpenMode c.openSession
      commit (openResolved env observedAt c target)

/-! ### Participants -/

/-- `load_participant_in`. -/
def loadParticipant (s : Store) (participantId : ParticipantId) :
    Except StoreError (Option ParticipantSnapshot) :=
  match s.participants.find? participantId with
  | none => .ok none
  | some row =>
    let p := row.snapshot
    if p.depth = 0 ∨ maxParticipantDepth < p.depth ∨ (p.parentParticipantId = none ∧ p.depth ≠ 1) ∨
        (p.parentParticipantId ≠ none ∧ p.depth = 1) then
      .error .corrupt
    else .ok (some p)

variable {p : ParticipantSnapshot}

theorem loadParticipant_ok_some {s : Store} {participantId : ParticipantId}
    (h : loadParticipant s participantId = .ok (some p)) :
    ∃ row, s.participants.find? participantId = some row ∧ row.snapshot = p := by
  unfold loadParticipant at h
  split at h
  · cases h
  next row hrow =>
  simp only at h
  split at h
  · cases h
  · cases h
    exact ⟨row, hrow, rfl⟩

/-- `session_allows_template`. -/
def Store.sessionAllowsTemplate (s : Store) (sessionId : SessionId) (template : TemplateRecord) :
    Bool :=
  match s.sessions.find? sessionId with
  | none => false
  | some r =>
    if r.manifestComplete then
      (s.manifest.find? (sessionId, template.identity)).map (·.binding.compatibility) =
        some template.compatibility
    else r.compatibility = template.compatibility

/-- `INSERT INTO participants`, with the index that allows one root in a session. -/
def insertParticipant (p : ParticipantSnapshot) : Write Unit := do
  let s ← read id
  ensure (p.parentParticipantId = none → ∀ r ∈ s.participants.rows,
    r.snapshot.sessionId = p.sessionId → r.snapshot.parentParticipantId ≠ none) .unavailable
  let participants ← orAbort (s.participants.insert? ⟨p, false⟩) .unavailable
  write fun s => { s with participants }

theorem insertParticipant_done {s s' : Store} {u : Unit} (h : insertParticipant p s = .done u s') :
    ∃ participants, s.participants.insert? ⟨p, false⟩ = some participants ∧
      s' = { s with participants } := by
  simp only [insertParticipant, looks_done] at h
  obtain ⟨-, participants, hinsert, rfl⟩ := h
  exact ⟨participants, hinsert, rfl⟩

/-- A recorded participant, as long as it is still the one recorded. -/
def replayParticipant (value : StoredValue) : Write ParticipantSnapshot := do
  let snapshot ← orAbort value.participant? .corrupt
  let current ← ofExcept (← read (loadParticipant · snapshot.participantId))
  let current ← orAbort current .corrupt
  ensure (current = snapshot) .corrupt
  return current

/-- `commit_root_participant`, and the end of `create_child_participant`. -/
def commitParticipant {χ : Type} [MutableRequest χ] (env : Env) (sessionId : SessionId) (c : χ)
    (p : ParticipantSnapshot) (observedAt : Timestamp) : Write Unit := do
  insertParticipant p
  appendEventData env (MutableRequest.context c).requestId sessionId p.revision
    .participantCreated (participantEventPayload p) observedAt
  record env sessionId c .applied (.participant p)

def CreateRootParticipant.participant (c : CreateRootParticipant)
    (template : TemplateRecord) : ParticipantSnapshot where
  sessionId := c.sessionId
  participantId := c.participantId
  parentParticipantId := none
  depth := 1
  templateId := c.templateId
  templateCompatibility := template.compatibility
  revision := .initial

/-- `create_root_participant`. -/
def createRootParticipant (env : Env) (observedAt : Timestamp) (c : CreateRootParticipant) :
    Call (Mutation ParticipantSnapshot) :=
  replayOr env c replayParticipant do
    authorize c.sessionId c.context c.epoch .createRootParticipant observedAt
    let template ← ofExcept (← read (loadTemplate env · c.templateId))
    let template ← orRefuse template (c.sessionId, .invalid)
    require (template.compatibility = c.expectedCompatibility) (c.sessionId, .invalid)
    require ((← read (·.sessionAllowsTemplate c.sessionId template)) = true) (c.sessionId, .invalid)
    match ← ofExcept (← read (loadParticipant · c.participantId)) with
    | some existing =>
      require (existing.sessionId = c.sessionId ∧ existing.templateId = c.templateId)
        (c.sessionId, .invalid)
      commit (record env c.sessionId c .unchanged (.participant existing))
      return .unchanged existing
    | none =>
      require (∀ r ∈ (← read Store.participants).rows, r.snapshot.sessionId = c.sessionId →
        r.snapshot.parentParticipantId ≠ none) (c.sessionId, .invalid)
      ensureDerivedCapacity env c.sessionId .participants 1
      commit (commitParticipant env c.sessionId c (c.participant template) observedAt)
      return .applied (c.participant template)

def CreateChildParticipant.participant (c : CreateChildParticipant)
    (parent : ParticipantSnapshot) (template : TemplateRecord) : ParticipantSnapshot where
  sessionId := c.sessionId
  participantId := c.participantId
  parentParticipantId := some c.parentParticipantId
  depth := parent.depth + 1
  templateId := c.templateId
  templateCompatibility := template.compatibility
  revision := .initial

/-- How many children a participant has. -/
def Store.directChildren (s : Store) (sessionId : SessionId) (parent : ParticipantId) : ℕ :=
  s.participants.rows.countP fun r =>
    r.snapshot.sessionId = sessionId ∧ r.snapshot.parentParticipantId = some parent

/-- How many participants a session has. -/
def Store.sessionParticipants (s : Store) (sessionId : SessionId) : ℕ :=
  s.participants.rows.countP fun r => r.snapshot.sessionId = sessionId

/-- `create_child_participant`. -/
def createChildParticipant (env : Env) (observedAt : Timestamp) (c : CreateChildParticipant) :
    Call (Mutation ParticipantSnapshot) :=
  replayOr env c replayParticipant do
    authorize c.sessionId c.context c.epoch .createChildParticipant observedAt
    let parent ← ofExcept (← read (loadParticipant · c.parentParticipantId))
    let parent ← orRefuse parent (c.sessionId, .invalid)
    require ((← read (·.cancellationRequested c.parentParticipantId)) = false)
      (c.sessionId, .invalid)
    let template ← ofExcept (← read (loadTemplate env · c.templateId))
    let template ← orRefuse template (c.sessionId, .invalid)
    require (parent.sessionId = c.sessionId ∧ template.compatibility = c.expectedCompatibility ∧
      c.participantId ≠ c.parentParticipantId ∧ parent.depth < maxParticipantDepth)
      (c.sessionId, .invalid)
    require ((← read (·.sessionAllowsTemplate c.sessionId template)) = true) (c.sessionId, .invalid)
    let existing ← ofExcept (← read (loadParticipant · c.participantId))
    require (existing = none) (c.sessionId, .invalid)
    require ((← read (·.directChildren c.sessionId c.parentParticipantId)) < maxDirectChildren ∧
      (← read (·.sessionParticipants c.sessionId)) < maxSessionParticipants)
      (c.sessionId, .invalid)
    ensureDerivedCapacity env c.sessionId .participants 1
    commit (commitParticipant env c.sessionId c (c.participant parent template) observedAt)
    return .applied (c.participant parent template)

end Navigator
