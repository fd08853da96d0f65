/-
Authorized resolutions.

What becomes of an uncertain effect is decided by a participant with a grant for it, as far
as the effect's contract allows.  An effect that is a tool invocation's is resolved together
with the invocation.  A resolution asked for again must still be in force.
-/
import Navigator.Store.Invocations

namespace Navigator

open Txn Tx

variable {env : Env} {c : ResolveAuthorizedEffect} {s s' : Store}

namespace ResolveAuthorizedEffect

/-- What a resolution needs to be authorized for. -/
def requested (c : ResolveAuthorizedEffect) : ScopedCapability :=
  ⟨⟨"effect.resolve_uncertainty"⟩, .operation c.decision.operationId⟩

/-- Whether a resolution is about an effect and its operation, both uncertain. -/
def Concerns (c : ResolveAuthorizedEffect) (e : EffectJournalEntry) (o : OperationSnapshot) :
    Prop :=
  e.phase = .uncertain ∧ e.revision = c.expectedEffectRevision ∧ e.sessionId = c.sessionId ∧
    e.participantId = c.participantId ∧ e.operationId = o.operationId ∧
    o.sessionId = c.sessionId ∧ o.participantId = c.participantId ∧ o.state = .uncertain

instance (c : ResolveAuthorizedEffect) (e : EffectJournalEntry) (o : OperationSnapshot) :
    Decidable (c.Concerns e o) :=
  inferInstanceAs (Decidable (_ ∧ _))

/-- What a resolution makes of an effect. -/
def resolved (c : ResolveAuthorizedEffect) (e : EffectJournalEntry) (now : Timestamp) :
    Except StoreError EffectJournalEntry :=
  match c.decision.resolution with
  | .confirmCompleted _ =>
    .ok { e with phase := .completed, terminal := some (.completed ⟨[], Nat.zero_le _⟩) }
  | .doNotRetry =>
    .ok { e with phase := .failed, terminal := some (.failed ⟨"effect.do_not_retry", by decide⟩) }
  | .retryWithEffectProof _ => do
    let leaseExpiresAt ← effectExpiry now ⟨10000000000⟩
    return { e with
      phase := .retryAuthorized
      terminal := none
      ownerHost := c.context.caller
      ownerEpoch := c.ownerEpoch
      leaseExpiresAt }

/-- The end of the invocation the effect is.  There is no retry: the operation it was made
for is over. -/
def toolEnd (env : Env) (c : ResolveAuthorizedEffect) (definition : ToolDefinition) :
    Option (ToolInvocationPhase × ToolTerminal) :=
  match c.decision.resolution, c.toolTerminal with
  | .confirmCompleted _, some (.completed result) =>
    if env.toolOutputValid definition result.output then
      some (.completed, .completed result)
    else none
  | .doNotRetry, some (.failed failure) => some (.failed, .failed failure)
  | _, _ => none

/-- The event of a resolution. -/
def audit (env : Env) (c : ResolveAuthorizedEffect) (e : EffectJournalEntry) : EventData :=
  .effectResolution c.effectRequestId e.semanticDigest c.decision.operationId c.participantId
    c.decision.resolution.asStr
    (env.semanticDigest "effect.resolution.reason.v1" (Bytes.utf8 c.decision.reason.asStr))
    (c.decision.resolution.proof?.map EffectProof.kind)
    (c.decision.resolution.proof?.map EffectProof.digest)
    (c.assertionDigest env e.semanticDigest)

end ResolveAuthorizedEffect

/-- The invocation of which an effect is. -/
def Store.invocationOf (s : Store) (effectRequestId : RequestId) : Option ToolInvocationRow :=
  s.journal.toolInvocations.rows.find? fun r => r.effectRequestId = effectRequestId

/-- The journal with an invocation's terminal and its digest set. -/
def Journal.withTerminal (j : Journal) (id : ToolInvocationId) (t : ToolInvocationSnapshot)
    (digest : Digest) : Journal :=
  { j with
    toolInvocations := j.toolInvocations.modify id
      (fun r => { r with snapshot := t, terminalDigest := some digest }) (fun _ => rfl) }

/-- The invocation of the effect, if it is one's, is ended as the resolution says. -/
def resolveTool (env : Env) (c : ResolveAuthorizedEffect) (revision : Revision) :
    Write Unit := do
  match ← read (·.invocationOf c.effectRequestId) with
  | none => ensure (c.toolTerminal = none) .invalid
  | some row =>
    let current := row.snapshot
    ensure (current.phase = .uncertain ∧ current.invocation.invocationId = row.invocationId)
      .corrupt
    let (phase, terminal) ← orAbort (c.toolEnd env current.definition) .invalid
    let digest := terminal.digest env
    let updated ← orAbort (current.moved phase (some terminal) revision
      { current.dispatch with terminalDigest := some digest }) .corrupt
    write fun s => { s with
      journal := s.journal.withTerminal row.invocationId updated digest }

/-- An invocation that a resolution ends: the row of its effect, and what it becomes. -/
structure ResolveAuthorizedEffect.EndsTool (env : Env) (c : ResolveAuthorizedEffect) (s : Store)
    (revision : Revision) (row : ToolInvocationRow) (terminal : ToolTerminal)
    (t : ToolInvocationSnapshot) : Prop where
  found : s.invocationOf c.effectRequestId = some row
  uncertain : row.snapshot.phase = .uncertain
  same : row.snapshot.invocation.invocationId = row.invocationId
  ended : ∃ phase, c.toolEnd env row.snapshot.definition = some (phase, terminal) ∧
    row.snapshot.moved phase (some terminal) revision
      { row.snapshot.dispatch with terminalDigest := some (terminal.digest env) } = some t

theorem resolveTool_done {revision : Revision} {u : Unit}
    (h : resolveTool env c revision s = .done u s') :
    s.invocationOf c.effectRequestId = none ∧ c.toolTerminal = none ∧ s' = s ∨
    ∃ row terminal t, c.EndsTool env s revision row terminal t ∧
      s' = { s with
        journal := s.journal.withTerminal row.invocationId t (terminal.digest env) } := by
  simp only [resolveTool, looks_done] at h
  rcases hrow : s.invocationOf c.effectRequestId with _ | row
  · simp only [hrow, ensure_done] at h
    exact .inl ⟨rfl, h.1, h.2.symm⟩
  simp only [hrow, looks_done] at h
  obtain ⟨⟨hphase, hsame⟩, ⟨phase, terminal⟩, hend, t, hmoved, rfl⟩ := h
  exact .inr ⟨row, terminal, t, ⟨hrow, hphase, hsame, phase, hend, hmoved⟩, rfl⟩

/-- `validate_authorized_effect_replay`. -/
def replayResolution (c : ResolveAuthorizedEffect) (recorded : AuthorizedEffectResolution) :
    Write AuthorizedEffectResolution := do
  let effect ← ofExcept (← read (loadEffect · c.effectRequestId))
  let effect ← orAbort effect .corrupt
  let entry := recorded.effectEntry
  ensure (entry.requestId = c.effectRequestId ∧ entry.sessionId = c.sessionId ∧
    entry.participantId = c.participantId ∧ entry.operationId = c.decision.operationId ∧
    entry = effect ∧ recorded.currentOperation.operationId = c.decision.operationId ∧
    recorded.currentOperation.sessionId = c.sessionId ∧
    recorded.currentOperation.participantId = c.participantId) .corrupt
  ensure (entry.phase = c.decision.resolution.phase) .corrupt
  match ← read (·.invocationOf c.effectRequestId), c.toolTerminal with
  | some row, some terminal =>
    let tool ← ofExcept (← read (loadToolInvocation · row.invocationId))
    let tool ← orAbort tool .corrupt
    ensure (tool.invocation.requestId = c.effectRequestId ∧ tool.terminal = some terminal ∧
      (c.decision.resolution.phase = .completed ∧ tool.phase = .completed ∨
        c.decision.resolution.phase = .failed ∧ tool.phase = .failed)) .corrupt
    return recorded
  | none, none => return recorded
  | _, _ => abort .corrupt

@[simp] theorem replayResolution_within {R : Store → Store → Prop} [IsTrans Store R] [Std.Refl R]
    {recorded : AuthorizedEffectResolution} :
    Within R (replayResolution c recorded) := by
  unfold replayResolution
  iterate 6 refine .bind (by simp) fun _ => ?_
  split
  · repeat refine .bind (by simp) fun _ => ?_
    simp
  · simp
  · simp

/-- What a resolution that is new does. -/
def resolveNew (env : Env) (observedAt : Timestamp) (c : ResolveAuthorizedEffect) :
    Write AuthorizedEffectResolution := do
  let (_, now) ← authorizeOwner c.sessionId c.context.caller c.ownerEpoch
    .resolveAuthorizedEffect observedAt
  let effect ← ofExcept (← read (loadEffect · c.effectRequestId))
  let effect ← orAbort effect .invalid
  let operation ← ofExcept (← read (loadOperation · c.decision.operationId))
  let operation ← orAbort operation .invalid
  ensure (c.Concerns effect operation) .invalid
  let grant ← orAbort (← read (·.grants.find? c.grantId)) .invalid
  let decision ← orAbort (← read (·.effectDecision c.sessionId c.participantId c.requested
    (some c.grantId) now)) .invalid
  ensure (effect.resolutionContract.allows c.decision.resolution = true) .invalid
  let resolved ← ofExcept (c.resolved effect now)
  let revision ← orAbort effect.revision.next .corrupt
  let entry := { resolved with revision }
  updateEffect entry
  resolveTool env c revision
  consumeGrant (some grant) now
  appendEventData env c.context.requestId c.sessionId revision .effectUncertaintyResolved
    (c.audit env entry) now
  let position ← orAbort ((← read (·.lastEvent? c.sessionId)).map EventRow.position) .corrupt
  return ⟨entry, operation, position, decision⟩

/-- The grounds on which a resolution is made. -/
structure ResolveAuthorizedEffect.Grounds (c : ResolveAuthorizedEffect) (s : Store)
    (now : Timestamp) (e : EffectJournalEntry) (g : GrantSnapshot)
    (v : AuthorizedEffectResolution) : Prop where
  found : loadEffect s c.effectRequestId = .ok (some e)
  operation : loadOperation s c.decision.operationId = .ok (some v.currentOperation)
  concerns : c.Concerns e v.currentOperation
  grant : s.grants.find? c.grantId = some g
  decided : s.effectDecision c.sessionId c.participantId c.requested (some c.grantId) now =
    some v.authorityDecision
  allowed : e.resolutionContract.allows c.decision.resolution = true
  resolved : ∃ e₁, c.resolved e now = .ok e₁ ∧
    v.effectEntry = { e₁ with revision := v.effectEntry.revision }
  next : e.revision.next = some v.effectEntry.revision

theorem ResolveAuthorizedEffect.resolved_requestId {e e₁ : EffectJournalEntry} {now : Timestamp}
    (h : c.resolved e now = .ok e₁) :
    e₁.requestId = e.requestId := by
  unfold resolved at h
  split at h
  · cases h
    rfl
  · cases h
    rfl
  · simp only [result_bind_ok, result_pure_ok] at h
    obtain ⟨_, -, rfl⟩ := h
    rfl

/-- What a resolution that is made writes, after time has passed. -/
structure ResolveAuthorizedEffect.Writes (env : Env) (c : ResolveAuthorizedEffect) (s : Store)
    (now : Timestamp) (g : GrantSnapshot) (v : AuthorizedEffectResolution) (s₂ s' : Store) :
    Prop where
  tool : resolveTool env c v.effectEntry.revision
    { s with journal := s.journal.withEffect v.effectEntry } = .done () s₂
  rest : ∃ s₃, consumeGrant (some g) now s₂ = .done () s₃ ∧
    appendEventData env c.context.requestId c.sessionId v.effectEntry.revision
      .effectUncertaintyResolved (c.audit env v.effectEntry) now s₃ = .done () s'

theorem resolveNew_done {t : Timestamp} {v : AuthorizedEffectResolution}
    (h : resolveNew env t c s = .done v s') :
    ∃ r e g s₂, s.Authorized c.sessionId c.context.caller c.ownerEpoch t r ∧
      c.Grounds s (max r.timeFloor t) e g v ∧
      c.Writes env (s.withFloor c.sessionId (max r.timeFloor t)) (max r.timeFloor t) g v s₂ s' := by
  obtain ⟨row, r, hr, -, h⟩ := authorizeOwner_bind_done h
  simp only [looks_done] at h
  obtain ⟨_, he, e, rfl, _, ho, o, rfl, hconcerns, g, hg, decision, hdecision, hallows, e₁,
    hresolved, revision, hnext, h⟩ := h
  obtain ⟨_, s₂, hupdate, h⟩ := bind_done.mp h
  obtain ⟨_, s₃, htool, h⟩ := bind_done.mp h
  obtain ⟨_, s4, hconsume, h⟩ := bind_done.mp h
  obtain ⟨_, s5, hevent, h⟩ := bind_done.mp h
  simp only [looks_done] at h
  obtain ⟨position, -, rfl, rfl⟩ := h
  obtain ⟨hfound, -⟩ := loadEffect_ok_some he
  have hid : e₁.requestId = c.effectRequestId :=
    (ResolveAuthorizedEffect.resolved_requestId hresolved).trans
      (EffectJournalEntry.requestId_of_found hfound)
  obtain ⟨-, rfl⟩ := (updateEffect_done (by rw [← hid] at hfound; exact hfound) hnext).mp hupdate
  exact ⟨r, e, g, s₃, hr, ⟨he, ho, hconcerns, hg, hdecision, hallows, ⟨e₁, hresolved, rfl⟩,
    hnext⟩, htool, s4, hconsume, hevent⟩

/-- `resolve_authorized_effect`. -/
def resolveAuthorizedEffect (env : Env) (observedAt : Timestamp) (c : ResolveAuthorizedEffect) :
    Write (Mutation AuthorizedEffectResolution) :=
  effectMutation c.context c.effectRequestId (c.digest env)
    (fun recorded => do replayResolution c (← orAbort recorded.resolution? .corrupt))
    .resolution (resolveNew env observedAt c)

/-- The journal before and after the invocation of a resolved effect is ended. -/
def ResolveAuthorizedEffect.Leaves (env : Env) (c : ResolveAuthorizedEffect) (s : Store)
    (revision : Revision) (j j' : Journal) : Prop :=
  s.invocationOf c.effectRequestId = none ∧ c.toolTerminal = none ∧ j' = j ∨
  ∃ row terminal t, c.EndsTool env s revision row terminal t ∧
    j' = j.withTerminal row.invocationId t (terminal.digest env)

end Navigator
