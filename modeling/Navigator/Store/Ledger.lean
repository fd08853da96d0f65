/-
The request ledger.

A mutation looks its request up before it does anything else (`replayBytes`).  A
request that is not there runs; one that is there under the same caller, action
and digest gets the outcome it had; any other use of its identity is a conflict.
Whatever a mutation then returns, success or refusal, is written to the ledger in
the transaction that made it so.

* **`FailureWire.toError_ofError`** — a recorded failure reads back as it was;
* **`replayOr_done`** — a mutation that is done was replayed or ran its body;
* **`settle_cases`** — the three ways its transaction can end.
-/
import Navigator.Store.State

namespace Navigator

open Txn Tx

variable {α : Type} {s s' : Store}
variable {onReplay : StoredValue → Write α} {body : Call (Mutation α)} {v : Mutation α}

/-! ### Failures on the wire -/

namespace FailureWire

def ofError : StoreError → FailureWire
  | .sessionNotFound sessionId => sessionNotFound sessionId
  | .templateNotFound templateId => templateNotFound templateId
  | .participantNotFound participantId => participantNotFound participantId
  | .rootParticipantNotFound sessionId => rootParticipantNotFound sessionId
  | .messageNotFound messageId => messageNotFound messageId
  | .artifactNotFound artifactId => artifactNotFound artifactId
  | .launchNotFound attemptId => launchNotFound attemptId
  | .messageOversize => messageOversize
  | .mailboxQuotaExceeded => mailboxQuotaExceeded
  | .capacityExceeded reason => capacityExceeded reason
  | .operationNotFound operationId => operationNotFound operationId
  | .sessionClosed sessionId => sessionClosed sessionId
  | .alreadyClosed sessionId => alreadyClosed sessionId
  | .compatibilityConflict sessionId persisted requested =>
    compatibilityConflict sessionId persisted requested
  | .interruptedSession sessionId => interruptedSession sessionId
  | .consumerConflict sessionId persisted requested =>
    consumerConflict sessionId persisted requested
  | .requestConflict requestId => requestConflict requestId
  | .ownershipHeld ownership => ownershipHeld ownership
  | .ownershipExpired sessionId epoch => ownershipExpired sessionId epoch
  | .staleOwnership sessionId attempted current =>
    staleOwnership sessionId attempted current
  | .leaseTooLong => leaseTooLong
  | .schemaTooNew found supported => schemaTooNew found supported
  | .corrupt => corrupt
  | .busy => busy
  | .invalid => invalid
  | .projectionStale => projectionStale
  | .unavailable => unavailable

def toError : FailureWire → StoreError
  | sessionNotFound sessionId => .sessionNotFound sessionId
  | templateNotFound templateId => .templateNotFound templateId
  | participantNotFound participantId => .participantNotFound participantId
  | rootParticipantNotFound sessionId => .rootParticipantNotFound sessionId
  | operationNotFound operationId => .operationNotFound operationId
  | messageNotFound messageId => .messageNotFound messageId
  | artifactNotFound artifactId => .artifactNotFound artifactId
  | launchNotFound attemptId => .launchNotFound attemptId
  | messageOversize => .messageOversize
  | mailboxQuotaExceeded => .mailboxQuotaExceeded
  | capacityExceeded reason => .capacityExceeded reason
  | sessionClosed sessionId => .sessionClosed sessionId
  | alreadyClosed sessionId => .alreadyClosed sessionId
  | compatibilityConflict sessionId persisted requested =>
    .compatibilityConflict sessionId persisted requested
  | interruptedSession sessionId => .interruptedSession sessionId
  | consumerConflict sessionId persisted requested =>
    .consumerConflict sessionId persisted requested
  | requestConflict requestId => .requestConflict requestId
  | ownershipHeld ownership => .ownershipHeld ownership
  | ownershipExpired sessionId epoch => .ownershipExpired sessionId epoch
  | staleOwnership sessionId attempted current =>
    .staleOwnership sessionId attempted current
  | leaseTooLong => .leaseTooLong
  | schemaTooNew found supported => .schemaTooNew found supported
  | corrupt => .corrupt
  | busy => .busy
  | invalid => .invalid
  | projectionStale => .projectionStale
  | unavailable => .unavailable

/-- Every failure survives the ledger. -/
@[simp] theorem toError_ofError (e : StoreError) : (ofError e).toError = e := by
  cases e <;> rfl

end FailureWire

/-! ### Reading the ledger -/

namespace StoredValue

def session? : StoredValue → Option SessionSnapshot
  | session snapshot => some snapshot
  | _ => none

/-- The lease of `LeaseWire`, which must expire after it was issued. -/
def lease? : StoredValue → Option (OwnershipLease × Timestamp)
  | lease held issuedAt => if issuedAt < held.expiresAt then some (held, issuedAt) else none
  | _ => none

def launch? : StoredValue → Option LaunchSnapshot
  | launch snapshot => some snapshot
  | _ => none

def participant? : StoredValue → Option ParticipantSnapshot
  | participant snapshot => some snapshot
  | _ => none

def operation? : StoredValue → Option OperationSnapshot
  | operation snapshot => some snapshot
  | _ => none

/-- A message or its absence: `null` is the JSON of none. -/
def optionalMessage? : StoredValue → Option (Option MessageSnapshot)
  | message snapshot => some snapshot
  | _ => none

def policy? : StoredValue → Option AuthorityPolicySnapshot
  | policy p => some p
  | _ => none

def templatePolicy? : StoredValue → Option AuthorityTemplatePolicy
  | templatePolicy p => some p
  | _ => none

def grant? : StoredValue → Option GrantSnapshot
  | grant snapshot => some snapshot
  | _ => none

def effect? : StoredValue → Option AuthorityEffectOutcome
  | effect outcome => some outcome
  | _ => none

def child? : StoredValue → Option AuthorizedChildOutcome
  | child outcome => some outcome
  | _ => none

def hierarchy? : StoredValue → Option HierarchyEffectOutcome
  | hierarchy outcome => some outcome
  | _ => none

def cancellation? : StoredValue → Option CancelSubtreeOutcome
  | cancellation outcome => some outcome
  | _ => none

def status? : StoredValue → Option AuthorizedStatusOutcome
  | status outcome => some outcome
  | _ => none

def toolRegistration? : StoredValue → Option ToolRegistrationSnapshot
  | toolRegistration snapshot => some snapshot
  | _ => none

def artifact? : StoredValue → Option ArtifactSnapshot
  | artifact snapshot => some snapshot
  | _ => none

def toolConnection? : StoredValue → Option ToolProviderConnectionSnapshot
  | toolConnection snapshot => some snapshot
  | _ => none

end StoredValue

/-- Whether an effect, a recovery or a tool invocation has used a request identity. -/
def Store.journaled (s : Store) (requestId : RequestId) : Bool :=
  (s.journal.effects.find? requestId).isSome ∨ (s.journal.effectMutations.find? requestId).isSome ∨
    (s.recoveries.find? requestId).isSome ∨ (s.journal.toolMutations.find? requestId).isSome

/-- Whether some other table than the ledger has used a request identity. -/
def Store.requestJournaled (s : Store) (requestId : RequestId) : Bool :=
  s.journaled requestId ∨ (s.approvalMutations.find? requestId).isSome ∨
    (s.approvalEffects.find? requestId).isSome

/-- The tables keyed by request identities. -/
inductive RequestTable where
  | requestLedger | effectJournal | effectJournalMutations | recoveryClassifications
  | toolInvocationMutations | approvalMutations | approvalEffectIntents
deriving DecidableEq

/-- Whether a request identity is in a table. -/
def Store.records (s : Store) (q : RequestId) : RequestTable → Bool
  | .requestLedger => (s.ledger.find? q).isSome
  | .effectJournal => (s.journal.effects.find? q).isSome
  | .effectJournalMutations => (s.journal.effectMutations.find? q).isSome
  | .recoveryClassifications => (s.recoveries.find? q).isSome
  | .toolInvocationMutations => (s.journal.toolMutations.find? q).isSome
  | .approvalMutations => (s.approvalMutations.find? q).isSome
  | .approvalEffectIntents => (s.approvalEffects.find? q).isSome

/-- What identifies a request in the ledger. -/
structure RequestIdentity where
  requestId : RequestId
  caller : HostId
  action : StoreAction
  digest : Digest
deriving DecidableEq

def LedgerRow.identity (row : LedgerRow) : RequestIdentity :=
  ⟨row.requestId, row.caller, row.action, row.digest⟩

section Requests

variable {χ : Type} [MutableRequest χ] (env : Env)
variable {c : χ} {row : LedgerRow}

/-- The identity of a command. -/
def MutableRequest.identity (c : χ) : RequestIdentity :=
  ⟨(context c).requestId, (context c).caller, action c, digest env c⟩

/-- The recorded result of a request: none if it is new, a failure if it failed or
if its identity was used for something else. -/
def Store.replayOf (s : Store) (i : RequestIdentity) : Except StoreError (Option StoredValue) :=
  match s.ledger.find? i.requestId with
  | none =>
    if s.requestJournaled i.requestId then .error (.requestConflict i.requestId) else .ok none
  | some row =>
    if row.caller = i.caller ∧ row.action = i.action ∧ row.digest = i.digest then
      match row.outcome with
      | .failed error => .error error.toError
      | .succeeded _ result => .ok (some result)
    else .error (.requestConflict i.requestId)

/-- A request is new if it is neither in the ledger nor in the journal. -/
theorem Store.replayOf_eq_none {i : RequestIdentity} : s.replayOf i = .ok none ↔
    s.ledger.find? i.requestId = none ∧ s.requestJournaled i.requestId = false := by
  unfold replayOf
  cases s.ledger.find? i.requestId with
  | none => cases s.requestJournaled i.requestId <;> simp
  | some row =>
    dsimp only
    by_cases hmatches : row.caller = i.caller ∧ row.action = i.action ∧ row.digest = i.digest
    · rw [if_pos hmatches]
      cases row.outcome <;> simp
    · simp [if_neg hmatches]

/-- The recorded result of a command. -/
def replayLookup (c : χ) (s : Store) : Except StoreError (Option StoredValue) :=
  s.replayOf (MutableRequest.identity env c)

/-- `replay_bytes`. -/
def replayBytes {ρ : Type} (c : χ) : Tx Store ρ StoreError (Option StoredValue) := do
  ofExcept (← read (replayLookup env c))

/-- A mutation: the recorded outcome if there is one, else the body. -/
def replayOr {α : Type} (c : χ) (onReplay : StoredValue → Write α)
    (body : Call (Mutation α)) : Call (Mutation α) := do
  match ← replayBytes env c with
  | some value => return .replayed (← commit (onReplay value))
  | none => body

/-- A request that is new runs the body. -/
theorem replayOr_of_none (hnew : replayLookup env c s = .ok none) (h : body s = .done v s') :
    replayOr env c onReplay body s = .done v s' := by
  simp only [replayOr, replayBytes, bind_assoc, looks_done]
  exact ⟨none, hnew, h⟩

theorem replayOr_done (h : replayOr env c onReplay body s = .done v s') :
    (∃ value a, replayLookup env c s = .ok (some value) ∧
      onReplay value s = .done a s' ∧ v = .replayed a) ∨
    replayLookup env c s = .ok none ∧ body s = .done v s' := by
  simp only [replayOr, replayBytes, bind_assoc, looks_done] at h
  obtain ⟨value, hvalue, h⟩ := h
  obtain _ | value := value
  · exact .inr ⟨hvalue, h⟩
  simp only [looks_done] at h
  obtain ⟨a, s1, ha, rfl, rfl⟩ := h
  exact .inl ⟨value, a, hvalue, ha, rfl⟩

/-- What becomes of a mutation that is looked up. -/
theorem replayOr_eq (c : χ) (onReplay : StoredValue → Write α) (body : Call (Mutation α))
    (s : Store) :
    replayOr env c onReplay body s =
      match replayLookup env c s with
      | .error e => .aborted e
      | .ok none => body s
      | .ok (some value) => (Mutation.replayed <$> commit (onReplay value)) s := by
  simp only [replayOr, replayBytes, bind_assoc, map_eq_pure_bind]
  change (ofExcept (replayLookup env c s) >>= _) s = _
  cases replayLookup env c s with
  | error e => rfl
  | ok found => cases found <;> rfl

/-- A mutation all of whose failures are rolled back: the recorded outcome if there is one,
else the body. -/
def replayOrWrite {α : Type} (c : χ) (onReplay : StoredValue → Write α)
    (body : Write (Mutation α)) : Write (Mutation α) := do
  match ← replayBytes env c with
  | some value => return .replayed (← onReplay value)
  | none => body

theorem replayOrWrite_done {body : Write (Mutation α)}
    (h : replayOrWrite env c onReplay body s = .done v s') :
    (∃ value a, replayLookup env c s = .ok (some value) ∧
      onReplay value s = .done a s' ∧ v = .replayed a) ∨
    replayLookup env c s = .ok none ∧ body s = .done v s' := by
  simp only [replayOrWrite, replayBytes, bind_assoc, looks_done] at h
  obtain ⟨value, hvalue, h⟩ := h
  obtain _ | value := value
  · exact .inr ⟨hvalue, h⟩
  obtain ⟨a, s1, ha, h⟩ := bind_done.mp h
  cases h
  exact .inl ⟨value, a, hvalue, ha, rfl⟩

/-- A mutation that takes effect ran its body. -/
theorem replayOr_applied {a : α} (h : replayOr env c onReplay body s = .done (.applied a) s') :
    body s = .done (.applied a) s' := by
  obtain ⟨_, _, _, _, ⟨⟩⟩ | ⟨-, h⟩ := replayOr_done env h
  exact h

/-! ### Writing the ledger -/

/-- `INSERT INTO request_ledger`: the request identity is the key. -/
def insertLedger (row : LedgerRow) : Write Unit := do
  let ledger ← orAbort ((← read Store.ledger).insert? row) .unavailable
  write fun s => { s with ledger }

omit [MutableRequest χ] in
theorem insertLedger_done {u : Unit} (h : insertLedger row s = .done u s') :
    ∃ ledger, s.ledger.insert? row = some ledger ∧ s' = { s with ledger } := by
  simp only [insertLedger, looks_done] at h
  obtain ⟨ledger, hledger, -, rfl⟩ := h
  exact ⟨ledger, hledger, rfl⟩

omit [MutableRequest χ] in
theorem insertLedger_of_fresh (h : s.ledger.find? row.requestId = none) :
    ∃ s', insertLedger row s = .done () s' := by
  obtain ⟨ledger, hledger⟩ := Table.exists_insert (r := row) h
  simp only [insertLedger, looks_done]
  exact ⟨_, ledger, hledger, rfl⟩

/-- `record_bytes` and its siblings. -/
def record (sessionId : SessionId) (c : χ) (effect : StoredEffect) (result : StoredValue) :
    Write Unit :=
  insertLedger
    { requestId := (MutableRequest.context c).requestId
      sessionId
      caller := (MutableRequest.context c).caller
      action := MutableRequest.action c
      digest := MutableRequest.digest env c
      outcome := .succeeded effect result }

theorem record_journal {sessionId : SessionId} {effect : StoredEffect} {result : StoredValue}
    {u : Unit} (h : record env sessionId c effect result s = .done u s') :
    s'.journal = s.journal := by
  obtain ⟨ledger, -, rfl⟩ := insertLedger_done h
  rfl

def recordFailure (sessionId : SessionId) (c : χ) (error : StoreError) : Write Unit :=
  insertLedger
    { requestId := (MutableRequest.context c).requestId
      sessionId
      caller := (MutableRequest.context c).caller
      action := MutableRequest.action c
      digest := MutableRequest.digest env c
      outcome := .failed (.ofError error) }

/-- Run a mutation's transaction: commit it, roll it back, or (`finish_failure`)
record the refusal and commit that. -/
def settle {α : Type} (c : χ) (body : Call α) (s : Store) : Except StoreError α × Store :=
  match body s with
  | .done value s' => (.ok value, s')
  | .aborted error => (.error error, s)
  | .refused (sessionId, error) s' =>
    match recordFailure env sessionId c error s' with
    | .done _ s'' => (.error error, s'')
    | .aborted error' => (.error error', s)

theorem settle_cases (c : χ) (body : Call α) (s : Store) :
    (∃ v s', body s = .done v s' ∧ settle env c body s = (.ok v, s')) ∨
    (∃ sessionId e s1 s' u, body s = .refused (sessionId, e) s1 ∧
      recordFailure env sessionId c e s1 = .done u s' ∧ settle env c body s = (.error e, s')) ∨
    ∃ e, settle env c body s = (.error e, s) := by
  unfold settle
  cases hbody : body s with
  | done v s' => exact .inl ⟨v, s', rfl, rfl⟩
  | aborted e => exact .inr (.inr ⟨e, rfl⟩)
  | refused reason s1 =>
    obtain ⟨sessionId, e⟩ := reason
    cases hrecord : recordFailure env sessionId c e s1 with
    | done u s' =>
      exact .inr (.inl ⟨sessionId, e, s1, s', u, rfl, hrecord, by simp only [hrecord]⟩)
    | aborted e' => exact .inr (.inr ⟨e', by simp only [hrecord]⟩)
    | refused r => exact r.elim

end Requests

end Navigator
