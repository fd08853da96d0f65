/-
Invocations, row by row.

An invocation is reserved once; afterwards its row is rebound to a new connection, moved by a
transition, or ended by a resolution.  `JournalChange.tool` says which of these a call does
to the row under an identity, and `Reachable.tools` what is true of all rows because of it:
their columns repeat the snapshot, each has an effect of its own, and the tool it invokes is
registered as it was.  So a row can be loaded exactly if it is in step with its effect
(`loadToolInvocation_eq`).
-/
import Navigator.Effects

namespace Navigator

open Txn Tx

variable {env : Env} {s s' : Store} {t : Timestamp} {c : Command}
variable {v : ToolInvocationSnapshot} {row' : ToolInvocationRow} {d : TransitionToolInvocation}
  {connection : ToolProviderConnectionSnapshot} {j : Journal} {result : Result}
variable {v' current : ToolInvocationSnapshot} {generation : ℕ} {revision : Revision}
  {r : SessionRecord} {e : EffectJournalEntry}

/-! ### Rows that go on -/

/-- A snapshot of the same invocation, dispatched as before. -/
structure ToolInvocationSnapshot.Continues (v v' : ToolInvocationSnapshot) : Prop where
  same : v.Same v'
  dispatch : v'.dispatch = { v.dispatch with
    connectionId := v'.dispatch.connectionId
    connectionGeneration := v'.dispatch.connectionGeneration
    cancellationId := v'.dispatch.cancellationId
    cancellationServerSequence := v'.dispatch.cancellationServerSequence
    terminalDigest := v'.dispatch.terminalDigest }

/-- The row of a snapshot that goes on: only the columns of the dispatch are new. -/
theorem ToolInvocationSnapshot.Continues.row (h : v.Continues v') :
    ToolInvocationRow.of v' = { ToolInvocationRow.of v with
      connectionGeneration := v'.dispatch.connectionGeneration
      cancellationId := v'.dispatch.cancellationId
      cancellationServerSequence := v'.dispatch.cancellationServerSequence
      terminalDigest := v'.dispatch.terminalDigest
      snapshot := v' } := by
  obtain ⟨hregistration, hdefinition, hinvocation⟩ := h.same
  have hdispatch := h.dispatch
  simp only [ToolInvocationRow.of, hregistration, hinvocation]
  rw [hdispatch]

variable {row : ToolInvocationRow}

/-- A row that is bound to another connection. -/
theorem ToolInvocationRow.rebound_eq {connectionId : ToolConnectionId}
    (h : row.rebound connectionId generation = some row') :
    row.snapshot.Continues row'.snapshot ∧
      row' = { row with
        snapshot := row'.snapshot
        connectionGeneration := some generation } ∧
      row'.snapshot.phase = row.snapshot.phase ∧ row'.snapshot.revision = row.snapshot.revision ∧
      row'.snapshot.dispatch = { row.snapshot.dispatch with
        connectionId := some connectionId
        connectionGeneration := some generation } := by
  obtain ⟨v, hmoved, rfl⟩ := Option.map_eq_some_iff.mp h
  obtain ⟨hsame, hphase, -, hrevision, hdispatch⟩ := ToolInvocationSnapshot.moved_eq hmoved
  refine ⟨⟨hsame, ?_⟩, rfl, hphase, hrevision, hdispatch⟩
  change v.dispatch = _
  rw [hdispatch]

/-- The dispatch after a transition. -/
theorem TransitionToolInvocation.dispatched_continues :
    d.dispatched env current connection = { current.dispatch with
      connectionGeneration := some d.connectionGeneration
      cancellationId := (d.dispatched env current connection).cancellationId
      cancellationServerSequence :=
        (d.dispatched env current connection).cancellationServerSequence
      terminalDigest := (d.dispatched env current connection).terminalDigest } := by
  unfold dispatched
  cases d.transition <;> rfl

theorem TransitionToolInvocation.Moves.continues {updated : ToolInvocationSnapshot}
    {effect : EffectJournalEntry} {step : ToolStep}
    (h : d.Moves env s current effect connection step revision updated) :
    current.Continues updated := by
  obtain ⟨hsame, -, -, -, hdispatch⟩ := ToolInvocationSnapshot.moved_eq h.moved
  refine ⟨hsame, ?_⟩
  rw [hdispatch, TransitionToolInvocation.dispatched_continues]

/-- An invocation that a resolution has ended. -/
theorem ResolveAuthorizedEffect.EndsTool.continues {d : ResolveAuthorizedEffect}
    {terminal : ToolTerminal} (h : d.EndsTool env s revision row terminal v) :
    row.snapshot.Continues v ∧ v.revision = revision ∧
      v.dispatch = { row.snapshot.dispatch with terminalDigest := some (terminal.digest env) } ∧
      d.toolEnd env row.snapshot.definition = some (v.phase, terminal) := by
  obtain ⟨phase, hend, hmoved⟩ := h.ended
  obtain ⟨hsame, hphase, -, hrevision, hdispatch⟩ := ToolInvocationSnapshot.moved_eq hmoved
  refine ⟨⟨hsame, ?_⟩, hrevision, hdispatch, by rw [hphase]; exact hend⟩
  rw [hdispatch]

/-! ### Tables -/

theorem Journal.find?_withTerminal (j : Journal) (id : ToolInvocationId)
    (v : ToolInvocationSnapshot) (digest : Digest) (k : ToolInvocationId) :
    (j.withTerminal id v digest).toolInvocations.find? k =
      if k = id then (j.toolInvocations.find? id).map fun row =>
        { row with snapshot := v, terminalDigest := some digest }
      else j.toolInvocations.find? k :=
  j.toolInvocations.find?_modify id
    (fun row => { row with snapshot := v, terminalDigest := some digest }) (fun _ => rfl) k

theorem Journal.find?_withTool (j : Journal) (id : ToolInvocationId)
    (v : ToolInvocationSnapshot) (k : ToolInvocationId) :
    (j.withTool id v).toolInvocations.find? k =
      if k = id then (j.toolInvocations.find? id).map (·.movedTo v)
      else j.toolInvocations.find? k :=
  j.toolInvocations.find?_modify id (·.movedTo v) (fun _ => rfl) k

theorem Journal.find?_rebound (j : Journal) (sessionId : SessionId)
    (providerId : ToolProviderId) (connectionId : ToolConnectionId) (generation : ℕ)
    (k : ToolInvocationId) :
    (j.rebound sessionId providerId connectionId generation).toolInvocations.find? k =
      (j.toolInvocations.find? k).map fun row =>
        if row.isPendingAt sessionId providerId then (row.rebound connectionId generation).getD row
        else row := by
  unfold rebound
  rw [Table.find?_rewrite]

theorem TransitionToolInvocation.sequenced_toolInvocations :
    (d.sequenced j connection).toolInvocations = j.toolInvocations := by
  unfold sequenced
  split <;> rfl

/-! ### What a call does to a row -/

/-- What a call makes of the invocation under an identity, and of its effect. -/
inductive ToolOutcome (env : Env) (t : Timestamp) (s : Store) (c : Command)
    (id : ToolInvocationId) (j : Journal) : Prop
  | same (h : j.toolInvocations.find? id = s.journal.toolInvocations.find? id)
  | made {d : ReserveToolInvocation} {r : SessionRecord}
      {registration : ToolRegistrationSnapshot} {connection : ToolProviderConnectionSnapshot}
      {leaseExpiresAt : Timestamp} {v : ToolInvocationSnapshot}
      (command : c = .reserveToolInvocation d)
      (reserves : d.Reserves env t s r registration connection)
      (dispatches : d.Dispatches env s (max r.timeFloor t) registration connection leaseExpiresAt
        v j.effects j.toolInvocations)
      (absent : s.journal.toolInvocations.find? id = none)
      (found : j.toolInvocations.find? id = some (.of v))
  | rebound {d : ConnectToolProvider} {r : SessionRecord} {generation next priorAck : ℕ}
      {row row' : ToolInvocationRow} (command : c = .connectToolProvider d)
      (connects : d.Connects t s r generation next priorAck)
      (effects : j.effects = s.journal.effects)
      (before : s.journal.toolInvocations.find? id = some row)
      (pending : row.isPendingAt d.sessionId d.providerId = true)
      (bound : row.rebound d.connectionId generation = some row')
      (after : j.toolInvocations.find? id = some row')
  | moved {d : TransitionToolInvocation} {r : SessionRecord} {row : ToolInvocationRow}
      {updated : ToolInvocationSnapshot} {effect : EffectJournalEntry}
      {connection : ToolProviderConnectionSnapshot} {step : ToolStep} {revision : Revision}
      (command : c = .transitionToolInvocation d) (named : d.invocationId = id)
      (admitted : d.Admits t s r row.snapshot effect connection)
      (moves : d.Moves env s row.snapshot effect connection step revision updated)
      (effects : j.effects = (s.journal.withEffect
        (effect.movedTo step.effectPhase step.effectTerminal updated.revision)).effects)
      (before : s.journal.toolInvocations.find? id = some row)
      (after : j.toolInvocations.find? id = some (row.movedTo updated))
  | ended {d : ResolveAuthorizedEffect} {r : SessionRecord} {e : EffectJournalEntry}
      {g : GrantSnapshot} {a : AuthorizedEffectResolution} {row : ToolInvocationRow}
      {terminal : ToolTerminal} {v : ToolInvocationSnapshot}
      (command : c = .resolveAuthorizedEffect d)
      (grounds : d.Grounds s (max r.timeFloor t) e g a)
      (ends : d.EndsTool env s a.effectEntry.revision row terminal v)
      (effects : j.effects = (s.journal.withEffect a.effectEntry).effects)
      (before : s.journal.toolInvocations.find? id = some row)
      (after : j.toolInvocations.find? id =
        some { row with snapshot := v, terminalDigest := some (terminal.digest env) })

/-- The row that a resolution ends is in the table. -/
theorem Store.invocationOf_eq_some {q : RequestId} (h : s.invocationOf q = some row) :
    s.journal.toolInvocations.find? row.invocationId = some row ∧ row.effectRequestId = q := by
  have hmem : row ∈ s.journal.toolInvocations := List.mem_of_find?_eq_some h
  have hq := List.find?_some h
  exact ⟨Table.find?_of_mem hmem, by simpa using hq⟩

/-- A connection binds the pending invocations of its provider. -/
theorem ToolOutcome.of_rebound {d : ConnectToolProvider} {next priorAck : ℕ}
    {id : ToolInvocationId} (h : d.Connects t s r generation next priorAck)
    (heffects : j.effects = s.journal.effects)
    (hfind : j.toolInvocations.find? id = (s.journal.toolInvocations.find? id).map fun row =>
      if row.isPendingAt d.sessionId d.providerId then
        (row.rebound d.connectionId generation).getD row
      else row) : ToolOutcome env t s (.connectToolProvider d) id j := by
  rcases hrow : s.journal.toolInvocations.find? id with _ | row
  · rw [hrow] at hfind
    exact .same (hfind.trans hrow.symm)
  rw [hrow, Option.map_some] at hfind
  by_cases hpending : row.isPendingAt d.sessionId d.providerId = true
  · obtain ⟨row', hbound⟩ := Option.isSome_iff_exists.mp
      (h.pending row (Table.mem_of_find? hrow) hpending)
    rw [if_pos hpending, hbound, Option.getD_some] at hfind
    exact .rebound rfl h heffects hrow hpending hbound hfind
  · rw [if_neg hpending] at hfind
    exact .same (hfind.trans hrow.symm)

/-- **How a call changes an invocation.** -/
theorem JournalChange.tool (h : JournalChange env t s c result j) (id : ToolInvocationId) :
    ToolOutcome env t s c id j := by
  cases h with
  | @effectResolved d r e g a j effectMutations free owner grounds leaves =>
    obtain ⟨-, -, rfl⟩ | ⟨row, terminal, v, ends, rfl⟩ := leaves
    · exact .same rfl
    obtain ⟨hfound, -⟩ := Store.invocationOf_eq_some ends.found
    have hfind := (s.journal.withEffect a.effectEntry).find?_withTerminal row.invocationId v
      (terminal.digest env) id
    by_cases hid : id = row.invocationId
    · subst hid
      refine .ended rfl grounds ends rfl hfound (hfind.trans ?_)
      rw [if_pos rfl]
      exact congrArg (Option.map _) hfound
    · exact .same (hfind.trans (if_neg hid))
  | @toolConnected d r generation next priorAck made =>
    exact ToolOutcome.of_rebound made rfl (Journal.find?_rebound _ d.sessionId d.providerId
      d.connectionId generation id)
  | @toolReserved d r registration connection leaseExpiresAt v effects tools made dispatched =>
    have hfind := Table.find?_insert dispatched.invoked id
    by_cases hid : v.invocation.invocationId = id
    · subst hid
      exact .made rfl made dispatched (Table.insert?_fresh dispatched.invoked)
        (hfind.trans (if_pos rfl))
    · exact .same (hfind.trans (if_neg hid))
  | @toolMoved d r current updated e connection step revision toolMutations admitted moves =>
    obtain ⟨hrow, -⟩ := loadToolInvocation_ok_some admitted.loaded
    have hfind := Journal.find?_withTool ((d.sequenced s.journal connection).withEffect
      (e.movedTo step.effectPhase step.effectTerminal updated.revision)) d.invocationId updated id
    by_cases hid : id = d.invocationId
    · subst hid
      have heffects : ((d.sequenced s.journal connection).withEffect (e.movedTo step.effectPhase
          step.effectTerminal updated.revision)).effects = (s.journal.withEffect
          (e.movedTo step.effectPhase step.effectTerminal updated.revision)).effects := by
        simp only [Journal.withEffect, TransitionToolInvocation.sequenced_effects]
      refine .moved rfl rfl admitted moves heffects hrow (hfind.trans ?_)
      rw [if_pos rfl]
      change ((d.sequenced s.journal connection).toolInvocations.find? _).map _ = _
      rw [TransitionToolInvocation.sequenced_toolInvocations, hrow]
      rfl
    · refine .same (hfind.trans ((if_neg hid).trans ?_))
      change (d.sequenced s.journal connection).toolInvocations.find? id = _
      rw [TransitionToolInvocation.sequenced_toolInvocations]
  | _ => exact .same rfl

/-! ### What is true of every row -/

/-- A row that goes on as another one: the columns still agree with the snapshot. -/
structure ToolInvocationRow.Continues (row row' : ToolInvocationRow) : Prop where
  snapshot : row.snapshot.Continues row'.snapshot
  columns : row = .of row.snapshot → row' = .of row'.snapshot

theorem ToolInvocationRow.Continues.refl (row : ToolInvocationRow) : row.Continues row :=
  ⟨⟨⟨rfl, rfl, rfl⟩, rfl⟩, id⟩

/-- A row as it was made, or one that goes on from before. -/
theorem ToolOutcome.continues {id : ToolInvocationId} (h : ToolOutcome env t s c id j)
    (hrow' : j.toolInvocations.find? id = some row') :
    (∃ row, s.journal.toolInvocations.find? id = some row ∧ row.Continues row') ∨
    ∃ d r registration connection leaseExpiresAt v,
      c = .reserveToolInvocation d ∧ d.Reserves env t s r registration connection ∧
      d.Dispatches env s (max r.timeFloor t) registration connection leaseExpiresAt v j.effects
        j.toolInvocations ∧ row' = .of v := by
  cases h with
  | same h => exact .inl ⟨row', h.symm.trans hrow', .refl row'⟩
  | made command reserves dispatches absent found =>
    cases hrow'.symm.trans found
    exact .inr ⟨_, _, _, _, _, _, command, reserves, dispatches, rfl⟩
  | @rebound d r generation next priorAck row row1 command connects _ before pending bound after =>
    cases hrow'.symm.trans after
    obtain ⟨hcontinues, hrow, -, -, hdispatch⟩ := ToolInvocationRow.rebound_eq bound
    refine .inl ⟨row, before, hcontinues, fun hcolumns => ?_⟩
    obtain ⟨v0, rfl⟩ : ∃ v0, row = .of v0 := ⟨_, hcolumns⟩
    rw [hcontinues.row, hdispatch, hrow]
    rfl
  | @moved d r row updated effect connection step revision command named admitted moves _ before
      after =>
    cases hrow'.symm.trans after
    refine .inl ⟨row, before, moves.continues, fun hcolumns => ?_⟩
    change _ = ToolInvocationRow.of updated
    rw [moves.continues.row, ← hcolumns]
    rfl
  | @ended d r e g a row terminal v command grounds ends _ before after =>
    cases hrow'.symm.trans after
    obtain ⟨hcontinues, -, hdispatch, -⟩ := ends.continues
    refine .inl ⟨row, before, hcontinues, fun hcolumns => ?_⟩
    obtain ⟨v0, rfl⟩ : ∃ v0, row = .of v0 := ⟨_, hcolumns⟩
    change _ = ToolInvocationRow.of v
    rw [hcontinues.row, hdispatch]
    rfl

/-- Registrations are only added. -/
theorem JournalChange.registrations (h : JournalChange env t s c result j) :
    s.journal.toolRegistrations.Grows j.toolRegistrations := by
  cases h with
  | effectResolved _ _ _ leaves =>
    obtain ⟨-, -, rfl⟩ | ⟨_, _, _, -, rfl⟩ := leaves
    all_goals exact .refl _
  | toolRegistered made => exact .insert made.inserted
  | toolMoved =>
    unfold TransitionToolInvocation.journal TransitionToolInvocation.sequenced
    split
    all_goals exact .refl _
  | _ => exact .refl _

/-- A row whose columns repeat its snapshot, of a tool that is registered as it was, with an
effect that is its own. -/
structure ToolInvocationRow.Fits (s : Store) (row : ToolInvocationRow) : Prop where
  columns : row = .of row.snapshot
  registered : ∃ v, s.journal.toolRegistrations.find? (row.sessionId, row.toolName,
    row.toolVersion) = some v ∧ v.registrationId = row.registrationId ∧
      v.definition = row.snapshot.definition
  effect : ∃ e, s.journal.effects.find? row.effectRequestId = some e ∧
    row.snapshot.isEffect e = true

/-- The rows of the tables of tools. -/
structure Store.ToolsFit (s : Store) : Prop where
  rows : ∀ {id row}, s.journal.toolInvocations.find? id = some row → row.Fits s
  alone : ∀ {id id' row row'}, s.journal.toolInvocations.find? id = some row →
    s.journal.toolInvocations.find? id' = some row' →
    row.effectRequestId = row'.effectRequestId → id = id'
  consumers : ∀ {k v}, s.journal.toolRegistrations.find? k = some v →
    ∃ r, s.sessions.find? v.sessionId = some r ∧ v.consumerKey = r.publicConsumerKey

/-- A row that goes on keeps its identities. -/
theorem ToolInvocationRow.Continues.identity (h : row.Continues row')
    (hcolumns : row = .of row.snapshot) :
    row'.effectRequestId = row.effectRequestId ∧ row'.registrationId = row.registrationId ∧
      row'.sessionId = row.sessionId ∧ row'.toolName = row.toolName ∧
      row'.toolVersion = row.toolVersion := by
  rw [h.columns hcolumns, h.snapshot.row, ← hcolumns]
  exact ⟨rfl, rfl, rfl, rfl, rfl⟩

/-- What identifies an effect is enough to say whose it is. -/
theorem ToolInvocationSnapshot.isEffect_mono {e' : EffectJournalEntry} (hsame : v.Same v')
    (he : e' = e.updatedBy e') (h : v.isEffect e = true) : v'.isEffect e' = true := by
  unfold ToolInvocationSnapshot.isEffect at h ⊢
  rw [hsame.invocation, hsame.definition, he]
  exact h

theorem ToolInvocationRow.Fits.step (h : row.Fits s) (hcontinues : row.Continues row')
    (hchange : JournalChange env t s c result s'.journal) : row'.Fits s' := by
  obtain ⟨hq, hregistration, hsession, hname, hversion⟩ := hcontinues.identity h.columns
  obtain ⟨v, hv, hid, hdefinition⟩ := h.registered
  obtain ⟨e, he, hsame⟩ := h.effect
  refine ⟨hcontinues.columns h.columns, ⟨v, ?_, hid.trans hregistration.symm,
    hdefinition.trans hcontinues.snapshot.same.definition.symm⟩, ?_⟩
  · rw [hsession, hname, hversion]
    exact hchange.registrations _ _ hv
  rw [hq]
  obtain heq | absent | ⟨before, after, change⟩ := hchange.effect row.effectRequestId
  · exact ⟨e, heq.trans he, ToolInvocationSnapshot.isEffect_mono hcontinues.snapshot.same rfl
      hsame⟩
  · cases absent.symm.trans he
  cases before.symm.trans he
  exact ⟨_, after, ToolInvocationSnapshot.isEffect_mono hcontinues.snapshot.same
    change.columns hsame⟩

/-- An invocation that is reserved fits. -/
theorem ReserveToolInvocation.Dispatches.fits {d : ReserveToolInvocation}
    {registration : ToolRegistrationSnapshot} {now lease : Timestamp}
    (hreserves : d.Reserves env t s r registration connection)
    (h : d.Dispatches env s now registration connection lease v s'.journal.effects
      s'.journal.toolInvocations) (hchange : JournalChange env t s c result s'.journal) :
    (ToolInvocationRow.of v).Fits s' := by
  obtain ⟨hregistration, hdefinition, hinvocation, -, -, -, -⟩ :=
    ToolInvocationSnapshot.new_eq h.made
  refine ⟨rfl, ⟨registration, ?_, ?_, hdefinition.symm⟩,
    ⟨d.effect env registration.definition lease, ?_, ?_⟩⟩
  · have hfound := hchange.registrations _ _ hreserves.registered
    rwa [← hinvocation] at hfound
  · exact hreserves.same.trans hregistration.symm
  · have hq : v.invocation.requestId = d.context.requestId := by
      rw [hinvocation, hreserves.named]
    refine (Table.find?_insert h.inserted _).trans (if_pos ?_)
    exact hq.symm
  · simp [ToolInvocationRow.of, ToolInvocationSnapshot.isEffect, hinvocation, hdefinition,
      ReserveToolInvocation.effect]

/-- A registration is for the consumer of its session. -/
theorem JournalChange.consumers (h : JournalChange env t s c result s'.journal) (hfits : s.ToolsFit)
    (hfollows : Follows s s') {k : SessionId × ToolName × ToolVersion}
    {v : ToolRegistrationSnapshot} (hv : s'.journal.toolRegistrations.find? k = some v) :
    ∃ r, s'.sessions.find? v.sessionId = some r ∧ v.consumerKey = r.publicConsumerKey := by
  have hold : (∃ r, s.sessions.find? v.sessionId = some r ∧ v.consumerKey = r.publicConsumerKey) →
      ∃ r, s'.sessions.find? v.sessionId = some r ∧ v.consumerKey = r.publicConsumerKey := by
    rintro ⟨r, hr, hconsumer⟩
    obtain ⟨r', hr', hprecedes⟩ := hfollows.sessions _ r hr
    exact ⟨r', hr', hconsumer.trans hprecedes.consumer.symm⟩
  generalize s'.journal = j at h hv
  refine hold ?_
  cases h with
  | @toolRegistered d r rows made =>
    have hfind := Table.find?_insert made.inserted k
    split at hfind
    · cases hv.symm.trans hfind
      exact ⟨r, made.owner.found, made.consumer.symm⟩
    · exact hfits.consumers (hfind.symm.trans hv)
  | effectResolved _ _ _ leaves =>
    obtain ⟨-, -, rfl⟩ | ⟨_, _, _, -, rfl⟩ := leaves
    all_goals exact hfits.consumers hv
  | @toolMoved d =>
    unfold TransitionToolInvocation.journal TransitionToolInvocation.sequenced at hv
    split at hv
    all_goals exact hfits.consumers hv
  | _ => exact hfits.consumers hv

/-- What a call keeps of the tables of tools. -/
theorem Store.ToolsFit.step (h : s.ToolsFit) (hchange : JournalChange env t s c result s'.journal)
    (hfollows : Follows s s') :
    s'.ToolsFit := by
  refine ⟨fun {id row'} hrow' => ?_, fun {id1 id2 row1 row2} h1 h2 hq => ?_,
    hchange.consumers h hfollows⟩
  · obtain ⟨row, hrow, hcontinues⟩ | ⟨d, r, registration, connection, lease, v, -, hreserves,
      hdispatches, rfl⟩ := (hchange.tool id).continues hrow'
    · exact (h.rows hrow).step hcontinues hchange
    · exact hdispatches.fits hreserves hchange
  · -- the effect of a row is an old row's, or was not in the table before
    have hnew : ∀ {id row v} {d : ReserveToolInvocation} {effects tools}
        {registration : ToolRegistrationSnapshot} {connection : ToolProviderConnectionSnapshot}
        {now lease : Timestamp},
        d.Dispatches env s now registration connection lease v effects tools →
        s.journal.toolInvocations.find? id = some row →
        row.effectRequestId ≠ (ToolInvocationRow.of v).effectRequestId := by
      intro id row v d effects tools registration connection now lease hdispatches hrow
      obtain ⟨-, -, hinvocation, -⟩ := ToolInvocationSnapshot.new_eq hdispatches.made
      have hne := (hdispatches.unique row (Table.mem_of_find? hrow)).1
      rwa [← hinvocation] at hne
    obtain ⟨old1, hold1, hcontinues1⟩ | ⟨d1, r1, registration1, connection1, lease1, v1, hc1,
      hreserves1, hdispatches1, rfl⟩ := (hchange.tool id1).continues h1 <;>
    obtain ⟨old2, hold2, hcontinues2⟩ | ⟨d2, r2, registration2, connection2, lease2, v2, hc2,
      hreserves2, hdispatches2, rfl⟩ := (hchange.tool id2).continues h2
    · rw [(hcontinues1.identity (h.rows hold1).columns).1,
        (hcontinues2.identity (h.rows hold2).columns).1] at hq
      exact h.alone hold1 hold2 hq
    · rw [(hcontinues1.identity (h.rows hold1).columns).1] at hq
      exact absurd hq (hnew hdispatches2 hold1)
    · rw [(hcontinues2.identity (h.rows hold2).columns).1] at hq
      exact absurd hq.symm (hnew hdispatches1 hold2)
    · -- one call reserves one invocation
      obtain rfl : d1 = d2 := by simpa using hc1.symm.trans hc2
      obtain ⟨-, -, hinvocation1, -⟩ := ToolInvocationSnapshot.new_eq hdispatches1.made
      obtain ⟨-, -, hinvocation2, -⟩ := ToolInvocationSnapshot.new_eq hdispatches2.made
      have hid1 : v1.invocation.invocationId = id1 := Table.key_of_find? h1
      have hid2 : v2.invocation.invocationId = id2 := Table.key_of_find? h2
      rw [← hid1, ← hid2, hinvocation1, hinvocation2]

/-- **The tables of tools fit** in every run. -/
theorem Reachable.tools (h : Reachable env s) : s.ToolsFit := by
  refine Reachable.rec' (P := Store.ToolsFit) ?_ ?_ h
  · exact ⟨nofun, nofun, nofun⟩
  intro s s' hs hfits hstep
  have hfollows : Follows s s' := Run.follows hs.sound (.single hstep)
  cases hstep with
  | call t c => exact hfits.step (exec_journal hs.sound t c) hfollows

/-! ### Loading a row -/

theorem Store.ToolsFit.loadToolRegistration (h : s.ToolsFit) (hs : Sound s)
    {sessionId : SessionId} {name : ToolName} {version : ToolVersion}
    {v : ToolRegistrationSnapshot}
    (hv : s.journal.toolRegistrations.find? (sessionId, name, version) = some v) :
    loadToolRegistration s sessionId name version = .ok (some v) := by
  have hkey : v.sessionId = sessionId := congrArg Prod.fst (Table.key_of_find? hv)
  obtain ⟨r, hr, hconsumer⟩ := h.consumers hv
  obtain ⟨row, hrow⟩ := (hs.sessions r (Table.mem_of_find? hr)).decodes
  have hload : loadSession s sessionId = .ok (some row) := by
    rw [← hkey]
    simp [loadSession, hr, hrow, Except.map]
  have hsame : v.consumerKey = row.snapshot.consumerKey :=
    hconsumer.trans (decodeSession_ok hrow).consumer.symm
  simp [Navigator.loadToolRegistration, hv, hload, need, check, hsame, Bind.bind, Except.bind,
    Pure.pure, Except.pure]

/-- An invocation that is in step with its effect. -/
def ToolInvocationSnapshot.InStep (v : ToolInvocationSnapshot) (e : EffectJournalEntry) : Prop :=
  v.phase.matches e.phase = true ∧ e.revision = v.revision

instance (v : ToolInvocationSnapshot) (e : EffectJournalEntry) : Decidable (v.InStep e) :=
  inferInstanceAs (Decidable (_ ∧ _))

/-- **A row can be loaded exactly if it is in step with its effect.** -/
theorem loadToolInvocation_eq (h : Reachable env s) {id : ToolInvocationId}
    (hrow : s.journal.toolInvocations.find? id = some row)
    (he : s.journal.effects.find? row.effectRequestId = some e) :
    loadToolInvocation s id =
      if row.snapshot.InStep e then .ok (some row.snapshot) else .error .corrupt := by
  have hfits := h.tools.rows hrow
  obtain ⟨x, rfl⟩ : ∃ x, row = .of x := ⟨_, hfits.columns⟩
  obtain ⟨v, hv, hid, hdefinition⟩ := hfits.registered
  obtain ⟨e', he', hsame⟩ := hfits.effect
  cases he.symm.trans he'
  have hstands := h.effect_stands he
  have hload : loadEffect s x.invocation.requestId = .ok (some e) := hstands.loads h.sound he
  have hregistration : loadToolRegistration s x.invocation.sessionId x.invocation.toolName
      x.invocation.toolVersion = .ok (some v) := h.tools.loadToolRegistration h.sound hv
  obtain ⟨hsession, hparticipant, hoperation⟩ : e.sessionId = x.invocation.sessionId ∧
      e.participantId = x.invocation.participantId ∧
      e.operationId = x.invocation.operationId := by
    have hsame' := hsame
    simp only [ToolInvocationRow.of, ToolInvocationSnapshot.isEffect, Bool.and_eq_true] at hsame'
    exact ⟨of_decide_eq_true hsame'.1.1.1.1, of_decide_eq_true hsame'.1.1.1.2,
      of_decide_eq_true hsame'.1.1.2⟩
  obtain ⟨orow, horow, hosession, hoparticipant⟩ := hstands.operation
  obtain ⟨prow, hprow, hpsession⟩ := Option.map_eq_some_iff.mp hstands.participant
  rw [hparticipant] at hprow hoparticipant
  rw [hoperation] at horow
  rw [hsession] at hpsession hosession
  have hp := h.sound.tree.loadParticipant hprow
  have ho := h.sound.operation_loads horow
  have hid' : x.registrationId = v.registrationId := hid.symm
  have hdefinition' : v.definition = x.definition := hdefinition
  have hsame' : x.isEffect e = true := hsame
  have hsnapshot : (ToolInvocationRow.of x).snapshot = x := rfl
  unfold ToolInvocationSnapshot.InStep
  by_cases hstep : x.phase.matches e.phase = true ∧ e.revision = x.revision <;>
    simp [loadToolInvocation, hrow, hsnapshot, hload, need, check, hp, ho, hregistration,
      hpsession, hosession, hoparticipant, hsame', hid', hdefinition', hstep, Bind.bind,
      Except.bind, Pure.pure, Except.pure]

end Navigator
