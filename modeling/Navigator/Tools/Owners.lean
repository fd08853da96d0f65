/-
Pending invocations under a new owner.

A pending invocation is bound to the current connection of its provider
(`Reachable.bound`), so the owner of the session can speak for it.  What a transition asks for
besides is that the effect of the invocation is of the epoch under which it is made, and
nothing ever gives an effect of a tool another epoch: `settles_iff` says exactly which
invocations the owner of a session can still bring to an end.
-/
import Navigator.Tools.Sequences

namespace Navigator

open Txn Tx

variable {env : Env} {s s' : Store} {t : Timestamp} {c : Command}
variable {r : SessionRecord} {d : TransitionToolInvocation}
  {v current updated : ToolInvocationSnapshot} {connection : ToolProviderConnectionSnapshot}
  {e : EffectJournalEntry} {revision : Revision} {row : ToolInvocationRow}
variable {result : Result} {q : RequestId} {host : HostId}

/-! ### Pending invocations are bound -/

/-- Pending invocations are bound to the connection of their provider. -/
structure Store.Bound (s : Store) : Prop where
  generation : ∀ {k p connection}, s.journal.toolConnections.find? (k, p) = some connection →
    connection.generation ≠ 0
  bound : ∀ {id row connection}, s.journal.toolInvocations.find? id = some row →
    row.isPending = true →
    s.journal.toolConnections.find? (row.sessionId, row.providerId) = some connection →
    row.snapshot.dispatch.connectionId = some connection.connectionId

theorem ToolInvocationRow.isPendingAt_iff {r : ToolInvocationRow} {k : SessionId}
    {p : ToolProviderId} : r.isPendingAt k p = true ↔
      (r.sessionId, r.providerId) = (k, p) ∧ r.isPending = true := by
  rw [← ToolInvocationRow.isAt_iff, ← Bool.and_eq_true]
  rfl

/-- A connection binds what is pending at its provider. -/
theorem ConnectToolProvider.Connects.binds {d : ConnectToolProvider} {generation next priorAck : ℕ}
    (h : d.Connects t s r generation next priorAck) {ids : List ToolRegistrationId}
    {now : Timestamp} {id : ToolInvocationId} {row' : ToolInvocationRow}
    (hrow' : (s.journal.connected (d.snapshot ids generation next now)).toolInvocations.find? id =
      some row') (hpending : row'.isPending = true)
    (hat : (row'.sessionId, row'.providerId) = (d.sessionId, d.providerId)) :
    row'.snapshot.dispatch.connectionId = some d.connectionId := by
  have hfind := Journal.find?_rebound { s.journal with
    toolConnections := s.journal.toolConnections.upsert (d.snapshot ids generation next now) }
    d.sessionId d.providerId d.connectionId generation id
  obtain ⟨row, hrow, heq⟩ := Option.map_eq_some_iff.mp (hfind.symm.trans hrow')
  by_cases hold : row.isPendingAt d.sessionId d.providerId = true
  · obtain ⟨row1, hbound⟩ := Option.isSome_iff_exists.mp
      (h.pending row (Table.mem_of_find? hrow) hold)
    rw [if_pos hold, hbound, Option.getD_some] at heq
    obtain ⟨-, -, -, -, hdispatch⟩ := ToolInvocationRow.rebound_eq hbound
    rw [← heq, hdispatch]
  · rw [if_neg hold] at heq
    subst heq
    exact absurd (ToolInvocationRow.isPendingAt_iff.mpr ⟨hat, hpending⟩) hold

/-- What a connect does to the journal. -/
theorem JournalChange.connects {d : ConnectToolProvider} {j : Journal}
    (h : JournalChange env t s (.connectToolProvider d) result j) :
    j = s.journal ∨ ∃ r generation next priorAck, d.Connects t s r generation next priorAck ∧
      j = s.journal.connected (d.snapshot (ToolRegistrationId.sorted d.registrationIds)
        generation next (max r.timeFloor t)) := by
  cases h with
  | same => exact .inl rfl
  | toolConnected made => exact .inr ⟨_, _, _, _, made, rfl⟩

/-- What a call keeps of it. -/
theorem Store.Bound.step (h : s.Bound) (hchange : JournalChange env t s c result s'.journal) :
    s'.Bound := by
  refine ⟨fun {k p connection} hconnection => ?_, fun {id row' connection} hrow' hpending
    hconnection => ?_⟩
  · cases hchange.connectionStep k p with
    | kept hstate =>
      rw [hconnection] at hstate
      obtain ⟨before, hbefore, heq⟩ := Option.map_eq_some_iff.mp hstate.symm
      have hgeneration : before.generation = connection.generation := congrArg (fun x => x.2.1) heq
      rw [← hgeneration]
      exact h.generation hbefore
    | @connected d r generation next priorAck _ _ _ connects found =>
      cases hconnection.symm.trans found
      obtain ⟨hgeneration, -⟩ := ConnectToolProvider.prior_next connects.prior
      change generation ≠ 0
      omega
  · -- what is pending at a provider that connects is bound to the new connection
    have hown : ∀ d, c = .connectToolProvider d →
        (row'.sessionId, row'.providerId) = (d.sessionId, d.providerId) →
        row'.snapshot.dispatch.connectionId = some connection.connectionId := by
      rintro d rfl hat
      obtain hsame | ⟨r, generation, next, priorAck, hconnects, hjournal⟩ := hchange.connects
      · rw [hsame] at hrow' hconnection
        exact h.bound hrow' hpending hconnection
      · rw [hjournal] at hrow' hconnection
        have hfound := s.journal.toolConnections.find?_upsert (d.snapshot
          (ToolRegistrationId.sorted d.registrationIds) generation next (max r.timeFloor t))
          (row'.sessionId, row'.providerId)
        cases hconnection.symm.trans (hfound.trans (if_pos hat.symm))
        exact hconnects.binds hrow' hpending hat
    cases hchange.connectionStep row'.sessionId row'.providerId with
    | connected command _ own => exact hown _ command own.symm
    | kept hstate =>
      rw [hconnection] at hstate
      obtain ⟨before, hbefore, heq⟩ := Option.map_eq_some_iff.mp hstate.symm
      have hid : before.connectionId = connection.connectionId := congrArg Prod.fst heq
      cases hchange.tool id with
      | same hsame =>
        rw [← hid]
        exact h.bound (hsame.symm.trans hrow') hpending hbefore
      | made _ reserves dispatches _ found =>
        cases hrow'.symm.trans found
        obtain ⟨-, -, hinvocation, -, -, -, hdispatch⟩ :=
          ToolInvocationSnapshot.new_eq dispatches.made
        simp only [ToolInvocationRow.of, hinvocation, hdispatch] at hbefore ⊢
        cases hbefore.symm.trans reserves.connected
        exact congrArg some hid
      | rebound command _ _ _ pending bound after =>
        cases hrow'.symm.trans after
        obtain ⟨-, hrow1, -⟩ := ToolInvocationRow.rebound_eq bound
        refine hown _ command ?_
        rw [hrow1]
        exact (ToolInvocationRow.isPendingAt_iff.mp pending).1
      | moved _ _ admitted moves _ hrow after =>
        cases hrow'.symm.trans after
        obtain ⟨-, -, -, -, hdispatch⟩ := ToolInvocationSnapshot.moved_eq moves.moved
        refine (congrArg ToolDispatchSnapshot.connectionId hdispatch).trans ?_
        rw [TransitionToolInvocation.dispatched_continues, ← hid]
        exact h.bound hrow (by simp [ToolInvocationRow.isPending, moves.unsettled]) hbefore
      | @ended d r e g a row terminal v _ _ ends _ hrow after =>
        cases hrow'.symm.trans after
        obtain ⟨-, -, hdispatch, -⟩ := ends.continues
        change v.dispatch.connectionId = _
        rw [hdispatch, ← hid]
        refine h.bound hrow ?_ hbefore
        simp [ToolInvocationRow.isPending, ends.uncertain, ToolInvocationPhase.isSettled]

/-- **Pending invocations are bound to the connection of their provider**, in every run. -/
theorem Reachable.bound (h : Reachable env s) : s.Bound := by
  refine Reachable.rec' (P := Store.Bound) ⟨nofun, nofun⟩ (fun s s' hs hbound hstep => ?_) h
  cases hstep with
  | call t c => exact hbound.step (exec_journal hs.sound t c)

/-! ### A transition that goes through -/

/-- A request that is in no table. -/
def Store.Unused (s : Store) (q : RequestId) : Prop := ∀ table, s.records q table = false

/-- A request that is in no table passes all the checks of a transition, and no other does. -/
theorem Store.unused_iff :
    s.Unused q ↔ s.requestRecorded q = false ∧ s.requestOfEffect q = false ∧
      s.recoveries.find? q = none ∧ s.journal.toolMutations.find? q = none := by
  rw [Store.Unused, Store.records_eq_false]
  simp only [Store.requestJournaled, Store.journaled, Store.requestRecorded,
    Store.requestOfEffect, Option.isNone_iff_eq_none, decide_eq_false_iff_not,
    decide_eq_true_eq, not_or, Bool.not_eq_true, Option.isSome_eq_false_iff]
  tauto

/-- What a transition that needs neither authority nor a number of its own finds in order. -/
structure TransitionToolInvocation.Passes (env : Env) (t : Timestamp)
    (d : TransitionToolInvocation) (s : Store) (r : SessionRecord)
    (current : ToolInvocationSnapshot) (e : EffectJournalEntry)
    (connection : ToolProviderConnectionSnapshot) (step : ToolStep) (revision : Revision)
    (updated : ToolInvocationSnapshot) : Prop where
  unused : s.Unused d.context.requestId
  loaded : loadToolInvocation s d.invocationId = .ok (some current)
  found : loadEffect s current.invocation.requestId = .ok (some e)
  owner : s.Authorized current.invocation.sessionId d.context.caller d.ownerEpoch t r
  expected : current.revision = d.expectedRevision
  epoch : e.ownerEpoch = d.ownerEpoch
  connected : s.journal.toolConnections.find? (current.invocation.sessionId, d.providerId) =
    some connection
  speaks : d.Speaks current connection
  plain : d.transition ≠ .start ∧ d.transition.isCancel = false
  unsettled : current.phase.isSettled = false
  leads : d.transition.step env current e = some step
  next : current.revision.next = some revision
  fits : revision.get < i64Bound
  moved : current.moved step.phase step.terminal revision (d.dispatched env current connection) =
    some updated
  takes : s.TakesEvent env current.invocation.sessionId
    (eventIdentity env d.context.requestId step.event)

/-- The new row is recorded. -/
theorem recordToolMutation_of_fresh (h : s.journal.toolMutations.find? d.context.requestId = none) :
    ∃ s', recordToolMutation env d v s = .done () s' := by
  obtain ⟨rows, hrows⟩ := Table.exists_insert (r := (⟨d.context.requestId, d.invocationId,
    d.context.caller, MutableRequest.digest env d, v⟩ : ToolMutationRow)) h
  simp only [recordToolMutation, looks_done]
  exact ⟨_, rows, hrows, rfl⟩

/-- A transition that takes no number changes nothing when it is dispatched. -/
theorem TransitionToolInvocation.dispatch_plain (h : d.transition.isCancel = false) :
    d.dispatch env current connection s = .done (d.dispatched env current connection) s := by
  unfold dispatch dispatched
  cases htransition : d.transition with
  | requestCancel =>
    rw [htransition] at h
    cases h
  | _ => rfl

theorem moveTool_of_passes {step : ToolStep} (hs : Sound s)
    (h : d.Passes env t s r current e connection step revision updated) (k : SessionId)
    (floor now : Timestamp) :
    ∃ s', moveTool env d current e connection now (s.withFloor k floor) = .done updated s' := by
  obtain ⟨hrow, -, -⟩ := loadEffect_ok_some h.found
  obtain ⟨-, e', hloads⟩ := loadToolInvocation_ok_some h.loaded
  obtain rfl : e' = e := by simpa using hloads.effect.symm.trans h.found
  have hid := EffectJournalEntry.requestId_of_found hrow
  -- the epoch of the effect is the owner's, which the session has seen
  have hepoch : e'.ownerEpoch.get < i64Bound := by
    have hkept := hs.sessions r (Table.mem_of_find? h.owner.found)
    obtain ⟨_, -, hheld, -⟩ := h.owner.held
    have hle := r.epochBounded d.ownerEpoch (by rw [hheld]; rfl)
    rw [h.epoch]
    exact lt_of_le_of_lt hle hkept.fits.2
  have hmutation := (Store.unused_iff.mp h.unused).2.2.2
  have hupdate := (updateEffect_done (s := s.withFloor k floor) (u := ())
    (e := { e' with
      phase := step.effectPhase
      terminal := step.effectTerminal
      revision }) (hid ▸ hrow) (by rw [hloads.revision]; exact h.next)).mpr
    ⟨⟨hepoch, h.fits⟩, rfl⟩
  let moved : Store := { s.withFloor k floor with
    journal := (s.journal.withEffect { e' with
      phase := step.effectPhase
      terminal := step.effectTerminal
      revision }).withTool d.invocationId updated }
  obtain ⟨s3, hevent⟩ : ∃ s3, appendEventData env d.context.requestId
      current.invocation.sessionId revision step.event (toolInvocationEventPayload updated) now
      moved = .done () s3 := appendEventData_iff.mpr ⟨h.fits, h.takes.of_eq rfl⟩
  obtain ⟨s4, hrecord⟩ : ∃ s4, recordToolMutation env d updated s3 = .done () s4 :=
    recordToolMutation_of_fresh (by rw [appendEventData_journal hevent]; exact hmutation)
  refine ⟨s4, ?_⟩
  simp only [moveTool, looks_done]
  refine ⟨step, h.leads, revision, h.next, bind_done.mpr ⟨_, _,
    TransitionToolInvocation.dispatch_plain h.plain.2, ?_⟩⟩
  simp only [looks_done]
  refine ⟨updated, h.moved, bind_done.mpr ⟨(), _, hupdate, ?_⟩⟩
  simp only [write_bind_done]
  exact bind_done.mpr ⟨(), s3, hevent, bind_done.mpr ⟨(), s4, hrecord, pure_done.mpr ⟨rfl, rfl⟩⟩⟩

/-- **A transition that finds all in order is applied.** -/
theorem TransitionToolInvocation.Passes.applies {step : ToolStep} (hs : Sound s)
    (h : d.Passes env t s r current e connection step revision updated) :
    (exec env t (.transitionToolInvocation d) s).1 =
      .ok (.applied (.toolInvocation updated)) := by
  have hkept := hs.sessions r (Table.mem_of_find? h.owner.found)
  obtain ⟨hglobal, heffect, hrecovery, hmutation⟩ := Store.unused_iff.mp h.unused
  have hdone : ∃ s', transitionToolInvocation env t d s = .done (.applied updated) s' := by
    obtain ⟨row, howner⟩ := authorizeOwner_of_authorized hkept h.owner .transitionToolInvocation
    obtain ⟨s', hmove⟩ := moveTool_of_passes hs h current.invocation.sessionId
      (max r.timeFloor t) (max r.timeFloor t)
    refine ⟨s', ?_⟩
    simp only [transitionToolInvocation, looks_done, hmutation, transitionToolNew,
      rejectGlobalRequestCollision_bind_done, rejectEffectRequestCollision_bind_done,
      rejectRecoveryRequestCollision_bind_done]
    refine ⟨hglobal, heffect, hrecovery, _, h.loaded, current, rfl,
      bind_done.mpr ⟨_, _, howner, ?_⟩⟩
    simp only [looks_done]
    refine ⟨h.expected, _, h.found, e, rfl, h.epoch, connection, h.connected, h.speaks, ?_⟩
    refine bind_done.mpr ⟨(), s.withFloor current.invocation.sessionId (max r.timeFloor t), ?_, ?_⟩
    · rw [authorizeTransition, if_neg h.plain.1]
      exact pure_done.mpr ⟨rfl, rfl⟩
    · simp only [answerTool, looks_done, h.unsettled]
      exact ⟨by simp [h.plain.2], bind_done.mpr ⟨updated, s', hmove, pure_done.mpr ⟨rfl, rfl⟩⟩⟩
  obtain ⟨s', hdone⟩ := hdone
  change (unrecorded .toolInvocation (transitionToolInvocation env t d) s).1 = _
  simp [unrecorded, unledgered, settleUnrecorded, commit, hdone, Except.map, Mutation.map]

/-- What a transition that is applied does to the row it names. -/
theorem JournalChange.moved {j : Journal} (h : JournalChange env t s (.transitionToolInvocation d)
      (.ok (.applied (.toolInvocation updated))) j) :
    ∃ r current e connection step revision, d.Admits t s r current e connection ∧
      d.Moves env s current e connection step revision updated ∧
      s.journal.toolInvocations.find? d.invocationId = some (.of current) ∧
      j.toolInvocations.find? d.invocationId =
        some ((ToolInvocationRow.of current).movedTo updated) := by
  cases h with
  | same idle => exact absurd rfl (idle rfl _)
  | @toolMoved d r current updated e connection step revision toolMutations admitted moves =>
    obtain ⟨hrow, -⟩ := loadToolInvocation_ok_some admitted.loaded
    refine ⟨r, current, e, connection, step, revision, admitted, moves, hrow, ?_⟩
    rw [TransitionToolInvocation.journal_toolInvocations]
    exact Table.find?_modified _ rfl hrow

/-! ### Bringing an invocation to an end -/

/-- An invocation that has ended, or is in doubt. -/
def ToolInvocationPhase.isOver : ToolInvocationPhase → Bool
  | completed | failed | uncertain => true
  | reserved | started => false

/-- Whether an owner can bring an invocation to an end, or into doubt, by transitions of its
own. -/
def Store.CanSettle (env : Env) (s : Store) (id : ToolInvocationId) (host : HostId)
    (epoch : FencingEpoch) : Prop :=
  ∃ ds : List (Timestamp × TransitionToolInvocation),
    (∀ d ∈ ds, d.2.context.caller = host ∧ d.2.ownerEpoch = epoch) ∧
    ∃ row, (calls env (ds.map fun d => (d.1, .transitionToolInvocation d.2))
      s).journal.toolInvocations.find? id = some row ∧ row.snapshot.phase.isOver = true

/-- The condition under which it can: the invocation is in step with its effect, the effect is
of the owner's epoch, and there is room for one more revision and one more event. -/
structure ToolInvocationRow.Settleable (env : Env) (s : Store) (row : ToolInvocationRow)
    (e : EffectJournalEntry) (epoch : FencingEpoch) : Prop where
  inStep : row.snapshot.InStep e
  epoch : e.ownerEpoch = epoch
  revision : row.snapshot.revision.get + 1 < i64Bound
  session : (s.events.countP fun x => x.sessionId = row.sessionId) <
    (env.limits .retainedEvents).perSession
  total : s.events.length < (env.limits .retainedEvents).global

/-- The failure of an invocation whose time is up. -/
def ToolInvocationSnapshot.timedOut (v : ToolInvocationSnapshot) : ToolFailure where
  invocationId := v.invocation.invocationId
  kind := .timedOut
  message := ⟨"tool invocation deadline expired", by decide⟩
  retryable := true

/-- The transition by which a pending invocation fails. -/
def ToolInvocationSnapshot.giveUp (v : ToolInvocationSnapshot) (q : RequestId) (host : HostId)
    (epoch : FencingEpoch) (connection : ToolProviderConnectionSnapshot) :
    TransitionToolInvocation where
  context := ⟨q, host⟩
  invocationId := v.invocation.invocationId
  ownerEpoch := epoch
  expectedRevision := v.revision
  transition := .fail v.timedOut
  providerId := v.dispatch.providerId
  connectionId := connection.connectionId
  connectionGeneration := connection.generation
  dispatchId := v.dispatch.dispatchId
  serverSequence := v.dispatch.serverSequence

/-- Any pending invocation may fail for want of time. -/
theorem ToolInvocationSnapshot.giveUp_step (h : v.phase = .reserved ∨ v.phase = .started) :
    (ToolTransition.fail v.timedOut).step env v e = some ⟨.failed, some (.failed v.timedOut),
      .failed, some (.failed v.timedOut.kind.failureId), .toolInvocationFailed⟩ := by
  unfold ToolTransition.step
  rcases h with h | h
  · simp only [h]
    rfl
  · simp only [h]

/-- The snapshot after it. -/
theorem ToolInvocationSnapshot.giveUp_moved {epoch : FencingEpoch}
    (hgeneration : connection.generation ≠ 0)
    (hbound : v.dispatch.connectionId = some connection.connectionId) :
    ∃ v', v.moved .failed (some (.failed v.timedOut)) revision
      ((v.giveUp q host epoch connection).dispatched env v connection) = some v' := by
  obtain ⟨hdispatch, -, -, hname, hversion⟩ := v.valid
  refine ⟨_, dif_pos ⟨?_, ?_, rfl, hname, hversion⟩⟩
  · unfold TransitionToolInvocation.dispatched ToolInvocationSnapshot.giveUp
    simp only [ToolDispatchSnapshot.structurallyValid, Bool.and_eq_true] at hdispatch ⊢
    refine ⟨⟨⟨⟨hdispatch.1.1.1.1, ?_⟩, ?_⟩, hdispatch.1.2⟩, hdispatch.2⟩
    · simpa using hgeneration
    · simp [hbound]
  · simp [ToolInvocation.isAnsweredBy, ToolInvocationSnapshot.timedOut]

/-- An invocation that meets the condition can be brought to an end in one call. -/
theorem ToolInvocationRow.Settleable.canSettle (hs : Reachable env s) {id : ToolInvocationId}
    {epoch : FencingEpoch} (h : row.Settleable env s e epoch)
    (hrow : s.journal.toolInvocations.find? id = some row)
    (hphase : row.snapshot.phase = .reserved ∨ row.snapshot.phase = .started)
    (he : s.journal.effects.find? row.effectRequestId = some e)
    (howner : s.Authorized row.sessionId host epoch t r)
    (hconnection : s.journal.toolConnections.find? (row.sessionId, row.providerId) =
      some connection) (hunused : s.Unused q)
    (hfresh : ∀ x ∈ s.events, x.sessionId = row.sessionId →
      x.eventId ≠ eventIdentity env q .toolInvocationFailed) : s.CanSettle env id host epoch := by
  obtain ⟨v, rfl⟩ : ∃ v, row = .of v := ⟨_, (hs.tools.rows hrow).columns⟩
  have hid : v.invocation.invocationId = id := Table.key_of_find? hrow
  have hpending : (ToolInvocationRow.of v).isPending = true := by
    unfold ToolInvocationRow.isPending
    rcases hphase with hphase | hphase <;> rw [hphase] <;> rfl
  have hbound := hs.bound.bound hrow hpending hconnection
  have hgeneration := hs.bound.generation hconnection
  obtain ⟨revision, hnext, hfits⟩ := Revision.exists_next h.revision
  obtain ⟨v', hmoved⟩ : ∃ v', v.moved .failed (some (.failed v.timedOut)) revision
      ((v.giveUp q host epoch connection).dispatched env v connection) = some v' :=
    ToolInvocationSnapshot.giveUp_moved hgeneration hbound
  have hpasses : (v.giveUp q host epoch connection).Passes env t s r v e connection
      ⟨.failed, some (.failed v.timedOut), .failed, some (.failed v.timedOut.kind.failureId),
        .toolInvocationFailed⟩ revision v' :=
    { unused := hunused
      loaded := by
        have hload := loadToolInvocation_eq hs hrow he
        rw [if_pos h.inStep, ← hid] at hload
        exact hload
      found := (hs.effect_stands he).loads hs.sound he
      owner := howner
      expected := rfl
      epoch := h.epoch
      connected := hconnection
      speaks := ⟨rfl, hbound, rfl, rfl, hgeneration, rfl, rfl⟩
      plain := ⟨nofun, rfl⟩
      unsettled := (Bool.not_eq_true' _).mp hpending
      leads := ToolInvocationSnapshot.giveUp_step hphase
      next := hnext
      fits := hfits
      moved := hmoved
      takes := ⟨h.session, h.total, hfresh⟩ }
  have happlied := hpasses.applies hs.sound
  refine ⟨[(t, v.giveUp q host epoch connection)], by simp [ToolInvocationSnapshot.giveUp], ?_⟩
  have hchange : JournalChange env t s (.transitionToolInvocation (v.giveUp q host epoch
    connection)) _ _ := exec_journal hs.sound t _
  rw [happlied] at hchange
  obtain ⟨_, _, _, _, _, _, -, -, -, hafter⟩ := hchange.moved
  obtain ⟨-, hover, -⟩ := ToolInvocationSnapshot.moved_eq hmoved
  subst hid
  refine ⟨_, hafter, ?_⟩
  change v'.phase.isOver = true
  rw [hover]
  rfl

/-- A transition leaves an invocation and its effect as they are, or the invocation meets the
condition. -/
theorem transition_settleable (hs : Reachable env s) {id : ToolInvocationId}
    (hrow : s.journal.toolInvocations.find? id = some row)
    (he : s.journal.effects.find? row.effectRequestId = some e) :
    row.Settleable env s e d.ownerEpoch ∨
    (exec env t (.transitionToolInvocation d) s).2.journal.toolInvocations.find? id = some row ∧
    (exec env t (.transitionToolInvocation d) s).2.journal.effects.find? row.effectRequestId =
      some e := by
  have hchange : JournalChange env t s (.transitionToolInvocation d) _ _ :=
    exec_journal hs.sound t _
  generalize (exec env t (.transitionToolInvocation d) s).1 = result at hchange
  generalize (exec env t (.transitionToolInvocation d) s).2.journal = j at hchange
  cases hchange with
  | same => exact .inr ⟨hrow, he⟩
  | toolAnswered => exact .inr ⟨hrow, he⟩
  | @toolMoved d r current updated e1 connection step revision toolMutations admitted moves =>
    obtain ⟨hcurrent, e', hloads⟩ := loadToolInvocation_ok_some admitted.loaded
    obtain rfl : e' = e1 := by simpa using hloads.effect.symm.trans admitted.found
    have hfound := (loadEffect_ok_some admitted.found).1
    by_cases hid : id = d.invocationId
    · subst hid
      cases hrow.symm.trans hcurrent
      cases he.symm.trans hfound
      have hrevision := Revision.next_get moves.next
      have hfits := moves.fits
      exact .inl ⟨⟨hloads.phase, hloads.revision⟩, admitted.epoch, hrevision ▸ hfits,
        moves.takes.session, moves.takes.total⟩
    · -- the invocation that moves is another one, with another effect
      refine .inr ⟨?_, ?_⟩
      · rw [TransitionToolInvocation.journal_toolInvocations]
        exact (Table.find?_modify _ _ _ _ _).trans ((if_neg hid).trans hrow)
      have hq := EffectJournalEntry.requestId_of_found hfound
      refine (Journal.find?_withEffect _ _ _).trans ((if_neg fun hown => hid ?_).trans ?_)
      · exact hs.tools.alone hrow hcurrent (hown.trans hq)
      · rw [TransitionToolInvocation.sequenced_effects, he]

theorem ToolInvocationRow.Settleable.of_follows {epoch : FencingEpoch}
    (h : row.Settleable env s' e epoch) (hfollows : Follows s s') :
    row.Settleable env s e epoch := by
  have hsuffix := hfollows.events.suffix
  exact ⟨h.inStep, h.epoch, h.revision, lt_of_le_of_lt hsuffix.sublist.countP_le h.session,
    lt_of_le_of_lt hsuffix.length_le h.total⟩

/-- Only an invocation that meets the condition can be brought to an end. -/
theorem Store.CanSettle.settleable (hs : Reachable env s) {id : ToolInvocationId}
    {epoch : FencingEpoch} (h : s.CanSettle env id host epoch)
    (hrow : s.journal.toolInvocations.find? id = some row)
    (hphase : row.snapshot.phase.isOver = false)
    (he : s.journal.effects.find? row.effectRequestId = some e) : row.Settleable env s e epoch := by
  obtain ⟨ds, hds, row', hrow', hover⟩ := h
  induction ds generalizing s with
  | nil =>
    cases hrow.symm.trans hrow'
    cases hphase.symm.trans hover
  | cons d ds ih =>
    obtain ⟨-, hepoch⟩ := hds d List.mem_cons_self
    obtain hsettleable | ⟨hrow1, he1⟩ := transition_settleable (t := d.1) (d := d.2) hs hrow he
    · rwa [hepoch] at hsettleable
    · have hstep : Step env s (exec env d.1 (.transitionToolInvocation d.2) s).2 := .call _ _
      refine (ih (hs.tail hstep) hrow1 he1 (fun d hd => hds d (List.mem_cons_of_mem _ hd))
        hrow').of_follows (Run.follows hs.sound (.single hstep))

/-- **Which pending invocations survive a change of owner**: in a session that has an owner,
with a connection of the provider and a request that is not in use, the owner can bring a
reserved or started invocation to an end exactly if it is in step with its effect, the effect
is of the owner's epoch, and there is room for a revision and an event. -/
theorem pending_tools_can_be_settled (hs : Reachable env s) {id : ToolInvocationId}
    {row : ToolInvocationRow} {e : EffectJournalEntry} {host : HostId} {epoch : FencingEpoch}
    {r : SessionRecord} {connection : ToolProviderConnectionSnapshot} {q : RequestId}
    (hrow : s.journal.toolInvocations.find? id = some row)
    (hphase : row.snapshot.phase = .reserved ∨ row.snapshot.phase = .started)
    (he : s.journal.effects.find? row.effectRequestId = some e)
    (howner : s.Authorized row.sessionId host epoch t r)
    (hconnection : s.journal.toolConnections.find? (row.sessionId, row.providerId) =
      some connection)
    (hunused : s.Unused q) (hfresh : ∀ x ∈ s.events, x.sessionId = row.sessionId →
      x.eventId ≠ eventIdentity env q .toolInvocationFailed) :
    s.CanSettle env id host epoch ↔ row.Settleable env s e epoch := by
  constructor
  · intro h
    refine h.settleable hs hrow ?_ he
    rcases hphase with hphase | hphase <;> rw [hphase] <;> rfl
  · intro h
    exact h.canSettle hs hrow hphase he howner hconnection hunused hfresh

namespace Sample

/-- The second host has the session, and the provider has connected again. -/
def handedOver : Store :=
  calls world [(seconds 31, .acquireOwnership ⟨⟨id 22, hostB⟩, session, takeOver.duration⟩),
    (seconds 31, .connectToolProvider ⟨⟨id 23, hostB⟩, session, ⟨2, Nat.two_pos⟩,
      openSession.consumerKey, id 0, id 1, 0, [id 0]⟩)] invoked

theorem handedOver_reachable : Reachable world handedOver :=
  invoked_reachable.trans (run_calls _ _)

end Sample

open Sample

/-- The owner under whom a tool was invoked can let it fail. -/
theorem pending_tools_can_be_settled_invoked :
    (invoked.journal.toolInvocations.find? (Sample.id 20)).any
      (fun row => row.snapshot.phase = .reserved) = true ∧
    invoked.CanSettle world (Sample.id 20) hostA epoch := by
  obtain ⟨⟨r, hfound, hopen, howner, hepoch, hlive⟩, ⟨row, hrow, hphase, hsession, hprovider,
      hrevision, e, he, hin, hown⟩, hconnected, hnew, hroom, htotal, hfresh⟩ :
      (∃ r ∈ invoked.sessions.find? session, r.closed = false ∧
        r.owner = some (hostA, seconds 30) ∧ r.ownerEpoch = some epoch ∧
        max r.timeFloor (seconds 2) < seconds 30) ∧
      (∃ row ∈ invoked.journal.toolInvocations.find? (Sample.id 20),
        row.snapshot.phase = .reserved ∧ row.sessionId = session ∧
        row.providerId = Sample.id 0 ∧ row.snapshot.revision = .initial ∧
        ∃ e ∈ invoked.journal.effects.find? row.effectRequestId,
          row.snapshot.InStep e ∧ e.ownerEpoch = epoch) ∧
      (invoked.journal.toolConnections.find? (session, Sample.id 0)).isSome = true ∧
      ((invoked.ledger.find? (Sample.id 21)).isNone = true ∧
        invoked.requestJournaled (Sample.id 21) = false) ∧
      (invoked.events.countP fun e => e.sessionId = session) < 1024 ∧
      invoked.events.length < 4096 ∧
      ∀ e ∈ invoked.events, e.sessionId = session →
        e.eventId ≠ eventIdentity world (Sample.id 21) .toolInvocationFailed := by
    decide +kernel
  obtain ⟨connection, hconnection⟩ := Option.isSome_iff_exists.mp hconnected
  have htakes : invoked.TakesEvent world session
      (eventIdentity world (Sample.id 21) .toolInvocationFailed) :=
    ⟨hroom, htotal, hfresh⟩
  have hunused : invoked.Unused (Sample.id 21) := Store.records_eq_false.mpr hnew
  rw [← hsession] at hconnection htakes hfound
  rw [← hprovider] at hconnection
  refine ⟨?_, (pending_tools_can_be_settled invoked_reachable hrow (.inl hphase) he
    ⟨hfound, hopen, _, howner, hepoch, hlive⟩ hconnection hunused htakes.fresh).mpr
      ⟨hin, hown, ?_, htakes.session, htakes.total⟩⟩
  · rw [hrow]
    simpa using hphase
  · rw [hrevision]
    decide

/-- **An invocation that is stuck**: the session has changed hands, its new owner has connected
the provider again, and nothing the owner can ask for ends the invocation. -/
theorem older_invocation_is_stuck :
    Reachable world handedOver ∧
    (∃ r, handedOver.Authorized session hostB ⟨2, Nat.two_pos⟩ (seconds 32) r) ∧
    (handedOver.journal.toolConnections.find? (session, Sample.id 0)).any
      (fun connection => connection.connectionId = Sample.id 1) = true ∧
    (handedOver.journal.toolInvocations.find? (Sample.id 20)).any (fun row =>
      row.snapshot.phase = .reserved ∧ row.sessionId = session ∧
        row.providerId = Sample.id 0) = true ∧
    handedOver.Unused (Sample.id 24) ∧
    handedOver.TakesEvent world session (eventIdentity world (Sample.id 24) .toolInvocationFailed) ∧
    ¬ handedOver.CanSettle world (Sample.id 20) hostB ⟨2, Nat.two_pos⟩ := by
  -- one computation of the store answers all questions about it
  obtain ⟨⟨r, hfound, hopen, howner, hepoch, hlive⟩, hconnection, hpending, ⟨row, hrow, hphase, e,
      he, hown⟩, hunused, hsession, htotal, hfresh⟩ :
      (∃ r ∈ handedOver.sessions.find? session, r.closed = false ∧
        r.owner = some (hostB, seconds 41) ∧
        r.ownerEpoch = some ⟨2, Nat.two_pos⟩ ∧
        max r.timeFloor (seconds 32) < seconds 41) ∧
      (handedOver.journal.toolConnections.find? (session, Sample.id 0)).any
        (fun connection => connection.connectionId = Sample.id 1) = true ∧
      (handedOver.journal.toolInvocations.find? (Sample.id 20)).any (fun row =>
        row.snapshot.phase = .reserved ∧ row.sessionId = session ∧
          row.providerId = Sample.id 0) = true ∧
      (∃ row ∈ handedOver.journal.toolInvocations.find? (Sample.id 20),
        row.snapshot.phase = .reserved ∧
        ∃ e ∈ handedOver.journal.effects.find? row.effectRequestId, e.ownerEpoch = epoch) ∧
      ((handedOver.ledger.find? (Sample.id 24)).isNone = true ∧
        handedOver.requestJournaled (Sample.id 24) = false) ∧
      (handedOver.events.countP fun e => e.sessionId = session) < 1024 ∧
      handedOver.events.length < 4096 ∧
      ∀ e ∈ handedOver.events, e.sessionId = session →
        e.eventId ≠ eventIdentity world (Sample.id 24) .toolInvocationFailed := by
    decide +kernel
  refine ⟨handedOver_reachable, ⟨r, hfound, hopen, _, howner, hepoch, hlive⟩,
    hconnection, hpending, Store.records_eq_false.mpr hunused, ⟨hsession, htotal, hfresh⟩,
    fun hsettles => ?_⟩
  have hsettleable := hsettles.settleable handedOver_reachable hrow (by rw [hphase]; rfl) he
  exact absurd (hown.symm.trans hsettleable.epoch) (by decide)

end Navigator
