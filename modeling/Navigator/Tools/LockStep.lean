/-
Invocations and their effects.

The row of an invocation and the row of its effect are written by different calls.  Those of
the tool store, and the authorized resolution, write both; the reservation, the transition
and the takeover of an effect write the effect alone, and do not ask whether it is a tool's.
`JournalChange.pair` says how a call changes the two; the exact condition under which they
stay in step (`tools_move_with_their_effects`) is that no such call is made of the effect of
an invocation.
-/
import Navigator.Requests
import Navigator.Tools.Rows

namespace Navigator

open Txn Tx

variable {env : Env} {s s' : Store} {t : Timestamp} {c : Command}
variable {e : EffectJournalEntry} {row : ToolInvocationRow} {j : Journal}
variable {e1 e2 : EffectJournalEntry} {q : RequestId} {result : Result}

/-! ### A row and its effect -/

/-- The effect that a call changes without regard to tools. -/
def Command.changesEffect : Command → Option RequestId
  | .reserveEffect d => some d.context.requestId
  | .transitionEffect d => some d.effectRequestId
  | .takeoverEffect d => some d.effectRequestId
  | _ => none

/-- A resolution ends an invocation as it resolves its effect. -/
theorem ResolveAuthorizedEffect.toolEnd_matches {d : ResolveAuthorizedEffect}
    {definition : ToolDefinition} {phase : ToolInvocationPhase} {terminal : ToolTerminal}
    (h : d.toolEnd env definition = some (phase, terminal)) :
    phase.matches d.decision.resolution.phase = true := by
  unfold ResolveAuthorizedEffect.toolEnd at h
  split at h
  · next hresolution _ =>
    rw [hresolution]
    split at h <;> cases h
    rfl
  · next hresolution _ =>
    rw [hresolution]
    cases h
    rfl
  · cases h

/-- How a call changes a row and its effect: neither of them moves, the effect moves alone, or
they end up in step. -/
inductive PairStep (c : Command) (row row' : ToolInvocationRow) (e e' : EffectJournalEntry) :
    Prop
  | kept (phase : row'.snapshot.phase = row.snapshot.phase)
      (revision : row'.snapshot.revision = row.snapshot.revision) (effect : e' = e)
  | alone (command : c.changesEffect = some row.effectRequestId) (tool : row' = row)
      (next : e.revision.next = some e'.revision)
  | together (inStep : row'.snapshot.InStep e')

/-- The row and the effect of an invocation after a call. -/
def PairOutcome (c : Command) (id : ToolInvocationId) (row : ToolInvocationRow)
    (e : EffectJournalEntry) (j : Journal) : Prop :=
  ∃ row' e', j.toolInvocations.find? id = some row' ∧
    j.effects.find? row.effectRequestId = some e' ∧ PairStep c row row' e e'

theorem PairOutcome.same {id : ToolInvocationId} (hrow : j.toolInvocations.find? id = some row)
    (he : j.effects.find? row.effectRequestId = some e) : PairOutcome c id row e j :=
  ⟨row, e, hrow, he, .kept rfl rfl rfl⟩

/-- The effect moves alone, if it is the one the call names. -/
theorem PairOutcome.of_withEffect {id : ToolInvocationId}
    (hrow : s.journal.toolInvocations.find? id = some row)
    (he : s.journal.effects.find? row.effectRequestId = some e)
    (hcommand : c.changesEffect = some q) (htools : j.toolInvocations = s.journal.toolInvocations)
    (heffects : j.effects = (s.journal.withEffect e2).effects)
    (hfound : s.journal.effects.find? q = some e1) (hid : e2.requestId = e1.requestId)
    (hnext : e1.revision.next = some e2.revision) : PairOutcome c id row e j := by
  have hq : e2.requestId = q := hid.trans (EffectJournalEntry.requestId_of_found hfound)
  have hfind := s.journal.find?_withEffect e2 row.effectRequestId
  by_cases hown : row.effectRequestId = q
  · cases he.symm.trans (hown ▸ hfound)
    rw [if_pos (hown.trans hq.symm), hq, hfound, Option.map_some] at hfind
    exact ⟨row, e.updatedBy e2, by rw [htools, hrow], heffects ▸ hfind,
      .alone (hown ▸ hcommand) rfl hnext⟩
  · rw [if_neg (fun h => hown (h.trans hq))] at hfind
    exact .same (by rw [htools, hrow]) (heffects ▸ hfind.trans he)

/-- **How a call changes a row and its effect.** -/
theorem JournalChange.pair {id : ToolInvocationId} (h : JournalChange env t s c result j)
    (hfits : s.ToolsFit) (hrow : s.journal.toolInvocations.find? id = some row)
    (he : s.journal.effects.find? row.effectRequestId = some e) : PairOutcome c id row e j := by
  have hid : row.invocationId = id := Table.key_of_find? hrow
  have htool := h.tool id
  cases h with
  | same => exact .same hrow he
  | effectReserved made => exact .same hrow (Table.Grows.insert made.inserted _ _ he)
  | effectLapsed made => exact .of_withEffect hrow he rfl rfl rfl made.found rfl made.next
  | effectMoved made => exact .of_withEffect hrow he rfl rfl rfl made.found rfl made.next
  | @effectTaken d r e1 e2 _ made =>
    obtain ⟨e3, htaken, heq⟩ := made.taken
    refine .of_withEffect hrow he rfl rfl rfl made.found ?_ made.next
    rw [heq]
    exact (TakeoverEffect.taken_requestId htaken :)
  | @effectResolved d r e1 g a j effectMutations free owner grounds leaves =>
    have hfound := (loadEffect_ok_some grounds.found).1
    obtain ⟨e2, hresolved, heq⟩ := grounds.resolved
    have hq : a.effectEntry.requestId = d.effectRequestId := by
      rw [heq]
      exact (ResolveAuthorizedEffect.resolved_requestId hresolved).trans
        (EffectJournalEntry.requestId_of_found hfound)
    have hfind := s.journal.find?_withEffect a.effectEntry row.effectRequestId
    by_cases hown : row.effectRequestId = d.effectRequestId
    · cases he.symm.trans (hown ▸ hfound)
      rw [if_pos (hown.trans hq.symm), hq, hfound, Option.map_some] at hfind
      obtain ⟨hnone, -, -⟩ | ⟨row1, terminal, v, ends, rfl⟩ := leaves
      · have hnot := List.find?_eq_none.mp hnone row (Table.mem_of_find? hrow)
        simp [hown] at hnot
      -- the row that is found is this one
      obtain ⟨hrow1, hown1⟩ := Store.invocationOf_eq_some ends.found
      obtain rfl : row1.invocationId = id := hfits.alone hrow1 hrow (hown1.trans hown.symm)
      cases hrow.symm.trans hrow1
      obtain ⟨hcontinues, hrevision, -, hend⟩ := ends.continues
      have hafter := (s.journal.withEffect a.effectEntry).find?_withTerminal row.invocationId v
        (terminal.digest env) row.invocationId
      rw [if_pos rfl] at hafter
      refine ⟨_, e.updatedBy a.effectEntry, hafter.trans (congrArg (Option.map _) hrow), hfind,
        .together ⟨?_, hrevision.symm⟩⟩
      change v.phase.matches a.effectEntry.phase = true
      rw [heq]
      change v.phase.matches e2.phase = true
      rw [(ResolveAuthorizedEffect.resolved_eq hresolved).2.1]
      exact ResolveAuthorizedEffect.toolEnd_matches hend
    · rw [if_neg (fun h => hown (h.trans hq))] at hfind
      obtain ⟨-, -, rfl⟩ | ⟨row1, terminal, v, ends, rfl⟩ := leaves
      · exact .same hrow (hfind.trans he)
      obtain ⟨hrow1, hown1⟩ := Store.invocationOf_eq_some ends.found
      have hother : id ≠ row1.invocationId := by
        rintro rfl
        cases hrow.symm.trans hrow1
        exact hown hown1
      have hafter := (s.journal.withEffect a.effectEntry).find?_withTerminal row1.invocationId v
        (terminal.digest env) id
      rw [if_neg hother] at hafter
      exact .same (hafter.trans hrow) (hfind.trans he)
  | toolRegistered => exact .same hrow he
  | toolConnected =>
    cases htool with
    | same hsame => exact .same (hsame.trans hrow) he
    | @rebound d r generation next priorAck row1 row' command connects effects before pending
        bound after =>
      cases hrow.symm.trans before
      obtain ⟨-, -, hphase, hrevision, -⟩ := ToolInvocationRow.rebound_eq bound
      exact ⟨row', e, after, he, .kept hphase hrevision rfl⟩
    | made command => cases command
    | moved command => cases command
    | ended command => cases command
  | toolReserved made dispatched =>
    have he' := Table.Grows.insert dispatched.inserted _ _ he
    have hrow' := Table.Grows.insert dispatched.invoked _ _ hrow
    exact .same hrow' he'
  | toolAnswered => exact .same hrow he
  | @toolMoved d r current updated e1 connection step revision toolMutations admitted moves =>
    obtain ⟨hcurrent, e', hloads⟩ := loadToolInvocation_ok_some admitted.loaded
    obtain rfl : e' = e1 := by simpa using hloads.effect.symm.trans admitted.found
    obtain ⟨hfound, hvalid, -⟩ := loadEffect_ok_some admitted.found
    obtain ⟨-, hphase, -, hrevision, -⟩ := ToolInvocationSnapshot.moved_eq moves.moved
    let moved := e'.movedTo step.effectPhase step.effectTerminal updated.revision
    have hq : moved.requestId = current.invocation.requestId :=
      (EffectJournalEntry.requestId_of_found hfound :)
    have heffect : ((d.sequenced s.journal connection).withEffect moved).effects.find?
        row.effectRequestId = _ := Journal.find?_withEffect _ moved row.effectRequestId
    have htools := Journal.find?_withTool ((d.sequenced s.journal connection).withEffect moved)
      d.invocationId updated id
    rw [TransitionToolInvocation.sequenced_effects] at heffect
    have hkept : ((d.sequenced s.journal connection).withEffect moved).toolInvocations =
        s.journal.toolInvocations := TransitionToolInvocation.sequenced_toolInvocations
    rw [hkept] at htools
    by_cases hother : id = d.invocationId
    · subst hother
      cases hrow.symm.trans hcurrent
      cases he.symm.trans hfound
      rw [if_pos rfl, hrow] at htools
      have hown : (ToolInvocationRow.of current).effectRequestId = moved.requestId := hq.symm
      rw [if_pos hown, hq, hfound] at heffect
      refine ⟨_, _, htools, heffect, .together ⟨?_, rfl⟩⟩
      change updated.phase.matches step.effectPhase = true
      rw [hphase]
      have hended := (EffectJournalEntry.isValid_iff.mp hvalid).1
      exact (ToolTransition.step_sound hloads.phase hended moves.leads).2.1
    · rw [if_neg hother] at htools
      rw [if_neg fun hown => hother (hfits.alone hrow hcurrent (hown.trans hq))] at heffect
      exact .same (htools.trans hrow) (heffect.trans he)

/-! ### All rows -/

/-- Every invocation is in step with its effect. -/
def Store.InStep (s : Store) : Prop :=
  ∀ id row, s.journal.toolInvocations.find? id = some row →
    ∃ e, s.journal.effects.find? row.effectRequestId = some e ∧ row.snapshot.InStep e

/-- A call that changes no invocation's effect behind its back. -/
def Apart (c : Command) (s : Store) : Prop :=
  ∀ q, c.changesEffect = some q → s.invocationOf q = none

instance (c : Command) (s : Store) : Decidable (Apart c s) :=
  match h : c.changesEffect with
  | none => .isTrue fun q hq => absurd (h.symm.trans hq) nofun
  | some q => decidable_of_iff (s.invocationOf q = none)
      ⟨fun hnone q' hq' => by cases h.symm.trans hq'; exact hnone, fun hapart => hapart q h⟩

/-- An invocation that is reserved is in step. -/
theorem ReserveToolInvocation.Dispatches.inStep {d : ReserveToolInvocation} {r : SessionRecord}
    {registration : ToolRegistrationSnapshot} {connection : ToolProviderConnectionSnapshot}
    {now lease : Timestamp} {v : ToolInvocationSnapshot} {effects : Table EffectJournalEntry}
    {tools : Table ToolInvocationRow} (hreserves : d.Reserves env t s r registration connection)
    (h : d.Dispatches env s now registration connection lease v effects tools) :
    ∃ e, effects.find? v.invocation.requestId = some e ∧ v.InStep e := by
  obtain ⟨-, -, hinvocation, hphase, -, hrevision, -⟩ := ToolInvocationSnapshot.new_eq h.made
  refine ⟨d.effect env registration.definition lease, ?_, ?_, hrevision.symm⟩
  · refine (Table.find?_insert h.inserted _).trans (if_pos ?_)
    exact hreserves.named.trans (congrArg ToolInvocation.requestId hinvocation.symm)
  · rw [hphase]
    rfl

/-- A call that keeps apart keeps all invocations in step. -/
theorem Store.InStep.step (h : s.InStep) (hfits : s.ToolsFit)
    (hchange : JournalChange env t s c result s'.journal) (hapart : Apart c s) : s'.InStep := by
  intro id row' hrow'
  obtain ⟨row, hrow, hcontinues⟩ | ⟨d, r, registration, connection, lease, v, -, hreserves,
    hdispatches, rfl⟩ := (hchange.tool id).continues hrow'
  · obtain ⟨e, he, hphase, hrevision⟩ := h id row hrow
    obtain ⟨row1, e', hrow1, he', hstep⟩ := hchange.pair hfits hrow he
    cases hrow'.symm.trans hrow1
    rw [(hcontinues.identity (hfits.rows hrow).columns).1]
    refine ⟨e', he', ?_⟩
    cases hstep with
    | kept hphase' hrevision' heffect =>
      rw [heffect]
      exact ⟨hphase'.symm ▸ hphase, hrevision.trans hrevision'.symm⟩
    | alone command =>
      -- the row is the invocation of the effect
      have hnone := List.find?_eq_none.mp (hapart _ command) row (Table.mem_of_find? hrow)
      simp at hnone
    | together hin => exact hin
  · exact hdispatches.inStep hreserves

/-- In a run of calls that keep apart, all invocations are in step. -/
theorem ReachableIf.inStep (h : ReachableIf env (fun _ c s => Apart c s) s) : s.InStep := by
  refine ReachableIf.rec' (P := Store.InStep) (fun _ _ h => by cases h)
    (fun s s' hs hin hstep => ?_) h
  cases hstep with
  | call t c hapart => exact hin.step hs.tools (exec_journal hs.sound t c) hapart

/-- An effect that moves alone is out of step. -/
theorem Store.InStep.not_withEffect (hin : s.InStep)
    (hrow : s.journal.toolInvocations.find? row.invocationId = some row)
    (hown : row.effectRequestId = q) (hj : s'.journal = j)
    (htools : j.toolInvocations = s.journal.toolInvocations)
    (heffects : j.effects = (s.journal.withEffect e2).effects)
    (hfound : s.journal.effects.find? q = some e1) (hid : e2.requestId = e1.requestId)
    (hnext : e1.revision.next = some e2.revision) : ¬ s'.InStep := by
  intro hafter
  subst hown hj
  have hq : e2.requestId = row.effectRequestId :=
    hid.trans (EffectJournalEntry.requestId_of_found hfound)
  obtain ⟨e, he, -, hrevision⟩ := hin _ row hrow
  cases he.symm.trans hfound
  obtain ⟨e', he', -, hrevision'⟩ := hafter _ row (htools ▸ hrow)
  rw [heffects, Journal.find?_withEffect, if_pos hq.symm, hq, hfound] at he'
  cases he'
  have hget := Revision.next_get hnext
  change e2.revision = _ at hrevision'
  rw [hrevision', ← hrevision] at hget
  omega

/-- A call that is applied and does not keep apart puts the invocation out of step. -/
theorem not_inStep_of_applied (hfits : s.ToolsFit) (hin : s.InStep) (hapart : ¬ Apart c s)
    (happlied : result.isApplied = true) (hchange : JournalChange env t s c result s'.journal) :
    ¬ s'.InStep := by
  obtain ⟨q, hq, row, hinvocation⟩ :
      ∃ q, c.changesEffect = some q ∧ ∃ row, s.invocationOf q = some row := by
    by_contra hnone
    refine hapart fun q hq => ?_
    by_contra hsome
    exact hnone ⟨q, hq, Option.ne_none_iff_exists'.mp hsome⟩
  obtain ⟨hrow, hown⟩ := Store.invocationOf_eq_some hinvocation
  obtain ⟨e, he, -⟩ := (hfits.rows hrow).effect
  generalize hj : s'.journal = j at hchange
  cases hchange with
  | same idle =>
    have hjournal : c.isJournal = true := by
      cases c <;> first | rfl | cases hq
    obtain ⟨a, ha⟩ := Result.exists_applied happlied
    exact absurd ha (idle hjournal a)
  | effectReserved made =>
    cases hq
    rw [hown] at he
    cases (Table.insert?_fresh made.inserted).symm.trans he
  | effectLapsed made =>
    cases hq
    exact hin.not_withEffect hrow hown hj rfl rfl made.found rfl made.next
  | effectMoved made =>
    cases hq
    exact hin.not_withEffect hrow hown hj rfl rfl made.found rfl made.next
  | effectTaken made =>
    cases hq
    obtain ⟨e3, htaken, heq⟩ := made.taken
    refine hin.not_withEffect hrow hown hj rfl rfl made.found ?_ made.next
    rw [heq]
    exact (TakeoverEffect.taken_requestId htaken :)
  | _ => cases hq

/-! ### Reading invocations -/

/-- An invocation that is in step can be read. -/
theorem Store.InStep.load_ne_corrupt (hin : s.InStep) (hs : Reachable env s)
    (id : ToolInvocationId) : loadToolInvocation s id ≠ .error .corrupt := by
  rcases hrow : s.journal.toolInvocations.find? id with _ | row
  · simp [loadToolInvocation, hrow]
  obtain ⟨e, he, hstep⟩ := hin id row hrow
  rw [loadToolInvocation_eq hs hrow he, if_pos hstep]
  simp

/-- Invocations that are in step can be read, if they are not too many. -/
theorem loadToolInvocations_eq (hs : Reachable env s) (hin : s.InStep)
    {rows : List ToolInvocationRow} (hrows : ∀ r ∈ rows, r ∈ s.journal.toolInvocations) :
    loadToolInvocations s rows =
      if rows.length ≤ maxToolInvocationsListed then .ok (rows.map ToolInvocationRow.snapshot)
      else .error .invalid := by
  have hload : ∀ r ∈ rows, loadToolInvocation s r.invocationId = .ok (some r.snapshot) := by
    intro r hr
    have hfind := Table.find?_of_mem (hrows r hr)
    obtain ⟨e, he, hstep⟩ := hin _ r hfind
    exact (loadToolInvocation_eq hs hfind he).trans (if_pos hstep)
  have hall : (rows.mapM fun r => do
      need (← loadToolInvocation s r.invocationId) StoreError.corrupt) =
        .ok (rows.map ToolInvocationRow.snapshot) := by
    refine (result_mapM_ok (p := fun _ => True) fun r hr b => ?_).mpr ⟨rfl, fun _ _ => trivial⟩
    simp [hload r hr]
  unfold loadToolInvocations check
  split
  · exact hall
  · rfl

theorem listRecoverableToolInvocations_ne_corrupt (hs : Reachable env s) (hin : s.InStep)
    (k : SessionId) : listRecoverableToolInvocations s k ≠ .error .corrupt := by
  unfold listRecoverableToolInvocations
  rw [loadToolInvocations_eq hs hin fun r hr => ?_]
  · split <;> simp
  · exact List.mem_of_mem_filter ((List.mem_insertionSort _).mp hr)

/-- The invocations a provider may have to be sent again. -/
def Store.replayRows (s : Store) (sessionId : SessionId) (providerId : ToolProviderId)
    (after : ℕ) : List ToolInvocationRow :=
  (s.journal.toolInvocations.rows.filter fun r => r.sessionId = sessionId &&
    r.providerId = providerId && (r.isPending || decide (after < r.serverSequence))).insertionSort
      fun a b => a.serverSequence ≤ b.serverSequence

/-- What `list_provider_replay` returns of invocations that are in step. -/
theorem listProviderReplay_eq (hs : Reachable env s) (hin : s.InStep) {k : SessionId}
    {p : ToolProviderId} {after : ℕ} :
    listProviderReplay s k p after =
      if i64Bound ≤ after then .error .corrupt
      else if (s.replayRows k p after).length ≤ maxToolInvocationsListed then
        .ok ((s.replayRows k p after).map ToolInvocationRow.snapshot)
      else .error .invalid := by
  have hmem : ∀ r ∈ s.replayRows k p after, r ∈ s.journal.toolInvocations ∧
      r.sessionId = k ∧ r.providerId = p := by
    intro r hr
    obtain ⟨hr, hp⟩ := List.mem_filter.mp ((List.mem_insertionSort _).mp hr)
    simp only [Bool.and_eq_true] at hp
    exact ⟨hr, of_decide_eq_true hp.1.1, of_decide_eq_true hp.1.2⟩
  have hload := loadToolInvocations_eq hs hin fun r hr => (hmem r hr).1
  have hsame : ∀ v ∈ (s.replayRows k p after).map ToolInvocationRow.snapshot,
      v.invocation.sessionId = k ∧ v.dispatch.providerId = p := by
    intro v hv
    obtain ⟨r, hr, rfl⟩ := List.mem_map.mp hv
    obtain ⟨hr, hsession, hprovider⟩ := hmem r hr
    have hcolumns := (hs.tools.rows (Table.find?_of_mem hr)).columns
    rw [hcolumns] at hsession hprovider
    exact ⟨hsession, hprovider⟩
  unfold listProviderReplay check
  change ((if after < i64Bound then _ else _) >>= fun _ =>
    loadToolInvocations s (s.replayRows k p after) >>= _) = _
  rw [hload]
  by_cases hafter : i64Bound ≤ after
  · rw [if_pos hafter, if_neg (not_lt.mpr hafter)]
    rfl
  rw [if_neg hafter, if_pos (not_le.mp hafter)]
  split
  · exact result_bind_ok.mpr ⟨(), rfl, result_bind_ok.mpr ⟨_, rfl,
      result_bind_ok.mpr ⟨(), if_pos hsame, rfl⟩⟩⟩
  · rfl

/-- **Invocations move with their effects**, in every run in which no effect of an invocation
is reserved again, moved or taken over by a call of the effect journal; they can then be read,
one by one and in lists.  From a state in which they are in step, a call that is applied keeps
them in step exactly if it is no such call. -/
theorem tools_move_with_their_effects (env : Env) :
    (∀ s, ReachableIf env (fun _ c s => Apart c s) s → s.InStep ∧
      (∀ id, loadToolInvocation s id ≠ .error .corrupt) ∧
      (∀ k, listRecoverableToolInvocations s k ≠ .error .corrupt) ∧
      ∀ k p after, listProviderReplay s k p after = .error .corrupt ↔ i64Bound ≤ after) ∧
    ∀ s, Reachable env s → s.InStep → ∀ t c, (exec env t c s).1.isApplied = true →
      ((exec env t c s).2.InStep ↔ Apart c s) := by
  refine ⟨fun s h => ?_, fun s hs hin t c happlied => ⟨fun hafter => ?_, fun hapart =>
    hin.step hs.tools (exec_journal hs.sound t c) hapart⟩⟩
  · have hs := h.reachable
    have hin := h.inStep
    refine ⟨hin, hin.load_ne_corrupt hs, listRecoverableToolInvocations_ne_corrupt hs hin,
      fun k p after => ?_⟩
    rw [listProviderReplay_eq hs hin]
    split
    · simp [*]
    · split <;> simp [*]
  · by_contra hapart
    exact not_inStep_of_applied hs.tools hin hapart happlied (exec_journal hs.sound t c) hafter

namespace Sample

/-- A tool is invoked, and has not been started when the lease of its effect lapses. -/
def invoked : Store :=
  calls world [(seconds 1, .reserveToolInvocation (reserveTool 20))] tooled

/-- The owner takes over the effect of the invocation. -/
def takeover : TakeoverEffect := ⟨request 21, id 20, epoch, .initial, ⟨5000000000⟩, 9⟩

theorem invoked_reachable : Reachable world invoked :=
  tooled_reachable.trans (run_calls _ _)

end Sample

open Sample

/-- An invocation that is reserved can be read, and stays so when it is started. -/
theorem tools_move_with_their_effects_invoked :
    (invoked.journal.toolInvocations.find? (Sample.id 20)).isSome = true ∧
    invoked.InStep ∧
    (exec world (seconds 2) (.transitionToolInvocation ⟨request 21,
      Sample.id 20, epoch, .initial, .start, Sample.id 0, Sample.id 0, 1, Sample.id 20, 1⟩)
      invoked).2.InStep := by
  have hinvoked : ReachableIf world (fun _ c s => Apart c s) invoked := by
    iterate 6 refine ReachableIf.calls ?_ (by simp [Apart, Command.changesEffect])
    exact .refl
  obtain ⟨hall, hstep⟩ := tools_move_with_their_effects world
  obtain ⟨hin, -⟩ := hall _ hinvoked
  refine ⟨by decide +kernel, hin, (hstep _ hinvoked.reachable hin _ _ (by decide +kernel)).mpr ?_⟩
  simp [Apart, Command.changesEffect]

/-- **An invocation out of step**: the effect of a tool is taken over as any effect is, and the
invocation cannot be read any more. -/
theorem taken_over_invocation_is_corrupt :
    ∃ s, Reachable world s ∧ ¬ s.InStep ∧ loadToolInvocation s (Sample.id 20) = .error .corrupt ∧
      listRecoverableToolInvocations s session = .error .corrupt ∧
      listProviderReplay s session (Sample.id 0) 0 = .error .corrupt := by
  have hreachable : Reachable world (exec world (seconds 7) (.takeoverEffect takeover) invoked).2 :=
    invoked_reachable.trans (.single (.call _ _))
  have hcorrupt : ∀ s ∈ [(exec world (seconds 7) (.takeoverEffect takeover) invoked).2],
      loadToolInvocation s (Sample.id 20) = .error .corrupt ∧
        listRecoverableToolInvocations s session = .error .corrupt ∧
        listProviderReplay s session (Sample.id 0) 0 = .error .corrupt := by
    decide +kernel
  obtain ⟨hload, hlists⟩ := hcorrupt _ (List.mem_singleton.mpr rfl)
  exact ⟨_, hreachable, fun hin => hin.load_ne_corrupt hreachable _ hload, hload, hlists⟩

end Navigator
