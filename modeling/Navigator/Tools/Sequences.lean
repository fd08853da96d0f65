/-
The sequence numbers of a provider.

Each invocation is dispatched under the next sequence number of its provider's connection,
and so is its cancellation, if there is one.  The number is taken by two different calls, so
that each is used once is an invariant that links the connection's counter with the rows
(`Reachable.sequenced`).  When a provider connects again, it says up to which number it has
seen everything; what it says is checked against the rows, and what was acknowledged stays so
(`Reachable.acknowledged`).
-/
import Navigator.Tools.LockStep

namespace Navigator

open Txn Tx

variable {env : Env} {s s' : Store} {t : Timestamp} {c : Command}
variable {d : TransitionToolInvocation} {current : ToolInvocationSnapshot} {row : ToolInvocationRow}
variable {r : ToolInvocationRow} {q : ℕ} {v updated : ToolInvocationSnapshot}
  {e : EffectJournalEntry} {result : Result}
variable {k : SessionId} {p : ToolProviderId} {j : Journal} {x : SessionId × ToolProviderId}
  {connection : ToolProviderConnectionSnapshot} {step : ToolStep}
  {toolMutations : Table ToolMutationRow}

/-! ### Numbers in use -/

/-- The sequence numbers of an invocation: that of its dispatch, and that of its cancellation. -/
def ToolInvocationRow.sequences (r : ToolInvocationRow) : List ℕ :=
  r.serverSequence :: r.cancellationServerSequence.toList

/-- Whether an invocation is of a session and a provider. -/
def ToolInvocationRow.isAt (r : ToolInvocationRow) (k : SessionId) (p : ToolProviderId) : Bool :=
  r.sessionId = k && r.providerId = p

theorem ToolInvocationRow.isAt_iff : r.isAt k p = true ↔ (r.sessionId, r.providerId) = (k, p) := by
  unfold isAt
  rw [Bool.and_eq_true, Prod.mk.injEq]
  exact and_congr decide_eq_true_iff decide_eq_true_iff

/-- The sequence numbers in use at a provider. -/
def Journal.sequences (j : Journal) (k : SessionId) (p : ToolProviderId) : List ℕ :=
  (j.toolInvocations.rows.filter (·.isAt k p)).flatMap ToolInvocationRow.sequences

/-- The next sequence number of a provider. -/
def Journal.nextSequence (j : Journal) (k : SessionId) (p : ToolProviderId) : ℕ :=
  ((j.toolConnections.find? (k, p)).map ToolProviderConnectionSnapshot.nextServerSequence).getD 1

/-- How often an invocation uses a sequence number of a provider. -/
def ToolInvocationRow.uses (k : SessionId) (p : ToolProviderId) (q : ℕ) (r : ToolInvocationRow) :
    ℕ :=
  if r.isAt k p then r.sequences.count q else 0

theorem Journal.count_sequences (j : Journal) (k : SessionId) (p : ToolProviderId) (q : ℕ) :
    (j.sequences k p).count q = j.toolInvocations.total (ToolInvocationRow.uses k p q) := by
  rw [sequences, List.count_flatMap]
  exact (j.toolInvocations.total_ite (·.isAt k p) fun r => r.sequences.count q).symm

/-- How the numbers of a provider change: not at all, or the next one is taken. -/
inductive SequenceStep (j j' : Journal) (k : SessionId) (p : ToolProviderId) : Prop
  | same (uses : ∀ q, j'.toolInvocations.total (ToolInvocationRow.uses k p q) =
        j.toolInvocations.total (ToolInvocationRow.uses k p q))
      (next : j'.nextSequence k p = j.nextSequence k p)
  | taken (uses : ∀ q, j'.toolInvocations.total (ToolInvocationRow.uses k p q) =
        j.toolInvocations.total (ToolInvocationRow.uses k p q) +
          if q = j.nextSequence k p then 1 else 0)
      (next : j'.nextSequence k p = j.nextSequence k p + 1)

theorem Journal.find?_advanced (hconnection : j.toolConnections.find? x = some connection)
    (y : SessionId × ToolProviderId) :
    (j.advanced connection).toolConnections.find? y =
      if x = y then some connection.advance else j.toolConnections.find? y :=
  Table.find?_replaced (r := connection.advance) hconnection (Table.key_of_find? hconnection :) y

/-- A provider that is sent something takes its next number; the others take none. -/
theorem SequenceStep.of_advanced {j' : Journal}
    (hconnection : j.toolConnections.find? x = some connection)
    (hconnections : j'.toolConnections = (j.advanced connection).toolConnections)
    (huses : ∀ q, j'.toolInvocations.total (ToolInvocationRow.uses k p q) =
      j.toolInvocations.total (ToolInvocationRow.uses k p q) +
        if x = (k, p) then if q = connection.nextServerSequence then 1 else 0 else 0) :
    SequenceStep j j' k p := by
  have hfind := Journal.find?_advanced hconnection (k, p)
  rw [← hconnections] at hfind
  by_cases hx : x = (k, p)
  · subst hx
    have hcurrent : j.nextSequence k p = connection.nextServerSequence := by
      rw [Journal.nextSequence, hconnection]
      rfl
    refine .taken (fun q => ?_) ?_
    · rw [huses, if_pos rfl, hcurrent]
    · rw [Journal.nextSequence, hfind, if_pos rfl, hcurrent]
      rfl
  · rw [if_neg hx] at hfind
    refine .same (fun q => ?_) ?_
    · rw [huses, if_neg hx, add_zero]
    · rw [Journal.nextSequence, hfind]
      rfl

/-- A connection takes over the counter of the one before it. -/
theorem ConnectToolProvider.prior_next {d : ConnectToolProvider} {generation next priorAck : ℕ}
    {prior : Option ToolProviderConnectionSnapshot}
    (h : d.prior prior = .ok (generation, next, priorAck)) :
    generation = (prior.map ToolProviderConnectionSnapshot.generation).getD 0 + 1 ∧
      next = (prior.map ToolProviderConnectionSnapshot.nextServerSequence).getD 1 ∧
      priorAck = (prior.map ToolProviderConnectionSnapshot.acknowledgedServerSequence).getD 0 := by
  obtain _ | previous := prior
  · cases h
    exact ⟨rfl, rfl, rfl⟩
  simp only [ConnectToolProvider.prior, result_bind_ok, check_ok, result_pure_ok,
    Prod.mk.injEq] at h
  obtain ⟨_, -, _, -, rfl, rfl, rfl⟩ := h
  exact ⟨rfl, rfl, rfl⟩

/-- An invocation that has no cancellation has no number for it. -/
theorem ToolInvocationSnapshot.cancellation_none (h : v.dispatch.cancellationId = none) :
    v.dispatch.cancellationServerSequence = none := by
  have hvalid := v.valid.1
  simp only [ToolDispatchSnapshot.structurallyValid, Bool.and_eq_true] at hvalid
  have hsome := hvalid.1.2
  rw [h] at hsome
  cases hq : v.dispatch.cancellationServerSequence with
  | none => rfl
  | some q =>
    rw [hq] at hsome
    cases hsome

/-- To bind invocations to another connection uses no number. -/
theorem Journal.uses_rebound (j : Journal) (sessionId : SessionId) (providerId : ToolProviderId)
    (connectionId : ToolConnectionId) (generation : ℕ) (k : SessionId) (p : ToolProviderId)
    (q : ℕ) :
    (j.rebound sessionId providerId connectionId generation).toolInvocations.total
        (ToolInvocationRow.uses k p q) =
      j.toolInvocations.total (ToolInvocationRow.uses k p q) := by
  unfold rebound Table.total Table.rewrite
  rw [List.map_map]
  refine congrArg List.sum (List.map_congr_left fun row hrow => ?_)
  change (if _ then _ else _ : ToolInvocationRow).uses k p q = row.uses k p q
  split
  · rcases hbound : row.rebound connectionId generation with _ | row'
    · rfl
    obtain ⟨-, hrow', -⟩ := ToolInvocationRow.rebound_eq hbound
    rw [Option.getD_some, hrow']
    rfl
  · rfl

/-- An invocation is dispatched under the next number. -/
theorem ReserveToolInvocation.Dispatches.sequenced {d : ReserveToolInvocation} {r : SessionRecord}
    {registration : ToolRegistrationSnapshot} {now lease : Timestamp}
    {effects : Table EffectJournalEntry} {toolInvocations : Table ToolInvocationRow}
    (hreserves : d.Reserves env t s r registration connection)
    (h : d.Dispatches env s now registration connection lease v effects toolInvocations)
    (k : SessionId) (p : ToolProviderId) :
    SequenceStep s.journal { s.journal.advanced connection with effects, toolInvocations } k p := by
  obtain ⟨-, -, hinvocation, -, -, -, hdispatch⟩ := ToolInvocationSnapshot.new_eq h.made
  refine .of_advanced hreserves.connected rfl fun q => ?_
  have hsequences : (ToolInvocationRow.of v).sequences = [connection.nextServerSequence] := by
    simp [ToolInvocationRow.sequences, ToolInvocationRow.of, hdispatch,
      ReserveToolInvocation.dispatch]
  have hat : (ToolInvocationRow.of v).isAt k p = true ↔
      (d.invocation.sessionId, d.providerId) = (k, p) := by
    rw [ToolInvocationRow.isAt_iff, ToolInvocationRow.of, hinvocation, hdispatch,
      ReserveToolInvocation.dispatch]
  rw [add_comm]
  refine (Table.total_insert h.invoked _).trans (congrArg (· + _) ?_)
  simp only [ToolInvocationRow.uses, hsequences, List.count_singleton, hat, beq_iff_eq,
    eq_comm (a := q)]

theorem TransitionToolInvocation.journal_toolInvocations :
    (d.journal j e connection step updated toolMutations).toolInvocations =
      j.toolInvocations.modify d.invocationId (·.movedTo updated) (fun _ => rfl) := by
  unfold journal sequenced
  split <;> rfl

theorem TransitionToolInvocation.dispatched_cancel (h : d.transition.isCancel = true) :
    (d.dispatched env current connection).cancellationServerSequence =
      some connection.nextServerSequence := by
  unfold dispatched
  cases htransition : d.transition with
  | requestCancel => rfl
  | _ =>
    rw [htransition] at h
    cases h

theorem TransitionToolInvocation.dispatched_keeps (h : d.transition.isCancel = false) :
    (d.dispatched env current connection).cancellationServerSequence =
        current.dispatch.cancellationServerSequence ∧
      (d.dispatched env current connection).cancellationId = current.dispatch.cancellationId := by
  unfold dispatched
  cases htransition : d.transition with
  | requestCancel =>
    rw [htransition] at h
    cases h
  | _ => exact ⟨rfl, rfl⟩

/-- A transition takes the next number if it is a cancellation, and no number otherwise. -/
theorem TransitionToolInvocation.Moves.sequences {r : SessionRecord} {revision : Revision}
    (hadmits : d.Admits t s r current e connection)
    (h : d.Moves env s current e connection step revision updated) (k : SessionId)
    (p : ToolProviderId) :
    SequenceStep s.journal (d.journal s.journal e connection step updated toolMutations) k p := by
  obtain ⟨hrow, -⟩ := loadToolInvocation_ok_some hadmits.loaded
  obtain ⟨-, -, -, -, hdispatch⟩ := ToolInvocationSnapshot.moved_eq h.moved
  have huses : ∀ q, (d.journal s.journal e connection step updated
      toolMutations).toolInvocations.total (ToolInvocationRow.uses k p q) +
        (ToolInvocationRow.of current).uses k p q =
      s.journal.toolInvocations.total (ToolInvocationRow.uses k p q) +
        ((ToolInvocationRow.of current).movedTo updated).uses k p q := by
    intro q
    rw [TransitionToolInvocation.journal_toolInvocations]
    exact Table.total_modify hrow _ _
  have hconnections : (d.journal s.journal e connection step updated
      toolMutations).toolConnections = (d.sequenced s.journal connection).toolConnections := rfl
  obtain ⟨hprovider, -⟩ := hadmits.speaks
  by_cases hcancel : d.transition.isCancel = true
  · obtain ⟨hnone, -⟩ := h.sequenced hcancel
    rw [TransitionToolInvocation.sequenced, if_pos hcancel] at hconnections
    have hbefore : current.dispatch.cancellationServerSequence = none :=
      ToolInvocationSnapshot.cancellation_none hnone
    have hafter : updated.dispatch.cancellationServerSequence =
        some connection.nextServerSequence := by
      rw [hdispatch]
      exact TransitionToolInvocation.dispatched_cancel hcancel
    have hat : (ToolInvocationRow.of current).isAt k p = true ↔
        (current.invocation.sessionId, d.providerId) = (k, p) := by
      rw [ToolInvocationRow.isAt_iff, hprovider]
      rfl
    refine .of_advanced hadmits.connected hconnections fun q => ?_
    have hone : ((ToolInvocationRow.of current).movedTo updated).uses k p q =
        (ToolInvocationRow.of current).uses k p q +
          if (current.invocation.sessionId, d.providerId) = (k, p) then
            if q = connection.nextServerSequence then 1 else 0
          else 0 := by
      have hat' : ((ToolInvocationRow.of current).movedTo updated).isAt k p =
          (ToolInvocationRow.of current).isAt k p := rfl
      have hold : (ToolInvocationRow.of current).sequences = [current.dispatch.serverSequence] := by
        simp [ToolInvocationRow.sequences, ToolInvocationRow.of, hbefore]
      have hnew : ((ToolInvocationRow.of current).movedTo updated).sequences =
          [current.dispatch.serverSequence, connection.nextServerSequence] := by
        simp [ToolInvocationRow.sequences, ToolInvocationRow.movedTo, ToolInvocationRow.of, hafter]
      simp only [ToolInvocationRow.uses, hat', hat, hold, hnew, List.count_cons, List.count_nil,
        zero_add, beq_iff_eq, eq_comm (a := q)]
      split <;> omega
    have htotal := huses q
    rw [hone] at htotal
    omega
  · rw [TransitionToolInvocation.sequenced, if_neg hcancel] at hconnections
    have hsame : updated.dispatch.cancellationServerSequence =
        current.dispatch.cancellationServerSequence := by
      rw [hdispatch]
      exact (TransitionToolInvocation.dispatched_keeps (by simpa using hcancel)).1
    refine .same (fun q => ?_) (by rw [Journal.nextSequence, hconnections]; rfl)
    have heq : ((ToolInvocationRow.of current).movedTo updated).uses k p q =
        (ToolInvocationRow.of current).uses k p q := by
      simp only [ToolInvocationRow.uses, ToolInvocationRow.sequences, ToolInvocationRow.movedTo,
        hsame]
      rfl
    have := huses q
    omega

/-- **A call takes the next number of a provider or none.** -/
theorem JournalChange.sequences (h : JournalChange env t s c result j) (k : SessionId)
    (p : ToolProviderId) : SequenceStep s.journal j k p := by
  cases h with
  | @effectResolved d r e g a j effectMutations free owner grounds leaves =>
    obtain ⟨-, -, rfl⟩ | ⟨row, terminal, v, ends, rfl⟩ := leaves
    · exact .same (fun _ => rfl) rfl
    obtain ⟨hrow, -⟩ := Store.invocationOf_eq_some ends.found
    refine .same (fun q => ?_) rfl
    have htotal := Table.total_modify hrow
      (f := fun r => { r with snapshot := v, terminalDigest := some (terminal.digest env) })
      (fun _ => rfl) (ToolInvocationRow.uses k p q)
    exact Nat.add_right_cancel htotal
  | @toolConnected d r generation next priorAck made =>
    refine .same (fun q => Journal.uses_rebound _ _ _ _ _ _ _ _) ?_
    · obtain ⟨-, hnext, -⟩ := ConnectToolProvider.prior_next made.prior
      have hfind := s.journal.toolConnections.find?_upsert (d.snapshot
        (ToolRegistrationId.sorted d.registrationIds) generation next (max r.timeFloor t)) (k, p)
      unfold Journal.nextSequence
      change ((Table.find? (s.journal.toolConnections.upsert _) (k, p)).map _).getD 1 = _
      rw [hfind]
      split
      · next hkey =>
        have hkey' : (d.sessionId, d.providerId) = (k, p) := hkey
        rw [← hkey']
        exact hnext
      · rfl
  | toolReserved made dispatched => exact dispatched.sequenced made k p
  | toolMoved admitted moves => exact moves.sequences admitted k p
  | _ => exact .same (fun _ => rfl) rfl

/-- **Each number below the next is in use once, and no other**, in every run. -/
theorem Reachable.sequenced (h : Reachable env s) (k : SessionId) (p : ToolProviderId) :
    1 ≤ s.journal.nextSequence k p ∧ ∀ q, (s.journal.sequences k p).count q =
      if 1 ≤ q ∧ q < s.journal.nextSequence k p then 1 else 0 := by
  simp only [Journal.count_sequences]
  refine Reachable.rec' (P := fun s => 1 ≤ s.journal.nextSequence k p ∧ ∀ q,
    s.journal.toolInvocations.total (ToolInvocationRow.uses k p q) =
      if 1 ≤ q ∧ q < s.journal.nextSequence k p then 1 else 0) ?_ ?_ h
  · refine ⟨Nat.le_refl 1, fun q => ?_⟩
    rw [if_neg]
    · rfl
    · change ¬ (1 ≤ q ∧ q < 1)
      omega
  · intro s s' hs ⟨hone, huses⟩ hstep
    cases hstep with
    | call t c =>
      have hchange : JournalChange env t s c _ _ := exec_journal hs.sound t c
      obtain ⟨huses', hnext⟩ | ⟨huses', hnext⟩ := hchange.sequences k p
      · rw [hnext]
        exact ⟨hone, fun q => (huses' q).trans (huses q)⟩
      rw [hnext]
      refine ⟨by omega, fun q => (huses' q).trans ?_⟩
      rw [huses q]
      split_ifs <;> omega

theorem Reachable.sequence_pos (h : Reachable env s) {id : ToolInvocationId}
    (hrow : s.journal.toolInvocations.find? id = some row) (hq : q ∈ row.sequences) :
    1 ≤ q ∧ q < s.journal.nextSequence row.sessionId row.providerId := by
  have hmem : q ∈ s.journal.sequences row.sessionId row.providerId :=
    List.mem_flatMap.mpr ⟨row, List.mem_filter.mpr ⟨Table.mem_of_find? hrow,
      ToolInvocationRow.isAt_iff.mpr rfl⟩, hq⟩
  have hcount := (h.sequenced row.sessionId row.providerId).2 q
  have hpos := List.count_pos_iff.mpr hmem
  by_contra hnot
  rw [if_neg hnot] at hcount
  omega

/-! ### Numbers that are acknowledged -/

/-- Whether an invocation is settled or is to be cancelled. -/
def ToolInvocationRow.isDone (r : ToolInvocationRow) : Bool :=
  r.snapshot.phase.isSettled || r.snapshot.dispatch.cancellationId.isSome

/-- A number of an invocation that is settled or is to be cancelled. -/
def Journal.Discharged (j : Journal) (k : SessionId) (p : ToolProviderId) (q : ℕ) : Prop :=
  ∃ row ∈ j.toolInvocations, row.isAt k p = true ∧ q ∈ row.sequences ∧ row.isDone = true

/-- An invocation that is settled or is to be cancelled stays so, under its numbers. -/
theorem ToolOutcome.done {id : ToolInvocationId} (h : ToolOutcome env t s c id j)
    (hrow : s.journal.toolInvocations.find? id = some row) (hcolumns : row = .of row.snapshot)
    (hdone : row.isDone = true) :
    ∃ row', j.toolInvocations.find? id = some row' ∧ row'.sessionId = row.sessionId ∧
      row'.providerId = row.providerId ∧ row'.sequences = row.sequences ∧ row'.isDone = true := by
  unfold ToolInvocationRow.isDone at hdone ⊢
  rw [Bool.or_eq_true] at hdone
  cases h with
  | same hsame => exact ⟨row, hsame.trans hrow, rfl, rfl, rfl, by rwa [Bool.or_eq_true]⟩
  | made _ _ _ absent => cases absent.symm.trans hrow
  | rebound _ _ _ before _ bound after =>
    cases hrow.symm.trans before
    obtain ⟨-, hrow', hphase, -, hdispatch⟩ := ToolInvocationRow.rebound_eq bound
    refine ⟨_, after, by rw [hrow'], by rw [hrow'], by rw [hrow']; rfl, ?_⟩
    rw [Bool.or_eq_true, hphase, hdispatch]
    exact hdone
  | @moved d r row updated effect connection step revision _ _ admitted moves _ before after =>
    cases hrow.symm.trans before
    -- an invocation that moves is not settled, so it is to be cancelled, and is not again
    have hcancelled := hdone.resolve_left (by simp [moves.unsettled])
    have hcancel : d.transition.isCancel = false := by
      by_contra hcancel
      rw [(moves.sequenced (by simpa using hcancel)).1] at hcancelled
      cases hcancelled
    obtain ⟨-, -, -, -, hdispatch⟩ := ToolInvocationSnapshot.moved_eq moves.moved
    obtain ⟨hsequence, hid⟩ :
        (d.dispatched env row.snapshot connection).cancellationServerSequence =
            row.snapshot.dispatch.cancellationServerSequence ∧
          (d.dispatched env row.snapshot connection).cancellationId =
            row.snapshot.dispatch.cancellationId :=
      TransitionToolInvocation.dispatched_keeps hcancel
    refine ⟨_, after, rfl, rfl, ?_, ?_⟩
    · rw [← hdispatch] at hsequence
      have hsame : updated.dispatch.cancellationServerSequence =
          row.cancellationServerSequence := by
        rw [hsequence, hcolumns]
        rfl
      simp only [ToolInvocationRow.sequences, ToolInvocationRow.movedTo, hsame]
    · rw [Bool.or_eq_true]
      refine .inr ?_
      change updated.dispatch.cancellationId.isSome = true
      rw [hdispatch, hid]
      exact hcancelled
  | @ended d r e g a row terminal v _ _ ends _ before after =>
    cases hrow.symm.trans before
    obtain ⟨-, -, hdispatch, -⟩ := ends.continues
    refine ⟨_, after, rfl, rfl, rfl, ?_⟩
    rw [Bool.or_eq_true]
    refine .inr ?_
    change v.dispatch.cancellationId.isSome = true
    rw [hdispatch]
    exact hdone.resolve_left (by simp [ends.uncertain, ToolInvocationPhase.isSettled])

theorem JournalChange.discharged (h : JournalChange env t s c result j) (hfits : s.ToolsFit)
    (hq : s.journal.Discharged k p q) : j.Discharged k p q := by
  obtain ⟨row, hmem, hat, hq, hdone⟩ := hq
  have hrow := Table.find?_of_mem hmem
  obtain ⟨row', hrow', hsession, hprovider, hsequences, hdone'⟩ :=
    (h.tool _).done hrow (hfits.rows hrow).columns hdone
  refine ⟨row', Table.mem_of_find? hrow', ?_, hsequences ▸ hq, hdone'⟩
  rw [ToolInvocationRow.isAt_iff] at hat ⊢
  rw [hsession, hprovider]
  exact hat

/-- A number of the durable prefix is of an invocation that is settled or is to be cancelled. -/
theorem ToolInvocationRow.mem_settledSequences {after : ℕ} (hcolumns : row = .of row.snapshot)
    (hq : q ∈ row.settledSequences after) :
    q ∈ row.sequences ∧ q ≤ after ∧ row.isDone = true := by
  unfold settledSequences at hq
  rcases List.mem_append.mp hq with hq | hq
  · split at hq
    · next hsettled =>
      obtain rfl := List.mem_singleton.mp hq
      refine ⟨List.mem_cons_self, hsettled.1, ?_⟩
      rw [isDone, Bool.or_eq_true]
      exact hsettled.2
    · cases hq
  · obtain ⟨hq, hle⟩ := List.mem_filter.mp hq
    refine ⟨List.mem_cons_of_mem _ hq, of_decide_eq_true hle, ?_⟩
    rw [isDone, Bool.or_eq_true]
    refine .inr ?_
    by_contra hnone
    have hsequence : row.snapshot.dispatch.cancellationServerSequence = none :=
      ToolInvocationSnapshot.cancellation_none (by simpa using hnone)
    rw [hcolumns] at hq
    change q ∈ row.snapshot.dispatch.cancellationServerSequence.toList at hq
    rw [hsequence] at hq
    cases hq

/-- A durable prefix of the right length has every number. -/
theorem Reachable.discharged_of_prefix (h : Reachable env s) {after : ℕ}
    (hlength : (s.durablePrefix k p after).length = after) (hone : 1 ≤ q) (hq : q ≤ after) :
    s.journal.Discharged k p q := by
  have hmem : ∀ x ∈ s.durablePrefix k p after, ∃ row ∈ s.journal.toolInvocations,
      row.isAt k p = true ∧ x ∈ row.settledSequences after := by
    intro x hx
    obtain ⟨row, hrow, hx⟩ := List.mem_flatMap.mp
      ((List.mem_insertionSort _).mp (List.mem_dedup.mp hx))
    obtain ⟨hrow, hat⟩ := List.mem_filter.mp hrow
    exact ⟨row, hrow, hat, hx⟩
  have hsub : s.durablePrefix k p after ⊆ List.range' 1 after := by
    intro x hx
    obtain ⟨row, hrow, -, hx⟩ := hmem x hx
    have hfind := Table.find?_of_mem hrow
    obtain ⟨hx, hle, -⟩ := ToolInvocationRow.mem_settledSequences (h.tools.rows hfind).columns hx
    have hpos := (h.sequence_pos hfind hx).1
    exact List.mem_range'_1.mpr ⟨hpos, by omega⟩
  have hnodup : (s.durablePrefix k p after).Nodup := List.nodup_dedup _
  have hperm : (s.durablePrefix k p after).Perm (List.range' 1 after) :=
    (hnodup.subperm hsub).perm_of_length_le (by rw [List.length_range', hlength])
  obtain ⟨row, hrow, hat, hx⟩ := hmem q (hperm.mem_iff.mpr (List.mem_range'_1.mpr ⟨hone, by omega⟩))
  obtain ⟨hx, -, hdone⟩ := ToolInvocationRow.mem_settledSequences
    (h.tools.rows (Table.find?_of_mem hrow)).columns hx
  exact ⟨row, hrow, hat, hx, hdone⟩

/-! ### Connections -/

/-- What a connection is known by, and how far it has acknowledged. -/
def ToolProviderConnectionSnapshot.state (c : ToolProviderConnectionSnapshot) :
    ToolConnectionId × ℕ × ℕ :=
  (c.connectionId, c.generation, c.acknowledgedServerSequence)

/-- How the connection of a provider changes: not at all but for its counter, or by a connect
that is applied. -/
inductive ConnectionStep (t : Timestamp) (s : Store) (c : Command) (result : Result)
    (j : Journal) (k : SessionId) (p : ToolProviderId) : Prop
  | kept (state : (j.toolConnections.find? (k, p)).map ToolProviderConnectionSnapshot.state =
        (s.journal.toolConnections.find? (k, p)).map ToolProviderConnectionSnapshot.state)
      (other : ∀ d, c = .connectToolProvider d → result.isApplied = true →
        (d.sessionId, d.providerId) ≠ (k, p))
  | connected {d : ConnectToolProvider} {r : SessionRecord} {generation next priorAck : ℕ}
      (command : c = .connectToolProvider d) (applied : result.isApplied = true)
      (own : (d.sessionId, d.providerId) = (k, p))
      (connects : d.Connects t s r generation next priorAck)
      (found : j.toolConnections.find? (k, p) = some (d.snapshot
        (ToolRegistrationId.sorted d.registrationIds) generation next (max r.timeFloor t)))

/-- To take a number changes a connection in nothing else. -/
theorem Journal.state_advanced (hconnection : j.toolConnections.find? (k, p) = some connection)
    (k' : SessionId) (p' : ToolProviderId) :
    ((j.advanced connection).toolConnections.find? (k', p')).map
        ToolProviderConnectionSnapshot.state =
      (j.toolConnections.find? (k', p')).map ToolProviderConnectionSnapshot.state := by
  rw [Journal.find?_advanced hconnection]
  split
  · next heq =>
    rw [← heq, hconnection]
    rfl
  · rfl

/-- **How a call changes a connection.** -/
theorem JournalChange.connectionStep (h : JournalChange env t s c result j) (k : SessionId)
    (p : ToolProviderId) : ConnectionStep t s c result j k p := by
  cases h with
  | same idle =>
    refine .kept rfl ?_
    rintro d rfl happlied
    obtain ⟨a, ha⟩ := Result.exists_applied happlied
    exact absurd ha (idle rfl a)
  | effectResolved _ _ _ leaves =>
    obtain ⟨-, -, rfl⟩ | ⟨_, _, _, -, rfl⟩ := leaves
    all_goals exact .kept rfl (by rintro _ ⟨⟩)
  | @toolConnected d r generation next priorAck made =>
    have hfind := s.journal.toolConnections.find?_upsert (d.snapshot
      (ToolRegistrationId.sorted d.registrationIds) generation next (max r.timeFloor t)) (k, p)
    by_cases hown : (d.sessionId, d.providerId) = (k, p)
    · exact .connected rfl rfl hown made (hfind.trans (if_pos hown))
    refine .kept (congrArg (Option.map _) (hfind.trans (if_neg hown))) ?_
    intro d' hd' _
    cases hd'
    exact hown
  | toolReserved made => exact .kept (Journal.state_advanced made.connected k p) (by rintro _ ⟨⟩)
  | @toolMoved d r current updated e connection step revision toolMutations admitted moves =>
    refine .kept ?_ (by rintro _ ⟨⟩)
    unfold TransitionToolInvocation.journal TransitionToolInvocation.sequenced
    split
    · exact Journal.state_advanced admitted.connected k p
    · rfl
  | _ => exact .kept rfl (by rintro _ ⟨⟩)

/-- The number of times a provider has been connected. -/
def Journal.generation (j : Journal) (k : SessionId) (p : ToolProviderId) : ℕ :=
  ((j.toolConnections.find? (k, p)).map ToolProviderConnectionSnapshot.generation).getD 0

/-- The number up to which a provider has acknowledged everything. -/
def Journal.acknowledged (j : Journal) (k : SessionId) (p : ToolProviderId) : ℕ :=
  ((j.toolConnections.find? (k, p)).map
    ToolProviderConnectionSnapshot.acknowledgedServerSequence).getD 0

section State

variable {j j' : Journal} {k : SessionId} {p : ToolProviderId}
  (h : (j'.toolConnections.find? (k, p)).map ToolProviderConnectionSnapshot.state =
    (j.toolConnections.find? (k, p)).map ToolProviderConnectionSnapshot.state)
include h

theorem Journal.generation_of_state : j'.generation k p = j.generation k p := by
  have hgeneration := congrArg (fun x => (x.map fun state => state.2.1).getD 0) h
  simp only [Option.map_map] at hgeneration
  exact hgeneration

theorem Journal.acknowledged_of_state : j'.acknowledged k p = j.acknowledged k p := by
  have hacknowledged := congrArg (fun x => (x.map fun state => state.2.2).getD 0) h
  simp only [Option.map_map] at hacknowledged
  exact hacknowledged

end State

/-- **What is acknowledged is below the next number, and settled or to be cancelled**, in every
run. -/
theorem Reachable.acknowledged (h : Reachable env s) (k : SessionId) (p : ToolProviderId) :
    s.journal.acknowledged k p < s.journal.nextSequence k p ∧
      ∀ q, 1 ≤ q → q ≤ s.journal.acknowledged k p → s.journal.Discharged k p q := by
  refine Reachable.rec' (P := fun s => s.journal.acknowledged k p < s.journal.nextSequence k p ∧
    ∀ q, 1 ≤ q → q ≤ s.journal.acknowledged k p → s.journal.Discharged k p q)
    ⟨Nat.one_pos, fun q hone hq => absurd hone (not_le_of_gt (Nat.lt_succ_of_le hq))⟩ ?_ h
  intro s s' hs ⟨hbelow, hdischarged⟩ hstep
  cases hstep with
  | call t c =>
    have hchange : JournalChange env t s c _ _ := exec_journal hs.sound t c
    cases hchange.connectionStep k p with
    | kept hstate =>
      have hnext : s.journal.nextSequence k p ≤ (exec env t c s).2.journal.nextSequence k p := by
        cases hchange.sequences k p with
        | same _ hnext => exact hnext.ge
        | taken _ hnext => exact hnext.ge.trans' (Nat.le_succ _)
      rw [Journal.acknowledged_of_state hstate]
      exact ⟨hbelow.trans_le hnext,
        fun q hone hq => hchange.discharged hs.tools (hdischarged q hone hq)⟩
    | @connected d r generation next priorAck command applied own connects found =>
      obtain ⟨rfl, rfl⟩ := Prod.mk.inj own
      obtain ⟨-, -, hprior⟩ := ConnectToolProvider.prior_next connects.prior
      simp only [Journal.acknowledged, Journal.nextSequence, found, Option.map_some,
        Option.getD_some]
      refine ⟨connects.acknowledges.2, fun q hone hq => hchange.discharged hs.tools ?_⟩
      have hq : q ≤ d.afterServerSequence := hq
      -- either the provider acknowledges more than before, which is checked, or as much
      by_cases hmore : priorAck < d.afterServerSequence
      · exact hs.discharged_of_prefix (connects.settled hmore).1 hone hq
      · exact hdischarged q hone ((hq.trans (not_lt.mp hmore)).trans hprior.le)

/-- The connection a call makes for a provider. -/
def Command.connects (c : Command) (k : SessionId) (p : ToolProviderId) :
    Option ToolConnectionId :=
  match c with
  | .connectToolProvider d =>
    if (d.sessionId, d.providerId) = (k, p) then some d.connectionId else none
  | _ => none

theorem Command.connects_eq_some {id : ToolConnectionId} :
    c.connects k p = some id ↔ ∃ d, c = .connectToolProvider d ∧
      (d.sessionId, d.providerId) = (k, p) ∧ d.connectionId = id := by
  constructor
  · intro h
    unfold Command.connects at h
    split at h
    · next d =>
      split at h
      · next hown =>
        cases h
        exact ⟨d, rfl, hown, rfl⟩
      · cases h
    · cases h
  · rintro ⟨d, rfl, hown, rfl⟩
    exact if_pos hown

/-- A transition is applied under the connection of its provider. -/
theorem transition_connection (hs : Sound s)
    (h : (exec env t (.transitionToolInvocation d) s).1.isApplied = true) :
    ∃ row connection, s.journal.toolInvocations.find? d.invocationId = some row ∧
      s.journal.toolConnections.find? (row.sessionId, row.providerId) = some connection ∧
      d.providerId = row.providerId ∧ d.connectionId = connection.connectionId ∧
      d.connectionGeneration = connection.generation := by
  have hchange : JournalChange env t s (.transitionToolInvocation d) _ _ := exec_journal hs t _
  generalize (exec env t (.transitionToolInvocation d) s).1 = result at hchange h
  generalize (exec env t (.transitionToolInvocation d) s).2.journal = j at hchange
  cases hchange with
  | same idle =>
    obtain ⟨a, ha⟩ := Result.exists_applied h
    exact absurd ha (idle rfl a)
  | toolAnswered => cases h
  | @toolMoved d r current updated e connection step revision toolMutations admitted moves =>
    obtain ⟨hrow, -⟩ := loadToolInvocation_ok_some admitted.loaded
    obtain ⟨hprovider, -, -, -, -, hid, hgeneration⟩ := admitted.speaks
    refine ⟨.of current, connection, hrow, ?_, hprovider, hid.symm, hgeneration.symm⟩
    have hconnected := admitted.connected
    rwa [hprovider] at hconnected

/-- **The sequence protocol of a provider.**  The numbers of dispatches and cancellations are
those below the next, each once; what is acknowledged is below the next, and of invocations
that are settled or to be cancelled.  A call that is applied and connects the provider adds
one to the generation and gives the connection, every other call keeps both; no call takes an
acknowledgement back; and a transition is applied only under the provider's connection. -/
theorem providers_follow_the_sequence_protocol (hs : Reachable env s) (k : SessionId)
    (p : ToolProviderId) :
    (s.journal.sequences k p).Perm (List.range' 1 (s.journal.nextSequence k p - 1)) ∧
    s.journal.acknowledged k p < s.journal.nextSequence k p ∧
    (∀ q, 1 ≤ q → q ≤ s.journal.acknowledged k p → s.journal.Discharged k p q) ∧
    ∀ t c, (∀ id, (exec env t c s).1.isApplied = true → c.connects k p = some id →
        ((exec env t c s).2.journal.toolConnections.find? (k, p)).map
          ToolProviderConnectionSnapshot.connectionId = some id ∧
        (exec env t c s).2.journal.generation k p = s.journal.generation k p + 1) ∧
      ((exec env t c s).1.isApplied = false ∨ c.connects k p = none →
        ((exec env t c s).2.journal.toolConnections.find? (k, p)).map
          ToolProviderConnectionSnapshot.connectionId =
        (s.journal.toolConnections.find? (k, p)).map ToolProviderConnectionSnapshot.connectionId ∧
        (exec env t c s).2.journal.generation k p = s.journal.generation k p) ∧
      s.journal.acknowledged k p ≤ (exec env t c s).2.journal.acknowledged k p ∧
      ∀ d, c = .transitionToolInvocation d → (exec env t c s).1.isApplied = true →
        ∃ row connection, s.journal.toolInvocations.find? d.invocationId = some row ∧
          s.journal.toolConnections.find? (row.sessionId, row.providerId) = some connection ∧
          d.providerId = row.providerId ∧ d.connectionId = connection.connectionId ∧
          d.connectionGeneration = connection.generation := by
  obtain ⟨hone, hcount⟩ := hs.sequenced k p
  obtain ⟨hbelow, hdischarged⟩ := hs.acknowledged k p
  refine ⟨?_, hbelow, hdischarged, fun t c => ?_⟩
  · rw [List.perm_iff_count]
    intro q
    rw [hcount q, (List.nodup_range' (s := 1) (n := s.journal.nextSequence k p - 1)).count]
    simp only [List.mem_range'_1]
    split_ifs <;> omega
  · have hchange : JournalChange env t s c _ _ := exec_journal hs.sound t c
    refine ⟨fun id happlied hid => ?_, fun hother => ?_, ?_, ?_⟩
    · obtain ⟨d, rfl, hown, rfl⟩ := Command.connects_eq_some.mp hid
      obtain ⟨_, other⟩ | ⟨command, _, _, connects, found⟩ := hchange.connectionStep k p
      · exact absurd hown (other d rfl happlied)
      cases command
      obtain ⟨hgeneration, -⟩ := ConnectToolProvider.prior_next connects.prior
      rw [hown] at hgeneration
      simp only [Journal.generation, found, Option.map_some, Option.getD_some]
      exact ⟨rfl, hgeneration⟩
    · obtain hstate | ⟨command, applied, own⟩ := hchange.connectionStep k p
      · have hid := congrArg (Option.map Prod.fst) hstate
        simp only [Option.map_map] at hid
        exact ⟨hid, Journal.generation_of_state hstate⟩
      have hid := Command.connects_eq_some.mpr ⟨_, command, own, rfl⟩
      rcases hother with hnot | hnone
      · cases applied.symm.trans hnot
      · cases hid.symm.trans hnone
    · cases hchange.connectionStep k p with
      | kept hstate => exact (Journal.acknowledged_of_state hstate).ge
      | @connected d r generation next priorAck command _ own connects found =>
        obtain ⟨-, -, hprior⟩ := ConnectToolProvider.prior_next connects.prior
        have hle := connects.acknowledges.1
        rw [hprior, own] at hle
        simp only [Journal.acknowledged, found, Option.map_some, Option.getD_some]
        exact hle
    · rintro d rfl happlied
      exact transition_connection hs.sound happlied

namespace Sample

/-- The invocation is to be cancelled, and the provider connects again and acknowledges that. -/
def reconnected : Store :=
  calls world [(seconds 2, .transitionToolInvocation ⟨request 25, id 20, epoch, .initial,
      .requestCancel (id 0), id 0, id 0, 1, id 20, 1⟩),
    (seconds 2, .connectToolProvider
      ⟨request 26, session, epoch, openSession.consumerKey, id 0, id 1, 2, [id 0]⟩)] invoked

theorem reconnected_reachable : Reachable world reconnected :=
  invoked_reachable.trans (run_calls _ _)

end Sample

open Sample in
/-- An invocation under the first number, cancelled under the second; both are acknowledged. -/
theorem providers_follow_the_sequence_protocol_invoked :
    reconnected.journal.sequences session (id 0) = [1, 2] ∧
    reconnected.journal.generation session (id 0) = 2 ∧
    reconnected.journal.acknowledged session (id 0) = 2 ∧
    (reconnected.journal.sequences session (id 0)).Perm
      (List.range' 1 (reconnected.journal.nextSequence session (id 0) - 1)) ∧
    reconnected.journal.Discharged session (id 0) 2 := by
  have hacknowledged : reconnected.journal.acknowledged session (id 0) = 2 := by decide +kernel
  obtain ⟨hperm, -, hdischarged, -⟩ :=
    providers_follow_the_sequence_protocol reconnected_reachable session (id 0)
  exact ⟨by decide +kernel, by decide +kernel, hacknowledged, hperm,
    hdischarged 2 (by decide) hacknowledged.ge⟩

end Navigator
