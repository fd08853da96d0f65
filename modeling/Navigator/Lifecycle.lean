/-
The life of operations.

An operation is begun, advances, and ends; five calls write operations, each in its own
way, but each as an advance (`OperationSnapshot.Advances`) of one that has not ended.

* **`operation_lifecycle_is_kept`** — in every run, and across every call.
-/
import Navigator.Legibility

namespace Navigator

variable {env : Env} {s s' : Store}

/-- How many operations of a participant have no outcome. -/
def Store.unfinishedCount (s : Store) (participantId : ParticipantId) : ℕ :=
  s.operations.rows.countP fun row => decide (row.snapshot.participantId = participantId) &&
    row.snapshot.terminalOutcome.isNone

/-- **The lifecycle of operations is kept.**  In every state of every run a participant has at
most one operation without an outcome, an operation has an outcome if and only if it has
ended, and the one its state says, and it waits for a message if and only if its state says
so; a step gives an operation one new revision and no earlier time, or leaves it alone; a new
operation is queued; and what has ended stays as it is. -/
theorem operation_lifecycle_is_kept (hs : Reachable env s) :
    (∀ participantId, s.unfinishedCount participantId ≤ 1) ∧
    (∀ row ∈ s.operations,
      (row.snapshot.terminalOutcome.isSome = true ↔ row.snapshot.state.isTerminal = true) ∧
      (∀ outcome ∈ row.snapshot.terminalOutcome, outcome.state = row.snapshot.state) ∧
      (row.snapshot.waitingOnMessageId.isSome = true ↔ row.snapshot.state = .waiting)) ∧
    (∀ s', Step env s s' → ∀ row ∈ s.operations, ∃ row',
      s'.operations.find? row.snapshot.operationId = some row' ∧
      (row' = row ∨ row'.snapshot.revision.get = row.snapshot.revision.get + 1 ∧
        row.snapshot.updatedAt ≤ row'.snapshot.updatedAt)) ∧
    (∀ s', Step env s s' → ∀ row' ∈ s'.operations,
      s.operations.find? row'.snapshot.operationId = none → row'.snapshot.state = .queued) ∧
    (∀ s', Run env s s' → ∀ row ∈ s.operations, row.snapshot.state.isTerminal = true →
      row ∈ s'.operations) := by
  have hsound := hs.sound
  refine ⟨fun participantId => ?_, fun row hrow => ?_, fun s' hstep row hrow => ?_,
    fun s' hstep row' hrow' hnew => ?_, fun s' hrun row hrow hended => ?_⟩
  · refine Table.countP_le_one fun row hrow row' hrow' hlive hlive' => ?_
    simp only [Bool.and_eq_true, decide_eq_true_eq, Option.isNone_iff_eq_none] at hlive hlive'
    exact hsound.alone row hrow row' hrow' hlive.2 hlive'.2 (hlive.1.trans hlive'.1.symm)
  · have hread := (hsound.operations row hrow).readable
    refine ⟨by rw [hread.terminal], hread.outcome, ?_⟩
    rw [hread.waiting, decide_eq_true_eq]
  · obtain ⟨row', hrow', rfl | ⟨-, hadvances⟩⟩ := (hstep.operations hsound).old row hrow
    · exact ⟨row', hrow', .inl rfl⟩
    · exact ⟨row', hrow', .inr ⟨Revision.next_get hadvances.revised, hadvances.later⟩⟩
  · exact (hstep.operations hsound).new row' hrow' hnew
  · obtain ⟨row', hrow', hprecedes⟩ :=
      (Run.follows hsound hrun).operations _ row (Table.find?_of_mem hrow)
    rw [← hprecedes.ended hended]
    exact Table.mem_of_find? hrow'

/-- The operation of a participant at work is its only one without an outcome. -/
theorem operation_lifecycle_is_kept_working :
    Sample.working.unfinishedCount Sample.root = 1 ∧
    ∀ participantId, Sample.working.unfinishedCount participantId ≤ 1 := by
  obtain ⟨hone, -⟩ := operation_lifecycle_is_kept Sample.working_reachable
  exact ⟨by decide +kernel, hone⟩

end Navigator
