/-
When a subtree is cancelled.

A second operation that is ended, or a second one whose driver is told, cannot be recorded
under the request of a cancellation, and then nothing is cancelled at all.

* **`cancel_subtree_takes_effect_iff`** — when a cancellation by the owner takes effect.
-/
import Navigator.Cancellation.Loop

namespace Navigator

open Txn Tx Forest

variable {env : Env} {s s' t : Store}
variable {c : CancelSubtree} {r : SessionRecord}
variable {host : HostId} {time now : Timestamp} {outcome : CancelSubtreeOutcome}

/-! ### The state in which the loop begins -/

/-- Subtrees depend on what is said of participants when they join. -/
theorem Store.subtree_congr {k : SessionId} {root : ParticipantId}
    (h : s'.participants.rows.map (·.snapshot) = s.participants.rows.map (·.snapshot)) :
    s'.subtree k root = s.subtree k root := by
  have hlength : s'.participants.rows.length = s.participants.rows.length := by
    simpa using congrArg List.length h
  have hgeneration : ∀ (s : Store) (p : ParticipantSnapshot → Bool),
      (s.participants.rows.filter fun r => p r.snapshot).map (·.snapshot.participantId) =
        ((s.participants.rows.map (·.snapshot)).filter p).map (·.participantId) := by
    intro s p
    rw [List.filter_map, List.map_map]
    rfl
  have hdescendants : ∀ n generation,
      s'.descendants k n generation = s.descendants k n generation := by
    intro n
    induction n with
    | zero => intro _; rfl
    | succ n ih =>
      intro generation
      have hnext := fun s : Store => hgeneration s fun p =>
        decide (p.sessionId = k ∧ p.parentParticipantId.any (· ∈ generation) = true)
      simp only [Store.descendants, hnext, h, ih]
  rw [Store.subtree, hdescendants, hlength, Store.subtree]

/-- The store in which a cancellation goes through the operations. -/
def CancelSubtree.begun (c : CancelSubtree) (s : Store) (now : Timestamp) : Store :=
  (s.withFloor c.sessionId now).withCancellation
    ((s.withFloor c.sessionId now).subtree c.sessionId c.rootParticipantId)

theorem CancelSubtree.snapshots_begun (c : CancelSubtree) (s : Store) (now : Timestamp) :
    (c.begun s now).participants.rows.map (·.snapshot) =
      s.participants.rows.map (·.snapshot) := by
  simp only [begun, Store.withCancellation, Table.rewrite, List.map_map]
  exact List.map_congr_left fun r _ => r.flagged_snapshot _

theorem CancelSubtree.operations_begun (c : CancelSubtree) (s : Store) (now : Timestamp) :
    c.operations (c.begun s now) = c.operations s := by
  rw [operations, Store.subtreeOperations, Store.subtree_congr (c.snapshots_begun s now)]
  rfl

/-- The query of the loop, once participants are told to stop. -/
theorem CancelSubtree.subtreeOperations_begun (c : CancelSubtree) (s : Store) (now : Timestamp) :
    (c.begun s now).subtreeOperations c.sessionId
        ((s.withFloor c.sessionId now).subtree c.sessionId c.rootParticipantId) =
      c.operations (c.begun s now) := by
  rw [operations, Store.subtree_congr (s := s.withFloor c.sessionId now) (c.snapshots_begun s now)]

theorem CancelSubtree.Fresh.begun (h : c.Fresh env s) (now : Timestamp) :
    c.Fresh env (c.begun s now) :=
  ⟨h.ledger, h.journal, h.events, h.apart, by rw [c.operations_begun]; exact h.notices⟩

theorem CancelSubtree.Room.begun (h : c.Room env s) (now : Timestamp) :
    c.Room env (c.begun s now) where
  session := by rw [c.operations_begun]; exact h.session
  total := by rw [c.operations_begun]; exact h.total
  mailbox := by rw [c.operations_begun]; exact h.mailbox

/-- A cancellation is about the state before the call. -/
theorem CancelSubtree.separate_begun (now : Timestamp) :
    c.Separate (c.begun s now) ↔ c.Separate s := by
  constructor
  · intro h
    have hended := h.ended
    have htold := h.told
    have hnumbered := h.numbered
    rw [c.operations_begun] at hended htold hnumbered
    exact ⟨hended, htold, fun k hk => ⟨(hnumbered k hk).revision, (hnumbered k hk).sequence⟩⟩
  · intro h
    refine ⟨?_, ?_, ?_⟩ <;> rw [c.operations_begun]
    · exact h.ended
    · exact h.told
    · exact fun k hk => ⟨(h.numbered k hk).revision, (h.numbered k hk).sequence⟩

theorem CancelSubtree.sound_begun (env : Env) (hs : Sound s)
    (hr : s.Authorized c.sessionId host c.epoch time r)
    (hroot : s.participantSession c.rootParticipantId = some c.sessionId) :
    Sound (c.begun s (max r.timeFloor time)) := by
  have hfloor : Path env (fun _ _ => True) s (s.withFloor c.sessionId (max r.timeFloor time)) :=
    withFloor_path tolerant_true hr.found time
  have hflagged : Path env (fun _ _ => True) _ _ :=
    withCancellation_path tolerant_true (hfloor.sound hs) hroot
  exact hflagged.sound (hfloor.sound hs)

/-- What a cancellation has done when it is recorded. -/
theorem commitCancellation_swept (hs : Sound (c.begun s now))
    (h : commitCancellation env c (s.withFloor c.sessionId now) = .done outcome s') :
    ∃ t ledger, Swept env c (c.begun s now) (c.operations (c.begun s now)) t ∧
      s' = { t with ledger } := by
  simp only [commitCancellation, requestCancellation, looks_done] at h
  obtain ⟨now', s1, hload, h⟩ := bind_done.mp h
  obtain ⟨-, rfl⟩ := loadTimeFloor_done hload
  obtain ⟨records, t, hloop, h⟩ := bind_done.mp h
  obtain ⟨_, s3, hrecord, h⟩ := bind_done.mp h
  cases h
  obtain ⟨ledger, -, rfl⟩ := insertLedger_done hrecord
  have hrounds : collect (cancelOperation env c now') (c.operations (c.begun s now))
      (c.begun s now) = .done records t := by
    rw [← c.subtreeOperations_begun]
    exact hloop
  exact ⟨t, ledger, swept_of_collect hs hrounds, rfl⟩

/-- A cancellation whose operations are separate is recorded. -/
theorem commitCancellation_of_separate (hs : Reachable env s)
    (hr : s.Authorized c.sessionId host c.epoch time r)
    (hroot : s.participantSession c.rootParticipantId = some c.sessionId) (hfresh : c.Fresh env s)
    (hroom : c.Room env s) (hseparate : c.Separate s) :
    ∃ outcome s', commitCancellation env c (s.withFloor c.sessionId (max r.timeFloor time)) =
      .done outcome s' := by
  have hsound := c.sound_begun env hs.sound hr hroot
  have hrow : (c.begun s (max r.timeFloor time)).sessions.find? c.sessionId =
      some { r with timeFloor := max r.timeFloor time } := Store.find?_withFloor hr.found _
  have hload := loadTimeFloor_of_kept (ρ := Empty) hrow
    (hsound.sessions _ (Table.mem_of_find? hrow))
  obtain ⟨records, t, hloop⟩ := collect_of_separate (max r.timeFloor time) hsound
    (fun d => (hs.accounted d).of_eq rfl rfl) (hfresh.begun _) (hroom.begun _)
    ((c.separate_begun _).mpr hseparate)
  have hnew : t.ledger.find? c.context.requestId = none := by
    rw [(swept_of_collect hsound hloop).ledger]
    exact hfresh.ledger
  obtain ⟨s', hledger⟩ : ∃ s', record env c.sessionId c .applied
      (.cancellation ⟨c.rootParticipantId, records⟩) t = .done () s' := insertLedger_of_fresh hnew
  rw [← c.subtreeOperations_begun] at hloop
  simp only [commitCancellation, requestCancellation, looks_done]
  exact ⟨_, s', bind_done.mpr ⟨_, _, hload, bind_done.mpr ⟨records, t, hloop,
    bind_done.mpr ⟨(), s', hledger, rfl⟩⟩⟩⟩

/-- What a cancellation leaves behind: below its root every operation is finished or marked,
those it has marked have their notice, and elsewhere nothing has changed. -/
structure Cancelled (c : CancelSubtree) (s s' : Store) : Prop where
  settled : ∀ row ∈ s'.operations,
    Descends s.participants.rows c.rootParticipantId row.snapshot.participantId →
    row.snapshot.state.isTerminal = true ∨ row.snapshot.state = .cancelling
  noticed : ∀ row ∈ s.operations, ∀ row' ∈ s'.operations,
    row'.snapshot.operationId = row.snapshot.operationId → row.snapshot.state ≠ .cancelling →
    row'.snapshot.state = .cancelling →
    ∃ m ∈ s'.messages, m.sessionId = c.sessionId ∧ m.destination = row'.snapshot.participantId ∧
      m.snapshot.envelope.body = .control row'.snapshot.operationId .cancel
  operations : ∀ row : OperationRow,
    ¬ Descends s.participants.rows c.rootParticipantId row.snapshot.participantId →
    (row ∈ s'.operations ↔ row ∈ s.operations)
  participants : ∀ r : ParticipantRow,
    ¬ Descends s.participants.rows c.rootParticipantId r.snapshot.participantId →
    (r ∈ s'.participants ↔ r ∈ s.participants)
  messages : ∀ m : MessageRow, ¬ Descends s.participants.rows c.rootParticipantId m.destination →
    (m ∈ s'.messages ↔ m ∈ s.messages)

/-- The operations a cancellation goes through are those of its subtree. -/
theorem CancelSubtree.mem_operations {k : OperationId} (hs : Sound s)
    (hroot : s.participantSession c.rootParticipantId = some c.sessionId) :
    k ∈ c.operations s ↔ ∃ row, s.operations.find? k = some row ∧
      Descends s.participants.rows c.rootParticipantId row.snapshot.participantId := by
  simp only [operations, Store.subtreeOperations, List.mem_map, List.mem_insertionSort,
    List.mem_filter, decide_eq_true_eq, hs.tree.mem_subtree hroot]
  constructor
  · rintro ⟨row, ⟨hrow, -, hx⟩, rfl⟩
    exact ⟨row, Table.find?_of_mem hrow, hx⟩
  · rintro ⟨row, hrow, hx⟩
    have hmem := Table.mem_of_find? hrow
    have hsession := (hs.operations row hmem).session
    rw [(hs.tree.descends_session hroot hx).1] at hsession
    exact ⟨row, ⟨hmem, (Option.some.inj hsession).symm, hx⟩, Table.key_of_find? hrow⟩

/-- The end of the loop. -/
theorem Swept.cancelled (hs : Sound s)
    (hroot : s.participantSession c.rootParticipantId = some c.sessionId)
    (hsame : s.operations.Evolves OperationRow.Precedes t.operations)
    (h : Swept env c (c.begun s now) (c.operations s) t) : Cancelled c s t where
  settled row hrow hx := by
    have hfind := Table.find?_of_mem hrow
    by_cases hk : row.snapshot.operationId ∈ c.operations s
    · have hsettled := h.settled _ hk
      unfold Settled at hsettled
      split at hsettled
      · next hfate => exact Store.settled_of_left (hsettled.symm.trans hfind) hfate
      · obtain ⟨row', hrow', hstate⟩ := hsettled
        cases hfind.symm.trans hrow'
        exact .inl (by rw [hstate]; rfl)
      · obtain ⟨row', hrow', hstate, -⟩ := hsettled
        cases hfind.symm.trans hrow'
        exact .inr hstate
    · exact absurd ((c.mem_operations hs hroot).mpr ⟨row, (h.others _ hk).symm.trans hfind, hx⟩) hk
  noticed row hrow row' hrow' hid hbefore hafter := by
    have hfind := Table.find?_of_mem hrow
    have hfind' := Table.find?_of_mem hrow'
    change s.operations.find? row.snapshot.operationId = some row at hfind
    change t.operations.find? row'.snapshot.operationId = some row' at hfind'
    rw [← hid] at hfind
    -- what has not changed was not marked, and what has ended is not
    have hchanged : t.operations.find? row'.snapshot.operationId ≠
        s.operations.find? row'.snapshot.operationId := by
      rw [hfind, hfind']
      intro heq
      cases heq
      exact hbefore hafter
    have hk : row'.snapshot.operationId ∈ c.operations s := by
      by_contra hk
      exact hchanged (h.others _ hk)
    have hsettled := h.settled _ hk
    unfold Settled at hsettled
    split at hsettled
    · exact absurd hsettled hchanged
    · obtain ⟨row1, hrow1, hstate⟩ := hsettled
      cases hfind'.symm.trans hrow1
      rw [hafter] at hstate
      cases hstate
    · obtain ⟨row1, hrow1, -, hnotice⟩ := hsettled
      cases hfind'.symm.trans hrow1
      exact hnotice
  operations row hx := by
    by_cases hk : row.snapshot.operationId ∈ c.operations s
    · -- then the operation is below the root, before and after
      obtain ⟨row0, hrow0, hdescends⟩ := (c.mem_operations hs hroot).mp hk
      obtain ⟨row1, hrow1, hprecedes⟩ := hsame _ row0 hrow0
      have hparticipant : row1.snapshot.participantId = row0.snapshot.participantId :=
        congrArg OperationIdentity.participantId hprecedes.same
      refine ⟨fun hrow => absurd ?_ hx, fun hrow => absurd ?_ hx⟩
      · cases (Table.find?_of_mem hrow).symm.trans hrow1
        exact hparticipant ▸ hdescends
      · cases (Table.find?_of_mem hrow).symm.trans hrow0
        exact hdescends
    · have hfind := h.others _ hk
      exact ⟨fun hrow => Table.mem_of_find? (hfind.symm.trans (Table.find?_of_mem hrow)),
        fun hrow => Table.mem_of_find? (hfind.trans (Table.find?_of_mem hrow))⟩
  participants r hx := by
    have hsubtree : (s.withFloor c.sessionId now).subtree c.sessionId c.rootParticipantId =
        s.subtree c.sessionId c.rootParticipantId := Store.subtree_congr rfl
    rw [h.participants, CancelSubtree.begun, Store.withCancellation, Table.mem_rewrite, hsubtree]
    have hunflagged : ∀ r' : ParticipantRow, r'.snapshot.participantId = r.snapshot.participantId →
        r'.flagged (s.subtree c.sessionId c.rootParticipantId) = r' := by
      intro r' hr'
      rw [ParticipantRow.flagged, if_neg]
      rwa [hr', hs.tree.mem_subtree hroot]
    constructor
    · rintro ⟨r', hr', heq⟩
      have hid := congrArg (·.snapshot.participantId) heq
      rw [r'.flagged_snapshot] at hid
      rw [hunflagged r' hid] at heq
      exact heq ▸ hr'
    · exact fun hr => ⟨r, hr, hunflagged r rfl⟩
  messages m hx := by
    refine ⟨fun hm => ?_, h.kept m⟩
    rcases h.added m hm with hm | ⟨k, hk, -, ⟨row, hrow, hd⟩, -⟩
    · exact hm
    · obtain ⟨row', hrow', hdescends⟩ := (c.mem_operations hs hroot).mp hk
      cases hrow.symm.trans hrow'
      exact absurd (hd ▸ hdescends) hx

/-- A cancellation that can be written takes effect. -/
theorem cancelSubtree_of_commit (hs : Sound s)
    (howner : s.Authorized c.sessionId c.context.caller c.epoch time r)
    (hroot : s.participantSession c.rootParticipantId = some c.sessionId) (hfresh : c.Fresh env s)
    (h : commitCancellation env c (s.withFloor c.sessionId (max r.timeFloor time)) =
      .done outcome s') : Applies env time (.cancelSubtree c) s (.cancellation outcome) := by
  have hnew : replayLookup env c s = .ok none :=
    Store.replayOf_eq_none.mpr ⟨hfresh.ledger, hfresh.journal⟩
  obtain ⟨row, hrow, hsession⟩ := Option.map_eq_some_iff.mp hroot
  have hcall : cancelSubtree env time c s = .done (.applied outcome) s' := by
    refine replayOr_of_none env hnew (bind_done.mpr ⟨(), _, authorize_of_authorized
      (hs.sessions r (Table.mem_of_find? howner.found)) howner, ?_⟩)
    simp only [looks_done]
    exact ⟨some row.snapshot, hs.tree.loadParticipant hrow, congrArg some hsession, outcome, s',
      h, rfl, rfl⟩
  simp only [Applies, exec, ledgered, settle, hcall]
  rfl

/-- **When a subtree is cancelled.**  For the owner and a new request, and with room in the log
and the mailboxes, the cancellation of a subtree takes effect, and leaves behind what it
should, exactly if at most one of its operations can be ended without a driver and at most
one driver has to be told. -/
theorem cancel_subtree_takes_effect_iff (hs : Reachable env s) {time : Timestamp}
    {c : CancelSubtree} {r : SessionRecord}
    (howner : s.Authorized c.sessionId c.context.caller c.epoch time r)
    (hroot : s.participantSession c.rootParticipantId = some c.sessionId)
    (hfresh : c.Fresh env s) (hroom : c.Room env s) :
    ((∃ a, Applies env time (.cancelSubtree c) s a) ∧
      Cancelled c s (exec env time (.cancelSubtree c) s).2) ↔ c.Separate s := by
  have hsound := c.sound_begun env hs.sound howner hroot
  constructor
  · rintro ⟨⟨a, ha⟩, -⟩
    obtain ⟨r', outcome, hr', -, -, hcommit⟩ := cancelSubtree_applied ha
    cases howner.found.symm.trans hr'.found
    obtain ⟨t, ledger, hswept, -⟩ := commitCancellation_swept hsound hcommit
    rw [← c.separate_begun (max r.timeFloor time)]
    exact ⟨hswept.events.endedOnce, hswept.events.toldOnce, hswept.numbered⟩
  · intro hseparate
    obtain ⟨outcome, s', hcommit⟩ :=
      commitCancellation_of_separate hs howner hroot hfresh hroom hseparate
    have happlied := cancelSubtree_of_commit hs.sound howner hroot hfresh hcommit
    refine ⟨⟨_, happlied⟩, ?_⟩
    obtain ⟨r', outcome', hr', -, -, hcommit'⟩ := cancelSubtree_applied happlied
    cases howner.found.symm.trans hr'.found
    obtain ⟨t, ledger, hswept, heq⟩ := commitCancellation_swept hsound hcommit'
    have hoperations : s.operations.Evolves OperationRow.Precedes t.operations := by
      have hfollows : Follows s (exec env time (.cancelSubtree c) s).2 :=
        Step.follows hs.sound (.call time (.cancelSubtree c))
      rw [heq] at hfollows
      exact hfollows.operations
    rw [c.operations_begun] at hswept
    rw [heq]
    have hcancelled := hswept.cancelled hs.sound hroot hoperations
    exact ⟨hcancelled.settled, hcancelled.noticed, hcancelled.operations,
      hcancelled.participants, hcancelled.messages⟩

namespace Sample

/-- The child of the family has work of its own. -/
def busy : Store :=
  calls world [(seconds 0, .startOperation ⟨request 8, session, epoch, id 1, child, id 1, [1]⟩)]
    family

theorem busy_reachable : Reachable world busy := family_reachable.trans (run_calls _ _)

/-- A host that can cancel the work of the child owns the session. -/
theorem owner_of_cancel {s : Store} (h : (exec world (seconds 1)
    (.cancelSubtree ⟨request 21, session, epoch, child⟩) s).1.isApplied = true) :
    ∃ r, s.Authorized session hostA epoch (seconds 1) r := by
  obtain ⟨a, ha⟩ := Result.exists_applied h
  obtain ⟨r, -, hr, -⟩ := cancelSubtree_applied ha
  exact ⟨r, hr⟩

end Sample

open Sample

/-- The root of the family has the only operation, and is cancelled with it. -/
theorem cancel_subtree_takes_effect_family :
    (∃ a, Applies world (seconds 1) (.cancelSubtree cancel) family a) ∧
    Cancelled cancel family
      (exec world (seconds 1) (.cancelSubtree cancel) family).2 := by
  obtain ⟨r, howner⟩ := owner_of_cancel (s := family) (by decide +kernel)
  have hfresh : cancel.Fresh world family :=
    ⟨by decide +kernel, by decide +kernel, by decide +kernel, by decide +kernel,
      by decide +kernel⟩
  have hroom : cancel.Room world family := ⟨by decide +kernel, by decide +kernel, by decide +kernel⟩
  have hseparate : cancel.Separate family := by
    refine ⟨by decide +kernel, by decide +kernel, fun k hk => ⟨?_, ?_⟩⟩
    · revert k
      decide +kernel
    · revert k
      decide +kernel
  exact (cancel_subtree_takes_effect_iff family_reachable howner (by decide +kernel)
    hfresh hroom).mpr hseparate

/-- With two operations that have not been handed to a driver, the owner's new request is
within all limits, and fails. -/
theorem cancel_subtree_of_two_fails :
    Reachable world busy ∧
    (∃ r, busy.Authorized session hostA epoch (seconds 1) r) ∧
    busy.participantSession root = some session ∧
    cancel.Fresh world busy ∧ cancel.Room world busy ∧
    (exec world (seconds 1) (.cancelSubtree cancel) busy).1 = .error .unavailable :=
  ⟨busy_reachable, owner_of_cancel (by decide +kernel), by decide +kernel,
    ⟨by decide +kernel, by decide +kernel, by decide +kernel, by decide +kernel,
      by decide +kernel⟩,
    ⟨by decide +kernel, by decide +kernel, by decide +kernel⟩, by decide +kernel⟩

end Navigator
