/-
What is left on the way to work that has ended.

When an operation ends by `transitionOperation`, the messages on their way to it are
retired.  Two calls do not look after this: `cancelSubtree` ends operations and leaves their
messages where they are, and `enqueueMessage` accepts a message for an operation that has
ended.

* **`finished_operations_are_quiet`** — where neither happens, nothing is on its way to an
  operation that has ended.
-/
import Navigator.Cancellation

namespace Navigator

open Txn Tx

variable {env : Env} {s s' : Store}
variable {m : MessageSnapshot} {row : OperationRow} {c : Command} {t time : Timestamp}

/-! ### Idle operations -/

/-- No message for the operation is on its way to the participant. -/
def Store.Idle (s : Store) (k : OperationId) (p : ParticipantId) : Prop :=
  ∀ m ∈ s.messages.rows, m.destination = p → m.snapshot.correlation.operationId = some k →
    m.snapshot.state.isTerminal = true

instance {k : OperationId} {p : ParticipantId} : Decidable (s.Idle k p) := by
  unfold Store.Idle
  infer_instance

/-- A deed that queues no message for an idle operation leaves it idle. -/
theorem Store.Idle.deed {k : OperationId} {p : ParticipantId} {l : Label} (h : s.Idle k p)
    (hd : Deed env l s s')
    (hl : ∀ m, l = .queued m → m.destination = p → m.correlation.operationId ≠ some k) :
    s'.Idle k p := by
  rcases hd.frame.messages with hd | ⟨hmessages, -⟩
  · intro x hx hdestination hcorrelation
    cases hd with
    | @queued _ m _ _ inserted =>
      rcases (Table.mem_insert inserted).mp hx with rfl | hx
      · exact absurd hcorrelation (hl m rfl hdestination)
      · exact h x hx hdestination hcorrelation
    | @moved _ r j m' now found readable touched moves =>
      rcases (Store.mem_messages_replace found).mp hx with rfl | ⟨hx, -⟩
      · -- it was on its way before
        have hbefore := h r (Table.mem_of_find? found) hdestination
          ((congrArg (·.correlation.operationId) touched.same).symm.trans hcorrelation)
        rw [moves.live.1] at hbefore
        cases hbefore
      · exact h x hx hdestination hcorrelation
    | finished found readable live touched finishes =>
      rcases (Store.mem_messages_replace found).mp hx with rfl | ⟨hx, -⟩
      · exact finishes.ended
      · exact h x hx hdestination hcorrelation
  · unfold Store.Idle
    rw [hmessages]
    exact h

/-- Operations that have ended are idle, but for those excepted. -/
def Store.QuietBut (s : Store) (excepted : OperationId → Prop) : Prop :=
  ∀ row ∈ s.operations, ¬ excepted row.snapshot.operationId → row.snapshot.state.isTerminal = true →
    s.Idle row.snapshot.operationId row.snapshot.participantId

/-- Operations that have ended are idle. -/
abbrev Store.Quiet (s : Store) : Prop := s.QuietBut fun _ => False

/-- A message that is harmless is not for an operation that has ended. -/
theorem Store.Harmless.apart (h : s.Harmless m) (hs : Sound s) (hrow : row ∈ s.operations)
    (hended : row.snapshot.state.isTerminal = true)
    (hdestination : m.destination = row.snapshot.participantId) :
    m.correlation.operationId ≠ some row.snapshot.operationId := by
  intro hcorrelation
  have hnone := h row hrow hcorrelation hdestination.symm
  have hterminal := (hs.operations row hrow).readable.terminal
  rw [hnone, hended] at hterminal
  cases hterminal

/-- **Deeds keep quiet** if they queue no message for an operation that has ended, and end
none that is not excepted. -/
theorem Store.QuietBut.deed {excepted : OperationId → Prop} {l : Label}
    (h : s.QuietBut excepted) (hs : Sound s) (hd : Deed env l s s')
    (hqueued : ∀ m, l = .queued m → s.Harmless m)
    (hadvanced : ∀ o o', l = .advanced o o' → o'.state.isTerminal = true →
      excepted o.operationId) : s'.QuietBut excepted := by
  intro row hrow hexcepted hended
  -- an operation that has ended had ended before
  have hbefore : row ∈ s.operations := by
    rcases hd.frame.operations with hd | hoperations
    · cases hd with
      | began inserted alone queued =>
        rcases (Table.mem_insert inserted).mp hrow with rfl | hrow
        · rw [queued] at hended
          cases hended
        · exact hrow
      | @advanced _ old o' now found advances =>
        rcases (Store.mem_operations_replace found advances.operationId).mp hrow with
          rfl | ⟨hrow, -⟩
        · refine absurd (hadvanced _ _ rfl hended) ?_
          rw [← advances.operationId]
          exact hexcepted
        · exact hrow
    · rwa [hoperations] at hrow
  refine (h row hbefore hexcepted hended).deed hd fun m hm hdestination => ?_
  exact (hqueued m hm).apart hs hbefore hended hdestination

/-! ### Calls -/

/-- The call leaves nothing on the way to an operation that has ended: a message that is
enqueued is not for one, and no operation that a cancellation ends has messages. -/
def Command.Tidy (s : Store) : Command → Prop
  | .enqueueMessage c => ∀ row ∈ s.operations.rows,
      c.correlation.operationId = some row.snapshot.operationId →
      row.snapshot.participantId = c.destination → row.snapshot.state.isTerminal = false
  | .cancelSubtree c => ∀ k ∈ c.operations s, s.fate c.sessionId k = .ended →
      ∀ row ∈ s.operations.find? k, s.Idle k row.snapshot.participantId
  | _ => True

instance {c : Command} : Decidable (c.Tidy s) := by
  unfold Command.Tidy
  split <;> infer_instance

/-- What a tidy call posts is harmless. -/
theorem Command.posts_harmless (hs : Sound s) (htidy : c.Tidy s) (h : c.posts s m) :
    s.Harmless m := by
  cases c with
  | enqueueMessage c =>
    obtain ⟨hdestination, hcorrelation, -⟩ := h
    intro row hrow hid hparticipant
    have hlive := htidy row hrow (hcorrelation ▸ hid) (hparticipant.trans hdestination)
    have hterminal := (hs.operations row hrow).readable.terminal
    rw [hlive] at hterminal
    simpa using hterminal
  | applyHierarchyEffect c => exact h.2.1
  | _ => exact h.elim

/-- Calls that end no operation. -/
theorem exec_quiet_of_ends (hs : Sound s) (hquiet : s.Quiet) (htidy : c.Tidy s)
    (hends : ∀ k, ¬ c.ends k) : (exec env t c s).2.Quiet := by
  have hpath : Path env (c.Permits env t s) s _ := exec_path hs t c
  refine (hpath.keeps (I := fun s1 => Sound s1 ∧ s1.Quiet)
    (fun s1 s2 l hl hd ⟨hs1, hq⟩ => ⟨hd.sound hs1, hq.deed hs1 hd ?_ ?_⟩) ⟨hs, hquiet⟩).2
  · rintro m rfl
    rcases hl with hserves | ⟨hoperations, hposts⟩
    · exact hserves.harmless
    · have hharmless := c.posts_harmless hs htidy hposts
      rwa [Store.Harmless, ← hoperations] at hharmless
  · rintro o o' rfl hended
    exact absurd (hl.2 hended) (hends _)

/-- Only messages for unfinished operations are queued, and nothing else is done to messages
and operations. -/
def Serving (s : Store) : Label → Prop
  | .queued m => s.Serves m
  | .advanced .. | .moved .. | .finished .. => False
  | _ => True

theorem serving_tolerant : Tolerant (fun _ => True) Serving :=
  ⟨fun _ => trivial, fun _ => trivial, fun _ => trivial, fun _ _ _ => trivial⟩

theorem Path.quiet_of_serving (h : Path env Serving s s') (hs : Sound s) (hquiet : s.Quiet) :
    s'.Quiet := by
  refine (h.keeps (I := fun s1 => Sound s1 ∧ s1.Quiet)
    (fun s1 s2 l hl hd ⟨hs1, hq⟩ => ⟨hd.sound hs1, hq.deed hs1 hd ?_ ?_⟩) ⟨hs, hquiet⟩).2
  · rintro m rfl
    exact hl.harmless
  · rintro o o' rfl
    exact hl.elim

/-- The path of a transition to `o'`, until messages are retired. -/
def Transiting (operationId : OperationId) (o' : OperationSnapshot) : Store → Label → Prop
  | _, .advanced o o'' => o.operationId = operationId ∧ o'' = o'
  | _, .queued _ | _, .moved .. => False
  | _, _ => True

theorem Path.quietBut_of_transiting {operationId : OperationId} {o' : OperationSnapshot}
    (h : Path env (Transiting operationId o') s s') (hs : Sound s) (hquiet : s.Quiet) :
    s'.QuietBut fun k => k = operationId ∧ o'.state.isTerminal = true := by
  have hstart : s.QuietBut fun k => k = operationId ∧ o'.state.isTerminal = true :=
    fun row hrow _ => hquiet row hrow id
  refine (h.keeps (I := fun s1 => Sound s1 ∧ s1.QuietBut _)
    (fun s1 s2 l hl hd ⟨hs1, hq⟩ => ⟨hd.sound hs1, hq.deed hs1 hd ?_ ?_⟩) ⟨hs, hstart⟩).2
  · rintro m rfl
    exact hl.elim
  · rintro o o'' rfl hended
    exact ⟨hl.1, hl.2 ▸ hended⟩

/-- An operation for which no message is live is idle. -/
theorem Store.idle_of_not_live (hs : Sound s) (hrow : row ∈ s.operations) {o : OperationSnapshot}
    (hsame : row.snapshot.identity = o.identity) (h : ∀ r ∈ s.messages, r.isLiveFor o = false) :
    s.Idle row.snapshot.operationId row.snapshot.participantId := by
  simp only [OperationSnapshot.identity, OperationIdentity.mk.injEq] at hsame
  obtain ⟨hsession, hid, hparticipant, -⟩ := hsame
  intro m hm hdestination hcorrelation
  by_contra hlive
  have hmessage := (hs.messages m hm).session
  rw [hdestination, (hs.operations row hrow).session, Option.some.injEq] at hmessage
  have hfor := h m hm
  rw [← Bool.not_eq_true, MessageRow.isLiveFor_iff] at hfor
  exact hfor ⟨hmessage.symm.trans hsession, hcorrelation.trans (congrArg some hid),
    hdestination.trans hparticipant, by simpa using hlive⟩

/-- **A transition retires** the messages of the operation it ends. -/
theorem transitionOperation_quiet (hs : Sound s) (hquiet : s.Quiet) {c : TransitionOperation} :
    (exec env t (.transitionOperation c) s).2.Quiet := by
  obtain ⟨v, h⟩ | h : (∃ v, _ = Outcome.done v (exec env t (.transitionOperation c) s).2) ∨
      Path env Serving s (exec env t (.transitionOperation c) s).2 :=
    mutation_cases serving_tolerant.weaken (fun value => by simp)
      (RefusesWithin.bind (decideTransition_within serving_tolerant) fun _ => by simp)
  · obtain ⟨o', s1, hdecide, h⟩ := bind_done.mp h
    obtain ⟨r, row, hr, rfl, hrow, ho⟩ := decideTransition_done hdecide
    simp only [looks_done] at h
    obtain ⟨_, s2, hcommit, -, heq⟩ := h
    rw [← heq]
    have hP : Tolerant (fun _ => True) (Transiting c.operationId o') :=
      ⟨fun _ => trivial, fun _ => trivial, fun _ => trivial, fun _ _ _ => trivial⟩
    have hfloor : Path env (Transiting c.operationId o') s _ := withFloor_path hP hr.found t
    obtain ⟨s3, hpath, hlive, hrest⟩ := commitTransition_stages hP (hfloor.sound hs)
      ⟨Table.key_of_find? hrow, rfl⟩ (fun _ _ _ _ _ => trivial) hrow ho hr.floorOf
      (le_max_right _ _) hcommit
    have hpath := hfloor.trans hpath
    have hs3 := hpath.sound hs
    refine (hrest Serving serving_tolerant.weaken fun _ _ h => h).quiet_of_serving hs3 ?_
    intro row3 hrow3 _ hended
    have hbut := hpath.quietBut_of_transiting hs hquiet row3 hrow3
    by_cases hexcepted : row3.snapshot.operationId = c.operationId ∧ o'.state.isTerminal = true
    · obtain ⟨hid, hover⟩ := hexcepted
      obtain ⟨row', hrow', hprecedes⟩ := hpath.follows.operations _ row hrow
      obtain rfl : row' = row3 := by
        rw [← hid] at hrow'
        exact Option.some.inj (hrow'.symm.trans (Table.find?_of_mem hrow3))
      refine Store.idle_of_not_live hs3 hrow3 (hprecedes.same.trans ho.advances.same.symm)
        (hlive ?_)
      have hterminal := ho.advances.readable.terminal
      rw [hover] at hterminal
      rintro hnone
      rw [hnone] at hterminal
      cases hterminal
    · exact hbut hexcepted hended
  · exact h.quiet_of_serving hs hquiet

/-- What a cancellation leaves is quiet if the operations it ends were idle. -/
theorem Swept.leaves_quiet {c : CancelSubtree} {now : Timestamp} (hquiet : s.Quiet)
    (htidy : (Command.cancelSubtree c).Tidy s) {t : Store}
    (hsame : s.operations.Evolves OperationRow.Precedes t.operations)
    (h : Swept env c (c.begun s now) (c.operations s) t) : t.Quiet := by
  intro row hrow _ hended m hm hdestination hcorrelation
  have hfind := Table.find?_of_mem hrow
  change t.operations.find? row.snapshot.operationId = some row at hfind
  -- an operation that is not marked is as it was, or it was idle
  have hbefore : s.fate c.sessionId row.snapshot.operationId ≠ .told ∧
      s.Idle row.snapshot.operationId row.snapshot.participantId := by
    have hold : s.operations.find? row.snapshot.operationId = some row →
        s.fate c.sessionId row.snapshot.operationId ≠ .told ∧
          s.Idle row.snapshot.operationId row.snapshot.participantId := by
      intro hfound
      refine ⟨fun hfate => ?_, hquiet row (Table.mem_of_find? hfound) id hended⟩
      rw [Store.fate_of_found hfound, if_neg fun hlive => by simp [hended] at hlive] at hfate
      cases hfate
    by_cases hk : row.snapshot.operationId ∈ c.operations s
    · have hsettled := h.settled _ hk
      unfold Settled at hsettled
      split at hsettled
      · exact hold (hsettled.symm.trans hfind)
      · next hfate =>
        change s.fate c.sessionId row.snapshot.operationId = .ended at hfate
        obtain ⟨row0, hrow0, -⟩ := Store.mem_subtreeOperations hk
        obtain ⟨row', hrow', hprecedes⟩ := hsame _ row0 hrow0
        cases hfind.symm.trans hrow'
        have hparticipant : row.snapshot.participantId = row0.snapshot.participantId :=
          congrArg OperationIdentity.participantId hprecedes.same
        refine ⟨by rw [hfate]; nofun, ?_⟩
        rw [hparticipant]
        exact htidy _ hk hfate row0 hrow0
      · obtain ⟨row', hrow', hstate, -⟩ := hsettled
        cases hfind.symm.trans hrow'
        rw [hstate] at hended
        cases hended
    · exact hold ((h.others _ hk).symm.trans hfind)
  rcases h.added m hm with hm | ⟨k, hk, hnotice⟩
  · exact hbefore.2 m hm hdestination hcorrelation
  · have hid := Option.some.inj (hcorrelation.symm.trans hnotice.correlation)
    exact absurd (hid ▸ hnotice.told) hbefore.1

theorem cancelSubtree_quiet (hs : Sound s) (hquiet : s.Quiet) {c : CancelSubtree}
    (htidy : (Command.cancelSubtree c).Tidy s) : (exec env time (.cancelSubtree c) s).2.Quiet := by
  obtain ⟨r, outcome, hr, hroot, hcommit⟩ | h :
      _ ∨ Path env Serving s (exec env time (.cancelSubtree c) s).2 :=
    cancelSubtree_cases serving_tolerant.weaken
  · obtain ⟨t, ledger, hswept, heq⟩ :=
      commitCancellation_swept (c.sound_begun env hs hr hroot) hcommit
    have hoperations : s.operations.Evolves OperationRow.Precedes t.operations := by
      have hfollows : Follows s (exec env time (.cancelSubtree c) s).2 :=
        Step.follows hs (.call time (.cancelSubtree c))
      rw [show (exec env time (.cancelSubtree c) s).2 = _ from heq] at hfollows
      exact hfollows.operations
    rw [c.operations_begun] at hswept
    rw [show (exec env time (.cancelSubtree c) s).2 = _ from heq]
    have hleft := hswept.leaves_quiet hquiet htidy hoperations
    exact fun row hrow => hleft row hrow
  · exact h.quiet_of_serving hs hquiet

/-- **Tidy calls keep quiet.** -/
theorem exec_quiet (hs : Sound s) (hquiet : s.Quiet) (htidy : c.Tidy s) :
    (exec env t c s).2.Quiet := by
  cases c with
  | transitionOperation c => exact transitionOperation_quiet hs hquiet
  | cancelSubtree c => exact cancelSubtree_quiet hs hquiet htidy
  | _ => exact exec_quiet_of_ends hs hquiet htidy fun _ => id

/-! ### Calls that are not tidy -/

/-- A message that is enqueued is on its way. -/
theorem enqueueMessage_applied {c : EnqueueMessage} {a : Answer}
    (h : Applies env t (.enqueueMessage c) s a) :
    ∃ m ∈ (exec env t (.enqueueMessage c) s).2.messages, m.destination = c.destination ∧
      m.snapshot.correlation = c.correlation ∧ m.snapshot.state.isTerminal = false := by
  obtain ⟨v, s', heq, hbody, -⟩ := mutation_applied h
  obtain ⟨m, s1, hadmit, hbody⟩ := bind_done.mp hbody
  obtain ⟨r, hr, rfl, hsession, -, hm⟩ := admitMessage_done hadmit
  simp only [looks_done] at hbody
  obtain ⟨_, s2, hcommit, -, rfl⟩ := hbody
  obtain ⟨_, s3, hqueue, hcommit⟩ := bind_done.mp hcommit
  obtain ⟨_, s4, hevent, hrecord⟩ := bind_done.mp hcommit
  obtain ⟨messages, hinsert, -, rfl⟩ := queueMessage_done hqueue
  obtain ⟨_, -, rfl⟩ := insertLedger_done hrecord
  have haside := appendMessageEvent_within.1 _ _ _ hevent
  refine ⟨.ofSnapshot m, ?_, by rw [hm]; rfl, by rw [hm]; rfl, by rw [hm]; rfl⟩
  rw [show (exec env t (.enqueueMessage c) s).2 = _ from heq, haside.messages]
  exact (Table.mem_insert hinsert).mpr (.inl rfl)

/-- **A call that is not tidy** leaves something on the way to an operation that has ended. -/
theorem not_quiet_of_not_tidy (hs : Sound s) {a : Answer} (h : Applies env time c s a)
    (htidy : ¬ c.Tidy s) : ¬ (exec env time c s).2.Quiet := by
  have hfollows : Follows s (exec env time c s).2 := Step.follows hs (.call time c)
  intro hquiet
  cases c with
  | enqueueMessage c =>
    simp only [Command.Tidy, not_forall] at htidy
    obtain ⟨row, hrow, hcorrelation, hparticipant, hended⟩ := htidy
    have hended : row.snapshot.state.isTerminal = true := by simpa using hended
    obtain ⟨row', hrow', hprecedes⟩ := hfollows.operations _ row (Table.find?_of_mem hrow)
    obtain rfl := hprecedes.ended hended
    obtain ⟨m, hm, hdestination, hsame, hlive⟩ := enqueueMessage_applied h
    have hover := hquiet row' (Table.mem_of_find? hrow') id hended m hm
      (hdestination.trans hparticipant.symm) (hsame ▸ hcorrelation)
    rw [hlive] at hover
    cases hover
  | cancelSubtree c =>
    simp only [Command.Tidy, not_forall] at htidy
    obtain ⟨k, hk, hfate, row, hrow, hidle⟩ := htidy
    obtain ⟨r, outcome, hr, hroot, -, hcommit⟩ := cancelSubtree_applied h
    obtain ⟨t, ledger, hswept, heq⟩ :=
      commitCancellation_swept (c.sound_begun env hs hr hroot) hcommit
    rw [c.operations_begun] at hswept
    obtain ⟨row', hrow', hprecedes⟩ := hfollows.operations k row hrow
    rw [heq] at hquiet hrow'
    have hsettled := hswept.settled k hk
    unfold Settled at hsettled
    rw [show (c.begun s (max r.timeFloor time)).fate c.sessionId k = .ended from hfate] at hsettled
    obtain ⟨row1, hrow1, hstate⟩ := hsettled
    cases hrow'.symm.trans hrow1
    obtain rfl : row'.snapshot.operationId = k := Table.key_of_find? hrow1
    have hparticipant : row'.snapshot.participantId = row.snapshot.participantId :=
      congrArg OperationIdentity.participantId hprecedes.same
    have hidle' := hquiet row' (Table.mem_of_find? hrow1) id (by rw [hstate]; rfl)
    exact hidle fun m hm hdestination =>
      hidle' m (hswept.kept m hm) (hdestination.trans hparticipant.symm)
  | _ => exact htidy trivial

/-! ### Runs -/

/-- **Nothing is on its way to finished work** in a run of tidy calls: a message for an
operation that has ended, addressed to its participant, is finished too.  And tidiness is
what it takes: a call that takes effect keeps this exactly if it is tidy. -/
theorem finished_operations_are_quiet (hs : ReachableIf env (fun _ c s => c.Tidy s) s) :
    (∀ row ∈ s.operations, row.snapshot.state.isTerminal = true → ∀ m ∈ s.messages,
      m.destination = row.snapshot.participantId →
      m.snapshot.correlation.operationId = some row.snapshot.operationId →
      m.snapshot.state.isTerminal = true) ∧
    ∀ t c a, Applies env t c s a → ((exec env t c s).2.Quiet ↔ c.Tidy s) := by
  have hsound := hs.reachable.sound
  have hquiet : s.Quiet := by
    refine hs.rec' (P := Store.Quiet) ?_ fun s s' hreach hquiet hstep => ?_
    · exact fun row hrow => (Table.not_mem_empty hrow).elim
    · cases hstep with
      | call t c htidy => exact exec_quiet hreach.sound hquiet htidy
  refine ⟨fun row hrow hended => hquiet row hrow id hended, fun t c a happlied => ?_⟩
  constructor
  · intro hafter
    by_contra htidy
    exact not_quiet_of_not_tidy hsound happlied htidy hafter
  · exact exec_quiet hsound hquiet

namespace Sample

/-- The operation has failed before it was handed to its driver. -/
def failed : Store :=
  calls world [(seconds 0, .transitionOperation ⟨request 10, session, epoch, operation, .initial,
    .reportFailure, none, some (.failed ⟨"broken", by decide⟩ ⟨"broken", by decide⟩)⟩)] working

/-- The owner reminds the participant of the operation that has failed. -/
def reminded : Store :=
  calls world [(seconds 0, .enqueueMessage ⟨request 11, session, epoch, id 1, root, root,
    ⟨some operation, none⟩, ⟨.control operation .reminder⟩⟩)] failed

/-- The root of the family is cancelled. -/
def cancelled : Store := calls world [(seconds 1, .cancelSubtree cancel)] family

end Sample

open Sample

/-- The input of an operation that has failed is retired with it. -/
theorem finished_operations_are_quiet_failed :
    ∃ row ∈ failed.operations, row.snapshot.state = .failed ∧
      ∃ m ∈ failed.messages, m.destination = row.snapshot.participantId ∧
        m.snapshot.correlation.operationId = some row.snapshot.operationId ∧
        m.snapshot.state.isTerminal = true := by
  have hfailed : ReachableIf world (fun _ c s => c.Tidy s) failed := by
    iterate 3 refine ReachableIf.calls ?_ (by simp [Command.Tidy])
    exact .refl
  have hrow : ∃ row ∈ failed.operations.rows, row.snapshot.state = .failed ∧
      ∃ m ∈ failed.messages.rows, m.destination = row.snapshot.participantId ∧
        m.snapshot.correlation.operationId = some row.snapshot.operationId := by
    decide +kernel
  obtain ⟨row, hrow, hstate, m, hm, hdestination, hcorrelation⟩ := hrow
  exact ⟨row, hrow, hstate, m, hm, hdestination, hcorrelation,
    (finished_operations_are_quiet hfailed).1 row hrow (by rw [hstate]; rfl) m hm hdestination
      hcorrelation⟩

/-- A cancellation leaves the input of the operation it ends in the mailbox, and a reminder of
an operation that has failed is accepted. -/
theorem finished_operations_are_not_quiet :
    (Reachable world cancelled ∧
      ∃ row ∈ cancelled.operations.rows, row.snapshot.state = .cancelled ∧
        ∃ m ∈ cancelled.messages.rows, m.destination = row.snapshot.participantId ∧
          m.snapshot.correlation.operationId = some row.snapshot.operationId ∧
          m.snapshot.state = .queued) ∧
    Reachable world reminded ∧ ∃ row ∈ reminded.operations.rows, row.snapshot.state = .failed ∧
        ∃ m ∈ reminded.messages.rows, m.destination = row.snapshot.participantId ∧
          m.snapshot.correlation.operationId = some row.snapshot.operationId ∧
          m.snapshot.state = .queued :=
  ⟨⟨family_reachable.trans (run_calls _ _), by decide +kernel⟩,
    (working_reachable.trans (run_calls _ _)).trans (run_calls _ _), by decide +kernel⟩

end Navigator
