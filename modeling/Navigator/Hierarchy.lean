/-
The tree of participants, and subtrees that are cancelled.

Participants join in three ways, and none of them makes more than a tree of bounded depth,
width and size in a session.  A subtree that has been cancelled is closed: below its root
everyone is told to stop, nobody joins any more, and nobody begins to work.

* **`participants_form_trees`** — the shape of the tree, in every reachable state;
* **`cancelled_subtree_is_closed`** — what holds of a subtree ever after its cancellation.
-/
import Navigator.Lifecycle

namespace Navigator

open Txn Tx Forest

variable {env : Env} {s s' : Store}
variable {t : Timestamp} {c : CancelSubtree}

/-! ### The shape of the tree -/

/-- The children of a participant are all of its own session. -/
theorem Store.Tree.children_le (h : s.Tree) (q : ParticipantId) :
    (s.participants.rows.countP fun r => r.snapshot.parentParticipantId = some q) ≤
      maxDirectChildren := by
  by_cases hnone : ∀ r ∈ s.participants, r.snapshot.parentParticipantId ≠ some q
  · rw [List.countP_eq_zero.mpr fun r hr => by simpa using hnone r hr]
    exact Nat.zero_le _
  push Not at hnone
  obtain ⟨r, hr, hparent⟩ := hnone
  obtain ⟨r', hr', rfl, -⟩ := h.ranked.child r hr q hparent
  refine le_trans (le_of_eq ?_) (h.few r'.snapshot.sessionId (Keyed.key r'))
  refine List.countP_congr fun x hx => ?_
  simp only [decide_eq_true_eq, iff_and_self]
  exact fun hx' => h.together x hx r' hr' hx'

/-- **Participants form trees.**  In every state of every run a session has at most one
participant without a parent; parents are of the same session; following parents ends at
that root after as many participants as the depth says, at most eight; nobody has more than
64 children and a session no more than 1024 participants; and what is said of a participant
when it joins is said of it ever after. -/
theorem participants_form_trees (hs : Reachable env s) :
    (∀ r ∈ s.participants, ∀ r' ∈ s.participants,
      r.snapshot.sessionId = r'.snapshot.sessionId → r.snapshot.parentParticipantId = none →
      r'.snapshot.parentParticipantId = none → r = r') ∧
    (∀ r ∈ s.participants, ∀ q, r.snapshot.parentParticipantId = some q →
      s.participantSession q = some r.snapshot.sessionId) ∧
    (∀ r ∈ s.participants, ∃ l root, Lineage s.participants.rows r l ∧
      l.length = r.snapshot.depth ∧ l.Nodup ∧ r.snapshot.depth ≤ 8 ∧
      l.getLast? = some root ∧ root.snapshot.parentParticipantId = none ∧
      root.snapshot.sessionId = r.snapshot.sessionId) ∧
    (∀ q, (s.participants.rows.countP fun r => r.snapshot.parentParticipantId = some q) ≤ 64) ∧
    (∀ k, (s.participants.rows.countP fun r => r.snapshot.sessionId = k) ≤ 1024) ∧
    ∀ s', Run env s s' → ∀ r ∈ s.participants,
      ∃ r' ∈ s'.participants, r'.snapshot = r.snapshot := by
  have htree := hs.sound.tree
  refine ⟨htree.oneRoot, fun r hr q hparent => ?_, fun r hr => ?_, htree.children_le,
    htree.small, fun s' hrun r hr => ?_⟩
  · obtain ⟨r', hr', rfl, -⟩ := htree.ranked.child r hr q hparent
    rw [Store.participantSession, Table.find?_of_mem hr', Option.map_some,
      htree.together r hr r' hr' hparent]
  · obtain ⟨l, hl⟩ := htree.ranked.lineage hr
    obtain ⟨hall, root, hlast, htop⟩ := htree.lineage_root hl
    exact ⟨l, root, hl, (htree.ranked.lineage_depths s.participants.nodup hl).1.symm,
      htree.ranked.lineage_nodup s.participants.nodup hl, htree.shallow r hr, hlast, htop,
      (hall root (List.mem_of_getLast? hlast)).2⟩
  · obtain ⟨r', hr', hprecedes⟩ :=
      (Run.follows hs.sound hrun).participants _ r (Table.find?_of_mem hr)
    exact ⟨r', Table.mem_of_find? hr', hprecedes.same⟩

namespace Sample

def child : ParticipantId := id 1

def createChild : CreateChildParticipant := ⟨request 7, session, epoch, child, root, id 0, 5⟩

/-- The participant at work has a child. -/
def family : Store := calls world [(seconds 0, .createChildParticipant createChild)] working

theorem family_reachable : Reachable world family :=
  working_reachable.trans (run_calls _ _)

end Sample

open Sample

/-- The child of a root is at depth two, and has a lineage of two. -/
theorem participants_form_trees_family :
    ∃ r l, r ∈ family.participants ∧ r.snapshot.depth = 2 ∧
      Lineage family.participants.rows r l ∧ l.length = 2 := by
  obtain ⟨-, -, hlineage, -⟩ := participants_form_trees family_reachable
  have hchild : (family.participants.find? child).any
      (fun r => r.snapshot.depth = 2) = true := by
    decide +kernel
  obtain ⟨r, hr, hdepth⟩ := (Option.any_eq_true _ _).mp hchild
  obtain ⟨l, root, hl, hlength, -⟩ := hlineage r (Table.mem_of_find? hr)
  have hdepth : r.snapshot.depth = 2 := of_decide_eq_true hdepth
  exact ⟨r, l, Table.mem_of_find? hr, hdepth, hl, hlength.trans hdepth⟩

/-! ### Closed subtrees -/

/-- A subtree that is closed since `s₀`: its root is told to stop, and all who descend from
it were there, with all they work on. -/
structure Shut (s₀ : Store) (root : ParticipantId) (s : Store) : Prop where
  flag : s.cancellationRequested root = true
  participants : ∀ x, Descends s.participants.rows root x → (s₀.participants.find? x).isSome = true
  operations : ∀ row ∈ s.operations, Descends s.participants.rows root row.snapshot.participantId →
    (s₀.operations.find? row.snapshot.operationId).isSome = true
  launches : ∀ l ∈ s.launches, Descends s.participants.rows root l.participantId →
    (s₀.launches.find? l.attemptId).isSome = true

namespace Shut

variable {s₀ : Store} {root : ParticipantId}
variable {x : ParticipantId}

section

variable (h : Shut s₀ root s)
include h

/-- Below a root that is told to stop, everyone is. -/
theorem flagged (hs : s.Tree) (hx : Descends s.participants.rows root x) :
    s.cancellationRequested x = true := by
  induction hx with
  | refl => exact h.flag
  | tail _ hchild ih =>
    obtain ⟨r, hr, hparent, rfl⟩ := hchild
    obtain ⟨r', hr', rfl, -⟩ := hs.ranked.child r hr _ hparent
    rw [Store.cancellationRequested_of_find? (Table.find?_of_mem hr')] at ih
    rw [Store.cancellationRequested_of_find? (Table.find?_of_mem hr)]
    exact hs.closed r hr r' hr' hparent ih

/-- Who is not told to stop is not in the subtree. -/
theorem not_descends (hs : s.Tree) (hx : s.cancellationRequested x = false) :
    ¬ Descends s.participants.rows root x := by
  intro hdescends
  rw [h.flagged hs hdescends] at hx
  cases hx

/-- A deed to other tables. -/
theorem of_eq (hparticipants : s'.participants = s.participants)
    (hoperations : s'.operations = s.operations) (hlaunches : s'.launches = s.launches) :
    Shut s₀ root s' := by
  refine ⟨?_, ?_, ?_, ?_⟩
  · rw [Store.cancellationRequested, hparticipants]
    exact h.flag
  · rw [hparticipants]
    exact h.participants
  · rw [hparticipants, hoperations]
    exact h.operations
  · rw [hparticipants, hlaunches]
    exact h.launches

theorem people (hs : s.Tree) (hd : PeopleDeed s s') : Shut s₀ root s' := by
  cases hd with
  | @joined p participants inserted received =>
    -- whoever joins does so below someone who is not told to stop
    have hdescends : ∀ x, Descends participants.rows root x →
        Descends s.participants.rows root x := by
      intro x hx
      induction hx with
      | refl => exact .refl
      | tail _ hchild ih =>
        obtain ⟨r, hr, hparent, rfl⟩ := hchild
        rcases (Table.mem_insert inserted).mp hr with rfl | hr
        · obtain ⟨r', hr', -, hactive, -⟩ := received.child _ hparent
          rw [← Store.cancellationRequested_of_find? hr'] at hactive
          exact absurd ih (h.not_descends hs hactive)
        · exact ih.tail ⟨r, hr, hparent, rfl⟩
    refine ⟨?_, fun x hx => h.participants x (hdescends x hx),
      fun row hrow hx => h.operations row hrow (hdescends _ hx),
      fun l hl hx => h.launches l hl (hdescends _ hx)⟩
    obtain ⟨r, hroot, hflag⟩ := Store.cancellationRequested_true h.flag
    rw [Store.cancellationRequested_of_find? (Table.Grows.insert inserted root r hroot)]
    exact hflag
  | flagged ids closed =>
    have hdescends : ∀ x, Descends (s.participants.rows.map (ParticipantRow.flagged ids)) root x ↔
        Descends s.participants.rows root x := fun x =>
      descends_map (fun r => congrArg ParticipantSnapshot.participantId (r.flagged_snapshot ids))
        fun r => congrArg ParticipantSnapshot.parentParticipantId (r.flagged_snapshot ids)
    refine ⟨?_, fun x hx => h.participants x ((hdescends x).mp hx),
      fun row hrow hx => h.operations row hrow ((hdescends _).mp hx),
      fun l hl hx => h.launches l hl ((hdescends _).mp hx)⟩
    obtain ⟨r, hroot, hflag⟩ := Store.cancellationRequested_true h.flag
    rw [Store.cancellationRequested, Table.find?_rewrite, hroot]
    exact (r.flagged_precedes ids).flag hflag

theorem launch (hs : s.Tree) (hd : LaunchDeed s s') : Shut s₀ root s' := by
  cases hd with
  | prepared inserted active =>
    refine ⟨h.flag, h.participants, h.operations, fun l hl hx => ?_⟩
    rcases (Table.mem_insert inserted).mp hl with rfl | hl
    · exact absurd hx (h.not_descends hs active)
    · exact h.launches l hl hx
  | changed found session participant =>
    refine ⟨h.flag, h.participants, h.operations, fun l hl hx => ?_⟩
    rcases (Table.mem_replace found).mp hl with rfl | ⟨hl, -⟩
    · rw [participant] at hx
      have hsame := h.launches _ (Table.mem_of_find? found) hx
      rwa [show LaunchSnapshot.attemptId _ = _ from Table.key_of_find? found] at hsame
    · exact h.launches l hl hx

theorem operation (hs : s.Tree) {l : Label} (hd : OperationDeed l s s') :
    Shut s₀ root s' := by
  cases hd with
  | began inserted alone queued readable session active floor time =>
    refine ⟨h.flag, h.participants, fun row hrow hx => ?_, h.launches⟩
    rcases (Table.mem_insert inserted).mp hrow with rfl | hrow
    · exact absurd hx (h.not_descends hs active)
    · exact h.operations row hrow hx
  | @advanced _ old o' now found advances floor time =>
    refine ⟨h.flag, h.participants, fun row hrow hx => ?_, h.launches⟩
    rcases (Store.mem_operations_replace found advances.operationId).mp hrow with rfl | ⟨hrow, -⟩
    · rw [advances.operationId]
      rw [advances.participantId] at hx
      exact h.operations old (Table.mem_of_find? found) hx
    · exact h.operations row hrow hx

/-- **A closed subtree stays closed**, whatever is done. -/
theorem deed (hs : Sound s) {l : Label} (hd : Deed env l s s') :
    Shut s₀ root s' := by
  cases hd with
  | aside hd => exact h.of_eq hd.participants hd.operations hd.launches
  | session hd =>
    obtain ⟨_, _, rfl⟩ := hd.frame
    exact h.of_eq rfl rfl rfl
  | people hd => exact h.people hs.tree hd
  | launch hd => exact h.launch hs.tree hd
  | journal | resources | recorded => exact h.of_eq rfl rfl rfl
  | filed hd =>
    rw [hd.frame]
    exact h.of_eq rfl rfl rfl
  | operation hd => exact h.operation hs.tree hd
  | message hd =>
    obtain ⟨_, _, rfl⟩ := hd.frame
    exact h.of_eq rfl rfl rfl

theorem run (hs : Sound s) (hrun : Run env s s') : Shut s₀ root s' := by
  induction hrun with
  | refl => exact h
  | tail hrun hstep ih =>
    exact hstep.keeps (fun _ _ _ hd hs h => h.deed hs hd) (Run.sound hs hrun) ih

end

end Shut

/-! ### Cancellation -/

/-- An applied cancellation is the owner's, and of a subtree of the session. -/
theorem cancelSubtree_applied {a : Answer} (h : Applies env t (.cancelSubtree c) s a) :
    ∃ r outcome, s.Authorized c.sessionId c.context.caller c.epoch t r ∧
      s.participantSession c.rootParticipantId = some c.sessionId ∧ a = .cancellation outcome ∧
      commitCancellation env c (s.withFloor c.sessionId (max r.timeFloor t)) =
        .done outcome (exec env t (.cancelSubtree c) s).2 := by
  obtain ⟨outcome, s', heq, hbody, ha⟩ := mutation_applied h
  obtain ⟨r, outcome', hr, hroot, hv, hcommit⟩ := cancelSubtree_done hbody
  cases hv
  exact ⟨r, outcome, hr, hroot, ha, hcommit.trans (congrArg _ heq.symm)⟩

/-- An applied cancellation has told its root to stop. -/
theorem cancelSubtree_flags (hs : Sound s) {a : Answer} (h : Applies env t (.cancelSubtree c) s a) :
    (exec env t (.cancelSubtree c) s).2.cancellationRequested c.rootParticipantId = true := by
  obtain ⟨r, outcome, hr, hroot, -, hcommit⟩ := cancelSubtree_applied h
  have hsound : Sound (s.withFloor c.sessionId (max r.timeFloor t)) := by
    have hfloor : Path env (fun _ _ => True) s _ := withFloor_path tolerant_true hr.found t
    exact hfloor.sound hs
  have hpath : Path env (fun _ _ => True) _ (exec env t (.cancelSubtree c) s).2 :=
    commitCancellation_path tolerant_true.weaken hsound (fun _ _ _ _ => trivial)
      (fun _ _ _ => trivial) hroot hr.floorOf hcommit
  obtain ⟨row, hrow, -⟩ := Option.map_eq_some_iff.mp hroot
  have hin : row.snapshot.participantId ∈
      (s.withFloor c.sessionId (max r.timeFloor t)).subtree c.sessionId c.rootParticipantId := by
    rw [hsound.tree.mem_subtree hroot, show row.snapshot.participantId = _ from
      Table.key_of_find? hrow]
    exact .refl
  obtain ⟨row', hrow', hprecedes⟩ := hpath.follows.participants c.rootParticipantId
    (row.flagged _) (by rw [Store.withCancellation, Table.find?_rewrite]; exact congrArg _ hrow)
  rw [Store.cancellationRequested_of_find? hrow']
  refine hprecedes.flag ?_
  rw [ParticipantRow.flagged, if_pos hin]

/-- **Cancelled subtrees stay closed.**  Once a cancellation has been applied, in every state
of every continuation all who descend from its root are told to stop and were there when it
was applied, and so was every operation and every launch they have. -/
theorem cancelled_subtree_is_closed (hs : Reachable env s) {t : Timestamp} {c : CancelSubtree}
    {a : Answer} (happlied : Applies env t (.cancelSubtree c) s a)
    (hrun : Run env (exec env t (.cancelSubtree c) s).2 s') {x : ParticipantId}
    (hx : Descends s'.participants.rows c.rootParticipantId x) :
    (∃ r, s'.participants.find? x = some r ∧ r.cancellationRequested = true) ∧
    ((exec env t (.cancelSubtree c) s).2.participants.find? x).isSome = true ∧
    (∀ row ∈ s'.operations, row.snapshot.participantId = x →
      ((exec env t (.cancelSubtree c) s).2.operations.find?
        row.snapshot.operationId).isSome = true) ∧
    ∀ l ∈ s'.launches, l.participantId = x →
      ((exec env t (.cancelSubtree c) s).2.launches.find? l.attemptId).isSome = true := by
  have hsound : Sound (exec env t (.cancelSubtree c) s).2 :=
    Step.sound hs.sound (.call t (.cancelSubtree c))
  have hshut : Shut (exec env t (.cancelSubtree c) s).2 c.rootParticipantId
      (exec env t (.cancelSubtree c) s).2 := by
    refine ⟨cancelSubtree_flags hs.sound happlied, fun x hx => ?_, fun row hrow _ => ?_,
      fun l hl _ => ?_⟩
    · rcases Relation.ReflTransGen.cases_tail hx with rfl | ⟨_, -, r, hr, -, rfl⟩
      · obtain ⟨r, hr, -⟩ := Store.cancellationRequested_true
          (cancelSubtree_flags hs.sound happlied)
        simp [hr]
      · simp [Table.find?_of_mem hr]
    · exact Option.isSome_of_eq_some (Table.find?_of_mem hrow)
    · exact Option.isSome_of_eq_some (Table.find?_of_mem hl)
  have hend := hshut.run hsound hrun
  have hflag := hend.flagged (Run.sound hsound hrun).tree hx
  refine ⟨Store.cancellationRequested_true hflag, hend.participants x hx, ?_, ?_⟩
  · rintro row hrow rfl
    exact hend.operations row hrow hx
  · rintro l hl rfl
    exact hend.launches l hl hx

namespace Sample

def cancel : CancelSubtree := ⟨request 20, session, epoch, root⟩

end Sample

/-- When the root of a family is cancelled, its child is told to stop. -/
theorem cancelled_subtree_is_closed_family :
    (∃ a, Applies world (seconds 1) (.cancelSubtree cancel) family a) ∧
    ∃ r, (exec world (seconds 1) (.cancelSubtree cancel)
      family).2.participants.find? child = some r ∧
        r.cancellationRequested = true := by
  have happlied : ∃ a, Applies world (seconds 1) (.cancelSubtree cancel)
      family a := Result.exists_applied (by decide +kernel)
  have hchild : ∃ r ∈ (exec world (seconds 1) (.cancelSubtree cancel)
      family).2.participants.rows, r.snapshot.parentParticipantId = some root ∧
        r.snapshot.participantId = child := by
    decide +kernel
  obtain ⟨a, ha⟩ := happlied
  exact ⟨⟨a, ha⟩, (cancelled_subtree_is_closed family_reachable ha .refl (.single hchild)).1⟩

end Navigator
