/-
The participants of a session as a tree.

A participant joins below one that is there, or as the first of its session, and neither
its parent nor its depth ever changes.  The participants a cancellation reaches are the
root of a subtree and all that descend from it.

* **`Store.Tree.joined`** — a participant that is admitted leaves a tree a tree;
* **`Store.Tree.mem_subtree`** — the query of `cancel_subtree` finds the descendants;
* **`Store.Tree.flagged`** — participants told to stop have no descendants that are not.
-/
import Navigator.Lib.Forest
import Navigator.Store.Exec

namespace Navigator

open Forest

instance : Parented ParticipantRow ParticipantId :=
  ⟨fun r => r.snapshot.parentParticipantId, fun r => r.snapshot.depth⟩

/-- What the store has checked of a participant that joins. -/
structure Store.Receives (s : Store) (p : ParticipantSnapshot) : Prop where
  root : p.parentParticipantId = none → p.depth = 1 ∧ ∀ r ∈ s.participants,
    r.snapshot.sessionId = p.sessionId → r.snapshot.parentParticipantId ≠ none
  child : ∀ q, p.parentParticipantId = some q → ∃ r, s.participants.find? q = some r ∧
    r.snapshot.sessionId = p.sessionId ∧ r.cancellationRequested = false ∧
    p.depth = r.snapshot.depth + 1 ∧ r.snapshot.depth < maxParticipantDepth ∧
    s.directChildren p.sessionId q < maxDirectChildren ∧
    s.sessionParticipants p.sessionId < maxSessionParticipants

/-- The participants are trees, one a session, and within bounds; below one that is told to
stop all are. -/
structure Store.Tree (s : Store) : Prop where
  ranked : Ranked s.participants.rows
  together : ∀ r ∈ s.participants, ∀ r' ∈ s.participants,
    r.snapshot.parentParticipantId = some r'.snapshot.participantId →
    r.snapshot.sessionId = r'.snapshot.sessionId
  oneRoot : ∀ r ∈ s.participants, ∀ r' ∈ s.participants,
    r.snapshot.sessionId = r'.snapshot.sessionId → r.snapshot.parentParticipantId = none →
    r'.snapshot.parentParticipantId = none → r = r'
  shallow : ∀ r ∈ s.participants, r.snapshot.depth ≤ maxParticipantDepth
  few : ∀ k q, s.directChildren k q ≤ maxDirectChildren
  small : ∀ k, s.sessionParticipants k ≤ maxSessionParticipants
  closed : ∀ r ∈ s.participants, ∀ r' ∈ s.participants,
    r.snapshot.parentParticipantId = some r'.snapshot.participantId →
    r'.cancellationRequested = true → r.cancellationRequested = true

theorem Store.Tree.empty : Store.empty.Tree where
  ranked := ⟨fun _ h => (Table.not_mem_empty h).elim, fun _ h => (Table.not_mem_empty h).elim⟩
  together _ h := (Table.not_mem_empty h).elim
  oneRoot _ h := (Table.not_mem_empty h).elim
  shallow _ h := (Table.not_mem_empty h).elim
  few _ _ := Nat.zero_le _
  small _ := Nat.zero_le _
  closed _ h := (Table.not_mem_empty h).elim

namespace Store.Tree

/-- A participant can be read. -/
theorem loadParticipant {s : Store} (h : s.Tree) {k : ParticipantId} {row : ParticipantRow}
    (hrow : s.participants.find? k = some row) :
    loadParticipant s k = .ok (some row.snapshot) := by
  have hmem := Table.mem_of_find? hrow
  have hshallow := h.shallow row hmem
  have hdepth : 0 < row.snapshot.depth := h.ranked.depth_pos hmem
  have hroot : row.snapshot.parentParticipantId = none → row.snapshot.depth = 1 :=
    h.ranked.root row hmem
  have hchild : row.snapshot.parentParticipantId ≠ none → row.snapshot.depth ≠ 1 := by
    intro hparent
    obtain ⟨q, hq⟩ := Option.ne_none_iff_exists'.mp hparent
    obtain ⟨r', hr', -, hrank⟩ := h.ranked.child row hmem q hq
    have hpos := h.ranked.depth_pos hr'
    change row.snapshot.depth = _ at hrank
    omega
  rw [Navigator.loadParticipant, hrow]
  refine if_neg ?_
  rintro (hzero | hdeep | ⟨hparent, hne⟩ | ⟨hparent, hone⟩)
  · omega
  · omega
  · exact hne (hroot hparent)
  · exact hchild hparent hone

variable {s s' : Store}
variable {r : ParticipantRow} {participants : Table ParticipantRow} {k : SessionId}
  {q x : ParticipantId}

/-- A tree is a property of the participants alone. -/
theorem of_eq (h : s.Tree) (heq : s'.participants = s.participants) : s'.Tree where
  ranked := heq ▸ h.ranked
  together := heq ▸ h.together
  oneRoot := heq ▸ h.oneRoot
  shallow := heq ▸ h.shallow
  few k q := by
    rw [Store.directChildren, heq]
    exact h.few k q
  small k := by
    rw [Store.sessionParticipants, heq]
    exact h.small k
  closed := heq ▸ h.closed

/-! ### Roots -/

/-- Following parents stays in the session and ends at a root. -/
theorem lineage_root (h : s.Tree) {l : List ParticipantRow} (hl : Lineage s.participants.rows r l) :
    (∀ x ∈ l, x ∈ s.participants ∧ x.snapshot.sessionId = r.snapshot.sessionId) ∧
      ∃ root, l.getLast? = some root ∧ root.snapshot.parentParticipantId = none := by
  induction hl with
  | root hr htop => exact ⟨List.forall_mem_singleton.mpr ⟨hr, rfl⟩, _, rfl, htop⟩
  | @child r r' rest hr hlink hup ih =>
    obtain ⟨hall, root, hlast, htop⟩ := ih
    have hsession := h.together r hr r' hup.mem hlink
    refine ⟨List.forall_mem_cons.mpr ⟨⟨hr, rfl⟩, fun x hx => ?_⟩, root, ?_, htop⟩
    · exact ⟨(hall x hx).1, (hall x hx).2.trans hsession.symm⟩
    · cases rest with
      | nil => cases hlast
      | cons y ys => rw [List.getLast?_cons_cons, hlast]

/-! ### Joining -/

/-- Counting the rows after one is added. -/
theorem countP_insert {p : ParticipantRow}
    (hinsert : s.participants.insert? p = some participants) (f : ParticipantRow → Bool) :
    participants.rows.countP f = s.participants.rows.countP f + if f p then 1 else 0 := by
  rw [Table.insert?_rows hinsert, List.countP_cons]

/-- **A participant that is admitted leaves a tree a tree.** -/
theorem joined (h : s.Tree) {p : ParticipantSnapshot}
    (hinsert : s.participants.insert? ⟨p, false⟩ = some participants) (hp : s.Receives p) :
    ({ s with participants } : Store).Tree := by
  have hmem := fun x : ParticipantRow => Table.mem_insert (x := x) hinsert
  have hfresh : ∀ r ∈ s.participants, r.snapshot.participantId ≠ p.participantId :=
    Table.find?_eq_none_iff.mp (Table.insert?_fresh hinsert)
  -- nobody has the new participant as a parent yet
  have hchildless : ∀ r ∈ s.participants,
      r.snapshot.parentParticipantId ≠ some p.participantId := by
    intro r hr hparent
    obtain ⟨r', hr', hkey, -⟩ := h.ranked.child r hr _ hparent
    exact hfresh r' hr' hkey
  have hself : p.parentParticipantId ≠ some p.participantId := by
    intro hparent
    obtain ⟨r, hr, -⟩ := hp.child _ hparent
    exact hfresh r (Table.mem_of_find? hr) (Table.key_of_find? hr)
  refine ⟨⟨fun r hr htop => ?_, fun r hr q hparent => ?_⟩, fun r hr r' hr' hlink => ?_,
    fun r hr r' hr' hsession htop htop' => ?_, fun r hr => ?_, fun k q => ?_, fun k => ?_,
    fun r hr r' hr' hlink hflag => ?_⟩
  · rcases (hmem r).mp hr with rfl | hr
    · exact (hp.root htop).1
    · exact h.ranked.root r hr htop
  · rcases (hmem r).mp hr with rfl | hr
    · obtain ⟨r', hr', -, -, hdepth, -⟩ := hp.child q hparent
      exact ⟨r', (hmem r').mpr (.inr (Table.mem_of_find? hr')), Table.key_of_find? hr', hdepth⟩
    · obtain ⟨r', hr', hkey, hdepth⟩ := h.ranked.child r hr q hparent
      exact ⟨r', (hmem r').mpr (.inr hr'), hkey, hdepth⟩
  · rcases (hmem r').mp hr' with rfl | hr'
    · rcases (hmem r).mp hr with rfl | hr
      · exact absurd hlink hself
      · exact absurd hlink (hchildless r hr)
    · rcases (hmem r).mp hr with rfl | hr
      · obtain ⟨r'', hr'', hsession, -⟩ := hp.child _ hlink
        rw [Table.key_injOn hr' (Table.mem_of_find? hr'') (Table.key_of_find? hr'').symm, hsession]
      · exact h.together r hr r' hr' hlink
  · rcases (hmem r).mp hr with rfl | hr <;> rcases (hmem r').mp hr' with rfl | hr'
    · rfl
    · exact absurd htop' ((hp.root htop).2 r' hr' hsession.symm)
    · exact absurd htop ((hp.root htop').2 r hr hsession)
    · exact h.oneRoot r hr r' hr' hsession htop htop'
  · rcases (hmem r).mp hr with rfl | hr
    · rcases hparent : p.parentParticipantId with _ | q
      · rw [(hp.root hparent).1]
        decide
      obtain ⟨r', -, -, -, hdepth, hlt, -⟩ := hp.child q hparent
      rw [hdepth]
      exact hlt
    · exact h.shallow r hr
  · have hcount := countP_insert hinsert fun r => decide (r.snapshot.sessionId = k ∧
      r.snapshot.parentParticipantId = some q)
    refine hcount.trans_le ?_
    have hfew := h.few k q
    unfold Store.directChildren at hfew
    by_cases hchild : p.sessionId = k ∧ p.parentParticipantId = some q
    · obtain ⟨rfl, hparent⟩ := hchild
      obtain ⟨-, -, -, -, -, -, hlt, -⟩ := hp.child q hparent
      unfold Store.directChildren at hlt
      simp only [hparent, and_self, decide_true, if_true]
      exact hlt
    · simp only [hchild, decide_false, Bool.false_eq_true, if_false]
      exact hfew
  · have hcount := countP_insert hinsert fun r => decide (r.snapshot.sessionId = k)
    refine hcount.trans_le ?_
    have hsmall := h.small k
    unfold Store.sessionParticipants at hsmall
    by_cases hk : p.sessionId = k
    · subst hk
      simp only [decide_true, if_true]
      cases hparent : p.parentParticipantId with
      | none =>
        -- a session without a root has no participants
        have hnone : s.participants.rows.countP
            (fun r => decide (r.snapshot.sessionId = p.sessionId)) = 0 := by
          refine List.countP_eq_zero.mpr fun r hr hsession => ?_
          obtain ⟨l, hl⟩ := h.ranked.lineage hr
          obtain ⟨hall, root, hlast, htop⟩ := h.lineage_root hl
          obtain ⟨hroot, hrs⟩ := hall root (List.mem_of_getLast? hlast)
          exact (hp.root hparent).2 root hroot (hrs.trans (of_decide_eq_true hsession)) htop
        rw [hnone]
        decide
      | some q =>
        obtain ⟨-, -, -, -, -, -, -, hlt⟩ := hp.child q hparent
        unfold Store.sessionParticipants at hlt
        exact hlt
    · simp only [hk, decide_false, Bool.false_eq_true, if_false]
      exact hsmall
  · rcases (hmem r').mp hr' with rfl | hr'
    · cases hflag
    rcases (hmem r).mp hr with rfl | hr
    · obtain ⟨r'', hr'', -, hactive, -⟩ := hp.child _ hlink
      rw [Table.key_injOn hr' (Table.mem_of_find? hr'') (Table.key_of_find? hr'').symm,
        hactive] at hflag
      cases hflag
    · exact h.closed r hr r' hr' hlink hflag

/-! ### Subtrees -/

/-- The participants of a session are a forest of their own. -/
theorem ranked_session (h : s.Tree) (k : SessionId) :
    Ranked (s.participants.rows.filter fun r => r.snapshot.sessionId = k) := by
  refine ⟨fun r hr htop => h.ranked.root r (List.mem_filter.mp hr).1 htop, fun r hr q hparent => ?_⟩
  obtain ⟨hr, hk⟩ := List.mem_filter.mp hr
  obtain ⟨r', hr', hkey, hdepth⟩ := h.ranked.child r hr q hparent
  have hlink : r.snapshot.parentParticipantId = some r'.snapshot.participantId := by
    rw [show r'.snapshot.participantId = q from hkey]
    exact hparent
  have hsession := h.together r hr r' hr' hlink
  refine ⟨r', List.mem_filter.mpr ⟨hr', ?_⟩, hkey, hdepth⟩
  rw [decide_eq_true_eq] at hk ⊢
  exact hsession.symm.trans hk

/-- The recursive query goes down the forest of a session. -/
theorem descendants_eq (s : Store) (k : SessionId) (n : ℕ) (generation : List ParticipantId) :
    s.descendants k n generation =
      generations (s.participants.rows.filter fun r => r.snapshot.sessionId = k) n generation := by
  induction n generalizing generation with
  | zero => rfl
  | succ n ih =>
    rw [Store.descendants, generations, ih, List.filter_filter]
    congr 4
    funext r
    simp [Parented.parent, Bool.and_comm]

/-- A participant's descendants are of its session. -/
theorem descends_session (h : s.Tree) (hq : s.participantSession q = some k)
    (hx : Descends s.participants.rows q x) :
    s.participantSession x = some k ∧
      Descends (s.participants.rows.filter fun r => r.snapshot.sessionId = k) q x := by
  induction hx with
  | refl => exact ⟨hq, .refl⟩
  | tail _ hchild ih =>
    obtain ⟨hparent, hdown⟩ := ih
    obtain ⟨r, hr, hlink, rfl⟩ := hchild
    obtain ⟨r', hr', hk⟩ := Option.map_eq_some_iff.mp hparent
    obtain rfl := Table.key_of_find? hr'
    have hsession : r.snapshot.sessionId = k :=
      (h.together r hr r' (Table.mem_of_find? hr') hlink).trans hk
    refine ⟨?_, hdown.tail ⟨r, List.mem_filter.mpr ⟨hr, decide_eq_true hsession⟩, hlink, rfl⟩⟩
    rw [Store.participantSession, Table.find?_of_mem hr, Option.map_some, hsession]

/-- **The query of `cancel_subtree` finds the descendants**, and nobody else. -/
theorem mem_subtree (h : s.Tree) (hq : s.participantSession q = some k) :
    x ∈ s.subtree k q ↔ Descends s.participants.rows q x := by
  have hlength : (s.participants.rows.filter fun r => r.snapshot.sessionId = k).length <
      s.participants.rows.length + 1 := Nat.lt_succ_of_le (List.length_filter_le _ _)
  rw [Store.subtree, descendants_eq, (h.ranked_session k).mem_generations
    ((List.filter_sublist.map _).nodup s.participants.nodup) hlength]
  constructor
  · exact Relation.ReflTransGen.mono (fun _ _ ⟨r, hr, hlink⟩ =>
      ⟨r, (List.mem_filter.mp hr).1, hlink⟩) _ _
  · exact fun hx => (h.descends_session hq hx).2

/-! ### Stopping -/

/-- **A whole subtree is told to stop.** -/
theorem flagged (h : s.Tree) {ids : List ParticipantId}
    (hids : ∀ r ∈ s.participants, ∀ q ∈ ids, r.snapshot.parentParticipantId = some q →
      r.snapshot.participantId ∈ ids)
    {s' : Store} (heq : s'.participants = s.participants.rewrite (ParticipantRow.flagged ids)
      fun r => congrArg ParticipantSnapshot.participantId (r.flagged_snapshot ids)) :
    s'.Tree := by
  have hmem : ∀ x ∈ s'.participants, ∃ r ∈ s.participants, x = r.flagged ids ∧
      x.snapshot = r.snapshot := by
    intro x hx
    rw [heq] at hx
    obtain ⟨r, hr, rfl⟩ := Table.mem_rewrite.mp hx
    exact ⟨r, hr, rfl, r.flagged_snapshot ids⟩
  have hcount : ∀ f : ParticipantSnapshot → Bool, s'.participants.rows.countP
      (fun r => f r.snapshot) = s.participants.rows.countP fun r => f r.snapshot := by
    intro f
    rw [heq]
    refine List.countP_map.trans (List.countP_congr fun r _ => ?_)
    simp [ParticipantRow.flagged_snapshot]
  refine ⟨⟨fun x hx htop => ?_, fun x hx q hparent => ?_⟩, fun x hx y hy hlink => ?_,
    fun x hx y hy hsession htop htop' => ?_, fun x hx => ?_, fun k q => ?_, fun k => ?_,
    fun x hx y hy hlink hflag => ?_⟩
  · obtain ⟨r, hr, -, hsnapshot⟩ := hmem x hx
    change x.snapshot.parentParticipantId = none at htop
    change x.snapshot.depth = 1
    rw [hsnapshot] at htop ⊢
    exact h.ranked.root r hr htop
  · obtain ⟨r, hr, -, hsnapshot⟩ := hmem x hx
    change x.snapshot.parentParticipantId = some q at hparent
    rw [hsnapshot] at hparent
    obtain ⟨r', hr', hkey, hdepth⟩ := h.ranked.child r hr q hparent
    refine ⟨r'.flagged ids, ?_, ?_, ?_⟩
    · rw [heq]
      exact Table.mem_rewrite.mpr ⟨r', hr', rfl⟩
    · exact (congrArg ParticipantSnapshot.participantId (r'.flagged_snapshot ids)).trans hkey
    · change x.snapshot.depth = (r'.flagged ids).snapshot.depth + 1
      rw [hsnapshot, ParticipantRow.flagged_snapshot]
      exact hdepth
  · obtain ⟨r, hr, -, hx⟩ := hmem x hx
    obtain ⟨r', hr', -, hy⟩ := hmem y hy
    rw [hx, hy] at hlink ⊢
    exact h.together r hr r' hr' hlink
  · obtain ⟨r, hr, rfl, hx⟩ := hmem x hx
    obtain ⟨r', hr', rfl, hy⟩ := hmem y hy
    rw [hx, hy] at hsession
    rw [hx] at htop
    rw [hy] at htop'
    rw [h.oneRoot r hr r' hr' hsession htop htop']
  · obtain ⟨r, hr, -, hsnapshot⟩ := hmem x hx
    rw [hsnapshot]
    exact h.shallow r hr
  · exact (hcount fun p => decide (p.sessionId = k ∧ p.parentParticipantId = some q)).trans_le
      (h.few k q)
  · exact (hcount fun p => decide (p.sessionId = k)).trans_le (h.small k)
  · obtain ⟨r, hr, rfl, hx⟩ := hmem x hx
    obtain ⟨r', hr', rfl, hy⟩ := hmem y hy
    rw [hx, hy] at hlink
    unfold ParticipantRow.flagged at hflag ⊢
    by_cases hin : r'.snapshot.participantId ∈ ids
    · rw [if_pos (hids r hr _ hin hlink)]
    rw [if_neg hin] at hflag
    have := h.closed r hr r' hr' hlink hflag
    split
    · rfl
    · exact this

end Store.Tree

end Navigator
