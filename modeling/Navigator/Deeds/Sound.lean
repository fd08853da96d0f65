/-
What every deed keeps.

A session's row can be decoded; a message's columns repeat its snapshot, it is addressed
to a participant of its own session, and it was last changed no later than the session's
time floor; an operation can be read back and is its participant's, who has no other
unfinished one; the participants of a session are a tree.

* **`Deed.sound`** — no deed breaks this, whatever it is done to.
-/
import Navigator.Deeds.History

namespace Navigator

variable {s s' : Store}
variable {k : SessionId} {r : MessageRow} {row : OperationRow} {now : Timestamp} {env : Env}
  {l : Label}

structure MessageRow.Sound (s : Store) (r : MessageRow) : Prop where
  columns : r = .ofSnapshot r.snapshot
  session : s.participantSession r.destination = some r.sessionId
  times : r.snapshot.createdAt ≤ r.snapshot.updatedAt
  floor : ∃ now, s.floorOf r.sessionId = some now ∧ r.snapshot.updatedAt ≤ now

structure OperationRow.Sound (s : Store) (row : OperationRow) : Prop where
  readable : row.snapshot.Readable
  session : s.participantSession row.snapshot.participantId = some row.snapshot.sessionId
  floor : ∃ now, s.floorOf row.snapshot.sessionId = some now ∧ row.snapshot.updatedAt ≤ now

structure Sound (s : Store) : Prop where
  sessions : ∀ r ∈ s.sessions, r.Kept
  messages : ∀ r ∈ s.messages, r.Sound s
  operations : ∀ row ∈ s.operations, row.Sound s
  alone : ∀ r ∈ s.operations, ∀ r' ∈ s.operations, r.snapshot.terminalOutcome = none →
    r'.snapshot.terminalOutcome = none →
    r.snapshot.participantId = r'.snapshot.participantId → r = r'
  tree : s.Tree

theorem Sound.empty : Sound Store.empty :=
  ⟨fun _ h => (Table.not_mem_empty h).elim, fun _ h => (Table.not_mem_empty h).elim,
    fun _ h => (Table.not_mem_empty h).elim, fun _ h => (Table.not_mem_empty h).elim, .empty⟩

/-- An operation can be read. -/
theorem Sound.operation_loads (hs : Sound s) {k : OperationId} {row : OperationRow}
    (hrow : s.operations.find? k = some row) : loadOperation s k = .ok (some row.snapshot) := by
  simp [loadOperation, hrow, (hs.operations row (Table.mem_of_find? hrow)).readable]

/-! A row that is not touched stays sound. -/

theorem floor_mono (h : Follows s s') {t : Timestamp}
    (hr : ∃ now, s.floorOf k = some now ∧ t ≤ now) : ∃ now, s'.floorOf k = some now ∧ t ≤ now := by
  obtain ⟨now, hnow, hle⟩ := hr
  obtain ⟨now', hnow', hle'⟩ := h.floor hnow
  exact ⟨now', hnow', hle.trans hle'⟩

theorem MessageRow.Sound.mono (h : Follows s s') (hr : r.Sound s) : r.Sound s' :=
  ⟨hr.columns, h.participantSession hr.session, hr.times, floor_mono h hr.floor⟩

theorem OperationRow.Sound.mono (h : Follows s s') (hrow : row.Sound s) : row.Sound s' :=
  ⟨hrow.readable, h.participantSession hrow.session, floor_mono h hrow.floor⟩

/-- A deed to other tables. -/
theorem Sound.mono (h : Follows s s') (hs : Sound s) (hsessions : ∀ r ∈ s'.sessions, r.Kept)
    (hmessages : s'.messages = s.messages) (hoperations : s'.operations = s.operations)
    (htree : s'.Tree) : Sound s' where
  sessions := hsessions
  messages r hr := (hs.messages r (hmessages ▸ hr)).mono h
  operations row hrow := (hs.operations row (hoperations ▸ hrow)).mono h
  alone := hoperations ▸ hs.alone
  tree := htree

/-! ### Messages -/

theorem MessageRow.Sound.updatedAt_le (hr : r.Sound s) (hnow : s.floorOf r.sessionId = some now) :
    r.snapshot.updatedAt ≤ now := by
  obtain ⟨now', hnow', hle⟩ := hr.floor
  rw [hnow] at hnow'
  cases hnow'
  exact hle

theorem OperationRow.Sound.updatedAt_le (hrow : row.Sound s)
    (hnow : s.floorOf row.snapshot.sessionId = some now) : row.snapshot.updatedAt ≤ now := by
  obtain ⟨now', hnow', hle⟩ := hrow.floor
  rw [hnow] at hnow'
  cases hnow'
  exact hle

/-- A message that is touched at a time between its last change and now. -/
theorem MessageRow.Sound.touched {m' : MessageSnapshot} (h : Follows s s') (hr : r.Sound s)
    (ht : r.snapshot.Touched m') (hnow : s.floorOf r.sessionId = some now)
    (hlater : r.snapshot.updatedAt ≤ m'.updatedAt) (htime : m'.updatedAt ≤ now) :
    ({ r with snapshot := m' } : MessageRow).Sound s' where
  columns := by
    have hcolumns := hr.columns
    have hsame := ht.same
    simp only [MessageSnapshot.identity, MessageIdentity.mk.injEq] at hsame
    obtain ⟨h1, h2, h3, h4, h5, h6, -⟩ := hsame
    rw [hcolumns]
    simp only [MessageRow.ofSnapshot, h1, h2, h3, h4, h5, h6]
  session := h.participantSession hr.session
  times := by
    have hcreated : m'.createdAt = r.snapshot.createdAt :=
      congrArg MessageIdentity.createdAt ht.same
    exact hcreated ▸ hr.times.trans hlater
  floor := floor_mono h ⟨now, hnow, htime⟩

theorem MessageDeed.sound (h : MessageDeed env l s s') (hs : Sound s) : Sound s' := by
  have hfollows := h.follows
  obtain ⟨messages, counters, heq⟩ := h.frame
  have hrest : (∀ row ∈ s'.operations, row.Sound s') := fun row hrow =>
    (hs.operations row (by rw [heq] at hrow; exact hrow)).mono hfollows
  refine ⟨by rw [heq]; exact hs.sessions, fun x hx => ?_, hrest, by rw [heq]; exact hs.alone,
    hs.tree.of_eq (by rw [heq])⟩
  cases h with
  | queued inserted sequence fits new session floor time =>
    rename_i m _ _
    rcases (Table.mem_insert inserted).mp hx with rfl | hx
    · have hupdated : m.updatedAt = m.createdAt := by rw [new]; rfl
      exact ⟨rfl, hfollows.participantSession session, hupdated.ge,
        floor_mono hfollows ⟨_, floor, hupdated ▸ time⟩⟩
    · exact (hs.messages x hx).mono hfollows
  | moved found readable touched moves clear floor time =>
    rename_i r k m' now
    have hr := hs.messages r (Table.mem_of_find? found)
    rcases (Store.mem_messages_replace found).mp hx with rfl | ⟨hx, -⟩
    · exact hr.touched hfollows touched floor (time ▸ hr.updatedAt_le floor) time.le
    · exact (hs.messages x hx).mono hfollows
  | finished found readable live touched finishes counted floor later time =>
    rename_i r m' counter now
    have hr := hs.messages r (Table.mem_of_find? found)
    rcases (Store.mem_messages_replace found).mp hx with rfl | ⟨hx, -⟩
    · have hle := hr.updatedAt_le floor
      exact hr.touched hfollows touched floor (later hle) (time hle)
    · exact (hs.messages x hx).mono hfollows

/-! ### Operations -/

theorem OperationDeed.sound (h : OperationDeed l s s') (hs : Sound s) : Sound s' := by
  have hfollows := h.follows
  obtain ⟨operations, heq⟩ := h.frame
  have hmessages : ∀ r ∈ s'.messages, r.Sound s' := fun r hr =>
    (hs.messages r (by rw [heq] at hr; exact hr)).mono hfollows
  have htree : s'.Tree := hs.tree.of_eq (by rw [heq])
  have hsessions : ∀ r ∈ s'.sessions, r.Kept := by rw [heq]; exact hs.sessions
  cases h with
  | began inserted alone queued readable session active floor time =>
    rename_i row operations' now
    refine ⟨hsessions, hmessages, fun x hx => ?_, fun x hx y hy hx0 hy0 hxy => ?_, htree⟩
    · rcases (Table.mem_insert inserted).mp hx with rfl | hx
      · exact ⟨readable, hfollows.participantSession session,
          floor_mono hfollows ⟨now, floor, time⟩⟩
      · exact (hs.operations x hx).mono hfollows
    · -- the participant of the new operation had no other
      rcases (Table.mem_insert inserted).mp hx with rfl | hx <;>
        rcases (Table.mem_insert inserted).mp hy with rfl | hy
      · rfl
      · exact absurd hy0 (alone y hy hxy.symm)
      · exact absurd hx0 (alone x hx hxy)
      · exact hs.alone x hx y hy hx0 hy0 hxy
  | advanced found advances floor time =>
    rename_i row o' now
    have hrow := hs.operations row (Table.mem_of_find? found)
    have hmem := fun x => Store.mem_operations_replace (x := x) found advances.operationId
    refine ⟨hsessions, hmessages, fun x hx => ?_, fun x hx y hy hx0 hy0 hxy => ?_, htree⟩
    · rcases (hmem _).mp hx with rfl | ⟨hx, -⟩
      · refine ⟨advances.readable, ?_, ?_⟩
        · rw [advances.participantId, advances.sessionId]
          exact hfollows.participantSession hrow.session
        · rw [advances.sessionId]
          exact floor_mono hfollows ⟨now, floor, time (hrow.updatedAt_le floor)⟩
      · exact (hs.operations x hx).mono hfollows
    · -- an operation that advances was unfinished before
      have hlive : row.snapshot.terminalOutcome = none := by
        have := hrow.readable.terminal
        rw [advances.live] at this
        simpa using this
      have hrow_mem := Table.mem_of_find? found
      have hne : ∀ z ∈ s.operations, z.snapshot.operationId ≠ row.snapshot.operationId →
          z.snapshot.terminalOutcome = none →
          z.snapshot.participantId ≠ o'.participantId := by
        intro z hz hid hz0 hp
        rw [advances.participantId] at hp
        exact hid (congrArg (·.snapshot.operationId) (hs.alone z hz row hrow_mem hz0 hlive hp))
      rcases (hmem _).mp hx with rfl | ⟨hx, hxid⟩ <;> rcases (hmem _).mp hy with rfl | ⟨hy, hyid⟩
      · rfl
      · exact absurd hxy.symm (hne y hy hyid hy0)
      · exact absurd hxy (hne x hx hxid hx0)
      · exact hs.alone x hx y hy hx0 hy0 hxy

/-! ### Sessions -/

/-- The row of `k` is kept after it has been rewritten if it is kept whatever else it was. -/
theorem kept_of_mem_modify {sessions : Table SessionRecord} {r x : SessionRecord}
    {f : SessionRecord → SessionRecord} (hf : ∀ x, Keyed.key (f x) = Keyed.key x)
    (hx : x ∈ sessions.modify k f hf) (hkept : ∀ x ∈ sessions, x.Kept)
    (hr : sessions.find? k = some r) (hnew : (f r).Kept) : x.Kept := by
  have hfind := Table.find?_of_mem hx
  rw [Table.find?_modify] at hfind
  by_cases hk : Keyed.key x = k
  · rw [if_pos hk, hr] at hfind
    cases hfind
    exact hnew
  · rw [if_neg hk] at hfind
    exact hkept x (Table.mem_of_find? hfind)

theorem SessionDeed.kept (h : SessionDeed s s') (hs : ∀ r ∈ s.sessions, r.Kept) :
    ∀ r ∈ s'.sessions, r.Kept := by
  intro x hx
  cases h with
  | opened inserted kept rows own alone =>
    rcases (Table.mem_insert inserted).mp hx with rfl | hx
    · exact kept
    · exact hs x hx
  | floor raised =>
    obtain ⟨t, ht⟩ := raised x.sessionId
    obtain ⟨r, hr, rfl⟩ := Option.map_eq_some_iff.mp (ht.symm.trans (Table.find?_of_mem hx))
    have hkept := hs r (Table.mem_of_find? hr)
    exact ⟨hkept.created, hkept.updated.trans (le_max_left _ _), hkept.revised, hkept.lease,
      hkept.fits⟩
  | occupied host expiresAt epoch revision found revised later free next fits =>
    have hkept := hs _ (Table.mem_of_find? found)
    refine kept_of_mem_modify (fun _ => by rfl) hx hs found ?_
    exact ⟨hkept.created.trans hkept.updated, le_rfl, fun _ => revised,
      fun _ howner => by cases howner; exact later, fits⟩
  | extended host epoch expiresAt found later held =>
    have hkept := hs _ (Table.mem_of_find? found)
    obtain ⟨_, howner, -⟩ := held
    refine kept_of_mem_modify (fun _ => by rfl) hx hs found ?_
    refine ⟨hkept.created, hkept.updated, hkept.revised, fun held' hheld => ?_, hkept.fits⟩
    simp only [SessionRecord.extend, howner, Option.map_some, Option.some.injEq] at hheld
    exact hheld ▸ later
  | vacated revision closed found revised fits shut =>
    have hkept := hs _ (Table.mem_of_find? found)
    refine kept_of_mem_modify (fun _ => by rfl) hx hs found ?_
    exact ⟨hkept.created.trans hkept.updated, le_rfl, fun _ => revised,
      fun _ howner => (by cases howner), fits, hkept.fits.2⟩

/-! ### Deeds -/

theorem PeopleDeed.tree (h : PeopleDeed s s') (hs : s.Tree) : s'.Tree := by
  cases h with
  | joined inserted admitted => exact hs.joined inserted admitted
  | flagged ids closed => exact hs.flagged closed rfl

theorem Deed.sound (h : Deed env l s s') (hs : Sound s) : Sound s' := by
  cases h with
  | aside h =>
    exact hs.mono h.follows (by rw [h.sessions]; exact hs.sessions) h.messages h.operations
      (hs.tree.of_eq h.participants)
  | session h =>
    obtain ⟨_, _, heq⟩ := h.frame
    exact hs.mono h.follows (h.kept hs.sessions) (by rw [heq]) (by rw [heq])
      (hs.tree.of_eq (by rw [heq]))
  | people h =>
    obtain ⟨_, heq⟩ := h.frame
    exact hs.mono h.follows (by rw [heq]; exact hs.sessions) (by rw [heq]) (by rw [heq])
      (h.tree hs.tree)
  | launch h =>
    obtain ⟨_, heq⟩ := h.frame
    exact hs.mono h.follows (by rw [heq]; exact hs.sessions) (by rw [heq]) (by rw [heq])
      (hs.tree.of_eq (by rw [heq]))
  | journal | resources =>
    exact hs.mono { Follows.refl s with } hs.sessions rfl rfl (hs.tree.of_eq rfl)
  | recorded inserted =>
    exact hs.mono { Follows.refl s with ledger := .insert inserted } hs.sessions rfl rfl
      (hs.tree.of_eq rfl)
  | filed h =>
    rw [h.frame]
    exact hs.mono { Follows.refl s with } hs.sessions rfl rfl (hs.tree.of_eq rfl)
  | operation h => exact h.sound hs
  | message h => exact h.sound hs

theorem Path.sound {P : Store → Label → Prop} (h : Path env P s s') (hs : Sound s) : Sound s' :=
  h.keeps (fun _ _ _ _ hd hs => hd.sound hs) hs

end Navigator
