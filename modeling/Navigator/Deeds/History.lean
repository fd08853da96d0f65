/-
What deeds never undo.

A later store knows every session, participant, operation and message an earlier one
knew: their identities are the same, time floors have not gone back, epochs have been
handed out in order, and what was finished is as it was.

* **`Deed.follows`** — this holds of one deed;
* **`Path.follows`** — and of any number of them.
-/
import Navigator.Deeds.Basic
import Navigator.Lib.Fencing

namespace Navigator

variable {r : SessionRecord} {host : HostId} {epoch : FencingEpoch} {now : Timestamp} {l : Label}
  {env : Env}
variable {s s' : Store} {m m' : MessageSnapshot}

/-! ### A session as a fence -/

/-- Who holds a session row, under which epoch and until when. -/
def SessionRecord.holder (r : SessionRecord) : Option (HostId × ℕ × Timestamp) :=
  match r.owner, r.ownerEpoch with
  | some (host, expiresAt), some epoch => some (host, epoch.get, expiresAt)
  | _, _ => none

/-- A session row is a fence. -/
def SessionRecord.fence (r : SessionRecord) : Fence HostId Timestamp where
  holder := r.holder
  highWater := r.epochHighWater
  floor := r.timeFloor
  bounded := by
    intro h hh
    unfold SessionRecord.holder at hh
    split at hh
    · cases hh
      exact r.epochBounded _ ‹_›
    · cases hh

theorem SessionRecord.holder_of_heldUntil (h : r.HeldUntil host epoch now) :
    ∃ t, r.holder = some (host, epoch.get, t) ∧ now < t := by
  obtain ⟨t, howner, hepoch, hlt⟩ := h
  exact ⟨t, by simp [SessionRecord.holder, howner, hepoch], hlt⟩

/-- What a later row of a session keeps of an earlier one. -/
structure SessionRecord.Precedes (r r' : SessionRecord) : Prop where
  consumer : r'.publicConsumerKey = r.publicConsumerKey
  compatibility : r'.compatibility = r.compatibility
  manifestComplete : r'.manifestComplete = r.manifestComplete
  fence : Fence.Run r.fence r'.fence

theorem SessionRecord.Precedes.refl (r : SessionRecord) : r.Precedes r :=
  ⟨rfl, rfl, rfl, .refl⟩

theorem SessionRecord.Precedes.trans {r1 r2 r3 : SessionRecord} (h1 : r1.Precedes r2)
    (h2 : r2.Precedes r3) : r1.Precedes r3 where
  consumer := h2.consumer.trans h1.consumer
  compatibility := h2.compatibility.trans h1.compatibility
  manifestComplete := h2.manifestComplete.trans h1.manifestComplete
  fence := h1.fence.trans h2.fence

/-- A change of a row that is one step of its fence. -/
theorem SessionRecord.Precedes.of_step {r' : SessionRecord}
    (consumer : r'.publicConsumerKey = r.publicConsumerKey)
    (compatibility : r'.compatibility = r.compatibility)
    (manifestComplete : r'.manifestComplete = r.manifestComplete)
    (h : Fence.Step r.fence r'.fence) : r.Precedes r' :=
  ⟨consumer, compatibility, manifestComplete, .single h⟩

/-! ### Histories -/

/-- A row of a message after another: the same message, and unchanged once finished. -/
structure MessageRow.Precedes (r r' : MessageRow) : Prop where
  columns : r' = { r with snapshot := r'.snapshot }
  same : r'.snapshot.identity = r.snapshot.identity
  attempts : r.snapshot.attemptCount ≤ r'.snapshot.attemptCount
  ended : r.snapshot.state.isTerminal = true → r' = r

/-- A row of an operation after another. -/
structure OperationRow.Precedes (r r' : OperationRow) : Prop where
  payload : r'.inputPayload = r.inputPayload
  same : r'.snapshot.identity = r.snapshot.identity
  ended : r.snapshot.state.isTerminal = true → r' = r

theorem MessageRow.Precedes.refl (r : MessageRow) : r.Precedes r :=
  ⟨rfl, rfl, le_rfl, fun _ => rfl⟩

theorem OperationRow.Precedes.refl (r : OperationRow) : r.Precedes r :=
  ⟨rfl, rfl, fun _ => rfl⟩

theorem MessageRow.Precedes.trans {r1 r2 r3 : MessageRow} (h1 : r1.Precedes r2)
    (h2 : r2.Precedes r3) : r1.Precedes r3 where
  columns := by rw [h2.columns, h1.columns]
  same := h2.same.trans h1.same
  attempts := h1.attempts.trans h2.attempts
  ended h := by
    have heq := h1.ended h
    subst heq
    exact h2.ended h

theorem OperationRow.Precedes.trans {r1 r2 r3 : OperationRow} (h1 : r1.Precedes r2)
    (h2 : r2.Precedes r3) : r1.Precedes r3 where
  payload := h2.payload.trans h1.payload
  same := h2.same.trans h1.same
  ended h := by
    have heq := h1.ended h
    subst heq
    exact h2.ended h

/-- A participant that may have been told to stop. -/
structure ParticipantRow.Precedes (r r' : ParticipantRow) : Prop where
  same : r'.snapshot = r.snapshot
  flag : r.cancellationRequested = true → r'.cancellationRequested = true

theorem ParticipantRow.Precedes.refl (r : ParticipantRow) : r.Precedes r := ⟨rfl, id⟩

theorem ParticipantRow.Precedes.trans {r1 r2 r3 : ParticipantRow} (h1 : r1.Precedes r2)
    (h2 : r2.Precedes r3) : r1.Precedes r3 :=
  ⟨h2.same.trans h1.same, fun h => h2.flag (h1.flag h)⟩

theorem ParticipantRow.flagged_precedes (ids : List ParticipantId) (r : ParticipantRow) :
    r.Precedes (r.flagged ids) := by
  refine ⟨r.flagged_snapshot ids, fun h => ?_⟩
  unfold flagged
  split
  · rfl
  · exact h

/-- A store after another. -/
structure Follows (s s' : Store) : Prop where
  sessions : s.sessions.Evolves SessionRecord.Precedes s'.sessions
  manifest : ∀ k, (s.sessions.find? k).isSome → s'.sessionManifest k = s.sessionManifest k
  participants : s.participants.Evolves ParticipantRow.Precedes s'.participants
  operations : s.operations.Evolves OperationRow.Precedes s'.operations
  messages : s.messages.Evolves MessageRow.Precedes s'.messages
  templates : s.templates.Grows s'.templates
  policies : s.policies.Grows s'.policies
  templatePolicies : s.templatePolicies.Grows s'.templatePolicies
  ledger : s.ledger.Grows s'.ledger
  grants : s.grants.Evolves GrantSnapshot.Precedes s'.grants
  events : Log.Extends s.events s'.events

namespace Follows

variable {s s' s1 s2 s3 : Store}
variable {k : SessionId}

theorem refl (s : Store) : Follows s s where
  sessions := .of_eq SessionRecord.Precedes.refl rfl
  manifest _ _ := rfl
  participants := .of_eq ParticipantRow.Precedes.refl rfl
  operations := .of_eq OperationRow.Precedes.refl rfl
  messages := .of_eq MessageRow.Precedes.refl rfl
  templates := .refl _
  policies := .refl _
  templatePolicies := .refl _
  ledger := .refl _
  grants := .of_eq GrantSnapshot.Precedes.refl rfl
  events := .refl

theorem trans (h1 : Follows s1 s2) (h2 : Follows s2 s3) : Follows s1 s3 where
  sessions := h1.sessions.trans SessionRecord.Precedes.trans h2.sessions
  manifest k hk := by
    obtain ⟨r, hr⟩ := Option.isSome_iff_exists.mp hk
    obtain ⟨r2, hr2, -⟩ := h1.sessions k r hr
    rw [h2.manifest k (by simp [hr2]), h1.manifest k hk]
  participants := h1.participants.trans ParticipantRow.Precedes.trans h2.participants
  operations := h1.operations.trans OperationRow.Precedes.trans h2.operations
  messages := h1.messages.trans MessageRow.Precedes.trans h2.messages
  templates := h1.templates.trans h2.templates
  policies := h1.policies.trans h2.policies
  templatePolicies := h1.templatePolicies.trans h2.templatePolicies
  ledger := h1.ledger.trans h2.ledger
  grants := h1.grants.trans GrantSnapshot.Precedes.trans h2.grants
  events := h1.events.trans h2.events

/-- Time floors only rise. -/
theorem floor (h : Follows s s') {t : Timestamp} (ht : s.floorOf k = some t) :
    ∃ t', s'.floorOf k = some t' ∧ t ≤ t' := by
  obtain ⟨r, hr, rfl⟩ := Option.map_eq_some_iff.mp ht
  obtain ⟨r', hr', hprecedes⟩ := h.sessions k r hr
  exact ⟨r'.timeFloor, by rw [Store.floorOf, hr']; rfl, hprecedes.fence.floor_le⟩

/-- Participants stay in their sessions. -/
theorem participantSession (h : Follows s s') {p : ParticipantId}
    (hp : s.participantSession p = some k) : s'.participantSession p = some k := by
  obtain ⟨r, hr, rfl⟩ := Option.map_eq_some_iff.mp hp
  obtain ⟨r', hr', hprecedes⟩ := h.participants p r hr
  rw [Store.participantSession, hr', Option.map_some, hprecedes.same]

end Follows

/-! ### One deed -/

theorem Aside.follows (h : Aside env s s') : Follows s s' where
  sessions := .of_eq SessionRecord.Precedes.refl h.sessions
  manifest k _ := by rw [Store.sessionManifest, h.manifest]; rfl
  participants := .of_eq ParticipantRow.Precedes.refl h.participants
  operations := .of_eq OperationRow.Precedes.refl h.operations
  messages := .of_eq MessageRow.Precedes.refl h.messages
  templates := h.templates
  policies := h.policies
  templatePolicies := h.templatePolicies
  ledger := h.ledger ▸ .refl _
  grants := h.grants
  events := h.events

namespace SessionRecord.Precedes

theorem raised (r : SessionRecord) (t : Timestamp) :
    r.Precedes { r with timeFloor := max r.timeFloor t } :=
  of_step rfl rfl rfl (.observe rfl rfl (le_max_left _ _))

theorem occupied {expiresAt : Timestamp} {revision : Revision}
    (free : ∀ held ∈ r.owner, held.2 ≤ r.timeFloor) (next : epoch.get = r.epochHighWater + 1) :
    r.Precedes (r.occupy host expiresAt epoch revision now) := by
  refine of_step rfl rfl rfl (.acquire host expiresAt ?_ ?_ next rfl)
  · intro held hheld
    change r.holder = some held at hheld
    unfold holder at hheld
    split at hheld
    · next howner _ =>
      cases hheld
      exact free _ howner
    · cases hheld
  · change some (host, epoch.get, expiresAt) = _
    rw [next]
    rfl

theorem extended (expiresAt : Timestamp) (held : r.HeldUntil host epoch r.timeFloor) :
    r.Precedes (r.extend expiresAt) := by
  obtain ⟨t, howner, hepoch, hlt⟩ := held
  refine of_step rfl rfl rfl (.renew host epoch.get t expiresAt ?_ hlt ?_ rfl rfl)
  · change r.holder = _
    simp [holder, howner, hepoch]
  · change (r.extend expiresAt).holder = _
    simp [holder, extend, howner, hepoch]

theorem vacated (r : SessionRecord) (revision : Revision) (now : Timestamp) (closed : Bool) :
    r.Precedes (r.vacate revision now closed) :=
  of_step rfl rfl rfl (.release rfl rfl rfl)

end SessionRecord.Precedes

theorem SessionDeed.follows (h : SessionDeed s s') : Follows s s' := by
  cases h with
  | @opened r sessions manifest new inserted kept rows own =>
    refine { Follows.refl s with
      sessions := .insert SessionRecord.Precedes.refl inserted
      manifest := fun k hk => ?_ }
    -- the rows that are added belong to a session that was not there
    have hfresh : ∀ row ∈ new, row.sessionId ≠ k := by
      rintro row hrow rfl
      rw [own row hrow] at hk
      rw [show s.sessions.find? r.sessionId = none from Table.insert?_fresh inserted] at hk
      cases hk
    have hnew : new.filter (fun row => decide (row.sessionId = k)) = [] :=
      List.filter_eq_nil_iff.mpr fun row hrow => by simpa using hfresh row hrow
    simp only [Store.sessionManifest, rows, List.filter_append, hnew, List.nil_append]
  | floor raised =>
    refine { Follows.refl s with sessions := fun k r hr => ?_, manifest := fun _ _ => rfl }
    obtain ⟨t, ht⟩ := raised k
    exact ⟨_, by rw [ht, hr]; rfl, .raised r t⟩
  | @occupied k r host expiresAt epoch revision found revised later free next fits =>
    have hsessions : s.sessions.Evolves SessionRecord.Precedes
        (s.sessions.modify k (·.occupy host expiresAt epoch revision r.timeFloor)
          fun _ => rfl) := by
      refine .modify SessionRecord.Precedes.refl _ fun r' hr' => ?_
      rw [found] at hr'
      cases hr'
      exact .occupied free next
    exact { Follows.refl s with sessions := hsessions, manifest := fun _ _ => rfl }
  | @extended k r host epoch expiresAt found later held =>
    have hsessions : s.sessions.Evolves SessionRecord.Precedes
        (s.sessions.modify k (·.extend expiresAt) fun _ => rfl) := by
      refine .modify SessionRecord.Precedes.refl _ fun r' hr' => ?_
      rw [found] at hr'
      cases hr'
      exact .extended expiresAt held
    exact { Follows.refl s with sessions := hsessions, manifest := fun _ _ => rfl }
  | @vacated k r revision closed found revised fits shut =>
    have hsessions : s.sessions.Evolves SessionRecord.Precedes
        (s.sessions.modify k (fun r' => r'.vacate revision r.timeFloor (closed r')) fun _ => rfl) :=
      .modify SessionRecord.Precedes.refl _ fun r' _ => .vacated r' revision r.timeFloor _
    exact { Follows.refl s with sessions := hsessions, manifest := fun _ _ => rfl }

theorem PeopleDeed.follows (h : PeopleDeed s s') : Follows s s' := by
  obtain ⟨inserted, admitted⟩ | ⟨ids, closed⟩ := h
  · exact { Follows.refl s with participants := .insert ParticipantRow.Precedes.refl inserted }
  exact { Follows.refl s with
    participants := .rewrite
      (fun r => congrArg ParticipantSnapshot.participantId (r.flagged_snapshot ids))
      fun r => r.flagged_precedes ids }

theorem LaunchDeed.follows (h : LaunchDeed s s') : Follows s s' := by
  cases h <;> exact { Follows.refl s with }

theorem OperationDeed.follows (h : OperationDeed l s s') : Follows s s' := by
  obtain inserted | ⟨found, advances, floor, time⟩ := h
  · exact { Follows.refl s with operations := .insert OperationRow.Precedes.refl inserted }
  rename_i row o' _
  have hfound : s.operations.find? o'.operationId = some row := advances.operationId ▸ found
  have hrow : row.Precedes { row with snapshot := o' } :=
    ⟨rfl, advances.same, fun h => absurd h (by simp [advances.live])⟩
  exact { Follows.refl s with
    operations := .replace OperationRow.Precedes.refl hfound hrow }

/-- A delivery that goes on has not ended, and does not end. -/
theorem Moves.live {k : Move} (h : Moves now k m m') :
    m.state.isTerminal = false ∧ m'.state.isTerminal = false := by
  cases h with
  | attempt lease due few state =>
    rw [state]
    unfold MessageSnapshot.isDue at due
    cases hm : m.state <;> simp_all [MessageDeliveryState.isTerminal]
  | relet lease lease' stalled ended state =>
    cases hm : m.state <;> cases hm' : m'.state <;>
      simp_all [MessageDeliveryState.isTerminal, MessageDeliveryState.acceptanceLease?]
  | ask lease leased inForce state => simp [leased, state, MessageDeliveryState.isTerminal]
  | doubt lease pending state => simp [pending, state, MessageDeliveryState.isTerminal]
  | retry lease notBefore asked state =>
    rw [state]
    cases hm : m.state <;>
      simp_all [MessageDeliveryState.isTerminal, MessageDeliveryState.acceptanceLease?]

theorem Moves.attempts_le {k : Move} (h : Moves now k m m') : m.attemptCount ≤ m'.attemptCount := by
  cases h <;> omega

theorem MessageDeed.follows (h : MessageDeed env l s s') : Follows s s' := by
  cases h with
  | queued inserted =>
    exact { Follows.refl s with messages := .insert MessageRow.Precedes.refl inserted }
  | moved found readable touched moves =>
    exact { Follows.refl s with
      messages := .replace MessageRow.Precedes.refl found
        ⟨rfl, touched.same, moves.attempts_le, fun h => absurd h (by simp [moves.live])⟩ }
  | finished found readable live touched finishes =>
    exact { Follows.refl s with
      messages := .replace MessageRow.Precedes.refl found
        ⟨rfl, touched.same, finishes.counted.ge, fun h => absurd h (by simp [live])⟩ }

theorem Deed.follows (h : Deed env l s s') : Follows s s' := by
  cases h with
  | aside h | session h | people h | launch h | operation h | message h => exact h.follows
  | journal | resources => exact { Follows.refl s with }
  | recorded inserted => exact { Follows.refl s with ledger := .insert inserted }
  | filed h =>
    rw [h.frame]
    exact { Follows.refl s with }

theorem Path.follows {P : Store → Label → Prop} (h : Path env P s s') : Follows s s' :=
  h.within Follows.refl Follows.trans fun _ _ _ _ hd => hd.follows

end Navigator
