/-
When a launch moves on.

A transition of a launch by the owner of its session is made exactly if its request is new, it
names the current revision, it goes where a launch may go from its state, and there is a next
revision.

* **`transitionLaunch_applies`** — such a transition is made;
* **`transitionLaunch_cases`**, **`transitionLaunch_stuck`** — another is not, nor when it is
  tried again.
-/
import Navigator.Launches

namespace Navigator

open Txn Tx

variable {env : Env} {s s' : Store}

/-! ### New requests and owners -/

/-- Nothing was recorded under a request identity. -/
@[mk_iff] structure Store.Unseen (s : Store) (q : RequestId) : Prop where
  ledger : s.ledger.find? q = none
  journal : s.requestJournaled q = false

instance (s : Store) (q : RequestId) : Decidable (s.Unseen q) :=
  decidable_of_iff' _ (s.unseen_iff q)

theorem Store.Unseen.replayLookup {χ : Type} [MutableRequest χ] {c : χ}
    (h : s.Unseen (MutableRequest.context c).requestId) : replayLookup env c s = .ok none :=
  Store.replayOf_eq_none.mpr ⟨h.ledger, h.journal⟩

theorem Store.Unseen.of_replayLookup {χ : Type} [MutableRequest χ] {c : χ}
    (h : Navigator.replayLookup env c s = .ok none) :
    s.Unseen (MutableRequest.context c).requestId := by
  obtain ⟨hledger, hjournal⟩ := Store.replayOf_eq_none.mp h
  exact ⟨hledger, hjournal⟩

/-- A host holds a session until `expiresAt`, and its time has not come. -/
def Store.Owned (s : Store) (sessionId : SessionId) (host : HostId) (epoch : FencingEpoch)
    (expiresAt : Timestamp) : Prop :=
  ∃ r, s.sessions.find? sessionId = some r ∧ r.closed = false ∧
    r.owner = some (host, expiresAt) ∧ r.ownerEpoch = some epoch ∧ r.timeFloor < expiresAt

instance (s : Store) (sessionId : SessionId) (host : HostId) (epoch : FencingEpoch)
    (expiresAt : Timestamp) : Decidable (s.Owned sessionId host epoch expiresAt) :=
  inferInstanceAs (Decidable (∃ r ∈ s.sessions.find? sessionId, r.closed = false ∧
    r.owner = some (host, expiresAt) ∧ r.ownerEpoch = some epoch ∧ r.timeFloor < expiresAt))

variable {sessionId : SessionId} {host : HostId} {epoch : FencingEpoch} {expiresAt t : Timestamp}

section

variable (h : s.Owned sessionId host epoch expiresAt)
include h

theorem Store.Owned.authorized (ht : t < expiresAt) : ∃ r, s.Authorized sessionId host epoch t r ∧
      (s.withFloor sessionId (max r.timeFloor t)).Owned sessionId host epoch expiresAt := by
  obtain ⟨r, hr, hopen, howner, hepoch, hfloor⟩ := h
  have hlt : max r.timeFloor t < expiresAt := max_lt hfloor ht
  exact ⟨r, ⟨hr, hopen, expiresAt, howner, hepoch, hlt⟩,
    { r with timeFloor := max r.timeFloor t }, Store.find?_withFloor hr _, hopen, howner, hepoch,
    hlt⟩

theorem Store.Owned.before : ∃ t, t < expiresAt :=
  h.elim fun r hr => ⟨r.timeFloor, hr.2.2.2.2⟩

theorem Store.Owned.congr
    (hsessions : s'.sessions = s.sessions) : s'.Owned sessionId host epoch expiresAt := by
  rwa [Store.Owned, hsessions]

end

/-! ### Transitions -/

/-- A transition of a launch can be made. -/
structure Store.Movable (s : Store) (c : TransitionLaunch) (l : LaunchSnapshot) : Prop where
  unseen : s.Unseen c.context.requestId
  revision : l.revision = c.expectedRevision
  valid : validLaunchTransition l.state c.target = true
  room : l.revision.get + 1 < i64Bound

/-- What a transition makes of a launch. -/
structure TransitionLaunch.Moved (c : TransitionLaunch) (s : Store) (l l' : LaunchSnapshot)
    (s' : Store) : Prop where
  state : l'.state = c.target
  evidence : l'.evidence = l.evidence
  sessionId : l'.sessionId = l.sessionId
  revision : l'.revision.get = l.revision.get + 1
  found : s'.launches.find? c.attemptId = some l'
  used : ¬ s'.Unseen c.context.requestId
  others : ∀ q, q ≠ c.context.requestId → (s'.Unseen q ↔ s.Unseen q)

/-- The owner of a session moves a launch of it on. -/
theorem transitionLaunch_applies (hs : Reachable env s) {c : TransitionLaunch}
    {l : LaunchSnapshot} (howned : s.Owned c.sessionId c.context.caller c.epoch expiresAt)
    (ht : t < expiresAt) (hl : s.launches.find? c.attemptId = some l)
    (hsession : l.sessionId = c.sessionId)
    (hreason : c.target = .cleanupRequired ↔ c.cleanupReason.isSome = true)
    (hmovable : s.Movable c l) :
    ∃ l' s', settle env c (transitionLaunch env t c) s = (.ok (.applied l'), s') ∧
      c.Moved s l l' s' ∧ s'.Owned c.sessionId c.context.caller c.epoch expiresAt := by
  obtain ⟨r, hr, hheld⟩ := howned.authorized ht
  obtain ⟨revision, hnext, hfits⟩ := Revision.exists_next hmovable.room
  have hid : l.attemptId = c.attemptId := (Table.key_of_find? hl :)
  let l' : LaunchSnapshot :=
    { l with state := c.target, cleanupReason := c.cleanupReason, revision }
  have halone : ∀ x ∈ s.launches.rows, l.instanceId.isSome = true →
      x.instanceId = l.instanceId → x.attemptId = c.attemptId := by
    intro x hx hsome hsame
    rw [hs.launches.2 l (Table.mem_of_find? hl) x hx hsome hsame.symm] at hid
    exact hid
  let s1 : Store := { s.withFloor c.sessionId (max r.timeFloor t) with
    launches := s.launches.replace l' }
  obtain ⟨s', hrecord⟩ : ∃ s', record env c.sessionId c .applied (.launch l') s1 = .done () s' :=
    insertLedger_of_fresh (s := s1) hmovable.unseen.ledger
  have hcall : transitionLaunch env t c s = .done (.applied l') s' := by
    refine replayOr_of_none env hmovable.unseen.replayLookup (bind_done.mpr ⟨(), _,
      authorize_of_authorized (hs.sound.sessions r (Table.mem_of_find? hr.found)) hr, ?_⟩)
    simp only [looks_done]
    refine ⟨l, hl, hsession, hmovable.revision, _, if_pos ⟨hmovable.valid, hreason⟩, halone, l', s',
      ⟨revision, hnext, bind_done.mpr ⟨(), s1, ?_, bind_done.mpr ⟨(), s', hrecord, rfl⟩⟩⟩, rfl, rfl⟩
    simp only [updateLaunch, looks_done]
    refine ⟨⟨hfits, ?_⟩, l, ?_, hmovable.revision, rfl⟩
    · rw [← hmovable.revision]
      exact Nat.lt_of_succ_lt hmovable.room
    · change s.launches.find? l.attemptId = some l
      rw [hid]
      exact hl
  have hsettle : settle env c (transitionLaunch env t c) s = (.ok (.applied l'), s') := by
    unfold settle
    rw [hcall]
  obtain ⟨ledger, hledger, rfl⟩ := insertLedger_done hrecord
  refine ⟨l', _, hsettle, ⟨rfl, rfl, rfl, Revision.next_get hnext, ?_, ?_, ?_⟩, hheld.congr rfl⟩
  · exact (Table.find?_replaced hl (r := l') hid _).trans (if_pos rfl)
  · intro hunseen
    have hnone : ledger.find? c.context.requestId = none := hunseen.ledger
    rw [Table.find?_insert hledger] at hnone
    cases (if_pos rfl).symm.trans hnone
  · intro q hq
    have hfind : ledger.find? q = s.ledger.find? q := by
      rw [Table.find?_insert hledger]
      exact if_neg (Ne.symm hq)
    exact ⟨fun h => ⟨hfind.symm.trans h.ledger, h.journal⟩,
      fun h => ⟨hfind.trans h.ledger, h.journal⟩⟩

/-- A transition of a launch can be made, or it changes no launch, and nothing at all unless its
request is recorded. -/
theorem transitionLaunch_cases (env : Env) (t : Timestamp) (c : TransitionLaunch) (s : Store) :
    (∃ l, s.launches.find? c.attemptId = some l ∧ s.Movable c l) ∨
      (settle env c (transitionLaunch env t c) s).2.launches = s.launches ∧
        ((settle env c (transitionLaunch env t c) s).2 = s ∨
          ¬ (settle env c (transitionLaunch env t c) s).2.Unseen c.context.requestId) := by
  obtain ⟨v, s', hbody, heq⟩ | ⟨_, e, s1, s', u, hbody, hrecord, heq⟩ | ⟨e, heq⟩ :=
    settle_cases env c (transitionLaunch env t c) s
  · obtain ⟨value, a, -, hreplay, -⟩ | ⟨hnew, hdone⟩ := replayOr_done env hbody
    · obtain ⟨-, rfl⟩ := orAbort_done.mp hreplay
      rw [heq]
      exact .inr ⟨rfl, .inl rfl⟩
    · obtain ⟨r, hr, hdone⟩ := authorize_bind_done hdone
      simp only [looks_done] at hdone
      obtain ⟨l, hl, -, hexpected, l', happly, -, _, s2, ⟨revision, hnext, hcommit⟩, -⟩ := hdone
      obtain ⟨_, s3, hupdate, -⟩ := bind_done.mp hcommit
      simp only [updateLaunch, looks_done] at hupdate
      split at happly
      · next hvalid =>
        cases happly
        refine .inl ⟨l, hl, .of_replayLookup hnew, hexpected, hvalid.1, ?_⟩
        rw [← Revision.next_get hnext]
        exact hupdate.1.1
      · cases happly
  · have hrefuses : RefusesWithin (Path env fun _ l => l.LeavesLaunches)
        (transitionLaunch env t c) := by
      refine replayOr_refuses (RefusesWithin.bind (authorize_within
        (tolerant_leavesLaunches (W := fun _ => True))) fun _ => ?_)
      iterate 7 refine .bind (by simp) fun _ => ?_
      simp
    obtain ⟨ledger, hledger, rfl⟩ := insertLedger_done hrecord
    rw [heq]
    refine .inr ⟨(hrefuses s _ s1 hbody).launches_eq fun _ _ h => h, .inr fun hunseen => ?_⟩
    -- a refusal is recorded
    have hnone : ledger.find? c.context.requestId = none := hunseen.ledger
    rw [Table.find?_insert hledger] at hnone
    cases (if_pos rfl).symm.trans hnone
  · rw [heq]
    exact .inr ⟨rfl, .inl rfl⟩

/-- A transition that cannot be made does not make itself possible. -/
theorem transitionLaunch_stuck (env : Env) (t : Timestamp) {c : TransitionLaunch}
    (h : ∀ l, s.launches.find? c.attemptId = some l → ¬ s.Movable c l) :
    (settle env c (transitionLaunch env t c) s).2.launches = s.launches ∧
      ∀ l, s.launches.find? c.attemptId = some l →
        ¬ (settle env c (transitionLaunch env t c) s).2.Movable c l := by
  obtain ⟨l, hl, hmovable⟩ | ⟨hlaunches, hsame | hused⟩ := transitionLaunch_cases env t c s
  · exact absurd hmovable (h l hl)
  · rw [hsame]
    exact ⟨rfl, h⟩
  · exact ⟨hlaunches, fun _ _ hmovable => hused hmovable.unseen⟩

end Navigator
