/-
Calls as deeds: sessions, ownership, launches and templates.

Opening, closing and owning a session are deeds to its row; launches and templates are
beside the point.  A session that is acquired was free at its new time floor, and one
that is renewed was held: this is all that fencing rests on.
-/
import Navigator.Deeds.Calls

namespace Navigator

open Txn Tx

variable {env : Env} {W : LedgerRow → Prop} {P : Store → Label → Prop} {s s' : Store}
variable {c : OpenSession} {now t : Timestamp} {sessionId : SessionId}
  {wrap : LaunchSnapshot → Answer}

/-! ### Opening -/

/-- A new row and its manifest. -/
theorem openRows_path (hP : Tolerant W P) {u v : Unit} {s1 s2 : Store}
    (hrow : insertSessionRow c now s = .done u s1)
    (hmanifest : insertSessionManifest c s1 = .done v s2) : Path env P s s2 := by
  simp only [insertSessionRow, looks_done] at hrow
  obtain ⟨-, halone, sessions, hinsert, rfl⟩ := hrow
  obtain ⟨manifest, hrows, rfl⟩ := insertBindings_done hmanifest
  have hkept (key : String) : (c.row key now).Kept :=
    ⟨le_rfl, le_rfl, fun hclosed => Bool.noConfusion hclosed, fun _ howner => (by cases howner),
      show 1 < i64Bound by decide, show 0 < i64Bound by decide⟩
  refine SessionDeed.path hP (.opened hinsert (hkept _) hrows (fun row hmem => ?_) halone)
  obtain ⟨b, -, rfl⟩ := List.mem_map.mp (List.mem_reverse.mp hmem)
  rfl

theorem createSession_path (hP : Tolerant W P) {u : Unit}
    (h : createSession env c now s = .done u s') : Path env P s s' := by
  obtain ⟨_, s1, hrow, h⟩ := bind_done.mp h
  obtain ⟨_, s2, hmanifest, h⟩ := bind_done.mp h
  exact (openRows_path hP hrow hmanifest).trans ((appendEventData_within.1 _ _ _ h).path hP)

theorem openSession_path (hP : Tolerant (Writes env c) P) {wrap : SessionSnapshot → Answer} :
    Path env P s (ledgered env c wrap (openSession env t c) s).2 := by
  refine mutation_path_of_within hP (fun value => ?_) ?_
  · unfold replayOpen
    repeat refine .bind (by simp) fun _ => ?_
    simp
  · refine .bind (by simp) fun _ => Within.bind (by simp) fun row => ?_
    cases row with
    | some row =>
      have hrecord : Within (Path env P)
          (record env c.sessionId c .unchanged (.session row.snapshot)) :=
        record_within hP
      unfold openExisting
      repeat refine Within.bind (by simp [hrecord]) fun _ => ?_
      simp
    | none =>
      have hcreate : Within (Path env P) (do
          createSession env c t
          record env c.sessionId c .applied (.session (c.created t))) :=
        Within.bind (.of_done fun _ _ _ h => createSession_path hP h) fun _ =>
          record_within hP
      unfold openNew
      repeat refine Within.bind (by simp [hcreate]) fun _ => ?_
      simp

/-! ### Templates -/

theorem insertMissingTemplates_within {templates : List TemplateRecord} :
    Within (Aside env) (insertMissingTemplates env templates) := by
  refine .of_done fun s _ s' h => each_induction (motive := fun _ s' => Aside env s s')
    (fun t _ s s' hs h => hs.trans ?_) (.refl env s) h
  simp only [looks_done] at h
  obtain ⟨existing, -, h⟩ := h
  cases existing with
  | some _ =>
    cases h
    exact .refl _ _
  | none =>
    simp only [looks_done] at h
    obtain ⟨rows, hrows, rfl⟩ := h
    exact { Aside.refl env s with templates := .insert hrows }

theorem openResolved_path {c : RegisterTemplatesAndOpenSession} (hP : Tolerant (Writes env c) P)
    {target : OpenSession} {v : Mutation SessionSnapshot}
    (h : openResolved env t c target s = .done v s') : Path env P s s' := by
  simp only [openResolved, looks_done] at h
  obtain ⟨-, -, row, -, h⟩ := h
  cases row with
  | some row =>
    simp only [looks_done] at h
    obtain ⟨-, -, h⟩ := h
    obtain ⟨_, s1, htemplates, h⟩ := bind_done.mp h
    obtain ⟨_, s2, hrecord, h⟩ := bind_done.mp h
    cases h
    exact ((insertMissingTemplates_within.1 _ _ _ htemplates).path hP).trans
      ((record_within hP).done hrecord)
  | none =>
    obtain ⟨_, s1, htemplates, h⟩ := bind_done.mp h
    obtain ⟨_, s2, hrow, h⟩ := bind_done.mp h
    obtain ⟨_, s3, hmanifest, h⟩ := bind_done.mp h
    obtain ⟨_, s4, hevent, h⟩ := bind_done.mp h
    obtain ⟨_, s5, hrecord, h⟩ := bind_done.mp h
    cases h
    exact ((insertMissingTemplates_within.1 _ _ _ htemplates).path hP).trans
      ((openRows_path hP hrow hmanifest).trans (((appendEvent_within.1 _ _ _ hevent).path hP).trans
          ((record_within hP).done hrecord)))

theorem resolveOpenMode_within {R : Store → Store → Prop} [IsTrans Store R] [Std.Refl R] :
    Within R (resolveOpenMode c) := by
  unfold resolveOpenMode
  split
  · simp
  refine .bind (by simp) fun existing => ?_
  cases existing with
  | some existingId =>
    repeat refine .bind (by simp) fun _ => ?_
    simp
  | none =>
    simp

theorem registerTemplatesAndOpenSession_path {c : RegisterTemplatesAndOpenSession}
    (hP : Tolerant (Writes env c) P) {wrap : SessionSnapshot → Answer} :
    Path env P s (ledgered env c wrap (registerTemplatesAndOpenSession env t c) s).2 := by
  refine mutation_path_of_within hP (fun value => ?_) ?_
  · repeat refine .bind (by simp) fun _ => ?_
    simp
  · exact Within.bind resolveOpenMode_within fun target =>
      Within.commit (.of_done fun _ _ _ h => openResolved_path hP h)

theorem registerTemplate_path (hP : Tolerant W P) {template : TemplateRecord}
    {wrap : TemplateRecord → Answer} :
    Path env P s (unledgered wrap (registerTemplate env template) s).2 := by
  have hwithin : Within (Path env P) (registerTemplate env template) := by
    refine .bind (by simp) fun _ => .bind (by simp) fun _ => .bind (by simp) fun existing => ?_
    cases existing with
    | some existing => simp
    | none =>
      refine within_aside hP ⟨fun s v s' h => ?_, ?_⟩
      · simp only [looks_done] at h
        obtain ⟨rows, hrows, -, rfl⟩ := h
        exact { Aside.refl env s with templates := .insert hrows }
      · refine RefusesWithin.bind (by simp) fun _ => .bind (by simp) fun _ => ?_
        exact fun _ _ _ h => by cases h
  exact unledgered_path (fun v s' h => hwithin.1 s v s' h) fun r s' h => hwithin.2 s r s' h

/-! ### Ownership -/

/-- What precedes a change of ownership: the session is open, and time is seen to pass. -/
theorem observed_refuses (hP : Tolerant W P) {α : Type} {action : StoreAction}
    {rest : SessionRow → Timestamp → Call α}
    (hrest : ∀ row now, RefusesWithin (Path env P) (rest row now)) :
    RefusesWithin (Path env P) (do
      let row ← acceptOr (sessionId, ·) (← read (requireOpenSession sessionId action))
      let now ← advanceTimeFloor sessionId row.timeFloor t
      rest row now) := by
  intro s reason s' h
  change (acceptOr (sessionId, ·) (requireOpenSession sessionId action s) >>= _) s = _ at h
  cases hrow : requireOpenSession sessionId action s with
  | error e =>
    rw [hrow] at h
    cases h
    exact .refl
  | ok row =>
    rw [hrow] at h
    obtain ⟨r, hr, -, hdecodes⟩ := requireOpenSession_ok hrow
    have hfloor : Path env P s _ := withFloor_path hP hr t
    rw [← hdecodes.floor] at hfloor
    exact hfloor.trans (hrest row _ _ reason s' h)

theorem closeSession_path {c : CloseSession} (hP : Tolerant (Writes env c) P)
    {wrap : SessionSnapshot → Answer} :
    Path env P s (ledgered env c wrap (closeSession env t c) s).2 := by
  refine mutation_path hP (fun value => ?_) (fun v s' h => ?_) (observed_refuses hP fun _ _ => ?_)
  · simp
  · simp only [looks_done, advanceTimeFloor_bind_done] at h
    obtain ⟨row, hrow, -, -, snapshot, hclose, _, s1, ⟨hfits, h⟩, -, rfl⟩ := h
    obtain ⟨r, hr, -, hdecodes⟩ := requireOpenSession_ok hrow
    rw [hdecodes.floor] at h
    obtain ⟨_, s2, hupdate, h⟩ := bind_done.mp h
    have heq := updateHeldSession_done hupdate
    subst heq
    have hvacated := SessionDeed.vacated snapshot.revision (fun _ => true)
      (Store.find?_withFloor hr (max r.timeFloor t)) (SessionSnapshot.close_revised hclose) hfits
      fun _ _ => rfl
    exact (withFloor_path hP hr t).trans ((hvacated.path hP).trans
      ((told_within hP appendEventData_within).done h))
  · repeat refine .bind (by simp) fun _ => ?_
    simp

theorem takeOwnership_path {c : AcquireOwnership} (hP : Tolerant (Writes env c) P)
    {row : SessionRow} {r : SessionRecord} {expiresAt : Timestamp} {lease : OwnershipLease}
    (hr : s.sessions.find? c.sessionId = some r) (hwater : row.epochHighWater = r.epochHighWater)
    (hfree : ∀ held ∈ r.owner, held.2 ≤ r.timeFloor) (hnow : now = r.timeFloor)
    (hlater : now < expiresAt) (h : takeOwnership env c row now expiresAt s = .done lease s') :
    Path env P s s' := by
  subst hnow
  simp only [takeOwnership, looks_done] at h
  obtain ⟨-, revision, hrevision, hfits, h⟩ := h
  obtain ⟨_, s2, hevent, h⟩ := bind_done.mp h
  obtain ⟨_, s3, hrecord, h⟩ := bind_done.mp h
  cases h
  have hoccupied := SessionDeed.occupied c.context.caller expiresAt
    ⟨row.epochHighWater + 1, Nat.succ_pos _⟩ revision hr (Revision.next_ne_initial hrevision)
    (Timestamp.before_isSome hlater) hfree (congrArg (· + 1) hwater) hfits.symm
  exact (hoccupied.path hP).trans (((appendEvent_within.1 _ _ _ hevent).path hP).trans
      ((record_within hP).done hrecord))

theorem replayLease_within {caller : HostId} {epoch : Option FencingEpoch}
    {duration : LeaseDuration} {value : StoredValue} :
    Within Eq (replayLease sessionId caller epoch duration value) := by
  unfold replayLease
  simp

theorem acquireOwnership_path {c : AcquireOwnership} (hP : Tolerant (Writes env c) P)
    {wrap : OwnershipLease → Answer} :
    Path env P s (ledgered env c wrap (acquireOwnership env t c) s).2 := by
  refine mutation_path hP (fun value => replayLease_within) (fun v s' h => ?_)
    (observed_refuses hP fun _ _ => ?_)
  · simp only [looks_done, advanceTimeFloor_bind_done] at h
    obtain ⟨row, hrow, expiresAt, -, hlater, _, hunowned, lease, s1, h, -, rfl⟩ := h
    obtain ⟨r, hr, -, hdecodes⟩ := requireOpenSession_ok hrow
    rw [hdecodes.floor] at h hunowned hlater
    have hfree : ∀ held ∈ r.owner, held.2 ≤ max r.timeFloor t := requireUnowned_ok hdecodes hunowned
    exact (withFloor_path hP hr t).trans (takeOwnership_path hP
      (Store.find?_withFloor hr _) hdecodes.highWater hfree rfl hlater h)
  · repeat refine .bind (by simp) fun _ => ?_
    simp

theorem renewOwnership_path {c : RenewOwnership} (hP : Tolerant (Writes env c) P)
    {wrap : OwnershipLease → Answer} :
    Path env P s (ledgered env c wrap (renewOwnership env t c) s).2 := by
  refine mutation_path hP (fun value => replayLease_within) (fun v s' h => ?_)
    (observed_refuses hP fun _ _ => ?_)
  · simp only [looks_done, advanceTimeFloor_bind_done] at h
    obtain ⟨row, hrow, _, howner, expiresAt, -, hlater, _, s1, ⟨-, h⟩, -, rfl⟩ := h
    obtain ⟨r, hr, hdecodes⟩ := Store.authorized_of_ok hrow howner
    rw [hdecodes.floor] at h
    obtain ⟨_, s2, hupdate, hrecord⟩ := bind_done.mp h
    have heq := updateHeldSession_done hupdate
    subst heq
    exact (withFloor_path hP hr.found t).trans ((SessionDeed.path hP (.extended _ _ _
      (Store.find?_withFloor hr.found _) (Timestamp.before_isSome hlater) hr.held)).trans
        ((record_within hP).done hrecord))
  · repeat refine .bind (by simp) fun _ => ?_
    simp

theorem releaseOwnership_path {c : ReleaseOwnership} (hP : Tolerant (Writes env c) P)
    {wrap : OwnershipSnapshot → Answer} :
    Path env P s (ledgered env c wrap (releaseOwnership env t c) s).2 := by
  refine mutation_path hP (fun value => ?_) (fun v s' h => ?_) (observed_refuses hP fun _ _ => ?_)
  · simp
  · simp only [looks_done, advanceTimeFloor_bind_done] at h
    obtain ⟨row, hrow, -, -, _, s1, ⟨revision, hrevision, hfits, h⟩, -, rfl⟩ := h
    obtain ⟨r, hr, -, hdecodes⟩ := requireOpenSession_ok hrow
    rw [hdecodes.floor] at h
    obtain ⟨_, s2, hupdate, h⟩ := bind_done.mp h
    have heq := updateHeldSession_done hupdate
    subst heq
    have hvacated := SessionDeed.vacated revision SessionRecord.closed
      (Store.find?_withFloor hr (max r.timeFloor t)) (Revision.next_ne_initial hrevision) hfits.1
      fun _ h => h
    exact (withFloor_path hP hr t).trans ((hvacated.path hP).trans
      ((told_within hP appendEvent_within).done h))
  · simp

/-! ### Launches -/

/-- A launch is prepared. -/
def PrepareLaunch.Prepares (env : Env) (t : Timestamp) (c : PrepareLaunch) (s s' : Store) : Prop :=
  ∃ r launches u, s.sessions.find? c.sessionId = some r ∧
    s.cancellationRequested c.participantId = false ∧
    s.launches.insert? c.launch = some launches ∧
    record env c.sessionId c .applied (.launch c.launch)
      { s.withFloor c.sessionId (max r.timeFloor t) with launches } = .done u s'

theorem prepareLaunch_cases {c : PrepareLaunch} (hP : Tolerant (Writes env c) P) :
    c.Prepares env t s (ledgered env c wrap (prepareLaunch env t c) s).2 ∨
    Path env P s (ledgered env c wrap (prepareLaunch env t c) s).2 := by
  refine mutation_or hP (fun value => ?_) (fun v s' h => ?_) ?_
  · repeat refine .bind (by simp) fun _ => ?_
    simp
  · obtain ⟨r, hr, h⟩ := authorize_bind_done h
    simp only [looks_done] at h
    obtain ⟨hactive, h⟩ := h
    cases hfound : s.launches.find? c.attemptId with
    | some existing =>
      simp only [Store.withFloor, hfound, looks_done] at h
      obtain ⟨-, _, s2, hrecord, -, rfl⟩ := h
      exact .inr ((withFloor_path hP hr.found t).trans ((record_within hP).done hrecord))
    | none =>
      simp only [Store.withFloor, hfound, looks_done] at h
      obtain ⟨_, s2, hcommit, -, rfl⟩ := h
      obtain ⟨u, s3, hinsert, hrecord⟩ := bind_done.mp hcommit
      simp only [insertLaunch, looks_done] at hinsert
      obtain ⟨-, launches, hinsert, rfl⟩ := hinsert
      exact .inl ⟨r, launches, _, hr.found, hactive, hinsert, hrecord⟩
  · refine RefusesWithin.bind (authorize_within hP) fun _ => ?_
    iterate 3 refine .bind (by simp) fun _ => ?_
    split
    · simp
    · simp

theorem prepareLaunch_path {c : PrepareLaunch} (hP : Tolerant (Writes env c) P)
    (hL : ∀ s, P s .launch) : Path env P s (ledgered env c wrap (prepareLaunch env t c) s).2 := by
  obtain ⟨r, launches, u, hr, hactive, hinsert, hrecord⟩ | h := prepareLaunch_cases hP
  · have hprepared : LaunchDeed (s.withFloor c.sessionId (max r.timeFloor t))
        { s.withFloor c.sessionId (max r.timeFloor t) with launches } :=
      .prepared hinsert hactive
    exact (withFloor_path hP hr t).trans ((hprepared.path hL).trans
      ((record_within hP).done hrecord))
  · exact h

/-- A change of a launch that leaves it where it is. -/
def LaunchStays (apply : LaunchSnapshot → Except StoreError LaunchSnapshot) : Prop :=
  ∀ l l', apply l = .ok l' → l'.attemptId = l.attemptId ∧ l'.sessionId = l.sessionId ∧
    l'.participantId = l.participantId

/-- A launch is changed as a request says, as the only one with its instance. -/
def ChangesLaunch {χ : Type} [MutableRequest χ] (env : Env) (t : Timestamp)
    (sessionId : SessionId) (attemptId : LaunchAttemptId) (request : χ)
    (apply : LaunchSnapshot → Except StoreError LaunchSnapshot) (s s' : Store) : Prop :=
  ∃ r l l' revision u, s.sessions.find? sessionId = some r ∧
    s.launches.find? attemptId = some l ∧ apply l = .ok l' ∧
    l'.revision.next = some revision ∧
    (∀ x ∈ s.launches, l'.instanceId.isSome = true → x.instanceId = l'.instanceId →
      x.attemptId = attemptId) ∧
    record env sessionId request .applied (.launch { l' with revision })
      { s.withFloor sessionId (max r.timeFloor t) with
        launches := s.launches.replace { l' with revision } } = .done u s'

section Mutating

variable {χ : Type} [MutableRequest χ] {t : Timestamp} {sessionId : SessionId}
  {epoch : FencingEpoch} {attemptId : LaunchAttemptId} {expected : Revision} {request : χ}
  {apply : LaunchSnapshot → Except StoreError LaunchSnapshot} {wrap : LaunchSnapshot → Answer}

theorem mutateLaunch_cases (hP : Tolerant (Writes env request) P) :
    ChangesLaunch env t sessionId attemptId request apply s (ledgered env request wrap
      (mutateLaunch env t sessionId epoch attemptId expected request apply) s).2 ∨
    Path env P s (ledgered env request wrap
      (mutateLaunch env t sessionId epoch attemptId expected request apply) s).2 := by
  refine mutation_or hP (fun value => by simp) (fun v s' h => ?_) ?_
  · obtain ⟨r, hr, h⟩ := authorize_bind_done h
    simp only [looks_done] at h
    obtain ⟨l, hl, -, -, l', happly, halone, _, s2, ⟨revision, hnext, hcommit⟩, -, rfl⟩ := h
    obtain ⟨_, s3, hupdate, h⟩ := bind_done.mp hcommit
    obtain ⟨u, s4, hrecord, h⟩ := bind_done.mp h
    cases h
    simp only [updateLaunch, looks_done] at hupdate
    obtain ⟨-, current, -, -, rfl⟩ := hupdate
    exact .inl ⟨r, l, l', revision, u, hr.found, hl, happly, hnext, halone, hrecord⟩
  · refine RefusesWithin.bind (authorize_within hP) fun _ => ?_
    iterate 7 refine .bind (by simp) fun _ => ?_
    simp

theorem mutateLaunch_path (hP : Tolerant (Writes env request) P) (hL : ∀ s, P s .launch)
    (hstays : LaunchStays apply) :
    Path env P s (ledgered env request wrap
      (mutateLaunch env t sessionId epoch attemptId expected request apply) s).2 := by
  obtain ⟨r, l, l', revision, u, hr, hl, happly, -, -, hrecord⟩ | h :=
    mutateLaunch_cases (s := s) hP
  · obtain ⟨hattempt, hsession, hparticipant⟩ := hstays l l' happly
    have hfound : s.launches.find? l'.attemptId = some l :=
      (congrArg _ (hattempt.trans (Table.key_of_find? hl))).trans hl
    have hchanged : LaunchDeed (s.withFloor sessionId (max r.timeFloor t))
        { s.withFloor sessionId (max r.timeFloor t) with
          launches := s.launches.replace { l' with revision } } :=
      .changed hfound hsession hparticipant
    exact (withFloor_path hP hr t).trans ((hchanged.path hL).trans
      ((record_within hP).done hrecord))
  · exact h

end Mutating

theorem attachLaunch_path {c : AttachLaunch} (hP : Tolerant (Writes env c) P)
    (hL : ∀ s, P s .launch) : Path env P s (ledgered env c wrap (attachLaunch env t c) s).2 := by
  refine mutateLaunch_path hP hL fun l l' h => ?_
  split at h
  · cases h
    exact ⟨rfl, rfl, rfl⟩
  · cases h

theorem transitionLaunch_path {c : TransitionLaunch} (hP : Tolerant (Writes env c) P)
    (hL : ∀ s, P s .launch) :
    Path env P s (ledgered env c wrap (transitionLaunch env t c) s).2 := by
  refine mutateLaunch_path hP hL fun l l' h => ?_
  split at h
  · cases h
    exact ⟨rfl, rfl, rfl⟩
  · cases h

end Navigator
