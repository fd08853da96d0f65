/-
The life of an effect.

An effect is reserved, started and ended.  One whose end nobody saw is uncertain, and leaves
that state only by a resolution that is authorized and that its contract allows; a
resolution can give it one more start.  `JournalChange.effect` says how a call can change an
effect, whichever table the call is about; that an effect is started at most once for each
time it was authorized to (`effects_start_once_per_authorization`) is then a matter of
keeping accounts.
-/
import Navigator.Delivery
import Navigator.Lib.Tally

namespace Navigator

open Txn Tx

variable {env : Env} {s s' : Store} {t : Timestamp} {c : Command}
variable {result : Result} {q : RequestId} {e e' : EffectJournalEntry}
  {effects : Table EffectJournalEntry} {now : Timestamp} {revision : Revision}
  {d : ResolveAuthorizedEffect}
variable {phase p : EffectJournalPhase} {terminal : Option EffectTerminal} {r : SessionRecord}
  {e1 : EffectJournalEntry} {tr : ToolTransition} {current : ToolInvocationSnapshot}
  {step : ToolStep} {lease : Timestamp}

/-! ### Steps -/

/-- The phases an effect moves between without a resolution. -/
def EffectJournalPhase.moves : EffectJournalPhase → EffectJournalPhase → Bool
  | reserved, reserved | retryAuthorized, retryAuthorized | started, started => true
  | reserved, started | retryAuthorized, started => true
  | reserved, failed | retryAuthorized, failed => true
  | started, completed | started, failed | started, uncertain => true
  | _, _ => false

/-- How an effect changes: it moves, or it is uncertain and is resolved. -/
inductive EffectStep (s : Store) (c : Command) (result : Result) (e e' : EffectJournalEntry) : Prop
  | moved (phases : e.phase.moves e'.phase = true)
  | resolved {d : ResolveAuthorizedEffect} {now : Timestamp} {g : GrantSnapshot}
      {v : AuthorizedEffectResolution} (command : c = .resolveAuthorizedEffect d)
      (answer : result = .ok (.applied (.resolution v)))
      (named : d.effectRequestId = e.requestId) (grounds : d.Grounds s now e g v)
      (outcome : e'.phase = d.decision.resolution.phase)

/-- A change of an effect: nothing that identifies it changes, and its revision is the next. -/
structure EffectChange (s : Store) (c : Command) (result : Result) (e e' : EffectJournalEntry) :
    Prop where
  columns : e' = e.updatedBy e'
  next : e.revision.next = some e'.revision
  valid : e'.isValid = true
  step : EffectStep s c result e e'

/-- An effect that is reserved for a participant at work. -/
structure EffectJournalEntry.New (s : Store) (e : EffectJournalEntry) : Prop where
  phase : e.phase = .reserved
  revision : e.revision = .initial
  valid : e.isValid = true
  works : s.Works e.sessionId e.participantId e.operationId

/-- What a call makes of the effect under an identity. -/
inductive EffectOutcome (s : Store) (c : Command) (result : Result) (q : RequestId)
    (effects : Table EffectJournalEntry) : Prop
  | same (h : effects.find? q = s.journal.effects.find? q)
  | made {e : EffectJournalEntry} (absent : s.journal.effects.find? q = none)
      (found : effects.find? q = some e) (new : e.New s)
  | changed {e e' : EffectJournalEntry} (before : s.journal.effects.find? q = some e)
      (after : effects.find? q = some e') (change : EffectChange s c result e e')

/-- What setting the columns of an effect does to the effect under an identity. -/
theorem EffectOutcome.of_withEffect {q' : RequestId} {j : Journal}
    (heffects : j.effects = s.journal.effects) (hfound : s.journal.effects.find? q' = some e)
    (h : EffectChange s c result e e') :
    EffectOutcome s c result q (j.withEffect e').effects := by
  obtain rfl : e'.requestId = q' := by
    rw [h.columns]
    exact (EffectJournalEntry.requestId_of_found hfound :)
  by_cases hq : q = e'.requestId
  · subst hq
    refine .changed hfound ?_ h
    rw [Journal.find?_withEffect, if_pos rfl, heffects, hfound, Option.map_some, ← h.columns]
  · refine .same ?_
    rw [Journal.find?_withEffect, if_neg hq, heffects]

/-- What inserting an effect that is reserved does. -/
theorem EffectOutcome.of_insert (h : s.journal.effects.insert? e = some effects) (hnew : e.New s) :
    EffectOutcome s c result q effects := by
  have hfind := Table.find?_insert h q
  by_cases hq : e.requestId = q
  · subst hq
    exact .made (Table.insert?_fresh h) (hfind.trans (if_pos rfl)) hnew
  · exact .same (hfind.trans (if_neg hq))

theorem EffectTransition.next_moves {c : EffectTransition}
    (h : c.next e now = some (phase, terminal)) : e.phase.moves phase = true := by
  unfold next at h
  split at h
  all_goals first
    | (cases h; done)
    | (split at h <;> cases h <;> simp_all [EffectJournalPhase.moves])
    | (cases h; simp_all [EffectJournalPhase.moves])

theorem EffectTransition.next_valid {c : EffectTransition} (hvalid : e.isValid = true)
    (h : c.next e now = some (phase, terminal)) :
    (e.movedTo phase terminal revision).isValid = true := by
  rw [EffectJournalEntry.isValid_iff] at hvalid ⊢
  refine ⟨?_, hvalid.2⟩
  have hended := hvalid.1
  change phase.isEndedBy terminal = true
  have hnone : e.phase = .reserved ∨ e.phase = .retryAuthorized ∨ e.phase = .started →
      e.terminal = none := fun hphase =>
    EffectJournalPhase.isEndedBy_none hended (by rintro h; simp [h] at hphase)
      (by rintro h; simp [h] at hphase)
  unfold next at h
  split at h
  all_goals first
    | (cases h; done)
    | (split at h <;> cases h <;> simp_all [EffectJournalPhase.isEndedBy])
    | (cases h; simp_all [EffectJournalPhase.isEndedBy])

/-- A started effect may be in doubt. -/
theorem EffectJournalEntry.lapsed_valid (hvalid : e.isValid = true)
    (hstarted : e.phase = .started) : (e.lapsed revision).isValid = true := by
  rw [EffectJournalEntry.isValid_iff] at hvalid ⊢
  refine ⟨?_, hvalid.2⟩
  have hnone := EffectJournalPhase.isEndedBy_none hvalid.1 (by simp [hstarted]) (by simp [hstarted])
  simp [EffectJournalEntry.lapsed, hnone, EffectJournalPhase.isEndedBy]

/-- A takeover changes only who has the effect, and whether it is in doubt. -/
theorem TakeoverEffect.Takes.change {c' : TakeoverEffect} (h : c'.Takes t s r e e') :
    EffectChange s c result e e' := by
  obtain ⟨e1, htaken, heq⟩ := h.taken
  unfold TakeoverEffect.taken at htaken
  split at htaken
  · next hphase =>
    simp only [result_bind_ok, result_pure_ok] at htaken
    obtain ⟨lease, -, rfl⟩ := htaken
    rw [heq]
    exact ⟨rfl, h.next, h.valid, .moved (by simp [hphase, EffectJournalPhase.moves])⟩
  · next hphase =>
    cases htaken
    have hstarted := h.phase.resolve_left hphase
    rw [heq]
    exact ⟨rfl, h.next, EffectJournalEntry.lapsed_valid (e := e) h.valid hstarted,
      .moved (by simp [hstarted, EffectJournalPhase.moves])⟩

/-- A resolution leaves the phase it says, and nothing that identifies the effect changes. -/
theorem ResolveAuthorizedEffect.resolved_eq (h : d.resolved e now = .ok e1) :
    e1 = e.updatedBy e1 ∧ e1.phase = d.decision.resolution.phase ∧
      (e.isValid = true → e1.isValid = true) := by
  simp only [EffectJournalEntry.isValid_iff]
  unfold ResolveAuthorizedEffect.resolved at h
  cases hresolution : d.decision.resolution with
  | retryWithEffectProof proof =>
    simp only [hresolution, result_bind_ok, result_pure_ok] at h
    obtain ⟨lease, -, rfl⟩ := h
    exact ⟨rfl, rfl, fun hvalid => ⟨rfl, hvalid.2⟩⟩
  | _ =>
    simp only [hresolution] at h
    cases h
    exact ⟨rfl, rfl, fun hvalid => ⟨rfl, hvalid.2⟩⟩

/-- Where a transition takes an invocation and its effect: they stay in step, and the effect moves
to where its phase and its terminal agree. -/
theorem ToolTransition.step_sound (hmatches : current.phase.matches e.phase = true)
    (hended : e.phase.isEndedBy e.terminal = true) (h : tr.step env current e = some step) :
    e.phase.moves step.effectPhase = true ∧ step.phase.matches step.effectPhase = true ∧
      step.effectPhase.isEndedBy step.effectTerminal = true := by
  have hstays : current.phase = .reserved ∨ current.phase = .started →
      e.phase.moves e.phase = true := by
    rintro (hphase | hphase) <;> rw [hphase] at hmatches <;> cases he : e.phase <;>
      simp_all [ToolInvocationPhase.matches, EffectJournalPhase.moves]
  have hreserved : current.phase = .reserved →
      e.phase.moves .started = true ∧ e.phase.moves .failed = true := by
    intro hphase
    rw [hphase] at hmatches
    cases he : e.phase <;> simp_all [ToolInvocationPhase.matches, EffectJournalPhase.moves]
  have hstarted : current.phase = .started → e.phase = .started := by
    intro hphase
    rw [hphase] at hmatches
    cases he : e.phase <;> simp_all [ToolInvocationPhase.matches]
  unfold ToolTransition.step at h
  split at h
  · next hphase =>
    cases h
    exact ⟨(hreserved hphase).1, rfl, rfl⟩
  · next hphase =>
    split at h
    · obtain ⟨_, -, rfl⟩ := Option.map_eq_some_iff.mp h
      exact ⟨by rw [hstarted hphase]; rfl, rfl, rfl⟩
    · cases h
  · next hphase =>
    cases h
    exact ⟨by rw [hstarted hphase]; rfl, rfl, rfl⟩
  · next hphase =>
    split at h
    · cases h
      exact ⟨(hreserved hphase).2, rfl, rfl⟩
    · cases h
  · next hphase =>
    split at h
    · cases h
      exact ⟨by rw [hstarted hphase]; rfl, rfl, rfl⟩
    · cases h
  · next hphase =>
    cases h
    exact ⟨hstays (.inl hphase), hmatches, hended⟩
  · next hphase =>
    cases h
    exact ⟨hstays (.inr hphase), hmatches, hended⟩
  · cases h

theorem ReserveEffect.Reserves.new {d : ReserveEffect} (h : d.Reserves t s r lease effects) :
    (d.entry lease).New s :=
  ⟨rfl, rfl, EffectJournalEntry.isValid_iff.mpr ⟨rfl, h.valid⟩, h.works⟩

theorem ReserveToolInvocation.Dispatches.new {d : ReserveToolInvocation}
    {registration : ToolRegistrationSnapshot} {connection : ToolProviderConnectionSnapshot}
    {snapshot : ToolInvocationSnapshot} {tools : Table ToolInvocationRow}
    (h : d.Dispatches env s now registration connection lease snapshot effects tools) :
    (d.effect env registration.definition lease).New s :=
  ⟨rfl, rfl, EffectJournalEntry.isValid_iff.mpr ⟨rfl, rfl⟩, h.works⟩

/-- **How a call changes an effect.** -/
theorem JournalChange.effect {j : Journal} (h : JournalChange env t s c result j) (q : RequestId) :
    EffectOutcome s c result q j.effects := by
  cases h with
  | same => exact .same rfl
  | effectReserved made => exact .of_insert made.inserted made.new
  | effectLapsed made =>
    refine .of_withEffect rfl made.found ⟨rfl, made.next,
      EffectJournalEntry.lapsed_valid made.valid made.started, .moved ?_⟩
    rw [made.started]
    rfl
  | effectMoved made =>
    exact .of_withEffect rfl made.found
      ⟨rfl, made.next, EffectTransition.next_valid made.valid made.leads,
        .moved (EffectTransition.next_moves made.leads)⟩
  | effectTaken made => exact .of_withEffect rfl made.found made.change
  | @effectResolved d r e g v j effectMutations free owner grounds leaves =>
    obtain ⟨hfound, hvalid, -⟩ := loadEffect_ok_some grounds.found
    obtain ⟨e1, hresolved, heq⟩ := grounds.resolved
    obtain ⟨hcolumns, hphase, hresolvedValid⟩ := ResolveAuthorizedEffect.resolved_eq hresolved
    have heffects : j.effects = (s.journal.withEffect v.effectEntry).effects := by
      obtain ⟨-, -, rfl⟩ | ⟨_, _, _, -, rfl⟩ := leaves <;> rfl
    change EffectOutcome s _ _ q j.effects
    rw [heffects]
    refine .of_withEffect rfl hfound ⟨?_, grounds.next, ?_, .resolved rfl rfl
      (EffectJournalEntry.requestId_of_found hfound).symm grounds ?_⟩
    · rw [heq, hcolumns]
      rfl
    · rw [heq]
      exact hresolvedValid hvalid
    · rw [heq]
      exact hphase
  | toolRegistered => exact .same rfl
  | toolConnected => exact .same rfl
  | toolReserved made dispatched => exact .of_insert dispatched.inserted dispatched.new
  | toolAnswered => exact .same rfl
  | @toolMoved d r current updated e connection step revision toolMutations admitted moves =>
    obtain ⟨-, e', hloads⟩ := loadToolInvocation_ok_some admitted.loaded
    obtain rfl : e' = e := by simpa using hloads.effect.symm.trans admitted.found
    obtain ⟨hfound, hvalid, -⟩ := loadEffect_ok_some admitted.found
    obtain ⟨-, -, -, hrevision, -⟩ := ToolInvocationSnapshot.moved_eq moves.moved
    obtain ⟨hended, hcontract⟩ := EffectJournalEntry.isValid_iff.mp hvalid
    obtain ⟨hmoves, -, hended'⟩ := ToolTransition.step_sound hloads.phase hended moves.leads
    refine .of_withEffect TransitionToolInvocation.sequenced_effects hfound
      ⟨rfl, ?_, EffectJournalEntry.isValid_iff.mpr ⟨hended', hcontract⟩, .moved hmoves⟩
    change e'.revision.next = some updated.revision
    rw [hloads.revision, moves.next, hrevision]

/-! ### Reading effects back -/

/-- An effect that can be read: it is valid, and of an operation of its participant. -/
structure EffectJournalEntry.Stands (s : Store) (e : EffectJournalEntry) : Prop where
  valid : e.isValid = true
  participant : s.participantSession e.participantId = some e.sessionId
  operation : ∃ row, s.operations.find? e.operationId = some row ∧
    row.snapshot.sessionId = e.sessionId ∧ row.snapshot.participantId = e.participantId

theorem EffectJournalEntry.Stands.mono (h : e.Stands s) (hfollows : Follows s s') :
    e.Stands s' := by
  obtain ⟨row, hrow, hsession, hparticipant⟩ := h.operation
  obtain ⟨row', hrow', hprecedes⟩ := hfollows.operations _ row hrow
  refine ⟨h.valid, hfollows.participantSession h.participant, row', hrow', ?_, ?_⟩
  · exact (congrArg OperationIdentity.sessionId hprecedes.same).trans hsession
  · exact (congrArg OperationIdentity.participantId hprecedes.same).trans hparticipant

theorem EffectJournalEntry.New.stands (h : e.New s) : e.Stands s := by
  obtain ⟨p, o, hp, ho, hsession, hosession, hoparticipant, -⟩ := h.works
  obtain ⟨prow, hprow, rfl⟩ := loadParticipant_ok_some hp
  obtain ⟨row, hrow, rfl, -⟩ := loadOperation_ok_some ho
  refine ⟨h.valid, ?_, row, hrow, hosession, hoparticipant⟩
  rw [Store.participantSession, hprow]
  exact congrArg some hsession

theorem EffectChange.stands (h : EffectChange s c result e e') (he : e.Stands s) : e'.Stands s := by
  have hvalid := h.valid
  rw [h.columns] at hvalid ⊢
  exact ⟨hvalid, he.participant, he.operation⟩

/-- **Every effect stands** in every run. -/
theorem Reachable.effect_stands (h : Reachable env s) (he : s.journal.effects.find? q = some e) :
    e.Stands s := by
  refine Reachable.rec'
    (P := fun s => ∀ q e, s.journal.effects.find? q = some e → e.Stands s) ?_ ?_ h q e he
  · intro q e he
    cases he
  intro s s' hs hstands hstep q e he
  have hfollows : Follows s s' := Run.follows hs.sound (.single hstep)
  cases hstep with
  | call t c =>
    have hchange : JournalChange env t s c _ _ := exec_journal hs.sound t c
    cases hchange.effect q with
    | same hsame => exact (hstands q e (hsame.symm.trans he)).mono hfollows
    | made absent found new =>
      cases he.symm.trans found
      exact new.stands.mono hfollows
    | changed before after change =>
      cases he.symm.trans after
      exact (change.stands (hstands q _ before)).mono hfollows

theorem EffectJournalEntry.Stands.loads (h : e.Stands s) (hs : Sound s)
    (he : s.journal.effects.find? q = some e) :
    loadEffect s q = .ok (some e) := by
  obtain ⟨row, hrow, hsession, hparticipant⟩ := h.operation
  obtain ⟨prow, hprow, hp⟩ := Option.map_eq_some_iff.mp h.participant
  have hloadp := hs.tree.loadParticipant hprow
  have hloado := hs.operation_loads hrow
  simp [loadEffect, he, h.valid, hloadp, hloado, hp, hsession, hparticipant, Bind.bind, Except.bind]

/-! ### Accounts -/

/-- The phase of the effect under an identity. -/
def Store.effectPhase (s : Store) (q : RequestId) : Option EffectJournalPhase :=
  (s.journal.effects.find? q).map EffectJournalEntry.phase

/-- The starts an effect has left. -/
def EffectJournalPhase.startsLeft : Option EffectJournalPhase → ℕ
  | none | some reserved | some retryAuthorized => 1
  | some started | some uncertain | some completed | some failed => 0

/-- The store after a call. -/
def afterCall (env : Env) (s : Store) (call : Timestamp × Command) : Store :=
  (exec env call.1 call.2 s).2

theorem calls_eq_run (cs : List (Timestamp × Command)) (s : Store) :
    calls env cs s = Tally.run (afterCall env) cs s := by
  induction cs generalizing s with
  | nil => rfl
  | cons call rest ih => exact ih _

/-- One if a call makes an effect enter the phase `started`. -/
def entersStarted (env : Env) (q : RequestId) (s : Store) (call : Timestamp × Command) : ℕ :=
  if s.effectPhase q ≠ some .started ∧ (afterCall env s call).effectPhase q = some .started then 1
  else 0

/-- Whether a command is to retry an effect. -/
def Command.isRetryOf (q : RequestId) : Command → Bool
  | .resolveAuthorizedEffect c =>
    c.effectRequestId = q && c.decision.resolution.phase = .retryAuthorized
  | _ => false

/-- One if a call is a retry of an effect and is applied. -/
def retried (env : Env) (q : RequestId) (s : Store) (call : Timestamp × Command) : ℕ :=
  if call.2.isRetryOf q = true ∧ (exec env call.1 call.2 s).1.isApplied = true then 1 else 0

/-- The number of times some calls start an effect. -/
def starts (env : Env) (q : RequestId) : List (Timestamp × Command) → Store → ℕ :=
  Tally.tally (afterCall env) (entersStarted env q)

/-- The number of retries of an effect among some calls that are applied. -/
def retries (env : Env) (q : RequestId) : List (Timestamp × Command) → Store → ℕ :=
  Tally.tally (afterCall env) (retried env q)

theorem afterCall_sound (s : Store) (call : Timestamp × Command) (h : Sound s) :
    Sound (afterCall env s call) :=
  Run.sound h (.single (.call call.1 call.2))

/-- A call starts an effect only if it has a start left, and gives it a start only as an
applied retry. -/
theorem entersStarted_add_startsLeft_le (q : RequestId) (s : Store)
    (call : Timestamp × Command) (hs : Sound s) :
    entersStarted env q s call +
        EffectJournalPhase.startsLeft ((afterCall env s call).effectPhase q) ≤
      EffectJournalPhase.startsLeft (s.effectPhase q) + retried env q s call := by
  have hchange : JournalChange env call.1 s call.2 _ _ := exec_journal hs call.1 call.2
  cases hchange.effect q with
  | same h =>
    have heq : (afterCall env s call).effectPhase q = s.effectPhase q := congrArg _ h
    simp [entersStarted, heq]
  | made absent found new =>
    have hbefore : s.effectPhase q = none := by rw [Store.effectPhase, absent]; rfl
    have hafter : (afterCall env s call).effectPhase q = some .reserved := by
      rw [← new.phase]
      exact congrArg _ found
    simp [entersStarted, hbefore, hafter, EffectJournalPhase.startsLeft]
  | @changed e e' before after change =>
    have hbefore : s.effectPhase q = some e.phase := congrArg _ before
    have hafter : (afterCall env s call).effectPhase q = some e'.phase := congrArg _ after
    simp only [entersStarted, hbefore, hafter]
    cases change.step with
    | moved phases =>
      revert phases
      cases e.phase <;> cases e'.phase <;>
        simp [EffectJournalPhase.moves, EffectJournalPhase.startsLeft]
    | @resolved d now g v command answer named grounds outcome =>
      have hid := named.trans (EffectJournalEntry.requestId_of_found before)
      rw [grounds.concerns.1, outcome, retried, command, ← command, answer]
      cases hresolution : d.decision.resolution <;>
        simp [Command.isRetryOf, command, hid, hresolution, UncertaintyResolution.phase,
          Result.isApplied, EffectJournalPhase.startsLeft]

/-- The identity and the contract of an effect last. -/
theorem effect_lasts (hs : Sound s) (he : s.journal.effects.find? q = some e) (t : Timestamp)
    (c : Command) :
    ∃ e', (exec env t c s).2.journal.effects.find? q = some e' ∧
      (e' = e ∨ EffectChange s c (exec env t c s).1 e e') := by
  have hchange : JournalChange env t s c _ _ := exec_journal hs t c
  cases hchange.effect q with
  | same h => exact ⟨e, h.trans he, .inl rfl⟩
  | made absent => cases absent.symm.trans he
  | changed before after change =>
    cases before.symm.trans he
    exact ⟨_, after, .inr change⟩

/-- A resolution that is applied has grounds. -/
theorem resolution_grounds (hs : Sound s)
    (h : (exec env t (.resolveAuthorizedEffect d) s).1.isApplied = true) :
    ∃ now e g v, d.Grounds s now e g v := by
  have hchange : JournalChange env t s (.resolveAuthorizedEffect d) _ _ := exec_journal hs t _
  generalize (exec env t (.resolveAuthorizedEffect d) s).1 = result at hchange h
  generalize (exec env t (.resolveAuthorizedEffect d) s).2.journal = j at hchange
  cases hchange with
  | same idle =>
    obtain ⟨a, ha⟩ := Result.exists_applied h
    exact absurd ha (idle rfl a)
  | effectResolved _ _ grounds => exact ⟨_, _, _, _, grounds⟩

theorem ResolveAuthorizedEffect.Grounds.allowRetry {g : GrantSnapshot}
    {v : AuthorizedEffectResolution} (h : d.Grounds s now e g v)
    (hphase : d.decision.resolution.phase = .retryAuthorized) :
    e.resolutionContract.allowRetryWithProof = true := by
  have hallowed := h.allowed
  cases hresolution : d.decision.resolution with
  | retryWithEffectProof proof =>
    simp only [hresolution, EffectResolutionContract.allows,
      EffectResolutionContract.allowsRetryProof, Bool.and_eq_true] at hallowed
    exact hallowed.1.1
  | _ =>
    rw [hresolution] at hphase
    cases hphase

/-- Whether the contract of an effect allows a retry. -/
def Store.allowsRetry (s : Store) (q : RequestId) : Prop :=
  ∃ e, s.journal.effects.find? q = some e ∧ e.resolutionContract.allowRetryWithProof = true

theorem retries_eq_zero (hs : Sound s) (cs : List (Timestamp × Command))
    (hend : ¬ (calls env cs s).allowsRetry q) : retries env q cs s = 0 := by
  refine Tally.tally_eq_zero (I := Sound) (M := fun s => s.allowsRetry q) afterCall_sound
    ?_ ?_ cs hs (calls_eq_run cs s ▸ hend)
  · rintro s call hs ⟨e, he, hallows⟩
    obtain ⟨e', he', rfl | hchange⟩ := effect_lasts hs he call.1 call.2
    · exact ⟨e', he', hallows⟩
    · refine ⟨e', he', ?_⟩
      rw [hchange.columns]
      exact hallows
  · rintro s ⟨t, c⟩ hs hretried
    obtain ⟨hretry, happlied⟩ : c.isRetryOf q = true ∧ (exec env t c s).1.isApplied = true := by
      by_contra hnot
      exact hretried (if_neg hnot)
    unfold Command.isRetryOf at hretry
    split at hretry
    · next d =>
      obtain ⟨now, e, g, v, hgrounds⟩ := resolution_grounds hs happlied
      obtain ⟨rfl, hphase⟩ : d.effectRequestId = q ∧
          d.decision.resolution.phase = .retryAuthorized := by simpa using hretry
      exact ⟨e, (loadEffect_ok_some hgrounds.found).1, hgrounds.allowRetry hphase⟩
    · cases hretry

/-- **Effects are started at most once for each time they are authorized to**: once, and once
more for each retry that was applied; an effect with the conservative contract is never
retried.  A call leaves an effect that is completed or failed as it is; one that is
uncertain it changes only as an applied resolution, which has grounds, by a grant and the
effect's contract; and each change of an effect raises its revision by one. -/
theorem effects_start_once_per_authorization (q : RequestId) (cs : List (Timestamp × Command)) :
    starts env q cs .empty ≤ 1 + retries env q cs .empty ∧
    (∀ e, (calls env cs .empty).journal.effects.find? q = some e →
      e.resolutionContract = .conservative → starts env q cs .empty ≤ 1) ∧
    ∀ s, Reachable env s → ∀ e, s.journal.effects.find? q = some e → ∀ t c,
      ∃ e', (exec env t c s).2.journal.effects.find? q = some e' ∧
        (e.phase = .completed ∨ e.phase = .failed → e' = e) ∧
        (e.phase = .uncertain → e' ≠ e → ∃ d now g v, c = .resolveAuthorizedEffect d ∧
          (exec env t c s).1 = .ok (.applied (.resolution v)) ∧ d.effectRequestId = q ∧
          d.Grounds s now e g v ∧ e.resolutionContract.allows d.decision.resolution = true ∧
          e'.phase = d.decision.resolution.phase) ∧
        (e' ≠ e → e'.revision.get = e.revision.get + 1) := by
  have hempty : Store.empty.effectPhase q = none := rfl
  have hstarts : starts env q cs .empty ≤ 1 + retries env q cs .empty := by
    have hpaid := Tally.tally_add_le (I := Sound) (entersStarted env q) (retried env q)
      (fun s => EffectJournalPhase.startsLeft (s.effectPhase q)) afterCall_sound
      (entersStarted_add_startsLeft_le q) cs Sound.empty
    rw [hempty] at hpaid
    exact (Nat.le_add_right _ _).trans hpaid
  refine ⟨hstarts, fun e he hcontract => ?_, fun s hs e he t c => ?_⟩
  · have hnone : retries env q cs .empty = 0 := by
      refine retries_eq_zero Sound.empty cs ?_
      rintro ⟨e', he', hallows⟩
      cases he.symm.trans he'
      rw [hcontract] at hallows
      cases hallows
    omega
  · obtain ⟨e', he', rfl | hchange⟩ := effect_lasts hs.sound he t c
    · exact ⟨e', he', fun _ => rfl, fun _ hne => absurd rfl hne, fun hne => absurd rfl hne⟩
    refine ⟨e', he', fun hended => ?_, fun huncertain _ => ?_, fun _ =>
      Revision.next_get hchange.next⟩
    · cases hchange.step with
      | moved phases => rcases hended with h | h <;> simp [h, EffectJournalPhase.moves] at phases
      | resolved _ _ _ grounds =>
        rw [grounds.concerns.1] at hended
        rcases hended with h | h <;> cases h
    · cases hchange.step with
      | moved phases => simp [huncertain, EffectJournalPhase.moves] at phases
      | @resolved d now g v command answer named grounds outcome =>
        exact ⟨d, now, g, v, command, answer,
          named.trans (EffectJournalEntry.requestId_of_found he), grounds, grounds.allowed,
          outcome⟩

namespace Sample

/-- The driver has accepted the input of the operation, and runs it. -/
def running : Store :=
  calls world [(seconds 0, .transitionMessageDelivery ⟨request 8, session, epoch, input, id 0,
      ⟨2, Nat.two_pos⟩, .acceptancePending⟩),
    (seconds 0, .transitionMessageDelivery ⟨request 9, session, epoch, input, id 0,
      ⟨3, three_pos⟩, .accepted 5⟩),
    (seconds 0, .transitionOperation ⟨request 10, session, epoch, operation, .initial,
      .beginStart, none, none⟩),
    (seconds 0, .transitionOperation ⟨request 11, session, epoch, operation, ⟨2, Nat.two_pos⟩,
      .reportRunning, some input, none⟩)] leased

theorem running_reachable : Reachable world running :=
  leased_reachable.trans (run_calls _ _)

/-- An effect of the operation, reserved under the identity numbered `n`. -/
def reserveEffect (n : ℕ) (contract : EffectResolutionContract) : ReserveEffect :=
  ⟨request n, session, root, operation, epoch, ⟨"file.write"⟩, 9, .nonIdempotent, contract,
    ⟨5000000000⟩⟩

/-- The change of an effect from a revision. -/
def changeEffect (n m : ℕ) (revision : Revision) (resolution : Option EffectResolution) :
    EffectTransition :=
  ⟨request n, id m, epoch, revision, resolution⟩

/-- An effect is reserved, started and completed. -/
def effectCalls : List (Timestamp × Command) :=
  [(seconds 1, .reserveEffect (reserveEffect 20 .conservative)),
    (seconds 1, .transitionEffect (changeEffect 21 20 .initial none)),
    (seconds 2, .transitionEffect (changeEffect 22 20 ⟨2, Nat.two_pos⟩
      (some (.completed ⟨[1], by decide⟩))))]

end Sample

example : starts Sample.world (Sample.id 20) Sample.effectCalls Sample.running = 1 := by
  decide +kernel

end Navigator
