/-
The safety barrier of recovery.

Nothing is recorded and nothing is done before the session is owned and everything in it is
classified; nothing is done before the classifications are recorded; and what is done is
done once, in order, to what was found.

* **`Reconciler.Barrier`** — the shape of the history of a reconciliation;
* **`recovery_barrier`** — every reconciliation has it, whatever the backend answers.
-/
import Navigator.Core.Reconciler
import Navigator.Accounting

namespace Navigator

open Prog

variable {candidates : List RecoveryCandidate} {seen : List RecoveryEntity} {d : ClassifiedRecovery}
  {rest : List (RecoveryCandidate × ClassifiedRecovery)}

/-! ### Kinds -/

inductive RecoveryKind where
  | session | participant | driverInstance | operation | message | effect
deriving DecidableEq

def RecoveryEntity.kind : RecoveryEntity → RecoveryKind
  | session _ => .session
  | participant _ => .participant
  | driverInstance _ => .driverInstance
  | operation .. => .operation
  | message _ => .message
  | effect _ => .effect

def RecoveryState.kind : RecoveryState → RecoveryKind
  | sessionOpen => .session
  | participantRegistered => .participant
  | instancePrepared | instanceAttached | instanceReady | instanceStopping
  | instanceCleanupRequired | instanceStopped => .driverInstance
  | operationQueued | operationStarting | operationRunning | operationWaiting
  | operationCancelling | operationTerminal => .operation
  | messageQueued | messageRetryScheduled | messageRetryDeferred | messageLeased
  | messageLeaseActive | messageAcceptancePending | messageAcceptanceUnknown | messageAccepted
  | messageUncertain | messageDeadLetter => .message
  | effectReserved | effectStartedRetryable | effectStartedUnsafe | effectCompleted => .effect

/-- What an action is done to. -/
def RecoveryAction.kind? : RecoveryAction → Option RecoveryKind
  | scheduleExistingOperation => some .operation
  | redeliverExactMessage => some .message
  | reconnectExactInstance | cleanupVerifiedResource => some .driverInstance
  | continue_ | awaitResolution | none => Option.none

/-- The decision about a state is an action on what has such states. -/
theorem classifyRecovery_kind {state : RecoveryState} {observation : LiveObservation}
    {decision : RecoveryDecision} (h : classifyRecovery state observation = .ok decision)
    {kind : RecoveryKind} (hkind : decision.action.kind? = some kind) : state.kind = kind := by
  have hall : ∀ state observation, (match classifyRecovery state observation with
      | .ok d => d.action.kind?.all (· = state.kind)
      | .error _ => true) = true := by
    intro state observation
    cases state <;> cases observation <;> rfl
  have hstate := hall state observation
  rw [h] at hstate
  simp only [hkind, Option.all_some, decide_eq_true_eq] at hstate
  exact hstate.symm

namespace Reconciler

variable {ε : Type}
variable {previous : ℕ} {classified : List ClassifiedRecovery}

abbrev History (ε : Type) : Type := List (Act RecoveryCall (RecoveryCall.Answer ε))

/-! ### Inventories -/

/-- The inventory is that of the session, in a strict order, and names nothing twice. -/
structure WellFormed (sessionId : SessionId) (candidates : List RecoveryCandidate) : Prop where
  session : ∀ c ∈ candidates, c.sessionId = sessionId
  positive : ∀ c ∈ candidates, 0 < c.ordinal
  ordered : candidates.Pairwise fun c c' => c.ordinal < c'.ordinal
  distinct : (candidates.map (·.entity)).Nodup

theorem checkInventory_ok {sessionId : SessionId}
    (h : (checkInventory sessionId previous seen candidates : Except (ReconcileError ε) Unit) =
      .ok ()) :
    WellFormed sessionId candidates ∧ (∀ c ∈ candidates, previous < c.ordinal) ∧
      ∀ c ∈ candidates, c.entity ∉ seen := by
  induction candidates generalizing previous seen with
  | nil => exact ⟨⟨nofun, nofun, .nil, .nil⟩, nofun, nofun⟩
  | cons c rest ih =>
    unfold checkInventory at h
    split at h
    · cases h
    next hsession =>
    split at h
    · cases h
    next hordinal =>
    split at h
    · cases h
    next hseen =>
    obtain ⟨hrest, hlater, hunseen⟩ := ih h
    rw [not_or, Nat.not_le] at hordinal
    refine ⟨⟨?_, ?_, List.pairwise_cons.mpr ⟨hlater, hrest.ordered⟩, ?_⟩, ?_, ?_⟩
    · exact List.forall_mem_cons.mpr ⟨not_not.mp hsession, hrest.session⟩
    · exact List.forall_mem_cons.mpr ⟨Nat.pos_of_ne_zero hordinal.1, hrest.positive⟩
    · refine List.nodup_cons.mpr ⟨fun hmem => ?_, hrest.distinct⟩
      obtain ⟨c', hc', heq⟩ := List.mem_map.mp hmem
      exact hunseen c' hc' (heq ▸ List.mem_cons_self ..)
    · exact List.forall_mem_cons.mpr ⟨hordinal.2, fun c' hc' => hordinal.2.trans (hlater c' hc')⟩
    · exact List.forall_mem_cons.mpr
        ⟨hseen, fun c' hc' hmem => hunseen c' hc' (List.mem_cons_of_mem _ hmem)⟩

theorem checkInventory_error {sessionId : SessionId} {error : ReconcileError ε}
    (h : checkInventory sessionId previous seen candidates = .error error) :
    error ≠ .actionEntityMismatch := by
  induction candidates generalizing previous seen with
  | nil => cases h
  | cons c rest ih =>
    unfold checkInventory at h
    iterate 3
      split at h
      · cases h
        exact nofun
    exact ih h

/-! ### Histories -/

/-- Nothing has been recorded or done. -/
def Quiet (h : History ε) : Prop :=
  ∀ a ∈ h, (∃ sessionId requestId, a.1 = .acquireEpoch sessionId requestId) ∨
    (∃ sessionId epoch, a.1 = .unfinished sessionId epoch) ∨
    ∃ attemptId epoch, a.1 = .inspectInstance attemptId epoch

/-- A candidate was classified by what was seen of it: an instance by its inspection, anything
else by its state alone. -/
structure Classifies (h : History ε) (epoch : FencingEpoch) (c : RecoveryCandidate)
    (d : ClassifiedRecovery) : Prop where
  entity : d.entity = c.entity
  state : d.state = c.state
  decision : classifyRecovery d.state d.observation = .ok d.decision
  observed : (∃ attemptId, c.entity = .driverInstance attemptId ∧
      ⟨.inspectInstance attemptId epoch, .ok d.observation⟩ ∈ h) ∨
    c.entity.kind ≠ .driverInstance ∧ d.observation = .notApplicable

/-- The call carries out what was decided about the candidate, under the epoch, with the
identities the candidate has. -/
def Carries (epoch : FencingEpoch) (x : RecoveryCandidate × ClassifiedRecovery) :
    RecoveryCall → Prop
  | .scheduleExistingOperation e operationId inputMessageId =>
    e = epoch ∧ x.1.entity = .operation operationId inputMessageId ∧
      x.2.decision.action = .scheduleExistingOperation
  | .redeliverExactMessage e messageId =>
    e = epoch ∧ x.1.entity = .message messageId ∧ x.2.decision.action = .redeliverExactMessage
  | .reconnectExactInstance e attemptId =>
    e = epoch ∧ x.1.entity = .driverInstance attemptId ∧
      x.2.decision.action = .reconnectExactInstance
  | .cleanupVerifiedInstance e attemptId =>
    e = epoch ∧ x.1.entity = .driverInstance attemptId ∧
      x.2.decision.action = .cleanupVerifiedResource
  | _ => False

def IsCleanup : RecoveryCall → Bool
  | .cleanupVerifiedInstance .. => true
  | _ => false

/-- Everything is ready to be recorded: the session is owned, and the inventory is well formed
and classified. -/
structure Prepared (sessionId : SessionId) (ids : RecoveryRunIds) (epoch : FencingEpoch)
    (pairs : List (RecoveryCandidate × ClassifiedRecovery)) (before : History ε) : Prop where
  quiet : Quiet before
  acquired : ⟨.acquireEpoch sessionId ids.ownershipRequestId, .ok epoch⟩ ∈ before
  inventory : ⟨.unfinished sessionId epoch, .ok (pairs.map Prod.fst)⟩ ∈ before
  wellFormed : WellFormed sessionId (pairs.map Prod.fst)
  classified : ∀ x ∈ pairs, Classifies before epoch x.1 x.2

/-- The classifications were recorded, all at once and in order, and since then those of the
actions on `done` were carried out that the barrier lets pass, each once and in order. -/
structure Acted (sessionId : SessionId) (ids : RecoveryRunIds) (epoch : FencingEpoch)
    (pairs done : List (RecoveryCandidate × ClassifiedRecovery)) (h : History ε)
    (before acts : History ε) (answer : Except ε Unit) : Prop where
  split : h = acts ++
    ⟨.recordClassifications epoch ids.classificationRequestId (pairs.map Prod.snd), answer⟩ ::
      before
  prepared : Prepared sessionId ids epoch pairs before
  recorded : acts ≠ [] → answer = .ok ()
  carried : ∃ acted, acted.Sublist done ∧
    List.Forall₂ (fun x a => Carries epoch x a.1) acted acts.reverse
  certain : acts ≠ [] → ∀ x ∈ pairs, x.2.decision.class_ ≠ .effectUncertain
  clean : (∃ x ∈ pairs, x.2.decision.class_ = .cleanupRequired) → ∀ a ∈ acts, IsCleanup a.1 = true

/-- **The safety barrier.**  Nothing was recorded or done, or everything was classified and
recorded before anything was done. -/
def Barrier (sessionId : SessionId) (ids : RecoveryRunIds) (h : History ε) : Prop :=
  Quiet h ∨ ∃ epoch pairs before acts answer,
    Acted sessionId ids epoch pairs pairs h before acts answer

variable {sessionId : SessionId} {ids : RecoveryRunIds} {epoch : FencingEpoch}
  {pairs done : List (RecoveryCandidate × ClassifiedRecovery)}
  {x : RecoveryCandidate × ClassifiedRecovery} {h before acts : History ε}
  {answer : Except ε Unit} {α : Type}

/-- The call keeps to the barrier, whatever it is answered. -/
abbrev Respects (sessionId : SessionId) (ids : RecoveryRunIds) (h : History ε)
    (e : RecoveryCall) : Prop :=
  ∀ r, Barrier sessionId ids (⟨e, r⟩ :: h)

theorem Quiet.cons (hquiet : Quiet h) {a : Act RecoveryCall (RecoveryCall.Answer ε)}
    (ha : (∃ sessionId requestId, a.1 = .acquireEpoch sessionId requestId) ∨
      (∃ sessionId epoch, a.1 = .unfinished sessionId epoch) ∨
      ∃ attemptId epoch, a.1 = .inspectInstance attemptId epoch) : Quiet (a :: h) :=
  List.forall_mem_cons.mpr ⟨ha, hquiet⟩

/-! ### Classifying -/

theorem Classifies.mono {h' : History ε} {c : RecoveryCandidate} (hc : Classifies h epoch c d)
    (hsub : h ⊆ h') : Classifies h' epoch c d :=
  { hc with
    observed := hc.observed.imp (fun ⟨attemptId, hentity, hmem⟩ =>
      ⟨attemptId, hentity, hsub hmem⟩) id }

variable {Q : Except (ReconcileError ε) α → History ε → Prop}

theorem observe_obeys {entity : RecoveryEntity} {f : LiveObservation → RecoveryProg ε α}
    (hquiet : Quiet h)
    (hf : ∀ observation h', Quiet h' → h ⊆ h' → (∃ attemptId, entity = .driverInstance attemptId ∧
          ⟨.inspectInstance attemptId epoch, .ok observation⟩ ∈ h') ∨
        entity.kind ≠ .driverInstance ∧ observation = .notApplicable →
      (f observation).Obeys (Respects sessionId ids) Q h')
    (herror : ∀ e h', Q (.error (.backend e)) h') :
    (observe epoch entity >>= f).Obeys (Respects sessionId ids) Q h := by
  cases entity with
  | driverInstance attemptId =>
    refine obeys_bind.mpr (Obeys.perform (fun r => .inl (hquiet.cons (.inr (.inr ⟨_, _, rfl⟩))))
      fun r => ?_)
    cases r with
    | ok observation =>
      exact hf observation _ (hquiet.cons (.inr (.inr ⟨_, _, rfl⟩))) (List.subset_cons_self _ _)
        (.inl ⟨attemptId, rfl, List.mem_cons_self ..⟩)
    | error e => exact herror e _
  | _ => exact hf _ h hquiet (List.Subset.refl _) (.inr ⟨nofun, rfl⟩)

theorem classifyAll_obeys
    {Q : Except (ReconcileError ε) (List ClassifiedRecovery) → History ε → Prop} (hquiet : Quiet h)
    (hQ : ∀ (pairs : List (RecoveryCandidate × ClassifiedRecovery)) h', Quiet h' → h ⊆ h' →
      pairs.map Prod.fst = candidates → (∀ x ∈ pairs, Classifies h' epoch x.1 x.2) →
        Q (.ok (pairs.map Prod.snd)) h')
    (herror : ∀ e h', e ≠ .actionEntityMismatch → Q (.error e) h') :
    (classifyAll epoch candidates).Obeys (Respects sessionId ids) Q h := by
  induction candidates generalizing h Q with
  | nil => exact hQ [] h hquiet (List.Subset.refl _) rfl fun _ hx => (List.not_mem_nil hx).elim
  | cons c rest ih =>
    unfold classifyAll
    refine observe_obeys hquiet (fun observation h1 hquiet1 hsub1 hobserved => ?_)
      fun e h' => herror _ h' nofun
    rcases hdecision : classifyRecovery c.state observation with e | decision
    · exact herror _ _ nofun
    change (classifyAll epoch rest >>= _).Obeys _ _ _
    refine obeys_bind.mpr (ih hquiet1 (fun pairs h2 hquiet2 hsub2 hpairs hclassified => ?_) herror)
    refine hQ ((c, ⟨c.entity, c.state, observation, decision⟩) :: pairs) h2 hquiet2
      (List.Subset.trans hsub1 hsub2) (by rw [List.map_cons, hpairs])
      (List.forall_mem_cons.mpr ⟨?_, hclassified⟩)
    exact Classifies.mono ⟨rfl, rfl, hdecision, hobserved⟩ hsub2

/-! ### Acting -/

section

variable (ha : Acted sessionId ids epoch pairs done h before acts answer)
include ha

/-- Nothing is done about what the loop passes over. -/
theorem Acted.skip : Acted sessionId ids epoch pairs (done ++ [x]) h before acts answer := by
  obtain ⟨acted, hsub, hcarried⟩ := ha.carried
  exact { ha with carried := ⟨acted, hsub.trans (List.sublist_append_left _ _), hcarried⟩ }

/-- What is done is carried out. -/
theorem Acted.act
    {e : RecoveryCall} (r : e.Answer ε) (hanswer : answer = .ok ()) (hcarries : Carries epoch x e)
    (hcertain : ∀ x ∈ pairs, x.2.decision.class_ ≠ .effectUncertain)
    (hclean : (∃ x ∈ pairs, x.2.decision.class_ = .cleanupRequired) → IsCleanup e = true) :
    Acted sessionId ids epoch pairs (done ++ [x]) (⟨e, r⟩ :: h) before (⟨e, r⟩ :: acts) answer := by
  obtain ⟨acted, hsub, hcarried⟩ := ha.carried
  refine ⟨by rw [ha.split]; rfl, ha.prepared, fun _ => hanswer, ⟨acted ++ [x], ?_, ?_⟩,
    fun _ => hcertain, fun hneeds => List.forall_mem_cons.mpr ⟨hclean hneeds, ha.clean hneeds⟩⟩
  · exact hsub.append (List.Sublist.refl _)
  · rw [List.reverse_cons]
    exact List.rel_append hcarried (.cons hcarries .nil)

theorem Acted.barrier (hdone : done.Sublist pairs) : Barrier sessionId ids h := by
  obtain ⟨acted, hsub, hcarried⟩ := ha.carried
  exact .inr ⟨epoch, pairs, before, acts, answer,
    { ha with carried := ⟨acted, hsub.trans hdone, hcarried⟩ }⟩

end

theorem hasUncertainty_false (h : hasUncertainty classified = false) :
    ∀ d ∈ classified, d.decision.class_ ≠ .effectUncertain := by
  simpa [hasUncertainty] using h

theorem hasCleanup_true (hd : d ∈ classified) (h : d.decision.class_ = .cleanupRequired) :
    hasCleanup classified = true := by
  rw [hasCleanup, List.any_eq_true]
  exact ⟨d, hd, by simpa using h⟩

/-- What a status of `pending` says of the session: nothing in it is uncertain, and if anything
needs to be cleaned up then this is. -/
theorem plannedStatus_pending {u k : Bool} (h : plannedStatus d u k = .pending) :
    d.decision.action = .awaitResolution ∨
      u = false ∧ (k = true → d.decision.action = .cleanupVerifiedResource) := by
  cases hd : d.decision.action <;> cases u <;> cases k <;> simp [plannedStatus, hd] at h ⊢

/-- One turn of the loop. -/
theorem executeAction_obeys {f : Bool → RecoveryProg ε α}
    (ha : Acted sessionId ids epoch pairs done h before acts answer) (hanswer : answer = .ok ())
    (hpairs : pairs = done ++ x :: rest)
    (hstatus : plannedStatus x.2 (hasUncertainty (pairs.map Prod.snd))
      (hasCleanup (pairs.map Prod.snd)) = .pending)
    (hf : ∀ executed h' acts',
      Acted sessionId ids epoch pairs (done ++ [x]) h' before acts' answer →
        (f executed).Obeys (Respects sessionId ids) Q h')
    (herror : ∀ e h' acts', Acted sessionId ids epoch pairs (done ++ [x]) h' before acts' answer →
      (e = .actionEntityMismatch → x.1.state.kind ≠ x.1.entity.kind) → Q (.error e) h') :
    (executeAction epoch x.2 >>= f).Obeys (Respects sessionId ids) Q h := by
  have hx : Classifies before epoch x.1 x.2 := ha.prepared.classified x (by simp [hpairs])
  have hdone : (done ++ [x]).Sublist pairs := by
    rw [hpairs]
    exact (List.Sublist.refl done).append (by simp)
  -- if the action goes to the backend, it is carried out there
  have hcall : ∀ (e : RecoveryCall) (p : e.Answer ε → RecoveryProg ε Bool), Carries epoch x e →
      (x.2.decision.action = .cleanupVerifiedResource → IsCleanup e = true) →
      (∀ r, (∃ b, p r = pure b) ∨ ∃ error, p r = Prog.fail (.backend error)) →
      ((ask e >>= p) >>= f).Obeys (Respects sessionId ids) Q h := by
    intro e p hcarries hclean hp
    have hacted (r : e.Answer ε) : Acted sessionId ids epoch pairs (done ++ [x]) (⟨e, r⟩ :: h)
        before (⟨e, r⟩ :: acts) answer := by
      obtain hawait | ⟨hu, hk⟩ := plannedStatus_pending hstatus
      · cases e <;> simp [Carries, hawait] at hcarries
      · refine ha.act r hanswer hcarries (fun y hy => hasUncertainty_false hu _
          (List.mem_map_of_mem hy)) fun ⟨y, hy, hcleanup⟩ => hclean (hk ?_)
        exact hasCleanup_true (List.mem_map_of_mem hy) hcleanup
    refine obeys_bind.mpr (Obeys.perform (fun r => (hacted r).barrier hdone) fun r => ?_)
    obtain ⟨b, hb⟩ | ⟨error, herr⟩ := hp r
    · rw [hb]
      exact hf b _ _ (hacted r)
    · rw [herr]
      exact herror _ _ _ (hacted r) nofun
  have hbackend : ∀ r : Except ε Bool, (∃ b, (backend r : RecoveryProg ε Bool) = pure b) ∨
      ∃ error, (backend r : RecoveryProg ε Bool) = Prog.fail (.backend error) := by
    rintro (error | b)
    · exact .inr ⟨error, rfl⟩
    · exact .inl ⟨b, rfl⟩
  have hmismatch : ∀ kind, x.2.decision.action.kind? = some kind → x.1.entity.kind ≠ kind →
      x.1.state.kind ≠ x.1.entity.kind := by
    intro kind hkind hne heq
    exact hne (heq.symm.trans (hx.state ▸ classifyRecovery_kind hx.decision hkind))
  unfold executeAction
  split
  · next operationId inputMessageId haction hentity =>
    refine hcall (.scheduleExistingOperation epoch operationId inputMessageId) _
      ⟨rfl, hx.entity ▸ hentity, haction⟩ (by simp [haction]) ?_
    rintro (error | u)
    · exact .inr ⟨error, rfl⟩
    · exact .inl ⟨true, rfl⟩
  · next messageId haction hentity =>
    exact hcall (.redeliverExactMessage epoch messageId) _ ⟨rfl, hx.entity ▸ hentity, haction⟩
      (by simp [haction]) hbackend
  · next attemptId haction hentity =>
    exact hcall (.reconnectExactInstance epoch attemptId) _ ⟨rfl, hx.entity ▸ hentity, haction⟩
      (by simp [haction]) hbackend
  · next attemptId haction hentity =>
    exact hcall (.cleanupVerifiedInstance epoch attemptId) _ ⟨rfl, hx.entity ▸ hentity, haction⟩
      (fun _ => rfl) hbackend
  · exact hf true h acts ha.skip
  · exact hf true h acts ha.skip
  · exact hf false h acts ha.skip
  · next hcontinue hnone hawait hoperation hmessage hreconnect hcleanup =>
    -- the action is on another kind of thing than the entity is
    refine herror _ _ _ ha.skip fun _ => ?_
    simp only [hx.entity] at hoperation hmessage hreconnect hcleanup
    cases haction : x.2.decision.action with
    | continue_ => exact absurd haction hcontinue
    | awaitResolution => exact absurd haction hawait
    | none => exact absurd haction hnone
    | _ =>
      refine hmismatch _ (by rw [haction]; rfl) ?_
      clear * - haction hoperation hmessage hreconnect hcleanup
      cases hentity : x.1.entity <;> simp_all [RecoveryEntity.kind]

/-- The loop over the actions. -/
theorem executeActions_obeys
    {Q : Except (ReconcileError ε) (List RecoveryExecution) → History ε → Prop}
    (ha : Acted sessionId ids epoch pairs done h before acts answer) (hanswer : answer = .ok ())
    (hpairs : pairs = done ++ rest) (hQ : ∀ executions h', Q (.ok executions) h')
    (herror : ∀ e h' done' acts', Acted sessionId ids epoch pairs done' h' before acts' answer →
      (e = .actionEntityMismatch → ∃ x ∈ pairs, x.1.state.kind ≠ x.1.entity.kind) →
      Q (.error e) h') :
    (executeActions epoch (rest.map fun x => ⟨x.2, plannedStatus x.2
      (hasUncertainty (pairs.map Prod.snd)) (hasCleanup (pairs.map Prod.snd))⟩)).Obeys
      (Respects sessionId ids) Q h := by
  induction rest generalizing done h acts Q with
  | nil => exact hQ [] h
  | cons x rest ih =>
    have hnext : pairs = (done ++ [x]) ++ rest := by simp [hpairs]
    have hloop : ∀ {h' acts'} {g : List RecoveryExecution → List RecoveryExecution},
        Acted sessionId ids epoch pairs (done ++ [x]) h' before acts' answer →
        (executeActions epoch (rest.map fun x => ⟨x.2, plannedStatus x.2
          (hasUncertainty (pairs.map Prod.snd)) (hasCleanup (pairs.map Prod.snd))⟩) >>=
          fun executions => (pure (g executions) : RecoveryProg ε _)).Obeys
          (Respects sessionId ids) Q h' :=
      fun ha' => obeys_bind.mpr (ih ha' hnext (fun executions h' => hQ _ h') herror)
    simp only [List.map_cons, executeActions]
    split
    · exact hloop ha.skip
    next hstatus =>
    refine executeAction_obeys ha hanswer hpairs (not_not.mp hstatus)
      (fun executed h' acts' ha' => hloop ha') fun e h' acts' ha' hkind =>
        herror e h' _ acts' ha' fun he => ?_
    exact ⟨x, by simp [hpairs], hkind he⟩

/-- The reconciler keeps to the barrier. -/
theorem reconcile_obeys (sessionId : SessionId) (ids : RecoveryRunIds) :
    (reconcile sessionId ids : RecoveryProg ε _).Obeys (Respects sessionId ids)
      (fun x h => x = .error .actionEntityMismatch → ∃ epoch candidates,
        ⟨.unfinished sessionId epoch, .ok candidates⟩ ∈ h ∧
        ∃ c ∈ candidates, c.state.kind ≠ c.entity.kind) [] := by
  have hquiet : Quiet ([] : History ε) := fun _ ha => (List.not_mem_nil ha).elim
  refine obeys_bind.mpr (Obeys.perform (fun r => .inl (hquiet.cons (.inl ⟨_, _, rfl⟩))) fun r => ?_)
  obtain e | epoch := r
  · exact nofun
  have hquiet1 := hquiet.cons
    (a := ⟨.acquireEpoch sessionId ids.ownershipRequestId, .ok epoch⟩) (.inl ⟨_, _, rfl⟩)
  refine Obeys.perform (fun r => .inl (hquiet1.cons (.inr (.inl ⟨_, _, rfl⟩)))) fun r => ?_
  obtain e | candidates := r
  · exact nofun
  have hquiet2 := hquiet1.cons (a := ⟨.unfinished sessionId epoch, .ok candidates⟩)
    (.inr (.inl ⟨_, _, rfl⟩))
  change (Prog.ofExcept (checkInventory sessionId 0 [] candidates) >>= _).Obeys _ _ _
  cases hcheck : (checkInventory sessionId 0 [] candidates : Except (ReconcileError ε) Unit) with
  | error e => exact fun heq => absurd (Except.error.inj heq) (checkInventory_error hcheck)
  | ok u =>
    change (classifyAll epoch candidates >>= _).Obeys _ _ _
    refine obeys_bind.mpr (classifyAll_obeys hquiet2
      (fun pairs h hquiet hsub hpairs hclassified => ?_)
      fun e h hne heq => absurd (Except.error.inj heq) hne)
    -- everything is classified, and is recorded as it is
    subst hpairs
    have hprepared : Prepared sessionId ids epoch pairs h := ⟨hquiet, hsub (by simp),
      hsub (by simp), (checkInventory_ok hcheck).1, hclassified⟩
    have hacted : ∀ answer, Acted sessionId ids epoch pairs [] _ h [] answer := fun answer =>
      ⟨rfl, hprepared, fun hne => absurd rfl hne, ⟨[], .refl _, .nil⟩, fun hne => absurd rfl hne,
        fun _ _ ha => (List.not_mem_nil ha).elim⟩
    refine Obeys.perform (fun r => (hacted r).barrier (List.nil_sublist _)) fun r => ?_
    obtain e | v := r
    · exact nofun
    change (executeActions epoch ((pairs.map Prod.snd).map _) >>= _).Obeys _ _ _
    rw [List.map_map]
    refine obeys_bind.mpr (executeActions_obeys (hacted (.ok v)) rfl rfl
      (fun executions h' => nofun) fun e h' done acts ha hkind heq => ?_)
    obtain ⟨x, hx, hne⟩ := hkind (Except.error.inj heq)
    refine ⟨epoch, pairs.map Prod.fst, ?_, x.1, List.mem_map_of_mem hx, hne⟩
    rw [ha.split]
    exact List.mem_append_right _ (List.mem_cons_of_mem _ hprepared.inventory)

end Reconciler

open Reconciler

/-- **The safety barrier of recovery.**  However a reconciliation goes and wherever it stops:
nothing is recorded or done unless the session was acquired and its inventory is well formed
and classified; all classifications are recorded at once and in order before anything is done;
nothing is done if anything is uncertain, and nothing but cleaning up if anything has to be
cleaned up; what is done is done once and in order, to the candidates as they were found; and
if the states of these are of their kinds, no action fails to fit its entity. -/
theorem recovery_barrier {ε : Type} {sessionId : SessionId} {ids : RecoveryRunIds}
    {h : History ε} {p : RecoveryProg ε Reconciliation}
    (hgoes : Goes [] (reconcile sessionId ids) h p) :
    Barrier sessionId ids h ∧
    ((∀ epoch candidates, ⟨.unfinished sessionId epoch, .ok candidates⟩ ∈ h →
      ∀ c ∈ candidates, c.state.kind = c.entity.kind) →
      p ≠ .ret (.error .actionEntityMismatch)) := by
  have hobeys : (reconcile sessionId ids : RecoveryProg ε _).Obeys _ _ [] :=
    reconcile_obeys sessionId ids
  refine ⟨hobeys.always (.inl fun _ ha => (List.not_mem_nil ha).elim) hgoes, ?_⟩
  rintro hkinds rfl
  obtain ⟨epoch, candidates, hmem, c, hc, hne⟩ := hobeys.goes hgoes rfl
  exact hne (hkinds epoch candidates hmem c hc)

namespace Sample

/-- A backend that has a queued operation to recover. -/
def backend : (e : RecoveryCall) → e.Answer Unit
  | .acquireEpoch .. => .ok epoch
  | .unfinished .. => .ok [⟨1, session, .operation operation input, .operationQueued⟩]
  | .inspectInstance .. => .ok .absent
  | .recordClassifications .. | .scheduleExistingOperation .. => .ok ()
  | .redeliverExactMessage .. | .reconnectExactInstance .. | .cleanupVerifiedInstance .. =>
    .ok true

/-- What is called to recover it. -/
def recovering : History Unit :=
  ((reconcile session ⟨id 0, id 1⟩ : RecoveryProg Unit _).play backend []).1

end Sample

open Sample

/-- The operation is scheduled, after it was recorded as safe to continue. -/
theorem recovery_barrier_scheduled :
    recovering.map Sigma.fst = [.scheduleExistingOperation epoch operation input,
        .recordClassifications epoch (Sample.id 1)
          [⟨.operation operation input, .operationQueued, .notApplicable,
            .safeToContinue, .durableWorkNotStarted, .scheduleExistingOperation⟩],
        .unfinished session epoch,
        .acquireEpoch session (Sample.id 0)] ∧
    Barrier session ⟨Sample.id 0, Sample.id 1⟩ recovering :=
  ⟨by decide, (recovery_barrier (goes_play Sample.backend _ [])).1⟩

end Navigator
