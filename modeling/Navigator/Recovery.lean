/-
Recovery.

A host that has taken a session over asks for an inventory, puts everything in it in a state,
and writes the states down.  The states are given twice, by the host and by the store that
checks them; `candidates_recorded` says that the two agree.  The inventory is another matter:
it leaves finished messages out only after it has counted and read them.

* **`recovery_inventory_is_available`** — an inventory is there, and complete, exactly if there
  is room for the finished messages as well and all messages can be read; what the host makes
  of it is then accepted, as long as there is room for the event.
-/
import Navigator.Legibility
import Navigator.Approvals

namespace Navigator

open Txn Tx

variable {env : Env} {s : Store} {t now : Timestamp} {sessionId : SessionId}
variable {ρ : Type} {i : RecoveryInventory} {c : RecordRecoveryClassifications}
variable {k : IdKind} {rows : List ρ} {r : MessageRow}

/-! ### The host's side -/

namespace RecoveryBackend

/-- `launch_state`. -/
def launchState : LaunchState → RecoveryState
  | .prepared => .instancePrepared
  | .attached => .instanceAttached
  | .ready => .instanceReady
  | .stopping => .instanceStopping
  | .cleanupRequired => .instanceCleanupRequired
  | .stopped => .instanceStopped

/-- `operation_state`. -/
def operationState : OperationState → RecoveryState
  | .queued => .operationQueued
  | .starting => .operationStarting
  | .running => .operationRunning
  | .waiting => .operationWaiting
  | .cancelling => .operationCancelling
  | _ => .operationTerminal

/-- `message_state`. -/
def messageState (now : Timestamp) : MessageDeliveryState → RecoveryState
  | .queued => .messageQueued
  | .retryScheduled notBefore =>
    if notBefore ≤ now then .messageRetryScheduled else .messageRetryDeferred
  | .leased lease => if lease.expiresAt ≤ now then .messageLeased else .messageLeaseActive
  | .acceptancePending _ => .messageAcceptancePending
  | .acceptanceUnknown _ => .messageAcceptanceUnknown
  | .accepted .. => .messageAccepted
  | .uncertain .. => .messageUncertain
  | .deadLetter _ => .messageDeadLetter

/-- `effect_state`. -/
def effectState (effectClass : EffectClass) : EffectJournalPhase → RecoveryState
  | .reserved => .effectReserved
  | .retryAuthorized => .effectStartedRetryable
  | .started =>
    match effectClass with
    | .readOnly | .idempotent => .effectStartedRetryable
    | _ => .effectStartedUnsafe
  | .uncertain => .effectStartedUnsafe
  | .completed | .failed => .effectCompleted

/-! The store puts everything in the same state. -/

@[simp] theorem recoveryLaunchState_eq : recoveryLaunchState = launchState := by
  funext state
  cases state <;> rfl

@[simp] theorem recoveryOperationState_eq : recoveryOperationState = operationState := by
  funext state
  cases state <;> rfl

@[simp] theorem recoveryMessageState_eq : recoveryMessageState = messageState := by
  funext now state
  cases state <;> rfl

@[simp] theorem recoveryEffectState_eq : recoveryEffectState = effectState := by
  funext effectClass phase
  cases phase <;> rfl

end RecoveryBackend

/-- What `unfinished` makes of an inventory: everything in it with its state, the session
first.  It fails with `Corrupt` on a deliverable message without an operation, and then there are
no candidates; that branch is left out. -/
def RecoveryInventory.candidates (i : RecoveryInventory) :
    List (RecoveryEventEntity × RecoveryState) :=
  [(.session i.sessionId, .sessionOpen)] ++
  (i.participants.map fun p => (.participant p.participantId, .participantRegistered)) ++
  (i.launches.map fun l => (.driverInstance l.attemptId, RecoveryBackend.launchState l.state)) ++
  (i.operations.map fun o =>
    (.operation o.operationId, RecoveryBackend.operationState o.state)) ++
  (i.messages.map fun m =>
    (.message m.messageId, RecoveryBackend.messageState i.snapshotAt m.state)) ++
  i.effects.map fun e => (.effect e.requestId, RecoveryBackend.effectState e.effectClass e.phase)

/-! ### The inventory -/

/-- The launches of a session that have not stopped. -/
def Store.openLaunches (s : Store) (sessionId : SessionId) : List LaunchSnapshot :=
  s.launches.rows.filter fun l => l.sessionId = sessionId && l.state ≠ .stopped

/-- The participants of a session. -/
def Store.members (s : Store) (sessionId : SessionId) : List ParticipantRow :=
  s.participants.rows.filter fun r => r.snapshot.sessionId = sessionId

/-- The operations of a session that have not ended. -/
def Store.openOperations (s : Store) (sessionId : SessionId) : List OperationRow :=
  s.operations.rows.filter fun r =>
    r.snapshot.sessionId = sessionId && r.snapshot.terminalOutcome = none

/-- The messages of a session, finished or not. -/
def Store.mail (s : Store) (sessionId : SessionId) : List MessageRow :=
  s.messages.rows.filter fun r => r.sessionId = sessionId

/-- The effects of a session that are neither completed nor failed. -/
def Store.openEffects (s : Store) (sessionId : SessionId) : List EffectJournalEntry :=
  s.journal.effects.rows.filter fun e => e.sessionId = sessionId && e.phase.isOpen

/-- The size of an inventory that counts some of the messages. -/
def Store.inventorySize (s : Store) (sessionId : SessionId) (counts : MessageRow → Bool) : ℕ :=
  1 + (s.openLaunches sessionId).length + (s.members sessionId).length +
    (s.openOperations sessionId).length + ((s.mail sessionId).filter counts).length +
    (s.openEffects sessionId).length

/-- The inventory of a session. -/
def Store.inventory (s : Store) (sessionId : SessionId) (now : Timestamp) : RecoveryInventory where
  sessionId := sessionId
  snapshotAt := now
  launches := orderedBy LaunchSnapshot.attemptId (s.openLaunches sessionId)
  participants :=
    (orderedBy (·.snapshot.participantId) (s.members sessionId)).map ParticipantRow.snapshot
  operations :=
    (orderedBy (·.snapshot.operationId) (s.openOperations sessionId)).map OperationRow.snapshot
  messages := ((orderedBy MessageRow.messageId (s.mail sessionId)).map
    MessageRow.snapshot).filter fun m => !m.state.isTerminal
  effects := orderedBy EffectJournalEntry.requestId (s.openEffects sessionId)

theorem mem_orderedBy {id : ρ → Id k} {r : ρ} : r ∈ orderedBy id rows ↔ r ∈ rows :=
  List.mem_insertionSort _

theorem length_orderedBy (id : ρ → Id k) (rows : List ρ) :
    (orderedBy id rows).length = rows.length :=
  List.length_insertionSort _ rows

/-- **An inventory is made** if there is room for all messages, and all can be read. -/
theorem recoveryInventory_ok (hs : Reachable env s) :
    recoveryInventory s sessionId now = .ok i ↔ i = s.inventory sessionId now ∧
      s.inventorySize sessionId (fun _ => true) ≤ maxRecoveryClassifications ∧
      ∀ r ∈ s.messages, r.sessionId = sessionId → r.Readable := by
  have hparticipants : ∀ r ∈ orderedBy (·.snapshot.participantId) (s.members sessionId),
      ∀ p, (do need (← loadParticipant s r.snapshot.participantId) StoreError.corrupt) = .ok p ↔
        r.snapshot = p ∧ True := by
    intro r hr p
    have hfound : s.participants.find? r.snapshot.participantId = some r :=
      Table.find?_of_mem (List.mem_of_mem_filter (mem_orderedBy.mp hr))
    simp [hs.sound.tree.loadParticipant hfound]
  have hoperations : ∀ r ∈ orderedBy (·.snapshot.operationId) (s.openOperations sessionId),
      ∀ o, (do need (← loadOperation s r.snapshot.operationId) StoreError.corrupt) = .ok o ↔
        r.snapshot = o ∧ True := by
    intro r hr o
    have hfound : s.operations.find? r.snapshot.operationId = some r :=
      Table.find?_of_mem (List.mem_of_mem_filter (mem_orderedBy.mp hr))
    simp [hs.sound.operation_loads hfound]
  have hmessages : ∀ r ∈ orderedBy MessageRow.messageId (s.mail sessionId), ∀ m,
      decodeMessageRow r = .ok m ↔ r.snapshot = m ∧ r.Readable := by
    intro r _ m
    constructor
    · intro h
      exact (decodeMessageRow_ok h).symm
    · rintro ⟨rfl, hreadable⟩
      exact decodeMessageRow_of_readable hreadable
  have heffects : ∀ e ∈ orderedBy EffectJournalEntry.requestId (s.openEffects sessionId), ∀ e',
      (do need (← loadEffect s e.requestId) StoreError.corrupt) = .ok e' ↔ e = e' ∧ True := by
    intro e he e'
    have hfound : s.journal.effects.find? e.requestId = some e :=
      Table.find?_of_mem (List.mem_of_mem_filter (mem_orderedBy.mp he))
    simp [(hs.effect_stands hfound).loads hs.sound hfound]
  have hlength : ((s.mail sessionId).filter fun _ => true).length = (s.mail sessionId).length := by
    rw [List.filter_true]
  simp only [recoveryInventory, result_bind_ok, check_ok, result_pure_ok, length_orderedBy]
  constructor
  · rintro ⟨_, hroom, ps, hps, os, hos, ms, hms, es, hes, rfl⟩
    obtain ⟨rfl, -⟩ := (result_mapM_ok hparticipants).mp hps
    obtain ⟨rfl, -⟩ := (result_mapM_ok hoperations).mp hos
    obtain ⟨rfl, hreadable⟩ := (result_mapM_ok hmessages).mp hms
    obtain ⟨rfl, -⟩ := (result_mapM_ok heffects).mp hes
    refine ⟨by rw [List.map_id']; rfl, ?_, fun r hr hsession => ?_⟩
    · unfold Store.inventorySize
      rw [hlength]
      exact hroom
    · exact hreadable r (mem_orderedBy.mpr (List.mem_filter.mpr ⟨hr, decide_eq_true hsession⟩))
  · rintro ⟨rfl, hroom, hreadable⟩
    unfold Store.inventorySize at hroom
    rw [hlength] at hroom
    refine ⟨(), hroom, _, (result_mapM_ok hparticipants).mpr ⟨rfl, fun _ _ => trivial⟩,
      _, (result_mapM_ok hoperations).mpr ⟨rfl, fun _ _ => trivial⟩,
      _, (result_mapM_ok hmessages).mpr ⟨rfl, fun r hr => ?_⟩,
      _, (result_mapM_ok heffects).mpr ⟨rfl, fun _ _ => trivial⟩, by rw [List.map_id']; rfl⟩
    have hmem := List.mem_filter.mp (mem_orderedBy.mp hr)
    exact hreadable r hmem.1 (of_decide_eq_true hmem.2)

/-! ### The order of candidates -/

/-- Candidates in order, of kinds from `m` up to `n`. -/
def InOrder (m n : ℕ) (l : List (RecoveryEventEntity × RecoveryState)) : Prop :=
  l.Pairwise (fun x y => x.1.before y.1 = true) ∧ ∀ x ∈ l, m ≤ x.1.key.1 ∧ x.1.key.1 < n

theorem InOrder.append {l m n : ℕ} {xs ys : List (RecoveryEventEntity × RecoveryState)}
    (hxs : InOrder l m xs) (hys : InOrder m n ys) (hl : l ≤ m) (hn : m ≤ n) :
    InOrder l n (xs ++ ys) := by
  refine ⟨List.pairwise_append.mpr ⟨hxs.1, hys.1, fun x hx y hy => ?_⟩, fun x hx => ?_⟩
  · have hxm := (hxs.2 x hx).2
    have hym := (hys.2 y hy).1
    simp only [RecoveryEventEntity.before, Bool.or_eq_true, decide_eq_true_eq]
    left
    omega
  · rcases List.mem_append.mp hx with h | h
    · have := hxs.2 x h
      omega
    · have := hys.2 x h
      omega

/-- Rows in the order of their identities, if these are distinct. -/
theorem orderedBy_pairwise {id : ρ → Id k} (hdistinct : (rows.map id).Nodup) :
    (orderedBy id rows).Pairwise fun a b => (id a).uuid < (id b).uuid := by
  have htotal : Std.Total fun a b : ρ => (id a).uuid ≤ (id b).uuid :=
    ⟨fun a b => BitVec.le_total _ _⟩
  have htrans : IsTrans ρ fun a b : ρ => (id a).uuid ≤ (id b).uuid := ⟨fun _ _ _ => BitVec.le_trans⟩
  have hsorted : (orderedBy id rows).Pairwise fun a b => (id a).uuid ≤ (id b).uuid :=
    List.pairwise_insertionSort _ rows
  have hperm : (orderedBy id rows).Perm rows := List.perm_insertionSort _ rows
  have hne : (orderedBy id rows).Pairwise fun a b => id a ≠ id b :=
    List.pairwise_map.mp ((hperm.map id).nodup_iff.mpr hdistinct)
  refine (hsorted.and hne).imp fun {a b} h => ?_
  exact BitVec.lt_of_le_ne h.1 fun heq => h.2 (Id.ext_uuid heq)

/-- One kind of entity, in the order of the identities. -/
theorem InOrder.of_pairwise {id : ρ → Id k} {n : ℕ} (entity : Id k → RecoveryEventEntity)
    (state : ρ → RecoveryState) (hkey : ∀ i, (entity i).key = (n, i.uuid))
    (h : rows.Pairwise fun a b => (id a).uuid < (id b).uuid) :
    InOrder n (n + 1) (rows.map fun r => (entity (id r), state r)) := by
  refine ⟨List.pairwise_map.mpr (h.imp fun {a b} hlt => ?_), fun x hx => ?_⟩
  · simp [RecoveryEventEntity.before, hkey, hlt]
  · obtain ⟨r, -, rfl⟩ := List.mem_map.mp hx
    simp [hkey]

/-- Rows of a table have distinct identities. -/
theorem nodup_filter_map {κ : Type} [Keyed ρ κ] (table : Table ρ) (p : ρ → Bool) :
    ((table.rows.filter p).map Keyed.key).Nodup :=
  table.nodup.sublist (List.filter_sublist.map _)

theorem MessageRow.Sound.messageId_eq (h : r.Sound s) : r.snapshot.messageId = r.messageId := by
  rw [h.columns]
  rfl

theorem MessageRow.Sound.sessionId_eq (h : r.Sound s) : r.snapshot.sessionId = r.sessionId := by
  rw [h.columns]
  rfl

/-- The messages of an inventory, in the order of the identities they were stored under. -/
theorem inventory_messages_pairwise (hs : Sound s) :
    (s.inventory sessionId now).messages.Pairwise fun a b =>
      a.messageId.uuid < b.messageId.uuid := by
  refine List.Pairwise.filter _ (List.pairwise_map.mpr ?_)
  have hrows := orderedBy_pairwise (nodup_filter_map s.messages fun r => r.sessionId = sessionId)
  refine hrows.imp_of_mem fun {a b} ha hb hlt => ?_
  have hsound : ∀ r ∈ orderedBy MessageRow.messageId (s.mail sessionId), r.Sound s :=
    fun r hr => hs.messages r (List.mem_of_mem_filter (mem_orderedBy.mp hr))
  rw [(hsound a ha).messageId_eq, (hsound b hb).messageId_eq]
  exact hlt

/-- The candidates of an inventory come in order, and so once each. -/
theorem candidates_inOrder (hs : Sound s) :
    InOrder 1 7 (s.inventory sessionId now).candidates := by
  have hsession :
      InOrder 1 2 [(RecoveryEventEntity.session sessionId, RecoveryState.sessionOpen)] :=
    ⟨List.pairwise_singleton _ _, fun x hx => by
      cases List.mem_singleton.mp hx
      exact ⟨le_rfl, Nat.one_lt_two⟩⟩
  have hparticipants : (s.inventory sessionId now).participants.Pairwise fun a b =>
      a.participantId.uuid < b.participantId.uuid :=
    List.pairwise_map.mpr (orderedBy_pairwise (nodup_filter_map s.participants _))
  have hlaunches : (s.inventory sessionId now).launches.Pairwise fun a b =>
      a.attemptId.uuid < b.attemptId.uuid :=
    orderedBy_pairwise (nodup_filter_map s.launches _)
  have hoperations : (s.inventory sessionId now).operations.Pairwise fun a b =>
      a.operationId.uuid < b.operationId.uuid :=
    List.pairwise_map.mpr (orderedBy_pairwise (nodup_filter_map s.operations _))
  have heffects : (s.inventory sessionId now).effects.Pairwise fun a b =>
      a.requestId.uuid < b.requestId.uuid :=
    orderedBy_pairwise (nodup_filter_map s.journal.effects _)
  have hmessages : (s.inventory sessionId now).messages.Pairwise _ := inventory_messages_pairwise hs
  have hkinds : ∀ {n : ℕ}, n ≤ n + 1 := Nat.le_succ _
  exact ((((hsession.append (.of_pairwise .participant _ (fun _ => rfl) hparticipants)
    (by decide) hkinds).append (.of_pairwise .driverInstance _ (fun _ => rfl) hlaunches)
    (by decide) hkinds).append (.of_pairwise .operation _ (fun _ => rfl) hoperations)
    (by decide) hkinds).append (.of_pairwise .message _ (fun _ => rfl) hmessages)
    (by decide) hkinds).append (.of_pairwise .effect _ (fun _ => rfl) heffects) (by decide) hkinds

/-! ### What is in it -/

/-- An inventory of exactly what is unfinished in a session, everything once and in order. -/
structure RecoveryInventory.Exact (i : RecoveryInventory) (s : Store) (sessionId : SessionId) :
    Prop where
  launches : ∀ l, l ∈ i.launches ↔ l ∈ s.launches ∧ l.sessionId = sessionId ∧ l.state ≠ .stopped
  participants : ∀ p, p ∈ i.participants ↔
    (∃ r ∈ s.participants, r.snapshot = p) ∧ p.sessionId = sessionId
  operations : ∀ o, o ∈ i.operations ↔
    (∃ r ∈ s.operations, r.snapshot = o) ∧ o.sessionId = sessionId ∧ o.terminalOutcome = none
  messages : ∀ m, m ∈ i.messages ↔
    (∃ r ∈ s.messages, r.snapshot = m) ∧ m.sessionId = sessionId ∧ m.state.isTerminal = false
  effects : ∀ e, e ∈ i.effects ↔
    e ∈ s.journal.effects ∧ e.sessionId = sessionId ∧ e.phase.isOpen = true
  ordered : i.candidates.Pairwise fun x y => x.1.before y.1 = true

theorem inventory_exact (hs : Sound s) :
    (s.inventory sessionId now).Exact s sessionId where
  launches l := by
    simp [Store.inventory, mem_orderedBy, Store.openLaunches, Table.mem_def]
  participants p := by
    simp only [Store.inventory, List.mem_map, mem_orderedBy, Store.members, List.mem_filter,
      decide_eq_true_eq]
    constructor
    · rintro ⟨r, ⟨hr, hsession⟩, rfl⟩
      exact ⟨⟨r, hr, rfl⟩, hsession⟩
    · rintro ⟨⟨r, hr, rfl⟩, hsession⟩
      exact ⟨r, ⟨hr, hsession⟩, rfl⟩
  operations o := by
    simp only [Store.inventory, List.mem_map, mem_orderedBy, Store.openOperations,
      List.mem_filter, Bool.and_eq_true, decide_eq_true_eq]
    constructor
    · rintro ⟨r, ⟨hr, hopen⟩, rfl⟩
      exact ⟨⟨r, hr, rfl⟩, hopen⟩
    · rintro ⟨⟨r, hr, rfl⟩, hopen⟩
      exact ⟨r, ⟨hr, hopen⟩, rfl⟩
  messages m := by
    simp only [Store.inventory, List.mem_filter, List.mem_map, mem_orderedBy, Store.mail,
      decide_eq_true_eq, Bool.not_eq_true']
    constructor
    · rintro ⟨⟨r, ⟨hr, hsession⟩, rfl⟩, hopen⟩
      exact ⟨⟨r, hr, rfl⟩, (hs.messages r hr).sessionId_eq.trans hsession, hopen⟩
    · rintro ⟨⟨r, hr, rfl⟩, hsession, hopen⟩
      exact ⟨⟨r, ⟨hr, (hs.messages r hr).sessionId_eq.symm.trans hsession⟩, rfl⟩, hopen⟩
  effects e := by
    simp [Store.inventory, mem_orderedBy, Store.openEffects, Table.mem_def]
  ordered := (candidates_inOrder hs).1

/-- **The store agrees**: it finds every candidate in the state the host has put it in. -/
theorem candidates_recorded (hs : Reachable env s)
    (hi : recoveryInventory s sessionId now = .ok i) :
    ∀ x ∈ i.candidates, recoveryState s sessionId now x.1 = .ok (some x.2) := by
  obtain ⟨rfl, -, hreadable⟩ := (recoveryInventory_ok hs).mp hi
  have hexact : (s.inventory sessionId now).Exact s sessionId := inventory_exact hs.sound
  intro x hx
  simp only [RecoveryInventory.candidates, List.mem_append, List.mem_map, List.mem_singleton,
    or_assoc] at hx
  rcases hx with rfl | ⟨p, hp, rfl⟩ | ⟨l, hl, rfl⟩ | ⟨o, ho, rfl⟩ | ⟨m, hm, rfl⟩ | ⟨e, he, rfl⟩
  · exact congrArg Except.ok (if_pos rfl)
  · obtain ⟨⟨r, hr, rfl⟩, hsession⟩ := (hexact.participants p).mp hp
    have hload := hs.sound.tree.loadParticipant (Table.find?_of_mem hr)
    exact result_bind_ok.mpr ⟨_, hload, by simp [hsession]⟩
  · obtain ⟨hmem, hsession, -⟩ := (hexact.launches l).mp hl
    have hfound : s.launches.find? l.attemptId = some l := Table.find?_of_mem hmem
    simp [recoveryState, hfound, hsession]
  · obtain ⟨⟨r, hr, rfl⟩, hsession, -⟩ := (hexact.operations o).mp ho
    have hload := hs.sound.operation_loads (Table.find?_of_mem hr)
    exact result_bind_ok.mpr ⟨_, hload, by simp [hsession]⟩
  · obtain ⟨⟨r, hr, rfl⟩, hsession, -⟩ := (hexact.messages m).mp hm
    have hsound := hs.sound.messages r hr
    have hfound : s.messages.find? r.snapshot.messageId = some r :=
      hsound.messageId_eq ▸ Table.find?_of_mem hr
    have hload : loadMessage s r.snapshot.messageId = .ok (some r.snapshot) := by
      simp [loadMessage, hfound, decodeMessageRow_of_readable
        (hreadable r hr (hsound.sessionId_eq.symm.trans hsession)), Except.map]
    exact result_bind_ok.mpr ⟨_, hload, by simp [hsession]; rfl⟩
  · obtain ⟨hmem, hsession, -⟩ := (hexact.effects e).mp he
    have hfound : s.journal.effects.find? e.requestId = some e := Table.find?_of_mem hmem
    have hload := (hs.effect_stands hfound).loads hs.sound hfound
    exact result_bind_ok.mpr ⟨_, hload, by simp [hsession]⟩

/-! ### Writing it down -/

/-- A batch in order, in which every decision is the one its state calls for, is well formed. -/
theorem classificationsValid_of_pairwise {rows : List RecoveryEventClassification}
    (hdecided : ∀ r ∈ rows, classifyRecovery r.state r.observation = .ok r.decision)
    (hsession : ∀ r ∈ rows, ∀ id, r.entity = .session id → id = sessionId)
    (hordered : rows.Pairwise fun a b => a.entity.before b.entity = true)
    (previous : Option RecoveryEventEntity)
    (hprevious : ∀ e ∈ previous, ∀ r ∈ rows, e.before r.entity = true) :
    classificationsValid sessionId previous rows = true := by
  induction rows generalizing previous with
  | nil => rfl
  | cons r rows ih =>
    obtain ⟨hfirst, hrest⟩ := List.pairwise_cons.mp hordered
    have hvalid : r.isValidAfter sessionId previous = true := by
      have hown := hsession r List.mem_cons_self
      have hafter : previous.all (fun e => e.before r.entity) = true :=
        (Option.all_eq_true _ _).mpr fun e he => hprevious e he r List.mem_cons_self
      simp only [RecoveryEventClassification.isValidAfter, hdecided r List.mem_cons_self, hafter,
        decide_true, Bool.true_and, Bool.and_true]
      cases hentity : r.entity with
      | session id => exact decide_eq_true (hown id hentity)
      | _ => rfl
    rw [classificationsValid, hvalid, Bool.true_and]
    refine ih (fun r hr => hdecided r (List.mem_cons_of_mem _ hr))
      (fun r hr => hsession r (List.mem_cons_of_mem _ hr)) hrest _ fun e he => ?_
    cases he
    exact hfirst

theorem validateRecoveryClassifications_of_states {rows : List RecoveryEventClassification}
    (h : ∀ r ∈ rows, recoveryState s sessionId now r.entity = .ok (some r.state)) :
    validateRecoveryClassifications s sessionId now rows = .ok () := by
  induction rows with
  | nil => rfl
  | cons r rows ih =>
    refine result_bind_ok.mpr ⟨_, h r List.mem_cons_self, ?_⟩
    rw [if_pos rfl]
    exact ih fun r hr => h r (List.mem_cons_of_mem _ hr)

/-- The batch a host makes of an inventory: every candidate with its state, and a decision that
goes with the state and what was seen of it. -/
structure RecordRecoveryClassifications.Covers (c : RecordRecoveryClassifications)
    (i : RecoveryInventory) : Prop where
  session : c.sessionId = i.sessionId
  states : c.classifications.map (fun r => (r.entity, r.state)) = i.candidates
  decided : ∀ r ∈ c.classifications, classifyRecovery r.state r.observation = .ok r.decision

theorem RecordRecoveryClassifications.Covers.mem (h : c.Covers i) {r : RecoveryEventClassification}
    (hr : r ∈ c.classifications) : (r.entity, r.state) ∈ i.candidates :=
  h.states ▸ List.mem_map_of_mem hr

theorem length_candidates :
    (s.inventory sessionId now).candidates.length =
      s.inventorySize sessionId fun r => !r.snapshot.state.isTerminal := by
  have hmessages : (s.inventory sessionId now).messages.length =
      ((s.mail sessionId).filter fun r => !r.snapshot.state.isTerminal).length := by
    have hperm : (orderedBy MessageRow.messageId (s.mail sessionId)).Perm (s.mail sessionId) :=
      List.perm_insertionSort _ _
    simp only [Store.inventory, List.filter_map, List.length_map]
    exact (hperm.filter _).length_eq
  simp only [RecoveryInventory.candidates, List.length_append, List.length_map, hmessages,
    List.length_singleton]
  simp only [Store.inventory, List.length_map, length_orderedBy, Store.inventorySize]
  omega

theorem inventorySize_mono {p q : MessageRow → Bool} (h : ∀ r, p r = true → q r = true) :
    s.inventorySize sessionId p ≤ s.inventorySize sessionId q := by
  have hmessages : ((s.mail sessionId).filter p).length ≤ ((s.mail sessionId).filter q).length :=
    (List.monotone_filter_right _ h).length_le
  unfold Store.inventorySize
  omega

theorem RecordRecoveryClassifications.Covers.isStructurallyValid (hs : Reachable env s)
    (hi : recoveryInventory s sessionId now = .ok i) (h : c.Covers i) :
    c.isStructurallyValid = true := by
  obtain ⟨rfl, hroom, -⟩ := (recoveryInventory_ok hs).mp hi
  have hfew : (s.inventory sessionId now).candidates.length ≤
      s.inventorySize sessionId fun _ => true :=
    length_candidates.trans_le (inventorySize_mono fun _ _ => rfl)
  have hlength : c.classifications.length = (s.inventory sessionId now).candidates.length := by
    rw [← h.states, List.length_map]
  have hnonempty : c.classifications.isEmpty = false := by
    rw [List.isEmpty_eq_false_iff, ← List.length_pos_iff, hlength]
    exact Nat.succ_pos _
  have hordered : c.classifications.Pairwise fun a b => a.entity.before b.entity = true := by
    have hcandidates : InOrder 1 7 (s.inventory sessionId now).candidates :=
      candidates_inOrder hs.sound
    rw [← h.states] at hcandidates
    exact List.pairwise_map.mp hcandidates.1
  have hsession : ∀ r ∈ c.classifications, ∀ id, r.entity = .session id → id = c.sessionId := by
    intro r hr id hid
    have hmem := h.mem hr
    rw [hid, RecoveryInventory.candidates] at hmem
    rw [h.session]
    have hown : id = (s.inventory sessionId now).sessionId ∧ r.state = .sessionOpen := by
      simpa using hmem
    exact hown.1
  have hvalid : classificationsValid c.sessionId none c.classifications = true :=
    classificationsValid_of_pairwise h.decided hsession hordered none nofun
  simp only [RecordRecoveryClassifications.isStructurallyValid, hnonempty, hvalid, Bool.not_false,
    Bool.true_and, Bool.and_true, decide_eq_true_eq]
  omega

/-- Time is of no account to the tables. -/
theorem recoveryState_withFloor {k : SessionId} {floor : Timestamp} {e : RecoveryEventEntity} :
    recoveryState (s.withFloor k floor) sessionId now e = recoveryState s sessionId now e := by
  cases e <;> rfl

/-- A batch under a new identity is written down if there is room for its event. -/
theorem recordRecoveryClassifications_iff (hs : Reachable env s) {r : SessionRecord}
    (hr : s.Authorized c.sessionId c.context.caller c.epoch t r)
    (hi : recoveryInventory s c.sessionId (max r.timeFloor t) = .ok i) (h : c.Covers i)
    (hnew : ∀ table, s.records c.context.requestId table = false) :
    (exec env t (.recordRecoveryClassifications c) s).1.isApplied = true ↔
      s.TakesEvent env c.sessionId
        (eventIdentity env c.context.requestId .recoveryClassified) := by
  have hkept : r.Kept := hs.sound.sessions r (Table.mem_of_find? hr.found)
  obtain ⟨row, hopen, hdecodes, howner⟩ := hr.passes hkept .acquireOwnership
  have hvalid := h.isStructurallyValid hs hi
  have hstates : validateRecoveryClassifications (s.withFloor c.sessionId (max r.timeFloor t))
      c.sessionId (max r.timeFloor t) c.classifications = .ok () :=
    validateRecoveryClassifications_of_states fun x hx =>
      recoveryState_withFloor.trans (candidates_recorded hs hi _ (h.mem hx))
  have hrecorded : s.requestRecorded c.context.requestId = false := by
    have hledger := hnew .requestLedger
    have happrovals := hnew .approvalMutations
    have hintents := hnew .approvalEffectIntents
    simp_all [Store.requestRecorded, Store.records]
  have heffect : s.requestOfEffect c.context.requestId = false := by
    have heffects := hnew .effectJournal
    have hchanges := hnew .effectJournalMutations
    simp_all [Store.requestOfEffect, Store.records]
  have hunrecorded : s.recoveries.find? c.context.requestId = none := by
    simpa [Store.records] using hnew .recoveryClassifications
  have hrecovery : (s.withFloor c.sessionId (max r.timeFloor t)).recoveries.find?
      c.context.requestId = none := hunrecorded
  have hepoch : c.epoch.get < i64Bound := by
    obtain ⟨_, -, hheld, -⟩ := hr.held
    exact (r.epochBounded _ hheld).trans_lt hkept.fits.2
  change (unledgered _ (commit (recordRecoveryClassifications env t c)) s).1.isApplied = true ↔ _
  rw [unledgered_isApplied]
  simp only [commit_done, recordRecoveryClassifications, looks_done, advanceTimeFloor_bind_done,
    hvalid, hrecorded, heffect, hopen, true_and, hdecodes.floor, howner, hrecovery, hstates,
    Except.ok.injEq, exists_eq_left', exists_const, commitRecovery, hepoch, bind_assoc]
  constructor
  · rintro ⟨_, _, rows, -, hbody⟩
    obtain ⟨⟨⟩, s1, hevent, -⟩ := bind_done.mp hbody
    exact (appendEventData_iff.mp ⟨s1, hevent⟩).2.of_eq rfl
  · intro htakes
    obtain ⟨rows, hinsert⟩ := Table.exists_insert (t := s.recoveries)
      (r := ⟨_, c.sessionId, c.context.caller, c.epoch, c.digest env⟩) hunrecorded
    have htakes' : Store.TakesEvent env
        { s.withFloor c.sessionId (max r.timeFloor t) with recoveries := rows } c.sessionId
        (eventIdentity env c.context.requestId .recoveryClassified) := htakes.of_eq rfl
    have hfits : row.snapshot.revision.get < i64Bound := hdecodes.revision ▸ hkept.fits.1
    obtain ⟨s1, hevent⟩ := appendEventData_iff.mpr ⟨hfits, htakes'⟩
    exact ⟨(), s1, rows, hinsert, bind_done.mpr ⟨(), s1, hevent, rfl⟩⟩

/-! ### Recovering -/

/-- The owner gets what `recoveryInventory` returns, at the session's time. -/
theorem loadRecoveryInventory_eq (hs : Reachable env s) {r : SessionRecord} {owner : HostId}
    {epoch : FencingEpoch} (hr : s.Authorized sessionId owner epoch t r) :
    exec env t (.loadRecoveryInventory sessionId owner epoch) s =
      match recoveryInventory s sessionId (max r.timeFloor t) with
      | .ok i => (.ok (.unchanged (.inventory i)), s.withFloor sessionId (max r.timeFloor t))
      | .error e => (.error e, s) := by
  obtain ⟨row, hauthorize⟩ := authorizeOwner_of_authorized
    (hs.sound.sessions r (Table.mem_of_find? hr.found)) hr .acquireOwnership
  have hsame : recoveryInventory (s.withFloor sessionId (max r.timeFloor t)) sessionId
      (max r.timeFloor t) = recoveryInventory s sessionId (max r.timeFloor t) := rfl
  change unrecorded _ (loadRecoveryInventory t sessionId owner epoch) s = _
  cases hi : recoveryInventory s sessionId (max r.timeFloor t) with
  | ok i =>
    have hbody : loadRecoveryInventory t sessionId owner epoch s =
        .done (.unchanged i) (s.withFloor sessionId (max r.timeFloor t)) := by
      refine bind_done.mpr ⟨_, _, hauthorize, ?_⟩
      simp [hsame, hi]
    simp [unrecorded, unledgered, settleUnrecorded, commit, hbody, Except.map, Mutation.map]
  | error e =>
    have hbody : loadRecoveryInventory t sessionId owner epoch s = .aborted e := by
      simp [loadRecoveryInventory, Bind.bind, Tx.bind, hauthorize, Tx.read, Tx.ofExcept, hsame, hi,
        Tx.abort]
    simp [unrecorded, unledgered, settleUnrecorded, commit, hbody, Except.map]

/-- **Recovery has an inventory**, of exactly what is unfinished, if and only if there is room
for the finished messages too and every message can be read; and what a host makes of it at
that time is written down if and only if there is room for the event. -/
theorem recovery_inventory_is_available (hs : Reachable env s) {r : SessionRecord}
    {owner : HostId} {epoch : FencingEpoch} (hr : s.Authorized sessionId owner epoch t r) :
    ((∃ i, (exec env t (.loadRecoveryInventory sessionId owner epoch) s).1 =
        .ok (.unchanged (.inventory i)) ∧ i.Exact s sessionId) ↔
      s.inventorySize sessionId (fun _ => true) ≤ maxRecoveryClassifications ∧
        ∀ m ∈ s.messages, m.sessionId = sessionId → m.Readable) ∧
    ∀ i c, (exec env t (.loadRecoveryInventory sessionId owner epoch) s).1 =
        .ok (.unchanged (.inventory i)) → c.Covers i → c.context.caller = owner →
      c.epoch = epoch → (∀ table, s.records c.context.requestId table = false) →
      ((exec env t (.recordRecoveryClassifications c)
          (exec env t (.loadRecoveryInventory sessionId owner epoch) s).2).1.isApplied = true ↔
        s.TakesEvent env sessionId
          (eventIdentity env c.context.requestId .recoveryClassified)) := by
  have hloaded : ∀ i, (exec env t (.loadRecoveryInventory sessionId owner epoch) s).1 =
      .ok (.unchanged (.inventory i)) ↔
        recoveryInventory s sessionId (max r.timeFloor t) = .ok i := by
    intro i
    rw [loadRecoveryInventory_eq hs hr]
    cases recoveryInventory s sessionId (max r.timeFloor t) <;> simp
  refine ⟨?_, ?_⟩
  · simp only [hloaded, recoveryInventory_ok hs]
    constructor
    · rintro ⟨i, ⟨-, hcond⟩, -⟩
      exact hcond
    · intro hcond
      exact ⟨_, ⟨rfl, hcond⟩, inventory_exact hs.sound⟩
  · rintro i c hi hcovers rfl rfl hnew
    have hinventory := (hloaded i).mp hi
    obtain rfl : sessionId = c.sessionId := by
      rw [hcovers.session, ((recoveryInventory_ok hs).mp hinventory).1]
      rfl
    -- the inventory has raised the session's time, and changed nothing else
    have hafter : (exec env t (.loadRecoveryInventory c.sessionId c.context.caller c.epoch) s).2 =
        s.withFloor c.sessionId (max r.timeFloor t) := by
      rw [loadRecoveryInventory_eq hs hr, hinventory]
    have hreach : Reachable env (s.withFloor c.sessionId (max r.timeFloor t)) :=
      hafter ▸ hs.tail (.call t _)
    have htime : max (max r.timeFloor t) t = max r.timeFloor t := max_eq_left (le_max_right _ _)
    have hr' : (s.withFloor c.sessionId (max r.timeFloor t)).Authorized c.sessionId
        c.context.caller c.epoch t { r with timeFloor := max r.timeFloor t } := by
      refine ⟨Store.find?_withFloor hr.found _, hr.isOpen, ?_⟩
      change r.HeldUntil _ _ (max (max r.timeFloor t) t)
      rw [htime]
      exact hr.held
    have hi' : recoveryInventory (s.withFloor c.sessionId (max r.timeFloor t)) c.sessionId
        (max (max r.timeFloor t) t) = .ok i := by
      rw [htime]
      exact hinventory
    rw [hafter, recordRecoveryClassifications_iff hreach hr' hi' hcovers fun table => ?_]
    · exact ⟨fun h => h.of_eq rfl, fun h => h.of_eq rfl⟩
    · rw [Store.records_of_requests rfl]
      exact hnew table

namespace Sample

/-- The driver answers, and nothing else can be looked at. -/
def observed : RecoveryEventEntity → LiveObservation
  | .driverInstance _ => .sameAuthenticatedInstance
  | _ => .notApplicable

def classified (x : RecoveryEventEntity × RecoveryState) : RecoveryEventClassification where
  entity := x.1
  state := x.2
  observation := observed x.1
  decision := match classifyRecovery x.2 (observed x.1) with
    | .ok decision => decision
    | .error _ => .terminal

/-- What is unfinished while the operation runs. -/
def unfinished : RecoveryInventory := running.inventory session (seconds 1)

def recover : RecordRecoveryClassifications :=
  ⟨request 70, session, epoch, unfinished.candidates.map classified⟩

end Sample

open Sample

/-- While the operation runs there is an inventory, and what the host makes of it is written
down. -/
theorem recovery_inventory_is_available_running :
    (exec world (seconds 1) (.loadRecoveryInventory session hostA epoch) running).1 =
        .ok (.unchanged (.inventory unfinished)) ∧
    unfinished.candidates.length = 4 ∧
    running.inventorySize session (fun _ => true) = 5 ∧
    (exec world (seconds 1) (.recordRecoveryClassifications recover) (exec world (seconds 1)
        (.loadRecoveryInventory session hostA epoch)
        running).2).1.isApplied = true := by
  have hs := running_reachable
  obtain ⟨r, hfound, hopen, howner, hepoch, hfloor⟩ : ∃ r ∈ running.sessions.find? session,
      r.closed = false ∧ r.owner = some (hostA, seconds 30) ∧ r.ownerEpoch = some epoch ∧
        r.timeFloor = seconds 0 := by decide +kernel
  have hnow : max r.timeFloor (seconds 1) = seconds 1 := by
    rw [hfloor]
    decide
  have hauthorized : running.Authorized session hostA epoch
      (seconds 1) r := by
    refine ⟨hfound, hopen, _, howner, hepoch, ?_⟩
    rw [hnow]
    decide
  have hsize : running.inventorySize session (fun _ => true) = 5 := by
    decide +kernel
  have hreadable : ∀ m ∈ running.messages, m.Readable := by
    simp only [Table.mem_def]
    decide +kernel
  obtain ⟨hloads, haccepted⟩ := recovery_inventory_is_available hs hauthorized
  have hroom : running.inventorySize session (fun _ => true) ≤
      maxRecoveryClassifications := hsize.trans_le (by decide)
  obtain ⟨i, hi, -⟩ := hloads.mpr ⟨hroom, fun m hm _ => hreadable m hm⟩
  have hunfinished : i = unfinished := by
    have hinventory : recoveryInventory running session (max r.timeFloor (seconds 1)) = .ok _ :=
      (recoveryInventory_ok hs).mpr ⟨rfl, hroom, fun m hm _ => hreadable m hm⟩
    rw [loadRecoveryInventory_eq hs hauthorized, hinventory, hnow] at hi
    cases hi
    rfl
  subst hunfinished
  have hcovers : recover.Covers unfinished := by
    refine ⟨rfl, ?_, ?_⟩
    · decide +kernel
    · decide +kernel
  have htakes : running.TakesEvent world session
      (eventIdentity world recover.context.requestId .recoveryClassified) := by
    constructor
    · decide +kernel
    · decide +kernel
    · decide +kernel
  have hnew : ∀ table, running.records recover.context.requestId table = false :=
    Store.records_eq_false.mpr (by decide +kernel)
  exact ⟨hi, by decide +kernel, hsize, (haccepted _ _ hi hcovers rfl rfl hnew).mpr htakes⟩

/-- **No inventory**: there is little to look after, the session has an owner, and one
message that cannot be read takes the inventory with it. -/
theorem recovery_inventory_lost :
    Reachable world doubted ∧
    (∃ r, doubted.Authorized session hostA epoch (seconds 7) r) ∧
    doubted.inventorySize session (fun m => !m.snapshot.state.isTerminal) ≤
      maxRecoveryClassifications ∧
    (exec world (seconds 7) (.loadRecoveryInventory session hostA epoch) doubted).1 =
        .error .corrupt := by
  obtain ⟨r, hfound, hopen, howner, hepoch, hlive⟩ : ∃ r ∈ doubted.sessions.find? session,
      r.closed = false ∧ r.owner = some (hostA, seconds 30) ∧ r.ownerEpoch = some epoch ∧
        max r.timeFloor (seconds 7) < seconds 30 := by decide +kernel
  refine ⟨leased_reachable.trans ((run_calls _ _).trans (run_calls _ _)),
    ⟨r, hfound, hopen, _, howner, hepoch, hlive⟩, ?_, ?_⟩
  · decide +kernel
  · decide +kernel

end Navigator
