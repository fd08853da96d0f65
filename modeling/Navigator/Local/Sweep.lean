/-
A sweep of the mailbox pump.

A sweep loads the messages that are due in a session and dispatches them one after the other.
The first dispatch that fails, for whatever reason, ends the sweep, and the next sweep begins
with the same message again.

* **`sweep_attempts_every_item_iff`** — a sweep attempts every item of its list exactly if none
  but the last fails;
* **`failing_destination_blocks_the_rest`** — a driver that does not become ready keeps the
  messages of another one from ever being dispatched.
-/
import Navigator.OneWorker

namespace Navigator

def boundaryError : ExecutorError := ⟨"authenticated Driver boundary failed"⟩

/-- What one step of the delivery loop has come to. -/
inductive DeliveryStep where
  | empty
  | accepted (id : MessageId)
  | deadLetter (id : MessageId)
  | uncertain (id : MessageId)
  | reconciliationRequired (id : MessageId)
  | retryScheduled (id : MessageId)
deriving DecidableEq

/-- What a dispatch meets: the store, the driver, and in each round the permit, the delivery
loop (whose errors are all the same to it) and the clock, which is first read before them. -/
structure Surroundings where
  loadOperation : OperationId → Except StoreError OperationSnapshot
  ensureOperationReady : OperationSnapshot → Except ExecutorError (InstanceId × LaunchAttemptId)
  check : ℕ → Bool
  driveOnce : ℕ → SessionId → FencingEpoch → ParticipantId → InstanceId → LaunchAttemptId →
    Option DeliveryStep
  now : ℕ → ℕ

structure MailboxBackedOperationExecutor where
  maxDeliverySteps : ℕ
  deliveryBudget : ℕ

/-- So many rounds of `dispatch_message`, from the one of the given number on. -/
def deliver (drive : ℕ → Option DeliveryStep) (a : Surroundings) (deadline : ℕ)
    (messageId : MessageId) : ℕ → ℕ → Except ExecutorError Unit
  | 0, _ => .error boundaryError
  | n + 1, round =>
    if a.check round = false then .error boundaryError
    else match drive round with
      | none => .error boundaryError
      | some step =>
        if step = .accepted messageId then .ok ()
        else if step = .deadLetter messageId ∨ step = .uncertain messageId then
          .error boundaryError
        else if deadline ≤ a.now (round + 1) then .error boundaryError
        else deliver drive a deadline messageId n (round + 1)

def MailboxBackedOperationExecutor.dispatchMessage (E : MailboxBackedOperationExecutor)
    (a : Surroundings) (operationId : OperationId) (messageId : MessageId) (epoch : FencingEpoch) :
    Except ExecutorError Unit :=
  match a.loadOperation operationId with
  | .error _ => .error boundaryError
  | .ok operation =>
    match a.ensureOperationReady operation with
    | .error e => .error e
    | .ok (instanceId, attemptId) =>
      deliver (a.driveOnce · operation.sessionId epoch operation.participantId instanceId attemptId)
        a (a.now 0 + E.deliveryBudget) messageId E.maxDeliverySteps 0

/-- What a sweep meets: the permit before anything else and before each item, the store, and
what each dispatch meets. -/
structure SweepInput where
  check : Option ℕ → Bool
  loadDueSessionDeliveryWork : SessionId → ℕ → Except StoreError (List SessionDeliveryWork)
  dispatch : ℕ → Surroundings

/-- The loop of `sweep_with_permit`: how it ends, and the items it has tried to dispatch. -/
def sweepItems (E : MailboxBackedOperationExecutor) (w : SweepInput) (epoch : FencingEpoch) :
    ℕ → List SessionDeliveryWork → Except ExecutorError Unit × List SessionDeliveryWork
  | _, [] => (.ok (), [])
  | i, item :: rest =>
    if w.check (some i) = false then (.error boundaryError, [])
    else match E.dispatchMessage (w.dispatch i) item.operation.operationId item.message.messageId
        epoch with
      | .error e => (.error e, [item])
      | .ok () => ((sweepItems E w epoch (i + 1) rest).1,
          item :: (sweepItems E w epoch (i + 1) rest).2)

structure BoundedSessionMailboxDispatcher where
  executor : MailboxBackedOperationExecutor
  limit : ℕ

/-- `sweep_with_permit`, and the items it has tried to dispatch. -/
def BoundedSessionMailboxDispatcher.sweepWithPermit (D : BoundedSessionMailboxDispatcher)
    (w : SweepInput) (sessionId : SessionId) (epoch : FencingEpoch) :
    Except ExecutorError ℕ × List SessionDeliveryWork :=
  if w.check none = false then (.error boundaryError, [])
  else match w.loadDueSessionDeliveryWork sessionId D.limit with
    | .error _ => (.error boundaryError, [])
    | .ok work => ((sweepItems D.executor w epoch 0 work).1.map fun _ => work.length,
        (sweepItems D.executor w epoch 0 work).2)

/-- The pump of a session: a sweep after each tick or wake-up, whatever the last one has come to,
until the session is not admitted any more. -/
def mailboxPump (D : BoundedSessionMailboxDispatcher) (sessionId : SessionId)
    (epoch : FencingEpoch) : List (Option SweepInput) → List SessionDeliveryWork
  | some w :: rest => (D.sweepWithPermit w sessionId epoch).2 ++ mailboxPump D sessionId epoch rest
  | none :: _ | [] => []

variable {E : MailboxBackedOperationExecutor} {a : Surroundings} {w : SweepInput}
  {item : SessionDeliveryWork} {epoch : FencingEpoch}

/-! ### Dispatches that succeed -/

/-- In one of `last` rounds the message is accepted, and those before it were in time, without
an error, and left open what becomes of the message. -/
def AcceptedBy (drive : ℕ → Option DeliveryStep) (now : ℕ → ℕ) (deadline : ℕ)
    (messageId : MessageId) (last first : ℕ) : Prop :=
  ∃ n < last, drive (first + n) = some (.accepted messageId) ∧ ∀ m < n,
    now (first + m + 1) < deadline ∧ ∃ step, drive (first + m) = some step ∧
      step ≠ .accepted messageId ∧ step ≠ .deadLetter messageId ∧ step ≠ .uncertain messageId

/-- The operation can be loaded, its driver is ready, and accepts the message in time. -/
def Surroundings.Delivers (a : Surroundings) (E : MailboxBackedOperationExecutor)
    (item : SessionDeliveryWork) (epoch : FencingEpoch) : Prop :=
  ∃ operation instanceId attemptId, a.loadOperation item.operation.operationId = .ok operation ∧
    a.ensureOperationReady operation = .ok (instanceId, attemptId) ∧
    AcceptedBy (a.driveOnce · operation.sessionId epoch operation.participantId instanceId
      attemptId) a.now (a.now 0 + E.deliveryBudget) item.message.messageId E.maxDeliverySteps 0

/-- The first of some rounds decides, or leaves it to the others. -/
theorem exists_first_iff {P Q : ℕ → Prop} {k : ℕ} : (∃ n < k + 1, P n ∧ ∀ m < n, Q m) ↔
    P 0 ∨ Q 0 ∧ ∃ n < k, P (n + 1) ∧ ∀ m < n, Q (m + 1) := by
  constructor
  · rintro ⟨_ | n, hn, hP, hQ⟩
    · exact .inl hP
    · exact .inr ⟨hQ 0 n.succ_pos, n, Nat.lt_of_succ_lt_succ hn, hP,
        fun m hm => hQ (m + 1) (Nat.succ_lt_succ hm)⟩
  · rintro (hP | ⟨hQ, n, hn, hP, hQ'⟩)
    · exact ⟨0, k.succ_pos, hP, fun m hm => absurd hm m.not_lt_zero⟩
    · refine ⟨n + 1, Nat.succ_lt_succ hn, hP, fun m hm => ?_⟩
      cases m with
      | zero => exact hQ
      | succ m => exact hQ' m (Nat.lt_of_succ_lt_succ hm)

theorem deliver_ok {drive : ℕ → Option DeliveryStep} {deadline : ℕ} {messageId : MessageId}
    (hcheck : ∀ n, a.check n = true) (n first : ℕ) :
    deliver drive a deadline messageId n first = .ok () ↔
      AcceptedBy drive a.now deadline messageId n first := by
  induction n generalizing first with
  | zero => exact ⟨nofun, fun ⟨n, hlt, _⟩ => absurd hlt n.not_lt_zero⟩
  | succ n ih =>
    have hlater := ih (first + 1)
    simp only [AcceptedBy, Nat.add_assoc, Nat.add_comm 1] at hlater
    rw [deliver, if_neg (by simp [hcheck]), AcceptedBy, exists_first_iff]
    simp only [Nat.add_zero, Nat.add_assoc, ← hlater]
    obtain _ | step := drive first
    · simp
    dsimp only
    split
    · next haccepted => simp [haccepted]
    · split
      · next hended => rcases hended with rfl | rfl <;> simp
      · split <;> simp_all

theorem dispatchMessage_ok (hcheck : ∀ n, a.check n = true) :
    E.dispatchMessage a item.operation.operationId item.message.messageId epoch = .ok () ↔
      a.Delivers E item epoch := by
  unfold MailboxBackedOperationExecutor.dispatchMessage Surroundings.Delivers
  obtain e | operation := a.loadOperation item.operation.operationId
  · simp
  cases hready : a.ensureOperationReady operation with
  | error e => simp [hready]
  | ok x =>
    obtain ⟨instanceId, attemptId⟩ := x
    simp [hready, deliver_ok hcheck]

/-! ### Sweeps -/

/-- The permit is valid whenever it is checked. -/
structure SweepInput.Admitted (w : SweepInput) : Prop where
  sweep : ∀ i, w.check i = true
  rounds : ∀ i n, (w.dispatch i).check n = true

/-- **The loop comes to the end of the list** if none but the last item fails. -/
theorem sweepItems_eq_iff (hw : w.Admitted) (work : List SessionDeliveryWork) (i : ℕ) :
    (sweepItems E w epoch i work).2 = work ↔ ∀ j item, j + 1 < work.length →
      work[j]? = some item → (w.dispatch (i + j)).Delivers E item epoch := by
  induction work generalizing i with
  | nil => simp [sweepItems]
  | cons first rest ih =>
    have hfirst : E.dispatchMessage _ _ _ epoch = .ok () ↔ (w.dispatch i).Delivers E first epoch :=
      dispatchMessage_ok (hw.rounds i)
    rw [sweepItems, if_neg (by simp [hw.sweep])]
    obtain _ | ⟨next, rest⟩ := rest
    · split <;> simp [sweepItems]
    split
    · next e hdispatch =>
      refine ⟨nofun, fun hall => ?_⟩
      have hdone := hfirst.mpr (hall 0 first (Nat.succ_lt_succ (Nat.succ_pos _)) rfl)
      cases hdispatch.symm.trans hdone
    · next hdispatch =>
      rw [List.cons.injEq, and_iff_right rfl, ih (i + 1)]
      refine ⟨fun hall j x hj hx => ?_, fun hall j x hj hx => ?_⟩
      · cases j with
        | zero =>
          cases hx
          exact hfirst.mp hdispatch
        | succ j =>
          rw [Nat.add_comm j, ← Nat.add_assoc]
          exact hall j x (Nat.lt_of_succ_lt_succ hj) hx
      · rw [Nat.add_assoc, Nat.add_comm 1]
        exact hall (j + 1) x (Nat.succ_lt_succ hj) hx

/-- **When a sweep attempts every item**: while the permit is valid, the items whose dispatch it
attempts are those of the list, each once and in their order, exactly if every item but the last
is delivered. -/
theorem sweep_attempts_every_item_iff (D : BoundedSessionMailboxDispatcher) {w : SweepInput}
    {sessionId : SessionId} {epoch : FencingEpoch} {work : List SessionDeliveryWork}
    (hw : w.Admitted) (hwork : w.loadDueSessionDeliveryWork sessionId D.limit = .ok work) :
    (D.sweepWithPermit w sessionId epoch).2 = work ↔ ∀ j item, j + 1 < work.length →
      work[j]? = some item → (w.dispatch j).Delivers D.executor item epoch := by
  have hloop : (sweepItems D.executor w epoch 0 work).2 = work ↔ _ := sweepItems_eq_iff hw work 0
  rw [BoundedSessionMailboxDispatcher.sweepWithPermit, if_neg (by simp [hw.sweep]), hwork]
  simpa only [Nat.zero_add] using hloop

namespace Sample

/-- The input of an operation, each with an identity of its own. -/
def due (n : ℕ) : SessionDeliveryWork :=
  let operation := { runningOperation with operationId := id n, inputMessageId := id n }
  ⟨inputMessage operation 1 (seconds 0), operation⟩

/-- Two messages for two drivers, of which the first may not be ready, are due; a driver that is
ready accepts its message at once. -/
def dueTwice (ready : Bool) : SweepInput where
  check _ := true
  loadDueSessionDeliveryWork _ _ := .ok [due 0, due 1]
  dispatch i :=
    { loadOperation := fun k => .ok { runningOperation with operationId := k }
      ensureOperationReady := fun _ =>
        if ready ∨ i = 1 then .ok (id i, id i) else .error boundaryError
      check := fun _ => true
      driveOnce := fun _ _ _ _ _ _ => some (.accepted (id i))
      now := fun _ => 0 }

def dispatcher : BoundedSessionMailboxDispatcher := ⟨⟨8, 1000⟩, 2⟩

end Sample

open Sample

theorem sweep_attempts_every_item_iff_ready :
    (dispatcher.sweepWithPermit (dueTwice true) session Sample.epoch).2 = [due 0, due 1] := by
  refine (sweep_attempts_every_item_iff dispatcher ⟨fun _ => rfl, fun _ _ => rfl⟩ rfl).mpr ?_
  intro j item hj hitem
  obtain rfl : j = 0 := Nat.lt_one_iff.mp (Nat.lt_of_succ_lt_succ hj)
  cases hitem
  exact (dispatchMessage_ok fun _ => rfl).mp rfl

/-- The permit is valid, and the second driver would take its message at once; but however often
the pump sweeps, it is never asked. -/
theorem failing_destination_blocks_the_rest :
    (dueTwice false).Admitted ∧
      ((dueTwice false).dispatch 1).Delivers dispatcher.executor (due 1) Sample.epoch ∧
      ∀ n, due 1 ∉ mailboxPump dispatcher session Sample.epoch
        (List.replicate n (some (dueTwice false))) := by
  refine ⟨⟨fun _ => rfl, fun _ _ => rfl⟩, (dispatchMessage_ok fun _ => rfl).mp rfl, fun n => ?_⟩
  induction n with
  | zero => exact List.not_mem_nil
  | succ n ih => exact fun hin => (List.mem_cons.mp hin).elim (by decide) ih

end Navigator
