/-
The accounts of mailboxes.

The counter of a destination is written by every call that queues a message or finishes
one, apart from the messages themselves; it says how many are unfinished, how large they
are, and which sequence comes next.

* **`mailbox_accounts_balance`** — the counters are right in every run, so that taking a
  message off them never fails.
-/
import Navigator.Deeds.Once
import Navigator.Ownership

namespace Navigator

open Txn Tx

variable {env : Env} {s s' : Store}
variable {m m' : MessageSnapshot} {r : MessageRow} {d : ParticipantId}
variable {messages : Table MessageRow} {now t : Timestamp} {u : Unit}

/-! ### Counters -/

/-- The message is unfinished, and for the destination. -/
def MessageRow.isQueuedFor (destination : ParticipantId) (r : MessageRow) : Bool :=
  decide (r.destination = destination) && !r.snapshot.state.isTerminal

/-- The sum of `f` over the unfinished messages for a destination. -/
def Store.weight (s : Store) (f : ValidatedMessageEnvelope → ℕ) (d : ParticipantId) : ℕ :=
  s.messages.total fun r => if r.isQueuedFor d then f r.snapshot.envelope else 0

/-- The counter of a destination is right. -/
structure Store.Accounted (env : Env) (s : Store) (d : ParticipantId) : Prop where
  messages : (s.counterOf d).queuedMessages = s.weight (fun _ => 1) d
  bytes : (s.counterOf d).queuedBytes = s.weight env.envelopeSize d
  first : 0 < (s.counterOf d).nextSequence
  next : ∀ r ∈ s.messages, r.destination = d → r.mailboxSequence < (s.counterOf d).nextSequence
  unique : ∀ r ∈ s.messages, ∀ r' ∈ s.messages, r.destination = d → r'.destination = d →
    r.mailboxSequence = r'.mailboxSequence → r = r'

theorem Store.counterOf_destination (s : Store) (d : ParticipantId) :
    (s.counterOf d).destination = d := by
  unfold Store.counterOf
  cases h : s.counters.find? d with
  | none => rfl
  | some counter => exact Table.key_of_find? h

/-- Only the counter of the destination is written. -/
theorem Store.counterOf_upsert (s : Store) (counter : MailboxCounter)
    (messages : Table MessageRow) (d : ParticipantId) :
    Store.counterOf { s with messages, counters := s.counters.upsert counter } d =
      if counter.destination = d then counter else s.counterOf d := by
  unfold Store.counterOf
  rw [Table.find?_upsert]
  change (if counter.destination = d then some counter else s.counters.find? d).getD _ = _
  split <;> rfl

theorem Store.counterOf_replace {counter old : MailboxCounter} (messages : Table MessageRow)
    (hold : s.counters.find? counter.destination = some old) (d : ParticipantId) :
    Store.counterOf { s with messages, counters := s.counters.replace counter } d =
      if counter.destination = d then counter else s.counterOf d := by
  unfold Store.counterOf
  rw [Table.find?_replace]
  change (if counter.destination = d then _ else s.counters.find? d).getD _ = _
  split
  · next h =>
    rw [← h, hold]
    rfl
  · rfl

/-! ### What deeds do to the accounts -/

theorem Store.weight_insert (counters : Table MailboxCounter)
    (h : s.messages.insert? (.ofSnapshot m) = some messages) (hqueued : m.state = .queued)
    (f : ValidatedMessageEnvelope → ℕ) (d : ParticipantId) :
    Store.weight { s with messages, counters } f d =
      (if m.destination = d then f m.envelope else 0) + s.weight f d := by
  unfold Store.weight
  rw [Table.total_insert h]
  by_cases hd : m.destination = d <;>
    simp [MessageRow.isQueuedFor, MessageRow.ofSnapshot, hqueued, hd,
      MessageDeliveryState.isTerminal]

theorem Store.weight_replace (counters : Table MailboxCounter)
    (h : s.messages.find? r.messageId = some r) (hlive : r.snapshot.state.isTerminal = false)
    (htouched : r.snapshot.Touched m') (f : ValidatedMessageEnvelope → ℕ) (d : ParticipantId) :
    Store.weight { s with
        messages := s.messages.replace { r with snapshot := m' }, counters } f d +
      (if r.destination = d ∧ m'.state.isTerminal = true then f r.snapshot.envelope else 0) =
      s.weight f d := by
  unfold Store.weight
  have htotal := Table.total_replace (r := { r with snapshot := m' }) h
    fun r => if r.isQueuedFor d then f r.snapshot.envelope else 0
  simp only [MessageRow.isQueuedFor, hlive, htouched.envelope] at htotal ⊢
  by_cases hd : r.destination = d <;> cases hover : m'.state.isTerminal <;>
    simp_all

/-- A change of other tables. -/
theorem Store.Accounted.of_eq (h : s.Accounted env d) (hmessages : s'.messages = s.messages)
    (hcounters : s'.counters = s.counters) :
    s'.Accounted env d := by
  have hcounter : s'.counterOf d = s.counterOf d := by rw [counterOf, hcounters, counterOf]
  refine ⟨?_, ?_, ?_, ?_, hmessages ▸ h.unique⟩
  · rw [hcounter, h.messages, weight, weight, hmessages]
  · rw [hcounter, h.bytes, weight, weight, hmessages]
  · rw [hcounter]
    exact h.first
  · rw [hcounter, hmessages]
    exact h.next

/-- A message is added to the account of its destination. -/
theorem Store.Accounted.queue (h : s.Accounted env d)
    (hinsert : s.messages.insert? (.ofSnapshot m) = some messages)
    (hsequence : m.mailboxSequence = (s.counterOf m.destination).nextSequence)
    (hqueued : m.state = .queued) :
    Store.Accounted env { s with
      messages
      counters := s.counters.upsert
        ((s.counterOf m.destination).advance (env.envelopeSize m.envelope)) } d := by
  have hcounter := s.counterOf_upsert
    ((s.counterOf m.destination).advance (env.envelopeSize m.envelope)) messages d
  have hdestination : ((s.counterOf m.destination).advance
      (env.envelopeSize m.envelope)).destination = m.destination :=
    s.counterOf_destination m.destination
  rw [hdestination] at hcounter
  have hweight := fun f => Store.weight_insert (s.counters.upsert
    ((s.counterOf m.destination).advance (env.envelopeSize m.envelope))) hinsert hqueued f d
  by_cases hd : m.destination = d
  · subst hd
    rw [if_pos rfl] at hcounter
    refine ⟨?_, ?_, ?_, fun r hr hr' => ?_, fun r hr r' hr' hrd hrd' hsame => ?_⟩
    · rw [hcounter, hweight, if_pos rfl, ← h.messages]
      exact Nat.add_comm _ _
    · rw [hcounter, hweight, if_pos rfl, ← h.bytes]
      exact Nat.add_comm _ _
    · rw [hcounter]
      exact Nat.succ_pos _
    · rw [hcounter]
      rcases (Table.mem_insert hinsert).mp hr with rfl | hr
      · exact hsequence.trans_lt (Nat.lt_succ_self _)
      · exact (h.next r hr hr').trans (Nat.lt_succ_self _)
    · -- the new sequence is above all that were there
      have hfresh : ∀ x ∈ s.messages, x.destination = m.destination →
          x.mailboxSequence ≠ (MessageRow.ofSnapshot m).mailboxSequence := fun x hx hxd heq =>
        absurd (h.next x hx hxd) (by rw [heq]; exact hsequence.ge.not_gt)
      rcases (Table.mem_insert hinsert).mp hr with rfl | hr <;>
        rcases (Table.mem_insert hinsert).mp hr' with rfl | hr'
      · rfl
      · exact absurd hsame.symm (hfresh r' hr' hrd')
      · exact absurd hsame (hfresh r hr hrd)
      · exact h.unique r hr r' hr' hrd hrd' hsame
  · rw [if_neg hd] at hcounter
    have hold : ∀ r ∈ messages, r.destination = d → r ∈ s.messages := by
      intro r hr hrd
      rcases (Table.mem_insert hinsert).mp hr with rfl | hr
      · exact absurd hrd hd
      · exact hr
    refine ⟨?_, ?_, ?_, fun r hr hrd => ?_, fun r hr r' hr' hrd hrd' hsame => ?_⟩
    · rw [hcounter, hweight, if_neg hd, Nat.zero_add, h.messages]
    · rw [hcounter, hweight, if_neg hd, Nat.zero_add, h.bytes]
    · rw [hcounter]
      exact h.first
    · rw [hcounter]
      exact h.next r (hold r hr hrd) hrd
    · exact h.unique r (hold r hr hrd) r' (hold r' hr' hrd') hrd hrd' hsame

/-- The sequences of a mailbox do not change with a delivery. -/
theorem Store.Accounted.replace {counters : Table MailboxCounter} (h : s.Accounted env d)
    (hr : s.messages.find? r.messageId = some r)
    (hmessages : (Store.counterOf { s with counters } d).queuedMessages =
      Store.weight { s with
        messages := s.messages.replace { r with snapshot := m' }, counters } (fun _ => 1) d)
    (hbytes : (Store.counterOf { s with counters } d).queuedBytes =
      Store.weight { s with
        messages := s.messages.replace { r with snapshot := m' }, counters } env.envelopeSize d)
    (hnext : (Store.counterOf { s with counters } d).nextSequence = (s.counterOf d).nextSequence) :
    Store.Accounted env
      { s with messages := s.messages.replace { r with snapshot := m' }, counters } d := by
  -- a row with the same columns, from before
  have hbefore : ∀ x ∈ s.messages.replace { r with snapshot := m' }, ∃ y ∈ s.messages,
      y.messageId = x.messageId ∧ y.destination = x.destination ∧
        y.mailboxSequence = x.mailboxSequence := by
    intro x hx
    rcases (mem_messages_replace hr).mp hx with rfl | ⟨hx, -⟩
    · exact ⟨r, Table.mem_of_find? hr, rfl, rfl, rfl⟩
    · exact ⟨x, hx, rfl, rfl, rfl⟩
  refine ⟨hmessages, hbytes, hnext ▸ h.first, fun x hx hxd => ?_, fun x hx y hy hxd hyd hsame => ?_⟩
  · obtain ⟨x', hx', -, hxd', hxs'⟩ := hbefore x hx
    change x.mailboxSequence < (Store.counterOf { s with counters } d).nextSequence
    rw [hnext, ← hxs']
    exact h.next x' hx' (hxd'.trans hxd)
  · obtain ⟨x', hx', hxi, hxd', hxs'⟩ := hbefore x hx
    obtain ⟨y', hy', hyi, hyd', hys'⟩ := hbefore y hy
    have heq := h.unique x' hx' y' hy' (hxd'.trans hxd) (hyd'.trans hyd)
      (hxs'.trans (hsame.trans hys'.symm))
    exact Table.key_injOn hx hy (hxi.symm.trans ((congrArg MessageRow.messageId heq).trans hyi))

theorem MessageDeed.accounted {l : Label} (h : MessageDeed env l s s') (hs : s.Accounted env d) :
    s'.Accounted env d := by
  cases h with
  | queued inserted sequence fits new session floor time =>
    exact hs.queue inserted sequence (by rw [new]; rfl)
  | moved found readable touched moves clear floor time =>
    have hweight := fun f => Store.weight_replace s.counters found moves.live.1 touched f d
    simp only [moves.live.2, and_false, Bool.false_eq_true, if_false, Nat.add_zero] at hweight
    exact hs.replace found (hs.messages.trans (hweight _).symm)
      (hs.bytes.trans (hweight _).symm) rfl
  | finished found readable live touched finishes counted floor later time =>
    rename_i r m' counter now
    have hweight := fun f => Store.weight_replace (s.counters.replace
      (counter.recede (env.envelopeSize r.snapshot.envelope))) found live touched f d
    have hkey : counter.destination = r.destination := Table.key_of_find? counted
    have hwritten : s.counters.find? (counter.recede
        (env.envelopeSize r.snapshot.envelope)).destination = some counter := hkey ▸ counted
    have hcounter := Store.counterOf_replace s.messages hwritten d
    have hdestination : (counter.recede (env.envelopeSize r.snapshot.envelope)).destination =
        r.destination := hkey
    rw [hdestination] at hcounter
    simp only [finishes.ended, and_true] at hweight
    by_cases hd : r.destination = d
    · subst hd
      have hold : s.counterOf r.destination = counter := by rw [Store.counterOf, counted]; rfl
      rw [if_pos rfl] at hcounter
      simp only [if_true] at hweight
      refine hs.replace found ?_ ?_ ?_
      · have := hs.messages
        rw [hold, ← hweight] at this
        rw [hcounter, MailboxCounter.recede, this]
        exact Nat.add_sub_cancel _ _
      · have := hs.bytes
        rw [hold, ← hweight] at this
        rw [hcounter, MailboxCounter.recede, this]
        exact Nat.add_sub_cancel _ _
      · rw [hcounter, hold]
        rfl
    · rw [if_neg hd] at hcounter
      simp only [hd, if_false, Nat.add_zero] at hweight
      refine hs.replace found ?_ ?_ ?_
      · rw [hcounter, hs.messages, hweight]
      · rw [hcounter, hs.bytes, hweight]
      · rw [hcounter]

/-- **No deed unbalances an account.** -/
theorem Deed.accounted {l : Label} (h : Deed env l s s') (hs : s.Accounted env d) :
    s'.Accounted env d := by
  rcases h.frame.messages with h | ⟨hmessages, hcounters⟩
  · exact h.accounted hs
  · exact hs.of_eq hmessages hcounters

theorem Reachable.accounted (h : Reachable env s) (d : ParticipantId) : s.Accounted env d := by
  refine h.rec' ?_ fun _ _ hreach hs hstep =>
    hstep.keeps (fun _ _ _ hd _ hI => hd.accounted hI) hreach.sound hs
  exact ⟨rfl, rfl, Nat.one_pos, fun _ hr => (Table.not_mem_empty hr).elim,
    fun _ hr => (Table.not_mem_empty hr).elim⟩

/-! ### Taking messages off -/

/-- A message that is finished can be taken off the account of its destination. -/
theorem Store.Accounted.decrement (h : s.Accounted env r.destination) (hr : r ∈ s.messages)
    (hlive : r.snapshot.state.isTerminal = false) (hdestination : m'.destination = r.destination)
    (henvelope : m'.envelope = r.snapshot.envelope) (hcounters : s'.counters = s.counters) :
    ∃ s₂, decrementMailboxBytes env m' s' = .done () s₂ := by
  have hle := fun f : ValidatedMessageEnvelope → ℕ => Table.le_total hr
    fun r' => if r'.isQueuedFor r.destination then f r'.snapshot.envelope else 0
  simp only [MessageRow.isQueuedFor, hlive, decide_true, Bool.not_false, Bool.and_self,
    if_true] at hle
  have hmessages : 0 < (s.counterOf r.destination).queuedMessages := by
    rw [h.messages]
    exact hle fun _ => 1
  have hbytes : env.envelopeSize r.snapshot.envelope ≤
      (s.counterOf r.destination).queuedBytes := by
    rw [h.bytes]
    exact hle env.envelopeSize
  unfold Store.counterOf at hmessages hbytes
  rcases hcounter : s.counters.find? r.destination with _ | counter
  · rw [hcounter] at hmessages
    exact absurd hmessages (Nat.lt_irrefl 0)
  rw [hcounter] at hmessages hbytes
  refine ⟨_, decrementMailboxBytes_done.mpr ⟨counter, ?_, ?_, hmessages, rfl⟩⟩
  · rw [hcounters, hdestination]
    exact hcounter
  · rw [henvelope]
    exact hbytes

/-- A message that a call has finished can be taken off. -/
theorem Handled.decrement {sessionId : SessionId} {row : MessageRow} {k : Option Move}
    (h : Handled s sessionId now row m' k) (hs : s.Accounted env row.destination)
    (hover : m'.state.isTerminal = true) (hcounters : s'.counters = s.counters) :
    ∃ s₂, decrementMailboxBytes env m' s' = .done () s₂ := by
  have hlive : row.snapshot.state.isTerminal = false := by
    cases h.delivered with
    | on moves =>
      rw [moves.live.2] at hover
      cases hover
    | ended hlive => exact hlive
  exact hs.decrement (Table.mem_of_find? h.found) hlive
    (h.touched.destination.trans h.readable.destination.symm) h.touched.envelope hcounters

/-- So can each message that `retireCorrelatedMessages` comes to. -/
theorem retire_decrement {requestId : RequestId} {o : OperationSnapshot}
    {earlier rest : List MessageRow} {s₁ : Store} (hs : ∀ d, s.Accounted env d)
    (hfloor : ∃ now, s.floorOf o.sessionId = some now ∧ t ≤ now)
    (hlive : s.liveMessages o = earlier ++ r :: rest)
    (h : each (retireMessage env requestId o t) earlier s = .done u s₁)
    (hdestination : m'.destination = r.destination)
    (henvelope : m'.envelope = r.snapshot.envelope) (hcounters : s'.counters = s₁.counters) :
    ∃ s₂, decrementMailboxBytes env m' s' = .done () s₂ := by
  have hrounds : Retiring env (fun _ _ => True) o s ([] ++ r :: rest) s₁ :=
    each_induction (motive := fun l t => Retiring env (fun _ _ => True) o s (l ++ r :: rest) t)
      (fun r rest s₁ s₂ hs hround => hs.step tolerant_true (fun _ _ _ _ _ => trivial) hfloor hround)
      (hlive ▸ .start o) h
  obtain ⟨hfound, -, hr⟩ := hrounds.found r List.mem_cons_self
  have haccounted : s₁.Accounted env r.destination := hrounds.path.keeps
    (I := fun s => s.Accounted env r.destination) (fun _ _ _ _ hd hI => hd.accounted hI) (hs _)
  exact haccounted.decrement (Table.mem_of_find? hfound) (MessageRow.isLiveFor_iff.mp hr).2.2.2
    hdestination henvelope hcounters

/-- A message after `updateMessageSnapshot` has the counters of before. -/
theorem updateMessageSnapshot_counters (h : updateMessageSnapshot m s = .done u s') :
    s'.counters = s.counters := by
  obtain ⟨_, _, rfl⟩ := updateMessageSnapshot_done h
  rfl

theorem resumeWaiting_counters {c : TransitionMessageDelivery}
    (h : resumeWaiting env c m now t s = .done u s') : s'.counters = s.counters := by
  obtain rfl | ⟨_, _, _, _, _, _, _, _, _, rfl⟩ := resumeWaiting_done h <;> rfl

/-- **Accounts balance.**  In every state of every run the counter of a destination holds the
number of its unfinished messages and the length of their envelopes, and its next sequence is
above every sequence a message for it ever got, so that no two messages got the same; and
wherever a call takes a message off its counter, while leasing it, while delivering it or in
any round of retiring the messages of an operation, that succeeds. -/
theorem mailbox_accounts_balance (hs : Reachable env s) :
    (∀ d, (s.counterOf d).queuedMessages = (s.messages.rows.filter (·.isQueuedFor d)).length ∧
      (s.counterOf d).queuedBytes = ((s.messages.rows.filter (·.isQueuedFor d)).map
        fun r => env.envelopeSize r.snapshot.envelope).sum) ∧
    (∀ s', Run env s s' → ∀ r ∈ s.messages,
      r.mailboxSequence < (s'.counterOf r.destination).nextSequence ∧
      ∀ r' ∈ s'.messages, r'.destination = r.destination →
        r'.mailboxSequence = r.mailboxSequence → r'.messageId = r.messageId) ∧
    (∀ t c m' s₁ s₂, selectLease env t c s = .done (some m') s₁ →
      updateMessageSnapshot m' s₁ = .done () s₂ → m'.state.isTerminal = true →
      ∃ s₃, decrementMailboxBytes env m' s₂ = .done () s₃) ∧
    (∀ t c m' s₁ s₂ s₃ s₄, decideDelivery env t c s = .done m' s₁ →
      updateMessageSnapshot m' s₁ = .done () s₂ →
      appendMessageEvent env c.context.requestId m' t s₂ = .done () s₃ →
      resumeWaiting env c m' m'.updatedAt t s₃ = .done () s₄ → m'.state.isTerminal = true →
      ∃ s₅, decrementMailboxBytes env m' s₄ = .done () s₅) ∧
    (∀ t c o s₁ s₂ earlier r rest s₃, decideTransition env t c s = .done o s₁ →
      updateOperation o c.expectedRevision s₁ = .done () s₂ →
      s₂.liveMessages o = earlier ++ r :: rest →
      each (retireMessage env c.context.requestId o t) earlier s₂ = .done () s₃ →
      ∀ m' s₄, m'.destination = r.destination → m'.envelope = r.snapshot.envelope →
        updateMessageSnapshot m' s₃ = .done () s₄ →
        ∃ s₅, decrementMailboxBytes env m' s₄ = .done () s₅) := by
  have hsound := hs.sound
  refine ⟨fun d => ⟨?_, ?_⟩, fun s' hrun r hr => ?_, fun t c m' s₁ s₂ hselect hupdate hover => ?_,
    fun t c m' s₁ s₂ s₃ s₄ hdecide hupdate hevent hresume hover => ?_,
    fun t c o s₁ s₂ earlier r rest s₃ hdecide hupdate hlive hrounds m' s₄ hdestination henvelope
      hwrite => ?_⟩
  · rw [(hs.accounted d).messages, Store.weight, Table.total_ite]
    simp
  · rw [(hs.accounted d).bytes, Store.weight, Table.total_ite]
  · have hs' : Reachable env s' := hs.trans hrun
    obtain ⟨r₁, hr₁, hprecedes⟩ := (Run.follows hsound hrun).messages _ r (Table.find?_of_mem hr)
    have hmem := Table.mem_of_find? hr₁
    have hdestination : r₁.destination = r.destination := by rw [hprecedes.columns]
    have hsequence : r₁.mailboxSequence = r.mailboxSequence := by rw [hprecedes.columns]
    have haccounted := hs'.accounted r.destination
    refine ⟨hsequence ▸ haccounted.next r₁ hmem hdestination, fun r' hr' hrd hsame => ?_⟩
    rw [haccounted.unique r' hr' r₁ hmem hrd hdestination (hsame.trans hsequence.symm)]
    exact Table.key_of_find? hr₁
  · obtain ⟨r, -, rfl, hselected⟩ := selectLease_done hselect
    obtain ⟨row, k, hm, -⟩ := hselected m' rfl
    exact hm.decrement (hs.accounted _) hover (updateMessageSnapshot_counters hupdate :)
  · obtain ⟨r, row, k, -, rfl, -, hm, -⟩ := decideDelivery_done hdecide
    exact hm.decrement (hs.accounted _) hover ((resumeWaiting_counters hresume).trans
      ((appendMessageEvent_within.1 _ _ _ hevent).counters.trans
        (updateMessageSnapshot_counters hupdate :)))
  · obtain ⟨r', row, hr', rfl, hrow, ho⟩ := decideTransition_done hdecide
    obtain ⟨row', -, -, rfl⟩ := updateOperation_done hupdate
    have haccounted : ∀ d, Store.Accounted env { s.withFloor c.sessionId (max r'.timeFloor t) with
        operations := s.operations.replace { row' with snapshot := o } } d :=
      fun d => (hs.accounted d).of_eq rfl rfl
    refine retire_decrement haccounted ?_ hlive hrounds hdestination henvelope
      (updateMessageSnapshot_counters hwrite)
    rw [ho.advances.sessionId, ho.session]
    exact ⟨_, hr'.floorOf, le_max_right _ _⟩

/-! ### A participant at work -/

namespace Sample

def template : TemplateRecord := ⟨id 0, id 0, ⟨[], []⟩, [], 5⟩
def root : ParticipantId := id 0
def operation : OperationId := id 0
def input : MessageId := id 0
def launch : LaunchAttemptId := id 0
def driver : InstanceId := id 0

def createRoot : CreateRootParticipant := ⟨request 2, session, epoch, root, id 0, 5⟩

def startOperation : StartOperation := ⟨request 3, session, epoch, operation, root, input, [1]⟩

theorem three_pos : 0 < 3 := by decide

/-- The owner has made a participant, started an operation of it, and launched its driver. -/
def working : Store :=
  calls world [(seconds 0, .registerTemplate template),
    (seconds 0, .createRootParticipant createRoot),
    (seconds 0, .startOperation startOperation),
    (seconds 0, .prepareLaunch ⟨request 4, epoch, session, root, id 0, 0, launch, 0⟩),
    (seconds 0, .attachLaunch
      ⟨request 5, session, epoch, launch, .initial, driver, ⟨1, 1, 1, 1, 1⟩⟩),
    (seconds 0, .transitionLaunch
      ⟨request 6, session, epoch, launch, ⟨2, by decide⟩, .ready, none⟩)] owned

theorem working_reachable : Reachable world working :=
  (reachable_calls _).trans (run_calls _ _)

end Sample

open Sample

/-- The input of an operation is on the account of the participant whose operation it is. -/
theorem mailbox_accounts_balance_working :
    (working.messages.rows.filter (·.isQueuedFor root)).length = 1 ∧
    (working.counterOf root).queuedMessages = 1 ∧
    ∀ r ∈ working.messages,
      r.mailboxSequence < (working.counterOf r.destination).nextSequence := by
  have hone : (working.messages.rows.filter (·.isQueuedFor root)).length = 1 := by
    decide +kernel
  obtain ⟨hcounts, hsequences, -⟩ := mailbox_accounts_balance working_reachable
  exact ⟨hone, (hcounts root).1.trans hone, fun r hr => (hsequences _ .refl r hr).1⟩

end Navigator
