/-
The discipline of mailboxes.

Of the messages for one destination at most one is in the hands of a driver, and the next
one is the first that is not finished.

* **`mailbox_delivery_is_disciplined`** — in every run, and across every call.
-/
import Navigator.Accounting

namespace Navigator

variable {env : Env} {s s' : Store}
variable {r : MessageRow} {m' m : MessageSnapshot} {now : Timestamp}
variable {k : Move} {l : Label}

/-! ### One delivery at a time -/

/-- The message is in the hands of a driver: it was asked to accept it, or may still be
under a lease that has not run out. -/
def Store.isBusy (s : Store) (r : MessageRow) : Bool :=
  match r.snapshot.state with
  | .acceptancePending _ | .acceptanceUnknown _ => true
  | .leased lease => (s.floorOf r.sessionId).all (· < lease.expiresAt)
  | _ => false

/-- No two messages for one destination are being delivered. -/
def Store.Solitary (s : Store) : Prop :=
  ∀ r ∈ s.messages, ∀ r' ∈ s.messages, r.destination = r'.destination →
    s.isBusy r = true → s.isBusy r' = true → r = r'

/-- Time only ends deliveries. -/
theorem Store.isBusy_mono (h : Follows s s') (hr : r.Sound s) (hbusy : s'.isBusy r = true) :
    s.isBusy r = true := by
  unfold Store.isBusy at hbusy ⊢
  split at hbusy <;> try rfl
  · obtain ⟨now, hnow, -⟩ := hr.floor
    obtain ⟨now', hnow', hle⟩ := h.floor hnow
    rw [hnow'] at hbusy
    rw [hnow]
    simp only [Option.all_some, decide_eq_true_eq] at hbusy ⊢
    exact hle.trans_lt hbusy
  · cases hbusy

/-- A change of other tables. -/
theorem Store.Solitary.mono (h : Follows s s') (hs : Sound s) (hsolitary : s.Solitary)
    (hmessages : s'.messages = s.messages) : s'.Solitary := by
  intro r hr r' hr' hdestination hbusy hbusy'
  rw [hmessages] at hr hr'
  exact hsolitary r hr r' hr' hdestination (isBusy_mono h (hs.messages r hr) hbusy)
    (isBusy_mono h (hs.messages r' hr') hbusy')

/-- A row after its message has changed. -/
theorem Store.Solitary.replace {counters : Table MailboxCounter} (hsolitary : s.Solitary)
    (hr : s.messages.find? r.messageId = some r)
    (hbusy : s.isBusy { r with snapshot := m' } = true → s.isBusy r = true ∨
      ∀ x ∈ s.messages, x.destination = r.destination → s.isBusy x = false) :
    Store.Solitary
      { s with messages := s.messages.replace { r with snapshot := m' }, counters } := by
  -- the changed row against one that has not changed
  have hother : ∀ x ∈ s.messages, x.messageId ≠ r.messageId → x.destination = r.destination →
      s.isBusy { r with snapshot := m' } = true → s.isBusy x = true → False := by
    intro x hx hne hdestination hnew hold
    rcases hbusy hnew with hwas | hnone
    · exact hne (congrArg MessageRow.messageId
        (hsolitary x hx r (Table.mem_of_find? hr) hdestination hold hwas))
    · rw [hnone x hx hdestination] at hold
      cases hold
  intro x hx y hy hdestination hxbusy hybusy
  rcases (mem_messages_replace hr).mp hx with rfl | ⟨hx, hxne⟩ <;>
    rcases (mem_messages_replace hr).mp hy with rfl | ⟨hy, hyne⟩
  · rfl
  · exact (hother y hy hyne hdestination.symm hxbusy hybusy).elim
  · exact (hother x hx hxne hdestination hybusy hxbusy).elim
  · exact hsolitary x hx y hy hdestination hxbusy hybusy

/-- A delivery that is not a new attempt had begun before. -/
theorem Moves.busy (h : Moves now k r.snapshot m') (hk : k ≠ .attempt)
    (hnow : s.floorOf r.sessionId = some now) (hbusy : s.isBusy { r with snapshot := m' } = true) :
    s.isBusy r = true := by
  cases h with
  | attempt => exact absurd rfl hk
  | relet lease lease' stalled =>
    cases hstate : r.snapshot.state <;> rw [hstate] at stalled <;> cases stalled <;>
      simp [Store.isBusy, hstate]
  | ask lease leased inForce => simp [Store.isBusy, leased, hnow, inForce]
  | doubt lease pending => simp [Store.isBusy, pending]
  | retry lease notBefore asked state => simp [Store.isBusy, state] at hbusy

/-- What is for one participant belongs to one session. -/
theorem Sound.sameSession {r' : MessageRow} (hs : Sound s) (hr : r ∈ s.messages)
    (hr' : r' ∈ s.messages) (h : r'.destination = r.destination) :
    r'.sessionId = r.sessionId := by
  have hsession := (hs.messages r' hr').session
  rw [h, (hs.messages r hr).session] at hsession
  exact (Option.some.inj hsession).symm

theorem Store.Clear.idle (hs : Sound s) (h : s.Clear r now) (hr : r ∈ s.messages)
    (hnow : s.floorOf r.sessionId = some now) :
    ∀ x ∈ s.messages, x.destination = r.destination → s.isBusy x = false := by
  intro x hx hdestination
  have hsession := hs.sameSession hr hx hdestination
  by_contra hbusy
  have hlive : x.snapshot.state.isTerminal = false := by
    cases hstate : x.snapshot.state <;> simp_all [Store.isBusy, MessageDeliveryState.isTerminal]
  obtain ⟨-, hactive, hidle⟩ := h x hx hsession hdestination hlive
  rw [← hsession] at hnow
  cases hstate : x.snapshot.state <;>
    simp_all [Store.isBusy, MessageSnapshot.activeLease, MessageDeliveryState.lease?,
      MessageDeliveryState.acceptanceLease?]

theorem MessageDeed.solitary (h : MessageDeed env l s s') (hs : Sound s) (hsolitary : s.Solitary) :
    s'.Solitary := by
  cases h with
  | queued inserted sequence fits new session floor time =>
    rename_i m messages now
    have hnew : ∀ counters, Store.isBusy { s with messages, counters } (.ofSnapshot m) = false := by
      intro counters
      rw [new]
      rfl
    intro x hx y hy hdestination hxbusy hybusy
    rcases (Table.mem_insert inserted).mp hx with rfl | hx
    · rw [hnew] at hxbusy
      cases hxbusy
    rcases (Table.mem_insert inserted).mp hy with rfl | hy
    · rw [hnew] at hybusy
      cases hybusy
    exact hsolitary x hx y hy hdestination hxbusy hybusy
  | moved found readable touched moves clear floor time =>
    rename_i r k m' now
    refine hsolitary.replace found fun hbusy => ?_
    by_cases hk : k = .attempt
    · exact .inr ((clear hk).idle hs (Table.mem_of_find? found) floor)
    · exact .inl (moves.busy hk floor hbusy)
  | finished found readable live touched finishes counted floor later time =>
    rename_i r m' counter now
    refine hsolitary.replace found fun hbusy => ?_
    have hover := finishes.ended
    cases hstate : m'.state <;>
      simp_all [Store.isBusy, MessageDeliveryState.isTerminal]

/-- **No deed begins a second delivery.** -/
theorem Deed.solitary (h : Deed env l s s') (hs : Sound s) (hsolitary : s.Solitary) :
    s'.Solitary := by
  rcases h.frame.messages with hmessage | ⟨hmessages, -⟩
  · exact hmessage.solitary hs hsolitary
  · exact hsolitary.mono h.follows hs hmessages

/-! ### Attempts -/

/-- No message has been attempted too often. -/
def Store.Bounded (s : Store) : Prop :=
  ∀ r ∈ s.messages, r.snapshot.attemptCount ≤ maxDeliveryAttempts

theorem Moves.attempts (h : Moves now k m m') : m'.attemptCount =
      if k = .attempt then m.attemptCount + 1 else m.attemptCount := by
  cases h with
  | attempt _ _ _ _ _ counted | relet _ _ _ _ _ _ counted | ask _ _ _ _ counted
  | doubt _ _ _ counted | retry _ _ _ _ _ counted => exact counted

theorem Deed.bounded (h : Deed env l s s') (hbounded : s.Bounded) : s'.Bounded := by
  rcases h.frame.messages with h | ⟨hmessages, -⟩
  · intro x hx
    cases h with
    | queued inserted sequence fits new session floor time =>
      rcases (Table.mem_insert inserted).mp hx with rfl | hx
      · rw [new]
        exact Nat.zero_le _
      · exact hbounded x hx
    | moved found readable touched moves clear floor time =>
      rcases (Store.mem_messages_replace found).mp hx with rfl | ⟨hx, -⟩
      · have hold := hbounded _ (Table.mem_of_find? found)
        cases moves with
        | attempt lease due few state inForce counted => exact counted.trans_le few
        | relet _ _ _ _ _ _ counted | ask _ _ _ _ counted | doubt _ _ _ counted
        | retry _ _ _ _ _ counted => exact counted.trans_le hold
      · exact hbounded x hx
    | finished found readable live touched finishes counted floor later time =>
      rcases (Store.mem_messages_replace found).mp hx with rfl | ⟨hx, -⟩
      · exact finishes.counted.trans_le (hbounded _ (Table.mem_of_find? found))
      · exact hbounded x hx
  · unfold Store.Bounded
    rwa [hmessages]

theorem Reachable.solitary (h : Reachable env s) : s.Solitary :=
  h.rec' (fun _ hr => (Table.not_mem_empty hr).elim) fun _ _ hreach hsolitary hstep =>
    hstep.keeps (fun _ _ _ hd hs hI => hd.solitary hs hI) hreach.sound hsolitary

theorem Reachable.bounded (h : Reachable env s) : s.Bounded :=
  h.rec' (fun _ hr => (Table.not_mem_empty hr).elim) fun _ _ hreach hbounded hstep =>
    hstep.keeps (fun _ _ _ hd _ hI => hd.bounded hI) hreach.sound hbounded

/-- The message is put under a new lease. -/
def NewAttempt (m m' : MessageSnapshot) : Prop :=
  ∃ lease, m'.state = .leased lease ∧ m.state ≠ .leased lease

/-- Only an attempt puts a message under a new lease. -/
theorem Moves.newAttempt_iff (h : Moves now k m m') : NewAttempt m m' ↔ k = .attempt := by
  constructor
  · rintro ⟨lease, hstate, hnew⟩
    cases h with
    | attempt => rfl
    | relet _ _ _ _ state => simp [hstate, MessageDeliveryState.acceptanceLease?] at state
    | ask _ _ _ state | doubt _ _ state | retry _ _ _ state =>
      rw [hstate] at state
      cases state
  · rintro rfl
    cases h with
    | attempt lease due few state inForce counted =>
      refine ⟨lease, state, fun hsame => ?_⟩
      simp only [MessageSnapshot.isDue, hsame, decide_eq_true_eq] at due
      exact absurd inForce due.not_gt

theorem Finishes.not_newAttempt (h : Finishes m m') :
    ¬ NewAttempt m m' := by
  rintro ⟨lease, hstate, -⟩
  have hover := h.ended
  rw [hstate] at hover
  cases hover

/-- It is a message's turn: of the messages for its destination, those of its priority that
came before it are finished, and so are those that come before all of its priority. -/
structure Store.ItsTurn (s : Store) (r : MessageRow) : Prop where
  earlier : ∀ x ∈ s.messages, x.destination = r.destination → x.priority = r.priority →
    x.mailboxSequence < r.mailboxSequence → x.snapshot.state.isTerminal = true
  control : r.priority = .ordinary → ∀ x ∈ s.messages, x.destination = r.destination →
    x.priority = .control → x.snapshot.state.isTerminal = true

theorem Store.Clear.itsTurn (hs : Sound s) (h : s.Clear r now) (hr : r ∈ s.messages) :
    s.ItsTurn r := by
  have hfirst : ∀ x ∈ s.messages, x.destination = r.destination →
      ¬ r.before x → x.snapshot.state.isTerminal = true := by
    intro x hx hdestination hbefore
    by_contra hlive
    exact hbefore (h x hx (hs.sameSession hr hx hdestination) hdestination (by simpa using hlive)).1
  constructor
  · intro x hx hdestination hpriority hsequence
    refine hfirst x hx hdestination ?_
    simp only [MessageRow.before, hpriority]
    omega
  · intro hordinary x hx hdestination hcontrol
    refine hfirst x hx hdestination ?_
    simp [MessageRow.before, hordinary, hcontrol, MessagePriority.rank]

/-- How many messages for a destination are in the hands of a driver. -/
def Store.busyCount (s : Store) (destination : ParticipantId) : ℕ :=
  s.messages.rows.countP fun r => decide (r.destination = destination) && s.isBusy r

/-- **Mailboxes are disciplined.**  In every state of every run at most one message for a
destination is in the hands of a driver and none was attempted more than thirty-two times;
a step makes a new attempt only at a message whose turn it is, counts it once, counts
nothing else, and leaves alone what is finished; and what is finished stays so. -/
theorem mailbox_delivery_is_disciplined (hs : Reachable env s) :
    (∀ destination, s.busyCount destination ≤ 1) ∧
    (∀ r ∈ s.messages, r.snapshot.attemptCount ≤ 32) ∧
    (∀ s', Step env s s' → ∀ r ∈ s.messages, ∃ r', s'.messages.find? r.messageId = some r' ∧
      (NewAttempt r.snapshot r'.snapshot →
        s.ItsTurn r ∧ r'.snapshot.attemptCount = r.snapshot.attemptCount + 1) ∧
      (¬ NewAttempt r.snapshot r'.snapshot → r'.snapshot.attemptCount = r.snapshot.attemptCount)) ∧
    (∀ s', Step env s s' → ∀ r' ∈ s'.messages, s.messages.find? r'.messageId = none →
      r'.snapshot.attemptCount = 0 ∧ r'.snapshot.state = .queued) ∧
    (∀ s', Run env s s' → ∀ r ∈ s.messages, r.snapshot.state.isTerminal = true →
      r ∈ s'.messages) := by
  have hsound := hs.sound
  refine ⟨fun destination => ?_, hs.bounded, fun s' hstep r hr => ?_, fun s' hstep r' hr' hnew =>
    ?_, fun s' hrun r hr hover => ?_⟩
  · refine Table.countP_le_one fun r hr r' hr' hbusy hbusy' => ?_
    simp only [Bool.and_eq_true, decide_eq_true_eq] at hbusy hbusy'
    exact hs.solitary r hr r' hr' (hbusy.1.trans hbusy'.1.symm) hbusy.2 hbusy'.2
  · obtain ⟨r', hr', rfl | hchanges⟩ := (hstep.messages hsound).old r hr
    · refine ⟨r', hr', fun ⟨lease, hstate, hnew⟩ => absurd hstate hnew, fun _ => rfl⟩
    refine ⟨r', hr', ?_⟩
    obtain ⟨k, now, hmoves, hclear⟩ | hfinishes := hchanges.delivery
    · rw [hmoves.newAttempt_iff, hmoves.attempts]
      exact ⟨fun hk => ⟨(hclear hk).itsTurn hsound hr, if_pos hk⟩, fun hk => if_neg hk⟩
    · exact ⟨fun hnew => absurd hnew hfinishes.not_newAttempt, fun _ => hfinishes.counted⟩
  · exact (hstep.messages hsound).new r' hr' hnew
  · obtain ⟨r', hr', hprecedes⟩ := (Run.follows hsound hrun).messages _ r (Table.find?_of_mem hr)
    rw [← hprecedes.ended hover]
    exact Table.mem_of_find? hr'

namespace Sample

def lease : LeaseNextMessage :=
  ⟨request 7, session, epoch, root, driver, launch, id 0, ⟨5000000000⟩⟩

/-- The driver has the input of the operation for five seconds. -/
def leased : Store := calls world [(seconds 0, .leaseNextMessage lease)] working

theorem leased_reachable : Reachable world leased :=
  working_reachable.trans (run_calls _ _)

end Sample

open Sample

/-- The input is in the hands of the driver, after one attempt. -/
theorem mailbox_delivery_is_disciplined_leased :
    leased.busyCount root = 1 ∧
    (∀ destination, leased.busyCount destination ≤ 1) ∧
    ∀ r ∈ leased.messages, r.snapshot.attemptCount ≤ 32 := by
  obtain ⟨hone, hfew, -⟩ := mailbox_delivery_is_disciplined leased_reachable
  exact ⟨by decide +kernel, hone, hfew⟩

end Navigator
