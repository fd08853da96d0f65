/-
Messages that can be read back.

A message is checked every time it is read, and one that fails the check takes the whole
mailbox with it.  Every deed leaves messages that pass, with one exception: the report that
a driver's answer is unknown may come after the lease under which the driver was asked has
run out, and is then written with a time past the lease.

* **`stored_messages_read_back`** — without such reports all messages can be read in every
  run, and one such report is enough to lose one;
* **`stored_message_lost`** — a run that loses one.
-/
import Navigator.Delivery

namespace Navigator

open Txn Tx

variable {env : Env} {s s' : Store}
variable {m m' : MessageSnapshot} {r : MessageRow}
variable {now t : Timestamp}

/-- Every message can be read back. -/
def Store.Legible (s : Store) : Prop :=
  ∀ r ∈ s.messages, r.Readable

/-! ### Validity, deed by deed -/

/-- A driver that was asked to accept a message was attempted to reach. -/
theorem MessageSnapshot.attempted (hvalid : m.stateValid = true)
    (h : m.state.acceptanceLease?.isSome = true) : 0 < m.attemptCount := by
  cases hstate : m.state <;>
    simp_all [MessageSnapshot.stateValid, MessageDeliveryState.acceptanceLease?]

theorem Moves.stateValid {k : Move} (h : Moves now k m m') (hvalid : m.stateValid = true)
    (htime : m'.updatedAt = now)
    (hdoubt : k = .doubt → ∀ lease, m.state = .acceptancePending lease → now < lease.expiresAt) :
    m'.stateValid = true := by
  cases h with
  | attempt lease due few state inForce counted =>
    simp [MessageSnapshot.stateValid, state, counted, htime, inForce]
  | relet lease lease' stalled ended state inForce counted =>
    have hpos := MessageSnapshot.attempted hvalid (by rw [stalled]; rfl)
    cases hstate : m'.state <;> rw [hstate] at state <;> cases state <;>
      simp [MessageSnapshot.stateValid, hstate, counted, htime, inForce, hpos]
  | ask lease leased inForce state counted =>
    have hpos : 0 < m.attemptCount := by
      simp only [MessageSnapshot.stateValid, leased, decide_eq_true_eq] at hvalid
      exact hvalid.1
    simp [MessageSnapshot.stateValid, state, counted, htime, inForce, hpos]
  | doubt lease pending state counted =>
    have hpos := MessageSnapshot.attempted hvalid (by rw [pending]; rfl)
    simp [MessageSnapshot.stateValid, state, counted, htime, hdoubt rfl lease pending, hpos]
  | retry lease notBefore asked state later counted =>
    have hpos := MessageSnapshot.attempted hvalid (by rw [asked]; rfl)
    simp [MessageSnapshot.stateValid, state, counted, htime, later, hpos]

theorem Finishes.stateValid (h : Finishes m m') (hvalid : m.stateValid = true) :
    m'.stateValid = true := by
  have hover := h.ended
  unfold MessageSnapshot.stateValid
  cases hstate : m'.state <;> rw [hstate] at hover <;> try cases hover
  · obtain ⟨htime, hasked⟩ := h.accepted _ _ _ hstate
    have hpos := MessageSnapshot.attempted hvalid hasked
    simp [h.counted, hpos, htime]
  · have hpos := MessageSnapshot.attempted hvalid (h.uncertain _ _ hstate)
    simp [h.counted, hpos]

/-- A row whose columns repeat its message is readable if the message is valid. -/
theorem MessageRow.Sound.readable (h : r.Sound s) (hfits : r.snapshot.mailboxSequence < i64Bound)
    (hvalid : r.snapshot.IsStructurallyValid) :
    r.Readable := by
  rw [h.columns]
  exact ⟨rfl, rfl, rfl, rfl, rfl, hfits, rfl, hvalid⟩

/-- A message that was touched is as valid as its new state. -/
theorem MessageRow.Readable.touched (h : r.Readable) (htouched : r.snapshot.Touched m')
    (hsound : ({ r with snapshot := m' } : MessageRow).Sound s)
    (hattempts : m'.attemptCount ≤ maxDeliveryAttempts) (hstate : m'.stateValid = true) :
    ({ r with snapshot := m' } : MessageRow).Readable := by
  have hsequence : m'.mailboxSequence = r.snapshot.mailboxSequence :=
    congrArg MessageIdentity.mailboxSequence htouched.same
  have hpriority : m'.priority = r.snapshot.priority :=
    congrArg MessageIdentity.priority htouched.same
  refine hsound.readable (hsequence.trans_lt h.sequenceFits)
    ⟨?_, hattempts, hsound.times, ?_, hstate⟩
  · exact fun hzero => h.valid.sequence (hsequence.symm.trans hzero)
  · exact (hpriority.trans h.valid.priority).trans (by rw [htouched.envelope])

/-- A deed keeps messages readable unless it is a doubt that comes too late. -/
theorem Deed.legible {l : Label} (h : Deed env l s s') (hs : Sound s)
    (haccounted : ∀ d, s.Accounted env d) (hbounded : s.Bounded) (hlegible : s.Legible)
    (hdoubt : ∀ m m', l = .moved .doubt m m' → ∀ lease, m.state = .acceptancePending lease →
      m'.updatedAt < lease.expiresAt) : s'.Legible := by
  have hs' := h.sound hs
  have hbounded' := h.bounded hbounded
  rcases h.frame.messages with h | ⟨hmessages, -⟩
  · intro x hx
    have hsound := hs'.messages x hx
    have hattempts := hbounded' x hx
    cases h with
    | queued inserted sequence fits new session floor time =>
      rename_i m messages now
      rcases (Table.mem_insert inserted).mp hx with rfl | hx
      · have hfirst := (haccounted m.destination).first
        refine hsound.readable ?_ ⟨?_, hattempts, hsound.times, ?_, ?_⟩
        · exact sequence.trans_lt (Nat.lt_of_succ_lt fits)
        · exact fun hzero => hfirst.ne' (sequence.symm.trans hzero)
        · exact (congrArg MessageSnapshot.priority new).trans rfl
        · exact (congrArg MessageSnapshot.stateValid new).trans rfl
      · exact hlegible x hx
    | moved found readable touched moves clear floor time =>
      rename_i r k m' now
      rcases (Store.mem_messages_replace found).mp hx with rfl | ⟨hx, -⟩
      · refine readable.touched touched hsound hattempts
          (moves.stateValid readable.valid.state time fun hk lease hpending => ?_)
        exact time ▸ hdoubt _ m' (by rw [hk]) lease hpending
      · exact hlegible x hx
    | finished found readable live touched finishes counted floor later time =>
      rcases (Store.mem_messages_replace found).mp hx with rfl | ⟨hx, -⟩
      · exact readable.touched touched hsound hattempts (finishes.stateValid readable.valid.state)
      · exact hlegible x hx
  · unfold Store.Legible
    rwa [hmessages]

/-! ### Runs -/

/-- If a call reports that the answer of a driver is unknown, then while the lease is in force
under which the driver was asked. -/
def InTime (t : Timestamp) : Command → Store → Prop
  | .transitionMessageDelivery c, s => c.transition = .acceptanceUnknown →
    ∀ r ∈ s.messages, r.messageId = c.messageId →
      ∀ lease, r.snapshot.state = .acceptancePending lease →
        ∀ floor, s.floorOf r.sessionId = some floor → max floor t < lease.expiresAt
  | _, _ => True

/-- A call that is in time has no late doubts. -/
theorem InTime.doubts {c : Command} {lease : DeliveryLease} (h : InTime t c s) (hs : Sound s)
    (hr : r ∈ s.messages) (hdoubts : c.doubts t s r.snapshot now)
    (hpending : r.snapshot.state = .acceptancePending lease) : now < lease.expiresAt := by
  have hcolumns := (hs.messages r hr).columns
  have hid : r.messageId = r.snapshot.messageId := by rw [hcolumns]; rfl
  have hsession : r.sessionId = r.snapshot.sessionId := by rw [hcolumns]; rfl
  cases c with
  | transitionMessageDelivery c =>
    obtain ⟨hdoubt, hmessage, hsame, floor, hfloor, rfl⟩ := hdoubts
    refine h hdoubt r hr (hid.trans hmessage.symm) lease hpending floor ?_
    rw [hsession, ← hsame]
    exact hfloor
  | _ => exact hdoubts.elim

theorem StepIf.legible (hreach : Reachable env s) (h : StepIf env InTime s s')
    (hlegible : s.Legible) : s'.Legible := by
  have hpath := h.path hreach.sound (P := fun _ l => ∀ m m', l = .moved .doubt m m' →
      ∀ lease, m.state = .acceptancePending lease → m'.updatedAt < lease.expiresAt)
    fun t c s1 l hok hpermits m m' hl lease hpending => by
      subst hl
      obtain ⟨⟨r, hr, rfl⟩, -, hdoubts, -⟩ := hpermits
      exact hok.doubts hreach.sound hr (hdoubts rfl) hpending
  -- validity needs the accounts and the attempts in the course of the call too
  exact (hpath.keeps
    (I := fun s => Sound s ∧ (∀ d, s.Accounted env d) ∧ s.Bounded ∧ s.Legible)
    (fun _ _ _ hl hd ⟨hs, haccounted, hbounded, hlegible⟩ =>
      ⟨hd.sound hs, fun d => hd.accounted (haccounted d), hd.bounded hbounded,
        hd.legible hs haccounted hbounded hlegible hl⟩)
    ⟨hreach.sound, hreach.accounted, hreach.bounded, hlegible⟩).2.2.2

theorem ReachableIf.legible (h : ReachableIf env InTime s) : s.Legible :=
  h.rec' (fun _ hr => (Table.not_mem_empty hr).elim) fun _ _ hreach hlegible hstep =>
    hstep.legible hreach hlegible

/-! ### A doubt that comes too late -/

/-- A doubt is written with the time at which it was reported. -/
theorem doubt_applied {c : TransitionMessageDelivery} {a : Answer}
    (h : Applies env t (.transitionMessageDelivery c) s a)
    (hdoubt : c.transition = .acceptanceUnknown) :
    ∃ r ∈ s.messages, r.messageId = c.messageId ∧ ∃ lease floor,
      r.snapshot.state = .acceptancePending lease ∧ s.floorOf r.sessionId = some floor ∧
      ∃ r' ∈ (exec env t (.transitionMessageDelivery c) s).2.messages,
        r'.snapshot.state = .acceptanceUnknown lease ∧ r'.snapshot.updatedAt = max floor t := by
  obtain ⟨v, s', heq, hbody, -⟩ := mutation_applied h
  obtain ⟨m', s1, hdecide, hbody⟩ := bind_done.mp hbody
  obtain ⟨r, row, k, hr, rfl, hrow, hm, hk, -⟩ := decideDelivery_done hdecide
  simp only [looks_done] at hbody
  obtain ⟨_, s2, hcommit, -, rfl⟩ := hbody
  obtain ⟨row', hrow', hmessages⟩ := commitDeliveryTransition_messages hcommit
  have hdelivered := hm.delivered
  rw [hk.mpr hdoubt] at hdelivered
  obtain ⟨lease, hpending, hstate⟩ : ∃ lease, row.snapshot.state = .acceptancePending lease ∧
      m'.state = .acceptanceUnknown lease := by
    cases hdelivered with
    | on hmoves =>
      cases hmoves with
      | doubt lease pending state => exact ⟨lease, pending, state⟩
  refine ⟨row, Table.mem_of_find? hrow, Table.key_of_find? hrow, lease, r.timeFloor, hpending,
    ?_, { row' with snapshot := m' }, ?_, hstate, hm.time⟩
  · rw [hm.session, Store.floorOf, hr.found]
    rfl
  change _ ∈ (ledgered env c _ (transitionMessageDelivery env t c) s).2.messages
  rw [transitionMessageDelivery, heq, hmessages]
  have hkey : row'.messageId = m'.messageId := Table.key_of_find? hrow'
  exact (Store.mem_messages_replace (hkey ▸ hrow')).mpr (.inl rfl)

/-- **Stored messages read back** in every run in which no doubt comes too late: every message
is valid and its columns repeat it, so that no mailbox is unreadable, whether to
`loadMailbox` or to `leaseNextMessage`.  And the condition is the right one: a report on a
delivery that takes effect leaves every message readable if and only if it is in time. -/
theorem stored_messages_read_back (hs : ReachableIf env InTime s) :
    (∀ r ∈ s.messages, r.Readable ∧ decodeMessageRow r = .ok r.snapshot) ∧
    (∀ destination, ∃ messages, loadMailbox s destination = .ok messages) ∧
    (∀ sessionId destination, ∃ messages,
      decodeMessageRows (s.mailbox sessionId destination) = .ok messages) ∧
    (∀ t c a, Applies env t (.transitionMessageDelivery c) s a →
      ((exec env t (.transitionMessageDelivery c) s).2.Legible ↔
        InTime t (.transitionMessageDelivery c) s)) := by
  have hlegible := hs.legible
  refine ⟨fun r hr => ⟨hlegible r hr, decodeMessageRow_of_readable (hlegible r hr)⟩,
    fun destination => ⟨_, decodeMessageRows_of_readable fun r hr => ?_⟩,
    fun sessionId destination => ⟨_, decodeMessageRows_of_readable fun r hr => ?_⟩,
    fun t c a happlies => ⟨fun hafter hdoubt r hr hid lease hpending floor hfloor => ?_,
      fun hintime => (StepIf.call t _ hintime).legible hs.reachable hlegible⟩⟩
  · rw [List.mem_insertionSort] at hr
    exact hlegible r (Table.mem_def.mpr (List.mem_of_mem_filter hr))
  · exact hlegible r (Store.mem_mailbox.mp hr).1
  obtain ⟨r₁, hr₁, hid₁, lease₁, floor₁, hpending₁, hfloor₁, r', hr', hstate, htime⟩ :=
    doubt_applied happlies hdoubt
  obtain rfl : r₁ = r := Table.key_injOn hr₁ hr (hid₁.trans hid.symm)
  rw [hpending₁] at hpending
  cases hpending
  rw [hfloor₁] at hfloor
  cases hfloor
  have hvalid := (hafter r' hr').valid.state
  simp only [MessageSnapshot.stateValid, hstate, htime, decide_eq_true_eq] at hvalid
  exact hvalid.2

namespace Sample

/-- A report on the delivery of the input. -/
def report (n : ℕ) (revision : Revision) (transition : DeliveryTransition) :
    TransitionMessageDelivery :=
  ⟨request n, session, epoch, input, id 0, revision, transition⟩

/-- The driver has been asked to accept the input. -/
def asked : Store :=
  calls world [(seconds 1, .transitionMessageDelivery
    (report 8 ⟨2, Nat.two_pos⟩ .acceptancePending))] leased

/-- Five seconds later the lease has run out, and the owner reports that the answer is
unknown. -/
def doubted : Store :=
  calls world [(seconds 6, .transitionMessageDelivery
    (report 9 ⟨3, three_pos⟩ .acceptanceUnknown))] asked

end Sample

open Sample

/-- Up to the report that comes too late everything can be read. -/
theorem stored_messages_read_back_asked :
    asked.messages.rows.length = 1 ∧
    (∀ r ∈ asked.messages, r.Readable ∧ decodeMessageRow r = .ok r.snapshot) ∧
    ∃ messages, loadMailbox asked root = .ok messages := by
  have hasked : ReachableIf world InTime asked := by
    iterate 4 refine ReachableIf.calls ?_ (by simp [InTime, report])
    exact .refl
  obtain ⟨hreadable, hmailbox, -⟩ := stored_messages_read_back hasked
  exact ⟨by decide +kernel, hreadable, hmailbox root⟩

/-- **A message is lost**: it was written by the store, but cannot be read back, and with it
the mailbox. -/
theorem stored_message_lost :
    Reachable world doubted ∧
    (∃ r ∈ doubted.messages, ¬ r.snapshot.IsStructurallyValid ∧
      decodeMessageRow r = .error .corrupt) ∧
    loadMailbox doubted root = .error .corrupt ∧
    (exec world (seconds 7)
      (.leaseNextMessage { lease with context := request 10 })
      doubted).1 = .error .corrupt := by
  refine ⟨leased_reachable.trans ((run_calls _ _).trans (run_calls _ _)), ?_, ?_, ?_⟩
  · simp only [Table.mem_def]
    decide +kernel
  · decide +kernel
  · decide +kernel

end Navigator
