/-
What is counted as used.

Usage is counted from the tables, by a query for each resource.  The query for messages
leaves out the accepted ones, but not those that were given up or whose end is uncertain; the
query for artifacts leaves out a state that no artifact is ever in.  So what is finished is
not always given back.

* **`usage_is_given_back`** — the usage is exact iff no message is given up or uncertain and no
  artifact erased; acceptance lowers it, and no other call ever does;
* **`usage_of_dead_letter`** — a message that is given up and still counted.
-/
import Navigator.Deeds.Stock
import Navigator.Legibility

namespace Navigator

open Txn Tx

variable {env : Env} {s s' : Store}
variable {now : Timestamp}

/-! ### Usage as sums -/

section Usage

variable {ρ κ : Type} [DecidableEq κ] [Keyed ρ κ]
variable {t : Table ρ}

/-- What a row adds to the usage of a session and of all sessions. -/
def usageOf (counts : ρ → Bool) (session : ρ → SessionId) (size : ρ → ℕ) (sessionId : SessionId)
    (r : ρ) : ℕ × ℕ :=
  (if counts r && session r = sessionId then size r else 0, if counts r then size r else 0)

omit [DecidableEq κ] in
theorem usage_eq_total (t : Table ρ) (counts : ρ → Bool) (session : ρ → SessionId)
    (size : ρ → ℕ) (sessionId : SessionId) :
    usage (t.rows.filter counts) session sessionId size =
      (t.total fun r => (usageOf counts session size sessionId r).1,
        t.total fun r => (usageOf counts session size sessionId r).2) := by
  rw [usage, Prod.mk.injEq]
  refine ⟨?_, (t.total_ite counts size).symm⟩
  rw [List.filter_filter]
  simp only [usageOf]
  rw [t.total_ite]
  simp only [Bool.and_comm]

/-- A row that is replaced no longer counts, and the new one does. -/
theorem usage_replace {r old : ρ} (h : t.find? (Keyed.key r) = some old) (counts : ρ → Bool)
    (session : ρ → SessionId) (size : ρ → ℕ) (sessionId : SessionId) :
    usage ((t.replace r).rows.filter counts) session sessionId size +
        usageOf counts session size sessionId old =
      usage (t.rows.filter counts) session sessionId size +
        usageOf counts session size sessionId r := by
  rw [usage_eq_total, usage_eq_total]
  exact Prod.ext (Table.total_replace h _) (Table.total_replace h _)

/-- A row that is added counts. -/
theorem usage_insert {t' : Table ρ} {r : ρ} (h : t.insert? r = some t') (counts : ρ → Bool)
    (session : ρ → SessionId) (size : ρ → ℕ) (sessionId : SessionId) :
    usage (t.rows.filter counts) session sessionId size ≤
      usage (t'.rows.filter counts) session sessionId size := by
  rw [usage_eq_total, usage_eq_total, Table.total_insert h, Table.total_insert h]
  exact ⟨Nat.le_add_left _ _, Nat.le_add_left _ _⟩

omit [DecidableEq κ] in
/-- Two ways of counting agree on everything only if they agree on each row. -/
theorem counts_of_usage_eq {counts counts' : ρ → Bool} {session : ρ → SessionId}
    {sessionId : SessionId} (hle : ∀ r, counts' r = true → counts r = true)
    (h : usage (t.rows.filter counts) session sessionId (fun _ => 1) =
      usage (t.rows.filter counts') session sessionId fun _ => 1) {r : ρ} (hr : r ∈ t)
    (hcounts : counts r = true) : counts' r = true := by
  have hlength : (t.rows.filter counts').length = (t.rows.filter counts).length := by
    simpa [usage] using (congrArg Prod.snd h).symm
  have hsublist : (t.rows.filter counts').Sublist (t.rows.filter counts) :=
    List.monotone_filter_right t.rows hle
  have hmem : r ∈ t.rows.filter counts := List.mem_filter.mpr ⟨hr, hcounts⟩
  rw [← hsublist.eq_of_length hlength] at hmem
  exact (List.mem_filter.mp hmem).2

end Usage

/-! ### What is in use -/

/-- What is in use of a resource: messages that are not finished, and artifacts that are not
erased.  Of the other resources the store says itself what is in use. -/
def Store.inUse (env : Env) (s : Store) (sessionId : SessionId) : CapacityResource → ℕ × ℕ
  | .messages =>
    usage (s.messages.rows.filter fun r => !r.snapshot.state.isTerminal) (·.sessionId) sessionId
      fun _ => 1
  | .messageBytes =>
    usage (s.messages.rows.filter fun r => !r.snapshot.state.isTerminal) (·.sessionId) sessionId
      fun r => (env.json (.message r.snapshot)).length
  | .artifacts =>
    usage (s.artifacts.rows.filter fun a => a.state ≠ .physicallyErased) (·.sessionId) sessionId
      fun _ => 1
  | .artifactBytes =>
    usage (s.artifacts.rows.filter fun a => a.state ≠ .physicallyErased) (·.sessionId) sessionId
      ArtifactSnapshot.size
  | resource => derivedCapacityUsage env s sessionId resource

/-- The message was given up, or may have been accepted. -/
def MessageDeliveryState.isGivenUp : MessageDeliveryState → Bool
  | deadLetter _ | uncertain .. => true
  | _ => false

/-- Whatever is finished was accepted or is still there: no message was given up or is uncertain,
and no artifact was erased. -/
structure Store.Returned (s : Store) : Prop where
  messages : ∀ r ∈ s.messages, r.snapshot.state.isGivenUp = false
  artifacts : ∀ a ∈ s.artifacts, a.state ≠ .physicallyErased

/-- A message counts while it is not finished, and for ever if it was given up. -/
theorem MessageRow.isRetained_eq (r : MessageRow) :
    r.isRetained = (!r.snapshot.state.isTerminal || r.snapshot.state.isGivenUp) := by
  unfold isRetained
  cases r.snapshot.state <;> rfl

theorem MessageRow.isRetained_eq_not (r : MessageRow) :
    r.isRetained = !r.snapshot.state.isAccepted := by
  unfold isRetained
  cases r.snapshot.state <;> rfl

theorem MessageRow.isRetained_of_live {r : MessageRow} (h : r.snapshot.state.isTerminal = false) :
    r.isRetained = true := by
  rw [isRetained_eq, h]
  rfl

/-- Every artifact counts, whatever its state. -/
theorem ArtifactSnapshot.isRetained_eq (a : ArtifactSnapshot) : a.isRetained = true := by
  unfold isRetained
  cases a.state <;> decide

/-- **The usage is exact** if and only if nothing was given up or erased. -/
theorem usage_exact_iff :
    (∀ sessionId resource,
      derivedCapacityUsage env s sessionId resource = s.inUse env sessionId resource) ↔
      s.Returned := by
  constructor
  · intro h
    refine ⟨fun r hr => ?_, fun a ha => ?_⟩
    · have husage : usage (s.messages.rows.filter MessageRow.isRetained) _ _ _ =
        usage (s.messages.rows.filter fun r => !r.snapshot.state.isTerminal) _ _ _ :=
        h r.sessionId .messages
      by_contra hgiven
      rw [Bool.not_eq_false] at hgiven
      have hlive := counts_of_usage_eq
        (fun r hr => MessageRow.isRetained_of_live (by simpa using hr)) husage hr
        (by simp [r.isRetained_eq, hgiven])
      cases hstate : r.snapshot.state <;>
        simp_all [MessageDeliveryState.isGivenUp, MessageDeliveryState.isTerminal]
    · have husage : usage (s.artifacts.rows.filter ArtifactSnapshot.isRetained) _ _ _ =
        usage (s.artifacts.rows.filter fun a => a.state ≠ .physicallyErased) _ _ _ :=
        h a.sessionId .artifacts
      have hkept := counts_of_usage_eq (fun a _ => a.isRetained_eq) husage ha a.isRetained_eq
      exact of_decide_eq_true hkept
  · rintro ⟨hmessages, hartifacts⟩ sessionId resource
    have hlive : s.messages.rows.filter MessageRow.isRetained =
        s.messages.rows.filter fun r => !r.snapshot.state.isTerminal := by
      refine List.filter_congr fun r hr => ?_
      rw [r.isRetained_eq, hmessages r hr, Bool.or_false]
    have hkept : s.artifacts.rows.filter ArtifactSnapshot.isRetained =
        s.artifacts.rows.filter fun a => a.state ≠ .physicallyErased := by
      refine List.filter_congr fun a ha => ?_
      simpa [a.isRetained_eq] using hartifacts a ha
    cases resource <;> first | rfl | simp only [derivedCapacityUsage, Store.inUse, hlive, hkept]

/-! ### Finishing -/

/-- What a delivery that takes effect does to the messages. -/
theorem delivery_applied {t : Timestamp} {c : TransitionMessageDelivery} {a : Answer}
    (h : Applies env t (.transitionMessageDelivery c) s a) :
    ∃ row m', s.messages.find? c.messageId = some row ∧
      s.messages.find? m'.messageId = some row ∧ row.snapshot.state.isTerminal = false ∧
      a = .message m' ∧
      ({ row with snapshot := m' } : MessageRow).isRetained = !c.transition.accepts ∧
      (exec env t (.transitionMessageDelivery c) s).2.messages =
        s.messages.replace { row with snapshot := m' } := by
  obtain ⟨v, s', heq, hbody, rfl⟩ := mutation_applied h
  obtain ⟨m', s1, hdecide, hbody⟩ := bind_done.mp hbody
  obtain ⟨r, row, k, hr, rfl, hrow, hm, -, lease, notBefore, -, hnext⟩ :=
    decideDelivery_done hdecide
  simp only [looks_done] at hbody
  obtain ⟨_, s2, hcommit, hv, rfl⟩ := hbody
  obtain rfl : m' = v := by simpa using hv
  obtain ⟨row', hrow', hmessages⟩ := commitDeliveryTransition_messages hcommit
  obtain rfl := hm.row_eq hrow'
  refine ⟨row', m', hrow, hrow', hm.live, rfl, ?_, ?_⟩
  · rw [MessageRow.isRetained_eq_not, DeliveryTransition.next_accepted hnext]
  · change (ledgered env c _ (transitionMessageDelivery env t c) s).2.messages = _
    rw [transitionMessageDelivery, heq, hmessages]
    rfl

/-- What a row of a session has of a resource. -/
def share (k sessionId : SessionId) (n : ℕ) : ℕ × ℕ := (if k = sessionId then n else 0, n)

/-- The usage of messages and of their bytes is lower by a message. -/
def GivesBack (env : Env) (s s' : Store) (row : MessageRow) : Prop :=
  ∀ sessionId, derivedCapacityUsage env s' sessionId .messages + share row.sessionId sessionId 1 =
      derivedCapacityUsage env s sessionId .messages ∧
    derivedCapacityUsage env s' sessionId .messageBytes +
        share row.sessionId sessionId (env.json (.message row.snapshot)).length =
      derivedCapacityUsage env s sessionId .messageBytes

theorem givesBack_iff {row r' : MessageRow} (hrow : s.messages.find? r'.messageId = some row)
    (hretained : row.isRetained = true) (hmessages : s'.messages = s.messages.replace r') :
    GivesBack env s s' row ↔ r'.isRetained = false := by
  have hshare : ∀ (size : MessageRow → ℕ) k,
      usageOf MessageRow.isRetained (·.sessionId) size k row = share row.sessionId k (size row) :=
    fun size k => by simp [usageOf, share, hretained]
  have husage : ∀ (size : MessageRow → ℕ) k,
      usage (s'.messages.rows.filter MessageRow.isRetained) (·.sessionId) k size +
          share row.sessionId k (size row) =
        usage (s.messages.rows.filter MessageRow.isRetained) (·.sessionId) k size +
          usageOf MessageRow.isRetained (·.sessionId) size k r' := fun size k => by
    rw [hmessages, ← hshare]
    exact usage_replace hrow _ _ size k
  constructor
  · intro h
    have hone := (h row.sessionId).1
    have hall := husage (fun _ => 1) row.sessionId
    simp only [derivedCapacityUsage] at hone
    rw [hone] at hall
    have hnone := congrArg Prod.snd hall
    by_contra hcounts
    simp [usageOf, hcounts] at hnone
  · intro h k
    have hzero : ∀ size, usageOf MessageRow.isRetained (·.sessionId) size k r' = 0 :=
      fun size => by simp [usageOf, h]
    have hlower : ∀ size, usage (s'.messages.rows.filter MessageRow.isRetained) (·.sessionId) k
        size + share row.sessionId k (size row) =
          usage (s.messages.rows.filter MessageRow.isRetained) (·.sessionId) k size := by
      intro size
      rw [husage, hzero]
      exact Prod.ext (Nat.add_zero _) (Nat.add_zero _)
    exact ⟨hlower fun _ => 1, hlower fun r => (env.json (.message r.snapshot)).length⟩

/-- A message that counts before and after it is touched. -/
theorem usage_touched {r : MessageRow} {m' : MessageSnapshot}
    (hfound : s.messages.find? r.messageId = some r) (hlive : r.snapshot.state.isTerminal = false)
    (hm' : m'.state.isAccepted = false) (k : SessionId) :
    usage ((s.messages.replace { r with snapshot := m' }).rows.filter MessageRow.isRetained)
        (·.sessionId) k (fun _ => 1) =
      usage (s.messages.rows.filter MessageRow.isRetained) (·.sessionId) k fun _ => 1 := by
  have hreplace := usage_replace (r := { r with snapshot := m' }) hfound MessageRow.isRetained
    (·.sessionId) (fun _ => 1) k
  have hsame : usageOf MessageRow.isRetained (·.sessionId) (fun _ => 1) k
        { r with snapshot := m' } =
      usageOf MessageRow.isRetained (·.sessionId) (fun _ => 1) k r := by
    simp [usageOf, MessageRow.isRetained_of_live hlive, MessageRow.isRetained_eq_not, hm']
  rw [hsame] at hreplace
  exact Prod.ext (Nat.add_right_cancel (congrArg Prod.fst hreplace))
    (Nat.add_right_cancel (congrArg Prod.snd hreplace))

/-- No part of a call that accepts nothing lowers the number of messages that count. -/
theorem Deed.usage_le {s₀ : Store} {c : Command} {l : Label} {t : Timestamp}
    (hc : c.accepts = false) (hl : c.Permits env t s₀ s l) (hd : Deed env l s s')
    (k : SessionId) :
    derivedCapacityUsage env s k .messages ≤ derivedCapacityUsage env s' k .messages := by
  rcases hd.frame.messages with hd | ⟨hmessages, -⟩
  · cases hd with
    | queued inserted => exact usage_insert inserted _ _ _ k
    | @moved _ r _ m' _ found readable touched moves =>
      have hm' : m'.state.isAccepted = false := by
        have hlive := moves.live.2
        cases hstate : m'.state <;> simp_all [MessageDeliveryState.isTerminal,
          MessageDeliveryState.isAccepted]
      exact (usage_touched found moves.live.1 hm' k).ge
    | finished found readable live =>
      have hm' := Bool.eq_false_iff.mpr (mt hl.2 (Bool.eq_false_iff.mp hc))
      exact (usage_touched found live hm' k).ge
  · simp only [derivedCapacityUsage, hmessages, le_refl]

/-- **A call that accepts nothing lowers nothing**: not when it dead-letters a message, retires
those of an operation that ends, or leaves one uncertain. -/
theorem usage_le_of_accepts (hs : Sound s) {t : Timestamp} {c : Command} (hc : c.accepts = false)
    (k : SessionId) :
    derivedCapacityUsage env s k .messages ≤
      derivedCapacityUsage env (exec env t c s).2 k .messages :=
  (exec_path hs t c).keeps (I := fun s1 => derivedCapacityUsage env s k .messages ≤
    derivedCapacityUsage env s1 k .messages) (fun _ _ _ hl hd h => h.trans (hd.usage_le hc hl k))
    le_rfl

/-- An artifact that is erased is counted as before. -/
theorem erasure_applied {t checkedAt : Timestamp} {c : EraseArtifact} {a : Answer}
    (h : Applies env t (.recordPhysicalErasure c checkedAt now) s a) (sessionId : SessionId) :
    derivedCapacityUsage env (exec env t (.recordPhysicalErasure c checkedAt now) s).2 sessionId
        .artifacts = derivedCapacityUsage env s sessionId .artifacts ∧
      derivedCapacityUsage env (exec env t (.recordPhysicalErasure c checkedAt now) s).2 sessionId
        .artifactBytes = derivedCapacityUsage env s sessionId .artifactBytes := by
  obtain ⟨v, hdone, -⟩ := unrecorded_applied h
  obtain ⟨_, _, -, -, ⟨⟩⟩ | ⟨-, hdone⟩ := replayOrWrite_done env hdone
  obtain ⟨x, revision, hmade, -, -, -, hartifacts, -⟩ := eraseNew_done hdone
  have hx : s.artifacts.find? x.artifactId = some x :=
    Table.find?_of_mem (Table.mem_of_find? hmade.found)
  have husage : ∀ size, (∀ state revision, size { x with state, revision } = size x) →
      usage ((exec env t (.recordPhysicalErasure c checkedAt now) s).2.artifacts.rows.filter
        ArtifactSnapshot.isRetained) (·.sessionId) sessionId size =
        usage (s.artifacts.rows.filter ArtifactSnapshot.isRetained) (·.sessionId) sessionId size :=
    fun size hsize => by
      have hreplace := usage_replace
        (r := { x with state := .physicallyErased, revision }) hx ArtifactSnapshot.isRetained
        (·.sessionId) size sessionId
      rw [show (exec env t (.recordPhysicalErasure c checkedAt now) s).2.artifacts = _ from
        hartifacts]
      simp only [usageOf, ArtifactSnapshot.isRetained_eq, hsize] at hreplace
      refine Prod.ext (Nat.add_right_cancel (congrArg Prod.fst hreplace))
        (Nat.add_right_cancel (congrArg Prod.snd hreplace))
  exact ⟨husage (fun _ => 1) fun _ _ => rfl, husage ArtifactSnapshot.size fun _ _ => rfl⟩

/-- **Finished resources give their capacity back** as long as no message is given up or
uncertain and no artifact was erased: then, and only then, what the store computes is what is in
use.  A delivery that finishes a message gives it back if and only if it accepts it; no call that
accepts nothing lowers the number of messages that count; and erasing an artifact lowers nothing. -/
theorem usage_is_given_back (hs : Reachable env s) :
    ((∀ sessionId resource,
      derivedCapacityUsage env s sessionId resource = s.inUse env sessionId resource) ↔
        s.Returned) ∧
    (∀ t c m', Applies env t (.transitionMessageDelivery c) s (.message m') →
      m'.state.isTerminal = true → ∃ row, s.messages.find? c.messageId = some row ∧
        (GivesBack env s (exec env t (.transitionMessageDelivery c) s).2 row ↔
          c.transition.accepts = true)) ∧
    (∀ t c, c.accepts = false → ∀ sessionId,
      derivedCapacityUsage env s sessionId .messages ≤
        derivedCapacityUsage env (exec env t c s).2 sessionId .messages) ∧
    ∀ t c checkedAt now a, Applies env t (.recordPhysicalErasure c checkedAt now) s a →
      ∀ sessionId resource, resource = .artifacts ∨ resource = .artifactBytes →
        derivedCapacityUsage env (exec env t (.recordPhysicalErasure c checkedAt now) s).2
          sessionId resource = derivedCapacityUsage env s sessionId resource := by
  refine ⟨usage_exact_iff, fun t c m' happlies _ => ?_,
    fun t c hc sessionId => usage_le_of_accepts hs.sound hc sessionId,
    fun t c checkedAt now a happlies sessionId resource hresource => ?_⟩
  · obtain ⟨row, m, hrow, hrow', hlive, -, hretained, hmessages⟩ := delivery_applied happlies
    have hkey : row.messageId = m.messageId := Table.key_of_find? hrow'
    have hfound : s.messages.find? { row with snapshot := m }.messageId = some row := hkey ▸ hrow'
    refine ⟨row, hrow, (givesBack_iff hfound (MessageRow.isRetained_of_live hlive)
      hmessages).trans ?_⟩
    rw [hretained, Bool.not_eq_false']
  · obtain ⟨hartifacts, hbytes⟩ := erasure_applied happlies sessionId
    rcases hresource with rfl | rfl
    · exact hartifacts
    · exact hbytes

open Sample

namespace Sample

/-- The driver accepts the message it was asked to accept. -/
def acceptance : TransitionMessageDelivery :=
  report 9 ⟨3, Sample.three_pos⟩ (.accepted 5)

end Sample

/-- The message that the driver accepts no longer counts. -/
theorem usage_is_given_back_accepted :
    (∃ row, asked.messages.find? acceptance.messageId = some row ∧
      GivesBack world asked (exec world (seconds 1) (.transitionMessageDelivery acceptance) asked).2
        row) ∧
    derivedCapacityUsage world asked session .messages = (1, 1) ∧
    derivedCapacityUsage world
      (exec world (seconds 1) (.transitionMessageDelivery acceptance) asked).2 session .messages =
        (0, 0) := by
  have hasked : Reachable world asked := leased_reachable.trans (run_calls _ _)
  obtain ⟨-, hgives, -⟩ := usage_is_given_back hasked
  obtain ⟨r, -, happlies, hended⟩ : ∃ r ∈ (exec world (seconds 1)
      (.transitionMessageDelivery acceptance) asked).2.messages.rows,
      Applies world (seconds 1) (.transitionMessageDelivery acceptance) asked
        (.message r.snapshot) ∧ r.snapshot.state.isTerminal = true := by
    decide +kernel
  obtain ⟨row, hrow, hback⟩ := hgives _ _ _ happlies hended
  refine ⟨⟨row, hrow, hback.mpr rfl⟩, ?_⟩
  decide +kernel

namespace Sample

/-- The driver gives up the message it has. -/
def givenUp : Store :=
  calls world [(seconds 1, .transitionMessageDelivery
    (report 8 ⟨2, Nat.two_pos⟩ (.deadLetter ⟨"lost", by decide⟩)))] leased

end Sample

/-- A message that was given up is still counted as used. -/
theorem usage_of_dead_letter :
    Reachable world givenUp ∧
    (∀ r ∈ givenUp.messages, r.snapshot.state.isTerminal = true) ∧
    givenUp.inUse world session .messages = (0, 0) ∧
    derivedCapacityUsage world givenUp session .messages = (1, 1) ∧
    derivedCapacityUsage world leased session .messages = (1, 1) := by
  refine ⟨leased_reachable.trans (run_calls _ _), ?_⟩
  decide +kernel

end Navigator
