/-
The inputs of operations.

An operation begins with a message that carries its input, from its participant to its
participant: whoever asked for the operation, the message does not say so.  The message
stays, whatever becomes of its delivery and of the operation.

* **`Reachable.inputs`** — in every store a run leads to, every operation has its input.
-/
import Navigator.Deeds.Once

namespace Navigator

open Txn Tx

variable {env : Env} {P : Store → Label → Prop} {s s' : Store}
variable {o : OperationSnapshot} {now t : Timestamp} {c : StartOperation}

/-- The message that carries an operation's input is there. -/
def Store.HasInput (s : Store) (o : OperationSnapshot) : Prop :=
  ∃ r sequence now, s.messages.find? o.inputMessageId = some r ∧
    r.snapshot.identity = (inputMessage o sequence now).identity

/-- Every operation has its input. -/
def Store.Inputs (s : Store) : Prop := ∀ row ∈ s.operations, s.HasInput row.snapshot

theorem Store.HasInput.mono (h : s.HasInput o)
    (hmessages : s.messages.Evolves MessageRow.Precedes s'.messages) : s'.HasInput o := by
  obtain ⟨r, sequence, now, hr, hsame⟩ := h
  obtain ⟨r', hr', hprecedes⟩ := hmessages _ _ hr
  exact ⟨r', sequence, now, hr', hprecedes.same.trans hsame⟩

/-- Only what stays of the operation matters. -/
theorem Store.HasInput.of_identity {o' : OperationSnapshot} (h : s.HasInput o)
    (hsame : o'.identity = o.identity) : s.HasInput o' := by
  obtain ⟨r, sequence, now, hr, hinput⟩ := h
  simp only [OperationSnapshot.identity, OperationIdentity.mk.injEq] at hsame
  obtain ⟨hsession, hid, hparticipant, -, hmessage, hdigest, -⟩ := hsame
  refine ⟨r, sequence, now, hmessage ▸ hr, ?_⟩
  rw [hinput, inputMessage, inputMessage, hsession, hid, hparticipant, hmessage, hdigest]

theorem Store.Inputs.of_eq (h : s.Inputs) (hoperations : s'.operations = s.operations)
    (hmessages : s'.messages = s.messages) : s'.Inputs := fun row hrow => by
  obtain ⟨r, hr⟩ := h row (hoperations ▸ hrow)
  exact ⟨r, hmessages ▸ hr⟩

/-! ### Calls that begin nothing -/

/-- The deeds that begin no operation. -/
def Label.BeginsNothing (l : Label) : Prop := ∀ o, l ≠ .began o

theorem tolerant_beginsNothing {W : LedgerRow → Prop} :
    Tolerant W fun _ l => l.BeginsNothing where
  aside _ _ := by simp
  session _ _ := by simp
  people _ _ := by simp
  recorded _ _ _ _ := by simp

theorem Deed.inputs {l : Label} (h : Deed env l s s') (hl : l.BeginsNothing)
    (hs : s.Inputs) : s'.Inputs := by
  have hmessages := h.follows.messages
  intro x hx
  rcases h.frame.operations with hd | hoperations
  · obtain _ | ⟨found, advances⟩ := hd
    · exact absurd rfl (hl _)
    rcases (Store.mem_operations_replace found advances.operationId).mp hx with rfl | ⟨hx, -⟩
    · exact ((hs _ (Table.mem_of_find? found)).of_identity advances.same).mono hmessages
    · exact (hs x hx).mono hmessages
  · exact (hs x (hoperations ▸ hx)).mono hmessages

theorem Path.inputs (hP : ∀ s l, P s l → l.BeginsNothing) (h : Path env P s s')
    (hs : s.Inputs) : s'.Inputs :=
  h.keeps (fun s1 _ l hl hd hs1 => hd.inputs (hP s1 l hl) hs1) hs

/-! ### Calls that begin an operation -/

/-- An operation and its input are inserted together. -/
theorem Store.Inputs.start {row : OperationRow} {operations : Table OperationRow}
    {messages : Table MessageRow} {sequence : ℕ} (hs : s.Inputs)
    (hrow : s.operations.insert? row = some operations)
    (hmessage : s.messages.insert? (.ofSnapshot (inputMessage row.snapshot sequence now)) =
      some messages) (hoperations' : s'.operations = operations)
    (hmessages' : s'.messages = messages) : s'.Inputs := by
  intro x hx
  rw [hoperations'] at hx
  rcases (Table.mem_insert hrow).mp hx with rfl | hx
  · refine ⟨.ofSnapshot (inputMessage x.snapshot sequence now), sequence, now, ?_, rfl⟩
    rw [hmessages', Table.find?_insert hmessage]
    exact if_pos rfl
  · refine (hs x hx).mono ?_
    rw [hmessages']
    exact .insert MessageRow.Precedes.refl hmessage

/-- A call that begins an operation if it is done. -/
theorem mutation_inputs {χ α : Type} [MutableRequest χ] {c : χ} {wrap : α → Answer}
    {onReplay : StoredValue → Write α} {body : Call (Mutation α)}
    (hreplay : ∀ value, Within Eq (onReplay value))
    (hrefused : RefusesWithin (Path env fun _ l => l.BeginsNothing) body)
    (hdone : ∀ v s', body s = .done v s' → s'.Inputs) (hs : s.Inputs) :
    (ledgered env c wrap (replayOr env c onReplay body) s).2.Inputs := by
  have hP : Tolerant (Writes env c) fun _ l => l.BeginsNothing := tolerant_beginsNothing
  obtain ⟨v, h⟩ | h : (∃ v, _ = Outcome.done v (ledgered env c wrap _ s).2) ∨ Path env _ s _ :=
    mutation_cases hP hreplay hrefused
  · exact hdone v _ h
  · exact Path.inputs (fun _ _ h => h) h hs

theorem commitOperationStart_inputs {u : Unit}
    (h : commitOperationStart env c (c.operation env now) now s = .done u s') (hs : s.Inputs) :
    s'.Inputs := by
  obtain ⟨_, s1, hinsert, h⟩ := bind_done.mp h
  obtain ⟨operations, hrow, -, rfl⟩ := insertOperation_done hinsert
  simp only [looks_done] at h
  obtain ⟨-, h⟩ := h
  obtain ⟨_, s2, hqueue, h⟩ := bind_done.mp h
  obtain ⟨messages, hmessage, -, heq⟩ := queueMessage_done hqueue
  have hstarted : s2.Inputs :=
    hs.start hrow hmessage (congrArg Store.operations heq) (congrArg Store.messages heq)
  have hP : Tolerant (Writes env c) fun _ l => l.BeginsNothing := tolerant_beginsNothing
  have hrest : Path env (fun _ l => l.BeginsNothing) s2 s' := by
    refine Within.done h ((within_aside hP appendEventData_within).bind fun _ => ?_)
    exact told_within hP appendMessageEvent_within
  exact hrest.inputs (fun _ _ h => h) hstarted

theorem startOperation_inputs {wrap : OperationSnapshot → Answer} (hs : s.Inputs) :
    (ledgered env c wrap (startOperation env t c) s).2.Inputs := by
  have hP : Tolerant (Writes env c) fun _ l => l.BeginsNothing := tolerant_beginsNothing
  refine mutation_inputs (fun _ => replayStart_within)
    (RefusesWithin.bind (admitStart_within hP) fun _ => by simp) (fun v s' h => ?_) hs
  obtain ⟨o, s1, hadmit, h⟩ := bind_done.mp h
  obtain ⟨r, -, rfl, rfl, -⟩ := admitStart_done hadmit
  simp only [looks_done] at h
  obtain ⟨_, s2, hcommit, -, rfl⟩ := h
  exact commitOperationStart_inputs hcommit (hs.of_eq rfl rfl)

theorem createAuthorizedChild_inputs {c : CreateAuthorizedChild}
    {wrap : AuthorizedChildOutcome → Answer} (hs : s.Inputs) :
    (ledgered env c wrap (createAuthorizedChild env t c) s).2.Inputs := by
  have hP : Tolerant (Writes env c) fun _ l => l.BeginsNothing := tolerant_beginsNothing
  refine mutation_inputs (fun _ => replayChild_within) ?_ (fun v s' h => ?_) hs
  · refine RefusesWithin.bind (authorize_within hP) fun _ => ?_
    iterate 8 refine .bind (by simp) fun _ => ?_
    split <;> simp
  obtain ⟨r, -, h⟩ := authorize_floor_done h
  simp only [looks_done] at h
  obtain ⟨parent, -, -, outcome, -, h⟩ := h
  have hfloor : (s.withFloor c.sessionId (max r.timeFloor t)).Inputs := hs.of_eq rfl rfl
  cases outcome with
  | none =>
    simp only [looks_done] at h
    obtain ⟨_, s3, hcommit, -, rfl⟩ := h
    have hdenied : Path env (fun _ l => l.BeginsNothing)
        (s.withFloor c.sessionId (max r.timeFloor t)) s3 := Within.done hcommit ?_
    · exact hdenied.inputs (fun _ _ h => h) hfloor
    refine (within_aside hP appendAuthorityEvent_within).bind fun _ => ?_
    exact (record_within hP).bind fun _ => by simp
  | some child =>
    simp only [looks_done] at h
    obtain ⟨_, s3, hcommit, -, rfl⟩ := h
    obtain ⟨_, _, -, -, -, -, hrow, hinput⟩ := commitAuthorizedChild_done hcommit
    exact hfloor.start hrow hinput rfl rfl

/-! ### Runs -/

theorem exec_inputs (hs : Sound s) (t : Timestamp) (c : Command) (hinputs : s.Inputs) :
    (exec env t c s).2.Inputs := by
  by_cases hc : c.starts = none
  · refine Path.inputs (fun s1 l hl o ho => ?_) (exec_path hs t c) hinputs
    subst ho
    exact absurd (hc.symm.trans hl) (by simp)
  · cases c with
    | startOperation c => exact startOperation_inputs hinputs
    | createAuthorizedChild c => exact createAuthorizedChild_inputs hinputs
    | _ => exact absurd rfl hc

/-- **Every operation has its input**, in every store a run leads to. -/
theorem Reachable.inputs (h : Reachable env s) : s.Inputs :=
  h.rec' (fun _ h => (Table.not_mem_empty h).elim) fun _ _ hreachable hinputs hstep => by
    cases hstep with
    | call t c => exact exec_inputs hreachable.sound t c hinputs

end Navigator
