/-
Request identities.

A request is recorded in one of seven tables, and each call looks for its request in some of
the others before it enters it.  A request is never in two of them as long as no call enters
one that is in a table it does not look in (`requests_are_disjoint`); where calls do not look
is `Command.overlooks`.
-/
import Navigator.Deeds.Requests
import Navigator.Effects

namespace Navigator

open Txn Tx

variable {env : Env} {s s' : Store} {t : Timestamp} {c : Command}
variable {a : Answer} {q : RequestId} {table : RequestTable}

/-! ### Disjoint tables -/

/-- No request is in two tables. -/
def Store.Disjoint (s : Store) : Prop :=
  ∀ q table table', s.records q table = true → s.records q table' = true → table = table'

/-- What a call enters is not in the tables in which it does not look. -/
def Command.Distinct (env : Env) (c : Command) (s : Store) : Prop :=
  ∀ q table, (q, table) ∈ c.enters env → ∀ table', c.overlooks table' = true →
    s.records q table' = false

theorem Store.Disjoint.empty : Store.empty.Disjoint := by
  intro q table table' h
  cases table <;> cases h

/-- A call that enters what is nowhere else keeps the tables apart. -/
theorem exec_disjoint (h : s.Disjoint) (hs : Sound s) (hc : c.Distinct env s) :
    (exec env t c s).2.Disjoint := by
  -- a table the request was not in before has been entered, so that it was in none
  have hentered : ∀ q table, (exec env t c s).2.records q table ≠ s.records q table →
      ∀ table', s.records q table' = false := by
    intro q table hne table'
    obtain ⟨hmem, hfree⟩ := (exec_records hs t c q table).resolve_left hne
    by_contra hrecorded
    have hrecorded : s.records q table' = true := by simpa using hrecorded
    exact absurd hrecorded (by simp [hc q table hmem table' (hfree table' hrecorded)])
  intro q table table' hq hq'
  by_cases hsame : (exec env t c s).2.records q table = s.records q table <;>
    by_cases hsame' : (exec env t c s).2.records q table' = s.records q table'
  · exact h q table table' (hsame ▸ hq) (hsame' ▸ hq')
  · rw [hsame, hentered q table' hsame' table] at hq
    cases hq
  · rw [hsame', hentered q table hsame table'] at hq'
    cases hq'
  · exact exec_enters_once hs hsame hsame'

/-! ### Calls that overlook a request -/

/-- A row that is entered is there. -/
theorem isSome_of_inserted {ρ κ : Type} [Keyed ρ κ] [DecidableEq κ] {rows rows' : Table ρ} {r : ρ}
    (h : rows.insert? r = some rows') : (rows'.find? (Keyed.key r)).isSome = true := by
  rw [Table.find?_insert h, if_pos rfl]
  rfl

/-- An applied call to the journal has entered its request. -/
theorem JournalChange.entered {j : Journal} (h : JournalChange env t s c (.ok (.applied a)) j)
    (hmem : (q, table) ∈ c.journals) :
    ({ s with journal := j } : Store).records q table = true := by
  cases h with
  | @same _ _ idle => exact absurd rfl (idle (by cases c <;> first | rfl | cases hmem) a)
  | effectReserved made =>
    obtain ⟨rfl, rfl⟩ := Prod.mk.inj (List.mem_singleton.mp hmem)
    exact isSome_of_inserted made.inserted
  | effectLapsed made =>
    obtain ⟨rfl, rfl⟩ := Prod.mk.inj (List.mem_singleton.mp hmem)
    exact (Journal.isSome_withEffect _ _ _).trans (by rw [made.found]; rfl)
  | effectMoved made recorded | effectTaken made recorded =>
    obtain ⟨rfl, rfl⟩ := Prod.mk.inj (List.mem_singleton.mp hmem)
    exact isSome_of_inserted recorded
  | effectResolved free owner grounds leaves recorded =>
    obtain ⟨rfl, rfl⟩ := Prod.mk.inj (List.mem_singleton.mp hmem)
    exact isSome_of_inserted recorded
  | toolRegistered | toolConnected => cases hmem
  | toolReserved made dispatched =>
    obtain ⟨rfl, rfl⟩ := Prod.mk.inj (List.mem_singleton.mp hmem)
    exact isSome_of_inserted dispatched.inserted
  | toolMoved admitted moves recorded =>
    obtain ⟨rfl, rfl⟩ := Prod.mk.inj (List.mem_singleton.mp hmem)
    exact isSome_of_inserted recorded

/-- An applied batch of classifications has been entered. -/
theorem recordRecoveryClassifications_entered {d : RecordRecoveryClassifications}
    (h : (exec env t (.recordRecoveryClassifications d) s).1 = .ok (.applied a)) :
    (exec env t (.recordRecoveryClassifications d) s).2.records d.context.requestId
      .recoveryClassifications = true := by
  obtain ⟨v, s', hdone, heq⟩ | ⟨e, heq⟩ := unrecorded_cases (fun _ => Answer.recovery)
    (recordRecoveryClassifications env t d) s
  · rw [show exec env t (.recordRecoveryClassifications d) s = _ from heq] at h ⊢
    simp only [recordRecoveryClassifications, looks_done, advanceTimeFloor_bind_done] at hdone
    obtain ⟨-, -, -, row, hrow, -, -, hdone⟩ := hdone
    cases hfound : s.recoveries.find? d.context.requestId with
    | some existing =>
      simp only [Store.withFloor, hfound, looks_done] at hdone
      obtain ⟨-, rfl, -⟩ := hdone
      cases h
    | none =>
      simp only [Store.withFloor, hfound, looks_done] at hdone
      obtain ⟨-, -, hdone⟩ := hdone
      obtain ⟨_, s1, hcommit, hdone⟩ := bind_done.mp hdone
      cases hdone
      simp only [commitRecovery, looks_done] at hcommit
      obtain ⟨-, rows, hinsert, hevent⟩ := hcommit
      obtain ⟨e, -, rfl⟩ := appendEventData_done hevent
      exact isSome_of_inserted hinsert
  · rw [show exec env t (.recordRecoveryClassifications d) s = _ from heq] at h
    cases h

/-- A call that may overlook its request has entered it when it is applied. -/
theorem exec_entered (hs : Sound s) (h : (exec env t c s).1 = .ok (.applied a))
    {table' : RequestTable} (hmem : (q, table) ∈ c.enters env) (hc : c.overlooks table' = true) :
    (exec env t c s).2.records q table = true := by
  have hchange : JournalChange env t s c _ _ := exec_journal hs t c
  rw [h] at hchange
  cases c with
  | reserveEffect | transitionEffect | takeoverEffect | resolveAuthorizedEffect
  | reserveToolInvocation =>
    obtain ⟨rfl, rfl⟩ := Prod.mk.inj (List.mem_singleton.mp hmem)
    exact hchange.entered (List.mem_singleton_self _)
  | recordRecoveryClassifications =>
    obtain ⟨rfl, rfl⟩ := Prod.mk.inj (List.mem_singleton.mp hmem)
    exact recordRecoveryClassifications_entered h
  | _ => cases table' <;> cases hc

/-- A call looks in the table it enters. -/
theorem Command.overlooks_enters (h : (q, table) ∈ c.enters env) : c.overlooks table = false := by
  cases c with
  | reserveEffect | transitionEffect | takeoverEffect | resolveAuthorizedEffect
  | reserveToolInvocation | recordRecoveryClassifications =>
    obtain ⟨rfl, rfl⟩ := Prod.mk.inj (List.mem_singleton.mp h)
    rfl
  | _ => cases table <;> rfl

/-- Calls that enter nothing but in the ledger look everywhere. -/
theorem distinct_of_plain {cs : List (Timestamp × Command)}
    (h : cs.all (fun tc => tc.2.journals.isEmpty && tc.2.files.isEmpty) = true) :
    ∀ tc ∈ cs, ∀ s, tc.2.Distinct env s := by
  intro tc htc s q table hmem table' hc
  have hplain := List.all_eq_true.mp h tc htc
  obtain ⟨t, c⟩ := tc
  cases c <;> first
    | (cases hplain; done)
    | (cases table' <;> cases hc)

/-- A call whose requests are in neither of the tables that any call overlooks. -/
theorem distinct_of_fresh (h : ∀ x ∈ c.enters env, s.records x.1 .toolInvocationMutations = false ∧
    s.records x.1 .effectJournalMutations = false) : c.Distinct env s := by
  intro q table hmem table' hc
  cases table' with
  | toolInvocationMutations => exact (h _ hmem).1
  | effectJournalMutations => exact (h _ hmem).2
  | _ => cases c <;> cases hc

/-- What a call overlooks is still there afterwards. -/
theorem exec_records_overlooked (hs : Sound s) (hc : c.overlooks table = true) :
    (exec env t c s).2.records q table = s.records q table := by
  refine (exec_records hs t c q table).resolve_right fun h => ?_
  rw [Command.overlooks_enters h.1] at hc
  cases hc

/-- **A request is recorded in one table at most**, in every run in which no call enters a
request that is in a table where it does not look; and a call that does, and is applied,
always puts its request in two tables. -/
theorem requests_are_disjoint (h : ReachableIf env (fun _ c s => c.Distinct env s) s) :
    s.Disjoint ∧ ∀ t c a, (exec env t c s).1 = .ok (.applied a) →
      ((exec env t c s).2.Disjoint ↔ c.Distinct env s) := by
  have hdisjoint : s.Disjoint := by
    refine ReachableIf.rec' .empty (fun s s' hs ih hstep => ?_) h
    obtain ⟨t, c, hc⟩ := hstep
    exact exec_disjoint ih hs.sound hc
  have hs := h.reachable.sound
  refine ⟨hdisjoint, fun t c a happlied => ⟨fun hafter q table hmem table' hc => ?_,
    exec_disjoint hdisjoint hs⟩⟩
  by_contra hrecorded
  have hrecorded : s.records q table' = true := by simpa using hrecorded
  have hentered := exec_entered hs happlied hmem hc
  have hsame := hafter q table table' hentered ((exec_records_overlooked hs hc).trans hrecorded)
  rw [← hsame, Command.overlooks_enters hmem] at hc
  cases hc

namespace Sample

/-- The root may write files in the session. -/
def writing : AuthorityProfile :=
  ⟨[⟨⟨"file.write"⟩, .session session⟩], [⟨⟨"file.write"⟩, .session session⟩]⟩

def policy : AuthorityPolicySnapshot := ⟨session, root, writing, writing, writing, writing, writing⟩

def tool : ToolDefinition :=
  ⟨⟨"write", by decide⟩, ⟨"1", by decide⟩, ⟨[0x7b, 0x7d], by decide⟩, ⟨[0x7b, 0x7d], by decide⟩,
    ⟨"file.write"⟩, ⟨60000, by decide⟩, .cooperative, .nonIdempotent, .neverReplay, false, rfl⟩

/-- A provider of the tool is connected. -/
def tooled : Store :=
  calls world [(seconds 0, .putAuthorityPolicy ⟨request 12, session, epoch, policy⟩),
    (seconds 0, .registerTool ⟨request 13, session, epoch, openSession.consumerKey, id 0, tool⟩),
    (seconds 0, .connectToolProvider
      ⟨request 14, session, epoch, openSession.consumerKey, id 0, id 0, 0, [id 0]⟩)] running

/-- An invocation of the tool under the identity numbered `n`. -/
def invocation (n : ℕ) : ToolInvocation :=
  ⟨id n, id n, session, root, operation, ⟨"write", by decide⟩, ⟨"1", by decide⟩,
    ⟨[0x7b, 0x7d], by decide⟩, none, none, none⟩

def reserveTool (n : ℕ) : ReserveToolInvocation :=
  ⟨request n, epoch, invocation n, id n, id 0, id 0, seconds 20, ⟨5000000000⟩⟩

/-- An effect is reserved and started, -/
def effected : Store :=
  calls world [(seconds 1, .reserveEffect (reserveEffect 20 .conservative)),
    (seconds 1, .transitionEffect (changeEffect 21 20 .initial none))] tooled

/-- and a tool is invoked under the identity numbered `n`. -/
def invokedAs (n : ℕ) : Store :=
  calls world [(seconds 1, .reserveToolInvocation (reserveTool n))] effected

theorem tooled_reachable : Reachable world tooled :=
  running_reachable.trans (run_calls _ _)

end Sample

open Sample

/-- The requests of an effect, of its start and of a tool, each in one table. -/
theorem requests_are_disjoint_running :
    (invokedAs 22).records (Sample.id 20) .effectJournal = true ∧
    (invokedAs 22).records (Sample.id 21) .effectJournalMutations = true ∧
    (invokedAs 22).records (Sample.id 22) .effectJournal = true ∧ (invokedAs 22).Disjoint := by
  have hinvoked : ReachableIf world (fun _ c s => c.Distinct world s) (invokedAs 22) := by
    refine .tail (.tail (.tail ?_ (.call _ _ (distinct_of_fresh (by decide +kernel)))) (.call _ _
      (distinct_of_fresh (by decide +kernel)))) (.call _ _ (distinct_of_fresh (by decide +kernel)))
    iterate 5 refine ReachableIf.calls ?_ (distinct_of_plain rfl)
    exact .refl
  exact ⟨by decide +kernel, by decide +kernel, by decide +kernel,
    (requests_are_disjoint hinvoked).1⟩

/-- **A request in two tables**: an effect is started by the request numbered 21, under which
a tool is then invoked. -/
theorem request_recorded_twice :
    ∃ s, Reachable world s ∧ s.records (Sample.id 21) .effectJournalMutations = true ∧
      s.records (Sample.id 21) .effectJournal = true ∧ ¬ s.Disjoint := by
  have hreachable : Reachable world (invokedAs 21) :=
    (tooled_reachable.trans (run_calls _ _)).trans (run_calls _ _)
  have hchanged : (invokedAs 21).records (Sample.id 21) .effectJournalMutations = true := by
    decide +kernel
  have hreserved : (invokedAs 21).records (Sample.id 21) .effectJournal = true := by
    decide +kernel
  exact ⟨_, hreachable, hchanged, hreserved, fun h => absurd (h _ _ _ hchanged hreserved) nofun⟩

end Navigator
