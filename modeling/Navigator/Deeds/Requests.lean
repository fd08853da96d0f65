/-
The tables that record requests.

Seven tables have a request identity for their key, and each subsystem looks in some of them
before it enters one.  This module says what a call can enter at all: nothing but under the
identities it names, and only if it has found them free where it looks.

* **`exec_ledger`** — what a call records in the ledger;
* **`exec_new`** — a call that is not new to the ledger changes nothing;
* **`exec_records`** — what a call enters in the seven tables.
-/
import Navigator.Deeds.Changes

namespace Navigator

open Txn Tx

variable {env : Env} {s s' : Store} {t : Timestamp} {c : Command}
variable {qs : List (RequestId × RequestTable)} {connection : ToolProviderConnectionSnapshot}
variable {q : RequestId} {i : RequestIdentity} {d : ApprovalCommand} {table : RequestTable}

/-! ### Requests in no table -/

/-- Only the tables that record requests matter. -/
theorem Store.records_of_requests (h : s'.requests = s.requests) (q : RequestId)
    (table : RequestTable) : s'.records q table = s.records q table := by
  simp only [Store.requests, Prod.mk.injEq] at h
  obtain ⟨h1, h2, h3, h4, h5⟩ := h
  cases table <;> simp only [Store.records, h1, h2, h3, h4, h5]

/-- A request is in no table. -/
theorem Store.records_eq_false :
    (∀ table, s.records q table = false) ↔
      (s.ledger.find? q).isNone = true ∧ s.requestJournaled q = false := by
  constructor
  · intro h
    have hledger := h .requestLedger
    have heffects := h .effectJournal
    have hchanges := h .effectJournalMutations
    have hrecoveries := h .recoveryClassifications
    have htools := h .toolInvocationMutations
    have happrovals := h .approvalMutations
    have hintents := h .approvalEffectIntents
    simp_all [Store.requestJournaled, Store.journaled, Store.records]
  · rintro ⟨hledger, hjournal⟩ table
    cases table <;> simp_all [Store.requestJournaled, Store.journaled, Store.records]

/-! ### Approvals and recoveries -/

/-- What a path enters in the tables of approvals and recoveries. -/
structure Files (qs : List (RequestId × RequestTable)) (s s' : Store) : Prop where
  effects : ∀ q, (q, .approvalEffectIntents) ∉ qs →
    (s'.approvalEffects.find? q).isSome = (s.approvalEffects.find? q).isSome
  mutations : ∀ q, (q, .approvalMutations) ∉ qs →
    s'.approvalMutations.find? q = s.approvalMutations.find? q
  recovered : ∀ q, (q, .recoveryClassifications) ∉ qs → s'.recoveries.find? q = s.recoveries.find? q

theorem Files.of_eq (heffects : s'.approvalEffects = s.approvalEffects)
    (hmutations : s'.approvalMutations = s.approvalMutations)
    (hrecoveries : s'.recoveries = s.recoveries) : Files qs s s' :=
  ⟨fun _ _ => by rw [heffects], fun _ _ => by rw [hmutations], fun _ _ => by rw [hrecoveries]⟩

theorem Files.refl (qs : List (RequestId × RequestTable)) (s : Store) : Files qs s s :=
  .of_eq rfl rfl rfl

theorem Files.trans {s1 s2 s3 : Store} (h1 : Files qs s1 s2) (h2 : Files qs s2 s3) :
    Files qs s1 s3 where
  effects q hq := (h2.effects q hq).trans (h1.effects q hq)
  mutations q hq := (h2.mutations q hq).trans (h1.mutations q hq)
  recovered q hq := (h2.recovered q hq).trans (h1.recovered q hq)

/-- A deed enters nothing there, unless it is one to these tables. -/
theorem Deed.files {l : Label} (h : Deed env l s s')
    (hl : ∀ q table, l = .filed q table → (q, table) ∈ qs) : Files qs s s' := by
  obtain ⟨q, table, rfl, hfiled⟩ | ⟨heffects, hmutations, hrecoveries⟩ := h.frame.filed
  · have hne : ∀ k, k ∉ qs → k ≠ (q, table) := fun k hk heq => hk (heq ▸ hl q table rfl)
    exact ⟨fun k hk => hfiled.effects k (hne _ hk), fun k hk => hfiled.mutations k (hne _ hk),
      fun k hk => hfiled.recovered k (hne _ hk)⟩
  · exact .of_eq heffects hmutations hrecoveries

/-! ### The ledger -/

/-- **A call records one request at most**, under its own identity. -/
theorem exec_ledger (hs : Sound s) (t : Timestamp) (c : Command) :
    (exec env t c s).2.ledger = s.ledger ∨ ∃ row, c.identity? env = some row.identity ∧
      s.ledger.insert? row = some (exec env t c s).2.ledger := by
  refine (exec_path hs t c).keeps (I := fun s1 => s1.ledger = s.ledger ∨
    ∃ row, c.identity? env = some row.identity ∧ s.ledger.insert? row = some s1.ledger)
    (fun s1 s2 l hl hd h => ?_) (.inl rfl)
  obtain ⟨row, rfl, hinsert⟩ | hsame := hd.frame.ledger
  · have hrow : c.identity? env = some row.identity := hl
    obtain hfirst | ⟨row1, hrow1, hfirst⟩ := h
    · exact .inr ⟨row, hrow, hfirst ▸ hinsert⟩
    -- the second record would be under the identity of the first
    have hid : row1.identity = row.identity := Option.some.inj (hrow1.symm.trans hrow)
    have hkey : Keyed.key row1 = Keyed.key row := congrArg RequestIdentity.requestId hid
    have hfresh := Table.insert?_fresh hinsert
    rw [Table.find?_insert hfirst, if_pos hkey] at hfresh
    cases hfresh
  · rwa [hsame]

section New

variable {χ α : Type} [MutableRequest χ] {d : χ} {wrap : α → Answer}
  {onReplay : StoredValue → Write α}

/-- A call whose request is not new to the ledger changes nothing. -/
theorem ledgered_new {body : Call (Mutation α)} (hreplay : ∀ value, Within Eq (onReplay value)) :
    (ledgered env d wrap (replayOr env d onReplay body) s).2 = s ∨
      replayLookup env d s = .ok none := by
  change (settle env d (replayOr env d onReplay body) s).2 = s ∨ _
  unfold settle
  rw [replayOr_eq]
  obtain e | found := replayLookup env d s
  · exact .inl rfl
  obtain _ | value := found
  · exact .inr rfl
  have hwithin : Within Eq (Mutation.replayed <$> commit (onReplay value) : Call _) :=
    Within.map (Within.commit (hreplay value))
  have hrefuses : RefusesWithin (fun _ _ => False)
      (Mutation.replayed <$> commit (onReplay value) : Call _) := by simp
  dsimp only
  cases hrun : (Mutation.replayed <$> commit (onReplay value) : Call _) s with
  | done v s' => exact .inl (hwithin.done hrun).symm
  | aborted e => exact .inl rfl
  | refused r s' => exact (hrefuses s r s' hrun).elim

theorem replayOrWrite_new {body : Write (Mutation α)}
    (hreplay : ∀ value, Within Eq (onReplay value)) :
    (unrecorded wrap (replayOrWrite env d onReplay body) s).2 = s ∨
      replayLookup env d s = .ok none := by
  obtain ⟨v, s', hdone, heq⟩ | ⟨e, heq⟩ :=
    unrecorded_cases wrap (replayOrWrite env d onReplay body) s <;> rw [heq]
  · obtain ⟨value, a, -, h, -⟩ | ⟨hnew, -⟩ := replayOrWrite_done env hdone
    · exact .inl ((hreplay value).done h).symm
    · exact .inr hnew
  · exact .inl rfl

end New

/-- **A call that is not new to the ledger changes nothing.** -/
theorem exec_new (h : c.identity? env = some i) :
    (exec env t c s).2 = s ∨ s.replayOf i = .ok none := by
  cases c with
  | openSession c =>
    cases h
    refine ledgered_new fun value => ?_
    unfold replayOpen
    repeat refine .bind (by simp) fun _ => ?_
    simp
  | registerTemplatesAndOpenSession | closeSession | releaseOwnership | prepareLaunch =>
    cases h
    refine ledgered_new fun value => ?_
    repeat refine .bind (by simp) fun _ => ?_
    simp
  | acquireOwnership | renewOwnership =>
    cases h
    exact ledgered_new fun _ => replayLease_within
  | createRootParticipant | createChildParticipant =>
    cases h
    exact ledgered_new fun _ => replayParticipant_within
  | startOperation =>
    cases h
    exact ledgered_new fun _ => replayStart_within
  | enqueueMessage | transitionMessageDelivery =>
    cases h
    exact ledgered_new fun _ => replayMessage_within
  | registerAuthorityTemplatePolicy =>
    cases h
    exact ledgered_new fun _ => replayTemplatePolicy_within
  | createAuthorizedChild =>
    cases h
    exact ledgered_new fun _ => replayChild_within
  | cancelSubtree =>
    cases h
    refine ledgered_new fun value => ?_
    refine .bind (by simp) fun _ => Within.bind ?_ fun _ => by simp
    exact Within.collect fun _ => refreshCancellation_within
  | applyHierarchyEffect =>
    cases h
    exact ledgered_new fun _ => replayHierarchy_within
  | attachLaunch | transitionLaunch | transitionOperation | leaseNextMessage
  | putAuthorityPolicy | issueGrant | revokeGrant | checkAuthorityEffect | authorizedStatus =>
    cases h
    exact ledgered_new fun _ => by simp
  | registerTool =>
    cases h
    exact replayOrWrite_new fun _ => replayRegistration_within
  | connectToolProvider c =>
    cases h
    -- the command is checked before it is looked up
    obtain ⟨v, s', hdone, heq⟩ | ⟨e, heq⟩ := unrecorded_cases Answer.toolConnection
      (connectToolProvider env t c) s
    · rw [show (exec env t (.connectToolProvider c) s).2 = s' from congrArg Prod.snd heq]
      simp only [connectToolProvider, looks_done] at hdone
      obtain ⟨value, a, -, hreplay, -⟩ | ⟨hnew, -⟩ := replayOrWrite_done env hdone.2.2
      · have hsame : s = s' := replayConnection_within.done hreplay
        exact .inl hsame.symm
      · exact .inr hnew
    · exact .inl (congrArg Prod.snd heq)
  | publishArtifact | logicallyDeleteArtifact | recordPhysicalErasure =>
    cases h
    exact replayOrWrite_new fun _ => by simp
  | _ => cases h

/-! ### Where calls look -/

/-- The requests a call enters in the journal. -/
def Command.journals : Command → List (RequestId × RequestTable)
  | .reserveEffect c => [(c.context.requestId, .effectJournal)]
  | .transitionEffect c => [(c.context.requestId, .effectJournalMutations)]
  | .takeoverEffect c => [(c.context.requestId, .effectJournalMutations)]
  | .resolveAuthorizedEffect c => [(c.context.requestId, .effectJournalMutations)]
  | .reserveToolInvocation c => [(c.context.requestId, .effectJournal)]
  | .transitionToolInvocation c => [(c.context.requestId, .toolInvocationMutations)]
  | _ => []

/-- The requests a call enters, each in a table. -/
def Command.enters (env : Env) (c : Command) : List (RequestId × RequestTable) :=
  (c.identity? env).toList.map (fun i => (i.requestId, .requestLedger)) ++ c.files ++ c.journals

/-- The tables in which a call does not look for the request it enters. -/
def Command.overlooks : Command → RequestTable → Bool
  | .reserveEffect _, .toolInvocationMutations | .transitionEffect _, .toolInvocationMutations
  | .takeoverEffect _, .toolInvocationMutations
  | .resolveAuthorizedEffect _, .toolInvocationMutations
  | .recordRecoveryClassifications _, .toolInvocationMutations
  | .reserveToolInvocation _, .effectJournalMutations => true
  | _, _ => false

/-- A call has found a request free where it looks. -/
def Command.FindsFree (c : Command) (s : Store) (q : RequestId) : Prop :=
  ∀ table, s.records q table = true → c.overlooks table = true

/-- A request that is new to the ledger is in no table. -/
theorem Store.replayOf_none (h : s.replayOf i = .ok none) (table : RequestTable) :
    s.records i.requestId table = false := by
  obtain ⟨hrow, hfree⟩ := Store.replayOf_eq_none.mp h
  cases table <;> simp_all [Store.records, Store.requestJournaled, Store.journaled]

/-- The checks of the calls that change the journal. -/
theorem Command.FindsFree.of_checks (hglobal : s.requestRecorded q = false)
    (hrecovery : s.recoveries.find? q = none) (heffect : s.journal.effects.find? q = none)
    (hchange : s.journal.effectMutations.find? q = none ∨
      c.overlooks .effectJournalMutations = true)
    (htool : s.journal.toolMutations.find? q = none ∨
      c.overlooks .toolInvocationMutations = true) : c.FindsFree s q := by
  intro table htable
  cases table with
  | effectJournalMutations => exact hchange.resolve_left (Option.ne_none_iff_isSome.mpr htable)
  | toolInvocationMutations => exact htool.resolve_left (Option.ne_none_iff_isSome.mpr htable)
  | _ => simp_all [Store.records, Store.requestRecorded]

theorem Store.ChangeFree.findsFree {e : RequestId} (h : s.ChangeFree q e)
    (hmutation : s.journal.effectMutations.find? q = none)
    (hc : c.overlooks .toolInvocationMutations = true) : c.FindsFree s q :=
  .of_checks h.global h.recovery h.effect (.inl hmutation) (.inr hc)

/-! ### The journal -/

section Journal

variable {q : RequestId} {table : RequestTable} {j : Journal}
variable {effect : EffectJournalEntry}

/-- A row that is inserted is found under its own request only. -/
theorem isSome_insert_or {ρ : Type} [Keyed ρ RequestId] {r : ρ} {rows rows' : Table ρ}
    (h : rows.insert? r = some rows') :
    (rows'.find? q).isSome = (rows.find? q).isSome ∨ (q, table) = (Keyed.key r, table) := by
  obtain heq | rfl := Table.find?_insert_or h q
  · exact .inl (congrArg Option.isSome heq)
  · exact .inr rfl

/-- A call enters one request in one table of the journal, and has found it free. -/
theorem Store.records_journal {entered : RequestId × RequestTable}
    (heffects : (j.effects.find? q).isSome = (s.journal.effects.find? q).isSome ∨
      (q, .effectJournal) = entered)
    (hmutations : (j.effectMutations.find? q).isSome =
      (s.journal.effectMutations.find? q).isSome ∨ (q, .effectJournalMutations) = entered)
    (htools : (j.toolMutations.find? q).isSome = (s.journal.toolMutations.find? q).isSome ∨
      (q, .toolInvocationMutations) = entered)
    (hjournals : c.journals = [entered]) (hfree : c.FindsFree s entered.1) :
    ({ s with journal := j } : Store).records q table = s.records q table ∨
      (q, table) ∈ c.journals ∧ c.FindsFree s q := by
  have hrecords : ({ s with journal := j } : Store).records q table = s.records q table ∨
      (q, table) = entered := by
    cases table with
    | effectJournal => exact heffects
    | effectJournalMutations => exact hmutations
    | toolInvocationMutations => exact htools
    | _ => exact .inl rfl
  refine hrecords.imp_right ?_
  rintro rfl
  exact ⟨hjournals ▸ List.mem_singleton_self _, hfree⟩

theorem ResolveAuthorizedEffect.Leaves.frame {c : ResolveAuthorizedEffect} {revision : Revision}
    {j j' : Journal} (h : c.Leaves env s revision j j') :
    j' = { j with toolInvocations := j'.toolInvocations } := by
  obtain ⟨-, -, rfl⟩ | ⟨row, terminal, t, -, rfl⟩ := h <;> rfl

theorem TransitionToolInvocation.Admits.findsFree {c : TransitionToolInvocation}
    {r : SessionRecord} {current : ToolInvocationSnapshot}
    (h : c.Admits t s r current effect connection)
    (htool : s.journal.toolMutations.find? c.context.requestId = none) :
    (Command.transitionToolInvocation c).FindsFree s c.context.requestId := by
  have heffect := h.ofEffect
  simp only [Store.requestOfEffect, decide_eq_false_iff_not, not_or, Bool.not_eq_true,
    Option.isSome_eq_false_iff, Option.isNone_iff_eq_none] at heffect
  exact .of_checks h.global h.recovery heffect.1 (.inl heffect.2) (.inl htool)

/-- What a change of the journal enters, the call has found free. -/
theorem JournalChange.records {result : Result} (h : JournalChange env t s c result j)
    (q : RequestId) (table : RequestTable) :
    ({ s with journal := j } : Store).records q table = s.records q table ∨
      (q, table) ∈ c.journals ∧ c.FindsFree s q := by
  cases h with
  | same => exact .inl rfl
  | effectReserved hmade =>
    exact Store.records_journal (isSome_insert_or hmade.inserted) (.inl rfl) (.inl rfl) rfl
      (.of_checks hmade.free.global hmade.free.recovery (Table.insert?_fresh hmade.inserted)
        (.inl hmade.free.mutation) (.inr rfl))
  | @effectLapsed c r e revision hmade =>
    cases table with
    | effectJournal => exact .inl (Journal.isSome_withEffect _ _ _)
    | _ => exact .inl rfl
  | effectMoved hmade hrecorded =>
    exact Store.records_journal (.inl (Journal.isSome_withEffect _ _ _))
      (isSome_insert_or hrecorded) (.inl rfl) rfl
      (hmade.free.findsFree (Table.insert?_fresh hrecorded) rfl)
  | effectTaken hmade hrecorded =>
    exact Store.records_journal (.inl (Journal.isSome_withEffect _ _ _))
      (isSome_insert_or hrecorded) (.inl rfl) rfl
      (hmade.free.findsFree (Table.insert?_fresh hrecorded) rfl)
  | effectResolved hfree howner hgrounds hleaves hrecorded =>
    rw [hleaves.frame]
    exact Store.records_journal (.inl (Journal.isSome_withEffect _ _ _))
      (isSome_insert_or hrecorded) (.inl rfl) rfl
      (hfree.findsFree (Table.insert?_fresh hrecorded) rfl)
  | toolRegistered | toolConnected => cases table <;> exact .inl rfl
  | toolReserved hmade hdispatched =>
    exact Store.records_journal (isSome_insert_or hdispatched.inserted) (.inl rfl) (.inl rfl) rfl
      (.of_checks hmade.global hmade.recovery (Table.insert?_fresh hdispatched.inserted)
        (.inr rfl) (.inl hmade.mutation))
  | toolAnswered hadmitted hsettled hagrees hrecorded =>
    exact Store.records_journal (.inl rfl) (.inl rfl) (isSome_insert_or hrecorded) rfl
      (hadmitted.findsFree (Table.insert?_fresh hrecorded))
  | toolMoved hadmitted hmoves hrecorded =>
    refine Store.records_journal (.inl ((Journal.isSome_withEffect _ _ _).trans
      (by rw [TransitionToolInvocation.sequenced_effects]))) (.inl ?_)
      (isSome_insert_or hrecorded) rfl (hadmitted.findsFree (Table.insert?_fresh hrecorded))
    change ((TransitionToolInvocation.sequenced _ _ _).effectMutations.find? _).isSome = _
    unfold TransitionToolInvocation.sequenced
    split <;> rfl

end Journal

/-! ### Approvals -/

/-- A request that is new to the ledger of approvals is in no table. -/
theorem approvalReplay_none (h : approvalReplay env d s = .ok none) (table : RequestTable) :
    s.records d.context.requestId table = false := by
  unfold approvalReplay at h
  cases hrow : s.approvalMutations.find? d.context.requestId with
  | some row =>
    simp only [hrow] at h
    split at h <;> cases h
  | none =>
    simp only [hrow] at h
    split at h
    · cases h
    · next hfree => cases table <;> simp_all [Store.records, Store.journaled]

/-- An approval mutation that is not new changes nothing. -/
theorem approvalMutation_new {α : Type} {wrap : α → Answer} {decode : ApprovalResult → Option α}
    {body : Timestamp → Call α} :
    (unledgered wrap (approvalMutation env t d decode body) s).2 = s ∨
      ∀ table, s.records d.context.requestId table = false := by
  change (settleUnrecorded (approvalMutation env t d decode body) s).2 = s ∨ _
  unfold settleUnrecorded
  rw [approvalMutation_eq]
  rcases hreplay : approvalReplay env d s with e | found
  · exact .inl rfl
  obtain _ | result := found
  · exact .inr (approvalReplay_none hreplay)
  dsimp only
  cases decode result with
  | none => exact .inl rfl
  | some a => exact .inl rfl

/-- The deeds that file nothing. -/
def Label.Unfiled (l : Label) : Prop := ∀ q table, l ≠ .filed q table

theorem tolerant_unfiled : Tolerant (fun _ => True) fun _ l => l.Unfiled where
  aside _ _ _ := by simp
  session _ _ _ := by simp
  people _ _ _ := by simp
  recorded _ _ _ _ _ := by simp

/-- The effect of a grant that is consumed has an identity of its own. -/
theorem consumeApprovalGrant_new {d : ConsumeApprovalGrant}
    {wrap : ApprovalGrant × ApprovalEffectIntent → Answer} :
    ((unledgered wrap (consumeApprovalGrant env t d) s).2.approvalEffects.find? d.effectId).isSome =
        (s.approvalEffects.find? d.effectId).isSome ∨
      d.context.requestId ≠ d.effectId ∧ ∀ table, s.records d.effectId table = false := by
  change ((settleUnrecorded (consumeApprovalGrant env t d) s).2.approvalEffects.find? _).isSome =
    _ ∨ _
  unfold settleUnrecorded
  cases hrun : consumeApprovalGrant env t d s with
  | aborted e => exact .inl rfl
  | refused r s' =>
    have hrefuses : RefusesWithin (Path env fun _ l => l.Unfiled)
        (consumeApprovalGrant env t d) := by
      refine approvalMutation_refuses tolerant_unfiled fun now => ?_
      iterate 9 refine .bind (by simp) fun _ => ?_
      simp
    have hfiles : Files [] s s' := (hrefuses s r s' hrun).within (Files.refl _) Files.trans
      fun _ _ _ hl hd => hd.files fun q table hq => absurd hq (hl q table)
    exact .inl (hfiles.effects _ List.not_mem_nil)
  | done v s' =>
    obtain rfl | ⟨r, a, -, hbody⟩ := approvalMutation_done hrun
    · exact .inl rfl
    simp only [looks_done] at hbody
    obtain ⟨g, -, r', -, -, -, havailable, -⟩ := hbody
    have hfree : effectIdentityAvailable d.context.requestId d.effectId s = true := havailable
    simp only [effectIdentityAvailable, Bool.and_eq_true, decide_eq_true_eq] at hfree
    refine .inr ⟨hfree.1.1, fun table => ?_⟩
    obtain ⟨⟨-, hledger⟩, hjournaled⟩ := hfree
    cases table <;> simp_all [Store.records, Store.requestJournaled, Store.journaled]

/-! ### Recoveries -/

/-- A batch that is entered has been looked for, except among the transitions of tools. -/
theorem recordRecoveryClassifications_new {d : RecordRecoveryClassifications}
    {wrap : Unit → Answer} :
    (unrecorded wrap (recordRecoveryClassifications env t d) s).2.recoveries.find?
        d.context.requestId = s.recoveries.find? d.context.requestId ∨
      (Command.recordRecoveryClassifications d).FindsFree s d.context.requestId := by
  obtain ⟨v, s', hdone, heq⟩ | ⟨e, heq⟩ :=
    unrecorded_cases wrap (recordRecoveryClassifications env t d) s <;> rw [heq]
  · simp only [recordRecoveryClassifications, looks_done, advanceTimeFloor_bind_done] at hdone
    obtain ⟨-, hglobal, heffect, row, hrow, -, -, h⟩ := hdone
    simp only [Store.requestOfEffect, decide_eq_false_iff_not, not_or, Bool.not_eq_true,
      Option.isSome_eq_false_iff, Option.isNone_iff_eq_none] at heffect
    rcases hfound : s.recoveries.find? d.context.requestId with _ | existing
    · exact .inr (.of_checks hglobal hfound heffect.1 (.inl heffect.2) (.inr rfl))
    simp only [Store.withFloor, hfound, looks_done] at h
    obtain ⟨-, -, rfl⟩ := h
    exact .inl hfound
  · exact .inl rfl

/-! ### Calls -/

/-- A request that is in no table is free for every call. -/
theorem Command.findsFree_of_new (h : s' = s ∨ ∀ table, s.records q table = false)
    (table : RequestTable) : s'.records q table = s.records q table ∨ c.FindsFree s q := by
  obtain rfl | hfree := h
  · exact .inl rfl
  · exact .inr fun table htable => absurd htable (by simp [hfree])

/-- What a call files, it has found free. -/
theorem exec_filed (h : (q, table) ∈ c.files) :
    (exec env t c s).2.records q table = s.records q table ∨ c.FindsFree s q := by
  cases c with
  | requestApproval | approveRequest | denyRequest | expireApproval | revokeApprovalGrant
  | finishApprovalEffect =>
    obtain ⟨rfl, rfl⟩ := Prod.mk.inj (List.mem_singleton.mp h)
    exact Command.findsFree_of_new approvalMutation_new _
  | consumeApprovalGrant c =>
    obtain h | h := List.mem_cons.mp h
    · obtain ⟨rfl, rfl⟩ := Prod.mk.inj h
      exact Command.findsFree_of_new approvalMutation_new _
    · obtain ⟨rfl, rfl⟩ := Prod.mk.inj (List.mem_singleton.mp h)
      refine consumeApprovalGrant_new.imp_right fun hfree table htable => ?_
      exact absurd htable (by simp [hfree.2])
  | recordRecoveryClassifications c =>
    obtain ⟨rfl, rfl⟩ := Prod.mk.inj (List.mem_singleton.mp h)
    exact recordRecoveryClassifications_new.imp_left (congrArg Option.isSome)
  | _ => cases h

/-- **What a call enters**, it names, and it has found free where it looks. -/
theorem exec_records (hs : Sound s) (t : Timestamp) (c : Command) (q : RequestId)
    (table : RequestTable) :
    (exec env t c s).2.records q table = s.records q table ∨
      (q, table) ∈ c.enters env ∧ c.FindsFree s q := by
  have hfiles : Files c.files s (exec env t c s).2 :=
    (exec_path hs t c).within (Files.refl _) Files.trans fun _ _ _ hl hd =>
      hd.files fun _ _ hq => by subst hq; exact hl
  have hjournal : JournalChange env t s c _ _ := exec_journal hs t c
  have hfiled : ∀ table, (exec env t c s).2.records q table = s.records q table ∨
      (q, table) ∈ c.files → (exec env t c s).2.records q table = s.records q table ∨
      (q, table) ∈ c.enters env ∧ c.FindsFree s q := by
    rintro table (hsame | hmem)
    · exact .inl hsame
    · exact (exec_filed hmem).imp_right fun hfree => ⟨by simp [Command.enters, hmem], hfree⟩
  have hentered : ({ s with journal := (exec env t c s).2.journal } : Store).records q table =
      s.records q table ∨ (q, table) ∈ c.enters env ∧ c.FindsFree s q :=
    (hjournal.records q table).imp_right fun h => ⟨by simp [Command.enters, h.1], h.2⟩
  cases table with
  | effectJournal | effectJournalMutations | toolInvocationMutations => exact hentered
  | approvalEffectIntents =>
    exact hfiled _ (or_iff_not_imp_right.mpr fun h => hfiles.effects q h)
  | approvalMutations =>
    exact hfiled _ (or_iff_not_imp_right.mpr fun h =>
      congrArg Option.isSome (hfiles.mutations q h))
  | recoveryClassifications =>
    exact hfiled _ (or_iff_not_imp_right.mpr fun h =>
      congrArg Option.isSome (hfiles.recovered q h))
  | requestLedger =>
    obtain hsame | ⟨row, hrow, hinsert⟩ : (exec env t c s).2.ledger = s.ledger ∨ _ :=
      exec_ledger hs t c
    · exact .inl (by simp only [Store.records, hsame])
    obtain heq | rfl := Table.find?_insert_or hinsert q
    · exact .inl (congrArg Option.isSome heq)
    have hmem : (row.requestId, RequestTable.requestLedger) ∈ c.enters env := by
      simp [Command.enters, hrow, LedgerRow.identity]
    refine (Command.findsFree_of_new ?_ _).imp_right fun hfree => ⟨hmem, hfree⟩
    exact (exec_new hrow).imp_right fun hnew => Store.replayOf_none hnew

/-- A call enters a request in one table. -/
theorem exec_enters_once (hs : Sound s) {table' : RequestTable}
    (h : (exec env t c s).2.records q table ≠ s.records q table)
    (h' : (exec env t c s).2.records q table' ≠ s.records q table') : table = table' := by
  obtain ⟨hmem, -⟩ := (exec_records hs t c q table).resolve_left h
  obtain ⟨hmem', -⟩ := (exec_records hs t c q table').resolve_left h'
  cases c with
  | consumeApprovalGrant c =>
    -- the two requests of this call differ if both are entered
    have hdistinct : (exec env t (.consumeApprovalGrant c) s).2.records c.effectId
        .approvalEffectIntents = s.records c.effectId .approvalEffectIntents ∨
        c.context.requestId ≠ c.effectId := consumeApprovalGrant_new.imp_right And.left
    simp only [Command.enters, Command.identity?, Command.files, Command.journals,
      Option.toList_none, List.map_nil, List.nil_append, List.append_nil, List.mem_cons,
      List.not_mem_nil, or_false, Prod.mk.injEq] at hmem hmem'
    obtain ⟨rfl, rfl⟩ | ⟨rfl, rfl⟩ := hmem <;> obtain ⟨hq, rfl⟩ | ⟨hq, rfl⟩ := hmem'
    · rfl
    · exact absurd hq (hdistinct.resolve_left (hq ▸ h'))
    · exact absurd hq.symm (hdistinct.resolve_left h)
    · rfl
  | _ => simp_all [Command.enters, Command.identity?, Command.files, Command.journals]

end Navigator
