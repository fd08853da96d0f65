/-
What a call does to the journal.

The tables of effects and tools are changed by eight calls, each in one transaction that
also publishes events, uses up a grant or lets time pass.  `JournalChange` says what each of
them does to those tables, what it has checked before, and what it answers; everything that
is proved about effects and tools is proved from it.

* **`JournalChange`** — the changes;
* **`exec_journal`** — every call makes one of them.
-/
import Navigator.Deeds.Steps

namespace Navigator

open Txn Tx

variable {env : Env} {s s' : Store} {t : Timestamp}
variable {v : Mutation EffectJournalEntry}

/-! ### The changes -/

/-- What a call does to the journal, and its answer. -/
inductive JournalChange (env : Env) (t : Timestamp) (s : Store) : Command → Result → Journal → Prop
  /-- Nothing: another call, a replay or a failure. -/
  | same {c : Command} {result : Result}
      (idle : c.isJournal = true → ∀ a, result ≠ .ok (.applied a)) :
      JournalChange env t s c result s.journal
  | effectReserved {c : ReserveEffect} {r : SessionRecord} {leaseExpiresAt : Timestamp}
      {effects : Table EffectJournalEntry} (made : c.Reserves t s r leaseExpiresAt effects) :
      JournalChange env t s (.reserveEffect c)
        (.ok (.applied (.effectEntry (c.entry leaseExpiresAt)))) { s.journal with effects }
  | effectLapsed {c : ReserveEffect} {r : SessionRecord} {e : EffectJournalEntry}
      {revision : Revision} (made : c.Lapses t s r e revision) :
      JournalChange env t s (.reserveEffect c) (.ok (.applied (.effectEntry (e.lapsed revision))))
        (s.journal.withEffect (e.lapsed revision))
  | effectMoved {c : EffectTransition} {r : SessionRecord} {e : EffectJournalEntry}
      {phase : EffectJournalPhase} {terminal : Option EffectTerminal} {revision : Revision}
      {effectMutations : Table EffectMutationRow}
      (made : c.Makes t s r e phase terminal revision)
      (recorded : s.journal.effectMutations.insert? ⟨c.context.requestId, c.effectRequestId,
        c.context.caller, c.semanticDigest env, .entry (e.movedTo phase terminal revision)⟩ =
          some effectMutations) :
      JournalChange env t s (.transitionEffect c)
        (.ok (.applied (.effectEntry (e.movedTo phase terminal revision))))
        (s.journal.changed (e.movedTo phase terminal revision) effectMutations)
  | effectTaken {c : TakeoverEffect} {r : SessionRecord} {e e' : EffectJournalEntry}
      {effectMutations : Table EffectMutationRow} (made : c.Takes t s r e e')
      (recorded : s.journal.effectMutations.insert? ⟨c.context.requestId, c.effectRequestId,
        c.context.caller, c.semanticDigest, .entry e'⟩ = some effectMutations) :
      JournalChange env t s (.takeoverEffect c) (.ok (.applied (.effectEntry e')))
        (s.journal.changed e' effectMutations)
  | effectResolved {c : ResolveAuthorizedEffect} {r : SessionRecord} {e : EffectJournalEntry}
      {g : GrantSnapshot} {v : AuthorizedEffectResolution} {j : Journal}
      {effectMutations : Table EffectMutationRow}
      (free : s.ChangeFree c.context.requestId c.effectRequestId)
      (owner : s.Authorized c.sessionId c.context.caller c.ownerEpoch t r)
      (grounds : c.Grounds s (max r.timeFloor t) e g v)
      (leaves : c.Leaves env s v.effectEntry.revision (s.journal.withEffect v.effectEntry) j)
      (recorded : s.journal.effectMutations.insert? ⟨c.context.requestId, c.effectRequestId,
        c.context.caller, c.digest env, .resolution v⟩ = some effectMutations) :
      JournalChange env t s (.resolveAuthorizedEffect c) (.ok (.applied (.resolution v)))
        { j with effectMutations }
  | toolRegistered {c : RegisterTool} {r : SessionRecord}
      {toolRegistrations : Table ToolRegistrationSnapshot}
      (made : c.Registers t s r toolRegistrations) :
      JournalChange env t s (.registerTool c)
        (.ok (.applied (.toolRegistration (c.snapshot (max r.timeFloor t)))))
        { s.journal with toolRegistrations }
  | toolConnected {c : ConnectToolProvider} {r : SessionRecord} {generation next priorAck : ℕ}
      (made : c.Connects t s r generation next priorAck) :
      JournalChange env t s (.connectToolProvider c) (.ok (.applied (.toolConnection (c.snapshot
          (ToolRegistrationId.sorted c.registrationIds) generation next (max r.timeFloor t)))))
        (s.journal.connected (c.snapshot
          (ToolRegistrationId.sorted c.registrationIds) generation next (max r.timeFloor t)))
  | toolReserved {c : ReserveToolInvocation} {r : SessionRecord}
      {registration : ToolRegistrationSnapshot} {connection : ToolProviderConnectionSnapshot}
      {leaseExpiresAt : Timestamp} {snapshot : ToolInvocationSnapshot}
      {effects : Table EffectJournalEntry} {toolInvocations : Table ToolInvocationRow}
      (made : c.Reserves env t s r registration connection)
      (dispatched : c.Dispatches env s (max r.timeFloor t) registration connection leaseExpiresAt
        snapshot effects toolInvocations) :
      JournalChange env t s (.reserveToolInvocation c) (.ok (.applied (.toolInvocation snapshot)))
        { s.journal.advanced connection with effects, toolInvocations }
  | toolAnswered {c : TransitionToolInvocation} {r : SessionRecord}
      {current : ToolInvocationSnapshot} {effect : EffectJournalEntry}
      {connection : ToolProviderConnectionSnapshot} {toolMutations : Table ToolMutationRow}
      (admitted : c.Admits t s r current effect connection)
      (settled : current.phase.isSettled = true)
      (agrees : c.transition.terminal? = current.terminal)
      (recorded : s.journal.toolMutations.insert? ⟨c.context.requestId, c.invocationId,
        c.context.caller, MutableRequest.digest env c, current⟩ = some toolMutations) :
      JournalChange env t s (.transitionToolInvocation c)
        (.ok (.unchanged (.toolInvocation current))) { s.journal with toolMutations }
  | toolMoved {c : TransitionToolInvocation} {r : SessionRecord}
      {current updated : ToolInvocationSnapshot} {effect : EffectJournalEntry}
      {connection : ToolProviderConnectionSnapshot} {step : ToolStep} {revision : Revision}
      {toolMutations : Table ToolMutationRow}
      (admitted : c.Admits t s r current effect connection)
      (moves : c.Moves env s current effect connection step revision updated)
      (recorded : s.journal.toolMutations.insert? ⟨c.context.requestId, c.invocationId,
        c.context.caller, MutableRequest.digest env c, updated⟩ = some toolMutations) :
      JournalChange env t s (.transitionToolInvocation c) (.ok (.applied (.toolInvocation updated)))
        (c.journal s.journal effect connection step updated toolMutations)

/-! ### Calls -/

/-- A call whose failures leave no trace ran its body to the end, or has done nothing. -/
theorem unrecorded_cases {α : Type} (wrap : α → Answer) (body : Write (Mutation α)) (s : Store) :
    (∃ v s', body s = .done v s' ∧ unrecorded wrap body s = (.ok (v.map wrap), s')) ∨
    ∃ e, unrecorded wrap body s = (.error e, s) := by
  unfold unrecorded unledgered settleUnrecorded
  cases hbody : body s with
  | done v s' => exact .inl ⟨v, s', rfl, by simp [commit, hbody, Except.map]⟩
  | aborted e => exact .inr ⟨e, by simp [commit, hbody, Except.map]⟩
  | refused r => exact r.elim

/-- The other calls leave the journal alone. -/
theorem exec_journal_eq (hs : Sound s) {c : Command} (hc : c.isJournal = false) :
    (exec env t c s).2.journal = s.journal := by
  refine (exec_path hs t c).keeps (I := fun s1 => s1.journal = s.journal)
    (fun s1 s2 l hl hd h => ?_) rfl
  refine (hd.frame.journal.resolve_left fun hj => ?_).trans h
  subst hj
  rw [show c.isJournal = true from hl] at hc
  cases hc

theorem journalChange_of_done {α : Type} {c : Command} {wrap : α → Answer}
    {body : Write (Mutation α)} (hexec : exec env t c = unrecorded wrap body)
    (h : ∀ v s', body s = .done v s' → JournalChange env t s c (.ok (v.map wrap)) s'.journal) :
    JournalChange env t s c (exec env t c s).1 (exec env t c s).2.journal := by
  rw [hexec]
  obtain ⟨v, s', hdone, heq⟩ | ⟨e, heq⟩ := unrecorded_cases wrap body s
  · rw [heq]
    exact h v s' hdone
  · rw [heq]
    exact .same (by simp)

/-- A reservation that is done finds its effect, or makes it, or finds it lapsed. -/
theorem reserveEffect_change {c : ReserveEffect} (h : reserveEffect env t c s = .done v s') :
    JournalChange env t s (.reserveEffect c) (.ok (v.map .effectEntry)) s'.journal := by
  simp only [reserveEffect, looks_done, rejectGlobalRequestCollision_bind_done,
    rejectRecoveryRequestCollision_bind_done] at h
  obtain ⟨hvalid, -, hglobal, hrecovery, hmutation, h⟩ := h
  obtain ⟨row, r, hr, -, h⟩ := authorizeOwner_bind_done h
  simp only [looks_done] at h
  obtain ⟨_, hp, p, rfl, _, ho, o, rfl, hworks, found, hfound, h⟩ := h
  have hfree : s.ReservationFree c.context.requestId := ⟨hglobal, hrecovery, hmutation⟩
  cases found with
  | none =>
    simp only [reserveNew, looks_done] at h
    obtain ⟨lease, hlease, h⟩ := h
    obtain ⟨_, s2, hinsert, h⟩ := bind_done.mp h
    cases h
    obtain ⟨effects, hinserted, -, rfl⟩ := insertEffect_done hinsert
    exact .effectReserved ⟨hr, hfree, hvalid, ⟨p, o, hp, ho, hworks⟩, hlease, hinserted⟩
  | some e =>
    obtain ⟨hfound, hdecodes, -⟩ := loadEffect_ok_some hfound
    simp only [reserveAgain, looks_done] at h
    obtain ⟨hasks, h⟩ := h
    split at h
    · next hlapsed =>
      simp only [looks_done] at h
      obtain ⟨revision, hnext, h⟩ := h
      obtain ⟨_, s2, hupdate, h⟩ := bind_done.mp h
      cases h
      have hid := EffectJournalEntry.requestId_of_found hfound
      obtain ⟨-, rfl⟩ :=
        (updateEffect_done (by rw [← hid] at hfound; exact hfound) hnext).mp hupdate
      exact .effectLapsed ⟨hr, hfree, hfound, hdecodes, hasks, hlapsed.1, hlapsed.2, hnext⟩
    · cases h
      exact .same (by simp [Mutation.map])

theorem transitionEffect_change {c : EffectTransition}
    (h : transitionEffect env t c s = .done v s') :
    JournalChange env t s (.transitionEffect c) (.ok (v.map .effectEntry)) s'.journal := by
  obtain ⟨hfree, ⟨row, a, -, -, -, -, hreplay, rfl⟩ | ⟨a, s1, rows, -, hbody, hinsert, rfl, rfl⟩⟩ :=
    effectMutation_done h
  · obtain ⟨-, rfl⟩ := orAbort_done.mp hreplay
    exact .same (by simp [Mutation.map])
  simp only [looks_done] at hbody
  obtain ⟨_, he, e, rfl, hbody⟩ := hbody
  obtain ⟨hfound, hvalid, -⟩ := loadEffect_ok_some he
  obtain ⟨row, r, hr, -, hbody⟩ := authorizeOwner_bind_done hbody
  simp only [looks_done] at hbody
  obtain ⟨⟨hhost, hepoch, hrevision⟩, ⟨phase, terminal⟩, hleads, revision, hnext, hbody⟩ := hbody
  obtain ⟨_, s3, hupdate, hbody⟩ := bind_done.mp hbody
  cases hbody
  have hid := EffectJournalEntry.requestId_of_found hfound
  obtain ⟨-, rfl⟩ := (updateEffect_done (by rw [← hid] at hfound; exact hfound) hnext).mp hupdate
  exact .effectMoved ⟨hr, hfree, hfound, hvalid, ⟨hhost, hepoch⟩, hrevision, hleads, hnext⟩
    hinsert

theorem takeoverEffect_change {c : TakeoverEffect} (h : takeoverEffect env t c s = .done v s') :
    JournalChange env t s (.takeoverEffect c) (.ok (v.map .effectEntry)) s'.journal := by
  simp only [takeoverEffect, looks_done] at h
  obtain ⟨-, h⟩ := h
  obtain ⟨hfree, ⟨row, a, -, -, -, -, hreplay, rfl⟩ | ⟨a, s1, rows, -, hbody, hinsert, rfl, rfl⟩⟩ :=
    effectMutation_done h
  · obtain ⟨-, rfl⟩ := orAbort_done.mp hreplay
    exact .same (by simp [Mutation.map])
  simp only [looks_done] at hbody
  obtain ⟨_, he, e, rfl, hbody⟩ := hbody
  obtain ⟨hfound, hvalid, -⟩ := loadEffect_ok_some he
  obtain ⟨row, r, hr, -, hbody⟩ := authorizeOwner_bind_done hbody
  simp only [looks_done] at hbody
  obtain ⟨⟨hended, hrevision, hphase⟩, e1, htaken, revision, hnext, hbody⟩ := hbody
  obtain ⟨_, s3, hupdate, hbody⟩ := bind_done.mp hbody
  cases hbody
  have hid := (TakeoverEffect.taken_requestId htaken).trans
    (EffectJournalEntry.requestId_of_found hfound)
  obtain ⟨-, rfl⟩ := (updateEffect_done (by rw [← hid] at hfound; exact hfound) hnext).mp hupdate
  exact .effectTaken ⟨hr, hfree, hfound, hvalid, hended, hrevision, hphase, ⟨e1, htaken, rfl⟩,
    hnext⟩ hinsert

theorem resolveAuthorizedEffect_change {c : ResolveAuthorizedEffect}
    {v : Mutation AuthorizedEffectResolution}
    (h : resolveAuthorizedEffect env t c s = .done v s') :
    JournalChange env t s (.resolveAuthorizedEffect c) (.ok (v.map .resolution)) s'.journal := by
  obtain ⟨hfree, ⟨row, a, -, -, -, -, hreplay, rfl⟩ | ⟨a, s1, rows, -, hbody, hinsert, rfl, rfl⟩⟩ :=
    effectMutation_done h
  · have heq : s = s' := Within.done hreplay (.bind (by simp) fun _ => by simp)
    exact heq ▸ .same (by simp [Mutation.map])
  obtain ⟨r, e, g, s2, hr, hgrounds, htool, s3, hconsume, hevent⟩ := resolveNew_done hbody
  have hjournal : s1.journal = s2.journal := by
    rw [appendEventData_journal hevent, consumeGrant_done hconsume]
  have hleaves : c.Leaves env s a.effectEntry.revision (s.journal.withEffect a.effectEntry)
      s2.journal := by
    obtain ⟨hnone, hterminal, rfl⟩ | ⟨row, terminal, t, hends, rfl⟩ := resolveTool_done htool
    · exact .inl ⟨hnone, hterminal, rfl⟩
    · exact .inr ⟨row, terminal, t, ⟨hends.found, hends.uncertain, hends.same, hends.ended⟩,
        rfl⟩
  have hmutations : s2.journal.effectMutations = s.journal.effectMutations := by
    obtain ⟨-, -, heq⟩ | ⟨_, _, _, -, heq⟩ := hleaves <;> rw [heq] <;> rfl
  rw [hjournal] at hinsert ⊢
  rw [hmutations] at hinsert
  exact .effectResolved hfree hr hgrounds hleaves hinsert

theorem registerTool_change {c : RegisterTool} {v : Mutation ToolRegistrationSnapshot}
    (h : registerTool env t c s = .done v s') :
    JournalChange env t s (.registerTool c) (.ok (v.map .toolRegistration)) s'.journal := by
  obtain ⟨value, a, -, hreplay, rfl⟩ | ⟨-, h⟩ := replayOrWrite_done env h
  · have heq : s = s' := Within.done hreplay (by simp)
    exact heq ▸ .same (by simp [Mutation.map])
  obtain ⟨row, r, hr, hdecodes, h⟩ := authorizeOwner_bind_done h
  simp only [looks_done] at h
  obtain ⟨hconsumer, halias, h⟩ := h
  simp only [Store.withFloor_journal] at h
  cases hexisting : s.journal.toolRegistrations.find?
      (c.sessionId, c.definition.name, c.definition.version) with
  | some existing =>
    simp only [hexisting, looks_done] at h
    obtain ⟨_, s2, hrecord, h⟩ := bind_done.mp h.2
    cases h
    rw [record_journal env hrecord]
    exact .same (by simp [Mutation.map])
  | none =>
    simp only [hexisting, looks_done] at h
    obtain ⟨-, rows, hinsert, h⟩ := h
    obtain ⟨_, s2, hevent, h⟩ := bind_done.mp h
    obtain ⟨_, s3, hrecord, h⟩ := bind_done.mp h
    cases h
    rw [record_journal env hrecord, appendEventData_journal hevent]
    refine .toolRegistered ⟨hr, hdecodes.consumer.symm.trans hconsumer, ?_, hinsert⟩
    intro x hx hid
    obtain ⟨y, hy⟩ : ∃ y, s.registrationOf c.registrationId = some y :=
      Option.isSome_iff_exists.mp (List.find?_isSome.mpr ⟨x, hx, by simpa using hid⟩)
    have hkey : Keyed.key y = (c.sessionId, c.definition.name, c.definition.version) := by
      change Option.all _ (s.registrationOf c.registrationId) = true at halias
      simpa [hy, and_assoc, Keyed.key] using halias
    have hmem : y ∈ s.journal.toolRegistrations := List.mem_of_find?_eq_some hy
    have hfound := Table.find?_of_mem hmem
    rw [hkey] at hfound
    cases hfound.symm.trans hexisting

theorem connectToolProvider_change {c : ConnectToolProvider}
    {v : Mutation ToolProviderConnectionSnapshot}
    (h : connectToolProvider env t c s = .done v s') :
    JournalChange env t s (.connectToolProvider c) (.ok (v.map .toolConnection)) s'.journal := by
  simp only [connectToolProvider, looks_done] at h
  obtain ⟨-, -, h⟩ := h
  obtain ⟨value, a, -, hreplay, rfl⟩ | ⟨-, h⟩ := replayOrWrite_done env h
  · have heq : s = s' := Within.done hreplay (by simp)
    exact heq ▸ .same (by simp [Mutation.map])
  obtain ⟨row, r, hr, hdecodes, h⟩ := authorizeOwner_bind_done h
  simp only [looks_done] at h
  obtain ⟨hconsumer, hregistered, halone, ⟨generation, next, ack⟩, hprior, hack, hsettled, -,
    h⟩ := h
  obtain ⟨_, s2, hrebind, h⟩ := bind_done.mp h
  simp only [rebindPending, looks_done] at hrebind
  obtain ⟨hpending, rfl⟩ := hrebind
  simp only [looks_done] at h
  obtain ⟨revision, -, h⟩ := h
  obtain ⟨_, s3, hevent, h⟩ := bind_done.mp h
  obtain ⟨_, s4, hrecord, h⟩ := bind_done.mp h
  cases h
  rw [hdecodes.consumer] at hconsumer hregistered
  rw [record_journal env hrecord, appendEventData_journal hevent]
  exact .toolConnected ⟨hr, hconsumer, hregistered, halone, hprior, hack, hsettled, hpending⟩

theorem reserveToolInvocation_change {c : ReserveToolInvocation}
    {v : Mutation ToolInvocationSnapshot} (h : reserveToolInvocation env t c s = .done v s') :
    JournalChange env t s (.reserveToolInvocation c) (.ok (v.map .toolInvocation)) s'.journal := by
  simp only [reserveToolInvocation, looks_done, rejectGlobalRequestCollision_bind_done,
    rejectRecoveryRequestCollision_bind_done] at h
  obtain ⟨⟨hnamed, -⟩, hglobal, hrecovery, hmutation, -, found, -, h⟩ := h
  cases found with
  | some existing =>
    simp only [reserveToolAgain, looks_done] at h
    obtain ⟨_, -, _, -, -, rfl, rfl⟩ := h
    exact .same (by simp [Mutation.map])
  | none =>
    obtain ⟨row, r, hr, -, h⟩ := authorizeOwner_bind_done h
    simp only [looks_done] at h
    obtain ⟨_, hregistration, registration, rfl, hsame, -, connection, hconnection, hserved, -,
      h⟩ := h
    obtain ⟨a, s2, hdispatch, h⟩ := bind_done.mp h
    cases h
    obtain ⟨lease, effects, tools, hdispatches, hjournal⟩ := dispatchTool_done hdispatch
    rw [hjournal]
    exact .toolReserved ⟨hnamed, hglobal, hrecovery, hmutation, hr,
      (loadToolRegistration_ok_some hregistration :), hsame, hconnection, hserved⟩
      ⟨hdispatches.room, hdispatches.works, hdispatches.decided, hdispatches.inserted,
        hdispatches.made, hdispatches.unique, hdispatches.invoked⟩

/-- **Every call makes one of the changes.** -/
theorem exec_journal (hs : Sound s) (t : Timestamp) (c : Command) :
    JournalChange env t s c (exec env t c s).1 (exec env t c s).2.journal := by
  cases c with
  | reserveEffect c => exact journalChange_of_done rfl fun _ _ => reserveEffect_change
  | transitionEffect c => exact journalChange_of_done rfl fun _ _ => transitionEffect_change
  | takeoverEffect c => exact journalChange_of_done rfl fun _ _ => takeoverEffect_change
  | resolveAuthorizedEffect c =>
    exact journalChange_of_done rfl fun _ _ => resolveAuthorizedEffect_change
  | registerTool c => exact journalChange_of_done rfl fun _ _ => registerTool_change
  | connectToolProvider c => exact journalChange_of_done rfl fun _ _ => connectToolProvider_change
  | reserveToolInvocation c =>
    exact journalChange_of_done rfl fun _ _ => reserveToolInvocation_change
  | transitionToolInvocation c =>
    refine journalChange_of_done rfl fun v s' h => ?_
    obtain ⟨a, rfl, -, hj⟩ | ⟨r, current, effect, connection, rows, hadmitted, -,
      ⟨hsettled, hagrees, rfl, hrecorded, hj⟩ |
      ⟨step, revision, updated, hmoves, rfl, hrecorded, hj⟩⟩ :=
        transitionToolInvocation_done h <;> rw [hj]
    · exact .same (by simp [Mutation.map])
    · exact .toolAnswered hadmitted hsettled hagrees hrecorded
    · exact .toolMoved hadmitted hmoves hrecorded
  | _ =>
    rw [exec_journal_eq hs rfl]
    exact .same nofun

end Navigator
