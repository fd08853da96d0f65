/-
What one call does to a row.

A call changes only what was there when it began, and a changed row has a new revision; so
it changes no message and no operation twice, and what it adds it leaves as it was added.

* **`Step.messages`** — of the messages;
* **`Step.operations`** — of the operations.
-/
import Navigator.Deeds.Steps

namespace Navigator

variable {env : Env} {s₀ s s' : Store}
variable {t : Timestamp}

/-! ### Messages -/

/-- A message that one call on `s₀` has moved or finished. -/
structure MessageRow.Changes (s₀ : Store) (r r' : MessageRow) : Prop where
  columns : r' = { r with snapshot := r'.snapshot }
  touched : r.snapshot.Touched r'.snapshot
  delivery : (∃ k now, Moves now k r.snapshot r'.snapshot ∧ (k = .attempt → s₀.Clear r now)) ∨
    Finishes r.snapshot r'.snapshot

/-- The messages after a part of a call on `s₀`. -/
abbrev MessagesOnce (s₀ s : Store) : Prop :=
  s₀.messages.Once (MessageRow.Changes s₀)
    (fun r => r.snapshot.attemptCount = 0 ∧ r.snapshot.state = .queued) s.messages

/-- A row that is touched for the first time. -/
theorem MessagesOnce.touch {r : MessageRow} {m' : MessageSnapshot} (h : MessagesOnce s₀ s)
    (hs0 : Sound s₀) (hs : Sound s) (hr : s.messages.find? r.messageId = some r)
    (hbefore : ∃ r0 ∈ s₀.messages, r0.snapshot = r.snapshot)
    (htouched : r.snapshot.Touched m')
    (hdelivery : (∃ k now, Moves now k r.snapshot m' ∧ (k = .attempt → s₀.Clear r now)) ∨
      Finishes r.snapshot m') :
    s₀.messages.Once (MessageRow.Changes s₀)
      (fun r => r.snapshot.attemptCount = 0 ∧ r.snapshot.state = .queued)
      (s.messages.replace { r with snapshot := m' }) := by
  obtain ⟨r0, hr0, hsnapshot⟩ := hbefore
  obtain rfl : r0 = r := by
    rw [(hs0.messages r0 hr0).columns, hsnapshot, ← (hs.messages r (Table.mem_of_find? hr)).columns]
  exact h.replace (r := r0) hr hr0 rfl ⟨rfl, htouched, hdelivery⟩

theorem MessagesOnce.deed {c : Command} {l : Label} (hl : c.Permits env t s₀ s l)
    (hd : Deed env l s s') (hs0 : Sound s₀) (hs : Sound s) (h : MessagesOnce s₀ s) :
    MessagesOnce s₀ s' := by
  rcases hd.frame.messages with hd | ⟨hmessages, -⟩
  · cases hd with
    | queued inserted sequence fits new session floor time =>
      exact h.insert inserted (by rw [new]; exact ⟨rfl, rfl⟩)
    | moved found readable touched moves clear floor time =>
      refine h.touch hs0 hs found hl.1 touched (.inl ⟨_, _, moves, fun hk => ?_⟩)
      have hclear := clear hk
      rwa [Store.Clear, hl.2.1 hk] at hclear
    | finished found readable live touched finishes counted floor later time =>
      exact h.touch hs0 hs found hl.1 touched (.inr finishes)
  · unfold MessagesOnce
    rwa [hmessages]

/-! ### Operations -/

/-- The operations after a part of a call on `s₀`. -/
abbrev OperationsOnce (s₀ s : Store) : Prop :=
  s₀.operations.Once
    (fun r r' => r'.inputPayload = r.inputPayload ∧ r.snapshot.Advances r'.snapshot)
    (fun r => r.snapshot.state = .queued) s.operations

theorem OperationsOnce.deed {c : Command} {l : Label} (hl : c.Permits env t s₀ s l)
    (hd : Deed env l s s') (h : OperationsOnce s₀ s) : OperationsOnce s₀ s' := by
  rcases hd.frame.operations with hd | hoperations
  · cases hd with
    | began inserted alone queued readable session floor time => exact h.insert inserted queued
    | advanced found advances floor time =>
      rename_i row o' now
      obtain ⟨⟨row0, hrow0, hsnapshot⟩, -⟩ := hl
      have hkey : row0.snapshot.operationId = row.snapshot.operationId := by rw [hsnapshot]
      obtain ⟨row', hrow', hold⟩ := h.old row0 hrow0
      obtain rfl : row' = row :=
        Option.some.inj (hrow'.symm.trans ((congrArg s.operations.find? hkey).trans found))
      have hpayload : row'.inputPayload = row0.inputPayload := by
        rcases hold with rfl | hold
        · rfl
        · exact hold.1
      refine h.replace (r := row') ?_ hrow0 (hkey.trans advances.operationId.symm)
        ⟨hpayload, hsnapshot ▸ advances⟩
      rw [show Keyed.key ({ row' with snapshot := o' } : OperationRow) =
        row'.snapshot.operationId from advances.operationId]
      exact found
  · unfold OperationsOnce
    rwa [hoperations]

/-! ### Calls -/

/-- A step does to each message what one call may do to it. -/
theorem Step.messages (hs : Sound s) (h : Step env s s') : MessagesOnce s s' := by
  cases h with
  | call t c =>
    have hpath : Path env _ s _ := exec_path hs t c
    exact (hpath.keeps (I := fun s1 => Sound s1 ∧ MessagesOnce s s1)
      (fun _ _ _ hl hd ⟨hs1, h⟩ => ⟨hd.sound hs1, h.deed hl hd hs hs1⟩)
      ⟨hs, .refl _⟩).2

/-- And to each operation. -/
theorem Step.operations (hs : Sound s) (h : Step env s s') : OperationsOnce s s' := by
  cases h with
  | call t c =>
    have hpath : Path env _ s _ := exec_path hs t c
    exact hpath.keeps (fun _ _ _ hl hd h => h.deed hl hd) (.refl _)

end Navigator
