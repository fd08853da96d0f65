/-
What the supervisors know.

A call changes the world in few ways (`Supervision.Change`), and its answer is true of it
(`Supervision.Truth`).  An attempt is reserved once, by one call, because a launch that has
been prepared stays in the store; so a process is spawned by that call or by none.

* **`Supervision.Consistent`** — what holds of the world: whatever the store and the bindings
  say of a process is what was spawned;
* **`Supervision.Recalls`** — what a call may rely on that it has been told;
* **`Supervision.holds_run`** — both hold in every state.
-/
import Navigator.Launches
import Navigator.Supervisor.Warrants

namespace Navigator

open Prog

variable {α : Type} {a : SupervisorAct} {e : SupervisorCall} {k : LaunchAttemptId}
variable {transaction : Timestamp → Store → Except StoreError α × Store} {x : Outside}
  {kind : SupervisorAct → Bool}

namespace Supervision

variable {env : Env} {w w' : World}
variable {input : Input} {evidence : ProcessEvidence}

/-! ### What a call does -/

/-- The call on the store that is made, if one is. -/
def command? : SupervisorCall → Option Command
  | .prepareLaunch c => some (.prepareLaunch c)
  | .attachLaunch c => some (.attachLaunch c)
  | .transitionLaunch c | .transitionLaunchBy _ c => some (.transitionLaunch c)
  | .validateLaunchAuthority sessionId host epoch =>
    some (.validateLaunchAuthority sessionId host epoch)
  | _ => none

/-- How the world changes. -/
inductive Change (env : Env) (w : World) : SupervisorAct → World → Prop
  | same {a : SupervisorAct} : Change env w a w
  | stored {a : SupervisorAct} {c : Command} (command : command? a.1 = some c) (t : Timestamp) :
      Change env w a { w with store := (exec env t c w.store).2 }
  | spawn (plan : LaunchPlan) (credential : List UInt8) : Change env w ⟨.spawn plan credential, ()⟩
        { w with spawned := plan.attemptId :: w.spawned }
  | spawned (attemptId : LaunchAttemptId) (evidence : ProcessEvidence) :
      Change env w ⟨.spawned attemptId, .ok evidence⟩
        { w with evidence := (attemptId, evidence) :: w.evidence }
  | bind (supervisor : ℕ) (attemptId : LaunchAttemptId) (binding : RuntimeBinding) :
      Change env w ⟨.bind supervisor attemptId binding, ()⟩
        { w with bindings := ((supervisor, attemptId), binding) ::
            w.bindings.filter fun entry => entry.1 ≠ (supervisor, attemptId) }
  | unbind (supervisor : ℕ) (attemptId : LaunchAttemptId) :
      Change env w ⟨.unbind supervisor attemptId, ()⟩
        { w with bindings :=
            w.bindings.filter fun entry => entry.1 ≠ (supervisor, attemptId) }

/-- What an answer says of the world before the call and the world after it. -/
def Truth (w w' : World) : SupervisorAct → Prop
  | ⟨.prepareLaunch c, .ok (.applied _)⟩ => w.store.launches.find? c.attemptId = none ∧
    (w'.store.launches.find? c.attemptId).isSome = true
  | ⟨.loadLaunch attemptId, .ok l⟩ => w.store.launches.find? attemptId = some l
  | ⟨.spawn plan _, _⟩ => plan.attemptId ∈ w'.spawned
  | ⟨.spawned attemptId, .ok evidence⟩ => (attemptId, evidence) ∈ w'.evidence
  | ⟨.inspect attemptId _, .ok .exited⟩ => attemptId ∈ w.exited
  | ⟨.waitForExit attemptId _, .ok true⟩ => attemptId ∈ w.gone
  | ⟨.cleanup attemptId, .ok ()⟩ => attemptId ∈ w.spawned → attemptId ∈ w.gone
  | ⟨.binding supervisor attemptId, some binding⟩ =>
    ((supervisor, attemptId), binding) ∈ w.bindings
  | _ => True

theorem effect_world {transaction : Timestamp → Store → α × Store} {effect : Option Timestamp} :
    w.effect transaction effect = w ∨
      ∃ t, w.effect transaction effect = { w with store := (transaction t w.store).2 } := by
  cases effect with
  | none => exact .inl rfl
  | some t => exact .inr ⟨t, rfl⟩

theorem transact_world {r : Except StoreError α} (h : w.transact transaction input = some (r, w')) :
    w' = w ∨ ∃ t, w' = { w with store := (transaction t w.store).2 } := by
  unfold World.transact at h
  split at h
  · cases h
    exact effect_world
  · cases h
    exact effect_world
  · cases h

/-- An answer of the store's own. -/
theorem transact_ok {v : α} (h : w.transact transaction input = some (.ok v, w')) :
    ∃ t, (transaction t w.store).1 = .ok v ∧
      w' = { w with store := (transaction t w.store).2 } := by
  unfold World.transact at h
  split at h
  · next t =>
    obtain ⟨hv, rfl⟩ := Prod.mk.inj (Option.some.inj h)
    exact ⟨t, hv, rfl⟩
  · cases h
  · cases h

theorem transactBy_world {r : Option (Except StoreError α)}
    (h : w.transactBy transaction input = some (r, w')) :
    w' = w ∨ ∃ t, w' = { w with store := (transaction t w.store).2 } := by
  unfold World.transactBy at h
  split at h
  · cases h
    exact effect_world
  · obtain ⟨⟨r', w1⟩, htransact, heq⟩ := Option.map_eq_some_iff.mp h
    cases heq
    exact transact_world htransact

/-- A call on the store changes nothing but the store. -/
theorem Change.of_transact {c : Command} {transaction : Timestamp → Store → α × Store}
    (h : w' = w ∨ ∃ t, w' = { w with store := (transaction t w.store).2 })
    (hcommand : command? a.1 = some c) (hexec : ∀ t s, (transaction t s).2 = (exec env t c s).2) :
    Change env w a w' := by
  rcases h with rfl | ⟨t, rfl⟩
  · exact .same
  · rw [hexec]
    exact .stored hcommand t

variable {r : e.Answer}

/-- What a call does, and what its answer says. -/
theorem answer_spec (h : w.answer env input e = some (r, w')) :
    Change env w ⟨e, r⟩ w' ∧ Truth w w' ⟨e, r⟩ := by
  cases e with
  | prepareLaunch c =>
    refine ⟨.of_transact (transact_world h) rfl fun _ _ => rfl, ?_⟩
    match r with
    | .ok (.applied v) =>
      obtain ⟨t, hok, rfl⟩ := transact_ok h
      exact prepareLaunch_reserves hok
    | .ok (.replayed v) | .ok (.unchanged v) | .error e => trivial
  | attachLaunch c => exact ⟨.of_transact (transact_world h) rfl fun _ _ => rfl, trivial⟩
  | transitionLaunch c => exact ⟨.of_transact (transact_world h) rfl fun _ _ => rfl, trivial⟩
  | transitionLaunchBy deadline c =>
    exact ⟨.of_transact (transactBy_world h) rfl fun _ _ => rfl, trivial⟩
  | validateLaunchAuthority sessionId host epoch =>
    exact ⟨.of_transact (transact_world h) rfl fun _ _ => rfl, trivial⟩
  | loadLaunch attemptId =>
    constructor
    · rcases transact_world h with rfl | ⟨t, rfl⟩ <;> exact .same
    obtain e | l := r
    · trivial
    obtain ⟨t, hok, rfl⟩ := transact_ok h
    change loadLaunch attemptId w.store = .ok l at hok
    unfold loadLaunch at hok
    split at hok
    · next hfound =>
      cases hok
      exact hfound
    · cases hok
  | spawn plan credential =>
    cases h
    exact ⟨.spawn plan credential, List.mem_cons_self⟩
  | bind supervisor attemptId binding =>
    cases h
    exact ⟨.bind supervisor attemptId binding, trivial⟩
  | unbind supervisor attemptId =>
    cases h
    exact ⟨.unbind supervisor attemptId, trivial⟩
  | spawned attemptId =>
    cases input with
    | evidence evidence =>
      cases h
      exact ⟨.spawned attemptId evidence, List.mem_cons_self⟩
    | error error =>
      cases h
      exact ⟨.same, trivial⟩
    | _ => cases h
  | inspect attemptId expected =>
    cases input with
    | observation observation =>
      change (ite _ _ _) = _ at h
      split at h
      · cases h
      next hfalse =>
      cases h
      refine ⟨.same, ?_⟩
      cases observation with
      | exited => exact of_not_not fun hnot => hfalse ⟨rfl, hnot⟩
      | same => trivial
      | mismatch => trivial
    | error error =>
      cases h
      exact ⟨.same, trivial⟩
    | _ => cases h
  | waitForExit attemptId timeout =>
    cases input with
    | flag value =>
      change (ite _ _ _) = _ at h
      split at h
      · cases h
      next hfalse =>
      cases h
      refine ⟨.same, ?_⟩
      cases value with
      | true => exact of_not_not fun hnot => hfalse ⟨rfl, hnot⟩
      | false => trivial
    | error error =>
      cases h
      exact ⟨.same, trivial⟩
    | _ => cases h
  | cleanup attemptId =>
    cases input with
    | go =>
      change (ite _ _ _) = _ at h
      split at h
      · cases h
      · next hfalse =>
        cases h
        exact ⟨.same, fun hspawned => of_not_not fun hnot => hfalse ⟨hspawned, hnot⟩⟩
    | error error =>
      cases h
      exact ⟨.same, trivial⟩
    | _ => cases h
  | binding supervisor attemptId =>
    obtain ⟨hlookup, rfl⟩ := Prod.mk.inj (Option.some.inj h)
    refine ⟨.same, ?_⟩
    obtain _ | binding := r
    · trivial
    obtain ⟨before, after, heq, -⟩ := List.lookup_eq_some_iff.mp hlookup
    change _ ∈ w.bindings
    rw [heq]
    exact List.mem_append_right _ List.mem_cons_self
  | hit _ | signal _ _ _ | revokeOwnership _ | nextCredential | now _ | deadline
  | openDriver _ _ _ =>
    cases input <;> cases h
    all_goals exact ⟨.same, trivial⟩
  | sleep | closeFence =>
    cases h
    exact ⟨.same, trivial⟩
  | unfinished => cases h

/-- An attempt that is reserved was not there before. -/
theorem Truth.of_reserves (htruth : Truth w w' a) (h : reserves k a = true) :
    w.store.launches.find? k = none ∧ (w'.store.launches.find? k).isSome = true := by
  unfold reserves at h
  split at h
  · exact of_decide_eq_true h ▸ htruth
  · cases h

/-! ### The store -/

theorem Change.reachable (h : Change env w a w') (hreachable : Reachable env w.store) :
    Reachable env w'.store := by
  cases h with
  | stored command t => exact hreachable.tail (.call t _)
  | _ => exact hreachable

/-- How others change the world. -/
inductive Drift (env : Env) (w : World) : World → Prop
  | same : Drift env w w
  | command (t : Timestamp) {c : Command} (foreign : ¬ c.isLaunch = true) :
      Drift env w { w with store := (exec env t c w.store).2 }
  | exits {k : LaunchAttemptId} (spawned : k ∈ w.spawned) :
      Drift env w { w with exited := k :: w.exited }
  | vanishes {k : LaunchAttemptId} (spawned : k ∈ w.spawned) :
      Drift env w { w with exited := k :: w.exited, gone := k :: w.gone }

theorem outside_drift (x : Outside) : Drift env w (w.outside env x) := by
  cases x <;> rw [World.outside] <;> split
  case command.isTrue => exact .same
  case command.isFalse t c hc => exact .command t hc
  case exits.isTrue hspawned => exact .exits hspawned
  case vanishes.isTrue hspawned => exact .vanishes hspawned
  all_goals exact .same

theorem Drift.reachable (h : Drift env w w') (hreachable : Reachable env w.store) :
    Reachable env w'.store := by
  cases h with
  | command t => exact hreachable.tail (.call t _)
  | _ => exact hreachable

theorem Drift.frame (h : Drift env w w') :
    w'.spawned = w.spawned ∧ w'.evidence = w.evidence ∧ w'.bindings = w.bindings := by
  cases h <;> exact ⟨rfl, rfl, rfl⟩

/-- A launch that is there stays. -/
theorem Change.isSome (h : Change env w a w') (hreachable : Reachable env w.store)
    (hsome : (w.store.launches.find? k).isSome = true) :
    (w'.store.launches.find? k).isSome = true := by
  cases h with
  | stored command t =>
    obtain ⟨l, hl⟩ := Option.isSome_iff_exists.mp hsome
    obtain ⟨l', hl', -⟩ := (exec_launches env hreachable.sound t _).find? hl
    exact Option.isSome_iff_exists.mpr ⟨l', hl'⟩
  | _ => exact hsome

/-- Others leave the launches alone. -/
theorem Drift.launches (h : Drift env w w') (hreachable : Reachable env w.store) :
    w'.store.launches = w.store.launches := by
  cases h with
  | @command t c foreign =>
    refine (exec_path hreachable.sound t c).launches_eq fun s1 l hl => ?_
    rintro rfl
    exact foreign hl
  | _ => rfl

theorem sound_reachable : (pool env).Sound Warrant (fun _ _ _ _ => True) (fun _ _ => True)
    (fun w => Reachable env w.store) fun _ _ => True where
  fresh _ _ := trivial
  outside x _ hw := ⟨(outside_drift x).reachable hw, fun _ _ => trivial⟩
  call hw _ _ _ hanswer :=
    ⟨(answer_spec hanswer).1.reachable hw, trivial, fun _ _ _ => trivial⟩

theorem reachable_run (events : List Event) :
    Reachable env ((pool env).run events start).world.store := by
  have hstart : start.Holds Warrant (fun _ => Calm) (fun w => Reachable env w.store)
      fun _ _ => True := ⟨.refl, nofun⟩
  exact (hstart.run (disciplined env) sound_reachable (fun _ => Pool.State.apart_true _) events
    (Pool.along_meets_true events)).world

/-! ### One reservation -/

/-- One, for an act of a kind. -/
def one (kind : SupervisorAct → Bool) (a : SupervisorAct) : ℕ := if kind a = true then 1 else 0

theorem one_le_amount {h : History} (hdid : Did kind h) :
    1 ≤ Pool.amount (one kind) h := by
  obtain ⟨a, ha, hkind⟩ := hdid
  calc 1 = one kind a := (if_pos hkind).symm
    _ ≤ Pool.amount (one kind) h := Pool.le_amount ha

theorem amount_eq_zero {h : History} (hdid : ¬ Did kind h) :
    Pool.amount (one kind) h = 0 := by
  induction h with
  | nil => rfl
  | cons a h ih =>
    rw [Pool.amount_cons, ih fun hrest => hdid hrest.cons, one, if_neg fun ha => hdid (did_head ha)]

/-- One, for an attempt that is in the store. -/
def isThere (k : LaunchAttemptId) (w : World) : ℕ :=
  if (w.store.launches.find? k).isSome = true then 1 else 0

theorem isThere_mono
    (h : (w.store.launches.find? k).isSome = true → (w'.store.launches.find? k).isSome = true) :
    isThere k w ≤ isThere k w' := by
  unfold isThere
  split
  · next hsome => rw [if_pos (h hsome)]
  · exact Nat.zero_le _

/-- A reservation is of an attempt that was not there before. -/
theorem isThere_add_le (hreachable : Reachable env w.store)
    (h : w.answer env input e = some (r, w')) :
    isThere k w + one (reserves k) ⟨e, r⟩ ≤ isThere k w' := by
  obtain ⟨hchange, htruth⟩ := answer_spec h
  by_cases hreserves : reserves k ⟨e, r⟩ = true
  · rw [one, if_pos hreserves]
    obtain ⟨hnone, hsome⟩ := htruth.of_reserves hreserves
    simp [isThere, hnone, hsome]
  · rw [one, if_neg hreserves]
    exact isThere_mono (hchange.isSome hreachable)

/-- **An attempt is reserved once**, by all supervisors together. -/
theorem reserved_once (env : Env) (events : List Event) (k : LaunchAttemptId) :
    ((pool env).run events start).count (one (reserves k)) ≤ 1 := by
  refine (Pool.count_run_le (J := fun w => Reachable env w.store) (μ := isThere k)
    (σ := start) reachable_run (fun x w hw => ?_) (fun hw h => isThere_add_le hw h)
    (Nat.zero_le _) events).trans ?_
  · exact isThere_mono fun hsome => by
      change ((w.outside env x).store.launches.find? k).isSome = true
      rw [(outside_drift x).launches hw]
      exact hsome
  · unfold isThere
    split
    · exact Nat.le_refl 1
    · exact Nat.zero_le 1

/-- A call spawns no more processes than it has made reservations. -/
theorem sound_spawns (k : LaunchAttemptId) :
    (pool env).Sound Warrant (fun _ _ _ _ => True) (fun _ _ => True) (fun _ => True)
      fun _ h => Pool.amount (one (spawns k)) h ≤ Pool.amount (one (reserves k)) h where
  fresh _ _ := Nat.le_refl 0
  outside _ _ _ := ⟨trivial, fun _ h => h⟩
  call {w input e r w' h} _ hle hwarrant _ _ := by
    refine ⟨trivial, ?_, fun _ hle' _ => hle'⟩
    rw [Pool.amount_cons, Pool.amount_cons]
    by_cases hspawns : spawns k ⟨e, r⟩ = true
    · -- the call has a reservation, and has not spawned anything for it
      have hdue : Did (reserves k) h ∧ ¬ Did (spawns k) h := by
        cases e with
        | spawn plan credential =>
          obtain rfl := of_decide_eq_true hspawns
          exact ⟨hwarrant.2.1, hwarrant.2.2.1⟩
        | _ => cases hspawns
      have hone := one_le_amount hdue.1
      rw [amount_eq_zero hdue.2, one, if_pos hspawns]
      omega
    · rw [one, if_neg hspawns]
      omega

/-- **At most one spawn per attempt**: however the calls of any number of supervisors, on any
attempts and for any owners, are interleaved, repeated, answered or dropped. -/
theorem at_most_one_spawn (env : Env) (events : List Event) (attemptId : LaunchAttemptId) :
    ((pool env).run events start).count (one (spawns attemptId)) ≤ 1 := by
  have hstart : start.Holds Warrant (fun _ => Calm) (fun _ => True) fun _ h =>
      Pool.amount (one (spawns attemptId)) h ≤ Pool.amount (one (reserves attemptId)) h :=
    ⟨trivial, nofun⟩
  have hrun := hstart.run (disciplined env) (sound_spawns attemptId)
    (fun _ => Pool.State.apart_true _) events (Pool.along_meets_true events)
  calc ((pool env).run events start).count (one (spawns attemptId))
      ≤ ((pool env).run events start).count (one (reserves attemptId)) :=
        Pool.State.count_le_count fun t ht => (hrun.threads t ht).1
    _ ≤ 1 := reserved_once env events attemptId

/-- Two calls have not reserved the same attempt. -/
def Compatible (h h' : History) : Prop :=
  ∀ k, Did (reserves k) h → ¬ Did (reserves k) h'

theorem apart_run (events : List Event) : ((pool env).run events start).Apart Compatible := by
  intro i j t t' hij ht ht' k hdid hdid'
  have hsum := Pool.State.amount_add_le (f := one (reserves k)) hij ht ht'
  have hone := one_le_amount hdid
  have hone' := one_le_amount hdid'
  have hall := reserved_once env events k
  omega

/-! ### The books -/

/-- What holds of the world: only attempts that were prepared have processes, each has one, and
what is recorded or bound for an attempt is its process. -/
structure Consistent (env : Env) (w : World) : Prop where
  reachable : Reachable env w.store
  prepared : ∀ {k}, k ∈ w.spawned → (w.store.launches.find? k).isSome = true
  recorded : ∀ {k l evidence}, w.store.launches.find? k = some l → l.evidence = some evidence →
    (k, evidence) ∈ w.evidence
  unique : ∀ {k evidence evidence'}, (k, evidence) ∈ w.evidence → (k, evidence') ∈ w.evidence →
    evidence = evidence'
  spawned : ∀ {k evidence}, (k, evidence) ∈ w.evidence → k ∈ w.spawned
  exited : ∀ {k}, k ∈ w.exited → k ∈ w.spawned
  gone : ∀ {k}, k ∈ w.gone → k ∈ w.exited
  bound : ∀ {key binding}, (key, binding) ∈ w.bindings → (key.2, binding.evidence) ∈ w.evidence

/-- What a call may rely on. -/
structure Recalls (w : World) (h : History) : Prop where
  reserved : ∀ {k}, Did (reserves k) h → (w.store.launches.find? k).isSome = true
  spawning : ∀ {k}, Did (spawns k) h → Did (reserves k) h ∧ k ∈ w.spawned
  unspent : ∀ {k}, Did (reserves k) h → ¬ Did (spawns k) h → k ∉ w.spawned
  awaiting : ∀ {plan credential before evidence}, h = ⟨.spawn plan credential, ()⟩ :: before →
    (plan.attemptId, evidence) ∉ w.evidence
  told : ∀ {k evidence}, Did (tells k evidence) h → (k, evidence) ∈ w.evidence
  inspected : ∀ {k evidence r}, ⟨.inspect k evidence, r⟩ ∈ h → (k, evidence) ∈ w.evidence
  exited : ∀ {k}, Did (showsExit k) h → k ∈ w.exited
  ended : ∀ {k}, Did (showsEnd k) h → k ∈ w.gone
  cleaned : ∀ {k}, Cleaned k (.ok ()) h → k ∈ w.gone

/-- The books are only added to. -/
structure Grows (w w' : World) : Prop where
  launches : ∀ {k}, (w.store.launches.find? k).isSome = true →
    (w'.store.launches.find? k).isSome = true
  spawned : w.spawned ⊆ w'.spawned
  evidence : w.evidence ⊆ w'.evidence
  exited : w.exited ⊆ w'.exited
  gone : w.gone ⊆ w'.gone

theorem Grows.refl (w : World) : Grows w w :=
  ⟨fun h => h, List.Subset.refl _, List.Subset.refl _, List.Subset.refl _, List.Subset.refl _⟩

theorem Change.grows (h : Change env w a w') (hreachable : Reachable env w.store) : Grows w w' := by
  have hlaunches : ∀ {k}, _ → (w'.store.launches.find? k).isSome = true :=
    fun hsome => h.isSome hreachable hsome
  cases h with
  | spawn plan credential => exact { Grows.refl w with spawned := List.subset_cons_self _ _ }
  | spawned attemptId evidence =>
    exact { Grows.refl w with evidence := List.subset_cons_self _ _ }
  | stored command t => exact { Grows.refl w with launches := hlaunches }
  | _ => exact { Grows.refl w with }

theorem Drift.grows (h : Drift env w w') (hreachable : Reachable env w.store) : Grows w w' := by
  have hlaunches := h.launches hreachable
  cases h with
  | same => exact .refl w
  | command t => exact { Grows.refl w with launches := fun hsome => by rw [hlaunches]; exact hsome }
  | exits => exact { Grows.refl w with exited := List.subset_cons_self _ _ }
  | vanishes => exact { Grows.refl w with
      exited := List.subset_cons_self _ _
      gone := List.subset_cons_self _ _ }

variable {h : History}

theorem recalls_nil (w : World) : Recalls w [] where
  reserved hdid := absurd hdid not_did_nil
  spawning hdid := absurd hdid not_did_nil
  unspent hdid := absurd hdid not_did_nil
  awaiting := nofun
  told hdid := absurd hdid not_did_nil
  inspected := nofun
  exited hdid := absurd hdid not_did_nil
  ended hdid := absurd hdid not_did_nil
  cleaned := by
    rintro k ⟨before, hbefore, -⟩
    exact absurd (List.suffix_nil.mp hbefore) nofun

/-- What was recalled still is, where nobody has spent the reservation meanwhile or been handed
the process that the call is waiting for. -/
theorem Recalls.later (hrecalls : Recalls w h) (hgrows : Grows w w')
    (hunspent : ∀ {k}, Did (reserves k) h → ¬ Did (spawns k) h → k ∉ w.spawned → k ∉ w'.spawned)
    (hawaiting : ∀ {plan credential before evidence}, h = ⟨.spawn plan credential, ()⟩ :: before →
      (plan.attemptId, evidence) ∉ w.evidence → (plan.attemptId, evidence) ∉ w'.evidence) :
    Recalls w' h where
  reserved hdid := hgrows.launches (hrecalls.reserved hdid)
  spawning hdid := (hrecalls.spawning hdid).imp_right fun hk => hgrows.spawned hk
  unspent hdid hnot := hunspent hdid hnot (hrecalls.unspent hdid hnot)
  awaiting heq := hawaiting heq (hrecalls.awaiting heq)
  told hdid := hgrows.evidence (hrecalls.told hdid)
  inspected hmem := hgrows.evidence (hrecalls.inspected hmem)
  exited hdid := hgrows.exited (hrecalls.exited hdid)
  ended hdid := hgrows.gone (hrecalls.ended hdid)
  cleaned hclean := hgrows.gone (hrecalls.cleaned hclean)

/-! ### The books are kept -/

theorem Consistent.drift (hw : Consistent env w) (hdrift : Drift env w w') :
    Consistent env w' := by
  have hlaunches := hdrift.launches hw.reachable
  have hreachable := hdrift.reachable hw.reachable
  cases hdrift with
  | same => exact hw
  | command t =>
    refine { hw with
      reachable := hreachable
      prepared := fun hk => ?_
      recorded := fun hl => hw.recorded (by rw [← hlaunches]; exact hl) }
    rw [hlaunches]
    exact hw.prepared hk
  | exits hspawned =>
    exact { hw with
      exited := fun hk => (List.mem_cons.mp hk).elim (fun heq => heq ▸ hspawned) hw.exited
      gone := fun hk => List.mem_cons_of_mem _ (hw.gone hk) }
  | vanishes hspawned =>
    refine { hw with
      exited := fun hk => (List.mem_cons.mp hk).elim (fun heq => heq ▸ hspawned) hw.exited
      gone := fun hk => ?_ }
    rcases List.mem_cons.mp hk with rfl | hk
    · exact List.mem_cons_self
    · exact List.mem_cons_of_mem _ (hw.gone hk)

/-- What is recorded for an attempt is its process, also after a call on the store. -/
theorem Consistent.recorded_exec (hw : Consistent env w) (hrecalls : Recalls w h)
    (hwarrant : Warrant h e) {c : Command} (hcommand : command? e = some c) (t : Timestamp)
    {l : LaunchSnapshot} (hl : (exec env t c w.store).2.launches.find? k = some l)
    (hevidence : l.evidence = some evidence) : (k, evidence) ∈ w.evidence := by
  cases exec_launchBecomes hw.reachable.sound t c hl with
  | kept found => exact hw.recorded found hevidence
  | prepared key free => cases hevidence
  | @attached c _ _ key found hset state =>
    cases hset.symm.trans hevidence
    subst key
    -- the process is the one that the call was handed
    cases e with
    | attachLaunch c' =>
      cases hcommand
      exact hrecalls.told ⟨_, hwarrant.2, by simp [tells]⟩
    | _ => cases hcommand
  | moved key found valid hset state => exact hw.recorded found (hset.symm.trans hevidence)

theorem Consistent.answer (hw : Consistent env w) (hrecalls : Recalls w h) (hwarrant : Warrant h e)
    (hanswer : w.answer env input e = some (r, w')) : Consistent env w' := by
  have hchange := (answer_spec hanswer).1
  have hgrows := hchange.grows hw.reachable
  have hreachable := hchange.reachable hw.reachable
  cases hchange with
  | same => exact hw
  | stored hcommand t =>
    exact { hw with
      reachable := hreachable
      prepared := fun hk => hgrows.launches (hw.prepared hk)
      recorded := fun hl hevidence => hw.recorded_exec hrecalls hwarrant hcommand t hl hevidence }
  | spawn plan credential =>
    refine { hw with
      prepared := fun hk => ?_
      spawned := fun hk => hgrows.spawned (hw.spawned hk)
      exited := fun hk => hgrows.spawned (hw.exited hk) }
    rcases List.mem_cons.mp hk with rfl | hk
    · exact hrecalls.reserved hwarrant.2.1
    · exact hw.prepared hk
  | spawned attemptId evidence =>
    obtain ⟨-, plan, credential, before, rfl, rfl⟩ := hwarrant
    have hspawned : plan.attemptId ∈ w.spawned :=
      (hrecalls.spawning (did_head (decide_eq_true rfl))).2
    refine { hw with
      recorded := fun hl hevidence => hgrows.evidence (hw.recorded hl hevidence)
      unique := fun hk hk' => ?_
      spawned := fun hk => ?_
      bound := fun hk => hgrows.evidence (hw.bound hk) }
    · rcases List.mem_cons.mp hk with heq | hk <;> rcases List.mem_cons.mp hk' with heq' | hk'
      · exact (Prod.mk.inj heq).2.trans (Prod.mk.inj heq').2.symm
      · obtain ⟨rfl, -⟩ := Prod.mk.inj heq
        exact absurd hk' (hrecalls.awaiting rfl)
      · obtain ⟨rfl, -⟩ := Prod.mk.inj heq'
        exact absurd hk (hrecalls.awaiting rfl)
      · exact hw.unique hk hk'
    · rcases List.mem_cons.mp hk with heq | hk
      · obtain ⟨rfl, -⟩ := Prod.mk.inj heq
        exact hspawned
      · exact hw.spawned hk
  | bind supervisor attemptId binding =>
    obtain ⟨before, rfl⟩ := hwarrant
    refine { hw with bound := fun hk => ?_ }
    rcases List.mem_cons.mp hk with heq | hk
    · obtain ⟨rfl, rfl⟩ := Prod.mk.inj heq
      exact hrecalls.told (did_head (by simp [tells]))
    · exact hw.bound (List.mem_of_mem_filter hk)
  | unbind supervisor attemptId =>
    exact { hw with bound := fun hk => hw.bound (List.mem_of_mem_filter hk) }

/-! ### What is recalled -/

/-- Only `spawn` adds to what is spawned. -/
theorem Change.not_spawned (h : Change env w a w') (hk : k ∉ w.spawned)
    (hspawns : spawns k a ≠ true) : k ∉ w'.spawned := by
  cases h with
  | spawn plan credential =>
    intro hmem
    rcases List.mem_cons.mp hmem with rfl | hmem
    · exact hspawns (decide_eq_true rfl)
    · exact hk hmem
  | _ => exact hk

/-- The other calls recall what they did. -/
theorem Recalls.others {h' : History} (hrecalls : Recalls w h) (hother : Recalls w h')
    (hapart : Compatible h h') (hreachable : Reachable env w.store) (hwarrant : Warrant h a.1)
    (hchange : Change env w a w') : Recalls w' h' := by
  refine hother.later (hchange.grows hreachable) (fun hreserved _ hk => ?_) fun heq hnot => ?_
  · refine hchange.not_spawned hk fun hspawns => ?_
    -- an attempt that this call has reserved is not spawned by another
    unfold spawns at hspawns
    split at hspawns
    · obtain rfl := of_decide_eq_true hspawns
      exact hapart _ hwarrant.2.1 hreserved
    · cases hspawns
  · cases hchange with
    | spawned attemptId evidence =>
      obtain ⟨-, plan, credential, before, rfl, rfl⟩ := hwarrant
      intro hmem
      rcases List.mem_cons.mp hmem with hpair | hmem
      · have hspawned := (hrecalls.spawning (did_head (decide_eq_true rfl))).1
        subst heq
        obtain ⟨hsame, -⟩ := Prod.mk.inj hpair
        rw [← hsame] at hspawned
        exact hapart _ hspawned (hother.spawning (did_head (decide_eq_true rfl))).1
      · exact hnot hmem
    | _ => exact hnot

theorem Recalls.told_cons (hw : Consistent env w) (hrecalls : Recalls w h) (hgrows : Grows w w')
    (htruth : Truth w w' a) (hdid : Did (tells k evidence) (a :: h)) :
    (k, evidence) ∈ w'.evidence := by
  rcases did_cons.mp hdid with htells | hdid
  · unfold tells at htells
    split at htells
    · obtain ⟨rfl, rfl⟩ : _ ∧ _ := by simpa using htells
      exact htruth
    · obtain ⟨rfl, hevidence⟩ : _ ∧ _ := by simpa using htells
      exact hgrows.evidence (hw.recorded htruth hevidence)
    · obtain ⟨rfl, rfl⟩ : _ ∧ _ := by simpa using htells
      exact hgrows.evidence (hw.bound htruth)
    · cases htells
  · exact hgrows.evidence (hrecalls.told hdid)

theorem Recalls.exited_cons (hw : Consistent env w) (hrecalls : Recalls w h) (htruth : Truth w w' a)
    (hdid : Did (showsExit k) (a :: h)) :
    k ∈ w.exited := by
  rcases did_cons.mp hdid with hshows | hdid
  · unfold showsExit at hshows
    split at hshows
    · obtain rfl := of_decide_eq_true hshows
      exact htruth
    · obtain rfl := of_decide_eq_true hshows
      exact hw.gone htruth
    · cases hshows
  · exact hrecalls.exited hdid

theorem Recalls.ended_cons (hrecalls : Recalls w h) (htruth : Truth w w' a)
    (hdid : Did (showsEnd k) (a :: h)) :
    k ∈ w.gone := by
  rcases did_cons.mp hdid with hshows | hdid
  · unfold showsEnd at hshows
    split at hshows
    · obtain rfl := of_decide_eq_true hshows
      exact htruth
    · cases hshows
  · exact hrecalls.ended hdid

theorem Recalls.cleaned_cons (hw : Consistent env w) (hrecalls : Recalls w h)
    (htruth : Truth w w' a) (hclean : Cleaned k (.ok ()) (a :: h)) :
    k ∈ w.gone := by
  obtain ⟨before, hbefore, hexit⟩ := hclean
  rcases List.suffix_cons_iff.mp hbefore with heq | hbefore
  · obtain ⟨rfl, rfl⟩ := List.cons.inj heq
    exact htruth (hw.exited (hrecalls.exited hexit))
  · exact hrecalls.cleaned ⟨before, hbefore, hexit⟩

/-- The call that is answered recalls what it did, and its answer. -/
theorem Recalls.own (hw : Consistent env w) (hrecalls : Recalls w h) (hwarrant : Warrant h a.1)
    (hchange : Change env w a w') (htruth : Truth w w' a) :
    Recalls w' (a :: h) := by
  have hgrows := hchange.grows hw.reachable
  constructor
  case reserved =>
    intro k hdid
    rcases did_cons.mp hdid with hreserves | hdid
    · exact (htruth.of_reserves hreserves).2
    · exact hgrows.launches (hrecalls.reserved hdid)
  case spawning =>
    intro k hdid
    rcases did_cons.mp hdid with hspawns | hdid
    · unfold spawns at hspawns
      split at hspawns
      · obtain rfl := of_decide_eq_true hspawns
        exact ⟨hwarrant.2.1.cons, htruth⟩
      · cases hspawns
    · exact ⟨(hrecalls.spawning hdid).1.cons, hgrows.spawned (hrecalls.spawning hdid).2⟩
  case unspent =>
    intro k hdid hnot
    refine hchange.not_spawned ?_ fun hspawns => hnot (did_head hspawns)
    rcases did_cons.mp hdid with hreserves | hdid
    · -- an attempt that was not there had no process
      intro hk
      have hsome := hw.prepared hk
      rw [(htruth.of_reserves hreserves).1] at hsome
      cases hsome
    · exact hrecalls.unspent hdid fun hdid' => hnot hdid'.cons
  case awaiting =>
    intro plan credential before evidence heq hmem
    obtain ⟨rfl, rfl⟩ := List.cons.inj heq
    have hspawned := hw.spawned (show (plan.attemptId, evidence) ∈ w.evidence by
      cases hchange <;> exact hmem)
    exact hrecalls.unspent hwarrant.2.1 hwarrant.2.2.1 hspawned
  case told => exact fun hdid => hrecalls.told_cons hw hgrows htruth hdid
  case inspected =>
    intro k evidence r hmem
    rcases List.mem_cons.mp hmem with rfl | hmem
    · exact hgrows.evidence (hrecalls.told hwarrant.2)
    · exact hgrows.evidence (hrecalls.inspected hmem)
  case exited => exact fun hdid => hgrows.exited (hrecalls.exited_cons hw htruth hdid)
  case ended => exact fun hdid => hgrows.gone (hrecalls.ended_cons htruth hdid)
  case cleaned => exact fun hclean => hgrows.gone (hrecalls.cleaned_cons hw htruth hclean)

theorem sound_books : (pool env).Sound Warrant (fun _ _ _ _ => True) Compatible
    (Consistent env) Recalls where
  fresh w _ := recalls_nil w
  outside x w hw := by
    have hdrift : Drift env w (w.outside env x) := outside_drift x
    obtain ⟨hspawned, hevidence, -⟩ := hdrift.frame
    refine ⟨hw.drift hdrift, fun h hrecalls => ?_⟩
    exact hrecalls.later (hdrift.grows hw.reachable) (fun _ _ hk => hspawned ▸ hk)
      fun _ hnot => hevidence ▸ hnot
  call hw hrecalls hwarrant _ hanswer :=
    have ⟨hchange, htruth⟩ := answer_spec hanswer
    ⟨hw.answer hrecalls hwarrant hanswer, hrecalls.own hw hwarrant hchange htruth,
      fun _ hother hapart => hrecalls.others hother hapart hw.reachable hwarrant hchange⟩

theorem holds_start : start.Holds Warrant (fun _ => Calm) (Consistent env) Recalls where
  world := ⟨.refl, nofun, nofun, nofun, nofun, nofun, nofun, nofun⟩
  threads := nofun

/-- **The books are kept in every run.** -/
theorem holds_run (env : Env) (events : List Event) :
    ((pool env).run events start).Holds Warrant (fun _ => Calm) (Consistent env) Recalls :=
  holds_start.run (disciplined env) sound_books apart_run events (Pool.along_meets_true events)

end Supervision

/-! ### Samples -/

namespace Sample

open Supervision

def supervisor : InstanceSupervisor := ⟨0, ⟨1000, 1000, 1000⟩, fun _ _ _ _ _ _ => .ok 0, 1⟩

def plan : LaunchPlan where
  sessionId := session
  participantId := root
  driverId := id 0
  driverConfigurationDigest := 0
  attemptId := launch
  instanceId := driver
  hostId := hostA
  ownershipEpoch := epoch
  prepareRequestId := id 20
  attachRequestId := id 21
  compensationRequestId := id 22
  compensationTerminalRequestId := id 23
  environment := []
  environmentAllowlist := []

def process : ProcessEvidence := ⟨1, 1, 1, 1, 1⟩

/-- A session is opened and owned, and a process is spawned and bound. -/
def spawning : List Event :=
  [.outside (.command (seconds 0) (.openSession openSession)),
    .outside (.command (seconds 0) (.acquireOwnership acquireOwnership)),
    .start (supervisor, .launch plan), .resume 0 (.credential (List.replicate 32 0)),
    .resume 0 (.answers (seconds 0)), .resume 0 .go, .resume 0 .go,
    .resume 0 (.evidence process), .resume 0 .go]

end Sample

end Navigator
