/-
The life of a launch.

A launch is prepared, attached to one process, made ready, stopped, or handed to cleanup and
then stopped.  `attachLaunch` and `transitionLaunch` are one transaction with a caller's change
in it, so what a launch can go through is said once, by `LaunchSnapshot.Step`, and every call
makes one such step to one launch, prepares one, or leaves all alone (`exec_launches`).

* **`Reachable.launches`** — what holds of every launch in every state, whoever changed it;
* **`launch_lifecycle_is_kept`** — the history of a launch in any run.
-/
import Navigator.Accounting

namespace Navigator

open Txn Tx

variable {env : Env} {s s' : Store}
variable {l l' : LaunchSnapshot} {k : LaunchAttemptId}
variable {P : Store → Label → Prop} {t : Timestamp} {sessionId : SessionId}
  {apply : LaunchSnapshot → Except StoreError LaunchSnapshot} {cs : List (Timestamp × Command)}

/-! ### Steps -/

/-- One change of a launch: it is attached to a process, or moves on. -/
inductive LaunchSnapshot.Step (l : LaunchSnapshot) : LaunchSnapshot → Prop
  | attached (instanceId : InstanceId) (evidence : ProcessEvidence) {revision : Revision}
      (state : l.state = .prepared) (free : l.instanceId = none)
      (next : l.revision.next = some revision) :
      Step l { l with
        instanceId := some instanceId
        evidence := some evidence
        state := .attached
        revision }
  | moved (target : LaunchState) (reason : Option (BoundedText 1024)) {revision : Revision}
      (valid : validLaunchTransition l.state target = true)
      (reasoned : target = .cleanupRequired ↔ reason.isSome = true)
      (next : l.revision.next = some revision) :
      Step l { l with state := target, cleanupReason := reason, revision }

/-- A launch as it is prepared. -/
structure LaunchSnapshot.Fresh (l : LaunchSnapshot) : Prop where
  state : l.state = .prepared
  revision : l.revision = .initial
  instanceId : l.instanceId = none
  evidence : l.evidence = none
  cleanupReason : l.cleanupReason = none

theorem LaunchSnapshot.Step.attemptId (h : l.Step l') :
    l'.attemptId = l.attemptId := by
  cases h <;> rfl

/-- What a call does to the launches. -/
inductive LaunchChange (s : Store) : Table LaunchSnapshot → Prop
  | same : LaunchChange s s.launches
  | prepared {l : LaunchSnapshot} {launches : Table LaunchSnapshot} (fresh : l.Fresh)
      (inserted : s.launches.insert? l = some launches) : LaunchChange s launches
  | stepped {l l' : LaunchSnapshot} (found : s.launches.find? l.attemptId = some l)
      (step : l.Step l')
      (alone : ∀ x ∈ s.launches, l'.instanceId.isSome = true → x.instanceId = l'.instanceId →
        x.attemptId = l.attemptId) : LaunchChange s (s.launches.replace l')

/-- The deeds to anything but launches. -/
def Label.LeavesLaunches (l : Label) : Prop := l ≠ .launch

theorem tolerant_leavesLaunches {W : LedgerRow → Prop} :
    Tolerant W fun _ l => l.LeavesLaunches where
  aside _ := nofun
  session _ := nofun
  people _ := nofun
  recorded _ _ _ := nofun

theorem Path.launches_eq (h : Path env P s s') (hP : ∀ s l, P s l → l.LeavesLaunches) :
    s'.launches = s.launches :=
  h.keeps (I := fun s₁ => s₁.launches = s.launches)
    (fun _ _ _ hl hd heq => (hd.frame.launches.resolve_left (hP _ _ hl)).trans heq) rfl

/-- What a call makes of the launch of an attempt. -/
inductive Store.LaunchBecomes (s : Store) (k : LaunchAttemptId) : Command → LaunchSnapshot → Prop
  | kept {c : Command} {l : LaunchSnapshot} (found : s.launches.find? k = some l) :
      LaunchBecomes s k c l
  | prepared {c : PrepareLaunch} (key : c.attemptId = k) (free : s.launches.find? k = none) :
      LaunchBecomes s k (.prepareLaunch c) c.launch
  | attached {c : AttachLaunch} {l l' : LaunchSnapshot} (key : c.attemptId = k)
      (found : s.launches.find? k = some l) (evidence : l'.evidence = some c.evidence)
      (state : l'.state = .attached) : LaunchBecomes s k (.attachLaunch c) l'
  | moved {c : TransitionLaunch} {l l' : LaunchSnapshot} (key : c.attemptId = k)
      (found : s.launches.find? k = some l)
      (valid : validLaunchTransition l.state c.target = true)
      (evidence : l'.evidence = l.evidence) (state : l'.state = c.target) :
      LaunchBecomes s k (.transitionLaunch c) l'

/-- A launch is prepared or makes a step, and whose step that is. -/
def Store.Launches (s : Store) (c : Command) (launches : Table LaunchSnapshot) : Prop :=
  launches = s.launches ∨
  (∃ p, c = .prepareLaunch p ∧ s.launches.insert? p.launch = some launches) ∨
  ∃ l l', s.launches.find? l.attemptId = some l ∧ launches = s.launches.replace l' ∧ l.Step l' ∧
    (∀ x ∈ s.launches, l'.instanceId.isSome = true → x.instanceId = l'.instanceId →
      x.attemptId = l.attemptId) ∧ s.LaunchBecomes l.attemptId c l'

/-- A launch that is changed makes a step, if the change is one. -/
theorem ChangesLaunch.launches {χ : Type} [MutableRequest χ] {attemptId : LaunchAttemptId}
    {request : χ} {c : Command} (h : ChangesLaunch env t sessionId attemptId request apply s s')
    (hstep : ∀ l l' revision, s.launches.find? attemptId = some l → apply l = .ok l' →
      l'.revision.next = some revision →
      l.Step { l' with revision } ∧ s.LaunchBecomes attemptId c { l' with revision }) :
    s.Launches c s'.launches := by
  obtain ⟨r, l, l', revision, u, -, hl, happly, hnext, halone, hrecord⟩ := h
  obtain ⟨ledger, -, rfl⟩ := insertLedger_done hrecord
  obtain ⟨hmakes, hbecomes⟩ := hstep l l' revision hl happly hnext
  have hid : l.attemptId = attemptId := (Table.key_of_find? hl :)
  subst hid
  exact .inr (.inr ⟨l, _, hl, rfl, hmakes, halone, hbecomes⟩)

/-- What a call does to the launches, and to which. -/
theorem exec_launch_cases (env : Env) (hs : Sound s) (t : Timestamp) (c : Command) :
    s.Launches c (exec env t c s).2.launches := by
  cases hc : c.isLaunch with
  | false =>
    refine .inl ((exec_path hs t c).launches_eq fun s₁ l hl => ?_)
    rintro rfl
    cases hc.symm.trans hl
  | true =>
    cases c with
    | prepareLaunch c =>
      obtain ⟨r, launches, u, -, -, hinsert, hrecord⟩ | h :
          c.Prepares env t s (exec env t (.prepareLaunch c) s).2 ∨ _ :=
        prepareLaunch_cases tolerant_leavesLaunches
      · obtain ⟨ledger, -, heq⟩ := insertLedger_done hrecord
        rw [heq]
        exact .inr (.inl ⟨c, rfl, hinsert⟩)
      · exact .inl (h.launches_eq fun _ _ h => h)
    | attachLaunch c =>
      obtain h | h : ChangesLaunch env t _ _ c _ s (exec env t (.attachLaunch c) s).2 ∨ _ :=
        mutateLaunch_cases tolerant_leavesLaunches
      · refine h.launches fun l l' revision hl happly hnext => ?_
        split at happly
        · next hfree =>
          cases happly
          exact ⟨.attached _ _ hfree.1 hfree.2.1 hnext, .attached rfl hl rfl rfl⟩
        · cases happly
      · exact .inl (h.launches_eq fun _ _ h => h)
    | transitionLaunch c =>
      obtain h | h : ChangesLaunch env t _ _ c _ s (exec env t (.transitionLaunch c) s).2 ∨ _ :=
        mutateLaunch_cases tolerant_leavesLaunches
      · refine h.launches fun l l' revision hl happly hnext => ?_
        split at happly
        · next hvalid =>
          cases happly
          exact ⟨.moved _ _ hvalid.1 hvalid.2 hnext, .moved rfl hl hvalid.1 rfl rfl⟩
        · cases happly
      · exact .inl (h.launches_eq fun _ _ h => h)
    | _ => cases hc

/-- **A call makes one step of one launch, prepares one, or leaves all alone.** -/
theorem exec_launches (env : Env) (hs : Sound s) (t : Timestamp) (c : Command) :
    LaunchChange s (exec env t c s).2.launches := by
  obtain heq | ⟨p, -, hinsert⟩ | ⟨l, l', hl, heq, hstep, halone, -⟩ := exec_launch_cases env hs t c
  · exact heq ▸ .same
  · exact .prepared ⟨rfl, rfl, rfl, rfl, rfl⟩ hinsert
  · exact heq ▸ .stepped hl hstep halone

/-- **A launch is what it was, or what the call has made of it.** -/
theorem exec_launchBecomes (hs : Sound s) (t : Timestamp) (c : Command)
    (hl' : (exec env t c s).2.launches.find? k = some l') : s.LaunchBecomes k c l' := by
  obtain heq | ⟨p, rfl, hinsert⟩ | ⟨l, l1, hl, heq, hstep, -, hbecomes⟩ :=
    exec_launch_cases env hs t c
  · exact .kept (heq ▸ hl')
  · rw [Table.find?_insert hinsert] at hl'
    split at hl'
    · next hk =>
      cases hl'
      exact .prepared hk (hk ▸ Table.insert?_fresh hinsert)
    · exact .kept hl'
  · rw [heq, Table.find?_replaced hl (hstep.attemptId :) k] at hl'
    split at hl'
    · next hk =>
      subst hk
      cases hl'
      exact hbecomes
    · exact .kept hl'

/-- An attempt that is reserved was not there before, and is now. -/
theorem prepareLaunch_reserves {c : PrepareLaunch}
    (h : (settle env c (prepareLaunch env t c) s).1 = .ok (.applied l)) :
    s.launches.find? c.attemptId = none ∧
      ((settle env c (prepareLaunch env t c) s).2.launches.find? c.attemptId).isSome = true := by
  obtain ⟨v, s', hbody, heq⟩ | ⟨_, _, _, _, _, _, _, heq⟩ | ⟨_, heq⟩ :=
    settle_cases env c (prepareLaunch env t c) s
  · rw [heq] at h ⊢
    cases h
    obtain ⟨r, hr, hbody⟩ := authorize_bind_done (replayOr_applied env hbody)
    simp only [looks_done] at hbody
    obtain ⟨-, hbody⟩ := hbody
    cases hfound : s.launches.find? c.attemptId with
    | some existing =>
      -- an attempt that was there is not reserved again
      simp only [Store.withFloor, hfound, looks_done] at hbody
      obtain ⟨-, _, _, -, ⟨⟩, -⟩ := hbody
    | none =>
      simp only [Store.withFloor, hfound, looks_done] at hbody
      obtain ⟨_, s2, hcommit, -, rfl⟩ := hbody
      obtain ⟨u, s3, hinsert, hrecord⟩ := bind_done.mp hcommit
      simp only [insertLaunch, looks_done] at hinsert
      obtain ⟨-, launches, hinsert, rfl⟩ := hinsert
      obtain ⟨ledger, -, rfl⟩ := insertLedger_done hrecord
      refine ⟨rfl, ?_⟩
      change (launches.find? c.attemptId).isSome = true
      have hkey : Keyed.key c.launch = c.attemptId := rfl
      rw [Table.find?_insert hinsert, if_pos hkey]
      rfl
  · rw [heq] at h
    cases h
  · rw [heq] at h
    cases h

/-! ### What holds of every launch -/

/-- A launch that has been dealt with as it should: it has its instance and its evidence
together, none while it is prepared, and a reason exactly while it is to be cleaned up. -/
structure LaunchSnapshot.Kept (l : LaunchSnapshot) : Prop where
  together : l.instanceId.isSome = l.evidence.isSome
  free : l.state = .prepared → l.instanceId = none
  reasoned : l.cleanupReason.isSome = true ↔ l.state = .cleanupRequired

theorem LaunchSnapshot.Fresh.kept (h : l.Fresh) : l.Kept where
  together := by rw [h.instanceId, h.evidence]; rfl
  free _ := h.instanceId
  reasoned := by rw [h.cleanupReason, h.state]; exact ⟨nofun, nofun⟩

theorem LaunchSnapshot.Step.kept (h : l.Step l') (hl : l.Kept) :
    l'.Kept := by
  cases h with
  | attached instanceId evidence state free next =>
    refine ⟨rfl, nofun, ?_⟩
    rw [hl.reasoned, state]
    exact ⟨nofun, nofun⟩
  | moved target reason valid reasoned next =>
    refine ⟨hl.together, fun (htarget : target = .prepared) => ?_, reasoned.symm⟩
    -- nothing goes back to being prepared
    subst htarget
    cases hstate : l.state <;> rw [hstate] at valid <;> cases valid

/-- No two launches have one instance. -/
def Store.InstancesDiffer (s : Store) : Prop :=
  ∀ l ∈ s.launches, ∀ l' ∈ s.launches, l.instanceId.isSome = true →
    l.instanceId = l'.instanceId → l = l'

theorem LaunchChange.kept {launches : Table LaunchSnapshot} (h : LaunchChange s launches)
    (hkept : ∀ l ∈ s.launches, l.Kept) : ∀ l ∈ launches, l.Kept := by
  cases h with
  | same => exact hkept
  | prepared fresh inserted =>
    intro x hx
    rcases (Table.mem_insert inserted).mp hx with rfl | hx
    · exact fresh.kept
    · exact hkept x hx
  | stepped found step alone =>
    intro x hx
    have hfound := (congrArg s.launches.find? step.attemptId).trans found
    rcases (Table.mem_replace hfound).mp hx with rfl | ⟨hx, -⟩
    · exact step.kept (hkept _ (Table.mem_of_find? found))
    · exact hkept x hx

theorem LaunchChange.instancesDiffer {launches : Table LaunchSnapshot}
    (h : LaunchChange s launches) (hdiffer : s.InstancesDiffer) :
    ({ s with launches } : Store).InstancesDiffer := by
  cases h with
  | same => exact hdiffer
  | prepared fresh inserted =>
    intro x hx x' hx' hsome heq
    rcases (Table.mem_insert inserted).mp hx with rfl | hx
    · rw [fresh.instanceId] at hsome
      cases hsome
    rcases (Table.mem_insert inserted).mp hx' with rfl | hx'
    · rw [heq, fresh.instanceId] at hsome
      cases hsome
    · exact hdiffer x hx x' hx' hsome heq
  | @stepped l l' found step alone =>
    intro x hx x' hx' hsome heq
    have hfound := (congrArg s.launches.find? step.attemptId).trans found
    -- a row other than the one that changes has another instance
    have hother : ∀ y ∈ s.launches, y.attemptId ≠ l'.attemptId → l'.instanceId.isSome = true →
        y.instanceId ≠ l'.instanceId := fun y hy hne hsome heq =>
      hne ((alone y hy hsome heq).trans step.attemptId.symm)
    rcases (Table.mem_replace hfound).mp hx with rfl | ⟨hold, hne⟩ <;>
      rcases (Table.mem_replace hfound).mp hx' with rfl | ⟨hold', hne'⟩
    · rfl
    · exact absurd heq.symm (hother x' hold' hne' hsome)
    · exact absurd heq (hother x hold hne (heq ▸ hsome))
    · exact hdiffer x hold x' hold' hsome heq

/-- **What holds of the launches in every state.** -/
theorem Reachable.launches (h : Reachable env s) :
    (∀ l ∈ s.launches, l.Kept) ∧ s.InstancesDiffer := by
  refine Reachable.rec' (P := fun s => (∀ l ∈ s.launches, l.Kept) ∧ s.InstancesDiffer)
    ⟨fun _ h => (Table.not_mem_empty h).elim, fun _ h => (Table.not_mem_empty h).elim⟩ ?_ h
  rintro s₁ s2 hs hP ⟨t, c⟩
  have hchange := exec_launches env hs.sound t c
  exact ⟨hchange.kept hP.1, hchange.instancesDiffer hP.2⟩

/-! ### Histories -/

/-- A launch that is there is there afterwards, as it was or one step on. -/
theorem LaunchChange.find? {launches : Table LaunchSnapshot} (h : LaunchChange s launches)
    (hl : s.launches.find? k = some l) :
    ∃ l', launches.find? k = some l' ∧ (l' = l ∨ l.Step l') := by
  cases h with
  | same => exact ⟨l, hl, .inl rfl⟩
  | prepared fresh inserted => exact ⟨l, Table.Grows.insert inserted k l hl, .inl rfl⟩
  | @stepped l1 l1' found step alone =>
    have hfind := Table.find?_replaced found (step.attemptId :) k
    by_cases hk : l1.attemptId = k
    · subst hk
      cases found.symm.trans hl
      exact ⟨l1', hfind.trans (if_pos rfl), .inr step⟩
    · exact ⟨l, (hfind.trans (if_neg hk)).trans hl, .inl rfl⟩

/-- A launch that was not there before is as it was prepared. -/
theorem LaunchChange.fresh {launches : Table LaunchSnapshot} (h : LaunchChange s launches)
    (hnone : s.launches.find? k = none) :
    ∀ l ∈ launches.find? k, l.Fresh := by
  intro l hl
  cases h with
  | same =>
    rw [hnone] at hl
    cases hl
  | @prepared l1 _ fresh inserted =>
    rw [Table.find?_insert inserted] at hl
    split at hl
    · cases hl
      exact fresh
    · rw [hnone] at hl
      cases hl
  | stepped found step alone =>
    rw [Table.find?_replaced found (step.attemptId :)] at hl
    split at hl
    · next hk =>
      subst hk
      cases found.symm.trans hnone
    · rw [hnone] at hl
      cases hl

/-- A launch in the states of a run, from when it is there. -/
def launchHistory (env : Env) (k : LaunchAttemptId) :
    List (Timestamp × Command) → Store → List LaunchSnapshot
  | [], s => (s.launches.find? k).toList
  | (t, c) :: rest, s =>
    (s.launches.find? k).toList ++ launchHistory env k rest (exec env t c s).2

/-- What a step is to a reader: the state moves as it may or the launch is attached, the
revision is the next one, and the instance and the evidence are set when it is attached and
at no other time. -/
structure LaunchSnapshot.Moves (l l' : LaunchSnapshot) : Prop where
  states : validLaunchTransition l.state l'.state = true ∨
    l.state = .prepared ∧ l'.state = .attached
  revision : l'.revision.get = l.revision.get + 1
  attached : l'.state = .attached → l.instanceId = none ∧ l.evidence = none ∧
    l'.instanceId.isSome = true ∧ l'.evidence.isSome = true
  otherwise : l'.state ≠ .attached → l'.instanceId = l.instanceId ∧ l'.evidence = l.evidence

theorem LaunchSnapshot.Step.moves (h : l.Step l') (hl : l.Kept) :
    l.Moves l' := by
  cases h with
  | attached instanceId evidence state free next =>
    have hevidence : l.evidence = none := by
      have htogether := hl.together
      rw [free] at htogether
      exact Option.isSome_eq_false_iff.mp htogether.symm |> Option.isNone_iff_eq_none.mp
    exact ⟨.inr ⟨state, rfl⟩, Revision.next_get next, fun _ => ⟨free, hevidence, rfl, rfl⟩,
      fun hne => absurd rfl hne⟩
  | moved target reason valid reasoned next =>
    refine ⟨.inl valid, Revision.next_get next, fun (htarget : target = .attached) => ?_,
      fun _ => ⟨rfl, rfl⟩⟩
    subst htarget
    cases hstate : l.state <;> rw [hstate] at valid <;> cases valid

/-- Steps leave a launch that is stopped, and the instance of one that has one. -/
theorem LaunchSnapshot.Step.rests (h : Relation.ReflTransGen Step l l') :
    (l.state = .stopped → l' = l) ∧
      (l.instanceId.isSome = true → l'.instanceId = l.instanceId ∧ l'.evidence = l.evidence) := by
  induction h with
  | refl => exact ⟨fun _ => rfl, fun _ => ⟨rfl, rfl⟩⟩
  | tail _ hstep ih =>
    refine ⟨fun hstopped => ?_, fun hsome => ?_⟩
    · have heq := ih.1 hstopped
      subst heq
      cases hstep with
      | attached _ _ state => cases hstopped.symm.trans state
      | moved _ _ valid =>
        rw [hstopped] at valid
        cases valid
    · obtain ⟨hinstance, hevidence⟩ := ih.2 hsome
      cases hstep with
      | attached _ _ _ free =>
        rw [← hinstance, free] at hsome
        cases hsome
      | moved => exact ⟨hinstance, hevidence⟩

theorem Run.launch (hs : Sound s) (h : Run env s s') (hl : s.launches.find? k = some l) :
    ∃ l', s'.launches.find? k = some l' ∧
      Relation.ReflTransGen LaunchSnapshot.Step l l' := by
  induction h with
  | refl => exact ⟨l, hl, .refl⟩
  | tail hrun hstep ih =>
    obtain ⟨l1, hl1, hsteps⟩ := ih
    cases hstep with
    | call t c =>
      obtain ⟨l2, hl2, rfl | hstep⟩ := (exec_launches env (Run.sound hs hrun) t c).find? hl1
      · exact ⟨l2, hl2, hsteps⟩
      · exact ⟨l2, hl2, hsteps.tail hstep⟩

/-- What is in a history was there in a state of the run. -/
theorem mem_launchHistory (h : l ∈ launchHistory env k cs s) :
    ∃ s₁, Run env s s₁ ∧ s₁.launches.find? k = some l ∧ Run env s₁ (calls env cs s) := by
  induction cs generalizing s with
  | nil => exact ⟨s, .refl, Option.mem_toList.mp h, .refl⟩
  | cons tc rest ih =>
    rcases List.mem_append.mp h with h | h
    · exact ⟨s, .refl, Option.mem_toList.mp h, run_calls _ s⟩
    · obtain ⟨s₁, hrun, hl, hrest⟩ := ih h
      exact ⟨s₁, .head (.call tc.1 tc.2) hrun, hl, hrest⟩

/-- A history begins with the launch as it is now, or as it is prepared. -/
theorem head_launchHistory (hs : Reachable env s) (h : l ∈ (launchHistory env k cs s).head?) :
    s.launches.find? k = some l ∨ s.launches.find? k = none ∧ l.Fresh := by
  induction cs generalizing s with
  | nil =>
    left
    change l ∈ (s.launches.find? k).toList.head? at h
    cases hk : s.launches.find? k with
    | none => rw [hk] at h; cases h
    | some l1 => rw [hk] at h; exact h
  | cons tc rest ih =>
    change l ∈ ((s.launches.find? k).toList ++ _).head? at h
    cases hk : s.launches.find? k with
    | some l1 => rw [hk] at h; exact .inl h
    | none =>
      rw [hk] at h
      refine .inr ⟨rfl, ?_⟩
      obtain hl | ⟨-, hfresh⟩ := ih (hs.tail (.call tc.1 tc.2)) h
      · exact (exec_launches env hs.sound tc.1 tc.2).fresh hk l hl
      · exact hfresh

/-- **The run lemma**: neighbours in a history are the same or a step apart. -/
theorem chain_launchHistory (hs : Reachable env s) (k : LaunchAttemptId)
    (cs : List (Timestamp × Command)) :
    (launchHistory env k cs s).IsChain fun l l' => l' = l ∨ l.Moves l' := by
  induction cs generalizing s with
  | nil =>
    unfold launchHistory
    cases s.launches.find? k <;> simp
  | cons tc rest ih =>
    have hnext := hs.tail (.call tc.1 tc.2)
    change ((s.launches.find? k).toList ++ _).IsChain _
    rcases hk : s.launches.find? k with _ | l
    · exact ih hnext
    refine List.isChain_cons.mpr ⟨fun l' hl' => ?_, ih hnext⟩
    obtain ⟨l1, hl1, hstep⟩ := (exec_launches env hs.sound tc.1 tc.2).find? hk
    obtain hfound | ⟨hnone, -⟩ := head_launchHistory hnext hl'
    · cases hl1.symm.trans hfound
      exact hstep.imp_right fun hstep =>
        hstep.moves (hs.launches.1 l (Table.mem_of_find? hk))
    · cases hl1.symm.trans hnone

/-- **The lifecycle of launches is kept.**  In every run, a launch is first seen as it was
prepared; from one state to the next it is as it was, or moves as `validLaunchTransition` says or
from prepared to attached, by one revision, and gets its instance and its evidence when it is
attached and at no other time; it has them together, and a reason exactly while it is to be
cleaned up; once stopped it stays as it is, and so do the instance and the evidence of one that
has them; and no two launches have one instance. -/
theorem launch_lifecycle_is_kept (env : Env) (cs : List (Timestamp × Command)) :
    (∀ k, (∀ l ∈ (launchHistory env k cs .empty).head?, l.Fresh) ∧
      ((launchHistory env k cs .empty).IsChain fun l l' => l' = l ∨ l.Moves l') ∧
      ∀ l ∈ launchHistory env k cs .empty, l.instanceId.isSome = l.evidence.isSome ∧
        (l.cleanupReason.isSome = true ↔ l.state = .cleanupRequired) ∧
        ∃ l', (calls env cs .empty).launches.find? k = some l' ∧ (l.state = .stopped → l' = l) ∧
          (l.instanceId.isSome = true → l'.instanceId = l.instanceId ∧ l'.evidence = l.evidence)) ∧
    ∀ l ∈ (calls env cs .empty).launches, ∀ l' ∈ (calls env cs .empty).launches,
      l.instanceId.isSome = true → l.instanceId = l'.instanceId → l.attemptId = l'.attemptId := by
  refine ⟨fun k => ⟨fun l hl => ?_, chain_launchHistory .refl k cs, fun l hl => ?_⟩,
    fun l hl l' hl' hsome heq =>
      congrArg _ ((reachable_calls cs).launches.2 l hl l' hl' hsome heq)⟩
  · obtain hfound | ⟨-, hfresh⟩ := head_launchHistory .refl hl
    · cases hfound
    · exact hfresh
  · obtain ⟨s₁, hreach, hfound, hrun⟩ := mem_launchHistory hl
    have hreach : Reachable env s₁ := hreach
    have hkept := hreach.launches.1 l (Table.mem_of_find? hfound)
    obtain ⟨l', hl', hsteps⟩ := hrun.launch hreach.sound hfound
    exact ⟨hkept.together, hkept.reasoned, l', hl', LaunchSnapshot.Step.rests hsteps⟩

namespace Sample

/-- A launch is prepared and attached. -/
def launchCalls : List (Timestamp × Command) :=
  [(seconds 0, .openSession openSession), (seconds 0, .acquireOwnership acquireOwnership),
    (seconds 0, .registerTemplate template), (seconds 0, .createRootParticipant createRoot),
    (seconds 0, .prepareLaunch ⟨request 4, epoch, session, root, id 0, 0, launch, 0⟩),
    (seconds 0, .attachLaunch
      ⟨request 5, session, epoch, launch, .initial, driver, ⟨1, 1, 1, 1, 1⟩⟩)]

end Sample

/-- A launch that is attached has not gone where `validLaunchTransition` lets it: attaching is
a move of its own. -/
theorem attaching_is_no_transition :
    (launchHistory Sample.world Sample.launch Sample.launchCalls .empty).map
        LaunchSnapshot.state = [.prepared, .attached] ∧
    ¬ (launchHistory Sample.world Sample.launch Sample.launchCalls .empty).IsChain
      fun l l' => l' = l ∨ validLaunchTransition l.state l'.state = true := by
  decide +kernel

end Navigator
