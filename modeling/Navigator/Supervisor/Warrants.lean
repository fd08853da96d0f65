/-
What each call of a supervisor comes after.

Whatever the answers are, a supervisor makes certain calls only after others: it spawns a
process for an attempt that the very same call has reserved, records a launch as stopped after
a cleanup or the end of the whole process group, sends a signal right after an inspection and
a look at the clock, and forgets a process after its exit was seen, or after it failed to stop
one whose ownership it had revoked.

* **`Supervision.Warrant`** — the rule;
* **`Supervision.disciplined`** — every program obeys it.
-/
import Navigator.Supervisor.System

namespace Navigator

open Prog InstanceSupervisor

variable {hostId : HostId} {epoch : FencingEpoch} {ids : StopRequestIds} {snapshot : LaunchSnapshot}
  {plan : LaunchPlan}
variable {e : SupervisorCall} {p : SupervisorProg Bool} {error : SupervisorError} {fence : Bool}

namespace Supervision

abbrev SupervisorAct : Type := Act SupervisorCall SupervisorCall.Answer

abbrev History : Type := List SupervisorAct

/-! ### Kinds of acts -/

/-- The attempt is reserved: nobody had prepared it before. -/
def reserves (attemptId : LaunchAttemptId) : SupervisorAct → Bool
  | ⟨.prepareLaunch c, .ok (.applied _)⟩ => c.attemptId = attemptId
  | _ => false

def spawns (attemptId : LaunchAttemptId) : SupervisorAct → Bool
  | ⟨.spawn plan _, _⟩ => plan.attemptId = attemptId
  | _ => false

def moves (attemptId : LaunchAttemptId) : SupervisorAct → Bool
  | ⟨.transitionLaunch c, _⟩ => c.attemptId = attemptId
  | _ => false

/-- The process of an attempt is told: by the backend, the store, or a binding. -/
def tells (attemptId : LaunchAttemptId) (evidence : ProcessEvidence) : SupervisorAct → Bool
  | ⟨.spawned a, .ok found⟩ => a = attemptId && found = evidence
  | ⟨.loadLaunch a, .ok l⟩ => a = attemptId && l.evidence = some evidence
  | ⟨.binding _ a, some binding⟩ => a = attemptId && binding.evidence = evidence
  | _ => false

/-- The leader is seen to have exited, or the whole group to be gone. -/
def showsExit (attemptId : LaunchAttemptId) : SupervisorAct → Bool
  | ⟨.inspect a _, .ok .exited⟩ => a = attemptId
  | ⟨.waitForExit a _, .ok true⟩ => a = attemptId
  | _ => false

def showsEnd (attemptId : LaunchAttemptId) : SupervisorAct → Bool
  | ⟨.waitForExit a _, .ok true⟩ => a = attemptId
  | _ => false

def revokes (attemptId : LaunchAttemptId) : SupervisorAct → Bool
  | ⟨.revokeOwnership a, .ok ()⟩ => a = attemptId
  | _ => false

/-- A call on the store fails, or a launch that is not stopped turns out to have no process. -/
def falters : SupervisorAct → Bool
  | ⟨.loadLaunch _, .ok l⟩ => l.evidence.isNone && l.state ≠ .stopped
  | ⟨.loadLaunch _, .error _⟩ | ⟨.validateLaunchAuthority .., .error _⟩
  | ⟨.transitionLaunch _, .error _⟩ | ⟨.transitionLaunchBy .., none⟩
  | ⟨.transitionLaunchBy .., some (.error _)⟩ => true
  | _ => false

/-! ### The rule -/

/-- The last act was not that a process was handed over. -/
def Calm : History → Prop
  | ⟨.spawned _, .ok _⟩ :: _ => False
  | _ => True

/-- The process was cleaned up after once its exit had been seen. -/
def Cleaned (attemptId : LaunchAttemptId) (r : Except SupervisorError Unit) (h : History) : Prop :=
  ∃ before, (⟨.cleanup attemptId, r⟩ :: before) <:+ h ∧ Did (showsExit attemptId) before

/-- The same, by the call that has spawned it. -/
def Compensated (attemptId : LaunchAttemptId) (h : History) : Prop :=
  ∃ r before, (⟨.cleanup attemptId, r⟩ :: before) <:+ h ∧ Did (showsExit attemptId) before ∧
    Did (spawns attemptId) before

/-- The whole group is known to be gone. -/
def Ended (attemptId : LaunchAttemptId) (h : History) : Prop :=
  Did (showsEnd attemptId) h ∨ Cleaned attemptId (.ok ()) h

/-- What an attempt is recorded as stopped after. -/
def MayStop (attemptId : LaunchAttemptId) (h : History) : Prop :=
  Ended attemptId h ∨ Compensated attemptId h ∨
    (Did (reserves attemptId) h ∧ ¬ Did (spawns attemptId) h)

/-- Something has gone wrong since the ownership was revoked and before an exit was seen. -/
def Faltered (attemptId : LaunchAttemptId) (h : History) : Prop :=
  ∃ a before, (a :: before) <:+ h ∧ falters a = true ∧ Did (revokes attemptId) before ∧
    ¬ Did (showsExit attemptId) before

/-- A look at the clock, before the deadline it is compared with, that follows on an inspection
which has found the process. -/
def Verified (attemptId : LaunchAttemptId) (evidence : ProcessEvidence) (h : History) : Prop :=
  ∃ deadline now before, h = ⟨.now (some deadline), now⟩ ::
    ⟨.inspect attemptId evidence, .ok .same⟩ :: before ∧ now < deadline

/-- What a call comes after. -/
def Due (h : History) : SupervisorCall → Prop
  | .spawn plan _ => Did (reserves plan.attemptId) h ∧ ¬ Did (spawns plan.attemptId) h ∧
    ¬ Did (moves plan.attemptId) h
  | .spawned attemptId => ∃ plan credential before,
    h = ⟨.spawn plan credential, ()⟩ :: before ∧ plan.attemptId = attemptId
  | .attachLaunch c => ⟨.spawned c.attemptId, .ok c.evidence⟩ ∈ h
  | .transitionLaunch c => c.target = .stopped → MayStop c.attemptId h
  | .transitionLaunchBy _ c => c.target = .stopped → Ended c.attemptId h
  | .inspect attemptId evidence => Did (tells attemptId evidence) h
  | .signal _ attemptId evidence =>
    Did (tells attemptId evidence) h ∧ Verified attemptId evidence h
  | .unbind _ attemptId => Did (showsExit attemptId) h ∨ Faltered attemptId h
  | _ => True

/-- A process that is handed over is bound next; whatever else is called is due. -/
def Warrant (h : History) : SupervisorCall → Prop
  | .bind _ attemptId binding => ∃ before, h = ⟨.spawned attemptId, .ok binding.evidence⟩ :: before
  | e => Calm h ∧ Due h e

variable {α β : Type} {h h' : History} {attemptId : LaunchAttemptId} {evidence : ProcessEvidence}

/-- A later state of a thread in which nothing was just handed over. -/
structure After (h h' : History) : Prop where
  extends_ : h <:+ h'
  calm : Calm h'

theorem After.refl (hcalm : Calm h) : After h h := ⟨List.suffix_refl h, hcalm⟩

theorem After.trans {h1 h2 h3 : History} (h12 : After h1 h2) (h23 : After h2 h3) : After h1 h3 :=
  ⟨h12.extends_.trans h23.extends_, h23.calm⟩

variable {a : SupervisorAct}

theorem After.cons (hafter : After h h') (ha : Calm (a :: h')) : After h (a :: h') :=
  ⟨hafter.extends_.trans (List.suffix_cons a h'), ha⟩

theorem After.did {kind : SupervisorAct → Bool} (hafter : After h h') (hdid : Did kind h) :
    Did kind h' :=
  hdid.mono hafter.extends_

theorem Cleaned.mono {r : Except SupervisorError Unit} (hclean : Cleaned attemptId r h)
    (hsuffix : h <:+ h') : Cleaned attemptId r h' := by
  obtain ⟨before, hbefore, hexit⟩ := hclean
  exact ⟨before, hbefore.trans hsuffix, hexit⟩

theorem Compensated.mono (hdone : Compensated attemptId h) (hsuffix : h <:+ h') :
    Compensated attemptId h' := by
  obtain ⟨r, before, hbefore, hdone⟩ := hdone
  exact ⟨r, before, hbefore.trans hsuffix, hdone⟩

theorem Ended.mono (hended : Ended attemptId h) (hsuffix : h <:+ h') : Ended attemptId h' :=
  hended.imp (·.mono hsuffix) (·.mono hsuffix)

/-- Something has gone wrong between two states of a thread. -/
def FailedSince (h h' : History) : Prop :=
  ∃ a before, (a :: before) <:+ h' ∧ h <:+ before ∧ falters a = true

theorem FailedSince.mono {h1 h2 h3 h4 : History} (hfailed : FailedSince h2 h3)
    (hbefore : h1 <:+ h2) (hafter : h3 <:+ h4) : FailedSince h1 h4 := by
  obtain ⟨a, before, ha, hsince, hfalters⟩ := hfailed
  exact ⟨a, before, ha.trans hafter, hbefore.trans hsince, hfalters⟩

/-- An act that goes wrong. -/
theorem FailedSince.head (hafter : After h h') (ha : falters a = true) : FailedSince h (a :: h') :=
  ⟨a, h', List.suffix_refl _, hafter.extends_, ha⟩

/-- What is required of a result and the history at the end. -/
abbrev Post (β : Type) : Type := Except SupervisorError β → History → Prop

/-- What a stop may say: that a process is gone only after its exit was seen. -/
structure Seen (attemptId : LaunchAttemptId) (gone : β) (h : History)
    (x : Except SupervisorError β) (h' : History) : Prop where
  after : After h h'
  exit : x = .ok gone → Did (showsExit attemptId) h'

variable {h0 : History}

theorem After.seen {gone : β} {x : Except SupervisorError β} (hafter : After h0 h)
    (hx : Seen attemptId gone h x h') : Seen attemptId gone h0 x h' :=
  ⟨hafter.trans hx.after, hx.exit⟩

/-- How a stop may end: with a failure only if something has gone wrong on the way. -/
structure Blames (h : History) (x : Except SupervisorError β) (h' : History) : Prop where
  after : After h h'
  failed : x.isOk = false → FailedSince h h'

theorem After.blames {x : Except SupervisorError α} {y : Except SupervisorError β}
    (hafter : After h0 h) (hx : Blames h x h') (hy : y.isOk = false → x.isOk = false) :
    Blames h0 y h' :=
  ⟨hafter.trans hx.after, fun he =>
    (hx.failed (hy he)).mono hafter.extends_ (List.suffix_refl _)⟩

/-- The rule is obeyed, whatever the result is, and no process was just handed over in the end. -/
abbrev Heeds (h : History) (p : SupervisorProg β) : Prop := p.Obeys Warrant (fun _ => Calm) h

/-- What has shown the end of a group has shown the exit of its leader. -/
theorem showsExit_of_showsEnd (ha : showsEnd attemptId a = true) :
    showsExit attemptId a = true := by
  unfold showsEnd at ha
  split at ha
  · exact ha
  · cases ha

/-! ### Stopping a process -/

section Rules

variable {R : Post β} {f : e.Answer → SupervisorProg β}

/-- A call that is always due. -/
theorem ask_obeys (hwarrant : Warrant h e) (hf : ∀ r, (f r).Obeys Warrant R (⟨e, r⟩ :: h)) :
    (ask e >>= f).Obeys Warrant R h :=
  Obeys.perform hwarrant hf

/-- The calls that the rule has nothing special for. -/
def Plain : SupervisorCall → Prop
  | .bind .. | .spawned _ => False
  | _ => True

theorem After.ask (hafter : After h0 h) (hplain : Plain e) (hdue : Due h e)
    (hf : ∀ r, After h0 (⟨e, r⟩ :: h) → (f r).Obeys Warrant R (⟨e, r⟩ :: h)) :
    (ask e >>= f).Obeys Warrant R h := by
  refine ask_obeys ?_ fun r => hf r (hafter.cons ?_)
  · cases e <;> first | exact ⟨hafter.calm, hdue⟩ | exact hplain.elim
  · cases e <;> trivial

/-- A call on the store that ends the program if it fails. -/
theorem stored_obeys {γ : Type} {x : e.Answer → Except StoreError γ} {f : γ → SupervisorProg β}
    (hwarrant : Warrant h e) (herror : ∀ r error, R (.error error) (⟨e, r⟩ :: h))
    (hf : ∀ r a, x r = .ok a → (f a).Obeys Warrant R (⟨e, r⟩ :: h)) :
    (ask e >>= fun r => stored (x r) >>= f).Obeys Warrant R h := by
  refine ask_obeys hwarrant fun r => obeys_bind.mpr ?_
  cases hr : x r with
  | error error => exact herror r _
  | ok a => exact hf r a hr

/-- The same of any other call. -/
theorem ofExcept_obeys {γ : Type} {x : e.Answer → Except SupervisorError γ}
    {f : γ → SupervisorProg β} (hwarrant : Warrant h e)
    (herror : ∀ r error, R (.error error) (⟨e, r⟩ :: h))
    (hf : ∀ r a, x r = .ok a → (f a).Obeys Warrant R (⟨e, r⟩ :: h)) :
    (ask e >>= fun r => ofExcept (x r) >>= f).Obeys Warrant R h := by
  refine ask_obeys hwarrant fun r => obeys_bind.mpr ?_
  cases hr : x r with
  | error error => exact herror r error
  | ok a => exact hf r a hr

variable {I : InstanceSupervisor} {deadline : Instant}
variable {rounds : ℕ}

section

variable (hcalm : Calm h)
include hcalm

theorem afterFailedSignal_obeys (htold : Did (tells attemptId evidence) h) :
    (afterFailedSignal attemptId evidence error).Obeys Warrant (Seen attemptId true h) h := by
  refine (After.refl hcalm).ask trivial htold fun r hafter => obeys_bind.mpr ?_
  obtain e | observation := r
  · exact Seen.mk hafter nofun
  cases observation with
  | exited => exact Seen.mk hafter fun _ => did_head (decide_eq_true rfl)
  | mismatch => exact Seen.mk hafter nofun
  | same => exact Seen.mk hafter nofun

theorem signalAndWait_obeys {kind : StopSignal} {timeout : Nanos}
    (htold : Did (tells attemptId evidence) h) :
    (signalAndWait kind timeout attemptId evidence deadline).Obeys Warrant
      (Seen attemptId (some true) h) h := by
  refine (After.refl hcalm).ask trivial htold fun r hafter => obeys_bind.mpr ?_
  obtain e | observation := r
  · exact Seen.mk hafter nofun
  cases observation with
  | exited => exact Seen.mk hafter fun _ => did_head (decide_eq_true rfl)
  | mismatch => exact Seen.mk hafter nofun
  | same =>
    refine hafter.ask trivial trivial fun now hafter => ?_
    split
    · exact Seen.mk hafter nofun
    next hnow =>
    -- the signal
    refine hafter.ask trivial ⟨hafter.did htold, ⟨deadline, now, h, rfl, not_le.mp hnow⟩⟩
      fun r hafter => ?_
    cases r with
    | error error =>
      refine (afterFailedSignal_obeys hafter.calm (hafter.did htold)).bind fun x h' hx => ?_
      obtain e | b := x
      · exact Seen.mk (hafter.trans hx.after) nofun
      refine Seen.mk (hafter.trans hx.after) fun hb => hx.exit ?_
      cases hb
      rfl
    | ok u =>
      refine hafter.ask trivial trivial fun now hafter => ?_
      dsimp only
      split
      · exact Seen.mk hafter nofun
      refine hafter.ask trivial trivial fun r hafter => obeys_bind.mpr ?_
      obtain e | value := r
      · exact Seen.mk hafter nofun
      cases value with
      | true => exact Seen.mk hafter fun _ => did_head (decide_eq_true rfl)
      | false => exact Seen.mk hafter nofun

theorem stopVerifiedUntil_obeys (htold : Did (tells attemptId evidence) h) :
    (I.stopVerifiedUntil attemptId evidence deadline).Obeys Warrant (Seen attemptId true h) h := by
  refine (signalAndWait_obeys hcalm htold).bind fun x h1 hx1 => ?_
  match x with
  | .error e => exact Seen.mk hx1.after nofun
  | .ok (some b) =>
    refine Seen.mk hx1.after fun hb => hx1.exit ?_
    cases hb
    rfl
  | .ok none =>
    refine (signalAndWait_obeys hx1.after.calm (hx1.after.did htold)).bind fun x h2 hx2 => ?_
    match x with
    | .error e => exact Seen.mk (hx1.after.trans hx2.after) nofun
    | .ok none => exact Seen.mk (hx1.after.trans hx2.after) nofun
    | .ok (some b) =>
      refine Seen.mk (hx1.after.trans hx2.after) fun hb => hx2.exit ?_
      cases hb
      rfl

theorem stopVerified_obeys (htold : Did (tells attemptId evidence) h) :
    (I.stopVerified attemptId evidence).Obeys Warrant (Seen attemptId true h) h := by
  refine (After.refl hcalm).ask trivial trivial fun now hafter => ?_
  exact (stopVerifiedUntil_obeys hafter.calm (hafter.did htold)).mono fun _ _ => hafter.seen

omit hcalm in
/-- A stop whose failure counts as none is a stop that has ended. -/
theorem orFalse_stop_obeys {R : Post Bool} (hp : p.Obeys Warrant (Seen attemptId true h) h)
    (hR : ∀ b h', Seen attemptId true h (.ok b) h' → R (.ok b) h') :
    (orFalse p).Obeys Warrant R h := by
  refine obeys_bind.mpr (obeys_attempt.mpr (hp.mono fun x h' hx => ?_))
  cases x with
  | error e => exact hR _ _ ⟨hx.after, nofun⟩
  | ok b => exact hR _ _ hx

/-! ### Recording what a process has come to -/

theorem verifyStopped_obeys {R : Post Bool} (htold : Did (tells attemptId evidence) h)
    (hR : ∀ b h', After h h' →
      (b = true → Did (showsExit attemptId) h' ∧ Ended attemptId h') → R (.ok b) h') :
    (I.verifyStopped attemptId evidence deadline).Obeys Warrant R h := by
  -- the cleanup
  have hcleanup : ∀ h', After h h' → Did (showsExit attemptId) h' →
      (do return (← ask (.cleanup attemptId)).isOk : SupervisorProg Bool).Obeys Warrant R h' := by
    intro h' hafter hexit
    refine ask_obeys ⟨hafter.calm, trivial⟩ fun r => ?_
    refine hR _ _ (hafter.cons trivial) fun hr => ⟨hexit.cons, .inr ⟨h', ?_, hexit⟩⟩
    cases r with
    | error e => cases hr
    | ok u => exact List.suffix_refl _
  refine obeys_bind.mpr (orFalse_stop_obeys (stopVerifiedUntil_obeys hcalm htold) ?_)
  intro proven h1 hx
  cases proven with
  | true => exact hcleanup h1 hx.after (hx.exit rfl)
  | false =>
    refine obeys_bind.mpr (hx.after.ask trivial (hx.after.did htold) fun r hafter2 => ?_)
    match r with
    | .error e => exact hR _ _ hafter2 nofun
    | .ok .same => exact hR _ _ hafter2 nofun
    | .ok .mismatch => exact hR _ _ hafter2 nofun
    | .ok .exited => exact hcleanup _ hafter2 (did_head (decide_eq_true rfl))

theorem transitionTerminalWithRetry_obeys {c : TransitionLaunch}
    (hstop : c.target = .stopped → Ended c.attemptId h) :
    (transitionTerminalWithRetry c deadline rounds).Obeys Warrant (Blames h) h := by
  induction rounds generalizing h with
  | zero =>
    exact obeys_perform.mpr ⟨⟨hcalm, trivial⟩, fun _ => ⟨(After.refl hcalm).cons trivial, nofun⟩⟩
  | succ rounds ih =>
    refine (After.refl hcalm).ask trivial hstop fun r hafter => ?_
    match r with
    | none => exact Blames.mk hafter fun _ => .head (.refl hcalm) rfl
    | some (.ok m) => exact Blames.mk hafter nofun
    | some (.error error) =>
      have hfailed : FailedSince h (⟨.transitionLaunchBy deadline c, some (.error error)⟩ :: h) :=
        .head (.refl hcalm) rfl
      dsimp only
      split
      · refine hafter.ask trivial trivial fun now hafter => ?_
        split
        · refine hafter.ask trivial trivial fun _ hafter => ?_
          refine (ih hafter.calm fun htarget => (hstop htarget).mono hafter.extends_).mono ?_
          exact fun x h' hx => hafter.blames hx id
        · exact Blames.mk hafter fun _ => hfailed.mono (List.suffix_refl _) (List.suffix_cons _ _)
      · exact Blames.mk hafter fun _ => hfailed

theorem recordStop_obeys {stopping : LaunchSnapshot} {stopped : Bool}
    (hstop : stopped = true → Did (showsExit attemptId) h ∧ Ended attemptId h) :
    (I.recordStop attemptId hostId epoch ids deadline stopping stopped).Obeys Warrant
      (Blames h) h := by
  unfold recordStop
  split
  · exact Blames.mk (.refl hcalm) nofun
  refine (After.refl hcalm).ask trivial trivial fun now hafter => ?_
  refine (transitionTerminalWithRetry_obeys hafter.calm fun htarget => ?_).bind fun x h' hx => ?_
  · cases stopped with
    | true => exact (hstop rfl).2.mono hafter.extends_
    | false => cases htarget
  · have hafter' := hafter.trans hx.after
    obtain e | u := x
    · exact hafter.blames hx fun _ => rfl
    cases stopped with
    | false => exact Blames.mk hafter' nofun
    | true =>
      refine ask_obeys ⟨hafter'.calm, .inl (hafter'.did (hstop rfl).1)⟩ fun _ => ?_
      exact Blames.mk (hafter'.cons trivial) nofun

theorem isLateCleanup_obeys {R : Post Bool} (hR : ∀ b h', After h h' → R (.ok b) h') :
    (isLateCleanup snapshot deadline).Obeys Warrant R h := by
  unfold isLateCleanup
  split
  · exact ask_obeys ⟨hcalm, trivial⟩ fun _ => hR _ _ ((After.refl hcalm).cons trivial)
  · exact hR _ _ (.refl hcalm)

theorem beginStop_obeys :
    (beginStop attemptId hostId epoch ids snapshot).Obeys Warrant (Blames h) h := by
  unfold beginStop
  split
  · exact Blames.mk (.refl hcalm) nofun
  refine (After.refl hcalm).ask trivial nofun fun r hafter => obeys_bind.mpr ?_
  cases r with
  | error error => exact Blames.mk hafter fun _ => .head (.refl hcalm) rfl
  | ok m => exact Blames.mk hafter nofun

/-! ### Stopping -/

theorem stopWithDeadline_obeys :
    (I.stopWithDeadline attemptId hostId epoch ids deadline).Obeys Warrant (Blames h) h := by
  refine (After.refl hcalm).ask trivial trivial fun r hloaded => obeys_bind.mpr ?_
  obtain error | snapshot := r
  · exact Blames.mk hloaded fun _ => .head (.refl hcalm) rfl
  change (ite _ _ _ : SupervisorProg StopOutcome).Obeys Warrant _ _
  split
  · exact Blames.mk hloaded (by rintro ⟨⟩)
  next hstopped =>
  refine obeys_bind.mpr (isLateCleanup_obeys hloaded.calm fun late h1 hsince => ?_)
  have hafter1 := hloaded.trans hsince
  cases late with
  | true => exact Blames.mk hafter1 (by rintro ⟨⟩)
  | false =>
    refine hafter1.ask trivial trivial fun r hafter2 => obeys_bind.mpr ?_
    obtain error | u := r
    · exact Blames.mk hafter2 fun _ => .head hafter1 rfl
    cases hevidence : snapshot.evidence with
    | none =>
      -- a launch that is not stopped and has no process
      refine Blames.mk hafter2 fun _ =>
        ⟨⟨.loadLaunch attemptId, .ok snapshot⟩, h, ?_, List.suffix_refl _, ?_⟩
      · exact hsince.extends_.trans (List.suffix_cons _ _)
      · simp [falters, hevidence, hstopped]
    | some evidence =>
      have htold : Did (tells attemptId evidence) h1 :=
        hsince.did (did_head (by simp [tells, hevidence]))
      refine hafter2.ask trivial trivial fun now hafter3 => ?_
      split
      · refine hafter3.ask trivial trivial fun now' hafter4 => ?_
        refine Obeys.bind (transitionTerminalWithRetry_obeys hafter4.calm (by rintro ⟨⟩))
          fun x h' hx => ?_
        cases x with
        | error e => exact hafter4.blames hx fun _ => rfl
        | ok u => exact Blames.mk (hafter4.trans hx.after) (by rintro ⟨⟩)
      · refine (beginStop_obeys hafter3.calm).bind fun x h4 hx => ?_
        have hafter4 := hafter3.trans hx.after
        obtain e | stopping := x
        · exact hafter3.blames hx fun _ => rfl
        refine obeys_bind.mpr (verifyStopped_obeys hafter4.calm
          (hx.after.did htold.cons.cons) ?_)
        intro stopped h5 hafter5 hstop
        replace hafter5 := hafter4.trans hafter5
        exact (recordStop_obeys hafter5.calm hstop).mono fun _ _ hx => hafter5.blames hx id

theorem stop_obeys : (I.stop attemptId hostId epoch ids).Obeys Warrant (Blames h) h := by
  refine (After.refl hcalm).ask trivial trivial fun now hafter => ?_
  exact (stopWithDeadline_obeys hafter.calm).mono fun _ _ hx => hafter.blames hx id

theorem compensateBootstrap_heeds :
    Heeds h (I.compensateBootstrap attemptId hostId epoch ids error : SupervisorProg β) := by
  refine obeys_bind.mpr (obeys_attempt.mpr ((stop_obeys hcalm).mono fun x h' hx => ?_))
  match x with
  | .error e => exact hx.after.calm
  | .ok .stopped => exact hx.after.calm
  | .ok .alreadyStopped => exact hx.after.calm
  | .ok .cleanupRequired => exact hx.after.calm

end

/-! ### Launching -/

theorem compensateLaunch_obeys {R : Post Unit} (hcalm : Calm h)
    (htold : Did (tells plan.attemptId evidence) h) (hspawned : Did (spawns plan.attemptId) h)
    (hR : ∀ x h', Calm h' → R x h') : (I.compensateLaunch plan evidence).Obeys Warrant R h := by
  refine obeys_bind.mpr (orFalse_stop_obeys (stopVerified_obeys hcalm htold) ?_)
  intro stopped h1 hx
  dsimp -zeta only [Then]
  extract_lets +lift reason recorded
  -- what is recorded in the end
  have hrecord : ∀ h', After h h' → (stopped = true → Compensated plan.attemptId h') →
      (recorded ()).Obeys Warrant R h' := by
    intro h' hafter hdone
    refine hafter.ask trivial trivial fun r hafter => ?_
    obtain e | snapshot := r
    · exact hR _ _ trivial
    refine hafter.ask trivial nofun fun r _ => ?_
    obtain e | cleanup := r
    · exact hR _ _ trivial
    cases stopped with
    | false => exact hR _ _ trivial
    | true =>
      refine ask_obeys ⟨trivial, fun _ => .inr (.inl ((hdone rfl).mono ?_))⟩
        fun _ => hR _ _ trivial
      exact (List.suffix_cons _ _).trans (List.suffix_cons _ _)
  obtain _ | _ := stopped
  · exact hrecord h1 hx.after nofun
  refine hx.after.ask trivial trivial fun r hafter2 => ?_
  refine hafter2.ask trivial (.inl (hx.exit rfl).cons) fun _ hafter3 => ?_
  refine hrecord _ hafter3 fun _ => ⟨r, h1, ?_, hx.exit rfl, ?_⟩
  · exact List.suffix_cons _ _
  · exact hx.after.did hspawned

theorem classifyWithoutProcess_obeys {R : Post Unit} (hcalm : Calm h)
    (hreserved : Did (reserves plan.attemptId) h) (hspawned : ¬ Did (spawns plan.attemptId) h)
    (hR : ∀ x h', Calm h' → R x h') : (classifyWithoutProcess plan snapshot).Obeys Warrant R h := by
  refine ask_obeys ⟨hcalm, nofun⟩ fun r => ?_
  cases r with
  | error e => exact hR _ _ trivial
  | ok cleanup =>
    refine ask_obeys ⟨trivial, fun _ => .inr (.inr ⟨hreserved.cons, ?_⟩)⟩ fun _ => hR _ _ trivial
    exact fun hdid => hspawned (hdid.of_cons rfl)

theorem launchPrepared_heeds {credential : List UInt8} {prepared : LaunchSnapshot} (hcalm : Calm h)
    (hreserved : Did (reserves plan.attemptId) h) (hspawned : ¬ Did (spawns plan.attemptId) h)
    (hmoved : ¬ Did (moves plan.attemptId) h) :
    Heeds h (I.launchPrepared plan credential prepared) := by
  refine ask_obeys ⟨hcalm, trivial⟩ fun r => ?_
  cases r with
  | error error =>
    refine obeys_bind.mpr (classifyWithoutProcess_obeys trivial hreserved.cons ?_ ?_)
    · exact fun hdid => hspawned (hdid.of_cons rfl)
    · intro x h' hcalm'
      cases x <;> exact hcalm'
  | ok u =>
    refine ask_obeys ⟨trivial, hreserved.cons, fun hdid => hspawned (hdid.of_cons rfl),
      fun hdid => hmoved (hdid.of_cons rfl)⟩ fun _ => ?_
    refine ask_obeys ⟨trivial, plan, credential, _, rfl, rfl⟩ fun r => obeys_bind.mpr ?_
    obtain error | evidence := r
    · trivial
    -- whatever goes wrong once the process is bound
    have hcompensate : ∀ {h' : History} (error : SupervisorError), Calm h' →
        (⟨.spawned plan.attemptId, .ok evidence⟩ :: ⟨.spawn plan credential, ()⟩ ::
          ⟨.hit .beforeSpawn, .ok u⟩ :: h) <:+ h' →
        Heeds h' (do
          I.compensateLaunch plan evidence
          Prog.fail error : SupervisorProg LaunchSnapshot) := by
      intro h' error hcalm' hsuffix
      have htold : Did (tells plan.attemptId evidence) h' :=
        Did.mono (did_head (by simp [tells])) hsuffix
      have hdid : Did (spawns plan.attemptId) h' :=
        Did.mono (did_head (decide_eq_true rfl)).cons hsuffix
      refine obeys_bind.mpr (compensateLaunch_obeys hcalm' htold hdid fun x h' hended => ?_)
      cases x <;> exact hended
    refine ask_obeys ⟨_, rfl⟩ fun _ => ask_obeys ⟨trivial, trivial⟩ fun r => ?_
    obtain error | u := r
    · exact hcompensate error trivial ⟨[_, _], rfl⟩
    refine ask_obeys ⟨trivial, ?_⟩ fun r => ?_
    · exact List.mem_cons_of_mem _ (List.mem_cons_of_mem _ List.mem_cons_self)
    obtain error | attached := r
    · exact hcompensate (.store error) trivial ⟨[_, _, _], rfl⟩
    refine ask_obeys ⟨trivial, trivial⟩ fun r => ?_
    cases r with
    | error error => exact hcompensate error trivial ⟨[_, _, _, _], rfl⟩
    | ok u => trivial

theorem launch_heeds {env : Env} : Heeds [] (I.launch env plan) := by
  unfold launch
  split
  · trivial
  refine ofExcept_obeys ⟨trivial, trivial⟩ (fun _ _ => trivial) fun _ credential _ => ?_
  split
  · trivial
  refine ask_obeys ⟨trivial, trivial⟩ fun r => obeys_bind.mpr ?_
  have hother : ∀ (prepared : LaunchSnapshot) h', Calm h' → Heeds h'
      (if prepared.state = .prepared then Prog.fail .reconciliationRequired else return prepared :
        SupervisorProg LaunchSnapshot) := by
    intro prepared h' hcalm
    split <;> exact hcalm
  match r with
  | .error error => trivial
  | .ok (.replayed prepared) => exact hother prepared _ trivial
  | .ok (.unchanged prepared) => exact hother prepared _ trivial
  | .ok (.applied prepared) =>
    refine launchPrepared_heeds trivial (did_head (decide_eq_true rfl)) ?_ ?_
    · simp [Did, spawns]
    · simp [Did, moves]

theorem ready_obeys {request : ReadyRequest} {proof : Digest} {R : Post LaunchSnapshot}
    (hcalm : Calm h) (hR : ∀ x h', Calm h' → R x h') :
    (I.ready request proof).Obeys Warrant R h := by
  refine ofExcept_obeys ⟨hcalm, trivial⟩ (fun _ _ => hR _ _ trivial) fun _ _ _ => ?_
  refine stored_obeys ⟨trivial, trivial⟩ (fun _ _ => hR _ _ trivial) fun _ snapshot _ => ?_
  refine ask_obeys ⟨trivial, trivial⟩ fun r => ?_
  obtain _ | binding := r
  · exact hR _ _ trivial
  dsimp only
  split
  · exact hR _ _ trivial
  next instanceId _ =>
  refine obeys_bind.mpr ?_
  cases I.readyProof binding.credential snapshot.sessionId instanceId request.attemptId
      request.ownershipEpoch request.nonce with
  | error error => exact hR _ _ trivial
  | ok expectedProof =>
    change (ite _ _ _ : SupervisorProg LaunchSnapshot).Obeys Warrant R _
    split
    · exact hR _ _ trivial
    refine ofExcept_obeys ⟨trivial, did_head (by simp [tells])⟩ (fun _ _ => hR _ _ trivial)
      fun _ observation _ => ?_
    split
    · exact hR _ _ trivial
    · exact stored_obeys ⟨trivial, nofun⟩ (fun _ _ => hR _ _ trivial) fun _ _ _ => hR _ _ trivial

theorem connectStartReady_heeds {env : Env} {request : DriverBootstrapRequest} (hcalm : Calm h) :
    Heeds h (I.connectStartReady env request) := by
  refine stored_obeys ⟨hcalm, trivial⟩ (fun _ _ => trivial) fun _ snapshot _ => ?_
  split
  · trivial
  refine stored_obeys ⟨trivial, trivial⟩ (fun _ _ => trivial) fun _ _ _ => ?_
  refine ask_obeys ⟨trivial, trivial⟩ fun r => ?_
  split
  · trivial
  split
  · trivial
  refine ask_obeys ⟨trivial, trivial⟩ fun r => ?_
  split
  · exact compensateBootstrap_heeds trivial
  split
  · exact compensateBootstrap_heeds trivial
  refine ask_obeys ⟨trivial, trivial⟩ fun r => ?_
  split
  · exact compensateBootstrap_heeds trivial
  split
  · exact compensateBootstrap_heeds trivial
  refine obeys_bind.mpr (obeys_attempt.mpr (ready_obeys trivial fun x h' hcalm' => ?_))
  cases x with
  | error error => exact compensateBootstrap_heeds hcalm'
  | ok launch => trivial

/-! ### The loss of the ownership -/

theorem finishAlreadyExited_obeys {R : Post StopOutcome} (hcalm : Calm h)
    (hend : Did (showsEnd attemptId) h) (hR : ∀ x h', After h h' → R x h') :
    (I.finishAlreadyExited attemptId hostId epoch ids).Obeys Warrant R h := by
  refine (After.refl hcalm).ask trivial trivial fun r hafter => obeys_bind.mpr ?_
  obtain error | snapshot := r
  · exact hR _ _ hafter
  refine hafter.ask trivial nofun fun r hafter => obeys_bind.mpr ?_
  obtain error | stopping := r
  · exact hR _ _ hafter
  refine hafter.ask trivial (fun _ => .inl (.inl (hafter.did hend))) fun r hafter =>
    obeys_bind.mpr ?_
  obtain error | stopped := r
  · exact hR _ _ hafter
  refine hafter.ask trivial trivial fun r hafter => obeys_bind.mpr ?_
  obtain error | u := r
  · exact hR _ _ hafter
  have hexit : Did (showsExit attemptId) h :=
    hend.imp fun a ha => ⟨ha.1, showsExit_of_showsEnd ha.2⟩
  exact hafter.ask trivial (.inl (hafter.did hexit)) fun _ hafter => hR _ _ hafter

theorem abandon_heeds (hcalm : Calm h)
    (hdue : ∀ h', After h h' → Did (showsExit attemptId) h' ∨ Faltered attemptId h') :
    Heeds h (I.abandon attemptId) :=
  (After.refl hcalm).ask trivial trivial fun _ hafter =>
    hafter.ask trivial (hdue _ hafter) fun _ _ => trivial

theorem ownershipLost_heeds (hcalm : Calm h) :
    Heeds h (I.ownershipLost attemptId hostId epoch ids) := by
  refine ofExcept_obeys ⟨hcalm, trivial⟩ (fun _ _ => trivial) fun r u hr => ?_
  obtain rfl : r = .ok u := hr
  have hrevoked : Did (revokes attemptId) (⟨.revokeOwnership attemptId, .ok u⟩ :: h) :=
    did_head (decide_eq_true rfl)
  refine ofExcept_obeys ⟨trivial, trivial⟩ (fun _ _ => trivial) fun r exited hr => ?_
  obtain rfl : r = .ok exited := hr
  cases exited with
  | true =>
    refine obeys_bind.mpr (obeys_attempt.mpr (finishAlreadyExited_obeys trivial
      (did_head (decide_eq_true rfl)) fun x h1 hafter1 => ?_))
    cases x with
    | ok outcome => exact hafter1.calm
    | error error =>
      refine abandon_heeds hafter1.calm fun h2 hafter2 => .inl ?_
      exact hafter2.did (hafter1.did (did_head (decide_eq_true rfl)))
  | false =>
    refine obeys_bind.mpr (obeys_attempt.mpr (Obeys.mono (stop_obeys trivial) fun x h1 hx => ?_))
    cases x with
    | ok outcome => exact hx.after.calm
    | error error =>
      -- what has gone wrong, if the exit was not seen before
      obtain ⟨a, before, ha, hsince, hfalters⟩ := hx.failed rfl
      have hdue : ∀ h2, h1 <:+ h2 → Did (showsExit attemptId) h2 ∨ Faltered attemptId h2 := by
        intro h2 hsuffix
        by_cases hexit : Did (showsExit attemptId) before
        · exact .inl (hexit.mono ((List.suffix_cons _ _).trans (ha.trans hsuffix)))
        · exact .inr ⟨a, before, ha.trans hsuffix, hfalters, hrevoked.cons.mono hsince, hexit⟩
      refine ask_obeys ⟨hx.after.calm, trivial⟩ fun r => ?_
      obtain _ | binding := r
      · refine abandon_heeds trivial fun h2 hafter2 => hdue _ ?_
        exact (List.suffix_cons _ _).trans hafter2.extends_
      have htold : Did (tells attemptId binding.evidence)
          (⟨.binding I.id attemptId, some binding⟩ :: h1) := did_head (by simp [tells])
      refine obeys_bind.mpr (orFalse_stop_obeys (stopVerified_obeys trivial htold)
        fun b h2 hx => ?_)
      refine abandon_heeds hx.after.calm fun h3 hafter3 => hdue _ ?_
      exact (List.suffix_cons _ _).trans (hx.after.extends_.trans hafter3.extends_)

theorem setTerminalFence_obeys {f : Unit → SupervisorProg β} (hcalm : Calm h)
    (hf : ∀ h', After h h' → (f ()).Obeys Warrant R h') :
    (setTerminalFence fence >>= f).Obeys Warrant R h := by
  cases fence with
  | true => exact ask_obeys ⟨hcalm, trivial⟩ fun _ => hf _ ((After.refl hcalm).cons trivial)
  | false => exact hf _ (.refl hcalm)

theorem stopUnwilling_obeys (hcalm : Calm h) (htold : Did (tells attemptId evidence) h) :
    (I.stopUnwilling attemptId evidence).Obeys Warrant (Seen attemptId true h) h := by
  refine (After.refl hcalm).ask trivial trivial fun now hafter => ?_
  split
  · exact Seen.mk hafter nofun
  · exact orFalse_stop_obeys (stopVerifiedUntil_obeys hafter.calm (hafter.did htold))
      fun _ _ => hafter.seen

theorem stopRevoked_obeys (hcalm : Calm h) (htold : Did (tells attemptId evidence) h) :
    (I.stopRevoked attemptId evidence).Obeys Warrant (Seen attemptId true h) h := by
  refine (After.refl hcalm).ask trivial trivial fun r hafter => ?_
  have hforce := (stopUnwilling_obeys (I := I) hafter.calm (hafter.did htold)).mono
    fun _ _ => hafter.seen
  rcases r with e | value
  · exact hforce
  · cases value with
    | true => exact Seen.mk hafter fun _ => did_head (decide_eq_true rfl)
    | false => exact hforce

theorem revokeUnloaded_heeds {error : StoreError} (hcalm : Calm h) :
    Heeds h (I.revokeUnloaded attemptId fence error) := by
  refine setTerminalFence_obeys hcalm fun h1 hafter1 => ?_
  refine ask_obeys ⟨hafter1.calm, trivial⟩ fun r => ?_
  obtain _ | binding := r
  · trivial
  have htold : Did (tells attemptId binding.evidence)
      (⟨.binding I.id attemptId, some binding⟩ :: h1) := did_head (by simp [tells])
  refine ofExcept_obeys ⟨trivial, trivial⟩ (fun _ _ => trivial) fun _ _ _ => ?_
  refine Obeys.bind (stopRevoked_obeys trivial htold.cons) fun x h' hx => ?_
  match x with
  | .error e => exact hx.after.calm
  | .ok false => exact hx.after.calm
  | .ok true =>
    refine ask_obeys ⟨hx.after.calm, trivial⟩ fun r => ?_
    cases r with
    | error e => trivial
    | ok u => exact ask_obeys ⟨trivial, .inl (hx.exit rfl).cons⟩ fun _ => trivial

theorem watchOwnershipWithFence_heeds {uncertainty : Option Instant} (hcalm : Calm h) :
    Heeds h (I.watchOwnershipWithFence attemptId hostId epoch ids fence rounds uncertainty) := by
  induction rounds generalizing h uncertainty with
  | zero => exact ask_obeys ⟨hcalm, trivial⟩ fun _ => trivial
  | succ rounds ih =>
    refine ask_obeys ⟨hcalm, trivial⟩ fun r => ?_
    split
    · split
      · refine ask_obeys ⟨trivial, trivial⟩ fun _ => .ite ?_ ?_
        · exact setTerminalFence_obeys trivial fun _ hafter => ownershipLost_heeds hafter.calm
        · exact ask_obeys ⟨trivial, trivial⟩ fun _ => ih trivial
      · exact revokeUnloaded_heeds trivial
    · split
      · exact setTerminalFence_obeys trivial fun _ hafter => hafter.calm
      · refine ask_obeys ⟨trivial, trivial⟩ fun _ => ask_obeys ⟨trivial, trivial⟩ fun _ =>
          .ite ?_ ?_
        · exact setTerminalFence_obeys trivial fun _ hafter => ownershipLost_heeds hafter.calm
        · exact ask_obeys ⟨trivial, trivial⟩ fun _ => ih trivial

/-! ### Recovery -/

theorem reconcileLaunch_heeds {ids : ReconcileRequestIds} (hcalm : Calm h) :
    Heeds h (I.reconcileLaunch attemptId hostId epoch ids) := by
  refine stored_obeys ⟨hcalm, trivial⟩ (fun _ _ => trivial) fun _ snapshot _ => ?_
  cases snapshot.state with
  | stopped => trivial
  | prepared => exact stored_obeys ⟨trivial, nofun⟩ (fun _ _ => trivial) fun _ _ _ => trivial
  | attached | ready | stopping | cleanupRequired =>
    exact Obeys.mono (stop_obeys trivial) fun _ _ hx => hx.after.calm

theorem inspectForRecovery_heeds (hcalm : Calm h) :
    Heeds h (inspectForRecovery attemptId hostId epoch) := by
  refine stored_obeys ⟨hcalm, trivial⟩ (fun _ _ => trivial) fun r snapshot hr => ?_
  obtain rfl : r = .ok snapshot := hr
  refine stored_obeys ⟨trivial, trivial⟩ (fun _ _ => trivial) fun _ _ _ => ?_
  split
  · trivial
  split
  · trivial
  next evidence hevidence =>
  have htold : Did (tells attemptId evidence) (⟨.loadLaunch attemptId, .ok snapshot⟩ :: h) :=
    did_head (by simp [tells, hevidence])
  refine ofExcept_obeys ⟨trivial, htold.cons⟩ (fun _ _ => trivial) fun _ observation _ => ?_
  cases observation <;> trivial

end Rules

/-- **Every supervisor obeys the rule.** -/
theorem disciplined (env : Env) : (pool env).Disciplined Warrant fun _ => Calm where
  programs job := by
    obtain ⟨I, job⟩ := job
    -- what a call returns plays no part
    have hwrap : ∀ {α : Type} {p : SupervisorProg α} {f : α → Outcome},
        Heeds [] p → Heeds [] (f <$> p) := by
      intro α p f hp
      refine hp.bind fun x h' hcalm => ?_
      cases x <;> exact hcalm
    cases job with
    | launch plan => exact hwrap launch_heeds
    | ready request proof => exact hwrap (ready_obeys trivial fun _ _ hcalm => hcalm)
    | connectStartReady request => exact hwrap (connectStartReady_heeds trivial)
    | stop attemptId hostId epoch ids =>
      exact hwrap (Obeys.mono (stop_obeys trivial) fun _ _ hx => hx.after.calm)
    | stopByDeadline attemptId hostId epoch ids =>
      exact hwrap (ask_obeys ⟨trivial, trivial⟩ fun _ =>
        Obeys.mono (stopWithDeadline_obeys trivial) fun _ _ hx => hx.after.calm)
    | ownershipLost attemptId hostId epoch ids => exact hwrap (ownershipLost_heeds trivial)
    | watchOwnership attemptId hostId epoch ids fence =>
      exact hwrap (watchOwnershipWithFence_heeds trivial)
    | reconcileLaunch attemptId hostId epoch ids => exact hwrap (reconcileLaunch_heeds trivial)
    | inspectForRecovery attemptId hostId epoch => exact hwrap (inspectForRecovery_heeds trivial)
  forks _ _ _ hp := absurd hp List.not_mem_nil

end Supervision

end Navigator
