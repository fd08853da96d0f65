/-
Ownership loss.

Whoever finds that the session is lost closes the gate and reports the loss.  A renewal that
was asked for before may be answered after that, and the tick that asked does not look at the
gate again.

* **`Ownership.Orderly`**, **`Ownership.Seen`** — what holds of the cells, and what a thread may
  rely on;
* **`ownership_loss_is_final`** — nothing is admitted through a gate that has been closed; and
  if no renewal is published after the gate was closed, a loss is never taken back.
-/
import Navigator.Core.OwnershipSupervisor
import Navigator.Ownership

namespace Navigator

open Prog

variable {e : Cell} {sessionId : SessionId} {σ : State}

namespace Ownership

/-! ### What a thread has done -/

abbrev History : Type := List (Act Cell Cell.Answer)

def Cell.isShut : Cell → Bool
  | shut => true
  | _ => false

def Cell.isBump : Cell → Bool
  | bump => true
  | _ => false

/-- A loss is reported. -/
def Cell.isReport : Cell → Bool
  | setStatus status => !status.isActive
  | _ => false

/-- A renewal is published. -/
def Cell.isPublication : Cell → Bool
  | setStatus status => status.isActive
  | _ => false

/-- The gate was shut, and the loss is still to be reported. -/
def Owes (h : History) : Prop := Did (·.1.isShut) h ∧ ¬ Did (·.1.isReport) h

variable {a : Act Cell Cell.Answer} {β : Type} {epoch : FencingEpoch}
  {reason : OwnershipLoss} {permit : AdmissionPermit} {input : Input} {event : Event}

/-- The gate is shut before its generation ends, and both before a loss is reported. -/
structure Rule (h : History) (e : Cell) : Prop where
  shut : e.isBump = true ∨ e.isReport = true → Did (·.1.isShut) h
  bumped : e.isReport = true → Did (·.1.isBump) h

/-- The accesses of `check`, the last one first. -/
def Passing (permit : AdmissionPermit) (h : History) : Prop :=
  ∃ before, h = ⟨.generation, permit.generation⟩ :: ⟨.isOpen, true⟩ :: before

/-- A thread that has ended owes no report; one that has passed the gate has found it open,
and, if it was admitted, in the generation of its permit before. -/
def Ended (x : Except Failure Result) (h : History) : Prop :=
  ¬ Owes h ∧
    match x with
    | .ok (.admitted permit) => ∃ before, h = ⟨.generation, permit.generation⟩ :: ⟨.isOpen, true⟩ ::
          ⟨.generation, permit.generation⟩ :: before
    | .ok (.checked permit) => Passing permit h
    | _ => True

variable {h : History}

theorem Owes.of_cons (ha : a.1.isShut = false) (howes : Owes (a :: h)) : Owes h := by
  obtain ⟨hshut, hreport⟩ := howes
  rw [did_cons] at hshut hreport
  exact ⟨hshut.resolve_left (by rw [ha]; exact nofun), fun hdid => hreport (.inr hdid)⟩

theorem not_owes_of_did (hdid : Did (·.1.isReport) h) : ¬ Owes h :=
  fun howes => howes.2 hdid

/-- A call about which there is no rule. -/
theorem Rule.free (hbump : e.isBump = false) (hreport : e.isReport = false) :
    Rule h e := by
  refine ⟨fun he => ?_, fun he => ?_⟩
  · rw [hbump, hreport] at he
    rcases he with he | he <;> cases he
  · rw [hreport] at he
    cases he

variable {R : Except Failure β → History → Prop}

/-- A call that leaves the gate alone and reports nothing. -/
theorem ask_obeys {f : e.Answer → OwnershipProg β} (hshut : e.isShut = false)
    (hbump : e.isBump = false) (hreport : e.isReport = false) (hclear : ¬ Owes h)
    (hf : ∀ r h', ¬ Owes h' → (f r).Obeys Rule R h') : (ask e >>= f).Obeys Rule R h :=
  Obeys.perform (.free hbump hreport) fun r => hf r _ fun howes => hclear (howes.of_cons hshut)

variable {f : Unit → OwnershipProg β}

theorem close_obeys (hf : (f ()).Obeys Rule R (⟨.bump, ()⟩ :: ⟨.shut, ()⟩ :: h)) :
    (close >>= f).Obeys Rule R h := by
  refine obeys_bind.mpr (Obeys.perform (.free rfl rfl) fun _ => ?_)
  exact obeys_perform.mpr ⟨⟨fun _ => did_cons.mpr (.inl rfl), nofun⟩, fun _ => hf⟩

/-- The gate is closed, and the loss is reported. -/
theorem report_obeys {R : Except Failure Unit → History → Prop}
    (hR : ∀ h', Did (·.1.isReport) h' → R (.ok ()) h') :
    (close >>= fun _ => ask (.setStatus (.lost sessionId epoch reason))).Obeys Rule R h := by
  refine close_obeys (obeys_perform.mpr ⟨⟨fun _ => ?_, fun _ => ?_⟩, fun _ => hR _ ?_⟩)
  · exact did_cons.mpr (.inr (did_cons.mpr (.inl rfl)))
  · exact did_cons.mpr (.inl rfl)
  · exact did_cons.mpr (.inl rfl)

theorem lose_obeys {lease : OwnershipLease}
    (hf : ∀ h', Did (·.1.isReport) h' → (f ()).Obeys Rule R h') :
    (lose lease reason >>= f).Obeys Rule R h :=
  obeys_bind.mpr (report_obeys hf)

/-- A tick that has shut the gate reports it. -/
theorem tick_obeys (hclear : ¬ Owes h) : tick.Obeys Rule (fun _ h' => ¬ Owes h') h := by
  refine ask_obeys rfl rfl rfl hclear fun isOpen h1 h1clear => ?_
  obtain _ | _ := isOpen
  · exact h1clear
  refine ask_obeys rfl rfl rfl h1clear fun now h2 h2clear => ?_
  refine ask_obeys rfl rfl rfl h2clear fun lease h3 h3clear => ?_
  split
  · exact lose_obeys fun h' hreport => not_owes_of_did hreport
  refine ask_obeys rfl rfl rfl h3clear fun command h4 h4clear => ?_
  obtain _ | command := command
  · exact lose_obeys fun h' hreport => not_owes_of_did hreport
  refine ask_obeys rfl rfl rfl h4clear fun answer h5 h5clear => ?_
  rcases answer with _ | error | renewed
  · exact h5clear
  · exact lose_obeys fun h' hreport => not_owes_of_did hreport
  refine ask_obeys rfl rfl rfl h5clear fun later h6 h6clear => ?_
  split
  · refine ask_obeys rfl rfl rfl h6clear fun _ h7 h7clear => ?_
    exact obeys_perform.mpr ⟨.free rfl rfl, fun _ howes => h7clear (howes.of_cons rfl)⟩
  · exact lose_obeys fun h' hreport => not_owes_of_did hreport

theorem guardDrop_obeys (hclear : ¬ Owes h) :
    (guardDrop sessionId epoch).Obeys Rule (fun _ h' => ¬ Owes h') h := by
  refine ask_obeys rfl rfl rfl hclear fun _ h1 h1clear => ?_
  refine ask_obeys rfl rfl rfl h1clear fun isOpen h2 h2clear => ?_
  cases isOpen with
  | false => exact h2clear
  | true => exact report_obeys fun h' hreport => not_owes_of_did hreport

theorem background_obeys {periods : ℕ} (hclear : ¬ Owes h) :
    (background sessionId epoch periods).Obeys Rule (fun _ h' => ¬ Owes h') h := by
  induction periods generalizing h with
  | zero => exact guardDrop_obeys hclear
  | succ periods ih =>
    refine ask_obeys rfl rfl rfl hclear fun wakening h1 h1clear => ?_
    cases wakening with
    | stopped => exact guardDrop_obeys h1clear
    | aborted => exact guardDrop_obeys h1clear
    | due =>
      refine obeys_bind.mpr (obeys_attempt.mpr ?_)
      refine (tick_obeys h1clear).mono fun x h' h'clear => ?_
      cases x with
      | ok _ => exact ih h'clear
      | error _ => exact guardDrop_obeys h'clear

/-- What comes after a report needs no other. -/
theorem supervisorDrop_obeys (hreport : Did (·.1.isReport) h) :
    supervisorDrop.Obeys Rule (fun _ h' => ¬ Owes h') h := by
  refine close_obeys (obeys_perform.mpr ⟨.free rfl rfl, fun _ => not_owes_of_did ?_⟩)
  exact did_cons.mpr (.inr (did_cons.mpr (.inr (did_cons.mpr (.inr hreport)))))

theorem shutdownAfterOwnershipCleared_obeys (hclear : ¬ Owes h) :
    shutdownAfterOwnershipCleared.Obeys Rule (fun _ h' => ¬ Owes h') h := by
  refine ask_obeys rfl rfl rfl hclear fun lease h1 _ => lose_obeys fun h2 hreport => ?_
  refine Obeys.perform (.free rfl rfl) fun _ => Obeys.perform (.free rfl rfl) fun _ =>
    supervisorDrop_obeys ?_
  exact did_cons.mpr (.inr (did_cons.mpr (.inr hreport)))

theorem shutdown_obeys (hclear : ¬ Owes h) :
    shutdown.Obeys Rule (fun _ h' => ¬ Owes h') h := by
  refine ask_obeys rfl rfl rfl hclear fun lease h1 _ => lose_obeys fun h2 hreport => ?_
  refine Obeys.perform (.free rfl rfl) fun _ => Obeys.perform (.free rfl rfl) fun _ => ?_
  refine Obeys.perform (.free rfl rfl) fun command => ?_
  have hreport3 : Did (·.1.isReport) (⟨.createRelease lease, command⟩ :: ⟨.joinWorker, ()⟩ ::
      ⟨.sendStop, ()⟩ :: h2) :=
    did_cons.mpr (.inr (did_cons.mpr (.inr (did_cons.mpr (.inr hreport)))))
  cases command with
  | none => exact supervisorDrop_obeys hreport3
  | some command =>
    refine Obeys.perform (.free rfl rfl) fun _ => supervisorDrop_obeys ?_
    exact did_cons.mpr (.inr hreport3)

theorem check_obeys {R : Except Failure Unit → History → Prop}
    (hpass : R (.ok ()) (⟨.generation, permit.generation⟩ :: ⟨.isOpen, true⟩ :: h))
    (hfail : ∀ error h', (Owes h' → Owes h) → R (.error error) h') :
    (check permit).Obeys Rule R h := by
  refine Obeys.perform (.free rfl rfl) fun isOpen => ?_
  obtain _ | _ := isOpen
  · exact hfail _ _ fun howes => howes.of_cons rfl
  refine Obeys.perform (.free rfl rfl) fun generation => ?_
  split
  · next heq =>
    subst heq
    exact hpass
  · exact hfail _ _ fun howes => (howes.of_cons rfl).of_cons rfl

/-- A program that does not go through the gate ends with nothing owed. -/
theorem finished_obeys {p : OwnershipProg Unit} (hp : p.Obeys Rule (fun _ h' => ¬ Owes h') []) :
    (p >>= fun _ => (return Result.finished : OwnershipProg Result)).Obeys Rule Ended [] := by
  refine hp.bind fun x h' hclear => ?_
  cases x with
  | ok _ => exact ⟨hclear, trivial⟩
  | error _ => exact ⟨hclear, trivial⟩

theorem not_owes_nil : ¬ Owes [] := fun howes => not_did_nil howes.1

theorem disciplined : pool.Disciplined Rule Ended where
  programs role := by
    cases role with
    | gateAdmit =>
      refine obeys_bind.mpr (Obeys.perform (.free rfl rfl) fun generation => ?_)
      refine obeys_bind.mpr (check_obeys ?_ ?_)
      · refine ⟨fun howes => not_owes_nil ?_, [], rfl⟩
        exact ((howes.of_cons rfl).of_cons rfl).of_cons rfl
      · intro error h' howes
        exact ⟨fun howes' => not_owes_nil ((howes howes').of_cons rfl), trivial⟩
    | check permit =>
      refine obeys_bind.mpr (check_obeys ?_ ?_)
      · exact ⟨fun howes => not_owes_nil ((howes.of_cons rfl).of_cons rfl), [], rfl⟩
      · exact fun error h' howes => ⟨fun howes' => not_owes_nil (howes howes'), trivial⟩
    | tick => exact finished_obeys (tick_obeys not_owes_nil)
    | background => exact finished_obeys (background_obeys not_owes_nil)
    | shutdown => exact finished_obeys (shutdown_obeys not_owes_nil)
    | shutdownAfterOwnershipCleared =>
      exact finished_obeys (shutdownAfterOwnershipCleared_obeys not_owes_nil)
  forks _ _ p hp := nomatch hp

/-! ### The gate and the status -/

/-- A gate that is open is in its first generation; one whose loss was reported is closed. -/
structure Orderly (w : World) : Prop where
  first : w.isOpen = true → w.generation = 1
  positive : 1 ≤ w.generation
  closed : w.status.isActive = false → w.isOpen = false ∧ 1 < w.generation

/-- What a thread has done shows in the cells, and the generations that it has read before it
found the gate open were the first. -/
structure Seen (w : World) (h : History) : Prop where
  shut : Did (·.1.isShut) h → w.isOpen = false
  bumped : Did (·.1.isBump) h → 1 < w.generation
  read : ∀ g, ⟨.generation, g⟩ ∈ h → 1 ≤ g ∧ g ≤ w.generation
  first : ∀ later before, h = later ++ ⟨.isOpen, true⟩ :: before →
    ∀ g, ⟨.generation, g⟩ ∈ before → g = 1

/-- The cells that a call may change: the gate is not opened, and the generation only grows. -/
structure Later (w w' : World) : Prop where
  shut : w.isOpen = false → w'.isOpen = false
  generation : w.generation ≤ w'.generation

variable {w w' : World}

theorem Later.refl (w : World) : Later w w := ⟨id, le_rfl⟩

variable {r : e.Answer}

theorem answer_later (hanswer : w.answer input e = some (r, w')) : Later w w' := by
  unfold World.answer at hanswer
  split at hanswer <;> cases hanswer <;> first
    | exact .refl _
    | exact ⟨id, le_rfl⟩
    | exact ⟨fun _ => rfl, le_rfl⟩
    | exact ⟨id, Nat.le_succ _⟩

theorem Seen.later (hseen : Seen w h) (hlater : Later w w') : Seen w' h where
  shut hdid := hlater.shut (hseen.shut hdid)
  bumped hdid := lt_of_lt_of_le (hseen.bumped hdid) hlater.generation
  read g hg := ⟨(hseen.read g hg).1, (hseen.read g hg).2.trans hlater.generation⟩
  first := hseen.first

/-- A call keeps the cells in order. -/
theorem Orderly.answer (hw : Orderly w) (hseen : Seen w h) (hrule : Rule h e)
    (hanswer : w.answer input e = some (r, w')) : Orderly w' := by
  unfold World.answer at hanswer
  split at hanswer <;> cases hanswer <;> try exact hw
  · exact ⟨nofun, hw.positive, fun hlost => ⟨rfl, (hw.closed hlost).2⟩⟩
  · have hshut := hseen.shut (hrule.shut (.inl rfl))
    refine ⟨fun hopen => ?_, Nat.le_succ_of_le hw.positive, fun _ => ⟨hshut, ?_⟩⟩
    · rw [hshut] at hopen
      cases hopen
    · exact Nat.lt_succ_of_le hw.positive
  · exact ⟨hw.first, hw.positive, hw.closed⟩
  · next status =>
    refine ⟨hw.first, hw.positive, fun hlost => ?_⟩
    have hreport : Cell.isReport (.setStatus status) = true := by simp [Cell.isReport, hlost]
    exact ⟨hseen.shut (hrule.shut (.inr hreport)), hseen.bumped (hrule.bumped hreport)⟩
  · exact ⟨hw.first, hw.positive, hw.closed⟩

/-- What a thread is answered is so in the cells. -/
theorem Seen.answer (hw : Orderly w) (hseen : Seen w h)
    (hanswer : w.answer input e = some (r, w')) : Seen w' (⟨e, r⟩ :: h) := by
  have hold := hseen.later (answer_later hanswer)
  refine ⟨fun hdid => ?_, fun hdid => ?_, fun g hg => ?_, fun later before heq g hg => ?_⟩
  · rcases did_cons.mp hdid with hshut | hdid
    · cases e <;> simp only [Cell.isShut, Bool.false_eq_true] at hshut
      cases input <;> cases hanswer
      rfl
    · exact hold.shut hdid
  · rcases did_cons.mp hdid with hbump | hdid
    · cases e <;> simp only [Cell.isBump, Bool.false_eq_true] at hbump
      cases input <;> cases hanswer
      exact Nat.lt_succ_of_le hw.positive
    · exact hold.bumped hdid
  · rcases List.mem_cons.mp hg with heq | hg
    · obtain ⟨hcell, hvalue⟩ := Sigma.mk.inj_iff.mp heq
      subst hcell
      obtain rfl := eq_of_heq hvalue
      cases input <;> cases hanswer
      exact ⟨hw.positive, le_rfl⟩
    · exact hold.read g hg
  · cases later with
    | nil =>
      obtain ⟨hact, rfl⟩ := List.cons.inj heq
      obtain ⟨hcell, hvalue⟩ := Sigma.mk.inj_iff.mp hact
      subst hcell
      obtain rfl := eq_of_heq hvalue
      cases input <;> simp only [World.answer, Option.some.injEq, Prod.mk.injEq,
        reduceCtorEq] at hanswer
      -- the gate is open now, so its generation is still the first
      have hread := hseen.read g hg
      rw [hw.first hanswer.1] at hread
      exact le_antisymm hread.2 hread.1
    | cons a later =>
      obtain ⟨-, rfl⟩ := List.cons.inj heq
      exact hseen.first later before rfl g hg

theorem seen_nil (w : World) : Seen w [] :=
  ⟨fun hdid => (not_did_nil hdid).elim, fun hdid => (not_did_nil hdid).elim, nofun,
    fun later before heq => by cases later <;> cases heq⟩

theorem orderly_start (lease : OwnershipLease) : Orderly (.start lease) :=
  ⟨fun _ => rfl, le_rfl, nofun⟩

/-- Whatever the threads do, the cells stay in order. -/
theorem sound : pool.Sound Rule (fun _ _ _ _ => True) (fun _ _ => True) Orderly Seen where
  fresh w _ := seen_nil w
  outside x := nomatch x
  call hw hseen hrule _ hanswer :=
    ⟨hw.answer hseen hrule hanswer, hseen.answer hw hanswer,
      fun _ hother _ => hother.later (answer_later hanswer)⟩

/-! ### Passing the gate -/

/-- The thread was admitted, or a permit was checked; permits are of the first generation. -/
def Result.passes : Result → Bool
  | admitted _ => true
  | checked permit => permit.generation = 1
  | finished => false

/-- A thread has passed the gate. -/
def Passed (σ : State) (i : ℕ) : Prop :=
  ∃ h x, σ.threads[i]? = some ⟨h, some (.ret (.ok x))⟩ ∧ x.passes = true

/-- Those who are admitted are admitted in the first generation. -/
theorem Ended.generation (hseen : Seen w h) (hended : Ended (.ok (.admitted permit)) h) :
    permit.generation = 1 := by
  obtain ⟨-, before, rfl⟩ := hended
  exact hseen.first [_] _ rfl _ List.mem_cons_self

/-- Whoever passes the gate does so in its first generation. -/
theorem Ended.passing {x : Result} (hseen : Seen w h) (hended : Ended (.ok x) h)
    (hx : x.passes = true) : ∃ before, h = ⟨.generation, 1⟩ :: before := by
  cases x with
  | admitted permit =>
    have hfirst := hended.generation hseen
    obtain ⟨-, before, rfl⟩ := hended
    exact ⟨_, by rw [hfirst]⟩
  | checked permit =>
    have hfirst : permit.generation = 1 := by simpa [Result.passes] using hx
    obtain ⟨-, before, rfl⟩ := hended
    exact ⟨_, by rw [hfirst]⟩
  | finished => cases hx

/-- Nobody passes a gate that has been closed. -/
theorem passed_of_passed_step (hσ : σ.Holds Rule Ended Orderly Seen)
    (hclosed : 1 < σ.world.generation) {i : ℕ} (hpassed : Passed (pool.step σ event) i) :
    Passed σ i := by
  have hchange := pool.step_change σ event
  have hσ' := hσ.step disciplined sound σ.apart_true event (Pool.meets_true event)
  generalize pool.step σ event = σ' at hchange hpassed hσ'
  obtain ⟨h, x, hthread, hx⟩ := hpassed
  -- it was by its newest access that the thread has passed
  obtain ⟨before, rfl⟩ : ∃ before, h = ⟨.generation, 1⟩ :: before := by
    obtain ⟨hseen, hobeys⟩ := hσ'.threads _ (List.mem_of_getElem? hthread)
    exact (obeys_ret.mp (hobeys _ rfl)).passing hseen hx
  rcases hchange.thread hthread with hold | hnew | ⟨h, e, k, hat, hdropped | hanswered⟩
  · exact ⟨_, x, hold, hx⟩
  · cases hnew
  · cases hdropped
  · obtain ⟨input, r, w, hanswer, heq⟩ := hanswered
    -- its answer was the generation of the gate, which is past the first
    obtain ⟨hact, -⟩ := List.cons.inj (congrArg Pool.Thread.history heq)
    obtain ⟨hcell, hvalue⟩ := Sigma.mk.inj_iff.mp hact
    subst hcell
    obtain rfl := eq_of_heq hvalue
    cases input <;> simp only [pool, World.answer, Option.some.injEq, Prod.mk.injEq,
      reduceCtorEq] at hanswer
    rw [hanswer.1] at hclosed
    exact absurd hclosed (lt_irrefl 1)

/-! ### Renewals that come late -/

/-- A renewal is published only while the gate is open. -/
def Prompt (w : World) (e : Cell) : Prop := e.isPublication = true → w.isOpen = true

instance {w : World} {e : Cell} : Decidable (Prompt w e) := by
  unfold Prompt
  infer_instance

/-- As `Seen`; and a loss that was reported stands. -/
def SeenLost (w : World) (h : History) : Prop :=
  Seen w h ∧ (Did (·.1.isReport) h → w.status.isActive = false)

section

variable (hanswer : w.answer input e = some (r, w'))
include hanswer

/-- The status after a call. -/
theorem answer_status : e.isPublication = true ∧ w'.isOpen = w.isOpen ∨
      e.isReport = true ∧ w'.status.isActive = false ∨ w'.status = w.status := by
  unfold World.answer at hanswer
  split at hanswer <;> cases hanswer <;> try exact .inr (.inr rfl)
  next status =>
    cases hactive : status.isActive with
    | true => exact .inl ⟨hactive, rfl⟩
    | false => exact .inr (.inl ⟨by simp [Cell.isReport, hactive], rfl⟩)

theorem answer_report (hreport : e.isReport = true) : w'.status.isActive = false := by
  cases e with
  | setStatus status =>
    cases input <;> cases hanswer
    simpa [Cell.isReport] using hreport
  | _ => cases hreport

/-- Only `shut` changes the gate. -/
theorem answer_isOpen (hshut : e.isShut = false) : w'.isOpen = w.isOpen := by
  unfold World.answer at hanswer
  split at hanswer <;> cases hanswer <;> first | rfl | cases hshut

end

/-- If renewals are prompt, a loss is not taken back. -/
theorem lost_of_lost (hw : Orderly w) (hprompt : Prompt w e)
    (hanswer : w.answer input e = some (r, w')) (hlost : w.status.isActive = false) :
    w'.status.isActive = false := by
  rcases answer_status hanswer with ⟨hpublication, -⟩ | ⟨-, hlost'⟩ | hsame
  · have hopen := hprompt hpublication
    rw [(hw.closed hlost).1] at hopen
    cases hopen
  · exact hlost'
  · rw [hsame]
    exact hlost

theorem soundPrompt :
    pool.Sound Rule (fun w _ e _ => Prompt w e) (fun _ _ => True) Orderly SeenLost where
  fresh w _ := ⟨seen_nil w, fun hdid => (not_did_nil hdid).elim⟩
  outside x := nomatch x
  call {w input e r w' h} hw hseen hrule hprompt hanswer := by
    refine ⟨hw.answer hseen.1 hrule hanswer, ⟨hseen.1.answer hw hanswer, fun hdid => ?_⟩,
      fun h' hother _ => ⟨hother.1.later (answer_later hanswer), fun hdid =>
        lost_of_lost hw hprompt hanswer (hother.2 hdid)⟩⟩
    rcases did_cons.mp hdid with hreport | hdid
    · exact answer_report hanswer hreport
    · exact lost_of_lost hw hprompt hanswer (hseen.2 hdid)

/-- If the gate is closed and the status does not say so yet, somebody is about to report. -/
def Excused (σ : State) : Prop :=
  σ.world.status.isActive = true → σ.world.isOpen = true ∨ ∃ t ∈ σ.threads, Owes t.history

theorem Excused.step (hσ : σ.Holds Rule Ended Orderly SeenLost) (h : Excused σ)
    (hmeets : pool.Meets Prompt σ event) : Excused (pool.step σ event) := by
  have hchange := pool.step_change σ event
  generalize pool.step σ event = σ' at hchange
  intro hactive
  cases hchange with
  | outside x => exact nomatch x
  | started role =>
    exact (h hactive).imp_right (Pool.State.Someone.started · _)
  | @answered i input hist e k r w hat hanswer =>
    change w.status.isActive = true at hactive
    have hprompt : Prompt σ.world e := hmeets.of_answered hat hanswer
    have hsilent : e.isReport = false := by
      by_contra hreport
      rw [answer_report hanswer (by simpa using hreport)] at hactive
      cases hactive
    -- a history that goes on without a report
    have hgoesOn : ∀ h : History, Did (·.1.isReport) (⟨e, r⟩ :: h) → Did (·.1.isReport) h := by
      intro h hdid
      exact (did_cons.mp hdid).resolve_left (by simp [hsilent])
    rcases answer_status hanswer with ⟨hpublication, hsame⟩ | ⟨-, hlost⟩ | hsame
    · exact .inl (hsame.trans (hprompt hpublication))
    · rw [hlost] at hactive
      cases hactive
    rw [hsame] at hactive
    by_cases hshut : e.isShut = true
    · refine .inr ⟨_, Pool.mem_answered_new hat, did_cons.mpr (.inl hshut), fun hdid => ?_⟩
      have hlost := (hσ.threads _ (List.mem_of_getElem? hat)).1.2 (hgoesOn _ hdid)
      rw [hlost] at hactive
      cases hactive
    · have hgate := answer_isOpen hanswer (by simpa using hshut)
      refine (h hactive).imp (hgate.trans ·) (Pool.State.Someone.answered hat fun howes => ?_)
      exact ⟨howes.1.cons, fun hdid => howes.2 (hgoesOn _ hdid)⟩
  | dropped hat hawaits => cases hawaits
  | idle => exact h hactive

theorem holds_start {L : World → History → Prop} (lease : OwnershipLease) :
    (start lease).Holds Rule Ended Orderly L :=
  ⟨orderly_start lease, nofun⟩

theorem Excused.run (hσ : σ.Holds Rule Ended Orderly SeenLost) (h : Excused σ) (events : List Event)
    (hmeets : Tally.Along pool.step (pool.Meets Prompt) events σ) :
    Excused (pool.run events σ) := by
  induction events generalizing σ with
  | nil => exact h
  | cons event rest ih =>
    exact ih (hσ.step disciplined soundPrompt σ.apart_true event hmeets.1) (h.step hσ hmeets.1)
      hmeets.2

/-- A gate that has been closed is not passed any more, and stays closed. -/
theorem passed_of_passed_run (hσ : σ.Holds Rule Ended Orderly Seen)
    (hclosed : 1 < σ.world.generation) (events : List Event) :
    1 < (pool.run events σ).world.generation ∧ ∀ i, Passed (pool.run events σ) i → Passed σ i := by
  induction events generalizing σ with
  | nil => exact ⟨hclosed, fun _ => id⟩
  | cons event rest ih =>
    have hnext : 1 < (pool.step σ event).world.generation := by
      have hchange := pool.step_change σ event
      generalize pool.step σ event = σ' at hchange
      cases hchange with
      | outside x => exact nomatch x
      | answered hat hanswer => exact lt_of_lt_of_le hclosed (answer_later hanswer).generation
      | _ => exact hclosed
    obtain ⟨hend, hpassed⟩ :=
      ih (hσ.step disciplined sound σ.apart_true event (Pool.meets_true event)) hnext
    exact ⟨hend, fun i hi => passed_of_passed_step hσ hclosed (hpassed i hi)⟩

/-- If renewals are prompt, a loss stands. -/
theorem lost_of_lost_run (hσ : σ.Holds Rule Ended Orderly SeenLost)
    (hlost : σ.world.status.isActive = false) (events : List Event)
    (hmeets : Tally.Along pool.step (pool.Meets Prompt) events σ) :
    (pool.run events σ).world.status.isActive = false := by
  induction events generalizing σ with
  | nil => exact hlost
  | cons event rest ih =>
    refine ih (hσ.step disciplined soundPrompt σ.apart_true event hmeets.1) ?_ hmeets.2
    have hchange := pool.step_change σ event
    have hfirst := hmeets.1
    generalize pool.step σ event = σ' at hchange
    cases hchange with
    | outside x => exact nomatch x
    | answered hat hanswer =>
      exact lost_of_lost hσ.world (hfirst.of_answered hat hanswer) hanswer hlost
    | _ => exact hlost

end Ownership

open Ownership

/-- **Ownership loss is final.**  Once the gate has been closed it stays so, and nobody is
admitted or passes a check any more.  If every renewal is published while the gate is open,
then a status that says that the session is lost stands, and one that says that it is owned
is right unless somebody has shut the gate and is about to report it, which everybody does
before it ends. -/
theorem ownership_loss_is_final (lease : OwnershipLease) (before after : List Event) :
    let σ := pool.run before (start lease)
    let σ' := pool.run after σ
    (σ.world.status.isActive = false ∨ 1 < σ.world.generation →
      σ'.world.isOpen = false ∧ ∀ i, Passed σ' i → Passed σ i) ∧
    (∀ t ∈ σ'.threads, ∀ permit, t.rest = some (.ret (.ok (.admitted permit))) →
      permit.generation = 1) ∧
    (∀ t ∈ σ'.threads, ∀ x, t.rest = some (.ret x) → ¬ Owes t.history) ∧
    (Tally.Along pool.step (pool.Meets Prompt) (before ++ after) (start lease) →
      (σ.world.status.isActive = false → σ'.world.status.isActive = false) ∧
      (σ'.world.status.isActive = true →
        σ'.world.isOpen = true ∨ ∃ t ∈ σ'.threads, Owes t.history)) := by
  intro σ σ'
  have hσ : σ.Holds Rule Ended Orderly Seen :=
    (holds_start lease).run disciplined sound (fun _ => Pool.State.apart_true _) before
      (Pool.along_meets_true before)
  have hσ' : σ'.Holds Rule Ended Orderly Seen :=
    hσ.run disciplined sound (fun _ => Pool.State.apart_true _) after (Pool.along_meets_true after)
  refine ⟨fun hclosed => ?_, fun t ht permit hrest => ?_, fun t ht x hrest => ?_, fun hmeets => ?_⟩
  · have hgeneration : 1 < σ.world.generation :=
      hclosed.elim (fun hlost => (hσ.world.closed hlost).2) id
    obtain ⟨hend, hpassed⟩ := passed_of_passed_run hσ hgeneration after
    refine ⟨?_, hpassed⟩
    by_contra hopen
    have hfirst := hσ'.world.first (by simpa using hopen)
    change 1 < σ'.world.generation at hend
    omega
  · obtain ⟨hseen, hobeys⟩ := hσ'.threads t ht
    exact (obeys_ret.mp (hobeys _ hrest)).generation hseen
  · obtain ⟨-, hobeys⟩ := hσ'.threads t ht
    exact (obeys_ret.mp (hobeys _ hrest)).1
  · obtain ⟨hbefore, hafter⟩ := Tally.along_append.mp hmeets
    have hprompt : σ.Holds Rule Ended Orderly SeenLost :=
      (holds_start lease).run disciplined soundPrompt (fun _ => Pool.State.apart_true _) before
        hbefore
    have hexcused : Excused σ := Excused.run (holds_start lease) (fun _ => .inl rfl) before hbefore
    exact ⟨fun hlost => lost_of_lost_run hprompt hlost after hafter,
      hexcused.run hprompt after hafter⟩

namespace Sample

def supervised : OwnershipLease := ⟨session, hostA, epoch, seconds 5⟩

def prolonged : OwnershipLease := ⟨session, hostA, epoch, seconds 9⟩

def renewal : RenewOwnership := ⟨request 1, session, epoch, ⟨4000, by decide⟩⟩

/-- The thread `i` makes so many accesses to the cells. -/
def accesses (i n : ℕ) : List Ownership.Event := .replicate n (.resume i .go)

/-- A tick asks the store for a renewal. -/
def asking : List Ownership.Event :=
  [.start .tick, .resume 0 .go, .resume 0 (.time (seconds 1)), .resume 0 .go,
    .resume 0 (.renewal (some renewal))]

/-- The tick is answered, and publishes the renewal. -/
def publishing : List Ownership.Event :=
  [.resume 0 (.renewed (some (.ok prolonged))), .resume 0 (.time (seconds 2))] ++ accesses 0 2

/-- The supervisor is shut down. -/
def shuttingDown : List Ownership.Event :=
  .start .shutdown :: accesses 1 6 ++ [.resume 1 (.release none)] ++ accesses 1 3

/-- Somebody comes to the gate. -/
def knocking : List Ownership.Event := .start .gateAdmit :: accesses 2 3

end Sample

open Sample

/-- A supervisor that has renewed its lease in time is shut down, for good. -/
theorem ownership_loss_is_final_shutdown :
    Tally.Along pool.step (pool.Meets Prompt) ((asking ++ publishing ++ shuttingDown) ++ knocking)
        (start supervised) ∧
      (pool.run knocking (pool.run (asking ++ publishing ++
        shuttingDown) (start supervised))).world.status.isActive = false := by
  have hprompt : Tally.Along pool.step (pool.Meets Prompt)
      ((asking ++ publishing ++ shuttingDown) ++ knocking)
      (start supervised) := by decide +kernel
  obtain ⟨-, -, -, hfinal⟩ := ownership_loss_is_final supervised
    (asking ++ publishing ++ shuttingDown) knocking
  exact ⟨hprompt, (hfinal hprompt).1 (by decide +kernel)⟩

/-- **A loss that is taken back**: the store answers the renewal after the supervisor has been
shut down, and the tick publishes it. -/
theorem late_renewal_takes_loss_back :
    (pool.run (asking ++ shuttingDown) (start supervised)).world.status =
        .lost session epoch .shutdown ∧
      (pool.run (asking ++ shuttingDown ++ publishing) (start supervised)).world.status =
        .active session epoch (seconds 9) ∧
      (pool.run (asking ++ shuttingDown ++ publishing)
        (start supervised)).world.isOpen = false := by
  decide +kernel

end Navigator
