/-
The lock of the Pi driver's journal.

A process locks a journal by making a directory and writing its identity into it.  One that
finds the directory made marks it as being reclaimed, reads who owns it, asks whether the owner
still runs, and then takes its mark back, or moves the directory away and starts again.  Every
step goes through the path of the directory, and others may have moved the directory in between.

* **`State.Orderly`** — what holds of the directory and of every process;
* **`Orderly.step`** — it is kept while nobody acts on a directory that it has not marked;
* **`one_writer`** — then no two processes hold the lock.
-/
import Navigator.Lib.Tally

namespace Navigator

namespace JournalLock

/-! ### The model -/

abbrev Pid : Type := ℕ

abbrev Nonce : Type := ℕ

/-- An attempt of a process at the lock, as an owner file names it. -/
structure Attempt where
  pid : Pid
  nonce : Nonce
deriving DecidableEq

/-- The directory at the path of the lock: the contents of its owner file, and the attempt that
has made the file `reclaim` in it. -/
structure Directory where
  owner : Option Attempt
  reclaim : Option Attempt
deriving DecidableEq

inductive Tombstone where
  | stale (nonce : Nonce)
  | release (nonce : Nonce)
deriving DecidableEq

/-- The step a call is about to take: of `acquireProcessLock`, and, from `checkOwner` on, of
`AcceptanceJournal.close`. -/
inductive Step where
  | makeDirectory (nonce : Nonce)
  | writeOwner (nonce : Nonce)
  | syncDirectory (nonce : Nonce)
  | statDirectory (nonce : Nonce)
  | claim (nonce : Nonce)
  | readOwner (nonce : Nonce)
  | startToken (nonce : Nonce) (owner : Attempt)
  | withdraw (nonce : Nonce)
  | setAside (nonce : Nonce)
  | removeStale (nonce : Nonce)
  | checkOwner (nonce : Nonce)
  | release (nonce : Nonce)
  | removeReleased (nonce : Nonce)
deriving DecidableEq

/-- A process: whether it runs, the call it is in, and the locks it was given and did not begin
to close. -/
structure Process where
  alive : Bool
  call : Option Step
  held : List Nonce
deriving DecidableEq

def Process.gone : Process := ⟨false, none, []⟩

structure State where
  lock : Option Directory
  tombstones : List Tombstone
  /-- The next nonce: they are unique. -/
  next : Nonce
  processes : Pid → Process

inductive Event where
  | acquire (p : Pid)
  | close (p : Pid) (nonce : Nonce)
  | proceed (p : Pid)
  /-- A step fails for another reason than those of the model. -/
  | fault (p : Pid)
  | crash (p : Pid)

def init : State := ⟨none, [], 0, fun _ => ⟨true, none, []⟩⟩

namespace State

variable (s : State) (p : Pid)

def put (c : Process) : State := { s with processes := Function.update s.processes p c }

def goes (next : Step) : State := s.put p { s.processes p with call := some next }

/-- The call ends with an error, or without giving anything. -/
def ends : State := s.put p { s.processes p with call := none }

/-- `acquireProcessLock` returns. -/
def returns (nonce : Nonce) : State :=
  s.put p { s.processes p with call := none, held := nonce :: (s.processes p).held }

/-- `acquireProcessLock` is entered, with a fresh nonce. -/
def enters : State := { s.goes p (.makeDirectory s.next) with next := s.next + 1 }

/-- The directory is moved to a name of its own, unless it is gone or the name is taken. -/
def rename (tombstone : Tombstone) (next : Step) : State :=
  match s.lock with
  | none => s.ends p
  | some _ =>
    if tombstone ∈ s.tombstones then s.ends p
    else { s.goes p next with lock := none, tombstones := tombstone :: s.tombstones }

/-- One step of a call. -/
def proceed : Step → State
  | .makeDirectory nonce =>
    match s.lock with
    | none => { s.goes p (.writeOwner nonce) with lock := some ⟨none, none⟩ }
    | some _ => s.goes p (.statDirectory nonce)
  | .writeOwner nonce =>
    match s.lock with
    | none => s.ends p
    | some d =>
      if d.owner.isNone then
        { s.goes p (.syncDirectory nonce) with lock := some { d with owner := some ⟨p, nonce⟩ } }
      else s.goes p (.statDirectory nonce)
  | .syncDirectory nonce => if s.lock.isSome then s.returns p nonce else s.ends p
  | .statDirectory nonce => if s.lock.isSome then s.goes p (.claim nonce) else s.ends p
  | .claim nonce =>
    match s.lock with
    | none => s.ends p
    | some d =>
      if d.reclaim.isNone then
        { s.goes p (.readOwner nonce) with lock := some { d with reclaim := some ⟨p, nonce⟩ } }
      else s.ends p
  | .readOwner nonce =>
    match s.lock.bind Directory.owner with
    | none => s.ends p
    | some owner => s.goes p (.startToken nonce owner)
  | .startToken nonce owner =>
    if (s.processes owner.pid).alive then s.goes p (.withdraw nonce)
    else s.goes p (.setAside nonce)
  | .withdraw _ => { s.ends p with lock := s.lock.map ({ · with reclaim := none }) }
  | .setAside nonce => s.rename p (.stale nonce) (.removeStale nonce)
  | .removeStale nonce =>
    if .stale nonce ∈ s.tombstones then
      { s with tombstones := s.tombstones.erase (.stale nonce) }.enters p
    else s.ends p
  | .checkOwner nonce =>
    -- a missing lock is passed over, another's is an error
    if (s.lock.bind Directory.owner).any (·.nonce = nonce) then s.goes p (.release nonce)
    else s.ends p
  | .release nonce => s.rename p (.release nonce) (.removeReleased nonce)
  | .removeReleased nonce =>
    { s.ends p with tombstones := s.tombstones.erase (.release nonce) }

/-- Calls are made one after the other, by processes that run. -/
def step : Event → State
  | .acquire p =>
    if (s.processes p).alive ∧ (s.processes p).call = none then s.enters p else s
  | .close p nonce =>
    if (s.processes p).call = none ∧ nonce ∈ (s.processes p).held then
      s.put p { s.processes p with
        call := some (.checkOwner nonce), held := (s.processes p).held.filter (· ≠ nonce) }
    else s
  | .proceed p =>
    match (s.processes p).call with
    | some next => s.proceed p next
    | none => s
  | .fault p => s.ends p
  | .crash p => s.put p .gone

end State

def run (events : List Event) : State := Tally.run State.step events init

/-- The process was given the lock, and has not moved it away in closing. -/
def Process.Holds (c : Process) (nonce : Nonce) : Prop :=
  nonce ∈ c.held ∨ c.call = some (.checkOwner nonce) ∨ c.call = some (.release nonce)

instance (c : Process) (nonce : Nonce) : Decidable (c.Holds nonce) :=
  inferInstanceAs (Decidable (_ ∨ _ ∨ _))

/-- No two processes hold the lock. -/
def State.OneWriter (s : State) : Prop :=
  ∀ p q n m, (s.processes p).Holds n → (s.processes q).Holds m → p = q

/-- The directory is still the one that an attempt has marked. -/
def State.Marked (s : State) (a : Attempt) : Prop := ∃ d ∈ s.lock, d.reclaim = some a

instance (s : State) (a : Attempt) : Decidable (s.Marked a) :=
  inferInstanceAs (Decidable (∃ d ∈ s.lock, d.reclaim = some a))

/-- The steps that rely on a mark: to ask for the owner's start token, and to take it back. -/
def Step.relies : Step → Option Nonce
  | startToken nonce _ | withdraw nonce => some nonce
  | _ => none

/-- A process takes such a step while the directory that it has marked is in its place. -/
def State.Careful (s : State) : Event → Prop
  | .proceed p => ∀ n ∈ (s.processes p).call.bind Step.relies, s.Marked ⟨p, n⟩
  | _ => True

instance (s : State) : ∀ event, Decidable (s.Careful event)
  | .proceed p =>
    inferInstanceAs (Decidable (∀ n ∈ (s.processes p).call.bind Step.relies, s.Marked ⟨p, n⟩))
  | .acquire _ | .close .. | .fault _ | .crash _ => .isTrue trivial

/-! ### What holds throughout -/

/-- The directory is owned by an attempt. -/
def Owns (lock : Option Directory) (a : Attempt) : Prop := ∃ d, lock = some d ∧ d.owner = some a

/-- The directory has no owner yet. -/
def Ownerless (lock : Option Directory) : Prop := ∃ d, lock = some d ∧ d.owner = none

/-- The directory is marked by an attempt, and owned by another. -/
def Marks (lock : Option Directory) (a owner : Attempt) : Prop :=
  ∃ d, lock = some d ∧ d.reclaim = some a ∧ d.owner = some owner

/-- What the step that a process is about to take says of the directory. -/
def Step.Fits (p : Pid) (lock : Option Directory) (dead : Pid → Prop) (held : List Nonce) :
    Step → Prop
  | syncDirectory n => Owns lock ⟨p, n⟩
  | checkOwner n | release n => Owns lock ⟨p, n⟩ ∧ n ∉ held
  | writeOwner _ => Ownerless lock
  | startToken n o => ∀ d, lock = some d → d.reclaim = some ⟨p, n⟩ → d.owner = some o
  | setAside n => ∃ o, Marks lock ⟨p, n⟩ o ∧ dead o.pid
  | _ => True

structure Process.Fits (c : Process) (p : Pid) (lock : Option Directory)
    (dead : Pid → Prop) : Prop where
  quiet : c.alive = false → c = .gone
  held : ∀ n ∈ c.held, Owns lock ⟨p, n⟩
  call : ∀ next, c.call = some next → next.Fits p lock dead c.held

section Fits

variable {c : Process} {p : Pid} {lock lock' : Option Directory} {dead dead' : Pid → Prop}
  {a : Attempt}

theorem Owns.unique {b : Attempt} (ha : Owns lock a) (hb : Owns lock b) : a = b := by
  obtain ⟨d, hd, howner⟩ := ha
  obtain ⟨d', hd', howner'⟩ := hb
  obtain rfl : d = d' := Option.some.inj (hd.symm.trans hd')
  exact Option.some.inj (howner.symm.trans howner')

theorem Marks.owns {o : Attempt} (h : Marks lock a o) : Owns lock o := by
  obtain ⟨d, hd, -, howner⟩ := h
  exact ⟨d, hd, howner⟩

theorem Marks.unique {b o o' : Attempt} (h : Marks lock a o) (h' : Marks lock b o') : a = b := by
  obtain ⟨d, hd, hmark, -⟩ := h
  obtain ⟨d', hd', hmark', -⟩ := h'
  obtain rfl : d = d' := Option.some.inj (hd.symm.trans hd')
  exact Option.some.inj (hmark.symm.trans hmark')

theorem Ownerless.not_owns (h : Ownerless lock) : ¬ Owns lock a := by
  rintro ⟨d, hd, howner⟩
  obtain ⟨d', hd', hnone⟩ := h
  obtain rfl : d = d' := Option.some.inj (hd.symm.trans hd')
  rw [hnone] at howner
  cases howner

theorem Process.Fits.holds (h : c.Fits p lock dead) {n : Nonce} (hn : c.Holds n) :
    Owns lock ⟨p, n⟩ := by
  rcases hn with hn | hn | hn
  · exact h.held n hn
  · exact (h.call _ hn).1
  · exact (h.call _ hn).1

/-- The directory changes so that what a process relies on stays. -/
theorem Process.Fits.change (h : c.Fits p lock dead) (hdead : ∀ q, dead q → dead' q)
    (howns : ∀ n, Owns lock ⟨p, n⟩ → Owns lock' ⟨p, n⟩)
    (hmaking : ∀ n, c.call = some (.writeOwner n) → Ownerless lock → Ownerless lock')
    (hasked : ∀ n o d', lock' = some d' → d'.reclaim = some ⟨p, n⟩ →
      (∀ d, lock = some d → d.reclaim = some ⟨p, n⟩ → d.owner = some o) → d'.owner = some o)
    (hstale : ∀ n o, Marks lock ⟨p, n⟩ o → dead o.pid → Marks lock' ⟨p, n⟩ o) :
    c.Fits p lock' dead' := by
  refine ⟨h.quiet, fun n hn => howns n (h.held n hn), fun next hcall => ?_⟩
  have hfits := h.call next hcall
  cases next with
  | syncDirectory n => exact howns n hfits
  | checkOwner n => exact ⟨howns n hfits.1, hfits.2⟩
  | release n => exact ⟨howns n hfits.1, hfits.2⟩
  | writeOwner n => exact hmaking n hcall hfits
  | startToken n o => exact fun d' hd' hmark => hasked n o d' hd' hmark hfits
  | setAside n =>
    obtain ⟨o, hmarks, ho⟩ := hfits
    exact ⟨o, hstale n o hmarks ho, hdead _ ho⟩
  | _ => trivial

end Fits

namespace State

def Dead (s : State) (p : Pid) : Prop := (s.processes p).alive = false

/-- What holds of every process, and that one of them at most writes the owner file. -/
structure Orderly (s : State) : Prop where
  fits : ∀ p, (s.processes p).Fits p s.lock s.Dead
  alone : ∀ p q n m, (s.processes p).call = some (.writeOwner n) →
    (s.processes q).call = some (.writeOwner m) → p = q

variable {s s' : State} {p : Pid} {c : Process}

section

variable (h : s.Orderly)
include h

/-- Whoever has the lock is named in the owner file, which names one. -/
theorem Orderly.oneWriter : s.OneWriter := by
  intro p q n m hp hq
  exact congrArg Attempt.pid (((h.fits p).holds hp).unique ((h.fits q).holds hq))

variable {next : Step}

/-- A process that takes a step runs. -/
theorem Orderly.alive (hcall : (s.processes p).call = some next) :
    (s.processes p).alive = true := by
  by_contra hdead
  rw [(h.fits p).quiet (Bool.eq_false_iff.mpr hdead)] at hcall
  cases hcall

/-- A process is replaced, and the directory is changed so that it fits the others as before. -/
theorem Orderly.put (hput : s'.processes = Function.update s.processes p c)
    (halive : c.alive = true → ¬ s.Dead p) (hown : c.Fits p s'.lock s.Dead)
    (hmake : ∀ n, c.call = some (.writeOwner n) → s.lock = none)
    (hothers : ∀ q ≠ p, (s.processes q).Fits q s'.lock s.Dead) : s'.Orderly := by
  have hsame : s'.processes p = c := by rw [hput, Function.update_self]
  have hother : ∀ q, q ≠ p → s'.processes q = s.processes q := by
    intro q hq
    rw [hput, Function.update_of_ne hq]
  -- nobody comes back to life
  have hdead : ∀ q, s.Dead q → s'.Dead q := by
    intro q hq
    by_cases hqp : q = p
    · subst hqp
      rw [Dead, hsame]
      exact Bool.eq_false_iff.mpr fun hc => halive hc hq
    · rw [Dead, hother q hqp]
      exact hq
  -- a process that begins to write the owner file has found no directory
  have hfirst : ∀ q, q ≠ p → ∀ n m, c.call = some (.writeOwner n) →
      (s.processes q).call ≠ some (.writeOwner m) := by
    intro q _ n m hc hq
    obtain ⟨d, hd, -⟩ := (h.fits q).call _ hq
    rw [hmake n hc] at hd
    cases hd
  refine ⟨fun q => ?_, fun q r n m hq hr => ?_⟩
  · have hfits : (s'.processes q).Fits q s'.lock s.Dead := by
      by_cases hqp : q = p
      · subst hqp
        rw [hsame]
        exact hown
      · rw [hother q hqp]
        exact hothers q hqp
    exact hfits.change hdead (fun _ => id) (fun _ _ => id)
      (fun _ _ d hd hmark hold => hold d hd hmark) (fun _ _ hmarks _ => hmarks)
  · by_cases hqp : q = p <;> by_cases hrp : r = p
    · rw [hqp, hrp]
    · subst hqp
      rw [hsame] at hq
      rw [hother r hrp] at hr
      exact absurd hr (hfirst r hrp n m hq)
    · subst hrp
      rw [hsame] at hr
      rw [hother q hqp] at hq
      exact absurd hq (hfirst q hqp m n hr)
    · rw [hother q hqp] at hq
      rw [hother r hrp] at hr
      exact h.alone q r n m hq hr

variable (halive : (s.processes p).alive = true)
include halive

/-- A call goes on, or ends. -/
theorem Orderly.changes {next : Option Step}
    (hput : s'.processes = Function.update s.processes p { s.processes p with call := next })
    (hheld : ∀ n ∈ (s.processes p).held, Owns s'.lock ⟨p, n⟩)
    (hnext : ∀ step ∈ next, step.Fits p s'.lock s.Dead (s.processes p).held)
    (hmake : ∀ n, next = some (.writeOwner n) → s.lock = none)
    (hothers : ∀ q ≠ p, (s.processes q).Fits q s'.lock s.Dead) : s'.Orderly :=
  h.put hput (fun _ hdead => absurd (halive.symm.trans hdead) nofun)
    ⟨fun hdead => absurd (halive.symm.trans hdead) nofun, hheld, hnext⟩ hmake hothers

/-- A call goes on, or ends, and the directory stays as it is. -/
theorem Orderly.stays {next : Option Step} (hlock : s'.lock = s.lock)
    (hput : s'.processes = Function.update s.processes p { s.processes p with call := next })
    (hnext : ∀ step ∈ next, step.Fits p s.lock s.Dead (s.processes p).held ∧
      ∀ n, step ≠ .writeOwner n) : s'.Orderly := by
  refine h.changes halive hput ?_ ?_ (fun n hn => absurd rfl ((hnext _ hn).2 n)) ?_ <;> rw [hlock]
  · exact (h.fits p).held
  · exact fun step hstep => (hnext step hstep).1
  · exact fun q _ => h.fits q

theorem Orderly.goes (hnext : next.Fits p s.lock s.Dead (s.processes p).held)
    (hplain : ∀ n, next ≠ .writeOwner n) : (s.goes p next).Orderly :=
  h.stays halive rfl rfl fun _ hstep => Option.some.inj hstep ▸ ⟨hnext, hplain⟩

theorem Orderly.ends : (s.ends p).Orderly :=
  h.stays halive rfl rfl nofun

/-- What is left of the lock when it is moved away does not matter to anybody else: they do not
own the directory, and have not found its owner gone. -/
theorem Orderly.rename {tombstone : Tombstone} (ha : Owns s.lock a)
    (hnext : ∀ held, next.Fits p none s.Dead held) (hplain : ∀ n, next ≠ .writeOwner n)
    (hheld : (s.processes p).held = []) (howner : ∀ q ≠ p, ∀ n, a = ⟨q, n⟩ → s.Dead q)
    (hstale : ∀ q ≠ p, ∀ n, Marks s.lock ⟨q, n⟩ a → ¬ s.Dead a.pid) :
    (s.rename p tombstone next).Orderly := by
  unfold State.rename
  split
  · exact h.ends halive
  split
  · exact h.ends halive
  refine h.changes halive rfl ?_ (fun _ hstep => Option.some.inj hstep ▸ hnext _)
    (fun n hn => absurd (Option.some.inj hn) (hplain n)) fun q hq => ?_
  · rw [hheld]
    exact nofun
  by_cases hdead : s.Dead q
  · rw [(h.fits q).quiet hdead]
    exact ⟨fun _ => rfl, nofun, nofun⟩
  refine (h.fits q).change (fun _ => id) (fun n hn => ?_)
    (fun _ _ hnone => absurd ha hnone.not_owns) nofun (fun n o hmarks ho => ?_)
  · exact absurd (howner q hq n (ha.unique hn)) hdead
  · obtain rfl := ha.unique hmarks.owns
    exact absurd ho (hstale q hq n hmarks)

/-- A process marks the directory, or takes its mark back. -/
theorem Orderly.marks {d : Directory} {mark : Option Attempt} {next : Option Step}
    (hd : s.lock = some d) (hlock : s'.lock = some { d with reclaim := mark })
    (hput : s'.processes = Function.update s.processes p { s.processes p with call := next })
    (hnext : ∀ step ∈ next, step.Fits p s'.lock s.Dead (s.processes p).held ∧
      ∀ n, step ≠ .writeOwner n)
    (hold : ∀ q ≠ p, ∀ n, d.reclaim ≠ some ⟨q, n⟩) (hnew : ∀ q ≠ p, ∀ n, mark ≠ some ⟨q, n⟩) :
    s'.Orderly := by
  have howns : ∀ a, Owns s.lock a → Owns s'.lock a := by
    rintro a ⟨d', hd', howner⟩
    obtain rfl : d = d' := Option.some.inj (hd.symm.trans hd')
    exact ⟨_, hlock, howner⟩
  refine h.changes halive hput (fun m hm => howns _ ((h.fits p).held m hm))
    (fun step hstep => (hnext step hstep).1) (fun n hn => absurd rfl ((hnext _ hn).2 n))
    fun q hq => (h.fits q).change (fun _ => id) (fun m => howns _) ?_ ?_ ?_
  · rintro m - ⟨d', hd', hnone⟩
    obtain rfl : d = d' := Option.some.inj (hd.symm.trans hd')
    exact ⟨_, hlock, hnone⟩
  · intro m o d' hd' hmark _
    cases hlock.symm.trans hd'
    exact absurd hmark (hnew q hq m)
  · rintro m o ⟨d', hd', hmark, -⟩ _
    obtain rfl : d = d' := Option.some.inj (hd.symm.trans hd')
    exact absurd hmark (hold q hq m)

omit halive

/-- **One step of a call.** -/
theorem Orderly.proceed (hcall : (s.processes p).call = some next)
    (hcareful : ∀ n ∈ next.relies, s.Marked ⟨p, n⟩) : (s.proceed p next).Orderly := by
  have halive := h.alive hcall
  have hfits := (h.fits p).call next hcall
  cases next with
  | makeDirectory n =>
    cases hlock : s.lock with
    | none =>
      simp only [State.proceed, hlock]
      -- nobody relies on a directory that is not there
      have hgone : ∀ a, ¬ Owns s.lock a := by
        rintro a ⟨d, hd, -⟩
        rw [hlock] at hd
        cases hd
      refine h.changes halive rfl (fun m hm => absurd ((h.fits p).held m hm) (hgone _))
        (fun _ hstep => Option.some.inj hstep ▸ ⟨_, rfl, rfl⟩) (fun _ _ => hlock) fun q _ => ?_
      refine (h.fits q).change (fun _ => id) (fun m hm => absurd hm (hgone _)) ?_ ?_ ?_
      · exact fun _ _ _ => ⟨_, rfl, rfl⟩
      · intro m o d' hd' hmark _
        cases hd'
        cases hmark
      · exact fun m o hmarks _ => absurd hmarks.owns (hgone _)
    | some d =>
      simp only [State.proceed, hlock]
      exact h.goes halive trivial nofun
  | writeOwner n =>
    obtain ⟨d, hlock, hnone⟩ := hfits
    simp only [State.proceed, hlock, hnone, Option.isNone_none, if_true]
    have hfree : ∀ a, ¬ Owns s.lock a := fun a => Ownerless.not_owns ⟨d, hlock, hnone⟩
    refine h.changes halive rfl (fun m hm => absurd ((h.fits p).held m hm) (hfree _))
      (fun _ hstep => Option.some.inj hstep ▸ ⟨_, rfl, rfl⟩) nofun fun q hq => ?_
    refine (h.fits q).change (fun _ => id) (fun m hm => absurd hm (hfree _)) ?_ ?_ ?_
    · exact fun m hm _ => absurd (h.alone q p m n hm hcall) hq
    · intro m o d' hd' hmark hread
      cases hd'
      exact absurd ⟨d, hlock, hread d hlock hmark⟩ (hfree o)
    · exact fun m o hmarks _ => absurd hmarks.owns (hfree _)
  | syncDirectory n =>
    simp only [State.proceed]
    split
    · refine h.put rfl (fun _ hdead => absurd (halive.symm.trans hdead) nofun) ?_ nofun
        fun q _ => h.fits q
      refine ⟨fun hdead => absurd (halive.symm.trans hdead) nofun, fun m hm => ?_, nofun⟩
      rcases List.mem_cons.mp hm with rfl | hm
      · exact hfits
      · exact (h.fits p).held m hm
    · exact h.ends halive
  | statDirectory n =>
    simp only [State.proceed]
    split
    · exact h.goes halive trivial nofun
    · exact h.ends halive
  | claim n =>
    rcases hlock : s.lock with _ | d
    · simp only [State.proceed, hlock]
      exact h.ends halive
    simp only [State.proceed, hlock]
    split
    · next hfree =>
      rw [Option.isNone_iff_eq_none] at hfree
      exact h.marks halive hlock rfl rfl (fun _ hstep => Option.some.inj hstep ▸ ⟨trivial, nofun⟩)
        (by simp [hfree]) fun q hq m heq => hq (congrArg Attempt.pid (Option.some.inj heq)).symm
    · exact h.ends halive
  | readOwner n =>
    simp only [State.proceed]
    split
    · exact h.ends halive
    next o howner =>
    refine h.goes halive (fun d hd _ => ?_) nofun
    rw [hd] at howner
    exact howner
  | startToken n o =>
    simp only [State.proceed]
    split
    · exact h.goes halive trivial nofun
    next hdead =>
    -- the owner was read from the directory that is marked
    obtain ⟨d, hd, hmark⟩ := hcareful n rfl
    exact h.goes halive ⟨o, ⟨d, hd, hmark, hfits d hd hmark⟩, Bool.eq_false_iff.mpr hdead⟩ nofun
  | withdraw n =>
    obtain ⟨d, hd, hmark⟩ := hcareful n rfl
    refine h.marks halive hd (congrArg (Option.map _) hd) rfl nofun (fun q hq m heq => hq ?_) nofun
    exact congrArg Attempt.pid (Option.some.inj (heq.symm.trans hmark))
  | setAside n =>
    obtain ⟨o, hmarks, ho⟩ := hfits
    refine h.rename halive hmarks.owns (fun _ => trivial) nofun ?_ ?_ ?_
    · -- the owner does not run, so it is another
      refine List.eq_nil_iff_forall_not_mem.mpr fun m hm => ?_
      rw [hmarks.owns.unique ((h.fits p).held m hm)] at ho
      cases halive.symm.trans ho
    · rintro q - m rfl
      exact ho
    · intro q hq m hmarks'
      exact absurd (congrArg Attempt.pid (hmarks'.unique hmarks)) hq
  | removeStale n =>
    simp only [State.proceed]
    split
    · exact h.stays halive rfl rfl fun _ hstep => Option.some.inj hstep ▸ ⟨trivial, nofun⟩
    · exact h.ends halive
  | checkOwner n =>
    simp only [State.proceed]
    split
    · exact h.goes halive hfits nofun
    · exact h.ends halive
  | release n =>
    obtain ⟨howns, hheld⟩ := hfits
    refine h.rename halive howns (fun _ => trivial) nofun ?_ ?_ ?_
    · refine List.eq_nil_iff_forall_not_mem.mpr fun m hm => ?_
      obtain rfl : n = m := congrArg Attempt.nonce (howns.unique ((h.fits p).held m hm))
      exact hheld hm
    · intro q hq m heq
      exact absurd (congrArg Attempt.pid heq).symm hq
    · exact fun _ _ _ _ hdead => absurd (halive.symm.trans hdead) nofun
  | removeReleased n => exact h.stays halive rfl rfl nofun

/-- **One event.** -/
theorem Orderly.step {event : Event} (hcareful : s.Careful event) :
    (s.step event).Orderly := by
  cases event with
  | acquire p =>
    simp only [State.step]
    split
    · next hidle =>
      exact h.stays hidle.1 rfl rfl fun _ hstep => Option.some.inj hstep ▸ ⟨trivial, nofun⟩
    · exact h
  | close p n =>
    simp only [State.step]
    split
    · next hheld =>
      have hfits := h.fits p
      have halive : ¬ s.Dead p := by
        intro hdead
        rw [hfits.quiet hdead] at hheld
        exact List.not_mem_nil hheld.2
      refine h.put rfl (fun _ => halive) ⟨fun hdead => absurd hdead halive, fun m hm => ?_, ?_⟩
        nofun fun q _ => h.fits q
      · exact hfits.held m (List.mem_of_mem_filter hm)
      · rintro _ ⟨⟩
        exact ⟨hfits.held n hheld.2, by simp⟩
    · exact h
  | proceed p =>
    simp only [State.step]
    split
    · next next hnext => exact h.proceed hnext fun n hn => hcareful n (by rw [hnext]; exact hn)
    · exact h
  | fault p =>
    by_cases halive : (s.processes p).alive = true
    · exact h.ends halive
    have hgone := (h.fits p).quiet (Bool.eq_false_iff.mpr halive)
    refine h.put rfl (fun hc => absurd hc halive) ?_ nofun fun q _ => h.fits q
    rw [hgone]
    exact ⟨fun _ => rfl, nofun, nofun⟩
  | crash p =>
    exact h.put rfl nofun ⟨fun _ => rfl, nofun, nofun⟩ nofun fun q _ => h.fits q

end

theorem orderly_init : init.Orderly :=
  ⟨fun _ => ⟨nofun, nofun, nofun⟩, nofun⟩

end State

/-- Directories are marked, asked about and unmarked in order. -/
theorem orderly_run {events : List Event} {s : State} (h : s.Orderly)
    (hcareful : Tally.Along State.step State.Careful events s) :
    (Tally.run State.step events s).Orderly := by
  induction events generalizing s with
  | nil => exact h
  | cons event events ih => exact ih (h.step hcareful.1) hcareful.2

/-- **One writer.**  While every process that asks for an owner's start token, or takes its mark
back, finds the directory that it has marked in its place, no two processes hold the lock. -/
theorem one_writer (events : List Event)
    (hcareful : Tally.Along State.step State.Careful events init) : (run events).OneWriter :=
  (orderly_run State.orderly_init hcareful).oneWriter

namespace Sample

def acquired (p : Pid) : List Event := [.acquire p, .proceed p, .proceed p, .proceed p]

/-- A process finds the lock taken, marks it, and finds the owner gone. -/
def reclaimed (p : Pid) : List Event :=
  .acquire p :: List.replicate 10 (.proceed p)

/-- An owner crashes, and another process reclaims the lock. -/
def inTurn : List Event := acquired 0 ++ .crash 0 :: reclaimed 1

/-- A process reads who owns the lock.  The owner closes the journal and exits, and another
process takes the lock, which the first then moves away. -/
def overtaken : List Event :=
  acquired 0 ++ .acquire 2 :: List.replicate 4 (.proceed 2) ++
    [.close 0 0, .proceed 0, .proceed 0, .proceed 0, .crash 0] ++
    acquired 1 ++ List.replicate 6 (.proceed 2)

end Sample

theorem one_writer_inTurn :
    Tally.Along State.step State.Careful Sample.inTurn init ∧
      ((run Sample.inTurn).processes 1).Holds 2 ∧ (run Sample.inTurn).OneWriter :=
  have hcareful : Tally.Along State.step State.Careful Sample.inTurn init := by decide +kernel
  ⟨hcareful, by decide +kernel, one_writer Sample.inTurn hcareful⟩

theorem two_writers : ¬ (run Sample.overtaken).OneWriter := by
  intro h
  have hfirst : ((run Sample.overtaken).processes 1).Holds 2 := by decide +kernel
  have hsecond : ((run Sample.overtaken).processes 2).Holds 3 := by decide +kernel
  exact absurd (h 1 2 2 3 hfirst hsecond) (by decide)

end JournalLock

end Navigator
