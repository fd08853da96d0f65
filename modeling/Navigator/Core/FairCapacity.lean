/-
The slots in which operations are executed, and who waits for one.

A slot that is given back goes to the campaigns in turn: the waiter is sent a wake-up, and
the slot counts as taken from then on.  The waiter makes its permit of it when it is next
polled, and gives the slot back when it drops the permit.  A waiter that is dropped in
between has no permit yet, and nothing gives its slot back.

* **`FairCapacity.release`** — a slot is given back;
* **`FairCapacity.Sane`** — what holds of the slots and the waiters throughout;
* **`slots_are_kept_iff`** — the slots that are taken are those of the permits and of the
  waiters that have been woken, as long as no waiter is dropped after it was woken.
-/
import Navigator.Lib.Tally
import Navigator.Domain.Values

namespace Navigator

/-- A channel on which a waiter is woken. -/
abbrev Channel := ℕ

/-- `FairCapacityState`, with the campaigns that wait in their order, and beside it what the
tasks hold: the channels of those who wait and of those who have been woken, and the
permits. -/
structure FairCapacity where
  capacity : ℕ
  active : ℕ
  lastServed : Option ParticipantId
  waiting : List (ParticipantId × List Channel)
  asleep : List Channel
  woken : List Channel
  permits : ℕ
  fresh : Channel
deriving DecidableEq

/-! ### The waiting campaigns -/

/-- `entry(campaign).or_default().push_back(sender)`. -/
def pushBack (campaign : ParticipantId) (channel : Channel) :
    List (ParticipantId × List Channel) → List (ParticipantId × List Channel)
  | [] => [(campaign, [channel])]
  | (key, queue) :: rest =>
    if key = campaign then (key, queue ++ [channel]) :: rest
    else if campaign.uuid < key.uuid then (campaign, [channel]) :: (key, queue) :: rest
    else (key, queue) :: pushBack campaign channel rest

/-- The first sender of a campaign is taken out, and the campaign with its last one. -/
def popFront (campaign : ParticipantId) :
    List (ParticipantId × List Channel) → Option Channel × List (ParticipantId × List Channel)
  | [] => (none, [])
  | (key, queue) :: rest =>
    if key = campaign then
      match queue with
      | [] => (none, rest)
      | [channel] => (some channel, rest)
      | channel :: channel' :: queue => (some channel, (key, channel' :: queue) :: rest)
    else
      let (sender, rest) := popFront campaign rest
      (sender, (key, queue) :: rest)

/-- The campaign after the one that was served last, or else the first. -/
def nextCampaign (lastServed : Option ParticipantId)
    (waiting : List (ParticipantId × List Channel)) : Option ParticipantId :=
  ((waiting.map Prod.fst).find? fun key => lastServed.all fun last => last.uuid < key.uuid) <|>
    (waiting.map Prod.fst).head?

/-- The channels that a sender is kept for. -/
def senders (waiting : List (ParticipantId × List Channel)) : List Channel :=
  waiting.flatMap Prod.snd

/-- No campaign waits without a waiter, and how far there is to go until none waits. -/
def weight (waiting : List (ParticipantId × List Channel)) : ℕ :=
  (waiting.map fun entry => entry.2.length + 1).sum

variable {waiting : List (ParticipantId × List Channel)}

theorem mem_senders_pushBack {campaign : ParticipantId} {channel c : Channel} :
    c ∈ senders (pushBack campaign channel waiting) ↔ c = channel ∨ c ∈ senders waiting := by
  induction waiting with
  | nil => simp [senders, pushBack]
  | cons entry rest ih =>
    simp only [senders] at ih
    unfold pushBack
    split
    · simp only [senders, List.flatMap_cons, List.mem_append, List.mem_singleton]
      tauto
    split
    · simp [senders]
    · simp only [senders, List.flatMap_cons, List.mem_append, ih]
      tauto

theorem nextCampaign_mem {lastServed : Option ParticipantId} {campaign : ParticipantId}
    (h : nextCampaign lastServed waiting = some campaign) : campaign ∈ waiting.map Prod.fst := by
  unfold nextCampaign at h
  cases hfind : (waiting.map Prod.fst).find? fun key =>
      lastServed.all fun last => last.uuid < key.uuid with
  | some key =>
    rw [hfind] at h
    cases h
    exact List.mem_of_find?_eq_some hfind
  | none =>
    rw [hfind] at h
    exact List.mem_of_head? h

theorem nextCampaign_isSome (lastServed : Option ParticipantId) (h : waiting ≠ []) :
    ∃ campaign, nextCampaign lastServed waiting = some campaign := by
  obtain _ | ⟨entry, rest⟩ := waiting
  · exact absurd rfl h
  unfold nextCampaign
  cases hfind : ((entry :: rest).map Prod.fst).find? fun key =>
      lastServed.all fun last => last.uuid < key.uuid with
  | some campaign => exact ⟨campaign, rfl⟩
  | none => exact ⟨entry.1, rfl⟩

/-- What is taken out was there, and everything else still is. -/
theorem mem_senders_popFront {campaign : ParticipantId} {c : Channel} (h : c ∈ senders waiting) :
    (popFront campaign waiting).1 = some c ∨ c ∈ senders (popFront campaign waiting).2 := by
  induction waiting with
  | nil => cases h
  | cons entry rest ih =>
    obtain ⟨key, queue⟩ := entry
    simp only [senders, List.flatMap_cons, List.mem_append] at h ih ⊢
    unfold popFront
    split
    · rcases queue with _ | ⟨channel, _ | ⟨channel', queue⟩⟩
      · exact .inr (h.resolve_left List.not_mem_nil)
      · rcases h with h | h
        · exact .inl (congrArg some (List.mem_singleton.mp h).symm)
        · exact .inr h
      · rcases h with h | h
        · rcases List.mem_cons.mp h with rfl | h
          · exact .inl rfl
          · exact .inr (List.mem_append_left _ h)
        · exact .inr (List.mem_append_right _ h)
    · rcases h with h | h
      · exact .inr (List.mem_append_left _ h)
      · exact (ih h).imp_right (List.mem_append_right _)

/-- Serving a campaign that waits makes for fewer to serve. -/
theorem weight_popFront {campaign : ParticipantId} (h : campaign ∈ waiting.map Prod.fst) :
    weight (popFront campaign waiting).2 < weight waiting := by
  induction waiting with
  | nil => cases h
  | cons entry rest ih =>
    obtain ⟨key, queue⟩ := entry
    unfold popFront
    split
    · rcases queue with _ | ⟨channel, _ | ⟨channel', queue⟩⟩ <;>
        simp only [weight, List.map_cons, List.sum_cons, List.length_cons, List.length_nil] <;>
        omega
    · next hkey =>
      have hrest := ih ((List.mem_cons.mp h).resolve_left (Ne.symm hkey))
      simp only [weight, List.map_cons, List.sum_cons] at hrest ⊢
      omega

/-! ### Giving and taking slots -/

namespace FairCapacity

/-- `FairCapacity::new`. -/
def new (capacity : ℕ) : FairCapacity := ⟨capacity, 0, none, [], [], [], 0, 0⟩

/-- The first poll of `acquire`: a free slot is taken at once, or the caller is queued. -/
def acquire (σ : FairCapacity) (campaign : ParticipantId) : FairCapacity :=
  if σ.active < σ.capacity ∧ σ.waiting = [] then
    { σ with active := σ.active + 1, permits := σ.permits + 1 }
  else
    { σ with
      waiting := pushBack campaign σ.fresh σ.waiting
      asleep := σ.fresh :: σ.asleep
      fresh := σ.fresh + 1 }

/-- A later poll of `acquire`: the caller makes a permit of its wake-up. -/
def poll (σ : FairCapacity) (channel : Channel) : FairCapacity :=
  if channel ∈ σ.woken then
    { σ with woken := σ.woken.erase channel, permits := σ.permits + 1 }
  else σ

/-- A pending `acquire` is dropped, and with it the receiver of its channel. -/
def dropWaiter (σ : FairCapacity) (channel : Channel) : FairCapacity :=
  { σ with asleep := σ.asleep.erase channel, woken := σ.woken.erase channel }

/-- `sender.send(())`: it succeeds if the receiver is still there. -/
def send (σ : FairCapacity) (channel : Channel) : Bool × FairCapacity :=
  if channel ∈ σ.asleep then
    (true, { σ with asleep := σ.asleep.erase channel, woken := channel :: σ.woken })
  else (false, σ)

/-- The body of the loop of `release`. -/
def serve (σ : FairCapacity) : FairCapacity :=
  match nextCampaign σ.lastServed σ.waiting with
  | none => σ
  | some next =>
    let (sender, waiting) := popFront next σ.waiting
    let σ := { σ with waiting }
    match sender with
    | none => σ
    | some channel =>
      let (sent, σ) := σ.send channel
      if sent then { σ with lastServed := some next, active := σ.active + 1 } else σ

/-- The loop of `release`, for at most so many rounds. -/
def serveAll : ℕ → FairCapacity → FairCapacity
  | 0, σ => σ
  | rounds + 1, σ =>
    if σ.active < σ.capacity ∧ σ.waiting ≠ [] then serveAll rounds σ.serve else σ

/-- `release`: every round of its loop takes somebody out of the queues. -/
def release (σ : FairCapacity) : FairCapacity :=
  serveAll (weight σ.waiting) { σ with active := σ.active - 1 }

/-- A permit is dropped. -/
def dropPermit (σ : FairCapacity) : FairCapacity :=
  if 0 < σ.permits then release { σ with permits := σ.permits - 1 } else σ

/-- What the tasks do. -/
inductive Event where
  | acquire (campaign : ParticipantId)
  | poll (channel : Channel)
  | dropWaiter (channel : Channel)
  | dropPermit
deriving DecidableEq

def step (σ : FairCapacity) : Event → FairCapacity
  | .acquire campaign => σ.acquire campaign
  | .poll channel => σ.poll channel
  | .dropWaiter channel => σ.dropWaiter channel
  | .dropPermit => σ.dropPermit

/-- The number of waiters that an event drops after they were woken. -/
def lost (σ : FairCapacity) : Event → ℕ
  | .dropWaiter channel => if channel ∈ σ.woken then 1 else 0
  | _ => 0

/-! ### The slots that are taken -/

/-- The slots that are neither a permit's nor a woken waiter's are `astray`, and every waiter
that sleeps is in a queue. -/
structure Sane (capacity astray : ℕ) (σ : FairCapacity) : Prop where
  size : σ.capacity = capacity
  slots : σ.active = σ.permits + σ.woken.length + astray
  bounded : σ.active ≤ capacity
  queued : ∀ c ∈ σ.asleep, c ∈ senders σ.waiting
  distinct : σ.asleep.Nodup
  old : ∀ c ∈ σ.asleep, c < σ.fresh

variable {σ : FairCapacity} {capacity astray : ℕ}

section

variable (h : σ.Sane capacity astray)
include h

theorem Sane.send {channel : Channel} {campaign : ParticipantId}
    (hspare : σ.active < capacity) (hpop : (popFront campaign σ.waiting).1 = some channel) :
    Sane capacity astray { σ with
      waiting := (popFront campaign σ.waiting).2
      asleep := σ.asleep.erase channel
      woken := channel :: σ.woken
      lastServed := some campaign
      active := σ.active + 1 } where
  size := h.size
  slots := by
    have := h.slots
    simp only [List.length_cons]
    omega
  bounded := hspare
  queued c hc := by
    have hc' := (List.Nodup.mem_erase_iff h.distinct).mp hc
    refine (mem_senders_popFront (h.queued c hc'.2)).resolve_left fun hsame => ?_
    rw [hpop] at hsame
    exact hc'.1 (Option.some.inj hsame).symm
  distinct := h.distinct.erase _
  old c hc := h.old c (List.mem_of_mem_erase hc)

theorem Sane.skip {campaign : ParticipantId}
    (hpop : ∀ c ∈ σ.asleep, (popFront campaign σ.waiting).1 ≠ some c) :
    Sane capacity astray { σ with waiting := (popFront campaign σ.waiting).2 } where
  size := h.size
  slots := h.slots
  bounded := h.bounded
  queued c hc := (mem_senders_popFront (h.queued c hc)).resolve_left (hpop c hc)
  distinct := h.distinct
  old := h.old

/-- A round of the loop: somebody is taken out of the queues, and woken if still there. -/
theorem Sane.serve (hspare : σ.active < capacity) (hwaiting : σ.waiting ≠ []) :
    σ.serve.Sane capacity astray ∧ weight σ.serve.waiting < weight σ.waiting := by
  obtain ⟨campaign, hnext⟩ := nextCampaign_isSome σ.lastServed hwaiting
  have hlighter := weight_popFront (nextCampaign_mem hnext)
  unfold FairCapacity.serve
  rw [hnext]
  rcases hpop : (popFront campaign σ.waiting).1 with _ | channel
  · simp only [hpop]
    exact ⟨h.skip fun c _ => by rw [hpop]; exact nofun, hlighter⟩
  simp only [hpop, FairCapacity.send]
  by_cases hmem : channel ∈ σ.asleep
  · rw [if_pos hmem]
    exact ⟨h.send hspare hpop, hlighter⟩
  rw [if_neg hmem]
  refine ⟨h.skip fun c hc hsame => hmem ?_, hlighter⟩
  rw [hpop] at hsame
  exact Option.some.inj hsame ▸ hc

/-- The loop ends when no slot is left or nobody waits. -/
theorem Sane.serveAll {rounds : ℕ} (henough : weight σ.waiting ≤ rounds) :
    (σ.serveAll rounds).Sane capacity astray ∧
      ((σ.serveAll rounds).waiting ≠ [] → (σ.serveAll rounds).active = capacity) := by
  induction rounds generalizing σ with
  | zero =>
    refine ⟨h, fun hwaiting => absurd ?_ hwaiting⟩
    -- nothing is left that weighs anything
    cases hw : σ.waiting with
    | nil => exact hw
    | cons entry rest => simp [hw, weight] at henough
  | succ rounds ih =>
    unfold FairCapacity.serveAll
    split
    · next hmore =>
      obtain ⟨hserve, hlighter⟩ := h.serve (h.size ▸ hmore.1) hmore.2
      exact ih hserve (by omega)
    · next hdone =>
      refine ⟨h, fun hwaiting => ?_⟩
      have := h.bounded
      simp only [hwaiting, h.size, ne_eq, not_false_eq_true, and_true, not_lt] at hdone
      omega

end

/-- Between two events: nobody waits while a slot is free. -/
structure Settled (capacity astray : ℕ) (σ : FairCapacity) : Prop extends
    Sane capacity astray σ where
  busy : σ.waiting ≠ [] → σ.active = capacity

section

variable (h : σ.Settled capacity astray)
include h

theorem Settled.acquire (campaign : ParticipantId) :
    (σ.acquire campaign).Settled capacity astray := by
  unfold FairCapacity.acquire
  split
  · next hfree =>
    refine ⟨⟨h.size, ?_, h.size ▸ hfree.1, h.queued, h.distinct, h.old⟩,
      fun hwaiting => absurd hfree.2 hwaiting⟩
    have := h.slots
    simp only
    omega
  · next hfull =>
    -- somebody waits already, or no slot is free
    have hbusy : σ.active = capacity := by
      by_cases hwaiting : σ.waiting = []
      · have := h.bounded
        simp only [hwaiting, h.size, and_true, not_lt] at hfull
        omega
      · exact h.busy hwaiting
    have hnew : σ.fresh ∉ σ.asleep := fun hmem => lt_irrefl _ (h.old _ hmem)
    refine ⟨⟨h.size, h.slots, h.bounded, ?_, List.nodup_cons.mpr ⟨hnew, h.distinct⟩, ?_⟩,
      fun _ => hbusy⟩
    · intro c hc
      rcases List.mem_cons.mp hc with rfl | hc
      · exact mem_senders_pushBack.mpr (.inl rfl)
      · exact mem_senders_pushBack.mpr (.inr (h.queued c hc))
    · intro c hc
      rcases List.mem_cons.mp hc with rfl | hc
      · exact Nat.lt_succ_self _
      · exact Nat.lt_succ_of_lt (h.old c hc)

theorem Settled.poll (channel : Channel) :
    (σ.poll channel).Settled capacity astray := by
  unfold FairCapacity.poll
  split
  · next hmem =>
    refine ⟨⟨h.size, ?_, h.bounded, h.queued, h.distinct, h.old⟩, h.busy⟩
    have hslots := h.slots
    have hpos := List.length_pos_of_mem hmem
    simp only [List.length_erase_of_mem hmem]
    omega
  · exact h

/-- What a waiter was woken with goes with it. -/
theorem Settled.dropWaiter (channel : Channel) :
    (σ.dropWaiter channel).Settled capacity (astray + σ.lost (.dropWaiter channel)) := by
  have hslots := h.slots
  refine ⟨⟨h.size, ?_, h.bounded, fun c hc => h.queued c (List.mem_of_mem_erase hc),
    h.distinct.erase _, fun c hc => h.old c (List.mem_of_mem_erase hc)⟩, h.busy⟩
  by_cases hmem : channel ∈ σ.woken
  · have hpos := List.length_pos_of_mem hmem
    simp only [FairCapacity.dropWaiter, lost, if_pos hmem, List.length_erase_of_mem hmem]
    omega
  · simp only [FairCapacity.dropWaiter, lost, if_neg hmem, List.erase_of_not_mem hmem]
    omega

theorem Settled.dropPermit : σ.dropPermit.Settled capacity astray := by
  unfold FairCapacity.dropPermit
  split
  · next hpermit =>
    have hslots := h.slots
    have hbounded := h.bounded
    have hfreed : Sane capacity astray
        { σ with permits := σ.permits - 1, active := σ.active - 1 } :=
      ⟨h.size, by simp only; omega, by simp only; omega, h.queued, h.distinct, h.old⟩
    obtain ⟨hsane, hend⟩ := hfreed.serveAll le_rfl
    exact ⟨hsane, hend⟩
  · exact h

theorem Settled.step (event : Event) :
    (σ.step event).Settled capacity (astray + σ.lost event) := by
  cases event with
  | acquire campaign => exact h.acquire campaign
  | poll channel => exact h.poll channel
  | dropWaiter channel => exact h.dropWaiter channel
  | dropPermit => exact h.dropPermit

/-- The slots that have gone astray are those of the waiters that were lost. -/
theorem Settled.run (events : List Event) :
    (Tally.run FairCapacity.step events σ).Settled capacity
      (astray + Tally.tally FairCapacity.step lost events σ) := by
  induction events generalizing σ astray with
  | nil => exact h
  | cons event rest ih =>
    have hrest := ih (h.step event)
    rw [Nat.add_assoc] at hrest
    exact hrest

end

/-- A waiter is dropped after it was woken. -/
def DropsWoken (σ : FairCapacity) : Event → Prop
  | .dropWaiter channel => channel ∈ σ.woken
  | _ => False

theorem lost_eq_zero {event : Event} : σ.lost event = 0 ↔ ¬ σ.DropsWoken event := by
  cases event <;> simp [lost, DropsWoken]

/-- The slots after some events. -/
def after (capacity : ℕ) (events : List Event) : FairCapacity :=
  Tally.run step events (new capacity)

/-- No waiter is dropped after it was woken. -/
def KeepsWoken (capacity : ℕ) (events : List Event) : Prop :=
  Tally.Along step (fun σ event => ¬ σ.DropsWoken event) events (new capacity)

/-- The slots that are taken for nobody are none if and only if no waiter was lost. -/
theorem settled_after (capacity : ℕ) (events : List Event) :
    ∃ astray, (after capacity events).Settled capacity astray ∧
      (astray = 0 ↔ KeepsWoken capacity events) := by
  have hnew : (new capacity).Settled capacity 0 :=
    ⟨⟨rfl, rfl, Nat.zero_le _, nofun, .nil, nofun⟩, fun h => absurd rfl h⟩
  have hsettled := hnew.run events
  rw [Nat.zero_add] at hsettled
  refine ⟨_, hsettled, ?_⟩
  simp only [KeepsWoken, ← lost_eq_zero, Tally.tally_eq_zero_iff]

end FairCapacity

open FairCapacity

/-- **No execution slot is lost** as long as no waiter is dropped between its wake-up and its
next poll.  Whatever happens there are no more permits than slots, and nobody waits while a
slot is free. -/
theorem slots_are_kept_iff {capacity : ℕ} (hcapacity : 0 < capacity) (events : List Event) :
    (after capacity events).permits ≤ capacity ∧
      ((after capacity events).asleep ≠ [] → (after capacity events).active = capacity) ∧
      ((after capacity events).active =
          (after capacity events).permits + (after capacity events).woken.length ↔
        KeepsWoken capacity events) ∧
      ((after capacity events).permits = 0 → (after capacity events).asleep = [] →
        (after capacity events).woken = [] →
        ((after capacity events).active = 0 ∧ (after capacity events).waiting = [] ↔
          KeepsWoken capacity events)) := by
  obtain ⟨astray, hsettled, hkept⟩ := settled_after capacity events
  have hslots := hsettled.slots
  have hbounded := hsettled.bounded
  rw [← hkept]
  refine ⟨by omega, fun hasleep => ?_, by omega, fun hpermits hasleep hwoken => ?_⟩
  · -- one that sleeps is in a queue
    obtain ⟨c, hc⟩ := List.exists_mem_of_ne_nil _ hasleep
    refine hsettled.busy fun hwaiting => ?_
    have hqueued := hsettled.queued c hc
    rw [hwaiting] at hqueued
    cases hqueued
  · rw [hpermits, hwoken, List.length_nil] at hslots
    constructor
    · rintro ⟨hactive, -⟩
      omega
    · intro hnone
      -- a slot is free, so nobody waits
      refine ⟨by omega, by_contra fun hwaiting => ?_⟩
      have hbusy := hsettled.busy hwaiting
      omega

namespace Sample

def campaign : ParticipantId := ⟨1, by decide⟩

/-- Somebody is served and somebody waits; the slot is handed over, and given back. -/
def slotHandedOver : List FairCapacity.Event :=
  [.acquire campaign, .acquire campaign, .dropPermit, .poll 0, .dropPermit]

/-- As before, but the second one gives up before it is polled. -/
def abandonedSlot : List FairCapacity.Event :=
  [.acquire campaign, .acquire campaign, .dropPermit, .dropWaiter 0]

end Sample

open Sample

/-- The slot that is handed over is free in the end. -/
theorem slots_are_kept_handover :
    0 < 1 ∧ KeepsWoken 1 slotHandedOver ∧ (after 1 slotHandedOver).active = 0 := by
  obtain ⟨-, -, hslots, hfree⟩ := slots_are_kept_iff Nat.one_pos slotHandedOver
  have hkept : KeepsWoken 1 slotHandedOver := hslots.mp (by decide +kernel)
  refine ⟨Nat.one_pos, hkept, ?_⟩
  exact ((hfree (by decide +kernel) (by decide +kernel) (by decide +kernel)).mpr hkept).1

/-- **A slot is lost**: nobody has a permit and nobody waits, but the only slot is taken, and
whoever comes next will wait for it. -/
theorem abandoned_slot_is_lost :
    (after 1 abandonedSlot).permits = 0 ∧ (after 1 abandonedSlot).asleep = [] ∧
      (after 1 abandonedSlot).woken = [] ∧ (after 1 abandonedSlot).active = 1 ∧
      (after 1 (abandonedSlot ++ [.acquire campaign])).asleep = [1] := by
  decide +kernel

end Navigator
