/-
Routes between participants.

A message between participants that are not the same, nor parent and child, goes through a
common ancestor.  `policyRoute` looks for it in whatever list of participants it is given: the
list may have cycles and gaps, and participants of several sessions.

* **`climb_spec`** — what comes of following parents, which always ends;
* **`policy_route_takes_the_lowest_ancestor`** — when there is a route, and which.
-/
import Navigator.Domain.Hierarchy
import Navigator.Lib.Txn

namespace Navigator

open Txn Tx

/-! ### The code -/

inductive HierarchyRoute where
  | selfTarget | directParent | directChild
  | viaCommonAncestor (participantId : ParticipantId)
deriving DecidableEq

inductive HierarchyRouteError where
  | crossSession | invalidTopology | directCrossTreeForbidden

def ensureSameSession (left right : SessionId) : Except HierarchyRouteError Unit :=
  check (left = right) .crossSession

def directRoute (caller target : ParticipantSnapshot) :
    Except HierarchyRouteError HierarchyRoute := do
  ensureSameSession caller.sessionId target.sessionId
  if caller.participantId = target.participantId then .ok .selfTarget
  else if caller.parentParticipantId = some target.participantId then .ok .directParent
  else if target.parentParticipantId = some caller.participantId then .ok .directChild
  else .error .directCrossTreeForbidden

/-- `by_id`: of several participants with one id, the last. -/
def byId (participants : List ParticipantSnapshot) (id : ParticipantId) :
    Option ParticipantSnapshot :=
  participants.reverse.find? (·.participantId = id)

variable {ps : List ParticipantSnapshot} {p c t : ParticipantSnapshot}
  {x y z caller target : ParticipantId} {visited : Finset ParticipantId} {n m : ℕ}

theorem byId_eq_some (h : byId ps x = some p) : p ∈ ps ∧ p.participantId = x :=
  ⟨List.mem_reverse.mp (List.mem_of_find?_eq_some h), by simpa using List.find?_some h⟩

theorem card_unvisited_lt (h : byId ps x = some p) (hx : x ∉ visited) :
    ((ps.map (·.participantId)).toFinset \ insert x visited).card <
      ((ps.map (·.participantId)).toFinset \ visited).card := by
  rw [Finset.sdiff_insert]
  refine Finset.card_erase_lt_of_mem (Finset.mem_sdiff.mpr ⟨?_, hx⟩)
  obtain ⟨hp, rfl⟩ := byId_eq_some h
  exact List.mem_toFinset.mpr (List.mem_map_of_mem hp)

variable (ps) in
/-- The loop of `ancestor_set` and of `policy_route`: follow parents until the goal or the
root, and keep whom it met. -/
def climb (goal : ParticipantId → Bool) (cursor : ParticipantId)
    (visited : Finset ParticipantId) :
    Except HierarchyRouteError (Option ParticipantId × Finset ParticipantId) :=
  if cursor ∈ visited then .error .invalidTopology
  else if goal cursor then .ok (some cursor, insert cursor visited)
  else match _ : byId ps cursor with
    | none => .error .invalidTopology
    | some snapshot =>
      match snapshot.parentParticipantId with
      | none => .ok (none, insert cursor visited)
      | some parent => climb goal parent (insert cursor visited)
termination_by ((ps.map (·.participantId)).toFinset \ visited).card
decreasing_by exact card_unvisited_lt ‹_› ‹_›

def ancestorSet (participant : ParticipantId) (ps : List ParticipantSnapshot) :
    Except HierarchyRouteError (Finset ParticipantId) :=
  (climb ps (fun _ => false) participant ∅).map Prod.snd

def policyRoute (caller target : ParticipantId) (participants : List ParticipantSnapshot) :
    Except HierarchyRouteError HierarchyRoute := do
  let caller ← need (byId participants caller) .invalidTopology
  let target ← need (byId participants target) .invalidTopology
  let callerAncestors ← ancestorSet caller.participantId participants
  let _targetAncestors ← ancestorSet target.participantId participants
  match directRoute caller target with
  | .ok route => .ok route
  | .error _ =>
    ensureSameSession caller.sessionId target.sessionId
    let (ancestor, _) ← climb participants (· ∈ callerAncestors) target.participantId ∅
    let ancestor ← need ancestor .invalidTopology
    .ok (.viaCommonAncestor ancestor)

/-! ### Ancestors -/

section

variable (ps)

/-- `y` is named as the parent of `x`. -/
def ParentOf (x y : ParticipantId) : Prop :=
  ∃ p, byId ps x = some p ∧ p.parentParticipantId = some y

/-- `y` is `x`, or an ancestor of it. -/
def Ancestor : ParticipantId → ParticipantId → Prop :=
  Relation.ReflTransGen (ParentOf ps)

/-- Somebody on the way up is missing. -/
def Broken (x : ParticipantId) : Prop :=
  ∃ y, Ancestor ps x y ∧ byId ps y = none

/-- Somebody on the way up is met again. -/
def Cyclic (x : ParticipantId) : Prop :=
  ∃ y, Ancestor ps x y ∧ Relation.TransGen (ParentOf ps) y y

/-- How many there are on the way up, the participant with them. -/
inductive Depth : ParticipantId → ℕ → Prop
  | root {x : ParticipantId} {p : ParticipantSnapshot} (found : byId ps x = some p)
      (top : p.parentParticipantId = none) : Depth x 1
  | child {x y : ParticipantId} {n : ℕ} (parent : ParentOf ps x y) (up : Depth y n) :
      Depth x (n + 1)

/-- `a` is above both, where each of them counts as above itself. -/
def CommonAncestor (x y a : ParticipantId) : Prop :=
  Ancestor ps x a ∧ Ancestor ps y a

/-- The route that goes with how two participants are related. -/
inductive Related (x y : ParticipantId) : HierarchyRoute → Prop
  | same (eq : x = y) : Related x y .selfTarget
  | parent (parent : ParentOf ps x y) : Related x y .directParent
  | child (parent : ParentOf ps y x) : Related x y .directChild
  | apart {a : ParticipantId} {n : ℕ} (ne : x ≠ y) (not_parent : ¬ ParentOf ps x y)
      (not_child : ¬ ParentOf ps y x) (common : CommonAncestor ps x y a) (depth : Depth ps a n)
      (deepest : ∀ b, CommonAncestor ps x y b → b ≠ a → ∃ m < n, Depth ps b m) :
      Related x y (.viaCommonAncestor a)

/-- What comes of a climb. -/
def Climbs (goal : ParticipantId → Bool) (x : ParticipantId) (visited : Finset ParticipantId) :
    Except HierarchyRouteError (Option ParticipantId × Finset ParticipantId) → Prop
  | .error _ => Broken ps x ∨ Cyclic ps x
  | .ok (some a, _) => goal a = true ∧ Ancestor ps x a ∧
    ∀ b, Ancestor ps x b → goal b = true → Ancestor ps a b
  | .ok (none, s) => (∃ n, Depth ps x n) ∧ (∀ b, b ∈ s ↔ b ∈ visited ∨ Ancestor ps x b) ∧
    ∀ b, Ancestor ps x b → goal b = false

end

theorem ParentOf.unique (h : ParentOf ps x y) (h' : ParentOf ps x z) : y = z := by
  obtain ⟨p, hp, hy⟩ := h
  obtain ⟨p', hp', hz⟩ := h'
  cases hp.symm.trans hp'
  exact Option.some.inj (hy.symm.trans hz)

theorem not_parentOf (found : byId ps x = some p) (top : p.parentParticipantId = none) :
    ¬ ParentOf ps x y := by
  rintro ⟨p', hp', hy⟩
  cases found.symm.trans hp'
  cases top.symm.trans hy

theorem ancestor_iff (h : ParentOf ps x y) : Ancestor ps x z ↔ x = z ∨ Ancestor ps y z := by
  rw [Ancestor, Relation.ReflTransGen.cases_head_iff]
  refine or_congr_right ⟨?_, fun hz => ⟨y, h, hz⟩⟩
  rintro ⟨y', hy', hz⟩
  exact h.unique hy' ▸ hz

theorem Depth.up (h : Depth ps x n) (hparent : ParentOf ps x y) :
    ∃ m, Depth ps y m ∧ n = m + 1 := by
  cases h with
  | root found top => exact absurd hparent (not_parentOf found top)
  | child hparent' hup => exact ⟨_, hparent.unique hparent' ▸ hup, rfl⟩

theorem Depth.unique (h : Depth ps x n) (h' : Depth ps x m) : n = m := by
  induction h generalizing m with
  | root found top =>
    cases h' with
    | root => rfl
    | child hparent _ => exact absurd hparent (not_parentOf found top)
  | child hparent _ ih =>
    obtain ⟨k, hk, rfl⟩ := h'.up hparent
    rw [ih hk]

/-- Those further up are less deep. -/
theorem Depth.ancestor (h : Depth ps x n) (hy : Ancestor ps x y) :
    ∃ m, Depth ps y m ∧ (m < n ∨ y = x) := by
  induction hy with
  | refl => exact ⟨n, h, .inr rfl⟩
  | tail _ hparent ih =>
    obtain ⟨m, hm, hle⟩ := ih
    obtain ⟨k, hk, rfl⟩ := hm.up hparent
    refine ⟨k, hk, .inl ?_⟩
    rcases hle with hlt | rfl
    · omega
    · exact Nat.lt_of_lt_of_eq k.lt_succ_self (hm.unique h)

theorem Depth.sound (h : Depth ps x n) : ¬ Broken ps x ∧ ¬ Cyclic ps x := by
  constructor
  · rintro ⟨y, hy, hnone⟩
    obtain ⟨m, hm, -⟩ := h.ancestor hy
    cases hm with
    | root found => cases hnone.symm.trans found
    | child hparent =>
      obtain ⟨p, hp, -⟩ := hparent
      cases hnone.symm.trans hp
  · rintro ⟨y, hy, hcycle⟩
    obtain ⟨m, hm, -⟩ := h.ancestor hy
    obtain ⟨z, hz, hback⟩ := Relation.TransGen.head'_iff.mp hcycle
    obtain ⟨k, hk, rfl⟩ := hm.up hz
    obtain ⟨k', hk', hlt⟩ := hk.ancestor hback
    rcases hlt with hlt | rfl
    · have := hk'.unique hm
      omega
    · have := hk.unique hm
      omega

/-- **A climb ends** at the goal, at the root, or because the way up is broken or goes round. -/
theorem climb_spec (goal : ParticipantId → Bool)
    (hvisited : ∀ v ∈ visited, Relation.TransGen (ParentOf ps) v x) :
    Climbs ps goal x visited (climb ps goal x visited) := by
  fun_induction climb ps goal x visited with
  | case1 x visited hagain => exact .inr ⟨x, .refl, hvisited x hagain⟩
  | case2 x visited hnew hgoal => exact ⟨hgoal, .refl, fun b hb _ => hb⟩
  | case3 x visited hnew hgoal hnone => exact .inl ⟨x, .refl, hnone⟩
  | case4 x visited hnew hgoal p found top =>
    have honly : ∀ b, Ancestor ps x b ↔ x = b := by
      intro b
      rw [Ancestor, Relation.ReflTransGen.cases_head_iff]
      refine or_iff_left ?_
      rintro ⟨y, hparent, -⟩
      exact not_parentOf found top hparent
    refine ⟨⟨1, .root found top⟩, fun b => ?_, fun b hb => ?_⟩
    · rw [honly, Finset.mem_insert, or_comm, eq_comm]
    · rw [← (honly b).mp hb]
      simpa using hgoal
  | case5 x visited hnew hgoal p found y link ih =>
    have hparent : ParentOf ps x y := ⟨p, found, link⟩
    have hbelow : ∀ v ∈ insert x visited, Relation.TransGen (ParentOf ps) v y := by
      intro v hv
      rcases Finset.mem_insert.mp hv with rfl | hv
      · exact .single hparent
      · exact (hvisited v hv).tail hparent
    have hup := ih hbelow
    generalize climb ps goal y (insert x visited) = result at hup ⊢
    match result with
    | .error _ =>
      refine hup.imp ?_ ?_
      all_goals
        rintro ⟨z, hz, hbad⟩
        exact ⟨z, .head hparent hz, hbad⟩
    | .ok (some a, s) =>
      obtain ⟨ha, hancestor, hfirst⟩ := hup
      refine ⟨ha, .head hparent hancestor, fun b hb hgoalb => ?_⟩
      rcases (ancestor_iff hparent).mp hb with rfl | hb
      · exact absurd hgoalb hgoal
      · exact hfirst b hb hgoalb
    | .ok (none, s) =>
      obtain ⟨⟨n, hn⟩, hmem, hnone⟩ := hup
      refine ⟨⟨n + 1, .child hparent hn⟩, fun b => ?_, fun b hb => ?_⟩
      · rw [hmem, ancestor_iff hparent, Finset.mem_insert, eq_comm]
        tauto
      · rcases (ancestor_iff hparent).mp hb with rfl | hb
        · simpa using hgoal
        · exact hnone b hb

theorem ancestorSet_spec (ps : List ParticipantSnapshot) (x : ParticipantId) :
    match ancestorSet x ps with
    | .error _ => Broken ps x ∨ Cyclic ps x
    | .ok s => (∃ n, Depth ps x n) ∧ ∀ b, b ∈ s ↔ Ancestor ps x b := by
  have hspec : Climbs ps (fun _ => false) x ∅ _ := climb_spec _ (by simp)
  unfold ancestorSet
  generalize climb ps _ x ∅ = result at hspec ⊢
  match result with
  | .error _ => exact hspec
  | .ok (some _, _) => cases hspec.1
  | .ok (none, _) => exact ⟨hspec.1, by simpa using hspec.2.1⟩

/-! ### Routes -/

/-- Participants of one session are directly related, or no direct route is found. -/
theorem directRoute_cases (hc : byId ps x = some c) (ht : byId ps y = some t)
    (hsession : c.sessionId = t.sessionId) :
    (∃ route, directRoute c t = .ok route ∧ Related ps x y route ∧
      ∃ a, CommonAncestor ps x y a) ∨
    (∃ e, directRoute c t = .error e) ∧ x ≠ y ∧ ¬ ParentOf ps x y ∧ ¬ ParentOf ps y x := by
  obtain ⟨-, rfl⟩ := byId_eq_some hc
  obtain ⟨-, rfl⟩ := byId_eq_some ht
  simp only [directRoute, ensureSameSession, check, if_pos hsession]
  dsimp only [Bind.bind, Except.bind]
  split_ifs with hself hparent hchild
  · exact .inl ⟨_, rfl, .same hself, _, .refl, hself ▸ .refl⟩
  · exact .inl ⟨_, rfl, .parent ⟨c, hc, hparent⟩, _, .single ⟨c, hc, hparent⟩, .refl⟩
  · exact .inl ⟨_, rfl, .child ⟨t, ht, hchild⟩, _, .refl, .single ⟨t, ht, hchild⟩⟩
  · refine .inr ⟨⟨_, rfl⟩, hself, ?_, ?_⟩
    · rintro ⟨p, hp, hlink⟩
      cases hc.symm.trans hp
      exact hparent hlink
    · rintro ⟨p, hp, hlink⟩
      cases ht.symm.trans hp
      exact hchild hlink

/-- Above two participants that are not directly related, the climb finds the deepest common
ancestor, or there is none. -/
theorem climb_common {s : Finset ParticipantId} (hmem : ∀ b, b ∈ s ↔ Ancestor ps x b)
    (hn : Depth ps x n) (hm : Depth ps y m) (hne : x ≠ y) (hparent : ¬ ParentOf ps x y)
    (hchild : ¬ ParentOf ps y x) :
    (∃ a seen, climb ps (· ∈ s) y ∅ = .ok (some a, seen) ∧ CommonAncestor ps x y a ∧
      Related ps x y (.viaCommonAncestor a)) ∨
    (∃ seen, climb ps (· ∈ s) y ∅ = .ok (none, seen)) ∧ ∀ a, ¬ CommonAncestor ps x y a := by
  have hspec : Climbs ps (· ∈ s) y ∅ _ := climb_spec _ (by simp)
  rcases hclimb : climb ps (· ∈ s) y ∅ with _ | ⟨_ | a, seen⟩ <;> rw [hclimb] at hspec
  · exact absurd hspec (not_or.mpr hm.sound)
  · refine .inr ⟨⟨seen, rfl⟩, fun a ha => ?_⟩
    exact absurd (hspec.2.2 a ha.2) (by simp [(hmem a).mpr ha.1])
  · obtain ⟨hgoal, ha, hfirst⟩ := hspec
    have hcommon : CommonAncestor ps x y a := ⟨(hmem a).mp (of_decide_eq_true hgoal), ha⟩
    obtain ⟨k, hk, -⟩ := hn.ancestor hcommon.1
    refine .inl ⟨a, seen, rfl, hcommon, .apart hne hparent hchild hcommon hk fun b hb hba => ?_⟩
    obtain ⟨l, hl, hlt⟩ := hk.ancestor (hfirst b hb.2 (decide_eq_true ((hmem b).mpr hb.1)))
    exact ⟨l, hlt.resolve_right hba, hl⟩

/-- Between participants of one session with a way up, a route is found exactly if something is
above both. -/
theorem policyRoute_cases {s s' : Finset ParticipantId} (hc : byId ps x = some c)
    (ht : byId ps y = some t) (hsession : c.sessionId = t.sessionId)
    (hs : ancestorSet x ps = .ok s) (hs' : ancestorSet y ps = .ok s') :
    (∃ route, policyRoute x y ps = .ok route ∧ Related ps x y route ∧
      ∃ a, CommonAncestor ps x y a) ∨
    (∃ e, policyRoute x y ps = .error e) ∧ ∀ a, ¬ CommonAncestor ps x y a := by
  have hcaller := ancestorSet_spec ps x
  have htarget := ancestorSet_spec ps y
  rw [hs] at hcaller
  rw [hs'] at htarget
  obtain ⟨⟨n, hn⟩, hmem⟩ := hcaller
  obtain ⟨⟨m, hm⟩, -⟩ := htarget
  unfold policyRoute
  rw [hc, ht]
  dsimp only [need, Bind.bind, Except.bind]
  rw [(byId_eq_some hc).2, (byId_eq_some ht).2, hs, hs']
  dsimp only
  obtain ⟨route, hdirect, hrelated⟩ | ⟨⟨e, hdirect⟩, hne, hparent, hchild⟩ :=
    directRoute_cases hc ht hsession
  · rw [hdirect]
    exact .inl ⟨route, rfl, hrelated⟩
  · rw [hdirect]
    simp only [ensureSameSession, check, if_pos hsession]
    obtain ⟨a, seen, hclimb, hcommon, hrelated⟩ | ⟨⟨seen, hclimb⟩, hnone⟩ :=
      climb_common hmem hn hm hne hparent hchild
    · rw [hclimb]
      exact .inl ⟨_, rfl, hrelated, a, hcommon⟩
    · rw [hclimb]
      exact .inr ⟨⟨_, rfl⟩, hnone⟩

/-- **Policy routes go through the lowest common ancestor**, in any list of participants. -/
theorem policy_route_takes_the_lowest_ancestor (caller target : ParticipantId)
    (participants : List ParticipantSnapshot) :
    ((∃ e, policyRoute caller target participants = .error e) ↔
      byId participants caller = none ∨ byId participants target = none ∨
      Broken participants caller ∨ Cyclic participants caller ∨
      Broken participants target ∨ Cyclic participants target ∨
      (∀ c ∈ byId participants caller, ∀ t ∈ byId participants target,
        c.sessionId ≠ t.sessionId) ∨
      ∀ a, ¬ CommonAncestor participants caller target a) ∧
    ∀ route, policyRoute caller target participants = .ok route →
      Related participants caller target route := by
  have hcaller := ancestorSet_spec participants caller
  have htarget := ancestorSet_spec participants target
  have hfails : ∀ {Q : Prop} {e}, policyRoute caller target participants = .error e → Q →
      ((∃ e, policyRoute caller target participants = .error e) ↔ Q) ∧
      ∀ route, policyRoute caller target participants = .ok route →
        Related participants caller target route := by
    intro Q e herror hQ
    exact ⟨iff_of_true ⟨e, herror⟩ hQ, fun route hroute => by cases herror.symm.trans hroute⟩
  rcases hc : byId participants caller with _ | c
  · exact hfails (by rw [policyRoute, hc]; rfl) (.inl rfl)
  rcases ht : byId participants target with _ | t
  · exact hfails (by rw [policyRoute, hc, ht]; rfl) (.inr (.inl rfl))
  rcases hs : ancestorSet caller participants with e | s
  · rw [hs] at hcaller
    refine hfails (e := e) ?_ (by tauto)
    simp only [policyRoute, hc, ht, need, Bind.bind, Except.bind, (byId_eq_some hc).2, hs]
  rcases hs' : ancestorSet target participants with e | s'
  · rw [hs'] at htarget
    refine hfails (e := e) ?_ (by tauto)
    simp only [policyRoute, hc, ht, need, Bind.bind, Except.bind, (byId_eq_some hc).2,
      (byId_eq_some ht).2, hs, hs']
  by_cases hsession : c.sessionId = t.sessionId
  case neg =>
    refine hfails (e := .crossSession) ?_ (by simp [hsession])
    simp only [policyRoute, hc, ht, need, Bind.bind, Except.bind, (byId_eq_some hc).2,
      (byId_eq_some ht).2, hs, hs', directRoute, ensureSameSession, check, if_neg hsession]
  obtain ⟨route, hroute, hrelated, a, ha⟩ | ⟨⟨e, herror⟩, hnone⟩ :=
    policyRoute_cases hc ht hsession hs hs'
  · rw [hs] at hcaller
    rw [hs'] at htarget
    obtain ⟨⟨n, hn⟩, -⟩ := hcaller
    obtain ⟨⟨m, hm⟩, -⟩ := htarget
    have := hn.sound
    have := hm.sound
    rw [hroute]
    refine ⟨iff_of_false (by simp) fun hbad => ?_, fun _ hsame => by cases hsame; exact hrelated⟩
    simp only [reduceCtorEq, false_or, Option.mem_some_iff, forall_eq', hsession, ne_eq,
      not_true_eq_false] at hbad
    tauto
  · exact hfails herror (by tauto)

end Navigator
