/-
Forests of rows that name their parents.

Every row has a key, may name the key of its parent, and says how deep it is.  `generations`
goes down from a set of keys, one generation at a time, as a recursive query does.

* **`Ranked.lineage`** — following parents ends, after as many rows as the depth says;
* **`Ranked.mem_generations`** — going down as often as there are rows finds exactly the
  descendants.
-/
import Navigator.Lib.Table

/-- Rows that name a parent, and say how deep they are. -/
class Parented (ρ : Type) (κ : outParam Type) where
  parent : ρ → Option κ
  depth : ρ → ℕ

namespace Forest

open Keyed Parented

variable {ρ κ : Type} [Keyed ρ κ] [Parented ρ κ]
variable {r : ρ} {l : List ρ} {q x : κ} {n : ℕ}

/-- `c` is the key of a child of `q`. -/
def Child (rows : List ρ) (q c : κ) : Prop := ∃ r ∈ rows, parent r = some q ∧ key r = c

/-- `x` is `q`, or descends from it. -/
def Descends (rows : List ρ) : κ → κ → Prop := Relation.ReflTransGen (Child rows)

/-- A row, its parent, and so on up to one that has none. -/
inductive Lineage (rows : List ρ) : ρ → List ρ → Prop
  | root {r : ρ} (mem : r ∈ rows) (top : parent r = none) : Lineage rows r [r]
  | child {r r' : ρ} {rest : List ρ} (mem : r ∈ rows) (link : parent r = some (key r'))
      (up : Lineage rows r' rest) : Lineage rows r (r :: rest)

/-- Depths count from one, at a row without a parent, and every parent is there. -/
structure Ranked (rows : List ρ) : Prop where
  root : ∀ r ∈ rows, parent r = none → depth r = 1
  child : ∀ r ∈ rows, ∀ q, parent r = some q → ∃ r' ∈ rows, key r' = q ∧ depth r = depth r' + 1

variable {rows : List ρ}

theorem Ranked.depth_pos (h : Ranked rows) (hr : r ∈ rows) : 0 < depth r := by
  cases hparent : parent r with
  | none => simp [h.root r hr hparent]
  | some q =>
    obtain ⟨r', -, -, hdepth⟩ := h.child r hr q hparent
    omega

/-! ### Upwards -/

theorem Lineage.mem (h : Lineage rows r l) : r ∈ rows := by
  cases h <;> assumption

/-- **Following parents ends.** -/
theorem Ranked.lineage (h : Ranked rows) (hr : r ∈ rows) :
    ∃ l, Lineage rows r l := by
  induction hd : depth r using Nat.strong_induction_on generalizing r with
  | _ d ih =>
    rcases hparent : parent r with _ | q
    · exact ⟨[r], .root hr hparent⟩
    obtain ⟨r', hr', rfl, hdepth⟩ := h.child r hr q hparent
    obtain ⟨l, hl⟩ := ih (depth r') (by omega) hr' rfl
    exact ⟨r :: l, .child hr hparent hl⟩

/-- The depths along a lineage count down to one. -/
theorem Ranked.lineage_depths (h : Ranked rows) (hkeys : (rows.map key).Nodup)
    (hl : Lineage rows r l) :
    depth r = l.length ∧ l.map depth = (List.range' 1 l.length).reverse := by
  induction hl with
  | root hr htop =>
    have hdepth := h.root _ hr htop
    exact ⟨hdepth, by simp [hdepth]⟩
  | child hr hlink hup ih =>
    rename_i r r' rest
    obtain ⟨r'', hr'', hkey, hdepth⟩ := h.child r hr _ hlink
    obtain rfl : r'' = r' := List.inj_on_of_nodup_map hkeys hr'' hup.mem hkey
    refine ⟨by rw [hdepth, ih.1, List.length_cons], ?_⟩
    simp only [List.map_cons, List.length_cons, ih.2, hdepth, ih.1, List.range'_concat,
      List.reverse_append, List.reverse_singleton, List.singleton_append, Nat.one_mul]
    congr 1
    omega

/-- Nobody is met twice on the way up. -/
theorem Ranked.lineage_nodup (h : Ranked rows) (hkeys : (rows.map key).Nodup)
    (hl : Lineage rows r l) : l.Nodup := by
  refine List.Nodup.of_map depth ?_
  rw [(h.lineage_depths hkeys hl).2]
  exact List.nodup_reverse.mpr List.nodup_range'

/-! ### Downwards -/

/-- Rows that are changed, but not their keys and parents, have the descendants they had. -/
theorem descends_map {f : ρ → ρ} (hkey : ∀ r, key (f r) = key r)
    (hparent : ∀ r, parent (f r) = parent r) :
    Descends (rows.map f) q x ↔ Descends rows q x := by
  have hchild : Child (rows.map f) = Child rows := by
    funext q c
    simp only [Child, List.mem_map, exists_exists_and_eq_and, hkey, hparent]
  rw [Descends, hchild, Descends]

section Down

variable [DecidableEq κ]

/-- A generation of keys and all that descend from it, at most `n` generations. -/
def generations (rows : List ρ) : ℕ → List κ → List κ
  | 0, _ => []
  | n + 1, generation => generation ++ generations rows n
      ((rows.filter fun r => (parent r).any (· ∈ generation)).map key)

/-- `x` is `n` generations below `q`. -/
inductive Down (rows : List ρ) : ℕ → κ → κ → Prop
  | here {q : κ} : Down rows 0 q q
  | further {n : ℕ} {r : ρ} {q x : κ} (mem : r ∈ rows) (link : parent r = some q)
      (down : Down rows n (key r) x) : Down rows (n + 1) q x

omit [DecidableEq κ] in
theorem descends_iff_down : Descends rows q x ↔ ∃ n, Down rows n q x := by
  constructor
  · intro h
    induction h using Relation.ReflTransGen.head_induction_on with
    | refl => exact ⟨0, .here⟩
    | head hchild _ ih =>
      obtain ⟨r, hr, hlink, rfl⟩ := hchild
      obtain ⟨n, hn⟩ := ih
      exact ⟨n + 1, .further hr hlink hn⟩
  · rintro ⟨n, h⟩
    induction h with
    | here => exact .refl
    | further hr hlink _ ih => exact .head ⟨_, hr, hlink, rfl⟩ ih

theorem mem_generations_iff {generation : List κ} :
    x ∈ generations rows n generation ↔ ∃ m < n, ∃ q ∈ generation, Down rows m q x := by
  induction n generalizing generation with
  | zero => simp [generations]
  | succ n ih =>
    rw [generations, List.mem_append, ih]
    constructor
    · rintro (hx | ⟨m, hm, q, hq, hdown⟩)
      · exact ⟨0, by omega, x, hx, .here⟩
      · obtain ⟨r, hr, rfl⟩ := List.mem_map.mp hq
        obtain ⟨hr, hany⟩ := List.mem_filter.mp hr
        obtain ⟨q', hlink, hq'⟩ := (Option.any_eq_true _ _).mp hany
        exact ⟨m + 1, by omega, q', by simpa using hq', .further hr hlink hdown⟩
    · rintro ⟨m, hm, q, hq, hdown⟩
      cases hdown with
      | here => exact .inl hq
      | @further m r _ _ hr hlink hdown =>
        refine .inr ⟨m, by omega, key r, List.mem_map.mpr ⟨r, ?_, rfl⟩, hdown⟩
        exact List.mem_filter.mpr ⟨hr, by simpa [hlink] using hq⟩

omit [DecidableEq κ] in
/-- The rows on the way down have depths that count up. -/
theorem Ranked.down_depths (h : Ranked rows) (hkeys : (rows.map key).Nodup)
    (hdown : Down rows n q x) (hr : r ∈ rows) (hq : key r = q) :
    ∃ l : List ρ, (∀ r ∈ l, r ∈ rows) ∧ l.map depth = List.range' (depth r + 1) n := by
  induction hdown generalizing r with
  | here => exact ⟨[], by simp, rfl⟩
  | @further n r' q _ hchild hlink _ ih =>
    obtain ⟨r'', hr'', hkey, hdepth⟩ := h.child r' hchild q hlink
    obtain rfl : r'' = r := List.inj_on_of_nodup_map hkeys hr'' hr (hkey.trans hq.symm)
    obtain ⟨l, hl, hdepths⟩ := ih hchild rfl
    refine ⟨r' :: l, List.forall_mem_cons.mpr ⟨hchild, hl⟩, ?_⟩
    rw [List.map_cons, hdepths, hdepth, List.range'_succ]

omit [DecidableEq κ] in
/-- Nobody is further down than there are rows. -/
theorem Ranked.down_le (h : Ranked rows) (hkeys : (rows.map key).Nodup) (hdown : Down rows n q x) :
    n ≤ rows.length := by
  obtain _ | ⟨hchild, hlink, hdown⟩ := hdown
  · exact Nat.zero_le _
  rename_i n r
  obtain ⟨l, hl, hdepths⟩ := h.down_depths hkeys hdown hchild rfl
  -- the child and those below it are distinct rows
  have hdepths' : (r :: l).map depth = List.range' (depth r) (n + 1) := by
    rw [List.map_cons, hdepths, List.range'_succ]
  have hnodup : (r :: l).Nodup := List.Nodup.of_map depth (hdepths' ▸ List.nodup_range')
  have hlength : (r :: l).length = n + 1 := by
    simpa using congrArg List.length hdepths'
  have hsubset : r :: l ⊆ rows := List.cons_subset.mpr ⟨hchild, hl⟩
  exact hlength ▸ (hnodup.subperm hsubset).length_le

/-- **Going down as often as there are rows finds exactly the descendants.** -/
theorem Ranked.mem_generations (h : Ranked rows) (hkeys : (rows.map key).Nodup)
    (hn : rows.length < n) :
    x ∈ generations rows n [q] ↔ Descends rows q x := by
  rw [mem_generations_iff, descends_iff_down]
  constructor
  · rintro ⟨m, -, q', hq', hdown⟩
    exact ⟨m, List.mem_singleton.mp hq' ▸ hdown⟩
  · rintro ⟨m, hdown⟩
    exact ⟨m, (h.down_le hkeys hdown).trans_lt hn, q, List.mem_singleton.mpr rfl, hdown⟩

end Down

end Forest
