/-
Keyed tables.

A `Table` is the list of its rows, newest first, no two of which have the same
key.  The operations are the ones a transaction issues: look a row up by its
key, insert a row with a fresh key, replace a row, and rewrite every row of a
kind.  They keep the keys distinct by construction.

* **`find?_eq_some_iff`** — a row is found exactly if it is there;
* **`find?_insert`**, **`find?_replace`**, **`find?_rewrite`** — what each
  operation does to every lookup;
* **`Evolves.trans`** — rows that change in a way that composes;
* **`total_insert`**, **`total_replace`** — what they do to a sum over the rows.
-/
import Mathlib

/-- Rows of type `ρ` are identified by a key of type `κ`. -/
class Keyed (ρ : Type) (κ : outParam Type) where
  key : ρ → κ

/-- Rows with pairwise distinct keys. -/
structure Table (ρ : Type) {κ : Type} [Keyed ρ κ] where
  rows : List ρ
  nodup : (rows.map Keyed.key).Nodup

namespace Table

variable {ρ κ : Type} [Keyed ρ κ]
variable {r : ρ} {f : ρ → ρ} {k : κ}
variable {r' x old : ρ} {p : ρ → Bool} {t t' : Table ρ}

/-- The table without rows. -/
def empty : Table ρ := ⟨[], List.nodup_nil⟩

instance : Membership ρ (Table ρ) := ⟨fun t r => r ∈ t.rows⟩

theorem mem_def : r ∈ t ↔ r ∈ t.rows := Iff.rfl

@[simp] theorem not_mem_empty : r ∉ (empty : Table ρ) := List.not_mem_nil

theorem key_injOn (hr : r ∈ t) (hr' : r' ∈ t) (h : Keyed.key r = Keyed.key r') :
    r = r' :=
  List.inj_on_of_nodup_map t.nodup hr hr' h

/-- Change rows by a function that keeps every key. -/
def rewrite (t : Table ρ) (f : ρ → ρ) (hf : ∀ r, Keyed.key (f r) = Keyed.key r) :
    Table ρ where
  rows := t.rows.map f
  nodup := by
    rw [List.map_map, show Keyed.key ∘ f = (Keyed.key : ρ → κ) from funext hf]
    exact t.nodup

theorem mem_rewrite {hf : ∀ r, Keyed.key (f r) = Keyed.key r} :
    x ∈ t.rewrite f hf ↔ ∃ r ∈ t, f r = x :=
  List.mem_map

/-- Delete the rows that do not satisfy `p`. -/
def filter (t : Table ρ) (p : ρ → Bool) : Table ρ where
  rows := t.rows.filter p
  nodup := t.nodup.sublist (List.filter_sublist.map _)

theorem mem_filter : r ∈ t.filter p ↔ r ∈ t ∧ p r = true :=
  List.mem_filter

variable [DecidableEq κ]

/-- The row with key `k`. -/
def find? (t : Table ρ) (k : κ) : Option ρ :=
  t.rows.find? fun r => decide (Keyed.key r = k)

/-- Add a row, unless its key is taken. -/
def insert? (t : Table ρ) (r : ρ) : Option (Table ρ) :=
  if h : ∀ x ∈ t.rows, Keyed.key x ≠ Keyed.key r then
    some ⟨r :: t.rows, by
      refine List.nodup_cons.mpr ⟨fun hmem => ?_, t.nodup⟩
      obtain ⟨x, hx, hkey⟩ := List.mem_map.mp hmem
      exact h x hx hkey⟩
  else none

/-- Put `r` in the place of the row with its key; without one, change nothing. -/
def replace (t : Table ρ) (r : ρ) : Table ρ :=
  t.rewrite (fun x => if Keyed.key x = Keyed.key r then r else x) fun x => by
    split
    · exact Eq.symm ‹_›
    · rfl

/-- Change the row with key `k` by a function that keeps the key. -/
def modify (t : Table ρ) (k : κ) (f : ρ → ρ) (hf : ∀ r, Keyed.key (f r) = Keyed.key r) :
    Table ρ :=
  t.rewrite (fun r => if Keyed.key r = k then f r else r) fun r => by
    split
    · exact hf r
    · rfl

/-- Insert a row, or put it in the place of the row with its key. -/
def upsert (t : Table ρ) (r : ρ) : Table ρ :=
  match t.insert? r with
  | some t' => t'
  | none => t.replace r

/-! ### Lookups -/

theorem find?_eq_some_iff :
    t.find? k = some r ↔ r ∈ t ∧ Keyed.key r = k := by
  constructor
  · intro h
    exact ⟨List.mem_of_find?_eq_some h, by simpa using List.find?_some h⟩
  · rintro ⟨hmem, rfl⟩
    obtain ⟨r', hr'⟩ : ∃ r', t.find? (Keyed.key r) = some r' := by
      refine Option.isSome_iff_exists.mp (List.find?_isSome.mpr ⟨r, hmem, by simp⟩)
    have hkey : Keyed.key r' = Keyed.key r := by simpa using List.find?_some hr'
    rw [hr', key_injOn (List.mem_of_find?_eq_some hr') hmem hkey]

theorem find?_eq_none_iff :
    t.find? k = none ↔ ∀ r ∈ t, Keyed.key r ≠ k := by
  simp [find?, mem_def]

theorem mem_of_find? (h : t.find? k = some r) : r ∈ t :=
  (find?_eq_some_iff.mp h).1

theorem key_of_find? (h : t.find? k = some r) :
    Keyed.key r = k :=
  (find?_eq_some_iff.mp h).2

theorem find?_of_mem (h : r ∈ t) : t.find? (Keyed.key r) = some r :=
  find?_eq_some_iff.mpr ⟨h, rfl⟩

theorem find?_filter (t : Table ρ) (p : ρ → Bool) (k : κ) :
    (t.filter p).find? k = (t.find? k).filter p := by
  rcases h : t.find? k with _ | r
  · refine find?_eq_none_iff.mpr fun r hr => ?_
    exact find?_eq_none_iff.mp h r (mem_filter.mp hr).1
  obtain ⟨hr, hk⟩ := find?_eq_some_iff.mp h
  by_cases hp : p r = true
  · rw [Option.filter_some, if_pos hp]
    exact find?_eq_some_iff.mpr ⟨mem_filter.mpr ⟨hr, hp⟩, hk⟩
  rw [Option.filter_some, if_neg hp]
  refine find?_eq_none_iff.mpr fun x hx hkey => hp ?_
  obtain ⟨hx, hpx⟩ := mem_filter.mp hx
  rwa [key_injOn hr hx (hk.trans hkey.symm)]

/-! ### Insertion -/

section

variable (h : t.insert? r = some t')
include h

theorem insert?_rows : t'.rows = r :: t.rows := by
  unfold insert? at h
  split at h
  · cases h
    rfl
  · cases h

theorem insert?_fresh : t.find? (Keyed.key r) = none := by
  unfold insert? at h
  split at h
  · exact find?_eq_none_iff.mpr ‹_›
  · cases h

theorem mem_insert : x ∈ t' ↔ x = r ∨ x ∈ t := by
  rw [mem_def, insert?_rows h, List.mem_cons, mem_def]

theorem find?_insert (k : κ) : t'.find? k = if Keyed.key r = k then some r else t.find? k := by
  rw [find?, insert?_rows h, List.find?_cons]
  by_cases hk : Keyed.key r = k <;> simp [hk, find?]

end

/-! ### Replacement -/

theorem find?_insert_or (h : t.insert? r = some t') (k : κ) :
    t'.find? k = t.find? k ∨ Keyed.key r = k := by
  rw [find?_insert h]
  by_cases hk : Keyed.key r = k
  · exact .inr hk
  · exact .inl (if_neg hk)

theorem find?_rewrite (t : Table ρ) (f : ρ → ρ) (hf : ∀ r, Keyed.key (f r) = Keyed.key r)
    (k : κ) : (t.rewrite f hf).find? k = (t.find? k).map f := by
  cases h : t.find? k with
  | none =>
    refine find?_eq_none_iff.mpr fun x hx => ?_
    obtain ⟨r, hr, rfl⟩ := mem_rewrite.mp hx
    rw [hf]
    exact find?_eq_none_iff.mp h r hr
  | some r =>
    refine find?_eq_some_iff.mpr ⟨mem_rewrite.mpr ⟨r, mem_of_find? h, rfl⟩, ?_⟩
    rw [hf, key_of_find? h]

theorem find?_replace (t : Table ρ) (r : ρ) (k : κ) :
    (t.replace r).find? k = if Keyed.key r = k then (t.find? k).map fun _ => r else t.find? k := by
  rw [replace, find?_rewrite]
  rcases h : t.find? k with _ | x
  · simp
  have hx := key_of_find? h
  by_cases hk : Keyed.key r = k
  · simp [hk, hx]
  · simp [hk, hx, Ne.symm hk]

/-- A row that is there takes the place of the old one. -/
theorem find?_replaced (h : t.find? k = some old) (hk : Keyed.key r = k) (k' : κ) :
    (t.replace r).find? k' = if k = k' then some r else t.find? k' := by
  rw [find?_replace, hk]
  split
  · next heq => rw [← heq, h, Option.map_some]
  · rfl

theorem find?_modify (t : Table ρ) (k : κ) (f : ρ → ρ)
    (hf : ∀ r, Keyed.key (f r) = Keyed.key r) (k' : κ) :
    (t.modify k f hf).find? k' = if k' = k then (t.find? k).map f else t.find? k' := by
  rw [modify, find?_rewrite]
  by_cases hk : k' = k
  · subst hk
    rw [if_pos rfl]
    exact Option.map_congr fun x hx => if_pos (key_of_find? hx)
  · rw [if_neg hk]
    refine (Option.map_congr fun x hx => if_neg ?_).trans Option.map_id'
    rwa [key_of_find? hx]

theorem find?_modified (hf : ∀ r, Keyed.key (f r) = Keyed.key r)
    (h : t' = t.modify k f hf) (hr : t.find? k = some r) : t'.find? k = some (f r) := by
  rw [h, find?_modify, if_pos rfl, hr, Option.map_some]

theorem mem_replace (h : t.find? (Keyed.key r) = some old) :
    x ∈ t.replace r ↔ x = r ∨ x ∈ t ∧ Keyed.key x ≠ Keyed.key r := by
  constructor
  · intro hx
    obtain ⟨y, hy, rfl⟩ := mem_rewrite.mp hx
    by_cases hk : Keyed.key y = Keyed.key r
    · exact .inl (if_pos hk)
    · rw [if_neg hk]
      exact .inr ⟨hy, hk⟩
  · rintro (rfl | ⟨hx, hk⟩)
    · exact mem_rewrite.mpr ⟨old, mem_of_find? h, if_pos (key_of_find? h)⟩
    · exact mem_rewrite.mpr ⟨x, hx, if_neg hk⟩

/-- A row whose key is new can be inserted. -/
theorem exists_insert (h : t.find? (Keyed.key r) = none) :
    ∃ t', t.insert? r = some t' :=
  ⟨_, dif_pos (find?_eq_none_iff.mp h)⟩

theorem find?_upsert (t : Table ρ) (r : ρ) (k : κ) :
    (t.upsert r).find? k = if Keyed.key r = k then some r else t.find? k := by
  unfold upsert
  cases h : t.insert? r with
  | some t' => exact find?_insert h k
  | none =>
    cases hold : t.find? (Keyed.key r) with
    | none =>
      obtain ⟨t', ht'⟩ := exists_insert hold
      cases h.symm.trans ht'
    | some old => exact find?_replaced hold rfl k

/-! ### Growth -/

/-- Every row of `t` is a row of `t'`. -/
def Grows (t t' : Table ρ) : Prop := ∀ k r, t.find? k = some r → t'.find? k = some r

theorem Grows.refl (t : Table ρ) : t.Grows t := fun _ _ h => h

theorem Grows.trans {t1 t2 t3 : Table ρ} (h1 : t1.Grows t2) (h2 : t2.Grows t3) :
    t1.Grows t3 :=
  fun k r h => h2 k r (h1 k r h)

theorem Grows.insert (h : t.insert? r = some t') : t.Grows t' := by
  intro k x hx
  rw [find?_insert h, if_neg, hx]
  rintro rfl
  rw [insert?_fresh h] at hx
  cases hx

/-! ### Evolution -/

/-- Every row of `t` has a row of `t'` after it, with the same key and as `R` says. -/
def Evolves (t : Table ρ) (R : ρ → ρ → Prop) (t' : Table ρ) : Prop :=
  ∀ k r, t.find? k = some r → ∃ r', t'.find? k = some r' ∧ R r r'

section Evolves

variable {R : ρ → ρ → Prop} {t1 t2 t3 : Table ρ}

theorem Evolves.of_eq (hR : ∀ r, R r r) (h : t' = t) : t.Evolves R t' :=
  fun _ r hr => ⟨r, h ▸ hr, hR r⟩

theorem Evolves.trans (hR : ∀ {r1 r2 r3}, R r1 r2 → R r2 r3 → R r1 r3)
    (h1 : t1.Evolves R t2) (h2 : t2.Evolves R t3) : t1.Evolves R t3 := by
  intro k r hr
  obtain ⟨r2, hr2, hR2⟩ := h1 k r hr
  obtain ⟨r3, hr3, hR3⟩ := h2 k r2 hr2
  exact ⟨r3, hr3, hR hR2 hR3⟩

theorem Evolves.insert (hR : ∀ r, R r r) (h : t.insert? r = some t') :
    t.Evolves R t' :=
  fun k x hx => ⟨x, Grows.insert h k x hx, hR x⟩

theorem Evolves.replace (hR : ∀ r, R r r) (hfound : t.find? (Keyed.key r') = some r) (h : R r r') :
    t.Evolves R (t.replace r') := by
  intro k x hx
  rw [find?_replace]
  by_cases hk : Keyed.key r' = k
  · subst hk
    rw [hfound] at hx
    cases hx
    exact ⟨r', by simp [hfound], h⟩
  · exact ⟨x, by simp [hk, hx], hR x⟩

theorem Evolves.rewrite (hf : ∀ r, Keyed.key (f r) = Keyed.key r) (h : ∀ r, R r (f r)) :
    t.Evolves R (t.rewrite f hf) := by
  intro k x hx
  exact ⟨f x, by rw [find?_rewrite, hx]; rfl, h x⟩

theorem Evolves.modify (hR : ∀ r, R r r) (hf : ∀ r, Keyed.key (f r) = Keyed.key r)
    (h : ∀ r, t.find? k = some r → R r (f r)) :
    t.Evolves R (t.modify k f hf) := by
  intro k' x hx
  rw [find?_modify]
  by_cases hk : k' = k
  · subst hk
    exact ⟨f x, by simp [hx], h x hx⟩
  · exact ⟨x, by simp [hk, hx], hR x⟩

end Evolves

/-! ### One change at most -/

/-- Every row of `t₀` is still in `t`, or has been changed once, as `R` says; rows that were
not there are as `N` says. -/
structure Once (t₀ : Table ρ) (R : ρ → ρ → Prop) (N : ρ → Prop) (t : Table ρ) : Prop where
  old : ∀ r ∈ t₀, ∃ r', t.find? (Keyed.key r) = some r' ∧ (r' = r ∨ R r r')
  new : ∀ r ∈ t, t₀.find? (Keyed.key r) = none → N r

section Once

variable {R : ρ → ρ → Prop} {N : ρ → Prop} {t₀ : Table ρ}

theorem Once.refl (t₀ : Table ρ) : t₀.Once R N t₀ where
  old r hr := ⟨r, find?_of_mem hr, .inl rfl⟩
  new r hr h := by
    rw [find?_of_mem hr] at h
    cases h

theorem Once.insert (h : t₀.Once R N t) (hr : t.insert? r = some t') (hN : N r) :
    t₀.Once R N t' where
  old x hx := by
    obtain ⟨x', hx', hR⟩ := h.old x hx
    exact ⟨x', Grows.insert hr _ x' hx', hR⟩
  new x hx hnone := by
    rcases (mem_insert hr).mp hx with rfl | hx
    · exact hN
    · exact h.new x hx hnone

theorem Once.replace (h : t₀.Once R N t) {r0 : ρ} (hr : t.find? (Keyed.key r') = some r)
    (hr0 : r0 ∈ t₀) (hkey : Keyed.key r0 = Keyed.key r') (hR : R r0 r') :
    t₀.Once R N (t.replace r') where
  old x hx := by
    by_cases hk : Keyed.key r' = Keyed.key x
    · obtain rfl : r0 = x := key_injOn hr0 hx (hkey.trans hk)
      exact ⟨r', by rw [find?_replace, if_pos hk, ← hk, hr]; rfl, .inr hR⟩
    · obtain ⟨x', hx', hx0⟩ := h.old x hx
      exact ⟨x', by rw [find?_replace, if_neg hk, hx'], hx0⟩
  new x hx hnone := by
    rcases (mem_replace hr).mp hx with rfl | ⟨hx, -⟩
    · rw [← hkey, find?_of_mem hr0] at hnone
      cases hnone
    · exact h.new x hx hnone

end Once

/-! ### Counting -/

omit [DecidableEq κ] in
/-- A property that no two rows share is counted once at most. -/
theorem countP_le_one (h : ∀ r ∈ t, ∀ r' ∈ t, p r = true → p r' = true → r = r') :
    t.rows.countP p ≤ 1 := by
  have hnodup : (t.rows.filter p).Nodup := (t.nodup.of_map _).filter _
  rw [List.countP_eq_length_filter]
  match hrows : t.rows.filter p with
  | [] => exact Nat.zero_le _
  | [_] => exact Nat.le_refl _
  | a :: b :: rest =>
    have ha := List.mem_filter.mp (hrows ▸ List.mem_cons_self : a ∈ t.rows.filter p)
    have hb := List.mem_filter.mp
      (hrows ▸ List.mem_cons_of_mem _ List.mem_cons_self : b ∈ t.rows.filter p)
    rw [hrows, h a ha.1 b hb.1 ha.2 hb.2] at hnodup
    exact absurd List.mem_cons_self (List.nodup_cons.mp hnodup).1

/-! ### Sums over the rows -/

/-- The sum of `f` over the rows. -/
def total (t : Table ρ) (f : ρ → ℕ) : ℕ := (t.rows.map f).sum

theorem total_insert (h : t.insert? r = some t') (f : ρ → ℕ) :
    t'.total f = f r + t.total f := by
  rw [total, insert?_rows h, List.map_cons, List.sum_cons, total]

omit [DecidableEq κ] in
theorem le_total (h : r ∈ t) (f : ρ → ℕ) : f r ≤ t.total f :=
  List.le_sum_of_mem (List.mem_map_of_mem h)

omit [DecidableEq κ] in
/-- A sum over some of the rows. -/
theorem total_ite (t : Table ρ) (p : ρ → Bool) (f : ρ → ℕ) :
    (t.total fun r => if p r then f r else 0) = ((t.rows.filter p).map f).sum := by
  unfold total
  induction t.rows with
  | nil => rfl
  | cons r rows ih =>
    rw [List.map_cons, List.sum_cons, ih, List.filter_cons]
    cases p r <;> simp

/-- The sum over a list with one member replaced. -/
private theorem sum_map_replace {rows : List ρ} (hnodup : (rows.map Keyed.key).Nodup) (f : ρ → ℕ)
    {old : ρ} (hold : old ∈ rows) (hkey : Keyed.key old = Keyed.key r) :
    ((rows.map fun x => if Keyed.key x = Keyed.key r then r else x).map f).sum + f old =
      (rows.map f).sum + f r := by
  induction rows with
  | nil => cases hold
  | cons x xs ih =>
    obtain ⟨hx, hxs⟩ := List.nodup_cons.mp hnodup
    simp only [List.map_cons, List.sum_cons]
    rcases List.mem_cons.mp hold with rfl | hmem
    · -- the row is the first one, and no other has its key
      have hrest : (xs.map fun y => if Keyed.key y = Keyed.key r then r else y) = xs := by
        conv_rhs => rw [← List.map_id xs]
        refine List.map_congr_left fun y hy => if_neg fun h => hx ?_
        exact List.mem_map.mpr ⟨y, hy, h.trans hkey.symm⟩
      rw [if_pos hkey, hrest]
      omega
    · have hne : Keyed.key x ≠ Keyed.key r := fun h =>
        hx (List.mem_map.mpr ⟨old, hmem, hkey.trans h.symm⟩)
      rw [if_neg hne]
      have := ih hxs hmem
      omega

theorem total_replace (h : t.find? (Keyed.key r) = some old) (f : ρ → ℕ) :
    (t.replace r).total f + f old = t.total f + f r :=
  sum_map_replace t.nodup f (mem_of_find? h) (key_of_find? h)

/-- To change a row is to replace it by what it becomes. -/
theorem modify_rows (h : t.find? k = some r) (f : ρ → ρ)
    (hf : ∀ r, Keyed.key (f r) = Keyed.key r) :
    (t.modify k f hf).rows = (t.replace (f r)).rows := by
  refine List.map_congr_left fun x hx => ?_
  have hk := key_of_find? h
  by_cases hx' : Keyed.key x = k
  · obtain rfl : x = r := key_injOn hx (mem_of_find? h) (hx'.trans hk.symm)
    rw [if_pos hx', if_pos (hf x).symm]
  · rw [if_neg hx', if_neg fun heq => hx' (heq.trans ((hf r).trans hk))]

theorem total_modify (h : t.find? k = some r)
    (hf : ∀ r, Keyed.key (f r) = Keyed.key r) (g : ρ → ℕ) :
    (t.modify k f hf).total g + g r = t.total g + g (f r) := by
  have hr : t.find? (Keyed.key (f r)) = some r := by rw [hf, key_of_find? h, h]
  rw [total, modify_rows h f hf]
  exact total_replace hr g

end Table
