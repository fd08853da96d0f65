/-
A session's manifest is a set of bindings.

The constructor sorts the bindings by template, refuses two of one template and hashes
what is left; `contains` searches it by halves.  Since the templates of a manifest
increase strictly, it is the only sorted arrangement of the bindings it was made from,
whatever an unstable sort does to equal keys.

* **`manifest_is_a_set_of_bindings`** — which lists make a manifest; order, membership and
  identity.
-/
import Navigator.ConfigIdentity

namespace Navigator

open CanonicalInput

/-- `sort_unstable_by_key`: some arrangement in which the templates do not decrease. -/
structure UnstableSort where
  sort : List TemplateCompatibilityBinding → List TemplateCompatibilityBinding
  perm : ∀ l, (sort l).Perm l
  sorted : ∀ l, (sort l).Pairwise fun a b => a.templateId.uuid ≤ b.templateId.uuid

/-- The loop of the standard library's binary search: half of the `size` positions from
`base` on are dropped, by whether the key at their middle is above the one sought. -/
def searchFrom (above : ℕ → Bool) (base size : ℕ) : ℕ :=
  if 1 < size then
    searchFrom above (if above (base + size / 2) then base else base + size / 2) (size - size / 2)
  else base
termination_by size
decreasing_by omega

theorem searchFrom_eq {above : ℕ → Bool} {base size i : ℕ} (hbase : base ≤ i)
    (hsize : i < base + size) (habove : ∀ j < base + size, above j = true ↔ i < j) :
    searchFrom above base size = i := by
  induction size using Nat.strong_induction_on generalizing base with
  | _ size ih =>
    unfold searchFrom
    split
    · have hmid := habove (base + size / 2) (by omega)
      by_cases h : above (base + size / 2)
      · rw [if_pos h]
        have hlt := hmid.mp h
        exact ih _ (by omega) hbase (by omega) fun j hj => habove j (by omega)
      · rw [if_neg h]
        have hle := mt hmid.mpr h
        exact ih _ (by omega) (by omega) (by omega) fun j hj => habove j (by omega)
    · omega

namespace SessionCompatibilityManifest

/-- Strictly before, by template. -/
abbrev Precedes (a b : TemplateCompatibilityBinding) : Prop := a.templateId.uuid < b.templateId.uuid

variable {sort sort' : UnstableSort} {c c' : CompatibilityIdentity}
variable {l l' : List TemplateCompatibilityBinding} {m m' : SessionCompatibilityManifest}

instance : Trans Precedes Precedes Precedes := ⟨BitVec.lt_trans⟩

instance : Std.Asymm Precedes := ⟨fun _ _ => BitVec.lt_asymm⟩

theorem precedes_of_ne (hle : l.Pairwise fun a b => a.templateId.uuid ≤ b.templateId.uuid)
    (hne : l.IsChain fun a b => a.templateId ≠ b.templateId) : l.Pairwise Precedes := by
  refine (List.isChain_iff_getElem.mpr fun i hi => ?_).pairwise
  refine BitVec.lt_of_le_ne (List.pairwise_iff_getElem.mp hle i (i + 1) _ hi (by omega)) ?_
  exact fun heq => List.isChain_iff_getElem.mp hne i hi (Id.ext_uuid heq)

def new (sort : UnstableSort) (configurationIdentity : CompatibilityIdentity)
    (templates : List TemplateCompatibilityBinding) : Option SessionCompatibilityManifest :=
  let templates := sort.sort templates
  if h : templates ≠ [] ∧ templates.length ≤ maxSessionTemplates ∧
      templates.IsChain fun a b => a.templateId ≠ b.templateId then
    some ⟨configurationIdentity, templates, precedes_of_ne (sort.sorted _) h.2.2, h.1, h.2.1⟩
  else none

/-- What is hashed for the compatibility of a manifest. -/
def input (m : SessionCompatibilityManifest) : List UInt8 :=
  Bytes.utf8 "navigator.compatibility.v1\x00" ++
    Bytes.utf8 "navigator.session.compatibility-manifest.v1\x00" ++
    fixed m.configurationIdentity ++ u64 m.templates.length ++
    m.templates.flatMap fun b => bindingInput b.templateId b.compatibility

def compatibility (env : Env) (m : SessionCompatibilityManifest) : CompatibilityIdentity :=
  env.sha256 m.input

def contains (m : SessionCompatibilityManifest) (templateId : TemplateId)
    (compatibility : CompatibilityIdentity) : Bool :=
  let index := searchFrom
    (fun j => m.templates[j]?.any fun b => templateId.uuid < b.templateId.uuid) 0 m.templates.length
  m.templates[index]?.any fun b => b.templateId = templateId ∧ b.compatibility = compatibility

/-! ### A manifest and its bindings -/

theorem templates_nodup (m : SessionCompatibilityManifest) :
    (m.templates.map TemplateCompatibilityBinding.templateId).Nodup :=
  m.sorted.map _ fun _ _ hlt heq => BitVec.lt_irrefl _ (heq ▸ hlt)

/-- A list makes the one manifest it is an arrangement of. -/
theorem new_eq_some_iff :
    new sort c l = some m ↔ m.configurationIdentity = c ∧ m.templates.Perm l := by
  simp only [new, Option.dite_none_right_eq_some, Option.some.injEq]
  constructor
  · rintro ⟨-, rfl⟩
    exact ⟨rfl, sort.perm l⟩
  · rintro ⟨rfl, hperm⟩
    have hperm := (sort.perm l).trans hperm.symm
    have hne := (List.pairwise_map.mp ((hperm.map _).nodup_iff.mpr m.templates_nodup)).isChain
    have heq : sort.sort l = m.templates :=
      (precedes_of_ne (sort.sorted l) hne).eq_of_mem_iff m.sorted fun _ => hperm.mem_iff
    rcases m with ⟨c, ts, hsorted, hsized⟩
    cases heq
    exact ⟨⟨hsized.1, hsized.2, hne⟩, rfl⟩

/-- Which lists make a manifest. -/
theorem exists_new_iff : (∃ m, new sort c l = some m) ↔
    l ≠ [] ∧ l.length ≤ maxSessionTemplates ∧
      (l.map TemplateCompatibilityBinding.templateId).Nodup := by
  constructor
  · rintro ⟨m, hm⟩
    obtain ⟨-, hperm⟩ := new_eq_some_iff.mp hm
    refine ⟨fun hnil => m.sized.1 (List.perm_nil.mp (hnil ▸ hperm)), hperm.length_eq ▸ m.sized.2,
      (hperm.map _).nodup_iff.mp m.templates_nodup⟩
  · rintro ⟨hne, hlength, hnodup⟩
    have hperm := sort.perm l
    have hchain := (List.pairwise_map.mp ((hperm.map _).nodup_iff.mpr hnodup)).isChain
    refine ⟨_, dif_pos ⟨fun hnil => hne (List.perm_nil.mp (hnil ▸ hperm.symm)), ?_, hchain⟩⟩
    exact hperm.length_eq ▸ hlength

theorem new_perm (h : l.Perm l') : new sort c l = new sort' c l' := by
  ext m
  rw [new_eq_some_iff, new_eq_some_iff]
  exact and_congr_right' ⟨fun hl => hl.trans h, fun hl => hl.trans h.symm⟩

theorem contains_iff {t : TemplateId} : m.contains t c = true ↔ ⟨t, c⟩ ∈ m.templates := by
  constructor
  · intro h
    obtain ⟨⟨t, c⟩, hget, hb⟩ := (Option.any_eq_true _ _).mp h
    obtain ⟨rfl, rfl⟩ := of_decide_eq_true hb
    exact List.mem_of_getElem? hget
  · intro h
    obtain ⟨i, hi, hget⟩ := List.getElem_of_mem h
    have hsorted := List.pairwise_iff_getElem.mp m.sorted
    -- the templates above the one sought are those behind it
    have habove : ∀ j < 0 + m.templates.length,
        (m.templates[j]?.any fun b => t.uuid < b.templateId.uuid) = true ↔ i < j := by
      intro j hj
      rw [Nat.zero_add] at hj
      obtain hij | rfl | hji := Nat.lt_trichotomy i j
      · simpa [hj, hij, hget] using hsorted i j hi hj hij
      · simp [hi, hget]
      · have hlt := hsorted j i hj hi hji
        rw [hget] at hlt
        simp [hj, hji.le, BitVec.lt_asymm hlt]
    simp [contains, searchFrom_eq (Nat.zero_le i) (by omega) habove, hi, hget]

/-! ### Identities -/

theorem eq_iff_mem : m = m' ↔ m.configurationIdentity = m'.configurationIdentity ∧
    ∀ b, b ∈ m.templates ↔ b ∈ m'.templates := by
  refine ⟨fun h => h ▸ ⟨rfl, fun _ => Iff.rfl⟩, fun ⟨hc, hmem⟩ => ?_⟩
  have htemplates := List.Pairwise.eq_of_mem_iff (r := Precedes) m.sorted m'.sorted hmem
  cases m
  cases m'
  cases hc
  cases htemplates
  rfl

theorem length_lt (m : SessionCompatibilityManifest) : m.templates.length < u64Bound :=
  m.sized.2.trans_lt (by decide)

theorem input_injective (h : m.input = m'.input) : m = m' := by
  simp only [input, List.append_assoc, List.append_cancel_left_eq] at h
  obtain ⟨hconfiguration, h⟩ := fixed_append_iff.mp h
  obtain ⟨hlength, h⟩ := (u64_append_iff m.length_lt m'.length_lt).mp h
  have htemplates := flatMap_append_inj (fun _ => ()) (fun a _ b _ _ xs ys hab => ?_)
    (by simp [hlength]) (congrArg (· ++ []) h)
  · exact eq_iff_mem.mpr ⟨hconfiguration, fun b => by rw [htemplates.1]⟩
  · simp only [bindingInput, List.append_assoc] at hab
    obtain ⟨htemplate, hab⟩ := Id.bytes_append_iff.mp hab
    obtain ⟨hcompatibility, hrest⟩ := fixed_append_iff.mp hab
    cases a
    cases b
    cases htemplate
    cases hcompatibility
    exact ⟨rfl, hrest⟩

end SessionCompatibilityManifest

open SessionCompatibilityManifest

/-- **A session manifest is a set of bindings**, whatever the sort does to equal keys: a list
makes one if it is not empty, not too long and names no template twice; its order does not
matter; `contains` says what was listed; and if SHA-256 does not collide on what is hashed for two
manifests, one identity means one configuration and one set. -/
theorem manifest_is_a_set_of_bindings (env : Env) (sort sort' : UnstableSort)
    (c c' : CompatibilityIdentity) (l l' : List TemplateCompatibilityBinding) :
    ((∃ m, SessionCompatibilityManifest.new sort c l = some m) ↔
      l ≠ [] ∧ l.length ≤ maxSessionTemplates ∧
        (l.map TemplateCompatibilityBinding.templateId).Nodup) ∧
    (l.Perm l' → SessionCompatibilityManifest.new sort c l =
      SessionCompatibilityManifest.new sort' c l') ∧
    ∀ m, SessionCompatibilityManifest.new sort c l = some m →
      (∀ t k, m.contains t k = true ↔ ⟨t, k⟩ ∈ l) ∧
      ∀ m', SessionCompatibilityManifest.new sort' c' l' = some m' →
        (env.sha256 m.input = env.sha256 m'.input → m.input = m'.input) →
        (m.compatibility env = m'.compatibility env ↔ c = c' ∧ ∀ b, b ∈ l ↔ b ∈ l') := by
  refine ⟨exists_new_iff, new_perm, fun m hm => ?_⟩
  obtain ⟨rfl, hl⟩ := new_eq_some_iff.mp hm
  refine ⟨fun t k => contains_iff.trans hl.mem_iff, fun m' hm' hsha256 => ?_⟩
  obtain ⟨rfl, hl'⟩ := new_eq_some_iff.mp hm'
  have hidentity : m.compatibility env = m'.compatibility env ↔ m = m' :=
    ⟨fun h => input_injective (hsha256 h), congrArg _⟩
  rw [hidentity, eq_iff_mem]
  exact and_congr_right' (forall_congr' fun b => iff_congr hl.mem_iff hl'.mem_iff)

namespace Sample

def bySorting : UnstableSort where
  sort l := l.insertionSort fun a b => a.templateId.uuid ≤ b.templateId.uuid
  perm l := List.perm_insertionSort _ l
  sorted l := by
    have htotal : Std.Total fun a b : TemplateCompatibilityBinding =>
      a.templateId.uuid ≤ b.templateId.uuid := ⟨fun _ _ => BitVec.le_total _ _⟩
    have htrans : IsTrans TemplateCompatibilityBinding fun a b =>
      a.templateId.uuid ≤ b.templateId.uuid := ⟨fun _ _ _ => BitVec.le_trans⟩
    exact List.pairwise_insertionSort _ l

def bindingA : TemplateCompatibilityBinding := ⟨id 0, 5⟩

def bindingB : TemplateCompatibilityBinding := ⟨id 1, 7⟩

def both : SessionCompatibilityManifest := ⟨9, [bindingA, bindingB], by decide, by decide⟩

def alone : SessionCompatibilityManifest := ⟨9, [bindingA], by decide, by decide⟩

end Sample

open Sample in
/-- Two bindings, in either order, and one of them alone; a template twice makes no manifest. -/
theorem manifest_is_a_set_of_bindings_both :
    (∃ m, SessionCompatibilityManifest.new bySorting 9 [bindingB, bindingA] = some m) ∧
    (¬ ∃ m, SessionCompatibilityManifest.new bySorting 9 [bindingA, bindingA] = some m) ∧
    SessionCompatibilityManifest.new bySorting 9 [bindingB, bindingA] =
      SessionCompatibilityManifest.new bySorting 9 [bindingA, bindingB] ∧
    both.contains (id 1) 7 = true ∧ ¬ both.contains (id 1) 5 = true ∧
    both.compatibility world ≠ alone.compatibility world := by
  obtain ⟨hnew, hperm, -⟩ := manifest_is_a_set_of_bindings world bySorting bySorting 9 9
    [bindingB, bindingA] [bindingA, bindingB]
  obtain ⟨htwice, -⟩ := manifest_is_a_set_of_bindings world bySorting bySorting 9 9
    [bindingA, bindingA] []
  obtain ⟨-, -, hboth⟩ := manifest_is_a_set_of_bindings world bySorting bySorting 9 9
    [bindingB, bindingA] [bindingA]
  obtain ⟨hcontains, hidentity⟩ := hboth both (by decide +kernel)
  have hsets := hidentity alone (by decide +kernel) fun h => absurd h (by decide +kernel)
  refine ⟨hnew.mpr (by decide), mt htwice.mp (by decide), hperm (.swap ..),
    (hcontains _ _).mpr (by decide), mt (hcontains _ _).mp (by decide), mt hsets.mp ?_⟩
  rintro ⟨-, hsame⟩
  exact absurd ((hsame bindingB).mp (by decide)) (by decide)

end Navigator
