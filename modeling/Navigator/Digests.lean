/-
What a digest says of its command.

The ledger answers a request from what it has recorded if the digests agree.  The canonical
inputs are field after field, numbers and identities of fixed width and texts after their
length, so that two equal inputs are taken apart from the front.  Only the report and the
outcome of an operation's transition are optional and untagged; an outcome starts with the
length of its name, and what is left of one after sixteen bytes does not.

* **`digests_identify`** — two commands of a kind with one digest ask for the same, and what was
  recorded of one never answers another.
-/
import Navigator.Accounting

namespace Navigator

open CanonicalInput Txn Tx

variable {xs ys : List UInt8}
variable {k : IdKind} {bs : List UInt8} {max : ℕ} {o : OperationTerminalOutcome}

/-! ### Fields -/

/-- A field that can be taken off the front. -/
theorem append_iff {α : Type} {f : α → List UInt8} {a b : α}
    (hf : f a ++ xs = f b ++ ys → a = b ∧ xs = ys) : f a ++ xs = f b ++ ys ↔ a = b ∧ xs = ys := by
  refine ⟨hf, ?_⟩
  rintro ⟨rfl, rfl⟩
  rfl

theorem Id.bytes_append_iff {i j : Id k} : i.bytes ++ xs = j.bytes ++ ys ↔ i = j ∧ xs = ys := by
  refine append_iff fun h => ?_
  obtain ⟨huuid, hrest⟩ := Bytes.bigEndian_append_inj i.uuid.isLt j.uuid.isLt h
  exact ⟨Id.ext_uuid (BitVec.eq_of_toNat_eq huuid), hrest⟩

theorem fixed_append_iff {d e : Digest} : fixed d ++ xs = fixed e ++ ys ↔ d = e ∧ xs = ys := by
  refine append_iff fun h => ?_
  obtain ⟨hdigest, hrest⟩ := Bytes.bigEndian_append_inj d.isLt e.isLt h
  exact ⟨BitVec.eq_of_toNat_eq hdigest, hrest⟩

theorem u64_append_iff {m n : ℕ} (hm : m < u64Bound) (hn : n < u64Bound) :
    u64 m ++ xs = u64 n ++ ys ↔ m = n ∧ xs = ys :=
  append_iff (Bytes.bigEndian_append_inj hm hn)

theorem bytes_append_iff {cs : List UInt8} (hb : bs.length < u64Bound) (hc : cs.length < u64Bound) :
    bytes bs ++ xs = bytes cs ++ ys ↔ bs = cs ∧ xs = ys :=
  append_iff (Bytes.prefixed_append_inj hb hc)

theorem text_append_iff {s t : String} (hs : s.utf8ByteSize < u64Bound)
    (ht : t.utf8ByteSize < u64Bound) : text s ++ xs = text t ++ ys ↔ s = t ∧ xs = ys := by
  rw [← Bytes.utf8_length] at hs ht
  exact (bytes_append_iff hs ht).trans (and_congr_left' Bytes.utf8_injective.eq_iff)

/-- A text out of a few. -/
theorem named_append_iff {α : Type} {f : α → String} (hf : Function.Injective f)
    (hsize : ∀ a, (f a).utf8ByteSize < u64Bound) {a b : α} :
    text (f a) ++ xs = text (f b) ++ ys ↔ a = b ∧ xs = ys :=
  (text_append_iff (hsize a) (hsize b)).trans (and_congr_left' hf.eq_iff)

theorem BoundedText.asStr_injective : (@asStr max).Injective := by
  rintro ⟨s, _⟩ ⟨t, _⟩ rfl
  rfl

theorem boundedText_append_iff {s t : BoundedText max} (hmax : max < u64Bound) :
    text s.asStr ++ xs = text t.asStr ++ ys ↔ s = t ∧ xs = ys :=
  named_append_iff BoundedText.asStr_injective fun s => s.bounded.2.trans_lt hmax

theorem epoch_append_iff {e f : FencingEpoch} (he : e.get < u64Bound) (hf : f.get < u64Bound) :
    u64 e.get ++ xs = u64 f.get ++ ys ↔ e = f ∧ xs = ys :=
  append_iff (f := fun e : FencingEpoch => u64 e.get) fun h =>
    ((u64_append_iff he hf).mp h).imp_left FencingEpoch.ext_get

theorem revision_append_iff {r q : Revision} (hr : r.get < u64Bound) (hq : q.get < u64Bound) :
    u64 r.get ++ xs = u64 q.get ++ ys ↔ r = q ∧ xs = ys := by
  refine append_iff (f := fun r : Revision => u64 r.get) fun h => ?_
  obtain ⟨hget, hrest⟩ := (u64_append_iff hr hq).mp h
  cases r
  cases q
  cases hget
  exact ⟨rfl, hrest⟩

theorem timestamp_append_iff {t t' : Timestamp} :
    timestamp t ++ xs = timestamp t' ++ ys ↔ t = t' ∧ xs = ys := by
  refine append_iff fun h => ?_
  have ht := t.inRange
  have ht' := t'.inRange
  rw [timestamp, timestamp, List.append_assoc, List.append_assoc] at h
  obtain ⟨hseconds, h⟩ := Bytes.bigEndian_append_inj (by omega) (by omega) h
  obtain ⟨hnanos, hrest⟩ := Bytes.bigEndian_append_inj (by omega) (by omega) h
  exact ⟨Timestamp.nanos_injective (by omega), hrest⟩

theorem Duration.boundedMillis_lt (d : Duration) : d.boundedMillis < u64Bound :=
  (min_le_right _ _).trans_lt (by decide)

theorem Duration.millisInput_eq (d : Duration) : d.millisInput = u64 d.boundedMillis := by
  have hbound : 0 < u64Bound := by decide
  unfold millisInput boundedMillis
  split <;> congr 1 <;> omega

theorem optionalInput_append_iff (name : String) {i j : Option (Id k)}
    (hsome : (name ++ ":some").utf8ByteSize < u64Bound)
    (hnone : (name ++ ":none").utf8ByteSize < u64Bound)
    (hname : name ++ ":some" ≠ name ++ ":none") :
    optionalInput name i ++ xs = optionalInput name j ++ ys ↔ i = j ∧ xs = ys := by
  cases i <;> cases j <;>
    simp [optionalInput, text_append_iff hnone hsome, text_append_iff hsome hnone,
      Id.bytes_append_iff, hname, hname.symm]

/-! ### Outcomes and transitions -/

namespace OperationTerminalOutcome

theorem canonicalInput_append_iff {o' : OperationTerminalOutcome} :
    o.canonicalInput ++ xs = o'.canonicalInput ++ ys ↔ o = o' ∧ xs = ys := by
  have hresult : ∀ r r' : BoundedBytes maxOperationOutcomeBytes,
      CanonicalInput.bytes r.bytes ++ xs = CanonicalInput.bytes r'.bytes ++ ys ↔
        r = r' ∧ xs = ys := by
    rintro ⟨bs, hbs⟩ ⟨cs, hcs⟩
    simp [bytes_append_iff (hbs.trans_lt (by decide)) (hcs.trans_lt (by decide))]
  cases o <;> cases o' <;>
    simp (disch := decide) [canonicalInput, text_append_iff, boundedText_append_iff, hresult,
      and_assoc]

/-- An outcome starts with a small number. -/
theorem canonicalInput_take (o : OperationTerminalOutcome) :
    o.canonicalInput.take 7 = Bytes.bigEndian 7 0 := by
  cases o <;> rfl

end OperationTerminalOutcome

/-- The rest of a text, from inside its length on, starts with no seven zeros. -/
theorem text_rest {w : ℕ} (s : BoundedText max) (hw : 0 < w) (hw' : w ≤ 7) (hmax : max < 256 ^ w)
    (hbs : bs = Bytes.bigEndian w (Bytes.utf8 s.asStr).length ++ xs) :
    bs ≠ [] ∧ bs.take 7 ≠ Bytes.bigEndian 7 0 := by
  subst hbs
  refine ⟨fun h => ?_, fun h => ?_⟩
  · have hlength := congrArg List.length h
    rw [List.length_append, Bytes.bigEndian_length, List.length_nil] at hlength
    omega
  · have hzeros : ∀ w ≤ 7, (Bytes.bigEndian 7 0).take w = Bytes.bigEndian w 0 := by decide
    have htake := congrArg (List.take w) h
    rw [hzeros w hw', List.take_take, min_eq_left hw', List.take_left' (by simp)] at htake
    have hmod := Bytes.bigEndian_inj htake
    rw [Bytes.utf8_length, Nat.mod_eq_of_lt (s.bounded.2.trans_lt hmax), Nat.zero_mod] at hmod
    exact s.bounded.1 (String.utf8ByteSize_eq_zero_iff.mp hmod)

/-- Nothing that may follow an identity makes an outcome of it. -/
theorem OperationTerminalOutcome.canonicalInput_ne {i : Id k}
    (hxs : xs = [] ∨ xs.take 7 = Bytes.bigEndian 7 0) : i.bytes ++ xs ≠ o.canonicalInput := by
  intro h
  have hdrop := congrArg (List.drop 16) h
  rw [List.drop_left' (by simp [Id.bytes])] at hdrop
  subst hdrop
  cases o with
  | succeeded => exact hxs.elim nofun nofun
  | cancelled => exact hxs.elim nofun nofun
  | uncertain => exact hxs.elim nofun nofun
  -- Sixteen bytes reach into the length of the first text.
  | failed code =>
    obtain ⟨hnil, hzeros⟩ := text_rest (w := 6) code (by decide) (by decide) (by decide) rfl
    exact hxs.elim hnil hzeros
  | blocked reason =>
    obtain ⟨hnil, hzeros⟩ := text_rest (w := 7) reason (by decide) (by decide) (by decide) rfl
    exact hxs.elim hnil hzeros

/-- An outcome, if there is one. -/
def TransitionOperation.outcomeInput (o : Option OperationTerminalOutcome) : List UInt8 :=
  (o.map OperationTerminalOutcome.canonicalInput).getD []

open TransitionOperation

theorem outcomeInput_take (o : Option OperationTerminalOutcome) :
    outcomeInput o = [] ∨ (outcomeInput o).take 7 = Bytes.bigEndian 7 0 := by
  cases o with
  | none => exact .inl rfl
  | some o => exact .inr o.canonicalInput_take

theorem outcomeInput_injective : Function.Injective outcomeInput := by
  have hne : ∀ o : OperationTerminalOutcome, o.canonicalInput ≠ [] := by
    intro o h
    have htake := o.canonicalInput_take
    rw [h] at htake
    cases htake
  rintro (_ | o) (_ | p) h
  · rfl
  · exact absurd h.symm (hne p)
  · exact absurd h (hne o)
  · have happend := OperationTerminalOutcome.canonicalInput_append_iff.mp (congrArg (· ++ []) h)
    rw [happend.1]

/-- The report and the outcome of a transition, either of which may be missing. -/
theorem reported_inj {i j : Option MessageId} {o p : Option OperationTerminalOutcome}
    (h : (i.map Id.bytes).getD [] ++ outcomeInput o =
      (j.map Id.bytes).getD [] ++ outcomeInput p) : i = j ∧ o = p := by
  have hne : ∀ (i : MessageId) (o p : Option OperationTerminalOutcome),
      i.bytes ++ outcomeInput o ≠ outcomeInput p := by
    intro i o p h
    cases p with
    | none => exact absurd (congrArg List.length h) (by simp [Id.bytes, outcomeInput])
    | some p => exact OperationTerminalOutcome.canonicalInput_ne (outcomeInput_take o) h
  cases i with
  | none =>
    cases j with
    | none => exact ⟨rfl, outcomeInput_injective h⟩
    | some j => exact absurd h.symm (hne j p o)
  | some i =>
    cases j with
    | none => exact absurd h (hne i o p)
    | some j =>
      obtain ⟨rfl, hrest⟩ := Id.bytes_append_iff.mp h
      exact ⟨rfl, outcomeInput_injective hrest⟩

/-- A delivery transition, with its delay in milliseconds. -/
def DeliveryTransition.Same : DeliveryTransition → DeliveryTransition → Prop
  | retryAfter delay, retryAfter delay' => delay.boundedMillis = delay'.boundedMillis
  | transition, transition' => transition = transition'

theorem DeliveryTransition.same_of_input {t t' : DeliveryTransition}
    (h : t.canonicalInput ++ xs = t'.canonicalInput ++ ys) : t.Same t' := by
  have hdelay : ∀ d d' : Duration, d.millisInput ++ xs = d'.millisInput ++ ys ↔
      d.boundedMillis = d'.boundedMillis ∧ xs = ys := by
    intro d d'
    rw [d.millisInput_eq, d'.millisInput_eq, u64_append_iff d.boundedMillis_lt d'.boundedMillis_lt]
  cases t <;> cases t' <;>
    simp (disch := decide) [canonicalInput, text_append_iff, boundedText_append_iff,
      fixed_append_iff, hdelay] at h <;>
    first | exact h.1 | exact congrArg _ h.1 | rfl

/-! ### Commands -/

/-- What a command of a kind is about: its numbers, the documents in it, and when two of
them ask for the same. -/
structure Contents (χ : Type) where
  numbers : χ → List ℕ := fun _ => []
  documents : χ → List JsonValue := fun _ => []
  Same : χ → χ → Prop

/-- Two commands as the source has them: 64-bit numbers and lengths, no collision of what is
hashed for them, and no two documents with one text. -/
structure Contents.Apart {χ : Type} [MutableRequest χ] (k : Contents χ) (env : Env) (c c' : χ) :
    Prop where
  numbers : ∀ n ∈ k.numbers c ++ k.numbers c', n < u64Bound
  lengths : ∀ d ∈ k.documents c ++ k.documents c', (env.json d).length < u64Bound
  sha256 : env.sha256 (MutableRequest.hashed env c) = env.sha256 (MutableRequest.hashed env c') →
    MutableRequest.hashed env c = MutableRequest.hashed env c'
  json : ∀ d ∈ k.documents c, ∀ d' ∈ k.documents c', env.json d = env.json d' → d = d'

/-- The text of the one document of a command. -/
theorem Contents.Apart.document_append_iff {χ : Type} [MutableRequest χ] {k : Contents χ}
    {env : Env} {c c' : χ} {d d' : JsonValue} (h : k.Apart env c c') (hc : k.documents c = [d])
    (hc' : k.documents c' = [d']) :
    bytes (env.json d) ++ xs = bytes (env.json d') ++ ys ↔ d = d' ∧ xs = ys := by
  obtain ⟨hl, hl'⟩ := by simpa [hc, hc'] using h.lengths
  exact append_iff (f := fun d => bytes (env.json d)) fun happend =>
    ((bytes_append_iff hl hl').mp happend).imp_left (h.json d (by simp [hc]) d' (by simp [hc']))

/-- Equal inputs ask for the same. -/
def Contents.Decodes {χ : Type} [MutableRequest χ] (k : Contents χ) : Prop :=
  ∀ (env : Env) (c c' : χ), k.Apart env c c' →
    MutableRequest.canonicalInput env c = MutableRequest.canonicalInput env c' → k.Same c c'

def TransitionOperation.contents : Contents TransitionOperation where
  numbers c := [c.epoch.get, c.expectedRevision.get]
  Same c c' := { c with context := c'.context } = c'

def TransitionLaunch.contents : Contents TransitionLaunch where
  numbers c := [c.epoch.get, c.expectedRevision.get]
  Same c c' := { c with context := c'.context } = c'

def EnqueueMessage.contents : Contents EnqueueMessage where
  documents c := [.envelope c.envelope.body]
  Same c c' := { c with context := c'.context, epoch := c'.epoch } = c'

def TransitionMessageDelivery.contents : Contents TransitionMessageDelivery where
  numbers c := [c.epoch.get, c.expectedRevision.get]
  Same c c' := { c with context := c'.context, transition := c'.transition } = c' ∧
    c.transition.Same c'.transition

def RegisterTool.contents : Contents RegisterTool where
  numbers c := [c.ownerEpoch.get]
  documents c := [.toolDefinition c.definition]
  Same c c' := { c with context := c'.context } = c'

def ReserveToolInvocation.contents : Contents ReserveToolInvocation where
  numbers c := [c.ownerEpoch.get]
  documents c := [.toolInvocation c.invocation]
  Same c c' := { c with context := c'.context, leaseDuration := c'.leaseDuration } = c' ∧
    c.leaseDuration.boundedMillis = c'.leaseDuration.boundedMillis

def TransitionToolInvocation.contents : Contents TransitionToolInvocation where
  numbers c :=
    [c.ownerEpoch.get, c.expectedRevision.get, c.connectionGeneration, c.serverSequence]
  documents c := [.toolTransition c.transition]
  Same c c' := { c with context := c'.context } = c'

theorem TransitionOperation.decodes : contents.Decodes := by
  intro env c c' h hinput
  obtain ⟨he, hr, he', hr'⟩ := by simpa [contents] using h.numbers
  have haction : Function.Injective OperationAction.asStr := by
    rintro ⟨⟩ ⟨⟩ <;> decide
  simp only [MutableRequest.canonicalInput, List.append_assoc, Id.bytes_append_iff,
    epoch_append_iff he he', revision_append_iff hr hr',
    named_append_iff haction (by rintro ⟨⟩ <;> decide)] at hinput
  obtain ⟨hsession, hoperation, hepoch, hrevision, hname, hrest⟩ := hinput
  obtain ⟨hreport, houtcome⟩ := reported_inj hrest
  cases c
  cases c'
  simp_all [contents]

theorem TransitionLaunch.decodes : contents.Decodes := by
  intro env c c' h hinput
  obtain ⟨he, hr, he', hr'⟩ := by simpa [contents] using h.numbers
  have hstate : Function.Injective LaunchState.asStr := by
    rintro ⟨⟩ ⟨⟩ <;> decide
  simp only [MutableRequest.canonicalInput, List.append_assoc, Id.bytes_append_iff,
    epoch_append_iff he he', revision_append_iff hr hr',
    named_append_iff hstate (by rintro ⟨⟩ <;> decide)] at hinput
  obtain ⟨hsession, hattempt, hepoch, hrevision, htarget, hreason⟩ := hinput
  have hreason : c.cleanupReason = c'.cleanupReason := by
    rcases hr : c.cleanupReason with _ | r <;> rcases hr' : c'.cleanupReason with _ | r' <;>
      rw [hr, hr'] at hreason
    · cases hreason
    · cases hreason
    · rw [((boundedText_append_iff (by decide)).mp (congrArg (· ++ []) hreason)).1]
  cases c
  cases c'
  simp_all [contents]

theorem EnqueueMessage.decodes : contents.Decodes := by
  intro env c c' h hinput
  have hpriority : Function.Injective MessagePriority.asStr := by
    rintro ⟨⟩ ⟨⟩ <;> decide
  replace hinput := congrArg (· ++ []) hinput
  simp only [MutableRequest.canonicalInput, List.append_assoc, Id.bytes_append_iff,
    named_append_iff hpriority (by rintro ⟨⟩ <;> decide),
    optionalInput_append_iff "operation" (by decide) (by decide) (by decide),
    optionalInput_append_iff "reply" (by decide) (by decide) (by decide),
    h.document_append_iff rfl rfl] at hinput
  rcases c with ⟨_, _, _, _, _, _, ⟨⟩, ⟨⟩⟩
  rcases c' with ⟨_, _, _, _, _, _, ⟨⟩, ⟨⟩⟩
  simp_all [contents]

theorem TransitionMessageDelivery.decodes : contents.Decodes := by
  intro env c c' h hinput
  obtain ⟨he, hr, he', hr'⟩ := by simpa [contents] using h.numbers
  replace hinput := congrArg (· ++ []) hinput
  simp only [MutableRequest.canonicalInput, List.append_assoc, Id.bytes_append_iff,
    epoch_append_iff he he', revision_append_iff hr hr'] at hinput
  obtain ⟨hsession, hmessage, hattempt, hepoch, hrevision, hrest⟩ := hinput
  have htransition := DeliveryTransition.same_of_input hrest
  cases c
  cases c'
  simp_all [contents]

theorem RegisterTool.decodes : contents.Decodes := by
  intro env c c' h hinput
  obtain ⟨he, he'⟩ := by simpa [contents] using h.numbers
  replace hinput := congrArg (· ++ []) hinput
  simp (disch := decide) only [MutableRequest.canonicalInput, List.append_assoc,
    Id.bytes_append_iff, epoch_append_iff he he', boundedText_append_iff,
    h.document_append_iff rfl rfl] at hinput
  cases c
  cases c'
  simp_all [contents]

theorem ReserveToolInvocation.decodes : contents.Decodes := by
  intro env c c' h hinput
  obtain ⟨he, he'⟩ := by simpa [contents] using h.numbers
  replace hinput := congrArg (· ++ []) hinput
  simp only [MutableRequest.canonicalInput, List.append_assoc, Id.bytes_append_iff,
    epoch_append_iff he he', timestamp_append_iff, h.document_append_iff rfl rfl,
    u64_append_iff (Duration.boundedMillis_lt _) (Duration.boundedMillis_lt _)] at hinput
  cases c
  cases c'
  simp_all [contents]

theorem TransitionToolInvocation.decodes : contents.Decodes := by
  intro env c c' h hinput
  obtain ⟨he, hr, hg, hs, he', hr', hg', hs'⟩ := by simpa [contents] using h.numbers
  replace hinput := congrArg (· ++ []) hinput
  simp only [MutableRequest.canonicalInput, List.append_assoc, Id.bytes_append_iff,
    epoch_append_iff he he', revision_append_iff hr hr', u64_append_iff hg hg',
    u64_append_iff hs hs', h.document_append_iff rfl rfl] at hinput
  cases c
  cases c'
  simp_all [contents]

/-! ### Records -/

/-- The ledger answers a command with a conflict where it has recorded the other. -/
def LedgerTells {χ : Type} [MutableRequest χ] (env : Env) (c c' : χ) : Prop :=
  ∀ (s : Store) (row : LedgerRow), s.ledger.find? (MutableRequest.context c).requestId = some row →
    row.identity = MutableRequest.identity env c' →
      replayLookup env c s = .error (.requestConflict (MutableRequest.context c).requestId)

/-- A tool invocation that the other command has reserved is not the answer to this one. -/
def ReserveToolInvocation.Tells (env : Env) (c c' : ReserveToolInvocation) : Prop :=
  ∀ (s : Store) (existing : ToolInvocationSnapshot) (effect : EffectJournalEntry),
    loadEffect s existing.invocation.requestId = .ok (some effect) →
      effect.semanticDigest = MutableRequest.digest env c' →
        reserveToolAgain env c existing s = .aborted (.requestConflict c.context.requestId)

/-- Nor is a transition that the other command has made. -/
def TransitionToolInvocation.Tells (env : Env) (c c' : TransitionToolInvocation) : Prop :=
  ∀ (s : Store) (row : ToolMutationRow), row.digest = MutableRequest.digest env c' →
    replayToolTransition env c row s = .aborted (.requestConflict c.context.requestId)

/-- The digest of a command identifies it, and so does what is recorded of it. -/
def Contents.Identifies {χ : Type} [MutableRequest χ] (k : Contents χ)
    (Tells : Env → χ → χ → Prop) : Prop :=
  ∀ (env : Env) (c c' : χ), k.Apart env c c' →
    (MutableRequest.digest env c = MutableRequest.digest env c' → k.Same c c') ∧
      (¬ k.Same c c' → Tells env c c')

theorem Contents.Decodes.identifies {χ : Type} [MutableRequest χ] {k : Contents χ}
    {Tells : Env → χ → χ → Prop} (hk : k.Decodes)
    (haction : ∀ c c' : χ, MutableRequest.action c = MutableRequest.action c')
    (htells : ∀ env c c', MutableRequest.digest env c' ≠ MutableRequest.digest env c →
      Tells env c c') : k.Identifies Tells := by
  intro env c c' h
  have hsame : MutableRequest.digest env c = MutableRequest.digest env c' → k.Same c c' := by
    intro hdigest
    have hhashed := h.sha256 hdigest
    rw [MutableRequest.hashed, MutableRequest.hashed, haction c c', Env.semanticInput,
      Env.semanticInput, List.append_cancel_left_eq] at hhashed
    exact hk env c c' h hhashed
  exact ⟨hsame, fun hother => htells env c c' fun hdigest => hother (hsame hdigest.symm)⟩

theorem ledgerTells {χ : Type} [MutableRequest χ] (env : Env) (c c' : χ)
    (h : MutableRequest.digest env c' ≠ MutableRequest.digest env c) : LedgerTells env c c' := by
  intro s row hrow hidentity
  have hdigest : row.digest = MutableRequest.digest env c' :=
    congrArg RequestIdentity.digest hidentity
  simp only [replayLookup, Store.replayOf, MutableRequest.identity, hrow, hdigest, h, and_false,
    if_false]

theorem ReserveToolInvocation.tells (env : Env) (c c' : ReserveToolInvocation)
    (h : MutableRequest.digest env c' ≠ MutableRequest.digest env c) : c.Tells env c' := by
  intro s existing effect heffect hdigest
  have hother : ¬ (existing.invocation = c.invocation ∧ effect.caller = c.context.caller ∧
      effect.ownerEpoch = c.ownerEpoch ∧ effect.semanticDigest = MutableRequest.digest env c) :=
    fun hsame => h (hdigest.symm.trans hsame.2.2.2)
  change ((ofExcept (loadEffect s existing.invocation.requestId) : Write _) >>= _) s = _
  rw [heffect]
  change ((ensure _ _ : Write Unit) >>= _) s = _
  simp only [ensure, hother, if_false]
  rfl

theorem TransitionToolInvocation.tells (env : Env) (c c' : TransitionToolInvocation)
    (h : MutableRequest.digest env c' ≠ MutableRequest.digest env c) : c.Tells env c' := by
  intro s row hdigest
  have hother : ¬ (row.invocationId = c.invocationId ∧ row.caller = c.context.caller ∧
      row.digest = MutableRequest.digest env c) := fun hsame => h (hdigest.symm.trans hsame.2.2)
  simp only [replayToolTransition, ensure, hother, if_false]
  rfl

/-- **Mutation digests identify the mutation**, for every kind of them: what was recorded of a
command answers no other. -/
theorem digests_identify :
    TransitionOperation.contents.Identifies LedgerTells ∧
      TransitionLaunch.contents.Identifies LedgerTells ∧
      EnqueueMessage.contents.Identifies LedgerTells ∧
      TransitionMessageDelivery.contents.Identifies LedgerTells ∧
      RegisterTool.contents.Identifies LedgerTells ∧
      ReserveToolInvocation.contents.Identifies ReserveToolInvocation.Tells ∧
      TransitionToolInvocation.contents.Identifies TransitionToolInvocation.Tells :=
  ⟨TransitionOperation.decodes.identifies (fun _ _ => rfl) ledgerTells,
    TransitionLaunch.decodes.identifies (fun _ _ => rfl) ledgerTells,
    EnqueueMessage.decodes.identifies (fun _ _ => rfl) ledgerTells,
    TransitionMessageDelivery.decodes.identifies (fun _ _ => rfl) ledgerTells,
    RegisterTool.decodes.identifies (fun _ _ => rfl) ledgerTells,
    ReserveToolInvocation.decodes.identifies (fun _ _ => rfl) ReserveToolInvocation.tells,
    TransitionToolInvocation.decodes.identifies (fun _ _ => rfl) TransitionToolInvocation.tells⟩

namespace Sample

/-- The driver is ready. -/
def driverReady : TransitionLaunch :=
  ⟨request 6, session, epoch, launch, ⟨2, Nat.two_pos⟩, .ready, none⟩

/-- Under the same request, it has stopped. -/
def driverStopped : TransitionLaunch := { driverReady with target := .stopped }

end Sample

open Sample in
/-- What was recorded when the driver was ready does not answer that it has stopped. -/
theorem digests_identify_stops :
    (working.ledger.find? (id 6)).map LedgerRow.identity =
        some (MutableRequest.identity world driverReady) ∧
      ¬ TransitionLaunch.contents.Same driverStopped driverReady ∧
      replayLookup world driverStopped working = .error (.requestConflict (id 6)) := by
  have hapart : TransitionLaunch.contents.Apart world driverStopped driverReady := by
    refine ⟨by decide, by simp [TransitionLaunch.contents], fun h => ?_,
      by simp [TransitionLaunch.contents]⟩
    exact absurd h (by decide +kernel)
  have hother : ¬ TransitionLaunch.contents.Same driverStopped driverReady := by
    simp [TransitionLaunch.contents, driverStopped, driverReady]
  have hrow : (working.ledger.find? (id 6)).map LedgerRow.identity =
      some (MutableRequest.identity world driverReady) := by decide +kernel
  obtain ⟨row, hfound, hidentity⟩ := Option.map_eq_some_iff.mp hrow
  exact ⟨hrow, hother,
    (digests_identify.2.1 world _ _ hapart).2 hother working row hfound hidentity⟩

end Navigator
