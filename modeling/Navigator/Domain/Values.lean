/-
Identities, counters and points in time.

Every identity of the store is a UUID that is not nil.  The kinds of identity are
told apart by a phantom index, so that a participant cannot be passed for a
session.  Revisions and fencing epochs are positive 64-bit counters.  A timestamp
is a point of the calendar range ±9999 years with nanosecond resolution: seconds
and nanoseconds compare lexicographically, which is the order of the total number
of nanoseconds, so that number is the representation.
-/
import Navigator.Lib.Bytes

namespace Navigator

/-! ### Identities -/

/-- What an identity names. -/
inductive IdKind where
  | session | host | participant | driverInstance | template | artifact
  | toolInvocation | toolRegistration | toolProvider | toolConnection | toolDispatch
  | toolCancellation | grant | approvalRequest | driver | launchAttempt | operation
  | message | deliveryAttempt | event | request | correlation | envelope
deriving DecidableEq

/-- A UUID that is not nil. -/
structure Id (k : IdKind) where
  uuid : BitVec 128
  notNil : uuid ≠ 0
deriving DecidableEq

abbrev SessionId := Id .session
abbrev HostId := Id .host
abbrev ParticipantId := Id .participant
abbrev InstanceId := Id .driverInstance
abbrev TemplateId := Id .template
abbrev ArtifactId := Id .artifact
abbrev ToolInvocationId := Id .toolInvocation
abbrev ToolRegistrationId := Id .toolRegistration
abbrev ToolProviderId := Id .toolProvider
abbrev ToolConnectionId := Id .toolConnection
abbrev GrantId := Id .grant
abbrev ApprovalRequestId := Id .approvalRequest
abbrev LaunchAttemptId := Id .launchAttempt
abbrev OperationId := Id .operation
abbrev MessageId := Id .message
abbrev DeliveryAttemptId := Id .deliveryAttempt
abbrev EventId := Id .event
abbrev RequestId := Id .request

namespace Id

variable {k : IdKind}

/-- A UUID as an identity, unless it is nil. -/
def fromUuid (uuid : BitVec 128) : Option (Id k) :=
  if h : uuid ≠ 0 then some ⟨uuid, h⟩ else none

/-- The sixteen bytes of an identity. -/
def bytes (i : Id k) : List UInt8 := Bytes.bigEndian 16 i.uuid.toNat

/-- The textual form of an identity: hexadecimal digits in five groups. -/
def asText (i : Id k) : String :=
  let digits := (List.range 32).map fun j => Nat.digitChar (i.uuid.toNat / 16 ^ (31 - j) % 16)
  String.ofList (digits.take 8 ++ '-' :: (digits.drop 8).take 4 ++ '-' :: (digits.drop 12).take 4 ++
    '-' :: (digits.drop 16).take 4 ++ '-' :: digits.drop 20)

theorem ext_uuid {i j : Id k} (h : i.uuid = j.uuid) : i = j := by
  cases i
  cases j
  cases h
  rfl

end Id

/-! ### Counters -/

/-- The first number past the range of `u64`. -/
def u64Bound : ℕ := 2 ^ 64

/-- The first number past the range of `i64`, in which the database keeps integers. -/
def i64Bound : ℕ := 2 ^ 63

/-- How often a stored object has changed, from one. -/
structure Revision where
  get : ℕ
  pos : 0 < get
deriving DecidableEq

namespace Revision

def initial : Revision := ⟨1, Nat.one_pos⟩

/-- The following revision, if the counter is not exhausted. -/
def next (r : Revision) : Option Revision :=
  if r.get + 1 < u64Bound then some ⟨r.get + 1, Nat.succ_pos _⟩ else none

theorem next_get {r r' : Revision} (h : r.next = some r') : r'.get = r.get + 1 := by
  unfold next at h
  split at h
  · cases h
    rfl
  · cases h

theorem exists_next {r : Revision} (h : r.get + 1 < i64Bound) :
    ∃ r', r.next = some r' ∧ r'.get < i64Bound :=
  ⟨⟨r.get + 1, Nat.succ_pos _⟩, if_pos (h.trans (by decide)), h⟩

theorem next_ne_initial {r r' : Revision} (h : r.next = some r') : r' ≠ initial := by
  rintro rfl
  have hget : 1 = r.get + 1 := next_get h
  have hpos := r.pos
  omega

end Revision

/-- The number of an ownership, from one. -/
structure FencingEpoch where
  get : ℕ
  pos : 0 < get
deriving DecidableEq

theorem FencingEpoch.ext_get {e e' : FencingEpoch} (h : e.get = e'.get) : e = e' := by
  cases e
  cases e'
  cases h
  rfl

/-! ### Time -/

/-- A point in time, in nanoseconds since the epoch of Unix time. -/
structure Timestamp where
  nanos : ℤ
  inRange : -377705116800000000000 ≤ nanos ∧ nanos ≤ 253402300799999999999
deriving DecidableEq

namespace Timestamp

theorem nanos_injective : Function.Injective nanos := by
  rintro ⟨a, ha⟩ ⟨b, hb⟩ h
  cases h
  rfl

instance : LinearOrder Timestamp := LinearOrder.lift' nanos nanos_injective

/-- The point at `nanos`, if the calendar reaches it. -/
def ofNanos (nanos : ℤ) : Option Timestamp :=
  if h : -377705116800000000000 ≤ nanos ∧ nanos ≤ 253402300799999999999 then
    some ⟨nanos, h⟩
  else none

/-- `checked_add` of a number of nanoseconds. -/
def checkedAdd (t : Timestamp) (nanos : ℕ) : Option Timestamp := ofNanos (t.nanos + nanos)

/-- The point just before, which a lease is recorded to be issued at. -/
def before (t : Timestamp) : Option Timestamp := ofNanos (t.nanos - 1)

/-- What is later than something has a point before it. -/
theorem before_isSome {t t' : Timestamp} (h : t < t') : t'.before.isSome = true := by
  change t.nanos < t'.nanos at h
  have ht := t.inRange
  have ht' := t'.inRange
  unfold before ofNanos
  rw [dif_pos (by omega)]
  rfl

theorem lt_of_checkedAdd {t t' : Timestamp} {n : ℕ} (hn : 0 < n)
    (h : t.checkedAdd n = some t') : t < t' := by
  unfold checkedAdd ofNanos at h
  split at h
  · cases h
    change t.nanos < t.nanos + n
    omega
  · cases h

end Timestamp

/-- A length of time, in nanoseconds. -/
structure Duration where
  nanos : ℕ
deriving DecidableEq

/-- The whole milliseconds of a duration. -/
def Duration.asMillis (d : Duration) : ℕ := d.nanos / 1000000

/-- The length of an ownership or delivery lease, in milliseconds. -/
structure LeaseDuration where
  millis : ℕ
  valid : 0 < millis ∧ millis < i64Bound
deriving DecidableEq

/-- A lease length, unless it is zero or does not fit. -/
def LeaseDuration.fromMillis (millis : ℕ) : Option LeaseDuration :=
  if h : 0 < millis ∧ millis < i64Bound then some ⟨millis, h⟩ else none

end Navigator
