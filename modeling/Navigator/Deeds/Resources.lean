/-
Calls as deeds: reservations of capacity, and artifacts.

Reservations change the tables of what is set aside; a publication, a deletion and an
erasure change the artifacts as well, publish an event and are recorded.
-/
import Navigator.Deeds.Journal

namespace Navigator

open Txn Tx

variable {env : Env} {W : LedgerRow → Prop} {P : Store → Label → Prop}
variable {r : CapacityReservation} {reservationId : RequestId} {sessionId : SessionId}
  {epoch : FencingEpoch} {t : Timestamp} {c : EraseArtifact}
variable {owner : HostId}

/-! ### Writes -/

/-- A change of what is set aside and of the artifacts, and of nothing else. -/
def Restocked (s s' : Store) : Prop :=
  s' = { s with quotas := s'.quotas, artifacts := s'.artifacts }

instance : Std.Refl Restocked := ⟨fun _ => rfl⟩

instance : IsTrans Store Restocked where
  trans s₁ s₂ s₃ h₁ h₂ := by
    unfold Restocked at h₁ h₂ ⊢
    rw [h₂, h₁]

theorem within_resources (hQ : ∀ s, P s .resources) {ρ α : Type} {x : Tx Store ρ StoreError α}
    (h : Within Restocked x) : Within (Path env P) x :=
  h.mono fun s s' h => by
    rw [h]
    exact .single (hQ s) (.resources s'.quotas s'.artifacts)

@[simp] theorem writeQuotas_within {f : Quotas → Quotas} : Within Restocked (writeQuotas f) :=
  .write fun _ => rfl

@[simp] theorem writeArtifacts_within {f : Store → Table ArtifactSnapshot} :
    Within Restocked (Tx.write fun s => { s with artifacts := f s } : Write Unit) :=
  .write fun _ => rfl

@[simp] theorem insertReservation_within : Within Restocked (insertReservation r) :=
  .bind .read fun _ => .bind .orAbort fun _ => writeQuotas_within

@[simp] theorem spendReservation_within :
    Within Restocked (spendReservation r) := by
  unfold spendReservation
  repeat refine .bind (by simp) fun _ => ?_
  simp

@[simp] theorem spendHeld_within : Within Restocked (spendHeld r) := by
  unfold spendHeld
  split <;> simp

@[simp] theorem spendGlobalHeld_within {r : GlobalCapacityReservation} :
    Within Restocked (spendGlobalHeld r) := by
  unfold spendGlobalHeld
  split
  · simp
  · repeat refine .bind (by simp) fun _ => ?_
    simp

@[simp] theorem consumeCapacityReservation_within {campaignId : ParticipantId}
    {resource : CapacityResource} {amount : ℕ} : Within Restocked
      (consumeCapacityReservation reservationId sessionId campaignId resource amount) := by
  unfold consumeCapacityReservation
  repeat refine .bind (by simp) fun _ => ?_
  simp

@[simp] theorem consumeBytes_within {c : PublishArtifact} : Within Restocked (consumeBytes c) := by
  unfold consumeBytes
  split <;> simp

@[simp] theorem validateSubscriptionOwner_within {l : SubscriptionLease} :
    Within Restocked (validateSubscriptionOwner l) := by
  unfold validateSubscriptionOwner
  repeat refine .bind (by simp) fun _ => ?_
  simp

@[simp] theorem reclaimStaleSubscriptionLeases_within :
    Within Restocked (reclaimStaleSubscriptionLeases sessionId) := by
  unfold reclaimStaleSubscriptionLeases
  repeat refine .bind (by simp) fun _ => ?_
  simp

@[simp] theorem reconcileAbandonedSubscriptions_within :
    Within Restocked reconcileAbandonedSubscriptions := by
  unfold reconcileAbandonedSubscriptions
  repeat refine .bind (by simp) fun _ => ?_
  simp

@[simp] theorem updateArtifact_within {a : ArtifactSnapshot} :
    Within Restocked (updateArtifact a) := by
  unfold updateArtifact
  simp

/-! ### Reservations -/

theorem reserveCapacity_within {c : ReserveCapacity} :
    Within Restocked (reserveCapacity env c) := by
  iterate 3 refine .bind (by simp) fun _ => ?_
  split
  · simp
  · repeat refine .bind (by simp) fun _ => ?_
    simp

theorem releaseCapacity_within :
    Within Restocked (releaseCapacity reservationId) := by
  unfold releaseCapacity
  repeat refine .bind (by simp) fun _ => ?_
  simp

theorem reserveGlobalCapacity_within {c : ReserveGlobalCapacity} :
    Within Restocked (reserveGlobalCapacity env c) := by
  iterate 2 refine .bind (by simp) fun _ => ?_
  split
  · simp
  · repeat refine .bind (by simp) fun _ => ?_
    simp

theorem releaseGlobalCapacity_within :
    Within Restocked (releaseGlobalCapacity reservationId) := by
  unfold releaseGlobalCapacity
  repeat refine .bind (by simp) fun _ => ?_
  simp

theorem reserveSubscriptionLease_within {c : ReserveSubscriptionLease} :
    Within Restocked (reserveSubscriptionLease env c) := by
  iterate 3 refine .bind (by simp) fun _ => ?_
  split
  · simp
  · repeat refine .bind (by simp) fun _ => ?_
    simp

theorem renewSubscriptionLease_within {c : ReserveSubscriptionLease} :
    Within Restocked (renewSubscriptionLease c) := by
  unfold renewSubscriptionLease
  repeat refine .bind (by simp) fun _ => ?_
  simp

/-! ### Artifacts -/

theorem authorizeArtifact_within (hP : Tolerant W P) :
    Within (Path env P) (authorizeArtifact sessionId owner epoch t) :=
  .bind (authorizeOwner_within hP) fun _ => by simp

@[simp] theorem erasable_within {R : Store → Store → Prop} [IsTrans Store R] [Std.Refl R] :
    Within R (erasable c t) := by
  unfold erasable
  repeat refine .bind (by simp) fun _ => ?_
  simp

section Artifacts

variable (hP : Tolerant W P)
variable {checkedAt now : Timestamp}
include hP

theorem authorizePhysicalErasure_within :
    Within (Path env P) (authorizePhysicalErasure env t checkedAt c) := by
  refine replayOrWrite_within (fun _ => ?_) ?_
  · simp
  · exact (authorizeArtifact_within hP).bind fun _ => Within.bind (by simp) fun _ => by simp

theorem readArtifact_within {c : ArtifactAccess} :
    Within (Path env P) (readArtifact t c) := by
  refine (authorizeArtifact_within hP).bind fun _ => ?_
  repeat refine .bind (by simp) fun _ => ?_
  simp

variable (hQ : ∀ s, P s .resources)
include hQ

omit hP in
theorem publishArtifact_within {c : PublishArtifact} (hP : Tolerant (Writes env c) P) :
    Within (Path env P) (publishArtifact env t now c) := by
  refine replayOrWrite_within (fun _ => by simp) ?_
  refine (authorizeArtifact_within hP).bind fun _ => ?_
  iterate 9 refine .bind (by simp) fun _ => ?_
  refine (within_resources hQ consumeCapacityReservation_within).bind fun _ => ?_
  refine (within_resources hQ consumeBytes_within).bind fun _ => ?_
  iterate 4 refine .bind (by simp) fun _ => ?_
  refine (within_resources hQ writeArtifacts_within).bind fun _ => ?_
  refine (within_aside hP appendEvent_within).bind fun _ => ?_
  exact (record_within hP).bind fun _ => by simp

omit hP in
theorem logicallyDeleteArtifact_within {c : DeleteArtifact} (hP : Tolerant (Writes env c) P) :
    Within (Path env P) (logicallyDeleteArtifact env t now c) := by
  refine replayOrWrite_within (fun _ => by simp) ?_
  refine (authorizeArtifact_within hP).bind fun _ => ?_
  iterate 5 refine .bind (by simp) fun _ => ?_
  refine .bind (by simp) fun _ => (within_resources hQ updateArtifact_within).bind fun _ => ?_
  refine (within_aside hP appendEvent_within).bind fun _ => ?_
  exact (record_within hP).bind fun _ => by simp

omit hP in
theorem recordPhysicalErasure_within (hP : Tolerant (Writes env c) P) :
    Within (Path env P) (recordPhysicalErasure env t checkedAt now c) := by
  refine replayOrWrite_within (fun _ => by simp) ?_
  refine (authorizeArtifact_within hP).bind fun _ => Within.bind (by simp) fun _ => ?_
  refine .bind (by simp) fun _ => (within_resources hQ updateArtifact_within).bind fun _ => ?_
  refine (within_aside hP appendEvent_within).bind fun _ => ?_
  exact (record_within hP).bind fun _ => by simp

end Artifacts

/-! ### Readers that let time pass -/

theorem loadRecoveryInventory_within (hP : Tolerant W P) :
    Within (Path env P) (loadRecoveryInventory t sessionId owner epoch) := by
  refine (authorizeOwner_within hP).bind fun _ => ?_
  simp

theorem validateLaunchAuthority_within (hP : Tolerant W P) {host : HostId} :
    Within (Path env P) (validateLaunchAuthority t sessionId host epoch) := by
  refine ⟨fun s v s' h => ?_, fun s r s' h => ?_⟩
  · rw [validateLaunchAuthority_eq] at h
    repeat' split at h
    all_goals cases h
    exact .refl
  · rw [validateLaunchAuthority_eq] at h
    rcases hrow : requireOpenSession sessionId .prepareLaunch s with e | row
    · simp [hrow] at h
    obtain ⟨r, hr, -, hdecodes⟩ := requireOpenSession_ok hrow
    simp only [hrow] at h
    repeat' split at h
    all_goals cases h
    rw [hdecodes.floor]
    exact withFloor_path hP hr t

end Navigator
