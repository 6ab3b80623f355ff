import Rdashboard.Properties.Locks

/-! # Heads and cleanups

An admission of a new request supersedes what has not begun to mutate its project.  An admission
that only finds an older request again leaves all attempts as they are, and so does not make
its commit the only one that is worked on. -/

namespace Rdashboard

open Relational Journal Session

variable {sha256 : Sha256} {D : Discipline} {J J' : Journal sha256}

/-! ### The latest head -/

/-- Of the deployments of the project, no attempt for another commit or policy goes on that has
not begun to mutate the project. -/
def Journal.HeadWins (J : Journal sha256) (projectId : ProjectId) (sourceSha : GitCommitId)
    (policyDigest : EvidenceDigest) : Prop :=
  ∀ row ∈ J.attempts.rows, ∀ request, J.request row.requestId = some request →
    request.projectId = projectId → request.operationKind = .deploy →
    (request.sourceSha ≠ sourceSha ∨ request.workflowPolicyDigest ≠ policyDigest) →
    row.mutationState = .notStarted →
    row.state ≠ .queued ∧ row.state ≠ .waitingForMutation ∧ row.state ≠ .running

theorem headWins_iff (hJ : J.Lawful D) {admission : WorkflowAdmissionV1}
    (hmode : admission.executionMode = .deploy) :
    J.HeadWins admission.projectId admission.sourceSha admission.workflowPolicyDigest ↔
      J.Headed admission := by
  constructor
  · intro h b B hB hsup
    by_contra hne
    rw [not_and_or] at hne
    obtain ⟨hq, hw, hr⟩ := h B.row (Table.mem_of_lookup (attempt_of_view hB)) B.request
      (request_of_view hB) hsup.projectId (hsup.operationKind.trans hmode) hne hsup.notStarted
    have hlive := hsup.live
    have hfits := (hJ.attempts b B hB).standing.mutation
    rw [hsup.notStarted] at hfits
    cases hs : B.row.state <;> simp_all [WorkflowAttemptStateV1.isTerminal,
      WorkflowMutationStateV1.Fits]
  · intro h row hrow request hrequest hproject hdeploy hne hns
    obtain ⟨B, hB, rfl⟩ := hJ.sound.view_of_attempt (Table.lookup_of_mem attempts_by_id hrow)
    cases (request_of_view hB).symm.trans hrequest
    have hterminal : ∀ state, state.isTerminal = false → B.row.state ≠ state := by
      intro state hlive heq
      obtain ⟨hsha, hpolicy⟩ := h _ B hB ⟨hproject, hdeploy.trans hmode.symm, heq ▸ hlive, hns⟩
      exact hne.elim (· hsha) (· hpolicy)
    exact ⟨hterminal _ rfl, hterminal _ rfl, hterminal _ rfl⟩

/-- After an admission the latest head wins exactly if it is a new request, or the head has won
before. -/
theorem head_wins_iff (h : Reachable J) {manifest : ProjectManifestV2}
    {admission : WorkflowAdmissionV1} {t : Int} {requestId attemptId : FreshUuid}
    {outcome : WorkflowAdmissionOutcomeV1} (hmode : admission.executionMode = .deploy)
    (hcall : admitWorkflow manifest admission t requestId attemptId J = (.ok outcome, J')) :
    J'.HeadWins admission.projectId admission.sourceSha admission.workflowPolicyDigest ↔
      (J.triggers.lookup TriggerRow.key (admission.triggerChannel, admission.deliveryId) = none ∧
        J.findStableRequest admission = none) ∨
      J.HeadWins admission.projectId admission.sourceSha admission.workflowPolicyDigest := by
  obtain ⟨hJ, -⟩ := h.invariant
  simp only [admitWorkflow, bind_ok_iff, lift_ok_iff,
    immediateTransaction_ok_iff] at hcall
  obtain ⟨valid, _, ⟨-, rfl⟩, htransaction⟩ := hcall
  obtain ⟨hproceeds, hcase⟩ := admitTransaction_proceeds hJ attemptId.2 (fun h => h.elim) htransaction
  rw [headWins_iff hJ hmode, headWins_iff hproceeds.lawful hmode]
  split at hcase
  · rename_i hnew
    exact ⟨fun _ => .inl hnew, fun _ => hcase⟩
  · rename_i hold
    rw [or_iff_right hold, Journal.Headed, Journal.Headed, hcase]

namespace Sample

/-- A commit, a later one, and the first one again. -/
def revisit : Operation := .admitWorkflow manifest (admission manifest sourceSha 3 "f") 0 uuid5 uuid6

/-- The first commit becomes the head again, and the later one goes on. -/
theorem revisit_loses : Reachable superseding ∧
    (admitWorkflow manifest (admission manifest sourceSha 3 "f") 0 uuid5 uuid6 superseding).1.isOk = true ∧
    (superseding.step revisit).heads.rows.map (·.sourceSha) = [sourceSha] ∧
    ¬ (superseding.step revisit).HeadWins manifest.projectId sourceSha
      (manifest.workflowPolicyDigest digest) := by
  refine ⟨superseding_reachable, by decide +kernel, by decide +kernel, fun hwins => ?_⟩
  obtain ⟨row, hrow, request, hmem, hid, hproject, hdeploy, hne, hns, hq⟩ : ∃ row ∈
      (superseding.step revisit).attempts.rows, ∃ request ∈ (superseding.step revisit).requests.rows,
      request.requestId = row.requestId ∧ request.projectId = manifest.projectId ∧
      request.operationKind = .deploy ∧ request.sourceSha ≠ sourceSha ∧
      row.mutationState = .notStarted ∧ row.state = .queued := by decide +kernel
  exact (hwins row hrow request (by rw [← hid]; exact Table.lookup_of_mem requests_by_id hmem)
    hproject hdeploy (.inl hne) hns).1 hq

/-- A journal with one attempt. -/
def admitted : Journal digest :=
  Journal.empty.step (.admitWorkflow manifest (admission manifest sourceSha 1 "d") 0 uuid1 uuid2)

/-- A later commit wins. -/
theorem later_wins : ∃ outcome J', admitWorkflow manifest (admission manifest laterSha 2 "e") 0 uuid3 uuid4
      admitted = (.ok outcome, J') ∧
    J'.HeadWins manifest.projectId laterSha (manifest.workflowPolicyDigest digest) := by
  obtain ⟨outcome, J', h⟩ := exists_ok
    (x := admitWorkflow manifest (admission manifest laterSha 2 "e") 0 uuid3 uuid4 admitted) (by decide +kernel)
  have hnew : admitted.triggers.lookup TriggerRow.key (.directPush, "e") = none ∧
      admitted.findStableRequest (admission manifest laterSha 2 "e") = none := by
    decide +kernel
  exact ⟨outcome, J', h, (head_wins_iff (Reachable.step .init _) rfl h).mpr (.inl hnew)⟩

end Sample

/-! ### Cleanups -/

/-- With careful callers, a cleanup that is recorded as complete is complete. -/
theorem cleanup_settled (h : ReachableBy Journal.CarefulAt J) :
    ∀ row ∈ J.attempts.rows, row.cleanupState = .complete →
      J.unresolvedCleanupCount row.attemptId = 0 := by
  intro row hrow hcomplete
  obtain ⟨hJ, -⟩ := ReachableBy.invariant (D := ⟨True, False, True⟩) trivial (fun _ _ _ hg => hg)
    (fun h => h.elim) h
  obtain ⟨A, hA, rfl⟩ := hJ.sound.view_of_attempt (Table.lookup_of_mem attempts_by_id hrow)
  exact (unresolvedCleanupCount_eq_zero_iff hA).mpr ((hJ.attempts _ A hA).accounted trivial hcomplete)

namespace Sample

/-- A worker lets its lease expire. -/
def expired : Journal digest :=
  (admitted.step (.claimNext vps 0 1000 uuid3)).step (.expireLeases 2000)

/-- A later commit. -/
def supersession : Operation :=
  .admitWorkflow manifest (admission manifest laterSha 2 "e") 3000 uuid4 uuid5

/-- The later commit supersedes the attempt, whose cleanup is open and recorded as complete. -/
theorem forgotten_cleanup : Reachable (expired.step supersession) ∧
    ∃ row ∈ (expired.step supersession).attempts.rows, row.cleanupState = .complete ∧
      (expired.step supersession).unresolvedCleanupCount row.attemptId = 1 :=
  ⟨.step (.step (.step (.step .init _) _) _) _, by decide +kernel⟩

/-- The cleanup receipt of a worker for a lease that has expired; a call that fails if there is no
such lease. -/
def cleanUp (leaseId : Uuid) (nowMs : Int) (J : Journal digest) : Operation :=
  match J.lease leaseId with
  | none => .expireLeases (-1)
  | some row =>
    let lease := row.leaseJson.1
    let body : WorkflowCleanupReceiptBodyV1 := ⟨1, lease.leaseDigest, leaseId, lease.leaseGeneration,
      lease.attemptId, lease.projectId, lease.nodeId, lease.workerId, lease.hostId, none, 8, nowMs⟩
    .commitCleanupReceipt ⟨body, digest (.cleanupReceipt body)⟩ nowMs

/-- The worker cleans up before the later commit is admitted. -/
def cleaned : Journal digest := expired.step (cleanUp 3 2500 expired)

/-- The attempt is superseded with a complete cleanup, that of its expired lease. -/
theorem cleaned_settled : ReachableBy Journal.CarefulAt (cleaned.step supersession) ∧
    ∃ row ∈ (cleaned.step supersession).attempts.rows, row.state = .superseded ∧
      row.cleanupState = .complete ∧
      (∃ l ∈ (cleaned.step supersession).leases.rows, l.attemptId = row.attemptId ∧
        l.state = .expired) ∧
      (cleaned.step supersession).unresolvedCleanupCount row.attemptId = 0 := by
  have hexpired : ReachableBy Journal.CarefulAt expired :=
    .next _ (.next _ (.next _ .init fun _ _ _ => (nomatch ·)) trivial) trivial
  have hcleaned : ∀ row ∈ cleaned.attempts.rows, cleaned.unresolvedCleanupCount row.attemptId = 0 := by
    decide +kernel
  have hcareful : ReachableBy Journal.CarefulAt (cleaned.step supersession) := by
    refine .next _ (.next _ hexpired ?_) fun _ _ row hrow _ _ _ _ _ _ _ => hcleaned row hrow
    unfold cleanUp
    split <;> trivial
  obtain ⟨row, hrow, hstate, hcomplete, hlease⟩ : ∃ row ∈ (cleaned.step supersession).attempts.rows,
      row.state = .superseded ∧ row.cleanupState = .complete ∧
      ∃ l ∈ (cleaned.step supersession).leases.rows, l.attemptId = row.attemptId ∧
        l.state = .expired := by
    decide +kernel
  exact ⟨hcareful, row, hrow, hstate, hcomplete, hlease, cleanup_settled hcareful row hrow hcomplete⟩

end Sample

end Rdashboard
