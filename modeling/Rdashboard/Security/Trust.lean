import Rdashboard.Security.Course

/-! # Source gate proofs

The four things that `record_source_gate_proof` can do, and the order in which a project comes to
trust its sources. -/

namespace Rdashboard

open Relational Function Table Session

namespace SecurityStore

/-- The newest source that a project has trusted. -/
def trusted (S : SecurityStore) (p : ProjectId) : Option SourceTrustRow :=
  S.sourceTrust.lookup (·.projectId) p

end SecurityStore

/-- The trust that a proof stands for. -/
def SourceGateProofRecord.trust (proof : SourceGateProofRecord) : SourceTrustRow where
  projectId := proof.projectId
  sourceSequence := proof.sourceSequence
  attestationDigest := proof.attestationDigest

/-- A row says no less than another: a later source, or the same one. -/
def SourceTrustRow.Extends (new old : SourceTrustRow) : Prop :=
  old.sourceSequence ≤ new.sourceSequence ∧
    (old.sourceSequence = new.sourceSequence → new.attestationDigest = old.attestationDigest)

theorem SourceTrustRow.Extends.refl (row : SourceTrustRow) : row.Extends row := ⟨le_rfl, fun _ => rfl⟩

theorem SourceTrustRow.Extends.trans {r s t : SourceTrustRow} (h : s.Extends r) (h' : t.Extends s) :
    t.Extends r := by
  refine ⟨h.1.trans h'.1, fun hrt => ?_⟩
  have hrs : r.sourceSequence = s.sourceSequence := le_antisymm h.1 (hrt ▸ h'.1)
  rw [h'.2 (hrs ▸ hrt), h.2 hrs]

/-- A row that says no less about the same source is the same row. -/
theorem SourceTrustRow.Extends.eq {new old : SourceTrustRow} (h : new.Extends old)
    (hproject : old.projectId = new.projectId)
    (hsequence : old.sourceSequence = new.sourceSequence) : old = new := by
  have hattestation := h.2 hsequence
  cases old
  cases new
  cases hproject
  cases hsequence
  cases hattestation
  rfl

namespace SecurityStore

variable {S S' : SecurityStore} {proof : SourceGateProofRecord}
variable {r : Except SecurityError Unit}

theorem trusts_by_project : sourceTrustSchema.Separates (·.projectId) := Schema.separates_keyed _ _

/-- The proof is for a source that the project may trust next. -/
def Advances (S : SecurityStore) (proof : SourceGateProofRecord) : Prop :=
  ∀ row, S.trusted proof.projectId = some row → proof.trust.Extends row

theorem advances_of_admitted {e : PhaseJournalEntry} (h : S.admissionRejection e proof = none) :
    S.Advances proof := by
  unfold admissionRejection at h
  split_ifs at h with _ _ _ hregressed
  have h := Bool.eq_false_iff.mpr hregressed
  intro row hrow
  unfold trusted at hrow
  simp only [sourceTrustRegressed, hrow, Option.any_some, Bool.or_eq_false_iff,
    Bool.and_eq_false_iff, decide_eq_false_iff_not, not_lt, not_not] at h
  obtain ⟨hle, hne | hsame⟩ := h
  · exact ⟨hle, fun heq => absurd heq hne⟩
  · exact ⟨hle, fun _ => hsame.symm⟩

/-- The upsert of the trust leaves the new row, when it extends the old one. -/
theorem raiseSourceTrust_ok (row : SourceTrustRow) {u : Unit}
    (hextends : ∀ old, S.trusted row.projectId = some old → row.Extends old)
    (h : raiseSourceTrust row S = .ok (u, S')) : ∃ t, S' = { S with sourceTrust := t } ∧
      S'.trusted = update S.trusted row.projectId (some row) := by
  simp only [raiseSourceTrust, Txn.ok_iff] at h
  obtain ⟨existing, hexisting, h⟩ := h
  cases existing with
  | none =>
    obtain ⟨-, t, hinsert, rfl⟩ := TableRef.insert_ok_iff.mp h
    refine ⟨t, rfl, ?_⟩
    funext p
    refine (lookup_insert trusts_by_project hinsert p).trans ?_
    by_cases hp : p = row.projectId
    · rw [if_pos hp.symm, hp, update_self]
    · rw [if_neg (Ne.symm hp), update_of_ne hp]
      rfl
  | some old =>
    simp only [TableRef.update_ok_iff, Txn.ok_iff] at h
    obtain ⟨_, _, ⟨t, hupdate, -, rfl⟩, -, rfl⟩ := h
    refine ⟨t, rfl, ?_⟩
    have hold := hextends old hexisting
    have hproject : old.projectId = row.projectId := key_of_lookup hexisting
    funext p
    have hkey (r : SourceTrustRow) (hr : (decide (r.projectId = row.projectId) &&
        decide (r.sourceSequence < row.sourceSequence)) = true) : r.projectId = row.projectId := by
      simp only [where_iff] at hr
      exact hr.1
    refine (lookup_update_where (fun r hr => (hkey r hr).symm) hkey hupdate p).trans ?_
    by_cases hp : p = row.projectId
    · subst hp
      rw [update_self, if_pos rfl, show (sourceTrustT.get S).lookup (·.projectId) row.projectId =
        some old from hexisting, Option.map_some]
      by_cases hlt : old.sourceSequence < row.sourceSequence
      · rw [assign_of_pos _ (by simp [hproject, hlt])]
      · -- the trusted source is the one of the new row
        have heq : old.sourceSequence = row.sourceSequence := le_antisymm hold.1 (not_lt.mp hlt)
        rw [assign_of_neg _ (by simp [hlt]), hold.eq hproject heq]
    · rw [update_of_ne hp, if_neg (Ne.symm hp)]
      rfl

/-- What has happened when `record_source_gate_proof` returns. -/
inductive GateOutcome (proof : SourceGateProofRecord) (S : SecurityStore) :
    Except SecurityError Unit → SecurityStore → Prop where
  | fail (error : SecurityError) : GateOutcome proof S (.error error) S
  | reject {error : SecurityError} {S' : SecurityStore} {e : PhaseJournalEntry}
      {row : SourceGateRejectionRow} {rejections : Table rejectionSchema} {phases : Table phaseSchema}
      (he : S.loadPhaseEntry proof.attemptId ⟨.primary, proof.phase⟩ = some e)
      (hs : e.status = .intentPersisted) (hrow : row.state = .abortPending)
      (hS' : S' = { S with rejections, phases })
      (hturns : Turns S S' proof.attemptId
        (((S.course proof.attemptId).setRejection ⟨.primary, proof.phase⟩ row).setEntry
          ⟨.primary, proof.phase⟩
          { e with status := .needsReconcile, updatedAtMs := proof.checkedAtMs })) :
      GateOutcome proof S (.error error) S'
  | replay {existing : SourceGateProofRecord} (hadvances : S.Advances proof)
      (hexisting : S.proof proof.attemptId proof.phase = some existing)
      (hsame : { existing with checkedAtMs := proof.checkedAtMs } = proof) :
      GateOutcome proof S (.ok ()) S
  | accept {S' : SecurityStore} {proofs : Table proofSchema} {sourceTrust : Table sourceTrustSchema}
      (hadvances : S.Advances proof) (hrows : proofs.rows = S.proofs.rows ++ [proof])
      (hS' : S' = { S with proofs, sourceTrust })
      (htrusted : S'.trusted = update S.trusted proof.projectId (some proof.trust)) :
      GateOutcome proof S (.ok ()) S'

theorem rejectSourceGateProof_outcome {error : SecurityError}
    (h : rejectSourceGateProof proof ⟨.primary, proof.phase⟩ error S = .ok (r, S')) :
    GateOutcome proof S r S' := by
  obtain ⟨rfl, e, row, _, _, he, hs, hrow, hS', hturns⟩ := rejectSourceGateProof_ok h
  exact .reject he hs hrow hS' hturns

theorem persistSourceGateProof_outcome (hadvances : S.Advances proof)
    (h : persistSourceGateProof proof ⟨.primary, proof.phase⟩ S = .ok (r, S')) :
    GateOutcome proof S r S' := by
  simp only [persistSourceGateProof, Txn.ok_iff] at h
  obtain ⟨existing, hexisting, h⟩ := h
  cases existing with
  | some existing =>
    simp only [Txn.ite_ok_iff] at h
    rcases h with ⟨hsame, rfl, rfl⟩ | ⟨-, h⟩
    · exact .replay hadvances hexisting hsame
    · exact rejectSourceGateProof_outcome h
  | none =>
    simp only [TableRef.insert_ok_iff, Txn.ok_iff] at h
    obtain ⟨_, _, ⟨-, t, hinsert, rfl⟩, _, S₂, hraise, rfl, rfl⟩ := h
    obtain ⟨t', rfl, htrusted⟩ :=
      raiseSourceTrust_ok (S := { S with proofs := t }) proof.trust hadvances hraise
    exact .accept hadvances (rows_insert hinsert) rfl htrusted

theorem recordSourceGateProof_outcome
    (h : recordSourceGateProof proof S = (r, S')) : GateOutcome proof S r S' := by
  rw [recordSourceGateProof, bind_apply, lift] at h
  cases hkey : ExecutorPhaseBranch.primary.storageKey proof.phase with
  | error e =>
    simp only [hkey] at h
    cases h
    exact .fail e
  | ok key =>
    obtain ⟨rfl, -⟩ := ExecutorPhaseBranch.storageKey_ok_iff.mp hkey
    simp only [hkey] at h
    rw [bind_apply] at h
    rcases immediateTransaction_final
      (recordSourceGateProofTransaction proof ⟨.primary, proof.phase⟩) S with
      ⟨outcome, S₁, hbody, htxn⟩ | ⟨e, -, htxn⟩
    · simp only [htxn] at h
      cases h
      simp only [recordSourceGateProofTransaction, Txn.ok_iff] at hbody
      obtain ⟨_, rfl, e, he, _, hs, rejected, hrejected, hbody⟩ := hbody
      cases rejected with
      | some error => exact rejectSourceGateProof_outcome hbody
      | none => exact persistSourceGateProof_outcome (advances_of_admitted hrejected) hbody
    · simp only [htxn] at h
      cases h
      exact .fail e

/-- The outcome of a step that records a proof. -/
theorem record_outcome (codec : Codec) (proof : SourceGateProofRecord) (S : SecurityStore) :
    ∃ r, GateOutcome proof S r (step codec (.recordSourceGateProof proof) S) :=
  ⟨_, recordSourceGateProof_outcome rfl⟩

end SecurityStore

end Rdashboard
