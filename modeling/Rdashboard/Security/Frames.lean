import Rdashboard.Library.Frame
import Rdashboard.Security.Operations

/-! # What the operations leave alone

An operation keeps every part of the store that does not read the tables it writes.
`step_keeps` proves it once for all operations, from the table of what each may write (`Ignores`). -/

namespace Rdashboard

open Relational Txn TableRef

namespace SecurityStore

variable {codec : Codec} {τ : Type} {f : SecurityStore → τ}

/-- `f` does not read the epoch counter. -/
def EpochIgnored (f : SecurityStore → τ) : Prop := ∀ n S, f { S with fenceEpoch := n } = f S

theorem allocateNextFenceEpoch_ok_iff {S S' : SecurityStore} {epoch : Nat} :
    allocateNextFenceEpoch S = .ok (epoch, S') ↔ (S.fenceEpoch + 1) ≤ i64Max ∧
      epoch = S.fenceEpoch + 1 ∧ S' = { S with fenceEpoch := S.fenceEpoch + 1 } := by
  unfold allocateNextFenceEpoch
  split <;> simp_all [eq_comm]

theorem allocateNextFenceEpoch_keeps (he : EpochIgnored f) : Keeps f allocateNextFenceEpoch := by
  intro S epoch S' h
  obtain ⟨-, -, rfl⟩ := allocateNextFenceEpoch_ok_iff.mp h
  exact he _ S

theorem commitBootstrapLedgerIfNeeded_keeps (hb : bootstrapsT.Ignored f) (a : Uuid) (key : PhaseKey)
    (receipt : PhaseReceipt) (t : Int) :
    Keeps f (commitBootstrapLedgerIfNeeded codec a key receipt t) :=
  Framed.keeps (by repeat' first | assumption | intro _ | split | constructor)

/-- `f` does not see that a backup boundary is closed. -/
def ClosureIgnored (f : SecurityStore → τ) : Prop := ∀ (p : BackupBoundaryRow → Bool) (t : Int),
  Keeps f (boundariesT.update p fun r => { r with state := .released, updatedAtMs := t } :
    Secured Nat)

theorem ClosureIgnored.of_ignored (h : boundariesT.Ignored f) : ClosureIgnored f :=
  fun _ _ => (Framed.update h _ _).keeps

theorem closeBackupBoundaryIfNeeded_keeps (hb : ClosureIgnored f) (a : Uuid) (key : PhaseKey)
    (t : Int) : Keeps f (closeBackupBoundaryIfNeeded a key t) := by
  refine Framed.keeps ?_
  unfold closeBackupBoundaryIfNeeded
  repeat' first | exact .of_keeps (hb _ _) | intro _ | split | constructor

/-- `f` ignores everything that the operation writes. -/
def Ignores (f : SecurityStore → τ) : SecurityOperation → Prop
  | .authorizeAttempt _ _ => authorizationsT.Ignored f
  | .beginRollbackTakeover _ _ _ _ => takeoversT.Ignored f
  | .beginPhaseIntent _ | .recordPhaseObservationInBranch _ | .markPhaseVerifiedInBranch _ _ _ _
  | .markPhaseNeedsReconcileInBranch _ _ _ _ => phasesT.Ignored f
  | .bindAuthorizedPhaseSpec _ => specsT.Ignored f
  | .bindVerifiedBackupChain _ => chainsT.Ignored f
  | .authorizeBoundPhaseSpec _ _ _ _ => bootstrapsT.Ignored f ∧ mutationGrantsT.Ignored f
  | .recordSourceGateProof _ => phasesT.Ignored f ∧ rejectionsT.Ignored f ∧ proofsT.Ignored f ∧
      sourceTrustT.Ignored f
  | .compensateSourceGateRejection _ _ _ _ _ _ =>
    phasesT.Ignored f ∧ rejectionsT.Ignored f ∧ proofsT.Ignored f
  | .commitPhaseReceiptInBranch _ _ _ _ => bootstrapsT.Ignored f ∧ ClosureIgnored f ∧
      receiptsT.Ignored f ∧ phasesT.Ignored f
  | .acquireResource _ _ | .releaseResource _ _ | .releaseResourceIfOwned _ _ =>
    resourcesT.Ignored f ∧ resourceReceiptsT.Ignored f
  | .acquireDiskReservation _ _ _ _ | .releaseDiskReservationIfOwned _ _ =>
    resourcesT.Ignored f ∧ resourceReceiptsT.Ignored f ∧ disksT.Ignored f
  | .beginBackupBoundary _ _ _ _ => EpochIgnored f ∧ boundariesT.Ignored f
  | .beginDrainIdentity _ _ _ _ => EpochIgnored f ∧ drainsT.Ignored f
  | .beginFenceAcquire _ _ _ _ => fencesT.Ignored f ∧ EpochIgnored f ∧ drainsT.Ignored f
  | .reconcileFence _ _ _ | .beginFenceRelease _ _ _ => fencesT.Ignored f

/-- An operation keeps whatever ignores what it writes. -/
theorem step_keeps (op : SecurityOperation) (h : Ignores f op) (S : SecurityStore) :
    f (step codec op S) = f S := by
  have hepoch (he : EpochIgnored f) := Framed.of_keeps (allocateNextFenceEpoch_keeps he)
  have hclose (hd : ClosureIgnored f) a key t :=
    Framed.of_keeps (closeBackupBoundaryIfNeeded_keeps hd a key t)
  cases op <;> simp only [Ignores] at h <;> (try cases_type* And) <;> refine Session.Framed.keeps ?_ S
  -- Every operation is followed down to its statements; the helpers that start with a choice
  -- have to be unfolded to show it.
  all_goals repeat' first | assumption | with_reducible exact hepoch ‹_› |
      with_reducible exact hclose ‹_› _ _ _ | intro _ | unfold consumeMutationGrant |
      unfold reserveBootstrap | unfold replayPhaseIntent | unfold recordOwnObservation |
      unfold recordForeignFence | unfold reserveEpoch | split | constructor

end SecurityStore

end Rdashboard
