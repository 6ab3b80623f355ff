import Rdashboard.Security.Fences

/-! # The operations of the security store

Every public operation that writes one of the modelled tables, and the stores that runs of them
reach.  A guard restricts the calls of a run, so that a property can say which discipline it needs. -/

namespace Rdashboard

open Relational SecurityStore

inductive SecurityOperation where
  | authorizeAttempt (authorization : ExecutorAuthorization) (consumedAtMs : Int)
  | beginRollbackTakeover (attemptId : Uuid) (projectId : ProjectId)
      (authorizationDigest : EvidenceDigest) (createdAtMs : Int)
  | beginPhaseIntent (request : PhaseIntentRequest)
  | bindAuthorizedPhaseSpec (binding : AuthorizedPhaseSpecBinding)
  | bindVerifiedBackupChain (binding : VerifiedBackupChainBinding)
  | authorizeBoundPhaseSpec (attemptId : Uuid) (phase : OperationPhase)
      (branch : ExecutorPhaseBranch) (authorizedAtMs : Int)
  | recordSourceGateProof (proof : SourceGateProofRecord)
  | compensateSourceGateRejection (attemptId : Uuid) (projectId : ProjectId)
      (phase : OperationPhase) (branch : ExecutorPhaseBranch) (intentDigest : EvidenceDigest)
      (compensatedAtMs : Int)
  | recordPhaseObservationInBranch (request : PhaseObservationRequest)
  | markPhaseVerifiedInBranch (attemptId : Uuid) (phase : OperationPhase)
      (branch : ExecutorPhaseBranch) (verifiedAtMs : Int)
  | markPhaseNeedsReconcileInBranch (attemptId : Uuid) (phase : OperationPhase)
      (branch : ExecutorPhaseBranch) (updatedAtMs : Int)
  | commitPhaseReceiptInBranch (attemptId : Uuid) (phase : OperationPhase)
      (branch : ExecutorPhaseBranch) (committedAtMs : Int)
  | acquireResource (resource : ExecutionResource) (attemptId : Uuid)
  | releaseResource (resource : ExecutionResource) (attemptId : Uuid)
  | releaseResourceIfOwned (resource : ExecutionResource) (attemptId : Uuid)
  | acquireDiskReservation (projectId : ProjectId) (attemptId : Uuid)
      (observation : DiskAvailabilityObservation) (acquiredAtMs : Int)
  | releaseDiskReservationIfOwned (projectId : ProjectId) (attemptId : Uuid)
  | beginBackupBoundary (projectId : ProjectId) (attemptId : Uuid) (token : FreshUuid)
      (createdAtMs : Int)
  | beginDrainIdentity (projectId : ProjectId) (attemptId : Uuid) (token : FreshUuid)
      (createdAtMs : Int)
  | beginFenceAcquire (projectId : ProjectId) (attemptId : Uuid) (token : FreshUuid)
      (createdAtMs : Int)
  | reconcileFence (projectId : ProjectId) (observation : FenceObservation) (observedAtMs : Int)
  | beginFenceRelease (projectId : ProjectId) (attemptId : Uuid) (digest : EvidenceDigest)

namespace SecurityStore

variable (codec : Codec)

/-- The store that an operation leaves: an operation that fails leaves it as it was, except for
the rejection of a source gate proof. -/
def step : SecurityOperation → SecurityStore → SecurityStore
  | .authorizeAttempt authorization t => (authorizeAttempt codec authorization t).final
  | .beginRollbackTakeover a p d t => (beginRollbackTakeover a p d t).final
  | .beginPhaseIntent request => (beginPhaseIntent request).final
  | .bindAuthorizedPhaseSpec binding => (bindAuthorizedPhaseSpec codec binding).final
  | .bindVerifiedBackupChain binding => (bindVerifiedBackupChain codec binding).final
  | .authorizeBoundPhaseSpec a phase branch t =>
    (authorizeBoundPhaseSpec codec a phase branch t).final
  | .recordSourceGateProof proof => (recordSourceGateProof proof).final
  | .compensateSourceGateRejection a p phase branch d t =>
    (compensateSourceGateRejection a p phase branch d t).final
  | .recordPhaseObservationInBranch request => (recordPhaseObservationInBranch codec request).final
  | .markPhaseVerifiedInBranch a phase branch t => (markPhaseVerifiedInBranch a phase branch t).final
  | .markPhaseNeedsReconcileInBranch a phase branch t =>
    (markPhaseNeedsReconcileInBranch a phase branch t).final
  | .commitPhaseReceiptInBranch a phase branch t =>
    (commitPhaseReceiptInBranch codec a phase branch t).final
  | .acquireResource resource a => (acquireResource resource a).final
  | .releaseResource resource a => (releaseResource resource a).final
  | .releaseResourceIfOwned resource a => (releaseResourceIfOwned resource a).final
  | .acquireDiskReservation p a observation t =>
    (acquireDiskReservation codec p a observation t).final
  | .releaseDiskReservationIfOwned p a => (releaseDiskReservationIfOwned p a).final
  | .beginBackupBoundary p a token t => (beginBackupBoundary codec p a token t).final
  | .beginDrainIdentity p a token t => (beginDrainIdentity codec p a token t).final
  | .beginFenceAcquire p a token t => (beginFenceAcquire codec p a token t).final
  | .reconcileFence p observation t => (reconcileFence codec p observation t).final
  | .beginFenceRelease p a d => (beginFenceRelease codec p a d).final

/-- The stores reached from `S` by operations that `guard` allows. -/
def LeadsTo (guard : SecurityStore → SecurityOperation → Prop) (S S' : SecurityStore) : Prop :=
  Reaches (step codec) guard S S'

/-- The stores reached from a new store by operations that `guard` allows. -/
def ReachableBy (guard : SecurityStore → SecurityOperation → Prop) (S : SecurityStore) : Prop :=
  LeadsTo codec guard empty S

/-- The stores that any run of operations reaches. -/
def Reachable (S : SecurityStore) : Prop := ReachableBy codec (fun _ _ => True) S

end SecurityStore

end Rdashboard
