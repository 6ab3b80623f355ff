import Rdashboard.Library.Check
import Rdashboard.Workflow.Identifiers

/-! # Operations, phases and their documents

The documents that the executor and its security store exchange: the phases of an operation,
the artifacts a phase leaves behind, the receipts, specifications and backup chains bound to
it.  Everything the program encodes canonically and hashes goes through `Codec.sha256`; the
decoders of the two documents that the store keeps as bytes are parameters as well, and no
result depends on what they accept. -/

namespace Rdashboard

open Check

/-! ### Phases -/

inductive OperationPhase where
  | queued
  | syncingSource
  | verifyingSource
  | testing
  | building
  | preflight
  | backingUp
  | draining
  | cutoverSnapshotting
  | migrating
  | deploying
  | healthChecking
  | soaking
  | rollback
  | reconciliation
deriving DecidableEq

inductive OperationResult where
  | running
  | succeeded
  | failed
  | rolledBack
  | rollbackFailed
  | cancelled
  | superseded
  | manualRecoveryRequired

inductive OperationKind where
  | deploy
  | codeRollback
  | backupOnly
deriving DecidableEq

inductive ReleaseClass where
  | codeOnlyCompatible
  | statefulCompatible
  | statefulBreaking
  | rollback
deriving DecidableEq

inductive ExecutorPhaseBranch where
  | primary
  | rollbackRecovery
deriving DecidableEq

inductive OperationRecoveryMode where
  | rollback
  | reconciliation

def codeOnlyPhases : List OperationPhase :=
  [.queued, .syncingSource, .verifyingSource, .testing, .building, .preflight, .deploying,
    .healthChecking, .soaking]

def statefulPhases : List OperationPhase :=
  [.queued, .syncingSource, .verifyingSource, .testing, .building, .preflight, .backingUp,
    .draining, .cutoverSnapshotting, .migrating, .deploying, .healthChecking, .soaking]

def rollbackPhases : List OperationPhase :=
  [.queued, .preflight, .rollback, .healthChecking, .soaking]

def backupOnlyPhases : List OperationPhase := [.queued, .preflight, .backingUp]

/-- `OperationKind::required_phases`; `none` is `OperationContractError::ReleaseClassMismatch`. -/
def OperationKind.requiredPhases : OperationKind → Option ReleaseClass → Option (List OperationPhase)
  | .deploy, some .codeOnlyCompatible => some codeOnlyPhases
  | .deploy, some .statefulCompatible => some statefulPhases
  | .deploy, some .statefulBreaking => some statefulPhases
  | .codeRollback, some .rollback => some rollbackPhases
  | .backupOnly, none => some backupOnlyPhases
  | _, _ => none

/-! ### Artifacts -/

inductive ArtifactContractError where
  | missingRequiredEvidence (phase : OperationPhase)
  | unexpectedEvidence (phase : OperationPhase)
deriving DecidableEq

/-- What the artifacts of a phase and the evidence of an operation have in common. -/
structure PhaseEvidence where
  sourceGateProofDigest : Option EvidenceDigest := none
  drainEvidenceDigest : Option EvidenceDigest := none
  sourceExportDigest : Option EvidenceDigest := none
  prefetchEvidenceDigest : Option EvidenceDigest := none
  ciEvidenceDigest : Option EvidenceDigest := none
  buildPlanDigest : Option EvidenceDigest := none
  deploymentPlanDigest : Option EvidenceDigest := none
  releaseBundleDigest : Option EvidenceDigest := none
  resourceReservationDigest : Option EvidenceDigest := none
  buildContextDigest : Option EvidenceDigest := none
  generatedOutputDigests : List EvidenceDigest := []
  imageDigest : Option EvidenceDigest := none
  imageIdDigest : Option EvidenceDigest := none
  baseImageDigests : List EvidenceDigest := []
  schemaVersion : Option String := none
  backupId : Option Uuid := none
  backupSetId : Option Uuid := none
  baseBackupId : Option Uuid := none
  baseBackupManifestDigest : Option EvidenceDigest := none
  baseBackupEvidenceDigest : Option EvidenceDigest := none
  baseBackupOffsiteEvidenceDigest : Option EvidenceDigest := none
  baseBackupVerificationDigest : Option EvidenceDigest := none
  cutoverBackupId : Option Uuid := none
  cutoverBackupManifestDigest : Option EvidenceDigest := none
  cutoverBackupEvidenceDigest : Option EvidenceDigest := none
  cutoverBackupVerificationDigest : Option EvidenceDigest := none
  previousReleaseBundleDigest : Option EvidenceDigest := none
  healthEvidenceDigest : Option EvidenceDigest := none
  fencingEpoch : Option Nat := none
deriving DecidableEq

structure PhaseArtifacts extends PhaseEvidence where
  authorizedPhaseSpecDigest : Option EvidenceDigest := none
deriving DecidableEq

def PhaseArtifacts.default : PhaseArtifacts := {}

namespace PhaseArtifacts

variable (a : PhaseArtifacts)

/-- The evidence that `validate_for_phase` requires. -/
def hasRequired : OperationPhase → Bool
  | .testing => a.sourceExportDigest.isSome && a.prefetchEvidenceDigest.isSome &&
      a.ciEvidenceDigest.isSome && a.buildContextDigest.isSome &&
      a.resourceReservationDigest.isSome && !a.baseImageDigests.isEmpty
  | .building => a.buildContextDigest.isSome && a.buildPlanDigest.isSome && a.imageDigest.isSome &&
      a.imageIdDigest.isSome && !a.baseImageDigests.isEmpty
  | .preflight => a.resourceReservationDigest.isSome
  | .draining => a.sourceGateProofDigest.isSome && a.drainEvidenceDigest.isSome
  | .deploying => a.deploymentPlanDigest.isSome && a.releaseBundleDigest.isSome
  | .backingUp => a.backupSetId.isSome && a.baseBackupId.isSome &&
      a.baseBackupManifestDigest.isSome && a.baseBackupEvidenceDigest.isSome &&
      a.baseBackupOffsiteEvidenceDigest.isSome && a.baseBackupVerificationDigest.isSome
  | .cutoverSnapshotting => a.backupSetId.isSome && a.cutoverBackupId.isSome &&
      a.cutoverBackupManifestDigest.isSome && a.cutoverBackupEvidenceDigest.isSome &&
      a.cutoverBackupVerificationDigest.isSome && a.fencingEpoch.isSome
  | .migrating => a.schemaVersion.isSome
  | .healthChecking => a.healthEvidenceDigest.isSome
  | .soaking | .rollback | .queued | .syncingSource | .verifyingSource | .reconciliation => true

/-- The artifacts without those that belong to a phase. -/
def withoutPhase : OperationPhase → PhaseArtifacts
  | .testing => { a with
      sourceExportDigest := none, prefetchEvidenceDigest := none, ciEvidenceDigest := none
      resourceReservationDigest := none, buildContextDigest := none
      generatedOutputDigests := [], baseImageDigests := [] }
  | .building => { a with
      buildContextDigest := none, buildPlanDigest := none, imageDigest := none
      imageIdDigest := none, baseImageDigests := [] }
  | .preflight => { a with resourceReservationDigest := none }
  | .backingUp => { a with
      sourceGateProofDigest := none, backupSetId := none, baseBackupId := none
      baseBackupManifestDigest := none, baseBackupEvidenceDigest := none
      baseBackupOffsiteEvidenceDigest := none, baseBackupVerificationDigest := none }
  | .draining => { a with sourceGateProofDigest := none, drainEvidenceDigest := none }
  | .cutoverSnapshotting => { a with
      backupSetId := none, cutoverBackupId := none, cutoverBackupManifestDigest := none
      cutoverBackupEvidenceDigest := none, cutoverBackupVerificationDigest := none
      fencingEpoch := none }
  | .migrating => { a with schemaVersion := none }
  | .deploying => { a with
      sourceGateProofDigest := none, deploymentPlanDigest := none
      releaseBundleDigest := none, previousReleaseBundleDigest := none }
  | .healthChecking | .soaking => { a with healthEvidenceDigest := none }
  | .rollback => { a with previousReleaseBundleDigest := none }
  | .queued | .syncingSource | .verifyingSource | .reconciliation => a

def containsOnlyPhaseArtifacts (phase : OperationPhase) : Bool :=
  { a.withoutPhase phase with authorizedPhaseSpecDigest := none } = PhaseArtifacts.default

def validateForPhase (phase : OperationPhase) : Except ArtifactContractError Unit :=
  if a.hasRequired phase && a.containsOnlyPhaseArtifacts phase then .ok ()
  else if a.hasRequired phase then .error (.unexpectedEvidence phase)
  else .error (.missingRequiredEvidence phase)

end PhaseArtifacts

/-! ### Operations -/

structure InstalledPolicyIdentity where
  digest : EvidenceDigest
  version : Nat
deriving DecidableEq

structure AuthorizedPhaseSpecDigestV1 where
  branch : ExecutorPhaseBranch
  phase : OperationPhase
  specDigest : EvidenceDigest

/-- `OperationEvidence` without the log of its transitions. -/
structure OperationEvidence extends PhaseEvidence where
  authorizedPhaseSpecDigests : List AuthorizedPhaseSpecDigestV1 := []
  installedPolicy : Option InstalledPolicyIdentity := none
  sourceAttestationDigest : Option EvidenceDigest := none
  sourceSequence : Option Nat := none
  rollbackHealthEvidenceDigest : Option EvidenceDigest := none
  actionGrantDigest : Option EvidenceDigest := none
  fenceAcquisitionReceiptDigest : Option EvidenceDigest := none
  recoveryMode : Option OperationRecoveryMode := none

inductive AutomationSource where
  | githubWebhook
  | sourceReconciliation
  | directPush

inductive OperationActor where
  | interactive (userId : Uuid)
  | automation (source : AutomationSource)

/-- `OperationState` without the reason of a block. -/
structure OperationState where
  phase : OperationPhase
  result : OperationResult

structure OperationRecord where
  requestId : Uuid
  attemptId : Uuid
  projectId : ProjectId
  operationKind : OperationKind
  targetCommit : Option GitCommitId
  releaseClass : Option ReleaseClass
  state : OperationState
  actor : OperationActor
  evidence : OperationEvidence

/-- `PhaseIntentPayloadV1`; its evidence fields are those of the operation. -/
structure PhaseIntentPayloadV1 where
  attemptId : Uuid
  requestId : Uuid
  projectId : ProjectId
  operationKind : OperationKind
  releaseClass : Option ReleaseClass
  targetCommit : Option GitCommitId
  phase : OperationPhase
  branch : ExecutorPhaseBranch
  executorAuthorizationDigest : EvidenceDigest
  evidence : OperationEvidence

structure AuthorizedOperationV1 where
  attemptId : Uuid
  requestId : Uuid
  projectId : ProjectId
  operationKind : OperationKind
  targetCommit : Option GitCommitId
  releaseClass : Option ReleaseClass
  installedPolicy : Option InstalledPolicyIdentity
  actor : OperationActor
  actionGrantDigest : Option EvidenceDigest
  sourceAttestationDigest : Option EvidenceDigest
  sourceSequence : Option Nat

/-! ### Receipts, specifications and reservations -/

/-- A `PhaseReceipt` without its digest: the payload of the digest. -/
structure PhaseReceiptBody where
  attemptId : Uuid
  phase : OperationPhase
  branch : ExecutorPhaseBranch
  intentDigest : EvidenceDigest
  observationDigest : EvidenceDigest
  artifacts : PhaseArtifacts
  committedAtMs : Int

structure PhaseReceipt extends PhaseReceiptBody where
  receiptDigest : EvidenceDigest

inductive BackupSnapshotKindV1 where
  | base
  | cutover
deriving DecidableEq

/-- The fields of `AuthorizedBackupSpecV1` that the store compares, and its digest, which
covers the others. -/
structure AuthorizedBackupSpecV1 where
  attemptId : Uuid
  projectId : ProjectId
  installedPolicy : InstalledPolicyIdentity
  installedRimgPolicyDigest : EvidenceDigest
  phaseIntentDigest : EvidenceDigest
  backupSetId : Uuid
  backupId : Uuid
  snapshotKind : BackupSnapshotKindV1
  fencingEpoch : Option Nat
  specDigest : EvidenceDigest
deriving DecidableEq

inductive RuntimeReleaseStateV1 where
  | neverInstalled
  | installed (currentReleaseBundleDigest : EvidenceDigest)
deriving DecidableEq

/-- The fields of `AuthorizedPhaseSpecV1` that the store reads. -/
structure AuthorizedPhaseSpecV1 where
  attemptId : Uuid
  projectId : ProjectId
  operationKind : OperationKind
  phase : OperationPhase
  branch : ExecutorPhaseBranch
  intentDigest : EvidenceDigest
  installedPolicy : InstalledPolicyIdentity
  installedRimgPolicyDigest : EvidenceDigest
  effectiveReleaseClass : Option ReleaseClass
  backup : Option AuthorizedBackupSpecV1
  verifiedBaseBackupChainDigest : Option EvidenceDigest
  verifiedCutoverBackupChainDigest : Option EvidenceDigest
  prerequisitesValidThroughMs : Option Int
  fencingEpoch : Option Nat
  fenceReceiptDigest : Option EvidenceDigest
  mutationGrantId : Option Uuid
  mutationGrantDigest : Option EvidenceDigest
  runtimeReleaseState : Option RuntimeReleaseStateV1
  expectedObservationArtifacts : PhaseArtifacts
  specDigest : EvidenceDigest

/-- What the store reads of a `VerifiedBackupChainV1`. -/
structure VerifiedBackupChainV1 where
  snapshotKind : BackupSnapshotKindV1
  authorizedSpec : AuthorizedBackupSpecV1
  manifestDigest : EvidenceDigest
  localEvidenceDigest : EvidenceDigest
  offsiteEvidenceDigest : Option EvidenceDigest
  chainDigest : EvidenceDigest

/-- An `AuthorizedDiskReservation` without its digest: the payload of the digest. -/
structure DiskReservationBody where
  operationDigest : EvidenceDigest
  requiredBytes : Nat
  availableBytes : Nat
  emergencyReserveBytes : Nat
  filesystemIdentity : EvidenceDigest
  observedAtMs : Int
deriving DecidableEq

structure AuthorizedDiskReservation extends DiskReservationBody where
  reservationDigest : EvidenceDigest
deriving DecidableEq

def AuthorizedDiskReservation.operationBytes (claim : AuthorizedDiskReservation) : Option Nat :=
  if claim.emergencyReserveBytes ≤ claim.requiredBytes then
    some (claim.requiredBytes - claim.emergencyReserveBytes)
  else none

structure DiskAvailabilityObservation where
  filesystemIdentity : EvidenceDigest
  availableBytes : Nat
  observedAtMs : Int

def diskObservationMaxAgeMs : Int := 30000

structure FenceLeaseDigestPayload where
  journalId : Nat
  projectId : ProjectId
  attemptId : Uuid
  epoch : Nat
  token : Uuid
  createdAtMs : Int

structure FenceAcquisitionReceiptDigestPayload where
  projectId : ProjectId
  attemptId : Uuid
  epoch : Nat
  leaseDigest : EvidenceDigest
  acquiredAtMs : Int

/-! ### Encodings -/

/-- Everything the executor and the security store hash.  Each constructor stands for one
`purpose` that the program puts in front of the payload; a `document` is hashed as it is. -/
inductive SecurityPayload where
  | phaseIntent (payload : PhaseIntentPayloadV1)
  | authorizedOperation (payload : AuthorizedOperationV1)
  | phaseReceipt (body : PhaseReceiptBody)
  | resourceReservation (body : DiskReservationBody)
  | fenceLease (payload : FenceLeaseDigestPayload)
  | fenceAcquisitionReceipt (payload : FenceAcquisitionReceiptDigestPayload)
  | document (bytes : List UInt8)

/-- The hash function, and the canonical encodings of the documents that the store keeps as
bytes. -/
structure Codec where
  sha256 : SecurityPayload → EvidenceDigest
  /-- `AuthorizedPhaseSpecV1::decode_canonical`. -/
  decodeSpec : List UInt8 → Option AuthorizedPhaseSpecV1
  /-- `VerifiedBackupChainV1::decode_canonical`. -/
  decodeChain : List UInt8 → Option VerifiedBackupChainV1
  /-- `VerifiedBackupChainV1::canonical_bytes`. -/
  encodeChain : VerifiedBackupChainV1 → Option (List UInt8)
  /-- `VerifiedBackupChainV1::require_verified`. -/
  chainVerified : VerifiedBackupChainV1 → Bool

variable (codec : Codec)

def PhaseReceipt.new (body : PhaseReceiptBody) : PhaseReceipt :=
  { body with receiptDigest := codec.sha256 (.phaseReceipt body) }

def PhaseReceipt.hasValidDigest (receipt : PhaseReceipt) : Bool :=
  receipt.receiptDigest = codec.sha256 (.phaseReceipt receipt.toPhaseReceiptBody)

def AuthorizedDiskReservation.hasValidReservationDigest (claim : AuthorizedDiskReservation) : Bool :=
  claim.reservationDigest = codec.sha256 (.resourceReservation claim.toDiskReservationBody)

def observedArtifactsMatchExpected (expected observed : PhaseArtifacts) : Bool :=
  expected.buildContextDigest.all (observed.buildContextDigest = some ·) &&
  (expected.baseImageDigests.isEmpty || observed.baseImageDigests = expected.baseImageDigests) &&
  expected.resourceReservationDigest.all (observed.resourceReservationDigest = some ·) &&
  expected.sourceGateProofDigest.all (observed.sourceGateProofDigest = some ·) &&
  expected.backupSetId.all (observed.backupSetId = some ·) &&
  expected.fencingEpoch.all (observed.fencingEpoch = some ·) &&
  expected.deploymentPlanDigest.all (observed.deploymentPlanDigest = some ·) &&
  expected.releaseBundleDigest.all (observed.releaseBundleDigest = some ·) &&
  expected.schemaVersion.all (observed.schemaVersion = some ·) &&
  observed.previousReleaseBundleDigest = expected.previousReleaseBundleDigest

/-- `AuthorizedPhaseSpecV1::validate_observed_artifacts`, of a specification that decoded: its
digest is valid. -/
def AuthorizedPhaseSpecV1.validateObservedArtifacts (spec : AuthorizedPhaseSpecV1)
    (artifacts : PhaseArtifacts) : Bool :=
  isOk (artifacts.validateForPhase spec.phase) &&
    observedArtifactsMatchExpected spec.expectedObservationArtifacts artifacts

end Rdashboard
