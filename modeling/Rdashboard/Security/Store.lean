import Rdashboard.Library.Transaction
import Rdashboard.Security.Domain
import Mathlib.Data.List.MinMax

/-! # The security store

The tables of the security store that phase execution reads and writes, with the CHECK,
PRIMARY KEY, UNIQUE and FOREIGN KEY clauses of their schema.  A text column that the program
parses back into an enumeration or a document has that type here; columns that are written and
never read are left out. -/

namespace Rdashboard

open Relational Check

/-! ### Errors -/

/-- The errors of `StoreError` that the security store and its executor raise. -/
inductive SecurityError where
  | constraintViolation
  | queryReturnedNoRows
  | invalidControllerInput (message : String)
  | corruptController (message : String)
  | operationContract
  | securityRecoveryRequired
  | diskObservationUnavailable
  | corruptSecurityJournal (field : String)
  | artifactContract (error : ArtifactContractError)
  | grantExpired
  | executorAuthorizationReplay
  | executorAuthorizationBinding
  | executorAttemptUnauthorized
  | executorPhaseOrder
  | executorPhaseConflict
  | executorPhaseState
  | executorObservationMismatch
  | authorizedPhaseSpecInvalid
  | authorizedPhaseSpecBinding
  | authorizedPhaseSpecConflict
  | authorizedPhaseSpecMissing
  | authorizedPhaseArtifactMismatch
  | verifiedBackupChainInvalid
  | verifiedBackupChainBinding
  | verifiedBackupChainConflict
  | verifiedBackupChainMissing
  | phaseAuthorityExpired
  | mutationGrantReplay
  | bootstrapAlreadyClaimed
  | bootstrapPermitMissing
  | sourceGateProofMismatch
  | sourceTrustRollback
  | sequenceRange
  | diskReservationAuthorizationMissing
  | diskReservationAuthorizationInvalid
  | diskObservationInvalid
  | diskReservationRange
  | diskReservationCapacity (required available : Nat)
  | executionResourceBusy
  | executionResourceOwnership
  | fenceConflict
  | fenceOwnershipMismatch
  | fenceReleaseUnsafe
  | fencePhaseInvalid
deriving DecidableEq

instance : SqlError SecurityError := ⟨.constraintViolation, .queryReturnedNoRows⟩

/-! ### Column types -/

/-- The `phase` column of the phase tables: `phase_name` of a primary phase, or one of the
three `rollback_recovery` texts. -/
structure PhaseKey where
  branch : ExecutorPhaseBranch
  phase : OperationPhase
deriving DecidableEq

def ExecutorPhaseBranch.storageKey (branch : ExecutorPhaseBranch) (phase : OperationPhase) :
    Except SecurityError PhaseKey :=
  match branch, phase with
  | .primary, phase => .ok ⟨.primary, phase⟩
  | .rollbackRecovery, .rollback => .ok ⟨.rollbackRecovery, .rollback⟩
  | .rollbackRecovery, .healthChecking => .ok ⟨.rollbackRecovery, .healthChecking⟩
  | .rollbackRecovery, .soaking => .ok ⟨.rollbackRecovery, .soaking⟩
  | .rollbackRecovery, _ => .error .executorPhaseOrder

theorem ExecutorPhaseBranch.storageKey_ok_iff {branch : ExecutorPhaseBranch}
    {phase : OperationPhase} {key : PhaseKey} : branch.storageKey phase = .ok key ↔
      key = ⟨branch, phase⟩ ∧ (branch = .rollbackRecovery →
        phase = .rollback ∨ phase = .healthChecking ∨ phase = .soaking) := by
  cases branch <;> cases phase <;> simp [storageKey, eq_comm]

inductive PhaseJournalStatus where
  | intentPersisted
  | observed
  | verified
  | committed
  | needsReconcile
deriving DecidableEq

inductive FenceJournalState where
  | acquireIntent
  | held
  | releaseIntent
  | released
  | needsReconcile
deriving DecidableEq

/-- The `state` column of a drain identity. -/
inductive DrainState where
  | reserved
  | promoted
deriving DecidableEq

/-- The `state` column of a backup boundary. -/
inductive BoundaryState where
  | reserved
  | released
deriving DecidableEq

/-- The `state` column of a source gate rejection. -/
inductive RejectionState where
  | abortPending
  | compensated
deriving DecidableEq

/-- The `state` column of a bootstrap claim. -/
inductive BootstrapState where
  | reserved
  | committed
deriving DecidableEq

/-- The `state` column of a resource receipt. -/
inductive ResourceState where
  | acquired
  | released
deriving DecidableEq

inductive ExecutionResource where
  | globalBuild
  | globalHeavyIo
  | globalLocalRegistry
  | projectDeploy (projectId : ProjectId)
deriving DecidableEq

/-- A `resource_key`: that of an execution resource, or `disk_reservation_resource_key`. -/
inductive ResourceKey where
  | resource (resource : ExecutionResource)
  | diskReservation (projectId : ProjectId)
deriving DecidableEq

/-! ### Rows -/

/-- `ExecutorAuthorization`, a row of `executor_authorizations`. -/
structure ExecutorAuthorization where
  authorizationId : Uuid
  digest : EvidenceDigest
  attemptId : Uuid
  projectId : ProjectId
  expiresAtMs : Int
  diskReservation : Option AuthorizedDiskReservation
deriving DecidableEq

/-- `PhaseJournalEntry`, a row of `executor_phase_journal`. -/
structure PhaseJournalEntry where
  attemptId : Uuid
  key : PhaseKey
  projectId : ProjectId
  intentDigest : EvidenceDigest
  observationDigest : Option EvidenceDigest
  artifacts : PhaseArtifacts
  status : PhaseJournalStatus
  updatedAtMs : Int

/-- `RollbackTakeover`, a row of `executor_rollback_takeovers`. -/
structure RollbackTakeover where
  attemptId : Uuid
  projectId : ProjectId
  forwardPhase : OperationPhase
  forwardStatus : PhaseJournalStatus
  forwardIntentDigest : EvidenceDigest
  createdAtMs : Int

/-- A row of `executor_phase_receipts`. -/
structure PhaseReceiptRow where
  attemptId : Uuid
  key : PhaseKey
  receiptDigest : EvidenceDigest
  receipt : PhaseReceipt

/-- `AuthorizedPhaseSpecRecord`, a row of `authorized_phase_specs`. -/
structure AuthorizedPhaseSpecRecord where
  attemptId : Uuid
  key : PhaseKey
  projectId : ProjectId
  intentDigest : EvidenceDigest
  specDigest : EvidenceDigest
  documentDigest : EvidenceDigest
  canonicalJson : List UInt8
  persistedAtMs : Int
deriving DecidableEq

/-- `VerifiedBackupChainRecord`, a row of `verified_backup_chains`. -/
structure VerifiedBackupChainRecord where
  attemptId : Uuid
  key : PhaseKey
  projectId : ProjectId
  authorizedPhaseSpecDigest : EvidenceDigest
  chainDigest : EvidenceDigest
  documentDigest : EvidenceDigest
  canonicalJson : List UInt8
  persistedAtMs : Int
deriving DecidableEq

structure MutationGrantRow where
  grantId : Uuid
  grantDigest : EvidenceDigest
  attemptId : Uuid
  projectId : ProjectId
  key : PhaseKey
  specDigest : EvidenceDigest
  consumedAtMs : Int
deriving DecidableEq

structure BootstrapRow where
  projectId : ProjectId
  attemptId : Uuid
  key : PhaseKey
  specDigest : EvidenceDigest
  state : BootstrapState
  receiptDigest : Option EvidenceDigest
  updatedAtMs : Int

/-- `SourceGateProofRecord`, a row of `source_gate_proofs`; its `phase` column is that of the
primary branch. -/
structure SourceGateProofRecord where
  attemptId : Uuid
  phase : OperationPhase
  proofDigest : EvidenceDigest
  projectId : ProjectId
  sourceSequence : Nat
  attestationDigest : EvidenceDigest
  checkedAtMs : Int
deriving DecidableEq

structure SourceGateRejectionRow where
  attemptId : Uuid
  key : PhaseKey
  projectId : ProjectId
  state : RejectionState
  rejectedAtMs : Int
  compensatedAtMs : Option Int

structure SourceTrustRow where
  projectId : ProjectId
  sourceSequence : Nat
  attestationDigest : EvidenceDigest

structure ResourceRow where
  key : ResourceKey
  ownerAttemptId : Uuid

structure ResourceReceiptRow where
  key : ResourceKey
  ownerAttemptId : Uuid
  state : ResourceState

/-- `ActiveDiskReservation`, a row of `active_disk_reservations`. -/
structure ActiveDiskReservation where
  attemptId : Uuid
  projectId : ProjectId
  requiredBytes : Nat
  emergencyReserveBytes : Nat
  availableBytes : Nat
  filesystemIdentity : EvidenceDigest
  reservationDigest : EvidenceDigest
  observedAtMs : Int

structure DrainIdentityLease where
  journalId : Nat
  projectId : ProjectId
  attemptId : Uuid
  epoch : Nat
  token : Uuid
  createdAtMs : Int
deriving DecidableEq

structure DrainIdentityRow extends DrainIdentityLease where
  state : DrainState
  updatedAtMs : Int
deriving DecidableEq

structure BackupBoundaryLease where
  journalId : Nat
  projectId : ProjectId
  attemptId : Uuid
  epoch : Nat
  token : Uuid
  createdAtMs : Int

structure BackupBoundaryRow extends BackupBoundaryLease where
  state : BoundaryState
  updatedAtMs : Int

/-- `FenceLease`, a row of `fence_journal`. -/
structure FenceLease where
  journalId : Nat
  projectId : ProjectId
  attemptId : Uuid
  epoch : Nat
  token : Uuid
  createdAtMs : Int
  state : FenceJournalState
  releaseSafeReceiptDigest : Option EvidenceDigest
deriving DecidableEq

/-! ### Schemas -/

section Schemas

def authorizationSchema : Schema ExecutorAuthorization where
  check _ := true
  distinct r s := decide (r.authorizationId ≠ s.authorizationId ∧ r.attemptId ≠ s.attemptId)

def PhaseJournalEntry.slot (r : PhaseJournalEntry) : Uuid × PhaseKey := (r.attemptId, r.key)

def phaseSchema : Schema PhaseJournalEntry := .keyed (fun _ => true) PhaseJournalEntry.slot

/-- The phases that a takeover can seal. -/
def takeoverPhases : List OperationPhase := [.deploying, .healthChecking, .soaking]

def takeoverSchema : Schema RollbackTakeover :=
  .keyed (fun r => r.forwardPhase ∈ takeoverPhases &&
      (r.forwardStatus = .committed || r.forwardPhase ≠ .deploying))
    (·.attemptId)

def PhaseReceiptRow.slot (r : PhaseReceiptRow) : Uuid × PhaseKey := (r.attemptId, r.key)

def phaseReceiptSchema : Schema PhaseReceiptRow where
  check _ := true
  distinct r s := decide (r.slot ≠ s.slot ∧ r.receiptDigest ≠ s.receiptDigest)

def AuthorizedPhaseSpecRecord.slot (r : AuthorizedPhaseSpecRecord) : Uuid × PhaseKey :=
  (r.attemptId, r.key)

def specSchema : Schema AuthorizedPhaseSpecRecord :=
  .keyed (fun r => 0 ≤ r.persistedAtMs) AuthorizedPhaseSpecRecord.slot

def VerifiedBackupChainRecord.slot (r : VerifiedBackupChainRecord) : Uuid × PhaseKey :=
  (r.attemptId, r.key)

def chainSchema : Schema VerifiedBackupChainRecord :=
  .keyed (fun r => 0 ≤ r.persistedAtMs) VerifiedBackupChainRecord.slot

def mutationGrantSchema : Schema MutationGrantRow where
  check r := 0 ≤ r.consumedAtMs
  distinct r s := decide (r.grantId ≠ s.grantId ∧ r.grantDigest ≠ s.grantDigest)

def bootstrapSchema : Schema BootstrapRow :=
  .keyed (fun r => r.key = ⟨.primary, .deploying⟩ && 0 ≤ r.updatedAtMs &&
      decide (r.state = .committed ↔ r.receiptDigest.isSome))
    (·.projectId)

def SourceGateProofRecord.slot (r : SourceGateProofRecord) : Uuid × OperationPhase :=
  (r.attemptId, r.phase)

def proofSchema : Schema SourceGateProofRecord :=
  .keyed (fun r => 0 < r.sourceSequence) SourceGateProofRecord.slot

def SourceGateRejectionRow.slot (r : SourceGateRejectionRow) : Uuid × PhaseKey :=
  (r.attemptId, r.key)

def rejectionSchema : Schema SourceGateRejectionRow :=
  .keyed (fun r => 0 ≤ r.rejectedAtMs &&
      decide (r.state = .compensated ↔ r.compensatedAtMs.isSome))
    SourceGateRejectionRow.slot

def sourceTrustSchema : Schema SourceTrustRow :=
  .keyed (fun r => 0 < r.sourceSequence) (·.projectId)

def resourceSchema : Schema ResourceRow := .keyed (fun _ => true) (·.key)

def resourceReceiptSchema : Schema ResourceReceiptRow :=
  .keyed (fun _ => true) fun r => (r.key, r.ownerAttemptId)

def diskSchema : Schema ActiveDiskReservation where
  check r := 0 < r.requiredBytes && 0 < r.emergencyReserveBytes &&
    r.emergencyReserveBytes < r.requiredBytes && r.requiredBytes ≤ r.availableBytes &&
    0 ≤ r.observedAtMs
  distinct r s := decide (r.attemptId ≠ s.attemptId ∧ r.projectId ≠ s.projectId)

def drainSchema : Schema DrainIdentityRow where
  check r := 0 < r.epoch && 0 ≤ r.createdAtMs && 0 ≤ r.updatedAtMs
  distinct r s := decide (r.journalId ≠ s.journalId ∧ r.epoch ≠ s.epoch ∧
    r.attemptId ≠ s.attemptId ∧
    ¬ (r.state = .reserved ∧ s.state = .reserved ∧ r.projectId = s.projectId))

def boundarySchema : Schema BackupBoundaryRow where
  check r := 0 < r.epoch && 0 ≤ r.createdAtMs && 0 ≤ r.updatedAtMs
  distinct r s := decide (r.journalId ≠ s.journalId ∧ r.epoch ≠ s.epoch ∧
    r.attemptId ≠ s.attemptId ∧
    ¬ (r.state = .reserved ∧ s.state = .reserved ∧ r.projectId = s.projectId))

def fenceSchema : Schema FenceLease where
  check r := 0 < r.epoch
  distinct r s := decide (r.journalId ≠ s.journalId ∧
    ¬ (r.state ≠ .released ∧ s.state ≠ .released ∧ r.projectId = s.projectId))

end Schemas

/-- The security store; `fenceEpoch` is the row `fence_epoch` of `security_meta`. -/
structure SecurityStore where
  fenceEpoch : Nat
  authorizations : Table authorizationSchema
  phases : Table phaseSchema
  takeovers : Table takeoverSchema
  receipts : Table phaseReceiptSchema
  specs : Table specSchema
  chains : Table chainSchema
  mutationGrants : Table mutationGrantSchema
  bootstraps : Table bootstrapSchema
  proofs : Table proofSchema
  rejections : Table rejectionSchema
  sourceTrust : Table sourceTrustSchema
  resources : Table resourceSchema
  resourceReceipts : Table resourceReceiptSchema
  disks : Table diskSchema
  drains : Table drainSchema
  boundaries : Table boundarySchema
  fences : Table fenceSchema

/-- A transaction body over the security store. -/
abbrev Secured (α : Type) := Txn SecurityStore SecurityError α

namespace SecurityStore

/-- A new security store. -/
def empty : SecurityStore where
  fenceEpoch := 0
  authorizations := Table.empty
  phases := Table.empty
  takeovers := Table.empty
  receipts := Table.empty
  specs := Table.empty
  chains := Table.empty
  mutationGrants := Table.empty
  bootstraps := Table.empty
  proofs := Table.empty
  rejections := Table.empty
  sourceTrust := Table.empty
  resources := Table.empty
  resourceReceipts := Table.empty
  disks := Table.empty
  drains := Table.empty
  boundaries := Table.empty
  fences := Table.empty

def authorizationsT : TableRef SecurityStore authorizationSchema :=
  ⟨authorizations, fun t S => { S with authorizations := t }⟩

def phasesT : TableRef SecurityStore phaseSchema := ⟨phases, fun t S => { S with phases := t }⟩

def takeoversT : TableRef SecurityStore takeoverSchema :=
  ⟨takeovers, fun t S => { S with takeovers := t }⟩

def receiptsT : TableRef SecurityStore phaseReceiptSchema :=
  ⟨receipts, fun t S => { S with receipts := t }⟩

def specsT : TableRef SecurityStore specSchema := ⟨specs, fun t S => { S with specs := t }⟩

def chainsT : TableRef SecurityStore chainSchema := ⟨chains, fun t S => { S with chains := t }⟩

def mutationGrantsT : TableRef SecurityStore mutationGrantSchema :=
  ⟨mutationGrants, fun t S => { S with mutationGrants := t }⟩

def bootstrapsT : TableRef SecurityStore bootstrapSchema :=
  ⟨bootstraps, fun t S => { S with bootstraps := t }⟩

def proofsT : TableRef SecurityStore proofSchema := ⟨proofs, fun t S => { S with proofs := t }⟩

def rejectionsT : TableRef SecurityStore rejectionSchema :=
  ⟨rejections, fun t S => { S with rejections := t }⟩

def sourceTrustT : TableRef SecurityStore sourceTrustSchema :=
  ⟨sourceTrust, fun t S => { S with sourceTrust := t }⟩

def resourcesT : TableRef SecurityStore resourceSchema :=
  ⟨resources, fun t S => { S with resources := t }⟩

def resourceReceiptsT : TableRef SecurityStore resourceReceiptSchema :=
  ⟨resourceReceipts, fun t S => { S with resourceReceipts := t }⟩

def disksT : TableRef SecurityStore diskSchema := ⟨disks, fun t S => { S with disks := t }⟩

def drainsT : TableRef SecurityStore drainSchema := ⟨drains, fun t S => { S with drains := t }⟩

def boundariesT : TableRef SecurityStore boundarySchema :=
  ⟨boundaries, fun t S => { S with boundaries := t }⟩

def fencesT : TableRef SecurityStore fenceSchema := ⟨fences, fun t S => { S with fences := t }⟩

/-! ### Reads -/

section Reads

variable (S : SecurityStore) (attemptId : Uuid) (key : PhaseKey) (projectId : ProjectId)

/-- The authorization of an attempt (`attempt_id` is UNIQUE). -/
def authorization : Option ExecutorAuthorization :=
  S.authorizations.lookup (·.attemptId) attemptId

def loadPhaseEntry : Option PhaseJournalEntry :=
  S.phases.lookup PhaseJournalEntry.slot (attemptId, key)

def takeover : Option RollbackTakeover :=
  S.takeovers.lookup (·.attemptId) attemptId

/-- Does the journal still hold the entry that a takeover sealed? -/
def sealIntact (takeover : RollbackTakeover) : Bool :=
  (S.loadPhaseEntry takeover.attemptId ⟨.primary, takeover.forwardPhase⟩).any fun entry =>
    entry.projectId = takeover.projectId && entry.status = takeover.forwardStatus &&
      entry.intentDigest = takeover.forwardIntentDigest

def loadRollbackTakeover : Except SecurityError (Option RollbackTakeover) :=
  match S.takeover attemptId with
  | none => .ok none
  | some takeover => do
    ensure (S.sealIntact takeover)
      (.corruptSecurityJournal "rollback takeover journal binding")
    ensure (takeover.forwardPhase ∈ takeoverPhases)
      (.corruptSecurityJournal "rollback takeover forward phase")
    ensure (takeover.forwardStatus = .committed ∨ takeover.forwardPhase ≠ .deploying)
      (.corruptSecurityJournal "rollback takeover forward status")
    pure (some takeover)

def requireBranchNotTakenOver (branch : ExecutorPhaseBranch) : Except SecurityError Unit :=
  match branch with
  | .rollbackRecovery => .ok ()
  | .primary => do
    let takeover ← S.loadRollbackTakeover attemptId
    ensure (takeover = none) .executorPhaseOrder

def receiptRow : Option PhaseReceiptRow :=
  S.receipts.lookup PhaseReceiptRow.slot (attemptId, key)

def loadAuthorizedPhaseSpec : Option AuthorizedPhaseSpecRecord :=
  S.specs.lookup AuthorizedPhaseSpecRecord.slot (attemptId, key)

def chainRow : Option VerifiedBackupChainRecord :=
  S.chains.lookup VerifiedBackupChainRecord.slot (attemptId, key)

def rejection : Option SourceGateRejectionRow :=
  S.rejections.lookup SourceGateRejectionRow.slot (attemptId, key)

/-- The proof stored for a phase, as `source_gate_proof` reads it. -/
def proof (phase : OperationPhase) : Option SourceGateProofRecord :=
  S.proofs.lookup SourceGateProofRecord.slot (attemptId, phase)

def resourceOwner (key : ResourceKey) : Option Uuid :=
  (S.resources.lookup (·.key) key).map (·.ownerAttemptId)

def loadActiveFence : Option FenceLease :=
  (S.fences.rows.filter fun r => r.projectId = projectId && r.state ≠ .released).argmax (·.epoch)

def loadLatestFence : Option FenceLease :=
  (S.fences.rows.filter fun r => r.projectId = projectId).argmax (·.epoch)

def loadActiveDrainIdentity : Option DrainIdentityLease :=
  ((S.drains.rows.filter fun r => r.projectId = projectId && r.state = .reserved).argmax
    (·.epoch)).map (·.toDrainIdentityLease)

def loadActiveBackupBoundary : Option BackupBoundaryLease :=
  ((S.boundaries.rows.filter fun r => r.projectId = projectId && r.state = .reserved).argmax
    (·.epoch)).map (·.toBackupBoundaryLease)

def requireAuthorized : Except SecurityError Unit :=
  ensure (S.authorization attemptId).isSome .executorAttemptUnauthorized

def requireAuthorizedForProject (digest : Option EvidenceDigest) : Except SecurityError Unit := do
  let authorization ← require (S.authorization attemptId) .executorAttemptUnauthorized
  ensure (authorization.projectId = projectId ∧
    digest.all (· = authorization.digest)) .executorAuthorizationBinding

def requireResourceKeyOwned (key : ResourceKey) (attemptId : Uuid) : Except SecurityError Unit :=
  ensure (S.resourceOwner key = some attemptId) .executionResourceOwnership

def requireResourceOwned (resource : ExecutionResource) (attemptId : Uuid) :
    Except SecurityError Unit :=
  S.requireResourceKeyOwned (.resource resource) attemptId

end Reads

section Documents

variable (S : SecurityStore) (codec : Codec) (attemptId : Uuid) (key : PhaseKey)

def decodeBoundPhaseReceipt (phase : OperationPhase) (branch : ExecutorPhaseBranch)
    (row : PhaseReceiptRow) : Except SecurityError PhaseReceipt := do
  ensure (row.receipt.attemptId = attemptId ∧ row.receipt.phase = phase ∧
      row.receipt.branch = branch ∧ row.receipt.receiptDigest = row.receiptDigest ∧
      row.receipt.hasValidDigest codec)
    (.corruptSecurityJournal "phase receipt row binding or digest")
  pure row.receipt

def loadPhaseReceipt : Except SecurityError (Option PhaseReceipt) :=
  match S.receiptRow attemptId key with
  | none => .ok none
  | some row => some <$> decodeBoundPhaseReceipt codec attemptId key.phase key.branch row

def loadReleaseSafeReceipt (digest : EvidenceDigest) : Except SecurityError (Option PhaseReceipt) :=
  match S.receipts.rows.find? fun r => r.attemptId = attemptId && r.receiptDigest = digest with
  | none => .ok none
  | some row =>
    match row.key with
    | ⟨.primary, .soaking⟩ | ⟨.rollbackRecovery, .soaking⟩ | ⟨.primary, .rollback⟩ =>
      some <$> decodeBoundPhaseReceipt codec attemptId row.key.phase row.key.branch row
    | _ => .ok none

/-- `release_safe_receipt_exists`, for the digest that a fence carries. -/
def releaseIsSafe (fence : FenceLease) : Except SecurityError Bool :=
  match fence.releaseSafeReceiptDigest with
  | none => .ok false
  | some digest => Option.isSome <$> S.loadReleaseSafeReceipt codec fence.attemptId digest

def requirePhaseReceipt (phase : OperationPhase) : Except SecurityError Unit := do
  let receipt ← S.loadPhaseReceipt codec attemptId ⟨.primary, phase⟩
  ensure receipt.isSome .fencePhaseInvalid

def requireFencePhaseReceipts : Except SecurityError Unit :=
  each (S.requirePhaseReceipt codec attemptId) [.backingUp, .draining]

def loadVerifiedBackupChain : Except SecurityError (Option VerifiedBackupChainRecord) :=
  match S.chainRow attemptId key with
  | none => .ok none
  | some record => do
    let chain ← require (codec.decodeChain record.canonicalJson)
      (.corruptSecurityJournal "verified backup chain document")
    ensure (chain.chainDigest = record.chainDigest ∧
        codec.sha256 (.document record.canonicalJson) = record.documentDigest)
      (.corruptSecurityJournal "verified backup chain row binding")
    pure (some record)

end Documents

end SecurityStore

end Rdashboard
