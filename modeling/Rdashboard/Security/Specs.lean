import Rdashboard.Security.Store

/-! # Authorized phase specifications

A driver binds an authorized specification to a persisted intent, and to a backup phase the
verified chain of its backup.  `validateBoundPhaseSpecArtifact` is what an observation of a
phase with a bound specification has to pass. -/

namespace Rdashboard

open Relational Check Txn Session

namespace SecurityStore

variable (codec : Codec)

/-! ### Documents -/

structure AuthorizedPhaseSpecBinding where
  attemptId : Uuid
  projectId : ProjectId
  phase : OperationPhase
  branch : ExecutorPhaseBranch
  intentDigest : EvidenceDigest
  specDigest : EvidenceDigest
  canonicalJson : List UInt8
  persistedAtMs : Int

/-- The binding that a stored record is checked against. -/
def specBinding (record : AuthorizedPhaseSpecRecord) : AuthorizedPhaseSpecBinding where
  attemptId := record.attemptId
  projectId := record.projectId
  phase := record.key.phase
  branch := record.key.branch
  intentDigest := record.intentDigest
  specDigest := record.specDigest
  canonicalJson := record.canonicalJson
  persistedAtMs := record.persistedAtMs

def decodeAuthorizedPhaseSpecDocument (binding : AuthorizedPhaseSpecBinding) :
    Except SecurityError AuthorizedPhaseSpecV1 := do
  let spec ← require (codec.decodeSpec binding.canonicalJson) .authorizedPhaseSpecInvalid
  ensure (spec.attemptId = binding.attemptId ∧ spec.projectId = binding.projectId ∧
    spec.phase = binding.phase ∧ spec.branch = binding.branch ∧
    spec.intentDigest = binding.intentDigest ∧ spec.specDigest = binding.specDigest)
    .authorizedPhaseSpecBinding
  pure spec

/-! ### What a specification presupposes -/

def leaseDigest (lease : FenceLease) : EvidenceDigest :=
  codec.sha256 (.fenceLease { lease with })

/-- The digest of `fence_receipt_from_lease`. -/
def fenceReceiptDigest (lease : FenceLease) : Except SecurityError EvidenceDigest := do
  ensure (lease.attemptId.isNil = false ∧ lease.epoch ≠ 0 ∧ 0 ≤ lease.createdAtMs)
    (.corruptSecurityJournal "fence acquisition receipt")
  pure (codec.sha256 (.fenceAcquisitionReceipt
    { projectId := lease.projectId, attemptId := lease.attemptId, epoch := lease.epoch
      leaseDigest := leaseDigest codec lease, acquiredAtMs := lease.createdAtMs }))

variable (S : SecurityStore)

variable (spec : AuthorizedPhaseSpecV1) (attemptId : Uuid) (phase : OperationPhase)
  (kind : BackupSnapshotKindV1) (key : PhaseKey)

def loadCommittedBaseBackupChainByDigest (projectId : ProjectId) (chainDigest : EvidenceDigest) :
    Except SecurityError (Option VerifiedBackupChainRecord) :=
  let key : PhaseKey := ⟨.primary, .backingUp⟩
  match S.chains.rows.find? fun r => r.projectId = projectId && r.key = key &&
      r.chainDigest = chainDigest &&
      (S.loadPhaseEntry r.attemptId key).any (·.status = .committed) with
  | none => .ok none
  | some row => do
    let record ← S.loadVerifiedBackupChain codec row.attemptId key
    some <$> require record (.corruptSecurityJournal "verified backup chain lookup")

/-- The record that `require_verified_prerequisite_chain` looks at. -/
def prerequisiteChain (digest : EvidenceDigest) :
    Except SecurityError (Option VerifiedBackupChainRecord) :=
  match kind with
  | .base => S.loadCommittedBaseBackupChainByDigest codec spec.projectId digest
  | .cutover => S.loadVerifiedBackupChain codec spec.attemptId ⟨.primary, phase⟩

def requireVerifiedPrerequisiteChain (digest : EvidenceDigest) : Except SecurityError Unit := do
  let found ← S.prerequisiteChain codec spec phase kind digest
  let record ← require found .verifiedBackupChainMissing
  let chain ← require (codec.decodeChain record.canonicalJson) .verifiedBackupChainInvalid
  ensure (record.projectId = spec.projectId ∧ record.chainDigest = digest ∧
    chain.snapshotKind = kind ∧
    (kind = .cutover → chain.authorizedSpec.attemptId = spec.attemptId) ∧
    chain.authorizedSpec.projectId = spec.projectId ∧
    chain.authorizedSpec.installedPolicy = spec.installedPolicy ∧
    chain.authorizedSpec.installedRimgPolicyDigest = spec.installedRimgPolicyDigest)
    .verifiedBackupChainBinding

/-- `require_verified_prerequisite_chain`, for a digest that a specification may name. -/
def requireNamedChain : Option EvidenceDigest → Except SecurityError Unit
  | none => .ok ()
  | some digest => S.requireVerifiedPrerequisiteChain codec spec phase kind digest

def validateVerifiedPrerequisiteChains : Except SecurityError Unit := do
  S.requireNamedChain codec spec .backingUp .base spec.verifiedBaseBackupChainDigest
  S.requireNamedChain codec spec .cutoverSnapshotting .cutover
    spec.verifiedCutoverBackupChainDigest

def validateActiveFenceForSpec : Except SecurityError Unit :=
  match spec.fencingEpoch, spec.fenceReceiptDigest with
  | none, none => ensure (S.loadActiveFence spec.projectId = none) .fenceConflict
  | some epoch, some expected => do
    let lease ← require (S.loadActiveFence spec.projectId) .fenceOwnershipMismatch
    ensure (lease.attemptId = spec.attemptId ∧ lease.epoch = epoch ∧
      (lease.state = .held ∨ lease.state = .releaseIntent)) .fenceOwnershipMismatch
    let digest ← fenceReceiptDigest codec lease
    ensure (digest = expected) .fenceOwnershipMismatch
  | _, _ => .error .authorizedPhaseSpecBinding

def validateConsumedMutationGrant : Except SecurityError Unit :=
  match spec.mutationGrantId, spec.mutationGrantDigest with
  | some grantId, some grantDigest =>
    ensure (S.mutationGrants.rows.any fun r =>
        r.grantId = grantId && r.grantDigest = grantDigest && r.attemptId = spec.attemptId &&
          r.projectId = spec.projectId && r.key = key && r.specDigest = spec.specDigest)
      .mutationGrantReplay
  | _, _ => .ok ()

def validateBootstrapReservation : Except SecurityError Unit :=
  if spec.runtimeReleaseState = some .neverInstalled then
    ensure (S.bootstraps.rows.any fun r =>
        r.projectId = spec.projectId && r.attemptId = spec.attemptId && r.key = key &&
          r.specDigest = spec.specDigest &&
          decide (r.state = .committed ↔ r.receiptDigest.isSome))
      .bootstrapPermitMissing
  else .ok ()

/-- Are the artifacts of a backup phase those of its verified chain? -/
def artifactsMatchChain (artifacts : PhaseArtifacts) (chain : VerifiedBackupChainV1) :
    BackupSnapshotKindV1 → Bool
  | .base =>
    artifacts.backupSetId = some chain.authorizedSpec.backupSetId &&
    artifacts.baseBackupId = some chain.authorizedSpec.backupId &&
    artifacts.baseBackupManifestDigest = some chain.manifestDigest &&
    artifacts.baseBackupEvidenceDigest = some chain.localEvidenceDigest &&
    artifacts.baseBackupOffsiteEvidenceDigest = chain.offsiteEvidenceDigest &&
    artifacts.baseBackupVerificationDigest = some chain.chainDigest
  | .cutover =>
    artifacts.backupSetId = some chain.authorizedSpec.backupSetId &&
    artifacts.cutoverBackupId = some chain.authorizedSpec.backupId &&
    artifacts.cutoverBackupManifestDigest = some chain.manifestDigest &&
    artifacts.cutoverBackupEvidenceDigest = some chain.localEvidenceDigest &&
    artifacts.cutoverBackupVerificationDigest = some chain.chainDigest &&
    artifacts.fencingEpoch = chain.authorizedSpec.fencingEpoch

/-- The kind of backup that a phase takes. -/
def snapshotKindOf : OperationPhase → Option BackupSnapshotKindV1
  | .backingUp => some .base
  | .cutoverSnapshotting => some .cutover
  | _ => none

/-- The check of a backup phase's artifacts against the chain bound to it. -/
def validateChainArtifacts (record : AuthorizedPhaseSpecRecord) (artifacts : PhaseArtifacts)
    (kind : BackupSnapshotKindV1) : Except SecurityError Unit := do
  let found ← S.loadVerifiedBackupChain codec record.attemptId record.key
  let chainRecord ← require found .verifiedBackupChainMissing
  ensure (chainRecord.authorizedPhaseSpecDigest = record.specDigest)
    .verifiedBackupChainBinding
  let chain ← require (codec.decodeChain chainRecord.canonicalJson)
    .verifiedBackupChainInvalid
  ensure (chain.snapshotKind = kind) .verifiedBackupChainBinding
  ensure (artifactsMatchChain artifacts chain kind) .verifiedBackupChainBinding

/-- The checks of an observation against the specification bound to its phase. -/
def validateBoundSpec (record : AuthorizedPhaseSpecRecord) (artifacts : PhaseArtifacts) :
    Except SecurityError AuthorizedPhaseSpecV1 := do
  let spec ← decodeAuthorizedPhaseSpecDocument codec (specBinding record)
  ensure (spec.validateObservedArtifacts artifacts) .authorizedPhaseArtifactMismatch
  S.validateVerifiedPrerequisiteChains codec spec
  S.validateActiveFenceForSpec codec spec
  S.validateConsumedMutationGrant spec record.key
  S.validateBootstrapReservation spec record.key
  match snapshotKindOf record.key.phase with
  | none => pure spec
  | some kind => do
    S.validateChainArtifacts codec record artifacts kind
    pure spec

def validateBoundPhaseSpecArtifact (artifacts : PhaseArtifacts) :
    Except SecurityError (Option AuthorizedPhaseSpecV1) :=
  match S.loadAuthorizedPhaseSpec attemptId key, artifacts.authorizedPhaseSpecDigest with
  | none, none => .ok none
  | some record, some observed => do
    ensure (record.specDigest = observed) .authorizedPhaseSpecBinding
    some <$> S.validateBoundSpec codec record artifacts
  | some _, none => .error .authorizedPhaseSpecMissing
  | none, some _ => .error .authorizedPhaseSpecBinding

/-! ### Binding -/

/-- `bind_authorized_phase_spec`, inside its transaction. -/
def bindAuthorizedPhaseSpecTransaction (binding : AuthorizedPhaseSpecBinding) (key : PhaseKey) :
    Secured AuthorizedPhaseSpecRecord := do
  query (·.requireBranchNotTakenOver binding.attemptId binding.branch)
  let found ← read (·.loadPhaseEntry binding.attemptId key)
  let entry ← require found .executorPhaseState
  ensure (entry.projectId = binding.projectId ∧ entry.intentDigest = binding.intentDigest ∧
    entry.status = .intentPersisted) .authorizedPhaseSpecBinding
  let record : AuthorizedPhaseSpecRecord :=
    { attemptId := binding.attemptId, key, projectId := binding.projectId
      intentDigest := binding.intentDigest, specDigest := binding.specDigest
      documentDigest := codec.sha256 (.document binding.canonicalJson)
      canonicalJson := binding.canonicalJson, persistedAtMs := binding.persistedAtMs }
  match ← read (·.loadAuthorizedPhaseSpec binding.attemptId key) with
  | some existing => do
    ensure ({ existing with persistedAtMs := binding.persistedAtMs } = record)
      .authorizedPhaseSpecConflict
    pure existing
  | none => do
    specsT.insert (fun S r => (S.loadPhaseEntry r.attemptId r.key).isSome) record
    pure record

def bindAuthorizedPhaseSpec (binding : AuthorizedPhaseSpecBinding) :
    Session SecurityStore SecurityError AuthorizedPhaseSpecRecord := do
  ensure (binding.attemptId.isNil = false ∧ 0 ≤ binding.persistedAtMs ∧
    binding.canonicalJson ≠ [] ∧ binding.canonicalJson.length ≤ 256 * 1024)
    .authorizedPhaseSpecInvalid
  let _ ← lift (decodeAuthorizedPhaseSpecDocument codec binding)
  let key ← lift (binding.branch.storageKey binding.phase)
  immediateTransaction (bindAuthorizedPhaseSpecTransaction codec binding key)

structure VerifiedBackupChainBinding where
  attemptId : Uuid
  projectId : ProjectId
  phase : OperationPhase
  branch : ExecutorPhaseBranch
  authorizedPhaseSpecDigest : EvidenceDigest
  chain : VerifiedBackupChainV1
  persistedAtMs : Int

structure PreparedVerifiedBackupChain where
  key : PhaseKey
  canonicalJson : List UInt8
  documentDigest : EvidenceDigest

def maxVerifiedBackupChainDocumentBytes : Nat := 16 * 1024 * 1024

def prepareVerifiedBackupChain (binding : VerifiedBackupChainBinding) :
    Except SecurityError PreparedVerifiedBackupChain := do
  ensure (binding.attemptId.isNil = false ∧ 0 ≤ binding.persistedAtMs)
    .verifiedBackupChainInvalid
  ensure (codec.chainVerified binding.chain) .verifiedBackupChainInvalid
  let kind ← require (snapshotKindOf binding.phase) .verifiedBackupChainBinding
  ensure (binding.chain.snapshotKind = kind ∧
    binding.chain.authorizedSpec.attemptId = binding.attemptId ∧
    binding.chain.authorizedSpec.projectId = binding.projectId) .verifiedBackupChainBinding
  let canonicalJson ← require (codec.encodeChain binding.chain) .verifiedBackupChainInvalid
  ensure (canonicalJson ≠ [] ∧ canonicalJson.length ≤ maxVerifiedBackupChainDocumentBytes)
    .verifiedBackupChainInvalid
  let key ← binding.branch.storageKey binding.phase
  pure { key, canonicalJson, documentDigest := codec.sha256 (.document canonicalJson) }

/-- `bind_verified_backup_chain`, inside its transaction. -/
def bindVerifiedBackupChainTransaction (binding : VerifiedBackupChainBinding)
    (prepared : PreparedVerifiedBackupChain) : Secured VerifiedBackupChainRecord := do
  query (·.requireBranchNotTakenOver binding.attemptId binding.branch)
  let found ← read (·.loadPhaseEntry binding.attemptId prepared.key)
  let entry ← require found .executorPhaseState
  let foundSpec ← read (·.loadAuthorizedPhaseSpec binding.attemptId prepared.key)
  let phaseSpec ← require foundSpec .authorizedPhaseSpecMissing
  let decoded ← require (codec.decodeSpec phaseSpec.canonicalJson) .authorizedPhaseSpecInvalid
  ensure (entry.status = .intentPersisted ∧ entry.projectId = binding.projectId ∧
    phaseSpec.specDigest = binding.authorizedPhaseSpecDigest ∧
    binding.chain.authorizedSpec.phaseIntentDigest = entry.intentDigest ∧
    decoded.backup = some binding.chain.authorizedSpec) .verifiedBackupChainBinding
  let record : VerifiedBackupChainRecord :=
    { attemptId := binding.attemptId, key := prepared.key, projectId := binding.projectId
      authorizedPhaseSpecDigest := binding.authorizedPhaseSpecDigest
      chainDigest := binding.chain.chainDigest, documentDigest := prepared.documentDigest
      canonicalJson := prepared.canonicalJson, persistedAtMs := binding.persistedAtMs }
  match ← query (·.loadVerifiedBackupChain codec binding.attemptId prepared.key) with
  | some existing => do
    ensure ({ existing with persistedAtMs := binding.persistedAtMs } = record)
      .verifiedBackupChainConflict
    pure existing
  | none => do
    chainsT.insert (fun S r => (S.loadAuthorizedPhaseSpec r.attemptId r.key).isSome) record
    pure record

def bindVerifiedBackupChain (binding : VerifiedBackupChainBinding) :
    Session SecurityStore SecurityError VerifiedBackupChainRecord := do
  let prepared ← lift (prepareVerifiedBackupChain codec binding)
  immediateTransaction (bindVerifiedBackupChainTransaction codec binding prepared)

/-! ### Authorization -/

/-- `consume_mutation_grant`, for a specification that carries a grant. -/
def consumeGrant (grant : MutationGrantRow) : Secured Unit := do
  match ← read fun S => S.mutationGrants.lookup (·.grantId) grant.grantId with
  | some existing =>
    ensure ({ existing with consumedAtMs := grant.consumedAtMs } = grant)
      .mutationGrantReplay
  | none => do
    let replayed ← read fun S =>
      S.mutationGrants.rows.any (·.grantDigest = grant.grantDigest)
    ensure (replayed = false) .mutationGrantReplay
    mutationGrantsT.insert (fun S r => (S.loadAuthorizedPhaseSpec r.attemptId r.key).isSome) grant

/-- Use up the grant that the specification names. -/
def consumeMutationGrant (consumedAtMs : Int) : Secured Unit :=
  match spec.mutationGrantId, spec.mutationGrantDigest with
  | some grantId, some grantDigest =>
    consumeGrant
      { grantId, grantDigest, attemptId := spec.attemptId, projectId := spec.projectId, key
        specDigest := spec.specDigest, consumedAtMs }
  | _, _ => pure ()

/-- Reserve the first installation of the project for this attempt. -/
def reserveBootstrap (reservedAtMs : Int) : Secured Unit :=
  if spec.runtimeReleaseState ≠ some .neverInstalled then pure () else do
    ensure (spec.phase = .deploying ∧ key = ⟨.primary, .deploying⟩)
      .authorizedPhaseSpecBinding
    match ← read fun S => S.bootstraps.lookup (·.projectId) spec.projectId with
    | some existing =>
      ensure (existing.attemptId = spec.attemptId ∧ existing.key = key ∧
        existing.specDigest = spec.specDigest) .bootstrapAlreadyClaimed
    | none =>
      bootstrapsT.insert (fun S r => (S.loadAuthorizedPhaseSpec r.attemptId r.key).isSome)
        { projectId := spec.projectId, attemptId := spec.attemptId, key
          specDigest := spec.specDigest, state := .reserved, receiptDigest := none
          updatedAtMs := reservedAtMs }

structure AuthorizedPhasePermitV1 where
  attemptId : Uuid
  projectId : ProjectId
  key : PhaseKey
  intentDigest : EvidenceDigest
  specDigest : EvidenceDigest
  documentDigest : EvidenceDigest

/-- `authorize_bound_phase_spec`, inside its transaction. -/
def authorizeBoundPhaseSpecTransaction (authorizedAtMs : Int) :
    Secured AuthorizedPhasePermitV1 := do
  query (·.requireBranchNotTakenOver attemptId key.branch)
  let found ← read (·.loadPhaseEntry attemptId key)
  let entry ← require found .executorPhaseState
  ensure (entry.status = .intentPersisted) .executorPhaseState
  let foundSpec ← read (·.loadAuthorizedPhaseSpec attemptId key)
  let record ← require foundSpec .authorizedPhaseSpecMissing
  ensure (record.intentDigest = entry.intentDigest ∧ record.projectId = entry.projectId ∧
    codec.sha256 (.document record.canonicalJson) = record.documentDigest)
    .authorizedPhaseSpecBinding
  let spec ← lift (decodeAuthorizedPhaseSpecDocument codec (specBinding record))
  ensure (∀ validThrough ∈ spec.prerequisitesValidThroughMs, authorizedAtMs ≤ validThrough)
    .phaseAuthorityExpired
  query (·.validateVerifiedPrerequisiteChains codec spec)
  query (·.validateActiveFenceForSpec codec spec)
  consumeMutationGrant spec key authorizedAtMs
  reserveBootstrap spec key authorizedAtMs
  pure { attemptId, projectId := record.projectId, key, intentDigest := record.intentDigest
         specDigest := record.specDigest, documentDigest := record.documentDigest }

/-- Permit the effect of a bound specification. -/
def authorizeBoundPhaseSpec (branch : ExecutorPhaseBranch) (authorizedAtMs : Int) :
    Session SecurityStore SecurityError AuthorizedPhasePermitV1 := do
  ensure (0 ≤ authorizedAtMs) .authorizedPhaseSpecInvalid
  let key ← lift (branch.storageKey phase)
  immediateTransaction (authorizeBoundPhaseSpecTransaction codec attemptId key authorizedAtMs)

end SecurityStore

end Rdashboard
