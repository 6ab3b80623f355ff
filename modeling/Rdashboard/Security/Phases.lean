import Rdashboard.Security.Specs

/-! # The phase journal

The operations that move a phase of an attempt from its intent to its receipt, the source gate
that can send it back, and the takeover that seals the primary branch. -/

namespace Rdashboard

open Relational Txn Session Check

namespace SecurityStore

variable (codec : Codec)

variable (S : SecurityStore) (attemptId : Uuid) (projectId : ProjectId) (phase : OperationPhase)
  (branch : ExecutorPhaseBranch) (key : PhaseKey) (committedAtMs : Int)

/-! ### Authorizing an attempt -/

def validateDiskReservationAuthorization (authorization : ExecutorAuthorization) :
    Except SecurityError Unit :=
  match authorization.diskReservation with
  | none => .ok ()
  | some claim =>
    ensure (claim.operationDigest = authorization.digest ∧
      claim.hasValidReservationDigest codec ∧ claim.requiredBytes ≠ 0 ∧
      claim.emergencyReserveBytes ≠ 0 ∧ claim.emergencyReserveBytes < claim.requiredBytes ∧
      claim.requiredBytes ≤ claim.availableBytes ∧ 0 ≤ claim.observedAtMs ∧
      (claim.requiredBytes : Int) ≤ i64Max ∧ (claim.availableBytes : Int) ≤ i64Max ∧
      (claim.emergencyReserveBytes : Int) ≤ i64Max)
      .diskReservationAuthorizationInvalid

/-- `authorize_attempt`, inside its transaction. -/
def authorizeAttemptTransaction (authorization : ExecutorAuthorization) : Secured Unit := do
  match ← read fun S =>
      S.authorizations.lookup (·.authorizationId) authorization.authorizationId with
  | some stored => ensure (stored = authorization) .executorAuthorizationReplay
  | none => do
    let existing ← read (·.authorization authorization.attemptId)
    ensure (existing = none) .executorAuthorizationReplay
    authorizationsT.insert (fun _ _ => true) authorization

def authorizeAttempt (authorization : ExecutorAuthorization) (consumedAtMs : Int) :
    Session SecurityStore SecurityError Unit := do
  ensure (authorization.authorizationId.isNil = false ∧
      authorization.attemptId.isNil = false)
    (.invalidControllerInput "executor authorization identities must not be nil")
  ensure (consumedAtMs < authorization.expiresAtMs) .grantExpired
  lift (validateDiskReservationAuthorization codec authorization)
  immediateTransaction (authorizeAttemptTransaction authorization)

/-! ### The order of the phases -/

structure ExecutorPhasePlan where
  orderedPhases : List OperationPhase
  recoveryRollbackAllowed : Bool

def normalPhaseSets (ordered : List OperationPhase) (phase : OperationPhase) :
    Except SecurityError (List OperationPhase × List OperationPhase) := do
  let position ← require (ordered.idxOf? phase) .executorPhaseOrder
  pure (ordered.take position, ordered.take (position + 1))

/-- The loop over the plan of `require_rollback_recovery_prerequisites`: once a phase is not
committed, no later one is. -/
def committedInOrder (committed : List PhaseKey) : Bool → List OperationPhase → Bool
  | _, [] => true
  | prefixEnded, phase :: rest =>
    if PhaseKey.mk .primary phase ∈ committed then !prefixEnded && committedInOrder committed prefixEnded rest
    else committedInOrder committed true rest

/-- The recovery phases that have to be committed before a recovery phase, and those that may
be. -/
def recoveryPhaseSets : OperationPhase → Option (List OperationPhase × List OperationPhase)
  | .rollback => some ([], [.rollback])
  | .healthChecking => some ([.rollback], [.rollback, .healthChecking])
  | .soaking => some ([.rollback, .healthChecking], [.rollback, .healthChecking, .soaking])
  | _ => none

def requireRollbackRecoveryPrerequisites (plan : ExecutorPhasePlan) (phase : OperationPhase)
    (committed : List PhaseKey) : Except SecurityError Unit := do
  ensure plan.recoveryRollbackAllowed .executorPhaseOrder
  let deployPosition ← require (plan.orderedPhases.idxOf? .deploying) .executorPhaseOrder
  ensure (committedInOrder committed false plan.orderedPhases) .executorPhaseOrder
  ensure ((plan.orderedPhases.take (deployPosition + 1)).all
    fun required => PhaseKey.mk .primary required ∈ committed) .executorPhaseOrder
  let (required, allowed) ← require (recoveryPhaseSets phase) .executorPhaseOrder
  ensure ((∀ phase ∈ required, PhaseKey.mk .rollbackRecovery phase ∈ committed) ∧
    ∀ key ∈ committed, (key.branch = .primary ∧ key.phase ∈ plan.orderedPhases) ∨
      (key.branch = .rollbackRecovery ∧ key.phase ∈ allowed)) .executorPhaseOrder

/-- The committed phases of an attempt. -/
def committedKeys : List PhaseKey :=
  S.phases.select (fun r => r.attemptId = attemptId && r.status = .committed) (·.key)

/-- The phases of an attempt that are not committed. -/
def uncommittedKeys : List PhaseKey :=
  S.phases.select (fun r => r.attemptId = attemptId && r.status ≠ .committed) (·.key)

/-- Is it the turn of the phase, by the receipts that are committed? -/
def requirePhasePrerequisites (plan : ExecutorPhasePlan) : Except SecurityError Unit := do
  ensure (plan.orderedPhases ≠ [] ∧ plan.orderedPhases.Nodup ∧
    .reconciliation ∉ plan.orderedPhases) .executorPhaseOrder
  let takeover ← S.loadRollbackTakeover attemptId
  match branch with
  | .primary => do
    ensure (takeover = none) .executorPhaseOrder
    let (required, allowed) ← normalPhaseSets plan.orderedPhases phase
    ensure ((∀ phase ∈ required, PhaseKey.mk .primary phase ∈ S.committedKeys attemptId) ∧
      ∀ key ∈ S.committedKeys attemptId, key.branch = .primary ∧ key.phase ∈ allowed)
      .executorPhaseOrder
  | .rollbackRecovery => requireRollbackRecoveryPrerequisites plan phase (S.committedKeys attemptId)

/-- The phase that a takeover has sealed, which a recovery phase does not wait for. -/
def ignoredForwardPhase : ExecutorPhaseBranch → Except SecurityError (Option PhaseKey)
  | .primary => .ok none
  | .rollbackRecovery =>
    Option.map (fun takeover => ⟨.primary, takeover.forwardPhase⟩) <$>
      S.loadRollbackTakeover attemptId

/-- Is another phase of the attempt under way? -/
def hasUncommittedPhaseConflict : Except SecurityError Bool := do
  let ignored ← S.ignoredForwardPhase attemptId branch
  pure ((S.uncommittedKeys attemptId).any fun key => some key ≠ ignored)

/-! ### Intents -/

/-- Is this the row of a phase? -/
def isEntry (r : PhaseJournalEntry) : Bool :=
  r.attemptId = attemptId && r.key = key

def markPhaseNeedsReconcile (updatedAtMs : Int) : Secured Unit := do
  let changed ← phasesT.update (fun r => isEntry attemptId key r && r.status ≠ .committed)
    fun r => { r with status := .needsReconcile, updatedAtMs }
  ensure (changed = 1) .executorPhaseState

structure PhaseIntentRequest where
  attemptId : Uuid
  projectId : ProjectId
  phase : OperationPhase
  branch : ExecutorPhaseBranch
  phasePlan : ExecutorPhasePlan
  intentDigest : EvidenceDigest
  authorizationDigest : EvidenceDigest
  startedAtMs : Int

/-- The entry that `begin_phase_intent` inserts. -/
def PhaseIntentRequest.entry (request : PhaseIntentRequest) (key : PhaseKey) : PhaseJournalEntry where
  attemptId := request.attemptId
  key := key
  projectId := request.projectId
  intentDigest := request.intentDigest
  observationDigest := none
  artifacts := PhaseArtifacts.default
  status := .intentPersisted
  updatedAtMs := request.startedAtMs

/-- `begin_phase_intent` for a phase that has an entry: another project or intent makes it
ambiguous. -/
def replayPhaseIntent (request : PhaseIntentRequest) (key : PhaseKey)
    (existing : PhaseJournalEntry) : Secured PhaseJournalEntry :=
  if existing.projectId = request.projectId ∧ existing.intentDigest = request.intentDigest then
    pure existing
  else do
    markPhaseNeedsReconcile request.attemptId key request.startedAtMs
    pure { existing with status := .needsReconcile, updatedAtMs := request.startedAtMs }

/-- `begin_phase_intent`, inside its transaction. -/
def beginPhaseIntentTransaction (request : PhaseIntentRequest) (key : PhaseKey) :
    Secured PhaseJournalEntry := do
  query (·.requireAuthorizedForProject request.attemptId request.projectId
    (some request.authorizationDigest))
  query (·.requirePhasePrerequisites request.attemptId request.phase request.branch
    request.phasePlan)
  match ← read (·.loadPhaseEntry request.attemptId key) with
  | some existing => replayPhaseIntent request key existing
  | none => do
    let conflict ← query (·.hasUncommittedPhaseConflict request.attemptId request.branch)
    ensure (conflict = false) .executorPhaseConflict
    phasesT.insert (fun _ _ => true) (request.entry key)
    pure (request.entry key)

def beginPhaseIntent (request : PhaseIntentRequest) :
    Session SecurityStore SecurityError PhaseJournalEntry := do
  let key ← lift (request.branch.storageKey request.phase)
  immediateTransaction (beginPhaseIntentTransaction request key)

/-! ### The source gate -/

/-- Is the proof behind the source state that the project trusts? -/
def sourceTrustRegressed (proof : SourceGateProofRecord) : Bool :=
  (S.sourceTrust.lookup (·.projectId) proof.projectId).any fun trusted =>
    proof.sourceSequence < trusted.sourceSequence ||
      (trusted.sourceSequence = proof.sourceSequence &&
        trusted.attestationDigest ≠ proof.attestationDigest)

/-- `reject_source_gate_proof`: the rejection is recorded and committed with the error. -/
def rejectSourceGateProof {α : Type} (proof : SourceGateProofRecord) (key : PhaseKey)
    (error : SecurityError) : Secured (Except SecurityError α) := do
  let found ← read (·.loadPhaseEntry proof.attemptId key)
  let entry ← require (found.filter (·.status = .intentPersisted)) .executorPhaseState
  let row : SourceGateRejectionRow :=
    { attemptId := entry.attemptId, key := entry.key, projectId := entry.projectId
      state := .abortPending, rejectedAtMs := proof.checkedAtMs, compensatedAtMs := none }
  match ← read (·.rejection proof.attemptId key) with
  | some _ => do
    let _ ← rejectionsT.update (fun r => r.slot = row.slot) fun _ => row
    markPhaseNeedsReconcile proof.attemptId key proof.checkedAtMs
    pure (.error error)
  | none => do
    rejectionsT.insert (fun S r => (S.loadPhaseEntry r.attemptId r.key).isSome) row
    markPhaseNeedsReconcile proof.attemptId key proof.checkedAtMs
    pure (.error error)

/-- The reason for which `validate_source_gate_proof_admission` rejects a proof. -/
def admissionRejection (entry : PhaseJournalEntry) (proof : SourceGateProofRecord) :
    Option SecurityError :=
  if entry.projectId ≠ proof.projectId then some .sourceGateProofMismatch
  else if proof.sourceSequence = 0 then some .sourceTrustRollback
  else if i64Max < (proof.sourceSequence : Int) then some .sequenceRange
  else if S.sourceTrustRegressed proof then some .sourceTrustRollback
  else none

/-- The upsert of `source_trust_highwater`. -/
def raiseSourceTrust (row : SourceTrustRow) : Secured Unit := do
  match ← read fun S => S.sourceTrust.lookup (·.projectId) row.projectId with
  | none => sourceTrustT.insert (fun _ _ => true) row
  | some _ => do
    let _ ← sourceTrustT.update
      (fun r => r.projectId = row.projectId && r.sourceSequence < row.sourceSequence)
      fun _ => row
    pure ()

/-- Keep the proof of the phase, and raise the trust of its project to it. -/
def persistSourceGateProof (proof : SourceGateProofRecord) (key : PhaseKey) :
    Secured (Except SecurityError Unit) := do
  match ← read (·.proof proof.attemptId proof.phase) with
  | some existing =>
    if { existing with checkedAtMs := proof.checkedAtMs } = proof then pure (.ok ())
    else rejectSourceGateProof proof key .sourceGateProofMismatch
  | none => do
    proofsT.insert (fun S r => (S.loadPhaseEntry r.attemptId ⟨.primary, r.phase⟩).isSome) proof
    raiseSourceTrust
      { projectId := proof.projectId, sourceSequence := proof.sourceSequence
        attestationDigest := proof.attestationDigest }
    pure (.ok ())

/-- `record_source_gate_proof`, inside its transaction. -/
def recordSourceGateProofTransaction (proof : SourceGateProofRecord) (key : PhaseKey) :
    Secured (Except SecurityError Unit) := do
  let found ← read (·.loadPhaseEntry proof.attemptId key)
  let entry ← require found .executorPhaseState
  ensure (entry.status = .intentPersisted) .executorPhaseState
  match ← read (·.admissionRejection entry proof) with
  | some error => rejectSourceGateProof proof key error
  | none => persistSourceGateProof proof key

/-- `record_source_gate_proof`: a rejection is committed before it is returned. -/
def recordSourceGateProof (proof : SourceGateProofRecord) :
    Session SecurityStore SecurityError Unit := do
  let key ← lift (ExecutorPhaseBranch.primary.storageKey proof.phase)
  let outcome ← immediateTransaction (recordSourceGateProofTransaction proof key)
  lift outcome

/-- `compensate_source_gate_rejection`, inside its transaction. -/
def compensateSourceGateRejectionTransaction (intentDigest : EvidenceDigest)
    (compensatedAtMs : Int) : Secured Unit := do
  query (·.requireBranchNotTakenOver attemptId key.branch)
  let found ← read (·.loadPhaseEntry attemptId key)
  let entry ← require found .executorPhaseState
  ensure (entry.projectId = projectId ∧ entry.intentDigest = intentDigest ∧
    entry.status = .needsReconcile ∧ entry.observationDigest = none ∧
    entry.artifacts = PhaseArtifacts.default) .executorPhaseState
  let foundRejection ← read (·.rejection attemptId key)
  let rejection ← require foundRejection .executorPhaseState
  ensure (rejection.projectId = projectId ∧ rejection.state = .abortPending)
    .executorPhaseState
  let receipt ← read (·.receiptRow attemptId key)
  ensure (receipt = none) .executorPhaseState
  let _ ← proofsT.delete fun r => r.attemptId = attemptId && r.phase = key.phase
  let changed ← phasesT.update (fun r => isEntry attemptId key r && r.status = .needsReconcile)
    fun r => { r with status := .intentPersisted, updatedAtMs := compensatedAtMs }
  ensure (changed = 1) .executorPhaseState
  let changed ← rejectionsT.update
    (fun r => r.attemptId = attemptId && r.key = key && r.state = .abortPending)
    fun r => { r with state := .compensated, compensatedAtMs := some compensatedAtMs }
  ensure (changed = 1) .executorPhaseState

/-- Reopen the phase whose source gate proof was rejected. -/
def compensateSourceGateRejection (intentDigest : EvidenceDigest) (compensatedAtMs : Int) :
    Session SecurityStore SecurityError Unit := do
  ensure (0 ≤ compensatedAtMs) .executorPhaseState
  let key ← lift (branch.storageKey phase)
  immediateTransaction
    (compensateSourceGateRejectionTransaction attemptId projectId key intentDigest compensatedAtMs)

/-! ### Observations -/

def loadAuthorizedDiskReservation (attemptId : Uuid) :
    Except SecurityError AuthorizedDiskReservation := do
  let row ← require (S.authorization attemptId) .executorAttemptUnauthorized
  ensure (row.projectId = projectId) .executorAuthorizationBinding
  let claim ← require row.diskReservation .diskReservationAuthorizationMissing
  ensure (claim.operationDigest = row.digest) .diskReservationAuthorizationInvalid
  ensure (claim.hasValidReservationDigest codec) .diskReservationAuthorizationInvalid
  pure claim

def validateArtifactDiskReservation (artifacts : PhaseArtifacts) : Except SecurityError Unit :=
  match artifacts.resourceReservationDigest with
  | none => .ok ()
  | some digest => do
    let claim ← S.loadAuthorizedDiskReservation codec projectId attemptId
    ensure (claim.reservationDigest = digest) .diskReservationAuthorizationInvalid

def boundSpecRequiresSourceGateProof (spec : AuthorizedPhaseSpecV1) (phase : OperationPhase) :
    Bool :=
  spec.operationKind = .deploy &&
    match spec.effectiveReleaseClass with
    | some .codeOnlyCompatible => phase = .deploying
    | some .statefulCompatible | some .statefulBreaking => phase = .backingUp || phase = .draining
    | some .rollback | none => false

/-- The phase whose proof the artifacts of a phase name. -/
def proofPhaseOf : OperationPhase → Option OperationPhase
  | .backingUp | .draining => some .backingUp
  | .deploying => some .deploying
  | _ => none

def validateArtifactSourceGateProof (artifacts : PhaseArtifacts) (required : Bool) :
    Except SecurityError Unit :=
  match proofPhaseOf phase with
  | none => ensure (artifacts.sourceGateProofDigest = none) .sourceGateProofMismatch
  | some proofPhase =>
    let persisted := (S.proof attemptId proofPhase).map (·.proofDigest)
    ensure ((required → persisted.isSome) ∧ persisted = artifacts.sourceGateProofDigest)
      .sourceGateProofMismatch

structure PhaseObservationRequest where
  attemptId : Uuid
  phase : OperationPhase
  branch : ExecutorPhaseBranch
  observedIntentDigest : EvidenceDigest
  observationDigest : EvidenceDigest
  artifacts : PhaseArtifacts
  observedAtMs : Int

inductive ObservationAcceptance where
  | accepted
  | needsReconcile

/-- The observation of another intent makes the phase ambiguous. -/
def recordForeignObservation (request : PhaseObservationRequest) (key : PhaseKey)
    (entry : PhaseJournalEntry) : Secured ObservationAcceptance := do
  ensure (entry.status ≠ .committed) .executorObservationMismatch
  let changed ← phasesT.update
    (fun r => isEntry request.attemptId key r && r.status ≠ .committed)
    fun r => { r with observationDigest := some request.observationDigest
                      artifacts := request.artifacts
                      status := .needsReconcile, updatedAtMs := request.observedAtMs }
  ensure (changed = 1) .executorObservationMismatch
  pure .needsReconcile

/-- What an observation of the phase's own intent has to pass. -/
def validateObservation (request : PhaseObservationRequest) (key : PhaseKey)
    (entry : PhaseJournalEntry) : Except SecurityError Unit := do
  match request.artifacts.validateForPhase request.phase with
  | .ok () => pure ()
  | .error error => throw (.artifactContract error)
  S.validateArtifactDiskReservation codec request.attemptId entry.projectId request.artifacts
  let boundSpec ← S.validateBoundPhaseSpecArtifact codec request.attemptId key request.artifacts
  S.validateArtifactSourceGateProof request.attemptId request.phase request.artifacts
    (boundSpec.any (boundSpecRequiresSourceGateProof · request.phase))

/-- What a valid observation of the phase's own intent does, by the status of the phase. -/
def recordOwnObservation (request : PhaseObservationRequest) (key : PhaseKey)
    (entry : PhaseJournalEntry) : Secured ObservationAcceptance :=
  if entry.status = .intentPersisted then do
    let _ ← phasesT.update (isEntry request.attemptId key)
      fun r => { r with observationDigest := some request.observationDigest
                        artifacts := request.artifacts
                        status := .observed, updatedAtMs := request.observedAtMs }
    pure .accepted
  else if entry.observationDigest = some request.observationDigest ∧
      entry.artifacts = request.artifacts then
    pure .accepted
  else do
    ensure (entry.status ≠ .committed) .executorObservationMismatch
    markPhaseNeedsReconcile request.attemptId key request.observedAtMs
    pure .needsReconcile

/-- `record_phase_observation_in_branch`, inside its transaction. -/
def recordPhaseObservationTransaction (request : PhaseObservationRequest) (key : PhaseKey) :
    Secured ObservationAcceptance := do
  query (·.requireBranchNotTakenOver request.attemptId request.branch)
  let found ← read (·.loadPhaseEntry request.attemptId key)
  let entry ← require found .executorPhaseState
  if entry.status = .needsReconcile then pure .needsReconcile
  else if entry.intentDigest ≠ request.observedIntentDigest then
    recordForeignObservation request key entry
  else do
    query (·.validateObservation codec request key entry)
    recordOwnObservation request key entry

def recordPhaseObservationInBranch (request : PhaseObservationRequest) :
    Session SecurityStore SecurityError ObservationAcceptance := do
  let key ← lift (request.branch.storageKey request.phase)
  immediateTransaction (recordPhaseObservationTransaction codec request key)

/-- `mark_phase_verified_in_branch`, inside its transaction. -/
def markPhaseVerifiedTransaction (verifiedAtMs : Int) : Secured Unit := do
  query (·.requireBranchNotTakenOver attemptId key.branch)
  let found ← read (·.loadPhaseEntry attemptId key)
  let entry ← require found .executorPhaseState
  match entry.status with
  | .observed => do
    let _ ← phasesT.update (isEntry attemptId key)
      fun r => { r with status := .verified, updatedAtMs := verifiedAtMs }
    pure ()
  | .verified | .committed => pure ()
  | .intentPersisted | .needsReconcile => throw .executorPhaseState

def markPhaseVerifiedInBranch (verifiedAtMs : Int) : Session SecurityStore SecurityError Unit := do
  let key ← lift (branch.storageKey phase)
  immediateTransaction (markPhaseVerifiedTransaction attemptId key verifiedAtMs)

/-- `mark_phase_needs_reconcile_in_branch`, inside its transaction. -/
def markPhaseNeedsReconcileTransaction (updatedAtMs : Int) : Secured Unit := do
  query (·.requireBranchNotTakenOver attemptId key.branch)
  markPhaseNeedsReconcile attemptId key updatedAtMs

/-- Stop a phase whose effect is in doubt. -/
def markPhaseNeedsReconcileInBranch (updatedAtMs : Int) :
    Session SecurityStore SecurityError Unit := do
  let key ← lift (branch.storageKey phase)
  immediateTransaction (markPhaseNeedsReconcileTransaction attemptId key updatedAtMs)

/-! ### Receipts -/

/-- The bootstrap claim of a deployment whose project had no release. -/
def commitBootstrapLedger (spec : AuthorizedPhaseSpecV1) (attemptId : Uuid) (key : PhaseKey)
    (receipt : PhaseReceipt) (committedAtMs : Int) : Secured Unit := do
  let found ← read fun S => S.bootstraps.lookup (·.projectId) spec.projectId
  let existing ← require found .bootstrapPermitMissing
  ensure (existing.attemptId = attemptId ∧ existing.key = key ∧
    existing.specDigest = spec.specDigest) .bootstrapAlreadyClaimed
  match existing.state, existing.receiptDigest with
  | .reserved, none => do
    let _ ← bootstrapsT.update (fun r => r.projectId = spec.projectId)
      fun r => { r with state := .committed, receiptDigest := some receipt.receiptDigest
                        updatedAtMs := committedAtMs }
    pure ()
  | .committed, some digest =>
    ensure (digest = receipt.receiptDigest) (.corruptSecurityJournal "bootstrap ledger state")
  | _, _ => throw (.corruptSecurityJournal "bootstrap ledger state")

def commitBootstrapLedgerIfNeeded (receipt : PhaseReceipt) (committedAtMs : Int) :
    Secured Unit := do
  match ← read (·.loadAuthorizedPhaseSpec attemptId key) with
  | none => pure ()
  | some record => do
    let spec ← lift (decodeAuthorizedPhaseSpecDocument codec (specBinding record))
    if spec.runtimeReleaseState = some .neverInstalled then
      commitBootstrapLedger spec attemptId key receipt committedAtMs
    else pure ()

/-- The receipt of a backup releases the boundary it was taken behind. -/
def closeBackupBoundaryIfNeeded : Secured Unit :=
  if key ≠ ⟨.primary, .backingUp⟩ then pure () else do
    match ← read (·.loadAuthorizedPhaseSpec attemptId key) with
    | none => pure ()
    | some _ => do
      let changed ← boundariesT.update
        (fun r => r.attemptId = attemptId && r.state = .reserved)
        fun r => { r with state := .released, updatedAtMs := committedAtMs }
      ensure (changed = 1) (.corruptSecurityJournal "backup boundary receipt closure")

/-- The receipt of a verified entry. -/
def receiptOf (entry : PhaseJournalEntry) (observationDigest : EvidenceDigest)
    (committedAtMs : Int) : PhaseReceipt :=
  PhaseReceipt.new codec
    { attemptId := entry.attemptId, phase := entry.key.phase, branch := entry.key.branch
      intentDigest := entry.intentDigest, observationDigest, artifacts := entry.artifacts
      committedAtMs }

/-- `commit_phase_receipt_in_branch`, for a phase without a receipt. -/
def commitNewReceipt : Secured PhaseReceipt := do
  let found ← read (·.loadPhaseEntry attemptId key)
  let entry ← require found .executorPhaseState
  ensure (entry.status = .verified) .executorPhaseState
  let observationDigest ← require entry.observationDigest
    (.corruptSecurityJournal "verified phase without observation")
  let receipt := receiptOf codec entry observationDigest committedAtMs
  commitBootstrapLedgerIfNeeded codec attemptId key receipt committedAtMs
  closeBackupBoundaryIfNeeded attemptId key committedAtMs
  receiptsT.insert (fun S r => (S.loadPhaseEntry r.attemptId r.key).isSome)
    { attemptId, key, receiptDigest := receipt.receiptDigest, receipt }
  let _ ← phasesT.update (isEntry attemptId key)
    fun r => { r with status := .committed, updatedAtMs := committedAtMs }
  pure receipt

/-- `commit_phase_receipt_in_branch`, inside its transaction. -/
def commitPhaseReceiptTransaction : Secured PhaseReceipt := do
  query (·.requireBranchNotTakenOver attemptId key.branch)
  match ← query (·.loadPhaseReceipt codec attemptId key) with
  | some receipt => pure receipt
  | none => commitNewReceipt codec attemptId key committedAtMs

/-- Commit a verified phase with its receipt. -/
def commitPhaseReceiptInBranch : Session SecurityStore SecurityError PhaseReceipt := do
  let key ← lift (branch.storageKey phase)
  immediateTransaction (commitPhaseReceiptTransaction codec attemptId key committedAtMs)

/-! ### Takeover -/

def requireRollbackFenceAvailable : Except SecurityError Unit :=
  match S.loadActiveFence projectId with
  | some active =>
    ensure (active.attemptId = attemptId ∧ active.state = .held) .fenceReleaseUnsafe
  | none =>
    ensure (¬ ∃ latest ∈ S.loadLatestFence projectId,
      latest.attemptId = attemptId ∧ latest.state = .released) .fenceReleaseUnsafe

/-- The rank of a committed phase in `select_rollback_forward_snapshot`. -/
def takeoverRank : OperationPhase → Nat
  | .deploying => 1
  | .healthChecking => 2
  | .soaking => 3
  | _ => 0

/-- The entry that a takeover seals: the one primary phase under way, or else the last
committed one of the phases that can be sealed. -/
def rollbackForwardEntry : Except SecurityError PhaseJournalEntry :=
  match S.phases.rows.filter fun r =>
      r.attemptId = attemptId && r.status ≠ .committed && r.key.branch = .primary with
  | row :: rest => do
    ensure (rest = [] ∧ row.projectId = projectId ∧
      (row.key.phase = .healthChecking ∨ row.key.phase = .soaking)) .executorPhaseConflict
    pure row
  | [] =>
    require ((S.phases.rows.filter fun r =>
        r.attemptId = attemptId && r.status = .committed && r.key.branch = .primary &&
          r.key.phase ∈ takeoverPhases).argmax fun r => takeoverRank r.key.phase)
      .executorPhaseOrder

/-- The forward phase that a rollback takes over from. -/
def selectRollbackForwardSnapshot : Except SecurityError PhaseJournalEntry := do
  let entry ← S.rollbackForwardEntry attemptId projectId
  ensure (entry.projectId = projectId) .executorAuthorizationBinding
  ensure ((entry.status = .committed ∧ entry.key.phase ∈ takeoverPhases) ∨
    (entry.status ≠ .committed ∧
      (entry.key.phase = .healthChecking ∨ entry.key.phase = .soaking))) .executorPhaseConflict
  pure entry

/-- `begin_rollback_takeover` for an attempt without a takeover. -/
def storeRollbackTakeover (createdAtMs : Int) : Secured RollbackTakeover := do
  let entry ← query (·.selectRollbackForwardSnapshot attemptId projectId)
  takeoversT.insert (fun S r => (S.loadPhaseEntry r.attemptId ⟨.primary, r.forwardPhase⟩).isSome)
    { attemptId, projectId, forwardPhase := entry.key.phase, forwardStatus := entry.status
      forwardIntentDigest := entry.intentDigest, createdAtMs }
  let stored ← query (·.loadRollbackTakeover attemptId)
  require stored (.corruptSecurityJournal "rollback takeover disappeared")

/-- `begin_rollback_takeover`, inside its transaction. -/
def beginRollbackTakeoverTransaction (authorizationDigest : EvidenceDigest) (createdAtMs : Int) :
    Secured RollbackTakeover := do
  query (·.requireAuthorizedForProject attemptId projectId (some authorizationDigest))
  query (·.requireRollbackFenceAvailable attemptId projectId)
  match ← query (·.loadRollbackTakeover attemptId) with
  | some existing => do
    ensure (existing.projectId = projectId)
      (.corruptSecurityJournal "rollback takeover project binding")
    pure existing
  | none => storeRollbackTakeover attemptId projectId createdAtMs

/-- `begin_rollback_takeover`; the program returns the takeover in an `Option` that is always
full. -/
def beginRollbackTakeover (authorizationDigest : EvidenceDigest) (createdAtMs : Int) :
    Session SecurityStore SecurityError RollbackTakeover :=
  immediateTransaction
    (beginRollbackTakeoverTransaction attemptId projectId authorizationDigest createdAtMs)

end SecurityStore

end Rdashboard
