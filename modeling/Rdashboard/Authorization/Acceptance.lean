import Rdashboard.Authorization.Ledger

/-! # Accepted mutations

A consumed intent is an accepted mutation.  The readers of the ledger decode such a row together
with its grant, checking both again, and project the phase journal of the attempt onto a
status. -/

namespace Rdashboard

open Relational Check

structure AcceptedMutationV1 extends IntentOperation where
  intentId : Uuid
  intentDigest : EvidenceDigest
  signedIntent : String
  attemptId : Uuid
  requestId : Uuid
  projectId : ProjectId
  installedPolicyDigest : EvidenceDigest
  intentExpiresAtMs : Int
  actorId : Uuid
  actionGrantRole : ActionGrantRoleV1
  actionGrantNonce : Uuid
  actionGrantDigest : EvidenceDigest
  leaseId : Uuid
  leaseGeneration : Nat
  grantExpiresAtMs : Int
  acceptedAtMs : Int

/-! ### Decoding a row -/

structure AcceptedMutationGrantBinding where
  attemptId : Uuid
  actorId : Uuid
  role : ActionGrantRoleV1
  nonce : Uuid
  digest : EvidenceDigest
  leaseId : Uuid
  leaseGeneration : Nat
  expiresAtMs : Int
  acceptedAtMs : Int

/-- `decode_accepted_grant_binding`; the grant is the row that the LEFT JOIN found. -/
def decodeAcceptedGrantBinding (stored : ExecutorIntentRow) (grant : Option ActionGrantRow) :
    Except IntentStoreError AcceptedMutationGrantBinding := do
  let corrupt : IntentStoreError := .corruptSecurityJournal "accepted mutation binding"
  let attemptId ← require stored.attemptId corrupt
  let acceptedAtMs ← require stored.consumedAtMs corrupt
  let intentNonce ← require stored.actionGrantNonce corrupt
  let intentGrantDigest ← require stored.actionGrantDigest corrupt
  let grant ← require grant corrupt
  ensure (intentNonce = grant.nonce ∧ intentGrantDigest = grant.grantDigest ∧
    attemptId = grant.attemptId ∧ stored.intentId = grant.intentId ∧
    stored.intentDigest = grant.intentDigest ∧ stored.requestId = grant.requestId ∧
    stored.installedPolicyDigest = grant.installedPolicyDigest ∧
    stored.compactToken.utf8ByteSize ≠ 0 ∧ stored.compactToken.utf8ByteSize ≤ 24 * 1024 ∧
    0 ≤ acceptedAtMs ∧ acceptedAtMs < stored.expiresAtMs ∧ acceptedAtMs < grant.expiresAtMs) corrupt
  ensure (attemptId.isNil = false ∧ grant.actorId.isNil = false ∧ grant.nonce.isNil = false ∧
    grant.leaseId.isNil = false ∧ grant.leaseGeneration ≠ 0) corrupt
  pure
    { attemptId, actorId := grant.actorId, role := grant.role, nonce := grant.nonce
      digest := grant.grantDigest, leaseId := grant.leaseId
      leaseGeneration := grant.leaseGeneration, expiresAtMs := grant.expiresAtMs, acceptedAtMs }

/-- The migration identifier that an accepted mutation may carry. -/
def acceptedMigrationId (value : String) : Bool :=
  value.utf8ByteSize ≠ 0 && value.utf8ByteSize ≤ 128 && value.toList.all isAsciiGraphic

/-- `validate_accepted_mutation_shape`. -/
def IntentOperation.validateAcceptedShape (shape : IntentOperation) :
    Except IntentStoreError Unit :=
  ensure (shape.operationKind.requiresCommit = shape.targetCommit.isSome ∧
    (shape.operationKind.requiredPhases shape.effectiveReleaseClass).isSome = true ∧
    shape.proposedValid = true ∧
    shape.sourceAttestationDigest.isSome = shape.sourceSequence.isSome ∧
    shape.sourceAttestationDigest.isSome = shape.operationKind.requiresCommit ∧
    shape.sourceSequence.all (0 < ·) = true ∧
    shape.candidateBindingValid = true ∧
    shape.migrationId.isSome = shape.needsMigration ∧
    shape.migrationId.all acceptedMigrationId = true ∧
    (decide (shape.operationKind = .codeRollback) = shape.previousReleaseBundleDigest.isSome ∨
      shape.operationKind = .deploy))
    (.corruptSecurityJournal "accepted mutation operation binding")

def decodeAcceptedMutation (stored : ExecutorIntentRow) (grant : Option ActionGrantRow) :
    Except IntentStoreError AcceptedMutationV1 := do
  let binding ← decodeAcceptedGrantBinding stored grant
  ensure (stored.intentId.isNil = false ∧ stored.requestId.isNil = false)
    (.corruptSecurityJournal "accepted mutation binding")
  stored.toIntentOperation.validateAcceptedShape
  pure
    { stored.toIntentOperation with
      intentId := stored.intentId
      intentDigest := stored.intentDigest
      signedIntent := stored.compactToken
      attemptId := binding.attemptId
      requestId := stored.requestId
      projectId := stored.projectId
      installedPolicyDigest := stored.installedPolicyDigest
      intentExpiresAtMs := stored.expiresAtMs
      actorId := binding.actorId
      actionGrantRole := binding.role
      actionGrantNonce := binding.nonce
      actionGrantDigest := binding.digest
      leaseId := binding.leaseId
      leaseGeneration := binding.leaseGeneration
      grantExpiresAtMs := binding.expiresAtMs
      acceptedAtMs := binding.acceptedAtMs }

/-! ### Reading the ledger -/

/-- The `consumed_at_ms` of a consumed intent, where it is not NULL. -/
def ExecutorIntentRow.acceptedAtMs (r : ExecutorIntentRow) : Int := r.consumedAtMs.getD 0

/-- `ORDER BY consumed_at_ms ASC, intent_id ASC`. -/
def ExecutorIntentRow.acceptedBefore (r s : ExecutorIntentRow) : Prop :=
  r.acceptedAtMs < s.acceptedAtMs ∨ r.acceptedAtMs = s.acceptedAtMs ∧ r.intentId ≤ s.intentId

instance : DecidableRel ExecutorIntentRow.acceptedBefore :=
  fun _ _ => inferInstanceAs (Decidable (_ ∨ _))

namespace IntentLedger

variable (L : IntentLedger)

/-- The rows of the consumed intents, in the order in which they were accepted. -/
def consumedRows : List ExecutorIntentRow :=
  (L.intents.rows.filter fun r => r.state = .consumed).insertionSort ExecutorIntentRow.acceptedBefore

/-- The row of the grant that a `LEFT JOIN` finds for an intent. -/
def joinedGrant (stored : ExecutorIntentRow) : Option ActionGrantRow :=
  stored.actionGrantNonce.bind L.grant

def acceptedMutations : Except IntentStoreError (List AcceptedMutationV1) :=
  L.consumedRows.mapM fun stored => decodeAcceptedMutation stored (L.joinedGrant stored)

end IntentLedger

/-! ### The status of a mutation -/

inductive MutationExecutionStateV1 where
  | accepted
  | running
  | needsReconcile
  | succeeded
  | rolledBack

structure MutationStatusProjectionV1 where
  completedPhases : List OperationPhase
  currentPhase : OperationPhase
  state : MutationExecutionStateV1
  updatedAtMs : Int

def MutationStatusProjectionV1.new (currentPhase : OperationPhase) (updatedAtMs : Int) :
    MutationStatusProjectionV1 :=
  { completedPhases := [], currentPhase, state := .accepted, updatedAtMs }

namespace MutationStatusProjectionV1

variable (projection : MutationStatusProjectionV1)

/-- The latest time among the projection, the entry and the receipt of a phase. -/
def touch (entry : Option PhaseJournalEntry) (receipt : Option PhaseReceipt) :
    MutationStatusProjectionV1 :=
  { projection with
    updatedAtMs := max (max projection.updatedAtMs
        ((entry.map (·.updatedAtMs)).getD projection.updatedAtMs))
      ((receipt.map (·.committedAtMs)).getD projection.updatedAtMs) }

/-- One phase of `project_mutation_status_branch`: the projection, and whether a gap was found. -/
def phase (phase : OperationPhase) (emptyState : MutationExecutionStateV1) (foundGap : Bool) :
    Option PhaseJournalEntry → Option PhaseReceipt →
      Except SecurityError (Bool × MutationStatusProjectionV1)
  | some entry, some _ =>
    if foundGap = false ∧ entry.status = .committed then
      .ok (false, { projection with
        completedPhases := projection.completedPhases ++ [phase]
        currentPhase := phase
        state := .running })
    else .error .executorPhaseOrder
  | some entry, none =>
    if foundGap = false ∧ entry.status ≠ .committed then
      .ok (true, { projection with
        currentPhase := phase
        state := if entry.status = .needsReconcile then .needsReconcile else .running })
    else .error .executorPhaseOrder
  | none, none =>
    if foundGap = false then
      .ok (true, { projection with
        currentPhase := phase
        state := if projection.completedPhases = [] then emptyState else .running })
    else .ok (true, projection)
  | none, some _ => .error .executorPhaseOrder

end MutationStatusProjectionV1

/-- `project_mutation_status_branch`: the projection, and whether a gap was found. -/
def projectMutationStatusBranch (codec : Codec) (S : SecurityStore) (attemptId : Uuid)
    (branch : ExecutorPhaseBranch) (emptyState : MutationExecutionStateV1) :
    List OperationPhase → Bool → MutationStatusProjectionV1 →
      Except SecurityError (Bool × MutationStatusProjectionV1)
  | [], foundGap, projection => .ok (foundGap, projection)
  | phase :: phases, foundGap, projection => do
    let key ← branch.storageKey phase
    let entry := S.loadPhaseEntry attemptId key
    let receipt ← S.loadPhaseReceipt codec attemptId key
    let (foundGap, projection) ←
      (projection.touch entry receipt).phase phase emptyState foundGap entry receipt
    projectMutationStatusBranch codec S attemptId branch emptyState phases foundGap projection

/-- The phase journal of an attempt, projected onto the plan of its operation. -/
def projectMutationStatus (codec : Codec) (S : SecurityStore) (attemptId : Uuid)
    (phases : List OperationPhase) (acceptedAtMs : Int) :
    Except SecurityError MutationStatusProjectionV1 := do
  -- The plans of all operations are not empty.
  let (primaryGap, projection) ← projectMutationStatusBranch codec S attemptId .primary .accepted
    phases false (.new (phases.headD .queued) acceptedAtMs)
  let takeover ← S.loadRollbackTakeover attemptId
  match takeover with
  | some _ => do
    let (rollbackGap, projection) ← projectMutationStatusBranch codec S attemptId
      .rollbackRecovery .running [.rollback, .healthChecking, .soaking] false projection
    pure (if rollbackGap then projection else { projection with state := .rolledBack })
  | none => pure (if primaryGap then projection else { projection with state := .succeeded })

structure MutationStatusV1 where
  intentId : Uuid
  attemptId : Uuid
  projectId : ProjectId
  operationKind : OperationKind
  targetCommit : Option GitCommitId
  effectiveReleaseClass : Option ReleaseClass
  state : MutationExecutionStateV1
  currentPhase : OperationPhase
  completedPhases : List OperationPhase
  acceptedAtMs : Int
  updatedAtMs : Int

/-- The status of an accepted mutation. -/
def AcceptedMutationV1.status (codec : Codec) (S : SecurityStore) (accepted : AcceptedMutationV1) :
    Except IntentStoreError MutationStatusV1 := do
  let phases ← require (accepted.operationKind.requiredPhases accepted.effectiveReleaseClass)
    .operationContract
  let projection ← (projectMutationStatus codec S accepted.attemptId phases
    accepted.acceptedAtMs).mapError .security
  pure
    { intentId := accepted.intentId
      attemptId := accepted.attemptId
      projectId := accepted.projectId
      operationKind := accepted.operationKind
      targetCommit := accepted.targetCommit
      effectiveReleaseClass := accepted.effectiveReleaseClass
      state := projection.state
      currentPhase := projection.currentPhase
      completedPhases := projection.completedPhases
      acceptedAtMs := accepted.acceptedAtMs
      updatedAtMs := projection.updatedAtMs }

def mutationStatus (codec : Codec) (S : SecurityStore) (L : IntentLedger)
    (intentId attemptId : Uuid) : Except IntentStoreError (Option MutationStatusV1) := do
  ensure (intentId.isNil = false ∧ attemptId.isNil = false)
    (.invalidControllerInput "mutation status identities must not be nil")
  let mutations ← L.acceptedMutations
  match mutations.find? fun accepted =>
      accepted.intentId = intentId && accepted.attemptId = attemptId with
  | none => pure none
  | some accepted => some <$> accepted.status codec S

end Rdashboard
