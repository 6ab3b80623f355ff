import Rdashboard.Workflow.Manifest

/-! # Workflow documents

Leases and receipts are documents whose last field is the SHA-256 digest of all the others.
A document type is written here as its body plus that digest, so that the digested payload
is the body itself.  The hash function is a parameter `sha256` of everything that computes a
digest: it is applied to the payload, which the program encodes canonically before hashing.

The document columns of the journal hold canonical text that the store wrote after a
successful `validate`; `ValidLease` and its companions are what such text decodes to. -/

namespace Rdashboard

open Check

/-! ### Payloads -/

structure WorkflowSourceIdentityV1 where
  sequence : Nat
  attestationDigest : EvidenceDigest
deriving DecidableEq

structure WorkflowLeaseInputV1 where
  nodeId : WorkflowNodeId
  artifactKind : WorkflowArtifactKindV1
  outputDigest : EvidenceDigest
deriving DecidableEq

/-- The derived order of lease inputs: node, then artifact kind, then digest. -/
instance : LT WorkflowLeaseInputV1 where
  lt a b := a.nodeId < b.nodeId ∨ (a.nodeId = b.nodeId ∧
    (a.artifactKind < b.artifactKind ∨ (a.artifactKind = b.artifactKind ∧
      a.outputDigest < b.outputDigest)))

instance : DecidableLT WorkflowLeaseInputV1 := fun a b =>
  inferInstanceAs (Decidable (a.nodeId < b.nodeId ∨ (a.nodeId = b.nodeId ∧
    (a.artifactKind < b.artifactKind ∨ (a.artifactKind = b.artifactKind ∧
      a.outputDigest < b.outputDigest)))))

structure WorkflowOperationStateV1 where
  schemaVersion : Nat
  stateKey : EvidenceDigest
  consumerNodes : List WorkflowNodeId
  maxBytes : Nat
  maxInodes : Nat
deriving DecidableEq

/-- Whom an operation state belongs to: the attempt and what it runs, and the worker that
keeps the state. -/
structure OperationStateSubject where
  attemptId : Uuid
  projectId : ProjectId
  sourceSha : GitCommitId
  workflowPolicyDigest : EvidenceDigest
  preparationKey : EvidenceDigest
  workerId : String
  hostId : String

structure WorkflowOperationStateKeyPayload where
  subject : OperationStateSubject
  schemaVersion : Nat
  consumerNodes : List WorkflowNodeId
  maxBytes : Nat
  maxInodes : Nat

structure WorkflowLeaseBodyV1 where
  schemaVersion : Nat
  leaseId : Uuid
  leaseGeneration : Nat
  requestId : Uuid
  attemptId : Uuid
  projectId : ProjectId
  sourceSha : GitCommitId
  sourceIdentity : Option WorkflowSourceIdentityV1
  workflowPolicyDigest : EvidenceDigest
  preparationKey : EvidenceDigest
  nodeId : WorkflowNodeId
  nodeKind : WorkflowNodeKindV1
  profileId : WorkflowProfileId
  adapterId : WorkflowAdapterIdV1
  workerPool : WorkflowWorkerPoolV1
  networkClass : WorkflowNetworkClassV1
  cacheClass : WorkflowCacheClassV1
  timeoutMs : Nat
  resources : Option WorkflowResourceEnvelopeV1
  hostPreparation : Option WorkflowHostPreparationPolicyV1
  operationState : Option WorkflowOperationStateV1
  inputContracts : List WorkflowArtifactKindV1
  inputArtifacts : List WorkflowLeaseInputV1
  outputContract : WorkflowArtifactKindV1
  expectedInputDigest : EvidenceDigest
  workerId : String
  hostId : String
  leasedAtMs : Int
  expiresAtMs : Int
deriving DecidableEq

structure WorkflowLeaseV1 extends WorkflowLeaseBodyV1 where
  leaseDigest : EvidenceDigest
deriving DecidableEq

inductive WorkflowNodeOutcomeV1 where
  | succeeded
  | failed
deriving DecidableEq

inductive WorkflowCleanupResultV1 where
  | complete
  | pending
deriving DecidableEq

structure WorkflowNodeReceiptBodyV1 where
  schemaVersion : Nat
  leaseDigest : EvidenceDigest
  leaseId : Uuid
  leaseGeneration : Nat
  requestId : Uuid
  attemptId : Uuid
  projectId : ProjectId
  sourceSha : GitCommitId
  workflowPolicyDigest : EvidenceDigest
  preparationKey : EvidenceDigest
  nodeId : WorkflowNodeId
  nodeKind : WorkflowNodeKindV1
  workerId : String
  hostId : String
  expectedInputDigest : EvidenceDigest
  outcome : WorkflowNodeOutcomeV1
  outputDigest : Option EvidenceDigest
  outputSizeBytes : Option Nat
  executionReceiptDigest : EvidenceDigest
  cleanupReceiptDigest : EvidenceDigest
  cleanupResult : WorkflowCleanupResultV1
  completedAtMs : Int
deriving DecidableEq

structure WorkflowNodeReceiptV1 extends WorkflowNodeReceiptBodyV1 where
  receiptDigest : EvidenceDigest
deriving DecidableEq

structure WorkflowCleanupReceiptBodyV1 where
  schemaVersion : Nat
  leaseDigest : EvidenceDigest
  leaseId : Uuid
  leaseGeneration : Nat
  attemptId : Uuid
  projectId : ProjectId
  nodeId : WorkflowNodeId
  workerId : String
  hostId : String
  terminalReceiptDigest : Option EvidenceDigest
  cleanupEvidenceDigest : EvidenceDigest
  completedAtMs : Int
deriving DecidableEq

structure WorkflowCleanupReceiptV1 extends WorkflowCleanupReceiptBodyV1 where
  receiptDigest : EvidenceDigest
deriving DecidableEq

structure WorkflowReductionInputV1 where
  nodeId : WorkflowNodeId
  nodeKind : WorkflowNodeKindV1
  receiptDigest : EvidenceDigest
  outputDigest : EvidenceDigest
deriving DecidableEq

structure WorkflowReductionReceiptBodyV1 where
  schemaVersion : Nat
  requestId : Uuid
  attemptId : Uuid
  projectId : ProjectId
  sourceSha : GitCommitId
  workflowPolicyDigest : EvidenceDigest
  preparationKey : EvidenceDigest
  reduceNodeId : WorkflowNodeId
  inputs : List WorkflowReductionInputV1
  reducedAtMs : Int

structure WorkflowReductionReceiptV1 extends WorkflowReductionReceiptBodyV1 where
  receiptDigest : EvidenceDigest

structure PreparationKeyPayload where
  projectId : ProjectId
  sourceSha : GitCommitId
  workflowPolicyDigest : EvidenceDigest

structure ExpectedInputPayload where
  projectId : ProjectId
  sourceSha : GitCommitId
  workflowPolicyDigest : EvidenceDigest
  preparationKey : EvidenceDigest
  nodeId : WorkflowNodeId
  dependencies : List WorkflowLeaseInputV1

/-- Everything the workflow code hashes.  Each constructor stands for one value of the
`purpose` field that the program puts in front of the payload. -/
inductive DigestPayload where
  | projectWorkflowPolicy (manifest : ProjectManifestV2)
  | preparedRunKey (payload : PreparationKeyPayload)
  | operationState (payload : WorkflowOperationStateKeyPayload)
  | lease (body : WorkflowLeaseBodyV1)
  | nodeInput (payload : ExpectedInputPayload)
  | nodeReceipt (body : WorkflowNodeReceiptBodyV1)
  | cleanupReceipt (body : WorkflowCleanupReceiptBodyV1)
  | reductionReceipt (body : WorkflowReductionReceiptBodyV1)

/-- The hash function, applied to the canonical encoding of a payload. -/
abbrev Sha256 := DigestPayload → EvidenceDigest

variable (sha256 : Sha256)

/-- `ProjectManifestV2::workflow_policy_digest` of a valid manifest. -/
def ProjectManifestV2.workflowPolicyDigest (m : ProjectManifestV2) : EvidenceDigest :=
  sha256 (.projectWorkflowPolicy m)

/-! ### Operation states -/

namespace WorkflowOperationStateV1

def calculateKey (state : WorkflowOperationStateV1) (subject : OperationStateSubject) :
    EvidenceDigest :=
  sha256 (.operationState
    { subject
      schemaVersion := state.schemaVersion
      consumerNodes := state.consumerNodes
      maxBytes := state.maxBytes
      maxInodes := state.maxInodes })

def validateFor (subject : OperationStateSubject) (state : WorkflowOperationStateV1) :
    Except WorkflowContractError Unit :=
  ensure (state.schemaVersion = 1 ∧ subject.attemptId.isNil = false ∧
    validWorkflowIdentity subject.workerId ∧ validWorkflowIdentity subject.hostId ∧
    state.consumerNodes ≠ [] ∧ state.consumerNodes.length ≤ 64 ∧
    strictlySortedUnique state.consumerNodes ∧
    (1024 * 1024 ≤ state.maxBytes ∧ state.maxBytes ≤ 8 * 1024 * 1024 * 1024) ∧
    (1024 ≤ state.maxInodes ∧ state.maxInodes ≤ 1000000) ∧
    state.stateKey = state.calculateKey sha256 subject) .invalidOperationState

def new (subject : OperationStateSubject) (consumerNodes : List WorkflowNodeId)
    (maxBytes maxInodes : Nat) : Except WorkflowContractError WorkflowOperationStateV1 := do
  let blank : WorkflowOperationStateV1 :=
    { schemaVersion := 1, stateKey := 0, consumerNodes := sortIds consumerNodes, maxBytes, maxInodes }
  let state := { blank with stateKey := blank.calculateKey sha256 subject }
  state.validateFor sha256 subject
  .ok state

end WorkflowOperationStateV1

/-! ### Leases -/

namespace WorkflowLeaseBodyV1

/-- The profile a lease was granted under. -/
def profile (lease : WorkflowLeaseBodyV1) : WorkflowExecutionProfileV1 where
  profileId := lease.profileId
  adapterId := lease.adapterId
  workerPool := lease.workerPool
  networkClass := lease.networkClass
  cacheClass := lease.cacheClass
  timeoutMs := lease.timeoutMs
  resources := lease.resources

/-- The subject of the operation state a lease may carry. -/
def operationStateSubject (lease : WorkflowLeaseBodyV1) : OperationStateSubject where
  attemptId := lease.attemptId
  projectId := lease.projectId
  sourceSha := lease.sourceSha
  workflowPolicyDigest := lease.workflowPolicyDigest
  preparationKey := lease.preparationKey
  workerId := lease.workerId
  hostId := lease.hostId

/-- The host-preparation clause of `WorkflowLeaseV1::validate`. -/
def validHostPreparation (lease : WorkflowLeaseBodyV1) : Bool :=
  lease.hostPreparation.all fun policy =>
    (lease.nodeKind = .hostPrepare || lease.nodeKind = .verification ||
      lease.nodeKind = .releaseBuild) && isOk policy.validate &&
      (lease.nodeKind ≠ .hostPrepare || lease.networkClass = policy.requiredNetworkClass)

/-- The operation-state clause of `WorkflowLeaseV1::validate`. -/
def validOperationState (lease : WorkflowLeaseBodyV1) : Bool :=
  lease.operationState.all fun state =>
    (lease.nodeKind = .verification || lease.nodeKind = .releaseBuild) &&
      lease.cacheClass = .preparedRun && lease.nodeId ∈ state.consumerNodes &&
      isOk (state.validateFor sha256 lease.operationStateSubject)

/-- The clauses of `WorkflowLeaseV1::validate` on inputs. -/
def validInputs (lease : WorkflowLeaseBodyV1) : Bool :=
  strictlySortedUnique lease.inputContracts && strictlySortedUnique lease.inputArtifacts &&
    strictlySortedUnique (lease.inputArtifacts.map (·.nodeId)) &&
    (lease.inputArtifacts = [] || (lease.inputArtifacts.length = lease.inputContracts.length &&
      sameSet (lease.inputArtifacts.map (·.artifactKind)) lease.inputContracts))

end WorkflowLeaseBodyV1

namespace WorkflowLeaseV1

def calculateDigest (body : WorkflowLeaseBodyV1) : EvidenceDigest := sha256 (.lease body)

def validate (lease : WorkflowLeaseV1) : Except WorkflowContractError Unit :=
  ensure (lease.schemaVersion = 1 ∧ lease.leaseId.isNil = false ∧ lease.requestId.isNil = false ∧
    lease.attemptId.isNil = false ∧ lease.leaseGeneration ≠ 0 ∧ 0 ≤ lease.leasedAtMs ∧
    lease.leasedAtMs < lease.expiresAtMs ∧ validWorkflowIdentity lease.workerId ∧
    validWorkflowIdentity lease.hostId ∧ lease.sourceIdentity.all (·.sequence ≠ 0) ∧
    lease.nodeKind.isControllerManaged = false ∧
    lease.adapterId ∈ lease.nodeKind.expectedAdapter ∧
    lease.nodeKind.expectedPool = lease.workerPool ∧
    profileMatchesKind lease.profile lease.nodeKind ∧ isOk lease.profile.validate ∧
    lease.validHostPreparation ∧ lease.validOperationState sha256 ∧ lease.validInputs ∧
    lease.outputContract = lease.nodeKind.expectedOutput ∧
    lease.leaseDigest = calculateDigest sha256 lease.toWorkflowLeaseBodyV1) .invalidLease

end WorkflowLeaseV1

/-- What a `lease_json` column decodes to. -/
abbrev ValidLease := { lease : WorkflowLeaseV1 // lease.validate sha256 = .ok () }

namespace WorkflowLeaseV1

/-- Seal a lease body with its digest and validate it. -/
def sealed (body : WorkflowLeaseBodyV1) : Except WorkflowContractError (ValidLease sha256) :=
  certify (validate sha256) { body with leaseDigest := calculateDigest sha256 body }

def renewed (lease : WorkflowLeaseV1) (expiresAtMs : Int) :
    Except WorkflowContractError (ValidLease sha256) := do
  ensure (lease.expiresAtMs < expiresAtMs) .invalidLease
  sealed sha256 { lease.toWorkflowLeaseBodyV1 with expiresAtMs }

def withOperationState (lease : WorkflowLeaseV1) (state : WorkflowOperationStateV1) :
    Except WorkflowContractError (ValidLease sha256) :=
  sealed sha256 { lease.toWorkflowLeaseBodyV1 with operationState := some state }

/-- `same_lease_assignment`: the two leases differ at most by renewal. -/
def sameLeaseAssignment (left right : WorkflowLeaseV1) : Bool :=
  { left with expiresAtMs := right.expiresAtMs, leaseDigest := right.leaseDigest } = right

end WorkflowLeaseV1

/-! ### Receipts -/

namespace WorkflowNodeReceiptV1

def calculateDigest (body : WorkflowNodeReceiptBodyV1) : EvidenceDigest :=
  sha256 (.nodeReceipt body)

/-- A success has an output; a failure has neither an output nor its size. -/
def outputMatches (receipt : WorkflowNodeReceiptV1) : Bool :=
  match receipt.outcome with
  | .succeeded => receipt.outputDigest.isSome
  | .failed => receipt.outputDigest.isNone && receipt.outputSizeBytes.isNone

def validate (receipt : WorkflowNodeReceiptV1) : Except WorkflowContractError Unit :=
  ensure (receipt.schemaVersion = 1 ∧ receipt.leaseId.isNil = false ∧
    receipt.requestId.isNil = false ∧ receipt.attemptId.isNil = false ∧
    receipt.leaseGeneration ≠ 0 ∧ 0 ≤ receipt.completedAtMs ∧
    validWorkflowIdentity receipt.workerId ∧ validWorkflowIdentity receipt.hostId ∧
    receipt.outputMatches ∧
    (receipt.outputSizeBytes.all fun size =>
      0 < size && receipt.outcome = .succeeded && receipt.nodeKind = .releaseBuild) ∧
    (receipt.outcome = .succeeded → receipt.cleanupResult = .complete) ∧
    receipt.receiptDigest = calculateDigest sha256 receipt.toWorkflowNodeReceiptBodyV1)
    .invalidNodeReceipt

/-- `receipt_matches_lease`: every field a receipt copies from its lease is the lease's. -/
def matchesLease (receipt : WorkflowNodeReceiptV1) (lease : WorkflowLeaseV1) : Bool :=
  receipt.leaseDigest = lease.leaseDigest && receipt.leaseId = lease.leaseId &&
    receipt.leaseGeneration = lease.leaseGeneration && receipt.requestId = lease.requestId &&
    receipt.attemptId = lease.attemptId && receipt.projectId = lease.projectId &&
    receipt.sourceSha = lease.sourceSha &&
    receipt.workflowPolicyDigest = lease.workflowPolicyDigest &&
    receipt.preparationKey = lease.preparationKey && receipt.nodeId = lease.nodeId &&
    receipt.nodeKind = lease.nodeKind && receipt.workerId = lease.workerId &&
    receipt.hostId = lease.hostId && receipt.expectedInputDigest = lease.expectedInputDigest

end WorkflowNodeReceiptV1

/-- What a `receipt_json` column of the node receipts decodes to. -/
abbrev ValidNodeReceipt := { r : WorkflowNodeReceiptV1 // r.validate sha256 = .ok () }

namespace WorkflowNodeReceiptV1

def new (lease : WorkflowLeaseV1) (outcome : WorkflowNodeOutcomeV1)
    (outputDigest : Option EvidenceDigest) (executionReceiptDigest cleanupReceiptDigest : EvidenceDigest)
    (cleanupResult : WorkflowCleanupResultV1) (completedAtMs : Int) :
    Except WorkflowContractError (ValidNodeReceipt sha256) :=
  let body : WorkflowNodeReceiptBodyV1 :=
    { schemaVersion := 1
      leaseDigest := lease.leaseDigest
      leaseId := lease.leaseId
      leaseGeneration := lease.leaseGeneration
      requestId := lease.requestId
      attemptId := lease.attemptId
      projectId := lease.projectId
      sourceSha := lease.sourceSha
      workflowPolicyDigest := lease.workflowPolicyDigest
      preparationKey := lease.preparationKey
      nodeId := lease.nodeId
      nodeKind := lease.nodeKind
      workerId := lease.workerId
      hostId := lease.hostId
      expectedInputDigest := lease.expectedInputDigest
      outcome, outputDigest, outputSizeBytes := none
      executionReceiptDigest, cleanupReceiptDigest, cleanupResult, completedAtMs }
  certify (validate sha256) { body with receiptDigest := calculateDigest sha256 body }

end WorkflowNodeReceiptV1

namespace WorkflowCleanupReceiptV1

def calculateDigest (body : WorkflowCleanupReceiptBodyV1) : EvidenceDigest :=
  sha256 (.cleanupReceipt body)

def validate (receipt : WorkflowCleanupReceiptV1) : Except WorkflowContractError Unit :=
  ensure (receipt.schemaVersion = 1 ∧ receipt.leaseId.isNil = false ∧
    receipt.attemptId.isNil = false ∧ receipt.leaseGeneration ≠ 0 ∧
    0 ≤ receipt.completedAtMs ∧ validWorkflowIdentity receipt.workerId ∧
    validWorkflowIdentity receipt.hostId ∧
    receipt.receiptDigest = calculateDigest sha256 receipt.toWorkflowCleanupReceiptBodyV1)
    .invalidCleanupReceipt

/-- `cleanup_receipt_matches_lease`. -/
def matchesLease (receipt : WorkflowCleanupReceiptV1) (lease : WorkflowLeaseV1) : Bool :=
  receipt.leaseDigest = lease.leaseDigest && receipt.leaseId = lease.leaseId &&
    receipt.leaseGeneration = lease.leaseGeneration && receipt.attemptId = lease.attemptId &&
    receipt.projectId = lease.projectId && receipt.nodeId = lease.nodeId &&
    receipt.workerId = lease.workerId && receipt.hostId = lease.hostId

end WorkflowCleanupReceiptV1

/-- What a `receipt_json` column of the cleanup receipts decodes to. -/
abbrev ValidCleanupReceipt := { r : WorkflowCleanupReceiptV1 // r.validate sha256 = .ok () }

namespace WorkflowReductionReceiptV1

def calculateDigest (body : WorkflowReductionReceiptBodyV1) : EvidenceDigest :=
  sha256 (.reductionReceipt body)

def validate (receipt : WorkflowReductionReceiptV1) : Except WorkflowContractError Unit :=
  ensure (receipt.schemaVersion = 1 ∧ receipt.requestId.isNil = false ∧
    receipt.attemptId.isNil = false ∧ 0 ≤ receipt.reducedAtMs ∧ receipt.inputs ≠ [] ∧
    strictlySortedUnique (receipt.inputs.map (·.nodeId)) ∧
    receipt.receiptDigest = calculateDigest sha256 receipt.toWorkflowReductionReceiptBodyV1)
    .invalidReductionReceipt

end WorkflowReductionReceiptV1

/-- What a `receipt_json` column of the reductions decodes to. -/
abbrev ValidReductionReceipt := { r : WorkflowReductionReceiptV1 // r.validate sha256 = .ok () }

namespace WorkflowReductionReceiptV1

/-- `WorkflowReductionReceiptV1::new`: the inputs are sorted by node. -/
def new (body : WorkflowReductionReceiptBodyV1) :
    Except WorkflowContractError (ValidReductionReceipt sha256) :=
  let sorted :=
    { body with inputs := body.inputs.insertionSort fun a b => a.nodeId ≤ b.nodeId }
  certify (validate sha256) { sorted with receiptDigest := calculateDigest sha256 sorted }

end WorkflowReductionReceiptV1

end Rdashboard
