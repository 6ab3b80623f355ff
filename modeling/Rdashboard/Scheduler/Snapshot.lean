import Rdashboard.Scheduler.Journal

/-! # Reading an attempt back

`loadAttemptContext` joins an attempt with its request and checks that the two still agree;
`loadAttemptSnapshot` also reads the nodes of the attempt and checks them, row by row,
against the manifest they were created from. -/

namespace Rdashboard

open Relational Txn

variable {sha256 : Sha256}

variable (J : Journal sha256) (row : NodeRow) (attemptId : Uuid)

structure AttemptContext where
  requestId : Uuid
  attemptId : Uuid
  attemptNumber : Nat
  projectId : ProjectId
  sourceSha : GitCommitId
  sourceSequence : Nat
  workflowPolicyDigest : EvidenceDigest
  sourceAttestationDigest : EvidenceDigest
  preparationKey : EvidenceDigest
  priority : Nat
  executionMode : WorkflowExecutionModeV1
  attemptState : WorkflowAttemptStateV1
  mutationState : WorkflowMutationStateV1
  cleanupState : WorkflowCleanupStateV1
  createdAtMs : Int
  updatedAtMs : Int
  terminalAtMs : Option Int
  manifest : ValidManifest

/-- The context of an attempt row joined with its request row. -/
def AttemptContext.ofRows (row : AttemptRow) (request : RequestRow) : AttemptContext where
  requestId := request.requestId
  attemptId := row.attemptId
  attemptNumber := row.attemptNumber
  projectId := request.projectId
  sourceSha := request.sourceSha
  sourceSequence := request.sourceSequence
  workflowPolicyDigest := request.workflowPolicyDigest
  sourceAttestationDigest := request.sourceAttestationDigest
  preparationKey := row.preparationKey
  priority := request.priority
  executionMode := request.operationKind
  attemptState := row.state
  mutationState := row.mutationState
  cleanupState := row.cleanupState
  createdAtMs := row.createdAtMs
  updatedAtMs := row.updatedAtMs
  terminalAtMs := row.terminalAtMs
  manifest := request.manifestJson

/-- `read_attempt_context_row`: the attempt joined with its request. -/
def readAttemptContextRow : Workflow sha256 (AttemptRow × RequestRow) := do
  let row ← read fun J => (J.attempt attemptId).bind fun row =>
    (J.request row.requestId).map fun request => (row, request)
  require row (.workflowAttemptNotFound attemptId)

def loadAttemptContext : Workflow sha256 AttemptContext := do
  let (row, request) ← readAttemptContextRow attemptId
  ensure (0 ≤ row.createdAtMs ∧ row.createdAtMs ≤ row.updatedAtMs)
    (.corruptWorkflowJournal "attempt timestamps or kind")
  ensure (request.manifestJson.1.projectId = request.projectId ∧
    request.manifestJson.1.workflowPolicyDigest sha256 = request.workflowPolicyDigest)
    .workflowPolicyMismatch
  ensure (row.preparationKey = sha256 (.preparedRunKey
    { projectId := request.projectId
      sourceSha := request.sourceSha
      workflowPolicyDigest := request.workflowPolicyDigest }))
    (.corruptWorkflowJournal "preparation key binding")
  pure (.ofRows row request)

/-! ### Snapshots -/

structure WorkflowNodeSnapshotV1 where
  nodeId : WorkflowNodeId
  kind : WorkflowNodeKindV1
  profileId : WorkflowProfileId
  workerPool : WorkflowWorkerPoolV1
  state : WorkflowNodeStateV1
  leaseGeneration : Nat
  outputDigest : Option EvidenceDigest
  receiptDigest : Option EvidenceDigest
  startedAtMs : Option Int
  completedAtMs : Option Int
  outputSizeBytes : Option Nat

structure WorkflowAttemptSnapshotV1 where
  context : AttemptContext
  nodes : List WorkflowNodeSnapshotV1

def validatePersistedDependencies (manifestNode : WorkflowNodeV1) : Workflow sha256 Unit := do
  let dependencies ← read fun J => J.dependenciesOf attemptId manifestNode.nodeId
  ensure (dependencies = manifestNode.dependsOn)
    (.corruptWorkflowJournal "node dependency binding")

/-- The receipt of a node row. -/
def Journal.receiptOf : Option (ReceiptRow sha256) :=
  J.nodeReceipt row.attemptId row.nodeId

/-- When the work on a node started: the start of its committed lease, or else of its active
one. -/
def Journal.startedAt : Option Int :=
  let committed := (J.receiptOf row).bind fun receipt => J.lease receipt.leaseId
  let active := J.leases.rows.find? fun l =>
    l.attemptId = row.attemptId && l.nodeId = row.nodeId && l.state = .active
  (committed.or active).map (·.leasedAtMs)

/-- One turn of the loop of `load_attempt_snapshot`. -/
def loadNodeSnapshot (context : AttemptContext) (index : Nat) (manifestNode : WorkflowNodeV1)
    (row : NodeRow) : Workflow sha256 WorkflowNodeSnapshotV1 := do
  let profile ← require (context.manifest.1.workflow.profile manifestNode.profileId)
    (.corruptWorkflowJournal "snapshot profile")
  ensure (row.ordinal = index ∧ row.nodeId = manifestNode.nodeId ∧
    row.nodeKind = manifestNode.kind ∧ row.activation = manifestNode.activation ∧
    row.profileId = manifestNode.profileId ∧ row.workerPool = profile.workerPool)
    (.corruptWorkflowJournal "node manifest binding")
  validatePersistedDependencies context.attemptId manifestNode
  let receipt ← read fun J => J.receiptOf row
  let startedAtMs ← read fun J => J.startedAt row
  pure
    { nodeId := manifestNode.nodeId
      kind := manifestNode.kind
      profileId := manifestNode.profileId
      workerPool := profile.workerPool
      state := row.state
      leaseGeneration := row.leaseGeneration
      outputDigest := row.outputDigest
      receiptDigest := row.receiptDigest
      startedAtMs
      completedAtMs := row.completedAtMs
      outputSizeBytes := receipt.bind (·.receiptJson.1.outputSizeBytes) }

/-- The loop of `load_attempt_snapshot`. -/
def loadNodeSnapshots (context : AttemptContext) :
    Nat → List WorkflowNodeV1 → List NodeRow → Workflow sha256 (List WorkflowNodeSnapshotV1)
  | index, manifestNode :: ordered, row :: rows => do
    let snapshot ← loadNodeSnapshot context index manifestNode row
    let rest ← loadNodeSnapshots context (index + 1) ordered rows
    pure (snapshot :: rest)
  | _, _, _ => pure []

/-- The nodes of an attempt, in the order of their ordinals. -/
def Journal.orderedNodes : List NodeRow :=
  (J.nodes.rows.filter (·.attemptId = attemptId)).insertionSort (·.ordinal ≤ ·.ordinal)

def loadAttemptSnapshot : Workflow sha256 WorkflowAttemptSnapshotV1 := do
  let context ← loadAttemptContext attemptId
  let ordered ← lift (ofContract context.manifest.1.workflow.orderedNodes)
  let rows ← read fun J => J.orderedNodes attemptId
  ensure (rows.length = ordered.length) (.corruptWorkflowJournal "node cardinality")
  let nodes ← loadNodeSnapshots context 0 ordered rows
  pure { context, nodes }

def loadLatestAttemptForRequest (requestId : Uuid) : Workflow sha256 WorkflowAttemptSnapshotV1 := do
  let latest ← read fun J =>
    ((J.attempts.rows.filter (·.requestId = requestId)).insertionSort
      fun a b => b.attemptNumber ≤ a.attemptNumber).head?
  let row ← require latest (.corruptWorkflowJournal "request without attempt")
  loadAttemptSnapshot row.attemptId

/-! ### Cleanup obligations -/

/-- A closed lease whose worker still has to prove that it cleaned up. -/
def Journal.owesCleanup (lease : LeaseRow sha256) : Bool :=
  (J.leaseCleanup lease.leaseId).isNone &&
    (lease.state = .expired || lease.state = .revoked ||
      (lease.state = .committed &&
        (J.leaseReceipt lease.leaseId).any (·.receiptJson.1.cleanupResult = .pending)))

def Journal.unresolvedCleanupCount : Nat :=
  J.leases.count fun l => l.attemptId = attemptId && J.owesCleanup l

end Rdashboard
