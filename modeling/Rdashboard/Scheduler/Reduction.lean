import Rdashboard.Scheduler.Receipts

/-! # Reduction

The controller reduces the receipts of the verifications and of the release build of an
attempt to one receipt.  For a shadow run and for a self-update that completes the attempt;
for a deployment it opens the way to the executor. -/

namespace Rdashboard

open Relational Txn Session Check

variable {sha256 : Sha256}

variable (J : Journal sha256) (context : AttemptContext) (attemptId : Uuid)
  (reduceNode : WorkflowNodeV1) (reducedAtMs : Int)

/-- `ReductionEvidenceRow`: a receipt with its lease and its node. -/
structure ReductionEvidenceRow (sha256 : Sha256) where
  receipt : ReceiptRow sha256
  lease : LeaseRow sha256
  node : NodeRow

/-- `load_reduction_evidence`. -/
def Journal.reductionEvidence (dependencyId : WorkflowNodeId) :
    Option (ReductionEvidenceRow sha256) :=
  (J.nodeReceipt attemptId dependencyId).bind fun receipt =>
    (J.lease receipt.leaseId).bind fun lease =>
      (J.node receipt.attemptId receipt.nodeId).map fun node => { receipt, lease, node }

/-- `validate_reduction_evidence`, with the receipts that earlier dependencies presented. -/
def validReductionEvidence (dependencyId : WorkflowNodeId) (row : ReductionEvidenceRow sha256)
    (receiptDigests : List EvidenceDigest) : Bool :=
  let receipt := row.receipt.receiptJson.1
  let lease := row.lease.leaseJson.1
  row.lease.state = .committed && row.node.state = .succeeded &&
    receipt.outcome = .succeeded && receipt.cleanupResult = .complete &&
    receipt.matchesLease lease && receipt.attemptId = context.attemptId &&
    receipt.nodeId = dependencyId && receipt.projectId = context.projectId &&
    receipt.sourceSha = context.sourceSha &&
    receipt.workflowPolicyDigest = context.workflowPolicyDigest &&
    receipt.preparationKey = context.preparationKey &&
    lease.leasedAtMs ≤ receipt.completedAtMs && receipt.completedAtMs < lease.expiresAtMs &&
    receipt.completedAtMs ≤ row.receipt.committedAtMs &&
    row.receipt.committedAtMs < lease.expiresAtMs &&
    row.node.outputDigest = receipt.outputDigest &&
    row.node.receiptDigest = some receipt.receiptDigest &&
    receipt.receiptDigest ∉ receiptDigests

structure CollectedReductionInputs where
  inputs : List WorkflowReductionInputV1
  latestCommittedAtMs : Int

/-- The loop of `collect_reduction_inputs`. -/
def collectReductionInputsLoop (J : Journal sha256) (context : AttemptContext) :
    List EvidenceDigest → List WorkflowNodeId → Except StoreError CollectedReductionInputs
  | _, [] => .ok { inputs := [], latestCommittedAtMs := 0 }
  | receiptDigests, dependencyId :: rest => do
    let dependency ← require (context.manifest.1.workflow.node dependencyId)
      (.corruptWorkflowJournal "reduce dependency")
    ensure (dependency.kind = .verification ∨ dependency.kind = .releaseBuild)
      .workflowReductionConflict
    let row ← require (J.reductionEvidence context.attemptId dependencyId)
      .workflowReductionConflict
    ensure (validReductionEvidence context dependencyId row receiptDigests)
      .workflowReductionConflict
    let receipt := row.receipt.receiptJson.1
    let outputDigest ← require receipt.outputDigest .workflowReductionConflict
    let collected ← collectReductionInputsLoop J context (receipt.receiptDigest :: receiptDigests)
      rest
    .ok
      { inputs := { nodeId := dependencyId, nodeKind := dependency.kind
                    receiptDigest := receipt.receiptDigest, outputDigest } :: collected.inputs
        latestCommittedAtMs := max row.receipt.committedAtMs collected.latestCommittedAtMs }

def Journal.collectReductionInputs : Except StoreError CollectedReductionInputs :=
  collectReductionInputsLoop J context [] reduceNode.dependsOn

def validatePersistedReduction (persisted : ReductionRow sha256) :
    Workflow sha256 (ValidReductionReceipt sha256) := do
  let receipt := persisted.receiptJson
  let collected ← read fun J => J.collectReductionInputs context reduceNode
  let collected ← lift collected
  let node ← read fun J => J.node context.attemptId reduceNode.nodeId
  let node ← require node .queryReturnedNoRows
  ensure (persisted.reduceNodeId = reduceNode.nodeId ∧
    persisted.receiptDigest = receipt.1.receiptDigest ∧
    persisted.committedAtMs = receipt.1.reducedAtMs ∧
    collected.latestCommittedAtMs ≤ receipt.1.reducedAtMs ∧
    receipt.1.requestId = context.requestId ∧ receipt.1.attemptId = context.attemptId ∧
    receipt.1.projectId = context.projectId ∧ receipt.1.sourceSha = context.sourceSha ∧
    receipt.1.workflowPolicyDigest = context.workflowPolicyDigest ∧
    receipt.1.preparationKey = context.preparationKey ∧
    receipt.1.reduceNodeId = reduceNode.nodeId ∧ receipt.1.inputs = collected.inputs ∧
    node.state = .succeeded ∧ node.outputDigest = some receipt.1.receiptDigest ∧
    node.receiptDigest = some receipt.1.receiptDigest ∧
    node.completedAtMs = some receipt.1.reducedAtMs) .workflowReductionConflict
  pure receipt

/-- The row of a new reduction. -/
def newReductionRow (reduction : ValidReductionReceipt sha256) (reducedAtMs : Int) :
    ReductionRow sha256 where
  attemptId := attemptId
  reduceNodeId := reduceNode.nodeId
  receiptDigest := reduction.1.receiptDigest
  receiptJson := reduction
  committedAtMs := reducedAtMs

/-- Persist a reduction and settle the reduce node. -/
def persistReduction (reduction : ValidReductionReceipt sha256) (reducedAtMs : Int) :
    Workflow sha256 Unit := do
  reductionsT.insert
    (fun J r => (J.attempt r.attemptId).isSome && (J.node r.attemptId r.reduceNodeId).isSome)
    (newReductionRow attemptId reduceNode reduction reducedAtMs)
  let changed ← nodesT.update
    (fun n => n.attemptId = attemptId && n.nodeId = reduceNode.nodeId && n.state = .ready)
    (fun n => { n with
      state := .succeeded, outputDigest := some reduction.1.receiptDigest
      receiptDigest := some reduction.1.receiptDigest, completedAtMs := some reducedAtMs })
  ensure (changed = 1) .workflowStateConflict
  touchAttempt attemptId reducedAtMs
  appendTransition attemptId (.node reduceNode.nodeId) (some (.node .ready)) (.node .succeeded)
    .deterministicReduction (some reduction.1.receiptDigest) reducedAtMs

/-- What a reduction leads to. -/
def concludeReduction : Workflow sha256 Unit :=
  if context.executionMode = .shadow then completeShadowWorkflow context reducedAtMs
  else if context.manifest.1.workflow.deliveryMode = .selfUpdateHandoff then
    completeWorkflow context.attemptId reducedAtMs
  else advanceReadyNodes context.attemptId

/-- The part of `reduce_attempt` for an attempt without a reduction. -/
def reduceReadyAttempt : Workflow sha256 (ValidReductionReceipt sha256) := do
  let node ← read fun J => J.node context.attemptId reduceNode.nodeId
  let node ← require node .queryReturnedNoRows
  ensure (node.state = .ready) .workflowReductionConflict
  let collected ← read fun J => J.collectReductionInputs context reduceNode
  let collected ← lift collected
  ensure (collected.latestCommittedAtMs ≤ reducedAtMs) .workflowReductionConflict
  let reduction ← lift (ofContract (WorkflowReductionReceiptV1.new sha256
    { schemaVersion := 1
      requestId := context.requestId
      attemptId := context.attemptId
      projectId := context.projectId
      sourceSha := context.sourceSha
      workflowPolicyDigest := context.workflowPolicyDigest
      preparationKey := context.preparationKey
      reduceNodeId := reduceNode.nodeId
      inputs := collected.inputs
      reducedAtMs }))
  persistReduction context.attemptId reduceNode reduction reducedAtMs
  concludeReduction context reducedAtMs
  pure reduction

/-- The transaction of `reduce_attempt`. -/
def reduceAttemptTransaction : Workflow sha256 (ValidReductionReceipt sha256) := do
  let context ← loadAttemptContext attemptId
  let reduceNode ← require (context.manifest.1.firstNode .deterministicReduce)
    (.corruptWorkflowJournal "reduce node")
  match ← read fun J => J.reduction attemptId with
  | some persisted => validatePersistedReduction context reduceNode persisted
  | none => reduceReadyAttempt context reduceNode reducedAtMs

def reduceAttempt : Session (Journal sha256) StoreError (ValidReductionReceipt sha256) := do
  ensure (attemptId.isNil = false ∧ 0 ≤ reducedAtMs)
    (.invalidWorkflowSchedulerInput "reduction identity or time")
  immediateTransaction (reduceAttemptTransaction attemptId reducedAtMs)

/-- The attempts whose reduce node is ready, in the order of their ids. -/
def Journal.reducibleAttempts : List Uuid :=
  ((J.nodes.select (fun n => n.nodeKind = .deterministicReduce && n.state = .ready)
    (·.attemptId)).dedup).insertionSort (·.toNat ≤ ·.toNat)

/-- Expire the due leases, then reduce every attempt that is ready for it. -/
def reconcileControllerNodes (nowMs : Int) : Session (Journal sha256) StoreError Nat := do
  ensure (0 ≤ nowMs) (.invalidWorkflowSchedulerInput "controller reconciliation time")
  let _ ← expireLeases nowMs
  let attempts ← read fun J => J.reducibleAttempts
  each (fun attemptId => do let _ ← reduceAttempt attemptId nowMs) attempts
  pure attempts.length

end Rdashboard
