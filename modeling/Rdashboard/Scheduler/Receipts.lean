import Rdashboard.Scheduler.Claim

/-! # Committing receipts

A node receipt closes the active lease it was made under, settles the node, and moves the
attempt on.  A cleanup receipt discharges the cleanup obligation that an expired, revoked or
pending lease leaves behind. -/

namespace Rdashboard

open Relational Txn Session

variable {sha256 : Sha256}

variable (receipt : ValidNodeReceipt sha256) (recordedAtMs : Int) (handoffPublication : Bool)

/-! ### Node receipts -/

/-- The answer to a receipt that is recorded already. -/
def replayedNodeReceipt : Workflow sha256 (Option WorkflowAttemptSnapshotV1) := do
  match ← read fun J => J.nodeReceipt receipt.1.attemptId receipt.1.nodeId with
  | none => pure none
  | some persisted => do
    ensure (persisted.receiptDigest = receipt.1.receiptDigest ∧
      persisted.receiptJson.1 = receipt.1) .workflowReceiptConflict
    let snapshot ← loadAttemptSnapshot receipt.1.attemptId
    pure (some snapshot)

def validateActiveReceiptLease : Workflow sha256 Unit := do
  let row ← read fun J => J.lease receipt.1.leaseId
  let row ← require row .workflowLeaseConflict
  ensure (row.state = .active) .workflowLeaseConflict
  let lease := row.leaseJson.1
  ensure (receipt.1.matchesLease lease ∧ lease.leasedAtMs ≤ receipt.1.completedAtMs ∧
    receipt.1.completedAtMs < lease.expiresAtMs ∧ recordedAtMs < lease.expiresAtMs)
    .workflowReceiptConflict
  let node ← read fun J => J.node receipt.1.attemptId receipt.1.nodeId
  let node ← require node .queryReturnedNoRows
  ensure (node.state = .leased) .workflowStateConflict

def receiptTerminalNodeState (receipt : WorkflowNodeReceiptV1) (handoffPublication : Bool) :
    WorkflowNodeStateV1 :=
  match receipt.outcome with
  | .succeeded => .succeeded
  | .failed =>
    if receipt.nodeKind.isMutation || handoffPublication then .needsReconcile else .failed

/-- The reason recorded for the transition of the node. -/
def receiptReason : WorkflowNodeOutcomeV1 → TransitionReason
  | .succeeded => .receiptSucceeded
  | .failed => .receiptFailed

/-- The row of a new node receipt. -/
def newReceiptRow : ReceiptRow sha256 where
  receiptDigest := receipt.1.receiptDigest
  attemptId := receipt.1.attemptId
  nodeId := receipt.1.nodeId
  leaseId := receipt.1.leaseId
  receiptJson := receipt
  committedAtMs := recordedAtMs

/-- The receipt, with its lease committed and its node settled. -/
def persistNodeReceipt : Workflow sha256 Unit := do
  receiptsT.insert
    (fun J r => (J.lease r.leaseId).isSome && (J.node r.attemptId r.nodeId).isSome)
    (newReceiptRow receipt recordedAtMs)
  let changed ← leasesT.update (fun l => l.leaseId = receipt.1.leaseId && l.state = .active)
    (fun l => { l with
      state := .committed, closedAtMs := some recordedAtMs
      receiptDigest := some receipt.1.receiptDigest })
  ensure (changed = 1) .workflowLeaseConflict
  let nodeState := receiptTerminalNodeState receipt.1 handoffPublication
  let changed ← nodesT.update
    (fun n => n.attemptId = receipt.1.attemptId && n.nodeId = receipt.1.nodeId &&
      n.state = .leased)
    (fun n => { n with
      state := nodeState, outputDigest := receipt.1.outputDigest
      receiptDigest := some receipt.1.receiptDigest
      completedAtMs := some receipt.1.completedAtMs })
  ensure (changed = 1) .workflowStateConflict
  if receipt.1.cleanupResult = .pending then do
    let _ ← attemptsT.update (·.attemptId = receipt.1.attemptId)
      (fun a => { a with cleanupState := .pending })
    pure ()
  appendTransition receipt.1.attemptId (.node receipt.1.nodeId) (some (.node .leased))
    (.node nodeState) (receiptReason receipt.1.outcome) (some receipt.1.receiptDigest)
    recordedAtMs

/-- Record that an attempt changed. -/
def touchAttempt (attemptId : Uuid) (nowMs : Int) : Workflow sha256 Unit := do
  let _ ← attemptsT.update (·.attemptId = attemptId) (fun a => { a with updatedAtMs := nowMs })
  pure ()

/-- What the outcome of a node means for its attempt. -/
def applyNodeReceiptOutcome (receipt : WorkflowNodeReceiptV1) (recordedAtMs : Int)
    (handoffPublication : Bool) : Workflow sha256 Unit :=
  match receipt.outcome with
  | .succeeded =>
    if receipt.nodeKind = .releasedObservation then
      completeWorkflow receipt.attemptId recordedAtMs
    else do
      touchAttempt receipt.attemptId recordedAtMs
      advanceReadyNodes receipt.attemptId
  | .failed =>
    failWorkflow receipt.attemptId receipt.nodeKind receipt.cleanupResult handoffPublication
      recordedAtMs

def commitNodeReceiptTransaction : Workflow sha256 WorkflowAttemptSnapshotV1 := do
  match ← replayedNodeReceipt receipt with
  | some replayed => pure replayed
  | none => do
    validateActiveReceiptLease receipt recordedAtMs
    let context ← loadAttemptContext receipt.1.attemptId
    let handoffPublication := context.executionMode = .deploy &&
      isSelfUpdateHandoffRelease context.manifest.1 receipt.1.nodeKind
    persistNodeReceipt receipt recordedAtMs handoffPublication
    applyNodeReceiptOutcome receipt.1 recordedAtMs handoffPublication
    loadAttemptSnapshot receipt.1.attemptId

/-- `DurableWorkflowScheduler::commit_node_receipt`.  Expiry commits even when the receipt is
then refused as late. -/
def commitNodeReceipt (receipt : WorkflowNodeReceiptV1) (recordedAtMs : Int) :
    Session (Journal sha256) StoreError WorkflowAttemptSnapshotV1 := do
  let receipt ← lift
    (ofContract (Check.certify (WorkflowNodeReceiptV1.validate sha256) receipt))
  ensure (0 ≤ recordedAtMs ∧ receipt.1.completedAtMs ≤ recordedAtMs)
    (.invalidWorkflowSchedulerInput "receipt time")
  let _ ← expireLeases recordedAtMs
  immediateTransaction (commitNodeReceiptTransaction receipt recordedAtMs)

/-! ### Cleanup receipts -/

/-- Does the cleanup receipt discharge the obligation of this lease?  An expired or revoked
lease has no terminal receipt; a committed one must have one that left the cleanup pending. -/
def settlesObligation (receipt : WorkflowCleanupReceiptV1) (lease : LeaseRow sha256)
    (terminal : Option (ReceiptRow sha256)) : Bool :=
  match lease.state, terminal with
  | .expired, none | .revoked, none => receipt.terminalReceiptDigest.isNone
  | .committed, some terminal =>
    terminal.receiptJson.1.cleanupResult = .pending &&
      terminal.receiptJson.1.matchesLease lease.leaseJson.1 &&
      receipt.terminalReceiptDigest = some terminal.receiptJson.1.receiptDigest &&
      terminal.receiptJson.1.completedAtMs ≤ receipt.completedAtMs
  | _, _ => false

/-- The row of a new cleanup receipt. -/
def newCleanupRow (receipt : ValidCleanupReceipt sha256) (recordedAtMs : Int) :
    CleanupRow sha256 where
  receiptDigest := receipt.1.receiptDigest
  leaseId := receipt.1.leaseId
  attemptId := receipt.1.attemptId
  nodeId := receipt.1.nodeId
  receiptJson := receipt
  committedAtMs := recordedAtMs

/-- The part of `commit_cleanup_receipt_transaction` after the replay check. -/
def persistCleanupReceipt (receipt : ValidCleanupReceipt sha256) (recordedAtMs : Int) :
    Workflow sha256 WorkflowAttemptSnapshotV1 := do
  let row ← read fun J => J.lease receipt.1.leaseId
  let row ← require row .workflowCleanupConflict
  let terminal ← read fun J => J.leaseReceipt receipt.1.leaseId
  ensure (receipt.1.matchesLease row.leaseJson.1) .workflowCleanupConflict
  let closedAtMs ← require row.closedAtMs .workflowCleanupConflict
  ensure (closedAtMs ≤ receipt.1.completedAtMs) .workflowCleanupConflict
  ensure (settlesObligation receipt.1 row terminal) .workflowCleanupConflict
  cleanupsT.insert
    (fun J c => (J.lease c.leaseId).isSome && (J.node c.attemptId c.nodeId).isSome)
    (newCleanupRow receipt recordedAtMs)
  let unresolved ← read fun J => J.unresolvedCleanupCount receipt.1.attemptId
  let changed ← attemptsT.update (·.attemptId = receipt.1.attemptId)
    (fun a => { a with
      cleanupState := if unresolved = 0 then .complete else .pending
      updatedAtMs := max a.updatedAtMs recordedAtMs })
  ensure (changed = 1) .workflowStateConflict
  appendTransition receipt.1.attemptId (.lease receipt.1.leaseId) (some (.lease row.state))
    (.lease row.state) .workerCleanupReconciled (some receipt.1.receiptDigest) recordedAtMs
  loadAttemptSnapshot receipt.1.attemptId

def commitCleanupReceiptTransaction (receipt : ValidCleanupReceipt sha256) (recordedAtMs : Int) :
    Workflow sha256 WorkflowAttemptSnapshotV1 := do
  match ← read fun J => J.leaseCleanup receipt.1.leaseId with
  | some persisted => do
    ensure (persisted.receiptDigest = receipt.1.receiptDigest ∧
      persisted.receiptJson.1 = receipt.1) .workflowCleanupConflict
    loadAttemptSnapshot receipt.1.attemptId
  | none => persistCleanupReceipt receipt recordedAtMs

def commitCleanupReceipt (receipt : WorkflowCleanupReceiptV1) (recordedAtMs : Int) :
    Session (Journal sha256) StoreError WorkflowAttemptSnapshotV1 := do
  let receipt ← lift
    (ofContract (Check.certify (WorkflowCleanupReceiptV1.validate sha256) receipt))
  ensure (0 ≤ recordedAtMs ∧ receipt.1.completedAtMs ≤ recordedAtMs)
    (.invalidWorkflowSchedulerInput "cleanup receipt time")
  immediateTransaction (commitCleanupReceiptTransaction receipt recordedAtMs)

end Rdashboard
