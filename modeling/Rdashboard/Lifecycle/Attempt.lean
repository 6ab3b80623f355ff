import Rdashboard.Scheduler.Operations
import Rdashboard.Library.Component
import Rdashboard.Workflow.Graph

/-! # The lifecycle of one attempt

The journal is a family of attempts that share nothing but the mutation locks.  `Attempt`
collects all rows of one attempt, and the functions below say what the statements of the
scheduler do to it.  `Attempt.Step` lists the moves an attempt can make, each under the
conditions that the scheduler establishes before it makes them. -/

namespace Rdashboard

open Relational

/-- A lease with the receipts that refer to it. -/
structure LeaseEntry (sha256 : Sha256) where
  row : LeaseRow sha256
  receipt : Option (ReceiptRow sha256)
  cleanup : Option (CleanupRow sha256)

/-- The rows of one attempt. -/
@[ext]
structure Attempt (sha256 : Sha256) where
  row : AttemptRow
  request : RequestRow
  /-- The nodes in the order of their ordinals. -/
  order : List WorkflowNodeId
  dependsOn : WorkflowNodeId → List WorkflowNodeId
  nodes : WorkflowNodeId → Option NodeRow
  leases : Uuid → Option (LeaseEntry sha256)
  receipts : WorkflowNodeId → Option (ReceiptRow sha256)
  binding : Option BindingRow
  reduction : Option (ReductionRow sha256)
  lock : Option LockRow

variable {sha256 : Sha256}

/-- Does the worker of the lease still owe a cleanup receipt? -/
def LeaseEntry.owesCleanup (e : LeaseEntry sha256) : Bool :=
  e.cleanup.isNone && (e.row.state = .expired || e.row.state = .revoked ||
    (e.row.state = .committed && e.receipt.any (·.receiptJson.1.cleanupResult = .pending)))

namespace Attempt

/-! ### Reading an attempt -/

section Reads

variable (A : Attempt sha256)

def policy : WorkflowPolicyV1 := A.request.manifestJson.1.workflow

/-- Does a node of this kind need the mutation lock? -/
def exclusive (kind : WorkflowNodeKindV1) : Bool :=
  exclusiveDelivery A.request.operationKind A.request.manifestJson.1 kind

/-- The state of a node. -/
def state (k : WorkflowNodeId) : Option WorkflowNodeStateV1 := (A.nodes k).map (·.state)

/-- All dependencies of a node have succeeded. -/
def Gated (k : WorkflowNodeId) : Prop := ∀ d ∈ A.dependsOn k, A.state d = some .succeeded

/-- The lease `i` is active. -/
def ActiveLease (i : Uuid) (e : LeaseEntry sha256) : Prop :=
  A.leases i = some e ∧ e.row.state = .active

/-- No lease is active. -/
def Idle : Prop := ∀ i e, ¬ A.ActiveLease i e

/-- No worker owes a cleanup receipt. -/
def DebtFree : Prop := ∀ i e, A.leases i = some e → e.owesCleanup = false

/-- No worker owes a cleanup receipt for another lease than `i`. -/
def DebtFreeBut (i : Uuid) : Prop := ∀ j e, j ≠ i → A.leases j = some e → e.owesCleanup = false

/-- Does a node keep its work in the operation state of the attempt? -/
def UsesOperationState (k : WorkflowNodeId) : Prop :=
  ∃ n q, A.policy.node k = some n ∧ A.policy.profile n.profileId = some q ∧
    nodeUsesOperationState n q.adapterId = true

/-- Is the node a verification whose output the release build takes over? -/
def FeedsRelease (k : WorkflowNodeId) : Prop :=
  ∃ n, A.policy.node k = some n ∧
    verificationFeedsSharedReleaseOutput A.request.manifestJson.1 n = true

/-- The subject of an operation state that a worker keeps for the attempt. -/
def operationStateSubject (workerId hostId : String) : OperationStateSubject where
  attemptId := A.row.attemptId
  projectId := A.request.projectId
  sourceSha := A.request.sourceSha
  workflowPolicyDigest := A.request.workflowPolicyDigest
  preparationKey := A.row.preparationKey
  workerId := workerId
  hostId := hostId

end Reads

/-! ### Writing an attempt -/

section Writes

variable (A : Attempt sha256) (i : Uuid) (k : WorkflowNodeId) (cleanup : WorkflowCleanupStateV1)
  (nowMs : Int)

/-- `UPDATE workflow_nodes`. -/
def setNodes (p : NodeRow → Bool) (f : NodeRow → NodeRow) : Attempt sha256 :=
  { A with nodes := fun k => (A.nodes k).map (assign p f) }

/-- `UPDATE workflow_lease_journal`. -/
def setLeases (p : LeaseRow sha256 → Bool) (f : LeaseRow sha256 → LeaseRow sha256) :
    Attempt sha256 :=
  { A with leases := fun i => (A.leases i).map fun e => { e with row := assign p f e.row } }

/-- `UPDATE workflow_attempts`. -/
def setRow (f : AttemptRow → AttemptRow) : Attempt sha256 := { A with row := f A.row }

/-- `UPDATE workflow_requests`. -/
def setRequest (p : RequestRow → Bool) (f : RequestRow → RequestRow) : Attempt sha256 :=
  { A with request := assign p f A.request }

/-- `UPDATE workflow_mutation_locks`. -/
def setLock (f : LockRow → LockRow) : Attempt sha256 := { A with lock := A.lock.map f }

/-- Close the active lease `i`. -/
def closeLease (state : LeaseState) (nowMs : Int)
    (receiptDigest : Option EvidenceDigest → Option EvidenceDigest) : Attempt sha256 :=
  A.setLeases (fun l => l.leaseId = i && l.state = .active)
    fun l => { l with
      state, closedAtMs := some nowMs, receiptDigest := receiptDigest l.receiptDigest }

/-- `settleLeasedNode`. -/
def settleNode (state : WorkflowNodeStateV1) (complete : Option Int → Option Int) :
    Attempt sha256 :=
  A.setNodes (fun n => n.nodeId = k && n.state = .leased)
    fun n => { n with state, completedAtMs := complete n.completedAtMs }

def revokeWork : Attempt sha256 :=
  (A.setLeases (fun l => l.state = .active)
    fun l => { l with state := .revoked, closedAtMs := some nowMs }).setNodes
    (fun n => n.state = .dormant || n.state = .blocked || n.state = .ready || n.state = .leased)
    fun n => { n with state := .cancelled, completedAtMs := some nowMs }

def terminateRequest : Attempt sha256 :=
  A.setRequest (·.state = .active) fun r => { r with state := .terminal, updatedAtMs := nowMs }

/-- `failTerminalWorkflow`. -/
def failTerminal : Attempt sha256 :=
  ((A.revokeWork nowMs).setRow fun a => { a with
    state := .failed, cleanupState := cleanup, updatedAtMs := nowMs
    terminalAtMs := some nowMs }).terminateRequest nowMs

/-- `markWorkflowNeedsReconcile`. -/
def markReconcile : Attempt sha256 :=
  (A.setRow fun a => { a with
    state := .needsReconcile, mutationState := .needsReconcile, cleanupState := cleanup
    updatedAtMs := nowMs }).setLock fun k => { k with state := .needsReconcile, updatedAtMs := nowMs }

/-- A lease that was not renewed gives its node back. -/
def giveBack : Attempt sha256 :=
  ((A.closeLease i .expired nowMs id).settleNode k .ready id).setRow
    fun a => { a with cleanupState := .pending, updatedAtMs := nowMs }

/-- A lease that ran into its execution deadline fails its attempt. -/
def expireDeadline : Attempt sha256 :=
  ((A.closeLease i .expired nowMs id).settleNode k .failed fun _ => some nowMs).failTerminal
    .pending nowMs

/-- An expired lease over an exclusive delivery leaves its attempt for reconciliation. -/
def expireMutation : Attempt sha256 :=
  ((A.closeLease i .expired nowMs id).settleNode k .needsReconcile fun _ => some nowMs).markReconcile
    .pending nowMs

/-- Does the end of the lease fail its attempt?  It ran into its execution deadline, over no
exclusive delivery. -/
def FailsAtExpiry (e : LeaseEntry sha256) : Prop :=
  e.row.leaseJson.1.expiresAtMs = e.row.leaseJson.1.leasedAtMs + e.row.leaseJson.1.timeoutMs ∧
    A.exclusive e.row.leaseJson.1.nodeKind = false

instance (e : LeaseEntry sha256) : Decidable (A.FailsAtExpiry e) :=
  inferInstanceAs (Decidable (_ ∧ _))

/-- `expireOneLease`. -/
def expire (e : LeaseEntry sha256) (nowMs : Int) : Attempt sha256 :=
  if A.exclusive e.row.leaseJson.1.nodeKind then A.expireMutation e.row.leaseId e.row.nodeId nowMs
  else if A.FailsAtExpiry e then A.expireDeadline e.row.leaseId e.row.nodeId nowMs
  else A.giveBack e.row.leaseId e.row.nodeId nowMs

/-- `INSERT INTO workflow_node_receipts`. -/
def addReceipt (r : ReceiptRow sha256) : Attempt sha256 :=
  { A with
    receipts := Function.update A.receipts r.nodeId (some r)
    leases := fun i => (A.leases i).map fun e =>
      if i = r.leaseId then { e with receipt := some r } else e }

/-- `persistNodeReceipt`. -/
def commit (r : ReceiptRow sha256) (state : WorkflowNodeStateV1) : Attempt sha256 :=
  ((((A.addReceipt r).closeLease r.leaseId .committed r.committedAtMs
    fun _ => some r.receiptJson.1.receiptDigest).setNodes
      (fun n => n.nodeId = r.nodeId && n.state = .leased)
      fun n => { n with
        state, outputDigest := r.receiptJson.1.outputDigest
        receiptDigest := some r.receiptJson.1.receiptDigest
        completedAtMs := some r.receiptJson.1.completedAtMs })).setRow
    fun a => if r.receiptJson.1.cleanupResult = .pending then { a with cleanupState := .pending }
      else a

/-- `touchAttempt`. -/
def touch : Attempt sha256 := A.setRow fun a => { a with updatedAtMs := nowMs }

/-- One turn of `advanceReadyNodes`. -/
def advance : Attempt sha256 :=
  A.setNodes (fun n => n.nodeId = k && n.state = .blocked) fun n => { n with state := .ready }

/-- `wakeAttempt`. -/
def wake : Attempt sha256 :=
  (A.setRow fun a => { a with state := .queued, updatedAtMs := nowMs }).setNodes
    (fun n => n.nodeKind = .hostPrepare && n.state = .blocked) fun n => { n with state := .ready }

/-- `supersedeAttempt`. -/
def supersede (newRequestId : Uuid) (cleanup : WorkflowCleanupStateV1) (nowMs : Int) :
    Attempt sha256 :=
  ((A.revokeWork nowMs).setRow fun a => { a with
    state := .superseded, cleanupState := cleanup, updatedAtMs := nowMs
    terminalAtMs := some nowMs }).setRequest (·.state = .active) fun r => { r with
      state := .superseded, supersededByRequestId := some newRequestId, updatedAtMs := nowMs }

/-- `DELETE FROM workflow_mutation_locks`. -/
def releaseLock : Attempt sha256 := { A with lock := none }

/-- `completeWorkflow`, but for the attempts it wakes. -/
def complete : Attempt sha256 :=
  (((A.setNodes (fun n => n.activation = .onMutationFailure && n.state = .dormant)
    fun n => { n with state := .cancelled, completedAtMs := some nowMs }).setRow
      fun a => { a with
        state := .succeeded, mutationState := .complete, cleanupState := .complete
        updatedAtMs := nowMs, terminalAtMs := some nowMs }).terminateRequest nowMs).releaseLock

/-- `completeShadowWorkflow`. -/
def completeShadow : Attempt sha256 :=
  (A.setRow fun a => { a with
    state := .succeeded, cleanupState := .complete, updatedAtMs := nowMs
    terminalAtMs := some nowMs }).terminateRequest nowMs

/-- `INSERT INTO workflow_reductions`. -/
def addReduction (r : ReductionRow sha256) : Attempt sha256 := { A with reduction := some r }

/-- `persistReduction`. -/
def reduce (r : ReductionRow sha256) : Attempt sha256 :=
  ((A.addReduction r).setNodes
    (fun n => n.nodeId = r.reduceNodeId && n.state = .ready)
    fun n => { n with
      state := .succeeded, outputDigest := some r.receiptJson.1.receiptDigest
      receiptDigest := some r.receiptJson.1.receiptDigest
      completedAtMs := some r.committedAtMs }).touch r.committedAtMs

/-- `INSERT INTO workflow_lease_journal`. -/
def addLease (l : LeaseRow sha256) : Attempt sha256 :=
  { A with leases := Function.update A.leases l.leaseId (some ⟨l, none, none⟩) }

/-- `persistActiveLease`. -/
def grant (lease : ValidLease sha256) (previousGeneration : Nat) (nowMs : Int) : Attempt sha256 :=
  ((A.addLease (newLeaseRow lease)).setNodes
    (fun n => n.nodeId = lease.1.nodeId && n.state = .ready &&
      n.leaseGeneration = previousGeneration)
    fun n => { n with state := .leased, leaseGeneration := lease.1.leaseGeneration }).setRow
    fun a => { a with state := .running, updatedAtMs := nowMs }

/-- `INSERT INTO workflow_mutation_locks`. -/
def addLock (k : LockRow) : Attempt sha256 := { A with lock := some k }

/-- The branch of `acquireMutationLock` that takes the lock. -/
def acquire : Attempt sha256 :=
  (A.addLock
    { projectId := A.request.projectId, attemptId := A.row.attemptId, state := .held
      acquiredAtMs := nowMs, updatedAtMs := nowMs }).setRow
    fun a => { a with mutationState := .owned, updatedAtMs := nowMs }

/-- `INSERT INTO workflow_operation_state_bindings`. -/
def bind (b : BindingRow) : Attempt sha256 := { A with binding := some b }

/-- The statement of `renewLeaseTransaction`. -/
def renew (oldDigest : EvidenceDigest) (renewed : ValidLease sha256) : Attempt sha256 :=
  A.setLeases
    (fun l => l.leaseId = renewed.1.leaseId && l.state = .active && l.leaseDigest = oldDigest)
    fun l => { l with
      leaseDigest := renewed.1.leaseDigest, leaseJson := renewed
      expiresAtMs := renewed.1.expiresAtMs }

/-- `INSERT INTO workflow_cleanup_receipts`. -/
def addCleanup (c : CleanupRow sha256) : Attempt sha256 :=
  { A with
    leases := fun i => (A.leases i).map fun e =>
      if i = c.leaseId then { e with cleanup := some c } else e }

/-- `persistCleanupReceipt`. -/
def settleCleanup (c : CleanupRow sha256) (cleanup : WorkflowCleanupStateV1) (nowMs : Int) :
    Attempt sha256 :=
  (A.addCleanup c).setRow fun a => { a with
    cleanupState := cleanup, updatedAtMs := max a.updatedAtMs nowMs }

end Writes

end Attempt

end Rdashboard
