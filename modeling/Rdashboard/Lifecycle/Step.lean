import Rdashboard.Lifecycle.Attempt

/-! # The moves of an attempt

`Attempt.Born` describes an attempt right after its admission and `Attempt.Step` the moves it
can make from then on.  The conditions of a move are what the scheduler has checked, or knows
from the journal's invariant, when it makes the move. -/

namespace Rdashboard

open Relational

variable {sha256 : Sha256}

/-- What is known of the calls that move an attempt, on top of valid inputs.  The scheduler keeps
more invariants for callers that are `careful` about settling attempts with open cleanup, or
`orderly` about binding operation states; and only `claims` grant leases. -/
structure Discipline where
  careful : Prop
  orderly : Prop
  claims : Prop

/-- Nothing is known. -/
def Discipline.none : Discipline := ⟨False, False, True⟩

/-- The calls are no claims. -/
def Discipline.noClaims : Discipline := ⟨False, False, False⟩

/-- A receipt row made under the lease of a row: it copies the lease's binding and falls into
its time. -/
structure ReceiptRow.MadeUnder (r : ReceiptRow sha256) (l : LeaseRow sha256) : Prop where
  leaseId : r.leaseId = l.leaseId
  attemptId : r.attemptId = l.attemptId
  nodeId : r.nodeId = l.nodeId
  digest : r.receiptDigest = r.receiptJson.1.receiptDigest
  document : r.receiptJson.1.matchesLease l.leaseJson.1 = true
  started : l.leaseJson.1.leasedAtMs ≤ r.receiptJson.1.completedAtMs
  recorded : r.receiptJson.1.completedAtMs ≤ r.committedAtMs
  inTime : r.committedAtMs < l.leaseJson.1.expiresAtMs

/-- A lease document made out to the attempt. -/
structure Attempt.Names (A : Attempt sha256) (lease : WorkflowLeaseV1) : Prop where
  attemptId : lease.attemptId = A.row.attemptId
  requestId : lease.requestId = A.request.requestId
  projectId : lease.projectId = A.request.projectId
  sourceSha : lease.sourceSha = A.request.sourceSha
  workflowPolicyDigest : lease.workflowPolicyDigest = A.request.workflowPolicyDigest
  preparationKey : lease.preparationKey = A.row.preparationKey
  created : A.row.createdAtMs ≤ lease.leasedAtMs

/-- A lease that ends by its execution deadline. -/
structure WorkflowLeaseV1.Bounded (lease : WorkflowLeaseV1) : Prop where
  deadline : lease.expiresAtMs ≤ lease.leasedAtMs + lease.timeoutMs
  deadlineBound : lease.leasedAtMs + lease.timeoutMs ≤ i64Max

/-- A lease document for the ready node `n` of the attempt. -/
structure Attempt.Offers (A : Attempt sha256) (n : NodeRow) (lease : WorkflowLeaseV1) : Prop where
  names : A.Names lease
  bounded : lease.Bounded
  nodeKind : lease.nodeKind = n.nodeKind
  leaseGeneration : lease.leaseGeneration = n.leaseGeneration + 1

namespace Attempt

/-- Every node that needs no lock, other than the reduction, has succeeded. -/
def ReadyToMutate (A : Attempt sha256) : Prop :=
  ∀ k n, A.nodes k = some n → A.exclusive n.nodeKind = false →
    n.nodeKind ≠ .deterministicReduce → n.state = .succeeded

/-- A node whose operation-state work is still to be done. -/
def OutstandingConsumer (A : Attempt sha256) (k : WorkflowNodeId) : Prop :=
  A.UsesOperationState k ∧ ∃ n, A.nodes k = some n ∧
    (n.state = .blocked ∨ n.state = .ready ∨ n.state = .leased)

/-- A lease that carries an operation state carries the one bound by the attempt, if there is one,
and is made out to the worker and host it is bound to. -/
def Attached (A : Attempt sha256) (lease : WorkflowLeaseV1) : Prop :=
  ∀ b s, A.binding = some b → lease.operationState = some s →
    lease.workerId = b.workerId ∧ lease.hostId = b.hostId ∧ s = b.stateJson

/-- No active lease of this worker on this host carries an operation state. -/
def HostFree (A : Attempt sha256) (workerId hostId : String) : Prop :=
  ∀ i e, A.ActiveLease i e → e.row.workerId = workerId → e.row.hostId = hostId →
    e.row.leaseJson.1.operationState = none

/-- The conditions under which a lease on the node `n` is granted. -/
structure Grants (A : Attempt sha256) (D : Discipline) (n : NodeRow) (lease : WorkflowLeaseV1) :
    Prop where
  fresh : A.leases lease.leaseId = none
  node : A.nodes lease.nodeId = some n
  ready : n.state = .ready
  offers : A.Offers n lease
  live : A.row.state = .queued ∨ A.row.state = .running
  owned : A.exclusive n.nodeKind = true → A.row.mutationState = .owned
  carries : A.UsesOperationState lease.nodeId → lease.operationState.isSome = true
  bound : A.FeedsRelease lease.nodeId → A.binding.isSome = true
  claims : D.claims
  attached : A.Attached lease
  free : A.binding.isSome = true → lease.operationState.isSome = true →
    A.HostFree lease.workerId lease.hostId

/-- The conditions under which an operation state is bound. -/
structure Binds (A : Attempt sha256) (D : Discipline) (b : BindingRow) : Prop where
  fresh : A.binding = none
  key : b.stateKey = b.stateJson.stateKey
  valid : b.stateJson.validateFor sha256 (A.operationStateSubject b.workerId b.hostId) = .ok ()
  consumers : D.orderly → ∀ k, A.OutstandingConsumer k → k ∈ b.stateJson.consumerNodes
  live : A.row.state = .queued ∨ A.row.state = .running
  claims : D.claims
  free : A.HostFree b.workerId b.hostId

/-- The moves of an attempt. -/
inductive Step (D : Discipline) (A : Attempt sha256) : Attempt sha256 → Prop where
  | giveBack {i : Uuid} {e : LeaseEntry sha256} (nowMs : Int) (active : A.ActiveLease i e) :
      Step D A (A.giveBack i e.row.nodeId nowMs)
  | expireDeadline {i : Uuid} {e : LeaseEntry sha256} (nowMs : Int) (active : A.ActiveLease i e)
      (notStarted : A.row.mutationState = .notStarted) :
      Step D A (A.expireDeadline i e.row.nodeId nowMs)
  | expireMutation {i : Uuid} {e : LeaseEntry sha256} {n : NodeRow} (nowMs : Int)
      (active : A.ActiveLease i e) (node : A.nodes e.row.nodeId = some n)
      (exclusive : A.exclusive n.nodeKind = true) (owned : A.row.mutationState = .owned)
      (alone : ∀ j f, A.ActiveLease j f → j = i) :
      Step D A (A.expireMutation i e.row.nodeId nowMs)
  | commit {e : LeaseEntry sha256} (r : ReceiptRow sha256) (handoff : Bool)
      (active : A.ActiveLease r.leaseId e) (madeUnder : r.MadeUnder e.row)
      (fresh : A.receipts r.nodeId = none) :
      Step D A (A.commit r (receiptTerminalNodeState r.receiptJson.1 handoff))
  | failTerminal (cleanup : WorkflowCleanupStateV1) (nowMs : Int)
      (running : A.row.state = .running) (notStarted : A.row.mutationState = .notStarted)
      (settled : D.careful → cleanup = .complete → A.Idle ∧ A.DebtFree) :
      Step D A (A.failTerminal cleanup nowMs)
  | markReconcile {k : WorkflowNodeId} {n : NodeRow} (cleanup : WorkflowCleanupStateV1)
      (nowMs : Int) (owned : A.row.mutationState = .owned) (idle : A.Idle)
      (node : A.nodes k = some n) (exclusive : A.exclusive n.nodeKind = true)
      (failed : n.state = .needsReconcile)
      (settled : D.careful → cleanup = .complete → A.DebtFree) :
      Step D A (A.markReconcile cleanup nowMs)
  | touch (nowMs : Int) : Step D A (A.touch nowMs)
  | advance (k : WorkflowNodeId) (running : A.row.state = .running) (gated : A.Gated k) :
      Step D A (A.advance k)
  | complete {lock : LockRow} (nowMs : Int) (running : A.row.state = .running)
      (held : A.lock = some lock) (state : lock.state = .held)
      (done : ∀ k n, A.nodes k = some n → n.activation = .always → n.state = .succeeded)
      (settled : A.DebtFree) : Step D A (A.complete nowMs)
  | completeShadow (nowMs : Int) (running : A.row.state = .running)
      (notStarted : A.row.mutationState = .notStarted)
      (done : ∀ k n, A.nodes k = some n → n.state = shadowOutcome n.nodeKind)
      (settled : A.DebtFree) : Step D A (A.completeShadow nowMs)
  | reduce {n : NodeRow} (r : ReductionRow sha256) (node : A.nodes r.reduceNodeId = some n)
      (kind : n.nodeKind = .deterministicReduce) (ready : n.state = .ready) :
      Step D A (A.reduce r)
  | grant {n : NodeRow} (lease : ValidLease sha256) (nowMs : Int) (grants : A.Grants D n lease.1) :
      Step D A (A.grant lease n.leaseGeneration nowMs)
  | acquire (nowMs : Int) (notStarted : A.row.mutationState = .notStarted)
      (running : A.row.state = .running) (deploy : A.request.operationKind = .deploy)
      (ready : A.ReadyToMutate) : Step D A (A.acquire nowMs)
  | bind (b : BindingRow) (binds : A.Binds D b) : Step D A (A.bind b)
  | renew {i : Uuid} {e : LeaseEntry sha256} (renewed : ValidLease sha256)
      (active : A.ActiveLease i e)
      (body : renewed.1.toWorkflowLeaseBodyV1 =
        { e.row.leaseJson.1.toWorkflowLeaseBodyV1 with expiresAtMs := renewed.1.expiresAtMs })
      (bounded : renewed.1.Bounded) :
      Step D A (A.renew e.row.leaseJson.1.leaseDigest renewed)
  | settleCleanup {e : LeaseEntry sha256} (c : CleanupRow sha256)
      (cleanup : WorkflowCleanupStateV1) (nowMs : Int) (lease : A.leases c.leaseId = some e)
      (settled : cleanup = .complete → A.DebtFreeBut c.leaseId) :
      Step D A (A.settleCleanup c cleanup nowMs)
  | wake (nowMs : Int) (waiting : A.row.state = .waitingForMutation) : Step D A (A.wake nowMs)
  | supersede (newRequestId : Uuid) (cleanup : WorkflowCleanupStateV1) (nowMs : Int)
      (live : A.row.state.isTerminal = false) (notStarted : A.row.mutationState = .notStarted)
      (settled : D.careful → cleanup = .complete → A.Idle ∧ A.DebtFree) :
      Step D A (A.supersede newRequestId cleanup nowMs)

/-- What the rows of an attempt record about its manifest; no move changes any of it. -/
structure Declared (A : Attempt sha256) : Prop where
  attemptId : A.row.attemptId.isNil = false
  requestId : A.row.requestId = A.request.requestId
  projectId : A.request.manifestJson.1.projectId = A.request.projectId
  policyDigest : A.request.manifestJson.1.workflowPolicyDigest sha256 = A.request.workflowPolicyDigest
  preparationKey : A.row.preparationKey = sha256 (.preparedRunKey
    { projectId := A.request.projectId
      sourceSha := A.request.sourceSha
      workflowPolicyDigest := A.request.workflowPolicyDigest })
  created : A.row.createdAtMs = A.request.createdAtMs
  order : ∃ ordered, A.policy.orderedNodes = .ok ordered ∧ A.order = ordered.map (·.nodeId)
  node : ∀ k n, A.nodes k = some n → n.attemptId = A.row.attemptId ∧ n.nodeId = k ∧
    A.order[n.ordinal]? = some k ∧
    ∃ m q, A.policy.node k = some m ∧ A.policy.profile m.profileId = some q ∧
      n.nodeKind = m.kind ∧ n.activation = m.activation ∧ n.profileId = m.profileId ∧
      n.workerPool = q.workerPool
  declared : ∀ m ∈ A.policy.nodes, ∃ n, A.nodes m.nodeId = some n
  dependsOn : ∀ m ∈ A.policy.nodes, A.dependsOn m.nodeId = m.dependsOn

/-- A new attempt. -/
structure Born (A : Attempt sha256) : Prop extends Declared A where
  state : A.row.state = .queued ∨ A.row.state = .waitingForMutation
  mutationState : A.row.mutationState = .notStarted
  cleanupState : A.row.cleanupState = .complete
  requestState : A.request.state = .active
  nodes : ∀ k n, A.nodes k = some n → n.leaseGeneration = 0 ∧ ∃ waiting,
    n.state = initialNodeState A.request.operationKind waiting n.nodeKind
  leases : ∀ i, A.leases i = none
  receipts : ∀ k, A.receipts k = none
  binding : A.binding = none
  reduction : A.reduction = none
  lock : A.lock = none

end Attempt

end Rdashboard
