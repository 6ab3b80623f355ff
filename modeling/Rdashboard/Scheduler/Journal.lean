import Rdashboard.Library.Transaction
import Rdashboard.Workflow.Documents

/-! # The workflow journal

The tables of the control store that the workflow scheduler reads and writes, with the
CHECK, PRIMARY KEY, UNIQUE and FOREIGN KEY clauses of their schema.  A text column that the
program parses back into an enumeration or a validated document has that type here. -/

namespace Rdashboard

open Relational

/-! ### Column types -/

inductive WorkflowExecutionModeV1 where
  | deploy
  | shadow
deriving DecidableEq

inductive WorkflowTriggerChannelV1 where
  | githubWebhook
  | sourceReconciliation
  | directPush
  | manualShadow
deriving DecidableEq

/-- The `state` column of a request. -/
inductive RequestState where
  | active
  | superseded
  | terminal
deriving DecidableEq

inductive WorkflowAttemptStateV1 where
  | queued
  | waitingForMutation
  | running
  | succeeded
  | failed
  | superseded
  | needsReconcile
deriving DecidableEq

inductive WorkflowMutationStateV1 where
  | notStarted
  | owned
  | needsReconcile
  | complete
deriving DecidableEq

inductive WorkflowCleanupStateV1 where
  | complete
  | pending
deriving DecidableEq

inductive WorkflowNodeStateV1 where
  | dormant
  | blocked
  | ready
  | leased
  | succeeded
  | failed
  | cancelled
  | needsReconcile
deriving DecidableEq

/-- The `state` column of a lease. -/
inductive LeaseState where
  | active
  | expired
  | committed
  | revoked
deriving DecidableEq

/-- The `state` column of a mutation lock. -/
inductive LockState where
  | held
  | needsReconcile
deriving DecidableEq

/-- The `subject_kind` and `subject_id` columns of a transition. -/
inductive TransitionSubject where
  | attempt (id : Uuid)
  | node (id : WorkflowNodeId)
  | lease (id : Uuid)

/-- A state named in a transition. -/
inductive TransitionState where
  | attempt (state : WorkflowAttemptStateV1)
  | node (state : WorkflowNodeStateV1)
  | lease (state : LeaseState)

/-- The `reason` column of a transition. -/
inductive TransitionReason where
  | sourceAdmitted
  | newerSourceHead
  | workerClaimed
  | workerLeaseRenewed
  | workerLeaseExpired
  | executionDeadlineExpired
  | mutationRequiresReconciliation
  | receiptSucceeded
  | receiptFailed
  | deterministicReduction
  | workerCleanupReconciled

inductive StoreError where
  | constraintViolation
  | queryReturnedNoRows
  | manifest (error : ManifestError)
  | workflowContract (error : WorkflowContractError)
  | invalidWorkflowSchedulerInput (field : String)
  | corruptWorkflowJournal (field : String)
  | workflowPolicyMismatch
  | workflowDeliveryConflict
  | workflowStaleSource
  | workflowSourceConflict
  | workflowLeaseConflict
  | workflowStateConflict
  | workflowReceiptConflict
  | workflowReductionConflict
  | workflowCleanupConflict
  | workflowAttemptNotFound (attemptId : Uuid)
deriving DecidableEq

instance : SqlError StoreError := ⟨.constraintViolation, .queryReturnedNoRows⟩

/-- A contract error raised through `?`. -/
def ofContract {α : Type} : Except WorkflowContractError α → Except StoreError α
  | .ok a => .ok a
  | .error e => .error (.workflowContract e)

theorem ofContract_ok_iff {α : Type} {x : Except WorkflowContractError α} {a : α} :
    ofContract x = .ok a ↔ x = .ok a := by
  cases x <;> simp [ofContract]

/-! ### Rows -/

/-- `workflow_requests`. -/
structure RequestRow where
  requestId : Uuid
  projectId : ProjectId
  workflowPolicyDigest : EvidenceDigest
  sourceSha : GitCommitId
  operationKind : WorkflowExecutionModeV1
  sourceSequence : Nat
  sourceAttestationDigest : EvidenceDigest
  manifestJson : ValidManifest
  priority : Nat
  state : RequestState
  supersededByRequestId : Option Uuid
  createdAtMs : Int
  updatedAtMs : Int

/-- `workflow_project_heads`. -/
structure HeadRow where
  projectId : ProjectId
  sourceSequence : Nat
  sourceSha : GitCommitId
  requestId : Uuid
  updatedAtMs : Int

/-- `workflow_triggers`. -/
structure TriggerRow where
  channel : WorkflowTriggerChannelV1
  deliveryId : String
  payloadDigest : EvidenceDigest
  requestId : Uuid
  receivedAtMs : Int

/-- `workflow_attempts`. -/
structure AttemptRow where
  attemptId : Uuid
  requestId : Uuid
  attemptNumber : Nat
  preparationKey : EvidenceDigest
  state : WorkflowAttemptStateV1
  mutationState : WorkflowMutationStateV1
  cleanupState : WorkflowCleanupStateV1
  createdAtMs : Int
  updatedAtMs : Int
  terminalAtMs : Option Int

/-- `workflow_nodes`. -/
structure NodeRow where
  attemptId : Uuid
  nodeId : WorkflowNodeId
  ordinal : Nat
  nodeKind : WorkflowNodeKindV1
  activation : WorkflowNodeActivationV1
  profileId : WorkflowProfileId
  workerPool : WorkflowWorkerPoolV1
  state : WorkflowNodeStateV1
  leaseGeneration : Nat
  outputDigest : Option EvidenceDigest
  receiptDigest : Option EvidenceDigest
  completedAtMs : Option Int

/-- `workflow_node_dependencies`. -/
structure DependencyRow where
  attemptId : Uuid
  nodeId : WorkflowNodeId
  dependencyNodeId : WorkflowNodeId
deriving DecidableEq

/-- `workflow_operation_state_bindings`. -/
structure BindingRow where
  attemptId : Uuid
  workerId : String
  hostId : String
  stateKey : EvidenceDigest
  stateJson : WorkflowOperationStateV1
  boundAtMs : Int

/-- `workflow_mutation_locks`. -/
structure LockRow where
  projectId : ProjectId
  attemptId : Uuid
  state : LockState
  acquiredAtMs : Int
  updatedAtMs : Int

/-- `workflow_transitions`. -/
structure TransitionRow where
  attemptId : Uuid
  sequence : Nat
  subject : TransitionSubject
  fromState : Option TransitionState
  toState : TransitionState
  reason : TransitionReason
  evidenceDigest : Option EvidenceDigest
  occurredAtMs : Int

/-- `workflow_scheduler_cursor`, a table of one row. -/
structure CursorRow where
  lastProjectId : Option ProjectId
  remainingWeight : Nat

/-- `workflow_lease_journal`. -/
structure LeaseRow (sha256 : Sha256) where
  leaseId : Uuid
  attemptId : Uuid
  nodeId : WorkflowNodeId
  generation : Nat
  workerId : String
  hostId : String
  expectedInputDigest : EvidenceDigest
  leaseDigest : EvidenceDigest
  leaseJson : ValidLease sha256
  state : LeaseState
  leasedAtMs : Int
  expiresAtMs : Int
  closedAtMs : Option Int
  receiptDigest : Option EvidenceDigest

/-- `workflow_node_receipts`. -/
structure ReceiptRow (sha256 : Sha256) where
  receiptDigest : EvidenceDigest
  attemptId : Uuid
  nodeId : WorkflowNodeId
  leaseId : Uuid
  receiptJson : ValidNodeReceipt sha256
  committedAtMs : Int

/-- `workflow_cleanup_receipts`. -/
structure CleanupRow (sha256 : Sha256) where
  receiptDigest : EvidenceDigest
  leaseId : Uuid
  attemptId : Uuid
  nodeId : WorkflowNodeId
  receiptJson : ValidCleanupReceipt sha256
  committedAtMs : Int

/-- `workflow_reductions`. -/
structure ReductionRow (sha256 : Sha256) where
  attemptId : Uuid
  reduceNodeId : WorkflowNodeId
  receiptDigest : EvidenceDigest
  receiptJson : ValidReductionReceipt sha256
  committedAtMs : Int

/-! ### Schemas -/

section Schemas

variable {sha256 : Sha256}

/-- The columns of the UNIQUE clause that identifies a request by what it asks for. -/
def RequestRow.identity (r : RequestRow) :
    ProjectId × EvidenceDigest × GitCommitId × WorkflowExecutionModeV1 :=
  (r.projectId, r.workflowPolicyDigest, r.sourceSha, r.operationKind)

def requestSchema : Schema RequestRow where
  check r := 0 < r.sourceSequence && r.priority ≤ 3 && 0 ≤ r.createdAtMs &&
    r.createdAtMs ≤ r.updatedAtMs &&
    decide (r.state = .superseded ↔ r.supersededByRequestId.isSome)
  distinct r s := decide (r.requestId ≠ s.requestId ∧ r.identity ≠ s.identity)

def headSchema : Schema HeadRow where
  check r := 0 < r.sourceSequence && 0 ≤ r.updatedAtMs
  distinct r s := decide (r.projectId ≠ s.projectId)

def TriggerRow.key (r : TriggerRow) : WorkflowTriggerChannelV1 × String := (r.channel, r.deliveryId)

def triggerSchema : Schema TriggerRow where
  check r := 0 ≤ r.receivedAtMs
  distinct r s := decide (r.key ≠ s.key)

def WorkflowAttemptStateV1.isTerminal (state : WorkflowAttemptStateV1) : Bool :=
  state = .succeeded || state = .failed || state = .superseded

def attemptSchema : Schema AttemptRow where
  check r := 0 < r.attemptNumber && 0 ≤ r.createdAtMs && r.createdAtMs ≤ r.updatedAtMs &&
    r.state.isTerminal == r.terminalAtMs.isSome
  distinct r s := decide (r.attemptId ≠ s.attemptId ∧
    (r.requestId, r.attemptNumber) ≠ (s.requestId, s.attemptNumber))

def WorkflowNodeStateV1.isSettled (state : WorkflowNodeStateV1) : Bool :=
  state = .succeeded || state = .failed || state = .cancelled || state = .needsReconcile

def NodeRow.key (r : NodeRow) : Uuid × WorkflowNodeId := (r.attemptId, r.nodeId)

def nodeSchema : Schema NodeRow where
  check r := decide (r.state = .succeeded ↔ r.outputDigest.isSome) &&
    r.state.isSettled == r.completedAtMs.isSome
  distinct r s := decide (r.key ≠ s.key ∧ (r.attemptId, r.ordinal) ≠ (s.attemptId, s.ordinal))

def dependencySchema : Schema DependencyRow where
  check _ := true
  distinct r s := decide (r ≠ s)

def LeaseRow.key (r : LeaseRow sha256) : Uuid × Uuid := (r.attemptId, r.leaseId)

/-- The columns of the UNIQUE index over active leases. -/
def LeaseRow.node (r : LeaseRow sha256) : Uuid × WorkflowNodeId := (r.attemptId, r.nodeId)

def leaseSchema (sha256 : Sha256) : Schema (LeaseRow sha256) where
  check r := 0 < r.generation && 0 ≤ r.leasedAtMs && r.leasedAtMs < r.expiresAtMs &&
    decide (r.state = .active ↔ r.closedAtMs = none)
  distinct r s := decide (r.leaseId ≠ s.leaseId ∧ r.leaseDigest ≠ s.leaseDigest ∧
    (r.node, r.generation) ≠ (s.node, s.generation) ∧
    ¬ (r.state = .active ∧ s.state = .active ∧ r.node = s.node))

def ReceiptRow.node (r : ReceiptRow sha256) : Uuid × WorkflowNodeId := (r.attemptId, r.nodeId)

def receiptSchema (sha256 : Sha256) : Schema (ReceiptRow sha256) where
  check r := 0 ≤ r.committedAtMs
  distinct r s := decide (r.receiptDigest ≠ s.receiptDigest ∧ r.leaseId ≠ s.leaseId ∧
    r.node ≠ s.node)

def cleanupSchema (sha256 : Sha256) : Schema (CleanupRow sha256) where
  check r := 0 ≤ r.committedAtMs
  distinct r s := decide (r.receiptDigest ≠ s.receiptDigest ∧ r.leaseId ≠ s.leaseId)

def bindingSchema : Schema BindingRow where
  check r := 0 ≤ r.boundAtMs
  distinct r s := decide (r.attemptId ≠ s.attemptId ∧ r.stateKey ≠ s.stateKey)

def reductionSchema (sha256 : Sha256) : Schema (ReductionRow sha256) where
  check r := 0 ≤ r.committedAtMs
  distinct r s := decide (r.attemptId ≠ s.attemptId ∧ r.receiptDigest ≠ s.receiptDigest)

def lockSchema : Schema LockRow where
  check r := 0 ≤ r.acquiredAtMs && r.acquiredAtMs ≤ r.updatedAtMs
  distinct r s := decide (r.projectId ≠ s.projectId ∧ r.attemptId ≠ s.attemptId)

def transitionSchema : Schema TransitionRow where
  check r := 0 < r.sequence && 0 ≤ r.occurredAtMs
  distinct r s := decide ((r.attemptId, r.sequence) ≠ (s.attemptId, s.sequence))

end Schemas

/-- The journal: the workflow tables of the control store. -/
structure Journal (sha256 : Sha256) where
  requests : Table requestSchema
  heads : Table headSchema
  triggers : Table triggerSchema
  attempts : Table attemptSchema
  nodes : Table nodeSchema
  dependencies : Table dependencySchema
  leases : Table (leaseSchema sha256)
  receipts : Table (receiptSchema sha256)
  cleanups : Table (cleanupSchema sha256)
  bindings : Table bindingSchema
  reductions : Table (reductionSchema sha256)
  locks : Table lockSchema
  transitions : Table transitionSchema
  cursor : CursorRow

namespace Journal

variable {sha256 : Sha256}

variable (J : Journal sha256) (id attemptId : Uuid) (projectId : ProjectId)
  (nodeId : WorkflowNodeId)

/-- The journal of a new control store. -/
def empty : Journal sha256 where
  requests := Table.empty
  heads := Table.empty
  triggers := Table.empty
  attempts := Table.empty
  nodes := Table.empty
  dependencies := Table.empty
  leases := Table.empty
  receipts := Table.empty
  cleanups := Table.empty
  bindings := Table.empty
  reductions := Table.empty
  locks := Table.empty
  transitions := Table.empty
  cursor := { lastProjectId := none, remainingWeight := 0 }

/-! ### Rows by key -/

def request : Option RequestRow := J.requests.lookup (·.requestId) id

def attempt : Option AttemptRow := J.attempts.lookup (·.attemptId) id

def node : Option NodeRow :=
  J.nodes.lookup NodeRow.key (attemptId, nodeId)

def lease : Option (LeaseRow sha256) := J.leases.lookup (·.leaseId) id

/-- The receipt of a node (`UNIQUE(attempt_id, node_id)`). -/
def nodeReceipt : Option (ReceiptRow sha256) :=
  J.receipts.lookup ReceiptRow.node (attemptId, nodeId)

/-- The receipt of a lease, as a join on `lease_id` finds it. -/
def leaseReceipt : Option (ReceiptRow sha256) :=
  J.receipts.lookup (·.leaseId) id

/-- The cleanup receipt of a lease, as a join on `lease_id` finds it. -/
def leaseCleanup : Option (CleanupRow sha256) :=
  J.cleanups.lookup (·.leaseId) id

def binding : Option BindingRow :=
  J.bindings.lookup (·.attemptId) attemptId

def reduction : Option (ReductionRow sha256) :=
  J.reductions.lookup (·.attemptId) attemptId

def attemptLock : Option LockRow :=
  J.locks.lookup (·.attemptId) attemptId

def projectLock : Option LockRow :=
  J.locks.lookup (·.projectId) projectId

/-- The dependencies of a node, in the order of their ids. -/
def dependenciesOf : List WorkflowNodeId :=
  sortIds (J.dependencies.select (fun d => d.attemptId = attemptId && d.nodeId = nodeId)
    (·.dependencyNodeId))

end Journal

/-! ### Statements -/

/-- A transaction body over the journal. -/
abbrev Workflow (sha256 : Sha256) (α : Type) := Txn (Journal sha256) StoreError α

section Statements

variable {sha256 : Sha256}

def requestsT : TableRef (Journal sha256) requestSchema :=
  ⟨Journal.requests, fun t J => { J with requests := t }⟩

def headsT : TableRef (Journal sha256) headSchema :=
  ⟨Journal.heads, fun t J => { J with heads := t }⟩

def triggersT : TableRef (Journal sha256) triggerSchema :=
  ⟨Journal.triggers, fun t J => { J with triggers := t }⟩

def attemptsT : TableRef (Journal sha256) attemptSchema :=
  ⟨Journal.attempts, fun t J => { J with attempts := t }⟩

def nodesT : TableRef (Journal sha256) nodeSchema :=
  ⟨Journal.nodes, fun t J => { J with nodes := t }⟩

def dependenciesT : TableRef (Journal sha256) dependencySchema :=
  ⟨Journal.dependencies, fun t J => { J with dependencies := t }⟩

def leasesT : TableRef (Journal sha256) (leaseSchema sha256) :=
  ⟨Journal.leases, fun t J => { J with leases := t }⟩

def receiptsT : TableRef (Journal sha256) (receiptSchema sha256) :=
  ⟨Journal.receipts, fun t J => { J with receipts := t }⟩

def cleanupsT : TableRef (Journal sha256) (cleanupSchema sha256) :=
  ⟨Journal.cleanups, fun t J => { J with cleanups := t }⟩

def bindingsT : TableRef (Journal sha256) bindingSchema :=
  ⟨Journal.bindings, fun t J => { J with bindings := t }⟩

def reductionsT : TableRef (Journal sha256) (reductionSchema sha256) :=
  ⟨Journal.reductions, fun t J => { J with reductions := t }⟩

def locksT : TableRef (Journal sha256) lockSchema :=
  ⟨Journal.locks, fun t J => { J with locks := t }⟩

def transitionsT : TableRef (Journal sha256) transitionSchema :=
  ⟨Journal.transitions, fun t J => { J with transitions := t }⟩

def appendTransition (attemptId : Uuid) (subject : TransitionSubject)
    (fromState : Option TransitionState) (toState : TransitionState) (reason : TransitionReason)
    (evidenceDigest : Option EvidenceDigest) (occurredAtMs : Int) : Workflow sha256 Unit := do
  let current ← Txn.read fun J =>
    (J.transitions.select (·.attemptId = attemptId) (·.sequence)).foldr max 0
  transitionsT.insert (fun J r => (J.attempt r.attemptId).isSome)
    { attemptId, sequence := current + 1, subject, fromState, toState, reason
      evidenceDigest, occurredAtMs }

end Statements

/-! ### Keys -/

section Keys

variable {sha256 : Sha256}

theorem requests_by_id : requestSchema.Separates (·.requestId) := by
  intro r s h
  exact (decide_eq_true_eq.mp h).1

theorem attempts_by_id : attemptSchema.Separates (·.attemptId) := by
  intro r s h
  exact (decide_eq_true_eq.mp h).1

theorem attempts_by_number : attemptSchema.Separates fun r => (r.requestId, r.attemptNumber) := by
  intro r s h
  exact (decide_eq_true_eq.mp h).2

theorem nodes_by_key : nodeSchema.Separates NodeRow.key := by
  intro r s h
  exact (decide_eq_true_eq.mp h).1

theorem leases_by_id : (leaseSchema sha256).Separates (·.leaseId) := by
  intro r s h
  exact (decide_eq_true_eq.mp h).1

theorem leases_by_key : (leaseSchema sha256).Separates LeaseRow.key := by
  intro r s h hk
  exact leases_by_id r s h (Prod.ext_iff.mp hk).2

theorem receipts_by_lease : (receiptSchema sha256).Separates (·.leaseId) := by
  intro r s h
  exact (decide_eq_true_eq.mp h).2.1

theorem receipts_by_node : (receiptSchema sha256).Separates ReceiptRow.node := by
  intro r s h
  exact (decide_eq_true_eq.mp h).2.2

theorem cleanups_by_lease : (cleanupSchema sha256).Separates (·.leaseId) := by
  intro r s h
  exact (decide_eq_true_eq.mp h).2

theorem bindings_by_attempt : bindingSchema.Separates (·.attemptId) := by
  intro r s h
  exact (decide_eq_true_eq.mp h).1

theorem reductions_by_attempt : (reductionSchema sha256).Separates (·.attemptId) := by
  intro r s h
  exact (decide_eq_true_eq.mp h).1

theorem locks_by_project : lockSchema.Separates (·.projectId) := by
  intro r s h
  exact (decide_eq_true_eq.mp h).1

theorem locks_by_attempt : lockSchema.Separates (·.attemptId) := by
  intro r s h
  exact (decide_eq_true_eq.mp h).2

end Keys

end Rdashboard
