import Rdashboard.Scheduler.Admission

/-! # Expiry and renewal of leases

Expiry collects the active leases that are due and closes them one by one.  A lease over an
exclusive delivery leaves its attempt for reconciliation, a lease that ran into its execution
deadline fails its attempt, and any other lease gives its node back.  A lease can be renewed
up to its execution deadline. -/

namespace Rdashboard

open Relational Txn Session Check

variable {sha256 : Sha256}

variable (J : Journal sha256) (attemptId : Uuid) (nodeId : WorkflowNodeId) (nowMs : Int)

def isSelfUpdateHandoffRelease (manifest : ProjectManifestV2) (kind : WorkflowNodeKindV1) : Bool :=
  manifest.workflow.deliveryMode = .selfUpdateHandoff && kind = .releaseBuild

/-- Does a node of this kind need the mutation lock of its project?  The condition of
`candidate_requires_exclusive_delivery` and of `uncertain_delivery`. -/
def exclusiveDelivery (mode : WorkflowExecutionModeV1) (manifest : ProjectManifestV2)
    (kind : WorkflowNodeKindV1) : Bool :=
  mode = .deploy && (kind.isMutation || isSelfUpdateHandoffRelease manifest kind)

def executionDeadlineMs (leasedAtMs : Int) (executionTimeoutMs : Nat) : Except StoreError Int := do
  ensure ((executionTimeoutMs : Int) ≤ i64Max)
    (.invalidWorkflowSchedulerInput "execution timeout")
  ensure (leasedAtMs + executionTimeoutMs ≤ i64Max)
    (.invalidWorkflowSchedulerInput "execution deadline")
  .ok (leasedAtMs + executionTimeoutMs)

/-- The end of a lease, never past its execution deadline. -/
def boundedLeaseExpiry (leasedAtMs nowMs leaseDurationMs : Int) (executionTimeoutMs : Nat) :
    Except StoreError Int := do
  let executionDeadline ← executionDeadlineMs leasedAtMs executionTimeoutMs
  ensure (nowMs + leaseDurationMs ≤ i64Max) (.invalidWorkflowSchedulerInput "lease expiry")
  ensure (nowMs < min (nowMs + leaseDurationMs) executionDeadline) .workflowLeaseConflict
  .ok (min (nowMs + leaseDurationMs) executionDeadline)

/-! ### Expiry -/

/-- Set the state of the leased node `nodeId`; `complete` is its `completed_at_ms` column. -/
def settleLeasedNode (state : WorkflowNodeStateV1) (complete : Option Int → Option Int) :
    Workflow sha256 Unit := do
  let changed ← nodesT.update
    (fun n => n.attemptId = attemptId && n.nodeId = nodeId && n.state = .leased)
    (fun n => { n with state, completedAtMs := complete n.completedAtMs })
  ensure (changed = 1) .workflowStateConflict

/-- A mutation whose lease expires is left to reconciliation, and its lock with it. -/
def expireMutationLease : Workflow sha256 Unit := do
  settleLeasedNode attemptId nodeId .needsReconcile fun _ => some nowMs
  let changed ← attemptsT.update (·.attemptId = attemptId)
    (fun a => { a with
      state := .needsReconcile, mutationState := .needsReconcile, cleanupState := .pending
      updatedAtMs := nowMs })
  ensure (changed = 1) .workflowStateConflict
  let changed ← locksT.update (·.attemptId = attemptId)
    (fun k => { k with state := .needsReconcile, updatedAtMs := nowMs })
  ensure (changed = 1) (.corruptWorkflowJournal "mutation lease without project lock")

/-- A lease that ran into its execution deadline fails its attempt. -/
def expireAtDeadline (leaseDigest : EvidenceDigest) (nowMs : Int) : Workflow sha256 Unit := do
  settleLeasedNode attemptId nodeId .failed fun _ => some nowMs
  failTerminalWorkflow attemptId .pending nowMs
  appendTransition attemptId (.node nodeId) (some (.node .leased)) (.node .failed)
    .executionDeadlineExpired (some leaseDigest) nowMs

/-- A lease that was not renewed gives its node back. -/
def expireToReady : Workflow sha256 Unit := do
  settleLeasedNode attemptId nodeId .ready id
  let changed ← attemptsT.update (·.attemptId = attemptId)
    (fun a => { a with cleanupState := .pending, updatedAtMs := nowMs })
  ensure (changed = 1) .workflowStateConflict

/-- Close an active lease as expired. -/
def closeExpiredLease (leaseId : Uuid) (nowMs : Int) : Workflow sha256 Unit := do
  let changed ← leasesT.update (fun l => l.leaseId = leaseId && l.state = .active)
    (fun l => { l with state := .expired, closedAtMs := some nowMs })
  ensure (changed = 1) .workflowLeaseConflict

/-- `expire_one_lease`, for a row collected before the first lease was closed. -/
def expireOneLease (row : LeaseRow sha256) : Workflow sha256 Unit := do
  let lease := row.leaseJson.1
  ensure (lease.leaseId = row.leaseId ∧ lease.attemptId = row.attemptId ∧
    lease.nodeId = row.nodeId) (.corruptWorkflowJournal "expired lease binding")
  let node ← read fun J => J.node row.attemptId row.nodeId
  let node ← require node .queryReturnedNoRows
  ensure (node.state = .leased) (.corruptWorkflowJournal "active lease node state")
  closeExpiredLease row.leaseId nowMs
  let context ← loadAttemptContext row.attemptId
  let uncertainDelivery :=
    exclusiveDelivery context.executionMode context.manifest.1 node.nodeKind
  let executionDeadline ← lift (executionDeadlineMs lease.leasedAtMs lease.timeoutMs)
  let executionDeadlineExpired := lease.expiresAtMs = executionDeadline
  if uncertainDelivery then expireMutationLease row.attemptId row.nodeId nowMs
  else if executionDeadlineExpired then
    expireAtDeadline row.attemptId row.nodeId lease.leaseDigest nowMs
  else expireToReady row.attemptId row.nodeId nowMs
  appendTransition row.attemptId (.lease row.leaseId) (some (.lease .active)) (.lease .expired)
    (if uncertainDelivery then .mutationRequiresReconciliation
      else if executionDeadlineExpired then .executionDeadlineExpired else .workerLeaseExpired)
    (some lease.leaseDigest) nowMs

/-- Is a lease active and due at `nowMs`? -/
def LeaseRow.due (l : LeaseRow sha256) : Bool :=
  l.state = .active && l.expiresAtMs ≤ nowMs

/-- The order in which expiry closes leases: by expiry, then by id. -/
def LeaseRow.expiresBefore (a b : LeaseRow sha256) : Prop :=
  a.expiresAtMs < b.expiresAtMs ∨ (a.expiresAtMs = b.expiresAtMs ∧ a.leaseId ≤ b.leaseId)

instance : DecidableRel (@LeaseRow.expiresBefore sha256) := fun a b =>
  inferInstanceAs (Decidable (a.expiresAtMs < b.expiresAtMs ∨
    (a.expiresAtMs = b.expiresAtMs ∧ a.leaseId ≤ b.leaseId)))

/-- The due leases, in the order in which expiry closes them. -/
def Journal.dueLeases : List (LeaseRow sha256) :=
  (J.leases.rows.filter (LeaseRow.due nowMs)).insertionSort LeaseRow.expiresBefore

def expireLeasesTransaction : Workflow sha256 Nat := do
  let rows ← read fun J => J.dueLeases nowMs
  each (expireOneLease nowMs) rows
  pure rows.length

def expireLeases : Session (Journal sha256) StoreError Nat := do
  ensure (0 ≤ nowMs) (.invalidWorkflowSchedulerInput "lease expiry time")
  immediateTransaction (expireLeasesTransaction nowMs)

/-! ### Renewal -/

structure WorkflowWorkerRegistrationV1 where
  workerId : String
  hostId : String
  pools : List WorkflowWorkerPoolV1

/-- `WorkflowWorkerRegistrationV1::validate`; the pools are a set. -/
def WorkflowWorkerRegistrationV1.validate (worker : WorkflowWorkerRegistrationV1) :
    Except StoreError Unit :=
  ensure (validWorkflowIdentity worker.workerId ∧ validWorkflowIdentity worker.hostId ∧
    worker.pools ≠ [] ∧ worker.pools.dedup.length ≤ 4)
    (.invalidWorkflowSchedulerInput "worker registration")

def minLeaseMs : Int := 1000

def maxLeaseMs : Int := 15 * 60 * 1000

/-- Renew a lease; an older copy of it is answered with the current one. -/
def renewLeaseTransaction (supplied : WorkflowLeaseV1) (nowMs leaseDurationMs : Int) :
    Workflow sha256 (ValidLease sha256) := do
  let row ← read fun J => J.lease supplied.leaseId
  let row ← require row .workflowLeaseConflict
  ensure (row.state = .active) .workflowLeaseConflict
  let current := row.leaseJson
  ensure (current.1.sameLeaseAssignment supplied ∧
    supplied.expiresAtMs ≤ current.1.expiresAtMs) .workflowLeaseConflict
  if supplied.leaseDigest ≠ current.1.leaseDigest then pure current
  else do
    let expiresAtMs ← lift (boundedLeaseExpiry current.1.leasedAtMs nowMs leaseDurationMs
      current.1.timeoutMs)
    if expiresAtMs ≤ current.1.expiresAtMs then pure current
    else do
      let renewed ← lift (ofContract (current.1.renewed sha256 expiresAtMs))
      let changed ← leasesT.update
        (fun l => l.leaseId = renewed.1.leaseId && l.state = .active &&
          l.leaseDigest = current.1.leaseDigest)
        (fun l => { l with
          leaseDigest := renewed.1.leaseDigest, leaseJson := renewed
          expiresAtMs := renewed.1.expiresAtMs })
      ensure (changed = 1) .workflowLeaseConflict
      appendTransition renewed.1.attemptId (.lease renewed.1.leaseId) (some (.lease .active))
        (.lease .active) .workerLeaseRenewed (some renewed.1.leaseDigest) nowMs
      pure renewed

def renewLease (worker : WorkflowWorkerRegistrationV1) (lease : WorkflowLeaseV1)
    (nowMs leaseDurationMs : Int) : Session (Journal sha256) StoreError (ValidLease sha256) := do
  lift worker.validate
  lift (ofContract (lease.validate sha256))
  ensure (0 ≤ nowMs ∧ minLeaseMs ≤ leaseDurationMs ∧ leaseDurationMs ≤ maxLeaseMs ∧
    worker.workerId = lease.workerId ∧ worker.hostId = lease.hostId ∧
    lease.workerPool ∈ worker.pools) (.invalidWorkflowSchedulerInput "lease renewal")
  immediateTransaction do
    let _ ← expireLeasesTransaction nowMs
    renewLeaseTransaction lease nowMs leaseDurationMs

end Rdashboard
