import Rdashboard.Scheduler.Snapshot

/-! # How an attempt moves on

The functions that a receipt, an expiry, a reduction or a newer head end in: nodes become
ready when their dependencies have succeeded, waiting attempts wake when the mutation lock
of their project is gone, and an attempt completes, fails, or is left for reconciliation. -/

namespace Rdashboard

open Relational Txn

variable {sha256 : Sha256}

variable (J : Journal sha256) (attemptId : Uuid) (cleanupResult : WorkflowCleanupResultV1)
  (recordedAtMs : Int)

/-- Is a node blocked only by the outcome of its dependencies, and have they all succeeded?
The query of `advance_ready_nodes`. -/
def Journal.unblocked (node : NodeRow) : Bool :=
  node.state = .blocked && node.activation = .always &&
    !(J.dependencies.rows.any fun d => d.attemptId = node.attemptId && d.nodeId = node.nodeId &&
      (J.node node.attemptId d.dependencyNodeId).any (·.state ≠ .succeeded))

/-- Release one blocked node. -/
def releaseNode (node : NodeRow) : Workflow sha256 Unit := do
  let _ ← nodesT.update
    (fun n => n.attemptId = attemptId && n.nodeId = node.nodeId && n.state = .blocked)
    (fun n => { n with state := .ready })
  pure ()

/-- The loop of `advance_ready_nodes`.  Every round but the last leaves fewer nodes blocked,
so as many rounds as there are blocked nodes suffice. -/
def advanceLoop (attemptId : Uuid) : Nat → Workflow sha256 Unit
  | 0 => pure ()
  | rounds + 1 => do
    let ready ← read fun J =>
      (J.orderedNodes attemptId).filter fun node => J.unblocked node
    if ready = [] then pure ()
    else do
      each (releaseNode attemptId) ready
      advanceLoop attemptId rounds

/-- Release the nodes whose dependencies have all succeeded. -/
def advanceReadyNodes : Workflow sha256 Unit := do
  let blocked ← read fun J =>
    J.nodes.count fun n => n.attemptId = attemptId && n.state = .blocked
  advanceLoop attemptId blocked

/-- The attempts `wake_waiting_attempts` wakes: they wait for a lock that nobody holds. -/
def Journal.wakeable : List AttemptRow :=
  (J.attempts.rows.filter fun a => a.state = .waitingForMutation &&
    (J.request a.requestId).any fun request =>
      request.state = .active && (J.projectLock request.projectId).isNone).insertionSort
    (·.createdAtMs ≤ ·.createdAtMs)

/-- Wake one waiting attempt. -/
def wakeAttempt (nowMs : Int) : Workflow sha256 Unit := do
  let _ ← attemptsT.update
    (fun a => a.attemptId = attemptId && a.state = .waitingForMutation)
    (fun a => { a with state := .queued, updatedAtMs := nowMs })
  let _ ← nodesT.update
    (fun n => n.attemptId = attemptId && n.nodeKind = .hostPrepare && n.state = .blocked)
    (fun n => { n with state := .ready })
  pure ()

def wakeWaitingAttempts (nowMs : Int) : Workflow sha256 Unit := do
  let attempts ← read fun J => J.wakeable
  each (fun a : AttemptRow => wakeAttempt a.attemptId nowMs) attempts

/-- The number of active leases of an attempt. -/
def Journal.activeLeases : Nat :=
  J.leases.count fun l => l.attemptId = attemptId && l.state = .active

/-- Revoke the active leases of an attempt and cancel the nodes that are not settled. -/
def revokeWork : Workflow sha256 Unit := do
  let _ ← leasesT.update
    (fun l => l.attemptId = attemptId && l.state = .active)
    (fun l => { l with state := .revoked, closedAtMs := some recordedAtMs })
  let _ ← nodesT.update
    (fun n => n.attemptId = attemptId && (n.state = .dormant || n.state = .blocked ||
      n.state = .ready || n.state = .leased))
    (fun n => { n with state := .cancelled, completedAtMs := some recordedAtMs })
  pure ()

/-- Close the active request of an attempt (`UPDATE … WHERE request_id = (SELECT …)`). -/
def terminateRequest : Workflow sha256 Unit := do
  let requestId ← read fun J => (J.attempt attemptId).map (·.requestId)
  let changed ← requestsT.update
    (fun r => some r.requestId = requestId && r.state = .active)
    (fun r => { r with state := .terminal, updatedAtMs := recordedAtMs })
  ensure (changed = 1) .workflowStateConflict

/-- A failed delivery keeps its lock and waits for reconciliation. -/
def markWorkflowNeedsReconcile : Workflow sha256 Unit := do
  let cleanupState : WorkflowCleanupStateV1 := match cleanupResult with
    | .complete => .complete
    | .pending => .pending
  let changed ← attemptsT.update (·.attemptId = attemptId)
    (fun a => { a with
      state := .needsReconcile, mutationState := .needsReconcile, cleanupState
      updatedAtMs := recordedAtMs })
  ensure (changed = 1) .workflowStateConflict
  let changed ← locksT.update (·.attemptId = attemptId)
    (fun k => { k with state := .needsReconcile, updatedAtMs := recordedAtMs })
  ensure (changed = 1) (.corruptWorkflowJournal "mutation failure without lock")

/-- Fail an attempt that has not begun to deliver, and revoke its work. -/
def failTerminalWorkflow : Workflow sha256 Unit := do
  let activeLeases ← read fun J => J.activeLeases attemptId
  revokeWork attemptId recordedAtMs
  let cleanupState : WorkflowCleanupStateV1 :=
    if activeLeases = 0 ∧ cleanupResult = .complete then .complete else .pending
  let changed ← attemptsT.update
    (fun a => a.attemptId = attemptId && a.mutationState = .notStarted)
    (fun a => { a with
      state := .failed, cleanupState, updatedAtMs := recordedAtMs
      terminalAtMs := some recordedAtMs })
  ensure (changed = 1) .workflowStateConflict
  terminateRequest attemptId recordedAtMs

def failWorkflow (nodeKind : WorkflowNodeKindV1) (cleanupResult : WorkflowCleanupResultV1)
    (handoffPublication : Bool) (recordedAtMs : Int) : Workflow sha256 Unit :=
  if nodeKind.isMutation || handoffPublication then
    markWorkflowNeedsReconcile attemptId cleanupResult recordedAtMs
  else failTerminalWorkflow attemptId cleanupResult recordedAtMs

/-- `shadow_executes`: the kinds of node that a shadow run executes. -/
def shadowExecutes : WorkflowNodeKindV1 → Bool
  | .sourceAdmission | .hostPrepare | .verification | .releaseBuild | .deterministicReduce => true
  | _ => false

/-- The state `complete_shadow_workflow` expects of a node. -/
def shadowOutcome (kind : WorkflowNodeKindV1) : WorkflowNodeStateV1 :=
  if shadowExecutes kind then .succeeded else .cancelled

def completeShadowWorkflow (context : AttemptContext) (recordedAtMs : Int) :
    Workflow sha256 Unit := do
  ensure (context.executionMode = .shadow ∧ context.mutationState = .notStarted)
    .workflowStateConflict
  let rows ← read fun J => J.nodes.rows.filter (·.attemptId = context.attemptId)
  ensure (∀ n ∈ rows, n.state = shadowOutcome n.nodeKind) .workflowStateConflict
  let pendingCleanup ← read fun J => J.unresolvedCleanupCount context.attemptId
  ensure (pendingCleanup = 0) .workflowStateConflict
  let mutationLocks ← read fun J => J.locks.count (·.attemptId = context.attemptId)
  ensure (mutationLocks = 0) (.corruptWorkflowJournal "shadow workflow acquired a mutation lock")
  let changed ← attemptsT.update
    (fun a => a.attemptId = context.attemptId && a.state = .running &&
      a.mutationState = .notStarted)
    (fun a => { a with
      state := .succeeded, cleanupState := .complete, updatedAtMs := recordedAtMs
      terminalAtMs := some recordedAtMs })
  ensure (changed = 1) .workflowStateConflict
  let changed ← requestsT.update
    (fun r => r.requestId = context.requestId && r.operationKind = .shadow && r.state = .active)
    (fun r => { r with state := .terminal, updatedAtMs := recordedAtMs })
  ensure (changed = 1) .workflowStateConflict

/-- End a delivery that succeeded, and give its lock back. -/
def completeWorkflow : Workflow sha256 Unit := do
  let incomplete ← read fun J =>
    J.nodes.count fun n => n.attemptId = attemptId && n.activation = .always && n.state ≠ .succeeded
  let pendingCleanup ← read fun J => J.unresolvedCleanupCount attemptId
  ensure (incomplete = 0 ∧ pendingCleanup = 0) .workflowStateConflict
  let _ ← nodesT.update
    (fun n => n.attemptId = attemptId && n.activation = .onMutationFailure && n.state = .dormant)
    (fun n => { n with state := .cancelled, completedAtMs := some recordedAtMs })
  let changed ← attemptsT.update
    (fun a => a.attemptId = attemptId && a.state = .running)
    (fun a => { a with
      state := .succeeded, mutationState := .complete, cleanupState := .complete
      updatedAtMs := recordedAtMs, terminalAtMs := some recordedAtMs })
  ensure (changed = 1) .workflowStateConflict
  terminateRequest attemptId recordedAtMs
  let changed ← locksT.delete (fun k => k.attemptId = attemptId && k.state = .held)
  ensure (changed = 1) (.corruptWorkflowJournal "completed mutation without held project lock")
  wakeWaitingAttempts recordedAtMs

end Rdashboard
