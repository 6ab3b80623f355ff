import Rdashboard.Scheduler.Expiry

/-! # Claiming work

`claimNext` expires due leases, wakes waiting attempts, picks at most one ready node per
project, orders the projects fairly, and grants a lease on the first candidate that the
worker can take: one whose project's mutation lock is free or its own, when the node needs
it, and whose operation state is free on the worker's host, when the node uses one. -/

namespace Rdashboard

open Relational Txn Check WorkflowWorkerPoolV1

variable {sha256 : Sha256}

/-! ### Candidates -/

/-- `ReadyCandidate`: a ready node with its place in the manifest. -/
structure ReadyCandidate where
  requestId : Uuid
  attemptId : Uuid
  projectId : ProjectId
  sourceSha : GitCommitId
  sourceSequence : Nat
  sourceAttestationDigest : EvidenceDigest
  workflowPolicyDigest : EvidenceDigest
  preparationKey : EvidenceDigest
  leaseGeneration : Nat
  executionMode : WorkflowExecutionModeV1
  manifest : ValidManifest
  node : WorkflowNodeV1
  profile : WorkflowExecutionProfileV1

variable (J : Journal sha256) (candidate : ReadyCandidate) (worker : WorkflowWorkerRegistrationV1)
  (nowMs leaseDurationMs : Int) (leaseId : Uuid) (cursor : CursorRow)

/-- A row of the candidate query: a node with its attempt and request. -/
structure CandidateRow where
  node : NodeRow
  attempt : AttemptRow
  request : RequestRow

/-- The order of the candidate query: higher priority, then older request, then ordinal,
then node id. -/
def CandidateRow.before (a b : CandidateRow) : Prop :=
  b.request.priority < a.request.priority ∨ (a.request.priority = b.request.priority ∧
    (a.request.createdAtMs < b.request.createdAtMs ∨
      (a.request.createdAtMs = b.request.createdAtMs ∧
        (a.node.ordinal < b.node.ordinal ∨
          (a.node.ordinal = b.node.ordinal ∧ a.node.nodeId ≤ b.node.nodeId)))))

instance : DecidableRel CandidateRow.before := fun a b =>
  inferInstanceAs (Decidable (b.request.priority < a.request.priority ∨
    (a.request.priority = b.request.priority ∧
      (a.request.createdAtMs < b.request.createdAtMs ∨
        (a.request.createdAtMs = b.request.createdAtMs ∧
          (a.node.ordinal < b.node.ordinal ∨
            (a.node.ordinal = b.node.ordinal ∧ a.node.nodeId ≤ b.node.nodeId)))))))

/-- The attempt and request of a node row, when a worker may claim the node. -/
def Journal.candidateRow (node : NodeRow) : Option CandidateRow :=
  (J.attempt node.attemptId).bind fun attempt =>
    (J.request attempt.requestId).bind fun request =>
      if node.state = .ready ∧ node.nodeKind ≠ .deterministicReduce ∧
          (attempt.state = .queued ∨ attempt.state = .running) ∧ request.state = .active then
        some { node, attempt, request }
      else none

/-- `read_ready_candidate_rows`. -/
def Journal.readyCandidateRows : List CandidateRow :=
  (J.nodes.rows.filterMap J.candidateRow).insertionSort CandidateRow.before

def nodeUsesOperationState (node : WorkflowNodeV1) (adapter : WorkflowAdapterIdV1) : Bool :=
  adapter = .workerBareBinCiV1 || adapter = .workerNativeReleaseBuildV1 ||
    (adapter = .workerOciReleaseBuildV1 && .verificationReceipt ∈ node.inputContracts)

def verificationFeedsSharedReleaseOutput (manifest : ProjectManifestV2) (node : WorkflowNodeV1) :
    Bool :=
  node.kind = .verification && manifest.workflow.nodes.any fun candidate =>
    candidate.kind = .releaseBuild && node.nodeId ∈ candidate.dependsOn &&
      (manifest.workflow.profile candidate.profileId).any fun profile =>
        nodeUsesOperationState candidate profile.adapterId

/-- One row of the loop of `load_ready_candidates`: the candidate it contributes, if any. -/
def candidateOfRow (sha256 : Sha256) (worker : WorkflowWorkerRegistrationV1)
    (row : CandidateRow) : Except StoreError (Option ReadyCandidate) := do
  let manifest := row.request.manifestJson
  ensure (manifest.1.projectId = row.request.projectId ∧
    manifest.1.workflowPolicyDigest sha256 = row.request.workflowPolicyDigest)
    .workflowPolicyMismatch
  let node ← require (manifest.1.workflow.node row.node.nodeId)
    (.corruptWorkflowJournal "candidate node absent")
  let profile ← require (manifest.1.workflow.profile node.profileId)
    (.corruptWorkflowJournal "candidate profile absent")
  ensure (node.kind = row.node.nodeKind ∧ node.profileId = row.node.profileId ∧
    profile.workerPool = row.node.workerPool)
    (.corruptWorkflowJournal "candidate manifest binding")
  ensure (row.request.operationKind = .shadow → shadowExecutes node.kind)
    (.corruptWorkflowJournal "shadow workflow exposed a mutation candidate")
  if verificationFeedsSharedReleaseOutput manifest.1 node ∧
      vpsRequired ∉ worker.pools then .ok none
  else
    .ok (some
      { requestId := row.request.requestId
        attemptId := row.attempt.attemptId
        projectId := row.request.projectId
        sourceSha := row.request.sourceSha
        sourceSequence := row.request.sourceSequence
        sourceAttestationDigest := row.request.sourceAttestationDigest
        workflowPolicyDigest := row.request.workflowPolicyDigest
        preparationKey := row.attempt.preparationKey
        leaseGeneration := row.node.leaseGeneration
        executionMode := row.request.operationKind
        manifest, node, profile })

/-- The loop of `load_ready_candidates`: the first usable row of each project, in the order of
project ids. -/
def loadReadyCandidatesLoop (sha256 : Sha256) (worker : WorkflowWorkerRegistrationV1) :
    List ReadyCandidate → List CandidateRow → Except StoreError (List ReadyCandidate)
  | byProject, [] => .ok byProject
  | byProject, row :: rest =>
    if row.node.workerPool ∉ worker.pools ∨
        row.request.projectId ∈ byProject.map (·.projectId) then
      loadReadyCandidatesLoop sha256 worker byProject rest
    else do
      match ← candidateOfRow sha256 worker row with
      | none => loadReadyCandidatesLoop sha256 worker byProject rest
      | some candidate =>
        loadReadyCandidatesLoop sha256 worker
          (byProject.orderedInsert (fun a b => a.projectId ≤ b.projectId) candidate) rest

/-- The ready nodes that the worker may run. -/
def Journal.loadReadyCandidates : Except StoreError (List ReadyCandidate) :=
  loadReadyCandidatesLoop sha256 worker [] J.readyCandidateRows

def rotateLeft {α : Type} (xs : List α) (index : Nat) : List α := xs.drop index ++ xs.take index

/-- `fair_candidate_order`: start at the last project while it has weight left, else at the
next project after it. -/
def fairCandidateOrder (candidates : List ReadyCandidate) (cursor : CursorRow) :
    List ReadyCandidate :=
  match cursor.lastProjectId with
  | none => candidates
  | some last =>
    match candidates.findIdx? (·.projectId = last) with
    | some index =>
      if 0 < cursor.remainingWeight then rotateLeft candidates index
      else rotateLeft candidates ((candidates.findIdx? (last < ·.projectId)).getD 0)
    | none => rotateLeft candidates ((candidates.findIdx? (last < ·.projectId)).getD 0)

/-- Spend one unit of the weight of the project, or begin its turn. -/
def updateFairnessCursor (previous : CursorRow) : Workflow sha256 Unit := fun J =>
  let remaining :=
    if previous.lastProjectId = some candidate.projectId ∧ 0 < previous.remainingWeight then
      previous.remainingWeight - 1
    else candidate.manifest.1.workflow.fairnessWeight - 1
  .ok ((), { J with
    cursor := { lastProjectId := some candidate.projectId, remainingWeight := remaining } })

/-! ### The mutation lock -/

/-- `candidate_requires_exclusive_delivery`. -/
def ReadyCandidate.requiresExclusiveDelivery : Bool :=
  exclusiveDelivery candidate.executionMode candidate.manifest.1 candidate.node.kind

/-- `acquire_mutation_lock`: may the candidate's attempt mutate its project? -/
def acquireMutationLock : Workflow sha256 Bool := do
  match ← read fun J => J.projectLock candidate.projectId with
  | some owner =>
    if owner.attemptId ≠ candidate.attemptId then pure false
    else do
      ensure (owner.state = .held) .workflowStateConflict
      pure true
  | none => do
    locksT.insert (fun J k => (J.attempt k.attemptId).isSome)
      { projectId := candidate.projectId
        attemptId := candidate.attemptId
        state := .held
        acquiredAtMs := nowMs
        updatedAtMs := nowMs }
    let changed ← attemptsT.update
      (fun a => a.attemptId = candidate.attemptId && a.mutationState = .notStarted)
      (fun a => { a with mutationState := .owned, updatedAtMs := nowMs })
    ensure (changed = 1) .workflowStateConflict
    pure true

/-! ### Operation state -/

inductive OperationStateSelection where
  | notUsed
  | ready (state : WorkflowOperationStateV1)
  | busy

/-- The subject of an operation state kept by `worker` for the candidate's attempt. -/
def ReadyCandidate.operationStateSubject : OperationStateSubject where
  attemptId := candidate.attemptId
  projectId := candidate.projectId
  sourceSha := candidate.sourceSha
  workflowPolicyDigest := candidate.workflowPolicyDigest
  preparationKey := candidate.preparationKey
  workerId := worker.workerId
  hostId := worker.hostId

def Journal.activeOperationStateOnHost (attemptId : Uuid) (workerId hostId : String) : Bool :=
  J.leases.rows.any fun l => l.attemptId = attemptId && l.workerId = workerId &&
    l.hostId = hostId && l.state = .active && l.leaseJson.1.operationState.isSome

/-- The nodes of a manifest that a worker of these pools could run on one operation state;
the selection of `remaining_operation_state_consumers` before it looks at node states. -/
def operationStateNode (manifest : ProjectManifestV2) (pools : List WorkflowWorkerPoolV1)
    (node : WorkflowNodeV1) : Except StoreError Bool := do
  let profile ← require (manifest.workflow.profile node.profileId)
    (.corruptWorkflowJournal "operation-state profile absent")
  .ok (nodeUsesOperationState node profile.adapterId && profile.cacheClass = .preparedRun &&
    profile.workerPool ∈ pools)

/-- The loop of `remaining_operation_state_consumers`. -/
def remainingConsumersLoop (candidate : ReadyCandidate) (worker : WorkflowWorkerRegistrationV1) :
    List WorkflowNodeV1 → Workflow sha256 (List WorkflowNodeId)
  | [] => pure []
  | node :: rest => do
    if ← lift (operationStateNode candidate.manifest.1 worker.pools node) then do
      let row ← read fun J => J.node candidate.attemptId node.nodeId
      let row ← require row .queryReturnedNoRows
      let consumers ← remainingConsumersLoop candidate worker rest
      pure (if row.state = .blocked ∨ row.state = .ready then node.nodeId :: consumers
        else consumers)
    else remainingConsumersLoop candidate worker rest

def remainingOperationStateConsumers : Workflow sha256 (List WorkflowNodeId) := do
  let consumers ← remainingConsumersLoop candidate worker candidate.manifest.1.workflow.nodes
  ensure (candidate.node.nodeId ∈ consumers)
    (.corruptWorkflowJournal "operation-state candidate absent")
  pure (sortIds consumers)

def adapterWritesOperationState (adapter : WorkflowAdapterIdV1) : Bool :=
  adapter = .workerBareBinCiV1

/-- The resources that the consumers of an operation state may write to it. -/
def consumerBounds (manifest : ProjectManifestV2) :
    List WorkflowNodeId → Except StoreError (Nat × Nat)
  | [] => .ok (0, 0)
  | consumer :: rest => do
    let node ← require (manifest.workflow.node consumer)
      (.corruptWorkflowJournal "operation-state consumer absent")
    let profile ← require (manifest.workflow.profile node.profileId)
      (.corruptWorkflowJournal "operation-state resources absent")
    let resources ← require profile.resources
      (.corruptWorkflowJournal "operation-state resources absent")
    let (maxBytes, maxInodes) ← consumerBounds manifest rest
    .ok (if adapterWritesOperationState profile.adapterId then
      (max resources.scratchMaxBytes maxBytes, max resources.scratchMaxInodes maxInodes)
    else (maxBytes, maxInodes))

def operationStateContract (sha256 : Sha256) (candidate : ReadyCandidate)
    (worker : WorkflowWorkerRegistrationV1) (consumers : List WorkflowNodeId) :
    Except StoreError WorkflowOperationStateV1 := do
  let (maxBytes, maxInodes) ← consumerBounds candidate.manifest.1 consumers
  ofContract (WorkflowOperationStateV1.new sha256 (candidate.operationStateSubject worker)
    consumers (min maxBytes (6 * 1024 * 1024 * 1024)) (min maxInodes 500000))

def decodeBoundOperationState (sha256 : Sha256) (candidate : ReadyCandidate)
    (worker : WorkflowWorkerRegistrationV1) (state : WorkflowOperationStateV1) :
    Except StoreError WorkflowOperationStateV1 := do
  ensure (isOk (state.validateFor sha256 (candidate.operationStateSubject worker)))
    (.corruptWorkflowJournal "operation-state binding")
  .ok state

/-- The branch of `operation_state_for_candidate` for an attempt whose state is bound.  Once a
VPS owns the compiled state, every consumer of the attempt stays on its host. -/
def boundOperationState (binding : BindingRow) : Workflow sha256 OperationStateSelection :=
  if binding.workerId = worker.workerId ∧ binding.hostId = worker.hostId then do
    let state ← lift (decodeBoundOperationState sha256 candidate worker binding.stateJson)
    ensure (candidate.node.nodeId ∈ state.consumerNodes)
      (.corruptWorkflowJournal "operation-state consumer not bound")
    let active ← read fun J =>
      J.activeOperationStateOnHost candidate.attemptId worker.workerId worker.hostId
    pure (if active then .busy else .ready state)
  else pure .busy

/-- The branch of `operation_state_for_candidate` for an attempt without a binding: a VPS binds
the state of all remaining consumers to itself, an accelerator gets one of its own. -/
def unboundOperationState : Workflow sha256 OperationStateSelection :=
  if vpsRequired ∈ worker.pools then do
    let active ← read fun J =>
      J.activeOperationStateOnHost candidate.attemptId worker.workerId worker.hostId
    if active then pure .busy
    else do
      let consumers ← remainingOperationStateConsumers candidate worker
      let state ← lift (operationStateContract sha256 candidate worker consumers)
      bindingsT.insert (fun J b => (J.attempt b.attemptId).isSome)
        { attemptId := candidate.attemptId
          workerId := worker.workerId
          hostId := worker.hostId
          stateKey := state.stateKey
          stateJson := state
          boundAtMs := nowMs }
      pure (.ready state)
  else do
    let state ← lift (operationStateContract sha256 candidate worker [candidate.node.nodeId])
    pure (.ready state)

/-- The operation state of the lease, if the adapter of the node uses one. -/
def operationStateForCandidate : Workflow sha256 OperationStateSelection :=
  if nodeUsesOperationState candidate.node candidate.profile.adapterId = false ∨
      candidate.profile.cacheClass ≠ .preparedRun then pure .notUsed
  else do
    match ← read fun J => J.binding candidate.attemptId with
    | some binding => boundOperationState candidate worker binding
    | none => unboundOperationState candidate worker nowMs

/-! ### Granting a lease -/

/-- The inputs of a node: one for each of its dependencies, all of which have succeeded. -/
def leaseInputs (manifest : ProjectManifestV2) :
    List (WorkflowNodeId × Option NodeRow) → Except StoreError (List WorkflowLeaseInputV1)
  | [] => .ok []
  | (_, none) :: rest => leaseInputs manifest rest
  | (nodeId, some row) :: rest => do
    ensure (row.state = .succeeded) .workflowStateConflict
    let node ← require (manifest.workflow.node nodeId)
      (.corruptWorkflowJournal "dependency absent from manifest")
    let outputDigest ← require row.outputDigest (.corruptWorkflowJournal "dependency output")
    let inputs ← leaseInputs manifest rest
    .ok ({ nodeId, artifactKind := node.outputContract, outputDigest } :: inputs)

def expectedInputDigest : Workflow sha256 (EvidenceDigest × List WorkflowLeaseInputV1) := do
  let rows ← read fun J =>
    (J.dependenciesOf candidate.attemptId candidate.node.nodeId).map fun dependency =>
      (dependency, J.node candidate.attemptId dependency)
  let dependencies ← lift (leaseInputs candidate.manifest.1 rows)
  ensure (dependencies.length = candidate.node.dependsOn.length)
    (.corruptWorkflowJournal "dependency cardinality")
  let digest := sha256 (.nodeInput
    { projectId := candidate.projectId
      sourceSha := candidate.sourceSha
      workflowPolicyDigest := candidate.workflowPolicyDigest
      preparationKey := candidate.preparationKey
      nodeId := candidate.node.nodeId
      dependencies })
  pure (digest, dependencies)

/-- The body of the lease on a candidate; `WorkflowLeaseV1::new` as `claim_next` calls it. -/
def ReadyCandidate.leaseBody (inputArtifacts : List WorkflowLeaseInputV1)
    (expectedInputDigest : EvidenceDigest) (nowMs expiresAtMs : Int) : WorkflowLeaseBodyV1 where
  schemaVersion := 1
  leaseId := leaseId
  leaseGeneration := candidate.leaseGeneration + 1
  requestId := candidate.requestId
  attemptId := candidate.attemptId
  projectId := candidate.projectId
  sourceSha := candidate.sourceSha
  sourceIdentity := some
    { sequence := candidate.sourceSequence
      attestationDigest := candidate.sourceAttestationDigest }
  workflowPolicyDigest := candidate.workflowPolicyDigest
  preparationKey := candidate.preparationKey
  nodeId := candidate.node.nodeId
  nodeKind := candidate.node.kind
  profileId := candidate.profile.profileId
  adapterId := candidate.profile.adapterId
  workerPool := candidate.profile.workerPool
  networkClass := candidate.profile.networkClass
  cacheClass := candidate.profile.cacheClass
  timeoutMs := candidate.profile.timeoutMs
  resources := candidate.profile.resources
  hostPreparation :=
    if candidate.node.kind = .hostPrepare ∨ candidate.node.kind = .verification ∨
        candidate.node.kind = .releaseBuild then candidate.manifest.1.hostPreparation
    else none
  operationState := none
  inputContracts := candidate.node.inputContracts
  inputArtifacts := inputArtifacts
  outputContract := candidate.node.outputContract
  expectedInputDigest := expectedInputDigest
  workerId := worker.workerId
  hostId := worker.hostId
  leasedAtMs := nowMs
  expiresAtMs := expiresAtMs

/-- The row of a new active lease. -/
def newLeaseRow (lease : ValidLease sha256) : LeaseRow sha256 where
  leaseId := lease.1.leaseId
  attemptId := lease.1.attemptId
  nodeId := lease.1.nodeId
  generation := lease.1.leaseGeneration
  workerId := lease.1.workerId
  hostId := lease.1.hostId
  expectedInputDigest := lease.1.expectedInputDigest
  leaseDigest := lease.1.leaseDigest
  leaseJson := lease
  state := .active
  leasedAtMs := lease.1.leasedAtMs
  expiresAtMs := lease.1.expiresAtMs
  closedAtMs := none
  receiptDigest := none

/-- The lease, with its node leased and its attempt running. -/
def persistActiveLease (lease : ValidLease sha256) (previousGeneration : Nat) (nowMs : Int) :
    Workflow sha256 Unit := do
  leasesT.insert (fun J l => (J.node l.attemptId l.nodeId).isSome) (newLeaseRow lease)
  let changed ← nodesT.update
    (fun n => n.attemptId = lease.1.attemptId && n.nodeId = lease.1.nodeId &&
      n.state = .ready && n.leaseGeneration = previousGeneration)
    (fun n => { n with state := .leased, leaseGeneration := lease.1.leaseGeneration })
  ensure (changed = 1) .workflowStateConflict
  let changed ← attemptsT.update
    (fun a => a.attemptId = lease.1.attemptId && (a.state = .queued || a.state = .running))
    (fun a => { a with state := .running, updatedAtMs := nowMs })
  ensure (changed = 1) .workflowStateConflict
  appendTransition lease.1.attemptId (.lease lease.1.leaseId) none (.lease .active)
    .workerClaimed (some lease.1.leaseDigest) nowMs

/-- Put the selected operation state on a lease. -/
def attachOperationState (lease : ValidLease sha256) :
    Option WorkflowOperationStateV1 → Except StoreError (ValidLease sha256)
  | none => .ok lease
  | some state => ofContract (lease.1.withOperationState sha256 state)

/-- Grant a lease on a candidate. -/
def grantLease (operationState : Option WorkflowOperationStateV1) (nowMs leaseDurationMs : Int)
    (leaseId : Uuid) (cursor : CursorRow) : Workflow sha256 (ValidLease sha256) := do
  let (expectedInputDigest, inputArtifacts) ← expectedInputDigest candidate
  ensure (candidate.leaseGeneration + 1 < 2 ^ 32) (.corruptWorkflowJournal "lease generation")
  let expiresAtMs ← lift (boundedLeaseExpiry nowMs nowMs leaseDurationMs
    candidate.profile.timeoutMs)
  let lease ← lift (ofContract (WorkflowLeaseV1.sealed sha256
    (candidate.leaseBody worker leaseId inputArtifacts expectedInputDigest nowMs expiresAtMs)))
  let lease ← lift (attachOperationState lease operationState)
  persistActiveLease lease candidate.leaseGeneration nowMs
  updateFairnessCursor candidate cursor
  pure lease

/-- May the candidate's node be executed as far as its project's mutation lock goes? -/
def mutationAllowed : Workflow sha256 Bool :=
  if candidate.requiresExclusiveDelivery then acquireMutationLock candidate nowMs else pure true

/-- Grant a lease on a candidate, unless its operation state is busy. -/
def takeCandidate : Workflow sha256 (Option (ValidLease sha256)) := do
  match ← operationStateForCandidate candidate worker nowMs with
  | .busy => pure none
  | .notUsed => some <$> grantLease candidate worker none nowMs leaseDurationMs leaseId cursor
  | .ready state =>
    some <$> grantLease candidate worker (some state) nowMs leaseDurationMs leaseId cursor

/-- The loop of `claim_next_transaction`. -/
def claimFirst (worker : WorkflowWorkerRegistrationV1) (nowMs leaseDurationMs : Int)
    (leaseId : Uuid) (cursor : CursorRow) :
    List ReadyCandidate → Workflow sha256 (Option (ValidLease sha256))
  | [] => pure none
  | candidate :: rest => do
    if ← mutationAllowed candidate nowMs then do
      match ← takeCandidate candidate worker nowMs leaseDurationMs leaseId cursor with
      | some lease => pure (some lease)
      | none => claimFirst worker nowMs leaseDurationMs leaseId cursor rest
    else claimFirst worker nowMs leaseDurationMs leaseId cursor rest

/-- Wake the waiting attempts, then lease the first candidate in fair order. -/
def claimNextTransaction : Workflow sha256 (Option (ValidLease sha256)) := do
  wakeWaitingAttempts nowMs
  let candidates ← read fun J => J.loadReadyCandidates worker
  let candidates ← lift candidates
  let cursor ← read fun J => J.cursor
  claimFirst worker nowMs leaseDurationMs leaseId cursor (fairCandidateOrder candidates cursor)

/-- Does a lease of the worker still owe its cleanup? -/
def Journal.workerHasPendingCleanup : Bool :=
  J.leases.rows.any fun l =>
    l.workerId = worker.workerId && l.hostId = worker.hostId && J.owesCleanup l

/-- `DurableWorkflowScheduler::claim_next`; `leaseId` is the identifier it draws. -/
def claimNext (leaseId : FreshUuid) :
    Session (Journal sha256) StoreError (Option (ValidLease sha256)) := do
  Session.lift worker.validate
  Session.ensure (0 ≤ nowMs ∧ minLeaseMs ≤ leaseDurationMs ∧ leaseDurationMs ≤ maxLeaseMs)
    (.invalidWorkflowSchedulerInput "lease time")
  Session.immediateTransaction do
    let _ ← expireLeasesTransaction nowMs
    let pending ← read fun J => J.workerHasPendingCleanup worker
    if pending then pure none
    else claimNextTransaction worker nowMs leaseDurationMs leaseId.1

end Rdashboard
