import Rdashboard.Scheduler.Outcome

/-! # Admission

A trigger is admitted in one of three ways: as the replay of a recorded delivery, as one
more trigger of the request that already stands for its source and policy, or as a new
request with its first attempt, in front of which the attempts of older requests that have
not begun to mutate the project are superseded. -/

namespace Rdashboard

open Relational Txn

variable {sha256 : Sha256}

structure WorkflowAdmissionV1 where
  projectId : ProjectId
  workflowPolicyDigest : EvidenceDigest
  sourceSha : GitCommitId
  executionMode : WorkflowExecutionModeV1
  sourceSequence : Nat
  sourceAttestationDigest : EvidenceDigest
  triggerChannel : WorkflowTriggerChannelV1
  deliveryId : String
  payloadDigest : EvidenceDigest
  priority : Nat

inductive WorkflowAdmissionOutcomeV1 where
  | created (attempt : WorkflowAttemptSnapshotV1)
  | existing (attempt : WorkflowAttemptSnapshotV1)

variable (J : Journal sha256) (manifest : ValidManifest) (admission : WorkflowAdmissionV1)
  (admittedAtMs : Int) (requestId attemptId : Uuid) (waitingForMutation : Bool) (createdAtMs : Int)

def validDeliveryId (value : String) : Bool :=
  (1 ≤ value.utf8ByteSize && value.utf8ByteSize ≤ 128) &&
    value.toList.all fun c => isAsciiGraphic c && c ≠ '/' && c ≠ '\\'

def validateAdmission (sha256 : Sha256) (manifest : ProjectManifestV2)
    (admission : WorkflowAdmissionV1) (admittedAtMs : Int) : Except StoreError ValidManifest := do
  let manifest ← match Check.certify ProjectManifestV2.validate manifest with
    | .ok manifest => .ok manifest
    | .error e => .error (.manifest e)
  Check.ensure (admission.projectId = manifest.1.projectId ∧
    admission.workflowPolicyDigest = manifest.1.workflowPolicyDigest sha256)
    .workflowPolicyMismatch
  Check.ensure (admission.sourceSequence ≠ 0 ∧ 0 ≤ admittedAtMs ∧ admission.priority ≤ 3 ∧
    validDeliveryId admission.deliveryId ∧
    (admission.executionMode = .shadow ↔ admission.triggerChannel = .manualShadow))
    (.invalidWorkflowSchedulerInput "admission")
  .ok manifest

def replayedTrigger : Workflow sha256 (Option WorkflowAttemptSnapshotV1) := do
  let trigger ← read fun J =>
    J.triggers.lookup TriggerRow.key (admission.triggerChannel, admission.deliveryId)
  match trigger with
  | none => pure none
  | some trigger => do
    ensure (trigger.payloadDigest = admission.payloadDigest) .workflowDeliveryConflict
    let attempt ← loadLatestAttemptForRequest trigger.requestId
    pure (some attempt)

def validateProjectHead : Workflow sha256 Unit := do
  let current ← read fun J => J.heads.lookup (·.projectId) admission.projectId
  match current with
  | none => pure ()
  | some head => do
    ensure (head.sourceSequence ≤ admission.sourceSequence) .workflowStaleSource
    ensure (admission.sourceSequence = head.sourceSequence →
      admission.sourceSha = head.sourceSha) .workflowSourceConflict

/-- What an admission asks for, as the UNIQUE clause of the requests sees it. -/
def WorkflowAdmissionV1.identity :
    ProjectId × EvidenceDigest × GitCommitId × WorkflowExecutionModeV1 :=
  (admission.projectId, admission.workflowPolicyDigest, admission.sourceSha,
    admission.executionMode)

def Journal.findStableRequest : Option RequestRow :=
  J.requests.lookup RequestRow.identity admission.identity

def recordTrigger (admittedAtMs : Int) : Workflow sha256 Unit :=
  triggersT.insert (fun J t => (J.request t.requestId).isSome)
    { channel := admission.triggerChannel
      deliveryId := admission.deliveryId
      payloadDigest := admission.payloadDigest
      requestId
      receivedAtMs := admittedAtMs }

/-- `update_project_head`: the head moves unless the stored one has a later sequence. -/
def updateProjectHead (admittedAtMs : Int) : Workflow sha256 Unit := do
  ensure ((admission.sourceSequence : Int) ≤ i64Max)
    (.invalidWorkflowSchedulerInput "source sequence")
  let current ← read fun J => J.heads.lookup (·.projectId) admission.projectId
  match current with
  | none =>
    headsT.insert (fun J h => (J.request h.requestId).isSome)
      { projectId := admission.projectId
        sourceSequence := admission.sourceSequence
        sourceSha := admission.sourceSha
        requestId
        updatedAtMs := admittedAtMs }
  | some _ => do
    let _ ← headsT.update
      (fun h => h.projectId = admission.projectId &&
        h.sourceSequence ≤ admission.sourceSequence)
      (fun h => { h with
        sourceSequence := admission.sourceSequence
        sourceSha := admission.sourceSha
        requestId
        updatedAtMs := admittedAtMs })
    pure ()

/-! ### Superseding older attempts -/

/-- The attempts of other requests of the project and mode that are not terminal. -/
def Journal.standingAttempts (projectId : ProjectId) (executionMode : WorkflowExecutionModeV1)
    (newRequestId : Uuid) : List AttemptRow :=
  (J.attempts.rows.filter fun a =>
    ((J.request a.requestId).any fun request => request.projectId = projectId &&
      request.requestId ≠ newRequestId && request.operationKind = executionMode) &&
    !a.state.isTerminal).insertionSort (·.createdAtMs ≤ ·.createdAtMs)

/-- Supersede one attempt that has not begun to mutate its project. -/
def supersedeAttempt (newRequestId : Uuid) (recordedAtMs : Int) (attempt : AttemptRow) :
    Workflow sha256 Unit := do
  let activeLeases ← read fun J => J.activeLeases attempt.attemptId
  revokeWork attempt.attemptId recordedAtMs
  let _ ← attemptsT.update
    (fun a => a.attemptId = attempt.attemptId && a.mutationState = .notStarted)
    (fun a => { a with
      state := .superseded
      cleanupState := if activeLeases = 0 then .complete else .pending
      updatedAtMs := recordedAtMs, terminalAtMs := some recordedAtMs })
  let _ ← requestsT.update
    (fun r => r.requestId = attempt.requestId && r.state = .active)
    (fun r => { r with
      state := .superseded, supersededByRequestId := some newRequestId
      updatedAtMs := recordedAtMs })
  appendTransition attempt.attemptId (.attempt attempt.attemptId) (some (.attempt attempt.state))
    (.attempt .superseded) .newerSourceHead none recordedAtMs

/-- `supersede_pre_mutation_attempts`: does the new attempt have to wait for a mutation? -/
def supersedePreMutationAttempts (projectId : ProjectId)
    (executionMode : WorkflowExecutionModeV1) (newRequestId : Uuid) (recordedAtMs : Int) :
    Workflow sha256 Bool := do
  let standing ← read fun J => J.standingAttempts projectId executionMode newRequestId
  each (supersedeAttempt newRequestId recordedAtMs)
    (standing.filter (·.mutationState = .notStarted))
  pure (executionMode = .deploy && standing.any (·.mutationState ≠ .notStarted))

/-! ### Creating an attempt -/

/-- The state a node is created in. -/
def initialNodeState (executionMode : WorkflowExecutionModeV1) (waitingForMutation : Bool)
    (kind : WorkflowNodeKindV1) : WorkflowNodeStateV1 :=
  if kind = .sourceAdmission then .succeeded
  else if executionMode = .shadow ∧ shadowExecutes kind = false then .cancelled
  else if kind = .hostPrepare ∧ waitingForMutation = false then .ready
  else if kind = .rollback then .dormant
  else .blocked

/-- The row a node is created with: the source node is born with the attestation of its
source as output and receipt. -/
def initialNodeRow (ordinal : Nat) (node : WorkflowNodeV1) (profile : WorkflowExecutionProfileV1) :
    NodeRow :=
  let state := initialNodeState admission.executionMode waitingForMutation node.kind
  let attestation :=
    if node.kind = .sourceAdmission then some admission.sourceAttestationDigest else none
  { attemptId
    nodeId := node.nodeId
    ordinal
    nodeKind := node.kind
    activation := node.activation
    profileId := node.profileId
    workerPool := profile.workerPool
    state
    leaseGeneration := 0
    outputDigest := attestation
    receiptDigest := attestation
    completedAtMs := if state.isSettled then some createdAtMs else none }

/-- Insert one dependency of a node of a new attempt. -/
def createDependency (nodeId dependency : WorkflowNodeId) : Workflow sha256 Unit :=
  dependenciesT.insert
    (fun J d => (J.node d.attemptId d.nodeId).isSome &&
      (J.node d.attemptId d.dependencyNodeId).isSome)
    { attemptId, nodeId, dependencyNodeId := dependency }

/-- Insert one node of a new attempt and its dependencies. -/
def createNode (ordinal : Nat) (node : WorkflowNodeV1) : Workflow sha256 Unit := do
  let profile ← require (manifest.1.workflow.profile node.profileId)
    (.corruptWorkflowJournal "manifest node profile")
  nodesT.insert (fun J n => (J.attempt n.attemptId).isSome)
    (initialNodeRow admission attemptId waitingForMutation createdAtMs ordinal node profile)
  each (createDependency attemptId node.nodeId) node.dependsOn

/-- The loop of `create_attempt` over the nodes in topological order. -/
def createNodes (manifest : ValidManifest) (admission : WorkflowAdmissionV1) (attemptId : Uuid)
    (waitingForMutation : Bool) (createdAtMs : Int) :
    Nat → List WorkflowNodeV1 → Workflow sha256 Unit
  | _, [] => pure ()
  | ordinal, node :: rest => do
    createNode manifest admission attemptId waitingForMutation createdAtMs ordinal node
    createNodes manifest admission attemptId waitingForMutation createdAtMs (ordinal + 1) rest

def preparationKey (sha256 : Sha256) (admission : WorkflowAdmissionV1) : EvidenceDigest :=
  sha256 (.preparedRunKey
    { projectId := admission.projectId
      sourceSha := admission.sourceSha
      workflowPolicyDigest := admission.workflowPolicyDigest })

def createAttempt : Workflow sha256 WorkflowAttemptSnapshotV1 := do
  let state : WorkflowAttemptStateV1 :=
    if waitingForMutation then .waitingForMutation else .queued
  attemptsT.insert (fun J a => (J.request a.requestId).isSome)
    { attemptId
      requestId
      attemptNumber := 1
      preparationKey := preparationKey sha256 admission
      state
      mutationState := .notStarted
      cleanupState := .complete
      createdAtMs
      updatedAtMs := createdAtMs
      terminalAtMs := none }
  let ordered ← lift (ofContract manifest.1.workflow.orderedNodes)
  createNodes manifest admission attemptId waitingForMutation createdAtMs 0 ordered
  appendTransition attemptId (.attempt attemptId) none (.attempt state) .sourceAdmitted
    (some admission.sourceAttestationDigest) createdAtMs
  loadAttemptSnapshot attemptId

/-- The row of a new request. -/
def newRequestRow (admittedAtMs : Int) : RequestRow where
  requestId := requestId
  projectId := admission.projectId
  workflowPolicyDigest := admission.workflowPolicyDigest
  sourceSha := admission.sourceSha
  operationKind := admission.executionMode
  sourceSequence := admission.sourceSequence
  sourceAttestationDigest := admission.sourceAttestationDigest
  manifestJson := manifest
  priority := admission.priority
  state := .active
  supersededByRequestId := none
  createdAtMs := admittedAtMs
  updatedAtMs := admittedAtMs

/-- The path of `admit` for a source and policy that have no request yet. -/
def admitNewRequest : Workflow sha256 WorkflowAttemptSnapshotV1 := do
  ensure ((admission.sourceSequence : Int) ≤ i64Max)
    (.invalidWorkflowSchedulerInput "source sequence")
  requestsT.insert (fun _ _ => true) (newRequestRow manifest admission requestId admittedAtMs)
  let waitingForMutation ← supersedePreMutationAttempts admission.projectId
    admission.executionMode requestId admittedAtMs
  let attempt ← createAttempt manifest admission requestId attemptId waitingForMutation
    admittedAtMs
  recordTrigger admission requestId admittedAtMs
  updateProjectHead admission requestId admittedAtMs
  pure attempt

/-- The path of `admit` for a source and policy that already have a request. -/
def admitStableRequest : Workflow sha256 WorkflowAttemptSnapshotV1 := do
  let attempt ← loadLatestAttemptForRequest requestId
  recordTrigger admission requestId admittedAtMs
  updateProjectHead admission requestId admittedAtMs
  pure attempt

/-- The transaction of `admit`; `requestId` and `attemptId` are the identifiers it draws. -/
def admitTransaction : Workflow sha256 WorkflowAdmissionOutcomeV1 := do
  match ← replayedTrigger admission with
  | some existing => pure (.existing existing)
  | none => do
    validateProjectHead admission
    match ← read fun J => J.findStableRequest admission with
    | some request => do
      let attempt ← admitStableRequest admission admittedAtMs request.requestId
      pure (.existing attempt)
    | none => do
      let attempt ← admitNewRequest manifest admission admittedAtMs requestId attemptId
      pure (.created attempt)

/-- `DurableWorkflowScheduler::admit`. -/
def admitWorkflow (manifest : ProjectManifestV2) (admission : WorkflowAdmissionV1) (admittedAtMs : Int)
    (requestId attemptId : FreshUuid) :
    Session (Journal sha256) StoreError WorkflowAdmissionOutcomeV1 := do
  let manifest ← Session.lift (validateAdmission sha256 manifest admission admittedAtMs)
  Session.immediateTransaction
    (admitTransaction manifest admission admittedAtMs requestId.1 attemptId.1)

end Rdashboard
