import Rdashboard.Refinement.Runs

/-! # Work in order

In every journal that calls can leave, a node that was released for work has all its
dependencies behind it.  With the shape of a valid graph this means that a cutover is only
leased on top of committed evidence: verifications, build, reduction, backup and migration. -/

namespace Rdashboard

open Relational Journal Journal

variable {sha256 : Sha256} {D : Discipline} {J : Journal sha256} {a : Uuid} {A : Attempt sha256}

/-- The manifest that an attempt was created from. -/
def Journal.manifest (J : Journal sha256) (attemptId : Uuid) : Option ValidManifest :=
  (J.attempt attemptId).bind fun row => (J.request row.requestId).map (·.manifestJson)

/-- Every node that the manifest lists as a dependency of the node has succeeded. -/
def Journal.DependenciesSucceeded (J : Journal sha256) (n : NodeRow) : Prop :=
  ∃ manifest m, J.manifest n.attemptId = some manifest ∧
    manifest.1.workflow.node n.nodeId = some m ∧
    ∀ d ∈ m.dependsOn, ∃ row, J.node n.attemptId d = some row ∧ row.state = .succeeded

/-- The success of a node is committed, with nothing left to clean up. -/
def Journal.SuccessCommitted (J : Journal sha256) (attemptId : Uuid) (nodeId : WorkflowNodeId) :
    Prop :=
  ∃ r l, J.nodeReceipt attemptId nodeId = some r ∧ J.lease r.leaseId = some l ∧
    l.state = .committed ∧ r.receiptJson.1.outcome = .succeeded ∧
    r.receiptJson.1.cleanupResult = .complete

/-- What a cutover rests on. -/
structure Journal.ReadyForCutover (J : Journal sha256) (attemptId : Uuid) (manifest : ValidManifest) :
    Prop where
  verified : ∀ m ∈ manifest.1.workflow.nodes, m.kind = .verification ∨ m.kind = .releaseBuild →
    J.SuccessCommitted attemptId m.nodeId
  reduced : (J.reduction attemptId).isSome = true
  prepared : ∀ m ∈ manifest.1.workflow.nodes, m.kind = .backup ∨ m.kind = .migration →
    ∃ row, J.node attemptId m.nodeId = some row ∧ row.state = .succeeded

theorem manifest_of_view (hA : J.view a = some A) : J.manifest a = some A.request.manifestJson := by
  rw [manifest, attempt_of_view hA, Option.bind_some, request_of_view hA, Option.map_some]

theorem dependenciesSucceeded_of_started (hJ : J.Lawful D) {n : NodeRow} (hn : n ∈ J.nodes.rows)
    (hs : n.state.started) : J.DependenciesSucceeded n := by
  obtain ⟨A, hA, hrow⟩ := hJ.sound.view_of_node hn
  have hlaw := hJ.attempts _ A hA
  obtain ⟨m, hm, hid, -⟩ := hlaw.declared.mem_of_node hrow
  refine ⟨A.request.manifestJson, m, manifest_of_view hA, ?_, fun d hd => ?_⟩
  · exact (Attempt.Lawful.policy_lawful A).node_eq_some_iff.mpr ⟨hm, hid⟩
  · have hgated := hlaw.paced.gated _ n hrow hs d
    rw [← hid, hlaw.declared.dependsOn m hm] at hgated
    obtain ⟨row, hrow', hstate⟩ := Option.map_eq_some_iff.mp (hgated hd)
    exact ⟨row, by rw [node_of_view hA]; exact hrow', hstate⟩

/-- A worker's node that has succeeded has its success committed. -/
theorem successCommitted_of_succeeded (hJ : J.Lawful D) (hA : J.view a = some A)
    {k : WorkflowNodeId} {n : NodeRow} (hn : A.nodes k = some n) (hs : n.state = .succeeded)
    (hkind : n.nodeKind.isControllerManaged = false) : J.SuccessCommitted a k := by
  have hev := (hJ.attempts _ A hA).evidenced
  obtain ⟨r, hr, houtcome, -⟩ := hev.output k n hn hs hkind
  obtain ⟨-, e, he, her⟩ := hev.receipt k r hr
  have hcommitted := (hev.committed _ e he).mpr (by rw [her]; rfl)
  have hvalid := r.receiptJson.2
  simp only [WorkflowNodeReceiptV1.validate, Check.ensure_ok_iff] at hvalid
  exact ⟨r, e.row, by rw [receipts_of_view hA]; exact hr, (lease_of_view hA he).1, hcommitted,
    houtcome, hvalid.2.2.2.2.2.2.2.2.2.2.1 houtcome⟩

theorem readyForCutover_of_lease (hJ : J.Lawful D) {l : LeaseRow sha256} (hl : l ∈ J.leases.rows)
    (hkind : l.leaseJson.1.nodeKind = .cutover) :
    ∃ manifest, J.manifest l.attemptId = some manifest ∧
      J.ReadyForCutover l.attemptId manifest := by
  obtain ⟨A, e, hA, he, rfl⟩ := hJ.sound.view_of_lease hl
  have hlaw := hJ.attempts _ A hA
  have hold := hlaw.evidenced.lease _ e he
  obtain ⟨n, hn, hnk⟩ := hold.node
  rw [hkind] at hnk
  -- All nodes of earlier stages have succeeded.
  have hearlier : ∀ m ∈ A.policy.nodes, m.kind.stage < WorkflowNodeKindV1.cutover.stage →
      ∃ row, A.nodes m.nodeId = some row ∧ row.nodeKind = m.kind ∧ row.state = .succeeded := by
    intro m hm hlt
    obtain ⟨row, hrow, hk⟩ := hlaw.declared.node_of_mem hm
    exact ⟨row, hrow, hk, hlaw.earlier hn hold.gated hrow (by rw [hk, ← hnk]; exact hlt)⟩
  refine ⟨A.request.manifestJson, manifest_of_view hA, ?_, ?_, ?_⟩
  · intro m hm hk
    obtain ⟨row, hrow, hrk, hs⟩ := hearlier m hm (by rcases hk with hk | hk <;> rw [hk] <;> decide)
    exact successCommitted_of_succeeded hJ hA hrow hs
      (by rcases hk with hk | hk <;> rw [hrk, hk] <;> rfl)
  · obtain ⟨m, hm, hk⟩ := (Attempt.Lawful.policy_lawful A).graph.reduced
    obtain ⟨row, hrow, hrk, hs⟩ := hearlier m hm (by rw [hk]; decide)
    rw [reduction_of_view hA]
    exact hlaw.evidenced.reduced _ row hrow (hrk.trans hk) hs
  · intro m hm hk
    obtain ⟨row, hrow, -, hs⟩ := hearlier m hm (by rcases hk with hk | hk <;> rw [hk] <;> decide)
    exact ⟨row, by rw [node_of_view hA]; exact hrow, hs⟩

/-- Nodes start after their dependencies, and a cutover after everything it rests on. -/
theorem started_after_dependencies (h : Reachable J) :
    (∀ n ∈ J.nodes.rows, n.state.started → J.DependenciesSucceeded n) ∧
    ∀ l ∈ J.leases.rows, l.leaseJson.1.nodeKind = .cutover →
      ∃ manifest, J.manifest l.attemptId = some manifest ∧
        J.ReadyForCutover l.attemptId manifest := by
  obtain ⟨hJ, -⟩ := h.invariant
  exact ⟨fun n hn hs => dependenciesSucceeded_of_started hJ hn hs,
    fun l hl hkind => readyForCutover_of_lease hJ hl hkind⟩

/-! ### A deployment

A small project, taken from its admission to the lease of its cutover. -/

/-- Calls that are made out from the journal they meet. -/
def Journal.script (J : Journal sha256) (calls : List (Journal sha256 → Operation)) :
    Journal sha256 :=
  calls.foldl (fun J call => J.step (call J)) J

theorem Reachable.script (h : Reachable J) (calls : List (Journal sha256 → Operation)) :
    Reachable (J.script calls) := by
  induction calls generalizing J with
  | nil => exact h
  | cons call calls ih => exact ih (.next (call J) h trivial)

/-- The receipt of a worker for its lease; a call that fails if there is no such lease. -/
def Journal.report (leaseId : Uuid) (outcome : WorkflowNodeOutcomeV1)
    (cleanup : WorkflowCleanupResultV1) (nowMs : Int) (J : Journal sha256) : Operation :=
  match J.lease leaseId with
  | none => .expireLeases (-1)
  | some row =>
    match WorkflowNodeReceiptV1.new sha256 row.leaseJson.1 outcome
      (if outcome = .succeeded then some 5 else none) 6 7 cleanup nowMs with
    | .ok receipt => .commitNodeReceipt receipt.1 nowMs
    | .error _ => .expireLeases (-1)

namespace Sample

/-- A digest that tells apart what the samples need told apart. -/
def digest : Sha256
  | .projectWorkflowPolicy manifest => BitVec.ofNat 256 manifest.workflow.nodes.length
  | .preparedRunKey _ => 2
  | .operationState payload => payload.subject.attemptId.setWidth 256
  | .lease body => body.leaseId.setWidth 256 * 0x10000000000000000 +
      BitVec.ofInt 256 body.expiresAtMs + if body.operationState.isSome then 0x1000000000 else 0
  | .nodeInput _ => 3
  | .nodeReceipt body => body.leaseId.setWidth 256
  | .cleanupReceipt body => body.leaseId.setWidth 256
  | .reductionReceipt body => body.attemptId.setWidth 256

def nodeA : WorkflowNodeId := ⟨"a", by decide +kernel⟩
def nodeB : WorkflowNodeId := ⟨"b", by decide +kernel⟩
def nodeC : WorkflowNodeId := ⟨"c", by decide +kernel⟩
def nodeD : WorkflowNodeId := ⟨"d", by decide +kernel⟩
def nodeE : WorkflowNodeId := ⟨"e", by decide +kernel⟩
def nodeF : WorkflowNodeId := ⟨"f", by decide +kernel⟩
def nodeG : WorkflowNodeId := ⟨"g", by decide +kernel⟩
def nodeH : WorkflowNodeId := ⟨"h", by decide +kernel⟩
def nodeI : WorkflowNodeId := ⟨"i", by decide +kernel⟩
def nodeJ : WorkflowNodeId := ⟨"j", by decide +kernel⟩

/-- The profile of the node with this id. -/
def profileOf (nodeId : WorkflowNodeId) (h : validWorkflowProfileId nodeId.value = true)
    (adapterId : WorkflowAdapterIdV1) (workerPool : WorkflowWorkerPoolV1)
    (networkClass : WorkflowNetworkClassV1) (cacheClass : WorkflowCacheClassV1) :
    WorkflowExecutionProfileV1 where
  profileId := ⟨nodeId.value, h⟩
  adapterId := adapterId
  workerPool := workerPool
  networkClass := networkClass
  cacheClass := cacheClass
  timeoutMs := 100000
  resources := if workerPool = .controller then none
    else some ⟨1000, 1073741824, 64, 1073741824, 100000, 1048576⟩

def sourceProfile := profileOf nodeA (by decide +kernel) .controllerSourceAdmissionV1 .controller .offline .none
def prepareProfile := profileOf nodeB (by decide +kernel) .workerHostPrepareV1 .vpsRequired .offline .dependency
def verifyProfile := profileOf nodeC (by decide +kernel) .workerBareBinCiV1 .buildCompute .offline .preparedRun

theorem nodeD_profile : validWorkflowProfileId nodeD.value = true := by decide +kernel

def buildProfile := profileOf nodeD nodeD_profile .workerOciReleaseBuildV1 .vpsRequired .offline .preparedRun
def reduceProfile := profileOf nodeE (by decide +kernel) .controllerReduceV1 .controller .offline .none
def reserveProfile := profileOf nodeF (by decide +kernel) .executorResourceReserveV1 .privilegedExecutor .offline .none
def healthProfile := profileOf nodeG (by decide +kernel) .executorCandidateHealthV1 .privilegedExecutor .localHealthOnly .none
def cutoverProfile := profileOf nodeH (by decide +kernel) .executorCutoverV1 .privilegedExecutor .offline .none
def observeProfile := profileOf nodeI (by decide +kernel) .executorReleasedObserveV1 .privilegedExecutor .localHealthOnly .none
def rollbackProfile := profileOf nodeJ (by decide +kernel) .executorRollbackV1 .privilegedExecutor .offline .none

/-- A node under this profile. -/
def nodeOf (nodeId : WorkflowNodeId) (kind : WorkflowNodeKindV1)
    (profile : WorkflowExecutionProfileV1) (dependsOn : List WorkflowNodeId)
    (inputContracts : List WorkflowArtifactKindV1) : WorkflowNodeV1 where
  nodeId := nodeId
  displayName := "n"
  kind := kind
  activation := if kind = .rollback then .onMutationFailure else .always
  profileId := profile.profileId
  dependsOn := dependsOn
  inputContracts := inputContracts
  outputContract := kind.expectedOutput

/-- A container project with this policy. -/
def manifestOf (workflow : WorkflowPolicyV1) : ProjectManifestV2 where
  schemaVersion := 2
  projectId := ⟨"w", by decide +kernel⟩
  displayName := "p"
  source := ⟨⟨"u"⟩, .main⟩
  ci := .binCi
  build := ⟨.repositoryRoot, .oci, some ⟨"Dockerfile"⟩, none⟩
  workflow := workflow
  hostPreparation := none
  healthChecks := [⟨"h", ⟨"u"⟩, 200, 5⟩]
  dataVolumes := []
  migration := ⟨.none, .unsupported⟩
  rollback := ⟨true, 10⟩
  notifications := ⟨.telegramDefault, false⟩

/-- Prepare, verify, build, reduce, and deliver in four steps. -/
def manifest : ProjectManifestV2 :=
  manifestOf ⟨1, 1, .executorMutation,
    [sourceProfile, prepareProfile, verifyProfile, buildProfile, reduceProfile, reserveProfile,
      healthProfile, cutoverProfile, observeProfile, rollbackProfile],
    [nodeOf nodeA .sourceAdmission sourceProfile [] [],
      nodeOf nodeB .hostPrepare prepareProfile [nodeA] [.sourceSnapshot],
      nodeOf nodeC .verification verifyProfile [nodeB] [.preparedRun],
      nodeOf nodeD .releaseBuild buildProfile [nodeB] [.preparedRun],
      nodeOf nodeE .deterministicReduce reduceProfile [nodeC, nodeD]
        [.verificationReceipt, .releaseBuildResult],
      nodeOf nodeF .resourceReservation reserveProfile [nodeE] [.reductionReceipt],
      nodeOf nodeG .candidateHealth healthProfile [nodeF] [.resourceReservation],
      nodeOf nodeH .cutover cutoverProfile [nodeG] [.candidateHealthReceipt],
      nodeOf nodeI .releasedObservation observeProfile [nodeH] [.cutoverReceipt],
      nodeOf nodeJ .rollback rollbackProfile [nodeH] [.cutoverReceipt]]⟩

def sourceSha : GitCommitId := ⟨"cccccccccccccccccccccccccccccccccccccccc", by decide +kernel⟩

/-- The admission of a commit. -/
def admission (manifest : ProjectManifestV2) (sourceSha : GitCommitId) (sourceSequence : Nat)
    (deliveryId : String) : WorkflowAdmissionV1 where
  projectId := manifest.projectId
  workflowPolicyDigest := manifest.workflowPolicyDigest digest
  sourceSha := sourceSha
  executionMode := .deploy
  sourceSequence := sourceSequence
  sourceAttestationDigest := 7
  triggerChannel := .directPush
  deliveryId := deliveryId
  payloadDigest := 9
  priority := 1

def uuid1 : FreshUuid := ⟨1, rfl⟩
def uuid2 : FreshUuid := ⟨2, by decide⟩
def uuid3 : FreshUuid := ⟨3, by decide⟩
def uuid4 : FreshUuid := ⟨4, by decide⟩
def uuid5 : FreshUuid := ⟨5, by decide⟩
def uuid6 : FreshUuid := ⟨6, by decide⟩
def uuid7 : FreshUuid := ⟨7, by decide⟩
def uuid8 : FreshUuid := ⟨8, by decide⟩
def uuid9 : FreshUuid := ⟨9, rfl⟩

def vps : WorkflowWorkerRegistrationV1 := ⟨"w", "h", [.vpsRequired]⟩
def accelerator : WorkflowWorkerRegistrationV1 := ⟨"x", "g", [.buildCompute]⟩
def privileged : WorkflowWorkerRegistrationV1 := ⟨"y", "h", [.privilegedExecutor]⟩

/-- The calls from the admission up to the reduction. -/
def preparation : List (Journal digest → Operation) :=
  [fun _ => .admitWorkflow manifest (admission manifest sourceSha 1 "d") 0 uuid1 uuid2,
    fun _ => .claimNext vps 0 1000 uuid3,
    report 3 .succeeded .complete 10,
    fun _ => .claimNext accelerator 20 10000 uuid4,
    fun _ => .claimNext vps 30 10000 uuid5,
    report 4 .succeeded .complete 50,
    report 5 .succeeded .complete 50,
    fun _ => .reconcileControllerNodes 60]

/-- The calls from the reduction up to the lease of the cutover. -/
def delivery : List (Journal digest → Operation) :=
  [fun _ => .claimNext privileged 70 10000 uuid6,
    report 6 .succeeded .complete 80,
    fun _ => .claimNext privileged 90 10000 uuid7,
    report 7 .succeeded .complete 100,
    fun _ => .claimNext privileged 110 10000 uuid8]

/-- The journal of a deployment whose cutover is under way. -/
def cuttingOver : Journal digest := empty.script (preparation ++ delivery)

theorem cuttingOver_reachable : Reachable cuttingOver := Reachable.script .init _

/-- The cutover of the sample was leased, on top of all that a cutover rests on. -/
theorem cuttingOver_ready : (∃ l ∈ cuttingOver.leases.rows, l.leaseJson.1.nodeKind = .cutover) ∧
    ∀ l ∈ cuttingOver.leases.rows, l.leaseJson.1.nodeKind = .cutover →
      ∃ manifest, cuttingOver.manifest l.attemptId = some manifest ∧
        cuttingOver.ReadyForCutover l.attemptId manifest :=
  ⟨by decide +kernel, (started_after_dependencies cuttingOver_reachable).2⟩

end Sample

end Rdashboard
