import Rdashboard.Library.Check
import Rdashboard.Workflow.Identifiers

/-! # Workflow policies

A workflow policy is a graph of nodes, each run under an execution profile.
`WorkflowPolicyV1.validate` accepts exactly two shapes of graph: a release that the
executor applies (`ExecutorMutation`), and a release that rdashboard hands over to its own
updater (`SelfUpdateHandoff`). -/

namespace Rdashboard

open Check

/-! ### Vocabulary -/

inductive WorkflowNodeKindV1 where
  | sourceAdmission
  | hostPrepare
  | verification
  | releaseBuild
  | deterministicReduce
  | resourceReservation
  | backup
  | migration
  | candidateHealth
  | cutover
  | releasedObservation
  | rollback
deriving DecidableEq

inductive WorkflowNodeActivationV1 where
  | always
  | onMutationFailure
deriving DecidableEq

inductive WorkflowAdapterIdV1 where
  | controllerSourceAdmissionV1
  | workerHostPrepareV1
  | workerBareBinCiV1
  | workerNativeReleaseBuildV1
  | workerOciReleaseBuildV1
  | controllerReduceV1
  | executorResourceReserveV1
  | executorBackupV1
  | executorMigrationV1
  | executorCandidateHealthV1
  | executorCutoverV1
  | executorReleasedObserveV1
  | executorRollbackV1
deriving DecidableEq

inductive WorkflowWorkerPoolV1 where
  | controller
  | vpsRequired
  | buildCompute
  | privilegedExecutor
deriving DecidableEq

inductive WorkflowNetworkClassV1 where
  | offline
  | dependencyEgress
  | localHealthOnly
deriving DecidableEq

inductive WorkflowCacheClassV1 where
  | none
  | dependency
  | preparedRun
deriving DecidableEq

inductive WorkflowDeliveryModeV1 where
  | executorMutation
  | selfUpdateHandoff
deriving DecidableEq

inductive WorkflowHostPreparationAdapterV1 where
  | cargoCratesIoV1
  | sourceTreeV1
deriving DecidableEq

inductive WorkflowArtifactKindV1 where
  | sourceSnapshot
  | preparedRun
  | verificationReceipt
  | releaseBuildResult
  | releaseBundle
  | reductionReceipt
  | resourceReservation
  | backupReceipt
  | migrationReceipt
  | candidateHealthReceipt
  | cutoverReceipt
  | releasedObservationReceipt
  | rollbackReceipt
deriving DecidableEq

/-- The derived order of artifact kinds is the order of their declaration. -/
instance : LT WorkflowArtifactKindV1 := ⟨fun a b => a.ctorIdx < b.ctorIdx⟩

instance : DecidableLT WorkflowArtifactKindV1 :=
  fun a b => inferInstanceAs (Decidable (a.ctorIdx < b.ctorIdx))

inductive WorkflowContractError where
  | unsupportedSchemaVersion (version : Nat)
  | invalidDisplayName
  | invalidWorkflowBounds
  | duplicateProfile (profile : WorkflowProfileId)
  | missingProfile (profile : WorkflowProfileId)
  | duplicateNode (node : WorkflowNodeId)
  | missingDependency (node dependency : WorkflowNodeId)
  | invalidDependencies (node : WorkflowNodeId)
  | cyclicGraph
  | invalidNodeCardinality (kind : WorkflowNodeKindV1)
  | profileKindMismatch (node : WorkflowNodeId)
  | artifactContractMismatch (node : WorkflowNodeId)
  | invalidActivation (node : WorkflowNodeId)
  | invalidTimeout
  | invalidExecutionProfile
  | invalidResourceEnvelope
  | invalidHostPreparationPolicy
  | invalidOperationState
  | invalidLease
  | invalidNodeReceipt
  | invalidCleanupReceipt
  | invalidReductionReceipt
deriving DecidableEq

namespace WorkflowNodeKindV1

def isMutation : WorkflowNodeKindV1 → Bool
  | backup | migration | candidateHealth | cutover | releasedObservation | rollback => true
  | _ => false

def isControllerManaged : WorkflowNodeKindV1 → Bool
  | sourceAdmission | deterministicReduce => true
  | _ => false

def expectedOutput : WorkflowNodeKindV1 → WorkflowArtifactKindV1
  | sourceAdmission => .sourceSnapshot
  | hostPrepare => .preparedRun
  | verification => .verificationReceipt
  | releaseBuild => .releaseBuildResult
  | deterministicReduce => .reductionReceipt
  | resourceReservation => .resourceReservation
  | backup => .backupReceipt
  | migration => .migrationReceipt
  | candidateHealth => .candidateHealthReceipt
  | cutover => .cutoverReceipt
  | releasedObservation => .releasedObservationReceipt
  | rollback => .rollbackReceipt

def expectedAdapter : WorkflowNodeKindV1 → List WorkflowAdapterIdV1
  | sourceAdmission => [.controllerSourceAdmissionV1]
  | hostPrepare => [.workerHostPrepareV1]
  | verification => [.workerBareBinCiV1]
  | releaseBuild => [.workerNativeReleaseBuildV1, .workerOciReleaseBuildV1]
  | deterministicReduce => [.controllerReduceV1]
  | resourceReservation => [.executorResourceReserveV1]
  | backup => [.executorBackupV1]
  | migration => [.executorMigrationV1]
  | candidateHealth => [.executorCandidateHealthV1]
  | cutover => [.executorCutoverV1]
  | releasedObservation => [.executorReleasedObserveV1]
  | rollback => [.executorRollbackV1]

def expectedPool : WorkflowNodeKindV1 → WorkflowWorkerPoolV1
  | sourceAdmission | deterministicReduce => .controller
  | hostPrepare | releaseBuild => .vpsRequired
  | verification => .buildCompute
  | _ => .privilegedExecutor

end WorkflowNodeKindV1

def strictlySortedUnique {α : Type} [LT α] [DecidableLT α] : List α → Bool
  | a :: b :: rest => decide (a < b) && strictlySortedUnique (b :: rest)
  | _ => true

/-- Equality of two collections as `BTreeSet`s. -/
def sameSet {α : Type} [DecidableEq α] (xs ys : List α) : Bool :=
  xs.all (· ∈ ys) && ys.all (· ∈ xs)

/-! ### Host preparation -/

structure WorkflowOciBaseInputV1 where
  source : String
  layoutName : String
  manifestDigest : WorkflowOciDigest
deriving DecidableEq

/-- `str::strip_prefix` on characters. -/
def stripLeading : List Char → List Char → Option (List Char)
  | [], text => some text
  | c :: cs, d :: text => if c = d then stripLeading cs text else none
  | _ :: _, [] => none

/-- The text before and after the last occurrence of `c` (`str::rsplit_once`, `str::rfind`). -/
def splitLast (c : Char) (text : List Char) : Option (List Char × List Char) :=
  let tail := (text.reverse.takeWhile (· ≠ c)).reverse
  if tail.length < text.length then some (text.take (text.length - tail.length - 1), tail)
  else none

/-- One path component of a Docker Hub repository name. -/
def validRepositoryComponent (component : List Char) : Bool :=
  component ≠ [] && component.length ≤ 128 && bounded isAsciiAlphanumeric component &&
    component.all fun c => isAsciiLowercase c || isAsciiDigit c || c = '.' || c = '_' || c = '-'

/-- A tag of a Docker Hub repository. -/
def validRepositoryTag (tag : List Char) : Bool :=
  tag ≠ [] && tag.length ≤ 128 &&
    tag.all fun c => isAsciiAlphanumeric c || c = '.' || c = '_' || c = '-'

/-- `valid_docker_hub_repository_reference`: the tag is sought after the last slash. -/
def validDockerHubRepositoryReference (value : List Char) : Bool :=
  let directory := match splitLast '/' value with
    | some (before, _) => before ++ ['/']
    | none => []
  let name := value.drop directory.length
  let (repository, tag) := match splitLast ':' name with
    | some (before, tag) => (directory ++ before, some tag)
    | none => (value, none)
  value ≠ [] && (value.map Char.utf8Size).sum ≤ 255 && !value.any isAsciiControl &&
    repository ≠ [] && (repository.splitOn '/').all validRepositoryComponent &&
    tag.all validRepositoryTag

namespace WorkflowOciBaseInputV1

def validate (base : WorkflowOciBaseInputV1) : Bool :=
  match splitLast '@' base.source.toList with
  | none => false
  | some (reference, digest) =>
    match stripLeading "docker.io/".toList reference with
    | none => false
    | some repositoryReference =>
      digest = base.manifestDigest.value.toList && validWorkflowToken base.layoutName 64 &&
        validDockerHubRepositoryReference repositoryReference

/-- The derived order: source, then layout name, then digest. -/
instance : LT WorkflowOciBaseInputV1 where
  lt a b := a.source < b.source ∨ (a.source = b.source ∧
    (a.layoutName < b.layoutName ∨ (a.layoutName = b.layoutName ∧
      a.manifestDigest < b.manifestDigest)))

instance : DecidableLT WorkflowOciBaseInputV1 := fun a b =>
  inferInstanceAs (Decidable (a.source < b.source ∨ (a.source = b.source ∧
    (a.layoutName < b.layoutName ∨ (a.layoutName = b.layoutName ∧
      a.manifestDigest < b.manifestDigest)))))

end WorkflowOciBaseInputV1

structure WorkflowHostPreparationPolicyV1 where
  schemaVersion : Nat
  adapterId : WorkflowHostPreparationAdapterV1
  platform : String
  cpuBaseline : String
  abi : String
  toolchainRoot : String
  toolchainInterface : String
  buildEnvironment : List (String × String)
  ociBases : List WorkflowOciBaseInputV1
deriving DecidableEq

def validBuildEnvironmentName (value : String) : Bool :=
  value.toList ≠ [] && value.utf8ByteSize ≤ 64 &&
    value.toList.all (fun c => isAsciiUppercase c || isAsciiDigit c || c = '_') &&
    value.toList.head?.any isAsciiUppercase

def reservedBuildEnvironmentName (value : String) : Bool :=
  ["PATH", "HOME", "TMPDIR", "CARGO_HOME", "CARGO_TARGET_DIR", "CCACHE_DIR", "CCACHE_TEMPDIR",
    "ZIG_GLOBAL_CACHE_DIR", "ZIG_LOCAL_CACHE_DIR", "LD_PRELOAD", "LD_LIBRARY_PATH"].contains value
    || (stripLeading "RDASHBOARD_".toList value.toList).isSome

namespace WorkflowHostPreparationPolicyV1

def validate (policy : WorkflowHostPreparationPolicyV1) : Except WorkflowContractError Unit :=
  ensure (policy.schemaVersion = 2 ∧ validWorkflowToken policy.platform 64 ∧
    validWorkflowToken policy.cpuBaseline 64 ∧ validWorkflowToken policy.abi 64 ∧
    validWorkflowToken policy.toolchainRoot 128 ∧
    validWorkflowToken policy.toolchainInterface 128 ∧
    policy.buildEnvironment.length ≤ 32 ∧
    (policy.buildEnvironment.all fun (name, value) =>
      validBuildEnvironmentName name && !reservedBuildEnvironmentName name &&
        value.toList ≠ [] && value.utf8ByteSize ≤ 4096 && !value.toList.contains '\x00') ∧
    policy.ociBases.length ≤ 16 ∧ strictlySortedUnique policy.ociBases ∧
    policy.ociBases.all (·.validate) ∧ (policy.ociBases.map (·.source)).Nodup ∧
    (policy.ociBases.map (·.layoutName)).Nodup ∧
    (policy.adapterId = .sourceTreeV1 → policy.ociBases = []))
    .invalidHostPreparationPolicy

def requiredNetworkClass (policy : WorkflowHostPreparationPolicyV1) : WorkflowNetworkClassV1 :=
  match policy.adapterId with
  | .cargoCratesIoV1 => .dependencyEgress
  | .sourceTreeV1 => .offline

end WorkflowHostPreparationPolicyV1

/-! ### Profiles and nodes -/

structure WorkflowResourceEnvelopeV1 where
  cpuMillicores : Nat
  memoryMaxBytes : Nat
  tasksMax : Nat
  scratchMaxBytes : Nat
  scratchMaxInodes : Nat
  outputMaxBytes : Nat
deriving DecidableEq

def WorkflowResourceEnvelopeV1.validate (r : WorkflowResourceEnvelopeV1) :
    Except WorkflowContractError Unit :=
  ensure ((100 ≤ r.cpuMillicores ∧ r.cpuMillicores ≤ 32000) ∧
    (64 * 1024 * 1024 ≤ r.memoryMaxBytes ∧ r.memoryMaxBytes ≤ 64 * 1024 * 1024 * 1024) ∧
    (8 ≤ r.tasksMax ∧ r.tasksMax ≤ 4096) ∧
    (1024 * 1024 ≤ r.scratchMaxBytes ∧ r.scratchMaxBytes ≤ 1024 * 1024 * 1024 * 1024) ∧
    (1024 ≤ r.scratchMaxInodes ∧ r.scratchMaxInodes ≤ 100000000) ∧
    (1024 ≤ r.outputMaxBytes ∧ r.outputMaxBytes ≤ 64 * 1024 * 1024 * 1024))
    .invalidResourceEnvelope

structure WorkflowExecutionProfileV1 where
  profileId : WorkflowProfileId
  adapterId : WorkflowAdapterIdV1
  workerPool : WorkflowWorkerPoolV1
  networkClass : WorkflowNetworkClassV1
  cacheClass : WorkflowCacheClassV1
  timeoutMs : Nat
  resources : Option WorkflowResourceEnvelopeV1

def WorkflowExecutionProfileV1.validate (p : WorkflowExecutionProfileV1) :
    Except WorkflowContractError Unit := do
  ensure (100 ≤ p.timeoutMs ∧ p.timeoutMs ≤ 10800000) .invalidTimeout
  match p.workerPool with
  | .controller =>
    ensure (p.resources = none ∧ p.networkClass = .offline ∧ p.cacheClass = .none)
      .invalidExecutionProfile
  | .vpsRequired | .buildCompute | .privilegedExecutor => do
    let resources ← require p.resources .invalidResourceEnvelope
    resources.validate

def profileMatchesKind (p : WorkflowExecutionProfileV1) : WorkflowNodeKindV1 → Bool
  | .hostPrepare =>
    (p.networkClass = .offline || p.networkClass = .dependencyEgress) &&
      p.cacheClass = .dependency
  | .verification | .releaseBuild => p.networkClass = .offline && p.cacheClass = .preparedRun
  | .candidateHealth | .releasedObservation =>
    p.networkClass = .localHealthOnly && p.cacheClass = .none
  | _ => p.networkClass = .offline && p.cacheClass = .none

structure WorkflowNodeV1 where
  nodeId : WorkflowNodeId
  displayName : String
  kind : WorkflowNodeKindV1
  activation : WorkflowNodeActivationV1
  profileId : WorkflowProfileId
  dependsOn : List WorkflowNodeId
  inputContracts : List WorkflowArtifactKindV1
  outputContract : WorkflowArtifactKindV1

def WorkflowNodeV1.validateLocal (n : WorkflowNodeV1) : Except WorkflowContractError Unit := do
  ensure (0 < trimmedLength n.displayName ∧ trimmedLength n.displayName ≤ 96) .invalidDisplayName
  ensure (n.outputContract = n.kind.expectedOutput) (.artifactContractMismatch n.nodeId)
  ensure (n.activation = if n.kind = .rollback then .onMutationFailure else .always)
    (.invalidActivation n.nodeId)
  ensure (strictlySortedUnique n.dependsOn ∧ n.nodeId ∉ n.dependsOn ∧
    strictlySortedUnique n.inputContracts) (.invalidDependencies n.nodeId)

/-! ### Policies -/

structure WorkflowPolicyV1 where
  schemaVersion : Nat
  fairnessWeight : Nat
  deliveryMode : WorkflowDeliveryModeV1
  executionProfiles : List WorkflowExecutionProfileV1
  nodes : List WorkflowNodeV1

/-- The profiles as a map, in the order of their ids; a repeated id is refused. -/
def collectProfiles :
    List WorkflowExecutionProfileV1 → List WorkflowExecutionProfileV1 →
      Except WorkflowContractError (List WorkflowExecutionProfileV1)
  | seen, [] => .ok seen
  | seen, p :: rest => do
    p.validate
    ensure (p.profileId ∉ seen.map (·.profileId)) (.duplicateProfile p.profileId)
    collectProfiles (seen.orderedInsert (fun a b => a.profileId ≤ b.profileId) p) rest

/-- The nodes as a map, in the order of their ids, each checked against its profile. -/
def collectNodes (profiles : List WorkflowExecutionProfileV1) :
    List WorkflowNodeV1 → List WorkflowNodeV1 →
      Except WorkflowContractError (List WorkflowNodeV1)
  | seen, [] => .ok seen
  | seen, n :: rest => do
    n.validateLocal
    let profile ← require (profiles.find? (·.profileId = n.profileId)) (.missingProfile n.profileId)
    ensure (profile.adapterId ∈ n.kind.expectedAdapter ∧ n.kind.expectedPool = profile.workerPool ∧
      profileMatchesKind profile n.kind) (.profileKindMismatch n.nodeId)
    ensure (n.nodeId ∉ seen.map (·.nodeId)) (.duplicateNode n.nodeId)
    collectNodes profiles (seen.orderedInsert (fun a b => a.nodeId ≤ b.nodeId) n) rest

variable (nodes : List WorkflowNodeV1) (profiles : List WorkflowExecutionProfileV1)
  (n : WorkflowNodeV1) (kind : WorkflowNodeKindV1)

/-- The outputs of the dependencies of a node. -/
def expectedInputs (nodes : List WorkflowNodeV1) (n : WorkflowNodeV1) :
    List WorkflowNodeId → Except WorkflowContractError (List WorkflowArtifactKindV1)
  | [] => .ok []
  | d :: rest => do
    let dependency ← require (nodes.find? (·.nodeId = d)) (.missingDependency n.nodeId d)
    let inputs ← expectedInputs nodes n rest
    .ok (dependency.outputContract :: inputs)

/-- The input contracts of a node are the outputs of its dependencies. -/
def validateContracts : Except WorkflowContractError Unit := do
  let inputs ← expectedInputs nodes n n.dependsOn
  ensure (sameSet n.inputContracts inputs) (.artifactContractMismatch n.nodeId)

/-- May a node be emitted after the nodes already `emitted`? -/
def emittable (emitted : List WorkflowNodeId) (n : WorkflowNodeV1) : Bool :=
  n.nodeId ∉ emitted && n.dependsOn.all (· ∈ emitted)

/-- One pass of `validate_topology` over all nodes. -/
def topologyPass (emitted : List WorkflowNodeId) : List WorkflowNodeId :=
  nodes.foldl (fun emitted n => if emittable emitted n then n.nodeId :: emitted else emitted)
    emitted

/-- The loop of `validate_topology`.  Every pass but the last emits a node, so as many
passes as there are nodes suffice. -/
def topologyLoop (nodes : List WorkflowNodeV1) :
    Nat → List WorkflowNodeId → Except WorkflowContractError Unit
  | 0, emitted => ensure (nodes.length ≤ emitted.length) .cyclicGraph
  | passes + 1, emitted =>
    if emitted.length < nodes.length then
      if (topologyPass nodes emitted).length = emitted.length then .error .cyclicGraph
      else topologyLoop nodes passes (topologyPass nodes emitted)
    else .ok ()

def validateTopology : Except WorkflowContractError Unit :=
  topologyLoop nodes nodes.length []

def byKind : List WorkflowNodeV1 :=
  nodes.filter (·.kind = kind)

def exactlyOne : Except WorkflowContractError WorkflowNodeV1 :=
  match byKind nodes kind with
  | [n] => .ok n
  | _ => .error (.invalidNodeCardinality kind)

def atMostOne : Except WorkflowContractError (Option WorkflowNodeV1) :=
  match byKind nodes kind with
  | [] => .ok none
  | [n] => .ok (some n)
  | _ => .error (.invalidNodeCardinality kind)

def requireDependencies (dependencies : List WorkflowNodeId) : Except WorkflowContractError Unit :=
  ensure (n.dependsOn = dependencies) (.invalidDependencies n.nodeId)

/-- Node ids in increasing order (`slice::sort`). -/
def sortIds (ids : List WorkflowNodeId) : List WorkflowNodeId := ids.insertionSort (· ≤ ·)

def validateReleaseDependencies (build : WorkflowNodeV1)
    (buildProfile : WorkflowExecutionProfileV1) (prepare : WorkflowNodeV1)
    (verification : List WorkflowNodeV1) : Except WorkflowContractError Unit :=
  match buildProfile.adapterId with
  | .workerOciReleaseBuildV1 =>
    let serial := match verification with
      | [v] => some (sortIds [prepare.nodeId, v.nodeId])
      | _ => none
    ensure (build.dependsOn = [prepare.nodeId] ∨ serial = some build.dependsOn)
      (.invalidDependencies build.nodeId)
  | .workerNativeReleaseBuildV1 =>
    match verification with
    | [v] => requireDependencies build (sortIds [prepare.nodeId, v.nodeId])
    | _ => .error (.invalidNodeCardinality .verification)
  | _ => .error (.profileKindMismatch build.nodeId)

/-- A node that the chain of mutations passes through when the policy has it: it depends on
the `previous` node, and is itself the previous node of what follows. -/
def chainOptional (previous : WorkflowNodeV1) :
    Option WorkflowNodeV1 → Except WorkflowContractError WorkflowNodeV1
  | none => .ok previous
  | some n => do
    requireDependencies n [previous.nodeId]
    .ok n

def validateExecutorMutationGraph : Except WorkflowContractError Unit := do
  let source ← exactlyOne nodes .sourceAdmission
  let prepare ← exactlyOne nodes .hostPrepare
  let build ← exactlyOne nodes .releaseBuild
  let reduce ← exactlyOne nodes .deterministicReduce
  let reserve ← exactlyOne nodes .resourceReservation
  let candidate ← exactlyOne nodes .candidateHealth
  let cutover ← exactlyOne nodes .cutover
  let observe ← exactlyOne nodes .releasedObservation
  let rollback ← exactlyOne nodes .rollback
  let verification := byKind nodes .verification
  ensure (verification ≠ []) (.invalidNodeCardinality .verification)
  requireDependencies source []
  requireDependencies prepare [source.nodeId]
  each (fun v => requireDependencies v [prepare.nodeId]) verification
  let buildProfile ← require (profiles.find? (·.profileId = build.profileId))
    (.missingProfile build.profileId)
  validateReleaseDependencies build buildProfile prepare verification
  requireDependencies reduce (sortIds (verification.map (·.nodeId) ++ [build.nodeId]))
  requireDependencies reserve [reduce.nodeId]
  let backup ← atMostOne nodes .backup
  let migration ← atMostOne nodes .migration
  let afterBackup ← chainOptional reserve backup
  let afterMigration ← chainOptional afterBackup migration
  requireDependencies candidate [afterMigration.nodeId]
  requireDependencies cutover [candidate.nodeId]
  requireDependencies observe [cutover.nodeId]
  requireDependencies rollback [cutover.nodeId]

def validateSelfUpdateHandoffGraph : Except WorkflowContractError Unit := do
  ensure (nodes.length = 5) .invalidWorkflowBounds
  let source ← exactlyOne nodes .sourceAdmission
  let prepare ← exactlyOne nodes .hostPrepare
  let verification ← exactlyOne nodes .verification
  let build ← exactlyOne nodes .releaseBuild
  let reduce ← exactlyOne nodes .deterministicReduce
  let buildProfile ← require (profiles.find? (·.profileId = build.profileId))
    (.missingProfile build.profileId)
  ensure (buildProfile.adapterId = .workerNativeReleaseBuildV1) (.profileKindMismatch build.nodeId)
  requireDependencies source []
  requireDependencies prepare [source.nodeId]
  requireDependencies verification [prepare.nodeId]
  requireDependencies build (sortIds [prepare.nodeId, verification.nodeId])
  requireDependencies reduce (sortIds [build.nodeId, verification.nodeId])

namespace WorkflowPolicyV1

def validate (policy : WorkflowPolicyV1) : Except WorkflowContractError Unit := do
  ensure (policy.schemaVersion = 1) (.unsupportedSchemaVersion policy.schemaVersion)
  ensure ((1 ≤ policy.fairnessWeight ∧ policy.fairnessWeight ≤ 16) ∧
    (policy.executionProfiles ≠ [] ∧ policy.executionProfiles.length ≤ 32) ∧
    (policy.nodes ≠ [] ∧ policy.nodes.length ≤ 64)) .invalidWorkflowBounds
  let profiles ← collectProfiles [] policy.executionProfiles
  let nodes ← collectNodes profiles [] policy.nodes
  each (validateContracts nodes) policy.nodes
  validateTopology nodes
  match policy.deliveryMode with
  | .executorMutation => validateExecutorMutationGraph nodes profiles
  | .selfUpdateHandoff => validateSelfUpdateHandoffGraph nodes profiles

def node (policy : WorkflowPolicyV1) (nodeId : WorkflowNodeId) : Option WorkflowNodeV1 :=
  policy.nodes.find? (·.nodeId = nodeId)

def profile (policy : WorkflowPolicyV1) (profileId : WorkflowProfileId) :
    Option WorkflowExecutionProfileV1 :=
  policy.executionProfiles.find? (·.profileId = profileId)

/-- The loop of `ordered_nodes`: each turn emits the first node, in the order of ids, whose
dependencies are emitted. -/
def orderedLoop (byId : List WorkflowNodeV1) :
    Nat → List WorkflowNodeV1 → Except WorkflowContractError (List WorkflowNodeV1)
  | 0, ordered => .ok ordered
  | turns + 1, ordered => do
    let n ← require (byId.find? (emittable (ordered.map (·.nodeId)))) .cyclicGraph
    orderedLoop byId turns (ordered ++ [n])

/-- `WorkflowPolicyV1::ordered_nodes` of a validated policy. -/
def orderedNodes (policy : WorkflowPolicyV1) : Except WorkflowContractError (List WorkflowNodeV1) :=
  orderedLoop (policy.nodes.insertionSort fun a b => a.nodeId ≤ b.nodeId) policy.nodes.length []

end WorkflowPolicyV1

end Rdashboard
