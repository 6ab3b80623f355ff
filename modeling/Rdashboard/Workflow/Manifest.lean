import Rdashboard.Workflow.Policy

/-! # Project manifests

`ProjectManifestV2.validate` checks the parts of a manifest on their own, then that its
workflow fits them: a backup node exactly when a volume needs one, a migration node exactly
when the application migrates, the release adapter of the declared build kind, and the
self-update workflow only for rdashboard itself.  The rest of the development works with
`ValidManifest`, the manifests that passed. -/

namespace Rdashboard

open Check

inductive CanonicalBranch where
  | main
deriving DecidableEq

inductive CiPolicy where
  | binCi

inductive BuildKind where
  | oci
  | native
deriving DecidableEq

inductive BuildContext where
  | repositoryRoot

inductive DataClass where
  | stateful
  | derived
  | ephemeral

inductive MigrationEntrypoint where
  | none
  | applicationMigrate
deriving DecidableEq

inductive WriteFencePolicy where
  | unsupported
  | applicationProtocolV1
deriving DecidableEq

inductive NotificationRoute where
  | telegramDefault

inductive ManifestError where
  | unsupportedSchemaVersion (version : Nat)
  | invalidDisplayName
  | unsupportedBranch
  | missingHealthCheck
  | invalidHealthCheckName
  | duplicateHealthCheck (name : String)
  | invalidExpectedStatus
  | invalidHealthTimeout
  | duplicateDataPath (path : String)
  | unsafeDataPath (path : String)
  | invalidDockerfilePath
  | buildWorkflowMismatch
  | selfUpdateWorkflowMismatch
  | invalidSoakDuration
  | workflowBackupMismatch
  | workflowMigrationMismatch
  | workflowInvalid
deriving DecidableEq

/-- A URL accepted by its parser; only its text is kept. -/
structure ParsedUrl where
  value : String

/-- A normalized policy path accepted by its parser; only its text is kept. -/
structure PolicyPath where
  value : String

structure SourcePolicy where
  remoteUrl : ParsedUrl
  branch : CanonicalBranch

structure VerifiedOciOutputPolicy where
  contextName : String
  directory : PolicyPath
  maxBytes : Nat
  maxFiles : Nat

structure BuildPolicy where
  context : BuildContext
  kind : BuildKind
  dockerfile : Option PolicyPath
  verifiedOutput : Option VerifiedOciOutputPolicy

structure HealthCheckPolicy where
  name : String
  endpoint : ParsedUrl
  expectedStatus : Nat
  timeoutSeconds : Nat

structure DataVolumePolicy where
  path : PolicyPath
  dataClass : DataClass
  backupRequired : Bool

structure MigrationPolicy where
  entrypoint : MigrationEntrypoint
  writeFence : WriteFencePolicy

structure RollbackPolicy where
  codeRollback : Bool
  soakSeconds : Nat

structure NotificationPolicy where
  route : NotificationRoute
  maintenanceSuppression : Bool

structure ProjectManifestV2 where
  schemaVersion : Nat
  projectId : ProjectId
  displayName : String
  source : SourcePolicy
  ci : CiPolicy
  build : BuildPolicy
  workflow : WorkflowPolicyV1
  hostPreparation : Option WorkflowHostPreparationPolicyV1
  healthChecks : List HealthCheckPolicy
  dataVolumes : List DataVolumePolicy
  migration : MigrationPolicy
  rollback : RollbackPolicy
  notifications : NotificationPolicy

def validBuildContextName (value : String) : Bool :=
  (1 ≤ value.utf8ByteSize && value.utf8ByteSize ≤ 64) &&
    value ≠ "context" && value ≠ "dockerfile" &&
    value.toList.head?.any isAsciiLowercase && value.toList.getLast?.any isAsciiAlphanumeric &&
    value.toList.all fun c => isAsciiLowercase c || isAsciiDigit c || c = '-'

def VerifiedOciOutputPolicy.validate (p : VerifiedOciOutputPolicy) : Bool :=
  validBuildContextName p.contextName &&
    (1024 ≤ p.maxBytes && p.maxBytes ≤ 512 * 1024 * 1024) &&
    (1 ≤ p.maxFiles && p.maxFiles ≤ 1024)

/-- Is the last component of a normalized path `Dockerfile` or `Dockerfile.<variant>`? -/
def namesDockerfile (path : PolicyPath) : Bool :=
  let name := match splitLast '/' path.value.toList with
    | some (_, name) => name
    | none => path.value.toList
  name = "Dockerfile".toList ||
    (stripLeading "Dockerfile.".toList name).any fun variant =>
      variant ≠ [] && variant.all fun c => isAsciiAlphanumeric c || c = '-' || c = '_'

def BuildPolicy.validate (b : BuildPolicy) : Except ManifestError Unit :=
  have valid := match b.kind, b.dockerfile, b.verifiedOutput with
    | .oci, some dockerfile, verifiedOutput =>
      namesDockerfile dockerfile && verifiedOutput.all (·.validate)
    | .native, none, none => true
    | _, _, _ => false
  ensure (valid = true) .invalidDockerfilePath

def HealthCheckPolicy.validate (c : HealthCheckPolicy) : Except ManifestError Unit := do
  ensure (0 < trimmedLength c.name ∧ trimmedLength c.name ≤ 64) .invalidHealthCheckName
  ensure (100 ≤ c.expectedStatus ∧ c.expectedStatus ≤ 599) .invalidExpectedStatus
  ensure (1 ≤ c.timeoutSeconds ∧ c.timeoutSeconds ≤ 120) .invalidHealthTimeout

/-- Health checks pass on their own and have distinct names. -/
def validateHealthChecks : List String → List HealthCheckPolicy → Except ManifestError Unit
  | _, [] => .ok ()
  | names, c :: rest => do
    c.validate
    ensure (c.name ∉ names) (.duplicateHealthCheck c.name)
    validateHealthChecks (c.name :: names) rest

/-- Volumes have distinct paths, none of them the root. -/
def validateDataVolumes : List String → List DataVolumePolicy → Except ManifestError Unit
  | _, [] => .ok ()
  | paths, v :: rest => do
    ensure (v.path.value ≠ "/") (.unsafeDataPath v.path.value)
    ensure (v.path.value ∉ paths) (.duplicateDataPath v.path.value)
    validateDataVolumes (v.path.value :: paths) rest

namespace ProjectManifestV2

def validateCommonManifest (m : ProjectManifestV2) : Except ManifestError Unit := do
  ensure (0 < trimmedLength m.displayName ∧ trimmedLength m.displayName ≤ 96) .invalidDisplayName
  ensure (m.source.branch = .main) .unsupportedBranch
  m.build.validate
  ensure (m.healthChecks ≠ []) .missingHealthCheck
  validateHealthChecks [] m.healthChecks
  validateDataVolumes [] m.dataVolumes
  ensure (10 ≤ m.rollback.soakSeconds ∧ m.rollback.soakSeconds ≤ 86400) .invalidSoakDuration

/-- The first node of a kind, in the order of the manifest. -/
def firstNode (m : ProjectManifestV2) (kind : WorkflowNodeKindV1) : Option WorkflowNodeV1 :=
  m.workflow.nodes.find? (·.kind = kind)

/-- Has the workflow a node of this kind? -/
def hasNode (m : ProjectManifestV2) (kind : WorkflowNodeKindV1) : Bool :=
  m.workflow.nodes.any (·.kind = kind)

def consumesVerifiedOciOutput (m : ProjectManifestV2) : Except ManifestError Bool := do
  let release ← require (m.firstNode .releaseBuild) .buildWorkflowMismatch
  let verification ← require (m.firstNode .verification) .buildWorkflowMismatch
  .ok (verification.nodeId ∈ release.dependsOn &&
    .verificationReceipt ∈ release.inputContracts)

/-- The host-preparation policy, when there is one, is valid and runs on the network its
profile allows. -/
def validateHostPreparation (m : ProjectManifestV2) : Except ManifestError Unit :=
  match m.hostPreparation with
  | none => .ok ()
  | some policy =>
    let profile := (m.firstNode .hostPrepare).bind fun n => m.workflow.profile n.profileId
    ensure (isOk policy.validate ∧
      profile.any (·.networkClass = policy.requiredNetworkClass)) .workflowInvalid

def validate (m : ProjectManifestV2) : Except ManifestError Unit := do
  ensure (m.schemaVersion = 2) (.unsupportedSchemaVersion m.schemaVersion)
  m.validateCommonManifest
  orElse m.workflow.validate .workflowInvalid
  ensure (m.workflow.deliveryMode = .selfUpdateHandoff →
    m.projectId.value = "rdashboard" ∧ m.build.kind = .native ∧ m.dataVolumes = [] ∧
      m.migration.entrypoint = .none ∧ m.migration.writeFence = .unsupported ∧
      m.rollback.codeRollback) .selfUpdateWorkflowMismatch
  let releaseProfile ← require
    ((m.firstNode .releaseBuild).bind fun n => m.workflow.profile n.profileId)
    .buildWorkflowMismatch
  ensure ((m.build.kind = .oci ∧ releaseProfile.adapterId = .workerOciReleaseBuildV1) ∨
    (m.build.kind = .native ∧ releaseProfile.adapterId = .workerNativeReleaseBuildV1))
    .buildWorkflowMismatch
  if m.build.kind = .oci then
    let consumes ← m.consumesVerifiedOciOutput
    ensure (m.build.verifiedOutput.isSome = consumes) .buildWorkflowMismatch
  m.validateHostPreparation
  ensure (m.hasNode .backup = m.dataVolumes.any (·.backupRequired)) .workflowBackupMismatch
  ensure (m.hasNode .migration = decide (m.migration.entrypoint ≠ .none))
    .workflowMigrationMismatch

end ProjectManifestV2

/-- A manifest that `validate` accepts: what the canonical text in a `manifest_json` column
decodes to. -/
abbrev ValidManifest := { m : ProjectManifestV2 // m.validate = .ok () }

theorem ValidManifest.workflow_validate (m : ValidManifest) : m.1.workflow.validate = .ok () := by
  have h := m.2
  simp only [ProjectManifestV2.validate, bind_ok_iff] at h
  obtain ⟨_, -, _, -, _, hw, -⟩ := h
  exact orElse_ok_iff.mp hw

end Rdashboard
