import Rdashboard.Authorization.Tokens

/-! # Signed executor intents

An executor intent is the signed proposal of one operation: what is to be done, from which
source, with which candidate, and which role has to approve it.  A signer issues an intent only
for an input that passes `validate_issue_input`, and derives the consequences and the minimum
role from it. -/

namespace Rdashboard

open Check

inductive ExecutorIntentConsequenceV1 where
  | codeDeployment
  | verifiedBackupRequired
  | applicationWriteDrain
  | schemaMigration
  | automaticCodeRollbackAvailable
  | automaticRollbackProhibited
  | dataRestoreIsManual
  | firstInstallRollbackUnavailable
  | codeRollback
  | backupOnly
deriving DecidableEq

inductive ExecutorIntentRequiredRoleV1 where
  | operator
  | admin
deriving DecidableEq

/-- The operation that an intent proposes: the fields that the validator of an intent and the
decoder of an accepted mutation both check. -/
structure IntentOperation where
  operationKind : OperationKind
  targetCommit : Option GitCommitId
  proposedReleaseClass : Option ReleaseClass
  effectiveReleaseClass : Option ReleaseClass
  sourceAttestationDigest : Option EvidenceDigest
  sourceSequence : Option Nat
  releaseBundleDigest : Option EvidenceDigest
  buildAttestationDigest : Option EvidenceDigest
  migrationId : Option String
  previousReleaseBundleDigest : Option EvidenceDigest
deriving DecidableEq

structure ExecutorIntentIssueInputV1 extends IntentOperation where
  issuedAtMs : Int
  notBeforeMs : Int
  expiresAtMs : Int
  intentId : Uuid
  requestId : Uuid
  projectId : ProjectId
  installedPolicyDigest : EvidenceDigest
deriving DecidableEq

/-- `ExecutorIntentClaimsV1`, and `ExecutorIntentPayloadCbor`. -/
structure ExecutorIntentClaimsV1 extends ExecutorIntentIssueInputV1 where
  schemaVersion : Nat
  issuer : String
  authorizerAudience : String
  keyId : String
  keyEpoch : Nat
  consequences : List ExecutorIntentConsequenceV1
  minimumRole : ExecutorIntentRequiredRoleV1
deriving DecidableEq

def executorIntentSchemaVersion : Nat := 2

def executorIntentMaxTtlMs : Int := 5 * 60 * 1000

def maxMigrationIdBytes : Nat := 128

/-- The constants of an intent token; the signature domain is `rdashboard.executor-intent.v1\0`. -/
def executorIntentFormat : TokenFormat where
  signatureDomain := "rdashboard.executor-intent.v1\x00".toUTF8.toList
  maxPayloadBytes := 8 * 1024
  maxTokenBytes := 24 * 1024

def OperationKind.requiresCommit : OperationKind → Bool
  | .deploy | .codeRollback => true
  | .backupOnly => false

def validMigrationId (value : String) : Bool :=
  value.utf8ByteSize ≠ 0 && value.utf8ByteSize ≤ maxMigrationIdBytes &&
    value.toList.all fun c => isAsciiAlphanumeric c || c = '-' || c = '_' || c = '.' || c = ':' ||
      c = '/'

namespace IntentOperation

variable (operation : IntentOperation)

/-- Is the proposed release class one of the operation's kind? -/
def proposedValid : Bool :=
  match operation.operationKind with
  | .deploy => operation.proposedReleaseClass = some .codeOnlyCompatible ||
      operation.proposedReleaseClass = some .statefulCompatible ||
      operation.proposedReleaseClass = some .statefulBreaking
  | .codeRollback => operation.proposedReleaseClass = some .rollback
  | .backupOnly => operation.proposedReleaseClass.isNone

/-- Does the effective release class run a migration? -/
def needsMigration : Bool :=
  operation.effectiveReleaseClass = some .statefulCompatible ||
    operation.effectiveReleaseClass = some .statefulBreaking

/-- Does the intent name the candidate that its kind needs? -/
def candidateBindingValid : Bool :=
  match operation.operationKind with
  | .deploy => operation.releaseBundleDigest.isSome && operation.buildAttestationDigest.isSome
  | .codeRollback => operation.releaseBundleDigest.isSome && operation.buildAttestationDigest.isNone
  | .backupOnly => operation.releaseBundleDigest.isNone && operation.buildAttestationDigest.isNone

/-- The checks of `validate_issue_input` on the operation. -/
def validate : Except TokenError Unit := do
  ensure (operation.operationKind.requiresCommit = operation.targetCommit.isSome ∧
    (operation.operationKind.requiredPhases operation.effectiveReleaseClass).isSome = true)
    .operationMismatch
  ensure (operation.proposedValid = true) .operationMismatch
  ensure (operation.sourceAttestationDigest.isSome = operation.sourceSequence.isSome ∧
    operation.sourceAttestationDigest.isSome = operation.operationKind.requiresCommit ∧
    operation.sourceSequence.all (fun value => value ≠ 0 && (value : Int) ≤ i64Max) = true)
    .invalidSourceAuthority
  ensure (operation.needsMigration = operation.migrationId.isSome ∧
    operation.migrationId.all validMigrationId = true) .invalidMigrationId
  ensure (operation.candidateBindingValid = true) .operationMismatch
  ensure (decide (operation.operationKind = .codeRollback) =
      operation.previousReleaseBundleDigest.isSome ∨ operation.operationKind = .deploy)
    .invalidRollbackTarget

end IntentOperation

namespace ExecutorIntentIssueInputV1

variable (input : ExecutorIntentIssueInputV1)

/-- `validate_issue_input`. -/
def validate : Except TokenError Unit := do
  ensure (0 ≤ input.issuedAtMs ∧ input.issuedAtMs ≤ input.notBeforeMs ∧
    input.notBeforeMs < input.expiresAtMs ∧
    input.expiresAtMs - input.issuedAtMs ≤ executorIntentMaxTtlMs) .invalidLifetime
  ensure (input.intentId.isNil = false ∧ input.requestId.isNil = false) .invalidIdentity
  input.toIntentOperation.validate

def expectedConsequences : List ExecutorIntentConsequenceV1 :=
  match input.operationKind, input.effectiveReleaseClass with
  | .deploy, some .codeOnlyCompatible =>
    [.codeDeployment,
      if input.previousReleaseBundleDigest.isSome then .automaticCodeRollbackAvailable
      else .firstInstallRollbackUnavailable,
      .dataRestoreIsManual]
  | .deploy, some .statefulCompatible =>
    [.codeDeployment, .verifiedBackupRequired, .applicationWriteDrain, .schemaMigration,
      .automaticCodeRollbackAvailable, .dataRestoreIsManual]
  | .deploy, some .statefulBreaking =>
    [.codeDeployment, .verifiedBackupRequired, .applicationWriteDrain, .schemaMigration,
      .automaticRollbackProhibited, .dataRestoreIsManual]
  | .codeRollback, some .rollback => [.codeRollback, .dataRestoreIsManual]
  | .backupOnly, none => [.backupOnly]
  | _, _ => []

def expectedMinimumRole : ExecutorIntentRequiredRoleV1 :=
  if input.operationKind = .codeRollback ∨ input.effectiveReleaseClass = some .statefulBreaking then
    .admin
  else .operator

end ExecutorIntentIssueInputV1

structure SignedExecutorIntentV1 where
  compact : String
  claims : ExecutorIntentClaimsV1
  digest : EvidenceDigest
deriving DecidableEq

/-- `ExecutorIntentSignerV1`: its fields passed the checks of `new`. -/
structure ExecutorIntentSignerV1 (codec : TokenCodec ExecutorIntentClaimsV1) where
  identity : TokenIssuer
  signingKey : codec.SigningKey
  accepted : identity.validate = .ok ()

def ExecutorIntentSignerV1.issue {codec : TokenCodec ExecutorIntentClaimsV1}
    (signer : ExecutorIntentSignerV1 codec) (input : ExecutorIntentIssueInputV1) :
    Except TokenError SignedExecutorIntentV1 := do
  input.validate
  let payload : ExecutorIntentClaimsV1 :=
    { input with
      schemaVersion := executorIntentSchemaVersion
      issuer := signer.identity.issuer
      authorizerAudience := signer.identity.audience
      keyId := signer.identity.keyId
      keyEpoch := signer.identity.keyEpoch
      consequences := input.expectedConsequences
      minimumRole := input.expectedMinimumRole }
  let payloadBytes ← encodePayload codec executorIntentFormat payload
  let signature := codec.sign signer.signingKey (signatureInput executorIntentFormat payloadBytes)
  pure
    { compact := compactToken codec payloadBytes signature
      claims := payload
      digest := tokenDigest codec executorIntentFormat payloadBytes signature }

/-! ### What a signer ensures -/

/-- The operation of an intent, as `validate_issue_input` accepts it. -/
structure IntentOperation.Valid (operation : IntentOperation) : Prop where
  commit : operation.operationKind.requiresCommit = operation.targetCommit.isSome
  phases : (operation.operationKind.requiredPhases operation.effectiveReleaseClass).isSome = true
  proposed : operation.proposedValid = true
  source : operation.sourceAttestationDigest.isSome = operation.sourceSequence.isSome
  sourceOfCommit : operation.sourceAttestationDigest.isSome = operation.operationKind.requiresCommit
  sequence : operation.sourceSequence.all
    (fun value => value ≠ 0 && (value : Int) ≤ i64Max) = true
  migration : operation.needsMigration = operation.migrationId.isSome
  migrationId : operation.migrationId.all validMigrationId = true
  candidate : operation.candidateBindingValid = true
  rollback : decide (operation.operationKind = .codeRollback) =
    operation.previousReleaseBundleDigest.isSome ∨ operation.operationKind = .deploy

theorem IntentOperation.valid_of_validate {operation : IntentOperation} {u : Unit}
    (h : operation.validate = .ok u) : operation.Valid := by
  simp only [validate, ok_iff] at h
  obtain ⟨_, ⟨hcommit, hphases⟩, _, hproposed, _, ⟨hsome, hrequired, hsequence⟩, _, ⟨hneeds, hid⟩, _,
    hcandidate, hrollback⟩ := h
  exact ⟨hcommit, hphases, hproposed, hsome, hrequired, hsequence, hneeds, hid, hcandidate,
    hrollback⟩

/-- What `issue` guarantees of the intent that it returns. -/
structure SignedExecutorIntentV1.Issued (intent : SignedExecutorIntentV1) : Prop where
  intentId : intent.claims.intentId.isNil = false
  requestId : intent.claims.requestId.isNil = false
  operation : intent.claims.toIntentOperation.Valid
  compactNonempty : intent.compact.utf8ByteSize ≠ 0
  compactBounded : intent.compact.utf8ByteSize ≤ 24 * 1024

theorem ExecutorIntentSignerV1.issued {codec : TokenCodec ExecutorIntentClaimsV1}
    (hbase64 : codec.SizedBase64) {signer : ExecutorIntentSignerV1 codec}
    {input : ExecutorIntentIssueInputV1} {intent : SignedExecutorIntentV1}
    (h : signer.issue input = .ok intent) : intent.Issued := by
  simp only [issue, ExecutorIntentIssueInputV1.validate, encodePayload, ok_iff] at h
  obtain ⟨_, ⟨_, -, _, hids, hoperation⟩, _, ⟨bytes, -, _, hsize, rfl⟩, rfl⟩ := h
  have hlength : bytes.length ≤ 8 * 1024 := hsize
  have hdot : (".").utf8ByteSize = 1 := by decide
  refine ⟨hids.1, hids.2, IntentOperation.valid_of_validate hoperation, ?_, ?_⟩
  -- 8 KiB of payload give at most 10923 characters, and the signature another 87.
  all_goals
    rw [compactToken, String.utf8ByteSize_append, String.utf8ByteSize_append, hbase64, hbase64,
      (codec.sign _ _).2, hdot]
    omega

end Rdashboard
