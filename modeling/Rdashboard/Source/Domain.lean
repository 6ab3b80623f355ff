import Rdashboard.Library.Transaction
import Rdashboard.Security.Domain

/-! # Accepted heads and their deliveries

The documents of the source broker: the signed attestation of an accepted head, what an ingress
returns, the policies that are installed for the projects.  Everything that the program hashes is
a `SourceDocument`; the hash, the signature scheme and the parser of the webhook body are the
parameters of a `SourceCodec`; what a result assumes about them is one of its hypotheses. -/

namespace Rdashboard

open Relational Check

inductive SourceChannel where
  | githubWebhook
  | sourceReconciliation
  | directPush
deriving DecidableEq

/-! ### Attestations -/

inductive SourceAttestationError where
  | unsupportedSchemaVersion (version : Nat)
  | zeroSequence
  | zeroPolicyVersion
  | invalidValidityWindow
  | expired
  | emptyKeyring
  | invalidKeyId
  | unknownKey (keyId : String)
  | invalidSignatureEncoding
  | invalidSignature
  | signatureVerification
  | digestMismatch
deriving DecidableEq

def acceptedHeadSchemaVersion : Nat := 1

structure AcceptedHeadV1 where
  schemaVersion : Nat
  projectId : ProjectId
  head : GitCommitId
  sequence : Nat
  previousHead : Option GitCommitId
  acceptedVia : SourceChannel
  repositoryIdentity : EvidenceDigest
  installedPolicy : InstalledPolicyIdentity
  acceptedAtMs : Int
  expiresAtMs : Int
deriving DecidableEq

def AcceptedHeadV1.validate (payload : AcceptedHeadV1) : Except SourceAttestationError Unit := do
  ensure (payload.schemaVersion = acceptedHeadSchemaVersion)
    (.unsupportedSchemaVersion payload.schemaVersion)
  ensure (payload.sequence ≠ 0) .zeroSequence
  ensure (payload.installedPolicy.version ≠ 0) .zeroPolicyVersion
  ensure (payload.acceptedAtMs < payload.expiresAtMs) .invalidValidityWindow

structure SignedAcceptedHeadV1 where
  keyId : String
  payload : AcceptedHeadV1
  signature : String
deriving DecidableEq

def validateKeyId (keyId : String) : Except SourceAttestationError Unit :=
  ensure ((1 ≤ keyId.utf8ByteSize && keyId.utf8ByteSize ≤ 64 &&
    keyId.toList.all fun c => isAsciiAlphanumeric c || c = '-' || c = '_') = true) .invalidKeyId

/-- An `ed25519_dalek::SigningKey`. -/
abbrev SigningKey := BitVec 256

/-- An `ed25519_dalek::VerifyingKey`. -/
abbrev VerifyingKey := BitVec 256

structure SourceGateProofPayload where
  attemptId : Uuid
  projectId : ProjectId
  phase : OperationPhase
  target : GitCommitId
  sequence : Nat
  attestationDigest : EvidenceDigest
  installedPolicy : InstalledPolicyIdentity

inductive SourceProjectState where
  | ready
  | sourceDivergedNeedsOwner
deriving DecidableEq

/-- The text of a digest: its 64 hexadecimal digits. -/
def digestText (digest : EvidenceDigest) : String :=
  .ofList ((List.range 64).map fun i => Nat.digitChar (digest.toNat / 16 ^ (63 - i) % 16))

/-- The values that `reconcile_remote_main_with` hashes. -/
structure ReconcileDocument where
  projectId : ProjectId
  fetchedHead : GitCommitId
  repositoryIdentity : EvidenceDigest
  installedPolicy : InstalledPolicyIdentity
  autoDeploy : Bool
  head : Option GitCommitId
  sequence : Nat
  state : SourceProjectState
  blockedSha : Option GitCommitId
  pauseActive : Bool
  divergenceEvidenceDigest : Option EvidenceDigest
  attestationExpired : Bool
  refreshExpiredSameHead : Bool

/-- What the source broker hashes. -/
inductive SourceDocument where
  | signedHead (signed : SignedAcceptedHeadV1)
  | liveProof (payload : SourceGateProofPayload)
  | gateNotRequired
  | webhookBody (body : List UInt8)
  | startupMismatch (projectId : ProjectId) (head repositoryHead : Option GitCommitId)
  | casDivergence (projectId : ProjectId) (intended : GitCommitId)
      (observed : Option GitCommitId) (intentDigest : EvidenceDigest)
  | githubMismatch (announced fetched : GitCommitId)
  | reconcile (document : ReconcileDocument)
  | directPush (gitRef : String) (oldHead : Option GitCommitId) (newHead : GitCommitId)
      (projectId : ProjectId)

structure GithubPushPayload where
  gitRef : String
  after : String
  repositoryFullName : String

structure SourceCodec where
  sha256 : SourceDocument → EvidenceDigest
  verifyingKey : SigningKey → VerifyingKey
  /-- The encoded signature of the canonical bytes of a payload. -/
  sign : SigningKey → AcceptedHeadV1 → String
  /-- Decode a signature and verify it. -/
  verifyStrict : VerifyingKey → AcceptedHeadV1 → String → Except SourceAttestationError Unit
  hmacSha256 : List UInt8 → List UInt8 → List UInt8
  /-- `serde_json::from_slice` of a webhook body. -/
  parsePush : List UInt8 → Option GithubPushPayload

/-- `SignedAcceptedHeadV1::sign`. -/
def SignedAcceptedHeadV1.create (codec : SourceCodec) (keyId : String) (payload : AcceptedHeadV1)
    (signingKey : SigningKey) : Except SourceAttestationError SignedAcceptedHeadV1 := do
  payload.validate
  validateKeyId keyId
  pure { keyId, payload, signature := codec.sign signingKey payload }

theorem SignedAcceptedHeadV1.create_payload {codec : SourceCodec} {keyId : String}
    {payload : AcceptedHeadV1} {signingKey : SigningKey} {signed : SignedAcceptedHeadV1}
    (h : create codec keyId payload signingKey = .ok signed) : signed.payload = payload := by
  simp only [create, ok_iff] at h
  obtain ⟨-, -, -, -, rfl⟩ := h
  rfl

def SignedAcceptedHeadV1.digest (codec : SourceCodec) (signed : SignedAcceptedHeadV1) :
    EvidenceDigest := codec.sha256 (.signedHead signed)

/-- `SourceAttestationVerifier`, whose keyring is a map from key identifiers to keys. -/
structure SourceAttestationVerifier where
  keys : List (String × VerifyingKey)
deriving DecidableEq

def SourceAttestationVerifier.verifyInner (codec : SourceCodec)
    (verifier : SourceAttestationVerifier) (signed : SignedAcceptedHeadV1) (nowMs : Option Int) :
    Except SourceAttestationError AcceptedHeadV1 := do
  signed.payload.validate
  validateKeyId signed.keyId
  ensure ((nowMs.any fun now => signed.payload.expiresAtMs ≤ now) = false) .expired
  let key ← require (verifier.keys.lookup signed.keyId) (.unknownKey signed.keyId)
  codec.verifyStrict key signed.payload signed.signature
  pure signed.payload

def SourceAttestationVerifier.verifyLive (codec : SourceCodec)
    (verifier : SourceAttestationVerifier) (signed : SignedAcceptedHeadV1) :
    Except SourceAttestationError AcceptedHeadV1 := verifier.verifyInner codec signed none

/-! ### Deliveries -/

structure VerifiedSourceDelivery where
  channel : SourceChannel
  deliveryId : String
  payloadDigest : EvidenceDigest
  attestation : SignedAcceptedHeadV1
  attestationDigest : EvidenceDigest
deriving DecidableEq

inductive SourceIngressOutcome where
  | deployable (delivery : VerifiedSourceDelivery)
  | staleNoop (announcedHead : GitCommitId)
  | ignoredRef
  | sourceDivergedNeedsOwner
  | reconciliationPaused
  | blockedSha (head : GitCommitId)
deriving DecidableEq

inductive GithubWebhookAdmissionV1 where
  | queued (wakeupSequence : Nat)
  | duplicate (wakeupSequence : Nat) (completed : Bool)
  | ignoredRef

structure GithubWebhookDrainOutcomeV1 where
  completed : Nat
  deferredUntilRemoteCatchesUp : Bool

inductive SourceOutboxStatus where
  | pending
  | delivered
  | superseded
deriving DecidableEq

inductive CommitRelationship where
  | same
  | fastForward
  | rewind
  | diverged

/-! ### Errors -/

/-- `SourceError`, without the errors of calls that do not change the ledger. -/
inductive SourceError where
  | constraintViolation
  | queryReturnedNoRows
  | io
  | attestation (error : SourceAttestationError)
  | brokerLeaseSuperseded
  | untrustedBrokerLock
  | corruptLedger (field : String)
  | sequenceRange
  | sequenceExhausted
  | timeRange
  | invalidDeliveryId
  | deliveryConflict
  | deliveryInProgress
  | deliveryReservationLost
  | invalidOutboxAcknowledgement
  | outboxEntryMissing
  | outboxAcknowledgementConflict
  | shadowRequiresAutoDeployDisabled
  | webhookSecretTooShort
  | invalidWebhookSignature
  | webhookBodyTooLarge
  | invalidWebhookPayload
  | githubRepositoryMismatch
  | webhookQueueFull
  | invalidWebhookBatchLimit
  | webhookWakeupMissing
  | webhookWakeupConflict
  | remoteHeadBehindWebhook
  | reconciliationDeferred
  | repository (message : String)
  | repositoryIdentityMismatch
  | concurrentSourceUpdate
  | mutationAdmissionBusy
  | mutationTicketMismatch
  | invalidMutationTicketPhase
  | pendingRefUpdateConflict
  | directPushRefRejected
  | headNotCurrent
  | blockedSha
  | invalidControl (message : String)
  | ownerResolutionMismatch
  | invalidInstalledPolicy
  | duplicateInstalledProject
  | unknownProject (projectId : ProjectId)
deriving DecidableEq

instance : SqlError SourceError := ⟨.constraintViolation, .queryReturnedNoRows⟩

/-- An error of an attestation raised through `?`. -/
def ofAttestation {α : Type} (x : Except SourceAttestationError α) : Except SourceError α :=
  x.mapError .attestation

/-! ### Policies and texts -/

def validGithubRepositoryFullName (value : String) : Bool :=
  let valid := fun part : List Char =>
    !part.isEmpty && part.all fun c => isAsciiAlphanumeric c || c = '-' || c = '_' || c = '.'
  match value.toList.splitOn '/' with
  | [owner, repository] => valid owner && valid repository
  | _ => false

def eqIgnoreAsciiCase (a b : String) : Bool :=
  let lower := fun c : Char => if isAsciiUppercase c then Char.ofNat (c.toNat + 32) else c
  decide (a.toList.map lower = b.toList.map lower)

structure InstalledSourceProjectPolicy where
  projectId : ProjectId
  repositoryIdentity : EvidenceDigest
  githubRepository : String
  installedPolicy : InstalledPolicyIdentity
  autoDeploy : Bool
  maximumAttempts : Nat
  releaseClass : ReleaseClass
deriving DecidableEq

def InstalledSourceProjectPolicy.validate (policy : InstalledSourceProjectPolicy) :
    Except SourceError Unit := do
  ensure (policy.installedPolicy.version ≠ 0 ∧ 1 ≤ policy.maximumAttempts ∧
    policy.maximumAttempts ≤ 10 ∧ validGithubRepositoryFullName policy.githubRepository = true)
    .invalidInstalledPolicy
  ensure (policy.releaseClass ≠ .rollback) .invalidInstalledPolicy

def validateDeliveryId (deliveryId : String) : Except SourceError Unit :=
  ensure ((1 ≤ deliveryId.utf8ByteSize && deliveryId.utf8ByteSize ≤ 128 &&
    deliveryId.toList.all fun c =>
      isAsciiAlphanumeric c || c = '-' || c = '_' || c = '.' || c = ':') = true) .invalidDeliveryId

/-! ### Webhooks -/

def maxWebhookBodyBytes : Nat := 1048576

def hexNibble (c : Char) : Option Nat :=
  if isAsciiDigit c then some (c.toNat - 48)
  else if 97 ≤ c.toNat ∧ c.toNat ≤ 102 then some (c.toNat - 97 + 10) else none

/-- The bytes that pairs of hexadecimal digits encode. -/
def decodeHexPairs : List Char → Option (List UInt8)
  | high :: low :: rest => do
    let h ← hexNibble high
    let l ← hexNibble low
    return UInt8.ofNat (16 * h + l) :: (← decodeHexPairs rest)
  | [] => some []
  | [_] => none

def decodeHex32 (value : List Char) : Option (List UInt8) :=
  if value.length = 64 then decodeHexPairs value else none

def verifyGithubHmac (codec : SourceCodec) (signatureHeader : String)
    (secret rawBody : List UInt8) : Except SourceError Unit := do
  ensure (16 ≤ secret.length) .webhookSecretTooShort
  let encoded ← require
    (if "sha256=".toList.isPrefixOf signatureHeader.toList then
      some (signatureHeader.toList.drop 7) else none) .invalidWebhookSignature
  let received ← require (decodeHex32 encoded) .invalidWebhookSignature
  ensure (codec.hmacSha256 secret rawBody = received) .invalidWebhookSignature

/-- `GitCommitId::from_str`. -/
def parseGitCommitId (value : String) : Option GitCommitId :=
  if h : validGitCommitId value = true then some ⟨value, h⟩ else none

/-- `decode_github_push`; `none` when the push is to another ref. -/
def decodeGithubPush (codec : SourceCodec) (rawBody : List UInt8) (expectedRepository : String) :
    Except SourceError (Option GitCommitId) := do
  let payload ← require (codec.parsePush rawBody) .invalidWebhookPayload
  ensure (eqIgnoreAsciiCase payload.repositoryFullName expectedRepository = true)
    .githubRepositoryMismatch
  if payload.gitRef ≠ "refs/heads/main" then return none
  return some (← require (parseGitCommitId payload.after) .invalidWebhookPayload)

end Rdashboard
