import Rdashboard.Authorization.Tokens

/-! # Action grants

An action grant binds an actor, a role and a lease to one persisted intent.  The executor accepts
a grant only as the result of `authenticate_for_persisted_intent`, or of `verify`, which also
compares it with the binding that the caller expects. -/

namespace Rdashboard

open Check

inductive ActionGrantRoleV1 where
  | operator
  | admin
deriving DecidableEq

/-- `ActionGrantClaimsV1`, and `ActionGrantPayloadCbor`. -/
structure ActionGrantClaimsV1 where
  schemaVersion : Nat
  issuer : String
  executorAudience : String
  keyId : String
  keyEpoch : Nat
  issuedAtMs : Int
  notBeforeMs : Int
  expiresAtMs : Int
  nonce : Uuid
  actorId : Uuid
  role : ActionGrantRoleV1
  leaseId : Uuid
  leaseGeneration : Nat
  intentId : Uuid
  intentDigest : EvidenceDigest
  installedPolicyDigest : EvidenceDigest
  requestId : Uuid
deriving DecidableEq

structure ActionGrantExpectedBindingV1 where
  actorId : Uuid
  role : ActionGrantRoleV1
  leaseId : Uuid
  leaseGeneration : Nat
  intentId : Uuid
  intentDigest : EvidenceDigest
  installedPolicyDigest : EvidenceDigest
  requestId : Uuid

def actionGrantSchemaVersion : Nat := 1

def actionGrantMaxTtlMs : Int := 2 * 60 * 1000

/-- The constants of a grant token; the signature domain is `rdashboard.action-grant.v1\0`. -/
def actionGrantFormat : TokenFormat where
  signatureDomain := "rdashboard.action-grant.v1\x00".toUTF8.toList
  maxPayloadBytes := 4 * 1024
  maxTokenBytes := 16 * 1024

namespace ActionGrantClaimsV1

variable (claims : ActionGrantClaimsV1)

def validateIssueInput : Except TokenError Unit := do
  ensure (0 ≤ claims.issuedAtMs ∧ claims.issuedAtMs ≤ claims.notBeforeMs ∧
    claims.notBeforeMs < claims.expiresAtMs ∧
    claims.expiresAtMs - claims.issuedAtMs ≤ actionGrantMaxTtlMs) .invalidLifetime
  ensure (claims.nonce.isNil = false ∧ claims.actorId.isNil = false ∧
    claims.leaseId.isNil = false ∧ claims.intentId.isNil = false ∧
    claims.requestId.isNil = false ∧ claims.leaseGeneration ≠ 0 ∧
    (claims.leaseGeneration : Int) ≤ i64Max) .invalidIdentity

def validatePayloadShape : Except TokenError Unit := do
  ensure (claims.schemaVersion = actionGrantSchemaVersion)
    (.unsupportedSchemaVersion claims.schemaVersion)
  validateServiceIdentity claims.issuer
  validateServiceIdentity claims.executorAudience
  TokenFormat.validateKeyId claims.keyId
  validateEpoch claims.keyEpoch
  claims.validateIssueInput

/-- `ActionGrantClaimsV1::matches`. -/
def matchesExpected (expected : ActionGrantExpectedBindingV1) : Bool :=
  claims.actorId = expected.actorId && claims.role = expected.role &&
    claims.leaseId = expected.leaseId && claims.leaseGeneration = expected.leaseGeneration &&
    claims.intentId = expected.intentId && claims.intentDigest = expected.intentDigest &&
    claims.installedPolicyDigest = expected.installedPolicyDigest &&
    claims.requestId = expected.requestId

end ActionGrantClaimsV1

/-- `validate_expected_binding`. -/
def ActionGrantExpectedBindingV1.validate (expected : ActionGrantExpectedBindingV1) :
    Except TokenError Unit :=
  ensure (expected.actorId.isNil = false ∧ expected.leaseId.isNil = false ∧
    expected.intentId.isNil = false ∧ expected.requestId.isNil = false ∧
    expected.leaseGeneration ≠ 0) .invalidExpectedBinding

structure AuthenticatedActionGrantV1 where
  claims : ActionGrantClaimsV1
  digest : EvidenceDigest
deriving DecidableEq

structure VerifiedActionGrantV1 where
  claims : ActionGrantClaimsV1
  digest : EvidenceDigest

structure ActionGrantVerifierV1 (codec : TokenCodec ActionGrantClaimsV1) where
  issuer : String
  executorAudience : String
  minimumKeyEpoch : Nat
  keys : List (VerificationKey codec.VerifyingKey)

namespace ActionGrantVerifierV1

variable {codec : TokenCodec ActionGrantClaimsV1} (verifier : ActionGrantVerifierV1 codec)

def authenticateForPersistedIntent (token : String) (nowMs : Int) :
    Except TokenError AuthenticatedActionGrantV1 := do
  ensure (0 ≤ nowMs) .invalidVerificationTime
  let (payloadBytes, signature) ← decodeToken codec actionGrantFormat token
  let payload ← decodeCanonicalPayload codec actionGrantFormat payloadBytes
  payload.validatePayloadShape
  let key ← require (verifier.keys.find? fun key => key.keyId = payload.keyId)
    (.unknownKey payload.keyId)
  ensure (payload.keyEpoch = key.keyEpoch ∧ verifier.minimumKeyEpoch ≤ payload.keyEpoch)
    .keyEpochRejected
  ensure (codec.verifyStrict key.verifyingKey
    (signatureInput actionGrantFormat payloadBytes) signature = true) .signatureVerification
  key.validateLifecycle payload.issuedAtMs nowMs
  ensure (payload.issuer = verifier.issuer) .issuerMismatch
  ensure (payload.executorAudience = verifier.executorAudience) .audienceMismatch
  ensure (payload.notBeforeMs ≤ nowMs) .notYetValid
  ensure (nowMs < payload.expiresAtMs) .expired
  pure { claims := payload, digest := tokenDigest codec actionGrantFormat payloadBytes signature }

def verify (token : String) (expected : ActionGrantExpectedBindingV1) (nowMs : Int) :
    Except TokenError VerifiedActionGrantV1 := do
  expected.validate
  let authenticated ← verifier.authenticateForPersistedIntent token nowMs
  ensure (authenticated.claims.matchesExpected expected = true) .bindingMismatch
  pure { claims := authenticated.claims, digest := authenticated.digest }

end ActionGrantVerifierV1

/-! ### What a verifier ensures -/

/-- The identities of a grant that passed `validate_payload_shape`. -/
structure ActionGrantClaimsV1.Identified (claims : ActionGrantClaimsV1) : Prop where
  nonce : claims.nonce.isNil = false
  actorId : claims.actorId.isNil = false
  leaseId : claims.leaseId.isNil = false
  leaseGeneration : claims.leaseGeneration ≠ 0

theorem ActionGrantClaimsV1.identified_of_shape {claims : ActionGrantClaimsV1} {u : Unit}
    (h : claims.validatePayloadShape = .ok u) : claims.Identified := by
  simp only [validatePayloadShape, validateIssueInput, ok_iff] at h
  obtain ⟨_, -, _, -, _, -, _, -, _, -, _, -, hnonce, hactor, hlease, -, -, hgeneration, -⟩ := h
  exact ⟨hnonce, hactor, hlease, hgeneration⟩

section Verifier

variable {codec : TokenCodec ActionGrantClaimsV1} {verifier : ActionGrantVerifierV1 codec}
  {token : String} {nowMs : Int}

theorem AuthenticatedActionGrantV1.identified {grant : AuthenticatedActionGrantV1}
    (h : verifier.authenticateForPersistedIntent token nowMs = .ok grant) :
    grant.claims.Identified := by
  simp only [ActionGrantVerifierV1.authenticateForPersistedIntent, ok_iff] at h
  obtain ⟨_, -, _, -, _, -, _, hshape, _, -, _, -, _, -, _, -, _, -, _, -, _, -, _, -, rfl⟩ := h
  exact ActionGrantClaimsV1.identified_of_shape hshape

end Verifier

end Rdashboard
