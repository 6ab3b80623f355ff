import Rdashboard.Security.Domain

/-! # Signed tokens

Action grants and executor intents travel as compact tokens: a canonical CBOR payload and an
Ed25519 signature over it, both in unpadded base64url and joined by a dot.  The encodings, the
signature scheme and the hash are parameters; a payload field whose text the program parses into
an identifier, a commit or a digest has that type here, so that a text which does not parse is
one which does not decode. -/

namespace Rdashboard

open Check

/-- The errors of `ActionGrantError` and `ExecutorIntentError`, which name their common causes
alike. -/
inductive TokenError where
  | invalidServiceIdentity
  | invalidKeyId
  | invalidKeyEpoch
  | invalidLifetime
  | invalidIdentity
  | invalidExpectedBinding
  | operationMismatch
  | invalidSourceAuthority
  | invalidMigrationId
  | invalidRollbackTarget
  | cborEncode
  | cborDecode
  | payloadOversized
  | nonCanonicalPayload
  | invalidTokenEncoding
  | nonCanonicalTokenEncoding
  | base64
  | invalidSignature
  | signatureVerification
  | unsupportedSchemaVersion (version : Nat)
  | invalidVerificationTime
  | unknownKey (keyId : String)
  | keyEpochRejected
  | keyRevoked
  | keyInactiveAtIssue
  | keyRetired
  | issuerMismatch
  | audienceMismatch
  | notYetValid
  | expired
  | bindingMismatch
deriving DecidableEq

/-- The text of a token: the domain of its signature, and the largest payload and token. -/
structure TokenFormat where
  signatureDomain : List UInt8
  maxPayloadBytes : Nat
  maxTokenBytes : Nat

/-- An Ed25519 signature. -/
abbrev Signature := { bytes : List UInt8 // bytes.length = 64 }

def Signature.fromSlice (bytes : List UInt8) : Option Signature :=
  if h : bytes.length = 64 then some ⟨bytes, h⟩ else none

/-- The primitives that every token uses, and the CBOR encoding of payloads of type `P`. -/
structure TokenCodec (P : Type) where
  SigningKey : Type
  VerifyingKey : Type
  sign : SigningKey → List UInt8 → Signature
  verifyStrict : VerifyingKey → List UInt8 → Signature → Bool
  sha256 : List UInt8 → EvidenceDigest
  base64Encode : List UInt8 → String
  base64Decode : String → Option (List UInt8)
  encodeCbor : P → Option (List UInt8)
  decodeCbor : List UInt8 → Option P

/-- Unpadded base64 writes four characters for three bytes. -/
def TokenCodec.SizedBase64 {P : Type} (codec : TokenCodec P) : Prop :=
  ∀ bytes, (codec.base64Encode bytes).utf8ByteSize = (4 * bytes.length + 2) / 3

/-! ### Identities -/

/-- `validate_identity` and `validate_service_identity`. -/
def validateServiceIdentity (value : String) : Except TokenError Unit :=
  ensure (value.utf8ByteSize ≠ 0 ∧ value.utf8ByteSize ≤ 256 ∧
    value.toList.all isAsciiGraphic = true) .invalidServiceIdentity

def TokenFormat.validateKeyId (value : String) : Except TokenError Unit :=
  ensure (value.utf8ByteSize ≠ 0 ∧ value.utf8ByteSize ≤ 64 ∧
    value.toList.all (fun c => isAsciiAlphanumeric c || c = '-' || c = '_' || c = '.') = true)
    .invalidKeyId

/-- `validate_epoch`: a key epoch that the journal can store. -/
def validateEpoch (value : Nat) : Except TokenError Unit :=
  ensure (value ≠ 0 ∧ (value : Int) ≤ i64Max) .invalidKeyEpoch

/-- Who signs tokens for whom, with which key: the fields of the two signers. -/
structure TokenIssuer where
  issuer : String
  audience : String
  keyId : String
  keyEpoch : Nat

/-- The checks of `ActionGrantSignerV1::new` and `ExecutorIntentSignerV1::new`. -/
def TokenIssuer.validate (t : TokenIssuer) : Except TokenError Unit := do
  validateServiceIdentity t.issuer
  validateServiceIdentity t.audience
  TokenFormat.validateKeyId t.keyId
  validateEpoch t.keyEpoch

/-! ### Verification keys -/

/-- `ActionGrantVerificationKeyV1` and `ExecutorIntentVerificationKeyV1`. -/
structure VerificationKey (K : Type) where
  keyId : String
  keyEpoch : Nat
  verifyingKey : K
  activeFromMs : Int
  signingRetiredAtMs : Option Int
  verifyUntilMs : Option Int
  revokedAtMs : Option Int

/-- `validate_key_lifecycle`. -/
def VerificationKey.validateLifecycle {K : Type} (key : VerificationKey K) (issuedAtMs nowMs : Int) :
    Except TokenError Unit := do
  ensure (key.revokedAtMs.all (nowMs < ·) = true) .keyRevoked
  ensure (key.activeFromMs ≤ issuedAtMs ∧ key.signingRetiredAtMs.all (issuedAtMs < ·) = true)
    .keyInactiveAtIssue
  ensure (key.verifyUntilMs.all (nowMs < ·) = true) .keyRetired

/-! ### The compact form -/

section Compact

variable {P : Type} (codec : TokenCodec P) (format : TokenFormat)

def signatureInput (payload : List UInt8) : List UInt8 := format.signatureDomain ++ payload

/-- The digest of a signed token. -/
def tokenDigest (payload : List UInt8) (signature : Signature) : EvidenceDigest :=
  codec.sha256 (format.signatureDomain ++ payload ++ signature.1)

/-- The compact text of a signed payload. -/
def compactToken (payload : List UInt8) (signature : Signature) : String :=
  codec.base64Encode payload ++ "." ++ codec.base64Encode signature.1

def encodePayload (payload : P) : Except TokenError (List UInt8) := do
  let bytes ← require (codec.encodeCbor payload) .cborEncode
  ensure (bytes.length ≤ format.maxPayloadBytes) .payloadOversized
  pure bytes

def decodeCanonicalPayload (bytes : List UInt8) : Except TokenError P := do
  ensure (bytes ≠ [] ∧ bytes.length ≤ format.maxPayloadBytes) .payloadOversized
  let payload ← require (codec.decodeCbor bytes) .cborDecode
  let canonical ← encodePayload codec format payload
  ensure (canonical = bytes) .nonCanonicalPayload
  pure payload

/-- The two parts of a token. -/
def decodeParts (payloadPart signaturePart : String) :
    Except TokenError (List UInt8 × Signature) := do
  ensure (payloadPart ≠ "" ∧ signaturePart ≠ "") .invalidTokenEncoding
  let payload ← require (codec.base64Decode payloadPart) .base64
  let signatureBytes ← require (codec.base64Decode signaturePart) .base64
  ensure (codec.base64Encode payload = payloadPart ∧
    codec.base64Encode signatureBytes = signaturePart) .nonCanonicalTokenEncoding
  let signature ← require (Signature.fromSlice signatureBytes) .invalidSignature
  pure (payload, signature)

def decodeToken (token : String) : Except TokenError (List UInt8 × Signature) := do
  ensure (token.utf8ByteSize ≤ format.maxTokenBytes ∧
    token.toList.all (·.toNat < 128) = true) .invalidTokenEncoding
  match token.toList.splitOn '.' with
  | [payloadPart, signaturePart] =>
    decodeParts codec (String.ofList payloadPart) (String.ofList signaturePart)
  | _ => .error .invalidTokenEncoding

end Compact

end Rdashboard
