import Rdashboard.Library.Check
import Rdashboard.Workflow.Identifiers

/-! # Managed native releases: policy, journal and health probe

The documents of `native_release.rs`.  The policy of a project is the validated one, so its
components and bounds are part of its type; a journal is validated against the policy whenever it is
read or written. -/

namespace Rdashboard

/-- `valid_component`, of the native releases and of the registry. -/
def validComponent (value : String) : Bool :=
  value.toList ≠ [] && value.utf8ByteSize ≤ 128 &&
    value.toList.all fun c => isAsciiAlphanumeric c || c = '-' || c = '_' || c = '.' || c = '+'

abbrev ReleaseComponent := Text validComponent

/-- The kinds of `io::Error` that the code distinguishes. -/
inductive IoErrorKind where
  | notFound
  | brokenPipe
  | connectionAborted
  | connectionRefused
  | connectionReset
  | interrupted
  | timedOut
  | unexpectedEof
  | wouldBlock
  | other
deriving DecidableEq

/-- `TitaniumRegistryError`: what the release activation itself reports; the other errors are those
of reading the stored documents. -/
inductive TitaniumRegistryError where
  | io (kind : IoErrorKind)
  | invalidStoredDocument
  | installedArtifactMismatch
  | invalidReleaseActivation
  | releaseActivationConflict
deriving DecidableEq

inductive NativeReleaseError where
  | io (kind : IoErrorKind)
  | invalidJournal
  | releasePolicyMismatch
  | unsafeReleaseView
  | activationInProgress
  | systemdRejected
  | rollbackUnhealthy
  | invalidHealthResponse
  | releaseStateDiverged
  | clockMovedBackwards
  | titanium (error : TitaniumRegistryError)
deriving DecidableEq

/-- `ManagedNativeRuntimePolicyV1`, as `validate` accepts it. -/
structure ManagedNativeRuntimePolicy where
  projectId : ReleaseComponent
  target : ReleaseComponent
  releaseInterface : ReleaseComponent
  entrypoint : String
  runtimeContractDigest : EvidenceDigest
  healthExpectedStatus : Nat
  healthTimeoutMs : Nat
  policyDigest : EvidenceDigest
  status_valid : 100 ≤ healthExpectedStatus ∧ healthExpectedStatus ≤ 599
  timeout_valid : 1000 ≤ healthTimeoutMs ∧ healthTimeoutMs ≤ 120000

/-- `TitaniumReleaseDescriptorV1`: what the activator compares. -/
structure TitaniumReleaseDescriptor where
  projectId : ReleaseComponent
  target : ReleaseComponent
  interface : ReleaseComponent
  entrypoint : String
  runtimeContractDigest : EvidenceDigest

/-- `TitaniumReleaseActivationV1`, and its form in the journal. -/
structure TitaniumReleaseActivation where
  projectId : ReleaseComponent
  candidateArtifact : EvidenceDigest
  previousCurrentArtifact : Option EvidenceDigest
deriving DecidableEq

inductive ActivationPhase where
  | prepared
  | candidateLinked
  | candidateRestarted
  | rollbackSwitchPending
  | rollbackLinked
  | rollbackRestarted
  | firstRejectionPending
deriving DecidableEq

/-- `NativeReleaseOutcomeV1`. -/
inductive NativeReleaseOutcome where
  | activated
  | rolledBack
  | rejectedFirstRelease
  | candidateDiscarded
deriving DecidableEq

/-! ### The journal -/

/-- `NativeReleaseJournalV1`. -/
structure NativeReleaseJournal where
  projectId : ReleaseComponent
  policyDigest : EvidenceDigest
  activation : TitaniumReleaseActivation
  phase : ActivationPhase
  updatedAtMs : Int
deriving DecidableEq

namespace NativeReleaseJournal

variable (policy : ManagedNativeRuntimePolicy)

def Valid (journal : NativeReleaseJournal) : Prop :=
  journal.projectId = policy.projectId ∧ journal.policyDigest = policy.policyDigest ∧
    journal.activation.projectId = policy.projectId ∧ 0 ≤ journal.updatedAtMs

instance (journal : NativeReleaseJournal) : Decidable (journal.Valid policy) := by
  unfold Valid
  infer_instance

def validate (journal : NativeReleaseJournal) : Except NativeReleaseError Unit :=
  Check.ensure (journal.Valid policy) .invalidJournal

def new (activation : TitaniumReleaseActivation) (phase : ActivationPhase) (updatedAtMs : Int) :
    Except NativeReleaseError NativeReleaseJournal := do
  let value : NativeReleaseJournal :=
    { projectId := policy.projectId, policyDigest := policy.policyDigest, activation, phase,
      updatedAtMs }
  value.validate policy
  pure value

def setPhase (journal : NativeReleaseJournal) (phase : ActivationPhase) (updatedAtMs : Int) :
    Except NativeReleaseError NativeReleaseJournal := do
  Check.ensure (journal.updatedAtMs ≤ updatedAtMs) .clockMovedBackwards
  let value := { journal with phase, updatedAtMs }
  value.validate policy
  pure value

/-- The release that the activation wants to put in service. -/
abbrev candidate (journal : NativeReleaseJournal) : EvidenceDigest :=
  journal.activation.candidateArtifact

/-- The release that was in service before. -/
abbrev previous (journal : NativeReleaseJournal) : Option EvidenceDigest :=
  journal.activation.previousCurrentArtifact

end NativeReleaseJournal

/-! ### The health probe -/

def transientHealthError : IoErrorKind → Bool
  | .brokenPipe | .connectionAborted | .connectionRefused | .connectionReset | .interrupted
  | .timedOut | .unexpectedEof | .wouldBlock => true
  | .notFound | .other => false

/-- One exchange with the health endpoint: the connection fails, writing or reading fails, or the
first line of the answer has been read, up to 512 bytes. -/
inductive HealthExchange where
  | refused (kind : IoErrorKind)
  | broken (kind : IoErrorKind)
  | answered (line : List UInt8)

def isDigitByte (byte : UInt8) : Bool := 48 ≤ byte && byte ≤ 57

/-- `str::parse::<u16>`: decimal digits, with an optional plus sign. -/
def parseU16 (text : List UInt8) : Option Nat :=
  let digits := match text with
    | 43 :: rest => rest
    | _ => text
  if digits ≠ [] ∧ digits.all isDigitByte then
    let value := digits.foldl (fun total byte => total * 10 + (byte.toNat - 48)) 0
    if value < 2 ^ 16 then some value else none
  else none

/-- `"HTTP/1.0"` and `"HTTP/1.1"`. -/
def httpVersions : List (List UInt8) :=
  [[72, 84, 84, 80, 47, 49, 46, 48], [72, 84, 84, 80, 47, 49, 46, 49]]

/-- The bytes of a line that ends in a carriage return and a line feed. -/
def statusLine (line : List UInt8) : Option (List UInt8) :=
  match line.reverse with
  | 10 :: 13 :: rest => some rest.reverse
  | _ => none

def probeHealth (policy : ManagedNativeRuntimePolicy) :
    HealthExchange → Except NativeReleaseError Bool
  | .refused kind =>
    match kind with
    | .connectionRefused | .connectionReset | .timedOut => .ok false
    | kind => .error (.io kind)
  | .broken kind => .error (.io kind)
  | .answered line =>
    match statusLine line with
    | none => .error .invalidHealthResponse
    | some text =>
      if (ByteArray.mk text.toArray).validateUTF8 = false then
        .error .invalidHealthResponse
      else
        -- a space is one byte in UTF-8, so the text may be split as bytes
        match text.splitOn 32 with
        | version :: status :: _ =>
          match parseU16 status with
          | some status =>
            if version ∈ httpVersions then
              .ok (status = policy.healthExpectedStatus)
            else .error .invalidHealthResponse
          | none => .error .invalidHealthResponse
        | _ => .error .invalidHealthResponse

/-- `SystemdNativeReleaseRuntimeV1::healthy`, over the exchanges until the deadline. -/
def healthyWithin (policy : ManagedNativeRuntimePolicy) :
    List HealthExchange → Except NativeReleaseError Bool
  | [] => .ok false
  | exchange :: rest =>
    match probeHealth policy exchange with
    | .ok true => .ok true
    | .ok false => healthyWithin policy rest
    | .error (.io kind) =>
      if transientHealthError kind then healthyWithin policy rest else .error (.io kind)
    | .error error => .error error

end Rdashboard
