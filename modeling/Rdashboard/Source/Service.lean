import Rdashboard.Source.Broker

/-! # The source broker as a service

The live gate that the executor asks, the start of a broker, and all calls together.  A call that
takes the coordination mutex of a project works in the slot of that project, the others in a slot
of their own. -/

namespace Rdashboard

open Relational Interleaving SourceProg SourceLedger Prog Check

variable {W : Type}

/-! ### The live gate -/

structure LiveSourceBinding where
  target : GitCommitId
  sequence : Nat
  attestationDigest : EvidenceDigest
  installedPolicy : InstalledPolicyIdentity

abbrev GateProg (W α : Type) := Prog (SourceState W) SourceGateError α

def sourceTicketGateError : SourceError → SourceGateError
  | .headNotCurrent => .headSuperseded
  | .blockedSha => .blockedSha
  | _ => .unavailable

namespace DurableSourceBroker

variable (codec : SourceCodec) (outside : SourceOutside W) (b : DurableSourceBroker)

/-- The checks of `verify_live_binding` on the attestation of the current head. -/
def bindAttestation (operation : OperationRecord) (policy : InstalledSourceProjectPolicy)
    (current : SourceSnapshot) (target : GitCommitId) (attestationDigest : EvidenceDigest)
    (installedPolicy : InstalledPolicyIdentity) : Except SourceGateError LiveSourceBinding := do
  let signed ← require current.attestation .attestationInvalid
  let payload ← (b.verifier.verifyLive codec signed).mapError fun _ =>
    SourceGateError.attestationInvalid
  ensure (current.sequence = payload.sequence ∧ payload.projectId = operation.projectId ∧
    payload.head = target ∧ payload.installedPolicy = installedPolicy ∧
    payload.installedPolicy = policy.installedPolicy ∧
    payload.repositoryIdentity = policy.repositoryIdentity ∧
    operation.evidence.sourceSequence = some payload.sequence ∧
    current.attestationDigest = some attestationDigest ∧
    signed.digest codec = attestationDigest) .attestationInvalid
  pure { target, sequence := payload.sequence, attestationDigest, installedPolicy }

def verifyLiveBinding (operation : OperationRecord) (nowMs : Int) :
    GateProg W LiveSourceBinding := do
  let target ← lift (require operation.targetCommit .attestationInvalid)
  let attestationDigest ← lift
    (require operation.evidence.sourceAttestationDigest .attestationInvalid)
  let installedPolicy ← lift
    (require operation.evidence.installedPolicy .attestationInvalid)
  let policy ← lift (require (b.installed operation.projectId) .attestationInvalid)
  let current ← (snapshot operation.projectId).mapError fun _ => SourceGateError.unavailable
  let pending ← (transact (Txn.read (·.refUpdate operation.projectId))).mapError
    fun _ => SourceGateError.unavailable
  ensure (pending = none) .unavailable
  ensure ((current.reconcilePausedUntilMs.any fun until_ => nowMs < until_) = false) .paused
  let repositoryHead ← (acceptedHead outside operation.projectId).mapError
    fun _ => SourceGateError.unavailable
  ensure (repositoryHead = current.head ∧ current.state ≠ .sourceDivergedNeedsOwner) .diverged
  ensure (current.head = some target ∧
    current.sequence = operation.evidence.sourceSequence.getD 0) .headSuperseded
  ensure (current.blockedSha ≠ some target) .blockedSha
  lift (b.bindAttestation codec operation policy current target attestationDigest
    installedPolicy)

/-- The source gate: a deployment is bound to the live head and takes its ticket. -/
def checkLive (operation : OperationRecord) (nowMs : Int) : GateProg W SourceGateProof := do
  (b.lockCoordination outside operation.projectId).mapError fun _ => SourceGateError.unavailable
  if operation.operationKind ≠ .deploy then
    pure { digest := codec.sha256 .gateNotRequired, projectId := operation.projectId
           sequence := 0, attestationDigest := codec.sha256 .gateNotRequired
           checkedAtMs := nowMs }
  else do
    let binding ← b.verifyLiveBinding codec outside operation nowMs
    let phase ← lift ((mutationTicketPhase operation.state.phase).mapError
      sourceTicketGateError)
    (transact (acquireMutationTicket b.epoch operation nowMs)).mapError
      sourceTicketGateError
    pure { digest := codec.sha256 (.liveProof
             { attemptId := operation.attemptId, projectId := operation.projectId, phase
               target := binding.target, sequence := binding.sequence
               attestationDigest := binding.attestationDigest
               installedPolicy := binding.installedPolicy })
           projectId := operation.projectId, sequence := binding.sequence
           attestationDigest := binding.attestationDigest, checkedAtMs := nowMs }

/-- `complete_live`, and `abort_live` with the same body. -/
def completeLive (operation : OperationRecord) : GateProg W Unit := do
  (b.lockCoordination outside operation.projectId).mapError fun _ => SourceGateError.unavailable
  (transact (releaseMutationTicket b.epoch operation)).mapError
    fun _ => SourceGateError.unavailable

def abortLive (operation : OperationRecord) : GateProg W Unit := b.completeLive outside operation

/-! ### The start -/

/-- The check of `recover_source_state` on a project without a pending update. -/
def recoverProject (policy : InstalledSourceProjectPolicy) (recoveredAtMs : Int) :
    SourceProg W Unit := do
  let current ← snapshot policy.projectId
  if current.state = .sourceDivergedNeedsOwner then pure ()
  else do
    let repositoryHead ← acceptedHead outside policy.projectId
    if repositoryHead = current.head then pure ()
    else do
      let candidate ← lift (require (repositoryHead.or current.head)
        (.corruptLedger "empty source ref mismatch"))
      transact (markDiverged b.epoch policy.projectId candidate
        .sourceReconciliation
        (codec.sha256 (.startupMismatch policy.projectId current.head repositoryHead))
        recoveredAtMs)

/-- The recovery that a broker runs before it serves. -/
def recoverSourceState (recoveredAtMs : Int) : SourceProg W Unit := do
  b.requireCurrentLease outside
  let pending ← transact (Txn.read pendingRefUpdates)
  each (b.recoverRefUpdate codec outside · recoveredAtMs) pending
  each (b.recoverProject codec outside · recoveredAtMs)
    (b.policies.filter fun policy => !pending.any fun r => r.projectId = policy.projectId)
  let _ ← transact (recoverIncompleteDeliveries b.epoch recoveredAtMs)

/-- Wake the fetcher of a project that has queued webhooks. -/
def signalQueuedWebhooks (policy : InstalledSourceProjectPolicy) : SourceProg W Unit := do
  let pending ← transact (pendingGithubWakeups b.epoch policy.projectId 1)
  if pending.isEmpty then pure () else consult (outside.notifyPriorityFetch policy.projectId)

end DurableSourceBroker

/-- The arguments of `DurableSourceBroker::new`. -/
structure BrokerStart where
  keyId : String
  signingKey : SigningKey
  attestationTtlMs : Int
  installedPolicies : List InstalledSourceProjectPolicy
  startedAtMs : Int

namespace BrokerStart

variable (codec : SourceCodec) (outside : SourceOutside W) (start : BrokerStart)

/-- The broker that is being started, with the epoch of its lease. -/
def broker (epoch : Nat) : DurableSourceBroker where
  epoch := epoch
  keyId := start.keyId
  signingKey := start.signingKey
  verifier := ⟨[(start.keyId, codec.verifyingKey start.signingKey)]⟩
  attestationTtlMs := start.attestationTtlMs
  policies := start.installedPolicies.insertionSort fun p q => p.projectId ≤ q.projectId

/-- The checks of `new` on one installed policy. -/
def checkPolicy (policy : InstalledSourceProjectPolicy) : SourceProg W Unit := do
  lift policy.validate
  let identity ← consult (outside.repositoryIdentity policy.projectId)
  ensure (identity = policy.repositoryIdentity) .repositoryIdentityMismatch

/-- The checks of `new` on the installed policies, after those with the projects `seen`. -/
def checkPolicies : List ProjectId → List InstalledSourceProjectPolicy → SourceProg W Unit
  | _, [] => pure ()
  | seen, policy :: policies => do
    checkPolicy outside policy
    ensure (policy.projectId ∉ seen) .duplicateInstalledProject
    checkPolicies (policy.projectId :: seen) policies

/-- `DurableSourceBroker::new`. -/
def run : SourceProg W DurableSourceBroker := do
  lift (ofAttestation (validateKeyId start.keyId))
  ensure (10000 ≤ start.attestationTtlMs ∧ start.attestationTtlMs ≤ 3600000)
    (.invalidControl "attestation TTL must be between 10 seconds and one hour")
  ensure (start.installedPolicies ≠ []) .invalidInstalledPolicy
  checkPolicies outside [] start.installedPolicies
  consult outside.validateLock
  let epoch ← transact (acquireBrokerLease start.startedAtMs)
  let b := start.broker codec epoch
  b.recoverSourceState codec outside start.startedAtMs
  let _ ← transact (reconcileGithubWakeupPolicy epoch fun projectId =>
    (b.installed projectId).map (·.githubRepository))
  each (b.signalQueuedWebhooks outside) b.policies
  transact (reconcileOutboxPolicy epoch (fun projectId =>
    (b.installed projectId).any (·.autoDeploy)) start.startedAtMs)
  pure b

end BrokerStart

/-! ### Calls -/

/-- The calls of a broker.  `thread` names the slot of a call that takes no mutex. -/
inductive SourceCall where
  | enqueueGithubPush (thread : Nat) (projectId : ProjectId) (deliveryId signatureHeader : String)
      (webhookSecret rawBody : List UInt8) (receivedAtMs : Int)
  | acknowledgeOutbox (thread : Nat) (outboxSequence : Nat) (attestationDigest : EvidenceDigest)
      (acknowledgedAtMs : Int)
  | processPendingGithubPushes (projectId : ProjectId) (limit : Nat) (nowMs : Int)
  | processGithubPush (projectId : ProjectId) (deliveryId signatureHeader : String)
      (webhookSecret rawBody : List UInt8) (nowMs : Int)
  | reconcileRemoteMain (projectId : ProjectId) (nowMs : Int)
  | refreshShadowHead (projectId : ProjectId) (nowMs : Int)
  | processDirectPush (projectId : ProjectId) (deliveryId gitRef : String)
      (oldHead : Option GitCommitId) (newHead : GitCommitId) (nowMs : Int)
  | resolveDivergenceKeepCanonical (projectId : ProjectId) (expectedHead : Option GitCommitId)
      (evidenceDigest : EvidenceDigest) (nowMs : Int)
  | setControls (projectId : ProjectId) (blockedSha : Option GitCommitId)
      (reconcilePausedUntilMs : Option Int) (nowMs : Int)
  | checkLive (operation : OperationRecord) (nowMs : Int)
  | completeLive (operation : OperationRecord)
  | abortLive (operation : OperationRecord)

inductive SourceReply where
  | admission (admission : GithubWebhookAdmissionV1)
  | drained (outcome : GithubWebhookDrainOutcomeV1)
  | outcome (outcome : SourceIngressOutcome)
  | proof (proof : SourceGateProof)
  | done

inductive SourceFailure where
  | source (error : SourceError)
  | gate (error : SourceGateError)
deriving DecidableEq

/-- The mutex of a project, or no mutex. -/
abbrev SourceSlot := ProjectId ⊕ Nat

namespace SourceCall

def slot : SourceCall → SourceSlot
  | .enqueueGithubPush thread .. => .inr thread
  | .acknowledgeOutbox thread .. => .inr thread
  | .processPendingGithubPushes projectId .. => .inl projectId
  | .processGithubPush projectId .. => .inl projectId
  | .reconcileRemoteMain projectId .. => .inl projectId
  | .refreshShadowHead projectId .. => .inl projectId
  | .processDirectPush projectId .. => .inl projectId
  | .resolveDivergenceKeepCanonical projectId .. => .inl projectId
  | .setControls projectId .. => .inl projectId
  | .checkLive operation .. => .inl operation.projectId
  | .completeLive operation => .inl operation.projectId
  | .abortLive operation => .inl operation.projectId

/-- A call of the broker, with its result as a reply. -/
def ofSource {α : Type} (reply : α → SourceReply) (x : SourceProg W α) :
    Prog (SourceState W) SourceFailure SourceReply := do
  pure (reply (← x.mapError SourceFailure.source))

/-- A call of the live gate, with its result as a reply. -/
def ofGate {α : Type} (reply : α → SourceReply) (x : GateProg W α) :
    Prog (SourceState W) SourceFailure SourceReply := do
  pure (reply (← x.mapError SourceFailure.gate))

def run (codec : SourceCodec) (outside : SourceOutside W) (b : DurableSourceBroker) :
    SourceCall → Prog (SourceState W) SourceFailure SourceReply
  | .enqueueGithubPush _ p deliveryId header secret body t =>
    ofSource .admission (b.enqueueGithubPush codec outside p deliveryId header secret body t)
  | .acknowledgeOutbox _ n digest t =>
    ofSource (fun _ => .done) (b.acknowledgeOutbox outside n digest t)
  | .processPendingGithubPushes p limit t =>
    ofSource .drained (b.processPendingGithubPushes codec outside p limit t)
  | .processGithubPush p deliveryId header secret body t =>
    ofSource .outcome (b.processGithubPush codec outside p deliveryId header secret body t)
  | .reconcileRemoteMain p t =>
    ofSource .outcome (b.reconcileRemoteMainWith codec outside p t false)
  | .refreshShadowHead p t =>
    ofSource .outcome (b.reconcileRemoteMainWith codec outside p t true)
  | .processDirectPush p deliveryId gitRef old new t =>
    ofSource .outcome (b.processDirectPush codec outside p deliveryId gitRef old new t)
  | .resolveDivergenceKeepCanonical p head evidence t =>
    ofSource (fun _ => .done) (b.resolveDivergenceKeepCanonical outside p head evidence t)
  | .setControls p blocked paused t =>
    ofSource (fun _ => .done) (b.setControls outside p blocked paused t)
  | .checkLive operation t => ofGate .proof (b.checkLive codec outside operation t)
  | .completeLive operation => ofGate (fun _ => .done) (b.completeLive outside operation)
  | .abortLive operation => ofGate (fun _ => .done) (b.abortLive outside operation)

end SourceCall

abbrev SourceService (W : Type) :=
  Service BrokerStart DurableSourceBroker SourceCall SourceSlot (SourceState W) SourceFailure
    SourceReply

/-- The source broker. -/
def sourceService (codec : SourceCodec) (outside : SourceOutside W) : SourceService W where
  boot start := (start.run codec outside).mapError SourceFailure.source
  slot := SourceCall.slot
  call := SourceCall.run codec outside

abbrev SourceConfig (W : Type) :=
  Config DurableSourceBroker SourceCall SourceSlot (SourceState W) SourceFailure SourceReply

end Rdashboard
