import Rdashboard.Library.Interleaving
import Rdashboard.Source.Inbox

/-! # The source broker

The broker's calls are programs over the ledger, the accepted refs of the repositories and the
world outside: every transaction of the store and every question to a repository is one step.  The
accepted ref of a project is read and moved only by `acceptedHead` and
`compareAndSwapAcceptedHead`; everything else that a repository answers is left to the world. -/

namespace Rdashboard

open Relational Interleaving SourceLedger Prog

variable {W α : Type}

/-! ### The live gate -/

inductive SourceGateError where
  | unavailable
  | headSuperseded
  | attestationInvalid
  | diverged
  | blockedSha
  | paused
deriving DecidableEq

structure SourceGateProof where
  digest : EvidenceDigest
  projectId : ProjectId
  sequence : Nat
  attestationDigest : EvidenceDigest
  checkedAtMs : Int

/-! ### The outside -/

/-- What the broker asks outside its ledger.  The two operations on the accepted ref only say here
whether they fail: a read fails or returns the ref; a compare-and-swap may not be attempted, or
attempted and still reported as a failure. -/
structure SourceOutside (W : Type) where
  repositoryIdentity : ProjectId → StateM W (Except SourceError EvidenceDigest)
  fetchRemoteMain : ProjectId → StateM W (Except SourceError GitCommitId)
  fetchRemoteMainReconciliation : ProjectId → StateM W (Except SourceError GitCommitId)
  notifyPriorityFetch : ProjectId → StateM W (Except SourceError Unit)
  clearPriorityFetch : ProjectId → StateM W (Except SourceError Unit)
  containsCommit : ProjectId → GitCommitId → StateM W (Except SourceError Bool)
  relationship : ProjectId → GitCommitId → GitCommitId →
    StateM W (Except SourceError CommitRelationship)
  acceptedHeadFailure : ProjectId → StateM W (Option SourceError)
  swapAttempted : ProjectId → StateM W (Bool × Option SourceError)
  /-- The checks of the lock file and its directory. -/
  validateLock : StateM W (Except SourceError Unit)
  /-- `Uuid::new_v4`. -/
  newUuid : StateM W FreshUuid

/-- The state that the calls of a broker share. -/
structure SourceState (W : Type) where
  ledger : SourceLedger
  /-- The accepted ref of every project's repository. -/
  refs : ProjectId → Option GitCommitId
  world : W

abbrev SourceProg (W α : Type) := Prog (SourceState W) SourceError α

namespace SourceProg

/-- One transaction of the store. -/
def transact (body : Txn SourceLedger SourceError α) : SourceProg W α :=
  atomic fun s =>
    match body s.ledger with
    | .ok (a, L) => (.ok a, { s with ledger := L })
    | .error e => (.error e, s)

/-- One question to the world. -/
def consult (f : StateM W (Except SourceError α)) : SourceProg W α :=
  atomic fun s => ((f s.world).1, { s with world := (f s.world).2 })

end SourceProg

open SourceProg

def acceptedHead (outside : SourceOutside W) (projectId : ProjectId) :
    SourceProg W (Option GitCommitId) :=
  atomic fun s =>
    let answer := outside.acceptedHeadFailure projectId s.world
    (match answer.1 with
      | some e => .error e
      | none => .ok (s.refs projectId), { s with world := answer.2 })

def compareAndSwapAcceptedHead (outside : SourceOutside W) (projectId : ProjectId)
    (expected : Option GitCommitId) (candidate : GitCommitId) : SourceProg W Bool :=
  atomic fun s =>
    let answer := outside.swapAttempted projectId s.world
    let moved := answer.1.1 && s.refs projectId = expected
    (match answer.1.2 with
      | some e => .error e
      | none => .ok moved,
      { s with
        refs := if moved then Function.update s.refs projectId (some candidate) else s.refs
        world := answer.2 })

/-! ### The broker -/

structure DurableSourceBroker where
  /-- The epoch of its lease, to which the store is bound. -/
  epoch : Nat
  keyId : String
  signingKey : SigningKey
  verifier : SourceAttestationVerifier
  attestationTtlMs : Int
  /-- The installed policies, in the order of the projects. -/
  policies : List InstalledSourceProjectPolicy
deriving DecidableEq

structure CandidateIngress where
  projectId : ProjectId
  candidate : GitCommitId
  announcedPreviousHead : Option GitCommitId
  channel : SourceChannel
  deliveryId : String
  payloadDigest : EvidenceDigest
  installedPolicy : InstalledSourceProjectPolicy
  nowMs : Int
  refreshExpiredSameHead : Bool

namespace DurableSourceBroker

variable (codec : SourceCodec) (outside : SourceOutside W) (b : DurableSourceBroker)

variable (projectId : ProjectId) (current : SourceSnapshot) (ingress : CandidateIngress)
  (expectedHead : Option GitCommitId) (newHead : GitCommitId) (mayMove : Bool)

/-- The policy of an installed project. -/
def installed : Option InstalledSourceProjectPolicy :=
  b.policies.find? fun policy => policy.projectId = projectId

def policy : Except SourceError InstalledSourceProjectPolicy :=
  Check.require (b.installed projectId) (.unknownProject projectId)

def requireCurrentLease : SourceProg W Unit := do
  transact (requireBrokerEpoch b.epoch)
  consult outside.validateLock

/-- `lock_coordination`; that the project's mutex is free is a condition of the call. -/
def lockCoordination : SourceProg W Unit := do
  b.requireCurrentLease outside
  ensure ((b.installed projectId).isSome = true) (.unknownProject projectId)
  b.requireCurrentLease outside

def snapshot : SourceProg W SourceSnapshot :=
  transact (Txn.query (loadSnapshot projectId))

/-! ### Moving the accepted ref -/

/-- Try to bring the ref of a project from `expectedHead` to `newHead`; the result says whether it
was seen there. -/
def moveRef : SourceProg W Bool := do
  let observed ← acceptedHead outside projectId
  if observed = some newHead then pure true
  else if mayMove ∧ observed = expectedHead then do
    b.requireCurrentLease outside
    let swapped ← compareAndSwapAcceptedHead outside projectId expectedHead newHead
    if swapped then pure true
    else do
      let after ← acceptedHead outside projectId
      pure (decide (after = some newHead))
  else pure false

/-- The part of `advance_ref_update` and `recover_ref_update` that works on the ref.  The first
result says whether it is at the new head; the second is the ref observed last when it is not. -/
def settleRef : SourceProg W (Bool × Option GitCommitId) := do
  let refIsCandidate ← b.moveRef outside projectId expectedHead newHead mayMove
  if refIsCandidate then pure (true, none)
  else do
    let observedAfterCas ← acceptedHead outside projectId
    pure (decide (observedAfterCas = some newHead), observedAfterCas)

def markRefDiverged (intendedHead : GitCommitId) (channel : SourceChannel)
    (intentDigest : EvidenceDigest) (observedHead : Option GitCommitId) (nowMs : Int) :
    SourceProg W Unit :=
  transact (markDiverged b.epoch projectId (observedHead.getD intendedHead) channel
    (codec.sha256 (.casDivergence projectId intendedHead observedHead intentDigest)) nowMs)

/-- The two transactions that end an update whose commit the ref is at. -/
def finishRefUpdate (expected : SourceSnapshot) (signed : SignedAcceptedHeadV1)
    (digest : EvidenceDigest) (nowMs : Int) : SourceProg W Unit := do
  transact (markRefUpdated b.epoch expected.projectId digest nowMs)
  transact (acceptIfCurrent b.epoch expected signed digest)

/-- Accept a head: intent, ref, ledger.  A ref that moved elsewhere is a divergence. -/
def advanceRefUpdate (expected : SourceSnapshot) (signed : SignedAcceptedHeadV1)
    (digest : EvidenceDigest) (nowMs : Int) : SourceProg W Bool := do
  transact (beginRefUpdate b.epoch expected signed digest)
  let (refIsCandidate, observed) ←
    b.settleRef outside expected.projectId expected.head signed.payload.head true
  if refIsCandidate then do
    b.finishRefUpdate expected signed digest nowMs
    pure true
  else do
    b.markRefDiverged codec expected.projectId signed.payload.head signed.payload.acceptedVia digest
      observed nowMs
    pure false

/-- `recover_ref_update`, once the attestation of the pending update is verified. -/
def resumeRefUpdate (pending : RefUpdateRow) (payload : AcceptedHeadV1) (recoveredAtMs : Int) :
    SourceProg W Unit := do
  let expected ← snapshot pending.projectId
  if expected.state = .sourceDivergedNeedsOwner then pure ()
  else if expected.head = some pending.newHead ∧ expected.sequence = payload.sequence ∧
      expected.attestationDigest = some pending.attestationDigest then
    transact (acceptIfCurrent b.epoch expected pending.signed
      pending.attestationDigest)
  else do
    ensure (expected.head = pending.expectedHead ∧ expected.sequence + 1 = payload.sequence ∧
      expected.sequence + 1 ≤ u64Max) (.corruptLedger "pending ref sequence binding")
    let (refIsCandidate, observed) ← b.settleRef outside pending.projectId pending.expectedHead
      pending.newHead (decide (pending.state ≠ .refUpdated))
    if refIsCandidate then
      b.finishRefUpdate expected pending.signed pending.attestationDigest recoveredAtMs
    else
      b.markRefDiverged codec pending.projectId pending.newHead pending.signed.payload.acceptedVia
        pending.attestationDigest observed recoveredAtMs

/-- Finish the update that a stopped broker left behind. -/
def recoverRefUpdate (pending : RefUpdateRow) (recoveredAtMs : Int) : SourceProg W Unit := do
  let payload ← lift (ofAttestation (b.verifier.verifyLive codec pending.signed))
  let policy ← lift (b.policy pending.projectId)
  ensure (pending.signed.digest codec = pending.attestationDigest ∧
    payload.projectId = pending.projectId ∧ payload.head = pending.newHead ∧
    payload.previousHead = pending.expectedHead ∧
    payload.installedPolicy = policy.installedPolicy ∧
    payload.repositoryIdentity = policy.repositoryIdentity)
    (.corruptLedger "pending ref attestation binding")
  b.resumeRefUpdate codec outside pending payload recoveredAtMs

/-! ### Candidates -/

def existingSameHeadDelivery (outboxStatus : Option SourceOutboxStatus) :
    Except SourceError (Option SourceIngressOutcome) := do
  let attestation ← Check.require current.attestation
    (.corruptLedger "current head lacks attestation")
  let expired := decide (attestation.payload.expiresAtMs ≤ ingress.nowMs)
  if attestation.payload.installedPolicy ≠ ingress.installedPolicy.installedPolicy ∨
      attestation.payload.repositoryIdentity ≠ ingress.installedPolicy.repositoryIdentity ∨
      (expired = true ∧ ingress.installedPolicy.autoDeploy = true ∧
        outboxStatus ≠ some .delivered) ∨
      (expired = true ∧ ingress.refreshExpiredSameHead = true) then
    return none
  let attestationDigest ← Check.require current.attestationDigest
    (.corruptLedger "current head lacks attestation digest")
  return some (.deployable
    { channel := ingress.channel, deliveryId := ingress.deliveryId
      payloadDigest := ingress.payloadDigest, attestation, attestationDigest })

/-- The answer to a candidate that is the accepted head already. -/
def replaySameHead : SourceProg W (Option SourceIngressOutcome) := do
  let digest ← lift (Check.require current.attestationDigest
    (.corruptLedger "current head lacks attestation digest"))
  let status ← transact (sourceOutboxStatus b.epoch ingress.projectId
    current.sequence digest)
  lift (existingSameHeadDelivery current ingress status)

/-- The divergence that `process_candidate` records. -/
def divergeCandidate : SourceProg W (Option SourceIngressOutcome) := do
  transact (markDiverged b.epoch ingress.projectId ingress.candidate ingress.channel
    ingress.payloadDigest ingress.nowMs)
  pure (some .sourceDivergedNeedsOwner)

/-- How `process_candidate` judges a candidate by its relationship to the current head; `none` when
it is to be attested. -/
def judgeCandidate : SourceProg W (Option SourceIngressOutcome) :=
  match current.head with
  | none => pure none
  | some head => do
    match ← consult (outside.relationship ingress.projectId head ingress.candidate) with
    | .rewind =>
      if ingress.channel = .directPush ∧ ingress.announcedPreviousHead ≠ current.head then
        pure (some (.staleNoop ingress.candidate))
      else b.divergeCandidate ingress
    | .diverged => b.divergeCandidate ingress
    | .same => b.replaySameHead current ingress
    | .fastForward => pure none

/-- The payload that `process_candidate` signs. -/
def candidatePayload : AcceptedHeadV1 where
  schemaVersion := acceptedHeadSchemaVersion
  projectId := ingress.projectId
  head := ingress.candidate
  sequence := current.sequence + 1
  previousHead := current.head
  acceptedVia := ingress.channel
  repositoryIdentity := ingress.installedPolicy.repositoryIdentity
  installedPolicy := ingress.installedPolicy.installedPolicy
  acceptedAtMs := ingress.nowMs
  expiresAtMs := ingress.nowMs + b.attestationTtlMs

/-- What `process_candidate` answers to an advance; `none` when the ledger changed concurrently. -/
def advanceOutcome (signed : SignedAcceptedHeadV1) :
    Except SourceError Bool → Except SourceError (Option SourceIngressOutcome)
  | .ok true => .ok (some (.deployable
      { channel := ingress.channel, deliveryId := ingress.deliveryId
        payloadDigest := ingress.payloadDigest, attestation := signed
        attestationDigest := signed.digest codec }))
  | .ok false => .ok (some .sourceDivergedNeedsOwner)
  | .error .concurrentSourceUpdate => .ok none
  | .error e => .error e

/-- Attest a candidate and move the head to it. -/
def attestCandidate : SourceProg W (Option SourceIngressOutcome) := do
  ensure (current.sequence + 1 ≤ u64Max) .sequenceExhausted
  ensure (ingress.nowMs + b.attestationTtlMs ≤ i64Max) .timeRange
  let signed ← lift (ofAttestation (SignedAcceptedHeadV1.create codec b.keyId
    (b.candidatePayload current ingress) b.signingKey))
  let advanced ← attempt
    (b.advanceRefUpdate codec outside current signed (signed.digest codec) ingress.nowMs)
  lift (advanceOutcome codec ingress signed advanced)

/-- One round of `process_candidate`. -/
def considerCandidate : SourceProg W (Option SourceIngressOutcome) := do
  let current ← snapshot ingress.projectId
  if current.state = .sourceDivergedNeedsOwner then pure (some .sourceDivergedNeedsOwner)
  else if ingress.channel = .sourceReconciliation ∧
      (current.reconcilePausedUntilMs.any fun until_ => ingress.nowMs < until_) = true then
    pure (some .reconciliationPaused)
  else if current.blockedSha = some ingress.candidate then
    pure (some (.blockedSha ingress.candidate))
  else do
    match ← b.judgeCandidate outside current ingress with
    | some outcome => pure (some outcome)
    | none => b.attestCandidate codec outside current ingress

/-- `process_candidate`, with the rounds that are left. -/
def processCandidateRounds (ingress : CandidateIngress) : Nat → SourceProg W SourceIngressOutcome
  | 0 => lift (.error .concurrentSourceUpdate)
  | rounds + 1 => do
    match ← b.considerCandidate codec outside ingress with
    | some outcome => pure outcome
    | none => processCandidateRounds ingress rounds

def processCandidate : SourceProg W SourceIngressOutcome :=
  b.processCandidateRounds codec outside ingress 4

def processGithubCandidate (announcedHead : GitCommitId) : SourceProg W SourceIngressOutcome :=
  if announcedHead = ingress.candidate then b.processCandidate codec outside ingress
  else do
    match ← consult (outside.relationship ingress.projectId announcedHead ingress.candidate) with
    | .rewind => lift (.error .remoteHeadBehindWebhook)
    | .diverged => do
      transact (markDiverged b.epoch ingress.projectId ingress.candidate
        .githubWebhook (codec.sha256 (.githubMismatch announcedHead ingress.candidate))
        ingress.nowMs)
      pure .sourceDivergedNeedsOwner
    | .fastForward => b.processCandidate codec outside ingress
    -- the source panics here: different commits are never reported to be the same
    | .same => lift (.error (.repository "different commits cannot be same"))

/-! ### Ingress -/

/-- Complete the delivery with the outcome of `work`, or make it recoverable when `work` fails. -/
def settleDelivery (claim : DeliveryClaim) (autoDeploy : Bool) (nowMs : Int)
    (work : SourceProg W SourceIngressOutcome) : SourceProg W SourceIngressOutcome := do
  match ← attempt work with
  | .ok outcome =>
    transact (finishDelivery codec b.epoch claim outcome autoDeploy nowMs)
  | .error e => do
    transact (abandonDelivery b.epoch claim nowMs)
    lift (.error e)

/-- Reserve a delivery, and run `work` for it unless it was completed before. -/
def deliver (channel : SourceChannel) (deliveryId : String) (payloadDigest : EvidenceDigest)
    (autoDeploy : Bool) (nowMs : Int) (work : SourceProg W SourceIngressOutcome) :
    SourceProg W SourceIngressOutcome := do
  let token ← consult (Except.ok <$> outside.newUuid)
  match ← transact (reserveDelivery b.epoch projectId channel deliveryId payloadDigest
      nowMs token) with
  | .completed outcome => pure outcome
  | .claimed claim => b.settleDelivery codec claim autoDeploy nowMs work

def enqueueGithubPush (deliveryId signatureHeader : String) (webhookSecret rawBody : List UInt8)
    (receivedAtMs : Int) : SourceProg W GithubWebhookAdmissionV1 := do
  b.requireCurrentLease outside
  lift (validateDeliveryId deliveryId)
  ensure (0 ≤ receivedAtMs) .timeRange
  ensure (rawBody.length ≤ maxWebhookBodyBytes) .webhookBodyTooLarge
  lift (verifyGithubHmac codec signatureHeader webhookSecret rawBody)
  let policy ← lift (b.policy projectId)
  match ← lift (decodeGithubPush codec rawBody policy.githubRepository) with
  | none => pure .ignoredRef
  | some announcedHead => do
    let admission ← transact (enqueueGithubWakeup b.epoch projectId deliveryId
      (codec.sha256 (.webhookBody rawBody)) announcedHead policy.githubRepository receivedAtMs)
    match admission with
    | .queued _ | .duplicate _ false => consult (outside.notifyPriorityFetch projectId)
    | _ => pure ()
    pure admission

/-- The fetch signal stands while a wakeup is pending. -/
def reconcilePriorityFetchSignal : SourceProg W Unit := do
  consult (outside.clearPriorityFetch projectId)
  let pending ← transact (pendingGithubWakeups b.epoch projectId 1)
  if pending.isEmpty then pure () else consult (outside.notifyPriorityFetch projectId)

/-- The candidate that a queued webhook stands for. -/
def wakeupIngress (policy : InstalledSourceProjectPolicy) (wakeup : GithubWakeupRow)
    (fetchedHead : GitCommitId) (nowMs : Int) : CandidateIngress where
  projectId := wakeup.projectId
  candidate := fetchedHead
  announcedPreviousHead := none
  channel := .githubWebhook
  deliveryId := wakeup.deliveryId
  payloadDigest := wakeup.payloadDigest
  installedPolicy := policy
  nowMs := nowMs
  refreshExpiredSameHead := false

/-- Process one queued webhook; `false` when the fetched head is still behind it. -/
def processWakeup (policy : InstalledSourceProjectPolicy) (fetchedHead : GitCommitId) (nowMs : Int)
    (wakeup : GithubWakeupRow) : SourceProg W Bool := do
  ensure (wakeup.projectId = projectId ∧
    wakeup.repositoryFullName = policy.githubRepository)
    (.corruptLedger "GitHub webhook policy binding")
  let token ← consult (Except.ok <$> outside.newUuid)
  match ← transact (reserveDelivery b.epoch projectId .githubWebhook wakeup.deliveryId
      wakeup.payloadDigest wakeup.receivedAtMs token) with
  | .completed outcome => do
    transact (completeGithubWakeup b.epoch wakeup outcome nowMs)
    pure true
  | .claimed claim => do
    match ← attempt (b.processGithubCandidate codec outside
        (wakeupIngress policy wakeup fetchedHead nowMs) wakeup.announcedHead) with
    | .ok outcome => do
      let outcome ← transact (finishDelivery codec b.epoch claim outcome
        policy.autoDeploy nowMs)
      transact (completeGithubWakeup b.epoch wakeup outcome nowMs)
      pure true
    | .error e => do
      transact (abandonDelivery b.epoch claim nowMs)
      if e = .remoteHeadBehindWebhook then pure false else lift (.error e)

/-- The loop of `process_pending_github_pushes`. -/
def processWakeups (projectId : ProjectId) (policy : InstalledSourceProjectPolicy)
    (fetchedHead : GitCommitId) (nowMs : Int) :
    Nat → List GithubWakeupRow → SourceProg W GithubWebhookDrainOutcomeV1
  | completed, [] => do
    b.reconcilePriorityFetchSignal outside projectId
    pure ⟨completed, false⟩
  | completed, wakeup :: wakeups => do
    let done ← b.processWakeup codec outside projectId policy fetchedHead nowMs wakeup
    if done then processWakeups projectId policy fetchedHead nowMs (completed + 1) wakeups
    else pure ⟨completed, true⟩

def processPendingGithubPushes (limit : Nat) (nowMs : Int) :
    SourceProg W GithubWebhookDrainOutcomeV1 := do
  ensure (0 ≤ nowMs) .timeRange
  b.lockCoordination outside projectId
  let policy ← lift (b.policy projectId)
  let wakeups ← transact (pendingGithubWakeups b.epoch projectId limit)
  if wakeups.isEmpty then do
    b.reconcilePriorityFetchSignal outside projectId
    pure ⟨0, false⟩
  else do
    let fetchedHead ← consult (outside.fetchRemoteMain projectId)
    b.processWakeups codec outside projectId policy fetchedHead nowMs 0 wakeups

/-- The work of `process_github_push`. -/
def githubPushWork (policy : InstalledSourceProjectPolicy) (deliveryId : String)
    (payloadDigest : EvidenceDigest) (nowMs : Int) :
    Option GitCommitId → SourceProg W SourceIngressOutcome
  | none => pure .ignoredRef
  | some announcedHead => do
    let fetchedHead ← consult (outside.fetchRemoteMain projectId)
    b.processGithubCandidate codec outside
      { projectId, candidate := fetchedHead, announcedPreviousHead := none
        channel := .githubWebhook, deliveryId, payloadDigest, installedPolicy := policy, nowMs
        refreshExpiredSameHead := false } announcedHead

def processGithubPush (deliveryId signatureHeader : String) (webhookSecret rawBody : List UInt8)
    (nowMs : Int) : SourceProg W SourceIngressOutcome := do
  b.lockCoordination outside projectId
  lift (validateDeliveryId deliveryId)
  ensure (rawBody.length ≤ maxWebhookBodyBytes) .webhookBodyTooLarge
  lift (verifyGithubHmac codec signatureHeader webhookSecret rawBody)
  let policy ← lift (b.policy projectId)
  let announcedHead ← lift (decodeGithubPush codec rawBody policy.githubRepository)
  let payloadDigest := codec.sha256 (.webhookBody rawBody)
  b.deliver codec outside projectId .githubWebhook deliveryId payloadDigest policy.autoDeploy nowMs
    (b.githubPushWork codec outside projectId policy deliveryId payloadDigest nowMs announcedHead)

/-- The values that `reconcile_remote_main_with` hashes. -/
def reconcileDocument (policy : InstalledSourceProjectPolicy) (snapshot : SourceSnapshot)
    (fetchedHead : GitCommitId) (nowMs : Int) (refreshExpiredSameHead : Bool) :
    ReconcileDocument where
  projectId := snapshot.projectId
  fetchedHead := fetchedHead
  repositoryIdentity := policy.repositoryIdentity
  installedPolicy := policy.installedPolicy
  autoDeploy := policy.autoDeploy
  head := snapshot.head
  sequence := snapshot.sequence
  state := snapshot.state
  blockedSha := snapshot.blockedSha
  pauseActive := snapshot.reconcilePausedUntilMs.any fun until_ => nowMs < until_
  divergenceEvidenceDigest := snapshot.divergenceEvidenceDigest
  attestationExpired := snapshot.attestation.any fun a => a.payload.expiresAtMs ≤ nowMs
  refreshExpiredSameHead := refreshExpiredSameHead

def reconcileRemoteMainWith (nowMs : Int) (refreshExpiredSameHead : Bool) :
    SourceProg W SourceIngressOutcome := do
  b.lockCoordination outside projectId
  let policy ← lift (b.policy projectId)
  ensure (¬ (refreshExpiredSameHead = true ∧ policy.autoDeploy = true))
    .shadowRequiresAutoDeployDisabled
  let fetchedHead ← consult (outside.fetchRemoteMainReconciliation projectId)
  let current ← snapshot projectId
  let payloadDigest := codec.sha256 (.reconcile
    (reconcileDocument policy current fetchedHead nowMs refreshExpiredSameHead))
  let deliveryId := "reconcile-" ++ digestText payloadDigest
  b.deliver codec outside projectId .sourceReconciliation deliveryId payloadDigest policy.autoDeploy
    nowMs (b.processCandidate codec outside
      { projectId, candidate := fetchedHead, announcedPreviousHead := none
        channel := .sourceReconciliation, deliveryId, payloadDigest, installedPolicy := policy
        nowMs, refreshExpiredSameHead })

def processDirectPush (deliveryId gitRef : String) (oldHead : Option GitCommitId)
    (newHead : GitCommitId) (nowMs : Int) : SourceProg W SourceIngressOutcome := do
  b.lockCoordination outside projectId
  let policy ← lift (b.policy projectId)
  lift (validateDeliveryId deliveryId)
  ensure (gitRef = "refs/heads/main") .directPushRefRejected
  let contained ← consult (outside.containsCommit projectId newHead)
  ensure (contained = true) (.repository "direct-push commit is absent from quarantine")
  let payloadDigest := codec.sha256 (.directPush gitRef oldHead newHead projectId)
  b.deliver codec outside projectId .directPush deliveryId payloadDigest policy.autoDeploy nowMs
    (b.processCandidate codec outside
      { projectId, candidate := newHead, announcedPreviousHead := oldHead, channel := .directPush
        deliveryId, payloadDigest, installedPolicy := policy, nowMs
        refreshExpiredSameHead := false })

/-! ### Owner actions -/

def resolveDivergenceKeepCanonical (evidenceDigest : EvidenceDigest) (nowMs : Int) :
    SourceProg W Unit := do
  b.lockCoordination outside projectId
  let repositoryHead ← acceptedHead outside projectId
  ensure (repositoryHead = expectedHead) .ownerResolutionMismatch
  transact (SourceLedger.resolveDivergenceKeepCanonical b.epoch projectId expectedHead
    evidenceDigest nowMs)

def setControls (blockedSha : Option GitCommitId) (reconcilePausedUntilMs : Option Int)
    (nowMs : Int) : SourceProg W Unit := do
  b.lockCoordination outside projectId
  transact (SourceLedger.setControls b.epoch projectId blockedSha reconcilePausedUntilMs nowMs)

def acknowledgeOutbox (outboxSequence : Nat) (attestationDigest : EvidenceDigest)
    (acknowledgedAtMs : Int) : SourceProg W Unit := do
  b.requireCurrentLease outside
  transact (SourceLedger.acknowledgeOutbox b.epoch outboxSequence attestationDigest
    acknowledgedAtMs)

end DurableSourceBroker

end Rdashboard
