import Rdashboard.Source.Ledger

/-! # Deliveries, the outbox and the webhook queue

The transactions of the source store on the tables that carry an ingress in and an accepted head
out.  None of them touches a project, its accepted heads, its pending update or its ticket. -/

namespace Rdashboard

open Relational Txn Check

def settledOutboxRetention : Nat := 2048
def maxPendingWebhooks : Nat := 2048
def maxPendingWebhooksPerProject : Nat := 128
def sourceGithubWebhookBatchMax : Nat := 128
def settledWebhookRetention : Nat := 2048

/-- `GithubWebhookWakeupV1::validate` of a decoded row. -/
def GithubWakeupRow.validate (r : GithubWakeupRow) : Except SourceError Unit :=
  ensure (r.wakeupSequence ≠ 0 ∧ 0 ≤ r.receivedAtMs ∧
    isOk (validateDeliveryId r.deliveryId) = true ∧
    validGithubRepositoryFullName r.repositoryFullName = true)
    (.corruptLedger "GitHub webhook wake-up")

/-- `SourceOutboxEntryV1::validate` of a decoded row. -/
def SourceOutboxRow.validate (codec : SourceCodec) (r : SourceOutboxRow) :
    Except SourceError Unit :=
  ensure (r.outboxSequence ≠ 0 ∧ r.sourceSequence ≠ 0 ∧
    r.attestation.payload.acceptedAtMs ≤ r.enqueuedAtMs ∧
    r.projectId = r.attestation.payload.projectId ∧
    r.sourceSequence = r.attestation.payload.sequence ∧
    r.attestationDigest = r.attestation.digest codec) (.corruptLedger "source outbox entry")

namespace SourceLedger

variable (codec : SourceCodec) (epoch : Nat) (projectId : ProjectId) (deliveryId : String)
  (payloadDigest : EvidenceDigest) (claim : DeliveryClaim) (outcome : SourceIngressOutcome)

/-! ### The webhook queue -/

def pruneSettledGithubWakeups : Txn SourceLedger SourceError Unit := do
  let settled ← read fun L => (L.wakeups.rows.filter (·.completed)).map (·.wakeupSequence)
  let kept := (settled.insertionSort (· ≥ ·)).take settledWebhookRetention
  let _ ← githubWakeupsT.delete fun r => r.completed && r.wakeupSequence ∉ kept

/-- `enqueue_github_wakeup`, when the delivery is not queued yet. -/
def queueGithubWakeup (announcedHead : GitCommitId) (repositoryFullName : String)
    (receivedAtMs : Int) : Txn SourceLedger SourceError GithubWebhookAdmissionV1 := do
  let delivery ← read fun L => L.deliveries.lookup SourceDeliveryRow.key
    (projectId, .githubWebhook, deliveryId)
  ensure ((delivery.all fun r => r.payloadDigest = payloadDigest) = true)
    .deliveryConflict
  let globalPending ← read fun L => L.wakeups.count fun r => !r.completed
  let projectPending ← read fun L =>
    L.wakeups.count fun r => !r.completed && r.projectId = projectId
  ensure (globalPending < maxPendingWebhooks ∧ projectPending < maxPendingWebhooksPerProject)
    .webhookQueueFull
  let wakeupSequence ← read fun L => nextRowid (L.wakeups.rows.map (·.wakeupSequence))
  githubWakeupsT.insert (fun _ _ => true)
    { wakeupSequence, projectId, deliveryId, payloadDigest, announcedHead, repositoryFullName
      completed := false, receivedAtMs, completedAtMs := none, outcome := none }
  pruneSettledGithubWakeups
  pure (.queued wakeupSequence)

def enqueueGithubWakeup (announcedHead : GitCommitId) (repositoryFullName : String)
    (receivedAtMs : Int) : Txn SourceLedger SourceError GithubWebhookAdmissionV1 := do
  requireBrokerEpoch epoch
  match ← read fun L => L.wakeups.lookup (fun r => (r.projectId, r.deliveryId))
      (projectId, deliveryId) with
  | some r =>
    ensure (r.payloadDigest = payloadDigest ∧ r.announcedHead = announcedHead ∧
      r.repositoryFullName = repositoryFullName) .deliveryConflict
    pure (.duplicate r.wakeupSequence r.completed)
  | none =>
    queueGithubWakeup projectId deliveryId payloadDigest announcedHead repositoryFullName
      receivedAtMs

def pendingGithubWakeups (limit : Nat) : Txn SourceLedger SourceError (List GithubWakeupRow) := do
  ensure (1 ≤ limit ∧ limit ≤ sourceGithubWebhookBatchMax) .invalidWebhookBatchLimit
  requireBrokerEpoch epoch
  let rows ← read fun L =>
    ((L.wakeups.rows.filter fun r => !r.completed && r.projectId = projectId).insertionSort
      fun r s => r.wakeupSequence ≤ s.wakeupSequence).take limit
  lift (each GithubWakeupRow.validate rows)
  pure rows

def completeGithubWakeup (wakeup : GithubWakeupRow) (outcome : SourceIngressOutcome)
    (completedAtMs : Int) : Txn SourceLedger SourceError Unit := do
  lift wakeup.validate
  ensure (wakeup.receivedAtMs ≤ completedAtMs) .timeRange
  requireBrokerEpoch epoch
  let stored ← read fun L => L.wakeups.lookup (·.wakeupSequence) wakeup.wakeupSequence
  let stored ← require stored .webhookWakeupMissing
  ensure (stored.projectId = wakeup.projectId ∧ stored.deliveryId = wakeup.deliveryId ∧
    stored.payloadDigest = wakeup.payloadDigest) .webhookWakeupConflict
  if stored.completed then
    ensure (stored.outcome = some outcome) .webhookWakeupConflict
  else
    let changed ← githubWakeupsT.update
      (fun r => r.wakeupSequence = wakeup.wakeupSequence &&
        r.payloadDigest = wakeup.payloadDigest && !r.completed &&
        r.receivedAtMs ≤ completedAtMs)
      fun r => { r with completed := true, completedAtMs := some completedAtMs
                        outcome := some outcome }
    ensure (changed = 1) .webhookWakeupConflict
  pruneSettledGithubWakeups

/-- `reconcile_github_wakeup_policy`; `installed` is the repository of an installed project. -/
def reconcileGithubWakeupPolicy (installed : ProjectId → Option String) :
    Txn SourceLedger SourceError Nat := do
  requireBrokerEpoch epoch
  let retired ← githubWakeupsT.delete fun r =>
    !(installed r.projectId).any fun repository => eqIgnoreAsciiCase repository r.repositoryFullName
  pruneSettledGithubWakeups
  pure retired

/-! ### Deliveries -/

/-- `reserve_delivery`; `token` is the new processing token. -/
def reserveDelivery (channel : SourceChannel) (deliveryId : String) (payloadDigest : EvidenceDigest)
    (receivedAtMs : Int) (token : FreshUuid) :
    Txn SourceLedger SourceError DeliveryReservation := do
  requireBrokerEpoch epoch
  let claim : DeliveryClaim :=
    { projectId, channel, deliveryId, payloadDigest, processingToken := token.val }
  match ← read fun L => L.deliveries.lookup SourceDeliveryRow.key
      (projectId, channel, deliveryId) with
  | some r =>
    ensure (r.payloadDigest = payloadDigest) .deliveryConflict
    match r.status with
    | .completed =>
      let outcome ← require r.outcome (.corruptLedger "completed delivery outcome")
      pure (.completed outcome)
    | .processing => throw .deliveryInProgress
    | .recoverable =>
      let _ ← sourceDeliveriesT.update
        (fun r => r.key = (projectId, channel, deliveryId) &&
          r.status = .recoverable)
        fun r => { r with status := .processing, processingToken := some token.val
                          updatedAtMs := receivedAtMs }
      pure (.claimed claim)
  | none =>
    sourceDeliveriesT.insert (fun _ _ => true)
      { projectId, channel, deliveryId, payloadDigest, processingToken := some token.val
        status := .processing, outcome := none, receivedAtMs, updatedAtMs := receivedAtMs }
    pure (.claimed claim)

/-- Drop old settled rows, except that of the accepted head. -/
def pruneSettledOutbox : Txn SourceLedger SourceError Unit := do
  let settled ← read fun L =>
    (L.outbox.rows.filter fun r => r.status ≠ .pending).map (·.outboxSequence)
  let kept := (settled.insertionSort (· ≥ ·)).take settledOutboxRetention
  let projects ← read fun L => L.projects.rows
  let _ ← sourceOutboxT.delete fun r => r.status ≠ .pending &&
    !(projects.any fun current => current.projectId = r.projectId &&
      current.sequence = r.sourceSequence &&
      current.attestationDigest = some r.attestationDigest) &&
    r.outboxSequence ∉ kept

/-- The deliverable case of `enqueue_deployable_outcome`. -/
def enqueueDelivery (delivery : VerifiedSourceDelivery) (enqueuedAtMs : Int) :
    Txn SourceLedger SourceError Unit := do
  let payload := delivery.attestation.payload
  ensure (payload.acceptedAtMs ≤ enqueuedAtMs) .timeRange
  let sourceSequence ← lift (sequenceToI64 payload.sequence)
  let _ ← sourceOutboxT.update
    (fun r => r.projectId = payload.projectId && r.sourceSequence < sourceSequence &&
      r.status = .pending)
    fun r => { r with status := .superseded, settledAtMs := some (max r.enqueuedAtMs enqueuedAtMs) }
  let outboxSequence ← read fun L => nextRowid (L.outbox.rows.map (·.outboxSequence))
  sourceOutboxT.insertNew (·.attestationDigest)
    { outboxSequence, projectId := payload.projectId, sourceSequence
      attestation := delivery.attestation, attestationDigest := delivery.attestationDigest
      status := .pending, enqueuedAtMs, settledAtMs := none }
  let _ ← sourceOutboxT.update
    (fun r => r.projectId = payload.projectId && r.sourceSequence = sourceSequence &&
      r.attestationDigest = delivery.attestationDigest && r.status = .superseded)
    fun r => { r with status := .pending, enqueuedAtMs, settledAtMs := none }
  let persisted ← read fun L =>
    L.outbox.lookup (·.attestationDigest) delivery.attestationDigest
  let persisted ← require persisted .queryReturnedNoRows
  lift (persisted.validate codec)
  ensure (persisted.projectId = payload.projectId ∧ persisted.sourceSequence = payload.sequence ∧
    persisted.attestation = delivery.attestation ∧
    persisted.attestationDigest = delivery.attestationDigest)
    (.corruptLedger "source outbox replay binding")
  pruneSettledOutbox

def enqueueDeployableOutcome (enqueuedAtMs : Int) : Txn SourceLedger SourceError Unit :=
  match outcome with
  | .deployable delivery => enqueueDelivery codec delivery enqueuedAtMs
  | _ => pure ()

def validateDeliveryOutcome : Except SourceError Unit :=
  match outcome with
  | .deployable delivery =>
    ensure (delivery.channel = claim.channel ∧ delivery.deliveryId = claim.deliveryId ∧
      delivery.payloadDigest = claim.payloadDigest ∧
      delivery.attestation.payload.projectId = claim.projectId ∧
      delivery.attestationDigest = delivery.attestation.digest codec)
      (.corruptLedger "deployable delivery binding")
  | _ => .ok ()

/-- Complete the delivery that the claim still holds. -/
def finishDelivery (enqueueDeployable : Bool) (completedAtMs : Int) :
    Txn SourceLedger SourceError SourceIngressOutcome := do
  requireBrokerEpoch epoch
  lift (validateDeliveryOutcome codec claim outcome)
  let changed ← sourceDeliveriesT.update
    (fun r => r.key = (claim.projectId, claim.channel, claim.deliveryId) &&
      r.payloadDigest = claim.payloadDigest &&
      r.processingToken = some claim.processingToken && r.status = .processing)
    fun r => { r with status := .completed, outcome := some outcome, processingToken := none
                      updatedAtMs := completedAtMs }
  ensure (changed = 1) .deliveryReservationLost
  if enqueueDeployable then enqueueDeployableOutcome codec outcome completedAtMs
  pure outcome

def abandonDelivery (updatedAtMs : Int) : Txn SourceLedger SourceError Unit := do
  requireBrokerEpoch epoch
  let _ ← sourceDeliveriesT.update
    (fun r => r.key = (claim.projectId, claim.channel, claim.deliveryId) &&
      r.processingToken = some claim.processingToken && r.status = .processing)
    fun r => { r with status := .recoverable, updatedAtMs }

/-- What a stopped broker was processing may be claimed again. -/
def recoverIncompleteDeliveries (recoveredAtMs : Int) : Txn SourceLedger SourceError Nat := do
  requireBrokerEpoch epoch
  sourceDeliveriesT.update (fun r => r.status = .processing)
    fun r => { r with status := .recoverable, updatedAtMs := recoveredAtMs }

/-! ### The outbox -/

/-- Supersede what is pending for projects that no longer deploy by themselves. -/
def reconcileOutboxPolicy (enabled : ProjectId → Bool) (reconciledAtMs : Int) :
    Txn SourceLedger SourceError Unit := do
  ensure (0 ≤ reconciledAtMs) .timeRange
  requireBrokerEpoch epoch
  let _ ← sourceOutboxT.update (fun r => r.status = .pending && !enabled r.projectId)
    fun r => { r with status := .superseded, settledAtMs := some (max r.enqueuedAtMs reconciledAtMs) }
  pruneSettledOutbox

def sourceOutboxStatus (sourceSequence : Nat) (attestationDigest : EvidenceDigest) :
    Txn SourceLedger SourceError (Option SourceOutboxStatus) := do
  ensure (sourceSequence ≠ 0) .sequenceRange
  let sourceSequence ← lift (sequenceToI64 sourceSequence)
  requireBrokerEpoch epoch
  read fun L => (L.outbox.rows.find? fun r => r.projectId = projectId &&
    r.sourceSequence = sourceSequence &&
    r.attestationDigest = attestationDigest).map (·.status)

def acknowledgeOutbox (outboxSequence : Nat) (attestationDigest : EvidenceDigest)
    (acknowledgedAtMs : Int) : Txn SourceLedger SourceError Unit := do
  ensure (outboxSequence ≠ 0 ∧ 0 ≤ acknowledgedAtMs ∧ (outboxSequence : Int) ≤ i64Max)
    .invalidOutboxAcknowledgement
  requireBrokerEpoch epoch
  let stored ← read fun L => L.outbox.lookup (·.outboxSequence) outboxSequence
  let stored ← require stored .outboxEntryMissing
  ensure (stored.attestationDigest = attestationDigest) .outboxAcknowledgementConflict
  ensure (stored.enqueuedAtMs ≤ acknowledgedAtMs) .invalidOutboxAcknowledgement
  if stored.status = .pending then
    let changed ← sourceOutboxT.update
      (fun r => r.outboxSequence = outboxSequence &&
        r.attestationDigest = attestationDigest && r.status = .pending)
      fun r => { r with status := .delivered, settledAtMs := some acknowledgedAtMs }
    ensure (changed = 1) .outboxAcknowledgementConflict
  pruneSettledOutbox

end SourceLedger

end Rdashboard
