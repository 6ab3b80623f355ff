import Rdashboard.Source.Domain

/-! # The source ledger

The tables of the source broker and the transactions of its store.  A column that holds a JSON
document holds the document itself.  Every writing transaction first checks that the ledger still
carries the epoch that its broker was bound to when it started. -/

namespace Rdashboard

open Relational Txn

/-! ### Rows -/

structure SourceProjectRow where
  projectId : ProjectId
  canonicalHead : Option GitCommitId
  sequence : Nat
  state : SourceProjectState
  blockedSha : Option GitCommitId
  reconcilePausedUntilMs : Option Int
  attestation : Option SignedAcceptedHeadV1
  attestationDigest : Option EvidenceDigest
  divergentCandidate : Option GitCommitId
  divergenceChannel : Option SourceChannel
  divergenceEvidenceDigest : Option EvidenceDigest
  updatedAtMs : Int

structure AcceptedHeadRow where
  projectId : ProjectId
  sequence : Nat
  canonicalHead : GitCommitId
  previousHead : Option GitCommitId
  acceptedVia : SourceChannel
  attestation : SignedAcceptedHeadV1
  attestationDigest : EvidenceDigest
  acceptedAtMs : Int

inductive DeliveryStatus where
  | processing
  | recoverable
  | completed
deriving DecidableEq

structure SourceDeliveryRow where
  projectId : ProjectId
  channel : SourceChannel
  deliveryId : String
  payloadDigest : EvidenceDigest
  processingToken : Option Uuid
  status : DeliveryStatus
  outcome : Option SourceIngressOutcome
  receivedAtMs : Int
  updatedAtMs : Int

inductive RefUpdateState where
  | intentPersisted
  | refUpdated
deriving DecidableEq

structure RefUpdateRow where
  projectId : ProjectId
  expectedHead : Option GitCommitId
  newHead : GitCommitId
  sequence : Nat
  signed : SignedAcceptedHeadV1
  attestationDigest : EvidenceDigest
  state : RefUpdateState
  startedAtMs : Int
  updatedAtMs : Int

structure DivergenceEventRow where
  projectId : ProjectId
  evidenceDigest : EvidenceDigest
  canonicalHead : Option GitCommitId
  divergentCandidate : GitCommitId
  divergenceChannel : SourceChannel
  detectedAtMs : Int
  resolvedAtMs : Option Int
  resolution : Option String

/-- The `phase` column of a mutation ticket. -/
inductive MutationTicketPhase where
  | backingUp
  | draining
  | deploying
deriving DecidableEq

structure MutationTicketRow where
  projectId : ProjectId
  attemptId : Uuid
  phase : MutationTicketPhase
  sourceSequence : Nat
  attestationDigest : EvidenceDigest
  acquiredAtMs : Int

structure SourceOutboxRow where
  outboxSequence : Nat
  projectId : ProjectId
  sourceSequence : Nat
  attestation : SignedAcceptedHeadV1
  attestationDigest : EvidenceDigest
  status : SourceOutboxStatus
  enqueuedAtMs : Int
  settledAtMs : Option Int

structure GithubWakeupRow where
  wakeupSequence : Nat
  projectId : ProjectId
  deliveryId : String
  payloadDigest : EvidenceDigest
  announcedHead : GitCommitId
  repositoryFullName : String
  completed : Bool
  receivedAtMs : Int
  completedAtMs : Option Int
  outcome : Option SourceIngressOutcome

/-! ### Schemas -/

def sourceProjectSchema : Schema SourceProjectRow :=
  .keyed (fun r =>
    ((r.canonicalHead.isNone && r.sequence = 0 && r.attestation.isNone &&
        r.attestationDigest.isNone) ||
      (r.canonicalHead.isSome && 0 < r.sequence && r.attestation.isSome &&
        r.attestationDigest.isSome)) &&
    ((r.state = .ready && r.divergentCandidate.isNone && r.divergenceChannel.isNone &&
        r.divergenceEvidenceDigest.isNone) ||
      (r.state = .sourceDivergedNeedsOwner && r.divergentCandidate.isSome &&
        r.divergenceChannel.isSome && r.divergenceEvidenceDigest.isSome)))
    (·.projectId)

def acceptedHeadSchema : Schema AcceptedHeadRow where
  check r := 0 < r.sequence
  distinct r s := decide ((r.projectId, r.sequence) ≠ (s.projectId, s.sequence) ∧
    (r.projectId, r.attestationDigest) ≠ (s.projectId, s.attestationDigest))

def SourceDeliveryRow.key (r : SourceDeliveryRow) : ProjectId × SourceChannel × String :=
  (r.projectId, r.channel, r.deliveryId)

def sourceDeliverySchema : Schema SourceDeliveryRow :=
  .keyed (fun r => (r.status = .completed && r.outcome.isSome && r.processingToken.isNone) ||
      (r.status ≠ .completed && r.outcome.isNone && r.processingToken.isSome))
    SourceDeliveryRow.key

def refUpdateSchema : Schema RefUpdateRow := .keyed (fun r => 0 < r.sequence) (·.projectId)

def DivergenceEventRow.key (r : DivergenceEventRow) : ProjectId × EvidenceDigest :=
  (r.projectId, r.evidenceDigest)

def divergenceEventSchema : Schema DivergenceEventRow :=
  .keyed (fun r => (r.resolvedAtMs.isNone && r.resolution.isNone) ||
    (r.resolvedAtMs.isSome && r.resolution.isSome)) DivergenceEventRow.key

def mutationTicketSchema : Schema MutationTicketRow :=
  .keyed (fun r => 0 < r.sourceSequence) (·.projectId)

def sourceOutboxSchema : Schema SourceOutboxRow where
  check r := 0 < r.sourceSequence &&
    ((r.status = .pending && r.settledAtMs.isNone) ||
      (r.status ≠ .pending && r.settledAtMs.isSome))
  distinct r s := decide (r.outboxSequence ≠ s.outboxSequence ∧
    r.attestationDigest ≠ s.attestationDigest ∧
    (r.projectId, r.sourceSequence) ≠ (s.projectId, s.sourceSequence))

def githubWakeupSchema : Schema GithubWakeupRow where
  check r := (!r.completed && r.completedAtMs.isNone && r.outcome.isNone) ||
    (r.completed && r.completedAtMs.isSome && r.outcome.isSome)
  distinct r s := decide (r.wakeupSequence ≠ s.wakeupSequence ∧
    (r.projectId, r.deliveryId) ≠ (s.projectId, s.deliveryId))

/-! ### The ledger -/

/-- The source database; `brokerEpoch` is the row of `source_meta` with that name. -/
structure SourceLedger where
  brokerEpoch : Option Nat
  projects : Table sourceProjectSchema
  acceptedHeads : Table acceptedHeadSchema
  deliveries : Table sourceDeliverySchema
  refUpdates : Table refUpdateSchema
  divergences : Table divergenceEventSchema
  tickets : Table mutationTicketSchema
  outbox : Table sourceOutboxSchema
  wakeups : Table githubWakeupSchema

/-- A database that was just created. -/
def SourceLedger.empty : SourceLedger :=
  ⟨none, .empty, .empty, .empty, .empty, .empty, .empty, .empty, .empty⟩

def sourceProjectsT : TableRef SourceLedger sourceProjectSchema :=
  ⟨SourceLedger.projects, fun t L => { L with projects := t }⟩

def acceptedHeadsT : TableRef SourceLedger acceptedHeadSchema :=
  ⟨SourceLedger.acceptedHeads, fun t L => { L with acceptedHeads := t }⟩

def sourceDeliveriesT : TableRef SourceLedger sourceDeliverySchema :=
  ⟨SourceLedger.deliveries, fun t L => { L with deliveries := t }⟩

def refUpdatesT : TableRef SourceLedger refUpdateSchema :=
  ⟨SourceLedger.refUpdates, fun t L => { L with refUpdates := t }⟩

def divergenceEventsT : TableRef SourceLedger divergenceEventSchema :=
  ⟨SourceLedger.divergences, fun t L => { L with divergences := t }⟩

def mutationTicketsT : TableRef SourceLedger mutationTicketSchema :=
  ⟨SourceLedger.tickets, fun t L => { L with tickets := t }⟩

def sourceOutboxT : TableRef SourceLedger sourceOutboxSchema :=
  ⟨SourceLedger.outbox, fun t L => { L with outbox := t }⟩

def githubWakeupsT : TableRef SourceLedger githubWakeupSchema :=
  ⟨SourceLedger.wakeups, fun t L => { L with wakeups := t }⟩

/-- The rowid that SQLite gives to a new row of a table whose rowids are `used`. -/
def nextRowid (used : List Nat) : Nat := used.foldr max 0 + 1

/-- `i64::try_from` of a sequence. -/
def sequenceToI64 (sequence : Nat) : Except SourceError Nat :=
  if (sequence : Int) ≤ i64Max then .ok sequence else .error .sequenceRange

/-! ### Snapshots -/

structure SourceSnapshot where
  projectId : ProjectId
  head : Option GitCommitId
  sequence : Nat
  state : SourceProjectState
  blockedSha : Option GitCommitId
  reconcilePausedUntilMs : Option Int
  attestation : Option SignedAcceptedHeadV1
  attestationDigest : Option EvidenceDigest
  divergentCandidate : Option GitCommitId
  divergenceChannel : Option SourceChannel
  divergenceEvidenceDigest : Option EvidenceDigest

def SourceSnapshot.empty (projectId : ProjectId) : SourceSnapshot :=
  ⟨projectId, none, 0, .ready, none, none, none, none, none, none, none⟩

/-- The snapshot that a row holds. -/
def SourceProjectRow.snapshot (r : SourceProjectRow) (projectId : ProjectId) : SourceSnapshot :=
  ⟨projectId, r.canonicalHead, r.sequence, r.state, r.blockedSha, r.reconcilePausedUntilMs,
    r.attestation, r.attestationDigest, r.divergentCandidate, r.divergenceChannel,
    r.divergenceEvidenceDigest⟩

/-- The checks that `load_snapshot` makes on a row. -/
def SourceSnapshot.validate (s : SourceSnapshot) : Except SourceError Unit := do
  Check.ensure (s.head.isSome = s.attestation.isSome ∧
    s.head.isSome = s.attestationDigest.isSome ∧ s.head.isSome = decide (0 < s.sequence))
    (.corruptLedger "head/attestation invariant")
  let complete := s.divergentCandidate.isSome && s.divergenceChannel.isSome &&
    s.divergenceEvidenceDigest.isSome
  Check.ensure (¬ (s.state = .ready ∧ complete = true) ∧
    ¬ (s.state = .sourceDivergedNeedsOwner ∧ complete = false) ∧
    s.divergentCandidate.isSome = s.divergenceChannel.isSome ∧
    s.divergentCandidate.isSome = s.divergenceEvidenceDigest.isSome)
    (.corruptLedger "divergence evidence invariant")

structure DeliveryClaim where
  projectId : ProjectId
  channel : SourceChannel
  deliveryId : String
  payloadDigest : EvidenceDigest
  processingToken : Uuid

inductive DeliveryReservation where
  | claimed (claim : DeliveryClaim)
  | completed (outcome : SourceIngressOutcome)

namespace SourceLedger

variable (epoch : Nat) (projectId : ProjectId) (expected : SourceSnapshot)
  (signed : SignedAcceptedHeadV1) (digest : EvidenceDigest)

def loadSnapshot (L : SourceLedger) : Except SourceError SourceSnapshot :=
  match L.projects.lookup (·.projectId) projectId with
  | none => .ok (.empty projectId)
  | some r => do
    (r.snapshot projectId).validate
    pure (r.snapshot projectId)

/-- The pending update of a project. -/
def refUpdate (L : SourceLedger) (projectId : ProjectId) : Option RefUpdateRow :=
  L.refUpdates.lookup (·.projectId) projectId

/-- The mutation ticket of a project. -/
def ticket (L : SourceLedger) (projectId : ProjectId) : Option MutationTicketRow :=
  L.tickets.lookup (·.projectId) projectId

/-! ### The broker's lease -/

/-- The transaction of `acquire_broker_lease`; it returns the epoch of the new lease. -/
def acquireBrokerLease (startedAtMs : Int) : Txn SourceLedger SourceError Nat := do
  ensure (0 ≤ startedAtMs) .timeRange
  let previous ← read fun L => L.brokerEpoch.getD 0
  ensure (previous + 1 ≤ u64Max) .sequenceExhausted
  let epoch ← lift (sequenceToI64 (previous + 1))
  fun L => .ok (epoch, { L with brokerEpoch := some epoch })

/-- `require_bound_broker_epoch`; `require_broker_epoch` is the same check. -/
def requireBrokerEpoch : Txn SourceLedger SourceError Unit := do
  ensure (epoch ≠ 0) .brokerLeaseSuperseded
  let expected ← lift (sequenceToI64 epoch)
  let current ← read SourceLedger.brokerEpoch
  ensure (current = some expected) .brokerLeaseSuperseded

/-! ### Mutation tickets -/

def mutationTicketPhase : OperationPhase → Except SourceError OperationPhase
  | .cutoverSnapshotting => .ok .backingUp
  | .backingUp => .ok .backingUp
  | .draining => .ok .draining
  | .deploying => .ok .deploying
  | _ => .error .invalidMutationTicketPhase

def mutationPhaseName : OperationPhase → Except SourceError MutationTicketPhase
  | .cutoverSnapshotting => .ok .backingUp
  | .backingUp => .ok .backingUp
  | .draining => .ok .draining
  | .deploying => .ok .deploying
  | _ => .error .invalidMutationTicketPhase

/-- Freeze the accepted head of a project for one phase of an attempt. -/
def acquireMutationTicket (operation : OperationRecord) (nowMs : Int) :
    Txn SourceLedger SourceError Unit := do
  let target ← require operation.targetCommit .headNotCurrent
  let sequence ← require operation.evidence.sourceSequence .headNotCurrent
  let sequence ← lift (sequenceToI64 sequence)
  let attestationDigest ← require operation.evidence.sourceAttestationDigest .headNotCurrent
  let phase ← lift (mutationPhaseName operation.state.phase)
  requireBrokerEpoch epoch
  let current ← query (loadSnapshot operation.projectId)
  ensure (current.state = .ready ∧ current.head = some target ∧ current.sequence = sequence ∧
    current.attestationDigest = some attestationDigest) .headNotCurrent
  ensure (current.blockedSha ≠ some target) .blockedSha
  let pending ← read (refUpdate · operation.projectId)
  ensure (pending = none) .mutationAdmissionBusy
  match ← read (ticket · operation.projectId) with
  | some held =>
    ensure (held.attemptId = operation.attemptId ∧ held.phase = phase ∧
      held.sourceSequence = sequence ∧ held.attestationDigest = attestationDigest)
      .mutationAdmissionBusy
  | none =>
    mutationTicketsT.insert (fun _ _ => true)
      { projectId := operation.projectId, attemptId := operation.attemptId, phase
        sourceSequence := sequence, attestationDigest, acquiredAtMs := nowMs }

/-- The stored phases that an operation in a phase may release. -/
def releasablePhases : OperationPhase → Option (List MutationTicketPhase)
  | .draining => some [.draining]
  | .backingUp => some [.backingUp]
  | .cutoverSnapshotting => some [.backingUp]
  | .deploying => some [.deploying]
  | .reconciliation => some [.backingUp, .draining, .deploying]
  | _ => none

def releaseMutationTicket (operation : OperationRecord) : Txn SourceLedger SourceError Unit := do
  let phases ← require (releasablePhases operation.state.phase) .invalidMutationTicketPhase
  let sequence ← require operation.evidence.sourceSequence .mutationTicketMismatch
  let sequence ← lift (sequenceToI64 sequence)
  let attestationDigest ←
    require operation.evidence.sourceAttestationDigest .mutationTicketMismatch
  requireBrokerEpoch epoch
  match ← read (ticket · operation.projectId) with
  | some held =>
    ensure (held.attemptId = operation.attemptId ∧ held.phase ∈ phases ∧
      held.sourceSequence = sequence ∧ held.attestationDigest = attestationDigest)
      .mutationTicketMismatch
    let changed ← mutationTicketsT.delete fun r =>
      r.projectId = operation.projectId && r.attemptId = operation.attemptId
    ensure (changed = 1) .mutationTicketMismatch
  | none => pure ()

/-! ### Updates of the accepted ref -/

/-- Journal the intent before the ref is moved. -/
def beginRefUpdate : Txn SourceLedger SourceError Unit := do
  requireBrokerEpoch epoch
  let current ← query (loadSnapshot expected.projectId)
  ensure (current.head = expected.head ∧ current.sequence = expected.sequence ∧
    current.state = .ready) .concurrentSourceUpdate
  let held ← read (ticket · expected.projectId)
  ensure (held = none) .mutationAdmissionBusy
  match ← read (refUpdate · expected.projectId) with
  | some pending =>
    ensure (pending.expectedHead = expected.head ∧ pending.newHead = signed.payload.head)
      .pendingRefUpdateConflict
    let sequence ← lift (sequenceToI64 signed.payload.sequence)
    ensure (pending.sequence = sequence ∧ pending.attestationDigest = digest)
      .pendingRefUpdateConflict
  | none =>
    let sequence ← lift (sequenceToI64 signed.payload.sequence)
    refUpdatesT.insert (fun _ _ => true)
      { projectId := expected.projectId, expectedHead := expected.head
        newHead := signed.payload.head, sequence, signed, attestationDigest := digest
        state := .intentPersisted, startedAtMs := signed.payload.acceptedAtMs
        updatedAtMs := signed.payload.acceptedAtMs }

def markRefUpdated (updatedAtMs : Int) : Txn SourceLedger SourceError Unit := do
  requireBrokerEpoch epoch
  let changed ← refUpdatesT.update
    (fun r => r.projectId = projectId && r.attestationDigest = digest)
    fun r => { r with state := .refUpdated, updatedAtMs }
  ensure (changed = 1) .pendingRefUpdateConflict

/-- The row of `source_projects` that `accept_if_current` inserts. -/
def acceptedProjectRow : SourceProjectRow where
  projectId := signed.payload.projectId
  canonicalHead := some signed.payload.head
  sequence := signed.payload.sequence
  state := .ready
  blockedSha := expected.blockedSha
  reconcilePausedUntilMs := expected.reconcilePausedUntilMs
  attestation := some signed
  attestationDigest := some digest
  divergentCandidate := none
  divergenceChannel := none
  divergenceEvidenceDigest := none
  updatedAtMs := signed.payload.acceptedAtMs

/-- The row of `accepted_heads` that `accept_if_current` inserts. -/
def acceptedHeadRow : AcceptedHeadRow where
  projectId := signed.payload.projectId
  sequence := signed.payload.sequence
  canonicalHead := signed.payload.head
  previousHead := signed.payload.previousHead
  acceptedVia := signed.payload.acceptedVia
  attestation := signed
  attestationDigest := digest
  acceptedAtMs := signed.payload.acceptedAtMs

/-- The columns that the conflict clause of `accept_if_current` sets. -/
def acceptOver (new old : SourceProjectRow) : SourceProjectRow :=
  { old with
    canonicalHead := new.canonicalHead, sequence := new.sequence, state := .ready
    divergentCandidate := none, divergenceChannel := none, divergenceEvidenceDigest := none
    attestation := new.attestation, attestationDigest := new.attestationDigest
    updatedAtMs := new.updatedAtMs }

/-- `accept_if_current`, when the head is not yet the current one. -/
def acceptHead : Txn SourceLedger SourceError Unit := do
  let sequence ← lift (sequenceToI64 signed.payload.sequence)
  let pending ← read (refUpdate · expected.projectId)
  ensure ((pending.any fun r => r.expectedHead = expected.head &&
    r.newHead = signed.payload.head && r.sequence = sequence &&
    r.attestationDigest = digest && r.state = .refUpdated) = true)
    .pendingRefUpdateConflict
  acceptedHeadsT.insert (fun _ _ => true) (acceptedHeadRow signed digest)
  sourceProjectsT.upsert (·.projectId) (acceptedProjectRow expected signed digest)
    (acceptOver (acceptedProjectRow expected signed digest))
  let _ ← refUpdatesT.delete fun r => r.projectId = expected.projectId &&
    r.attestationDigest = digest && r.state = .refUpdated

/-- Accept the head of an update whose ref has moved. -/
def acceptIfCurrent : Txn SourceLedger SourceError Unit := do
  requireBrokerEpoch epoch
  let current ← query (loadSnapshot expected.projectId)
  if current.state = .ready ∧ current.head = some signed.payload.head ∧
      current.sequence = signed.payload.sequence ∧ current.attestationDigest = some digest then
    let _ ← refUpdatesT.delete fun r => r.projectId = expected.projectId &&
      r.attestationDigest = digest
  else
    ensure (current.head = expected.head ∧ current.sequence = expected.sequence ∧
      current.state = .ready) .concurrentSourceUpdate
    acceptHead expected signed digest

def pendingRefUpdates (L : SourceLedger) : List RefUpdateRow :=
  L.refUpdates.rows.insertionSort fun r s => r.projectId ≤ s.projectId

/-! ### Divergence and controls -/

/-- The row of `source_projects` that `mark_diverged` inserts. -/
def divergedProjectRow (current : SourceSnapshot) (candidate : GitCommitId)
    (channel : SourceChannel) (evidenceDigest : EvidenceDigest) (nowMs : Int) :
    SourceProjectRow where
  projectId := current.projectId
  canonicalHead := current.head
  sequence := current.sequence
  state := .sourceDivergedNeedsOwner
  blockedSha := current.blockedSha
  reconcilePausedUntilMs := current.reconcilePausedUntilMs
  attestation := current.attestation
  attestationDigest := current.attestationDigest
  divergentCandidate := some candidate
  divergenceChannel := some channel
  divergenceEvidenceDigest := some evidenceDigest
  updatedAtMs := nowMs

/-- The columns that the conflict clause of `mark_diverged` sets: the evidence of a divergence that
the owner has not resolved stays. -/
def divergeOver (new old : SourceProjectRow) : SourceProjectRow :=
  if old.state = .sourceDivergedNeedsOwner then { old with updatedAtMs := new.updatedAtMs }
  else
    { old with
      state := .sourceDivergedNeedsOwner, divergentCandidate := new.divergentCandidate
      divergenceChannel := new.divergenceChannel
      divergenceEvidenceDigest := new.divergenceEvidenceDigest, updatedAtMs := new.updatedAtMs }

/-- Record a divergence, which only the owner resolves. -/
def markDiverged (candidate : GitCommitId) (channel : SourceChannel)
    (evidenceDigest : EvidenceDigest) (nowMs : Int) : Txn SourceLedger SourceError Unit := do
  requireBrokerEpoch epoch
  let current ← query (loadSnapshot projectId)
  divergenceEventsT.insertNew DivergenceEventRow.key
    { projectId, evidenceDigest, canonicalHead := current.head, divergentCandidate := candidate
      divergenceChannel := channel, detectedAtMs := nowMs, resolvedAtMs := none
      resolution := none }
  let _ ← lift (sequenceToI64 current.sequence)
  let row := divergedProjectRow current candidate channel evidenceDigest nowMs
  sourceProjectsT.upsert (·.projectId) row (divergeOver row)

/-- The row of `source_projects` that `set_controls` inserts. -/
def controlledProjectRow (current : SourceSnapshot) (blockedSha : Option GitCommitId)
    (reconcilePausedUntilMs : Option Int) (nowMs : Int) : SourceProjectRow where
  projectId := current.projectId
  canonicalHead := current.head
  sequence := current.sequence
  state := current.state
  blockedSha := blockedSha
  reconcilePausedUntilMs := reconcilePausedUntilMs
  attestation := current.attestation
  attestationDigest := current.attestationDigest
  divergentCandidate := none
  divergenceChannel := none
  divergenceEvidenceDigest := none
  updatedAtMs := nowMs

/-- The columns that the conflict clause of `set_controls` sets. -/
def controlOver (new old : SourceProjectRow) : SourceProjectRow :=
  { old with
    blockedSha := new.blockedSha, reconcilePausedUntilMs := new.reconcilePausedUntilMs
    updatedAtMs := new.updatedAtMs }

/-- `set_controls`.  The row to insert carries no evidence of a divergence, so the statement fails
its CHECK clause when the project has diverged. -/
def setControls (blockedSha : Option GitCommitId) (reconcilePausedUntilMs : Option Int)
    (nowMs : Int) : Txn SourceLedger SourceError Unit := do
  ensure ((reconcilePausedUntilMs.any fun until_ => until_ ≤ nowMs) = false)
    (.invalidControl "pause must end in the future")
  requireBrokerEpoch epoch
  let current ← query (loadSnapshot projectId)
  let _ ← lift (sequenceToI64 current.sequence)
  let row := controlledProjectRow current blockedSha reconcilePausedUntilMs nowMs
  sourceProjectsT.upsert (·.projectId) row (controlOver row)

/-- `resolve_divergence_keep_canonical` of the store. -/
def resolveDivergenceKeepCanonical (expectedHead : Option GitCommitId)
    (evidenceDigest : EvidenceDigest) (nowMs : Int) : Txn SourceLedger SourceError Unit := do
  requireBrokerEpoch epoch
  let current ← query (loadSnapshot projectId)
  ensure (current.state = .sourceDivergedNeedsOwner ∧ current.head = expectedHead ∧
    current.divergenceEvidenceDigest = some evidenceDigest) .ownerResolutionMismatch
  let changed ← sourceProjectsT.update
    (fun r => r.projectId = projectId && r.canonicalHead = expectedHead &&
      r.divergenceEvidenceDigest = some evidenceDigest &&
      r.state = .sourceDivergedNeedsOwner)
    fun r => { r with
      state := .ready, divergentCandidate := none, divergenceChannel := none
      divergenceEvidenceDigest := none, updatedAtMs := nowMs }
  ensure (changed = 1) .ownerResolutionMismatch
  let _ ← refUpdatesT.delete fun r => r.projectId = projectId
  let active ← read fun L =>
    (L.divergences.lookup DivergenceEventRow.key (projectId, evidenceDigest)).isSome
  let resolved ← divergenceEventsT.update
    (fun r => r.projectId = projectId && r.resolvedAtMs.isNone && active)
    fun r => { r with resolvedAtMs := some nowMs, resolution := some "keep_canonical_head" }
  ensure (resolved ≠ 0) (.corruptLedger "divergence audit event")

end SourceLedger

end Rdashboard
