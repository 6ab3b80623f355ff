import Rdashboard.Security.Phases

/-! # Resources and write fences

Exclusive resources and disk reservations of attempts, and the three journals that draw their
epochs from one counter: backup boundaries, drain identities and write fences. -/

namespace Rdashboard

open Relational Txn Session Check

namespace SecurityStore

variable (codec : Codec)

variable (S : SecurityStore) (resource : ExecutionResource) (key : ResourceKey)
  (projectId : ProjectId) (attemptId : Uuid) (claim : AuthorizedDiskReservation) (token : FreshUuid)
  (createdAtMs : Int) (digest : EvidenceDigest)

/-! ### Resources -/

def requireProjectResourceAllowed : Except SecurityError Unit := do
  S.requireAuthorizedForProject attemptId projectId none
  ensure ((∀ fence ∈ S.loadActiveFence projectId, fence.attemptId = attemptId) ∧
    (∀ drain ∈ S.loadActiveDrainIdentity projectId, drain.attemptId = attemptId) ∧
    ∀ boundary ∈ S.loadActiveBackupBoundary projectId, boundary.attemptId = attemptId)
    .fenceConflict

/-- The admission check of `acquire_resource_in_transaction`. -/
def requireResourceAllowed : Except SecurityError Unit :=
  match resource with
  | .projectDeploy projectId => S.requireProjectResourceAllowed projectId attemptId
  | .globalBuild | .globalHeavyIo | .globalLocalRegistry => S.requireAuthorized attemptId

/-- The upsert of `execution_resource_receipts`. -/
def putResourceReceipt (row : ResourceReceiptRow) : Secured Unit := do
  let existing ← read fun S =>
    S.resourceReceipts.lookup (fun r => (r.key, r.ownerAttemptId)) (row.key, row.ownerAttemptId)
  match existing with
  | none => resourceReceiptsT.insert (fun _ _ => true) row
  | some _ => do
    let _ ← resourceReceiptsT.update
      (fun r => r.key = row.key && r.ownerAttemptId = row.ownerAttemptId) fun _ => row
    pure ()

/-- `acquire_resource_key_in_transaction`. -/
def acquireResourceKey : Secured Unit := do
  match ← read (·.resourceOwner key) with
  | some owner => ensure (owner = attemptId) .executionResourceBusy
  | none => do
    resourcesT.insert (fun _ _ => true) { key, ownerAttemptId := attemptId }
    putResourceReceipt { key, ownerAttemptId := attemptId, state := .acquired }

/-- Give back a resource that the attempt owns. -/
def dropResourceKey : Secured Unit := do
  let _ ← resourcesT.delete (·.key = key)
  let _ ← resourceReceiptsT.update (fun r => r.key = key && r.ownerAttemptId = attemptId)
    fun r => { r with state := .released }
  pure ()

/-- `release_resource_key_if_owned_in_transaction`. -/
def releaseResourceKeyIfOwned : Secured Unit := do
  let owner ← read (·.resourceOwner key)
  if owner = some attemptId then dropResourceKey key attemptId else pure ()

def acquireResource : Session SecurityStore SecurityError Unit :=
  immediateTransaction do
    query (·.requireResourceAllowed resource attemptId)
    acquireResourceKey (.resource resource) attemptId

/-- Give a resource back; a repeated call finds the receipt of the first. -/
def releaseResource : Session SecurityStore SecurityError Unit :=
  immediateTransaction do
    match ← read (·.resourceOwner (.resource resource)) with
    | some owner => do
      ensure (owner = attemptId) .executionResourceOwnership
      dropResourceKey (.resource resource) attemptId
    | none => do
      let receipt ← read fun S => S.resourceReceipts.lookup
        (fun r => (r.key, r.ownerAttemptId)) (.resource resource, attemptId)
      ensure (receipt.any (·.state = .released)) .executionResourceOwnership

def releaseResourceIfOwned : Session SecurityStore SecurityError Unit :=
  immediateTransaction (releaseResourceKeyIfOwned (.resource resource) attemptId)

/-! ### Disk reservations -/

def validateDiskObservation (observation : DiskAvailabilityObservation) (nowMs : Int) :
    Except SecurityError Unit :=
  ensure (observation.filesystemIdentity = claim.filesystemIdentity ∧
    0 ≤ observation.observedAtMs ∧ 0 ≤ nowMs - observation.observedAtMs ∧
    nowMs - observation.observedAtMs ≤ diskObservationMaxAgeMs ∧
    (observation.availableBytes : Int) ≤ i64Max) .diskObservationInvalid

/-- `ActiveDiskReservation::matches`. -/
def reservationMatches (r : ActiveDiskReservation) (projectId : ProjectId)
    (claim : AuthorizedDiskReservation) : Bool :=
  r.projectId = projectId && r.requiredBytes = claim.requiredBytes &&
    r.emergencyReserveBytes = claim.emergencyReserveBytes &&
    r.filesystemIdentity = claim.filesystemIdentity &&
    r.reservationDigest = claim.reservationDigest

/-- The loop of `active_disk_reservation_totals`: the bytes of the other operations, which must
stay in range, and the largest emergency reserve among them. -/
def reservationTotals : Nat → Nat → List ActiveDiskReservation → Except SecurityError (Nat × Nat)
  | reserved, emergency, [] => .ok (reserved, emergency)
  | reserved, emergency, r :: rest =>
    if r.requiredBytes < r.emergencyReserveBytes then .error .diskReservationAuthorizationInvalid
    else if u64Max < reserved + (r.requiredBytes - r.emergencyReserveBytes) then
      .error .diskReservationRange
    else reservationTotals (reserved + (r.requiredBytes - r.emergencyReserveBytes))
      (max emergency r.emergencyReserveBytes) rest

def loadActiveDiskReservation : Option ActiveDiskReservation :=
  S.disks.lookup (·.attemptId) attemptId

/-- Is the reservation of the attempt active already, and is it the one of the claim? -/
def diskReservationActive : Except SecurityError Bool :=
  match S.loadActiveDiskReservation attemptId with
  | none => .ok false
  | some existing => do
    ensure (reservationMatches existing projectId claim) .diskReservationAuthorizationInvalid
    S.requireResourceKeyOwned (.diskReservation projectId) attemptId
    pure true

/-- The capacity check of `acquire_disk_reservation`. -/
def requireDiskCapacity (observation : DiskAvailabilityObservation) :
    Except SecurityError Unit := do
  let (reserved, emergency) ← reservationTotals 0 0 (S.disks.rows.filter fun r =>
    r.filesystemIdentity = claim.filesystemIdentity && r.attemptId ≠ attemptId)
  let operation ← require claim.operationBytes .diskReservationAuthorizationInvalid
  ensure (reserved + operation ≤ u64Max) .diskReservationRange
  let total := reserved + operation + max emergency claim.emergencyReserveBytes
  ensure (total ≤ u64Max) .diskReservationRange
  ensure (total ≤ observation.availableBytes)
    (.diskReservationCapacity total observation.availableBytes)

/-- Activate the reservation of an attempt that has none. -/
def activateDiskReservation (observation : DiskAvailabilityObservation) : Secured Unit := do
  query (·.requireProjectResourceAllowed projectId attemptId)
  acquireResourceKey (.diskReservation projectId) attemptId
  ensure ((claim.requiredBytes : Int) ≤ i64Max ∧ (claim.emergencyReserveBytes : Int) ≤ i64Max ∧
    (observation.availableBytes : Int) ≤ i64Max) .diskReservationRange
  disksT.insert (fun S r => (S.authorization r.attemptId).isSome)
    { attemptId, projectId, requiredBytes := claim.requiredBytes
      emergencyReserveBytes := claim.emergencyReserveBytes
      availableBytes := observation.availableBytes
      filesystemIdentity := claim.filesystemIdentity
      reservationDigest := claim.reservationDigest, observedAtMs := observation.observedAtMs }

/-- Reserve the disk space of the attempt, or refresh its reservation. -/
def acquireDiskReservation (observation : DiskAvailabilityObservation) (acquiredAtMs : Int) :
    Session SecurityStore SecurityError Unit :=
  immediateTransaction do
    let claim ← query (·.loadAuthorizedDiskReservation codec projectId attemptId)
    lift (validateDiskObservation claim observation acquiredAtMs)
    let active ← query (·.diskReservationActive projectId attemptId claim)
    query (·.requireDiskCapacity attemptId claim observation)
    if active then do
      let _ ← disksT.update (·.attemptId = attemptId) fun r =>
        { r with availableBytes := observation.availableBytes
                 observedAtMs := observation.observedAtMs }
      pure ()
    else activateDiskReservation projectId attemptId claim observation

def releaseDiskReservationIfOwned : Session SecurityStore SecurityError Unit :=
  immediateTransaction do
    match ← read (·.loadActiveDiskReservation attemptId) with
    | none => releaseResourceKeyIfOwned (.diskReservation projectId) attemptId
    | some existing => do
      ensure (existing.projectId = projectId) .executionResourceOwnership
      query (·.requireResourceKeyOwned (.diskReservation projectId) attemptId)
      let _ ← disksT.delete (·.attemptId = attemptId)
      releaseResourceKeyIfOwned (.diskReservation projectId) attemptId

/-! ### Epochs -/

/-- `allocate_next_fence_epoch`; the counter is an `i64` that starts at zero and only grows, so
its conversion to `u64` cannot fail. -/
def allocateNextFenceEpoch : Secured Nat := fun S =>
  if (S.fenceEpoch + 1 : Int) ≤ i64Max then
    .ok (S.fenceEpoch + 1, { S with fenceEpoch := S.fenceEpoch + 1 })
  else .error (.corruptSecurityJournal "fence epoch range")

/-- The next AUTOINCREMENT key of a journal from which no row is deleted. -/
def nextJournalId (ids : List Nat) : Nat := ids.foldr max 0 + 1

/-- The specification that `begin_backup_boundary` requires: that of a base backup. -/
def requireBaseBackupSpec : Except SecurityError Unit := do
  let key : PhaseKey := ⟨.primary, .backingUp⟩
  let entry ← require (S.loadPhaseEntry attemptId key) .executorPhaseState
  ensure (entry.status = .intentPersisted ∧ entry.projectId = projectId) .executorPhaseState
  let record ← require (S.loadAuthorizedPhaseSpec attemptId key) .authorizedPhaseSpecMissing
  let spec ← decodeAuthorizedPhaseSpecDocument codec { specBinding record with projectId }
  ensure (spec.backup.any (·.snapshotKind = .base)) .authorizedPhaseSpecBinding

/-- Return the reservation that the attempt has in the journal `T`, or make one with a new epoch. -/
def reserveEpoch {Lease ρ : Type} {schema : Schema ρ} (T : TableRef SecurityStore schema)
    (holder : Lease → Uuid) (ids : SecurityStore → List Nat) (foreign : SecurityStore → ρ → Bool)
    (row : Lease → ρ) (new : Nat → Nat → Lease) : Option Lease → Secured Lease
  | some active => do
    ensure (holder active = attemptId) .fenceConflict
    pure active
  | none => do
    let epoch ← allocateNextFenceEpoch
    let journalId ← read fun S => nextJournalId (ids S)
    T.insert foreign (row (new journalId epoch))
    pure (new journalId epoch)

/-- Reserve the boundary of a base backup, or return the active one. -/
def beginBackupBoundary : Session SecurityStore SecurityError BackupBoundaryLease :=
  immediateTransaction do
    query (·.requireAuthorizedForProject attemptId projectId none)
    query (·.requireResourceOwned (.projectDeploy projectId) attemptId)
    query (·.requireBaseBackupSpec codec projectId attemptId)
    let clear ← read fun S =>
      (S.loadActiveFence projectId).isNone && (S.loadActiveDrainIdentity projectId).isNone
    ensure (clear = true) .fenceConflict
    let active ← read (·.loadActiveBackupBoundary projectId)
    reserveEpoch attemptId boundariesT (·.attemptId) (·.boundaries.rows.map (·.journalId))
      (fun S r => (S.authorization r.attemptId).isSome)
      (fun lease => { lease with state := .reserved, updatedAtMs := createdAtMs })
      (fun journalId epoch =>
        { journalId, projectId, attemptId, epoch, token := token.1, createdAtMs }) active

/-- Reserve the identity of a drain, or return the active one. -/
def beginDrainIdentity : Session SecurityStore SecurityError DrainIdentityLease :=
  immediateTransaction do
    query (·.requireAuthorizedForProject attemptId projectId none)
    query (·.requireResourceOwned (.projectDeploy projectId) attemptId)
    query (·.requirePhaseReceipt codec attemptId .backingUp)
    let clear ← read fun S =>
      (S.loadActiveFence projectId).isNone && (S.loadActiveBackupBoundary projectId).isNone
    ensure (clear = true) .fenceConflict
    let active ← read (·.loadActiveDrainIdentity projectId)
    reserveEpoch attemptId drainsT (·.attemptId) (·.drains.rows.map (·.journalId))
      (fun S r => (S.authorization r.attemptId).isSome)
      (fun lease => { lease with state := .reserved, updatedAtMs := createdAtMs })
      (fun journalId epoch =>
        { journalId, projectId, attemptId, epoch, token := token.1, createdAtMs }) active

/-! ### Write fences -/

/-- Insert a row of the fence journal. -/
def insertFence (epoch : Nat) (token : Uuid) (state : FenceJournalState) (createdAtMs : Int) :
    Secured FenceLease := do
  let journalId ← read fun S => nextJournalId (S.fences.rows.map (·.journalId))
  let lease : FenceLease :=
    { journalId, projectId, attemptId, epoch, token, createdAtMs, state
      releaseSafeReceiptDigest := none }
  fencesT.insert (fun _ _ => true) lease
  pure lease

/-- The fence takes over the epoch and the token of the drain before it. -/
def promoteDrainIdentity (drain : DrainIdentityLease) (createdAtMs : Int) : Secured FenceLease := do
  ensure (drain.attemptId = attemptId) .fenceConflict
  ensure ((drain.epoch : Int) ≤ i64Max) (.corruptSecurityJournal "fence epoch range")
  let updated ← drainsT.update (fun r => r.journalId = drain.journalId && r.state = .reserved)
    fun r => { r with state := .promoted, updatedAtMs := createdAtMs }
  ensure (updated = 1) (.corruptSecurityJournal "drain identity promotion")
  insertFence projectId attemptId drain.epoch drain.token .acquireIntent createdAtMs

def allocateFenceIdentity : Secured FenceLease := do
  let epoch ← allocateNextFenceEpoch
  insertFence projectId attemptId epoch token.1 .acquireIntent createdAtMs

/-- What `begin_fence_acquire` requires of the attempt in either case. -/
def requireFencePosition : Except SecurityError Unit := do
  S.requireResourceOwned (.projectDeploy projectId) attemptId
  S.requireFencePhaseReceipts codec attemptId

/-- `begin_fence_acquire` when no fence of the project is active. -/
def beginNewFence : Secured FenceLease := do
  query (·.requireFencePosition codec projectId attemptId)
  match ← read (·.loadActiveDrainIdentity projectId) with
  | some drain => promoteDrainIdentity projectId attemptId drain createdAtMs
  | none => allocateFenceIdentity projectId attemptId token createdAtMs

/-- Journal the intent to fence, or return the fence of the attempt. -/
def beginFenceAcquire : Session SecurityStore SecurityError FenceLease :=
  immediateTransaction do
    query (·.requireAuthorizedForProject attemptId projectId none)
    match ← read (·.loadActiveFence projectId) with
    | some active => do
      ensure (active.attemptId = attemptId ∧
        (active.state = .acquireIntent ∨ active.state = .held)) .fenceConflict
      query (·.requireFencePosition codec projectId attemptId)
      pure active
    | none => beginNewFence codec projectId attemptId token createdAtMs

inductive FenceObservation where
  | released
  | held (attemptId : Uuid) (epoch : Nat) (token : Uuid)
deriving DecidableEq

inductive FenceProjection where
  | held
  | released
  | needsReconcile

/-- Does an observation show the fence of a lease? -/
def FenceObservation.shows (observation : FenceObservation) (lease : FenceLease) : Bool :=
  observation = .held lease.attemptId lease.epoch lease.token

/-- The table of `reconcile_fence`: the state that an active row takes under an observation, and
what the caller is told; `none` leaves the row alone. -/
def reconciledState (active : FenceLease) (releaseIsSafe : Bool) (observation : FenceObservation) :
    Option FenceJournalState × FenceProjection :=
  if (active.state = .acquireIntent ∨ active.state = .held) ∧ observation.shows active then
    (some .held, .held)
  else if active.state = .releaseIntent ∧ releaseIsSafe ∧ observation.shows active then
    (none, .held)
  else if active.state = .releaseIntent ∧ releaseIsSafe ∧ observation = .released then
    (some .released, .released)
  else if active.state = .released ∧ observation = .released then (none, .released)
  else (some .needsReconcile, .needsReconcile)

def setFenceState (journalId : Nat) (state : FenceJournalState) : Secured Unit := do
  let changed ← fencesT.update (·.journalId = journalId) fun r => { r with state }
  ensure (changed = 1) (.corruptSecurityJournal "missing fence journal row")

/-- `reconcile_fence` when no fence of the project is active: a fence that is held outside is
recorded as foreign. -/
def recordForeignFence (observation : FenceObservation) (observedAtMs : Int) :
    Secured FenceProjection :=
  match observation with
  | .released => pure .released
  | .held attemptId epoch token => do
    ensure ((epoch : Int) ≤ i64Max) (.corruptSecurityJournal "observed fence epoch range")
    ensure (epoch ≠ 0 ∧ attemptId.isNil = false ∧ token.isNil = false)
      .fenceOwnershipMismatch
    let _ ← insertFence projectId attemptId epoch token .needsReconcile observedAtMs
    pure .needsReconcile

/-- `reconcile_fence` for an active row. -/
def reconcileActiveFence (active : FenceLease) (observation : FenceObservation) :
    Secured FenceProjection := do
  let releaseIsSafe ← query (·.releaseIsSafe codec active)
  match reconciledState active releaseIsSafe observation with
  | (some state, projection) => do
    setFenceState active.journalId state
    pure projection
  | (none, projection) => pure projection

/-- Compare the journal with the fence that is observed outside. -/
def reconcileFence (observation : FenceObservation) (observedAtMs : Int) :
    Session SecurityStore SecurityError FenceProjection :=
  immediateTransaction do
    match ← read (·.loadActiveFence projectId) with
    | some active => reconcileActiveFence codec active observation
    | none => recordForeignFence projectId observation observedAtMs

/-- The branch whose receipt makes the release of an attempt's fence safe. -/
def releaseBranch : Option RollbackTakeover → ExecutorPhaseBranch
  | some _ => .rollbackRecovery
  | none => .primary

/-- The receipt check of `begin_fence_release`. -/
def requireReleaseSafe : Except SecurityError Unit := do
  let found ← S.loadReleaseSafeReceipt codec attemptId digest
  let receipt ← require found .fenceReleaseUnsafe
  let takeover ← S.loadRollbackTakeover attemptId
  ensure (receipt.branch = releaseBranch takeover) .fenceReleaseUnsafe

/-- `begin_fence_release` for an active row. -/
def releaseActiveFence (active : FenceLease) (attemptId : Uuid) (digest : EvidenceDigest) :
    Secured FenceLease := do
  ensure (active.attemptId = attemptId) .fenceOwnershipMismatch
  match active.state with
  | .held => do
    let _ ← fencesT.update (·.journalId = active.journalId) fun r =>
      { r with state := .releaseIntent, releaseSafeReceiptDigest := some digest }
    pure { active with state := .releaseIntent, releaseSafeReceiptDigest := some digest }
  | .releaseIntent => do
    ensure (active.releaseSafeReceiptDigest = some digest) .fenceReleaseUnsafe
    pure active
  | .acquireIntent | .released | .needsReconcile => throw .fenceReleaseUnsafe

/-- `begin_fence_release` when no fence of the project is active: the release may be a
replay. -/
def replayFenceRelease : Secured FenceLease := do
  let found ← read (·.loadLatestFence projectId)
  let latest ← require found .fenceOwnershipMismatch
  ensure (latest.attemptId = attemptId ∧ latest.state = .released ∧
    latest.releaseSafeReceiptDigest = some digest) .fenceOwnershipMismatch
  pure latest

/-- Journal the intent to release, once the release-safe receipt is there. -/
def beginFenceRelease : Session SecurityStore SecurityError FenceLease :=
  immediateTransaction do
    query (·.requireAuthorizedForProject attemptId projectId none)
    query (·.requireReleaseSafe codec attemptId digest)
    match ← read (·.loadActiveFence projectId) with
    | some active => releaseActiveFence active attemptId digest
    | none => replayFenceRelease projectId attemptId digest

end SecurityStore

end Rdashboard
