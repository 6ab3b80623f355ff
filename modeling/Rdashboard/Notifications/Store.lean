import Rdashboard.Library.Check
import Rdashboard.Library.Transaction
import Rdashboard.Workflow.Identifiers

/-! # Notification events and their outbox

An event is enqueued once under its deduplication key, claimed under a lease and completed by the
holder of that lease.  A settled row stays in the table. -/

namespace Rdashboard

open Relational Txn

/-! ### Events -/

def notificationSchemaVersion : Nat := 1
def maxBrowserSafeTimestamp : Int := 9007199254740991

inductive NotificationKindV1 where
  | errorPriorityChanged | errorCollectionFailed | errorCollectionRecovered
  | dependencyUpdateChanged | dependencyChecksFailed | dependencyChecksRecovered
  | dependencyCollectionFailed | dependencyCollectionRecovered
  | operationStarted | operationSucceeded | operationFailed | backupVerified | backupFailed
  | deploySucceeded | deployRolledBack | deployFailed | sourceSignalLost | sourceRecovered
  | controllerFailed
deriving DecidableEq

structure NotificationDedupMaterial where
  schemaVersion : Nat
  projectId : ProjectId
  kind : NotificationKindV1
  eventKey : String
  occurrenceDigest : EvidenceDigest
deriving DecidableEq

structure NotificationEventV1 extends NotificationDedupMaterial where
  dedupKey : EvidenceDigest
  text : String
  createdAtMs : Int
deriving DecidableEq

inductive NotificationContractError where
  | invalidEvent
  | dedupMismatch

/-- `char::is_control`: the Unicode category `Cc`. -/
def isControl (c : Char) : Bool := c.toNat < 32 || (127 ≤ c.toNat && c.toNat ≤ 159)

def validEventKey (value : String) : Bool :=
  (1 ≤ value.utf8ByteSize && value.utf8ByteSize ≤ 128) && value.toList.all fun c =>
    isAsciiLowercase c || isAsciiDigit c || c = '.' || c = '_' || c = '-' || c = ':'

/-- A text that neither begins nor ends with whitespace is the one that `trim` leaves. -/
def validNotificationText (value : String) : Bool :=
  bounded (fun c => !isWhitespace c) value.toList && value.utf8ByteSize ≤ 3500 &&
    value.toList.all fun c => !isControl c || c = '\n'

def boundedToken (value : String) (maximumBytes : Nat) : Bool :=
  (1 ≤ value.utf8ByteSize && value.utf8ByteSize ≤ maximumBytes) &&
    value.toList.all fun c => isAsciiLowercase c || isAsciiDigit c || c = '_'

-- the digest of the canonical JSON of the material
variable (sha256 : NotificationDedupMaterial → EvidenceDigest)

def NotificationEventV1.validate (event : NotificationEventV1) :
    Except NotificationContractError Unit := do
  Check.ensure (event.schemaVersion = notificationSchemaVersion ∧ 0 ≤ event.createdAtMs ∧
    event.createdAtMs ≤ maxBrowserSafeTimestamp ∧ validEventKey event.eventKey = true ∧
    validNotificationText event.text = true) .invalidEvent
  Check.ensure (event.dedupKey = sha256 event.toNotificationDedupMaterial) .dedupMismatch

/-! ### The table -/

inductive NotificationDeliveryStateV1 where
  | pending | sending | deliveryUnknown | retryScheduled | delivered | deliveredPossibleDuplicate
  | permanentlyFailed
deriving DecidableEq

inductive NotificationRouteV1 where
  | telegramGateway
deriving DecidableEq

structure OutboxRow where
  dedupKey : EvidenceDigest
  projectId : ProjectId
  event : NotificationEventV1
  state : NotificationDeliveryStateV1
  attempts : Nat
  leaseId : Option Uuid
  leaseExpiresAtMs : Option Int
  retryAtMs : Int
  route : Option NotificationRouteV1
  providerMessageId : Option Uuid
  possibleDuplicate : Bool
  lastErrorCode : Option String
  createdAtMs : Int
  updatedAtMs : Int

def outboxSchema : Schema OutboxRow where
  check r := decide (0 ≤ r.retryAtMs ∧ 0 ≤ r.createdAtMs ∧ r.createdAtMs ≤ r.updatedAtMs ∧
    (r.state = .sending ↔ r.leaseId.isSome) ∧ (r.state = .sending ↔ r.leaseExpiresAtMs.isSome) ∧
    (r.attempts = 0 ↔ r.route = none) ∧ (r.state = .pending ↔ r.attempts = 0) ∧
    (r.state = .delivered ∨ r.state = .deliveredPossibleDuplicate → r.providerMessageId ≠ none) ∧
    (r.state = .deliveryUnknown → r.possibleDuplicate) ∧
    (r.state = .delivered → ¬ r.possibleDuplicate) ∧
    (r.state = .deliveredPossibleDuplicate → r.possibleDuplicate))
  distinct r s := decide (r.dedupKey ≠ s.dedupKey ∧
    (r.providerMessageId = none ∨ r.providerMessageId ≠ s.providerMessageId))

structure NotificationStore where
  outbox : Table outboxSchema := .empty

def outboxT : TableRef NotificationStore outboxSchema where
  get S := S.outbox
  set t _ := ⟨t⟩

inductive NotificationStoreError where
  | constraintViolation
  | queryReturnedNoRows
  | contract (error : NotificationContractError)
  | invalidTimestamp
  | invalidDuration
  | invalidErrorCode
  | dedupConflict
  | leaseMismatch
  | attemptRange
  | corruptBinding
  | corruptProjectBinding
  | providerMessageAlreadyBound
  | providerMessageMissing
  | backlogFull
  | invalidCapacity

instance : SqlError NotificationStoreError := ⟨.constraintViolation, .queryReturnedNoRows⟩

def maxOutboxRows : Nat := 4096
/-- Five minutes; a `Duration` is a number of nanoseconds. -/
def maxLease : Nat := 5 * 60 * 10 ^ 9
def maxRetry : Nat := 24 * 60 * 60 * 10 ^ 9

/-- The conversion to `i64` cannot fail below either maximum. -/
def boundedDurationMs (duration maximum : Nat) : Except NotificationStoreError Int := do
  Check.ensure (duration ≠ 0 ∧ duration ≤ maximum) .invalidDuration
  pure (duration / 10 ^ 6 : Nat)

def retryTimestamp (nowMs : Int) (duration : Nat) : Except NotificationStoreError Int := do
  let retryMs ← boundedDurationMs duration maxRetry
  Check.ensure (nowMs + retryMs ≤ i64Max) .invalidTimestamp
  pure (nowMs + retryMs)

def validateErrorCode (value : String) : Except NotificationStoreError Unit :=
  Check.ensure (boundedToken value 64 = true) .invalidErrorCode

/-! ### Enqueueing -/

def NotificationEventV1.pendingRow (event : NotificationEventV1) (nowMs : Int) : OutboxRow where
  dedupKey := event.dedupKey
  projectId := event.projectId
  event := event
  state := .pending
  attempts := 0
  leaseId := none
  leaseExpiresAtMs := none
  retryAtMs := nowMs
  route := none
  providerMessageId := none
  possibleDuplicate := false
  lastErrorCode := none
  createdAtMs := event.createdAtMs
  updatedAtMs := nowMs

inductive NotificationEnqueueResult where
  | inserted
  | duplicate

namespace NotificationStore

/-- One call on the store: its checks and its transaction. -/
abbrev Call := Txn NotificationStore NotificationStoreError

/-- Insert an event once; a full outbox refuses it, settled rows included. -/
def enqueueWithLimit (event : NotificationEventV1) (nowMs : Int) (maximumRows : Nat) :
    Call NotificationEnqueueResult := do
  lift ((event.validate sha256).mapError .contract)
  ensure (event.createdAtMs ≤ nowMs) .invalidTimestamp
  ensure (0 < maximumRows ∧ maximumRows ≤ maxOutboxRows) .invalidCapacity
  match ← read fun S => S.outbox.lookup (·.dedupKey) event.dedupKey with
  | some existing =>
    ensure (existing.event = event) .dedupConflict
    pure .duplicate
  | none =>
    let rowCount ← read fun S => S.outbox.rows.length
    ensure (rowCount < maximumRows) .backlogFull
    outboxT.insert (fun _ _ => true) (event.pendingRow nowMs)
    pure .inserted

def enqueue (event : NotificationEventV1) (nowMs : Int) :
    Call NotificationEnqueueResult :=
  enqueueWithLimit sha256 event nowMs maxOutboxRows

/-! ### Claims -/

structure NotificationClaimV1 where
  event : NotificationEventV1
  leaseId : Uuid
  attemptNumber : Nat
  leaseExpiresAtMs : Int
  providerMessageId : Option Uuid
  possibleDuplicate : Bool

def decodeEvent (expectedDedupKey : EvidenceDigest) (event : NotificationEventV1) :
    Except NotificationStoreError NotificationEventV1 := do
  (event.validate sha256).mapError .contract
  Check.ensure (event.dedupKey = expectedDedupKey) .corruptBinding
  pure event

/-- The rows a claim may take, in the order it takes them. -/
def claimable (S : NotificationStore) (nowMs : Int) : List OutboxRow :=
  (S.outbox.rows.filter fun r => decide (
    ((r.state = .pending ∨ r.state = .deliveryUnknown ∨ r.state = .retryScheduled) ∧
      r.retryAtMs ≤ nowMs) ∨
    (r.state = .sending ∧ r.leaseExpiresAtMs.any (· ≤ nowMs) = true))).insertionSort
    fun r s => r.createdAtMs < s.createdAtMs ∨
      (r.createdAtMs = s.createdAtMs ∧ r.dedupKey ≤ s.dedupKey)

/-- Lease the next row that is due. -/
def claimNext (nowMs : Int) (leaseDuration : Nat) (leaseId : FreshUuid) :
    Call (Option NotificationClaimV1) := do
  let leaseMs ← lift (boundedDurationMs leaseDuration maxLease)
  ensure (0 ≤ nowMs ∧ nowMs + leaseMs ≤ i64Max) .invalidTimestamp
  match ← read fun S => (S.claimable nowMs).head? with
  | none => pure none
  | some selected =>
    let event ← lift (decodeEvent sha256 selected.dedupKey selected.event)
    ensure (event.projectId = selected.projectId) .corruptProjectBinding
    ensure (selected.attempts + 1 < 2 ^ 32) .attemptRange
    let possibleDuplicate := selected.possibleDuplicate ||
      (selected.state = .sending && selected.providerMessageId.isNone)
    let _ ← outboxT.update (fun r => r.dedupKey = selected.dedupKey) fun r =>
      { r with
        state := .sending, attempts := selected.attempts + 1, leaseId := some leaseId.1
        leaseExpiresAtMs := some (nowMs + leaseMs), route := some .telegramGateway
        possibleDuplicate, lastErrorCode := none, updatedAtMs := nowMs }
    pure (some
      { event, leaseId := leaseId.1, attemptNumber := selected.attempts + 1
        leaseExpiresAtMs := nowMs + leaseMs
        providerMessageId := selected.providerMessageId, possibleDuplicate })

/-! ### Completions -/

/-- What the holder of a claim reports, with the time of the next attempt as a `Duration` in a call
and as a timestamp in the store. -/
inductive NotificationCompletion (τ : Type) where
  | gatewayAccepted (providerMessageId : Uuid) (retry : τ)
  | retryScheduled (errorCode : String) (retry : τ)
  | deliveryUnknown (errorCode : String) (retry : τ)
  | delivered
  | permanentFailure (errorCode : String)

variable (claim : NotificationClaimV1) (nowMs : Int)

/-- What a completion writes into `state`, `retry_at_ms`, `provider_message_id`,
`possible_duplicate` and `last_error_code`. -/
def NotificationCompletion.columns : NotificationCompletion Int →
    NotificationDeliveryStateV1 × Int × Option Uuid × Bool × Option String
  | .gatewayAccepted providerMessageId retryAtMs =>
    (.retryScheduled, retryAtMs, some providerMessageId, claim.possibleDuplicate,
      some "gateway_pending")
  | .retryScheduled errorCode retryAtMs =>
    (.retryScheduled, retryAtMs, claim.providerMessageId, claim.possibleDuplicate,
      some errorCode)
  | .deliveryUnknown errorCode retryAtMs =>
    (.deliveryUnknown, retryAtMs, none, true, some errorCode)
  | .delivered =>
    (if claim.possibleDuplicate then .deliveredPossibleDuplicate else .delivered, nowMs,
      claim.providerMessageId, claim.possibleDuplicate, none)
  | .permanentFailure errorCode =>
    (.permanentlyFailed, nowMs, claim.providerMessageId, claim.possibleDuplicate,
      some errorCode)

/-- Write the result of a claim, while its lease is the one of the row. -/
def completeClaim (completion : NotificationCompletion Int) : Call Unit := do
  lift ((claim.event.validate sha256).mapError .contract)
  ensure (claim.event.createdAtMs ≤ nowMs) .invalidTimestamp
  let (state, retryAtMs, providerMessageId, possibleDuplicate, lastErrorCode) :=
    completion.columns claim nowMs
  let changed ← outboxT.update
    (fun r => decide (r.dedupKey = claim.event.dedupKey ∧ r.state = .sending ∧
      r.leaseId = some claim.leaseId))
    fun r =>
      { r with
        state, leaseId := none, leaseExpiresAtMs := none, retryAtMs, providerMessageId
        possibleDuplicate, lastErrorCode, updatedAtMs := nowMs }
  ensure (changed = 1) .leaseMismatch

/-- The checks of `mark_gateway_accepted`, `mark_retry_scheduled`, `mark_delivery_unknown`,
`mark_delivered` and `mark_permanent_failure`. -/
def NotificationCompletion.requested : NotificationCompletion Nat →
    Except NotificationStoreError (NotificationCompletion Int)
  | .gatewayAccepted providerMessageId pollAfter => do
    Check.ensure (claim.providerMessageId = none) .providerMessageAlreadyBound
    return .gatewayAccepted providerMessageId (← retryTimestamp nowMs pollAfter)
  | .retryScheduled errorCode retryAfter => do
    validateErrorCode errorCode
    return .retryScheduled errorCode (← retryTimestamp nowMs retryAfter)
  | .deliveryUnknown errorCode retryAfter => do
    Check.ensure (claim.providerMessageId = none) .providerMessageAlreadyBound
    validateErrorCode errorCode
    return .deliveryUnknown errorCode (← retryTimestamp nowMs retryAfter)
  | .delivered => do
    Check.ensure (claim.providerMessageId ≠ none) .providerMessageMissing
    return .delivered
  | .permanentFailure errorCode => do
    validateErrorCode errorCode
    return .permanentFailure errorCode

/-- The five `mark_*` calls. -/
def mark (request : NotificationCompletion Nat) : Call Unit := do
  completeClaim sha256 claim nowMs (← lift (request.requested claim nowMs))

/-! ### Runs -/

inductive Operation where
  | enqueue (event : NotificationEventV1) (nowMs : Int)
  | claimNext (nowMs : Int) (leaseDuration : Nat) (leaseId : FreshUuid)
  | mark (claim : NotificationClaimV1) (nowMs : Int) (request : NotificationCompletion Nat)

def call : Operation → Call Unit
  | .enqueue event t => discard (enqueue sha256 event t)
  | .claimNext t lease id => discard (claimNext sha256 t lease id)
  | .mark claim t request => mark sha256 claim t request

def step (op : Operation) : NotificationStore → NotificationStore :=
  (Session.immediateTransaction (call sha256 op)).final

end NotificationStore

end Rdashboard
