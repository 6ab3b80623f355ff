import Rdashboard.Security.Store
import Rdashboard.Authorization.Grants
import Rdashboard.Authorization.Intents

/-! # The ledger of intents and grants

The two tables in which the security store records the intents that were prepared and the grants
that were spent, with their CHECK, PRIMARY KEY, UNIQUE and FOREIGN KEY clauses, and the three
operations that write them. -/

namespace Rdashboard

open Relational Session Txn Check
variable {L : IntentLedger}

/-- The errors of `StoreError` that intents, grants and their readers raise. -/
inductive IntentStoreError where
  | constraintViolation
  | queryReturnedNoRows
  | invalidControllerInput (message : String)
  | corruptSecurityJournal (field : String)
  | operationContract
  | executorActionGrantRange
  | executorActionGrantReplay
  | executorActionGrantExpired
  | executorIntentRange
  | executorIntentConflict
  | executorIntentExpired
  | executorIntentMissing
  | executorIntentGrantBinding
  | executorIntentConsumed
  | executorIntentNotCurrent
  | executorIntentRole
  | security (error : SecurityError)

instance : SqlError IntentStoreError := ⟨.constraintViolation, .queryReturnedNoRows⟩

/-! ### Tables -/

/-- The `state` column of an intent. -/
inductive IntentState where
  | prepared
  | consumed
deriving DecidableEq

/-- A row of `executor_operation_intents`: the claims of the intent, its digest and token, and
what became of it. -/
structure ExecutorIntentRow extends ExecutorIntentClaimsV1 where
  intentDigest : EvidenceDigest
  compactToken : String
  preparedAtMs : Int
  state : IntentState
  attemptId : Option Uuid
  actionGrantNonce : Option Uuid
  actionGrantDigest : Option EvidenceDigest
  consumedAtMs : Option Int
deriving DecidableEq

/-- A row of `executor_action_grants`: the claims of the grant, its digest, and who spent it
when. -/
structure ActionGrantRow extends ActionGrantClaimsV1 where
  grantDigest : EvidenceDigest
  attemptId : Uuid
  consumedAtMs : Int

/-- Two values of a nullable UNIQUE column do not collide. -/
def unlessEqual {α : Type} [DecidableEq α] (a b : Option α) : Bool := a.isNone || a ≠ b

theorem unlessEqual_symm {α : Type} [DecidableEq α] {a b : Option α}
    (h : unlessEqual a b = true) : unlessEqual b a = true := by
  unfold unlessEqual at h ⊢
  cases a with
  | none => cases b <;> simp
  | some a =>
    simp only [Option.isNone_some, Bool.false_or, decide_not, Bool.not_eq_true',
      decide_eq_false_iff_not] at h
    simp [Ne.symm h]

/-- The CHECK clause on the columns that consumption fills. -/
def ExecutorIntentRow.stateChecked (r : ExecutorIntentRow) : Bool :=
  match r.state with
  | .prepared => r.attemptId.isNone && r.actionGrantNonce.isNone && r.actionGrantDigest.isNone &&
      r.consumedAtMs.isNone
  | .consumed => r.attemptId.isSome && r.actionGrantNonce.isSome && r.actionGrantDigest.isSome &&
      r.consumedAtMs.isSome

def intentSchema : Schema ExecutorIntentRow where
  check r := (r.schemaVersion = 1 || r.schemaVersion = 2) && r.sourceSequence.all (0 < ·) &&
    0 < r.keyEpoch && 0 ≤ r.issuedAtMs &&
    r.sourceAttestationDigest.isNone = r.sourceSequence.isNone &&
    r.issuedAtMs ≤ r.notBeforeMs && r.notBeforeMs < r.expiresAtMs &&
    r.notBeforeMs ≤ r.preparedAtMs && r.preparedAtMs < r.expiresAtMs && r.stateChecked
  distinct r s := decide (r.intentId ≠ s.intentId ∧ r.intentDigest ≠ s.intentDigest ∧
    r.requestId ≠ s.requestId ∧ r.compactToken ≠ s.compactToken ∧
    unlessEqual r.attemptId s.attemptId = true ∧
    unlessEqual r.actionGrantNonce s.actionGrantNonce = true)
  distinct_symm := by
    simp only [decide_eq_true_eq]
    exact fun _ _ h => ⟨h.1.symm, h.2.1.symm, h.2.2.1.symm, h.2.2.2.1.symm,
      unlessEqual_symm h.2.2.2.2.1, unlessEqual_symm h.2.2.2.2.2⟩

def actionGrantSchema : Schema ActionGrantRow where
  check r := r.schemaVersion = 1 && 0 < r.leaseGeneration && 0 < r.keyEpoch && 0 ≤ r.issuedAtMs &&
    r.issuedAtMs ≤ r.notBeforeMs && r.notBeforeMs < r.expiresAtMs &&
    r.notBeforeMs ≤ r.consumedAtMs && r.consumedAtMs < r.expiresAtMs
  distinct r s := decide (r.nonce ≠ s.nonce ∧ r.grantDigest ≠ s.grantDigest)

structure IntentLedger where
  intents : Table intentSchema
  grants : Table actionGrantSchema

namespace IntentLedger

/-- A new ledger. -/
def empty : IntentLedger := ⟨Table.empty, Table.empty⟩

def intentsT : TableRef IntentLedger intentSchema := ⟨intents, fun t L => { L with intents := t }⟩

def grantsT : TableRef IntentLedger actionGrantSchema := ⟨grants, fun t L => { L with grants := t }⟩

/-- The FOREIGN KEY of an intent: the grant that consumed it. -/
def intentForeign (L : IntentLedger) (r : ExecutorIntentRow) : Bool :=
  r.actionGrantNonce.all fun nonce => (L.grants.lookup (·.nonce) nonce).isSome

/-- The row of an intent. -/
def intent (L : IntentLedger) (intentId : Uuid) : Option ExecutorIntentRow :=
  L.intents.lookup (·.intentId) intentId

/-- The row of a grant. -/
def grant (L : IntentLedger) (nonce : Uuid) : Option ActionGrantRow :=
  L.grants.lookup (·.nonce) nonce

end IntentLedger

theorem intentSchema_separates_intentId :
    intentSchema.Separates (fun r : ExecutorIntentRow => r.intentId) :=
  fun _ _ h => (decide_eq_true_eq.mp h).1

theorem actionGrantSchema_separates_nonce :
    actionGrantSchema.Separates (fun r : ActionGrantRow => r.nonce) :=
  fun _ _ h => (decide_eq_true_eq.mp h).1

theorem actionGrantSchema_separates_digest :
    actionGrantSchema.Separates (fun r : ActionGrantRow => r.grantDigest) :=
  fun _ _ h => (decide_eq_true_eq.mp h).2

theorem IntentLedger.intent_eq_some_iff {intentId : Uuid} {r : ExecutorIntentRow} :
    L.intent intentId = some r ↔ r ∈ L.intents.rows ∧ r.intentId = intentId :=
  Table.lookup_eq_some_iff intentSchema_separates_intentId

theorem IntentLedger.grant_eq_some_iff {nonce : Uuid} {g : ActionGrantRow} :
    L.grant nonce = some g ↔ g ∈ L.grants.rows ∧ g.nonce = nonce :=
  Table.lookup_eq_some_iff actionGrantSchema_separates_nonce

/-! ### Preparing an intent -/

inductive ExecutorIntentPersistenceV1 where
  | prepared
  | alreadyPrepared

inductive ActionGrantConsumptionV1 where
  | consumed
  | alreadyConsumed

variable (intent : SignedExecutorIntentV1) (preparedAtMs : Int)

/-- Does the row share one of the identities of a signed intent? -/
def SignedExecutorIntentV1.sharesIdentity (r : ExecutorIntentRow) : Bool :=
  r.intentId = intent.claims.intentId || r.intentDigest = intent.digest ||
    r.requestId = intent.claims.requestId || r.compactToken = intent.compact

/-- Does the row have all the identities of a signed intent? -/
def SignedExecutorIntentV1.sameIdentity (r : ExecutorIntentRow) : Bool :=
  r.intentId = intent.claims.intentId && r.intentDigest = intent.digest &&
    r.requestId = intent.claims.requestId && r.compactToken = intent.compact

/-- The row of a prepared intent. -/
def SignedExecutorIntentV1.row : ExecutorIntentRow :=
  { intent.claims with
    intentDigest := intent.digest
    compactToken := intent.compact
    preparedAtMs
    state := .prepared
    attemptId := none
    actionGrantNonce := none
    actionGrantDigest := none
    consumedAtMs := none }

/-- The rows that match a signed intent, and those that match it exactly. -/
def IntentLedger.matching (L : IntentLedger) (intent : SignedExecutorIntentV1) : Nat × Nat :=
  (L.intents.count intent.sharesIdentity, L.intents.count intent.sameIdentity)

/-- The transaction of `persist_signed_executor_intent`. -/
def persistIntent : Txn IntentLedger IntentStoreError ExecutorIntentPersistenceV1 := do
  ensure ((intent.claims.keyEpoch : Int) ≤ i64Max ∧
    intent.claims.sourceSequence.all (fun value => (value : Int) ≤ i64Max) = true)
    .executorIntentRange
  let found ← read fun L => L.matching intent
  if found = (1, 1) then
    pure .alreadyPrepared
  else do
    ensure (found.1 = 0) .executorIntentConflict
    IntentLedger.intentsT.insert IntentLedger.intentForeign (intent.row preparedAtMs)
    pure .prepared

def persistSignedExecutorIntent :
    Session IntentLedger IntentStoreError ExecutorIntentPersistenceV1 := do
  ensure (0 ≤ preparedAtMs)
    (.invalidControllerInput "executor-intent preparation time is invalid")
  ensure (intent.claims.notBeforeMs ≤ preparedAtMs ∧ preparedAtMs < intent.claims.expiresAtMs)
    .executorIntentExpired
  immediateTransaction (persistIntent intent preparedAtMs)

/-! ### Spending a grant -/

/-- The row of a spent grant. -/
def ActionGrantClaimsV1.row (claims : ActionGrantClaimsV1) (digest : EvidenceDigest)
    (attemptId : Uuid) (consumedAtMs : Int) : ActionGrantRow :=
  { claims with grantDigest := digest, attemptId, consumedAtMs }

/-- The integers of a grant that the journal can store. -/
def ActionGrantClaimsV1.InRange (claims : ActionGrantClaimsV1) : Prop :=
  (claims.leaseGeneration : Int) ≤ i64Max ∧ (claims.keyEpoch : Int) ≤ i64Max

instance (claims : ActionGrantClaimsV1) : Decidable claims.InRange :=
  inferInstanceAs (Decidable (_ ∧ _))

/-- The transaction of `consume_verified_action_grant`. -/
def consumeGrant (grant : VerifiedActionGrantV1) (attemptId : Uuid) (consumedAtMs : Int) :
    Txn IntentLedger IntentStoreError ActionGrantConsumptionV1 := do
  let existing ← read fun L => L.grant grant.claims.nonce
  match existing with
  | some stored => do
    ensure (stored.grantDigest = grant.digest ∧ stored.attemptId = attemptId)
      .executorActionGrantReplay
    pure .alreadyConsumed
  | none => do
    ensure (grant.claims.notBeforeMs ≤ consumedAtMs ∧ consumedAtMs < grant.claims.expiresAtMs)
      .executorActionGrantExpired
    IntentLedger.grantsT.insert (fun _ _ => true)
      (grant.claims.row grant.digest attemptId consumedAtMs)
    pure .consumed

def consumeVerifiedActionGrant (grant : VerifiedActionGrantV1) (attemptId : Uuid)
    (consumedAtMs : Int) : Session IntentLedger IntentStoreError ActionGrantConsumptionV1 := do
  ensure (attemptId.isNil = false ∧ 0 ≤ consumedAtMs)
    (.invalidControllerInput "action-grant consumption identity or time is invalid")
  ensure grant.claims.InRange .executorActionGrantRange
  immediateTransaction (consumeGrant grant attemptId consumedAtMs)

/-! ### Consuming a prepared intent -/

/-- What `validate_prepared_intent_grant_binding` checks of a prepared intent. -/
def ExecutorIntentRow.validateCurrent (binding : ExecutorIntentRow) (claims : ActionGrantClaimsV1)
    (consumedAtMs : Int) : Except IntentStoreError Unit := do
  ensure (binding.notBeforeMs ≤ consumedAtMs ∧ binding.preparedAtMs ≤ consumedAtMs)
    .executorIntentNotCurrent
  ensure (consumedAtMs < binding.expiresAtMs ∧ claims.notBeforeMs ≤ consumedAtMs ∧
    consumedAtMs < claims.expiresAtMs) .executorIntentExpired
  ensure (binding.minimumRole = .admin → claims.role = .admin) .executorIntentRole

/-- `validate_prepared_intent_grant_binding`; `some` is the answer to an exact replay. -/
def ExecutorIntentRow.validateGrantBinding (binding : ExecutorIntentRow)
    (grant : AuthenticatedActionGrantV1) (attemptId : Uuid) (consumedAtMs : Int) :
    Except IntentStoreError (Option ActionGrantConsumptionV1) := do
  ensure (binding.intentDigest = grant.claims.intentDigest ∧
    binding.requestId = grant.claims.requestId ∧
    binding.installedPolicyDigest = grant.claims.installedPolicyDigest) .executorIntentGrantBinding
  match binding.state with
  | .consumed => do
    ensure (binding.attemptId = some attemptId ∧
      binding.actionGrantNonce = some grant.claims.nonce ∧
      binding.actionGrantDigest = some grant.digest) .executorIntentConsumed
    pure (some .alreadyConsumed)
  | .prepared => do
    binding.validateCurrent grant.claims consumedAtMs
    pure none

/-- Is the nonce or the digest of a grant already spent? -/
def IntentLedger.spent (L : IntentLedger) (grant : AuthenticatedActionGrantV1) : Bool :=
  L.grants.rows.any fun r => r.nonce = grant.claims.nonce || r.grantDigest = grant.digest

/-- The columns that consumption fills. -/
def ExecutorIntentRow.consume (r : ExecutorIntentRow) (grant : AuthenticatedActionGrantV1)
    (attemptId : Uuid) (consumedAtMs : Int) : ExecutorIntentRow :=
  { r with
    state := .consumed
    attemptId := some attemptId
    actionGrantNonce := some grant.claims.nonce
    actionGrantDigest := some grant.digest
    consumedAtMs := some consumedAtMs }

variable (intentId : Uuid) (grant : AuthenticatedActionGrantV1) (attemptId : Uuid)
  (consumedAtMs : Int)

def markPreparedIntentConsumed : Txn IntentLedger IntentStoreError Unit := do
  let updated ← IntentLedger.intentsT.update
    (fun r => r.intentId = intentId && r.state = .prepared)
    (fun r => r.consume grant attemptId consumedAtMs)
  ensure (updated = 1) .executorIntentConsumed

/-- The part of `consume_prepared_intent_grant` that follows a binding that was not replayed. -/
def spendPreparedIntent : Txn IntentLedger IntentStoreError ActionGrantConsumptionV1 := do
  let spent ← read fun L => L.spent grant
  ensure (spent = false) .executorActionGrantReplay
  IntentLedger.grantsT.insert (fun _ _ => true)
    (grant.claims.row grant.digest attemptId consumedAtMs)
  markPreparedIntentConsumed intentId grant attemptId consumedAtMs
  pure .consumed

def consumePreparedIntentGrant : Txn IntentLedger IntentStoreError ActionGrantConsumptionV1 := do
  let stored ← read fun L => L.intent intentId
  let binding ← require stored .executorIntentMissing
  let replay ← lift (binding.validateGrantBinding grant attemptId consumedAtMs)
  match replay with
  | some answer => pure answer
  | none => spendPreparedIntent intentId grant attemptId consumedAtMs

def consumePreparedIntentActionGrant :
    Session IntentLedger IntentStoreError ActionGrantConsumptionV1 := do
  ensure (intentId.isNil = false ∧ attemptId.isNil = false ∧ 0 ≤ consumedAtMs)
    (.invalidControllerInput "prepared-intent grant consumption identity or time is invalid")
  ensure (grant.claims.intentId = intentId) .executorIntentGrantBinding
  ensure grant.claims.InRange .executorActionGrantRange
  immediateTransaction (consumePreparedIntentGrant intentId grant attemptId consumedAtMs)

end Rdashboard
