import Rdashboard.Authorization.Effects

/-! # Grants and intents are spent once

Every run of the three operations on the ledger is a sequence of calls, since each of them is one
transaction.  A call that succeeds either finds in the ledger exactly what it asks for, and
changes nothing, or it records something new that no recorded identity collides with; this
inversion (`LedgerCall.run_ok`) carries the invariant of the ledger, and with it the decoder of
accepted mutations, which checks every row again under rules of its own. -/

namespace Rdashboard

open Relational Table List IntentLedger Check
variable {L L' : IntentLedger} {intentId attemptId : Uuid} {consumedAtMs : Int}
  {g : ActionGrantRow} {e : IntentStoreError} {S : SecurityStore}

/-! ### Calls -/

inductive LedgerCall where
  | persist (intent : SignedExecutorIntentV1) (preparedAtMs : Int)
  | consumeVerified (grant : VerifiedActionGrantV1) (attemptId : Uuid) (consumedAtMs : Int)
  | consumePrepared (intentId : Uuid) (grant : AuthenticatedActionGrantV1) (attemptId : Uuid)
      (consumedAtMs : Int)

inductive LedgerAnswer where
  | persistence (answer : ExecutorIntentPersistenceV1)
  | consumption (answer : ActionGrantConsumptionV1)

namespace LedgerCall

/-- The answer of a call, and the ledger that it leaves. -/
def run : LedgerCall → IntentLedger → Except IntentStoreError LedgerAnswer × IntentLedger
  | .persist intent preparedAtMs, L =>
    ((persistSignedExecutorIntent intent preparedAtMs L).1.map .persistence,
      (persistSignedExecutorIntent intent preparedAtMs L).2)
  | .consumeVerified grant attemptId consumedAtMs, L =>
    ((consumeVerifiedActionGrant grant attemptId consumedAtMs L).1.map .consumption,
      (consumeVerifiedActionGrant grant attemptId consumedAtMs L).2)
  | .consumePrepared intentId grant attemptId consumedAtMs, L =>
    ((consumePreparedIntentActionGrant intentId grant attemptId consumedAtMs L).1.map .consumption,
      (consumePreparedIntentActionGrant intentId grant attemptId consumedAtMs L).2)

/-- The ledger that a call leaves. -/
def step (c : LedgerCall) (L : IntentLedger) : IntentLedger := (c.run L).2

/-- The intent was issued by a signer, or the grant accepted by a verifier. -/
def Authentic (grantCodec : TokenCodec ActionGrantClaimsV1)
    (intentCodec : TokenCodec ExecutorIntentClaimsV1) : LedgerCall → Prop
  | .persist intent _ => ∃ (signer : ExecutorIntentSignerV1 intentCodec) (input : _),
      signer.issue input = .ok intent
  | .consumeVerified grant _ _ => ∃ (verifier : ActionGrantVerifierV1 grantCodec) (token : _)
      (expected : _) (nowMs : _), verifier.verify token expected nowMs = .ok grant
  | .consumePrepared _ grant _ _ => ∃ (verifier : ActionGrantVerifierV1 grantCodec) (token : _)
      (nowMs : _), verifier.authenticateForPersistedIntent token nowMs = .ok grant

/-- The answer to a call that finds its work done. -/
def already : LedgerCall → LedgerAnswer
  | .persist _ _ => .persistence .alreadyPrepared
  | .consumeVerified _ _ _ | .consumePrepared _ _ _ _ => .consumption .alreadyConsumed

/-- The call uses an identity that the ledger has recorded: one of those of a prepared intent, the
nonce or the digest of a spent grant, or a consumed intent. -/
def Reuses (L : IntentLedger) : LedgerCall → Prop
  | .persist intent _ => ∃ r ∈ L.intents.rows, intent.sharesIdentity r = true
  | .consumeVerified grant _ _ => ∃ g ∈ L.grants.rows,
      g.nonce = grant.claims.nonce ∨ g.grantDigest = grant.digest
  | .consumePrepared intentId grant _ _ =>
    (∃ r ∈ L.intents.rows, r.intentId = intentId ∧ r.state = .consumed) ∨
      ∃ g ∈ L.grants.rows, g.nonce = grant.claims.nonce ∨ g.grantDigest = grant.digest

/-- The ledger holds exactly what the call asks for. -/
def Repeats (L : IntentLedger) : LedgerCall → Prop
  | .persist intent _ => ∃ r ∈ L.intents.rows, intent.sameIdentity r = true
  | .consumeVerified grant attemptId _ => ∃ g ∈ L.grants.rows,
      g.nonce = grant.claims.nonce ∧ g.grantDigest = grant.digest ∧ g.attemptId = attemptId
  | .consumePrepared intentId grant attemptId _ => ∃ r ∈ L.intents.rows, r.intentId = intentId ∧
      r.Bound grant.claims ∧ r.state = .consumed ∧ r.attemptId = some attemptId ∧
      r.actionGrantNonce = some grant.claims.nonce ∧ r.actionGrantDigest = some grant.digest

/-- The checks that a call makes before it looks at the ledger. -/
def Admissible : LedgerCall → Prop
  | .persist intent preparedAtMs =>
    (0 ≤ preparedAtMs ∧ intent.claims.notBeforeMs ≤ preparedAtMs ∧
      preparedAtMs < intent.claims.expiresAtMs) ∧
    (intent.claims.keyEpoch : Int) ≤ i64Max ∧
    intent.claims.sourceSequence.all (fun value => (value : Int) ≤ i64Max) = true
  | .consumeVerified grant attemptId consumedAtMs =>
    (attemptId.isNil = false ∧ 0 ≤ consumedAtMs) ∧ grant.claims.InRange
  | .consumePrepared intentId grant attemptId consumedAtMs =>
    (intentId.isNil = false ∧ attemptId.isNil = false ∧ 0 ≤ consumedAtMs) ∧
      grant.claims.intentId = intentId ∧ grant.claims.InRange

end LedgerCall

/-! ### What the ledger keeps -/

/-- The grant that consumed an intent: both rows name each other, and the time and the role are
those that both allow. -/
structure ExecutorIntentRow.ConsumedBy (r : ExecutorIntentRow) (g : ActionGrantRow) : Prop where
  attemptId : r.attemptId = some g.attemptId
  nonce : r.actionGrantNonce = some g.nonce
  digest : r.actionGrantDigest = some g.grantDigest
  consumedAtMs : r.consumedAtMs = some g.consumedAtMs
  intentId : r.intentId = g.intentId
  bound : r.Bound g.toActionGrantClaimsV1
  current : r.Current g.toActionGrantClaimsV1 g.consumedAtMs

/-- Every recorded use is the only one of its kind, and was allowed when it was made. -/
structure IntentLedger.SpentOnce (L : IntentLedger) : Prop where
  nonce : ∀ g ∈ L.grants.rows, ∀ g' ∈ L.grants.rows, g.nonce = g'.nonce → g = g'
  digest : ∀ g ∈ L.grants.rows, ∀ g' ∈ L.grants.rows, g.grantDigest = g'.grantDigest → g = g'
  intent : ∀ r ∈ L.intents.rows, ∀ r' ∈ L.intents.rows, r.intentId = r'.intentId → r = r'
  consumption : ∀ r ∈ L.intents.rows, ∀ r' ∈ L.intents.rows, r.state = .consumed →
    r.attemptId = r'.attemptId ∨ r.actionGrantNonce = r'.actionGrantNonce → r = r'
  window : ∀ g ∈ L.grants.rows, g.notBeforeMs ≤ g.consumedAtMs ∧ g.consumedAtMs < g.expiresAtMs
  consumed : ∀ r ∈ L.intents.rows, r.state = .consumed → ∃ g ∈ L.grants.rows, r.ConsumedBy g

/-- A later ledger has every spent grant and every consumed intent as they were, and the
identities of every prepared intent. -/
structure IntentLedger.KeptBy (L L' : IntentLedger) : Prop where
  grants : ∀ g ∈ L.grants.rows, g ∈ L'.grants.rows
  consumed : ∀ r ∈ L.intents.rows, r.state = .consumed → r ∈ L'.intents.rows
  prepared : ∀ r ∈ L.intents.rows, ∃ r' ∈ L'.intents.rows,
    r'.toExecutorIntentClaimsV1 = r.toExecutorIntentClaimsV1 ∧ r'.intentDigest = r.intentDigest ∧
      r'.compactToken = r.compactToken

theorem IntentLedger.KeptBy.refl (L : IntentLedger) : L.KeptBy L :=
  ⟨fun _ h => h, fun _ h _ => h, fun r h => ⟨r, h, rfl, rfl, rfl⟩⟩

theorem IntentLedger.KeptBy.trans {L₁ L₂ L₃ : IntentLedger} (h₁ : L₁.KeptBy L₂)
    (h₂ : L₂.KeptBy L₃) : L₁.KeptBy L₃ where
  grants g hg := h₂.grants g (h₁.grants g hg)
  consumed r hr hstate := h₂.consumed r (h₁.consumed r hr hstate) hstate
  prepared r hr := by
    obtain ⟨r₂, hr₂, hclaims₂, hdigest₂, hcompact₂⟩ := h₁.prepared r hr
    obtain ⟨r₃, hr₃, hclaims₃, hdigest₃, hcompact₃⟩ := h₂.prepared r₂ hr₂
    exact ⟨r₃, hr₃, hclaims₃.trans hclaims₂, hdigest₃.trans hdigest₂, hcompact₃.trans hcompact₂⟩

/-! ### One call -/

/-- What a call records when it does not find its work done. -/
inductive IntentLedger.Records (L : IntentLedger) : IntentLedger → Prop where
  | prepare {intent : SignedExecutorIntentV1} {preparedAtMs : Int} {intents : Table intentSchema}
      (issued : intent.Issued) (inserted : L.intents.insert (intent.row preparedAtMs) = some intents) :
      L.Records { L with intents }
  | spend {claims : ActionGrantClaimsV1} {digest : EvidenceDigest} {attemptId : Uuid}
      {consumedAtMs : Int} {grants : Table actionGrantSchema} (identified : claims.Identified)
      (attempt : attemptId.isNil = false)
      (inserted : L.grants.insert (claims.row digest attemptId consumedAtMs) = some grants) :
      L.Records { L with grants }
  | consume {L' : IntentLedger} {grant : AuthenticatedActionGrantV1} {attemptId : Uuid}
      {consumedAtMs : Int} {binding : ExecutorIntentRow} (identified : grant.claims.Identified)
      (attempt : attemptId.isNil = false)
      (found : L.intent grant.claims.intentId = some binding) (bound : binding.Bound grant.claims)
      (prepared : binding.state = .prepared)
      (current : binding.Current grant.claims consumedAtMs)
      (spends : L.Spends L' grant.claims.intentId grant attemptId consumedAtMs) : L.Records L'

/-- The rows of the intents after one of them was consumed. -/
theorem IntentLedger.Spends.mem_intents {grant : AuthenticatedActionGrantV1}
    (h : L.Spends L' intentId grant attemptId consumedAtMs) {r' : ExecutorIntentRow} :
    r' ∈ L'.intents.rows ↔ ∃ r ∈ L.intents.rows,
      (r.intentId = intentId ∧ r.state = .prepared ∧ r' = r.consume grant attemptId consumedAtMs) ∨
      (¬ (r.intentId = intentId ∧ r.state = .prepared) ∧ r' = r) := by
  rw [rows_update h.intents, mem_map]
  refine exists_congr fun r => and_congr_right fun _ => ?_
  by_cases hr : r.intentId = intentId ∧ r.state = .prepared
  · rw [assign_of_pos _ (by simp [hr])]
    constructor
    · rintro rfl
      exact .inl ⟨hr.1, hr.2, rfl⟩
    · rintro (⟨-, -, rfl⟩ | ⟨hne, -⟩)
      · rfl
      · exact absurd hr hne
  · rw [assign_of_neg _ (by simpa using hr)]
    constructor
    · rintro rfl
      exact .inr ⟨hr, rfl⟩
    · rintro (⟨hid, hstate, -⟩ | ⟨-, rfl⟩)
      · exact absurd ⟨hid, hstate⟩ hr
      · rfl

theorem IntentLedger.Spends.mem_grants {grant : AuthenticatedActionGrantV1}
    (h : L.Spends L' intentId grant attemptId consumedAtMs) :
    g ∈ L'.grants.rows ↔
      g ∈ L.grants.rows ∨ g = grant.claims.row grant.digest attemptId consumedAtMs := by
  rw [rows_insert h.grants, mem_append, mem_singleton]

namespace LedgerCall

variable {grantCodec : TokenCodec ActionGrantClaimsV1}
  {intentCodec : TokenCodec ExecutorIntentClaimsV1} {c : LedgerCall} {a : LedgerAnswer}
variable {verifier : ActionGrantVerifierV1 grantCodec} {answer : ActionGrantConsumptionV1}

/-- What a successful call did. -/
structure Done (c : LedgerCall) (L : IntentLedger) (a : LedgerAnswer) (L' : IntentLedger) : Prop where
  admissible : c.Admissible
  repeats : c.Repeats L'
  effect : (a = c.already ∧ L' = L) ∨ (L.Records L' ∧ ¬ c.Reuses L)

theorem persist_done (hbase64 : intentCodec.SizedBase64)
    {signer : ExecutorIntentSignerV1 intentCodec} {input : ExecutorIntentIssueInputV1}
    {intent : SignedExecutorIntentV1} {preparedAtMs : Int} {answer : ExecutorIntentPersistenceV1}
    (hissue : signer.issue input = .ok intent)
    (h : persistSignedExecutorIntent intent preparedAtMs L = (.ok answer, L')) :
    Done (.persist intent preparedAtMs) L (.persistence answer) L' := by
  obtain ⟨htime, h⟩ := persistSignedExecutorIntent_ok_iff.mp h
  simp only [persistIntent, Txn.ok_iff, Txn.ite_ok_iff, TableRef.insert_ok_iff] at h
  obtain ⟨_, hrange, _, rfl, ⟨hmatching, rfl, rfl⟩ |
    ⟨-, _, hnone, _, _, ⟨-, intents, hinsert, rfl⟩, rfl, rfl⟩⟩ := h
  · exact ⟨⟨htime, hrange⟩, matching_eq_one_iff.mp hmatching, .inl ⟨rfl, rfl⟩⟩
  · refine ⟨⟨htime, hrange⟩, ⟨intent.row preparedAtMs, mem_insert_self hinsert, ?_⟩,
      .inr ⟨.prepare (ExecutorIntentSignerV1.issued hbase64 hissue) hinsert, ?_⟩⟩
    · simp [SignedExecutorIntentV1.sameIdentity, SignedExecutorIntentV1.row]
    · rintro ⟨r, hr, hshares⟩
      exact count_eq_zero_iff.mp hnone r hr hshares

theorem consumeVerified_done {token : String}
    {expected : ActionGrantExpectedBindingV1} {nowMs : Int} {grant : VerifiedActionGrantV1}
    (hverify : verifier.verify token expected nowMs = .ok grant)
    (h : consumeVerifiedActionGrant grant attemptId consumedAtMs L = (.ok answer, L')) :
    Done (.consumeVerified grant attemptId consumedAtMs) L (.consumption answer) L' := by
  obtain ⟨hinput, h⟩ := consumeVerifiedActionGrant_ok_iff.mp h
  simp only [consumeGrant, Txn.ok_iff] at h
  obtain ⟨_, rfl, h⟩ := h
  cases hstored : L.grant grant.claims.nonce with
  | some stored =>
    simp only [hstored, Txn.ok_iff] at h
    obtain ⟨_, ⟨hdigest, hattempt⟩, rfl, rfl⟩ := h
    obtain ⟨hmem, hnonce⟩ := grant_eq_some_iff.mp hstored
    exact ⟨hinput, ⟨stored, hmem, hnonce, hdigest, hattempt⟩, .inl ⟨rfl, rfl⟩⟩
  | none =>
    simp only [hstored, Txn.ok_iff, TableRef.insert_ok_iff] at h
    obtain ⟨_, -, _, _, ⟨-, grants, hinsert, rfl⟩, rfl, rfl⟩ := h
    simp only [ActionGrantVerifierV1.verify, Check.ok_iff] at hverify
    obtain ⟨_, -, _, hauthenticated, _, -, rfl⟩ := hverify
    refine ⟨hinput, ⟨_, mem_insert_self hinsert, rfl, rfl, rfl⟩,
      .inr ⟨.spend (AuthenticatedActionGrantV1.identified hauthenticated) hinput.1.1 hinsert, ?_⟩⟩
    rintro ⟨g, hg, hnonce | hdigest⟩
    · exact lookup_eq_none_iff.mp
        (insert_fresh actionGrantSchema_separates_nonce hinsert) g hg hnonce
    · exact lookup_eq_none_iff.mp
        (insert_fresh actionGrantSchema_separates_digest hinsert) g hg hdigest

theorem consumePrepared_done {token : String} {nowMs : Int} {grant : AuthenticatedActionGrantV1}
    (hauthenticate : verifier.authenticateForPersistedIntent token nowMs = .ok grant)
    (h : consumePreparedIntentActionGrant intentId grant attemptId consumedAtMs L =
      (.ok answer, L')) :
    Done (.consumePrepared intentId grant attemptId consumedAtMs) L (.consumption answer) L' := by
  obtain ⟨hinput, h⟩ := consumePreparedIntentActionGrant_ok_iff.mp h
  obtain ⟨binding, hbinding, hbound, heffect⟩ := consumePreparedIntentGrant_ok h
  obtain ⟨hmem, hid⟩ := intent_eq_some_iff.mp hbinding
  rcases heffect with ⟨rfl, rfl, hconsumed⟩ | ⟨-, hprepared, hcurrent, hspends⟩
  · exact ⟨hinput, ⟨binding, hmem, hid, hbound, hconsumed⟩, .inl ⟨rfl, rfl⟩⟩
  · have hattempt := hinput.1.2.1
    have hintent := hinput.2.1
    refine ⟨hinput, ⟨binding.consume grant attemptId consumedAtMs, ?_, hid,
      ⟨hbound.intentDigest, hbound.requestId, hbound.policy⟩, rfl, rfl, rfl, rfl⟩,
      .inr ⟨.consume (AuthenticatedActionGrantV1.identified hauthenticate) hattempt
        (hintent ▸ hbinding) hbound hprepared hcurrent (hintent ▸ hspends), ?_⟩⟩
    · exact hspends.mem_intents.mpr ⟨binding, hmem, .inl ⟨hid, hprepared, rfl⟩⟩
    · rintro (⟨r, hr, hrid, hstate⟩ | ⟨g, hg, hsame⟩)
      · -- The row of the intent is the one that was found prepared.
        have hrow : r = binding := eq_of_key intentSchema_separates_intentId hr hmem
          (hrid.trans hid.symm)
        rw [hrow, hprepared] at hstate
        cases hstate
      · have hspent := hspends.unspent
        rw [spent, any_eq_false] at hspent
        exact hspent g hg (by simpa using hsame)

theorem run_ok (hbase64 : intentCodec.SizedBase64) (hc : c.Authentic grantCodec intentCodec)
    (h : c.run L = (.ok a, L')) : c.Done L a L' := by
  cases c with
  | persist intent preparedAtMs =>
    obtain ⟨signer, input, hissue⟩ := hc
    obtain ⟨hanswer, rfl⟩ := Prod.mk.inj h
    obtain ⟨answer, hok, rfl⟩ := map_ok_iff.mp hanswer
    exact persist_done hbase64 hissue (Prod.ext hok rfl)
  | consumeVerified grant attemptId consumedAtMs =>
    obtain ⟨verifier, token, expected, nowMs, hverify⟩ := hc
    obtain ⟨hanswer, rfl⟩ := Prod.mk.inj h
    obtain ⟨answer, hok, rfl⟩ := map_ok_iff.mp hanswer
    exact consumeVerified_done hverify (Prod.ext hok rfl)
  | consumePrepared intentId grant attemptId consumedAtMs =>
    obtain ⟨verifier, token, nowMs, hauthenticate⟩ := hc
    obtain ⟨hanswer, rfl⟩ := Prod.mk.inj h
    obtain ⟨answer, hok, rfl⟩ := map_ok_iff.mp hanswer
    exact consumePrepared_done hauthenticate (Prod.ext hok rfl)

open Session in
/-- A failed call changes nothing. -/
theorem run_error (h : (c.run L).1 = .error e) : (c.run L).2 = L := by
  cases c with
  | persist intent preparedAtMs =>
    have hatomic : (persistSignedExecutorIntent intent preparedAtMs).Atomic :=
      atomic_ensure (atomic_ensure (atomic_transaction _))
    exact hatomic L e _ (Prod.ext (map_error_iff.mp h) rfl)
  | consumeVerified grant attemptId consumedAtMs =>
    have hatomic : (consumeVerifiedActionGrant grant attemptId consumedAtMs).Atomic :=
      atomic_ensure (atomic_ensure (atomic_transaction _))
    exact hatomic L e _ (Prod.ext (map_error_iff.mp h) rfl)
  | consumePrepared intentId grant attemptId consumedAtMs =>
    have hatomic : (consumePreparedIntentActionGrant intentId grant attemptId consumedAtMs).Atomic :=
      atomic_ensure (atomic_ensure (atomic_ensure (atomic_transaction _)))
    exact hatomic L e _ (Prod.ext (map_error_iff.mp h) rfl)

/-- A call that finds exactly what it asks for says so, and changes nothing. -/
theorem run_of_repeats (hadmissible : c.Admissible) (h : c.Repeats L) :
    c.run L = (.ok c.already, L) := by
  cases c with
  | persist intent preparedAtMs =>
    have hok : persistIntent intent preparedAtMs L = .ok (.alreadyPrepared, L) := by
      simp only [persistIntent, Txn.ok_iff, Txn.ite_ok_iff]
      exact ⟨(), hadmissible.2, _, rfl, .inl ⟨matching_eq_one_iff.mpr h, ⟨⟩, ⟨⟩⟩⟩
    rw [run, persistSignedExecutorIntent_ok_iff.mpr ⟨hadmissible.1, hok⟩]
    rfl
  | consumeVerified grant attemptId consumedAtMs =>
    obtain ⟨g, hg, hnonce, hdigest, rfl⟩ := h
    have hok : consumeGrant grant g.attemptId consumedAtMs L = .ok (.alreadyConsumed, L) := by
      simp only [consumeGrant, Txn.ok_iff]
      refine ⟨_, rfl, ?_⟩
      simp only [grant_eq_some_iff.mpr ⟨hg, hnonce⟩, Txn.ok_iff]
      exact ⟨(), ⟨hdigest, ⟨⟩⟩, ⟨⟩, ⟨⟩⟩
    rw [run, consumeVerifiedActionGrant_ok_iff.mpr ⟨hadmissible, hok⟩]
    rfl
  | consumePrepared intentId grant attemptId consumedAtMs =>
    obtain ⟨r, hr, hid, hbound, hstate, hattempt, hnonce, hdigest⟩ := h
    have hrun := consumePreparedIntentActionGrant_ok_iff.mpr ⟨hadmissible,
      consumePreparedIntentGrant_of_consumed (intent_eq_some_iff.mpr ⟨hr, hid⟩)
        hbound hstate hattempt hnonce hdigest⟩
    rw [run, hrun]
    rfl

/-- What the ledger holds, every later ledger holds. -/
theorem Repeats.mono (hkept : L.KeptBy L') (h : c.Repeats L) : c.Repeats L' := by
  cases c with
  | persist intent preparedAtMs =>
    obtain ⟨r, hr, hsame⟩ := h
    obtain ⟨r', hr', hclaims, hdigest, hcompact⟩ := hkept.prepared r hr
    refine ⟨r', hr', ?_⟩
    rw [SignedExecutorIntentV1.sameIdentity, hclaims, hdigest, hcompact]
    exact hsame
  | consumeVerified grant attemptId consumedAtMs =>
    obtain ⟨g, hg, h⟩ := h
    exact ⟨g, hkept.grants g hg, h⟩
  | consumePrepared intentId grant attemptId consumedAtMs =>
    obtain ⟨r, hr, hid, hbound, hstate, h⟩ := h
    exact ⟨r, hkept.consumed r hr hstate, hid, hbound, hstate, h⟩

end LedgerCall

/-! ### The invariant -/

/-- What a signer guaranteed of the intent in a row. -/
structure ExecutorIntentRow.Issued (r : ExecutorIntentRow) : Prop where
  intentId : r.intentId.isNil = false
  requestId : r.requestId.isNil = false
  operation : r.toIntentOperation.Valid
  compactNonempty : r.compactToken.utf8ByteSize ≠ 0
  compactBounded : r.compactToken.utf8ByteSize ≤ 24 * 1024

/-- What holds of every ledger that calls with authentic tokens leave. -/
structure IntentLedger.Sound (L : IntentLedger) : Prop where
  issued : ∀ r ∈ L.intents.rows, r.Issued
  identified : ∀ g ∈ L.grants.rows, g.Identified ∧ g.attemptId.isNil = false
  consumed : ∀ r ∈ L.intents.rows, r.state = .consumed → ∃ g ∈ L.grants.rows, r.ConsumedBy g

namespace IntentLedger

theorem Records.keptBy (h : L.Records L') : L.KeptBy L' := by
  cases h with
  | prepare issued inserted =>
    refine ⟨fun _ hg => hg, fun r hr _ => ?_, fun r hr => ⟨r, ?_, rfl, rfl, rfl⟩⟩ <;>
      exact rows_insert inserted ▸ mem_append_left _ hr
  | spend identified attempt inserted =>
    refine ⟨fun g hg => ?_, fun _ hr _ => hr, fun r hr => ⟨r, hr, rfl, rfl, rfl⟩⟩
    exact rows_insert inserted ▸ mem_append_left _ hg
  | @consume _ grant attemptId consumedAtMs binding identified attempt found bound prepared current
      spends =>
      refine ⟨fun g hg => spends.mem_grants.mpr (.inl hg), fun r hr hstate => ?_, fun r hr => ?_⟩
      · refine spends.mem_intents.mpr ⟨r, hr, .inr ⟨?_, rfl⟩⟩
        rintro ⟨-, hprepared⟩
        rw [hprepared] at hstate
        cases hstate
      · by_cases hr' : r.intentId = grant.claims.intentId ∧ r.state = .prepared
        · exact ⟨_, spends.mem_intents.mpr ⟨r, hr, .inl ⟨hr'.1, hr'.2, rfl⟩⟩, rfl, rfl, rfl⟩
        · exact ⟨r, spends.mem_intents.mpr ⟨r, hr, .inr ⟨hr', rfl⟩⟩, rfl, rfl, rfl⟩

theorem Records.sound (h : L.Records L') (hL : L.Sound) : L'.Sound := by
  cases h with
  | prepare issued inserted =>
    refine ⟨forall_insert inserted hL.issued ?_, hL.identified, ?_⟩
    · exact ⟨issued.intentId, issued.requestId, issued.operation, issued.compactNonempty,
        issued.compactBounded⟩
    · exact forall_insert inserted hL.consumed nofun
  | spend identified attempt inserted =>
    refine ⟨hL.issued, forall_insert inserted hL.identified ⟨identified, attempt⟩,
      fun r hr hstate => ?_⟩
    obtain ⟨g, hg, hconsumed⟩ := hL.consumed r hr hstate
    exact ⟨g, rows_insert inserted ▸ mem_append_left _ hg, hconsumed⟩
  | @consume _ grant attemptId consumedAtMs binding identified attempt found bound prepared current
      spends =>
      obtain ⟨hmem, hid⟩ := intent_eq_some_iff.mp found
      refine ⟨fun r' hr' => ?_, fun g hg => ?_, fun r' hr' hstate => ?_⟩
      · obtain ⟨r, hr, ⟨-, -, rfl⟩ | ⟨-, rfl⟩⟩ := spends.mem_intents.mp hr'
        · have hissued := hL.issued r hr
          exact ⟨hissued.intentId, hissued.requestId, hissued.operation, hissued.compactNonempty,
            hissued.compactBounded⟩
        · exact hL.issued _ hr
      · rcases spends.mem_grants.mp hg with hg | rfl
        · exact hL.identified g hg
        · exact ⟨identified, attempt⟩
      · obtain ⟨r, hr, ⟨hrid, -, rfl⟩ | ⟨-, rfl⟩⟩ := spends.mem_intents.mp hr'
        · -- The row that the grant consumed is the one that it was checked against.
          obtain rfl : r = binding := eq_of_key intentSchema_separates_intentId hr hmem
            (hrid.trans hid.symm)
          exact ⟨_, spends.mem_grants.mpr (.inr rfl), rfl, rfl, rfl, rfl, hid,
            ⟨bound.intentDigest, bound.requestId, bound.policy⟩,
            ⟨current.intentWindow, current.grantWindow, current.role⟩⟩
        · obtain ⟨g, hg, hconsumed⟩ := hL.consumed _ hr hstate
          exact ⟨g, spends.mem_grants.mpr (.inl hg), hconsumed⟩

end IntentLedger

section Runs

variable {grantCodec : TokenCodec ActionGrantClaimsV1}
  {intentCodec : TokenCodec ExecutorIntentClaimsV1}

/-- The ledgers that calls with authentic tokens reach from `L`. -/
abbrev IntentLedger.Evolves (grantCodec : TokenCodec ActionGrantClaimsV1)
    (intentCodec : TokenCodec ExecutorIntentClaimsV1) (L : IntentLedger) : IntentLedger → Prop :=
  Reaches LedgerCall.step (fun _ c => c.Authentic grantCodec intentCodec) L

/-- A call changes nothing, or records something new. -/
theorem LedgerCall.step_cases (hbase64 : intentCodec.SizedBase64) {c : LedgerCall}
    (hc : c.Authentic grantCodec intentCodec) : c.step L = L ∨ L.Records (c.step L) := by
  rcases hrun : c.run L with ⟨e | a, L'⟩
  · exact .inl (run_error (by rw [hrun]))
  · have hstep : c.step L = L' := by rw [step, hrun]
    rw [hstep]
    rcases (run_ok hbase64 hc hrun).effect with ⟨-, rfl⟩ | ⟨hrecords, -⟩
    · exact .inl rfl
    · exact .inr hrecords

theorem IntentLedger.Evolves.sound (hbase64 : intentCodec.SizedBase64) (hL : L.Sound)
    (h : L.Evolves grantCodec intentCodec L') : L'.Sound := by
  refine Reaches.invariant hL (fun M c _ hM hc => ?_) h
  rcases LedgerCall.step_cases hbase64 hc with hstep | hrecords
  · rw [hstep]
    exact hM
  · exact hrecords.sound hM

theorem IntentLedger.Evolves.keptBy (hbase64 : intentCodec.SizedBase64)
    (h : L.Evolves grantCodec intentCodec L') : L.KeptBy L' := by
  refine Reaches.invariant (.refl L) (fun M c _ hM hc => ?_) h
  rcases LedgerCall.step_cases hbase64 hc with hstep | hrecords
  · rw [hstep]
    exact hM
  · exact hM.trans hrecords.keptBy

end Runs

/-! ### Decoding -/

theorem isAsciiGraphic_of_migrationChar {c : Char}
    (h : (isAsciiAlphanumeric c || c = '-' || c = '_' || c = '.' || c = ':' || c = '/') = true) :
    isAsciiGraphic c = true := by
  simp only [Bool.or_eq_true, decide_eq_true_eq] at h
  rcases h with ((((h | rfl) | rfl) | rfl) | rfl) | rfl
  · simp only [isAsciiAlphanumeric, isAsciiLowercase, isAsciiUppercase, isAsciiDigit,
      Bool.or_eq_true, where_iff] at h
    simp only [isAsciiGraphic, where_iff]
    omega
  all_goals decide

theorem acceptedMigrationId_of_valid {value : String} (h : validMigrationId value = true) :
    acceptedMigrationId value = true := by
  simp only [validMigrationId, Bool.and_eq_true, all_eq_true] at h
  obtain ⟨⟨hnonempty, hsize⟩, hchars⟩ := h
  simp only [acceptedMigrationId, Bool.and_eq_true, all_eq_true]
  exact ⟨⟨hnonempty, hsize⟩, fun c hc => isAsciiGraphic_of_migrationChar (hchars c hc)⟩

/-- The decoder accepts the shape of every operation that a signer accepts. -/
theorem IntentOperation.Valid.accepted {operation : IntentOperation} (h : operation.Valid) :
    operation.validateAcceptedShape = .ok () := by
  refine ensure_ok_iff.mpr ⟨h.commit, h.phases, h.proposed, h.source, h.sourceOfCommit, ?_,
    h.candidate, h.migration.symm, ?_, h.rollback⟩
  · cases hsequence : operation.sourceSequence with
    | none => rfl
    | some value =>
      have hvalue := h.sequence
      rw [hsequence] at hvalue
      have hpositive : value ≠ 0 ∧ value ≤ i64Max := by simpa using hvalue
      simpa using pos_of_ne_zero hpositive.1
  · cases hmigration : operation.migrationId with
    | none => rfl
    | some value =>
      have hvalue := h.migrationId
      rw [hmigration] at hvalue
      exact acceptedMigrationId_of_valid hvalue

/-- The status of a mutation whose plan exists fails as its phase journal does. -/
theorem AcceptedMutationV1.status_error {codec : Codec}
    {accepted : AcceptedMutationV1} {phases : List OperationPhase}
    (hplan : accepted.operationKind.requiredPhases accepted.effectiveReleaseClass = some phases)
    (h : accepted.status codec S = .error e) : ∃ error, e = .security error ∧
      projectMutationStatus codec S accepted.attemptId phases accepted.acceptedAtMs =
        .error error := by
  unfold status at h
  rw [hplan] at h
  change ((projectMutationStatus codec S accepted.attemptId phases
    accepted.acceptedAtMs).mapError IntentStoreError.security >>= _) = _ at h
  cases hproject : projectMutationStatus codec S accepted.attemptId phases
      accepted.acceptedAtMs with
  | ok projection =>
    rw [hproject] at h
    cases h
  | error error =>
    rw [hproject] at h
    cases h
    exact ⟨error, rfl, rfl⟩

namespace IntentLedger

variable {r : ExecutorIntentRow}

theorem consumedAtMs_nonneg (hg : g ∈ L.grants.rows) : 0 ≤ g.consumedAtMs := by
  have hcheck := L.grants.checked g hg
  simp only [actionGrantSchema, where_iff] at hcheck
  omega

theorem spentInWindow (hg : g ∈ L.grants.rows) :
    g.notBeforeMs ≤ g.consumedAtMs ∧ g.consumedAtMs < g.expiresAtMs := by
  have hcheck := L.grants.checked g hg
  simp only [actionGrantSchema, where_iff] at hcheck
  exact ⟨hcheck.1.2, hcheck.2⟩

/-- The accepted mutation of a consumed intent and its grant. -/
def acceptedMutation (r : ExecutorIntentRow) (g : ActionGrantRow) : AcceptedMutationV1 :=
  { r.toIntentOperation with
    intentId := r.intentId
    intentDigest := r.intentDigest
    signedIntent := r.compactToken
    attemptId := g.attemptId
    requestId := r.requestId
    projectId := r.projectId
    installedPolicyDigest := r.installedPolicyDigest
    intentExpiresAtMs := r.expiresAtMs
    actorId := g.actorId
    actionGrantRole := g.role
    actionGrantNonce := g.nonce
    actionGrantDigest := g.grantDigest
    leaseId := g.leaseId
    leaseGeneration := g.leaseGeneration
    grantExpiresAtMs := g.expiresAtMs
    acceptedAtMs := g.consumedAtMs }

/-- What the decoder reads off a consumed intent. -/
structure Decodes (L : IntentLedger) (r : ExecutorIntentRow) (accepted : AcceptedMutationV1) :
    Prop where
  decoded : decodeAcceptedMutation r (L.joinedGrant r) = .ok accepted
  operation : accepted.toIntentOperation = r.toIntentOperation
  intentId : accepted.intentId = r.intentId
  attemptId : some accepted.attemptId = r.attemptId

theorem Sound.decodes (hL : L.Sound) (hr : r ∈ L.intents.rows)
    (hstate : r.state = .consumed) : ∃ accepted, L.Decodes r accepted := by
  obtain ⟨g, hg, hconsumed⟩ := hL.consumed r hr hstate
  have hissued := hL.issued r hr
  obtain ⟨hidentified, hattempt⟩ := hL.identified g hg
  have hjoined : L.joinedGrant r = some g := by
    rw [joinedGrant, hconsumed.nonce]
    exact grant_eq_some_iff.mpr ⟨hg, rfl⟩
  have hbinding : decodeAcceptedGrantBinding r (some g) = .ok
      { attemptId := g.attemptId, actorId := g.actorId, role := g.role, nonce := g.nonce
        digest := g.grantDigest, leaseId := g.leaseId, leaseGeneration := g.leaseGeneration
        expiresAtMs := g.expiresAtMs, acceptedAtMs := g.consumedAtMs } := by
    simp only [decodeAcceptedGrantBinding, ok_iff]
    exact ⟨_, hconsumed.attemptId, _, hconsumed.consumedAtMs, _, hconsumed.nonce, _,
      hconsumed.digest, g, rfl, (), ⟨rfl, rfl, rfl, hconsumed.intentId, hconsumed.bound.intentDigest,
        hconsumed.bound.requestId, hconsumed.bound.policy, hissued.compactNonempty,
        hissued.compactBounded, consumedAtMs_nonneg hg, hconsumed.current.intentWindow.2,
        hconsumed.current.grantWindow.2⟩, (), ⟨hattempt, hidentified.actorId, hidentified.nonce,
        hidentified.leaseId, hidentified.leaseGeneration⟩, rfl⟩
  refine ⟨acceptedMutation r g, ?_, rfl, rfl, hconsumed.attemptId.symm⟩
  simp only [hjoined, decodeAcceptedMutation, ok_iff]
  exact ⟨_, hbinding, (), ⟨hissued.intentId, hissued.requestId⟩, (), hissued.operation.accepted, rfl⟩

theorem mem_consumedRows : r ∈ L.consumedRows ↔ r ∈ L.intents.rows ∧ r.state = .consumed := by
  simp [consumedRows]

theorem Sound.acceptedMutations (hL : L.Sound) : ∃ mutations, L.acceptedMutations = .ok mutations ∧
    List.Forall₂ L.Decodes L.consumedRows mutations := by
  refine mapM_ok fun r hr => ?_
  obtain ⟨hmem, hstate⟩ := mem_consumedRows.mp hr
  obtain ⟨accepted, haccepted⟩ := hL.decodes hmem hstate
  exact ⟨accepted, haccepted.decoded, haccepted⟩

/-- The status of a mutation can fail only where the phase journal of its attempt does. -/
theorem Sound.mutationStatus_error (hL : L.Sound) {codec : Codec}
    (hids : intentId.isNil = false ∧ attemptId.isNil = false)
    (h : mutationStatus codec S L intentId attemptId = .error e) :
    ∃ phases acceptedAtMs error, e = .security error ∧
      projectMutationStatus codec S attemptId phases acceptedAtMs = .error error := by
  obtain ⟨mutations, hmutations, hdecodes⟩ := hL.acceptedMutations
  rw [mutationStatus, ensure, if_pos hids, hmutations] at h
  simp only [bind, Except.bind] at h
  cases hfound : mutations.find? fun accepted =>
      accepted.intentId = intentId && accepted.attemptId = attemptId with
  | none =>
    rw [hfound] at h
    cases h
  | some accepted =>
    rw [hfound] at h
    have hattempt : accepted.attemptId = attemptId := by
      have := find?_some hfound
      simp only [where_iff] at this
      exact this.2
    obtain ⟨r, hr, hdecoded⟩ := exists_of_forall₂ hdecodes (mem_of_find?_eq_some hfound)
    obtain ⟨hmem, -⟩ := mem_consumedRows.mp hr
    -- The plan of an operation that a signer accepted exists.
    obtain ⟨phases, hphases⟩ := Option.isSome_iff_exists.mp (hL.issued r hmem).operation.phases
    have hplan : accepted.operationKind.requiredPhases accepted.effectiveReleaseClass =
        some phases := by
      rw [hdecoded.operation]
      exact hphases
    have hstatus : accepted.status codec S = .error e := map_error_iff.mp h
    obtain ⟨error, he, hproject⟩ := AcceptedMutationV1.status_error hplan hstatus
    exact ⟨phases, accepted.acceptedAtMs, error, he, hattempt ▸ hproject⟩

end IntentLedger

/-! ### A status without a journal -/

/-- The store has no phase journal of the attempt yet. -/
structure SecurityStore.Unstarted (S : SecurityStore) (attemptId : Uuid) : Prop where
  entries : ∀ key, S.loadPhaseEntry attemptId key = none
  receipts : ∀ key, S.receiptRow attemptId key = none
  takeover : S.takeover attemptId = none

section Unstarted

variable (codec : Codec)

theorem projectMutationStatusBranch_unstarted (h : S.Unstarted attemptId)
    (emptyState : MutationExecutionStateV1) (phases : List OperationPhase) (foundGap : Bool)
    (projection : MutationStatusProjectionV1) : ∃ result,
      projectMutationStatusBranch codec S attemptId .primary emptyState phases foundGap projection =
        .ok result := by
  induction phases generalizing foundGap projection with
  | nil => exact ⟨_, rfl⟩
  | cons phase phases ih =>
    have hreceipt : S.loadPhaseReceipt codec attemptId ⟨.primary, phase⟩ = .ok none := by
      rw [SecurityStore.loadPhaseReceipt, h.receipts]
    change ∃ result, (S.loadPhaseReceipt codec attemptId ⟨.primary, phase⟩ >>= _) = .ok result
    rw [hreceipt, h.entries]
    cases foundGap with
    | false => exact ih _ _
    | true => exact ih _ _

theorem projectMutationStatus_unstarted (h : S.Unstarted attemptId) (phases : List OperationPhase)
    (acceptedAtMs : Int) :
    ∃ projection, projectMutationStatus codec S attemptId phases acceptedAtMs = .ok projection := by
  obtain ⟨⟨gap, projection⟩, hbranch⟩ := projectMutationStatusBranch_unstarted codec h
    .accepted phases false (.new (phases.headD .queued) acceptedAtMs)
  have htakeover : S.loadRollbackTakeover attemptId = .ok none := by
    rw [SecurityStore.loadRollbackTakeover, h.takeover]
  refine ⟨if gap then projection else { projection with state := .succeeded }, ?_⟩
  rw [projectMutationStatus, hbranch]
  rw [htakeover]
  rfl

end Unstarted

/-! ### The property -/

theorem IntentLedger.Sound.spentOnce (hL : L.Sound) : L.SpentOnce where
  nonce _ hg _ hg' := eq_of_key actionGrantSchema_separates_nonce hg hg'
  digest _ hg _ hg' := eq_of_key actionGrantSchema_separates_digest hg hg'
  intent _ hr _ hr' := eq_of_key intentSchema_separates_intentId hr hr'
  consumption r hr r' hr' hstate hsame := by
    by_contra hne
    obtain ⟨-, -, -, -, hattempt, hnonce⟩ := of_decide_eq_true (distinct_of_ne hr hr' hne)
    obtain ⟨g, -, hconsumed⟩ := hL.consumed r hr hstate
    rcases hsame with h | h
    · rw [← h, hconsumed.attemptId] at hattempt
      simp [unlessEqual] at hattempt
    · rw [← h, hconsumed.nonce] at hnonce
      simp [unlessEqual] at hnonce
  window _ hg := L.spentInWindow hg
  consumed := hL.consumed

theorem IntentLedger.empty_sound : empty.Sound where
  issued _ hr := absurd hr not_mem_nil
  identified _ hg := absurd hg not_mem_nil
  consumed _ hr := absurd hr not_mem_nil

/-- In every ledger that calls with authentic tokens reach, each nonce, each digest and each
consumed intent is recorded once and for good, inside both windows and with a sufficient role; a
call that uses a recorded identity again changes nothing and succeeds only as an exact repetition;
and every consumed intent decodes, so that a reader fails only where the phase journal does. -/
theorem grants_and_intents_spent_once (grantCodec : TokenCodec ActionGrantClaimsV1)
    (intentCodec : TokenCodec ExecutorIntentClaimsV1) (hbase64 : intentCodec.SizedBase64)
    {L : IntentLedger} (hL : empty.Evolves grantCodec intentCodec L) :
    L.SpentOnce ∧
    (∀ L', L.Evolves grantCodec intentCodec L' → L.KeptBy L') ∧
    (∀ c : LedgerCall, c.Authentic grantCodec intentCodec →
      (∀ e, (c.run L).1 = .error e → c.step L = L) ∧
      (c.Reuses L → c.step L = L ∧ ∀ a, (c.run L).1 = .ok a → a = c.already ∧ c.Repeats L) ∧
      (∀ a, (c.run L).1 = .ok a → ∀ L', (c.step L).Evolves grantCodec intentCodec L' →
        c.run L' = (.ok c.already, L'))) ∧
    (∀ r ∈ L.intents.rows, r.state = .consumed → ∃ accepted, L.Decodes r accepted) ∧
    (∃ mutations, L.acceptedMutations = .ok mutations ∧
      List.Forall₂ L.Decodes L.consumedRows mutations) ∧
    (∀ codec S intentId attemptId, intentId.isNil = false ∧ attemptId.isNil = false →
      (∀ e, mutationStatus codec S L intentId attemptId = .error e →
        ∃ phases acceptedAtMs error, e = .security error ∧
          projectMutationStatus codec S attemptId phases acceptedAtMs = .error error) ∧
      (S.Unstarted attemptId →
        ∃ status, mutationStatus codec S L intentId attemptId = .ok status)) := by
  have hsound := IntentLedger.Evolves.sound hbase64 empty_sound hL
  refine ⟨hsound.spentOnce, fun L' h => IntentLedger.Evolves.keptBy hbase64 h, fun c hc => ⟨?_, ?_, ?_⟩,
    fun r hr hstate => hsound.decodes hr hstate, hsound.acceptedMutations, ?_⟩
  · exact fun e he => LedgerCall.run_error he
  · intro hreuses
    rcases hrun : c.run L with ⟨e | a, L'⟩
    · refine ⟨LedgerCall.run_error (by rw [hrun]), fun a ha => ?_⟩
      cases ha
    · have hdone := LedgerCall.run_ok hbase64 hc hrun
      rcases hdone.effect with ⟨ha, hL'⟩ | ⟨-, hfresh⟩
      · refine ⟨by rw [LedgerCall.step, hrun, hL'], fun a' ha' => ?_⟩
        cases ha'
        exact ⟨ha, hL' ▸ hdone.repeats⟩
      · exact absurd hreuses hfresh
  · intro a ha L' hL'
    have hdone := LedgerCall.run_ok hbase64 hc (Prod.ext ha rfl : c.run L = (.ok a, c.step L))
    exact LedgerCall.run_of_repeats hdone.admissible
      (hdone.repeats.mono (IntentLedger.Evolves.keptBy hbase64 hL'))
  · intro codec S intentId attemptId hids
    refine ⟨fun e he => hsound.mutationStatus_error hids he, fun hunstarted => ?_⟩
    cases hstatus : mutationStatus codec S L intentId attemptId with
    | ok status => exact ⟨status, rfl⟩
    | error e =>
      obtain ⟨phases, acceptedAtMs, error, -, hproject⟩ :=
        hsound.mutationStatus_error hids hstatus
      obtain ⟨projection, hok⟩ := projectMutationStatus_unstarted codec hunstarted phases
        acceptedAtMs
      rw [hok] at hproject
      cases hproject

/-! ### A backup that is prepared, approved and accepted -/

namespace GrantSample

def signature : Signature := ⟨replicate 64 0, by decide⟩

/-- Characters by their number only. -/
def base64Encode (bytes : List UInt8) : String :=
  String.ofList (replicate ((4 * bytes.length + 2) / 3) 'A')

def intentCodec : TokenCodec ExecutorIntentClaimsV1 where
  SigningKey := Unit
  VerifyingKey := Unit
  sign _ _ := signature
  verifyStrict _ _ _ := true
  sha256 _ := 7
  base64Encode := base64Encode
  base64Decode _ := none
  encodeCbor _ := some [0]
  decodeCbor _ := none

theorem intentCodec_sizedBase64 : intentCodec.SizedBase64 := by
  intro bytes
  have hsize : ∀ n, (String.ofList (replicate n 'A')).utf8ByteSize = n := by
    intro n
    induction n with
    | zero => rfl
    | succ n ih =>
      rw [replicate_succ, ← singleton_append, String.ofList_append,
        String.utf8ByteSize_append, ih, add_comm]
      rfl
  exact hsize _

def signer : ExecutorIntentSignerV1 intentCodec where
  identity := { issuer := "rdashboard", audience := "authorizer", keyId := "k1", keyEpoch := 1 }
  signingKey := ()
  accepted := by decide +kernel

def input : ExecutorIntentIssueInputV1 where
  operationKind := .backupOnly
  targetCommit := none
  proposedReleaseClass := none
  effectiveReleaseClass := none
  sourceAttestationDigest := none
  sourceSequence := none
  releaseBundleDigest := none
  buildAttestationDigest := none
  migrationId := none
  previousReleaseBundleDigest := none
  issuedAtMs := 10
  notBeforeMs := 10
  expiresAtMs := 1000
  intentId := 1
  requestId := 2
  projectId := ⟨"app", by decide⟩
  installedPolicyDigest := 5

def intent : SignedExecutorIntentV1 where
  compact := compactToken intentCodec [0] signature
  claims :=
    { input with
      schemaVersion := 2
      issuer := "rdashboard"
      authorizerAudience := "authorizer"
      keyId := "k1"
      keyEpoch := 1
      consequences := [.backupOnly]
      minimumRole := .operator }
  digest := 7

def claims : ActionGrantClaimsV1 where
  schemaVersion := 1
  issuer := "rdashboard"
  executorAudience := "executor"
  keyId := "k2"
  keyEpoch := 1
  issuedAtMs := 20
  notBeforeMs := 20
  expiresAtMs := 500
  nonce := 3
  actorId := 4
  role := .operator
  leaseId := 5
  leaseGeneration := 1
  intentId := 1
  intentDigest := 7
  installedPolicyDigest := 5
  requestId := 2

def grantCodec : TokenCodec ActionGrantClaimsV1 where
  SigningKey := Unit
  VerifyingKey := Unit
  sign _ _ := signature
  verifyStrict _ _ _ := true
  sha256 _ := 9
  base64Encode := base64Encode
  base64Decode text := if text = "AA" then some [0] else some signature.1
  encodeCbor _ := some [0]
  decodeCbor _ := some claims

def key : VerificationKey grantCodec.VerifyingKey where
  keyId := "k2"
  keyEpoch := 1
  verifyingKey := ()
  activeFromMs := 0
  signingRetiredAtMs := none
  verifyUntilMs := none
  revokedAtMs := none

def verifier : ActionGrantVerifierV1 grantCodec where
  issuer := "rdashboard"
  executorAudience := "executor"
  minimumKeyEpoch := 1
  keys := [key]

def grant : AuthenticatedActionGrantV1 := { claims := claims, digest := 9 }

/-- The intent is prepared at 15 and consumed by attempt 6 at 40. -/
def calls : List LedgerCall := [.persist intent 15, .consumePrepared 1 grant 6 40]

def accepted : IntentLedger := runAll LedgerCall.step .empty calls

theorem accepted_evolves : empty.Evolves grantCodec intentCodec accepted := by
  refine reaches_runAll (fun c hc => ?_) .init
  rcases mem_pair.mp hc with rfl | rfl
  · exact ⟨signer, input, by decide +kernel⟩
  · exact ⟨verifier, compactToken grantCodec [0] signature, 30, by decide +kernel⟩

theorem accepted_spent_once : accepted.consumedRows.map (·.attemptId) = [some 6] ∧
    accepted.SpentOnce ∧ ∃ mutations, accepted.acceptedMutations = .ok mutations ∧
      List.Forall₂ accepted.Decodes accepted.consumedRows mutations := by
  have h := grants_and_intents_spent_once grantCodec intentCodec intentCodec_sizedBase64
    accepted_evolves
  exact ⟨by decide +kernel, h.1, h.2.2.2.2.1⟩

end GrantSample

end Rdashboard
