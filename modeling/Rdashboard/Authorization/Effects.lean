import Rdashboard.Authorization.Acceptance

/-! # What the operations on the ledger do

One inversion lemma per operation, and the two relations that the properties of the ledger are
about: a grant row that consumed an intent row, and a ledger that keeps what another one
recorded. -/

namespace Rdashboard

open Relational Session Txn TableRef
variable {intent : SignedExecutorIntentV1} {preparedAtMs consumedAtMs : Int}
  {answer : ActionGrantConsumptionV1} {grant : AuthenticatedActionGrantV1}
  {attemptId intentId : Uuid} {binding : ExecutorIntentRow}

/-! ### Inversion -/

section Inversion

variable {L L' : IntentLedger}

/-- The binding of an intent to a grant that `validate_prepared_intent_grant_binding` accepts. -/
structure ExecutorIntentRow.Bound (binding : ExecutorIntentRow) (claims : ActionGrantClaimsV1) :
    Prop where
  intentDigest : binding.intentDigest = claims.intentDigest
  requestId : binding.requestId = claims.requestId
  policy : binding.installedPolicyDigest = claims.installedPolicyDigest

/-- The time and the role that `validate_prepared_intent_grant_binding` accepts. -/
structure ExecutorIntentRow.Current (binding : ExecutorIntentRow) (claims : ActionGrantClaimsV1)
    (consumedAtMs : Int) : Prop where
  intentWindow : binding.notBeforeMs ≤ consumedAtMs ∧ consumedAtMs < binding.expiresAtMs
  grantWindow : claims.notBeforeMs ≤ consumedAtMs ∧ consumedAtMs < claims.expiresAtMs
  role : binding.minimumRole = .admin → claims.role = .admin

/-- The tables that `consume_prepared_intent_grant` leaves when it spends a grant. -/
structure IntentLedger.Spends (L L' : IntentLedger) (intentId : Uuid)
    (grant : AuthenticatedActionGrantV1) (attemptId : Uuid) (consumedAtMs : Int) : Prop where
  unspent : L.spent grant = false
  grants : L.grants.insert (grant.claims.row grant.digest attemptId consumedAtMs) = some L'.grants
  intents : L.intents.update (fun r => r.intentId = intentId && r.state = .prepared)
    (fun r => r.consume grant attemptId consumedAtMs) = some L'.intents

theorem consumePreparedIntentGrant_ok
    (h : consumePreparedIntentGrant intentId grant attemptId consumedAtMs L = .ok (answer, L')) :
    ∃ binding, L.intent intentId = some binding ∧ binding.Bound grant.claims ∧
      ((answer = .alreadyConsumed ∧ L' = L ∧ binding.state = .consumed ∧
          binding.attemptId = some attemptId ∧ binding.actionGrantNonce = some grant.claims.nonce ∧
          binding.actionGrantDigest = some grant.digest) ∨
        (answer = .consumed ∧ binding.state = .prepared ∧
          binding.Current grant.claims consumedAtMs ∧
          L.Spends L' intentId grant attemptId consumedAtMs)) := by
  simp only [consumePreparedIntentGrant, ok_iff] at h
  obtain ⟨_, rfl, binding, hbinding, replay, hreplay, h⟩ := h
  simp only [ExecutorIntentRow.validateGrantBinding, Check.ok_iff] at hreplay
  obtain ⟨_, ⟨hdigest, hrequest, hpolicy⟩, hreplay⟩ := hreplay
  refine ⟨binding, hbinding, ⟨hdigest, hrequest, hpolicy⟩, ?_⟩
  cases hstate : binding.state with
  | consumed =>
    simp only [hstate, Check.ok_iff] at hreplay
    obtain ⟨_, hsame, rfl⟩ := hreplay
    obtain ⟨rfl, rfl⟩ := pure_ok_iff.mp h
    exact .inl ⟨rfl, rfl, rfl, hsame⟩
  | prepared =>
    simp only [hstate, ExecutorIntentRow.validateCurrent, Check.ok_iff] at hreplay
    obtain ⟨_, ⟨_, ⟨hbefore, -⟩, _, ⟨hafter, hgrant⟩, hrole⟩, rfl⟩ := hreplay
    simp only [spendPreparedIntent, markPreparedIntentConsumed, ok_iff, insert_ok_iff,
      update_ok_iff] at h
    obtain ⟨_, rfl, _, hspent, _, _, ⟨-, g, hg, rfl⟩, _, _, ⟨_, _, ⟨t, ht, -, rfl⟩, -, rfl⟩, rfl,
      rfl⟩ := h
    exact .inr ⟨rfl, rfl, ⟨⟨hbefore, hafter⟩, hgrant, hrole⟩, hspent, hg, ht⟩

end Inversion

/-! ### Which rows a call meets -/

section Rows

variable {L : IntentLedger} {r s : ExecutorIntentRow}

theorem SignedExecutorIntentV1.sharesIdentity_of_sameIdentity
    (h : intent.sameIdentity r = true) : intent.sharesIdentity r = true := by
  simp only [sameIdentity, sharesIdentity, Bool.and_eq_true, Bool.or_eq_true] at h ⊢
  exact .inl (.inl (.inl h.1.1.1))

/-- Next to the row of an intent, no other row shares one of its identities. -/
theorem SignedExecutorIntentV1.eq_of_sharesIdentity
    (hr : r ∈ L.intents.rows) (hs : s ∈ L.intents.rows) (hsame : intent.sameIdentity r = true)
    (hshares : intent.sharesIdentity s = true) : s = r := by
  by_contra hne
  obtain ⟨hid, hdigest, hrequest, hcompact, -⟩ :=
    of_decide_eq_true (Table.distinct_of_ne hs hr hne)
  simp only [sameIdentity, sharesIdentity, Bool.and_eq_true, Bool.or_eq_true,
    decide_eq_true_eq] at hsame hshares
  obtain ⟨⟨⟨hid', hdigest'⟩, hrequest'⟩, hcompact'⟩ := hsame
  rcases hshares with ((h | h) | h) | h
  · exact hid (h.trans hid'.symm)
  · exact hdigest (h.trans hdigest'.symm)
  · exact hrequest (h.trans hrequest'.symm)
  · exact hcompact (h.trans hcompact'.symm)

theorem IntentLedger.matching_eq_one_iff :
    L.matching intent = (1, 1) ↔ ∃ r ∈ L.intents.rows, intent.sameIdentity r = true := by
  constructor
  · intro h
    have hpos : 0 < L.intents.count intent.sameIdentity := by
      rw [show L.intents.count intent.sameIdentity = 1 from congrArg Prod.snd h]
      exact one_pos
    exact Table.count_pos_iff.mp hpos
  · rintro ⟨r, hr, hsame⟩
    have hshares := SignedExecutorIntentV1.sharesIdentity_of_sameIdentity hsame
    refine Prod.ext ?_ ?_
    · exact Table.count_eq_one_of_only intentSchema_separates_intentId hr hshares
        fun s hs h => by rw [intent.eq_of_sharesIdentity hr hs hsame h]
    · exact Table.count_eq_one_of_only intentSchema_separates_intentId hr hsame
        fun s hs h => by
          rw [intent.eq_of_sharesIdentity hr hs hsame
            (SignedExecutorIntentV1.sharesIdentity_of_sameIdentity h)]

end Rows

/-! ### Whole operations -/

section Operations

variable {L L' : IntentLedger}

theorem persistSignedExecutorIntent_ok_iff {answer : ExecutorIntentPersistenceV1} :
    persistSignedExecutorIntent intent preparedAtMs L = (.ok answer, L') ↔
      (0 ≤ preparedAtMs ∧ intent.claims.notBeforeMs ≤ preparedAtMs ∧
          preparedAtMs < intent.claims.expiresAtMs) ∧
        persistIntent intent preparedAtMs L = .ok (answer, L') := by
  unfold persistSignedExecutorIntent
  rw [ensure_bind_ok_iff, ensure_bind_ok_iff, immediateTransaction_ok_iff]
  simp only [and_assoc]

theorem consumeVerifiedActionGrant_ok_iff {grant : VerifiedActionGrantV1} :
    consumeVerifiedActionGrant grant attemptId consumedAtMs L = (.ok answer, L') ↔
      ((attemptId.isNil = false ∧ 0 ≤ consumedAtMs) ∧ grant.claims.InRange) ∧
        consumeGrant grant attemptId consumedAtMs L = .ok (answer, L') := by
  unfold consumeVerifiedActionGrant
  rw [ensure_bind_ok_iff, ensure_bind_ok_iff, immediateTransaction_ok_iff]
  simp only [and_assoc]

theorem consumePreparedIntentActionGrant_ok_iff :
    consumePreparedIntentActionGrant intentId grant attemptId consumedAtMs L = (.ok answer, L') ↔
      ((intentId.isNil = false ∧ attemptId.isNil = false ∧ 0 ≤ consumedAtMs) ∧
          grant.claims.intentId = intentId ∧ grant.claims.InRange) ∧
        consumePreparedIntentGrant intentId grant attemptId consumedAtMs L = .ok (answer, L') := by
  unfold consumePreparedIntentActionGrant
  rw [ensure_bind_ok_iff, ensure_bind_ok_iff, ensure_bind_ok_iff, immediateTransaction_ok_iff]
  simp only [and_assoc]

/-- An exact repetition of the consumption of an intent finds the intent consumed. -/
theorem consumePreparedIntentGrant_of_consumed (hbinding : L.intent intentId = some binding)
    (hbound : binding.Bound grant.claims) (hstate : binding.state = .consumed)
    (hattempt : binding.attemptId = some attemptId)
    (hnonce : binding.actionGrantNonce = some grant.claims.nonce)
    (hdigest : binding.actionGrantDigest = some grant.digest) :
    consumePreparedIntentGrant intentId grant attemptId consumedAtMs L =
      .ok (.alreadyConsumed, L) := by
  have hreplay : binding.validateGrantBinding grant attemptId consumedAtMs =
      .ok (some .alreadyConsumed) := by
    simp only [ExecutorIntentRow.validateGrantBinding, Check.ok_iff, hstate]
    exact ⟨(), ⟨hbound.intentDigest, hbound.requestId, hbound.policy⟩, (),
      ⟨hattempt, hnonce, hdigest⟩, trivial⟩
  simp only [consumePreparedIntentGrant, ok_iff]
  exact ⟨_, rfl, binding, hbinding, _, hreplay, pure_ok_iff.mpr ⟨rfl, rfl⟩⟩

end Operations

end Rdashboard
