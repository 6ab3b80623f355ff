import Rdashboard.Properties.PhaseOrder

/-! # Source trust only moves forward

A project trusts sources in the order of their sequence numbers, one attestation for each.  A
proof that does not fit is refused; the refusal is stored and quarantines the phase until it is
compensated.

The quarantine of a phase is its status `needs_reconcile`, which other operations give it too, when
its intent is replaced, when its observation does not fit or when its outcome is unknown.  A
compensation looks for a pending refusal and does not see whether something else has made the phase
ambiguous in the meantime; as long as no refusal is pending, what has become ambiguous for another
reason is out of its reach for ever. -/

namespace Rdashboard

open Relational SecurityStore Session Course Function

/-- The source gate has refused a proof of the phase, and this has not been compensated. -/
def SecurityStore.RejectionPending (S : SecurityStore) (a : Uuid) (key : PhaseKey) : Prop :=
  ∃ row, S.rejection a key = some row ∧ row.state = .abortPending

section Trust

variable {codec : Codec} {guard : SecurityStore → SecurityOperation → Prop}
  {op : SecurityOperation} {S S' : SecurityStore} {a : Uuid} {key : PhaseKey} {p : ProjectId}
  {proof : SourceGateProofRecord}
variable {u : Unit} {phase : OperationPhase} {e e' : PhaseJournalEntry}

/-! ### Trust -/

namespace SecurityStore

variable {r : Except SecurityError Unit} {row : SourceTrustRow}

theorem sourceTrust_step (h : ∀ proof, op ≠ .recordSourceGateProof proof) :
    (step codec op S).sourceTrust = S.sourceTrust := by
  cases op with
  | recordSourceGateProof proof => exact absurd rfl (h proof)
  | _ =>
    exact step_keeps _ (by (repeat' apply And.intro) <;>
      first | exact fun _ _ => rfl | exact .of_ignored fun _ _ => rfl) S

/-- A trusted source is followed by a later one, or stays. -/
theorem GateOutcome.trusted (h : GateOutcome proof S r S') (hrow : S.trusted p = some row) :
    ∃ row', S'.trusted p = some row' ∧ row'.Extends row := by
  cases h with
  | fail e => exact ⟨row, hrow, .refl row⟩
  | reject he hs hpending hS' hturns =>
    subst hS'
    exact ⟨row, hrow, .refl row⟩
  | replay hadvances hexisting hsame => exact ⟨row, hrow, .refl row⟩
  | accept hadvances hrows hS' htrusted =>
    rw [htrusted]
    by_cases hp : p = proof.projectId
    · subst hp
      exact ⟨proof.trust, update_self .., hadvances row hrow⟩
    · exact ⟨row, (update_of_ne hp ..).trans hrow, .refl row⟩

theorem trusted_step (codec : Codec) (hrow : S.trusted p = some row)
    (op : SecurityOperation) : ∃ row', (step codec op S).trusted p = some row' ∧ row'.Extends row := by
  by_cases hop : ∃ proof, op = .recordSourceGateProof proof
  · obtain ⟨proof, rfl⟩ := hop
    obtain ⟨r, hr⟩ := record_outcome codec proof S
    exact hr.trusted hrow
  · refine ⟨row, ?_, .refl row⟩
    rw [trusted, sourceTrust_step fun proof hproof => hop ⟨proof, hproof⟩]
    exact hrow

/-- The trusted sequence of a project never decreases. -/
theorem LeadsTo.trusted (h : LeadsTo codec guard S S')
    (hrow : S.trusted p = some row) : ∃ row', S'.trusted p = some row' ∧ row'.Extends row := by
  refine Reaches.invariant (I := fun S' => ∃ row', S'.trusted p = some row' ∧ row'.Extends row)
    ⟨row, hrow, .refl row⟩ (fun S₁ op _ hI _ => ?_) h
  obtain ⟨row₁, hrow₁, hextends⟩ := hI
  obtain ⟨row₂, hrow₂, hextends'⟩ := trusted_step codec hrow₁ op
  exact ⟨row₂, hrow₂, hextends.trans hextends'⟩

/-- Every stored proof is for a source that its project trusts, or has trusted. -/
def Vouched (S : SecurityStore) : Prop :=
  ∀ r ∈ S.proofs.rows, ∃ row, S.trusted r.projectId = some row ∧ row.Extends r.trust

/-- An accepted proof is not older than what is trusted, and is what is trusted then. -/
theorem Vouched.accepted (hS : S.Vouched) (h : recordSourceGateProof proof S = (.ok u, S')) :
    S.Advances proof ∧ S'.trusted proof.projectId = some proof.trust := by
  have houtcome := recordSourceGateProof_outcome h
  cases houtcome with
  | @replay existing hadvances hexisting hsame =>
    obtain ⟨row, hrow, hextends⟩ := hS existing (Table.mem_of_lookup hexisting)
    have htrust : existing.trust = proof.trust := by
      rw [← hsame]
      rfl
    have hproject : existing.projectId = proof.projectId := congrArg SourceTrustRow.projectId htrust
    rw [hproject] at hrow
    rw [htrust] at hextends
    have hproject' : row.projectId = proof.projectId := Table.key_of_lookup hrow
    have hadvanced := hadvances row hrow
    refine ⟨hadvances, ?_⟩
    rw [hrow, hadvanced.eq hproject' (le_antisymm hadvanced.1 hextends.1)]
  | accept hadvances hrows hS' htrusted =>
    exact ⟨hadvances, by rw [htrusted, update_self]⟩

end SecurityStore

/-! ### Quarantine -/

/-- A refusal that is pending keeps its phase ambiguous. -/
def Course.Quarantined (C : Course) : Prop :=
  ∀ key r, C.rejections key = some r → r.state = .abortPending →
    ∃ e, C.entries key = some e ∧ e.status = .needsReconcile

theorem EntryStep.of_needsReconcile
    (h : EntryStep phase e e') (hs : e.status = .needsReconcile) : e'.status = .needsReconcile := by
  cases h with
  | observe hs' => rw [hs] at hs'; cases hs'
  | verify hs' => rw [hs] at hs'; cases hs'
  | ambiguate hs' => rfl
  | misobserve hs' hn => exact absurd hs hn

namespace Course

variable {C C' : Course}

theorem rejections_setRejection {r : SourceGateRejectionRow} {k : PhaseKey} :
    (C.setRejection key r).rejections k = if k = key then some r else C.rejections k := by
  simp [setRejection, update_apply]

/-- What a change of the course does to an ambiguous phase: nothing, unless it compensates a
pending refusal. -/
theorem ambiguous_step (h : CourseStep codec a op C C')
    (he : C.entries key = some e) (hs : e.status = .needsReconcile) :
    ((∃ e', C'.entries key = some e' ∧ e'.status = .needsReconcile) ∧
        C'.rejections key = C.rejections key) ∨
      ∃ r r', C.rejections key = some r ∧ r.state = .abortPending ∧
        C'.rejections key = some r' ∧ r'.state = .compensated := by
  -- an entry with another status is not this one
  have hne : ∀ {k : PhaseKey} {x : PhaseJournalEntry}, C.entries k = some x →
      x.status ≠ .needsReconcile → key ≠ k := by
    rintro k x hx hstatus rfl
    rw [he] at hx
    cases hx
    exact hstatus hs
  cases h with
  | @intend _ _ k ha hkey hadmits hnew hfree =>
    have hk : key ≠ k := by
      rintro rfl
      rw [hnew] at he
      cases he
    exact .inl ⟨⟨e, (entries_ne hk).trans he, hs⟩, rfl⟩
  | @move _ _ k x x' hx hmove ho =>
    by_cases hk : key = k
    · subst hk
      rw [he] at hx
      cases hx
      exact .inl ⟨⟨x', (entries_setEntry key).trans (if_pos rfl), hmove.of_needsReconcile hs⟩, rfl⟩
    · exact .inl ⟨⟨e, (entries_ne hk).trans he, hs⟩, rfl⟩
  | commit hx hv hd hr ho =>
    have hk := hne hx (by rw [hv]; decide)
    exact .inl ⟨⟨e, (entries_ne hk).trans he, hs⟩, rfl⟩
  | reject hx hi hr =>
    have hk := hne hx (by rw [hi]; decide)
    exact .inl ⟨⟨e, (entries_ne hk).trans he, hs⟩, rejections_setRejection.trans (if_neg hk)⟩
  | @compensate _ _ k x r t hx hn hd hartifacts hr hp hc ho =>
    by_cases hk : key = k
    · subst hk
      exact .inr ⟨r, _, hr, hp, rejections_setRejection.trans (if_pos rfl), rfl⟩
    · exact .inl ⟨⟨e, (entries_ne hk).trans he, hs⟩, rejections_setRejection.trans (if_neg hk)⟩
  | take hnone hx hp hs' hpending => exact .inl ⟨⟨e, he, hs⟩, rfl⟩
  | bindSpec ho hnew => exact .inl ⟨⟨e, he, hs⟩, rfl⟩
  | bindChain hb ho hnew => exact .inl ⟨⟨e, he, hs⟩, rfl⟩

/-- A refusal becomes pending only when a proof is refused. -/
theorem pending_new {r' : SourceGateRejectionRow} (h : CourseStep codec a op C C')
    (hr' : C'.rejections key = some r') (hp : r'.state = .abortPending) :
    (∃ r, C.rejections key = some r ∧ r.state = .abortPending) ∨
      ∃ proof, op = .recordSourceGateProof proof ∧ key = ⟨.primary, proof.phase⟩ ∧
        ∃ e, C'.entries key = some e ∧ e.status = .needsReconcile := by
  cases h with
  | @reject _ proof e r t hx hi hr =>
    by_cases hk : key = ⟨.primary, proof.phase⟩
    · subst hk
      exact .inr ⟨proof, rfl, rfl, _, (entries_setEntry _).trans (if_pos rfl), rfl⟩
    · exact .inl ⟨r', (rejections_setRejection.trans (if_neg hk)).symm.trans hr', hp⟩
  | @compensate _ _ k x r t hx hn hd hartifacts hr hpending hc ho =>
    by_cases hk : key = k
    · subst hk
      have hsame := (rejections_setRejection.trans (if_pos rfl)).symm.trans hr'
      cases hsame
      cases hp
    · exact .inl ⟨r', (rejections_setRejection.trans (if_neg hk)).symm.trans hr', hp⟩
  | _ => exact .inl ⟨r', hr', hp⟩

theorem Quarantined.step (h : C.Quarantined) (hstep : CourseStep codec a op C C') :
    C'.Quarantined := by
  intro key r' hr' hp
  rcases pending_new hstep hr' hp with ⟨r, hr, hpending⟩ | ⟨_, _, _, hentry⟩
  · obtain ⟨e, he, hs⟩ := h key r hr hpending
    rcases ambiguous_step hstep he hs with ⟨hentry, -⟩ | ⟨_, r'', -, -, hr'', hcompensated⟩
    · exact hentry
    · rw [hr'] at hr''
      cases hr''
      rw [hp] at hcompensated
      cases hcompensated
  · exact hentry

end Course

namespace SecurityStore

theorem RejectionPending.entry (h : S.RejectionPending a key) (hS : (S.course a).Quarantined) :
    ∃ e, S.loadPhaseEntry a key = some e ∧ e.status = .needsReconcile := by
  obtain ⟨r, hr, hp⟩ := h
  exact hS key r hr hp

theorem RejectionPending.not_committed (h : S.RejectionPending a key)
    (hS : (S.course a).Quarantined) (hreceipted : (S.course a).Receipted codec a) {t : Int}
    {receipt : PhaseReceipt} :
    commitPhaseReceiptInBranch codec a key.phase key.branch t S ≠ (.ok receipt, S') := by
  intro hok
  obtain ⟨x, hx, hs⟩ := h.entry hS
  have hpending : x.status ≠ .committed := by
    rw [hs]
    decide
  simp only [commitPhaseReceiptInBranch, bind_ok_iff, lift_ok_iff,
    immediateTransaction_ok_iff] at hok
  obtain ⟨k, _, ⟨hk, rfl⟩, hok⟩ := hok
  obtain ⟨rfl, -⟩ := ExecutorPhaseBranch.storageKey_ok_iff.mp hk
  simp only [commitPhaseReceiptTransaction, Txn.ok_iff] at hok
  obtain ⟨_, -, existing, hload, hok⟩ := hok
  cases existing with
  | some existing =>
    -- a receipt would mean that the entry is committed
    cases hrow : S.receiptRow a key with
    | none =>
      rw [loadPhaseReceipt, hrow] at hload
      cases hload
    | some row =>
      exact Course.not_committed hx hpending
        ((hreceipted.committed_iff key).mpr (Option.isSome_of_eq_some hrow))
  | none =>
    simp only [commitNewReceipt, Txn.ok_iff] at hok
    obtain ⟨_, rfl, e, he, _, hv, -⟩ := hok
    rw [hx] at he
    cases he
    rw [hs] at hv
    cases hv

end SecurityStore

end Trust

namespace SecuritySample

end SecuritySample

end Rdashboard
