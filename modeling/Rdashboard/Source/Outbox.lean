import Rdashboard.Source.Discipline

/-! # The outbox

What a transaction can do to the rows of the outbox, said once: a pending row is acknowledged,
overtaken by a newer head, or superseded by a start that does not enable its project; a row that
was superseded becomes pending again when its head is enqueued again.  Pruning deletes only settled
rows that are not about the current head of their project. -/

namespace Rdashboard

open Relational Interleaving Txn TableRef SourceProg Table SourceLedger List
variable {codec : SourceCodec} {o : SourceOrigin}

/-- The head that a row of the outbox is about. -/
def SourceOutboxRow.entry (r : SourceOutboxRow) :
    ProjectId × Nat × SignedAcceptedHeadV1 × EvidenceDigest :=
  (r.projectId, r.sourceSequence, r.attestation, r.attestationDigest)

def VerifiedSourceDelivery.entry (d : VerifiedSourceDelivery) :
    ProjectId × Nat × SignedAcceptedHeadV1 × EvidenceDigest :=
  (d.attestation.payload.projectId, d.attestation.payload.sequence, d.attestation,
    d.attestationDigest)

/-- The row is of the project of the delivery, and the delivery is of its current head. -/
structure SourceProjectRow.Shows (row : SourceProjectRow) (d : VerifiedSourceDelivery) : Prop where
  project : row.projectId = d.attestation.payload.projectId
  attestation : row.attestation = some d.attestation
  digest : row.attestationDigest = some d.attestationDigest

/-- What a transaction makes of a row, where `enqueued` is the head that it enqueues. -/
inductive OutboxRowStep (codec : SourceCodec) (o : SourceOrigin)
    (enqueued : Option VerifiedSourceDelivery) (r : SourceOutboxRow) : SourceOutboxRow → Prop where
  | stays : (∀ d, enqueued = some d → r.status = .pending →
        r.projectId = d.attestation.payload.projectId →
        ¬ r.sourceSequence < d.attestation.payload.sequence) →
      OutboxRowStep codec o enqueued r r
  | acknowledged {thread : Nat} {t : Int} :
      o = .inr (.acknowledgeOutbox thread r.outboxSequence r.attestationDigest t) →
      r.status = .pending →
      OutboxRowStep codec o enqueued r { r with status := .delivered, settledAtMs := some t }
  | overtaken {d : VerifiedSourceDelivery} {t : Int} : enqueued = some d →
      r.projectId = d.attestation.payload.projectId →
      r.sourceSequence < d.attestation.payload.sequence → r.status = .pending →
      OutboxRowStep codec o enqueued r { r with status := .superseded, settledAtMs := some t }
  | disabled {start : BrokerStart} {t : Int} : o = .inl start →
      start.enables codec r.projectId = false → r.status = .pending →
      OutboxRowStep codec o enqueued r { r with status := .superseded, settledAtMs := some t }
  | renewed {d : VerifiedSourceDelivery} {t : Int} : enqueued = some d → r.entry = d.entry →
      r.status = .superseded →
      OutboxRowStep codec o enqueued r
        { r with status := .pending, enqueuedAtMs := t, settledAtMs := none }

theorem OutboxRowStep.entry_eq {enqueued : Option VerifiedSourceDelivery} {r r' : SourceOutboxRow}
    (h : OutboxRowStep codec o enqueued r r') : r'.entry = r.entry := by
  cases h <;> rfl

namespace SourceLedger

variable {L L' : SourceLedger} {epoch : Nat} {u : Unit}
variable {t : Int}

/-- The row is about the current head of its project. -/
def Current (L : SourceLedger) (r : SourceOutboxRow) : Prop :=
  ∃ row ∈ L.projects.rows, row.projectId = r.projectId ∧ row.sequence = r.sourceSequence ∧
    row.attestationDigest = some r.attestationDigest

/-- The delivery was completed before, or completed with the head that the project shows; a
reconciliation with automatic deployment that completes enqueues its head. -/
def Completes (codec : SourceCodec) (enqueued : Option VerifiedSourceDelivery) (L : SourceLedger)
    (q : SourceDeliveryRow) : Prop :=
  q ∈ L.deliveries.rows ∨
    ∀ d, q.outcome = some (.deployable d) → d.attestation.payload.projectId = q.projectId ∧
      ∃ row ∈ L.projects.rows, row.Shows d ∧ (q.channel = .sourceReconciliation →
        ∃ document : ReconcileDocument, q.payloadDigest = codec.sha256 (.reconcile document) ∧
          document.sequence ≤ row.sequence ∧ (document.autoDeploy = true → enqueued = some d))

/-- What a transaction does to the outbox and to the completed deliveries. -/
structure OutboxStep (codec : SourceCodec) (o : SourceOrigin)
    (enqueued : Option VerifiedSourceDelivery) (L L' : SourceLedger) : Prop where
  shown : ∀ d, enqueued = some d → ∃ row ∈ L.projects.rows, row.Shows d
  present : ∀ d, enqueued = some d → ∃ r, r.entry = d.entry ∧ r.status ≠ .superseded ∧
    (r.status = .pending ∨ L.Current r → r ∈ L'.outbox.rows)
  back : ∀ r' ∈ L'.outbox.rows, (∃ r ∈ L.outbox.rows, OutboxRowStep codec o enqueued r r') ∨
    ∃ d, enqueued = some d ∧ r'.entry = d.entry ∧
      ∀ r ∈ L.outbox.rows, r.attestationDigest ≠ d.attestationDigest
  forth : ∀ r ∈ L.outbox.rows, ∃ r', OutboxRowStep codec o enqueued r r' ∧
    (r'.status = .pending ∨ L.Current r' → r' ∈ L'.outbox.rows)
  completed : ∀ q ∈ L'.deliveries.rows, q.status = .completed → Completes codec enqueued L q
  started : ∀ start, o = .inl start → enqueued = none ∧ L'.KeepsCompleted L

/-- A transaction that leaves the outbox alone. -/
theorem OutboxStep.silent (houtbox : L'.outbox = L.outbox)
    (hcompleted : ∀ q ∈ L'.deliveries.rows, q.status = .completed → Completes codec none L q)
    (hstarted : ∀ start, o = .inl start → L'.KeepsCompleted L) :
    OutboxStep codec o none L L' := by
  refine ⟨fun _ => (nomatch ·), fun _ => (nomatch ·), fun r' hr' => ?_, fun r hr => ?_,
    hcompleted, fun start ho => ⟨rfl, hstarted start ho⟩⟩
  · rw [houtbox] at hr'
    exact .inl ⟨r', hr', .stays fun _ => (nomatch ·)⟩
  · refine ⟨r, .stays (fun _ => (nomatch ·)), fun _ => ?_⟩
    rw [houtbox]
    exact hr

/-- A transaction that leaves the outbox alone and completes no delivery. -/
theorem OutboxStep.idle (houtbox : L'.outbox = L.outbox) (hcompleted : L'.KeepsCompleted L) :
    OutboxStep codec o none L L' :=
  .silent houtbox (fun q hq hdone => .inl (hcompleted q hq hdone)) fun _ _ => hcompleted

theorem pruneSettledOutbox_ok (h : pruneSettledOutbox L = .ok (u, L')) :
    L' = { L with outbox := L'.outbox } ∧ (∀ r ∈ L'.outbox.rows, r ∈ L.outbox.rows) ∧
      ∀ r ∈ L.outbox.rows, r.status = .pending ∨ L.Current r → r ∈ L'.outbox.rows := by
  obtain ⟨_, -, _, rfl, _, -, -, rfl⟩ := h
  refine ⟨rfl, fun r hr => (mem_filter.mp hr).1, fun r hr hkept => mem_filter.mpr ⟨hr, ?_⟩⟩
  rcases hkept with hpending | ⟨row, hrow, hproject, hsequence, hdigest⟩
  · simp [hpending]
  · have hcurrent : (L.projects.rows.any fun current => decide (current.projectId = r.projectId) &&
        decide (current.sequence = r.sourceSequence) &&
        decide (current.attestationDigest = some r.attestationDigest)) = true :=
      any_eq_true.mpr ⟨row, hrow, by simp [hproject, hsequence, hdigest]⟩
    simp only [hcurrent]
    simp

/-- A statement that rewrites pending rows of the outbox, and then the pruning. -/
theorem OutboxStep.of_update {w : SourceOutboxRow → Bool} {f : SourceOutboxRow → SourceOutboxRow}
    {n : Nat} {L₁ : SourceLedger}
    (hupdate : (sourceOutboxT.update w f : Txn SourceLedger SourceError Nat) L = .ok (n, L₁))
    (hw : ∀ r, w r = true → OutboxRowStep codec o none r (f r))
    (hprune : pruneSettledOutbox L₁ = .ok (u, L')) : OutboxStep codec o none L L' := by
  obtain ⟨t, ht, -, rfl⟩ := update_ok_iff.mp hupdate
  obtain ⟨hL', hback, hforth⟩ := pruneSettledOutbox_ok hprune
  have hrow : ∀ r, OutboxRowStep codec o none r (assign w f r) := by
    intro r
    by_cases hr : w r = true
    · rw [assign_of_pos f hr]
      exact hw r hr
    · rw [assign_of_neg f hr]
      exact .stays fun _ => (nomatch ·)
  have hcompleted : L'.KeepsCompleted L := .of_eq (by rw [hL']; rfl)
  refine ⟨fun _ => (nomatch ·), fun _ => (nomatch ·), fun r' hr' => ?_, fun r hr => ?_,
    fun q hq hdone => .inl (hcompleted q hq hdone), fun _ _ => ⟨rfl, hcompleted⟩⟩
  · have hmem : r' ∈ t.rows := hback r' hr'
    rw [rows_update ht] at hmem
    obtain ⟨r, hr, rfl⟩ := mem_map.mp hmem
    exact .inl ⟨r, hr, hrow r⟩
  · refine ⟨_, hrow r, fun hkept => hforth _ ?_ hkept⟩
    change _ ∈ t.rows
    rw [rows_update ht]
    exact mem_map_of_mem hr

theorem reconcileOutboxPolicy_step {start : BrokerStart}
    (h : reconcileOutboxPolicy epoch (start.enables codec) t L = .ok (u, L')) :
    OutboxStep codec (.inl start) none L L' := by
  simp only [reconcileOutboxPolicy, ok_iff, epoch_iff] at h
  obtain ⟨_, -, _, -, _, L₁, hupdate, hprune⟩ := h
  refine .of_update hupdate (fun r hr => ?_) hprune
  simp only [where_iff, Bool.not_eq_true'] at hr
  exact .disabled rfl hr.2 hr.1

theorem acknowledgeOutbox_step {thread n : Nat} {digest : EvidenceDigest}
    (h : acknowledgeOutbox epoch n digest t L = .ok (u, L')) :
    OutboxStep codec (.inr (.acknowledgeOutbox thread n digest t)) none L L' := by
  simp only [acknowledgeOutbox, ok_iff, epoch_iff] at h
  obtain ⟨_, -, _, -, _, -, stored, -, _, -, _, -, h⟩ := h
  split_ifs at h with hpending
  · simp only [ok_iff] at h
    obtain ⟨_, L₁, hupdate, _, -, hprune⟩ := h
    refine .of_update hupdate (fun r hr => ?_) hprune
    simp only [where_iff] at hr
    obtain ⟨⟨rfl, rfl⟩, hstatus⟩ := hr
    exact .acknowledged rfl hstatus
  · obtain ⟨hL', hback, hforth⟩ := pruneSettledOutbox_ok h
    have hcompleted : L'.KeepsCompleted L := .of_eq (by rw [hL'])
    have hstays : ∀ r, OutboxRowStep codec (.inr (.acknowledgeOutbox thread n digest t)) none r r :=
      fun r => .stays fun _ hd => by cases hd
    exact ⟨fun _ hd => (by cases hd), fun _ hd => (by cases hd),
      fun r' hr' => .inl ⟨r', hback r' hr', hstays r'⟩, fun r hr => ⟨r, hstays r, hforth r hr⟩,
      fun q hq hdone => .inl (hcompleted q hq hdone), fun _ _ => ⟨rfl, hcompleted⟩⟩

/-! ### Enqueueing -/

theorem outbox_by_digest : sourceOutboxSchema.Separates (·.attestationDigest) := by
  intro r q h heq
  simp only [sourceOutboxSchema, decide_eq_true_eq] at h
  exact h.2.1 heq

/-- Enqueueing a head, as one map of the rows and at most one new row. -/
theorem enqueueDelivery_rows {d : VerifiedSourceDelivery}
    (h : enqueueDelivery codec d t L = .ok (u, L')) : ∃ L₃,
      L₃ = { L with outbox := L₃.outbox } ∧ pruneSettledOutbox L₃ = .ok ((), L') ∧
      (∃ r ∈ L₃.outbox.rows, r.entry = d.entry ∧ r.status ≠ .superseded) ∧
      (∀ r ∈ L.outbox.rows, ∃ r' ∈ L₃.outbox.rows, OutboxRowStep codec o (some d) r r') ∧
      ∀ r' ∈ L₃.outbox.rows, (∃ r ∈ L.outbox.rows, OutboxRowStep codec o (some d) r r') ∨
        r'.entry = d.entry ∧ ∀ r ∈ L.outbox.rows, r.attestationDigest ≠ d.attestationDigest := by
  simp only [enqueueDelivery, ok_iff] at h
  obtain ⟨_, -, n, hn, _, L₁, hovertake, rowid, -, _, L₂, hinsert, _, L₃,
    hrenew, _, hpersisted, persisted, rfl, _, -, _, ⟨hproject, hsequence, hattestation, hdigest⟩, hprune⟩ := h
  obtain rfl := sequenceToI64_ok hn
  obtain ⟨t₁, ht₁, -, rfl⟩ := update_ok_iff.mp hovertake
  obtain ⟨t₃, ht₃, -, rfl⟩ := update_ok_iff.mp hrenew
  -- the insert adds at most the new row, and only when no row has its digest
  obtain ⟨added, hL₂, hrows₂, hadded⟩ : ∃ added, L₂ = { L with outbox := L₂.outbox } ∧
      (sourceOutboxT.get L₂).rows = t₁.rows ++ added ∧ ∀ r ∈ added, r.status = .pending ∧
        r.entry = d.entry ∧ ∀ q ∈ L.outbox.rows, q.attestationDigest ≠ d.attestationDigest := by
    obtain ⟨-, ⟨hfresh, t₂, ht₂, rfl⟩ | ⟨-, rfl⟩⟩ := insertNew_ok_iff.mp hinsert
    · refine ⟨_, rfl, rows_insert ht₂, forall_mem_singleton.mpr ⟨rfl, rfl, fun r hr h => ?_⟩⟩
      obtain ⟨q, hq, hdigest⟩ := mem_update_column (u := (·.attestationDigest))
        (by exact fun _ _ => rfl) ht₁ hr
      exact lookup_eq_none_iff.mp hfresh q hq (hdigest.trans h)
    · exact ⟨[], rfl, (append_nil _).symm, forall_mem_nil _⟩
  have hentry : persisted.entry = d.entry := by
    unfold SourceOutboxRow.entry VerifiedSourceDelivery.entry
    rw [hproject, hsequence, hattestation, hdigest]
  have hmem₃ := mem_of_lookup hpersisted
  obtain ⟨g, hrows₃, hstep⟩ : ∃ g : SourceOutboxRow → SourceOutboxRow,
      t₃.rows = L.outbox.rows.map g ++ added ∧
        ∀ r, g r ∈ t₃.rows → OutboxRowStep codec o (some d) r (g r) := by
    refine ⟨assign ?_ ?_ ∘ assign ?_ ?_, ?rows, fun r hmem => ?row⟩
    case rows =>
      rw [rows_update ht₃, hrows₂, map_append, rows_update ht₁, map_map]
      refine congrArg _ (.trans (map_congr_left fun r hr => assign_of_neg _ ?_) (map_id _))
      simp [(hadded r hr).1]
    case row =>
      rw [Function.comp] at hmem ⊢
      by_cases hover : r.projectId = d.attestation.payload.projectId ∧
          r.sourceSequence < d.attestation.payload.sequence ∧ r.status = .pending
      · rw [assign_of_pos (r := r) _ (by simp [hover]), assign_of_neg _ (by simp [hover.2.1.ne])]
        exact .overtaken rfl hover.1 hover.2.1 hover.2.2
      rw [assign_of_neg (r := r) _ (by simpa [and_assoc] using hover)] at hmem ⊢
      by_cases hagain : (r.projectId = d.attestation.payload.projectId ∧
          r.sourceSequence = d.attestation.payload.sequence) ∧
          r.attestationDigest = d.attestationDigest ∧ r.status = .superseded
      · rw [assign_of_pos _ (by simp [hagain])] at hmem ⊢
        refine .renewed rfl ?_ hagain.2.2
        exact (eq_of_key outbox_by_digest hmem hmem₃ (hagain.2.1.trans hdigest.symm) ▸ hentry :)
      · rw [assign_of_neg _ (by simpa [and_assoc] using hagain)]
        refine .stays ?_
        rintro _ ⟨⟩ hpending hsame hless
        exact hover ⟨hsame, hless, hpending⟩
  have hforth : ∀ r ∈ L.outbox.rows, g r ∈ t₃.rows := fun r hr =>
    hrows₃ ▸ mem_append_left _ (mem_map_of_mem hr)
  refine ⟨_, by rw [hL₂]; rfl, hprune, ⟨persisted, hmem₃, hentry, fun hstatus => ?_⟩,
    fun r hr => ⟨g r, hforth r hr, hstep r (hforth r hr)⟩, fun r' hr' => ?_⟩
  · -- a superseded row of this head would have been renewed
    obtain ⟨-, hnot⟩ | ⟨r₂, -, -, rfl⟩ := mem_of_update ht₃ hmem₃
    · exact hnot (by simp [hproject, hsequence, hdigest, hstatus])
    · cases hstatus
  · rcases mem_append.mp (hrows₃ ▸ hr') with hold | hnew
    · obtain ⟨r, hr, rfl⟩ := mem_map.mp hold
      exact .inl ⟨r, hr, hstep r hr'⟩
    · exact .inr (hadded r' hnew).2

/-- Completing a delivery, with or without enqueueing its head. -/
theorem finishDelivery_step {i : SourceCall} {claim : DeliveryClaim} {outcome reported : SourceIngressOutcome}
    {enqueue : Bool}
    (hdeliverable : ∀ d, outcome = .deployable d → ∃ row,
      L.projects.lookup (·.projectId) claim.projectId = some row ∧
        Deliverable codec row claim enqueue d)
    (h : finishDelivery codec epoch claim outcome enqueue t L = .ok (reported, L')) :
    ∃ enqueued, OutboxStep codec (.inr i) enqueued L L' := by
  obtain ⟨-, hvalid, r, L₁, -, hkey, hpayload, hL₁, -, -, hcompleted, hrest⟩ := finishDelivery_ok h
  obtain ⟨hproject, hchannel, -⟩ : r.projectId = claim.projectId ∧ r.channel = claim.channel ∧
      r.deliveryId = claim.deliveryId := by
    simpa [SourceDeliveryRow.key] using hkey
  have hreported : ∀ enqueued, (∀ d, outcome = .deployable d → enqueue = true → enqueued = some d) →
      ∀ q ∈ L₁.deliveries.rows, q.status = .completed → Completes codec enqueued L q := by
    intro enqueued henqueued q hq _
    rcases hcompleted q hq with hq | rfl
    · exact .inl hq
    · refine .inr fun d hd => ?_
      obtain rfl : outcome = .deployable d := Option.some.inj hd
      obtain ⟨row, hrow, hattestation, hdigest, hdocument⟩ := hdeliverable d rfl
      have hbinding := Check.ensure_ok_iff.mp hvalid
      refine ⟨hbinding.2.2.2.1.trans hproject.symm, row, mem_of_lookup hrow,
        ⟨(key_of_lookup hrow).trans hbinding.2.2.2.1.symm, hattestation, hdigest⟩, fun hc => ?_⟩
      obtain ⟨document, hsha, hauto, hsequence⟩ := hdocument (hchannel.symm.trans hc)
      exact ⟨document, hpayload.trans hsha, hsequence, fun h => henqueued d rfl (hauto ▸ h)⟩
  have hsilent : L' = L₁ → (∀ d, outcome = .deployable d → enqueue ≠ true) →
      ∃ enqueued, OutboxStep codec (.inr i) enqueued L L' := by
    rintro rfl hnone
    exact ⟨none, .silent (by rw [hL₁]) (hreported none fun d hd h => absurd h (hnone d hd))
      fun _ => (nomatch ·)⟩
  cases enqueue with
  | false => exact hsilent hrest fun _ _ => by decide
  | true =>
    cases outcome with
    | deployable d =>
      obtain ⟨row, hrow, hattestation, hdigest, -⟩ := hdeliverable d rfl
      have hbinding := Check.ensure_ok_iff.mp hvalid
      obtain ⟨L₃, hL₃, hprune, ⟨r', hr', hentry, hstatus⟩, hforth, hback⟩ :=
        enqueueDelivery_rows hrest
      obtain ⟨hL', hkept, hkeeps⟩ := pruneSettledOutbox_ok hprune
      have hcurrent : ∀ r, L.Current r → L₃.Current r := by
        rw [hL₃, hL₁]
        exact fun r h => h
      rw [hL₁] at hforth hback
      refine ⟨some d, ?_, ?_, fun r hr => ?_, fun r hr => ?_, fun q hq hdone => ?_,
        fun _ => (nomatch ·)⟩
      · rintro _ ⟨⟩
        exact ⟨row, mem_of_lookup hrow,
          (key_of_lookup hrow).trans hbinding.2.2.2.1.symm, hattestation, hdigest⟩
      · rintro _ ⟨⟩
        exact ⟨r', hentry, hstatus, fun h => hkeeps r' hr' (h.imp_right (hcurrent r'))⟩
      · rcases hback r (hkept r hr) with hold | ⟨hnew, hfresh⟩
        · exact .inl hold
        · exact .inr ⟨d, rfl, hnew, hfresh⟩
      · obtain ⟨r'', hmem, hstep⟩ := hforth r hr
        exact ⟨r'', hstep, fun h => hkeeps r'' hmem (h.imp_right (hcurrent r''))⟩
      · refine hreported (some d) (fun d' hd' _ => ?_) q ?_ hdone
        · cases hd'
          rfl
        · rw [hL', hL₃] at hq
          exact hq
    | staleNoop | ignoredRef | sourceDivergedNeedsOwner | reconciliationPaused | blockedSha =>
      exact hsilent (pure_ok_iff.mp hrest).2.symm fun _ => (nomatch ·)

end SourceLedger

/-- What any transaction does to the outbox and to the completed deliveries. -/
theorem LedgerStep.outboxStep {L L' : SourceLedger}
    (h : LedgerStep codec o L L') : ∃ enqueued, SourceLedger.OutboxStep codec o enqueued L L' := by
  have hidle : L.SameCompleted L' → ∃ enqueued, SourceLedger.OutboxStep codec o enqueued L L' :=
    fun hsame => ⟨none, .idle (by rw [hsame.others]) hsame.back⟩
  replace h := h.delivery_cases
  obtain ⟨houtbox, hdeliveries⟩ | h := h
  · exact ⟨none, .idle houtbox (.of_eq hdeliveries.symm)⟩
  cases h with
  | reserveDelivery h => exact hidle (reserveDelivery_sameCompleted h)
  | finishDelivery hdeliverable h => exact finishDelivery_step hdeliverable h
  | abandonDelivery h => exact hidle (abandonDelivery_sameCompleted h)
  | recoverIncompleteDeliveries h => exact hidle (recoverIncompleteDeliveries_sameCompleted h)
  | reconcileOutboxPolicy h => exact ⟨none, reconcileOutboxPolicy_step h⟩
  | acknowledgeOutbox h => exact ⟨none, acknowledgeOutbox_step h⟩

end Rdashboard
