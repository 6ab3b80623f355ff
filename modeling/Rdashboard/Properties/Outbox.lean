import Rdashboard.Properties.AcceptedHeads
import Rdashboard.Source.Heads

/-! # The outbox keeps the current head

A project has at most one pending row, a pending row leaves only for a reason, and a delivered row
stays delivered.  A reconciliation that reports a deployable head has the row of the current head
in the outbox, unless a start revoked that row after a reconciliation with automatic deployment had
reported it: the completed reconciliation is then replayed from its delivery, and nothing enqueues
the head again. -/

namespace Rdashboard

open Relational Interleaving Txn SourceProg SourceLedger List Option Table
variable {L : SourceLedger} {a : AcceptedHeadRow} {r : SourceOutboxRow} {d : VerifiedSourceDelivery}

namespace SourceLedger

variable {codec : SourceCodec}

/-- Rows of the outbox are accepted heads, and a project has at most one that is pending. -/
structure OutboxInv (codec : SourceCodec) (L : SourceLedger) : Prop where
  attested : L.Attested codec
  accepted : ∀ r ∈ L.outbox.rows, ∃ a ∈ L.acceptedHeads.rows, a.entry = r.entry
  single : ∀ r ∈ L.outbox.rows, ∀ q ∈ L.outbox.rows, r.status = .pending → q.status = .pending →
    r.projectId = q.projectId → r = q

theorem OutboxInv.empty : OutboxInv codec .empty :=
  ⟨fun _ h => absurd h not_mem_nil, fun _ h => absurd h not_mem_nil,
    fun _ h => absurd h not_mem_nil⟩

theorem OutboxInv.lease (h : L.OutboxInv codec)
    (epoch : Nat) : OutboxInv codec { L with brokerEpoch := some epoch } := ⟨h.attested, h.accepted, h.single⟩

theorem outbox_by_sequence :
    sourceOutboxSchema.Separates fun r => (r.projectId, r.sourceSequence) := by
  intro r q h heq
  simp only [sourceOutboxSchema, decide_eq_true_eq] at h
  exact h.2.2 heq

theorem entry_eq_iff : a.entry = r.entry ↔
    a.projectId = r.projectId ∧ a.sequence = r.sourceSequence ∧ a.attestation = r.attestation ∧
      a.attestationDigest = r.attestationDigest := by
  simp [AcceptedHeadRow.entry, SourceOutboxRow.entry]

variable {L' : SourceLedger} {o : SourceOrigin} {enqueued : Option VerifiedSourceDelivery}

theorem OutboxStep.pending (h : OutboxStep codec o enqueued L L')
    (hr : r ∈ L'.outbox.rows) (hpending : r.status = .pending) :
    (r ∈ L.outbox.rows ∧ ∀ d, enqueued = some d → r.projectId = d.attestation.payload.projectId →
      ¬ r.sourceSequence < d.attestation.payload.sequence) ∨
    ∃ d, enqueued = some d ∧ r.entry = d.entry := by
  obtain ⟨q, hq, hstep⟩ | ⟨d, hd, hentry, -⟩ := h.back r hr
  · cases hstep with
    | stays hkept => exact .inl ⟨hq, fun d hd => hkept d hd hpending⟩
    | renewed hd hentry _ => exact .inr ⟨_, hd, hentry⟩
    | acknowledged | overtaken | disabled => cases hpending
  · exact .inr ⟨d, hd, hentry⟩

end SourceLedger

section Known

variable {W : Type} {R : ProjectId → GitCommitId → GitCommitId → Prop} {s : SourceState W}
  {L' : SourceLedger} {codec : SourceCodec} {o : SourceOrigin}
  {enqueued : Option VerifiedSourceDelivery}

/-- The head that a transaction enqueues is the latest one of its project. -/
theorem SourceKnown.enqueued_latest (hknown : SourceKnown R s) (hattested : s.ledger.Attested codec)
    (hstep : SourceLedger.OutboxStep codec o enqueued s.ledger L')
    (hd : enqueued = some d) : ∃ a, s.ledger.Latest a ∧ a.entry = d.entry := by
  obtain ⟨row, hrow, hshows⟩ := hstep.shown d hd
  obtain ⟨a, ha, hentry, -⟩ := hknown.shown hattested hrow hshows
  exact ⟨a, ha, hentry⟩

theorem SourceLedger.OutboxInv.step (hknown : SourceKnown R s) (h : s.ledger.OutboxInv codec)
    (hledger : LedgerStep codec o s.ledger L') : L'.OutboxInv codec := by
  obtain ⟨enqueued, hstep⟩ := hledger.outboxStep
  have hmore := hledger.acceptsMore
  refine ⟨hledger.attested h.attested, fun r hr => ?_, fun r hr q hq hpending hpending' hsame => ?_⟩
  · obtain ⟨r₀, hr₀, hrow⟩ | ⟨d, hd, hentry, -⟩ := hstep.back r hr
    · obtain ⟨a, ha, hentry⟩ := h.accepted r₀ hr₀
      exact ⟨a, hmore.keeps a ha, hentry.trans hrow.entry_eq.symm⟩
    · obtain ⟨a, ha, hentry'⟩ := hknown.enqueued_latest h.attested hstep hd
      exact ⟨a, hmore.keeps a ha.mem, hentry'.trans hentry.symm⟩
  · -- a row that stays pending is not older than the enqueued head, and that one is the latest
    have hmeets : ∀ r ∈ s.ledger.outbox.rows, r ∈ L'.outbox.rows → ∀ q ∈ L'.outbox.rows, ∀ d,
        enqueued = some d → r.projectId = q.projectId → q.entry = d.entry →
        (r.projectId = d.attestation.payload.projectId →
          ¬ r.sourceSequence < d.attestation.payload.sequence) → r = q := by
      intro r hr hr' q hq d hd hsame hentry hkept
      obtain ⟨a, ha, ha'⟩ := hknown.enqueued_latest h.attested hstep hd
      obtain ⟨a₀, ha₀, hr₀⟩ := h.accepted r hr
      obtain ⟨hproject, hsequence, -, -⟩ := entry_eq_iff.mp (ha'.trans hentry.symm)
      obtain ⟨hproject₀, hsequence₀, -, -⟩ := entry_eq_iff.mp hr₀
      have hle := ha.latest a₀ ha₀ (by rw [hproject₀, hproject, hsame])
      have hdp : q.projectId = d.attestation.payload.projectId := congrArg Prod.fst hentry
      have hds : q.sourceSequence = d.attestation.payload.sequence :=
        congrArg (fun e => e.2.1) hentry
      have hnot := hkept (hsame.trans hdp)
      exact eq_of_key outbox_by_sequence hr' hq (Prod.ext hsame (by omega))
    rcases hstep.pending hr hpending with ⟨hr₀, hrkept⟩ | ⟨d, hd, hentry⟩
    · rcases hstep.pending hq hpending' with ⟨hq₀, -⟩ | ⟨d, hd, hentry⟩
      · exact h.single r hr₀ q hq₀ hpending hpending' hsame
      · exact hmeets r hr₀ hr q hq d hd hsame hentry (hrkept d hd)
    · rcases hstep.pending hq hpending' with ⟨hq₀, hqkept⟩ | ⟨d', hd', hentry'⟩
      · exact (hmeets q hq₀ hq r hr d hd hsame.symm hentry (hqkept d hd)).symm
      · cases hd.symm.trans hd'
        exact eq_of_key outbox_by_digest hr hq
          (congrArg (fun e => e.2.2.2) (hentry.trans hentry'.symm))

/-! ### Delivered rows -/

/-- The head is delivered for good: its rows are delivered, and there is one as long as it is the
latest head of its project. -/
structure SourceLedger.DeliveredFor (L : SourceLedger) (a : AcceptedHeadRow) : Prop where
  mem : a ∈ L.acceptedHeads.rows
  delivered : ∀ r ∈ L.outbox.rows, r.projectId = a.projectId →
    r.attestationDigest = a.attestationDigest → r.status = .delivered
  present : L.Latest a → ∃ r ∈ L.outbox.rows, r.entry = a.entry

theorem SourceLedger.DeliveredFor.lease (h : L.DeliveredFor a) (epoch : Nat) :
    DeliveredFor { L with brokerEpoch := some epoch } a :=
  ⟨h.mem, h.delivered, fun hlatest => h.present ⟨hlatest.mem, hlatest.latest⟩⟩

theorem SourceLedger.DeliveredFor.step (hknown : SourceKnown R s) (hinv : s.ledger.OutboxInv codec)
    (h : s.ledger.DeliveredFor a) (hledger : LedgerStep codec o s.ledger L') : L'.DeliveredFor a := by
  obtain ⟨enqueued, hstep⟩ := hledger.outboxStep
  have hmore := hledger.acceptsMore
  -- enqueueing the head again finds its delivered row
  have hagain : ∀ d, enqueued = some d → d.attestation.payload.projectId = a.projectId →
      d.attestationDigest = a.attestationDigest →
      ∃ r ∈ s.ledger.outbox.rows, r.attestationDigest = d.attestationDigest ∧
        r.status = .delivered := by
    intro d hd hproject hdigest
    obtain ⟨a', ha', hentry⟩ := hknown.enqueued_latest hinv.attested hstep hd
    obtain rfl : a' = a := eq_of_key accepted_by_digest ha'.mem h.mem
      (Prod.ext ((congrArg Prod.fst hentry).trans hproject)
        ((congrArg (fun e => e.2.2.2) hentry).trans hdigest))
    obtain ⟨r, hr, hr'⟩ := h.present ha'
    obtain ⟨hrp, -, -, hrd⟩ := entry_eq_iff.mp hr'.symm
    exact ⟨r, hr, hrd.symm.trans hdigest.symm, h.delivered r hr hrp.symm hrd.symm⟩
  refine ⟨hmore.keeps a h.mem, fun r hr hproject hdigest => ?_, fun hlatest => ?_⟩
  · obtain ⟨r₀, hr₀, hrow⟩ | ⟨d, hd, hentry, hfresh⟩ := hstep.back r hr
    · have hentry := hrow.entry_eq
      have hold := h.delivered r₀ hr₀ ((congrArg Prod.fst hentry).symm.trans hproject)
        ((congrArg (fun e => e.2.2.2) hentry).symm.trans hdigest)
      cases hrow with
      | stays _ => exact hold
      | acknowledged => rfl
      | overtaken _ _ _ hpending => exact absurd (hold.symm.trans hpending) (by decide)
      | disabled _ _ hpending => exact absurd (hold.symm.trans hpending) (by decide)
      | renewed _ _ hsuperseded => exact absurd (hold.symm.trans hsuperseded) (by decide)
    · obtain ⟨r₀, hr₀, hsame, -⟩ := hagain d hd ((congrArg Prod.fst hentry).symm.trans hproject)
        ((congrArg (fun e => e.2.2.2) hentry).symm.trans hdigest)
      exact absurd hsame (hfresh r₀ hr₀)
  · have hbefore : s.ledger.Latest a := ⟨h.mem, fun a' ha' => hlatest.latest a' (hmore.keeps a' ha')⟩
    obtain ⟨r, hr, hentry⟩ := h.present hbefore
    obtain ⟨r', hrow, hkept⟩ := hstep.forth r hr
    exact ⟨r', hkept (.inr (hknown.current hbefore (hrow.entry_eq.trans hentry))),
      hrow.entry_eq.trans hentry⟩

/-! ### Pending rows -/

/-- Why a pending row leaves. -/
theorem LedgerStep.pending_leaves (hknown : SourceKnown R s) (hinv : s.ledger.OutboxInv codec)
    (hledger : LedgerStep codec o s.ledger L') (hr : r ∈ s.ledger.outbox.rows)
    (hpending : r.status = .pending) : r ∈ L'.outbox.rows ∨
      (∃ thread t, o = .inr (.acknowledgeOutbox thread r.outboxSequence r.attestationDigest t)) ∨
      (∃ q ∈ L'.outbox.rows, q.projectId = r.projectId ∧ r.sourceSequence < q.sourceSequence) ∨
      ∃ start, o = .inl start ∧ start.enables codec r.projectId = false := by
  obtain ⟨enqueued, hstep⟩ := hledger.outboxStep
  obtain ⟨r', hmove, hkept⟩ := hstep.forth r hr
  cases hmove with
  | stays _ => exact .inl (hkept (.inl hpending))
  | acknowledged ho _ => exact .inr (.inl ⟨_, _, ho⟩)
  | @overtaken d _ hd hsame hless _ =>
    obtain ⟨a, ha, hentry⟩ := hknown.enqueued_latest hinv.attested hstep hd
    obtain ⟨q, hq, -, hmem⟩ := hstep.present d hd
    have hp : q.projectId = d.attestation.payload.projectId := congrArg Prod.fst hq
    have hs : q.sourceSequence = d.attestation.payload.sequence := congrArg (fun e => e.2.1) hq
    refine .inr (.inr (.inl ⟨q, hmem (.inr (hknown.current ha (hq.trans hentry.symm))), ?_, ?_⟩))
    · rw [hp, hsame]
    · rw [hs]
      exact hless
  | disabled ho hoff _ => exact .inr (.inr (.inr ⟨_, ho, hoff⟩))
  | renewed _ _ hsuperseded => exact absurd (hpending.symm.trans hsuperseded) (by decide)

/-! ### Announced heads -/

/-- The delivery is a completed reconciliation with automatic deployment that reported `d`. -/
structure SourceDeliveryRow.Announces (codec : SourceCodec) (q : SourceDeliveryRow)
    (document : ReconcileDocument) (d : VerifiedSourceDelivery) : Prop where
  channel : q.channel = .sourceReconciliation
  completed : q.status = .completed
  payload : q.payloadDigest = codec.sha256 (.reconcile document)
  autoDeploy : document.autoDeploy = true
  outcome : q.outcome = some (.deployable d)

/-- Digests of reconciliations tell the `auto_deploy` flag and the sequence. -/
structure SourceCodec.TellsReconciliations (codec : SourceCodec) : Prop where
  autoDeploy : ∀ d d' : ReconcileDocument,
    codec.sha256 (.reconcile d) = codec.sha256 (.reconcile d') → d.autoDeploy = d'.autoDeploy
  sequence : ∀ d d' : ReconcileDocument,
    codec.sha256 (.reconcile d) = codec.sha256 (.reconcile d') → (d.sequence : Int) ≤ i64Max →
    (d'.sequence : Int) ≤ i64Max → d.sequence = d'.sequence

/-- The start leaves every pending row that an automatic reconciliation has reported: it enables
the project of the row, or no completed reconciliation with automatic deployment reported it. -/
def RevokesNoAnnounced (codec : SourceCodec) (start : BrokerStart) (s : SourceState W) : Prop :=
  ∀ r ∈ s.ledger.outbox.rows, r.status = .pending → start.enables codec r.projectId = true ∨
    ∀ q ∈ s.ledger.deliveries.rows, ∀ document d, q.Announces codec document d →
      q.projectId = r.projectId → d.attestationDigest ≠ r.attestationDigest

/-- The steps of a start keep what it leaves alone. -/
theorem RevokesNoAnnounced.startStep {start : BrokerStart} {s' : SourceState W}
    (h : RevokesNoAnnounced codec start s) (hstep : startStep codec start s s') :
    RevokesNoAnnounced codec start s' := by
  refine hstep.invariant (I := fun L => RevokesNoAnnounced codec start { s with ledger := L })
    (fun _ => h) (fun L' hledger r hr hpending => ?_) h
  obtain ⟨enqueued, houtbox⟩ := hledger.outboxStep
  obtain ⟨rfl, hcompleted⟩ := houtbox.started start rfl
  obtain ⟨hold, -⟩ | ⟨d, hd, -⟩ := houtbox.pending hr hpending
  · refine (h r hold hpending).imp_right fun hnone q hq document d hannounced => ?_
    exact hnone q (hcompleted q hq hannounced.completed) document d hannounced
  · cases hd

/-- What an automatic reconciliation reported is an accepted head, not older than what the
reconciliation saw, and its row is in the outbox as long as it is the latest of its project. -/
def SourceLedger.HoldsAnnounced (codec : SourceCodec) (L : SourceLedger) : Prop :=
  ∀ q ∈ L.deliveries.rows, ∀ document d, q.Announces codec document d →
    ∃ a ∈ L.acceptedHeads.rows, a.entry = d.entry ∧ a.projectId = q.projectId ∧
      ((document.sequence : Int) ≤ i64Max → document.sequence ≤ a.sequence) ∧
      (L.Latest a → ∃ r ∈ L.outbox.rows, r.entry = d.entry ∧ r.status ≠ .superseded)

theorem SourceLedger.HoldsAnnounced.lease (h : L.HoldsAnnounced codec)
    (epoch : Nat) : HoldsAnnounced codec { L with brokerEpoch := some epoch } := by
  intro q hq document d hannounced
  obtain ⟨a, ha, hentry, hproject, hsequence, hrow⟩ := h q hq document d hannounced
  exact ⟨a, ha, hentry, hproject, hsequence, fun hlatest => hrow ⟨hlatest.mem, hlatest.latest⟩⟩

theorem SourceLedger.HoldsAnnounced.step (hcodec : codec.TellsReconciliations)
    (hknown : SourceKnown R s) (hinv : s.ledger.OutboxInv codec) (h : s.ledger.HoldsAnnounced codec)
    (hrevokes : ∀ start, o = .inl start → RevokesNoAnnounced codec start s)
    (hledger : LedgerStep codec o s.ledger L') : L'.HoldsAnnounced codec := by
  obtain ⟨enqueued, hstep⟩ := hledger.outboxStep
  have hmore := hledger.acceptsMore
  have hearlier : ∀ {a}, a ∈ s.ledger.acceptedHeads.rows → L'.Latest a → s.ledger.Latest a :=
    fun ha hlatest => ⟨ha, fun a' ha' => hlatest.latest a' (hmore.keeps a' ha')⟩
  intro q hq document d hannounced
  rcases hstep.completed q hq hannounced.completed with hold | hnew
  · obtain ⟨a, ha, hentry, hproject, hsequence, hrow⟩ := h q hold document d hannounced
    refine ⟨a, hmore.keeps a ha, hentry, hproject, hsequence, fun hlatest => ?_⟩
    have hbefore := hearlier ha hlatest
    obtain ⟨r, hr, hrentry, hstatus⟩ := hrow hbefore
    obtain ⟨r', hmove, hkept⟩ := hstep.forth r hr
    have hmem := hkept (.inr (hknown.current hbefore
      (hmove.entry_eq.trans (hrentry.trans hentry.symm))))
    refine ⟨r', hmem, hmove.entry_eq.trans hrentry, ?_⟩
    cases hmove with
    | stays _ => exact hstatus
    | acknowledged => exact nofun
    | @overtaken d' _ hd' hsame hless _ =>
      -- the head that overtakes it is accepted and newer
      obtain ⟨a', ha', hentry'⟩ := hknown.enqueued_latest hinv.attested hstep hd'
      have hp' : a'.projectId = d'.attestation.payload.projectId := congrArg Prod.fst hentry'
      have hs' : a'.sequence = d'.attestation.payload.sequence := congrArg (fun e => e.2.1) hentry'
      obtain ⟨hp, hs, -, -⟩ := entry_eq_iff.mp (hentry.trans hrentry.symm)
      have hle := hbefore.latest a' ha'.mem (by rw [hp', hp, hsame])
      omega
    | @disabled start _ ho hoff hpending =>
      have hsame : r.projectId = a.projectId := congrArg Prod.fst (hrentry.trans hentry.symm)
      rcases hrevokes start ho r hr hpending with hon | hnone
      · rw [hoff] at hon
        cases hon
      · exact absurd (congrArg (fun e => e.2.2.2) hrentry).symm
          (hnone q hold document d hannounced (hproject.symm.trans hsame.symm))
    | renewed _ _ hsuperseded => exact absurd hsuperseded hstatus
  · obtain ⟨hproject, row, hrow, hshows, hdocument⟩ := hnew d hannounced.outcome
    obtain ⟨a, ha, hentry, hsequence⟩ := hknown.shown hinv.attested hrow hshows
    obtain ⟨document', hsha, hle, hauto⟩ := hdocument hannounced.channel
    have hequal := hannounced.payload.symm.trans hsha
    have hd := hauto ((hcodec.autoDeploy _ _ hequal).symm.trans hannounced.autoDeploy)
    obtain ⟨r, hr, hstatus, hkept⟩ := hstep.present d hd
    have hbound := (hinv.attested a ha.mem).sequence
    refine ⟨a, hmore.keeps a ha.mem, hentry, (congrArg Prod.fst hentry).trans hproject, fun hi => ?_,
      fun _ => ⟨r, hkept (.inr (hknown.current ha (hr.trans hentry.symm))), hr, hstatus⟩⟩
    rw [hcodec.sequence _ _ hequal hi (by omega), hsequence]
    exact hle

end Known

/-! ### Runs -/

section Runs

variable {W : Type} {codec : SourceCodec} {outside : SourceOutside W}
  {refs : ProjectId → Option GitCommitId} {w : W} {c c' : SourceConfig W}

theorem newBroker_outboxInv (h : Reachable (sourceService codec outside) (newBroker refs w) c) :
    c.state.ledger.OutboxInv codec :=
  ledger_invariant_from (fun _ epoch h => h.lease epoch)
    (fun _ _ _ hknown hs h => hs.step hknown h) .refl .empty h

theorem delivered_stays (hc : Reachable (sourceService codec outside) (newBroker refs w) c)
    (h : Reachable (sourceService codec outside) c c') {q : SourceOutboxRow}
    (hr : r ∈ c.state.ledger.outbox.rows) (hdelivered : r.status = .delivered)
    (hq : q ∈ c'.state.ledger.outbox.rows) (hproject : q.projectId = r.projectId)
    (hdigest : q.attestationDigest = r.attestationDigest) : q.status = .delivered := by
  have hinv := newBroker_outboxInv hc
  obtain ⟨a, ha, hentry⟩ := hinv.accepted r hr
  obtain ⟨hap, -, -, had⟩ := entry_eq_iff.mp hentry
  have hfor : c.state.ledger.OutboxInv codec ∧ c.state.ledger.DeliveredFor a := by
    refine ⟨hinv, ha, fun q hq _ hsame => ?_, fun _ => ⟨r, hr, hentry.symm⟩⟩
    rw [eq_of_key outbox_by_digest hq hr (hsame.trans had)]
    exact hdelivered
  have hend := ledger_invariant_from (I := fun L => L.OutboxInv codec ∧ L.DeliveredFor a)
    (fun _ epoch h => ⟨h.1.lease epoch, h.2.lease epoch⟩)
    (fun _ _ _ hknown hs h => ⟨hs.1.step hknown h, hs.2.step hknown hs.1 h⟩) hc hfor h
  exact hend.2.delivered q hq (hproject.trans hap.symm) (hdigest.trans had.symm)

/-- A pending row leaves with its acknowledgement or for a newer head, while every start enables its
project. -/
theorem pending_stays {p : ProjectId} {c₁ : SourceConfig W} {l : Label SourceCall}
    (hc₁ : Reachable (sourceService codec outside) (newBroker refs w) c₁)
    (hmode : ∀ rest, c₁.mode ≠ .starting rest)
    (hrun : Run (sourceService codec outside) (fun start _ => start.enables codec p = true) c₁ c)
    (hstep : Step (sourceService codec outside) l c c')
    (hr : r ∈ c.state.ledger.outbox.rows) (hproject : r.projectId = p)
    (hpending : r.status = .pending) : r ∈ c'.state.ledger.outbox.rows ∨
      (∃ thread t, l = .act (.acknowledgeOutbox thread r.outboxSequence r.attestationDigest t)) ∨
      ∃ q ∈ c'.state.ledger.outbox.rows, q.projectId = r.projectId ∧
        r.sourceSequence < q.sourceSequence := by
  have hc := hc₁.trans hrun.reachable
  have hknown : ∀ c, Reachable (sourceService codec outside) (newBroker refs w) c → _ :=
    newBroker_reachable_known (reports_anything outside)
  have hsafe := sourceService_unconditioned.safe hknown (Config.safe_initial _) hc₁.run
  have hS : Disciplined (sourceService codec outside) _ _
      (fun start _ => start.enables codec p = true) _ _ _ _ :=
    sourceService_disciplined (reports_anything outside) fun _ _ _ h _ => h
  have heffect := hS.effect (hS.safe (fun c h => hknown c (hc₁.trans h))
    ⟨fun rest hrest => absurd hrest (hmode rest), hsafe.serving⟩ hrun) (hknown c hc) hstep
  have hmoves : ∀ o, Moves codec o c.state c'.state → r ∈ c'.state.ledger.outbox.rows ∨
      (∃ thread t, o = .inr (.acknowledgeOutbox thread r.outboxSequence r.attestationDigest t)) ∨
      (∃ q ∈ c'.state.ledger.outbox.rows, q.projectId = r.projectId ∧
        r.sourceSequence < q.sourceSequence) ∨
      ∃ start, o = .inl start ∧ start.enables codec r.projectId = false := by
    rintro o (hsame | hledger)
    · rw [hsame]
      exact .inl hr
    · exact hledger.pending_leaves (hknown c hc) (newBroker_outboxInv hc) hr hpending
  cases l with
  | boot =>
    obtain ⟨start, hon, hmove | ⟨epoch, hlease⟩⟩ := heffect
    · rcases hmoves _ hmove with h | ⟨_, _, h⟩ | h | ⟨_, h, hoff⟩
      · exact .inl h
      · cases h
      · exact .inr (.inr h)
      · obtain rfl := Sum.inl.inj h
        rw [hproject, hon] at hoff
        cases hoff
    · obtain ⟨-, -, hledger⟩ := acquireBrokerLease_ok hlease
      rw [hledger]
      exact .inl hr
  | act i =>
    obtain ⟨b, threads, -, -, hmove⟩ := heffect
    rcases hmoves _ hmove.2 with h | ⟨thread, t, h⟩ | h | ⟨_, h, -⟩
    · exact .inl h
    · obtain rfl := Sum.inr.inj h
      exact .inr (.inl ⟨thread, t, rfl⟩)
    · exact .inr (.inr h)
    · cases h
  | start | ready | refuse | invoke | answer | crash =>
    rw [show c'.state = c.state from heffect]
    exact .inl hr

/-- In a run whose starts revoke no announced row, automatic reconciliations have their rows. -/
theorem run_holdsAnnounced (hcodec : codec.TellsReconciliations)
    (h : Run (sourceService codec outside) (RevokesNoAnnounced codec) (newBroker refs w) c) :
    c.state.ledger.HoldsAnnounced codec := by
  have hS : Disciplined (sourceService codec outside) _ _ (RevokesNoAnnounced codec) _ _ _ _ :=
    sourceService_disciplined (reports_anything outside) fun _ _ _ h => h.startStep
  have hboth := hS.invariant (newBroker_reachable_known (reports_anything outside))
    (Config.safe_initial _)
    (I := fun s => s.ledger.OutboxInv codec ∧ s.ledger.HoldsAnnounced codec)
    ⟨.empty, fun _ h => absurd h not_mem_nil⟩ ?_ ?_ h
  · exact hboth.2
  · rintro start s s' hknown ⟨hinv, hholds⟩ hK hstep
    refine hstep.invariant (I := fun L => L.OutboxInv codec ∧ L.HoldsAnnounced codec)
      (fun epoch => ⟨hinv.lease epoch, hholds.lease epoch⟩) (fun L' hledger => ?_) ⟨hinv, hholds⟩
    refine ⟨hinv.step hknown hledger, hholds.step hcodec hknown hinv ?_ hledger⟩
    rintro _ ⟨⟩
    exact hK
  · rintro b i s s' hknown ⟨hinv, hholds⟩ - hstep
    refine hstep.2.invariant (I := fun L => L.OutboxInv codec ∧ L.HoldsAnnounced codec)
      (fun L' hledger => ?_) ⟨hinv, hholds⟩
    refine ⟨hinv.step hknown hledger, hholds.step hcodec hknown hinv ?_ hledger⟩
    rintro _ ⟨⟩

/-- A reconciliation that is about to report a deployable head of a project with automatic
deployment finds the row of the current head in the outbox. -/
theorem reconciliation_holds (hcodec : codec.TellsReconciliations)
    (h : Run (sourceService codec outside) (RevokesNoAnnounced codec) (newBroker refs w) c)
    {b : DurableSourceBroker}
    {threads : SourceSlot → Option (SourceCall × Prog (SourceState W) SourceFailure SourceReply)}
    {k : SourceSlot} {p : ProjectId} {t : Int}
    (hmode : c.mode = .serving b threads)
    (hthread : threads k = some (.reconcileRemoteMain p t, .done (.ok (.outcome (.deployable d)))))
    (hauto : (b.installed p).any (·.autoDeploy) = true) :
    ∃ r ∈ c.state.ledger.outbox.rows, r.projectId = p ∧
      r.sourceSequence = (projectView c p).sequence ∧
      (projectView c p).attestation = some r.attestation ∧
      (projectView c p).attestationDigest = some r.attestationDigest ∧
      (r.status = .pending ∨ r.status = .delivered) := by
  have hknown := newBroker_reachable_known (reports_anything outside) c h.reachable
  have hinv := newBroker_outboxInv h.reachable
  -- what the call ends with: its outcome is recorded under the digest of its document
  have hS : Disciplined (sourceService codec outside) _ _ _ _ _ _ _ := sourceService_unconditioned
  have hsafe := hS.safe (newBroker_reachable_known (reports_anything outside))
    (Config.safe_initial _) h.reachable.run
  obtain ⟨-, hthreads⟩ := hsafe.serving _ _ hmode
  obtain ⟨rfl, hdone⟩ := hthreads _ _ _ hthread
  have hend := hdone _ (hS.self _ _ hknown)
  obtain ⟨policy, deliveryId, document, hpolicy, hflag, ⟨q, hq, hkey, hpayload, hdone, houtcome⟩,
    hview⟩ := hend _ rfl _ rfl
  rw [hpolicy] at hauto
  have hannounced : q.Announces codec document d :=
    ⟨congrArg (fun key => key.2.1) hkey, hdone, hpayload, hflag.trans hauto, houtcome⟩
  obtain ⟨a, ha, hentry, hproject, hsequence, hrow⟩ :=
    run_holdsAnnounced hcodec h q hq document d hannounced
  have hp : a.projectId = p := hproject.trans (congrArg Prod.fst hkey)
  -- the head that was reported is the latest one
  have hlatest : c.state.ledger.Latest a := by
    have hmem : a ∈ (projectView c p).accepted := mem_accepted_view.mpr ⟨ha, hp⟩
    obtain ⟨last, hlast⟩ : ∃ last, (projectView c p).accepted.getLast? = some last :=
      isSome_iff_exists.mp (getLast?_isSome.mpr (ne_nil_of_mem hmem))
    obtain ⟨hlatest, hlastp, hlasts⟩ := hknown.latest hlast
    have hsame : a = last := by
      rcases hview with hview | hcarries
      · refine hlatest.eq_of_le ha (hp.trans hlastp.symm) ?_
        rw [hlasts, ← hview]
        refine hsequence ?_
        rw [hview, ← hlasts]
        exact (hinv.attested last hlatest.mem).sequence
      · obtain ⟨-, hdigest⟩ := hcarries d rfl
        have hcurrent := (hknown p).digest
        rw [show (sourceView (.inl p) c.state).accepted.getLast? = some last from hlast] at hcurrent
        exact eq_of_key accepted_by_digest ha hlatest.mem (Prod.ext
          (hp.trans hlastp.symm) ((congrArg (fun e => e.2.2.2) hentry).trans
            (some.inj (hdigest.symm.trans hcurrent))))
    exact hsame ▸ hlatest
  obtain ⟨r, hr, hrentry, hstatus⟩ := hrow hlatest
  obtain ⟨hrp, hrs, hra, hrd⟩ := entry_eq_iff.mp (hentry.trans hrentry.symm)
  have hlast := hknown.view_latest hlatest
  rw [hp] at hlast
  refine ⟨r, hr, hrp.symm.trans hp, ?_, ?_, ?_, ?_⟩
  · rw [← hrs]
    exact (hknown.latest hlast).2.2
  · rw [← hra]
    exact (hknown p).attestation.trans (by rw [hlast, map_some])
  · rw [← hrd]
    exact (hknown p).digest.trans (by rw [hlast, map_some])
  · cases hs : r.status with
    | pending => exact .inl rfl
    | delivered => exact .inr rfl
    | superseded => exact absurd hs hstatus

/-- In a run whose starts revoke no announced row: a project has at most one pending row, a pending
row leaves only with its acknowledgement, for a newer head or with a start that does not enable its
project, a delivered row stays delivered, and a reconciliation that reports a deployable head with
automatic deployment has the row of the current head in the outbox. -/
theorem outbox_keeps_current_head (hcodec : codec.TellsReconciliations)
    (h : Run (sourceService codec outside) (RevokesNoAnnounced codec) (newBroker refs w) c) :
    (∀ r ∈ c.state.ledger.outbox.rows, ∀ q ∈ c.state.ledger.outbox.rows, r.status = .pending →
      q.status = .pending → r.projectId = q.projectId → r = q) ∧
    (∀ p c₁ l c', Reachable (sourceService codec outside) (newBroker refs w) c₁ →
      (∀ rest, c₁.mode ≠ .starting rest) →
      Run (sourceService codec outside) (fun start _ => start.enables codec p = true) c₁ c →
      Step (sourceService codec outside) l c c' →
      ∀ r ∈ c.state.ledger.outbox.rows, r.projectId = p → r.status = .pending →
        r ∈ c'.state.ledger.outbox.rows ∨
        (∃ thread t, l = .act (.acknowledgeOutbox thread r.outboxSequence r.attestationDigest t)) ∨
        ∃ q ∈ c'.state.ledger.outbox.rows, q.projectId = r.projectId ∧
          r.sourceSequence < q.sourceSequence) ∧
    (∀ c', Reachable (sourceService codec outside) c c' →
      ∀ r ∈ c.state.ledger.outbox.rows, r.status = .delivered →
      ∀ q ∈ c'.state.ledger.outbox.rows, q.projectId = r.projectId →
        q.attestationDigest = r.attestationDigest → q.status = .delivered) ∧
    ∀ b threads k p t d, c.mode = .serving b threads →
      threads k = some (.reconcileRemoteMain p t, .done (.ok (.outcome (.deployable d)))) →
      (b.installed p).any (·.autoDeploy) = true →
      ∃ r ∈ c.state.ledger.outbox.rows, r.projectId = p ∧
        r.sourceSequence = (projectView c p).sequence ∧
        (projectView c p).attestation = some r.attestation ∧
        (projectView c p).attestationDigest = some r.attestationDigest ∧
        (r.status = .pending ∨ r.status = .delivered) := by
  refine ⟨(newBroker_outboxInv h.reachable).single, ?_, ?_, ?_⟩
  · intro p c₁ l c' hc₁ hmode hrun hstep r hr hproject hpending
    exact pending_stays hc₁ hmode hrun hstep hr hproject hpending
  · intro c' hc' r hr hdelivered q hq hproject hdigest
    exact delivered_stays h.reachable hc' hr hdelivered hq hproject hdigest
  · intro b threads k p t d hmode hthread hauto
    exact reconciliation_holds hcodec h hmode hthread hauto

end Runs

/-! ### A start that revokes an announced row -/

namespace SourceSample

/-- A codec whose digests tell the reconciliations apart. -/
def tellingCodec : SourceCodec :=
  { codec with
    sha256 := fun
      | .signedHead signed => BitVec.ofNat 256 signed.payload.sequence
      | .reconcile d => BitVec.ofNat 256 (2 * (d.sequence % 2 ^ 64) + d.autoDeploy.toNat)
      | _ => 0 }

theorem tellingCodec_tells : tellingCodec.TellsReconciliations := by
  have hdigest : ∀ d d', tellingCodec.sha256 (.reconcile d) = tellingCodec.sha256 (.reconcile d') →
      2 * (d.sequence % 2 ^ 64) + d.autoDeploy.toNat =
        2 * (d'.sequence % 2 ^ 64) + d'.autoDeploy.toNat := by
    intro d d' h
    have hnat := congrArg BitVec.toNat h
    have hd : d.autoDeploy.toNat ≤ 1 := Bool.toNat_le _
    have hd' : d'.autoDeploy.toNat ≤ 1 := Bool.toNat_le _
    simp only [tellingCodec, BitVec.toNat_ofNat] at hnat
    omega
  refine ⟨fun d d' h => ?_, fun d d' h hd hd' => ?_⟩
  · have heq := hdigest d d' h
    cases hd : d.autoDeploy <;> cases hd' : d'.autoDeploy <;> simp_all <;> omega
  · have heq := hdigest d d' h
    have h₁ : d.autoDeploy.toNat ≤ 1 := Bool.toNat_le _
    have h₂ : d'.autoDeploy.toNat ≤ 1 := Bool.toNat_le _
    simp only [i64Max] at hd hd'
    omega

def telling : SourceService Nat := sourceService tellingCodec outside

def tellingBroker (epoch : Nat) : DurableSourceBroker := start.broker tellingCodec epoch

def reconciliation (t : Int) : SourceCall := .reconcileRemoteMain project t

/-- The start without automatic deployment. -/
def disabledStart : BrokerStart :=
  { start with installedPolicies := [{ policy with autoDeploy := false }] }

def tellingStarted : SourceState Nat := after (telling.boot start) empty

def reconciledOnce : SourceState Nat :=
  after (telling.call (tellingBroker 1) (reconciliation 10)) tellingStarted

def reconciledTwice : SourceState Nat :=
  after (telling.call (tellingBroker 1) (reconciliation 11)) reconciledOnce

def revoked : SourceState Nat := after (telling.boot disabledStart) reconciledTwice

def enabledAgain : SourceState Nat := after (telling.boot start) revoked

def replayed : SourceState Nat :=
  after (telling.call (tellingBroker 3) (reconciliation 12)) enabledAgain

def deployableAnswer : Except SourceFailure SourceReply → Option VerifiedSourceDelivery
  | .ok (.outcome (.deployable d)) => some d
  | _ => none

theorem deployableAnswer_eq_some {r : Except SourceFailure SourceReply} (h : deployableAnswer r = some d) :
    r = .ok (.outcome (.deployable d)) := by
  unfold deployableAnswer at h
  split at h
  · cases h
    rfl
  · cases h

/-- A reconciliation from a state that the broker reaches, up to its answer. -/
theorem reconciliation_runs {K : BrokerStart → SourceState Nat → Prop} {s : SourceState Nat}
    {epoch : Nat} (t : Int)
    (hs : Run telling K fresh (idle (tellingBroker epoch) s))
    (hanswer : (deployableAnswer
      ((telling.call (tellingBroker epoch) (reconciliation t)).run s).1).isSome = true) :
    ∃ c threads d, Run telling K fresh c ∧
      c.state = after (telling.call (tellingBroker epoch) (reconciliation t)) s ∧
      c.mode = .serving (tellingBroker epoch) threads ∧
      threads (.inl project) = some (reconciliation t, .done (.ok (.outcome (.deployable d)))) := by
  obtain ⟨d, hd⟩ := isSome_iff_exists.mp hanswer
  refine ⟨_, _, d, hs.trans (Run.called (reconciliation t) rfl
    (run_eq (deployableAnswer_eq_some hd))), rfl, rfl, ?_⟩
  exact Function.update_self ..

/-- The second reconciliation reports the head that the first one accepted. -/
theorem reconciledTwice_run :
    Run telling (RevokesNoAnnounced tellingCodec) fresh
      (idle (tellingBroker 1) reconciledTwice) := by
  have hstart : Run telling (RevokesNoAnnounced tellingCodec) fresh
      (idle (tellingBroker 1) tellingStarted) :=
    Run.booted (fun _ hr => absurd hr not_mem_nil) (Prod.ext (by decide +kernel) rfl)
  exact (hstart.trans (Run.answered (reconciliation 10) rfl rfl)).trans
    (Run.answered (reconciliation 11) rfl rfl)

/-- A reconciliation announces the head, a start without automatic deployment revokes its row, and
after a start that enables it again the reconciliation is replayed: it reports the head although
the outbox holds no row that is pending or delivered. -/
theorem revoked_row_stays_revoked :
    ∃ c threads d, Reachable telling fresh c ∧
      c.mode = .serving (tellingBroker 3) threads ∧
      threads (.inl project) = some (reconciliation 12, .done (.ok (.outcome (.deployable d)))) ∧
      ((tellingBroker 3).installed project).any (·.autoDeploy) = true ∧
      (projectView c project).sequence = 1 ∧
      c.state.ledger.outbox.rows.map (fun r => (r.sourceSequence, r.status)) =
        [(1, .superseded)] := by
  have hrevoked : Reachable telling fresh (idle (disabledStart.broker tellingCodec 2) revoked) :=
    (reconciledTwice_run.reachable.tail .crash).trans (.booted (run_eq (by decide +kernel)))
  have hagain : Reachable telling fresh (idle (tellingBroker 3) enabledAgain) :=
    (hrevoked.tail .crash).trans (.booted (run_eq (by decide +kernel)))
  obtain ⟨c, threads, d, hc, hstate, hmode, hthread⟩ := reconciliation_runs 12 hagain.run
    (by decide +kernel)
  have hreplayed : c.state = replayed := hstate
  refine ⟨c, threads, d, hc.reachable, hmode, hthread, by decide +kernel, ?_⟩
  rw [projectView, hreplayed]
  decide +kernel

def restarted : SourceState Nat := after (telling.boot start) reconciledTwice

/-- A start that finds the row pending and reported leaves it, and the next reconciliation reports
the head again. -/
theorem reconciliation_keeps_head :
    reconciledTwice.ledger.outbox.rows.map (·.status) = [.pending] ∧
    reconciledTwice.ledger.deliveries.rows.map (·.status) = [.completed, .completed] ∧
    ∃ c, Run telling (RevokesNoAnnounced tellingCodec) fresh c ∧
      ∃ r ∈ c.state.ledger.outbox.rows, r.projectId = project ∧
        r.sourceSequence = (projectView c project).sequence ∧
        (projectView c project).attestation = some r.attestation ∧
        (r.status = .pending ∨ r.status = .delivered) := by
  have henabled : ∀ r ∈ reconciledTwice.ledger.outbox.rows,
      start.enables tellingCodec r.projectId = true := by decide +kernel
  have hrestarted : Run telling (RevokesNoAnnounced tellingCodec) fresh
      (idle (tellingBroker 2) restarted) :=
    (reconciledTwice_run.tail .crash (by simp)).trans
      (Run.booted (fun r hr _ => .inl (henabled r hr)) (run_eq (by decide +kernel)))
  obtain ⟨c, threads, d, hrun, -, hmode, hthread⟩ := reconciliation_runs 12 hrestarted
    (by decide +kernel)
  obtain ⟨-, -, -, hreports⟩ := outbox_keeps_current_head tellingCodec_tells hrun
  obtain ⟨r, hr, hproject, hsequence, hattestation, -, hstatus⟩ := hreports _ threads (.inl project)
    project 12 d hmode hthread (by decide +kernel)
  exact ⟨by decide +kernel, by decide +kernel, c, hrun, r, hr, hproject, hsequence, hattestation, hstatus⟩

end SourceSample

end Rdashboard
