import Rdashboard.Source.Transactions

/-! # Deliveries under interference

A completed delivery stays in the ledger.  The calls of a project complete a delivery with a head
only while that head is the current one, whatever the calls of other projects and the
acknowledgements of the outbox do between their steps. -/

namespace Rdashboard

open Relational Interleaving Txn TableRef SourceProg SourceLedger Table DurableSourceBroker Safe
variable {epoch : Nat} {channel : SourceChannel} {deliveryId : String} {digest : EvidenceDigest}
  {t : Int} {token : FreshUuid} {reservation : DeliveryReservation} {claim : DeliveryClaim}
  {outcome : SourceIngressOutcome} {enqueue : Bool} {L L' : SourceLedger}

/-! ### Completed deliveries stay -/

namespace SourceLedger

variable {L'' : SourceLedger} {codec : SourceCodec}
variable {w : SourceDeliveryRow → Bool} {f : SourceDeliveryRow → SourceDeliveryRow} {n : Nat}

/-- Completed deliveries stay as they are. -/
def KeepsCompleted (L L' : SourceLedger) : Prop :=
  ∀ r ∈ L.deliveries.rows, r.status = .completed → r ∈ L'.deliveries.rows

theorem KeepsCompleted.refl (L : SourceLedger) : L.KeepsCompleted L := fun _ hr _ => hr

theorem KeepsCompleted.trans (h : L.KeepsCompleted L') (h' : L'.KeepsCompleted L'') :
    L.KeepsCompleted L'' := fun r hr hdone => h' r (h r hr hdone) hdone

theorem KeepsCompleted.of_eq (h : L'.deliveries = L.deliveries) : L.KeepsCompleted L' := by
  intro r hr _
  rwa [h]

theorem keepsCompleted_update (hw : ∀ r, w r = true → r.status ≠ .completed)
    (h : (sourceDeliveriesT.update w f : Txn SourceLedger SourceError Nat) L = .ok (n, L')) :
    L.KeepsCompleted L' := by
  obtain ⟨t, ht, -, rfl⟩ := update_ok_iff.mp h
  exact fun r hr hdone => mem_update_of_neg ht hr fun hwr => hw r hwr hdone

/-- The same deliveries are completed before and after. -/
structure SameCompleted (L L' : SourceLedger) : Prop where
  others : L' = { L with deliveries := L'.deliveries }
  keeps : L.KeepsCompleted L'
  back : L'.KeepsCompleted L

/-- Deliveries that are not completed change, and are not completed by that. -/
theorem sameCompleted_update
    (hw : ∀ r, w r = true → r.status ≠ .completed) (hf : ∀ r, (f r).status ≠ .completed)
    (h : (sourceDeliveriesT.update w f : Txn SourceLedger SourceError Nat) L = .ok (n, L')) :
    L.SameCompleted L' := by
  have hkeeps := keepsCompleted_update hw h
  obtain ⟨t, ht, -, rfl⟩ := update_ok_iff.mp h
  refine ⟨rfl, hkeeps, fun q hq hdone => ?_⟩
  obtain ⟨hq, -⟩ | ⟨q', -, -, rfl⟩ := mem_of_update ht hq
  · exact hq
  · exact absurd hdone (hf q')

theorem reserveDelivery_sameCompleted {p : ProjectId}
    (h : reserveDelivery epoch p channel deliveryId digest t token L = .ok (reservation, L')) :
    L.SameCompleted L' := by
  simp only [reserveDelivery, ok_iff, epoch_iff] at h
  obtain ⟨_, -, existing, -, h⟩ := h
  cases existing with
  | none =>
    simp only [ok_iff] at h
    obtain ⟨_, _, hinsert, -, rfl⟩ := h
    obtain ⟨-, t, ht, rfl⟩ := insert_ok_iff.mp hinsert
    refine ⟨rfl, fun r hr _ => mem_insert_of_mem ht hr, fun r hr hdone => ?_⟩
    change r ∈ t.rows at hr
    rw [rows_insert ht] at hr
    rcases List.mem_append.mp hr with hr | hr
    · exact hr
    · rw [List.mem_singleton.mp hr] at hdone
      cases hdone
  | some r =>
    obtain ⟨_, _, hensure, h⟩ := bind_ok_iff.mp h
    obtain ⟨-, rfl⟩ := ensure_ok_iff.mp hensure
    cases hstatus : r.status with
    | completed =>
      rw [hstatus] at h
      simp only [ok_iff] at h
      obtain ⟨_, -, -, rfl⟩ := h
      exact ⟨rfl, .refl _, .refl _⟩
    | processing =>
      rw [hstatus] at h
      exact (throw_ok_iff.mp h).elim
    | recoverable =>
      rw [hstatus] at h
      simp only [ok_iff] at h
      obtain ⟨_, _, hupdate, -, rfl⟩ := h
      refine sameCompleted_update (fun r hr hdone => ?_) (by simp) hupdate
      simp only [where_iff] at hr
      exact absurd (hr.2.symm.trans hdone) (by decide)

theorem abandonDelivery_sameCompleted {u : Unit}
    (h : abandonDelivery epoch claim t L = .ok (u, L')) : L.SameCompleted L' := by
  simp only [abandonDelivery, ok_iff, epoch_iff] at h
  obtain ⟨_, -, _, _, hupdate, -, rfl⟩ := h
  refine sameCompleted_update (fun r hr hdone => ?_) (by simp) hupdate
  simp only [where_iff] at hr
  exact absurd (hr.2.symm.trans hdone) (by decide)

theorem recoverIncompleteDeliveries_sameCompleted
    (h : recoverIncompleteDeliveries epoch t L = .ok (n, L')) : L.SameCompleted L' := by
  simp only [recoverIncompleteDeliveries, ok_iff, epoch_iff] at h
  obtain ⟨_, -, hupdate⟩ := h
  refine sameCompleted_update (fun r hr hdone => ?_) (by simp) hupdate
  exact absurd ((of_decide_eq_true hr).symm.trans hdone) (by decide)

/-- The row that `finish_delivery` leaves for a delivery. -/
def completedDelivery (outcome : SourceIngressOutcome) (t : Int) (r : SourceDeliveryRow) :
    SourceDeliveryRow :=
  { r with status := .completed, outcome := some outcome, processingToken := none, updatedAtMs := t }

/-- `finish_delivery` completes the delivery that is being processed, and then enqueues. -/
theorem finishDelivery_ok {reported : SourceIngressOutcome}
    (h : finishDelivery codec epoch claim outcome enqueue t L = .ok (reported, L')) :
    reported = outcome ∧ validateDeliveryOutcome codec claim outcome = .ok () ∧
    ∃ r L₁, r ∈ L.deliveries.rows ∧ r.key = (claim.projectId, claim.channel, claim.deliveryId) ∧
      r.payloadDigest = claim.payloadDigest ∧
      L₁ = { L with deliveries := L₁.deliveries } ∧ L.KeepsCompleted L₁ ∧
      completedDelivery outcome t r ∈ L₁.deliveries.rows ∧
      (∀ q ∈ L₁.deliveries.rows, q ∈ L.deliveries.rows ∨ q = completedDelivery outcome t r) ∧
      (if enqueue = true then enqueueDeployableOutcome codec outcome t L₁ = .ok ((), L')
        else L' = L₁) := by
  simp only [finishDelivery, ok_iff, epoch_iff] at h
  obtain ⟨_, -, _, hvalid, _, L₁, hupdate, _, rfl, h⟩ := h
  have hw : ∀ r : SourceDeliveryRow, (decide (r.key = (claim.projectId, claim.channel,
      claim.deliveryId)) && decide (r.payloadDigest = claim.payloadDigest) &&
      decide (r.processingToken = some claim.processingToken) &&
      decide (r.status = .processing)) = true →
      r.key = (claim.projectId, claim.channel, claim.deliveryId) ∧
        r.payloadDigest = claim.payloadDigest ∧ r.status = .processing := by
    intro r hr
    simp only [where_iff] at hr
    exact ⟨hr.1.1.1, hr.1.1.2, hr.2⟩
  have hkeeps : L.KeepsCompleted L₁ := keepsCompleted_update (fun r hr hdone =>
    absurd ((hw r hr).2.2.symm.trans hdone) (by decide)) hupdate
  obtain ⟨u, hu, hcount, rfl⟩ := update_ok_iff.mp hupdate
  obtain ⟨r, hr, hwr⟩ := (count_eq_one_iff (Schema.separates_keyed _ _)
    fun r hr => (hw r hr).1).mp hcount
  have hmem := mem_of_lookup hr
  refine ⟨?_, hvalid, r, _, hmem, (hw r hwr).1, (hw r hwr).2.1, rfl, hkeeps,
    mem_update_of_pos hu hmem hwr, fun q hq => ?_, ?_⟩
  · split_ifs at h
    · obtain ⟨_, _, -, h⟩ := bind_ok_iff.mp h
      exact (pure_ok_iff.mp h).1.symm
    · exact (pure_ok_iff.mp h).1.symm
  · obtain ⟨hq, -⟩ | ⟨q', hq', hwq, rfl⟩ := mem_of_update hu hq
    · exact .inl hq
    · rw [eq_of_key (Schema.separates_keyed _ _) hq' hmem
        ((hw q' hwq).1.trans (hw r hwr).1.symm)]
      exact .inr rfl
  · cases enqueue with
    | true =>
      obtain ⟨_, _, henqueue, h⟩ := bind_ok_iff.mp h
      obtain ⟨-, rfl⟩ := pure_ok_iff.mp h
      exact henqueue
    | false => exact (pure_ok_iff.mp h).2.symm

end SourceLedger

theorem LedgerStep.keepsCompleted {codec : SourceCodec} {o : SourceOrigin}
    (h : LedgerStep codec o L L') : L.KeepsCompleted L' := by
  replace h := h.delivery_cases
  obtain ⟨-, hsame⟩ | h := h
  · exact .of_eq hsame
  cases h with
  | reserveDelivery h => exact (reserveDelivery_sameCompleted h).keeps
  | finishDelivery _ h =>
    obtain ⟨-, -, r, L₁, -, -, -, -, hkeeps, -, -, h⟩ := finishDelivery_ok h
    split_ifs at h
    · exact hkeeps.trans (.of_eq ((enqueueDeployableOutcome_framed (fun _ _ => rfl)
        _ _ _).keeps _ _ _ h))
    · exact h ▸ hkeeps
  | abandonDelivery h => exact (abandonDelivery_sameCompleted h).keeps
  | recoverIncompleteDeliveries h => exact (recoverIncompleteDeliveries_sameCompleted h).keeps
  | reconcileOutboxPolicy h | acknowledgeOutbox h => exact .of_eq (frame h)

/-! ### What a call relies on -/

section Calls

variable {W α β : Type} {R : ProjectId → GitCommitId → GitCommitId → Prop} {codec : SourceCodec}
  {outside : SourceOutside W} {b : DurableSourceBroker} {p : ProjectId} {i : SourceCall}
  {s : SourceState W}
variable {ε : Type} {x : Prog (SourceState W) ε α} {work : SourceProg W SourceIngressOutcome}

/-- Every project is sound. -/
def SourceKnown (R : ProjectId → GitCommitId → GitCommitId → Prop) (s : SourceState W) : Prop :=
  ∀ p, (sourceView (.inl p) s).Sound (R p) p

/-- What a call sees of the others: its project stays as it is, and completed deliveries stay. -/
structure SourceRely (R : ProjectId → GitCommitId → GitCommitId → Prop) (k : SourceSlot)
    (s s' : SourceState W) : Prop where
  known : SourceKnown R s'
  view : sourceView k s' = sourceView k s
  completed : s.ledger.KeepsCompleted s'.ledger

instance sourceRely_isRely (k : SourceSlot) : IsRely (SourceRely (W := W) R k) :=
  ⟨fun _ _ h => ⟨h.known, rfl, .refl _⟩, fun _ _ _ h h' =>
    ⟨h'.known, h'.view.trans h.view, h.completed.trans h'.completed⟩⟩

/-- A step of a call: the projects of other slots stay, and the ledger changes by a transaction. -/
def callStep (codec : SourceCodec) (i : SourceCall) (s s' : SourceState W) : Prop :=
  (∀ k, k ≠ i.slot → sourceView k s' = sourceView k s) ∧ Moves codec (.inr i) s s'

/-- The program is safe as a part of the call `i`. -/
abbrev SafeCall (R : ProjectId → GitCommitId → GitCommitId → Prop) (codec : SourceCodec)
    (i : SourceCall) : (Except ε α → SourceState W → Prop) → Prog (SourceState W) ε α →
      SourceState W → Prop :=
  Safe (SourceRely R i.slot) (callStep codec i)

theorem callStep_rely {s' : SourceState W} (hknown : SourceKnown R s')
    (h : callStep codec i s s') {k : SourceSlot} (hk : k ≠ i.slot) : SourceRely R k s s' := by
  refine ⟨hknown, h.1 k hk, ?_⟩
  rcases h.2 with hsame | hstep
  · exact .of_eq (congrArg _ hsame)
  · exact hstep.keepsCompleted

theorem SourceKnown.inv (h : SourceKnown R s) (p : ProjectId) :
    (sourceView (.inl p) s).Inv (R p) False p := ⟨h p, False.elim⟩

/-- A program that works for the project of its slot, and says in `Q` what it did to it. -/
theorem safe_project (hslot : i.slot = .inl p) {guar : SourceView → SourceView → Prop}
    {Q : SourceView → Except ε α → SourceView → Prop}
    (hsat : ∀ v, v.Inv (R p) False p →
      Sat (projectContract W p (SourceView.Inv (R p) False p) guar) (Q v) x v)
    (hx : Commits codec (.inr i) x) :
    SafeCall R codec i
      (fun r s' => Q (sourceView (.inl p) s) r (sourceView (.inl p) s')) x s := by
  refine safe_of_rely fun s₁ h₁ => ?_
  rw [hslot] at h₁ ⊢
  have hsafe : Safe (SourceRely R (.inl p)) _ _ x s₁ :=
    Sat.safe (fun _ _ h => h.view) (hsat _ (h₁.known.inv p)) hx
  have hcall : Safe (SourceRely R (.inl p)) (callStep codec i) _ x s₁ :=
    hsafe.weaken fun s s' h => ⟨fun k hk => h.1 k (hslot ▸ hk), h.2⟩
  refine hcall.mono fun r s' h => ?_
  rw [← h₁.view]
  exact h.2

/-- A program that no view shows. -/
theorem safe_quiet (hquiet : Quiet x)
    (hx : Commits codec (.inr i) x) : SafeCall R codec i
      (fun _ s' => sourceView i.slot s' = sourceView i.slot s) x s := by
  suffices h : ∀ s₀, sourceView i.slot s = sourceView i.slot s₀ →
      SafeCall R codec i
        (fun _ s' => sourceView i.slot s' = sourceView i.slot s₀) x s from h s rfl
  intro s₀ hs
  induction x generalizing s with
  | done r => exact fun s' hs' => hs'.view.trans hs
  | act effect next ih =>
    intro s' hs'
    have hkept := (hquiet s').1
    refine ⟨⟨fun k _ => congrFun hkept k, (hx s').1⟩, ih s' (hquiet s').2 (hx s').2 ?_⟩
    exact (congrFun hkept i.slot).trans (hs'.view.trans hs)

theorem safe_transact {body : Txn SourceLedger SourceError α}
    {Q : Except SourceError α → SourceState W → Prop}
    (herr : ∀ e s₁, SourceRely R i.slot s s₁ → Q (.error e) s₁)
    (hok : ∀ s₁ a L, SourceRely R i.slot s s₁ → body s₁.ledger = .ok (a, L) →
      callStep codec i s₁ { s₁ with ledger := L } ∧
        ∀ s₂, SourceRely R i.slot { s₁ with ledger := L } s₂ → Q (.ok a) s₂) :
    SafeCall R codec i Q (transact body) s := by
  refine safe_atomic fun s₁ h₁ => ?_
  cases hb : body s₁.ledger with
  | error e =>
    refine ⟨⟨fun _ _ => rfl, .inl rfl⟩, fun s₂ h₂ => ?_⟩
    exact herr e s₂ ((sourceRely_isRely _).trans _ _ _ h₁ h₂)
  | ok r => exact hok s₁ r.1 r.2 h₁ hb

/-! ### Completing a delivery -/

/-- The delivery was completed with this outcome. -/
def Recorded (L : SourceLedger) (key : ProjectId × SourceChannel × String)
    (payloadDigest : EvidenceDigest) (outcome : SourceIngressOutcome) : Prop :=
  ∃ r ∈ L.deliveries.rows, r.key = key ∧ r.payloadDigest = payloadDigest ∧
    r.status = .completed ∧ r.outcome = some outcome

theorem Recorded.keeps {key : ProjectId × SourceChannel × String} {payloadDigest : EvidenceDigest}
    (h : Recorded L key payloadDigest outcome) (hkeeps : L.KeepsCompleted L') :
    Recorded L' key payloadDigest outcome := by
  obtain ⟨r, hr, hkey, hdigest, hdone, houtcome⟩ := h
  exact ⟨r, hkeeps r hr hdone, hkey, hdigest, hdone, houtcome⟩

/-- The outcome with which a call may complete its delivery: a deployable head is the current one,
and a reconciliation has hashed the project at this head or before it. -/
structure Announces (codec : SourceCodec) (claim : DeliveryClaim) (enqueue : Bool) (v : SourceView)
    (outcome : SourceIngressOutcome) : Prop where
  reports : v.Carries outcome
  document : claim.channel = .sourceReconciliation → ∃ document : ReconcileDocument,
    claim.payloadDigest = codec.sha256 (.reconcile document) ∧ document.autoDeploy = enqueue ∧
    document.sequence ≤ v.sequence

theorem Announces.deliverable {d : VerifiedSourceDelivery}
    (h : Announces codec claim enqueue (sourceView (.inl claim.projectId) s) outcome)
    (hd : outcome = .deployable d) : ∃ row,
      s.ledger.projects.lookup (·.projectId) claim.projectId = some row ∧
        Deliverable codec row claim enqueue d := by
  obtain ⟨hattestation, hdigest⟩ := h.reports d hd
  obtain ⟨row, hrow, hattested⟩ := Option.bind_eq_some_iff.mp hattestation
  have hlookup : s.ledger.projects.lookup (·.projectId) claim.projectId = some row := hrow
  refine ⟨row, hlookup, hattested, ?_, fun hchannel => ?_⟩
  · change (s.ledger.projects.lookup (·.projectId) claim.projectId).bind _ = _ at hdigest
    rwa [hlookup] at hdigest
  · obtain ⟨document, hpayload, hauto, hsequence⟩ := h.document hchannel
    refine ⟨document, hpayload, hauto, hsequence.trans (le_of_eq ?_)⟩
    change (s.ledger.projects.lookup (·.projectId) claim.projectId).elim _ _ = _
    rw [hlookup]
    rfl

theorem safe_finishDelivery (hslot : i.slot = .inl claim.projectId)
    (h : Announces codec claim enqueue (sourceView i.slot s) outcome) :
    SafeCall R codec i (fun r s' => ∀ reported, r = .ok reported →
      reported = outcome ∧ sourceView i.slot s' = sourceView i.slot s ∧
      Recorded s'.ledger (claim.projectId, claim.channel, claim.deliveryId) claim.payloadDigest
        reported) (transact (finishDelivery codec b.epoch claim outcome enqueue t)) s := by
  refine safe_transact (fun e s₁ _ reported hr => by cases hr) fun s₁ reported L h₁ hfinish => ?_
  have hviews : ∀ k, sourceView k { s₁ with ledger := L } = sourceView k s₁ := by
    intro k
    cases k with
    | inl p => exact view_of_shown (frame hfinish finishDelivery_keeps)
    | inr n => rfl
  rw [hslot] at h
  have hview : sourceView (.inl claim.projectId) s₁ = sourceView (.inl claim.projectId) s :=
    hslot ▸ h₁.view
  rw [← hview] at h
  refine ⟨⟨fun k _ => hviews k, .inr (.delivery (.finishDelivery (fun d hd => h.deliverable hd) hfinish))⟩, ?_⟩
  rintro s₂ h₂ _ ⟨⟩
  obtain ⟨rfl, -, r, L₁, -, hkey, hdigest, -, -, hmem, -, hrest⟩ :=
    finishDelivery_ok hfinish
  refine ⟨rfl, h₂.view.trans ((hviews _).trans h₁.view), Recorded.keeps ?_ h₂.completed⟩
  have hkept : L₁.deliveries = L.deliveries := by
    split_ifs at hrest
    · exact ((enqueueDeployableOutcome_framed
        (fun _ _ => rfl) _ _ _).keeps _ _ _ hrest).symm
    · rw [hrest]
  exact ⟨completedDelivery reported t r, hkept ▸ hmem, hkey, hdigest, rfl, rfl⟩

/-- A delivery that another call abandons or that was completed before. -/
theorem reserveDelivery_ok (h : reserveDelivery epoch p channel deliveryId digest t token L =
      .ok (reservation, L')) :
    match reservation with
    | .completed outcome => L' = L ∧ Recorded L (p, channel, deliveryId) digest outcome
    | .claimed claim => claim.projectId = p ∧ claim.channel = channel ∧
        claim.deliveryId = deliveryId ∧ claim.payloadDigest = digest := by
  simp only [reserveDelivery, ok_iff, epoch_iff] at h
  obtain ⟨_, -, existing, hexisting, h⟩ := h
  cases existing with
  | none =>
    simp only [ok_iff] at h
    obtain ⟨_, _, -, rfl, -⟩ := h
    exact ⟨rfl, rfl, rfl, rfl⟩
  | some r =>
    obtain ⟨_, _, hensure, h⟩ := bind_ok_iff.mp h
    obtain ⟨hdigest, rfl⟩ := ensure_ok_iff.mp hensure
    cases hstatus : r.status with
    | completed =>
      rw [hstatus] at h
      simp only [ok_iff] at h
      obtain ⟨outcome, houtcome, rfl, rfl⟩ := h
      exact ⟨rfl, r, mem_of_lookup hexisting, key_of_lookup hexisting, hdigest,
        hstatus, houtcome⟩
    | processing =>
      rw [hstatus] at h
      exact (throw_ok_iff.mp h).elim
    | recoverable =>
      rw [hstatus] at h
      simp only [ok_iff] at h
      obtain ⟨_, _, -, rfl, -⟩ := h
      exact ⟨rfl, rfl, rfl, rfl⟩

/-- Reserving a delivery changes no view; a delivery that was completed before is recorded. -/
theorem safe_reserveDelivery :
    SafeCall R codec i (fun r s' => ∀ reservation, r = .ok reservation →
      sourceView i.slot s' = sourceView i.slot s ∧ match reservation with
      | .completed outcome => Recorded s'.ledger (p, channel, deliveryId) digest outcome
      | .claimed claim => claim.projectId = p ∧ claim.channel = channel ∧
          claim.deliveryId = deliveryId ∧ claim.payloadDigest = digest)
      (transact (reserveDelivery b.epoch p channel deliveryId digest t token)) s := by
  refine safe_transact (fun e s₁ _ reservation hr => by cases hr) fun s₁ reservation L h₁ h => ?_
  have hviews : ∀ k, sourceView k { s₁ with ledger := L } = sourceView k s₁ := by
    intro k
    cases k with
    | inl q => exact view_of_shown (frame h)
    | inr n => rfl
  refine ⟨⟨fun k _ => hviews k, .inr (.delivery (.reserveDelivery h))⟩, ?_⟩
  rintro s₂ h₂ _ ⟨⟩
  refine ⟨h₂.view.trans ((hviews _).trans h₁.view), ?_⟩
  have hreserved := reserveDelivery_ok h
  cases reservation with
  | completed outcome =>
    obtain ⟨rfl, hrecorded⟩ := hreserved
    exact hrecorded.keeps h₂.completed
  | claimed claim => exact hreserved

/-- What a delivery ends with: a recorded outcome, and either nothing has changed for the project
or the outcome is about its current head. -/
def Delivered (key : ProjectId × SourceChannel × String) (payloadDigest : EvidenceDigest)
    (v : SourceView) (k : SourceSlot) (r : Except SourceError SourceIngressOutcome)
    (s : SourceState W) : Prop :=
  ∀ outcome, r = .ok outcome → Recorded s.ledger key payloadDigest outcome ∧
    (sourceView k s = v ∨ (sourceView k s).Carries outcome)

theorem safe_settleDelivery {v : SourceView} (hslot : i.slot = .inl claim.projectId)
    (hwork : SafeCall R codec i (fun r s' => ∀ outcome,
      r = .ok outcome → Announces codec claim enqueue (sourceView i.slot s') outcome) work s) :
    SafeCall R codec i
      (Delivered (claim.projectId, claim.channel, claim.deliveryId) claim.payloadDigest v i.slot)
      (b.settleDelivery codec claim enqueue t work) s := by
  refine safe_bind (safe_attempt (hwork.mono fun r s' hr => ?_))
  cases r with
  | ok outcome =>
    refine (safe_finishDelivery hslot (hr outcome rfl)).mono fun r s'' hfinish reported hok => ?_
    obtain ⟨rfl, hview, hrecorded⟩ := hfinish reported hok
    exact ⟨hrecorded, .inr (hview ▸ (hr reported rfl).reports)⟩
  | error e =>
    refine safe_bind (mono (safe_quiet quiet_transact
      (commits_transact fun _ _ _ h => .delivery (.abandonDelivery h))) fun r s'' _ => ?_)
    cases r with
    | ok _ => exact fun _ _ _ => (nomatch ·)
    | error e => exact fun _ => (nomatch ·)

/-- A delivery whose work announces the current head. -/
theorem safe_deliver (hslot : i.slot = .inl p)
    (hwork : ∀ s' claim, sourceView i.slot s' = sourceView i.slot s → claim.channel = channel →
      claim.payloadDigest = digest → SafeCall R codec i
        (fun r s'' => ∀ outcome, r = .ok outcome →
          Announces codec claim enqueue (sourceView i.slot s'') outcome) work s') :
    SafeCall R codec i
      (Delivered (p, channel, deliveryId) digest (sourceView i.slot s) i.slot)
      (b.deliver codec outside p channel deliveryId digest enqueue t work) s := by
  refine safe_bind (mono (safe_quiet (quiet_consult _)
    (commits_consult _)) fun r s₁ h₁ => ?_)
  cases r with
  | error e => exact fun _ => (nomatch ·)
  | ok token =>
    refine safe_bind (safe_reserveDelivery.mono fun r s₂ h₂ => ?_)
    cases r with
    | error e => exact fun _ => (nomatch ·)
    | ok reservation =>
      obtain ⟨hview, hreserved⟩ := h₂ reservation rfl
      cases reservation with
      | completed outcome =>
        rintro s₃ h₃ _ ⟨⟩
        exact ⟨hreserved.keeps h₃.completed, .inl (h₃.view.trans (hview.trans h₁))⟩
      | claimed claim =>
        obtain ⟨rfl, rfl, rfl, rfl⟩ := hreserved
        exact safe_settleDelivery hslot (hwork s₂ claim (hview.trans h₁) rfl rfl)

/-! ### The calls that deliver -/

/-- A quiet program, and what follows it. -/
theorem safe_quiet_bind {f : α → Prog (SourceState W) ε β}
    {Q : Except ε β → SourceState W → Prop} (hquiet : Quiet x) (hx : Commits codec (.inr i) x)
    (herr : ∀ e s', Q (.error e) s')
    (hok : ∀ a s', sourceView i.slot s' = sourceView i.slot s →
      SafeCall R codec i Q (f a) s') :
    SafeCall R codec i Q (x >>= f) s := by
  refine safe_bind ((safe_quiet hquiet hx).mono fun r s' hs' => ?_)
  cases r with
  | ok a => exact hok a s' hs'
  | error e => exact herr e s'

theorem safe_snapshot_bind {f : SourceSnapshot → SourceProg W β}
    {Q : Except SourceError β → SourceState W → Prop} (hslot : i.slot = .inl p)
    (herr : ∀ e s', Q (.error e) s')
    (hok : ∀ s', sourceView i.slot s' = sourceView i.slot s →
      SafeCall R codec i Q (f ((sourceView i.slot s).snapshot p)) s') :
    SafeCall R codec i Q (snapshot p >>= f) s := by
  have hobserves : ∀ v, v.Inv (R p) False p → Observes p (SourceView.Inv (R p) False p)
      SourceView.Calm v (v.snapshot p) (snapshot p : SourceProg W _) :=
    fun v hv => observes_snapshot hv (.refl v)
  refine safe_bind (mono (safe_project hslot hobserves
    snapshot_commits) fun r s' hr => ?_)
  cases r with
  | error e => exact herr e s'
  | ok current =>
    rw [hr.2 current rfl, ← hslot]
    exact hok s' (hslot ▸ hr.1)

namespace DurableSourceBroker

variable (hreports : Reports outside R)
variable {ingress : CandidateIngress}

include hreports

section

variable (hslot : i.slot = .inl p)
include hslot

/-- A candidate that is processed does not bring the sequence back, and what is reported is the
current head. -/
theorem safe_processCandidate (hproject : ingress.projectId = p) :
    SafeCall R codec i (fun r s' => ∀ outcome, r = .ok outcome →
      (sourceView i.slot s).sequence ≤ (sourceView i.slot s').sequence ∧
        (sourceView i.slot s').Carries outcome) (b.processCandidate codec outside ingress) s := by
  have hsafe : SafeCall R codec i _
      (b.processCandidate codec outside ingress) s := safe_project hslot
    (fun v hv => sat_processCandidate hproject (hreports p) hv) processCandidate_commits
  rwa [← hslot] at hsafe

theorem safe_processGithubCandidate {announcedHead : GitCommitId}
    (hproject : ingress.projectId = p) :
    SafeCall R codec i (fun r s' => ∀ outcome, r = .ok outcome →
      (sourceView i.slot s').Carries outcome)
      (b.processGithubCandidate codec outside ingress announcedHead) s := by
  have hsafe : SafeCall R codec i _
      (b.processGithubCandidate codec outside ingress announcedHead) s := safe_project hslot
    (fun v hv => sat_processGithubCandidate hproject (hreports p) hv) processGithubCandidate_commits
  rwa [← hslot] at hsafe

theorem safe_processDirectPush {gitRef : String} {oldHead : Option GitCommitId}
    {newHead : GitCommitId} :
    SafeCall R codec i (fun _ _ => True)
      (b.processDirectPush codec outside p deliveryId gitRef oldHead newHead t) s := by
  refine safe_quiet_bind lockCoordination_quiet lockCoordination_commits (fun _ _ => trivial)
    fun _ s₁ _ => ?_
  refine safe_lift (fun _ _ _ => trivial) fun policy _ => ?_
  refine safe_lift (fun _ _ _ => trivial) fun _ _ => ?_
  refine safe_ensure (fun _ _ => trivial) fun _ => ?_
  refine safe_quiet_bind (quiet_consult _) (commits_consult _) (fun _ _ => trivial)
    fun contained s₂ _ => ?_
  refine safe_ensure (fun _ _ => trivial) fun _ => ?_
  refine (safe_deliver hslot fun s₃ claim _ hchannel _ => ?_).mono fun _ _ _ => trivial
  refine (safe_processCandidate hreports hslot rfl).mono fun r s₄ hr outcome houtcome => ?_
  exact ⟨(hr outcome houtcome).2, fun h => absurd (hchannel.symm.trans h) (by decide)⟩

theorem safe_processGithubPush {signatureHeader : String} {webhookSecret rawBody : List UInt8} :
    SafeCall R codec i (fun _ _ => True)
      (b.processGithubPush codec outside p deliveryId signatureHeader webhookSecret rawBody t) s := by
  refine safe_quiet_bind lockCoordination_quiet lockCoordination_commits (fun _ _ => trivial)
    fun _ s₁ _ => ?_
  refine safe_lift (fun _ _ _ => trivial) fun _ _ => ?_
  refine safe_ensure (fun _ _ => trivial) fun _ => ?_
  refine safe_lift (fun _ _ _ => trivial) fun _ _ => ?_
  refine safe_lift (fun _ _ _ => trivial) fun policy _ => ?_
  refine safe_lift (fun _ _ _ => trivial) fun announcedHead _ => ?_
  refine (safe_deliver hslot fun s₂ claim _ hchannel _ => ?_).mono fun _ _ _ => trivial
  have hdocument : claim.channel ≠ .sourceReconciliation := fun h =>
    absurd (hchannel.symm.trans h) (by decide)
  cases announcedHead with
  | none =>
    rintro s₃ h₃ _ ⟨⟩
    refine ⟨?_, fun h => absurd h hdocument⟩
    rintro d ⟨⟩
  | some announcedHead =>
    refine safe_quiet_bind (quiet_consult _) (commits_consult _) (fun _ _ _ h => by cases h)
      fun fetchedHead s₃ _ => ?_
    refine (safe_processGithubCandidate hreports hslot rfl).mono fun r s₄ hr outcome houtcome => ?_
    exact ⟨hr outcome houtcome, fun h => absurd h hdocument⟩

end

/-- What a reconciliation ends with: its outcome is recorded under the digest of a document, which
shows the current sequence unless the outcome is about the current head. -/
def Reconciled (codec : SourceCodec) (b : DurableSourceBroker) (p : ProjectId) (k : SourceSlot)
    (r : Except SourceError SourceIngressOutcome) (s : SourceState W) : Prop :=
  ∀ outcome, r = .ok outcome → ∃ policy deliveryId, ∃ document : ReconcileDocument,
    b.installed p = some policy ∧ document.autoDeploy = policy.autoDeploy ∧
    Recorded s.ledger (p, .sourceReconciliation, deliveryId) (codec.sha256 (.reconcile document))
      outcome ∧
    (document.sequence = (sourceView k s).sequence ∨ (sourceView k s).Carries outcome)

theorem safe_reconcileRemoteMainWith {refreshExpiredSameHead : Bool} (hslot : i.slot = .inl p) :
    SafeCall R codec i (Reconciled codec b p i.slot)
      (b.reconcileRemoteMainWith codec outside p t refreshExpiredSameHead) s := by
  have herr : ∀ e (s' : SourceState W),
      Reconciled codec b p i.slot (.error e) s' := fun e s' outcome h => by cases h
  refine safe_quiet_bind lockCoordination_quiet lockCoordination_commits herr fun _ s₁ _ => ?_
  refine safe_lift (fun e s' _ => herr e s') fun policy hpolicy => ?_
  refine safe_ensure (fun s' _ => herr _ s') fun _ => ?_
  refine safe_quiet_bind (quiet_consult _) (commits_consult _) herr fun fetchedHead s₂ _ => ?_
  refine safe_snapshot_bind hslot herr fun s₃ h₃ => ?_
  have hsequence : (reconcileDocument policy ((sourceView i.slot s₂).snapshot p) fetchedHead t
      refreshExpiredSameHead).sequence = (sourceView i.slot s₂).sequence :=
    SourceView.snapshot_sequence _ p
  refine (safe_deliver hslot fun s₄ claim h₄ _ hdigest => ?_).mono fun r s₅ hr outcome houtcome => ?_
  · refine (safe_processCandidate hreports hslot rfl).mono fun r s₅ hr outcome houtcome => ?_
    obtain ⟨hmonotone, hcarries⟩ := hr outcome houtcome
    refine ⟨hcarries, fun _ => ⟨_, hdigest, rfl, ?_⟩⟩
    rw [hsequence, ← h₃, ← h₄]
    exact hmonotone
  · obtain ⟨hrecorded, hview⟩ := hr outcome houtcome
    refine ⟨policy, _, _, Check.require_ok_iff.mp hpolicy, rfl, hrecorded, ?_⟩
    rcases hview with hview | hcarries
    · exact .inl (by rw [hsequence, hview, h₃])
    · exact .inr hcarries

theorem safe_processWakeup {policy : InstalledSourceProjectPolicy} {fetchedHead : GitCommitId}
    {wakeup : GithubWakeupRow} (hslot : i.slot = .inl p) :
    SafeCall R codec i (fun _ _ => True)
      (b.processWakeup codec outside p policy fetchedHead t wakeup) s := by
  have hcomplete : ∀ outcome s', SafeCall R codec i (fun _ _ => True)
      (do transact (completeGithubWakeup b.epoch wakeup outcome t)
          pure true : SourceProg W Bool) s' := fun outcome s' => mono
    (safe_quiet (.bind quiet_transact
      fun _ => .pure) (.bind (commits_transact fun _ _ _ h => .completeGithubWakeup h)
      fun _ => .pure)) fun _ _ _ => trivial
  refine safe_ensure (fun _ _ => trivial) fun hwakeup => ?_
  refine safe_quiet_bind (quiet_consult _) (commits_consult _) (fun _ _ => trivial)
    fun token s₁ _ => ?_
  refine safe_bind (safe_reserveDelivery.mono fun r s₂ h₂ => ?_)
  cases r with
  | error e => exact trivial
  | ok reservation =>
    obtain ⟨-, hreserved⟩ := h₂ reservation rfl
    cases reservation with
    | completed outcome => exact hcomplete outcome s₂
    | claimed claim =>
      obtain ⟨hproject, hchannel, -, -⟩ := hreserved
      refine safe_bind (safe_attempt
        ((safe_processGithubCandidate hreports hslot hwakeup.1).mono fun r s₃ hr => ?_))
      cases r with
      | ok outcome =>
        have hannounced : Announces codec claim policy.autoDeploy (sourceView i.slot s₃)
            outcome := ⟨hr outcome rfl, fun h => absurd (hchannel.symm.trans h) (by decide)⟩
        refine safe_bind ((safe_finishDelivery (hproject ▸ hslot)
          hannounced).mono fun r s₄ _ => ?_)
        cases r with
        | ok reported => exact hcomplete reported s₄
        | error e => exact trivial
      | error e =>
        refine safe_quiet_bind quiet_transact
          (commits_transact fun _ _ _ h => .delivery (.abandonDelivery h)) (fun _ _ => trivial)
          fun _ s₄ _ => ?_
        split_ifs <;> exact fun _ _ => trivial

theorem safe_processPendingGithubPushes {limit : Nat} (hslot : i.slot = .inl p) :
    SafeCall R codec i (fun _ _ => True)
      (b.processPendingGithubPushes codec outside p limit t) s := by
  have hsignal : ∀ n s', SafeCall R codec i (fun _ _ => True)
      (do b.reconcilePriorityFetchSignal outside p
          pure ⟨n, false⟩ : SourceProg W GithubWebhookDrainOutcomeV1) s' := fun n s' => mono
    (safe_quiet (.bind reconcilePriorityFetchSignal_quiet fun _ => .pure)
      (.bind reconcilePriorityFetchSignal_commits fun _ => .pure)) fun _ _ _ => trivial
  -- one wake-up after another, each of them safe
  have hwakeups : ∀ policy fetchedHead wakeups n s', SafeCall R codec i
      (fun _ _ => True) (b.processWakeups codec outside p policy fetchedHead t n wakeups) s' := by
    intro policy fetchedHead wakeups
    induction wakeups with
    | nil => exact hsignal
    | cons wakeup wakeups ih =>
      intro n s'
      refine safe_bind ((safe_processWakeup hreports hslot).mono
        fun r s'' _ => ?_)
      cases r with
      | error e => exact trivial
      | ok done =>
        cases done with
        | true => exact ih (n + 1) s''
        | false => exact fun _ _ => trivial
  refine safe_ensure (fun _ _ => trivial) fun _ => ?_
  refine safe_quiet_bind lockCoordination_quiet lockCoordination_commits (fun _ _ => trivial)
    fun _ s₁ _ => ?_
  refine safe_lift (fun _ _ _ => trivial) fun policy _ => ?_
  refine safe_quiet_bind quiet_transact (commits_observe .of_shape) (fun _ _ => trivial)
    fun wakeups s₂ _ => ?_
  split_ifs
  · exact hsignal 0 s₂
  · refine safe_quiet_bind (quiet_consult _) (commits_consult _) (fun _ _ => trivial)
      fun fetchedHead s₃ _ => ?_
    exact hwakeups policy fetchedHead wakeups 0 s₃

end DurableSourceBroker

end Calls

end Rdashboard
