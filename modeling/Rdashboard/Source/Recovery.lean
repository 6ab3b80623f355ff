import Rdashboard.Source.Heads
import Rdashboard.Source.Running

/-! # What a start finds in the ledger

Every pending update is what its attestation says, every queued webhook is valid, and every
sequence is an `i64`: the transactions keep this, so a start finds it whatever happened before.
The transactions of a start then succeed on such a ledger. -/

namespace Rdashboard

open Relational Interleaving Txn TableRef SourceProg SourceLedger Table SourceView List Schema

/-- The update is what its attestation says, with an `i64` sequence. -/
structure RefUpdateRow.Attests (codec : SourceCodec) (r : RefUpdateRow) : Prop where
  previous : r.signed.payload.previousHead = r.expectedHead
  head : r.signed.payload.head = r.newHead
  sequence : r.sequence = r.signed.payload.sequence
  range : (r.signed.payload.sequence : Int) ≤ i64Max
  digest : r.signed.digest codec = r.attestationDigest

namespace SourceLedger

variable {expected : SourceSnapshot} {p : ProjectId} {digest evidence : EvidenceDigest} {t : Int}
  {head : Option GitCommitId}

/-- What holds of the rows that a start works on. -/
structure Orderly (codec : SourceCodec) (L : SourceLedger) : Prop where
  pending : ∀ r ∈ L.refUpdates.rows, r.Attests codec
  wakeups : ∀ r ∈ L.wakeups.rows, r.validate = .ok ()
  sequences : ∀ r ∈ L.projects.rows, (r.sequence : Int) ≤ i64Max
  attested : L.Attested codec

variable {codec : SourceCodec} {L L' : SourceLedger} {epoch : Nat} {u : Unit}

/-! ### Pending updates -/

theorem beginRefUpdate_attests {signed : SignedAcceptedHeadV1}
    (hprevious : signed.payload.previousHead = expected.head)
    (h : beginRefUpdate epoch expected signed (signed.digest codec) L = .ok (u, L'))
    (hL : ∀ r ∈ L.refUpdates.rows, r.Attests codec) : ∀ r ∈ L'.refUpdates.rows, r.Attests codec := by
  simp only [beginRefUpdate, ok_iff, epoch_iff] at h
  obtain ⟨_, -, current, -, _, -, held, -, _, -, pending, -, h⟩ := h
  cases pending with
  | some r =>
    simp only [ok_iff] at h
    obtain ⟨_, -, _, -, -, rfl⟩ := h
    exact hL
  | none =>
    simp only [insert_ok_iff, ok_iff] at h
    obtain ⟨n, hn, -, t, ht, rfl⟩ := h
    exact forall_insert ht hL ⟨hprevious, rfl, sequenceToI64_ok hn, sequenceToI64_le hn, rfl⟩

/-! ### Queued webhooks -/

theorem pruneSettledGithubWakeups_ok (h : pruneSettledGithubWakeups L = .ok (u, L')) :
    ∃ w, L' = { L with wakeups := L.wakeups.delete w } := by
  obtain ⟨_, -, _, -, -, rfl⟩ := h
  exact ⟨_, rfl⟩

theorem enqueueGithubWakeup_validates {deliveryId : String}
    {head : GitCommitId} {repository : String} {admission : GithubWebhookAdmissionV1}
    (hdelivery : validateDeliveryId deliveryId = .ok ()) (ht : 0 ≤ t)
    (hrepository : validGithubRepositoryFullName repository = true)
    (h : enqueueGithubWakeup epoch p deliveryId digest head repository t L = .ok (admission, L'))
    (hL : ∀ r ∈ L.wakeups.rows, r.validate = .ok ()) : ∀ r ∈ L'.wakeups.rows, r.validate = .ok () := by
  simp only [enqueueGithubWakeup, ok_iff, epoch_iff] at h
  obtain ⟨_, -, queued, -, h⟩ := h
  cases queued with
  | some r =>
    simp only [ok_iff] at h
    obtain ⟨_, -, -, rfl⟩ := h
    exact hL
  | none =>
    simp only [queueGithubWakeup, ok_iff, insert_ok_iff] at h
    obtain ⟨_, -, _, -, _, -, _, -, _, -, n, hn, _, _, ⟨-, rows, hrows, rfl⟩, _, _, hprune, -, rfl⟩ := h
    obtain ⟨w, rfl⟩ := pruneSettledGithubWakeups_ok hprune
    refine forall_delete (forall_insert hrows hL ?_)
    refine Check.ensure_ok_iff.mpr ⟨?_, ht, ?_, hrepository⟩
    · change n ≠ 0
      rw [← hn]
      exact Nat.succ_ne_zero _
    · change Check.isOk (validateDeliveryId deliveryId) = true
      rw [hdelivery]
      rfl

theorem completeGithubWakeup_validates {wakeup : GithubWakeupRow} {outcome : SourceIngressOutcome}
    (h : completeGithubWakeup epoch wakeup outcome t L = .ok (u, L'))
    (hL : ∀ r ∈ L.wakeups.rows, r.validate = .ok ()) : ∀ r ∈ L'.wakeups.rows, r.validate = .ok () := by
  simp only [completeGithubWakeup, ok_iff, epoch_iff, ite_ok_iff, update_ok_iff] at h
  obtain ⟨_, -, _, -, _, -, _, -, stored, -, _, -, h⟩ := h
  obtain ⟨-, _, -, hprune⟩ | ⟨-, _, _, ⟨rows, hrows, -, rfl⟩, _, -, hprune⟩ := h
  · obtain ⟨w, rfl⟩ := pruneSettledGithubWakeups_ok hprune
    exact forall_delete hL
  · obtain ⟨w, rfl⟩ := pruneSettledGithubWakeups_ok hprune
    exact forall_delete (forall_update hrows hL fun r _ hr => hr)

/-! ### Sequences -/

theorem upserted_sequences {r : SourceProjectRow} {f : SourceProjectRow → SourceProjectRow}
    (hr : r.sequence ≤ i64Max)
    (hf : ∀ q, q.sequence ≤ i64Max → (f q).sequence ≤ i64Max)
    (h : (sourceProjectsT.upsert (·.projectId) r f : Txn SourceLedger SourceError Unit) L =
      .ok (u, L')) (hL : ∀ q ∈ L.projects.rows, q.sequence ≤ i64Max) :
    ∀ q ∈ L'.projects.rows, q.sequence ≤ i64Max := by
  obtain ⟨t, rfl, hrows⟩ := mem_of_upsert h
  intro q hq
  obtain hold | rfl | ⟨q', hq', -, rfl⟩ := hrows q hq
  · exact hL q hold
  · exact hr
  · exact hf q' (hL q' hq')

/-! ### The transactions of a start -/

section Succeeds

variable (hepoch : requireBrokerEpoch epoch L = .ok ((), L))
variable {r : RefUpdateRow}
include hepoch

theorem markDiverged_succeeds (hsequences : ∀ q ∈ L.projects.rows, q.sequence ≤ i64Max)
    (p : ProjectId) (candidate : GitCommitId) (channel : SourceChannel) (evidence : EvidenceDigest)
    (t : Int) : ∃ L', markDiverged epoch p candidate channel evidence t L = .ok ((), L') := by
  obtain ⟨current, hcurrent, hrange, hchecked⟩ : ∃ current, loadSnapshot p L = .ok current ∧
      current.sequence ≤ i64Max ∧ sourceProjectSchema.check
        (divergedProjectRow current candidate channel evidence t) = true := by
    refine ⟨_, loadSnapshot_eq L p none, ?_⟩
    unfold snapshot view
    cases hrow : L.projects.lookup (·.projectId) p with
    | none =>
      change (0 : Nat) ≤ i64Max ∧ _
      exact ⟨by decide, rfl⟩
    | some r =>
      have hmem := mem_of_lookup hrow
      refine ⟨hsequences r hmem, ?_⟩
      have hcheck := L.projects.checked r hmem
      simp only [sourceProjectSchema, keyed, Bool.and_eq_true] at hcheck ⊢
      exact ⟨hcheck.1, rfl⟩
  obtain ⟨L₁, hevent⟩ := exists_insertNew (ε := SourceError) (T := divergenceEventsT)
    (r := { projectId := p, evidenceDigest := evidence, canonicalHead := current.head
            divergentCandidate := candidate, divergenceChannel := channel, detectedAtMs := t
            resolvedAtMs := none, resolution := none }) rfl
  obtain ⟨L₂, hupsert⟩ := exists_upsert (ε := SourceError) (T := sourceProjectsT)
    (f := divergeOver (divergedProjectRow current candidate channel evidence t)) hchecked
    (fun q _ => by unfold divergeOver; split <;> rfl) fun q hq _ => by
      have hcheck := L₁.projects.checked q hq
      unfold divergeOver
      split_ifs with hstate
      · exact hcheck
      · simp only [sourceProjectSchema, keyed, Bool.and_eq_true] at hcheck ⊢
        exact ⟨hcheck.1, rfl⟩
  refine ⟨L₂, ?_⟩
  simp only [markDiverged, ok_iff]
  exact ⟨(), L, hepoch, current, hcurrent, (), L₁, hevent, _, if_pos hrange, hupsert⟩

theorem markRefUpdated_succeeds (hr : r ∈ L.refUpdates.rows) (t : Int) :
    ∃ L', markRefUpdated epoch r.projectId r.attestationDigest t L = .ok ((), L') := by
  obtain ⟨updated, hupdated⟩ := exists_update_keyed
    (f := fun q : RefUpdateRow => { q with state := .refUpdated, updatedAtMs := t })
    (fun _ _ => rfl) fun q hq _ => L.refUpdates.checked q hq
  refine ⟨{ L with refUpdates := updated }, ?_⟩
  simp only [markRefUpdated, ok_iff, update_ok_iff]
  refine ⟨(), L, hepoch, _, _, ⟨updated, hupdated, rfl, rfl⟩, ?_, rfl⟩
  refine (count_eq_one_iff refUpdates_by_id fun q hq => ?_).mpr
    ⟨r, lookup_of_mem refUpdates_by_id hr, ?_⟩
  · simp only [where_iff] at hq
    exact hq.1
  · simp

theorem recoverIncompleteDeliveries_succeeds (t : Int) :
    ∃ n L', recoverIncompleteDeliveries epoch t L = .ok (n, L') := by
  obtain ⟨updated, hupdated⟩ := exists_update_keyed
    (p := fun r : SourceDeliveryRow => decide (r.status = .processing))
    (f := fun r : SourceDeliveryRow => { r with status := .recoverable, updatedAtMs := t })
    (fun _ _ => rfl) fun r hr hprocessing => by
      have hcheck := L.deliveries.checked r hr
      have hstatus := of_decide_eq_true hprocessing
      simpa [sourceDeliverySchema, keyed, hstatus] using hcheck
  simp only [recoverIncompleteDeliveries, bind_ok_iff, update_ok_iff]
  exact ⟨_, _, (), L, hepoch, updated, hupdated, rfl, rfl⟩

theorem reconcileGithubWakeupPolicy_succeeds (installed : ProjectId → Option String) :
    ∃ n L', reconcileGithubWakeupPolicy epoch installed L = .ok (n, L') := by
  simp only [reconcileGithubWakeupPolicy, ok_iff, pruneSettledGithubWakeups, delete_ok_iff]
  exact ⟨_, _, (), L, hepoch, _, rfl, (), _, ⟨_, rfl, _, rfl, trivial, rfl⟩, rfl, rfl⟩

theorem pendingGithubWakeups_succeeds (hwakeups : ∀ r ∈ L.wakeups.rows, r.validate = .ok ())
    (p : ProjectId) : ∃ rows, pendingGithubWakeups epoch p 1 L = .ok (rows, L) := by
  simp only [pendingGithubWakeups, ok_iff]
  refine ⟨_, (), by decide, (), L, hepoch, _, rfl, (), ?_, rfl, rfl⟩
  refine Check.each_ok_iff.mpr fun r hr => hwakeups r ?_
  have hsorted := (perm_insertionSort _ _).mem_iff.mp (mem_of_mem_take hr)
  exact (mem_filter.mp hsorted).1

theorem reconcileOutboxPolicy_succeeds (enabled : ProjectId → Bool) (ht : 0 ≤ t) :
    ∃ L', reconcileOutboxPolicy epoch enabled t L = .ok ((), L') := by
  obtain ⟨updated, hupdated⟩ := exists_update (t := L.outbox)
    (f := fun r => { r with status := .superseded, settledAtMs := some (max r.enqueuedAtMs t) })
    (fun r hr _ => by
      have hcheck := L.outbox.checked r hr
      simp only [sourceOutboxSchema, Bool.and_eq_true] at hcheck ⊢
      exact ⟨hcheck.1, rfl⟩)
    fun r _ q _ h => by
      unfold assign
      split <;> split <;> exact h
  simp only [reconcileOutboxPolicy, ok_iff, pruneSettledOutbox, update_ok_iff, delete_ok_iff]
  exact ⟨_, (), ht, (), L, hepoch, _, _, ⟨updated, hupdated, rfl, rfl⟩, _, rfl, _,
    rfl, _, rfl, trivial, rfl⟩

/-- A head that continues the current one is accepted once its update is recorded and the ref was
moved, unless an accepted head has its sequence or its digest. -/
theorem acceptIfCurrent_succeeds {ref : Option GitCommitId} {R : GitCommitId → GitCommitId → Prop}
    (hexpected : expected = (L.view r.projectId ref).snapshot r.projectId)
    (hready : (L.view r.projectId ref).state = .ready)
    (hr : L.refUpdate r.projectId = some r) (hstate : r.state = .refUpdated)
    (hattests : r.Attests codec)
    (hcontinues : r.signed.payload.Continues R r.projectId (L.view r.projectId ref))
    (hfresh : ∀ a ∈ L.acceptedHeads.rows, a.projectId = r.projectId →
      a.sequence ≠ r.signed.payload.sequence ∧ a.attestationDigest ≠ r.attestationDigest) :
    ∃ L', acceptIfCurrent epoch expected r.signed r.attestationDigest L = .ok ((), L') := by
  have hproject : expected.projectId = r.projectId := by
    rw [hexpected, snapshot_projectId]
  have hpositive : 0 < r.signed.payload.sequence := hcontinues.sequence ▸ Nat.succ_pos _
  have hrow : ∀ q, sourceProjectSchema.check
      (acceptOver (acceptedProjectRow expected r.signed r.attestationDigest) q) = true ∧
      sourceProjectSchema.check (acceptedProjectRow expected r.signed r.attestationDigest) = true := by
    intro q
    simp [sourceProjectSchema, keyed, acceptOver, acceptedProjectRow, hpositive]
  obtain ⟨heads, hheads⟩ := exists_insert (t := L.acceptedHeads)
    (r := acceptedHeadRow r.signed r.attestationDigest) (decide_eq_true hpositive) fun a ha => by
      refine decide_eq_true ⟨fun h => ?_, fun h => ?_⟩
      · obtain ⟨hsame, hsequence⟩ := Prod.mk.inj h
        exact (hfresh a ha (hsame.trans hcontinues.project)).1 hsequence
      · obtain ⟨hsame, hdigest⟩ := Prod.mk.inj h
        exact (hfresh a ha (hsame.trans hcontinues.project)).2 hdigest
  obtain ⟨L₂, hupsert⟩ := exists_upsert (ε := SourceError) (T := sourceProjectsT)
    (f := acceptOver (acceptedProjectRow expected r.signed r.attestationDigest))
    (hrow (acceptedProjectRow expected r.signed r.attestationDigest)).2 (fun _ _ => rfl)
    fun q _ _ => (hrow q).1
  simp only [acceptIfCurrent, ok_iff, acceptHead, ite_ok_iff, delete_ok_iff, insert_ok_iff]
  refine ⟨_, (), L, hepoch, expected, ?_, .inr ⟨?_, (), ⟨rfl, rfl, ?_⟩, _, if_pos hattests.range,
    some r, hproject ▸ hr, (), ?_, (), _, ⟨trivial, heads, hheads, rfl⟩, (), L₂, hupsert, _, rfl,
    trivial, rfl⟩⟩
  · rw [hproject, hexpected]
    exact loadSnapshot_eq L r.projectId ref
  · rintro ⟨-, -, hsequence, -⟩
    have hnext := hcontinues.sequence
    rw [hexpected, snapshot_sequence] at hsequence
    omega
  · rw [hexpected, snapshot_state, hready]
  · have hprevious : r.expectedHead = expected.head := by
      rw [hexpected, snapshot_head, ← hattests.previous, hcontinues.previous]
    simp [hprevious, hattests.head, hattests.sequence, hstate]

end Succeeds

theorem acquireBrokerLease_succeeds (ht : 0 ≤ t)
    (hleft : (L.brokerEpoch.getD 0 : Nat) < i64Max) : ∃ L',
      acquireBrokerLease t L = .ok (L.brokerEpoch.getD 0 + 1, L') := by
  refine ⟨{ L with brokerEpoch := some (L.brokerEpoch.getD 0 + 1) }, ?_⟩
  simp only [acquireBrokerLease, ok_iff]
  refine ⟨(), ht, _, rfl, (), ?_, _, if_pos ?_, rfl⟩
  · simp only [u64Max, i64Max] at hleft ⊢
    omega
  · push_cast
    omega
end SourceLedger

/-! ### The invariant -/

section Orderly

variable {codec : SourceCodec} {o : SourceOrigin} {L L' : SourceLedger}

theorem LedgerStep.sequences (h : LedgerStep codec o L L')
    (hL : ∀ q ∈ L.projects.rows, q.sequence ≤ i64Max) :
    ∀ q ∈ L'.projects.rows, q.sequence ≤ i64Max := by
  obtain ⟨h, -⟩ | h := h.head_cases
  · exact h ▸ hL
  cases h with
  | acceptIfCurrent _ h =>
    obtain ⟨w, rfl | ⟨hle, heads, projects, -, hrows, rfl⟩⟩ := acceptIfCurrent_tables h
    · exact hL
    · intro q hq
      obtain hold | rfl | ⟨q', -, rfl⟩ := hrows q hq
      · exact hL q hold
      · exact hle
      · exact hle
  | markDiverged h =>
    simp only [SourceLedger.markDiverged, ok_iff, epoch_iff] at h
    obtain ⟨_, -, current, -, _, L₁, hevent, n, hn, hupsert⟩ := h
    have hprojects : L₁.projects = L.projects := Txn.frame hevent
    refine upserted_sequences (sequenceToI64_le hn) (fun q hq => ?_) hupsert (hprojects ▸ hL)
    unfold divergeOver
    split <;> exact hq
  | setControls h =>
    simp only [SourceLedger.setControls, ok_iff, epoch_iff] at h
    obtain ⟨_, -, _, -, current, -, n, hn, hupsert⟩ := h
    exact upserted_sequences (sequenceToI64_le hn) (by exact fun q hq => hq) hupsert hL
  | resolveDivergence h =>
    simp only [resolveDivergenceKeepCanonical, ok_iff, epoch_iff, update_ok_iff,
      delete_ok_iff] at h
    obtain ⟨_, -, current, -, _, -, _, _, ⟨projects, hprojects, -, rfl⟩,
      _, -, _, -, _, -, _, _, ⟨events, -, -, rfl⟩, -, rfl⟩ := h
    exact forall_update hprojects hL fun _ _ hq => hq

/-- The pending updates and the queued webhooks. -/
def SourceLedger.queues (L : SourceLedger) : Table refUpdateSchema × Table githubWakeupSchema :=
  (L.refUpdates, L.wakeups)

theorem LedgerStep.queues (h : LedgerStep codec o L L')
    (hpending : ∀ r ∈ L.refUpdates.rows, r.Attests codec)
    (hwakeups : ∀ r ∈ L.wakeups.rows, r.validate = .ok ()) :
    (∀ r ∈ L'.refUpdates.rows, r.Attests codec) ∧ ∀ r ∈ L'.wakeups.rows, r.validate = .ok () := by
  have hsame : L'.queues = L.queues → (∀ r ∈ L'.refUpdates.rows, r.Attests codec) ∧
      ∀ r ∈ L'.wakeups.rows, r.validate = .ok () := by
    intro hqueues
    have hupdates : L'.refUpdates = L.refUpdates := congrArg Prod.fst hqueues
    have hqueued : L'.wakeups = L.wakeups := congrArg Prod.snd hqueues
    exact ⟨hupdates ▸ hpending, hqueued ▸ hwakeups⟩
  have hquiet : L'.wakeups = L.wakeups → ∀ r ∈ L'.wakeups.rows, r.validate = .ok () :=
    fun h => h ▸ hwakeups
  have hidle : L'.refUpdates = L.refUpdates → ∀ r ∈ L'.refUpdates.rows, r.Attests codec :=
    fun h => h ▸ hpending
  cases h
  case beginRefUpdate hprevious h =>
    exact ⟨beginRefUpdate_attests hprevious h hpending, hquiet (frame h)⟩
  case markRefUpdated h =>
    refine ⟨?_, hquiet (frame h)⟩
    simp only [SourceLedger.markRefUpdated, ok_iff, epoch_iff, update_ok_iff] at h
    obtain ⟨_, -, n, _, ⟨updated, hupdated, -, rfl⟩, -, rfl⟩ := h
    exact forall_update hupdated hpending fun r _ hr =>
      ⟨hr.previous, hr.head, hr.sequence, hr.range, hr.digest⟩
  case head h =>
    cases h with
    | acceptIfCurrent _ h =>
      obtain ⟨w, rfl | ⟨-, heads, projects, -, -, rfl⟩⟩ := acceptIfCurrent_tables h
      all_goals exact ⟨forall_delete hpending, hwakeups⟩
    | resolveDivergence h =>
      refine ⟨?_, hquiet (frame h)⟩
      simp only [resolveDivergenceKeepCanonical, ok_iff, epoch_iff, update_ok_iff,
        delete_ok_iff] at h
      obtain ⟨_, -, current, -, _, -, _, _, ⟨projects, -, -, rfl⟩,
        _, -, _, -, _, -, _, _, ⟨events, -, -, rfl⟩, -, rfl⟩ := h
      exact forall_delete hpending
    | markDiverged h | setControls h => exact hsame (frame h)
  case enqueueGithubWakeup hdelivery ht hrepository h =>
    exact ⟨hidle (frame h), enqueueGithubWakeup_validates hdelivery ht hrepository h hwakeups⟩
  case completeGithubWakeup h =>
    exact ⟨hidle (frame h), completeGithubWakeup_validates h hwakeups⟩
  case reconcileGithubWakeupPolicy h =>
    refine ⟨hidle (frame h), ?_⟩
    simp only [SourceLedger.reconcileGithubWakeupPolicy, ok_iff, epoch_iff, delete_ok_iff] at h
    obtain ⟨_, -, _, -, _, _, hprune, -, rfl⟩ := h
    obtain ⟨w, rfl⟩ := pruneSettledGithubWakeups_ok hprune
    exact forall_delete (forall_delete hwakeups)
  case delivery h => exact hsame (congrArg (·.queues) h.rest_eq)
  all_goals exact hsame (frame ‹_ = Except.ok _›)

theorem LedgerStep.orderly (h : LedgerStep codec o L L') (hL : L.Orderly codec) :
    L'.Orderly codec :=
  ⟨(h.queues hL.pending hL.wakeups).1, (h.queues hL.pending hL.wakeups).2, h.sequences hL.sequences,
    h.attested hL.attested⟩

theorem SourceLedger.Orderly.lease (h : L.Orderly codec) (epoch : Nat) :
    SourceLedger.Orderly codec { L with brokerEpoch := some epoch } :=
  ⟨h.pending, h.wakeups, h.sequences, h.attested⟩

theorem SourceLedger.Orderly.empty : SourceLedger.Orderly codec .empty :=
  ⟨fun _ h => absurd h not_mem_nil, fun _ h => absurd h not_mem_nil,
    fun _ h => absurd h not_mem_nil, fun _ h => absurd h not_mem_nil⟩

theorem newBroker_reachable_orderly {W : Type} {outside : SourceOutside W}
    {refs : ProjectId → Option GitCommitId} {w : W} {c : SourceConfig W}
    (h : Reachable (sourceService codec outside) (newBroker refs w) c) :
    c.state.ledger.Orderly codec :=
  newBroker_ledger_invariant .empty (fun _ epoch hL => hL.lease epoch)
    (fun _ _ _ hstep hL => hstep.orderly hL) h

end Orderly

end Rdashboard
