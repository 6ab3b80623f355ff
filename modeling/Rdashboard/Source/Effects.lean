import Rdashboard.Source.Views

/-! # What the transactions do to a project

One lemma per transaction on a project: what it found when it succeeded, and the view it left.
The transactions on deliveries, the outbox and the webhook queue show in no view. -/

namespace Rdashboard

open Relational Txn TableRef SourceView Option Table

/-- `v'` differs from `v` at most in the state of the project, its evidence, its controls and its
pending update. -/
structure SourceView.Keeps (v v' : SourceView) : Prop where
  frozen : v.Frozen v'
  accepted : v'.accepted = v.accepted
  ticket : v'.ticket = v.ticket

/-- A ticket for an operation on the current head. -/
structure TicketGrant (operation : OperationRecord) (v : SourceView) (t : MutationTicketRow) :
    Prop where
  attempt : t.attemptId = operation.attemptId
  ready : v.state = .ready
  target : ∃ c, operation.targetCommit = some c ∧ v.head = some c ∧ v.blockedSha ≠ some c
  sequence : operation.evidence.sourceSequence = some v.sequence ∧ t.sourceSequence = v.sequence
  digest : operation.evidence.sourceAttestationDigest = some t.attestationDigest ∧
    v.attestationDigest = some t.attestationDigest
  idle : v.pending = none
  free : v.ticket = none ∨ v.ticket = some t

namespace SourceLedger

variable {L L' : SourceLedger} {p : ProjectId} {epoch : Nat} {u : Unit}
variable {operation : OperationRecord} {nowMs : Int} {expected : SourceSnapshot}
  {signed : SignedAcceptedHeadV1} {digest evidenceDigest : EvidenceDigest}

theorem epoch_iff : requireBrokerEpoch epoch L = .ok (u, L') ↔
    (epoch ≠ 0 ∧ ∃ n, sequenceToI64 epoch = .ok n ∧ L.brokerEpoch = some n) ∧ L = L' := by
  simp [requireBrokerEpoch, ok_iff, and_assoc, ← exists_and_right]

theorem sequenceToI64_le {n m : Nat} (h : sequenceToI64 n = .ok m) : (n : Int) ≤ i64Max := by
  unfold sequenceToI64 at h
  split_ifs at h with hle
  exact hle

theorem sequenceToI64_ok {n m : Nat} (h : sequenceToI64 n = .ok m) : m = n := by
  unfold sequenceToI64 at h
  split_ifs at h
  cases h
  rfl

/-! ### Tickets -/

theorem acquireMutationTicket_ok (h : acquireMutationTicket epoch operation nowMs L = .ok (u, L')) :
    ∃ t, (∀ ref, TicketGrant operation (L.view operation.projectId ref) t) ∧
      Touches operation.projectId (fun v => { v with ticket := some t }) L L' := by
  simp only [acquireMutationTicket, ok_iff, epoch_iff] at h
  obtain ⟨target, htarget, n, hn, m, hm, d, hd, phase, hphase, _, -, current, hcurrent, _, hfits, _,
    hblocked, pending, hpending, _, rfl, held, hheld, h⟩ := h
  obtain rfl := sequenceToI64_ok hm
  have hgrant : ∀ t, t.attemptId = operation.attemptId → t.sourceSequence = m →
      t.attestationDigest = d → (held = none ∨ held = some t) →
      ∀ ref, TicketGrant operation (L.view operation.projectId ref) t := by
    intro t hattempt hsequence hdigest hfree ref
    have hsnapshot := loadSnapshot_ok ref hcurrent
    subst hsnapshot
    rw [snapshot_state, snapshot_head, snapshot_sequence, snapshot_attestationDigest] at hfits
    rw [snapshot_blockedSha] at hblocked
    obtain ⟨hready, hhead, hseq, hdig⟩ := hfits
    rw [← hheld] at hfree
    subst hdigest
    exact ⟨hattempt, hready, ⟨target, htarget, hhead, hblocked⟩,
      ⟨hseq ▸ hn, hsequence.trans hseq.symm⟩, ⟨hd, hdig⟩, hpending, hfree⟩
  cases held with
  | some held =>
    obtain ⟨⟨hattempt, -, hsequence, hdigest⟩, rfl⟩ := ensure_ok_iff.mp h
    refine ⟨held, hgrant held hattempt hsequence hdigest (.inr rfl), fun ref => ?_,
      fun _ _ _ => rfl⟩
    have hticket : (L.view operation.projectId ref).ticket = some held := hheld
    rw [← hticket]
  | none => exact ⟨_, hgrant _ rfl rfl rfl (.inl rfl), ticket_shown.insert h⟩

theorem releaseMutationTicket_ok (h : releaseMutationTicket epoch operation L = .ok (u, L')) :
    L' = L ∨ ∃ t, L.ticket operation.projectId = some t ∧ t.attemptId = operation.attemptId ∧
      Touches operation.projectId (fun v => { v with ticket := none }) L L' := by
  simp only [releaseMutationTicket, ok_iff, epoch_iff] at h
  obtain ⟨phases, -, n, -, m, -, d, -, _, -, held, hheld, h⟩ := h
  cases held with
  | none =>
    obtain ⟨-, rfl⟩ := pure_ok_iff.mp h
    exact .inl rfl
  | some t =>
    simp only [ok_iff] at h
    obtain ⟨_, ⟨hattempt, -⟩, _, _, hdelete, -, rfl⟩ := h
    have hproject : t.projectId = operation.projectId := key_of_lookup hheld
    have htouches := ticket_shown.delete (fun r hr => by
      simp only [where_iff] at hr
      exact hr.1) hdelete
    refine .inr ⟨t, hheld, hattempt, fun ref => ?_, htouches.others⟩
    have hticket : (L.view operation.projectId ref).ticket = some t := hheld
    rw [htouches.own ref, hticket]
    simp [hproject, hattempt]

/-! ### Updates of the accepted ref -/

theorem beginRefUpdate_ok (h : beginRefUpdate epoch expected signed digest L = .ok (u, L')) :
    (∀ ref, (L.view expected.projectId ref).ticket = none ∧
      (L.view expected.projectId ref).state = .ready ∧
      (L.view expected.projectId ref).head = expected.head ∧
      (L.view expected.projectId ref).sequence = expected.sequence) ∧
    ∃ r, r.newHead = signed.payload.head ∧ r.attestationDigest = digest ∧
      ((L' = L ∧ L.refUpdate expected.projectId = some r) ∨
        (L.refUpdate expected.projectId = none ∧ r.expectedHead = expected.head ∧
          r.sequence = signed.payload.sequence ∧ r.signed = signed ∧
          Touches expected.projectId (fun v => { v with pending := some r }) L L')) := by
  simp only [beginRefUpdate, ok_iff, epoch_iff] at h
  obtain ⟨_, -, current, hcurrent, _, hsame, held, hheld, _, rfl, pending, hpending, h⟩ := h
  refine ⟨fun ref => ?_, ?_⟩
  · have hsnapshot := loadSnapshot_ok ref hcurrent
    subst hsnapshot
    rw [snapshot_head, snapshot_sequence, snapshot_state] at hsame
    exact ⟨hheld, hsame.2.2, hsame.1, hsame.2.1⟩
  · cases pending with
    | some r =>
      simp only [ok_iff] at h
      obtain ⟨_, ⟨-, hnew⟩, _, -, ⟨-, hdigest⟩, rfl⟩ := h
      exact ⟨r, hnew, hdigest, .inl ⟨rfl, hpending⟩⟩
    | none =>
      simp only [ok_iff] at h
      obtain ⟨n, hn, hinsert⟩ := h
      exact ⟨_, rfl, rfl, .inr ⟨hpending, rfl, sequenceToI64_ok hn, rfl,
        pending_shown.insert hinsert⟩⟩

theorem markRefUpdated_ok {updatedAtMs : Int}
    (h : markRefUpdated epoch p digest updatedAtMs L = .ok (u, L')) :
    ∃ r, L.refUpdate p = some r ∧ r.attestationDigest = digest ∧
      Touches p (fun v => { v with pending := some { r with state := .refUpdated, updatedAtMs } })
        L L' := by
  simp only [markRefUpdated, ok_iff, epoch_iff] at h
  obtain ⟨_, -, n, _, hupdate, rfl, rfl⟩ := h
  have hw : ∀ r : RefUpdateRow, (decide (r.projectId = p) &&
      decide (r.attestationDigest = digest)) = true → r.projectId = p := by
    intro r hr
    simp only [where_iff] at hr
    exact hr.1
  obtain ⟨t, -, hcount, -⟩ := update_ok_iff.mp hupdate
  obtain ⟨r, hr, hwr⟩ := (count_eq_one_iff refUpdates_by_id hw).mp hcount
  have htouches := pending_shown.update hw (by exact fun _ => rfl) hupdate
  have hdigest := hwr
  simp only [where_iff] at hdigest
  refine ⟨r, hr, hdigest.2, fun ref => ?_, htouches.others⟩
  have hpending : (L.view p ref).pending = some r := hr
  rw [htouches.own ref, hpending, map_some, assign, if_pos hwr]

/-- The view of a project whose head was accepted. -/
def acceptInto (expected : SourceSnapshot) (signed : SignedAcceptedHeadV1) (digest : EvidenceDigest)
    (v : SourceView) : SourceView :=
  { v with
    row := some (v.row.elim (acceptedProjectRow expected signed digest)
      (acceptOver (acceptedProjectRow expected signed digest)))
    accepted := v.accepted ++ [acceptedHeadRow signed digest]
    pending := none }

theorem acceptHead_ok (hproject : signed.payload.projectId = expected.projectId)
    (h : acceptHead expected signed digest L = .ok (u, L')) :
    (∃ r, L.refUpdate expected.projectId = some r ∧ r.newHead = signed.payload.head ∧
      r.sequence = signed.payload.sequence) ∧
    Touches expected.projectId (acceptInto expected signed digest) L L' := by
  simp only [acceptHead, ok_iff] at h
  obtain ⟨n, hn, pending, hpending, _, hmatch, _, L₁, haccepted, _, L₂,
    hupsert, _, L₃, hdelete, -, rfl⟩ := h
  obtain rfl := sequenceToI64_ok hn
  cases pending with
  | none => cases hmatch
  | some r =>
    simp only [any_some, where_iff] at hmatch
    obtain ⟨⟨⟨⟨-, hnew⟩, hseq⟩, hdigest⟩, hstate⟩ := hmatch
    refine ⟨⟨r, hpending, hnew, hseq⟩, ?_⟩
    have h₁ := touches_insert_accepted haccepted
    have h₂ := row_shown.upsert (by exact fun _ _ => rfl) hupsert
    rw [show (acceptedHeadRow signed digest).projectId = expected.projectId from hproject] at h₁
    rw [show (acceptedProjectRow expected signed digest).projectId = expected.projectId from
      hproject] at h₂
    have h₃ := pending_shown.delete (fun r hr => by
      simp only [where_iff] at hr
      exact hr.1.1) hdelete
    have htouches := (h₁.trans h₂).trans h₃
    refine ⟨fun ref => ?_, htouches.others⟩
    have hkey : r.projectId = expected.projectId := key_of_lookup hpending
    have hp : (L.view expected.projectId ref).pending = some r := hpending
    rw [htouches.own ref]
    simp only [Function.comp, hp, filter_some, hkey, hdigest, hstate]
    rfl

theorem acceptIfCurrent_ok (hproject : signed.payload.projectId = expected.projectId)
    (h : acceptIfCurrent epoch expected signed digest L = .ok (u, L')) :
    (∀ ref, (L.view expected.projectId ref).sequence = signed.payload.sequence) ∨
    (∀ ref, (L.view expected.projectId ref).state = .ready ∧
      (L.view expected.projectId ref).head = expected.head ∧
      (L.view expected.projectId ref).sequence = expected.sequence) ∧
    (∃ r, L.refUpdate expected.projectId = some r ∧ r.newHead = signed.payload.head ∧
      r.sequence = signed.payload.sequence) ∧
    Touches expected.projectId (acceptInto expected signed digest) L L' := by
  simp only [acceptIfCurrent, ok_iff, epoch_iff, ite_ok_iff] at h
  obtain ⟨_, -, current, hcurrent, ⟨hsame, -⟩ | ⟨-, _, hsame, h⟩⟩ := h
  · left
    intro ref
    have hsnapshot := loadSnapshot_ok ref hcurrent
    subst hsnapshot
    rw [snapshot_sequence] at hsame
    exact hsame.2.2.1
  · refine .inr ⟨fun ref => ?_, acceptHead_ok hproject h⟩
    have hsnapshot := loadSnapshot_ok ref hcurrent
    subst hsnapshot
    rw [snapshot_head, snapshot_sequence, snapshot_state] at hsame
    exact ⟨hsame.2.2, hsame.1, hsame.2.1⟩

/-- What `accept_if_current` writes: nothing but the pending update, or the head as well. -/
theorem acceptIfCurrent_tables (h : acceptIfCurrent epoch expected signed digest L = .ok (u, L')) :
    ∃ w, L' = { L with refUpdates := L.refUpdates.delete w } ∨
      signed.payload.sequence ≤ i64Max ∧ ∃ heads projects,
        L.acceptedHeads.insert (acceptedHeadRow signed digest) = some heads ∧
        (∀ q ∈ rows projects, q ∈ L.projects.rows ∨
          q = acceptedProjectRow expected signed digest ∨ ∃ q' ∈ L.projects.rows,
            acceptOver (acceptedProjectRow expected signed digest) q' = q) ∧
        L' = { L with acceptedHeads := heads, projects := projects
                      refUpdates := L.refUpdates.delete w } := by
  simp only [acceptIfCurrent, ok_iff, epoch_iff, acceptHead, ite_ok_iff, delete_ok_iff, insert_ok_iff] at h
  obtain ⟨_, -, current, -, h⟩ := h
  obtain ⟨-, _, -, -, rfl⟩ | ⟨-, _, -, n, hn, _, -, _, -, _, _, ⟨-, heads, hheads, rfl⟩, _, _,
    hupsert, _, -, -, rfl⟩ := h
  · exact ⟨_, .inl rfl⟩
  · obtain ⟨projects, rfl, hrows⟩ := mem_of_upsert hupsert
    refine ⟨_, .inr ⟨sequenceToI64_le hn, heads, projects, hheads, fun q hq => ?_, rfl⟩⟩
    obtain hold | hnew | ⟨q', hq', -, h⟩ := hrows q hq
    · exact .inl hold
    · exact .inr (.inl hnew)
    · exact .inr (.inr ⟨q', hq', h⟩)

/-! ### Divergence and controls -/

theorem acceptInto_head (v : SourceView) :
    (acceptInto expected signed digest v).head = some signed.payload.head := by
  unfold acceptInto head
  cases v.row <;> rfl

theorem acceptInto_sequence (v : SourceView) :
    (acceptInto expected signed digest v).sequence = signed.payload.sequence := by
  unfold acceptInto SourceView.sequence
  cases v.row <;> rfl

theorem acceptInto_attestation (v : SourceView) :
    (acceptInto expected signed digest v).attestation = some signed ∧
      (acceptInto expected signed digest v).attestationDigest = some digest := by
  unfold acceptInto attestation attestationDigest
  cases v.row <;> exact ⟨rfl, rfl⟩

theorem markDiverged_ok {candidate : GitCommitId} {channel : SourceChannel}
    (h : markDiverged epoch p candidate channel evidenceDigest nowMs L = .ok (u, L')) :
    (∀ ref, (L.view p ref).Keeps (L'.view p ref) ∧
      (L'.view p ref).pending = (L.view p ref).pending ∧
      (L'.view p ref).state = .sourceDivergedNeedsOwner) ∧
    ∀ q ref, q ≠ p → L'.view q ref = L.view q ref := by
  simp only [markDiverged, ok_iff, epoch_iff] at h
  obtain ⟨_, -, current, hcurrent, _, L₁, hevent, _, -, hupsert⟩ := h
  have hshown : L₁.shown = L.shown := Txn.frame hevent
  have hview : ∀ q ref, L₁.view q ref = L.view q ref := fun q ref => view_of_shown hshown
  have htouches := row_shown.upsert (by
    intro q _
    unfold divergeOver
    split <;> rfl) hupsert
  have hproject : current.projectId = p := by
    rw [loadSnapshot_ok none hcurrent, snapshot_projectId]
  rw [show (divergedProjectRow current candidate channel evidenceDigest nowMs).projectId = p from
    hproject] at htouches
  refine ⟨fun ref => ?_, fun q ref hq => (htouches.others q ref hq).trans (hview q ref)⟩
  have hcurrent := loadSnapshot_ok ref hcurrent
  rw [htouches.own ref, hview p ref]
  generalize L.view p ref = v at hcurrent ⊢
  obtain ⟨row, accepted, pending, ticket, ref⟩ := v
  subst hcurrent
  cases row with
  | none => exact ⟨⟨⟨rfl, rfl, rfl, rfl, rfl⟩, rfl, rfl⟩, rfl, rfl⟩
  | some r =>
    rw [elim_some, divergeOver]
    by_cases hs : r.state = .sourceDivergedNeedsOwner
    · rw [if_pos hs]
      exact ⟨⟨⟨rfl, rfl, rfl, rfl, rfl⟩, rfl, rfl⟩, rfl, hs⟩
    · rw [if_neg hs]
      exact ⟨⟨⟨rfl, rfl, rfl, rfl, rfl⟩, rfl, rfl⟩, rfl, rfl⟩

section Controls

variable {blockedSha : Option GitCommitId} {reconcilePausedUntilMs : Option Int}
  (h : setControls epoch p blockedSha reconcilePausedUntilMs nowMs L = .ok (u, L'))
include h

theorem setControls_touches : Touches p (fun v => { v with
    row := some (v.row.elim (controlledProjectRow (.empty p) blockedSha reconcilePausedUntilMs nowMs)
      fun r => { r with blockedSha, reconcilePausedUntilMs, updatedAtMs := nowMs }) }) L L' := by
  simp only [setControls, ok_iff, epoch_iff] at h
  obtain ⟨_, -, _, -, current, hcurrent, _, -, hupsert⟩ := h
  have htouches := row_shown.upsert (by exact fun _ _ => rfl) hupsert
  have hsnapshot := loadSnapshot_ok none hcurrent
  rw [show (controlledProjectRow current blockedSha reconcilePausedUntilMs nowMs).projectId = p by
    rw [hsnapshot]; exact snapshot_projectId _ _] at htouches
  refine ⟨fun ref => ?_, htouches.others⟩
  have hcurrent := loadSnapshot_ok ref hcurrent
  rw [htouches.own ref]
  generalize L.view p ref = v at hcurrent ⊢
  obtain ⟨row, accepted, pending, ticket, ref⟩ := v
  subst hcurrent
  cases row <;> rfl

theorem setControls_ok : (∀ ref, (L.view p ref).Keeps (L'.view p ref) ∧
      (L'.view p ref).pending = (L.view p ref).pending ∧
      (L'.view p ref).state = (L.view p ref).state) ∧
    ∀ q ref, q ≠ p → L'.view q ref = L.view q ref := by
  refine ⟨fun ref => ?_, (setControls_touches h).others⟩
  rw [(setControls_touches h).own ref]
  obtain ⟨row, accepted, pending, ticket, ref⟩ := L.view p ref
  cases row <;> exact ⟨⟨⟨rfl, rfl, rfl, rfl, rfl⟩, rfl, rfl⟩, rfl, rfl⟩

end Controls

theorem resolveDivergenceKeepCanonical_ok {expectedHead : Option GitCommitId}
    (h : resolveDivergenceKeepCanonical epoch p expectedHead evidenceDigest nowMs L = .ok (u, L')) :
    (∀ ref, (L.view p ref).head = expectedHead ∧ (L.view p ref).Keeps (L'.view p ref) ∧
      (L'.view p ref).pending = none) ∧
    ∀ q ref, q ≠ p → L'.view q ref = L.view q ref := by
  simp only [resolveDivergenceKeepCanonical, ok_iff, epoch_iff] at h
  obtain ⟨_, -, current, hcurrent, _, hfits, _, L₁, hupdate, _, -, _, L₂, hdelete, _, -, _, _,
    hevents, -, rfl⟩ := h
  have h₁ := row_shown.update (fun r hr => by
    simp only [where_iff] at hr
    exact hr.1.1.1) (by exact fun _ => rfl) hupdate
  have h₂ := pending_shown.delete (fun r hr => of_decide_eq_true hr) hdelete
  have hshown := Txn.frame (f := shown) hevents
  have htouches := (h₁.trans h₂).trans (touches_of_shown hshown)
  refine ⟨fun ref => ?_, htouches.others⟩
  have hcurrent := loadSnapshot_ok ref hcurrent
  have hpending : ∀ r, (L.view p ref).pending = some r → r.projectId = p := fun r hr =>
    key_of_lookup hr
  rw [htouches.own ref]
  generalize L.view p ref = v at hcurrent hpending ⊢
  obtain ⟨row, accepted, pending, ticket, ref⟩ := v
  subst hcurrent
  refine ⟨?_, ?_, ?_⟩
  · rw [← hfits.2.1, snapshot_head]
  · cases row with
    | none => exact ⟨⟨rfl, rfl, rfl, rfl, rfl⟩, rfl, rfl⟩
    | some r =>
      simp only [Function.comp, map_some, assign]
      split <;> exact ⟨⟨rfl, rfl, rfl, rfl, rfl⟩, rfl, rfl⟩
  · cases pending with
    | none => rfl
    | some r =>
      change (some r).filter (fun r => !decide (r.projectId = p)) = none
      rw [filter_some, hpending r rfl, decide_eq_true rfl]
      rfl

/-! ### What the transactions leave alone -/

theorem enqueueDeployableOutcome_framed {τ : Type} {f : SourceLedger → τ}
    (hf : sourceOutboxT.Ignored f) (codec : SourceCodec) (outcome : SourceIngressOutcome) (t : Int) :
    (enqueueDeployableOutcome codec outcome t).Framed f := by
  unfold enqueueDeployableOutcome
  repeat' first | assumption | intro _ | split | constructor

theorem finishDelivery_keeps {τ : Type} {f : SourceLedger → τ} {codec : SourceCodec}
    {claim : DeliveryClaim} {outcome : SourceIngressOutcome} {enqueue : Bool} {t : Int}
    (hdeliveries : sourceDeliveriesT.Ignored f := by exact fun _ _ => rfl)
    (houtbox : sourceOutboxT.Ignored f := by exact fun _ _ => rfl) :
    Keeps f (finishDelivery codec epoch claim outcome enqueue t) := by
  have henqueue := enqueueDeployableOutcome_framed houtbox codec outcome t
  exact .of_shape

/-- Taking the lease changes nothing but the epoch. -/
theorem acquireBrokerLease_keeps (t : Int) : Keeps shown (acquireBrokerLease t) := by
  refine Framed.keeps (.bind (.ensure _ _) fun _ => .bind (.read _) fun _ => ?_)
  refine .bind (.ensure _ _) fun _ => .bind (.lift _) fun epoch => .of_keeps ?_
  intro L a L' h
  cases h
  rfl

end SourceLedger

end Rdashboard
