import Rdashboard.Source.Calm

/-! # What the broker guarantees

The live gate grants a ticket only for the head that is current, and only the attempt that holds a
ticket releases it.  Together with the calm programs and the start this makes the broker a guarded
service: `sourceService_guarded`. -/

namespace Rdashboard

open Relational Interleaving Txn SourceProg DurableSourceBroker SourceLedger List SourceView

variable {W : Type} {R : GitCommitId → GitCommitId → Prop} {live : Prop} {p : ProjectId}
  {v : SourceView}
variable {operation : OperationRecord}

/-! ### Tickets -/

namespace SourceView

/-- Nothing changes, or the operation gets a ticket for the current head, where the ref is. -/
def GrantStep (operation : OperationRecord) (v v' : SourceView) : Prop :=
  v' = v ∨ operation.operationKind = .deploy ∧ v.ref = v.head ∧
    ∃ t, TicketGrant operation v t ∧ v' = { v with ticket := some t }

/-- Nothing changes, or the ticket of the operation's attempt is released. -/
def ReleaseStep (operation : OperationRecord) (v v' : SourceView) : Prop :=
  v' = v ∨ ∃ t, v.ticket = some t ∧ t.attemptId = operation.attemptId ∧
    v' = { v with ticket := none }

theorem Inv.grant {t : MutationTicketRow} (hv : v.Inv R live p)
    (hgrant : TicketGrant operation v t) (href : v.ref = v.head) :
    ({ v with ticket := some t } : SourceView).Inv R live p := by
  refine ⟨⟨hv.sound.linked, hv.sound.sequence, hv.sound.head, hv.sound.attestation,
    hv.sound.digest, fun r hr => ?_, fun s hs => ?_⟩, hv.settled⟩
  · exact absurd (hgrant.idle.symm.trans hr) (by simp)
  · cases hs
    exact ⟨hgrant.idle, hgrant.sequence.2.symm, hgrant.digest.2, href⟩

theorem Inv.release (hv : v.Inv R live p) :
    ({ v with ticket := none } : SourceView).Inv R live p := by
  refine ⟨⟨hv.sound.linked, hv.sound.sequence, hv.sound.head, hv.sound.attestation,
    hv.sound.digest, fun r hr => ?_, nofun⟩, hv.settled⟩
  have hcontinues := hv.sound.pending r hr
  exact ⟨hcontinues.project, hcontinues.sequence, hcontinues.previous, hcontinues.related⟩

end SourceView

/-- The head is attested under the installed policy of the operation's project. -/
def Attested (codec : SourceCodec) (b : DurableSourceBroker) (operation : OperationRecord)
    (v : SourceView) : Prop :=
  ∃ policy signed payload, b.installed operation.projectId = some policy ∧
    v.attestation = some signed ∧ b.verifier.verifyLive codec signed = .ok payload ∧
    payload.projectId = operation.projectId ∧ v.head = some payload.head ∧
    payload.sequence = v.sequence ∧ payload.installedPolicy = policy.installedPolicy ∧
    payload.repositoryIdentity = policy.repositoryIdentity ∧
    v.attestationDigest = some (signed.digest codec)

/-- What a proof of the live gate stands for: the head is the operation's target, ready, not
blocked, where the ref is, attested under the installed policy, and held by a ticket. -/
structure LiveHead (codec : SourceCodec) (b : DurableSourceBroker) (operation : OperationRecord)
    (v : SourceView) (proof : SourceGateProof) : Prop where
  current : v.ref = v.head ∧ v.pending = none ∧
    operation.evidence.sourceSequence = some v.sequence
  ready : v.state = .ready
  target : ∃ c, operation.targetCommit = some c ∧ v.head = some c ∧ v.blockedSha ≠ some c
  attested : Attested codec b operation v
  proof : proof.projectId = operation.projectId ∧ proof.sequence = v.sequence ∧
    v.attestationDigest = some proof.attestationDigest
  ticket : ∃ t, v.ticket = some t ∧ t.attemptId = operation.attemptId

/-- The proofs that the live gate gives: that of the live head to a deployment, and to any other
operation the fixed one that no gate is required. -/
structure GateAnswer (codec : SourceCodec) (b : DurableSourceBroker) (operation : OperationRecord)
    (nowMs : Int) (v : SourceView) (proof : SourceGateProof) : Prop where
  deploy : operation.operationKind = .deploy → LiveHead codec b operation v proof
  other : operation.operationKind ≠ .deploy → proof =
    ⟨codec.sha256 .gateNotRequired, operation.projectId, 0, codec.sha256 .gateNotRequired, nowMs⟩

namespace DurableSourceBroker

variable {codec : SourceCodec} {outside : SourceOutside W} {b : DurableSourceBroker}

/-! ### Deliveries and controls -/

variable {work : SourceProg W SourceIngressOutcome} {channel : SourceChannel} {deliveryId : String}
  {policy : InstalledSourceProjectPolicy} {evidenceDigest : EvidenceDigest} {nowMs : Int}

theorem settleDelivery_calm {claim : DeliveryClaim} {autoDeploy : Bool} (hwork : CalmProg R live p work) :
    CalmProg R live p (b.settleDelivery codec claim autoDeploy nowMs work) := by
  refine .bind hwork.attempt fun answer => ?_
  cases answer with
  | ok outcome =>
    exact .of_quiet (quiet_transact finishDelivery_keeps)
  | error e =>
    exact .bind (.of_quiet quiet_transact) fun _ => .lift

theorem deliver_calm {q : ProjectId}
    {payloadDigest : EvidenceDigest} {autoDeploy : Bool} (hwork : CalmProg R live p work) :
    CalmProg R live p
      (b.deliver codec outside q channel deliveryId payloadDigest autoDeploy nowMs work) := by
  refine .bind (.of_quiet (quiet_consult _)) fun token => ?_
  refine .bind (.of_quiet quiet_transact) fun reservation => ?_
  cases reservation with
  | completed outcome => exact .pure
  | claimed claim => exact settleDelivery_calm hwork

theorem reconcilePriorityFetchSignal_quiet {q : ProjectId} :
    Quiet (b.reconcilePriorityFetchSignal outside q) := by
  refine .bind (quiet_consult _) fun _ => ?_
  refine .bind quiet_transact fun pending => ?_
  split_ifs
  · exact .pure
  · exact quiet_consult _

theorem resolveDivergenceKeepCanonical_calm {expectedHead : Option GitCommitId} : CalmProg R live p
      (b.resolveDivergenceKeepCanonical outside p expectedHead evidenceDigest nowMs) := by
  refine .bind (.of_quiet lockCoordination_quiet) fun _ v hv => ?_
  refine (observes_acceptedHead hv (.refl v)).bind (fun _ => trivial) ?_
  refine sat_ensure hv trivial fun href => ?_
  refine sat_transact hv (.refl v) (fun _ => trivial) fun L _ L' h hview => ?_
  obtain ⟨hown, hothers⟩ := resolveDivergenceKeepCanonical_ok h
  obtain ⟨hhead, hkeeps, hpending⟩ := hown v.ref
  rw [hview] at hhead hkeeps
  refine ⟨hothers, .of_keeps hkeeps, ⟨hv.sound.keeps hkeeps (.inr hpending), fun _ _ _ => ?_⟩,
    trivial⟩
  obtain ⟨hhead', -, -, -, href'⟩ := hkeeps.frozen
  rw [href', hhead', href, hhead]

theorem setControls_calm {blockedSha : Option GitCommitId} {reconcilePausedUntilMs : Option Int} :
    CalmProg R live p (b.setControls outside p blockedSha reconcilePausedUntilMs nowMs) := by
  refine .bind (.of_quiet lockCoordination_quiet) fun _ v hv => ?_
  refine sat_transact hv (.refl v) (fun _ => trivial) fun L _ L' h hview => ?_
  obtain ⟨hown, hothers⟩ := setControls_ok h
  obtain ⟨hkeeps, hpending, hstate⟩ := hown v.ref
  rw [hview] at hkeeps hpending hstate
  refine ⟨hothers, .of_keeps hkeeps, ⟨hv.sound.keeps hkeeps (.inl hpending),
    fun hlive hready hnone => ?_⟩, trivial⟩
  obtain ⟨hhead', -, -, -, href'⟩ := hkeeps.frozen
  rw [href', hhead', hv.settled hlive (hstate ▸ hready) (hpending ▸ hnone)]

/-! ### Ingress -/

section Ingress

variable (hreports : ∀ c d w rel, (outside.relationship p c d w).1 = .ok rel →
  rel = .same ∨ rel = .fastForward → R c d)
variable {fetchedHead : GitCommitId}

include hreports

theorem processWakeup_calm {wakeup : GithubWakeupRow} : CalmProg R live p
      (b.processWakeup codec outside p policy fetchedHead nowMs wakeup) := by
  intro v hv
  refine sat_ensure hv trivial fun hwakeup => ?_
  suffices h : CalmProg R live p _ from h v hv
  refine .bind (.of_quiet (quiet_consult _)) fun token => ?_
  refine .bind (.of_quiet quiet_transact) fun reservation => ?_
  have hcomplete : ∀ outcome, CalmProg R live p (do
      transact (completeGithubWakeup b.epoch wakeup outcome nowMs)
      pure true : SourceProg W Bool) := fun outcome =>
    .bind (.of_quiet quiet_transact) fun _ => .pure
  cases reservation with
  | completed outcome => exact hcomplete outcome
  | claimed claim =>
    refine .bind (CalmProg.attempt (processGithubCandidate_calm hwakeup.1 hreports))
      fun answer => ?_
    cases answer with
    | ok outcome =>
      exact .bind (.of_quiet (quiet_transact finishDelivery_keeps)) hcomplete
    | error e =>
      refine .bind (.of_quiet quiet_transact) fun _ => ?_
      split_ifs
      · exact .pure
      · exact .lift

theorem processWakeups_calm {wakeups : List GithubWakeupRow} {completed : Nat} : CalmProg R live p
      (b.processWakeups codec outside p policy fetchedHead nowMs completed wakeups) := by
  induction wakeups generalizing completed with
  | nil => exact .bind (.of_quiet reconcilePriorityFetchSignal_quiet) fun _ => .pure
  | cons wakeup wakeups ih =>
    refine .bind (processWakeup_calm hreports) fun done => ?_
    cases done with
    | true => exact ih
    | false => exact .pure

theorem processPendingGithubPushes_calm {limit : Nat} :
    CalmProg R live p (b.processPendingGithubPushes codec outside p limit nowMs) := by
  refine .bind .ensure fun _ => .bind (.of_quiet lockCoordination_quiet) fun _ => ?_
  refine .bind .lift fun policy => .bind (.of_quiet quiet_transact) fun wakeups => ?_
  split_ifs
  · exact .bind (.of_quiet reconcilePriorityFetchSignal_quiet) fun _ => .pure
  · exact .bind (.of_quiet (quiet_consult _)) fun _ => processWakeups_calm hreports

theorem processGithubPush_calm {signatureHeader : String}
    {webhookSecret rawBody : List UInt8} : CalmProg R live p
      (b.processGithubPush codec outside p deliveryId signatureHeader webhookSecret rawBody
        nowMs) := by
  refine .bind (.of_quiet lockCoordination_quiet) fun _ => .bind .lift fun _ => ?_
  refine .bind .ensure fun _ => .bind .lift fun _ => .bind .lift fun policy => ?_
  refine .bind .lift fun announcedHead => deliver_calm ?_
  cases announcedHead with
  | none => exact .pure
  | some announcedHead =>
    exact .bind (.of_quiet (quiet_consult _)) fun _ => processGithubCandidate_calm (by rfl) hreports

theorem reconcileRemoteMainWith_calm {refreshExpiredSameHead : Bool} :
    CalmProg R live p (b.reconcileRemoteMainWith codec outside p nowMs refreshExpiredSameHead) := by
  refine .bind (.of_quiet lockCoordination_quiet) fun _ => .bind .lift fun policy => ?_
  refine .bind .ensure fun _ => .bind (.of_quiet (quiet_consult _)) fun fetchedHead => ?_
  refine .bind (.of_quiet quiet_transact) fun current => ?_
  exact deliver_calm (processCandidate_calm rfl hreports)

theorem processDirectPush_calm {gitRef : String} {oldHead : Option GitCommitId}
    {newHead : GitCommitId} : CalmProg R live p
      (b.processDirectPush codec outside p deliveryId gitRef oldHead newHead nowMs) := by
  refine .bind (.of_quiet lockCoordination_quiet) fun _ => .bind .lift fun policy => ?_
  refine .bind .lift fun _ => .bind .ensure fun _ => ?_
  refine .bind (.of_quiet (quiet_consult _)) fun contained => .bind .ensure fun _ => ?_
  exact deliver_calm (processCandidate_calm rfl hreports)

end Ingress

/-! ### The live gate -/

/-- What `verify_live_binding` has checked. -/
structure Bound (codec : SourceCodec) (b : DurableSourceBroker) (operation : OperationRecord)
    (v : SourceView) (binding : LiveSourceBinding) : Prop where
  ref : v.ref = v.head
  idle : v.pending = none
  sequence : binding.sequence = v.sequence
  digest : v.attestationDigest = some binding.attestationDigest
  attested : Attested codec b operation v

theorem sat_verifyLiveBinding {inv : SourceView → Prop} {guar : SourceView → SourceView → Prop}
    {nowMs : Int} (hv : inv v) (hg : guar v v) :
    Sat (projectContract W operation.projectId inv guar)
      (fun r v' => v' = v ∧ ∀ binding, r = .ok binding → Bound codec b operation v binding)
      (b.verifyLiveBinding codec outside operation nowMs) v := by
  have herr : ∀ e, v = v ∧ ∀ binding, (.error e : Except SourceGateError LiveSourceBinding) =
      .ok binding → Bound codec b operation v binding :=
    fun e => ⟨rfl, nofun⟩
  refine sat_lift hv herr fun target htarget => sat_lift hv herr fun digest hdigest => ?_
  refine sat_lift hv herr fun installed hinstalled => sat_lift hv herr fun policy hpolicy => ?_
  refine (observes_snapshot hv hg).mapError.bind herr ?_
  refine (observes_query (f := fun L => .ok (L.refUpdate operation.projectId)) (a := v.pending) hv hg
    fun L pending hview h => ?_).mapError.bind herr ?_
  · rw [← Except.ok.inj h, ← hview]
    rfl
  refine sat_ensure hv (herr _) fun hidle => sat_ensure hv (herr _) fun _ => ?_
  refine (observes_acceptedHead hv hg).mapError.bind herr ?_
  refine sat_ensure hv (herr _) fun hstill => sat_ensure hv (herr _) fun hcurrent => ?_
  refine sat_ensure hv (herr _) fun hblocked => ?_
  refine ⟨hv, rfl, fun binding hbinding => ?_⟩
  rw [snapshot_head] at hstill hcurrent
  simp only [bindAttestation, Check.ok_iff, Check.mapError_ok_iff] at hbinding
  obtain ⟨signed, hsigned, payload, hpayload, _, hfits, rfl⟩ := hbinding
  rw [snapshot_sequence, snapshot_attestationDigest] at hfits
  rw [snapshot_attestation] at hsigned
  obtain ⟨hsequence, hproject, hhead, -, hinstalledPolicy, hidentity, -, hdigest', rfl⟩ := hfits
  exact ⟨hstill.1, hidle, hsequence.symm, hdigest', policy, signed, payload,
    Check.require_ok_iff.mp hpolicy, hsigned, hpayload, hproject, hhead ▸ hcurrent.1,
    hsequence.symm, hinstalledPolicy, hidentity, hdigest'⟩

theorem sat_checkLive {nowMs : Int} (hv : v.Inv R live operation.projectId) :
    Sat (projectContract W operation.projectId (SourceView.Inv R live operation.projectId)
        (SourceView.GrantStep operation))
      (fun r v' => ∀ proof, r = .ok proof → GateAnswer codec b operation nowMs v' proof)
      (b.checkLive codec outside operation nowMs) v := by
  have hrefl : ∀ v, SourceView.GrantStep operation v v := fun v => .inl rfl
  have herr : ∀ e v' proof, (.error e : Except SourceGateError SourceGateProof) = .ok proof →
      GateAnswer codec b operation nowMs v' proof := fun e v' proof h => by cases h
  refine Quiet.sat_bind (.mapError lockCoordination_quiet) hv (hrefl v) (fun e => herr e v)
    fun _ => ?_
  split_ifs with hkind
  · refine sat_pure hv fun proof hproof => ⟨fun hdeploy => absurd hdeploy hkind, fun _ => ?_⟩
    exact (Except.ok.inj hproof).symm
  · rw [not_not] at hkind
    refine sat_bind ((sat_verifyLiveBinding hv (hrefl v)).mono fun r v' _ hr => ?_)
    obtain ⟨rfl, hr⟩ := hr
    cases r with
    | error e => exact herr e v'
    | ok binding =>
      have hbound := hr binding rfl
      refine sat_lift hv (fun e => herr e v') fun phase _ => ?_
      refine sat_bind (sat_mapError (sat_transact hv (hrefl v') (fun e => herr _ v')
        fun L _ L' h hview => ?_))
      obtain ⟨t, hgrant, htouches⟩ := acquireMutationTicket_ok h
      have hgranted := hgrant v'.ref
      have hown := htouches.own v'.ref
      rw [hview] at hgranted hown
      rw [hown]
      have hv' := hv.grant hgranted hbound.ref
      refine ⟨htouches.others, .inr ⟨hkind, hbound.ref, t, hgranted, rfl⟩, hv', ?_⟩
      refine sat_pure hv' fun proof hproof => ⟨fun _ => ?_, absurd hkind⟩
      cases hproof
      exact ⟨⟨hbound.ref, hbound.idle, hgranted.sequence.1⟩, hgranted.ready, hgranted.target,
        hbound.attested, ⟨rfl, hbound.sequence, hbound.digest⟩, t, rfl, hgranted.attempt⟩

theorem sat_completeLive (hv : v.Inv R live operation.projectId) :
    Sat (projectContract W operation.projectId (SourceView.Inv R live operation.projectId)
        (SourceView.ReleaseStep operation)) (fun _ _ => True) (b.completeLive outside operation) v := by
  have hrefl : ∀ v, SourceView.ReleaseStep operation v v := fun v => .inl rfl
  refine Quiet.sat_bind (.mapError lockCoordination_quiet) hv (hrefl v) (fun _ => trivial)
    fun _ => ?_
  refine sat_mapError (sat_transact hv (hrefl v) (fun _ => trivial) fun L _ L' h hview => ?_)
  rcases releaseMutationTicket_ok h with rfl | ⟨t, ht, hattempt, htouches⟩
  · rw [hview]
    exact ⟨fun _ _ _ => rfl, hrefl v, hv, trivial⟩
  · have hown := htouches.own v.ref
    rw [hview] at hown
    rw [hown]
    have hticket : v.ticket = some t := hview ▸ ht
    exact ⟨htouches.others, .inr ⟨t, hticket, hattempt, rfl⟩, hv.release, trivial⟩

end DurableSourceBroker

/-! ### The start -/

section Start

variable (W) (R : ProjectId → GitCommitId → GitCommitId → Prop) (settled : ProjectId → Prop)

/-- The projects that are settled: those in `settled` from the beginning on, and those that the
last start installed since it succeeded. -/
def Recovered (last : Option DurableSourceBroker) (p : ProjectId) : Prop :=
  settled p ∨ ∃ b, last = some b ∧ (b.installed p).isSome = true

/-- The invariant of a slot. -/
def sourceInv (last : Option DurableSourceBroker) : SourceSlot → SourceView → Prop
  | .inl p, v => v.Inv (R p) (Recovered settled last p) p
  | .inr _, _ => True

def startGuarantee : SourceSlot → SourceView → SourceView → Prop
  | .inl _, v, v' => v.Calm v'
  | .inr _, _, _ => True

def startContract : Contract (SourceState W) (SourceSlot → SourceView) :=
  bootContract sourceView (sourceInv R settled) startGuarantee

variable {W R settled} {ε α β : Type} {vs : SourceSlot → SourceView}

theorem startGuarantee_refl (k : SourceSlot) (v : SourceView) : startGuarantee k v v := by
  cases k with
  | inl p => exact .refl v
  | inr n => exact trivial

theorem Quiet.start_bind {x : Prog (SourceState W) ε α} (hx : Quiet x)
    {f : α → Prog (SourceState W) ε β} {Q : Except ε β → (SourceSlot → SourceView) → Prop}
    (hvs : ∀ k, sourceInv R settled none k (vs k)) (herr : ∀ e, Q (.error e) vs)
    (hok : ∀ a, Sat (startContract W R settled) Q (f a) vs) :
    Sat (startContract W R settled) Q (x >>= f) vs := by
  refine Interleaving.sat_bind (Prog.Steps.sat (fun _ _ h => ⟨h, trivial⟩) hx hvs
    (fun k => startGuarantee_refl k _) fun r => ?_)
  cases r with
  | ok a => exact hok a
  | error e => exact herr e

/-- A loop that settles one project after another.  `pre` is what a round needs to find. -/
theorem sat_settleEach (key : α → ProjectId) (pre : α → SourceView → Prop)
    {body : α → SourceProg W Unit} {xs : List α}
    (hbody : ∀ a ∈ xs, ∀ live v, v.Inv (R (key a)) live (key a) → pre a v →
      Sat (calmContract W (R (key a)) live (key a)) (fun r v' => r = .ok () → v'.Settled)
        (body a) v)
    (hpairs : xs.Pairwise fun a a' => key a = key a' → ∀ v, pre a' v)
    (hvs : ∀ k, sourceInv R settled none k (vs k)) (hpre : ∀ a ∈ xs, pre a (vs (.inl (key a)))) :
    Sat (startContract W R settled) (fun r vs' => r = .ok () →
      (∀ a ∈ xs, (vs' (.inl (key a))).Settled) ∧
      ∀ p, (∀ a ∈ xs, key a ≠ p) → vs' (.inl p) = vs (.inl p)) (Prog.each body xs) vs := by
  induction xs generalizing vs with
  | nil => exact ⟨hvs, fun _ => ⟨nofun, fun _ _ => rfl⟩⟩
  | cons a xs ih =>
    obtain ⟨hfirst, hrest⟩ := pairwise_cons.mp hpairs
    have hround := Sat.slot (fun _ _ _ h => h) startGuarantee_refl hvs
      (hbody a mem_cons_self _ _ (hvs (.inl (key a))) (hpre a mem_cons_self))
    refine sat_bind (hround.mono fun r vs₁ hvs₁ hr => ?_)
    obtain ⟨hsettled, hothers⟩ := hr
    cases r with
    | error e => exact nofun
    | ok _ =>
      have hpre₁ : ∀ a' ∈ xs, pre a' (vs₁ (.inl (key a'))) := by
        intro a' ha'
        by_cases hkey : key a = key a'
        · exact hfirst a' ha' hkey _
        · rw [hothers _ fun h => hkey (Sum.inl.inj h).symm]
          exact hpre a' (mem_cons_of_mem _ ha')
      refine (ih (fun a' ha' => hbody a' (mem_cons_of_mem _ ha')) hrest hvs₁ hpre₁).mono
        fun r vs₂ _ hr hok => ?_
      obtain ⟨hdone, hkept⟩ := hr hok
      refine ⟨fun a' ha' => ?_, fun p hp => ?_⟩
      · rcases mem_cons.mp ha' with rfl | ha'
        · -- a later round may have settled the same project again
          by_cases hagain : ∃ c ∈ xs, key c = key a'
          · obtain ⟨c, hc, hkey⟩ := hagain
            exact hkey ▸ hdone c hc
          · rw [hkept _ fun c hc hkey => hagain ⟨c, hc, hkey⟩]
            exact hsettled rfl
        · exact hdone a' ha'
      · rw [hkept p fun c hc => hp c (mem_cons_of_mem _ hc)]
        exact hothers _ fun h => hp a mem_cons_self (Sum.inl.inj h).symm

variable {codec : SourceCodec} {outside : SourceOutside W} {b : DurableSourceBroker}

/-- The pending updates, one for each project that has one. -/
theorem sat_pendingRefUpdates (hvs : ∀ k, sourceInv R settled none k (vs k)) :
    Sat (startContract W R settled) (fun r vs' => vs' = vs ∧ ∀ pending, r = .ok pending →
      (pending.Pairwise fun r r' => r.projectId ≠ r'.projectId) ∧
      (∀ r ∈ pending, (vs (.inl r.projectId)).pending = some r))
      (transact (read pendingRefUpdates)) vs := by
  refine sat_atomic hvs fun s hs => ?_
  subst hs
  refine ⟨trivial, fun k => startGuarantee_refl k _, hvs, rfl, fun pending hpending => ?_⟩
  obtain rfl := Except.ok.inj hpending
  have hperm := perm_insertionSort (fun r r' : RefUpdateRow => r.projectId ≤ r'.projectId)
    s.ledger.refUpdates.rows
  refine ⟨?_, fun r hr => ?_⟩
  · refine (hperm.symm.pairwise_iff Ne.symm).mp ?_
    exact s.ledger.refUpdates.separated.imp fun h => refUpdates_by_id _ _ h
  · exact Table.lookup_of_mem refUpdates_by_id (hperm.mem_iff.mp hr)

/-- Every installed project is settled when the recovery succeeds. -/
theorem sat_recoverSourceState {recoveredAtMs : Int}
    (hvs : ∀ k, sourceInv R settled none k (vs k)) :
    Sat (startContract W R settled) (fun r vs' => r = .ok () → ∀ policy ∈ b.policies,
      (vs' (.inl policy.projectId)).Settled) (b.recoverSourceState codec outside recoveredAtMs)
      vs := by
  refine requireCurrentLease_quiet.start_bind hvs nofun fun _ => ?_
  refine sat_bind ((sat_pendingRefUpdates hvs).mono fun r vs₁ hvs₁ hr => ?_)
  obtain ⟨rfl, hr⟩ := hr
  cases r with
  | error e => exact nofun
  | ok pending =>
    obtain ⟨hdistinct, hrows⟩ := hr pending rfl
    refine sat_bind ((sat_settleEach (·.projectId) (fun r v => v.pending = some r)
      (fun r _ live v hv hpending => sat_recoverRefUpdate rfl hv hpending)
      (hdistinct.imp fun hne h => absurd h hne) hvs₁ hrows).mono fun r vs₂ hvs₂ hr => ?_)
    cases r with
    | error e => exact nofun
    | ok _ =>
      obtain ⟨hpending, -⟩ := hr rfl
      refine sat_bind ((sat_settleEach (·.projectId) (fun _ _ => True)
        (fun q _ live v hv _ => sat_recoverProject rfl hv)
        (pairwise_of_forall fun _ _ _ _ => trivial) hvs₂
        fun _ _ => trivial).mono fun r vs₃ hvs₃ hr => ?_)
      cases r with
      | error e => exact nofun
      | ok _ =>
        obtain ⟨hothers, hkept⟩ := hr rfl
        refine Quiet.start_bind quiet_transact hvs₃ nofun
          fun _ => sat_pure hvs₃ fun _ policy hpolicy => ?_
        by_cases hhad : ∃ r ∈ pending, r.projectId = policy.projectId
        · -- the project had a pending update: only the first loop worked on it
          obtain ⟨r, hr, hproject⟩ := hhad
          rw [hkept policy.projectId fun q hq hsame => ?_]
          · exact hproject ▸ hpending r hr
          · have hnone := (mem_filter.mp hq).2
            rw [Bool.not_eq_true', any_eq_false] at hnone
            exact hnone r hr (decide_eq_true (hproject.trans hsame.symm))
        · refine hothers policy (mem_filter.mpr ⟨hpolicy, ?_⟩)
          rw [Bool.not_eq_true', any_eq_false]
          exact fun r hr h => hhad ⟨r, hr, of_decide_eq_true h⟩

theorem checkPolicies_quiet {seen : List ProjectId} {policies : List InstalledSourceProjectPolicy} :
    Quiet (BrokerStart.checkPolicies outside seen policies) := by
  induction policies generalizing seen with
  | nil => exact .pure
  | cons policy policies ih =>
    refine .bind (.bind .lift fun _ => .bind (quiet_consult _) fun _ => .ensure) fun _ => ?_
    exact .bind .ensure fun _ => ih

theorem signalQueuedWebhooks_quiet {policy : InstalledSourceProjectPolicy} :
    Quiet (b.signalQueuedWebhooks outside policy) := by
  refine .bind quiet_transact fun pending => ?_
  split_ifs
  · exact .pure
  · exact quiet_consult _

theorem sourceInv_installed (hvs : ∀ k, sourceInv R settled none k (vs k))
    (hsettled : ∀ policy ∈ b.policies, (vs (.inl policy.projectId)).Settled) (k : SourceSlot) :
    sourceInv R settled (some b) k (vs k) := by
  cases k with
  | inr n => exact trivial
  | inl p =>
    obtain ⟨hsound, hbefore⟩ := hvs (.inl p)
    refine ⟨hsound, ?_⟩
    rintro (hp | ⟨_, ⟨⟩, hinstalled⟩)
    · exact hbefore (.inl hp)
    · obtain ⟨policy, hpolicy⟩ := Option.isSome_iff_exists.mp hinstalled
      have hproject : policy.projectId = p := by
        have hfound := find?_some hpolicy
        exact of_decide_eq_true hfound
      exact hproject ▸ hsettled policy (mem_of_find?_eq_some hpolicy)

theorem sat_start {start : BrokerStart} (hvs : ∀ k, sourceInv R settled none k (vs k)) :
    Sat (startContract W R settled) (fun r vs' => ∀ b, r = .ok b →
      ∀ k, sourceInv R settled (some b) k (vs' k)) (start.run codec outside) vs := by
  have herr : ∀ e (vs' : SourceSlot → SourceView) b,
      (.error e : Except SourceError DurableSourceBroker) = .ok b → ∀ k, sourceInv R settled (some b) k (vs' k) :=
    fun _ _ _ => (nomatch ·)
  refine sat_lift hvs (fun e => herr e vs) fun _ _ => sat_ensure hvs (herr _ vs) fun _ => ?_
  refine sat_ensure hvs (herr _ vs) fun _ => ?_
  refine checkPolicies_quiet.start_bind hvs (fun e => herr e vs) fun _ => ?_
  refine Quiet.start_bind (quiet_consult _) hvs (fun e => herr e vs) fun _ => ?_
  refine Quiet.start_bind (quiet_transact (acquireBrokerLease_keeps _)) hvs
    (fun e => herr e vs) fun epoch => ?_
  refine sat_bind ((sat_recoverSourceState hvs).mono fun r vs₁ hvs₁ hr => ?_)
  cases r with
  | error e => exact herr e vs₁
  | ok _ =>
    refine Quiet.start_bind quiet_transact hvs₁ (fun e => herr e vs₁) fun _ => ?_
    refine Quiet.start_bind (.each fun _ _ => signalQueuedWebhooks_quiet) hvs₁
      (fun e => herr e vs₁) fun _ => ?_
    refine Quiet.start_bind quiet_transact hvs₁
      (fun e => herr e vs₁) fun _ => sat_pure hvs₁ fun b hb => ?_
    obtain rfl := Except.ok.inj hb
    exact sourceInv_installed hvs₁ (hr rfl)

end Start

/-! ### The service -/

/-- What a step of a call does to its view. -/
def callGuarantee (_ : DurableSourceBroker) : SourceCall → SourceView → SourceView → Prop
  | .checkLive operation _ => SourceView.GrantStep operation
  | .completeLive operation => SourceView.ReleaseStep operation
  | .abortLive operation => SourceView.ReleaseStep operation
  | _ => SourceView.Calm

/-- What holds when a call answers. -/
def callResult (codec : SourceCodec) (b : DurableSourceBroker) :
    SourceCall → Except SourceFailure SourceReply → SourceView → Prop
  | .checkLive operation nowMs, r, v =>
    ∀ proof, r = .ok (.proof proof) → GateAnswer codec b operation nowMs v proof
  | _, _, _ => True

/-- `relationship` reports a candidate to be the same as a commit, or to be ahead of it, only where
`R` holds. -/
def Reports (outside : SourceOutside W) (R : ProjectId → GitCommitId → GitCommitId → Prop) : Prop :=
  ∀ p c d w relation, (outside.relationship p c d w).1 = .ok relation →
    relation = .same ∨ relation = .fastForward → R p c d

section Service

variable {codec : SourceCodec} {outside : SourceOutside W} {b : DurableSourceBroker}
  {R : ProjectId → GitCommitId → GitCommitId → Prop} {settled : ProjectId → Prop}
variable {refs : ProjectId → Option GitCommitId} {c : SourceConfig W}

theorem calm_ofSource {α : Type} {live : Prop} {reply : α → SourceReply} {x : SourceProg W α}
    {R : GitCommitId → GitCommitId → Prop} (hx : CalmProg R live p x) :
    CalmProg R live p (SourceCall.ofSource reply x) := .bind hx.mapError fun _ => .pure

theorem sat_ofGate {α : Type} {C : Contract (SourceState W) SourceView}
    {Q : Except SourceGateError α → SourceView → Prop} {reply : α → SourceReply} {x : GateProg W α}
    (hx : Sat C Q x v) : Sat C (fun _ _ => True) (SourceCall.ofGate reply x) v := by
  refine sat_bind (sat_mapError (hx.mono fun r v' hv' _ => ?_))
  cases r with
  | ok _ => exact sat_pure hv' trivial
  | error e => exact trivial

theorem quiet_ofSource {α : Type} {reply : α → SourceReply} {x : SourceProg W α} (hx : Quiet x) :
    Quiet (SourceCall.ofSource reply x) := .bind (.mapError hx) fun _ => .pure

theorem enqueueGithubPush_quiet {deliveryId signatureHeader : String}
    {webhookSecret rawBody : List UInt8} {receivedAtMs : Int} : Quiet
      (b.enqueueGithubPush codec outside p deliveryId signatureHeader webhookSecret rawBody
        receivedAtMs) := by
  refine .bind requireCurrentLease_quiet fun _ => .bind .lift fun _ => ?_
  refine .bind .ensure fun _ => .bind .ensure fun _ => .bind .lift fun _ => .bind .lift fun _ => ?_
  refine .bind .lift fun announcedHead => ?_
  cases announcedHead with
  | none => exact .pure
  | some announcedHead =>
    refine .bind quiet_transact fun admission => ?_
    cases admission with
    | queued n => exact .bind (quiet_consult _) fun _ => .pure
    | duplicate n settled =>
      cases settled with
      | false => exact .bind (quiet_consult _) fun _ => .pure
      | true => exact .pure
    | ignoredRef => exact .pure

/-- Every interleaving of the calls of a broker, its starts and its crashes keeps the invariant. -/
theorem sourceService_guarded (hreports : Reports outside R) :
    Guarded (sourceService codec outside) sourceView (sourceInv R settled) callGuarantee
      startGuarantee (callResult codec) := by
  refine ⟨fun last k v hv => ?_, fun start vs hvs => ?_, fun b i v hv => ?_⟩
  · cases k with
    | inr n => exact trivial
    | inl p =>
      refine ⟨hv.sound, ?_⟩
      rintro (hp | ⟨_, ⟨⟩, -⟩)
      exact hv.settled (.inl hp)
  · refine sat_mapError ((sat_start hvs).mono fun r vs' _ hr b hb => ?_)
    exact hr b (Check.mapError_ok_iff.mp hb)
  · have hcalm : ∀ {p : ProjectId} {x : Prog (SourceState W) SourceFailure SourceReply},
        (∀ live, CalmProg (R p) live p x) → sourceInv R settled (some b) (.inl p) v →
        Sat (slotContract sourceView (.inl p) (sourceInv R settled (some b) (.inl p))
          SourceView.Calm) (fun _ _ => True) x v := fun hx hv => hx _ v hv
    have hquiet : ∀ {n : Nat} {x : Prog (SourceState W) SourceFailure SourceReply}, Quiet x →
        Sat (slotContract sourceView (.inr n) (sourceInv R settled (some b) (.inr n))
          SourceView.Calm) (fun _ _ => True) x v := by
      intro n x hx
      refine Prog.Steps.sat (fun s s' h => ?_) hx trivial (.refl v) fun _ => trivial
      exact ⟨congrFun h (.inr n), fun j _ => congrFun h j⟩
    have hrelease : ∀ operation, sourceInv R settled (some b) (.inl operation.projectId) v →
        Sat (slotContract sourceView (.inl operation.projectId)
          (sourceInv R settled (some b) (.inl operation.projectId))
          (SourceView.ReleaseStep operation)) (fun _ _ => True)
          (SourceCall.ofGate (fun _ => .done) (b.completeLive outside operation)) v :=
      fun _ hv => sat_ofGate (sat_completeLive hv)
    cases i with
    | enqueueGithubPush n p deliveryId header secret body t =>
      exact hquiet (quiet_ofSource enqueueGithubPush_quiet)
    | acknowledgeOutbox n sequence digest t =>
      exact hquiet (quiet_ofSource (.bind requireCurrentLease_quiet fun _ => quiet_transact))
    | processPendingGithubPushes p limit t =>
      exact hcalm (fun _ => calm_ofSource (processPendingGithubPushes_calm (hreports p))) hv
    | processGithubPush p deliveryId header secret body t =>
      exact hcalm (fun _ => calm_ofSource (processGithubPush_calm (hreports p))) hv
    | reconcileRemoteMain p t =>
      exact hcalm (fun _ => calm_ofSource (reconcileRemoteMainWith_calm (hreports p))) hv
    | refreshShadowHead p t =>
      exact hcalm (fun _ => calm_ofSource (reconcileRemoteMainWith_calm (hreports p))) hv
    | processDirectPush p deliveryId gitRef old new t =>
      exact hcalm (fun _ => calm_ofSource (processDirectPush_calm (hreports p))) hv
    | resolveDivergenceKeepCanonical p head evidence t =>
      exact hcalm (fun _ => calm_ofSource resolveDivergenceKeepCanonical_calm) hv
    | setControls p blocked paused t =>
      exact hcalm (fun _ => calm_ofSource setControls_calm) hv
    | checkLive operation t =>
      refine sat_bind (sat_mapError ((sat_checkLive hv).mono fun r v' hv' hr => ?_))
      cases r with
      | error e => exact fun proof h => by cases h
      | ok proof =>
        refine sat_pure hv' fun proof' h => ?_
        cases h
        exact hr proof rfl
    | completeLive operation => exact hrelease operation hv
    | abortLive operation => exact hrelease operation hv

/-- What a configuration shows of a project. -/
def projectView (c : SourceConfig W) (p : ProjectId) : SourceView := sourceView (.inl p) c.state

/-- A broker that never started, over an empty ledger. -/
def newBroker (refs : ProjectId → Option GitCommitId) (w : W) : SourceConfig W :=
  Config.initial ⟨.empty, refs, w⟩

theorem newBroker_reachable_sound {w : W} (hreports : Reports outside R)
    (h : Reachable (sourceService codec outside) (newBroker refs w) c) :
    c.Sound (sourceService codec outside) sourceView (sourceInv R fun _ => False) callGuarantee
      startGuarantee (callResult codec) := by
  refine (sourceService_guarded hreports).sound (sound_initial fun k => ?_) h
  cases k with
  | inr n => exact trivial
  | inl p =>
    refine ⟨⟨.nil, rfl, rfl, rfl, rfl, fun _ => (nomatch ·), fun _ => (nomatch ·)⟩, ?_⟩
    rintro (hp | ⟨_, ⟨⟩, -⟩)
    exact absurd hp not_false

theorem newBroker_reachable_inv {w : W} (hreports : Reports outside R)
    (h : Reachable (sourceService codec outside) (newBroker refs w) c) (p : ProjectId) :
    (projectView c p).Sound (R p) p :=
  ((newBroker_reachable_sound hreports h).inv (.inl p)).sound

end Service

end Rdashboard
