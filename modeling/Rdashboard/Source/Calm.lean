import Rdashboard.Source.Contracts

/-! # The ingress and the start are calm

Everything that accepts heads, records divergences or sets controls keeps the invariant of its
project and leaves its ticket alone.  An update of the accepted ref begins only where there is no
ticket, and there is none while an update is pending. -/

namespace Rdashboard

open Relational Interleaving Txn SourceProg SourceLedger SourceView Prog

variable {W α β ε ε' : Type} {R : GitCommitId → GitCommitId → Prop} {live : Prop} {p : ProjectId}
  {v : SourceView}
variable {channel : SourceChannel} {evidenceDigest : EvidenceDigest} {nowMs : Int}

/-- The contract of the ingress of a project. -/
def calmContract (W : Type) (R : GitCommitId → GitCommitId → Prop) (live : Prop) (p : ProjectId) :
    Contract (SourceState W) SourceView :=
  projectContract W p (SourceView.Inv R live p) SourceView.Calm

/-- The program keeps the contract of the ingress from every sound view. -/
def CalmProg (R : GitCommitId → GitCommitId → Prop) (live : Prop) (p : ProjectId)
    (x : Prog (SourceState W) ε α) : Prop :=
  ∀ v, v.Inv R live p → Sat (calmContract W R live p) (fun _ _ => True) x v

namespace CalmProg

variable {x : Prog (SourceState W) ε α} {f : α → Prog (SourceState W) ε β}

theorem of_quiet (hx : Quiet x) : CalmProg R live p x :=
  fun v hv => hx.sat hv (.refl v) fun _ => trivial

theorem bind (hx : CalmProg R live p x) (hf : ∀ a, CalmProg R live p (f a)) :
    CalmProg R live p (x >>= f) := by
  refine fun v hv => sat_bind ((hx v hv).mono fun r v' hv' _ => ?_)
  cases r with
  | ok a => exact hf a v' hv'
  | error e => exact trivial

theorem attempt (hx : CalmProg R live p x) :
    CalmProg R live p (attempt x : Prog (SourceState W) ε' (Except ε α)) :=
  fun v hv => sat_attempt (hx v hv)

theorem mapError {g : ε → ε'} (hx : CalmProg R live p x) : CalmProg R live p (mapError g x) :=
  fun v hv => sat_mapError (hx v hv)

theorem lift {y : Except ε α} : CalmProg R live p (lift y : Prog (SourceState W) ε α) :=
  of_quiet .lift

theorem pure {a : α} : CalmProg R live p (Pure.pure a : Prog (SourceState W) ε α) :=
  of_quiet .pure

theorem ensure {c : Prop} [Decidable c] {e : ε} :
    CalmProg R live p (ensure c e : Prog (SourceState W) ε Unit) := of_quiet .ensure

end CalmProg

/-! ### Recording a divergence -/

theorem sat_markDiverged {epoch : Nat} {candidate : GitCommitId} (hv : v.Inv R live p) :
    Sat (calmContract W R live p) (fun r v' => v'.sequence = v.sequence ∧
      (r = .ok () → v'.state = .sourceDivergedNeedsOwner))
      (transact (markDiverged epoch p candidate channel evidenceDigest nowMs)) v := by
  refine sat_transact hv (.refl v) (fun e => ⟨rfl, nofun⟩) fun L a L' h hview => ?_
  obtain ⟨hown, hothers⟩ := markDiverged_ok h
  obtain ⟨hkeeps, hpending, hstate⟩ := hown v.ref
  rw [hview] at hkeeps hpending
  refine ⟨hothers, .of_keeps hkeeps, ⟨hv.sound.keeps hkeeps (.inl hpending), fun _ hready => ?_⟩,
    hkeeps.frozen.2.1, fun _ => hstate⟩
  exact absurd (hstate.symm.trans hready) (by decide)

/-- A deployable outcome carries the attestation of the current head. -/
def SourceView.Carries (v : SourceView) (outcome : SourceIngressOutcome) : Prop :=
  ∀ d, outcome = .deployable d →
    v.attestation = some d.attestation ∧ v.attestationDigest = some d.attestationDigest

namespace DurableSourceBroker

variable {codec : SourceCodec} {outside : SourceOutside W} {b : DurableSourceBroker}
variable {r : RefUpdateRow} {expected : SourceSnapshot} {signed : SignedAcceptedHeadV1}
  {digest : EvidenceDigest} {recoveredAtMs : Int} {policy : InstalledSourceProjectPolicy}

theorem requireCurrentLease_quiet : Quiet (b.requireCurrentLease outside) :=
  .bind quiet_transact fun _ => quiet_consult _

theorem lockCoordination_quiet : Quiet (b.lockCoordination outside p) :=
  .bind requireCurrentLease_quiet fun _ => .bind .ensure fun _ => requireCurrentLease_quiet

/-! ### Moving the ref -/

section Move

variable {inv : SourceView → Prop} {guar : SourceView → SourceView → Prop}
  {expectedHead : Option GitCommitId} {newHead : GitCommitId} {mayMove : Bool}

theorem sat_moveRef (hinv : ∀ ref, inv { v with ref := ref })
    (hguar : ∀ ref ref', guar { v with ref := ref } { v with ref := ref' }) :
    Sat (projectContract W p inv guar) (fun r v' => ∃ ref, v' = { v with ref := ref } ∧
      (r = .ok true → ref = some newHead)) (b.moveRef outside p expectedHead newHead mayMove) v := by
  have hfail : ∀ e ref, ∃ ref', ({ v with ref := ref } : SourceView) = { v with ref := ref' } ∧
        ((.error e : Except SourceError Bool) = .ok true → ref' = some newHead) :=
    fun e ref => ⟨ref, rfl, nofun⟩
  refine (observes_acceptedHead (hinv v.ref) (hguar v.ref v.ref)).bind (fun e => hfail e v.ref) ?_
  split_ifs with hat hmay
  · exact sat_pure (hinv v.ref) ⟨v.ref, rfl, fun _ => hat⟩
  · refine requireCurrentLease_quiet.sat_bind (hinv v.ref) (hguar v.ref v.ref)
      (fun e => hfail e v.ref) fun _ => ?_
    refine sat_compareAndSwap hinv (hguar v.ref) hfail (sat_pure (hinv _) ⟨_, rfl, fun _ => rfl⟩) ?_
    refine (observes_acceptedHead (hinv v.ref) (hguar v.ref v.ref)).bind (fun e => hfail e v.ref)
      (sat_pure (hinv v.ref) ⟨v.ref, rfl, ?_⟩)
    exact fun h => of_decide_eq_true (Except.ok.inj h)
  · exact sat_pure (hinv v.ref) ⟨v.ref, rfl, nofun⟩

/-- Only the ref may move, and when the answer is yes it is at the new head. -/
theorem sat_settleRef (hinv : ∀ ref, inv { v with ref := ref })
    (hguar : ∀ ref ref', guar { v with ref := ref } { v with ref := ref' }) :
    Sat (projectContract W p inv guar) (fun r v' => ∃ ref, v' = { v with ref := ref } ∧
      ∀ o, r = .ok (true, o) → ref = some newHead)
      (b.settleRef outside p expectedHead newHead mayMove) v := by
  refine sat_bind ((sat_moveRef hinv hguar).mono fun r v' _ hr => ?_)
  obtain ⟨ref, rfl, hr⟩ := hr
  cases r with
  | error e => exact ⟨ref, rfl, nofun⟩
  | ok there =>
    cases there with
    | true => exact sat_pure (hinv ref) ⟨ref, rfl, fun _ _ => hr rfl⟩
    | false =>
      refine (observes_acceptedHead (hinv ref) (hguar ref ref)).bind
        (fun e => ⟨ref, rfl, nofun⟩)
        (sat_pure (hinv ref) ⟨ref, rfl, fun o ho => ?_⟩)
      exact of_decide_eq_true (congrArg Prod.fst (Except.ok.inj ho))

end Move

/-- A view with a pending update has no ticket, and its ref may move. -/
theorem inv_move (hv : v.Inv R live p) (hticket : v.ticket = none)
    (hpending : v.pending = some r) (ref : Option GitCommitId) :
    ({ v with ref := ref } : SourceView).Inv R live p :=
  ⟨hv.sound.move hticket ref, fun _ _ hnone => absurd (hpending.symm.trans hnone) (by simp)⟩

theorem sat_finishRefUpdate (hproject : expected.projectId = p)
    (hv : v.Inv R live p) (hticket : v.ticket = none) (hsigned : signed.payload.Continues R p v)
    (href : v.ref = some signed.payload.head) :
    Sat (calmContract W R live p) (fun r v' => v.sequence ≤ v'.sequence ∧ (r = .ok () →
      v'.Settled ∧ v'.attestation = some signed ∧ v'.attestationDigest = some digest))
      (b.finishRefUpdate expected signed digest nowMs) v := by
  subst hproject
  refine sat_bind (sat_transact hv (.refl v) (fun e => ⟨le_rfl, nofun⟩) fun L _ L' h hview => ?_)
  obtain ⟨r, hr, -, htouches⟩ := markRefUpdated_ok h
  have hrow : v.pending = some r := hview ▸ hr
  have hown := htouches.own v.ref
  rw [hview] at hown
  rw [hown]
  have hv₁ : ({ v with pending := some { r with state := .refUpdated, updatedAtMs := nowMs } } :
      SourceView).Inv R live expected.projectId :=
    ⟨hv.sound.plan hticket (hv.sound.pending r hrow), nofun⟩
  refine ⟨htouches.others, .of_free hticket hticket, hv₁, ?_⟩
  refine sat_transact hv₁ (.refl _) (fun e => ⟨le_rfl, nofun⟩) fun L₁ _ L₂ h₁ hview₁ => ?_
  rcases acceptIfCurrent_ok hsigned.project h₁ with hsame | ⟨-, -, haccept⟩
  · -- the sequence of the attestation is not the current one yet
    have hsequence := hsame v.ref
    rw [hview₁] at hsequence
    have hnow : v.sequence = signed.payload.sequence := hsequence
    have hnext := hsigned.sequence
    omega
  · have hown₁ := haccept.own v.ref
    rw [hview₁] at hown₁
    rw [hown₁]
    have hsettled : (acceptInto expected signed digest
        { v with pending := some { r with state := .refUpdated, updatedAtMs := nowMs } }).Settled :=
      fun _ _ => href.trans (acceptInto_head _).symm
    have hv₂ : (acceptInto expected signed digest
        { v with pending := some { r with state := .refUpdated, updatedAtMs := nowMs } }).Inv R live
          expected.projectId :=
      ⟨hv₁.sound.accept hticket ⟨hsigned.project, hsigned.sequence, hsigned.previous,
        hsigned.related⟩, fun _ => hsettled⟩
    refine ⟨haccept.others, .of_free hticket hticket, hv₂, ?_, fun _ =>
      ⟨hsettled, acceptInto_attestation _⟩⟩
    rw [acceptInto_sequence, hsigned.sequence]
    exact Nat.le_succ _

theorem sat_markRefDiverged {intendedHead : GitCommitId}
    {intentDigest : EvidenceDigest} {observed : Option GitCommitId}
    (hv : v.Inv R live p) : Sat (calmContract W R live p)
      (fun r v' => v'.sequence = v.sequence ∧ (r = .ok () → v'.state = .sourceDivergedNeedsOwner))
      (b.markRefDiverged codec p intendedHead channel intentDigest observed nowMs) v :=
  sat_markDiverged hv

theorem sat_advanceRefUpdate (hproject : expected.projectId = p)
    (hv : v.Inv R live p) (hsigned : signed.payload.Continues R p v) :
    Sat (calmContract W R live p) (fun r v' => v.sequence ≤ v'.sequence ∧ (r = .ok true →
      v'.attestation = some signed ∧ v'.attestationDigest = some digest))
      (b.advanceRefUpdate codec outside expected signed digest nowMs) v := by
  subst hproject
  refine sat_bind (sat_transact hv (.refl v) (fun e => ⟨le_rfl, nofun⟩) fun L _ L' h hview => ?_)
  obtain ⟨hbefore, r, -, -, hr⟩ := beginRefUpdate_ok h
  have hticket : v.ticket = none := hview ▸ (hbefore v.ref).1
  -- either way the update is pending now, and its row continues the head
  have hplanned : (∀ q ref, q ≠ expected.projectId → L'.view q ref = L.view q ref) ∧
      L'.view expected.projectId v.ref = { v with pending := some r } ∧
      r.signed.payload.Continues R expected.projectId v := by
    rcases hr with ⟨rfl, hpending⟩ | ⟨-, -, -, hr, htouches⟩
    · have hrow : v.pending = some r := hview ▸ hpending
      exact ⟨fun _ _ _ => rfl, by rw [hview, ← hrow], hv.sound.pending r hrow⟩
    · exact ⟨htouches.others, by rw [htouches.own, hview], hr ▸ hsigned⟩
  obtain ⟨hothers, hview', hcontinues⟩ := hplanned
  rw [hview']
  have hv₁ : ({ v with pending := some r } : SourceView).Inv R live expected.projectId :=
    ⟨hv.sound.plan hticket hcontinues, nofun⟩
  refine ⟨hothers, .of_free hticket hticket, hv₁, ?_⟩
  refine sat_bind ((sat_settleRef (inv_move hv₁ hticket rfl)
    fun _ _ => .of_free hticket hticket).mono fun x v₂ hv₂ hx => ?_)
  obtain ⟨ref, rfl, hx⟩ := hx
  cases x with
  | error e => exact ⟨le_rfl, nofun⟩
  | ok answer =>
    obtain ⟨there, observed⟩ := answer
    cases there with
    | true =>
      refine sat_bind ((sat_finishRefUpdate rfl hv₂ hticket ⟨hsigned.project, hsigned.sequence,
        hsigned.previous, hsigned.related⟩ (hx observed rfl)).mono fun r' v₃ hv₃ hr => ?_)
      cases r' with
      | ok _ => exact sat_pure hv₃ ⟨hr.1, fun _ => (hr.2 rfl).2⟩
      | error e => exact ⟨hr.1, nofun⟩
    | false =>
      refine sat_bind ((sat_markRefDiverged hv₂).mono fun r' v₃ hv₃ hr => ?_)
      have hsequence : v.sequence ≤ v₃.sequence := hr.1.ge
      cases r' with
      | ok _ => exact sat_pure hv₃ ⟨hsequence, nofun⟩
      | error e => exact ⟨hsequence, nofun⟩

/-! ### Recovery -/

theorem verifyLive_ok {verifier : SourceAttestationVerifier}
    {payload : AcceptedHeadV1} (h : verifier.verifyLive codec signed = .ok payload) :
    payload = signed.payload := by
  simp only [SourceAttestationVerifier.verifyLive, SourceAttestationVerifier.verifyInner,
    Check.ok_iff] at h
  obtain ⟨-, -, -, -, -, -, -, -, -, -, rfl⟩ := h
  rfl

/-- A pending update is finished, or its project is diverged. -/
theorem sat_resumeRefUpdate (hproject : r.projectId = p)
    (hhead : r.signed.payload.head = r.newHead) (hv : v.Inv R live p) (hpending : v.pending = some r) :
    Sat (calmContract W R live p) (fun x v' => x = .ok () → v'.Settled)
      (b.resumeRefUpdate codec outside r r.signed.payload recoveredAtMs) v := by
  subst hproject
  have hcontinues := hv.sound.pending r hpending
  have hticket : v.ticket = none := by
    cases h : v.ticket with
    | none => rfl
    | some t => exact absurd (hpending.symm.trans (hv.sound.ticket t h).1) (by simp)
  refine (observes_snapshot hv (.refl v)).bind nofun ?_
  rw [snapshot_state, snapshot_sequence]
  split_ifs with hdiverged hdone
  · refine sat_pure hv fun _ hready => ?_
    exact absurd (hdiverged.symm.trans hready) (by decide)
  · have hsequence := hdone.2.1
    have hnext := hcontinues.sequence
    omega
  · refine sat_ensure hv nofun fun hbound => ?_
    refine sat_bind ((sat_settleRef (inv_move hv hticket hpending)
      fun _ _ => .of_free hticket hticket).mono fun x v₁ hv₁ hx => ?_)
    obtain ⟨ref, rfl, hx⟩ := hx
    cases x with
    | error e => exact nofun
    | ok answer =>
      obtain ⟨there, observed⟩ := answer
      cases there with
      | true =>
        exact (sat_finishRefUpdate (snapshot_projectId v r.projectId) hv₁ hticket
          ⟨hcontinues.project, hcontinues.sequence, hcontinues.previous, hcontinues.related⟩
          ((hx observed rfl).trans (congrArg some hhead.symm))).mono
          fun _ _ _ hr hok => (hr.2 hok).1
      | false =>
        refine (sat_markRefDiverged hv₁).mono fun x v₂ _ hdiverged hx hready => ?_
        exact absurd ((hdiverged.2 hx).symm.trans hready) (by decide)

theorem sat_recoverRefUpdate (hproject : r.projectId = p)
    (hv : v.Inv R live p) (hpending : v.pending = some r) :
    Sat (calmContract W R live p) (fun x v' => x = .ok () → v'.Settled)
      (b.recoverRefUpdate codec outside r recoveredAtMs) v := by
  refine sat_lift hv nofun fun payload hpayload => ?_
  obtain rfl := verifyLive_ok (Check.mapError_ok_iff.mp hpayload)
  refine sat_lift hv nofun fun policy _ => ?_
  refine sat_ensure hv nofun fun hbound => ?_
  exact sat_resumeRefUpdate hproject hbound.2.2.1 hv hpending

/-- A project that was recovered is diverged or has its ref at its head. -/
theorem sat_recoverProject (hproject : policy.projectId = p) (hv : v.Inv R live p) :
    Sat (calmContract W R live p) (fun x v' => x = .ok () → v'.Settled)
      (b.recoverProject codec outside policy recoveredAtMs) v := by
  subst hproject
  refine (observes_snapshot hv (.refl v)).bind nofun ?_
  rw [snapshot_state, snapshot_head]
  split_ifs with hdiverged
  · refine sat_pure hv fun _ hready => ?_
    exact absurd (hdiverged.symm.trans hready) (by decide)
  · refine (observes_acceptedHead hv (.refl v)).bind nofun ?_
    split_ifs with hsame
    · exact sat_pure hv fun _ _ _ => hsame
    · refine sat_lift hv nofun fun candidate _ => ?_
      refine (sat_markDiverged hv).mono fun x v' _ hmarked hx hready => ?_
      exact absurd ((hmarked.2 hx).symm.trans hready) (by decide)

/-! ### Candidates -/

section Candidates

variable {ingress : CandidateIngress} (hproject : ingress.projectId = p)
variable {announcedHead : GitCommitId}

/-- The current head is reported, if a head is. -/
theorem sat_replaySameHead {inv : SourceView → Prop} {guar : SourceView → SourceView → Prop}
    (hv : inv v) (hg : guar v v) : Sat (projectContract W p inv guar)
      (fun r v' => v' = v ∧ ∀ outcome, r = .ok (some outcome) → v.Carries outcome)
      (b.replaySameHead (v.snapshot p) ingress) v := by
  have herr : ∀ e, v = v ∧ ∀ outcome, (.error e : Except SourceError _) = .ok (some outcome) →
      v.Carries outcome := fun e => ⟨rfl, fun _ => (nomatch ·)⟩
  refine sat_lift hv herr fun digest _ => ?_
  refine Quiet.sat_bind quiet_transact hv hg herr fun status => ⟨hv, rfl, fun outcome h d hd => ?_⟩
  simp only [existingSameHeadDelivery, Check.ok_iff, snapshot_attestation,
    snapshot_attestationDigest] at h
  obtain ⟨attestation, hattestation, h⟩ := h
  split_ifs at h
  · cases h
  · simp only [Check.ok_iff, Option.some.injEq] at h
    obtain ⟨digest, hdigest, rfl⟩ := h
    cases hd
    exact ⟨hattestation, hdigest⟩

include hproject

variable (hreports : ∀ c d w rel, (outside.relationship p c d w).1 = .ok rel →
  rel = .same ∨ rel = .fastForward → R c d)

include hreports

/-- A candidate that is to be attested continues the head. -/
theorem sat_judgeCandidate (hv : v.Inv R live p) : Sat (calmContract W R live p)
    (fun r v' => v'.sequence = v.sequence ∧
      (r = .ok none → v' = v ∧ ∀ h, v.head = some h → R h ingress.candidate) ∧
      ∀ outcome, r = .ok (some outcome) → v'.Carries outcome)
    (b.judgeCandidate outside (v.snapshot p) ingress) v := by
  unfold judgeCandidate
  rw [snapshot_head]
  have hdiverge : Sat (calmContract W R live p) (fun r v' => v'.sequence = v.sequence ∧
      (r = .ok none → v' = v ∧ ∀ h, v.head = some h → R h ingress.candidate) ∧
      ∀ outcome, r = .ok (some outcome) → v'.Carries outcome) (b.divergeCandidate ingress) v := by
    subst hproject
    refine sat_bind ((sat_markDiverged hv).mono fun r v' hv' hr => ?_)
    cases r with
    | ok _ =>
      refine sat_pure hv' ⟨hr.1, nofun, ?_⟩
      rintro outcome ⟨⟩ d ⟨⟩
    | error e => exact ⟨hr.1, nofun, fun _ => (nomatch ·)⟩
  cases hhead : v.head with
  | none =>
    exact sat_pure hv ⟨rfl, fun _ => ⟨rfl, fun _ => (nomatch ·)⟩, fun _ => (nomatch ·)⟩
  | some head =>
    rw [hhead] at hdiverge
    refine sat_consult hv (.refl v) (fun e => ⟨rfl, nofun, fun _ => (nomatch ·)⟩)
      fun relation hrelation => ?_
    obtain ⟨w, hw⟩ := hrelation
    rw [hproject] at hw
    cases relation with
    | rewind =>
      split_ifs
      · refine sat_pure hv ⟨rfl, nofun, ?_⟩
        rintro outcome ⟨⟩ d ⟨⟩
      · exact hdiverge
    | diverged => exact hdiverge
    | same =>
      have hrelated := hreports _ _ _ _ hw (.inl rfl)
      refine (sat_replaySameHead hv (.refl v)).mono fun r v' _ hr => ?_
      obtain ⟨rfl, hr⟩ := hr
      exact ⟨rfl, fun _ => ⟨rfl, fun h hh => Option.some.inj hh ▸ hrelated⟩, hr⟩
    | fastForward =>
      have hrelated := hreports _ _ _ _ hw (.inr rfl)
      exact sat_pure hv ⟨rfl, fun _ => ⟨rfl, fun h hh => Option.some.inj hh ▸ hrelated⟩,
        fun _ => (nomatch ·)⟩

omit hreports in
theorem sat_attestCandidate (hv : v.Inv R live p)
    (hrelated : ∀ h, v.head = some h → R h ingress.candidate) :
    Sat (calmContract W R live p) (fun r v' => v.sequence ≤ v'.sequence ∧
      ∀ outcome, r = .ok (some outcome) → v'.Carries outcome)
      (b.attestCandidate codec outside (v.snapshot p) ingress) v := by
  have herr : ∀ e, v.sequence ≤ v.sequence ∧ ∀ outcome,
      (.error e : Except SourceError _) = .ok (some outcome) → v.Carries outcome :=
    fun e => ⟨le_rfl, fun _ => (nomatch ·)⟩
  refine sat_ensure hv (herr _) fun _ => sat_ensure hv (herr _) fun _ => ?_
  refine sat_lift hv herr fun signed hsigned => ?_
  have hpayload : signed.payload = b.candidatePayload (v.snapshot p) ingress :=
    SignedAcceptedHeadV1.create_payload (Check.mapError_ok_iff.mp hsigned)
  have hcontinues : signed.payload.Continues R p v := by
    rw [hpayload]
    exact ⟨hproject, congrArg (· + 1) (snapshot_sequence v p), snapshot_head v p, hrelated⟩
  refine sat_bind (sat_attempt ((sat_advanceRefUpdate (snapshot_projectId v p) hv
    hcontinues).mono fun r v' hv' hr => ⟨hv', hr.1, fun outcome h d hd => ?_⟩))
  subst hd
  match r, h with
  | .ok true, h =>
    cases h
    exact hr.2 rfl
  | .ok false, h => cases h
  | .error e, h => cases e <;> cases h

theorem sat_considerCandidate (hv : v.Inv R live p) : Sat (calmContract W R live p)
    (fun r v' => ∀ answer, r = .ok answer → v.sequence ≤ v'.sequence ∧
      ∀ outcome, answer = some outcome → v'.Carries outcome)
    (b.considerCandidate codec outside ingress) v := by
  have hplain : ∀ outcome, (∀ d, outcome ≠ .deployable d) → Sat (calmContract W R live p)
      (fun r v' => ∀ answer, r = .ok answer → v.sequence ≤ v'.sequence ∧
        ∀ outcome, answer = some outcome → v'.Carries outcome)
      (pure (some outcome) : SourceProg W _) v := by
    intro outcome hne
    refine sat_pure hv ?_
    rintro answer ⟨⟩
    refine ⟨le_rfl, ?_⟩
    rintro _ ⟨⟩ d hd
    exact absurd hd (hne d)
  unfold considerCandidate
  rw [hproject]
  refine (observes_snapshot hv (.refl v)).bind (fun e answer h => by cases h) ?_
  split_ifs
  · exact hplain _ fun _ => nofun
  · exact hplain _ fun _ => nofun
  · exact hplain _ fun _ => nofun
  · refine sat_bind ((sat_judgeCandidate hproject hreports hv).mono fun r v' hv' hr => ?_)
    obtain ⟨hsequence, hnone, hsome⟩ := hr
    rcases r with e | (_ | outcome)
    · exact fun answer h => by cases h
    · obtain ⟨rfl, hrelated⟩ := hnone rfl
      refine (sat_attestCandidate hproject hv' hrelated).mono fun r v'' _ hr answer hanswer => ?_
      exact ⟨hr.1, fun outcome houtcome => hr.2 outcome (houtcome ▸ hanswer)⟩
    · refine sat_pure hv' ?_
      rintro answer ⟨⟩
      refine ⟨hsequence.ge, ?_⟩
      rintro _ ⟨⟩
      exact hsome outcome rfl

/-- The sequence does not go back, and what is reported is the current head. -/
theorem sat_processCandidate (hv : v.Inv R live p) : Sat (calmContract W R live p)
    (fun r v' => ∀ outcome, r = .ok outcome → v.sequence ≤ v'.sequence ∧ v'.Carries outcome)
    (b.processCandidate codec outside ingress) v := by
  have hrounds : ∀ rounds v, v.Inv R live p → Sat (calmContract W R live p)
      (fun r v' => ∀ outcome, r = .ok outcome → v.sequence ≤ v'.sequence ∧ v'.Carries outcome)
      (b.processCandidateRounds codec outside ingress rounds) v := by
    intro rounds
    induction rounds with
    | zero => exact fun v hv => ⟨hv, fun outcome h => by cases h⟩
    | succ rounds ih =>
      intro v hv
      refine sat_bind ((sat_considerCandidate hproject hreports hv).mono fun r v' hv' hr => ?_)
      rcases r with e | (_ | outcome)
      · exact fun outcome h => by cases h
      · refine (ih v' hv').mono fun r v'' _ hr' outcome houtcome => ?_
        obtain ⟨hsequence, hreported⟩ := hr' outcome houtcome
        exact ⟨(hr none rfl).1.trans hsequence, hreported⟩
      · refine sat_pure hv' ?_
        rintro _ ⟨⟩
        exact ⟨(hr _ rfl).1, (hr _ rfl).2 outcome rfl⟩
  exact hrounds 4 v hv

theorem processCandidate_calm : CalmProg R live p (b.processCandidate codec outside ingress) :=
  fun _ hv => (sat_processCandidate hproject hreports hv).mono fun _ _ _ _ => trivial

theorem sat_processGithubCandidate (hv : v.Inv R live p) :
    Sat (calmContract W R live p) (fun r v' => ∀ outcome, r = .ok outcome → v'.Carries outcome)
      (b.processGithubCandidate codec outside ingress announcedHead) v := by
  have hprocess : Sat (calmContract W R live p)
      (fun r v' => ∀ outcome, r = .ok outcome → v'.Carries outcome)
      (b.processCandidate codec outside ingress) v :=
    (sat_processCandidate hproject hreports hv).mono
      fun _ _ _ hr outcome houtcome => (hr outcome houtcome).2
  have hfail : ∀ e, Sat (calmContract W R live p)
      (fun r v' => ∀ outcome, r = .ok outcome → v'.Carries outcome)
      (lift (.error e) : SourceProg W SourceIngressOutcome) v :=
    fun e => ⟨hv, fun outcome h => by cases h⟩
  unfold processGithubCandidate
  split_ifs
  · exact hprocess
  · refine sat_consult hv (.refl v) (fun e outcome h => by cases h) fun relation _ => ?_
    cases relation with
    | rewind => exact hfail _
    | diverged =>
      rw [hproject]
      refine sat_bind ((sat_markDiverged hv).mono fun r v' hv' _ => ?_)
      cases r with
      | ok _ =>
        refine sat_pure hv' ?_
        rintro outcome ⟨⟩ d ⟨⟩
      | error e => exact fun outcome h => by cases h
    | fastForward => exact hprocess
    | same => exact hfail _

theorem processGithubCandidate_calm :
    CalmProg R live p (b.processGithubCandidate codec outside ingress announcedHead) :=
  fun _ hv => (sat_processGithubCandidate hproject hreports hv).mono fun _ _ _ _ => trivial

end Candidates

end DurableSourceBroker

end Rdashboard
