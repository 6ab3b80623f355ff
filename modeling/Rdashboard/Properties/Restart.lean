import Rdashboard.Properties.AcceptedHeads
import Rdashboard.Source.Recovery

/-! # Restarting the broker

A start verifies every pending update against its own key and policies and stops at the first one
that it cannot verify.  So the broker restarts from a ledger exactly when all pending updates fit the
new configuration: one update that does not fit keeps every project from being served. -/

namespace Rdashboard

open Relational Interleaving Txn SourceProg SourceLedger Prog List SourceView Table Check

/-! ### A world that answers -/

/-- Everything that the recovery asks is answered. -/
structure SourceOutside.Answers {W : Type} (outside : SourceOutside W) : Prop where
  lock : outside.HoldsLock
  heads : ∀ p, outside.AnswersHead p
  swaps : ∀ p w, (outside.swapAttempted p w).1.2 = none
  notifies : ∀ p w, (outside.notifyPriorityFetch p w).1 = .ok ()

/-- A configuration that `new` accepts: the key id, the lifetime of attestations and the policies
are valid, and the repositories are the installed ones. -/
structure BrokerStart.Valid {W : Type} (outside : SourceOutside W) (start : BrokerStart) : Prop where
  key : validateKeyId start.keyId = .ok ()
  lifetime : 10000 ≤ start.attestationTtlMs ∧ start.attestationTtlMs ≤ 3600000
  installs : start.installedPolicies ≠ []
  policies : ∀ policy ∈ start.installedPolicies, policy.validate = .ok ()
  identities : ∀ policy ∈ start.installedPolicies, ∀ w,
    (outside.repositoryIdentity policy.projectId w).1 = .ok policy.repositoryIdentity
  distinct : (start.installedPolicies.map (·.projectId)).Nodup
  time : 0 ≤ start.startedAtMs

/-- Two attestations of one project with the same digest have the same sequence. -/
def SourceCodec.TellsHeads (codec : SourceCodec) : Prop :=
  ∀ h h' : SignedAcceptedHeadV1, h.payload.projectId = h'.payload.projectId →
    (h.payload.sequence : Int) ≤ i64Max → (h'.payload.sequence : Int) ≤ i64Max →
    h.digest codec = h'.digest codec → h.payload.sequence = h'.payload.sequence

/-- The pending update fits the configuration of a start: its attestation verifies with the key, and
it is for an installed project under the installed policy. -/
structure RefUpdateRow.Fits (codec : SourceCodec) (start : BrokerStart) (r : RefUpdateRow) : Prop where
  verifies : ∃ payload, (start.broker codec 0).verifier.verifyLive codec r.signed = .ok payload
  installed : ∃ policy, (start.broker codec 0).installed r.projectId = some policy ∧
    r.signed.payload.installedPolicy = policy.installedPolicy ∧
    r.signed.payload.repositoryIdentity = policy.repositoryIdentity

instance (codec : SourceCodec) (start : BrokerStart) (r : RefUpdateRow) :
    Decidable (r.Fits codec start) :=
  decidable_of_iff
    (((start.broker codec 0).verifier.verifyLive codec r.signed).toOption.isSome = true ∧
      (((start.broker codec 0).installed r.projectId).any fun policy =>
        decide (r.signed.payload.installedPolicy = policy.installedPolicy ∧
          r.signed.payload.repositoryIdentity = policy.repositoryIdentity)) = true) <| by
    rw [Option.any_eq_true]
    simp only [decide_eq_true_eq]
    constructor
    · rintro ⟨hverifies, policy, hpolicy, hfits⟩
      cases hverify : (start.broker codec 0).verifier.verifyLive codec r.signed with
      | ok payload => exact ⟨⟨payload, hverify⟩, policy, hpolicy, hfits⟩
      | error e =>
        rw [hverify] at hverifies
        cases hverifies
    · rintro ⟨⟨payload, hverify⟩, policy, hpolicy, hfits⟩
      rw [hverify]
      exact ⟨rfl, policy, hpolicy, hfits⟩

section Restart

variable {W α β : Type} {codec : SourceCodec} {outside : SourceOutside W} {start : BrokerStart}
  {b : DurableSourceBroker} {p : ProjectId} {s s' : SourceState W}
variable {Q : α → SourceState W → Prop} {L : SourceLedger} {o : SourceOrigin} {x : SourceProg W α}
  {r : Except SourceError α}

theorem transact_returns {body : Txn SourceLedger SourceError α}
    {a : α} (h : body s.ledger = .ok (a, L)) (hQ : Q a { s with ledger := L }) :
    (transact body : SourceProg W α).Returns Q s :=
  ⟨a, _, transact_run_ok_iff.mpr ⟨L, h, rfl⟩, hQ⟩

theorem consult_returns {f : StateM W (Except SourceError α)} {a : α}
    (h : (f s.world).1 = .ok a) (hQ : ∀ w, Q a { s with world := w }) :
    (consult f : SourceProg W α).Returns Q s :=
  ⟨a, _, consult_run h, hQ _⟩

theorem acceptedHead_returns (hanswers : outside.Answers) {Q : Option GitCommitId → SourceState W → Prop}
    (hQ : ∀ w, Q (s.refs p) { s with world := w }) : (acceptedHead outside p).Returns Q s := by
  obtain ⟨w, hrun⟩ := acceptedHead_run (hanswers.heads p)
  exact ⟨_, _, hrun, hQ w⟩

theorem compareAndSwap_returns (hanswers : outside.Answers) (expected : Option GitCommitId)
    (candidate : GitCommitId) : (compareAndSwapAcceptedHead outside p expected candidate).Returns
      (fun _ s' => s'.ledger = s.ledger) s := by
  refine ⟨(outside.swapAttempted p s.world).1.1 && decide (s.refs p = expected), _,
    Prog.run_atomic_ok_iff.mpr (Prod.ext ?_ rfl), rfl⟩
  simp only [hanswers.swaps]

namespace DurableSourceBroker

theorem requireCurrentLease_returns (hanswers : outside.Answers) (hb : Serving b s) :
    (b.requireCurrentLease outside).Returns (fun _ s' => s'.ledger = s.ledger) s := by
  obtain ⟨w, hrun⟩ := requireCurrentLease_run hb hanswers.lock
  exact ⟨(), _, hrun, rfl⟩

/-- Wherever the ref is, the attempt to move it comes to an end. -/
theorem settleRef_returns (hanswers : outside.Answers) (hb : Serving b s)
    (expectedHead : Option GitCommitId) (newHead : GitCommitId) (mayMove : Bool) :
    (b.settleRef outside p expectedHead newHead mayMove).Returns
      (fun _ s' => s'.ledger = s.ledger) s := by
  have hobserve : ∀ s', s'.ledger = s.ledger → (acceptedHead outside p).Returns
      (fun _ s' => s'.ledger = s.ledger) s' :=
    fun s' hs' => acceptedHead_returns hanswers fun _ => hs'
  refine .bind (Prog.Returns.mono (Q := fun _ s' => s'.ledger = s.ledger) (.bind ?_) ?_)
  · refine (hobserve s rfl).mono fun observed s₁ hs₁ => ?_
    split_ifs
    · exact .pure hs₁
    · refine .bind ((requireCurrentLease_returns hanswers (serving_of_ledger hb (by rw [hs₁]))).mono
        fun _ s₂ hs₂ => .bind ?_)
      refine (compareAndSwap_returns hanswers _ _).mono fun swapped s₃ hs₃ => ?_
      have hledger : s₃.ledger = s.ledger := hs₃.trans (hs₂.trans hs₁)
      split_ifs
      · exact .pure hledger
      · exact .bind ((hobserve s₃ hledger).mono fun _ _ h => .pure h)
    · exact .pure hs₁
  · intro there s₁ hs₁
    split_ifs
    · exact .pure hs₁
    · exact .bind ((hobserve s₁ hs₁).mono fun _ _ h => .pure h)

/-- What holds throughout the recovery: the lease, the orderly ledger and the sound projects. -/
structure Recovering (codec : SourceCodec) (b : DurableSourceBroker) (s : SourceState W) : Prop where
  serving : Serving b s
  orderly : s.ledger.Orderly codec

section

variable (h : Recovering codec b s)
include h

theorem Recovering.run (hx : Commits codec o x) (hrun : x.run s = (r, s')) :
    Recovering codec b s' := by
  have hs' : Recovering codec b (x.run s).2 := Prog.Steps.run hx (fun _ _ hmove hs =>
    ⟨serving_of_ledger hs.serving hmove.brokerEpoch_eq,
      hmove.invariant (fun _ hstep => hstep.orderly hs.orderly) hs.orderly⟩) h
  rwa [hrun] at hs'

theorem Recovering.bind {f : α → SourceProg W β}
    {Q : β → SourceState W → Prop} (hx : Commits codec o x)
    (hreturns : x.Returns (fun _ _ => True) s)
    (hf : ∀ a s', Recovering codec b s' → (f a).Returns Q s') : (x >>= f).Returns Q s := by
  obtain ⟨a, s₁, hrun, -⟩ := hreturns
  exact .bind ⟨a, s₁, hrun, hf a s₁ (h.run hx hrun)⟩

theorem Recovering.epoch : requireBrokerEpoch b.epoch s.ledger = .ok ((), s.ledger) :=
  requireBrokerEpoch_current h.serving.epoch h.serving.positive h.serving.bound

theorem Recovering.of_ledger (hledger : s'.ledger = s.ledger) : Recovering codec b s' :=
  ⟨serving_of_ledger h.serving (by rw [hledger]), hledger ▸ h.orderly⟩

theorem markDiverged_returns (candidate : GitCommitId)
    (channel : SourceChannel) (evidence : EvidenceDigest) (t : Int) :
    (transact (markDiverged b.epoch p candidate channel evidence t) :
      SourceProg W Unit).Returns (fun _ _ => True) s := by
  obtain ⟨L, hL⟩ := markDiverged_succeeds h.epoch h.orderly.sequences p candidate channel evidence t
  exact transact_returns hL trivial

theorem Recovering.step
    (hstep : LedgerStep codec o s.ledger L) : Recovering codec b { s with ledger := L } :=
  ⟨serving_of_ledger h.serving hstep.brokerEpoch_eq, hstep.orderly h.orderly⟩

end

/-! ### Pending updates -/

variable {R : GitCommitId → GitCommitId → Prop} {r : RefUpdateRow} {ref : Option GitCommitId}

/-- No accepted head has the sequence or the digest of a pending update. -/
theorem pending_fresh (htells : codec.TellsHeads) (hL : L.Orderly codec)
    (hsound : (L.view r.projectId ref).Sound R r.projectId)
    (hr : L.refUpdate r.projectId = some r) : ∀ a ∈ L.acceptedHeads.rows,
      a.projectId = r.projectId →
      a.sequence ≠ r.signed.payload.sequence ∧ a.attestationDigest ≠ r.attestationDigest := by
  intro a ha hproject
  have hcontinues := hsound.pending r hr
  have hattests := hL.pending r (mem_of_lookup hr)
  have hattested := hL.attested a ha
  have hsequence : a.sequence = a.attestation.payload.sequence :=
    congrArg AcceptedHeadRow.sequence hattested.row
  have hsame : a.projectId = a.attestation.payload.projectId :=
    congrArg AcceptedHeadRow.projectId hattested.row
  have hle : a.sequence ≤ (L.view r.projectId ref).accepted.length :=
    hsound.linked.sequence_le a (mem_filter.mpr ⟨ha, decide_eq_true hproject⟩)
  have hnew : a.sequence ≠ r.signed.payload.sequence := by
    rw [hcontinues.sequence, hsound.sequence]
    omega
  refine ⟨hnew, fun hdigest => hnew ?_⟩
  rw [hsequence]
  refine htells _ _ (hsame.symm.trans (hproject.trans hcontinues.project.symm))
    (hsequence ▸ hattested.sequence) hattests.range ?_
  rw [hattested.digest, hdigest, hattests.digest]

theorem finishRefUpdate_returns (htells : codec.TellsHeads)
    (h : Recovering codec b s) {expected : SourceSnapshot}
    (hexpected : expected = (s.ledger.view r.projectId ref).snapshot r.projectId)
    (hready : (s.ledger.view r.projectId ref).state = .ready)
    (hsound : (s.ledger.view r.projectId ref).Sound R r.projectId)
    (hr : s.ledger.refUpdate r.projectId = some r) (t : Int) :
    (b.finishRefUpdate expected r.signed r.attestationDigest t).Returns (fun _ _ => True) s := by
  have hproject : expected.projectId = r.projectId := by
    rw [hexpected, snapshot_projectId]
  have hattests := h.orderly.pending r (mem_of_lookup hr)
  have hcontinues := hsound.pending r hr
  have hfresh := pending_fresh htells h.orderly hsound hr
  -- the update is marked first, which changes nothing else
  obtain ⟨L, hL⟩ := markRefUpdated_succeeds h.epoch (mem_of_lookup hr) t
  obtain ⟨r', hr', -, htouches⟩ := markRefUpdated_ok hL
  cases hr.symm.trans hr'
  have hview := htouches.own ref
  have haccepted : L.acceptedHeads = s.ledger.acceptedHeads := frame hL
  have h₁ : Recovering codec b { s with ledger := L } :=
    h.step (o := .inr (.reconcileRemoteMain r.projectId t)) (.markRefUpdated hL)
  let marked : RefUpdateRow := { r with state := .refUpdated, updatedAtMs := t }
  have hmarked : L.refUpdate marked.projectId = some marked := congrArg pending hview
  have hsnapshot : expected = (L.view marked.projectId ref).snapshot marked.projectId := by
    rw [hexpected, show L.view marked.projectId ref = _ from hview]
    rfl
  have hnext : marked.signed.payload.Continues R marked.projectId (L.view marked.projectId ref) := by
    rw [show L.view marked.projectId ref = _ from hview]
    exact ⟨hcontinues.project, hcontinues.sequence, hcontinues.previous, hcontinues.related⟩
  obtain ⟨L', hL'⟩ := acceptIfCurrent_succeeds h₁.epoch hsnapshot
    ((congrArg state hview).trans hready) hmarked rfl
    (show marked.Attests codec from ⟨hattests.previous, hattests.head, hattests.sequence,
      hattests.range, hattests.digest⟩) hnext (by rw [haccepted]; exact hfresh)
  refine .bind (transact_returns (hproject ▸ hL) ?_)
  exact transact_returns hL' trivial

/-- The recovery of a pending update that fits. -/
theorem resumeRefUpdate_returns (htells : codec.TellsHeads) (hanswers : outside.Answers)
    (h : Recovering codec b s)
    (hsound : (s.ledger.view r.projectId ref).Sound R r.projectId)
    (hr : s.ledger.refUpdate r.projectId = some r) (t : Int) :
    (b.resumeRefUpdate codec outside r r.signed.payload t).Returns (fun _ _ => True) s := by
  have hattests := h.orderly.pending r (mem_of_lookup hr)
  have hcontinues := hsound.pending r hr
  refine .bind (transact_returns
    (query_ok_iff.mpr ⟨loadSnapshot_eq s.ledger r.projectId ref, rfl⟩) ?_)
  rw [snapshot_state, snapshot_head, snapshot_sequence]
  split_ifs with hdiverged hdone
  · exact .pure trivial
  · have hnext := hcontinues.sequence
    omega
  · refine .bind (.ensure ⟨?_, ?_, ?_⟩ (.bind ?_))
    · rw [← hcontinues.previous, hattests.previous]
    · exact hcontinues.sequence.symm
    · have hrange := hattests.range
      rw [hcontinues.sequence] at hrange
      simp only [u64Max, i64Max] at hrange ⊢
      omega
    · refine (settleRef_returns hanswers h.serving _ _ _).mono fun answer s₁ hs₁ => ?_
      obtain ⟨there, observed⟩ := answer
      have h₁ : Recovering codec b s₁ := h.of_ledger hs₁
      cases there with
      | true =>
        rw [← hs₁] at hsound hr hdiverged ⊢
        refine finishRefUpdate_returns htells h₁ rfl ?_ hsound hr t
        cases hstate : (s₁.ledger.view r.projectId ref).state with
        | ready => rfl
        | sourceDivergedNeedsOwner => exact absurd hstate hdiverged
      | false => exact markDiverged_returns h₁ _ _ _ _

end DurableSourceBroker

open DurableSourceBroker

/-! ### The recovery -/

variable {epoch : Nat} {t : Int}

theorem recoverRefUpdate_returns {R : GitCommitId → GitCommitId → Prop} {r : RefUpdateRow}
    (htells : codec.TellsHeads) (hanswers : outside.Answers)
    (h : Recovering codec (start.broker codec epoch) s)
    (hsound : (sourceView (.inl r.projectId) s).Sound R r.projectId)
    (hr : s.ledger.refUpdate r.projectId = some r) (hfits : r.Fits codec start) :
    ((start.broker codec epoch).recoverRefUpdate codec outside r t).Returns (fun _ _ => True) s := by
  obtain ⟨⟨payload, hpayload⟩, policy, hpolicy, hinstalled, hidentity⟩ := hfits
  obtain rfl := verifyLive_ok hpayload
  have hattests := h.orderly.pending r (mem_of_lookup hr)
  refine .bind (.lift (mapError_ok_iff.mpr hpayload) (.bind (.lift
    (require_ok_iff.mpr hpolicy) (.bind (.ensure ?_ ?_)))))
  · exact ⟨hattests.digest, (hsound.pending r hr).project, hattests.head, hattests.previous,
      hinstalled, hidentity⟩
  · exact resumeRefUpdate_returns htells hanswers h hsound hr t

/-- A program that works for one project keeps every project sound, and the views of the others. -/
theorem SourceKnown.run {R : ProjectId → GitCommitId → GitCommitId → Prop}
    {Q : Except SourceError α → SourceView → Prop} (h : SourceKnown R s)
    (hx : Sat (calmContract W (R p) False p) Q x (sourceView (.inl p) s))
    (hrun : x.run s = (r, s')) :
    SourceKnown R s' ∧ ∀ q, q ≠ p → sourceView (.inl q) s' = sourceView (.inl q) s := by
  obtain ⟨hinv, hframe, -⟩ := Sat.run (fun _ _ _ => rfl)
    (fun _ _ _ h₁ h₂ j hj => (h₂ j hj).trans (h₁ j hj)) hx
  rw [hrun] at hinv hframe
  have hothers : ∀ q, q ≠ p → sourceView (.inl q) s' = sourceView (.inl q) s :=
    fun q hq => hframe (.inl q) fun h => hq (Sum.inl.inj h)
  refine ⟨fun q => ?_, hothers⟩
  by_cases hq : q = p
  · subst hq
    exact hinv.sound
  · rw [hothers q hq]
    exact h q

/-- All pending updates are recovered when they fit. -/
theorem recoverRefUpdates_returns (htells : codec.TellsHeads) (hanswers : outside.Answers)
    (h : Recovering codec (start.broker codec epoch) s) (hknown : SourceKnown (fun _ _ _ => True) s)
    {rows : List RefUpdateRow} (hdistinct : rows.Pairwise fun r r' => r.projectId ≠ r'.projectId)
    (hrows : ∀ r ∈ rows, s.ledger.refUpdate r.projectId = some r ∧ r.Fits codec start) :
    (each ((start.broker codec epoch).recoverRefUpdate codec outside · t) rows).Returns
      (fun _ _ => True) s := by
  refine .each (I := fun rows s => Recovering codec (start.broker codec epoch) s ∧
    SourceKnown (fun _ _ _ => True) s ∧
    (rows.Pairwise fun r r' => r.projectId ≠ r'.projectId) ∧
    ∀ r ∈ rows, s.ledger.refUpdate r.projectId = some r ∧ r.Fits codec start)
    ⟨h, hknown, hdistinct, hrows⟩ ?_ fun _ _ => trivial
  rintro r rest s ⟨h, hknown, hdistinct, hrows⟩
  obtain ⟨hfirst, hrest⟩ := pairwise_cons.mp hdistinct
  obtain ⟨hr, hfits⟩ := hrows r mem_cons_self
  obtain ⟨_, s', hrun, -⟩ := recoverRefUpdate_returns htells hanswers h (hknown r.projectId)
    hr hfits
  have h' := h.run (recoverRefUpdate_commits (o := .inl start)) hrun
  obtain ⟨hknown', hothers⟩ :=
    hknown.run (sat_recoverRefUpdate rfl (hknown.inv r.projectId) hr) hrun
  refine ⟨(), s', hrun, h', hknown', hrest, fun r' hr' => ?_⟩
  obtain ⟨hpending, hfits'⟩ := hrows r' (mem_cons_of_mem _ hr')
  refine ⟨?_, hfits'⟩
  have hview := hothers r'.projectId (hfirst r' hr').symm
  exact (congrArg pending hview).trans hpending

/-- A loop of the recovery whose rounds need nothing else. -/
theorem DurableSourceBroker.Recovering.each {body : α → SourceProg W Unit} {xs : List α}
    (h : Recovering codec b s) (hx : ∀ a, Commits codec o (body a))
    (hreturns : ∀ a s, Recovering codec b s → (body a).Returns (fun _ _ => True) s) :
    (each body xs).Returns (fun _ _ => True) s := by
  refine .each (I := fun _ s => Recovering codec b s) h (fun a _ s hs => ?_) fun _ _ => trivial
  obtain ⟨_, s', hrun, -⟩ := hreturns a s hs
  exact ⟨_, s', hrun, hs.run (hx a) hrun⟩

theorem recoverProject_returns (hanswers : outside.Answers) (h : Recovering codec b s)
    (policy : InstalledSourceProjectPolicy) :
    (b.recoverProject codec outside policy t).Returns (fun _ _ => True) s := by
  refine .bind (transact_returns (query_ok_iff.mpr ⟨loadSnapshot_eq s.ledger
    policy.projectId (s.refs policy.projectId), rfl⟩) ?_)
  split_ifs
  · exact .pure trivial
  · refine .bind (acceptedHead_returns hanswers fun w => ?_)
    split_ifs with hsame
    · exact .pure trivial
    · -- the two heads differ, so one of them is there
      obtain ⟨candidate, hcandidate⟩ : ∃ candidate, (s.refs policy.projectId).or
          ((s.ledger.view policy.projectId (s.refs policy.projectId)).snapshot
            policy.projectId).head = some candidate := by
        refine Option.ne_none_iff_exists'.mp fun hnone => hsame ?_
        obtain ⟨href, hhead⟩ := Option.or_eq_none_iff.mp hnone
        exact href.trans hhead.symm
      have h₁ : Recovering codec b { s with world := w } := h.of_ledger rfl
      refine .bind (.lift (require_ok_iff.mpr hcandidate) ?_)
      exact markDiverged_returns h₁ _ _ _ _

theorem signalQueuedWebhooks_returns (hanswers : outside.Answers) (h : Recovering codec b s)
    (policy : InstalledSourceProjectPolicy) :
    (b.signalQueuedWebhooks outside policy).Returns (fun _ _ => True) s := by
  obtain ⟨rows, hrows⟩ := pendingGithubWakeups_succeeds h.epoch h.orderly.wakeups policy.projectId
  refine .bind (transact_returns hrows ?_)
  split_ifs
  · exact .pure trivial
  · exact consult_returns (hanswers.notifies _ _) fun _ => trivial

theorem recoverSourceState_returns (htells : codec.TellsHeads) (hanswers : outside.Answers)
    (h : Recovering codec (start.broker codec epoch) s) (hknown : SourceKnown (fun _ _ _ => True) s)
    (hfits : ∀ r ∈ s.ledger.refUpdates.rows, r.Fits codec start) :
    ((start.broker codec epoch).recoverSourceState codec outside t).Returns (fun _ _ => True) s := by
  obtain ⟨w, hlease⟩ := requireCurrentLease_run h.serving hanswers.lock
  refine .bind ⟨(), _, hlease, .bind (transact_returns (read_ok_iff.mpr ⟨rfl, rfl⟩) ?_)⟩
  have h₁ : Recovering codec (start.broker codec epoch) { s with world := w } := h.of_ledger rfl
  have hperm := perm_insertionSort (fun r r' : RefUpdateRow => r.projectId ≤ r'.projectId)
    s.ledger.refUpdates.rows
  have hdistinct : (pendingRefUpdates s.ledger).Pairwise
      fun r r' => r.projectId ≠ r'.projectId := by
    refine (hperm.symm.pairwise_iff Ne.symm).mp ?_
    exact s.ledger.refUpdates.separated.imp fun h => refUpdates_by_id _ _ h
  have hpending : ∀ r ∈ pendingRefUpdates s.ledger,
      s.ledger.refUpdate r.projectId = some r ∧ r.Fits codec start := fun r hr =>
    have hmem := hperm.mem_iff.mp hr
    ⟨lookup_of_mem refUpdates_by_id hmem, hfits r hmem⟩
  refine h₁.bind (o := .inl start) (.each fun _ _ => recoverRefUpdate_commits)
    (recoverRefUpdates_returns htells hanswers h₁ hknown hdistinct hpending) fun _ s₂ h₂ => ?_
  refine h₂.bind (o := .inl start) (.each fun _ _ => recoverProject_commits)
    (h₂.each (o := .inl start) (fun _ => recoverProject_commits)
      fun policy s hs => recoverProject_returns hanswers hs policy) fun _ s₃ h₃ => ?_
  obtain ⟨n, L, hL⟩ := recoverIncompleteDeliveries_succeeds h₃.epoch t
  exact .bind (transact_returns hL (.pure trivial))

/-! ### The start -/

theorem checkPolicies_returns {policies : List InstalledSourceProjectPolicy} {seen : List ProjectId}
    (hvalid : ∀ policy ∈ policies, policy.validate = .ok ())
    (hidentities : ∀ policy ∈ policies, ∀ w,
      (outside.repositoryIdentity policy.projectId w).1 = .ok policy.repositoryIdentity)
    (hdistinct : (policies.map (·.projectId)).Nodup)
    (hseen : ∀ policy ∈ policies, policy.projectId ∉ seen) :
    ∃ w, (BrokerStart.checkPolicies outside seen policies).run s =
      (.ok (), { s with world := w }) := by
  induction policies generalizing seen s with
  | nil => exact ⟨s.world, rfl⟩
  | cons policy policies ih =>
    obtain ⟨hnew, hrest⟩ := nodup_cons.mp hdistinct
    have hcheck : (BrokerStart.checkPolicy outside policy).Returns
        (fun _ s' => ∃ w, s' = { s with world := w }) s :=
      .bind (.lift (hvalid policy mem_cons_self) (.bind (consult_returns
        (hidentities policy mem_cons_self _) fun w => .ensure rfl ⟨w, rfl⟩)))
    obtain ⟨_, s₁, hrun, w₁, rfl⟩ := hcheck
    have hseen₁ : ∀ q ∈ policies, q.projectId ∉ policy.projectId :: seen := by
      intro q hq hmem
      rcases mem_cons.mp hmem with hsame | hold
      · exact hnew (mem_map.mpr ⟨q, hq, hsame⟩)
      · exact hseen q (mem_cons_of_mem _ hq) hold
    obtain ⟨w, hw⟩ := ih (s := { s with world := w₁ })
      (fun q hq => hvalid q (mem_cons_of_mem _ hq))
      (fun q hq => hidentities q (mem_cons_of_mem _ hq)) hrest hseen₁
    refine ⟨w, (Prog.run_bind_of_ok hrun).trans ((Prog.run_bind_of_ok (a := ()) ?_).trans hw)⟩
    exact run_ensure_ok_iff.mpr ⟨hseen policy mem_cons_self, rfl⟩

theorem BrokerStart.Valid.checks (hvalid : start.Valid outside) (s : SourceState W) :
    ∃ w, (checkPolicies outside [] start.installedPolicies).run s =
      (.ok (), { s with world := w }) :=
  checkPolicies_returns hvalid.policies hvalid.identities hvalid.distinct fun _ _ => not_mem_nil

/-- After the lease is acquired the broker serves, though nothing is recovered yet. -/
theorem BrokerStart.Valid.serving (hvalid : start.Valid outside)
    (hlease : acquireBrokerLease t s.ledger = .ok (epoch, L)) (w : W) :
    Serving (start.broker codec epoch) { s with ledger := L, world := w } := by
  obtain ⟨hepoch, hbound, rfl⟩ := acquireBrokerLease_ok hlease
  refine ⟨rfl, hepoch ▸ Nat.succ_pos _, hbound, fun policy hpolicy => ?_⟩
  exact hvalid.policies policy ((perm_insertionSort _ _).mem_iff.mp hpolicy)

/-- A start succeeds when the pending updates fit its configuration and an epoch is left. -/
theorem start_returns (htells : codec.TellsHeads) (hanswers : outside.Answers)
    (hvalid : start.Valid outside) (hknown : SourceKnown (fun _ _ _ => True) s)
    (hL : s.ledger.Orderly codec) (hleft : (s.ledger.brokerEpoch.getD 0 : Nat) < i64Max)
    (hfits : ∀ r ∈ s.ledger.refUpdates.rows, r.Fits codec start) :
    (start.run codec outside).Returns (fun b s' => Serving b s') s := by
  obtain ⟨w, hpolicies⟩ := hvalid.checks s
  refine .bind (.lift (mapError_ok_iff.mpr hvalid.key) (.bind (.ensure hvalid.lifetime
    (.bind (.ensure hvalid.installs (.bind ⟨(), _, hpolicies, .bind ?_⟩))))))
  refine consult_returns (hanswers.lock _) fun w' => ?_
  obtain ⟨L, hlease⟩ := acquireBrokerLease_succeeds hvalid.time hleft
  obtain ⟨-, -, hL'⟩ := acquireBrokerLease_ok hlease
  refine .bind (transact_returns hlease ?_)
  have h : Recovering codec (start.broker codec (s.ledger.brokerEpoch.getD 0 + 1))
      { s with ledger := L, world := w' } := by
    refine ⟨hvalid.serving hlease w', ?_⟩
    rw [hL']
    exact hL.lease _
  have hknown' : SourceKnown (fun _ _ _ => True)
      ({ s with ledger := L, world := w' } : SourceState W) := by
    rw [hL']
    exact hknown
  refine h.bind (o := .inl start) recoverSourceState_commits
    (recoverSourceState_returns htells hanswers h hknown' (by rw [hL']; exact hfits))
    fun _ s₁ h₁ => ?_
  refine h₁.bind (o := .inl start)
    (commits_transact fun _ _ _ h => .reconcileGithubWakeupPolicy h) ?_ fun _ s₂ h₂ => ?_
  · obtain ⟨n, L₁, hL₁⟩ := reconcileGithubWakeupPolicy_succeeds h₁.epoch
      fun p => ((start.broker codec (s.ledger.brokerEpoch.getD 0 + 1)).installed p).map
        (·.githubRepository)
    exact transact_returns hL₁ trivial
  refine h₂.bind (o := .inl start) (.each fun _ _ => signalQueuedWebhooks_commits)
    (h₂.each (o := .inl start) (fun _ => signalQueuedWebhooks_commits)
      fun policy s hs => signalQueuedWebhooks_returns hanswers hs policy) fun _ s₃ h₃ => ?_
  refine h₃.bind
    (commits_transact fun _ _ _ h => .delivery (.reconcileOutboxPolicy h)) ?_
    fun _ s₄ h₄ => .pure h₄.serving
  obtain ⟨L₃, hL₃⟩ := reconcileOutboxPolicy_succeeds h₃.epoch (start.enables codec) hvalid.time
  exact transact_returns hL₃ trivial

theorem recoverRefUpdate_fits {r : RefUpdateRow}
    (h : ((start.broker codec epoch).recoverRefUpdate codec outside r t).run s = (.ok (), s')) :
    r.Fits codec start := by
  obtain ⟨payload, _, hpayload, h⟩ := run_bind_ok_iff.mp h
  obtain ⟨policy, _, hpolicy, h⟩ := run_bind_ok_iff.mp h
  obtain ⟨_, _, hbinding, -⟩ := run_bind_ok_iff.mp h
  obtain ⟨hpayload, -⟩ := run_lift_ok_iff.mp hpayload
  obtain ⟨hpolicy, -⟩ := run_lift_ok_iff.mp hpolicy
  obtain ⟨⟨-, -, -, -, hinstalled, hidentity⟩, -⟩ := run_ensure_ok_iff.mp hbinding
  have hverifies := mapError_ok_iff.mp hpayload
  obtain rfl := verifyLive_ok hverifies
  exact ⟨⟨_, hverifies⟩, policy, require_ok_iff.mp hpolicy, hinstalled, hidentity⟩

/-- A start that succeeds has an epoch left, and every pending update fits. -/
theorem start_returns_only (hanswers : outside.Answers) (hvalid : start.Valid outside)
    (h : (start.run codec outside).run s = (.ok b, s')) :
    (s.ledger.brokerEpoch.getD 0 : Nat) < i64Max ∧
      ∀ r ∈ s.ledger.refUpdates.rows, r.Fits codec start := by
  obtain ⟨w, hpolicies⟩ := hvalid.checks s
  obtain ⟨_, _, hkey, h⟩ := run_bind_ok_iff.mp h
  obtain ⟨-, rfl⟩ := run_lift_ok_iff.mp hkey
  obtain ⟨_, _, hlifetime, h⟩ := run_bind_ok_iff.mp h
  obtain ⟨-, rfl⟩ := run_ensure_ok_iff.mp hlifetime
  obtain ⟨_, _, hinstalls, h⟩ := run_bind_ok_iff.mp h
  obtain ⟨-, rfl⟩ := run_ensure_ok_iff.mp hinstalls
  rw [Prog.run_bind_of_ok hpolicies, Prog.run_bind_of_ok (consult_run (hanswers.lock _))] at h
  obtain ⟨epoch, _, hacquired, h⟩ := run_bind_ok_iff.mp h
  obtain ⟨L, hlease, rfl⟩ := transact_run_ok_iff.mp hacquired
  obtain ⟨hepoch, hbound, hL⟩ := acquireBrokerLease_ok hlease
  refine ⟨by dsimp only at hepoch; omega, fun r hr => ?_⟩
  obtain ⟨w', hcurrent⟩ := requireCurrentLease_run (hvalid.serving hlease
    (outside.validateLock w).2) hanswers.lock
  obtain ⟨_, _, hrecover, -⟩ := run_bind_ok_iff.mp h
  rw [recoverSourceState, Prog.run_bind_of_ok hcurrent] at hrecover
  obtain ⟨rows, _, hrows, hrecover⟩ := run_bind_ok_iff.mp hrecover
  obtain ⟨_, _, heach, -⟩ := run_bind_ok_iff.mp hrecover
  obtain ⟨_, hread, rfl⟩ := transact_run_ok_iff.mp hrows
  obtain ⟨rfl, rfl⟩ := read_ok_iff.mp hread
  have hmem : r ∈ L.refUpdates.rows := by
    rw [hL]
    exact hr
  obtain ⟨s₂, s₃, hround⟩ :=
    run_each_ok heach r ((perm_insertionSort _ _).mem_iff.mpr hmem)
  exact recoverRefUpdate_fits hround

/-- The broker starts, and a pending update that does not fit is left alone or its project is
diverged. -/
def RestartsFrom (codec : SourceCodec) (outside : SourceOutside W) (start : BrokerStart)
    (s : SourceState W) : Prop :=
  (start.run codec outside).Returns (fun b s' => Serving b s' ∧
    ∀ r ∈ s.ledger.refUpdates.rows, ¬ r.Fits codec start →
      s'.ledger.refUpdate r.projectId = some r ∨
      (sourceView (.inl r.projectId) s').state = .sourceDivergedNeedsOwner) s

/-- The broker restarts from a ledger that it left behind exactly when an epoch is left and every
pending update fits its new configuration.  Only what is asked of the repositories during the start
must be answered; they may have failed before. -/
theorem broker_restarts_iff {before : SourceOutside W} {refs : ProjectId → Option GitCommitId}
    {w : W} {c : SourceConfig W} (htells : codec.TellsHeads)
    (h : Reachable (sourceService codec before) (newBroker refs w) c) (hanswers : outside.Answers)
    (hvalid : start.Valid outside) : RestartsFrom codec outside start c.state ↔
      ((c.state.ledger.brokerEpoch.getD 0 : Nat) : Int) < i64Max ∧
        ∀ r ∈ c.state.ledger.refUpdates.rows, r.Fits codec start := by
  constructor
  · rintro ⟨b, s', hrun, -⟩
    exact start_returns_only hanswers hvalid hrun
  · rintro ⟨hleft, hfits⟩
    have hreturns := start_returns htells hanswers hvalid
      (newBroker_reachable_known (reports_anything before) c h) (newBroker_reachable_orderly h)
      hleft hfits
    exact hreturns.mono fun b s' hb => ⟨hb, fun r hr hunfit => absurd (hfits r hr) hunfit⟩

end Restart

/-! ### A key that is rotated -/

namespace SourceSample

theorem codec_tells_heads : codec.TellsHeads := by
  intro h h' _ hrange hrange' hdigest
  have hbits : BitVec.ofNat 256 h.payload.sequence = BitVec.ofNat 256 h'.payload.sequence := hdigest
  have hsequence := congrArg BitVec.toNat hbits
  rw [BitVec.toNat_ofNat, BitVec.toNat_ofNat] at hsequence
  simp only [i64Max] at hrange hrange'
  omega

/-- The broker is killed during a push, after the update of the accepted ref was begun. -/
def heldUp : SourceState Nat :=
  (service.call broker (push "one" none firstCommit)).killed 9 started

/-- A later start of the sample with a key of the given id. -/
def startWith (keyId : String) : BrokerStart := { start with keyId, startedAtMs := 20 }

theorem heldUp_reaches : Reachable service fresh ⟨heldUp, .down, some broker⟩ :=
  start_reaches.trans (.killed (push "one" none firstCommit) rfl 9)

theorem outside_answers : outside.Answers :=
  ⟨fun _ => rfl, fun _ _ => rfl, fun _ _ => rfl, fun _ _ => rfl⟩

theorem startWith_valid {keyId : String} (hkey : validateKeyId keyId = .ok ()) :
    (startWith keyId).Valid outside := by
  have hlifetime : 10000 ≤ start.attestationTtlMs ∧ start.attestationTtlMs ≤ 3600000 := by decide
  have hinstalls : start.installedPolicies ≠ [] := by decide
  have hdistinct : (start.installedPolicies.map (·.projectId)).Nodup := by decide
  refine ⟨hkey, hlifetime, hinstalls, fun policy' h => ?_, fun policy' h w => ?_, hdistinct,
    (by decide : (0 : Int) ≤ 20)⟩
  · rw [mem_singleton.mp h]
    decide +kernel
  · rw [mem_singleton.mp h]
    rfl

/-- The update is pending and the accepted ref has not moved.  The broker is then started with a
rotated key, and with the unchanged repository and policy it does not come up. -/
theorem rotated_key_blocks_start :
    ∃ c, Reachable service fresh c ∧
      codec.TellsHeads ∧ outside.Answers ∧ (startWith "next").Valid outside ∧
      (((startWith "next").run codec outside).run c.state).1 =
        .error (.attestation (.unknownKey "key")) ∧
      ¬ RestartsFrom codec outside (startWith "next") c.state := by
  have hrefused : (((startWith "next").run codec outside).run heldUp).1 =
      .error (.attestation (.unknownKey "key")) := by decide +kernel
  refine ⟨_, heldUp_reaches, codec_tells_heads, outside_answers,
    startWith_valid (by decide +kernel), hrefused, ?_⟩
  rintro ⟨b, s', hrun, -⟩
  rw [hrun] at hrefused
  cases hrefused

theorem unchanged_key_restarts : RestartsFrom codec outside (startWith "key") heldUp :=
  (broker_restarts_iff codec_tells_heads heldUp_reaches outside_answers
    (startWith_valid (by decide +kernel))).mpr ⟨by decide +kernel, by decide +kernel⟩

end SourceSample

end Rdashboard
