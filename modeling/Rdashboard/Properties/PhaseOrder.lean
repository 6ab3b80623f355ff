import Rdashboard.Security.Receipts

/-! # The order of the phases

The committed primary phases of an attempt are a beginning of its plan, at most one phase is
under way besides the one that a takeover has sealed, and the recovery phases follow a takeover
in their order.  The last part needs a caller that begins a recovery phase only once the
takeover is stored: `begin_phase_intent` does not ask for it. -/

namespace Rdashboard

open Relational SecurityStore
variable {phase : OperationPhase}

namespace Course

/-- The phases of a course follow the plan. -/
structure InOrder (plan : List OperationPhase) (C : Course) : Prop where
  primaries : ∃ n, (∀ phase, C.Committed ⟨.primary, phase⟩ ↔ phase ∈ plan.take n) ∧
    ∀ phase, C.Pending ⟨.primary, phase⟩ → plan[n]? = some phase
  recovery : ∀ phase, C.Committed ⟨.rollbackRecovery, phase⟩ ∨ C.Pending ⟨.rollbackRecovery, phase⟩ →
    C.takeover.isSome ∧ C.Committed ⟨.primary, .deploying⟩ ∧
      ∃ required allowed, recoveryPhaseSets phase = some (required, allowed) ∧
        ∀ p ∈ required, C.Committed ⟨.rollbackRecovery, p⟩
  forward : ∀ t, C.takeover = some t → ∀ phase, C.Pending ⟨.primary, phase⟩ → phase = t.forwardPhase
  single : ∀ p q, C.Pending ⟨.rollbackRecovery, p⟩ → C.Pending ⟨.rollbackRecovery, q⟩ → p = q

namespace InOrder

variable {codec : Codec} {plan : List OperationPhase} {C C' : Course} {key : PhaseKey}
  {e e' : PhaseJournalEntry}
variable {phasePlan : ExecutorPhasePlan} {r : PhaseReceiptRow}

theorem empty : Course.empty.InOrder plan where
  primaries := ⟨0, fun phase => ⟨by rintro ⟨e, ⟨⟩, -⟩, by simp⟩, by rintro phase ⟨e, ⟨⟩, -⟩⟩
  recovery := by rintro phase (⟨e, ⟨⟩, -⟩ | ⟨e, ⟨⟩, -⟩)
  forward := by rintro t ⟨⟩
  single := by rintro p q ⟨e, ⟨⟩, -⟩

theorem congr (h : C.InOrder plan) (hc : ∀ k, C'.Committed k ↔ C.Committed k)
    (hp : ∀ k, C'.Pending k ↔ C.Pending k) (ht : C'.takeover = C.takeover) : C'.InOrder plan where
  primaries := by
    simp only [hc, hp]
    exact h.primaries
  recovery := by
    simp only [hc, hp, ht]
    exact h.recovery
  forward := by
    simp only [hp, ht]
    exact h.forward
  single := by
    simp only [hp]
    exact h.single

theorem setPending (h : C.InOrder plan) (he : C.entries key = some e) (hs : e.status ≠ .committed)
    (hs' : e'.status ≠ .committed) : (C.setEntry key e').InOrder plan := by
  refine h.congr (committed_setPending (not_committed he hs) hs') (fun k => ?_) rfl
  rw [pending_setEntry]
  split
  · subst k
    exact ⟨fun _ => ⟨e, he, hs⟩, fun _ => hs'⟩
  · rfl

/-- The next primary phase is the first of the plan that is not committed. -/
theorem next_primary {n m : Nat} (hnodup : plan.Nodup)
    (hcommitted : ∀ phase, C.Committed ⟨.primary, phase⟩ ↔ phase ∈ plan.take n)
    (hm : plan[m]? = some phase) (hnew : ¬ C.Committed ⟨.primary, phase⟩)
    (hbefore : ∀ phase ∈ plan.take m, C.Committed ⟨.primary, phase⟩) : n = m := by
  obtain ⟨hlt, hphase⟩ := getElem?_eq_some_iff.mp hm
  rcases lt_trichotomy n m with hnm | rfl | hmn
  · -- then `plan[n]` is committed, so it stands before itself
    have hmem : plan[n] ∈ plan.take n := by
      rw [← hcommitted]
      exact hbefore _ (List.mem_take_iff_getElem.mpr ⟨n, by omega, rfl⟩)
    obtain ⟨i, hi, hin⟩ := List.mem_take_iff_getElem.mp hmem
    have := (List.Nodup.getElem_inj_iff hnodup).mp hin
    omega
  · rfl
  · refine absurd ((hcommitted phase).mpr ?_) hnew
    exact List.mem_take_iff_getElem.mpr ⟨m, by omega, hphase⟩

theorem intendPrimary
    (h : C.InOrder phasePlan.orderedPhases) (hadmits : C.Admits phasePlan ⟨.primary, phase⟩)
    (hnew : C.entries ⟨.primary, phase⟩ = none)
    (hfree : ∀ k, C.Pending k → C.Ignores .primary k) (hs : e.status ≠ .committed) :
    (C.setEntry ⟨.primary, phase⟩ e).InOrder phasePlan.orderedPhases := by
  have hcommitted := committed_setPending (not_committed_new hnew) hs
  have hnone : C.takeover = none := hadmits.unsealed rfl
  obtain ⟨n, hprimaries, -⟩ := h.primaries
  obtain ⟨m, hm, hbefore, -⟩ := hadmits.primary rfl
  have hnm : n = m :=
    next_primary hadmits.nodup hprimaries hm (not_committed_new hnew) hbefore
  have hpending : ∀ k, (C.setEntry ⟨.primary, phase⟩ e).Pending k → k = ⟨.primary, phase⟩ := by
    intro k hk
    rw [pending_setEntry] at hk
    split at hk
    · assumption
    · cases (hfree k hk).1
  refine { primaries := ⟨n, fun p => (hcommitted _).trans (hprimaries p), fun p hp => ?_⟩
           recovery := fun p hp => ?_, forward := ?_, single := fun p q hp _ => ?_ }
  · cases hpending _ hp
    exact hnm ▸ hm
  · rcases hp with hp | hp
    · have hp := h.recovery p (.inl ((hcommitted _).mp hp))
      rw [hnone] at hp
      cases hp.1
    · cases hpending _ hp
  · intro t ht
    rw [show (C.setEntry ⟨.primary, phase⟩ e).takeover = none from hnone] at ht
    cases ht
  · cases hpending _ hp

theorem intendRecovery
    (h : C.InOrder plan) (hadmits : C.Admits phasePlan ⟨.rollbackRecovery, phase⟩)
    (hnew : C.entries ⟨.rollbackRecovery, phase⟩ = none)
    (hfree : ∀ k, C.Pending k → C.Ignores .rollbackRecovery k) (hs : e.status ≠ .committed)
    (hsealed : C.takeover.isSome) :
    (C.setEntry ⟨.rollbackRecovery, phase⟩ e).InOrder plan := by
  have hcommitted := committed_setPending (not_committed_new hnew) hs
  have hpending : ∀ k, (C.setEntry ⟨.rollbackRecovery, phase⟩ e).Pending k →
      k = ⟨.rollbackRecovery, phase⟩ ∨ C.Pending k := by
    intro k hk
    rw [pending_setEntry] at hk
    split at hk
    · exact .inl (by assumption)
    · exact .inr hk
  -- what was pending before is the sealed primary phase
  have hrecovery : ∀ p, (C.setEntry ⟨.rollbackRecovery, phase⟩ e).Pending ⟨.rollbackRecovery, p⟩ →
      p = phase := by
    intro p hp
    rcases hpending _ hp with hk | hk
    · exact (PhaseKey.mk.inj hk).2
    · obtain ⟨-, t, -, ht⟩ := hfree _ hk
      cases ht
  refine { primaries := ?_, recovery := fun p hp => ?_, forward := fun t ht p hp => ?_
           single := fun p q hp hq => (hrecovery p hp).trans (hrecovery q hq).symm }
  · obtain ⟨n, hprimaries, hnext⟩ := h.primaries
    refine ⟨n, fun p => (hcommitted _).trans (hprimaries p), fun p hp => ?_⟩
    rcases hpending _ hp with hk | hk
    · cases hk
    · exact hnext p hk
  · rcases hp with hp | hp
    · obtain ⟨h₁, h₂, required, allowed, h₃, h₄⟩ := h.recovery p (.inl ((hcommitted _).mp hp))
      exact ⟨h₁, (hcommitted _).mpr h₂, required, allowed, h₃,
        fun q hq => (hcommitted _).mpr (h₄ q hq)⟩
    · cases hrecovery p hp
      obtain ⟨h₂, required, allowed, h₃, h₄, -⟩ := hadmits.recovery rfl
      exact ⟨hsealed, (hcommitted _).mpr h₂, required, allowed, h₃,
        fun q hq => (hcommitted _).mpr (h₄ q hq)⟩
  · rcases hpending _ hp with hk | hk
    · cases hk
    · exact h.forward t ht p hk

/-- What a commit adds to the committed phases, and takes from the pending ones. -/
theorem committed_commit (hs : e'.status = .committed) (k : PhaseKey) :
    ((C.setReceipt key r).setEntry key e').Committed k ↔ k = key ∨ C.Committed k := by
  rw [committed_setEntry]
  split
  · exact ⟨fun _ => .inl (by assumption), fun _ => hs⟩
  · rename_i hk
    exact ⟨.inr, fun h => h.resolve_left hk⟩

theorem pending_commit (hs : e'.status = .committed) (k : PhaseKey) :
    ((C.setReceipt key r).setEntry key e').Pending k ↔ k ≠ key ∧ C.Pending k := by
  rw [pending_setEntry]
  split
  · rename_i hk
    exact ⟨absurd hs, fun h => absurd hk h.1⟩
  · rename_i hk
    exact ⟨fun h => ⟨hk, h⟩, And.right⟩

theorem commit (h : C.InOrder plan) (hpending : C.Pending key)
    (ho : C.Open key.branch) (hs : e'.status = .committed) :
    ((C.setReceipt key r).setEntry key e').InOrder plan := by
  have hcommitted (k) : ((C.setReceipt key r).setEntry key e').Committed k ↔ _ :=
    committed_commit hs k
  have hpend (k) : ((C.setReceipt key r).setEntry key e').Pending k ↔ _ := pending_commit hs k
  refine { primaries := ?_, recovery := fun p hp => ?_
           forward := fun t ht p hp => h.forward t ht p ((hpend _).mp hp).2
           single := fun p q hp hq => h.single p q ((hpend _).mp hp).2 ((hpend _).mp hq).2 }
  · obtain ⟨n, hprimaries, hnext⟩ := h.primaries
    obtain ⟨branch, phase⟩ := key
    cases branch with
    | primary =>
      -- the one pending primary phase is the next of the plan
      have hphase := hnext phase hpending
      obtain ⟨hlt, hget⟩ := getElem?_eq_some_iff.mp hphase
      refine ⟨n + 1, fun p => ?_, fun p hp => ?_⟩
      · rw [hcommitted, hprimaries, List.take_succ_eq_append_getElem hlt, List.mem_append, hget, or_comm]
        simp
      · obtain ⟨hne, hp⟩ := (hpend _).mp hp
        have hp' := hnext p hp
        rw [hphase] at hp'
        cases hp'
        exact absurd rfl hne
    | rollbackRecovery =>
      refine ⟨n, fun p => ?_, fun p hp => hnext p ((hpend _).mp hp).2⟩
      rw [hcommitted, hprimaries]
      simp
  · have hold : C.Committed ⟨.rollbackRecovery, p⟩ ∨ C.Pending ⟨.rollbackRecovery, p⟩ := by
      rcases hp with hp | hp
      · rcases (hcommitted _).mp hp with hk | hk
        · exact .inr (hk ▸ hpending)
        · exact .inl hk
      · exact .inr ((hpend _).mp hp).2
    obtain ⟨h₁, h₂, required, allowed, h₃, h₄⟩ := h.recovery p hold
    exact ⟨h₁, (hcommitted _).mpr (.inr h₂), required, allowed, h₃,
      fun q hq => (hcommitted _).mpr (.inr (h₄ q hq))⟩

/-- A change under the plan keeps the order, if a recovery phase begins only after the
takeover. -/
theorem step {a : Uuid} {op : SecurityOperation}
    (h : C.InOrder phasePlan.orderedPhases) (hstep : CourseStep codec a op C C')
    (hplan : ∀ request, op = .beginPhaseIntent request → request.attemptId = a →
      request.phasePlan = phasePlan ∧ (request.branch = .rollbackRecovery → C.takeover.isSome)) :
    C'.InOrder phasePlan.orderedPhases := by
  cases hstep with
  | @intend _ request key ha hkey hadmits hnew hfree =>
    obtain ⟨rfl, hsealed⟩ := hplan request rfl ha
    subst hkey
    cases hb : request.branch with
    | primary =>
      rw [hb] at hadmits hnew hfree
      exact h.intendPrimary hadmits hnew hfree (by simp [PhaseIntentRequest.entry])
    | rollbackRecovery =>
      rw [hb] at hadmits hnew hfree
      exact h.intendRecovery hadmits hnew hfree (by simp [PhaseIntentRequest.entry])
        (hsealed hb)
  | move he hmove ho => exact h.setPending he hmove.from_pending hmove.to_pending
  | commit he hs hd hr ho => exact h.commit ⟨_, he, by rw [hs]; decide⟩ ho rfl
  | @reject _ _ e _ t he hs hr =>
    have hset : (C.setEntry _ { e with status := .needsReconcile, updatedAtMs := t }).InOrder
        phasePlan.orderedPhases :=
      h.setPending he (by rw [hs]; decide) (by simp)
    exact hset.congr (fun _ => .rfl) (fun _ => .rfl) rfl
  | @compensate _ _ _ e _ t he hs hd hartifacts hr hp hc ho =>
    have hset : (C.setEntry _ { e with status := .intentPersisted, updatedAtMs := t }).InOrder
        phasePlan.orderedPhases :=
      h.setPending he (by rw [hs]; decide) (by simp)
    exact hset.congr (fun _ => .rfl) (fun _ => .rfl) rfl
  | take hnone he hp hs hpending =>
    refine { primaries := h.primaries, recovery := fun p hp => ⟨rfl, (h.recovery p hp).2⟩
             forward := ?_, single := h.single }
    rintro t ⟨⟩
    exact hpending
  | bindSpec ho hnew => exact h.congr (fun _ => .rfl) (fun _ => .rfl) rfl
  | bindChain hb ho hnew => exact h.congr (fun _ => .rfl) (fun _ => .rfl) rfl

end InOrder

end Course

/-! ### The journal along a run -/

/-- Every phase of an attempt is begun under the attempt's plan. -/
def FollowsPlan (plan : Uuid → ExecutorPhasePlan) (op : SecurityOperation) : Prop :=
  ∀ request, op = .beginPhaseIntent request → request.phasePlan = plan request.attemptId

/-- A recovery phase is begun only once the takeover of its attempt is stored. -/
def RecoversUnderTakeover (S : SecurityStore) (op : SecurityOperation) : Prop :=
  ∀ request, op = .beginPhaseIntent request → request.branch = .rollbackRecovery →
    (S.takeover request.attemptId).isSome

/-- What the phase journal says about one attempt. -/
structure PhaseJournalIntegrity (codec : Codec) (plan : ExecutorPhasePlan) (C : Course) : Prop where
  primary : ∃ n, ∀ phase, C.Committed ⟨.primary, phase⟩ ↔ phase ∈ plan.orderedPhases.take n
  recovery : ∀ phase, C.Committed ⟨.rollbackRecovery, phase⟩ →
    C.takeover.isSome ∧ C.Committed ⟨.primary, .deploying⟩ ∧
      (phase = .rollback ∨
        (phase = .healthChecking ∧ C.Committed ⟨.rollbackRecovery, .rollback⟩) ∨
        (phase = .soaking ∧ C.Committed ⟨.rollbackRecovery, .healthChecking⟩))
  pending : ∀ k k', C.Pending k → C.Pending k' →
    (∀ t, C.takeover = some t → k ≠ ⟨.primary, t.forwardPhase⟩ ∧ k' ≠ ⟨.primary, t.forwardPhase⟩) →
    k = k'
  committed_iff : ∀ key, C.Committed key ↔ (C.receipts key).isSome
  attests : ∀ key e r, C.entries key = some e → C.receipts key = some r → r.Attests codec e

namespace Course

variable {codec : Codec} {a : Uuid} {plan : ExecutorPhasePlan} {C : Course}
variable {phases : List OperationPhase}

theorem InOrder.one_pending (h : C.InOrder phases) {k k' : PhaseKey}
    (hk : C.Pending k) (hk' : C.Pending k') (hforward : ∀ t, C.takeover = some t →
      k ≠ ⟨.primary, t.forwardPhase⟩ ∧ k' ≠ ⟨.primary, t.forwardPhase⟩) : k = k' := by
  -- a pending primary phase that is not sealed excludes a takeover, and so any recovery phase
  have hopen : ∀ {p}, C.Pending ⟨.primary, p⟩ → (∀ t, C.takeover = some t →
      (⟨.primary, p⟩ : PhaseKey) ≠ ⟨.primary, t.forwardPhase⟩) → C.takeover = none := by
    intro p hp hne
    cases ht : C.takeover with
    | none => rfl
    | some t => exact absurd (by rw [h.forward t ht p hp]) (hne t ht)
  have hrecovery : ∀ {q}, C.Pending ⟨.rollbackRecovery, q⟩ → C.takeover ≠ none := by
    intro q hq hnone
    have := (h.recovery q (.inr hq)).1
    rw [hnone] at this
    cases this
  obtain ⟨b, p⟩ := k
  obtain ⟨b', p'⟩ := k'
  cases b <;> cases b'
  · obtain ⟨n, -, hnext⟩ := h.primaries
    have hp := hnext p hk
    rw [hnext p' hk'] at hp
    cases hp
    rfl
  · exact absurd (hopen hk fun t ht => (hforward t ht).1) (hrecovery hk')
  · exact absurd (hopen hk' fun t ht => (hforward t ht).2) (hrecovery hk)
  · rw [h.single p p' hk hk']

theorem InOrder.integrity (h : C.InOrder plan.orderedPhases) (hr : C.Receipted codec a) :
    PhaseJournalIntegrity codec plan C where
  primary := by
    obtain ⟨n, hn, -⟩ := h.primaries
    exact ⟨n, hn⟩
  recovery := by
    intro phase hc
    obtain ⟨h₁, h₂, required, allowed, hsets, hrequired⟩ := h.recovery phase (.inl hc)
    refine ⟨h₁, h₂, ?_⟩
    cases phase <;> cases hsets
    · exact .inr (.inl ⟨rfl, hrequired _ (by simp)⟩)
    · exact .inr (.inr ⟨rfl, hrequired _ (by simp)⟩)
    · exact .inl rfl
  pending := fun _ _ => h.one_pending
  committed_iff := hr.committed_iff
  attests := hr.attests

end Course

/-- In every run in which all phases of an attempt are begun under one plan, and recovery phases
only under a takeover, the phase journal of every attempt keeps its order and its receipts, and
what is committed does not change. -/
theorem phase_journal_integrity {codec : Codec} {plan : Uuid → ExecutorPhasePlan}
    {S : SecurityStore}
    (h : ReachableBy codec (fun S op => FollowsPlan plan op ∧ RecoversUnderTakeover S op) S)
    (a : Uuid) : PhaseJournalIntegrity codec (plan a) (S.course a) ∧
      ∀ S', LeadsTo codec (fun S op => FollowsPlan plan op ∧ RecoversUnderTakeover S op) S S' →
        ∀ key e, S.loadPhaseEntry a key = some e → e.status = .committed →
          S'.loadPhaseEntry a key = some e ∧ S'.receiptRow a key = S.receiptRow a key := by
  have hinOrder : (S.course a).InOrder (plan a).orderedPhases := by
    refine LeadsTo.course_invariant (I := fun a C => C.InOrder (plan a).orderedPhases)
      (fun _ => Course.InOrder.empty) ?_ h a
    rintro S op a C ⟨hplan, hrecovers⟩ hC hstep
    refine hC.step hstep fun request hop ha => ⟨?_, fun hb => ?_⟩
    · rw [hplan request hop, ha]
    · rw [← ha]
      exact hrecovers request hop hb
  exact ⟨hinOrder.integrity (h.receipted a), fun _ hS' _ _ he hs => hS'.keeps_committed he hs⟩

namespace SecuritySample

variable {request : PhaseIntentRequest}

/-- A digest that tells apart what the samples need told apart. -/
def digest : SecurityPayload → EvidenceDigest
  | .phaseReceipt body => BitVec.ofNat 256
      (1000 + body.attemptId.toNat * 100 + body.phase.ctorIdx * 2 + body.branch.ctorIdx)
  | .phaseIntent payload => BitVec.ofNat 256 (100 + payload.phase.ctorIdx)
  | .authorizedOperation _ => 10
  | .resourceReservation _ => 11
  | .fenceLease _ => 12
  | .fenceAcquisitionReceipt _ => 13
  | .document _ => 14

def codec : Codec where
  sha256 := digest
  decodeSpec := fun _ => none
  decodeChain := fun _ => none
  encodeChain := fun _ => none
  chainVerified := fun _ => false

def project : ProjectId := ⟨"p", by decide +kernel⟩

def claim : AuthorizedDiskReservation where
  operationDigest := 10
  requiredBytes := 2
  availableBytes := 2
  emergencyReserveBytes := 1
  filesystemIdentity := 0
  observedAtMs := 0
  reservationDigest := 11

def authorization (a : Uuid) : ExecutorAuthorization where
  authorizationId := a
  digest := 10
  attemptId := a
  projectId := project
  expiresAtMs := 100
  diskReservation := some claim

/-- Artifacts that pass the check of their phase. -/
def artifacts : OperationPhase → PhaseArtifacts
  | .testing =>
    { sourceExportDigest := some 1, prefetchEvidenceDigest := some 1, ciEvidenceDigest := some 1
      buildContextDigest := some 1, resourceReservationDigest := some 11
      baseImageDigests := [1] }
  | .building =>
    { buildContextDigest := some 1, buildPlanDigest := some 1, imageDigest := some 1
      imageIdDigest := some 1, baseImageDigests := [1] }
  | .preflight => { resourceReservationDigest := some 11 }
  | .backingUp =>
    { sourceGateProofDigest := some 1, backupSetId := some 1, baseBackupId := some 1
      baseBackupManifestDigest := some 1, baseBackupEvidenceDigest := some 1
      baseBackupOffsiteEvidenceDigest := some 1, baseBackupVerificationDigest := some 1 }
  | .cutoverSnapshotting =>
    { backupSetId := some 1, cutoverBackupId := some 1, cutoverBackupManifestDigest := some 1
      cutoverBackupEvidenceDigest := some 1, cutoverBackupVerificationDigest := some 1
      fencingEpoch := some 1 }
  | .draining => { sourceGateProofDigest := some 1, drainEvidenceDigest := some 1 }
  | .migrating => { schemaVersion := some "1" }
  | .deploying => { deploymentPlanDigest := some 1, releaseBundleDigest := some 1 }
  | .healthChecking => { healthEvidenceDigest := some 1 }
  | _ => {}

/-- Begin a phase. -/
def start (a : Uuid) (plan : ExecutorPhasePlan) (key : PhaseKey) : SecurityOperation :=
  .beginPhaseIntent
    { attemptId := a, projectId := project, phase := key.phase, branch := key.branch
      phasePlan := plan, intentDigest := 1, authorizationDigest := 10, startedAtMs := 0 }

/-- The source gate of the base backup. -/
def gate (a : Uuid) (phase : OperationPhase) : List SecurityOperation :=
  if phase = .backingUp then
    [.recordSourceGateProof
      { attemptId := a, phase, proofDigest := 1, projectId := project, sourceSequence := 1
        attestationDigest := 1, checkedAtMs := 0 }]
  else []

/-- Begin a phase, observe it, verify it and commit it. -/
def execute (a : Uuid) (plan : ExecutorPhasePlan) (key : PhaseKey) : List SecurityOperation :=
  start a plan key :: gate a key.phase ++
    [.recordPhaseObservationInBranch
      { attemptId := a, phase := key.phase, branch := key.branch, observedIntentDigest := 1
        observationDigest := 1, artifacts := artifacts key.phase, observedAtMs := 0 },
    .markPhaseVerifiedInBranch a key.phase key.branch 0,
    .commitPhaseReceiptInBranch a key.phase key.branch 0]

def codeOnly : ExecutorPhasePlan := ⟨codeOnlyPhases, true⟩

theorem start_of_mem_execute {a : Uuid} {plan : ExecutorPhasePlan} {key : PhaseKey}
    (h : .beginPhaseIntent request ∈ execute a plan key) :
    request.phasePlan = plan ∧ request.branch = key.branch := by
  have hgate : .beginPhaseIntent request ∉ gate a key.phase := by
    unfold gate
    split <;> simp
  simp only [execute, start, List.mem_cons, List.mem_append, hgate, reduceCtorEq,
    List.not_mem_nil, or_false, SecurityOperation.beginPhaseIntent.injEq] at h
  rw [h]
  exact ⟨rfl, rfl⟩

/-- A deployment. -/
def deployment : List SecurityOperation :=
  .authorizeAttempt (authorization 1) 0 ::
    (codeOnlyPhases.take 7).flatMap fun phase => execute 1 codeOnly ⟨.primary, phase⟩

theorem start_of_mem_deployment (h : .beginPhaseIntent request ∈ deployment) :
    request.phasePlan = codeOnly ∧ request.branch = .primary := by
  simp only [deployment, List.mem_cons, List.mem_flatMap, reduceCtorEq, false_or] at h
  obtain ⟨phase, -, h⟩ := h
  exact start_of_mem_execute h

/-- The deployment, and then its recovery without a takeover. -/
def unsealed : SecurityStore :=
  runAll (step codec) empty (deployment ++ execute 1 codeOnly ⟨.rollbackRecovery, .rollback⟩)

/-- The run commits the recovery phase Rollback of an attempt that has no takeover. -/
theorem unsealed_recovery :
    ReachableBy codec (fun _ op => FollowsPlan (fun _ => codeOnly) op) unsealed ∧
      (unsealed.course 1).Committed ⟨.rollbackRecovery, .rollback⟩ ∧
      unsealed.takeover 1 = none := by
  refine ⟨reaches_runAll ?_ .init, mem_committedKeys.mp (by decide +kernel), by decide +kernel⟩
  rintro op hop request rfl
  rcases List.mem_append.mp hop with hop | hop
  · exact (start_of_mem_deployment hop).1
  · exact (start_of_mem_execute hop).1

/-- The deployment, taken over while its health is checked. -/
def takenOver : SecurityStore :=
  runAll (step codec) empty (deployment ++
    [start 1 codeOnly ⟨.primary, .healthChecking⟩, .beginRollbackTakeover 1 project 10 0])

theorem takenOver_reachable : ReachableBy codec
    (fun _ op => ∀ request, op = .beginPhaseIntent request →
      request.phasePlan = codeOnly ∧ request.branch = .primary) takenOver := by
  refine reaches_runAll ?_ .init
  rintro op hop request rfl
  rcases List.mem_append.mp hop with hop | hop
  · exact start_of_mem_deployment hop
  · simp only [start, List.mem_cons, reduceCtorEq, List.not_mem_nil, or_false,
      SecurityOperation.beginPhaseIntent.injEq] at hop
    rw [hop]
    exact ⟨rfl, rfl⟩

/-- The recovery begins under the takeover, with the sealed phase still under way. -/
theorem takenOver_integrity : ReachableBy codec
        (fun S op => FollowsPlan (fun _ => codeOnly) op ∧ RecoversUnderTakeover S op)
        (step codec (start 1 codeOnly ⟨.rollbackRecovery, .rollback⟩) takenOver) ∧
      PhaseJournalIntegrity codec codeOnly
        ((step codec (start 1 codeOnly ⟨.rollbackRecovery, .rollback⟩) takenOver).course 1) := by
  have hreach : ReachableBy codec
      (fun S op => FollowsPlan (fun _ => codeOnly) op ∧ RecoversUnderTakeover S op)
      (step codec (start 1 codeOnly ⟨.rollbackRecovery, .rollback⟩) takenOver) := by
    refine .next _ (takenOver_reachable.mono fun S op h => ⟨fun request hop => (h request hop).1,
      fun request hop hb => ?_⟩) ⟨?_, ?_⟩
    · rw [(h request hop).2] at hb
      cases hb
    · rintro request ⟨⟩
      rfl
    · rintro request ⟨⟩ -
      decide +kernel
  exact ⟨hreach, (phase_journal_integrity hreach 1).1⟩

end SecuritySample

end Rdashboard
