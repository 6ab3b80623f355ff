import Rdashboard.Security.Trust

/-! # The operations and the courses

An operation makes at most one of the changes of `CourseStep`, to the course of one attempt.
Each operation has its own lemma; `course_step` puts them together, and `course_cases` reads the
result from the side of an attempt. -/

namespace Rdashboard

open Relational Relational.Session Course TableRef Table List ExecutorPhaseBranch

namespace SecurityStore

variable {codec : Codec} {S S' : SecurityStore} {a b : Uuid} {key : PhaseKey}
  {branch : ExecutorPhaseBranch} {phase : OperationPhase} {p : ProjectId} {d : EvidenceDigest}
  {t : Int} {u : Unit} {e : PhaseJournalEntry} {proof : SourceGateProofRecord}

theorem idxOf?_spec {l : List OperationPhase} {n : Nat}
    (h : l.idxOf? phase = some n) : l[n]? = some phase := by
  obtain ⟨hn, he, -⟩ := findIdx?_eq_some_iff_getElem.mp h
  rw [getElem?_eq_getElem hn, eq_of_beq he]

theorem admits_of_prerequisites {plan : ExecutorPhasePlan}
    (h : S.requirePhasePrerequisites a key.phase key.branch plan = .ok ()) :
    (S.course a).Admits plan key := by
  obtain ⟨branch, phase⟩ := key
  simp only [requirePhasePrerequisites, Check.ok_iff] at h
  obtain ⟨_, ⟨-, hnodup, -⟩, takeover, htakeover, h⟩ := h
  obtain ⟨htakeover, -⟩ := loadRollbackTakeover_ok_iff.mp htakeover
  cases branch with
  | primary =>
    simp only [normalPhaseSets, Check.ok_iff] at h
    obtain ⟨_, rfl, _, ⟨n, hn, rfl⟩, hrequired, hallowed⟩ := h
    exact
      { nodup := hnodup
        unsealed := fun _ => htakeover
        primary := fun _ => ⟨n, idxOf?_spec hn, fun p hp => mem_committedKeys.mp (hrequired p hp),
          fun k hk => hallowed k (mem_committedKeys.mpr hk)⟩
        recovery := by rintro ⟨⟩ }
  | rollbackRecovery =>
    simp only [requireRollbackRecoveryPrerequisites, Check.ok_iff] at h
    obtain ⟨_, -, n, hn, _, -, _, hbefore, ⟨required, allowed⟩, hsets, hrequired, hallowed⟩ := h
    have hdeploying : OperationPhase.deploying ∈ plan.orderedPhases.take (n + 1) := by
      refine mem_of_getElem? (i := n) ?_
      rw [getElem?_take_of_lt (by omega), idxOf?_spec hn]
    refine
      { nodup := hnodup
        unsealed := by rintro ⟨⟩
        primary := by rintro ⟨⟩
        recovery := fun _ => ⟨mem_committedKeys.mp ?_, required, allowed, hsets,
          fun p hp => mem_committedKeys.mp (hrequired p hp), fun k hk hb => ?_⟩ }
    · exact decide_eq_true_eq.mp (all_eq_true.mp hbefore _ hdeploying)
    · rcases hallowed k (mem_committedKeys.mpr hk) with ⟨hb', -⟩ | ⟨-, hmem⟩
      · rw [hb] at hb'
        cases hb'
      · exact hmem

theorem free_of_no_conflict (h : S.hasUncommittedPhaseConflict a branch = .ok false) (k : PhaseKey)
    (hk : (S.course a).Pending k) : (S.course a).Ignores branch k := by
  simp only [hasUncommittedPhaseConflict, Check.ok_iff] at h
  obtain ⟨ignored, hignored, hnone⟩ := h
  have hk' : some k = ignored := by
    simpa using any_eq_false.mp hnone k (mem_uncommittedKeys.mpr hk)
  subst hk'
  cases branch with
  | primary => cases hignored
  | rollbackRecovery =>
    simp only [ignoredForwardPhase] at hignored
    cases ht : S.loadRollbackTakeover a with
    | error e =>
      rw [ht] at hignored
      cases hignored
    | ok o =>
      rw [ht] at hignored
      cases o with
      | none => cases hignored
      | some t =>
        refine ⟨rfl, t, (loadRollbackTakeover_ok_iff.mp ht).1, ?_⟩
        exact (Option.some.inj (Except.ok.inj hignored)).symm

theorem beginPhaseIntent_proceeds {request : PhaseIntentRequest} :
    Runs codec S (.beginPhaseIntent request) := by
  refine final_lift (.same rfl) fun key hkey => final_transaction (.same rfl) fun entry S' h => ?_
  obtain ⟨rfl, -⟩ := storageKey_ok_iff.mp hkey
  simp only [beginPhaseIntentTransaction, Txn.ok_iff] at h
  obtain ⟨_, -, _, hpre, existing, hload, h⟩ := h
  have hadmits : (S.course request.attemptId).Admits request.phasePlan
      ⟨request.branch, request.phase⟩ := admits_of_prerequisites hpre
  cases existing with
  | some existing =>
    simp only [replayPhaseIntent, Txn.ok_iff, Txn.ite_ok_iff] at h
    rcases h with ⟨-, -, rfl⟩ | ⟨-, _, _, h, -, rfl⟩
    · exact .same rfl
    · obtain ⟨e, he, hs, hturns⟩ := markPhaseNeedsReconcile_turns h
      exact .turn (.move he (.ambiguate hs) hadmits.unsealed) hturns
  | none =>
    simp only [insert_ok_iff, Txn.ok_iff] at h
    obtain ⟨_, hconflict, _, rfl, _, _, ⟨-, t, hinsert, rfl⟩, -, rfl⟩ := h
    exact .turn (.intend rfl rfl hadmits hload (free_of_no_conflict hconflict))
      (turns_insert (fun e C => { C with entries := e }) phases_by_slot hinsert (fun _ => rfl)
        fun _ => rfl)

theorem recordPhaseObservation_proceeds {request : PhaseObservationRequest} :
    Runs codec S (.recordPhaseObservationInBranch request) := by
  refine final_lift (.same rfl) fun key hkey => final_transaction (.same rfl) fun _ S' h => ?_
  obtain ⟨rfl, -⟩ := storageKey_ok_iff.mp hkey
  simp only [recordPhaseObservationTransaction, Txn.ok_iff, Txn.ite_ok_iff] at h
  obtain ⟨_, hopen, _, rfl, e, he, h⟩ := h
  have ho := requireBranchNotTakenOver_ok_iff.mp hopen
  rcases h with ⟨-, -, rfl⟩ | ⟨hn, ⟨-, h⟩ | ⟨-, _, hvalid, h⟩⟩
  · exact .same rfl
  · simp only [recordForeignObservation, Txn.ok_iff, update_ok_iff] at h
    obtain ⟨_, hs, _, _, ⟨t, hupdate, -, rfl⟩, _, -, -, rfl⟩ := h
    exact .turn (.move he (.misobserve hs hn) ho) (turns_update_entry hupdate
      (fun _ hr => (Bool.and_eq_true_iff.mp hr).1) he fun hr => by simpa using ⟨hr, hs⟩)
  · simp only [recordOwnObservation, Txn.ok_iff, Txn.ite_ok_iff, update_ok_iff] at h
    rcases h with ⟨hs, _, _, ⟨t, hupdate, -, rfl⟩, -, rfl⟩ | ⟨-, ⟨-, -, rfl⟩ | ⟨-, h⟩⟩
    · have hv : request.artifacts.validateForPhase request.phase = .ok () := by
        simp only [validateObservation] at hvalid
        cases hv : request.artifacts.validateForPhase request.phase with
        | ok u => rfl
        | error e =>
          rw [hv] at hvalid
          cases hvalid
      exact .turn (.move he (.observe hs hv) ho) (turns_update_entry hupdate (fun _ hr => hr) he id)
    · exact .same rfl
    · obtain ⟨_, -, _, _, h, -, rfl⟩ := h
      obtain ⟨e, he, hs, hturns⟩ := markPhaseNeedsReconcile_turns h
      exact .turn (.move he (.ambiguate hs) ho) hturns

theorem markPhaseVerified_proceeds :
    Runs codec S (.markPhaseVerifiedInBranch a phase branch t) := by
  refine final_lift (.same rfl) fun key hkey => final_transaction (.same rfl) fun _ S' h => ?_
  simp only [markPhaseVerifiedTransaction, Txn.ok_iff] at h
  obtain ⟨_, hopen, _, rfl, e, he, h⟩ := h
  cases hs : e.status with
  | observed =>
    simp only [hs, Txn.ok_iff, update_ok_iff] at h
    obtain ⟨_, _, ⟨tbl, hupdate, -, rfl⟩, -, rfl⟩ := h
    exact .turn (.move he (.verify hs) (requireBranchNotTakenOver_ok_iff.mp hopen))
      (turns_update_entry hupdate (fun _ hr => hr) he id)
  | verified | committed =>
    simp only [hs, Txn.pure_ok_iff] at h
    exact .same (h.2 ▸ rfl)
  | intentPersisted | needsReconcile =>
    simp only [hs, Txn.throw_ok_iff] at h

theorem markPhaseNeedsReconcile_proceeds :
    Runs codec S (.markPhaseNeedsReconcileInBranch a phase branch t) := by
  refine final_lift (.same rfl) fun key hkey => final_transaction (.same rfl) fun _ S' h => ?_
  simp only [markPhaseNeedsReconcileTransaction, Txn.ok_iff] at h
  obtain ⟨_, hopen, h⟩ := h
  obtain ⟨e, he, hs, hturns⟩ := markPhaseNeedsReconcile_turns h
  exact .turn (.move he (.ambiguate hs) (requireBranchNotTakenOver_ok_iff.mp hopen)) hturns

theorem loadPhaseReceipt_none (h : S.loadPhaseReceipt codec a key = .ok none) :
    S.receiptRow a key = none := by
  unfold loadPhaseReceipt at h
  cases hr : S.receiptRow a key with
  | none => rfl
  | some row =>
    rw [hr] at h
    simp only [map_eq_pure_bind, Check.ok_iff] at h
    obtain ⟨_, -, ⟨⟩⟩ := h

theorem commitPhaseReceipt_proceeds :
    Runs codec S (.commitPhaseReceiptInBranch a phase branch t) := by
  refine final_lift (.same rfl) fun key hkey => final_transaction (.same rfl) fun _ S' h => ?_
  simp only [commitPhaseReceiptTransaction, Txn.ok_iff] at h
  obtain ⟨_, hopen, existing, hload, h⟩ := h
  cases existing with
  | some receipt =>
    obtain ⟨-, rfl⟩ := Txn.pure_ok_iff.mp h
    exact .same rfl
  | none =>
    simp only [commitNewReceipt, Txn.ok_iff, insert_ok_iff, update_ok_iff] at h
    obtain ⟨_, rfl, e, he, _, hs, d, hd, _, S₁, h₁, _, S₂,
      h₂, _, _, ⟨-, tr, hinsert, rfl⟩, _, _, ⟨tp, hupdate, -, rfl⟩, -, rfl⟩ := h
    -- the bootstrap ledger and the backup boundary are not part of any course
    have hcourse : S₂.course = S.course :=
      (closeBackupBoundaryIfNeeded_keeps (.of_ignored fun _ _ => rfl) _ _ _ _ _ _ h₂).trans
        (commitBootstrapLedgerIfNeeded_keeps (fun _ _ => rfl) _ _ _ _ _ _ _ h₁)
    have he₂ : S₂.loadPhaseEntry a key = some e :=
      (congrArg (fun C => (C a).entries key) hcourse).trans he
    have hstep : CourseStep codec a (.commitPhaseReceiptInBranch a phase branch t) (S.course a) _ :=
      .commit (t := t) he hs hd (loadPhaseReceipt_none hload)
        (requireBranchNotTakenOver_ok_iff.mp hopen)
    refine .turn hstep ?_
    have hreceipt : Turns S₂ { S₂ with receipts := tr } a
        ((S₂.course a).setReceipt key (committedRow codec a key e d t)) :=
      turns_insert (fun e C => { C with receipts := e }) receipts_by_slot hinsert (fun _ => rfl)
        fun _ => rfl
    have hentry := hreceipt.trans (turns_update_entry hupdate (fun _ hr => hr) he₂ id)
    rw [Turns, hreceipt.self, hcourse] at hentry
    exact hentry

theorem recordSourceGateProof_proceeds : Runs codec S (.recordSourceGateProof proof) := by
  obtain ⟨r, houtcome⟩ := record_outcome codec proof S
  unfold Runs
  generalize step codec (.recordSourceGateProof proof) S = S' at houtcome ⊢
  cases houtcome with
  | fail => exact .same rfl
  | reject he hs hrow hS' hturns => exact .turn (.reject he hs hrow) hturns
  | replay => exact .same rfl
  | accept hadvances hrows hS' htrusted => exact .same (by rw [hS']; rfl)

/-- What `compensate_source_gate_rejection` has found when it succeeds, and what it has written. -/
theorem compensateSourceGateRejection_ok
    (h : compensateSourceGateRejection a p phase branch d t S = (.ok u, S')) :
    ∃ e r phases rejections, S.loadPhaseEntry a ⟨branch, phase⟩ = some e ∧
      e.status = .needsReconcile ∧ e.observationDigest = none ∧
      e.artifacts = PhaseArtifacts.default ∧ S.rejection a ⟨branch, phase⟩ = some r ∧
      r.state = .abortPending ∧ S.receiptRow a ⟨branch, phase⟩ = none ∧ (S.course a).Open branch ∧
      S' = { S with proofs := S.proofs.delete fun r => r.attemptId = a && r.phase = phase
                    phases, rejections } ∧
      Turns S S' a (((S.course a).setEntry ⟨branch, phase⟩
        { e with status := .intentPersisted, updatedAtMs := t }).setRejection ⟨branch, phase⟩
          { r with state := .compensated, compensatedAtMs := some t }) := by
  simp only [compensateSourceGateRejection, bind_ok_iff, ensure_ok_iff,
    lift_ok_iff, immediateTransaction_ok_iff] at h
  obtain ⟨_, _, ⟨-, rfl⟩, key, _, ⟨hkey, rfl⟩, h⟩ := h
  obtain ⟨rfl, -⟩ := storageKey_ok_iff.mp hkey
  simp only [compensateSourceGateRejectionTransaction, Txn.ok_iff, update_ok_iff] at h
  obtain ⟨_, hopen, _, rfl, e, he, _, ⟨-, -, hs, hd, hartifacts⟩, _, rfl, r, hr, _, ⟨-, hp⟩, _, rfl,
    _, hreceipt, _, _, ⟨-, rfl⟩, _, _, ⟨t₁, hphases, -, rfl⟩, _, -, _, _,
    ⟨t₂, hrejections, -, rfl⟩, -, rfl⟩ := h
  refine ⟨e, r, t₁, t₂, he, hs, hd, hartifacts, hr, hp, hreceipt,
    requireBranchNotTakenOver_ok_iff.mp hopen, rfl, ?_⟩
  have hentry := turns_update_entry hphases (fun _ hr => (Bool.and_eq_true_iff.mp hr).1) he
    fun hr => by simpa using ⟨hr, hs⟩
  have hrslot : ∀ r : SourceGateRejectionRow,
      (decide (r.attemptId = a) && decide (r.key = ⟨branch, phase⟩) &&
        decide (r.state = .abortPending)) = true → r.slot = (a, ⟨branch, phase⟩) := by
    intro r hr
    simp only [where_iff] at hr
    exact Prod.ext hr.1.1 hr.1.2
  have hpr : (decide (r.attemptId = a) && decide (r.key = ⟨branch, phase⟩) &&
      decide (r.state = .abortPending)) = true := by
    obtain ⟨ha, hk⟩ := Prod.ext_iff.mp (key_of_lookup hr)
    have ha : r.attemptId = a := ha
    have hk : r.key = ⟨branch, phase⟩ := hk
    simp [ha, hk, hp]
  have hboth := hentry.trans
    (turns_update_rejection hrejections (fun r hr => ⟨hrslot r hr, hrslot r hr⟩) hr hpr)
  rw [hentry.self] at hboth
  exact hboth

theorem compensateSourceGateRejection_atomic (a : Uuid) (p : ProjectId) (phase : OperationPhase)
    (branch : ExecutorPhaseBranch) (d : EvidenceDigest) (t : Int) :
    (compensateSourceGateRejection a p phase branch d t).Atomic :=
  atomic_ensure (atomic_lift fun _ => atomic_transaction _)

theorem compensateSourceGateRejection_proceeds :
    Runs codec S (.compensateSourceGateRejection a p phase branch d t) := by
  refine (compensateSourceGateRejection_atomic a p phase branch d t).final (.same rfl)
    fun _ S' h => ?_
  obtain ⟨e, r, _, _, he, hs, hd, hartifacts, hr, hp, hreceipt, hopen, -, hturns⟩ :=
    compensateSourceGateRejection_ok h
  exact .turn (.compensate he hs hd hartifacts hr hp hreceipt hopen) hturns

/-- The entry that a takeover seals, and that no other primary phase is under way. -/
theorem rollbackForwardEntry_spec (h : S.rollbackForwardEntry a p = .ok e) :
    S.loadPhaseEntry a ⟨.primary, e.key.phase⟩ = some e ∧
      ∀ phase, (S.course a).Pending ⟨.primary, phase⟩ → phase = e.key.phase := by
  have hload : ∀ e ∈ S.phases.rows, e.attemptId = a → e.key.branch = .primary →
      S.loadPhaseEntry a ⟨.primary, e.key.phase⟩ = some e := by
    intro e hmem ha hb
    rw [← hb, ← ha]
    exact lookup_of_mem phases_by_slot hmem
  have hpending : ∀ phase, (S.course a).Pending ⟨.primary, phase⟩ → ∃ r ∈ S.phases.rows.filter
      (fun r => r.attemptId = a && r.status ≠ .committed && r.key.branch = .primary),
      r.key.phase = phase := by
    rintro phase ⟨r, hr, hs⟩
    obtain ⟨ha, hkey⟩ := loadPhaseEntry_spec hr
    refine ⟨r, mem_filter.mpr ⟨mem_of_lookup hr, ?_⟩, by rw [hkey]⟩
    simp [ha, hkey, hs]
  unfold rollbackForwardEntry at h
  split at h
  · rename_i row rest hrows
    simp only [Check.ok_iff] at h
    obtain ⟨_, ⟨rfl, -, -⟩, rfl⟩ := h
    have hrow : row ∈ S.phases.rows.filter
        (fun r => r.attemptId = a && r.status ≠ .committed && r.key.branch = .primary) := by
      rw [hrows]
      exact mem_singleton_self row
    obtain ⟨hmem, hrow⟩ := mem_filter.mp hrow
    simp only [where_iff] at hrow
    refine ⟨hload row hmem hrow.1.1 hrow.2, fun phase hphase => ?_⟩
    obtain ⟨r, hr, rfl⟩ := hpending phase hphase
    rw [hrows, mem_singleton] at hr
    rw [hr]
  · rename_i hrows
    obtain ⟨hmem, hrow⟩ := mem_filter.mp (argmax_mem (Check.require_ok_iff.mp h))
    simp only [where_iff] at hrow
    refine ⟨hload e hmem hrow.1.1.1 hrow.1.2, fun phase hphase => ?_⟩
    obtain ⟨r, hr, -⟩ := hpending phase hphase
    rw [hrows] at hr
    cases hr

theorem beginRollbackTakeover_proceeds : Runs codec S (.beginRollbackTakeover a p d t) := by
  refine final_transaction (.same rfl) fun takeover S' h => ?_
  simp only [beginRollbackTakeoverTransaction, Txn.ok_iff] at h
  obtain ⟨_, -, _, -, existing, hload, h⟩ := h
  cases existing with
  | some existing =>
    simp only [Txn.ok_iff] at h
    obtain ⟨_, -, -, rfl⟩ := h
    exact .same rfl
  | none =>
    simp only [storeRollbackTakeover, Txn.ok_iff, selectRollbackForwardSnapshot,
      insert_ok_iff, Check.ok_iff] at h
    obtain ⟨e, ⟨_, hforward, _, hp, _, hs, rfl⟩, _, S₁, ⟨-, tbl, hinsert, rfl⟩, _, -, -, rfl⟩ := h
    obtain ⟨he, hpending⟩ := rollbackForwardEntry_spec hforward
    exact .turn (.take (loadRollbackTakeover_ok_iff.mp hload).1 he hp hs hpending)
      (turns_insert_takeover hinsert)

theorem bindAuthorizedPhaseSpec_proceeds {binding : AuthorizedPhaseSpecBinding} :
    Runs codec S (.bindAuthorizedPhaseSpec binding) := by
  refine final_ensure (.same rfl) fun _ => final_lift (.same rfl) fun _ _ => final_lift (.same rfl)
      fun key hkey => final_transaction (.same rfl) fun _ S' h => ?_
  obtain ⟨rfl, -⟩ := storageKey_ok_iff.mp hkey
  simp only [bindAuthorizedPhaseSpecTransaction, Txn.ok_iff] at h
  obtain ⟨_, hopen, _, -, _, -, _, -, existing, hexisting, h⟩ := h
  cases existing with
  | some existing =>
    simp only [Txn.ok_iff] at h
    obtain ⟨_, -, -, rfl⟩ := h
    exact .same rfl
  | none =>
    simp only [insert_ok_iff, Txn.ok_iff] at h
    obtain ⟨_, _, ⟨-, t, hinsert, rfl⟩, -, rfl⟩ := h
    exact .turn (.bindSpec (requireBranchNotTakenOver_ok_iff.mp hopen) hexisting)
      (turns_insert (fun e C => { C with specs := e }) (Schema.separates_keyed _ _) hinsert
        (fun _ => rfl) fun _ => rfl)

theorem loadVerifiedBackupChain_none (h : S.loadVerifiedBackupChain codec a key = .ok none) :
    S.chainRow a key = none := by
  unfold loadVerifiedBackupChain at h
  cases hr : S.chainRow a key with
  | none => rfl
  | some row =>
    rw [hr] at h
    simp only [Check.ok_iff] at h
    obtain ⟨_, -, _, -, ⟨⟩⟩ := h

theorem bindVerifiedBackupChain_proceeds {binding : VerifiedBackupChainBinding} :
    Runs codec S (.bindVerifiedBackupChain binding) := by
  refine final_lift (.same rfl)
    fun prepared hprepared => final_transaction (.same rfl) fun _ S' h => ?_
  simp only [prepareVerifiedBackupChain, Check.ok_iff, storageKey_ok_iff] at hprepared
  obtain ⟨_, -, _, -, kind, hkind, _, -, _, -, _, -, key, ⟨hkey, hphase⟩, rfl⟩ := hprepared
  simp only [bindVerifiedBackupChainTransaction, Txn.ok_iff] at h
  obtain ⟨_, hopen, _, -, _, -, _, -, _, -, _, -, _, -, existing, hexisting, h⟩ := h
  cases existing with
  | some existing =>
    simp only [Txn.ok_iff] at h
    obtain ⟨_, -, -, rfl⟩ := h
    exact .same rfl
  | none =>
    simp only [insert_ok_iff, Txn.ok_iff] at h
    obtain ⟨_, _, ⟨-, t, hinsert, rfl⟩, -, rfl⟩ := h
    have ho : (S.course binding.attemptId).Open key.branch := by
      rw [hkey]
      exact requireBranchNotTakenOver_ok_iff.mp hopen
    have hb : key.branch = .primary := by
      rw [hkey]
      cases hb : binding.branch with
      | primary => rfl
      | rollbackRecovery =>
        rcases hphase hb with hp | hp | hp <;> rw [hp] at hkind <;> cases hkind
    exact .turn (.bindChain hb ho (loadVerifiedBackupChain_none hexisting))
      (turns_insert (fun e C => { C with chains := e }) (Schema.separates_keyed _ _) hinsert
        (fun _ => rfl) fun _ => rfl)

/-- Every operation makes at most one change to the courses of the attempts. -/
theorem course_step (op : SecurityOperation) (S : SecurityStore) :
    Proceeds codec op S (step codec op S) := by
  cases op with
  | beginRollbackTakeover => exact beginRollbackTakeover_proceeds
  | beginPhaseIntent => exact beginPhaseIntent_proceeds
  | bindAuthorizedPhaseSpec => exact bindAuthorizedPhaseSpec_proceeds
  | bindVerifiedBackupChain => exact bindVerifiedBackupChain_proceeds
  | recordSourceGateProof => exact recordSourceGateProof_proceeds
  | compensateSourceGateRejection => exact compensateSourceGateRejection_proceeds
  | recordPhaseObservationInBranch => exact recordPhaseObservation_proceeds
  | markPhaseVerifiedInBranch => exact markPhaseVerified_proceeds
  | markPhaseNeedsReconcileInBranch => exact markPhaseNeedsReconcile_proceeds
  | commitPhaseReceiptInBranch => exact commitPhaseReceipt_proceeds
  -- the other operations write no phase table
  | _ => exact .same (step_keeps _ (by (repeat' apply And.intro) <;> exact fun _ _ => rfl) S)

/-- What an operation does to the course of one attempt. -/
theorem course_cases (codec : Codec) (op : SecurityOperation) (S : SecurityStore) (a : Uuid) :
    (step codec op S).course a = S.course a ∨
      CourseStep codec a op (S.course a) ((step codec op S).course a) := by
  have hproceeds : Proceeds codec op S (step codec op S) := course_step op S
  rcases hproceeds with hsame | ⟨b, C, hC, hturns⟩
  · exact .inl (congrFun hsame a)
  by_cases hab : a = b
  · subst hab
    rw [hturns.self]
    exact .inr hC
  · exact .inl (hturns.other hab)

end SecurityStore

end Rdashboard
