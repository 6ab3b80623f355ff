import Rdashboard.Refinement.Expiry
import Rdashboard.Refinement.Snapshots

/-! # Receipts and reductions along the journal

A receipt settles its node and then moves its attempt on; a cleanup receipt discharges one
obligation; a reduction settles the reduce node and then concludes its attempt. -/

namespace Rdashboard

open Relational Journal Txn Table Attempt WorkflowAttemptStateV1

variable {sha256 : Sha256} {D : Discipline} {J J' : Journal sha256} {a : Uuid}
  {A : Attempt sha256} {t : Int} {u : Unit}
variable {kind : WorkflowNodeKindV1}

/-! ### Node receipts -/

section NodeReceipts

variable {receipt : ValidNodeReceipt sha256}
variable {r : WorkflowNodeReceiptV1} {e : LeaseEntry sha256} {handoff : Bool}

theorem WorkflowNodeReceiptV1.of_matchesLease {lease : WorkflowLeaseV1}
    (h : r.matchesLease lease = true) : r.attemptId = lease.attemptId ∧
      r.nodeId = lease.nodeId ∧ r.nodeKind = lease.nodeKind := by
  simp only [matchesLease, where_iff] at h
  obtain ⟨⟨⟨⟨⟨⟨⟨⟨⟨⟨-, hatt⟩, -⟩, -⟩, -⟩, -⟩, hnode⟩, hkind⟩, -⟩, -⟩, -⟩ := h
  exact ⟨hatt, hnode, hkind⟩

/-- The active lease under which a receipt is made, in the attempt the receipt names. -/
theorem validateActiveReceiptLease_ok (hJ : J.Lawful D)
    (h : validateActiveReceiptLease receipt t J = .ok (u, J')) :
    J = J' ∧ ∃ A e, J.view receipt.1.attemptId = some A ∧ A.ActiveLease receipt.1.leaseId e ∧
      e.row.nodeId = receipt.1.nodeId ∧ receipt.1.matchesLease e.row.leaseJson.1 = true ∧
      e.row.leaseJson.1.leasedAtMs ≤ receipt.1.completedAtMs ∧ t < e.row.leaseJson.1.expiresAtMs := by
  simp only [validateActiveReceiptLease, ok_iff] at h
  obtain ⟨_, rfl, l, hl, _, hs, _, ⟨hmatch, hstart, -, hlate⟩, _, -, _, -, -, rfl⟩ := h
  obtain ⟨A, e, hA, he, rfl⟩ := hJ.sound.view_of_lease (mem_of_lookup hl)
  have hid : e.row.leaseId = receipt.1.leaseId := key_of_lookup hl
  have hcoherent := ((hJ.attempts _ A hA).evidenced.lease _ e he).coherent
  obtain ⟨hatt, hnode, -⟩ := WorkflowNodeReceiptV1.of_matchesLease hmatch
  rw [hid] at he
  exact ⟨rfl, A, e, by rw [hatt, ← hcoherent.attemptId]; exact hA, ⟨he, hs⟩,
    by rw [hnode, ← hcoherent.nodeId], hmatch, hstart, hlate⟩

theorem touchAttempt_ok (h : touchAttempt a t J = .ok (u, J')) : J.Acts J' a (·.touch t) := by
  simp only [touchAttempt, ok_iff] at h
  obtain ⟨c, J₁, h₁, -, rfl⟩ := h
  obtain ⟨-, a₁⟩ := updateAttempt_ok h₁ (fun _ => (Bool.and_true _).symm) fun _ => rfl
  exact a₁.congr fun B _ => rfl

theorem persistNodeReceipt_ok (h : persistNodeReceipt receipt t handoff J = .ok (u, J'))
    (hA : J.view receipt.1.attemptId = some A) (he : A.leases receipt.1.leaseId = some e) :
    A.receipts receipt.1.nodeId = none ∧ J.Acts J' receipt.1.attemptId
      (·.commit (newReceiptRow receipt t) (receiptTerminalNodeState receipt.1 handoff)) := by
  obtain ⟨hl, hatt, -⟩ := lease_of_view hA he
  simp only [persistNodeReceipt, ok_iff, ite_ok_iff] at h
  obtain ⟨_, J₁, h₁, c, J₂, h₂, _, hc, c', J₄, h₄, _, -, h⟩ := h
  obtain ⟨-, table, hinsert, rfl⟩ := TableRef.insert_ok_iff.mp h₁
  have a₁ := acts_addReceipt hinsert hl hatt.symm
  obtain ⟨-, a₂⟩ := closeLease_ok (g := fun _ => some receipt.1.receiptDigest) h₂ hc hl hatt
  obtain ⟨-, a₄⟩ := updateNodes_ok h₄ (fun _ => Bool.and_assoc _ _ _) fun _ => rfl
  have hfresh : A.receipts receipt.1.nodeId = none := by
    rw [← receipts_of_view hA]
    exact insert_fresh receipts_by_node hinsert
  refine ⟨hfresh, ?_⟩
  have a₁₄ := (a₁.trans a₂).trans a₄
  rcases h with ⟨hp, _, J₆, h₆, h₇⟩ | ⟨hp, h₇⟩
  · obtain ⟨-, a₆⟩ := updateAttempt_ok h₆ (fun _ => (Bool.and_true _).symm) fun _ => rfl
    refine ((a₁₄.trans a₆).trans (appendTransition_ok h₇ _)).congr fun B _ => ?_
    simp only [commit, newReceiptRow, hp]
    rfl
  · refine (a₁₄.trans (appendTransition_ok h₇ _)).congr fun B _ => ?_
    simp only [commit, newReceiptRow, hp]
    rfl

theorem persistNodeReceipt_proceeds (hJ : J.Lawful D)
    (hA : J.view receipt.1.attemptId = some A) (ha : A.ActiveLease receipt.1.leaseId e)
    (hnode : e.row.nodeId = receipt.1.nodeId)
    (hmatch : receipt.1.matchesLease e.row.leaseJson.1 = true)
    (hstart : e.row.leaseJson.1.leasedAtMs ≤ receipt.1.completedAtMs)
    (hrecorded : receipt.1.completedAtMs ≤ t) (hlate : t < e.row.leaseJson.1.expiresAtMs)
    (h : persistNodeReceipt receipt t handoff J = .ok (u, J')) :
    J.Proceeds D J' ∧ J'.view receipt.1.attemptId = some
      (A.commit (newReceiptRow receipt t) (receiptTerminalNodeState receipt.1 handoff)) := by
  obtain ⟨-, hatt, hid, -⟩ := lease_of_view hA ha.1
  obtain ⟨hfresh, hacts⟩ := persistNodeReceipt_ok h hA ha.1
  have hmade : (newReceiptRow receipt t).MadeUnder e.row :=
    ⟨hid.symm, hatt.symm, hnode.symm, rfl, hmatch, hstart, hrecorded, hlate⟩
  have hstep : Attempt.Step D A (A.commit (newReceiptRow receipt t)
      (receiptTerminalNodeState receipt.1 handoff)) := .commit _ handoff ha hmade hfresh
  refine ⟨.of_step hJ hacts hA hstep fun hk => hk, hacts.view hJ.sound hA⟩

theorem failWorkflow_proceeds {c : WorkflowCleanupResultV1} (hJ : J.Lawful D)
    (hA : J.view a = some A) (hrun : A.row.state = .running)
    (hex : (kind.isMutation || handoff) = true → A.row.mutationState = .owned ∧ A.Idle ∧
      ∃ k n, A.nodes k = some n ∧ A.exclusive n.nodeKind = true ∧ n.state = .needsReconcile)
    (hsettled : D.careful → c = .complete → A.Idle → A.DebtFree)
    (h : failWorkflow a kind c handoff t J = .ok (u, J')) : J.Proceeds D J' := by
  simp only [failWorkflow, ite_ok_iff] at h
  rcases h with ⟨hkind, h⟩ | ⟨-, h⟩
  · have hacts := markWorkflowNeedsReconcile_ok h hA
    obtain ⟨howned, hidle, k, n, hn, hnex, hs⟩ := hex hkind
    have hstep : Attempt.Step D A _ := .markReconcile (if c = .complete then .complete else .pending)
      t howned hidle hn hnex hs fun hD hc => hsettled hD (by
        by_contra hne
        rw [if_neg hne] at hc
        cases hc) hidle
    exact .of_step hJ hacts hA hstep (hstep.keeps_lock noConfusion)
  · obtain ⟨hns, hacts⟩ := failTerminalWorkflow_ok h hJ.sound hA
    have hstep : Attempt.Step D A _ := .failTerminal
      (if J.activeLeases a = 0 ∧ c = .complete then .complete else .pending) t hrun hns fun hD hc => by
        by_cases hboth : J.activeLeases a = 0 ∧ c = .complete
        · have hidle := (activeLeases_eq_zero_iff hA).mp hboth.1
          exact ⟨hidle, hsettled hD hboth.2 hidle⟩
        · rw [if_neg hboth] at hc
          cases hc
    exact .of_step hJ hacts hA hstep (hstep.keeps_lock noConfusion)

theorem advanceReadyNodes_proceeds (hJ : J.Lawful D) (hA : J.view a = some A)
    (hrun : A.row.state = .running) (h : advanceReadyNodes a J = .ok (u, J')) :
    J.Proceeds D J' := by
  simp only [advanceReadyNodes, ok_iff] at h
  obtain ⟨_, rfl, h⟩ := h
  obtain ⟨ks, hacts, hsteps⟩ := advanceLoop_ok h hJ.sound hA (hJ.attempts a A hA) hrun
  have hrest := advanceAll_fixed ks A
  refine ⟨.of_steps hJ hacts fun B hB => ?_, fun hatt => ?_⟩
  · cases hA.symm.trans hB
    exact hsteps
  · exact hatt.of_acts hJ.sound hacts hA (congrArg RequestRow.projectId hrest.2.2)
      (fun hk => by rw [hrest.2.1]; exact hk) fun hw => by rw [hrest.1] at hw; exact hw

/-- The attempt after one of its exclusive nodes has failed. -/
theorem Attempt.Lawful.commit_failed {r : ReceiptRow sha256}
    {state : WorkflowNodeStateV1} (h : A.Lawful D) (ha : A.ActiveLease r.leaseId e)
    (hnode : e.row.nodeId = r.nodeId) (hex : A.exclusive e.row.leaseJson.1.nodeKind = true)
    (hs : state = .needsReconcile) :
    (A.commit r state).row.mutationState = .owned ∧ (A.commit r state).Idle ∧
      ∃ k n, (A.commit r state).nodes k = some n ∧
        (A.commit r state).exclusive n.nodeKind = true ∧ n.state = .needsReconcile := by
  have hlease := h.evidenced.leaseId
  obtain ⟨n, hn, hns, hkind, -⟩ := h.active_node ha
  rw [← hkind] at hex
  refine ⟨?_, fun i e' he' => ?_, r.nodeId, ?_⟩
  · rw [← h.owned_of_active ha hn hex, commit]
    split <;> rfl
  · rcases leases_commit hlease ha he'.1 with ⟨-, -, hcommitted, -⟩ | ⟨hi, he⟩
    · cases hcommitted.symm.trans he'.2
    · exact hi (h.active_alone ha hn hex ⟨he, he'.2⟩)
  · subst hs
    rw [hnode] at hn
    exact ⟨_, nodes_setNodes_self hn (by simp [h.node_key hn, hns]), hex, rfl⟩

theorem applyNodeReceiptOutcome_proceeds
    (hJ : J.Lawful D) (hA : J.view r.attemptId = some A) (hrun : A.row.state = .running)
    (hex : r.outcome = .failed → (r.nodeKind.isMutation || handoff) = true →
      A.row.mutationState = .owned ∧ A.Idle ∧
      ∃ k n, A.nodes k = some n ∧ A.exclusive n.nodeKind = true ∧ n.state = .needsReconcile)
    (hsettled : D.careful → r.outcome = .failed → r.cleanupResult = .complete → A.Idle → A.DebtFree)
    (h : applyNodeReceiptOutcome r t handoff J = .ok (u, J')) : J.Proceeds D J' := by
  unfold applyNodeReceiptOutcome at h
  cases hr : r.outcome with
  | succeeded =>
    simp only [hr, ite_ok_iff, bind_ok_iff] at h
    rcases h with ⟨-, h⟩ | ⟨-, _, J₁, h₁, h₂⟩
    · exact completeWorkflow_proceeds hJ hA h
    · have hacts := touchAttempt_ok h₁
      have hp : J.Proceeds D J₁ := .of_step hJ hacts hA (.touch t) id
      exact hp.trans (advanceReadyNodes_proceeds hp.lawful (hacts.view hJ.sound hA) hrun h₂)
  | failed =>
    simp only [hr] at h
    exact failWorkflow_proceeds hJ hA hrun (hex hr) (fun hD => hsettled hD hr) h

end NodeReceipts

/-! ### The transaction of a node receipt -/

section Transaction

variable {receipt : ValidNodeReceipt sha256} {snapshot : WorkflowAttemptSnapshotV1}

theorem replayedNodeReceipt_ok {o : Option WorkflowAttemptSnapshotV1}
    (h : replayedNodeReceipt receipt J = .ok (o, J')) : J = J' := by
  simp only [replayedNodeReceipt, ok_iff] at h
  obtain ⟨_, rfl, h⟩ := h
  cases hr : J.nodeReceipt receipt.1.attemptId receipt.1.nodeId with
  | none =>
    simp only [hr, pure_ok_iff] at h
    exact h.2
  | some persisted =>
    simp only [hr, ok_iff] at h
    obtain ⟨_, -, _, J₃, hsnapshot, rfl, rfl⟩ := h
    exact loadAttemptSnapshot_ok hsnapshot

/-- The transaction of a node receipt; the last condition is what careful callers see to before
they report a failure with its cleanup complete. -/
theorem commitNodeReceiptTransaction_proceeds (hJ : J.Lawful D)
    (hrecorded : receipt.1.completedAtMs ≤ t)
    (hsettled : D.careful → receipt.1.outcome = .failed → receipt.1.cleanupResult = .complete →
      ∀ A, J.view receipt.1.attemptId = some A → (∃ e, A.ActiveLease receipt.1.leaseId e) →
        (∀ i e, A.ActiveLease i e → i = receipt.1.leaseId) → A.DebtFreeBut receipt.1.leaseId)
    (h : commitNodeReceiptTransaction receipt t J = .ok (snapshot, J')) : J.Proceeds D J' := by
  simp only [commitNodeReceiptTransaction, bind_ok_iff] at h
  obtain ⟨o, J₁, hreplay, h⟩ := h
  obtain rfl := replayedNodeReceipt_ok hreplay
  cases o with
  | some replayed =>
    obtain ⟨-, rfl⟩ := pure_ok_iff.mp h
    exact hJ.refl
  | none =>
    simp only [bind_ok_iff] at h
    obtain ⟨_, J₂, hvalid, context, J₃, hcontext, _, J₄, hpersist, _, J₅, happly, hsnapshot⟩ := h
    obtain ⟨rfl, A, e, hA, ha, hnode, hmatch, hstart, hlate⟩ := validateActiveReceiptLease_ok hJ hvalid
    obtain ⟨rfl, rfl⟩ := loadAttemptContext_ok hcontext hA
    obtain rfl := loadAttemptSnapshot_ok hsnapshot
    have hlaw := hJ.attempts _ A hA
    have hlease := hlaw.evidenced.leaseId
    obtain ⟨-, -, hkind⟩ := WorkflowNodeReceiptV1.of_matchesLease hmatch
    obtain ⟨hp, hB⟩ := persistNodeReceipt_proceeds hJ hA ha hnode hmatch hstart hrecorded hlate
      hpersist
    refine hp.trans (applyNodeReceiptOutcome_proceeds hp.lawful hB ?_ ?_ ?_ happly)
    · rw [← hlaw.standing.active _ e ha, commit]
      split <;> rfl
    · intro hfailed hmut
      have hex := hlaw.exclusive_of_active ha
      rw [← hkind] at hex
      refine hlaw.commit_failed ha hnode ?_ ?_
      · rw [← hkind, hex]; exact hmut
      · rw [receiptTerminalNodeState, hfailed]; exact if_pos hmut
    · intro hD hfailed hcomplete hidle
      refine (hsettled hD hfailed hcomplete A hA ⟨e, ha⟩ fun i f hf => ?_).commit hlease ha ?_
      · by_contra hi
        exact hidle i f ⟨by rw [leases_commit_of_ne hlease hi]; exact hf.1, hf.2⟩
      · exact fun hpending => by cases hcomplete.symm.trans hpending

end Transaction

/-! ### Cleanup receipts -/

section CleanupReceipts

variable {receipt : ValidCleanupReceipt sha256} {snapshot : WorkflowAttemptSnapshotV1}

theorem Attempt.DebtFreeBut.of_addCleanup {c : CleanupRow sha256} (h : (A.addCleanup c).DebtFree) :
    A.DebtFreeBut c.leaseId := by
  intro j e hj he
  have hadd : (A.addCleanup c).leases j = (some e).map fun e =>
      if j = c.leaseId then { e with cleanup := some c } else e := by
    rw [← he]; rfl
  rw [Option.map_some, if_neg hj] at hadd
  exact h j e hadd

theorem persistCleanupReceipt_proceeds (hJ : J.Lawful D)
    (h : persistCleanupReceipt receipt t J = .ok (snapshot, J')) : J.Proceeds D J' := by
  simp only [persistCleanupReceipt, ok_iff] at h
  obtain ⟨_, rfl, l, hl, _, -, _, hmatch, _, -, _,
    -, _, -, _, J₈, h₈, c, hc, d, J₁₀, h₁₀, _, hd, _, J₁₂,
    h₁₂, hsnapshot⟩ := h
  obtain rfl := loadAttemptSnapshot_ok hsnapshot
  obtain ⟨A, e, hA, he, rfl⟩ := hJ.sound.view_of_lease (mem_of_lookup hl)
  have hatt : receipt.1.attemptId = e.row.attemptId := by
    simp only [WorkflowCleanupReceiptV1.matchesLease, where_iff] at hmatch
    rw [hmatch.1.1.1.1.2, ((hJ.attempts _ A hA).evidenced.lease _ e he).coherent.attemptId]
  rw [hatt] at h₁₀ h₁₂ hc
  rw [show e.row.leaseId = receipt.1.leaseId from key_of_lookup hl] at he
  obtain ⟨-, table, hinsert, rfl⟩ := TableRef.insert_ok_iff.mp h₈
  have a₈ := acts_addCleanup hinsert hl
  have hA₈ := a₈.view hJ.sound hA
  obtain ⟨-, a₁₀⟩ := updateAttempt_one h₁₀ hd hA₈ (fun _ => (Bool.and_true _).symm) fun _ => rfl
  have hacts := (a₈.trans a₁₀).trans (appendTransition_ok h₁₂ e.row.attemptId)
  have hstep : Attempt.Step D A (A.settleCleanup (newCleanupRow receipt t)
      (if c = 0 then .complete else .pending) t) := by
    refine .settleCleanup _ _ _ he fun hcomplete => ?_
    have hzero : c = 0 := by
      by_contra hne
      rw [if_neg hne] at hcomplete
      cases hcomplete
    exact .of_addCleanup ((unresolvedCleanupCount_eq_zero_iff hA₈).mp (hc.trans hzero))
  exact .of_step hJ hacts hA hstep fun hk => hk

theorem commitCleanupReceiptTransaction_proceeds (hJ : J.Lawful D)
    (h : commitCleanupReceiptTransaction receipt t J = .ok (snapshot, J')) : J.Proceeds D J' := by
  simp only [commitCleanupReceiptTransaction, ok_iff] at h
  obtain ⟨_, rfl, h⟩ := h
  cases hr : J.leaseCleanup receipt.1.leaseId with
  | none =>
    simp only [hr] at h
    exact persistCleanupReceipt_proceeds hJ h
  | some persisted =>
    simp only [hr, ok_iff] at h
    obtain ⟨_, -, hsnapshot⟩ := h
    obtain rfl := loadAttemptSnapshot_ok hsnapshot
    exact hJ.refl

end CleanupReceipts

/-! ### Reductions -/

section Reductions

variable {reduction : ValidReductionReceipt sha256} {m : WorkflowNodeV1}

theorem persistReduction_ok (h : persistReduction a m reduction t J = .ok (u, J')) :
    J.Acts J' a (·.reduce (newReductionRow a m reduction t)) := by
  simp only [persistReduction, ok_iff] at h
  obtain ⟨_, J₁, h₁, c, J₂, h₂, _, hc, _, J₄, h₄, h₅⟩ := h
  obtain ⟨hforeign, table, hinsert, rfl⟩ := TableRef.insert_ok_iff.mp h₁
  rw [Bool.and_eq_true] at hforeign
  have a₁ := acts_addReduction hinsert hforeign.1
  obtain ⟨-, a₂⟩ := updateNodes_ok h₂ (fun _ => Bool.and_assoc _ _ _) fun _ => rfl
  exact ((a₁.trans a₂).trans (touchAttempt_ok h₄)).trans (appendTransition_ok h₅ a)

theorem concludeReduction_proceeds (hJ : J.Lawful D) (hA : J.view a = some A)
    (hrun : A.row.state = .running)
    (h : concludeReduction (.ofRows A.row A.request) t J = .ok (u, J')) : J.Proceeds D J' := by
  simp only [concludeReduction, ite_ok_iff] at h
  rcases h with ⟨-, h⟩ | ⟨-, ⟨-, h⟩ | ⟨-, h⟩⟩
  · obtain ⟨hns, hdone, hdebt, hacts⟩ := completeShadowWorkflow_ok h hJ.sound hA
    exact .of_step hJ hacts hA (.completeShadow t hrun hns hdone hdebt) fun hk => hk
  · rw [AttemptContext.ofRows, attemptId_of_view hA] at h
    exact completeWorkflow_proceeds hJ hA h
  · rw [AttemptContext.ofRows, attemptId_of_view hA] at h
    exact advanceReadyNodes_proceeds hJ hA hrun h

theorem reduceReadyAttempt_proceeds (hJ : J.Lawful D) (hA : J.view a = some A)
    (hm : m ∈ A.policy.nodes) (hkind : m.kind = .deterministicReduce)
    (h : reduceReadyAttempt (.ofRows A.row A.request) m t J = .ok (reduction, J')) :
    J.Proceeds D J' := by
  simp only [reduceReadyAttempt, ok_iff] at h
  obtain ⟨_, rfl, n, hn, _, hready, _, rfl, collected, -, _, -, r, -, _, J₈, hpersist, _, J₉,
    hconclude, -, rfl⟩ := h
  rw [show (AttemptContext.ofRows A.row A.request).attemptId = a from attemptId_of_view hA]
    at hn hpersist
  rw [node_of_view hA] at hn
  obtain ⟨n', hn', hnk⟩ := (hJ.attempts a A hA).declared.node_of_mem hm
  cases hn.symm.trans hn'
  have hacts := persistReduction_ok hpersist
  have hrun := (hJ.attempts a A hA).running_of_reducible hn (hnk.trans hkind) hready
  have hp : J.Proceeds D J₈ := .of_step hJ hacts hA
    (.reduce _ hn (hnk.trans hkind) hready) fun hk => hk
  exact hp.trans (concludeReduction_proceeds hp.lawful (hacts.view hJ.sound hA) hrun hconclude)

theorem reduceAttemptTransaction_proceeds (hJ : J.Lawful D)
    (h : reduceAttemptTransaction a t J = .ok (reduction, J')) : J.Proceeds D J' := by
  simp only [reduceAttemptTransaction, ok_iff] at h
  obtain ⟨context, J₁, hcontext, m, hm, _, rfl, h⟩ := h
  obtain ⟨A, hA⟩ : ∃ A, J.view a = some A := by
    refine hJ.sound.view_isSome ?_
    simp only [loadAttemptContext, ok_iff, readAttemptContextRow] at hcontext
    obtain ⟨_, _, ⟨_, rfl, hrow, -⟩, -⟩ := hcontext
    obtain ⟨row, hrow, -⟩ := Option.bind_eq_some_iff.mp hrow
    rw [hrow]; rfl
  obtain ⟨rfl, rfl⟩ := loadAttemptContext_ok hcontext hA
  have hmem := List.mem_of_find?_eq_some hm
  have hkind : m.kind = .deterministicReduce := by simpa using List.find?_some hm
  cases hr : J.reduction a with
  | none =>
    simp only [hr] at h
    exact reduceReadyAttempt_proceeds hJ hA hmem hkind h
  | some persisted =>
    simp only [hr, ok_iff, validatePersistedReduction] at h
    obtain ⟨_, -, _, -, _, -, _, -, _, -, -, rfl⟩ := h
    exact hJ.refl

end Reductions

end Rdashboard
