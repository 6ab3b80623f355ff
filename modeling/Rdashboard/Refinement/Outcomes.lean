import Rdashboard.Refinement.Statements

/-! # What the functions of the scheduler do to an attempt

One lemma per function: a successful call has found what it checks, and has changed the view
of its attempt as the move of the same name says. -/

namespace Rdashboard

open Relational Journal Txn Attempt Table TableRef List

variable {sha256 : Sha256} {J J' : Journal sha256} {a : Uuid} {A : Attempt sha256}
variable {c : Nat} {q : LeaseRow sha256 → Bool} {k : WorkflowNodeId} {i : Uuid} {t : Int} {u : Unit}

/-! ### Single statements -/

section Single

variable {p q : AttemptRow → Bool} {f : AttemptRow → AttemptRow}

theorem updateNodes_ok {p q : NodeRow → Bool} {f : NodeRow → NodeRow}
    (h : (nodesT.update p f : Workflow sha256 Nat) J = .ok (c, J'))
    (hp : ∀ n, p n = (decide (n.attemptId = a) && q n)) (hf : ∀ n, (f n).fixed = n.fixed) :
    J.nodes.count p = c ∧ J.Acts J' a (·.setNodes q f) := by
  obtain ⟨t, ht, hc, rfl⟩ := update_ok_iff.mp h
  exact ⟨hc, acts_setNodes ht hp hf⟩

theorem updateLeases_ok {p q : LeaseRow sha256 → Bool} {f : LeaseRow sha256 → LeaseRow sha256}
    (h : (leasesT.update p f : Workflow sha256 Nat) J = .ok (c, J'))
    (hp : ∀ l ∈ J.leases.rows, p l = (decide (l.attemptId = a) && q l))
    (hf : ∀ l, (f l).key = l.key) : J.leases.count p = c ∧ J.Acts J' a (·.setLeases q f) := by
  obtain ⟨t, ht, hc, rfl⟩ := update_ok_iff.mp h
  exact ⟨hc, acts_setLeases ht hp hf⟩

theorem updateAttempt_ok (h : (attemptsT.update p f : Workflow sha256 Nat) J = .ok (c, J'))
    (hp : ∀ r, p r = (decide (r.attemptId = a) && q r)) (hf : ∀ r, (f r).fixed = r.fixed) :
    J.attempts.count p = c ∧ J.Acts J' a (·.setRow (assign q f)) := by
  obtain ⟨t, ht, hc, rfl⟩ := update_ok_iff.mp h
  exact ⟨hc, acts_setRow ht hp hf⟩

theorem updateRequest_ok {p q : RequestRow → Bool} {f : RequestRow → RequestRow}
    (h : (requestsT.update p f : Workflow sha256 Nat) J = .ok (c, J')) (hA : J.view a = some A)
    (hp : ∀ r, p r = (decide (r.requestId = A.row.requestId) && q r))
    (hf : ∀ r, (f r).fixed = r.fixed) :
    J.requests.count p = c ∧ J.Acts J' a (·.setRequest q f) := by
  obtain ⟨t, ht, hc, rfl⟩ := update_ok_iff.mp h
  exact ⟨hc, acts_setRequest ht hA hp hf⟩

theorem updateLock_ok {p : LockRow → Bool} {f : LockRow → LockRow}
    (h : (locksT.update p f : Workflow sha256 Nat) J = .ok (c, J'))
    (hp : ∀ k, p k = decide (k.attemptId = a)) (hf : ∀ k, (f k).attemptId = k.attemptId) :
    J.locks.count p = c ∧ J.Acts J' a (·.setLock f) := by
  obtain ⟨t, ht, hc, rfl⟩ := update_ok_iff.mp h
  exact ⟨hc, acts_setLock ht hp hf⟩

theorem updateAttempt_of
    (h : (attemptsT.update p f : Workflow sha256 Nat) J = .ok (c, J')) (hA : J.view a = some A)
    (hq : q A.row = true) (hp : ∀ r, p r = (decide (r.attemptId = a) && q r))
    (hf : ∀ r, (f r).fixed = r.fixed) : J.Acts J' a (·.setRow f) := by
  refine (updateAttempt_ok h hp hf).2.congr fun B hB => ?_
  cases hA.symm.trans hB
  rw [setRow, setRow, assign_of_pos f hq]

theorem updateAttempt_one
    (h : (attemptsT.update p f : Workflow sha256 Nat) J = .ok (c, J')) (hc : c = 1)
    (hA : J.view a = some A) (hp : ∀ r, p r = (decide (r.attemptId = a) && q r))
    (hf : ∀ r, (f r).fixed = r.fixed) : q A.row = true ∧ J.Acts J' a (·.setRow f) := by
  have hcount := (updateAttempt_ok h hp hf).1
  have hrow : J.attempts.lookup (·.attemptId) a = some A.row := attempt_of_view hA
  rw [hc, count_where attempts_by_id hp, hrow] at hcount
  replace hcount : q A.row = true := by simpa using hcount
  exact ⟨hcount, updateAttempt_of h hA hcount hp hf⟩

theorem appendTransition_ok {subject : TransitionSubject} {fromState : Option TransitionState}
    {toState : TransitionState} {reason : TransitionReason} {digest : Option EvidenceDigest}
    (h : appendTransition a subject fromState toState reason digest t J = .ok (u, J')) (b : Uuid) :
    J.Acts J' b id := by
  simp only [appendTransition, ok_iff] at h
  obtain ⟨current, -, h⟩ := h
  obtain ⟨-, t, -, rfl⟩ := insert_ok_iff.mp h
  exact acts_of_view_eq (fun hJ => { hJ with }) rfl

end Single

/-! ### How an attempt moves on -/

section Outcome

variable {c : WorkflowCleanupResultV1}

theorem revokeWork_ok (h : revokeWork a t J = .ok (u, J')) : J.Acts J' a (·.revokeWork t) := by
  simp only [revokeWork, ok_iff] at h
  obtain ⟨c, J₁, h₁, c', J₂, h₂, -, rfl⟩ := h
  exact (updateLeases_ok h₁ (fun _ _ => rfl) fun _ => rfl).2.trans
    (updateNodes_ok h₂ (fun _ => rfl) fun _ => rfl).2

theorem terminateRequest_ok (h : terminateRequest a t J = .ok (u, J')) (hA : J.view a = some A) :
    J.Acts J' a (·.terminateRequest t) := by
  simp only [terminateRequest, ok_iff] at h
  obtain ⟨requestId, rfl, c, J₂, h₂, hc, rfl⟩ := h
  exact (updateRequest_ok h₂ hA (fun r => by simp [attempt_of_view hA]) fun _ => rfl).2

theorem failTerminalWorkflow_ok
    (h : failTerminalWorkflow a c t J = .ok (u, J')) (hJ : J.Sound) (hA : J.view a = some A) :
    A.row.mutationState = .notStarted ∧ J.Acts J' a (·.failTerminal
        (if J.activeLeases a = 0 ∧ c = .complete then .complete else .pending) t) := by
  simp only [failTerminalWorkflow, ok_iff] at h
  obtain ⟨n, rfl, _, J₂, h₂, d, J₃, h₃, _, hd, h₄⟩ := h
  have a₂ := revokeWork_ok h₂
  have hA₂ := a₂.view hJ hA
  obtain ⟨hns, a₃⟩ := updateAttempt_one h₃ hd hA₂ (fun _ => rfl) fun _ => rfl
  have a₄ := terminateRequest_ok h₄ (a₃.view (a₂ hJ).1 hA₂)
  exact ⟨of_decide_eq_true hns, (a₂.trans a₃).trans a₄⟩

theorem markWorkflowNeedsReconcile_ok
    (h : markWorkflowNeedsReconcile a c t J = .ok (u, J')) (hA : J.view a = some A) :
    J.Acts J' a (·.markReconcile (if c = .complete then .complete else .pending) t) := by
  simp only [markWorkflowNeedsReconcile, ok_iff] at h
  obtain ⟨d, J₁, h₁, _, hd, d', J₃, h₃, hd', rfl⟩ := h
  obtain ⟨-, a₁⟩ := updateAttempt_one h₁ hd hA (fun _ => (Bool.and_true _).symm) fun _ => rfl
  obtain ⟨-, a₃⟩ := updateLock_ok h₃ (fun _ => rfl) fun _ => rfl
  cases c <;> exact a₁.trans a₃

theorem settleLeasedNode_ok {state : WorkflowNodeStateV1} {complete : Option Int → Option Int}
    (h : settleLeasedNode a k state complete J = .ok (u, J')) :
    J.Acts J' a (·.settleNode k state complete) := by
  simp only [settleLeasedNode, ok_iff] at h
  obtain ⟨d, J₁, h₁, hd, rfl⟩ := h
  exact (updateNodes_ok h₁ (fun _ => Bool.and_assoc _ _ _) fun _ => rfl).2

end Outcome

/-! ### Expiry -/

section Expiry

variable {l : LeaseRow sha256} {context : AttemptContext}

theorem expireMutationLease_ok
    (h : expireMutationLease a k t J = .ok (u, J')) (hJ : J.Sound) (hA : J.view a = some A) :
    J.Acts J' a fun A => (A.settleNode k .needsReconcile fun _ => some t).markReconcile
      .pending t := by
  simp only [expireMutationLease, ok_iff] at h
  obtain ⟨_, J₁, h₁, d, J₂, h₂, _, hd, d', J₄, h₄, hd', rfl⟩ := h
  have a₁ := settleLeasedNode_ok h₁
  obtain ⟨-, a₂⟩ := updateAttempt_one h₂ hd (a₁.view hJ hA) (fun _ => (Bool.and_true _).symm)
    fun _ => rfl
  obtain ⟨-, a₄⟩ := updateLock_ok h₄ (fun _ => rfl) fun _ => rfl
  exact (a₁.trans a₂).trans a₄

theorem expireAtDeadline_ok {digest : EvidenceDigest}
    (h : expireAtDeadline a k digest t J = .ok (u, J')) (hJ : J.Sound) (hA : J.view a = some A) :
    J.Acts J' a fun A => (A.settleNode k .failed fun _ => some t).failTerminal .pending t := by
  simp only [expireAtDeadline, bind_ok_iff] at h
  obtain ⟨_, J₁, h₁, _, J₂, h₂, h₃⟩ := h
  have a₁ := settleLeasedNode_ok h₁
  obtain ⟨-, a₂⟩ := failTerminalWorkflow_ok h₂ (a₁ hJ).1 (a₁.view hJ hA)
  exact ((a₁.trans a₂).trans (appendTransition_ok h₃ a)).congr fun B _ => by simp

theorem expireToReady_ok
    (h : expireToReady a k t J = .ok (u, J')) (hJ : J.Sound) (hA : J.view a = some A) :
    J.Acts J' a fun A => (A.settleNode k .ready id).setRow
      fun r => { r with cleanupState := .pending, updatedAtMs := t } := by
  simp only [expireToReady, ok_iff] at h
  obtain ⟨_, J₁, h₁, d, J₂, h₂, hd, rfl⟩ := h
  have a₁ := settleLeasedNode_ok h₁
  obtain ⟨-, a₂⟩ := updateAttempt_one h₂ hd (a₁.view hJ hA) (fun _ => (Bool.and_true _).symm)
    fun _ => rfl
  exact a₁.trans a₂

/-- A condition on the lease `i` is one on the leases of its attempt. -/
theorem lease_where (hl : J.lease i = some l) (ha : l.attemptId = a) : ∀ m ∈ J.leases.rows,
      (decide (m.leaseId = i) && q m) = (decide (m.attemptId = a) && (decide (m.leaseId = i) && q m)) := by
  intro m hm
  by_cases hid : m.leaseId = i
  · have : m = l := eq_of_key leases_by_id hm (mem_of_lookup hl)
      (hid.trans (key_of_lookup hl).symm)
    simp [this, ha]
  · simp [hid]

theorem closeLease_ok {state : LeaseState} {g : Option EvidenceDigest → Option EvidenceDigest}
    (h : (leasesT.update (fun m => m.leaseId = i && m.state = .active) fun m => { m with
      state, closedAtMs := some t, receiptDigest := g m.receiptDigest } : Workflow sha256 Nat)
      J = .ok (c, J')) (hc : c = 1) (hl : J.lease i = some l) (ha : l.attemptId = a) :
    l.state = .active ∧ J.Acts J' a (·.closeLease i state t g) := by
  obtain ⟨hcount, a₁⟩ := updateLeases_ok h (lease_where hl ha) fun _ => rfl
  obtain ⟨m, hm, hq⟩ := (count_where leases_by_id fun _ => rfl).mp (hcount.trans hc)
  cases hl.symm.trans hm
  exact ⟨of_decide_eq_true hq, a₁⟩

/-- The row of the attempt and its request agree on what is prepared. -/
structure Attempt.Consistent (A : Attempt sha256) : Prop where
  projectId : A.request.manifestJson.1.projectId = A.request.projectId
  policyDigest : A.request.manifestJson.1.workflowPolicyDigest sha256 = A.request.workflowPolicyDigest
  preparationKey : A.row.preparationKey = sha256 (.preparedRunKey
    { projectId := A.request.projectId
      sourceSha := A.request.sourceSha
      workflowPolicyDigest := A.request.workflowPolicyDigest })

theorem loadAttemptContext_ok_iff (hA : J.view a = some A) :
    loadAttemptContext a J = .ok (context, J') ↔
      J = J' ∧ context = .ofRows A.row A.request ∧ A.Consistent := by
  have hcheck := J.attempts.checked _ (mem_of_lookup (attempt_of_view hA))
  simp only [attemptSchema, where_iff] at hcheck
  have hrow : ((J.attempt a).bind fun row => (J.request row.requestId).map fun request =>
      (row, request)) = some (A.row, A.request) := by
    rw [attempt_of_view hA, Option.bind_some, request_of_view hA, Option.map_some]
  simp only [loadAttemptContext, ok_iff, readAttemptContextRow]
  constructor
  · rintro ⟨⟨row, request⟩, J₁, ⟨_, rfl, hread, rfl⟩, _, -, _, hpolicy,
      _, hkey, rfl, rfl⟩
    rw [hrow] at hread
    cases hread
    exact ⟨rfl, rfl, hpolicy.1, hpolicy.2, hkey⟩
  · rintro ⟨rfl, rfl, hc⟩
    exact ⟨(A.row, A.request), J, ⟨_, rfl, hrow, rfl⟩, (), ⟨hcheck.1.1.2, hcheck.1.2⟩,
      (), ⟨hc.projectId, hc.policyDigest⟩, (), hc.preparationKey, rfl, rfl⟩

theorem loadAttemptContext_ok
    (h : loadAttemptContext a J = .ok (context, J')) (hA : J.view a = some A) :
    J = J' ∧ context = .ofRows A.row A.request :=
  ⟨((loadAttemptContext_ok_iff hA).mp h).1, ((loadAttemptContext_ok_iff hA).mp h).2.1⟩

theorem executionDeadlineMs_ok {leasedAtMs deadline : Int} {timeout : Nat}
    (h : executionDeadlineMs leasedAtMs timeout = .ok deadline) :
    leasedAtMs + timeout ≤ i64Max ∧ deadline = leasedAtMs + timeout := by
  simp only [executionDeadlineMs, Check.ok_iff, Except.ok.injEq] at h
  obtain ⟨_, -, _, hmax, rfl⟩ := h
  exact ⟨hmax, rfl⟩

theorem expireOneLease_ok {e : LeaseEntry sha256}
    (h : expireOneLease t e.row J = .ok (u, J')) (hJ : J.Sound) (hA : J.view a = some A)
    (he : A.leases e.row.leaseId = some e)
    (hnode : ∀ n, A.nodes e.row.nodeId = some n → n.nodeKind = e.row.leaseJson.1.nodeKind) :
    A.ActiveLease e.row.leaseId e ∧ J.Acts J' a (·.expire e t) := by
  obtain ⟨hl, hatt, -⟩ := lease_of_view hA he
  simp only [expireOneLease, closeExpiredLease, ok_iff, ite_ok_iff] at h
  obtain ⟨_, -, _, rfl, n, hn, _, hs, _, J₅, ⟨d, _, h₅, hd, rfl⟩, context, J₆, h₆, deadline,
    hdeadline, h⟩ := h
  rw [hatt] at hn h₆ h
  rw [node_of_view hA] at hn
  rw [hnode n hn] at h
  obtain ⟨-, rfl⟩ := executionDeadlineMs_ok hdeadline
  obtain ⟨hactive, a₅⟩ := closeLease_ok (g := id) h₅ hd hl hatt
  have hA₅ := a₅.view hJ hA
  have hJ₅ := (a₅ hJ).1
  obtain ⟨rfl, rfl⟩ := loadAttemptContext_ok h₆ hA₅
  have hexpire : ∀ {F}, J.Acts J' a F → F A = A.expire e t → J.Acts J' a (·.expire e t) := by
    intro F hF heq
    refine hF.congr fun B hB => ?_
    cases hA.symm.trans hB
    exact heq
  refine ⟨⟨he, hactive⟩, ?_⟩
  rcases h with ⟨hex, _, J₈, h₈, h₉⟩ | ⟨hex, ⟨hdue, _, J₈, h₈, h₉⟩ | ⟨hdue, _, J₈, h₈, h₉⟩⟩
  · have hex' : A.exclusive e.row.leaseJson.1.nodeKind = true := hex
    refine hexpire
      ((a₅.trans (expireMutationLease_ok h₈ hJ₅ hA₅)).trans (appendTransition_ok h₉ a)) ?_
    rw [expire, if_pos hex']
    rfl
  · have hex' : A.exclusive e.row.leaseJson.1.nodeKind = false := Bool.eq_false_of_not_eq_true hex
    have a₈ := expireAtDeadline_ok h₈ hJ₅ hA₅
    refine hexpire ((a₅.trans a₈).trans (appendTransition_ok h₉ a)) ?_
    rw [expire, if_neg (by simp [hex']), if_pos ⟨hdue, hex'⟩]
    rfl
  · have hex' : A.exclusive e.row.leaseJson.1.nodeKind = false := Bool.eq_false_of_not_eq_true hex
    refine hexpire ((a₅.trans (expireToReady_ok h₈ hJ₅ hA₅)).trans (appendTransition_ok h₉ a)) ?_
    rw [expire, if_neg (by simp [hex']), if_neg fun hf => hdue hf.1]
    rfl

end Expiry

/-! ### Moving on -/

section Moving

variable {D : Discipline}

/-- Release the nodes `ks` one after another. -/
def Attempt.advanceAll (ks : List WorkflowNodeId) (A : Attempt sha256) : Attempt sha256 :=
  ks.foldl advance A

theorem advanceAll_fixed (ks : List WorkflowNodeId) (A : Attempt sha256) :
    (A.advanceAll ks).row = A.row ∧ (A.advanceAll ks).lock = A.lock ∧
      (A.advanceAll ks).request = A.request := by
  induction ks generalizing A with
  | nil => exact ⟨rfl, rfl, rfl⟩
  | cons k ks ih => exact ih (A.advance k)

/-- A node that waits for nothing but the loop of `advance_ready_nodes` is free to start. -/
theorem gated_of_unblocked {n : NodeRow} (hA : J.view a = some A) (hd : A.Declared)
    (hn : n ∈ J.nodes.rows) (ha : n.attemptId = a) (h : J.unblocked n = true) :
    A.Gated n.nodeId := by
  subst ha
  simp only [unblocked, Bool.and_eq_true, Bool.not_eq_true', any_eq_false,
    decide_eq_true_eq, not_and, Bool.not_eq_true] at h
  have hrow : A.nodes n.nodeId = some n := by
    rw [← node_of_view hA]
    exact lookup_of_mem nodes_by_key hn
  obtain ⟨m, hm, hid, -⟩ := hd.mem_of_node hrow
  intro d hdep
  have hdep' : d ∈ m.dependsOn := by rw [← hd.dependsOn m hm, hid]; exact hdep
  obtain ⟨x, hx, rfl⟩ := A.request.manifestJson.lawful.dependency m hm d hdep'
  obtain ⟨y, hy, -⟩ := hd.node_of_mem hx
  rw [← dependenciesOf_of_view hA, dependenciesOf, mem_sortIds, select, mem_map] at hdep
  obtain ⟨row, hrow, hrowd⟩ := hdep
  obtain ⟨hmem, hq⟩ := mem_filter.mp hrow
  simp only [where_iff] at hq
  have hnone := h.2 row hmem hq
  rw [hrowd, node_of_view hA, hy, Option.any_some, decide_eq_false_iff_not, not_not] at hnone
  rw [state, hy, Option.map_some, hnone]

/-- One round of `advance_ready_nodes`. -/
theorem advanceRound_ok {ready : List NodeRow}
    (h : each (releaseNode a) ready J = .ok (u, J')) (hJ : J.Sound) (hA : J.view a = some A)
    (hlaw : A.Lawful D) (hrun : A.row.state = .running) (hgated : ∀ n ∈ ready, A.Gated n.nodeId) :
    J.Acts J' a (·.advanceAll (ready.map (·.nodeId))) ∧
      Relation.ReflTransGen (Attempt.Step D) A (A.advanceAll (ready.map (·.nodeId))) := by
  induction ready generalizing J A with
  | nil =>
    obtain rfl := each_nil_ok_iff.mp h
    exact ⟨.refl, .refl⟩
  | cons n ready ih =>
    obtain ⟨J₁, hbody, hrest⟩ := each_cons_ok_iff.mp h
    simp only [releaseNode, ok_iff] at hbody
    obtain ⟨c, J₂, hupdate, -, rfl⟩ := hbody
    obtain ⟨-, a₁⟩ := updateNodes_ok hupdate (fun _ => Bool.and_assoc _ _ _) fun _ => rfl
    have hstep : Attempt.Step D A (A.advance n.nodeId) := .advance _ hrun (hgated n (by simp))
    obtain ⟨a₂, hsteps⟩ := ih hrest (a₁ hJ).1 (a₁.view hJ hA) (hstep.lawful hlaw) hrun fun m hm =>
      (hlaw.moves hstep).gated (hgated m (by simp [hm]))
    exact ⟨a₁.trans a₂, .head hstep hsteps⟩

theorem advanceLoop_ok {rounds : Nat}
    (h : advanceLoop a rounds J = .ok (u, J')) (hJ : J.Sound) (hA : J.view a = some A)
    (hlaw : A.Lawful D) (hrun : A.row.state = .running) :
    ∃ ks, J.Acts J' a (·.advanceAll ks) ∧
      Relation.ReflTransGen (Attempt.Step D) A (A.advanceAll ks) := by
  induction rounds generalizing J A with
  | zero =>
    obtain ⟨-, rfl⟩ := pure_ok_iff.mp h
    exact ⟨[], .refl, .refl⟩
  | succ rounds ih =>
    simp only [advanceLoop, ok_iff, ite_ok_iff] at h
    obtain ⟨ready, rfl, ⟨-, -, rfl⟩ | ⟨-, _, J₂, hround, hrest⟩⟩ := h
    · exact ⟨[], .refl, .refl⟩
    · obtain ⟨a₁, hs₁⟩ := advanceRound_ok hround hJ hA hlaw hrun fun n hn => by
        obtain ⟨hmem, hq⟩ := mem_filter.mp hn
        obtain ⟨hmem, ha⟩ := mem_filter.mp ((mem_insertionSort _).mp hmem)
        exact gated_of_unblocked hA hlaw.declared hmem (of_decide_eq_true ha) hq
      obtain ⟨ks, a₂, hs₂⟩ := ih hrest (a₁ hJ).1 (a₁.view hJ hA) (hlaw.of_steps hs₁)
        (by rw [(advanceAll_fixed _ A).1]; exact hrun)
      exact ⟨_, (a₁.trans a₂).congr fun B _ => (foldl_append ..).symm, by
        rw [advanceAll, foldl_append]; exact hs₁.trans hs₂⟩

theorem wakeAttempt_ok (h : wakeAttempt a t J = .ok (u, J'))
    (hA : J.view a = some A) (hw : A.row.state = .waitingForMutation) :
    J.Acts J' a (·.wake t) := by
  simp only [wakeAttempt, ok_iff] at h
  obtain ⟨c, J₁, h₁, c', J₂, h₂, -, rfl⟩ := h
  obtain ⟨-, a₁⟩ := updateAttempt_ok h₁ (fun _ => rfl) fun _ => rfl
  obtain ⟨-, a₂⟩ := updateNodes_ok h₂ (fun _ => Bool.and_assoc _ _ _) fun _ => rfl
  refine (a₁.trans a₂).congr fun B hB => ?_
  cases hA.symm.trans hB
  simp only [Function.comp_apply, setRow, assign, hw, decide_true, if_true, wake]

/-- The lock of a project is the lock of one of its attempts. -/
theorem lock_of_projectLock {k : LockRow} {p : ProjectId} (hJ : J.Sound)
    (h : J.projectLock p = some k) : ∃ A, J.view k.attemptId = some A ∧ A.lock = some k := by
  have hk := mem_of_lookup h
  obtain ⟨A, hA⟩ := hJ.view_isSome (hJ.lock k hk)
  exact ⟨A, hA, by rw [← attemptLock_of_view hA]; exact lookup_of_mem locks_by_attempt hk⟩

theorem projectLock_of_lock {k : LockRow} (hA : J.view a = some A) (hk : A.lock = some k) :
    J.projectLock k.projectId = some k := by
  rw [← attemptLock_of_view hA] at hk
  exact lookup_of_mem locks_by_project (mem_of_lookup hk)

theorem completeShadowWorkflow_ok
    (h : completeShadowWorkflow (.ofRows A.row A.request) t J = .ok (u, J')) (hJ : J.Sound)
    (hA : J.view a = some A) :
    A.row.mutationState = .notStarted ∧
      (∀ k n, A.nodes k = some n → n.state = shadowOutcome n.nodeKind) ∧ A.DebtFree ∧
      J.Acts J' a (·.completeShadow t) := by
  simp only [completeShadowWorkflow, ok_iff, AttemptContext.ofRows, attemptId_of_view hA] at h
  obtain ⟨_, J₁, hfirst, rows, rfl, _, hrows, c, hc, _, hdebt, c', -, _, -, d, J₈, h₈, _, hd, d', J₁₀, h₁₀, hd',
    rfl⟩ := h
  obtain ⟨⟨hmode, hns⟩, rfl⟩ := ensure_ok_iff.mp hfirst
  obtain ⟨-, a₈⟩ := updateAttempt_one h₈ hd hA (fun _ => Bool.and_assoc _ _ _) fun _ => rfl
  have hp : ∀ r : RequestRow, (decide (r.requestId = A.request.requestId) &&
      decide (r.operationKind = .shadow) && decide (r.state = .active)) =
      (decide (r.requestId = A.row.requestId) &&
        (decide (r.operationKind = .shadow) && decide (r.state = .active))) := by
    intro r
    rw [requestId_of_view hA, Bool.and_assoc]
  obtain ⟨-, a₁₀⟩ := updateRequest_ok h₁₀ (a₈.view hJ hA) hp fun _ => rfl
  refine ⟨hns, (forall_nodes_iff hA).mp fun n hn ha => ?_, ?_, ?_⟩
  · exact hrows n (mem_filter.mpr ⟨hn, by simp [ha]⟩)
  · exact (unresolvedCleanupCount_eq_zero_iff hA).mp (hc.trans hdebt)
  · refine (a₈.trans a₁₀).congr fun B hB => ?_
    cases hA.symm.trans hB
    have hq : (decide (A.request.operationKind = .shadow) && decide (A.request.state = .active)) =
        decide (A.request.state = .active) := by simp [hmode]
    simp only [Function.comp_apply, completeShadow, setRequest, setRow, assign, hq]
    rfl

/-- `completeWorkflow`, up to the attempts it wakes. -/
theorem completeWorkflow_ok (h : completeWorkflow a t J = .ok (u, J'))
    (hJ : J.Sound) (hA : J.view a = some A) :
    ∃ J₁ k, A.row.state = .running ∧ A.lock = some k ∧ k.state = .held ∧
      (∀ j n, A.nodes j = some n → n.activation = .always → n.state = .succeeded) ∧ A.DebtFree ∧
      J.Acts J₁ a (·.complete t) ∧ wakeWaitingAttempts t J₁ = .ok (u, J') := by
  simp only [completeWorkflow, ok_iff] at h
  obtain ⟨c, hc, c', hc', _, ⟨hzero, hdebt⟩, d, J₄, h₄, d', J₅, h₅, _,
    hd', _, J₇, h₇, d'', J₈, h₈, _, hd'', hwake⟩ := h
  obtain ⟨-, a₄⟩ := updateNodes_ok h₄ (fun _ => Bool.and_assoc _ _ _) fun _ => rfl
  have hA₄ := a₄.view hJ hA
  have hJ₄ := (a₄ hJ).1
  obtain ⟨hrun, a₅⟩ := updateAttempt_one h₅ hd' hA₄ (fun _ => rfl) fun _ => rfl
  have hA₅ := a₅.view hJ₄ hA₄
  have hJ₅ := (a₅ hJ₄).1
  have a₇ := terminateRequest_ok h₇ hA₅
  obtain ⟨hcount, rfl⟩ := delete_ok_iff.mp h₈
  obtain ⟨k, hk, hheld⟩ :=
    (count_where locks_by_attempt (k := a) fun _ => rfl).mp (hcount.trans hd'')
  have hatt : k.attemptId = a := key_of_lookup hk
  replace hk := (attemptLock_of_view (a₇.view hJ₅ hA₅)).symm.trans hk
  have a₈ := acts_releaseLock (p := fun k => k.attemptId = a && k.state = .held)
    (a₇.view hJ₅ hA₅) hk (by simp [hatt, of_decide_eq_true hheld]) fun k hk => by
      rw [Bool.and_eq_true, decide_eq_true_eq] at hk
      exact hk.1
  refine ⟨_, k, of_decide_eq_true hrun, hk, of_decide_eq_true hheld, ?_, ?_,
    ((a₄.trans a₅).trans a₇).trans a₈, hwake⟩
  · refine (forall_nodes_iff hA).mp fun n hn ha hact => ?_
    have := count_eq_zero_iff.mp (hc.trans hzero) n hn
    simpa [ha, hact] using this
  · exact (unresolvedCleanupCount_eq_zero_iff hA).mp (hc'.trans hdebt)

end Moving

end Rdashboard
