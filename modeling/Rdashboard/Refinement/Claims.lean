import Rdashboard.Refinement.Receipts

/-! # Claims along the journal

A candidate presents a ready node of an attempt to a worker.  Claiming it may take the mutation
lock of its project and bind the attempt's operation state, and grants a lease on the node. -/

namespace Rdashboard

open Relational Journal Txn List Table WorkflowWorkerPoolV1 TableRef

variable {sha256 : Sha256} {D : Discipline} {J J' : Journal sha256} {a : Uuid}
  {A : Attempt sha256} {t : Int} {u : Unit} {worker : WorkflowWorkerRegistrationV1}
variable {duration : Int} {state : Option WorkflowOperationStateV1}

/-! ### Candidates -/

/-- A candidate for `worker` that presents a ready node of the attempt. -/
structure Attempt.Presents (A : Attempt sha256) (worker : WorkflowWorkerRegistrationV1)
    (c : ReadyCandidate) : Prop where
  attemptId : c.attemptId = A.row.attemptId
  requestId : c.requestId = A.request.requestId
  projectId : c.projectId = A.request.projectId
  sourceSha : c.sourceSha = A.request.sourceSha
  workflowPolicyDigest : c.workflowPolicyDigest = A.request.workflowPolicyDigest
  preparationKey : c.preparationKey = A.row.preparationKey
  executionMode : c.executionMode = A.request.operationKind
  manifest : c.manifest = A.request.manifestJson
  node : A.policy.node c.node.nodeId = some c.node
  profile : A.policy.profile c.node.profileId = some c.profile
  row : ∃ n, A.nodes c.node.nodeId = some n ∧ n.state = .ready ∧ n.nodeKind = c.node.kind ∧
    n.leaseGeneration = c.leaseGeneration
  kind : c.node.kind ≠ .deterministicReduce
  live : A.row.state = .queued ∨ A.row.state = .running
  pool : c.profile.workerPool ∈ worker.pools
  feeds : A.FeedsRelease c.node.nodeId → vpsRequired ∈ worker.pools

/-- Every candidate presents a ready node of its attempt. -/
def Journal.Offers (J : Journal sha256) (worker : WorkflowWorkerRegistrationV1)
    (cs : List ReadyCandidate) : Prop :=
  ∀ c ∈ cs, ∃ A, J.view c.attemptId = some A ∧ A.Presents worker c

section Candidates

variable {c : ReadyCandidate}
variable {row : CandidateRow}

theorem candidateRow_eq_some {n : NodeRow}
    (h : J.candidateRow n = some row) : row.node = n ∧ J.attempt n.attemptId = some row.attempt ∧
      J.request row.attempt.requestId = some row.request ∧ n.state = .ready ∧
      n.nodeKind ≠ .deterministicReduce ∧
      (row.attempt.state = .queued ∨ row.attempt.state = .running) := by
  obtain ⟨attempt, hattempt, h⟩ := Option.bind_eq_some_iff.mp h
  obtain ⟨request, hrequest, h⟩ := Option.bind_eq_some_iff.mp h
  split at h
  · rename_i hc
    cases h
    exact ⟨rfl, hattempt, hrequest, hc.1, hc.2.1, hc.2.2.1⟩
  · cases h

theorem candidateOfRow_presents {n : NodeRow} (hJ : J.Sound)
    (hn : n ∈ J.nodes.rows) (hrow : J.candidateRow n = some row)
    (hpool : row.node.workerPool ∈ worker.pools)
    (h : candidateOfRow sha256 worker row = .ok (some c)) :
    c.projectId = row.request.projectId ∧ ∃ A, J.view c.attemptId = some A ∧ A.Presents worker c := by
  obtain ⟨rfl, hattempt, hrequest, hready, hreduce, hlive⟩ := candidateRow_eq_some hrow
  obtain ⟨n, attempt, request⟩ := row
  obtain ⟨A, hA, hnode⟩ := hJ.view_of_node hn
  cases (attempt_of_view hA).symm.trans hattempt
  cases (request_of_view hA).symm.trans hrequest
  simp only [candidateOfRow, Check.ok_iff] at h
  obtain ⟨_, -, m, hm, q, hq, _, ⟨hkind, -, hpool'⟩, _, -, h⟩ := h
  split at h
  · cases h
  · rename_i hfeeds
    cases h
    have hid : m.nodeId = n.nodeId := by simpa using find?_some hm
    refine ⟨rfl, A, by rw [← attemptId_of_view hA] at hA; exact hA, ?_⟩
    constructor
    case node => rw [hid]; exact hm
    case profile => exact hq
    case row => exact ⟨n, by rw [hid]; exact hnode, hready, hkind.symm, rfl⟩
    case kind => rw [hkind]; exact hreduce
    case live => exact hlive
    case pool => rw [hpool']; exact hpool
    case feeds =>
      rintro ⟨m', hm', hf⟩
      cases (by rw [hid]; exact hm : A.policy.node m.nodeId = some m).symm.trans hm'
      by_contra hvps
      exact hfeeds ⟨hf, hvps⟩
    all_goals rfl

theorem loadReadyCandidatesLoop_ok {byProject out : List ReadyCandidate} {rows : List CandidateRow}
    (hJ : J.Sound) (hrows : ∀ row ∈ rows, ∃ n ∈ J.nodes.rows, J.candidateRow n = some row)
    (h : loadReadyCandidatesLoop sha256 worker byProject rows = .ok out)
    (hby : J.Offers worker byProject) (hnd : (byProject.map (·.projectId)).Nodup) :
    J.Offers worker out ∧ (out.map (·.projectId)).Nodup := by
  induction rows generalizing byProject with
  | nil =>
    cases h
    exact ⟨hby, hnd⟩
  | cons row rows ih =>
    have hrest : ∀ row ∈ rows, ∃ n ∈ J.nodes.rows, J.candidateRow n = some row :=
      fun r hr => hrows r (by simp [hr])
    unfold loadReadyCandidatesLoop at h
    split at h
    · exact ih hrest h hby hnd
    · rename_i hskip
      rw [not_or, not_not] at hskip
      obtain ⟨o, ho, h⟩ := Check.bind_ok_iff.mp h
      cases o with
      | none => exact ih hrest h hby hnd
      | some c =>
        obtain ⟨n, hn, hrow⟩ := hrows row (by simp)
        obtain ⟨hproject, hpresents⟩ := candidateOfRow_presents hJ hn hrow hskip.1 ho
        have hperm : (byProject.orderedInsert (fun a b => a.projectId ≤ b.projectId) c).Perm
            (c :: byProject) := perm_orderedInsert ..
        refine ih hrest h (fun d hd => ?_) ?_
        · rcases mem_cons.mp (hperm.mem_iff.mp hd) with rfl | hd
          · exact hpresents
          · exact hby d hd
        · refine (hperm.map _).nodup_iff.mpr (nodup_cons.mpr ⟨?_, hnd⟩)
          change c.projectId ∉ _
          rw [hproject]
          exact hskip.2

theorem loadReadyCandidates_ok {cs : List ReadyCandidate} (hJ : J.Sound)
    (h : J.loadReadyCandidates worker = .ok cs) :
    J.Offers worker cs ∧ (cs.map (·.projectId)).Nodup := by
  refine loadReadyCandidatesLoop_ok hJ (fun row hrow => ?_) h (by simp [Offers]) (by simp)
  exact mem_filterMap.mp ((mem_insertionSort _).mp hrow)

theorem rotateLeft_perm {α : Type} (xs : List α) (i : Nat) : (rotateLeft xs i).Perm xs := by
  exact perm_append_comm.trans (by rw [take_append_drop])

theorem fairCandidateOrder_perm (cs : List ReadyCandidate) (cursor : CursorRow) :
    (fairCandidateOrder cs cursor).Perm cs := by
  unfold fairCandidateOrder
  split
  · exact .refl _
  · split
    · split <;> exact rotateLeft_perm _ _
    · exact rotateLeft_perm _ _

end Candidates

/-! ### The mutation lock -/

section Lock

variable {c : ReadyCandidate} {b : Bool}

section

variable (hp : A.Presents worker c)
include hp

theorem Attempt.Presents.exclusive : c.requiresExclusiveDelivery = A.exclusive c.node.kind := by
  rw [ReadyCandidate.requiresExclusiveDelivery, hp.executionMode, hp.manifest, Attempt.exclusive]

theorem Attempt.Presents.acquire : (A.acquire t).Presents worker c := by
  cases hp
  constructor <;> assumption

theorem Attempt.Presents.gated (h : A.Lawful D) : A.Gated c.node.nodeId := by
  obtain ⟨n, hn, hs, -⟩ := hp.row
  exact h.paced.gated _ n hn (.inl hs)

/-- Taking the lock of a project that nobody mutates is a move of the candidate's attempt. -/
theorem Attempt.Presents.step_acquire (h : A.Lawful D)
    (hex : c.requiresExclusiveDelivery = true) (hns : A.row.mutationState = .notStarted) :
    Attempt.Step D A (A.acquire t) := by
  obtain ⟨n, hn, hs, hkind, -⟩ := hp.row
  rw [hp.exclusive, ← hkind] at hex
  have hgated := h.paced.gated _ n hn (.inl hs)
  have hnot := (h.started_of_gated hn hgated (Attempt.Lawful.stage_of_exclusive hex)).1
  exact .acquire t hns (hp.live.resolve_left hnot) (exclusiveDelivery_iff.mp hex).1
    (h.readyToMutate hn hgated hex)

end

theorem acquireMutationLock_ok (hJ : J.Lawful D) (hA : J.view c.attemptId = some A)
    (hp : A.Presents worker c) (h : acquireMutationLock c t J = .ok (b, J')) :
    (b = false ∧ J' = J ∧ ∃ k, J.projectLock c.projectId = some k ∧ k.attemptId ≠ c.attemptId) ∨
    (b = true ∧ J' = J ∧ A.row.mutationState = .owned ∧
      ∃ k, J.projectLock c.projectId = some k ∧ k.attemptId = c.attemptId) ∨
    (b = true ∧ J.projectLock c.projectId = none ∧ A.row.mutationState = .notStarted ∧
      J.Acts J' c.attemptId (·.acquire t)) := by
  simp only [acquireMutationLock, ok_iff] at h
  obtain ⟨_, rfl, h⟩ := h
  cases hk : J.projectLock c.projectId with
  | some k =>
    simp only [hk, ok_iff, ite_ok_iff] at h
    rcases h with ⟨hne, rfl, rfl⟩ | ⟨heq, _, hheld, rfl, rfl⟩
    · exact .inl ⟨rfl, rfl, k, rfl, hne⟩
    · rw [not_not] at heq
      obtain ⟨B, hB, hBk⟩ := lock_of_projectLock hJ.sound hk
      cases hA.symm.trans (heq ▸ hB)
      exact .inr (.inl ⟨rfl, rfl, (hJ.attempts _ A hA).standing.owned_of_held hBk hheld, k, rfl, heq⟩)
  | none =>
    simp only [hk, ok_iff] at h
    obtain ⟨_, J₂, h₂, d, J₃, h₃, _, hd, rfl, rfl⟩ := h
    obtain ⟨hforeign, table, hinsert, rfl⟩ := insert_ok_iff.mp h₂
    have a₂ := acts_addLock hinsert hforeign
    obtain ⟨hns, a₃⟩ := updateAttempt_one h₃ hd (a₂.view hJ.sound hA) (fun _ => rfl) fun _ => rfl
    refine .inr (.inr ⟨rfl, rfl, of_decide_eq_true hns, (a₂.trans a₃).congr fun B hB => ?_⟩)
    cases hA.symm.trans hB
    rw [Attempt.acquire, ← hp.projectId, ← hp.attemptId]
    rfl

end Lock

/-! ### Operation states -/

section OperationState

variable {c : ReadyCandidate} {selection : OperationStateSelection}
variable {consumers : List WorkflowNodeId}

/-- Is the operation state of the candidate's attempt out of the worker's reach? -/
def Journal.operationStateBusy (J : Journal sha256) (worker : WorkflowWorkerRegistrationV1)
    (c : ReadyCandidate) : Bool :=
  nodeUsesOperationState c.node c.profile.adapterId && match J.binding c.attemptId with
    | some b => if b.workerId = worker.workerId ∧ b.hostId = worker.hostId then
        J.activeOperationStateOnHost c.attemptId worker.workerId worker.hostId else true
    | none => vpsRequired ∈ worker.pools &&
        J.activeOperationStateOnHost c.attemptId worker.workerId worker.hostId

theorem Attempt.Presents.mem (hp : A.Presents worker c) : c.node ∈ A.policy.nodes :=
  ((Attempt.Lawful.policy_lawful A).node_eq_some_iff.mp hp.node).1

theorem Attempt.Presents.uses_iff (hp : A.Presents worker c) : A.UsesOperationState c.node.nodeId ↔
      nodeUsesOperationState c.node c.profile.adapterId = true := by
  constructor
  · rintro ⟨x, q, hx, hq, h⟩
    cases hp.node.symm.trans hx
    cases hp.profile.symm.trans hq
    exact h
  · exact fun h => ⟨c.node, c.profile, hp.node, hp.profile, h⟩

theorem remainingConsumersLoop_ok {xs : List WorkflowNodeV1}
    (h : remainingConsumersLoop c worker xs J = .ok (consumers, J')) :
    J = J' ∧ ∀ x ∈ xs, operationStateNode c.manifest.1 worker.pools x = .ok true →
      ∀ n, J.node c.attemptId x.nodeId = some n → n.state = .blocked ∨ n.state = .ready →
        x.nodeId ∈ consumers := by
  induction xs generalizing consumers with
  | nil =>
    obtain ⟨-, rfl⟩ := pure_ok_iff.mp h
    exact ⟨rfl, by simp⟩
  | cons x xs ih =>
    simp only [remainingConsumersLoop, ok_iff, ite_ok_iff] at h
    obtain ⟨used, hused, h⟩ := h
    rcases h with ⟨rfl, _, rfl, n, hn, rest, J₄, hrest, rfl, rfl⟩ | ⟨hnot, hrest⟩
    · obtain ⟨rfl, hmem⟩ := ih hrest
      refine ⟨rfl, forall_mem_cons.mpr ⟨fun _ m hm hs => ?_, fun y hy hy' m hm hs => ?_⟩⟩
      · cases hn.symm.trans hm
        rw [if_pos hs]
        exact mem_cons_self
      · have := hmem y hy hy' m hm hs
        split
        · exact mem_cons_of_mem _ this
        · exact this
    · obtain ⟨rfl, hmem⟩ := ih hrest
      refine ⟨rfl, forall_mem_cons.mpr ⟨fun hx => ?_, hmem⟩⟩
      rw [hused] at hx
      cases hx
      exact absurd rfl hnot

theorem remainingOperationStateConsumers_ok
    (h : remainingOperationStateConsumers c worker J = .ok (consumers, J')) :
    J = J' ∧ ∀ x ∈ c.manifest.1.workflow.nodes,
      operationStateNode c.manifest.1 worker.pools x = .ok true →
      ∀ n, J.node c.attemptId x.nodeId = some n → n.state = .blocked ∨ n.state = .ready →
        x.nodeId ∈ consumers := by
  simp only [remainingOperationStateConsumers, ok_iff] at h
  obtain ⟨ids, J₁, hloop, _, -, rfl, rfl⟩ := h
  obtain ⟨rfl, hmem⟩ := remainingConsumersLoop_ok hloop
  exact ⟨rfl, fun x hx hx' n hn hs => mem_sortIds.mpr (hmem x hx hx' n hn hs)⟩

theorem operationStateContract_ok {state : WorkflowOperationStateV1}
    (h : operationStateContract sha256 c worker consumers = .ok state) :
    state.validateFor sha256 (c.operationStateSubject worker) = .ok () ∧
      state.consumerNodes = sortIds consumers := by
  simp only [operationStateContract, Check.bind_ok_iff, ofContract_ok_iff,
    WorkflowOperationStateV1.new] at h
  obtain ⟨_, -, _, hvalid, h⟩ := h
  cases h
  exact ⟨hvalid, rfl⟩

theorem Attempt.Presents.subject (hp : A.Presents worker c) :
    c.operationStateSubject worker = A.operationStateSubject worker.workerId worker.hostId := by
  rw [ReadyCandidate.operationStateSubject, operationStateSubject, hp.attemptId,
    hp.projectId, hp.sourceSha, hp.workflowPolicyDigest, hp.preparationKey]

/-- A node that may still need the operation state is one a VPS binds it for, as long as no
worker is busy on an operation state of its own. -/
theorem Attempt.Presents.consumer (hp : A.Presents worker c) (h : A.Lawful D)
    (huses : nodeUsesOperationState c.node c.profile.adapterId = true) (hb : A.binding = none)
    (hvps : vpsRequired ∈ worker.pools)
    (hidle : ∀ i e, A.ActiveLease i e → e.row.leaseJson.1.operationState = none)
    {k : WorkflowNodeId} (hk : A.OutstandingConsumer k) :
    ∃ x n, x ∈ A.policy.nodes ∧ x.nodeId = k ∧ A.nodes k = some n ∧
      operationStateNode c.manifest.1 worker.pools x = .ok true ∧
      (n.state = .blocked ∨ n.state = .ready) := by
  obtain ⟨⟨x, q, hx, hq, hxuses⟩, n, hn, hs⟩ := hk
  obtain ⟨hmem, rfl⟩ := (Attempt.Lawful.policy_lawful A).node_eq_some_iff.mp hx
  obtain ⟨hkind, hcache, hpool⟩ := Attempt.Lawful.uses_fits hmem hq hxuses
  have hbuild : buildCompute ∈ worker.pools := by
    -- by the time a release build is ready the operation state is bound
    obtain ⟨hkind, -, hpool'⟩ := Attempt.Lawful.uses_fits hp.mem hp.profile huses
    have hverification : c.node.kind = .verification := by
      refine hkind.resolve_right fun hbuild => ?_
      have := h.bound_of_build hp.mem hbuild hp.profile huses (hp.gated h)
      rw [hb] at this
      cases this
    rw [hverification] at hpool'
    have := hp.pool
    rw [hpool'] at this
    exact this
  have hleased : n.state ≠ .leased := by
    intro hl
    obtain ⟨i, e, ha, hnode, -⟩ := h.fenced.active_of_node hn hl
    have := h.bound.carries i e ha.1 ⟨x, q, by rw [hnode]; exact hx, hq, hxuses⟩
    rw [hidle i e ha] at this
    cases this
  refine ⟨x, n, hmem, rfl, hn, ?_, hs.imp_right fun hs => hs.resolve_right hleased⟩
  have hprofile : c.manifest.1.workflow.profile x.profileId = some q := by rw [hp.manifest]; exact hq
  have hin : q.workerPool ∈ worker.pools := by
    rw [hpool]
    rcases hkind with hk | hk <;> rw [hk]
    · exact hbuild
    · exact hvps
  simp only [operationStateNode, Check.ok_iff]
  exact ⟨q, hprofile, by simp [hxuses, hcache, hin]⟩

theorem activeOperationStateOnHost_iff {workerId hostId : String} (hA : J.view a = some A) :
    J.activeOperationStateOnHost a workerId hostId = true ↔ ∃ i e, A.ActiveLease i e ∧
      e.row.workerId = workerId ∧ e.row.hostId = hostId ∧
      e.row.leaseJson.1.operationState.isSome = true := by
  simp only [activeOperationStateOnHost, any_eq_true, where_iff]
  constructor
  · rintro ⟨l, hl, ⟨⟨⟨rfl, hw⟩, hh⟩, hs⟩, ho⟩
    exact ⟨_, _, ⟨entry_of_lease hA (lookup_of_mem leases_by_id hl), hs⟩, hw, hh, ho⟩
  · rintro ⟨i, e, ha, hw, hh, ho⟩
    obtain ⟨hl, hatt, -⟩ := lease_of_view hA ha.1
    exact ⟨e.row, mem_of_lookup hl, ⟨⟨⟨hatt, hw⟩, hh⟩, ha.2⟩, ho⟩

theorem hostFree_of_not_active {workerId hostId : String} (hA : J.view a = some A)
    (h : ¬ J.activeOperationStateOnHost a workerId hostId = true) : A.HostFree workerId hostId := by
  intro i e ha hw hh
  rw [← Option.not_isSome_iff_eq_none]
  exact fun ho => h ((activeOperationStateOnHost_iff hA).mpr ⟨i, e, ha, hw, hh, ho⟩)

/-- The operation state that the worker is given is the bound one, if there is one, and nobody
is busy on it. -/
def Attempt.Serves (A : Attempt sha256) (worker : WorkflowWorkerRegistrationV1)
    (state : WorkflowOperationStateV1) : Prop :=
  ∀ b, A.binding = some b → worker.workerId = b.workerId ∧ worker.hostId = b.hostId ∧
    state = b.stateJson ∧ A.HostFree worker.workerId worker.hostId

/-- The four ways in which the operation state of a candidate is selected.  The last condition
is what orderly callers see to before a VPS claims. -/
theorem operationStateForCandidate_ok (hJ : J.Lawful D) (hclaims : D.claims)
    (hA : J.view c.attemptId = some A) (hp : A.Presents worker c) (horderly : D.orderly →
      vpsRequired ∈ worker.pools → A.binding = none →
      ∀ i e, A.ActiveLease i e → e.row.leaseJson.1.operationState = none)
    (h : operationStateForCandidate c worker t J = .ok (selection, J')) :
    (selection = .notUsed ∧ J' = J ∧ ¬ A.UsesOperationState c.node.nodeId) ∨
    (selection = .busy ∧ J' = J ∧ J.operationStateBusy worker c = true) ∨
    (∃ state, selection = .ready state ∧ J.operationStateBusy worker c = false ∧
      A.UsesOperationState c.node.nodeId ∧
      ((J' = J ∧ (A.FeedsRelease c.node.nodeId → A.binding.isSome = true) ∧ A.Serves worker state) ∨
        ∃ b, J.Acts J' c.attemptId (·.bind b) ∧ Attempt.Step D A (A.bind b) ∧
          (A.bind b).Serves worker state)) := by
  have hlaw := hJ.attempts _ A hA
  simp only [operationStateForCandidate, ok_iff, ite_ok_iff] at h
  rcases h with ⟨hnot, rfl, rfl⟩ | ⟨hused, _, rfl, h⟩
  · refine .inl ⟨rfl, rfl, fun huses => ?_⟩
    rw [hp.uses_iff] at huses
    obtain ⟨-, hcache, -⟩ := Attempt.Lawful.uses_fits hp.mem hp.profile huses
    rcases hnot with hnot | hnot
    · rw [huses] at hnot
      cases hnot
    · exact hnot hcache
  · rw [not_or, Bool.not_eq_false] at hused
    obtain ⟨huses, hcache⟩ := hused
    have huses' := hp.uses_iff.mpr huses
    refine .inr ?_
    cases hb : J.binding c.attemptId with
    | some b =>
      have hAb : A.binding = some b := by rw [← binding_of_view hA]; exact hb
      have hbusy : J.operationStateBusy worker c =
          if b.workerId = worker.workerId ∧ b.hostId = worker.hostId then
            J.activeOperationStateOnHost c.attemptId worker.workerId worker.hostId else true := by
        rw [operationStateBusy, huses, hb, Bool.true_and]
      simp only [hb, ok_iff, boundOperationState, ite_ok_iff] at h
      rcases h with ⟨hsame, state, hdecode, _, -, active, rfl, rfl, rfl⟩ | ⟨hother, rfl, rfl⟩
      · rw [if_pos hsame] at hbusy
        cases hactive : J.activeOperationStateOnHost c.attemptId worker.workerId worker.hostId with
        | true => exact .inl ⟨by simp, rfl, hbusy.trans hactive⟩
        | false =>
          refine .inr ⟨state, by simp, hbusy.trans hactive, huses', .inl ⟨rfl, fun _ => by
            rw [hAb]; rfl, fun b' hb' => ?_⟩⟩
          cases hAb.symm.trans hb'
          simp only [decodeBoundOperationState, Check.bind_ok_iff, Except.ok.injEq] at hdecode
          obtain ⟨_, -, rfl⟩ := hdecode
          exact ⟨hsame.1.symm, hsame.2.symm, rfl, hostFree_of_not_active hA (by simp [hactive])⟩
      · rw [if_neg hother] at hbusy
        exact .inl ⟨rfl, rfl, hbusy⟩
    | none =>
      have hAb : A.binding = none := by rw [← binding_of_view hA]; exact hb
      have hbusy : J.operationStateBusy worker c = (decide
          (vpsRequired ∈ worker.pools) &&
            J.activeOperationStateOnHost c.attemptId worker.workerId worker.hostId) := by
        rw [operationStateBusy, huses, hb, Bool.true_and]
      simp only [hb, ok_iff, unboundOperationState, ite_ok_iff] at h
      rcases h with ⟨hvps, active, rfl, ⟨hactive, rfl, rfl⟩ | ⟨hactive, consumers, J₃,
        hconsumers, state, hstate, _, J₅, hinsert, rfl, rfl⟩⟩ |
        ⟨hvps, state, -, rfl, rfl⟩
      · exact .inl ⟨rfl, rfl, by rw [hbusy, hactive]; simp [hvps]⟩
      · obtain ⟨rfl, hmem⟩ := remainingOperationStateConsumers_ok hconsumers
        obtain ⟨hvalid, hnodes⟩ := operationStateContract_ok hstate
        obtain ⟨hforeign, table, hrow, rfl⟩ := insert_ok_iff.mp hinsert
        refine .inr ⟨state, rfl, by rw [hbusy]; simp [hactive], huses', .inr ⟨_,
          acts_bind hrow hforeign, .bind _ ⟨hAb, rfl, by rw [← hp.subject]; exact hvalid, ?_, hp.live,
          hclaims, hostFree_of_not_active hA hactive⟩, fun b' hb' => ?_⟩⟩
        · intro hD k hk
          obtain ⟨x, n, hx, rfl, hn, hnode, hs⟩ := hp.consumer hlaw huses hAb hvps
            (horderly hD hvps hAb) hk
          rw [hnodes, mem_sortIds]
          exact hmem x (by rw [hp.manifest]; exact hx) hnode n (by rw [node_of_view hA]; exact hn) hs
        · cases hb'
          have hfree := hostFree_of_not_active hA hactive
          exact ⟨rfl, rfl, rfl, hfree⟩
      · refine .inr ⟨state, rfl, by rw [hbusy]; simp [hvps], huses', .inl ⟨rfl, fun hf => ?_, fun b' hb' => ?_⟩⟩
        · exact absurd (hp.feeds hf) hvps
        · cases hAb.symm.trans hb'

end OperationState

/-! ### Granting a lease -/

section Grant

variable {c : ReadyCandidate} {lease : ValidLease sha256}
variable {body : WorkflowLeaseBodyV1}

theorem sealed_ok (h : WorkflowLeaseV1.sealed sha256 body = .ok lease) :
    lease.1.toWorkflowLeaseBodyV1 = body := by
  rw [WorkflowLeaseV1.sealed, Check.certify_ok_iff] at h
  rw [h]

theorem boundedLeaseExpiry_ok {leasedAtMs nowMs expiry : Int} {timeout : Nat}
    (h : boundedLeaseExpiry leasedAtMs nowMs duration timeout = .ok expiry) :
    expiry ≤ leasedAtMs + timeout ∧ leasedAtMs + timeout ≤ i64Max := by
  simp only [boundedLeaseExpiry, Check.ok_iff, Except.ok.injEq] at h
  obtain ⟨deadline, hdeadline, _, -, _, -, rfl⟩ := h
  obtain ⟨hmax, rfl⟩ := executionDeadlineMs_ok hdeadline
  exact ⟨min_le_right _ _, hmax⟩

theorem persistActiveLease_ok {generation : Nat} (hJ : J.Sound)
    (hA : J.view lease.1.attemptId = some A)
    (h : persistActiveLease lease generation t J = .ok (u, J')) :
    A.leases lease.1.leaseId = none ∧ A.row.createdAtMs ≤ t ∧
      J.Acts J' lease.1.attemptId (·.grant lease generation t) := by
  simp only [persistActiveLease, ok_iff] at h
  obtain ⟨_, J₁, h₁, d, J₂, h₂, _, -, d', J₄, h₄, _, hd', h₅⟩ := h
  obtain ⟨-, table, hinsert, rfl⟩ := insert_ok_iff.mp h₁
  have hatt : (J.attempt lease.1.attemptId).isSome = true := by rw [attempt_of_view hA]; rfl
  have a₁ := acts_addLease hinsert hatt
  have hA₁ := a₁.view hJ hA
  obtain ⟨-, a₂⟩ := updateNodes_ok (a := lease.1.attemptId)
    (q := fun n => n.nodeId = lease.1.nodeId && n.state = .ready && n.leaseGeneration = generation)
    h₂ (fun n => by simp only [Bool.and_assoc]) fun _ => rfl
  have hA₂ := a₂.view (a₁ hJ).1 hA₁
  obtain ⟨hlive, a₄⟩ := updateAttempt_one h₄ hd' hA₂ (fun _ => rfl) fun _ => rfl
  refine ⟨?_, ?_, ((a₁.trans a₂).trans a₄).trans (appendTransition_ok h₅ _)⟩
  · have hfresh : J.lease lease.1.leaseId = none := insert_fresh leases_by_id hinsert
    rw [leases_of_view hA, Option.map_eq_none_iff]
    refine lookup_eq_none_iff.mpr fun l hl hk => ?_
    exact lookup_eq_none_iff.mp hfresh l hl (Prod.ext_iff.mp hk).2
  · obtain ⟨table', hupdate, -, -⟩ := update_ok_iff.mp h₄
    have hcheck := check_of_update hupdate (mem_of_lookup (attempt_of_view hA₂))
      (by rw [attemptId_of_view hA₂, Bool.and_eq_true]; exact ⟨by simp, hlive⟩)
    simp only [attemptSchema, where_iff] at hcheck
    exact hcheck.1.2

theorem updateFairnessCursor_ok {cursor : CursorRow}
    (h : updateFairnessCursor c cursor J = .ok (u, J')) : J.Acts J' a id := by
  cases h
  exact acts_of_view_eq (fun hJ => { hJ with }) rfl

theorem attachOperationState_ok {first : ValidLease sha256}
    (hfirst : first.1.toWorkflowLeaseBodyV1 = body) (hbody : body.operationState = none)
    (h : attachOperationState first state = .ok lease) :
    lease.1.toWorkflowLeaseBodyV1 = { body with operationState := state } := by
  cases state with
  | none =>
    cases h
    rw [hfirst, ← hbody]
  | some state =>
    simp only [attachOperationState, ofContract_ok_iff] at h
    rw [sealed_ok h, hfirst]

/-- Every new lease carries the operation state that the attempt has bound in the end. -/
def Attempt.GrantsAttached (A A' : Attempt sha256) : Prop :=
  ∀ i e, A'.leases i = some e → A.leases i = none → A'.Attached e.row.leaseJson.1

theorem Attempt.GrantsAttached.refl (A : Attempt sha256) : A.GrantsAttached A :=
  fun _ _ he hnew => by cases hnew.symm.trans he

/-- What a lease on a candidate does to the attempts. -/
structure Journal.Granted (J J' : Journal sha256) (c : ReadyCandidate) (A : Attempt sha256)
    (lease : ValidLease sha256) : Prop where
  attemptId : lease.1.attemptId = c.attemptId
  projectId : lease.1.projectId = c.projectId
  nodeKind : lease.1.nodeKind = c.node.kind
  others : ∀ b, b ≠ c.attemptId → J'.view b = J.view b
  own : ∃ A', J'.view c.attemptId = some A' ∧
    A'.row.mutationState = A.row.mutationState ∧ A'.lock = A.lock ∧ A.GrantsAttached A'

variable {leaseId : Uuid} {cursor : CursorRow} (hJ : J.Lawful D) (hclaims : D.claims)
  (hA : J.view c.attemptId = some A) (hp : A.Presents worker c)
  (howned : c.requiresExclusiveDelivery = true → A.row.mutationState = .owned)
  (hcarries : A.UsesOperationState c.node.nodeId → state.isSome = true)
  (hbound : A.FeedsRelease c.node.nodeId → A.binding.isSome = true)
  (hserves : ∀ s, state = some s → A.Serves worker s)
include hJ hclaims hA hp howned hcarries hbound hserves

theorem grantLease_ok
    (h : grantLease c worker state t duration leaseId cursor J = .ok (lease, J')) :
    lease.1.attemptId = c.attemptId ∧ lease.1.projectId = c.projectId ∧
      lease.1.nodeKind = c.node.kind ∧ J.Acts J' c.attemptId (·.grant lease c.leaseGeneration t) ∧
      A.Attached lease.1 ∧ Attempt.Step D A (A.grant lease c.leaseGeneration t) := by
  simp only [grantLease, expectedInputDigest, ok_iff, ofContract_ok_iff] at h
  obtain ⟨⟨digest, inputs⟩, J₁, ⟨_, -, _, -, _, -, -, rfl⟩, _, -, expiry, hexpiry, first, hfirst,
    second, hsecond, _, J₆, hpersist, _, J₇, hcursor, rfl, rfl⟩ := h
  have hbody := attachOperationState_ok (sealed_ok hfirst) rfl hsecond
  obtain ⟨⟨second, _⟩, _⟩ := second
  obtain rfl := hbody
  obtain ⟨n, hn, hready, hnk, hgen⟩ := hp.row
  obtain ⟨hfresh, hcreated, hacts⟩ := persistActiveLease_ok hJ.sound hA hpersist
  obtain ⟨hbounded, hmax⟩ := boundedLeaseExpiry_ok hexpiry
  have hattached : ∀ b s, A.binding = some b → state = some s →
      worker.workerId = b.workerId ∧ worker.hostId = b.hostId ∧ s = b.stateJson := by
    intro b s hb hs
    obtain ⟨hw, hh, hsame, -⟩ := hserves s hs b hb
    exact ⟨hw, hh, hsame⟩
  refine ⟨rfl, rfl, rfl, hacts.trans (updateFairnessCursor_ok hcursor), hattached, ?_⟩
  rw [← hgen]
  refine .grant _ t ⟨hfresh, hn, hready, ⟨⟨hp.attemptId, hp.requestId, hp.projectId, hp.sourceSha,
    hp.workflowPolicyDigest, hp.preparationKey, hcreated⟩, ⟨hbounded, hmax⟩, hnk.symm, congrArg (· + 1) hgen.symm⟩,
    hp.live, ?_, hcarries, hbound, hclaims, hattached, ?_⟩
  · intro hex
    exact howned (by rw [hp.exclusive, ← hnk]; exact hex)
  · intro hb hs
    obtain ⟨b, hb⟩ := Option.isSome_iff_exists.mp hb
    obtain ⟨s, hs⟩ := Option.isSome_iff_exists.mp hs
    exact (hserves s hs b hb).2.2.2

theorem grantLease_proceeds
    (h : grantLease c worker state t duration leaseId cursor J = .ok (lease, J')) :
    J.Proceeds D J' ∧ J.Granted J' c A lease := by
  obtain ⟨hatt, hproject, hkind, hacts, hattached, hstep⟩ :=
    grantLease_ok hJ hclaims hA hp howned hcarries hbound hserves h
  refine ⟨.of_step hJ hacts hA hstep fun hk => hk, hatt, hproject, hkind,
    fun b hb => hacts.view_ne hJ.sound hb, _, hacts.view hJ.sound hA, rfl, rfl, fun i e he hnew => ?_⟩
  by_cases hi : i = lease.1.leaseId
  · subst hi
    cases (Function.update_self ..).symm.trans he
    exact hattached
  · rw [show (A.grant lease c.leaseGeneration t).leases i = A.leases i from
      Function.update_of_ne hi .., hnew] at he
    cases he

end Grant

/-! ### The loop over the candidates -/

section Loop

variable {c : ReadyCandidate} {cs : List ReadyCandidate} {leaseId : Uuid} {cursor : CursorRow}
  {lease : ValidLease sha256}
variable {o : Option (ValidLease sha256)} {J₁ : Journal sha256}

/-- Does the loop go on to the next candidate?  The project of this one is being mutated by
another attempt, or its operation state is out of reach. -/
def Journal.passesOver (J : Journal sha256) (worker : WorkflowWorkerRegistrationV1)
    (c : ReadyCandidate) : Bool :=
  (c.requiresExclusiveDelivery && (J.projectLock c.projectId).any (·.attemptId ≠ c.attemptId)) ||
    J.operationStateBusy worker c

/-- The candidates that the loop passes over after it has taken their lock. -/
def Journal.seized (J : Journal sha256) (worker : WorkflowWorkerRegistrationV1)
    (cs : List ReadyCandidate) : List ReadyCandidate :=
  (cs.takeWhile (J.passesOver worker)).filter fun c =>
    c.requiresExclusiveDelivery && (J.projectLock c.projectId).isNone

/-- Busyness depends on the leases and the binding of the attempt. -/
theorem operationStateBusy_congr {A' : Attempt sha256} (hA : J.view c.attemptId = some A)
    (hA' : J'.view c.attemptId = some A') (hleases : A'.leases = A.leases)
    (hbinding : A'.binding = A.binding) :
    J'.operationStateBusy worker c = J.operationStateBusy worker c := by
  have hactive : J'.activeOperationStateOnHost c.attemptId worker.workerId worker.hostId =
      J.activeOperationStateOnHost c.attemptId worker.workerId worker.hostId := by
    rw [Bool.eq_iff_iff, activeOperationStateOnHost_iff hA, activeOperationStateOnHost_iff hA']
    simp only [Attempt.ActiveLease, hleases]
  rw [operationStateBusy, operationStateBusy, hactive, binding_of_view hA,
    binding_of_view hA', hbinding]

/-- The lock of a project, read off its attempts. -/
theorem projectLock_eq_some_iff (hJ : J.Sound) {p : ProjectId} {k : LockRow} :
    J.projectLock p = some k ↔ ∃ b B, J.view b = some B ∧ B.lock = some k ∧ k.projectId = p := by
  constructor
  · intro h
    obtain ⟨B, hB, hk⟩ := lock_of_projectLock hJ h
    exact ⟨_, B, hB, hk, key_of_lookup h⟩
  · rintro ⟨b, B, hB, hk, rfl⟩
    exact projectLock_of_lock hB hk

/-- Granting a lease on a candidate whose operation state is not busy. -/
theorem takeCandidate_ok (hJ : J.Lawful D) (hclaims : D.claims)
    (hA : J.view c.attemptId = some A) (hp : A.Presents worker c)
    (howned : c.requiresExclusiveDelivery = true → A.row.mutationState = .owned)
    (horderly : D.orderly → vpsRequired ∈ worker.pools → A.binding = none →
      ∀ i e, A.ActiveLease i e → e.row.leaseJson.1.operationState = none)
    (h : takeCandidate c worker t duration leaseId cursor J = .ok (o, J')) :
    (o = none ∧ J' = J ∧ J.operationStateBusy worker c = true) ∨
    ∃ lease, o = some lease ∧ J.Proceeds D J' ∧ J.operationStateBusy worker c = false ∧
      J.Granted J' c A lease := by
  obtain ⟨selection, J₁, hselect, htake⟩ := bind_ok_iff.mp h
  rcases operationStateForCandidate_ok hJ hclaims hA hp horderly hselect with
    ⟨rfl, rfl, hnot⟩ | ⟨rfl, rfl, hbusy⟩ | ⟨s, rfl, hbusy, huses, hstate⟩
  · obtain ⟨lease, hgrant, rfl⟩ := map_ok_iff.mp htake
    have hbusy : J₁.operationStateBusy worker c = false := by
      rw [hp.uses_iff, Bool.not_eq_true] at hnot
      rw [operationStateBusy, hnot, Bool.false_and]
    obtain ⟨hproceeds, hgranted⟩ := grantLease_proceeds hJ hclaims hA hp howned
      (fun huses => absurd huses hnot) (fun hf => absurd (Attempt.Lawful.uses_of_feeds hf) hnot)
      (fun _ h => by cases h) hgrant
    exact .inr ⟨lease, rfl, hproceeds, hbusy, hgranted⟩
  · obtain ⟨rfl, rfl⟩ := pure_ok_iff.mp htake
    exact .inl ⟨rfl, rfl, hbusy⟩
  · obtain ⟨lease, hgrant, rfl⟩ := map_ok_iff.mp htake
    rcases hstate with ⟨rfl, hfeeds, hserves⟩ | ⟨b, hacts, hstep, hserves⟩
    · obtain ⟨hproceeds, hgranted⟩ := grantLease_proceeds hJ hclaims hA hp howned (fun _ => rfl)
        hfeeds (fun _ h => by cases h; exact hserves) hgrant
      exact .inr ⟨lease, rfl, hproceeds, hbusy, hgranted⟩
    · have hbind : J.Proceeds D J₁ := .of_step hJ hacts hA hstep id
      have hp' : (A.bind b).Presents worker c := by
        cases hp
        constructor <;> assumption
      obtain ⟨hproceeds, hgranted⟩ := grantLease_proceeds hbind.lawful hclaims
        (hacts.view hJ.sound hA) hp' howned (fun _ => rfl) (fun _ => rfl)
        (fun _ h => by cases h; exact hserves) hgrant
      exact .inr ⟨lease, rfl, hbind.trans hproceeds, hbusy, { hgranted with
        others := fun d hd => (hgranted.others d hd).trans (hacts.view_ne hJ.sound hd) }⟩

/-- No worker is busy on an operation state that its attempt has not bound. -/
def Journal.Orderly (J : Journal sha256) : Prop :=
  ∀ b B, J.view b = some B → B.binding = none →
    ∀ i e, B.ActiveLease i e → e.row.leaseJson.1.operationState = none

/-- What claiming one of the candidates `cs` does to the attempts. -/
structure Journal.Claimed (J J' : Journal sha256) (worker : WorkflowWorkerRegistrationV1)
    (cs : List ReadyCandidate) (o : Option (ValidLease sha256)) : Prop where
  lease : ∀ lease, o = some lease →
    ∃ c ∈ cs, lease.1.attemptId = c.attemptId ∧ lease.1.projectId = c.projectId
  changed : ∀ b B, J.view b = some B → ∃ B', J'.view b = some B' ∧
    ((B'.row.mutationState = B.row.mutationState ∧ B'.lock = B.lock) ∨
      (∃ c ∈ J.seized worker cs, c.attemptId = b) ∨
      ∃ lease, o = some lease ∧ lease.1.attemptId = b ∧ B.exclusive lease.1.nodeKind = true)
  seized : ∀ c ∈ J.seized worker cs, ∃ B B', J.view c.attemptId = some B ∧
    J'.view c.attemptId = some B' ∧ B.row.mutationState = .notStarted ∧
    B'.row.mutationState = .owned ∧ ∀ lease, o = some lease → lease.1.projectId ≠ c.projectId
  attached : ∀ b B B', J.view b = some B → J'.view b = some B' → B.GrantsAttached B'
  domain : ∀ b, J.view b = none → J'.view b = none

theorem takeWhile_congr {α : Type} {p q : α → Bool} {l : List α} (h : ∀ x ∈ l, p x = q x) :
    l.takeWhile p = l.takeWhile q := by
  induction l with
  | nil => rfl
  | cons x l ih =>
    rw [takeWhile_cons, takeWhile_cons, h x (by simp), ih fun y hy => h y (by simp [hy])]

theorem Attempt.Presents.attempt_ne {d : ReadyCandidate} {B : Attempt sha256}
    (hp : A.Presents worker c) (hA : J.view c.attemptId = some A) (hB : J.view d.attemptId = some B)
    (hBp : B.Presents worker d) (hne : d.projectId ≠ c.projectId) : d.attemptId ≠ c.attemptId := by
  intro heq
  rw [heq, hA] at hB
  cases hB
  exact hne (hBp.projectId.trans hp.projectId.symm)

/-- The candidates of other projects do not notice that a lock is taken. -/
theorem seized_acquire (hJ : J.Sound) (hA : J.view c.attemptId = some A) (hp : A.Presents worker c)
    (hacts : J.Acts J' c.attemptId (·.acquire t)) (hstanding : A.Standing)
    (hcs : J.Offers worker cs) (hne : ∀ d ∈ cs, d.projectId ≠ c.projectId) :
    J'.seized worker cs = J.seized worker cs := by
  have hlock : ∀ d ∈ cs, J'.projectLock d.projectId = J.projectLock d.projectId := by
    intro d hd
    refine Option.ext fun k => ?_
    rw [projectLock_eq_some_iff (hacts hJ).1, projectLock_eq_some_iff hJ]
    refine exists_congr fun b => ?_
    by_cases hb : b = c.attemptId
    · subst hb
      rw [hacts.view hJ hA, hA]
      constructor
      · rintro ⟨B, hB, hk, hproject⟩
        cases hB
        cases hk
        exact absurd (hproject.symm.trans hp.projectId.symm) (hne d hd)
      · rintro ⟨B, hB, hk, hproject⟩
        cases hB
        refine absurd ?_ (hne d hd)
        rw [← hproject, (hstanding.owner k hk).1, hp.projectId]
    · rw [hacts.view_ne hJ hb]
  have hpass : ∀ d ∈ cs, J'.passesOver worker d = J.passesOver worker d := by
    intro d hd
    obtain ⟨B, hB, hBp⟩ := hcs d hd
    have hB' : J'.view d.attemptId = some B := by
      rw [hacts.view_ne hJ (hp.attempt_ne hA hB hBp (hne d hd)), hB]
    rw [passesOver, passesOver, hlock d hd, operationStateBusy_congr hB hB' rfl rfl]
  rw [seized, takeWhile_congr hpass]
  refine filter_congr fun d hd => ?_
  rw [hlock d ((takeWhile_sublist _).subset hd)]

theorem seized_cons (J : Journal sha256) : J.seized worker (c :: cs) =
    if J.passesOver worker c then
      if c.requiresExclusiveDelivery && (J.projectLock c.projectId).isNone then
        c :: J.seized worker cs
      else J.seized worker cs
    else [] := by
  rw [seized, takeWhile_cons]
  split
  · rw [filter_cons]
    rfl
  · rfl

/-- The lock of the candidate's project, where it is needed. -/
theorem mutationAllowed_ok {b : Bool} (hJ : J.Lawful D) (hA : J.view c.attemptId = some A)
    (hp : A.Presents worker c) (h : mutationAllowed c t J = .ok (b, J')) :
    (b = false ∧ J' = J ∧ J.passesOver worker c = true ∧ J.projectLock c.projectId ≠ none) ∨
    (b = true ∧ J' = J ∧ J.passesOver worker c = J.operationStateBusy worker c ∧
      (c.requiresExclusiveDelivery = true → A.row.mutationState = .owned ∧
        J.projectLock c.projectId ≠ none)) ∨
    (b = true ∧ c.requiresExclusiveDelivery = true ∧ J.projectLock c.projectId = none ∧
      J.passesOver worker c = J.operationStateBusy worker c ∧
      A.row.mutationState = .notStarted ∧ J.Acts J' c.attemptId (·.acquire t)) := by
  rw [mutationAllowed, ite_ok_iff] at h
  rcases h with ⟨hex, h⟩ | ⟨hex, h⟩
  · rcases acquireMutationLock_ok hJ hA hp h with ⟨rfl, rfl, k, hk, hne⟩ |
      ⟨rfl, rfl, howned, k, hk, heq⟩ | ⟨rfl, hk, hns, hacts⟩
    · exact .inl ⟨rfl, rfl, by simp [passesOver, hex, hk, hne], by simp [hk]⟩
    · exact .inr (.inl ⟨rfl, rfl, by simp [passesOver, hk, heq], fun _ => ⟨howned, by simp [hk]⟩⟩)
    · exact .inr (.inr ⟨rfl, hex, hk, by simp [passesOver, hk], hns, hacts⟩)
  · obtain ⟨rfl, rfl⟩ := pure_ok_iff.mp h
    refine .inr (.inl ⟨rfl, rfl, ?_, fun h => absurd h hex⟩)
    rw [passesOver, Bool.eq_false_of_not_eq_true hex, Bool.false_and, Bool.false_or]

section Claimed

/-- Passing over a candidate without taking its lock. -/
theorem Journal.Claimed.skip (h : J.Claimed J' worker cs o)
    (hseized : J.seized worker (c :: cs) = J.seized worker cs) : J.Claimed J' worker (c :: cs) o where
  lease := fun lease ho => by
    obtain ⟨d, hd, hlease⟩ := h.lease lease ho
    exact ⟨d, by simp [hd], hlease⟩
  changed := by rw [hseized]; exact h.changed
  seized := by rw [hseized]; exact h.seized
  attached := h.attached
  domain := h.domain

/-- Taking the lock of a candidate and passing over it all the same. -/
theorem Journal.Claimed.seize (h : J₁.Claimed J' worker cs o) (hJ : J.Sound)
    (hA : J.view c.attemptId = some A) (hp : A.Presents worker c)
    (hacts : J.Acts J₁ c.attemptId (·.acquire t)) (hns : A.row.mutationState = .notStarted)
    (hcs : J.Offers worker cs) (hne : ∀ d ∈ cs, d.projectId ≠ c.projectId)
    (hsame : J₁.seized worker cs = J.seized worker cs)
    (hseized : J.seized worker (c :: cs) = c :: J.seized worker cs) :
    J.Claimed J' worker (c :: cs) o where
  lease := fun lease ho => by
    obtain ⟨d, hd, hlease⟩ := h.lease lease ho
    exact ⟨d, by simp [hd], hlease⟩
  changed := by
    intro b B hB
    rw [hseized]
    by_cases hb : b = c.attemptId
    · obtain ⟨B', hB', -⟩ := h.changed _ _ (hacts.view hJ hA)
      exact ⟨B', hb ▸ hB', .inr (.inl ⟨c, by simp, hb.symm⟩)⟩
    · obtain ⟨B', hB', hcase⟩ := h.changed b B (by rw [hacts.view_ne hJ hb, hB])
      refine ⟨B', hB', hcase.imp_right (.imp_left ?_)⟩
      rintro ⟨d, hd, rfl⟩
      exact ⟨d, by simp [← hsame, hd], rfl⟩
  seized := by
    have hother : ∀ d ∈ cs, d.attemptId ≠ c.attemptId := by
      intro d hd
      obtain ⟨B, hB, hBp⟩ := hcs d hd
      exact hp.attempt_ne hA hB hBp (hne d hd)
    have hmem : ∀ d ∈ J.seized worker cs, d ∈ cs :=
      fun d hd => (takeWhile_sublist _).subset (mem_filter.mp hd).1
    rw [hseized]
    refine forall_mem_cons.mpr ⟨?_, fun d hd => ?_⟩
    · have hlease : ∀ lease, o = some lease → lease.1.projectId ≠ c.projectId := by
        intro lease ho
        obtain ⟨d, hd, -, hproject⟩ := h.lease lease ho
        rw [hproject]
        exact hne d hd
      obtain ⟨B', hB', hcase⟩ := h.changed _ _ (hacts.view hJ hA)
      refine ⟨A, B', hA, hB', hns, ?_, hlease⟩
      -- No later candidate is of this attempt.
      rcases hcase with ⟨hmut, -⟩ | ⟨d, hd, heq⟩ | ⟨lease, ho, heq, -⟩
      · exact hmut
      · rw [hsame] at hd
        exact absurd heq (hother d (hmem d hd))
      · obtain ⟨d, hd, hatt, -⟩ := h.lease lease ho
        exact absurd (hatt.symm.trans heq) (hother d hd)
    · obtain ⟨B, B', hB, hrest⟩ := h.seized d (by rw [hsame]; exact hd)
      exact ⟨B, B', by rw [← hacts.view_ne hJ (hother d (hmem d hd))]; exact hB, hrest⟩
  attached := by
    intro b B B' hB hB'
    by_cases hb : b = c.attemptId
    · subst hb
      cases hA.symm.trans hB
      have hattached := h.attached _ _ B' (hacts.view hJ hA) hB'
      exact hattached
    · exact h.attached b B B' (by rw [hacts.view_ne hJ hb, hB]) hB'
  domain := fun b hb => h.domain b (by
    rw [hacts.view_ne hJ fun heq => by rw [heq, hA] at hb; cases hb]
    exact hb)

/-- Granting a lease on the first candidate. -/
theorem Journal.Claimed.of_grant (hA : J.view c.attemptId = some A)
    (hlease : lease.1.attemptId = c.attemptId ∧ lease.1.projectId = c.projectId)
    (hothers : ∀ b, b ≠ c.attemptId → J'.view b = J.view b)
    (hown : ∃ A', J'.view c.attemptId = some A' ∧
      ((A'.row.mutationState = A.row.mutationState ∧ A'.lock = A.lock) ∨
        A.exclusive lease.1.nodeKind = true) ∧ A.GrantsAttached A')
    (hseized : J.seized worker (c :: cs) = []) : J.Claimed J' worker (c :: cs) (some lease) := by
  obtain ⟨A', hA', hchanged, hattached⟩ := hown
  refine ⟨fun l hl => ?_, fun b B hB => ?_, by simp [hseized], fun b B B' hB hB' => ?_, fun b hb => ?_⟩
  · cases hl
    exact ⟨c, by simp, hlease⟩
  · by_cases hb : b = c.attemptId
    · subst hb
      cases hA.symm.trans hB
      exact ⟨A', hA', hchanged.imp_right fun h => .inr ⟨lease, rfl, hlease.1, h⟩⟩
    · exact ⟨B, (hothers b hb).trans hB, .inl ⟨rfl, rfl⟩⟩
  · by_cases hb : b = c.attemptId
    · subst hb
      cases hA.symm.trans hB
      cases hA'.symm.trans hB'
      exact hattached
    · rw [hothers b hb, hB] at hB'
      cases hB'
      exact .refl B
  · rw [hothers b fun heq => by rw [heq, hA] at hb; cases hb]
    exact hb

end Claimed

theorem Journal.Orderly.acquire (h : J.Orderly) (hJ : J.Sound)
    (hA : J.view a = some A) (hacts : J.Acts J₁ a (·.acquire t)) : J₁.Orderly := by
  intro b B hB hnone i e he
  by_cases hb : b = a
  · subst hb
    rw [hacts.view hJ hA] at hB
    cases hB
    exact h b A hA hnone i e he
  · rw [hacts.view_ne hJ hb] at hB
    exact h b B hB hnone i e he

theorem claimFirst_ok (hJ : J.Lawful D) (hclaims : D.claims)
    (hcs : J.Offers worker cs) (hnd : (cs.map (·.projectId)).Nodup)
    (horderly : D.orderly → vpsRequired ∈ worker.pools → J.Orderly)
    (h : claimFirst worker t duration leaseId cursor cs J = .ok (o, J')) :
    J.Proceeds D J' ∧ J.Claimed J' worker cs o := by
  induction cs generalizing J with
  | nil =>
    obtain ⟨rfl, rfl⟩ := pure_ok_iff.mp h
    refine ⟨hJ.refl, by rintro _ ⟨⟩, fun b B hB => ⟨B, hB, .inl ⟨rfl, rfl⟩⟩, by
      simp [seized], fun b B B' hB hB' => ?_, fun _ => id⟩
    cases hB.symm.trans hB'
    exact .refl B
  | cons c cs ih =>
    rw [claimFirst, bind_ok_iff] at h
    obtain ⟨available, J₁, havail, h⟩ := h
    obtain ⟨A, hA, hp⟩ := hcs c (by simp)
    have hrest : J.Offers worker cs := fun d hd => hcs d (by simp [hd])
    obtain ⟨hnotin, hnd⟩ := nodup_cons.mp hnd
    have hne : ∀ d ∈ cs, d.projectId ≠ c.projectId :=
      fun d hd heq => hnotin (mem_map.mpr ⟨d, hd, heq⟩)
    rcases mutationAllowed_ok hJ hA hp havail with ⟨rfl, rfl, hpass, hlock⟩ |
      ⟨rfl, rfl, hpass, howned⟩ | ⟨rfl, hex, hlock, hpass, hns, hacts⟩
    · -- Another attempt mutates the project.
      obtain ⟨hproceeds, hclaimed⟩ := ih hJ hrest hnd horderly h
      refine ⟨hproceeds, hclaimed.skip ?_⟩
      simp [seized_cons, hpass, hlock]
    · -- The lock is not needed, or the attempt has it.
      have hseized : J₁.seized worker (c :: cs) =
          if J₁.operationStateBusy worker c then J₁.seized worker cs else [] := by
        rw [seized_cons, hpass]
        by_cases hex : c.requiresExclusiveDelivery = true
        · simp [(howned hex).2]
        · simp [hex]
      obtain ⟨taken, J₂, htake, hnext⟩ := bind_ok_iff.mp h
      rcases takeCandidate_ok hJ hclaims hA hp (fun hex => (howned hex).1)
        (fun ho hv => horderly ho hv _ A hA) htake with
        ⟨rfl, rfl, hbusy⟩ | ⟨lease, rfl, hproceeds, hbusy, hgranted⟩
      · obtain ⟨hproceeds, hclaimed⟩ := ih hJ hrest hnd horderly hnext
        exact ⟨hproceeds, hclaimed.skip (by rw [hseized, hbusy]; rfl)⟩
      · obtain ⟨rfl, rfl⟩ := pure_ok_iff.mp hnext
        obtain ⟨A', hA', hmut, hlock, hattached⟩ := hgranted.own
        exact ⟨hproceeds, .of_grant hA ⟨hgranted.attemptId, hgranted.projectId⟩ hgranted.others
          ⟨A', hA', .inl ⟨hmut, hlock⟩, hattached⟩ (by rw [hseized, hbusy]; rfl)⟩
    · -- The lock is free and is taken.
      have hstep := hp.step_acquire (t := t) (hJ.attempts _ A hA) hex hns
      have hproceeds : J.Proceeds D J₁ := .of_step hJ hacts hA hstep fun _ => rfl
      have hA₁ := hacts.view hJ.sound hA
      have hbusy₁ : J₁.operationStateBusy worker c = J.operationStateBusy worker c :=
        operationStateBusy_congr hA hA₁ rfl rfl
      have hseized : J.seized worker (c :: cs) =
          if J.operationStateBusy worker c then c :: J.seized worker cs else [] := by
        rw [seized_cons, hpass, hex, hlock]
        simp
      have horderly₁ : D.orderly → vpsRequired ∈ worker.pools → J₁.Orderly :=
        fun ho hv => (horderly ho hv).acquire hJ.sound hA hacts
      obtain ⟨taken, J₂, htake, hnext⟩ := bind_ok_iff.mp h
      rcases takeCandidate_ok hproceeds.lawful hclaims hA₁ hp.acquire (fun _ => rfl)
        (fun ho hv => horderly₁ ho hv _ _ hA₁) htake with
        ⟨rfl, rfl, hbusy⟩ | ⟨lease, rfl, hproceeds', hbusy, hgranted⟩
      · have hrest₁ : J₂.Offers worker cs := by
          intro d hd
          obtain ⟨B, hB, hBp⟩ := hrest d hd
          exact ⟨B, by rw [hacts.view_ne hJ.sound (hp.attempt_ne hA hB hBp (hne d hd)), hB], hBp⟩
        obtain ⟨hproceeds', hclaimed⟩ := ih hproceeds.lawful hrest₁ hnd horderly₁ hnext
        refine ⟨hproceeds.trans hproceeds', hclaimed.seize hJ.sound hA hp hacts hns hrest hne
          (seized_acquire hJ.sound hA hp hacts ?_ hrest hne) ?_⟩
        · exact (hJ.attempts _ A hA).standing
        · rw [hseized, ← hbusy₁, hbusy]
          rfl
      · obtain ⟨rfl, rfl⟩ := pure_ok_iff.mp hnext
        obtain ⟨A', hA', -, -, hattached⟩ := hgranted.own
        refine ⟨hproceeds.trans hproceeds', .of_grant hA ⟨hgranted.attemptId, hgranted.projectId⟩
          (fun b hb => (hgranted.others b hb).trans (hacts.view_ne hJ.sound hb))
          ⟨A', hA', .inr ?_, hattached⟩ (by rw [hseized, ← hbusy₁, hbusy]; rfl)⟩
        rw [hgranted.nodeKind, ← hp.exclusive, hex]

/-- A claim on a journal in which nobody is to be woken. -/
theorem claimNextTransaction_ok (hJ : J.Lawful D) (hclaims : D.claims) (hatt : J.Attended)
    (horderly : D.orderly → vpsRequired ∈ worker.pools → J.Orderly)
    (h : claimNextTransaction worker t duration leaseId J = .ok (o, J')) :
    ∃ cs, J.loadReadyCandidates worker = .ok cs ∧ J.Proceeds D J' ∧
      J.Claimed J' worker (fairCandidateOrder cs J.cursor) o := by
  simp only [claimNextTransaction, ok_iff, wakeWaitingAttempts] at h
  obtain ⟨_, J₁, ⟨_, rfl, hwake⟩, _, rfl, cs, hcs, _, rfl, hfirst⟩ := h
  rw [wakeable_of_attended hJ hatt, each_nil_ok_iff] at hwake
  subst hwake
  obtain ⟨hpresents, hnd⟩ := loadReadyCandidates_ok hJ.sound hcs
  have hperm := fairCandidateOrder_perm cs J.cursor
  obtain ⟨hproceeds, hclaimed⟩ := claimFirst_ok hJ hclaims
    (fun d hd => hpresents d (hperm.mem_iff.mp hd)) ((hperm.map _).nodup_iff.mpr hnd) horderly hfirst
  exact ⟨cs, hcs, hproceeds, hclaimed⟩

end Loop

/-! ### Renewal -/

theorem renewLeaseTransaction_proceeds {supplied : WorkflowLeaseV1}
    {lease : ValidLease sha256} (hJ : J.Lawful D)
    (h : renewLeaseTransaction supplied t duration J = .ok (lease, J')) : J.Proceeds D J' := by
  simp only [renewLeaseTransaction, ok_iff, ite_ok_iff, ofContract_ok_iff] at h
  obtain ⟨_, rfl, row, hrow, _, hactive, _, -, h⟩ := h
  rcases h with ⟨-, -, rfl⟩ | ⟨-, expiry, hexpiry, h⟩
  · exact hJ.refl
  rcases h with ⟨-, -, rfl⟩ | ⟨-, renewed, hrenewed, c, J₇, hupdate, _, -, _, J₉, happend, -, rfl⟩
  · exact hJ.refl
  simp only [WorkflowLeaseV1.renewed, Check.ok_iff] at hrenewed
  obtain ⟨_, -, hsealed⟩ := hrenewed
  have hbody := sealed_ok hsealed
  obtain ⟨⟨renewed, digest⟩, hvalid⟩ := renewed
  obtain rfl := hbody
  obtain ⟨A, hA⟩ := hJ.sound.view_isSome (hJ.sound.lease row (mem_of_lookup hrow))
  have hentry := entry_of_lease hA hrow
  have hcoherent := ((hJ.attempts _ A hA).evidenced.lease _ _ hentry).coherent
  have hid : row.leaseJson.1.leaseId = supplied.leaseId :=
    hcoherent.leaseId.symm.trans (key_of_lookup hrow)
  have hwhere := lease_where (q := fun l => l.state = .active &&
    l.leaseDigest = row.leaseJson.1.leaseDigest) hrow rfl
  rw [← hid] at hwhere
  obtain ⟨-, hacts⟩ := updateLeases_ok
    (q := fun l => l.leaseId = row.leaseJson.1.leaseId && l.state = .active &&
      l.leaseDigest = row.leaseJson.1.leaseDigest) hupdate
    (fun l hl => by simpa only [Bool.and_assoc] using hwhere l hl) fun _ => rfl
  obtain ⟨hbounded, hmax⟩ := boundedLeaseExpiry_ok hexpiry
  exact .of_step hJ (hacts.trans (appendTransition_ok happend _)) hA
    (.renew ⟨⟨_, digest⟩, hvalid⟩ ⟨hentry, hactive⟩ rfl ⟨hbounded, hmax⟩) id

end Rdashboard
