import Rdashboard.Lifecycle.Lawful

/-! # What a lawful attempt knows

The release graph orders the work of an attempt, so the state of one node says a lot about the
others: a mutation starts when everything before it has succeeded, it runs alone, and when the
reduction is ready no worker is busy.  These are the facts under which the scheduler makes its
moves. -/

namespace Rdashboard

open Relational WorkflowNodeKindV1 Option

variable {sha256 : Sha256} {D : Discipline}
variable {kind : WorkflowNodeKindV1}

theorem WorkflowNodeKindV1.stage_of_isMutation (h : kind.isMutation = true) : 5 ≤ kind.stage := by
  cases kind <;> first | decide | cases h

theorem WorkflowNodeKindV1.stage_of_not_isMutation
    (h : kind.isMutation = false) : kind.stage ≤ 4 := by
  cases kind <;> first | decide | cases h

theorem exclusiveDelivery_iff {mode : WorkflowExecutionModeV1} {manifest : ProjectManifestV2} :
    exclusiveDelivery mode manifest kind = true ↔
      mode = .deploy ∧ (kind.isMutation = true ∨
        (manifest.workflow.deliveryMode = .selfUpdateHandoff ∧ kind = .releaseBuild)) := by
  simp [exclusiveDelivery, isSelfUpdateHandoffRelease]

namespace Attempt

variable {A : Attempt sha256} {k j : WorkflowNodeId} {n m : NodeRow}

namespace Lawful

variable {i : Uuid} {e : LeaseEntry sha256} {x : WorkflowNodeV1} {q : WorkflowExecutionProfileV1}

theorem policy_lawful (A : Attempt sha256) : A.policy.Lawful := A.request.manifestJson.lawful

theorem kind_unique (h : A.Lawful D) (hn : A.nodes k = some n) (hm : A.nodes j = some m)
    (hkind : n.nodeKind = m.nodeKind) (hv : n.nodeKind ≠ .verification) : k = j := by
  obtain ⟨x, hx, rfl, hxk, -⟩ := h.declared.mem_of_node hn
  obtain ⟨y, hy, rfl, hyk, -⟩ := h.declared.mem_of_node hm
  rw [(policy_lawful A).graph.unique x hx y hy (hxk.symm.trans (hkind.trans hyk)) (hxk ▸ hv)]

/-- When the dependencies of a node have succeeded, all nodes of earlier stages have. -/
theorem earlier (h : A.Lawful D) (hn : A.nodes k = some n) (hgated : A.Gated k)
    (hm : A.nodes j = some m) (hlt : m.nodeKind.stage < n.nodeKind.stage) :
    m.state = .succeeded := by
  obtain ⟨x, hx, rfl, hxk, -⟩ := h.declared.mem_of_node hn
  obtain ⟨y, hy, rfl, hyk, -⟩ := h.declared.mem_of_node hm
  have hdeps : ∀ z ∈ A.policy.nodes, A.Gated z.nodeId → ∀ d ∈ A.policy.nodes,
      d.nodeId ∈ z.dependsOn → A.state d.nodeId = some .succeeded := by
    intro z hz hg d _ hmem
    exact hg d.nodeId (by rw [h.declared.dependsOn z hz]; exact hmem)
  have hy' : A.state y.nodeId = some .succeeded := by
    refine (policy_lawful A).earlier_of_dependencies
      (fun z hz hs d hd hmem => ?_) hx (hdeps x hx hgated) hy (by rw [← hxk, ← hyk]; exact hlt)
    obtain ⟨row, hrow, hstate⟩ := map_eq_some_iff.mp hs
    exact hdeps z hz (h.paced.gated _ row hrow (.inr (.inr (.inl hstate)))) d hd hmem
  rw [state, hm] at hy'
  exact some.inj hy'

/-- The verification of a self-update has succeeded when its build may start. -/
theorem handoff_verified (h : A.Lawful D) (hmode : A.policy.deliveryMode = .selfUpdateHandoff)
    (hn : A.nodes k = some n) (hgated : A.Gated k) (hkind : n.nodeKind = .releaseBuild)
    (hm : A.nodes j = some m) (hv : m.nodeKind = .verification) : m.state = .succeeded := by
  obtain ⟨x, hx, rfl, hxk, -⟩ := h.declared.mem_of_node hn
  obtain ⟨y, hy, rfl, hyk, -⟩ := h.declared.mem_of_node hm
  have hmem := (policy_lawful A).handoff_build hmode x hx (hxk.symm.trans hkind) y hy
    (hyk.symm.trans hv)
  have := hgated y.nodeId (by rw [h.declared.dependsOn x hx]; exact hmem)
  rw [state, hm] at this
  exact some.inj this

/-! ### Mutations -/

section

variable (h : A.Lawful D)
include h

/-- A mutation may start only when everything but the reduction has succeeded. -/
theorem readyToMutate (hn : A.nodes k = some n) (hgated : A.Gated k)
    (hex : A.exclusive n.nodeKind = true) : A.ReadyToMutate := by
  intro j m hm hmex hred
  obtain ⟨hdeploy, hkind⟩ := exclusiveDelivery_iff.mp hex
  have hnot : m.nodeKind.isMutation = false := by
    cases hmut : m.nodeKind.isMutation with
    | false => rfl
    | true =>
      rw [exclusive, exclusiveDelivery_iff.mpr ⟨hdeploy, .inl hmut⟩] at hmex
      cases hmex
  rcases hkind with hmut | ⟨hmode, hbuild⟩
  · have h₁ := stage_of_isMutation hmut
    have h₂ := stage_of_not_isMutation hnot
    exact h.earlier hn hgated hm (by omega)
  · have hne : m.nodeKind ≠ .releaseBuild := by
      intro hb
      rw [exclusive, exclusiveDelivery_iff.mpr ⟨hdeploy, .inr ⟨hmode, hb⟩⟩] at hmex
      cases hmex
    have hstage : m.nodeKind.stage ≤ 3 := by
      obtain ⟨x, hx, -, hxk, -⟩ := h.declared.mem_of_node hm
      rw [hxk]
      exact (policy_lawful A).handoff_kind hmode x hx
    cases hmk : m.nodeKind
    case verification => exact h.handoff_verified hmode hn hgated hbuild hm hmk
    case sourceAdmission => exact h.earlier hn hgated hm (by rw [hmk, hbuild]; decide)
    case hostPrepare => exact h.earlier hn hgated hm (by rw [hmk, hbuild]; decide)
    case releaseBuild => exact absurd hmk hne
    case deterministicReduce => exact absurd hmk hred
    all_goals
      rw [hmk] at hstage
      exact absurd hstage (by decide)

theorem active_node (ha : A.ActiveLease i e) :
    ∃ n, A.nodes e.row.nodeId = some n ∧ n.state = .leased ∧
      n.nodeKind = e.row.leaseJson.1.nodeKind ∧ n.nodeKind ≠ .deterministicReduce := by
  obtain ⟨n, hn, hs, -⟩ := h.fenced.node_of_active ha
  have hold := h.evidenced.lease i e ha.1
  obtain ⟨m, hm, hkind⟩ := hold.node
  obtain rfl : m = n := some.inj (hm.symm.trans hn)
  refine ⟨m, hm, hs, hkind.symm, fun hred => ?_⟩
  have := e.row.leaseJson.worker_kind
  rw [hkind, hred] at this
  cases this

/-- The lease over an exclusive delivery belongs to an attempt that owns its project. -/
theorem owned_of_active (ha : A.ActiveLease i e) (hn : A.nodes e.row.nodeId = some n)
    (hex : A.exclusive n.nodeKind = true) : A.row.mutationState = .owned := by
  have hs := h.standing.exclusive i e n ha.1 hn hex
  have hfits := h.standing.active i e ha ▸ h.standing.mutation
  generalize A.row.mutationState = m at *
  cases m <;> first | rfl | exact absurd rfl hs | cases hfits

/-- Any other lease belongs to an attempt that has not begun to mutate its project. -/
theorem notStarted_of_active (ha : A.ActiveLease i e) (hn : A.nodes e.row.nodeId = some n)
    (hex : A.exclusive n.nodeKind = false) : A.row.mutationState = .notStarted := by
  by_contra hmut
  obtain ⟨m, hm, hs, -, hred⟩ := h.active_node ha
  obtain rfl : m = n := some.inj (hm.symm.trans hn)
  rw [(h.standing.deploy hmut).2 _ m hm hex hred] at hs
  cases hs

theorem exclusive_unique (hn : A.nodes k = some n) (hm : A.nodes j = some m)
    (hnex : A.exclusive n.nodeKind = true) (hmex : A.exclusive m.nodeKind = true)
    (hns : n.state = .ready ∨ n.state = .leased) (hms : m.state = .ready ∨ m.state = .leased) :
    k = j := by
  have hng := h.paced.gated k n hn (hns.imp_right .inl)
  have hmg := h.paced.gated j m hm (hms.imp_right .inl)
  have hstage : n.nodeKind.stage = m.nodeKind.stage := by
    rcases lt_trichotomy n.nodeKind.stage m.nodeKind.stage with hlt | heq | hlt
    · rw [h.earlier hm hmg hn hlt] at hns
      rcases hns with hns | hns <;> cases hns
    · exact heq
    · rw [h.earlier hn hng hm hlt] at hms
      rcases hms with hms | hms <;> cases hms
  have hroll : ∀ {k n}, A.nodes k = some n → n.state = .ready ∨ n.state = .leased →
      n.nodeKind ≠ .rollback := by
    intro k n hn hs hk
    rcases h.paced.rollback k n hn hk with h | h <;> rw [h] at hs <;>
      rcases hs with hs | hs <;> cases hs
  have hver : ∀ {kind}, A.exclusive kind = true → kind ≠ .verification := by
    rintro kind hex rfl
    rcases (exclusiveDelivery_iff.mp hex).2 with h | ⟨-, h⟩ <;> cases h
  refine h.kind_unique hn hm ?_ (hver hnex)
  have hnr := hroll hn hns
  have hmr := hroll hm hms
  have hnv := hver hnex
  have hmv := hver hmex
  -- The only stages with two kinds are those of the verifications and of the rollback.
  revert hstage hnr hmr hnv hmv
  cases n.nodeKind <;> cases m.nodeKind <;> simp [stage]

/-- A mutation runs alone. -/
theorem active_alone {j : Uuid} {f : LeaseEntry sha256}
    (ha : A.ActiveLease i e) (hn : A.nodes e.row.nodeId = some n)
    (hex : A.exclusive n.nodeKind = true) (hf : A.ActiveLease j f) : j = i := by
  obtain ⟨n', hn', hns, -⟩ := h.active_node ha
  cases hn'.symm.trans hn
  obtain ⟨m, hm, hms, -, -⟩ := h.active_node hf
  have hmex : A.exclusive m.nodeKind = true := by
    cases hmex : A.exclusive m.nodeKind with
    | true => rfl
    | false =>
      have h₁ := h.owned_of_active ha hn hex
      rw [h.notStarted_of_active hf hm hmex] at h₁
      cases h₁
  exact h.fenced.active_unique hf ha (h.exclusive_unique hm hn hmex hex (.inr hms) (.inr hns))

/-- The kinds of node that a failed receipt leaves for reconciliation are the exclusive ones. -/
theorem exclusive_of_active (ha : A.ActiveLease i e) : A.exclusive e.row.leaseJson.1.nodeKind =
      (e.row.leaseJson.1.nodeKind.isMutation || (decide (A.request.operationKind = .deploy) &&
        isSelfUpdateHandoffRelease A.request.manifestJson.1 e.row.leaseJson.1.nodeKind)) := by
  obtain ⟨n, hn, hs, hkind, -⟩ := h.active_node ha
  rw [← hkind, exclusive, exclusiveDelivery]
  cases hmode : A.request.operationKind with
  | deploy => simp
  | shadow =>
    cases hmut : n.nodeKind.isMutation with
    | false => simp
    | true =>
      have hex : shadowExecutes n.nodeKind = false := by
        revert hmut
        cases n.nodeKind <;> decide
      rw [h.paced.shadow hmode _ n hn hex] at hs
      cases hs

theorem node_of_lease (he : A.leases i = some e)
    (hn : A.nodes e.row.nodeId = some n) : n.nodeKind = e.row.leaseJson.1.nodeKind := by
  obtain ⟨m, hm, hkind⟩ := (h.evidenced.lease i e he).node
  cases hm.symm.trans hn
  exact hkind.symm

theorem step_expire (t : Int) (ha : A.ActiveLease e.row.leaseId e) : Step D A (A.expire e t) := by
  obtain ⟨n, hn, -, hkind, -⟩ := h.active_node ha
  rw [expire, ← hkind]
  split
  · rename_i hex
    exact .expireMutation t ha hn hex (h.owned_of_active ha hn hex)
      fun j f hf => h.active_alone ha hn hex hf
  · rename_i hex
    split
    · exact .expireDeadline t ha (h.notStarted_of_active ha hn (Bool.eq_false_of_not_eq_true hex))
    · exact .giveBack t ha

end

/-! ### Leases that were there -/

theorem leased_of_succeeded (h : A.Lawful D) (hn : A.nodes k = some n) (hs : n.state = .succeeded)
    (hkind : n.nodeKind.isControllerManaged = false) :
    ∃ i e, A.leases i = some e ∧ e.row.nodeId = k := by
  obtain ⟨r, hr, -⟩ := h.evidenced.output k n hn hs hkind
  obtain ⟨hk, e, he, her⟩ := h.evidenced.receipt k r hr
  exact ⟨r.leaseId, e, he, (h.evidenced.madeUnder _ e r he her).1.nodeId.symm.trans hk⟩

/-- A node past the preparation that may start belongs to an attempt that runs, or has. -/
theorem started_of_gated (h : A.Lawful D) (hn : A.nodes k = some n) (hgated : A.Gated k)
    (hstage : 2 ≤ n.nodeKind.stage) :
    A.row.state ≠ .queued ∧ A.row.state ≠ .waitingForMutation := by
  -- the preparation has succeeded, and for that it was leased
  obtain ⟨x, hx, hxk⟩ := (policy_lawful A).graph.prepared
  obtain ⟨m, hm, hmk⟩ := h.declared.node_of_mem hx
  rw [hxk] at hmk
  have hs := h.earlier hn hgated hm (by rw [hmk]; exact hstage)
  obtain ⟨i, e, he, -⟩ := h.leased_of_succeeded hm hs (by rw [hmk]; rfl)
  have hne : ¬ (A.row.state = .queued ∨ A.row.state = .waitingForMutation) := by
    intro hs
    rw [h.standing.queued hs i] at he
    cases he
  exact ⟨fun hs => hne (.inl hs), fun hs => hne (.inr hs)⟩

theorem stage_of_exclusive (hex : A.exclusive kind = true) : 2 ≤ kind.stage := by
  obtain ⟨-, hmut | ⟨-, rfl⟩⟩ := exclusiveDelivery_iff.mp hex
  · have := stage_of_isMutation hmut
    omega
  · decide

/-! ### Reductions -/

/-- An exclusive node that has failed keeps the reduction from being ready. -/
theorem not_reconcile_of_reducible (h : A.Lawful D) (hn : A.nodes k = some n)
    (hkind : n.nodeKind = .deterministicReduce) (hready : n.state = .ready) :
    A.row.mutationState ≠ .needsReconcile := by
  intro hmut
  have hgated := h.paced.gated k n hn (.inl hready)
  obtain ⟨j, m, hm, hex, hs⟩ := h.standing.reconcile hmut
  obtain ⟨-, hmk | ⟨-, hmk⟩⟩ := exclusiveDelivery_iff.mp hex
  · have hmg := h.paced.gated j m hm (by simp [WorkflowNodeStateV1.started, hs])
    have := stage_of_isMutation hmk
    rw [h.earlier hm hmg hn (by rw [hkind]; exact this.trans_lt' (by decide))] at hready
    cases hready
  · rw [h.earlier hn hgated hm (by rw [hmk, hkind]; decide)] at hs
    cases hs

theorem running_of_reducible (h : A.Lawful D) (hn : A.nodes k = some n)
    (hkind : n.nodeKind = .deterministicReduce) (hready : n.state = .ready) :
    A.row.state = .running := by
  have hgated := h.paced.gated k n hn (.inl hready)
  obtain ⟨hq, hw⟩ := h.started_of_gated hn hgated (by rw [hkind]; decide)
  have hterminal : A.row.state.isTerminal = false := by
    cases ht : A.row.state.isTerminal with
    | false => rfl
    | true => exact absurd (.inr (.inl hready)) (h.standing.settled ht k n hn)
  have hrec : A.row.state ≠ .needsReconcile := by
    intro hs
    have hfits := h.standing.mutation
    rw [hs] at hfits
    cases hmut : A.row.mutationState <;> rw [hmut] at hfits
    · exact hfits rfl
    · cases hfits
    · exact h.not_reconcile_of_reducible hn hkind hready hmut
    · cases hfits
  revert hq hw hterminal hrec
  cases A.row.state <;> simp [WorkflowAttemptStateV1.isTerminal]

/-! ### Operation states -/

/-- Verifications and some release builds use an operation state. -/
theorem uses_fits (hx : x ∈ A.policy.nodes)
    (hq : A.policy.profile x.profileId = some q) (huses : nodeUsesOperationState x q.adapterId = true) :
    (x.kind = .verification ∨ x.kind = .releaseBuild) ∧ q.cacheClass = .preparedRun ∧
      q.workerPool = x.kind.expectedPool := by
  obtain ⟨q', hq', hadapter, hpool, hmatch⟩ := (policy_lawful A).fitsProfile x hx
  cases hq.symm.trans hq'
  have hkind : x.kind = .verification ∨ x.kind = .releaseBuild := by
    simp only [nodeUsesOperationState, Bool.or_eq_true, where_iff] at huses
    rcases huses with (ha | ha) | ⟨ha, -⟩ <;> rw [ha] at hadapter <;> revert hadapter <;>
      cases x.kind <;> simp [expectedAdapter]
  refine ⟨hkind, ?_, hpool.symm⟩
  rcases hkind with hk | hk <;> rw [hk] at hmatch <;>
    simp only [profileMatchesKind, where_iff] at hmatch <;> exact hmatch.2

theorem uses_of_verification (hx : x ∈ A.policy.nodes)
    (hkind : x.kind = .verification) : A.UsesOperationState x.nodeId := by
  obtain ⟨q, hq, hadapter, -⟩ := (policy_lawful A).fitsProfile x hx
  refine ⟨x, q, (policy_lawful A).node_eq_some_iff.mpr ⟨hx, rfl⟩, hq, ?_⟩
  rw [hkind, expectedAdapter, List.mem_singleton] at hadapter
  simp [nodeUsesOperationState, hadapter]

theorem uses_of_feeds (h : A.FeedsRelease k) : A.UsesOperationState k := by
  obtain ⟨x, hx, hfeeds⟩ := h
  obtain ⟨hmem, rfl⟩ := (policy_lawful A).node_eq_some_iff.mp hx
  simp only [verificationFeedsSharedReleaseOutput, where_iff] at hfeeds
  exact uses_of_verification hmem hfeeds.1

theorem feeds_of_build (hx : x ∈ A.policy.nodes) (hkind : x.kind = .releaseBuild)
    (hq : A.policy.profile x.profileId = some q) (huses : nodeUsesOperationState x q.adapterId = true) :
    ∃ v ∈ A.policy.nodes, v.nodeId ∈ x.dependsOn ∧ v.kind = .verification ∧
      A.FeedsRelease v.nodeId := by
  have hlawful := policy_lawful A
  obtain ⟨v, hv, hvx, hvk⟩ : ∃ v ∈ A.policy.nodes, v.nodeId ∈ x.dependsOn ∧ v.kind = .verification := by
    have hadapter := huses
    simp only [nodeUsesOperationState, Bool.or_eq_true, where_iff] at hadapter
    rcases hadapter with (ha | ha) | ⟨-, hin⟩
    · obtain ⟨q', hq', hexpected, -⟩ := hlawful.fitsProfile x hx
      cases hq.symm.trans hq'
      rw [hkind, ha] at hexpected
      simp [expectedAdapter] at hexpected
    · obtain ⟨v, hv, hvk, hvx⟩ := hlawful.native x hx hkind q hq ha
      exact ⟨v, hv, hvx, hvk⟩
    · obtain ⟨v, hv, hvx, hout⟩ := hlawful.input x hx _ hin
      rw [hlawful.outputContract_eq hv] at hout
      refine ⟨v, hv, hvx, ?_⟩
      revert hout
      cases v.kind <;> simp [expectedOutput]
  refine ⟨v, hv, hvx, hvk, v, hlawful.node_eq_some_iff.mpr ⟨hv, rfl⟩, ?_⟩
  simp only [verificationFeedsSharedReleaseOutput, where_iff, List.any_eq_true]
  refine ⟨hvk, x, hx, ⟨hkind, hvx⟩, ?_⟩
  rw [show A.request.manifestJson.1.workflow.profile x.profileId = some q from hq]
  exact huses

/-- By the time such a build can start, the operation state is bound. -/
theorem bound_of_build (h : A.Lawful D) (hx : x ∈ A.policy.nodes) (hkind : x.kind = .releaseBuild)
    (hq : A.policy.profile x.profileId = some q)
    (huses : nodeUsesOperationState x q.adapterId = true) (hgated : A.Gated x.nodeId) :
    A.binding.isSome = true := by
  obtain ⟨v, hv, hvx, hvk, hfeeds⟩ := feeds_of_build hx hkind hq huses
  obtain ⟨n, hn, hnk⟩ := h.declared.node_of_mem hv
  have hs := hgated v.nodeId (by rw [h.declared.dependsOn x hx]; exact hvx)
  rw [state, hn] at hs
  obtain ⟨i, e, he, hnode⟩ := h.leased_of_succeeded hn (some.inj hs) (by rw [hnk, hvk]; rfl)
  exact h.bound.feeds i e he (by rw [hnode]; exact hfeeds)

end Lawful

end Attempt

end Rdashboard
