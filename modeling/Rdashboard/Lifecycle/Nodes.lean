import Rdashboard.Lifecycle.Step

/-! # Nodes along the moves of an attempt

Every move changes the nodes of an attempt in the same few ways: a succeeded or cancelled node
is never touched again, and a node starts only when its dependencies have succeeded.
`Attempt.Moves` says this of a pair of attempts; it composes, and carries what an attempt
records about its manifest (`Declared`) and the order of its work (`Paced`). -/

namespace Rdashboard

open Relational Option

variable {sha256 : Sha256}

/-- A node in this state was released for work. -/
def WorkflowNodeStateV1.started (s : WorkflowNodeStateV1) : Prop :=
  s = .ready ∨ s = .leased ∨ s = .succeeded ∨ s = .failed ∨ s = .needsReconcile

/-- A node in this state has its work before it. -/
def WorkflowNodeStateV1.outstanding (s : WorkflowNodeStateV1) : Prop :=
  s = .blocked ∨ s = .ready ∨ s = .leased

/-! ### Columns that no statement writes -/

def AttemptRow.fixed (a : AttemptRow) : Uuid × Uuid × Nat × EvidenceDigest × Int :=
  (a.attemptId, a.requestId, a.attemptNumber, a.preparationKey, a.createdAtMs)

def RequestRow.fixed (r : RequestRow) : (Uuid × ProjectId × EvidenceDigest × GitCommitId) ×
    WorkflowExecutionModeV1 × ValidManifest × Int :=
  ((r.requestId, r.projectId, r.workflowPolicyDigest, r.sourceSha), r.operationKind,
    r.manifestJson, r.createdAtMs)

def NodeRow.fixed (n : NodeRow) : (Uuid × WorkflowNodeId × Nat) × WorkflowNodeKindV1 ×
    WorkflowNodeActivationV1 × WorkflowProfileId × WorkflowWorkerPoolV1 :=
  ((n.attemptId, n.nodeId, n.ordinal), n.nodeKind, n.activation, n.profileId, n.workerPool)

/-- How a node row may change; `g` is whether it may be released. -/
structure NodeRow.Moves (g : Prop) (n n' : NodeRow) : Prop where
  fixed : n'.fixed = n.fixed
  settled : n.state.isSettled = true → n' = n
  dormant : n.state = .dormant → n'.state = .dormant ∨ n'.state = .cancelled
  started : n'.state.started → n.state.started ∨ g
  outstanding : n'.state.outstanding → n.state.outstanding

namespace NodeRow.Moves

variable {g : Prop} {n n' n'' : NodeRow}

theorem refl (g : Prop) (n : NodeRow) : n.Moves g n :=
  ⟨rfl, fun _ => rfl, .inl, .inl, id⟩

theorem trans (h₁ : n.Moves g n') (h₂ : n'.Moves g n'') : n.Moves g n'' where
  fixed := h₂.fixed.trans h₁.fixed
  settled := fun h => by
    have h' := h₁.settled h
    rw [h₂.settled (h' ▸ h), h']
  dormant := fun h => by
    rcases h₁.dormant h with h' | h'
    · exact h₂.dormant h'
    · exact .inr (h₂.settled (by rw [h']; rfl) ▸ h')
  started := fun h => (h₂.started h).elim h₁.started .inr
  outstanding := fun h => h₁.outstanding (h₂.outstanding h)

theorem of_started (hfixed : n'.fixed = n.fixed) (hn : n.state = .ready ∨ n.state = .leased) :
    n.Moves g n' := by
  constructor
  · exact hfixed
  · rcases hn with hn | hn <;> simp [hn, WorkflowNodeStateV1.isSettled]
  · rcases hn with hn | hn <;> simp [hn]
  · exact fun _ => .inl (hn.elim .inl (.inr ∘ .inl))
  · exact fun _ => hn.elim (.inr ∘ .inl) (.inr ∘ .inr)

theorem of_cancelled (hfixed : n'.fixed = n.fixed) (hs : n.state.isSettled = false)
    (hn' : n'.state = .cancelled) : n.Moves g n' := by
  constructor
  · exact hfixed
  all_goals simp [hs, hn', WorkflowNodeStateV1.started, WorkflowNodeStateV1.outstanding]

theorem of_released (hfixed : n'.fixed = n.fixed) (hn : n.state = .blocked) (hg : g)
    (hn' : n'.state = .ready) : n.Moves g n' := by
  constructor
  · exact hfixed
  all_goals simp [hn, hg, hn', WorkflowNodeStateV1.outstanding, WorkflowNodeStateV1.isSettled]

theorem succeeded (h : n.Moves g n') (hs : n.state = .succeeded) : n' = n :=
  h.settled (by rw [hs]; rfl)

theorem cancelled (h : n.Moves g n') (hs : n.state = .cancelled) : n' = n :=
  h.settled (by rw [hs]; rfl)

theorem nodeKind_eq (h : n.Moves g n') : n'.nodeKind = n.nodeKind := by
  have := h.fixed
  simp only [NodeRow.fixed, Prod.mk.injEq] at this
  exact this.2.1

end NodeRow.Moves

namespace Attempt

variable {k : WorkflowNodeId} {n : NodeRow} {A A' : Attempt sha256} {m : WorkflowNodeV1}

/-- How the nodes of an attempt may change; `g` are the nodes that may be released. -/
structure Moves (g : WorkflowNodeId → Prop) (A A' : Attempt sha256) : Prop where
  row : A'.row.fixed = A.row.fixed
  request : A'.request.fixed = A.request.fixed
  order : A'.order = A.order
  dependsOn : A'.dependsOn = A.dependsOn
  node : ∀ k n', A'.nodes k = some n' → ∃ n, A.nodes k = some n ∧ n.Moves (g k) n'
  kept : ∀ k n, A.nodes k = some n → ∃ n', A'.nodes k = some n'

namespace Moves

variable {g : WorkflowNodeId → Prop} {A'' : Attempt sha256}

theorem of_nodes_eq (hrow : A'.row.fixed = A.row.fixed) (hreq : A'.request.fixed = A.request.fixed)
    (horder : A'.order = A.order) (hdeps : A'.dependsOn = A.dependsOn)
    (hnodes : A'.nodes = A.nodes) : A.Moves g A' where
  row := hrow
  request := hreq
  order := horder
  dependsOn := hdeps
  node := fun _ n' h => ⟨n', hnodes ▸ h, .refl _ _⟩
  kept := fun _ n h => ⟨n, hnodes ▸ h⟩

theorem trans (h₁ : A.Moves g A') (h₂ : A'.Moves g A'') : A.Moves g A'' where
  row := h₂.row.trans h₁.row
  request := h₂.request.trans h₁.request
  order := h₂.order.trans h₁.order
  dependsOn := h₂.dependsOn.trans h₁.dependsOn
  node := fun k n'' h => by
    obtain ⟨n', hn', hm₂⟩ := h₂.node k n'' h
    obtain ⟨n, hn, hm₁⟩ := h₁.node k n' hn'
    exact ⟨n, hn, hm₁.trans hm₂⟩
  kept := fun k n h => by
    obtain ⟨n', hn'⟩ := h₁.kept k n h
    exact h₂.kept k n' hn'

theorem setNodes {p : NodeRow → Bool} {f : NodeRow → NodeRow} (hA : A.Moves g A')
    (h : ∀ k n, A'.nodes k = some n → p n = true → n.Moves (g k) (f n)) :
    A.Moves g (A'.setNodes p f) := by
  refine hA.trans ⟨rfl, rfl, rfl, rfl, fun k n' hn' => ?_, fun k n hn => ?_⟩
  · obtain ⟨n, hn, rfl⟩ := map_eq_some_iff.mp hn'
    refine ⟨n, hn, ?_⟩
    by_cases hp : p n = true
    · rw [assign_of_pos f hp]; exact h k n hn hp
    · rw [assign_of_neg f hp]; exact .refl _ _
  · exact ⟨assign p f n, by simp [Attempt.setNodes, hn]⟩

theorem refl : A.Moves g A := .of_nodes_eq rfl rfl rfl rfl rfl

section

variable (h : A.Moves g A')
include h

theorem policy_eq : A'.policy = A.policy := by
  have := h.request
  simp only [RequestRow.fixed, Prod.mk.injEq] at this
  rw [policy, policy, this.2.2.1]

theorem operationKind_eq : A'.request.operationKind = A.request.operationKind := by
  have := h.request
  simp only [RequestRow.fixed, Prod.mk.injEq] at this
  exact this.2.1

theorem projectId_eq : A'.request.projectId = A.request.projectId := by
  have := h.request
  simp only [RequestRow.fixed, Prod.mk.injEq] at this
  exact this.1.2.1

theorem exclusive_eq : A'.exclusive = A.exclusive := by
  have := h.request
  simp only [RequestRow.fixed, Prod.mk.injEq] at this
  funext kind
  rw [exclusive, exclusive, this.2.1, this.2.2.1]

theorem settled (hn : A.nodes k = some n)
    (hs : n.state.isSettled = true) : A'.nodes k = some n := by
  obtain ⟨n', hn'⟩ := h.kept k n hn
  obtain ⟨m, hm, hmove⟩ := h.node k n' hn'
  rw [hn] at hm
  cases hm
  rw [hn', hmove.settled hs]

theorem succeeded (hn : A.nodes k = some n)
    (hs : n.state = .succeeded) : A'.nodes k = some n := h.settled hn (by rw [hs]; rfl)

theorem state_succeeded (hs : A.state k = some .succeeded) : A'.state k = some .succeeded := by
  obtain ⟨n, hn, hstate⟩ := map_eq_some_iff.mp hs
  rw [state, h.succeeded hn hstate, map_some, hstate]

theorem gated (hk : A.Gated k) : A'.Gated k := by
  intro d hd
  rw [h.dependsOn] at hd
  exact h.state_succeeded (hk d hd)

/-- What an attempt records about its manifest stays recorded. -/
theorem declared (hA : A.Declared) : A'.Declared := by
  have hrow := h.row
  have hreq := h.request
  simp only [AttemptRow.fixed, RequestRow.fixed, Prod.mk.injEq] at hrow hreq
  obtain ⟨hid, hrid, -, hkey, hcreated⟩ := hrow
  obtain ⟨⟨hreqid, hproject, hpolicy, hsource⟩, -, hmanifest, hrcreated⟩ := hreq
  constructor
  · rw [hid]; exact hA.attemptId
  · rw [hrid, hreqid]; exact hA.requestId
  · rw [hmanifest, hproject]; exact hA.projectId
  · rw [hmanifest, hpolicy]; exact hA.policyDigest
  · rw [hkey, hproject, hsource, hpolicy]; exact hA.preparationKey
  · rw [hcreated, hrcreated]; exact hA.created
  · rw [h.policy_eq, h.order]; exact hA.order
  · intro k n' hn'
    obtain ⟨n, hn, hmove⟩ := h.node k n' hn'
    have hfixed := hmove.fixed
    simp only [NodeRow.fixed, Prod.mk.injEq] at hfixed
    obtain ⟨⟨f₁, f₂, f₃⟩, f₄, f₅, f₆, f₇⟩ := hfixed
    rw [f₁, f₂, f₃, f₄, f₅, f₆, f₇, hid, h.order, h.policy_eq]
    exact hA.node k n hn
  · intro m hm
    rw [h.policy_eq] at hm
    obtain ⟨n, hn⟩ := hA.declared m hm
    exact h.kept _ n hn
  · intro m hm
    rw [h.policy_eq] at hm
    rw [h.dependsOn]
    exact hA.dependsOn m hm

end

end Moves

/-! ### The moves of the scheduler -/

section Moves

variable {g : WorkflowNodeId → Prop} {B : Attempt sha256}
variable {nowMs : Int}

theorem Moves.setRow {f : AttemptRow → AttemptRow} (h : A.Moves g B)
    (hf : ∀ a, (f a).fixed = a.fixed) : A.Moves g (B.setRow f) :=
  h.trans (.of_nodes_eq (hf _) rfl rfl rfl rfl)

theorem Moves.setRequest {p : RequestRow → Bool} {f : RequestRow → RequestRow} (h : A.Moves g B)
    (hf : ∀ r, (f r).fixed = r.fixed) : A.Moves g (B.setRequest p f) :=
  h.trans (.of_nodes_eq rfl (assign_column (fun r _ => hf r) _) rfl rfl rfl)

theorem Moves.setLeases {p : LeaseRow sha256 → Bool} {f : LeaseRow sha256 → LeaseRow sha256}
    (h : A.Moves g B) : A.Moves g (B.setLeases p f) := h.trans (.of_nodes_eq rfl rfl rfl rfl rfl)

theorem Moves.releaseLock (h : A.Moves g B) : A.Moves g B.releaseLock :=
  h.trans (.of_nodes_eq rfl rfl rfl rfl rfl)

theorem Moves.settleNode {state : WorkflowNodeStateV1}
    {complete : Option Int → Option Int} (h : A.Moves g B) :
    A.Moves g (B.settleNode k state complete) := by
  refine setNodes h fun _ n _ hp => ?_
  simp only [where_iff] at hp
  exact .of_started rfl (.inr hp.2)

theorem Moves.revokeWork (h : A.Moves g B) : A.Moves g (B.revokeWork nowMs) := by
  refine setNodes h.setLeases fun _ n _ hp => .of_cancelled rfl ?_ rfl
  simp only [Bool.or_eq_true, decide_eq_true_eq] at hp
  rcases hp with ((hp | hp) | hp) | hp <;> rw [hp] <;> rfl

theorem Moves.failTerminal {cleanup : WorkflowCleanupStateV1} (h : A.Moves g B) :
    A.Moves g (B.failTerminal cleanup nowMs) := by
  exact setRequest (setRow h.revokeWork fun _ => rfl) fun _ => rfl

theorem Moves.closeLease {i : Uuid} {state : LeaseState}
    {digest : Option EvidenceDigest → Option EvidenceDigest} (h : A.Moves g B) :
    A.Moves g (B.closeLease i state nowMs digest) := h.trans (.of_nodes_eq rfl rfl rfl rfl rfl)

/-- Every move of an attempt moves its nodes, and releases only nodes whose dependencies have
succeeded. -/
theorem Step.moves {D : Discipline} (h : Step D A A')
    (hkey : ∀ k n, A.nodes k = some n → n.nodeId = k)
    (hprepare : ∀ k n, A.nodes k = some n → n.nodeKind = .hostPrepare → A.Gated k) :
    A.Moves A.Gated A' := by
  cases h with
  | giveBack nowMs active =>
    exact (Moves.refl.closeLease.settleNode).setRow fun _ => rfl
  | expireDeadline nowMs active notStarted =>
    exact (Moves.refl.closeLease.settleNode).failTerminal
  | expireMutation nowMs active node exclusive owned alone =>
    exact (Moves.refl.closeLease.settleNode).trans (.of_nodes_eq rfl rfl rfl rfl rfl)
  | commit r handoff active madeUnder fresh =>
    refine Moves.setRow (Moves.setNodes (.of_nodes_eq rfl rfl rfl rfl rfl) fun _ n _ hp => ?_)
      fun a => ?_
    · simp only [where_iff] at hp
      exact .of_started rfl (.inr hp.2)
    · split <;> rfl
  | failTerminal cleanup nowMs => exact Moves.refl.failTerminal
  | markReconcile cleanup nowMs => exact .of_nodes_eq rfl rfl rfl rfl rfl
  | touch nowMs => exact Moves.refl.setRow fun _ => rfl
  | advance k running gated =>
    refine Moves.setNodes .refl fun j n hn hp => ?_
    simp only [where_iff] at hp
    exact .of_released rfl hp.2 (hkey j n hn ▸ hp.1 ▸ gated) rfl
  | complete nowMs running held state done settled =>
    refine Moves.releaseLock (Moves.setRequest (Moves.setRow (Moves.setNodes .refl
      fun _ n _ hp => ?_) fun _ => rfl) fun _ => rfl)
    simp only [where_iff] at hp
    exact .of_cancelled rfl (by rw [hp.2]; rfl) rfl
  | completeShadow nowMs =>
    exact Moves.setRequest (Moves.setRow .refl fun _ => rfl) fun _ => rfl
  | reduce r node kind ready =>
    unfold Attempt.reduce Attempt.touch
    refine Moves.setRow (Moves.setNodes (.of_nodes_eq rfl rfl rfl rfl rfl) fun _ n _ hp => ?_)
      fun _ => rfl
    simp only [where_iff] at hp
    exact .of_started rfl (.inl hp.2)
  | grant lease nowMs grants =>
    refine Moves.setRow (Moves.setNodes (.of_nodes_eq rfl rfl rfl rfl rfl) fun _ n _ hp => ?_)
      fun _ => rfl
    simp only [where_iff] at hp
    exact .of_started rfl (.inl hp.1.2)
  | acquire nowMs => exact .of_nodes_eq rfl rfl rfl rfl rfl
  | bind b => exact .of_nodes_eq rfl rfl rfl rfl rfl
  | renew renewed => exact .of_nodes_eq rfl rfl rfl rfl rfl
  | settleCleanup c => exact .of_nodes_eq rfl rfl rfl rfl rfl
  | wake nowMs waiting =>
    refine Moves.setNodes (Moves.setRow .refl fun _ => rfl) fun k n hn hp => ?_
    simp only [where_iff] at hp
    exact .of_released rfl hp.2 (hprepare k n hn hp.1) rfl
  | supersede newRequestId cleanup nowMs =>
    exact Moves.setRequest (Moves.setRow (.revokeWork .refl) fun _ => rfl) fun _ => rfl

end Moves

/-! ### Work in order -/

/-- Nodes start after their dependencies; the source is there from the start, the rollback never
starts, and a shadow run leaves the nodes it does not execute alone. -/
structure Paced (A : Attempt sha256) : Prop where
  gated : ∀ k n, A.nodes k = some n → n.state.started → A.Gated k
  source : ∀ k n, A.nodes k = some n → n.nodeKind = .sourceAdmission → n.state = .succeeded
  rollback : ∀ k n, A.nodes k = some n → n.nodeKind = .rollback →
    n.state = .dormant ∨ n.state = .cancelled
  shadow : A.request.operationKind = .shadow → ∀ k n, A.nodes k = some n →
    shadowExecutes n.nodeKind = false → n.state = .cancelled

theorem Moves.paced {g : WorkflowNodeId → Prop} (h : A.Moves g A')
    (hg : ∀ k, g k → A.Gated k) (hA : A.Paced) : A'.Paced where
  gated := by
    intro k n' hn' hs
    obtain ⟨n, hn, hmove⟩ := h.node k n' hn'
    exact h.gated ((hmove.started hs).elim (hA.gated k n hn) (hg k))
  source := by
    intro k n' hn' hk
    obtain ⟨n, hn, hmove⟩ := h.node k n' hn'
    have hs := hA.source k n hn (hmove.nodeKind_eq ▸ hk)
    rw [hmove.succeeded hs, hs]
  rollback := by
    intro k n' hn' hk
    obtain ⟨n, hn, hmove⟩ := h.node k n' hn'
    rcases hA.rollback k n hn (hmove.nodeKind_eq ▸ hk) with hs | hs
    · exact hmove.dormant hs
    · exact .inr (hmove.cancelled hs ▸ hs)
  shadow := by
    intro hmode k n' hn' hk
    obtain ⟨n, hn, hmove⟩ := h.node k n' hn'
    have hs := hA.shadow (h.operationKind_eq ▸ hmode) k n hn (hmove.nodeKind_eq ▸ hk)
    rw [hmove.cancelled hs, hs]

theorem Declared.node_of_mem (hA : A.Declared)
    (hm : m ∈ A.policy.nodes) : ∃ n, A.nodes m.nodeId = some n ∧ n.nodeKind = m.kind := by
  have hlawful := A.request.manifestJson.lawful
  obtain ⟨n, hn⟩ := hA.declared m hm
  obtain ⟨-, -, -, m', q, hm', -, hkind, -⟩ := hA.node _ n hn
  have : m' = m := some.inj (hm'.symm.trans (hlawful.node_eq_some_iff.mpr ⟨hm, rfl⟩))
  exact ⟨n, hn, this ▸ hkind⟩

theorem Declared.mem_of_node (hA : A.Declared) (hn : A.nodes k = some n) :
    ∃ m ∈ A.policy.nodes, m.nodeId = k ∧ n.nodeKind = m.kind ∧ n.activation = m.activation := by
  obtain ⟨-, -, -, m, q, hm, -, hkind, hact, -⟩ := hA.node k n hn
  obtain ⟨hmem, hid⟩ := A.request.manifestJson.lawful.node_eq_some_iff.mp hm
  exact ⟨m, hmem, hid, hkind, hact⟩

/-- A node whose manifest dependencies are all sources is free to start. -/
theorem gated_of_source (hA : A.Declared)
    (hsource : ∀ k n, A.nodes k = some n → n.nodeKind = .sourceAdmission → n.state = .succeeded)
    (hm : m ∈ A.policy.nodes) (hkind : m.kind = .sourceAdmission ∨ m.kind = .hostPrepare) :
    A.Gated m.nodeId := by
  have hlawful := A.request.manifestJson.lawful
  intro d hd
  rw [hA.dependsOn m hm] at hd
  obtain ⟨x, hx, rfl⟩ := hlawful.dependency m hm d hd
  obtain ⟨n, hn, hnk⟩ := hA.node_of_mem hx
  have hxk : x.kind = .sourceAdmission := by
    rcases hkind with hk | hk
    · rw [hlawful.graph.sourceDepends m hm hk] at hd
      cases hd
    · exact hlawful.graph.prepareDepends m hm hk x hx hd
  rw [state, hn, map_some, hsource _ n hn (hnk.trans hxk)]

theorem Born.paced (hA : A.Born) : A.Paced := by
  have hinit : ∀ k n, A.nodes k = some n → ∃ waiting,
      n.state = initialNodeState A.request.operationKind waiting n.nodeKind :=
    fun k n hn => (hA.nodes k n hn).2
  have hsource : ∀ k n, A.nodes k = some n → n.nodeKind = .sourceAdmission →
      n.state = .succeeded := by
    intro k n hn hk
    obtain ⟨waiting, hs⟩ := hinit k n hn
    simpa [hk, initialNodeState] using hs
  refine ⟨?_, hsource, ?_, ?_⟩
  · intro k n hn hstarted
    obtain ⟨m, hm, rfl, hkind, -⟩ := hA.toDeclared.mem_of_node hn
    obtain ⟨waiting, hs⟩ := hinit _ n hn
    rw [hs, hkind] at hstarted
    refine gated_of_source hA.toDeclared hsource hm ?_
    -- only the source and the preparation start out released
    revert hstarted
    cases A.request.operationKind <;> cases waiting <;> cases m.kind <;>
      simp [initialNodeState, shadowExecutes, WorkflowNodeStateV1.started]
  · intro k n hn hk
    obtain ⟨waiting, hs⟩ := hinit k n hn
    rw [hs, hk]
    cases A.request.operationKind <;> simp [initialNodeState]
  · intro hmode k n hn hk
    obtain ⟨waiting, hs⟩ := hinit k n hn
    have hne : n.nodeKind ≠ .sourceAdmission := by
      intro h
      rw [h] at hk
      cases hk
    rw [hs, hmode]
    simp [initialNodeState, hk, hne]

end Attempt

end Rdashboard
