import Rdashboard.Lifecycle.Evidence

/-! # The standing of an attempt

What the state of an attempt, its mutation state, its lock, its request, its leases and its
nodes say about each other, and that every move keeps it so. -/

namespace Rdashboard

open Relational WorkflowNodeStateV1 Option WorkflowAttemptStateV1

variable {sha256 : Sha256}

/-- The state of the lock that goes with a mutation state. -/
def WorkflowMutationStateV1.lockState : WorkflowMutationStateV1 → Option LockState
  | .owned => some .held
  | .needsReconcile => some .needsReconcile
  | .notStarted | .complete => none

/-- The states an attempt can be in with a mutation state. -/
def WorkflowMutationStateV1.Fits : WorkflowMutationStateV1 → WorkflowAttemptStateV1 → Prop
  | .notStarted, state => state ≠ .needsReconcile
  | .owned, state => state = .running
  | .needsReconcile, state => state = .needsReconcile
  | .complete, state => state = .succeeded

namespace Attempt

variable {i : Uuid} {nowMs : Int} {k : WorkflowNodeId} {n : NodeRow}

structure Standing (A : Attempt sha256) : Prop where
  queued : A.row.state = .queued ∨ A.row.state = .waitingForMutation → ∀ i, A.leases i = none
  active : ∀ i e, A.ActiveLease i e → A.row.state = .running
  mutation : A.row.mutationState.Fits A.row.state
  live : A.row.state.isTerminal = false → A.request.state = .active
  settled : A.row.state.isTerminal = true → ∀ k n, A.nodes k = some n → ¬ n.state.outstanding
  lock : A.lock.map (·.state) = A.row.mutationState.lockState
  owner : ∀ k, A.lock = some k → k.projectId = A.request.projectId ∧ k.attemptId = A.row.attemptId
  /-- Only a deployment mutates its project, and only after the rest of its work. -/
  deploy : A.row.mutationState ≠ .notStarted →
    A.request.operationKind = .deploy ∧ A.ReadyToMutate
  exclusive : ∀ i e n, A.leases i = some e → A.nodes e.row.nodeId = some n →
    A.exclusive n.nodeKind = true → A.row.mutationState ≠ .notStarted
  reconcile : A.row.mutationState = .needsReconcile →
    ∃ k n, A.nodes k = some n ∧ A.exclusive n.nodeKind = true ∧ n.state = .needsReconcile

/-- How a lease row may change but for a grant. -/
structure LeaseTracks (l l' : LeaseRow sha256) : Prop where
  nodeId : l'.nodeId = l.nodeId
  operationState : l'.leaseJson.1.operationState = l.leaseJson.1.operationState
  holder : (l'.workerId, l'.hostId) = (l.workerId, l.hostId)
  active : l'.state = .active → l.state = .active

/-- Every lease was there before, on the same node, and was active if it is. -/
def Tracks (A A' : Attempt sha256) : Prop :=
  ∀ i e', A'.leases i = some e' → ∃ e, A.leases i = some e ∧ LeaseTracks e.row e'.row

section Frames

variable {g : WorkflowNodeId → Prop} {A A' B : Attempt sha256}

theorem Tracks.of_map {G : Uuid → LeaseEntry sha256 → LeaseEntry sha256}
    (h : ∀ i, A'.leases i = (A.leases i).map (G i))
    (hG : ∀ i e, LeaseTracks e.row (G i e).row) : A.Tracks A' := by
  intro i e' he'
  rw [h] at he'
  obtain ⟨e, he, rfl⟩ := map_eq_some_iff.mp he'
  exact ⟨e, he, hG i e⟩

theorem Tracks.of_eq (h : A'.leases = A.leases) : A.Tracks A' :=
  fun _ e he => ⟨e, h ▸ he, rfl, rfl, rfl, id⟩

theorem Tracks.setLeases {p : LeaseRow sha256 → Bool} {f : LeaseRow sha256 → LeaseRow sha256}
    (h : A.Tracks B) (hf : ∀ l, p l = true → LeaseTracks l (f l)) : A.Tracks (B.setLeases p f) := by
  intro i e'' he''
  obtain ⟨e', he', rfl⟩ := map_eq_some_iff.mp he''
  obtain ⟨e, he, ht⟩ := h i e' he'
  refine ⟨e, he, ?_⟩
  by_cases hp : p e'.row = true
  · rw [assign_of_pos f hp]
    have ht' := hf _ hp
    exact ⟨ht'.nodeId.trans ht.nodeId, ht'.operationState.trans ht.operationState,
      ht'.holder.trans ht.holder, ht.active ∘ ht'.active⟩
  · rw [assign_of_neg f hp]
    exact ht

theorem Keeps.tracks (h : A.Keeps A') : A.Tracks A' := by
  intro i e' he'
  obtain ⟨e, he, hmove⟩ := h.lease i e' he'
  have hfixed := hmove.fixed
  simp only [LeaseRow.fixed, Prod.mk.injEq] at hfixed
  refine ⟨e, he, hfixed.1.2.2.1, by rw [hfixed.2.2.1], ?_, fun hs => ?_⟩
  · rw [hfixed.2.1.1, hfixed.2.1.2.1]
  rcases hmove.state with h | ⟨-, h, -⟩
  · exact h ▸ hs
  · exact absurd hs h

theorem tracks_commit (r : ReceiptRow sha256) (state : WorkflowNodeStateV1) :
    A.Tracks (A.commit r state) := by
  have ht : A.Tracks (A.addReceipt r) := .of_map (fun _ => rfl) fun i e => by
    split <;> exact ⟨rfl, rfl, rfl, id⟩
  exact ht.setLeases fun _ _ => ⟨rfl, rfl, rfl, nofun⟩

theorem tracks_settleCleanup (c : CleanupRow sha256) (cleanup : WorkflowCleanupStateV1)
    (nowMs : Int) : A.Tracks (A.settleCleanup c cleanup nowMs) :=
  .of_map (fun _ => rfl) fun i e => by split <;> exact ⟨rfl, rfl, rfl, id⟩

theorem Evidenced.tracks_renew (h : A.Evidenced) {e : LeaseEntry sha256}
    {renewed : ValidLease sha256} (ha : A.ActiveLease i e)
    (hbody : renewed.1.toWorkflowLeaseBodyV1 =
      { e.row.leaseJson.1.toWorkflowLeaseBodyV1 with expiresAtMs := renewed.1.expiresAtMs }) :
    A.Tracks (A.renew e.row.leaseJson.1.leaseDigest renewed) := by
  have hstate := congrArg WorkflowLeaseBodyV1.operationState hbody
  intro j e' he'
  rcases leases_renew h ha hbody he' with ⟨rfl, rfl⟩ | ⟨-, he⟩
  · exact ⟨e, ha.1, rfl, hstate, rfl, id⟩
  · exact ⟨e', he, rfl, rfl, rfl, id⟩

theorem Tracks.trans (h₁ : A.Tracks A') (h₂ : A'.Tracks B) : A.Tracks B := by
  intro i e'' he''
  obtain ⟨e', he', ht'⟩ := h₂ i e'' he''
  obtain ⟨e, he, ht⟩ := h₁ i e' he'
  exact ⟨e, he, ht'.nodeId.trans ht.nodeId, ht'.operationState.trans ht.operationState,
    ht'.holder.trans ht.holder, ht.active ∘ ht'.active⟩

theorem Tracks.none (h : A.Tracks A') (hi : A.leases i = none) : A'.leases i = none := by
  cases hi' : A'.leases i with
  | none => rfl
  | some e' =>
    obtain ⟨e, he, -⟩ := h i e' hi'
    rw [hi] at he
    cases he

theorem Tracks.idle (h : A.Tracks A') (hA : A.Idle) : A'.Idle := by
  intro i e' ha
  obtain ⟨e, he, ht⟩ := h i e' ha.1
  exact hA i e ⟨he, ht.active ha.2⟩

theorem Moves.readyToMutate (h : A.Moves g A') (hA : A.ReadyToMutate) : A'.ReadyToMutate := by
  intro k n' hn' hex hkind
  obtain ⟨n, hn, hmove⟩ := h.node k n' hn'
  rw [hmove.nodeKind_eq] at hex hkind
  have hs := hA k n hn (h.exclusive_eq ▸ hex) hkind
  rw [hmove.succeeded hs, hs]

theorem revokeWork_idle : (A.revokeWork nowMs).Idle := by
  rintro i e' ⟨he', hs⟩
  obtain ⟨e, he, rfl⟩ := map_eq_some_iff.mp he'
  by_cases ha : e.row.state = .active
  · rw [assign_of_pos _ (by simp [ha])] at hs
    cases hs
  · rw [assign_of_neg _ (by simp [ha])] at hs
    exact ha hs

theorem revokeWork_settled
    (hn : (A.revokeWork nowMs).nodes k = some n) : ¬ n.state.outstanding := by
  obtain ⟨m, hm, rfl⟩ := map_eq_some_iff.mp hn
  intro hout
  by_cases hp : (decide (m.state = .dormant) || decide (m.state = .blocked) ||
      decide (m.state = .ready) || decide (m.state = .leased)) = true
  · unfold assign at hout
    rw [if_pos hp] at hout
    simp [outstanding] at hout
  · unfold assign at hout
    rw [if_neg hp] at hout
    rcases hout with h | h | h <;> simp [h] at hp

end Frames

/-! ### Keeping the standing -/

section Keeping

variable {g : WorkflowNodeId → Prop} {A A' : Attempt sha256}

/-- What a move that grants no lease has to establish. -/
theorem Standing.next (h : A.Standing) (hm : A.Moves g A') (ht : A.Tracks A')
    (queued : A'.row.state = .queued ∨ A'.row.state = .waitingForMutation →
      A.row.state = .queued ∨ A.row.state = .waitingForMutation)
    (active : A'.row.state = A.row.state ∨ A'.Idle)
    (mutation : A'.row.mutationState.Fits A'.row.state)
    (live : A'.row.state.isTerminal = false → A'.request.state = .active)
    (settled : A'.row.state.isTerminal = true → A.row.state.isTerminal = true ∨
      ∀ k n, A'.nodes k = some n → ¬ n.state.outstanding)
    (lock : A'.lock.map (·.state) = A'.row.mutationState.lockState)
    (owner : ∀ k, A'.lock = some k →
      k.projectId = A.request.projectId ∧ k.attemptId = A.row.attemptId)
    (deploy : A'.row.mutationState ≠ .notStarted → A.row.mutationState ≠ .notStarted ∨
      (A.request.operationKind = .deploy ∧ A.ReadyToMutate))
    (started : A.row.mutationState ≠ .notStarted → A'.row.mutationState ≠ .notStarted)
    (reconcile : A'.row.mutationState = .needsReconcile → A.row.mutationState = .needsReconcile ∨
      ∃ k n, A'.nodes k = some n ∧ A.exclusive n.nodeKind = true ∧ n.state = .needsReconcile) :
    A'.Standing where
  queued := fun hs i => ht.none (h.queued (queued hs) i)
  active := by
    intro i e' ha
    rcases active with hs | hidle
    · obtain ⟨e, he, htrack⟩ := ht i e' ha.1
      rw [hs]
      exact h.active i e ⟨he, htrack.active ha.2⟩
    · exact absurd ha (hidle i e')
  mutation := mutation
  live := live
  settled := by
    intro hs k n' hn'
    rcases settled hs with hA | hA
    · obtain ⟨n, hn, hmove⟩ := hm.node k n' hn'
      exact fun hout => h.settled hA k n hn (hmove.outstanding hout)
    · exact hA k n' hn'
  lock := lock
  owner := by
    have hrow := hm.row
    have hreq := hm.request
    simp only [AttemptRow.fixed, RequestRow.fixed, Prod.mk.injEq] at hrow hreq
    rw [hrow.1, hreq.1.2.1]
    exact owner
  deploy := by
    intro hs
    rw [hm.operationKind_eq]
    rcases deploy hs with hA | hA
    · exact ⟨(h.deploy hA).1, hm.readyToMutate (h.deploy hA).2⟩
    · exact ⟨hA.1, hm.readyToMutate hA.2⟩
  exclusive := by
    intro i e' n' he' hn' hex
    obtain ⟨e, he, htrack⟩ := ht i e' he'
    rw [htrack.nodeId] at hn'
    obtain ⟨n, hn, hmove⟩ := hm.node _ n' hn'
    rw [hmove.nodeKind_eq, hm.exclusive_eq] at hex
    exact started (h.exclusive i e n he hn hex)
  reconcile := by
    intro hs
    rw [hm.exclusive_eq]
    rcases reconcile hs with hA | hA
    · obtain ⟨k, n, hn, hex, hns⟩ := h.reconcile hA
      exact ⟨k, n, hm.settled hn (by rw [hns]; rfl), hex, hns⟩
    · exact hA

/-- A move that changes none of the states. -/
theorem Standing.frame (h : A.Standing) (hm : A.Moves g A') (ht : A.Tracks A')
    (hstate : A'.row.state = A.row.state) (hmut : A'.row.mutationState = A.row.mutationState)
    (hreq : A'.request.state = A.request.state) (hlock : A'.lock = A.lock) : A'.Standing := by
  refine h.next hm ht (by rw [hstate]; exact id) (.inl hstate) ?_ ?_ (by rw [hstate]; exact .inl)
    ?_ ?_ (by rw [hmut]; exact .inl) (by rw [hmut]; exact id) (by rw [hmut]; exact .inl)
  · rw [hstate, hmut]; exact h.mutation
  · rw [hstate, hreq]; exact h.live
  · rw [hlock, hmut]; exact h.lock
  · rw [hlock]; exact h.owner

/-- An attempt that has not begun to mutate its project is ended. -/
theorem Standing.finish (h : A.Standing) (hm : A.Moves g A') (ht : A.Tracks A')
    (hns : A.row.mutationState = .notStarted) (hstate : A'.row.state.isTerminal = true)
    (hmut : A'.row.mutationState = A.row.mutationState) (hlock : A'.lock = A.lock)
    (hidle : A'.Idle) (hdone : ∀ k n, A'.nodes k = some n → ¬ n.state.outstanding) :
    A'.Standing := by
  have hne : ∀ s, s.isTerminal = false → A'.row.state ≠ s := by
    rintro s hs rfl
    rw [hstate] at hs
    cases hs
  refine h.next hm ht ?_ (.inr hidle) ?_ ?_ (fun _ => .inr hdone) ?_ ?_ ?_ ?_ ?_
  · exact fun hs => hs.elim (fun h => absurd h (hne _ rfl)) fun h => absurd h (hne _ rfl)
  · rw [hmut, hns]; exact hne _ rfl
  · intro hs
    rw [hstate] at hs
    cases hs
  · rw [hlock, hmut]; exact h.lock
  · rw [hlock]; exact h.owner
  · rw [hmut]; exact .inl
  · rw [hmut]; exact id
  · rw [hmut]; exact .inl

end Keeping

/-! ### The moves of the scheduler -/

section Moves

variable {A A' : Attempt sha256}
variable {g : WorkflowNodeId → Prop}

theorem Declared.always (hA : A.Declared)
    (hn : A.nodes k = some n) (hkind : n.nodeKind ≠ .rollback) : n.activation = .always := by
  obtain ⟨m, hm, -, hk, hact⟩ := hA.mem_of_node hn
  rw [hact, A.request.manifestJson.lawful.activation_eq hm, if_neg (hk ▸ hkind)]

theorem IsFenced.idle_of_settled (h : A.IsFenced)
    (hdone : ∀ k n, A.nodes k = some n → ¬ n.state.outstanding) : A.Idle := by
  intro i e ha
  obtain ⟨n, hn, hs, -⟩ := h.node_of_active ha
  exact hdone _ n hn (.inr (.inr hs))

theorem shadowOutcome_settled (kind : WorkflowNodeKindV1) : ¬ (shadowOutcome kind).outstanding := by
  cases kind <;> simp [shadowOutcome, shadowExecutes, outstanding]

theorem closeLease_idle (hlease : ∀ i e, A.leases i = some e → e.row.leaseId = i)
    (alone : ∀ j f, A.ActiveLease j f → j = i) {state : LeaseState}
    {digest : Option EvidenceDigest → Option EvidenceDigest} (hs : state ≠ .active) :
    (A.closeLease i state nowMs digest).Idle := by
  rintro j f' ⟨hf', ha⟩
  obtain ⟨f, hf, rfl⟩ := map_eq_some_iff.mp hf'
  by_cases hp : f.row.leaseId = i ∧ f.row.state = .active
  · rw [assign_of_pos _ (by simpa using hp)] at ha
    exact hs ha
  · rw [assign_of_neg _ (by simpa using hp)] at ha
    exact hp ⟨(hlease j f hf).trans (alone j f ⟨hf, ha⟩), ha⟩

section

variable (h : A.Standing)
include h

theorem Standing.owned_of_held {k : LockRow} (hk : A.lock = some k)
    (hs : k.state = .held) : A.row.mutationState = .owned := by
  have := h.lock
  rw [hk, map_some, hs] at this
  cases hm : A.row.mutationState <;> rw [hm] at this <;> first | rfl | cases this

/-- An attempt that is left for reconciliation. -/
theorem Standing.setAside (hm : A.Moves g A')
    (ht : A.Tracks A') (ho : A.row.mutationState = .owned) (hidle : A'.Idle)
    (hstate : A'.row.state = .needsReconcile) (hmut : A'.row.mutationState = .needsReconcile)
    (hreq : A'.request.state = A.request.state)
    (hlock : A'.lock = A.lock.map fun k => { k with state := .needsReconcile, updatedAtMs := nowMs })
    (hnode : ∃ k n, A'.nodes k = some n ∧ A.exclusive n.nodeKind = true ∧
      n.state = .needsReconcile) : A'.Standing := by
  have hheld := h.lock
  have hrun := h.mutation
  rw [ho] at hheld hrun
  obtain ⟨k, hk, -⟩ := map_eq_some_iff.mp hheld
  refine h.next hm ht ?_ (.inr hidle) ?_ ?_ ?_ ?_ ?_ ?_ ?_ ?_
  · rw [hstate]
    rintro (hs | hs) <;> cases hs
  · rw [hmut, hstate]; rfl
  · rw [hreq]
    exact fun _ => h.live (.trans (congrArg _ hrun) rfl)
  · rw [hstate]
    exact fun hs => by cases hs
  · rw [hlock, hk, hmut]; rfl
  · intro k' hk'
    rw [hlock, hk] at hk'
    cases hk'
    exact h.owner k hk
  · exact fun _ => .inl (by rw [ho]; decide)
  · exact fun _ => by rw [hmut]; decide
  · exact fun _ => .inr hnode

/-- The work of an attempt is completed. -/
theorem Standing.complete {lock : LockRow}
    (hm : A.Moves g (A.complete nowMs)) (hA : A.Declared) (hpaced : A.Paced)
    (hfenced : A.IsFenced) (held : A.lock = some lock) (hheld : lock.state = .held)
    (done : ∀ k n, A.nodes k = some n → n.activation = .always → n.state = .succeeded) :
    (A.complete nowMs).Standing := by
  have ht : A.Tracks (A.complete nowMs) := .of_eq rfl
  have hdone : ∀ k n, A.nodes k = some n → ¬ n.state.outstanding := by
    intro k n hn hout
    by_cases hkind : n.nodeKind = .rollback
    · rcases hpaced.rollback k n hn hkind with h | h <;>
        simp [outstanding, h] at hout
    · simp [outstanding, done k n hn (hA.always hn hkind)] at hout
  have ho := h.owned_of_held held hheld
  refine h.next hm ht ?_ (.inr (ht.idle (hfenced.idle_of_settled hdone))) rfl ?_ (fun _ => .inr ?_)
    rfl ?_ ?_ ?_ ?_
  · rintro (hs | hs) <;> cases hs
  · exact fun hs => by cases hs
  · intro k n' hn'
    obtain ⟨n, hn, hmove⟩ := hm.node k n' hn'
    exact fun hout => hdone k n hn (hmove.outstanding hout)
  · exact fun _ hk => by cases hk
  · exact fun _ => .inl (by rw [ho]; decide)
  · exact fun _ hs => by cases hs
  · exact fun hs => by cases hs

theorem Standing.grant {lease : ValidLease sha256} (hm : A.Moves g (A.grant lease n.leaseGeneration nowMs))
    (hn : A.nodes lease.1.nodeId = some n) (live : A.row.state = .queued ∨ A.row.state = .running)
    (owned : A.exclusive n.nodeKind = true → A.row.mutationState = .owned) :
    (A.grant lease n.leaseGeneration nowMs).Standing := by
  have hmut : (A.grant lease n.leaseGeneration nowMs).row.mutationState = A.row.mutationState := rfl
  have hterminal : A.row.state.isTerminal = false := by
    rcases live with hs | hs <;> rw [hs] <;> rfl
  constructor
  · rintro (hs | hs) <;> cases hs
  · exact fun _ _ _ => rfl
  · have := h.mutation
    rw [hmut]
    cases hs : A.row.mutationState <;> rw [hs] at this
    · exact noConfusion
    · rfl
    all_goals
      rw [show A.row.state = _ from this] at live
      rcases live with live | live <;> cases live
  · exact fun _ => h.live hterminal
  · exact fun hs => by cases hs
  · exact h.lock
  · exact h.owner
  · intro hs
    exact ⟨(h.deploy hs).1, hm.readyToMutate (h.deploy hs).2⟩
  · intro i e n' he hn' hex
    rw [hmut]
    obtain ⟨m, hm', hmove⟩ := hm.node _ n' hn'
    rw [hmove.nodeKind_eq] at hex
    rcases leases_grant he with ⟨rfl, rfl⟩ | he
    · cases hm'.symm.trans hn
      rw [owned hex]
      decide
    · exact h.exclusive i e m he hm' hex
  · intro hs
    obtain ⟨k, m, hm', hex, hms⟩ := h.reconcile hs
    exact ⟨k, m, hm.settled hm' (by rw [hms]; rfl), hex, hms⟩

theorem Standing.wake (hm : A.Moves g (A.wake nowMs)) (hwait : A.row.state = .waitingForMutation) :
    (A.wake nowMs).Standing := by
  have hmut : A.row.mutationState = .notStarted := by
    have := h.mutation
    rw [hwait] at this
    cases hs : A.row.mutationState <;> rw [hs] at this <;> first | rfl | cases this
  have hnone := h.queued (.inr hwait)
  refine h.next hm (.of_eq rfl) (fun _ => .inr hwait) (.inr ?_) ?_ ?_ ?_ h.lock h.owner .inl id .inl
  · rintro i e ⟨he, -⟩
    have := (hnone i).symm.trans he
    cases this
  · rw [show (A.wake nowMs).row.mutationState = .notStarted from hmut]
    exact noConfusion
  · exact fun _ => h.live (by rw [hwait]; rfl)
  · exact nofun

end

theorem Step.standing {D : Discipline} (hstep : Step D A A') (hA : A.Declared) (hpaced : A.Paced)
    (hfenced : A.IsFenced) (hev : A.Evidenced) (hm : A.Moves A.Gated A') (h : A.Standing) :
    A'.Standing := by
  cases hstep with
  | giveBack nowMs active => exact h.frame hm Keeps.keeps_giveBack.tracks rfl rfl rfl rfl
  | expireDeadline nowMs active notStarted =>
    exact h.finish hm Keeps.keeps_expireDeadline.tracks notStarted rfl rfl rfl revokeWork_idle
      fun _ _ => revokeWork_settled
  | @expireMutation i e n nowMs active node exclusive owned alone =>
    have hidle : (A.closeLease i .expired nowMs id).Idle :=
      closeLease_idle hev.leaseId alone (by decide)
    obtain ⟨n', hn', hs, -⟩ := hfenced.node_of_active active
    obtain rfl : n' = n := some.inj (hn'.symm.trans node)
    refine h.setAside hm Keeps.keeps_expireMutation.tracks owned hidle rfl rfl rfl rfl
      ⟨e.row.nodeId, { n' with state := .needsReconcile, completedAtMs := some nowMs }, ?_,
        exclusive, rfl⟩
    exact nodes_setNodes_self hn' (by simp [(hA.node _ n' hn').2.1, hs])
  | commit r handoff active madeUnder fresh =>
    refine h.frame hm (tracks_commit r _) ?_ ?_ rfl rfl <;>
    · simp only [Attempt.commit]
      split <;> rfl
  | failTerminal cleanup nowMs running notStarted settled =>
    exact h.finish hm Keeps.refl.revokeWork.tracks notStarted rfl rfl rfl revokeWork_idle
      fun _ _ => revokeWork_settled
  | markReconcile cleanup nowMs owned idle node exclusive failed settled =>
    exact h.setAside hm (.of_eq rfl) owned idle rfl rfl rfl rfl ⟨_, _, node, exclusive, failed⟩
  | complete nowMs running held state done settled =>
    exact h.complete hm hA hpaced hfenced held state done
  | completeShadow nowMs running notStarted done settled =>
    have hdone : ∀ k n, A.nodes k = some n → ¬ n.state.outstanding := fun k n hn => by
      rw [done k n hn]
      exact shadowOutcome_settled _
    exact h.finish hm (.of_eq rfl) notStarted rfl rfl rfl (hfenced.idle_of_settled hdone) hdone
  | grant lease nowMs grants => exact h.grant hm grants.node grants.live grants.owned
  | acquire nowMs notStarted running deploy ready =>
    refine h.next hm (.of_eq rfl) id (.inl rfl) running h.live .inl rfl ?_
      (fun _ => .inr ⟨deploy, ready⟩) (fun _ hs => by cases hs) fun hs => by cases hs
    rintro k ⟨⟩
    exact ⟨rfl, rfl⟩
  | renew renewed active body bounded =>
    exact h.frame hm (hev.tracks_renew active body) rfl rfl rfl rfl
  | settleCleanup c cleanup nowMs lease settled =>
    exact h.frame hm (tracks_settleCleanup c cleanup nowMs) rfl rfl rfl rfl
  | wake nowMs waiting => exact h.wake hm waiting
  | supersede newRequestId cleanup nowMs live notStarted settled =>
    exact h.finish hm Keeps.refl.revokeWork.tracks notStarted rfl rfl rfl revokeWork_idle
      fun _ _ => revokeWork_settled
  | _ => exact h.frame hm (.of_eq rfl) rfl rfl rfl rfl

theorem Born.standing (h : A.Born) : A.Standing := by
  have hterminal : A.row.state.isTerminal = false := by
    rcases h.state with hs | hs <;> rw [hs] <;> rfl
  constructor
  · exact fun _ => h.leases
  · simp [ActiveLease, h.leases]
  · rw [h.mutationState]
    rcases h.state with hs | hs <;> rw [hs] <;> exact noConfusion
  · exact fun _ => h.requestState
  · simp [hterminal]
  · rw [h.lock, h.mutationState]; rfl
  · simp [h.lock]
  · exact absurd h.mutationState
  · simp [h.leases]
  · simp [h.mutationState]

end Moves

end Attempt

end Rdashboard
