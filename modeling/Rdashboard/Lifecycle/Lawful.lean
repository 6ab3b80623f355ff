import Rdashboard.Lifecycle.Standing

/-! # Lawful attempts

The invariant of an attempt: all that the modules before this one say about it, together with
the account of open cleanups and the binding of its operation state.  Every new attempt has it
and every move keeps it. -/

namespace Rdashboard

open Relational Option Function

variable {sha256 : Sha256} {D : Discipline}

namespace Attempt

variable {A A' : Attempt sha256} {k : WorkflowNodeId}

/-- An attempt whose cleanup is recorded as complete has no open cleanup, if the callers are
careful. -/
def Accounted (D : Discipline) (A : Attempt sha256) : Prop :=
  D.careful → A.row.cleanupState = .complete → A.DebtFree

/-- The active lease `i` carries an operation state, on the host that the binding names. -/
def BusyOn (A : Attempt sha256) (b : BindingRow) (i : Uuid) (e : LeaseEntry sha256) : Prop :=
  A.ActiveLease i e ∧ (e.row.workerId, e.row.hostId) = (b.workerId, b.hostId) ∧
    e.row.leaseJson.1.operationState.isSome = true

/-- The operation state of an attempt is bound to all that need it, and used by one at a time. -/
structure Bound (D : Discipline) (A : Attempt sha256) : Prop where
  key : ∀ b, A.binding = some b → b.stateKey = b.stateJson.stateKey ∧
    b.stateJson.validateFor sha256 (A.operationStateSubject b.workerId b.hostId) = .ok ()
  consumers : D.orderly → ∀ b, A.binding = some b →
    ∀ k, A.OutstandingConsumer k → k ∈ b.stateJson.consumerNodes
  carries : ∀ i e, A.leases i = some e → A.UsesOperationState e.row.nodeId →
    e.row.leaseJson.1.operationState.isSome = true
  feeds : ∀ i e, A.leases i = some e → A.FeedsRelease e.row.nodeId → A.binding.isSome = true
  alone : ∀ b, A.binding = some b → ∀ i j e f, A.BusyOn b i e → A.BusyOn b j f → i = j

structure Lawful (D : Discipline) (A : Attempt sha256) : Prop where
  declared : A.Declared
  paced : A.Paced
  fenced : A.IsFenced
  evidenced : A.Evidenced
  standing : A.Standing
  accounted : A.Accounted D
  bound : A.Bound D

theorem Lawful.mono {D' : Discipline} (hcareful : D'.careful → D.careful)
    (horderly : D'.orderly → D.orderly) (h : A.Lawful D) : A.Lawful D' :=
  { h with
    accounted := fun hD => h.accounted (hcareful hD)
    bound := { h.bound with consumers := fun hD => h.bound.consumers (horderly hD) } }

/-! ### Open cleanups -/

section Accounted

variable {e : LeaseEntry sha256}

theorem LeaseEntry.owesCleanup_of_active (h : e.row.state = .active) :
    e.owesCleanup = false := by simp [LeaseEntry.owesCleanup, h]

theorem DebtFree.revokeWork {nowMs : Int} (h : A.DebtFree) (hidle : A.Idle) :
    (A.revokeWork nowMs).DebtFree := by
  intro i e' he'
  obtain ⟨e, he, rfl⟩ := map_eq_some_iff.mp he'
  have hs : e.row.state ≠ .active := fun hs => hidle i e ⟨he, hs⟩
  rw [assign_of_neg _ (by simp [hs])]
  exact h i e he

theorem DebtFreeBut.commit {r : ReceiptRow sha256} {state : WorkflowNodeStateV1} (h : A.DebtFreeBut r.leaseId)
    (hlease : ∀ i e, A.leases i = some e → e.row.leaseId = i) (ha : A.ActiveLease r.leaseId e)
    (hr : r.receiptJson.1.cleanupResult ≠ .pending) : (A.commit r state).DebtFree := by
  intro i e' he'
  rcases leases_commit hlease ha he' with ⟨-, -, hs, hreceipt, -⟩ | ⟨hi, he⟩
  · simp [LeaseEntry.owesCleanup, hs, hreceipt, hr]
  · exact h i e' hi he

theorem Step.accounted (hstep : Step D A A') (hev : A.Evidenced) (h : A.Accounted D) :
    A'.Accounted D := by
  intro hD hc
  cases hstep with
  | giveBack | expireDeadline | expireMutation => cases hc
  | commit r handoff active madeUnder fresh =>
    simp only [Attempt.commit] at hc
    split at hc
    · cases hc
    · rename_i hr
      exact DebtFreeBut.commit (fun j f _ => h hD hc j f) hev.leaseId active hr
  | failTerminal cleanup nowMs running notStarted settled =>
    obtain ⟨hidle, hfree⟩ := settled hD hc
    exact hfree.revokeWork hidle
  | markReconcile cleanup nowMs owned idle node exclusive failed settled => exact settled hD hc
  | complete nowMs running held state done settled => exact settled
  | completeShadow nowMs running notStarted done settled => exact settled
  | grant lease nowMs grants =>
    intro i e he
    rcases leases_grant he with ⟨-, rfl⟩ | he
    · exact LeaseEntry.owesCleanup_of_active rfl
    · exact h hD hc i e he
  | renew renewed active body bounded =>
    intro j e' he'
    rcases leases_renew hev active body he' with ⟨rfl, rfl⟩ | ⟨-, he⟩
    · exact LeaseEntry.owesCleanup_of_active active.2
    · exact h hD hc j e' he
  | settleCleanup c cleanup nowMs lease settled =>
    intro i e' he'
    obtain ⟨e, he, rfl⟩ := map_eq_some_iff.mp he'
    by_cases hi : i = c.leaseId
    · rw [if_pos hi]
      rfl
    · rw [if_neg hi]
      exact settled hc i e hi he
  | supersede newRequestId cleanup nowMs live notStarted settled =>
    obtain ⟨hidle, hfree⟩ := settled hD hc
    exact hfree.revokeWork hidle
  | _ => exact h hD hc

end Accounted

/-! ### Operation states -/

section Bound

variable {g : WorkflowNodeId → Prop}

theorem Moves.operationStateSubject_eq (hm : A.Moves g A') :
    A'.operationStateSubject = A.operationStateSubject := by
  have hrow := hm.row
  have hreq := hm.request
  simp only [AttemptRow.fixed, RequestRow.fixed, Prod.mk.injEq] at hrow hreq
  funext workerId hostId
  simp only [operationStateSubject, hrow, hreq]

theorem Moves.usesOperationState_iff (hm : A.Moves g A') :
    A'.UsesOperationState k ↔ A.UsesOperationState k := by
  unfold UsesOperationState
  rw [hm.policy_eq]

theorem Moves.feedsRelease_iff (hm : A.Moves g A') : A'.FeedsRelease k ↔ A.FeedsRelease k := by
  have hmanifest : A'.request.manifestJson = A.request.manifestJson :=
    congrArg (fun f => f.2.2.1) hm.request
  unfold FeedsRelease
  rw [hm.policy_eq, hmanifest]

theorem Moves.outstandingConsumer (hm : A.Moves g A')
    (h : A'.OutstandingConsumer k) : A.OutstandingConsumer k := by
  obtain ⟨huses, n', hn', hout⟩ := h
  obtain ⟨n, hn, hmove⟩ := hm.node k n' hn'
  exact ⟨hm.usesOperationState_iff.mp huses, n, hn, hmove.outstanding hout⟩

theorem Bound.next (h : A.Bound D) (hm : A.Moves g A') (ht : A.Tracks A')
    (hb : A'.binding = A.binding) : A'.Bound D where
  key := by
    rw [hb, hm.operationStateSubject_eq]
    exact h.key
  consumers := by
    intro hD b hbind k hk
    exact h.consumers hD b (hb ▸ hbind) k (hm.outstandingConsumer hk)
  carries := by
    intro i e' he' huses
    obtain ⟨e, he, htrack⟩ := ht i e' he'
    rw [htrack.operationState]
    rw [htrack.nodeId] at huses
    exact h.carries i e he (hm.usesOperationState_iff.mp huses)
  feeds := by
    intro i e' he' hfeeds
    obtain ⟨e, he, htrack⟩ := ht i e' he'
    rw [htrack.nodeId] at hfeeds
    rw [hb]
    exact h.feeds i e he (hm.feedsRelease_iff.mp hfeeds)
  alone := by
    intro b hbind i j e' f' he' hf'
    have hbusy : ∀ i e', A'.BusyOn b i e' → ∃ e, A.BusyOn b i e := by
      rintro i e' ⟨ha, hholder, hs⟩
      obtain ⟨e, he, htrack⟩ := ht i e' ha.1
      exact ⟨e, ⟨he, htrack.active ha.2⟩, htrack.holder.symm.trans hholder,
        htrack.operationState ▸ hs⟩
    obtain ⟨e, he⟩ := hbusy i e' he'
    obtain ⟨f, hf⟩ := hbusy j f' hf'
    exact h.alone b (hb ▸ hbind) i j e f he hf

theorem Bound.grant {lease : ValidLease sha256} {n : NodeRow} {nowMs : Int} (h : A.Bound D)
    (hm : A.Moves g (A.grant lease n.leaseGeneration nowMs)) (grants : A.Grants D n lease.1) :
    (A.grant lease n.leaseGeneration nowMs).Bound D := by
  constructor
  · exact h.key
  · exact fun hD b hb k hk => h.consumers hD b hb k (hm.outstandingConsumer hk)
  · intro i e he huses
    rcases leases_grant he with ⟨-, rfl⟩ | he
    · exact grants.carries (hm.usesOperationState_iff.mp huses)
    · exact h.carries i e he (hm.usesOperationState_iff.mp huses)
  · intro i e he hfeeds
    rcases leases_grant he with ⟨-, rfl⟩ | he
    · exact grants.bound (hm.feedsRelease_iff.mp hfeeds)
    · exact h.feeds i e he (hm.feedsRelease_iff.mp hfeeds)
  · -- While another lease is busy on the host of the binding, no lease with a state is granted.
    intro b hb i j e f he hf
    have hfree : ∀ i e, A.BusyOn b i e → lease.1.operationState.isSome = true → False := by
      rintro i e ⟨ha, hholder, hs⟩ hnew
      obtain ⟨s, hs'⟩ := isSome_iff_exists.mp hnew
      obtain ⟨hw, hh, -⟩ := grants.attached b s hb hs'
      have := grants.free (by rw [show A.binding = some b from hb]; rfl) hnew i e ha
        ((congrArg Prod.fst hholder).trans hw.symm) ((congrArg Prod.snd hholder).trans hh.symm)
      exact absurd hs (by simp [this])
    rcases leases_grant he.1.1 with ⟨rfl, rfl⟩ | hie <;>
      rcases leases_grant hf.1.1 with ⟨rfl, rfl⟩ | hjf
    · rfl
    · exact (hfree j f ⟨⟨hjf, hf.1.2⟩, hf.2⟩ he.2.2).elim
    · exact (hfree i e ⟨⟨hie, he.1.2⟩, he.2⟩ hf.2.2).elim
    · exact h.alone b hb i j e f ⟨⟨hie, he.1.2⟩, he.2⟩ ⟨⟨hjf, hf.1.2⟩, hf.2⟩

/-- A move grants a lease, or binds an operation state, or leaves both as they are. -/
theorem Step.tracks (hstep : Step D A A') (hev : A.Evidenced) :
    (∃ n nowMs, ∃ lease, A.Grants D n lease.1 ∧ A' = A.grant lease n.leaseGeneration nowMs) ∨
    (∃ b, A.Binds D b ∧ A' = A.bind b) ∨ (A.Tracks A' ∧ A'.binding = A.binding) := by
  cases hstep with
  | grant lease nowMs grants => exact .inl ⟨_, nowMs, lease, grants, rfl⟩
  | bind b binds => exact .inr (.inl ⟨b, binds, rfl⟩)
  | giveBack => exact .inr (.inr ⟨Keeps.keeps_giveBack.tracks, rfl⟩)
  | expireDeadline => exact .inr (.inr ⟨Keeps.keeps_expireDeadline.tracks, rfl⟩)
  | expireMutation => exact .inr (.inr ⟨Keeps.keeps_expireMutation.tracks, rfl⟩)
  | commit r handoff active madeUnder fresh => exact .inr (.inr ⟨tracks_commit r _, rfl⟩)
  | failTerminal cleanup nowMs => exact .inr (.inr ⟨Keeps.refl.revokeWork.tracks, rfl⟩)
  | renew renewed active body bounded =>
    exact .inr (.inr ⟨hev.tracks_renew active body, rfl⟩)
  | settleCleanup c cleanup nowMs =>
    exact .inr (.inr ⟨tracks_settleCleanup c cleanup nowMs, rfl⟩)
  | supersede newRequestId cleanup nowMs =>
    exact .inr (.inr ⟨Keeps.refl.revokeWork.tracks, rfl⟩)
  | _ => exact .inr (.inr ⟨.of_eq rfl, rfl⟩)

theorem Binds.bound {b : BindingRow} (hb : A.Binds D b) (h : A.Bound D) : (A.bind b).Bound D where
  key := fun c hc => by cases hc; exact ⟨hb.key, hb.valid⟩
  consumers := fun hD c hc => by cases hc; exact hb.consumers hD
  carries := h.carries
  feeds := fun _ _ _ _ => rfl
  alone := by
    intro c hc i j e f he hf
    cases hc
    have := hb.free i e he.1 (congrArg Prod.fst he.2.1) (congrArg Prod.snd he.2.1)
    exact absurd he.2.2 (by simp [this])

theorem Step.bound (hstep : Step D A A') (hev : A.Evidenced) (hm : A.Moves A.Gated A')
    (h : A.Bound D) : A'.Bound D := by
  rcases hstep.tracks hev with ⟨n, nowMs, lease, grants, rfl⟩ | ⟨b, binds, rfl⟩ | ⟨ht, hb⟩
  · exact h.grant hm grants
  · exact binds.bound h
  · exact h.next hm ht hb

end Bound

/-! ### The invariant -/

theorem initialNodeState_ne_leased (mode : WorkflowExecutionModeV1) (waiting : Bool)
    (kind : WorkflowNodeKindV1) : initialNodeState mode waiting kind ≠ .leased := by
  cases mode <;> cases waiting <;> cases kind <;> simp [initialNodeState, shadowExecutes]

theorem Lawful.node_key (h : A.Lawful D) {n : NodeRow}
    (hn : A.nodes k = some n) : n.nodeId = k := (h.declared.node k n hn).2.1

theorem Born.lawful (h : A.Born) : A.Lawful D where
  declared := h.toDeclared
  paced := h.paced
  fenced := by
    refine Fencing.Fenced.empty (fun k g hs => ?_) fun i => by simp [claim, h.leases]
    obtain ⟨n, hn, he⟩ := map_eq_some_iff.mp hs
    obtain ⟨waiting, hw⟩ := (h.nodes k n hn).2
    simp only [NodeRow.slot, Prod.mk.injEq, decide_eq_true_eq] at he
    exact absurd (hw.symm.trans he.1) (initialNodeState_ne_leased _ _ _)
  evidenced := h.evidenced
  standing := h.standing
  accounted := fun _ _ i e he => by
    rw [h.leases] at he
    cases he
  bound := ⟨by simp [h.binding], by simp [h.binding], by simp [h.leases], by simp [h.leases],
    by simp [h.binding]⟩

theorem Lawful.moves (h : A.Lawful D) (hstep : Step D A A') : A.Moves A.Gated A' := by
  refine hstep.moves (fun _ _ => h.node_key) fun k n hn hkind => ?_
  obtain ⟨m, hm, rfl, hk, -⟩ := h.declared.mem_of_node hn
  exact gated_of_source h.declared h.paced.source hm (.inr (hk.symm.trans hkind))

/-- Every move keeps an attempt lawful. -/
theorem Step.lawful (hstep : Step D A A') (h : A.Lawful D) : A'.Lawful D := by
  have hkey : ∀ k n, A.nodes k = some n → n.nodeId = k := fun _ _ => h.node_key
  have hm := h.moves hstep
  exact
    { declared := hm.declared h.declared
      paced := hm.paced (fun _ => id) h.paced
      fenced := hstep.fenced hkey h.evidenced.leaseId h.fenced
      evidenced := hstep.evidenced hkey h.paced hm h.evidenced
      standing := hstep.standing h.declared h.paced h.fenced h.evidenced hm h.standing
      accounted := hstep.accounted h.evidenced h.accounted
      bound := hstep.bound h.evidenced hm h.bound }

theorem Lawful.of_steps (h : A.Lawful D)
    (hsteps : Relation.ReflTransGen (Step D) A A') : A'.Lawful D := by
  induction hsteps with
  | refl => exact h
  | tail _ hstep ih => exact hstep.lawful ih

end Attempt

end Rdashboard
