import Rdashboard.Lifecycle.Consequences

/-! # What lasts

An attempt that has stopped makes no moves any more but those that settle its cleanups.  An
attempt that has begun to mutate its project ends by completing or by waiting for somebody to
reconcile it.  An operation state stays bound to the worker that it was bound to. -/

namespace Rdashboard

open Relational WorkflowAttemptStateV1

variable {sha256 : Sha256} {D : Discipline}

/-- Is the work of the attempt over, unless somebody reconciles it? -/
def WorkflowAttemptStateV1.isStopped (state : WorkflowAttemptStateV1) : Bool :=
  state.isTerminal || state = .needsReconcile

namespace Attempt

variable {A A' : Attempt sha256}
variable {b : BindingRow} {P : Uuid → Prop}

/-- What every move of a lawful attempt preserves, any number of moves preserve. -/
theorem Lawful.along {I : Attempt sha256 → Prop} (h : A.Lawful D) (hA : I A)
    (hstep : ∀ B C, B.Lawful D → Step D B C → I B → I C)
    (hsteps : Relation.ReflTransGen (Step D) A A') : I A' := by
  induction hsteps with
  | refl => exact hA
  | tail hAB hBC ih => exact hstep _ _ (h.of_steps hAB) hBC ih

/-! ### Stopped attempts -/

/-- The attempt without its cleanups and without the time of its last update. -/
def core (A : Attempt sha256) : Attempt sha256 :=
  { A with
    row := { A.row with cleanupState := .complete, updatedAtMs := 0 }
    leases := fun i => (A.leases i).map fun e => { e with cleanup := none } }

theorem core_settleCleanup (c : CleanupRow sha256) (cleanup : WorkflowCleanupStateV1) (t : Int) :
    (A.settleCleanup c cleanup t).core = A.core := by
  simp only [core, settleCleanup, addCleanup, setRow, mk.injEq, Option.map_map, true_and, and_true]
  funext i
  congr 1
  funext e
  split <;> rfl

theorem Lawful.idle_of_stopped (h : A.Lawful D) (hs : A.row.state.isStopped = true) : A.Idle := by
  intro i e ha
  rw [h.standing.active i e ha] at hs
  cases hs

/-- A stopped attempt only settles its cleanups. -/
theorem Step.core_eq (hstep : Step D A A') (h : A.Lawful D) (hs : A.row.state.isStopped = true) :
    A'.core = A.core := by
  have hidle := h.idle_of_stopped hs
  have hnot : ∀ state, state.isStopped = false → A.row.state ≠ state := by
    rintro state hstate rfl
    cases hs.symm.trans hstate
  cases hstep with
  | giveBack nowMs active | expireDeadline nowMs active | expireMutation nowMs active
  | commit r handoff active | renew renewed active => exact (hidle _ _ active).elim
  | failTerminal cleanup nowMs running | advance k running | complete nowMs running
  | completeShadow nowMs running => exact (hnot .running rfl running).elim
  | acquire nowMs notStarted running => exact (hnot .running rfl running).elim
  | markReconcile cleanup nowMs owned =>
    have hfits := h.standing.mutation
    rw [owned] at hfits
    exact (hnot .running rfl hfits).elim
  | reduce r node kind ready =>
    exact (hnot .running rfl (h.running_of_reducible node kind ready)).elim
  | grant lease nowMs grants =>
    exact (grants.live.elim (hnot .queued rfl) (hnot .running rfl)).elim
  | bind b binds => exact (binds.live.elim (hnot .queued rfl) (hnot .running rfl)).elim
  | wake nowMs waiting => exact (hnot .waitingForMutation rfl waiting).elim
  | supersede newRequestId cleanup nowMs live notStarted =>
    have hfits := h.standing.mutation
    rw [notStarted] at hfits
    simp [isStopped, live, show A.row.state ≠ .needsReconcile from hfits] at hs
  | touch nowMs => rfl
  | settleCleanup c cleanup nowMs => exact core_settleCleanup c cleanup nowMs

theorem Lawful.core_of_steps (h : A.Lawful D) (hs : A.row.state.isStopped = true)
    (hsteps : Relation.ReflTransGen (Step D) A A') : A'.core = A.core := by
  refine h.along (I := (·.core = A.core)) rfl (fun B C hB hBC ih => ?_) hsteps
  have hstate : B.row.state = A.row.state := congrArg (·.row.state) ih
  exact (hBC.core_eq hB (by rw [hstate]; exact hs)).trans ih

/-! ### Attempts that mutate their project -/

theorem Step.started (hstep : Step D A A') (h : A.row.mutationState ≠ .notStarted) :
    A'.row.mutationState ≠ .notStarted := by
  cases hstep with
  | commit r handoff =>
    simp only [Attempt.commit]
    split <;> exact h
  | expireMutation | markReconcile | complete | acquire => exact WorkflowMutationStateV1.noConfusion
  | _ => exact h

/-- An attempt that mutates its project is not given up. -/
theorem Standing.not_given_up (h : A.Standing) (hm : A.row.mutationState ≠ .notStarted) :
    A.row.state ≠ .superseded ∧ A.row.state ≠ .failed := by
  have hfits := h.mutation
  cases hstate : A.row.mutationState with
  | notStarted => exact absurd hstate hm
  | owned | needsReconcile | complete =>
    rw [hstate] at hfits
    rw [show A.row.state = _ from hfits]
    exact ⟨noConfusion, noConfusion⟩

/-- A move that does not complete an attempt leaves it its lock. -/
theorem Step.keeps_lock (h : Step D A A')
    (hs : A'.row.state ≠ .succeeded) (hlock : A.lock.isSome = true) : A'.lock.isSome = true := by
  cases h with
  | markReconcile | expireMutation => rw [← hlock]; exact Option.isSome_map ..
  | complete => exact absurd rfl hs
  | acquire => rfl
  | _ => exact hlock

theorem lock_of_steps (h : A.Lawful D) (hlock : A.lock.isSome = true)
    (hsteps : Relation.ReflTransGen (Step D) A A') :
    A'.lock.isSome = true ∨ A'.row.state = .succeeded := by
  refine h.along (I := fun B => B.lock.isSome = true ∨ B.row.state = .succeeded) (.inl hlock)
    (fun B C hlawful hBC ih => ?_) hsteps
  rcases ih with hB | hB
  · by_cases hC : C.row.state = .succeeded
    · exact .inr hC
    · exact .inl (hBC.keeps_lock hC hB)
  · have hcore := hBC.core_eq hlawful (by rw [hB]; rfl)
    exact .inr ((congrArg (·.row.state) hcore).trans hB)

/-! ### Operation states -/

theorem Step.binding_eq (hstep : Step D A A') (h : A.binding = some b) : A'.binding = some b := by
  cases hstep with
  | bind c binds => cases binds.fresh.symm.trans h
  | _ => exact h

/-- The operation state is bound by `b`, and the leases in `P` that carry one carry this one, for
the worker it is bound to. -/
def AffineTo (A : Attempt sha256) (b : BindingRow) (P : Uuid → Prop) : Prop :=
  A.binding = some b ∧ ∀ i e, A.leases i = some e → P i → ∀ s,
    e.row.leaseJson.1.operationState = some s →
    (e.row.workerId, e.row.hostId) = (b.workerId, b.hostId) ∧ s = b.stateJson

theorem Step.affineTo (hstep : Step D A A') (hev : A.Evidenced)
    (h : A.AffineTo b P) : A'.AffineTo b P := by
  refine ⟨hstep.binding_eq h.1, fun i e' he' hi s hs => ?_⟩
  rcases hstep.tracks hev with ⟨n, t, lease, grants, rfl⟩ | ⟨c, binds, rfl⟩ | ⟨ht, -⟩
  · by_cases hid : i = lease.1.leaseId
    · subst hid
      cases he'.symm.trans (Function.update_self ..)
      obtain ⟨hw, hh, hstate⟩ := grants.attached b s h.1 hs
      exact ⟨Prod.ext hw hh, hstate⟩
    · exact h.2 i e' ((Function.update_of_ne hid ..).symm.trans he') hi s hs
  · exact h.2 i e' he' hi s hs
  · obtain ⟨e, he, htrack⟩ := ht i e' he'
    rw [htrack.holder]
    exact h.2 i e he hi s (htrack.operationState ▸ hs)

/-- Without claims, no lease is granted and no operation state is bound. -/
theorem tracks_of_steps (h : A.Lawful D) (hclaims : ¬ D.claims)
    (hsteps : Relation.ReflTransGen (Step D) A A') : A.Tracks A' ∧ A'.binding = A.binding := by
  refine h.along (I := fun B => A.Tracks B ∧ B.binding = A.binding) ⟨.of_eq rfl, rfl⟩
    (fun B C hB hBC ih => ?_) hsteps
  rcases hBC.tracks hB.evidenced with ⟨n, t, lease, grants, -⟩ | ⟨b, binds, -⟩ | ⟨ht, hb⟩
  · exact absurd grants.claims hclaims
  · exact absurd binds.claims hclaims
  · exact ⟨ih.1.trans ht, hb.trans ih.2⟩

end Attempt

end Rdashboard
