import Rdashboard.Security.Receipts

/-! # Authorizations and takeovers

An authorization is stored once and stays; a takeover is stored by `begin_rollback_takeover`
alone, for the authorized project of its attempt and while the fence rule allows it. -/

namespace Rdashboard

open Relational Session

namespace SecurityStore

variable {codec : Codec} {guard : SecurityStore → SecurityOperation → Prop}
  {op : SecurityOperation} {S S' : SecurityStore} {a : Uuid} {p : ProjectId}
  {d : EvidenceDigest}
variable {x : ExecutorAuthorization}

/-! ### Authorizations -/

theorem authorizeAttempt_authorization (h : S.authorization a = some x)
    (new : ExecutorAuthorization) (t : Int) :
    ((authorizeAttempt codec new t).final S).authorization a = some x := by
  refine final_ensure (P := fun S : SecurityStore => S.authorization a = some x) h fun _ => ?_
  refine final_ensure (P := fun S : SecurityStore => S.authorization a = some x) h fun _ => ?_
  refine final_lift (P := fun S : SecurityStore => S.authorization a = some x) h fun _ _ => ?_
  refine final_transaction (P := fun S : SecurityStore => S.authorization a = some x) h
    fun _ S' h' => ?_
  simp only [authorizeAttemptTransaction, Txn.ok_iff] at h'
  obtain ⟨stored, -, h'⟩ := h'
  cases stored with
  | some stored =>
    obtain ⟨-, rfl⟩ := Txn.ensure_ok_iff.mp h'
    exact h
  | none =>
    simp only [TableRef.insert_ok_iff, Txn.ok_iff] at h'
    obtain ⟨_, hexisting, _, hnone, -, tbl, hinsert, rfl⟩ := h'
    refine (Table.lookup_insert authorizations_by_attempt hinsert a).trans ?_
    rw [if_neg]
    · exact h
    · rintro rfl
      rw [hexisting, hnone] at h
      cases h

theorem authorizations_step {op : SecurityOperation} (h : ∀ x t, op ≠ .authorizeAttempt x t) :
    (step codec op S).authorizations = S.authorizations := by
  cases op with
  | authorizeAttempt x t => exact absurd rfl (h x t)
  | _ =>
    exact step_keeps _ (by (repeat' apply And.intro) <;>
      first | exact fun _ _ => rfl | exact .of_ignored fun _ _ => rfl) S

theorem authorization_step (h : S.authorization a = some x)
    (op : SecurityOperation) : (step codec op S).authorization a = some x := by
  by_cases hop : ∀ new t, op ≠ .authorizeAttempt new t
  · rw [authorization, authorizations_step hop]
    exact h
  · obtain ⟨new, t, rfl⟩ : ∃ new t, op = .authorizeAttempt new t := by simpa using hop
    exact authorizeAttempt_authorization h new t

/-! ### Takeovers -/

/-- What `begin_rollback_takeover` has checked when it stores a takeover. -/
theorem beginRollbackTakeover_checks {t : Int}
    (h : (step codec (.beginRollbackTakeover a p d t) S).takeover a ≠ S.takeover a) :
    S.requireAuthorizedForProject a p (some d) = .ok () ∧
      S.requireRollbackFenceAvailable a p = .ok () := by
  revert h
  refine final_transaction (P := fun S' : SecurityStore => S'.takeover a ≠ S.takeover a → _)
    (absurd rfl) fun takeover S' h _ => ?_
  simp only [beginRollbackTakeoverTransaction, Txn.ok_iff] at h
  obtain ⟨_, hauthorized, _, hfence, -⟩ := h
  exact ⟨hauthorized, hfence⟩

/-- The takeover of an attempt changes only when `begin_rollback_takeover` stores one. -/
theorem takeover_step (op : SecurityOperation) (S : SecurityStore) (a : Uuid) :
    (step codec op S).takeover a = S.takeover a ∨ ∃ p d t takeover,
      op = .beginRollbackTakeover a p d t ∧ S.takeover a = none ∧
      (step codec op S).takeover a = some takeover ∧ takeover.projectId = p ∧
      S.requireAuthorizedForProject a p (some d) = .ok () ∧
      S.requireRollbackFenceAvailable a p = .ok () := by
  have hcourse : ∀ S : SecurityStore, S.takeover a = (S.course a).takeover := fun _ => rfl
  rcases course_cases codec op S a with hsame | hC
  · left
    rw [hcourse, hcourse, hsame]
  · generalize hturned : (step codec op S).course a = C at hC
    have hafter : (step codec op S).takeover a = C.takeover := by rw [hcourse, hturned]
    cases hC with
    | @take _ p d t _ hnone =>
      have hchanged : (step codec (.beginRollbackTakeover a p d t) S).takeover a ≠
          S.takeover a := by
        rw [hafter, hcourse, hnone]
        simp [Course.setTakeover]
      exact .inr ⟨_, _, _, _, rfl, hnone, hafter, rfl, beginRollbackTakeover_checks hchanged⟩
    | _ => exact .inl hafter

/-- A takeover is bound to the authorized project of its attempt. -/
theorem ReachableBy.takeover_project (h : ReachableBy codec guard S) {takeover : RollbackTakeover}
    (ht : S.takeover a = some takeover) :
    ∃ x, S.authorization a = some x ∧ x.projectId = takeover.projectId := by
  refine Reaches.invariant (I := fun S => ∀ takeover, S.takeover a = some takeover →
      ∃ x, S.authorization a = some x ∧ x.projectId = takeover.projectId)
    (by rintro _ ⟨⟩) (fun S op _ hI _ takeover ht => ?_) h takeover ht
  rcases @takeover_step codec op S a with hsame | ⟨p, d, t, new, rfl, -, hnew, hp, hauthorized, -⟩
  · rw [hsame] at ht
    obtain ⟨x, hx, hproject⟩ := hI takeover ht
    exact ⟨x, authorization_step hx op, hproject⟩
  · rw [hnew] at ht
    cases ht
    simp only [requireAuthorizedForProject, Check.ok_iff] at hauthorized
    obtain ⟨x, hx, hproject, -⟩ := hauthorized
    exact ⟨x, authorization_step hx _, hproject.trans hp.symm⟩

end SecurityStore

end Rdashboard
