import Rdashboard.Properties.PhaseOrder
import Rdashboard.Security.Takeovers

/-! # The sealed primary branch

Once a takeover is stored, the primary branch of its attempt does not change, as long as source
gate proofs are recorded only for the two phases that the executor gates: the rejection of a
proof is the one change of a primary entry that does not look for a takeover. -/

namespace Rdashboard

open Relational SecurityStore

/-- Source gate proofs are recorded for the phases that the executor gates. -/
def GatesProofs (op : SecurityOperation) : Prop :=
  ∀ proof, op = .recordSourceGateProof proof → proof.phase = .backingUp ∨ proof.phase = .deploying

namespace Course

variable {e : PhaseJournalEntry}

/-- What `C` says about its primary branch and its takeover, `C'` says as well. -/
structure Freezes (C C' : Course) : Prop where
  takeover : C'.takeover = C.takeover
  entries : ∀ phase, C'.entries ⟨.primary, phase⟩ = C.entries ⟨.primary, phase⟩
  receipts : ∀ phase, C'.receipts ⟨.primary, phase⟩ = C.receipts ⟨.primary, phase⟩
  specs : ∀ phase, C'.specs ⟨.primary, phase⟩ = C.specs ⟨.primary, phase⟩
  chains : C'.chains = C.chains

/-- A takeover describes the entry that it sealed, and a primary phase that is still under way
is one that `record_source_gate_proof` is not called for. -/
structure Sealed (a : Uuid) (C : Course) (t : RollbackTakeover) : Prop where
  attempt : t.attemptId = a
  entry : ∃ e, C.entries ⟨.primary, t.forwardPhase⟩ = some e ∧ e.projectId = t.projectId ∧
    e.status = t.forwardStatus ∧ e.intentDigest = t.forwardIntentDigest
  phase : t.forwardPhase ∈ takeoverPhases
  status : t.forwardStatus = .committed ∨ t.forwardPhase ≠ .deploying
  ungated : ∀ phase, C.Pending ⟨.primary, phase⟩ → phase = .healthChecking ∨ phase = .soaking

variable {codec : Codec} {a : Uuid} {op : SecurityOperation} {C C' C'' : Course}
  {t : RollbackTakeover} {key : PhaseKey}

theorem Freezes.refl (C : Course) : C.Freezes C :=
  ⟨rfl, fun _ => rfl, fun _ => rfl, fun _ => rfl, rfl⟩

theorem Freezes.trans (h : C.Freezes C') (h' : C'.Freezes C'') : C.Freezes C'' where
  takeover := h'.takeover.trans h.takeover
  entries phase := (h'.entries phase).trans (h.entries phase)
  receipts phase := (h'.receipts phase).trans (h.receipts phase)
  specs phase := (h'.specs phase).trans (h.specs phase)
  chains := h'.chains.trans h.chains

theorem Sealed.congr (h : C.Sealed a t)
    (hC : ∀ phase, C'.entries ⟨.primary, phase⟩ = C.entries ⟨.primary, phase⟩) :
    C'.Sealed a t where
  attempt := h.attempt
  entry := by
    rw [hC]
    exact h.entry
  phase := h.phase
  status := h.status
  ungated phase := by
    unfold Pending
    rw [hC]
    exact h.ungated phase

section

variable (ho : C.Open key.branch)
include ho

section

variable (ht : C.takeover = some t)
include ht

theorem ne_primary_of_open (phase : OperationPhase) : ⟨.primary, phase⟩ ≠ key := by
  rintro rfl
  rw [ho rfl] at ht
  cases ht

theorem freezes_setEntry : C.Freezes (C.setEntry key e) :=
  ⟨rfl, fun phase => Function.update_of_ne (ne_primary_of_open ho ht phase) _ _, fun _ => rfl,
    fun _ => rfl, rfl⟩

theorem freezes_setReceipt {r : PhaseReceiptRow} : C.Freezes (C.setReceipt key r) :=
  ⟨rfl, fun _ => rfl, fun phase => Function.update_of_ne (ne_primary_of_open ho ht phase) _ _,
    fun _ => rfl, rfl⟩

theorem freezes_setSpec {r : AuthorizedPhaseSpecRecord} : C.Freezes (C.setSpec key r) :=
  ⟨rfl, fun _ => rfl, fun _ => rfl,
    fun phase => Function.update_of_ne (ne_primary_of_open ho ht phase) _ _, rfl⟩

end

end

/-- No operation changes a sealed branch. -/
theorem Sealed.freezes (h : C.Sealed a t) (ht : C.takeover = some t) (hop : GatesProofs op)
    (hstep : CourseStep codec a op C C') : C.Freezes C' := by
  cases hstep with
  | intend ha hkey hadmits hnew hfree => exact freezes_setEntry hadmits.unsealed ht
  | move he hmove ho => exact freezes_setEntry ho ht
  | commit he hs hd hr ho =>
    exact (freezes_setReceipt ho ht).trans (freezes_setEntry ho ht)
  | reject he hs hr =>
    -- the entry is under way, so the proof is for a phase that the executor does not gate
    have hpending := h.ungated _ ⟨_, he, by rw [hs]; decide⟩
    rcases hop _ rfl with hp | hp <;> rw [hp] at hpending <;> simp at hpending
  | compensate he hs hd hartifacts hr hp hc ho =>
    exact (freezes_setEntry ho ht).trans ⟨rfl, fun _ => rfl, fun _ => rfl, fun _ => rfl, rfl⟩
  | take hnone =>
    rw [hnone] at ht
    cases ht
  | bindSpec ho hnew => exact freezes_setSpec ho ht
  | bindChain hb ho hnew =>
    rw [ho hb] at ht
    cases ht

theorem Sealed.take {p : ProjectId} {createdAtMs : Int}
    (he : C.entries ⟨.primary, e.key.phase⟩ = some e) (hp : e.projectId = p)
    (hs : (e.status = .committed ∧ e.key.phase ∈ takeoverPhases) ∨
      (e.status ≠ .committed ∧ (e.key.phase = .healthChecking ∨ e.key.phase = .soaking)))
    (hpending : ∀ phase, C.Pending ⟨.primary, phase⟩ → phase = e.key.phase) :
    C.Sealed a { attemptId := a, projectId := p, forwardPhase := e.key.phase
                 forwardStatus := e.status, forwardIntentDigest := e.intentDigest, createdAtMs } where
  attempt := rfl
  entry := ⟨e, he, hp, rfl, rfl⟩
  phase := by
    rcases hs with ⟨-, hphase⟩ | ⟨-, hphase⟩
    · exact hphase
    · rcases hphase with hphase | hphase <;> simp [hphase, takeoverPhases]
  status := by
    rcases hs with ⟨hs, -⟩ | ⟨-, hphase⟩
    · exact .inl hs
    · right
      rcases hphase with hphase | hphase <;> simp [hphase]
  ungated := by
    rintro phase ⟨e', he', hs'⟩
    cases hpending phase ⟨e', he', hs'⟩
    rw [he] at he'
    cases he'
    exact (hs.resolve_left fun h => hs' h.1).2

end Course

namespace SecurityStore

variable {codec : Codec} {S S' : SecurityStore} {a : Uuid} {t : RollbackTakeover}

theorem ReachableBy.sealed (h : ReachableBy codec (fun _ => GatesProofs) S)
    (ht : S.takeover a = some t) : (S.course a).Sealed a t := by
  refine LeadsTo.course_invariant (I := fun a C => ∀ t, C.takeover = some t → C.Sealed a t)
    (by rintro _ _ ⟨⟩) (fun S op a C' hop h hstep t ht => ?_) h a t ht
  cases hC : (S.course a).takeover with
  | some t₀ =>
    have hfreezes := (h t₀ hC).freezes hC hop hstep
    rw [hfreezes.takeover] at ht
    exact (h t ht).congr hfreezes.entries
  | none =>
    cases hstep with
    | take hnone he hp hs hpending =>
      cases ht
      exact (Course.Sealed.take he hp hs hpending).congr fun _ => rfl
    | _ =>
      cases hC.symm.trans ht

theorem LeadsTo.freezes (h : LeadsTo codec (fun _ => GatesProofs) S S')
    (hseal : (S.course a).Sealed a t) (ht : S.takeover a = some t) :
    (S.course a).Freezes (S'.course a) := by
  refine Reaches.invariant (I := fun S' => (S.course a).Freezes (S'.course a))
    (Course.Freezes.refl _) (fun S₁ op _ hI hop => ?_) h
  rcases course_cases codec op S₁ a with hsame | hC
  · rw [hsame]
    exact hI
  · have ht₁ : (S₁.course a).takeover = some t := hI.takeover.trans ht
    exact hI.trans ((hseal.congr hI.entries).freezes ht₁ hop hC)

theorem loadRollbackTakeover_of_sealed (h : ∀ t, S.takeover a = some t → (S.course a).Sealed a t) :
    S.loadRollbackTakeover a = .ok (S.takeover a) := by
  refine loadRollbackTakeover_ok_iff.mpr ⟨rfl, fun t ht => ?_⟩
  have hseal := h t ht
  obtain ⟨e, he, hproject, hstatus, hintent⟩ := hseal.entry
  refine ⟨Option.any_eq_true _ _ |>.mpr ⟨e, ?_, ?_⟩, hseal.phase, hseal.status⟩
  · rw [hseal.attempt]
    exact he
  · simp [hproject, hstatus, hintent]

end SecurityStore

/-- In every run whose source gate proofs are for the gated phases, a stored takeover freezes
the primary branch of its attempt, is read without a corrupt binding, and is what a second call
returns while the fence rule allows it. -/
theorem sealed_branch_frozen {codec : Codec} {S : SecurityStore}
    (h : ReachableBy codec (fun _ => GatesProofs) S) (a : Uuid) :
    S.loadRollbackTakeover a = .ok (S.takeover a) ∧ ∀ takeover, S.takeover a = some takeover →
        (∀ S', LeadsTo codec (fun _ => GatesProofs) S S' → (S.course a).Freezes (S'.course a)) ∧
        ∀ p d t, S.requireAuthorizedForProject a p (some d) = .ok () →
          S.requireRollbackFenceAvailable a p = .ok () →
          beginRollbackTakeover a p d t S = (.ok takeover, S) := by
  have hload : S.loadRollbackTakeover a = .ok (S.takeover a) :=
    loadRollbackTakeover_of_sealed fun t ht => h.sealed ht
  refine ⟨hload, fun takeover ht => ⟨fun S' hS' => hS'.freezes (h.sealed ht) ht, ?_⟩⟩
  intro p d t hauthorized hfence
  refine Session.immediateTransaction_ok ?_
  simp only [beginRollbackTakeoverTransaction, Txn.ok_iff]
  refine ⟨(), hauthorized, (), hfence, some takeover, by rw [hload, ht], ?_⟩
  refine Txn.bind_ok_iff.mpr ⟨(), S, Txn.ensure_ok_iff.mpr ⟨?_, rfl⟩, Txn.pure_ok_iff.mpr ⟨rfl, rfl⟩⟩
  obtain ⟨x, hx, hproject⟩ := h.takeover_project ht
  simp only [requireAuthorizedForProject, Check.ok_iff] at hauthorized
  obtain ⟨x', hx', hproject', -⟩ := hauthorized
  rw [hx] at hx'
  cases hx'
  exact hproject.symm.trans hproject'

namespace SecuritySample

theorem takenOver_gates : ReachableBy codec (fun _ => GatesProofs) takenOver := by
  refine reaches_runAll ?_ .init
  rintro op hop proof rfl
  simp [deployment, execute, start, gate] at hop
  rw [hop.2]
  exact .inl rfl

/-- The takeover of the deployment is what the second call returns. -/
theorem takenOver_frozen :
    (takenOver.takeover 1).isSome ∧ ∀ takeover, takenOver.takeover 1 = some takeover →
      beginRollbackTakeover 1 project 10 5 takenOver = (.ok takeover, takenOver) := by
  refine ⟨by decide +kernel, fun takeover ht => ?_⟩
  exact ((sealed_branch_frozen takenOver_gates 1).2 takeover ht).2 project 10 5
    (by decide +kernel) (by decide +kernel)

end SecuritySample

end Rdashboard
