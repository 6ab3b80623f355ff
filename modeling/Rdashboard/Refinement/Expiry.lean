import Rdashboard.Refinement.Evolution

/-! # Expiry along the journal

Expiry collects the due leases and then closes them one by one.  An attempt that fails on the
way takes its other leases with it, and the loop stops with an error when it comes to one of
them; all that a successful loop does is to close the leases it collected. -/

namespace Rdashboard

open Relational Journal Txn Attempt WorkflowAttemptStateV1

variable {sha256 : Sha256} {D : Discipline}
variable {a : Uuid} {A : Attempt sha256}

namespace Attempt

variable {e : LeaseEntry sha256} {i : Uuid} {t : Int}

/-- A lease that runs into its deadline takes all leases of its attempt with it. -/
theorem expire_of_fails (h : A.FailsAtExpiry e) :
    (A.expire e t).Idle ∧ (A.expire e t).row.state = .failed := by
  rw [expire, if_neg (by simp [h.2]), if_pos h]
  exact ⟨revokeWork_idle, rfl⟩

/-- Any other lease leaves the other leases of its attempt alone. -/
theorem leases_expire_of_ne (h : ¬ A.FailsAtExpiry e)
    (hlease : ∀ i e, A.leases i = some e → e.row.leaseId = i) (hi : i ≠ e.row.leaseId) :
    (A.expire e t).leases i = A.leases i := by
  have hclose : (A.closeLease e.row.leaseId .expired t id).leases i = A.leases i := by
    cases he : A.leases i with
    | none => simp [closeLease, setLeases, he]
    | some f =>
      have hf : f.row.leaseId ≠ e.row.leaseId := by rw [hlease i f he]; exact hi
      simp [closeLease, setLeases, he, assign, hf]
  rw [expire]
  split <;> exact hclose

theorem expire_closed (he : A.leases e.row.leaseId = some e) :
    ∀ f, ¬ (A.expire e t).ActiveLease e.row.leaseId f := by
  have hclose : ∀ f, (A.closeLease e.row.leaseId .expired t id).leases e.row.leaseId = some f →
      f.row.state ≠ .active := by
    intro f hf
    obtain ⟨e', he', rfl⟩ := Option.map_eq_some_iff.mp hf
    cases he.symm.trans he'
    by_cases hs : e.row.state = .active
    · rw [assign_of_pos _ (by simp [hs])]
      exact LeaseState.noConfusion
    · rw [assign_of_neg _ (by simp [hs])]
      exact hs
  intro f hf
  by_cases hfail : A.FailsAtExpiry e
  · exact (expire_of_fails hfail).1 _ f hf
  · rw [expire] at hf
    split at hf <;> exact hclose f hf.1 hf.2

theorem binding_expire : (A.expire e t).binding = A.binding := by
  rw [expire]
  split
  · rfl
  · split <;> rfl

theorem cleanup_setLeases {p : LeaseRow sha256 → Bool} {f : LeaseRow sha256 → LeaseRow sha256} :
    ((A.setLeases p f).leases i).map (·.cleanup) = (A.leases i).map (·.cleanup) :=
  Option.map_map _ _ _

theorem cleanup_expire : ((A.expire e t).leases i).map (·.cleanup) = (A.leases i).map (·.cleanup) := by
  rw [expire]
  split
  · exact cleanup_setLeases
  · split
    · exact cleanup_setLeases.trans cleanup_setLeases
    · exact cleanup_setLeases

end Attempt

section Loop

variable {J J' : Journal sha256} {t : Int} {l : LeaseRow sha256} {rows : List (LeaseRow sha256)}
variable {l' : LeaseRow sha256} {u : Unit}

/-- The journal has the lease of a row collected earlier, though it may be closed now. -/
def Journal.Records (J : Journal sha256) (l : LeaseRow sha256) : Prop :=
  ∃ A e, J.view l.attemptId = some A ∧ A.leases l.leaseId = some e ∧ e.row.fixed = l.fixed

theorem expireOneLease_congr (h : l'.fixed = l.fixed) :
    (expireOneLease t l' : Workflow sha256 Unit) = expireOneLease t l := by
  cases l
  cases l'
  obtain ⟨⟨rfl, rfl, rfl, rfl⟩, ⟨rfl, rfl, rfl, rfl⟩, rfl, rfl, rfl⟩ := h
  rfl

theorem expireOneLease_proceeds (hJ : J.Lawful D) (hl : J.Records l)
    (h : expireOneLease t l J = .ok (u, J')) :
    ∃ A e, J.view l.attemptId = some A ∧ A.ActiveLease l.leaseId e ∧ e.row.leaseId = l.leaseId ∧
      J.Acts J' l.attemptId (·.expire e t) ∧ Proceeds D J J' := by
  obtain ⟨A, e, hA, he, hf⟩ := hl
  have hlaw := hJ.attempts _ A hA
  have hid : e.row.leaseId = l.leaseId := congrArg (·.1.1) hf
  rw [← hid] at he
  rw [← expireOneLease_congr hf] at h
  obtain ⟨ha, hacts⟩ := expireOneLease_ok h hJ.sound hA he fun n hn => hlaw.node_of_lease he hn
  have hstep := hlaw.step_expire t ha
  refine ⟨A, e, hA, hid ▸ ha, hid, hacts, .of_step hJ hacts hA hstep (hstep.keeps_lock ?_)⟩
  rw [expire]
  split
  · exact noConfusion
  · split
    · exact noConfusion
    · rw [show (A.giveBack e.row.leaseId e.row.nodeId t).row.state = A.row.state from rfl,
        hlaw.standing.active _ e ha]
      exact noConfusion

theorem Journal.Records.of_acts {m : LeaseRow sha256} {e : LeaseEntry sha256} (hm : J.Records m)
    (hJ : J.Sound) (h : J.Acts J' a (·.expire e t)) : J'.Records m := by
  obtain ⟨A, f, hA, hf, hfixed⟩ := hm
  by_cases ha : m.attemptId = a
  · subst ha
    have hk : A.Keeps (A.expire e t) := .keeps_expire
    obtain ⟨f', hf'⟩ := hk.kept _ f hf
    obtain ⟨g, hg, hmove⟩ := hk.lease _ f' hf'
    cases hf.symm.trans hg
    exact ⟨_, f', h.view hJ hA, hf', hmove.fixed.trans hfixed⟩
  · exact ⟨A, f, by rw [h.view_ne hJ ha, hA], hf, hfixed⟩

/-- The loop closes the leases it was given, and neither creates nor loses attempts. -/
theorem expireLoop_proceeds (hJ : J.Lawful D) (hrows : ∀ l ∈ rows, J.Records l)
    (h : each (expireOneLease t) rows J = .ok (u, J')) :
    Proceeds D J J' ∧ ∀ b, (J'.view b).isSome = (J.view b).isSome := by
  induction rows generalizing J with
  | nil =>
    obtain rfl := each_nil_ok_iff.mp h
    exact ⟨hJ.refl, fun _ => rfl⟩
  | cons l rows ih =>
    obtain ⟨J₁, hl, hrest⟩ := each_cons_ok_iff.mp h
    obtain ⟨A, e, -, -, -, hacts, hp⟩ := expireOneLease_proceeds hJ (hrows l (by simp)) hl
    obtain ⟨hp', hview⟩ := ih hp.lawful
      (fun m hm => (hrows m (by simp [hm])).of_acts hJ.sound hacts) hrest
    exact ⟨hp.trans hp', fun b => by rw [hview, (hacts hJ.sound).2, isSome_modifyAt]⟩

/-- A closed lease stays closed, and a lease with no row in the loop stays as it is unless its
attempt fails. -/
theorem expireLoop_leases (hJ : J.Lawful D) (hrows : ∀ l ∈ rows, J.Records l)
    (h : each (expireOneLease t) rows J = .ok (u, J'))
    (hA : J.view a = some A) : ∃ A', J'.view a = some A' ∧ A.Keeps A' ∧
      (A'.binding = A.binding ∧ ∀ j, (A'.leases j).map (·.cleanup) = (A.leases j).map (·.cleanup)) ∧
      (A.row.state = .failed → A'.row.state = .failed) ∧
      (∀ l ∈ rows, l.attemptId = a → ∀ e, ¬ A'.ActiveLease l.leaseId e) ∧
      (∀ i, (∀ l ∈ rows, l.leaseId ≠ i) → A'.leases i = A.leases i ∨ A'.row.state = .failed) ∧
      ((∀ l ∈ rows, l.attemptId ≠ a) → A' = A) := by
  induction rows generalizing J A with
  | nil =>
    obtain rfl := each_nil_ok_iff.mp h
    exact ⟨A, hA, .refl, ⟨rfl, fun _ => rfl⟩, id, by simp, fun _ _ => .inl rfl, fun _ => rfl⟩
  | cons l rows ih =>
    obtain ⟨J₁, hl, hrest⟩ := each_cons_ok_iff.mp h
    obtain ⟨B, e, hB, ha, hid, hacts, hp⟩ := expireOneLease_proceeds hJ (hrows l (by simp)) hl
    have hrows₁ : ∀ m ∈ rows, J₁.Records m :=
      fun m hm => (hrows m (by simp [hm])).of_acts hJ.sound hacts
    by_cases hla : l.attemptId = a
    · subst hla
      cases hA.symm.trans hB
      have hlaw := hJ.attempts _ A hA
      obtain ⟨A', hA', hk, hframe, hfailed, hclosed, hsame, -⟩ := ih hp.lawful hrows₁ hrest
        (hacts.view hJ.sound hA)
      refine ⟨A', hA', Attempt.Keeps.keeps_expire.trans hk,
        ⟨hframe.1.trans binding_expire, fun j => (hframe.2 j).trans cleanup_expire⟩,
        ?_, ?_, ?_, ?_⟩
      · intro hs
        rw [hlaw.standing.active _ e ha] at hs
        cases hs
      · intro m hm hma f hf
        rcases List.mem_cons.mp hm with rfl | hm
        · obtain ⟨f', hf', -⟩ := hk.active hf
          rw [← hid] at hf'
          exact expire_closed (by rw [hid]; exact ha.1) f' hf'
        · exact hclosed m hm hma f hf
      · intro i hne
        by_cases hfail : A.FailsAtExpiry e
        · exact .inr (hfailed (expire_of_fails hfail).2)
        · have hi : i ≠ e.row.leaseId := by rw [hid]; exact (hne l (by simp)).symm
          rw [← leases_expire_of_ne hfail
            hlaw.evidenced.leaseId hi]
          exact hsame i fun m hm => hne m (by simp [hm])
      · exact fun hne => absurd rfl (hne l (by simp))
    · obtain ⟨A', hA', hk, hframe, hfailed, hclosed, hsame, heq⟩ := ih hp.lawful hrows₁ hrest
        (by rw [hacts.view_ne hJ.sound (symm hla), hA])
      refine ⟨A', hA', hk, hframe, hfailed, ?_, ?_, ?_⟩
      · intro m hm hma
        rcases List.mem_cons.mp hm with rfl | hm
        · exact absurd hma hla
        · exact hclosed m hm hma
      · exact fun i hne => hsame i fun m hm => hne m (by simp [hm])
      · exact fun hne => heq fun m hm => hne m (by simp [hm])

theorem mem_dueLeases : l ∈ J.dueLeases t ↔
    l ∈ J.leases.rows ∧ l.state = .active ∧ l.expiresAtMs ≤ t := by
  simp [dueLeases, LeaseRow.due]

theorem records_of_due (hJ : J.Sound) : ∀ l ∈ J.dueLeases t, J.Records l := by
  intro l hl
  obtain ⟨A, e, hA, he, rfl⟩ := hJ.view_of_lease (mem_dueLeases.mp hl).1
  exact ⟨A, e, hA, he, rfl⟩

end Loop

/-! ### The transaction -/

section Transaction

variable {J J' : Journal sha256} {t : Int} {c : Nat}

theorem expireLeasesTransaction_ok (h : expireLeasesTransaction t J = .ok (c, J')) :
    c = (J.dueLeases t).length ∧ each (expireOneLease t) (J.dueLeases t) J = .ok ((), J') := by
  simp only [expireLeasesTransaction, ok_iff] at h
  obtain ⟨_, rfl, _, J₂, hloop, rfl, rfl⟩ := h
  exact ⟨rfl, hloop⟩

theorem expireLeasesTransaction_proceeds (hJ : J.Lawful D)
    (h : expireLeasesTransaction t J = .ok (c, J')) : Proceeds D J J' :=
  (expireLoop_proceeds hJ (records_of_due hJ.sound) (expireLeasesTransaction_ok h).2).1

/-- An attempt after expiry was there before. -/
theorem expireLeasesTransaction_view (hJ : J.Lawful D)
    (h : expireLeasesTransaction t J = .ok (c, J')) {b : Uuid} {B : Attempt sha256}
    (hB : J'.view b = some B) : ∃ A, J.view b = some A := by
  have hview := (expireLoop_proceeds hJ (records_of_due hJ.sound) (expireLeasesTransaction_ok h).2).2 b
  rw [hB] at hview
  exact Option.isSome_iff_exists.mp hview.symm

/-- What expiry leaves of an attempt: due leases are closed, the others stay as they are unless
their attempt fails, and an attempt without due leases is not touched. -/
structure Attempt.ExpiresTo (A A' : Attempt sha256) (t : Int) : Prop where
  keeps : A.Keeps A'
  binding : A'.binding = A.binding
  cleanup : ∀ i, (A'.leases i).map (·.cleanup) = (A.leases i).map (·.cleanup)
  closed : ∀ i e, A'.ActiveLease i e → t < e.row.expiresAtMs
  spared : ∀ i e, A.ActiveLease i e → t < e.row.expiresAtMs →
    A'.leases i = some e ∨ A'.row.state = .failed
  untouched : (∀ i e, A.ActiveLease i e → t < e.row.expiresAtMs) → A' = A

theorem expireLeasesTransaction_leases (hJ : J.Lawful D)
    (h : expireLeasesTransaction t J = .ok (c, J'))
    (hA : J.view a = some A) : ∃ A', J'.view a = some A' ∧ A.ExpiresTo A' t := by
  obtain ⟨A', hA', hk, hframe, -, hclosed, hsame, heq⟩ :=
    expireLoop_leases hJ (records_of_due hJ.sound) (expireLeasesTransaction_ok h).2 hA
  refine ⟨A', hA', hk, hframe.1, hframe.2, ?_, ?_, ?_⟩
  · intro i e' he'
    obtain ⟨e, he, hfixed⟩ := hk.active he'
    obtain ⟨hl, hatt, rfl, -⟩ := lease_of_view hA he.1
    by_contra hdue
    have hexp : e'.row.expiresAtMs = e.row.expiresAtMs := congrArg (·.2.2.2.2) hfixed
    exact hclosed e.row (mem_dueLeases.mpr ⟨Table.mem_of_lookup hl, he.2, by omega⟩) hatt e' he'
  · intro i e he hlate
    rw [← he.1]
    refine hsame i fun l hl hid => ?_
    obtain ⟨hmem, -, hdue⟩ := mem_dueLeases.mp hl
    obtain ⟨hrow, -, hid', -⟩ := lease_of_view hA he.1
    obtain rfl : l = e.row := Table.eq_of_key leases_by_id hmem (Table.mem_of_lookup hrow)
      (hid.trans hid'.symm)
    omega
  · intro hlate
    refine heq fun l hl hatt => ?_
    obtain ⟨hmem, hs, hdue⟩ := mem_dueLeases.mp hl
    obtain ⟨B, e, hB, he, rfl⟩ := hJ.sound.view_of_lease hmem
    rw [hatt, hA] at hB
    cases hB
    have := hlate _ e ⟨he, hs⟩
    omega

end Transaction

end Rdashboard
