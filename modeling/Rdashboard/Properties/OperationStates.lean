import Rdashboard.Properties.Heads

/-! # Operation states

Once a worker has bound the operation state of an attempt, all leases that carry an operation
state go to this worker, with this state, one at a time, and the binding stays. -/

namespace Rdashboard

open Relational Journal Session Attempt

variable {sha256 : Sha256} {D : Discipline} {J J₁ J' : Journal sha256} {a : Uuid}
  {A : Attempt sha256} {b : BindingRow} {op : Operation}

/-! ### Affinity -/

/-- The lease of attempt `a` was granted after the journal `J`, and carries an operation state. -/
def Journal.CarriesSince (J : Journal sha256) (a : Uuid) (l : LeaseRow sha256)
    (state : WorkflowOperationStateV1) : Prop :=
  l.attemptId = a ∧ J.lease l.leaseId = none ∧ l.leaseJson.1.operationState = some state

/-- The operation state of attempt `a` is bound by `b`, and the leases granted since the journal
`J` keep to it. -/
structure Journal.Affine (J J' : Journal sha256) (a : Uuid) (b : BindingRow) : Prop where
  binding : J'.binding a = some b
  bound : ∀ l ∈ J'.leases.rows, ∀ state, J.CarriesSince a l state →
    l.workerId = b.workerId ∧ l.hostId = b.hostId ∧ state = b.stateJson
  alone : ∀ l ∈ J'.leases.rows, ∀ m ∈ J'.leases.rows, ∀ s s', J.CarriesSince a l s →
    J.CarriesSince a m s' → l.state = .active → m.state = .active → l = m

theorem view_of_binding (hJ : J.Sound) (hb : J.binding a = some b) :
    ∃ A, J.view a = some A ∧ A.binding = some b := by
  have hid : b.attemptId = a := Table.key_of_lookup hb
  obtain ⟨A, hA⟩ := hJ.view_isSome (hid ▸ hJ.binding b (Table.mem_of_lookup hb))
  exact ⟨A, hA, by rw [← binding_of_view hA]; exact hb⟩

theorem leases_eq_none (hA : J.view a = some A) {i : Uuid} (h : J.lease i = none) :
    A.leases i = none := by
  cases he : A.leases i with
  | none => rfl
  | some e => cases h.symm.trans (lease_of_view hA he).1

/-- Only a claim binds an operation state. -/
theorem isClaim_of_binding (h : Reachable J) (hnone : J.binding a = none)
    (hb : (J.step op).binding a = some b) : op.isClaim = true := by
  by_contra hop
  rw [Bool.not_eq_true] at hop
  -- a call that is no claim grants no lease and binds no operation state
  obtain ⟨hlaw, hatt⟩ := h.invariant
  have hJ : J.Lawful .noClaims := hlaw.mono (fun h => h.elim) fun h => h.elim
  have hproceeds : J.Proceeds .noClaims (J.step op) := step_proceeds hJ
    (fun h => by rw [hop] at h; cases h) hatt (fun h => h.elim) fun h => h.elim
  obtain ⟨A', hA', hb'⟩ := view_of_binding hproceeds.lawful.sound hb
  cases hA : J.view a with
  | some A =>
    obtain ⟨A'', hA'', hsteps⟩ := hproceeds.evolves.kept a A hA
    cases hA'.symm.trans hA''
    have hsame := (tracks_of_steps (hJ.attempts a A hA) id hsteps).2
    rw [hb', ← binding_of_view hA, hnone] at hsame
    cases hsame
  | none =>
    obtain ⟨A, hborn, hsteps⟩ := hproceeds.evolves.new a A' hA hA'
    have hsame := (tracks_of_steps hborn.lawful id hsteps).2
    rw [hb', hborn.binding] at hsame
    cases hsame

/-- A claim that has not changed the journal, or has expired the leases and then made the claim. -/
theorem claimNext_cases (J : Journal sha256) (worker : WorkflowWorkerRegistrationV1)
    (t duration : Int) (leaseId : FreshUuid) : J.step (.claimNext worker t duration leaseId) = J ∨
      ∃ n J₁, expireLeasesTransaction t J = .ok (n, J₁) ∧
        (J.step (.claimNext worker t duration leaseId) = J₁ ∨ ∃ o, claimNextTransaction worker t
          duration leaseId.1 J₁ = .ok (o, J.step (.claimNext worker t duration leaseId))) := by
  cases hcall : claimNext worker t duration leaseId J with
  | mk result J' =>
    have hstep : J.step (.claimNext worker t duration leaseId) = J' := by
      rw [step, final, hcall]
    rw [hstep]
    cases result with
    | error e =>
      exact .inl (atomic_lift (fun _ => atomic_ensure (atomic_transaction _)) J e J' hcall)
    | ok o =>
      simp only [claimNext, Txn.ok_iff, bind_ok_iff, lift_ok_iff, ensure_ok_iff,
        immediateTransaction_ok_iff, Txn.ite_ok_iff] at hcall
      obtain ⟨_, -, _, -, n, J₁, hexpire, _, rfl, hcall⟩ := hcall
      rcases hcall with ⟨-, -, rfl⟩ | ⟨-, hclaim⟩
      · exact .inr ⟨n, _, hexpire, .inl rfl⟩
      · exact .inr ⟨n, _, hexpire, .inr ⟨o, hclaim⟩⟩

theorem unbound_of_expiry {t : Int} {n : Nat} {B : Attempt sha256} (hJ : J.Lawful .none)
    (hnone : J.binding a = none) (h : expireLeasesTransaction t J = .ok (n, J₁))
    (hB : J₁.view a = some B) :
    B.binding = none ∧ ∀ i, J.lease i = none → B.leases i = none := by
  obtain ⟨A, hA⟩ := expireLeasesTransaction_view hJ h hB
  have hlaw : J.Lawful .noClaims := hJ.mono (fun h => h.elim) fun h => h.elim
  obtain ⟨B', hB', hsteps⟩ := (expireLeasesTransaction_proceeds hlaw h).evolves.kept a A hA
  cases hB.symm.trans hB'
  obtain ⟨htracks, hsame⟩ := tracks_of_steps (hlaw.attempts a A hA) id hsteps
  exact ⟨by rw [hsame, ← binding_of_view hA, hnone], fun i hi => htracks.none (leases_eq_none hA hi)⟩

/-- The claim that binds an operation state grants no lease with another one. -/
theorem affineTo_of_claim {worker : WorkflowWorkerRegistrationV1} {t duration : Int}
    {leaseId : FreshUuid} (h : Reachable J) (hnone : J.binding a = none)
    (hb : (J.step (.claimNext worker t duration leaseId)).binding a = some b) :
    ∃ A', (J.step (.claimNext worker t duration leaseId)).view a = some A' ∧
      A'.AffineTo b fun i => J.lease i = none := by
  obtain ⟨hJ, hatt⟩ := h.invariant
  have hJ' := (h.step (.claimNext worker t duration leaseId)).invariant.1
  obtain ⟨A', hA', hb'⟩ := view_of_binding hJ'.sound hb
  rcases claimNext_cases J worker t duration leaseId with
    hsame | ⟨n, J₁, hexpire, hsame | ⟨o, hclaim⟩⟩
  · rw [hsame, hnone] at hb
    cases hb
  · rw [hsame] at hA'
    cases (unbound_of_expiry hJ hnone hexpire hA').1.symm.trans hb'
  · have p₁ := expireLeasesTransaction_proceeds hJ hexpire
    obtain ⟨cs, -, -, hclaimed⟩ := claimNextTransaction_ok p₁.lawful trivial (p₁.attended hatt)
      (fun h => h.elim) hclaim
    obtain ⟨B, hB⟩ : ∃ B, J₁.view a = some B := by
      cases hB : J₁.view a with
      | some B => exact ⟨B, rfl⟩
      | none => cases (hclaimed.domain a hB).symm.trans hA'
    refine ⟨A', hA', hb', fun i e he hi s hs => ?_⟩
    have hcoherent := ((hJ'.attempts a A' hA').evidenced.lease i e he).coherent
    obtain ⟨hw, hh, hstate⟩ := hclaimed.attached a B A' hB hA' i e he
      ((unbound_of_expiry hJ hnone hexpire hB).2 i hi) b s hb' hs
    exact ⟨Prod.ext (hcoherent.workerId.trans hw) (hcoherent.hostId.trans hh), hstate⟩

theorem affine_of_affineTo (hJ' : J'.Lawful D) (hA : J'.view a = some A)
    (h : A.AffineTo b fun i => J.lease i = none) : J.Affine J' a b := by
  have hcarries : ∀ l ∈ J'.leases.rows, ∀ s, J.CarriesSince a l s → ∃ e, A.leases l.leaseId = some e ∧
      e.row = l ∧ (l.workerId, l.hostId) = (b.workerId, b.hostId) ∧ s = b.stateJson := by
    rintro l hl s ⟨rfl, hnew, hs⟩
    have he := entry_of_lease hA (Table.lookup_of_mem leases_by_id hl)
    exact ⟨_, he, rfl, h.2 _ _ he hnew s hs⟩
  refine ⟨(binding_of_view hA).trans h.1, fun l hl s hc => ?_, fun l hl m hm s s' hc hc' ha ha' => ?_⟩
  · obtain ⟨e, -, -, hholder, hstate⟩ := hcarries l hl s hc
    exact ⟨congrArg Prod.fst hholder, congrArg Prod.snd hholder, hstate⟩
  · obtain ⟨e, he, rfl, hholder, -⟩ := hcarries l hl s hc
    obtain ⟨f, hf, rfl, hholder', -⟩ := hcarries m hm s' hc'
    have hid := (hJ'.attempts a A hA).bound.alone b h.1 _ _ e f
      ⟨⟨he, ha⟩, hholder, by rw [hc.2.2]; rfl⟩ ⟨⟨hf, ha'⟩, hholder', by rw [hc'.2.2]; rfl⟩
    rw [hid, hf] at he
    cases he
    rfl

/-- A binding is there to stay, and all leases granted with it or after it keep to it. -/
theorem operation_state_affinity (h : Reachable J) (a : Uuid) (b : BindingRow) (op : Operation) :
    (J.binding a = some b → (J.step op).binding a = some b) ∧
    (J.binding a = none → (J.step op).binding a = some b →
      ∀ J', (J.step op).LeadsTo J' → J.Affine J' a b) := by
  obtain ⟨hJ, -⟩ := h.invariant
  refine ⟨fun hb => ?_, fun hnone hb J' hrun => ?_⟩
  · obtain ⟨A, hA, hAb⟩ := view_of_binding hJ.sound hb
    obtain ⟨A', hA', hsteps⟩ := (h.later (.step J op)).2.evolves.kept a A hA
    rw [binding_of_view hA']
    exact (hJ.attempts a A hA).along hAb (fun _ _ _ hBC => hBC.binding_eq) hsteps
  · have hclaim := isClaim_of_binding h hnone hb
    cases op with
    | claimNext worker t duration leaseId =>
      obtain ⟨A, hA, haffine⟩ := affineTo_of_claim h hnone hb
      obtain ⟨hreach, hproceeds⟩ := (h.step _).later hrun
      obtain ⟨A', hA', hsteps⟩ := hproceeds.evolves.kept a A hA
      exact affine_of_affineTo hproceeds.lawful hA' (((h.step _).invariant.1.attempts a A hA).along
        haffine (fun _ _ hB hBC => hBC.affineTo hB.evidenced) hsteps)
    | _ => cases hclaim

namespace Sample

/-- The handoff before its verification is claimed. -/
def prepared : Journal digest := Journal.empty.script
  [fun _ => .admitWorkflow handoffManifest (admission handoffManifest sourceSha 1 "d") 0 uuid1 uuid2,
    fun _ => .claimNext vps 0 1000 uuid3,
    Journal.report 3 .succeeded .complete 10]

theorem prepared_reachable : Reachable prepared := Reachable.script .init _

/-- The claim of the verification binds the operation state. -/
theorem prepared_binds : ∃ b,
    (prepared.step (.claimNext builder 20 10000 uuid4)).binding 2 = some b ∧
    prepared.Affine (prepared.step (.claimNext builder 20 10000 uuid4)) 2 b := by
  have hnone : prepared.binding 2 = none := Option.isNone_iff_eq_none.mp (by decide +kernel)
  have hsome : ((prepared.step (.claimNext builder 20 10000 uuid4)).binding 2).isSome = true := by
    decide +kernel
  obtain ⟨b, hb⟩ := Option.isSome_iff_exists.mp hsome
  exact ⟨b, hb, (operation_state_affinity prepared_reachable 2 b _).2 hnone hb _ .init⟩

end Sample

end Rdashboard
