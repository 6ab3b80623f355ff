import Rdashboard.Refinement.Admission

/-! # Runs of the scheduler

Every call of the scheduler moves the attempts of the journal along their steps.  So every
journal that calls can leave is lawful, and nobody in it waits for a lock that is free; and
callers that keep to a discipline get the invariants that depend on it. -/

namespace Rdashboard

open Relational Journal Session WorkflowWorkerPoolV1

variable {sha256 : Sha256} {D : Discipline} {J J' : Journal sha256} {t : Int}

/-! ### Disciplines -/

/-- The calls of careful callers: an admission only supersedes attempts without active leases
when no cleanup of theirs is open, and a failure with a complete cleanup is only reported while
no other cleanup of the attempt is open or about to be, unless another lease of the attempt goes
on. -/
def Journal.CarefulAt (J : Journal sha256) : Operation → Prop
  | .admitWorkflow _ admission _ _ _ =>
    J.triggers.lookup TriggerRow.key (admission.triggerChannel, admission.deliveryId) = none →
    J.findStableRequest admission = none → ∀ row ∈ J.attempts.rows,
      ∀ request, J.request row.requestId = some request →
      request.projectId = admission.projectId → request.operationKind = admission.executionMode →
      row.state.isTerminal = false → row.mutationState = .notStarted →
      J.activeLeases row.attemptId = 0 → J.unresolvedCleanupCount row.attemptId = 0
  | .commitNodeReceipt receipt recordedAtMs =>
    receipt.outcome = .failed → receipt.cleanupResult = .complete → ∀ l ∈ J.leases.rows,
      l.attemptId = receipt.attemptId → l.leaseId ≠ receipt.leaseId →
      (J.owesCleanup l = true ∨ l.due recordedAtMs = true) → ∃ m ∈ J.leases.rows,
        m.attemptId = receipt.attemptId ∧ m.leaseId ≠ receipt.leaseId ∧ m.state = .active ∧
          recordedAtMs < m.expiresAtMs
  | _ => True

/-- The calls of orderly callers: a VPS worker only claims while no lease that goes on carries
an operation state that its attempt has not bound. -/
def Journal.OrderlyAt (J : Journal sha256) : Operation → Prop
  | .claimNext worker nowMs _ _ =>
    vpsRequired ∈ worker.pools → ∀ l ∈ J.leases.rows, l.state = .active →
      nowMs < l.expiresAtMs → l.leaseJson.1.operationState.isSome = true →
      (J.binding l.attemptId).isSome = true
  | _ => True

/-! ### Calls -/

section Calls

variable {n : Nat} {worker : WorkflowWorkerRegistrationV1} {duration : Int}
  {receipt : WorkflowNodeReceiptV1}

theorem expireLeases_ok_iff : expireLeases t J = (.ok n, J') ↔
    0 ≤ t ∧ expireLeasesTransaction t J = .ok (n, J') := by
  simp only [expireLeases, bind_ok_iff, ensure_ok_iff, immediateTransaction_ok_iff]
  constructor
  · rintro ⟨_, _, ⟨ht, rfl⟩, h⟩
    exact ⟨ht, h⟩
  · rintro ⟨ht, h⟩
    exact ⟨(), J, ⟨ht, rfl⟩, h⟩

section

variable (hJ : J.Lawful D)
include hJ

theorem expireLeases_proceeds : J.Proceeds D ((expireLeases t).final J) :=
  final_ensure hJ.refl fun _ =>
    final_transaction hJ.refl fun _ _ h => expireLeasesTransaction_proceeds hJ h

theorem admit_proceeds {manifest : ProjectManifestV2} {admission : WorkflowAdmissionV1}
    {requestId attemptId : FreshUuid}
    (hcareful : D.careful → J.CarefulAt (.admitWorkflow manifest admission t requestId attemptId)) :
    J.Proceeds D ((admitWorkflow manifest admission t requestId attemptId).final J) := by
  refine final_lift hJ.refl fun valid _ => final_transaction hJ.refl fun _ _ h => ?_
  refine (admitTransaction_proceeds hJ attemptId.2 (fun hD htrigger hstable b B hB hsup hidle => ?_) h).1
  rw [← unresolvedCleanupCount_eq_zero_iff hB, ← attemptId_of_view hB]
  refine hcareful hD htrigger hstable B.row (Table.mem_of_lookup (attempt_of_view hB)) B.request
    (request_of_view hB) hsup.projectId hsup.operationKind hsup.live hsup.notStarted ?_
  rw [attemptId_of_view hB, activeLeases_eq_zero_iff hB]
  exact hidle

/-- Expiry leaves a journal in which claims are orderly. -/
theorem orderly_of_expiry {leaseId : FreshUuid}
    (horderly : J.OrderlyAt (.claimNext worker t duration leaseId))
    (hvps : vpsRequired ∈ worker.pools)
    (h : expireLeasesTransaction t J = .ok (n, J')) : J'.Orderly := by
  intro b B' hB' hnone i e' he'
  obtain ⟨B, hB⟩ := expireLeasesTransaction_view hJ h hB'
  obtain ⟨B'', hB'', hexp⟩ := expireLeasesTransaction_leases hJ h hB
  cases hB'.symm.trans hB''
  obtain ⟨e, he, hfixed⟩ := hexp.keeps.active he'
  obtain ⟨hl, hatt, -⟩ := lease_of_view hB he.1
  have hexpires : e'.row.expiresAtMs = e.row.expiresAtMs := congrArg (·.2.2.2.2) hfixed
  have hjson : e'.row.leaseJson = e.row.leaseJson := congrArg (·.2.2.1) hfixed
  have hlate := hexp.closed i e' he'
  rw [hjson, ← Option.not_isSome_iff_eq_none]
  intro hstate
  have := horderly hvps e.row (Table.mem_of_lookup hl) he.2 (by omega) hstate
  rw [hatt, binding_of_view hB, ← hexp.binding, hnone] at this
  cases this

theorem claimNext_proceeds {leaseId : FreshUuid} (hclaims : D.claims) (hatt : J.Attended)
    (horderly : D.orderly → J.OrderlyAt (.claimNext worker t duration leaseId)) :
    J.Proceeds D ((claimNext worker t duration leaseId).final J) := by
  refine final_lift hJ.refl fun _ _ => final_ensure hJ.refl fun _ =>
    final_transaction hJ.refl fun o J' h => ?_
  simp only [Txn.ite_ok_iff, Txn.ok_iff] at h
  obtain ⟨n, J₁, hexpire, _, rfl, h⟩ := h
  have p₁ := expireLeasesTransaction_proceeds hJ hexpire
  rcases h with ⟨-, -, rfl⟩ | ⟨-, h⟩
  · exact p₁
  · obtain ⟨cs, -, p₂, -⟩ := claimNextTransaction_ok p₁.lawful hclaims (p₁.attended hatt)
      (fun hD hvps => orderly_of_expiry hJ (horderly hD) hvps hexpire) h
    exact p₁.trans p₂

theorem renewLease_proceeds {lease : WorkflowLeaseV1} :
    J.Proceeds D ((renewLease worker lease t duration).final J) := by
  refine final_lift hJ.refl fun _ _ => final_lift hJ.refl fun _ _ =>
    final_ensure hJ.refl fun _ => final_transaction hJ.refl fun o J' h => ?_
  simp only [Txn.bind_ok_iff] at h
  obtain ⟨n, J₁, hexpire, h⟩ := h
  have p₁ := expireLeasesTransaction_proceeds hJ hexpire
  exact p₁.trans (renewLeaseTransaction_proceeds p₁.lawful h)

/-- Expiry keeps a careful failure careful: what it closes, and what was open before, comes with
a lease that goes on. -/
theorem settled_of_expiry (hcareful : J.CarefulAt (.commitNodeReceipt receipt t))
    (hfailed : receipt.outcome = .failed) (hcomplete : receipt.cleanupResult = .complete)
    (h : expireLeasesTransaction t J = .ok (n, J')) {A' : Attempt sha256}
    (hA' : J'.view receipt.attemptId = some A') (hactive : ∃ e, A'.ActiveLease receipt.leaseId e)
    (halone : ∀ i e, A'.ActiveLease i e → i = receipt.leaseId) :
    A'.DebtFreeBut receipt.leaseId := by
  obtain ⟨A, hA⟩ := expireLeasesTransaction_view hJ h hA'
  obtain ⟨A'', hA'', hexp⟩ := expireLeasesTransaction_leases hJ h hA
  cases hA'.symm.trans hA''
  have hrunning : A'.row.state ≠ .failed := by
    obtain ⟨e, he⟩ := hactive
    have hlaw := (expireLeasesTransaction_proceeds hJ h).lawful.attempts _ A' hA'
    rw [hlaw.standing.active _ e he]
    decide
  intro j e' hj he'
  obtain ⟨e, he, hmove⟩ := hexp.keeps.lease j e' he'
  obtain ⟨hl, hatt, hid, -⟩ := lease_of_view hA he
  -- No other lease of the attempt goes on.
  have hnone : ¬ ∃ m ∈ J.leases.rows, m.attemptId = receipt.attemptId ∧
      m.leaseId ≠ receipt.leaseId ∧ m.state = .active ∧ t < m.expiresAtMs := by
    rintro ⟨m, hm, hma, hmi, hms, hlate⟩
    obtain ⟨B, f, hB, hf, rfl⟩ := hJ.sound.view_of_lease hm
    rw [hma, hA] at hB
    cases hB
    rcases hexp.spared _ f ⟨hf, hms⟩ hlate with hsame | hfail
    · exact hmi (halone _ f ⟨hsame, hms⟩)
    · exact hrunning hfail
  have hclear : ¬ (J.owesCleanup e.row = true ∨ e.row.due t = true) := fun howes =>
    hnone (hcareful hfailed hcomplete e.row (Table.mem_of_lookup hl) hatt (by rw [hid]; exact hj) howes)
  rw [not_or, owesCleanup_of_view hA he, Bool.not_eq_true] at hclear
  have hcleanup : e'.cleanup = e.cleanup := by
    have := hexp.cleanup j
    rw [he', he, Option.map_some] at this
    exact Option.some.inj this
  have hstate : e'.row.state = e.row.state := by
    rcases hmove.state with hs | ⟨hs, hclosed, -⟩
    · exact hs
    · rcases hexp.spared j e ⟨he, hs⟩ (by
        have := hclear.2
        simp only [LeaseRow.due, hs, decide_true, Bool.true_and, decide_eq_true_eq] at this
        omega) with hsame | hfail
      · rw [he'] at hsame
        cases hsame
        exact absurd hs hclosed
      · exact absurd hfail hrunning
  rw [← hclear.1]
  simp only [LeaseEntry.owesCleanup, hcleanup, hstate, hmove.receipt]

theorem commitNodeReceipt_proceeds
    (hcareful : D.careful → J.CarefulAt (.commitNodeReceipt receipt t)) :
    J.Proceeds D ((commitNodeReceipt receipt t).final J) := by
  refine final_lift hJ.refl fun valid hvalid => final_ensure hJ.refl fun ht =>
    final_bind (expireLeases_proceeds hJ) fun n J₁ hexpire => ?_
  have hsame : valid.1 = receipt := by
    rw [ofContract_ok_iff, Check.certify_ok_iff] at hvalid
    exact hvalid
  obtain ⟨-, hexpire⟩ := expireLeases_ok_iff.mp hexpire
  have p₁ := expireLeasesTransaction_proceeds hJ hexpire
  refine final_transaction p₁ fun o J' h => p₁.trans ?_
  refine commitNodeReceiptTransaction_proceeds p₁.lawful ht.2 (fun hD hfailed hcomplete A hA => ?_) h
  rw [hsame] at hfailed hcomplete hA ⊢
  exact settled_of_expiry hJ (hcareful hD) hfailed hcomplete hexpire hA

theorem commitCleanupReceipt_proceeds {receipt : WorkflowCleanupReceiptV1} :
    J.Proceeds D ((commitCleanupReceipt receipt t).final J) :=
  final_lift hJ.refl fun _ _ => final_ensure hJ.refl fun _ =>
    final_transaction hJ.refl fun _ _ h => commitCleanupReceiptTransaction_proceeds hJ h

theorem reduceAttempt_proceeds {a : Uuid} : J.Proceeds D ((reduceAttempt a t).final J) :=
  final_ensure hJ.refl fun _ =>
    final_transaction hJ.refl fun _ _ h => reduceAttemptTransaction_proceeds hJ h

theorem reconcileControllerNodes_proceeds :
    J.Proceeds D ((reconcileControllerNodes t).final J) := by
  refine final_ensure hJ.refl fun _ =>
    final_bind (expireLeases_proceeds hJ) fun n J₁ hexpire => ?_
  have p₁ := expireLeasesTransaction_proceeds hJ (expireLeases_ok_iff.mp hexpire).2
  refine final_bind p₁ fun attempts J₂ hread => ?_
  obtain ⟨-, rfl⟩ := read_ok_iff.mp hread
  have hloop : J.Proceeds D ((each (fun attemptId => do
      let _ ← reduceAttempt attemptId t) attempts).final J₁) :=
    final_each p₁ fun a J₂ h => h.trans (final_bind (reduceAttempt_proceeds h.lawful)
      fun _ J₃ hr => by
        have := reduceAttempt_proceeds (t := t) (a := a) h.lawful
        rw [final, hr] at this
        exact this)
  refine final_bind hloop fun _ J₃ h => ?_
  rw [final, h] at hloop
  exact hloop

end

/-- Does the call claim work for a worker? -/
def Operation.isClaim : Operation → Bool
  | .claimNext .. => true
  | _ => false

/-- Every call moves the attempts along. -/
theorem step_proceeds {op : Operation} (hJ : J.Lawful D) (hclaims : op.isClaim = true → D.claims)
    (hatt : J.Attended)
    (hcareful : D.careful → J.CarefulAt op) (horderly : D.orderly → J.OrderlyAt op) :
    J.Proceeds D (J.step op) := by
  cases op with
  | admitWorkflow => exact admit_proceeds hJ hcareful
  | claimNext => exact claimNext_proceeds hJ (hclaims rfl) hatt horderly
  | renewLease => exact renewLease_proceeds hJ
  | expireLeases => exact expireLeases_proceeds hJ
  | commitNodeReceipt => exact commitNodeReceipt_proceeds hJ hcareful
  | commitCleanupReceipt => exact commitCleanupReceipt_proceeds hJ
  | reduceAttempt => exact reduceAttempt_proceeds hJ
  | reconcileControllerNodes => exact reconcileControllerNodes_proceeds hJ

end Calls

/-! ### Reachable journals -/

section Reachable

theorem empty_lawful : (empty : Journal sha256).Lawful D where
  sound := by constructor <;> simp [empty, Table.empty]
  attempts := fun _ _ h => by cases h

theorem ReachableBy.invariant {guard : Journal sha256 → Operation → Prop} (hclaims : D.claims)
    (hcareful : D.careful → ∀ J op, guard J op → J.CarefulAt op)
    (horderly : D.orderly → ∀ J op, guard J op → J.OrderlyAt op) (h : ReachableBy guard J) :
    J.Lawful D ∧ J.Attended := by
  refine Reaches.invariant (I := fun J => J.Lawful D ∧ J.Attended)
    ⟨empty_lawful, fun _ _ h => by cases h⟩ (fun J op _ hJ hg => ?_) h
  have hp := step_proceeds hJ.1 (fun _ => hclaims) hJ.2 (fun hD => hcareful hD J op hg) fun hD => horderly hD J op hg
  exact ⟨hp.lawful, hp.attended hJ.2⟩

/-- Every reachable journal is lawful, and nobody in it waits for a free lock. -/
theorem Reachable.invariant (h : Reachable J) : J.Lawful .none ∧ J.Attended :=
  ReachableBy.invariant trivial (fun h => h.elim) (fun h => h.elim) h

theorem Reachable.step (h : Reachable J) (op : Operation) : Reachable (J.step op) :=
  .next op h trivial

/-- Later journals are reached by further calls. -/
def Journal.LeadsTo (J J' : Journal sha256) : Prop :=
  Reaches Journal.step (fun _ _ => True) J J'

theorem Journal.LeadsTo.step (J : Journal sha256) (op : Operation) : J.LeadsTo (J.step op) :=
  .next op .init trivial

/-- Every attempt is still there after any further calls, and has only made its moves. -/
theorem Reachable.later (h : Reachable J) (hrun : J.LeadsTo J') :
    Reachable J' ∧ J.Proceeds .none J' := by
  refine Reaches.invariant (I := fun J' => Reachable J' ∧ J.Proceeds .none J')
    ⟨h, h.invariant.1.refl⟩ (fun J₁ op _ hJ₁ _ => ?_) hrun
  have hinv := hJ₁.1.invariant
  exact ⟨hJ₁.1.step op, hJ₁.2.trans
    (step_proceeds hinv.1 (fun _ => trivial) hinv.2 (fun h => h.elim) fun h => h.elim)⟩

end Reachable

end Rdashboard
