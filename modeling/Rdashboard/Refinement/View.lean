import Rdashboard.Lifecycle.Rest

/-! # The journal as a family of attempts

`Journal.view J a` collects the rows of attempt `a`.  A journal is `Sound` when its rows refer
to rows that are there and no request has two attempts; then every statement of the scheduler
changes the view of one attempt, in the way `Lifecycle.Attempt` says, and leaves the others
alone.  `Acts J J' a F` states this of the journals before and after. -/

namespace Rdashboard

open Relational Table LeaseRow Option

variable {sha256 : Sha256}

namespace Journal

/-- The attempt `a` with these rows. -/
def attach (J : Journal sha256) (a : Uuid) (row : AttemptRow) (request : RequestRow) :
    Attempt sha256 where
  row := row
  request := request
  order := (J.orderedNodes a).map (·.nodeId)
  dependsOn := J.dependenciesOf a
  nodes := J.node a
  leases := fun i => (J.leases.lookup key (a, i)).map fun l =>
    ⟨l, J.leaseReceipt i, J.leaseCleanup i⟩
  receipts := J.nodeReceipt a
  binding := J.binding a
  reduction := J.reduction a
  lock := J.attemptLock a

/-- The attempt `a` of the journal. -/
def view (J : Journal sha256) (a : Uuid) : Option (Attempt sha256) :=
  (J.attempt a).bind fun row => (J.request row.requestId).map (J.attach a row)

/-- Rows refer to rows that are there, and every request has one attempt. -/
structure Sound (J : Journal sha256) : Prop where
  number : ∀ r ∈ J.attempts.rows, r.attemptNumber = 1
  request : ∀ r ∈ J.attempts.rows, (J.request r.requestId).isSome = true
  node : ∀ n ∈ J.nodes.rows, (J.attempt n.attemptId).isSome = true
  dependency : ∀ d ∈ J.dependencies.rows, (J.attempt d.attemptId).isSome = true
  lease : ∀ l ∈ J.leases.rows, (J.attempt l.attemptId).isSome = true
  receipt : ∀ r ∈ J.receipts.rows,
    (J.lease r.leaseId).isSome = true ∧ (J.attempt r.attemptId).isSome = true
  cleanup : ∀ c ∈ J.cleanups.rows, (J.lease c.leaseId).isSome = true
  binding : ∀ b ∈ J.bindings.rows, (J.attempt b.attemptId).isSome = true
  reduction : ∀ r ∈ J.reductions.rows, (J.attempt r.attemptId).isSome = true
  lock : ∀ k ∈ J.locks.rows, (J.attempt k.attemptId).isSome = true

/-- The journal `J'` is `J` with attempt `a` changed by `F`. -/
def Acts (J J' : Journal sha256) (a : Uuid) (F : Attempt sha256 → Attempt sha256) : Prop :=
  J.Sound → J'.Sound ∧ J'.view = modifyAt J.view a F

/-! ### Reading the view -/

section Reading

variable {J : Journal sha256} {a : Uuid} {A : Attempt sha256}
variable {i : Uuid} {l : LeaseRow sha256} {e : LeaseEntry sha256}

theorem view_eq_some_iff : J.view a = some A ↔ ∃ row request, J.attempt a = some row ∧
    J.request row.requestId = some request ∧ J.attach a row request = A := by
  simp [view, bind_eq_some_iff]

theorem attempt_of_view (h : J.view a = some A) : J.attempt a = some A.row := by
  obtain ⟨row, request, hrow, -, rfl⟩ := view_eq_some_iff.mp h
  exact hrow

theorem request_of_view (h : J.view a = some A) : J.request A.row.requestId = some A.request := by
  obtain ⟨row, request, -, hreq, rfl⟩ := view_eq_some_iff.mp h
  exact hreq

theorem attach_of_view (h : J.view a = some A) : J.attach a A.row A.request = A := by
  obtain ⟨row, request, -, -, rfl⟩ := view_eq_some_iff.mp h
  rfl

theorem attemptId_of_view (h : J.view a = some A) : A.row.attemptId = a :=
  key_of_lookup (attempt_of_view h)

theorem Sound.view_of_attempt (hJ : J.Sound) {row : AttemptRow} (h : J.attempt a = some row) :
    ∃ A, J.view a = some A ∧ A.row = row := by
  obtain ⟨request, hreq⟩ := isSome_iff_exists.mp (hJ.request row (mem_of_lookup h))
  exact ⟨J.attach a row request, view_eq_some_iff.mpr ⟨row, request, h, hreq, rfl⟩, rfl⟩

theorem Sound.view_isSome (hJ : J.Sound) (h : (J.attempt a).isSome = true) :
    ∃ A, J.view a = some A := by
  obtain ⟨row, hrow⟩ := isSome_iff_exists.mp h
  obtain ⟨A, hA, -⟩ := hJ.view_of_attempt hrow
  exact ⟨A, hA⟩

section

variable (h : J.view a = some A)
include h

theorem node_of_view : J.node a = A.nodes := by
  rw [← attach_of_view h]; rfl

theorem leases_of_view (i : Uuid) : A.leases i =
    (J.leases.lookup key (a, i)).map fun l => ⟨l, J.leaseReceipt i, J.leaseCleanup i⟩ := by
  rw [← attach_of_view h]; rfl

theorem receipts_of_view : J.nodeReceipt a = A.receipts := by
  rw [← attach_of_view h]; rfl

theorem binding_of_view : J.binding a = A.binding := by
  rw [← attach_of_view h]; rfl

theorem reduction_of_view : J.reduction a = A.reduction := by
  rw [← attach_of_view h]; rfl

theorem attemptLock_of_view : J.attemptLock a = A.lock := by
  rw [← attach_of_view h]; rfl

theorem dependenciesOf_of_view : J.dependenciesOf a = A.dependsOn := by
  rw [← attach_of_view h]; rfl

end

theorem lease_eq_some_iff : J.lease i = some l ↔
    J.leases.lookup key (l.attemptId, i) = some l := by
  constructor
  · intro h
    have hi : l.leaseId = i := key_of_lookup h
    exact (lookup_eq_some_iff leases_by_key).mpr ⟨mem_of_lookup h, by rw [← hi]; rfl⟩
  · intro h
    have hk : key l = (l.attemptId, i) := key_of_lookup h
    exact (lookup_eq_some_iff leases_by_id).mpr ⟨mem_of_lookup h, (Prod.ext_iff.mp hk).2⟩

theorem lease_of_view (h : J.view a = some A)
    (he : A.leases i = some e) : J.lease i = some e.row ∧ e.row.attemptId = a ∧ e.row.leaseId = i ∧
      e.receipt = J.leaseReceipt i ∧ e.cleanup = J.leaseCleanup i := by
  rw [leases_of_view h] at he
  obtain ⟨l, hl, rfl⟩ := map_eq_some_iff.mp he
  have hk : key l = (a, i) := key_of_lookup hl
  obtain ⟨rfl, rfl⟩ := Prod.ext_iff.mp hk
  exact ⟨lease_eq_some_iff.mpr hl, rfl, rfl, rfl, rfl⟩

theorem entry_of_lease (h : J.view l.attemptId = some A)
    (hl : J.lease i = some l) : A.leases i = some ⟨l, J.leaseReceipt i, J.leaseCleanup i⟩ := by
  rw [leases_of_view h, lease_eq_some_iff.mp hl, map_some]

section

variable (h : J.view a = some A)
include h

theorem forall_leases_iff {P : LeaseRow sha256 → Prop} :
    (∀ l ∈ J.leases.rows, l.attemptId = a → P l) ↔ ∀ i e, A.leases i = some e → P e.row := by
  constructor
  · intro hP i e he
    obtain ⟨hl, hatt, -⟩ := lease_of_view h he
    exact hP _ (mem_of_lookup hl) hatt
  · rintro hP l hl rfl
    exact hP _ _ (entry_of_lease h (lookup_of_mem leases_by_id hl))

theorem activeLeases_eq_zero_iff : J.activeLeases a = 0 ↔ A.Idle := by
  rw [activeLeases, count_eq_zero_iff]
  simp only [where_iff, not_and]
  rw [forall_leases_iff h]
  exact forall₂_congr fun i e => ⟨fun hP ha => hP ha.1 ha.2, fun hP he hs => hP ⟨he, hs⟩⟩

theorem owesCleanup_of_view (he : A.leases i = some e) : J.owesCleanup e.row = e.owesCleanup := by
  obtain ⟨-, -, hid, hr, hc⟩ := lease_of_view h he
  rw [owesCleanup, LeaseEntry.owesCleanup, hid, hr, hc]

theorem unresolvedCleanupCount_eq_zero_iff : J.unresolvedCleanupCount a = 0 ↔ A.DebtFree := by
  rw [unresolvedCleanupCount, count_eq_zero_iff]
  simp only [where_iff, not_and, Bool.not_eq_true]
  rw [forall_leases_iff h]
  refine forall₂_congr fun i e => ⟨fun hP he => ?_, fun hP he => ?_⟩
  · rw [← owesCleanup_of_view h he]; exact hP he
  · rw [owesCleanup_of_view h he]; exact hP he

theorem forall_nodes_iff {P : NodeRow → Prop} :
    (∀ n ∈ J.nodes.rows, n.attemptId = a → P n) ↔ ∀ k n, A.nodes k = some n → P n := by
  rw [← node_of_view h]
  constructor
  · intro hP k n hn
    exact hP n (mem_of_lookup hn) (Prod.ext_iff.mp (key_of_lookup hn)).1
  · rintro hP n hn rfl
    exact hP n.nodeId n (lookup_of_mem nodes_by_key hn)

end

theorem Sound.view_of_node (hJ : J.Sound) {n : NodeRow} (hn : n ∈ J.nodes.rows) :
    ∃ A, J.view n.attemptId = some A ∧ A.nodes n.nodeId = some n := by
  obtain ⟨A, hA⟩ := hJ.view_isSome (hJ.node n hn)
  exact ⟨A, hA, by rw [← node_of_view hA]; exact lookup_of_mem nodes_by_key hn⟩

theorem Sound.view_of_lease (hJ : J.Sound) (hl : l ∈ J.leases.rows) :
    ∃ A e, J.view l.attemptId = some A ∧ A.leases l.leaseId = some e ∧ e.row = l := by
  obtain ⟨A, hA⟩ := hJ.view_isSome (hJ.lease l hl)
  exact ⟨A, _, hA, entry_of_lease hA (lookup_of_mem leases_by_id hl), rfl⟩

end Reading

end Journal

end Rdashboard
