import Rdashboard.Properties.Dependencies

/-! # Leases and stopped attempts

In every journal that calls can leave, a leased node and its active lease belong together, and
a stopped attempt has no active lease; and no call changes a stopped attempt but for its
cleanups. -/

namespace Rdashboard

open Relational Journal Attempt Table Option

variable {sha256 : Sha256} {D : Discipline} {J J' : Journal sha256} {a : Uuid} {A A' : Attempt sha256}
variable {l : LeaseRow sha256}

/-! ### The lease of a node -/

/-- The one active lease of a node. -/
structure Journal.CurrentLease (J : Journal sha256) (n : NodeRow) (l : LeaseRow sha256) : Prop where
  stored : l ∈ J.leases.rows
  attemptId : l.attemptId = n.attemptId
  nodeId : l.nodeId = n.nodeId
  active : l.state = .active
  generation : l.generation = n.leaseGeneration
  coherent : l.Coherent
  others : ∀ m ∈ J.leases.rows, m.attemptId = n.attemptId → m.nodeId = n.nodeId → m ≠ l →
    m.state ≠ .active ∧ m.generation < l.generation

theorem currentLease_of_leased (hJ : J.Lawful D) {n : NodeRow} (hn : n ∈ J.nodes.rows)
    (hs : n.state = .leased) : ∃ l, J.CurrentLease n l := by
  obtain ⟨A, hA, hrow⟩ := hJ.sound.view_of_node hn
  have hlaw := hJ.attempts _ A hA
  obtain ⟨i, e, ha, hk, hg⟩ := hlaw.fenced.active_of_node hrow hs
  obtain ⟨hl, hatt, hid, -⟩ := lease_of_view hA ha.1
  refine ⟨e.row, mem_of_lookup hl, hatt, hk, ha.2, hg,
    (hlaw.evidenced.lease i e ha.1).coherent, fun m hm hma hmk hne => ?_⟩
  obtain ⟨B, f, hB, hf, rfl⟩ := hJ.sound.view_of_lease hm
  rw [hma, hA] at hB
  cases hB
  have hids : f.row.leaseId ≠ i := fun heq => hne (by
    rw [heq, ha.1] at hf
    cases hf
    rfl)
  refine ⟨fun hactive => hids (hlaw.fenced.active_unique ⟨hf, hactive⟩ ha (hmk.trans hk.symm)), ?_⟩
  -- The node has the highest generation, and no two leases of a node share one.
  have hclaim : A.claim f.row.leaseId =
      some (n.nodeId, f.row.generation, decide (f.row.state = .active)) := by
    rw [claim, hf, map_some, LeaseRow.claim, hmk]
  have hmine := ha.claim_eq
  rw [hk] at hmine
  obtain ⟨held, g, hslot, hle⟩ := hlaw.fenced.token_le _ _ _ _ hclaim
  rw [slot, hrow] at hslot
  cases hslot
  refine lt_of_le_of_ne (by rw [hg]; exact hle) fun heq => hids ?_
  rw [heq] at hclaim
  exact hlaw.fenced.token_inj _ _ _ _ _ _ hclaim hmine

theorem leased_of_currentLease (hJ : J.Lawful D) {n : NodeRow} (hn : n ∈ J.nodes.rows)
    (hl : J.CurrentLease n l) : n.state = .leased := by
  obtain ⟨A, e, hA, he, rfl⟩ := hJ.sound.view_of_lease hl.stored
  obtain ⟨m, hm, hs, -⟩ := (hJ.attempts _ A hA).fenced.node_of_active ⟨he, hl.active⟩
  have hrow : J.node n.attemptId n.nodeId = some n := lookup_of_mem nodes_by_key hn
  rw [← node_of_view hA, hl.attemptId, hl.nodeId, hrow] at hm
  cases hm
  exact hs

/-- Leased nodes and active leases correspond; a stopped attempt has no active lease; and every
receipt is the only one of its node, under a committed lease of that node. -/
theorem leases_correspond (h : Reachable J) :
    (∀ n ∈ J.nodes.rows, n.state = .leased ↔ ∃ l, J.CurrentLease n l) ∧
    (∀ row ∈ J.attempts.rows, row.state.isStopped = true →
      ∀ l ∈ J.leases.rows, l.attemptId = row.attemptId → l.state ≠ .active) ∧
    ∀ r ∈ J.receipts.rows,
      (∀ s ∈ J.receipts.rows, s.attemptId = r.attemptId → s.nodeId = r.nodeId → s = r) ∧
      ∃ l ∈ J.leases.rows, l.leaseId = r.leaseId ∧ l.attemptId = r.attemptId ∧
        l.nodeId = r.nodeId ∧ l.state = .committed := by
  obtain ⟨hJ, -⟩ := h.invariant
  refine ⟨fun n hn => ⟨currentLease_of_leased hJ hn, fun ⟨l, hl⟩ => leased_of_currentLease hJ hn hl⟩,
    fun row hrow hs l hl hatt hactive => ?_, fun r hr => ⟨fun s hs hsa hsk => ?_, ?_⟩⟩
  · obtain ⟨A, e, hA, he, rfl⟩ := hJ.sound.view_of_lease hl
    have hsame : A.row = row := by
      rw [hatt] at hA
      exact some.inj ((attempt_of_view hA).symm.trans (lookup_of_mem attempts_by_id hrow))
    exact (hJ.attempts _ A hA).idle_of_stopped (hsame ▸ hs) _ e ⟨he, hactive⟩
  · have hr' := lookup_of_mem receipts_by_node hr
    have hs' := lookup_of_mem receipts_by_node hs
    have hkey : s.node = r.node := Prod.ext hsa hsk
    rw [hkey] at hs'
    exact some.inj (hs'.symm.trans hr')
  · obtain ⟨A, hA⟩ := hJ.sound.view_isSome (hJ.sound.receipt r hr).2
    have hev := (hJ.attempts _ A hA).evidenced
    have hrow : A.receipts r.nodeId = some r := by
      rw [← receipts_of_view hA]
      exact lookup_of_mem receipts_by_node hr
    obtain ⟨-, e, he, her⟩ := hev.receipt _ r hrow
    obtain ⟨hl, hatt, hid, -⟩ := lease_of_view hA he
    exact ⟨e.row, mem_of_lookup hl, hid, hatt, (hev.madeUnder _ e r he her).1.nodeId.symm,
      (hev.committed _ e he).mpr (by rw [her]; rfl)⟩

theorem Sample.cuttingOver_leased : ∃ n ∈ cuttingOver.nodes.rows, n.state = .leased ∧
    ∃ l, cuttingOver.CurrentLease n l := by
  obtain ⟨n, hn, hs⟩ : ∃ n ∈ cuttingOver.nodes.rows, n.state = .leased := by decide +kernel
  exact ⟨n, hn, hs, ((leases_correspond cuttingOver_reachable).1 n hn).mp hs⟩

/-- Success is final: in every later journal, a node that a worker completed has the same row, and
the receipt of its success, made in time under a committed lease. -/
theorem success_is_final (h : Reachable J) (hrun : J.LeadsTo J') {n : NodeRow}
    (hn : n ∈ J.nodes.rows) (hs : n.state = .succeeded)
    (hkind : n.nodeKind.isControllerManaged = false) :
    J'.node n.attemptId n.nodeId = some n ∧ ∃ r, J'.nodeReceipt n.attemptId n.nodeId = some r ∧
      r.receiptJson.1.outcome = .succeeded ∧ n.outputDigest = r.receiptJson.1.outputDigest ∧
      ∃ l ∈ J'.leases.rows, l.state = .committed ∧ r.MadeUnder l := by
  obtain ⟨hJ, -⟩ := h.invariant
  obtain ⟨A, hA, hrow⟩ := hJ.sound.view_of_node hn
  obtain ⟨A', hA', hsteps⟩ := (h.later hrun).2.evolves.kept _ A hA
  have hlaw := hJ.attempts _ A hA
  have hev := (hlaw.of_steps hsteps).evidenced
  replace hrow : A'.nodes n.nodeId = some n := by
    clear hA' hev
    induction hsteps with
    | refl => exact hrow
    | tail hsteps hstep ih => exact ((hlaw.of_steps hsteps).moves hstep).succeeded ih hs
  obtain ⟨r, hr, hout, hdigest, -⟩ := hev.output _ n hrow hs hkind
  obtain ⟨-, e, he, her⟩ := hev.receipt _ r hr
  rw [node_of_view hA', receipts_of_view hA']
  exact ⟨hrow, r, hr, hout, hdigest, e.row, mem_of_lookup (lease_of_view hA' he).1,
    (hev.committed _ e he).mpr (by rw [her]; rfl), (hev.madeUnder _ e r he her).1⟩

theorem Sample.cuttingOver_succeeds : ∃ n ∈ cuttingOver.nodes.rows,
    (cuttingOver.step (.expireLeases 0)).node n.attemptId n.nodeId = some n := by
  obtain ⟨n, hn, hs, hk⟩ : ∃ n ∈ cuttingOver.nodes.rows, n.state = .succeeded ∧
      n.nodeKind.isControllerManaged = false := by decide +kernel
  exact ⟨n, hn, (success_is_final cuttingOver_reachable (.step _ _) hn hs hk).1⟩

/-! ### Stopped attempts -/

/-- Attempt `a` is the same in both journals, but for its cleanup state, the time of its last
update and the cleanup receipts of its leases. -/
structure Journal.RestsAt (J J' : Journal sha256) (a : Uuid) : Prop where
  attempt : ∃ row row', J.attempt a = some row ∧ J'.attempt a = some row' ∧
    row' = { row with cleanupState := row'.cleanupState, updatedAtMs := row'.updatedAtMs } ∧
    J'.request row.requestId = J.request row.requestId
  nodes : J'.node a = J.node a
  dependencies : J'.dependenciesOf a = J.dependenciesOf a
  leases : ∀ l, l.attemptId = a → (l ∈ J'.leases.rows ↔ l ∈ J.leases.rows)
  receipts : J'.nodeReceipt a = J.nodeReceipt a
  reduction : J'.reduction a = J.reduction a
  binding : J'.binding a = J.binding a
  lock : J'.attemptLock a = J.attemptLock a

theorem mem_leases_iff (hA : J.view a = some A) (hl : l.attemptId = a) :
    l ∈ J.leases.rows ↔ ∃ e, A.core.leases l.leaseId = some e ∧ e.row = l := by
  subst hl
  constructor
  · intro hmem
    have hentry := entry_of_lease hA (lookup_of_mem leases_by_id hmem)
    exact ⟨_, map_eq_some_iff.mpr ⟨_, hentry, rfl⟩, rfl⟩
  · rintro ⟨e', he', rfl⟩
    obtain ⟨e, he, rfl⟩ := map_eq_some_iff.mp he'
    exact mem_of_lookup (lease_of_view hA he).1

theorem restsAt_of_core_eq (hA : J.view a = some A) (hA' : J'.view a = some A')
    (h : A'.core = A.core) : J.RestsAt J' a where
  attempt := by
    have hrow := congrArg row h
    have hrequest : A'.request = A.request := (congrArg Attempt.request h :)
    have hid : A'.row.requestId = A.row.requestId := (congrArg AttemptRow.requestId hrow :)
    refine ⟨A.row, A'.row, attempt_of_view hA, attempt_of_view hA', ?_, ?_⟩
    · simp only [core, AttemptRow.mk.injEq] at hrow
      obtain ⟨h₁, h₂, h₃, h₄, h₅, h₆, -, h₈, -, h₁₀⟩ := hrow
      rw [← h₁, ← h₂, ← h₃, ← h₄, ← h₅, ← h₆, ← h₈, ← h₁₀]
    · rw [← hid, request_of_view hA', hid, request_of_view hA, hrequest]
  nodes := by rw [node_of_view hA', node_of_view hA]; exact (congrArg Attempt.nodes h :)
  dependencies := by
    rw [dependenciesOf_of_view hA', dependenciesOf_of_view hA]
    exact (congrArg dependsOn h :)
  leases := fun l hl => by rw [mem_leases_iff hA' hl, mem_leases_iff hA hl, h]
  receipts := by rw [receipts_of_view hA', receipts_of_view hA]; exact (congrArg Attempt.receipts h :)
  reduction := by
    rw [reduction_of_view hA', reduction_of_view hA]
    exact (congrArg Attempt.reduction h :)
  binding := by rw [binding_of_view hA', binding_of_view hA]; exact (congrArg Attempt.binding h :)
  lock := by rw [attemptLock_of_view hA', attemptLock_of_view hA]; exact (congrArg lock h :)

/-- No call changes a stopped attempt, but for its cleanups. -/
theorem stopped_attempts_rest (h : Reachable J) (op : Operation) :
    ∀ row ∈ J.attempts.rows, row.state.isStopped = true → J.RestsAt (J.step op) row.attemptId := by
  intro row hrow hs
  obtain ⟨hJ, -⟩ := h.invariant
  obtain ⟨A, hA, rfl⟩ := hJ.sound.view_of_attempt (lookup_of_mem attempts_by_id hrow)
  obtain ⟨A', hA', hsteps⟩ := (h.later (.step J op)).2.evolves.kept _ A hA
  exact restsAt_of_core_eq hA hA' ((hJ.attempts _ A hA).core_of_steps hs hsteps)

namespace Sample

def laterSha : GitCommitId := ⟨"dddddddddddddddddddddddddddddddddddddddd", by decide +kernel⟩

/-- Two commits, the second of which supersedes the first. -/
def superseding : Journal digest := Journal.empty.script
  [fun _ => .admitWorkflow manifest (admission manifest sourceSha 1 "d") 0 uuid1 uuid2,
    fun _ => .admitWorkflow manifest (admission manifest laterSha 2 "e") 0 uuid3 uuid4]

theorem superseding_reachable : Reachable superseding := Reachable.script .init _

theorem superseding_rests : ∃ row ∈ superseding.attempts.rows, row.state = .superseded ∧
    superseding.RestsAt (superseding.step (.claimNext vps 10 1000 uuid5)) row.attemptId := by
  obtain ⟨row, hrow, hs⟩ : ∃ row ∈ superseding.attempts.rows, row.state = .superseded := by
    decide +kernel
  exact ⟨row, hrow, hs, stopped_attempts_rest superseding_reachable _ row hrow (by rw [hs]; rfl)⟩

end Sample

end Rdashboard
