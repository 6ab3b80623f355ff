import Rdashboard.Lifecycle.Leases

/-! # Evidence along the moves of an attempt

A lease document names its attempt and its node, a receipt is made under a committed lease, and
the success of a node rests on a receipt.  The moves that commit, grant and renew are treated
one by one; all others produce no evidence and lose none (`Attempt.Keeps`). -/

namespace Rdashboard

open Relational Function Option WorkflowNodeStateV1

variable {sha256 : Sha256}
variable {r : ReceiptRow sha256}

/-- The columns of a lease row agree with its document. -/
structure LeaseRow.Coherent (l : LeaseRow sha256) : Prop where
  leaseId : l.leaseId = l.leaseJson.1.leaseId
  attemptId : l.attemptId = l.leaseJson.1.attemptId
  nodeId : l.nodeId = l.leaseJson.1.nodeId
  generation : l.generation = l.leaseJson.1.leaseGeneration
  workerId : l.workerId = l.leaseJson.1.workerId
  hostId : l.hostId = l.leaseJson.1.hostId
  expectedInputDigest : l.expectedInputDigest = l.leaseJson.1.expectedInputDigest
  leaseDigest : l.leaseDigest = l.leaseJson.1.leaseDigest
  leasedAtMs : l.leasedAtMs = l.leaseJson.1.leasedAtMs
  expiresAtMs : l.expiresAtMs = l.leaseJson.1.expiresAtMs

/-- The columns of a lease row that closing it does not write. -/
def LeaseRow.fixed (l : LeaseRow sha256) : (Uuid × Uuid × WorkflowNodeId × Nat) ×
    (String × String × EvidenceDigest × EvidenceDigest) × ValidLease sha256 × Int × Int :=
  ((l.leaseId, l.attemptId, l.nodeId, l.generation),
    (l.workerId, l.hostId, l.expectedInputDigest, l.leaseDigest), l.leaseJson, l.leasedAtMs,
    l.expiresAtMs)

section Fixed

variable {l l' : LeaseRow sha256}

theorem LeaseRow.Coherent.of_fixed (h : l.Coherent) (hf : l'.fixed = l.fixed) : l'.Coherent := by
  simp only [fixed, Prod.mk.injEq] at hf
  obtain ⟨⟨h₁, h₂, h₃, h₄⟩, ⟨h₅, h₆, h₇, h₈⟩, h₉, h₁₀, h₁₁⟩ := hf
  constructor <;> simp only [h₁, h₂, h₃, h₄, h₅, h₆, h₇, h₈, h₉, h₁₀, h₁₁]
  exacts [h.leaseId, h.attemptId, h.nodeId, h.generation, h.workerId, h.hostId,
    h.expectedInputDigest, h.leaseDigest, h.leasedAtMs, h.expiresAtMs]

theorem ReceiptRow.MadeUnder.of_fixed (h : r.MadeUnder l)
    (hf : l'.fixed = l.fixed) : r.MadeUnder l' := by
  simp only [LeaseRow.fixed, Prod.mk.injEq] at hf
  obtain ⟨⟨h₁, h₂, h₃, -⟩, -, h₉, -⟩ := hf
  exact ⟨h.leaseId.trans h₁.symm, h.attemptId.trans h₂.symm, h.nodeId.trans h₃.symm, h.digest,
    h₉ ▸ h.document, h₉ ▸ h.started, h.recorded, h₉ ▸ h.inTime⟩

end Fixed

/-- No lease is granted on a node that the controller settles itself. -/
theorem ValidLease.worker_kind (lease : ValidLease sha256) :
    lease.1.nodeKind.isControllerManaged = false := by
  have h := lease.2
  simp only [WorkflowLeaseV1.validate, Check.ensure_ok_iff] at h
  exact h.2.2.2.2.2.2.2.2.2.2.1

theorem outcome_of_terminal {r : WorkflowNodeReceiptV1} {handoff : Bool}
    (h : receiptTerminalNodeState r handoff = .succeeded) : r.outcome = .succeeded := by
  unfold receiptTerminalNodeState at h
  split at h
  · assumption
  · split at h <;> cases h

namespace Attempt

variable {g : WorkflowNodeId → Prop} {A A' : Attempt sha256} {k : WorkflowNodeId} {n : NodeRow}
  {i : Uuid} {nowMs : Int} {state : WorkflowNodeStateV1} {e e' : LeaseEntry sha256}

/-- The row of the lease `i` of the attempt. -/
structure Holds (A : Attempt sha256) (i : Uuid) (l : LeaseRow sha256) : Prop where
  leaseId : l.leaseId = i
  coherent : l.Coherent
  names : A.Names l.leaseJson.1
  bounded : l.leaseJson.1.Bounded
  node : ∃ n, A.nodes l.nodeId = some n ∧ l.leaseJson.1.nodeKind = n.nodeKind
  gated : A.Gated l.nodeId

/-- Leases, receipts and the success of nodes belong together. -/
structure Evidenced (A : Attempt sha256) : Prop where
  lease : ∀ i e, A.leases i = some e → A.Holds i e.row
  committed : ∀ i e, A.leases i = some e → (e.row.state = .committed ↔ e.receipt.isSome = true)
  madeUnder : ∀ i e r, A.leases i = some e → e.receipt = some r →
    r.MadeUnder e.row ∧ A.receipts r.nodeId = some r
  receipt : ∀ k r, A.receipts k = some r → r.nodeId = k ∧
    ∃ e, A.leases r.leaseId = some e ∧ e.receipt = some r
  output : ∀ k n, A.nodes k = some n → n.state = .succeeded →
    n.nodeKind.isControllerManaged = false → ∃ r, A.receipts k = some r ∧
      r.receiptJson.1.outcome = .succeeded ∧ n.outputDigest = r.receiptJson.1.outputDigest ∧
      n.receiptDigest = some r.receiptJson.1.receiptDigest
  reduced : ∀ k n, A.nodes k = some n → n.nodeKind = .deterministicReduce →
    n.state = .succeeded → A.reduction.isSome = true
  reduction : ∀ r, A.reduction = some r → ∃ n, A.nodes r.reduceNodeId = some n ∧
    n.nodeKind = .deterministicReduce ∧ n.state = .succeeded

theorem Names.of_moves (hm : A.Moves g A')
    {lease : WorkflowLeaseV1} (h : A.Names lease) : A'.Names lease := by
  have hrow := hm.row
  have hreq := hm.request
  simp only [AttemptRow.fixed, RequestRow.fixed, Prod.mk.injEq] at hrow hreq
  obtain ⟨hid, -, -, hkey, hcreated⟩ := hrow
  obtain ⟨⟨hreqid, hproject, hpolicy, hsource⟩, -⟩ := hreq
  constructor <;> simp only [hid, hkey, hcreated, hreqid, hproject, hpolicy, hsource]
  exacts [h.attemptId, h.requestId, h.projectId, h.sourceSha, h.workflowPolicyDigest,
    h.preparationKey, h.created]

theorem Moves.nodeKind (hm : A.Moves g A') (hn : A.nodes k = some n) :
    ∃ n', A'.nodes k = some n' ∧ n'.nodeKind = n.nodeKind := by
  obtain ⟨n', hn'⟩ := hm.kept k n hn
  obtain ⟨m, hm', hmove⟩ := hm.node k n' hn'
  rw [hn] at hm'
  cases hm'
  exact ⟨n', hn', hmove.nodeKind_eq⟩

theorem Holds.of_moves (hm : A.Moves g A') {l l' : LeaseRow sha256} (h : A.Holds i l) (hf : l'.fixed = l.fixed) :
    A'.Holds i l' := by
  have hf' := hf
  simp only [LeaseRow.fixed, Prod.mk.injEq] at hf'
  obtain ⟨⟨h₁, -, h₃, -⟩, -, h₉, -⟩ := hf'
  obtain ⟨n, hn, hkind⟩ := h.node
  obtain ⟨n', hn', hkind'⟩ := hm.nodeKind hn
  constructor
  · rw [h₁]; exact h.leaseId
  · exact h.coherent.of_fixed hf
  · rw [h₉]; exact h.names.of_moves hm
  · rw [h₉]; exact h.bounded
  · exact ⟨n', h₃ ▸ hn', by rw [h₉, hkind, hkind']⟩
  · rw [h₃]; exact hm.gated h.gated

/-! ### Moves that produce no evidence -/

/-- How a lease entry may change when no receipt is committed. -/
structure LeaseEntry.Moves (e e' : LeaseEntry sha256) : Prop where
  fixed : e'.row.fixed = e.row.fixed
  receipt : e'.receipt = e.receipt
  state : e'.row.state = e.row.state ∨
    (e.row.state = .active ∧ e'.row.state ≠ .active ∧ e'.row.state ≠ .committed)

/-- No receipt is committed, no lease is granted and no node succeeds. -/
structure Keeps (A A' : Attempt sha256) : Prop where
  receipts : A'.receipts = A.receipts
  reduction : A'.reduction = A.reduction
  lease : ∀ i e', A'.leases i = some e' → ∃ e, A.leases i = some e ∧ LeaseEntry.Moves e e'
  kept : ∀ i e, A.leases i = some e → ∃ e', A'.leases i = some e'
  output : ∀ k n', A'.nodes k = some n' → n'.state = .succeeded → A.nodes k = some n'

namespace Keeps

variable {B C : Attempt sha256}

theorem of_eq (hreceipts : B.receipts = A.receipts) (hreduction : B.reduction = A.reduction)
    (hleases : B.leases = A.leases) (hnodes : B.nodes = A.nodes) : A.Keeps B where
  receipts := hreceipts
  reduction := hreduction
  lease := fun _ e h => ⟨e, hleases ▸ h, rfl, rfl, .inl rfl⟩
  kept := fun _ e h => ⟨e, hleases ▸ h⟩
  output := fun _ _ h _ => hnodes ▸ h

theorem refl : A.Keeps A := .of_eq rfl rfl rfl rfl

theorem trans (h₁ : A.Keeps B) (h₂ : B.Keeps C) : A.Keeps C where
  receipts := h₂.receipts.trans h₁.receipts
  reduction := h₂.reduction.trans h₁.reduction
  lease := by
    intro i e'' h
    obtain ⟨e', he', m₂⟩ := h₂.lease i e'' h
    obtain ⟨e, he, m₁⟩ := h₁.lease i e' he'
    refine ⟨e, he, m₂.fixed.trans m₁.fixed, m₂.receipt.trans m₁.receipt, ?_⟩
    rcases m₁.state with s₁ | ⟨s₁, closed⟩
    · rw [← s₁]; exact m₂.state
    · rcases m₂.state with s₂ | ⟨-, closed'⟩
      · exact .inr ⟨s₁, by rw [s₂]; exact closed⟩
      · exact .inr ⟨s₁, closed'⟩
  kept := by
    intro i e h
    obtain ⟨e', he'⟩ := h₁.kept i e h
    exact h₂.kept i e' he'
  output := fun k n h hs => h₁.output k n (h₂.output k n h hs) hs

theorem setLeases {p : LeaseRow sha256 → Bool} {f : LeaseRow sha256 → LeaseRow sha256}
    (h : A.Keeps B) (hp : ∀ l, p l = true → l.state = .active) (hf : ∀ l, (f l).fixed = l.fixed)
    (hs : ∀ l, (f l).state ≠ .active ∧ (f l).state ≠ .committed) : A.Keeps (B.setLeases p f) := by
  refine h.trans ⟨rfl, rfl, fun i e' he' => ?_, fun i e he => ?_, fun _ _ h _ => h⟩
  · obtain ⟨e, he, rfl⟩ := map_eq_some_iff.mp he'
    refine ⟨e, he, assign_column (fun l _ => hf l) e.row, rfl, ?_⟩
    by_cases hpe : p e.row = true
    · rw [assign_of_pos f hpe]; exact .inr ⟨hp _ hpe, hs e.row⟩
    · rw [assign_of_neg f hpe]; exact .inl rfl
  · exact ⟨{ e with row := assign p f e.row }, by simp [Attempt.setLeases, he]⟩

theorem setNodes {p : NodeRow → Bool} {f : NodeRow → NodeRow} (h : A.Keeps B)
    (hs : ∀ n, (f n).state ≠ .succeeded) : A.Keeps (B.setNodes p f) := by
  refine h.trans ⟨rfl, rfl, fun i e he => ⟨e, he, rfl, rfl, .inl rfl⟩, fun i e he => ⟨e, he⟩,
    fun k n' hn' hn's => ?_⟩
  obtain ⟨n, hn, rfl⟩ := map_eq_some_iff.mp hn'
  by_cases hp : p n = true
  · rw [assign_of_pos f hp] at hn's
    exact absurd hn's (hs n)
  · rw [assign_of_neg f hp]; exact hn

theorem closeLease {state : LeaseState}
    {digest : Option EvidenceDigest → Option EvidenceDigest} (h : A.Keeps B)
    (hs : state ≠ .active ∧ state ≠ .committed) :
    A.Keeps (B.closeLease i state nowMs digest) := by
  refine h.setLeases (fun l hp => ?_) (fun _ => rfl) fun _ => hs
  simp only [where_iff] at hp
  exact hp.2

theorem settleNode {complete : Option Int → Option Int} (h : A.Keeps B) (hs : state ≠ .succeeded) :
    A.Keeps (B.settleNode k state complete) := h.setNodes fun _ => hs

theorem revokeWork (h : A.Keeps B) : A.Keeps (B.revokeWork nowMs) := by
  refine setNodes (h.setLeases (fun l hp => ?_) (fun _ => rfl) fun _ => ?_) fun _ => ?_
  · simpa using hp
  · constructor <;> exact LeaseState.noConfusion
  · exact noConfusion

theorem keeps_giveBack : A.Keeps (A.giveBack i k nowMs) :=
  ((refl.closeLease (by decide)).settleNode (by decide)).trans (.of_eq rfl rfl rfl rfl)

theorem keeps_expireDeadline : A.Keeps (A.expireDeadline i k nowMs) :=
  ((refl.closeLease (by decide)).settleNode (by decide)).revokeWork.trans (.of_eq rfl rfl rfl rfl)

theorem keeps_expireMutation : A.Keeps (A.expireMutation i k nowMs) := by
  have hkeeps : A.Keeps ((A.closeLease i .expired nowMs id).settleNode k .needsReconcile
      fun _ => some nowMs) := (refl.closeLease (by decide)).settleNode (by decide)
  exact hkeeps.trans (.of_eq rfl rfl rfl rfl)

theorem keeps_expire : A.Keeps (A.expire e nowMs) := by
  unfold expire
  split
  · exact keeps_expireMutation
  · split
    · exact keeps_expireDeadline
    · exact keeps_giveBack

theorem active (h : A.Keeps B) (ha : B.ActiveLease i e') :
    ∃ e, A.ActiveLease i e ∧ e'.row.fixed = e.row.fixed := by
  obtain ⟨e, he, hm⟩ := h.lease i e' ha.1
  rcases hm.state with hs | ⟨-, hs, -⟩
  · exact ⟨e, ⟨he, hs ▸ ha.2⟩, hm.fixed⟩
  · exact absurd ha.2 hs

end Keeps

theorem Evidenced.leaseId (h : A.Evidenced) : ∀ i e, A.leases i = some e → e.row.leaseId = i :=
  fun i e he => (h.lease i e he).leaseId

theorem Evidenced.receipt_of_active (h : A.Evidenced) (ha : A.ActiveLease i e) :
    e.receipt = none := by
  rw [← not_isSome_iff_eq_none, ← h.committed i e ha.1, ha.2]
  exact LeaseState.noConfusion

theorem Evidenced.of_keeps (h : A.Evidenced)
    (hm : A.Moves g A') (hk : A.Keeps A') : A'.Evidenced where
  lease := by
    intro i e' he'
    obtain ⟨e, he, hmove⟩ := hk.lease i e' he'
    exact (h.lease i e he).of_moves hm hmove.fixed
  committed := by
    intro i e' he'
    obtain ⟨e, he, hmove⟩ := hk.lease i e' he'
    rw [hmove.receipt, ← h.committed i e he]
    rcases hmove.state with hs | ⟨hs, -, hs'⟩
    · rw [hs]
    · simp [hs, hs']
  madeUnder := by
    intro i e' r he' hr
    obtain ⟨e, he, hmove⟩ := hk.lease i e' he'
    rw [hmove.receipt] at hr
    obtain ⟨hmade, hreceipt⟩ := h.madeUnder i e r he hr
    exact ⟨hmade.of_fixed hmove.fixed, by rw [hk.receipts]; exact hreceipt⟩
  receipt := by
    intro k r hr
    rw [hk.receipts] at hr
    obtain ⟨hkey, e, he, her⟩ := h.receipt k r hr
    obtain ⟨e', he'⟩ := hk.kept _ e he
    obtain ⟨f, hf, hmove⟩ := hk.lease _ e' he'
    rw [he] at hf
    cases hf
    exact ⟨hkey, e', he', hmove.receipt.trans her⟩
  output := by
    intro k n' hn' hs hkind
    rw [hk.receipts]
    exact h.output k n' (hk.output k n' hn' hs) hs hkind
  reduced := by
    intro k n' hn' hkind hs
    rw [hk.reduction]
    exact h.reduced k n' (hk.output k n' hn' hs) hkind hs
  reduction := by
    intro r hr
    rw [hk.reduction] at hr
    obtain ⟨n, hn, hkind, hs⟩ := h.reduction r hr
    exact ⟨n, hm.succeeded hn hs, hkind, hs⟩

/-! ### Reading single rows back -/

section Single

variable {p : NodeRow → Bool} {f : NodeRow → NodeRow}

theorem nodes_setNodes_self (hn : A.nodes k = some n) (hp : p n = true) :
    (A.setNodes p f).nodes k = some (f n) := by
  simp [setNodes, hn, assign_of_pos f hp]

/-- A node after `UPDATE workflow_nodes` is a rewritten or an untouched one. -/
theorem nodes_setNodes_cases {n' : NodeRow} (h : (A.setNodes p f).nodes k = some n') :
    ∃ n, A.nodes k = some n ∧ ((p n = true ∧ n' = f n) ∨ n' = n) := by
  obtain ⟨n, hn, rfl⟩ := map_eq_some_iff.mp h
  refine ⟨n, hn, ?_⟩
  by_cases hp : p n = true
  · exact .inl ⟨hp, assign_of_pos f hp⟩
  · exact .inr (assign_of_neg f hp)

theorem leases_commit_of_ne
    (hlease : ∀ i e, A.leases i = some e → e.row.leaseId = i) (hi : i ≠ r.leaseId) :
    (A.commit r state).leases i = A.leases i := by
  change ((A.leases i).map _).map _ = _
  cases he : A.leases i with
  | none => rfl
  | some e =>
    rw [map_some, if_neg hi, map_some, assign_of_neg _ (by simp [hlease _ _ he, hi])]

theorem leases_commit (hlease : ∀ i e, A.leases i = some e → e.row.leaseId = i)
    (ha : A.ActiveLease r.leaseId e)
    (he' : (A.commit r state).leases i = some e') :
    (i = r.leaseId ∧ e'.row.fixed = e.row.fixed ∧ e'.row.state = .committed ∧
      e'.receipt = some r ∧ e'.cleanup = e.cleanup) ∨ (i ≠ r.leaseId ∧ A.leases i = some e') := by
  by_cases hi : i = r.leaseId
  · subst hi
    obtain ⟨e₁, he₁, rfl⟩ := map_eq_some_iff.mp he'
    obtain ⟨e₀, he₀, rfl⟩ := map_eq_some_iff.mp he₁
    cases he₀.symm.trans ha.1
    rw [if_pos rfl, assign_of_pos _ (by simp [hlease _ _ he₀, ha.2])]
    exact .inl ⟨rfl, rfl, rfl, rfl, rfl⟩
  · rw [leases_commit_of_ne hlease hi] at he'
    exact .inr ⟨hi, he'⟩

theorem leases_grant {lease : ValidLease sha256} {generation : Nat}
    (he : (A.grant lease generation nowMs).leases i = some e) :
    (i = lease.1.leaseId ∧ e = ⟨newLeaseRow lease, none, none⟩) ∨ A.leases i = some e := by
  by_cases hi : i = lease.1.leaseId
  · subst hi
    exact .inl ⟨rfl, some.inj (he.symm.trans (update_self ..))⟩
  · exact .inr ((update_of_ne hi ..).symm.trans he)

end Single

/-! ### Moves that produce evidence -/

section Producing

variable {renewed : ValidLease sha256}

theorem Evidenced.commit (h : A.Evidenced) (hkey : ∀ k n, A.nodes k = some n → n.nodeId = k) {handoff : Bool}
    (ha : A.ActiveLease r.leaseId e) (hmade : r.MadeUnder e.row) (hfresh : A.receipts r.nodeId = none)
    (hm : A.Moves g (A.commit r (receiptTerminalNodeState r.receiptJson.1 handoff))) :
    (A.commit r (receiptTerminalNodeState r.receiptJson.1 handoff)).Evidenced := by
  have hlease := h.leaseId
  have hreceipts : ∀ k, (A.commit r (receiptTerminalNodeState r.receiptJson.1 handoff)).receipts k =
      update A.receipts r.nodeId (some r) k := fun _ => rfl
  -- A lease other than the committed one has a receipt of another node.
  have hother : ∀ i f s, i ≠ r.leaseId → A.leases i = some f → f.receipt = some s →
      s.nodeId ≠ r.nodeId := by
    intro i f s _ hf hs hk
    have := (h.madeUnder i f s hf hs).2
    rw [hk, hfresh] at this
    cases this
  constructor
  · intro i e' he'
    rcases leases_commit hlease ha he' with ⟨rfl, hf, -⟩ | ⟨-, he⟩
    · exact (h.lease _ e ha.1).of_moves hm hf
    · exact (h.lease i e' he).of_moves hm rfl
  · intro i e' he'
    rcases leases_commit hlease ha he' with ⟨-, -, hs, hr, -⟩ | ⟨-, he⟩
    · simp [hs, hr]
    · exact h.committed i e' he
  · intro i e' s he' hs
    rw [hreceipts]
    rcases leases_commit hlease ha he' with ⟨-, hf, -, hr, -⟩ | ⟨hi, he⟩
    · rw [hr] at hs
      cases hs
      exact ⟨hmade.of_fixed hf, update_self ..⟩
    · obtain ⟨hmade', hrow⟩ := h.madeUnder i e' s he hs
      exact ⟨hmade', by rw [update_of_ne (hother i e' s hi he hs)]; exact hrow⟩
  · intro k s hs
    rw [hreceipts] at hs
    by_cases hk : k = r.nodeId
    · subst hk
      rw [update_self] at hs
      cases hs
      refine ⟨rfl, _, by simp [Attempt.commit, setRow, setNodes, closeLease,
        setLeases, addReceipt, ha.1]; rfl, rfl⟩
    · rw [update_of_ne hk] at hs
      obtain ⟨hid, f, hf, hfr⟩ := h.receipt k s hs
      have hne : s.leaseId ≠ r.leaseId := by
        intro heq
        rw [heq, ha.1] at hf
        cases hf
        cases hfr.symm.trans (h.receipt_of_active ha)
      refine ⟨hid, f, ?_, hfr⟩
      simp [Attempt.commit, setRow, setNodes, closeLease,
        setLeases, addReceipt, hf, hne, assign, hlease _ _ hf]
  · intro k n' hn' hs hkind
    rw [hreceipts]
    obtain ⟨n, hn, ⟨hp, rfl⟩ | rfl⟩ := nodes_setNodes_cases hn'
    · simp only [where_iff] at hp
      obtain rfl : k = r.nodeId := (hkey k n hn).symm.trans hp.1
      exact ⟨r, update_self .., outcome_of_terminal hs, rfl, rfl⟩
    · obtain ⟨s, hrow, hrest⟩ := h.output k n' hn hs hkind
      have hk : k ≠ r.nodeId := by
        rintro rfl
        rw [hfresh] at hrow
        cases hrow
      exact ⟨s, by rw [update_of_ne hk]; exact hrow, hrest⟩
  · intro k n' hn' hkind hs
    obtain ⟨n, hn, ⟨hp, rfl⟩ | rfl⟩ := nodes_setNodes_cases hn'
    · simp only [where_iff] at hp
      obtain ⟨m, hm', hk⟩ := (h.lease _ e ha.1).node
      rw [← hmade.nodeId, ← hp.1, hkey k n hn] at hm'
      obtain rfl : m = n := some.inj (hm'.symm.trans hn)
      have := e.row.leaseJson.worker_kind
      rw [hk, show m.nodeKind = _ from hkind] at this
      cases this
    · exact h.reduced k n' hn hkind hs
  · intro s hs
    obtain ⟨n, hn, hkind, hns⟩ := h.reduction s hs
    exact ⟨n, hm.succeeded hn hns, hkind, hns⟩

theorem Evidenced.grant (h : A.Evidenced) {lease : ValidLease sha256}
    (hfresh : A.leases lease.1.leaseId = none) (hn : A.nodes lease.1.nodeId = some n)
    (hoffers : A.Offers n lease.1) (hgated : A.Gated lease.1.nodeId)
    (hm : A.Moves g (A.grant lease n.leaseGeneration nowMs)) :
    (A.grant lease n.leaseGeneration nowMs).Evidenced := by
  have hnodes : ∀ k n', (A.grant lease n.leaseGeneration nowMs).nodes k = some n' →
      n'.state = .succeeded → A.nodes k = some n' := by
    intro k n' hn' hs
    obtain ⟨m, hm', ⟨-, rfl⟩ | rfl⟩ := nodes_setNodes_cases hn'
    · cases hs
    · exact hm'
  constructor
  · intro i e he
    rcases leases_grant he with ⟨rfl, rfl⟩ | he
    · obtain ⟨n', hn', hkind⟩ := hm.nodeKind hn
      exact ⟨rfl, ⟨rfl, rfl, rfl, rfl, rfl, rfl, rfl, rfl, rfl, rfl⟩, hoffers.names.of_moves hm,
        hoffers.bounded, ⟨n', hn', by rw [hkind]; exact hoffers.nodeKind⟩, hm.gated hgated⟩
    · exact (h.lease i e he).of_moves hm rfl
  · intro i e he
    rcases leases_grant he with ⟨-, rfl⟩ | he
    · simp [newLeaseRow]
    · exact h.committed i e he
  · intro i e r he hr
    rcases leases_grant he with ⟨-, rfl⟩ | he
    · cases hr
    · exact h.madeUnder i e r he hr
  · intro k r hr
    obtain ⟨hk, e, he, her⟩ := h.receipt k r hr
    have hne : r.leaseId ≠ lease.1.leaseId := by
      intro heq
      rw [heq, hfresh] at he
      cases he
    exact ⟨hk, e, (update_of_ne hne ..).trans he, her⟩
  · exact fun k n' hn' hs hkind => h.output k n' (hnodes k n' hn' hs) hs hkind
  · exact fun k n' hn' hkind hs => h.reduced k n' (hnodes k n' hn' hs) hkind hs
  · intro s hs
    obtain ⟨m, hm', hkind, hns⟩ := h.reduction s hs
    exact ⟨m, hm.succeeded hm' hns, hkind, hns⟩

theorem leases_renew (h : A.Evidenced) (ha : A.ActiveLease i e)
    (hbody : renewed.1.toWorkflowLeaseBodyV1 =
      { e.row.leaseJson.1.toWorkflowLeaseBodyV1 with expiresAtMs := renewed.1.expiresAtMs })
    {j : Uuid}
    (he' : (A.renew e.row.leaseJson.1.leaseDigest renewed).leases j = some e') :
    (j = i ∧ e' = { e with row := { e.row with
      leaseDigest := renewed.1.leaseDigest, leaseJson := renewed
      expiresAtMs := renewed.1.expiresAtMs } }) ∨ (j ≠ i ∧ A.leases j = some e') := by
  have hid : renewed.1.leaseId = i := by
    rw [congrArg WorkflowLeaseBodyV1.leaseId hbody]
    exact (h.lease i e ha.1).coherent.leaseId.symm.trans (h.lease i e ha.1).leaseId
  obtain ⟨f, hf, rfl⟩ := map_eq_some_iff.mp he'
  have hfid := (h.lease j f hf).leaseId
  by_cases hj : j = i
  · subst hj
    obtain rfl : f = e := some.inj (hf.symm.trans ha.1)
    rw [assign_of_pos _ (by simp [hid, hfid, ha.2, (h.lease _ f hf).coherent.leaseDigest])]
    exact .inl ⟨rfl, rfl⟩
  · rw [assign_of_neg _ (by simp [hid, hfid, hj])]
    exact .inr ⟨hj, hf⟩

theorem Evidenced.renew (h : A.Evidenced) (ha : A.ActiveLease i e)
    (hbody : renewed.1.toWorkflowLeaseBodyV1 =
      { e.row.leaseJson.1.toWorkflowLeaseBodyV1 with expiresAtMs := renewed.1.expiresAtMs })
    (hbounded : renewed.1.Bounded) :
    (A.renew e.row.leaseJson.1.leaseDigest renewed).Evidenced := by
  have hold := h.lease i e ha.1
  have hm : A.Moves (fun _ => True) (A.renew e.row.leaseJson.1.leaseDigest renewed) :=
    .of_nodes_eq rfl rfl rfl rfl rfl
  constructor
  · intro j e' he'
    rcases leases_renew h ha hbody he' with ⟨rfl, rfl⟩ | ⟨-, he⟩
    · obtain ⟨⟨body, digest⟩, hvalid⟩ := renewed
      obtain ⟨expiry, rfl⟩ : ∃ expiresAtMs, body =
        { e.row.leaseJson.1.toWorkflowLeaseBodyV1 with expiresAtMs } := ⟨_, hbody⟩
      have hc := hold.coherent
      have hn := hold.names
      exact ⟨hold.leaseId, ⟨hc.leaseId, hc.attemptId, hc.nodeId, hc.generation, hc.workerId,
        hc.hostId, hc.expectedInputDigest, rfl, hc.leasedAtMs, rfl⟩, ⟨hn.attemptId, hn.requestId,
        hn.projectId, hn.sourceSha, hn.workflowPolicyDigest, hn.preparationKey, hn.created⟩,
        hbounded, hold.node, hold.gated⟩
    · exact (h.lease j e' he).of_moves hm rfl
  · intro j e' he'
    rcases leases_renew h ha hbody he' with ⟨rfl, rfl⟩ | ⟨-, he⟩
    · exact h.committed _ e ha.1
    · exact h.committed j e' he
  · intro j e' r he' hr
    rcases leases_renew h ha hbody he' with ⟨rfl, rfl⟩ | ⟨-, he⟩
    · cases (h.receipt_of_active ha).symm.trans hr
    · exact h.madeUnder j e' r he hr
  · intro k r hr
    obtain ⟨hk, f, hf, hfr⟩ := h.receipt k r hr
    exact ⟨hk, _, map_eq_some_iff.mpr ⟨f, hf, rfl⟩, hfr⟩
  · exact h.output
  · exact h.reduced
  · exact h.reduction

theorem Evidenced.reduce (h : A.Evidenced) (hkey : ∀ k n, A.nodes k = some n → n.nodeId = k)
    {r : ReductionRow sha256} (hn : A.nodes r.reduceNodeId = some n)
    (hkind : n.nodeKind = .deterministicReduce) (hready : n.state = .ready)
    (hm : A.Moves g (A.reduce r)) : (A.reduce r).Evidenced := by
  constructor
  · exact fun i e he => (h.lease i e he).of_moves hm rfl
  · exact h.committed
  · exact h.madeUnder
  · exact h.receipt
  · intro k n' hn' hs hk
    obtain ⟨m, hm', ⟨hp, rfl⟩ | rfl⟩ := nodes_setNodes_cases hn'
    · simp only [where_iff] at hp
      obtain rfl : k = r.reduceNodeId := (hkey k m hm').symm.trans hp.1
      obtain rfl : m = n := some.inj (hm'.symm.trans hn)
      rw [show m.nodeKind = _ from hkind] at hk
      cases hk
    · exact h.output k n' hm' hs hk
  · exact fun _ _ _ _ _ => rfl
  · intro s hs
    cases hs
    exact ⟨_, nodes_setNodes_self hn (by simp [hkey _ n hn, hready]), hkind, rfl⟩

end Producing

theorem Step.evidenced {D : Discipline} (hstep : Step D A A')
    (hkey : ∀ k n, A.nodes k = some n → n.nodeId = k)
    (hpaced : A.Paced) (hm : A.Moves A.Gated A') (h : A.Evidenced) : A'.Evidenced := by
  cases hstep with
  | giveBack nowMs active => exact h.of_keeps hm .keeps_giveBack
  | expireDeadline nowMs active notStarted => exact h.of_keeps hm .keeps_expireDeadline
  | expireMutation nowMs active node exclusive owned alone =>
    exact h.of_keeps hm .keeps_expireMutation
  | commit r handoff active madeUnder fresh => exact h.commit hkey active madeUnder fresh hm
  | failTerminal cleanup nowMs =>
    exact h.of_keeps hm (Keeps.refl.revokeWork.trans (.of_eq rfl rfl rfl rfl))
  | advance k running gated =>
    exact h.of_keeps hm (Keeps.refl.setNodes fun _ => noConfusion)
  | complete nowMs =>
    exact h.of_keeps hm ((Keeps.refl.setNodes fun _ => noConfusion).trans
      (.of_eq rfl rfl rfl rfl))
  | reduce r node kind ready => exact h.reduce hkey node kind ready hm
  | @grant n lease nowMs grants =>
    exact h.grant grants.fresh grants.node grants.offers
      (hpaced.gated _ n grants.node (.inl grants.ready)) hm
  | renew renewed active body bounded => exact h.renew active body bounded
  | settleCleanup c cleanup nowMs lease settled =>
    refine h.of_keeps hm ⟨rfl, rfl, fun i e' he' => ?_, fun i e he => ?_, fun _ _ hn _ => hn⟩
    · obtain ⟨e, he, rfl⟩ := map_eq_some_iff.mp he'
      refine ⟨e, he, ?_⟩
      split <;> exact ⟨rfl, rfl, .inl rfl⟩
    · exact ⟨_, map_eq_some_iff.mpr ⟨e, he, rfl⟩⟩
  | wake nowMs waiting =>
    exact h.of_keeps hm (Keeps.setNodes (.of_eq rfl rfl rfl rfl)
      fun _ => noConfusion)
  | supersede newRequestId cleanup nowMs =>
    exact h.of_keeps hm (Keeps.refl.revokeWork.trans (.of_eq rfl rfl rfl rfl))
  | _ => exact h.of_keeps hm (.of_eq rfl rfl rfl rfl)

theorem Born.evidenced (h : A.Born) : A.Evidenced := by
  have hnone : ∀ {α : Sort _} i e, A.leases i = some e → α := by
    intro α i e he
    rw [h.leases] at he
    cases he
  have hsource : ∀ k n, A.nodes k = some n → n.state = .succeeded → n.nodeKind = .sourceAdmission := by
    intro k n hn hs
    obtain ⟨waiting, hw⟩ := (h.nodes k n hn).2
    rw [hs] at hw
    revert hw
    cases A.request.operationKind <;> cases waiting <;> cases n.nodeKind <;>
      simp [initialNodeState, shadowExecutes]
  constructor
  · exact fun i e he => hnone i e he
  · exact fun i e he => hnone i e he
  · exact fun i e r he => hnone i e he
  · intro k r hr
    rw [h.receipts] at hr
    cases hr
  · intro k n hn hs hkind
    rw [hsource k n hn hs] at hkind
    cases hkind
  · intro k n hn hkind hs
    rw [hsource k n hn hs] at hkind
    cases hkind
  · intro r hr
    rw [h.reduction] at hr
    cases hr

end Attempt

end Rdashboard
