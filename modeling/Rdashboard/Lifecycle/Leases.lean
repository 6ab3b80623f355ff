import Rdashboard.Lifecycle.Nodes
import Rdashboard.Library.Fencing

/-! # Leases along the moves of an attempt

A node is a slot fenced by its lease generation, and a lease is a claim on it.  Every move of
an attempt keeps the correspondence of held nodes and active leases, and the agreement of
lease documents with the columns of their rows and with the attempt. -/

namespace Rdashboard

open Relational Fencing Option

variable {sha256 : Sha256}

/-- A node as a slot: is it leased, and its lease generation. -/
def NodeRow.slot (n : NodeRow) : Bool × Nat := (n.state = .leased, n.leaseGeneration)

/-- A lease as a claim: its node, its generation, and is it active. -/
def LeaseRow.claim (l : LeaseRow sha256) : WorkflowNodeId × Nat × Bool :=
  (l.nodeId, l.generation, l.state = .active)

namespace Attempt

variable {i : Uuid} {e : LeaseEntry sha256} {k : WorkflowNodeId}

section Slots

variable (A : Attempt sha256)

def slot (k : WorkflowNodeId) : Option (Bool × Nat) := (A.nodes k).map NodeRow.slot

def claim (i : Uuid) : Option (WorkflowNodeId × Nat × Bool) := (A.leases i).map (·.row.claim)

/-- The nodes and leases of the attempt correspond. -/
def IsFenced : Prop := Fenced A.slot A.claim

variable {A}

theorem slot_setNodes {p : NodeRow → Bool} {f : NodeRow → NodeRow}
    (h : ∀ n, p n = true → (f n).slot = n.slot) : (A.setNodes p f).slot = A.slot := by
  funext k
  simp only [slot, setNodes, map_map]
  congr 1
  exact funext (assign_column h)

theorem claim_setLeases {p : LeaseRow sha256 → Bool} {f : LeaseRow sha256 → LeaseRow sha256}
    (h : ∀ l, p l = true → (f l).claim = l.claim) : (A.setLeases p f).claim = A.claim := by
  funext i
  simp only [claim, setLeases, map_map]
  congr 1
  exact funext fun e => assign_column h e.row

theorem claim_addReceipt {r : ReceiptRow sha256} : (A.addReceipt r).claim = A.claim := by
  funext i
  simp only [claim, addReceipt, map_map]
  congr 1
  funext e
  split <;> rfl

theorem ActiveLease.claim_eq (h : A.ActiveLease i e) :
    A.claim i = some (e.row.nodeId, e.row.generation, true) := by
  simp [claim, h.1, LeaseRow.claim, h.2]

theorem activeLease_of_claim {g : Nat} (h : A.claim i = some (k, g, true)) :
    ∃ e, A.ActiveLease i e ∧ e.row.nodeId = k ∧ e.row.generation = g := by
  obtain ⟨e, he, hc⟩ := map_eq_some_iff.mp h
  simp only [LeaseRow.claim, Prod.mk.injEq, decide_eq_true_eq] at hc
  exact ⟨e, ⟨he, hc.2.2⟩, hc.1, hc.2.1⟩

theorem IsFenced.node_of_active (h : A.IsFenced)
    (ha : A.ActiveLease i e) : ∃ n, A.nodes e.row.nodeId = some n ∧ n.state = .leased ∧
      n.leaseGeneration = e.row.generation := by
  have hs := h.open_held _ _ _ ha.claim_eq
  obtain ⟨n, hn, he⟩ := map_eq_some_iff.mp hs
  simp only [NodeRow.slot, Prod.mk.injEq, decide_eq_true_eq] at he
  exact ⟨n, hn, he⟩

theorem IsFenced.active_of_node (h : A.IsFenced) {n : NodeRow}
    (hn : A.nodes k = some n) (hs : n.state = .leased) :
    ∃ i e, A.ActiveLease i e ∧ e.row.nodeId = k ∧ e.row.generation = n.leaseGeneration := by
  obtain ⟨i, hi⟩ := h.held_open k n.leaseGeneration (by simp [slot, hn, NodeRow.slot, hs])
  obtain ⟨e, he⟩ := activeLease_of_claim hi
  exact ⟨i, e, he⟩

theorem IsFenced.active_unique (h : A.IsFenced) {j : Uuid} {f : LeaseEntry sha256}
    (he : A.ActiveLease i e) (hf : A.ActiveLease j f) (hk : e.row.nodeId = f.row.nodeId) :
    i = j := by
  have hc := hf.claim_eq
  rw [← hk] at hc
  exact h.unique_open he.claim_eq hc

end Slots

/-! ### Closing leases -/

section Closing

variable {A B : Attempt sha256}
variable {F : NodeRow → NodeRow} {G : Uuid → LeaseEntry sha256 → LeaseEntry sha256}

theorem IsFenced.congr (h : A.IsFenced) (hnodes : B.slot = A.slot) (hleases : B.claim = A.claim) :
    B.IsFenced := by
  unfold IsFenced
  rw [hnodes, hleases]
  exact h

/-- Closing the active leases of the nodes in `p`, and releasing these nodes, keeps the
correspondence. -/
theorem IsFenced.close (p : WorkflowNodeId → Prop) [DecidablePred p] (h : A.IsFenced)
    (hnodes : ∀ k, B.nodes k = (A.nodes k).map F) (hleases : ∀ i, B.leases i = (A.leases i).map (G i))
    (hF : ∀ k n, A.nodes k = some n →
      (F n).slot = if p k then (false, n.leaseGeneration) else n.slot)
    (hG : ∀ i e, A.leases i = some e → (G i e).row.claim =
      if p e.row.nodeId then (e.row.nodeId, e.row.generation, false) else e.row.claim) :
    B.IsFenced := by
  refine Fenced.closeWhere p h (fun k => ?_) (fun i => ?_)
  · cases hk : A.nodes k with
    | none => simp [slot, hk, hnodes]
    | some n =>
      simp only [slot, hk, hnodes, map_some, hF k n hk]
      rfl
  · cases hi : A.leases i with
    | none => simp [claim, hi, hleases]
    | some e =>
      simp only [claim, hi, hleases, map_some, hG i e hi]
      rfl

theorem IsFenced.closeOne (h : A.IsFenced) (hkey : ∀ k n, A.nodes k = some n → n.nodeId = k)
    (hlease : ∀ i e, A.leases i = some e → e.row.leaseId = i)
    (ha : A.ActiveLease i e) (hk : k = e.row.nodeId) (state : LeaseState) (nowMs : Int)
    (digest : Option EvidenceDigest → Option EvidenceDigest) (hstate : state ≠ .active)
    (hnodes : ∀ j, B.nodes j = (A.nodes j).map
      (assign (fun n => n.nodeId = k && n.state = .leased) F))
    (hleases : ∀ j, B.leases j = (A.leases j).map (G j))
    (hF : ∀ n, (F n).slot = (false, n.leaseGeneration))
    (hG : ∀ j f, (G j f).row = assign (fun l => l.leaseId = i && l.state = .active)
      (fun l => { l with
        state, closedAtMs := some nowMs, receiptDigest := digest l.receiptDigest }) f.row) :
    B.IsFenced := by
  subst hk
  obtain ⟨n₀, hn₀, hleased, -⟩ := h.node_of_active ha
  refine h.close (· = e.row.nodeId) hnodes hleases (fun k n hn => ?_) (fun j f hf => ?_)
  · by_cases hk : k = e.row.nodeId
    · subst hk
      rw [hn₀] at hn
      cases hn
      rw [assign_of_pos _ (by simp [hkey _ _ hn₀, hleased]), hF, if_pos rfl]
    · rw [assign_of_neg _ (by simp [hkey k n hn, hk]), if_neg hk]
  · rw [hG]
    by_cases hj : j = i
    · subst hj
      have hfe : f = e := some.inj (hf.symm.trans ha.1)
      subst hfe
      rw [assign_of_pos _ (by simp [hlease _ _ hf, ha.2])]
      simp [LeaseRow.claim, hstate]
    · rw [assign_of_neg _ (by simp [hlease j f hf, hj])]
      by_cases hk : f.row.nodeId = e.row.nodeId
      · have hclosed : f.row.state ≠ .active := fun hs => hj (h.active_unique ⟨hf, hs⟩ ha hk)
        simp [LeaseRow.claim, hclosed]
      · rw [if_neg hk]

theorem IsFenced.revokeWork (h : A.IsFenced) (nowMs : Int) : (A.revokeWork nowMs).IsFenced := by
  refine h.close (fun _ => True) (fun _ => rfl) (fun _ => rfl) (fun k n _ => ?_) (fun i e _ => ?_)
  · simp only [if_true]
    unfold assign
    split
    · rfl
    · rename_i hp
      have hs : n.state ≠ .leased := fun hs => hp (by simp [hs])
      simp [NodeRow.slot, hs]
  · simp only [if_true]
    by_cases hs : e.row.state = .active
    · rw [assign_of_pos _ (by simp [hs])]
      simp [LeaseRow.claim]
    · rw [assign_of_neg _ (by simp [hs])]
      simp [LeaseRow.claim, hs]

theorem IsFenced.grant (h : A.IsFenced) (hkey : ∀ k n, A.nodes k = some n → n.nodeId = k)
    {lease : ValidLease sha256} {n : NodeRow} {nowMs : Int}
    (hfresh : A.leases lease.1.leaseId = none) (hn : A.nodes lease.1.nodeId = some n)
    (hready : n.state = .ready) (hgen : lease.1.leaseGeneration = n.leaseGeneration + 1) :
    (A.grant lease n.leaseGeneration nowMs).IsFenced := by
  refine Fenced.grant h (k := lease.1.nodeId) (i := lease.1.leaseId) (t := n.leaseGeneration)
    (by simp [slot, hn, NodeRow.slot, hready]) (by simp [claim, hfresh]) ?_ ?_
  · funext k
    by_cases hk : k = lease.1.nodeId
    · subst hk
      simp only [slot, Attempt.grant, setRow, setNodes, addLease, hn, map_some]
      rw [assign_of_pos _ (by simp [hkey _ _ hn, hready])]
      simp [NodeRow.slot, hgen]
    · rw [Function.update_of_ne hk]
      simp only [slot, Attempt.grant, setRow, setNodes, addLease]
      cases hk' : A.nodes k with
      | none => rfl
      | some m =>
        rw [map_some, assign_of_neg _ (by simp [hkey k m hk', hk])]
  · funext i
    by_cases hi : i = lease.1.leaseId
    · subst hi
      simp [claim, Attempt.grant, setRow, setNodes, addLease, newLeaseRow, LeaseRow.claim, hgen]
    · simp [claim, Attempt.grant, setRow, setNodes, addLease, newLeaseRow,
        hi]

end Closing

/-- Every move keeps the correspondence of leased nodes and active leases. -/
theorem Step.fenced {D : Discipline} {A A' : Attempt sha256} (hstep : Step D A A')
    (hkey : ∀ k n, A.nodes k = some n → n.nodeId = k)
    (hlease : ∀ i e, A.leases i = some e → e.row.leaseId = i) (h : A.IsFenced) : A'.IsFenced := by
  cases hstep with
  | giveBack nowMs active =>
    exact h.closeOne hkey hlease active rfl .expired nowMs id (by decide) (fun _ => rfl)
      (fun _ => rfl) (fun _ => rfl) (fun _ _ => rfl)
  | expireDeadline nowMs active notStarted =>
    refine (IsFenced.revokeWork ?_ nowMs).congr rfl rfl
    exact h.closeOne hkey hlease active rfl .expired nowMs id (by decide) (fun _ => rfl)
      (fun _ => rfl) (fun _ => rfl) (fun _ _ => rfl)
  | expireMutation nowMs active node exclusive owned alone =>
    exact h.closeOne hkey hlease active rfl .expired nowMs id (by decide) (fun _ => rfl)
      (fun _ => rfl) (fun _ => rfl) (fun _ _ => rfl)
  | @commit e r handoff active madeUnder fresh =>
    have hadd : (A.addReceipt r).IsFenced := h.congr rfl claim_addReceipt
    have hactive : (A.addReceipt r).ActiveLease r.leaseId { e with receipt := some r } :=
      ⟨by simp [addReceipt, active.1], active.2⟩
    refine hadd.closeOne hkey (fun i f hf => ?_) hactive madeUnder.nodeId .committed
      r.committedAtMs (fun _ => some r.receiptJson.1.receiptDigest) (by decide)
      (fun _ => rfl) (fun _ => rfl) (fun n => ?_) (fun _ _ => rfl)
    · obtain ⟨f', hf', rfl⟩ := map_eq_some_iff.mp hf
      split <;> exact hlease i f' hf'
    · have hne : receiptTerminalNodeState r.receiptJson.1 handoff ≠ .leased := by
        unfold receiptTerminalNodeState
        split
        · decide
        · split <;> decide
      simp [NodeRow.slot, hne]
  | failTerminal cleanup nowMs => exact (h.revokeWork nowMs).congr rfl rfl
  | advance k running gated =>
    refine h.congr (slot_setNodes fun n hp => ?_) rfl
    simp only [where_iff] at hp
    simp [NodeRow.slot, hp.2]
  | complete nowMs running held state done settled =>
    refine h.congr (slot_setNodes fun n hp => ?_) rfl
    simp only [where_iff] at hp
    simp [NodeRow.slot, hp.2]
  | reduce r node kind ready =>
    refine h.congr (slot_setNodes fun n hp => ?_) rfl
    simp only [where_iff] at hp
    simp [NodeRow.slot, hp.2]
  | grant lease nowMs grants =>
    exact h.grant hkey grants.fresh grants.node grants.ready grants.offers.leaseGeneration
  | renew renewed => exact h.congr rfl (claim_setLeases fun _ _ => rfl)
  | settleCleanup c cleanup nowMs lease settled =>
    refine h.congr rfl (funext fun i => ?_)
    simp only [claim, Attempt.settleCleanup, setRow, addCleanup, map_map]
    congr 1
    funext e
    split <;> rfl
  | wake nowMs waiting =>
    refine h.congr (slot_setNodes fun n hp => ?_) rfl
    simp only [where_iff] at hp
    simp [NodeRow.slot, hp.2]
  | supersede newRequestId cleanup nowMs => exact (h.revokeWork nowMs).congr rfl rfl
  | _ => exact h.congr rfl rfl

end Attempt

end Rdashboard
