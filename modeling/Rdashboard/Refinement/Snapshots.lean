import Rdashboard.Refinement.Outcomes

/-! # Reading attempts back

`loadAttemptSnapshot` succeeds exactly when the rows of the attempt record its manifest, node by
node.  A new attempt is read back once it is written, so what it records is known from then on;
and since no move changes it, every later read succeeds. -/

namespace Rdashboard

open Relational Journal Txn Option

variable {sha256 : Sha256} {J J' : Journal sha256} {a : Uuid} {A : Attempt sha256}

/-- The node row with this index records the node of the manifest. -/
structure Attempt.Records (A : Attempt sha256) (index : Nat) (m : WorkflowNodeV1) (row : NodeRow) :
    Prop where
  ordinal : row.ordinal = index
  nodeId : row.nodeId = m.nodeId
  nodeKind : row.nodeKind = m.kind
  activation : row.activation = m.activation
  profileId : row.profileId = m.profileId
  profile : ∃ q, A.policy.profile m.profileId = some q ∧ row.workerPool = q.workerPool
  dependsOn : A.dependsOn m.nodeId = m.dependsOn

theorem loadNodeSnapshot_ok_iff {index : Nat} {m : WorkflowNodeV1} {row : NodeRow}
    (hA : J.view a = some A) :
    (∃ snapshot, loadNodeSnapshot (.ofRows A.row A.request) index m row J = .ok (snapshot, J')) ↔
      J = J' ∧ A.Records index m row := by
  simp only [loadNodeSnapshot, ok_iff, validatePersistedDependencies, AttemptContext.ofRows,
  attemptId_of_view hA]
  constructor
  · rintro ⟨_, q, hq, _, hbind, _, J₃, ⟨_, rfl, hdeps, rfl⟩, _, -, _, -, -, rfl⟩
    obtain ⟨hordinal, hid, hkind, hact, hprofile, hpool⟩ := hbind
    exact ⟨rfl, hordinal, hid, hkind, hact, hprofile, ⟨q, hq, hpool⟩,
      by rw [← dependenciesOf_of_view hA]; exact hdeps⟩
  · rintro ⟨rfl, h⟩
    obtain ⟨q, hq, hpool⟩ := h.profile
    exact ⟨_, q, hq, (), ⟨h.ordinal, h.nodeId, h.nodeKind, h.activation, h.profileId, hpool⟩, (), J,
      ⟨_, rfl, by rw [dependenciesOf_of_view hA]; exact h.dependsOn, rfl⟩, _, rfl, _, rfl, rfl, rfl⟩

theorem loadNodeSnapshots_ok_iff {index : Nat} {ordered : List WorkflowNodeV1} {rows : List NodeRow}
    (hA : J.view a = some A) :
    (∃ snapshots, loadNodeSnapshots (.ofRows A.row A.request) index ordered rows J =
      .ok (snapshots, J')) ↔ J = J' ∧ ∀ i m row, ordered[i]? = some m → rows[i]? = some row →
        A.Records (index + i) m row := by
  induction ordered generalizing index rows with
  | nil => simp [loadNodeSnapshots, pure_ok_iff]
  | cons m ordered ih =>
    cases rows with
    | nil => simp [loadNodeSnapshots, pure_ok_iff]
    | cons row rows =>
      simp only [loadNodeSnapshots, ok_iff]
      constructor
      · rintro ⟨_, s, J₁, hs, rest, J₂, hrest, -, rfl⟩
        obtain ⟨rfl, hrow⟩ := (loadNodeSnapshot_ok_iff hA).mp ⟨s, hs⟩
        obtain ⟨rfl, hrows⟩ := ih.mp ⟨rest, hrest⟩
        refine ⟨rfl, fun i m' row' hm hr => ?_⟩
        cases i with
        | zero => cases hm; cases hr; exact hrow
        | succ i => rw [show index + (i + 1) = index + 1 + i by omega]; exact hrows i m' row' hm hr
      · rintro ⟨rfl, h⟩
        have hrows : ∀ i m' row', ordered[i]? = some m' → rows[i]? = some row' →
            A.Records (index + 1 + i) m' row' := by
          intro i m' row' hm hr
          rw [show index + 1 + i = index + (i + 1) by omega]
          exact h (i + 1) m' row' hm hr
        obtain ⟨s, hs⟩ := (loadNodeSnapshot_ok_iff hA).mpr ⟨refl J, h 0 m row rfl rfl⟩
        obtain ⟨rest, hrest⟩ := ih.mpr ⟨refl J, hrows⟩
        exact ⟨_, s, J, hs, rest, J, hrest, rfl, rfl⟩

/-- The rows of the attempt record its manifest. -/
def Attempt.Recorded (A : Attempt sha256) (rows : List NodeRow) : Prop :=
  ∃ ordered, A.policy.orderedNodes = .ok ordered ∧ rows.length = ordered.length ∧
    ∀ i m row, ordered[i]? = some m → rows[i]? = some row → A.Records i m row

theorem loadAttemptSnapshot_ok_iff (hA : J.view a = some A) :
    (∃ snapshot, loadAttemptSnapshot a J = .ok (snapshot, J')) ↔
      J = J' ∧ A.Consistent ∧ A.Recorded (J.orderedNodes a) := by
  simp only [loadAttemptSnapshot, ok_iff, loadAttemptContext_ok_iff hA, ofContract_ok_iff]
  constructor
  · rintro ⟨_, _, J₁, ⟨rfl, rfl, hc⟩, ordered, hordered, _, rfl, _, hlen, nodes, J₅, hnodes, -, rfl⟩
    obtain ⟨rfl, hrecords⟩ := (loadNodeSnapshots_ok_iff hA).mp ⟨nodes, hnodes⟩
    exact ⟨rfl, hc, ordered, hordered, hlen, fun i m row hm hr => by
      simpa using hrecords i m row hm hr⟩
  · rintro ⟨rfl, hc, ordered, hordered, hlen, hrecords⟩
    have hrows : ∀ i m row, ordered[i]? = some m → (J.orderedNodes a)[i]? = some row →
        A.Records (0 + i) m row := fun i m row hm hr => by simpa using hrecords i m row hm hr
    obtain ⟨nodes, hnodes⟩ := (loadNodeSnapshots_ok_iff hA).mpr ⟨refl J, hrows⟩
    exact ⟨_, _, J, ⟨rfl, rfl, hc⟩, ordered, hordered, _, rfl, (), hlen, nodes, J, hnodes, rfl, rfl⟩

/-! ### What a declared attempt records -/

section Declared

variable {n : NodeRow}

theorem mem_orderedNodes : n ∈ J.orderedNodes a ↔ n ∈ J.nodes.rows ∧ n.attemptId = a := by
  simp [orderedNodes]

section

variable (hA : J.view a = some A)
include hA

theorem order_of_view : A.order = (J.orderedNodes a).map (·.nodeId) := by
  rw [← attach_of_view hA]
  rfl

theorem nodes_of_mem (h : n ∈ J.orderedNodes a) : A.nodes n.nodeId = some n := by
  obtain ⟨hn, rfl⟩ := mem_orderedNodes.mp h
  rw [← node_of_view hA]
  exact Table.lookup_of_mem nodes_by_key hn

theorem mem_of_nodes {k : WorkflowNodeId}
    (h : A.nodes k = some n) : n ∈ J.orderedNodes a ∧ n.attemptId = a ∧ n.nodeId = k := by
  rw [← node_of_view hA] at h
  obtain ⟨ha, hk⟩ := Prod.ext_iff.mp (Table.key_of_lookup h)
  exact ⟨mem_orderedNodes.mpr ⟨Table.mem_of_lookup h, ha⟩, ha, hk⟩

/-- An attempt whose snapshot can be read is declared. -/
theorem Attempt.Recorded.declared (hid : a.isNil = false)
    (hcreated : A.row.createdAtMs = A.request.createdAtMs) (hc : A.Consistent)
    (h : A.Recorded (J.orderedNodes a)) : A.Declared := by
  obtain ⟨ordered, hordered, hlen, hrecords⟩ := h
  have hperm := WorkflowPolicyV1.orderedNodes_perm hordered
  have hlawful := Attempt.Lawful.policy_lawful A
  have horder : A.order = ordered.map (·.nodeId) := by
    rw [order_of_view hA]
    refine List.ext_getElem? fun i => ?_
    rw [List.getElem?_map, List.getElem?_map]
    cases hrow : (J.orderedNodes a)[i]? with
    | none =>
      rw [List.getElem?_eq_none_iff, hlen, ← List.getElem?_eq_none_iff] at hrow
      rw [hrow]
      rfl
    | some row =>
      obtain ⟨hi, -⟩ := getElem?_eq_some_iff.mp hrow
      have hm := List.getElem?_eq_getElem (hlen ▸ hi)
      rw [hm, map_some, map_some, (hrecords i _ row hm hrow).nodeId]
  -- The row of a node of the manifest, and the node of a row.
  have hrowOf : ∀ m ∈ A.policy.nodes, ∃ (i : Nat) (row : NodeRow), ordered[i]? = some m ∧
      (J.orderedNodes a)[i]? = some row := by
    intro m hm
    obtain ⟨i, hi⟩ := List.mem_iff_getElem?.mp (hperm.mem_iff.mpr hm)
    obtain ⟨hlt, -⟩ := getElem?_eq_some_iff.mp hi
    exact ⟨i, _, hi, List.getElem?_eq_getElem (hlen ▸ hlt)⟩
  refine ⟨(attemptId_of_view hA).symm ▸ hid, (requestId_of_view hA).symm, hc.projectId,
    hc.policyDigest, hc.preparationKey, hcreated, ⟨ordered, hordered, horder⟩, ?_, ?_, ?_⟩
  · intro k n hn
    obtain ⟨hmem, hatt, rfl⟩ := mem_of_nodes hA hn
    obtain ⟨i, hi⟩ := List.mem_iff_getElem?.mp hmem
    obtain ⟨hlt, -⟩ := getElem?_eq_some_iff.mp hi
    have hm : ordered[i]? = some ordered[i] := List.getElem?_eq_getElem (hlen ▸ hlt)
    have hr := hrecords i _ n hm hi
    obtain ⟨q, hq, hpool⟩ := hr.profile
    refine ⟨hatt.trans (attemptId_of_view hA).symm, rfl, ?_, ordered[i], q, ?_, hq, hr.nodeKind,
      hr.activation, hr.profileId, hpool⟩
    · rw [hr.ordinal, horder, List.getElem?_map, hm, hr.nodeId]
      rfl
    · rw [hlawful.node_eq_some_iff]
      exact ⟨hperm.mem_iff.mp (List.mem_of_getElem? hm), hr.nodeId.symm⟩
  · intro m hm
    obtain ⟨i, row, hi, hrow⟩ := hrowOf m hm
    refine ⟨row, ?_⟩
    rw [← (hrecords i m row hi hrow).nodeId]
    exact nodes_of_mem hA (List.mem_of_getElem? hrow)
  · intro m hm
    obtain ⟨i, row, hi, hrow⟩ := hrowOf m hm
    exact (hrecords i m row hi hrow).dependsOn

end

end Declared

/-! ### Reads change nothing -/

section Reads

variable {snapshot : WorkflowAttemptSnapshotV1}

theorem loadAttemptSnapshot_ok (h : loadAttemptSnapshot a J = .ok (snapshot, J')) : J = J' := by
  have hview : ∃ A, J.view a = some A := by
    obtain ⟨context, J₁, hcontext, -⟩ := bind_ok_iff.mp h
    obtain ⟨⟨row, request⟩, J₂, hrow, -⟩ := bind_ok_iff.mp hcontext
    simp only [readAttemptContextRow, ok_iff] at hrow
    obtain ⟨_, rfl, hread, rfl⟩ := hrow
    obtain ⟨row', hrow', hmap⟩ := bind_eq_some_iff.mp hread
    obtain ⟨request', hreq', -⟩ := map_eq_some_iff.mp hmap
    exact ⟨_, view_eq_some_iff.mpr ⟨row', request', hrow', hreq', rfl⟩⟩
  obtain ⟨A, hA⟩ := hview
  exact ((loadAttemptSnapshot_ok_iff hA).mp ⟨snapshot, h⟩).1

theorem loadLatestAttemptForRequest_ok
    (h : loadLatestAttemptForRequest a J = .ok (snapshot, J')) : J = J' := by
  simp only [loadLatestAttemptForRequest, ok_iff] at h
  obtain ⟨_, -, _, -, h⟩ := h
  exact loadAttemptSnapshot_ok h

end Reads

end Rdashboard
