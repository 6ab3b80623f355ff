import Rdashboard.Refinement.Claims

/-! # Admissions along the journal

An admission supersedes the attempts of older requests that have not begun to mutate the
project, and writes the rows of a new attempt.  The new attempt is read back at the end, so its
rows record its manifest. -/

namespace Rdashboard

open Relational Journal List Table Txn TableRef Option

variable {sha256 : Sha256} {D : Discipline} {J J' : Journal sha256} {a : Uuid}
  {A : Attempt sha256} {t : Int} {u : Unit} {i : Uuid}

/-! ### Superseding -/

section Superseding

variable {row : AttemptRow}
variable {mode : WorkflowExecutionModeV1}

theorem supersedeAttempt_ok (hJ : J.Sound) (hA : J.view row.attemptId = some A)
    (hreq : row.requestId = A.row.requestId) (hns : A.row.mutationState = .notStarted)
    (h : supersedeAttempt i t row J = .ok (u, J')) :
    J.Acts J' row.attemptId (·.supersede i
      (if J.activeLeases row.attemptId = 0 then .complete else .pending) t) := by
  simp only [supersedeAttempt, ok_iff] at h
  obtain ⟨n, rfl, _, J₂, h₂, c, J₃, h₃, c', J₄, h₄, h₅⟩ := h
  have a₂ := revokeWork_ok h₂
  have hA₂ := a₂.view hJ hA
  have a₃ := updateAttempt_of h₃ hA₂ (decide_eq_true hns) (fun _ => rfl) fun _ => rfl
  obtain ⟨-, a₄⟩ := updateRequest_ok h₄ (a₃.view (a₂ hJ).1 hA₂)
    (fun r => by rw [hreq]; rfl) fun _ => rfl
  exact ((a₂.trans a₃).trans a₄).trans (appendTransition_ok h₅ _)

theorem supersedeAttempt_request {j : Uuid} (hj : j ≠ row.requestId)
    (h : supersedeAttempt i t row J = .ok (u, J')) : J'.request j = J.request j := by
  simp only [supersedeAttempt, ok_iff, revokeWork, appendTransition, update_ok_iff,
  insert_ok_iff] at h
  obtain ⟨_, -, _, _, ⟨_, _, ⟨t₁, -, -, rfl⟩, _, _, ⟨t₂, -, -, rfl⟩, -, rfl⟩, _, _,
    ⟨t₃, -, -, rfl⟩, _, _, ⟨t₄, h₄, -, rfl⟩, _, -, -, t₅, -, rfl⟩ := h
  have hlookup := lookup_update (u := RequestRow.requestId) (fun _ _ => by rfl) h₄ j
  refine hlookup.trans (map_assign_of_neg fun r hr => ?_)
  have hid : r.requestId = j := key_of_lookup hr
  simp [hid, hj]

theorem supersedeLoop_ok {rows : List AttemptRow} (hJ : J.Lawful D)
    (hnd : (rows.map (·.attemptId)).Nodup)
    (hrows : ∀ r ∈ rows, ∃ A, J.view r.attemptId = some A ∧ A.row = r ∧
      A.row.state.isTerminal = false ∧ A.row.mutationState = .notStarted ∧
      (D.careful → A.Idle → A.DebtFree))
    (h : each (supersedeAttempt i t) rows J = .ok (u, J')) :
    J.Proceeds D J' ∧ (∀ b, b ∉ rows.map (·.attemptId) → J'.view b = J.view b) ∧
      (∀ j, (∀ r ∈ rows, j ≠ r.requestId) → J'.request j = J.request j) ∧
      ∀ r ∈ rows, ∃ A, J'.view r.attemptId = some A ∧ A.row.state = .superseded := by
  induction rows generalizing J with
  | nil =>
    obtain rfl := each_nil_ok_iff.mp h
    exact ⟨hJ.refl, fun _ _ => rfl, fun _ _ => rfl, by simp⟩
  | cons r rows ih =>
    obtain ⟨J₁, hr, hrest⟩ := each_cons_ok_iff.mp h
    obtain ⟨hnotin, hnd⟩ := nodup_cons.mp hnd
    obtain ⟨A, hA, hrow, hlive, hns, hfree⟩ := hrows r (by simp)
    have hacts := supersedeAttempt_ok hJ.sound hA (by rw [hrow]) hns hr
    have hproceeds : J.Proceeds D J₁ := by
      refine .of_step hJ hacts hA (.supersede i _ t hlive hns fun hD hc => ?_) id
      have hidle : A.Idle := by
        rw [← activeLeases_eq_zero_iff hA]
        by_contra hne
        simp [hne] at hc
      exact ⟨hidle, hfree hD hidle⟩
    have hother : ∀ m ∈ rows, J₁.view m.attemptId = J.view m.attemptId := fun m hm =>
      hacts.view_ne hJ.sound fun heq => hnotin (mem_map.mpr ⟨m, hm, heq⟩)
    obtain ⟨hproceeds', hviews, hrequests, hsuperseded⟩ := ih hproceeds.lawful hnd
      (fun m hm => by rw [hother m hm]; exact hrows m (by simp [hm])) hrest
    refine ⟨hproceeds.trans hproceeds', fun b hb => ?_, fun j hj => ?_,
      forall_mem_cons.mpr ⟨⟨_, by rw [hviews _ hnotin]; exact hacts.view hJ.sound hA, rfl⟩,
        hsuperseded⟩⟩
    · simp only [map_cons, mem_cons, not_or] at hb
      rw [hviews b hb.2, hacts.view_ne hJ.sound hb.1]
    · rw [hrequests j fun m hm => hj m (by simp [hm]),
        supersedeAttempt_request (hj r (by simp)) hr]

theorem mem_standingAttempts {p : ProjectId} :
    row ∈ J.standingAttempts p mode i ↔ row ∈ J.attempts.rows ∧ (∃ request,
      J.request row.requestId = some request ∧ request.projectId = p ∧ request.requestId ≠ i ∧
        request.operationKind = mode) ∧ row.state.isTerminal = false := by
  simp [standingAttempts, Option.any_eq_true, and_assoc]

/-- An attempt that would be superseded by an admission: it stands, for the same project and
mode, and has not begun to mutate the project. -/
structure Attempt.Supersedable (A : Attempt sha256) (p : ProjectId)
    (mode : WorkflowExecutionModeV1) : Prop where
  projectId : A.request.projectId = p
  operationKind : A.request.operationKind = mode
  live : A.row.state.isTerminal = false
  notStarted : A.row.mutationState = .notStarted

theorem Attempt.Standing.locked (h : A.Standing) (hlive : A.row.state.isTerminal = false)
    (hm : A.row.mutationState ≠ .notStarted) : A.lock.isSome = true := by
  have hmut := h.mutation
  have hlock := h.lock
  cases hs : A.row.mutationState with
  | notStarted => exact absurd hs hm
  | complete =>
    rw [hs] at hmut
    rw [show A.row.state = .succeeded from hmut] at hlive
    cases hlive
  | owned =>
    rw [hs] at hlock
    obtain ⟨k, hk, -⟩ := map_eq_some_iff.mp hlock
    exact isSome_iff_exists.mpr ⟨k, hk⟩
  | needsReconcile =>
    rw [hs] at hlock
    obtain ⟨k, hk, -⟩ := map_eq_some_iff.mp hlock
    exact isSome_iff_exists.mpr ⟨k, hk⟩

theorem supersedePreMutationAttempts_ok {p : ProjectId} {waiting : Bool} (hJ : J.Lawful D)
    (hfree : D.careful → ∀ b B, J.view b = some B → B.Supersedable p mode → B.Idle → B.DebtFree)
    (h : supersedePreMutationAttempts p mode i t J = .ok (waiting, J')) :
    J.Proceeds D J' ∧ J'.request i = J.request i ∧ (waiting = true → ∃ b B, J'.view b = some B ∧
      B.lock.isSome = true ∧ B.request.projectId = p) ∧
      ∀ b B, J'.view b = some B → B.Supersedable p mode → B.request.requestId = i := by
  simp only [supersedePreMutationAttempts, ok_iff] at h
  obtain ⟨_, rfl, _, J₂, hloop, rfl, rfl⟩ := h
  have hview : ∀ r ∈ J.standingAttempts p mode i, ∃ A, J.view r.attemptId = some A ∧ A.row = r ∧
      A.request.projectId = p ∧ A.request.operationKind = mode ∧ A.row.state.isTerminal = false ∧
      i ≠ r.requestId := by
    intro r hr
    obtain ⟨hmem, ⟨request, hreq, hp, hne, hmode⟩, hlive⟩ := mem_standingAttempts.mp hr
    obtain ⟨A, hA, rfl⟩ := hJ.sound.view_of_attempt (lookup_of_mem attempts_by_id hmem)
    cases (request_of_view hA).symm.trans hreq
    exact ⟨A, hA, rfl, hp, hmode, hlive, fun heq => hne ((requestId_of_view hA).trans heq.symm)⟩
  have hnd : ((J.standingAttempts p mode i).map (·.attemptId)).Nodup :=
    nodup_attemptIds (perm_insertionSort _ _)
  obtain ⟨hproceeds, hviews, hrequests, hsuperseded⟩ := supersedeLoop_ok hJ
    (hnd.sublist (filter_sublist.map _)) (fun r hr => by
      obtain ⟨hr, hns⟩ := mem_filter.mp hr
      obtain ⟨A, hA, rfl, hp, hmode, hlive, -⟩ := hview r hr
      have hns := of_decide_eq_true hns
      exact ⟨A, hA, rfl, hlive, hns, fun hD => hfree hD _ A hA ⟨hp, hmode, hlive, hns⟩⟩) hloop
  refine ⟨hproceeds, hrequests i fun r hr => ?_, fun hw => ?_, fun b B hB hsup => ?_⟩
  · obtain ⟨A, -, -, -, -, -, hne⟩ := hview r (mem_filter.mp hr).1
    exact hne
  · obtain ⟨r, hr, hm⟩ := any_eq_true.mp (Bool.and_eq_true_iff.mp hw).2
    obtain ⟨A, hA, rfl, hp, -, hlive, -⟩ := hview r hr
    have hm := of_decide_eq_true hm
    refine ⟨A.row.attemptId, A, ?_, (hJ.attempts _ A hA).standing.locked hlive hm, hp⟩
    rw [hviews, hA]
    intro hin
    obtain ⟨r', hr', heq⟩ := mem_map.mp hin
    obtain ⟨hr', hns⟩ := mem_filter.mp hr'
    obtain ⟨B, hB, rfl, -⟩ := hview r' hr'
    rw [heq, hA] at hB
    cases hB
    exact hm (of_decide_eq_true hns)
  · -- What still could be superseded was not among the attempts of other requests.
    by_contra hne
    by_cases hin : b ∈ ((J.standingAttempts p mode i).filter
        (·.mutationState = .notStarted)).map (·.attemptId)
    · obtain ⟨r, hr, rfl⟩ := mem_map.mp hin
      obtain ⟨C, hC, hstate⟩ := hsuperseded r hr
      cases hB.symm.trans hC
      have hlive := hsup.live
      rw [hstate] at hlive
      cases hlive
    · rw [hviews b hin] at hB
      refine hin (mem_map.mpr ⟨B.row, mem_filter.mpr ⟨mem_standingAttempts.mpr
        ⟨mem_of_lookup (attempt_of_view hB), ⟨B.request, request_of_view hB, hsup.projectId, hne,
          hsup.operationKind⟩, hsup.live⟩, ?_⟩, attemptId_of_view hB⟩)
      simp [hsup.notStarted]

end Superseding

/-! ### A new attempt -/

section Creation

/-- A statement that adds nodes and dependencies to attempt `a`, all of them with `P`. -/
structure Journal.Extends (J J' : Journal sha256) (a : Uuid) (P : NodeRow → Prop) : Prop where
  nodes : ∃ ns, J'.nodes.rows = J.nodes.rows ++ ns ∧ ∀ n ∈ ns, n.attemptId = a ∧ P n
  dependencies : ∃ ds, J'.dependencies.rows = J.dependencies.rows ++ ds ∧ ∀ d ∈ ds, d.attemptId = a
  rest : J' = { J with nodes := J'.nodes, dependencies := J'.dependencies }

variable {J'' : Journal sha256} {P : NodeRow → Prop} {manifest : ValidManifest}
  {admission : WorkflowAdmissionV1} {waiting : Bool}

theorem Journal.Extends.refl : J.Extends J a P :=
  ⟨⟨[], by simp⟩, ⟨[], by simp⟩, rfl⟩

theorem Journal.Extends.trans (h₁ : J.Extends J' a P) (h₂ : J'.Extends J'' a P) :
    J.Extends J'' a P := by
  obtain ⟨⟨ns, hns, hP⟩, ⟨ds, hds, hD⟩, hrest⟩ := h₁
  obtain ⟨⟨ns', hns', hP'⟩, ⟨ds', hds', hD'⟩, hrest'⟩ := h₂
  refine ⟨⟨ns ++ ns', by rw [hns', hns, append_assoc], ?_⟩,
    ⟨ds ++ ds', by rw [hds', hds, append_assoc], ?_⟩, ?_⟩
  · exact fun n hn => (mem_append.mp hn).elim (hP n) (hP' n)
  · exact fun d hd => (mem_append.mp hd).elim (hD d) (hD' d)
  · rw [hrest', hrest]

/-- The rows of a new node. -/
def InitialNode (admission : WorkflowAdmissionV1) (n : NodeRow) : Prop :=
  n.leaseGeneration = 0 ∧ ∃ waiting, n.state = initialNodeState admission.executionMode waiting
    n.nodeKind

theorem createDependencies_extends {k : WorkflowNodeId} {ds : List WorkflowNodeId}
    (h : each (createDependency a k) ds J = .ok (u, J')) : J.Extends J' a P := by
  refine each_preserves (I := fun J' => J.Extends J' a P) (fun d _ J₁ J₂ h₁ hd => ?_) .refl h
  obtain ⟨-, table, hinsert, rfl⟩ := insert_ok_iff.mp hd
  exact h₁.trans ⟨⟨[], by simp [dependenciesT]⟩, ⟨[_], rows_insert hinsert, by simp⟩, rfl⟩

theorem createNodes_extends {ordinal : Nat} {nodes : List WorkflowNodeV1}
    (h : createNodes manifest admission a waiting t ordinal nodes J = .ok (u, J')) :
    J.Extends J' a (InitialNode admission) := by
  induction nodes generalizing ordinal J with
  | nil =>
    obtain ⟨-, rfl⟩ := pure_ok_iff.mp h
    exact .refl
  | cons m nodes ih =>
    simp only [createNodes, ok_iff, createNode] at h
    obtain ⟨_, J₁, ⟨q, -, _, J₃, hnode, hdeps⟩, hrest⟩ := h
    obtain ⟨-, table, hinsert, rfl⟩ := insert_ok_iff.mp hnode
    have hfirst : J.Extends (nodesT.set table J) a (InitialNode admission) := by
      refine ⟨⟨[_], rows_insert hinsert, ?_⟩, ⟨[], by simp [nodesT]⟩, rfl⟩
      simp only [mem_singleton, forall_eq]
      exact ⟨rfl, rfl, waiting, rfl⟩
    exact (hfirst.trans (createDependencies_extends hdeps)).trans (ih hrest)

theorem Journal.Extends.view_ne {b : Uuid} (h : J.Extends J' a P) (hb : b ≠ a) :
    J'.view b = J.view b := by
  obtain ⟨⟨ns, hns, hP⟩, ⟨ds, hds, hD⟩, hrest⟩ := h
  have hattach : ∀ row request, J'.attach b row request = J.attach b row request := by
    intro row request
    rw [hrest]
    refine Attempt.ext rfl rfl ?_ (funext fun k => ?_) (funext fun k => ?_) rfl rfl rfl rfl rfl
    · have hfilter : ns.filter (fun n => decide (n.attemptId = b)) = [] := by
        rw [filter_eq_nil_iff]
        intro n hn
        simp [(hP n hn).1, symm hb]
      simp only [attach, orderedNodes, hns, filter_append, hfilter, append_nil]
    · have hfilter : ds.filter (fun d => decide (d.attemptId = b) && decide (d.nodeId = k)) = [] := by
        rw [filter_eq_nil_iff]
        intro d hd
        simp [hD d hd, symm hb]
      simp only [attach, dependenciesOf, select, hds, filter_append, hfilter, append_nil]
    · have hfind : ns.find? (fun n => decide (n.key = (b, k))) = none := by
        rw [find?_eq_none]
        intro n hn
        simp [NodeRow.key, (hP n hn).1, symm hb]
      simp only [attach, node, Table.lookup, hns, find?_append, hfind, or_none]
  have hattempt : J'.attempt b = J.attempt b := by rw [hrest]; rfl
  have hrequest : J'.request = J.request := by rw [hrest]; rfl
  simp only [view, hrequest]
  congr 1
  funext row
  exact congrArg (Option.map · _) (funext (hattach row))

theorem Journal.Extends.sound (h : J.Extends J' a P) (hJ : J.Sound)
    (ha : (J.attempt a).isSome = true) : J'.Sound := by
  obtain ⟨⟨ns, hns, hP⟩, ⟨ds, hds, hD⟩, hrest⟩ := h
  rw [hrest]
  refine { hJ with node := fun n hn => ?_, dependency := fun d hd => ?_ }
  · rcases mem_append.mp (hns ▸ hn) with hn | hn
    · exact hJ.node n hn
    · rw [(hP n hn).1]; exact ha
  · rcases mem_append.mp (hds ▸ hd) with hd | hd
    · exact hJ.dependency d hd
    · rw [hD d hd]; exact ha

theorem Journal.Sound.absent (hJ : J.Sound) (ha : J.attempt a = none) :
    (∀ n ∈ J.nodes.rows, n.attemptId ≠ a) ∧
      (∀ i, J.leases.lookup LeaseRow.key (a, i) = none) ∧ (∀ k, J.nodeReceipt a k = none) ∧
      J.binding a = none ∧ J.reduction a = none ∧ J.attemptLock a = none := by
  have hne : ∀ b, (J.attempt b).isSome = true → b ≠ a := by
    rintro b hb rfl
    rw [ha] at hb
    cases hb
  refine ⟨fun n hn => hne _ (hJ.node n hn), fun i => ?_, fun k => ?_, ?_, ?_, ?_⟩
  · exact lookup_eq_none_iff.mpr fun l hl hk =>
      hne _ (hJ.lease l hl) (Prod.ext_iff.mp hk).1
  · exact lookup_eq_none_iff.mpr fun r hr hk =>
      hne _ (hJ.receipt r hr).2 (Prod.ext_iff.mp hk).1
  · exact lookup_eq_none_iff.mpr fun c hc hk => hne _ (hJ.binding c hc) hk
  · exact lookup_eq_none_iff.mpr fun r hr hk => hne _ (hJ.reduction r hr) hk
  · exact lookup_eq_none_iff.mpr fun k hk hid => hne _ (hJ.lock k hk) hid

/-- `INSERT INTO workflow_attempts`. -/
theorem addAttempt_ok {r : AttemptRow} {table : Table attemptSchema} (hJ : J.Sound)
    (h : J.attempts.insert r = some table) (hnumber : r.attemptNumber = 1)
    (hreq : (J.request r.requestId).isSome = true) :
    J.attempt r.attemptId = none ∧ (attemptsT.set table J).Sound ∧
      (attemptsT.set table J).attempt r.attemptId = some r ∧
      ∀ b, b ≠ r.attemptId → (attemptsT.set table J).view b = J.view b := by
  have hlookup := lookup_insert attempts_by_id h
  refine ⟨insert_fresh attempts_by_id h, hJ.of_attempts ?_ ?_ fun b hb => ?_,
    (hlookup _).trans (if_pos rfl), fun b hb => ?_⟩
  · exact forall_insert h hJ.number hnumber
  · exact forall_insert h hJ.request hreq
  · rw [hlookup]
    split
    · rfl
    · exact hb
  · have hattempt : (attemptsT.set table J).attempt b = J.attempt b :=
      (hlookup b).trans (if_neg (symm hb))
    simp only [view, hattempt]
    rfl

theorem createAttempt_ok {requestId : Uuid} {request : RequestRow}
    {snapshot : WorkflowAttemptSnapshotV1} (hJ : J.Sound) (hid : a.isNil = false)
    (hreq : J.request requestId = some request) (hcreated : request.createdAtMs = t)
    (hactive : request.state = .active) (hmode : request.operationKind = admission.executionMode)
    (h : createAttempt manifest admission requestId a waiting t J = .ok (snapshot, J')) :
    J.view a = none ∧ J'.Sound ∧ (∀ b, b ≠ a → J'.view b = J.view b) ∧
      ∃ A, J'.view a = some A ∧ A.Born ∧ A.request = request ∧
        (A.row.state = .waitingForMutation → waiting = true) := by
  simp only [createAttempt, ok_iff] at h
  obtain ⟨_, J₁, h₁, ordered, -, _, J₃, h₃, _, J₄, h₄, h₅⟩ := h
  obtain ⟨hforeign, table, hinsert, rfl⟩ := insert_ok_iff.mp h₁
  obtain ⟨hnone, hJ₁, hrow, hviews⟩ := addAttempt_ok hJ hinsert rfl hforeign
  have hext := createNodes_extends h₃
  have hJ₃ := hext.sound hJ₁ (by rw [hrow]; rfl)
  have hrow₃ : J₃.attempt a = (attemptsT.set table J).attempt a := by rw [hext.rest]; rfl
  have hreq₃ : J₃.request requestId = some request := by rw [hext.rest]; exact hreq
  have hA₃ : J₃.view a = some (J₃.attach a _ request) :=
    view_eq_some_iff.mpr ⟨_, request, hrow₃.trans hrow, hreq₃, rfl⟩
  have a₄ := appendTransition_ok h₄ a
  have hA₄ := a₄.view hJ₃ hA₃
  obtain ⟨rfl, hconsistent, hrecorded⟩ := (loadAttemptSnapshot_ok_iff hA₄).mp ⟨_, h₅⟩
  have hview : ∀ b, b ≠ a → J₄.view b = J.view b := fun b hb => by
    rw [a₄.view_ne hJ₃ hb, hext.view_ne hb, hviews b hb]
  refine ⟨by rw [view, show J.attempt a = none from hnone]; rfl, (a₄ hJ₃).1, hview, _, hA₄, ?_,
    rfl, fun hw => ?_⟩
  · obtain ⟨hnodes, hleases, hreceipts, hbinding, hreduction, hlock⟩ := hJ.absent hnone
    have hsame : ∀ {β : Type} (f : Journal sha256 → β), (∀ J, ∀ ns ds at',
        f { J with nodes := ns, dependencies := ds, attempts := at' } = f J) → f J₃ = f J := by
      intro β f hf
      rw [hext.rest]
      exact (hf J _ _ _)
    refine ⟨hrecorded.declared hA₄ hid hcreated.symm hconsistent, ?_, rfl, rfl, hactive, ?_, ?_, ?_, ?_,
      ?_, ?_⟩
    · cases waiting
      · exact .inl rfl
      · exact .inr rfl
    · intro k n hn
      obtain ⟨ns, hns, hP⟩ := hext.nodes
      have hmem : n ∈ J₃.nodes.rows := mem_of_lookup hn
      have hatt : n.attemptId = a := (Prod.ext_iff.mp (key_of_lookup hn)).1
      rcases mem_append.mp (hns ▸ hmem) with hold | hnew
      · exact absurd hatt (hnodes n hold)
      · obtain ⟨-, hgen, w, hstate⟩ := hP n hnew
        exact ⟨hgen, w, hstate.trans (by rw [← hmode]; rfl)⟩
    · intro i
      have : J₃.leases.lookup LeaseRow.key (a, i) = none :=
        (hsame (fun J => J.leases.lookup LeaseRow.key (a, i)) fun _ _ _ _ => rfl).trans (hleases i)
      exact congrArg (Option.map _) this
    · intro k
      exact (hsame (fun J => J.nodeReceipt a k) fun _ _ _ _ => rfl).trans (hreceipts k)
    · exact (hsame (fun J => J.binding a) fun _ _ _ _ => rfl).trans hbinding
    · exact (hsame (fun J => J.reduction a) fun _ _ _ _ => rfl).trans hreduction
    · exact (hsame (fun J => J.attemptLock a) fun _ _ _ _ => rfl).trans hlock
  · cases waiting
    · cases hw
    · rfl

/-- A journal proceeds by a new attempt, if somebody holds the lock it waits for. -/
theorem Journal.Proceeds.of_born (hJ : J.Lawful D) (hs : J'.Sound) (ha : J.view a = none)
    (hA : J'.view a = some A) (hborn : A.Born) (hne : ∀ b, b ≠ a → J'.view b = J.view b)
    (hwait : A.row.state = .waitingForMutation → ∃ b B, J.view b = some B ∧
      B.lock.isSome = true ∧ B.request.projectId = A.request.projectId) : J.Proceeds D J' := by
  have hold : ∀ b B, J.view b = some B → J'.view b = some B := by
    intro b B hB
    rw [hne b, hB]
    rintro rfl
    rw [ha] at hB
    cases hB
  have hcases : ∀ b B, J'.view b = some B → (b = a ∧ B = A) ∨ J.view b = some B := by
    intro b B hB
    by_cases hb : b = a
    · subst hb
      exact .inl ⟨rfl, some.inj (hB.symm.trans hA)⟩
    · exact .inr (by rw [← hne b hb]; exact hB)
  refine ⟨⟨⟨hs, fun b B hB => ?_⟩, ⟨fun b B hB => ⟨B, hold b B hB, .refl⟩, fun b B hb hB => ?_⟩⟩,
    fun hatt b B hB hw => ?_⟩
  · rcases hcases b B hB with ⟨-, rfl⟩ | hB
    · exact hborn.lawful
    · exact hJ.attempts b B hB
  · rcases hcases b B hB with ⟨-, rfl⟩ | hB
    · exact ⟨B, hborn, .refl⟩
    · rw [hb] at hB
      cases hB
  · have : ∃ c C, J.view c = some C ∧ C.lock.isSome = true ∧
        C.request.projectId = B.request.projectId := by
      rcases hcases b B hB with ⟨-, rfl⟩ | hB
      · exact hwait hw
      · exact hatt b B hB hw
    obtain ⟨c, C, hC, hlock⟩ := this
    exact ⟨c, C, hold c C hC, hlock⟩

end Creation

/-! ### The transaction -/

section Transaction

variable {manifest : ValidManifest} {admission : WorkflowAdmissionV1} {requestId : Uuid}
  {snapshot : WorkflowAttemptSnapshotV1}

/-- A change outside the attempts, such as a new trigger or head. -/
theorem Journal.Proceeds.of_view_eq (hJ : J.Lawful D) (hs : J.Sound → J'.Sound)
    (hview : J'.view = J.view) : J.Proceeds D J' := by
  refine ⟨⟨⟨hs hJ.sound, by rw [hview]; exact hJ.attempts⟩, by rw [hview]; exact .refl _⟩, ?_⟩
  unfold Attended
  rw [hview]
  exact id

theorem recordTrigger_ok (h : recordTrigger admission requestId t J = .ok (u, J')) :
    (J.Sound → J'.Sound) ∧ J'.view = J.view := by
  obtain ⟨-, table, -, rfl⟩ := insert_ok_iff.mp h
  exact ⟨fun hs => { hs with }, rfl⟩

theorem updateProjectHead_ok (h : updateProjectHead admission requestId t J = .ok (u, J')) :
    (J.Sound → J'.Sound) ∧ J'.view = J.view := by
  simp only [updateProjectHead, ok_iff] at h
  obtain ⟨_, -, current, -, h⟩ := h
  cases current with
  | none =>
    obtain ⟨-, table, -, rfl⟩ := insert_ok_iff.mp h
    exact ⟨fun hs => { hs with }, rfl⟩
  | some head =>
    simp only [ok_iff] at h
    obtain ⟨c, J₁, h, -, rfl⟩ := h
    obtain ⟨table, -, -, rfl⟩ := update_ok_iff.mp h
    exact ⟨fun hs => { hs with }, rfl⟩

/-- The attempts of other commits or policies that the admission could supersede are gone. -/
def Journal.Headed (J : Journal sha256) (admission : WorkflowAdmissionV1) : Prop :=
  ∀ b B, J.view b = some B → B.Supersedable admission.projectId admission.executionMode →
    B.request.sourceSha = admission.sourceSha ∧
      B.request.workflowPolicyDigest = admission.workflowPolicyDigest

/-- `INSERT INTO workflow_requests`: no attempt has the new request. -/
theorem addRequest_proceeds {r : RequestRow} {table : Table requestSchema} (hJ : J.Lawful D)
    (h : J.requests.insert r = some table) : J.Proceeds D (requestsT.set table J) ∧
      (requestsT.set table J).view = J.view ∧ (requestsT.set table J).request r.requestId = some r := by
  have hlookup := lookup_insert requests_by_id h
  have hfresh : J.request r.requestId = none := insert_fresh requests_by_id h
  have hkept : ∀ i, (J.request i).isSome = true →
      (requestsT.set table J).request i = J.request i := by
    intro i hi
    refine (hlookup i).trans (if_neg ?_)
    rintro rfl
    rw [hfresh] at hi
    cases hi
  have hview : (requestsT.set table J).view = J.view := by
    funext b
    have hattempt : (requestsT.set table J).attempt b = J.attempt b := rfl
    refine bind_congr fun row hrow => ?_
    rw [hkept _ (hJ.sound.request row (mem_of_lookup hrow))]
    rfl
  refine ⟨.of_view_eq hJ (fun hs => hs.of_requests fun i hi => ?_) hview, hview,
    (hlookup _).trans (if_pos rfl)⟩
  exact (congrArg isSome (hkept i hi)).trans hi

theorem admitNewRequest_proceeds (hJ : J.Lawful D) (hid : a.isNil = false)
    (hfree : D.careful → ∀ b B, J.view b = some B →
      B.Supersedable admission.projectId admission.executionMode → B.Idle → B.DebtFree)
    (h : admitNewRequest manifest admission t requestId a J = .ok (snapshot, J')) :
    J.Proceeds D J' ∧ J'.Headed admission := by
  simp only [admitNewRequest, ok_iff] at h
  obtain ⟨_, -, _, J₂, h₂, waiting, J₃, h₃, attempt, J₄, h₄, _, J₅, h₅, _, J₆, h₆, -, rfl⟩ := h
  obtain ⟨-, table, hinsert, rfl⟩ := insert_ok_iff.mp h₂
  obtain ⟨p₂, hview, hrequest⟩ := addRequest_proceeds hJ hinsert
  obtain ⟨p₃, hsame, hwait, hgone⟩ := supersedePreMutationAttempts_ok p₂.lawful
    (by rw [hview]; exact hfree) h₃
  obtain ⟨hnone, hs, hothers, A, hA, hborn, hArequest, hAwait⟩ :=
    createAttempt_ok p₃.lawful.sound hid (hsame.trans hrequest) rfl rfl rfl h₄
  have p₄ : J₃.Proceeds D J₄ := .of_born p₃.lawful hs hnone hA hborn hothers fun hw => by
    rw [hArequest]
    exact hwait (hAwait hw)
  have hview₆ := (updateProjectHead_ok h₆).2.trans (recordTrigger_ok h₅).2
  refine ⟨((p₂.trans p₃).trans p₄).trans (.of_view_eq p₄.lawful
    (fun hs => (updateProjectHead_ok h₆).1 ((recordTrigger_ok h₅).1 hs)) hview₆), fun b B hB hsup => ?_⟩
  rw [hview₆] at hB
  -- Only the attempt of the new request is left.
  have hnew : B.request = newRequestRow manifest admission requestId t := by
    by_cases hb : b = a
    · subst hb
      rw [some.inj (hB.symm.trans hA), hArequest]
    · rw [hothers b hb] at hB
      have hlookup := request_of_view hB
      rw [← requestId_of_view hB, hgone b B hB hsup, hsame] at hlookup
      exact some.inj (hlookup.symm.trans hrequest)
  rw [hnew]
  exact ⟨rfl, rfl⟩

theorem admitStableRequest_proceeds (hJ : J.Lawful D)
    (h : admitStableRequest admission t requestId J = .ok (snapshot, J')) :
    J.Proceeds D J' ∧ J'.view = J.view := by
  simp only [admitStableRequest, ok_iff] at h
  obtain ⟨attempt, J₁, h₁, _, J₂, h₂, _, J₃, h₃, -, rfl⟩ := h
  obtain rfl := loadLatestAttemptForRequest_ok h₁
  have hview := (updateProjectHead_ok h₃).2.trans (recordTrigger_ok h₂).2
  exact ⟨.of_view_eq hJ (fun hs => (updateProjectHead_ok h₃).1 ((recordTrigger_ok h₂).1 hs)) hview, hview⟩

theorem replayedTrigger_ok {o : Option WorkflowAttemptSnapshotV1}
    (h : replayedTrigger admission J = .ok (o, J')) : J = J' ∧ (o = none ↔
      J.triggers.lookup TriggerRow.key (admission.triggerChannel, admission.deliveryId) = none) := by
  simp only [replayedTrigger, ok_iff] at h
  obtain ⟨trigger, htrigger, h⟩ := h
  rw [htrigger]
  cases trigger with
  | none =>
    obtain ⟨rfl, rfl⟩ := pure_ok_iff.mp h
    exact ⟨rfl, by simp⟩
  | some trigger =>
    simp only [ok_iff] at h
    obtain ⟨_, -, attempt, J₃, hload, rfl, rfl⟩ := h
    exact ⟨loadLatestAttemptForRequest_ok hload, by simp⟩

theorem validateProjectHead_ok (h : validateProjectHead admission J = .ok (u, J')) : J = J' := by
  simp only [validateProjectHead, ok_iff] at h
  obtain ⟨current, -, h⟩ := h
  cases current with
  | none => exact (pure_ok_iff.mp h).2
  | some head =>
    simp only [ok_iff] at h
    obtain ⟨_, -, -, rfl⟩ := h
    rfl

theorem admitTransaction_proceeds {outcome : WorkflowAdmissionOutcomeV1} (hJ : J.Lawful D)
    (hid : a.isNil = false)
    (hfree : D.careful →
      J.triggers.lookup TriggerRow.key (admission.triggerChannel, admission.deliveryId) = none →
      J.findStableRequest admission = none → ∀ b B, J.view b = some B →
      B.Supersedable admission.projectId admission.executionMode → B.Idle → B.DebtFree)
    (h : admitTransaction manifest admission t requestId a J = .ok (outcome, J')) :
    J.Proceeds D J' ∧ if J.triggers.lookup TriggerRow.key
        (admission.triggerChannel, admission.deliveryId) = none ∧ J.findStableRequest admission = none
      then J'.Headed admission else J'.view = J.view := by
  simp only [admitTransaction, bind_ok_iff] at h
  obtain ⟨replayed, J₁, hreplayed, h⟩ := h
  obtain ⟨rfl, htrigger⟩ := replayedTrigger_ok hreplayed
  cases replayed with
  | some existing =>
    obtain ⟨-, rfl⟩ := pure_ok_iff.mp h
    exact ⟨hJ.refl, by rw [if_neg fun hnone => by cases htrigger.mpr hnone.1]⟩
  | none =>
    simp only [ok_iff] at h
    obtain ⟨_, J₂, hhead, stable, hstable, h⟩ := h
    obtain rfl := validateProjectHead_ok hhead
    cases stable with
    | some request =>
      simp only [ok_iff] at h
      obtain ⟨attempt, J₄, hadmit, -, rfl⟩ := h
      rw [if_neg fun hnone => by cases hstable.symm.trans hnone.2]
      exact admitStableRequest_proceeds hJ hadmit
    | none =>
      simp only [ok_iff] at h
      obtain ⟨attempt, J₄, hadmit, -, rfl⟩ := h
      rw [if_pos ⟨htrigger.mp rfl, hstable⟩]
      exact admitNewRequest_proceeds hJ hid
        (fun hD => hfree hD (htrigger.mp rfl) hstable) hadmit

end Transaction

end Rdashboard
