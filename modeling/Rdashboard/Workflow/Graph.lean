import Rdashboard.Workflow.Manifest

/-! # The graph of a validated policy

`WorkflowPolicyV1.Lawful` is what `validate` establishes, read as facts about the nodes and
profiles of the policy.  The kinds of node are put in `stage`s, and `exists_dependency` says
that the dependencies of a node reach every node of an earlier stage: a property that passes
from a node to its dependencies therefore holds of all nodes of earlier stages. -/

namespace Rdashboard

open Check List WorkflowNodeKindV1
variable {o : Option WorkflowNodeV1} {ids : List WorkflowNodeId} {u : Unit}
  {nodes out ordered : List WorkflowNodeV1} {kind : WorkflowNodeKindV1} {n : WorkflowNodeV1}
  {p : WorkflowPolicyV1}

/-! ### Keyed lists -/

section Keyed

variable {α κ : Type} [DecidableEq κ] {f : α → κ} {l : List α}

theorem find?_eq_some_of_mem {x : α} (hnd : (l.map f).Nodup) (hx : x ∈ l) :
    l.find? (fun y => f y = f x) = some x := by
  induction l with
  | nil => cases hx
  | cons y l ih =>
    rw [map_cons, nodup_cons] at hnd
    rcases mem_cons.mp hx with rfl | hx
    · simp
    · have hne : f y ≠ f x := fun h => hnd.1 (h ▸ mem_map_of_mem hx)
      rw [find?_cons_of_neg (by simpa using hne)]
      exact ih hnd.2 hx

theorem find?_key_eq_some_iff {k : κ} {x : α} (hnd : (l.map f).Nodup) :
    l.find? (fun y => f y = k) = some x ↔ x ∈ l ∧ f x = k := by
  constructor
  · intro h
    exact ⟨mem_of_find?_eq_some h, by simpa using find?_some h⟩
  · rintro ⟨hx, rfl⟩
    exact find?_eq_some_of_mem hnd hx

end Keyed

/-! ### Stages -/

/-- How far a node of this kind is in a release. -/
def WorkflowNodeKindV1.stage : WorkflowNodeKindV1 → Nat
  | sourceAdmission => 0
  | hostPrepare => 1
  | verification => 2
  | releaseBuild => 2
  | deterministicReduce => 3
  | resourceReservation => 4
  | backup => 5
  | migration => 6
  | candidateHealth => 7
  | cutover => 8
  | releasedObservation => 9
  | rollback => 9

/-- `x` is the only node of its kind. -/
structure Sole (nodes : List WorkflowNodeV1) (kind : WorkflowNodeKindV1) (x : WorkflowNodeV1) :
    Prop where
  mem : x ∈ nodes
  kind_eq : x.kind = kind
  unique : ∀ n ∈ nodes, n.kind = kind → n = x

section Kinds

variable {x : WorkflowNodeV1}

theorem mem_byKind : n ∈ byKind nodes kind ↔ n ∈ nodes ∧ n.kind = kind := by simp [byKind]

theorem sole_of_byKind (h : byKind nodes kind = [x]) : Sole nodes kind x where
  mem := (mem_byKind.mp (h ▸ mem_singleton_self x)).1
  kind_eq := (mem_byKind.mp (h ▸ mem_singleton_self x)).2
  unique := fun n hn hk => by
    have : n ∈ byKind nodes kind := mem_byKind.mpr ⟨hn, hk⟩
    rwa [h, mem_singleton] at this

theorem exactlyOne_ok (h : exactlyOne nodes kind = .ok x) : byKind nodes kind = [x] := by
  unfold exactlyOne at h
  split at h
  · rename_i y hy
    cases h
    exact hy
  · cases h

theorem exactlyOne_sole (h : exactlyOne nodes kind = .ok x) : Sole nodes kind x :=
  sole_of_byKind (exactlyOne_ok h)

theorem atMostOne_ok (h : atMostOne nodes kind = .ok o) :
    (o = none ∧ ∀ n ∈ nodes, n.kind ≠ kind) ∨ ∃ x, o = some x ∧ Sole nodes kind x := by
  unfold atMostOne at h
  split at h
  · rename_i hnil
    cases h
    refine .inl ⟨rfl, fun n hn hk => ?_⟩
    have : n ∈ byKind nodes kind := mem_byKind.mpr ⟨hn, hk⟩
    rw [hnil] at this
    cases this
  · rename_i y hy
    cases h
    exact .inr ⟨y, rfl, sole_of_byKind hy⟩
  · cases h

theorem requireDependencies_ok
    (h : requireDependencies n ids = .ok u) : n.dependsOn = ids := ensure_ok_iff.mp h

end Kinds

/-- The dependencies of `n` reach every node of an earlier stage. -/
def ReachesBack (nodes : List WorkflowNodeV1) (n : WorkflowNodeV1) : Prop :=
  ∀ m ∈ nodes, m.kind.stage < n.kind.stage →
    ∃ d ∈ nodes, d.nodeId ∈ n.dependsOn ∧ d.kind.stage < n.kind.stage ∧
      (d = m ∨ m.kind.stage < d.kind.stage)

/-- A node whose only dependency is the node of the stage before it reaches back. -/
theorem reachesBack_of_chain {kind' : WorkflowNodeKindV1} {p : WorkflowNodeV1}
    (hp : Sole nodes kind p) (hn : n.kind = kind') (hdep : n.dependsOn = [p.nodeId])
    (hlt : kind.stage < kind'.stage := by decide)
    (hstage : ∀ m ∈ nodes, m.kind.stage < kind'.stage → m.kind = kind ∨ m.kind.stage < kind.stage := by
      exact fun m _ => by cases m.kind <;> simp [stage]) : ReachesBack nodes n := by
  subst hn
  intro m hm hmn
  refine ⟨p, hp.mem, by simp [hdep], hp.kind_eq ▸ hlt, ?_⟩
  rcases hstage m hm hmn with h | h
  · exact .inl (hp.unique m hm h).symm
  · exact .inr (hp.kind_eq ▸ h)

/-- What both shapes of graph have in common. -/
structure ReleaseGraph (nodes : List WorkflowNodeV1) : Prop where
  /-- Only verifications can be many. -/
  unique : ∀ n ∈ nodes, ∀ m ∈ nodes, n.kind = m.kind → n.kind ≠ .verification → n = m
  reachesBack : ∀ n ∈ nodes, ReachesBack nodes n
  prepared : ∃ n ∈ nodes, n.kind = .hostPrepare
  reduced : ∃ n ∈ nodes, n.kind = .deterministicReduce
  sourceDepends : ∀ n ∈ nodes, n.kind = .sourceAdmission → n.dependsOn = []
  prepareDepends : ∀ n ∈ nodes, n.kind = .hostPrepare → ∀ m ∈ nodes, m.nodeId ∈ n.dependsOn →
    m.kind = .sourceAdmission
  /-- A build that depends on a verification depends on the only one. -/
  serial : ∀ n ∈ nodes, n.kind = .releaseBuild → ∀ v ∈ nodes, v.kind = .verification →
    v.nodeId ∈ n.dependsOn → Sole nodes .verification v

section Executor

variable {profiles : List WorkflowExecutionProfileV1}
variable {build prepare : WorkflowNodeV1} {profile : WorkflowExecutionProfileV1}
  {verification : List WorkflowNodeV1}

theorem mem_sortIds {k : WorkflowNodeId} : k ∈ sortIds ids ↔ k ∈ ids :=
  mem_insertionSort _

/-- A build depends on the preparation, and on no verification but the only one. -/
theorem validateReleaseDependencies_ok
    (h : validateReleaseDependencies build profile prepare verification = .ok u) :
    prepare.nodeId ∈ build.dependsOn ∧
      ∀ d ∈ build.dependsOn, d = prepare.nodeId ∨ ∃ v, verification = [v] ∧ d = v.nodeId := by
  have serial : ∀ v, verification = [v] → build.dependsOn = sortIds [prepare.nodeId, v.nodeId] →
      prepare.nodeId ∈ build.dependsOn ∧
        ∀ d ∈ build.dependsOn, d = prepare.nodeId ∨ ∃ v, verification = [v] ∧ d = v.nodeId := by
    intro v hv hb
    refine ⟨by simp [hb, mem_sortIds], fun d hd => ?_⟩
    rw [hb, mem_sortIds, mem_pair] at hd
    rcases hd with rfl | rfl
    · exact .inl rfl
    · exact .inr ⟨v, hv, rfl⟩
  unfold validateReleaseDependencies at h
  split at h
  · rcases ensure_ok_iff.mp h with hb | hs
    · exact ⟨by simp [hb], fun d hd => by rw [hb, mem_singleton] at hd; exact .inl hd⟩
    · split at hs
      · exact serial _ rfl (Option.some.inj hs).symm
      · cases hs
  · split at h
    · exact serial _ rfl (requireDependencies_ok h)
    · cases h
  · cases h

/-- A native build depends on the only verification. -/
theorem validateReleaseDependencies_native
    (hnative : profile.adapterId = .workerNativeReleaseBuildV1)
    (h : validateReleaseDependencies build profile prepare verification = .ok u) :
    ∃ v, verification = [v] ∧ v.nodeId ∈ build.dependsOn := by
  unfold validateReleaseDependencies at h
  simp only [hnative] at h
  split at h
  · rename_i v
    exact ⟨v, rfl, by simp [requireDependencies_ok h, mem_sortIds]⟩
  · cases h

/-- Where the chain of mutations stands after an optional node of kind `kind`: at that node,
or where it stood before. -/
theorem chainOptional_ok {previous next : WorkflowNodeV1}
    (ho : (o = none ∧ ∀ n ∈ nodes, n.kind ≠ kind) ∨ ∃ x, o = some x ∧ Sole nodes kind x)
    (h : chainOptional previous o = .ok next) :
    (next = previous ∧ ∀ n ∈ nodes, n.kind ≠ kind) ∨
      (Sole nodes kind next ∧ next.dependsOn = [previous.nodeId]) := by
  rcases ho with ⟨rfl, hnone⟩ | ⟨x, rfl, hx⟩
  · cases h
    exact .inl ⟨rfl, hnone⟩
  · simp only [chainOptional, bind_ok_iff] at h
    obtain ⟨_, hdep, hnext⟩ := h
    cases hnext
    exact .inr ⟨hx, requireDependencies_ok hdep⟩

/-- What both shapes of graph begin with: a chain of single nodes, except that the verifications stand
beside the build. -/
structure BuildGraph (nodes : List WorkflowNodeV1) where
  {source prepare build reduce : WorkflowNodeV1}
  source_sole : Sole nodes .sourceAdmission source
  prepare_sole : Sole nodes .hostPrepare prepare
  build_sole : Sole nodes .releaseBuild build
  reduce_sole : Sole nodes .deterministicReduce reduce
  source_depends : source.dependsOn = []
  prepare_depends : prepare.dependsOn = [source.nodeId]
  verification_depends : ∀ v ∈ byKind nodes .verification, v.dependsOn = [prepare.nodeId]
  build_depends : prepare.nodeId ∈ build.dependsOn ∧ ∀ d ∈ build.dependsOn,
    d = prepare.nodeId ∨ ∃ v, byKind nodes .verification = [v] ∧ d = v.nodeId
  reduce_depends : build.nodeId ∈ reduce.dependsOn ∧
    ∀ v ∈ byKind nodes .verification, v.nodeId ∈ reduce.dependsOn

namespace BuildGraph

variable (g : BuildGraph nodes)

/-- The reduction depends on the build and on every verification. -/
theorem reduce_reachesBack : ReachesBack nodes g.reduce := by
  intro m hm hlt
  by_cases hv : m.kind = .verification
  · exact ⟨m, hm, g.reduce_depends.2 m (mem_byKind.mpr ⟨hm, hv⟩), hlt, .inl rfl⟩
  · rw [g.reduce_sole.kind_eq] at hlt ⊢
    refine ⟨g.build, g.build_sole.mem, g.reduce_depends.1, ?_⟩
    rw [g.build_sole.kind_eq]
    refine ⟨by decide, ?_⟩
    by_cases hb : m.kind = .releaseBuild
    · exact .inl (g.build_sole.unique m hm hb).symm
    · right
      revert hlt hv hb
      cases m.kind <;> simp [stage]

theorem build_reachesBack : ReachesBack nodes g.build := by
  intro m hm hlt
  rw [g.build_sole.kind_eq] at hlt ⊢
  refine ⟨g.prepare, g.prepare_sole.mem, g.build_depends.1, ?_⟩
  rw [g.prepare_sole.kind_eq]
  refine ⟨by decide, ?_⟩
  by_cases hp : m.kind = .hostPrepare
  · exact .inl (g.prepare_sole.unique m hm hp).symm
  · right
    revert hlt hp
    cases m.kind <;> simp [stage]

/-- It remains to look at the nodes after the reduction. -/
theorem releaseGraph (g : BuildGraph nodes) (hnd : (nodes.map (·.nodeId)).Nodup)
    (hlate : ∀ n ∈ nodes, deterministicReduce.stage < n.kind.stage →
      Sole nodes n.kind n ∧ ReachesBack nodes n) : ReleaseGraph nodes where
  unique := by
    intro n hn m hm hkind hv
    have sole : ∀ {x}, Sole nodes n.kind x → n = m := fun hx =>
      (hx.unique n hn rfl).trans (hx.unique m hm hkind.symm).symm
    cases hk : n.kind with
    | sourceAdmission => exact sole (hk ▸ g.source_sole)
    | hostPrepare => exact sole (hk ▸ g.prepare_sole)
    | verification => exact absurd hk hv
    | releaseBuild => exact sole (hk ▸ g.build_sole)
    | deterministicReduce => exact sole (hk ▸ g.reduce_sole)
    | _ => exact sole (hlate n hn (by rw [hk]; decide)).1
  reachesBack := by
    intro n hn
    cases hk : n.kind with
    | sourceAdmission => exact fun m _ hlt => absurd hlt (by simp [hk, stage])
    | hostPrepare =>
      obtain rfl := g.prepare_sole.unique n hn hk
      exact reachesBack_of_chain g.source_sole hk g.prepare_depends
    | verification =>
      exact reachesBack_of_chain g.prepare_sole hk
        (g.verification_depends n (mem_byKind.mpr ⟨hn, hk⟩))
    | releaseBuild => rw [g.build_sole.unique n hn hk]; exact g.build_reachesBack
    | deterministicReduce => rw [g.reduce_sole.unique n hn hk]; exact g.reduce_reachesBack
    | _ => exact (hlate n hn (by rw [hk]; decide)).2
  prepared := ⟨g.prepare, g.prepare_sole.mem, g.prepare_sole.kind_eq⟩
  reduced := ⟨g.reduce, g.reduce_sole.mem, g.reduce_sole.kind_eq⟩
  sourceDepends := fun n hn hk => by rw [g.source_sole.unique n hn hk, g.source_depends]
  prepareDepends := by
    intro n hn hk m hm hmem
    rw [g.prepare_sole.unique n hn hk, g.prepare_depends, mem_singleton] at hmem
    rw [inj_on_of_nodup_map hnd hm g.source_sole.mem hmem, g.source_sole.kind_eq]
  serial := by
    intro n hn hk v hv hkv hmem
    rw [g.build_sole.unique n hn hk] at hmem
    rcases g.build_depends.2 v.nodeId hmem with h | ⟨x, hx, h⟩
    · have := inj_on_of_nodup_map hnd hv g.prepare_sole.mem h
      rw [this, g.prepare_sole.kind_eq] at hkv
      cases hkv
    · rw [inj_on_of_nodup_map hnd hv (sole_of_byKind hx).mem h]
      exact sole_of_byKind hx

end BuildGraph

/-- The executor's graph goes on to the release, through a backup and a migration if there are. -/
structure ExecutorGraph (nodes : List WorkflowNodeV1)
    (profiles : List WorkflowExecutionProfileV1) extends BuildGraph nodes where
  {reserve afterBackup afterMigration candidate cutover observe rollback : WorkflowNodeV1}
  reserve_sole : Sole nodes .resourceReservation reserve
  candidate_sole : Sole nodes .candidateHealth candidate
  cutover_sole : Sole nodes .cutover cutover
  observe_sole : Sole nodes .releasedObservation observe
  rollback_sole : Sole nodes .rollback rollback
  native_depends : ∀ q, profiles.find? (·.profileId = build.profileId) = some q →
    q.adapterId = .workerNativeReleaseBuildV1 →
      ∃ v, byKind nodes .verification = [v] ∧ v.nodeId ∈ build.dependsOn
  reserve_depends : reserve.dependsOn = [reduce.nodeId]
  backup_chain : (afterBackup = reserve ∧ ∀ n ∈ nodes, n.kind ≠ .backup) ∨
    (Sole nodes .backup afterBackup ∧ afterBackup.dependsOn = [reserve.nodeId])
  migration_chain : (afterMigration = afterBackup ∧ ∀ n ∈ nodes, n.kind ≠ .migration) ∨
    (Sole nodes .migration afterMigration ∧ afterMigration.dependsOn = [afterBackup.nodeId])
  candidate_depends : candidate.dependsOn = [afterMigration.nodeId]
  cutover_depends : cutover.dependsOn = [candidate.nodeId]
  observe_depends : observe.dependsOn = [cutover.nodeId]
  rollback_depends : rollback.dependsOn = [cutover.nodeId]

theorem validateExecutorMutationGraph_ok
    (h : validateExecutorMutationGraph nodes profiles = .ok u) : Nonempty (ExecutorGraph nodes profiles) := by
  simp only [validateExecutorMutationGraph, bind_ok_iff, ensure_ok_iff, each_ok_iff] at h
  obtain ⟨source, hsource, prepare, hprepare, build, hbuild, reduce, hreduce, reserve, hreserve,
    candidate, hcandidate, cutover, hcutover, observe, hobserve, rollback, hrollback, _, -,
    _, dsource, _, dprepare, _, dverification, profile, hprofile, _, dbuild, _, dreduce,
    _, dreserve, backup, hbackup, migration, hmigration, afterBackup, hafterBackup,
    afterMigration, hafterMigration, _, dcandidate, _, dcutover, _, dobserve, drollback⟩ := h
  exact ⟨{
    source_sole := exactlyOne_sole hsource
    prepare_sole := exactlyOne_sole hprepare
    build_sole := exactlyOne_sole hbuild
    reduce_sole := exactlyOne_sole hreduce
    reserve_sole := exactlyOne_sole hreserve
    candidate_sole := exactlyOne_sole hcandidate
    cutover_sole := exactlyOne_sole hcutover
    observe_sole := exactlyOne_sole hobserve
    rollback_sole := exactlyOne_sole hrollback
    source_depends := requireDependencies_ok dsource
    prepare_depends := requireDependencies_ok dprepare
    verification_depends := fun v hv => requireDependencies_ok (dverification v hv)
    build_depends := validateReleaseDependencies_ok dbuild
    native_depends := fun q hq hnative => by
      rw [require_ok_iff.mp hprofile] at hq
      cases hq
      exact validateReleaseDependencies_native hnative dbuild
    reduce_depends := by
      simp only [requireDependencies_ok dreduce, mem_sortIds, mem_append, mem_singleton]
      exact ⟨.inr trivial, fun v hv => .inl (mem_map_of_mem hv)⟩
    reserve_depends := requireDependencies_ok dreserve
    backup_chain := chainOptional_ok (atMostOne_ok hbackup) hafterBackup
    migration_chain := chainOptional_ok (atMostOne_ok hmigration) hafterMigration
    candidate_depends := requireDependencies_ok dcandidate
    cutover_depends := requireDependencies_ok dcutover
    observe_depends := requireDependencies_ok dobserve
    rollback_depends := requireDependencies_ok drollback }⟩

namespace ExecutorGraph

variable (g : ExecutorGraph nodes profiles)

/-- The migration, when there is one, reaches back through the backup, when there is one. -/
theorem migration_reachesBack (hs : Sole nodes .migration g.afterMigration)
    (hd : g.afterMigration.dependsOn = [g.afterBackup.nodeId]) :
    ReachesBack nodes g.afterMigration := by
  rcases g.backup_chain with ⟨hb, hnone⟩ | ⟨hb, -⟩
  · refine reachesBack_of_chain (hb ▸ g.reserve_sole) hs.kind_eq hd (by decide) fun m hm => ?_
    have := hnone m hm
    revert this
    cases m.kind <;> simp [stage]
  · exact reachesBack_of_chain hb hs.kind_eq hd

theorem candidate_reachesBack : ReachesBack nodes g.candidate := by
  have hk := g.candidate_sole.kind_eq
  rcases g.migration_chain with ⟨hm, hnone⟩ | ⟨hm, -⟩
  · rcases g.backup_chain with ⟨hb, hnone'⟩ | ⟨hb, -⟩
    · refine reachesBack_of_chain (hm ▸ hb ▸ g.reserve_sole) hk g.candidate_depends (by decide)
        fun m hm => ?_
      have h₁ := hnone m hm
      have h₂ := hnone' m hm
      revert h₁ h₂
      cases m.kind <;> simp [stage]
    · refine reachesBack_of_chain (hm ▸ hb) hk g.candidate_depends (by decide) fun m hm => ?_
      have h₁ := hnone m hm
      revert h₁
      cases m.kind <;> simp [stage]
  · exact reachesBack_of_chain hm hk g.candidate_depends

theorem releaseGraph (g : ExecutorGraph nodes profiles) (hnd : (nodes.map (·.nodeId)).Nodup) :
    ReleaseGraph nodes := by
  refine g.toBuildGraph.releaseGraph hnd fun n hn hlt => ?_
  have late : ∀ {k x}, n.kind = k → Sole nodes k x → ReachesBack nodes x →
      Sole nodes n.kind n ∧ ReachesBack nodes n := by
    rintro k x rfl hx hback
    obtain rfl := hx.unique n hn rfl
    exact ⟨hx, hback⟩
  cases hk : n.kind with
  | resourceReservation =>
    exact hk ▸ late hk g.reserve_sole
      (reachesBack_of_chain g.reduce_sole g.reserve_sole.kind_eq g.reserve_depends)
  | backup =>
    rcases g.backup_chain with ⟨-, h⟩ | ⟨hs, hd⟩
    · exact absurd hk (h n hn)
    · exact hk ▸ late hk hs (reachesBack_of_chain g.reserve_sole hs.kind_eq hd)
  | migration =>
    rcases g.migration_chain with ⟨-, h⟩ | ⟨hs, hd⟩
    · exact absurd hk (h n hn)
    · exact hk ▸ late hk hs (g.migration_reachesBack hs hd)
  | candidateHealth => exact hk ▸ late hk g.candidate_sole g.candidate_reachesBack
  | cutover =>
    exact hk ▸ late hk g.cutover_sole
      (reachesBack_of_chain g.candidate_sole g.cutover_sole.kind_eq g.cutover_depends)
  | releasedObservation =>
    exact hk ▸ late hk g.observe_sole
      (reachesBack_of_chain g.cutover_sole g.observe_sole.kind_eq g.observe_depends)
  | rollback =>
    exact hk ▸ late hk g.rollback_sole
      (reachesBack_of_chain g.cutover_sole g.rollback_sole.kind_eq g.rollback_depends)
  | _ => exact absurd hlt (by rw [hk]; decide)

end ExecutorGraph

end Executor

/-! ### The self-update graph -/

section Handoff

variable {profiles : List WorkflowExecutionProfileV1}

/-- The graph of a self-update: five nodes, the build after the verification. -/
structure HandoffGraph (nodes : List WorkflowNodeV1) extends BuildGraph nodes where
  {verification : WorkflowNodeV1}
  length_eq : nodes.length = 5
  verification_sole : Sole nodes .verification verification
  build_after : verification.nodeId ∈ build.dependsOn

theorem validateSelfUpdateHandoffGraph_ok
    (h : validateSelfUpdateHandoffGraph nodes profiles = .ok u) : Nonempty (HandoffGraph nodes) := by
  simp only [validateSelfUpdateHandoffGraph, ok_iff] at h
  obtain ⟨_, hlength, source, hsource, prepare, hprepare, verification, hverification, build,
    hbuild, reduce, hreduce, profile, -, _, -, _, dsource, _, dprepare, _, dverification, _, dbuild,
    dreduce⟩ := h
  have hsole := exactlyOne_ok hverification
  exact ⟨{
    length_eq := hlength
    source_sole := exactlyOne_sole hsource
    prepare_sole := exactlyOne_sole hprepare
    verification_sole := sole_of_byKind hsole
    build_sole := exactlyOne_sole hbuild
    reduce_sole := exactlyOne_sole hreduce
    source_depends := requireDependencies_ok dsource
    prepare_depends := requireDependencies_ok dprepare
    verification_depends := by
      simpa only [hsole, forall_mem_singleton] using requireDependencies_ok dverification
    build_depends := by
      simp [requireDependencies_ok dbuild, mem_sortIds, hsole]
    build_after := by simp [requireDependencies_ok dbuild, mem_sortIds]
    reduce_depends := by
      simp [requireDependencies_ok dreduce, mem_sortIds, hsole] }⟩

namespace HandoffGraph

theorem stage_le (g : HandoffGraph nodes) (hn : n ∈ nodes) : n.kind.stage ≤ deterministicReduce.stage := by
  have hnodup : [g.source, g.prepare, g.verification, g.build, g.reduce].Nodup := by
    refine List.Nodup.of_map (·.kind) ?_
    simp [g.source_sole.kind_eq, g.prepare_sole.kind_eq, g.verification_sole.kind_eq,
      g.build_sole.kind_eq, g.reduce_sole.kind_eq]
  have hsub : [g.source, g.prepare, g.verification, g.build, g.reduce] ⊆ nodes := by
    simp [g.source_sole.mem, g.prepare_sole.mem, g.verification_sole.mem, g.build_sole.mem,
      g.reduce_sole.mem]
  have hperm := (subperm_of_subset hnodup hsub).perm_of_length_le (by simp [g.length_eq])
  have hmem := hperm.mem_iff.mpr hn
  simp only [mem_cons, not_mem_nil, or_false] at hmem
  rcases hmem with rfl | rfl | rfl | rfl | rfl
  · rw [g.source_sole.kind_eq]; decide
  · rw [g.prepare_sole.kind_eq]; decide
  · rw [g.verification_sole.kind_eq]; decide
  · rw [g.build_sole.kind_eq]; decide
  · rw [g.reduce_sole.kind_eq]

theorem releaseGraph (g : HandoffGraph nodes) (hnd : (nodes.map (·.nodeId)).Nodup) :
    ReleaseGraph nodes :=
  g.toBuildGraph.releaseGraph hnd fun _ hn hlt => absurd (g.stage_le hn) hlt.not_ge

end HandoffGraph

end Handoff

/-! ### What a validated policy is -/

section Collect

variable {profiles : List WorkflowExecutionProfileV1}

theorem perm_append_cons_of_orderedInsert {α : Type} {r : α → α → Prop} [DecidableRel r]
    {x : α} {out seen rest : List α} (h : out.Perm (seen.orderedInsert r x ++ rest)) :
    out.Perm (seen ++ x :: rest) :=
  h.trans (((perm_orderedInsert r x seen).append_right rest).trans perm_middle.symm)

theorem nodup_map_orderedInsert {α κ : Type} {r : α → α → Prop} [DecidableRel r] {f : α → κ}
    {x : α} {seen : List α} (hnd : (seen.map f).Nodup) (hx : f x ∉ seen.map f) :
    ((seen.orderedInsert r x).map f).Nodup := by
  have hperm := (perm_orderedInsert r x seen).map f
  exact hperm.nodup_iff.mpr (nodup_cons.mpr ⟨hx, hnd⟩)

theorem collectProfiles_ok {seen ps out : List WorkflowExecutionProfileV1}
    (h : collectProfiles seen ps = .ok out) (hnd : (seen.map (·.profileId)).Nodup) :
    out.Perm (seen ++ ps) ∧ (out.map (·.profileId)).Nodup ∧ ∀ p ∈ ps, p.validate = .ok () := by
  induction ps generalizing seen with
  | nil =>
    cases h
    exact ⟨by simp, hnd, by simp⟩
  | cons p ps ih =>
    simp only [collectProfiles, ok_iff] at h
    obtain ⟨_, hp, _, hfresh, h⟩ := h
    obtain ⟨hperm, hout, hall⟩ := ih h (nodup_map_orderedInsert hnd hfresh)
    exact ⟨perm_append_cons_of_orderedInsert hperm, hout, forall_mem_cons.mpr ⟨hp, hall⟩⟩

/-- The checks of a node against its profile. -/
def FitsProfile (profiles : List WorkflowExecutionProfileV1) (n : WorkflowNodeV1) : Prop :=
  ∃ q, profiles.find? (·.profileId = n.profileId) = some q ∧
    q.adapterId ∈ n.kind.expectedAdapter ∧ n.kind.expectedPool = q.workerPool ∧
    profileMatchesKind q n.kind = true

theorem collectNodes_ok {seen ns : List WorkflowNodeV1}
    (h : collectNodes profiles seen ns = .ok out) (hnd : (seen.map (·.nodeId)).Nodup) :
    out.Perm (seen ++ ns) ∧ (out.map (·.nodeId)).Nodup ∧
      ∀ n ∈ ns, n.validateLocal = .ok () ∧ FitsProfile profiles n := by
  induction ns generalizing seen with
  | nil =>
    cases h
    exact ⟨by simp, hnd, by simp⟩
  | cons n ns ih =>
    simp only [collectNodes, ok_iff] at h
    obtain ⟨_, hlocal, q, hq, _, hfits, _, hfresh, h⟩ := h
    obtain ⟨hperm, hout, hall⟩ := ih h (nodup_map_orderedInsert hnd hfresh)
    exact ⟨perm_append_cons_of_orderedInsert hperm, hout,
      forall_mem_cons.mpr ⟨⟨hlocal, q, hq, hfits⟩, hall⟩⟩

theorem expectedInputs_ok {inputs : List WorkflowArtifactKindV1}
    (h : expectedInputs nodes n ids = .ok inputs) :
    (∀ d ∈ ids, ∃ m ∈ nodes, m.nodeId = d) ∧
      ∀ c ∈ inputs, ∃ m ∈ nodes, m.nodeId ∈ ids ∧ m.outputContract = c := by
  induction ids generalizing inputs with
  | nil =>
    cases h
    simp
  | cons d ids ih =>
    simp only [expectedInputs, ok_iff] at h
    obtain ⟨m, hm, rest, hrest, h⟩ := h
    cases h
    obtain ⟨hdeps, hins⟩ := ih hrest
    have hmem := mem_of_find?_eq_some hm
    have hid : m.nodeId = d := by simpa using find?_some hm
    refine ⟨forall_mem_cons.mpr ⟨⟨m, hmem, hid⟩, hdeps⟩,
      forall_mem_cons.mpr ⟨⟨m, hmem, by simp [hid], rfl⟩, ?_⟩⟩
    intro c hc
    obtain ⟨x, hx, hxd, hxc⟩ := hins c hc
    exact ⟨x, hx, mem_cons_of_mem _ hxd, hxc⟩

theorem validateContracts_ok (h : validateContracts nodes n = .ok u) :
    (∀ d ∈ n.dependsOn, ∃ m ∈ nodes, m.nodeId = d) ∧
      ∀ c ∈ n.inputContracts, ∃ m ∈ nodes, m.nodeId ∈ n.dependsOn ∧ m.outputContract = c := by
  simp only [validateContracts, ok_iff] at h
  obtain ⟨inputs, hin, hsame⟩ := h
  obtain ⟨hdeps, hins⟩ := expectedInputs_ok hin
  refine ⟨hdeps, fun c hc => hins c ?_⟩
  simp only [sameSet, Bool.and_eq_true, all_eq_true, decide_eq_true_eq] at hsame
  exact hsame.1 c hc

end Collect

/-- What `validate` establishes about a policy. -/
structure WorkflowPolicyV1.Lawful (p : WorkflowPolicyV1) : Prop where
  nodes_le : p.nodes.length ≤ 64
  profile_valid : ∀ q ∈ p.executionProfiles, q.validate = .ok ()
  nodes_nodup : (p.nodes.map (·.nodeId)).Nodup
  validLocal : ∀ n ∈ p.nodes, n.validateLocal = .ok ()
  fitsProfile : ∀ n ∈ p.nodes, FitsProfile p.executionProfiles n
  dependency : ∀ n ∈ p.nodes, ∀ d ∈ n.dependsOn, ∃ m ∈ p.nodes, m.nodeId = d
  input : ∀ n ∈ p.nodes, ∀ c ∈ n.inputContracts,
    ∃ m ∈ p.nodes, m.nodeId ∈ n.dependsOn ∧ m.outputContract = c
  graph : ReleaseGraph p.nodes
  /-- A native build depends on a verification. -/
  native : ∀ b ∈ p.nodes, b.kind = .releaseBuild → ∀ q, p.profile b.profileId = some q →
    q.adapterId = .workerNativeReleaseBuildV1 →
      ∃ v ∈ p.nodes, v.kind = .verification ∧ v.nodeId ∈ b.dependsOn
  /-- A self-update has no mutation; its build depends on its verification. -/
  handoff_kind : p.deliveryMode = .selfUpdateHandoff → ∀ n ∈ p.nodes,
    n.kind.stage ≤ deterministicReduce.stage
  handoff_build : p.deliveryMode = .selfUpdateHandoff → ∀ b ∈ p.nodes, b.kind = .releaseBuild →
    ∀ v ∈ p.nodes, v.kind = .verification → v.nodeId ∈ b.dependsOn

theorem ReleaseGraph.of_perm {nodes' : List WorkflowNodeV1} (h : nodes.Perm nodes')
    (g : ReleaseGraph nodes) : ReleaseGraph nodes' := by
  have hmem : ∀ n, n ∈ nodes' ↔ n ∈ nodes := fun n => h.mem_iff.symm
  constructor
  · simpa only [hmem] using g.unique
  · intro n hn m hm hlt
    obtain ⟨d, hd, hrest⟩ := g.reachesBack n ((hmem n).mp hn) m ((hmem m).mp hm) hlt
    exact ⟨d, (hmem d).mpr hd, hrest⟩
  · simpa only [hmem] using g.prepared
  · simpa only [hmem] using g.reduced
  · simpa only [hmem] using g.sourceDepends
  · simpa only [hmem] using g.prepareDepends
  · intro n hn hk v hv hkv hd
    obtain ⟨hv', hk', hu⟩ := g.serial n ((hmem n).mp hn) hk v ((hmem v).mp hv) hkv hd
    exact ⟨hv, hk', fun m hm => hu m ((hmem m).mp hm)⟩

theorem WorkflowPolicyV1.lawful (h : p.validate = .ok ()) : p.Lawful := by
  simp only [validate, ok_iff, each_ok_iff] at h
  obtain ⟨_, -, _, hbounds, profiles, hprofiles, nodes, hnodes, _, hcontracts, _, -, hmode⟩ := h
  obtain ⟨hpperm, hpnd, hpvalid⟩ := collectProfiles_ok hprofiles nodup_nil
  obtain ⟨hnperm, hnnd, hnvalid⟩ := collectNodes_ok hnodes nodup_nil
  rw [nil_append] at hpperm hnperm
  have hmem : ∀ n, n ∈ nodes ↔ n ∈ p.nodes := fun n => hnperm.mem_iff
  have hfind : ∀ k, profiles.find? (·.profileId = k) = p.profile k := by
    intro k
    have hnd := (hpperm.map (·.profileId)).nodup_iff.mp hpnd
    refine Option.ext fun q => ?_
    rw [find?_key_eq_some_iff hpnd, profile, find?_key_eq_some_iff hnd, hpperm.mem_iff]
  have base : ReleaseGraph nodes →
      (∀ b ∈ nodes, b.kind = .releaseBuild → ∀ q, p.profile b.profileId = some q →
        q.adapterId = .workerNativeReleaseBuildV1 →
          ∃ v ∈ nodes, v.kind = .verification ∧ v.nodeId ∈ b.dependsOn) →
      (p.deliveryMode = .selfUpdateHandoff → (∀ n ∈ nodes,
        n.kind.stage ≤ deterministicReduce.stage) ∧
        ∀ b ∈ nodes, b.kind = .releaseBuild → ∀ v ∈ nodes, v.kind = .verification →
          v.nodeId ∈ b.dependsOn) → p.Lawful := by
    intro hgraph hnative hhandoff
    simp only [hmem] at hnative hhandoff
    exact {
      nodes_le := hbounds.2.2.2
      profile_valid := hpvalid
      nodes_nodup := (hnperm.map (·.nodeId)).nodup_iff.mp hnnd
      validLocal := fun n hn => (hnvalid n hn).1
      fitsProfile := fun n hn => by
        obtain ⟨q, hq, hrest⟩ := (hnvalid n hn).2
        exact ⟨q, (hfind _).symm.trans hq, hrest⟩
      dependency := fun n hn => by
        simpa only [hmem] using (validateContracts_ok (hcontracts n hn)).1
      input := fun n hn => by
        simpa only [hmem] using (validateContracts_ok (hcontracts n hn)).2
      graph := hgraph.of_perm hnperm
      native := hnative
      handoff_kind := fun hm => (hhandoff hm).1
      handoff_build := fun hm => (hhandoff hm).2 }
  split at hmode
  · rename_i hd
    obtain ⟨g⟩ := validateExecutorMutationGraph_ok hmode
    refine base (g.releaseGraph hnnd) ?_ (fun h => by rw [hd] at h; cases h)
    intro b hb hk q hq hnative
    obtain rfl := g.build_sole.unique b hb hk
    obtain ⟨v, hv, hdep⟩ := g.native_depends q ((hfind _).trans hq) hnative
    exact ⟨v, (sole_of_byKind hv).mem, (sole_of_byKind hv).kind_eq, hdep⟩
  · obtain ⟨g⟩ := validateSelfUpdateHandoffGraph_ok hmode
    have hbuild : ∀ b ∈ nodes, b.kind = .releaseBuild → ∀ v ∈ nodes, v.kind = .verification →
        v.nodeId ∈ b.dependsOn := by
      intro b hb hk v hv hkv
      obtain rfl := g.build_sole.unique b hb hk
      obtain rfl := g.verification_sole.unique v hv hkv
      exact g.build_after
    refine base (g.releaseGraph hnnd) ?_ (fun _ => ⟨fun n => g.stage_le, hbuild⟩)
    intro b hb hk _ _ _
    exact ⟨g.verification, g.verification_sole.mem, g.verification_sole.kind_eq,
      hbuild b hb hk _ g.verification_sole.mem g.verification_sole.kind_eq⟩

theorem WorkflowPolicyV1.orderedLoop_ok {byId : List WorkflowNodeV1} {turns : Nat}
    (h : orderedLoop byId turns ordered = .ok out) (hnd : (ordered.map (·.nodeId)).Nodup)
    (hmem : ∀ x ∈ ordered, x ∈ byId) :
    out.length = ordered.length + turns ∧ (out.map (·.nodeId)).Nodup ∧ ∀ x ∈ out, x ∈ byId := by
  induction turns generalizing ordered with
  | zero =>
    cases h
    exact ⟨rfl, hnd, hmem⟩
  | succ turns ih =>
    simp only [orderedLoop, ok_iff] at h
    obtain ⟨x, hx, hrest⟩ := h
    have hfresh : x.nodeId ∉ ordered.map (·.nodeId) := by
      have := find?_some hx
      simp only [emittable, Bool.and_eq_true, decide_eq_true_eq] at this
      exact this.1
    obtain ⟨hlen, hout⟩ := ih hrest
      (by rw [map_append, map_singleton, ← concat_eq_append]; exact hnd.concat hfresh)
      (fun y hy => by
        rcases mem_append.mp hy with hy | hy
        · exact hmem y hy
        · rw [mem_singleton.mp hy]
          exact mem_of_find?_eq_some hx)
    refine ⟨?_, hout⟩
    rw [hlen, length_append, length_singleton]
    omega

theorem WorkflowPolicyV1.orderedNodes_perm (h : p.orderedNodes = .ok ordered) :
    ordered.Perm p.nodes := by
  obtain ⟨hlen, hnd, hmem⟩ := orderedLoop_ok h nodup_nil (by simp)
  refine (subperm_of_subset (.of_map _ hnd) fun x hx => ?_).perm_of_length_le (by simp [hlen])
  exact (mem_insertionSort _).mp (hmem x hx)

namespace WorkflowPolicyV1.Lawful

variable (hp : p.Lawful) {m : WorkflowNodeV1} {k : WorkflowNodeId}

include hp

theorem node_eq_some_iff : p.node k = some n ↔ n ∈ p.nodes ∧ n.nodeId = k :=
  find?_key_eq_some_iff hp.nodes_nodup

/-- What holds of the dependencies of a node, and passes from a node to its dependencies, holds
of every node of an earlier stage. -/
theorem earlier_of_dependencies {S : WorkflowNodeV1 → Prop}
    (hclosed : ∀ n ∈ p.nodes, S n → ∀ m ∈ p.nodes, m.nodeId ∈ n.dependsOn → S m)
    (hn : n ∈ p.nodes) (hdeps : ∀ m ∈ p.nodes, m.nodeId ∈ n.dependsOn → S m)
    (hm : m ∈ p.nodes) (hlt : m.kind.stage < n.kind.stage) : S m := by
  induction hs : n.kind.stage using Nat.strong_induction_on generalizing n with
  | _ stage ih =>
    obtain ⟨d, hd, hdn, hdlt, rfl | hmd⟩ := hp.graph.reachesBack n hn m hm hlt
    · exact hdeps d hd hdn
    · exact ih d.kind.stage (hs ▸ hdlt) hd (hclosed d hd (hdeps d hd hdn)) hmd rfl

/-- Only the rollback waits for a failure. -/
theorem activation_eq (hn : n ∈ p.nodes) :
    n.activation = if n.kind = .rollback then .onMutationFailure else .always := by
  have h := hp.validLocal n hn
  simp only [WorkflowNodeV1.validateLocal, ok_iff] at h
  obtain ⟨_, -, _, -, _, h, -⟩ := h
  exact h

theorem outputContract_eq (hn : n ∈ p.nodes) : n.outputContract = n.kind.expectedOutput := by
  have h := hp.validLocal n hn
  simp only [WorkflowNodeV1.validateLocal, ok_iff] at h
  obtain ⟨_, -, _, h, -⟩ := h
  exact h

end WorkflowPolicyV1.Lawful

theorem ValidManifest.lawful (m : ValidManifest) : m.1.workflow.Lawful :=
  WorkflowPolicyV1.lawful m.workflow_validate

end Rdashboard
