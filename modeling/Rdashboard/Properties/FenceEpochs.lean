import Rdashboard.Properties.PhaseOrder
import Rdashboard.Security.Fencing

/-! # Fencing epochs

The epochs that the store hands out only grow.  Among the fences of one project this holds in
every run; over all journals it holds as long as the foreign fences that are recorded claim no
epoch that has not been handed out: their epochs do not reach the counter. -/

namespace Rdashboard

open Relational SecurityStore List

/-- The fence `r` comes before `s`: if they are fences of one project then `r` is released, and `s`
has a larger epoch unless it may be foreign. -/
def FenceLease.Precedes (r s : FenceLease) : Prop :=
  r.projectId = s.projectId → r.state = .released ∧ (s.state ≠ .needsReconcile → r.epoch < s.epoch)

/-- The epochs of the journals against the counter, and against each other. -/
structure FenceBook.Ordered (F : FenceBook) : Prop where
  fences_le : ∀ r ∈ F.fences, r.state ≠ .needsReconcile → r.epoch ≤ F.counter
  drains_le : ∀ d ∈ F.drains, d.epoch ≤ F.counter
  boundaries_le : ∀ e ∈ F.boundaries, e ≤ F.counter
  order : F.fences.Pairwise FenceLease.Precedes
  reserved : ∀ d ∈ F.drains, d.state = .reserved → ∀ r ∈ F.fences, r.projectId = d.projectId →
    r.state ≠ .needsReconcile → r.epoch < d.epoch

namespace FenceBook.Ordered

variable {codec : Codec} {op : SecurityOperation} {S : SecurityStore} {F F' : FenceBook}
  {p : ProjectId}

theorem empty : SecurityStore.empty.fencing.Ordered where
  fences_le := by rintro r ⟨⟩
  drains_le := by rintro d ⟨⟩
  boundaries_le := by rintro e ⟨⟩
  order := .nil
  reserved := by rintro d ⟨⟩

theorem tick (h : F.Ordered) : { F with counter := F.counter + 1 }.Ordered where
  fences_le r hr hs := Nat.le_succ_of_le (h.fences_le r hr hs)
  drains_le d hd := Nat.le_succ_of_le (h.drains_le d hd)
  boundaries_le e he := Nat.le_succ_of_le (h.boundaries_le e he)
  order := h.order
  reserved := h.reserved

theorem append {r : FenceLease} (h : F.Ordered)
    (hreleased : ∀ s ∈ F.fences, s.projectId = r.projectId → s.state = .released)
    (hle : r.state ≠ .needsReconcile → r.epoch ≤ F.counter)
    (hlt : r.state ≠ .needsReconcile → ∀ s ∈ F.fences, s.projectId = r.projectId → s.epoch < r.epoch)
    (hdrain : r.state ≠ .needsReconcile → ∀ d ∈ F.drains, d.state = .reserved →
      r.projectId = d.projectId → r.epoch < d.epoch) :
    { F with fences := F.fences ++ [r] }.Ordered where
  fences_le := forall_mem_append.mpr ⟨h.fences_le, forall_mem_singleton.mpr hle⟩
  drains_le := h.drains_le
  boundaries_le := h.boundaries_le
  order := by
    refine pairwise_append.mpr ⟨h.order, pairwise_singleton _ _, fun s hs r' hr' hp => ?_⟩
    cases mem_singleton.mp hr'
    exact ⟨hreleased s hs hp, fun hstate => hlt hstate s hs hp⟩
  reserved d hd hreserved := forall_mem_append.mpr ⟨h.reserved d hd hreserved,
    forall_mem_singleton.mpr fun hp hstate => hdrain hstate d hd hreserved hp⟩

/-- Rows that make a transition. -/
theorem shift (h : S.fencing.Ordered) {g : FenceLease → FenceLease}
    (hg : ∀ r ∈ S.fences.rows, FenceTransition codec S op r (g r)) :
    { S.fencing with fences := S.fences.rows.map g }.Ordered where
  fences_le := forall_mem_map.mpr fun r hr hstate => by
    rw [(hg r hr).columns.2.2.2.1]
    exact h.fences_le r hr fun hs => hstate (by rw [(hg r hr).of_needsReconcile hs, hs])
  drains_le := h.drains_le
  boundaries_le := h.boundaries_le
  order := by
    refine pairwise_map.mpr (h.order.imp_of_mem fun {r s} hr hs hrs hp => ?_)
    rw [(hg r hr).columns.2.1, (hg s hs).columns.2.1] at hp
    obtain ⟨hreleased, hlt⟩ := hrs hp
    rw [(hg r hr).of_released hreleased, (hg s hs).columns.2.2.2.1]
    exact ⟨hreleased, fun hstate =>
      hlt fun hs' => hstate (by rw [(hg s hs).of_needsReconcile hs', hs'])⟩
  reserved d hd hreserved := forall_mem_map.mpr fun r hr hp hstate => by
    rw [(hg r hr).columns.2.1] at hp
    rw [(hg r hr).columns.2.2.2.1]
    exact h.reserved d hd hreserved r hr hp
      fun hs => hstate (by rw [(hg r hr).of_needsReconcile hs, hs])

theorem promote {d : DrainIdentityRow} {t : Int} (h : S.fencing.Ordered) :
    { S.fencing with drains := S.drains.rows.map (promoted d.journalId t) }.Ordered where
  fences_le := h.fences_le
  drains_le := forall_mem_map.mpr fun d' hd' => by
    rw [(promoted_columns _ _ _).1]
    exact h.drains_le d' hd'
  boundaries_le := h.boundaries_le
  order := h.order
  reserved := forall_mem_map.mpr fun d' hd' hs r hr hp => by
    rw [(promoted_columns _ _ _).2] at hp
    rw [(promoted_columns _ _ _).1]
    exact h.reserved d' hd' (promoted_reserved hs).1 r hr hp

theorem step (h : S.fencing.Ordered) (hstep : FencingStep codec S op F') : F'.Ordered := by
  cases hstep with
  | bound =>
    exact { h.tick with
      boundaries_le := forall_mem_append.mpr
        ⟨h.tick.boundaries_le, forall_mem_singleton.mpr le_rfl⟩ }
  | drain hfence hp he =>
    exact { h.tick with
      drains_le := forall_mem_append.mpr ⟨h.tick.drains_le, forall_mem_singleton.mpr he.le⟩
      reserved := forall_mem_append.mpr ⟨h.reserved, forall_mem_singleton.mpr fun _ r hr _ hs =>
        he ▸ Nat.lt_succ_of_le (h.fences_le r hr hs)⟩ }
  | @promote p a token t d n hfence hd hp hs =>
    have hreleased := loadActiveFence_eq_none_iff.mp hfence
    refine append h.promote hreleased (fun _ => h.drains_le d hd) (fun _ s hs' hproject => ?_)
      fun _ d' hd' hs' hproject => ?_
    · exact h.reserved d hd hs s hs' (hproject.trans hp.symm) (by rw [hreleased s hs' hproject]; simp)
    · obtain ⟨d', hmem, rfl⟩ := mem_map.mp hd'
      obtain ⟨hreserved, hid⟩ := promoted_reserved hs'
      rw [(promoted_columns _ _ _).2] at hproject
      -- a project has at most one reserved drain identity
      have hne : d' ≠ d := fun heq => hid (congrArg (·.journalId) heq)
      exact ((decide_eq_true_eq.mp (Table.distinct_of_ne hmem hd hne)).2.2.2
        ⟨hreserved, hs, hproject.symm.trans hp.symm⟩).elim
  | allocate hfence hdrain =>
    have hreleased := loadActiveFence_eq_none_iff.mp hfence
    refine append h.tick hreleased
      (fun _ => le_rfl) (fun _ s hs hproject => ?_) fun _ d hd hs hproject => ?_
    · exact Nat.lt_succ_of_le (h.fences_le s hs (by rw [hreleased s hs hproject]; simp))
    · exact absurd hs (loadActiveDrainIdentity_eq_none_iff.mp hdrain d hd hproject.symm)
  | foreign hfence =>
    exact h.append (loadActiveFence_eq_none_iff.mp hfence) (absurd rfl) (absurd rfl) (absurd rfl)
  | shift hg => exact h.shift hg

end FenceBook.Ordered

namespace SecurityStore

variable {codec : Codec} {guard : SecurityStore → SecurityOperation → Prop} {S : SecurityStore}

/-- The epochs are ordered in every store that is reached. -/
theorem ReachableBy.ordered (h : ReachableBy codec guard S) : S.fencing.Ordered := by
  refine Reaches.invariant (I := fun S : SecurityStore => S.fencing.Ordered) .empty
    (fun S op _ hS _ => ?_) h
  have hstep : Refences codec op S (step codec op S) := fencing_step op S
  rcases hstep with hsame | hstep
  · rw [hsame]
    exact hS
  · exact hS.step hstep

/-- The epochs recorded in the three journals. -/
def recordedEpochs (S : SecurityStore) : List Nat :=
  S.fences.rows.map (·.epoch) ++ S.drains.rows.map (·.epoch) ++ S.boundaries.rows.map (·.epoch)

/-- A foreign fence that is recorded claims an epoch that has been handed out. -/
def KnownForeignEpochs (S : SecurityStore) (op : SecurityOperation) : Prop :=
  ∀ p a epoch token t, op = .reconcileFence p (.held a epoch token) t → S.loadActiveFence p = none →
    epoch ≤ S.fenceEpoch

/-- Under that guard every epoch of the fence journal has been handed out. -/
theorem ReachableBy.known (h : ReachableBy codec KnownForeignEpochs S) :
    ∀ r ∈ S.fences.rows, r.epoch ≤ S.fenceEpoch := by
  refine Reaches.invariant (I := fun S : SecurityStore => ∀ r ∈ S.fencing.fences,
    r.epoch ≤ S.fencing.counter) (by rintro r ⟨⟩) (fun S op hreach hS hguard => ?_) h
  have hordered : S.fencing.Ordered := ordered hreach
  have hstep : Refences codec op S (step codec op S) := fencing_step op S
  rcases hstep with hsame | hstep
  · rw [hsame]
    exact hS
  have happend : ∀ {r : FenceLease} {n : Nat}, S.fenceEpoch ≤ n → r.epoch ≤ n →
      ∀ s ∈ S.fences.rows ++ [r], s.epoch ≤ n := fun hn hr =>
    forall_mem_append.mpr ⟨fun s hs => (hS s hs).trans hn, forall_mem_singleton.mpr hr⟩
  generalize (step codec op S).fencing = F at hstep
  cases hstep with
  | bound => exact fun r hr => Nat.le_succ_of_le (hS r hr)
  | drain => exact fun r hr => Nat.le_succ_of_le (hS r hr)
  | promote hfence hd => exact happend le_rfl (hordered.drains_le _ hd)
  | allocate => exact happend (Nat.le_succ _) le_rfl
  | foreign hfence => exact happend le_rfl (hguard _ _ _ _ _ rfl hfence)
  | shift hg =>
    refine forall_mem_map.mpr fun r hr => ?_
    rw [(hg r hr).columns.2.2.2.1]
    exact hS r hr

theorem ReachableBy.recorded_le (h : ReachableBy codec KnownForeignEpochs S) :
    ∀ e ∈ S.recordedEpochs, e ≤ S.fenceEpoch := by
  intro e he
  simp only [recordedEpochs, mem_append, mem_map] at he
  rcases he with (⟨r, hr, rfl⟩ | ⟨d, hd, rfl⟩) | he
  · exact h.known r hr
  · exact h.ordered.drains_le d hd
  · exact h.ordered.boundaries_le e (mem_map.mpr he)

/-- A new fence of a project has a larger epoch than all the earlier ones. -/
theorem ReachableBy.fence_newest {p : ProjectId} {a : Uuid} {token : FreshUuid} {t : Int}
    {lease : FenceLease} {S' : SecurityStore} (h : ReachableBy codec guard S)
    (hlease : beginFenceAcquire codec p a token t S = (.ok lease, S'))
    (hfence : S.loadActiveFence p = none) :
    ∀ r ∈ S.fences.rows, r.projectId = p → r.epoch < lease.epoch := by
  intro r hr hp
  have hreleased := loadActiveFence_eq_none_iff.mp hfence r hr hp
  have hstate : r.state ≠ .needsReconcile := by rw [hreleased]; simp
  rcases beginFenceAcquire_ok hlease with ⟨hactive, -⟩ | ⟨-, ⟨d, hd, _, _, _, -, hproject, hs, rfl, -⟩ |
    ⟨-, _, _, rfl, -⟩⟩
  · rw [hfence] at hactive
    cases hactive
  · exact h.ordered.reserved d hd hs r hr (hp.trans hproject.symm) hstate
  · exact Nat.lt_succ_of_le (h.ordered.fences_le r hr hstate)

end SecurityStore

/-- In every run in which the recorded foreign fences claim epochs that have been handed out, a
newly allocated epoch is larger than every recorded one, and a promoted fence keeps the epoch and
token of its drain identity; the fences of one project have growing epochs. -/
theorem epochs_move_forward {codec : Codec} {S : SecurityStore}
    (h : ReachableBy codec (Effective (step codec) KnownForeignEpochs) S) (p : ProjectId) (a : Uuid)
    (token : FreshUuid) (t : Int) :
    (∀ lease S', beginBackupBoundary codec p a token t S = (.ok lease, S') →
      S.loadActiveBackupBoundary p = none → ∀ e ∈ S.recordedEpochs, e < lease.epoch) ∧
    (∀ lease S', beginDrainIdentity codec p a token t S = (.ok lease, S') →
      S.loadActiveDrainIdentity p = none → ∀ e ∈ S.recordedEpochs, e < lease.epoch) ∧
    ∀ lease S', beginFenceAcquire codec p a token t S = (.ok lease, S') →
      S.loadActiveFence p = none →
      (∀ d, S.loadActiveDrainIdentity p = some d → lease.epoch = d.epoch ∧ lease.token = d.token) ∧
      (S.loadActiveDrainIdentity p = none → ∀ e ∈ S.recordedEpochs, e < lease.epoch) ∧
      ∀ r ∈ S.fences.rows, r.projectId = p → r.epoch < lease.epoch := by
  have h : ReachableBy codec KnownForeignEpochs S := Reaches.of_effective h
  have hnew : ∀ {n}, n = S.fenceEpoch + 1 → ∀ e ∈ S.recordedEpochs, e < n :=
    fun hn e he => hn ▸ Nat.lt_succ_of_le (h.recorded_le e he)
  refine ⟨fun lease S' hlease hnone => ?_, fun lease S' hlease hnone => ?_,
    fun lease S' hlease hnone => ?_⟩
  · rcases beginBackupBoundary_ok hlease with ⟨hsome, -⟩ | ⟨-, _, _, rfl, -⟩
    · rw [hnone] at hsome
      cases hsome
    · exact hnew rfl
  · rcases beginDrainIdentity_ok hlease with ⟨hsome, -⟩ | ⟨-, _, _, rfl, -⟩
    · rw [hnone] at hsome
      cases hsome
    · exact hnew rfl
  · have hnewest := h.fence_newest hlease hnone
    rcases beginFenceAcquire_ok hlease with ⟨hsome, -⟩ | ⟨-, ⟨d', -, _, _, _, hd', -, -, rfl, -⟩ |
      ⟨hd', _, _, rfl, -⟩⟩
    · rw [hnone] at hsome
      cases hsome
    · refine ⟨fun d hd => ?_, fun hdrain => ?_, hnewest⟩
      · rw [hd] at hd'
        cases hd'
        exact ⟨rfl, rfl⟩
      · rw [hdrain] at hd'
        cases hd'
    · refine ⟨fun d hd => ?_, fun _ => hnew rfl, hnewest⟩
      rw [hd] at hd'
      cases hd'

namespace SecuritySample

def other : ProjectId := ⟨"q", by decide +kernel⟩

def stateful : ExecutorPhasePlan := ⟨statefulPhases, true⟩

def token : FreshUuid := ⟨9, by decide +kernel⟩

/-- A stateful deployment whose base backup is committed. -/
def backedUp : List SecurityOperation :=
  .authorizeAttempt (authorization 1) 0 :: .acquireResource (.projectDeploy project) 1 ::
    (statefulPhases.take 7).flatMap fun phase => execute 1 stateful ⟨.primary, phase⟩

/-- A fence with the epoch 5 is found at another project. -/
def overtaken : SecurityStore :=
  runAll (step codec) empty (backedUp ++ [.reconcileFence other (.held 7 5 7) 0])

/-- The drain identity that is allocated next has the epoch 1. -/
theorem overtaken_drain : Reachable codec overtaken ∧ ∃ lease S',
    beginDrainIdentity codec project 1 token 0 overtaken = (.ok lease, S') ∧
      overtaken.loadActiveDrainIdentity project = none ∧ lease.epoch = 1 ∧
      5 ∈ overtaken.recordedEpochs := by
  refine ⟨reaches_runAll (fun _ _ => trivial) .init, ?_⟩
  obtain ⟨lease, S', hlease⟩ := Session.exists_ok
    (x := beginDrainIdentity codec project 1 token 0 overtaken) (by decide +kernel)
  have hnone : overtaken.loadActiveDrainIdentity project = none := by decide +kernel
  have hcounter : overtaken.fenceEpoch = 0 := by decide +kernel
  refine ⟨lease, S', hlease, hnone, ?_, by decide +kernel⟩
  rcases beginDrainIdentity_ok hlease with ⟨hsome, -⟩ | ⟨-, _, _, rfl, -⟩
  · rw [hnone] at hsome
    cases hsome
  · simp only [hcounter]

/-- The deployment has its drain identity, and is drained. -/
def drained : SecurityStore :=
  runAll (step codec) empty (backedUp ++ .beginDrainIdentity project 1 token 0 ::
    execute 1 stateful ⟨.primary, .draining⟩)

/-- No fence has been observed on the way. -/
theorem drained_unobserved : ReachableBy codec
    (fun _ op => ∀ p observation t, op ≠ .reconcileFence p observation t) drained := by
  refine reaches_runAll ?_ .init
  rintro op hop p observation t rfl
  simp [backedUp, execute, start, gate] at hop

/-- Then a fence is found at another project, with the epoch of the identity. -/
def observed : SecurityStore := step codec (.reconcileFence other (.held 7 1 7) 0) drained

/-- The fence of the deployment gets the epoch and the token of its identity. -/
theorem observed_promotes : ReachableBy codec (Effective (step codec) KnownForeignEpochs) observed ∧
    (∃ r ∈ observed.fences.rows, r.state = .needsReconcile) ∧ ∃ lease S' d,
      beginFenceAcquire codec project 1 token 0 observed = (.ok lease, S') ∧
      observed.loadActiveDrainIdentity project = some d ∧ lease.epoch = d.epoch ∧
      lease.token = d.token := by
  have hreach : ReachableBy codec (Effective (step codec) KnownForeignEpochs) observed := by
    refine .next _ (drained_unobserved.mono fun S op hop _ p a epoch token t hreconcile => ?_)
      fun _ p a epoch token t hreconcile _ => ?_
    · exact absurd hreconcile (hop p _ t)
    · cases hreconcile
      decide +kernel
  refine ⟨hreach, by decide +kernel, ?_⟩
  obtain ⟨lease, S', hlease⟩ := Session.exists_ok
    (x := beginFenceAcquire codec project 1 token 0 observed) (by decide +kernel)
  obtain ⟨d, hd⟩ := Option.isSome_iff_exists.mp
    (show (observed.loadActiveDrainIdentity project).isSome by decide +kernel)
  have hkept := ((epochs_move_forward hreach project 1 token 0).2.2 lease S' hlease
    (by decide +kernel)).1 d hd
  exact ⟨lease, S', d, hlease, hd, hkept⟩

end SecuritySample

end Rdashboard
