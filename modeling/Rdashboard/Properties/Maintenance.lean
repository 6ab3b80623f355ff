import Rdashboard.Properties.FenceEpochs
import Rdashboard.Security.Upkeep

/-! # One maintenance owner per project

Boundaries, drain identities and fences are reserved by different operations, each of which looks
at some of the other journals and at the owner of the deploy resource.  Together they allow one
row per project: an attempt that may reserve owns the deploy resource, and the row that it
reserves keeps every other attempt from owning it. -/

namespace Rdashboard

open Relational SecurityStore List Session Reaches

/-- The operation does not record a fence of an unknown attempt. -/
def RecordsNoForeignFence (S : SecurityStore) (op : SecurityOperation) : Prop :=
  ∀ p observation t, op = .reconcileFence p observation t → S.loadActiveFence p = none →
    observation = .released

/-- The operation gives back a resource or a disk reservation of the attempt `a`. -/
inductive GivesBack (a : Uuid) : SecurityOperation → Prop where
  | resource (r : ExecutionResource) : GivesBack a (.releaseResource r a)
  | resourceIfOwned (r : ExecutionResource) : GivesBack a (.releaseResourceIfOwned r a)
  | disk (p : ProjectId) : GivesBack a (.releaseDiskReservationIfOwned p a)

/-- The rows of each project belong to one attempt, and leave its deploy resource to no other.  A
reserved boundary belongs to a base backup that is not committed: its commit closes it. -/
structure Maintained (S : SecurityStore) : Prop where
  alone : ∀ p, (S.maintainers p).length ≤ 1
  authorized : ∀ p, ∀ a ∈ S.maintainers p, S.requireAuthorizedForProject a p none = .ok ()
  owner : ∀ p, ∀ a ∈ S.maintainers p, S.resourceOwner (.resource (.projectDeploy p)) = none ∨
    S.resourceOwner (.resource (.projectDeploy p)) = some a
  backing : ∀ r ∈ S.boundaries.rows, r.state = .reserved →
    (S.loadAuthorizedPhaseSpec r.attemptId ⟨.primary, .backingUp⟩).isSome ∧
      S.receiptRow r.attemptId ⟨.primary, .backingUp⟩ = none

namespace Maintained

variable {codec : Codec} {op : SecurityOperation} {S S' : SecurityStore} {a b : Uuid}
  {p q : ProjectId}

/-- The attempt has a specified base backup that is not committed. -/
def Backing (S : SecurityStore) (a : Uuid) : Prop :=
  (S.loadAuthorizedPhaseSpec a ⟨.primary, .backingUp⟩).isSome ∧
    S.receiptRow a ⟨.primary, .backingUp⟩ = none

/-! ### The maintainers after an operation -/

/-- The maintainers of a project become fewer, or a new one enters where there is no other. -/
def Hands (S S' : SecurityStore) : Prop :=
  (∀ q, (S'.maintainers q).Sublist (S.maintainers q)) ∨
    ∃ p a, EpochClaim S' p a ∧ S'.maintainers p = [a] ∧
      ∀ q, q ≠ p → (S'.maintainers q).Sublist (S.maintainers q)

theorem maintainers_congr
    (h : (S'.boundaries, S'.drains, S'.fences) = (S.boundaries, S.drains, S.fences)) :
    S'.maintainers = S.maintainers := by
  simp only [Prod.mk.injEq] at h
  funext q
  rw [maintainers, reservedBoundaries, reservedDrains, activeFences, h.1, h.2.1, h.2.2]
  rfl

theorem Hands.same (h : (S'.boundaries, S'.drains, S'.fences) = (S.boundaries, S.drains, S.fences)) :
    Hands S S' :=
  .inl fun q => by rw [maintainers_congr h]

/-- The maintainers of one project: the new one owns the deploy resource. -/
theorem Hands.at (h : Hands S S') (q : ProjectId) :
    (S'.maintainers q).Sublist (S.maintainers q) ∨
      ∃ a, EpochClaim S' q a ∧ S'.maintainers q = [a] := by
  rcases h with h | ⟨p, a, hclaim, hnew, h⟩
  · exact .inl (h q)
  · by_cases hq : q = p
    · subst hq
      exact .inr ⟨a, hclaim, hnew⟩
    · exact .inl (h q hq)

theorem maintainers_eq_nil (hboundary : S.loadActiveBackupBoundary p = none)
    (hdrain : S.loadActiveDrainIdentity p = none) (hfence : S.loadActiveFence p = none) :
    S.maintainers p = [] := by
  rw [maintainers, loadActiveBackupBoundary_eq_none_iff.mp hboundary,
    loadActiveDrainIdentity_eq_none_iff_nil.mp hdrain, loadActiveFence_eq_none_iff_nil.mp hfence]
  rfl

/-- An attempt that owns the deploy resource enters a project without maintainers. -/
theorem Hands.enter (hclaim : EpochClaim S' p a) (hnil : S.maintainers p = [])
    (h : ∀ q, ∃ before after, S.maintainers q = before ++ after ∧
      S'.maintainers q = before ++ (if p = q then [a] else []) ++ after) : Hands S S' := by
  refine .inr ⟨p, a, hclaim, ?_, fun q hq => ?_⟩
  · obtain ⟨before, after, hold, hnew⟩ := h p
    rw [hnil, eq_comm, append_eq_nil_iff] at hold
    rw [hnew, hold.1, hold.2, if_pos rfl]
    rfl
  · obtain ⟨before, after, hold, hnew⟩ := h q
    rw [hnew, if_neg (Ne.symm hq), append_nil, hold]

theorem map_filter_append {ρ : Type} {rows : List ρ} {r : ρ} {f : ρ → Bool} {g : ρ → Uuid}
    (h : f r = decide (p = q)) : ((rows ++ [r]).filter f).map g =
      (rows.filter f).map g ++ if p = q then [g r] else [] := by
  rw [filter_append, filter_singleton, map_append, h]
  by_cases hq : p = q <;> simp [hq]

theorem beginBackupBoundary_hands (p : ProjectId) (a : Uuid) (token : FreshUuid) (t : Int) :
    Hands S (step codec (.beginBackupBoundary p a token t) S) := by
  refine final_transaction (P := Hands S) (.same rfl) fun lease S' h => ?_
  rcases beginBackupBoundary_ok (immediateTransaction_ok h) with
    ⟨-, rfl⟩ | ⟨hadmitted, n, tbl, rfl, hrows, rfl⟩
  · exact .same rfl
  refine .enter ⟨hadmitted.authorized, hadmitted.owned⟩
    (maintainers_eq_nil hadmitted.boundary hadmitted.drain hadmitted.fence)
    fun q => ⟨_, _, append_assoc .., (append_assoc ..).trans ?_⟩
  rw [reservedBoundaries, hrows, map_filter_append (p := p) (q := q) (by exact Bool.and_true _)]
  rfl

theorem beginDrainIdentity_hands (p : ProjectId) (a : Uuid) (token : FreshUuid) (t : Int) :
    Hands S (step codec (.beginDrainIdentity p a token t) S) := by
  refine final_transaction (P := Hands S) (.same rfl) fun lease S' h => ?_
  rcases beginDrainIdentity_ok (immediateTransaction_ok h) with
    ⟨-, rfl⟩ | ⟨hadmitted, n, tbl, rfl, hrows, rfl⟩
  · exact .same rfl
  refine .enter ⟨hadmitted.authorized, hadmitted.owned⟩
    (maintainers_eq_nil hadmitted.boundary hadmitted.drain hadmitted.fence)
    fun q => ⟨_, _, rfl, ?_⟩
  rw [maintainers, reservedDrains, hrows, map_filter_append (p := p) (q := q) (by exact Bool.and_true _),
    ← append_assoc]
  rfl

theorem mem_maintainers_of_boundary {r : BackupBoundaryRow} (hr : r ∈ S.boundaries.rows)
    (hs : r.state = .reserved) : r.attemptId ∈ S.maintainers r.projectId := by
  refine mem_append_left _ (mem_append_left _ (mem_map_of_mem ?_))
  exact mem_filter.mpr ⟨hr, by simp [hs]⟩

/-- The owner of the deploy resource has no reserved boundary once its base backup is committed. -/
theorem no_boundary (h : Maintained S) (howned : S.resourceOwner (.resource (.projectDeploy p)) = some a)
    (hreceipt : (S.receiptRow a ⟨.primary, .backingUp⟩).isSome) : S.reservedBoundaries p = [] := by
  refine filter_eq_nil_iff.mpr fun r hr hrow => ?_
  simp only [where_iff] at hrow
  obtain ⟨rfl, hs⟩ := hrow
  rcases h.owner _ _ (mem_maintainers_of_boundary hr hs) with hfree | howner
  · rw [howned] at hfree
    cases hfree
  · rw [howned] at howner
    cases howner
    rw [(h.backing r hr hs).2] at hreceipt
    cases hreceipt

theorem only_drain (h : Maintained S) {d : DrainIdentityRow} (hd : d ∈ S.drains.rows)
    (hs : d.state = .reserved) :
    S.reservedBoundaries d.projectId = [] ∧ S.reservedDrains d.projectId = [d] := by
  have hmem : d ∈ S.reservedDrains d.projectId := mem_filter.mpr ⟨hd, by simp [hs]⟩
  have hpos := length_pos_of_mem hmem
  have hlen := h.alone d.projectId
  simp only [maintainers, length_append, length_map] at hlen
  refine ⟨length_eq_zero_iff.mp (by omega), ?_⟩
  obtain ⟨x, hx⟩ := length_eq_one_iff.mp (show (S.reservedDrains d.projectId).length = 1 by omega)
  rw [hx] at hmem ⊢
  rw [mem_singleton.mp hmem]

theorem beginFenceAcquire_hands (h : Maintained S) (p : ProjectId) (a : Uuid) (token : FreshUuid)
    (t : Int) : Hands S (step codec (.beginFenceAcquire p a token t) S) := by
  refine final_transaction (P := Hands S) (.same rfl) fun lease S' hrun => ?_
  rcases beginFenceAcquire_ok (immediateTransaction_ok hrun) with ⟨-, rfl⟩ | ⟨hadmitted,
    ⟨d, hd, n, drains, fences, hdrain, rfl, hs, rfl, hdrains, hfences, rfl⟩ |
    ⟨hdrain, n, fences, rfl, hfences, rfl⟩⟩
  · exact .same rfl
  · -- the promoted identity was the only row of the project
    obtain ⟨hboundary, hdrain⟩ := h.only_drain hd hs
    have hfence := loadActiveFence_eq_none_iff_nil.mp hadmitted.fence
    have hpromoted : ∀ r, (promoted d.journalId t r).state = .reserved →
        promoted d.journalId t r = r ∧ r ≠ d := by
      intro r hr
      obtain ⟨-, hid⟩ := promoted_reserved hr
      exact ⟨assign_of_neg _ (by simp [hid]), fun hrd => hid (by rw [hrd])⟩
    have hdrained : ((S.drains.rows.map (promoted d.journalId t)).filter fun r =>
        r.projectId = d.projectId && r.state = .reserved) = [] := by
      refine filter_eq_nil_iff.mpr fun r' hr' hrow => ?_
      obtain ⟨r, hr, rfl⟩ := mem_map.mp hr'
      simp only [where_iff] at hrow
      obtain ⟨hsame, hne⟩ := hpromoted r hrow.2
      rw [hsame] at hrow
      have hmem : r ∈ S.reservedDrains d.projectId := mem_filter.mpr ⟨hr, by simp [hrow]⟩
      rw [hdrain] at hmem
      exact hne (mem_singleton.mp hmem)
    refine .inr ⟨d.projectId, a, ⟨hadmitted.authorized, hadmitted.owned⟩, ?_, fun q hq => ?_⟩
    · unfold maintainers reservedBoundaries reservedDrains activeFences at *
      simp only [hdrains, hfences, hdrained, filter_append, hboundary, hfence]
      simp [newFence]
    · unfold maintainers reservedDrains activeFences
      simp only [hdrains, hfences]
      rw [map_filter_append (p := d.projectId) (q := q) (by exact Bool.and_true _), if_neg (Ne.symm hq),
        append_nil]
      refine ((List.Sublist.refl _).append (selection_sublist fun r _ hr => ?_)).append (.refl _)
      simp only [where_iff] at hr ⊢
      have hsame := (hpromoted r hr.2).1
      rw [hsame] at hr ⊢
      exact ⟨hr, rfl⟩
  · have hreceipt := receiptRow_of_required
      (Check.each_ok_iff.mp hadmitted.receipts .backingUp (by simp))
    have hboundary := h.no_boundary hadmitted.owned hreceipt
    refine .enter ⟨hadmitted.authorized, hadmitted.owned⟩ (maintainers_eq_nil
      (loadActiveBackupBoundary_eq_none_iff.mpr hboundary) hdrain hadmitted.fence)
      fun q => ⟨_, [], (append_nil _).symm, ?_⟩
    rw [maintainers, activeFences, hfences,
      map_filter_append (p := p) (q := q) (by exact Bool.and_true _), ← append_assoc, append_nil]
    rfl

/-- An operation that changes rows of the fence journal in place. -/
theorem shift_hands (hguard : RecordsNoForeignFence S op)
    (hop : (∃ p observation t, op = .reconcileFence p observation t) ∨
      ∃ p a d, op = .beginFenceRelease p a d) : Hands S (step codec op S) := by
  have hboundaries : (step codec op S).boundaries = S.boundaries := by
    refine boundaries_step ?_ ?_ <;>
      rcases hop with ⟨_, _, _, rfl⟩ | ⟨_, _, _, rfl⟩ <;> rintro _ _ _ _ ⟨⟩
  have hrefences : Refences codec op S (step codec op S) := fencing_step op S
  left
  intro q
  rw [maintainers, reservedBoundaries, reservedDrains, activeFences, hboundaries]
  generalize step codec op S = S' at hrefences
  rcases hrefences with hsame | hstep
  · simp only [fencing, FenceBook.mk.injEq] at hsame
    rw [hsame.2.1, hsame.2.2.1]
    exact .refl _
  · generalize hbook : S'.fencing = book at hstep
    cases hstep with
    | shift hg =>
      simp only [fencing, FenceBook.mk.injEq] at hbook
      rw [hbook.2.1, hbook.2.2.1]
      -- a transition leaves a fence of the project active, or releases it
      refine (List.Sublist.refl _).append (selection_sublist fun r hr hactive => ?_)
      obtain ⟨-, hproject, hattempt, -⟩ := (hg r hr).columns
      simp only [where_iff, hproject] at hactive ⊢
      refine ⟨⟨hactive.1, fun hreleased => hactive.2 ?_⟩, hattempt⟩
      rw [(hg r hr).of_released hreleased, hreleased]
    | foreign hfence => cases hguard _ _ _ rfl hfence
    | _ => rcases hop with ⟨_, _, _, ⟨⟩⟩ | ⟨_, _, _, ⟨⟩⟩

theorem commitPhaseReceipt_hands (a : Uuid) (phase : OperationPhase) (branch : ExecutorPhaseBranch)
    (t : Int) : Hands S (step codec (.commitPhaseReceiptInBranch a phase branch t) S) := by
  have hkept : ∀ S : SecurityStore,
      ((step codec (.commitPhaseReceiptInBranch a phase branch t) S).drains,
        (step codec (.commitPhaseReceiptInBranch a phase branch t) S).fences) =
        (S.drains, S.fences) := by
    refine step_keeps _ (f := fun S : SecurityStore => (S.drains, S.fences)) ?_
    exact ⟨fun _ _ => rfl, .of_ignored fun _ _ => rfl, fun _ _ => rfl, fun _ _ => rfl⟩
  have hkept := hkept S
  rcases commitPhaseReceipt_closes codec (S := S) a phase branch t with
    ⟨-, hsame⟩ | ⟨key, -, hrows⟩
  · exact .same (by rw [hsame, hkept])
  · simp only [Prod.mk.injEq] at hkept
    left
    intro q
    rw [maintainers, reservedBoundaries, reservedDrains, activeFences, hrows, hkept.1, hkept.2]
    refine (List.Sublist.append ?_ (.refl _)).append (.refl _)
    split
    · refine selection_sublist fun r _ hr => ?_
      simp only [where_iff] at hr ⊢
      have hsame := (closed_reserved hr.2).1
      rw [hsame] at hr ⊢
      exact ⟨hr, rfl⟩
    · exact .refl _

/-- Every operation hands the projects over. -/
theorem hands_step (h : Maintained S) (hguard : RecordsNoForeignFence S op) :
    Hands S (step codec op S) := by
  cases op with
  | beginBackupBoundary p a token t => exact beginBackupBoundary_hands p a token t
  | beginDrainIdentity p a token t => exact beginDrainIdentity_hands p a token t
  | beginFenceAcquire p a token t => exact beginFenceAcquire_hands h p a token t
  | reconcileFence p observation t => exact shift_hands hguard (.inl ⟨p, observation, t, rfl⟩)
  | beginFenceRelease p a d => exact shift_hands hguard (.inr ⟨p, a, d, rfl⟩)
  | commitPhaseReceiptInBranch a phase branch t => exact commitPhaseReceipt_hands a phase branch t
  | _ =>
    exact .same (step_keeps _ (f := fun S : SecurityStore => (S.boundaries, S.drains, S.fences))
      (by (repeat' apply And.intro) <;> exact fun _ _ => rfl) S)

/-! ### The invariant -/

theorem authorized_step (h : S.requireAuthorizedForProject a p none = .ok ())
    (op : SecurityOperation) :
    (step codec op S).requireAuthorizedForProject a p none = .ok () := by
  simp only [requireAuthorizedForProject, Check.ok_iff] at h ⊢
  obtain ⟨x, hx, hproject⟩ := h
  exact ⟨x, authorization_step hx op, hproject⟩

/-- The deploy resource of a project passes to nobody but its maintainer. -/
theorem owner_step (h : Maintained S) (op : SecurityOperation) (ha : a ∈ S.maintainers p) :
    (step codec op S).resourceOwner (.resource (.projectDeploy p)) = none ∨
      (step codec op S).resourceOwner (.resource (.projectDeploy p)) = some a := by
  have howner : ∀ S : SecurityStore, S.resourceOwner = S.holdings.owner := fun _ => rfl
  have hrehouses : Rehouses codec op S (step codec op S) := holdings_step op S
  rw [howner]
  rcases hrehouses with hsame | hstep
  · rw [hsame]
    exact h.owner p a ha
  · rcases hstep.owner_resource (.projectDeploy p) with hkept | hfree | ⟨b, hallowed, hb⟩
    · rw [hkept]
      exact h.owner p a ha
    · exact .inl hfree
    · rw [maintainer_of_allowed (h.alone p) hallowed ha]
      exact .inr hb

/-- A new boundary belongs to an attempt whose base backup is intended and specified. -/
theorem beginBackupBoundary_rows (codec : Codec) (p : ProjectId) (a : Uuid) (token : FreshUuid) (t : Int) :
    ∀ r ∈ (step codec (.beginBackupBoundary p a token t) S).boundaries.rows,
      r ∈ S.boundaries.rows ∨ (r.attemptId = a ∧ S.requireBaseBackupSpec codec p a = .ok ()) := by
  refine final_transaction (P := fun S' : SecurityStore => ∀ r ∈ S'.boundaries.rows,
      r ∈ S.boundaries.rows ∨ (r.attemptId = a ∧ S.requireBaseBackupSpec codec p a = .ok ()))
    (fun r hr => .inl hr) fun lease S' h r hr => ?_
  rcases beginBackupBoundary_ok (immediateTransaction_ok h) with
    ⟨-, rfl⟩ | ⟨hadmitted, n, tbl, rfl, hrows, rfl⟩
  · exact .inl hr
  · simp only [hrows, mem_append, mem_singleton] at hr
    rcases hr with hr | rfl
    · exact .inl hr
    · exact .inr ⟨rfl, hadmitted.spec⟩

theorem requireBaseBackupSpec_ok (hreceipted : (S.course a).Receipted codec a)
    (h : S.requireBaseBackupSpec codec p a = .ok ()) : Backing S a := by
  simp only [requireBaseBackupSpec, Check.ok_iff] at h
  obtain ⟨e, he, _, ⟨hs, -⟩, record, hrecord, -⟩ := h
  refine ⟨Option.isSome_of_eq_some hrecord, ?_⟩
  by_contra hsome
  have hcommitted := (hreceipted.committed_iff ⟨.primary, .backingUp⟩).mpr
    (Option.isSome_iff_ne_none.mpr hsome)
  exact Course.not_committed he (by rw [hs]; decide) hcommitted

theorem Backing.step (h : Backing S a) (op : SecurityOperation)
    (hreceipt : (SecurityStore.step codec op S).receiptRow a ⟨.primary, .backingUp⟩ =
      S.receiptRow a ⟨.primary, .backingUp⟩) : Backing (SecurityStore.step codec op S) a := by
  obtain ⟨r, hr⟩ := Option.isSome_iff_exists.mp h.1
  exact ⟨Option.isSome_of_eq_some (spec_step hr op), hreceipt.trans h.2⟩

theorem backing_step (h : Maintained S) (hreceipted : ∀ a, (S.course a).Receipted codec a)
    (op : SecurityOperation) : ∀ r ∈ (step codec op S).boundaries.rows, r.state = .reserved →
      Backing (step codec op S) r.attemptId := by
  by_cases hcommit : ∃ a phase branch t, op = .commitPhaseReceiptInBranch a phase branch t
  · obtain ⟨a, phase, branch, t, rfl⟩ := hcommit
    intro r hr hs
    rcases commitPhaseReceipt_closes codec (S := S) a phase branch t with
      ⟨hreceipts, hboundaries⟩ | ⟨key, hreceipts, hrows⟩
    · rw [hboundaries] at hr
      exact Backing.step (h.backing r hr hs) _ (by rw [receiptRow, hreceipts, receiptRow])
    · -- a base backup with a bound specification has just closed its boundary
      obtain ⟨r₀, hr₀, hs₀, hattempt, hclosed⟩ : ∃ r₀ ∈ S.boundaries.rows, r₀.state = .reserved ∧
          r₀.attemptId = r.attemptId ∧ (key = ⟨.primary, .backingUp⟩ ∧
            (S.loadAuthorizedPhaseSpec a key).isSome → r.attemptId ≠ a) := by
        rw [hrows] at hr
        split at hr
        · obtain ⟨r₀, hr₀, rfl⟩ := mem_map.mp hr
          obtain ⟨hsame, hne⟩ := closed_reserved hs
          rw [hsame] at hs ⊢
          exact ⟨r₀, hr₀, hs, rfl, fun _ => hne⟩
        · exact ⟨r, hr, hs, rfl, fun hc => absurd hc (by assumption)⟩
      have hbacking : Backing S r.attemptId := hattempt ▸ h.backing r₀ hr₀ hs₀
      refine hbacking.step _ (hreceipts _ _ fun heq => ?_)
      obtain ⟨hra, rfl⟩ := Prod.mk.injEq .. ▸ heq
      exact hclosed ⟨rfl, hra ▸ hbacking.1⟩ hra
  · have hkept : ∀ a, Backing S a → Backing (step codec op S) a := by
      refine fun a ha => ha.step op ?_
      rw [receiptRow, receipts_step fun a phase branch t hop => hcommit ⟨a, phase, branch, t, hop⟩,
        receiptRow]
    by_cases hbegin : ∃ p a token t, op = .beginBackupBoundary p a token t
    · obtain ⟨p, a, token, t, rfl⟩ := hbegin
      intro r hr hs
      rcases beginBackupBoundary_rows codec p a token t r hr with hmem | ⟨rfl, hadmitted⟩
      · exact hkept _ (h.backing r hmem hs)
      · exact hkept _ (requireBaseBackupSpec_ok (hreceipted _) hadmitted)
    · rw [boundaries_step (fun p a token t hop => hbegin ⟨p, a, token, t, hop⟩)
        fun a phase branch t hop => hcommit ⟨a, phase, branch, t, hop⟩]
      exact fun r hr hs => hkept _ (h.backing r hr hs)

theorem empty : Maintained SecurityStore.empty where
  alone := fun p => Nat.zero_le _
  authorized := by rintro p a ⟨⟩
  owner := by rintro p a ⟨⟩
  backing := by rintro r ⟨⟩

/-- Every operation that records no foreign fence keeps the invariant. -/
theorem step (h : Maintained S) (hreceipted : ∀ a, (S.course a).Receipted codec a)
    (hguard : RecordsNoForeignFence S op) : Maintained (SecurityStore.step codec op S) := by
  have hhands : Hands S (SecurityStore.step codec op S) := h.hands_step hguard
  refine { alone := fun q => ?_, authorized := fun q b hb => ?_, owner := fun q b hb => ?_
           backing := h.backing_step hreceipted op }
  · rcases hhands.at q with hsub | ⟨a, -, hnew⟩
    · exact hsub.length_le.trans (h.alone q)
    · rw [hnew]
      exact le_rfl
  · rcases hhands.at q with hsub | ⟨a, hclaim, hnew⟩
    · exact authorized_step (h.authorized q b (hsub.subset hb)) op
    · rw [hnew, mem_singleton] at hb
      exact hb ▸ hclaim.authorized
  · rcases hhands.at q with hsub | ⟨a, hclaim, hnew⟩
    · exact h.owner_step op (hsub.subset hb)
    · rw [hnew, mem_singleton] at hb
      exact .inr (hb ▸ hclaim.owned)

end Maintained

namespace SecurityStore

variable {codec : Codec} {S S' : SecurityStore} {a : Uuid}

theorem ReachableBy.maintained (h : ReachableBy codec RecordsNoForeignFence S) : Maintained S := by
  refine invariant Maintained.empty (fun S op hS hI hguard => ?_) h
  exact hI.step (receipted hS) hguard

/-- Giving resources back leaves the rows of every project. -/
theorem maintainers_of_givesBack (h : LeadsTo codec (fun _ op => GivesBack a op) S S') :
    S'.maintainers = S.maintainers := by
  refine invariant (I := fun S' : SecurityStore => S'.maintainers = S.maintainers) rfl
    (fun S₁ op _ hI hop => ?_) h
  rw [← hI]
  refine Maintained.maintainers_congr ?_
  cases hop <;>
    exact step_keeps _ (f := fun S : SecurityStore => (S.boundaries, S.drains, S.fences))
      (by (repeat' apply And.intro) <;> exact fun _ _ => rfl) S₁

end SecurityStore

/-- In every run that records no foreign fence, the reserved boundaries, the reserved drain
identities and the active fences of a project are at most one row, of an attempt that is
authorized for the project and that alone can own its deploy resource.  Whatever this attempt
gives back, no other attempt gets the deploy resource or a new disk reservation. -/
theorem one_maintenance_owner {codec : Codec} {S : SecurityStore}
    (h : ReachableBy codec (Effective (step codec) RecordsNoForeignFence) S) (p : ProjectId) :
    (S.reservedBoundaries p).length + (S.reservedDrains p).length + (S.activeFences p).length ≤ 1 ∧
    ∀ a ∈ S.maintainers p, S.requireAuthorizedForProject a p none = .ok () ∧
      (S.resourceOwner (.resource (.projectDeploy p)) = none ∨
        S.resourceOwner (.resource (.projectDeploy p)) = some a) ∧
      ∀ S', LeadsTo codec (fun _ op => GivesBack a op) S S' → a ∈ S'.maintainers p ∧
        ∀ b ≠ a, (∀ u S'', acquireResource (.projectDeploy p) b S' ≠ (.ok u, S'')) ∧
          (S'.loadActiveDiskReservation b = none → ∀ observation t u S'',
            acquireDiskReservation codec p b observation t S' ≠ (.ok u, S'')) := by
  have h : ReachableBy codec RecordsNoForeignFence S := of_effective h
  have hmaintained := h.maintained
  refine ⟨?_, fun a ha => ⟨hmaintained.authorized p a ha, hmaintained.owner p a ha, fun S' hS' => ?_⟩⟩
  · have hlen := hmaintained.alone p
    simp only [maintainers, length_append, length_map] at hlen
    omega
  · have hreachable : ReachableBy codec RecordsNoForeignFence S' :=
      trans h (mono (fun _ _ hop => by rintro p observation t rfl; cases hop) hS')
    have ha' : a ∈ S'.maintainers p := by
      rw [maintainers_of_givesBack hS']
      exact ha
    have halone := hreachable.maintained.alone p
    refine ⟨ha', fun b hb => ⟨fun u S'' hok => ?_, fun hnone observation t u S'' hok => ?_⟩⟩
    · simp only [acquireResource, Txn.ok_iff, immediateTransaction_ok_iff] at hok
      obtain ⟨_, hallowed, -⟩ := hok
      exact hb (maintainer_of_allowed halone hallowed ha').symm
    · obtain ⟨claim, -, ⟨r, hr, hattempt, -⟩ | ⟨-, hallowed, -⟩⟩ := acquireDiskReservation_ok hok
      · exact loadActiveDiskReservation_eq_none_iff.mp hnone r hr hattempt
      · exact hb (maintainer_of_allowed halone hallowed ha').symm

namespace SecuritySample

/-- The drained deployment gives its deploy resource back, and keeps the project. -/
theorem drained_maintains : ReachableBy codec (Effective (step codec) RecordsNoForeignFence) drained ∧
    drained.maintainers project = [1] ∧ ∀ u S'', acquireResource (.projectDeploy project) 2
        (step codec (.releaseResource (.projectDeploy project) 1) drained) ≠ (.ok u, S'') := by
  have hreachable : ReachableBy codec (Effective (step codec) RecordsNoForeignFence) drained :=
    drained_unobserved.mono fun _ _ hop _ p observation t hreconcile => absurd hreconcile (hop p _ t)
  have hmaintainers : drained.maintainers project = [1] := by decide +kernel
  obtain ⟨-, -, hexclusive⟩ := (one_maintenance_owner hreachable project).2 1 (by simp [hmaintainers])
  refine ⟨hreachable, hmaintainers, ?_⟩
  exact ((hexclusive _ (.next _ .init (.resource _))).2 2 (by decide +kernel)).1

end SecuritySample

end Rdashboard
