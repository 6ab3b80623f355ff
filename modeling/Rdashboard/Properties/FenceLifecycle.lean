import Rdashboard.Properties.FenceEpochs
import Rdashboard.Security.Takeovers

/-! # The life of a write fence

A row of the fence journal goes from `acquire_intent` to `held`, `release_intent` and `released`;
what does not fit makes it `needs_reconcile`, where it stays.  Its release begins under a receipt
of its own attempt, and then no takeover of the attempt is stored any more, unless a later fence
of the project hides the released one. -/

namespace Rdashboard

open Relational SecurityStore List Reaches Table Check

namespace SecurityStore

variable {codec : Codec} {guard : SecurityStore → SecurityOperation → Prop}
  {op : SecurityOperation} {S S' : SecurityStore} {a : Uuid} {d : EvidenceDigest}
  {r r' : FenceLease}
variable {receipt : PhaseReceipt}

/-! ### One operation -/

/-- Every row makes a transition, or a row is added. -/
theorem fence_rows_step (op : SecurityOperation) (S : SecurityStore) :
    (∃ g, (step codec op S).fences.rows = S.fences.rows.map g ∧
      ∀ r ∈ S.fences.rows, FenceTransition codec S op r (g r)) ∨
    ∃ r, (step codec op S).fences.rows = S.fences.rows ++ [r] ∧
      (r.state = .acquireIntent ∨ r.state = .needsReconcile) ∧ r.releaseSafeReceiptDigest = none := by
  have hsame : (step codec op S).fences.rows = S.fences.rows →
      ∃ g, (step codec op S).fences.rows = S.fences.rows.map g ∧
        ∀ r ∈ S.fences.rows, FenceTransition codec S op r (g r) :=
    fun h => ⟨id, by rw [h, map_id], fun r _ => .same⟩
  have hstep : Refences codec op S (step codec op S) := fencing_step op S
  have hrows : (step codec op S).fences.rows = (step codec op S).fencing.fences := rfl
  rw [hrows] at hsame ⊢
  rcases hstep with h | hstep
  · exact .inl (hsame (by rw [h]; rfl))
  generalize (step codec op S).fencing = F at hstep hsame
  cases hstep with
  | bound => exact .inl (hsame rfl)
  | drain => exact .inl (hsame rfl)
  | promote => exact .inr ⟨_, rfl, .inl rfl, rfl⟩
  | allocate => exact .inr ⟨_, rfl, .inl rfl, rfl⟩
  | foreign => exact .inr ⟨_, rfl, .inr rfl, rfl⟩
  | shift hg => exact .inl ⟨_, rfl, hg⟩

/-- A row of the new journal comes from a row of the old one, or is new. -/
theorem fence_origin (hr' : r' ∈ (step codec op S).fences.rows) :
    (∃ r ∈ S.fences.rows, FenceTransition codec S op r r') ∨
      ((r'.state = .acquireIntent ∨ r'.state = .needsReconcile) ∧
        r'.releaseSafeReceiptDigest = none) := by
  rcases @fence_rows_step codec op S with ⟨g, hrows, hg⟩ | ⟨new, hrows, hnew⟩
  · rw [hrows] at hr'
    obtain ⟨r, hr, rfl⟩ := mem_map.mp hr'
    exact .inl ⟨r, hr, hg r hr⟩
  · rw [hrows] at hr'
    rcases mem_append.mp hr' with hr' | hr'
    · exact .inl ⟨r', hr', .same⟩
    · rw [mem_singleton.mp hr']
      exact .inr hnew

theorem fence_next (op : SecurityOperation) (hr : r ∈ S.fences.rows) :
    ∃ r' ∈ (step codec op S).fences.rows, FenceTransition codec S op r r' := by
  rcases @fence_rows_step codec op S with ⟨g, hrows, hg⟩ | ⟨new, hrows, -⟩
  · exact ⟨g r, by rw [hrows]; exact mem_map_of_mem hr, hg r hr⟩
  · exact ⟨r, by rw [hrows]; exact mem_append_left _ hr, .same⟩

theorem decodeBoundPhaseReceipt_branch {phase : OperationPhase} {branch : ExecutorPhaseBranch}
    {row : PhaseReceiptRow}
    (h : some <$> decodeBoundPhaseReceipt codec a phase branch row = .ok (some receipt)) :
    receipt.branch = branch := by
  simp only [map_eq_pure_bind, decodeBoundPhaseReceipt, ok_iff] at h
  obtain ⟨_, ⟨_, ⟨-, -, hbranch, -⟩, rfl⟩, ⟨⟩⟩ := h
  exact hbranch

theorem loadReleaseSafeReceipt_spec (h : S.loadReleaseSafeReceipt codec a d = .ok (some receipt)) :
    ∃ key ρ, S.receiptRow a key = some ρ ∧ ρ.receiptDigest = d ∧ receipt.branch = key.branch ∧
      (key = ⟨.primary, .soaking⟩ ∨ key = ⟨.rollbackRecovery, .soaking⟩ ∨
        key = ⟨.primary, .rollback⟩) := by
  unfold loadReleaseSafeReceipt at h
  split at h
  · cases h
  rename_i row hrow
  obtain ⟨ha, hd⟩ : row.attemptId = a ∧ row.receiptDigest = d := by
    simpa using find?_some hrow
  have hslot : S.receiptRow a row.key = some row := by
    rw [← ha]
    exact lookup_of_mem receipts_by_slot (mem_of_find?_eq_some hrow)
  refine ⟨row.key, row, hslot, hd, ?_⟩
  generalize row.key = key at h
  split at h
  · exact ⟨decodeBoundPhaseReceipt_branch h, .inl rfl⟩
  · exact ⟨decodeBoundPhaseReceipt_branch h, .inr (.inl rfl)⟩
  · exact ⟨decodeBoundPhaseReceipt_branch h, .inr (.inr rfl)⟩
  · cases h

/-- What `begin_fence_release` has found when it lets a fence go. -/
theorem requireReleaseSafe_spec (h : S.requireReleaseSafe codec a d = .ok ()) :
    ∃ key ρ, S.receiptRow a key = some ρ ∧ ρ.receiptDigest = d ∧
      (S.takeover a = none → key = ⟨.primary, .soaking⟩ ∨ key = ⟨.primary, .rollback⟩) ∧
      (S.takeover a ≠ none → key = ⟨.rollbackRecovery, .soaking⟩) := by
  simp only [requireReleaseSafe, ok_iff] at h
  obtain ⟨found, hfound, receipt, rfl, takeover, htakeover, hbranch⟩ := h
  obtain ⟨rfl, -⟩ := loadRollbackTakeover_ok_iff.mp htakeover
  obtain ⟨key, ρ, hρ, hd, hkey, hcases⟩ := loadReleaseSafeReceipt_spec hfound
  rw [hkey] at hbranch
  refine ⟨key, ρ, hρ, hd, fun hnone => ?_, fun hsome => ?_⟩
  · rw [hnone] at hbranch
    rcases hcases with rfl | rfl | rfl
    · exact .inl rfl
    · cases hbranch
    · exact .inr rfl
  · obtain ⟨takeover, ht⟩ := Option.ne_none_iff_exists'.mp hsome
    rw [ht] at hbranch
    rcases hcases with rfl | rfl | rfl
    · cases hbranch
    · rfl
    · cases hbranch

/-! ### Runs -/

theorem LeadsTo.keeps_ambiguous (h : LeadsTo codec guard S S') (hr : r ∈ S.fences.rows)
    (hs : r.state = .needsReconcile) : r ∈ S'.fences.rows := by
  refine invariant (I := fun S : SecurityStore => r ∈ S.fences.rows) hr (fun S op _ hr _ => ?_) h
  obtain ⟨r', hr', ht⟩ := @fence_next codec S r op hr
  rwa [ht.of_needsReconcile hs] at hr'

/-- The release of the fence `r` was begun in an earlier store, from `held`, under the digest of a
receipt of its attempt, which is still committed: the receipt that ends the primary branch if the
attempt had no takeover then, and the one that ends the recovery otherwise. -/
structure ReleaseBegan (codec : Codec) (S : SecurityStore) (r : FenceLease)
    (S₀ : SecurityStore) (d : EvidenceDigest) : Prop where
  reached : Reachable codec S₀
  leads : LeadsTo codec (fun _ _ => True)
    (step codec (.beginFenceRelease r.projectId r.attemptId d) S₀) S
  held : ∃ r₀ ∈ S₀.fences.rows, r₀.journalId = r.journalId ∧ r₀.state = .held
  began : ∃ r₁ ∈ (step codec (.beginFenceRelease r.projectId r.attemptId d) S₀).fences.rows,
    r₁.journalId = r.journalId ∧ r₁.state = .releaseIntent ∧ r₁.releaseSafeReceiptDigest = some d
  carries : r.releaseSafeReceiptDigest = some d
  receipt : ∃ key ρ, S.receiptRow r.attemptId key = some ρ ∧ ρ.receiptDigest = d ∧
    (S.course r.attemptId).Committed key ∧
    (S₀.takeover r.attemptId = none → key = ⟨.primary, .soaking⟩ ∨ key = ⟨.primary, .rollback⟩) ∧
    (S₀.takeover r.attemptId ≠ none → key = ⟨.rollbackRecovery, .soaking⟩)

theorem ReleaseBegan.next {S₀ : SecurityStore} (h : ReleaseBegan codec S r S₀ d)
    (op : SecurityOperation) (ht : FenceTransition codec S op r r')
    (hd : r'.releaseSafeReceiptDigest = r.releaseSafeReceiptDigest) :
    ReleaseBegan codec (step codec op S) r' S₀ d := by
  obtain ⟨hid, hp, ha, -⟩ := ht.columns
  obtain ⟨key, ρ, hρ, hdigest, ⟨e, he, hs⟩, hkey⟩ := h.receipt
  have hnext : LeadsTo codec (fun _ _ => True) S (step codec op S) := .next op .init trivial
  obtain ⟨he', hρ'⟩ := hnext.keeps_committed he hs
  refine { reached := h.reached, leads := ?_, held := by rw [hid]; exact h.held, began := ?_
           carries := hd.trans h.carries, receipt := ?_ }
  · rw [hp, ha]
    exact .next op h.leads trivial
  · rw [hp, ha, hid]
    exact h.began
  · rw [ha]
    exact ⟨key, ρ, hρ'.trans hρ, hdigest, ⟨e, he', hs⟩, hkey⟩

/-- Every release was begun under a receipt. -/
theorem release_began (h : Reachable codec S) (hr : r ∈ S.fences.rows)
    (hs : r.state = .releaseIntent ∨ r.state = .released) : ∃ S₀ d, ReleaseBegan codec S r S₀ d := by
  refine invariant (I := fun S : SecurityStore => ∀ r ∈ S.fences.rows,
      r.state = .releaseIntent ∨ r.state = .released → ∃ S₀ d, ReleaseBegan codec S r S₀ d)
    (by rintro r ⟨⟩) (fun S op hS hI _ r' hr' hs' => ?_) h r hr hs
  rcases fence_origin hr' with ⟨r, hr, ht⟩ | ⟨hnew, -⟩
  · cases ht with
    | same =>
      obtain ⟨S₀, d, hbegan⟩ := hI r' hr hs'
      exact ⟨S₀, d, hbegan.next op .same rfl⟩
    | hold => simp at hs'
    | ambiguate => simp at hs'
    | @intend d hop hauthorized hsafe hs =>
      subst hop
      obtain ⟨key, ρ, hρ, hdigest, hkey⟩ := requireReleaseSafe_spec hsafe
      have hS : ReachableBy codec (fun _ _ => True) S := hS
      obtain ⟨e, he, hcommitted⟩ := ((hS.receipted r.attemptId).committed_iff key).mpr
        (Option.isSome_of_eq_some hρ)
      have hnext : LeadsTo codec (fun _ _ => True) S
          (step codec (.beginFenceRelease r.projectId r.attemptId d) S) := .next _ .init trivial
      obtain ⟨he', hρ'⟩ := hnext.keeps_committed he hcommitted
      exact ⟨S, d,
        { reached := hS
          leads := .init
          held := ⟨r, hr, rfl, hs⟩
          began := ⟨_, hr', rfl, rfl, rfl⟩
          carries := rfl
          receipt := ⟨key, ρ, hρ'.trans hρ, hdigest, ⟨e, he', hcommitted⟩, hkey⟩ }⟩
    | release hop hs =>
      obtain ⟨S₀, d, hbegan⟩ := hI r hr (.inl hs)
      exact ⟨S₀, d, hbegan.next op (.release hop hs) rfl⟩
  · rcases hnew with hnew | hnew <;> simp [hnew] at hs'

end SecurityStore

/-- The life of the write fences, as seen from the store `S`. -/
structure FenceLifecycle (codec : Codec) (S : SecurityStore) : Prop where
  one_active : ∀ r ∈ S.fences.rows, ∀ s ∈ S.fences.rows, r.projectId = s.projectId →
    r.state ≠ .released → s.state ≠ .released → r = s
  intended : ∀ op, ∀ r' ∈ (step codec op S).fences.rows, r'.state = .releaseIntent →
    r' ∈ S.fences.rows ∨ ∃ r ∈ S.fences.rows, r.journalId = r'.journalId ∧ r.state = .held
  released : ∀ op, ∀ r' ∈ (step codec op S).fences.rows, r'.state = .released →
    r' ∈ S.fences.rows ∨ ∃ r ∈ S.fences.rows, r.journalId = r'.journalId ∧
      r.state = .releaseIntent ∧ ∃ t, op = .reconcileFence r.projectId .released t
  began : ∀ r ∈ S.fences.rows, r.state = .releaseIntent ∨ r.state = .released →
    ∃ S₀ d, ReleaseBegan codec S r S₀ d
  ambiguous : ∀ S', LeadsTo codec (fun _ _ => True) S S' → ∀ r ∈ S.fences.rows,
    r.state = .needsReconcile → r ∈ S'.fences.rows

/-- The write fences keep to their life cycle in every store that is reached. -/
theorem fence_lifecycle {codec : Codec} {S : SecurityStore} (h : Reachable codec S) :
    FenceLifecycle codec S where
  one_active r hr s hs hp hrs hss := by
    by_contra hne
    exact (decide_eq_true_eq.mp (Table.distinct_of_ne hr hs hne)).2 ⟨hrs, hss, hp⟩
  intended op r' hr' hs' := by
    rcases fence_origin hr' with ⟨r, hr, ht⟩ | ⟨hnew, -⟩
    · cases ht with
      | same => exact .inl hr
      | intend hop hauthorized hsafe hs => exact .inr ⟨r, hr, rfl, hs⟩
      | _ => cases hs'
    · rcases hnew with hnew | hnew <;> simp [hnew] at hs'
  released op r' hr' hs' := by
    rcases fence_origin hr' with ⟨r, hr, ht⟩ | ⟨hnew, -⟩
    · cases ht with
      | same => exact .inl hr
      | release hop hs => exact .inr ⟨r, hr, rfl, hs, _, hop⟩
      | _ => cases hs'
    · rcases hnew with hnew | hnew <;> simp [hnew] at hs'
  began r hr hs := release_began h hr hs
  ambiguous S' hS' r hr hs := hS'.keeps_ambiguous hr hs

/-! ### Takeovers after the release has begun -/

namespace SecurityStore

variable {codec : Codec} {guard : SecurityStore → SecurityOperation → Prop}
  {op : SecurityOperation} {S S' : SecurityStore} {a : Uuid} {p : ProjectId} {d : EvidenceDigest}
  {r r' : FenceLease}

/-- The fence `r` of the attempt was released, or began to be, under one of the attempt's primary
receipts. -/
structure OpenedBy (S : SecurityStore) (a : Uuid) (r : FenceLease) : Prop where
  row : r ∈ S.fences.rows
  attempt : r.attemptId = a
  receipt : ∃ phase ρ, S.receiptRow a ⟨.primary, phase⟩ = some ρ ∧
    r.releaseSafeReceiptDigest = some ρ.receiptDigest

/-- A takeover is begun only while no fence of the project is newer than the one that the attempt
has opened. -/
def TakesOverLatest (S : SecurityStore) (op : SecurityOperation) : Prop :=
  ∀ a p d t, op = .beginRollbackTakeover a p d t → ∀ r, S.OpenedBy a r →
    ∀ s ∈ S.fences.rows, s.projectId = r.projectId → s.epoch ≤ r.epoch

/-- A fence that is not being released carries no receipt; one that does is a fence of the
authorized project of its attempt, and the receipt is stored. -/
structure Backed (S : SecurityStore) (r : FenceLease) : Prop where
  undigested : r.state = .acquireIntent ∨ r.state = .held → r.releaseSafeReceiptDigest = none
  project : r.releaseSafeReceiptDigest.isSome → ∃ x, S.authorization r.attemptId = some x ∧
    x.projectId = r.projectId
  receipt : ∀ d, r.releaseSafeReceiptDigest = some d → ∃ key ρ,
    S.receiptRow r.attemptId key = some ρ ∧ ρ.receiptDigest = d

theorem Backed.transition (h : S.Backed r) (ht : FenceTransition codec S op r r')
    (hS : ReachableBy codec guard S) (hop : guard S op) : (step codec op S).Backed r' := by
  have hreceipt : ∀ {key ρ}, S.receiptRow r.attemptId key = some ρ →
      (step codec op S).receiptRow r.attemptId key = some ρ := by
    intro key ρ hρ
    have hnext : LeadsTo codec guard S (step codec op S) := .next op .init hop
    exact hnext.keeps_receipt hS hρ
  have hkept : (step codec op S).Backed r := by
    refine { undigested := h.undigested, project := fun hd => ?_, receipt := fun d hd => ?_ }
    · obtain ⟨x, hx, hp⟩ := h.project hd
      exact ⟨x, authorization_step hx op, hp⟩
    · obtain ⟨key, ρ, hρ, hdigest⟩ := h.receipt d hd
      exact ⟨key, ρ, hreceipt hρ, hdigest⟩
  cases ht with
  | same => exact hkept
  | hold hs => exact { hkept with undigested := fun _ => h.undigested hs }
  | ambiguate => exact { hkept with undigested := by simp }
  | @intend d hop' hauthorized hsafe hs =>
    obtain ⟨key, ρ, hρ, hdigest, -⟩ := requireReleaseSafe_spec hsafe
    simp only [requireAuthorizedForProject, ok_iff] at hauthorized
    obtain ⟨x, hx, hp, -⟩ := hauthorized
    exact
      { undigested := by simp
        project := fun _ => ⟨x, authorization_step hx op, hp⟩
        receipt := by
          rintro _ ⟨⟩
          exact ⟨key, ρ, hreceipt hρ, hdigest⟩ }
  | release => exact { hkept with undigested := by simp }

theorem ReachableBy.backed (h : ReachableBy codec guard S) : ∀ r ∈ S.fences.rows, S.Backed r := by
  refine invariant (I := fun S : SecurityStore => ∀ r ∈ S.fences.rows, S.Backed r)
    (by rintro r ⟨⟩) (fun S op hS hI hop r' hr' => ?_) h
  rcases fence_origin hr' with ⟨r, hr, ht⟩ | ⟨-, hnone⟩
  · exact (hI r hr).transition ht hS hop
  · exact
      { undigested := fun _ => hnone
        project := by simp [hnone]
        receipt := by simp [hnone] }

theorem fences_ordered (h : S.fencing.Ordered) (hr : r ∈ S.fences.rows) (hr' : r' ∈ S.fences.rows)
    (hne : r ≠ r') : r.Precedes r' ∨ r'.Precedes r := by
  have : Std.Symm fun r s : FenceLease => r.Precedes s ∨ s.Precedes r := ⟨fun _ _ => Or.symm⟩
  have hpair : S.fencing.fences.Pairwise fun r s => r.Precedes s ∨ s.Precedes r :=
    h.order.imp Or.inl
  exact hpair.forall hr hr' hne

/-- The fence rule of the takeover refuses an attempt whose opened fence is the newest. -/
theorem requireRollbackFenceAvailable_opened (hS : S.fencing.Ordered) (hr : r ∈ S.fences.rows)
    (hback : S.Backed r) (hd : r.releaseSafeReceiptDigest.isSome)
    (hlatest : ∀ s ∈ S.fences.rows, s.projectId = r.projectId → s.epoch ≤ r.epoch) :
    S.requireRollbackFenceAvailable r.attemptId r.projectId ≠ .ok () := by
  intro h
  unfold requireRollbackFenceAvailable at h
  cases hactive : S.loadActiveFence r.projectId with
  | some active =>
    simp only [hactive, ensure_ok_iff] at h
    obtain ⟨hmem, hp, -⟩ := loadActiveFence_spec hactive
    by_cases hne : r = active
    · subst hne
      rw [hback.undigested (.inr h.2)] at hd
      cases hd
    · rcases fences_ordered hS hr hmem hne with hfirst | hfirst
      · have hle := hlatest active hmem hp
        have hlt := (hfirst hp.symm).2 (by rw [h.2]; simp)
        omega
      · have hreleased := (hfirst hp).1
        rw [h.2] at hreleased
        cases hreleased
  | none =>
    simp only [hactive, ensure_ok_iff] at h
    have hreleased := loadActiveFence_eq_none_iff.mp hactive
    have hmem : r ∈ S.fences.rows.filter fun s => s.projectId = r.projectId :=
      mem_filter.mpr ⟨hr, by simp⟩
    obtain ⟨latest, hlate⟩ : ∃ latest, S.loadLatestFence r.projectId = some latest :=
      Option.ne_none_iff_exists'.mp fun hnone => by
        rw [argmax_eq_none.mp hnone] at hmem
        cases hmem
    obtain ⟨hlmem, hlp⟩ := mem_filter.mp (argmax_mem hlate)
    have hlp : latest.projectId = r.projectId := by simpa using hlp
    have hge : r.epoch ≤ latest.epoch := le_of_mem_argmax hmem hlate
    by_cases hne : r = latest
    · exact h ⟨latest, hlate, by rw [hne], hreleased latest hlmem hlp⟩
    · have hle := hlatest latest hlmem hlp
      rcases fences_ordered hS hr hlmem hne with hfirst | hfirst
      · have hlt := (hfirst hlp.symm).2 (by rw [hreleased latest hlmem hlp]; simp)
        omega
      · have hlt := (hfirst hlp).2 (by rw [hreleased r hr rfl]; simp)
        omega

theorem transition_digest (ht : FenceTransition codec S op r r') :
    r'.releaseSafeReceiptDigest = r.releaseSafeReceiptDigest ∨
      ∃ d, op = .beginFenceRelease r.projectId r.attemptId d ∧ r.state = .held ∧
        S.requireReleaseSafe codec r.attemptId d = .ok () ∧ r'.releaseSafeReceiptDigest = some d := by
  cases ht with
  | intend hop hauthorized hsafe hs => exact .inr ⟨_, hop, hs, hsafe, rfl⟩
  | _ => exact .inl rfl

theorem LeadsTo.keeps_opened (h : LeadsTo codec guard S S') (hS : ReachableBy codec guard S)
    (hopened : ∃ r, S.OpenedBy a r) : ∃ r, S'.OpenedBy a r := by
  refine invariant (I := fun S : SecurityStore => ∃ r, S.OpenedBy a r) hopened
    (fun S₁ op hS₁ hI hop => ?_) h
  obtain ⟨r, hr, ha, phase, ρ, hρ, hd⟩ := hI
  have hreach : ReachableBy codec guard S₁ := trans hS hS₁
  have hnext : LeadsTo codec guard S₁ (step codec op S₁) := .next op .init hop
  obtain ⟨r', hr', ht⟩ := @fence_next codec S₁ r op hr
  refine ⟨r', hr', ht.columns.2.2.1.trans ha, phase, ρ, hnext.keeps_receipt hreach hρ, ?_⟩
  rcases transition_digest ht with hsame | ⟨d, -, hheld, -⟩
  · rw [hsame, hd]
  · rw [(hreach.backed r hr).undigested (.inr hheld)] at hd
    cases hd

/-- An attempt has opened its fence before, or does so now without a takeover. -/
theorem opened_origin (hS : ReachableBy codec guard S) (hop : guard S op)
    (h : (step codec op S).OpenedBy a r') :
    (∃ r, S.OpenedBy a r) ∨ (S.takeover a = none ∧ ∃ p d, op = .beginFenceRelease p a d) := by
  obtain ⟨hr', ha, phase, ρ', hρ', hd'⟩ := h
  have hnext : LeadsTo codec guard S (step codec op S) := .next op .init hop
  -- a receipt is known by its digest
  have hunique : ∀ {key ρ}, S.receiptRow a key = some ρ → ρ.receiptDigest = ρ'.receiptDigest →
      key = ⟨.primary, phase⟩ := by
    intro key ρ hρ hdigest
    have hkept := hnext.keeps_receipt hS hρ
    have hsame : ρ = ρ' := eq_of_key receipts_by_digest (mem_of_lookup hkept)
      (mem_of_lookup hρ') hdigest
    subst hsame
    exact congrArg Prod.snd ((key_of_lookup hkept).symm.trans (key_of_lookup hρ'))
  rcases fence_origin hr' with ⟨r, hr, ht⟩ | ⟨-, hnone⟩
  · have hra : r.attemptId = a := ht.columns.2.2.1.symm.trans ha
    rcases transition_digest ht with hsame | ⟨d, rfl, -, hsafe, hd⟩
    · left
      obtain ⟨key, ρ, hρ, hdigest⟩ := (hS.backed r hr).receipt _ (hsame.symm.trans hd')
      rw [hra] at hρ
      cases hunique hρ hdigest
      exact ⟨r, hr, hra, phase, ρ, hρ, by rw [hdigest, ← hd', hsame]⟩
    · right
      rw [hra] at hsafe ⊢
      obtain ⟨key, ρ, hρ, hdigest, -, htaken⟩ := requireReleaseSafe_spec hsafe
      rw [hd', Option.some.injEq] at hd
      refine ⟨?_, _, _, rfl⟩
      by_contra hsome
      cases (htaken hsome).symm.trans (hunique hρ (hdigest.trans hd.symm))
  · rw [hnone] at hd'
    cases hd'

/-- An attempt that has opened its fence has no takeover. -/
theorem ReachableBy.opened_untaken (h : ReachableBy codec TakesOverLatest S)
    (hr : S.OpenedBy a r) : S.takeover a = none := by
  refine invariant (I := fun S : SecurityStore => ∀ r, S.OpenedBy a r → S.takeover a = none)
    (by rintro r ⟨⟨⟩, -, -⟩) (fun S op hS hI hop r' hr' => ?_) h r hr
  have hreach : ReachableBy codec TakesOverLatest S := hS
  have horigin := opened_origin hreach hop hr'
  rcases @takeover_step codec op S a with hsame | ⟨p, d, t, new, rfl, -, -, -, hauthorized, hfence⟩
  · rw [hsame]
    rcases horigin with ⟨r, hr⟩ | ⟨hnone, -⟩
    · exact hI r hr
    · exact hnone
  · exfalso
    rcases horigin with ⟨r, hr⟩ | ⟨-, p', d', hop'⟩
    · have hd : r.releaseSafeReceiptDigest.isSome := by
        obtain ⟨_, _, -, hd⟩ := hr.receipt
        rw [hd]
        rfl
      have hback := hreach.backed r hr.row
      obtain ⟨x, hx, hp⟩ := hback.project hd
      simp only [requireAuthorizedForProject, ok_iff] at hauthorized
      obtain ⟨x', hx', hp', -⟩ := hauthorized
      rw [hr.attempt, hx'] at hx
      cases hx
      rw [← hp', hp, ← hr.attempt] at hfence
      exact requireRollbackFenceAvailable_opened hreach.ordered hr.row hback hd
        (hop a p d t rfl r hr) hfence
    · cases hop'

end SecurityStore

/-- In every run in which a takeover is begun only while no fence of the project is newer than
the one that the attempt has opened, an attempt that has begun to release a fence under one of
its primary receipts has no takeover, then and later. -/
theorem no_takeover_after_opening {codec : Codec} {S : SecurityStore} {a : Uuid} {r : FenceLease}
    (h : ReachableBy codec TakesOverLatest S) (hr : S.OpenedBy a r) :
    ∀ S', LeadsTo codec TakesOverLatest S S' → S'.takeover a = none := by
  intro S' hS'
  have hreach : ReachableBy codec TakesOverLatest S' := trans h hS'
  obtain ⟨r', hr'⟩ := hS'.keeps_opened h ⟨r, hr⟩
  exact hreach.opened_untaken hr'

namespace SecuritySample

def soakingDigest (a : Uuid) : EvidenceDigest :=
  BitVec.ofNat 256 (1000 + a.toNat * 100 + OperationPhase.soaking.ctorIdx * 2)

/-- A stateful deployment with its fence, which is released at the end. -/
def fenced (a : Uuid) (epoch : Nat) : List SecurityOperation :=
  .authorizeAttempt (authorization a) 0 :: .acquireResource (.projectDeploy project) a ::
    (statefulPhases.take 8).flatMap (fun phase => execute a stateful ⟨.primary, phase⟩) ++
    [.beginFenceAcquire project a token 0, .reconcileFence project (.held a epoch token.1) 0] ++
    (statefulPhases.drop 8).flatMap (fun phase => execute a stateful ⟨.primary, phase⟩) ++
    [.beginFenceRelease project a (soakingDigest a), .reconcileFence project .released 0,
      .releaseResource (.projectDeploy project) a]

/-- The first deployment has released its fence. -/
def opened : SecurityStore := runAll (step codec) empty (fenced 1 1)

/-- A second deployment of the project has released its fence as well. -/
def redeployed : SecurityStore := runAll (step codec) opened (fenced 2 2)

theorem opened_reachable : ReachableBy codec TakesOverLatest opened := by
  have hkept : ReachableBy codec (fun _ op => ∀ a p d t, op ≠ .beginRollbackTakeover a p d t)
      opened := by
    refine reaches_runAll (fun op hop b p d t => ?_) .init
    rintro rfl
    simp [fenced, execute, start, gate] at hop
  exact hkept.mono fun S op hop a p d t h => absurd h (hop a p d t)

theorem opened_released : ∃ r, opened.OpenedBy 1 r ∧ r.state = .released := by
  have hreceipt : (opened.receiptRow 1 ⟨.primary, .soaking⟩).any
      (·.receiptDigest = soakingDigest 1) = true := by decide +kernel
  have hfence : opened.fences.rows.any (fun r => r.attemptId = 1 && r.state = .released &&
      r.releaseSafeReceiptDigest = some (soakingDigest 1)) = true := by decide +kernel
  obtain ⟨ρ, hρ, hd⟩ := (Option.any_eq_true _ _).mp hreceipt
  obtain ⟨r, hr, hrow⟩ := any_eq_true.mp hfence
  simp only [where_iff] at hrow hd
  exact ⟨r, ⟨hr, hrow.1.1, .soaking, ρ, hρ, by rw [hrow.2, hd]⟩, hrow.1.2⟩

/-- The fence of the second deployment hides the released one, and the first deployment is taken
over. -/
theorem redeployed_takeover :
    Reachable codec opened ∧ (∃ r, opened.OpenedBy 1 r ∧ r.state = .released) ∧
      LeadsTo codec (fun _ _ => True) opened
        (step codec (.beginRollbackTakeover 1 project 10 0) redeployed) ∧
      ((step codec (.beginRollbackTakeover 1 project 10 0) redeployed).takeover 1).isSome := by
  refine ⟨opened_reachable.mono fun _ _ _ => trivial, opened_released, ?_, by decide +kernel⟩
  exact .next _ (reaches_runAll (fun _ _ => trivial) .init) trivial

/-- The first deployment is not taken over by the fence rule. -/
theorem opened_untaken_over : ∃ r, opened.OpenedBy 1 r ∧
    ∀ S', LeadsTo codec TakesOverLatest opened S' → S'.takeover 1 = none := by
  obtain ⟨r, hr, -⟩ := opened_released
  exact ⟨r, hr, no_takeover_after_opening opened_reachable hr⟩

/-- Its release was begun under a receipt. -/
theorem opened_began : ∃ r ∈ opened.fences.rows, r.state = .released ∧
    ∃ S₀ d, ReleaseBegan codec opened r S₀ d := by
  obtain ⟨r, hr, hs⟩ := opened_released
  have hreach : Reachable codec opened := opened_reachable.mono fun _ _ _ => trivial
  exact ⟨r, hr.row, hs, (fence_lifecycle hreach).began r hr.row (.inr hs)⟩

end SecuritySample

end Rdashboard
