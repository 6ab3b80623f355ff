import Rdashboard.Properties.Divergence
import Rdashboard.Source.Recovery

/-! # The controls of a project

`set_controls` writes its three columns with an upsert.  The row that it offers for insertion takes
the state of the project but no evidence of a divergence, and SQLite checks that row before it looks
for a conflict: the owner controls a project that is ready, and no project that has diverged. -/

namespace Rdashboard

open Relational Interleaving Txn TableRef SourceLedger SourceView

namespace SourceLedger

variable {L L' : SourceLedger} {epoch : Nat} {p : ProjectId} {u : Unit} {t : Int}
variable {blockedSha : Option GitCommitId} {reconcilePausedUntilMs : Option Int}

/-- The controls of the project are set, and nothing else has changed. -/
structure Controlled (p : ProjectId) (blockedSha : Option GitCommitId)
    (reconcilePausedUntilMs : Option Int) (t : Int) (L L' : SourceLedger) : Prop where
  snapshot : ∃ s, loadSnapshot p L = .ok s ∧ loadSnapshot p L' = .ok { s with
    blockedSha := blockedSha, reconcilePausedUntilMs := reconcilePausedUntilMs }
  updated : (L'.projects.lookup (·.projectId) p).map (·.updatedAtMs) = some t
  others : ∀ q ≠ p, L'.projects.lookup (·.projectId) q = L.projects.lookup (·.projectId) q
  rest : L' = { L with projects := L'.projects }

theorem setControls_controlled
    (h : setControls epoch p blockedSha reconcilePausedUntilMs t L = .ok (u, L')) :
    Controlled p blockedSha reconcilePausedUntilMs t L L' := by
  have htouches := setControls_touches h
  have hown := htouches.own none
  have hrow : (L'.view p none).row = L'.projects.lookup (·.projectId) p := rfl
  refine ⟨⟨_, loadSnapshot_eq L p none, (loadSnapshot_eq L' p none).trans ?_⟩, ?_, fun q hq =>
    congrArg row (htouches.others q none hq), ?_⟩
  · rw [hown]
    obtain ⟨row, accepted, pending, ticket, ref⟩ := L.view p none
    cases row <;> rfl
  · rw [← hrow, hown]
    cases (L.view p none).row <;> rfl
  · simp only [setControls, ok_iff, epoch_iff] at h
    obtain ⟨_, -, _, -, _, -, _, -, hupsert⟩ := h
    obtain ⟨projects, rfl, -⟩ := upsert_ok projects_by_id (by exact fun _ _ => rfl) hupsert
    rfl

/-- The row that is offered for insertion passes its check exactly when the project is ready. -/
theorem controlledProjectRow_check (blockedSha : Option GitCommitId)
    (reconcilePausedUntilMs : Option Int) (t : Int) :
    sourceProjectSchema.check (controlledProjectRow ((L.view p none).snapshot p) blockedSha
      reconcilePausedUntilMs t) = true ↔ (L.view p none).state = .ready := by
  unfold snapshot state view
  cases hrow : L.projects.lookup (·.projectId) p with
  | none => exact iff_of_true rfl rfl
  | some r =>
    have hcheck := L.projects.checked r (Table.mem_of_lookup hrow)
    simp only [sourceProjectSchema, Schema.keyed, Bool.and_eq_true] at hcheck ⊢
    refine (and_iff_right hcheck.1).trans ?_
    change (decide (r.state = .ready) && true && true && true ||
      decide (r.state = .sourceDivergedNeedsOwner) && false && false && false) = true ↔ _
    simp

theorem setControls_succeeds_iff (hepoch : requireBrokerEpoch epoch L = .ok ((), L))
    (hsequences : ∀ q ∈ L.projects.rows, q.sequence ≤ i64Max)
    (hpause : ∀ until_, reconcilePausedUntilMs = some until_ → t < until_) :
    (∃ L', setControls epoch p blockedSha reconcilePausedUntilMs t L = .ok ((), L')) ↔
      (L.view p none).state = .ready := by
  rw [← controlledProjectRow_check blockedSha reconcilePausedUntilMs t]
  constructor
  · rintro ⟨L', h⟩
    simp only [setControls, ok_iff, epoch_iff] at h
    obtain ⟨_, -, _, -, current, hcurrent, _, -, hupsert⟩ := h
    obtain rfl := loadSnapshot_ok none hcurrent
    exact (upsert_ok_iff.mp hupsert).1
  · intro hcheck
    obtain ⟨L', hupsert⟩ := exists_upsert (ε := SourceError) (T := sourceProjectsT)
      (f := controlOver _) hcheck (fun _ _ => rfl) fun q hq _ => L.projects.checked q hq
    refine ⟨L', ?_⟩
    simp only [setControls, ok_iff]
    refine ⟨(), ?_, (), L, hepoch, _, loadSnapshot_eq L p none, _, if_pos ?_, hupsert⟩
    · cases reconcilePausedUntilMs with
      | none => rfl
      | some until_ => simpa using hpause until_ rfl
    · rw [snapshot_sequence]
      unfold SourceView.sequence view
      cases hrow : L.projects.lookup (·.projectId) p with
      | none => exact Int.natCast_nonneg _
      | some r => exact hsequences r (Table.mem_of_lookup hrow)

end SourceLedger

/-- A serving broker sets the controls of a project, and changes nothing else, exactly when the
project is ready. -/
theorem setControls_works_iff {W : Type} {codec : SourceCodec} {outside : SourceOutside W}
    {refs : ProjectId → Option GitCommitId} {w : W} {c : SourceConfig W} {b : DurableSourceBroker}
    {threads : SourceSlot → Option (SourceCall × Prog (SourceState W) SourceFailure SourceReply)}
    {reconcilePausedUntilMs : Option Int} {t : Int}
    (h : Reachable (sourceService codec outside) (newBroker refs w) c)
    (hmode : c.mode = .serving b threads) (p : ProjectId) (blockedSha : Option GitCommitId)
    (hpause : ∀ until_, reconcilePausedUntilMs = some until_ → t < until_) :
    (∃ L', setControls b.epoch p blockedSha reconcilePausedUntilMs t c.state.ledger = .ok ((), L') ∧
      SourceLedger.Controlled p blockedSha reconcilePausedUntilMs t c.state.ledger L') ↔
      (projectView c p).state = .ready := by
  have hb := newBroker_serving h hmode
  have hepoch := requireBrokerEpoch_current hb.epoch hb.positive hb.bound
  refine Iff.trans ⟨fun ⟨L', hL', _⟩ => ⟨L', hL'⟩, fun ⟨L', hL'⟩ => ?_⟩
    (setControls_succeeds_iff hepoch (newBroker_reachable_orderly h).sequences hpause)
  exact ⟨L', hL', setControls_controlled hL'⟩

namespace SourceSample

/-- The owner of a diverged project can neither pause its reconciliation nor block a commit. -/
theorem diverged_uncontrollable : ∃ c,
    Reachable service fresh c ∧
      c.mode = .serving broker (fun _ => none) ∧
      (projectView c project).state = .sourceDivergedNeedsOwner ∧
      (setControls broker.epoch project (some firstCommit) (some 30) 20
        c.state.ledger).map Prod.fst = .error .constraintViolation :=
  ⟨_, diverged_reaches, rfl, by decide +kernel, by decide +kernel⟩

theorem ahead_controlled : ∃ L', setControls broker.epoch project (some firstCommit)
      (some 30) 20 ahead.ledger = .ok ((), L') ∧
    SourceLedger.Controlled project (some firstCommit) (some 30) 20 ahead.ledger L' :=
  (setControls_works_iff (c := idle broker ahead)
    (start_reaches.trans (Reachable.answered (push "one" none secondCommit) rfl rfl)) rfl project
    (some firstCommit) (by rintro _ ⟨⟩; decide)).mpr (by decide +kernel)

end SourceSample

end Rdashboard
