import Rdashboard.Source.Discipline

/-! # The broker running alone

What the parts of a call return when nothing else runs and the world answers them.
The properties use these runs where they say that a call succeeds, and not only what it keeps. -/

namespace Rdashboard

open Relational Interleaving Txn SourceProg

variable {W α : Type} {outside : SourceOutside W} {b : DurableSourceBroker} {p : ProjectId}
  {s s' : SourceState W}

/-- The lock file of the broker's lease is always found valid. -/
def SourceOutside.HoldsLock (outside : SourceOutside W) : Prop :=
  ∀ w, (outside.validateLock w).1 = .ok ()

/-- The repository of the project always answers what its accepted head is. -/
def SourceOutside.AnswersHead (outside : SourceOutside W) (p : ProjectId) : Prop :=
  ∀ w, (outside.acceptedHeadFailure p w).1 = none

theorem transact_run_ok_iff {body : Txn SourceLedger SourceError α} {a : α} :
    (transact body : SourceProg W α).run s = (.ok a, s') ↔
      ∃ L, body s.ledger = .ok (a, L) ∧ s' = { s with ledger := L } := by
  rw [transact, Prog.run_atomic_ok_iff]
  cases hbody : body s.ledger with
  | error e => simp
  | ok r =>
    obtain ⟨a', L⟩ := r
    simp only [Prod.mk.injEq, Except.ok.injEq]
    constructor
    · rintro ⟨rfl, rfl⟩
      exact ⟨L, ⟨rfl, rfl⟩, rfl⟩
    · rintro ⟨L', ⟨rfl, rfl⟩, rfl⟩
      exact ⟨rfl, rfl⟩

theorem consult_run {f : StateM W (Except SourceError α)} {a : α} (h : (f s.world).1 = .ok a) :
    (consult f : SourceProg W α).run s = (.ok a, { s with world := (f s.world).2 }) :=
  Prod.ext h rfl

theorem acceptedHead_run (hanswers : outside.AnswersHead p) :
    ∃ w, (acceptedHead outside p).run s = (.ok (s.refs p), { s with world := w }) := by
  refine ⟨_, Prog.run_atomic_ok_iff.mpr (Prod.ext ?_ rfl)⟩
  simp only [hanswers s.world]

theorem SourceLedger.requireBrokerEpoch_current {L : SourceLedger} {epoch : Nat}
    (hepoch : L.brokerEpoch = some epoch) (hpositive : 0 < epoch) (hbound : (epoch : Int) ≤ i64Max) :
    requireBrokerEpoch epoch L = .ok ((), L) := by
  simp only [requireBrokerEpoch, bind_ok_iff, ensure_ok_iff, lift_ok_iff, read_ok_iff]
  exact ⟨(), L, ⟨by omega, rfl⟩, epoch, L, ⟨if_pos hbound, rfl⟩, _, L, ⟨rfl, rfl⟩, hepoch, rfl⟩

/-- A row that the CHECK clauses admit passes the checks of `load_snapshot`. -/
theorem SourceProjectRow.snapshot_valid {r : SourceProjectRow}
    (h : sourceProjectSchema.check r = true) : (r.snapshot p).validate = .ok () := by
  have hcheck : ((r.canonicalHead.isNone ∧ r.sequence = 0 ∧ r.attestation.isNone ∧
        r.attestationDigest.isNone) ∨
      (r.canonicalHead.isSome ∧ 0 < r.sequence ∧ r.attestation.isSome ∧
        r.attestationDigest.isSome)) ∧
    ((r.state = .ready ∧ r.divergentCandidate.isNone ∧ r.divergenceChannel.isNone ∧
        r.divergenceEvidenceDigest.isNone) ∨
      (r.state = .sourceDivergedNeedsOwner ∧ r.divergentCandidate.isSome ∧
        r.divergenceChannel.isSome ∧ r.divergenceEvidenceDigest.isSome)) := by
    simpa [sourceProjectSchema, Schema.keyed, and_assoc] using h
  obtain ⟨hhead, hstate⟩ := hcheck
  have hfirst : r.canonicalHead.isSome = r.attestation.isSome ∧
      r.canonicalHead.isSome = r.attestationDigest.isSome ∧
      r.canonicalHead.isSome = decide (0 < r.sequence) := by
    rcases hhead with ⟨h₁, h₂, h₃, h₄⟩ | ⟨h₁, h₂, h₃, h₄⟩ <;> simp_all
  simp only [SourceSnapshot.validate, Check.ok_iff]
  refine ⟨(), hfirst, ?_⟩
  rcases hstate with ⟨h₁, h₂, h₃, h₄⟩ | ⟨h₁, h₂, h₃, h₄⟩ <;>
    simp_all [snapshot]

theorem SourceLedger.loadSnapshot_eq (L : SourceLedger) (p : ProjectId) (ref : Option GitCommitId) :
    loadSnapshot p L = .ok ((L.view p ref).snapshot p) := by
  unfold loadSnapshot SourceView.snapshot view
  cases hrow : L.projects.lookup (·.projectId) p with
  | none => rfl
  | some r =>
    simp only [Option.elim_some, Check.ok_iff]
    exact ⟨(), SourceProjectRow.snapshot_valid (L.projects.checked r (Table.mem_of_lookup hrow)),
      trivial⟩

namespace DurableSourceBroker

theorem requireCurrentLease_run (hb : Serving b s) (hlock : outside.HoldsLock) :
    ∃ w, (b.requireCurrentLease outside).run s = (.ok (), { s with world := w }) := by
  have hepoch : (transact (SourceLedger.requireBrokerEpoch b.epoch)).run s = (.ok (), s) :=
    transact_run_ok_iff.mpr
      ⟨_, SourceLedger.requireBrokerEpoch_current hb.epoch hb.positive hb.bound, rfl⟩
  exact ⟨_, (Prog.run_bind_of_ok hepoch).trans (consult_run (hlock _))⟩

/-- The lease only depends on the ledger. -/
theorem serving_of_ledger (hb : Serving b s) (h : s'.ledger.brokerEpoch = s.ledger.brokerEpoch) :
    Serving b s' :=
  ⟨h.trans hb.epoch, hb.positive, hb.bound, hb.policies⟩

theorem lockCoordination_run (hb : Serving b s) (hlock : outside.HoldsLock)
    (hinstalled : (b.installed p).isSome = true) :
    ∃ w, (b.lockCoordination outside p).run s = (.ok (), { s with world := w }) := by
  obtain ⟨w₁, h₁⟩ := requireCurrentLease_run hb hlock
  have hb₁ : Serving b { s with world := w₁ } := serving_of_ledger hb rfl
  obtain ⟨w₂, h₂⟩ := requireCurrentLease_run hb₁ hlock
  refine ⟨w₂, (Prog.run_bind_of_ok h₁).trans ?_⟩
  have hknown : (Prog.ensure ((b.installed p).isSome = true) (.unknownProject p) :
      SourceProg W Unit).run { s with world := w₁ } = (.ok (), { s with world := w₁ }) :=
    Prog.run_ensure_ok_iff.mpr ⟨hinstalled, rfl⟩
  exact (Prog.run_bind_of_ok hknown).trans h₂

end DurableSourceBroker

end Rdashboard
