import Rdashboard.Properties.AcceptedHeads
import Rdashboard.Source.Running

/-! # Resolving a divergence

A diverged project shows the evidence of its divergence, and the audit event of that evidence is
never deleted.  The owner's resolution insists on an event of the project that is not resolved yet,
but `mark_diverged` leaves an event alone that it finds under the same evidence: a divergence that
comes back with the same evidence as one that was resolved cannot be resolved any more. -/

namespace Rdashboard

open Relational Interleaving Txn TableRef SourceProg Table SourceLedger Option Reachable

namespace SourceLedger

variable {L L' : SourceLedger} {epoch : Nat} {p : ProjectId} {u : Unit}
variable {evidenceDigest : EvidenceDigest} {t : Int}

/-- There is an event for the evidence that a project shows. -/
def Evidenced (L : SourceLedger) : Prop :=
  ∀ r ∈ L.projects.rows, ∀ evidence, r.divergenceEvidenceDigest = some evidence →
    ∃ event ∈ L.divergences.rows, event.key = (r.projectId, evidence)

/-- An event of the project is not resolved. -/
def OpenDivergence (L : SourceLedger) (p : ProjectId) : Prop :=
  ∃ event ∈ L.divergences.rows, event.projectId = p ∧ event.resolvedAtMs = none

/-- Rows that show no new evidence, and no event lost. -/
theorem Evidenced.of_rows (h : L.Evidenced)
    (hrows : ∀ r ∈ L'.projects.rows, ∀ evidence, r.divergenceEvidenceDigest = some evidence →
      (∃ q ∈ L.projects.rows, q.projectId = r.projectId ∧
        q.divergenceEvidenceDigest = some evidence) ∨
      ∃ event ∈ L'.divergences.rows, event.key = (r.projectId, evidence))
    (hevents : ∀ event ∈ L.divergences.rows, ∃ event' ∈ L'.divergences.rows,
      event'.key = event.key) : L'.Evidenced := by
  intro r hr evidence hevidence
  rcases hrows r hr evidence hevidence with ⟨q, hq, hproject, hshown⟩ | hevent
  · obtain ⟨event, hevent, hkey⟩ := h q hq evidence hshown
    obtain ⟨event', hevent', hkey'⟩ := hevents event hevent
    exact ⟨event', hevent', by rw [hkey', hkey, hproject]⟩
  · exact hevent

theorem acceptIfCurrent_evidenced {expected : SourceSnapshot} {signed : SignedAcceptedHeadV1}
    {digest : EvidenceDigest} (hL : L.Evidenced)
    (h : acceptIfCurrent epoch expected signed digest L = .ok (u, L')) : L'.Evidenced := by
  have hevents : L'.divergences = L.divergences :=
    frame h
  refine hL.of_rows (fun r hr evidence hevidence => .inl ?_) fun event hevent =>
    ⟨event, by rw [hevents]; exact hevent, rfl⟩
  obtain ⟨w, rfl | ⟨-, heads, projects, -, hrows, rfl⟩⟩ := acceptIfCurrent_tables h
  · exact ⟨r, hr, rfl, hevidence⟩
  · obtain hold | rfl | ⟨q, -, rfl⟩ := hrows r hr
    · exact ⟨r, hold, rfl, hevidence⟩
    · cases hevidence
    · cases hevidence

theorem markDiverged_evidenced {candidate : GitCommitId} {channel : SourceChannel} (hL : L.Evidenced)
    (h : markDiverged epoch p candidate channel evidenceDigest t L = .ok (u, L')) :
    L'.Evidenced := by
  simp only [markDiverged, ok_iff, epoch_iff] at h
  obtain ⟨_, -, current, hcurrent, _, L₁, hevent, _, -, hupsert⟩ := h
  have hproject : current.projectId = p := by
    rw [loadSnapshot_ok none hcurrent, SourceView.snapshot_projectId]
  have hprojects : L₁.projects = L.projects := Txn.frame hevent
  obtain ⟨t', rfl, hrows⟩ := mem_of_upsert hupsert
  -- the event is there, new or old, and no other event is lost
  have hevents : (∃ event ∈ L₁.divergences.rows, event.key = (p, evidenceDigest)) ∧
      ∀ event ∈ L.divergences.rows, event ∈ L₁.divergences.rows := by
    obtain ⟨-, ⟨-, t, ht, rfl⟩ | ⟨⟨event, hlookup⟩, rfl⟩⟩ := insertNew_ok_iff.mp hevent
    · exact ⟨⟨_, mem_insert_self ht, rfl⟩,
        fun event hevent => mem_insert_of_mem ht hevent⟩
    · exact ⟨⟨event, mem_of_lookup hlookup, key_of_lookup hlookup⟩,
        fun event hevent => hevent⟩
  refine hL.of_rows (fun r hr evidence hevidence => ?_) fun event hevent =>
    ⟨event, hevents.2 event hevent, rfl⟩
  obtain hold | rfl | ⟨q, hq, hkey, rfl⟩ := hrows r hr
  · refine .inl ⟨r, ?_, rfl, hevidence⟩
    rw [← hprojects]
    exact hold
  · obtain rfl := some.inj hevidence
    refine .inr ?_
    change ∃ event ∈ L₁.divergences.rows, event.key = (current.projectId, evidenceDigest)
    rw [hproject]
    exact hevents.1
  · change q ∈ L₁.projects.rows at hq
    rw [hprojects] at hq
    unfold divergeOver at hevidence ⊢
    split_ifs at hevidence ⊢ with hdiverged
    · exact .inl ⟨q, hq, rfl, hevidence⟩
    · obtain rfl := some.inj hevidence
      refine .inr ?_
      rw [show q.projectId = p from hkey.trans hproject]
      exact hevents.1

theorem setControls_evidenced {blocked : Option GitCommitId} {paused : Option Int}
    (hL : L.Evidenced) (h : setControls epoch p blocked paused t L = .ok (u, L')) :
    L'.Evidenced := by
  simp only [setControls, ok_iff, epoch_iff] at h
  obtain ⟨_, -, _, -, current, -, _, -, hupsert⟩ := h
  obtain ⟨t', rfl, hrows⟩ := mem_of_upsert hupsert
  refine hL.of_rows (fun r hr evidence hevidence => .inl ?_) fun event hevent =>
    ⟨event, hevent, rfl⟩
  obtain hold | rfl | ⟨q, hq, -, rfl⟩ := hrows r hr
  · exact ⟨r, hold, rfl, hevidence⟩
  · cases hevidence
  · exact ⟨q, hq, rfl, hevidence⟩

theorem resolveDivergence_evidenced {head : Option GitCommitId} (hL : L.Evidenced)
    (h : resolveDivergenceKeepCanonical epoch p head evidenceDigest t L = .ok (u, L')) :
    L'.Evidenced := by
  simp only [resolveDivergenceKeepCanonical, ok_iff, epoch_iff, update_ok_iff, delete_ok_iff] at h
  obtain ⟨_, -, current, -, _, -, _, _, ⟨projects, hprojects, -, rfl⟩,
    _, -, _, -, _, -, _, _, ⟨events, hevents, -, rfl⟩, -, rfl⟩ := h
  refine hL.of_rows (fun r hr evidence hevidence => .inl ?_) fun event hevent =>
    mem_update_column (by exact fun _ _ => rfl) hevents hevent
  obtain ⟨hold, -⟩ | ⟨q, -, -, rfl⟩ := mem_of_update hprojects hr
  · exact ⟨r, hold, rfl, hevidence⟩
  · cases hevidence

/-! ### The owner's resolution -/

/-- The row of a project whose divergence is resolved. -/
def resolvedRow (row : SourceProjectRow) (t : Int) : SourceProjectRow :=
  { row with
    state := .ready, divergentCandidate := none, divergenceChannel := none
    divergenceEvidenceDigest := none, updatedAtMs := t }

section Resolution

variable {row : SourceProjectRow} {evidence : EvidenceDigest}

/-- What a resolution does to the row of the project and to the event of its evidence. -/
theorem resolveDivergence_resolves (hrow : L.projects.lookup (·.projectId) p = some row)
    (hstate : row.state = .sourceDivergedNeedsOwner)
    (hevidence : row.divergenceEvidenceDigest = some evidence)
    (h : resolveDivergenceKeepCanonical epoch p row.canonicalHead evidence t L = .ok (u, L')) :
    L.OpenDivergence p ∧ L'.projects.lookup (·.projectId) p = some (resolvedRow row t) ∧
      ∃ event ∈ L'.divergences.rows, event.key = (p, evidence) ∧
        event.resolvedAtMs.isSome = true := by
  simp only [resolveDivergenceKeepCanonical, ok_iff, epoch_iff, update_ok_iff, delete_ok_iff] at h
  obtain ⟨_, -, current, -, _, -, _, _, ⟨projects, hprojects, -, rfl⟩,
    _, -, _, -, active, hactive, resolved, _,
    ⟨events, hevents, hcount, rfl⟩, hresolved, rfl⟩ := h
  obtain ⟨event, hevent, hopen⟩ := count_pos_iff.mp (by rw [hcount]; omega)
  simp only [where_iff, isNone_iff_eq_none] at hopen
  obtain ⟨⟨hproject, hunresolved⟩, rfl⟩ := hopen
  refine ⟨⟨event, hevent, hproject, hunresolved⟩, ?_, ?_⟩
  · change projects.lookup _ _ = _
    rw [lookup_update (by exact fun _ _ => rfl) hprojects]
    change (L.projects.lookup _ _).map _ = _
    rw [hrow, map_some, assign_of_pos]
    · rfl
    · simp [key_of_lookup hrow, hstate, hevidence]
  · obtain ⟨own, hown⟩ := isSome_iff_exists.mp hactive
    have hkey := key_of_lookup hown
    have hmem := mem_of_lookup hown
    by_cases hopen : own.resolvedAtMs = none
    · refine ⟨_, mem_update_of_pos hevents hmem ?_, hkey, rfl⟩
      simp [hopen, (Prod.mk.inj hkey).1]
    · refine ⟨own, mem_update_of_neg hevents hmem ?_, hkey, isSome_iff_ne_none.mpr hopen⟩
      simp [hopen]

theorem resolveDivergence_succeeds (hepoch : requireBrokerEpoch epoch L = .ok ((), L))
    (hL : L.Evidenced) (hrow : L.projects.lookup (·.projectId) p = some row)
    (hstate : row.state = .sourceDivergedNeedsOwner)
    (hevidence : row.divergenceEvidenceDigest = some evidence) (hopen : L.OpenDivergence p) :
    ∃ L', resolveDivergenceKeepCanonical epoch p row.canonicalHead evidence t L = .ok ((), L') := by
  have hmem := mem_of_lookup hrow
  have hproject := key_of_lookup hrow
  have hsnapshot : loadSnapshot p L = .ok (row.snapshot p) := by
    rw [loadSnapshot_eq L p none, view, hrow]
    rfl
  obtain ⟨projects, hprojects⟩ : ∃ projects, L.projects.update
      (fun r => decide (r.projectId = p) && decide (r.canonicalHead = row.canonicalHead) &&
        decide (r.divergenceEvidenceDigest = some evidence) &&
        decide (r.state = .sourceDivergedNeedsOwner)) (resolvedRow · t) = some projects := by
    refine exists_update_keyed (fun _ _ => rfl) fun r hr _ => ?_
    -- only the columns of the divergence change, and they are all empty now
    have hcheck := L.projects.checked r hr
    simp only [sourceProjectSchema, Schema.keyed, Bool.and_eq_true] at hcheck
    simp only [resolvedRow, Bool.and_eq_true]
    exact ⟨hcheck.1, by simp⟩
  obtain ⟨event, hevent, hown, hunresolved⟩ := hopen
  have hactive : (L.divergences.lookup DivergenceEventRow.key (p, evidence)).isSome = true := by
    obtain ⟨own, hmem', hkey⟩ := hL row hmem evidence hevidence
    have hlookup : L.divergences.lookup DivergenceEventRow.key own.key = some own :=
      lookup_of_mem (Schema.separates_keyed _ _) hmem'
    rw [hkey, hproject] at hlookup
    rw [hlookup]
    rfl
  obtain ⟨events, hevents⟩ : ∃ events, L.divergences.update
      (fun r => decide (r.projectId = p) && r.resolvedAtMs.isNone && true)
      (fun r => { r with resolvedAtMs := some t, resolution := some "keep_canonical_head" }) =
        some events :=
    exists_update_keyed (fun _ _ => rfl) fun r _ _ => by simp
  simp only [resolveDivergenceKeepCanonical, ok_iff, update_ok_iff, delete_ok_iff]
  refine ⟨_, (), L, hepoch, row.snapshot p, hsnapshot, (), ⟨hstate, rfl, hevidence⟩, 1, _,
    ⟨projects, hprojects, ?_, rfl⟩, (), rfl, _, rfl, true, hactive, _, _,
    ⟨events, hevents, rfl, rfl⟩, ?_, rfl⟩
  · refine (count_eq_one_iff projects_by_id fun r hr => ?_).mpr ⟨row, hrow, ?_⟩
    · simp only [where_iff] at hr
      exact hr.1.1.1
    · simp [hproject, hstate, hevidence]
  · refine (count_pos_iff.mpr ⟨event, hevent, ?_⟩).ne'
    simp [hown, hunresolved]

end Resolution

end SourceLedger

theorem LedgerStep.evidenced {codec : SourceCodec} {o : SourceOrigin} {L L' : SourceLedger}
    (h : LedgerStep codec o L L') (hL : L.Evidenced) : L'.Evidenced := by
  obtain ⟨hprojects, -, hevents⟩ | h := h.head_cases
  · rw [SourceLedger.Evidenced, hprojects, hevents]
    exact hL
  cases h with
  | acceptIfCurrent _ h => exact acceptIfCurrent_evidenced hL h
  | markDiverged h => exact markDiverged_evidenced hL h
  | setControls h => exact setControls_evidenced hL h
  | resolveDivergence h => exact resolveDivergence_evidenced hL h

section Resolution

variable {W : Type} {codec : SourceCodec} {outside : SourceOutside W}
  {refs : ProjectId → Option GitCommitId} {w : W} {c : SourceConfig W} {b : DurableSourceBroker}

/-- The evidence that a project shows. -/
def SourceView.evidence (v : SourceView) : Option EvidenceDigest :=
  v.row.bind (·.divergenceEvidenceDigest)

/-- Resolving the divergence of the project with its head and evidence makes it ready again, with
the same head and sequence, and leaves its event resolved. -/
def ResolvesDivergence (outside : SourceOutside W) (b : DurableSourceBroker) (s : SourceState W)
    (p : ProjectId) (evidence : EvidenceDigest) (t : Int) : Prop :=
  ∃ s', (b.resolveDivergenceKeepCanonical outside p (sourceView (.inl p) s).head evidence t).run s =
      (.ok (), s') ∧
    (sourceView (.inl p) s').state = .ready ∧
    (sourceView (.inl p) s').head = (sourceView (.inl p) s).head ∧
    (sourceView (.inl p) s').sequence = (sourceView (.inl p) s).sequence ∧
    ∃ event ∈ s'.ledger.divergences.rows, event.key = (p, evidence) ∧
      event.resolvedAtMs.isSome = true

theorem resolveDivergence_run {s : SourceState W} {p : ProjectId} (evidence : EvidenceDigest)
    (t : Int) (hb : Serving b s) (hlock : outside.HoldsLock) (hanswers : outside.AnswersHead p)
    (hinstalled : (b.installed p).isSome = true)
    (href : (sourceView (.inl p) s).ref = (sourceView (.inl p) s).head) :
    ∃ w, (b.resolveDivergenceKeepCanonical outside p (sourceView (.inl p) s).head evidence t).run s =
      (transact (resolveDivergenceKeepCanonical b.epoch p
        (sourceView (.inl p) s).head evidence t) : SourceProg W Unit).run { s with world := w } := by
  obtain ⟨w₁, h₁⟩ := DurableSourceBroker.lockCoordination_run hb hlock hinstalled
  obtain ⟨w₂, h₂⟩ := acceptedHead_run hanswers
  refine ⟨w₂, (Prog.run_bind_of_ok h₁).trans ((Prog.run_bind_of_ok h₂).trans ?_)⟩
  have hsame : (Prog.ensure (s.refs p = (sourceView (.inl p) s).head) .ownerResolutionMismatch :
      SourceProg W Unit).run { s with world := w₂ } = (.ok (), { s with world := w₂ }) :=
    Prog.run_ensure_ok_iff.mpr ⟨href, rfl⟩
  exact Prog.run_bind_of_ok hsame

/-- The owner can resolve a divergence exactly when an event of the project is still open. -/
theorem divergence_resolves_iff
    {threads : SourceSlot → Option (SourceCall × Prog (SourceState W) SourceFailure SourceReply)}
    {p : ProjectId} {evidence : EvidenceDigest} {t : Int}
    (hlock : outside.HoldsLock) (hanswers : outside.AnswersHead p)
    (h : Reachable (sourceService codec outside) (newBroker refs w) c)
    (hmode : c.mode = .serving b threads) (hinstalled : (b.installed p).isSome = true)
    (hstate : (projectView c p).state = .sourceDivergedNeedsOwner)
    (hevidence : (projectView c p).evidence = some evidence)
    (href : (projectView c p).ref = (projectView c p).head) :
    ResolvesDivergence outside b c.state p evidence t ↔ c.state.ledger.OpenDivergence p := by
  have hledger : c.state.ledger.Evidenced := newBroker_ledger_invariant
    (fun _ hr => absurd hr List.not_mem_nil) (fun _ _ h => h) (fun _ _ _ hstep => hstep.evidenced) h
  have hb := newBroker_serving h hmode
  obtain ⟨row, hrow⟩ : ∃ row, c.state.ledger.projects.lookup (·.projectId) p = some row := by
    cases hrow : c.state.ledger.projects.lookup (·.projectId) p with
    | some row => exact ⟨row, rfl⟩
    | none =>
      rw [SourceView.evidence, show (projectView c p).row = none from hrow] at hevidence
      cases hevidence
  have hview : (projectView c p).row = some row := hrow
  have hhead : (sourceView (.inl p) c.state).head = row.canonicalHead := by
    change (projectView c p).row.bind _ = _
    rw [hview, bind_some]
  rw [SourceView.state, hview] at hstate
  rw [SourceView.evidence, hview] at hevidence
  -- up to the transaction the call only asks the world
  obtain ⟨w', hrun⟩ := resolveDivergence_run evidence t hb hlock hanswers hinstalled href
  constructor
  · rintro ⟨s', hs', -⟩
    rw [hrun] at hs'
    obtain ⟨L, hL, -⟩ := transact_run_ok_iff.mp hs'
    rw [hhead] at hL
    exact (resolveDivergence_resolves hrow hstate hevidence hL).1
  · intro hopen
    obtain ⟨L, hL⟩ := resolveDivergence_succeeds
      (requireBrokerEpoch_current hb.epoch hb.positive hb.bound) hledger hrow hstate
      hevidence hopen
    obtain ⟨-, hrow', hevent⟩ := resolveDivergence_resolves hrow hstate hevidence hL
    refine ⟨{ c.state with ledger := L, world := w' }, ?_, ?_, ?_, ?_, hevent⟩
    · rw [hrun, hhead]
      exact transact_run_ok_iff.mpr ⟨L, hL, rfl⟩
    · change (L.projects.lookup _ _).elim _ _ = _
      rw [hrow']
      rfl
    · rw [hhead]
      change (L.projects.lookup _ _).bind _ = _
      rw [hrow']
      rfl
    · change (L.projects.lookup _ _).elim _ _ = (projectView c p).row.elim _ _
      rw [hrow', hview]
      rfl

end Resolution

/-! ### A divergence that comes back -/

namespace SourceSample

/-- A push that takes the sample's branch back to its first commit. -/
def rewind (deliveryId : String) : SourceCall := push deliveryId (some secondCommit) firstCommit

def resolution : SourceCall := .resolveDivergenceKeepCanonical project (some secondCommit) 0 20

def ahead : SourceState Nat :=
  after (service.call broker (push "one" none secondCommit)) started

def diverged : SourceState Nat :=
  after (service.call broker (rewind "two")) ahead

def resolvedOnce : SourceState Nat :=
  after (service.call broker resolution) diverged

def divergedAgain : SourceState Nat :=
  after (service.call broker (rewind "three")) resolvedOnce

theorem diverged_reaches : Reachable service fresh (idle broker diverged) :=
  (start_reaches.trans (answered (push "one" none secondCommit) rfl rfl)).trans
    (answered (rewind "two") rfl rfl)

/-- The owner resolves a divergence, the same push comes again under another delivery id, and the
project stays diverged: the resolution finds no open event. -/
theorem divergence_again_unresolvable :
    ∃ c, Reachable service fresh c ∧
      c.mode = .serving broker (fun _ => none) ∧
      (projectView c project).state = .sourceDivergedNeedsOwner ∧
      (projectView c project).evidence = some 0 ∧
      (projectView c project).head = some secondCommit ∧
      (projectView c project).ref = some secondCommit ∧
      ((broker.resolveDivergenceKeepCanonical outside project (some secondCommit) 0 30).run
        c.state).1 = .error (.corruptLedger "divergence audit event") := by
  have hreaches : Reachable service fresh (idle broker divergedAgain) :=
    (diverged_reaches.trans (answered resolution rfl rfl)).trans (answered (rewind "three") rfl rfl)
  exact ⟨_, hreaches, rfl, by decide +kernel, by decide +kernel, by decide +kernel,
    by decide +kernel, by decide +kernel⟩

theorem divergence_once_resolves :
    (projectView (idle broker diverged) project).state =
      .sourceDivergedNeedsOwner ∧ ResolvesDivergence outside broker diverged project 0 20 := by
  have hopen : diverged.ledger.OpenDivergence project := by
    have hevents : (diverged.ledger.divergences.rows.any fun event =>
      decide (event.projectId = project) && event.resolvedAtMs.isNone) = true := by decide +kernel
    obtain ⟨event, hmem, hevent⟩ := List.any_eq_true.mp hevents
    simp only [where_iff, isNone_iff_eq_none] at hevent
    exact ⟨event, hmem, hevent⟩
  refine ⟨by decide +kernel, ?_⟩
  exact (divergence_resolves_iff (fun _ => rfl) (fun _ => rfl) diverged_reaches rfl
    (by decide +kernel) (by decide +kernel) (by decide +kernel) (by decide +kernel)).mpr hopen

end SourceSample

end Rdashboard
