import Rdashboard.Source.Outbox

/-! # The accepted heads of the ledger

Accepted heads are never deleted, and each row is what its attestation says.  The head that a
project shows is the latest of its accepted heads. -/

namespace Rdashboard

open Relational Interleaving Txn TableRef SourceProg List Option Table SourceLedger
variable {R : GitCommitId → GitCommitId → Prop} {rows : List AcceptedHeadRow}
  {a : AcceptedHeadRow} {codec : SourceCodec} {o : SourceOrigin} {L L' : SourceLedger}

theorem Linked.sequence_le (h : Linked R rows) : ∀ a ∈ rows, a.sequence ≤ rows.length := by
  induction h with
  | nil => exact fun a ha => absurd ha not_mem_nil
  | @snoc rows last _ hsequence _ _ ih =>
    intro a ha
    rw [length_append, length_singleton]
    rcases mem_append.mp ha with ha | ha
    · exact (ih a ha).trans (Nat.le_succ _)
    · rw [mem_singleton.mp ha, hsequence]

theorem Linked.sequence_last (h : Linked R rows) (ha : rows.getLast? = some a) :
    a.sequence = rows.length := by
  cases h with
  | nil => cases ha
  | snoc _ hsequence _ _ =>
    rw [getLast?_concat] at ha
    cases ha
    rw [hsequence, length_append, length_singleton]

/-- The head that a row is about, as in `SourceOutboxRow.entry`. -/
def AcceptedHeadRow.entry (a : AcceptedHeadRow) :
    ProjectId × Nat × SignedAcceptedHeadV1 × EvidenceDigest :=
  (a.projectId, a.sequence, a.attestation, a.attestationDigest)

namespace SourceLedger

/-- The row is what its attestation says, with an `i64` sequence and the attestation's digest. -/
structure AttestedRow (codec : SourceCodec) (a : AcceptedHeadRow) : Prop where
  row : a = acceptedHeadRow a.attestation a.attestationDigest
  sequence : (a.sequence : Int) ≤ i64Max
  digest : a.attestation.digest codec = a.attestationDigest

def Attested (codec : SourceCodec) (L : SourceLedger) : Prop :=
  ∀ a ∈ L.acceptedHeads.rows, AttestedRow codec a

/-- The latest accepted head of its project. -/
structure Latest (L : SourceLedger) (a : AcceptedHeadRow) : Prop where
  mem : a ∈ L.acceptedHeads.rows
  latest : ∀ a' ∈ L.acceptedHeads.rows, a'.projectId = a.projectId → a'.sequence ≤ a.sequence

theorem accepted_by_sequence : acceptedHeadSchema.Separates fun a => (a.projectId, a.sequence) := by
  intro a a' h heq
  simp only [acceptedHeadSchema, decide_eq_true_eq] at h
  exact h.1 heq

theorem accepted_by_digest :
    acceptedHeadSchema.Separates fun a => (a.projectId, a.attestationDigest) := by
  intro a a' h heq
  simp only [acceptedHeadSchema, decide_eq_true_eq] at h
  exact h.2 heq

/-- Accepted heads stay, and a new one is what its attestation says. -/
structure AcceptsMore (codec : SourceCodec) (L L' : SourceLedger) : Prop where
  keeps : ∀ a ∈ L.acceptedHeads.rows, a ∈ L'.acceptedHeads.rows
  back : ∀ a ∈ L'.acceptedHeads.rows, a ∈ L.acceptedHeads.rows ∨ AttestedRow codec a

theorem AcceptsMore.of_eq (h : L'.acceptedHeads = L.acceptedHeads) : AcceptsMore codec L L' :=
  ⟨fun _ ha => h ▸ ha, fun _ ha => .inl (h ▸ ha)⟩

theorem Latest.eq_of_le {a' : AcceptedHeadRow} (h : L.Latest a) (ha' : a' ∈ L.acceptedHeads.rows)
    (hproject : a'.projectId = a.projectId) (hle : a.sequence ≤ a'.sequence) : a' = a :=
  eq_of_key accepted_by_sequence ha' h.mem
    (Prod.ext hproject (le_antisymm (h.latest a' ha' hproject) hle))

end SourceLedger

theorem LedgerStep.acceptsMore
    (h : LedgerStep codec o L L') : SourceLedger.AcceptsMore codec L L' := by
  obtain ⟨-, h, -⟩ | h := h.head_cases
  · exact .of_eq h
  cases h
  case acceptIfCurrent hdigest h =>
    obtain ⟨w, rfl | ⟨hle, heads, projects, hheads, -, rfl⟩⟩ := acceptIfCurrent_tables h
    · exact .of_eq rfl
    · refine ⟨fun a ha => mem_insert_of_mem hheads ha, fun a ha => ?_⟩
      rw [rows_insert hheads] at ha
      rcases mem_append.mp ha with ha | ha
      · exact .inl ha
      · rw [mem_singleton.mp ha]
        exact .inr ⟨rfl, hle, hdigest⟩
  all_goals exact .of_eq (frame ‹_ = Except.ok _›)

theorem LedgerStep.attested
    (h : LedgerStep codec o L L') (hL : L.Attested codec) : L'.Attested codec := by
  intro a ha
  rcases h.acceptsMore.back a ha with ha | ha
  · exact hL a ha
  · exact ha

/-! ### The head that a project shows -/

section Known

variable {W : Type} {R : ProjectId → GitCommitId → GitCommitId → Prop} {s : SourceState W}

theorem mem_accepted_view {p : ProjectId} :
    a ∈ (sourceView (.inl p) s).accepted ↔ a ∈ s.ledger.acceptedHeads.rows ∧ a.projectId = p := by
  rw [show (sourceView (.inl p) s).accepted = s.ledger.acceptedHeads.rows.filter _ from rfl,
    mem_filter, decide_eq_true_eq]

section

variable (hknown : SourceKnown R s)
include hknown

theorem SourceKnown.latest {p : ProjectId}
    (ha : (sourceView (.inl p) s).accepted.getLast? = some a) :
    s.ledger.Latest a ∧ a.projectId = p ∧ a.sequence = (sourceView (.inl p) s).sequence := by
  obtain ⟨hmem, hproject⟩ := mem_accepted_view.mp (mem_of_getLast? ha)
  have hlast := (hknown p).linked.sequence_last ha
  refine ⟨⟨hmem, fun a' ha' hproject' => ?_⟩, hproject, hlast.trans (hknown p).sequence.symm⟩
  rw [hlast]
  exact (hknown p).linked.sequence_le a' (mem_accepted_view.mpr ⟨ha', hproject'.trans hproject⟩)

theorem SourceKnown.shown (hattested : s.ledger.Attested codec)
    {row : SourceProjectRow} (hrow : row ∈ s.ledger.projects.rows) {d : VerifiedSourceDelivery}
    (h : row.Shows d) : ∃ a, s.ledger.Latest a ∧ a.entry = d.entry ∧ a.sequence = row.sequence := by
  have hlookup : s.ledger.projects.lookup (·.projectId) row.projectId = some row :=
    lookup_of_mem projects_by_id hrow
  have hview : (sourceView (.inl row.projectId) s).row = some row := hlookup
  have hattestation := (hknown row.projectId).attestation
  have hdigest := (hknown row.projectId).digest
  rw [SourceView.attestation, hview, bind_some, h.attestation] at hattestation
  rw [SourceView.attestationDigest, hview, bind_some, h.digest] at hdigest
  obtain ⟨a, ha, hsigned⟩ := map_eq_some_iff.mp hattestation.symm
  rw [ha] at hdigest
  obtain ⟨hlatest, hproject, hsequence⟩ := hknown.latest ha
  refine ⟨a, hlatest, ?_, ?_⟩
  · have hpayload := congrArg AcceptedHeadRow.sequence (hattested a hlatest.mem).row
    change a.sequence = a.attestation.payload.sequence at hpayload
    unfold AcceptedHeadRow.entry VerifiedSourceDelivery.entry
    rw [hproject, h.project, hpayload, hsigned, some.inj hdigest]
  · rw [hsequence, SourceView.sequence, hview, elim_some]

/-- The latest accepted head of a project is the one that it shows. -/
theorem SourceKnown.view_latest
    (ha : s.ledger.Latest a) : (sourceView (.inl a.projectId) s).accepted.getLast? = some a := by
  have hmem : a ∈ (sourceView (.inl a.projectId) s).accepted := mem_accepted_view.mpr ⟨ha.mem, rfl⟩
  cases hlast : (sourceView (.inl a.projectId) s).accepted.getLast? with
  | none =>
    rw [getLast?_eq_none_iff.mp hlast] at hmem
    exact absurd hmem not_mem_nil
  | some a' =>
    obtain ⟨hlatest, hproject, -⟩ := hknown.latest hlast
    rw [ha.eq_of_le hlatest.mem hproject (hlatest.latest a ha.mem hproject.symm)]

/-- A row of the outbox about the latest accepted head is about the current one. -/
theorem SourceKnown.current
    (ha : s.ledger.Latest a) {r : SourceOutboxRow} (hentry : r.entry = a.entry) :
    s.ledger.Current r := by
  have hlast := hknown.view_latest ha
  obtain ⟨-, -, hsequence⟩ := hknown.latest hlast
  have hdigest := (hknown a.projectId).digest
  rw [hlast] at hdigest
  obtain ⟨row, hrow, hshown⟩ := bind_eq_some_iff.mp hdigest
  have hlookup : s.ledger.projects.lookup (·.projectId) a.projectId = some row := hrow
  obtain ⟨hproject, hsequence', -, hdigest'⟩ : r.projectId = a.projectId ∧
      r.sourceSequence = a.sequence ∧ r.attestation = a.attestation ∧
      r.attestationDigest = a.attestationDigest := by
    simpa [SourceOutboxRow.entry, AcceptedHeadRow.entry] using hentry
  refine ⟨row, mem_of_lookup hlookup, (key_of_lookup hlookup).trans hproject.symm, ?_,
    hshown.trans (congrArg some hdigest'.symm)⟩
  rw [hsequence', hsequence, SourceView.sequence, hrow, elim_some]

end

end Known

end Rdashboard
