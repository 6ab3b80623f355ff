import Rdashboard.Security.Frames

/-! # The course of an attempt

What the phase tables say about one attempt, and everything that an operation can do to it.
`CourseStep` lists the changes with the conditions under which they are made.  The invariants of
the phase journal are invariants of `CourseStep`. -/

namespace Rdashboard

open Relational Relational.Session SecurityStore Function TableRef Table List Schema
variable {r e : PhaseJournalEntry}

/-- The rows of the phase tables of one attempt. -/
structure Course where
  entries : PhaseKey → Option PhaseJournalEntry
  receipts : PhaseKey → Option PhaseReceiptRow
  takeover : Option RollbackTakeover
  specs : PhaseKey → Option AuthorizedPhaseSpecRecord
  chains : PhaseKey → Option VerifiedBackupChainRecord
  rejections : PhaseKey → Option SourceGateRejectionRow

namespace Course

/-- The course of an attempt that has done nothing. -/
def empty : Course := ⟨fun _ => none, fun _ => none, none, fun _ => none, fun _ => none, fun _ => none⟩

variable (C : Course)

def Committed (key : PhaseKey) : Prop := ∃ e, C.entries key = some e ∧ e.status = .committed

/-- The phase has an entry that is not committed. -/
def Pending (key : PhaseKey) : Prop := ∃ e, C.entries key = some e ∧ e.status ≠ .committed

/-- The branch of a phase is not sealed. -/
def Open (branch : ExecutorPhaseBranch) : Prop := branch = .primary → C.takeover = none

def setEntry (key : PhaseKey) (e : PhaseJournalEntry) : Course :=
  { C with entries := update C.entries key (some e) }

def setReceipt (key : PhaseKey) (r : PhaseReceiptRow) : Course :=
  { C with receipts := update C.receipts key (some r) }

def setTakeover (t : RollbackTakeover) : Course := { C with takeover := some t }

def setSpec (key : PhaseKey) (r : AuthorizedPhaseSpecRecord) : Course :=
  { C with specs := update C.specs key (some r) }

def setChain (key : PhaseKey) (r : VerifiedBackupChainRecord) : Course :=
  { C with chains := update C.chains key (some r) }

def setRejection (key : PhaseKey) (r : SourceGateRejectionRow) : Course :=
  { C with rejections := update C.rejections key (some r) }

end Course

namespace SecurityStore

variable {t : Table rejectionSchema} {r : SourceGateRejectionRow}

/-- The course of every attempt. -/
def course (S : SecurityStore) (a : Uuid) : Course where
  entries := S.loadPhaseEntry a
  receipts := S.receiptRow a
  takeover := S.takeover a
  specs := S.loadAuthorizedPhaseSpec a
  chains := S.chainRow a
  rejections := S.rejection a

/-- The operation changes the course of `b` to `C`, and no other. -/
def Turns (S S' : SecurityStore) (b : Uuid) (C : Course) : Prop :=
  S'.course = update S.course b C

variable {S S' S'' : SecurityStore} {a b : Uuid} {key : PhaseKey} {C D : Course}

theorem Turns.self (h : Turns S S' b C) : S'.course b = C := by
  rw [h, update_self]

theorem Turns.other (h : Turns S S' b C) (ha : a ≠ b) : S'.course a = S.course a := by
  rw [h, update_of_ne ha]

theorem Turns.trans (h₁ : Turns S S' b C) (h₂ : Turns S' S'' b D) : Turns S S'' b D := by
  rw [Turns, h₂, h₁, update_idem]

/-! ### Statements on the phase tables -/

theorem phases_by_slot : phaseSchema.Separates PhaseJournalEntry.slot :=
  separates_keyed _ _

theorem takeovers_by_attempt : takeoverSchema.Separates (·.attemptId) := separates_keyed _ _

theorem receipts_by_slot : phaseReceiptSchema.Separates PhaseReceiptRow.slot :=
  fun _ _ h => (decide_eq_true_eq.mp h).1

theorem receipts_by_digest : phaseReceiptSchema.Separates (·.receiptDigest) :=
  fun _ _ h => (decide_eq_true_eq.mp h).2

theorem authorizations_by_attempt : authorizationSchema.Separates (·.attemptId) :=
  fun _ _ h => (decide_eq_true_eq.mp h).2

/-- A statement that writes one row of a phase table turns the course of the row's attempt. -/
theorem turns_of_slot {β : Type} {f g : Uuid → PhaseKey → Option β} {x : β}
    (set : (PhaseKey → Option β) → Course → Course)
    (h : ∀ a k, g a k = if (b, key) = (a, k) then some x else f a k)
    (hS : ∀ a, S.course a = set (f a) (S.course a))
    (hS' : ∀ a, S'.course a = set (g a) (S.course a)) :
    Turns S S' b (set (update (f b) key (some x)) (S.course b)) := by
  funext a
  rw [hS']
  by_cases ha : a = b
  · subst ha
    rw [update_self]
    congr 1
    funext k
    rw [h]
    by_cases hk : k = key
    · subst hk
      rw [if_pos rfl, update_self]
    · rw [if_neg fun he => hk (Prod.ext_iff.mp he).2.symm, update_of_ne hk]
  · have hg : g a = f a := funext fun k =>
      (h a k).trans (if_neg fun he => ha (Prod.ext_iff.mp he).1.symm)
    rw [update_of_ne ha, hg, ← hS]

/-- An `INSERT` into a phase table turns the course of the new row's attempt. -/
theorem turns_insert {ρ : Type} {T : Schema ρ} {slot : ρ → Uuid × PhaseKey} {t t' : Table T} {r : ρ}
    (set : (PhaseKey → Option ρ) → Course → Course) (hslot : T.Separates slot)
    (h : t.insert r = some t')
    (hS : ∀ a, S.course a = set (fun k => t.lookup slot (a, k)) (S.course a))
    (hS' : ∀ a, S'.course a = set (fun k => t'.lookup slot (a, k)) (S.course a)) :
    Turns S S' (slot r).1 (set (update (fun k => t.lookup slot ((slot r).1, k)) (slot r).2 (some r))
      (S.course (slot r).1)) :=
  turns_of_slot set (fun a k => lookup_insert hslot h (a, k)) hS hS'

theorem turns_insert_takeover {r : RollbackTakeover} {t : Table takeoverSchema}
    (h : S.takeovers.insert r = some t) :
    Turns S { S with takeovers := t } r.attemptId ((S.course r.attemptId).setTakeover r) := by
  funext a
  have hload : ({ S with takeovers := t } : SecurityStore).takeover a =
      if r.attemptId = a then some r else S.takeover a :=
    lookup_insert takeovers_by_attempt h a
  by_cases ha : a = r.attemptId
  · subst ha
    rw [update_self]
    rw [if_pos rfl] at hload
    exact congrArg (fun e => { S.course r.attemptId with takeover := e }) hload
  · rw [update_of_ne ha]
    rw [if_neg fun he => ha he.symm] at hload
    exact congrArg (fun e => { S.course a with takeover := e }) hload

/-- An `UPDATE` whose condition selects the row of one slot. -/
theorem lookup_update_slot {ρ : Type} {T : Schema ρ} {slot : ρ → Uuid × PhaseKey} {t t' : Table T}
    {p : ρ → Bool} {F : ρ → ρ} {r : ρ} (h : t.update p F = some t')
    (hp : ∀ r, p r = true → slot r = (b, key) ∧ slot (F r) = (b, key))
    (hr : t.lookup slot (b, key) = some r) (hpr : p r = true) (a : Uuid) (k : PhaseKey) :
    t'.lookup slot (a, k) = if (b, key) = (a, k) then some (F r) else t.lookup slot (a, k) := by
  rw [lookup_update_where (fun r hpr => (hp r hpr).2.trans (hp r hpr).1.symm)
    (fun r hpr => (hp r hpr).1) h]
  refine ite_congr rfl (fun hk => ?_) fun _ => rfl
  rw [← hk, hr, Option.map_some, assign_of_pos F hpr]

theorem turns_update_rejection {p : SourceGateRejectionRow → Bool}
    {F : SourceGateRejectionRow → SourceGateRejectionRow} (h : S.rejections.update p F = some t)
    (hp : ∀ r, p r = true → r.slot = (b, key) ∧ (F r).slot = (b, key))
    (hr : S.rejection b key = some r) (hpr : p r = true) :
    Turns S { S with rejections := t } b ((S.course b).setRejection key (F r)) :=
  turns_of_slot (fun e C => { C with rejections := e })
    (lookup_update_slot h hp hr hpr) (fun _ => rfl) fun _ => rfl

end SecurityStore

/-! ### What can happen to a course -/

/-- The changes of an entry that keep its branch open. -/
inductive EntryStep (phase : OperationPhase) : PhaseJournalEntry → PhaseJournalEntry → Prop where
  | observe {e : PhaseJournalEntry} {d : EvidenceDigest} {artifacts : PhaseArtifacts} {t : Int}
      (hs : e.status = .intentPersisted) (hv : artifacts.validateForPhase phase = .ok ()) :
      EntryStep phase e
        { e with observationDigest := some d, artifacts, status := .observed, updatedAtMs := t }
  | verify {e : PhaseJournalEntry} {t : Int} (hs : e.status = .observed) :
      EntryStep phase e { e with status := .verified, updatedAtMs := t }
  | ambiguate {e : PhaseJournalEntry} {t : Int} (hs : e.status ≠ .committed) :
      EntryStep phase e { e with status := .needsReconcile, updatedAtMs := t }
  | misobserve {e : PhaseJournalEntry} {d : EvidenceDigest} {artifacts : PhaseArtifacts} {t : Int}
      (hs : e.status ≠ .committed) (hn : e.status ≠ .needsReconcile) :
      EntryStep phase e { e with observationDigest := some d, artifacts
                                 status := .needsReconcile, updatedAtMs := t }

/-- What `require_phase_prerequisites` has checked when it accepts a phase. -/
structure Course.Admits (C : Course) (plan : ExecutorPhasePlan) (key : PhaseKey) : Prop where
  nodup : plan.orderedPhases.Nodup
  unsealed : C.Open key.branch
  primary : key.branch = .primary → ∃ n, plan.orderedPhases[n]? = some key.phase ∧
    (∀ phase ∈ plan.orderedPhases.take n, C.Committed ⟨.primary, phase⟩) ∧
    ∀ k, C.Committed k → k.branch = .primary ∧ k.phase ∈ plan.orderedPhases.take (n + 1)
  recovery : key.branch = .rollbackRecovery → C.Committed ⟨.primary, .deploying⟩ ∧
    ∃ required allowed, recoveryPhaseSets key.phase = some (required, allowed) ∧
      (∀ phase ∈ required, C.Committed ⟨.rollbackRecovery, phase⟩) ∧
      ∀ k, C.Committed k → k.branch = .rollbackRecovery → k.phase ∈ allowed

/-- The phase that a recovery phase need not wait for. -/
def Course.Ignores (C : Course) (branch : ExecutorPhaseBranch) (key : PhaseKey) : Prop :=
  branch = .rollbackRecovery ∧ ∃ t, C.takeover = some t ∧ key = ⟨.primary, t.forwardPhase⟩

/-- The receipt row that a commit writes. -/
def committedRow (codec : Codec) (a : Uuid) (key : PhaseKey) (e : PhaseJournalEntry)
    (d : EvidenceDigest) (t : Int) : PhaseReceiptRow where
  attemptId := a
  key := key
  receiptDigest := (receiptOf codec e d t).receiptDigest
  receipt := receiptOf codec e d t

/-- The changes that an operation can make to the course of the attempt `a`. -/
inductive CourseStep (codec : Codec) (a : Uuid) : SecurityOperation → Course → Course → Prop where
  | intend {C : Course} {request : PhaseIntentRequest} {key : PhaseKey}
      (ha : request.attemptId = a) (hkey : key = ⟨request.branch, request.phase⟩)
      (hadmits : C.Admits request.phasePlan key) (hnew : C.entries key = none)
      (hfree : ∀ k, C.Pending k → C.Ignores key.branch k) :
      CourseStep codec a (.beginPhaseIntent request) C (C.setEntry key (request.entry key))
  | move {C : Course} {op : SecurityOperation} {key : PhaseKey} {e e' : PhaseJournalEntry}
      (he : C.entries key = some e) (hmove : EntryStep key.phase e e') (ho : C.Open key.branch) :
      CourseStep codec a op C (C.setEntry key e')
  | commit {C : Course} {op : SecurityOperation} {key : PhaseKey} {e : PhaseJournalEntry}
      {d : EvidenceDigest} {t : Int} (he : C.entries key = some e) (hs : e.status = .verified)
      (hd : e.observationDigest = some d) (hr : C.receipts key = none) (ho : C.Open key.branch) :
      CourseStep codec a op C ((C.setReceipt key (committedRow codec a key e d t)).setEntry key
        { e with status := .committed, updatedAtMs := t })
  | reject {C : Course} {proof : SourceGateProofRecord} {e : PhaseJournalEntry}
      {r : SourceGateRejectionRow} {t : Int} (he : C.entries ⟨.primary, proof.phase⟩ = some e)
      (hs : e.status = .intentPersisted) (hr : r.state = .abortPending) :
      CourseStep codec a (.recordSourceGateProof proof) C
        ((C.setRejection ⟨.primary, proof.phase⟩ r).setEntry ⟨.primary, proof.phase⟩
          { e with status := .needsReconcile, updatedAtMs := t })
  | compensate {C : Course} {op : SecurityOperation} {key : PhaseKey} {e : PhaseJournalEntry}
      {r : SourceGateRejectionRow} {t : Int} (he : C.entries key = some e)
      (hs : e.status = .needsReconcile) (hd : e.observationDigest = none)
      (hartifacts : e.artifacts = PhaseArtifacts.default) (hr : C.rejections key = some r)
      (hp : r.state = .abortPending) (hc : C.receipts key = none) (ho : C.Open key.branch) :
      CourseStep codec a op C
        ((C.setEntry key { e with status := .intentPersisted, updatedAtMs := t }).setRejection key
          { r with state := .compensated, compensatedAtMs := some t })
  | take {C : Course} {p : ProjectId} {d : EvidenceDigest} {t : Int} {e : PhaseJournalEntry}
      (hnone : C.takeover = none) (he : C.entries ⟨.primary, e.key.phase⟩ = some e)
      (hp : e.projectId = p)
      (hs : (e.status = .committed ∧ e.key.phase ∈ takeoverPhases) ∨
        (e.status ≠ .committed ∧ (e.key.phase = .healthChecking ∨ e.key.phase = .soaking)))
      (hpending : ∀ phase, C.Pending ⟨.primary, phase⟩ → phase = e.key.phase) :
      CourseStep codec a (.beginRollbackTakeover a p d t) C
        (C.setTakeover { attemptId := a, projectId := p, forwardPhase := e.key.phase
                         forwardStatus := e.status, forwardIntentDigest := e.intentDigest
                         createdAtMs := t })
  | bindSpec {C : Course} {op : SecurityOperation} {key : PhaseKey} {r : AuthorizedPhaseSpecRecord}
      (ho : C.Open key.branch) (hnew : C.specs key = none) :
      CourseStep codec a op C (C.setSpec key r)
  | bindChain {C : Course} {op : SecurityOperation} {key : PhaseKey} {r : VerifiedBackupChainRecord}
      (hb : key.branch = .primary) (ho : C.Open key.branch) (hnew : C.chains key = none) :
      CourseStep codec a op C (C.setChain key r)

namespace SecurityStore

variable {branch : ExecutorPhaseBranch} {u : Unit} {t : Int} {p : ProjectId}
  {proof : SourceGateProofRecord} {error : SecurityError}

/-- From `S` to `S'` the operation has made at most one change, to one course. -/
def Proceeds (codec : Codec) (op : SecurityOperation) (S S' : SecurityStore) : Prop :=
  S'.course = S.course ∨ ∃ b C, CourseStep codec b op (S.course b) C ∧ Turns S S' b C

variable {codec : Codec} {op : SecurityOperation} {S S' : SecurityStore} {a b : Uuid}
  {key : PhaseKey} {C : Course}

/-- What a call of the operation does. -/
def Runs (codec : Codec) (S : SecurityStore) (op : SecurityOperation) : Prop :=
  Proceeds codec op S (step codec op S)

theorem Proceeds.same (h : S'.course = S.course) : Proceeds codec op S S' := .inl h

theorem Proceeds.turn (h : CourseStep codec b op (S.course b) C) (ht : Turns S S' b C) :
    Proceeds codec op S S' := .inr ⟨b, C, h, ht⟩

/-! ### Reads of a course -/

theorem loadPhaseEntry_spec (h : S.loadPhaseEntry a key = some e) : e.attemptId = a ∧ e.key = key :=
  Prod.ext_iff.mp (key_of_lookup h)

theorem mem_keys_iff {q : PhaseJournalEntry → Bool} :
    key ∈ (S.phases.rows.filter fun r => decide (r.attemptId = a) && q r).map (·.key) ↔
      ∃ e, (S.course a).entries key = some e ∧ q e = true := by
  simp only [mem_map, mem_filter, where_iff]
  constructor
  · rintro ⟨e, ⟨hmem, rfl, hs⟩, rfl⟩
    exact ⟨e, lookup_of_mem phases_by_slot hmem, hs⟩
  · rintro ⟨e, he, hs⟩
    obtain ⟨rfl, rfl⟩ := loadPhaseEntry_spec he
    exact ⟨e, ⟨mem_of_lookup he, rfl, hs⟩, rfl⟩

theorem mem_committedKeys : key ∈ S.committedKeys a ↔ (S.course a).Committed key :=
  mem_keys_iff.trans (by simp [Course.Committed])

theorem mem_uncommittedKeys : key ∈ S.uncommittedKeys a ↔ (S.course a).Pending key :=
  mem_keys_iff.trans (by simp [Course.Pending])

theorem loadRollbackTakeover_ok_iff {o : Option RollbackTakeover} :
    S.loadRollbackTakeover a = .ok o ↔ S.takeover a = o ∧ ∀ t ∈ o, S.sealIntact t = true ∧
      t.forwardPhase ∈ takeoverPhases ∧ (t.forwardStatus = .committed ∨ t.forwardPhase ≠ .deploying) := by
  unfold loadRollbackTakeover
  cases h : S.takeover a with
  | none =>
    rw [Except.ok.injEq]
    exact ⟨fun ho => ⟨ho, by subst ho; rintro _ ⟨⟩⟩, And.left⟩
  | some t =>
    simp only [Check.ok_iff]
    constructor
    · rintro ⟨_, h₁, _, h₂, _, h₃, rfl⟩
      exact ⟨rfl, by rintro _ ⟨⟩; exact ⟨h₁, h₂, h₃⟩⟩
    · rintro ⟨rfl, hall⟩
      obtain ⟨h₁, h₂, h₃⟩ := hall t rfl
      exact ⟨(), h₁, (), h₂, (), h₃, rfl⟩

theorem requireBranchNotTakenOver_ok_iff :
    S.requireBranchNotTakenOver a branch = .ok u ↔ (S.course a).Open branch := by
  cases branch with
  | rollbackRecovery => simp [requireBranchNotTakenOver, Course.Open]
  | primary =>
    simp only [requireBranchNotTakenOver, Check.ok_iff, loadRollbackTakeover_ok_iff, Course.Open,
      forall_const]
    constructor
    · rintro ⟨o, ⟨h, -⟩, rfl⟩
      exact h
    · intro h
      exact ⟨none, ⟨h, by simp⟩, rfl⟩

/-! ### Ambiguous phases -/

theorem isEntry_slot (h : isEntry b key r = true) : r.slot = (b, key) := by
  simp only [isEntry, where_iff] at h
  exact Prod.ext h.1 h.2

theorem isEntry_of_load (h : S.loadPhaseEntry b key = some e) : isEntry b key e = true := by
  obtain ⟨rfl, rfl⟩ := loadPhaseEntry_spec h
  simp [isEntry]

theorem turns_update_entry {p : PhaseJournalEntry → Bool} {F : PhaseJournalEntry → PhaseJournalEntry}
    {tbl : Table phaseSchema} (h : S.phases.update p F = some tbl)
    (hp : ∀ r, p r = true → isEntry b key r = true) (he : S.loadPhaseEntry b key = some e)
    (hpe : isEntry b key e = true → p e = true)
    (hF : ∀ r, (F r).slot = r.slot := by exact fun _ => rfl) :
    Turns S { S with phases := tbl } b ((S.course b).setEntry key (F e)) :=
  turns_of_slot (fun e C => { C with entries := e }) (lookup_update_slot h (fun r hr =>
    ⟨isEntry_slot (hp r hr), (hF r).trans (isEntry_slot (hp r hr))⟩) he (hpe (isEntry_of_load he)))
    (fun _ => rfl) fun _ => rfl

/-- `mark_phase_needs_reconcile` makes an entry that is not committed ambiguous. -/
theorem markPhaseNeedsReconcile_turns (h : markPhaseNeedsReconcile b key t S = .ok (u, S')) :
    ∃ e, S.loadPhaseEntry b key = some e ∧ e.status ≠ .committed ∧
      Turns S S' b ((S.course b).setEntry key { e with status := .needsReconcile, updatedAtMs := t }) := by
  simp only [markPhaseNeedsReconcile, Txn.ok_iff, update_ok_iff] at h
  obtain ⟨n, S₁, ⟨tbl, hupdate, hcount, rfl⟩, rfl, rfl⟩ := h
  have hentry : ∀ r, (isEntry b key r && decide (r.status ≠ .committed)) = true →
      isEntry b key r = true ∧ r.status ≠ .committed := by
    simp
  obtain ⟨e, he, hpe⟩ := (count_eq_one_iff phases_by_slot
    fun r hr => isEntry_slot (hentry r hr).1).mp hcount
  exact ⟨e, he, (hentry e hpe).2,
    turns_update_entry hupdate (fun r hr => (hentry r hr).1) he fun _ => hpe⟩

theorem markPhaseNeedsReconcile_writes
    (h : markPhaseNeedsReconcile b key t S = .ok (u, S')) : ∃ tbl, S' = { S with phases := tbl } := by
  simp only [markPhaseNeedsReconcile, Txn.ok_iff, update_ok_iff] at h
  obtain ⟨_, _, ⟨tbl, -, -, rfl⟩, -, rfl⟩ := h
  exact ⟨tbl, rfl⟩

/-- `reject_source_gate_proof` stores the rejection and marks the entry, and nothing else. -/
theorem rejectSourceGateProof_ok {α : Type} {r : Except SecurityError α}
    (h : rejectSourceGateProof proof ⟨.primary, proof.phase⟩ error S = .ok (r, S')) :
    r = .error error ∧ ∃ e row rejections phases,
      S.loadPhaseEntry proof.attemptId ⟨.primary, proof.phase⟩ = some e ∧
      e.status = .intentPersisted ∧ row.state = RejectionState.abortPending ∧
      S' = { S with rejections, phases } ∧
      Turns S S' proof.attemptId
        (((S.course proof.attemptId).setRejection ⟨.primary, proof.phase⟩ row).setEntry
          ⟨.primary, proof.phase⟩
          { e with status := .needsReconcile, updatedAtMs := proof.checkedAtMs }) := by
  simp only [rejectSourceGateProof, Txn.ok_iff] at h
  obtain ⟨_, rfl, e, he, existing, hexisting, h⟩ := h
  obtain ⟨he, hs⟩ := Option.filter_eq_some_iff.mp he
  have hs := of_decide_eq_true hs
  obtain ⟨ha, hkey⟩ := loadPhaseEntry_spec he
  -- either way the row of the rejection is replaced as a whole, and the entry is marked after it
  have hreject : r = .error error ∧ ∃ row rejections, row.state = RejectionState.abortPending ∧
      Turns S { S with rejections } proof.attemptId
        ((S.course proof.attemptId).setRejection ⟨.primary, proof.phase⟩ row) ∧
      ∃ u, markPhaseNeedsReconcile proof.attemptId ⟨.primary, proof.phase⟩ proof.checkedAtMs
        { S with rejections } = .ok (u, S') := by
    cases existing with
    | some existing =>
      simp only [update_ok_iff, Txn.ok_iff] at h
      obtain ⟨_, S₁, ⟨t, hupdate, -, rfl⟩, u, S₂, hmark, rfl, rfl⟩ := h
      refine ⟨rfl, _, t, ?_, turns_update_rejection hupdate ?_ hexisting ?_, u, hmark⟩
      · rfl
      · intro r hr
        rw [decide_eq_true_eq] at hr
        exact ⟨hr.trans (Prod.ext ha hkey), Prod.ext ha hkey⟩
      · exact decide_eq_true_eq.mpr ((key_of_lookup hexisting).trans (Prod.ext ha hkey).symm)
    | none =>
      simp only [insert_ok_iff, Txn.ok_iff] at h
      obtain ⟨_, S₁, ⟨-, t, hinsert, rfl⟩, u, S₂, hmark, rfl, rfl⟩ := h
      have hturns : Turns S { S with rejections := t } e.attemptId
          ((S.course e.attemptId).setRejection e.key _) :=
        turns_insert (fun e C => { C with rejections := e }) (separates_keyed _ _) hinsert
          (fun _ => rfl) fun _ => rfl
      simp only [ha, hkey] at hturns
      exact ⟨rfl, _, t, rfl, hturns, u, hmark⟩
  obtain ⟨hr, row, rejections, hrow, hturns, u, hmark⟩ := hreject
  obtain ⟨phases, hS'⟩ := markPhaseNeedsReconcile_writes hmark
  obtain ⟨e', he', -, hturns'⟩ := markPhaseNeedsReconcile_turns hmark
  have hee : e' = e := by
    have hload : { S with rejections }.loadPhaseEntry proof.attemptId
        ⟨.primary, proof.phase⟩ = some e :=
      (congrArg (fun C => C.entries ⟨.primary, proof.phase⟩) hturns.self).trans he
    exact Option.some.inj (he'.symm.trans hload)
  subst hee
  have hboth := hturns.trans hturns'
  rw [hturns.self] at hboth
  exact ⟨hr, e', row, rejections, phases, he, hs, hrow, hS', hboth⟩

end SecurityStore

end Rdashboard
