import Rdashboard.Security.Fencing
import Rdashboard.Security.Resources
import Rdashboard.Security.Takeovers

/-! # Maintenance of a project

The attempts that hold a reserved backup boundary, a reserved drain identity or a fence that is
not released, and what an operation can do to them. -/

namespace Rdashboard

open Relational List Txn Option

namespace SecurityStore

/-! ### The rows of a project -/

section Reads

variable (S : SecurityStore) (p : ProjectId)

def reservedBoundaries : List BackupBoundaryRow :=
  S.boundaries.rows.filter fun r => r.projectId = p && r.state = .reserved

def reservedDrains : List DrainIdentityRow :=
  S.drains.rows.filter fun r => r.projectId = p && r.state = .reserved

def activeFences : List FenceLease :=
  S.fences.rows.filter fun r => r.projectId = p && r.state ≠ .released

/-- The attempts of the rows that keep other attempts away from the project. -/
def maintainers : List Uuid :=
  (S.reservedBoundaries p).map (·.attemptId) ++ (S.reservedDrains p).map (·.attemptId) ++
    (S.activeFences p).map (·.attemptId)

end Reads

variable {codec : Codec} {op : SecurityOperation} {S S' : SecurityStore} {a b : Uuid}
  {p : ProjectId} {key : PhaseKey}

theorem loadActiveBackupBoundary_eq_none_iff :
    S.loadActiveBackupBoundary p = none ↔ S.reservedBoundaries p = [] := by
  unfold loadActiveBackupBoundary reservedBoundaries
  rw [map_eq_none_iff, argmax_eq_none]

theorem loadActiveDrainIdentity_eq_none_iff_nil :
    S.loadActiveDrainIdentity p = none ↔ S.reservedDrains p = [] := by
  unfold loadActiveDrainIdentity reservedDrains
  rw [map_eq_none_iff, argmax_eq_none]

theorem loadActiveFence_eq_none_iff_nil :
    S.loadActiveFence p = none ↔ S.activeFences p = [] := argmax_eq_none

/-- Each of the three journals shows the attempt of one of its rows, if it has one. -/
theorem mem_maintainers_of_mem_argmax {ρ : Type} {rows : List ρ} {u : ρ → Uuid} {e : ρ → Nat}
    (ha : a ∈ rows.map u) : ∃ r, rows.argmax e = some r ∧ u r ∈ rows.map u := by
  cases h : rows.argmax e with
  | none =>
    rw [argmax_eq_none.mp h] at ha
    cases ha
  | some r => exact ⟨r, rfl, mem_map_of_mem (argmax_mem h)⟩

/-- An attempt that may take a resource of the project is the one that maintains it. -/
theorem maintainer_of_allowed (halone : (S.maintainers p).length ≤ 1)
    (hallowed : S.requireProjectResourceAllowed p b = .ok ()) (ha : a ∈ S.maintainers p) :
    a = b := by
  simp only [requireProjectResourceAllowed, Check.ok_iff] at hallowed
  obtain ⟨_, -, hfence, hdrain, hboundary⟩ := hallowed
  have hsame : ∀ c ∈ S.maintainers p, a = c := by
    obtain ⟨x, hx⟩ := length_eq_one_iff.mp (le_antisymm halone (length_pos_of_mem ha))
    rw [hx] at ha
    intro c hc
    rw [hx] at hc
    rw [mem_singleton.mp ha, mem_singleton.mp hc]
  unfold maintainers at ha hsame
  simp only [mem_append] at ha hsame
  rcases ha with (ha | ha) | ha
  · obtain ⟨r, hr, hmem⟩ := mem_maintainers_of_mem_argmax ha
    rw [hsame _ (.inl (.inl hmem))]
    exact hboundary _ (map_eq_some_iff.mpr ⟨r, hr, rfl⟩)
  · obtain ⟨r, hr, hmem⟩ := mem_maintainers_of_mem_argmax ha
    rw [hsame _ (.inl (.inr hmem))]
    exact hdrain _ (map_eq_some_iff.mpr ⟨r, hr, rfl⟩)
  · obtain ⟨r, hr, hmem⟩ := mem_maintainers_of_mem_argmax ha
    rw [hsame _ (.inr hmem)]
    exact hfence r hr

theorem receiptRow_of_required {phase : OperationPhase}
    (h : S.requirePhaseReceipt codec a phase = .ok ()) :
    (S.receiptRow a ⟨.primary, phase⟩).isSome := by
  simp only [requirePhaseReceipt, Check.ok_iff] at h
  obtain ⟨receipt, hload, hsome⟩ := h
  unfold loadPhaseReceipt at hload
  cases hrow : S.receiptRow a ⟨.primary, phase⟩ with
  | none =>
    rw [hrow] at hload
    cases hload
    cases hsome
  | some row => rfl

/-! ### Frames -/

theorem boundaries_step (hbegin : ∀ p a token t, op ≠ .beginBackupBoundary p a token t)
    (hcommit : ∀ a phase branch t, op ≠ .commitPhaseReceiptInBranch a phase branch t) :
    (step codec op S).boundaries = S.boundaries := by
  cases op with
  | beginBackupBoundary p a token t => exact absurd rfl (hbegin p a token t)
  | commitPhaseReceiptInBranch a phase branch t => exact absurd rfl (hcommit a phase branch t)
  | _ => exact step_keeps _ (by (repeat' apply And.intro) <;> exact fun _ _ => rfl) S

theorem receipts_step
    (hcommit : ∀ a phase branch t, op ≠ .commitPhaseReceiptInBranch a phase branch t) :
    (step codec op S).receipts = S.receipts := by
  cases op with
  | commitPhaseReceiptInBranch a phase branch t => exact absurd rfl (hcommit a phase branch t)
  | _ => exact step_keeps _ (by (repeat' apply And.intro) <;> exact fun _ _ => rfl) S

theorem spec_step {r : AuthorizedPhaseSpecRecord} (h : S.loadAuthorizedPhaseSpec a key = some r)
    (op : SecurityOperation) : (step codec op S).loadAuthorizedPhaseSpec a key = some r := by
  have hcourse : ∀ S : SecurityStore, S.loadAuthorizedPhaseSpec a key = (S.course a).specs key :=
    fun _ => rfl
  rw [hcourse] at h ⊢
  rcases course_cases codec op S a with hsame | hC
  · rw [hsame, h]
  · generalize (step codec op S).course a = C at hC ⊢
    cases hC with
    | @bindSpec _ _ k r' ho hnew =>
      have hk : key ≠ k := by
        rintro rfl
        rw [hnew] at h
        cases h
      exact (Function.update_of_ne hk _ _).trans h
    | _ => exact h

/-! ### The operations -/

/-- The backup boundaries after `close_backup_boundary_if_needed` for the attempt `a`. -/
def closed (a : Uuid) (t : Int) : BackupBoundaryRow → BackupBoundaryRow :=
  assign (fun r => r.attemptId = a && r.state = .reserved)
    fun r => { r with state := .released, updatedAtMs := t }

theorem closed_reserved {t : Int} {r : BackupBoundaryRow} (h : (closed a t r).state = .reserved) :
    closed a t r = r ∧ r.attemptId ≠ a := by
  unfold closed assign at h ⊢
  split at h
  · cases h
  · rename_i hr
    rw [if_neg hr]
    exact ⟨rfl, fun ha => hr (by simp [ha, h])⟩

/-- `close_backup_boundary_if_needed` closes the boundaries of an attempt whose base backup has a
bound specification. -/
theorem closeBackupBoundaryIfNeeded_rows {t : Int} {u : Unit}
    (h : closeBackupBoundaryIfNeeded a key t S = .ok (u, S')) : S'.boundaries.rows =
      if key = ⟨.primary, .backingUp⟩ ∧ (S.loadAuthorizedPhaseSpec a key).isSome
      then S.boundaries.rows.map (closed a t) else S.boundaries.rows := by
  simp only [closeBackupBoundaryIfNeeded, ite_ok_iff, bind_ok_iff, read_ok_iff] at h
  rcases h with ⟨hkey, h⟩ | ⟨hkey, spec, _, ⟨hspec, rfl⟩, h⟩
  · obtain ⟨-, rfl⟩ := pure_ok_iff.mp h
    rw [if_neg fun h => hkey h.1]
  · cases spec with
    | none =>
      obtain ⟨-, rfl⟩ := pure_ok_iff.mp h
      rw [if_neg (by simp [hspec])]
    | some spec =>
      simp only [bind_ok_iff, TableRef.update_ok_iff, ensure_ok_iff] at h
      obtain ⟨_, _, ⟨tbl, hupdate, -, rfl⟩, -, rfl⟩ := h
      rw [if_pos ⟨not_not.mp hkey, by simp [hspec]⟩]
      exact Table.rows_update hupdate

/-- From `S` to `S'` the attempt has got at most one receipt; with that of a base backup that has a
bound specification its boundaries have been closed. -/
def Closes (a : Uuid) (t : Int) (S S' : SecurityStore) : Prop :=
  (S'.receipts = S.receipts ∧ S'.boundaries = S.boundaries) ∨
    ∃ key, (∀ b k, (b, k) ≠ (a, key) → S'.receiptRow b k = S.receiptRow b k) ∧ S'.boundaries.rows =
      if key = ⟨.primary, .backingUp⟩ ∧ (S.loadAuthorizedPhaseSpec a key).isSome
      then S.boundaries.rows.map (closed a t) else S.boundaries.rows

theorem commitPhaseReceipt_closes (codec : Codec) (a : Uuid) (phase : OperationPhase)
    (branch : ExecutorPhaseBranch) (t : Int) :
    Closes a t S (step codec (.commitPhaseReceiptInBranch a phase branch t) S) := by
  refine Session.final_lift (P := Closes a t S) (.inl ⟨rfl, rfl⟩) fun key hkey =>
    Session.final_transaction (.inl ⟨rfl, rfl⟩) fun receipt S' h => ?_
  simp only [commitPhaseReceiptTransaction, ok_iff] at h
  obtain ⟨_, -, existing, hload, h⟩ := h
  cases existing with
  | some receipt =>
    obtain ⟨-, rfl⟩ := pure_ok_iff.mp h
    exact .inl ⟨rfl, rfl⟩
  | none =>
    simp only [commitNewReceipt, ok_iff, TableRef.insert_ok_iff, TableRef.update_ok_iff] at h
    obtain ⟨_, -, e, -, _, -, d, -, _, S₁, h₁, _, S₂,
      h₂, _, _, ⟨-, tr, hinsert, rfl⟩, _, _, ⟨tp, -, -, rfl⟩, -, rfl⟩ := h
    right
    have hledger : (S₁.receipts, S₁.boundaries, S₁.specs) = (S.receipts, S.boundaries, S.specs) :=
      commitBootstrapLedgerIfNeeded_keeps (f := fun S => (S.receipts, S.boundaries, S.specs))
        (fun _ _ => rfl) _ _ _ _ _ _ _ h₁
    simp only [Prod.mk.injEq] at hledger
    obtain ⟨hreceipts, hboundaries, hspecs⟩ := hledger
    have hreceipts₂ : S₂.receipts = S.receipts :=
      (closeBackupBoundaryIfNeeded_keeps (.of_ignored fun _ _ => rfl) _ _ _ _ _ _
        h₂).trans hreceipts
    refine ⟨key, fun b k hbk => ?_, ?_⟩
    · refine (Table.lookup_insert receipts_by_slot hinsert (b, k)).trans ?_
      rw [if_neg (fun h => hbk h.symm)]
      exact congrArg (fun t : Table phaseReceiptSchema => t.lookup PhaseReceiptRow.slot (b, k))
        hreceipts₂
    · have hspec : S₁.loadAuthorizedPhaseSpec a key = S.loadAuthorizedPhaseSpec a key := by
        rw [loadAuthorizedPhaseSpec, hspecs, loadAuthorizedPhaseSpec]
      have hrows := closeBackupBoundaryIfNeeded_rows h₂
      rw [hspec, hboundaries] at hrows
      exact hrows

end SecurityStore

end Rdashboard
