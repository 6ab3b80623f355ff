import Rdashboard.Security.Frames

/-! # What can happen to the fences

The view of the store that the write fences need, and the changes that an operation can make to
it: one counter feeds three journals, a drain identity becomes a fence without a new epoch, and
an observed foreign fence enters the journal with the epoch it claims. -/

namespace Rdashboard

open Relational Txn TableRef Table Option
variable {t : Int}

/-- The journals that draw on the epoch counter; of the backup boundaries only the epochs. -/
structure FenceBook where
  counter : Nat
  fences : List FenceLease
  drains : List DrainIdentityRow
  boundaries : List Nat

/-- A row of the drain identities after `promote_drain_identity`. -/
def promoted (journalId : Nat) (t : Int) : DrainIdentityRow → DrainIdentityRow :=
  assign (fun r => r.journalId = journalId && r.state = .reserved)
    fun r => { r with state := .promoted, updatedAtMs := t }

theorem promoted_columns (journalId : Nat) (t : Int) (d : DrainIdentityRow) :
    (promoted journalId t d).epoch = d.epoch ∧ (promoted journalId t d).projectId = d.projectId := by
  unfold promoted assign
  split <;> exact ⟨rfl, rfl⟩

theorem promoted_reserved {journalId : Nat} {d : DrainIdentityRow}
    (h : (promoted journalId t d).state = .reserved) : d.state = .reserved ∧ d.journalId ≠ journalId := by
  unfold promoted assign at h
  split at h
  · cases h
  · rename_i hd
    exact ⟨h, fun hid => hd (by simp [hid, h])⟩

namespace SecurityStore

def fencing (S : SecurityStore) : FenceBook where
  counter := S.fenceEpoch
  fences := S.fences.rows
  drains := S.drains.rows
  boundaries := S.boundaries.rows.map (·.epoch)

end SecurityStore

open SecurityStore

/-- The changes that an operation can make to one row of the fence journal of `S`. -/
inductive FenceTransition (codec : Codec) (S : SecurityStore) (op : SecurityOperation)
    (r : FenceLease) : FenceLease → Prop where
  | same : FenceTransition codec S op r r
  | hold (hs : r.state = .acquireIntent ∨ r.state = .held) :
      FenceTransition codec S op r { r with state := .held }
  | ambiguate (hs : r.state ≠ .released) :
      FenceTransition codec S op r { r with state := .needsReconcile }
  | intend {d : EvidenceDigest} (hop : op = .beginFenceRelease r.projectId r.attemptId d)
      (hauthorized : S.requireAuthorizedForProject r.attemptId r.projectId none = .ok ())
      (hsafe : S.requireReleaseSafe codec r.attemptId d = .ok ()) (hs : r.state = .held) :
      FenceTransition codec S op r
        { r with state := .releaseIntent, releaseSafeReceiptDigest := some d }
  | release {t : Int} (hop : op = .reconcileFence r.projectId .released t)
      (hs : r.state = .releaseIntent) :
      FenceTransition codec S op r { r with state := .released }

namespace FenceTransition

variable {codec : Codec} {S : SecurityStore} {op : SecurityOperation} {r r' : FenceLease}

section

variable (h : FenceTransition codec S op r r')
include h

theorem columns :
    r'.journalId = r.journalId ∧ r'.projectId = r.projectId ∧ r'.attemptId = r.attemptId ∧
      r'.epoch = r.epoch ∧ r'.token = r.token := by
  cases h <;> exact ⟨rfl, rfl, rfl, rfl, rfl⟩

theorem of_released (hs : r.state = .released) : r' = r := by
  cases h with
  | same => rfl
  | hold hs' => simp [hs] at hs'
  | ambiguate hs' => exact absurd hs hs'
  | intend _ _ _ hs' => simp [hs] at hs'
  | release _ hs' => simp [hs] at hs'

theorem of_needsReconcile (hs : r.state = .needsReconcile) : r' = r := by
  cases h with
  | same => rfl
  | hold hs' => simp [hs] at hs'
  | ambiguate hs' => rw [← hs]
  | intend _ _ _ hs' => simp [hs] at hs'
  | release _ hs' => simp [hs] at hs'

end

end FenceTransition

/-- The changes that an operation can make to the fences of the store `S`. -/
inductive FencingStep (codec : Codec) (S : SecurityStore) : SecurityOperation → FenceBook → Prop where
  | bound {p : ProjectId} {a : Uuid} {token : FreshUuid} {t : Int} :
      FencingStep codec S (.beginBackupBoundary p a token t)
        { S.fencing with counter := S.fenceEpoch + 1
                         boundaries := S.fencing.boundaries ++ [S.fenceEpoch + 1] }
  | drain {p : ProjectId} {a : Uuid} {token : FreshUuid} {t : Int} {d : DrainIdentityRow}
      (hfence : S.loadActiveFence p = none) (hp : d.projectId = p)
      (he : d.epoch = S.fenceEpoch + 1) :
      FencingStep codec S (.beginDrainIdentity p a token t)
        { S.fencing with counter := S.fenceEpoch + 1, drains := S.drains.rows ++ [d] }
  | promote {p : ProjectId} {a : Uuid} {token : FreshUuid} {t : Int} {d : DrainIdentityRow}
      {n : Nat} (hfence : S.loadActiveFence p = none) (hd : d ∈ S.drains.rows)
      (hp : d.projectId = p) (hs : d.state = .reserved) :
      FencingStep codec S (.beginFenceAcquire p a token t)
        { S.fencing with
          drains := S.drains.rows.map (promoted d.journalId t)
          fences := S.fences.rows ++
            [{ journalId := n, projectId := p, attemptId := a, epoch := d.epoch, token := d.token
               createdAtMs := t, state := .acquireIntent, releaseSafeReceiptDigest := none }] }
  | allocate {p : ProjectId} {a : Uuid} {token : FreshUuid} {t : Int} {n : Nat}
      (hfence : S.loadActiveFence p = none) (hdrain : S.loadActiveDrainIdentity p = none) :
      FencingStep codec S (.beginFenceAcquire p a token t)
        { S.fencing with
          counter := S.fenceEpoch + 1
          fences := S.fences.rows ++
            [{ journalId := n, projectId := p, attemptId := a, epoch := S.fenceEpoch + 1
               token := token.1, createdAtMs := t, state := .acquireIntent
               releaseSafeReceiptDigest := none }] }
  | foreign {p : ProjectId} {a token : Uuid} {epoch : Nat} {t : Int} {n : Nat}
      (hfence : S.loadActiveFence p = none) :
      FencingStep codec S (.reconcileFence p (.held a epoch token) t)
        { S.fencing with
          fences := S.fences.rows ++
            [{ journalId := n, projectId := p, attemptId := a, epoch, token, createdAtMs := t
               state := .needsReconcile, releaseSafeReceiptDigest := none }] }
  | shift {op : SecurityOperation} {g : FenceLease → FenceLease}
      (hg : ∀ r ∈ S.fences.rows, FenceTransition codec S op r (g r)) :
      FencingStep codec S op { S.fencing with fences := S.fences.rows.map g }

namespace SecurityStore

variable {codec : Codec} {op : SecurityOperation} {S S' : SecurityStore} {a : Uuid} {p : ProjectId}
  {r : FenceLease}
variable {token : FreshUuid} {state : FenceJournalState}

/-! ### Reads of the fence journal -/

theorem fences_by_journalId : fenceSchema.Separates (·.journalId) :=
  fun _ _ h => (decide_eq_true_eq.mp h).1

theorem loadActiveFence_spec (h : S.loadActiveFence p = some r) :
    r ∈ S.fences.rows ∧ r.projectId = p ∧ r.state ≠ .released := by
  obtain ⟨hmem, hr⟩ := List.mem_filter.mp (List.argmax_mem h)
  simp only [where_iff] at hr
  exact ⟨hmem, hr⟩

theorem loadActiveFence_eq_none_iff :
    S.loadActiveFence p = none ↔ ∀ r ∈ S.fences.rows, r.projectId = p → r.state = .released := by
  unfold loadActiveFence
  simp

theorem loadActiveDrainIdentity_eq_none_iff : S.loadActiveDrainIdentity p = none ↔
    ∀ d ∈ S.drains.rows, d.projectId = p → d.state ≠ .reserved := by
  unfold loadActiveDrainIdentity
  simp

/-! ### The operations -/

/-- From `S` to `S'` the operation has made at most one change to the fences. -/
def Refences (codec : Codec) (op : SecurityOperation) (S S' : SecurityStore) : Prop :=
  S'.fencing = S.fencing ∨ FencingStep codec S op S'.fencing

/-- What the operations that reserve an epoch require of the attempt. -/
structure EpochClaim (S : SecurityStore) (p : ProjectId) (a : Uuid) : Prop where
  authorized : S.requireAuthorizedForProject a p none = .ok ()
  owned : S.resourceOwner (.resource (.projectDeploy p)) = some a

/-- A reservation is the active one of the attempt, or a new row with the next epoch. -/
theorem reserveEpoch_ok {Lease ρ : Type} {schema : Schema ρ} {T : TableRef SecurityStore schema}
    {holder : Lease → Uuid} {ids : SecurityStore → List Nat} {foreign : SecurityStore → ρ → Bool}
    {row : Lease → ρ} {new : Nat → Nat → Lease} {active : Option Lease} {lease : Lease}
    (h : reserveEpoch a T holder ids foreign row new active S = .ok (lease, S')) :
    (active = some lease ∧ S' = S) ∨ (active = none ∧ ∃ n tbl, lease = new n (S.fenceEpoch + 1) ∧
      tbl.rows = (T.get { S with fenceEpoch := S.fenceEpoch + 1 }).rows ++ [row lease] ∧
      S' = T.set tbl { S with fenceEpoch := S.fenceEpoch + 1 }) := by
  cases active with
  | some active =>
    simp only [reserveEpoch, ok_iff] at h
    obtain ⟨_, -, rfl, rfl⟩ := h
    exact .inl ⟨rfl, rfl⟩
  | none =>
    simp only [reserveEpoch, allocateNextFenceEpoch_ok_iff, ok_iff, insert_ok_iff] at h
    obtain ⟨_, _, ⟨-, rfl, rfl⟩, n, -, _, _, ⟨-, tbl, hinsert, rfl⟩, rfl, rfl⟩ := h
    exact .inr ⟨rfl, n, tbl, rfl, rows_insert hinsert, rfl⟩

/-- What `begin_backup_boundary` has checked when it reserves a boundary. -/
structure BoundaryAdmission (codec : Codec) (S : SecurityStore) (p : ProjectId) (a : Uuid) : Prop
    extends EpochClaim S p a where
  spec : S.requireBaseBackupSpec codec p a = .ok ()
  fence : S.loadActiveFence p = none
  drain : S.loadActiveDrainIdentity p = none
  boundary : S.loadActiveBackupBoundary p = none

/-- `begin_backup_boundary` returns the boundary that is active, or one with a new epoch. -/
theorem beginBackupBoundary_ok {lease : BackupBoundaryLease}
    (h : beginBackupBoundary codec p a token t S = (.ok lease, S')) :
    (S.loadActiveBackupBoundary p = some lease ∧ S' = S) ∨ (BoundaryAdmission codec S p a ∧ ∃ n tbl,
        lease = { journalId := n, projectId := p, attemptId := a, epoch := S.fenceEpoch + 1
                  token := token.1, createdAtMs := t } ∧
        tbl.rows = S.boundaries.rows ++ [{ lease with state := .reserved, updatedAtMs := t }] ∧
        S' = { S with fenceEpoch := S.fenceEpoch + 1, boundaries := tbl }) := by
  simp only [beginBackupBoundary, ok_iff, Session.immediateTransaction_ok_iff] at h
  obtain ⟨_, hauthorized, _, howned, _, hspec, _, rfl, _, hclear, active, hactive, h⟩ := h
  simp only [Bool.and_eq_true, isNone_iff_eq_none] at hclear
  rcases reserveEpoch_ok h with ⟨rfl, rfl⟩ | ⟨rfl, n, tbl, rfl, hrows, rfl⟩
  · exact .inl ⟨hactive, rfl⟩
  · exact .inr ⟨⟨⟨hauthorized, Check.ensure_ok_iff.mp howned⟩, hspec, hclear.1, hclear.2, hactive⟩,
      n, tbl, rfl, hrows, rfl⟩

/-- What `begin_drain_identity` has checked when it reserves an identity. -/
structure DrainAdmission (codec : Codec) (S : SecurityStore) (p : ProjectId) (a : Uuid) : Prop
    extends EpochClaim S p a where
  receipt : S.requirePhaseReceipt codec a .backingUp = .ok ()
  fence : S.loadActiveFence p = none
  boundary : S.loadActiveBackupBoundary p = none
  drain : S.loadActiveDrainIdentity p = none

/-- `begin_drain_identity` returns the identity that is active, or one with a new epoch. -/
theorem beginDrainIdentity_ok {lease : DrainIdentityLease}
    (h : beginDrainIdentity codec p a token t S = (.ok lease, S')) :
    (S.loadActiveDrainIdentity p = some lease ∧ S' = S) ∨ (DrainAdmission codec S p a ∧ ∃ n tbl,
        lease = { journalId := n, projectId := p, attemptId := a, epoch := S.fenceEpoch + 1
                  token := token.1, createdAtMs := t } ∧
        tbl.rows = S.drains.rows ++ [{ lease with state := .reserved, updatedAtMs := t }] ∧
        S' = { S with fenceEpoch := S.fenceEpoch + 1, drains := tbl }) := by
  simp only [beginDrainIdentity, ok_iff, Session.immediateTransaction_ok_iff] at h
  obtain ⟨_, hauthorized, _, howned, _, hreceipt, _, rfl, _, hclear, active, hactive, h⟩ := h
  simp only [Bool.and_eq_true, isNone_iff_eq_none] at hclear
  rcases reserveEpoch_ok h with ⟨rfl, rfl⟩ | ⟨rfl, n, tbl, rfl, hrows, rfl⟩
  · exact .inl ⟨hactive, rfl⟩
  · exact .inr ⟨⟨⟨hauthorized, Check.ensure_ok_iff.mp howned⟩, hreceipt, hclear.1, hclear.2, hactive⟩,
      n, tbl, rfl, hrows, rfl⟩

theorem insertFence_ok {epoch : Nat} {token : Uuid}
    {lease : FenceLease} (h : insertFence p a epoch token state t S = .ok (lease, S')) :
    ∃ tbl n, S' = { S with fences := tbl } ∧ tbl.rows = S.fences.rows ++ [lease] ∧
      lease = { journalId := n, projectId := p, attemptId := a, epoch, token, createdAtMs := t, state
                releaseSafeReceiptDigest := none } := by
  simp only [insertFence, ok_iff, insert_ok_iff] at h
  obtain ⟨n, -, _, _, ⟨-, tbl, hinsert, rfl⟩, rfl, rfl⟩ := h
  exact ⟨tbl, n, rfl, rows_insert hinsert, rfl⟩

/-- What `begin_fence_acquire` has checked when it creates a fence. -/
structure FenceAdmission (codec : Codec) (S : SecurityStore) (p : ProjectId) (a : Uuid) : Prop
    extends EpochClaim S p a where
  receipts : S.requireFencePhaseReceipts codec a = .ok ()
  fence : S.loadActiveFence p = none

/-- The fence that `begin_fence_acquire` creates. -/
def newFence (n : Nat) (p : ProjectId) (a : Uuid) (epoch : Nat) (token : Uuid) (t : Int) :
    FenceLease where
  journalId := n
  projectId := p
  attemptId := a
  epoch := epoch
  token := token
  createdAtMs := t
  state := .acquireIntent
  releaseSafeReceiptDigest := none

/-- `begin_fence_acquire` returns the fence that is active, or one with the epoch and token of
the reserved drain identity, or one with a new epoch. -/
theorem beginFenceAcquire_ok {lease : FenceLease}
    (h : beginFenceAcquire codec p a token t S = (.ok lease, S')) :
    (S.loadActiveFence p = some lease ∧ S' = S) ∨ (FenceAdmission codec S p a ∧
      ((∃ d ∈ S.drains.rows, ∃ n drains fences,
          S.loadActiveDrainIdentity p = some d.toDrainIdentityLease ∧ d.projectId = p ∧
          d.state = .reserved ∧ lease = newFence n p a d.epoch d.token t ∧
          drains.rows = S.drains.rows.map (promoted d.journalId t) ∧
          fences.rows = S.fences.rows ++ [lease] ∧ S' = { S with drains, fences }) ∨
        (S.loadActiveDrainIdentity p = none ∧ ∃ n fences,
          lease = newFence n p a (S.fenceEpoch + 1) token.1 t ∧
          fences.rows = S.fences.rows ++ [lease] ∧
          S' = { S with fenceEpoch := S.fenceEpoch + 1, fences }))) := by
  simp only [beginFenceAcquire, ok_iff, Session.immediateTransaction_ok_iff] at h
  obtain ⟨_, hauthorized, active, hactive, h⟩ := h
  cases active with
  | some active =>
    simp only [ok_iff] at h
    obtain ⟨_, -, _, -, rfl, rfl⟩ := h
    exact .inl ⟨hactive, rfl⟩
  | none =>
    simp only [beginNewFence, ok_iff, requireFencePosition, Check.bind_ok_iff] at h
    obtain ⟨_, ⟨_, howned, hreceipts⟩, drain, hdrain, h⟩ := h
    refine .inr ⟨⟨⟨hauthorized, Check.ensure_ok_iff.mp howned⟩, hreceipts, hactive⟩, ?_⟩
    cases drain with
    | some drain =>
      simp only [promoteDrainIdentity, ok_iff, update_ok_iff] at h
      obtain ⟨_, -, _, -, _, _, ⟨drains, hupdate, -, rfl⟩, _, -, h⟩ := h
      obtain ⟨tbl, n, rfl, hrows, rfl⟩ := insertFence_ok h
      obtain ⟨d, hd, rfl⟩ := map_eq_some_iff.mp hdrain
      obtain ⟨hmem, hd⟩ := List.mem_filter.mp (List.argmax_mem hd)
      simp only [where_iff] at hd
      exact .inl ⟨d, hmem, n, drains, tbl, hdrain, hd.1, hd.2, rfl, rows_update hupdate, hrows,
        rfl⟩
    | none =>
      simp only [allocateFenceIdentity, bind_ok_iff, allocateNextFenceEpoch_ok_iff] at h
      obtain ⟨_, _, ⟨-, rfl, rfl⟩, h⟩ := h
      obtain ⟨tbl, n, rfl, hrows, rfl⟩ := insertFence_ok h
      exact .inr ⟨hdrain, n, tbl, rfl, hrows, rfl⟩

theorem beginFenceAcquire_refences (p : ProjectId) (a : Uuid) (token : FreshUuid) (t : Int) :
    Refences codec (.beginFenceAcquire p a token t) S
      (step codec (.beginFenceAcquire p a token t) S) := by
  refine Session.final_transaction (.inl rfl) fun lease S' h => ?_
  rcases beginFenceAcquire_ok (Session.immediateTransaction_ok h) with ⟨-, rfl⟩ | ⟨hadmitted,
    ⟨d, hd, n, drains, fences, hdrain, hp, hs, rfl, hdrains, hfences, rfl⟩ |
    ⟨hdrain, n, fences, rfl, hfences, rfl⟩⟩
  · exact .inl rfl
  · right
    convert FencingStep.promote hadmitted.fence hd hp hs using 1
    rw [fencing, hdrains, hfences]
    rfl
  · right
    convert FencingStep.allocate hadmitted.fence hdrain using 1
    rw [fencing, hfences]
    rfl

/-- An update of one row by its key. -/
theorem refences_update {f : FenceLease → FenceLease} {tbl : Table fenceSchema}
    (hupdate : S.fences.update (·.journalId = r.journalId) f = some tbl) (hactive : r ∈ S.fences.rows)
    (hf : FenceTransition codec S op r (f r)) : Refences codec op S { S with fences := tbl } := by
  right
  rw [fencing, rows_update hupdate]
  refine .shift fun r' hr' => ?_
  by_cases hid : r'.journalId = r.journalId
  · cases eq_of_key fences_by_journalId hr' hactive hid
    rw [assign_of_pos f (by simp)]
    exact hf
  · rw [assign_of_neg f (by simpa using hid)]
    exact .same

theorem reconcileFence_refences (p : ProjectId) (observation : FenceObservation) (t : Int) :
    Refences codec (.reconcileFence p observation t) S
      (step codec (.reconcileFence p observation t) S) := by
  refine Session.final_transaction (.inl rfl) fun projection S' h => ?_
  simp only [ok_iff] at h
  obtain ⟨active, hactive, h⟩ := h
  cases active with
  | some active =>
    simp only [reconcileActiveFence, ok_iff] at h
    obtain ⟨safe, -, h⟩ := h
    obtain ⟨hmem, rfl, hs⟩ := loadActiveFence_spec hactive
    have hstate : ∀ state, (reconciledState active safe observation).1 = some state →
        FenceTransition codec S (.reconcileFence active.projectId observation t) active
          { active with state } := by
      intro state h
      unfold reconciledState at h
      split_ifs at h with hheld hshown hreleased <;> cases h
      · exact .hold hheld.1
      · rw [hreleased.2.2]
        exact .release rfl hreleased.1
      · exact .ambiguate hs
    generalize reconciledState active safe observation = result at h hstate
    rcases result with ⟨_ | state, projection⟩
    · obtain ⟨-, rfl⟩ := pure_ok_iff.mp h
      exact .inl rfl
    · simp only [setFenceState, ok_iff, update_ok_iff] at h
      obtain ⟨_, _, ⟨_, _, ⟨tbl, hupdate, -, rfl⟩, -, rfl⟩, -, rfl⟩ := h
      exact refences_update hupdate hmem (hstate state rfl)
  | none =>
    cases observation with
    | released =>
      obtain ⟨-, rfl⟩ := pure_ok_iff.mp h
      exact .inl rfl
    | held a epoch token =>
      simp only [recordForeignFence, ok_iff] at h
      obtain ⟨_, -, _, -, _, _, h, -, rfl⟩ := h
      obtain ⟨tbl, n, rfl, hrows, rfl⟩ := insertFence_ok h
      right
      convert FencingStep.foreign hactive using 1
      simp only [fencing, hrows]
      rfl

theorem beginFenceRelease_refences (p : ProjectId) (a : Uuid) (d : EvidenceDigest) :
    Refences codec (.beginFenceRelease p a d) S (step codec (.beginFenceRelease p a d) S) := by
  refine Session.final_transaction (.inl rfl) fun lease S' h => ?_
  simp only [ok_iff] at h
  obtain ⟨_, hauthorized, _, hsafe, active, hactive, h⟩ := h
  cases active with
  | some active =>
    simp only [releaseActiveFence, ok_iff] at h
    obtain ⟨_, ha, h⟩ := h
    cases hs : active.state with
    | held =>
      simp only [hs, ok_iff, update_ok_iff] at h
      obtain ⟨_, _, ⟨tbl, hupdate, -, rfl⟩, -, rfl⟩ := h
      obtain ⟨hmem, rfl, -⟩ := loadActiveFence_spec hactive
      subst ha
      exact refences_update hupdate hmem (.intend rfl hauthorized hsafe hs)
    | releaseIntent =>
      simp only [hs, ok_iff] at h
      obtain ⟨_, -, -, rfl⟩ := h
      exact .inl rfl
    | _ =>
      simp only [hs] at h
      exact absurd h (by rw [throw_ok_iff]; exact id)
  | none =>
    simp only [replayFenceRelease, ok_iff] at h
    obtain ⟨_, -, _, -, _, -, -, rfl⟩ := h
    exact .inl rfl

theorem closureIgnored_fencing : ClosureIgnored fencing := by
  intro q t S n S' h
  obtain ⟨tbl, hupdate, -, rfl⟩ := update_ok_iff.mp h
  have hepoch (r : BackupBoundaryRow) : (assign q (fun r => { r with state := .released
                                                                     updatedAtMs := t }) r).epoch =
      r.epoch := assign_column (u := (·.epoch)) (fun _ _ => by rfl) r
  simp [fencing, boundariesT, rows_update hupdate, hepoch]

/-- Every operation makes at most one change to the fences. -/
theorem fencing_step (op : SecurityOperation) (S : SecurityStore) :
    Refences codec op S (step codec op S) := by
  cases op with
  | beginBackupBoundary p a token t =>
    refine Session.final_transaction (.inl rfl) fun lease S' h => ?_
    rcases beginBackupBoundary_ok (Session.immediateTransaction_ok h) with
      ⟨-, rfl⟩ | ⟨-, n, tbl, rfl, hrows, rfl⟩
    · exact .inl rfl
    · right
      convert FencingStep.bound using 1
      simp [fencing, hrows]
  | beginDrainIdentity p a token t =>
    refine Session.final_transaction (.inl rfl) fun lease S' h => ?_
    rcases beginDrainIdentity_ok (Session.immediateTransaction_ok h) with
      ⟨-, rfl⟩ | ⟨hadmitted, n, tbl, rfl, hrows, rfl⟩
    · exact .inl rfl
    · right
      rw [fencing, hrows]
      exact .drain hadmitted.fence rfl rfl
  | beginFenceAcquire p a token t => exact beginFenceAcquire_refences p a token t
  | reconcileFence p observation t => exact reconcileFence_refences p observation t
  | beginFenceRelease p a d => exact beginFenceRelease_refences p a d
  | commitPhaseReceiptInBranch a phase branch t =>
    refine .inl (step_keeps _ ?_ S)
    exact ⟨fun _ _ => rfl, closureIgnored_fencing, fun _ _ => rfl, fun _ _ => rfl⟩
  | _ => exact .inl (step_keeps _ (by (repeat' apply And.intro) <;> exact fun _ _ => rfl) S)

end SecurityStore

end Rdashboard
