import Rdashboard.Security.Course

/-! # What attempts hold

The owners of resources and the active disk reservations, and everything that an operation can do
to them.  `holdings_step` is the case analysis that the properties of the disk ledger start from. -/

namespace Rdashboard

open Relational Function Txn Table TableRef
variable {u : Unit}

/-- The owner of every resource, and the disk reservations. -/
structure Holdings where
  owner : ResourceKey → Option Uuid
  disks : List ActiveDiskReservation

namespace SecurityStore

variable {S S' : SecurityStore} {key : ResourceKey} {a : Uuid}

def holdings (S : SecurityStore) : Holdings := ⟨S.resourceOwner, S.disks.rows⟩

/-! ### Owners -/

theorem resources_by_key : resourceSchema.Separates (·.key) := Schema.separates_keyed _ _

theorem disks_by_attempt : diskSchema.Separates (·.attemptId) :=
  fun _ _ h => (decide_eq_true_eq.mp h).1

theorem resourceOwner_insert {t : Table resourceSchema}
    (h : S.resources.insert { key, ownerAttemptId := a } = some t) :
    ({ S with resources := t } : SecurityStore).resourceOwner =
      update S.resourceOwner key (some a) := by
  funext k
  have hlookup : t.lookup (·.key) k = if key = k then some ⟨key, a⟩ else S.resources.lookup (·.key) k :=
    lookup_insert resources_by_key h k
  unfold resourceOwner
  rw [hlookup]
  by_cases hk : k = key
  · subst hk
    simp
  · rw [if_neg (Ne.symm hk), update_of_ne hk]

theorem resourceOwner_delete :
    ({ S with resources := S.resources.delete (·.key = key) } : SecurityStore).resourceOwner =
      update S.resourceOwner key none := by
  funext k
  unfold resourceOwner
  rw [lookup_delete resources_by_key k]
  by_cases hk : k = key
  · subst hk
    rw [update_self]
    cases h : S.resources.lookup (·.key) k with
    | none => rfl
    | some r => simp [key_of_lookup h]
  · rw [update_of_ne hk]
    cases h : S.resources.lookup (·.key) k with
    | none => rfl
    | some r => simp [key_of_lookup h, hk]

theorem putResourceReceipt_ok {row : ResourceReceiptRow}
    (h : putResourceReceipt row S = .ok (u, S')) : ∃ t, S' = { S with resourceReceipts := t } := by
  simp only [putResourceReceipt, ok_iff] at h
  obtain ⟨existing, -, h⟩ := h
  cases existing with
  | none =>
    obtain ⟨-, t, -, rfl⟩ := insert_ok_iff.mp h
    exact ⟨t, rfl⟩
  | some _ =>
    simp only [update_ok_iff, ok_iff] at h
    obtain ⟨_, _, ⟨t, -, -, rfl⟩, -, rfl⟩ := h
    exact ⟨t, rfl⟩

/-- `acquire_resource_key` finds the attempt as the owner, or makes it the owner. -/
theorem acquireResourceKey_ok (h : acquireResourceKey key a S = .ok (u, S')) :
    (S.resourceOwner key = some a ∧ S' = S) ∨
      (S.resourceOwner key = none ∧ ∃ t t', S' = { S with resources := t, resourceReceipts := t' } ∧
        S'.resourceOwner = update S.resourceOwner key (some a)) := by
  simp only [acquireResourceKey, ok_iff] at h
  obtain ⟨owner, howner, h⟩ := h
  cases owner with
  | some owner =>
    obtain ⟨rfl, rfl⟩ := ensure_ok_iff.mp h
    exact .inl ⟨howner, rfl⟩
  | none =>
    simp only [bind_ok_iff, insert_ok_iff] at h
    obtain ⟨_, _, ⟨-, t, hinsert, rfl⟩, h⟩ := h
    obtain ⟨t', rfl⟩ := putResourceReceipt_ok h
    exact .inr ⟨howner, t, t', rfl, resourceOwner_insert hinsert⟩

theorem dropResourceKey_ok (h : dropResourceKey key a S = .ok (u, S')) :
    ∃ t t', S' = { S with resources := t, resourceReceipts := t' } ∧
      S'.resourceOwner = update S.resourceOwner key none := by
  simp only [dropResourceKey, ok_iff, delete_ok_iff, update_ok_iff] at h
  obtain ⟨_, -, _, _, ⟨t', -, -, rfl⟩, -, rfl⟩ := h
  exact ⟨_, t', rfl, resourceOwner_delete⟩

theorem releaseResourceKeyIfOwned_ok (h : releaseResourceKeyIfOwned key a S = .ok (u, S')) :
    (S.resourceOwner key ≠ some a ∧ S' = S) ∨
      (S.resourceOwner key = some a ∧ ∃ t t', S' = { S with resources := t, resourceReceipts := t' } ∧
        S'.resourceOwner = update S.resourceOwner key none) := by
  simp only [releaseResourceKeyIfOwned, bind_ok_iff, ite_ok_iff] at h
  obtain ⟨owner, _, ⟨rfl, rfl⟩, ⟨howned, h⟩ | ⟨hother, h⟩⟩ := h
  · exact .inr ⟨howned, dropResourceKey_ok h⟩
  · obtain ⟨-, rfl⟩ := pure_ok_iff.mp h
    exact .inl ⟨hother, rfl⟩

end SecurityStore

/-! ### What can happen to the holdings -/

open SecurityStore

/-- The reservation that a claim becomes. -/
def AuthorizedDiskReservation.active (claim : AuthorizedDiskReservation) (p : ProjectId) (a : Uuid)
    (observation : DiskAvailabilityObservation) : ActiveDiskReservation where
  attemptId := a
  projectId := p
  requiredBytes := claim.requiredBytes
  emergencyReserveBytes := claim.emergencyReserveBytes
  availableBytes := observation.availableBytes
  filesystemIdentity := claim.filesystemIdentity
  reservationDigest := claim.reservationDigest
  observedAtMs := observation.observedAtMs

/-- A reservation after a new observation of its filesystem. -/
def refreshed (a : Uuid) (observation : DiskAvailabilityObservation) :
    ActiveDiskReservation → ActiveDiskReservation :=
  assign (fun r => r.attemptId = a) fun r =>
    { r with availableBytes := observation.availableBytes, observedAtMs := observation.observedAtMs }

/-- What `acquire_disk_reservation` has checked when it succeeds. -/
structure DiskAdmission (codec : Codec) (S : SecurityStore) (p : ProjectId) (a : Uuid)
    (observation : DiskAvailabilityObservation) (t : Int) (claim : AuthorizedDiskReservation) :
    Prop where
  authorized : S.loadAuthorizedDiskReservation codec p a = .ok claim
  observed : validateDiskObservation claim observation t = .ok ()
  capacity : S.requireDiskCapacity a claim observation = .ok ()

/-- The changes that an operation can make to the holdings of the store `S`. -/
inductive HoldingStep (codec : Codec) (S : SecurityStore) : SecurityOperation → Holdings → Prop where
  | acquire {r : ExecutionResource} {a : Uuid} (hallowed : S.requireResourceAllowed r a = .ok ())
      (hfree : S.resourceOwner (.resource r) = none) :
      HoldingStep codec S (.acquireResource r a)
        { S.holdings with owner := update S.resourceOwner (.resource r) (some a) }
  | release {op : SecurityOperation} {r : ExecutionResource} {a : Uuid}
      (hop : op = .releaseResource r a ∨ op = .releaseResourceIfOwned r a)
      (howned : S.resourceOwner (.resource r) = some a) :
      HoldingStep codec S op
        { S.holdings with owner := update S.resourceOwner (.resource r) none }
  | refresh {p : ProjectId} {a : Uuid} {observation : DiskAvailabilityObservation} {t : Int}
      {claim : AuthorizedDiskReservation} {r : ActiveDiskReservation}
      (hadmitted : DiskAdmission codec S p a observation t claim) (hr : r ∈ S.disks.rows)
      (ha : r.attemptId = a) (hmatches : reservationMatches r p claim = true) :
      HoldingStep codec S (.acquireDiskReservation p a observation t)
        { S.holdings with disks := S.disks.rows.map (refreshed a observation) }
  | reserve {p : ProjectId} {a : Uuid} {observation : DiskAvailabilityObservation} {t : Int}
      {claim : AuthorizedDiskReservation} (hadmitted : DiskAdmission codec S p a observation t claim)
      (hnone : ∀ r ∈ S.disks.rows, r.attemptId ≠ a)
      (hallowed : S.requireProjectResourceAllowed p a = .ok ())
      (hfree : S.resourceOwner (.diskReservation p) = none ∨
        S.resourceOwner (.diskReservation p) = some a) :
      HoldingStep codec S (.acquireDiskReservation p a observation t)
        { owner := update S.resourceOwner (.diskReservation p) (some a)
          disks := S.disks.rows ++ [claim.active p a observation] }
  | unreserve {p : ProjectId} {a : Uuid}
      (hnone : ∀ r ∈ S.disks.rows, r.attemptId = a → r.projectId = p)
      (howned : S.resourceOwner (.diskReservation p) = some a) :
      HoldingStep codec S (.releaseDiskReservationIfOwned p a)
        { owner := update S.resourceOwner (.diskReservation p) none
          disks := S.disks.rows.filter fun r => r.attemptId ≠ a }

/-- A resource keeps its owner, becomes free, or goes to an attempt that may have it. -/
theorem HoldingStep.owner_resource {codec : Codec} {S : SecurityStore} {op : SecurityOperation}
    {H : Holdings} (h : HoldingStep codec S op H) (r : ExecutionResource) :
    H.owner (.resource r) = S.resourceOwner (.resource r) ∨ H.owner (.resource r) = none ∨
      ∃ a, S.requireResourceAllowed r a = .ok () ∧ H.owner (.resource r) = some a := by
  have hdisk p v : update S.resourceOwner (.diskReservation p) v (.resource r) =
        S.resourceOwner (.resource r) := update_of_ne (by simp) ..
  cases h with
  | @acquire r' a hallowed hfree =>
    by_cases hr : r = r'
    · subst hr
      exact .inr (.inr ⟨a, hallowed, update_self ..⟩)
    · exact .inl (update_of_ne (by simpa using hr) ..)
  | @release _ r' a hop howned =>
    by_cases hr : r = r'
    · subst hr
      exact .inr (.inl (update_self ..))
    · exact .inl (update_of_ne (by simpa using hr) ..)
  | refresh hadmitted hr ha hmatches => exact .inl rfl
  | @reserve p a => exact .inl (hdisk p (some a))
  | @unreserve p => exact .inl (hdisk p none)

namespace SecurityStore

variable {codec : Codec} {op : SecurityOperation} {S S' : SecurityStore} {a : Uuid} {p : ProjectId}

/-- From `S` to `S'` the operation has made at most one change to the holdings. -/
def Rehouses (codec : Codec) (op : SecurityOperation) (S S' : SecurityStore) : Prop :=
  S'.holdings = S.holdings ∨ HoldingStep codec S op S'.holdings

theorem loadActiveDiskReservation_eq_none_iff :
    S.loadActiveDiskReservation a = none ↔ ∀ r ∈ S.disks.rows, r.attemptId ≠ a :=
  lookup_eq_none_iff

theorem acquireResource_rehouses (r : ExecutionResource) (a : Uuid) :
    Rehouses codec (.acquireResource r a) S (step codec (.acquireResource r a) S) := by
  refine Session.final_transaction (.inl rfl) fun _ S' h => ?_
  simp only [ok_iff] at h
  obtain ⟨_, hallowed, h⟩ := h
  rcases acquireResourceKey_ok h with ⟨-, rfl⟩ | ⟨hfree, t, t', rfl, howner⟩
  · exact .inl rfl
  · right
    convert HoldingStep.acquire hallowed hfree using 1
    rw [holdings, howner, holdings]

theorem releaseResource_rehouses (r : ExecutionResource) (a : Uuid) :
    Rehouses codec (.releaseResource r a) S (step codec (.releaseResource r a) S) := by
  refine Session.final_transaction (.inl rfl) fun _ S' h => ?_
  simp only [ok_iff] at h
  obtain ⟨owner, howner, h⟩ := h
  cases owner with
  | some owner =>
    simp only [ok_iff] at h
    obtain ⟨_, rfl, h⟩ := h
    obtain ⟨t, t', rfl, hdropped⟩ := dropResourceKey_ok h
    right
    convert HoldingStep.release (.inl rfl) howner using 1
    rw [holdings, hdropped, holdings]
  | none =>
    simp only [ok_iff] at h
    obtain ⟨_, -, -, rfl⟩ := h
    exact .inl rfl

theorem releaseResourceIfOwned_rehouses (r : ExecutionResource) (a : Uuid) :
    Rehouses codec (.releaseResourceIfOwned r a) S
      (step codec (.releaseResourceIfOwned r a) S) := by
  refine Session.final_transaction (.inl rfl) fun _ S' h => ?_
  rcases releaseResourceKeyIfOwned_ok h with ⟨-, rfl⟩ | ⟨howned, t, t', rfl, hdropped⟩
  · exact .inl rfl
  · right
    convert HoldingStep.release (.inr rfl) howned using 1
    rw [holdings, hdropped, holdings]

/-- `diskReservationActive` finds no reservation of the attempt, or the one of the claim, and then
the attempt owns its key. -/
theorem diskReservationActive_ok {claim : AuthorizedDiskReservation} {active : Bool}
    (h : S.diskReservationActive p a claim = .ok active) :
    (active = false ∧ ∀ r ∈ S.disks.rows, r.attemptId ≠ a) ∨
      (active = true ∧ S.resourceOwner (.diskReservation p) = some a ∧
        ∃ r ∈ S.disks.rows, r.attemptId = a ∧ reservationMatches r p claim = true) := by
  unfold diskReservationActive at h
  cases hload : S.loadActiveDiskReservation a with
  | none =>
    rw [hload] at h
    cases h
    exact .inl ⟨rfl, loadActiveDiskReservation_eq_none_iff.mp hload⟩
  | some r =>
    simp only [hload, requireResourceKeyOwned, Check.ok_iff] at h
    obtain ⟨_, hmatches, _, howned, rfl⟩ := h
    exact .inr ⟨rfl, howned, r, mem_of_lookup hload, key_of_lookup hload, hmatches⟩

/-- What a successful `acquire_disk_reservation` has done. -/
theorem acquireDiskReservation_ok {observation : DiskAvailabilityObservation} {t : Int}
    (h : acquireDiskReservation codec p a observation t S = (.ok u, S')) :
    ∃ claim, DiskAdmission codec S p a observation t claim ∧
      ((∃ r ∈ S.disks.rows, r.attemptId = a ∧ reservationMatches r p claim = true ∧
          S'.holdings = { S.holdings with disks := S.disks.rows.map (refreshed a observation) }) ∨
        ((∀ r ∈ S.disks.rows, r.attemptId ≠ a) ∧ S.requireProjectResourceAllowed p a = .ok () ∧
          (S.resourceOwner (.diskReservation p) = none ∨
            S.resourceOwner (.diskReservation p) = some a) ∧
          S'.holdings =
            { owner := update S.resourceOwner (.diskReservation p) (some a)
              disks := S.disks.rows ++ [claim.active p a observation] })) := by
  simp only [acquireDiskReservation, Session.immediateTransaction_ok_iff, ok_iff, ite_ok_iff] at h
  obtain ⟨claim, hclaim, _, hobserved, active, hactive, _, hcapacity, h⟩ := h
  refine ⟨claim, ⟨hclaim, hobserved, hcapacity⟩, ?_⟩
  rcases diskReservationActive_ok hactive with ⟨rfl, hnone⟩ | ⟨rfl, -, r, hr, ha, hmatches⟩
  · obtain ⟨⟨⟩, -⟩ | ⟨-, h⟩ := h
    simp only [activateDiskReservation, ok_iff, insert_ok_iff] at h
    obtain ⟨_, hallowed, _, S₁, hacquire, _, -, -, tbl, hinsert, rfl⟩ := h
    have hrows : S₁.disks = S.disks ∧ (S.resourceOwner (.diskReservation p) = none ∨
          S.resourceOwner (.diskReservation p) = some a) ∧
        S₁.resourceOwner = update S.resourceOwner (.diskReservation p) (some a) := by
      rcases acquireResourceKey_ok hacquire with ⟨howned, rfl⟩ | ⟨hfree, _, _, rfl, howner⟩
      · exact ⟨rfl, .inr howned, (by rw [← howned, update_eq_self])⟩
      · exact ⟨rfl, .inl hfree, howner⟩
    obtain ⟨hdisks, hfree, howner⟩ := hrows
    refine .inr ⟨hnone, hallowed, hfree, ?_⟩
    have htable : tbl.rows = S.disks.rows ++ [claim.active p a observation] := by
      rw [← hdisks]
      exact rows_insert hinsert
    simp only [holdings, disksT, htable]
    exact congrArg (Holdings.mk · _) howner
  · obtain ⟨-, h⟩ | ⟨hfalse, -⟩ := h
    · simp only [update_ok_iff] at h
      obtain ⟨_, _, ⟨tbl, hupdate, -, rfl⟩, -, rfl⟩ := h
      refine .inl ⟨r, hr, ha, hmatches, ?_⟩
      simp only [holdings, disksT, rows_update hupdate]
      rfl
    · exact absurd rfl hfalse

theorem releaseDiskReservationIfOwned_rehouses (p : ProjectId) (a : Uuid) :
    Rehouses codec (.releaseDiskReservationIfOwned p a) S
      (step codec (.releaseDiskReservationIfOwned p a) S) := by
  refine Session.final_transaction (.inl rfl) fun _ S' h => ?_
  simp only [ok_iff] at h
  obtain ⟨existing, hexisting, h⟩ := h
  cases existing with
  | none =>
    have hnone := loadActiveDiskReservation_eq_none_iff.mp hexisting
    rcases releaseResourceKeyIfOwned_ok h with ⟨-, rfl⟩ | ⟨howned, t, t', rfl, hdropped⟩
    · exact .inl rfl
    · right
      convert HoldingStep.unreserve (fun r hr ha => absurd ha (hnone r hr)) howned using 1
      rw [holdings, hdropped, List.filter_eq_self.mpr fun r hr => decide_eq_true (hnone r hr)]
  | some existing =>
    simp only [requireResourceKeyOwned, ok_iff, Check.ensure_ok_iff, delete_ok_iff] at h
    obtain ⟨_, hp, _, howned, _, -, h⟩ := h
    have hproject : ∀ r ∈ S.disks.rows, r.attemptId = a → r.projectId = p := by
      intro r hr ha
      have hexisting' := key_of_lookup hexisting
      rw [eq_of_key disks_by_attempt hr (mem_of_lookup hexisting) (ha.trans hexisting'.symm)]
      exact hp
    rcases releaseResourceKeyIfOwned_ok h with ⟨hother, -⟩ | ⟨-, t, t', rfl, hdropped⟩
    · exact absurd howned hother
    · right
      convert HoldingStep.unreserve hproject howned using 1
      rw [holdings]
      simp only [disksT, Table.delete]
      congr 2
      funext r
      simp

/-- Every operation makes at most one change to the holdings. -/
theorem holdings_step (op : SecurityOperation) (S : SecurityStore) :
    Rehouses codec op S (step codec op S) := by
  cases op with
  | acquireResource r a => exact acquireResource_rehouses r a
  | releaseResource r a => exact releaseResource_rehouses r a
  | releaseResourceIfOwned r a => exact releaseResourceIfOwned_rehouses r a
  | acquireDiskReservation p a observation t =>
    refine Session.final_transaction (.inl rfl) fun _ S' h => ?_
    obtain ⟨claim, hadmitted, ⟨r, hr, ha, hmatches, hS'⟩ | ⟨hnone, hallowed, hfree, hS'⟩⟩ :=
      acquireDiskReservation_ok (Session.immediateTransaction_ok h)
    · exact .inr (hS' ▸ .refresh hadmitted hr ha hmatches)
    · exact .inr (hS' ▸ .reserve hadmitted hnone hallowed hfree)
  | releaseDiskReservationIfOwned p a => exact releaseDiskReservationIfOwned_rehouses p a
  | _ =>
    exact .inl (step_keeps _ (by (repeat' apply And.intro) <;>
      first | exact fun _ _ => rfl | exact .of_ignored fun _ _ => rfl) S)

end SecurityStore

end Rdashboard
