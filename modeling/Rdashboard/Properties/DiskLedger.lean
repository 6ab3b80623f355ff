import Mathlib.Algebra.BigOperators.Group.List.Basic
import Mathlib.Data.List.Perm.Basic
import Rdashboard.Properties.PhaseOrder
import Rdashboard.Security.Resources

/-! # The ledger of disk reservations

Reservations on one filesystem share one emergency reserve, the largest of theirs.  A reservation
is admitted only when the bytes of all operations and that reserve fit into what was just
observed; so the sums never leave the range of the columns, and with every reservation goes the
ownership of its key. -/

namespace Rdashboard

open Relational SecurityStore List Function
variable {rows rows' : List ActiveDiskReservation}

/-! ### Loads -/

/-- The bytes of a reservation that are the operation's own. -/
def ActiveDiskReservation.operationBytes (r : ActiveDiskReservation) : Nat :=
  r.requiredBytes - r.emergencyReserveBytes

def operationTotal (rows : List ActiveDiskReservation) : Nat :=
  (rows.map (·.operationBytes)).sum

def largestReserve (rows : List ActiveDiskReservation) : Nat :=
  rows.foldr (fun r n => max r.emergencyReserveBytes n) 0

/-- What a list of reservations asks of their filesystem. -/
def diskLoad (rows : List ActiveDiskReservation) : Nat := operationTotal rows + largestReserve rows

theorem diskLoad_cons (r : ActiveDiskReservation) (rows : List ActiveDiskReservation) :
    diskLoad (r :: rows) =
      r.operationBytes + operationTotal rows + max r.emergencyReserveBytes (largestReserve rows) := by
  simp [diskLoad, operationTotal, largestReserve]

theorem diskLoad_perm (h : rows.Perm rows') : diskLoad rows = diskLoad rows' := by
  have htotal : operationTotal rows = operationTotal rows' := (h.map _).sum_eq
  have hreserve : largestReserve rows = largestReserve rows' := by
    have : LeftCommutative fun (r : ActiveDiskReservation) n => max r.emergencyReserveBytes n :=
      ⟨fun _ _ _ => max_left_comm ..⟩
    exact h.foldr_eq 0
  rw [diskLoad, htotal, hreserve, diskLoad]

theorem diskLoad_append (rows : List ActiveDiskReservation) (r : ActiveDiskReservation)
    (F : EvidenceDigest) : diskLoad ((rows ++ [r]).filter (·.filesystemIdentity = F)) =
      if r.filesystemIdentity = F then diskLoad (r :: rows.filter (·.filesystemIdentity = F))
      else diskLoad (rows.filter (·.filesystemIdentity = F)) := by
  by_cases hF : r.filesystemIdentity = F
  · rw [if_pos hF, filter_append, filter_singleton, decide_eq_true hF]
    exact diskLoad_perm (perm_append_singleton ..)
  · rw [if_neg hF, filter_append, filter_singleton, decide_eq_false hF]
    exact congrArg diskLoad (append_nil _)

theorem diskLoad_sublist (h : rows.Sublist rows') :
    operationTotal rows ≤ operationTotal rows' ∧ largestReserve rows ≤ largestReserve rows' := by
  induction h with
  | slnil => exact ⟨le_rfl, le_rfl⟩
  | cons r _ ih =>
    simp only [operationTotal, largestReserve, map_cons, sum_cons, foldr_cons] at ih ⊢
    omega
  | cons_cons r _ ih =>
    simp only [operationTotal, largestReserve, map_cons, sum_cons, foldr_cons] at ih ⊢
    omega

theorem refreshed_columns (a : Uuid) (observation : DiskAvailabilityObservation)
    (r : ActiveDiskReservation) :
    (refreshed a observation r).filesystemIdentity = r.filesystemIdentity ∧
      (refreshed a observation r).projectId = r.projectId ∧
      (refreshed a observation r).attemptId = r.attemptId ∧
      (refreshed a observation r).operationBytes = r.operationBytes ∧
      (refreshed a observation r).emergencyReserveBytes = r.emergencyReserveBytes := by
  unfold refreshed assign
  split <;> exact ⟨rfl, rfl, rfl, rfl, rfl⟩

theorem diskLoad_refreshed (a : Uuid) (observation : DiskAvailabilityObservation)
    (rows : List ActiveDiskReservation) :
    diskLoad (rows.map (refreshed a observation)) = diskLoad rows := by
  simp only [diskLoad, operationTotal, largestReserve, map_map, comp_def, foldr_map,
    (refreshed_columns a observation _).2.2.2]

/-! ### The sums of the admission check -/

theorem reservationTotals_ok {reserved emergency R E : Nat}
    (h : reservationTotals reserved emergency rows = .ok (R, E)) :
    R = reserved + operationTotal rows ∧ E = max emergency (largestReserve rows) := by
  induction rows generalizing reserved emergency with
  | nil =>
    cases h
    simp [operationTotal, largestReserve]
  | cons r rows ih =>
    unfold reservationTotals at h
    split_ifs at h with hless hrange
    obtain ⟨hR, hE⟩ := ih h
    simp only [operationTotal, largestReserve, map_cons, sum_cons, foldr_cons,
      ActiveDiskReservation.operationBytes] at hR hE ⊢
    omega

/-- The loop succeeds on reservations whose sum is in range. -/
theorem exists_reservationTotals (reserved emergency : Nat)
    (hrows : ∀ r ∈ rows, r.emergencyReserveBytes ≤ r.requiredBytes)
    (hrange : reserved + operationTotal rows ≤ u64Max) :
    ∃ R E, reservationTotals reserved emergency rows = .ok (R, E) := by
  induction rows generalizing reserved emergency with
  | nil => exact ⟨_, _, rfl⟩
  | cons r rows ih =>
    have hsum : operationTotal (r :: rows) =
        (r.requiredBytes - r.emergencyReserveBytes) + operationTotal rows := rfl
    have hr := hrows r mem_cons_self
    unfold reservationTotals
    rw [if_neg (by omega), if_neg (by omega)]
    exact ih _ _ (fun s hs => hrows s (mem_cons_of_mem r hs)) (by omega)

namespace SecurityStore

variable {codec : Codec} {guard : SecurityStore → SecurityOperation → Prop}
  {op : SecurityOperation} {S S' : SecurityStore} {a : Uuid} {p : ProjectId}
  {observation : DiskAvailabilityObservation} {claim : AuthorizedDiskReservation}
variable {r : ActiveDiskReservation} {t : Int}

/-- The active reservations on a filesystem. -/
def disksOn (S : SecurityStore) (filesystem : EvidenceDigest) : List ActiveDiskReservation :=
  S.disks.rows.filter (·.filesystemIdentity = filesystem)

/-- Those that `active_disk_reservation_totals` adds up. -/
def otherDisks (S : SecurityStore) (filesystem : EvidenceDigest) (a : Uuid) :
    List ActiveDiskReservation :=
  S.disks.rows.filter fun r => r.filesystemIdentity = filesystem && r.attemptId ≠ a

/-- With a reservation of the attempt on the filesystem, the others are all but that one. -/
theorem disksOn_perm (hr : r ∈ S.disks.rows) :
    (S.disksOn r.filesystemIdentity).Perm (r :: S.otherDisks r.filesystemIdentity r.attemptId) := by
  have hsplit := filter_append_perm (fun s => decide (s.attemptId = r.attemptId))
    (S.disksOn r.filesystemIdentity)
  have hown : (S.disksOn r.filesystemIdentity).filter (fun s => decide (s.attemptId = r.attemptId)) =
      [r] := by
    unfold disksOn
    rw [filter_filter]
    exact Table.filter_eq_singleton disks_by_attempt
      (fun s hs => by simp only [where_iff] at hs; exact hs.1) hr (by simp)
  have hothers : (S.disksOn r.filesystemIdentity).filter
      (fun s => !decide (s.attemptId = r.attemptId)) =
      S.otherDisks r.filesystemIdentity r.attemptId := by
    unfold disksOn otherDisks
    rw [filter_filter]
    congr 1
    funext s
    by_cases hs : s.attemptId = r.attemptId <;> simp [hs]
  rw [hown, hothers] at hsplit
  exact hsplit.symm

theorem otherDisks_of_none (h : ∀ r ∈ S.disks.rows, r.attemptId ≠ a) (F : EvidenceDigest) :
    S.otherDisks F a = S.disksOn F := by
  refine filter_congr fun r hr => ?_
  simp [h r hr]

/-- What an admitted reservation and the others together ask for fits into the observation. -/
theorem load_of_admission (h : DiskAdmission codec S p a observation t claim)
    (hrequired : r.requiredBytes = claim.requiredBytes)
    (hreserve : r.emergencyReserveBytes = claim.emergencyReserveBytes) :
    observation.filesystemIdentity = claim.filesystemIdentity ∧
      diskLoad (r :: S.otherDisks claim.filesystemIdentity a) ≤ observation.availableBytes ∧
      observation.availableBytes ≤ i64Max := by
  obtain ⟨hF, -, -, -, havailable⟩ := Check.ensure_ok_iff.mp h.observed
  have hcapacity := h.capacity
  simp only [requireDiskCapacity, Check.ok_iff] at hcapacity
  obtain ⟨⟨R, E⟩, htotals, operation, hoperation, _, -, _, -, hcapacity⟩ := hcapacity
  obtain ⟨rfl, rfl⟩ := reservationTotals_ok htotals
  unfold AuthorizedDiskReservation.operationBytes at hoperation
  split_ifs at hoperation
  cases hoperation
  refine ⟨hF, ?_, havailable⟩
  rw [diskLoad_cons, ActiveDiskReservation.operationBytes, hrequired, otherDisks]
  simp only at hcapacity
  omega

/-- The reservations stay within the columns, and go with the ownership of their keys. -/
structure DiskLedger (H : Holdings) : Prop where
  bounded : ∀ F, (diskLoad (H.disks.filter (·.filesystemIdentity = F)) : Int) ≤ i64Max
  owned : ∀ p a, H.owner (.diskReservation p) = some a ↔
    ∃ r ∈ H.disks, r.projectId = p ∧ r.attemptId = a

theorem filter_refreshed (a : Uuid) (observation : DiskAvailabilityObservation)
    (rows : List ActiveDiskReservation) (F : EvidenceDigest) :
    (rows.map (refreshed a observation)).filter (·.filesystemIdentity = F) =
      (rows.filter (·.filesystemIdentity = F)).map (refreshed a observation) := by
  rw [filter_map]
  congr 2
  funext r
  simp only [comp_apply, (refreshed_columns a observation r).1]

section

variable (h : DiskLedger S.holdings)
include h

/-- A new observation of a filesystem leaves the ledger as it is. -/
theorem DiskLedger.refresh (a : Uuid) (observation : DiskAvailabilityObservation) :
    DiskLedger { S.holdings with disks := S.disks.rows.map (refreshed a observation) } where
  bounded := by
    intro F
    simp only [filter_refreshed, diskLoad_refreshed]
    exact h.bounded F
  owned := by
    intro p b
    refine (h.owned p b).trans ⟨?_, ?_⟩
    · rintro ⟨r, hr, hp, hb⟩
      obtain ⟨-, hp', hb', -⟩ := refreshed_columns a observation r
      exact ⟨_, mem_map_of_mem hr, hp'.trans hp, hb'.trans hb⟩
    · rintro ⟨_, hmem, hp, hb⟩
      obtain ⟨r, hr, rfl⟩ := mem_map.mp hmem
      obtain ⟨-, hp', hb', -⟩ := refreshed_columns a observation r
      exact ⟨r, hr, hp'.symm.trans hp, hb'.symm.trans hb⟩

/-- A new reservation brings its key and stays within what was observed. -/
theorem DiskLedger.reserve (hadmitted : DiskAdmission codec S p a observation t claim)
    (hnone : ∀ r ∈ S.disks.rows, r.attemptId ≠ a)
    (hfree : S.resourceOwner (.diskReservation p) = none ∨
      S.resourceOwner (.diskReservation p) = some a) :
    DiskLedger { owner := update S.resourceOwner (.diskReservation p) (some a)
                 disks := S.disks.rows ++ [claim.active p a observation] } where
  bounded := by
    intro F
    obtain ⟨-, hload, havailable⟩ :=
      load_of_admission hadmitted (r := claim.active p a observation) rfl rfl
    rw [diskLoad_append]
    split
    · subst F
      rw [otherDisks_of_none hnone, disksOn] at hload
      exact (Int.ofNat_le.mpr hload).trans havailable
    · exact h.bounded F
  owned := by
    intro q b
    have hold := h.owned q b
    by_cases hq : q = p
    · subst hq
      simp only [update_self, mem_append, mem_singleton, Option.some.injEq]
      constructor
      · rintro rfl
        exact ⟨_, .inr rfl, rfl, rfl⟩
      · rintro ⟨r, hr | rfl, hp, hb⟩
        · -- an older reservation of the project would own the key
          have howner := hold.mpr ⟨r, hr, hp, hb⟩
          change S.resourceOwner _ = some b at howner
          rw [howner] at hfree
          rcases hfree with hfree | hfree <;> cases hfree
          exact absurd hb (hnone r hr)
        · exact hb
    · have hne : ResourceKey.diskReservation q ≠ .diskReservation p := by simpa using hq
      simp only [update_of_ne hne, mem_append, mem_singleton]
      refine hold.trans ⟨fun ⟨r, hr, hrest⟩ => ⟨r, .inl hr, hrest⟩, ?_⟩
      rintro ⟨r, hr | rfl, hp, hb⟩
      · exact ⟨r, hr, hp, hb⟩
      · exact absurd hp.symm hq

/-- A reservation is given back with its key. -/
theorem DiskLedger.unreserve (hproject : ∀ r ∈ S.disks.rows, r.attemptId = a → r.projectId = p)
    (howned : S.resourceOwner (.diskReservation p) = some a) :
    DiskLedger { owner := update S.resourceOwner (.diskReservation p) none
                 disks := S.disks.rows.filter fun r => r.attemptId ≠ a } where
  bounded := by
    intro F
    have hsub := diskLoad_sublist ((filter_sublist (l := S.disks.rows)
      (p := fun r => decide (r.attemptId ≠ a))).filter fun r => decide (r.filesystemIdentity = F))
    have hold : (diskLoad (S.disks.rows.filter (·.filesystemIdentity = F)) : Int) ≤ i64Max :=
      h.bounded F
    simp only [diskLoad] at hold ⊢
    omega
  owned := by
    intro q b
    have hold : S.resourceOwner (.diskReservation q) = some b ↔ _ := h.owned q b
    by_cases hq : q = p
    · subst hq
      simp only [update_self, reduceCtorEq, false_iff]
      rintro ⟨r, hr, hp, hb⟩
      obtain ⟨hr, ha⟩ := mem_filter.mp hr
      rw [hold.mpr ⟨r, hr, hp, hb⟩] at howned
      cases howned
      exact absurd hb (by simpa using ha)
    · have hne : ResourceKey.diskReservation q ≠ .diskReservation p := by simpa using hq
      simp only [update_of_ne hne]
      refine hold.trans ⟨?_, fun ⟨r, hr, hrest⟩ => ⟨r, (mem_filter.mp hr).1, hrest⟩⟩
      rintro ⟨r, hr, hp, hb⟩
      refine ⟨r, mem_filter.mpr ⟨hr, decide_eq_true fun ha => ?_⟩, hp, hb⟩
      exact hq (hp.symm.trans (hproject r hr ha))

/-- Other resources do not touch the ledger. -/
theorem DiskLedger.resource (r : ExecutionResource) (o : Option Uuid) :
    DiskLedger { S.holdings with owner := update S.resourceOwner (.resource r) o } := by
  refine ⟨h.bounded, fun p a => ?_⟩
  change update S.resourceOwner (.resource r) o (.diskReservation p) = _ ↔ _
  rw [update_of_ne (by simp)]
  exact h.owned p a

theorem DiskLedger.step {H : Holdings} (hstep : HoldingStep codec S op H) : DiskLedger H := by
  cases hstep with
  | acquire hallowed hfree => exact h.resource _ _
  | release hop howned => exact h.resource _ _
  | refresh hadmitted hr ha hmatches => exact h.refresh _ _
  | reserve hadmitted hnone hallowed hfree => exact h.reserve hadmitted hnone hfree
  | unreserve hproject howned => exact h.unreserve hproject howned

end

theorem ReachableBy.diskLedger (h : ReachableBy codec guard S) : DiskLedger S.holdings := by
  refine Reaches.invariant (I := fun S : SecurityStore => DiskLedger S.holdings) ?_
    (fun S op _ hS _ => ?_) h
  · refine ⟨fun F => ?_, fun p a => ⟨?_, ?_⟩⟩
    · change 0 ≤ i64Max
      decide
    · rintro ⟨⟩
    · rintro ⟨r, hr, -⟩
      cases hr
  · have hstep : Rehouses codec op S (step codec op S) := holdings_step op S
    rcases hstep with hsame | hstep
    · rw [hsame]
      exact hS
    · exact hS.step hstep

/-- After a successful acquisition the filesystem is not overcommitted. -/
theorem acquireDiskReservation_load {u : Unit}
    (h : acquireDiskReservation codec p a observation t S = (.ok u, S')) :
    diskLoad (S'.disksOn observation.filesystemIdentity) ≤ observation.availableBytes := by
  obtain ⟨claim, hadmitted, ⟨r, hr, rfl, hmatches, hS'⟩ | ⟨hnone, -, -, hS'⟩⟩ :=
    acquireDiskReservation_ok h
  · simp only [reservationMatches, where_iff] at hmatches
    obtain ⟨⟨⟨⟨-, hrequired⟩, hreserve⟩, hF⟩, -⟩ := hmatches
    obtain ⟨hobserved, hload, -⟩ := load_of_admission hadmitted hrequired hreserve
    have hrows : S'.disks.rows = S.disks.rows.map (refreshed r.attemptId observation) :=
      congrArg Holdings.disks hS'
    rw [disksOn, hrows, filter_refreshed, diskLoad_refreshed, hobserved, ← hF, ← disksOn,
      diskLoad_perm (disksOn_perm hr), hF]
    exact hload
  · obtain ⟨hobserved, hload, -⟩ :=
      load_of_admission hadmitted (r := claim.active p a observation) rfl rfl
    have hrows : S'.disks.rows = S.disks.rows ++ [claim.active p a observation] :=
      congrArg Holdings.disks hS'
    rw [disksOn, hrows, hobserved, diskLoad_append, if_pos (by rfl), ← disksOn,
      ← otherDisks_of_none hnone]
    exact hload

/-- A claim whose bytes a column can hold. -/
def Representable (claim : AuthorizedDiskReservation) : Prop :=
  (claim.requiredBytes : Int) ≤ i64Max ∧ (claim.emergencyReserveBytes : Int) ≤ i64Max

/-- The sums of the admission check stay in range for every claim that a column can hold. -/
theorem ReachableBy.totals_in_range (h : ReachableBy codec guard S) (F : EvidenceDigest) (a : Uuid) :
    ∃ R E, reservationTotals 0 0 (S.otherDisks F a) = .ok (R, E) ∧
      ∀ claim operation, Representable claim → claim.operationBytes = some operation →
        R + operation ≤ u64Max ∧ R + operation + max E claim.emergencyReserveBytes ≤ u64Max := by
  have hbounded : diskLoad (S.disksOn F) ≤ i64Max := h.diskLedger.bounded F
  have hsublist : (S.otherDisks F a).Sublist (S.disksOn F) := by
    have heq : S.otherDisks F a = (S.disksOn F).filter fun r => r.attemptId ≠ a := by
      unfold otherDisks disksOn
      rw [filter_filter]
      refine filter_congr fun r _ => ?_
      rw [Bool.and_comm]
    rw [heq]
    exact filter_sublist
  obtain ⟨htotal, hreserve⟩ := diskLoad_sublist hsublist
  have hload : operationTotal (S.disksOn F) + largestReserve (S.disksOn F) ≤ i64Max := by
    simpa [diskLoad] using hbounded
  have hchecked : ∀ r ∈ S.otherDisks F a, r.emergencyReserveBytes ≤ r.requiredBytes := by
    intro r hr
    have hcheck := S.disks.checked r (mem_filter.mp hr).1
    simp only [diskSchema, where_iff] at hcheck
    exact hcheck.1.1.2.le
  have hmax : i64Max = 9223372036854775807 ∧ u64Max = 18446744073709551615 := by decide
  obtain ⟨R, E, htotals⟩ := exists_reservationTotals 0 0 hchecked (by omega)
  refine ⟨R, E, htotals, fun claim operation hclaim hoperation => ?_⟩
  obtain ⟨rfl, rfl⟩ := reservationTotals_ok htotals
  unfold AuthorizedDiskReservation.operationBytes at hoperation
  split_ifs at hoperation with hless
  cases hoperation
  obtain ⟨hrequired, hemergency⟩ := hclaim
  omega

/-- The ledger of disk reservations: no acquisition overcommits what was observed, the sums stay
in range, a reservation and the ownership of its key go together, and a call that fails changes
nothing. -/
theorem disk_reservations_fit (h : Reachable codec S) :
    (∀ p a observation t S', acquireDiskReservation codec p a observation t S = (.ok (), S') →
      diskLoad (S'.disksOn observation.filesystemIdentity) ≤ observation.availableBytes) ∧
    (∀ F a, ∃ R E, reservationTotals 0 0 (S.otherDisks F a) = .ok (R, E) ∧
      ∀ claim operation, Representable claim → claim.operationBytes = some operation →
        R + operation ≤ u64Max ∧ R + operation + max E claim.emergencyReserveBytes ≤ u64Max) ∧
    (∀ p a, (∃ r ∈ S.disks.rows, r.projectId = p ∧ r.attemptId = a) ↔
      S.resourceOwner (.diskReservation p) = some a) ∧
    (∀ p a observation t e S', acquireDiskReservation codec p a observation t S = (.error e, S') →
      S' = S) ∧
    ∀ p a e S', releaseDiskReservationIfOwned p a S = (.error e, S') → S' = S := by
  have hreach : ReachableBy codec (fun _ _ => True) S := h
  refine ⟨fun p a observation t S' hok => acquireDiskReservation_load hok, hreach.totals_in_range,
    fun p a => (hreach.diskLedger.owned p a).symm, fun p a observation t e S' => ?_,
    fun p a e S' => ?_⟩
  · exact Session.atomic_transaction _ S e S'
  · exact Session.atomic_transaction _ S e S'

end SecurityStore

namespace SecuritySample

def neighbour : ProjectId := ⟨"r", by decide +kernel⟩

/-- The reservations of two projects fill a filesystem of three bytes: of the two bytes of each,
one is the emergency reserve that they share. -/
def reserving : SecurityStore := runAll (step codec) empty
  [.authorizeAttempt (authorization 1) 0,
    .authorizeAttempt { authorization 2 with projectId := neighbour } 0,
    .acquireDiskReservation project 1 ⟨0, 3, 0⟩ 0, .acquireDiskReservation neighbour 2 ⟨0, 3, 1⟩ 1]

/-- A new observation refreshes the first one; one that shows a byte less is refused. -/
theorem reserving_fits :
    reserving.disks.rows.map (·.projectId) = [project, neighbour] ∧
    (∃ S', acquireDiskReservation codec project 1 ⟨0, 3, 2⟩ 2 reserving = (.ok (), S') ∧
      diskLoad (S'.disksOn 0) ≤ 3) ∧
    ∃ e, acquireDiskReservation codec project 1 ⟨0, 2, 2⟩ 2 reserving = (.error e, reserving) := by
  have hreach : Reachable codec reserving := reaches_runAll (fun _ _ => trivial) .init
  obtain ⟨hload, -, -, hfailed, -⟩ := disk_reservations_fit hreach
  obtain ⟨⟨⟩, S', hok⟩ := Session.exists_ok
    (x := acquireDiskReservation codec project 1 ⟨0, 3, 2⟩ 2 reserving) (by decide +kernel)
  refine ⟨by decide +kernel, ⟨S', hok, hload project 1 ⟨0, 3, 2⟩ 2 S' hok⟩, ?_⟩
  have herror : (acquireDiskReservation codec project 1 ⟨0, 2, 2⟩ 2 reserving).1 =
    .error (.diskReservationCapacity 3 2) := by decide +kernel
  exact ⟨_, Prod.ext herror (hfailed _ _ _ _ _ _ (Prod.ext herror rfl))⟩

end SecuritySample

end Rdashboard
