import Rdashboard.Notifications.Store

/-! # The capacity of the outbox

The outbox counts every row against its capacity, the settled ones included, and no call deletes a
row.  So a new event is refused as soon as the table is full, however few of its rows still wait for
their delivery. -/

namespace Rdashboard

open Relational Txn TableRef Session List

namespace NotificationStore

def undelivered (S : NotificationStore) : Nat := S.outbox.count fun r =>
  decide (r.state ∈ [.pending, .sending, .deliveryUnknown, .retryScheduled])

/-- The stores that calls reach from an empty one. -/
def Reachable (sha256 : NotificationDedupMaterial → EvidenceDigest) : NotificationStore → Prop :=
  Reaches (step sha256) (fun _ _ => True) {}

variable {sha256 : NotificationDedupMaterial → EvidenceDigest} {S S' : NotificationStore}
  {event : NotificationEventV1} {nowMs : Int}

/-! ### What a call does to the rows -/

theorem enqueue_rows {result : NotificationEnqueueResult}
    (h : enqueue sha256 event nowMs S = .ok (result, S')) : S' = S ∧ result = .duplicate ∨
      S'.outbox.rows = S.outbox.rows ++ [event.pendingRow nowMs] ∧
        S.outbox.rows.length < maxOutboxRows := by
  simp only [enqueue, enqueueWithLimit, ok_iff] at h
  obtain ⟨_, -, _, -, _, -, found, -, h⟩ := h
  cases found with
  | some existing =>
    simp only [ok_iff] at h
    obtain ⟨_, -, rfl, rfl⟩ := h
    exact .inl ⟨rfl, rfl⟩
  | none =>
    simp only [ok_iff, insert_ok_iff] at h
    obtain ⟨_, rfl, _, hroom, _, _, ⟨-, t, ht, rfl⟩, -, rfl⟩ := h
    exact .inr ⟨Table.rows_insert ht, hroom⟩

theorem claimNext_length {duration : Nat} {id : FreshUuid} {claim : Option NotificationClaimV1}
    (h : claimNext sha256 nowMs duration id S = .ok (claim, S')) :
    S'.outbox.rows.length = S.outbox.rows.length := by
  simp only [claimNext, ok_iff] at h
  obtain ⟨_, -, _, -, found, -, h⟩ := h
  cases found with
  | none =>
    obtain ⟨-, rfl⟩ := pure_ok_iff.mp h
    rfl
  | some selected =>
    simp only [ok_iff, update_ok_iff] at h
    obtain ⟨_, -, _, -, _, -, _, _, ⟨t, ht, -, rfl⟩, -, rfl⟩ := h
    exact (congrArg length (Table.rows_update ht)).trans (length_map _)

/-- No call exceeds the capacity. -/
theorem call_length (op : Operation) (h : call sha256 op S = .ok ((), S'))
    (hS : S.outbox.rows.length ≤ maxOutboxRows) : S'.outbox.rows.length ≤ maxOutboxRows := by
  cases op with
  | enqueue event t =>
    obtain ⟨result, h, -⟩ := map_ok_iff.mp h
    obtain ⟨rfl, -⟩ | ⟨hrows, hroom⟩ := enqueue_rows h
    · exact hS
    · rwa [hrows, length_append, length_singleton]
  | claimNext t lease id =>
    obtain ⟨claim, h, -⟩ := map_ok_iff.mp h
    rwa [claimNext_length h]
  | mark claim t request =>
    simp only [call, mark, completeClaim, ok_iff, update_ok_iff] at h
    obtain ⟨_, -, _, -, _, -, _, _, ⟨t, ht, -, rfl⟩, -, rfl⟩ := h
    exact (congrArg length (Table.rows_update ht)).trans (length_map _) ▸ hS

theorem Reachable.length_le (h : Reachable sha256 S) : S.outbox.rows.length ≤ maxOutboxRows := by
  refine Reaches.invariant (I := fun S => S.outbox.rows.length ≤ maxOutboxRows) (Nat.zero_le _)
    (fun S op _ hS _ => ?_) h
  exact final_transaction (P := fun S => S.outbox.rows.length ≤ maxOutboxRows) hS
    fun _ _ h => call_length op h hS

/-! ### New events -/

/-- A valid event with a new key passes every check but the count of the rows. -/
theorem exists_enqueue (hvalid : event.validate sha256 = .ok ()) (hnow : event.createdAtMs ≤ nowMs)
    (hnew : ∀ r ∈ S.outbox.rows, r.dedupKey ≠ event.dedupKey)
    (hroom : S.outbox.rows.length < maxOutboxRows) :
    ∃ S', enqueue sha256 event nowMs S = .ok (.inserted, S') := by
  have hlookup : S.outbox.lookup (·.dedupKey) event.dedupKey = none :=
    Table.lookup_eq_none_iff.mpr hnew
  have hcreated : 0 ≤ event.createdAtMs := by
    simp only [NotificationEventV1.validate, Check.ok_iff] at hvalid
    obtain ⟨_, ⟨-, hcreated, -⟩, -⟩ := hvalid
    exact hcreated
  obtain ⟨t, ht⟩ : ∃ t, S.outbox.insert (event.pendingRow nowMs) = some t := by
    refine Table.exists_insert ?_ fun r hr => ?_
    · simp [outboxSchema, NotificationEventV1.pendingRow, hcreated, hnow, hcreated.trans hnow]
    · simp [outboxSchema, NotificationEventV1.pendingRow, hnew r hr]
  refine ⟨⟨t⟩, ?_⟩
  simp only [enqueue, enqueueWithLimit, ok_iff, Check.mapError_ok_iff]
  refine ⟨(), hvalid, (), hnow, (), ⟨by decide, le_rfl⟩, none, hlookup, ?_⟩
  simp only [ok_iff, insert_ok_iff]
  exact ⟨_, rfl, (), hroom, (), _, ⟨trivial, t, ht, rfl⟩, trivial, rfl⟩

/-- With fewer undelivered rows than the capacity, a reachable store takes a new event exactly when
it is not full or has no settled row. -/
theorem enqueue_inserts_iff (hS : Reachable sha256 S) (hvalid : event.validate sha256 = .ok ())
    (hnow : event.createdAtMs ≤ nowMs) (hnew : ∀ r ∈ S.outbox.rows, r.dedupKey ≠ event.dedupKey) :
    (S.undelivered < maxOutboxRows → ∃ S', enqueue sha256 event nowMs S = .ok (.inserted, S')) ↔
      (S.outbox.rows.length = maxOutboxRows →
        ∀ r ∈ S.outbox.rows, r.state ∈ [.pending, .sending, .deliveryUnknown, .retryScheduled]) := by
  constructor
  · intro hopen hfull
    by_contra hsettled
    have hcount : S.undelivered < S.outbox.rows.length := by
      refine lt_of_le_of_ne countP_le_length fun hall => hsettled fun r hr => ?_
      exact of_decide_eq_true (countP_eq_length.mp hall r hr)
    obtain ⟨S', h⟩ := hopen (hfull ▸ hcount)
    obtain ⟨-, hdup⟩ | ⟨-, hroom⟩ := enqueue_rows h
    · cases hdup
    · exact hroom.ne hfull
  · intro hclear hopen
    refine exists_enqueue hvalid hnow hnew (lt_of_le_of_ne hS.length_le fun hfull => ?_)
    have hall : S.undelivered = S.outbox.rows.length :=
      countP_eq_length.mpr fun r hr => decide_eq_true (hclear hfull r hr)
    exact hopen.ne (hall.trans hfull)

/-! ### A full outbox with a settled row -/

section FullOutbox

/-- Events that differ in their occurrence only, with the occurrence as the key. -/
def backupEvent (i : Nat) : NotificationEventV1 where
  schemaVersion := 1
  projectId := ⟨"rimg", by decide⟩
  kind := .backupVerified
  eventKey := "rdashboard.rimg.backup"
  occurrenceDigest := .ofNat 256 i
  dedupKey := .ofNat 256 i
  text := "rimg: backup verified"
  createdAtMs := 0

theorem validate_backupEvent (i : Nat) : (backupEvent i).validate (·.occurrenceDigest) = .ok () := by
  simp only [NotificationEventV1.validate, Check.ok_iff]
  refine ⟨(), ⟨rfl, le_rfl, Int.natCast_nonneg _, ?_, ?_⟩, rfl⟩
  · exact (by decide : validEventKey "rdashboard.rimg.backup" = true)
  · exact (by decide : validNotificationText "rimg: backup verified" = true)

theorem dedupKey_backupEvent {i : Nat} (hi : i ≤ maxOutboxRows) :
    (backupEvent i).dedupKey.toNat = i :=
  Nat.mod_eq_of_lt (hi.trans_lt (by decide))

/-- The event that follows those enqueued so far has a new key. -/
theorem backupEvent_new {n : Nat} (hn : n < maxOutboxRows)
    (hkeys : ∀ r ∈ S.outbox.rows, r.dedupKey.toNat ≤ n) :
    ∀ r ∈ S.outbox.rows, r.dedupKey ≠ (backupEvent (n + 1)).dedupKey := by
  intro r hr heq
  have hkey := hkeys r hr
  rw [heq, dedupKey_backupEvent hn] at hkey
  omega

/-- One settled row, then `n` pending ones. -/
theorem exists_settled_pending {n : Nat} (hn : n < maxOutboxRows) :
    ∃ S, Reachable (·.occurrenceDigest) S ∧ S.outbox.rows.length = n + 1 ∧ S.undelivered = n ∧
      ∀ r ∈ S.outbox.rows, r.dedupKey.toNat ≤ n := by
  induction n with
  | zero =>
    have hops : ∀ op ∈ [Operation.enqueue (backupEvent 0) 0, .claimNext 0 (10 ^ 6) ⟨1, rfl⟩,
        .mark ⟨backupEvent 0, 1, 1, 1, none, false⟩ 0 (.permanentFailure "gateway_rejected")],
        True := fun _ _ => trivial
    refine ⟨_, reaches_runAll hops .init, ?_⟩
    decide +kernel
  | succ n ih =>
    obtain ⟨S, hS, hlength, hopen, hkeys⟩ := ih (by omega)
    obtain ⟨S', h⟩ := exists_enqueue (validate_backupEvent (n + 1)) (le_refl 0)
      (backupEvent_new (n.lt_succ_self.trans hn) hkeys) (hlength ▸ hn)
    obtain ⟨-, hdup⟩ | ⟨hrows, -⟩ := enqueue_rows h
    · cases hdup
    have hstep : step (·.occurrenceDigest) (.enqueue (backupEvent (n + 1)) 0) S = S' :=
      congrArg Prod.snd (immediateTransaction_ok (map_ok_iff.mpr ⟨_, h, rfl⟩))
    refine ⟨S', hstep ▸ .next _ hS trivial, ?_, ?_, ?_⟩
    · rw [hrows, length_append, hlength, length_singleton]
    · rw [undelivered, Table.count, hrows, countP_append]
      exact congrArg (· + 1) hopen
    · rw [hrows, forall_mem_append]
      exact ⟨fun r hr => (hkeys r hr).trans n.le_succ,
        forall_mem_singleton.mpr (dedupKey_backupEvent hn.le).le⟩

/-- A store with a settled row and a pending one takes the next event. -/
theorem enqueue_inserts_beside_settled : ∃ S S', Reachable (·.occurrenceDigest) S ∧
    S.undelivered < S.outbox.rows.length ∧
      enqueue (·.occurrenceDigest) (backupEvent 2) 0 S = .ok (.inserted, S') := by
  obtain ⟨S, hS, hlength, hopen, hkeys⟩ := exists_settled_pending (n := 1) (by decide)
  obtain ⟨S', h⟩ := (enqueue_inserts_iff hS (validate_backupEvent 2) le_rfl
    (backupEvent_new (by decide) hkeys)).mpr (fun hfull => absurd (hlength.symm.trans hfull) (by decide))
    (by rw [hopen]; decide)
  exact ⟨S, S', hS, by rw [hopen, hlength]; decide, h⟩

/-- The outbox holds a settled row and refuses a new event although one of its rows is no longer
undelivered. -/
theorem not_enqueue_of_settled : ∃ S, Reachable (·.occurrenceDigest) S ∧
    S.undelivered < maxOutboxRows ∧ (backupEvent maxOutboxRows).validate (·.occurrenceDigest) = .ok () ∧
    (∀ r ∈ S.outbox.rows, r.dedupKey ≠ (backupEvent maxOutboxRows).dedupKey) ∧
    ¬ ∃ S', enqueue (·.occurrenceDigest) (backupEvent maxOutboxRows) 0 S = .ok (.inserted, S') := by
  obtain ⟨S, hS, hlength, hopen, hkeys⟩ := exists_settled_pending (n := 4095) (by decide)
  refine ⟨S, hS, by rw [hopen]; decide, validate_backupEvent _,
    backupEvent_new (n := 4095) (by decide) hkeys, ?_⟩
  rintro ⟨S', h⟩
  obtain ⟨-, hdup⟩ | ⟨-, hroom⟩ := enqueue_rows h
  · cases hdup
  · exact hroom.ne hlength

end FullOutbox

end NotificationStore

end Rdashboard
