import Rdashboard.Refinement.View

/-! # What a statement does to the view

One lemma per kind of statement: an `UPDATE` whose condition selects rows of one attempt, or an
`INSERT` of a row of one attempt, changes the view of that attempt and of no other. -/

namespace Rdashboard

open Relational Table Function NodeRow Attempt Option

variable {sha256 : Sha256}

namespace Journal

variable {J J' J'' : Journal sha256} {a b : Uuid} {A : Attempt sha256}
  {F G : Attempt sha256 → Attempt sha256}
variable {p : NodeRow → Bool} {f : NodeRow → NodeRow} {t : Table (leaseSchema sha256)}
  {l : LeaseRow sha256}

/-! ### Composition -/

theorem Acts.trans (h₁ : J.Acts J' a F) (h₂ : J'.Acts J'' a G) : J.Acts J'' a (G ∘ F) := by
  intro hJ
  obtain ⟨hJ', hv₁⟩ := h₁ hJ
  obtain ⟨hJ'', hv₂⟩ := h₂ hJ'
  exact ⟨hJ'', by rw [hv₂, hv₁, modifyAt_modifyAt]⟩

theorem Acts.congr (h : J.Acts J' a F) (hFG : ∀ A, J.view a = some A → F A = G A) :
    J.Acts J' a G := by
  intro hJ
  obtain ⟨hJ', hv⟩ := h hJ
  exact ⟨hJ', by rw [hv, modifyAt_congr hFG]⟩

theorem Acts.view (h : J.Acts J' a F) (hJ : J.Sound) (hA : J.view a = some A) :
    J'.view a = some (F A) := by rw [(h hJ).2, modifyAt_of_eq_some hA]

theorem Acts.view_ne (h : J.Acts J' a F) (hJ : J.Sound) (hb : b ≠ a) : J'.view b = J.view b := by
  rw [(h hJ).2, modifyAt_ne hb]

theorem acts_of_view_eq (hs : J.Sound → J'.Sound) (hv : J'.view = J.view) : J.Acts J' a id :=
  fun hJ => ⟨hs hJ, hv.trans (modifyAt_eq_self fun _ _ => rfl).symm⟩

theorem Acts.refl : J.Acts J a id := acts_of_view_eq id rfl

/-- A statement on a table other than the attempts and the requests. -/
theorem acts_of_attach (hs : J.Sound → J'.Sound) (hattempts : J'.attempts = J.attempts)
    (hrequests : J'.requests = J.requests)
    (ha : ∀ row request, J.Sound → J'.attach a row request = F (J.attach a row request))
    (hne : ∀ b row request, J.Sound → b ≠ a → J'.attach b row request = J.attach b row request) :
    J.Acts J' a F := by
  intro hJ
  refine ⟨hs hJ, funext fun b => ?_⟩
  have hrow : J'.attempt b = J.attempt b := by rw [attempt, hattempts]; rfl
  have hreq : J'.request = J.request := by funext i; rw [request, hrequests]; rfl
  by_cases hb : b = a
  · subst hb
    simp only [modifyAt_self, view, hreq, map_bind, comp_def, map_map]
    congr 1
    funext row
    congr 1
    exact funext fun request => ha row request hJ
  · rw [modifyAt_ne hb]
    simp only [view, hreq]
    congr 1
    funext row
    congr 1
    exact funext fun request => hne b row request hJ hb

/-! ### Reading updated tables -/

theorem NodeRow.key_of_fixed {n n' : NodeRow} (h : n'.fixed = n.fixed) : n'.key = n.key := by
  simp only [fixed, Prod.mk.injEq] at h
  rw [key, key, h.1.1, h.1.2.1]

theorem orderedNodes_update {t : Table nodeSchema}
    (h : J.nodes.update p f = some t) (hf : ∀ n, (f n).fixed = n.fixed) (b : Uuid) :
    ({ J with nodes := t } : Journal sha256).orderedNodes b = (J.orderedNodes b).map (assign p f) := by
  have hfix : ∀ n, (assign p f n).fixed = n.fixed := assign_column fun n _ => hf n
  simp only [fixed, Prod.mk.injEq] at hfix
  unfold orderedNodes
  rw [List.map_insertionSort (·.ordinal ≤ ·.ordinal) (·.ordinal ≤ ·.ordinal) (assign p f) _
    fun x _ y _ => by rw [(hfix x).1.2.2, (hfix y).1.2.2], rows_update h, List.filter_map]
  congr 2
  refine List.filter_congr fun n _ => ?_
  simp only [comp_apply, (hfix n).1.1]

/-! ### Updates -/

/-- `UPDATE workflow_nodes … WHERE attempt_id = a AND q`. -/
theorem acts_setNodes {q : NodeRow → Bool} {t : Table nodeSchema}
    (h : J.nodes.update p f = some t) (hp : ∀ n, p n = (decide (n.attemptId = a) && q n))
    (hf : ∀ n, (f n).fixed = n.fixed) :
    J.Acts { J with nodes := t } a (·.setNodes q f) := by
  have hlookup := lookup_update (fun n _ => NodeRow.key_of_fixed (hf n)) h
  have hid : ∀ n, (assign p f n).nodeId = n.nodeId := fun n => by
    have := assign_column (p := p) (fun n _ => hf n) n
    simp only [fixed, Prod.mk.injEq] at this
    exact this.1.2.1
  have hattempt : ∀ n, (f n).attemptId = n.attemptId := fun n => by
    have := hf n
    simp only [fixed, Prod.mk.injEq] at this
    exact this.1.1
  have horder : ∀ b, (({ J with nodes := t } : Journal sha256).orderedNodes b).map (·.nodeId) =
      (J.orderedNodes b).map (·.nodeId) := by
    intro b
    rw [orderedNodes_update h hf, List.map_map]
    exact List.map_congr_left fun n _ => hid n
  refine acts_of_attach (fun hJ => ?_) rfl rfl (fun row request _ => ?_) fun b row request _ hb => ?_
  · exact { hJ with
      node := forall_update h hJ.node fun n _ hn => by rw [hattempt]; exact hn }
  · refine Attempt.ext rfl rfl (horder a) rfl (funext fun k => ?_) rfl rfl rfl rfl rfl
    refine (hlookup (a, k)).trans (map_congr fun n hn => ?_)
    have hk : n.key = (a, k) := key_of_lookup hn
    simp [assign, hp, show n.attemptId = a from (Prod.ext_iff.mp hk).1]
  · refine Attempt.ext rfl rfl (horder b) rfl (funext fun k => ?_) rfl rfl rfl rfl rfl
    refine (hlookup (b, k)).trans (map_assign_of_neg fun n hn => ?_)
    have hk : n.key = (b, k) := key_of_lookup hn
    simp [hp, show n.attemptId = b from (Prod.ext_iff.mp hk).1, hb]

/-- A statement on the leases keeps what refers to them, if no lease disappears. -/
theorem Sound.of_leases (hJ : J.Sound) (hrows : ∀ l ∈ t.rows, (J.attempt l.attemptId).isSome = true)
    (hkept : ∀ i, (J.lease i).isSome = true →
      (t.lookup (fun l : LeaseRow sha256 => l.leaseId) i).isSome = true) :
    ({ J with leases := t } : Journal sha256).Sound :=
  { hJ with
    lease := hrows
    receipt := fun r hr => ⟨hkept _ (hJ.receipt r hr).1, (hJ.receipt r hr).2⟩
    cleanup := fun c hc => hkept _ (hJ.cleanup c hc) }

/-- `UPDATE workflow_lease_journal …`, on leases of one attempt. -/
theorem acts_setLeases {p q : LeaseRow sha256 → Bool} {f : LeaseRow sha256 → LeaseRow sha256}
    (h : J.leases.update p f = some t)
    (hp : ∀ l ∈ J.leases.rows, p l = (decide (l.attemptId = a) && q l))
    (hf : ∀ l, (f l).key = l.key) : J.Acts { J with leases := t } a (·.setLeases q f) := by
  have hlookup := lookup_update (fun l _ => hf l) h
  have hkey : ∀ {b i l}, J.leases.lookup LeaseRow.key (b, i) = some l →
      l ∈ J.leases.rows ∧ l.attemptId = b := fun hl =>
    ⟨mem_of_lookup hl, (Prod.ext_iff.mp (key_of_lookup hl)).1⟩
  refine acts_of_attach (fun hJ => hJ.of_leases ?_ fun i hi => ?_) rfl rfl
    (fun row request _ => ?_) fun b row request _ hb => ?_
  · refine forall_update h hJ.lease fun l _ hl => ?_
    rw [show (f l).attemptId = l.attemptId from (Prod.ext_iff.mp (hf l)).1]
    exact hl
  · rw [lookup_update (fun l _ => (Prod.ext_iff.mp (hf l)).2) h, isSome_map]
    exact hi
  · refine Attempt.ext rfl rfl rfl rfl rfl (funext fun i => ?_) rfl rfl rfl rfl
    simp only [attach, Attempt.setLeases, hlookup, map_map]
    cases hl : J.leases.lookup LeaseRow.key (a, i) with
    | none => rfl
    | some l =>
      have hpq : p l = q l := by simp [hp l (hkey hl).1, (hkey hl).2]
      simp only [map_some, comp_apply, assign, hpq]
      rfl
  · refine Attempt.ext rfl rfl rfl rfl rfl (funext fun i => ?_) rfl rfl rfl rfl
    simp only [attach, hlookup]
    rw [map_assign_of_neg fun l hl => by simp [hp l (hkey hl).1, (hkey hl).2, hb]]
    rfl

theorem Sound.of_attempts (hJ : J.Sound) {t : Table attemptSchema}
    (hnumber : ∀ r ∈ t.rows, r.attemptNumber = 1)
    (hrequest : ∀ r ∈ t.rows, (J.request r.requestId).isSome = true)
    (hkept : ∀ b, (J.attempt b).isSome = true →
      (t.lookup (fun r : AttemptRow => r.attemptId) b).isSome = true) :
    ({ J with attempts := t } : Journal sha256).Sound where
  number := hnumber
  request := hrequest
  node := fun n hn => hkept _ (hJ.node n hn)
  dependency := fun d hd => hkept _ (hJ.dependency d hd)
  lease := fun l hl => hkept _ (hJ.lease l hl)
  receipt := fun r hr => ⟨(hJ.receipt r hr).1, hkept _ (hJ.receipt r hr).2⟩
  cleanup := hJ.cleanup
  binding := fun b hb => hkept _ (hJ.binding b hb)
  reduction := fun r hr => hkept _ (hJ.reduction r hr)
  lock := fun k hk => hkept _ (hJ.lock k hk)

/-- `UPDATE workflow_attempts … WHERE attempt_id = a AND q`. -/
theorem acts_setRow {p q : AttemptRow → Bool} {f : AttemptRow → AttemptRow}
    {t : Table attemptSchema} (h : J.attempts.update p f = some t)
    (hp : ∀ r, p r = (decide (r.attemptId = a) && q r)) (hf : ∀ r, (f r).fixed = r.fixed) :
    J.Acts { J with attempts := t } a (·.setRow (assign q f)) := by
  have hfix : ∀ r, (f r).attemptId = r.attemptId ∧ (f r).requestId = r.requestId ∧
      (f r).attemptNumber = r.attemptNumber := fun r => by
    have := hf r
    simp only [AttemptRow.fixed, Prod.mk.injEq] at this
    exact ⟨this.1, this.2.1, this.2.2.1⟩
  have hlookup : ∀ b, ({ J with attempts := t } : Journal sha256).attempt b =
      (J.attempt b).map (assign p f) := lookup_update (fun r _ => (hfix r).1) h
  have hreq : ∀ r, (assign p f r).requestId = r.requestId := assign_column fun r _ => (hfix r).2.1
  have hview : ∀ b, ({ J with attempts := t } : Journal sha256).view b =
      (J.view b).map (·.setRow (assign p f)) := by
    intro b
    rw [view, hlookup, bind_map, view, map_bind]
    congr 1
    funext row
    simp only [comp_apply, hreq, map_map]
    rfl
  refine fun hJ => ⟨hJ.of_attempts ?_ ?_ fun b hb => ?_,
    eq_modifyAt_of_map hview (fun A hA => ?_) fun b A hb hA => ?_⟩
  · exact forall_update h hJ.number fun r _ hr => by rw [(hfix r).2.2]; exact hr
  · exact forall_update h hJ.request fun r _ hr => by rw [(hfix r).2.1]; exact hr
  · exact (congrArg isSome (hlookup b)).trans (isSome_map.trans hb)
  · simp only [setRow, assign, hp, attemptId_of_view hA, decide_true, Bool.true_and]
  · simp only [setRow, assign, hp, attemptId_of_view hA, hb, decide_false, Bool.false_and,
      Bool.false_eq_true, if_false]

theorem requestId_of_view (hA : J.view a = some A) : A.request.requestId = A.row.requestId :=
  key_of_lookup (request_of_view hA)

theorem Sound.attempt_unique (hJ : J.Sound) {B : Attempt sha256} (hA : J.view a = some A)
    (hB : J.view b = some B) (h : A.row.requestId = B.row.requestId) : a = b := by
  have hmA := mem_of_lookup (attempt_of_view hA)
  have hmB := mem_of_lookup (attempt_of_view hB)
  have : A.row = B.row := eq_of_key attempts_by_number hmA hmB
    (by rw [h, hJ.number _ hmA, hJ.number _ hmB])
  rw [← attemptId_of_view hA, ← attemptId_of_view hB, this]

theorem Sound.of_requests (hJ : J.Sound) {t : Table requestSchema}
    (hkept : ∀ i, (J.request i).isSome = true →
      (t.lookup (fun r : RequestRow => r.requestId) i).isSome = true) :
    ({ J with requests := t } : Journal sha256).Sound :=
  { hJ with request := fun r hr => hkept _ (hJ.request r hr) }

/-- `UPDATE workflow_requests … WHERE request_id = (the request of a) AND q`. -/
theorem acts_setRequest {p q : RequestRow → Bool} {f : RequestRow → RequestRow}
    {t : Table requestSchema} (h : J.requests.update p f = some t) (hA : J.view a = some A)
    (hp : ∀ r, p r = (decide (r.requestId = A.row.requestId) && q r))
    (hf : ∀ r, (f r).fixed = r.fixed) :
    J.Acts { J with requests := t } a (·.setRequest q f) := by
  have hid : ∀ r, (f r).requestId = r.requestId := fun r => by
    have := hf r
    simp only [RequestRow.fixed, Prod.mk.injEq] at this
    exact this.1.1
  have hlookup : ∀ i, ({ J with requests := t } : Journal sha256).request i =
      (J.request i).map (assign p f) := lookup_update (fun r _ => hid r) h
  have hview : ∀ b, ({ J with requests := t } : Journal sha256).view b =
      (J.view b).map (·.setRequest p f) := by
    intro b
    rw [view, view, map_bind]
    simp only [hlookup, comp_def, map_map]
    rfl
  refine fun hJ => ⟨hJ.of_requests fun i hi => ?_,
    eq_modifyAt_of_map hview (fun B hB => ?_) fun b B hb hB => ?_⟩
  · exact (congrArg isSome (hlookup i)).trans (isSome_map.trans hi)
  · cases hA.symm.trans hB
    simp only [setRequest, assign, hp, requestId_of_view hA, decide_true, Bool.true_and]
  · have hne : B.row.requestId ≠ A.row.requestId := fun heq => hb (hJ.attempt_unique hB hA heq)
    simp only [setRequest, assign, hp, requestId_of_view hB, hne, decide_false,
      Bool.false_and, Bool.false_eq_true, if_false]

/-- `UPDATE workflow_mutation_locks … WHERE attempt_id = a`. -/
theorem acts_setLock {p : LockRow → Bool} {f : LockRow → LockRow} {t : Table lockSchema}
    (h : J.locks.update p f = some t) (hp : ∀ k, p k = decide (k.attemptId = a))
    (hf : ∀ k, (f k).attemptId = k.attemptId) : J.Acts { J with locks := t } a (·.setLock f) := by
  have hlookup := lookup_update_where (fun k _ => hf k)
    (fun k hk => of_decide_eq_true ((hp k).symm.trans hk)) h
  refine acts_of_attach (fun hJ => ?_) rfl rfl (fun row request _ => ?_) fun b row request _ hb => ?_
  · exact { hJ with lock := forall_update h hJ.lock fun k _ hk => by rw [hf]; exact hk }
  · refine Attempt.ext rfl rfl rfl rfl rfl rfl rfl rfl rfl (((hlookup a).trans (if_pos rfl)).trans ?_)
    exact map_congr fun k hk => assign_of_pos f (by rw [hp]; simpa using key_of_lookup hk)
  · exact Attempt.ext rfl rfl rfl rfl rfl rfl rfl rfl rfl ((hlookup b).trans (if_neg (symm hb)))

/-- `DELETE FROM workflow_mutation_locks WHERE attempt_id = a AND q`. -/
theorem acts_releaseLock {p : LockRow → Bool} {k : LockRow} (hA : J.view a = some A)
    (hk : A.lock = some k) (hpk : p k = true) (hp : ∀ k, p k = true → k.attemptId = a) :
    J.Acts { J with locks := J.locks.delete p } a (·.releaseLock) := by
  have hlookup := lookup_delete_where (t := J.locks) locks_by_attempt hp
  refine acts_of_attach (fun hJ => ?_) rfl rfl (fun row request _ => ?_) fun b row request _ hb => ?_
  · exact { hJ with lock := forall_delete hJ.lock }
  · refine Attempt.ext rfl rfl rfl rfl rfl rfl rfl rfl rfl ((hlookup a).trans ?_)
    rw [if_pos rfl, show J.locks.lookup (·.attemptId) a = some k from (attemptLock_of_view hA).trans hk]
    simp [filter_some, hpk]
    rfl
  · exact Attempt.ext rfl rfl rfl rfl rfl rfl rfl rfl rfl ((hlookup b).trans (if_neg (symm hb)))

/-! ### Inserts -/

theorem Sound.no_receipt (hJ : J.Sound) {i : Uuid} (hi : J.lease i = none) :
    J.leaseReceipt i = none ∧ J.leaseCleanup i = none := by
  constructor
  · cases h : J.leaseReceipt i with
    | none => rfl
    | some r =>
      have := (hJ.receipt r (mem_of_lookup h)).1
      rw [show r.leaseId = i from key_of_lookup h, hi] at this
      cases this
  · cases h : J.leaseCleanup i with
    | none => rfl
    | some c =>
      have := hJ.cleanup c (mem_of_lookup h)
      rw [show c.leaseId = i from key_of_lookup h, hi] at this
      cases this

/-- `INSERT INTO workflow_lease_journal`. -/
theorem acts_addLease
    (h : J.leases.insert l = some t) (hatt : (J.attempt l.attemptId).isSome = true) :
    J.Acts { J with leases := t } l.attemptId (·.addLease l) := by
  have hlookup := lookup_insert leases_by_key h
  have hfresh : J.lease l.leaseId = none := insert_fresh leases_by_id h
  refine acts_of_attach (fun hJ => hJ.of_leases ?_ fun i hi => ?_) rfl rfl
    (fun row request hJ => ?_) fun b row request _ hb => ?_
  · exact forall_insert h hJ.lease hatt
  · rw [lookup_insert leases_by_id h]
    split
    · rfl
    · exact hi
  · refine Attempt.ext rfl rfl rfl rfl rfl (funext fun i => ?_) rfl rfl rfl rfl
    simp only [attach, Attempt.addLease, hlookup]
    by_cases hi : l.leaseId = i
    · subst hi
      obtain ⟨hr, hc⟩ := hJ.no_receipt hfresh
      rw [if_pos (show l.key = (l.attemptId, l.leaseId) from rfl), update_self]
      exact congrArg some (congrArg₂ (LeaseEntry.mk l) hr hc)
    · rw [if_neg fun hk => hi (Prod.ext_iff.mp hk).2, update_of_ne (symm hi)]
      rfl
  · refine Attempt.ext rfl rfl rfl rfl rfl (funext fun i => ?_) rfl rfl rfl rfl
    simp only [attach, hlookup]
    rw [if_neg fun hk => hb (Prod.ext_iff.mp hk).1.symm]
    rfl

/-- The lease with this id in another attempt than its own. -/
theorem lookup_lease_ne {i : Uuid} (hl : J.lease i = some l)
    (hb : b ≠ l.attemptId) : J.leases.lookup LeaseRow.key (b, i) = none := by
  refine lookup_eq_none_iff.mpr fun m hm hk => hb ?_
  obtain ⟨h₁, h₂⟩ := Prod.ext_iff.mp hk
  have hid : l.leaseId = i := key_of_lookup hl
  have : m = l := eq_of_key leases_by_id hm (mem_of_lookup hl) (h₂.trans hid.symm)
  exact (this ▸ h₁).symm

/-- `INSERT INTO workflow_node_receipts`. -/
theorem acts_addReceipt {r : ReceiptRow sha256}
    {t : Table (receiptSchema sha256)} (h : J.receipts.insert r = some t)
    (hl : J.lease r.leaseId = some l) (hatt : r.attemptId = l.attemptId) :
    J.Acts { J with receipts := t } r.attemptId (·.addReceipt r) := by
  have hnode := lookup_insert receipts_by_node h
  have hlease := lookup_insert receipts_by_lease h
  refine acts_of_attach (fun hJ => ?_) rfl rfl (fun row request hJ => ?_)
    fun b row request hJ hb => ?_
  · refine { hJ with receipt := forall_insert h hJ.receipt ⟨?_, ?_⟩ }
    · exact (congrArg isSome hl).trans rfl
    · rw [hatt]
      exact hJ.lease l (mem_of_lookup hl)
  · refine Attempt.ext rfl rfl rfl rfl rfl (funext fun i => ?_) (funext fun k => ?_) rfl rfl rfl
    · simp only [attach, Attempt.addReceipt, leaseReceipt, hlease, map_map]
      congr 1
      funext m
      by_cases hi : r.leaseId = i
      · simp [hi]
        rfl
      · simp [hi, Ne.symm hi]
        rfl
    · simp only [attach, Attempt.addReceipt, nodeReceipt, hnode]
      by_cases hk : r.nodeId = k
      · subst hk
        rw [if_pos (show r.node = (r.attemptId, r.nodeId) from rfl), update_self]
      · rw [if_neg fun h => hk (Prod.ext_iff.mp h).2, update_of_ne (symm hk)]
        rfl
  · refine Attempt.ext rfl rfl rfl rfl rfl (funext fun i => ?_) (funext fun k => ?_) rfl rfl rfl
    · simp only [attach, leaseReceipt, hlease]
      by_cases hi : r.leaseId = i
      · subst hi
        simp only [lookup_lease_ne hl (hatt ▸ hb), map_none]
      · simp only [hi]
        rfl
    · simp only [attach, nodeReceipt, hnode]
      rw [if_neg fun h => hb (Prod.ext_iff.mp h).1.symm]

/-- `INSERT INTO workflow_cleanup_receipts`. -/
theorem acts_addCleanup {c : CleanupRow sha256}
    {t : Table (cleanupSchema sha256)} (h : J.cleanups.insert c = some t)
    (hl : J.lease c.leaseId = some l) :
    J.Acts { J with cleanups := t } l.attemptId (·.addCleanup c) := by
  have hlease := lookup_insert cleanups_by_lease h
  refine acts_of_attach (fun hJ => ?_) rfl rfl (fun row request hJ => ?_)
    fun b row request hJ hb => ?_
  · exact { hJ with
      cleanup := forall_insert h hJ.cleanup ((congrArg isSome hl).trans rfl) }
  · refine Attempt.ext rfl rfl rfl rfl rfl (funext fun i => ?_) rfl rfl rfl rfl
    simp only [attach, Attempt.addCleanup, leaseCleanup, hlease, map_map]
    congr 1
    funext m
    by_cases hi : c.leaseId = i
    · simp [hi]
      rfl
    · simp [hi, Ne.symm hi]
      rfl
  · refine Attempt.ext rfl rfl rfl rfl rfl (funext fun i => ?_) rfl rfl rfl rfl
    simp only [attach, leaseCleanup, hlease]
    by_cases hi : c.leaseId = i
    · subst hi
      simp only [lookup_lease_ne hl hb, map_none]
    · simp only [hi]
      rfl

/-- `INSERT INTO workflow_operation_state_bindings`. -/
theorem acts_bind {c : BindingRow} {t : Table bindingSchema} (h : J.bindings.insert c = some t)
    (hatt : (J.attempt c.attemptId).isSome = true) :
    J.Acts { J with bindings := t } c.attemptId (·.bind c) := by
  have hlookup := lookup_insert bindings_by_attempt h
  refine acts_of_attach (fun hJ => ?_) rfl rfl (fun row request _ => ?_) fun b row request _ hb => ?_
  · exact { hJ with binding := forall_insert h hJ.binding hatt }
  · exact Attempt.ext rfl rfl rfl rfl rfl rfl rfl ((hlookup _).trans (if_pos rfl)) rfl rfl
  · exact Attempt.ext rfl rfl rfl rfl rfl rfl rfl ((hlookup _).trans (if_neg (symm hb))) rfl rfl

/-- `INSERT INTO workflow_reductions`. -/
theorem acts_addReduction {r : ReductionRow sha256} {t : Table (reductionSchema sha256)}
    (h : J.reductions.insert r = some t) (hatt : (J.attempt r.attemptId).isSome = true) :
    J.Acts { J with reductions := t } r.attemptId (·.addReduction r) := by
  have hlookup := lookup_insert reductions_by_attempt h
  refine acts_of_attach (fun hJ => ?_) rfl rfl (fun row request _ => ?_) fun b row request _ hb => ?_
  · exact { hJ with reduction := forall_insert h hJ.reduction hatt }
  · exact Attempt.ext rfl rfl rfl rfl rfl rfl rfl rfl ((hlookup _).trans (if_pos rfl)) rfl
  · exact Attempt.ext rfl rfl rfl rfl rfl rfl rfl rfl ((hlookup _).trans (if_neg (symm hb))) rfl

/-- `INSERT INTO workflow_mutation_locks`. -/
theorem acts_addLock {k : LockRow} {t : Table lockSchema} (h : J.locks.insert k = some t)
    (hatt : (J.attempt k.attemptId).isSome = true) :
    J.Acts { J with locks := t } k.attemptId (·.addLock k) := by
  have hlookup := lookup_insert locks_by_attempt h
  refine acts_of_attach (fun hJ => ?_) rfl rfl (fun row request _ => ?_) fun b row request _ hb => ?_
  · exact { hJ with lock := forall_insert h hJ.lock hatt }
  · exact Attempt.ext rfl rfl rfl rfl rfl rfl rfl rfl rfl ((hlookup _).trans (if_pos rfl))
  · exact Attempt.ext rfl rfl rfl rfl rfl rfl rfl rfl rfl ((hlookup _).trans (if_neg (symm hb)))

end Journal

end Rdashboard
