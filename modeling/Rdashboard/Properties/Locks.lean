import Rdashboard.Properties.Leases

/-! # The mutation lock

A project is mutated by one attempt at a time, the one that its lock names, and the attempt
gives the lock back only when it has succeeded.  A claim takes locks for the candidates that it
looks at, and keeps those of the candidates that it then passes over. -/

namespace Rdashboard

open Relational Journal Table Session Option

variable {sha256 : Sha256} {D : Discipline} {J J' : Journal sha256} {a : Uuid} {A A' : Attempt sha256}
variable {k : LockRow} {row : AttemptRow}

/-! ### Mutual exclusion -/

/-- The attempt of this row is mutating the project, or has left it for reconciliation. -/
def Journal.Mutates (J : Journal sha256) (p : ProjectId) (row : AttemptRow) : Prop :=
  row ∈ J.attempts.rows ∧
    (∃ request, J.request row.requestId = some request ∧ request.projectId = p) ∧
    (row.mutationState = .owned ∨ row.mutationState = .needsReconcile)

/-- The lock rows and the attempts that mutate projects correspond, now and later. -/
structure Journal.MutationExclusion (J : Journal sha256) : Prop where
  exclusive : ∀ p, (∃ k ∈ J.locks.rows, k.projectId = p) ↔ ∃! row, J.Mutates p row
  owner : ∀ k ∈ J.locks.rows, ∃ row, J.Mutates k.projectId row ∧ row.attemptId = k.attemptId ∧
    row.mutationState.lockState = some k.state
  leases : ∀ l ∈ J.leases.rows, l.state = .active → ∀ row request, J.attempt l.attemptId = some row →
    J.request row.requestId = some request →
    exclusiveDelivery request.operationKind request.manifestJson.1 l.leaseJson.1.nodeKind = true →
    ∃ k ∈ J.locks.rows, k.projectId = request.projectId ∧ k.attemptId = l.attemptId
  released : ∀ op, ∀ k ∈ J.locks.rows,
    (∃ k' ∈ (J.step op).locks.rows, k'.projectId = k.projectId ∧ k'.attemptId = k.attemptId) ∨
    ∃ row, (J.step op).attempt k.attemptId = some row ∧ row.state = .succeeded
  kept : ∀ J', J.LeadsTo J' → ∀ k ∈ J.locks.rows, ∀ row, J'.attempt k.attemptId = some row →
    row.state ≠ .superseded ∧ row.state ≠ .failed

theorem lockState_isSome_iff {m : WorkflowMutationStateV1} :
    m.lockState.isSome = true ↔ m = .owned ∨ m = .needsReconcile := by
  cases m <;> simp [WorkflowMutationStateV1.lockState]

theorem view_of_lock (hJ : J.Lawful D) (hk : k ∈ J.locks.rows) :
    ∃ A, J.view k.attemptId = some A ∧ A.lock = some k ∧ k.projectId = A.request.projectId ∧
      A.row.mutationState.lockState = some k.state := by
  obtain ⟨A, hA, hAk⟩ := lock_of_projectLock hJ.sound (lookup_of_mem locks_by_project hk)
  have hstanding := (hJ.attempts _ A hA).standing
  exact ⟨A, hA, hAk, (hstanding.owner k hAk).1, by rw [← hstanding.lock, hAk, map_some]⟩

theorem mutates_of_lock (hJ : J.Lawful D) (hk : k ∈ J.locks.rows) :
    ∃ row, J.Mutates k.projectId row ∧ row.attemptId = k.attemptId ∧
      row.mutationState.lockState = some k.state := by
  obtain ⟨A, hA, hAk, hproject, hstate⟩ := view_of_lock hJ hk
  exact ⟨A.row, ⟨mem_of_lookup (attempt_of_view hA), ⟨A.request, request_of_view hA, hproject.symm⟩,
    lockState_isSome_iff.mp (by rw [hstate]; rfl)⟩, attemptId_of_view hA, hstate⟩

theorem lock_of_mutates (hJ : J.Lawful D) {p : ProjectId} (h : J.Mutates p row) :
    ∃ k ∈ J.locks.rows, k.projectId = p ∧ k.attemptId = row.attemptId := by
  obtain ⟨hmem, ⟨request, hrequest, rfl⟩, hstate⟩ := h
  obtain ⟨A, hA, rfl⟩ := hJ.sound.view_of_attempt (lookup_of_mem attempts_by_id hmem)
  cases (request_of_view hA).symm.trans hrequest
  have hstanding := (hJ.attempts _ A hA).standing
  have hsome := lockState_isSome_iff.mpr hstate
  rw [← hstanding.lock, isSome_map] at hsome
  obtain ⟨k, hk⟩ := isSome_iff_exists.mp hsome
  exact ⟨k, mem_of_lookup (projectLock_of_lock hA hk), (hstanding.owner k hk).1,
    (hstanding.owner k hk).2⟩

theorem mutates_unique (hJ : J.Lawful D) {p : ProjectId} {row' : AttemptRow}
    (h : J.Mutates p row) (h' : J.Mutates p row') : row = row' := by
  obtain ⟨k, hk, rfl, hatt⟩ := lock_of_mutates hJ h
  obtain ⟨k', hk', hproject, hatt'⟩ := lock_of_mutates hJ h'
  have hl := lookup_of_mem locks_by_project hk
  have hl' := lookup_of_mem locks_by_project hk'
  simp only [hproject, hl, some.injEq] at hl'
  have hrow := lookup_of_mem attempts_by_id h.1
  have hrow' := lookup_of_mem attempts_by_id h'.1
  rw [← hatt', ← hl', hatt] at hrow'
  exact some.inj (hrow.symm.trans hrow')

theorem lock_of_exclusive_lease (hJ : J.Lawful D) {l : LeaseRow sha256} (hl : l ∈ J.leases.rows)
    (hs : l.state = .active) {request : RequestRow}
    (hrow : J.attempt l.attemptId = some row) (hrequest : J.request row.requestId = some request)
    (hex : exclusiveDelivery request.operationKind request.manifestJson.1 l.leaseJson.1.nodeKind = true) :
    ∃ k ∈ J.locks.rows, k.projectId = request.projectId ∧ k.attemptId = l.attemptId := by
  obtain ⟨A, e, hA, he, rfl⟩ := hJ.sound.view_of_lease hl
  cases (attempt_of_view hA).symm.trans hrow
  cases (request_of_view hA).symm.trans hrequest
  have hlaw := hJ.attempts _ A hA
  obtain ⟨n, hn, -, hkind, -⟩ := hlaw.active_node ⟨he, hs⟩
  have howned := hlaw.owned_of_active ⟨he, hs⟩ hn (by rw [hkind]; exact hex)
  rw [← attemptId_of_view hA]
  exact lock_of_mutates hJ ⟨mem_of_lookup (attempt_of_view hA), ⟨A.request, hrequest, rfl⟩,
    .inl howned⟩

/-- Locks exclude each other, and are given back by success only. -/
theorem mutation_locks_exclude (h : Reachable J) : J.MutationExclusion := by
  obtain ⟨hJ, -⟩ := h.invariant
  refine ⟨fun p => ⟨?_, ?_⟩, fun k hk => mutates_of_lock hJ hk,
    fun l hl hs row request hrow hrequest hex => lock_of_exclusive_lease hJ hl hs hrow hrequest hex,
    fun op k hk => ?_, fun J' hrun k hk row hrow => ?_⟩
  · rintro ⟨k, hk, rfl⟩
    obtain ⟨row, hrow, -⟩ := mutates_of_lock hJ hk
    exact ⟨row, hrow, fun row' hrow' => mutates_unique hJ hrow' hrow⟩
  · rintro ⟨row, hrow, -⟩
    obtain ⟨k, hk, hproject, -⟩ := lock_of_mutates hJ hrow
    exact ⟨k, hk, hproject⟩
  · obtain ⟨A, hA, hAk, hproject, -⟩ := view_of_lock hJ hk
    obtain ⟨hreach, hproceeds⟩ := h.later (.step J op)
    obtain ⟨A', hA', hsteps⟩ := hproceeds.evolves.kept _ A hA
    have hlaw' := hproceeds.lawful.attempts _ A' hA'
    rcases Attempt.lock_of_steps (hJ.attempts _ A hA) (by rw [hAk]; rfl) hsteps with hlock | hdone
    · obtain ⟨k', hk'⟩ := isSome_iff_exists.mp hlock
      have howner := hlaw'.standing.owner k' hk'
      refine .inl ⟨k', mem_of_lookup (projectLock_of_lock hA' hk'), ?_, ?_⟩
      · rw [howner.1, hproject]
        exact (hJ.attempts _ A hA).along (I := (·.request.projectId = _)) rfl
          (fun _ _ hB hBC ih => (hB.moves hBC).projectId_eq.trans ih) hsteps
      · rw [howner.2, attemptId_of_view hA']
    · exact .inr ⟨A'.row, attempt_of_view hA', hdone⟩
  · obtain ⟨A, hA, hAk, -, hstate⟩ := view_of_lock hJ hk
    have hproceeds := (h.later hrun).2
    obtain ⟨A', hA', hsteps⟩ := hproceeds.evolves.kept _ A hA
    cases (attempt_of_view hA').symm.trans hrow
    refine (hproceeds.lawful.attempts _ A' hA').standing.not_given_up
      ((hJ.attempts _ A hA).along (fun hns => ?_) (fun _ _ _ hBC => hBC.started) hsteps)
    rw [hns] at hstate
    cases hstate

theorem Sample.cuttingOver_locked : (∃ k ∈ cuttingOver.locks.rows, k.state = .held) ∧
    cuttingOver.MutationExclusion :=
  ⟨by decide +kernel, mutation_locks_exclude cuttingOver_reachable⟩

/-! ### Claims -/

/-- The claim returns a lease over an exclusive delivery of the attempt. -/
def Journal.Delivers (J : Journal sha256) (o : Option (ValidLease sha256)) (attemptId : Uuid) : Prop :=
  ∃ lease row request, o = some lease ∧ lease.1.attemptId = attemptId ∧
    J.attempt attemptId = some row ∧ J.request row.requestId = some request ∧
    exclusiveDelivery request.operationKind request.manifestJson.1 lease.1.nodeKind = true

/-- Mutation states and locks are the same in both journals, but for the attempt that a lease
over an exclusive delivery is returned for. -/
structure Journal.OwnsByLease (J J' : Journal sha256) (o : Option (ValidLease sha256)) : Prop where
  attempts : ∀ a row row', J.attempt a = some row → J'.attempt a = some row' →
    row'.mutationState = row.mutationState ∨ J.Delivers o a
  locks : ∀ k, (k ∈ J'.locks.rows ↔ k ∈ J.locks.rows) ∨ J.Delivers o k.attemptId

theorem mem_locks_iff (hJ : J.Sound) :
    k ∈ J.locks.rows ↔ ∃ A, J.view k.attemptId = some A ∧ A.lock = some k := by
  constructor
  · exact fun hk => lock_of_projectLock hJ (lookup_of_mem locks_by_project hk)
  · rintro ⟨A, hA, hk⟩
    exact mem_of_lookup (projectLock_of_lock hA hk)

section Claimed

variable {worker : WorkflowWorkerRegistrationV1} {cs : List ReadyCandidate}
  {o : Option (ValidLease sha256)}

theorem Journal.Claimed.ownsByLease (h : J.Claimed J' worker cs o) (hJ : J.Sound) (hJ' : J'.Sound)
    (hseized : J.seized worker cs = []) : J.OwnsByLease J' o := by
  have hdelivers : ∀ b B, J.view b = some B → ∃ B', J'.view b = some B' ∧
      ((B'.row.mutationState = B.row.mutationState ∧ B'.lock = B.lock) ∨ J.Delivers o b) := by
    intro b B hB
    obtain ⟨B', hB', hsame | ⟨c, hc, -⟩ | ⟨lease, ho, hatt, hex⟩⟩ := h.changed b B hB
    · exact ⟨B', hB', .inl hsame⟩
    · rw [hseized] at hc
      cases hc
    · exact ⟨B', hB', .inr ⟨lease, B.row, B.request, ho, hatt, attempt_of_view hB,
        request_of_view hB, hex⟩⟩
  refine ⟨fun b row row' hrow hrow' => ?_, fun k => ?_⟩
  · obtain ⟨B, hB, rfl⟩ := hJ.view_of_attempt hrow
    obtain ⟨B', hB', hcase⟩ := hdelivers b B hB
    cases (attempt_of_view hB').symm.trans hrow'
    exact hcase.imp_left And.left
  · cases hB : J.view k.attemptId with
    | none =>
      rw [mem_locks_iff hJ, mem_locks_iff hJ', hB, h.domain _ hB]
      simp
    | some B =>
      obtain ⟨B', hB', hcase⟩ := hdelivers _ B hB
      refine hcase.imp_left fun hsame => ?_
      rw [mem_locks_iff hJ, mem_locks_iff hJ', hB, hB']
      simp [hsame.2]

/-- A candidate that was passed over with its lock taken has no lease. -/
theorem Journal.Claimed.not_ownsByLease (h : J.Claimed J' worker cs o) (hcs : J.Offers worker cs)
    {c : ReadyCandidate} (hc : c ∈ J.seized worker cs) : ¬ J.OwnsByLease J' o := by
  intro howns
  obtain ⟨B, B', hB, hB', hns, howned, hother⟩ := h.seized c hc
  have hmem : c ∈ cs := (List.takeWhile_sublist _).subset (List.mem_filter.mp hc).1
  rcases howns.attempts _ _ _ (attempt_of_view hB) (attempt_of_view hB') with
    hsame | ⟨lease, -, -, ho, hatt, -⟩
  · rw [hns, howned] at hsame
    cases hsame
  · obtain ⟨d, hd, hdatt, hproject⟩ := h.lease lease ho
    obtain ⟨C, hC, hCp⟩ := hcs d hd
    obtain ⟨E, hE, hEp⟩ := hcs c hmem
    rw [← hdatt, hatt, hE] at hC
    cases hC
    exact hother lease ho (hproject.trans (hCp.projectId.trans hEp.projectId.symm))

end Claimed

/-- A claim that succeeds takes ownership by leases only, exactly if the worker has cleanups to
settle first or the claim passes over no candidate whose lock it has just taken; a claim that
fails changes nothing.  Both are read off the journal after expiry. -/
theorem claim_owns_by_lease_iff (h : Reachable J) (worker : WorkflowWorkerRegistrationV1)
    (t duration : Int) (leaseId : FreshUuid) :
    (∀ e J', claimNext worker t duration leaseId J = (.error e, J') → J' = J) ∧
    ∀ o J', claimNext worker t duration leaseId J = (.ok o, J') →
      ((J.step (.expireLeases t)).OwnsByLease J' o ↔
        (J.step (.expireLeases t)).workerHasPendingCleanup worker = true ∨
        ∀ cs, (J.step (.expireLeases t)).loadReadyCandidates worker = .ok cs →
          (J.step (.expireLeases t)).seized worker
            (fairCandidateOrder cs (J.step (.expireLeases t)).cursor) = []) := by
  obtain ⟨hJ, hatt⟩ := h.invariant
  refine ⟨fun e J' hcall => ?_, fun o J' hcall => ?_⟩
  · exact atomic_lift (fun _ => atomic_ensure (atomic_transaction _)) J e J' hcall
  · simp only [claimNext, Txn.ok_iff, bind_ok_iff, lift_ok_iff, ensure_ok_iff,
      immediateTransaction_ok_iff, Txn.ite_ok_iff] at hcall
    obtain ⟨_, -, _, ht, n, J₁, hexpire, _, rfl, hcall⟩ := hcall
    have hstep : J.step (.expireLeases t) = J₁ := by
      rw [step, final, expireLeases_ok_iff.mpr ⟨ht.1, hexpire⟩]
    rw [hstep]
    have p₁ := expireLeasesTransaction_proceeds hJ hexpire
    rcases hcall with ⟨hpending, rfl, rfl⟩ | ⟨hpending, hclaim⟩
    · refine ⟨fun _ => .inl hpending, fun _ => ⟨fun b row row' hrow hrow' => ?_, fun k => .inl .rfl⟩⟩
      rw [hrow] at hrow'
      cases hrow'
      exact .inl rfl
    · obtain ⟨cs, hcs, p₂, hclaimed⟩ := claimNextTransaction_ok p₁.lawful trivial (p₁.attended hatt)
        (fun h => h.elim) hclaim
      refine ⟨fun howns => .inr fun cs' hcs' => ?_, fun hcond => ?_⟩
      · obtain rfl : cs = cs' := Except.ok.inj (hcs.symm.trans hcs')
        refine List.eq_nil_iff_forall_not_mem.mpr fun c hc => ?_
        refine hclaimed.not_ownsByLease (fun d hd => ?_) hc howns
        exact (loadReadyCandidates_ok p₁.lawful.sound hcs).1 d
          ((fairCandidateOrder_perm cs J₁.cursor).mem_iff.mp hd)
      · exact hclaimed.ownsByLease p₁.lawful.sound p₂.lawful.sound
          ((hcond.resolve_left hpending) cs hcs)

namespace Sample

def nativeProfile := profileOf nodeD nodeD_profile .workerNativeReleaseBuildV1 .vpsRequired .offline .preparedRun

/-- A project that hands its own update over: its release build is an exclusive delivery, on the
operation state of the verification. -/
def handoffManifest : ProjectManifestV2 :=
  { manifestOf ⟨1, 1, .selfUpdateHandoff,
      [sourceProfile, prepareProfile, verifyProfile, nativeProfile, reduceProfile],
      [nodeOf nodeA .sourceAdmission sourceProfile [] [],
        nodeOf nodeB .hostPrepare prepareProfile [nodeA] [.sourceSnapshot],
        nodeOf nodeC .verification verifyProfile [nodeB] [.preparedRun],
        nodeOf nodeD .releaseBuild nativeProfile [nodeB, nodeC] [.preparedRun, .verificationReceipt],
        nodeOf nodeE .deterministicReduce reduceProfile [nodeC, nodeD]
          [.verificationReceipt, .releaseBuildResult]]⟩ with
    projectId := ⟨"rdashboard", by decide +kernel⟩
    build := ⟨.repositoryRoot, .native, none, none⟩ }

def builder : WorkflowWorkerRegistrationV1 := ⟨"w", "h", [.buildCompute, .vpsRequired]⟩
def otherVps : WorkflowWorkerRegistrationV1 := ⟨"z", "i", [.vpsRequired]⟩

/-- A handoff whose release build waits for the worker that verified it. -/
def handingOff : Journal digest := Journal.empty.script
  [fun _ => .admitWorkflow handoffManifest (admission handoffManifest sourceSha 1 "d") 0 uuid1 uuid2,
    fun _ => .claimNext vps 0 1000 uuid3,
    Journal.report 3 .succeeded .complete 10,
    fun _ => .claimNext builder 20 10000 uuid4,
    Journal.report 4 .succeeded .complete 50]

theorem handingOff_reachable : Reachable handingOff := Reachable.script .init _

/-- Another worker claims nothing, and leaves the project locked all the same. -/
theorem handingOff_locked : Reachable handingOff ∧
    (claimNext otherVps 60 10000 uuid9 handingOff).1 = .ok none ∧
    handingOff.locks.rows = [] ∧
    (handingOff.step (.expireLeases 60)).attempts.rows.map (·.mutationState) = [.notStarted] ∧
    (handingOff.step (.claimNext otherVps 60 10000 uuid9)).attempts.rows.map (·.mutationState) =
      [.owned] ∧
    (handingOff.step (.claimNext otherVps 60 10000 uuid9)).locks.rows.map (·.attemptId) = [2] := by
  refine ⟨handingOff_reachable, ?_⟩
  decide +kernel

theorem seized_of_all {worker : WorkflowWorkerRegistrationV1}
    (h : ((J.loadReadyCandidates worker).toOption.all
      fun cs => (J.seized worker (fairCandidateOrder cs J.cursor)).isEmpty) = true) :
    ∀ cs, J.loadReadyCandidates worker = .ok cs →
      J.seized worker (fairCandidateOrder cs J.cursor) = [] := by
  intro cs hcs
  rw [hcs] at h
  exact List.isEmpty_iff.mp h

theorem granted_of_isSome {x : Except StoreError (Option (ValidLease sha256)) × Journal sha256}
    (h : x.1.toOption.join.isSome = true) : ∃ lease J', x = (.ok (some lease), J') := by
  rcases x with ⟨_ | _ | lease, J'⟩
  · cases h
  · cases h
  · exact ⟨lease, J', rfl⟩

/-- The worker that verified it gets the lease with the lock. -/
theorem handingOff_owned :
    ∃ lease J', claimNext builder 60 10000 uuid9 handingOff = (.ok (some lease), J') ∧
    (handingOff.step (.expireLeases 60)).OwnsByLease J' (some lease) := by
  obtain ⟨lease, J', h⟩ := granted_of_isSome
    (x := claimNext builder 60 10000 uuid9 handingOff) (by decide +kernel)
  exact ⟨lease, J', h, ((claim_owns_by_lease_iff handingOff_reachable builder 60 10000 uuid9).2
    (some lease) J' h).mpr (.inr (seized_of_all (by decide +kernel)))⟩

end Sample

end Rdashboard
