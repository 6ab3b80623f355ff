import Rdashboard.Properties.NativeRecovery

/-! # Replaced runtime policies

The runtime policy of a project may be replaced between any two calls of the activator.  A journal
is bound to the policy it was written under, and the releases it names are validated under the policy
in force, so a replacement can block every later call.

`PolicyHistory` are the histories of a project: calls that run to their end or are killed, and
replacements.  It takes the condition of a replacement and that of a call as parameters.

* `NativeState.Governed` is what holds in a history whose policy is replaced only while there is no
  journal and whose calls are careful (`NativeCall.Careful`): the journal is one of the installed
  policy, and a candidate in service is not being given up.
* `policy_replacement_never_blocks`: no call of such a history is blocked.
* `replaced_policy_blocks`: a history that replaces the policy under a release of the old one ends
  with a journal that no call ever finishes. -/

namespace Rdashboard

open Interleaving NativeState NativeReleaseActivator Prog

variable {W G : Type}

/-- The calls of a project, each killed at any point or not, and the replacements of its policy, as
far as `install` and `allowed` permit them: the time of the last call, the policy and the state.  A
call that has only asked the store is permitted anyway. -/
inductive PolicyHistory (registry : ReleaseStore G) (runtime : NativeReleaseRuntime W)
    (install : NativeState W G → Prop)
    (allowed : ManagedNativeRuntimePolicy → NativeCall → NativeState W G → Prop) :
    Int → ManagedNativeRuntimePolicy → NativeState W G → Prop where
  | idle (policy : ManagedNativeRuntimePolicy) {s : NativeState W G} : s.Idle →
      PolicyHistory registry runtime install allowed 0 policy s
  | replaced {now : Int} {policy : ManagedNativeRuntimePolicy} {s : NativeState W G}
      (policy' : ManagedNativeRuntimePolicy) :
      PolicyHistory registry runtime install allowed now policy s →
      policy'.projectId = policy.projectId → install s →
      PolicyHistory registry runtime install allowed now policy' s
  | asked {now : Int} {policy : ManagedNativeRuntimePolicy} {s s' : NativeState W G}
      (i : NativeCall) : PolicyHistory registry runtime install allowed now policy s →
      (call ⟨registry, policy, runtime⟩ i).Passes s s' → s.Asks s' →
      PolicyHistory registry runtime install allowed now policy s'
  | called {now : Int} {policy : ManagedNativeRuntimePolicy} {s s' : NativeState W G}
      (i : NativeCall) : PolicyHistory registry runtime install allowed now policy s →
      now ≤ i.nowMs → allowed policy i s → (call ⟨registry, policy, runtime⟩ i).Passes s s' →
      PolicyHistory registry runtime install allowed i.nowMs policy s'

/-- A candidate that is in service before its activation is over answers the next health check. -/
def NativeReleaseRuntime.Confirms (runtime : NativeReleaseRuntime W)
    (policy : ManagedNativeRuntimePolicy) (s : NativeState W G) : Prop :=
  ∀ j, s.journal = some j → s.current ≠ j.previous →
    (runtime.healthy policy s.link s.runtime).1 = .ok true

/-- An activation begins over a release of the installed policy, and no call finds a candidate in
service unhealthy. -/
structure NativeCall.Careful (registry : ReleaseStore G) (runtime : NativeReleaseRuntime W)
    (policy : ManagedNativeRuntimePolicy) (i : NativeCall) (s : NativeState W G) : Prop where
  begins : ∀ candidate nowMs, i = .activate candidate nowMs → s.journal = none →
    registry.Serves policy candidate s.current
  confirms : runtime.Confirms policy s

/-! ### What the installed policy governs -/

section

variable {registry : ReleaseStore G} {runtime : NativeReleaseRuntime W} {now nowMs : Int}
  {policy : ManagedNativeRuntimePolicy} {s s' : NativeState W G} {j : NativeReleaseJournal}
  {candidate : EvidenceDigest}

theorem NativeStep.journal {may : EvidenceDigest → NativeState W G → Prop} {yields : Prop}
    (h : NativeStep policy nowMs may yields s s') (hj : s'.journal = some j) :
    (∃ j₀, s.journal = some j₀ ∧ j.activation = j₀.activation ∧ (j = j₀ ∨ j.updatedAtMs = nowMs)) ∨
      may j.candidate s ∧ s.current = j.previous ∧ j.updatedAtMs = nowMs := by
  cases h with
  | opened _ hmay _ _ _ htime _ hcurrent =>
    cases hj
    exact .inr ⟨hmay, hcurrent, htime⟩
  | advanced j₀ _ hj₀ =>
    cases hj
    exact .inl ⟨j₀, hj₀, rfl, .inr rfl⟩
  | closed => cases hj
  | _ => exact .inl ⟨j, hj, rfl, .inl rfl⟩

/-- The candidate of the journal is not in service, or it is and has not been given up. -/
def NativeState.Holds (j : NativeReleaseJournal) (s : NativeState W G) : Prop :=
  s.current = j.previous ∨ s.current = some j.candidate ∧ j.phase = .candidateRestarted

/-- A call that gives up no candidate in service begins no rollback of one. -/
theorem NativeStep.holds {may : EvidenceDigest → NativeState W G → Prop}
    (h : NativeStep policy nowMs may False s s') (hs : ∀ j, s.journal = some j → s.Holds j)
    (hj : s'.journal = some j) : s'.Holds j := by
  cases h with
  | begun _ _ hnone => cases hnone.symm.trans hj
  | opened _ _ _ _ _ _ _ hcurrent =>
    cases hj
    exact .inl hcurrent
  | advanced j₀ phase hj₀ hadvances =>
    cases hj
    rcases hs j₀ hj₀ with hcurrent | ⟨-, hphase⟩
    · exact .inl hcurrent
    · cases hadvances with
      | rollbackSwitchPending _ _ hgives => exact .inl (hgives.resolve_right id)
      | firstRejectionPending _ _ hgives => exact .inl (hgives.resolve_right id)
      | _ h => cases hphase.symm.trans h
  | promoted j₀ hj₀ hphase =>
    cases hj₀.symm.trans hj
    exact .inr ⟨rfl, hphase⟩
  | closed => cases hj
  | _ => exact hs j hj

/-- The journal is one of the installed policy, and so are the releases that it names; its candidate
has not been given up after it came into service. -/
structure NativeState.Governed (registry : ReleaseStore G) (policy : ManagedNativeRuntimePolicy)
    (now : Int) (s : NativeState W G) : Prop where
  consistent : s.Consistent policy
  journal : ∀ j, s.journal = some j →
    j.updatedAtMs ≤ now ∧ registry.Serves policy j.candidate j.previous
  holds : ∀ j, s.journal = some j → s.Holds j

theorem NativeState.Governed.of_idle (hj : s.journal = none) (hlink : s.link = s.current) :
    s.Governed registry policy now :=
  have hnone : ∀ j, s.journal ≠ some j := fun j h => by cases hj.symm.trans h
  ⟨.of_idle hj hlink, fun j h => (hnone j h).elim, fun j h => (hnone j h).elim⟩

/-- What the steps of a careful call keep. -/
theorem NativeState.Governed.step
    (hstep : NativeStep policy nowMs (fun c s => registry.Serves policy c s.current) False s s')
    (h : s.Governed registry policy nowMs) : s'.Governed registry policy nowMs := by
  refine ⟨hstep.consistent h.consistent, fun j hj => ?_, fun j hj => hstep.holds h.holds hj⟩
  rcases hstep.journal hj with ⟨j₀, hj₀, hactivation, htime⟩ | ⟨hserves, hcurrent, htime⟩
  · obtain ⟨hclock, hserves⟩ := h.journal j₀ hj₀
    unfold NativeReleaseJournal.candidate NativeReleaseJournal.previous
    rw [hactivation]
    refine ⟨?_, hserves⟩
    rcases htime with rfl | htime
    exacts [hclock, htime.le]
  · rw [← hcurrent]
    exact ⟨htime.le, hserves⟩

theorem NativeState.Governed.called {activator : NativeReleaseActivator W G} {i : NativeCall}
    (h : s.Governed activator.registry activator.policy i.nowMs)
    (hcareful : i.Careful activator.registry activator.runtime activator.policy s)
    (hp : (activator.call i).Passes s s') :
    s'.Governed activator.registry activator.policy i.nowMs := by
  have hyields (j) (hj : s.journal = some j) : activator.Yields False j s := by
    by_cases hcurrent : s.current = j.previous
    · exact .inl (.inl hcurrent)
    · obtain ⟨-, hphase⟩ := (h.holds j hj).resolve_left hcurrent
      exact .inr ⟨hphase, hcareful.confirms j hj hcurrent⟩
  have hthrough : (activator.call i).Through (NativeStep activator.policy i.nowMs
      (fun c s => activator.registry.Serves activator.policy c s.current) False)
      (fun _ _ => True) s := by
    cases i with
    | activate candidate nowMs =>
      exact .bind (activate_through h.consistent (fun _ hnone _ _ =>
        hcareful.begins candidate nowMs rfl hnone) hyields) fun _ _ _ => .pure trivial
    | recover nowMs => exact (recover_through h.consistent hyields).mono fun _ _ _ => trivial
  exact hthrough.passes (fun _ _ h hstep => h.step hstep) h hp

theorem PolicyHistory.governed (h : PolicyHistory registry runtime (·.journal = none)
      (NativeCall.Careful registry runtime) now policy s) : s.Governed registry policy now := by
  induction h with
  | idle policy hs => exact .of_idle hs.journal hs.link
  | replaced policy' _ _ hnone ih => exact .of_idle hnone (ih.consistent.idle hnone)
  | asked _ _ _ hasks ih =>
    obtain ⟨g, rfl⟩ := hasks
    exact ⟨ih.consistent.asked g, ih.journal, ih.holds⟩
  | @called _ policy _ _ i _ hle hcareful hp ih =>
    have hgoverned : NativeState.Governed registry policy i.nowMs _ := ⟨ih.consistent,
      fun j hj => ⟨(ih.journal j hj).1.trans hle, (ih.journal j hj).2⟩, ih.holds⟩
    exact @NativeState.Governed.called _ _ _ _ ⟨registry, policy, runtime⟩ i hgoverned hcareful hp

/-! ### The calls -/

section Calls

variable {activator : NativeReleaseActivator W G}

/-- A call about the unfinished activation returns its outcome. -/
theorem NativeState.Governed.ends {i : NativeCall}
    (h : s.Governed activator.registry activator.policy now) (hj : s.journal = some j)
    (hi : i.About j.candidate) (hle : now ≤ i.nowMs)
    (hruntime : activator.runtime.Steady activator.policy j.candidate j.previous)
    (hconfirms : activator.runtime.Confirms activator.policy s) :
    ∃ outcome s', (activator.call i).run s = (.ok (some outcome), s') := by
  obtain ⟨hclock, hserves⟩ := h.journal j hj
  have hunfinished : s.Unfinished activator.policy i.nowMs j.activation j :=
    ⟨h.consistent, hj, rfl, hclock.trans hle⟩
  obtain ⟨g, hunfinished', hrun⟩ := call_resumes hserves hunfinished hi
  have hreturns : (activator.resume j i.nowMs).Returns (fun _ _ => True) { s with store := g } := by
    by_cases hcurrent : s.current = j.previous
    · exact (resume_returns hserves hruntime hunfinished' hcurrent).mono fun _ _ _ => trivial
    · obtain ⟨hcandidate, hphase⟩ := (h.holds j hj).resolve_left hcurrent
      rw [resume_eq_judge (by simp [hphase]) (by simp [hphase])]
      exact (judgeCandidate_healthy hserves hruntime.toReverts hunfinished' hphase
        (hconfirms j hj hcurrent) (.inl hcandidate)).mono fun _ _ _ => trivial
  obtain ⟨outcome, s', hresume, -⟩ := hreturns
  refine ⟨outcome, s', ?_⟩
  rw [hrun, hresume]
  rfl

theorem openJournal_busy (hs : s.Consistent activator.policy) (hj : s.journal = some j)
    (hne : j.candidate ≠ candidate) :
    (activator.openJournal candidate nowMs).run s = (.error .activationInProgress, s) := by
  rw [openJournal, run_read_bind, hj]
  have hvalid : (lift (j.validate activator.policy) : NativeProg W G Unit).run s = (.ok (), s) :=
    run_lift_ok_iff.mpr ⟨NativeReleaseJournal.validate_ok (hs.valid j hj), rfl⟩
  exact (run_bind_of_ok hvalid).trans (run_ensure_bind_error hne)

theorem openJournal_refused {e : TitaniumRegistryError} (hj : s.journal = none)
    (h : (TitaniumRegistry.beginReleaseActivation activator.registry activator.policy.projectId
      candidate).run s = (.error e, s')) :
    (activator.openJournal candidate nowMs).run s = (.error (.titanium e), s') := by
  rw [openJournal, run_read_bind, hj]
  refine run_bind_of_error ?_
  rw [run_mapError, h]
  rfl

variable (hserves : activator.registry.Serves activator.policy candidate s.current)

include hserves

/-- The registry refuses an activation without changing its roots. -/
theorem beginReleaseActivation_refused
    (h : ¬ ((activator.registry.candidateRootArtifact candidate s.store).1 = .ok () ∧
      (s.recovery = none ∨ s.recovery = some candidate))) :
    ∃ e g, (TitaniumRegistry.beginReleaseActivation activator.registry activator.policy.projectId
      candidate).run s = (.error e, { s with store := g }) := by
  unfold TitaniumRegistry.beginReleaseActivation
  cases hroot : (activator.registry.candidateRootArtifact candidate s.store).1 with
  | error e => exact ⟨e, _, run_bind_of_error (Prod.ext hroot rfl)⟩
  | ok u =>
    obtain ⟨_, _, hask, -, g, rfl⟩ := askStore_returns hroot
    obtain ⟨descriptor, hread, rfl⟩ := hserves.descriptor candidate g (.inl rfl)
    obtain ⟨_, _, hread, rfl, g', rfl⟩ := askStore_returns (s := { s with store := g }) hread
    refine ⟨.releaseActivationConflict, g', ?_⟩
    rw [run_bind_of_ok hask, run_bind_of_ok hread, run_ensure_bind rfl, run_read_bind]
    exact run_ensure_bind_error fun hrecovery => h ⟨hroot, hrecovery⟩

/-- An activation without a journal returns an outcome or leaves no journal. -/
theorem activate_ends (hj : s.journal = none) (hlink : s.link = s.current)
    (hruntime : activator.runtime.Steady activator.policy candidate s.current) (hnow : 0 ≤ nowMs) :
    ∃ r s', (activator.activate candidate nowMs).run s = (r, s') ∧
      ((∃ outcome, r = .ok outcome) ∨ s'.journal = none) := by
  by_cases hstart : activator.Rooted candidate s.store ∧
      (s.recovery = none ∨ s.recovery = some candidate)
  · obtain ⟨j, s', hopen, -, hj', hcurrent, -⟩ :=
      activate_opens hserves ⟨hj, hlink, hstart.2⟩ hstart.1 hnow
    obtain ⟨outcome, s'', hresume, -⟩ := resume_returns hserves hruntime hj' hcurrent
    exact ⟨_, _, hopen.trans hresume, .inl ⟨outcome, rfl⟩⟩
  · obtain ⟨e, g, hbegin⟩ := beginReleaseActivation_refused (s := { s with
      store := (activator.registry.readDescriptor candidate s.store).2 }) hserves hstart
    exact ⟨_, _, (activate_run hserves hnow).trans
      (run_bind_of_error (openJournal_refused hj hbegin)), .inr hj⟩

omit hserves in
theorem NativeState.Governed.activates (h : s.Governed activator.registry activator.policy now)
    (hle : now ≤ nowMs) (hnow : 0 ≤ nowMs)
    (hserves : activator.registry.Serves activator.policy candidate s.previousRelease)
    (hruntime : activator.runtime.Steady activator.policy candidate s.previousRelease)
    (hconfirms : activator.runtime.Confirms activator.policy s) :
    ∃ r s', (activator.activate candidate nowMs).run s = (r, s') ∧
      ((∃ outcome, r = .ok outcome) ∨ s'.journal = none ∨
        ∃ j, s.journal = some j ∧ j.candidate ≠ candidate ∧ s'.journal = some j) := by
  unfold previousRelease at hserves hruntime
  cases hj : s.journal with
  | none =>
    rw [hj] at hserves hruntime
    obtain ⟨r, s', hrun, hend⟩ := activate_ends hserves hj (h.consistent.idle hj) hruntime hnow
    exact ⟨r, s', hrun, hend.imp_right .inl⟩
  | some j =>
    rw [hj] at hserves hruntime
    by_cases hcandidate : j.candidate = candidate
    · subst hcandidate
      obtain ⟨outcome, s', hrun⟩ := h.ends (i := .activate j.candidate nowMs) hj rfl hle
        hruntime hconfirms
      obtain ⟨o, s₁, hactivate, -⟩ := run_bind_ok_iff.mp hrun
      exact ⟨_, _, hactivate, .inl ⟨o, rfl⟩⟩
    · exact ⟨_, _, (activate_run hserves hnow).trans (run_bind_of_error
        (openJournal_busy (h.consistent.asked _) hj hcandidate)),
        .inr (.inr ⟨j, rfl, hcandidate, hj⟩)⟩

end Calls

/-- As long as the policy is replaced only while there is no journal and the calls are careful, the
next activation is possible: it returns an outcome, leaves no journal, or is refused because of an
unfinished one, and `recover` ends an unfinished activation, unless the next call finds the candidate
in service unhealthy. -/
theorem policy_replacement_never_blocks (registry : ReleaseStore G)
    (runtime : NativeReleaseRuntime W) (h : PolicyHistory registry runtime (·.journal = none)
      (NativeCall.Careful registry runtime) now policy s)
    (hle : now ≤ nowMs) (hnow : 0 ≤ nowMs) (hconfirms : runtime.Confirms policy s) :
    (∀ candidate, registry.Serves policy candidate s.previousRelease →
      runtime.Steady policy candidate s.previousRelease →
      ∃ r s', (activate ⟨registry, policy, runtime⟩ candidate nowMs).run s = (r, s') ∧
        ((∃ outcome, r = .ok outcome) ∨ s'.journal = none ∨
          ∃ j, s.journal = some j ∧ j.candidate ≠ candidate ∧ s'.journal = some j)) ∧
    ∀ j, s.journal = some j → runtime.Steady policy j.candidate j.previous → ∃ outcome s',
      (recover ⟨registry, policy, runtime⟩ nowMs).run s = (.ok (some outcome), s') ∧
        s'.journal = none ∧ s'.recovery = none := by
  let activator : NativeReleaseActivator W G := ⟨registry, policy, runtime⟩
  have hgoverned : s.Governed activator.registry activator.policy now := h.governed
  refine ⟨fun candidate hserves hruntime =>
    hgoverned.activates hle hnow hserves hruntime hconfirms, fun j hj hruntime => ?_⟩
  obtain ⟨outcome, s', hrun⟩ :=
    hgoverned.ends (i := .recover nowMs) hj trivial hle hruntime hconfirms
  obtain ⟨c, -, hended⟩ := recover_ended hgoverned.consistent hrun
  exact ⟨outcome, s', hrun, hended.journal, hended.recovery⟩

end

namespace NativeSample

/-- The policy that replaces `policy`, with another entrypoint. -/
def replacement : ManagedNativeRuntimePolicy :=
  { policy with entrypoint := "bin/next", policyDigest := 10 }

/-- A store whose releases have these entrypoints. -/
def builtFor (entrypoint : EvidenceDigest → String) : ReleaseStore Unit :=
  { store with
    readDescriptor := fun d g => (.ok ⟨policy.projectId, policy.target, policy.releaseInterface,
      entrypoint d, policy.runtimeContractDigest⟩, g) }

theorem builtFor_serves {entrypoint : EvidenceDigest → String} {p : ManagedNativeRuntimePolicy}
    {candidate : EvidenceDigest} {previous : Option EvidenceDigest}
    (h : ∀ d, d = candidate ∨ previous = some d → (⟨policy.projectId, policy.target,
      policy.releaseInterface, entrypoint d, policy.runtimeContractDigest⟩ :
        TitaniumReleaseDescriptor).Fits p) :
    (builtFor entrypoint).Serves p candidate previous where
  descriptor d _ hd := ⟨_, rfl, h d hd⟩
  closure _ := rfl
  root _ := .inl rfl
  unroot _ := rfl
  target _ _ _ := rfl
  view _ _ _ := rfl

/-- Release 1 was built for `policy`, the other releases for `replacement`. -/
def changedStore : ReleaseStore Unit :=
  builtFor fun d => if d = 1 then policy.entrypoint else replacement.entrypoint

/-- The journal of release 2 is written; the release in service is not one of its policy. -/
def blocked : NativeState (List Bool) Unit :=
  { serving [] with
    journal := some { journal .prepared 10 with policyDigest := replacement.policyDigest }
    recovery := some 2 }

/-- The policy is replaced while release 1 is in service: the activation of release 2 fails and
leaves a journal, and no recovery ever ends. -/
theorem replaced_policy_blocks :
    PolicyHistory changedStore runtime (fun _ => True) (fun _ _ _ => True) 0 replacement
      (serving []) ∧
    changedStore.Serves replacement 2 none ∧ runtime.Steady replacement 2 (some 1) ∧
    (activate ⟨changedStore, replacement, runtime⟩ 2 10).run (serving []) =
      (.error .releasePolicyMismatch, blocked) ∧
    ∀ nowMs, 0 ≤ nowMs → (recover ⟨changedStore, replacement, runtime⟩ nowMs).run blocked =
      (.error .releasePolicyMismatch, blocked) := by
  have hserves : changedStore.Serves replacement 2 none :=
    builtFor_serves fun d h => by rcases h with rfl | h; exacts [rfl, nomatch h]
  refine ⟨.replaced _ (.idle policy (serving_idle [])) rfl trivial, hserves, runtime_steady,
    by decide +kernel, fun nowMs hnow => ?_⟩
  exact run_ensure_bind hnow

/-- Every release was built for `replacement`. -/
def nextStore : ReleaseStore Unit := builtFor fun _ => replacement.entrypoint

/-- A policy of the same releases that waits longer for the health check. -/
def patient : ManagedNativeRuntimePolicy :=
  { replacement with healthTimeoutMs := 10000, policyDigest := 11, timeout_valid := by decide }

/-- The entrypoint is replaced before the first release, and the timeout when release 1 is in
service.  Then the activation of release 2 is killed after the write of the current-release root. -/
def replaced : NativeState (List Bool) Unit :=
  { committing [] with
    journal := some { journal .candidateRestarted 10 with policyDigest := patient.policyDigest } }

theorem nextStore_careful {p : ManagedNativeRuntimePolicy} {i : NativeCall}
    {s : NativeState (List Bool) Unit} (hp : ∀ candidate, nextStore.Serves p candidate s.current)
    (hs : s.journal = none) : i.Careful nextStore runtime p s :=
  ⟨fun candidate _ _ _ => hp candidate, fun _ hj => by cases hs.symm.trans hj⟩

theorem replaced_history : PolicyHistory nextStore runtime (·.journal = none)
    (NativeCall.Careful nextStore runtime) 10 patient replaced := by
  have hpasses₁ : (call ⟨nextStore, replacement, runtime⟩ (.activate 1 5)).Passes
      ⟨none, none, none, none, none, .unknown, [true], ()⟩
      { serving [true] with unit := .healthy (some 1) } := by
    decide +kernel
  have hpasses₂ : (call ⟨nextStore, patient, runtime⟩ (.activate 2 10)).Passes
      { serving [true] with unit := .healthy (some 1) } replaced := by
    decide +kernel
  have hfirst : PolicyHistory nextStore runtime (·.journal = none)
      (NativeCall.Careful nextStore runtime) 5 replacement
      { serving [true] with unit := .healthy (some 1) } :=
    .called (.activate 1 5) (.replaced replacement (.idle policy ⟨rfl, rfl, rfl⟩) rfl rfl)
      (by decide) (nextStore_careful (fun _ => builtFor_serves fun _ _ => rfl) rfl) hpasses₁
  exact .called (.activate 2 10) (.replaced patient hfirst rfl rfl) (by decide)
    (nextStore_careful (fun _ => builtFor_serves fun _ _ => rfl) rfl) hpasses₂

theorem replaced_recovers : (∃ j, replaced.journal = some j) ∧ ∃ outcome s',
    (recover ⟨nextStore, patient, runtime⟩ 10).run replaced = (.ok (some outcome), s') ∧
      s'.journal = none ∧ s'.recovery = none :=
  ⟨⟨_, rfl⟩, (policy_replacement_never_blocks nextStore runtime replaced_history le_rfl (by decide)
    fun _ _ _ => rfl).2 _ rfl runtime_steady⟩

end NativeSample

end Rdashboard
