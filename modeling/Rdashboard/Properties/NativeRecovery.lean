import Rdashboard.Properties.NativeActivation

/-! # Interrupted activations

An activation that is killed and continued by `recover` calls, on a runtime that does what it is
asked and a candidate that may be healthy or not whenever it is asked.  `Course` is what holds at
every point of such an activation; the registry's roots are written in the order last known good,
current, and a recovery that finds one of them written and the candidate unhealthy (`Doomed`) never
gets back to what an activation without a crash leaves behind. -/

namespace Rdashboard

open Interleaving NativeState NativeReleaseActivator Prog

variable {W G : Type}
variable {outcome : NativeReleaseOutcome}

/-! ### Statement -/

/-- The restart, the stop and the previous release work; the candidate answers. -/
structure NativeReleaseRuntime.Steady (runtime : NativeReleaseRuntime W)
    (policy : ManagedNativeRuntimePolicy) (candidate : EvidenceDigest)
    (previous : Option EvidenceDigest) : Prop extends runtime.Reverts policy previous where
  starts : ∀ w, (runtime.restart (some candidate) w).1 = .ok ()
  answers : ∀ w, ∃ answer, (runtime.healthy policy (some candidate) w).1 = .ok answer

/-- The link, the current-release root and the last-known-good root. -/
structure ReleaseRoots where
  link : Option EvidenceDigest
  current : Option EvidenceDigest
  lastKnownGood : Option EvidenceDigest

def NativeState.roots (s : NativeState W G) : ReleaseRoots := ⟨s.link, s.current, s.lastKnownGood⟩

namespace NativeReleaseActivator

variable (activator : NativeReleaseActivator W G)

/-- The activation of `candidate` from `s₀`, killed at any points and continued by `recover` calls
with a clock that does not move backwards; it was last at `s`, at the time given. -/
inductive Interrupted (candidate : EvidenceDigest) (s₀ : NativeState W G) :
    Int → NativeState W G → Prop where
  | activated {s : NativeState W G} (nowMs : Int) :
      (activator.activate candidate nowMs).Passes s₀ s → Interrupted candidate s₀ nowMs s
  | recovered {s s' : NativeState W G} {before : Int} (nowMs : Int) :
      Interrupted candidate s₀ before s → before ≤ nowMs →
      (activator.recover nowMs).Passes s s' → Interrupted candidate s₀ nowMs s'

/-- The state after the first `n` of the `recover` calls at the times of `clock`. -/
def recovered (clock : Nat → Int) (s : NativeState W G) : Nat → NativeState W G
  | 0 => s
  | n + 1 => ((activator.recover (clock n)).run (recovered clock s n)).2

/-- Nothing is left to recover in `s`, or finitely many `recover` calls return an outcome: the
activation is over in `s'`. -/
def Finishes (clock : Nat → Int) (s s' : NativeState W G) : Prop :=
  (s.journal = none ∧ s.recovery = none ∧ s' = s) ∨
    ∃ n outcome, (activator.recover (clock n)).run (activator.recovered clock s n) =
      (.ok (some outcome), s')

/-- What some activation of `candidate` that is not interrupted leaves behind. -/
def Uninterrupted (candidate : EvidenceDigest) (s₀ : NativeState W G) (roots : ReleaseRoots) :
    Prop :=
  ∃ runtime : NativeReleaseRuntime W, runtime.Steady activator.policy candidate s₀.current ∧
    ∃ nowMs outcome s', (activate { activator with runtime } candidate nowMs).run s₀ =
      (.ok outcome, s') ∧ s'.roots = roots

end NativeReleaseActivator

/-! ### The course of an activation -/

namespace NativeState

/-- The last-known-good root after the candidate was put in service. -/
def goodAfter (candidate : EvidenceDigest) (s₀ : NativeState W G) : Option EvidenceDigest :=
  match s₀.current with
  | some previous => if previous = candidate then s₀.lastKnownGood else some previous
  | none => s₀.lastKnownGood

/-- How far the roots of the registry have been written. -/
inductive Standing (candidate : EvidenceDigest) (s s₀ : NativeState W G) : Prop where
  | untouched : s.current = s₀.current → s.lastKnownGood = s₀.lastKnownGood →
      Standing candidate s s₀
  | remembered (previous : EvidenceDigest) : s₀.current = some previous → previous ≠ candidate →
      s.current = s₀.current → s.lastKnownGood = some previous → Standing candidate s s₀
  | promoted : s₀.current ≠ some candidate → s.current = some candidate →
      s.lastKnownGood = s₀.goodAfter candidate → Standing candidate s s₀

structure Course (policy : ManagedNativeRuntimePolicy) (candidate : EvidenceDigest)
    (s s₀ : NativeState W G) (nowMs : Int) : Prop where
  consistent : s.Consistent policy
  activation : ∀ j, s.journal = some j →
    j.activation = ⟨policy.projectId, candidate, s₀.current⟩
  clock : ∀ j, s.journal = some j → j.updatedAtMs ≤ nowMs
  recovery : s.recovery = none ∨ s.recovery = some candidate ∧ 0 ≤ nowMs
  standing : s.Standing candidate s₀
  early : ∀ j, s.journal = some j → j.phase = .prepared ∨ j.phase = .candidateLinked →
    s.lastKnownGood = s₀.lastKnownGood

variable {policy : ManagedNativeRuntimePolicy} {candidate : EvidenceDigest} {nowMs : Int}
  {s₀ s s' : NativeState W G} {j : NativeReleaseJournal}

/-- The activation may begin once, from the roots it finds. -/
def MayBegin (candidate : EvidenceDigest) (s₀ : NativeState W G) (nowMs : Int)
    (c : EvidenceDigest) (s : NativeState W G) : Prop :=
  c = candidate ∧ 0 ≤ nowMs ∧ s.current = s₀.current ∧ s.lastKnownGood = s₀.lastKnownGood

section

variable (h : s.Course policy candidate s₀ nowMs)
include h

theorem Course.later {later : Int} (hle : nowMs ≤ later) : s.Course policy candidate s₀ later :=
  { h with
    clock := fun j hj => (h.clock j hj).trans hle
    recovery := h.recovery.imp_right fun hr => ⟨hr.1, hr.2.trans hle⟩ }

theorem Course.journal_previous (hj : s.journal = some j) : j.previous = s₀.current := by
  rw [NativeReleaseJournal.previous, h.activation j hj]

theorem Course.journal_candidate (hj : s.journal = some j) : j.candidate = candidate := by
  rw [NativeReleaseJournal.candidate, h.activation j hj]

end

theorem Standing.congr (h : s.Standing candidate s₀) (hcurrent : s'.current = s.current)
    (hgood : s'.lastKnownGood = s.lastKnownGood) : s'.Standing candidate s₀ := by
  cases h with
  | untouched hc hg => exact .untouched (hcurrent.trans hc) (hgood.trans hg)
  | remembered previous h₀ hne hc hg =>
    exact .remembered previous h₀ hne (hcurrent.trans hc) (hgood.trans hg)
  | promoted h₀ hc hg => exact .promoted h₀ (hcurrent.trans hc) (hgood.trans hg)

/-- When the previous release has been remembered, the last-known-good root is as it should be. -/
theorem Standing.good_of_current (h : s.Standing candidate s₀) (hcurrent : s.current = s₀.current)
    (hne : s₀.current ≠ some candidate)
    (hgood : ∀ previous, s₀.current = some previous → s.lastKnownGood = some previous) :
    s.lastKnownGood = s₀.goodAfter candidate := by
  unfold goodAfter
  split
  · rename_i previous hprevious
    have hother : previous ≠ candidate := by
      rintro rfl
      exact hne hprevious
    rw [if_neg hother]
    exact hgood previous hprevious
  · rename_i hnone
    cases h with
    | untouched _ hg => exact hg
    | remembered previous h₀ => cases hnone.symm.trans h₀
    | promoted _ hc => cases hnone.symm.trans (hcurrent.symm.trans hc)

/-- The journal is removed or not there, so only the roots count. -/
theorem Course.of_idle (hs : s.Consistent policy) (hjournal : s.journal = none)
    (hrecovery : s.recovery = none ∨ s.recovery = some candidate ∧ 0 ≤ nowMs)
    (hstanding : s.Standing candidate s₀) : s.Course policy candidate s₀ nowMs :=
  have hnone : ∀ j, s.journal ≠ some j := fun j h => by cases hjournal.symm.trans h
  ⟨hs, fun j h => (hnone j h).elim, fun j h => (hnone j h).elim, hrecovery, hstanding,
    fun j h => (hnone j h).elim⟩

theorem Course.of_journal (hs : s.Consistent policy) (hj : s.journal = some j)
    (hactivation : j.activation = ⟨policy.projectId, candidate, s₀.current⟩)
    (hclock : j.updatedAtMs ≤ nowMs) (hrecovery : s.recovery = some candidate)
    (hstanding : s.Standing candidate s₀)
    (hearly : j.phase = .prepared ∨ j.phase = .candidateLinked →
      s.lastKnownGood = s₀.lastKnownGood) : s.Course policy candidate s₀ nowMs := by
  have hnow : 0 ≤ nowMs := (hs.valid j hj).2.2.2.trans hclock
  refine ⟨hs, fun j' h => ?_, fun j' h => ?_, .inr ⟨hrecovery, hnow⟩, hstanding, fun j' h => ?_⟩
  all_goals
    cases hj.symm.trans h
    assumption

theorem Course.step (h : s.Course policy candidate s₀ nowMs)
    (hstep : NativeStep policy nowMs (MayBegin candidate s₀ nowMs) True s s') :
    s'.Course policy candidate s₀ nowMs := by
  have hs' := hstep.consistent h.consistent
  have hrecovery : ∀ j, s.journal = some j → s.recovery = some candidate := fun j hj =>
    (h.consistent.recovery j hj).trans (congrArg some (h.journal_candidate hj))
  cases hstep with
  | begun c hmay hj =>
    obtain ⟨rfl, hnow, -⟩ := hmay
    exact .of_idle hs' hj (.inr ⟨rfl, hnow⟩) (h.standing.congr rfl rfl)
  | opened j hmay hj hvalid hphase htime hbegun hcurrent =>
    obtain ⟨hcandidate, -, hcurrent₀, hgood₀⟩ := hmay
    refine .of_journal hs' rfl ?_ htime.le (hbegun.trans (congrArg some hcandidate))
      (.untouched hcurrent₀ hgood₀) fun _ => hgood₀
    rw [← hcandidate, ← hcurrent₀, hcurrent, ← hvalid.2.2.1]
  | advanced j phase hj hwhy hclock =>
    refine .of_journal hs' rfl (h.activation j hj) le_rfl (hrecovery j hj)
      (h.standing.congr rfl rfl) fun hphase => h.early j hj ?_
    cases hwhy with
    | candidateLinked hprepared => exact .inl hprepared
    | _ => simp at hphase
  | remembered j previous hj hphase _ hprevious hne hcurrent =>
    have hprevious₀ := h.journal_previous hj
    refine .of_journal hs' hj (h.activation j hj) (h.clock j hj) (hrecovery j hj) ?_ ?_
    · exact .remembered previous (hprevious₀ ▸ hprevious) (h.journal_candidate hj ▸ hne)
        (hcurrent.trans hprevious₀) rfl
    · simp [hphase]
  | promoted j hj hphase _ hcurrent hne hgood =>
    have hprevious₀ := h.journal_previous hj
    have hcandidate := h.journal_candidate hj
    refine .of_journal hs' hj (h.activation j hj) (h.clock j hj) (hrecovery j hj) ?_ ?_
    · rw [hcandidate] at hne
      have h₀ : s₀.current ≠ some candidate := by
        rw [← hprevious₀, ← hcurrent]
        exact hne
      refine .promoted h₀ (congrArg some hcandidate) ?_
      exact h.standing.good_of_current (hcurrent.trans hprevious₀) h₀ (hprevious₀ ▸ hgood)
    · simp [hphase]
  | closed j hj => exact .of_idle hs' rfl h.recovery (h.standing.congr rfl rfl)
  | settled hj => exact .of_idle hs' hj (.inl rfl) (h.standing.congr rfl rfl)
  | _ => exact ⟨hs', h.activation, h.clock, h.recovery, h.standing.congr rfl rfl, h.early⟩

/-- The previous release is in service, but a root has been written: it is not the candidate. -/
theorem Standing.other (h : s.Standing candidate s₀)
    (htouched : ¬ (s.current = s₀.current ∧ s.lastKnownGood = s₀.lastKnownGood))
    (hcurrent : s.current = s₀.current) : s.current ≠ some candidate := by
  cases h with
  | untouched hc hg => exact (htouched ⟨hc, hg⟩).elim
  | remembered previous h₀ hne =>
    rw [hcurrent, h₀]
    exact fun h => hne (Option.some.inj h)
  | promoted hne => exact hcurrent ▸ hne

/-! ### How an activation ends -/

/-- The roots after an activation that passed. -/
def passedRoots (candidate : EvidenceDigest) (s₀ : NativeState W G) : ReleaseRoots :=
  ⟨some candidate, some candidate, s₀.goodAfter candidate⟩

/-- The roots after an activation that failed. -/
def failedRoots (s₀ : NativeState W G) : ReleaseRoots := ⟨s₀.current, s₀.current, s₀.lastKnownGood⟩

theorem passedRoots_of_current (h : s₀.current = some candidate) :
    s₀.passedRoots candidate = s₀.failedRoots := by
  simp [passedRoots, failedRoots, goodAfter, h]

/-- With the candidate linked and in service, the roots are those of an activation that passed. -/
theorem Standing.passed (h : s.Standing candidate s₀) (hlink : s.link = some candidate)
    (hcurrent : s.current = some candidate) : s.roots = s₀.passedRoots candidate := by
  cases h with
  | untouched hc hg =>
    rw [passedRoots_of_current (hc ▸ hcurrent)]
    simp only [roots, failedRoots, hlink, hg, ← hc, hcurrent]
  | remembered previous h₀ hne hc =>
    rw [hc, h₀] at hcurrent
    exact (hne (Option.some.inj hcurrent)).elim
  | promoted _ _ hg => simp only [roots, passedRoots, hlink, hcurrent, hg]

theorem Standing.current (h : s.Standing candidate s₀) :
    s.current = s₀.current ∨ s.current = some candidate := by
  cases h with
  | untouched hc => exact .inl hc
  | remembered _ _ _ hc => exact .inl hc
  | promoted _ hc => exact .inr hc

/-- An activation that ended has passed, if the candidate is in service, or it has failed, if the
last-known-good root is as it was. -/
theorem Course.ended (h : s.Course policy candidate s₀ nowMs)
    (hended : s.Ended candidate s₀.current outcome) :
    (outcome = .activated → s.roots = s₀.passedRoots candidate) ∧
      (outcome ≠ .activated → s.lastKnownGood = s₀.lastKnownGood → s.roots = s₀.failedRoots) := by
  obtain ⟨-, -, hmeans⟩ := hended
  refine ⟨?_, fun hother hgood => ?_⟩
  · rintro rfl
    exact h.standing.passed hmeans.1 hmeans.2
  · have hroots : s.link = s₀.current ∧ s.current = s₀.current := by
      cases outcome with
      | activated => exact (hother rfl).elim
      | rolledBack =>
        obtain ⟨release, hprevious, hlink, hcurrent, -⟩ := hmeans
        exact ⟨hlink.trans hprevious.symm, hcurrent.trans hprevious.symm⟩
      | rejectedFirstRelease =>
        obtain ⟨-, hlink, hcurrent⟩ := hmeans
        rcases h.standing.current with hc | hc
        · exact ⟨hlink.trans (hcurrent.symm.trans hc), hc⟩
        · cases hcurrent.symm.trans hc
      | candidateDiscarded => exact hmeans
    simp only [roots, failedRoots, hroots.1, hroots.2, hgood]

end NativeState

namespace NativeReleaseActivator

variable {activator : NativeReleaseActivator W G} {candidate : EvidenceDigest} {nowMs : Int}
  {s₀ s s' : NativeState W G} {j : NativeReleaseJournal}
variable {clock : Nat → Int}

theorem activate_course (h₀ : s₀.Idle) : (activator.activate candidate nowMs).Through
      (NativeStep activator.policy nowMs (MayBegin candidate s₀ nowMs) True)
      (fun outcome s' => s'.Ended candidate s₀.current outcome) s₀ := by
  have h : (activator.activate candidate nowMs).Through
      (NativeStep activator.policy nowMs (MayBegin candidate s₀ nowMs) True)
      (Ended candidate s₀.previousRelease) s₀ :=
    activate_through (.of_idle h₀.journal h₀.link) (fun hnow _ _ _ => ⟨rfl, hnow, rfl, rfl⟩)
      fun _ _ => yields_true
  unfold previousRelease at h
  rwa [h₀.journal] at h

theorem idle_course (h₀ : s₀.Idle) : s₀.Course activator.policy candidate s₀ nowMs :=
  .of_idle (.of_idle h₀.journal h₀.link) h₀.journal (.inl h₀.recovery) (.untouched rfl rfl)

/-- A `recover` call, wherever it is killed, keeps the course. -/
theorem recover_passes {before : Int} (h : s.Course activator.policy candidate s₀ before)
    (hle : before ≤ nowMs) (hp : (activator.recover nowMs).Passes s s') :
    s'.Course activator.policy candidate s₀ nowMs :=
  (recover_through h.consistent fun _ _ => yields_true).passes
    (I := fun s => s.Course activator.policy candidate s₀ nowMs) (fun _ _ h hstep => h.step hstep) (h.later hle) hp

theorem Interrupted.course (h₀ : s₀.Idle) (h : activator.Interrupted candidate s₀ nowMs s) :
    s.Course activator.policy candidate s₀ nowMs := by
  induction h with
  | activated nowMs hp =>
    exact (activate_course h₀).passes (I := fun s => s.Course activator.policy candidate s₀ nowMs)
      (fun _ _ h hstep => h.step hstep) (idle_course h₀) hp
  | recovered nowMs _ hle hp ih => exact recover_passes ih hle hp

/-- What a `recover` call that returns an outcome has done. -/
theorem recover_ended (hs : s.Consistent activator.policy)
    (hrun : (activator.recover nowMs).run s = (.ok (some outcome), s')) :
    ∃ c, (NativeCall.recover nowMs).candidate s = some c ∧
      s'.Ended c s.previousRelease outcome := by
  have h : (activator.recover nowMs).Through (NativeStep activator.policy nowMs (fun _ _ => False) True)
      _ s := recover_through hs fun _ _ => yields_true
  have hend := h.run
  rw [hrun] at hend
  exact hend _ rfl outcome rfl

/-- The roots after a `recover` call that found the journal and returned an outcome. -/
theorem recover_roots {before : Int}
    (h : s.Course activator.policy candidate s₀ before) (hle : before ≤ nowMs)
    (hj : s.journal = some j)
    (hrun : (activator.recover nowMs).run s = (.ok (some outcome), s')) :
    (outcome = .activated → s'.roots = s₀.passedRoots candidate) ∧
      (outcome ≠ .activated → s'.lastKnownGood = s₀.lastKnownGood → s'.roots = s₀.failedRoots) := by
  obtain ⟨c, hc, hended⟩ := recover_ended h.consistent hrun
  have hpasses := passes_run (activator.recover nowMs) s
  rw [hrun] at hpasses
  refine (recover_passes h hle hpasses).ended ?_
  unfold previousRelease at hended
  unfold NativeCall.candidate at hc
  rw [hj] at hc hended
  cases hc
  dsimp only at hended ⊢
  rwa [h.journal_candidate hj, h.journal_previous hj] at hended

/-! ### Activations that are not interrupted -/

/-- A runtime that does what it is asked, with the previous release healthy and this verdict on the
candidate. -/
def trial (previous : Option EvidenceDigest) (passed : Bool) : NativeReleaseRuntime W where
  restart _ w := (.ok (), w)
  stop w := (.ok (), w)
  healthy _ link w := (.ok (decide (link = previous) || passed), w)

theorem trial_steady {policy : ManagedNativeRuntimePolicy} {previous : Option EvidenceDigest}
    {passed : Bool} :
    (trial previous passed : NativeReleaseRuntime W).Steady policy candidate previous where
  restart _ _ _ := rfl
  healthy release w h := by simp [trial, h]
  stop _ := rfl
  starts _ := rfl
  answers _ := ⟨_, rfl⟩

section Steady

variable {activation : TitaniumReleaseActivation}
  (hstore : activator.registry.Serves activator.policy activation.candidateArtifact
    activation.previousCurrentArtifact)
  (hruntime : activator.runtime.Steady activator.policy activation.candidateArtifact
    activation.previousCurrentArtifact)

include hstore hruntime

/-- A candidate whose roots are untouched is judged on its next answer. -/
theorem judgeCandidate_returns (hj : s.Unfinished activator.policy nowMs activation j)
    (hphase : j.phase = .candidateRestarted)
    (hcurrent : s.current = activation.previousCurrentArtifact) :
    (activator.judgeCandidate j nowMs).Returns (fun outcome s' =>
      outcome ≠ .activated → s'.lastKnownGood = s.lastKnownGood) s := by
  obtain ⟨answer, hanswer⟩ := hruntime.answers s.runtime
  rw [← unfinished_link hj (.inr hphase)] at hanswer
  cases answer with
  | true =>
    exact (judgeCandidate_healthy hstore hruntime.toReverts hj hphase hanswer
      (.inr hcurrent)).mono fun _ _ h hother => (hother h).elim
  | false =>
    exact (judgeCandidate_unhealthy hstore hruntime.toReverts hj hphase hanswer hcurrent).mono
      fun _ _ h _ => h.2

/-- A resumed activation whose roots are untouched comes to an end. -/
theorem resume_returns (hj : s.Unfinished activator.policy nowMs activation j)
    (hcurrent : s.current = activation.previousCurrentArtifact) :
    (activator.resume j nowMs).Returns (fun outcome s' =>
      outcome ≠ .activated → s'.lastKnownGood = s.lastKnownGood) s := by
  by_cases hearly : j.phase = .prepared ∨ j.phase = .candidateLinked
  · obtain ⟨j', s', hrun, hphase', hj', hcurrent', hgood', -⟩ :=
      resume_judges hj hearly (hruntime.starts _)
    unfold Prog.Returns
    rw [hrun, ← hgood']
    exact judgeCandidate_returns hstore hruntime hj' hphase' (hcurrent'.trans hcurrent)
  · rw [not_or] at hearly
    rw [resume_eq_judge hearly.1 hearly.2]
    by_cases hphase : j.phase = .candidateRestarted
    · exact judgeCandidate_returns hstore hruntime hj hphase hcurrent
    · have hrejecting : j.phase.Rejecting := by
        unfold ActivationPhase.Rejecting
        cases h : j.phase <;> simp_all
      unfold judgeCandidate
      rw [if_neg hphase]
      exact (rollBack_returns hstore hruntime.toReverts hj hrejecting hcurrent).mono
        fun _ _ h _ => h.2

end Steady

/-- An activation that is not interrupted is decided by the first answer about the candidate. -/
theorem activate_judged (activator : NativeReleaseActivator W G) {answer : Bool} (h₀ : s₀.Idle)
    (hstore : activator.registry.Serves activator.policy candidate s₀.current)
    (hruntime : activator.runtime.Steady activator.policy candidate s₀.current)
    (hroot : activator.Rooted candidate s₀.store) (hnow : 0 ≤ nowMs)
    (hanswer : (activator.runtime.healthy activator.policy (some candidate)
      (activator.runtime.restart (some candidate) s₀.runtime).2).1 = .ok answer) :
    (activator.activate candidate nowMs).Returns (fun _ s' =>
      s'.roots = if answer then s₀.passedRoots candidate else s₀.failedRoots) s₀ := by
  obtain ⟨j, s, hopen, hphase, hj, hcurrent, hgood, hworld⟩ :=
    activate_opens hstore ⟨h₀.journal, h₀.link, .inl h₀.recovery⟩ hroot hnow
  obtain ⟨j', s', hjudge, hphase', hj', hcurrent', hgood', hworld'⟩ :=
    resume_judges hj (.inl hphase) (hruntime.starts _)
  rw [hworld] at hworld'
  have hsame := hcurrent'.trans hcurrent
  have hanswer' : (activator.runtime.healthy activator.policy s'.link s'.runtime).1 =
      .ok answer := by
    rw [unfinished_link hj' (.inr hphase'), hworld']
    exact hanswer
  have hjudged : (activator.judgeCandidate j' nowMs).Returns (fun outcome s'' =>
      (answer = true → outcome = .activated) ∧ (answer = false → outcome ≠ .activated ∧
        s''.lastKnownGood = s'.lastKnownGood)) s' := by
    cases answer with
    | true =>
      exact (judgeCandidate_healthy hstore hruntime.toReverts hj' hphase' hanswer'
        (.inr hsame)).mono fun _ _ h => ⟨fun _ => h, nofun⟩
    | false =>
      refine (judgeCandidate_unhealthy hstore hruntime.toReverts hj' hphase' hanswer'
        hsame).mono fun _ _ h => ⟨nofun, fun _ => ⟨?_, h.2⟩⟩
      rw [h.1]
      cases s₀.current <;> exact nofun
  obtain ⟨outcome, s'', hrun, hpassed, hfailed⟩ := hjudged
  have hactivate := (hopen.trans hjudge).trans hrun
  refine ⟨outcome, s'', hactivate, ?_⟩
  have hend := (activate_course h₀ : Prog.Through _ _ (activator.activate candidate nowMs) s₀).run
  have hpasses := passes_run (activator.activate candidate nowMs) s₀
  rw [hactivate] at hend hpasses
  have hcourse : s''.Course activator.policy candidate s₀ nowMs :=
    (activate_course h₀).passes (I := fun s => s.Course activator.policy candidate s₀ nowMs)
      (fun _ _ h hstep => h.step hstep) (idle_course h₀) hpasses
  obtain ⟨hactivated, hother⟩ := hcourse.ended (hend _ rfl)
  cases answer with
  | true => exact hactivated (hpassed rfl)
  | false => exact hother (hfailed rfl).1 ((hfailed rfl).2.trans (hgood'.trans hgood))

/-- An activation that is not interrupted leaves the roots of one that passed or failed, and it can
do either. -/
theorem uninterrupted_iff (h₀ : s₀.Idle)
    (hstore : activator.registry.Serves activator.policy candidate s₀.current)
    (hroot : activator.Rooted candidate s₀.store) {roots : ReleaseRoots} :
    activator.Uninterrupted candidate s₀ roots ↔
      roots = s₀.passedRoots candidate ∨ roots = s₀.failedRoots := by
  constructor
  · rintro ⟨runtime, hruntime, nowMs, outcome, s', hrun, rfl⟩
    have hnow : 0 ≤ nowMs := by
      obtain ⟨_, _, hclock, -⟩ := run_bind_ok_iff.mp hrun
      exact (run_ensure_ok_iff.mp hclock).1
    obtain ⟨answer, hanswer⟩ := hruntime.answers (runtime.restart (some candidate) s₀.runtime).2
    obtain ⟨outcome', s'', hrun', hroots⟩ := activate_judged
      { activator with runtime } h₀ hstore hruntime hroot hnow hanswer
    cases hrun.symm.trans hrun'
    cases answer with
    | true => exact .inl hroots
    | false => exact .inr hroots
  · have hjudged : ∀ passed, (decide (some candidate = s₀.current) || passed) = passed →
        activator.Uninterrupted candidate s₀
          (if passed then s₀.passedRoots candidate else s₀.failedRoots) := by
      intro passed hpassed
      obtain ⟨outcome, s', hrun, hroots⟩ := activate_judged
        { activator with runtime := trial s₀.current passed } h₀ hstore trial_steady
        hroot le_rfl (congrArg Except.ok hpassed)
      exact ⟨trial s₀.current passed, trial_steady, 0, outcome, s', hrun, hroots⟩
    rintro (rfl | rfl)
    · exact hjudged true (Bool.or_true _)
    · by_cases hcurrent : s₀.current = some candidate
      · rw [← passedRoots_of_current hcurrent]
        exact hjudged true (Bool.or_true _)
      · refine hjudged false ?_
        simpa using Ne.symm hcurrent

/-! ### Recoveries that cannot succeed -/

/-- The roots have been written, and the candidate is being given up or has been. -/
structure Doomed (candidate : EvidenceDigest) (s₀ s : NativeState W G) : Prop where
  touched : ¬ (s.current = s₀.current ∧ s.lastKnownGood = s₀.lastKnownGood)
  rejecting : s.journal = none ∧ s.current ≠ some candidate ∨
    ∃ j, s.journal = some j ∧ j.phase.Rejecting

theorem Doomed.roots (h : Doomed candidate s₀ s) (hj : s.journal = none) :
    s.roots ≠ s₀.passedRoots candidate ∧ s.roots ≠ s₀.failedRoots := by
  have hcurrent : s.current ≠ some candidate := by
    rcases h.rejecting with hr | ⟨j, hr, -⟩
    · exact hr.2
    · cases hj.symm.trans hr
  refine ⟨fun hroots => ?_, fun hroots => ?_⟩
  · exact hcurrent (congrArg ReleaseRoots.current hroots)
  · exact h.touched ⟨congrArg ReleaseRoots.current hroots,
      congrArg ReleaseRoots.lastKnownGood hroots⟩

theorem Doomed.step (h : Doomed candidate s₀ s) (hs : s.Course activator.policy candidate s₀ nowMs)
    (hstep : NativeStep activator.policy nowMs (fun _ _ => False) True s s') : Doomed candidate s₀ s' := by
  obtain ⟨htouched, hrejecting⟩ := h
  have hphase : ∀ j, s.journal = some j → j.phase.Rejecting := by
    intro j hj
    rcases hrejecting with hr | ⟨j', hj', hr⟩
    · cases hj.symm.trans hr.1
    · cases hj.symm.trans hj'
      exact hr
  cases hstep with
  | begun c hmay => exact hmay.elim
  | opened j hmay => exact hmay.elim
  | advanced j phase hj hwhy =>
    refine ⟨htouched, .inr ⟨_, rfl, ?_⟩⟩
    have hr := hphase j hj
    unfold ActivationPhase.Rejecting at hr ⊢
    cases hwhy with
    | candidateLinked hp => simp [hp] at hr
    | candidateRestarted hp => simp [hp] at hr
    | _ => simp
  | remembered j previous hj hp =>
    have hr := hphase j hj
    simp [ActivationPhase.Rejecting, hp] at hr
  | promoted j hj hp =>
    have hr := hphase j hj
    simp [ActivationPhase.Rejecting, hp] at hr
  | closed j hj hwhy =>
    have hr := hphase j hj
    refine ⟨htouched, .inl ⟨rfl, ?_⟩⟩
    cases hwhy with
    | activated hp => simp [ActivationPhase.Rejecting, hp] at hr
    | rolledBack _ hcurrent =>
      exact hs.standing.other htouched (hcurrent.trans (hs.journal_previous hj))
    | rejected _ _ _ hcurrent =>
      rw [hcurrent]
      exact nofun
  | _ => exact ⟨htouched, hrejecting⟩

/-- A program whose steps begin nothing leads from a doomed state to a doomed state. -/
theorem Doomed.run {α : Type} {Q : α → NativeState W G → Prop} {x : NativeProg W G α}
    (h : Doomed candidate s₀ s) (hs : s.Course activator.policy candidate s₀ nowMs)
    (hx : x.Through (NativeStep activator.policy nowMs (fun _ _ => False) True) Q s) :
    Doomed candidate s₀ (x.run s).2 :=
  (Prog.Runs.run (Prog.Runs.invariant (I := fun s => s.Course activator.policy candidate s₀ nowMs ∧
    Doomed candidate s₀ s) hx ⟨hs, h⟩ fun _ _ h hstep =>
      ⟨h.1.step (step_of_resuming hstep), h.2.step h.1 hstep⟩)).1.2

theorem course_unfinished (h : s.Course activator.policy candidate s₀ nowMs)
    (hj : s.journal = some j) : s.Unfinished activator.policy nowMs
      ⟨activator.policy.projectId, candidate, s₀.current⟩ j :=
  ⟨h.consistent, hj, h.activation j hj, h.clock j hj⟩

/-- The commit has begun, the journal is there, and the candidate is unhealthy when asked again. -/
structure Relapsed (activator : NativeReleaseActivator W G) (s₀ s : NativeState W G) : Prop where
  touched : ¬ (s.current = s₀.current ∧ s.lastKnownGood = s₀.lastKnownGood)
  journal : ∃ j, s.journal = some j ∧ j.phase = .candidateRestarted
  unhealthy : (activator.runtime.healthy activator.policy s.link s.runtime).1 = .ok false

section Recovering

variable (hstore : activator.registry.Serves activator.policy candidate s₀.current)

include hstore

theorem recover_resumes (h : s.Course activator.policy candidate s₀ nowMs)
    (hj : s.journal = some j) :
    ∃ g, Course activator.policy candidate { s with store := g } s₀ nowMs ∧
      (activator.recover nowMs).run s =
        (((activator.resume j nowMs).run { s with store := g }).1.map some,
          ((activator.resume j nowMs).run { s with store := g }).2) := by
  obtain ⟨g, -, hrun⟩ := call_resumes (i := .recover nowMs) hstore (course_unfinished h hj) trivial
  exact ⟨g, h.step (.asked g), hrun⟩

/-- A relapse is not recovered from. -/
theorem Relapsed.doomed (hrelapsed : activator.Relapsed s₀ s)
    (h : s.Course activator.policy candidate s₀ nowMs) :
    Doomed candidate s₀ ((activator.recover nowMs).run s).2 := by
  obtain ⟨htouched, ⟨j, hj, hphase⟩, hanswer⟩ := hrelapsed
  obtain ⟨g, hcourse, hrun⟩ := recover_resumes hstore h hj
  obtain ⟨j', s', hgives, hphase', hj', hcurrent, hgood⟩ :=
    judgeCandidate_gives_up (course_unfinished hcourse hj) hphase hanswer
  rw [hrun, resume_eq_judge (by simp [hphase]) (by simp [hphase]), hgives]
  have hearly : ¬ (j'.phase = .prepared ∨ j'.phase = .candidateLinked) := by
    unfold ActivationPhase.Rejecting at hphase'
    rintro (hp | hp) <;> simp [hp] at hphase'
  have hcandidate : j'.candidate = candidate := by
    rw [NativeReleaseJournal.candidate, hj'.activation]
  have hcourse' : s'.Course activator.policy candidate s₀ nowMs :=
    .of_journal hj'.consistent hj'.journal hj'.activation hj'.clock
      ((hj'.consistent.recovery j' hj'.journal).trans (congrArg some hcandidate))
      (hcourse.standing.congr hcurrent hgood) fun hp => (hearly hp).elim
  have hdoomed : Doomed candidate s₀ s' := by
    refine ⟨?_, .inr ⟨j', hj'.journal, hphase'⟩⟩
    rw [hcurrent, hgood]
    exact htouched
  exact hdoomed.run hcourse' (rollBack_through hj'.consistent hj'.journal)

/-- Once doomed or relapsed, an activation is not brought to the end of an uninterrupted one. -/
theorem never_finishes (h : s.Course activator.policy candidate s₀ nowMs)
    (hlater : nowMs ≤ clock 0) (hclock : Monotone clock)
    (hlost : Doomed candidate s₀ s ∨ activator.Relapsed s₀ s)
    (hfinishes : activator.Finishes clock s s') :
    s'.roots ≠ s₀.passedRoots candidate ∧ s'.roots ≠ s₀.failedRoots := by
  have hcourse (n : Nat) :
      (activator.recovered clock s n).Course activator.policy candidate s₀ (clock n) := by
    induction n with
    | zero => exact h.later hlater
    | succ n ih => exact (recover_passes ih le_rfl (passes_run _ _)).later (hclock n.le_succ)
  have recovers (n : Nat) : (activator.recover (clock n)).Through
      (NativeStep activator.policy (clock n) (fun _ _ => False) True) _
      (activator.recovered clock s n) :=
    recover_through (hcourse n).consistent fun _ _ => yields_true
  have hdoomed : ∀ n, Doomed candidate s₀ (activator.recovered clock s (n + 1)) := by
    intro n
    induction n with
    | zero =>
      exact hlost.elim (fun hd => hd.run (hcourse 0) (recovers 0))
        fun hr => hr.doomed hstore (hcourse 0)
    | succ n ih => exact ih.run (hcourse (n + 1)) (recovers (n + 1))
  rcases hfinishes with ⟨hj, -, rfl⟩ | ⟨n, outcome, hrun⟩
  · rcases hlost with hd | ⟨-, ⟨j, hj', -⟩, -⟩
    · exact hd.roots hj
    · cases hj.symm.trans hj'
  · obtain ⟨c, -, hended⟩ := recover_ended (hcourse n).consistent hrun
    have hnext : activator.recovered clock s (n + 1) = s' := congrArg Prod.snd hrun
    exact (hnext ▸ hdoomed n).roots hended.journal

/-- What the last interruption has to leave for the recovery to succeed: the roots of the registry
untouched, or the journal removed with the candidate in service, or a candidate that is healthy when
it is asked again. -/
def Recoverable (activator : NativeReleaseActivator W G) (candidate : EvidenceDigest)
    (s₀ s : NativeState W G) : Prop :=
  (s.current = s₀.current ∧ s.lastKnownGood = s₀.lastKnownGood) ∨
    (s.journal = none ∧ s.current = some candidate) ∨
    ((∃ j, s.journal = some j ∧ j.phase = .candidateRestarted) ∧
      (activator.runtime.healthy activator.policy s.link s.runtime).1 = .ok true)

omit hstore in
theorem lost_of_not_recoverable
    (hruntime : activator.runtime.Steady activator.policy candidate s₀.current)
    (h : s.Course activator.policy candidate s₀ nowMs)
    (hnot : ¬ activator.Recoverable candidate s₀ s) :
    Doomed candidate s₀ s ∨ activator.Relapsed s₀ s := by
  unfold Recoverable at hnot
  rw [not_or, not_or] at hnot
  obtain ⟨htouched, hremoved, hrelapsed⟩ := hnot
  rcases hj : s.journal with _ | j
  · exact .inl ⟨htouched, .inl ⟨hj, fun hcurrent => hremoved ⟨hj, hcurrent⟩⟩⟩
  · by_cases hphase : j.phase = .candidateRestarted
    · have hlink := unfinished_link (course_unfinished h hj) (.inr hphase)
      obtain ⟨answer, hanswer⟩ := hruntime.answers s.runtime
      rw [← hlink] at hanswer
      cases answer with
      | true => exact (hrelapsed ⟨⟨j, hj, hphase⟩, hanswer⟩).elim
      | false => exact .inr ⟨htouched, ⟨j, hj, hphase⟩, hanswer⟩
    · refine .inl ⟨htouched, .inr ⟨j, hj, ?_⟩⟩
      have hearly : ¬ (j.phase = .prepared ∨ j.phase = .candidateLinked) := by
        intro hearly
        have hstage := h.consistent.stage j hj
        refine htouched ⟨?_, h.early j hj hearly⟩
        rw [← h.journal_previous hj]
        rcases hearly with hp | hp
        · simp only [Stage, hp] at hstage
          exact hstage.1
        · simp only [Stage, hp] at hstage
          exact hstage.1
      unfold ActivationPhase.Rejecting
      cases hp : j.phase <;> simp_all

/-- Without a journal the roots are final, and a recovery root is all that is left. -/
theorem finishes_without_journal (h : s.Course activator.policy candidate s₀ nowMs)
    (hlater : nowMs ≤ clock 0) (hj : s.journal = none) :
    ∃ s', activator.Finishes clock s s' ∧ s'.roots = s.roots := by
  rcases h.recovery with hrecovery | ⟨hrecovery, hnow⟩
  · exact ⟨s, .inl ⟨hj, hrecovery, rfl⟩, rfl⟩
  · obtain ⟨o, s', hrun, ho, g, rfl⟩ :=
      recoverRoots_returns hstore (h.consistent.idle hj) hrecovery
    obtain ⟨outcome, rfl⟩ := Option.ne_none_iff_exists'.1 ho
    refine ⟨{ s with recovery := none, store := g }, .inr ⟨0, outcome, ?_⟩, rfl⟩
    have hread : (read fun s => .ok s.journal : NativeProg W G _).run s = (.ok none, s) :=
      congrArg (fun o => (Except.ok o, s)) hj
    change (activator.recover (clock 0)).run s = _
    unfold recover
    rw [run_ensure_bind (hnow.trans hlater), run_bind_of_ok hread]
    exact hrun

/-- With the journal the recovery comes to an end when the roots are untouched, or the candidate is
healthy. -/
theorem finishes_with_journal
    (hruntime : activator.runtime.Steady activator.policy candidate s₀.current)
    (h : s.Course activator.policy candidate s₀ nowMs) (hlater : nowMs ≤ clock 0)
    (hj : s.journal = some j) (hrecoverable : activator.Recoverable candidate s₀ s) :
    ∃ s', activator.Finishes clock s s' ∧
      (s'.roots = s₀.passedRoots candidate ∨ s'.roots = s₀.failedRoots) := by
  have hcourse := h.later hlater
  obtain ⟨g, hcourse', hrun⟩ := recover_resumes hstore hcourse hj
  have hunfinished := course_unfinished hcourse' hj
  have hreturns : (activator.resume j (clock 0)).Returns (fun outcome s' =>
      outcome ≠ .activated → s'.lastKnownGood = s₀.lastKnownGood) { s with store := g } := by
    rcases hrecoverable with ⟨hcurrent, hgood⟩ | ⟨hnone, -⟩ | ⟨⟨j', hj', hphase⟩, hanswer⟩
    · rw [← hgood]
      exact resume_returns hstore hruntime hunfinished hcurrent
    · cases hnone.symm.trans hj
    · cases hj.symm.trans hj'
      rw [resume_eq_judge (by simp [hphase]) (by simp [hphase])]
      exact (judgeCandidate_healthy hstore hruntime.toReverts hunfinished hphase hanswer
        h.standing.current.symm).mono fun _ _ h hother => (hother h).elim
  obtain ⟨outcome, s', hresume, hgood⟩ := hreturns
  have hrecover : (activator.recover (clock 0)).run s = (.ok (some outcome), s') := by
    rw [hrun, hresume]
    rfl
  obtain ⟨hactivated, hother⟩ := recover_roots hcourse le_rfl hj hrecover
  refine ⟨s', .inr ⟨0, outcome, hrecover⟩, ?_⟩
  by_cases ho : outcome = .activated
  · exact .inl (hactivated ho)
  · exact .inr (hother ho (hgood ho))

end Recovering

end NativeReleaseActivator

/-! ### Result -/

/-- An interrupted activation is brought to the end of an uninterrupted one exactly when the last
interruption leaves it recoverable. -/
theorem interrupted_activation_recovers_iff (activator : NativeReleaseActivator W G)
    {candidate : EvidenceDigest} {s₀ s : NativeState W G} {nowMs : Int} {clock : Nat → Int}
    (h₀ : s₀.Idle) (hroot : activator.Rooted candidate s₀.store)
    (hstore : activator.registry.Serves activator.policy candidate s₀.current)
    (hruntime : activator.runtime.Steady activator.policy candidate s₀.current)
    (h : activator.Interrupted candidate s₀ nowMs s) (hlater : nowMs ≤ clock 0)
    (hclock : Monotone clock) :
    (∃ s', activator.Finishes clock s s' ∧ activator.Uninterrupted candidate s₀ s'.roots) ↔
      activator.Recoverable candidate s₀ s := by
  have hcourse := h.course h₀
  simp only [uninterrupted_iff h₀ hstore hroot]
  constructor
  · rintro ⟨s', hfinishes, hroots⟩
    by_contra hnot
    have hlost := lost_of_not_recoverable hruntime hcourse hnot
    obtain ⟨hpassed, hfailed⟩ :=
      never_finishes hstore hcourse hlater hclock hlost hfinishes
    exact hroots.elim hpassed hfailed
  · intro hrecoverable
    rcases hj : s.journal with _ | j
    · obtain ⟨s', hfinishes, hroots⟩ :=
        finishes_without_journal hstore hcourse hlater hj
      refine ⟨s', hfinishes, ?_⟩
      have hlink := hcourse.consistent.idle hj
      rw [hroots]
      rcases hrecoverable with ⟨hcurrent, hgood⟩ | ⟨-, hcurrent⟩ | ⟨⟨j, hj', -⟩, -⟩
      · right
        simp only [roots, failedRoots, hlink, hcurrent, hgood]
      · exact .inl (hcourse.standing.passed (hlink.trans hcurrent) hcurrent)
      · cases hj.symm.trans hj'
    · exact finishes_with_journal hstore hruntime hcourse hlater hj
        hrecoverable

namespace NativeSample

/-- Release 2 is linked, restarted and healthy; its activation is killed between the write of the
current-release root and the removal of the journal. -/
def committing (answers : List Bool) : NativeState (List Bool) Unit :=
  ⟨some (journal .candidateRestarted 10), some 2, some 2, some 1, some 2, .healthy (some 2),
    answers, ()⟩

theorem committing_interrupted (answers : List Bool) (h : answers = [] ∨ answers = [false]) :
    activator.Interrupted 2 (serving (true :: answers)) 10 (committing answers) := by
  refine .activated 10 ?_
  rcases h with rfl | rfl <;> decide +kernel

theorem runtime_steady {policy : ManagedNativeRuntimePolicy} :
    runtime.Steady policy 2 (some 1) where
  restart _ _ _ := rfl
  healthy release w h := by
    cases h
    rfl
  stop _ := rfl
  starts _ := rfl
  answers _ := ⟨_, rfl⟩

/-- The candidate is unhealthy when the recovery asks it again: the recovery conflicts with the
committed root for ever. -/
theorem relapse_never_recovers : (serving [true, false]).Idle ∧ activator.Rooted 2 () ∧
    activator.registry.Serves activator.policy 2 (some 1) ∧
    activator.runtime.Steady activator.policy 2 (some 1) ∧
    activator.Interrupted 2 (serving [true, false]) 10 (committing [false]) ∧
    ¬ ∃ s', activator.Finishes (fun _ => 10) (committing [false]) s' ∧
      activator.Uninterrupted 2 (serving [true, false]) s'.roots := by
  have h₀ := serving_idle [true, false]
  have hserves : activator.registry.Serves activator.policy 2 (serving [true, false]).current :=
    sample_serves
  have hroot : activator.Rooted 2 (serving [true, false]).store := rfl
  have hinterrupted := committing_interrupted [false] (.inr rfl)
  refine ⟨h₀, rfl, sample_serves, runtime_steady, hinterrupted, ?_⟩
  rintro ⟨s', hfinishes, huninterrupted⟩
  have hrelapsed : activator.Relapsed (serving [true, false]) (committing [false]) :=
    ⟨by decide, ⟨_, rfl, rfl⟩, rfl⟩
  obtain ⟨hpassed, hfailed⟩ := never_finishes hserves
    (hinterrupted.course h₀) le_rfl monotone_const (.inr hrelapsed) hfinishes
  exact ((uninterrupted_iff h₀ hserves hroot).mp huninterrupted).elim hpassed hfailed

theorem healthy_candidate_recovers : activator.Interrupted 2 (serving [true]) 10 (committing []) ∧
    ∃ s', activator.Finishes (fun _ => 10) (committing []) s' ∧
      activator.Uninterrupted 2 (serving [true]) s'.roots :=
  ⟨committing_interrupted [] (.inl rfl),
    (interrupted_activation_recovers_iff activator (serving_idle [true]) rfl sample_serves
      runtime_steady (committing_interrupted [] (.inl rfl)) le_rfl monotone_const).mpr
      (.inr (.inr ⟨⟨_, rfl, rfl⟩, rfl⟩))⟩

end NativeSample

end Rdashboard
