import Rdashboard.Properties.NativeActivation

/-! # Candidates that do not come up

A candidate whose unit does not restart, or whose health endpoint keeps answering that it is
unhealthy or something malformed.  The runtime reports the first and the last as errors, which leave
the journal in the phase it was in; the next call asks the same again.  So the candidate is given up
at the first health check without a malformed answer, and not before. -/

namespace Rdashboard

open Interleaving NativeState NativeReleaseActivator Prog

variable {W G : Type}

/-! ### Statement -/

/-- The exchange of a service that is not up: unhealthy or not reachable, or a malformed answer. -/
def HealthExchange.Failed (policy : ManagedNativeRuntimePolicy) (exchange : HealthExchange) : Prop :=
  probeHealth policy exchange = .ok false ∨
    (∃ kind, probeHealth policy exchange = .error (.io kind) ∧ transientHealthError kind = true) ∨
    probeHealth policy exchange = .error .invalidHealthResponse

/-- The unit never restarts with the candidate, or every probe of the candidate fails. -/
def ServiceWorld.KeepsFailing (world : ServiceWorld W) (policy : ManagedNativeRuntimePolicy)
    (candidate : EvidenceDigest) : Prop :=
  (∀ w, systemctl (world.restart (some candidate) w).1 ≠ .ok ()) ∨
    ∀ w, ∀ exchange ∈ (world.exchanges (some candidate) w).1, exchange.Failed policy

/-- The world after `n` restarts of the candidate. -/
def NativeReleaseRuntime.afterRestarts (runtime : NativeReleaseRuntime W)
    (candidate : EvidenceDigest) (w : W) : Nat → W
  | 0 => w
  | n + 1 => (runtime.restart (some candidate) (runtime.afterRestarts candidate w n)).2

/-- The world before the health check number `k` of the candidate, which is restarted in `w`. -/
def NativeReleaseRuntime.beforeCheck (runtime : NativeReleaseRuntime W)
    (policy : ManagedNativeRuntimePolicy) (candidate : EvidenceDigest) (w : W) : Nat → W
  | 0 => (runtime.restart (some candidate) w).2
  | k + 1 => (runtime.healthy policy (some candidate) (runtime.beforeCheck policy candidate w k)).2

/-- The unit restarts, after `m` restarts that failed, and one of the health checks that follow gets
no malformed answer. -/
def ServiceWorld.ReportsUnhealthy (world : ServiceWorld W) (policy : ManagedNativeRuntimePolicy)
    (candidate : EvidenceDigest) (w : W) : Prop :=
  ∃ m, systemctl (world.restart (some candidate)
      ((systemdNativeReleaseRuntime world).afterRestarts candidate w m)).1 = .ok () ∧
    (∀ i < m, systemctl (world.restart (some candidate)
      ((systemdNativeReleaseRuntime world).afterRestarts candidate w i)).1 ≠ .ok ()) ∧
    ∃ k, ∀ exchange ∈ (world.exchanges (some candidate)
        ((systemdNativeReleaseRuntime world).beforeCheck policy candidate
          ((systemdNativeReleaseRuntime world).afterRestarts candidate w m) k)).1,
      probeHealth policy exchange ≠ .error .invalidHealthResponse

/-- The activator with the systemd runtime. -/
abbrev systemdActivator (store : ReleaseStore G) (policy : ManagedNativeRuntimePolicy)
    (world : ServiceWorld W) : NativeReleaseActivator W G :=
  ⟨store, policy, systemdNativeReleaseRuntime world⟩

/-- The state after the first `n` of the calls. -/
def NativeReleaseActivator.called (activator : NativeReleaseActivator W G)
    (calls : Nat → NativeCall) (s : NativeState W G) : Nat → NativeState W G
  | 0 => s
  | n + 1 => ((activator.call (calls n)).run (activator.called calls s n)).2

theorem NativeReleaseActivator.called_succ (activator : NativeReleaseActivator W G)
    (calls : Nat → NativeCall) (s : NativeState W G) (n : Nat) :
    activator.called calls s (n + 1) =
      ((activator.call (calls n)).run (activator.called calls s n)).2 := rfl

/-! ### Health checks -/

/-- A health check of a service that is not up ends without success. -/
theorem healthyWithin_failed {policy : ManagedNativeRuntimePolicy} {exchanges : List HealthExchange}
    (h : ∀ exchange ∈ exchanges, exchange.Failed policy) :
    healthyWithin policy exchanges =
      if ∃ exchange ∈ exchanges, probeHealth policy exchange = .error .invalidHealthResponse then
        .error .invalidHealthResponse
      else .ok false := by
  induction exchanges with
  | nil => simp [healthyWithin]
  | cons exchange rest ih =>
    have ih := ih fun e he => h e (List.mem_cons_of_mem _ he)
    unfold healthyWithin
    rcases h exchange List.mem_cons_self with hprobe | ⟨kind, hprobe, htransient⟩ | hprobe
    · simp [hprobe, ih]
    · simp [hprobe, htransient, ih]
    · simp [hprobe]

/-! ### Calls that leave the activation where it is -/

namespace NativeReleaseActivator

variable {activator : NativeReleaseActivator W G} {candidate : EvidenceDigest} {nowMs : Int}
  {phase : ActivationPhase} {w : W} {s₀ s s' : NativeState W G} {j : NativeReleaseJournal}
variable {error : NativeReleaseError}

/-- The activation of `candidate` over the current release of `s₀` waits in a phase. -/
structure Waits (activator : NativeReleaseActivator W G) (candidate : EvidenceDigest)
    (s₀ : NativeState W G) (phase : ActivationPhase) (nowMs : Int) (w : W) (s : NativeState W G) :
    Prop where
  unfinished : ∃ j, s.Unfinished activator.policy nowMs
    ⟨activator.policy.projectId, candidate, s₀.current⟩ j ∧ j.phase = phase
  current : s.current = s₀.current
  runtime : s.runtime = w

theorem Waits.later {later : Int} (h : activator.Waits candidate s₀ phase nowMs w s)
    (hle : nowMs ≤ later) : activator.Waits candidate s₀ phase later w s := by
  obtain ⟨⟨j, hj, hphase⟩, hcurrent, hruntime⟩ := h
  exact ⟨⟨j, ⟨hj.consistent, hj.journal, hj.activation, hj.clock.trans hle⟩, hphase⟩, hcurrent,
    hruntime⟩

section

variable (hj : s.Unfinished activator.policy nowMs ⟨activator.policy.projectId, candidate, s₀.current⟩ j)
include hj

/-- A restart that fails leaves the candidate linked. -/
theorem resume_fails_to_restart
    (hphase : j.phase = .prepared ∨ j.phase = .candidateLinked) (hcurrent : s.current = s₀.current)
    (hrestart : (activator.runtime.restart (some candidate) s.runtime).1 = .error error) :
    ((activator.resume j nowMs).run s).1 = .error error ∧
      activator.Waits candidate s₀ .candidateLinked nowMs
        (activator.runtime.restart (some candidate) s.runtime).2
        ((activator.resume j nowMs).run s).2 := by
  obtain ⟨j', s', hlinked, hphase', hj', hcurrent', -, hruntime'⟩ := linkCandidate_returns hj hphase
  rw [← hruntime', ← unfinished_link hj' (.inl hphase')] at hrestart ⊢
  have hfailed : activator.restart.run s' = (.error error, { s' with
      unit := .unknown, runtime := (activator.runtime.restart s'.link s'.runtime).2 }) := by
    refine Prod.ext hrestart ?_
    change { s' with unit := if _ then _ else _, runtime := _ } = _
    rw [hrestart, if_neg nofun]
  have hrun : (activator.resume j nowMs).run s = (.error error, { s' with
      unit := .unknown, runtime := (activator.runtime.restart s'.link s'.runtime).2 }) := by
    refine (run_bind_of_ok hlinked).trans (run_bind_of_error ?_)
    unfold restartCandidate
    rw [if_pos hphase']
    exact run_bind_of_error hfailed
  rw [hrun]
  exact ⟨rfl, ⟨j', hj'.step (.restarted j' _ _ hj'.journal (.inl hphase')) rfl, hphase'⟩,
    hcurrent'.trans hcurrent, rfl⟩

/-- A health check that fails leaves the candidate restarted. -/
theorem judge_fails_to_check
    (hphase : j.phase = .candidateRestarted) (hcurrent : s.current = s₀.current)
    (hcheck : (activator.runtime.healthy activator.policy (some candidate) s.runtime).1 =
      .error error) :
    ((activator.judgeCandidate j nowMs).run s).1 = .error error ∧
      activator.Waits candidate s₀ .candidateRestarted nowMs
        (activator.runtime.healthy activator.policy (some candidate) s.runtime).2
        ((activator.judgeCandidate j nowMs).run s).2 := by
  rw [← unfinished_link hj (.inr hphase)] at hcheck ⊢
  have hfailed : activator.healthy.run s = (.error error, { s with
      unit := s.unit.checked (activator.runtime.healthy activator.policy s.link s.runtime).1
      runtime := (activator.runtime.healthy activator.policy s.link s.runtime).2 }) :=
    Prod.ext hcheck rfl
  unfold judgeCandidate
  rw [if_pos hphase, run_bind_of_error hfailed]
  exact ⟨rfl, ⟨j, hj.step (.checked j _ _ hj.journal (.inl hphase)) rfl, hphase⟩, hcurrent, rfl⟩

end

end NativeReleaseActivator

/-! ### Sequences of calls -/

/-- Calls about the activation of `candidate`, the first of them its activation, with a clock that
does not move backwards. -/
structure CallsAbout (candidate : EvidenceDigest) (calls : Nat → NativeCall) : Prop where
  first : ∃ nowMs, 0 ≤ nowMs ∧ calls 0 = .activate candidate nowMs
  about : ∀ n, (calls n).About candidate
  clock : Monotone fun n => (calls n).nowMs

namespace NativeReleaseActivator

variable {activator : NativeReleaseActivator W G} {candidate : EvidenceDigest}
  {s₀ s : NativeState W G} {calls : Nat → NativeCall}

/-- The call resumes the activation of `candidate`, with the journal `j` in `s'`. -/
structure Resumes (activator : NativeReleaseActivator W G) (candidate : EvidenceDigest)
    (s₀ : NativeState W G) (i : NativeCall) (s : NativeState W G) (j : NativeReleaseJournal)
    (s' : NativeState W G) : Prop where
  unfinished : s'.Unfinished activator.policy i.nowMs
    ⟨activator.policy.projectId, candidate, s₀.current⟩ j
  current : s'.current = s₀.current
  run : (activator.call i).run s = (((activator.resume j i.nowMs).run s').1.map some,
    ((activator.resume j i.nowMs).run s').2)

section Calls

variable (hstore : activator.registry.Serves activator.policy candidate s₀.current)
  (hcalls : CallsAbout candidate calls)

include hstore hcalls

theorem later_call_resumes {phase : ActivationPhase} {w : W} {n : Nat}
    (h : activator.Waits candidate s₀ phase (calls n).nowMs w s) :
    ∃ j s', activator.Resumes candidate s₀ (calls (n + 1)) s j s' ∧ j.phase = phase ∧
      s'.runtime = w := by
  obtain ⟨⟨j, hj, hphase⟩, hcurrent, hruntime⟩ := h.later (hcalls.clock n.le_succ)
  obtain ⟨g, hj', hrun⟩ := call_resumes hstore hj (hcalls.about (n + 1))
  exact ⟨j, _, ⟨hj', hcurrent, hrun⟩, hphase, hruntime⟩

variable (h₀ : s₀.Idle) (hroot : activator.Rooted candidate s₀.store)
include h₀ hroot

theorem first_call_resumes :
    ∃ j s', activator.Resumes candidate s₀ (calls 0) s₀ j s' ∧ j.phase = .prepared ∧
      s'.runtime = s₀.runtime := by
  obtain ⟨nowMs, hnow, hfirst⟩ := hcalls.first
  obtain ⟨j, s', hrun, hphase, hj, hcurrent, -, hruntime⟩ :=
    activate_opens hstore ⟨h₀.journal, h₀.link, .inl h₀.recovery⟩ hroot hnow
  rw [hfirst]
  refine ⟨j, s', ⟨hj, hcurrent, ?_⟩, hphase, hruntime⟩
  change (activator.activate candidate nowMs >>= fun outcome => pure (some outcome)).run s₀ = _
  rw [run_bind_pure, hrun]
  rfl

variable (m : Nat) (hfailed : ∀ k < m, ∃ error, (activator.runtime.restart (some candidate)
  (activator.runtime.afterRestarts candidate s₀.runtime k)).1 = .error error)
include hfailed

/-- As long as the restarts fail, each call makes the next one. -/
theorem call_restarts :
    ∃ j s', activator.Resumes candidate s₀ (calls m) (activator.called calls s₀ m) j s' ∧
      (j.phase = .prepared ∨ j.phase = .candidateLinked) ∧
      s'.runtime = activator.runtime.afterRestarts candidate s₀.runtime m := by
  induction m with
  | zero =>
    obtain ⟨j, s', hresumes, hphase, hruntime⟩ := first_call_resumes hstore hcalls h₀ hroot
    exact ⟨j, s', hresumes, .inl hphase, hruntime⟩
  | succ m ih =>
    obtain ⟨j, s', ⟨hj, hcurrent, hrun⟩, hphase, hruntime⟩ :=
      ih fun k hk => hfailed k (hk.trans m.lt_succ_self)
    obtain ⟨error, hrestart⟩ := hfailed m m.lt_succ_self
    rw [← hruntime] at hrestart
    obtain ⟨-, hwaits⟩ := resume_fails_to_restart hj hphase hcurrent hrestart
    have hnext : activator.called calls s₀ (m + 1) =
        ((activator.resume j (calls m).nowMs).run s').2 := by
      rw [called_succ, hrun]
    rw [hruntime] at hwaits
    obtain ⟨j', s'', hresumes, hphase', hruntime'⟩ := later_call_resumes hstore hcalls hwaits
    exact ⟨j', s'', hnext ▸ hresumes, .inr hphase', hruntime'⟩

theorem call_fails_to_restart {error : NativeReleaseError}
    (hrestart : (activator.runtime.restart (some candidate)
      (activator.runtime.afterRestarts candidate s₀.runtime m)).1 = .error error) :
    ((activator.call (calls m)).run (activator.called calls s₀ m)).1 = .error error := by
  obtain ⟨j, s', ⟨hj, hcurrent, hrun⟩, hphase, hruntime⟩ :=
    call_restarts hstore hcalls h₀ hroot m hfailed
  rw [← hruntime] at hrestart
  rw [hrun, (resume_fails_to_restart hj hphase hcurrent hrestart).1]
  rfl

variable (hrestart : (activator.runtime.restart (some candidate)
    (activator.runtime.afterRestarts candidate s₀.runtime m)).1 = .ok ()) (n : Nat)
  (herrors : ∀ k < n, ∃ error, (activator.runtime.healthy activator.policy (some candidate)
    (activator.runtime.beforeCheck activator.policy candidate
      (activator.runtime.afterRestarts candidate s₀.runtime m) k)).1 = .error error)
include hrestart herrors

/-- As long as the health checks end in errors, each call makes the next one. -/
theorem call_judges :
    ∃ j s', s'.Unfinished activator.policy (calls (m + n)).nowMs
        ⟨activator.policy.projectId, candidate, s₀.current⟩ j ∧ j.phase = .candidateRestarted ∧
      s'.current = s₀.current ∧ s'.runtime = activator.runtime.beforeCheck activator.policy candidate
        (activator.runtime.afterRestarts candidate s₀.runtime m) n ∧
      (activator.call (calls (m + n))).run (activator.called calls s₀ (m + n)) =
        (((activator.judgeCandidate j (calls (m + n)).nowMs).run s').1.map some,
          ((activator.judgeCandidate j (calls (m + n)).nowMs).run s').2) := by
  induction n with
  | zero =>
    obtain ⟨j, s', ⟨hj, hcurrent, hrun⟩, hphase, hruntime⟩ :=
      call_restarts hstore hcalls h₀ hroot m hfailed
    rw [← hruntime] at hrestart
    obtain ⟨j', s'', hjudge, hphase', hj', hcurrent', -, hruntime'⟩ :=
      resume_judges hj hphase hrestart
    rw [hjudge] at hrun
    rw [hruntime] at hruntime'
    exact ⟨j', s'', hj', hphase', hcurrent'.trans hcurrent, hruntime', hrun⟩
  | succ n ih =>
    obtain ⟨j, s', hj, hphase, hcurrent, hruntime, hrun⟩ :=
      ih fun k hk => herrors k (hk.trans n.lt_succ_self)
    obtain ⟨error, herror⟩ := herrors n n.lt_succ_self
    rw [← hruntime] at herror
    obtain ⟨-, hwaits⟩ := judge_fails_to_check hj hphase hcurrent herror
    have hnext : activator.called calls s₀ (m + n + 1) =
        ((activator.judgeCandidate j (calls (m + n)).nowMs).run s').2 := by
      rw [called_succ, hrun]
    rw [hruntime] at hwaits
    obtain ⟨j', s'', ⟨hj', hcurrent', hrun'⟩, hphase', hruntime'⟩ :=
      later_call_resumes hstore hcalls hwaits
    rw [resume_eq_judge (by simp [hphase']) (by simp [hphase']), ← hnext] at hrun'
    exact ⟨j', s'', hj', hphase', hcurrent', hruntime', hrun'⟩

theorem call_fails_to_check {error : NativeReleaseError}
    (hcheck : (activator.runtime.healthy activator.policy (some candidate)
      (activator.runtime.beforeCheck activator.policy candidate
        (activator.runtime.afterRestarts candidate s₀.runtime m) n)).1 = .error error) :
    ((activator.call (calls (m + n))).run (activator.called calls s₀ (m + n))).1 = .error error := by
  obtain ⟨j, s, hj, hphase, hcurrent, hworld, hrun⟩ :=
    call_judges hstore hcalls h₀ hroot m hfailed hrestart n herrors
  rw [← hworld] at hcheck
  rw [hrun, (judge_fails_to_check hj hphase hcurrent hcheck).1]
  rfl

/-- The first health check that answers unhealthy ends the activation. -/
theorem call_rejects (hruntime : activator.runtime.Reverts activator.policy s₀.current)
    (hanswer : (activator.runtime.healthy activator.policy (some candidate)
      (activator.runtime.beforeCheck activator.policy candidate
        (activator.runtime.afterRestarts candidate s₀.runtime m) n)).1 = .ok false) :
    ∃ s', (activator.call (calls (m + n))).run (activator.called calls s₀ (m + n)) =
      (.ok (some (.rejection s₀.current)), s') ∧ s'.link = s₀.current := by
  obtain ⟨j, s, hj, hphase, hcurrent, hworld, hrun⟩ :=
    call_judges hstore hcalls h₀ hroot m hfailed hrestart n herrors
  rw [← hworld, ← unfinished_link hj (.inr hphase)] at hanswer
  obtain ⟨_, s', hjudge, rfl, -⟩ :=
    judgeCandidate_unhealthy hstore hruntime hj hphase hanswer hcurrent
  refine ⟨s', hrun.trans ?_, ?_⟩
  · rw [hjudge]
    rfl
  · have h : (activator.judgeCandidate j (calls (m + n)).nowMs).Through
        (NativeStep activator.policy (calls (m + n)).nowMs (fun _ _ => False) True)
        (Ended j.candidate j.previous) s :=
      judgeCandidate_through hj.consistent hj.journal (.inl (.inr trivial))
    have hended := h.run
    rw [hjudge] at hended
    have hprevious : j.previous = s₀.current := by
      rw [NativeReleaseJournal.previous, hj.activation]
    obtain ⟨-, -, hmeans⟩ := hended _ rfl
    rw [hprevious] at hmeans
    cases h₁ : s₀.current with
    | some previous =>
      rw [h₁] at hmeans
      obtain ⟨release, hrelease, hlink, -⟩ := hmeans
      exact hlink.trans hrelease.symm
    | none =>
      rw [h₁] at hmeans
      exact hmeans.2.1

end Calls

end NativeReleaseActivator

/-! ### Result -/

/-- A candidate that does not come up is rejected exactly when its unit restarts at some time and one
of the health checks after that gets no malformed answer. -/
theorem failing_candidate_rejected_iff (store : ReleaseStore G)
    (policy : ManagedNativeRuntimePolicy) (world : ServiceWorld W) {candidate : EvidenceDigest}
    {s₀ : NativeState W G} {calls : Nat → NativeCall} (h₀ : s₀.Idle)
    (hroot : (systemdActivator store policy world).Rooted candidate s₀.store)
    (hstore : store.Serves policy candidate s₀.current)
    (hruntime : (systemdNativeReleaseRuntime world).Reverts policy s₀.current)
    (hfails : world.KeepsFailing policy candidate) (hcalls : CallsAbout candidate calls) :
    (∃ n s', ((systemdActivator store policy world).call (calls n)).run
        ((systemdActivator store policy world).called calls s₀ n) =
          (.ok (some (.rejection s₀.current)), s') ∧ s'.link = s₀.current) ↔
      world.ReportsUnhealthy policy candidate s₀.runtime := by
  let runtime := systemdNativeReleaseRuntime world
  let restarted := runtime.afterRestarts candidate s₀.runtime
  let works k := systemctl (world.restart (some candidate) (restarted k)).1 = .ok ()
  have hrestarts : ∀ k, ¬ works k →
      ∃ error, (runtime.restart (some candidate) (restarted k)).1 = .error error := by
    intro k hk
    rcases h : systemctl (world.restart (some candidate) (restarted k)).1 with error | _
    · exact ⟨error, h⟩
    · exact (hk h).elim
  -- once the unit restarts, a health check ends in an error if one of its answers is malformed
  have hcheck := fun m k (hok : works m) =>
    healthyWithin_failed (hfails.resolve_left (fun h => h _ hok)
      (runtime.beforeCheck policy candidate (restarted m) k))
  have herrors : ∀ m k, works m → ¬ (∀ exchange ∈ (world.exchanges (some candidate)
          (runtime.beforeCheck policy candidate (restarted m) k)).1,
          probeHealth policy exchange ≠ .error .invalidHealthResponse) →
        ∃ error, (runtime.healthy policy (some candidate)
          (runtime.beforeCheck policy candidate (restarted m) k)).1 = .error error := by
    intro m k hok hmalformed
    push Not at hmalformed
    exact ⟨_, (hcheck m k hok).trans (if_pos hmalformed)⟩
  classical
  constructor
  · rintro ⟨n, s', hrun, -⟩
    by_contra hnone
    suffices h : ∃ error, (((systemdActivator store policy world).call (calls n)).run
        ((systemdActivator store policy world).called calls s₀ n)).1 = .error error by
      obtain ⟨error, hresult⟩ := h
      rw [hrun] at hresult
      cases hresult
    by_cases h : ∃ m ≤ n, works m
    · -- the call is a health check after the first restart that succeeded
      obtain ⟨m, ⟨hle, hok⟩, hfirst⟩ : ∃ m, (m ≤ n ∧ works m) ∧ ∀ i < m, ¬ (i ≤ n ∧ works i) :=
        ⟨Nat.find h, Nat.find_spec h, fun i hi => Nat.find_min h hi⟩
      obtain ⟨k, rfl⟩ := Nat.exists_eq_add_of_le hle
      have hbefore := fun i hi hi' => hfirst i hi ⟨hi.le.trans hle, hi'⟩
      have hmalformed := fun k => herrors m k hok fun hk => hnone ⟨m, hok, hbefore, k, hk⟩
      obtain ⟨error, herror⟩ := hmalformed k
      exact ⟨error, call_fails_to_check hstore hcalls h₀ hroot m
        (fun i hi => hrestarts i (hbefore i hi)) hok k (fun i _ => hmalformed i) herror⟩
    · push Not at h
      obtain ⟨error, herror⟩ := hrestarts n (h n le_rfl)
      exact ⟨error, call_fails_to_restart hstore hcalls h₀ hroot n
        (fun k hk => hrestarts k (h k hk.le)) herror⟩
  · rintro ⟨m, hok, hbefore, hreports⟩
    have hk := Nat.find_spec hreports
    refine ⟨m + Nat.find hreports, call_rejects hstore hcalls h₀ hroot m
      (fun i hi => hrestarts i (hbefore i hi)) hok _
      (fun i hi => herrors m i hok (Nat.find_min hreports hi)) hruntime ?_⟩
    refine (hcheck m _ hok).trans (if_neg ?_)
    rintro ⟨exchange, hexchange, hmalformed⟩
    exact hk exchange hexchange hmalformed

namespace NativeSample

/-- `HTTP/1.1 200 OK`, with its line end. -/
def okLine : List UInt8 := [72, 84, 84, 80, 47, 49, 46, 49, 32, 50, 48, 48, 32, 79, 75, 13, 10]

/-- A service that counts its restarts: some of those of release 2 work, and the release refuses the
connections of the health checks. -/
def service (works : Nat → Bool) : ServiceWorld Nat where
  restart link w := (.ok (decide (link ≠ some 2) || works w), w + 1)
  stop w := (.ok true, w)
  exchanges link w :=
    ([if link = some 1 then .answered okLine else .refused .connectionRefused], w)

/-- Release 1 is in service. -/
def inService : NativeState Nat Unit := ⟨none, some 1, some 1, none, none, .unknown, 0, ()⟩

/-- The activation of release 2, and then recoveries. -/
def calls : Nat → NativeCall
  | 0 => .activate 2 10
  | _ + 1 => .recover 10

theorem calls_about : CallsAbout 2 calls where
  first := ⟨10, by decide, rfl⟩
  about n := by cases n <;> trivial
  clock := by
    have h : (fun n => (calls n).nowMs) = fun _ => 10 := by
      funext n
      cases n <;> rfl
    rw [h]
    exact monotone_const

theorem service_reverts (works : Nat → Bool) :
    (systemdNativeReleaseRuntime (service works)).Reverts policy (some 1) where
  restart release w h := by
    cases h
    rfl
  healthy release w h := by
    cases h
    have hcheck : healthyWithin policy [.answered okLine] = .ok true := by decide +kernel
    exact hcheck
  stop _ := rfl

/-- The unit never restarts with release 2: no call ever returns an outcome. -/
theorem unstartable_candidate_stays :
    inService.Idle ∧ (systemdActivator store policy (service fun _ => false)).Rooted 2 () ∧
    store.Serves policy 2 (some 1) ∧
    (systemdNativeReleaseRuntime (service fun _ => false)).Reverts policy (some 1) ∧
    (service fun _ => false).KeepsFailing policy 2 ∧ CallsAbout 2 calls ∧
    ¬ ∃ n s', ((systemdActivator store policy (service fun _ => false)).call (calls n)).run
        ((systemdActivator store policy (service fun _ => false)).called calls inService n) =
          (.ok (some (.rejection (some 1))), s') ∧ s'.link = some 1 := by
  refine ⟨⟨rfl, rfl, rfl⟩, rfl, sample_serves, service_reverts _, .inl fun _ => nofun,
    calls_about, ?_⟩
  rintro ⟨n, s', hrun, -⟩
  have hserves : (systemdActivator store policy (service fun _ => false)).registry.Serves policy 2
      inService.current := sample_serves
  have hresult := call_fails_to_restart hserves calls_about ⟨rfl, rfl, rfl⟩ rfl n
    (fun _ _ => ⟨_, rfl⟩) rfl
  rw [hrun] at hresult
  cases hresult

/-- The first restart with release 2 fails, the next one works. -/
theorem unhealthy_candidate_rejected : (service (· ≠ 0)).KeepsFailing policy 2 ∧
    ∃ n s', ((systemdActivator store policy (service (· ≠ 0))).call (calls n)).run
        ((systemdActivator store policy (service (· ≠ 0))).called calls inService n) =
          (.ok (some (.rejection (some 1))), s') ∧ s'.link = some 1 := by
  have hfails : (service (· ≠ 0)).KeepsFailing policy 2 := by
    refine .inr fun _ exchange hexchange => .inl ?_
    cases List.mem_singleton.mp hexchange
    rfl
  refine ⟨hfails, (failing_candidate_rejected_iff store policy _ ⟨rfl, rfl, rfl⟩ rfl sample_serves
    (service_reverts _) hfails calls_about).mpr ⟨1, rfl, fun i hi => ?_, 0, fun exchange h => ?_⟩⟩
  · cases Nat.lt_one_iff.mp hi
    exact nofun
  · cases List.mem_singleton.mp h
    exact nofun

end NativeSample

end Rdashboard
