import Mathlib
import Rdashboard.NativeRelease.Progress

/-! # Native activations end in a consistent state

For every sequence of `activate` and `recover` calls, each killed between any two of its steps or
run to its end, and for every behaviour of the service runtime and of the registry's store: what an
outcome says holds, the current-release root follows a healthy candidate, and the link never leaves
the two releases of an unfinished activation. -/

namespace Rdashboard

open Interleaving NativeReleaseActivator

variable {W G : Type}

theorem native_activation_consistent (activator : NativeReleaseActivator W G)
    {s₀ s : NativeState W G} (h₀ : s₀.Idle) (h : History activator.call s₀ s) :
    (∀ i outcome s', (activator.call i).run s = (.ok (some outcome), s') →
      ∃ candidate, i.candidate s = some candidate ∧ s'.Ended candidate s.previousRelease outcome) ∧
    (∀ i s₁ s₂, (activator.call i).Takes s s₁ s₂ → s₂.current ≠ s₁.current →
      ∃ j, s₁.journal = some j ∧ s₂.current = some j.candidate ∧
        s₁.link = some j.candidate ∧ s₁.unit = .healthy (some j.candidate)) ∧
    (∀ j, s.journal = some j → ∀ release, s.link = some release →
      j.previous = some release ∨ j.candidate = release) := by
  have hs := history_consistent h₀ h
  have hcall := fun i => call_through i hs
  refine ⟨fun i outcome s' hrun => ?_, fun i s₁ s₂ htakes hmoved => ?_,
    fun j hj release hlink => ?_⟩
  · have hend := (hcall i).run
    rw [hrun] at hend
    exact hend _ rfl outcome rfl
  · obtain ⟨hs₁, hstep⟩ := (hcall i).takes (fun _ _ hs hstep => hstep.consistent hs) hs htakes
    cases hstep with
    | promoted j hj hphase hreported =>
      have hstage := hs₁.stage j hj
      simp only [NativeState.Stage, hphase] at hstage
      exact ⟨j, hj, rfl, hstage.1, hreported.healthy hstage.2⟩
    | _ => exact (hmoved rfl).elim
  · rcases hs.link hj with hprevious | hcandidate
    · exact .inl (hprevious.symm.trans hlink)
    · exact .inr (Option.some.inj (hcandidate.symm.trans hlink))

namespace NativeSample

def policy : ManagedNativeRuntimePolicy where
  projectId := ⟨"demo", by decide +kernel⟩
  target := ⟨"x86_64", by decide +kernel⟩
  releaseInterface := ⟨"http", by decide +kernel⟩
  entrypoint := "bin/demo"
  runtimeContractDigest := 7
  healthExpectedStatus := 200
  healthTimeoutMs := 5000
  policyDigest := 9
  status_valid := by decide
  timeout_valid := by decide

/-- A store that has every release and every view. -/
def store : ReleaseStore Unit where
  readDescriptor _ g := (.ok ⟨policy.projectId, policy.target, policy.releaseInterface,
    policy.entrypoint, policy.runtimeContractDigest⟩, g)
  readClosure _ g := (.ok (), g)
  candidateRootArtifact _ g := (.ok (), g)
  removeCandidateRoot _ g := (.ok (), g)
  validateTarget _ g := (.ok (), g)
  buildView _ g := (.ok (), g)

theorem sample_serves : store.Serves policy 2 (some 1) where
  descriptor _ _ _ := ⟨_, rfl, rfl⟩
  closure _ := rfl
  root _ := .inl rfl
  unroot _ := rfl
  target _ _ _ := rfl
  view _ _ _ := rfl

/-- A service whose release 1 is healthy; the answers about other releases are those of a list, and
healthy after it. -/
def runtime : NativeReleaseRuntime (List Bool) where
  restart _ w := (.ok (), w)
  stop w := (.ok (), w)
  healthy _ link w := if link = some 1 then (.ok true, w) else (.ok (w.headD true), w.tail)

def activator : NativeReleaseActivator (List Bool) Unit := ⟨store, policy, runtime⟩

/-- Release 1 is in service. -/
def serving (answers : List Bool) : NativeState (List Bool) Unit :=
  ⟨none, some 1, some 1, none, none, .unknown, answers, ()⟩

theorem serving_idle (answers : List Bool) : (serving answers).Idle := ⟨rfl, rfl, rfl⟩

/-- The journal of the activation of release 2. -/
def journal (phase : ActivationPhase) (updatedAtMs : Int) : NativeReleaseJournal :=
  ⟨policy.projectId, policy.policyDigest, ⟨policy.projectId, 2, some 1⟩, phase, updatedAtMs⟩

/-- The activation of release 2 is killed when the release is linked. -/
def linked : NativeState (List Bool) Unit :=
  { serving [false] with journal := some (journal .candidateLinked 10)
                         link := some 2, recovery := some 2 }

/-- A recovery finds the release unhealthy, and is killed when the link is switched back. -/
def switchedBack : NativeState (List Bool) Unit :=
  { linked with journal := some (journal .rollbackSwitchPending 11)
                link := some 1, unit := .restarted (some 2), runtime := [] }

theorem switchedBack_history : History activator.call (serving [false]) switchedBack := by
  have hlinked : History activator.call (serving [false]) linked :=
    .called (.activate 2 10) .refl (by decide +kernel)
  exact .called (.recover 11) hlinked (by decide +kernel)

/-- The next recovery ends the rollback. -/
theorem rolledBack_consistent : (serving [false]).Idle ∧ ∃ candidate s',
    (NativeCall.recover 12).candidate switchedBack = some candidate ∧
      (activator.call (.recover 12)).run switchedBack = (.ok (some .rolledBack), s') ∧
      s'.Ended candidate (some 1) .rolledBack := by
  have hrun : ((activator.call (.recover 12)).run switchedBack).1 = .ok (some .rolledBack) := by
    decide +kernel
  obtain ⟨candidate, hcandidate, hended⟩ := (native_activation_consistent activator
    (serving_idle [false]) switchedBack_history).1 _ _ _ (Prod.ext hrun rfl)
  exact ⟨serving_idle _, candidate, _, hcandidate, Prod.ext hrun rfl, hended⟩

end NativeSample

end Rdashboard
