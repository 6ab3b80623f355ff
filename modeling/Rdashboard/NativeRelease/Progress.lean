import Rdashboard.NativeRelease.Consistency

/-! # Calls that come to an end

When the registry's store serves the two releases of an activation and the service manager can put
the previous release back, nothing but the answers about the candidate decides how a call goes on:
the branches of `resume` that roll back return their outcome, and the others go as far as the
candidate comes up. -/

namespace Rdashboard

open Interleaving NativeState NativeReleaseJournal Prog TitaniumRegistry Option NativeReleaseOutcome

variable {W G : Type}

/-! ### Assumptions -/

/-- The descriptor is that of a release under the policy. -/
def TitaniumReleaseDescriptor.Fits (policy : ManagedNativeRuntimePolicy)
    (descriptor : TitaniumReleaseDescriptor) : Prop :=
  descriptor = ⟨policy.projectId, policy.target, policy.releaseInterface, policy.entrypoint,
    policy.runtimeContractDigest⟩

/-- The store has the two releases, and only the candidate root may be missing. -/
structure ReleaseStore.Serves (store : ReleaseStore G) (policy : ManagedNativeRuntimePolicy)
    (candidate : EvidenceDigest) (previous : Option EvidenceDigest) : Prop where
  descriptor : ∀ d g, d = candidate ∨ previous = some d →
    ∃ descriptor, (store.readDescriptor d g).1 = .ok descriptor ∧ descriptor.Fits policy
  closure : ∀ g, (store.readClosure candidate g).1 = .ok ()
  root : ∀ g, (store.candidateRootArtifact candidate g).1 = .ok () ∨
    (store.candidateRootArtifact candidate g).1 = .error (.io .notFound)
  unroot : ∀ g, (store.removeCandidateRoot candidate g).1 = .ok ()
  target : ∀ d g, d = candidate ∨ previous = some d → (store.validateTarget d g).1 = .ok ()
  view : ∀ d g, d = candidate ∨ previous = some d → (store.buildView d g).1 = .ok ()

/-- The previous release can be put back: it restarts and is healthy, and the unit can be stopped. -/
structure NativeReleaseRuntime.Reverts (runtime : NativeReleaseRuntime W)
    (policy : ManagedNativeRuntimePolicy) (previous : Option EvidenceDigest) : Prop where
  restart : ∀ release w, previous = some release → (runtime.restart (some release) w).1 = .ok ()
  healthy : ∀ release w, previous = some release →
    (runtime.healthy policy (some release) w).1 = .ok true
  stop : ∀ w, (runtime.stop w).1 = .ok ()

/-! ### The registry -/

namespace NativeState

variable {s : NativeState W G}

theorem put_returns {ε : Type} {f : NativeState W G → NativeState W G} :
    (put f : Prog (NativeState W G) ε Unit).Returns (fun _ s' => s' = f s) s :=
  .atomic rfl rfl

theorem returns_put {ε α : Type} {f : NativeState W G → NativeState W G} {P : α → NativeState W G → Prop}
    {k : Unit → Prog (NativeState W G) ε α} (h : (k ()).Returns P (f s)) :
    (put f >>= k).Returns P s := .bind (.atomic rfl h)

theorem askStore_returns {ε α : Type} {question : G → Except ε α × G} {a : α}
    (h : (question s.store).1 = .ok a) :
    (askStore question).Returns (fun b s' => b = a ∧ s.Asks s') s :=
  .atomic h ⟨rfl, _, rfl⟩

end NativeState

namespace TitaniumRegistry

variable {store : ReleaseStore G} {policy : ManagedNativeRuntimePolicy} {candidate : EvidenceDigest}
  {previous : Option EvidenceDigest} {activation : TitaniumReleaseActivation}
  {s : NativeState W G}

theorem writeRoot_returns {digest : EvidenceDigest} {write : NativeState W G → NativeState W G}
    (h : ∀ g, (store.validateTarget digest g).1 = .ok ()) :
    (writeRoot store digest write).Returns
      (fun _ s' => ∃ g, s' = write { s with store := g }) s := by
  refine .bind ((askStore_returns (h _)).mono ?_)
  rintro _ _ ⟨-, g, rfl⟩
  exact put_returns.mono fun _ _ h => ⟨g, h⟩

theorem finalizeReleaseActivation_returns {committed : Bool}
    (hstore : store.Serves policy activation.candidateArtifact previous)
    (hrecovery : s.recovery = some activation.candidateArtifact)
    (hcommitted : committed = true → s.current = some activation.candidateArtifact)
    (haborted : committed = false → s.current = activation.previousCurrentArtifact) :
    (finalizeReleaseActivation store activation committed).Returns
      (fun _ s' => ∃ g, s' = { s with recovery := none, store := g }) s := by
  refine .read_bind ?_
  refine .bind (.ensure ⟨hrecovery, hcommitted, haborted⟩ ?_)
  -- the root of the candidate is there or already gone
  have hroot : (requireCandidateRoot store activation.candidateArtifact).Returns
      (fun _ s' => s.Asks s') s := by
    have hrun : (askStore (store.candidateRootArtifact activation.candidateArtifact)).run s =
        ((store.candidateRootArtifact activation.candidateArtifact s.store).1,
          { s with store := (store.candidateRootArtifact activation.candidateArtifact s.store).2 }) :=
      rfl
    refine .bind (.attempt ?_)
    rw [hrun]
    rcases hstore.root s.store with hroot | hroot
    all_goals
      rw [hroot]
      exact .pure ⟨_, rfl⟩
  refine .bind (hroot.mono ?_)
  rintro _ _ ⟨_, rfl⟩
  refine .bind ((askStore_returns (hstore.unroot _)).mono ?_)
  rintro _ _ ⟨-, g, rfl⟩
  exact put_returns.mono fun _ _ h => ⟨g, h⟩

/-- A commit writes the roots that are not written yet. -/
theorem commitReleaseActivation_returns
    (hstore : store.Serves policy activation.candidateArtifact activation.previousCurrentArtifact)
    (hrecovery : s.recovery = some activation.candidateArtifact)
    (hcurrent : s.current = some activation.candidateArtifact ∨
      s.current = activation.previousCurrentArtifact) :
    (commitReleaseActivation store activation).Returns (fun _ s' => ∃ lastKnownGood g, s' = { s with
      current := some activation.candidateArtifact, lastKnownGood, store := g }) s := by
  refine .read_bind ?_
  dsimp only
  rw [if_neg (by simp [hrecovery])]
  refine .bind (.ensure hrecovery (.bind (.ensure hcurrent ?_)))
  split_ifs with hswitched
  · refine .pure ⟨s.lastKnownGood, s.store, ?_⟩
    rw [← hswitched]
  · have hremembered : (writeLastKnownGood store activation).Returns
        (fun _ s' => ∃ lastKnownGood g, s' = { s with lastKnownGood, store := g }) s := by
      unfold writeLastKnownGood
      split
      · rename_i previous hprevious
        split_ifs
        · exact .pure ⟨s.lastKnownGood, s.store, rfl⟩
        · refine (writeRoot_returns fun g => hstore.target previous g (.inr hprevious)).mono ?_
          rintro _ _ ⟨g, rfl⟩
          exact ⟨some previous, g, rfl⟩
      · exact .pure ⟨s.lastKnownGood, s.store, rfl⟩
    refine .bind (hremembered.mono ?_)
    rintro _ _ ⟨lastKnownGood, g, rfl⟩
    refine (writeRoot_returns fun g => hstore.target _ g (.inl rfl)).mono ?_
    rintro _ _ ⟨g, rfl⟩
    exact ⟨lastKnownGood, g, rfl⟩

theorem beginReleaseActivation_returns (hstore : store.Serves policy candidate previous)
    (hroot : (store.candidateRootArtifact candidate s.store).1 = .ok ())
    (hrecovery : s.recovery = none ∨ s.recovery = some candidate) :
    (beginReleaseActivation store policy.projectId candidate).Returns
      (fun activation s' => activation = ⟨policy.projectId, candidate, s.current⟩ ∧
        ∃ g, s' = { s with recovery := some candidate, store := g }) s := by
  refine .bind ((askStore_returns hroot).mono ?_)
  rintro _ _ ⟨-, g, rfl⟩
  obtain ⟨descriptor, hread, rfl⟩ := hstore.descriptor candidate g (.inl rfl)
  refine .bind ((askStore_returns hread).mono ?_)
  rintro _ _ ⟨rfl, g', rfl⟩
  refine .bind (.ensure rfl (.read_bind (.bind (.ensure hrecovery ?_))))
  refine .bind ((writeRoot_returns fun g => hstore.target candidate g (.inl rfl)).mono ?_)
  rintro _ _ ⟨g, rfl⟩
  exact .pure ⟨rfl, g, rfl⟩

end TitaniumRegistry

/-! ### Journals -/

namespace NativeReleaseJournal

variable {policy : ManagedNativeRuntimePolicy} {j : NativeReleaseJournal} {nowMs : Int}

/-- The journal after an `advance`. -/
def moved (j : NativeReleaseJournal) (phase : ActivationPhase) (nowMs : Int) :
    NativeReleaseJournal :=
  { j with phase, updatedAtMs := nowMs }

theorem validate_ok (h : j.Valid policy) : j.validate policy = .ok () := Check.ensure_ok_iff.mpr h

theorem Valid.moved (h : j.Valid policy) (hclock : j.updatedAtMs ≤ nowMs)
    (phase : ActivationPhase) : (j.moved phase nowMs).Valid policy :=
  ⟨h.1, h.2.1, h.2.2.1, h.2.2.2.trans hclock⟩

theorem Valid.setPhase (h : j.Valid policy) (hclock : j.updatedAtMs ≤ nowMs)
    (phase : ActivationPhase) : j.setPhase policy phase nowMs = .ok (j.moved phase nowMs) := by
  simp only [NativeReleaseJournal.setPhase, Check.ok_iff]
  exact ⟨(), hclock, (), validate_ok (h.moved hclock phase), rfl⟩

end NativeReleaseJournal

/-- The activation is unfinished, with the journal `j`, when a call at `nowMs` resumes it. -/
structure NativeState.Unfinished (policy : ManagedNativeRuntimePolicy) (nowMs : Int)
    (activation : TitaniumReleaseActivation) (j : NativeReleaseJournal) (s : NativeState W G) :
    Prop where
  consistent : s.Consistent policy
  journal : s.journal = some j
  activation : j.activation = activation
  clock : j.updatedAtMs ≤ nowMs

theorem NativeState.Unfinished.step {policy : ManagedNativeRuntimePolicy} {nowMs : Int}
    {activation : TitaniumReleaseActivation} {j : NativeReleaseJournal} {s s' : NativeState W G}
    (hj : s.Unfinished policy nowMs activation j)
    (h : NativeStep policy nowMs (fun _ _ => False) True s s') (hs : s'.journal = s.journal) :
    s'.Unfinished policy nowMs activation j :=
  ⟨h.consistent hj.consistent, hs.trans hj.journal, hj.activation, hj.clock⟩

/-- The outcome of an activation whose candidate is rejected. -/
def NativeReleaseOutcome.rejection : Option EvidenceDigest → NativeReleaseOutcome
  | some _ => .rolledBack
  | none => .rejectedFirstRelease

/-- The phases in which the candidate is given up. -/
def ActivationPhase.Rejecting (phase : ActivationPhase) : Prop :=
  phase = .rollbackSwitchPending ∨ phase = .rollbackLinked ∨ phase = .rollbackRestarted ∨
    phase = .firstRejectionPending

/-! ### Rolling back -/

namespace NativeReleaseActivator

variable {activator : NativeReleaseActivator W G} {s : NativeState W G} {j : NativeReleaseJournal}
  {nowMs : Int} {activation : TitaniumReleaseActivation}
variable {candidate : EvidenceDigest}

theorem advance_returns {phase : ActivationPhase}
    (hj : s.Unfinished activator.policy nowMs activation j) (h : s.Advances True j phase) :
    (activator.advance j phase nowMs).Returns (fun j' s' => j' = j.moved phase nowMs ∧
      s' = { s with journal := some j' } ∧
      s'.Unfinished activator.policy nowMs activation j') s := by
  have hvalid := hj.consistent.valid j hj.journal
  refine .bind (.lift (hvalid.setPhase hj.clock phase) (.bind (.bind (.lift
    (validate_ok (hvalid.moved hj.clock phase)) (put_returns.mono ?_)))))
  rintro _ _ rfl
  have hstep : NativeStep activator.policy nowMs (fun _ _ => False) True s
      { s with journal := some (j.moved phase nowMs) } := .advanced j phase hj.journal h hj.clock
  exact .pure ⟨rfl, rfl, hstep.consistent hj.consistent, rfl, hj.activation, le_rfl⟩

/-- The journal is removed, and then the recovery root. -/
theorem conclude_returns {committed : Bool}
    (hstore : activator.registry.Serves activator.policy j.candidate j.previous)
    (hrecovery : s.recovery = some j.candidate)
    (hcommitted : committed = true → s.current = some j.candidate)
    (haborted : committed = false → s.current = j.previous) :
    (activator.conclude j committed).Returns (fun _ s' => ∃ g,
      s' = { s with journal := none, recovery := none, store := g }) s := by
  exact returns_put (.mapError (finalizeReleaseActivation_returns hstore hrecovery hcommitted haborted))

theorem abort_returns {outcome : NativeReleaseOutcome}
    (hstore : activator.registry.Serves activator.policy j.candidate j.previous)
    (hrecovery : s.recovery = some j.candidate) (hcurrent : s.current = j.previous) :
    (do
      mapError .titanium (abortReleaseActivation j.activation)
      activator.conclude j false
      pure outcome : NativeProg W G NativeReleaseOutcome).Returns
        (fun o s' => o = outcome ∧ s'.lastKnownGood = s.lastKnownGood) s := by
  have habort : (abortReleaseActivation j.activation).Returns (fun _ s' => s' = s) s :=
    .read_bind (.bind (.ensure hrecovery (.ensure hcurrent rfl)))
  refine .bind (.mapError (habort.mono ?_))
  rintro _ _ rfl
  refine .bind ((conclude_returns hstore hrecovery (fun h => by cases h) fun _ => hcurrent).mono ?_)
  rintro _ _ ⟨g, rfl⟩
  exact .pure ⟨rfl, rfl⟩

theorem linkPrevious_returns (hj : s.Unfinished activator.policy nowMs activation j)
    (hphase : j.phase.Rejecting) :
    (activator.linkPrevious j nowMs).Returns (fun j' s' =>
      s'.Unfinished activator.policy nowMs activation j' ∧ j'.phase.Rejecting ∧
      j'.phase ≠ .rollbackSwitchPending ∧ s'.current = s.current ∧
      s'.lastKnownGood = s.lastKnownGood) s := by
  unfold linkPrevious
  split_ifs with hpending
  · have hstage := hj.consistent.stage j hj.journal
    simp only [Stage, hpending] at hstage
    obtain ⟨previous, hprevious⟩ := ne_none_iff_exists'.1 hstage.1
    split
    · rename_i hnone
      exact (hstage.1 hnone).elim
    · rename_i release hrelease
      cases hprevious.symm.trans hrelease
      refine returns_put ((advance_returns
        (hj.step (.linked j previous hj.journal (.inr ⟨hpending, hprevious⟩)) rfl)
        (.rollbackLinked hpending hstage.1 hprevious.symm)).mono ?_)
      rintro _ _ ⟨rfl, rfl, hj'⟩
      exact ⟨hj', .inr (.inl rfl), ActivationPhase.noConfusion, rfl, rfl⟩
  · exact .pure ⟨hj, hphase, hpending, rfl, rfl⟩

section Reverting

variable (hstore : activator.registry.Serves activator.policy activation.candidateArtifact
  activation.previousCurrentArtifact)
  (hruntime : activator.runtime.Reverts activator.policy activation.previousCurrentArtifact)

include hruntime

theorem restartPrevious_returns (hj : s.Unfinished activator.policy nowMs activation j)
    (hphase : j.phase.Rejecting) (hlinked : j.phase ≠ .rollbackSwitchPending) :
    (activator.restartPrevious j nowMs).Returns (fun j' s' =>
      s'.Unfinished activator.policy nowMs activation j' ∧
      (j'.phase = .rollbackRestarted ∨ j'.phase = .firstRejectionPending) ∧
      s'.current = s.current ∧ s'.lastKnownGood = s.lastKnownGood) s := by
  unfold restartPrevious
  split_ifs with hlink
  · have hstage := hj.consistent.stage j hj.journal
    simp only [Stage, hlink] at hstage
    obtain ⟨previous, hprevious⟩ := ne_none_iff_exists'.1 hstage.1
    have hrestart : (activator.runtime.restart s.link s.runtime).1 = .ok () := by
      rw [hstage.2, hprevious]
      exact hruntime.restart previous _ (hj.activation ▸ hprevious)
    refine .bind (.atomic hrestart ?_)
    dsimp only
    rw [if_pos hrestart]
    refine (advance_returns (hj.step (.restarted j (.restarted s.link) _ hj.journal (.inr hlink)) rfl)
      (.rollbackRestarted hlink rfl)).mono ?_
    rintro _ _ ⟨rfl, rfl, hj'⟩
    exact ⟨hj', .inl rfl, rfl, rfl⟩
  · refine .pure ⟨hj, ?_, rfl, rfl⟩
    rcases hphase with h | h | h | h
    exacts [(hlinked h).elim, (hlink h).elim, .inl h, .inr h]

include hstore

theorem rejectCandidate_returns (hj : s.Unfinished activator.policy nowMs activation j)
    (hphase : j.phase = .rollbackRestarted ∨ j.phase = .firstRejectionPending)
    (hcurrent : s.current = activation.previousCurrentArtifact) :
    (activator.rejectCandidate j).Returns (fun outcome s' =>
      outcome = .rejection activation.previousCurrentArtifact ∧
      s'.lastKnownGood = s.lastKnownGood) s := by
  obtain ⟨hconsistent, hjournal, rfl, -⟩ := hj
  have hstage := hconsistent.stage j hjournal
  have hrecovery := hconsistent.recovery j hjournal
  unfold rejectCandidate
  rcases hphase with hphase | hphase
  · simp only [Stage, hphase] at hstage
    obtain ⟨previous, hprevious⟩ := ne_none_iff_exists'.1 hstage.1
    have houtcome : rejection j.activation.previousCurrentArtifact =
        .rolledBack := congrArg rejection hprevious
    rw [if_pos hphase, houtcome]
    refine .bind (.atomic ?_ (.bind (.ensure rfl ?_)))
    · rw [hstage.2.1, hprevious]
      exact hruntime.healthy previous _ hprevious
    · exact abort_returns hstore hrecovery hcurrent
  · simp only [Stage, hphase] at hstage
    have houtcome : rejection j.activation.previousCurrentArtifact =
        .rejectedFirstRelease := congrArg rejection hstage.1
    rw [if_neg (by simp [hphase]), if_pos hphase, houtcome]
    refine .bind (.ensure hstage.1 (.bind (.atomic (hruntime.stop _) ?_)))
    exact returns_put (abort_returns hstore hrecovery hcurrent)

/-- A rejected candidate leaves the previous release in service and the other roots alone. -/
theorem rollBack_returns (hj : s.Unfinished activator.policy nowMs activation j)
    (hphase : j.phase.Rejecting) (hcurrent : s.current = activation.previousCurrentArtifact) :
    (activator.rollBack j nowMs).Returns (fun outcome s' =>
      outcome = .rejection activation.previousCurrentArtifact ∧
      s'.lastKnownGood = s.lastKnownGood) s := by
  refine .bind ((linkPrevious_returns hj hphase).mono ?_)
  rintro j₁ s₁ ⟨hj₁, hphase₁, hlinked, hcurrent₁, hgood₁⟩
  refine .bind ((restartPrevious_returns hruntime hj₁ hphase₁ hlinked).mono ?_)
  rintro j₂ s₂ ⟨hj₂, hphase₂, hcurrent₂, hgood₂⟩
  rw [← hgood₁, ← hgood₂]
  exact rejectCandidate_returns hstore hruntime hj₂ hphase₂
    (hcurrent₂.trans (hcurrent₁.trans hcurrent))

/-! ### The candidate -/

theorem judgeCandidate_healthy (hj : s.Unfinished activator.policy nowMs activation j)
    (hphase : j.phase = .candidateRestarted)
    (hanswer : (activator.runtime.healthy activator.policy s.link s.runtime).1 = .ok true)
    (hcurrent : s.current = some activation.candidateArtifact ∨
      s.current = activation.previousCurrentArtifact) :
    (activator.judgeCandidate j nowMs).Returns (fun outcome _ => outcome = .activated) s := by
  obtain ⟨hconsistent, hjournal, rfl, -⟩ := hj
  have hrecovery := hconsistent.recovery j hjournal
  unfold judgeCandidate
  rw [if_pos hphase]
  refine .bind (.atomic hanswer ?_)
  refine .bind (.mapError ((commitReleaseActivation_returns hstore
    (by exact hrecovery) (by exact hcurrent)).mono ?_))
  rintro _ _ ⟨lastKnownGood, g, rfl⟩
  refine .bind ((conclude_returns hstore (by exact hrecovery) (fun _ => rfl)
    fun h => by cases h).mono ?_)
  rintro _ _ ⟨g, rfl⟩
  exact .pure rfl

omit hstore hruntime in
theorem judgeCandidate_gives_up (hj : s.Unfinished activator.policy nowMs activation j)
    (hphase : j.phase = .candidateRestarted)
    (hanswer : (activator.runtime.healthy activator.policy s.link s.runtime).1 = .ok false) :
    ∃ j' s', (activator.judgeCandidate j nowMs).run s = (activator.rollBack j' nowMs).run s' ∧
      j'.phase.Rejecting ∧ s'.Unfinished activator.policy nowMs activation j' ∧
      s'.current = s.current ∧ s'.lastKnownGood = s.lastKnownGood := by
  have hadvances : ∀ s' : NativeState W G, s'.Advances True j
      (if j.previous.isSome then .rollbackSwitchPending else .firstRejectionPending) := by
    intro s'
    split_ifs with hprevious
    · exact .rollbackSwitchPending hphase (fun h => by simp [h] at hprevious) (.inr trivial)
    · exact .firstRejectionPending hphase (by simpa using hprevious) (.inr trivial)
  have hhealthy : activator.healthy.run s = (.ok false, { s with
      unit := s.unit.checked (activator.runtime.healthy activator.policy s.link s.runtime).1
      runtime := (activator.runtime.healthy activator.policy s.link s.runtime).2 }) :=
    Prod.ext hanswer rfl
  obtain ⟨_, _, hrun, rfl, rfl, hj'⟩ := advance_returns
    (hj.step (.checked j _ _ hj.journal (.inl hphase)) rfl) (hadvances _)
  refine ⟨_, _, ?_, ?_, hj', rfl, rfl⟩
  · unfold judgeCandidate
    rw [if_pos hphase, run_bind_of_ok hhealthy, if_neg (by decide)]
    exact run_bind_of_ok hrun
  · unfold moved
    split_ifs
    exacts [.inl rfl, .inr (.inr (.inr rfl))]

theorem judgeCandidate_unhealthy (hj : s.Unfinished activator.policy nowMs activation j)
    (hphase : j.phase = .candidateRestarted)
    (hanswer : (activator.runtime.healthy activator.policy s.link s.runtime).1 = .ok false)
    (hcurrent : s.current = activation.previousCurrentArtifact) :
    (activator.judgeCandidate j nowMs).Returns (fun outcome s' =>
      outcome = .rejection activation.previousCurrentArtifact ∧
      s'.lastKnownGood = s.lastKnownGood) s := by
  obtain ⟨j', s', hrun, hphase', hj', hcurrent', hgood'⟩ :=
    judgeCandidate_gives_up hj hphase hanswer
  unfold Prog.Returns
  rw [hrun, ← hgood']
  exact rollBack_returns hstore hruntime hj' hphase' (hcurrent'.trans hcurrent)

end Reverting

section

variable (hj : s.Unfinished activator.policy nowMs activation j)
include hj

theorem linkCandidate_returns (hphase : j.phase = .prepared ∨ j.phase = .candidateLinked) :
    (activator.linkCandidate j nowMs).Returns (fun j' s' => j'.phase = .candidateLinked ∧
      s'.Unfinished activator.policy nowMs activation j' ∧ s'.current = s.current ∧
      s'.lastKnownGood = s.lastKnownGood ∧ s'.runtime = s.runtime) s := by
  rcases hphase with hphase | hphase
  · unfold linkCandidate
    rw [if_pos hphase]
    refine returns_put ((advance_returns
      (hj.step (.linked j j.candidate hj.journal (.inl ⟨hphase, rfl⟩)) rfl)
      (.candidateLinked hphase rfl)).mono ?_)
    rintro _ _ ⟨rfl, rfl, hj'⟩
    exact ⟨rfl, hj', rfl, rfl, rfl⟩
  · rw [linkCandidate_skips (by simp [hphase])]
    exact .pure ⟨hphase, hj, rfl, rfl, rfl⟩

/-- The link names the candidate once the candidate is linked. -/
theorem unfinished_link (hphase : j.phase = .candidateLinked ∨ j.phase = .candidateRestarted) :
    s.link = some activation.candidateArtifact := by
  have hstage := hj.consistent.stage j hj.journal
  rw [← hj.activation]
  rcases hphase with hphase | hphase
  · simp only [Stage, hphase] at hstage
    exact hstage.2
  · simp only [Stage, hphase] at hstage
    exact hstage.1

theorem restartCandidate_returns (hphase : j.phase = .candidateLinked)
    (hrestart : (activator.runtime.restart (some activation.candidateArtifact) s.runtime).1 =
      .ok ()) :
    (activator.restartCandidate j nowMs).Returns (fun j' s' => j'.phase = .candidateRestarted ∧
      s'.Unfinished activator.policy nowMs activation j' ∧ s'.current = s.current ∧
      s'.lastKnownGood = s.lastKnownGood ∧ s'.runtime =
        (activator.runtime.restart (some activation.candidateArtifact) s.runtime).2) s := by
  have hlink := unfinished_link hj (.inl hphase)
  rw [← hlink] at hrestart ⊢
  unfold restartCandidate
  rw [if_pos hphase]
  refine .bind (.atomic hrestart ?_)
  dsimp only
  rw [if_pos hrestart]
  refine (advance_returns (hj.step (.restarted j (.restarted s.link) _ hj.journal (.inl hphase)) rfl)
    (.candidateRestarted hphase rfl)).mono ?_
  rintro _ _ ⟨rfl, rfl, hj'⟩
  exact ⟨rfl, hj', rfl, rfl, rfl⟩

theorem resume_judges (hphase : j.phase = .prepared ∨ j.phase = .candidateLinked)
    (hrestart : (activator.runtime.restart (some activation.candidateArtifact) s.runtime).1 =
      .ok ()) :
    ∃ j' s', (activator.resume j nowMs).run s = (activator.judgeCandidate j' nowMs).run s' ∧
      j'.phase = .candidateRestarted ∧ s'.Unfinished activator.policy nowMs activation j' ∧
      s'.current = s.current ∧ s'.lastKnownGood = s.lastKnownGood ∧ s'.runtime =
        (activator.runtime.restart (some activation.candidateArtifact) s.runtime).2 := by
  obtain ⟨j₁, s₁, ⟨hphase₁, hj₁, hcurrent₁, hgood₁, hruntime₁⟩, hrun₁⟩ :=
    (linkCandidate_returns hj hphase).run_bind
  rw [← hruntime₁] at hrestart ⊢
  obtain ⟨j₂, s₂, ⟨hphase₂, hj₂, hcurrent₂, hgood₂, hruntime₂⟩, hrun₂⟩ :=
    (restartCandidate_returns hj₁ hphase₁ hrestart).run_bind
  exact ⟨j₂, s₂, hrun₁.trans hrun₂, hphase₂, hj₂, hcurrent₂.trans hcurrent₁,
    hgood₂.trans hgood₁, hruntime₂⟩

end

/-! ### The calls -/

section Serving

variable {previous : Option EvidenceDigest}
  (hstore : activator.registry.Serves activator.policy candidate previous)
variable {artifact : EvidenceDigest}

include hstore

theorem validateRelease_returns (h : artifact = candidate ∨ previous = some artifact) :
    (activator.validateRelease artifact).Returns (fun _ s' => s' = { s with
      store := (activator.registry.readDescriptor artifact s.store).2 }) s := by
  obtain ⟨descriptor, hread, rfl⟩ := hstore.descriptor artifact s.store h
  refine .bind (.mapError (.bind (.atomic hread ?_)))
  exact .bind (.ensure ⟨rfl, rfl, rfl⟩ (.pure (.ensure ⟨rfl, rfl⟩ rfl)))

theorem prepareReleaseView_returns (h : artifact = candidate ∨ previous = some artifact) :
    (activator.prepareReleaseView artifact).Returns (fun _ s' => s.Asks s') s := by
  refine .bind ((validateRelease_returns hstore h).mono ?_)
  rintro _ _ rfl
  refine (askStore_returns (hstore.view artifact _ h)).mono ?_
  rintro _ _ ⟨-, g, rfl⟩
  exact ⟨g, rfl⟩

theorem prepareJournalViews_returns (hcandidate : j.candidate = candidate)
    (hprevious : j.previous = previous) :
    (activator.prepareJournalViews j).Returns (fun _ s' => s.Asks s') s := by
  subst hcandidate hprevious
  refine .bind ((prepareReleaseView_returns hstore (.inl rfl)).mono ?_)
  intro _ s₁ hasks
  split
  · rename_i previous hprevious
    exact (prepareReleaseView_returns hstore (.inr hprevious)).mono fun _ _ h => hasks.trans _ _ _ h
  · exact .pure hasks

end Serving

theorem validateCurrentLink_returns {allowed : List (Option EvidenceDigest)}
    (h : s.link ∈ allowed) :
    (validateCurrentLink allowed : NativeProg W G Unit).Returns (fun _ s' => s' = s) s :=
  .read_bind (.ensure h rfl)

theorem validateCurrentLinkForJournal_returns (hs : s.Consistent activator.policy)
    (hj : s.journal = some j) :
    (validateCurrentLinkForJournal j : NativeProg W G Unit).Returns (fun _ s' => s' = s) s := by
  have hstage := hs.stage j hj
  unfold validateCurrentLinkForJournal
  -- the links that a phase allows are those of its stage
  cases hphase : j.phase <;> simp only [Stage, hphase] at hstage ⊢
  case firstRejectionPending =>
    exact .bind (.ensure hstage.1 (validateCurrentLink_returns (by simp [hstage])))
  all_goals exact validateCurrentLink_returns (by simp [hstage])

section Serving

variable (hstore : activator.registry.Serves activator.policy activation.candidateArtifact
  activation.previousCurrentArtifact)

include hstore

/-- A call about an unfinished activation resumes it. -/
theorem call_resumes {i : NativeCall} (hj : s.Unfinished activator.policy i.nowMs activation j)
    (hi : i.About activation.candidateArtifact) :
    ∃ g, Unfinished activator.policy i.nowMs activation j { s with store := g } ∧
      (activator.call i).run s = (((activator.resume j i.nowMs).run { s with store := g }).1.map some,
        ((activator.resume j i.nowMs).run { s with store := g }).2) := by
  have hunfinished : ∀ g, Unfinished activator.policy i.nowMs activation j { s with store := g } :=
    fun g => ⟨hj.consistent.asked g, hj.journal, hj.activation, hj.clock⟩
  have hvalid := hj.consistent.valid j hj.journal
  have hchecked : ∀ s : NativeState W G,
      (lift (j.validate activator.policy) : NativeProg W G Unit).run s = (.ok (), s) :=
    fun _ => run_lift_ok_iff.mpr ⟨validate_ok hvalid, rfl⟩
  have hnow : 0 ≤ i.nowMs := hvalid.2.2.2.trans hj.clock
  have hcandidate : j.candidate = activation.candidateArtifact := by rw [← hj.activation]
  have hprevious : j.previous = activation.previousCurrentArtifact := by rw [← hj.activation]
  have hread : ∀ s', s'.journal = some j →
      (read fun s => .ok s.journal : NativeProg W G _).run s' = (.ok (some j), s') :=
    fun s' h => congrArg (fun o => (Except.ok o, s')) h
  -- the release is validated, the views are built and the link is checked
  obtain ⟨_, _, hrelease, rfl⟩ :=
    (validateRelease_returns hstore (.inl hcandidate))
  generalize (activator.registry.readDescriptor j.candidate s.store).2 = g at hrelease
  obtain ⟨_, _, hviews, g', rfl⟩ := (prepareJournalViews_returns hstore hcandidate hprevious :
    Prog.Returns _ _ { s with store := g })
  obtain ⟨_, _, hlink, rfl⟩ := validateCurrentLinkForJournal_returns
    (hunfinished g').consistent (hunfinished g').journal
  refine ⟨g', hunfinished g', ?_⟩
  rw [← run_bind_pure]
  cases i with
  | activate candidate nowMs =>
    have hrun : (activator.activate candidate nowMs).run s =
        (activator.resume j nowMs).run { s with store := g' } := by
      unfold activate openJournal
      rw [run_ensure_bind (show 0 ≤ nowMs from hnow), show candidate = j.candidate from hi.trans hcandidate.symm,
        run_bind_of_ok hrelease]
      refine run_bind_of_ok ?_
      rw [run_bind_of_ok (hread { s with store := g } hj.journal)]
      rw [run_bind_of_ok (hchecked _), run_ensure_bind rfl, run_bind_of_ok hviews,
        run_bind_of_ok hlink]
      rfl
    change (activator.activate candidate nowMs >>= fun outcome => pure (some outcome)).run s = _
    rw [run_bind, hrun, run_bind]
    rfl
  | recover nowMs =>
    change (activator.recover nowMs).run s = _
    unfold recover
    rw [run_ensure_bind (show 0 ≤ nowMs from hnow), run_bind_of_ok (hread _ hj.journal)]
    rw [run_bind_of_ok (hchecked _), run_bind_of_ok hrelease, run_bind_of_ok hviews,
      run_bind_of_ok hlink]
    rfl

end Serving

/-- Without a journal, a recovery root is all that is left of an activation. -/
theorem recoverRoots_returns {previous : Option EvidenceDigest}
    (hstore : activator.registry.Serves activator.policy candidate previous)
    (hlink : s.link = s.current) (hrecovery : s.recovery = some candidate) :
    activator.recoverRoots.Returns (fun o s' => o ≠ none ∧ ∃ g,
      s' = { s with recovery := none, store := g }) s := by
  have hroots : (releaseRecovery activator.registry).Returns
      (fun o s' => o = some (candidate, s.current) ∧ s.Asks s') s := by
    refine .read_bind ?_
    rw [hrecovery]
    refine .bind ((askStore_returns (hstore.closure _)).mono ?_)
    rintro _ _ ⟨-, hasks⟩
    exact .pure ⟨rfl, hasks⟩
  refine .bind (.mapError (hroots.mono ?_))
  rintro _ _ ⟨rfl, g, rfl⟩
  refine .bind ((validateRelease_returns hstore (.inl rfl)).mono ?_)
  rintro _ _ rfl
  have hchecked : ∀ g, (activator.validateRecoveredLink candidate s.current).Returns
      (fun _ s' => s.Asks s') { s with store := g } := by
    intro g
    unfold validateRecoveredLink
    split_ifs with hcommitted
    · refine .bind ((prepareReleaseView_returns hstore (.inl rfl)).mono ?_)
      rintro _ _ ⟨g', rfl⟩
      refine (validateCurrentLink_returns (by simp [hlink, hcommitted])).mono ?_
      rintro _ _ rfl
      exact ⟨g', rfl⟩
    · refine (validateCurrentLink_returns (by simp [hlink])).mono ?_
      rintro _ _ rfl
      exact ⟨g, rfl⟩
  refine .bind ((hchecked _).mono ?_)
  rintro _ _ ⟨g', rfl⟩
  refine .bind (.mapError ((finalizeReleaseActivation_returns hstore
    hrecovery (fun h => by simpa using h) fun h => ?_).mono ?_))
  · have hne : s.current ≠ some candidate := by simpa using h
    simp [hne]
  · rintro _ _ ⟨g'', rfl⟩
    exact .pure ⟨nofun, g'', rfl⟩

/-- The store has the candidate root when an activation asks for it. -/
def Rooted (activator : NativeReleaseActivator W G) (candidate : EvidenceDigest) (g : G) : Prop :=
  (activator.registry.candidateRootArtifact candidate
    (activator.registry.readDescriptor candidate g).2).1 = .ok ()

theorem openJournal_returns
    (hstore : activator.registry.Serves activator.policy candidate s.current)
    (hs : s.journal = none ∧ s.link = s.current ∧ (s.recovery = none ∨ s.recovery = some candidate))
    (hroot : (activator.registry.candidateRootArtifact candidate s.store).1 = .ok ())
    (hnow : 0 ≤ nowMs) :
    (activator.openJournal candidate nowMs).Returns (fun j s' => j.phase = .prepared ∧
      s'.Unfinished activator.policy nowMs ⟨activator.policy.projectId, candidate, s.current⟩ j ∧
      s'.current = s.current ∧ s'.lastKnownGood = s.lastKnownGood ∧
      s'.runtime = s.runtime) s := by
  refine .read_bind ?_
  rw [hs.1]
  refine .bind (.mapError ((beginReleaseActivation_returns hstore hroot hs.2.2).mono ?_))
  rintro _ _ ⟨rfl, g, rfl⟩
  let j : NativeReleaseJournal :=
    ⟨activator.policy.projectId, activator.policy.policyDigest,
      ⟨activator.policy.projectId, candidate, s.current⟩, .prepared, nowMs⟩
  have hvalid : j.Valid activator.policy := ⟨rfl, rfl, rfl, hnow⟩
  have hnew : new activator.policy
      ⟨activator.policy.projectId, candidate, s.current⟩ .prepared nowMs = .ok j := by
    simp only [new, Check.ok_iff]
    exact ⟨(), validate_ok hvalid, rfl⟩
  refine .bind (.lift hnew (.bind (.bind (.lift (validate_ok hvalid) (put_returns.mono ?_)))))
  rintro _ _ rfl
  refine .bind ((prepareJournalViews_returns hstore rfl rfl).mono ?_)
  rintro _ _ ⟨g', rfl⟩
  refine .bind ((validateCurrentLink_returns (by simp [hs.2.1])).mono ?_)
  rintro _ _ rfl
  refine .pure ⟨rfl, ⟨?_, rfl, rfl, le_rfl⟩, rfl, rfl, rfl⟩
  exact .of_journal rfl hvalid rfl ⟨rfl, .inl hs.2.1⟩

/-- An activation of a candidate of the policy comes to the journal. -/
theorem activate_run {previous : Option EvidenceDigest}
    (hstore : activator.registry.Serves activator.policy candidate previous) (hnow : 0 ≤ nowMs) :
    (activator.activate candidate nowMs).run s = (do
      let journal ← activator.openJournal candidate nowMs
      activator.resume journal nowMs).run { s with
        store := (activator.registry.readDescriptor candidate s.store).2 } := by
  obtain ⟨_, _, hrelease, rfl⟩ := (validateRelease_returns hstore (.inl rfl) :
    (activator.validateRelease candidate).Returns _ s)
  unfold activate
  rw [run_ensure_bind hnow, run_bind_of_ok hrelease]

/-- An activation that nothing stands in the way of is begun and then resumed from the start. -/
theorem activate_opens (hstore : activator.registry.Serves activator.policy candidate s.current)
    (hs : s.journal = none ∧ s.link = s.current ∧ (s.recovery = none ∨ s.recovery = some candidate))
    (hroot : activator.Rooted candidate s.store) (hnow : 0 ≤ nowMs) :
    ∃ j s', (activator.activate candidate nowMs).run s = (activator.resume j nowMs).run s' ∧
      j.phase = .prepared ∧ s'.Unfinished activator.policy nowMs
        ⟨activator.policy.projectId, candidate, s.current⟩ j ∧
      s'.current = s.current ∧ s'.lastKnownGood = s.lastKnownGood ∧ s'.runtime = s.runtime := by
  obtain ⟨j, s', hrun, hphase, hj, hroots⟩ := openJournal_returns (s := { s with
    store := (activator.registry.readDescriptor candidate s.store).2 }) hstore hs hroot hnow
  exact ⟨j, s', (activate_run hstore hnow).trans (run_bind_of_ok hrun), hphase, hj, hroots⟩

end NativeReleaseActivator

end Rdashboard
