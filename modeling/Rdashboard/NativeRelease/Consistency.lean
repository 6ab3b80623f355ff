import Rdashboard.NativeRelease.Steps

/-! # What every step of the activator keeps

`NativeState.Consistent` says what the journal, the link, the roots and the answers of the runtime
have to do with each other between any two steps of the activator, and `NativeStep.consistent` that
every step keeps it.  With it the branches of `resume` are followed one by one, each from the stored
journal, to what an outcome means (`call_through`). -/

namespace Rdashboard

open Interleaving NativeReleaseJournal TitaniumRegistry

variable {W G : Type}
variable {release : Option EvidenceDigest} {j : NativeReleaseJournal} {phase : ActivationPhase}
  {policy : ManagedNativeRuntimePolicy}

/-! ### The invariant -/

/-- The unit was last restarted with `release` linked. -/
def UnitRecord.Ran (release : Option EvidenceDigest) (unit : UnitRecord) : Prop :=
  unit = .restarted release ∨ unit = .healthy release

theorem UnitRecord.Ran.checked {unit : UnitRecord}
    (h : unit.Ran release) (answer : Except NativeReleaseError Bool) :
    (unit.checked answer).Ran release := by
  rcases h with rfl | rfl
  · rcases answer with _ | _ | _
    exacts [.inl rfl, .inl rfl, .inr rfl]
  · exact .inr rfl

theorem UnitRecord.Ran.healthy {unit : UnitRecord}
    (h : unit.Ran release) : unit.checked (.ok true) = .healthy release := by
  rcases h with rfl | rfl <;> rfl

namespace NativeState

/-- No activation is unfinished, and the release in service is the linked one. -/
structure Idle (s : NativeState W G) : Prop where
  journal : s.journal = none
  recovery : s.recovery = none
  link : s.link = s.current

/-- What the phase of the journal says about the link, the current-release root and the unit. -/
def Stage (journal : NativeReleaseJournal) (s : NativeState W G) : Prop :=
  match journal.phase with
  | .prepared => s.current = journal.previous ∧
      (s.link = journal.previous ∨ s.link = some journal.candidate)
  | .candidateLinked => s.current = journal.previous ∧ s.link = some journal.candidate
  | .candidateRestarted =>
    s.link = some journal.candidate ∧ s.unit.Ran (some journal.candidate)
  | .rollbackSwitchPending => journal.previous ≠ none ∧
      (s.link = some journal.candidate ∨ s.link = journal.previous)
  | .rollbackLinked => journal.previous ≠ none ∧ s.link = journal.previous
  | .rollbackRestarted =>
    journal.previous ≠ none ∧ s.link = journal.previous ∧ s.unit.Ran journal.previous
  | .firstRejectionPending =>
    journal.previous = none ∧ (s.link = some journal.candidate ∨ s.link = none)

structure Consistent (policy : ManagedNativeRuntimePolicy) (s : NativeState W G) : Prop where
  idle : s.journal = none → s.link = s.current
  valid : ∀ j, s.journal = some j → j.Valid policy
  recovery : ∀ j, s.journal = some j → s.recovery = some j.candidate
  stage : ∀ j, s.journal = some j → s.Stage j

variable {s s' : NativeState W G}

theorem Consistent.of_idle (hj : s.journal = none) (hlink : s.link = s.current) :
    s.Consistent policy :=
  have hnone : ∀ j, s.journal ≠ some j := fun j h => by cases hj.symm.trans h
  ⟨fun _ => hlink, fun j h => (hnone j h).elim, fun j h => (hnone j h).elim,
    fun j h => (hnone j h).elim⟩

theorem Consistent.of_journal (hj : s.journal = some j)
    (hvalid : j.Valid policy) (hrecovery : s.recovery = some j.candidate) (hstage : s.Stage j) :
    s.Consistent policy := by
  refine ⟨fun h => ?_, fun j' h => ?_, fun j' h => ?_, fun j' h => ?_⟩
  · cases hj.symm.trans h
  all_goals
    cases hj.symm.trans h
    assumption

/-- A step that keeps the journal has to keep its stage. -/
theorem Consistent.restage (hs : s.Consistent policy) (hj : s.journal = some j)
    (hjournal : s'.journal = s.journal) (hrecovery : s'.recovery = s.recovery)
    (hstage : s.Stage j → s'.Stage j) : s'.Consistent policy :=
  .of_journal (hjournal.trans hj) (hs.valid j hj) (hrecovery.trans (hs.recovery j hj))
    (hstage (hs.stage j hj))

theorem Consistent.asked (hs : s.Consistent policy) (g : G) :
    NativeState.Consistent policy { s with store := g } :=
  ⟨hs.idle, hs.valid, hs.recovery, hs.stage⟩

/-- While a journal exists the link names its previous release or its candidate. -/
theorem Consistent.link (h : s.Consistent policy)
    (hj : s.journal = some j) : s.link = j.previous ∨ s.link = some j.candidate := by
  have hstage := h.stage j hj
  unfold Stage at hstage
  split at hstage
  · exact hstage.2
  · exact .inr hstage.2
  · exact .inr hstage.1
  · exact hstage.2.symm
  · exact .inl hstage.2
  · exact .inl hstage.2.1
  · rw [hstage.1]
    exact hstage.2.symm

end NativeState

open NativeState

section Steps

variable {nowMs : Int} {may : EvidenceDigest → NativeState W G → Prop} {yields : Prop}
  {s s' : NativeState W G}

theorem NativeState.Reported.healthy (h : s.Reported)
    (hran : s.unit.Ran release) : s.unit = .healthy release := by
  obtain ⟨unit, hunit⟩ := h
  rcases hran with hran | hran
  · rw [hran] at hunit
    cases unit <;> cases hunit
  · exact hran

/-- The next phase of the journal finds what it expects. -/
theorem NativeState.Advances.stage (h : s.Advances yields j phase) (hstage : s.Stage j) :
    s.Stage { j with phase, updatedAtMs := nowMs } := by
  cases h with
  | candidateLinked hphase hlink =>
    simp only [Stage, hphase] at hstage
    exact ⟨hstage.1, hlink⟩
  | candidateRestarted hphase hunit =>
    simp only [Stage, hphase] at hstage
    exact ⟨hstage.2, .inl (hstage.2 ▸ hunit)⟩
  | rollbackSwitchPending hphase hprevious =>
    simp only [Stage, hphase] at hstage
    exact ⟨hprevious, .inl hstage.1⟩
  | firstRejectionPending hphase hprevious =>
    simp only [Stage, hphase] at hstage
    exact ⟨hprevious, .inl hstage.1⟩
  | rollbackLinked _ hprevious hlink => exact ⟨hprevious, hlink⟩
  | rollbackRestarted hphase hunit =>
    simp only [Stage, hphase] at hstage
    exact ⟨hstage.1, hstage.2, .inl (hstage.2 ▸ hunit)⟩

/-- When the journal is removed the link is the current release. -/
theorem NativeState.Concluded.link (h : s.Concluded j)
    (hstage : s.Stage j) : s.link = s.current := by
  cases h with
  | activated hphase hcurrent =>
    simp only [Stage, hphase] at hstage
    exact hstage.1.trans hcurrent.symm
  | rolledBack hphase hcurrent =>
    simp only [Stage, hphase] at hstage
    exact hstage.2.1.trans hcurrent.symm
  | rejected _ _ hlink hcurrent => exact hlink.trans hcurrent.symm

theorem NativeStep.consistent (h : NativeStep policy nowMs may yields s s')
    (hs : s.Consistent policy) : s'.Consistent policy := by
  cases h with
  | asked g => exact hs.asked g
  | begun candidate _ hj _ => exact .of_idle hj (hs.idle hj)
  | opened j _ hj hvalid hphase _ hrecovery hcurrent =>
    refine .of_journal rfl hvalid hrecovery ?_
    simp only [Stage, hphase]
    exact ⟨hcurrent, .inl ((hs.idle hj).trans hcurrent)⟩
  | linked j release hj hwhy =>
    refine hs.restage hj rfl rfl fun hstage => ?_
    rcases hwhy with ⟨hphase, rfl⟩ | ⟨hphase, hprevious⟩
    · simp only [Stage, hphase] at hstage ⊢
      exact ⟨hstage.1, .inr trivial⟩
    · simp only [Stage, hphase] at hstage ⊢
      exact ⟨hstage.1, .inr hprevious.symm⟩
  | unlinked j hj hphase =>
    refine hs.restage hj rfl rfl fun hstage => ?_
    simp only [Stage, hphase] at hstage ⊢
    exact ⟨hstage.1, .inr trivial⟩
  | restarted j unit w hj hwhy =>
    refine hs.restage hj rfl rfl fun hstage => ?_
    rcases hwhy with hphase | hphase
    all_goals
      simp only [Stage, hphase] at hstage ⊢
      exact hstage
  | checked j answer w hj hwhy =>
    refine hs.restage hj rfl rfl fun hstage => ?_
    rcases hwhy with hphase | hphase
    · simp only [Stage, hphase] at hstage ⊢
      exact ⟨hstage.1, hstage.2.checked answer⟩
    · simp only [Stage, hphase] at hstage ⊢
      exact ⟨hstage.1, hstage.2.1, hstage.2.2.checked answer⟩
  | stopped j unit w hj hphase =>
    refine hs.restage hj rfl rfl fun hstage => ?_
    simp only [Stage, hphase] at hstage ⊢
    exact hstage
  | advanced j phase hj hwhy hclock =>
    obtain ⟨hproject, hpolicy, hactivation, htime⟩ := hs.valid j hj
    exact .of_journal rfl ⟨hproject, hpolicy, hactivation, htime.trans hclock⟩
      (hs.recovery j hj) (hwhy.stage (hs.stage j hj))
  | remembered j previous hj hphase => exact hs.restage hj rfl rfl id
  | promoted j hj hphase =>
    refine hs.restage hj rfl rfl fun hstage => ?_
    simp only [Stage, hphase] at hstage ⊢
    exact hstage
  | closed j hj hwhy => exact .of_idle rfl (hwhy.link (hs.stage j hj))
  | settled hj => exact .of_idle hj (hs.idle hj)

end Steps

/-! ### Resuming an activation -/

theorem NativeReleaseJournal.setPhase_ok {journal : NativeReleaseJournal} {nowMs : Int}
    (h : journal.setPhase policy phase nowMs = .ok j) :
    j = { journal with phase, updatedAtMs := nowMs } ∧ journal.updatedAtMs ≤ nowMs := by
  simp only [setPhase, Check.ok_iff] at h
  obtain ⟨-, hclock, -, -, rfl⟩ := h
  exact ⟨rfl, hclock⟩

/-- What an outcome says of the activation of `candidate` over `previous`. -/
def NativeReleaseOutcome.Means (candidate : EvidenceDigest) (previous : Option EvidenceDigest)
    (s : NativeState W G) : NativeReleaseOutcome → Prop
  | .activated => s.link = some candidate ∧ s.current = some candidate
  | .rolledBack => ∃ release, previous = some release ∧ s.link = some release ∧
      s.current = some release ∧ s.unit = .healthy (some release)
  | .rejectedFirstRelease => s.unit = .stopped ∧ s.link = none ∧ s.current = none
  | .candidateDiscarded => s.link = previous ∧ s.current = previous

/-- The activation is over, with this outcome. -/
structure NativeState.Ended (candidate : EvidenceDigest) (previous : Option EvidenceDigest)
    (outcome : NativeReleaseOutcome) (s : NativeState W G) : Prop where
  journal : s.journal = none
  recovery : s.recovery = none
  means : outcome.Means candidate previous s

namespace NativeReleaseActivator

variable {activator : NativeReleaseActivator W G} {may : EvidenceDigest → NativeState W G → Prop}
  {yields : Prop} {s : NativeState W G} {nowMs : Int}

/-- The stored journal belongs to the activation of `j`, and `current` is in service. -/
def Follows (current : Option EvidenceDigest) (j j' : NativeReleaseJournal)
    (s : NativeState W G) : Prop :=
  s.journal = some j' ∧ j'.activation = j.activation ∧ s.current = current

theorem advance_follows {current : Option EvidenceDigest} (hj : s.journal = some j)
    (hcurrent : s.current = current) (h : s.Advances yields j phase) :
    (activator.advance j phase nowMs).Through (NativeStep activator.policy nowMs may yields)
      (Follows current j) s := by
  refine .lift_bind fun j' hj' => .bind (.lift_bind fun _ _ => through_put ?_) ?_
  · obtain ⟨rfl, hclock⟩ := setPhase_ok hj'
    exact .advanced j phase hj h hclock
  · rintro _ _ rfl
    obtain ⟨rfl, -⟩ := setPhase_ok hj'
    exact .pure ⟨rfl, rfl, hcurrent⟩

theorem linkCandidate_through (hj : s.journal = some j) :
    (activator.linkCandidate j nowMs).Through (NativeStep activator.policy nowMs may yields)
      (Follows s.current j) s := by
  unfold linkCandidate
  split_ifs with hphase
  · refine put_bind (.linked j j.candidate hj (.inl ⟨hphase, rfl⟩)) ?_
    exact advance_follows hj rfl (.candidateLinked hphase rfl)
  · exact .pure ⟨hj, rfl, rfl⟩

/-- A successful restart is recorded with the release that was linked. -/
theorem restart_bind {β : Type} {f : Unit → NativeProg W G β} {P : β → NativeState W G → Prop}
    (hj : s.journal = some j) (hphase : j.phase = .candidateLinked ∨ j.phase = .rollbackLinked)
    (h : ∀ w, (f ()).Through (NativeStep activator.policy nowMs may yields) P
      { s with unit := .restarted s.link, runtime := w }) :
    (activator.restart >>= f).Through (NativeStep activator.policy nowMs may yields) P s := by
  refine .atomic_bind (.restarted j _ _ hj hphase) ?_
  intro _ hanswer
  dsimp only at hanswer ⊢
  rw [if_pos hanswer]
  exact h _

theorem restartCandidate_through (hj : s.journal = some j) :
    (activator.restartCandidate j nowMs).Through (NativeStep activator.policy nowMs may yields)
      (Follows s.current j) s := by
  unfold restartCandidate
  split_ifs with hphase
  · refine restart_bind hj (.inl hphase) fun w => ?_
    exact advance_follows hj rfl (.candidateRestarted hphase rfl)
  · exact .pure ⟨hj, rfl, rfl⟩

theorem linkPrevious_through (hj : s.journal = some j) :
    (activator.linkPrevious j nowMs).Through (NativeStep activator.policy nowMs may yields)
      (Follows s.current j) s := by
  unfold linkPrevious
  split_ifs with hphase
  · split
    · exact .lift nofun
    · rename_i previous hprevious
      refine put_bind (.linked j previous hj (.inr ⟨hphase, hprevious⟩)) ?_
      have hsome : j.previous ≠ none := fun h => by cases hprevious.symm.trans h
      exact advance_follows hj rfl (.rollbackLinked hphase hsome hprevious.symm)
  · exact .pure ⟨hj, rfl, rfl⟩

theorem restartPrevious_through (hj : s.journal = some j) :
    (activator.restartPrevious j nowMs).Through (NativeStep activator.policy nowMs may yields)
      (Follows s.current j) s := by
  unfold restartPrevious
  split_ifs with hphase
  · refine restart_bind hj (.inr hphase) fun w => ?_
    exact advance_follows hj rfl (.rollbackRestarted hphase rfl)
  · exact .pure ⟨hj, rfl, rfl⟩

theorem conclude_through {committed : Bool} (hj : s.journal = some j) (h : s.Concluded j) :
    (activator.conclude j committed).Through (NativeStep activator.policy nowMs may yields)
      (fun _ s' => ∃ g, s' = { s with journal := none, recovery := none, store := g }) s :=
  put_bind (.closed j hj h) (.mapError (finalizeReleaseActivation_through rfl))

theorem linkCandidate_skips (hphase : j.phase ≠ .prepared) :
    activator.linkCandidate j nowMs = pure j := if_neg hphase

/-- From `CandidateRestarted` on `resume` goes straight to the judgement. -/
theorem resume_eq_judge (hprepared : j.phase ≠ .prepared) (hlinked : j.phase ≠ .candidateLinked) :
    activator.resume j nowMs = activator.judgeCandidate j nowMs := by
  unfold resume
  rw [linkCandidate_skips hprepared]
  change (activator.restartCandidate j nowMs >>= fun j => activator.judgeCandidate j nowMs) = _
  rw [restartCandidate, if_neg hlinked]
  rfl

/-- A call that resumes the activation gives up a candidate in service only if `yields`: the release
in service is the previous one, or the runtime will report the candidate healthy. -/
def Yields (activator : NativeReleaseActivator W G) (yields : Prop) (j : NativeReleaseJournal)
    (s : NativeState W G) : Prop :=
  (s.current = j.previous ∨ yields) ∨ j.phase = .candidateRestarted ∧
    (activator.runtime.healthy activator.policy s.link s.runtime).1 = .ok true

theorem yields_true : activator.Yields True j s := .inl (.inr trivial)

section

variable (hs : s.Consistent activator.policy)
include hs

theorem rejectCandidate_through (hj : s.journal = some j) :
    (activator.rejectCandidate j).Through (NativeStep activator.policy nowMs may yields)
      (Ended j.candidate j.previous) s := by
  have hstage := hs.stage j hj
  unfold rejectCandidate
  split_ifs with hphase hphase
  · simp only [Stage, hphase] at hstage
    refine .atomic_bind (.checked j _ _ hj (.inr hphase)) fun answer hanswer => ?_
    dsimp only at hanswer ⊢
    refine .ensure_bind fun hhealthy => ?_
    rw [hanswer, hhealthy, hstage.2.2.healthy]
    refine .bind (.mapError abortReleaseActivation_through) ?_
    rintro _ _ ⟨rfl, hcurrent⟩
    refine .bind (conclude_through hj (.rolledBack hphase hcurrent)) ?_
    rintro _ _ ⟨g, rfl⟩
    obtain ⟨release, hprevious⟩ := Option.ne_none_iff_exists'.1 hstage.1
    refine .pure ⟨rfl, rfl, release, hprevious, ?_⟩
    exact ⟨hstage.2.1.trans hprevious, hcurrent.trans hprevious, by rw [hprevious]⟩
  · refine .ensure_bind fun hprevious => ?_
    refine .atomic_bind (.stopped j _ _ hj hphase) fun _ hanswer => ?_
    dsimp only at hanswer ⊢
    rw [if_pos hanswer]
    refine put_bind (.unlinked j hj hphase) ?_
    refine .bind (.mapError abortReleaseActivation_through) ?_
    rintro _ _ ⟨rfl, hcurrent⟩
    have hnone : s.current = none := hcurrent.trans hprevious
    refine .bind (conclude_through hj (.rejected hphase hprevious rfl hnone)) ?_
    rintro _ _ ⟨g, rfl⟩
    exact .pure ⟨rfl, rfl, rfl, rfl, hnone⟩
  · exact .lift nofun

/-- A branch of `resume` that stores a journal of the activation, followed by the later branches. -/
theorem follows_bind {x : NativeProg W G NativeReleaseJournal}
    {f : NativeReleaseJournal → NativeProg W G NativeReleaseOutcome}
    (hx : x.Through (NativeStep activator.policy nowMs may yields)
      (Follows s.current j) s)
    (hf : ∀ j' s', s'.Consistent activator.policy → s'.journal = some j' →
      (s.current = j.previous ∨ yields → s'.current = j'.previous ∨ yields) →
      (f j').Through (NativeStep activator.policy nowMs may yields) (Ended j'.candidate j'.previous) s') :
    (x >>= f).Through (NativeStep activator.policy nowMs may yields) (Ended j.candidate j.previous) s := by
  refine .bind (hx.invariant hs fun _ _ h hstep => hstep.consistent h) ?_
  rintro j' s' ⟨hs', hj', hactivation, hcurrent⟩
  have h := hf j' s' hs' hj' (Or.imp_left fun h => by rwa [hcurrent, previous, hactivation])
  unfold NativeReleaseJournal.candidate previous at h
  rwa [hactivation] at h

theorem rollBack_through (hj : s.journal = some j) :
    (activator.rollBack j nowMs).Through (NativeStep activator.policy nowMs may yields)
      (Ended j.candidate j.previous) s :=
  follows_bind hs (linkPrevious_through hj) fun _ _ hs hj _ =>
    follows_bind hs (restartPrevious_through hj) fun _ _ hs hj _ => rejectCandidate_through hs hj

theorem judgeCandidate_through (hj : s.journal = some j)
    (hyields : (s.current = j.previous ∨ yields) ∨
      (activator.runtime.healthy activator.policy s.link s.runtime).1 = .ok true) :
    (activator.judgeCandidate j nowMs).Through (NativeStep activator.policy nowMs may yields)
      (Ended j.candidate j.previous) s := by
  unfold judgeCandidate
  by_cases hphase : j.phase = .candidateRestarted
  · rw [if_pos hphase]
    have hstep : ∀ answer w, NativeStep activator.policy nowMs may yields s
        { s with unit := s.unit.checked answer, runtime := w } :=
      fun answer w => .checked j answer w hj (.inl hphase)
    refine .atomic_bind (hstep _ _) fun answer hanswer => ?_
    dsimp only at hanswer ⊢
    split_ifs with hhealthy hprevious
    · have hstage := hs.stage j hj
      simp only [Stage, hphase] at hstage
      subst hhealthy
      refine .bind (.mapError (commitReleaseActivation_through hj
        hphase ⟨s.unit, by rw [hanswer]⟩)) ?_
      rintro _ _ ⟨lastKnownGood, g, rfl⟩
      refine .bind (conclude_through hj (.activated hphase rfl)) ?_
      rintro _ _ ⟨g, rfl⟩
      exact .pure ⟨rfl, rfl, hstage.1, rfl⟩
    -- the runtime has reported the candidate unhealthy
    all_goals
      have hgives : s.current = j.previous ∨ yields :=
        hyields.resolve_right fun h => hhealthy (Except.ok.inj (hanswer.symm.trans h))
    · have hsome : j.previous ≠ none := fun h => by simp [h] at hprevious
      exact follows_bind ((hstep _ _).consistent hs)
        (advance_follows hj rfl (.rollbackSwitchPending hphase hsome hgives))
        fun _ _ hs hj _ => rollBack_through hs hj
    · have hnone : j.previous = none := by simpa using hprevious
      exact follows_bind ((hstep _ _).consistent hs)
        (advance_follows hj rfl (.firstRejectionPending hphase hnone hgives))
        fun _ _ hs hj _ => rollBack_through hs hj
  · rw [if_neg hphase]
    exact rollBack_through hs hj

theorem resume_through (hj : s.journal = some j) (hyields : activator.Yields yields j s) :
    (activator.resume j nowMs).Through (NativeStep activator.policy nowMs may yields)
      (Ended j.candidate j.previous) s := by
  rcases hyields with hgives | ⟨hphase, hanswer⟩
  · exact follows_bind hs (linkCandidate_through hj) fun _ _ hs hj hkept =>
      follows_bind hs (restartCandidate_through hj) fun _ _ hs hj hkept' =>
        judgeCandidate_through hs hj (.inl (hkept' (hkept hgives)))
  · rw [resume_eq_judge (by simp [hphase]) (by simp [hphase])]
    exact judgeCandidate_through hs hj (.inr hanswer)

end

end NativeReleaseActivator

/-! ### The calls -/

/-- The release that was in service before the activation that is unfinished or about to begin. -/
def NativeState.previousRelease (s : NativeState W G) : Option EvidenceDigest :=
  match s.journal with
  | some j => j.previous
  | none => s.current

def NativeCall.nowMs : NativeCall → Int
  | .activate _ nowMs | .recover nowMs => nowMs

/-- The candidate that a call is about. -/
def NativeCall.candidate (s : NativeState W G) : NativeCall → Option EvidenceDigest
  | .activate candidate _ => some candidate
  | .recover _ =>
    match s.journal with
    | some j => some j.candidate
    | none => s.recovery

/-- The call is about the activation of `candidate`. -/
def NativeCall.About (candidate : EvidenceDigest) : NativeCall → Prop
  | .activate c _ => c = candidate
  | .recover _ => True

namespace NativeReleaseActivator

variable {activator : NativeReleaseActivator W G} {may : EvidenceDigest → NativeState W G → Prop}
  {yields : Prop} {s : NativeState W G} {nowMs : Int}
variable {candidate : EvidenceDigest}

theorem openJournal_through
    (hmay : s.journal = none → ∀ r g, may candidate { s with recovery := r, store := g })
    (hyields : ∀ j, s.journal = some j → activator.Yields yields j s) :
    (activator.openJournal candidate nowMs).Through (NativeStep activator.policy nowMs may yields)
      (fun j s' => s'.journal = some j ∧ j.candidate = candidate ∧
        j.previous = s.previousRelease ∧ activator.Yields yields j s') s := by
  refine .read_bind (.asked _) ?_
  unfold previousRelease
  rcases hj : s.journal with _ | j
  · refine .bind (.mapError (beginReleaseActivation_through hj
      fun g => hmay hj s.recovery g)) ?_
    rintro _ _ ⟨rfl, g, rfl⟩
    refine .lift_bind fun j hnew => ?_
    simp only [NativeReleaseJournal.new, validate, Check.ok_iff] at hnew
    obtain ⟨-, hvalid, rfl⟩ := hnew
    refine .bind (.lift_bind fun _ _ => through_put ?_) ?_
    · exact .opened _ (hmay hj _ g) hj hvalid rfl rfl rfl rfl
    rintro _ _ rfl
    refine asks_bind (activator.prepareJournalViews_asks _) fun _ _ => ?_
    refine asks_bind (validateCurrentLink_asks _) fun _ _ => ?_
    exact .pure ⟨rfl, rfl, rfl, .inl (.inl rfl)⟩
  · refine .lift_bind fun _ _ => .ensure_bind fun hcandidate => ?_
    refine asks_bind (activator.prepareJournalViews_asks j) fun _ _ => ?_
    refine asks_bind (validateCurrentLinkForJournal_asks j) fun _ _ => ?_
    exact .pure ⟨hj, hcandidate, rfl, hyields j hj⟩

section

variable (hs : s.Consistent activator.policy)
include hs

theorem activate_through (hmay : 0 ≤ nowMs → s.journal = none →
      ∀ r g, may candidate { s with recovery := r, store := g })
    (hyields : ∀ j, s.journal = some j → activator.Yields yields j s) :
    (activator.activate candidate nowMs).Through (NativeStep activator.policy nowMs may yields)
      (Ended candidate s.previousRelease) s := by
  refine .ensure_bind fun hnow =>
    asks_bind (activator.validateRelease_asks candidate) fun _ g => ?_
  have hopen : (activator.openJournal candidate nowMs).Through (NativeStep activator.policy nowMs may yields)
      (fun j s' => s'.journal = some j ∧ j.candidate = candidate ∧
        j.previous = s.previousRelease ∧ activator.Yields yields j s') { s with store := g } :=
    openJournal_through (fun hj r g => hmay hnow hj r g) hyields
  refine .bind (hopen.invariant (hs.asked g) fun _ _ h hstep => hstep.consistent h) ?_
  rintro j s' ⟨hs', hj, rfl, hprevious, hyields'⟩
  rw [← hprevious]
  exact resume_through hs' hj hyields'

theorem recoverRoots_through (hj : s.journal = none) :
    activator.recoverRoots.Through (NativeStep activator.policy nowMs may yields)
      (fun o s' => ∀ outcome, o = some outcome → ∃ candidate, s.recovery = some candidate ∧
        s'.Ended candidate s.current outcome) s := by
  refine .bind (.mapError releaseRecovery_through) ?_
  rintro _ _ ⟨rfl, g, rfl⟩
  rcases hrecovery : s.recovery with _ | candidate
  · exact .pure nofun
  · refine asks_bind (activator.validateRelease_asks _) fun _ _ => ?_
    refine asks_bind (activator.validateRecoveredLink_asks _ _) fun _ _ => ?_
    refine .bind (.mapError (finalizeReleaseActivation_through hj)) ?_
    rintro _ _ ⟨g, rfl⟩
    refine .pure ?_
    rintro _ ⟨⟩
    have hlink := hs.idle hj
    by_cases hcommitted : s.current = some candidate
    · simp only [hcommitted, decide_true]
      exact ⟨candidate, rfl, hj, rfl, hlink.trans hcommitted, rfl⟩
    · simp only [hcommitted, decide_false, Bool.false_eq_true]
      exact ⟨candidate, rfl, hj, rfl, hlink, rfl⟩

theorem recover_through (hyields : ∀ j, s.journal = some j → activator.Yields yields j s) :
    (activator.recover nowMs).Through (NativeStep activator.policy nowMs may yields)
      (fun o s' => ∀ outcome, o = some outcome →
        ∃ candidate, (NativeCall.recover nowMs).candidate s = some candidate ∧
          s'.Ended candidate s.previousRelease outcome) s := by
  refine .ensure_bind fun _ => .read_bind (.asked _) ?_
  unfold previousRelease NativeCall.candidate
  rcases hj : s.journal with _ | j
  · exact recoverRoots_through hs hj
  · refine .lift_bind fun _ _ => asks_bind (activator.validateRelease_asks _) fun _ _ => ?_
    refine asks_bind (activator.prepareJournalViews_asks j) fun _ _ => ?_
    refine asks_bind (validateCurrentLinkForJournal_asks j) fun _ g => ?_
    refine .bind (resume_through (hs.asked g) hj (hyields j hj)) ?_
    rintro outcome s' hended
    refine .pure ?_
    rintro _ ⟨⟩
    exact ⟨j.candidate, rfl, hended⟩

end

/-- Every step of a call is a step of the activator, and an outcome that it returns means what it
says. -/
theorem call_through (i : NativeCall) (hs : s.Consistent activator.policy) :
    (activator.call i).Through (NativeStep activator.policy i.nowMs (fun _ _ => True) True)
      (fun o s' => ∀ outcome, o = some outcome → ∃ candidate, i.candidate s = some candidate ∧
        s'.Ended candidate s.previousRelease outcome) s := by
  cases i with
  | activate candidate nowMs =>
    refine .bind (activate_through hs (fun _ _ _ _ => trivial) fun _ _ => yields_true)
      fun outcome s' hended => .pure ?_
    rintro _ ⟨⟩
    exact ⟨candidate, rfl, hended⟩
  | recover nowMs => exact recover_through hs fun _ _ => yields_true

/-- What the calls of a project leave behind is consistent, wherever they are killed. -/
theorem history_consistent {s₀ : NativeState W G} (h₀ : s₀.Idle)
    (h : History activator.call s₀ s) : s.Consistent activator.policy :=
  h.invariant (.of_idle h₀.journal h₀.link) fun i _ hs =>
    ⟨_, _, fun _ _ hs hstep => hstep.consistent hs, call_through i hs⟩

end NativeReleaseActivator

end Rdashboard
