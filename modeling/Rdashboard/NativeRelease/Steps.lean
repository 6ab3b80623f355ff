import Rdashboard.NativeRelease.Activator

/-! # The steps of the activator

`NativeStep` lists what a single step of a call can do to the durable state, with what the code knows
when it takes it.  For each function of the registry one lemma says that its steps are of this kind
and what a value that it returns means. -/

namespace Rdashboard

open Interleaving

variable {W G : Type}
variable {ε α : Type}

namespace NativeState

variable {s : NativeState W G}

/-- The runtime has just reported the unit healthy. -/
def Reported (s : NativeState W G) : Prop := ∃ unit : UnitRecord, s.unit = unit.checked (.ok true)

/-- What `resume` has done in the phase of the journal when it writes the next one.  A candidate
that is in service is given up only if `yields`. -/
inductive Advances (yields : Prop) (s : NativeState W G) (j : NativeReleaseJournal) :
    ActivationPhase → Prop where
  | candidateLinked : j.phase = .prepared → s.link = some j.candidate →
      Advances yields s j .candidateLinked
  | candidateRestarted : j.phase = .candidateLinked → s.unit = .restarted s.link →
      Advances yields s j .candidateRestarted
  | rollbackSwitchPending : j.phase = .candidateRestarted → j.previous ≠ none →
      s.current = j.previous ∨ yields → Advances yields s j .rollbackSwitchPending
  | firstRejectionPending : j.phase = .candidateRestarted → j.previous = none →
      s.current = j.previous ∨ yields → Advances yields s j .firstRejectionPending
  | rollbackLinked : j.phase = .rollbackSwitchPending → j.previous ≠ none → s.link = j.previous →
      Advances yields s j .rollbackLinked
  | rollbackRestarted : j.phase = .rollbackLinked → s.unit = .restarted s.link →
      Advances yields s j .rollbackRestarted

/-- What `resume` has established when it removes the journal. -/
inductive Concluded (s : NativeState W G) (j : NativeReleaseJournal) : Prop where
  | activated : j.phase = .candidateRestarted → s.current = some j.candidate → Concluded s j
  | rolledBack : j.phase = .rollbackRestarted → s.current = j.previous → Concluded s j
  | rejected : j.phase = .firstRejectionPending → j.previous = none → s.link = none →
      s.current = none → Concluded s j

end NativeState

open NativeState

/-- A step of the activator, in a call at `nowMs` that may begin the activations `may`, and that may
give up a candidate in service if `yields`. -/
inductive NativeStep (policy : ManagedNativeRuntimePolicy) (nowMs : Int)
    (may : EvidenceDigest → NativeState W G → Prop) (yields : Prop) (s : NativeState W G) :
    NativeState W G → Prop where
  | asked (g : G) : NativeStep policy nowMs may yields s { s with store := g }
  | begun (candidate : EvidenceDigest) : may candidate s → s.journal = none →
      (s.recovery = none ∨ s.recovery = some candidate) →
      NativeStep policy nowMs may yields s { s with recovery := some candidate }
  | opened (j : NativeReleaseJournal) : may j.candidate s → s.journal = none → j.Valid policy →
      j.phase = .prepared → j.updatedAtMs = nowMs → s.recovery = some j.candidate →
      s.current = j.previous →
      NativeStep policy nowMs may yields s { s with journal := some j }
  | linked (j : NativeReleaseJournal) (release : EvidenceDigest) : s.journal = some j →
      (j.phase = .prepared ∧ release = j.candidate ∨
        j.phase = .rollbackSwitchPending ∧ j.previous = some release) →
      NativeStep policy nowMs may yields s { s with link := some release }
  | unlinked (j : NativeReleaseJournal) : s.journal = some j → j.phase = .firstRejectionPending →
      NativeStep policy nowMs may yields s { s with link := none }
  | restarted (j : NativeReleaseJournal) (unit : UnitRecord) (w : W) : s.journal = some j →
      (j.phase = .candidateLinked ∨ j.phase = .rollbackLinked) →
      NativeStep policy nowMs may yields s { s with unit, runtime := w }
  | checked (j : NativeReleaseJournal) (answer : Except NativeReleaseError Bool) (w : W) :
      s.journal = some j → (j.phase = .candidateRestarted ∨ j.phase = .rollbackRestarted) →
      NativeStep policy nowMs may yields s { s with unit := s.unit.checked answer, runtime := w }
  | stopped (j : NativeReleaseJournal) (unit : UnitRecord) (w : W) : s.journal = some j →
      j.phase = .firstRejectionPending → NativeStep policy nowMs may yields s { s with unit, runtime := w }
  | advanced (j : NativeReleaseJournal) (phase : ActivationPhase) :
      s.journal = some j → s.Advances yields j phase → j.updatedAtMs ≤ nowMs →
      NativeStep policy nowMs may yields s { s with journal := some { j with phase, updatedAtMs := nowMs } }
  | remembered (j : NativeReleaseJournal) (previous : EvidenceDigest) : s.journal = some j →
      j.phase = .candidateRestarted → s.Reported → j.previous = some previous →
      previous ≠ j.candidate → s.current = j.previous →
      NativeStep policy nowMs may yields s { s with lastKnownGood := some previous }
  | promoted (j : NativeReleaseJournal) : s.journal = some j → j.phase = .candidateRestarted →
      s.Reported → s.current = j.previous → s.current ≠ some j.candidate →
      (∀ previous, j.previous = some previous → s.lastKnownGood = some previous) →
      NativeStep policy nowMs may yields s { s with current := some j.candidate }
  | closed (j : NativeReleaseJournal) : s.journal = some j → s.Concluded j →
      NativeStep policy nowMs may yields s { s with journal := none }
  | settled : s.journal = none → NativeStep policy nowMs may yields s { s with recovery := none }

namespace NativeState

variable {policy : ManagedNativeRuntimePolicy} {nowMs : Int}
  {may : EvidenceDigest → NativeState W G → Prop} {yields : Prop} {s s' : NativeState W G}

/-- A step of a call that begins nothing is a step of any call. -/
theorem step_of_resuming (h : NativeStep policy nowMs (fun _ _ => False) yields s s') :
    NativeStep policy nowMs may yields s s' := by
  cases h with
  | begun _ hmay => exact hmay.elim
  | opened _ hmay => exact hmay.elim
  | asked g => exact .asked g
  | linked j release hj h => exact .linked j release hj h
  | unlinked j hj h => exact .unlinked j hj h
  | restarted j unit w hj h => exact .restarted j unit w hj h
  | checked j answer w hj h => exact .checked j answer w hj h
  | stopped j unit w hj h => exact .stopped j unit w hj h
  | advanced j phase hj h hclock => exact .advanced j phase hj h hclock
  | remembered j previous hj h₁ h₂ h₃ h₄ h₅ => exact .remembered j previous hj h₁ h₂ h₃ h₄ h₅
  | promoted j hj h₁ h₂ h₃ h₄ h₅ => exact .promoted j hj h₁ h₂ h₃ h₄ h₅
  | closed j hj h => exact .closed j hj h
  | settled hj => exact .settled hj

/-! ### Questions to the store -/

/-- A question to the store. -/
def Asks (s s' : NativeState W G) : Prop := ∃ g, s' = { s with store := g }

theorem Asks.refl (s : NativeState W G) : s.Asks s := ⟨s.store, rfl⟩

theorem Asks.trans (s₁ s₂ s₃ : NativeState W G) (h : s₁.Asks s₂) (h' : s₂.Asks s₃) :
    s₁.Asks s₃ := by
  obtain ⟨g, rfl⟩ := h
  obtain ⟨g', rfl⟩ := h'
  exact ⟨g', rfl⟩

end NativeState

open NativeState

theorem NativeState.askStore_asks (question : G → Except ε α × G) :
    (askStore question : Prog (NativeState W G) ε α).Steps Asks :=
  .atomic fun _ => ⟨_, rfl⟩

namespace NativeReleaseActivator

variable (activator : NativeReleaseActivator W G)

theorem validateRelease_asks (artifact : EvidenceDigest) :
    (activator.validateRelease artifact).Steps Asks :=
  .bind (.mapError (.bind (askStore_asks _) fun _ => .bind .ensure fun _ => .pure)) fun _ => .ensure

theorem prepareReleaseView_asks (artifact : EvidenceDigest) :
    (activator.prepareReleaseView artifact).Steps Asks :=
  .bind (activator.validateRelease_asks artifact) fun _ => askStore_asks _

theorem prepareJournalViews_asks (journal : NativeReleaseJournal) :
    (activator.prepareJournalViews journal).Steps Asks := by
  refine .bind (activator.prepareReleaseView_asks _) fun _ => ?_
  split
  · exact activator.prepareReleaseView_asks _
  · exact .pure

theorem validateCurrentLink_asks (allowed : List (Option EvidenceDigest)) :
    (validateCurrentLink allowed : NativeProg W G Unit).Steps Asks :=
  .bind (.atomic Asks.refl) fun _ => .ensure

theorem validateCurrentLinkForJournal_asks (journal : NativeReleaseJournal) :
    (validateCurrentLinkForJournal journal : NativeProg W G Unit).Steps Asks := by
  unfold validateCurrentLinkForJournal
  split
  all_goals first
    | exact validateCurrentLink_asks _
    | exact .bind .ensure fun _ => validateCurrentLink_asks _

theorem validateRecoveredLink_asks (candidate : EvidenceDigest) (current : Option EvidenceDigest) :
    (activator.validateRecoveredLink candidate current).Steps Asks := by
  unfold validateRecoveredLink
  split
  · exact .bind (activator.prepareReleaseView_asks _) fun _ => validateCurrentLink_asks _
  · exact validateCurrentLink_asks _

end NativeReleaseActivator

/-! ### The registry -/

section Registry

variable {policy : ManagedNativeRuntimePolicy} {nowMs : Int}
  {may : EvidenceDigest → NativeState W G → Prop} {yields : Prop} {store : ReleaseStore G}
  {s : NativeState W G}

namespace NativeState

variable {f : NativeState W G → NativeState W G}

section Continued

variable {β : Type} {P : β → NativeState W G → Prop}

theorem asks_bind {x : Prog (NativeState W G) ε α} {f : α → Prog (NativeState W G) ε β}
    (hx : x.Steps Asks)
    (h : ∀ a g, (f a).Through (NativeStep policy nowMs may yields) P { s with store := g }) :
    (x >>= f).Through (NativeStep policy nowMs may yields) P s := by
  refine .bind ((hx.runs Asks.refl Asks.trans ?_).mono fun _ _ h _ _ => h) ?_
  · rintro s₁ _ - ⟨g, rfl⟩
    exact .asked g
  · rintro a _ ⟨g, rfl⟩
    exact h a g

theorem put_bind {k : Unit → Prog (NativeState W G) ε β}
    (hstep : NativeStep policy nowMs may yields s (f s))
    (h : (k ()).Through (NativeStep policy nowMs may yields) P (f s)) :
    (put f >>= k).Through (NativeStep policy nowMs may yields) P s :=
  .atomic_bind hstep fun _ _ => h

end Continued

theorem through_put (h : NativeStep policy nowMs may yields s (f s)) :
    (put f : Prog (NativeState W G) ε Unit).Through (NativeStep policy nowMs may yields)
      (fun _ s' => s' = f s) s :=
  .atomic h fun _ _ => rfl

end NativeState

namespace TitaniumRegistry

variable {j : NativeReleaseJournal} {activation : TitaniumReleaseActivation}

theorem writeRoot_through {digest : EvidenceDigest} {write : NativeState W G → NativeState W G}
    (h : ∀ g, NativeStep policy nowMs may yields { s with store := g } (write { s with store := g })) :
    (writeRoot store digest write).Through (NativeStep policy nowMs may yields)
      (fun _ s' => ∃ g, s' = write { s with store := g }) s :=
  asks_bind (askStore_asks _) fun _ g => (through_put (h g)).mono fun _ _ h => ⟨g, h⟩

theorem beginReleaseActivation_through {projectId : ReleaseComponent} {candidate : EvidenceDigest}
    (hs : s.journal = none) (hmay : ∀ g, may candidate { s with store := g }) :
    (beginReleaseActivation store projectId candidate).Through (NativeStep policy nowMs may yields)
      (fun activation s' => activation = ⟨projectId, candidate, s.current⟩ ∧
        ∃ g, s' = { s with recovery := some candidate, store := g }) s := by
  refine asks_bind (askStore_asks _) fun _ _ => asks_bind (askStore_asks _) fun _ _ => ?_
  refine .ensure_bind fun _ => .read_bind (.asked _) (.ensure_bind fun hrecovery => ?_)
  refine .bind (writeRoot_through fun g => .begun candidate (hmay g) hs hrecovery) ?_
  rintro _ _ ⟨g, rfl⟩
  exact .pure ⟨rfl, g, rfl⟩

theorem writeLastKnownGood_through (hj : s.journal = some j)
    (hphase : j.phase = .candidateRestarted) (hreported : s.Reported)
    (hcurrent : s.current = j.previous) (hne : s.current ≠ some j.candidate) :
    (writeLastKnownGood store j.activation).Through (NativeStep policy nowMs may yields)
      (fun _ s' => ∃ lastKnownGood g, s' = { s with lastKnownGood, store := g } ∧
        ∀ previous, j.previous = some previous → lastKnownGood = some previous) s := by
  unfold writeLastKnownGood
  split
  · rename_i previous hprevious
    have hother : previous ≠ j.candidate := by
      rintro rfl
      exact hne (hcurrent.trans hprevious)
    rw [if_neg hother]
    refine (writeRoot_through ?_).mono ?_
    · exact fun g => .remembered j previous hj hphase hreported hprevious hother hcurrent
    rintro _ _ ⟨g, rfl⟩
    exact ⟨some previous, g, rfl, fun _ h => hprevious.symm.trans h⟩
  · rename_i hprevious
    refine .pure ⟨s.lastKnownGood, s.store, rfl, fun previous h => ?_⟩
    cases hprevious.symm.trans h

/-- A commit of the candidate that the runtime has just reported healthy. -/
theorem commitReleaseActivation_through (hj : s.journal = some j)
    (hphase : j.phase = .candidateRestarted) (hreported : s.Reported) :
    (commitReleaseActivation store j.activation).Through (NativeStep policy nowMs may yields)
      (fun _ s' => ∃ lastKnownGood g,
        s' = { s with current := some j.candidate, lastKnownGood, store := g }) s := by
  refine .read_bind (.asked _) ?_
  dsimp only
  by_cases hdone : s.recovery = none ∧ s.current = some j.candidate ∧
      (j.previous = none ∨ s.lastKnownGood = j.previous)
  · rw [if_pos hdone]
    refine .pure ⟨s.lastKnownGood, s.store, ?_⟩
    rw [← hdone.2.1]
  · rw [if_neg hdone]
    refine .ensure_bind fun hrecovery => .ensure_bind fun hcurrent => ?_
    split_ifs with hswitched
    · refine .pure ⟨s.lastKnownGood, s.store, ?_⟩
      rw [← hswitched]
    · have hprevious : s.current = j.previous := hcurrent.resolve_left hswitched
      refine .bind (writeLastKnownGood_through hj hphase hreported hprevious hswitched) ?_
      rintro _ _ ⟨lastKnownGood, g, rfl, hremembered⟩
      refine (writeRoot_through ?_).mono ?_
      · exact fun g => .promoted j hj hphase hreported hprevious hswitched hremembered
      rintro _ _ ⟨g, rfl⟩
      exact ⟨lastKnownGood, g, rfl⟩

theorem abortReleaseActivation_through :
    (abortReleaseActivation activation).Through (NativeStep policy nowMs may yields)
      (fun _ s' => s' = s ∧ s.current = activation.previousCurrentArtifact) s :=
  .read_bind (.asked _) (.ensure_bind fun _ => .ensure fun hcurrent => ⟨rfl, hcurrent⟩)

theorem releaseRecovery_through : (releaseRecovery store).Through (NativeStep policy nowMs may yields)
      (fun o s' => o = s.recovery.map (·, s.current) ∧ s.Asks s') s := by
  refine .read_bind (.asked _) ?_
  rcases s.recovery with _ | candidate
  · exact .pure ⟨rfl, .refl s⟩
  · exact asks_bind (askStore_asks _) fun _ g => .pure ⟨rfl, g, rfl⟩

theorem requireCandidateRoot_asks (candidate : EvidenceDigest) :
    (requireCandidateRoot store candidate : RegistryProg W G Unit).Steps Asks := by
  refine .bind (askStore_asks _).attempt fun answer => ?_
  split
  exacts [.pure, .pure, .lift]

theorem finalizeReleaseActivation_through {committed : Bool} (hs : s.journal = none) :
    (finalizeReleaseActivation store activation committed).Through (NativeStep policy nowMs may yields)
      (fun _ s' => ∃ g, s' = { s with recovery := none, store := g }) s := by
  refine .read_bind (.asked _) (.ensure_bind fun _ => ?_)
  refine asks_bind (requireCandidateRoot_asks _) fun _ _ => ?_
  refine asks_bind (askStore_asks _) fun _ g => ?_
  refine (through_put ?_).mono fun _ _ h => ⟨g, h⟩
  exact .settled hs

end TitaniumRegistry

end Registry

end Rdashboard
