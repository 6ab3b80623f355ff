import Rdashboard.Library.Interruption
import Rdashboard.NativeRelease.Domain

/-! # The activator of native releases

`NativeReleaseActivatorV1` with the release roots of the registry.  What a crash leaves behind is
the activation journal, the link `current` and the roots of the project, each of them replaced
atomically; every write, every question to the registry's store and every request to the service
runtime is one step, and a call may be killed between any two.  A failing write is a call killed
before it.

The calls of a project are serialised by the lock `activation.lock`, so they come one after
another. -/

namespace Rdashboard

open Interleaving Prog

/-- What the runtime was last asked to do with the unit, and what it has reported since. -/
inductive UnitRecord where
  | unknown
  | stopped
  | restarted (release : Option EvidenceDigest)
  | healthy (release : Option EvidenceDigest)
deriving DecidableEq

/-- The record after a health check. -/
def UnitRecord.checked (unit : UnitRecord) (answer : Except NativeReleaseError Bool) : UnitRecord :=
  match unit, answer with
  | .restarted release, .ok true => .healthy release
  | unit, _ => unit

/-- The durable state of one project.  `unit` records the answers of the runtime and is read by
nothing; `runtime` and `store` are what the service runtime and the registry's store answer from. -/
structure NativeState (W G : Type) where
  journal : Option NativeReleaseJournal
  link : Option EvidenceDigest
  current : Option EvidenceDigest
  lastKnownGood : Option EvidenceDigest
  recovery : Option EvidenceDigest
  unit : UnitRecord
  runtime : W
  store : G
deriving DecidableEq

/-- `NativeReleaseRuntimeV1`; the answers may depend on the release that the unit finds linked. -/
structure NativeReleaseRuntime (W : Type) where
  restart : Option EvidenceDigest → W → Except NativeReleaseError Unit × W
  stop : W → Except NativeReleaseError Unit × W
  healthy : ManagedNativeRuntimePolicy → Option EvidenceDigest → W →
    Except NativeReleaseError Bool × W

/-- What systemd and the health endpoint of a unit answer. -/
structure ServiceWorld (W : Type) where
  /-- the exit status of `systemctl restart`, with the release linked -/
  restart : Option EvidenceDigest → W → Except IoErrorKind Bool × W
  /-- the exit status of `systemctl stop` -/
  stop : W → Except IoErrorKind Bool × W
  /-- the exchanges of one health check, until the deadline -/
  exchanges : Option EvidenceDigest → W → List HealthExchange × W

def systemctl : Except IoErrorKind Bool → Except NativeReleaseError Unit
  | .ok true => .ok ()
  | .ok false => .error .systemdRejected
  | .error kind => .error (.io kind)

/-- `SystemdNativeReleaseRuntimeV1`. -/
def systemdNativeReleaseRuntime {W : Type} (world : ServiceWorld W) : NativeReleaseRuntime W where
  restart link w := (systemctl (world.restart link w).1, (world.restart link w).2)
  stop w := (systemctl (world.stop w).1, (world.stop w).2)
  healthy policy link w :=
    (healthyWithin policy (world.exchanges link w).1, (world.exchanges link w).2)

/-- The rest of the registry: stored artifacts, candidate roots and release views. -/
structure ReleaseStore (G : Type) where
  /-- `read_artifact_closure_unlocked` with `read_release_descriptor_unlocked` -/
  readDescriptor : EvidenceDigest → G → Except TitaniumRegistryError TitaniumReleaseDescriptor × G
  /-- `read_artifact_closure_unlocked` -/
  readClosure : EvidenceDigest → G → Except TitaniumRegistryError Unit × G
  /-- `candidate_root_artifact_unlocked` -/
  candidateRootArtifact : EvidenceDigest → G → Except TitaniumRegistryError Unit × G
  /-- `remove_root_unlocked` of a candidate root -/
  removeCandidateRoot : EvidenceDigest → G → Except TitaniumRegistryError Unit × G
  /-- `validate_targets_unlocked` of a root with one artifact -/
  validateTarget : EvidenceDigest → G → Except TitaniumRegistryError Unit × G
  /-- the payloads and the directory of `prepare_release_view` -/
  buildView : EvidenceDigest → G → Except NativeReleaseError Unit × G

variable {W G : Type}

/-- A program of the registry. -/
abbrev RegistryProg (W G α : Type) := Prog (NativeState W G) TitaniumRegistryError α

/-- A program of the activator. -/
abbrev NativeProg (W G α : Type) := Prog (NativeState W G) NativeReleaseError α

/-- Replace the state in one step. -/
def NativeState.put {ε : Type} (f : NativeState W G → NativeState W G) :
    Prog (NativeState W G) ε Unit :=
  atomic fun s => (.ok (), f s)

/-- Ask the store. -/
def NativeState.askStore {ε α : Type} (question : G → Except ε α × G) :
    Prog (NativeState W G) ε α :=
  atomic fun s => ((question s.store).1, { s with store := (question s.store).2 })

/-! ### Release roots of the registry -/

namespace TitaniumRegistry

variable (store : ReleaseStore G)

/-- `write_root_unlocked` of a root with the single artifact `digest`. -/
def writeRoot (digest : EvidenceDigest) (write : NativeState W G → NativeState W G) :
    RegistryProg W G Unit := do
  NativeState.askStore (store.validateTarget digest)
  NativeState.put write

def beginReleaseActivation (projectId : ReleaseComponent) (candidate : EvidenceDigest) :
    RegistryProg W G TitaniumReleaseActivation := do
  NativeState.askStore (store.candidateRootArtifact candidate)
  let descriptor ← NativeState.askStore (store.readDescriptor candidate)
  ensure (descriptor.projectId = projectId) .invalidReleaseActivation
  let (previous, existing) ← read fun s => .ok (s.current, s.recovery)
  ensure (existing = none ∨ existing = some candidate) .releaseActivationConflict
  writeRoot store candidate fun s => { s with recovery := some candidate }
  pure
    { projectId, candidateArtifact := candidate, previousCurrentArtifact := previous }

/-- The root that `commit_release_activation` writes before the current release. -/
def writeLastKnownGood (activation : TitaniumReleaseActivation) : RegistryProg W G Unit :=
  match activation.previousCurrentArtifact with
  | some previous =>
    if previous = activation.candidateArtifact then pure ()
    else writeRoot store previous fun s => { s with lastKnownGood := some previous }
  | none => pure ()

/-- Move the current root to the candidate. -/
def commitReleaseActivation (activation : TitaniumReleaseActivation) :
    RegistryProg W G Unit := do
  let (recovery, current, lastKnownGood) ←
    read fun s => .ok (s.recovery, s.current, s.lastKnownGood)
  if recovery = none ∧ current = some activation.candidateArtifact ∧
      (activation.previousCurrentArtifact = none ∨
        lastKnownGood = activation.previousCurrentArtifact) then
    pure ()
  else
    ensure (recovery = some activation.candidateArtifact) .invalidReleaseActivation
    ensure (current = some activation.candidateArtifact ∨
      current = activation.previousCurrentArtifact) .releaseActivationConflict
    if current = some activation.candidateArtifact then
      pure ()
    else
      writeLastKnownGood store activation
      writeRoot store activation.candidateArtifact fun s =>
        { s with current := some activation.candidateArtifact }

def abortReleaseActivation (activation : TitaniumReleaseActivation) : RegistryProg W G Unit := do
  let (recovery, current) ← read fun s => .ok (s.recovery, s.current)
  ensure (recovery = some activation.candidateArtifact) .releaseActivationConflict
  ensure (current = activation.previousCurrentArtifact) .releaseActivationConflict

/-- `release_recovery`: the candidate and the current release. -/
def releaseRecovery : RegistryProg W G (Option (EvidenceDigest × Option EvidenceDigest)) := do
  let (recovery, current) ← read fun s => .ok (s.recovery, s.current)
  match recovery with
  | none => pure none
  | some candidate =>
    NativeState.askStore (store.readClosure candidate)
    pure (some (candidate, current))

/-- The candidate root, which `finalize_release_activation` may have removed before. -/
def requireCandidateRoot (candidate : EvidenceDigest) : RegistryProg W G Unit := do
  match ← attempt (NativeState.askStore (store.candidateRootArtifact candidate)) with
  | .ok () | .error (.io .notFound) => pure ()
  | .error error => lift (.error error)

/-- Close the activation: its candidate root is removed. -/
def finalizeReleaseActivation (activation : TitaniumReleaseActivation) (committed : Bool) :
    RegistryProg W G Unit := do
  let (recovery, current) ← read fun s => .ok (s.recovery, s.current)
  ensure (recovery = some activation.candidateArtifact ∧
    (committed = true → current = some activation.candidateArtifact) ∧
    (committed = false → current = activation.previousCurrentArtifact)) .releaseActivationConflict
  requireCandidateRoot store activation.candidateArtifact
  NativeState.askStore (store.removeCandidateRoot activation.candidateArtifact)
  NativeState.put fun s => { s with recovery := none }

def releaseDescriptor (digest : EvidenceDigest) (policy : ManagedNativeRuntimePolicy) :
    RegistryProg W G TitaniumReleaseDescriptor := do
  let descriptor ← NativeState.askStore (store.readDescriptor digest)
  ensure (descriptor.projectId = policy.projectId ∧ descriptor.target = policy.target ∧
    descriptor.interface = policy.releaseInterface) .installedArtifactMismatch
  pure descriptor

end TitaniumRegistry

/-! ### The activator -/

/-- `NativeReleaseActivatorV1`, with the service runtime it is called with. -/
structure NativeReleaseActivator (W G : Type) where
  registry : ReleaseStore G
  policy : ManagedNativeRuntimePolicy
  runtime : NativeReleaseRuntime W

namespace NativeReleaseActivator

variable (activator : NativeReleaseActivator W G)

variable (journal : NativeReleaseJournal) (candidate : EvidenceDigest) (nowMs : Int)

/-! #### The service runtime -/

def restart : NativeProg W G Unit :=
  atomic fun s =>
    let answer := activator.runtime.restart s.link s.runtime
    (answer.1, { s with
      unit := if answer.1 = .ok () then .restarted s.link else .unknown
      runtime := answer.2 })

def stop : NativeProg W G Unit :=
  atomic fun s =>
    let answer := activator.runtime.stop s.runtime
    (answer.1, { s with
      unit := if answer.1 = .ok () then .stopped else .unknown
      runtime := answer.2 })

def healthy : NativeProg W G Bool :=
  atomic fun s =>
    let answer := activator.runtime.healthy activator.policy s.link s.runtime
    (answer.1, { s with unit := s.unit.checked answer.1, runtime := answer.2 })

/-! #### Releases and views -/

def validateRelease (artifact : EvidenceDigest) : NativeProg W G Unit := do
  let descriptor ← mapError .titanium
    (TitaniumRegistry.releaseDescriptor activator.registry artifact activator.policy)
  ensure (descriptor.entrypoint = activator.policy.entrypoint ∧
    descriptor.runtimeContractDigest = activator.policy.runtimeContractDigest)
    .releasePolicyMismatch

def prepareReleaseView (artifact : EvidenceDigest) : NativeProg W G Unit := do
  activator.validateRelease artifact
  NativeState.askStore (activator.registry.buildView artifact)

def prepareJournalViews : NativeProg W G Unit := do
  activator.prepareReleaseView journal.candidate
  match journal.previous with
  | some previous => activator.prepareReleaseView previous
  | none => pure ()

/-! #### The link -/

/-- `validate_current_link`; a link names the view of a release, so it is that release. -/
def validateCurrentLink (allowed : List (Option EvidenceDigest)) : NativeProg W G Unit := do
  let actual ← read fun s => .ok s.link
  ensure (actual ∈ allowed) .releaseStateDiverged

def validateCurrentLinkForJournal : NativeProg W G Unit :=
  match journal.phase with
  | .prepared => validateCurrentLink [journal.previous, some journal.candidate]
  | .candidateLinked | .candidateRestarted => validateCurrentLink [some journal.candidate]
  | .rollbackLinked | .rollbackRestarted => validateCurrentLink [journal.previous]
  | .rollbackSwitchPending => validateCurrentLink [some journal.candidate, journal.previous]
  | .firstRejectionPending => do
    ensure (journal.previous = none) .invalidJournal
    validateCurrentLink [some journal.candidate, none]

def switchCurrentLink (release : EvidenceDigest) : NativeProg W G Unit :=
  NativeState.put fun s => { s with link := some release }

def removeCurrentLink : NativeProg W G Unit :=
  NativeState.put fun s => { s with link := none }

/-! #### The journal -/

/-- `write_journal`, which validates what it writes. -/
def writeJournal : NativeProg W G Unit := do
  lift (journal.validate activator.policy)
  NativeState.put fun s => { s with journal := some journal }

def removeJournal : NativeProg W G Unit :=
  NativeState.put fun s => { s with journal := none }

/-- Journal the phase that is reached. -/
def advance (phase : ActivationPhase) (nowMs : Int) : NativeProg W G NativeReleaseJournal := do
  let journal ← lift (journal.setPhase activator.policy phase nowMs)
  activator.writeJournal journal
  pure journal

/-! #### Resuming an activation

`resume` falls through the phases from the one in the journal. -/

/-- The branch of `resume` for `Prepared`. -/
def linkCandidate : NativeProg W G NativeReleaseJournal :=
  if journal.phase = .prepared then do
    switchCurrentLink journal.candidate
    activator.advance journal .candidateLinked nowMs
  else pure journal

/-- The branch of `resume` for `CandidateLinked`. -/
def restartCandidate : NativeProg W G NativeReleaseJournal :=
  if journal.phase = .candidateLinked then do
    activator.restart
    activator.advance journal .candidateRestarted nowMs
  else pure journal

/-- The branch of `resume` for `RollbackSwitchPending`. -/
def linkPrevious : NativeProg W G NativeReleaseJournal :=
  if journal.phase = .rollbackSwitchPending then
    match journal.previous with
    | none => lift (.error .invalidJournal)
    | some previous => do
      switchCurrentLink previous
      activator.advance journal .rollbackLinked nowMs
  else pure journal

/-- The branch of `resume` for `RollbackLinked`. -/
def restartPrevious : NativeProg W G NativeReleaseJournal :=
  if journal.phase = .rollbackLinked then do
    activator.restart
    activator.advance journal .rollbackRestarted nowMs
  else pure journal

/-- Leave the activation, with the candidate in service or not. -/
def conclude (committed : Bool) : NativeProg W G Unit := do
  removeJournal
  mapError .titanium (TitaniumRegistry.finalizeReleaseActivation activator.registry
    journal.activation committed)

/-- The last branches of `resume`: `RollbackRestarted` and `FirstRejectionPending`. -/
def rejectCandidate : NativeProg W G NativeReleaseOutcome :=
  if journal.phase = .rollbackRestarted then do
    let answer ← activator.healthy
    ensure (answer = true) .rollbackUnhealthy
    mapError .titanium (TitaniumRegistry.abortReleaseActivation journal.activation)
    activator.conclude journal false
    pure .rolledBack
  else if journal.phase = .firstRejectionPending then do
    ensure (journal.previous = none) .invalidJournal
    activator.stop
    removeCurrentLink
    mapError .titanium (TitaniumRegistry.abortReleaseActivation journal.activation)
    activator.conclude journal false
    pure .rejectedFirstRelease
  else lift (.error .invalidJournal)

/-- The branches of `resume` after the one for `CandidateRestarted`. -/
def rollBack : NativeProg W G NativeReleaseOutcome := do
  let journal ← activator.linkPrevious journal nowMs
  let journal ← activator.restartPrevious journal nowMs
  activator.rejectCandidate journal

/-- The branch of `resume` for `CandidateRestarted`, and those after it. -/
def judgeCandidate : NativeProg W G NativeReleaseOutcome :=
  if journal.phase = .candidateRestarted then do
    if ← activator.healthy then
      mapError .titanium (TitaniumRegistry.commitReleaseActivation activator.registry
        journal.activation)
      activator.conclude journal true
      pure .activated
    else
      let next := if journal.previous.isSome then .rollbackSwitchPending else .firstRejectionPending
      let journal ← activator.advance journal next nowMs
      activator.rollBack journal nowMs
  else activator.rollBack journal nowMs

/-- Go on from the phase that is journaled. -/
def resume : NativeProg W G NativeReleaseOutcome := do
  let journal ← activator.linkCandidate journal nowMs
  let journal ← activator.restartCandidate journal nowMs
  activator.judgeCandidate journal nowMs

/-! #### The calls -/

/-- The journal of `activate`: the unfinished one of the same candidate, or a new one. -/
def openJournal : NativeProg W G NativeReleaseJournal := do
  match ← read fun s => .ok s.journal with
  | some existing =>
    lift (existing.validate activator.policy)
    ensure (existing.candidate = candidate) .activationInProgress
    activator.prepareJournalViews existing
    validateCurrentLinkForJournal existing
    pure existing
  | none =>
    let activation ← mapError .titanium (TitaniumRegistry.beginReleaseActivation
      activator.registry activator.policy.projectId candidate)
    let journal ← lift
      (NativeReleaseJournal.new activator.policy activation .prepared nowMs)
    activator.writeJournal journal
    activator.prepareJournalViews journal
    validateCurrentLink [activation.previousCurrentArtifact, some candidate]
    pure journal

def activate : NativeProg W G NativeReleaseOutcome := do
  ensure (0 ≤ nowMs) .clockMovedBackwards
  activator.validateRelease candidate
  let journal ← activator.openJournal candidate nowMs
  activator.resume journal nowMs

/-- The check of the link in `recover` without a journal. -/
def validateRecoveredLink (current : Option EvidenceDigest) : NativeProg W G Unit :=
  if current = some candidate then do
    activator.prepareReleaseView candidate
    validateCurrentLink [some candidate]
  else validateCurrentLink [current]

/-- `recover` without a journal: what is left of an activation is its recovery root. -/
def recoverRoots : NativeProg W G (Option NativeReleaseOutcome) := do
  match ← mapError .titanium (TitaniumRegistry.releaseRecovery activator.registry) with
  | none => pure none
  | some (candidate, current) =>
    activator.validateRelease candidate
    activator.validateRecoveredLink candidate current
    let committed : Bool := current = some candidate
    mapError .titanium (TitaniumRegistry.finalizeReleaseActivation activator.registry
      { projectId := activator.policy.projectId, candidateArtifact := candidate,
        previousCurrentArtifact := if committed then none else current } committed)
    pure (some (if committed then .activated else .candidateDiscarded))

/-- Finish the activation that a stopped activator left behind. -/
def recover : NativeProg W G (Option NativeReleaseOutcome) := do
  ensure (0 ≤ nowMs) .clockMovedBackwards
  match ← read fun s => .ok s.journal with
  | none => activator.recoverRoots
  | some journal =>
    lift (journal.validate activator.policy)
    activator.validateRelease journal.candidate
    activator.prepareJournalViews journal
    validateCurrentLinkForJournal journal
    let outcome ← activator.resume journal nowMs
    pure (some outcome)

end NativeReleaseActivator

/-- A call of the activator. -/
inductive NativeCall where
  | activate (candidate : EvidenceDigest) (nowMs : Int)
  | recover (nowMs : Int)

namespace NativeReleaseActivator

def call (activator : NativeReleaseActivator W G) :
    NativeCall → NativeProg W G (Option NativeReleaseOutcome)
  | .activate candidate nowMs => do
    let outcome ← activator.activate candidate nowMs
    pure (some outcome)
  | .recover nowMs => activator.recover nowMs

end NativeReleaseActivator

end Rdashboard
