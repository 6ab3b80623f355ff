import Rdashboard.Library.Interference
import Rdashboard.Source.Guarantees

/-! # The transactions of the broker

Everything that a broker writes to its ledger is one of the transactions of `LedgerStep`, with what
the broker knows when it commits it.  `sourceService_disciplined` says so for every interleaving of
calls, starts and crashes; an invariant of the ledger is then a case analysis on `LedgerStep`. -/

namespace Rdashboard

open Relational Interleaving Txn SourceProg SourceLedger SourceLedger
variable {t : Int}

/-- Whose transaction it is. -/
abbrev SourceOrigin := BrokerStart ⊕ SourceCall

/-- Whether the start enables automatic deployment for a project. -/
def BrokerStart.enables (codec : SourceCodec) (start : BrokerStart) (projectId : ProjectId) : Bool :=
  ((start.broker codec 0).installed projectId).any (·.autoDeploy)

/-- What the broker knows of a head that it reports as deployable: it is the current one, and a
reconciliation that reports it has hashed the state of the project at this head or before it. -/
structure Deliverable (codec : SourceCodec) (row : SourceProjectRow) (claim : DeliveryClaim)
    (enqueue : Bool) (d : VerifiedSourceDelivery) : Prop where
  attestation : row.attestation = some d.attestation
  digest : row.attestationDigest = some d.attestationDigest
  document : claim.channel = .sourceReconciliation → ∃ document : ReconcileDocument,
    claim.payloadDigest = codec.sha256 (.reconcile document) ∧ document.autoDeploy = enqueue ∧
    document.sequence ≤ row.sequence

/-- The transactions that change the rows of the projects, their accepted heads and the events of
divergence. -/
inductive HeadStep (codec : SourceCodec) (L L' : SourceLedger) : Prop where
  | acceptIfCurrent {epoch : Nat} {expected : SourceSnapshot} {signed : SignedAcceptedHeadV1}
      {digest : EvidenceDigest} : signed.digest codec = digest →
      acceptIfCurrent epoch expected signed digest L = .ok ((), L') →
      HeadStep codec L L'
  | markDiverged {epoch : Nat} {p : ProjectId} {candidate : GitCommitId} {channel : SourceChannel}
      {evidence : EvidenceDigest} {t : Int} :
      markDiverged epoch p candidate channel evidence t L = .ok ((), L') →
      HeadStep codec L L'
  | setControls {epoch : Nat} {p : ProjectId} {blocked : Option GitCommitId} {paused : Option Int}
      {t : Int} : setControls epoch p blocked paused t L = .ok ((), L') →
      HeadStep codec L L'
  | resolveDivergence {epoch : Nat} {p : ProjectId} {head : Option GitCommitId}
      {evidence : EvidenceDigest} {t : Int} :
      resolveDivergenceKeepCanonical epoch p head evidence t L = .ok ((), L') →
      HeadStep codec L L'

/-- The transactions that change the deliveries and the outbox. -/
inductive DeliveryStep (codec : SourceCodec) (L L' : SourceLedger) : SourceOrigin → Prop where
  | reserveDelivery {i : SourceCall} {epoch : Nat} {p : ProjectId} {channel : SourceChannel}
      {deliveryId : String} {digest : EvidenceDigest} {t : Int} {token : FreshUuid}
      {reservation : DeliveryReservation} :
      reserveDelivery epoch p channel deliveryId digest t token L =
        .ok (reservation, L') → DeliveryStep codec L L' (.inr i)
  | finishDelivery {i : SourceCall} {epoch : Nat} {claim : DeliveryClaim}
      {outcome reported : SourceIngressOutcome} {enqueue : Bool} {t : Int} :
      (∀ d, outcome = .deployable d → ∃ row,
        L.projects.lookup (·.projectId) claim.projectId = some row ∧
          Deliverable codec row claim enqueue d) →
      finishDelivery codec epoch claim outcome enqueue t L = .ok (reported, L') →
      DeliveryStep codec L L' (.inr i)
  | abandonDelivery {i : SourceCall} {epoch : Nat} {claim : DeliveryClaim} {t : Int} :
      abandonDelivery epoch claim t L = .ok ((), L') →
      DeliveryStep codec L L' (.inr i)
  | recoverIncompleteDeliveries {o : SourceOrigin} {epoch n : Nat} {t : Int} :
      recoverIncompleteDeliveries epoch t L = .ok (n, L') → DeliveryStep codec L L' o
  | reconcileOutboxPolicy {start : BrokerStart} {epoch : Nat} {t : Int} :
      reconcileOutboxPolicy epoch (start.enables codec) t L = .ok ((), L') →
      DeliveryStep codec L L' (.inl start)
  | acknowledgeOutbox {epoch thread n : Nat} {digest : EvidenceDigest} {t : Int} :
      acknowledgeOutbox epoch n digest t L = .ok ((), L') →
      DeliveryStep codec L L' (.inr (.acknowledgeOutbox thread n digest t))

/-- The transactions of the broker, except the one that acquires its lease. -/
inductive LedgerStep (codec : SourceCodec) (o : SourceOrigin) (L L' : SourceLedger) : Prop where
  | head : HeadStep codec L L' → LedgerStep codec o L L'
  | delivery : DeliveryStep codec L L' o → LedgerStep codec o L L'
  | acquireMutationTicket {epoch : Nat} {operation : OperationRecord} {t : Int} :
      acquireMutationTicket epoch operation t L = .ok ((), L') → LedgerStep codec o L L'
  | releaseMutationTicket {epoch : Nat} {operation : OperationRecord} :
      releaseMutationTicket epoch operation L = .ok ((), L') → LedgerStep codec o L L'
  | beginRefUpdate {epoch : Nat} {expected : SourceSnapshot} {signed : SignedAcceptedHeadV1} :
      signed.payload.previousHead = expected.head →
      beginRefUpdate epoch expected signed (signed.digest codec) L = .ok ((), L') →
      LedgerStep codec o L L'
  | markRefUpdated {epoch : Nat} {p : ProjectId} {digest : EvidenceDigest} {t : Int} :
      markRefUpdated epoch p digest t L = .ok ((), L') → LedgerStep codec o L L'
  | enqueueGithubWakeup {epoch : Nat} {p : ProjectId} {deliveryId : String}
      {digest : EvidenceDigest} {head : GitCommitId} {repository : String} {t : Int}
      {admission : GithubWebhookAdmissionV1} : validateDeliveryId deliveryId = .ok () → 0 ≤ t →
      validGithubRepositoryFullName repository = true →
      enqueueGithubWakeup epoch p deliveryId digest head repository t L = .ok (admission, L') →
      LedgerStep codec o L L'
  | completeGithubWakeup {epoch : Nat} {wakeup : GithubWakeupRow} {outcome : SourceIngressOutcome}
      {t : Int} : completeGithubWakeup epoch wakeup outcome t L = .ok ((), L') →
      LedgerStep codec o L L'
  | reconcileGithubWakeupPolicy {epoch : Nat} {installed : ProjectId → Option String} {n : Nat} :
      reconcileGithubWakeupPolicy epoch installed L = .ok (n, L') → LedgerStep codec o L L'

section Cases

variable {codec : SourceCodec} {o : SourceOrigin} {L L' : SourceLedger}

/-- The ledger without its deliveries and its outbox. -/
def SourceLedger.rest (L : SourceLedger) : SourceLedger :=
  { L with deliveries := .empty, outbox := .empty }

theorem DeliveryStep.rest_eq (h : DeliveryStep codec L L' o) : L'.rest = L.rest := by
  cases h
  case finishDelivery _ h => exact frame h finishDelivery_keeps
  all_goals exact frame ‹_ = Except.ok _›

theorem LedgerStep.head_cases (h : LedgerStep codec o L L') :
    (L'.projects = L.projects ∧ L'.acceptedHeads = L.acceptedHeads ∧
      L'.divergences = L.divergences) ∨ HeadStep codec L L' := by
  cases h
  case head h => exact .inr h
  case delivery h =>
    exact .inl ⟨congrArg (·.projects) h.rest_eq, congrArg (·.acceptedHeads) h.rest_eq,
      congrArg (·.divergences) h.rest_eq⟩
  all_goals
    have h := ‹_ = Except.ok _›
    exact .inl ⟨frame h, frame h, frame h⟩

theorem LedgerStep.delivery_cases (h : LedgerStep codec o L L') :
    (L'.outbox = L.outbox ∧ L'.deliveries = L.deliveries) ∨ DeliveryStep codec L L' o := by
  cases h
  case delivery h => exact .inr h
  case head h =>
    cases h
    all_goals
      have h := ‹_ = Except.ok _›
      exact .inl ⟨frame h, frame h⟩
  all_goals
    have h := ‹_ = Except.ok _›
    exact .inl ⟨frame h, frame h⟩

end Cases

/-! ### The programs of the broker -/

variable {W α ε : Type} {codec : SourceCodec} {o : SourceOrigin}

/-- The ledger stays, or changes by a transaction. -/
def Moves (codec : SourceCodec) (o : SourceOrigin) (s s' : SourceState W) : Prop :=
  s'.ledger = s.ledger ∨ LedgerStep codec o s.ledger s'.ledger

/-- Every step of the program leaves the ledger alone or is a transaction. -/
def Commits (codec : SourceCodec) (o : SourceOrigin) (x : Prog (SourceState W) ε α) : Prop :=
  x.Steps (Moves codec o)

theorem commits_transact {body : Txn SourceLedger SourceError α}
    (h : ∀ L a L', body L = .ok (a, L') → LedgerStep codec o L L') :
    Commits codec o (transact body : SourceProg W α) := by
  refine Prog.Steps.atomic fun s => ?_
  cases hb : body s.ledger with
  | error e => exact .inl rfl
  | ok r => exact .inr (h _ _ _ hb)

theorem commits_observe {body : Txn SourceLedger SourceError α}
    (h : Txn.Keeps id body) : Commits codec o (transact body : SourceProg W α) := by
  refine Prog.Steps.atomic fun s => ?_
  cases hb : body s.ledger with
  | error e => exact .inl rfl
  | ok r => exact .inl (h _ _ _ hb)

theorem commits_consult (g : StateM W (Except SourceError α)) : Commits codec o (consult g) :=
  Prog.Steps.atomic fun _ => .inl rfl

theorem commits_acceptedHead (outside : SourceOutside W) (p : ProjectId) :
    Commits codec o (acceptedHead outside p) :=
  Prog.Steps.atomic fun _ => .inl rfl

theorem commits_markDiverged {epoch : Nat} {p : ProjectId} {candidate : GitCommitId}
    {channel : SourceChannel} {evidence : EvidenceDigest} : Commits codec o
      (transact (markDiverged epoch p candidate channel evidence t) :
        SourceProg W Unit) :=
  commits_transact fun _ _ _ h => .head (.markDiverged h)

namespace DurableSourceBroker

variable {outside : SourceOutside W} {b : DurableSourceBroker} {p : ProjectId}
variable {expected current : SourceSnapshot} {signed : SignedAcceptedHeadV1}
  {ingress : CandidateIngress}

theorem requireCurrentLease_commits : Commits codec o (b.requireCurrentLease outside) :=
  .bind (commits_observe .of_shape) fun _ => commits_consult _

theorem lockCoordination_commits : Commits codec o (b.lockCoordination outside p) :=
  .bind requireCurrentLease_commits fun _ => .bind .ensure fun _ => requireCurrentLease_commits

theorem snapshot_commits : Commits codec o (snapshot p : SourceProg W SourceSnapshot) :=
  commits_observe .of_shape

theorem settleRef_commits {expectedHead : Option GitCommitId} {newHead : GitCommitId}
    {mayMove : Bool} : Commits codec o (b.settleRef outside p expectedHead newHead mayMove) := by
  refine .bind (.bind (commits_acceptedHead outside p) fun observed => ?_) fun there => ?_
  · split_ifs
    · exact .pure
    · refine .bind requireCurrentLease_commits fun _ => ?_
      refine .bind (Prog.Steps.atomic fun _ => .inl rfl) fun swapped => ?_
      split_ifs
      · exact .pure
      · exact .bind (commits_acceptedHead outside p) fun _ => .pure
    · exact .pure
  · split_ifs
    · exact .pure
    · exact .bind (commits_acceptedHead outside p) fun _ => .pure

theorem finishRefUpdate_commits {digest : EvidenceDigest} (hdigest : signed.digest codec = digest) :
    Commits codec o (b.finishRefUpdate expected signed digest t : SourceProg W Unit) :=
  .bind (commits_transact fun _ _ _ h => .markRefUpdated h) fun _ =>
    commits_transact fun _ _ _ h => .head (.acceptIfCurrent hdigest h)

theorem recoverRefUpdate_commits {r : RefUpdateRow} :
    Commits codec o (b.recoverRefUpdate codec outside r t) := by
  refine .bind .lift fun payload => .bind .lift fun policy => .ensure_bind fun hbinding => ?_
  refine .bind snapshot_commits fun expected => ?_
  split_ifs
  · exact .pure
  · exact commits_transact fun _ _ _ h => .head (.acceptIfCurrent hbinding.1 h)
  · refine .bind .ensure fun _ => .bind settleRef_commits fun answer => ?_
    obtain ⟨there, observed⟩ := answer
    cases there with
    | true => exact finishRefUpdate_commits hbinding.1
    | false => exact commits_markDiverged

theorem recoverProject_commits {policy : InstalledSourceProjectPolicy} :
    Commits codec o (b.recoverProject codec outside policy t) := by
  refine .bind snapshot_commits fun current => ?_
  split_ifs
  · exact .pure
  · refine .bind (commits_acceptedHead outside _) fun repositoryHead => ?_
    split_ifs
    · exact .pure
    · exact .bind .lift fun _ => commits_markDiverged

theorem reconcilePriorityFetchSignal_commits :
    Commits codec o (b.reconcilePriorityFetchSignal outside p) := by
  refine .bind (commits_consult _) fun _ => ?_
  refine .bind (commits_observe .of_shape) fun pending => ?_
  split_ifs
  · exact .pure
  · exact commits_consult _

/-! ### Candidates -/

theorem judgeCandidate_commits : Commits codec o (b.judgeCandidate outside current ingress) := by
  unfold judgeCandidate
  have hdiverge : Commits codec o (b.divergeCandidate ingress : SourceProg W _) :=
    .bind commits_markDiverged fun _ => .pure
  cases current.head with
  | none => exact .pure
  | some head =>
    refine .bind (commits_consult _) fun relation => ?_
    cases relation with
    | rewind =>
      split_ifs
      · exact .pure
      · exact hdiverge
    | diverged => exact hdiverge
    | same =>
      exact .bind .lift fun _ => .bind (commits_observe .of_shape) fun _ => .lift
    | fastForward => exact .pure

theorem attestCandidate_commits :
    Commits codec o (b.attestCandidate codec outside current ingress) := by
  refine .bind .ensure fun _ => .bind .ensure fun _ => .lift_bind fun signed hsigned => ?_
  have hprevious : signed.payload.previousHead = current.head := by
    rw [SignedAcceptedHeadV1.create_payload (Check.mapError_ok_iff.mp hsigned)]
    rfl
  refine .bind (.attempt ?_) fun _ => .lift
  refine .bind (commits_transact fun _ _ _ h => .beginRefUpdate hprevious h) fun _ => ?_
  refine .bind settleRef_commits fun answer => ?_
  obtain ⟨there, observed⟩ := answer
  cases there with
  | true => exact .bind (finishRefUpdate_commits rfl) fun _ => .pure
  | false => exact .bind commits_markDiverged fun _ => .pure

theorem processCandidate_commits : Commits codec o (b.processCandidate codec outside ingress) := by
  have hrounds : ∀ rounds, Commits codec o
      (b.processCandidateRounds codec outside ingress rounds) := by
    intro rounds
    induction rounds with
    | zero => exact .lift
    | succ rounds ih =>
      refine .bind (.bind snapshot_commits fun current => ?_) fun answer => ?_
      · split_ifs
        · exact .pure
        · exact .pure
        · exact .pure
        · refine .bind judgeCandidate_commits fun judged => ?_
          cases judged with
          | some outcome => exact .pure
          | none => exact attestCandidate_commits
      · cases answer with
        | some outcome => exact .pure
        | none => exact ih
  exact hrounds 4

theorem processGithubCandidate_commits {announcedHead : GitCommitId} :
    Commits codec o (b.processGithubCandidate codec outside ingress announcedHead) := by
  unfold processGithubCandidate
  split_ifs
  · exact processCandidate_commits
  · refine .bind (commits_consult _) fun relation => ?_
    cases relation with
    | rewind => exact .lift
    | diverged => exact .bind commits_markDiverged fun _ => .pure
    | fastForward => exact processCandidate_commits
    | same => exact .lift

end DurableSourceBroker

end Rdashboard
