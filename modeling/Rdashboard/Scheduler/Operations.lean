import Rdashboard.Scheduler.Reduction

/-! # The scheduler as a state machine

`Operation` lists the calls that change the journal, with all their arguments; the
identifiers that the program draws at random are arguments too.  `Journal.step` is the
journal a call leaves, whether it succeeds or fails, and `Reachable` the journals that any
finite sequence of calls can leave. -/

namespace Rdashboard

open Relational

variable {sha256 : Sha256}

/-- A call of the workflow scheduler. -/
inductive Operation where
  | admitWorkflow (manifest : ProjectManifestV2) (admission : WorkflowAdmissionV1) (admittedAtMs : Int)
      (requestId attemptId : FreshUuid)
  | claimNext (worker : WorkflowWorkerRegistrationV1) (nowMs leaseDurationMs : Int)
      (leaseId : FreshUuid)
  | renewLease (worker : WorkflowWorkerRegistrationV1) (lease : WorkflowLeaseV1)
      (nowMs leaseDurationMs : Int)
  | expireLeases (nowMs : Int)
  | commitNodeReceipt (receipt : WorkflowNodeReceiptV1) (recordedAtMs : Int)
  | commitCleanupReceipt (receipt : WorkflowCleanupReceiptV1) (recordedAtMs : Int)
  | reduceAttempt (attemptId : Uuid) (reducedAtMs : Int)
  | reconcileControllerNodes (nowMs : Int)

/-- The journal that a call leaves. -/
def Journal.step : Operation → Journal sha256 → Journal sha256
  | .admitWorkflow manifest admission admittedAtMs requestId attemptId, J =>
    (Rdashboard.admitWorkflow manifest admission admittedAtMs requestId attemptId).final J
  | .claimNext worker nowMs leaseDurationMs leaseId, J =>
    (Rdashboard.claimNext worker nowMs leaseDurationMs leaseId).final J
  | .renewLease worker lease nowMs leaseDurationMs, J =>
    (Rdashboard.renewLease worker lease nowMs leaseDurationMs).final J
  | .expireLeases nowMs, J => (Rdashboard.expireLeases nowMs).final J
  | .commitNodeReceipt receipt recordedAtMs, J =>
    (Rdashboard.commitNodeReceipt receipt recordedAtMs).final J
  | .commitCleanupReceipt receipt recordedAtMs, J =>
    (Rdashboard.commitCleanupReceipt receipt recordedAtMs).final J
  | .reduceAttempt attemptId reducedAtMs, J =>
    (Rdashboard.reduceAttempt attemptId reducedAtMs).final J
  | .reconcileControllerNodes nowMs, J => (Rdashboard.reconcileControllerNodes nowMs).final J

/-- The journals that calls allowed by `guard` can leave, starting from an empty one. -/
def ReachableBy (guard : Journal sha256 → Operation → Prop) (J : Journal sha256) : Prop :=
  Reaches Journal.step guard Journal.empty J

/-- The journals that any calls can leave, starting from an empty one. -/
def Reachable (J : Journal sha256) : Prop := ReachableBy (fun _ _ => True) J

end Rdashboard
