import Rdashboard.Properties.AcceptedHeads

/-! # A ticket freezes the source

A deployment that is about to change its project holds a ticket for the head that it deploys.
While it does, no update of the accepted ref is pending, and neither the head nor the ref moves,
whatever else runs and wherever the broker is killed; only the attempt itself gives the ticket
back. -/

namespace Rdashboard

open Relational Interleaving

section Tickets

variable {W : Type} {codec : SourceCodec} {outside : SourceOutside W} {p : ProjectId}
variable {refs : ProjectId → Option GitCommitId} {c c' : SourceConfig W}

namespace SourceView

variable {v v' v'' : SourceView}

theorem Frozen.trans (h : v.Frozen v') (h' : v'.Frozen v'') : v.Frozen v'' := by
  obtain ⟨hhead, hsequence, hattestation, hdigest, href⟩ := h
  obtain ⟨hhead', hsequence', hattestation', hdigest', href'⟩ := h'
  exact ⟨hhead'.trans hhead, hsequence'.trans hsequence, hattestation'.trans hattestation,
    hdigest'.trans hdigest, href'.trans href⟩

end SourceView

/-- What a step does to the ticket of a project.  A ticket that is held freezes the source, and is
released only by its attempt; a ticket is granted only by `check_live`, to a deployment of the head
that is current. -/
structure TicketStep (p : ProjectId) (l : Label SourceCall) (v v' : SourceView) : Prop where
  held : ∀ t, v.ticket = some t → v.Frozen v' ∧ (v'.ticket = some t ∨ v'.ticket = none ∧
    ∃ operation, (l = .act (.completeLive operation) ∨ l = .act (.abortLive operation)) ∧
      operation.projectId = p ∧ operation.attemptId = t.attemptId)
  granted : ∀ t, v.ticket = none → v'.ticket = some t → v.Frozen v' ∧ v.ref = v.head ∧
    ∃ operation nowMs, l = .act (.checkLive operation nowMs) ∧ operation.projectId = p ∧
      operation.operationKind = .deploy ∧ TicketGrant operation v t

namespace TicketStep

variable {l : Label SourceCall} {v v' : SourceView} {operation : OperationRecord}

theorem of_calm (h : v.Calm v') : TicketStep p l v v' := by
  refine ⟨fun t ht => ⟨h.2 t ht, .inl (h.1.trans ht)⟩, fun t hnone ht => ?_⟩
  exact absurd ((h.1.trans hnone).symm.trans ht) (by simp)

theorem of_grant {nowMs : Int} (hp : operation.projectId = p)
    (h : SourceView.GrantStep operation v v') :
    TicketStep p (.act (.checkLive operation nowMs)) v v' := by
  obtain rfl | ⟨hkind, href, t, hgrant, rfl⟩ := h
  · exact of_calm (.refl _)
  · refine ⟨fun s hs => ⟨.refl v, .inl ?_⟩, fun s _ hs => ?_⟩
    · -- the attempt already had this ticket
      rcases hgrant.free with hfree | hheld
      · exact absurd (hfree.symm.trans hs) (by simp)
      · exact hheld.symm.trans hs
    · cases hs
      exact ⟨.refl v, href, operation, nowMs, rfl, hp, hkind, hgrant⟩

theorem of_release (hl : l = .act (.completeLive operation) ∨ l = .act (.abortLive operation))
    (hp : operation.projectId = p) (h : SourceView.ReleaseStep operation v v') :
    TicketStep p l v v' := by
  obtain rfl | ⟨t, ht, hattempt, rfl⟩ := h
  · exact of_calm (.refl _)
  · refine ⟨fun s hs => ?_, nofun⟩
    obtain rfl := Option.some.inj (ht.symm.trans hs)
    exact ⟨.refl v, .inr ⟨rfl, operation, hl, hp, hattempt.symm⟩⟩

end TicketStep

theorem ticketStep_of_step {w : W}
    {l : Label SourceCall} (h : Reachable (sourceService codec outside) (newBroker refs w) c)
    (hstep : Step (sourceService codec outside) l c c') :
    TicketStep p l (projectView c p) (projectView c' p) := by
  have hreports : Reports outside fun _ _ _ => True := fun _ _ _ _ _ _ _ => trivial
  rcases (newBroker_reachable_sound hreports h).guarantee hstep (.inl p) with
    hsame | ⟨-, hcalm⟩ | ⟨b, i, rfl, hslot, -, hcall⟩
  · rw [show projectView c' p = projectView c p from hsame]
    exact .of_calm (.refl _)
  · exact .of_calm hcalm
  · cases i with
    | enqueueGithubPush | acknowledgeOutbox => cases hslot
    | checkLive operation nowMs => exact .of_grant (Sum.inl.inj hslot) hcall
    | completeLive operation => exact .of_release (.inl rfl) (Sum.inl.inj hslot) hcall
    | abortLive operation => exact .of_release (.inr rfl) (Sum.inl.inj hslot) hcall
    | _ => exact .of_calm hcall

/-- A mutation ticket freezes the source, and the gate answers a deployment only for the head that
its ticket holds. -/
theorem ticket_freezes_source {refs : ProjectId → Option GitCommitId} {w : W} {c : SourceConfig W}
    (h : Reachable (sourceService codec outside) (newBroker refs w) c) (p : ProjectId) :
    (∀ t, (projectView c p).ticket = some t → (projectView c p).pending = none ∧
      (projectView c p).sequence = t.sourceSequence ∧
      (projectView c p).attestationDigest = some t.attestationDigest ∧
      (projectView c p).ref = (projectView c p).head) ∧
    (∀ l c', Step (sourceService codec outside) l c c' →
      TicketStep p l (projectView c p) (projectView c' p)) ∧
    (∀ t c', While (sourceService codec outside) (fun c => (projectView c p).ticket = some t) c c' →
      (projectView c p).Frozen (projectView c' p)) ∧
    ∀ b threads k operation nowMs proof, c.mode = .serving b threads →
      threads k = some (.checkLive operation nowMs, .done (.ok (.proof proof))) →
      operation.projectId = p → GateAnswer codec b operation nowMs (projectView c p) proof := by
  have hreports : Reports outside fun _ _ _ => True := fun _ _ _ _ _ _ _ => trivial
  refine ⟨(newBroker_reachable_inv hreports h p).ticket, fun l c' hstep => ticketStep_of_step h hstep,
    fun t c' hheld => ?_, ?_⟩
  · induction hheld with
    | refl _ => exact .refl _
    | tail hbefore hstep _ ih =>
      exact ih.trans ((ticketStep_of_step (hbefore.reachable h) hstep).held t hbefore.holds).1
  · intro b threads k operation nowMs proof hmode hthread hp
    subst hp
    obtain ⟨-, hthreads⟩ := (newBroker_reachable_sound hreports h).serving _ _ hmode
    obtain ⟨rfl, -, hresult⟩ := hthreads _ _ _ hthread
    exact hresult proof rfl

end Tickets

namespace SourceSample

/-- An operation on the first commit that the sample's broker accepts. -/
def operation (kind : OperationKind) : OperationRecord where
  requestId := 1
  attemptId := 2
  projectId := project
  operationKind := kind
  targetCommit := some firstCommit
  releaseClass := some .codeOnlyCompatible
  state := ⟨.deploying, .running⟩
  actor := .automation .directPush
  evidence :=
    { installedPolicy := some ⟨1, 2⟩, sourceAttestationDigest := some 1, sourceSequence := some 1 }

def gateAnswer : Except SourceFailure SourceReply → Option SourceGateProof
  | .ok (.proof proof) => some proof
  | _ => none

theorem gateAnswer_eq_some {r : Except SourceFailure SourceReply} {proof : SourceGateProof}
    (h : gateAnswer r = some proof) : r = .ok (.proof proof) := by
  unfold gateAnswer at h
  split at h
  · exact congrArg (fun proof => Except.ok (SourceReply.proof proof)) (Option.some.inj h)
  · cases h

/-- A call of the gate from a state that the broker reaches, up to its answer. -/
theorem gate_reaches {s : SourceState Nat} (i : SourceCall)
    (hs : Reachable service fresh (idle broker s))
    (hanswer : (gateAnswer ((service.call broker i).run s).1).isSome = true) :
    ∃ c threads proof, Reachable service fresh c ∧
      c.state = after (service.call broker i) s ∧
      c.mode = .serving broker threads ∧
      threads i.slot = some (i, .done (.ok (.proof proof))) := by
  obtain ⟨proof, hproof⟩ := Option.isSome_iff_exists.mp hanswer
  have hcalled := run_eq (gateAnswer_eq_some hproof)
  refine ⟨_, _, proof, hs.trans (Run.called (K := fun _ _ => True) i rfl hcalled).reachable, rfl,
    rfl, ?_⟩
  exact Function.update_self ..

theorem pushedOnce_reaches : Reachable service fresh (idle broker pushedOnce) :=
  start_reaches.trans (Reachable.answered (push "one" none firstCommit) rfl rfl)

theorem deployment_freezes_source :
    ∃ c proof, Reachable service fresh c ∧
      LiveHead codec broker (operation .deploy) (projectView c project) proof ∧
      ∃ t, (projectView c project).ticket = some t ∧
        (projectView c project).ref = (projectView c project).head ∧
        ∀ c', While service (fun c => (projectView c project).ticket = some t) c c' →
          (projectView c project).Frozen (projectView c' project) := by
  obtain ⟨c, threads, proof, hreach, -, hmode, hthread⟩ :=
    gate_reaches (.checkLive (operation .deploy) 20) pushedOnce_reaches (by decide +kernel)
  obtain ⟨hheld, -, hfrozen, hlive⟩ := ticket_freezes_source hreach project
  have hhead := (hlive broker threads _ _ _ proof hmode hthread rfl).deploy rfl
  obtain ⟨t, ht, -⟩ := hhead.ticket
  exact ⟨c, proof, hreach, hhead, t, ht, (hheld t ht).2.2.2, hfrozen t⟩

/-- A rollback is answered with a proof although no head was ever accepted. -/
theorem rollback_proof_without_head :
    ∃ c threads proof, Reachable service fresh c ∧
      c.mode = .serving broker threads ∧
      threads (.inl project) =
        some (.checkLive (operation .codeRollback) 20, .done (.ok (.proof proof))) ∧
      (projectView c project).head = none ∧ (projectView c project).attestation = none := by
  obtain ⟨c, threads, proof, hreach, hstate, hmode, hthread⟩ :=
    gate_reaches (.checkLive (operation .codeRollback) 20) start_reaches (by decide +kernel)
  refine ⟨c, threads, proof, hreach, hmode, hthread, ?_⟩
  rw [projectView, hstate]
  decide +kernel

end SourceSample

end Rdashboard
