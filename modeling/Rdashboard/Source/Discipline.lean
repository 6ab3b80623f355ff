import Rdashboard.Source.Deliveries

/-! # The broker under interference

While a broker serves, the ledger carries the epoch of its lease, and every step of a call is one
of the transactions of `LedgerStep`.  `sourceService_disciplined` puts the start and the calls
together; `Disciplined.invariant` then turns what every transaction preserves into an invariant of
all runs. -/

namespace Rdashboard

open Relational Interleaving Txn SourceProg DurableSourceBroker SourceLedger Safe

variable {W : Type} {R : ProjectId → GitCommitId → GitCommitId → Prop} {codec : SourceCodec}
  {outside : SourceOutside W} {b : DurableSourceBroker} {p : ProjectId} {start : BrokerStart}
  {s : SourceState W}
variable {o : SourceOrigin} {L L' : SourceLedger} {s' : SourceState W} {t : Int}
  {operation : OperationRecord}

/-! ### The lease -/

theorem LedgerStep.brokerEpoch_eq
    (h : LedgerStep codec o L L') : L'.brokerEpoch = L.brokerEpoch := by
  cases h
  case head h => cases h <;> exact frame ‹_ = Except.ok _›
  case delivery h => exact congrArg (·.brokerEpoch) h.rest_eq
  all_goals exact frame ‹_ = Except.ok _›

theorem Moves.brokerEpoch_eq (h : Moves codec o s s') :
    s'.ledger.brokerEpoch = s.ledger.brokerEpoch := by
  rcases h with hsame | hstep
  · rw [hsame]
  · exact hstep.brokerEpoch_eq

theorem SourceLedger.acquireBrokerLease_ok {epoch : Nat}
    (h : acquireBrokerLease t L = .ok (epoch, L')) :
    epoch = L.brokerEpoch.getD 0 + 1 ∧ (epoch : Int) ≤ i64Max ∧
      L' = { L with brokerEpoch := some epoch } := by
  simp only [acquireBrokerLease, ok_iff] at h
  obtain ⟨_, -, _, rfl, _, -, n, hn, h⟩ := h
  cases h
  obtain rfl := sequenceToI64_ok hn
  unfold sequenceToI64 at hn
  split_ifs at hn with hle
  exact ⟨rfl, hle, rfl⟩

/-- What is so while a broker serves: the ledger carries its epoch, and its policies are valid. -/
structure Serving (b : DurableSourceBroker) (s : SourceState W) : Prop where
  epoch : s.ledger.brokerEpoch = some b.epoch
  positive : 0 < b.epoch
  bound : (b.epoch : Int) ≤ i64Max
  policies : ∀ policy ∈ b.policies, policy.validate = .ok ()

/-! ### The start -/

/-- A step of the start: it acquires the lease or commits a transaction. -/
def startStep (codec : SourceCodec) (start : BrokerStart) (s s' : SourceState W) : Prop :=
  Moves codec (.inl start) s s' ∨
    ∃ epoch, acquireBrokerLease start.startedAtMs s.ledger = .ok (epoch, s'.ledger)

/-- Nothing else runs during a start. -/
def startRely (R : ProjectId → GitCommitId → GitCommitId → Prop) (s s' : SourceState W) : Prop :=
  s' = s ∧ SourceKnown R s

instance startRely_isRely : IsRely (startRely (W := W) R) := by
  refine ⟨?_, ?_⟩
  · rintro s _ ⟨rfl, h⟩
    exact ⟨rfl, h⟩
  · rintro s _ _ ⟨rfl, h⟩ ⟨rfl, -⟩
    exact ⟨rfl, h⟩

/-- A part of the start that commits transactions keeps the epoch. -/
theorem safe_start_bind {α β : Type} {x : SourceProg W α} {f : α → SourceProg W β}
    {Q : Except SourceError β → SourceState W → Prop} (hx : Commits codec (.inl start) x)
    (herr : ∀ e s', Q (.error e) s')
    (hok : ∀ a s', s'.ledger.brokerEpoch = s.ledger.brokerEpoch →
      Safe (startRely R) (startStep codec start) Q (f a) s') :
    Safe (startRely R) (startStep codec start) Q (x >>= f) s := by
  have hsafe : Safe (startRely R) (Moves codec (.inl start))
      (fun _ s' => s'.ledger.brokerEpoch = s.ledger.brokerEpoch) x s :=
    Prog.Steps.safe_keeps hx (fun _ _ h => h.brokerEpoch_eq) fun _ _ h => by rw [h.1]
  have hstart : Safe (startRely R) (startStep codec start)
      (fun _ s' => s'.ledger.brokerEpoch = s.ledger.brokerEpoch) x s :=
    hsafe.weaken fun _ _ h => .inl h
  refine safe_bind (hstart.mono fun r s' hs' => ?_)
  cases r with
  | ok a => exact hok a s' hs'
  | error e => exact herr e s'

/-- The policies of a start are valid when it goes on. -/
theorem safe_checkPolicies {seen : List ProjectId} {policies : List InstalledSourceProjectPolicy} :
    Safe (startRely R) (startStep codec start) (fun r _ => r = .ok () →
      ∀ policy ∈ policies, policy.validate = .ok ())
      (BrokerStart.checkPolicies outside seen policies) s := by
  induction policies generalizing seen s with
  | nil => exact fun _ _ _ policy h => absurd h List.not_mem_nil
  | cons policy policies ih =>
    have hcheck : Safe (startRely R) (startStep codec start)
        (fun r _ => r = .ok () → policy.validate = .ok ()) (BrokerStart.checkPolicy outside policy)
        s := by
      refine safe_lift (fun _ _ _ => (nomatch ·)) fun _ hvalid => ?_
      refine mono (Prog.Steps.safe (.bind (.mono (commits_consult _) fun _ _ h => .inl h)
        fun _ => .ensure) fun _ _ => trivial) fun _ _ _ _ => hvalid
    refine safe_bind (hcheck.mono fun r s' hr => ?_)
    cases r with
    | error e => exact nofun
    | ok _ =>
      refine safe_ensure nofun fun _ => ?_
      refine ih.mono fun r' _ hr' hok policy' hmem => ?_
      rcases List.mem_cons.mp hmem with rfl | hmem
      · exact hr rfl
      · exact hr' hok policy' hmem

theorem recoverSourceState_commits : Commits codec o (b.recoverSourceState codec outside t) := by
  refine .bind requireCurrentLease_commits fun _ => ?_
  refine .bind (commits_observe .of_shape) fun pending => ?_
  refine .bind (.each fun _ _ => recoverRefUpdate_commits) fun _ => ?_
  refine .bind (.each fun _ _ => recoverProject_commits) fun _ => ?_
  exact .bind (commits_transact fun _ _ _ h => .delivery (.recoverIncompleteDeliveries h)) fun _ => .pure

theorem signalQueuedWebhooks_commits {policy : InstalledSourceProjectPolicy} :
    Commits codec o (b.signalQueuedWebhooks outside policy) := by
  refine .bind (commits_observe .of_shape) fun pending => ?_
  split_ifs
  · exact .pure
  · exact commits_consult _

theorem safe_start : Safe (startRely R) (startStep codec start)
    (fun r s' => ∀ b, r = .ok b → Serving b s') (start.run codec outside) s := by
  have herr : ∀ e (s' : SourceState W) b,
      (.error e : Except SourceError DurableSourceBroker) = .ok b → Serving b s' :=
    fun _ _ _ => (nomatch ·)
  refine safe_lift (fun e s' _ => herr e s') fun _ _ => ?_
  refine safe_ensure (fun s' _ => herr _ s') fun _ => ?_
  refine safe_ensure (fun s' _ => herr _ s') fun _ => ?_
  refine safe_bind (safe_checkPolicies.mono fun r s₁ hr => ?_)
  cases r with
  | error e => exact herr e s₁
  | ok _ =>
    have hpolicies := hr rfl
    refine safe_start_bind (commits_consult _) herr fun _ s₂ _ => ?_
    refine safe_bind (safe_atomic fun s₃ _ => ?_)
    cases hlease : acquireBrokerLease start.startedAtMs s₃.ledger with
    | error e => exact ⟨.inl (.inl rfl), fun s₄ _ => herr e s₄⟩
    | ok r =>
      obtain ⟨epoch, L⟩ := r
      refine ⟨.inr ⟨epoch, hlease⟩, fun s₄ h₄ => ?_⟩
      obtain ⟨rfl, -⟩ := h₄
      obtain ⟨hnext, hbound, rfl⟩ := acquireBrokerLease_ok hlease
      refine safe_start_bind recoverSourceState_commits herr fun _ s₅ h₅ => ?_
      refine safe_start_bind (commits_transact fun _ _ _ h => .reconcileGithubWakeupPolicy h)
        herr fun _ s₆ h₆ => ?_
      refine safe_start_bind (.each fun _ _ => signalQueuedWebhooks_commits) herr
        fun _ s₇ h₇ => ?_
      refine safe_start_bind (commits_transact fun _ _ _ h => .delivery (.reconcileOutboxPolicy h)) herr
        fun _ s₈ h₈ => ?_
      rintro s₉ ⟨rfl, -⟩ b ⟨⟩
      refine ⟨h₈.trans (h₇.trans (h₆.trans h₅)), ?_, hbound, fun policy hpolicy => ?_⟩
      · change 0 < epoch
        omega
      · exact hpolicies policy ((List.perm_insertionSort _ _).mem_iff.mp hpolicy)

/-! ### The service -/

/-- What a call ends with. -/
def callEnd (codec : SourceCodec) (b : DurableSourceBroker) :
    SourceCall → Except SourceFailure SourceReply → SourceState W → Prop
  | .reconcileRemoteMain p _, r, s => ∀ outcome, r = .ok (.outcome outcome) →
      DurableSourceBroker.Reconciled codec b p (.inl p) (.ok outcome) s
  | _, _, _ => True

theorem enqueueGithubPush_commits {deliveryId signatureHeader : String}
    {webhookSecret rawBody : List UInt8} (hb : Serving b s) : Commits codec o
      (b.enqueueGithubPush codec outside p deliveryId signatureHeader webhookSecret rawBody t) := by
  refine .bind requireCurrentLease_commits fun _ => ?_
  refine .lift_bind fun _ hid => .ensure_bind fun ht => .bind .ensure fun _ => .bind .lift fun _ => ?_
  refine .lift_bind fun policy hpolicy => .bind .lift fun announcedHead => ?_
  have hvalid := hb.policies policy (List.mem_of_find?_eq_some (Check.require_ok_iff.mp hpolicy))
  have hrepository : validGithubRepositoryFullName policy.githubRepository = true := by
    simp only [InstalledSourceProjectPolicy.validate, Check.ok_iff] at hvalid
    obtain ⟨-, hfirst, -⟩ := hvalid
    exact hfirst.2.2.2
  cases announcedHead with
  | none => exact .pure
  | some announcedHead =>
    refine .bind (commits_transact fun _ _ _ h => .enqueueGithubWakeup hid ht hrepository h)
      fun admission => ?_
    cases admission with
    | queued n => exact .bind (commits_consult _) fun _ => .pure
    | duplicate n done =>
      cases done with
      | false => exact .bind (commits_consult _) fun _ => .pure
      | true => exact .pure
    | ignoredRef => exact .pure

section Service

variable {i : SourceCall}

theorem safe_ofSource {α : Type} {reply : α → SourceReply} {x : SourceProg W α}
    {Q : Except SourceFailure SourceReply → SourceState W → Prop}
    (herr : ∀ e s', Q (.error e) s')
    (hx : SafeCall R codec i
      (fun r s' => ∀ a, r = .ok a → Q (.ok (reply a)) s') x s) :
    SafeCall R codec i Q (SourceCall.ofSource reply x) s := by
  refine safe_bind (safe_mapError
    (hx.closed.mono fun r s' hr => ?_))
  cases r with
  | ok a => exact fun s'' hs'' => hr s'' hs'' a rfl
  | error e => exact herr _ s'

/-- A call about whose end nothing is said. -/
theorem safe_answers {α : Type} {Q : Except SourceError α → SourceState W → Prop}
    {reply : α → SourceReply} {x : SourceProg W α} (hx : SafeCall R codec i Q x s) :
    SafeCall R codec i (fun _ _ => True) (SourceCall.ofSource reply x) s :=
  safe_ofSource (fun _ _ => trivial) (hx.mono fun _ _ _ _ _ => trivial)

end Service

theorem checkLive_commits : Commits codec o (b.checkLive codec outside operation t) := by
  refine .bind (.mapError lockCoordination_commits) fun _ => ?_
  split_ifs
  · exact .pure
  · refine .bind ?_ fun binding => .bind .lift fun _ => .bind
      (.mapError (commits_transact fun _ _ _ h => .acquireMutationTicket h)) fun _ => .pure
    refine .bind .lift fun _ => .bind .lift fun _ => .bind .lift fun _ => .bind .lift fun _ => ?_
    refine .bind (.mapError snapshot_commits) fun _ => ?_
    refine .bind (.mapError (commits_observe .of_shape)) fun _ => .bind .ensure fun _ => ?_
    refine .bind .ensure fun _ => .bind (.mapError (commits_acceptedHead outside _)) fun _ => ?_
    exact .bind .ensure fun _ => .bind .ensure fun _ => .bind .ensure fun _ => .lift

/-- Every call of a serving broker is safe. -/
theorem safe_call (hreports : Reports outside R) (i : SourceCall) (hb : Serving b s) :
    SafeCall R codec i (callEnd codec b i)
      (SourceCall.run codec outside b i) s := by
  have hgate : ∀ operation, i.slot = .inl operation.projectId →
      SafeCall R codec i (fun _ _ => True)
        (SourceCall.ofGate (fun _ => .done) (b.completeLive outside operation)) s := fun _ hslot =>
    safe_project hslot (fun _ hv => sat_ofGate (sat_completeLive hv))
      (.bind (.mapError (.bind (.mapError lockCoordination_commits) fun _ => .mapError
        (commits_transact fun _ _ _ h => .releaseMutationTicket h))) fun _ => .pure)
  cases i with
  | enqueueGithubPush n p deliveryId header secret body t =>
    exact mono (safe_quiet (quiet_ofSource enqueueGithubPush_quiet)
      (.bind (.mapError (enqueueGithubPush_commits hb)) fun _ => .pure)) fun _ _ _ => trivial
  | acknowledgeOutbox n sequence digest t =>
    refine mono (safe_quiet (quiet_ofSource (.bind
      requireCurrentLease_quiet fun _ => quiet_transact)) ?_) fun _ _ _ => trivial
    exact .bind (.mapError (.bind requireCurrentLease_commits fun _ =>
      commits_transact fun _ _ _ h => .delivery (.acknowledgeOutbox h))) fun _ => .pure
  | processPendingGithubPushes p limit t =>
    exact safe_answers (safe_processPendingGithubPushes hreports rfl)
  | processGithubPush p deliveryId header secret body t =>
    exact safe_answers (safe_processGithubPush hreports rfl)
  | reconcileRemoteMain p t =>
    refine safe_ofSource (fun _ _ _ h => by cases h) (mono
      (safe_reconcileRemoteMainWith hreports rfl) fun r s' hr outcome h => ?_)
    rintro _ ⟨⟩
    exact h ▸ hr
  | refreshShadowHead p t =>
    exact safe_answers (safe_reconcileRemoteMainWith hreports rfl)
  | processDirectPush p deliveryId gitRef old new t =>
    exact safe_answers (safe_processDirectPush hreports rfl)
  | resolveDivergenceKeepCanonical p head evidence t =>
    exact safe_answers (safe_project rfl (fun _ hv => resolveDivergenceKeepCanonical_calm _ hv)
      (.bind lockCoordination_commits fun _ => .bind (commits_acceptedHead outside p) fun _ =>
        .bind .ensure fun _ => commits_transact fun _ _ _ h => .head (.resolveDivergence h)))
  | setControls p blocked paused t =>
    exact safe_answers (safe_project rfl (fun _ hv => setControls_calm _ hv)
      (.bind lockCoordination_commits fun _ =>
        commits_transact fun _ _ _ h => .head (.setControls h)))
  | checkLive operation t =>
    exact safe_project rfl (fun _ hv => sat_ofGate (sat_checkLive hv))
      (.bind (.mapError checkLive_commits) fun _ => .pure)
  | completeLive operation => exact hgate operation rfl
  | abortLive operation => exact hgate operation rfl

/-- The broker is a disciplined service, whatever `K` says of the states in which it is started. -/
theorem sourceService_disciplined (hreports : Reports outside R)
    {K : BrokerStart → SourceState W → Prop}
    (hK : ∀ start s s', K start s → startStep codec start s s' → K start s') :
    Disciplined (sourceService codec outside) (SourceKnown R) (SourceRely R) K (startStep codec)
      (fun _ i => callStep codec i) Serving (callEnd codec) where
  relies k := sourceRely_isRely k
  self k s h := ⟨h, rfl, .refl _⟩
  disjoint b i s s' _ hknown h k hk := callStep_rely hknown h hk
  starts := hK
  serves b i s s' hb h := ⟨h.2.brokerEpoch_eq.trans hb.epoch, hb.positive, hb.bound, hb.policies⟩
  boot start s := by
    change Safe (startRely R) _ _ _ _
    refine safe_mapError (safe_start.mono fun r s' hr b hb => ?_)
    exact hr b (Check.mapError_ok_iff.mp hb)
  call b i s hb := safe_call hreports i hb

theorem newBroker_reachable_known (hreports : Reports outside R)
    {refs : ProjectId → Option GitCommitId} {w : W} (c : SourceConfig W)
    (h : Reachable (sourceService codec outside) (newBroker refs w) c) : SourceKnown R c.state :=
  newBroker_reachable_inv hreports h

/-! ### Invariants of the ledger -/

section Invariants

variable {refs : ProjectId → Option GitCommitId} {w : W} {c c' : SourceConfig W}
variable {I : SourceLedger → Prop}

theorem reports_anything (outside : SourceOutside W) : Reports outside fun _ _ _ => True :=
  fun _ _ _ _ _ _ _ => trivial

/-- The broker with no condition on its starts, and nothing asked of its repository. -/
theorem sourceService_unconditioned : Disciplined (sourceService codec outside)
    (SourceKnown fun _ _ _ => True) (SourceRely fun _ _ _ => True) (fun _ _ => True)
    (startStep codec) (fun _ i => callStep codec i) Serving (callEnd codec) :=
  sourceService_disciplined (reports_anything outside) fun _ _ _ _ _ => trivial

theorem newBroker_serving
    {threads : SourceSlot → Option (SourceCall × Prog (SourceState W) SourceFailure SourceReply)}
    (h : Reachable (sourceService codec outside) (newBroker refs w) c)
    (hmode : c.mode = .serving b threads) : Serving b c.state :=
  ((sourceService_unconditioned.safe (newBroker_reachable_known (reports_anything outside))
    (Config.safe_initial _) h.run).serving b threads hmode).1

theorem Moves.invariant
    (hstep : ∀ L', LedgerStep codec o s.ledger L' → I L') (h : Moves codec o s s')
    (hs : I s.ledger) : I s'.ledger := by
  rcases h with hsame | hs'
  · rwa [hsame]
  · exact hstep _ hs'

theorem startStep.invariant (hlease : ∀ epoch, I { s.ledger with brokerEpoch := some epoch })
    (hstep : ∀ L', LedgerStep codec (.inl start) s.ledger L' → I L')
    (h : startStep codec start s s') (hs : I s.ledger) : I s'.ledger := by
  rcases h with h | ⟨epoch, hacquired⟩
  · exact h.invariant hstep hs
  · obtain ⟨-, -, hledger⟩ := acquireBrokerLease_ok hacquired
    rw [hledger]
    exact hlease epoch

/-- What the lease and the transactions preserve while every project is sound holds from a ledger
on. -/
theorem ledger_invariant_from (hlease : ∀ L epoch, I L → I { L with brokerEpoch := some epoch })
    (hstep : ∀ o (s : SourceState W) L', SourceKnown (fun _ _ _ => True) s → I s.ledger →
      LedgerStep codec o s.ledger L' → I L')
    (hc : Reachable (sourceService codec outside) (newBroker refs w) c) (hI : I c.state.ledger)
    (h : Reachable (sourceService codec outside) c c') : I c'.state.ledger := by
  have hknown : ∀ c, Reachable (sourceService codec outside) (newBroker refs w) c → _ :=
    newBroker_reachable_known (reports_anything outside)
  exact sourceService_unconditioned.invariant (fun c' h => hknown c' (hc.trans h))
    (sourceService_unconditioned.safe hknown (Config.safe_initial _) hc.run)
    hI
    (fun _ s _ hs h _ hmove => hmove.invariant (fun _ => hlease _ _ h) (fun _ => hstep _ s _ hs h) h)
    (fun _ _ s _ hs h _ hmove => hmove.2.invariant (fun _ => hstep _ s _ hs h) h) h.run

/-- What the lease and the transactions preserve holds of every ledger that is reached. -/
theorem newBroker_ledger_invariant (hempty : I .empty)
    (hlease : ∀ L epoch, I L → I { L with brokerEpoch := some epoch })
    (hstep : ∀ o L L', LedgerStep codec o L L' → I L → I L')
    (h : Reachable (sourceService codec outside) (newBroker refs w) c) : I c.state.ledger :=
  ledger_invariant_from hlease (fun _ _ _ _ hs hstep' => hstep _ _ _ hstep' hs) .refl hempty h

end Invariants

end Rdashboard
