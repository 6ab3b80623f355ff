import Rdashboard.Source.Guarantees

/-! # Accepted heads form one chain

The accepted heads of a project are numbered without gaps, each continues its predecessor, and the
project's row shows the last one.  Once a start that installed the project has succeeded, the
repository's accepted ref is at that head whenever the project is ready and no update is pending,
whatever crashes between the steps on the ledger and on the ref. -/

namespace Rdashboard

open Relational Interleaving List

section Chain

variable {W : Type} {codec : SourceCodec} {outside : SourceOutside W}

/-- `relationship` reports ancestry correctly. -/
structure ReportsAncestry (outside : SourceOutside W)
    (ancestor : ProjectId → GitCommitId → GitCommitId → Prop) : Prop where
  same : ∀ p c d w, (outside.relationship p c d w).1 = .ok .same → d = c
  fastForward : ∀ p c d w, (outside.relationship p c d w).1 = .ok .fastForward → ancestor p c d

/-- `d` is `c` or a descendant of it. -/
def Descends (ancestor : ProjectId → GitCommitId → GitCommitId → Prop) (p : ProjectId)
    (c d : GitCommitId) : Prop := d = c ∨ ancestor p c d

theorem ReportsAncestry.reports {ancestor : ProjectId → GitCommitId → GitCommitId → Prop}
    (h : ReportsAncestry outside ancestor) : Reports outside (Descends ancestor) := by
  rintro p c d w relation hrelation (rfl | rfl)
  · exact .inl (h.same p c d w hrelation)
  · exact .inr (h.fastForward p c d w hrelation)

/-- The entry at position `i` is number `i + 1` and continues the entry before it. -/
structure ChainEntry (R : GitCommitId → GitCommitId → Prop) (rows : List AcceptedHeadRow) (i : Nat)
    (r : AcceptedHeadRow) : Prop where
  sequence : r.sequence = i + 1
  first : i = 0 → r.previousHead = none
  continues : ∀ j q, i = j + 1 → rows[j]? = some q →
    r.previousHead = some q.canonicalHead ∧ R q.canonicalHead r.canonicalHead

theorem Linked.entry {R : GitCommitId → GitCommitId → Prop} {rows : List AcceptedHeadRow}
    (h : Linked R rows) {i : Nat} {r : AcceptedHeadRow} (hr : rows[i]? = some r) :
    ChainEntry R rows i r := by
  induction h generalizing i r with
  | nil => cases hr
  | @snoc rows last hrows hsequence hprevious hrelated ih =>
    by_cases hi : i < rows.length
    · rw [getElem?_append_left hi] at hr
      obtain ⟨hseq, hfirst, hcontinues⟩ := ih hr
      refine ⟨hseq, hfirst, fun j q hj hq => hcontinues j q hj ?_⟩
      rwa [getElem?_append_left (by omega)] at hq
    · -- the entry is the last one
      rw [getElem?_append_right (by omega), getElem?_singleton] at hr
      split_ifs at hr with hlast
      obtain rfl := Option.some.inj hr
      have hi' : i = rows.length := by omega
      subst hi'
      refine ⟨hsequence, fun hzero => ?_, fun j q hj hq => ?_⟩
      · rw [hprevious, eq_nil_of_length_eq_zero hzero]
        rfl
      · rw [getElem?_append_left (by omega)] at hq
        have hq' : rows.getLast? = some q := by
          rw [getLast?_eq_getElem?, show rows.length - 1 = j by omega, hq]
        rw [hq'] at hprevious
        exact ⟨hprevious, hrelated _ hprevious⟩

/-- What a start that succeeded has settled stays settled. -/
theorem settled_since_start {R : ProjectId → GitCommitId → GitCommitId → Prop}
    (hreports : Reports outside R) {refs : ProjectId → Option GitCommitId} {w : W}
    {s : SourceState W} {b : DurableSourceBroker} {c : SourceConfig W} {p : ProjectId}
    (hstart : Reachable (sourceService codec outside) (newBroker refs w)
      ⟨s, .serving b fun _ => none, some b⟩) (hinstalled : (b.installed p).isSome = true)
    (h : Reachable (sourceService codec outside) ⟨s, .serving b fun _ => none, some b⟩ c) :
    (projectView c p).Settled := by
  have hsound := newBroker_reachable_sound hreports hstart
  have hsettled := (hsound.inv (.inl p)).settled (.inr ⟨b, rfl, hinstalled⟩)
  have hfrom : Config.Sound (sourceService codec outside) sourceView (sourceInv R (· = p))
      callGuarantee startGuarantee (callResult codec) ⟨s, .serving b fun _ => none, some b⟩ := by
    refine ⟨fun k => ?_, fun _ hmode => (by cases hmode), ?_⟩
    · cases k with
      | inr n => exact trivial
      | inl q =>
        obtain ⟨hq, hlive⟩ := hsound.inv (.inl q)
        refine ⟨hq, ?_⟩
        rintro (rfl | hrecovered)
        · exact hsettled
        · exact hlive (.inr hrecovered)
    · rintro b' threads ⟨⟩
      exact ⟨rfl, fun k i rest hthread => by cases hthread⟩
  exact (((sourceService_guarded hreports).sound hfrom h).inv (.inl p)).settled (.inl rfl)

/-- The accepted heads of a project are one chain, its row shows the end of it, and its ref is there
too once a start with the project installed has succeeded. -/
theorem accepted_heads_linear {ancestor : ProjectId → GitCommitId → GitCommitId → Prop}
    (hancestry : ReportsAncestry outside ancestor) {refs : ProjectId → Option GitCommitId} {w : W}
    {c : SourceConfig W} (h : Reachable (sourceService codec outside) (newBroker refs w) c)
    (p : ProjectId) :
    (∀ i r, (projectView c p).accepted[i]? = some r →
      ChainEntry (Descends ancestor p) (projectView c p).accepted i r) ∧
    (projectView c p).sequence = (projectView c p).accepted.length ∧
    (projectView c p).head = (projectView c p).accepted.getLast?.map (·.canonicalHead) ∧
    (projectView c p).attestation = (projectView c p).accepted.getLast?.map (·.attestation) ∧
    (projectView c p).attestationDigest =
      (projectView c p).accepted.getLast?.map (·.attestationDigest) ∧
    ∀ s b, Reachable (sourceService codec outside) (newBroker refs w)
        ⟨s, .serving b fun _ => none, some b⟩ → (b.installed p).isSome = true →
      Reachable (sourceService codec outside) ⟨s, .serving b fun _ => none, some b⟩ c →
      (projectView c p).state = .ready → (projectView c p).pending = none →
      (projectView c p).ref = (projectView c p).head := by
  have hsound := newBroker_reachable_inv hancestry.reports h p
  refine ⟨fun i r hr => hsound.linked.entry hr, hsound.sequence, hsound.head, hsound.attestation,
    hsound.digest, fun s b hstart hinstalled hsince => ?_⟩
  exact settled_since_start hancestry.reports hstart hinstalled hsince

end Chain

/-! ### A broker for one project -/

namespace SourceSample

def project : ProjectId := ⟨"demo", by decide +kernel⟩

def firstCommit : GitCommitId := ⟨"aaaaaaaaaaaaaaaaaaaaaaaaaaaaaaaaaaaaaaaa", by decide +kernel⟩

def secondCommit : GitCommitId := ⟨"bbbbbbbbbbbbbbbbbbbbbbbbbbbbbbbbbbbbbbbb", by decide +kernel⟩

def codec : SourceCodec where
  sha256
    | .signedHead signed => BitVec.ofNat 256 signed.payload.sequence
    | _ => 0
  verifyingKey key := key
  sign _ _ := "signature"
  verifyStrict _ _ _ := .ok ()
  hmacSha256 _ _ := []
  parsePush _ := none

/-- The history of the sample's repository is the order of its commits. -/
def history (_ : ProjectId) (c d : GitCommitId) : Prop := c < d

def relate (c d : GitCommitId) : CommitRelationship :=
  if d = c then .same else if c < d then .fastForward else .rewind

def outside : SourceOutside Nat where
  repositoryIdentity _ := pure (.ok 1)
  fetchRemoteMain _ := pure (.ok secondCommit)
  fetchRemoteMainReconciliation _ := pure (.ok secondCommit)
  notifyPriorityFetch _ := pure (.ok ())
  clearPriorityFetch _ := pure (.ok ())
  containsCommit _ _ := pure (.ok true)
  relationship _ c d := pure (.ok (relate c d))
  acceptedHeadFailure _ := pure none
  swapAttempted _ := pure (true, none)
  validateLock := pure (.ok ())
  newUuid := pure ⟨1, by decide⟩

def policy : InstalledSourceProjectPolicy where
  projectId := project
  repositoryIdentity := 1
  githubRepository := "owner/demo"
  installedPolicy := ⟨1, 2⟩
  autoDeploy := true
  maximumAttempts := 3
  releaseClass := .codeOnlyCompatible

def start : BrokerStart where
  keyId := "key"
  signingKey := 3
  attestationTtlMs := 60000
  installedPolicies := [policy]
  startedAtMs := 0

/-- The state that a program leaves. -/
def after {α : Type} (x : Prog (SourceState Nat) SourceFailure α) (s : SourceState Nat) :
    SourceState Nat := (x.run s).2

theorem run_eq {α : Type} {x : Prog (SourceState Nat) SourceFailure α} {s : SourceState Nat}
    {r : Except SourceFailure α} (h : (x.run s).1 = r) : x.run s = (r, after x s) :=
  Prod.ext h rfl

def empty : SourceState Nat := ⟨.empty, fun _ => none, 0⟩

def broker : DurableSourceBroker := start.broker codec 1

abbrev service : SourceService Nat := sourceService codec outside

/-- The sample's broker before its first start. -/
abbrev fresh : SourceConfig Nat := newBroker (fun _ => none) 0

/-- A broker that serves while no call runs. -/
abbrev idle (b : DurableSourceBroker) (s : SourceState Nat) : SourceConfig Nat :=
  ⟨s, .serving b fun _ => none, some b⟩

def started : SourceState Nat := after (service.boot start) empty

def push (deliveryId : String) (old : Option GitCommitId) (new : GitCommitId) : SourceCall :=
  .processDirectPush project deliveryId "refs/heads/main" old new 10

def pushedOnce : SourceState Nat :=
  after (service.call broker (push "one" none firstCommit)) started

def pushedTwice : SourceState Nat :=
  after (service.call broker (push "two" (some firstCommit) secondCommit)) pushedOnce

theorem outside_reports : ReportsAncestry outside history := by
  refine ⟨fun _ c d _ h => ?_, fun _ c d _ h => ?_⟩
  · have hsame : relate c d = .same := Except.ok.inj h
    unfold relate at hsame
    split_ifs at hsame with hcommit
    exact hcommit
  · have hahead : relate c d = .fastForward := Except.ok.inj h
    unfold relate at hahead
    split_ifs at hahead with _ hcommit
    exact hcommit

theorem start_reaches : Reachable service fresh (idle broker started) :=
  .booted (Prod.ext (by decide +kernel) rfl)

theorem pushedTwice_accepted_heads :
    ∃ c, Reachable service fresh c ∧
      (projectView c project).accepted.length = 2 ∧
      (∀ i r, (projectView c project).accepted[i]? = some r →
        ChainEntry (Descends history project) (projectView c project).accepted i r) ∧
      (projectView c project).ref = (projectView c project).head ∧
      (projectView c project).head = some secondCommit := by
  have hsince : Reachable service (idle broker started) (idle broker pushedTwice) :=
    (Reachable.answered (push "one" none firstCommit) rfl rfl).trans
      (Reachable.answered (push "two" (some firstCommit) secondCommit) rfl rfl)
  have hreach := start_reaches.trans hsince
  obtain ⟨hchain, -, -, -, -, href⟩ := accepted_heads_linear outside_reports hreach project
  exact ⟨_, hreach, by decide +kernel, hchain,
    href _ _ start_reaches (by decide +kernel) hsince (by decide +kernel) (by decide +kernel),
    by decide +kernel⟩

end SourceSample

end Rdashboard
