import Rdashboard.Source.Effects

/-! # The contract of the broker's programs

A project's accepted heads are linked: each continues the one before it.  Its row shows the last of
them, a pending update continues it, and a ticket is for it.  The programs that work for a project
keep this whatever runs for other projects; only the live gate touches tickets, so the programs of
the ingress are calm: they leave a ticket alone, and while there is one also the head and the
ref. -/

namespace Rdashboard

open Relational Interleaving Txn SourceProg SourceLedger Function

variable {W α β ε : Type}
variable {body : Txn SourceLedger SourceError α}

/-! ### The invariant -/

/-- Every row continues the one before it: its sequence is the next one, its previous head is the
head before it, and `R` relates the two. -/
inductive Linked (R : GitCommitId → GitCommitId → Prop) : List AcceptedHeadRow → Prop where
  | nil : Linked R []
  | snoc {rows : List AcceptedHeadRow} {r : AcceptedHeadRow} : Linked R rows →
      r.sequence = rows.length + 1 → r.previousHead = rows.getLast?.map (·.canonicalHead) →
      (∀ h, r.previousHead = some h → R h r.canonicalHead) → Linked R (rows ++ [r])

/-- The payload continues the current head of the project. -/
structure AcceptedHeadV1.Continues (R : GitCommitId → GitCommitId → Prop) (p : ProjectId)
    (v : SourceView) (payload : AcceptedHeadV1) : Prop where
  project : payload.projectId = p
  sequence : payload.sequence = v.sequence + 1
  previous : payload.previousHead = v.head
  related : ∀ h, v.head = some h → R h payload.head

structure SourceView.Sound (R : GitCommitId → GitCommitId → Prop) (p : ProjectId)
    (v : SourceView) : Prop where
  linked : Linked R v.accepted
  sequence : v.sequence = v.accepted.length
  head : v.head = v.accepted.getLast?.map (·.canonicalHead)
  attestation : v.attestation = v.accepted.getLast?.map (·.attestation)
  digest : v.attestationDigest = v.accepted.getLast?.map (·.attestationDigest)
  pending : ∀ r, v.pending = some r → r.signed.payload.Continues R p v
  ticket : ∀ t, v.ticket = some t → v.pending = none ∧ v.sequence = t.sourceSequence ∧
    v.attestationDigest = some t.attestationDigest ∧ v.ref = v.head

/-- A project that is ready and has no pending update has its ref at its head. -/
def SourceView.Settled (v : SourceView) : Prop :=
  v.state = .ready → v.pending = none → v.ref = v.head

/-- The invariant of a project; `live` when the last start that succeeded had it installed. -/
structure SourceView.Inv (R : GitCommitId → GitCommitId → Prop) (live : Prop) (p : ProjectId)
    (v : SourceView) : Prop where
  sound : v.Sound R p
  settled : live → v.Settled

namespace SourceView

variable {R : GitCommitId → GitCommitId → Prop} {p : ProjectId} {v v' : SourceView}

theorem Frozen.refl (v : SourceView) : v.Frozen v := ⟨rfl, rfl, rfl, rfl, rfl⟩

/-- What is sound stays sound when only the state, the evidence or the controls change. -/
theorem Sound.keeps (h : v.Sound R p) (hkeeps : v.Keeps v')
    (hpending : v'.pending = v.pending ∨ v'.pending = none) : v'.Sound R p := by
  obtain ⟨⟨hhead, hsequence, hattestation, hdigest, href⟩, haccepted, hticket⟩ := hkeeps
  refine ⟨haccepted ▸ h.linked, ?_, ?_, ?_, ?_, fun r hr => ?_, fun t ht => ?_⟩
  · rw [hsequence, haccepted, h.sequence]
  · rw [hhead, haccepted, h.head]
  · rw [hattestation, haccepted, h.attestation]
  · rw [hdigest, haccepted, h.digest]
  · rcases hpending with hpending | hpending
    · obtain ⟨hproject, hseq, hprevious, hrelated⟩ := h.pending r (hpending ▸ hr)
      exact ⟨hproject, hsequence ▸ hseq, hhead ▸ hprevious, hhead ▸ hrelated⟩
    · rw [hpending] at hr
      cases hr
  · obtain ⟨hnone, hseq, hdig, hat⟩ := h.ticket t (hticket ▸ ht)
    refine ⟨?_, hsequence ▸ hseq, hdigest ▸ hdig, by rw [href, hhead, hat]⟩
    rcases hpending with hpending | hpending
    · rw [hpending, hnone]
    · exact hpending

theorem Sound.plan (h : v.Sound R p) (hticket : v.ticket = none) {r : RefUpdateRow}
    (hr : r.signed.payload.Continues R p v) :
    ({ v with pending := some r } : SourceView).Sound R p := by
  refine ⟨h.linked, h.sequence, h.head, h.attestation, h.digest, fun s hs => ?_, fun t ht => ?_⟩
  · cases hs
    exact ⟨hr.project, hr.sequence, hr.previous, hr.related⟩
  · exact absurd (hticket.symm.trans ht) (by simp)

theorem Sound.move (h : v.Sound R p) (hticket : v.ticket = none) (ref : Option GitCommitId) :
    ({ v with ref := ref } : SourceView).Sound R p := by
  refine ⟨h.linked, h.sequence, h.head, h.attestation, h.digest, fun s hs => ?_, fun t ht => ?_⟩
  · have hr := h.pending s hs
    exact ⟨hr.project, hr.sequence, hr.previous, hr.related⟩
  · exact absurd (hticket.symm.trans ht) (by simp)

theorem Sound.accept (h : v.Sound R p) (hticket : v.ticket = none) {expected : SourceSnapshot}
    {signed : SignedAcceptedHeadV1} {digest : EvidenceDigest}
    (hsigned : signed.payload.Continues R p v) :
    (acceptInto expected signed digest v).Sound R p := by
  obtain ⟨hproject, hsequence, hprevious, hrelated⟩ := hsigned
  have haccepted : (acceptInto expected signed digest v).accepted =
      v.accepted ++ [acceptedHeadRow signed digest] := rfl
  refine ⟨?_, ?_, ?_, ?_, ?_, fun r hr => ?_, fun t ht => ?_⟩
  · refine .snoc h.linked ?_ ?_ fun c hc => ?_
    · exact hsequence.trans (congrArg (· + 1) h.sequence)
    · exact hprevious.trans h.head
    · exact hrelated c (hprevious.symm.trans hc)
  · rw [acceptInto_sequence, haccepted, hsequence, h.sequence, List.length_append]
    rfl
  · rw [acceptInto_head, haccepted, List.getLast?_concat]
    rfl
  · rw [(acceptInto_attestation v).1, haccepted, List.getLast?_concat]
    rfl
  · rw [(acceptInto_attestation v).2, haccepted, List.getLast?_concat]
    rfl
  · cases hr
  · exact absurd (hticket.symm.trans ht) (by simp)

/-- The ticket stays, and while there is one the head and the ref stay. -/
def Calm (v v' : SourceView) : Prop :=
  v'.ticket = v.ticket ∧ ∀ t, v.ticket = some t → v.Frozen v'

theorem Calm.refl (v : SourceView) : v.Calm v := ⟨rfl, fun _ _ => .refl v⟩

theorem Calm.of_keeps (h : v.Keeps v') : v.Calm v' := ⟨h.ticket, fun _ _ => h.frozen⟩

theorem Calm.of_free (h : v.ticket = none) (h' : v'.ticket = none) : v.Calm v' :=
  ⟨h'.trans h.symm, fun t ht => absurd (h.symm.trans ht) (by simp)⟩

end SourceView

/-! ### Steps -/

/-- What the slot of a project shows; a call without a mutex sees nothing. -/
def sourceView : SourceSlot → SourceState W → SourceView
  | .inl p, s => s.ledger.view p (s.refs p)
  | .inr _, _ => ⟨none, [], none, none, none⟩

/-- A program that no view shows. -/
def Quiet (x : Prog (SourceState W) ε α) : Prop :=
  x.Steps fun s s' => (sourceView · s') = (sourceView · s)

theorem quiet_transact
    (h : Txn.Keeps shown body := by exact .of_shape) : Quiet (transact body : SourceProg W α) := by
  refine Prog.Steps.atomic fun s => ?_
  cases hb : body s.ledger with
  | error e => rfl
  | ok r =>
    funext k
    cases k with
    | inl p => exact view_of_shown (h _ _ _ hb)
    | inr n => rfl

theorem quiet_consult (f : StateM W (Except SourceError α)) : Quiet (consult f) :=
  Prog.Steps.atomic fun s => by funext k; cases k <;> rfl

section Steps

variable {p : ProjectId} {inv : SourceView → Prop} {guar : SourceView → SourceView → Prop}
  {v : SourceView}
variable {x : Prog (SourceState W) ε α} {Q : Except SourceError β → SourceView → Prop}
  {f : α → Prog (SourceState W) ε β} {outside : SourceOutside W}

/-- The contract of a program that works for the project `p`. -/
def projectContract (W : Type) (p : ProjectId) (inv : SourceView → Prop)
    (guar : SourceView → SourceView → Prop) : Contract (SourceState W) SourceView :=
  slotContract sourceView (.inl p) inv guar

theorem Quiet.sat (hx : Quiet x) {Q : Except ε α → SourceView → Prop}
    (hv : inv v) (hg : guar v v) (hQ : ∀ r, Q r v) : Sat (projectContract W p inv guar) Q x v := by
  refine Prog.Steps.sat (fun s s' h => ?_) hx hv hg hQ
  exact ⟨congrFun h (.inl p), fun j _ => congrFun h j⟩

/-- A quiet program, and what follows it. -/
theorem Quiet.sat_bind (hx : Quiet x) {Q : Except ε β → SourceView → Prop} (hv : inv v)
    (hg : guar v v) (herr : ∀ e, Q (.error e) v)
    (hok : ∀ a, Sat (projectContract W p inv guar) Q (f a) v) :
    Sat (projectContract W p inv guar) Q (x >>= f) v := by
  refine Interleaving.sat_bind (hx.sat hv hg fun r => ?_)
  cases r with
  | ok a => exact hok a
  | error e => exact herr e

theorem sat_transact {Q : Except SourceError α → SourceView → Prop} (hv : inv v) (hg : guar v v)
    (herr : ∀ e, Q (.error e) v)
    (hok : ∀ L a L', body L = .ok (a, L') → L.view p v.ref = v →
      (∀ q ref, q ≠ p → L'.view q ref = L.view q ref) ∧ guar v (L'.view p v.ref) ∧
        inv (L'.view p v.ref) ∧ Q (.ok a) (L'.view p v.ref)) :
    Sat (projectContract W p inv guar) Q (transact body) v := by
  refine sat_atomic hv fun s hs => ?_
  have href : s.refs p = v.ref := congrArg SourceView.ref hs
  cases hb : body s.ledger with
  | error e =>
    refine ⟨fun _ _ => rfl, ?_⟩
    change guar v (sourceView (.inl p) s) ∧ inv (sourceView (.inl p) s) ∧
      Q (.error e) (sourceView (.inl p) s)
    rw [show sourceView (.inl p) s = v from hs]
    exact ⟨hg, hv, herr e⟩
  | ok r =>
    obtain ⟨a, L'⟩ := r
    obtain ⟨hothers, hrest⟩ := hok s.ledger a L' hb (href ▸ hs)
    refine ⟨fun j hj => ?_, ?_⟩
    · cases j with
      | inl q => exact hothers q _ fun hq => hj (congrArg Sum.inl hq)
      | inr n => rfl
    · change guar v (L'.view p (s.refs p)) ∧ inv (L'.view p (s.refs p)) ∧
        Q (.ok a) (L'.view p (s.refs p))
      rw [href]
      exact hrest

theorem sat_unseen {g : SourceState W → Except ε α × SourceState W}
    {Q : Except ε α → SourceView → Prop} (hunseen : ∀ s k, sourceView k (g s).2 = sourceView k s)
    (hv : inv v) (hg : guar v v) (hQ : ∀ s, sourceView (.inl p) s = v → Q (g s).1 v) :
    Sat (projectContract W p inv guar) Q (Prog.atomic g) v := by
  refine sat_atomic hv fun s hs => ?_
  rw [show (projectContract W p inv guar).view (g s).2 = v from (hunseen s (.inl p)).trans hs]
  exact ⟨fun j _ => hunseen s j, hg, hv, hQ s hs⟩

/-- The program changes nothing and answers `a`, if it answers. -/
def Observes (p : ProjectId) (inv : SourceView → Prop) (guar : SourceView → SourceView → Prop)
    (v : SourceView) (a : α) (x : Prog (SourceState W) ε α) : Prop :=
  Sat (projectContract W p inv guar) (fun r v' => v' = v ∧ ∀ a', r = .ok a' → a' = a) x v

theorem Observes.bind {a : α} {Q : Except ε β → SourceView → Prop} (hx : Observes p inv guar v a x)
    (herr : ∀ e, Q (.error e) v) (hok : Sat (projectContract W p inv guar) Q (f a) v) :
    Sat (projectContract W p inv guar) Q (x >>= f) v := by
  refine sat_bind (hx.mono fun r v' _ hr => ?_)
  obtain ⟨rfl, hr⟩ := hr
  cases r with
  | ok a' => exact hr a' rfl ▸ hok
  | error e => exact herr e

theorem Observes.mapError {ε' : Type} {a : α} {g : ε → ε'}
    (hx : Observes p inv guar v a x) : Observes p inv guar v a (Prog.mapError g x) := by
  refine sat_mapError (hx.mono fun r v' _ hr => ⟨hr.1, fun a' ha' => ?_⟩)
  cases r with
  | ok b => exact hr.2 a' (congrArg Except.ok (Except.ok.inj ha'))
  | error e => cases ha'

theorem observes_query {f : SourceLedger → Except SourceError α} {a : α} (hv : inv v)
    (hg : guar v v) (hf : ∀ L a', L.view p v.ref = v → f L = .ok a' → a' = a) :
    Observes p inv guar v a (transact (query f) : SourceProg W α) := by
  refine sat_transact hv hg (fun e => ⟨rfl, nofun⟩) fun L a' L' h hview => ?_
  obtain ⟨hquery, rfl⟩ := query_ok_iff.mp h
  rw [hview]
  exact ⟨fun _ _ _ => rfl, hg, hv, rfl, fun _ ha => Except.ok.inj ha ▸ hf _ _ hview hquery⟩

theorem observes_snapshot (hv : inv v) (hg : guar v v) : Observes p inv guar v (v.snapshot p)
      (DurableSourceBroker.snapshot p : SourceProg W SourceSnapshot) :=
  observes_query hv hg fun L current hview h => by
    rw [loadSnapshot_ok v.ref h, hview]

theorem observes_acceptedHead (hv : inv v) (hg : guar v v) :
    Observes p inv guar v v.ref (acceptedHead outside p) := by
  refine sat_unseen (fun s k => by cases k <;> rfl) hv hg fun s hs => ⟨rfl, fun ref href => ?_⟩
  dsimp only at href
  cases hfail : (outside.acceptedHeadFailure p s.world).1 with
  | some e =>
    rw [hfail] at href
    cases href
  | none =>
    rw [hfail] at href
    exact (Except.ok.inj href).symm.trans (congrArg SourceView.ref hs)

theorem sat_consult {g : StateM W (Except SourceError α)} {f : α → SourceProg W β} (hv : inv v) (hg : guar v v)
    (herr : ∀ e, Q (.error e) v)
    (hok : ∀ a, (∃ w, (g w).1 = .ok a) → Sat (projectContract W p inv guar) Q (f a) v) :
    Sat (projectContract W p inv guar) Q (consult g >>= f) v := by
  refine sat_bind (sat_unseen (fun s k => by cases k <;> rfl) hv hg fun s hs => ?_)
  cases h : (g s.world).1 with
  | error e => exact herr e
  | ok a => exact hok a ⟨s.world, h⟩

/-- A compare-and-swap moves the ref or leaves it, whatever it reports. -/
theorem sat_compareAndSwap {expected : Option GitCommitId}
    {candidate : GitCommitId} {f : Bool → SourceProg W β}
    (hinv : ∀ ref, inv { v with ref := ref }) (hguar : ∀ ref, guar v { v with ref := ref })
    (herr : ∀ e ref, Q (.error e) { v with ref := ref })
    (hmoved : Sat (projectContract W p inv guar) Q (f true) { v with ref := some candidate })
    (hkept : Sat (projectContract W p inv guar) Q (f false) v) :
    Sat (projectContract W p inv guar) Q
      (compareAndSwapAcceptedHead outside p expected candidate >>= f) v := by
  refine sat_bind (sat_atomic (hinv v.ref) fun s hs => ?_)
  dsimp only
  cases hmove : (outside.swapAttempted p s.world).1.1 && decide (s.refs p = expected) with
  | false =>
    rw [if_neg Bool.false_ne_true]
    rw [show (projectContract W p inv guar).view
      { s with refs := s.refs, world := (outside.swapAttempted p s.world).2 } = v from hs]
    refine ⟨fun j _ => by cases j <;> rfl, hguar v.ref, hinv v.ref, ?_⟩
    cases (outside.swapAttempted p s.world).1.2 with
    | some e => exact herr e v.ref
    | none => exact hkept
  | true =>
    rw [if_pos rfl]
    have hview : (projectContract W p inv guar).view { s with
          refs := update s.refs p (some candidate)
          world := (outside.swapAttempted p s.world).2 } =
        { v with ref := some candidate } := by
      rw [← hs]
      change view _ _ (update s.refs p _ p) = _
      rw [update_self]
      rfl
    rw [hview]
    refine ⟨fun j hj => ?_, hguar _, hinv _, ?_⟩
    · cases j with
      | inl q =>
        change view _ _ (update s.refs p _ q) = _
        rw [update_of_ne fun hq => hj (congrArg Sum.inl hq)]
        rfl
      | inr n => rfl
    · cases (outside.swapAttempted p s.world).1.2 with
      | some e => exact herr e _
      | none => exact hmoved

end Steps

end Rdashboard
