import Rdashboard.Security.Progress

/-! # Receipts of the phase journal

An entry is committed exactly when it has a receipt, and the receipt says what the entry says.
Neither changes again.  Both are invariants of the course, so no operation is looked at here. -/

namespace Rdashboard

open Relational SecurityStore Course
variable {phase : OperationPhase} {e e' : PhaseJournalEntry} {C' : Course} {op : SecurityOperation}

namespace SecurityStore

variable {codec : Codec} {guard : SecurityStore → SecurityOperation → Prop} {S S' : SecurityStore}

/-- What every change of a course preserves holds of every course along a run. -/
theorem LeadsTo.course_invariant {I : Uuid → Course → Prop} (h₀ : ∀ a, I a (S.course a))
    (hstep : ∀ S op a C, guard S op → I a (S.course a) → CourseStep codec a op (S.course a) C → I a C)
    (h : LeadsTo codec guard S S') (a : Uuid) : I a (S'.course a) := by
  refine Reaches.invariant (I := fun S => ∀ a, I a (S.course a)) h₀ (fun S op _ hI hg a => ?_) h a
  rcases course_cases codec op S a with hsame | hC
  · rw [hsame]
    exact hI a
  · exact hstep S op a _ hg (hI a) hC

end SecurityStore

namespace Course

variable {C : Course} {key k : PhaseKey} {r : PhaseReceiptRow}

theorem entries_setEntry (k : PhaseKey) :
    (C.setEntry key e).entries k = if k = key then some e else C.entries k := by
  simp [setEntry, Function.update_apply]

theorem entries_ne (hk : k ≠ key) : (C.setEntry key e).entries k = C.entries k :=
  (entries_setEntry k).trans (if_neg hk)

theorem forall_setEntry {P : PhaseKey → PhaseJournalEntry → Prop}
    (h : ∀ k x, C.entries k = some x → P k x) (he : P key e) :
    ∀ k x, (C.setEntry key e).entries k = some x → P k x := by
  intro k x hx
  rw [entries_setEntry] at hx
  split at hx
  · cases hx
    subst k
    exact he
  · exact h k x hx

theorem receipts_setReceipt (k : PhaseKey) :
    (C.setReceipt key r).receipts k = if k = key then some r else C.receipts k := by
  simp [setReceipt, Function.update_apply]

theorem not_committed (he : C.entries key = some e) (hs : e.status ≠ .committed) :
    ¬ C.Committed key := by
  rintro ⟨e', he', hs'⟩
  rw [he] at he'
  cases he'
  exact hs hs'

theorem not_committed_new (hnew : C.entries key = none) : ¬ C.Committed key := by
  rintro ⟨e, he, -⟩
  rw [hnew] at he
  cases he

theorem committed_setEntry (k : PhaseKey) : (C.setEntry key e).Committed k ↔
    if k = key then e.status = .committed else C.Committed k := by
  unfold Committed
  rw [entries_setEntry]
  split <;> simp

theorem committed_setPending (hold : ¬ C.Committed key) (hs : e.status ≠ .committed) (k : PhaseKey) :
    (C.setEntry key e).Committed k ↔ C.Committed k := by
  rw [committed_setEntry]
  split
  · subst k
    exact ⟨fun hc => absurd hc hs, fun hc => absurd hc hold⟩
  · rfl

theorem pending_setEntry (k : PhaseKey) : (C.setEntry key e).Pending k ↔
    if k = key then e.status ≠ .committed else C.Pending k := by
  unfold Pending
  rw [entries_setEntry]
  split <;> simp

end Course

theorem EntryStep.from_pending (h : EntryStep phase e e') : e.status ≠ .committed := by
  cases h with
  | observe hs => rw [hs]; decide
  | verify hs => rw [hs]; decide
  | ambiguate hs => exact hs
  | misobserve hs => exact hs

theorem EntryStep.to_pending (h : EntryStep phase e e') : e'.status ≠ .committed := by
  cases h <;> simp

theorem EntryStep.slot (h : EntryStep phase e e') : e'.slot = e.slot := by
  cases h <;> rfl

/-- The statuses of an entry whose effect has been observed. -/
def PhaseJournalStatus.Settled (s : PhaseJournalStatus) : Prop :=
  s = .observed ∨ s = .verified ∨ s = .committed

instance (s : PhaseJournalStatus) : Decidable s.Settled :=
  inferInstanceAs (Decidable (s = .observed ∨ s = .verified ∨ s = .committed))

/-- A receipt row says what the entry of its phase says. -/
structure PhaseReceiptRow.Attests (codec : Codec) (r : PhaseReceiptRow) (e : PhaseJournalEntry) :
    Prop where
  attemptId : r.receipt.attemptId = e.attemptId
  phase : r.receipt.phase = e.key.phase
  branch : r.receipt.branch = e.key.branch
  intentDigest : r.receipt.intentDigest = e.intentDigest
  observationDigest : some r.receipt.observationDigest = e.observationDigest
  artifacts : r.receipt.artifacts = e.artifacts
  valid : r.receipt.artifacts.validateForPhase r.receipt.phase = .ok ()
  digest : r.receiptDigest = r.receipt.receiptDigest
  digest_valid : r.receipt.hasValidDigest codec = true

/-- Entries and receipts of an attempt agree. -/
structure Course.Receipted (codec : Codec) (a : Uuid) (C : Course) : Prop where
  slot : ∀ key e, C.entries key = some e → e.slot = (a, key)
  settled : ∀ key e, C.entries key = some e → e.status.Settled →
    e.artifacts.validateForPhase key.phase = .ok () ∧ e.observationDigest.isSome
  committed_iff : ∀ key, C.Committed key ↔ (C.receipts key).isSome
  attests : ∀ key e r, C.entries key = some e → C.receipts key = some r → r.Attests codec e

namespace Course.Receipted

variable {codec : Codec} {a : Uuid} {C : Course} {key : PhaseKey}

theorem empty : empty.Receipted codec a where
  slot := by rintro key e ⟨⟩
  settled := by rintro key e ⟨⟩
  committed_iff := fun key => ⟨by rintro ⟨e, ⟨⟩, -⟩, by rintro ⟨⟩⟩
  attests := by rintro key e r ⟨⟩

section

variable (h : C.Receipted codec a)
include h

theorem congr (hentries : C'.entries = C.entries)
    (hreceipts : C'.receipts = C.receipts) : C'.Receipted codec a := by
  refine { slot := ?_, settled := ?_, committed_iff := ?_, attests := ?_ }
  · rw [hentries]
    exact h.slot
  · rw [hentries]
    exact h.settled
  · unfold Committed
    rw [hentries, hreceipts]
    exact h.committed_iff
  · rw [hentries, hreceipts]
    exact h.attests

/-- Writing an entry that is not committed in place of none or of one that is not. -/
theorem setEntry (hold : ¬ C.Committed key) (hslot : e.slot = (a, key))
    (hs : e.status ≠ .committed) (hsettled : e.status.Settled →
      e.artifacts.validateForPhase key.phase = .ok () ∧ e.observationDigest.isSome) :
    (C.setEntry key e).Receipted codec a where
  slot := forall_setEntry h.slot hslot
  settled := forall_setEntry h.settled hsettled
  committed_iff k := (committed_setPending hold hs k).trans (h.committed_iff k)
  attests := by
    intro k x r hx hr
    rw [entries_setEntry] at hx
    split at hx
    · subst k
      exact absurd ((h.committed_iff key).mpr (Option.isSome_of_eq_some hr)) hold
    · exact h.attests k x r hx hr

/-- Giving a pending entry a status that claims no observation. -/
theorem restatus {s : PhaseJournalStatus} {t : Int}
    (he : C.entries key = some e) (hs : e.status ≠ .committed) (hs' : ¬ s.Settled) :
    (C.setEntry key { e with status := s, updatedAtMs := t }).Receipted codec a :=
  h.setEntry (not_committed he hs) (h.slot key e he) (fun hc => hs' (.inr (.inr hc)))
    fun hsettled => absurd hsettled hs'

theorem commit {d : EvidenceDigest} {t : Int}
    (he : C.entries key = some e) (hs : e.status = .verified) (hd : e.observationDigest = some d) :
    ((C.setReceipt key (committedRow codec a key e d t)).setEntry key
      { e with status := .committed, updatedAtMs := t }).Receipted codec a := by
  have hslot := h.slot key e he
  have hvalid := h.settled key e he (.inr (.inl hs))
  refine { slot := forall_setEntry h.slot hslot
           settled := forall_setEntry h.settled fun _ => hvalid, committed_iff := ?_, attests := ?_ }
  · intro k
    rw [committed_setEntry]
    change _ ↔ ((C.setReceipt key _).receipts k).isSome
    rw [receipts_setReceipt]
    split
    · simp
    · exact h.committed_iff k
  · intro k x r hx hr
    change (C.setReceipt key _).receipts k = some r at hr
    rw [entries_setEntry] at hx
    rw [receipts_setReceipt] at hr
    split at hx
    · subst k
      rw [if_pos rfl] at hr
      cases hx
      cases hr
      exact
        { attemptId := rfl
          phase := rfl
          branch := rfl
          intentDigest := rfl
          observationDigest := hd.symm
          artifacts := rfl
          valid := (congrArg (fun s : Uuid × PhaseKey =>
            e.artifacts.validateForPhase s.2.phase) hslot).trans hvalid.1
          digest := rfl
          digest_valid := decide_eq_true rfl }
    · rw [if_neg (by assumption)] at hr
      exact h.attests k x r hx hr

/-- Every change of a course keeps entries and receipts in agreement. -/
theorem step (hstep : CourseStep codec a op C C') : C'.Receipted codec a := by
  cases hstep with
  | intend ha hkey hadmits hnew hfree =>
    refine h.setEntry (not_committed_new hnew) (Prod.ext ha rfl)
      (by simp [PhaseIntentRequest.entry]) ?_
    rintro (hs | hs | hs) <;> cases hs
  | move he hmove ho =>
    refine h.setEntry (not_committed he hmove.from_pending)
      (hmove.slot.trans (h.slot _ _ he)) hmove.to_pending ?_
    cases hmove with
    | observe hs hv => exact fun _ => ⟨hv, rfl⟩
    | verify hs =>
      have hsettled := h.settled _ _ he (.inl hs)
      exact fun _ => hsettled
    | ambiguate hs => rintro (hs | hs | hs) <;> cases hs
    | misobserve hs => rintro (hs | hs | hs) <;> cases hs
  | commit he hs hd hr ho => exact h.commit he hs hd
  | reject he hs hr =>
    exact (h.restatus he (by rw [hs]; decide) (by decide)).congr rfl rfl
  | compensate he hs hd hartifacts hr hp hc ho =>
    exact (h.restatus he (by rw [hs]; decide) (by decide)).congr rfl rfl
  | take hnone he hp hs hpending => exact h.congr rfl rfl
  | bindSpec ho hnew => exact h.congr rfl rfl
  | bindChain hb ho hnew => exact h.congr rfl rfl

end

end Course.Receipted

/-- A committed entry and its receipt do not change. -/
theorem CourseStep.keeps_committed {codec : Codec} {a : Uuid}
    {C : Course} {key : PhaseKey} (h : CourseStep codec a op C C')
    (he : C.entries key = some e) (hs : e.status = .committed) :
    C'.entries key = some e ∧ C'.receipts key = C.receipts key := by
  -- a changed entry was missing or pending, so it is not this one
  have hne : ∀ {k : PhaseKey}, ¬ C.Committed k → key ≠ k := by
    rintro k hk rfl
    exact hk ⟨e, he, hs⟩
  cases h with
  | intend ha hkey hadmits hnew hfree =>
    have hk := hne (not_committed_new hnew)
    exact ⟨(entries_ne hk).trans he, rfl⟩
  | move hx hmove ho =>
    have hk := hne (not_committed hx hmove.from_pending)
    exact ⟨(entries_ne hk).trans he, rfl⟩
  | commit hx hv hd hr ho =>
    have hk := hne (not_committed hx (by rw [hv]; decide))
    exact ⟨(entries_ne hk).trans he, (receipts_setReceipt key).trans (if_neg hk)⟩
  | reject hx hi hr =>
    have hk := hne (not_committed hx (by rw [hi]; decide))
    exact ⟨(entries_ne hk).trans he, rfl⟩
  | compensate hx hn hd hartifacts hr hp hc ho =>
    have hk := hne (not_committed hx (by rw [hn]; decide))
    exact ⟨(entries_ne hk).trans he, rfl⟩
  | take hnone hx hp hs hpending => exact ⟨he, rfl⟩
  | bindSpec ho hnew => exact ⟨he, rfl⟩
  | bindChain hb ho hnew => exact ⟨he, rfl⟩

namespace SecurityStore

variable {codec : Codec} {guard : SecurityStore → SecurityOperation → Prop} {S S' : SecurityStore}
  {a : Uuid} {key : PhaseKey}

theorem ReachableBy.receipted (h : ReachableBy codec guard S) (a : Uuid) :
    (S.course a).Receipted codec a :=
  LeadsTo.course_invariant (fun _ => Course.Receipted.empty) (fun _ _ _ _ _ hC hstep => hC.step hstep)
    h a

theorem LeadsTo.keeps_committed (h : LeadsTo codec guard S S')
    (he : S.loadPhaseEntry a key = some e) (hs : e.status = .committed) :
    S'.loadPhaseEntry a key = some e ∧ S'.receiptRow a key = S.receiptRow a key := by
  refine course_invariant (I := fun b C => b = a →
    C.entries key = some e ∧ C.receipts key = S.receiptRow a key) ?_ ?_ h a rfl
  · rintro b rfl
    exact ⟨he, rfl⟩
  · rintro S op b C - hI hstep rfl
    obtain ⟨he', hr'⟩ := hI rfl
    obtain ⟨he'', hr''⟩ := hstep.keeps_committed he' hs
    exact ⟨he'', hr''.trans hr'⟩

theorem LeadsTo.keeps_receipt {r : PhaseReceiptRow} (h : LeadsTo codec guard S S')
    (hS : ReachableBy codec guard S) (hr : S.receiptRow a key = some r) :
    S'.receiptRow a key = some r := by
  obtain ⟨e, he, hs⟩ := ((hS.receipted a).committed_iff key).mpr (Option.isSome_of_eq_some hr)
  rw [(h.keeps_committed he hs).2, hr]

end SecurityStore

end Rdashboard
