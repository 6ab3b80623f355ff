import Rdashboard.Library.Frame
import Rdashboard.Source.Service

/-! # What a project sees of the ledger

Every project has a row, its accepted heads, at most one pending update and at most one ticket, and
its repository has an accepted ref: that is the view of the project.  One lemma per transaction
says when it succeeds and what it does to the view of its project; no other view changes. -/

namespace Rdashboard

open Relational Interleaving Txn TableRef Table List

structure SourceView where
  row : Option SourceProjectRow
  accepted : List AcceptedHeadRow
  pending : Option RefUpdateRow
  ticket : Option MutationTicketRow
  ref : Option GitCommitId

namespace SourceView

variable (v : SourceView) (p : ProjectId)

def head : Option GitCommitId := v.row.bind (·.canonicalHead)

def sequence : Nat := v.row.elim 0 (·.sequence)

def state : SourceProjectState := v.row.elim .ready (·.state)

def blockedSha : Option GitCommitId := v.row.bind (·.blockedSha)

def attestation : Option SignedAcceptedHeadV1 := v.row.bind (·.attestation)

def attestationDigest : Option EvidenceDigest := v.row.bind (·.attestationDigest)

/-- The snapshot that `load_snapshot` reads from the row. -/
def snapshot : SourceSnapshot := v.row.elim (.empty p) (·.snapshot p)

theorem snapshot_projectId : (v.snapshot p).projectId = p := by
  unfold snapshot
  cases v.row <;> rfl

theorem snapshot_head : (v.snapshot p).head = v.head := by
  unfold snapshot head
  cases v.row <;> rfl

theorem snapshot_sequence : (v.snapshot p).sequence = v.sequence := by
  unfold snapshot sequence
  cases v.row <;> rfl

theorem snapshot_state : (v.snapshot p).state = v.state := by
  unfold snapshot state
  cases v.row <;> rfl

theorem snapshot_blockedSha : (v.snapshot p).blockedSha = v.blockedSha := by
  unfold snapshot blockedSha
  cases v.row <;> rfl

theorem snapshot_attestation : (v.snapshot p).attestation = v.attestation := by
  unfold snapshot attestation
  cases v.row <;> rfl

theorem snapshot_attestationDigest : (v.snapshot p).attestationDigest = v.attestationDigest := by
  unfold snapshot attestationDigest
  cases v.row <;> rfl

/-- The head, its sequence, its attestation and the accepted ref are as in `v`. -/
def Frozen (v v' : SourceView) : Prop :=
  v'.head = v.head ∧ v'.sequence = v.sequence ∧ v'.attestation = v.attestation ∧
    v'.attestationDigest = v.attestationDigest ∧ v'.ref = v.ref

end SourceView

namespace SourceLedger

/-- The view of a project whose repository has the accepted ref `ref`. -/
def view (L : SourceLedger) (p : ProjectId) (ref : Option GitCommitId) : SourceView where
  row := L.projects.lookup (·.projectId) p
  accepted := L.acceptedHeads.rows.filter fun r => decide (r.projectId = p)
  pending := L.refUpdate p
  ticket := L.ticket p
  ref := ref

/-- The tables that views show. -/
def shown (L : SourceLedger) : Table sourceProjectSchema × Table acceptedHeadSchema ×
    Table refUpdateSchema × Table mutationTicketSchema :=
  (L.projects, L.acceptedHeads, L.refUpdates, L.tickets)

variable {L L' : SourceLedger} {p : ProjectId} {ref : Option GitCommitId} {u : Unit}

theorem view_of_shown (h : L'.shown = L.shown) : L'.view p ref = L.view p ref := by
  simp only [shown, Prod.mk.injEq] at h
  obtain ⟨hprojects, haccepted, hpending, htickets⟩ := h
  rw [view, hprojects, haccepted, refUpdate, hpending, ticket, htickets]
  rfl

/-- The transaction changes the view of `p` by `f`, and no other view. -/
structure Touches (p : ProjectId) (f : SourceView → SourceView) (L L' : SourceLedger) : Prop where
  own : ∀ ref, L'.view p ref = f (L.view p ref)
  others : ∀ q ref, q ≠ p → L'.view q ref = L.view q ref

theorem touches_of_shown (h : L'.shown = L.shown) : Touches p id L L' :=
  ⟨fun _ => view_of_shown h, fun _ _ _ => view_of_shown h⟩

theorem Touches.of_ite {f : SourceView → SourceView} (h : ∀ q ref, L'.view q ref =
      if p = q then f (L.view q ref) else L.view q ref) : Touches p f L L' :=
  ⟨fun ref => (h p ref).trans (if_pos rfl), fun q ref hq => (h q ref).trans (if_neg (Ne.symm hq))⟩

theorem projects_by_id : sourceProjectSchema.Separates (·.projectId) := Schema.separates_keyed _ _

theorem refUpdates_by_id : refUpdateSchema.Separates (·.projectId) := Schema.separates_keyed _ _

theorem tickets_by_id : mutationTicketSchema.Separates (·.projectId) := Schema.separates_keyed _ _

theorem loadSnapshot_ok {current : SourceSnapshot} (ref : Option GitCommitId)
    (h : loadSnapshot p L = .ok current) :
    current = (L.view p ref).snapshot p := by
  unfold loadSnapshot at h
  unfold SourceView.snapshot view
  split at h
  · rename_i hrow
    cases h
    rw [hrow]
    rfl
  · rename_i r hrow
    simp only [Check.ok_iff] at h
    obtain ⟨-, -, rfl⟩ := h
    rw [hrow]
    rfl

/-! ### Statements -/

/-- The table has one row per project, which is the component `get` of its view. -/
structure ShownAs {ρ : Type} {schema : Schema ρ} (T : TableRef SourceLedger schema)
    (key : ρ → ProjectId) (get : SourceView → Option ρ)
    (put : Option ρ → SourceView → SourceView) : Prop where
  separates : schema.Separates key
  lookup : ∀ L q ref, (T.get L).lookup key q = get (L.view q ref)
  set : ∀ L t q ref, (T.set t L).view q ref = put (t.lookup key q) (L.view q ref)
  same : ∀ v, put (get v) v = v

theorem row_shown : ShownAs sourceProjectsT (·.projectId) (·.row) fun x v => { v with row := x } :=
  ⟨projects_by_id, fun _ _ _ => rfl, fun _ _ _ _ => rfl, fun _ => rfl⟩

theorem pending_shown :
    ShownAs refUpdatesT (·.projectId) (·.pending) fun x v => { v with pending := x } :=
  ⟨refUpdates_by_id, fun _ _ _ => rfl, fun _ _ _ _ => rfl, fun _ => rfl⟩

theorem ticket_shown :
    ShownAs mutationTicketsT (·.projectId) (·.ticket) fun x v => { v with ticket := x } :=
  ⟨tickets_by_id, fun _ _ _ => rfl, fun _ _ _ _ => rfl, fun _ => rfl⟩

namespace ShownAs

variable {ρ : Type} {schema : Schema ρ} {T : TableRef SourceLedger schema} {key : ρ → ProjectId}
  {get : SourceView → Option ρ} {put : Option ρ → SourceView → SourceView} {r : ρ} {w : ρ → Bool}
  {f : ρ → ρ} {n : Nat}
variable (hT : ShownAs T key get put)

include hT

/-- A statement that changes the row of one project. -/
theorem touches {t : Table schema} {g : Option ρ → Option ρ} (ht : ∀ q, t.lookup key q =
      if p = q then g ((T.get L).lookup key q) else (T.get L).lookup key q) :
    Touches p (fun v => put (g (get v)) v) L (T.set t L) := by
  refine .of_ite fun q ref => ?_
  rw [hT.set, ht, hT.lookup]
  split
  · rfl
  · exact hT.same _

theorem insert {foreign : SourceLedger → ρ → Bool}
    (h : (T.insert foreign r : Txn SourceLedger SourceError Unit) L = .ok (u, L')) :
    Touches (key r) (put (some r)) L L' := by
  obtain ⟨-, t, ht, rfl⟩ := insert_ok_iff.mp h
  exact hT.touches (g := fun _ => some r) (lookup_insert hT.separates ht)

theorem delete (hw : ∀ r, w r = true → key r = p)
    (h : (T.delete w : Txn SourceLedger SourceError Nat) L = .ok (n, L')) :
    Touches p (fun v => put ((get v).filter fun r => !w r) v) L L' := by
  obtain ⟨-, rfl⟩ := delete_ok_iff.mp h
  exact hT.touches (lookup_delete_where hT.separates hw)

theorem update (hw : ∀ r, w r = true → key r = p) (hf : ∀ r, key (f r) = key r)
    (h : (T.update w f : Txn SourceLedger SourceError Nat) L = .ok (n, L')) :
    Touches p (fun v => put ((get v).map (assign w f)) v) L L' := by
  obtain ⟨t, ht, -, rfl⟩ := update_ok_iff.mp h
  exact hT.touches (lookup_update_where (fun r _ => hf r) hw ht)

theorem upsert (hf : ∀ q, key q = key r → key (f q) = key q)
    (h : (T.upsert key r f : Txn SourceLedger SourceError Unit) L = .ok (u, L')) :
    Touches (key r) (fun v => put (some ((get v).elim r f)) v) L L' := by
  obtain ⟨t, rfl, ht⟩ := upsert_ok hT.separates hf h
  exact hT.touches (g := fun x => some (x.elim r f)) ht

end ShownAs

theorem touches_insert_accepted {r : AcceptedHeadRow}
    {foreign : SourceLedger → AcceptedHeadRow → Bool}
    (h : (acceptedHeadsT.insert foreign r : Txn SourceLedger SourceError Unit) L = .ok (u, L')) :
    Touches r.projectId (fun v => { v with accepted := v.accepted ++ [r] }) L L' := by
  obtain ⟨-, t, ht, rfl⟩ := insert_ok_iff.mp h
  have hrows : t.rows = L.acceptedHeads.rows ++ [r] := rows_insert ht
  refine ⟨fun ref => ?_, fun q ref hq => ?_⟩
  · unfold view
    change SourceView.mk _ (t.rows.filter _) _ _ _ = _
    rw [hrows, filter_append, filter_singleton, decide_eq_true rfl]
    rfl
  · unfold view
    change SourceView.mk _ (t.rows.filter _) _ _ _ = _
    rw [hrows, filter_append, filter_singleton, decide_eq_false (symm hq)]
    change SourceView.mk _ (_ ++ []) _ _ _ = _
    rw [append_nil]
    rfl

theorem Touches.trans {f g : SourceView → SourceView} {L₁ L₂ L₃ : SourceLedger}
    (h₁ : Touches p f L₁ L₂) (h₂ : Touches p g L₂ L₃) : Touches p (g ∘ f) L₁ L₃ :=
  ⟨fun ref => (h₂.own ref).trans (congrArg g (h₁.own ref)),
    fun q ref hq => (h₂.others q ref hq).trans (h₁.others q ref hq)⟩

end SourceLedger

end Rdashboard
