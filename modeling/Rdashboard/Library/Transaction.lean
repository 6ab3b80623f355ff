import Rdashboard.Library.Table

/-! # Transactions over a store

A transaction body is a program `Txn σ ε α` over a store `σ`: it reads tables, runs
statements, and either returns a value together with the store it leaves or fails with an
error of type `ε`.  A failed body leaves no store, which is the rollback; a `Session` is a
program that runs several transactions one after another and keeps what the earlier ones
committed when a later one fails.

The `*_ok_iff` lemmas turn "this program succeeds with this result" into the conditions it
tests and the store it builds, one statement at a time; they are the only facts about the
monads that proofs use.  `Reaches` is the reachability of a store by whole operations. -/

namespace Relational

variable {σ ε α β : Type} {ρ : Type} {S : Schema ρ}
variable {c : Prop} {u : Unit} {x : Except ε α} {xs : List α} {I : σ → Prop}

/-- A transaction body. -/
abbrev Txn (σ ε α : Type) := StateT σ (Except ε) α

/-- A program of several transactions: what is committed stays when a later part fails. -/
abbrev Session (σ ε α : Type) := ExceptT ε (StateM σ) α

/-- The errors that the database engine itself raises. -/
class SqlError (ε : Type) where
  constraintViolation : ε
  queryReturnedNoRows : ε

namespace Txn

variable {x : Txn σ ε α} {body : α → Txn σ ε Unit}

/-- `SELECT`: read the store without changing it. -/
def read (f : σ → α) : Txn σ ε α := fun s => .ok (f s, s)

/-- Fail with `e` unless `c` holds. -/
def ensure (c : Prop) [Decidable c] (e : ε) : Txn σ ε Unit := fun s =>
  if c then .ok ((), s) else .error e

/-- The value of an optional row, or the error `e`. -/
def require (o : Option α) (e : ε) : Txn σ ε α := fun s =>
  match o with
  | some a => .ok (a, s)
  | none => .error e

/-- A computation that does not touch the store. -/
def lift (x : Except ε α) : Txn σ ε α := fun s =>
  match x with
  | .ok a => .ok (a, s)
  | .error e => .error e

/-- A read of the store that can fail. -/
def query (f : σ → Except ε α) : Txn σ ε α := fun s =>
  match f s with
  | .ok a => .ok (a, s)
  | .error e => .error e

/-- Run `body` on every element, in order. -/
def each (body : α → Txn σ ε Unit) : List α → Txn σ ε Unit
  | [] => pure ()
  | x :: xs => do body x; each body xs

variable {s s' : σ} {a : α} {b : β} {e : ε}

theorem pure_ok_iff {a' : α} : (pure a : Txn σ ε α) s = .ok (a', s') ↔ a = a' ∧ s = s' := by
  change Except.ok (a, s) = Except.ok (a', s') ↔ _
  simp

theorem throw_ok_iff : (throw e : Txn σ ε α) s = .ok (a, s') ↔ False := by
  change Except.error e = Except.ok (a, s') ↔ _
  simp

theorem bind_ok_iff {f : α → Txn σ ε β} :
    (x >>= f) s = .ok (b, s') ↔ ∃ a s₁, x s = .ok (a, s₁) ∧ f a s₁ = .ok (b, s') := by
  change (x s >>= fun p => f p.1 p.2) = _ ↔ _
  cases h : x s with
  | error e => simp [bind, Except.bind]
  | ok p =>
    obtain ⟨a, s₁⟩ := p
    simp [bind, Except.bind]

theorem map_ok_iff {f : α → β} : (f <$> x) s = .ok (b, s') ↔ ∃ a, x s = .ok (a, s') ∧ f a = b := by
  rw [map_eq_pure_bind, bind_ok_iff]
  constructor
  · rintro ⟨a, s₁, hx, hb⟩
    obtain ⟨rfl, rfl⟩ := pure_ok_iff.mp hb
    exact ⟨a, hx, rfl⟩
  · rintro ⟨a, hx, rfl⟩
    exact ⟨a, s', hx, pure_ok_iff.mpr ⟨rfl, rfl⟩⟩

theorem read_ok_iff {f : σ → α} : (read f : Txn σ ε α) s = .ok (a, s') ↔ f s = a ∧ s = s' := by
  simp [read]

theorem ensure_ok_iff [Decidable c] : (ensure c e : Txn σ ε Unit) s = .ok (u, s') ↔ c ∧ s = s' := by
  by_cases h : c <;> simp [ensure, h]

theorem require_ok_iff {o : Option α} :
    (require o e : Txn σ ε α) s = .ok (a, s') ↔ o = some a ∧ s = s' := by
  cases o <;> simp [require]

theorem lift_ok_iff {x : Except ε α} :
    (lift x : Txn σ ε α) s = .ok (a, s') ↔ x = .ok a ∧ s = s' := by
  cases x <;> simp [lift]

theorem query_ok_iff {f : σ → Except ε α} :
    (query f : Txn σ ε α) s = .ok (a, s') ↔ f s = .ok a ∧ s = s' := by
  cases h : f s <;> simp [query, h]

theorem ite_ok_iff [Decidable c] {y : Txn σ ε α} : (if c then x else y) s = .ok (a, s') ↔
      (c ∧ x s = .ok (a, s')) ∨ (¬ c ∧ y s = .ok (a, s')) := by
  by_cases h : c <;> simp [h]

/-- A step that leaves the state alone needs no name for the state after it. -/
theorem exists_same_iff {P : σ → Prop} {c : Prop} : (∃ s₁, (c ∧ s = s₁) ∧ P s₁) ↔ c ∧ P s :=
  ⟨fun ⟨_, ⟨hc, hs⟩, hP⟩ => ⟨hc, hs ▸ hP⟩, fun ⟨hc, hP⟩ => ⟨s, ⟨hc, rfl⟩, hP⟩⟩

/-- The rules that read a body that succeeds back, statement by statement. -/
theorem ok_iff : (∀ {ε α β : Type} {x : Txn σ ε α} {f : α → Txn σ ε β} {b : β} {s s' : σ},
      (x >>= f) s = .ok (b, s') ↔ ∃ a s₁, x s = .ok (a, s₁) ∧ f a s₁ = .ok (b, s')) ∧
    (∀ {P : σ → Prop} {c : Prop} {s : σ}, (∃ s₁, (c ∧ s = s₁) ∧ P s₁) ↔ c ∧ P s) ∧
    (∀ {ε α : Type} {a a' : α} {s s' : σ},
      (pure a : Txn σ ε α) s = .ok (a', s') ↔ a = a' ∧ s = s') ∧
    (∀ {ε α : Type} {f : σ → α} {a : α} {s s' : σ},
      (read f : Txn σ ε α) s = .ok (a, s') ↔ f s = a ∧ s = s') ∧
    (∀ {ε α : Type} {f : σ → Except ε α} {a : α} {s s' : σ},
      query f s = .ok (a, s') ↔ f s = .ok a ∧ s = s') ∧
    (∀ {ε : Type} {c : Prop} [Decidable c] {e : ε} {u : Unit} {s s' : σ},
      ensure c e s = .ok (u, s') ↔ c ∧ s = s') ∧
    (∀ {ε α : Type} {o : Option α} {e : ε} {a : α} {s s' : σ},
      require o e s = .ok (a, s') ↔ o = some a ∧ s = s') ∧
    ∀ {ε α : Type} {x : Except ε α} {a : α} {s s' : σ},
      lift x s = .ok (a, s') ↔ x = .ok a ∧ s = s' :=
  ⟨bind_ok_iff, exists_same_iff, pure_ok_iff, read_ok_iff, query_ok_iff, ensure_ok_iff,
    require_ok_iff, lift_ok_iff⟩

theorem each_nil_ok_iff : each body [] s = .ok (u, s') ↔ s = s' := by
  change (pure () : Txn σ ε Unit) s = _ ↔ _
  rw [pure_ok_iff]
  simp

theorem each_cons_ok_iff {x : α} : each body (x :: xs) s = .ok (u, s') ↔
      ∃ s₁, body x s = .ok ((), s₁) ∧ each body xs s₁ = .ok ((), s') := by
  change (body x >>= fun _ => each body xs) s = _ ↔ _
  rw [bind_ok_iff]
  exact ⟨fun ⟨_, s₁, h⟩ => ⟨s₁, h⟩, fun ⟨s₁, h⟩ => ⟨(), s₁, h⟩⟩

/-- What every step of a loop preserves, the loop preserves. -/
theorem each_preserves (hstep : ∀ x ∈ xs, ∀ s s', I s → body x s = .ok ((), s') → I s')
    (hs : I s) (h : each body xs s = .ok (u, s')) : I s' := by
  induction xs generalizing s with
  | nil => rw [each_nil_ok_iff] at h; exact h ▸ hs
  | cons x xs ih =>
    obtain ⟨s₁, hx, hxs⟩ := each_cons_ok_iff.mp h
    exact ih (fun y hy => hstep y (by simp [hy])) (hstep x (by simp) s s₁ hs hx) hxs

end Txn

/-! ### Statements on one table of a store -/

/-- Where a table lives in the store. -/
structure TableRef (σ : Type) {ρ : Type} (S : Schema ρ) where
  get : σ → Table S
  set : Table S → σ → σ

namespace TableRef

variable [SqlError ε] {s s' : σ} (T : TableRef σ S)
variable {κ : Type} {f : ρ → ρ} {a : Unit}

/-- `INSERT INTO`; `foreign` are the FOREIGN KEY clauses of the table. -/
def insert (foreign : σ → ρ → Bool) (r : ρ) : Txn σ ε Unit := fun s =>
  if foreign s r then
    match (T.get s).insert r with
    | some t => .ok ((), T.set t s)
    | none => .error SqlError.constraintViolation
  else .error SqlError.constraintViolation

/-- `UPDATE … SET f WHERE p`, returning the number of rows changed. -/
def update (p : ρ → Bool) (f : ρ → ρ) : Txn σ ε Nat := fun s =>
  match (T.get s).update p f with
  | some t => .ok ((T.get s).count p, T.set t s)
  | none => .error SqlError.constraintViolation

/-- `INSERT INTO … ON CONFLICT(u) DO UPDATE SET f`.  The CHECK clauses are tested on the row to
insert even when it conflicts. -/
def upsert {κ : Type} [DecidableEq κ] (u : ρ → κ) (r : ρ) (f : ρ → ρ) : Txn σ ε Unit := fun s =>
  if S.check r then
    match (T.get s).lookup u (u r) with
    | none => T.insert (fun _ _ => true) r s
    | some _ =>
      match T.update (fun q => decide (u q = u r)) f s with
      | .ok (_, s') => .ok ((), s')
      | .error e => .error e
  else .error SqlError.constraintViolation

/-- `INSERT INTO … ON CONFLICT(u) DO NOTHING`. -/
def insertNew {κ : Type} [DecidableEq κ] (u : ρ → κ) (r : ρ) : Txn σ ε Unit := fun s =>
  if S.check r then
    match (T.get s).lookup u (u r) with
    | none => T.insert (fun _ _ => true) r s
    | some _ => .ok ((), s)
  else .error SqlError.constraintViolation

/-- `DELETE … WHERE p`, returning the number of rows deleted. -/
def delete (p : ρ → Bool) : Txn σ ε Nat := fun s =>
  .ok ((T.get s).count p, T.set ((T.get s).delete p) s)

variable {T} {p : ρ → Bool} {r : ρ} {foreign : σ → ρ → Bool}

theorem insert_ok_iff : (T.insert foreign r : Txn σ ε Unit) s = .ok (u, s') ↔
      foreign s r = true ∧ ∃ t, (T.get s).insert r = some t ∧ T.set t s = s' := by
  by_cases hf : foreign s r = true
  · cases h : (T.get s).insert r <;> simp [insert, hf, h]
  · simp [insert, hf]

theorem update_ok_iff {n : Nat} : (T.update p f : Txn σ ε Nat) s = .ok (n, s') ↔
      ∃ t, (T.get s).update p f = some t ∧ (T.get s).count p = n ∧ T.set t s = s' := by
  cases h : (T.get s).update p f <;> simp [update, h]

theorem upsert_ok_iff [DecidableEq κ] {u : ρ → κ} :
    (T.upsert u r f : Txn σ ε Unit) s = .ok (a, s') ↔ S.check r = true ∧
      (((T.get s).lookup u (u r) = none ∧ ∃ t, (T.get s).insert r = some t ∧ T.set t s = s') ∨
        (∃ q, (T.get s).lookup u (u r) = some q) ∧
          ∃ t, (T.get s).update (fun q => decide (u q = u r)) f = some t ∧ T.set t s = s') := by
  unfold upsert
  by_cases hr : S.check r = true
  · rw [if_pos hr]
    cases hold : (T.get s).lookup u (u r) with
    | none => simp [insert_ok_iff, hr]
    | some q =>
      cases h : (T.get s).update (fun q => decide (u q = u r)) f <;> simp [update, h, hr]
  · simp [hr]

/-- An upsert leaves the row that it inserts, or the one that it updates. -/
theorem upsert_ok [DecidableEq κ] {u : ρ → κ}
    (hu : S.Separates u) (hf : ∀ q, u q = u r → u (f q) = u q)
    (h : (T.upsert u r f : Txn σ ε Unit) s = .ok (a, s')) : ∃ t, s' = T.set t s ∧
      ∀ k, t.lookup u k = if u r = k then some (((T.get s).lookup u k).elim r f)
        else (T.get s).lookup u k := by
  obtain ⟨-, ⟨hold, t, hinsert, rfl⟩ | ⟨⟨q, hold⟩, t, ht, rfl⟩⟩ := upsert_ok_iff.mp h
  · refine ⟨t, rfl, fun k => ?_⟩
    rw [Table.lookup_insert hu hinsert k]
    refine ite_congr rfl (fun hk => ?_) fun _ => rfl
    rw [← hk, hold, Option.elim_none]
  · refine ⟨t, rfl, fun k => ?_⟩
    rw [Table.lookup_update_where (fun q hq => hf q (of_decide_eq_true hq))
      (fun q hq => of_decide_eq_true hq) ht k]
    refine ite_congr rfl (fun hk => ?_) fun _ => rfl
    rw [← hk, hold, Option.map_some, Option.elim_some,
      assign_of_pos f (decide_eq_true (Table.key_of_lookup hold))]

/-- A row of an upserted table was there before, or is the one that the upsert inserts or updates. -/
theorem mem_of_upsert [DecidableEq κ] {u : ρ → κ}
    (h : (T.upsert u r f : Txn σ ε Unit) s = .ok (a, s')) : ∃ t, s' = T.set t s ∧
      ∀ q ∈ t.rows, q ∈ (T.get s).rows ∨ q = r ∨ ∃ q' ∈ (T.get s).rows, u q' = u r ∧ f q' = q := by
  obtain ⟨-, ⟨-, t, hinsert, rfl⟩ | ⟨-, t, ht, rfl⟩⟩ := upsert_ok_iff.mp h
  · refine ⟨t, rfl, fun q hq => ?_⟩
    rw [Table.rows_insert hinsert, List.mem_append, List.mem_singleton] at hq
    exact hq.imp_right .inl
  · refine ⟨t, rfl, fun q hq => ?_⟩
    obtain ⟨hq, -⟩ | ⟨q', hq', hu, rfl⟩ := Table.mem_of_update ht hq
    · exact .inl hq
    · exact .inr (.inr ⟨q', hq', of_decide_eq_true hu, rfl⟩)

theorem insertNew_ok_iff [DecidableEq κ] {u : ρ → κ} :
    (T.insertNew u r : Txn σ ε Unit) s = .ok (a, s') ↔ S.check r = true ∧
      (((T.get s).lookup u (u r) = none ∧ ∃ t, (T.get s).insert r = some t ∧ T.set t s = s') ∨
        (∃ q, (T.get s).lookup u (u r) = some q) ∧ s' = s) := by
  unfold insertNew
  by_cases hr : S.check r = true
  · rw [if_pos hr]
    cases hold : (T.get s).lookup u (u r) with
    | none => simp [insert_ok_iff, hr]
    | some q => simp [hr, eq_comm]
  · simp [hr]

section Keyed

variable [DecidableEq κ] {u : ρ → κ} {check : ρ → Bool} {T : TableRef σ (Schema.keyed check u)}

/-- In a table with one key an upsert succeeds when both rows that it may leave pass their
checks. -/
theorem exists_upsert (hr : check r = true) (hf : ∀ q, u q = u r → u (f q) = u q)
    (hc : ∀ q ∈ (T.get s).rows, u q = u r → check (f q) = true) :
    ∃ s', (T.upsert u r f : Txn σ ε Unit) s = .ok ((), s') := by
  simp only [upsert_ok_iff]
  cases hold : (T.get s).lookup u (u r) with
  | none =>
    obtain ⟨t, ht⟩ := Table.exists_insert hr fun q hq =>
      decide_eq_true (Table.lookup_eq_none_iff.mp hold q hq)
    exact ⟨_, hr, .inl ⟨rfl, t, ht, rfl⟩⟩
  | some q =>
    obtain ⟨t, ht⟩ := Table.exists_update_keyed (fun q hq => hf q (of_decide_eq_true hq))
      fun q hq hkey => hc q hq (of_decide_eq_true hkey)
    exact ⟨_, hr, .inr ⟨⟨q, rfl⟩, t, ht, rfl⟩⟩

theorem exists_insertNew (hr : check r = true) :
    ∃ s', (T.insertNew u r : Txn σ ε Unit) s = .ok ((), s') := by
  simp only [insertNew_ok_iff]
  cases hold : (T.get s).lookup u (u r) with
  | none =>
    obtain ⟨t, ht⟩ := Table.exists_insert hr fun q hq =>
      decide_eq_true (Table.lookup_eq_none_iff.mp hold q hq)
    exact ⟨_, hr, .inl ⟨rfl, t, ht, rfl⟩⟩
  | some q => exact ⟨_, hr, .inr ⟨⟨q, rfl⟩, rfl⟩⟩

end Keyed

omit [SqlError ε] in
theorem delete_ok_iff {n : Nat} : (T.delete p : Txn σ ε Nat) s = .ok (n, s') ↔
      (T.get s).count p = n ∧ T.set ((T.get s).delete p) s = s' := by
  simp [delete]

end TableRef

/-! ### Sessions -/

namespace Session

variable {body : Txn σ ε α} {a : α} {e : ε} {x : Session σ ε α}

/-- Run a body as one transaction: its store is kept if it succeeds and dropped if it
fails. -/
def immediateTransaction (body : Txn σ ε α) : Session σ ε α := fun s =>
  match body s with
  | .ok (a, s') => (.ok a, s')
  | .error e => (.error e, s)

/-- Fail with `e` unless `c` holds. -/
def ensure (c : Prop) [Decidable c] (e : ε) : Session σ ε Unit := fun s =>
  if c then (.ok (), s) else (.error e, s)

/-- A computation that does not touch the store. -/
def lift (x : Except ε α) : Session σ ε α := fun s => (x, s)

/-- Read the store between two transactions. -/
def read (f : σ → α) : Session σ ε α := fun s => (.ok (f s), s)

/-- Run `body` on every element, in order, stopping at the first error. -/
def each (body : α → Session σ ε Unit) : List α → Session σ ε Unit
  | [] => pure ()
  | x :: xs => do body x; each body xs

/-- The store a session leaves. -/
def final (x : Session σ ε α) (s : σ) : σ := (x s).2

variable {s s' : σ}

theorem bind_apply (x : Session σ ε α) (f : α → Session σ ε β) (s : σ) :
    (x >>= f) s = match x s with
      | (.ok a, s₁) => f a s₁
      | (.error e, s₁) => (.error e, s₁) := by
  change (StateT.bind x (ExceptT.bindCont f)) s = _
  change (match x s with | (a, s₁) => ExceptT.bindCont f a s₁) = _
  rcases x s with ⟨(e | a), s₁⟩ <;> rfl

theorem immediateTransaction_ok (h : body s = .ok (a, s')) :
    immediateTransaction body s = (.ok a, s') := by simp [immediateTransaction, h]

/-- A transaction either commits its body's store or leaves the store alone. -/
theorem immediateTransaction_final (body : Txn σ ε α) (s : σ) :
    (∃ a s', body s = .ok (a, s') ∧ immediateTransaction body s = (.ok a, s')) ∨
      (∃ e, body s = .error e ∧ immediateTransaction body s = (.error e, s)) := by
  cases h : body s with
  | ok p => exact .inl ⟨p.1, p.2, rfl, immediateTransaction_ok h⟩
  | error e => exact .inr ⟨e, rfl, by simp [immediateTransaction, h]⟩

theorem bind_ok_iff {f : α → Session σ ε β} {b : β} :
    (x >>= f) s = (.ok b, s') ↔ ∃ a s₁, x s = (.ok a, s₁) ∧ f a s₁ = (.ok b, s') := by
  rw [bind_apply]
  rcases x s with ⟨(e | a), s₁⟩
  · constructor
    · rintro ⟨⟩
    · rintro ⟨_, _, ⟨⟩, _⟩
  · constructor
    · exact fun h => ⟨a, s₁, rfl, h⟩
    · rintro ⟨a', s₂, ⟨⟩, h⟩
      exact h

theorem ensure_ok_iff [Decidable c] :
    (ensure c e : Session σ ε Unit) s = (.ok u, s') ↔ c ∧ s = s' := by
  by_cases hc : c
  · rw [ensure, if_pos hc]
    exact ⟨by rintro ⟨⟩; exact ⟨hc, rfl⟩, by rintro ⟨-, rfl⟩; rfl⟩
  · rw [ensure, if_neg hc]
    exact ⟨by rintro ⟨⟩, fun h => absurd h.1 hc⟩

/-- A guarded session succeeds where its guard holds and its body succeeds. -/
theorem ensure_bind_ok_iff [Decidable c] {f : Unit → Session σ ε β} {b : β} :
    (ensure c e >>= f) s = (.ok b, s') ↔ c ∧ f () s = (.ok b, s') := by
  rw [bind_ok_iff]
  constructor
  · rintro ⟨_, s₁, hensure, h⟩
    obtain ⟨hc, rfl⟩ := ensure_ok_iff.mp hensure
    exact ⟨hc, h⟩
  · rintro ⟨hc, h⟩
    exact ⟨(), s, ensure_ok_iff.mpr ⟨hc, rfl⟩, h⟩

theorem lift_ok_iff {x : Except ε α} :
    (lift x : Session σ ε α) s = (.ok a, s') ↔ x = .ok a ∧ s = s' := by
  rw [lift, Prod.mk.injEq]

theorem read_ok_iff {f : σ → α} : (read f : Session σ ε α) s = (.ok a, s') ↔ f s = a ∧ s = s' := by
  constructor
  · rintro ⟨⟩
    exact ⟨rfl, rfl⟩
  · rintro ⟨rfl, rfl⟩
    rfl

theorem immediateTransaction_ok_iff :
    immediateTransaction body s = (.ok a, s') ↔ body s = .ok (a, s') := by
  constructor
  · rcases immediateTransaction_final body s with ⟨a', s₁, hb, he⟩ | ⟨e, -, he⟩ <;> rw [he]
    · rintro ⟨⟩
      exact hb
    · rintro ⟨⟩
  · exact immediateTransaction_ok

/-! What holds of the store that a session leaves. -/

section Final

variable {P : σ → Prop} {f : α → Session σ ε β}

theorem final_transaction (hs : P s)
    (h : ∀ a s', body s = .ok (a, s') → P s') : P ((immediateTransaction body).final s) := by
  rcases immediateTransaction_final body s with ⟨a, s', hb, he⟩ | ⟨e, -, he⟩
  · rw [final, he]
    exact h a s' hb
  · rw [final, he]
    exact hs

theorem final_bind (he : P (x.final s))
    (h : ∀ a s₁, x s = (.ok a, s₁) → P ((f a).final s₁)) : P ((x >>= f).final s) := by
  rw [final, bind_apply]
  cases hx : x s with
  | mk r s₁ =>
    cases r with
    | error e =>
      rw [final, hx] at he
      exact he
    | ok a => exact h a s₁ hx

theorem final_lift {x : Except ε α} (hs : P s) (h : ∀ a, x = .ok a → P ((f a).final s)) :
    P ((lift x >>= f).final s) := by
  refine final_bind hs fun a s₁ hx => ?_
  cases hx
  exact h a rfl

theorem final_ensure [Decidable c] {f : Unit → Session σ ε β} (hs : P s)
    (h : c → P ((f ()).final s)) : P ((ensure c e >>= f).final s) := by
  refine final_bind ?_ fun a s₁ hx => ?_
  · rw [final, ensure]
    split <;> exact hs
  · rw [ensure] at hx
    split at hx
    · cases hx
      exact h ‹c›
    · cases hx

theorem final_each {body : α → Session σ ε Unit} (hs : P s)
    (h : ∀ x s, P s → P ((body x).final s)) : P ((each body xs).final s) := by
  induction xs generalizing s with
  | nil => exact hs
  | cons x xs ih =>
    refine final_bind (h x s hs) fun _ s₁ hx => ih ?_
    have := h x s hs
    rw [final, hx] at this
    exact this

end Final

theorem exists_ok {x : Except ε α × σ} (h : x.1.isOk = true) : ∃ a s, x = (.ok a, s) := by
  rcases x with ⟨_ | a, s⟩
  · cases h
  · exact ⟨a, s, rfl⟩

/-- A session that leaves the store alone when it fails. -/
def Atomic (x : Session σ ε α) : Prop := ∀ s e s', x s = (.error e, s') → s' = s

theorem Atomic.final {P : σ → Prop} (hx : x.Atomic) (hs : P s)
    (h : ∀ a s', x s = (.ok a, s') → P s') : P (x.final s) := by
  rw [Session.final]
  rcases hrun : x s with ⟨e | a, s'⟩
  · rw [hx s e s' hrun]
    exact hs
  · exact h a s' hrun

theorem atomic_transaction (body : Txn σ ε α) : (immediateTransaction body).Atomic := by
  intro s e s' h
  rcases immediateTransaction_final body s with ⟨a, s₁, -, he⟩ | ⟨e', -, he⟩ <;> rw [he] at h <;> cases h
  rfl

theorem atomic_lift {x : Except ε α} {f : α → Session σ ε β} (h : ∀ a, (f a).Atomic) :
    (lift x >>= f).Atomic := by
  intro s e s' he
  cases x with
  | error e' => cases he; rfl
  | ok a => exact h a s e s' he

theorem atomic_ensure [Decidable c] {f : Unit → Session σ ε β}
    (h : (f ()).Atomic) : (ensure c e >>= f).Atomic := by
  intro s e' s' he
  rw [bind_apply, ensure] at he
  by_cases hc : c
  · rw [if_pos hc] at he
    exact h s e' s' he
  · rw [if_neg hc] at he
    cases he
    rfl

end Session

/-! ### Runs -/

section Runs

variable {ω : Type}

/-- The stores reached from `init` by finitely many operations, each allowed by `guard` in
the store it starts from. -/
inductive Reaches (step : ω → σ → σ) (guard : σ → ω → Prop) (init : σ) : σ → Prop where
  | init : Reaches step guard init init
  | next {s : σ} (o : ω) : Reaches step guard init s → guard s o →
      Reaches step guard init (step o s)

variable {step : ω → σ → σ} {guard : σ → ω → Prop} {init s : σ}

/-- What holds initially and is preserved by every allowed operation holds in every store
reached. -/
theorem Reaches.invariant (h₀ : I init)
    (hstep : ∀ s o, Reaches step guard init s → I s → guard s o → I (step o s))
    (h : Reaches step guard init s) : I s := by
  induction h with
  | init => exact h₀
  | next o hs hg ih => exact hstep _ o hs ih hg

theorem Reaches.mono {guard' : σ → ω → Prop} (hg : ∀ s o, guard s o → guard' s o)
    (h : Reaches step guard init s) : Reaches step guard' init s := by
  induction h with
  | init => exact .init
  | next o _ ho ih => exact .next o ih (hg _ o ho)

/-- The guard is asked only of the operations that change the store: those that are refused leave
it as it is. -/
def Effective (step : ω → σ → σ) (guard : σ → ω → Prop) (s : σ) (o : ω) : Prop :=
  step o s ≠ s → guard s o

/-- The operations that change nothing can be left out. -/
theorem Reaches.of_effective (h : Reaches step (Effective step guard) init s) :
    Reaches step guard init s := by
  induction h with
  | init => exact .init
  | @next s o _ ho ih =>
    by_cases hsame : step o s = s
    · rwa [hsame]
    · exact .next o ih (ho hsame)

theorem Reaches.trans {s' : σ} (h : Reaches step guard init s) (h' : Reaches step guard s s') :
    Reaches step guard init s' := by
  induction h' with
  | init => exact h
  | next o _ ho ih => exact .next o ih ho

/-- Running a list of operations one after another. -/
def runAll (step : ω → σ → σ) (s : σ) (ops : List ω) : σ := ops.foldl (fun s o => step o s) s

/-- A guard that does not look at the store is checked on the operations alone. -/
theorem reaches_runAll {allowed : ω → Prop} {ops : List ω} (hops : ∀ o ∈ ops, allowed o)
    (h : Reaches step (fun _ => allowed) init s) :
    Reaches step (fun _ => allowed) init (runAll step s ops) := by
  induction ops generalizing s with
  | nil => exact h
  | cons o ops ih =>
    exact ih (fun o' ho' => hops o' (List.mem_cons_of_mem o ho'))
      (.next o h (hops o List.mem_cons_self))

end Runs

end Relational
