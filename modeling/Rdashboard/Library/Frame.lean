import Rdashboard.Library.Transaction

/-! # Frames

A program keeps a part of the store when that part reads the same before and after; the part is
given by any function `f` of the store.  `Txn.Framed` and `Session.Framed` follow the shape of the
program down to its statements, each of which keeps whatever ignores the table that it writes, so
that the constructors alone find the frame of a program. -/

namespace Relational

variable {σ ε α β τ : Type} {ρ : Type} {S : Schema ρ}
variable {x : Txn σ ε α}

/-- `f` does not read the table. -/
def TableRef.Ignored (T : TableRef σ S) (f : σ → τ) : Prop := ∀ t s, f (T.set t s) = f s

namespace Txn

/-- A transaction body that leaves what `f` reads as it was. -/
def Keeps (f : σ → τ) (x : Txn σ ε α) : Prop := ∀ s a s', x s = .ok (a, s') → f s' = f s

end Txn

/-- A body put together from statements that leave what `f` reads alone. -/
inductive Txn.Framed [SqlError ε] (f : σ → τ) : {α : Type} → Txn σ ε α → Prop where
  | bind {α β : Type} {x : Txn σ ε α} {g : α → Txn σ ε β} (hx : Framed f x)
      (hg : ∀ a, Framed f (g a)) : Framed f (x >>= g)
  | read {α : Type} (g : σ → α) : Framed f (read g)
  | query {α : Type} (g : σ → Except ε α) : Framed f (query g)
  | ensure (c : Prop) [Decidable c] (e : ε) : Framed f (ensure c e)
  | require {α : Type} (o : Option α) (e : ε) : Framed f (require o e)
  | lift {α : Type} (x : Except ε α) : Framed f (lift x)
  | pure {α : Type} (a : α) : Framed f (pure a)
  | throw {α : Type} (e : ε) : Framed f (throw e : Txn σ ε α)
  | insert {ρ : Type} {S : Schema ρ} {T : TableRef σ S} (hf : T.Ignored f)
      (foreign : σ → ρ → Bool) (r : ρ) : Framed f (T.insert foreign r)
  | insertNew {ρ κ : Type} [DecidableEq κ] {S : Schema ρ} {T : TableRef σ S} (hf : T.Ignored f)
      (u : ρ → κ) (r : ρ) : Framed f (T.insertNew u r)
  | upsert {ρ κ : Type} [DecidableEq κ] {S : Schema ρ} {T : TableRef σ S} (hf : T.Ignored f)
      (u : ρ → κ) (r : ρ) (g : ρ → ρ) : Framed f (T.upsert u r g)
  | update {ρ : Type} {S : Schema ρ} {T : TableRef σ S} (hf : T.Ignored f) (p : ρ → Bool)
      (g : ρ → ρ) : Framed f (T.update p g)
  | delete {ρ : Type} {S : Schema ρ} {T : TableRef σ S} (hf : T.Ignored f) (p : ρ → Bool) :
      Framed f (T.delete p)
  | of_keeps {α : Type} {x : Txn σ ε α} (h : x.Keeps f) : Framed f x

theorem Txn.Framed.keeps [SqlError ε] {f : σ → τ} (h : Framed f x) : Keeps f x := by
  induction h with
  | bind _ _ hx hg =>
    intro s b s' h
    obtain ⟨a, s₁, h₁, h₂⟩ := bind_ok_iff.mp h
    rw [hg a s₁ b s' h₂, hx s a s₁ h₁]
  | read | query | ensure | require | lift | pure =>
    intro s a s' h
    simp only [ok_iff] at h
    rw [h.2]
  | throw e => exact fun s a s' h => (throw_ok_iff.mp h).elim
  | insert hf =>
    intro s a s' h
    obtain ⟨-, t, -, rfl⟩ := TableRef.insert_ok_iff.mp h
    exact hf t s
  | insertNew hf =>
    intro s a s' h
    obtain ⟨-, ⟨-, t, -, rfl⟩ | ⟨-, rfl⟩⟩ := TableRef.insertNew_ok_iff.mp h
    · exact hf t s
    · rfl
  | upsert hf =>
    intro s a s' h
    obtain ⟨-, ⟨-, t, -, rfl⟩ | ⟨-, t, -, rfl⟩⟩ := TableRef.upsert_ok_iff.mp h
    · exact hf t s
    · exact hf t s
  | update hf =>
    intro s a s' h
    obtain ⟨t, -, -, rfl⟩ := TableRef.update_ok_iff.mp h
    exact hf t s
  | delete hf =>
    intro s a s' h
    obtain ⟨-, rfl⟩ := TableRef.delete_ok_iff.mp h
    exact hf _ s
  | of_keeps h => exact h

section Shape

variable [SqlError ε] {f : σ → τ}

/-- A body keeps what its statements ignore, by hypothesis or by definition. -/
theorem Txn.Keeps.of_shape (h : x.Framed f := by
      repeat' first | with_reducible assumption | exact fun _ _ => rfl | intro _ | split |
        constructor) : Keeps f x := h.keeps

omit [SqlError ε] in
theorem Txn.frame {s s' : σ} {a : α} (hx : x s = .ok (a, s'))
    (h : Keeps f x := by exact .of_shape) : f s' = f s := h s a s' hx

end Shape

namespace Session

variable {x : Session σ ε α}

/-- A session that leaves what `f` reads as it was. -/
def Keeps (f : σ → τ) (x : Session σ ε α) : Prop := ∀ s, f (x.final s) = f s

variable {f : σ → τ}

/-- A session put together from transactions that leave what `f` reads alone. -/
inductive Framed [SqlError ε] (f : σ → τ) : {α : Type} → Session σ ε α → Prop where
  | bind {α β : Type} {x : Session σ ε α} {g : α → Session σ ε β} (hx : Framed f x)
      (hg : ∀ a, Framed f (g a)) : Framed f (x >>= g)
  | transaction {α : Type} {body : Txn σ ε α} (h : body.Framed f) :
      Framed f (immediateTransaction body)
  | ensure (c : Prop) [Decidable c] (e : ε) : Framed f (ensure c e)
  | lift {α : Type} (x : Except ε α) : Framed f (lift x)

theorem Framed.keeps [SqlError ε] (h : Framed f x) : Keeps f x := by
  induction h with
  | bind _ _ hx hg =>
    intro s
    refine final_bind (P := fun s' => f s' = f s) (hx s) fun a s₁ h₁ => ?_
    have hs₁ := hx s
    rw [final, h₁] at hs₁
    rw [hg a s₁, hs₁]
  | transaction h =>
    exact fun s => final_transaction (P := fun s' => f s' = f s) rfl fun a s' hb => h.keeps s a s' hb
  | ensure c e =>
    intro s
    rw [final, Session.ensure]
    split <;> rfl
  | lift x => exact fun _ => rfl

end Session

end Relational
