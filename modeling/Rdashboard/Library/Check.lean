import Mathlib.Data.List.Basic
import Mathlib.Data.List.Sort

/-! # Checked computations

A validator is a computation in `Except ε`: it runs its checks in order and returns the
first error.  The `*_ok_iff` lemmas read a successful validator back as the conjunction of
its checks. -/

namespace Check

variable {ε α β : Type}
variable {x : Except ε α} {f : α → Except ε β} {xs : List α} {P : α → β → Prop}

/-- Fail with `e` unless `c` holds. -/
def ensure (c : Prop) [Decidable c] (e : ε) : Except ε Unit := if c then .ok () else .error e

/-- The value of an optional, or the error `e`. -/
def require (o : Option α) (e : ε) : Except ε α :=
  match o with
  | some a => .ok a
  | none => .error e

/-- Run a check on every element, in order. -/
def each (check : α → Except ε Unit) : List α → Except ε Unit
  | [] => .ok ()
  | x :: xs => do check x; each check xs

/-- Replace the error of a check. -/
def orElse {ε' : Type} (x : Except ε' α) (e : ε) : Except ε α :=
  match x with
  | .ok a => .ok a
  | .error _ => .error e

/-- A value together with the proof that the validator accepts it. -/
def certify (validate : α → Except ε Unit) (a : α) :
    Except ε { a : α // validate a = .ok () } :=
  match h : validate a with
  | .ok () => .ok ⟨a, h⟩
  | .error e => .error e

/-- Does the computation succeed? -/
def isOk (x : Except ε α) : Bool :=
  match x with
  | .ok _ => true
  | .error _ => false

variable {e : ε} {a : α} {b : β}

theorem ensure_ok_iff {c : Prop} [Decidable c] {u : Unit} : ensure c e = .ok u ↔ c := by
  by_cases h : c <;> simp [ensure]

theorem require_ok_iff {o : Option α} : require o e = .ok a ↔ o = some a := by
  cases o <;> simp [require]

theorem bind_ok_iff : (x >>= f) = .ok b ↔ ∃ a, x = .ok a ∧ f a = .ok b := by
  cases x <;> simp [bind, Except.bind]

theorem pure_ok_iff {a' : α} : (pure a : Except ε α) = .ok a' ↔ a = a' := by
  change Except.ok a = Except.ok a' ↔ _
  simp

/-- The rules that read a computation that succeeds back, statement by statement. -/
theorem ok_iff : (∀ {ε α β : Type} {x : Except ε α} {f : α → Except ε β} {b : β},
      (x >>= f) = .ok b ↔ ∃ a, x = .ok a ∧ f a = .ok b) ∧
    (∀ {ε α : Type} {a a' : α}, (pure a : Except ε α) = .ok a' ↔ a = a') ∧
    (∀ {ε : Type} {e : ε} {c : Prop} [Decidable c] {u : Unit}, ensure c e = .ok u ↔ c) ∧
    ∀ {ε α : Type} {e : ε} {o : Option α} {a : α}, require o e = .ok a ↔ o = some a :=
  ⟨bind_ok_iff, pure_ok_iff, ensure_ok_iff, require_ok_iff⟩

theorem orElse_ok_iff {ε' : Type} {x : Except ε' α} : orElse x e = .ok a ↔ x = .ok a := by
  cases x <;> simp [orElse]

theorem mapError_ok_iff {ε' : Type} {f : ε' → ε} {x : Except ε' α} :
    x.mapError f = .ok a ↔ x = .ok a := by
  cases x <;> simp [Except.mapError]

theorem map_ok_iff {f : α → β} : x.map f = .ok b ↔ ∃ a, x = .ok a ∧ f a = b := by
  cases x <;> simp [Except.map]

theorem map_error_iff {f : α → β} : x.map f = .error e ↔ x = .error e := by
  cases x <;> simp [Except.map]

theorem certify_ok_iff {validate : α → Except ε Unit} {v : { a : α // validate a = .ok () }} :
    certify validate a = .ok v ↔ v.1 = a := by
  unfold certify
  split
  · rename_i h
    simp only [Except.ok.injEq]
    exact ⟨fun hv => hv ▸ rfl, fun hv => Subtype.ext hv.symm⟩
  · rename_i e h
    simp only [reduceCtorEq, false_iff]
    rintro rfl
    rw [v.2] at h
    cases h

theorem each_ok_iff {check : α → Except ε Unit} {u : Unit} :
    each check xs = .ok u ↔ ∀ x ∈ xs, check x = .ok () := by
  induction xs with
  | nil => simp [each]
  | cons x xs ih =>
    rw [each, bind_ok_iff, List.forall_mem_cons, ← ih]
    exact ⟨fun ⟨_, h⟩ => h, fun h => ⟨(), h⟩⟩

/-- A list of computations that all succeed succeeds as a whole. -/
theorem mapM_ok (h : ∀ x ∈ xs, ∃ y, f x = .ok y ∧ P x y) :
    ∃ ys, xs.mapM f = .ok ys ∧ List.Forall₂ P xs ys := by
  induction xs with
  | nil => exact ⟨[], rfl, .nil⟩
  | cons x xs ih =>
    obtain ⟨y, hy, hP⟩ := h x List.mem_cons_self
    obtain ⟨ys, hys, hPs⟩ := ih fun x' hx' => h x' (List.mem_cons_of_mem x hx')
    refine ⟨y :: ys, ?_, .cons hP hPs⟩
    rw [List.mapM_cons, hy, hys]
    rfl

theorem exists_of_forall₂ {ys : List β} {y : β}
    (h : List.Forall₂ P xs ys) (hy : y ∈ ys) : ∃ x ∈ xs, P x y := by
  induction h with
  | nil => cases hy
  | @cons x y' xs ys hP _ ih =>
    rcases List.mem_cons.mp hy with rfl | hy
    · exact ⟨x, List.mem_cons_self, hP⟩
    · obtain ⟨x', hx', hP'⟩ := ih hy
      exact ⟨x', List.mem_cons_of_mem x hx', hP'⟩

instance instDecidableEqExcept [DecidableEq ε] [DecidableEq α] : DecidableEq (Except ε α)
  | .ok a, .ok b => decidable_of_iff (a = b) (by simp)
  | .error a, .error b => decidable_of_iff (a = b) (by simp)
  | .ok _, .error _ => isFalse (by simp)
  | .error _, .ok _ => isFalse (by simp)

end Check
