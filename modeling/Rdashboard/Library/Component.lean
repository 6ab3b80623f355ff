import Mathlib.Logic.Function.Basic
import Mathlib.Logic.Relation

/-! # Stores made of components

A store is often a family of components that do not share state: `v : κ → Option α` gives
the component with key `k`, when it exists.  A program step changes one component and leaves
the others alone (`modifyAt`); a whole program moves every component along the component's
own step relation, and may create new ones (`Evolves`).  An invariant of the component's
steps is then an invariant of the store, with no case analysis on the program. -/

namespace Relational

variable {κ α : Type} [DecidableEq κ]

/-- Change the component with key `k`, if there is one. -/
def modifyAt (v : κ → Option α) (k : κ) (f : α → α) : κ → Option α :=
  Function.update v k ((v k).map f)

section ModifyAt

variable {v : κ → Option α} {k j : κ} {f g : α → α} {a : α}

theorem modifyAt_self : modifyAt v k f k = (v k).map f := by simp [modifyAt]

theorem modifyAt_ne (h : j ≠ k) : modifyAt v k f j = v j := by simp [modifyAt, h]

theorem modifyAt_modifyAt : modifyAt (modifyAt v k f) k g = modifyAt v k (g ∘ f) := by
  simp [modifyAt]

theorem modifyAt_congr (h : ∀ a, v k = some a → f a = g a) : modifyAt v k f = modifyAt v k g := by
  unfold modifyAt
  congr 1
  cases hk : v k with
  | none => rfl
  | some a => simp [h a hk]

theorem modifyAt_eq_self (h : ∀ a, v k = some a → f a = a) : modifyAt v k f = v := by
  rw [modifyAt_congr h]
  simp [modifyAt]

/-- A change of all components that spares all but one. -/
theorem eq_modifyAt_of_map {w : κ → Option α} (h : ∀ j, w j = (v j).map g)
    (hk : ∀ a, v k = some a → g a = f a) (hne : ∀ j a, j ≠ k → v j = some a → g a = a) :
    w = modifyAt v k f := by
  funext j
  rw [h]
  by_cases hj : j = k
  · subst hj
    rw [modifyAt_self]
    exact Option.map_congr fun a ha => hk a ha
  · rw [modifyAt_ne hj]
    cases hv : v j with
    | none => rfl
    | some a => rw [Option.map_some, hne j a hj hv]

theorem modifyAt_of_eq_some (h : v k = some a) : modifyAt v k f k = some (f a) := by
  rw [modifyAt_self, h, Option.map_some]

theorem isSome_modifyAt : (modifyAt v k f j).isSome = (v j).isSome := by
  by_cases h : j = k
  · subst h
    simp [modifyAt_self]
  · rw [modifyAt_ne h]

end ModifyAt

/-! ### Evolution of all components -/

/-- Every component of `v'` is a component of `v` moved along `step`, or a new one that was
`born` and then moved along `step`; and no component of `v` is lost. -/
structure Evolves (born : κ → α → Prop) (step : α → α → Prop) (v v' : κ → Option α) : Prop where
  kept : ∀ k a, v k = some a → ∃ a', v' k = some a' ∧ Relation.ReflTransGen step a a'
  new : ∀ k a', v k = none → v' k = some a' →
    ∃ a, born k a ∧ Relation.ReflTransGen step a a'

namespace Evolves

variable {born : κ → α → Prop} {step : α → α → Prop} {u v w : κ → Option α}

omit [DecidableEq κ] in
theorem refl (v : κ → Option α) : Evolves born step v v where
  kept := fun _ a h => ⟨a, h, .refl⟩
  new := fun _ _ h h' => by rw [h] at h'; cases h'

omit [DecidableEq κ] in
theorem trans (h₁ : Evolves born step u v) (h₂ : Evolves born step v w) :
    Evolves born step u w where
  kept := by
    intro k a ha
    obtain ⟨b, hb, hab⟩ := h₁.kept k a ha
    obtain ⟨c, hc, hbc⟩ := h₂.kept k b hb
    exact ⟨c, hc, hab.trans hbc⟩
  new := by
    intro k c hk hc
    cases hv : v k with
    | none => exact h₂.new k c hv hc
    | some b =>
      obtain ⟨a, ha, hab⟩ := h₁.new k b hk hv
      obtain ⟨c', hc', hbc⟩ := h₂.kept k b hv
      rw [hc] at hc'
      cases hc'
      exact ⟨a, ha, hab.trans hbc⟩

/-- Changing one component along its steps. -/
theorem of_modifyAt {k : κ} {f : α → α}
    (h : ∀ a, v k = some a → Relation.ReflTransGen step a (f a)) :
    Evolves born step v (modifyAt v k f) where
  kept := by
    intro j a ha
    by_cases hj : j = k
    · subst hj
      exact ⟨f a, modifyAt_of_eq_some ha, h a ha⟩
    · exact ⟨a, by rw [modifyAt_ne hj, ha], .refl⟩
  new := by
    intro j a hj ha
    have := isSome_modifyAt (v := v) (k := k) (f := f) (j := j)
    rw [hj, ha] at this
    cases this

omit [DecidableEq κ] in
/-- What every new component has and every step preserves, every component keeps. -/
theorem invariant {I : κ → α → Prop} (h : Evolves born step u v)
    (hborn : ∀ k a, born k a → I k a) (hstep : ∀ k a b, I k a → step a b → I k b)
    (hu : ∀ k a, u k = some a → I k a) : ∀ k a, v k = some a → I k a := by
  have hsteps : ∀ k a b, I k a → Relation.ReflTransGen step a b → I k b := by
    intro k a b ha hab
    induction hab with
    | refl => exact ha
    | tail _ hbc ih => exact hstep k _ _ ih hbc
  intro k a' ha'
  cases hk : u k with
  | none =>
    obtain ⟨a, hb, haa'⟩ := h.new k a' hk ha'
    exact hsteps k a a' (hborn k a hb) haa'
  | some a =>
    obtain ⟨b, hb, hab⟩ := h.kept k a hk
    rw [ha'] at hb
    cases hb
    exact hsteps k a a' (hu k a hk) hab

end Evolves

end Relational
