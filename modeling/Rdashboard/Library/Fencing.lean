import Mathlib.Logic.Function.Basic
import Mathlib.Order.Basic

/-! # Fenced slots

A slot that is handed out again and again is fenced by a counter: every claim on it carries
the value the counter had when the claim was made, and the slot is held by the one open claim
with the current value.  `slot k` is the slot `k`, as whether it is held and its counter;
`claim i` is the claim `i`, as its slot, its counter value and whether it is open.

`Fenced` is the invariant of such a table; it is kept by granting a claim on a free slot
(`grant`) and by closing the claims on any set of slots (`closeWhere`). -/

namespace Fencing

open Function

variable {κ ι : Type} {slot slot' : κ → Option (Bool × Nat)} {claim claim' : ι → Option (κ × Nat × Bool)}

/-- Held slots and open claims correspond, and no two claims on a slot have one value. -/
structure Fenced (slot : κ → Option (Bool × Nat)) (claim : ι → Option (κ × Nat × Bool)) : Prop where
  open_held : ∀ i k g, claim i = some (k, g, true) → slot k = some (true, g)
  held_open : ∀ k g, slot k = some (true, g) → ∃ i, claim i = some (k, g, true)
  token_le : ∀ i k g b, claim i = some (k, g, b) → ∃ h t, slot k = some (h, t) ∧ g ≤ t
  token_inj : ∀ i j k g b c, claim i = some (k, g, b) → claim j = some (k, g, c) → i = j

namespace Fenced

/-- A slot has at most one open claim. -/
theorem unique_open (h : Fenced slot claim) {i j : ι} {k : κ} {g g' : Nat}
    (hi : claim i = some (k, g, true)) (hj : claim j = some (k, g', true)) : i = j := by
  have hg : some (true, g) = some (true, g') := (h.open_held i k g hi).symm.trans (h.open_held j k g' hj)
  cases hg
  exact h.token_inj i j k g _ _ hi hj

theorem empty (hslot : ∀ k g, slot k ≠ some (true, g)) (hclaim : ∀ i, claim i = none) :
    Fenced slot claim where
  open_held := fun i k g h => by rw [hclaim] at h; cases h
  held_open := fun k g h => absurd h (hslot k g)
  token_le := fun i k g b h => by rw [hclaim] at h; cases h
  token_inj := fun i j k g b c h => by rw [hclaim] at h; cases h

/-- Close every claim on the slots in `p`. -/
theorem closeWhere (p : κ → Prop) [DecidablePred p] (h : Fenced slot claim)
    (hslot : ∀ k, slot' k = (slot k).map fun s => if p k then (false, s.2) else s)
    (hclaim : ∀ i, claim' i = (claim i).map fun c => if p c.1 then (c.1, c.2.1, false) else c) :
    Fenced slot' claim' := by
  -- A claim of the new table is a claim of the old one, open only if that one was.
  have back : ∀ i k g b, claim' i = some (k, g, b) →
      ∃ b', claim i = some (k, g, b') ∧ (b = true → b' = true ∧ ¬ p k) := by
    intro i k g b hi
    rw [hclaim] at hi
    obtain ⟨⟨k', g', b'⟩, hc, he⟩ := Option.map_eq_some_iff.mp hi
    by_cases hp : p k'
    · simp only [hp, if_true] at he
      obtain ⟨rfl, rfl, rfl⟩ := he
      exact ⟨b', hc, by simp⟩
    · simp only [hp, if_false, Prod.mk.injEq] at he
      obtain ⟨rfl, rfl, rfl⟩ := he
      exact ⟨b', hc, fun hb => ⟨hb, hp⟩⟩
  constructor
  · intro i k g hi
    obtain ⟨b, hb, hopen⟩ := back i k g true hi
    obtain ⟨rfl, hp⟩ := hopen rfl
    rw [hslot, h.open_held i k g hb]
    simp [hp]
  · intro k g hk
    rw [hslot] at hk
    obtain ⟨s, hs, he⟩ := Option.map_eq_some_iff.mp hk
    by_cases hp : p k
    · simp [hp] at he
    · simp only [hp] at he
      subst he
      obtain ⟨i, hi⟩ := h.held_open k g hs
      exact ⟨i, by rw [hclaim, hi]; simp [hp]⟩
  · intro i k g b hi
    obtain ⟨b', hb, -⟩ := back i k g b hi
    obtain ⟨held, t, hs, hle⟩ := h.token_le i k g b' hb
    rw [hslot, hs]
    by_cases hp : p k
    · exact ⟨false, t, by simp [hp], hle⟩
    · exact ⟨held, t, by simp [hp], hle⟩
  · intro i j k g b c hi hj
    obtain ⟨b', hb, -⟩ := back i k g b hi
    obtain ⟨c', hc, -⟩ := back j k g c hj
    exact h.token_inj i j k g b' c' hb hc

/-- Grant the next claim on a free slot. -/
theorem grant [DecidableEq κ] [DecidableEq ι] (h : Fenced slot claim) {k : κ} {i : ι} {t : Nat}
    (hfree : slot k = some (false, t)) (hnew : claim i = none)
    (hslot : slot' = update slot k (some (true, t + 1)))
    (hclaim : claim' = update claim i (some (k, t + 1, true))) : Fenced slot' claim' := by
  subst hslot hclaim
  have hold : ∀ j k' g b, update claim i (some (k, t + 1, true)) j = some (k', g, b) →
      (j = i ∧ k' = k ∧ g = t + 1 ∧ b = true) ∨ (j ≠ i ∧ claim j = some (k', g, b)) := by
    intro j k' g b hj
    by_cases hji : j = i
    · subst hji
      rw [update_self] at hj
      cases hj
      exact .inl ⟨rfl, rfl, rfl, rfl⟩
    · rw [update_of_ne hji] at hj
      exact .inr ⟨hji, hj⟩
  -- An old claim on `k` is closed, with a value of at most `t`.
  have hclosed : ∀ j g b, claim j = some (k, g, b) → b = false ∧ g ≤ t := by
    intro j g b hj
    obtain ⟨held, t', hs, hle⟩ := h.token_le j k g b hj
    rw [hfree] at hs
    cases hs
    refine ⟨?_, hle⟩
    cases b with
    | false => rfl
    | true => rw [h.open_held j k g hj] at hfree; cases hfree
  constructor
  · intro j k' g hj
    rcases hold j k' g true hj with ⟨-, rfl, rfl, -⟩ | ⟨-, hc⟩
    · simp
    · have hk : k' ≠ k := by
        rintro rfl
        exact absurd (hclosed j g true hc).1 (by simp)
      rw [update_of_ne hk]
      exact h.open_held j k' g hc
  · intro k' g hk
    by_cases hkk : k' = k
    · subst hkk
      rw [update_self] at hk
      cases hk
      exact ⟨i, by simp⟩
    · rw [update_of_ne hkk] at hk
      obtain ⟨j, hj⟩ := h.held_open k' g hk
      have hji : j ≠ i := by
        rintro rfl
        rw [hnew] at hj
        cases hj
      exact ⟨j, by rw [update_of_ne hji, hj]⟩
  · intro j k' g b hj
    rcases hold j k' g b hj with ⟨-, rfl, rfl, -⟩ | ⟨-, hc⟩
    · exact ⟨true, t + 1, by simp, Nat.le_refl _⟩
    · by_cases hkk : k' = k
      · subst hkk
        exact ⟨true, t + 1, by simp, Nat.le_succ_of_le (hclosed j g b hc).2⟩
      · rw [update_of_ne hkk]
        exact h.token_le j k' g b hc
  · intro j j' k' g b c hj hj'
    rcases hold j k' g b hj with ⟨rfl, rfl, rfl, -⟩ | ⟨-, hc⟩ <;>
      rcases hold j' k' _ c hj' with ⟨rfl, hk, hg, -⟩ | ⟨-, hc'⟩
    · rfl
    · exact absurd (hclosed j' _ c hc').2 (by simp)
    · subst hk hg
      exact absurd (hclosed j _ b hc).2 (by simp)
    · exact h.token_inj j j' k' g b c hc hc'

end Fenced

end Fencing
