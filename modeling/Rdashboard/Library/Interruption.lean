import Rdashboard.Library.Interference

/-! # Programs that are interrupted

A program that runs alone and may be killed between any two of its steps.  `Prog.Runs` says what
every step of such a run does and how the run ends; `History` are the states that calls leave behind
which come one after another, each run to its end or killed on the way. -/

namespace Interleaving

variable {σ ε ε' α β ι : Type}
variable {I : σ → Prop}

namespace Prog

variable {f : α → Prog σ ε β} {g : σ → Except ε α × σ} {c : Prop}

/-- From `s` every step of the program is in `T`, and it ends with a result and a state in `Q`. -/
def Runs (T : σ → σ → Prop) (Q : Except ε α → σ → Prop) : Prog σ ε α → σ → Prop
  | .done r, s => Q r s
  | .act effect next, s => T s (effect s) ∧ Runs T Q (next s) (effect s)

/-- The states that the program passes through from `s`, the first and the last included. -/
def Passes : Prog σ ε α → σ → σ → Prop
  | .done _, s, s' => s' = s
  | .act effect next, s, s' => s' = s ∨ Passes (next s) (effect s) s'

instance Passes.decidable [DecidableEq σ] :
    (x : Prog σ ε α) → (s s' : σ) → Decidable (x.Passes s s')
  | .done _, s, s' => inferInstanceAs (Decidable (s' = s))
  | .act effect next, s, s' =>
    have := Passes.decidable (next s) (effect s) s'
    inferInstanceAs (Decidable (s' = s ∨ Passes (next s) (effect s) s'))

/-- The steps that the program takes from `s`. -/
def Takes : Prog σ ε α → σ → σ → σ → Prop
  | .done _, _, _, _ => False
  | .act effect next, s, s₁, s₂ => (s₁ = s ∧ s₂ = effect s) ∨ Takes (next s) (effect s) s₁ s₂

section Rules

variable {T : σ → σ → Prop} {Q Q' : Except ε α → σ → Prop} {x : Prog σ ε α} {s s' s₁ s₂ : σ}

theorem Runs.mono (h : x.Runs T Q s) (hQ : ∀ r s, Q r s → Q' r s) : x.Runs T Q' s := by
  induction x generalizing s with
  | done r => exact hQ r s h
  | act effect next ih => exact ⟨h.1, ih s h.2⟩

theorem Runs.bind {P : Except ε β → σ → Prop} (h : x.Runs T (fun r s => match r with
      | .ok a => (f a).Runs T P s
      | .error e => P (.error e) s) s) : (x >>= f).Runs T P s := by
  induction x generalizing s with
  | done r => cases r <;> exact h
  | act effect next ih => exact ⟨h.1, ih s h.2⟩

/-- An invariant of the steps holds at the end. -/
theorem Runs.invariant (h : x.Runs T Q s) (hs : I s)
    (hT : ∀ s s', I s → T s s' → I s') : x.Runs T (fun r s' => I s' ∧ Q r s') s := by
  induction x generalizing s with
  | done r => exact ⟨hs, h⟩
  | act effect next ih => exact ⟨h.1, ih s h.2 (hT _ _ hs h.1)⟩

theorem Runs.atomic (hT : T s (g s).2) (hQ : Q (g s).1 (g s).2) :
    (Prog.atomic g).Runs T Q s := ⟨hT, hQ⟩

theorem Runs.ensure {P : Except ε Unit → σ → Prop} [Decidable c] {e : ε}
    (herr : ¬ c → P (.error e) s) (hok : c → P (.ok ()) s) :
    (Prog.ensure c e).Runs T P s := by
  unfold Prog.ensure
  split_ifs with hc
  · exact hok hc
  · exact herr hc

theorem Runs.attempt {P : Except ε' (Except ε α) → σ → Prop}
    (h : x.Runs T (fun r s => P (.ok r) s) s) :
    (Prog.attempt x).Runs T P s := by
  induction x generalizing s with
  | done r => exact h
  | act effect next ih => exact ⟨h.1, ih s h.2⟩

theorem Runs.mapError {P : Except ε' α → σ → Prop} {f : ε → ε'}
    (h : x.Runs T (fun r s => P (r.mapError f) s) s) : (Prog.mapError f x).Runs T P s :=
  .bind (.attempt (h.mono fun _ _ => id))

/-- A program of steps in `R` runs through states that are in `R` to the first. -/
theorem Steps.runs {R : σ → σ → Prop} (hx : x.Steps R) (hrefl : ∀ s, R s s)
    (htrans : ∀ s₁ s₂ s₃, R s₁ s₂ → R s₂ s₃ → R s₁ s₃)
    (hT : ∀ s₁ s₂, R s s₁ → R s₁ s₂ → T s₁ s₂) : x.Runs T (fun _ s' => R s s') s := by
  suffices h : ∀ s₁, R s s₁ → x.Runs T (fun _ s' => R s s') s₁ from h s (hrefl s)
  intro s₁ hs₁
  induction x generalizing s₁ with
  | done r => exact hs₁
  | act effect next ih =>
    exact ⟨hT _ _ hs₁ (hx s₁).1, ih s₁ (hx s₁).2 _ (htrans _ _ _ hs₁ (hx s₁).1)⟩

theorem Runs.run (h : x.Runs T Q s) : Q (x.run s).1 (x.run s).2 := by
  induction x generalizing s with
  | done r => exact h
  | act effect next ih => exact ih s h.2

/-- A step of a run, from a state in which the invariant of the steps holds. -/
theorem Runs.takes (h : x.Runs T Q s) (hT : ∀ s s', I s → T s s' → I s')
    (hs : I s) (ht : x.Takes s s₁ s₂) : I s₁ ∧ T s₁ s₂ := by
  induction x generalizing s with
  | done r => exact ht.elim
  | act effect next ih =>
    rcases ht with ⟨rfl, rfl⟩ | ht
    · exact ⟨hs, h.1⟩
    · exact ih s h.2 (hT _ _ hs h.1) ht

/-- What every step establishes holds wherever the program is killed. -/
theorem Runs.passes (h : x.Runs T Q s) (hT : ∀ s s', I s → T s s' → I s')
    (hs : I s) (hp : x.Passes s s') : I s' := by
  induction x generalizing s with
  | done r => exact hp ▸ hs
  | act effect next ih =>
    rcases hp with rfl | hp
    · exact hs
    · exact ih s h.2 (hT _ _ hs h.1) hp

theorem passes_run (x : Prog σ ε α) (s : σ) : x.Passes s (x.run s).2 := by
  induction x generalizing s with
  | done r => exact rfl
  | act effect next ih => exact .inr (ih s (effect s))

end Rules

/-! ### Runs that return -/

/-- From `s` every step of the program is in `T`, and a value that it returns is in `Q`. -/
def Through (T : σ → σ → Prop) (Q : α → σ → Prop) (x : Prog σ ε α) (s : σ) : Prop :=
  x.Runs T (fun r s' => ∀ a, r = .ok a → Q a s') s

namespace Through

variable {T : σ → σ → Prop} {Q Q' : α → σ → Prop} {x : Prog σ ε α} {s s' : σ}
variable {y : Except ε α}

theorem mono (h : x.Through T Q s) (hQ : ∀ a s, Q a s → Q' a s) : x.Through T Q' s :=
  Runs.mono h fun _ _ hr a ha => hQ _ _ (hr a ha)

theorem bind {P : β → σ → Prop} (h : x.Through T Q s)
    (hf : ∀ a s, Q a s → (f a).Through T P s) : (x >>= f).Through T P s := by
  refine Runs.bind (Runs.mono h ?_)
  rintro (e | a) s₁ hr
  · rintro a ⟨⟩
  · exact hf a s₁ (hr a rfl)

theorem invariant (h : x.Through T Q s) (hs : I s)
    (hT : ∀ s s', I s → T s s' → I s') : x.Through T (fun a s' => I s' ∧ Q a s') s :=
  (Runs.invariant h hs hT).mono fun _ _ hr a ha => ⟨hr.1, hr.2 a ha⟩

theorem pure {a : α} (h : Q a s) : (Pure.pure a : Prog σ ε α).Through T Q s := by
  rintro _ ⟨⟩
  exact h

theorem lift (h : ∀ a, y = .ok a → Q a s) : (Prog.lift y).Through T Q s := h

theorem ensure {P : Unit → σ → Prop} [Decidable c] {e : ε} (h : c → P () s) :
    (Prog.ensure c e).Through T P s := by
  refine Runs.ensure ?_ ?_
  · rintro - a ⟨⟩
  · rintro hc a ⟨⟩
    exact h hc

theorem atomic (hT : T s (g s).2)
    (hQ : ∀ a, (g s).1 = .ok a → Q a (g s).2) : (Prog.atomic g).Through T Q s :=
  Runs.atomic hT hQ

section Continued

variable {P : β → σ → Prop}

theorem lift_bind (h : ∀ a, y = .ok a → (f a).Through T P s) : (Prog.lift y >>= f).Through T P s :=
  bind (lift (Q := fun a s' => s' = s ∧ y = .ok a) fun _ ha => ⟨rfl, ha⟩)
    fun a _ ⟨hs, ha⟩ => hs ▸ h a ha

theorem ensure_bind [Decidable c] {e : ε} {f : Unit → Prog σ ε β}
    (h : c → (f ()).Through T P s) : (Prog.ensure c e >>= f).Through T P s :=
  bind (ensure (P := fun _ s' => s' = s ∧ c) fun hc => ⟨rfl, hc⟩) fun _ _ ⟨hs, hc⟩ => hs ▸ h hc

theorem atomic_bind (hT : T s (g s).2) (h : ∀ a, (g s).1 = .ok a → (f a).Through T P (g s).2) :
    (Prog.atomic g >>= f).Through T P s :=
  bind (atomic (Q := fun a s' => s' = (g s).2 ∧ (g s).1 = .ok a) hT fun _ ha => ⟨rfl, ha⟩)
    fun a _ ⟨hs, ha⟩ => hs ▸ h a ha

theorem read_bind {g : σ → α} (hT : T s s) (h : (f (g s)).Through T P s) :
    ((read fun s => .ok (g s)) >>= f).Through T P s := by
  refine atomic_bind hT ?_
  rintro _ ⟨⟩
  exact h

end Continued

theorem mapError {f : ε → ε'} (h : x.Through T Q s) : (Prog.mapError f x).Through T Q s := by
  refine Runs.mapError (Runs.mono h ?_)
  rintro (e | a) s₁ hr
  · rintro a ⟨⟩
  · rintro _ ⟨⟩
    exact hr a rfl

end Through

end Prog

/-- What the calls `call` leave behind when they come one after another from `s`, each of them run
to its end or killed between two steps. -/
inductive History (call : ι → Prog σ ε α) (s : σ) : σ → Prop where
  | refl : History call s s
  | called {s' s'' : σ} (i : ι) : History call s s' → (call i).Passes s' s'' → History call s s''

/-- An invariant of the calls, at every point at which one may be killed. -/
theorem History.invariant {call : ι → Prog σ ε α} {s s' : σ} (h : History call s s') (hs : I s)
    (hcall : ∀ i s, I s → ∃ T Q, (∀ s s', I s → T s s' → I s') ∧ (call i).Runs T Q s) : I s' := by
  induction h with
  | refl => exact hs
  | called i _ hp ih =>
    obtain ⟨T, Q, hT, hruns⟩ := hcall i _ ih
    exact hruns.passes hT ih hp

end Interleaving
