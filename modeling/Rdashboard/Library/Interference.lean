import Rdashboard.Library.Interleaving

/-! # Programs under interference

A program that works on a part of the state which others write too is verified against what the
others may do: between any two of its steps the state may change by `rely`, and every step of its
own is in `T`.  `Disciplined` says that the programs of a service are safe in this sense and do not
disturb each other; then every thread is safe in every configuration that is reached, and every
step of the service is a step of the start or of a call. -/

namespace Interleaving

variable {σ ε ε' α β V : Type}
variable {g : σ → Except ε α × σ} {c : Prop} {T' : σ → σ → Prop} {I : σ → Prop}

/-! ### Safety -/

/-- From the state `s` every step of the program is in `T` and it ends in `Q`, when others change
the state by `rely` between its steps. -/
def Safe (rely T : σ → σ → Prop) (Q : Except ε α → σ → Prop) : Prog σ ε α → σ → Prop
  | .done r, s => ∀ s', rely s s' → Q r s'
  | .act effect next, s => ∀ s', rely s s' → T s' (effect s') ∧ Safe rely T Q (next s') (effect s')

/-- What others do step by step they may do at once, and they may also do nothing. -/
structure IsRely (rely : σ → σ → Prop) : Prop where
  self : ∀ s s', rely s s' → rely s' s'
  trans : ∀ s₁ s₂ s₃, rely s₁ s₂ → rely s₂ s₃ → rely s₁ s₃

attribute [class] IsRely

section Safe

variable {rely T : σ → σ → Prop} {s : σ}
variable {Q : Except ε α → σ → Prop} {x : Prog σ ε α} {f : α → Prog σ ε β}

theorem Safe.mono {R : Except ε α → σ → Prop} (h : Safe rely T R x s)
    (hQ : ∀ r s, R r s → Q r s) : Safe rely T Q x s := by
  induction x generalizing s with
  | done r => exact fun s' hs' => hQ r s' (h s' hs')
  | act effect next ih => exact fun s' hs' => ⟨(h s' hs').1, ih s' (h s' hs').2⟩

theorem Safe.weaken
    (h : Safe rely T Q x s) (hT : ∀ s s', T s s' → T' s s') : Safe rely T' Q x s := by
  induction x generalizing s with
  | done r => exact h
  | act effect next ih => exact fun s' hs' => ⟨hT _ _ (h s' hs').1, ih s' (h s' hs').2⟩

/-- What others do does not make a program unsafe. -/
theorem Safe.stable [hrely : IsRely rely] {s' : σ}
    (h : Safe rely T Q x s) (hs : rely s s') : Safe rely T Q x s' := by
  cases x with
  | done r => exact fun s'' hs'' => h s'' (hrely.trans _ _ _ hs hs'')
  | act effect next => exact fun s'' hs'' => h s'' (hrely.trans _ _ _ hs hs'')

/-- A program is safe when it is from every state that others may leave. -/
theorem safe_of_rely [hrely : IsRely rely] (h : ∀ s', rely s s' → Safe rely T Q x s') : Safe rely T Q x s := by
  cases x with
  | done r => exact fun s' hs' => h s' hs' s' (hrely.self _ _ hs')
  | act effect next => exact fun s' hs' => h s' hs' s' (hrely.self _ _ hs')

theorem safe_bind [IsRely rely] {Q : Except ε β → σ → Prop} (h : Safe rely T (fun r s => match r with
      | .ok a => Safe rely T Q (f a) s
      | .error e => Q (.error e) s) x s) : Safe rely T Q (x >>= f) s := by
  induction x generalizing s with
  | done r =>
    cases r with
    | ok a => exact safe_of_rely h
    | error e => exact h
  | act effect next ih => exact fun s' hs' => ⟨(h s' hs').1, ih s' (h s' hs').2⟩

theorem safe_attempt {Q : Except ε' (Except ε α) → σ → Prop}
    (h : Safe rely T (fun r s => Q (.ok r) s) x s) : Safe rely T Q (Prog.attempt x) s := by
  induction x generalizing s with
  | done r => exact h
  | act effect next ih => exact fun s' hs' => ⟨(h s' hs').1, ih s' (h s' hs').2⟩

/-- The end of a program holds in every state that others may leave. -/
theorem Safe.closed [hrely : IsRely rely] (h : Safe rely T Q x s) :
    Safe rely T (fun r s => ∀ s', rely s s' → Q r s') x s := by
  induction x generalizing s with
  | done r => exact fun s₁ h₁ s₂ h₂ => h s₂ (hrely.trans _ _ _ h₁ h₂)
  | act effect next ih => exact fun s' hs' => ⟨(h s' hs').1, ih s' (h s' hs').2⟩

theorem safe_mapError [IsRely rely] {Q : Except ε' α → σ → Prop} {f : ε → ε'}
    (h : Safe rely T (fun r s => Q (r.mapError f) s) x s) : Safe rely T Q (Prog.mapError f x) s :=
  safe_bind (safe_attempt h.closed)

theorem safe_lift [IsRely rely] {Q : Except ε β → σ → Prop} {x : Except ε α}
    (herr : ∀ e s', rely s s' → Q (.error e) s')
    (hok : ∀ a, x = .ok a → Safe rely T Q (f a) s) : Safe rely T Q (Prog.lift x >>= f) s := by
  refine safe_bind ?_
  cases x with
  | ok a => exact fun s' hs' => (hok a rfl).stable hs'
  | error e => exact herr e

theorem safe_ensure [IsRely rely] {Q : Except ε β → σ → Prop} [Decidable c]
    {e : ε} {f : Unit → Prog σ ε β} (herr : ∀ s', rely s s' → Q (.error e) s')
    (hok : c → Safe rely T Q (f ()) s) : Safe rely T Q (Prog.ensure c e >>= f) s := by
  refine safe_bind ?_
  unfold Prog.ensure
  by_cases hc : c
  · rw [if_pos hc]
    exact fun s' hs' => (hok hc).stable hs'
  · rw [if_neg hc]
    exact herr

theorem safe_atomic
    (h : ∀ s', rely s s' → T s' (g s').2 ∧ ∀ s'', rely (g s').2 s'' → Q (g s').1 s'') :
    Safe rely T Q (Prog.atomic g) s := h

/-- A program whose steps are in `T` wherever they are taken. -/
theorem Prog.Steps.safe (hx : x.Steps T) (hQ : ∀ r s, Q r s) : Safe rely T Q x s := by
  induction x generalizing s with
  | done r => exact fun s' _ => hQ r s'
  | act effect next ih => exact fun s' _ => ⟨(hx s').1, ih s' (hx s').2⟩

/-- What every step of a program preserves, the program preserves. -/
theorem Prog.Steps.run (hx : x.Steps T)
    (hT : ∀ s s', T s s' → I s → I s') (hs : I s) : I (x.run s).2 := by
  induction x generalizing s with
  | done r => exact hs
  | act effect next ih => exact ih s (hx s).2 (hT _ _ (hx s).1 hs)

/-- What the steps of a program and the others leave alone is as it was when the program ends. -/
theorem Prog.Steps.safe_keeps {w : σ → V} (hx : x.Steps T)
    (hT : ∀ s s', T s s' → w s' = w s) (hrely : ∀ s s', rely s s' → w s' = w s) :
    Safe rely T (fun _ s' => w s' = w s) x s := by
  suffices h : ∀ s₀, w s = w s₀ → Safe rely T (fun _ s' => w s' = w s₀) x s from h s rfl
  intro s₀ hs
  induction x generalizing s with
  | done r => exact fun s' hs' => (hrely s s' hs').trans hs
  | act effect next ih =>
    intro s' hs'
    refine ⟨(hx s').1, ih s' (hx s').2 ?_⟩
    exact (hT _ _ (hx s').1).trans ((hrely s s' hs').trans hs)

/-- A program that keeps a contract on a view which others leave alone. -/
theorem Sat.safe {C : Contract σ V} {Q : Except ε α → V → Prop}
    (hview : ∀ s s', rely s s' → C.view s' = C.view s) (h : Sat C Q x (C.view s))
    (hx : x.Steps T) : Safe rely (fun s s' => C.frame s s' ∧ T s s')
      (fun r s => C.inv (C.view s) ∧ Q r (C.view s)) x s := by
  induction x generalizing s with
  | done r =>
    intro s' hs'
    rw [hview s s' hs']
    exact h
  | act effect next ih =>
    intro s' hs'
    obtain ⟨hframe, -, hnext⟩ := h.2 s' (hview s s' hs')
    exact ⟨⟨hframe, (hx s').1⟩, ih s' hnext (hx s').2⟩

end Safe

/-! ### Disciplined services -/

section Disciplined

variable {π ι κ : Type} (S : Service π β ι κ σ ε α) (known : σ → Prop) (rely : κ → σ → σ → Prop)
  (K : π → σ → Prop) (TB : π → σ → σ → Prop) (TC : β → ι → σ → σ → Prop) (P : β → σ → Prop)
  (Q : β → ι → Except ε α → σ → Prop)

/-- The programs of the service are safe, and a step of a call is one that the other slots rely
on.  `known` holds in all states, `K p` from a start with `p` until it returns, and `P b` from then
on while it serves as `b`. -/
structure Disciplined : Prop where
  relies : ∀ k, IsRely (rely k)
  self : ∀ k s, known s → rely k s s
  disjoint : ∀ b i s s', known s → known s' → TC b i s s' → ∀ k, k ≠ S.slot i → rely k s s'
  starts : ∀ p s s', K p s → TB p s s' → K p s'
  serves : ∀ b i s s', P b s → TC b i s s' → P b s'
  boot : ∀ p s, Safe (fun s s' => s' = s ∧ known s) (TB p) (fun r s => ∀ b, r = .ok b → P b s)
    (S.boot p) s
  call : ∀ b i s, P b s → Safe (rely (S.slot i)) (TC b i) (Q b i) (S.call b i) s

/-- What runs in a configuration is safe. -/
structure Config.Safe (c : Config β ι κ σ ε α) : Prop where
  starting : ∀ rest, c.mode = .starting rest → ∃ p, K p c.state ∧
    Interleaving.Safe (fun s s' => s' = s ∧ known s) (TB p) (fun r s => ∀ b, r = .ok b → P b s) rest
      c.state
  serving : ∀ b threads, c.mode = .serving b threads → P b c.state ∧ ∀ k i rest,
    threads k = some (i, rest) → S.slot i = k ∧
      Interleaving.Safe (rely (S.slot i)) (TC b i) (Q b i) rest c.state

/-- What a step does to the state. -/
def Label.Effect (c : Config β ι κ σ ε α) : Label ι → σ → σ → Prop
  | .boot => fun s s' => ∃ p, K p s ∧ TB p s s'
  | .act i => fun s s' => ∃ b threads, c.mode = .serving b threads ∧ P b s ∧ TC b i s s'
  | _ => fun s s' => s' = s

variable {S known rely K TB TC P Q} {c c' : Config β ι κ σ ε α} {l : Label ι}

theorem Config.safe_initial (s₀ : σ) : (initial s₀).Safe S known rely K TB TC P Q :=
  ⟨nofun, nofun⟩

variable [DecidableEq κ]

section

variable (hS : Disciplined S known rely K TB TC P Q)
include hS

theorem Disciplined.effect
    (hc : c.Safe S known rely K TB TC P Q) (hknown : known c.state) (h : Step S l c c') :
    l.Effect K TB TC P c c.state c'.state := by
  cases h with
  | start | ready | refuse | invoke | answer | crash => rfl
  | @boot s last effect next =>
    obtain ⟨p, hp, hsafe⟩ := hc.starting _ rfl
    exact ⟨p, hp, (hsafe s ⟨rfl, hknown⟩).1⟩
  | @act s last b threads k i effect next hthread =>
    obtain ⟨hb, hthreads⟩ := hc.serving _ _ rfl
    obtain ⟨rfl, hsafe⟩ := hthreads _ _ _ hthread
    exact ⟨b, threads, rfl, hb, (hsafe s (hS.self _ s hknown)).1⟩

theorem Disciplined.step
    (hc : c.Safe S known rely K TB TC P Q) (hknown : known c.state) (hknown' : known c'.state)
    (h : Step S l c c') (hl : l ≠ .start) : c'.Safe S known rely K TB TC P Q := by
  cases h with
  | start p => exact absurd rfl hl
  | @boot s last effect next =>
    refine ⟨?_, nofun⟩
    rintro rest ⟨⟩
    obtain ⟨p, hp, hsafe⟩ := hc.starting _ rfl
    obtain ⟨hstep, hnext⟩ := hsafe s ⟨rfl, hknown⟩
    exact ⟨p, hS.starts p _ _ hp hstep, hnext⟩
  | @ready s last b =>
    refine ⟨nofun, ?_⟩
    rintro b' threads ⟨⟩
    obtain ⟨p, -, hsafe⟩ := hc.starting _ rfl
    exact ⟨hsafe s ⟨rfl, hknown⟩ b rfl, nofun⟩
  | refuse => exact ⟨nofun, nofun⟩
  | @invoke s last b threads i hfree =>
    obtain ⟨hb, hthreads⟩ := hc.serving _ _ rfl
    refine ⟨nofun, ?_⟩
    rintro b' threads' ⟨⟩
    refine ⟨hb, threads_update ?_ fun k _ => hthreads k⟩
    rintro _ _ ⟨⟩
    exact ⟨rfl, hS.call b i _ hb⟩
  | @act s last b threads k i effect next hthread =>
    obtain ⟨hb, hthreads⟩ := hc.serving _ _ rfl
    obtain ⟨rfl, hsafe⟩ := hthreads _ _ _ hthread
    obtain ⟨hstep, hnext⟩ := hsafe s (hS.self _ s hknown)
    refine ⟨nofun, ?_⟩
    rintro b' threads' ⟨⟩
    refine ⟨hS.serves b i _ _ hb hstep, threads_update ?_ fun k hki j rest hk => ?_⟩
    · rintro _ _ ⟨⟩
      exact ⟨rfl, hnext⟩
    · -- the step of the call in its slot is one that the thread in this slot relies on
      obtain ⟨rfl, hrest⟩ := hthreads k j rest hk
      have := hS.relies (S.slot j)
      exact ⟨rfl, hrest.stable (hS.disjoint b i _ _ hknown hknown' hstep _ hki)⟩
  | @answer s last b threads k i r hthread =>
    obtain ⟨hb, hthreads⟩ := hc.serving _ _ rfl
    refine ⟨nofun, ?_⟩
    rintro b' threads' ⟨⟩
    exact ⟨hb, threads_update nofun fun k' _ => hthreads k'⟩
  | crash => exact ⟨nofun, nofun⟩

/-- Every configuration of a run is safe when its first one is and `known` holds in all of them. -/
theorem Disciplined.safe
    (hknown : ∀ c', Reachable S c c' → known c'.state) (hc : c.Safe S known rely K TB TC P Q)
    (h : Run S K c c') : c'.Safe S known rely K TB TC P Q := by
  induction h with
  | refl => exact hc
  | start p _ hK _ =>
    refine ⟨?_, nofun⟩
    rintro rest ⟨⟩
    exact ⟨p, hK, hS.boot p _⟩
  | tail hrun hstep hl ih =>
    exact hS.step ih (hknown _ hrun.reachable) (hknown _ (.tail hrun.reachable hstep)) hstep hl

/-- What the steps of the start and of the calls preserve holds in every run. -/
theorem Disciplined.invariant
    (hknown : ∀ c', Reachable S c c' → known c'.state) (hc : c.Safe S known rely K TB TC P Q) (hI : I c.state)
    (hboot : ∀ p s s', known s → I s → K p s → TB p s s' → I s')
    (hcall : ∀ b i s s', known s → I s → P b s → TC b i s s' → I s')
    (h : Run S K c c') : I c'.state := by
  induction h with
  | refl => exact hI
  | start _ _ _ ih => exact ih
  | @tail c₁ c₂ l hrun hstep _ ih =>
    have hk := hknown _ hrun.reachable
    have heffect := hS.effect (hS.safe hknown hc hrun) hk hstep
    cases l with
    | boot =>
      obtain ⟨p, hp, hTB⟩ := heffect
      exact hboot p _ _ hk ih hp hTB
    | act i =>
      obtain ⟨b, _, _, hb, hTC⟩ := heffect
      exact hcall b i _ _ hk ih hb hTC
    | start | ready | refuse | invoke | answer | crash =>
      rw [show c₂.state = c₁.state from heffect]
      exact ih

end

end Disciplined

end Interleaving
