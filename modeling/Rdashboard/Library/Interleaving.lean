import Mathlib.Logic.Function.Basic
import Mathlib.Data.List.Basic

/-! # Interleaved programs

A program takes atomic steps on a shared state.  A service runs one program when it starts and
then, for every call, a program in the slot of the call: a slot runs one program at a time, and
the programs of different slots interleave step by step.  The service may be killed between any
two steps.

Every slot sees its own part of the state through a view that the programs of other slots do not
touch.  A program is then verified alone, against a `Contract` on its view; `Guarded.sound` and
`Guarded.guarantee` say what follows for every interleaving. -/

namespace Interleaving

open Function

variable {σ ε ε' α β V : Type}
variable {R : Except ε α → V → Prop} {a : α} {e : ε} {g : σ → Except ε α × σ} {y r : Except ε α}
  {xs : List α} {s : σ} {b : β}

/-! ### Programs -/

/-- A program over a shared state: it is done, or takes one atomic step and goes on with what it
saw before that step. -/
inductive Prog (σ ε α : Type) where
  | done (r : Except ε α)
  | act (effect : σ → σ) (next : σ → Prog σ ε α)

namespace Prog

def bind : Prog σ ε α → (α → Prog σ ε β) → Prog σ ε β
  | .done (.ok a), f => f a
  | .done (.error e), _ => .done (.error e)
  | .act effect next, f => .act effect fun s => bind (next s) f

instance : Monad (Prog σ ε) where
  pure a := .done (.ok a)
  bind := bind

/-- One atomic step. -/
def atomic (f : σ → Except ε α × σ) : Prog σ ε α :=
  .act (fun s => (f s).2) fun s => .done (f s).1

/-- Read the state. -/
def read (f : σ → Except ε α) : Prog σ ε α := atomic fun s => (f s, s)

/-- A computation that does not touch the state. -/
def lift (x : Except ε α) : Prog σ ε α := .done x

/-- Fail with `e` unless `c` holds. -/
def ensure (c : Prop) [Decidable c] (e : ε) : Prog σ ε Unit :=
  if c then .done (.ok ()) else .done (.error e)

/-- Run a program and return its result, whether it succeeded or failed. -/
def attempt : Prog σ ε α → Prog σ ε' (Except ε α)
  | .done r => .done (.ok r)
  | .act effect next => .act effect fun s => attempt (next s)

/-- Replace the error of a program. -/
def mapError (f : ε → ε') (x : Prog σ ε α) : Prog σ ε' α := do
  lift ((← attempt x).mapError f)

/-- Run `body` on every element, in order, stopping at the first error. -/
def each (body : α → Prog σ ε Unit) : List α → Prog σ ε Unit
  | [] => pure ()
  | x :: xs => do body x; each body xs

/-- The result and the state left by a program that runs alone. -/
def run : Prog σ ε α → σ → Except ε α × σ
  | .done r, s => (r, s)
  | .act effect next, s => run (next s) (effect s)

/-- The state left by a program that is killed after `n` steps. -/
def killed : Nat → Prog σ ε α → σ → σ
  | n + 1, .act effect next, s => killed n (next s) (effect s)
  | _, _, s => s

end Prog

/-! ### Contracts -/

/-- What a program promises about its view of the state: every step stays in `frame`, keeps `inv`
of the view and relates the view before it and after it by `guar`. -/
structure Contract (σ V : Type) where
  view : σ → V
  frame : σ → σ → Prop
  inv : V → Prop
  guar : V → V → Prop

variable {C : Contract σ V} {v : V}

/-- From the view `v` a program keeps its contract, and ends with a result and a view in `Q`.
Between its steps the state may change in any way that its view does not show. -/
def Sat (C : Contract σ V) (Q : Except ε α → V → Prop) : Prog σ ε α → V → Prop
  | .done r, v => C.inv v ∧ Q r v
  | .act effect next, v => C.inv v ∧ ∀ s, C.view s = v → C.frame s (effect s) ∧
      C.guar v (C.view (effect s)) ∧ Sat C Q (next s) (C.view (effect s))

theorem Sat.inv {Q : Except ε α → V → Prop} {x : Prog σ ε α} (h : Sat C Q x v) : C.inv v := by
  cases x <;> exact h.1

theorem Sat.mono {Q : Except ε α → V → Prop} {x : Prog σ ε α} (h : Sat C R x v)
    (hQ : ∀ r v, C.inv v → R r v → Q r v) : Sat C Q x v := by
  induction x generalizing v with
  | done r => exact ⟨h.1, hQ r v h.1 h.2⟩
  | act effect next ih =>
    refine ⟨h.1, fun s hs => ?_⟩
    obtain ⟨hframe, hguar, hnext⟩ := h.2 s hs
    exact ⟨hframe, hguar, ih s hnext⟩

theorem sat_bind {Q : Except ε β → V → Prop} {x : Prog σ ε α} {f : α → Prog σ ε β}
    (h : Sat C (fun r v => match r with
      | .ok a => Sat C Q (f a) v
      | .error e => Q (.error e) v) x v) : Sat C Q (x >>= f) v := by
  induction x generalizing v with
  | done r =>
    cases r with
    | ok a => exact h.2
    | error e => exact h
  | act effect next ih =>
    refine ⟨h.1, fun s hs => ?_⟩
    obtain ⟨hframe, hguar, hnext⟩ := h.2 s hs
    exact ⟨hframe, hguar, ih s hnext⟩

theorem sat_attempt {Q : Except ε' (Except ε α) → V → Prop} {x : Prog σ ε α}
    (h : Sat C (fun r v => Q (.ok r) v) x v) : Sat C Q (Prog.attempt x) v := by
  induction x generalizing v with
  | done r => exact h
  | act effect next ih =>
    refine ⟨h.1, fun s hs => ?_⟩
    obtain ⟨hframe, hguar, hnext⟩ := h.2 s hs
    exact ⟨hframe, hguar, ih s hnext⟩

theorem sat_mapError {Q : Except ε' α → V → Prop} {f : ε → ε'} {x : Prog σ ε α}
    (h : Sat C (fun r v => Q (r.mapError f) v) x v) : Sat C Q (Prog.mapError f x) v := by
  refine sat_bind (sat_attempt (h.mono fun r v hinv hQ => ?_))
  exact ⟨hinv, hQ⟩

theorem sat_pure {Q : Except ε α → V → Prop} (hinv : C.inv v) (h : Q (.ok a) v) :
    Sat C Q (pure a) v := ⟨hinv, h⟩

theorem sat_lift {Q : Except ε β → V → Prop} {x : Except ε α} {f : α → Prog σ ε β}
    (hinv : C.inv v) (herr : ∀ e, Q (.error e) v) (hok : ∀ a, x = .ok a → Sat C Q (f a) v) :
    Sat C Q (Prog.lift x >>= f) v := by
  refine sat_bind ⟨hinv, ?_⟩
  cases x with
  | ok a => exact hok a rfl
  | error e => exact herr e

theorem sat_ensure {Q : Except ε β → V → Prop} {c : Prop} [Decidable c]
    {f : Unit → Prog σ ε β} (hinv : C.inv v) (herr : Q (.error e) v) (hok : c → Sat C Q (f ()) v) :
    Sat C Q (Prog.ensure c e >>= f) v := by
  refine sat_bind ?_
  unfold Prog.ensure
  by_cases hc : c
  · rw [if_pos hc]
    exact ⟨hinv, hok hc⟩
  · rw [if_neg hc]
    exact ⟨hinv, herr⟩

theorem sat_atomic {Q : Except ε α → V → Prop} {f : σ → Except ε α × σ} (hinv : C.inv v)
    (h : ∀ s, C.view s = v → C.frame s (f s).2 ∧ C.guar v (C.view (f s).2) ∧
      C.inv (C.view (f s).2) ∧ Q (f s).1 (C.view (f s).2)) : Sat C Q (Prog.atomic f) v := by
  refine ⟨hinv, fun s hs => ?_⟩
  obtain ⟨hframe, hguar, hrest⟩ := h s hs
  exact ⟨hframe, hguar, hrest⟩

/-! ### Steps of a kind -/

/-- Every step of the program is in `T`. -/
def Prog.Steps (T : σ → σ → Prop) : Prog σ ε α → Prop
  | .done _ => True
  | .act effect next => ∀ s, T s (effect s) ∧ Steps T (next s)

namespace Prog.Steps

variable {T T' : σ → σ → Prop} {x : Prog σ ε α} {f : α → Prog σ ε β} {c : Prop}

theorem bind (hx : x.Steps T) (hf : ∀ a, (f a).Steps T) : (x >>= f).Steps T := by
  induction x with
  | done r =>
    cases r with
    | ok a => exact hf a
    | error e => exact trivial
  | act effect next ih => exact fun s => ⟨(hx s).1, ih s (hx s).2⟩

theorem attempt (hx : x.Steps T) : (Prog.attempt x : Prog σ ε' (Except ε α)).Steps T := by
  induction x with
  | done r => exact trivial
  | act effect next ih => exact fun s => ⟨(hx s).1, ih s (hx s).2⟩

theorem mapError {g : ε → ε'} (hx : x.Steps T) : (Prog.mapError g x).Steps T :=
  bind hx.attempt fun _ => trivial

theorem atomic (h : ∀ s, T s (g s).2) : (Prog.atomic g).Steps T :=
  fun s => ⟨h s, trivial⟩

theorem lift : (Prog.lift y).Steps T := trivial

theorem pure : (Pure.pure a : Prog σ ε α).Steps T := trivial

theorem ensure [Decidable c] : (Prog.ensure c e).Steps T := by
  unfold Prog.ensure
  split <;> exact trivial

theorem lift_bind (hf : ∀ a, y = .ok a → (f a).Steps T) : (Prog.lift y >>= f).Steps T := by
  cases y with
  | ok a => exact hf a rfl
  | error e => exact trivial

theorem ensure_bind [Decidable c] {g : Unit → Prog σ ε β}
    (hg : c → (g ()).Steps T) : (Prog.ensure c e >>= g).Steps T := by
  unfold Prog.ensure
  by_cases hc : c
  · rw [if_pos hc]
    exact hg hc
  · rw [if_neg hc]
    exact trivial

theorem each {body : α → Prog σ ε Unit} (h : ∀ a ∈ xs, (body a).Steps T) :
    (Prog.each body xs).Steps T := by
  induction xs with
  | nil => exact trivial
  | cons a xs ih =>
    exact bind (h a List.mem_cons_self) fun _ => ih fun b hb => h b (List.mem_cons_of_mem _ hb)

theorem mono (hx : x.Steps T) (h : ∀ s s', T s s' → T' s s') : x.Steps T' := by
  induction x with
  | done r => exact trivial
  | act effect next ih => exact fun s => ⟨h _ _ (hx s).1, ih s (hx s).2⟩

end Prog.Steps

/-- A program whose steps no view shows keeps every contract. -/
theorem Prog.Steps.sat {T : σ → σ → Prop} {Q : Except ε α → V → Prop} {x : Prog σ ε α}
    (hT : ∀ s s', T s s' → C.view s' = C.view s ∧ C.frame s s') (h : x.Steps T)
    (hinv : C.inv v) (hguar : C.guar v v) (hQ : ∀ r, Q r v) : Sat C Q x v := by
  induction x with
  | done r => exact ⟨hinv, hQ r⟩
  | act effect next ih =>
    refine ⟨hinv, fun s hs => ?_⟩
    obtain ⟨hview, hframe⟩ := hT _ _ (h s).1
    rw [hview, hs]
    exact ⟨hframe, hguar, ih s (h s).2⟩

/-! ### Services -/

/-- A service: the program that starts it, the slot of every call, and the programs of the
calls. -/
structure Service (π β ι κ σ ε α : Type) where
  boot : π → Prog σ ε β
  slot : ι → κ
  call : β → ι → Prog σ ε α

variable {π ι κ : Type}

inductive Mode (β ι κ σ ε α : Type) where
  | down
  | starting (rest : Prog σ ε β)
  | serving (b : β) (threads : κ → Option (ι × Prog σ ε α))

/-- The state together with what runs on it; `lastStart` is the service that the last start
returned, if it succeeded. -/
structure Config (β ι κ σ ε α : Type) where
  state : σ
  mode : Mode β ι κ σ ε α
  lastStart : Option β

/-- What a step of a configuration is. -/
inductive Label (ι : Type) where
  | start
  | boot
  | ready
  | refuse
  | invoke (i : ι)
  | act (i : ι)
  | answer (i : ι)
  | crash

/-- No service has started yet. -/
def Config.initial (s : σ) : Config β ι κ σ ε α := ⟨s, .down, none⟩

inductive Step [DecidableEq κ] (S : Service π β ι κ σ ε α) :
    Label ι → Config β ι κ σ ε α → Config β ι κ σ ε α → Prop where
  | start {s : σ} {last : Option β} (p : π) :
      Step S .start ⟨s, .down, last⟩ ⟨s, .starting (S.boot p), none⟩
  | boot {s : σ} {last : Option β} {effect : σ → σ} {next : σ → Prog σ ε β} :
      Step S .boot ⟨s, .starting (.act effect next), last⟩ ⟨effect s, .starting (next s), last⟩
  | ready {s : σ} {last : Option β} {b : β} :
      Step S .ready ⟨s, .starting (.done (.ok b)), last⟩ ⟨s, .serving b fun _ => none, some b⟩
  | refuse {s : σ} {last : Option β} {e : ε} :
      Step S .refuse ⟨s, .starting (.done (.error e)), last⟩ ⟨s, .down, last⟩
  | invoke {s : σ} {last : Option β} {b : β} {threads : κ → Option (ι × Prog σ ε α)} (i : ι) :
      threads (S.slot i) = none →
      Step S (.invoke i) ⟨s, .serving b threads, last⟩
        ⟨s, .serving b (update threads (S.slot i) (some (i, S.call b i))), last⟩
  | act {s : σ} {last : Option β} {b : β} {threads : κ → Option (ι × Prog σ ε α)} {k : κ} {i : ι}
      {effect : σ → σ} {next : σ → Prog σ ε α} : threads k = some (i, .act effect next) →
      Step S (.act i) ⟨s, .serving b threads, last⟩
        ⟨effect s, .serving b (update threads k (some (i, next s))), last⟩
  | answer {s : σ} {last : Option β} {b : β} {threads : κ → Option (ι × Prog σ ε α)} {k : κ}
      {i : ι} {r : Except ε α} : threads k = some (i, .done r) →
      Step S (.answer i) ⟨s, .serving b threads, last⟩
        ⟨s, .serving b (update threads k none), last⟩
  | crash {c : Config β ι κ σ ε α} : Step S .crash c ⟨c.state, .down, c.lastStart⟩

/-- The configurations that a service reaches from `c`. -/
inductive Reachable [DecidableEq κ] (S : Service π β ι κ σ ε α) (c : Config β ι κ σ ε α) :
    Config β ι κ σ ε α → Prop where
  | refl : Reachable S c c
  | tail {c' c'' : Config β ι κ σ ε α} {l : Label ι} :
      Reachable S c c' → Step S l c' c'' → Reachable S c c''

/-- The configurations that a service reaches from `c` while `P` holds. -/
inductive While [DecidableEq κ] (S : Service π β ι κ σ ε α) (P : Config β ι κ σ ε α → Prop)
    (c : Config β ι κ σ ε α) : Config β ι κ σ ε α → Prop where
  | refl : P c → While S P c c
  | tail {c' c'' : Config β ι κ σ ε α} {l : Label ι} :
      While S P c c' → Step S l c' c'' → P c'' → While S P c c''

/-! ### Sound services -/

variable (S : Service π β ι κ σ ε α) (view : κ → σ → V) (A : Option β → κ → V → Prop)
  (G : β → ι → V → V → Prop) (B : κ → V → V → Prop) (Q : β → ι → Except ε α → V → Prop)

/-- The contract of the start, which sees every view. -/
def bootContract : Contract σ (κ → V) where
  view s k := view k s
  frame _ _ := True
  inv vs := ∀ k, A none k (vs k)
  guar vs vs' := ∀ k, B k (vs k) (vs' k)

/-- The contract of a program that works in the slot `k`. -/
def slotContract (k : κ) (inv : V → Prop) (guar : V → V → Prop) : Contract σ V where
  view := view k
  frame s s' := ∀ j, j ≠ k → view j s' = view j s
  inv := inv
  guar := guar

/-- The start and the calls keep their contracts.  The invariant `A last` may depend on the last
start that succeeded. -/
structure Guarded : Prop where
  weaken : ∀ last k v, A last k v → A none k v
  boot : ∀ p vs, (∀ k, A none k (vs k)) →
    Sat (bootContract view A B) (fun r vs => ∀ b, r = .ok b → ∀ k, A (some b) k (vs k))
      (S.boot p) vs
  call : ∀ b i v, A (some b) (S.slot i) v →
    Sat (slotContract view (S.slot i) (A (some b) (S.slot i)) (G b i)) (Q b i) (S.call b i) v

/-- The invariant of a configuration: what still runs keeps its contract. -/
structure Config.Sound (c : Config β ι κ σ ε α) : Prop where
  inv : ∀ k, A c.lastStart k (view k c.state)
  starting : ∀ rest, c.mode = .starting rest → c.lastStart = none ∧
    Sat (bootContract view A B) (fun r vs => ∀ b, r = .ok b → ∀ k, A (some b) k (vs k)) rest
      (fun k => view k c.state)
  serving : ∀ b threads, c.mode = .serving b threads → c.lastStart = some b ∧
    ∀ k i rest, threads k = some (i, rest) → S.slot i = k ∧
      Sat (slotContract view (S.slot i) (A (some b) (S.slot i)) (G b i)) (Q b i) rest
        (view (S.slot i) c.state)

variable {S view A G B Q} [DecidableEq κ] {c c' : Config β ι κ σ ε α} {l : Label ι}

omit [DecidableEq κ] in
theorem sound_initial (h : ∀ k, A none k (view k s)) :
    (Config.initial s : Config β ι κ σ ε α).Sound S view A G B Q :=
  ⟨h, nofun, nofun⟩

/-- What holds of the threads of a service after one of its slots is given to another. -/
theorem threads_update {P : κ → ι → Prog σ ε α → Prop} {threads : κ → Option (ι × Prog σ ε α)}
    {k : κ} {o : Option (ι × Prog σ ε α)} (hnew : ∀ i rest, o = some (i, rest) → P k i rest)
    (h : ∀ k', k' ≠ k → ∀ i rest, threads k' = some (i, rest) → P k' i rest) (k' : κ) (i : ι)
    (rest : Prog σ ε α) (hthread : update threads k o k' = some (i, rest)) :
    P k' i rest := by
  by_cases hk : k' = k
  · subst hk
    rw [update_self] at hthread
    exact hnew i rest hthread
  · rw [update_of_ne hk] at hthread
    exact h k' hk i rest hthread

theorem Guarded.step (hS : Guarded S view A G B Q) (hc : c.Sound S view A G B Q)
    (h : Step S l c c') : c'.Sound S view A G B Q := by
  cases h with
  | start p =>
    have hinv : ∀ k, A none k _ := fun k => hS.weaken _ k _ (hc.inv k)
    refine ⟨hinv, ?_, nofun⟩
    rintro rest ⟨⟩
    exact ⟨rfl, hS.boot p _ hinv⟩
  | @boot s last effect next =>
    obtain ⟨hlast, -, hboot⟩ := hc.starting _ rfl
    obtain ⟨-, -, hnext⟩ := hboot s rfl
    subst hlast
    refine ⟨hnext.inv, ?_, nofun⟩
    rintro rest ⟨⟩
    exact ⟨rfl, hnext⟩
  | @ready s last b =>
    obtain ⟨-, -, hready⟩ := hc.starting _ rfl
    refine ⟨hready b rfl, nofun, ?_⟩
    rintro b' threads ⟨⟩
    exact ⟨rfl, nofun⟩
  | refuse => exact ⟨hc.inv, nofun, nofun⟩
  | @invoke s last b threads i hfree =>
    obtain ⟨hlast, hthreads⟩ := hc.serving _ _ rfl
    refine ⟨hc.inv, nofun, ?_⟩
    rintro b' threads' ⟨⟩
    refine ⟨hlast, threads_update ?_ fun k _ => hthreads k⟩
    rintro _ _ ⟨⟩
    have hinv := hc.inv (S.slot i)
    rw [hlast] at hinv
    exact ⟨rfl, hS.call b i _ hinv⟩
  | @act s last b threads k i effect next hthread =>
    obtain ⟨hlast, hthreads⟩ := hc.serving _ _ rfl
    obtain ⟨rfl, -, hstep⟩ := hthreads _ _ _ hthread
    obtain ⟨hframe, -, hnext⟩ := hstep s rfl
    subst hlast
    refine ⟨fun k => ?_, nofun, ?_⟩
    · by_cases hk : k = S.slot i
      · subst hk
        exact hnext.inv
      · have hinv := hc.inv k
        rw [hframe k hk]
        exact hinv
    · rintro b' threads' ⟨⟩
      refine ⟨rfl, threads_update ?_ fun k hki j rest hk => ?_⟩
      · rintro _ _ ⟨⟩
        exact ⟨rfl, hnext⟩
      · obtain ⟨rfl, hrest⟩ := hthreads k j rest hk
        rw [hframe _ hki]
        exact ⟨rfl, hrest⟩
  | @answer s last b threads k i r hthread =>
    obtain ⟨hlast, hthreads⟩ := hc.serving _ _ rfl
    refine ⟨hc.inv, nofun, ?_⟩
    rintro b' threads' ⟨⟩
    exact ⟨hlast, threads_update nofun fun k' _ => hthreads k'⟩
  | crash => exact ⟨hc.inv, nofun, nofun⟩

/-- What the contracts promise holds in every interleaving. -/
theorem Guarded.sound (hS : Guarded S view A G B Q) {c₀ : Config β ι κ σ ε α}
    (h₀ : c₀.Sound S view A G B Q) (h : Reachable S c₀ c) : c.Sound S view A G B Q := by
  induction h with
  | refl => exact h₀
  | tail _ hstep ih => exact hS.step ih hstep

/-- A step leaves the view of a slot alone, or keeps the guarantee of what runs in it. -/
theorem Config.Sound.guarantee (hc : c.Sound S view A G B Q) (h : Step S l c c') (k : κ) :
    view k c'.state = view k c.state ∨ (l = .boot ∧ B k (view k c.state) (view k c'.state)) ∨
      ∃ b i, l = .act i ∧ S.slot i = k ∧ A (some b) k (view k c.state) ∧
        G b i (view k c.state) (view k c'.state) := by
  cases h with
  | start | ready | refuse | invoke | answer | crash => exact .inl rfl
  | @boot s last effect next =>
    obtain ⟨-, -, hboot⟩ := hc.starting _ rfl
    obtain ⟨-, hguar, -⟩ := hboot s rfl
    exact .inr (.inl ⟨rfl, hguar k⟩)
  | @act s last b threads k' i effect next hthread =>
    obtain ⟨-, hthreads⟩ := hc.serving _ _ rfl
    obtain ⟨rfl, hinv, hstep⟩ := hthreads _ _ _ hthread
    obtain ⟨hframe, hguar, -⟩ := hstep s rfl
    by_cases hk : k = S.slot i
    · subst hk
      exact .inr (.inr ⟨b, i, rfl, rfl, hinv, hguar⟩)
    · exact .inl (hframe k hk)

/-! ### While a condition holds -/

theorem While.holds {P : Config β ι κ σ ε α → Prop} (h : While S P c c') : P c' := by
  cases h with
  | refl hc => exact hc
  | tail _ _ hc' => exact hc'

theorem While.reachable {P : Config β ι κ σ ε α → Prop} {c₀ : Config β ι κ σ ε α}
    (h₀ : Reachable S c₀ c) (h : While S P c c') : Reachable S c₀ c' := by
  induction h with
  | refl _ => exact h₀
  | tail _ hstep _ ih => exact .tail ih hstep

/-! ### Programs that run alone -/

namespace Prog

variable {s' : σ}

theorem run_bind (x : Prog σ ε α) (f : α → Prog σ ε β) (s : σ) :
    (x >>= f).run s = match x.run s with
      | (.ok a, s') => (f a).run s'
      | (.error e, s') => (.error e, s') := by
  induction x generalizing s with
  | done r => cases r <;> rfl
  | act effect next ih => exact ih s (effect s)

theorem run_bind_ok_iff {x : Prog σ ε α} {f : α → Prog σ ε β} {y : β} :
    (x >>= f).run s = (.ok y, s') ↔ ∃ a s₁, x.run s = (.ok a, s₁) ∧ (f a).run s₁ = (.ok y, s') := by
  rw [run_bind]
  rcases x.run s with ⟨e | a, s₁⟩
  · simp
  · simp

theorem run_bind_of_ok {x : Prog σ ε α} {f : α → Prog σ ε β} (h : x.run s = (.ok a, s')) :
    (x >>= f).run s = (f a).run s' := by
  rw [run_bind, h]

theorem run_bind_of_error {x : Prog σ ε α} {f : α → Prog σ ε β}
    (h : x.run s = (.error e, s')) : (x >>= f).run s = (.error e, s') := by
  rw [run_bind, h]

theorem run_bind_pure (x : Prog σ ε α) (f : α → β) (s : σ) :
    (x >>= fun a => pure (f a)).run s = ((x.run s).1.map f, (x.run s).2) := by
  rw [run_bind]
  rcases x.run s with ⟨e | a, s'⟩ <;> rfl

theorem run_atomic_ok_iff : (atomic g).run s = (.ok a, s') ↔ g s = (.ok a, s') := Iff.rfl

theorem run_lift_ok_iff {x : Except ε α} :
    (lift x).run s = (.ok a, s') ↔ x = .ok a ∧ s = s' := Prod.ext_iff

theorem run_ensure_ok_iff {c : Prop} [Decidable c] {u : Unit} :
    (ensure c e : Prog σ ε Unit).run s = (.ok u, s') ↔ c ∧ s = s' := by
  unfold ensure
  split_ifs with hc
  · change ((.ok () : Except ε Unit), s) = _ ↔ _
    simp [hc]
  · change ((.error e : Except ε Unit), s) = _ ↔ _
    simp [hc]

theorem run_ensure_bind {c : Prop} [Decidable c] {f : Unit → Prog σ ε β} (hc : c) :
    (ensure c e >>= f).run s = (f ()).run s := by
  rw [ensure, if_pos hc]
  rfl

theorem run_ensure_bind_error {c : Prop} [Decidable c] {f : Unit → Prog σ ε β} (hc : ¬ c) :
    (ensure c e >>= f).run s = (.error e, s) := by
  rw [ensure, if_neg hc]
  rfl

theorem run_read_bind {g : σ → α} {f : α → Prog σ ε β} :
    ((read fun s => .ok (g s)) >>= f).run s = (f (g s)).run s := rfl

theorem run_attempt (x : Prog σ ε α) (s : σ) :
    (attempt x : Prog σ ε' (Except ε α)).run s = (.ok (x.run s).1, (x.run s).2) := by
  induction x generalizing s with
  | done r => exact rfl
  | act effect next ih => exact ih s (effect s)

theorem run_mapError {f : ε → ε'} {x : Prog σ ε α} :
    (mapError f x).run s = ((x.run s).1.mapError f, (x.run s).2) := by
  rw [mapError, run_bind, run_attempt]
  rfl

theorem run_each_ok {body : α → Prog σ ε Unit} {u : Unit}
    (h : (each body xs).run s = (.ok u, s')) : ∀ a ∈ xs, ∃ s₁ s₂, (body a).run s₁ = (.ok (), s₂) := by
  induction xs generalizing s with
  | nil => exact fun a ha => absurd ha List.not_mem_nil
  | cons x xs ih =>
    obtain ⟨_, s₁, hfirst, hrest⟩ := run_bind_ok_iff.mp h
    intro a ha
    rcases List.mem_cons.mp ha with rfl | ha
    · exact ⟨s, s₁, hfirst⟩
    · exact ih hrest a ha

/-- Run alone from `s` the program succeeds, with a result and a state in `Q`. -/
def Returns (Q : α → σ → Prop) (x : Prog σ ε α) (s : σ) : Prop :=
  ∃ a s', x.run s = (.ok a, s') ∧ Q a s'

namespace Returns

variable {Q Q' : α → σ → Prop} {x : Prog σ ε α}
variable {P : Unit → σ → Prop}

theorem mono (h : x.Returns Q s) (hQ : ∀ a s', Q a s' → Q' a s') : x.Returns Q' s := by
  obtain ⟨a, s', hrun, ha⟩ := h
  exact ⟨a, s', hrun, hQ a s' ha⟩

theorem bind {P : β → σ → Prop} {f : α → Prog σ ε β}
    (h : x.Returns (fun a s' => (f a).Returns P s') s) : (x >>= f).Returns P s := by
  obtain ⟨a, s₁, hx, b, s₂, hf, hb⟩ := h
  exact ⟨b, s₂, run_bind_ok_iff.mpr ⟨a, s₁, hx, hf⟩, hb⟩

theorem pure (h : Q a s) : (Pure.pure a : Prog σ ε α).Returns Q s := ⟨a, s, rfl, h⟩

theorem lift (hy : y = .ok a) (h : Q a s) :
    (Prog.lift y).Returns Q s := ⟨a, s, run_lift_ok_iff.mpr ⟨hy, rfl⟩, h⟩

theorem ensure {c : Prop} [Decidable c] (hc : c) (h : P () s) :
    (Prog.ensure c e).Returns P s := ⟨(), s, run_ensure_ok_iff.mpr ⟨hc, rfl⟩, h⟩

theorem atomic (hg : (g s).1 = .ok a) (h : Q a (g s).2) :
    (Prog.atomic g).Returns Q s := ⟨a, (g s).2, run_atomic_ok_iff.mpr (Prod.ext hg rfl), h⟩

/-- What is left to run after a program that succeeds. -/
theorem run_bind {f : α → Prog σ ε β} (h : x.Returns Q s) :
    ∃ a s', Q a s' ∧ (x >>= f).run s = (f a).run s' := by
  obtain ⟨a, s', hrun, ha⟩ := h
  exact ⟨a, s', ha, run_bind_of_ok hrun⟩

theorem read_bind {P : β → σ → Prop} {g : σ → α} {f : α → Prog σ ε β} (h : (f (g s)).Returns P s) :
    ((read fun s => .ok (g s)) >>= f).Returns P s := bind (atomic rfl h)

theorem attempt {P : Except ε α → σ → Prop} (h : P (x.run s).1 (x.run s).2) :
    (Prog.attempt x : Prog σ ε' (Except ε α)).Returns P s := ⟨_, _, run_attempt x s, h⟩

theorem mapError {f : ε → ε'} (h : x.Returns Q s) : (Prog.mapError f x).Returns Q s := by
  obtain ⟨a, s', hrun, ha⟩ := h
  exact ⟨a, s', by rw [run_mapError, hrun]; rfl, ha⟩

/-- A loop whose rounds all succeed; `I` is what holds before a round, with the elements left. -/
theorem each {I : List α → σ → Prop} {body : α → Prog σ ε Unit} (hs : I xs s)
    (hround : ∀ a rest s, I (a :: rest) s → (body a).Returns (fun _ s' => I rest s') s)
    (hdone : ∀ s, I [] s → P () s) : (Prog.each body xs).Returns P s := by
  induction xs generalizing s with
  | nil => exact .pure (hdone s hs)
  | cons a xs ih => exact .bind ((hround a xs s hs).mono fun _ s' hs' => ih hs')

end Returns

end Prog

/-- What a contract promises of a program that runs alone. -/
theorem Sat.run {Q : Except ε α → V → Prop} {x : Prog σ ε α} (hrefl : ∀ s, C.frame s s)
    (htrans : ∀ s₁ s₂ s₃, C.frame s₁ s₂ → C.frame s₂ s₃ → C.frame s₁ s₃)
    (h : Sat C Q x (C.view s)) : C.inv (C.view (x.run s).2) ∧ C.frame s (x.run s).2 ∧
      Q (x.run s).1 (C.view (x.run s).2) := by
  induction x generalizing s with
  | done r => exact ⟨h.1, hrefl s, h.2⟩
  | act effect next ih =>
    obtain ⟨hframe, -, hnext⟩ := h.2 s rfl
    obtain ⟨hinv, hrest, hQ⟩ := ih s hnext
    exact ⟨hinv, htrans _ _ _ hframe hrest, hQ⟩

theorem Reachable.trans {c₁ c₂ c₃ : Config β ι κ σ ε α} (h₁ : Reachable S c₁ c₂)
    (h₂ : Reachable S c₂ c₃) : Reachable S c₁ c₃ := by
  induction h₂ with
  | refl => exact h₁
  | tail _ hstep ih => exact .tail ih hstep

/-! ### Runs with a condition on starts -/

section Runs

variable (S) (K : π → σ → Prop)
variable {last : Option β} {s' : σ}

/-- The configurations that a service reaches from `c` when it is started with `p` only in states
in which `K p` holds. -/
inductive Run (c : Config β ι κ σ ε α) : Config β ι κ σ ε α → Prop where
  | refl : Run c c
  | start {s : σ} {last : Option β} (p : π) : Run c ⟨s, .down, last⟩ → K p s →
      Run c ⟨s, .starting (S.boot p), none⟩
  | tail {c' c'' : Config β ι κ σ ε α} {l : Label ι} : Run c c' → Step S l c' c'' → l ≠ .start →
      Run c c''

variable {S K} {c'' : Config β ι κ σ ε α}

theorem Run.reachable (h : Run S K c c') : Reachable S c c' := by
  induction h with
  | refl => exact .refl
  | start p _ _ ih => exact .tail ih (.start p)
  | tail _ hstep _ ih => exact .tail ih hstep

theorem Reachable.run (h : Reachable S c c') : Run S (fun _ _ => True) c c' := by
  induction h with
  | refl => exact .refl
  | @tail _ _ l _ hstep ih =>
    by_cases hl : l = .start
    · subst hl
      cases hstep with
      | start p => exact .start p ih trivial
    · exact .tail ih hstep hl

theorem Run.trans (h : Run S K c c') (h' : Run S K c' c'') : Run S K c c'' := by
  induction h' with
  | refl => exact h
  | start p _ hK ih => exact .start p ih hK
  | tail _ hstep hl ih => exact .tail ih hstep hl

theorem Run.of_step {l : Label ι} (h : Step S l c c') (hl : l ≠ .start) : Run S K c c' :=
  .tail .refl h hl

/-- A start that runs to its end. -/
theorem Run.booted {p : π} (hK : K p s) (h : (S.boot p).run s = (.ok b, s')) :
    Run S K ⟨s, .down, last⟩ ⟨s', .serving b fun _ => none, some b⟩ := by
  have hboot : ∀ x (s : σ), x.run s = (.ok b, s') →
      Run S K ⟨s, .starting x, none⟩ ⟨s', .starting (.done (.ok b)), none⟩ := by
    intro x
    induction x with
    | done r =>
      intro s hrun
      cases hrun
      exact .refl
    | act effect next ih =>
      exact fun s hrun => (of_step .boot (by simp)).trans (ih s _ hrun)
  have hstart : Run S K ⟨s, .down, last⟩ ⟨s, .starting (S.boot p), none⟩ := .start p .refl hK
  exact (hstart.trans (hboot _ s h)).trans (of_step .ready (by simp))

/-- A call that runs to its end while no other does. -/
theorem Run.called {threads : κ → Option (ι × Prog σ ε α)}
    (i : ι) (hfree : threads (S.slot i) = none)
    (h : (S.call b i).run s = (r, s')) : Run S K ⟨s, .serving b threads, last⟩
      ⟨s', .serving b (update threads (S.slot i) (some (i, .done r))), last⟩ := by
  have hcall : ∀ x (s : σ), x.run s = (r, s') →
      Run S K ⟨s, .serving b (update threads (S.slot i) (some (i, x))), last⟩
        ⟨s', .serving b (update threads (S.slot i) (some (i, .done r))), last⟩ := by
    intro x
    induction x with
    | done r =>
      intro s hrun
      cases hrun
      exact .refl
    | act effect next ih =>
      intro s hrun
      have hstep : Step S (.act i) ⟨s, .serving b _, last⟩ ⟨effect s, .serving b _, last⟩ :=
        .act (update_self (S.slot i) (some (i, Prog.act effect next)) threads)
      rw [update_idem] at hstep
      exact (of_step hstep (by simp)).trans (ih s _ hrun)
  exact (of_step (.invoke i hfree) (by simp)).trans (hcall _ s h)

/-- A call that runs to its end while no other does, and its answer. -/
theorem Run.answered {threads : κ → Option (ι × Prog σ ε α)}
    (i : ι) (hfree : threads (S.slot i) = none)
    (h : (S.call b i).run s = (r, s')) :
    Run S K ⟨s, .serving b threads, last⟩ ⟨s', .serving b threads, last⟩ := by
  have hcalled : Run S K ⟨s, .serving b threads, last⟩ _ := called i hfree h
  have hanswer := hcalled.trans
    (of_step (.answer (update_self (S.slot i) _ threads)) (by simp))
  have hkept : update threads (S.slot i) none = threads :=
    update_eq_self_iff.mpr hfree.symm
  rw [update_idem, hkept] at hanswer
  exact hanswer

theorem Reachable.booted {p : π} (h : (S.boot p).run s = (.ok b, s')) :
    Reachable S ⟨s, .down, last⟩ ⟨s', .serving b fun _ => none, some b⟩ :=
  (Run.booted (K := fun _ _ => True) trivial h).reachable

theorem Reachable.answered {threads : κ → Option (ι × Prog σ ε α)} (i : ι)
    (hfree : threads (S.slot i) = none) (h : (S.call b i).run s = (r, s')) :
    Reachable S ⟨s, .serving b threads, last⟩ ⟨s', .serving b threads, last⟩ :=
  (Run.answered (K := fun _ _ => True) i hfree h).reachable

/-- A call during which the service is killed. -/
theorem Reachable.killed {threads : κ → Option (ι × Prog σ ε α)} (i : ι)
    (hfree : threads (S.slot i) = none) (n : Nat) :
    Reachable S ⟨s, .serving b threads, last⟩ ⟨(S.call b i).killed n s, .down, last⟩ := by
  have hcall : ∀ n x (s : σ),
      Reachable S ⟨s, .serving b (update threads (S.slot i) (some (i, x))), last⟩
        ⟨Prog.killed n x s, .down, last⟩ := by
    intro n
    induction n with
    | zero => exact fun _ _ => .tail .refl .crash
    | succ n ih =>
      rintro (r | ⟨effect, next⟩) s
      · exact .tail .refl .crash
      · have hstep : Step S (.act i) ⟨s, .serving b _, last⟩ ⟨effect s, .serving b _, last⟩ :=
          .act (update_self (S.slot i) (some (i, Prog.act effect next)) threads)
        rw [update_idem] at hstep
        exact (Reachable.tail .refl hstep).trans (ih _ _)
  exact (Reachable.tail .refl (.invoke i hfree)).trans (hcall n _ s)

end Runs

/-! ### A program of one slot as a part of the start -/

/-- A program that keeps the contract of its slot changes that view alone. -/
theorem Sat.slot {k : κ} {guar : V → V → Prop} {x : Prog σ ε α}
    {vs : κ → V} (hB : ∀ v v', A none k v → guar v v' → B k v v') (hrefl : ∀ j v, B j v v)
    (hvs : ∀ j, A none j (vs j)) (h : Sat (slotContract view k (A none k) guar) R x (vs k)) :
    Sat (bootContract view A B) (fun r vs' => R r (vs' k) ∧ ∀ j, j ≠ k → vs' j = vs j) x vs := by
  induction x generalizing vs with
  | done r => exact ⟨hvs, h.2, fun j _ => rfl⟩
  | act effect next ih =>
    refine ⟨hvs, fun s hs => ?_⟩
    subst hs
    obtain ⟨hframe, hguar, hnext⟩ := h.2 s rfl
    have hvs' : ∀ j, A none j (view j (effect s)) := by
      intro j
      by_cases hj : j = k
      · subst hj
        exact hnext.inv
      · rw [hframe j hj]
        exact hvs j
    refine ⟨trivial, fun j => ?_, (ih s hvs' hnext).mono fun r vs' _ hr => ?_⟩
    · by_cases hj : j = k
      · subst hj
        exact hB _ _ h.1 hguar
      · change B j (view j s) (view j (effect s))
        rw [hframe j hj]
        exact hrefl j _
    · obtain ⟨hR, hothers⟩ := hr
      exact ⟨hR, fun j hj => (hothers j hj).trans (hframe j hj)⟩

end Interleaving
