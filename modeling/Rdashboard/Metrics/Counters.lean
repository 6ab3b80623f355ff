import Mathlib.Algebra.Group.Prod
import Mathlib.Data.List.Induction
import Mathlib.Data.List.Pairwise
import Rdashboard.Workflow.Identifiers

/-! # Monotonic counters

A `MonotonicCounterDelta` sums up the observations of a counter: the increases between consecutive
observations, without those over a reset.  Merging the summaries of adjacent segments, in either
order, gives the summary of the whole. -/

namespace Rdashboard

open List

/-! ### The model -/

/-- `u64::saturating_add`. -/
def saturatingAdd (a b : Nat) : Nat := min (a + b) u64Max

structure MonotonicCounterDelta where
  firstObservedAtMs : Option Int := none
  firstValue : Option Nat := none
  lastObservedAtMs : Option Int := none
  lastValue : Option Nat := none
  totalIncrease : Nat := 0
  coveredMs : Nat := 0

namespace MonotonicCounterDelta

def addInterval (d : MonotonicCounterDelta) (firstAt : Int) (first : Nat) (lastAt : Int)
    (last : Nat) : MonotonicCounterDelta :=
  if lastAt ≤ firstAt ∨ last < first then d
  -- `checked_sub` of the two times
  else if i64Max < lastAt - firstAt then d
  else { d with
    totalIncrease := saturatingAdd d.totalIncrease (last - first)
    coveredMs := saturatingAdd d.coveredMs (lastAt - firstAt).toNat }

def setFirstAndLast (d : MonotonicCounterDelta) (observedAtMs : Int) (value : Nat) :
    MonotonicCounterDelta :=
  { d with
    firstObservedAtMs := some observedAtMs, firstValue := some value
    lastObservedAtMs := some observedAtMs, lastValue := some value }

def add (d : MonotonicCounterDelta) (observedAtMs : Int) : Option Nat → MonotonicCounterDelta
  | none => d
  | some value =>
    match d.lastObservedAtMs, d.lastValue with
    | some lastAt, some lastValue =>
      if observedAtMs ≤ lastAt then d
      else { d.addInterval lastAt lastValue observedAtMs value with
        lastObservedAtMs := some observedAtMs, lastValue := some value }
    | _, _ => d.setFirstAndLast observedAtMs value

def append (d later : MonotonicCounterDelta) : MonotonicCounterDelta :=
  match d.lastObservedAtMs, d.lastValue, later.firstObservedAtMs, later.firstValue with
  | some lastAt, some lastValue, some firstAt, some firstValue =>
    let sum := { d with
      totalIncrease := saturatingAdd d.totalIncrease later.totalIncrease
      coveredMs := saturatingAdd d.coveredMs later.coveredMs }
    { sum.addInterval lastAt lastValue firstAt firstValue with
      lastObservedAtMs := later.lastObservedAtMs, lastValue := later.lastValue }
  | _, _, _, _ => d

def mergeOverlapping (d other : MonotonicCounterDelta) : MonotonicCounterDelta :=
  let d := if Option.lt (· < ·) other.firstObservedAtMs d.firstObservedAtMs then
    { d with firstObservedAtMs := other.firstObservedAtMs, firstValue := other.firstValue } else d
  let d := if Option.lt (· < ·) d.lastObservedAtMs other.lastObservedAtMs then
    { d with lastObservedAtMs := other.lastObservedAtMs, lastValue := other.lastValue } else d
  { d with
    totalIncrease := max d.totalIncrease other.totalIncrease
    coveredMs := max d.coveredMs other.coveredMs }

def merge (d other : MonotonicCounterDelta) : MonotonicCounterDelta :=
  match d.firstObservedAtMs, d.lastObservedAtMs with
  | some firstAt, some lastAt =>
    match other.firstObservedAtMs, other.lastObservedAtMs with
    | some otherFirstAt, some otherLastAt =>
      if lastAt ≤ otherFirstAt then d.append other
      else if otherLastAt ≤ firstAt then other.append d
      else d.mergeOverlapping other
    | _, _ => d
  | _, _ => other

/-! ### Spans -/

/-- What the time between two observations adds to the total and to the covered time. -/
def gain (a b : Int × Nat) : Nat × Nat :=
  if a.1 < b.1 ∧ a.2 ≤ b.2 ∧ b.1 - a.1 ≤ i64Max then (b.2 - a.2, (b.1 - a.1).toNat) else 0

/-- A summary from its first and last observation. -/
def spanning (first last : Int × Nat) (total covered : Nat) : MonotonicCounterDelta :=
  ⟨some first.1, some first.2, some last.1, some last.2, total, covered⟩

section Spanning

variable {last b : Int × Nat} {total covered : Nat}

theorem gain_covered_le (h : last.1 ≤ b.1) : ((gain last b).2 : Int) ≤ b.1 - last.1 := by
  unfold gain
  split_ifs
  · dsimp only
    omega
  · simpa using h

theorem spanning_add (first : Int × Nat) (htotal : total ≤ u64Max) (hcovered : covered ≤ u64Max)
    (h : last.1 < b.1) :
    (spanning first last total covered).add b.1 (some b.2) = spanning first b
      (saturatingAdd total (gain last b).1) (saturatingAdd covered (gain last b).2) := by
  simp only [spanning, add, addInterval, gain, saturatingAdd]
  split_ifs <;> simp <;> omega

theorem spanning_append (first last first' last' : Int × Nat) (total covered total' covered' : Nat) :
    (spanning first last total covered).append (spanning first' last' total' covered') =
      spanning first last' (saturatingAdd (saturatingAdd total total') (gain last first').1)
        (saturatingAdd (saturatingAdd covered covered') (gain last first').2) := by
  simp only [spanning, append, addInterval, gain, saturatingAdd]
  split_ifs <;> simp <;> omega

end Spanning

/-- Nothing was observed, or the times of the first and the last observation satisfy `P` and the
covered time fits between them. -/
inductive Spans (P : Int → Prop) : MonotonicCounterDelta → Prop where
  | empty : Spans P {}
  | observed {first last : Int × Nat} {total covered : Nat} (hfirst : P first.1) (hlast : P last.1)
      (hcovered : (covered : Int) ≤ last.1 - first.1) (htotal : total ≤ u64Max)
      (hfits : covered ≤ u64Max) : Spans P (spanning first last total covered)

variable {P Q : Int → Prop} {d e : MonotonicCounterDelta} {t : Int}

theorem Spans.add (h : Spans P d) (ht : P t) (value : Option Nat) : Spans P (d.add t value) := by
  cases value with
  | none => exact h
  | some v =>
    cases h with
    | empty =>
      have hspans : Spans P (spanning (t, v) (t, v) 0 0) :=
        .observed ht ht (by simp) (Nat.zero_le _) (Nat.zero_le _)
      exact hspans
    | @observed first last total covered hfirst hlast hcovered htotal hfits =>
      rcases le_or_gt t last.1 with h | h
      · rw [show (spanning first last total covered).add t (some v) = _ from if_pos h]
        exact .observed hfirst hlast hcovered htotal hfits
      · have hgain := gain_covered_le (b := (t, v)) h.le
        rw [spanning_add _ (b := (t, v)) htotal hfits h]
        refine .observed hfirst ht ?_ (min_le_right _ _) (min_le_right _ _)
        simp only [saturatingAdd]
        omega

theorem Spans.merge (hd : Spans P d) (he : Spans P e) : Spans P (d.merge e) := by
  cases hd with
  | empty => exact he
  | @observed first last total covered hfirst hlast hcovered htotal hfits =>
    cases he with
    | empty => exact .observed hfirst hlast hcovered htotal hfits
    | @observed first' last' total' covered' hfirst' hlast' hcovered' htotal' hfits' =>
      change Spans P (if last.1 ≤ first'.1 then _ else if last'.1 ≤ first.1 then _ else _)
      split_ifs with h h'
      · have hgain := gain_covered_le h
        rw [spanning_append]
        refine .observed hfirst hlast' ?_ (min_le_right _ _) (min_le_right _ _)
        simp only [saturatingAdd]
        omega
      · have hgain := gain_covered_le h'
        rw [spanning_append]
        refine .observed hfirst' hlast ?_ (min_le_right _ _) (min_le_right _ _)
        simp only [saturatingAdd]
        omega
      · -- the overlapping spans leave the greater of the two counts
        by_cases hlt : first'.1 < first.1 <;> by_cases hlt' : last.1 < last'.1 <;>
          simp only [spanning, mergeOverlapping, Option.lt, hlt, hlt', if_true, if_false] <;>
          exact .observed (by assumption) (by assumption) (by omega) (max_le htotal htotal')
            (max_le hfits hfits')

/-- Merging with later observations, and then adding a still later one. -/
theorem merge_add (hd : Spans P d) (he : Spans Q e) (hlater : ∀ x y, P x → Q y → x < y)
    (hP : ∀ x, P x → x < t) (hQ : ∀ y, Q y → y < t) (value : Option Nat) :
    (d.merge e).add t value = d.merge (e.add t value) := by
  cases value with
  | none => rfl
  | some v =>
    cases hd with
    | empty => rfl
    | observed _ hlast _ htotal hfits =>
      have ht := hP _ hlast
      cases he with
      | empty =>
        refine (spanning_add _ (b := (t, v)) htotal hfits ht).trans ?_
        refine .trans ?_ (if_pos ht.le).symm
        refine .trans ?_ (spanning_append _ _ (t, v) (t, v) ..).symm
        simp [saturatingAdd, htotal, hfits]
      | observed hfirst' hlast' _ htotal' hfits' =>
        have h := hlater _ _ hlast hfirst'
        rw [spanning_add _ (b := (t, v)) htotal' hfits' (hQ _ hlast')]
        refine .trans ?_ ((if_pos h.le).trans (spanning_append ..)).symm
        refine .trans (congrArg (add · t _) ((if_pos h.le).trans (spanning_append ..))) ?_
        refine (spanning_add _ (b := (t, v)) (min_le_right _ _) (min_le_right _ _)
          (hQ _ hlast')).trans ?_
        simp only [saturatingAdd]
        congr 1 <;> omega

theorem Spans.merge_empty (h : Spans P d) : d.merge {} = d := by
  cases h <;> rfl

theorem merge_comm_of_lt (hd : Spans P d) (he : Spans Q e) (hlater : ∀ x y, P x → Q y → x < y) :
    e.merge d = d.merge e := by
  cases hd with
  | empty => cases he <;> rfl
  | observed hfirst hlast =>
    cases he with
    | empty => rfl
    | observed hfirst' hlast' =>
      have h := hlater _ _ hlast hfirst'
      have h' := hlater _ _ hfirst hlast'
      exact ((if_neg h'.not_ge).trans (if_pos h.le)).trans (if_pos h.le).symm

/-! ### Sequences of observations -/

def addAll (d : MonotonicCounterDelta) (observations : List (Int × Option Nat)) :
    MonotonicCounterDelta :=
  observations.foldl (fun d o => d.add o.1 o.2) d

theorem Spans.addAll (h : Spans P d) {l : List (Int × Option Nat)} (hl : ∀ o ∈ l, P o.1) :
    Spans P (d.addAll l) := by
  induction l generalizing d with
  | nil => exact h
  | cons o l ih =>
    exact ih (h.add (hl o (mem_cons_self ..)) o.2) fun o' ho' =>
      hl o' (mem_cons_of_mem _ ho')

theorem addAll_spans (l : List (Int × Option Nat)) :
    Spans (fun t => ∃ o ∈ l, o.1 = t) (addAll {} l) :=
  .addAll .empty fun o ho => ⟨o, ho, rfl⟩

/-- The summary of a sequence, from those of its two parts. -/
theorem addAll_append {l₁ l₂ : List (Int × Option Nat)} (h : (l₁ ++ l₂).Pairwise (·.1 < ·.1)) :
    addAll {} (l₁ ++ l₂) = (addAll {} l₁).merge (addAll {} l₂) := by
  induction l₂ using reverseRecOn with
  | nil => rw [append_nil, show addAll {} [] = {} from rfl, (addAll_spans l₁).merge_empty]
  | append_singleton l₂ o ih =>
    have hparts := pairwise_append.mp (append_assoc .. ▸ h)
    have hlater := (pairwise_append.mp hparts.1).2.2
    have hlast := fun a ha => hparts.2.2 a ha o (mem_singleton_self o)
    have hadded := merge_add (addAll_spans l₁) (addAll_spans l₂) (t := o.1)
      (fun _ _ ⟨a, ha, hx⟩ ⟨b, hb, hy⟩ => hx ▸ hy ▸ hlater a ha b hb)
      (fun _ ⟨a, ha, hx⟩ => hx ▸ hlast a (mem_append_left _ ha))
      (fun _ ⟨b, hb, hy⟩ => hy ▸ hlast b (mem_append_right _ hb)) o.2
    rw [← ih hparts.1] at hadded
    simpa only [addAll, ← append_assoc, foldl_concat] using hadded

/-- The observations that have a value. -/
def present (l : List (Int × Option Nat)) : List (Int × Nat) :=
  l.filterMap fun o => o.2.map (o.1, ·)

/-- What the times between the consecutive values add up to. -/
def gains (l : List (Int × Nat)) : Nat × Nat := (l.zipWith gain l.tail).sum

def InOrder (l : List (Int × Option Nat)) : Prop :=
  l.Pairwise (·.1 < ·.1) ∧ ∀ o ∈ l, -i64Max - 1 ≤ o.1 ∧ o.1 ≤ i64Max

theorem spanning_addAll {first last : Int × Nat} {total covered : Nat}
    {l : List (Int × Option Nat)} (hl : l.Pairwise (·.1 < ·.1))
    (hlast : ∀ o ∈ l, last.1 < o.1 ∧ o.1 ≤ i64Max) (htotal : total ≤ u64Max)
    (hcovered : (covered : Int) ≤ last.1 + i64Max + 1) (hfits : covered ≤ u64Max) :
    ∃ last', (spanning first last total covered).addAll l = spanning first last'
      (min (total + (gains (last :: present l)).1) u64Max)
      (covered + (gains (last :: present l)).2) := by
  induction l generalizing last total covered with
  | nil => exact ⟨last, by simp [addAll, present, gains, htotal]⟩
  | cons o l ih =>
    obtain ⟨ho, htail⟩ := pairwise_cons.mp hl
    obtain ⟨hnext, hrest⟩ := forall_mem_cons.mp hlast
    obtain ⟨t, _ | v⟩ := o
    · exact ih htail hrest htotal hcovered hfits
    · have hgain := gain_covered_le (b := (t, v)) hnext.1.le
      have hsum : covered + (gain last (t, v)).2 ≤ u64Max := by
        simp only [i64Max, u64Max] at *
        omega
      have hadded := spanning_add first (b := (t, v)) htotal hfits hnext.1
      rw [show saturatingAdd covered _ = _ from min_eq_left hsum] at hadded
      obtain ⟨last', h⟩ := @ih (t, v) (saturatingAdd total (gain last (t, v)).1)
        (covered + (gain last (t, v)).2) htail
        (fun o' ho' => ⟨ho o' ho', (hrest o' ho').2⟩) (min_le_right _ _) (by dsimp at *; omega) hsum
      refine ⟨last', ((congrArg (addAll · l) hadded).trans h).trans ?_⟩
      have hgains : gains (last :: present ((t, some v) :: l)) =
          gain last (t, v) + gains ((t, v) :: present l) := rfl
      rw [hgains, saturatingAdd, Prod.fst_add, Prod.snd_add]
      congr 1 <;> omega

/-- The total is capped at `u64::MAX`, the covered time never reaches it. -/
theorem addAll_sums {l : List (Int × Option Nat)} (h : InOrder l) :
    (addAll {} l).totalIncrease = min (gains (present l)).1 u64Max ∧
      (addAll {} l).coveredMs = (gains (present l)).2 := by
  obtain ⟨hsorted, hrange⟩ := h
  induction l with
  | nil => exact ⟨rfl, rfl⟩
  | cons o l ih =>
    obtain ⟨ho, htail⟩ := pairwise_cons.mp hsorted
    obtain ⟨hfirst, hrest⟩ := forall_mem_cons.mp hrange
    obtain ⟨t, _ | v⟩ := o
    · exact ih htail hrest
    · obtain ⟨last, h⟩ := @spanning_addAll (t, v) (t, v) 0 0 l htail
        (fun o' ho' => ⟨ho o' ho', (hrest o' ho').2⟩) (Nat.zero_le _)
        (by dsimp at *; omega) (Nat.zero_le _)
      have hall : addAll {} ((t, some v) :: l) = _ := h
      rw [hall, Nat.zero_add, Nat.zero_add]
      exact ⟨rfl, rfl⟩

/-! ### Merges -/

/-- Adjacent segments of a sequence, merged in some bracketing and in either order. -/
inductive Segments where
  | segment (observations : List (Int × Option Nat))
  | merge (earlier later : Segments) (swapped : Bool)

namespace Segments

def observations : Segments → List (Int × Option Nat)
  | segment l => l
  | merge earlier later _ => earlier.observations ++ later.observations

def merged : Segments → MonotonicCounterDelta
  | segment l => addAll {} l
  | merge earlier later swapped =>
    if swapped then later.merged.merge earlier.merged else earlier.merged.merge later.merged

theorem merged_eq (s : Segments) (h : s.observations.Pairwise (·.1 < ·.1)) :
    s.merged = addAll {} s.observations := by
  induction s with
  | segment l => rfl
  | merge earlier later swapped ih ih' =>
    obtain ⟨hearlier, hlater, hacross⟩ := pairwise_append.mp h
    have hcomm := merge_comm_of_lt (addAll_spans _) (addAll_spans _)
      fun _ _ ⟨a, ha, hx⟩ ⟨b, hb, hy⟩ => hx ▸ hy ▸ hacross a ha b hb
    rw [merged, ih hearlier, ih' hlater, observations, addAll_append h]
    cases swapped
    · rfl
    · exact hcomm

end Segments

/-- The summaries that additions and merges in any order give. -/
inductive Built : MonotonicCounterDelta → Prop where
  | empty : Built {}
  | add {d : MonotonicCounterDelta} (h : Built d) (t : Int) (value : Option Nat) :
      Built (d.add t value)
  | merge {d e : MonotonicCounterDelta} (hd : Built d) (he : Built e) : Built (d.merge e)

theorem Built.spans (h : Built d) : Spans (fun _ => True) d := by
  induction h with
  | empty => exact .empty
  | add _ _ value ih => exact ih.add trivial value
  | merge _ _ ih ih' => exact ih.merge ih'

end MonotonicCounterDelta

open MonotonicCounterDelta

/-- The merged segments give the summary of the whole sequence; its total is the sum of the
increases, capped at `u64::MAX`, and its covered time the sum of their lengths.  The covered time
of any summary fits between its first and its last observation. -/
theorem counterDelta_merges :
    (∀ s : Segments, InOrder s.observations → s.merged = addAll {} s.observations ∧
      s.merged.totalIncrease = min (gains (present s.observations)).1 u64Max ∧
      s.merged.coveredMs = (gains (present s.observations)).2) ∧
    ∀ d, Built d → d = {} ∨ ∃ first ∈ d.firstObservedAtMs, ∃ last ∈ d.lastObservedAtMs,
      (d.coveredMs : Int) ≤ last - first := by
  refine ⟨fun s h => ?_, fun d h => ?_⟩
  · have hmerged := s.merged_eq h.1
    rw [hmerged]
    exact ⟨rfl, addAll_sums h⟩
  · cases h.spans with
    | empty => exact .inl rfl
    | observed _ _ hcovered => exact .inr ⟨_, rfl, _, rfl, hcovered⟩

/-- Two segments with a missing value and a reset between them, in the wrong order. -/
def sampled : Segments :=
  .merge (.segment [(0, some 5), (1, none), (2, some 7)]) (.segment [(3, some 1), (4, some 4)]) true

theorem sampled_merges : sampled.merged = addAll {} sampled.observations ∧
    sampled.merged.totalIncrease = 5 ∧ sampled.merged.coveredMs = 3 ∧
    ∃ first ∈ (sampled.merged.merge sampled.merged).firstObservedAtMs,
      ∃ last ∈ (sampled.merged.merge sampled.merged).lastObservedAtMs,
        ((sampled.merged.merge sampled.merged).coveredMs : Int) ≤ last - first := by
  obtain ⟨hmerged, htotal, hcovered⟩ := counterDelta_merges.1 sampled ⟨by decide, by decide⟩
  have hbuilt : Built sampled.merged :=
    .merge (.add (.add .empty 3 (some 1)) 4 (some 4))
      (.add (.add (.add .empty 0 (some 5)) 1 none) 2 (some 7))
  exact ⟨hmerged, htotal, hcovered, (counterDelta_merges.2 _ (.merge hbuilt hbuilt)).resolve_left
    fun h => nomatch congrArg coveredMs h⟩

/-- After a reset, the second increase does not fit the total any more; and an increase over a time
that is not an `i64` is left out. -/
theorem counterDelta_saturates :
    (addAll {} [(0, some 0), (1, some u64Max), (2, some 0), (3, some 1)]).totalIncrease = u64Max ∧
      gains (present [(0, some 0), (1, some u64Max), (2, some 0), (3, some 1)]) =
        (u64Max + 1, 2) ∧
      (addAll {} [(-i64Max - 1, some 0), (0, some 1)]).totalIncrease = 0 ∧
      (addAll {} [(-i64Max - 1, some 0), (0, some 1)]).coveredMs = 0 := by
  decide

end Rdashboard
