import Mathlib.Data.List.Basic
import Mathlib.Data.List.Sort
import Mathlib.Data.List.Pairwise
import Mathlib.Logic.Function.Basic

/-! # Relational tables with checked constraints

A table is a list of rows together with the proof that its constraints hold: every row
passes the CHECK clauses, and no two rows collide on a PRIMARY KEY or UNIQUE clause.
`insert` and `update` decide the constraints of their result and return `none` when one is
violated, so a table that breaks its schema cannot be built.

A key column (or tuple of columns) is a function `u : ρ → κ`.  `Table.lookup u k` reads the
row with key `k`; the `lookup_*` lemmas say what every statement does to such a read, and
are all that a proof about a program over tables needs of this file. -/

namespace Relational

open List

universe u v w

variable {ρ : Type u} {κ : Type v} {τ : Type w}

/-- A clause written with `&&` and `decide`, read as a proposition. -/
theorem where_iff : (∀ a b : Bool, ((a && b) = true) = (a = true ∧ b = true)) ∧
    ∀ (c : Prop) [Decidable c], (decide c = true) = c :=
  ⟨Bool.and_eq_true, fun _ _ => decide_eq_true_eq⟩

/-- The constraints of a table: `check` is the conjunction of its CHECK clauses, and two
rows are `distinct` when they collide on none of its PRIMARY KEY and UNIQUE clauses. -/
structure Schema (ρ : Type u) where
  check : ρ → Bool
  distinct : ρ → ρ → Bool
  distinct_symm : ∀ r s, distinct r s = true → distinct s r = true := by
    simp only [decide_eq_true_eq]; grind

/-- `u` is a key of the schema: rows that do not collide differ in `u`. -/
def Schema.Separates (S : Schema ρ) (u : ρ → κ) : Prop :=
  ∀ r s, S.distinct r s = true → u r ≠ u s

/-- The schema whose only uniqueness clause is the PRIMARY KEY `u`. -/
def Schema.keyed [DecidableEq κ] (check : ρ → Bool) (u : ρ → κ) : Schema ρ where
  check := check
  distinct r s := decide (u r ≠ u s)

theorem Schema.separates_keyed [DecidableEq κ] (check : ρ → Bool) (u : ρ → κ) :
    (keyed check u).Separates u :=
  fun _ _ h => decide_eq_true_eq.mp h

/-- The rows of a table, in insertion order, with the proof that the schema holds. -/
structure Table (S : Schema ρ) where
  rows : List ρ
  checked : ∀ r ∈ rows, S.check r = true
  separated : rows.Pairwise fun r s => S.distinct r s = true

/-- The row written by `UPDATE … SET f WHERE p` in place of `r`. -/
def assign (p : ρ → Bool) (f : ρ → ρ) (r : ρ) : ρ := if p r then f r else r

theorem assign_of_pos {p : ρ → Bool} {r : ρ} (f : ρ → ρ) (h : p r = true) :
    assign p f r = f r := by simp [assign, h]

theorem assign_of_neg {p : ρ → Bool} {r : ρ} (f : ρ → ρ) (h : ¬ p r = true) :
    assign p f r = r := by simp [assign, h]

/-- A read by key that the condition of an update does not select. -/
theorem map_assign_of_neg {o : Option ρ} {p : ρ → Bool} {f : ρ → ρ}
    (h : ∀ r, o = some r → ¬ p r = true) : o.map (assign p f) = o := by
  cases o with
  | none => rfl
  | some r => rw [Option.map_some, assign_of_neg f (h r rfl)]

/-- A column that `f` does not write is not written by the statement. -/
theorem assign_column {p : ρ → Bool} {f : ρ → ρ} {u : ρ → κ}
    (h : ∀ r, p r = true → u (f r) = u r) (r : ρ) : u (assign p f r) = u r := by
  by_cases hp : p r = true
  · rw [assign_of_pos f hp, h r hp]
  · rw [assign_of_neg f hp]

/-- Rows that fall out of a selection and rows that keep the selected column leave a part of the
selection. -/
theorem selection_sublist {q : ρ → Bool} {g : ρ → ρ} {u : ρ → κ} {rows : List ρ}
    (h : ∀ r ∈ rows, q (g r) = true → q r = true ∧ u (g r) = u r) :
    (((rows.map g).filter q).map u).Sublist ((rows.filter q).map u) := by
  induction rows with
  | nil => exact .slnil
  | cons r rows ih =>
    have hrows := ih fun s hs => h s (mem_cons_of_mem _ hs)
    rw [map_cons, filter_cons, filter_cons]
    by_cases hg : q (g r) = true
    · obtain ⟨hr, hu⟩ := h r mem_cons_self hg
      rw [if_pos hg, if_pos hr, map_cons, hu]
      exact hrows.cons_cons _
    · rw [if_neg hg]
      split
      · exact hrows.cons _
      · exact hrows

namespace Table

variable {S : Schema ρ}
variable {s : ρ}

/-- A table without rows. -/
def empty : Table S where
  rows := []
  checked := by simp
  separated := List.Pairwise.nil

/-- `INSERT INTO … VALUES r`. -/
def insert (t : Table S) (r : ρ) : Option (Table S) :=
  if h : S.check r = true ∧ ∀ s ∈ t.rows, S.distinct s r = true then
    some
      { rows := t.rows ++ [r]
        checked := by
          intro s hs
          rcases mem_append.mp hs with hs | hs
          · exact t.checked s hs
          · rw [mem_singleton.mp hs]; exact h.1
        separated := pairwise_append.mpr
          ⟨t.separated, pairwise_singleton _ _, by simpa using h.2⟩ }
  else none

/-- `UPDATE … SET f WHERE p`. -/
def update (t : Table S) (p : ρ → Bool) (f : ρ → ρ) : Option (Table S) :=
  if h : (∀ r ∈ t.rows.map (assign p f), S.check r = true) ∧
      (t.rows.map (assign p f)).Pairwise (fun r s => S.distinct r s = true) then
    some { rows := t.rows.map (assign p f), checked := h.1, separated := h.2 }
  else none

/-- `DELETE FROM … WHERE p`. -/
def delete (t : Table S) (p : ρ → Bool) : Table S where
  rows := t.rows.filter fun r => !p r
  checked := fun r hr => t.checked r (mem_filter.mp hr).1
  separated := t.separated.filter _

/-- `SELECT COUNT(*) … WHERE p`, also the number of rows a statement with this `WHERE`
clause changes. -/
def count (t : Table S) (p : ρ → Bool) : Nat := t.rows.countP p

/-- The row with key `k`. -/
def lookup [DecidableEq κ] (t : Table S) (u : ρ → κ) (k : κ) : Option ρ :=
  t.rows.find? fun r => decide (u r = k)

/-! ### Reading rows by key -/

section Lookup

variable [DecidableEq κ] {u : ρ → κ} {t : Table S} {k : κ} {r : ρ}

theorem mem_of_lookup (h : t.lookup u k = some r) : r ∈ t.rows :=
  mem_of_find?_eq_some h

theorem key_of_lookup (h : t.lookup u k = some r) : u r = k := by
  simpa using find?_some h

theorem lookup_eq_none_iff : t.lookup u k = none ↔ ∀ r ∈ t.rows, u r ≠ k := by
  simp [lookup]

theorem distinct_of_ne (hr : r ∈ t.rows) (hs : s ∈ t.rows) (hne : r ≠ s) :
    S.distinct r s = true := by
  have : Std.Symm fun r s => S.distinct r s = true := ⟨S.distinct_symm⟩
  exact t.separated.forall hr hs hne

omit [DecidableEq κ] in
theorem eq_of_key (hu : S.Separates u) (hr : r ∈ t.rows) (hs : s ∈ t.rows)
    (h : u r = u s) : r = s := by
  by_contra hne
  exact hu r s (distinct_of_ne hr hs hne) h

theorem lookup_of_mem (hu : S.Separates u) (hr : r ∈ t.rows) : t.lookup u (u r) = some r := by
  cases h : t.lookup u (u r) with
  | none => exact absurd rfl (lookup_eq_none_iff.mp h r hr)
  | some s => rw [eq_of_key hu (mem_of_lookup h) hr (key_of_lookup h)]

theorem lookup_eq_some_iff (hu : S.Separates u) : t.lookup u k = some r ↔ r ∈ t.rows ∧ u r = k := by
  constructor
  · intro h
    exact ⟨mem_of_lookup h, key_of_lookup h⟩
  · rintro ⟨hr, rfl⟩
    exact lookup_of_mem hu hr

end Lookup

/-! ### What a statement does to a read -/

section Statements

variable [DecidableEq κ] {u : ρ → κ} {t t' : Table S} {p : ρ → Bool} {f : ρ → ρ} {r : ρ}

theorem rows_insert (h : t.insert r = some t') : t'.rows = t.rows ++ [r] := by
  unfold insert at h
  split at h
  · cases h; rfl
  · cases h

theorem rows_update (h : t.update p f = some t') : t'.rows = t.rows.map (assign p f) := by
  unfold update at h
  split at h
  · cases h; rfl
  · cases h

theorem insert_fresh (hu : S.Separates u) (h : t.insert r = some t') : t.lookup u (u r) = none := by
  unfold insert at h
  split at h
  · rename_i hc
    exact lookup_eq_none_iff.mpr fun s hs => hu s r (hc.2 s hs)
  · cases h

theorem lookup_insert (hu : S.Separates u) (h : t.insert r = some t') (k : κ) :
    t'.lookup u k = if u r = k then some r else t.lookup u k := by
  have hfresh := insert_fresh hu h
  rw [lookup, rows_insert h, find?_append]
  by_cases hk : u r = k
  · subst hk
    have hnone : t.rows.find? (fun s => decide (u s = u r)) = none := hfresh
    simp [hnone]
  · simp [hk, lookup]

theorem lookup_update (hf : ∀ r, p r = true → u (f r) = u r) (h : t.update p f = some t')
    (k : κ) : t'.lookup u k = (t.lookup u k).map (assign p f) := by
  have hcol : (fun r => decide (u r = k)) ∘ assign p f = fun r => decide (u r = k) := by
    funext r
    simp [assign_column hf r]
  rw [lookup, rows_update h, find?_map, hcol, lookup]

theorem lookup_delete (hu : S.Separates u) (k : κ) :
    (t.delete p).lookup u k = (t.lookup u k).filter fun r => !p r := by
  cases h : t.lookup u k with
  | none =>
    refine lookup_eq_none_iff.mpr fun r hr => lookup_eq_none_iff.mp h r ?_
    exact (mem_filter.mp hr).1
  | some r =>
    by_cases hp : p r = true
    · refine (lookup_eq_none_iff.mpr fun s hs hk => ?_).trans (by simp [Option.filter_some, hp])
      obtain ⟨hs, hps⟩ := mem_filter.mp hs
      have hrs : s = r := eq_of_key hu hs (mem_of_lookup h) (hk.trans (key_of_lookup h).symm)
      simp [hrs, hp] at hps
    · have hmem : r ∈ (t.delete p).rows := mem_filter.mpr ⟨mem_of_lookup h, by simp [hp]⟩
      rw [← key_of_lookup h, lookup_of_mem hu hmem]
      simp [Option.filter_some, hp]

/-- A statement whose `WHERE` clause fixes a key leaves the rows with other keys alone. -/
theorem lookup_delete_where {k : κ} (hu : S.Separates u) (hp : ∀ r, p r = true → u r = k) (j : κ) :
    (t.delete p).lookup u j =
      if k = j then (t.lookup u j).filter fun r => !p r else t.lookup u j := by
  rw [lookup_delete hu]
  split_ifs with hj
  · rfl
  · cases h : t.lookup u j with
    | none => rfl
    | some r =>
      have hr : ¬ p r = true := fun hpr => hj ((hp r hpr).symm.trans (key_of_lookup h))
      rw [Option.filter_some, Bool.eq_false_iff.mpr hr, Bool.not_false, if_pos rfl]

theorem lookup_update_where {k : κ} (hf : ∀ r, p r = true → u (f r) = u r)
    (hp : ∀ r, p r = true → u r = k) (h : t.update p f = some t') (j : κ) :
    t'.lookup u j = if k = j then (t.lookup u j).map (assign p f) else t.lookup u j := by
  rw [lookup_update hf h]
  split_ifs with hj
  · rfl
  · exact map_assign_of_neg fun r hr hpr => hj ((hp r hpr).symm.trans (key_of_lookup hr))

/-- An insert succeeds when the row passes its checks and collides with no other. -/
theorem exists_insert (hc : S.check r = true) (hd : ∀ s ∈ t.rows, S.distinct s r = true) :
    ∃ t', t.insert r = some t' := by
  refine ⟨_, dif_pos ⟨hc, hd⟩⟩

/-- An update succeeds when the rewritten rows pass their checks and the statement makes no
two rows collide. -/
theorem exists_update (hc : ∀ r ∈ t.rows, p r = true → S.check (f r) = true)
    (hd : ∀ r ∈ t.rows, ∀ s ∈ t.rows, S.distinct r s = true →
      S.distinct (assign p f r) (assign p f s) = true) :
    ∃ t', t.update p f = some t' := by
  refine ⟨_, dif_pos ⟨?_, ?_⟩⟩
  · intro r' hr'
    obtain ⟨r, hr, rfl⟩ := mem_map.mp hr'
    by_cases hp : p r = true
    · rw [assign_of_pos f hp]; exact hc r hr hp
    · rw [assign_of_neg f hp]; exact t.checked r hr
  · rw [pairwise_map]
    exact t.separated.imp_of_mem fun hr hs h => hd _ hr _ hs h

theorem exists_update_keyed {check : ρ → Bool} {t : Table (Schema.keyed check u)}
    (hf : ∀ r, p r = true → u (f r) = u r) (hc : ∀ r ∈ t.rows, p r = true → check (f r) = true) :
    ∃ t', t.update p f = some t' := by
  refine exists_update hc fun r _ s _ h => ?_
  have hne : u r ≠ u s := of_decide_eq_true h
  refine decide_eq_true ?_
  rwa [assign_column hf, assign_column hf]

theorem check_of_update (h : t.update p f = some t') (hr : r ∈ t.rows) (hp : p r = true) :
    S.check (f r) = true := by
  refine t'.checked _ ?_
  rw [rows_update h, ← assign_of_pos f hp]
  exact mem_map_of_mem hr

theorem mem_insert_of_mem (h : t.insert r = some t') (hs : s ∈ t.rows) : s ∈ t'.rows := by
  rw [rows_insert h]
  exact mem_append_left _ hs

theorem mem_insert_self (h : t.insert r = some t') : r ∈ t'.rows := by
  rw [rows_insert h]
  exact mem_append_right _ (mem_singleton.mpr rfl)

/-- A row of an updated table is one that the statement leaves alone, or one that it wrote. -/
theorem mem_of_update (h : t.update p f = some t') (hs : s ∈ t'.rows) :
    (s ∈ t.rows ∧ ¬ p s = true) ∨ ∃ r ∈ t.rows, p r = true ∧ f r = s := by
  rw [rows_update h] at hs
  obtain ⟨r, hr, rfl⟩ := mem_map.mp hs
  by_cases hp : p r = true
  · exact .inr ⟨r, hr, hp, (assign_of_pos f hp).symm⟩
  · rw [assign_of_neg f hp]
    exact .inl ⟨hr, hp⟩

theorem mem_update_of_pos (h : t.update p f = some t') (hr : r ∈ t.rows) (hp : p r = true) :
    f r ∈ t'.rows := by
  rw [rows_update h, ← assign_of_pos f hp]
  exact mem_map_of_mem hr

theorem mem_update_of_neg (h : t.update p f = some t') (hr : r ∈ t.rows) (hp : ¬ p r = true) :
    r ∈ t'.rows := by
  rw [rows_update h]
  have hmem := mem_map_of_mem (f := assign p f) hr
  rwa [assign_of_neg f hp] at hmem

omit [DecidableEq κ] in
/-- A statement that does not write a column keeps the values of the column. -/
theorem mem_update_column (hf : ∀ r, p r = true → u (f r) = u r) (h : t.update p f = some t')
    (hr : r ∈ t.rows) : ∃ r' ∈ t'.rows, u r' = u r := by
  refine ⟨assign p f r, ?_, assign_column hf r⟩
  rw [rows_update h]
  exact mem_map_of_mem hr

end Statements

/-! ### What holds of all rows -/

section Forall

variable {t t' : Table S} {p : ρ → Bool} {f : ρ → ρ} {r : ρ} {P : ρ → Prop}

theorem forall_update (h : t.update p f = some t') (hP : ∀ r ∈ t.rows, P r)
    (hf : ∀ r, p r = true → P r → P (f r)) : ∀ r ∈ t'.rows, P r := by
  rw [rows_update h]
  intro r' hr'
  obtain ⟨r, hr, rfl⟩ := mem_map.mp hr'
  by_cases hp : p r = true
  · rw [assign_of_pos f hp]; exact hf r hp (hP r hr)
  · rw [assign_of_neg f hp]; exact hP r hr

theorem forall_insert (h : t.insert r = some t') (hP : ∀ r ∈ t.rows, P r) (hr : P r) :
    ∀ r ∈ t'.rows, P r := by
  rw [rows_insert h]
  intro s hs
  rcases mem_append.mp hs with hs | hs
  · exact hP s hs
  · rw [mem_singleton.mp hs]; exact hr

theorem forall_delete (hP : ∀ r ∈ t.rows, P r) : ∀ r ∈ (t.delete p).rows, P r :=
  fun r hr => hP r (mem_filter.mp hr).1

end Forall

/-! ### Counting rows -/

section Count

variable [DecidableEq κ] {u : ρ → κ} {t : Table S} {p : ρ → Bool} {k : κ}

theorem count_eq_zero_iff : t.count p = 0 ↔ ∀ r ∈ t.rows, ¬ p r = true := by
  simp [count]

theorem count_pos_iff : 0 < t.count p ↔ ∃ r ∈ t.rows, p r = true := by
  simp [count]

omit [DecidableEq κ] in
/-- A statement whose `WHERE` clause fixes a key changes at most one row. -/
theorem count_le_one (hu : S.Separates u) (hp : ∀ r, p r = true → u r = k) : t.count p ≤ 1 := by
  have hsep : (t.rows.filter p).Pairwise fun r s => S.distinct r s = true := t.separated.filter p
  rw [count, countP_eq_length_filter]
  cases h : t.rows.filter p with
  | nil => simp
  | cons r l =>
    cases l with
    | nil => simp
    | cons s l =>
      rw [h] at hsep
      have hr : p r = true := (mem_filter.mp (h ▸ mem_cons_self)).2
      have hmem : s ∈ t.rows.filter p := by rw [h]; simp
      have hs : p s = true := (mem_filter.mp hmem).2
      have hrs := rel_of_pairwise_cons hsep mem_cons_self
      exact absurd ((hp r hr).trans (hp s hs).symm) (hu r s hrs)

omit [DecidableEq κ] in
/-- The rows that a clause with a fixed key selects are the one row with that key. -/
theorem filter_eq_singleton {r : ρ} (hu : S.Separates u) (hp : ∀ r, p r = true → u r = k)
    (hr : r ∈ t.rows) (hpr : p r = true) : t.rows.filter p = [r] := by
  have hle : (t.rows.filter p).length ≤ 1 := by
    rw [← countP_eq_length_filter]
    exact count_le_one hu hp
  have hmem : r ∈ t.rows.filter p := mem_filter.mpr ⟨hr, hpr⟩
  cases h : t.rows.filter p with
  | nil => simp [h] at hmem
  | cons s l =>
    rw [h] at hle hmem
    have hnil : l = [] := eq_nil_of_length_eq_zero (Nat.le_zero.mp (Nat.le_of_succ_le_succ hle))
    subst hnil
    rw [mem_singleton.mp hmem]

/-- It changes exactly one row when the row with that key satisfies the clause. -/
theorem count_eq_one_iff (hu : S.Separates u) (hp : ∀ r, p r = true → u r = k) :
    t.count p = 1 ↔ ∃ r, t.lookup u k = some r ∧ p r = true := by
  have hle : t.count p ≤ 1 := count_le_one hu hp
  constructor
  · intro h
    obtain ⟨r, hr, hpr⟩ := count_pos_iff.mp (by omega : 0 < t.count p)
    exact ⟨r, (lookup_eq_some_iff hu).mpr ⟨hr, hp r hpr⟩, hpr⟩
  · rintro ⟨r, hr, hpr⟩
    have : 0 < t.count p := count_pos_iff.mpr ⟨r, mem_of_lookup hr, hpr⟩
    omega

/-- The same for a clause that names the key. -/
theorem count_where {q : ρ → Bool} (hu : S.Separates u)
    (hp : ∀ r, p r = (decide (u r = k) && q r)) :
    t.count p = 1 ↔ ∃ r, t.lookup u k = some r ∧ q r = true := by
  rw [count_eq_one_iff hu fun r hr => by rw [hp, Bool.and_eq_true] at hr; exact of_decide_eq_true hr.1]
  exact exists_congr fun r => and_congr_right fun hr => by simp [hp, key_of_lookup hr]

/-- One row of a table with a key is the only one that a clause selects. -/
theorem count_eq_one_of_only {r : ρ} (hu : S.Separates u) (hr : r ∈ t.rows) (hpr : p r = true)
    (honly : ∀ s ∈ t.rows, p s = true → u s = u r) : t.count p = 1 := by
  have hcongr : t.count p = t.count fun s => p s && decide (u s = u r) := by
    refine countP_congr fun s hs => ?_
    simp only [where_iff]
    exact ⟨fun h => ⟨h, honly s hs h⟩, And.left⟩
  rw [hcongr, count_eq_one_iff hu (fun s hs => of_decide_eq_true (Bool.and_eq_true _ _ ▸ hs).2)]
  exact ⟨r, lookup_of_mem hu hr, by simp [hpr]⟩

end Count

/-! ### Partitions of a table

Columns that no statement writes are read as a list over the rows a condition selects. -/

section Select

variable {t : Table S} {q : ρ → Bool} {g : ρ → τ}

/-- `SELECT g … WHERE q`, in insertion order. -/
def select (t : Table S) (q : ρ → Bool) (g : ρ → τ) : List τ := (t.rows.filter q).map g

end Select

end Table

end Relational
