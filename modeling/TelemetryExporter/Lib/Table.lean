import Mathlib.Data.List.Nodup

/-!
# Tables

A finite map as a list of rows with distinct keys, with the three operations of a hash map that
programs use most: look up, update-or-insert (`entry(key).or_insert_with(..)` followed by a write),
and one pass over all values that rewrites each of them and collects a result. The order of the
rows is that of insertion; no lemma below depends on it except through the list of rows itself.
-/

namespace Table

variable {K V A : Type} [DecidableEq K]

/-- The first row with the key, updated; or a new row, an updated default. -/
def updateRows (k : K) (d : V) (f : V → V) : List (K × V) → List (K × V)
  | [] => [(k, f d)]
  | (k', v) :: rest => if k' = k then (k', f v) :: rest else (k', v) :: updateRows k d f rest

/-- The value of the first row with the key. -/
def lookup (k : K) : List (K × V) → Option V
  | [] => none
  | (k', v) :: rest => if k' = k then some v else lookup k rest

theorem mem_keys_updateRows {k j : K} {d : V} {f : V → V} {rows : List (K × V)}
    (h : j ∈ (updateRows k d f rows).map Prod.fst) : j = k ∨ j ∈ rows.map Prod.fst := by
  induction rows with
  | nil =>
    simp only [updateRows, List.map_cons, List.map_nil, List.mem_singleton] at h
    exact .inl h
  | cons row rest ih =>
    obtain ⟨k', v⟩ := row
    simp only [updateRows] at h
    split at h
    · exact .inr h
    · simp only [List.map_cons, List.mem_cons] at h ⊢
      rcases h with h | h
      · exact .inr (.inl h)
      · rcases ih h with h | h
        · exact .inl h
        · exact .inr (.inr h)

theorem nodup_updateRows {k : K} {d : V} {f : V → V} {rows : List (K × V)}
    (h : (rows.map Prod.fst).Nodup) : ((updateRows k d f rows).map Prod.fst).Nodup := by
  induction rows with
  | nil => simp [updateRows]
  | cons row rest ih =>
    obtain ⟨k', v⟩ := row
    simp only [List.map_cons, List.nodup_cons] at h
    simp only [updateRows]
    split
    · simpa using h
    · next hne =>
      simp only [List.map_cons, List.nodup_cons]
      refine ⟨fun hmem => ?_, ih h.2⟩
      rcases mem_keys_updateRows hmem with h' | h'
      · exact hne h'
      · exact h.1 h'

theorem lookup_updateRows (k j : K) (d : V) (f : V → V) (rows : List (K × V)) :
    lookup j (updateRows k d f rows) =
      if j = k then some (f ((lookup k rows).getD d)) else lookup j rows := by
  induction rows with
  | nil => by_cases h : k = j <;> simp [updateRows, lookup, h, Ne.symm]
  | cons row rest ih =>
    obtain ⟨k', v⟩ := row
    by_cases hk : k' = k
    · subst hk
      by_cases hj : j = k' <;> simp [updateRows, lookup, hj, eq_comm]
    · by_cases hj : j = k
      · subst hj
        simp [updateRows, lookup, hk, ih]
      · simp [updateRows, lookup, hk, hj, ih]

theorem lookup_eq_none {k : K} {rows : List (K × V)} (h : k ∉ rows.map Prod.fst) :
    lookup k rows = none := by
  induction rows with
  | nil => rfl
  | cons row rest ih =>
    simp only [List.map_cons, List.mem_cons, not_or] at h
    simp [lookup, Ne.symm h.1, ih h.2]

theorem lookup_map (k : K) (f : V → A) (rows : List (K × V)) :
    lookup k (rows.map fun row => (row.1, f row.2)) = (lookup k rows).map f := by
  induction rows with
  | nil => rfl
  | cons row rest ih =>
    by_cases h : row.1 = k <;> simp [lookup, h, ih]

/-- A list built row by row, of which only the row with the key contributes. -/
theorem flatMap_rows {B : Type} {k : K} {g : K → V → List B} {rows : List (K × V)}
    (hg : ∀ row ∈ rows, row.1 ≠ k → g row.1 row.2 = []) (hn : (rows.map Prod.fst).Nodup) :
    rows.flatMap (fun row => g row.1 row.2) = ((lookup k rows).map (g k)).getD [] := by
  induction rows with
  | nil => rfl
  | cons row rest ih =>
    obtain ⟨k', v⟩ := row
    simp only [List.map_cons, List.nodup_cons] at hn
    have ih := ih (fun row hrow => hg row (List.mem_cons_of_mem _ hrow)) hn.2
    simp only [List.flatMap_cons, lookup]
    by_cases h : k' = k
    · subst h
      rw [ih, lookup_eq_none hn.1]
      simp
    · rw [hg (k', v) List.mem_cons_self h, ih]
      simp [h]

theorem forall_updateRows {Q : K → V → Prop} {k : K} {d : V} {f : V → V} {rows : List (K × V)}
    (h : ∀ row ∈ rows, Q row.1 row.2) (hd : Q k (f d)) (hf : ∀ v, Q k v → Q k (f v)) :
    ∀ row ∈ updateRows k d f rows, Q row.1 row.2 := by
  induction rows with
  | nil => simpa [updateRows] using hd
  | cons row rest ih =>
    obtain ⟨k', v⟩ := row
    rw [List.forall_mem_cons] at h
    simp only [updateRows]
    split
    · next heq =>
      subst heq
      exact List.forall_mem_cons.2 ⟨hf v h.1, h.2⟩
    · exact List.forall_mem_cons.2 ⟨h.1, ih h.2⟩

theorem mem_of_lookup {k : K} {v : V} {rows : List (K × V)} (h : lookup k rows = some v) :
    (k, v) ∈ rows := by
  induction rows with
  | nil => cases h
  | cons row rest ih =>
    obtain ⟨k', v'⟩ := row
    simp only [lookup] at h
    split at h
    · next heq =>
      cases h
      subst heq
      exact List.mem_cons_self
    · exact List.mem_cons_of_mem _ (ih h)

theorem lookup_of_mem {k : K} {v : V} {rows : List (K × V)} (hn : (rows.map Prod.fst).Nodup)
    (h : (k, v) ∈ rows) : lookup k rows = some v := by
  induction rows with
  | nil => cases h
  | cons row rest ih =>
    obtain ⟨k', v'⟩ := row
    rw [List.map_cons, List.nodup_cons] at hn
    rw [List.mem_cons] at h
    unfold lookup
    rcases h with heq | hrest
    · cases heq
      rw [if_pos rfl]
    · have hne : k' ≠ k := by
        rintro rfl
        exact hn.1 (List.mem_map.2 ⟨(k', v), hrest, rfl⟩)
      rw [if_neg hne]
      exact ih hn.2 hrest

end Table

/-- A finite map from `K` to `V`. -/
structure Table (K V : Type) where
  rows : List (K × V)
  nodup : (rows.map Prod.fst).Nodup

namespace Table

variable {K V A : Type} [DecidableEq K]

/-- The empty table. -/
def empty : Table K V := ⟨[], List.nodup_nil⟩

/-- The value of a key. -/
def get? (t : Table K V) (k : K) : Option V := lookup k t.rows

/-- Update the value of `k`, which is `d` when the key is new. -/
def entry (t : Table K V) (k : K) (d : V) (f : V → V) : Table K V :=
  ⟨updateRows k d f t.rows, nodup_updateRows t.nodup⟩

/-- One pass over the values: the results, in row order, and the table of the rewritten values. -/
def iterMut (t : Table K V) (f : V → A × V) : List A × Table K V :=
  (t.rows.map fun row => (f row.2).1,
    ⟨t.rows.map fun row => (row.1, (f row.2).2), by simpa [Function.comp_def] using t.nodup⟩)

theorem get?_eq_some_iff (t : Table K V) {k : K} {v : V} : t.get? k = some v ↔ (k, v) ∈ t.rows :=
  ⟨mem_of_lookup, lookup_of_mem t.nodup⟩

theorem get?_entry (t : Table K V) (k j : K) (d : V) (f : V → V) :
    (t.entry k d f).get? j = if j = k then some (f ((t.get? k).getD d)) else t.get? j :=
  lookup_updateRows k j d f t.rows

@[simp] theorem get?_iterMut (t : Table K V) (f : V → A × V) (k : K) :
    (t.iterMut f).2.get? k = (t.get? k).map fun v => (f v).2 :=
  lookup_map k (fun v => (f v).2) t.rows

end Table
