import Mathlib.Data.List.Forall2
import Mathlib.Data.Multiset.MapFold
import TelemetryExporter.Lib.Table

/-!
# Related tables

Two runs of a program that keep related values under the same keys. The tables are compared key by
key: the order of their rows does not matter. Every operation of a table keeps the relation, and a
pass over the values gives related results, up to their order.
-/

namespace Option

variable {A B C D : Type} {R : A → B → Prop} {S : C → D → Prop} {a : Option A} {b : Option B}

theorem Rel.getD (h : Option.Rel R a b) {x : A} {y : B} (hxy : R x y) : R (a.getD x) (b.getD y) := by
  cases h with
  | some hab => exact hab
  | none => exact hxy

theorem Rel.map (h : Option.Rel R a b) {f : A → C} {g : B → D}
    (hfg : ∀ x y, R x y → S (f x) (g y)) : Option.Rel S (a.map f) (b.map g) := by
  cases h with
  | some hab => exact .some (hfg _ _ hab)
  | none => exact .none

theorem Rel.or (h : Option.Rel R a b) {a' : Option A} {b' : Option B} (h' : Option.Rel R a' b') :
    Option.Rel R (a.or a') (b.or b') := by
  cases h with
  | some hab => exact .some hab
  | none => exact h'

theorem Rel.symm {Q : B → A → Prop} (hQ : ∀ x y, R x y → Q y x) (h : Option.Rel R a b) :
    Option.Rel Q b a := by
  cases h with
  | some hab => exact .some (hQ _ _ hab)
  | none => exact .none

theorem Rel.comp {Q : B → C → Prop} {T : A → C → Prop} (hT : ∀ x y z, R x y → Q y z → T x z)
    {c : Option C} (h : Option.Rel R a b) (h' : Option.Rel Q b c) : Option.Rel T a c := by
  cases h with
  | some hab =>
    cases h' with
    | some hbc => exact .some (hT _ _ _ hab hbc)
  | none =>
    cases h' with
    | none => exact .none

end Option

namespace Table

variable {K V W : Type} [DecidableEq K] {R : V → W → Prop}

/-! ## Rows -/

theorem lookup_cons_self (k : K) (v : V) (rows : List (K × V)) : lookup k ((k, v) :: rows) = some v :=
  if_pos rfl

theorem lookup_cons_of_ne {k j : K} (h : k ≠ j) (v : V) (rows : List (K × V)) :
    lookup j ((k, v) :: rows) = lookup j rows :=
  if_neg h

theorem lookup_append (k : K) (as bs : List (K × V)) :
    lookup k (as ++ bs) = (lookup k as).or (lookup k bs) := by
  induction as with
  | nil => rfl
  | cons row as ih =>
    obtain ⟨k', v⟩ := row
    rw [List.cons_append]
    by_cases h : k' = k
    · subst h
      rw [lookup_cons_self, lookup_cons_self, Option.some_or]
    · rw [lookup_cons_of_ne h, lookup_cons_of_ne h, ih]

/-- Rows with the same keys and related values are the same up to their order. -/
theorem rel_rows {rows : List (K × V)} {rows' : List (K × W)} (hn : (rows.map Prod.fst).Nodup)
    (hn' : (rows'.map Prod.fst).Nodup)
    (h : ∀ k, Option.Rel R (lookup k rows) (lookup k rows')) :
    Multiset.Rel (fun row row' => row.1 = row'.1 ∧ R row.2 row'.2) (rows : Multiset (K × V))
      (rows' : Multiset (K × W)) := by
  induction rows generalizing rows' with
  | nil =>
    cases rows' with
    | nil => exact .zero
    | cons row rest =>
      have hrow := h row.1
      rw [lookup_cons_self] at hrow
      cases hrow
  | cons row rest ih =>
    obtain ⟨k, v⟩ := row
    rw [List.map_cons, List.nodup_cons] at hn
    have hk := h k
    rw [lookup_cons_self] at hk
    -- the row with the same key, wherever it is in the other table
    cases hv : lookup k rows' with
    | none =>
      rw [hv] at hk
      cases hk
    | some w =>
      rw [hv] at hk
      cases hk with
      | some hvw =>
        obtain ⟨as, bs, rfl⟩ := List.append_of_mem (mem_of_lookup hv)
        have hperm : (as ++ (k, w) :: bs).Perm ((k, w) :: (as ++ bs)) := List.perm_middle
        rw [(hperm.map Prod.fst).nodup_iff, List.map_cons, List.nodup_cons] at hn'
        have hrest : ∀ j, Option.Rel R (lookup j rest) (lookup j (as ++ bs)) := by
          intro j
          by_cases hj : k = j
          · subst hj
            rw [lookup_eq_none hn.1, lookup_eq_none hn'.1]
            exact .none
          · have hjk := h j
            rw [lookup_cons_of_ne hj, lookup_append, lookup_cons_of_ne hj, ← lookup_append] at hjk
            exact hjk
        have hrel := ih hn.2 hn'.2 hrest
        have hcoe : ((as ++ (k, w) :: bs : List (K × W)) : Multiset (K × W)) =
            (k, w) ::ₘ ((as ++ bs : List (K × W)) : Multiset (K × W)) := by
          rw [Multiset.cons_coe]
          exact Multiset.coe_eq_coe.2 hperm
        rw [hcoe, ← Multiset.cons_coe]
        exact .cons ⟨rfl, hvw⟩ hrel

/-! ## Tables -/

/-- The same keys with related values. -/
def Rel (R : V → W → Prop) (t : Table K V) (t' : Table K W) : Prop :=
  ∀ k, Option.Rel R (t.get? k) (t'.get? k)

namespace Rel

variable {t : Table K V} {t' : Table K W}

theorem empty : Rel R (Table.empty : Table K V) (Table.empty : Table K W) := fun _ => .none

theorem entry (h : Rel R t t') (k : K) {d : V} {d' : W} (hd : R d d') {f : V → V} {f' : W → W}
    (hf : ∀ v w, R v w → R (f v) (f' w)) : Rel R (t.entry k d f) (t'.entry k d' f') := by
  intro j
  rw [get?_entry, get?_entry]
  by_cases hj : j = k
  · rw [if_pos hj, if_pos hj]
    exact .some (hf _ _ ((h k).getD hd))
  · rw [if_neg hj, if_neg hj]
    exact h j

theorem iterMut {A B : Type} (h : Rel R t t') {f : V → A × V} {f' : W → B × W}
    (hf : ∀ v w, R v w → R (f v).2 (f' w).2) : Rel R (t.iterMut f).2 (t'.iterMut f').2 := by
  intro j
  rw [get?_iterMut, get?_iterMut]
  exact (h j).map hf

/-- The results of a pass over the values. -/
theorem results {A B : Type} {S : A → B → Prop} (h : Rel R t t') {f : V → A × V} {f' : W → B × W}
    (hf : ∀ v w, R v w → S (f v).1 (f' w).1) :
    Multiset.Rel S ((t.iterMut f).1 : Multiset A) ((t'.iterMut f').1 : Multiset B) := by
  have hrows := rel_rows t.nodup t'.nodup h
  change Multiset.Rel S (((t.rows.map fun row => (f row.2).1 : List A)) : Multiset A)
    ((t'.rows.map fun row => (f' row.2).1 : List B) : Multiset B)
  rw [← Multiset.map_coe, ← Multiset.map_coe, Multiset.rel_map]
  refine hrows.mono ?_
  rintro row - row' - ⟨-, hrow⟩
  exact hf _ _ hrow

theorem symm {Q : W → V → Prop} (hQ : ∀ v w, R v w → Q w v) (h : Rel R t t') : Rel Q t' t :=
  fun k => (h k).symm hQ

theorem comp {X : Type} {Q : W → X → Prop} {T : V → X → Prop} {u : Table K X}
    (hT : ∀ v w x, R v w → Q w x → T v x) (h : Rel R t t') (h' : Rel Q t' u) : Rel T t u :=
  fun k => (h k).comp hT (h' k)

end Rel

end Table
