import Mathlib.Data.List.Sort

/-!
# Ordered maps

A finite map whose entries are kept in key order, as a list of entries with strictly increasing keys.
Inserting replaces the value of a key that is already there. A list of entries that is inserted
overrides what was there before, and the order of its own entries does not matter if no key occurs
twice.
-/

namespace Entries

variable {K V : Type} [LinearOrder K]

/-- The entry of the key is the given one; the others are left alone. -/
def insert (key : K) (value : V) : List (K × V) → List (K × V)
  | [] => [(key, value)]
  | (k, v) :: rest =>
    if key = k then (key, value) :: rest
    else if key < k then (key, value) :: (k, v) :: rest
    else (k, v) :: insert key value rest

/-- The entries are inserted, from the first to the last. -/
def insertAll (m entries : List (K × V)) : List (K × V) :=
  entries.foldl (fun m e => insert e.1 e.2 m) m

/-- The keys are in order, and distinct. -/
def Ordered (m : List (K × V)) : Prop := m.Pairwise fun e e' => e.1 < e'.1

variable {key : K} {value : V} {m m' entries : List (K × V)}

theorem ordered_nil : Ordered ([] : List (K × V)) := List.Pairwise.nil

theorem Ordered.filter (h : Ordered m) (p : K × V → Bool) : Ordered (m.filter p) :=
  List.Pairwise.filter p h

/-- Inserting an entry takes the place of the entry with its key. -/
theorem insert_perm (h : Ordered m) :
    (insert key value m).Perm ((key, value) :: m.filter fun e => e.1 ≠ key) := by
  induction m with
  | nil => exact .refl _
  | cons e rest ih =>
    obtain ⟨k, v⟩ := e
    obtain ⟨hfirst, hrest⟩ := List.pairwise_cons.1 h
    have others (hle : key ≤ k) : (rest.filter fun e => e.1 ≠ key) = rest := by
      apply List.filter_eq_self.2
      intro e he
      have hlt : key < e.1 := lt_of_le_of_lt hle (hfirst e he)
      simp [hlt.ne']
    simp only [insert]
    split
    · next heq =>
      subst heq
      rw [List.filter_cons_of_neg (by simp), others le_rfl]
    · next hne =>
      rw [List.filter_cons_of_pos (by simp [Ne.symm hne])]
      split
      · next hlt => rw [others hlt.le]
      · exact ((ih hrest).cons _).trans (.swap _ _ _)

theorem mem_insert {e : K × V} (h : e ∈ insert key value m) : e = (key, value) ∨ e ∈ m := by
  induction m with
  | nil => exact .inl (List.mem_singleton.1 h)
  | cons e' rest ih =>
    simp only [insert] at h
    split at h
    · rcases List.mem_cons.1 h with h | h
      · exact .inl h
      · exact .inr (List.mem_cons_of_mem _ h)
    · split at h
      · exact List.mem_cons.1 h
      · rcases List.mem_cons.1 h with h | h
        · exact .inr (h ▸ List.mem_cons_self)
        · exact (ih h).imp_right (List.mem_cons_of_mem _)

theorem Ordered.insert (h : Ordered m) : Ordered (insert key value m) := by
  induction m with
  | nil => exact List.pairwise_singleton _ _
  | cons e rest ih =>
    obtain ⟨k, v⟩ := e
    obtain ⟨hfirst, hrest⟩ := List.pairwise_cons.1 h
    simp only [Entries.insert]
    split
    · next heq =>
      subst heq
      exact List.pairwise_cons.2 ⟨hfirst, hrest⟩
    · next hne =>
      split
      · next hlt =>
        refine List.pairwise_cons.2 ⟨fun e he => ?_, h⟩
        rcases List.mem_cons.1 he with rfl | he
        · exact hlt
        · exact hlt.trans (hfirst e he)
      · next hlt =>
        refine List.pairwise_cons.2 ⟨fun e he => ?_, ih hrest⟩
        rcases mem_insert he with rfl | he
        · exact lt_of_le_of_ne (not_lt.1 hlt) (Ne.symm hne)
        · exact hfirst e he

theorem Ordered.insertAll (h : Ordered m) : Ordered (insertAll m entries) := by
  induction entries generalizing m with
  | nil => exact h
  | cons e entries ih => exact ih h.insert

/-- What is inserted overrides what was there. -/
theorem insertAll_perm (h : Ordered m) (hn : (entries.map Prod.fst).Nodup) :
    (insertAll m entries).Perm (entries ++ m.filter fun e => e.1 ∉ entries.map Prod.fst) := by
  induction entries generalizing m with
  | nil => simp [insertAll]
  | cons e entries ih =>
    rw [List.map_cons, List.nodup_cons] at hn
    obtain ⟨hfirst, hn⟩ := hn
    have inserted := (@insert_perm _ _ _ e.1 e.2 m h).filter
      fun e' => e'.1 ∉ entries.map Prod.fst
    rw [List.filter_cons_of_pos (by simpa using hfirst), List.filter_filter] at inserted
    have first : (insertAll m (e :: entries)).Perm
        (entries ++ e :: m.filter fun e' =>
          decide (e'.1 ∉ entries.map Prod.fst) && decide (e'.1 ≠ e.1)) :=
      (ih h.insert hn).trans (inserted.append_left entries)
    refine first.trans (List.perm_middle.trans (.of_eq ?_))
    rw [List.cons_append]
    congr 2
    apply List.filter_congr
    intro e' _
    rw [← Bool.decide_and, decide_eq_decide, List.map_cons, List.mem_cons, not_or, and_comm]

/-- Entries in key order are determined by what they are. -/
theorem Ordered.eq_of_perm (h : Ordered m) (h' : Ordered m') (hperm : m.Perm m') : m = m' :=
  hperm.eq_of_pairwise (fun _ _ _ _ hlt hlt' => absurd (hlt.trans hlt') (lt_irrefl _)) h h'

/-- Leaving entries out before the map is built leaves them out of it. -/
theorem insertAll_filter (p : K × V → Bool) (hn : (entries.map Prod.fst).Nodup) :
    insertAll [] (entries.filter p) = (insertAll [] entries).filter p := by
  have hsub : ((entries.filter p).map Prod.fst).Nodup :=
    hn.sublist (List.filter_sublist.map _)
  have hall : (insertAll [] entries).Perm entries := by simpa using insertAll_perm ordered_nil hn
  have hsome : (insertAll [] (entries.filter p)).Perm (entries.filter p) := by
    simpa using insertAll_perm ordered_nil hsub
  exact ordered_nil.insertAll.eq_of_perm (ordered_nil.insertAll.filter p)
    (hsome.trans (hall.filter p).symm)

/-- Changing the values before the map is built changes them in it. -/
theorem insertAll_map {W : Type} (g : K → V → W) (m entries : List (K × V)) :
    insertAll (m.map fun e => (e.1, g e.1 e.2)) (entries.map fun e => (e.1, g e.1 e.2)) =
      (insertAll m entries).map fun e => (e.1, g e.1 e.2) := by
  have step (key : K) (value : V) (m : List (K × V)) :
      insert key (g key value) (m.map fun e => (e.1, g e.1 e.2)) =
        (insert key value m).map fun e => (e.1, g e.1 e.2) := by
    induction m with
    | nil => rfl
    | cons e rest ih =>
      simp only [List.map_cons, insert, ih]
      split
      · rfl
      · split <;> rfl
  induction entries generalizing m with
  | nil => rfl
  | cons e entries ih =>
    refine Eq.trans ?_ (ih (insert e.1 e.2 m))
    rw [← step]
    rfl

theorem Ordered.nodup (h : Ordered m) : (m.map Prod.fst).Nodup :=
  List.pairwise_map.2 (h.imp fun hlt => hlt.ne)

theorem mem_insertAll {e : K × V} (h : e ∈ insertAll m entries) : e ∈ entries ∨ e ∈ m := by
  induction entries generalizing m with
  | nil => exact .inr h
  | cons e' entries ih =>
    rcases ih h with h | h
    · exact .inl (List.mem_cons_of_mem _ h)
    · rcases mem_insert h with h | h
      · exact .inl (h ▸ List.mem_cons_self)
      · exact .inr h

theorem find?_of_mem (hn : (m.map Prod.fst).Nodup) (h : (key, value) ∈ m) :
    (m.find? fun e => e.1 = key) = some (key, value) := by
  induction m with
  | nil => cases h
  | cons e rest ih =>
    rw [List.map_cons, List.nodup_cons] at hn
    rcases List.mem_cons.1 h with rfl | h
    · exact List.find?_cons_of_pos (by simp)
    · have hne : e.1 ≠ key := by
        intro heq
        exact hn.1 (List.mem_map.2 ⟨(key, value), h, heq.symm⟩)
      rw [List.find?_cons_of_neg (by simpa using hne)]
      exact ih hn.2 h

theorem find?_of_not_mem (h : key ∉ m.map Prod.fst) : (m.find? fun e => e.1 = key) = none := by
  apply List.find?_eq_none.2
  intro e he heq
  exact h (List.mem_map.2 ⟨e, he, of_decide_eq_true heq⟩)

end Entries
