import Mathlib.Data.List.Basic
import Mathlib.Logic.Function.Basic

/-!
# One slot for each role

Items arrive one after the other. Some are dropped, some have a role. The first item of a role is
kept in the role's slot, and everything else is forwarded.
-/

namespace Capture

variable {Item Role : Type} [DecidableEq Role] (dropped : Item → Bool) (role : Item → Option Role)

/-- The slots after the items, and the items that are forwarded. -/
def capture : (Role → Option Item) → List Item → (Role → Option Item) × List Item
  | slots, [] => (slots, [])
  | slots, x :: xs =>
    if dropped x then capture slots xs
    else
      match role x with
      | none => ((capture slots xs).1, x :: (capture slots xs).2)
      | some r =>
        match slots r with
        | none => capture (Function.update slots r (some x)) xs
        | some _ => ((capture slots xs).1, x :: (capture slots xs).2)

variable {dropped role} {slots : Role → Option Item} {x : Item} {xs : List Item} {r : Role}

theorem capture_cons_dropped (h : dropped x = true) :
    capture dropped role slots (x :: xs) = capture dropped role slots xs := by
  rw [capture, if_pos h]

theorem capture_cons_other (h : dropped x = false) (hrole : role x = none) :
    capture dropped role slots (x :: xs) =
      ((capture dropped role slots xs).1, x :: (capture dropped role slots xs).2) := by
  rw [capture, h, if_neg Bool.false_ne_true, hrole]

theorem capture_cons_first (h : dropped x = false) (hrole : role x = some r) (hr : slots r = none) :
    capture dropped role slots (x :: xs) =
      capture dropped role (Function.update slots r (some x)) xs := by
  rw [capture, h, if_neg Bool.false_ne_true, hrole]
  simp only [hr]

theorem capture_cons_duplicate {y : Item} (h : dropped x = false) (hrole : role x = some r)
    (hr : slots r = some y) :
    capture dropped role slots (x :: xs) =
      ((capture dropped role slots xs).1, x :: (capture dropped role slots xs).2) := by
  rw [capture, h, if_neg Bool.false_ne_true, hrole]
  simp only [hr]

omit [DecidableEq Role] in
/-- What happens to the next item. -/
theorem capture_cases (slots : Role → Option Item) (x : Item) :
    (dropped x = true) ∨
      (dropped x = false ∧ ∃ r, role x = some r ∧ slots r = none) ∨
      (dropped x = false ∧ ∀ r, role x = some r → slots r ≠ none) := by
  cases h : dropped x with
  | true => exact .inl rfl
  | false =>
    right
    cases hrole : role x with
    | none =>
      refine .inr ⟨rfl, fun r hr => ?_⟩
      cases hr
    | some r =>
      cases hr : slots r with
      | none => exact .inl ⟨rfl, r, rfl, hr⟩
      | some y =>
        refine .inr ⟨rfl, fun r' hr' => ?_⟩
        cases hr'
        rw [hr]
        intro h
        cases h

theorem capture_cons_forwarded (h : dropped x = false) (hrole : ∀ r, role x = some r → slots r ≠ none) :
    capture dropped role slots (x :: xs) =
      ((capture dropped role slots xs).1, x :: (capture dropped role slots xs).2) := by
  cases hx : role x with
  | none => exact capture_cons_other h hx
  | some r =>
    cases hr : slots r with
    | none => exact absurd hr (hrole r hx)
    | some y => exact capture_cons_duplicate h hx hr

theorem capture_append (slots : Role → Option Item) (xs ys : List Item) :
    capture dropped role slots (xs ++ ys) =
      ((capture dropped role (capture dropped role slots xs).1 ys).1,
        (capture dropped role slots xs).2 ++
          (capture dropped role (capture dropped role slots xs).1 ys).2) := by
  induction xs generalizing slots with
  | nil => rfl
  | cons x xs ih =>
    rw [List.cons_append]
    rcases @capture_cases _ _ dropped role slots x with
      h | ⟨h, r, hrole, hr⟩ | ⟨h, hrole⟩
    · rw [capture_cons_dropped h, capture_cons_dropped h, ih]
    · rw [capture_cons_first h hrole hr, capture_cons_first h hrole hr, ih]
    · rw [capture_cons_forwarded h hrole, capture_cons_forwarded h hrole, ih]
      rfl

/-- The forwarded items are some of the items, in order. -/
theorem forwarded_sublist (slots : Role → Option Item) (xs : List Item) :
    (capture dropped role slots xs).2.Sublist xs := by
  induction xs generalizing slots with
  | nil => exact List.Sublist.refl _
  | cons x xs ih =>
    rcases @capture_cases _ _ dropped role slots x with
      h | ⟨h, r, hrole, hr⟩ | ⟨h, hrole⟩
    · rw [capture_cons_dropped h]
      exact (ih slots).cons x
    · rw [capture_cons_first h hrole hr]
      exact (ih _).cons x
    · rw [capture_cons_forwarded h hrole]
      exact (ih slots).cons_cons x

/-- A slot has the first item of its role, unless it was taken before. -/
theorem slot_eq (slots : Role → Option Item) (xs : List Item) (r : Role) :
    (capture dropped role slots xs).1 r =
      (slots r).or (xs.find? fun x => !dropped x && role x = some r) := by
  induction xs generalizing slots with
  | nil =>
    rw [capture, List.find?_nil, Option.or_none]
  | cons x xs ih =>
    rcases @capture_cases _ _ dropped role slots x with
      h | ⟨h, r', hrole, hr'⟩ | ⟨h, hrole⟩
    · rw [capture_cons_dropped h, ih, List.find?_cons, h]
      rfl
    · rw [capture_cons_first h hrole hr', ih, List.find?_cons, h, hrole]
      by_cases hsame : r = r'
      · subst hsame
        rw [Function.update_self, hr']
        simp
      · rw [Function.update_of_ne hsame]
        have hne : ¬ some r' = some r := fun h => hsame (Option.some.inj h).symm
        simp [hne]
    · rw [capture_cons_forwarded h hrole]
      change (capture dropped role slots xs).1 r = _
      rw [ih, List.find?_cons, h]
      cases hslot : slots r with
      | some y => rfl
      | none =>
        have hne : ¬ role x = some r := fun hx => hrole r hx hslot
        simp [hne]

/-- The items in the slots. -/
def captured (roles : List Role) (slots : Role → Option Item) : List Item :=
  roles.flatMap fun r => (slots r).toList

theorem captured_update {roles : List Role} (hroles : roles.Nodup) (hmem : r ∈ roles)
    (hr : slots r = none) (x : Item) :
    (captured roles (Function.update slots r (some x))).Perm (x :: captured roles slots) := by
  induction roles with
  | nil => cases hmem
  | cons r' roles ih =>
    obtain ⟨hnot, hroles⟩ := List.nodup_cons.1 hroles
    by_cases hsame : r' = r
    · subst hsame
      have hrest : captured roles (Function.update slots r' (some x)) = captured roles slots := by
        apply List.flatMap_congr
        intro r hmem
        have hne : r ≠ r' := fun h => hnot (h ▸ hmem)
        rw [Function.update_of_ne hne]
      unfold captured at hrest ⊢
      rw [List.flatMap_cons, List.flatMap_cons, hrest, Function.update_self, hr]
      exact List.Perm.refl _
    · have hmem : r ∈ roles := by
        rcases List.mem_cons.1 hmem with h | h
        · exact absurd h.symm hsame
        · exact h
      have hrest := ih hroles hmem
      unfold captured at hrest ⊢
      rw [List.flatMap_cons, List.flatMap_cons, Function.update_of_ne hsame]
      exact (hrest.append_left _).trans List.perm_middle

/-- Nothing is lost and nothing doubled. -/
theorem forwarded_perm {roles : List Role} (hroles : roles.Nodup) (hall : ∀ r, r ∈ roles)
    (slots : Role → Option Item) (xs : List Item) :
    ((capture dropped role slots xs).2 ++ captured roles (capture dropped role slots xs).1).Perm
      (xs.filter (fun x => !dropped x) ++ captured roles slots) := by
  induction xs generalizing slots with
  | nil => exact List.Perm.refl _
  | cons x xs ih =>
    rcases @capture_cases _ _ dropped role slots x with
      h | ⟨h, r, hrole, hr⟩ | ⟨h, hrole⟩
    · rw [capture_cons_dropped h, List.filter_cons_of_neg (by simp [h])]
      exact ih slots
    · rw [capture_cons_first h hrole hr, List.filter_cons_of_pos (by simp [h])]
      refine (ih _).trans ?_
      exact ((captured_update hroles (hall r) hr x).append_left _).trans List.perm_middle
    · rw [capture_cons_forwarded h hrole, List.filter_cons_of_pos (by simp [h])]
      exact (ih slots).cons x

end Capture
