import Mathlib.Data.List.Basic

/-!
# Lists with a distinguished element

A list has at most one decomposition around its first, or its last, element with a property.
Splitting at every occurrence of an element inverts joining exactly when no piece contains it.
-/

namespace List

variable {A : Type} {p : A → Bool} {a b c d : List A} {x y : A}

theorem append_cons_inj_of_first (ha : ∀ e ∈ a, p e = false) (hc : ∀ e ∈ c, p e = false)
    (hx : p x = true) (hy : p y = true) (h : a ++ x :: b = c ++ y :: d) : a = c ∧ x = y ∧ b = d := by
  induction a generalizing c with
  | nil =>
    cases c with
    | nil => simpa using h
    | cons z c =>
      obtain ⟨rfl, -⟩ := List.cons.inj h
      rw [hc x List.mem_cons_self] at hx
      cases hx
  | cons z a ih =>
    cases c with
    | nil =>
      obtain ⟨rfl, -⟩ := List.cons.inj h
      rw [ha z List.mem_cons_self] at hy
      cases hy
    | cons w c =>
      obtain ⟨rfl, htail⟩ := List.cons.inj h
      obtain ⟨rfl, hxy, hbd⟩ := ih (fun e he => ha e (List.mem_cons_of_mem _ he))
        (fun e he => hc e (List.mem_cons_of_mem _ he)) htail
      exact ⟨rfl, hxy, hbd⟩

theorem append_cons_inj_of_last (hb : ∀ e ∈ b, p e = false) (hd : ∀ e ∈ d, p e = false)
    (hx : p x = true) (hy : p y = true) (h : a ++ x :: b = c ++ y :: d) : a = c ∧ x = y ∧ b = d := by
  have hreverse : b.reverse ++ x :: a.reverse = d.reverse ++ y :: c.reverse := by
    have := congrArg List.reverse h
    simpa using this
  obtain ⟨hbd, hxy, hac⟩ := append_cons_inj_of_first (by simpa using hb) (by simpa using hd) hx hy
    hreverse
  exact ⟨List.reverse_inj.1 hac, hxy, List.reverse_inj.1 hbd⟩

/-- The only element of its kind is where it is. -/
theorem append_cons_inj_of_unique (hc : ∀ e ∈ c, p e = false) (hd : ∀ e ∈ d, p e = false)
    (hx : p x = true) (h : a ++ x :: b = c ++ y :: d) : a = c ∧ x = y ∧ b = d := by
  rcases List.append_eq_append_iff.1 h with ⟨more, hcmore, hrest⟩ | ⟨more, hamore, hrest⟩
  · cases more with
    | nil =>
      obtain ⟨hxy, hbd⟩ := List.cons.inj hrest
      exact ⟨(hcmore.trans (List.append_nil _)).symm, hxy, hbd⟩
    | cons z more =>
      obtain ⟨rfl, -⟩ := List.cons.inj hrest
      rw [hc x (by rw [hcmore]; exact List.mem_append_right _ List.mem_cons_self)] at hx
      cases hx
  · cases more with
    | nil =>
      obtain ⟨hyx, hdb⟩ := List.cons.inj hrest
      exact ⟨hamore.trans (List.append_nil _), hyx.symm, hdb.symm⟩
    | cons z more =>
      obtain ⟨-, hd'⟩ := List.cons.inj hrest
      rw [hd x (by rw [hd']; exact List.mem_append_right _ List.mem_cons_self)] at hx
      cases hx

/-- An element of a list to which more has been appended is in the list or in what was appended. -/
theorem append_eq_append_cons (h : a ++ b = c ++ x :: d) :
    (∃ rest, a = c ++ x :: rest ∧ d = rest ++ b) ∨ ∃ more, b = more ++ x :: d ∧ c = a ++ more := by
  rcases List.append_eq_append_iff.1 h with ⟨more, hc, hb⟩ | ⟨more, ha, hmore⟩
  · exact .inr ⟨more, hb, hc⟩
  · cases more with
    | nil => exact .inr ⟨[], hmore.symm, by rw [ha, List.append_nil, List.append_nil]⟩
    | cons y more =>
      obtain ⟨rfl, hd⟩ := List.cons.inj hmore
      exact .inl ⟨more, ha, hd⟩

/-- A prefix without elements of the kind ends before the first of them. -/
theorem mem_of_prefix_of_first (ha : ∀ e ∈ a, p e = false) (hx : p x = true)
    (h : a <+: c ++ x :: d) : ∀ e ∈ a, e ∈ c := by
  obtain ⟨rest, hrest⟩ := h
  rcases List.append_eq_append_iff.1 hrest with ⟨more, hc, -⟩ | ⟨more, hac, hmore⟩
  · intro e he
    rw [hc]
    exact List.mem_append_left _ he
  · cases more with
    | nil =>
      rw [List.append_nil] at hac
      exact fun e he => hac ▸ he
    | cons z more =>
      obtain ⟨rfl, -⟩ := List.cons.inj hmore
      rw [ha x (by simp [hac])] at hx
      cases hx

/-- All elements of two lists but the last one, where the last of the first list is put with the
second list. -/
theorem forall_mem_dropLast_append {P : A → Prop} (a b : List A) :
    (∀ e ∈ (a ++ b).dropLast, P e) ↔
      (∀ e ∈ a.dropLast, P e) ∧ ∀ e ∈ (a.getLast?.toList ++ b).dropLast, P e := by
  cases b with
  | nil =>
    have hlast : a.getLast?.toList.dropLast = [] := by
      cases a.getLast? <;> rfl
    rw [List.append_nil, List.append_nil, hlast]
    exact ⟨fun h => ⟨h, nofun⟩, fun h => h.1⟩
  | cons x b =>
    have hne : x :: b ≠ [] := List.cons_ne_nil x b
    rw [List.dropLast_append_of_ne_nil hne, List.dropLast_append_of_ne_nil hne,
      List.forall_mem_append, List.forall_mem_append]
    have ha : (∀ e ∈ a, P e) ↔ (∀ e ∈ a.dropLast, P e) ∧ ∀ e ∈ a.getLast?.toList, P e := by
      rw [← List.forall_mem_append]
      cases a with
      | nil => exact Iff.rfl
      | cons y a =>
        rw [List.getLast?_eq_some_getLast (List.cons_ne_nil y a), Option.toList_some,
          List.dropLast_append_getLast]
    rw [ha, and_assoc]

/-- `P` holds of each element and the elements before it. -/
def EachAfter (P : List A → A → Prop) (a : List A) : Prop :=
  ∀ before x after, a = before ++ x :: after → P before x

theorem eachAfter_nil {P : List A → A → Prop} : EachAfter P [] := by
  intro before x after h
  cases before <;> cases h

theorem eachAfter_cons {P : List A → A → Prop} :
    EachAfter P (x :: a) ↔ P [] x ∧ EachAfter (fun before => P (x :: before)) a := by
  constructor
  · intro h
    refine ⟨h [] x a rfl, fun before y after heq => h (x :: before) y after ?_⟩
    rw [heq]
    rfl
  · rintro ⟨hfirst, hrest⟩ before y after heq
    cases before with
    | nil =>
      obtain ⟨rfl, -⟩ := List.cons.inj heq
      exact hfirst
    | cons z before =>
      obtain ⟨rfl, htail⟩ := List.cons.inj heq
      exact hrest before y after htail

theorem eachAfter_congr {P Q : List A → A → Prop} (h : ∀ before x, P before x ↔ Q before x) :
    EachAfter P a ↔ EachAfter Q a :=
  ⟨fun hP before x after heq => (h before x).1 (hP before x after heq),
    fun hQ before x after heq => (h before x).2 (hQ before x after heq)⟩

/-! ## The pieces between separators -/

section Pieces

variable {B : Type} [BEq B] [LawfulBEq B] {separator : B}

/-- No piece of a split contains the separator. -/
theorem not_mem_of_mem_splitOn (s : List B) : ∀ piece ∈ s.splitOn separator, separator ∉ piece := by
  induction s with
  | nil =>
    intro piece hpiece
    rw [List.splitOn_nil, List.mem_singleton] at hpiece
    rw [hpiece]
    exact List.not_mem_nil
  | cons z s ih =>
    intro piece hpiece
    rw [List.splitOn_cons_eq_if_modifyHead] at hpiece
    by_cases hz : (z == separator) = true
    · rw [if_pos hz, List.mem_cons] at hpiece
      rcases hpiece with rfl | hpiece
      · exact List.not_mem_nil
      · exact ih piece hpiece
    · rw [if_neg hz] at hpiece
      -- the first piece grows by an element that is not the separator
      cases hsplit : s.splitOn separator with
      | nil => exact absurd hsplit (List.splitOn_ne_nil _ _)
      | cons first rest =>
        rw [hsplit, List.modifyHead_cons, List.mem_cons] at hpiece
        rw [hsplit] at ih
        rcases hpiece with rfl | hpiece
        · intro hmem
          rcases List.mem_cons.1 hmem with rfl | hmem
          · exact hz (beq_self_eq_true _)
          · exact ih first List.mem_cons_self hmem
        · exact ih piece (List.mem_cons_of_mem _ hpiece)

/-- Splitting gives back what was joined exactly when no piece contains the separator. -/
theorem splitOn_intercalate_iff {pieces : List (List B)} (hpieces : pieces ≠ []) :
    ([separator].intercalate pieces).splitOn separator = pieces ↔
      ∀ piece ∈ pieces, separator ∉ piece := by
  constructor
  · intro h
    rw [← h]
    exact not_mem_of_mem_splitOn _
  · intro h
    exact List.splitOn_intercalate separator h hpieces

end Pieces

end List
