import Mathlib.Data.List.Basic

/-!
# Numbering by delimiters

The elements of a list, each with the number of delimiters before it: a delimiter ends its section.
-/

namespace Sections

variable {A : Type} {p : A → Bool}

/-- Number the elements from `n` on; after each delimiter the number grows by one. -/
def numberBy (p : A → Bool) (n : Nat) : List A → List (Nat × A)
  | [] => []
  | a :: as => (n, a) :: numberBy p (if p a then n + 1 else n) as

theorem numberBy_append (n : Nat) (as bs : List A) :
    numberBy p n (as ++ bs) = numberBy p n as ++ numberBy p (n + as.countP p) bs := by
  induction as generalizing n with
  | nil => rfl
  | cons a as ih =>
    simp only [List.cons_append, numberBy, ih, List.countP_cons]
    by_cases ha : p a = true
    · simp only [ha, if_true]
      rw [Nat.add_assoc, Nat.add_comm 1]
    · simp only [ha, if_false, Bool.false_eq_true, Nat.add_zero]

/-- Without delimiters all numbers are the same. -/
theorem numberBy_of_none {n : Nat} {as : List A} (h : ∀ a ∈ as, p a = false) :
    numberBy p n as = as.map fun a => (n, a) := by
  induction as with
  | nil => rfl
  | cons a as ih =>
    have ha : p a = false := h a List.mem_cons_self
    have ih := ih fun b hb => h b (List.mem_cons_of_mem _ hb)
    simp only [numberBy, ha, Bool.false_eq_true, if_false, ih, List.map_cons]

/-- One section and what follows it. -/
theorem numberBy_section {n : Nat} {as bs : List A} {a : A} (h : ∀ b ∈ as, p b = false)
    (ha : p a = true) :
    numberBy p n (as ++ a :: bs) = (as ++ [a]).map (fun b => (n, b)) ++ numberBy p (n + 1) bs := by
  have hcount : as.countP p = 0 := List.countP_eq_zero.2 fun b hb => by simp [h b hb]
  rw [numberBy_append, numberBy_of_none h, hcount]
  simp [numberBy, ha]

theorem numberBy_isPrefix (n : Nat) {as bs : List A} (h : as <+: bs) :
    numberBy p n as <+: numberBy p n bs := by
  obtain ⟨more, rfl⟩ := h
  rw [numberBy_append]
  exact List.prefix_append _ _

/-- What has the number. -/
def numbered {I : Type} [DecidableEq I] (i : I) (as : List (I × A)) : List A :=
  as.filterMap fun x => if x.1 = i then some x.2 else none

theorem numbered_isPrefix {I : Type} [DecidableEq I] {i : I} {as bs : List (I × A)} (h : as <+: bs) :
    numbered i as <+: numbered i bs :=
  h.filterMap _

theorem numbered_append {I : Type} [DecidableEq I] (i : I) (as bs : List (I × A)) :
    numbered i (as ++ bs) = numbered i as ++ numbered i bs :=
  List.filterMap_append

/-- Elements that all have one number. -/
theorem numbered_same {I : Type} [DecidableEq I] (i j : I) (as : List A) :
    numbered i (as.map fun a => (j, a)) = if j = i then as else [] := by
  unfold numbered
  rw [List.filterMap_map]
  split
  · next h => simp [h]
  · next h => simp [h]

/-- The positions of a list's elements, given to what is in them. -/
theorem numbered_zipIdx {B : Type} (f : B → List A) (k n : Nat) (bs : List B) :
    numbered (n + k) ((bs.zipIdx n).flatMap fun x => (f x.1).map fun a => (x.2, a)) =
      (bs[k]?.map f).getD [] := by
  have later (bs : List B) (m n : Nat) (h : n < m) :
      numbered n ((bs.zipIdx m).flatMap fun x => (f x.1).map fun a => (x.2, a)) = [] := by
    induction bs generalizing m with
    | nil => rfl
    | cons b bs ih =>
      rw [List.zipIdx_cons, List.flatMap_cons, numbered_append, numbered_same, if_neg (by omega),
        ih (m + 1) (by omega)]
      rfl
  induction bs generalizing n k with
  | nil => rfl
  | cons b bs ih =>
    rw [List.zipIdx_cons, List.flatMap_cons, numbered_append, numbered_same]
    cases k with
    | zero =>
      rw [if_pos (Nat.add_zero n).symm, later bs (n + 1) (n + 0) (by omega), List.append_nil]
      rfl
    | succ k =>
      have hindex : n + (k + 1) = n + 1 + k := by omega
      rw [if_neg (by omega), List.nil_append, hindex, ih k (n + 1)]
      rfl

/-- Numbers that are renamed. -/
theorem numbered_map {I J : Type} [DecidableEq I] [DecidableEq J] {f : I → J}
    (hf : ∀ i j, f i = f j → i = j) (i : I) (as : List (I × A)) :
    numbered (f i) (as.map fun x => (f x.1, x.2)) = numbered i as := by
  unfold numbered
  rw [List.filterMap_map]
  apply List.filterMap_congr
  intro x _
  by_cases h : x.1 = i
  · simp [h]
  · have hne : f x.1 ≠ f i := fun heq => h (hf _ _ heq)
    simp [h, hne]

end Sections
