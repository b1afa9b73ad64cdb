import Mathlib.Data.List.Basic

/-!
# Runs of equal entries

Each entry of a list is numbered by its place in the run of equal entries it belongs to. A coarse
time and such a number, capped below the resolution, make a fine stamp: it determines the coarse
time, and the stamps of times in order are in order.
-/

namespace Runs

variable {A : Type} [DecidableEq A] {last a : A} {sub n : Nat} {as bs before : List A}

/-- The numbers of the entries, after an entry `last` with the number `sub`. -/
def runIndices : A → Nat → List A → List Nat
  | _, _, [] => []
  | last, sub, a :: as =>
    if a = last then (sub + 1) :: runIndices a (sub + 1) as else 0 :: runIndices a 0 as

/-- The last entry and its number, after the entries. -/
def runState : A → Nat → List A → A × Nat
  | last, sub, [] => (last, sub)
  | last, sub, a :: as => if a = last then runState a (sub + 1) as else runState a 0 as

theorem runIndices_cons_same (a : A) (sub : Nat) (as : List A) :
    runIndices a sub (a :: as) = (sub + 1) :: runIndices a (sub + 1) as :=
  if_pos rfl

theorem runIndices_cons_other (h : a ≠ last) (as : List A) :
    runIndices last sub (a :: as) = 0 :: runIndices a 0 as :=
  if_neg h

theorem runState_cons_same (a : A) (sub : Nat) (as : List A) :
    runState a sub (a :: as) = runState a (sub + 1) as :=
  if_pos rfl

theorem runState_cons_other (h : a ≠ last) (as : List A) :
    runState last sub (a :: as) = runState a 0 as :=
  if_neg h

theorem length_runIndices (last : A) (sub : Nat) (as : List A) :
    (runIndices last sub as).length = as.length := by
  induction as generalizing last sub with
  | nil => rfl
  | cons a as ih =>
    unfold runIndices
    by_cases h : a = last
    · rw [if_pos h, List.length_cons, List.length_cons, ih]
    · rw [if_neg h, List.length_cons, List.length_cons, ih]

theorem runIndices_append (last : A) (sub : Nat) (as bs : List A) :
    runIndices last sub (as ++ bs) =
      runIndices last sub as ++ runIndices (runState last sub as).1 (runState last sub as).2 bs := by
  induction as generalizing last sub with
  | nil => rfl
  | cons a as ih =>
    rw [List.cons_append]
    by_cases h : a = last
    · subst h
      rw [runIndices_cons_same, runIndices_cons_same, runState_cons_same, ih, List.cons_append]
    · rw [runIndices_cons_other h, runIndices_cons_other h, runState_cons_other h, ih,
        List.cons_append]

/-- The last entry is the last one of the list. -/
theorem runState_fst (last : A) (sub : Nat) (as : List A) :
    (runState last sub as).1 = as.getLast?.getD last := by
  induction as generalizing last sub with
  | nil => rfl
  | cons a as ih =>
    unfold runState
    have hlast : (a :: as).getLast?.getD last = as.getLast?.getD a := by
      cases as with
      | nil => rfl
      | cons b bs => rw [List.getLast?_cons_cons]; simp [List.getLast?_cons]
    rw [hlast]
    by_cases h : a = last
    · rw [if_pos h, ih]
    · rw [if_neg h, ih]

/-! ## One run -/

theorem runIndices_replicate_same (a : A) (sub n : Nat) :
    runIndices a sub (List.replicate n a) = List.range' (sub + 1) n := by
  induction n generalizing sub with
  | zero => rfl
  | succ n ih => rw [List.replicate_succ, runIndices_cons_same, ih, List.range'_succ]

theorem runIndices_replicate_other (h : a ≠ last) (sub n : Nat) :
    runIndices last sub (List.replicate n a) = List.range' 0 n := by
  cases n with
  | zero => rfl
  | succ n =>
    rw [List.replicate_succ, runIndices_cons_other h, runIndices_replicate_same, List.range'_succ]

/-- A number is reached only by a run of that length. -/
theorem exists_run_of_mem (hbefore : List.replicate sub last <:+ before) {i : Nat}
    (hi : i ∈ runIndices last sub as) : ∃ a, List.replicate i a <:+: before ++ as := by
  induction as generalizing last sub before with
  | nil => cases hi
  | cons b as ih =>
    unfold runIndices at hi
    -- the run before the entry, or the entry alone, is followed by the rest
    by_cases h : b = last
    · subst h
      rw [if_pos rfl, List.mem_cons] at hi
      have hrun : List.replicate (sub + 1) b <:+ before ++ [b] := by
        obtain ⟨start, rfl⟩ := hbefore
        rw [List.replicate_succ', List.append_assoc]
        exact List.suffix_append _ _
      have hsplit : before ++ b :: as = before ++ [b] ++ as := by
        rw [List.append_assoc, List.singleton_append]
      rw [hsplit]
      rcases hi with rfl | hi
      · exact ⟨b, hrun.isInfix.trans (List.prefix_append _ _).isInfix⟩
      · exact ih hrun hi
    · rw [if_neg h, List.mem_cons] at hi
      rcases hi with rfl | hi
      · exact ⟨b, List.nil_infix⟩
      · have hsplit : before ++ b :: as = before ++ [b] ++ as := by
          rw [List.append_assoc, List.singleton_append]
        rw [hsplit]
        have hnone : List.replicate 0 b <:+ before ++ [b] := List.nil_suffix
        exact ih hnone hi

/-! ## Stamps -/

section Stamps

variable {resolution t u i j : Nat} {times : List Nat}

/-- A time in units of the resolution and the number of an entry at that time, as a fine stamp. -/
def stamp (resolution t i : Nat) : Nat := t * resolution + min i (resolution - 1)

/-- The stamps of the times, after the time `last` with the number `sub`. -/
def runStamps (resolution last sub : Nat) (times : List Nat) : List Nat :=
  List.zipWith (stamp resolution) times (runIndices last sub times)

theorem stamp_div (hresolution : 0 < resolution) (t i : Nat) : stamp resolution t i / resolution = t := by
  unfold stamp
  rw [Nat.mul_comm, Nat.mul_add_div hresolution, Nat.div_eq_of_lt, Nat.add_zero]
  omega

theorem stamp_le_stamp (h : i ≤ j) : stamp resolution t i ≤ stamp resolution t j := by
  unfold stamp
  omega

theorem stamp_lt_stamp (h : i < j) (hj : j < resolution) :
    stamp resolution t i < stamp resolution t j := by
  unfold stamp
  omega

theorem stamp_le_of_lt (h : t < u) (i j : Nat) : stamp resolution t i ≤ stamp resolution u j := by
  have hticks : (t + 1) * resolution ≤ u * resolution := Nat.mul_le_mul_right resolution h
  rw [Nat.add_mul, Nat.one_mul] at hticks
  unfold stamp
  omega

theorem length_runStamps (resolution last sub : Nat) (times : List Nat) :
    (runStamps resolution last sub times).length = times.length := by
  unfold runStamps
  rw [List.length_zipWith, length_runIndices, Nat.min_self]

theorem runStamps_cons_same (resolution t sub : Nat) (times : List Nat) :
    runStamps resolution t sub (t :: times) =
      stamp resolution t (sub + 1) :: runStamps resolution t (sub + 1) times := by
  unfold runStamps
  rw [runIndices_cons_same, List.zipWith_cons_cons]

theorem runStamps_cons_other {last : Nat} (h : t ≠ last) (resolution sub : Nat) (times : List Nat) :
    runStamps resolution last sub (t :: times) =
      stamp resolution t 0 :: runStamps resolution t 0 times := by
  unfold runStamps
  rw [runIndices_cons_other h, List.zipWith_cons_cons]

theorem map_div_runStamps (hresolution : 0 < resolution) (last sub : Nat) (times : List Nat) :
    (runStamps resolution last sub times).map (· / resolution) = times := by
  induction times generalizing last sub with
  | nil => rfl
  | cons t times ih =>
    by_cases h : t = last
    · subst h
      rw [runStamps_cons_same, List.map_cons, stamp_div hresolution, ih]
    · rw [runStamps_cons_other h, List.map_cons, stamp_div hresolution, ih]

/-- The stamps of times that are not before the last one are not before its stamp. -/
theorem le_of_mem_runStamps {last sub s : Nat} (hsorted : (last :: times).Pairwise (· ≤ ·))
    (hs : s ∈ runStamps resolution last sub times) : stamp resolution last sub ≤ s := by
  induction times generalizing last sub with
  | nil => cases hs
  | cons t times ih =>
    obtain ⟨hafter, hrest⟩ := List.pairwise_cons.1 hsorted
    by_cases h : t = last
    · subst h
      rw [runStamps_cons_same, List.mem_cons] at hs
      have hnext : stamp resolution t sub ≤ stamp resolution t (sub + 1) :=
        stamp_le_stamp (Nat.le_succ sub)
      rcases hs with rfl | hs
      · exact hnext
      · exact Nat.le_trans hnext (ih hrest hs)
    · rw [runStamps_cons_other h, List.mem_cons] at hs
      have hlt : last < t := by
        have := hafter t List.mem_cons_self
        omega
      have hnext : stamp resolution last sub ≤ stamp resolution t 0 := stamp_le_of_lt hlt sub 0
      rcases hs with rfl | hs
      · exact hnext
      · exact Nat.le_trans hnext (ih hrest hs)

/-- The stamps of times in order are in order. -/
theorem runStamps_pairwise (last sub : Nat) (hsorted : times.Pairwise (· ≤ ·)) :
    (runStamps resolution last sub times).Pairwise (· ≤ ·) := by
  induction times generalizing last sub with
  | nil => exact .nil
  | cons t times ih =>
    have hrest := (List.pairwise_cons.1 hsorted).2
    by_cases h : t = last
    · subst h
      rw [runStamps_cons_same]
      exact .cons (fun s hs => le_of_mem_runStamps hsorted hs) (ih t (sub + 1) hrest)
    · rw [runStamps_cons_other h]
      exact .cons (fun s hs => le_of_mem_runStamps hsorted hs) (ih t 0 hrest)

theorem zipWith_stamp_replicate (resolution t : Nat) (indices : List Nat) :
    List.zipWith (stamp resolution) (List.replicate indices.length t) indices =
      indices.map (stamp resolution t) := by
  induction indices with
  | nil => rfl
  | cons i indices ih =>
    rw [List.length_cons, List.replicate_succ, List.zipWith_cons_cons, ih, List.map_cons]

/-- The stamps of one run within a list of times. -/
theorem runStamps_run {last sub n start : Nat} {before : List Nat} (resolution : Nat)
    (after : List Nat)
    (hindices : runIndices (before.getLast?.getD last) (runState last sub before).2
      (List.replicate n t) = List.range' start n) :
    ∃ first rest, runStamps resolution last sub (before ++ (List.replicate n t ++ after)) =
        first ++ ((List.range' start n).map (stamp resolution t) ++ rest) ∧
      first.length = before.length := by
  have hrun : List.zipWith (stamp resolution) (List.replicate n t) (List.range' start n) =
      (List.range' start n).map (stamp resolution t) := by
    have hzip := zipWith_stamp_replicate resolution t (List.range' start n)
    rwa [List.length_range'] at hzip
  refine ⟨runStamps resolution last sub before, runStamps resolution
    (runState (before.getLast?.getD last) (runState last sub before).2 (List.replicate n t)).1
    (runState (before.getLast?.getD last) (runState last sub before).2 (List.replicate n t)).2 after,
    ?_, length_runStamps _ _ _ _⟩
  unfold runStamps
  rw [runIndices_append, List.zipWith_append (length_runIndices _ _ _).symm, runIndices_append,
    runState_fst, hindices, List.zipWith_append, hrun]
  rw [List.length_replicate, List.length_range']

theorem range'_stamps_pairwise (resolution t start n : Nat) :
    ((List.range' start n).map (stamp resolution t)).Pairwise (· ≤ ·) := by
  rw [List.pairwise_map]
  refine List.Pairwise.imp ?_ (List.pairwise_lt_range' (s := start) (n := n))
  intro i j h
  exact stamp_le_stamp (Nat.le_of_lt h)

/-- The stamps of a run are strictly increasing until the numbers reach the resolution. -/
theorem take_range'_stamps_pairwise {start k : Nat} (hk : start + k ≤ resolution) (t n : Nat) :
    (((List.range' start n).map (stamp resolution t)).take k).Pairwise (· < ·) := by
  rw [← List.map_take, List.pairwise_map]
  have hlt : ((List.range' start n).take k).Pairwise (· < ·) :=
    (List.pairwise_lt_range' (s := start) (n := n)).sublist (List.take_sublist k _)
  refine List.Pairwise.imp_of_mem ?_ hlt
  intro i j _ hj h
  obtain ⟨m, hm, rfl⟩ := List.mem_take_iff_getElem.1 hj
  apply stamp_lt_stamp h
  rw [List.getElem_range']
  omega

end Stamps

end Runs
