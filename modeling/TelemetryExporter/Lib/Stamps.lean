import Mathlib.Data.List.Forall2
import Mathlib.Data.List.Pairwise
import Mathlib.Data.Int.Order.Basic

/-!
# Stamps finer than a clock

A clock of a coarse resolution gives many entries one time. Their stamps count up from that time as
long as it stays the same, so that the stamps of entries in order of time are strictly increasing, as
long as the counters stay below the resolution.
-/

namespace Stamps

/-- The stamps of `times`, after the time `last` whose counter is at `sub`. -/
def stamps : Int → Nat → List Int → List Int
  | _, _, [] => []
  | last, sub, t :: ts =>
    if t = last then (t + (sub + 1 : Nat)) :: stamps t (sub + 1) ts else t :: stamps t 0 ts

/-- What the counter of a time stays below. -/
def load (last : Int) (sub : Nat) (times : List Int) (t : Int) : Nat :=
  times.count t + if t = last then sub + 1 else 0

variable {last : Int} {sub resolution : Nat} {times : List Int}

theorem load_cons_same (t u : Int) : load t (sub + 1) times u = load t sub (t :: times) u := by
  unfold load
  by_cases h : u = t
  · rw [if_pos h, if_pos h, h, List.count_cons_self]
    omega
  · rw [if_neg h, if_neg h, List.count_cons_of_ne (Ne.symm h)]

theorem load_cons_other {t : Int} (h : t ≠ last) (u : Int) :
    load t 0 times u ≤ load last sub (t :: times) u := by
  unfold load
  by_cases hu : u = t
  · refine Nat.le_of_eq ?_
    rw [if_pos hu, hu, List.count_cons_self, if_neg h]
  · rw [if_neg hu, List.count_cons_of_ne (Ne.symm hu)]
    omega

theorem stamps_cons_same (t : Int) (sub : Nat) (ts : List Int) :
    stamps t sub (t :: ts) = (t + (sub + 1 : Nat)) :: stamps t (sub + 1) ts :=
  if_pos rfl

theorem stamps_cons_other {t : Int} (h : t ≠ last) (ts : List Int) :
    stamps last sub (t :: ts) = t :: stamps t 0 ts :=
  if_neg h

/-- After the first stamp. -/
theorem exists_stamps_cons (last : Int) (sub : Nat) (t : Int) (ts : List Int) :
    ∃ s sub', stamps last sub (t :: ts) = s :: stamps t sub' ts ∧
      ∀ u, load t sub' ts u ≤ load last sub (t :: ts) u := by
  by_cases h : t = last
  · subst h
    exact ⟨_, _, stamps_cons_same t sub ts, fun u => Nat.le_of_eq (load_cons_same t u)⟩
  · exact ⟨_, _, stamps_cons_other h ts, load_cons_other h⟩

/-- Each stamp is its time plus less than the load of that time. -/
theorem stamps_bounds (last : Int) (sub : Nat) (times : List Int) :
    List.Forall₂ (fun t s => t ≤ s ∧ s < t + load last sub times t) times (stamps last sub times) := by
  induction times generalizing last sub with
  | nil => exact .nil
  | cons t ts ih =>
    unfold stamps
    by_cases h : t = last
    · subst h
      rw [if_pos rfl]
      refine .cons ?_ ?_
      · unfold load
        rw [if_pos rfl, List.count_cons_self]
        omega
      · refine List.Forall₂.imp (fun u s hs => ?_) (ih t (sub + 1))
        rwa [load_cons_same] at hs
    · rw [if_neg h]
      refine .cons ?_ ?_
      · unfold load
        rw [if_neg h, List.count_cons_self]
        omega
      · refine List.Forall₂.imp (fun u s hs => ⟨hs.1, ?_⟩) (ih t 0)
        have hload : load t 0 ts u ≤ load last sub (t :: ts) u := load_cons_other h u
        omega

theorem length_stamps (last : Int) (sub : Nat) (times : List Int) :
    (stamps last sub times).length = times.length :=
  (List.Forall₂.length_eq (stamps_bounds last sub times)).symm

/-- The time that a stamp counts up from. -/
theorem exists_time {s : Int} (hs : s ∈ stamps last sub times) :
    ∃ t ∈ times, t ≤ s ∧ s < t + load last sub times t := by
  obtain ⟨n, hn, rfl⟩ := List.mem_iff_getElem.1 hs
  have hbounds := List.forall₂_iff_get.1 (stamps_bounds last sub times)
  have hn' : n < times.length := by rwa [length_stamps] at hn
  exact ⟨times[n], List.getElem_mem hn', hbounds.2 n hn' hn⟩

/-- The stamps of times that are not before the last one are after its stamp. -/
theorem lt_of_mem_stamps (hsorted : (last :: times).Pairwise (· ≤ ·))
    (hgap : ∀ t ∈ times, last < t → last + load last sub times last ≤ t) {s : Int}
    (hs : s ∈ stamps last sub times) : last + sub < s := by
  induction times generalizing sub with
  | nil => cases hs
  | cons t ts ih =>
    obtain ⟨hafter, hts⟩ := List.pairwise_cons.1 hsorted
    unfold stamps at hs
    by_cases h : t = last
    · subst h
      rw [if_pos rfl, List.mem_cons] at hs
      rcases hs with rfl | hs
      · omega
      · have hlt := @ih (sub + 1) hts
          (fun u hu hlt => by
            rw [load_cons_same]
            exact hgap u (List.mem_cons_of_mem _ hu) hlt) hs
        omega
    · rw [if_neg h, List.mem_cons] at hs
      have hlt : last < t := lt_of_le_of_ne (hafter t List.mem_cons_self) (Ne.symm h)
      have hfirst := hgap t List.mem_cons_self hlt
      have hsub : sub < load last sub (t :: ts) last := by
        unfold load
        rw [if_pos rfl]
        omega
      have hle : t ≤ s := by
        rcases hs with rfl | hs
        · exact le_rfl
        · obtain ⟨u, hu, hus, -⟩ := exists_time hs
          exact le_trans ((List.pairwise_cons.1 hts).1 u hu) hus
      omega

/-- The stamps of entries in order of time are strictly increasing. -/
theorem stamps_pairwise (hsorted : times.Pairwise (· ≤ ·))
    (hgap : ∀ t ∈ times, ∀ u ∈ times, t < u → t + load last sub times t ≤ u) :
    (stamps last sub times).Pairwise (· < ·) := by
  induction times generalizing last sub with
  | nil => exact .nil
  | cons t ts ih =>
    have hts := (List.pairwise_cons.1 hsorted).2
    unfold stamps
    by_cases h : t = last
    · subst h
      have hrest (u : Int) (hu : u ∈ ts) (v : Int) (hv : v ∈ ts) (huv : u < v) :
          u + load t (sub + 1) ts u ≤ v := by
        rw [load_cons_same]
        exact hgap u (List.mem_cons_of_mem _ hu) v (List.mem_cons_of_mem _ hv) huv
      rw [if_pos rfl, List.pairwise_cons]
      refine ⟨fun s hs => lt_of_mem_stamps hsorted (fun v hv htv => ?_) hs, ih hts hrest⟩
      rw [load_cons_same]
      exact hgap t List.mem_cons_self v (List.mem_cons_of_mem _ hv) htv
    · have hload (u : Int) : load t 0 ts u ≤ load last sub (t :: ts) u := load_cons_other h u
      rw [if_neg h, List.pairwise_cons]
      refine ⟨fun s hs => ?_, ih hts fun u hu v hv huv => ?_⟩
      · have hlt := lt_of_mem_stamps hsorted (fun v hv htv => ?_) hs
        · omega
        · have := hgap t List.mem_cons_self v (List.mem_cons_of_mem _ hv) htv
          have := hload t
          omega
      · have := hgap u (List.mem_cons_of_mem _ hu) v (List.mem_cons_of_mem _ hv) huv
        have := hload u
        omega

theorem load_append_le (a b : List Int) (u : Int) : load last sub a u ≤ load last sub (a ++ b) u := by
  unfold load
  rw [List.count_append]
  omega

/-- After the stamps of the first times. -/
theorem exists_stamps_append (last : Int) (sub : Nat) (a b : List Int) :
    ∃ last' sub', stamps last sub (a ++ b) = stamps last sub a ++ stamps last' sub' b ∧
      ∀ u, load last' sub' b u ≤ load last sub (a ++ b) u := by
  induction a generalizing last sub with
  | nil => exact ⟨last, sub, rfl, fun u => Nat.le_refl _⟩
  | cons t a ih =>
    rw [List.cons_append]
    by_cases h : t = last
    · subst h
      obtain ⟨last', sub', hstamps, hload⟩ := ih t (sub + 1)
      refine ⟨last', sub', ?_, fun u => ?_⟩
      · rw [stamps_cons_same, stamps_cons_same, hstamps, List.cons_append]
      · rw [← load_cons_same]
        exact hload u
    · obtain ⟨last', sub', hstamps, hload⟩ := ih t 0
      refine ⟨last', sub', ?_, fun u => ?_⟩
      · rw [stamps_cons_other h, stamps_cons_other h, hstamps, List.cons_append]
      · exact Nat.le_trans (hload u) (load_cons_other h u)

/-- The stamps of the entries around another one are strictly increasing if they are in order of time
and those after it do not share the last time before it. -/
theorem stamps_pairwise_around {a b : List Int} {t : Int} (hsorted : (a ++ b).Pairwise (· ≤ ·))
    (happart : ∀ u ∈ a.getLast?, ∀ v ∈ b, v ≠ u)
    (hgap : ∀ u ∈ a ++ b, ∀ v ∈ a ++ b, u < v → u + load last sub (a ++ t :: b) u ≤ v) :
    ∃ sa s sb, stamps last sub (a ++ t :: b) = sa ++ s :: sb ∧ sa.length = a.length ∧
      sb.length = b.length ∧ (sa ++ sb).Pairwise (· < ·) := by
  obtain ⟨ha, hb, hcross⟩ := List.pairwise_append.1 hsorted
  obtain ⟨last', sub', happend, hload⟩ := exists_stamps_append last sub a (t :: b)
  obtain ⟨s, sub'', hcons, hload'⟩ := exists_stamps_cons last' sub' t b
  have hle (u : Int) : load t sub'' b u ≤ load last sub (a ++ t :: b) u :=
    Nat.le_trans (hload' u) (hload u)
  refine ⟨stamps last sub a, s, stamps t sub'' b, by rw [happend, hcons], length_stamps _ _ _,
    length_stamps _ _ _, List.pairwise_append.2 ⟨?_, ?_, ?_⟩⟩
  · refine stamps_pairwise ha fun u hu v hv huv => ?_
    have := hgap u (List.mem_append_left _ hu) v (List.mem_append_left _ hv) huv
    have := @load_append_le last sub a (t :: b) u
    omega
  · refine stamps_pairwise hb fun u hu v hv huv => ?_
    have := hgap u (List.mem_append_right _ hu) v (List.mem_append_right _ hv) huv
    have := hle u
    omega
  · intro x hx y hy
    obtain ⟨u, hu, -, hux⟩ := exists_time hx
    obtain ⟨v, hv, hvy, -⟩ := exists_time hy
    -- the last time before is between the two, and not that of the second
    have hne : u ≠ v := by
      rintro rfl
      have hlast := List.getLast?_eq_some_getLast (List.ne_nil_of_mem hu)
      have hle := hcross _ (List.getLast_mem (List.ne_nil_of_mem hu)) u hv
      have hge : u ≤ a.getLast (List.ne_nil_of_mem hu) := ha.rel_getLast hu
      exact happart _ hlast u hv (le_antisymm hge hle)
    have huv : u < v := lt_of_le_of_ne (hcross u hu v hv) hne
    have := hgap u (List.mem_append_left _ hu) v (List.mem_append_right _ hv) huv
    have := @load_append_le last sub a (t :: b) u
    omega

end Stamps
