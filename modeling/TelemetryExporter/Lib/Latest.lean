import Mathlib.Data.List.Pairwise

/-!
# Latest readings

A reader takes a value from some of the events of a stream, and a state keeps the latest value. In a
stream whose events are ordered, by the time and by the position of their kind, the values of kinds
in different positions are ordered as their positions are.
-/

/-- The latest value that a reader takes from a list of events. -/
def latest {E D : Type} (read : E → Option D) (events : List E) : Option D :=
  (events.filterMap read).getLast?

namespace Latest

variable {E D : Type} {read : E → Option D} {events : List E} {value : D}

/-- The next event gives a newer value, or leaves the latest. -/
theorem concat (events : List E) (event : E) :
    latest read (events ++ [event]) = (read event).or (latest read events) := by
  unfold latest
  rw [List.filterMap_append, List.getLast?_append]
  cases h : read event with
  | none => rw [List.filterMap_cons_none h, List.filterMap_nil, List.getLast?_nil]
  | some value => rw [List.filterMap_cons_some h, List.filterMap_nil, List.getLast?_singleton]

theorem exists_event (h : latest read events = some value) :
    ∃ event ∈ events, read event = some value :=
  List.mem_filterMap.1 (List.mem_of_getLast? h)

theorem isSome_iff :
    (latest read events).isSome = true ↔ ∃ event ∈ events, (read event).isSome = true := by
  constructor
  · intro h
    obtain ⟨value, hvalue⟩ := Option.isSome_iff_exists.1 h
    obtain ⟨event, hmem, hread⟩ := exists_event hvalue
    exact ⟨event, hmem, Option.isSome_of_eq_some hread⟩
  · rintro ⟨event, hmem, hread⟩
    obtain ⟨value, hvalue⟩ := Option.isSome_iff_exists.1 hread
    apply List.getLast?_isSome.2
    exact List.ne_nil_of_mem (List.mem_filterMap.2 ⟨event, hmem, hvalue⟩)

end Latest

/-! ## Order -/

section

variable {E : Type} {events : List E} {time : E → Int} {position : E → Option Nat}

/-- An event whose kind has an earlier position does not come later. -/
theorem time_le_of_position_lt (htimes : events.Pairwise fun a b => time a ≤ time b)
    (hpositions : (events.filterMap position).Pairwise (· < ·)) {a b : E} (ha : a ∈ events)
    (hb : b ∈ events) {i j : Nat} (hi : position a = some i) (hj : position b = some j)
    (hlt : i < j) : time a ≤ time b := by
  have hkinds := List.pairwise_filterMap.1 hpositions
  clear hpositions
  induction events with
  | nil => cases ha
  | cons event events ih =>
    rw [List.pairwise_cons] at htimes hkinds
    rcases List.mem_cons.1 ha with rfl | hlater
    · rcases List.mem_cons.1 hb with rfl | hlater
      · have hsame : i = j := Option.some.inj (hi.symm.trans hj)
        omega
      · exact htimes.1 b hlater
    · rcases List.mem_cons.1 hb with rfl | hlater'
      · -- then `b` is the earlier event, of a later position
        have hback := hkinds.1 a hlater j hj i hi
        omega
      · exact ih htimes.2 hlater hlater' hkinds.2

end
