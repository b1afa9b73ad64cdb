import Mathlib.Data.List.Basic
import Mathlib.Data.List.TakeWhile

/-!
# Patterns with captures

Regular expressions that are a sequence of literals and of bounded or optional repetitions of a
character class, each of the latter a capture group. The semantics is that of a backtracking matcher:
all ways to match, the preferred one first (`ways`), a repetition taking as much as it can; and of all
positions, the leftmost one at which the pattern matches at all.

A repetition whose class does not contain the first character of the literal after it matches in one
way only, so that no backtracking is needed (`ways_upTo_literal`).
-/

/-- A part of a pattern. -/
inductive Pattern.Item where
  /-- The text itself. -/
  | literal (text : List Char)
  /-- `([..]{0,n})`: at most `n` characters of a class. -/
  | upTo (n : Nat) (inClass : Char → Bool)
  /-- `([..])?`: a character of the class, or no capture. -/
  | optional (inClass : Char → Bool)

/-- A pattern: its parts, one after the other. -/
abbrev Pattern := List Pattern.Item

namespace Pattern

/-- What the groups have captured. -/
abbrev Captures := List (Option (List Char))

/-- The ways in which a repetition matches, from the longest: how many characters it takes. -/
def lengths (n : Nat) (inClass : Char → Bool) (s : List Char) : List Nat :=
  (List.range (((s.take n).takeWhile inClass).length + 1)).reverse

/-- The ways in which the pattern matches at the start of the text, the preferred one first. -/
def ways : Pattern → List Char → List Captures
  | [], _ => [[]]
  | .literal text :: rest, s =>
    if text <+: s then ways rest (s.drop text.length) else []
  | .upTo n inClass :: rest, s =>
    (lengths n inClass s).flatMap fun k =>
      (ways rest (s.drop k)).map fun captures => some (s.take k) :: captures
  | .optional inClass :: rest, s =>
    ((s.head?.filter inClass).toList.flatMap fun c =>
      (ways rest (s.drop 1)).map fun captures => some [c] :: captures) ++
    (ways rest s).map fun captures => none :: captures

/-- The leftmost match, and of the matches there the preferred one. -/
def find (pattern : Pattern) (s : List Char) : Option Captures :=
  s.tails.findSome? fun t => (ways pattern t).head?

variable {n : Nat} {inClass : Char → Bool} {rest : Pattern} {s : List Char}

theorem ways_literal {text : List Char} :
    (ways (.literal text :: rest) s).head? =
      if text <+: s then (ways rest (s.drop text.length)).head? else none := by
  rw [ways]
  split <;> rfl

/-- What a repetition takes at most. -/
theorem takeWhile_take_start : (s.take n).takeWhile inClass <+: s :=
  (List.takeWhile_prefix inClass).trans (List.take_prefix n s)

/-- A repetition takes what it can if the literal after it cannot start with a character of its
class. -/
theorem ways_upTo_literal {c : Char} {text : List Char} (hc : inClass c = false) :
    ways (.upTo n inClass :: .literal (c :: text) :: rest) s =
      (ways (.literal (c :: text) :: rest)
        (s.drop ((s.take n).takeWhile inClass).length)).map fun captures =>
          some ((s.take n).takeWhile inClass) :: captures := by
  obtain ⟨left, hs⟩ := @takeWhile_take_start n inClass s
  have hall : ∀ c' ∈ (s.take n).takeWhile inClass, inClass c' = true := fun c' hc' =>
    List.mem_takeWhile_imp hc'
  simp only [ways, lengths]
  generalize (s.take n).takeWhile inClass = taken at hs hall ⊢
  subst hs
  have shorter (k : Nat) (hk : k < taken.length) :
      ways (.literal (c :: text) :: rest) ((taken ++ left).drop k) = [] := by
    refine if_neg ?_
    rw [List.drop_append_of_le_length (Nat.le_of_lt hk), List.drop_eq_getElem_cons hk, List.cons_append,
      List.cons_prefix_cons]
    rintro ⟨rfl, -⟩
    rw [hall _ (List.getElem_mem hk)] at hc
    cases hc
  rw [List.range_succ, List.reverse_append, List.reverse_singleton, List.singleton_append,
    List.flatMap_cons, List.take_left']
  · refine (congrArg _ (List.flatMap_eq_nil_iff.2 fun k hk => ?_)).trans (List.append_nil _)
    exact congrArg (List.map _) (shorter k (List.mem_range.1 (List.mem_reverse.1 hk)))
  · rfl

/-- An optional character is taken if it is there and the pattern ends with it. -/
theorem ways_optional_last :
    (ways [.optional inClass] s).head? = some [(s.head?.filter inClass).map fun c => [c]] := by
  rw [ways]
  cases s.head?.filter inClass with
  | none => rfl
  | some c => rfl

end Pattern
