import Mathlib.Data.List.Basic

/-!
# Loops that end

A loop without a bound: its body either goes on with another state or leaves with a result. `Returns`
is what the loop computes, and has no proof when it does not end. `runFor` is the same loop for a
number of rounds, which is what can be evaluated.
-/

namespace Loop

variable {S R : Type} {body : S → S ⊕ R}

/-- From the state `s`, the loop ends with the result `r`. -/
inductive Returns (body : S → S ⊕ R) : S → R → Prop where
  | leave {s : S} {r : R} (h : body s = .inr r) : Returns body s r
  | again {s s' : S} {r : R} (h : body s = .inl s') (h' : Returns body s' r) : Returns body s r

/-- At most `n` rounds of the loop, with `out` for what remains. -/
def runFor (body : S → S ⊕ R) (out : S → R) : Nat → S → R
  | 0, s => out s
  | n + 1, s =>
    match body s with
    | .inl s' => runFor body out n s'
    | .inr r => r

theorem runFor_succ (out : S → R) (n : Nat) (s : S) :
    runFor body out (n + 1) s =
      match body s with
      | .inl s' => runFor body out n s'
      | .inr r => r := rfl

/-- If a measure decreases with each round, as many rounds as the measure says are enough. -/
theorem returns_runFor {I : S → Prop} {measure : S → Nat}
    (hstep : ∀ s s', I s → body s = .inl s' → I s' ∧ measure s' < measure s) (out : S → R) {n : Nat}
    {s : S} (hs : I s) (hn : measure s < n) : Returns body s (runFor body out n s) := by
  induction n generalizing s with
  | zero => omega
  | succ n ih =>
    rw [runFor_succ]
    cases hbody : body s with
    | inr r => exact .leave hbody
    | inl s' =>
      obtain ⟨hs', hlt⟩ := hstep s s' hs hbody
      have hn' : measure s' < n := by omega
      exact .again hbody (ih hs' hn')

end Loop
