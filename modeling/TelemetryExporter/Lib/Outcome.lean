/-!
# Postconditions of methods that can fail

A method that changes a state and may fail returns the state together with its result, and keeps on
failure what it has changed. Its specification is a pair of postconditions, one for each way of
returning.
-/

namespace Outcome

variable {S E A B : Type}

/-- The method returned with `ok` of its value and state, or failed with `err` of its state. -/
def Satisfies (outcome : S × Except E A) (ok : A → S → Prop) (err : S → Prop) : Prop :=
  match outcome with
  | (s, .ok a) => ok a s
  | (s, .error _) => err s

theorem Satisfies.mono {o : S × Except E A} {ok ok' : A → S → Prop} {err err' : S → Prop}
    (h : Satisfies o ok err) (hok : ∀ a s, ok a s → ok' a s) (herr : ∀ s, err s → err' s) :
    Satisfies o ok' err' := by
  obtain ⟨s, r⟩ := o
  cases r with
  | ok a => exact hok a s h
  | error e => exact herr s h

theorem Satisfies.of_ok {o : S × Except E A} {ok : A → S → Prop} {err : S → Prop} {s : S} {a : A}
    (h : Satisfies o ok err) (ho : o = (s, .ok a)) : ok a s := by
  subst ho
  exact h

theorem Satisfies.of_error {o : S × Except E A} {ok : A → S → Prop} {err : S → Prop} {s : S} {e : E}
    (h : Satisfies o ok err) (ho : o = (s, .error e)) : err s := by
  subst ho
  exact h

/-- When both postconditions say the same about the state. -/
theorem Satisfies.state {o : S × Except E A} {P : S → Prop} (h : Satisfies o (fun _ => P) P) :
    P o.1 := by
  obtain ⟨s, r⟩ := o
  cases r <;> exact h

end Outcome
