import Mathlib.Logic.Basic

/-!
# Equality of floating-point numbers

`Float.beq` is the equality of IEEE 754: two numbers are equal if they denote one real number or one
infinity, so that the two zeroes are equal and `NaN` is equal to nothing. It is symmetric and
transitive.
-/

namespace Float

open Model

/-- What a number that is not `NaN` denotes. -/
inductive Meaning where
  | zero
  | infinity (sign : UnpackedFloat.Sign)
  | finite (sign : UnpackedFloat.Sign) (mantissa : Nat) (exponent : Int)

/-- What an unpacked number denotes. -/
def meaningOf : UnpackedFloat → Option Meaning
  | .notANumber => none
  | .zero _ => some .zero
  | .infinity sign => some (.infinity sign)
  | .finite sign mantissa exponent _ => some (.finite sign mantissa exponent)

/-- What a number denotes, `none` for `NaN`. -/
def meaning (a : Float) : Option Meaning := meaningOf a.toModel.unpack

theorem unpacked_beq_iff (a b : UnpackedFloat) :
    a.beq b = true ↔ meaningOf a = meaningOf b ∧ meaningOf a ≠ none := by
  have apart {o : Ordering} {x y : Meaning} (ho : o ≠ .eq) (hxy : x ≠ y) :
      (some o == some Ordering.eq) = true ↔ some x = some y ∧ some x ≠ none := by
    simp [ho, hxy]
  have none_right {x : Option Meaning} :
      (none == some Ordering.eq) = true ↔ x = none ∧ x ≠ none := by
    simp
  cases a with
  | notANumber =>
    constructor
    · intro h
      cases b <;> cases h
    · intro h
      exact absurd rfl h.2
  | zero s =>
    cases b with
    | notANumber => exact none_right
    | zero s' => exact ⟨fun _ => ⟨rfl, nofun⟩, fun _ => rfl⟩
    | infinity s' => cases s' <;> exact apart nofun nofun
    | finite s' => cases s' <;> exact apart nofun nofun
  | infinity s =>
    cases b with
    | notANumber => cases s <;> exact none_right
    | zero s' => cases s <;> exact apart nofun nofun
    | infinity s' =>
      change (some (compare s s') == some Ordering.eq) = true ↔
        some (Meaning.infinity s) = some (.infinity s') ∧ some (Meaning.infinity s) ≠ none
      cases s <;> cases s' <;> simp [Ord.compare]
    | finite s' => cases s <;> exact apart nofun nofun
  | finite s m e =>
    cases b with
    | notANumber => cases s <;> exact none_right
    | zero s' => cases s <;> exact apart nofun nofun
    | infinity s' => cases s <;> cases s' <;> exact apart nofun nofun
    | finite s' m' e' =>
      have same (sign : UnpackedFloat.Sign) :
          (some ((compare e e').then (compare m m')) == some Ordering.eq) = true ↔
            some (Meaning.finite sign m e) = some (.finite sign m' e') ∧
              some (Meaning.finite sign m e) ≠ none := by
        simp [Ordering.then_eq_eq, and_comm]
      have swapped (sign : UnpackedFloat.Sign) :
          (some ((compare e e').then (compare m m')).swap == some Ordering.eq) = true ↔
            some (Meaning.finite sign m e) = some (.finite sign m' e') ∧
              some (Meaning.finite sign m e) ≠ none := by
        simp [Ordering.then_eq_eq, and_comm]
      cases s with
      | positive =>
        cases s' with
        | positive => exact same .positive
        | negative => exact apart nofun nofun
      | negative =>
        cases s' with
        | positive => exact apart nofun nofun
        | negative => exact swapped .negative

/-- Equal numbers are those with one meaning, `NaN` apart. -/
theorem beq_iff (a b : Float) :
    a.beq b = true ↔ a.meaning = b.meaning ∧ a.meaning ≠ none :=
  unpacked_beq_iff a.toModel.unpack b.toModel.unpack

theorem beq_symm {a b : Float} (h : a.beq b = true) : b.beq a = true := by
  rw [beq_iff] at h ⊢
  exact ⟨h.1.symm, h.1 ▸ h.2⟩

theorem beq_trans {a b c : Float} (h : a.beq b = true) (h' : b.beq c = true) : a.beq c = true := by
  rw [beq_iff] at h h' ⊢
  exact ⟨h.1.trans h'.1, h.2⟩

theorem zero_beq_zero : Float.beq 0 0 = true := by decide

end Float
