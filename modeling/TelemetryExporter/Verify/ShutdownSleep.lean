import TelemetryExporter.Model.TelemetryService

/-!
# How long the shutdown sleeps

On shutdown the exporter sleeps until shortly before the deadline. The 50 ms are subtracted before
the maximum with zero is taken, at `u64`: from 50 ms before the deadline until the deadline has passed
by a millisecond the subtraction wraps (`sleepFor_wraps`). At every other time the exporter sleeps as
intended (`sleepsSafely_iff`).
-/

namespace TelemetryExporter

/-- A time that an `OffsetDateTime` can hold. -/
def Representable (nanos : Int) : Prop :=
  -377705116800 ≤ nanos / 1000000000 ∧ nanos / 1000000000 ≤ 253402300799

instance (nanos : Int) : Decidable (Representable nanos) :=
  inferInstanceAs (Decidable (_ ∧ _))

/-- The deadline in nanoseconds. -/
def deadlineNanos (deadlineMs : Nat) : Int := deadlineMs * 1000000

/-- The whole milliseconds left until the deadline: none when it has passed or cannot be
represented. -/
def timeLeftMs (deadlineMs : Nat) (now : Int) : Nat :=
  if Representable (deadlineNanos deadlineMs) then ((deadlineNanos deadlineMs - now) / 1000000).toNat
  else 0

/-- The sleep ends 50 ms before the deadline, or is empty, and `remaining - 50` does not go below
zero. -/
structure SleepsSafely (deadlineMs : Nat) (now : OffsetDateTime) : Prop where
  sleep : sleepFor deadlineMs now = max (timeLeftMs deadlineMs now - 50 : Int) 0
  within : sleepFor deadlineMs now ≤ timeLeftMs deadlineMs now
  noUnderflow : ∀ remaining, remainingTimeMs deadlineMs now = some remaining → 50 ≤ remaining

section

variable {deadlineMs : Nat} {now : Int}

/-- The dates are close enough for the milliseconds between them to fit. -/
theorem timeLeftMs_lt (hnow : Representable now) : timeLeftMs deadlineMs now < UInt64.size := by
  have hsize : UInt64.size = 18446744073709551616 := rfl
  unfold timeLeftMs
  by_cases h : Representable (deadlineNanos deadlineMs)
  · have hlast : deadlineNanos deadlineMs / 1000000000 ≤ 253402300799 := h.2
    have hfirst : -377705116800 ≤ now / 1000000000 := hnow.1
    rw [if_pos h]
    omega
  · rw [if_neg h]
    omega

/-- `whole_milliseconds` of a duration that has not run out. -/
theorem wholeMilliseconds_of_nonneg {d : Int} (h : 0 ≤ d) : d.tdiv 1000000 = d / 1000000 :=
  Int.tdiv_eq_ediv_of_nonneg h

/-- `whole_milliseconds` of a duration that has run out. -/
theorem wholeMilliseconds_of_neg {d : Int} (h : d < 0) : d.tdiv 1000000 = -(-d / 1000000) := by
  have hnonneg : 0 ≤ -d := by omega
  have hneg : (-(-d)).tdiv 1000000 = -((-d).tdiv 1000000) := Int.neg_tdiv _ _
  rw [Int.neg_neg, Int.tdiv_eq_ediv_of_nonneg hnonneg] at hneg
  exact hneg

theorem fromUnixTimestampNanos_ok {nanos : Int} (h : Representable nanos) :
    fromUnixTimestampNanos nanos = .ok nanos := by
  unfold fromUnixTimestampNanos
  unfold Representable at h
  rw [if_pos h]

theorem fromUnixTimestampNanos_error {nanos : Int} (h : ¬ Representable nanos) :
    fromUnixTimestampNanos nanos = .error .componentRange := by
  unfold fromUnixTimestampNanos
  unfold Representable at h
  rw [if_neg h]

theorem remainingTimeMs_of_not_representable (h : ¬ Representable (deadlineNanos deadlineMs)) :
    remainingTimeMs deadlineMs now = none := by
  have hfrom := fromUnixTimestampNanos_error h
  unfold deadlineNanos at hfrom
  unfold remainingTimeMs
  rw [hfrom]
  rfl

theorem remainingTimeMs_of_representable (h : Representable (deadlineNanos deadlineMs)) :
    remainingTimeMs deadlineMs now =
      u64TryFrom ((deadlineNanos deadlineMs - now).tdiv 1000000) := by
  have hfrom := fromUnixTimestampNanos_ok h
  unfold deadlineNanos at hfrom ⊢
  unfold remainingTimeMs
  rw [hfrom]
  rfl

/-- The deadline has passed by a millisecond or more. -/
theorem remainingTimeMs_of_passed (h : Representable (deadlineNanos deadlineMs))
    (hpassed : deadlineNanos deadlineMs - now ≤ -1000000) : remainingTimeMs deadlineMs now = none := by
  have hwhole := wholeMilliseconds_of_neg (d := deadlineNanos deadlineMs - now) (by omega)
  rw [remainingTimeMs_of_representable h, hwhole]
  unfold u64TryFrom
  rw [if_neg]
  rintro ⟨hnonneg, -⟩
  omega

/-- The deadline has not passed by a millisecond. -/
theorem remainingTimeMs_of_left (h : Representable (deadlineNanos deadlineMs))
    (hnow : Representable now) (hleft : -1000000 < deadlineNanos deadlineMs - now) :
    remainingTimeMs deadlineMs now = some (timeLeftMs deadlineMs now) := by
  have hwhole : (deadlineNanos deadlineMs - now).tdiv 1000000 = timeLeftMs deadlineMs now := by
    unfold timeLeftMs
    rw [if_pos h]
    by_cases hsign : 0 ≤ deadlineNanos deadlineMs - now
    · rw [wholeMilliseconds_of_nonneg hsign]
      omega
    · rw [wholeMilliseconds_of_neg (by omega)]
      omega
  have hsize : (timeLeftMs deadlineMs now : Int) < UInt64.size :=
    Int.ofNat_lt.2 (timeLeftMs_lt hnow)
  rw [remainingTimeMs_of_representable h, hwhole]
  unfold u64TryFrom
  rw [if_pos ⟨Int.natCast_nonneg _, hsize⟩, Int.toNat_natCast]

theorem sleepFor_of_none (h : remainingTimeMs deadlineMs now = none) : sleepFor deadlineMs now = 0 := by
  unfold sleepFor
  rw [h, Option.elim_none]

theorem sleepFor_of_some {remaining : Nat} (h : remainingTimeMs deadlineMs now = some remaining) :
    sleepFor deadlineMs now = wrappingSub remaining 50 := by
  unfold sleepFor
  rw [h, Option.elim_some, Nat.max_eq_left (Nat.zero_le _)]

/-- Less than 50 ms before the deadline the sleep would last for more than 500 million years. -/
theorem sleepFor_wraps {remaining : Nat} (h : remainingTimeMs deadlineMs now = some remaining)
    (hlate : remaining < 50) : sleepFor deadlineMs now + 50 = UInt64.size + remaining := by
  have hsize : UInt64.size = 18446744073709551616 := rfl
  rw [sleepFor_of_some h]
  unfold wrappingSub
  rw [hsize]
  omega

theorem sleepsSafely_of_none (hnone : remainingTimeMs deadlineMs now = none)
    (htime : timeLeftMs deadlineMs now = 0) : SleepsSafely deadlineMs now where
  sleep := by
    rw [sleepFor_of_none hnone, htime]
    rfl
  within := by
    rw [sleepFor_of_none hnone]
    exact Nat.zero_le _
  noUnderflow := by
    intro remaining h
    rw [hnone] at h
    cases h

theorem sleepsSafely_of_ahead
    (hsome : remainingTimeMs deadlineMs now = some (timeLeftMs deadlineMs now))
    (hahead : 50 ≤ timeLeftMs deadlineMs now) (hsize : timeLeftMs deadlineMs now < UInt64.size) :
    SleepsSafely deadlineMs now := by
  have hsleep : sleepFor deadlineMs now = timeLeftMs deadlineMs now - 50 := by
    rw [sleepFor_of_some hsome]
    exact wrappingSub_of_le hahead hsize
  constructor
  · rw [hsleep]
    omega
  · rw [hsleep]
    exact Nat.sub_le _ _
  · intro remaining h
    rw [hsome] at h
    cases h
    exact hahead

end

/-- The exporter sleeps as intended exactly when the deadline cannot be represented, has passed by a
millisecond or more, or is at least 50 ms ahead. -/
theorem sleepsSafely_iff (deadlineMs : Nat) (now : Int) (hnow : Representable now) :
    SleepsSafely deadlineMs now ↔
      ¬ Representable (deadlineNanos deadlineMs) ∨
      deadlineNanos deadlineMs - now ≤ -1000000 ∨ 50000000 ≤ deadlineNanos deadlineMs - now := by
  constructor
  · intro hsafe
    by_cases h : Representable (deadlineNanos deadlineMs)
    · by_cases hpassed : deadlineNanos deadlineMs - now ≤ -1000000
      · exact .inr (.inl hpassed)
      · have hleft : -1000000 < deadlineNanos deadlineMs - now := by omega
        have hahead := hsafe.noUnderflow _ (remainingTimeMs_of_left h hnow hleft)
        unfold timeLeftMs at hahead
        rw [if_pos h] at hahead
        right
        right
        omega
    · exact .inl h
  · intro hcondition
    by_cases h : Representable (deadlineNanos deadlineMs)
    · have htime : timeLeftMs deadlineMs now = ((deadlineNanos deadlineMs - now) / 1000000).toNat :=
        if_pos h
      rcases hcondition with hnot | hpassed | hahead
      · exact absurd h hnot
      · apply sleepsSafely_of_none (remainingTimeMs_of_passed h hpassed)
        omega
      · have hleft : -1000000 < deadlineNanos deadlineMs - now := by omega
        apply sleepsSafely_of_ahead (remainingTimeMs_of_left h hnow hleft)
        · omega
        · exact timeLeftMs_lt hnow
    · exact sleepsSafely_of_none (remainingTimeMs_of_not_representable h) (if_neg h)

/-- 1.5 s before the deadline the exporter sleeps for 1.45 s. -/
theorem sleepsSafely_iff_ahead : SleepsSafely 1700000002000 1700000000500000000 :=
  (sleepsSafely_iff 1700000002000 1700000000500000000 (by decide)).2 (by decide)

/-- 20 ms before the deadline the subtraction wraps. -/
theorem sleepFor_late :
    timeLeftMs 1700000002000 1700000001980000000 = 20 ∧
    sleepFor 1700000002000 1700000001980000000 = 18446744073709551586 ∧
    ¬ SleepsSafely 1700000002000 1700000001980000000 := by
  refine ⟨rfl, rfl, ?_⟩
  intro h
  exact absurd h.within (by decide)

end TelemetryExporter
