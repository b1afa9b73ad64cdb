import Mathlib.Order.Bounds.Basic
import Mathlib.Order.MinMax
import TelemetryExporter.Lib.Machine

/-!
# A deadline and the timers that watch it

A single deadline that requests can only bring forward, and a timer for each request that did. Timers
are never cancelled: one that fires looks at the deadline and clears it if it has been reached. The
deadline can also be cleared from outside, which leaves the timers behind.
-/

namespace Deadline

open Machine

variable {T : Type} [LinearOrder T]

/-- The deadline, and the times at which the timers fire. -/
structure State (T : Type) where
  due : Option T := none
  timers : List T := []

/-- What can happen to the deadline, with the time at which it does. -/
inductive Action (T : Type) where
  | request (time now : T)
  | wake (timer now : T)
  | clear
  | other

/-- The time that an action requests. -/
def Action.requested : Action T → Option T
  | request time _ => some time
  | _ => none

/-- One action. A timer does not fire before its time. -/
def step (s : State T) : Action T → Option (State T)
  | .request time now =>
    if s.due.all (time ≤ ·) then
      if time ≤ now then some { s with due := none }
      else some { due := some time, timers := s.timers ++ [time] }
    else some s
  | .wake timer now =>
    if timer ∈ s.timers ∧ timer ≤ now then
      some
        { due := if s.due.any (· ≤ now) then none else s.due
          timers := s.timers.erase timer }
    else none
  | .clear => some { s with due := none }
  | .other => some s

theorem step_request_now {s : State T} {time now : T} (hfirst : ∀ due, s.due = some due → time ≤ due)
    (hnow : time ≤ now) : step s (.request time now) = some { s with due := none } := by
  have hall : s.due.all (time ≤ ·) = true := by simpa [Option.all_eq_true] using hfirst
  simp only [step]
  rw [if_pos hall, if_pos hnow]

theorem step_request_later {s : State T} {time now : T}
    (hfirst : ∀ due, s.due = some due → time ≤ due) (hlater : now < time) :
    step s (.request time now) = some { due := some time, timers := s.timers ++ [time] } := by
  have hall : s.due.all (time ≤ ·) = true := by simpa [Option.all_eq_true] using hfirst
  simp only [step]
  rw [if_pos hall, if_neg (not_le.2 hlater)]

theorem step_request_ignored {s : State T} {time now due : T} (hdue : s.due = some due)
    (hlt : due < time) : step s (.request time now) = some s := by
  have hall : ¬ s.due.all (time ≤ ·) = true := by simpa [hdue] using hlt
  simp only [step]
  rw [if_neg hall]

theorem step_wake_reached {s : State T} {timer now due : T} (htimer : timer ∈ s.timers ∧ timer ≤ now)
    (hdue : s.due = some due) (hreached : due ≤ now) :
    step s (.wake timer now) = some { due := none, timers := s.timers.erase timer } := by
  have hany : s.due.any (· ≤ now) = true := by simpa [hdue] using hreached
  simp only [step]
  rw [if_pos htimer, if_pos hany]

theorem step_wake_stale {s : State T} {timer now : T} (htimer : timer ∈ s.timers ∧ timer ≤ now)
    (hdue : ∀ due, s.due = some due → now < due) :
    step s (.wake timer now) = some { s with timers := s.timers.erase timer } := by
  have hany : ¬ s.due.any (· ≤ now) = true := by simpa [Option.any_eq_true] using hdue
  simp only [step]
  rw [if_pos htimer, if_neg hany]

/-- The times requested since there was last no deadline. -/
def requestedSince (trail : List (State T × Action T)) : List T :=
  trail.foldl (fun times x => (if x.1.due.isNone then [] else times) ++ x.2.requested.toList) []

omit [LinearOrder T] in
theorem requestedSince_snoc (trail : List (State T × Action T)) (s : State T) (a : Action T) :
    requestedSince (trail ++ [(s, a)]) =
      (if s.due.isNone then [] else requestedSince trail) ++ a.requested.toList := by
  rw [requestedSince, List.foldl_append]
  rfl

/-- The deadline is the earliest time requested, and a timer is set for it. -/
structure Watched (requested : List T) (s : State T) : Prop where
  earliest : ∀ t, s.due = some t → IsLeast { time | time ∈ requested } t
  armed : ∀ t, s.due = some t → t ∈ s.timers

theorem watched_of_none {requested : List T} {s : State T} (h : s.due = none) :
    Watched requested s := by
  refine ⟨fun t ht => ?_, fun t ht => ?_⟩
  · rw [h] at ht
    cases ht
  · rw [h] at ht
    cases ht

theorem isLeast_snoc {times : List T} {t time : T} (h : IsLeast { x | x ∈ times } t) :
    IsLeast { x | x ∈ times ++ [time] } (min t time) := by
  refine ⟨?_, ?_⟩
  · rcases min_choice t time with hmin | hmin
    · rw [hmin]
      exact List.mem_append_left _ h.1
    · rw [hmin]
      exact List.mem_append_right _ (List.mem_singleton_self time)
  · intro x hx
    rcases List.mem_append.1 hx with hx | hx
    · exact (min_le_left t time).trans (h.2 hx)
    · rw [List.mem_singleton.1 hx]
      exact min_le_right t time

/-- A request keeps the earlier of the two times. -/
theorem step_request_watched {requested : List T} {s s' : State T} {time now : T}
    (hs : Watched requested s) (h : step s (.request time now) = some s') :
    Watched ((if s.due.isNone then [] else requested) ++ [time]) s' := by
  simp only [step] at h
  cases hdue : s.due with
  | none =>
    rw [hdue, Option.all_none, if_pos rfl] at h
    split at h
    · cases h
      exact watched_of_none rfl
    · cases h
      refine ⟨fun t ht => ?_, fun t ht => ?_⟩
      · cases ht
        refine ⟨List.mem_singleton_self time, fun x hx => ?_⟩
        exact (List.mem_singleton.1 hx).ge
      · cases ht
        exact List.mem_append_right _ (List.mem_singleton_self time)
  | some due =>
    have least := @isLeast_snoc _ _ _ _ time (hs.earliest due hdue)
    rw [hdue] at h
    split at h
    · next hle =>
      have hle : time ≤ due := of_decide_eq_true hle
      rw [min_eq_right hle] at least
      split at h
      · cases h
        exact watched_of_none rfl
      · cases h
        refine ⟨fun t ht => ?_, fun t ht => ?_⟩
        · cases ht
          exact least
        · cases ht
          exact List.mem_append_right _ (List.mem_singleton_self time)
    · next hle =>
      have hlt : due < time := lt_of_not_ge fun hge => hle (decide_eq_true hge)
      rw [min_eq_left hlt.le] at least
      cases h
      refine ⟨fun t ht => ?_, hs.armed⟩
      rw [hdue] at ht
      cases ht
      exact least

/-- A timer does not clear a deadline that has not been reached. -/
theorem step_wake_due {s s' : State T} {timer now t : T} (h : step s (.wake timer now) = some s')
    (hdue : s.due = some t) (hlt : now < t) : s'.due = some t := by
  simp only [step] at h
  split at h
  · cases h
    have hany : s.due.any (· ≤ now) = false := by
      rw [hdue]
      exact decide_eq_false (not_le.2 hlt)
    rw [hany]
    exact hdue
  · cases h

/-- The timer of a deadline that is still there is not the one that has fired. -/
theorem step_wake_watched {requested : List T} {s s' : State T} {timer now : T}
    (hs : Watched requested s) (h : step s (.wake timer now) = some s') : Watched requested s' := by
  simp only [step] at h
  split at h
  · next hwake =>
    cases h
    cases hany : s.due.any (· ≤ now) with
    | true => exact watched_of_none rfl
    | false =>
      refine ⟨hs.earliest, fun t ht => ?_⟩
      have ht : s.due = some t := ht
      rw [ht] at hany
      have hlt : now < t := not_le.1 (of_decide_eq_false hany)
      have hne : t ≠ timer := by
        rintro rfl
        exact absurd hwake.2 (not_le.2 hlt)
      exact (List.mem_erase_of_ne hne).2 (hs.armed t ht)
  · cases h

theorem step_watched {past : List (State T × Action T)} {s s' : State T} {a : Action T}
    (hs : Watched (requestedSince past) s) (h : step s a = some s') :
    Watched (requestedSince (past ++ [(s, a)])) s' := by
  rw [requestedSince_snoc]
  have kept (hdue : s.due.isNone = true ∨ s.due.isNone = false) (s' : State T)
      (hs' : Watched (requestedSince past) s') (hsame : s.due = none → s'.due = none) :
      Watched ((if s.due.isNone then [] else requestedSince past) ++ []) s' := by
    rw [List.append_nil]
    rcases hdue with hdue | hdue
    · exact watched_of_none (hsame (Option.isNone_iff_eq_none.1 hdue))
    · rw [hdue]
      exact hs'
  have hdue : s.due.isNone = true ∨ s.due.isNone = false := by
    cases s.due.isNone with
    | true => exact .inl rfl
    | false => exact .inr rfl
  cases a with
  | request time now => exact step_request_watched hs h
  | wake timer now =>
    apply kept hdue s' (step_wake_watched hs h)
    intro hnone
    simp only [step] at h
    split at h
    · cases h
      rw [hnone]
      rfl
    · cases h
  | clear =>
    cases h
    exact watched_of_none rfl
  | other =>
    cases h
    exact kept hdue s hs id

/-- After every run from a state without a deadline. -/
theorem run_watched {s₀ s : State T} {actions : List (Action T)} (h₀ : s₀.due = none)
    (h : run step s₀ actions = some s) :
    Watched (requestedSince (trail step s₀ actions)) s :=
  run_history (I := fun past s => Watched (requestedSince past) s) (watched_of_none h₀)
    (fun _ _ _ _ hs hstep => step_watched hs hstep) h

end Deadline
