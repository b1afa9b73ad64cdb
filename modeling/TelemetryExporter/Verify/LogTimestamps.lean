import TelemetryExporter.Lib.Runs
import TelemetryExporter.Verify.LogOrder

/-!
# Log timestamps at a resolution of milliseconds

`make_log_timestamp` numbers the logs of a millisecond and caps the number below a million
(`logTimestamps_runs`), so that the millisecond stays readable in the timestamp and the logs of one
millisecond are in order (`logTimestamps_millis`).
-/

namespace TelemetryExporter

/-- A time given in milliseconds since the epoch. -/
def ofMillis (ms : Nat) : OffsetDateTime := (ms * 1000000 : Nat)

theorem ofMillis_inj {a b : Nat} : ofMillis a = ofMillis b ↔ a = b := by
  constructor
  · intro h
    have hnanos : a * 1000000 = b * 1000000 := Int.ofNat.inj h
    omega
  · intro h
    rw [h]

/-- The timestamps of logs at these milliseconds, one after the other from a new state. -/
def millisTimestamps (millis : List Nat) : List Nat := logTimestamps {} (millis.map ofMillis)

section

variable {last sub ms : Nat} {millis : List Nat}

theorem makeLogTimestamp_millis (hfits : ms * 1000000 + 999999 < UInt64.size)
    (hsub : ms = last → sub + 1 < UInt32.size) :
    makeLogTimestamp { lastLogTimestamp := ofMillis last, lastLogSubindex := sub } (ofMillis ms) =
      if ms = last then
        (Runs.stamp 1000000 ms (sub + 1),
          { lastLogTimestamp := ofMillis ms, lastLogSubindex := sub + 1 })
      else (Runs.stamp 1000000 ms 0, { lastLogTimestamp := ofMillis ms, lastLogSubindex := 0 }) := by
  have hnonneg : ¬ ofMillis ms < 0 := by
    intro h
    have : ((ms * 1000000 : Nat) : Int) < 0 := h
    omega
  have hnanos : min (ofMillis ms).toNat (UInt64.size - 1) = ms * 1000000 := by
    have : (ofMillis ms).toNat = ms * 1000000 := rfl
    omega
  unfold makeLogTimestamp
  rw [if_neg hnonneg, hnanos]
  by_cases h : ms = last
  · have hindex : (sub + 1) % UInt32.size = sub + 1 := Nat.mod_eq_of_lt (hsub h)
    have hsum : wrappingAdd (ms * 1000000) (min (sub + 1) 999999) =
        Runs.stamp 1000000 ms (sub + 1) := by
      apply wrappingAdd_of_lt
      omega
    rw [if_pos h, if_pos (congrArg ofMillis h), hindex]
    dsimp only
    rw [hsum, h]
  · have hne : ¬ ofMillis ms = ofMillis last := fun heq => h (ofMillis_inj.1 heq)
    have hstamp : Runs.stamp 1000000 ms 0 = ms * 1000000 := by
      unfold Runs.stamp
      rw [Nat.zero_min, Nat.add_zero]
    rw [if_neg h, if_neg hne, hstamp]

/-- The timestamps are the milliseconds with the numbers of the logs in their runs. -/
theorem logTimestamps_runs (hfits : ∀ ms ∈ millis, ms * 1000000 + 999999 < UInt64.size)
    (hindices : ∀ i ∈ Runs.runIndices last sub millis, i < UInt32.size) :
    logTimestamps { lastLogTimestamp := ofMillis last, lastLogSubindex := sub }
        (millis.map ofMillis) =
      Runs.runStamps 1000000 last sub millis := by
  induction millis generalizing last sub with
  | nil => rfl
  | cons ms millis ih =>
    have hfirst := hfits ms List.mem_cons_self
    have hrest := fun m hm => hfits m (List.mem_cons_of_mem ms hm)
    rw [List.map_cons]
    unfold logTimestamps
    by_cases h : ms = last
    · subst h
      rw [Runs.runIndices_cons_same] at hindices
      have hsub : sub + 1 < UInt32.size := hindices _ List.mem_cons_self
      rw [makeLogTimestamp_millis hfirst fun _ => hsub, if_pos rfl, Runs.runStamps_cons_same,
        ih hrest fun i hi => hindices i (List.mem_cons_of_mem _ hi)]
    · rw [Runs.runIndices_cons_other h] at hindices
      rw [makeLogTimestamp_millis hfirst fun heq => absurd heq h, if_neg h,
        Runs.runStamps_cons_other h, ih hrest fun i hi => hindices i (List.mem_cons_of_mem _ hi)]

theorem millisTimestamps_eq (hfits : ∀ ms ∈ millis, ms * 1000000 + 999999 < UInt64.size)
    (hruns : ∀ n ms, List.replicate n ms <:+: millis → n < UInt32.size) :
    millisTimestamps millis = Runs.runStamps 1000000 0 0 millis := by
  have hnew : ({} : LastLogState) = { lastLogTimestamp := ofMillis 0, lastLogSubindex := 0 } := rfl
  unfold millisTimestamps
  rw [hnew]
  apply logTimestamps_runs hfits
  intro i hi
  have hbefore : List.replicate 0 0 <:+ ([] : List Nat) := List.suffix_refl _
  obtain ⟨ms, hrun⟩ := Runs.exists_run_of_mem hbefore hi
  exact hruns i ms hrun

end

/-- The logs of a run of equal milliseconds have timestamps that never go back. They are all
different up to the millionth log, and to the one before where the run begins at the epoch, from
which the numbering of a new state starts. -/
def RunOrdered (millis before : List Nat) (n ms : Nat) : Prop :=
  let run := ((millisTimestamps millis).drop before.length).take n
  run.Pairwise (· ≤ ·) ∧
    (run.take (if before = [] ∧ ms = 0 then 999999 else 1000000)).Pairwise (· < ·)

/-- The numbering of a run that other milliseconds, or none, come before. -/
theorem runIndices_of_run {before : List Nat} {ms : Nat} (n : Nat)
    (hbefore : before.getLast? ≠ some ms) :
    ∃ start, Runs.runIndices (before.getLast?.getD 0) (Runs.runState 0 0 before).2
        (List.replicate n ms) = List.range' start n ∧
      start + (if before = [] ∧ ms = 0 then 999999 else 1000000) ≤ 1000000 := by
  by_cases hepoch : before = [] ∧ ms = 0
  · obtain ⟨rfl, rfl⟩ := hepoch
    refine ⟨1, Runs.runIndices_replicate_same 0 0 n, ?_⟩
    rw [if_pos ⟨rfl, rfl⟩]
  · have hne : ms ≠ before.getLast?.getD 0 := by
      intro heq
      cases hlast : before.getLast? with
      | none =>
        rw [hlast] at heq
        exact hepoch ⟨List.getLast?_eq_none_iff.1 hlast, heq⟩
      | some m =>
        rw [hlast] at heq
        exact hbefore (hlast.trans (congrArg some heq.symm))
    refine ⟨0, Runs.runIndices_replicate_other hne _ n, ?_⟩
    rw [if_neg hepoch]

theorem millisTimestamps_run {millis before after : List Nat} {n ms : Nat}
    (hfits : ∀ ms ∈ millis, ms * 1000000 + 999999 < UInt64.size)
    (hruns : ∀ n ms, List.replicate n ms <:+: millis → n < UInt32.size)
    (hmillis : millis = before ++ (List.replicate n ms ++ after))
    (hbefore : before.getLast? ≠ some ms) : RunOrdered millis before n ms := by
  obtain ⟨start, hindices, hstart⟩ := runIndices_of_run n hbefore
  obtain ⟨first, rest, hstamps, hlength⟩ :=
    Runs.runStamps_run 1000000 after hindices
  have hrun : ((millisTimestamps millis).drop before.length).take n =
      (List.range' start n).map (Runs.stamp 1000000 ms) := by
    rw [millisTimestamps_eq hfits hruns, hmillis, hstamps, ← hlength, List.drop_left]
    apply List.take_left'
    rw [List.length_map, List.length_range']
  unfold RunOrdered
  rw [hrun]
  exact ⟨Runs.range'_stamps_pairwise _ _ _ _, Runs.take_range'_stamps_pairwise hstart _ _⟩

/-- On every sequence of calls at whole milliseconds the timestamps keep the millisecond, are in order
within a run of equal milliseconds, and are in order altogether if the milliseconds are. -/
theorem logTimestamps_millis {millis : List Nat}
    (hfits : ∀ ms ∈ millis, ms * 1000000 + 999999 < UInt64.size)
    (hruns : ∀ n ms, List.replicate n ms <:+: millis → n < UInt32.size) :
    (millisTimestamps millis).map (· / 1000000) = millis ∧
    (∀ before after n ms, millis = before ++ (List.replicate n ms ++ after) →
      before.getLast? ≠ some ms → RunOrdered millis before n ms) ∧
    (millis.Pairwise (· ≤ ·) → (millisTimestamps millis).Pairwise (· ≤ ·)) := by
  refine ⟨?_, ?_, ?_⟩
  · rw [millisTimestamps_eq hfits hruns]
    exact Runs.map_div_runStamps (by omega) 0 0 millis
  · intro before after n ms hmillis hbefore
    exact millisTimestamps_run hfits hruns hmillis hbefore
  · intro hsorted
    rw [millisTimestamps_eq hfits hruns]
    exact Runs.runStamps_pairwise 0 0 hsorted

theorem logTimestamps_millis_four :
    (millisTimestamps [0, 0, 5, 5]).map (· / 1000000) = [0, 0, 5, 5] ∧
    RunOrdered [0, 0, 5, 5] [0, 0] 2 5 ∧
    (millisTimestamps [0, 0, 5, 5]).Pairwise (· ≤ ·) := by
  have hfits : ∀ ms ∈ [0, 0, 5, 5], ms * 1000000 + 999999 < UInt64.size := by decide
  have hruns (n ms : Nat) (h : List.replicate n ms <:+: [0, 0, 5, 5]) : n < UInt32.size := by
    have hlength := h.length_le
    rw [List.length_replicate] at hlength
    have hsize : 4 < UInt32.size := by decide
    exact Nat.lt_of_le_of_lt hlength hsize
  obtain ⟨hmillis, horder, hsorted⟩ := logTimestamps_millis hfits hruns
  refine ⟨hmillis, horder [0, 0] [] 2 5 rfl ?_, hsorted ?_⟩
  · decide
  · decide

end TelemetryExporter
