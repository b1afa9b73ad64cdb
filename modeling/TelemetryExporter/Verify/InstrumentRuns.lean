import Mathlib.Data.List.Chain
import TelemetryExporter.Verify.Instruments

/-!
# Runs of a counter and of a summary

Calls of `record` and `report` in any order. `Counter` and `Summary` differ in what they count and
in their data points; as `Metered` instruments they are one.
-/

namespace TelemetryExporter

open Series

/-- A call of `record` or of `report`. -/
inductive InstrumentCall (A : Type) where
  | record (value : A)
  | report (start timestamp : Nat)

/-- What a call has done. -/
inductive InstrumentEntry (A : Type) where
  | recorded (value : A)
  | reported (timestamp : Nat) (metric : Option Metric)

/-! ## The log of a run -/

section

variable {A : Type}

/-- The values recorded. -/
def recordedValues : List (InstrumentEntry A) → List A
  | [] => []
  | .recorded value :: rest => value :: recordedValues rest
  | .reported .. :: rest => recordedValues rest

/-- Whether something has been recorded since the last `Some`. -/
def recordedSince (fresh : Bool) : List (InstrumentEntry A) → Bool
  | [] => fresh
  | .recorded _ :: rest => recordedSince true rest
  | .reported _ (some _) :: rest => recordedSince false rest
  | .reported _ none :: rest => recordedSince fresh rest

/-- The timestamps of the reports that return `Some`. -/
def reportTimes : List (InstrumentEntry A) → List Nat
  | [] => []
  | .recorded _ :: rest => reportTimes rest
  | .reported timestamp (some _) :: rest => timestamp :: reportTimes rest
  | .reported _ none :: rest => reportTimes rest

/-- The points of all metrics returned. -/
def returnedReadings : List (InstrumentEntry A) → List (Nat × Reading)
  | [] => []
  | .recorded _ :: rest => returnedReadings rest
  | .reported _ metric :: rest => (metric.map Metric.readings).getD [] ++ returnedReadings rest

theorem mem_reportTimes {log before after : List (InstrumentEntry A)} {t : Nat} {m : Metric}
    (h : log = before ++ .reported t (some m) :: after) : t ∈ reportTimes log := by
  subst h
  induction before with
  | nil => exact List.mem_cons_self
  | cons entry before ih =>
    cases entry with
    | recorded value => exact ih
    | reported timestamp metric =>
      cases metric with
      | none => exact ih
      | some m' => exact List.mem_cons_of_mem _ ih

/-- What the reports of a run say. `total` is the value after some records. -/
structure FaithfulReports (total : List A → Reading) (log : List (InstrumentEntry A)) : Prop where
  reported_iff : ∀ before t metric after, log = before ++ .reported t metric :: after →
    (metric.isSome = true ↔ recordedSince false before = true)
  exact_total : ∀ before t m after, log = before ++ .reported t (some m) :: after →
    m.readings.getLast? = some (t, total (recordedValues before))
  increasing : (returnedReadings log).Pairwise fun p q => p.1 < q.1
  monotone : (returnedReadings log).Pairwise fun p q => p.2.CountLe q.2
  close : ((0, total []) :: returnedReadings log).IsChain fun p q =>
    p.2 = q.2 ∨ q.1 ≤ p.1 + maxTimeBetweenDataNanos
  no_underflow : ∀ t m, .reported t (some m) ∈ log → 1 < m.readings.length →
    reportLastTimeNanos ≤ t

end

/-! ## Metered instruments -/

/-- An instrument that is read as a `Meter`, as long as it is sound. -/
structure Metered (I A V : Type) where
  record : I → A → I
  report : I → Nat → Nat → Option Metric × I
  meter : I → Meter V
  update : A → V → V
  reading : V → Reading
  Sound : I → Prop
  sound_record : ∀ {i}, Sound i → ∀ a, Sound (record i a)
  sound_report : ∀ {i}, Sound i → ∀ start t, Sound (report i start t).2
  meter_record : ∀ {i}, Sound i → ∀ a, meter (record i a) = (meter i).record (some (update a))
  meter_report : ∀ i start t, meter (report i start t).2 = (meter i).reported t
  isSome_report : ∀ i start t, (report i start t).1.isSome = (meter i).fresh
  readings_report : ∀ i start t, InRange (meter i).lastStamp → InRange t →
    ((report i start t).1.map Metric.readings).getD [] =
      ((meter i).points maxTimeBetweenDataNanos reportLastTimeNanos t).map fun p =>
        (p.1, reading p.2)

/-- The counter, with records of 1. -/
def counters : Metered Counter Unit Int where
  record c _ := c.record 1
  report := Counter.report
  meter := Counter.meter
  update _ n := n + 1
  reading n := .counter (some (.asInt n))
  Sound c := c.lastCount ≤ c.count
  sound_record h _ := Int.le_add_one h
  sound_report {c} h start t := by
    unfold Counter.report
    split
    · exact le_rfl
    · exact h
  meter_record h _ := Counter.meter_record h
  meter_report c start t := Counter.meter_reported c t
  isSome_report c start t := by
    unfold Counter.report Counter.meter
    by_cases h : c.count ≠ c.lastCount <;> simp [h]
  readings_report c start t hlast ht := Counter.meter_points hlast ht

/-- The summary. -/
def summaries : Metered Summary Float (Nat × Float) where
  record := Summary.record
  report := Summary.report
  meter := Summary.meter
  update value total := (total.1 + 1, total.2 + value)
  reading total := .summary total.1 total.2
  Sound s := s.lastCount ≤ s.count
  sound_record h _ := Nat.le_succ_of_le h
  sound_report {s} h start t := by
    unfold Summary.report
    split
    · exact le_rfl
    · exact h
  meter_record h value := Summary.meter_record h value
  meter_report s start t := Summary.meter_reported s t
  isSome_report s start t := by
    unfold Summary.report Summary.meter
    by_cases h : s.count ≠ s.lastCount <;> simp [h]
  readings_report s start t hlast ht := Summary.meter_points hlast ht

namespace Metered

section

variable {I A V : Type} (c : Metered I A V)

/-- The log of a run. -/
def run : I → List (InstrumentCall A) → List (InstrumentEntry A)
  | _, [] => []
  | i, .record value :: rest => .recorded value :: run (c.record i value) rest
  | i, .report start timestamp :: rest =>
    let (metric, i) := c.report i start timestamp
    .reported timestamp metric :: run i rest

/-- The value after some more records. -/
def total (v : V) (values : List A) : V := values.foldl (fun v value => c.update value v) v

/-- The calls as actions: a report sets the stamp before it reads. -/
def actionsOf : List (InstrumentCall A) → List (Series.Action (A ⊕ Nat))
  | [] => []
  | .record value :: rest => .event (.inl value) :: actionsOf rest
  | .report _ timestamp :: rest => .event (.inr timestamp) :: .report :: actionsOf rest

/-- The stamp that a report sets. -/
def stampOf : A ⊕ Nat → Option Nat
  | .inl _ => none
  | .inr timestamp => some timestamp

/-- The update of a record. -/
def updateOf : A ⊕ Nat → Option (V → V)
  | .inl value => some (c.update value)
  | .inr _ => none

variable {c} {i : I}

theorem reportTimes_run (h : c.Sound i) (calls : List (InstrumentCall A)) (t : Nat) :
    reportTimes (c.run i calls) =
      freshStamps stampOf (fun e => (c.updateOf e).isSome) t (c.meter i).fresh (actionsOf calls) := by
  induction calls generalizing i t with
  | nil => rfl
  | cons call rest ih =>
    cases call with
    | record value =>
      have hrest := ih (c.sound_record h value) t
      rw [c.meter_record h value, Meter.record_fresh] at hrest
      exact hrest
    | report start timestamp =>
      have hrest := ih (c.sound_report h start timestamp) timestamp
      rw [c.meter_report, Meter.reported_fresh] at hrest
      have hsome := c.isSome_report i start timestamp
      change reportTimes (.reported timestamp (c.report i start timestamp).1 :: _) =
        (if ((c.meter i).fresh || false) = true then [timestamp] else []) ++
          freshStamps stampOf (fun e => (c.updateOf e).isSome) timestamp false (actionsOf rest)
      rw [Bool.or_false, ← hrest, ← hsome]
      cases (c.report i start timestamp).1 <;> rfl

/-- The stamps stay in range over a report. -/
theorem inRange_report (hlast : InRange (c.meter i).lastStamp) {start timestamp : Nat}
    {rest : List (InstrumentCall A)}
    (hrange : ∀ t ∈ reportTimes (c.run i (.report start timestamp :: rest)), InRange t) :
    ((c.meter i).fresh = true → InRange timestamp) ∧
      InRange (c.meter (c.report i start timestamp).2).lastStamp ∧
      ∀ t ∈ reportTimes (c.run (c.report i start timestamp).2 rest), InRange t := by
  change ∀ t ∈ reportTimes (.reported timestamp (c.report i start timestamp).1 :: _), InRange t
    at hrange
  have hsome := c.isSome_report i start timestamp
  rw [c.meter_report]
  cases hmetric : (c.report i start timestamp).1 with
  | none =>
    rw [hmetric] at hsome hrange
    have hstale : (c.meter i).fresh = false := hsome.symm
    refine ⟨fun hfresh => ?_, ?_, hrange⟩
    · rw [hstale] at hfresh
      cases hfresh
    · rwa [Meter.reported, if_neg (by simp [hstale])]
  | some m =>
    rw [hmetric] at hsome hrange
    have hnow : InRange timestamp := hrange timestamp List.mem_cons_self
    refine ⟨fun _ => hnow, ?_, fun t ht => hrange t (List.mem_cons_of_mem _ ht)⟩
    have hfresh : (c.meter i).fresh = true := hsome.symm
    rwa [Meter.reported, if_pos hfresh]

theorem readings_report_of_inRange (hlast : InRange (c.meter i).lastStamp) {start timestamp : Nat}
    (hnow : (c.meter i).fresh = true → InRange timestamp) :
    ((c.report i start timestamp).1.map Metric.readings).getD [] =
      ((c.meter i).points maxTimeBetweenDataNanos reportLastTimeNanos timestamp).map fun p =>
        (p.1, c.reading p.2) := by
  cases hfresh : (c.meter i).fresh with
  | true => exact c.readings_report i start timestamp hlast (hnow hfresh)
  | false =>
    have hnone : (c.report i start timestamp).1 = none := by
      rw [← Option.not_isSome_iff_eq_none, c.isSome_report, hfresh]
      exact Bool.false_ne_true
    rw [hnone, Meter.points_of_stale hfresh]
    rfl

/-- The points returned are the readings of the meter. -/
theorem returnedReadings_run (h : c.Sound i) (hlast : InRange (c.meter i).lastStamp)
    {calls : List (InstrumentCall A)} (hrange : ∀ t ∈ reportTimes (c.run i calls), InRange t)
    (t : Nat) :
    returnedReadings (c.run i calls) =
      (Meter.series stampOf maxTimeBetweenDataNanos reportLastTimeNanos c.updateOf t (c.meter i)
        (actionsOf calls)).map fun p => (p.1, c.reading p.2) := by
  induction calls generalizing i t with
  | nil => rfl
  | cons call rest ih =>
    cases call with
    | record value =>
      have hmeter := c.meter_record h value
      have hlast' : InRange (c.meter (c.record i value)).lastStamp := by
        rwa [hmeter, Meter.record_lastStamp]
      have hrest := ih (c.sound_record h value) hlast' hrange t
      rw [hmeter] at hrest
      exact hrest
    | report start timestamp =>
      obtain ⟨hnow, hlast', hrange'⟩ := inRange_report hlast hrange
      have hrest := ih (c.sound_report h start timestamp) hlast' hrange' timestamp
      rw [c.meter_report] at hrest
      change ((c.report i start timestamp).1.map Metric.readings).getD [] ++
          returnedReadings (c.run (c.report i start timestamp).2 rest) =
        ((c.meter i).points maxTimeBetweenDataNanos reportLastTimeNanos timestamp ++
          Meter.series stampOf maxTimeBetweenDataNanos reportLastTimeNanos c.updateOf timestamp
            ((c.meter i).reported timestamp) (actionsOf rest)).map fun p => (p.1, c.reading p.2)
      rw [readings_report_of_inRange hlast hnow, hrest, List.map_append]

/-- The instrument that a report finds. -/
theorem run_split (h : c.Sound i) (hlast : InRange (c.meter i).lastStamp)
    {calls : List (InstrumentCall A)} (hrange : ∀ t ∈ reportTimes (c.run i calls), InRange t)
    {before after : List (InstrumentEntry A)} {t : Nat} {metric : Option Metric}
    (hsplit : c.run i calls = before ++ .reported t metric :: after) :
    ∃ j start, metric = (c.report j start t).1 ∧ InRange (c.meter j).lastStamp ∧
      (c.meter j).fresh = recordedSince (c.meter i).fresh before ∧
      (c.meter j).value = c.total (c.meter i).value (recordedValues before) := by
  induction calls generalizing i before with
  | nil => simp [run] at hsplit
  | cons call rest ih =>
    cases call with
    | record value =>
      cases before with
      | nil => cases hsplit
      | cons entry before =>
        obtain ⟨rfl, hrest⟩ := List.cons.inj hsplit
        have hmeter := c.meter_record h value
        have hlast' : InRange (c.meter (c.record i value)).lastStamp := by
          rwa [hmeter, Meter.record_lastStamp]
        obtain ⟨j, start, hmetric, hj, hfresh, hvalue⟩ :=
          ih (c.sound_record h value) hlast' hrange hrest
        refine ⟨j, start, hmetric, hj, ?_, ?_⟩
        · rw [hfresh, hmeter, Meter.record_fresh]
          simp [recordedSince]
        · rw [hvalue, hmeter]
          rfl
    | report start timestamp =>
      cases before with
      | nil =>
        obtain ⟨hentry, -⟩ := List.cons.inj hsplit
        cases hentry
        exact ⟨i, start, rfl, hlast, rfl, rfl⟩
      | cons entry before =>
        obtain ⟨rfl, hrest⟩ := List.cons.inj hsplit
        obtain ⟨-, hlast', hrange'⟩ := inRange_report hlast hrange
        obtain ⟨j, start', hmetric, hj, hfresh, hvalue⟩ :=
          ih (c.sound_report h start timestamp) hlast' hrange' hrest
        rw [c.meter_report] at hfresh hvalue
        have hsome := c.isSome_report i start timestamp
        refine ⟨j, start', hmetric, hj, ?_, ?_⟩
        · rw [hfresh, Meter.reported_fresh]
          cases hm : (c.report i start timestamp).1 with
          | none =>
            rw [hm] at hsome
            rw [recordedSince, ← hsome]
            rfl
          | some m => rfl
        · rw [hvalue]
          have hsame : ((c.meter i).reported timestamp).value = (c.meter i).value := by
            unfold Meter.reported
            split <;> rfl
          rw [hsame]
          rfl

/-- The points of a metric that a run returns. -/
theorem readings_of_split (h : c.Sound i) (hlast : InRange (c.meter i).lastStamp)
    {calls : List (InstrumentCall A)} (hrange : ∀ t ∈ reportTimes (c.run i calls), InRange t)
    {before after : List (InstrumentEntry A)} {t : Nat} {m : Metric}
    (hsplit : c.run i calls = before ++ .reported t (some m) :: after) :
    ∃ (lastStamp : Nat) (last : V), m.readings =
      (if lastStamp + maxTimeBetweenDataNanos < t then
        [(t - reportLastTimeNanos, c.reading last)] else []) ++
        [(t, c.reading (c.total (c.meter i).value (recordedValues before)))] := by
  obtain ⟨j, start, hmetric, hj, -, hvalue⟩ := run_split h hlast hrange hsplit
  have hnow : InRange t := hrange t (mem_reportTimes hsplit)
  have hfresh : (c.meter j).fresh = true := by
    rw [← c.isSome_report j start t, ← hmetric]
    rfl
  have hreadings := c.readings_report j start t hj hnow
  rw [← hmetric, Option.map_some, Option.getD_some, Meter.points, if_pos hfresh, hvalue] at hreadings
  refine ⟨(c.meter j).lastStamp, (c.meter j).last, ?_⟩
  rw [hreadings, List.map_append]
  by_cases hgap : (c.meter j).lastStamp + maxTimeBetweenDataNanos < t
  · rw [if_pos hgap, if_pos hgap]
    rfl
  · rw [if_neg hgap, if_neg hgap]
    rfl

/-- The reports of a run from a new instrument are faithful. -/
theorem faithful {C : Type} [Preorder C] {count : V → C} {v : V} (h : c.Sound i)
    (hnew : c.meter i = ⟨v, v, 0, false⟩)
    (hupdate : ∀ value v, count v ≤ count (c.update value v))
    (hle : ∀ v w, count v ≤ count w → (c.reading v).CountLe (c.reading w))
    {calls : List (InstrumentCall A)}
    (hincreasing : (reportTimes (c.run i calls)).Pairwise (· < ·))
    (hrange : ∀ t ∈ reportTimes (c.run i calls), InRange t) :
    FaithfulReports (fun values => c.reading (c.total v values)) (c.run i calls) := by
  have hlast : InRange (c.meter i).lastStamp := by
    rw [hnew]
    exact inRange_zero
  have hreadings := returnedReadings_run h hlast hrange 0
  refine ⟨?_, ?_, ?_, ?_, ?_, ?_⟩
  · intro before t metric after hsplit
    obtain ⟨j, start, rfl, -, hfresh, -⟩ := run_split h hlast hrange hsplit
    rw [c.isSome_report, hfresh, hnew]
  · intro before t m after hsplit
    obtain ⟨lastStamp, last, hm⟩ := readings_of_split h hlast hrange hsplit
    rw [hm, hnew]
    simp
  · rw [hreadings, List.pairwise_map]
    rw [reportTimes_run h calls 0] at hincreasing
    exact (Meter.series_increasing_iff reportLastTimeNanos_le reportLastTimeNanos_pos 0 (c.meter i)
      (actionsOf calls)).2 hincreasing
  · rw [hreadings, List.pairwise_map]
    have hmonotone : (Meter.series stampOf maxTimeBetweenDataNanos reportLastTimeNanos c.updateOf 0
        (c.meter i) (actionsOf calls)).Pairwise fun p q => count p.2 ≤ count q.2 := by
      refine Meter.series_monotone ?_ 0 (c.meter i) (actionsOf calls) ?_
      · intro e f v hf
        cases e with
        | inl value =>
          cases hf
          exact hupdate value v
        | inr timestamp => cases hf
      · rw [hnew]
    exact hmonotone.imp fun hpq => hle _ _ hpq
  · have hclose := @Meter.series_close _ _ stampOf c.updateOf _ _ reportLastTimeNanos_le 0 (c.meter i)
      (actionsOf calls)
    rw [hnew] at hclose
    rw [hreadings, hnew]
    exact List.isChain_map_of_isChain (fun p : Nat × V => (p.1, c.reading p.2))
      (fun p q hpq => hpq.imp (congrArg c.reading) id) hclose
  · intro t m hm hlength
    obtain ⟨before, after, hsplit⟩ := List.append_of_mem hm
    obtain ⟨lastStamp, last, hreadings⟩ := readings_of_split h hlast hrange hsplit
    have hle := reportLastTimeNanos_le
    by_cases hgap : lastStamp + maxTimeBetweenDataNanos < t
    · omega
    · rw [hreadings, if_neg hgap] at hlength
      exact absurd hlength (Nat.lt_irrefl 1)

end

end Metered

theorem total_counters (values : List Unit) : counters.total 0 values = values.length := by
  have hfold (n : Int) : counters.total n values = n + values.length := by
    induction values generalizing n with
    | nil => simp [Metered.total]
    | cons value values ih =>
      have hcons : counters.total n (value :: values) = counters.total (n + 1) values := rfl
      rw [hcons, ih, List.length_cons]
      omega
  rw [hfold, Int.zero_add]

theorem total_summaries (values : List Float) :
    summaries.total (0, 0) values = (values.length, values.foldl (· + ·) 0) := by
  have hfold (n : Nat) (sum : Float) :
      summaries.total (n, sum) values = (n + values.length, values.foldl (· + ·) sum) := by
    induction values generalizing n sum with
    | nil => rfl
    | cons value values ih =>
      have hcons : summaries.total (n, sum) (value :: values) =
          summaries.total (n + 1, sum + value) values := rfl
      rw [hcons, ih, List.length_cons, List.foldl_cons, Nat.add_right_comm, Nat.add_assoc]
  rw [hfold, Nat.zero_add]

/-- The reports of a new counter and of a new summary are faithful. -/
theorem instruments_faithful (d : Descriptor) :
    (∀ calls, (reportTimes (counters.run { descriptor := d } calls)).Pairwise (· < ·) →
      (∀ t ∈ reportTimes (counters.run { descriptor := d } calls), InRange t) →
      FaithfulReports (fun values => .counter (some (.asInt values.length)))
        (counters.run { descriptor := d } calls)) ∧
    ∀ calls, (reportTimes (summaries.run { descriptor := d } calls)).Pairwise (· < ·) →
      (∀ t ∈ reportTimes (summaries.run { descriptor := d } calls), InRange t) →
      FaithfulReports (fun values => .summary values.length (values.foldl (· + ·) 0))
        (summaries.run { descriptor := d } calls) := by
  refine ⟨fun calls hincreasing hrange => ?_, fun calls hincreasing hrange => ?_⟩
  · have hfaithful := @Metered.faithful _ _ _ counters { descriptor := d } _ _ id 0 le_rfl rfl
      (fun _ _ => Int.le_add_one le_rfl) (fun _ _ hle => hle) calls hincreasing hrange
    have htotal : (fun values => counters.reading (counters.total 0 values)) =
        fun values => .counter (some (.asInt values.length)) := by
      funext values
      rw [total_counters]
      rfl
    rwa [htotal] at hfaithful
  · have hfaithful := @Metered.faithful _ _ _ summaries { descriptor := d } _ _ Prod.fst (0, 0) le_rfl
      rfl (fun _ v => Nat.le_succ v.1) (fun _ _ hle => hle) calls hincreasing hrange
    have htotal : (fun values => summaries.reading (summaries.total (0, 0) values)) =
        fun values => .summary values.length (values.foldl (· + ·) 0) := by
      funext values
      rw [total_summaries]
      rfl
    rwa [htotal] at hfaithful

/-- Three reports with something new, the second one after a gap, and one with nothing new. -/
def sampleReports : List (InstrumentCall Unit) :=
  [.record (), .report 0 100000000000, .report 0 110000000000, .record (), .record (),
    .report 0 300000000000, .record (), .report 0 301000000000]

theorem reportTimes_sampleReports :
    reportTimes (counters.run { descriptor := ⟨"faas.errors", "Number of errors", ""⟩ }
      sampleReports) = [100000000000, 300000000000, 301000000000] := by
  decide

theorem instruments_faithful_counter :
    reportTimes (counters.run { descriptor := ⟨"faas.errors", "Number of errors", ""⟩ }
        sampleReports) = [100000000000, 300000000000, 301000000000] ∧
      FaithfulReports (fun values => .counter (some (.asInt values.length)))
        (counters.run { descriptor := ⟨"faas.errors", "Number of errors", ""⟩ } sampleReports) := by
  refine ⟨reportTimes_sampleReports,
    (instruments_faithful ⟨"faas.errors", "Number of errors", ""⟩).1 _ ?_ ?_⟩
  · rw [reportTimes_sampleReports]
    decide
  · rw [reportTimes_sampleReports]
    simp only [List.mem_cons, List.not_mem_nil, or_false]
    unfold InRange maxTimeBetweenDataNanos UInt64.size
    omega

end TelemetryExporter
