import TelemetryExporter.Lib.Series
import TelemetryExporter.Model.PlatformMetrics

/-!
# The platform metrics as a group of instruments

Each metric is an instrument that some events update. This module has the time series of one metric
name: which points the reports of a run give it, and when these are a proper time series.
-/

namespace TelemetryExporter

open Series

/-! ## Time series -/

/-- The value of a data point, with the kind of its metric. -/
inductive Reading where
  | gauge (value : Option NumberValue)
  | counter (value : Option NumberValue)
  | summary (count : Nat) (sum : Float)

namespace Reading

/-- Whether the point is one of a gauge. -/
def isGauge : Reading → Bool
  | .gauge _ => true
  | _ => false

/-- Two points of a counter, or of a summary, whose counts do not decrease. -/
def CountLe : Reading → Reading → Prop
  | .counter (some (.asInt m)), .counter (some (.asInt n)) => m ≤ n
  | .summary m _, .summary n _ => m ≤ n
  | _, _ => False

end Reading

/-- The points of a metric: time and value. The platform metrics have no histograms. -/
def Metric.readings (m : Metric) : List (Nat × Reading) :=
  match m.data with
  | some (.gauge points) => points.map fun p => (p.timeUnixNano, .gauge p.value)
  | some (.sum sum) => sum.dataPoints.map fun p => (p.timeUnixNano, .counter p.value)
  | some (.summary points) => points.map fun p => (p.timeUnixNano, .summary p.count p.sum)
  | _ => []

@[simp] theorem Descriptor.readings_sum (d : Descriptor) (sum : Sum) :
    (d.metric (.sum sum)).readings =
      sum.dataPoints.map fun p => (p.timeUnixNano, .counter p.value) := rfl

@[simp] theorem Descriptor.readings_summary (d : Descriptor) (points : List SummaryDataPoint) :
    (d.metric (.summary points)).readings =
      points.map fun p => (p.timeUnixNano, .summary p.count p.sum) := rfl

@[simp] theorem Descriptor.readings_gauge (d : Descriptor) (points : List NumberDataPoint) :
    (d.metric (.gauge points)).readings =
      points.map fun p => (p.timeUnixNano, .gauge p.value) := rfl

/-- The points of all metrics with the name. -/
def readingsNamed (name : String) (metrics : List Metric) : List (Nat × Reading) :=
  metrics.flatMap fun m => if m.name = name then m.readings else []

/-- No two points have one time and different values; the points of counters and summaries are
strictly increasing in time, and their counts do not decrease. -/
structure ProperSeries (points : List (Nat × Reading)) : Prop where
  consistent : points.Pairwise fun p q => p.1 = q.1 → p.2 = q.2
  increasing : points.Pairwise fun p q =>
    p.2.isGauge = false → q.2.isGauge = false → p.1 < q.1 ∧ p.2.CountLe q.2

/-! ## Instruments -/

variable {E : Type}

/-- An instrument, with what the events record on it. -/
inductive Instrument (E : Type) where
  | counter (counts : E → Bool) (c : Counter)
  | summary (value : E → Option Float) (s : Summary)
  | maxGauge (value : E → Option Int) (g : MaxGauge)

namespace Instrument

/-- The name of the metric. -/
def name : Instrument E → String
  | .counter _ c => c.descriptor.name
  | .summary _ s => s.descriptor.name
  | .maxGauge _ g => g.descriptor.name

/-- The instrument after an event. -/
def record (e : E) : Instrument E → Instrument E
  | .counter counts c => .counter counts (if counts e then c.record 1 else c)
  | .summary value s => .summary value (V1.recordIfSome s (value e))
  | .maxGauge value g =>
    .maxGauge value (match value e with
      | some v => g.record v
      | none => g)

/-- What a report makes of the instrument. -/
def report (start timestamp : Nat) : Instrument E → Option Metric × Instrument E
  | .counter counts c => ((c.report start timestamp).1, .counter counts (c.report start timestamp).2)
  | .summary value s => ((s.report start timestamp).1, .summary value (s.report start timestamp).2)
  | .maxGauge value g => (g.report start timestamp, .maxGauge value g)

/-- Nothing has been recorded yet. -/
def IsNew : Instrument E → Prop
  | .counter _ c => c.count = 0 ∧ c.lastCount = 0 ∧ c.lastReportTimestampNanos = 0
  | .summary _ s => s.count = 0 ∧ s.lastCount = 0 ∧ s.lastReportTimestampNanos = 0
  | .maxGauge _ g => g.max = none

/-- The points of the instrument over a run. -/
def series (advance : E → Option Nat) (start : Nat) :
    Nat → Instrument E → List (Series.Action E) → List (Nat × Reading)
  | _, _, [] => []
  | t, i, .event e :: rest => series advance start ((advance e).getD t) (i.record e) rest
  | t, i, .report :: rest =>
    ((i.report start t).1.map Metric.readings).getD [] ++
      series advance start t (i.report start t).2 rest

/-- The run is one over which the instrument makes a proper time series: reports that find it
changed carry increasing stamps, and reports with one stamp read one gauge. -/
def Proper (advance : E → Option Nat) (t : Nat) (actions : List (Series.Action E)) :
    Instrument E → Prop
  | .counter counts _ => (freshStamps advance counts t false actions).Pairwise (· < ·)
  | .summary value _ =>
    (freshStamps advance (fun e => (value e).isSome) t false actions).Pairwise (· < ·)
  | .maxGauge value _ => Settled advance value t actions

@[simp] theorem record_name (e : E) (i : Instrument E) : (i.record e).name = i.name := by
  cases i with
  | counter counts c =>
    simp only [record, name]
    split <;> rfl
  | summary value s =>
    simp only [record, name, V1.recordIfSome]
    split <;> rfl
  | maxGauge value g =>
    simp only [record, name]
    split <;> rfl

@[simp] theorem report_name (start t : Nat) (i : Instrument E) :
    (i.report start t).2.name = i.name := by
  cases i with
  | counter counts c =>
    simp only [report, name, Counter.report]
    split <;> rfl
  | summary value s =>
    simp only [report, name, Summary.report]
    split <;> rfl
  | maxGauge value g => rfl

theorem report_metric_name {start t : Nat} {i : Instrument E} {m : Metric}
    (h : (i.report start t).1 = some m) : m.name = i.name := by
  cases i with
  | counter counts c =>
    simp only [report, Counter.report] at h
    split at h
    · cases h
      rfl
    · cases h
  | summary value s =>
    simp only [report, Summary.report] at h
    split at h
    · cases h
      rfl
    · cases h
  | maxGauge value g =>
    simp only [report, MaxGauge.report, Option.map_eq_some_iff] at h
    obtain ⟨v, -, rfl⟩ := h
    rfl

end Instrument

/-- The metrics that the reports of a run export. -/
def exportedMetrics (advance : E → Option Nat) (start : Nat) :
    Nat → List (Instrument E) → List (Series.Action E) → List Metric
  | _, _, [] => []
  | t, is, .event e :: rest =>
    exportedMetrics advance start ((advance e).getD t) (is.map (·.record e)) rest
  | t, is, .report :: rest =>
    is.filterMap (fun i => (i.report start t).1) ++
      exportedMetrics advance start t (is.map fun i => (i.report start t).2) rest

section

variable {advance : E → Option Nat} {start : Nat}

theorem readingsNamed_append (name : String) (ms ms' : List Metric) :
    readingsNamed name (ms ++ ms') = readingsNamed name ms ++ readingsNamed name ms' :=
  List.flatMap_append

theorem readingsNamed_report_of_not_mem {name : String} {t : Nat} {is : List (Instrument E)}
    (h : name ∉ is.map Instrument.name) :
    readingsNamed name (is.filterMap fun i => (i.report start t).1) = [] := by
  rw [readingsNamed, List.flatMap_eq_nil_iff]
  intro m hm
  obtain ⟨i, hi, him⟩ := List.mem_filterMap.1 hm
  have hname := Instrument.report_metric_name him
  rw [if_neg]
  rintro rfl
  exact h (hname ▸ List.mem_map_of_mem hi)

theorem readingsNamed_report {i : Instrument E} {t : Nat} {is : List (Instrument E)} (hi : i ∈ is)
    (hnodup : (is.map Instrument.name).Nodup) :
    readingsNamed i.name (is.filterMap fun i => (i.report start t).1) =
      ((i.report start t).1.map Metric.readings).getD [] := by
  induction is with
  | nil => cases hi
  | cons j is ih =>
    rw [List.map_cons, List.nodup_cons] at hnodup
    have hcons : (j :: is).filterMap (fun i => (i.report start t).1) =
        (j.report start t).1.toList ++ is.filterMap fun i => (i.report start t).1 := by
      cases h : (j.report start t).1 <;> simp [h]
    rw [hcons, readingsNamed_append]
    rcases List.mem_cons.1 hi with rfl | hi
    · rw [readingsNamed_report_of_not_mem hnodup.1, List.append_nil]
      cases h : (i.report start t).1 with
      | none => rfl
      | some m => simp [readingsNamed, Instrument.report_metric_name h]
    · have hne : j.name ≠ i.name := fun h => hnodup.1 (h ▸ List.mem_map_of_mem hi)
      rw [ih hi hnodup.2]
      cases h : (j.report start t).1 with
      | none => rfl
      | some m => simp [readingsNamed, Instrument.report_metric_name h, hne]

/-- The points of a name are those of its instrument. -/
theorem readingsNamed_exportedMetrics {i : Instrument E} {t : Nat} {is : List (Instrument E)}
    (hi : i ∈ is) (hnodup : (is.map Instrument.name).Nodup) (actions : List (Series.Action E)) :
    readingsNamed i.name (exportedMetrics advance start t is actions) =
      i.series advance start t actions := by
  induction actions generalizing t i is with
  | nil => rfl
  | cons a rest ih =>
    cases a with
    | event e =>
      have hnames : (is.map (·.record e)).map Instrument.name = is.map Instrument.name := by
        simp [Function.comp_def]
      have := @ih (i.record e) ((advance e).getD t) (is.map (·.record e)) (List.mem_map_of_mem hi)
        (hnames ▸ hnodup)
      rwa [Instrument.record_name] at this
    | report =>
      have hnames : (is.map fun i => (i.report start t).2).map Instrument.name =
          is.map Instrument.name := by
        simp [Function.comp_def]
      have := @ih (i.report start t).2 t (is.map fun i => (i.report start t).2)
        (List.mem_map_of_mem hi) (hnames ▸ hnodup)
      rw [Instrument.report_name] at this
      rw [exportedMetrics, readingsNamed_append, readingsNamed_report hi hnodup, this]
      rfl

theorem readingsNamed_exportedMetrics_of_not_mem {name : String} {t : Nat}
    {is : List (Instrument E)} (h : name ∉ is.map Instrument.name) (actions : List (Series.Action E)) :
    readingsNamed name (exportedMetrics advance start t is actions) = [] := by
  induction actions generalizing t is with
  | nil => rfl
  | cons a rest ih =>
    cases a with
    | event e => exact ih (by simpa [Function.comp_def] using h)
    | report =>
      rw [exportedMetrics, readingsNamed_append, readingsNamed_report_of_not_mem h,
        ih (by simpa [Function.comp_def] using h)]
      rfl

end

/-! ## One instrument -/

/-- The counter as a meter. -/
def Counter.meter (c : Counter) : Meter Int :=
  ⟨c.count, c.lastCount, c.lastReportTimestampNanos, decide (c.count ≠ c.lastCount)⟩

/-- The summary as a meter. -/
def Summary.meter (s : Summary) : Meter (Nat × Float) :=
  ⟨(s.count, s.sum), (s.lastCount, s.lastSum), s.lastReportTimestampNanos,
    decide (s.count ≠ s.lastCount)⟩

theorem reportLastTimeNanos_le : reportLastTimeNanos ≤ maxTimeBetweenDataNanos := by
  unfold reportLastTimeNanos maxTimeBetweenDataNanos
  omega

theorem reportLastTimeNanos_pos : 0 < reportLastTimeNanos := by
  unfold reportLastTimeNanos
  omega

/-- A time from which neither `instruments.rs` nor the report overflows. -/
def InRange (t : Nat) : Prop := t + maxTimeBetweenDataNanos < UInt64.size

theorem inRange_zero : InRange 0 := by
  unfold InRange maxTimeBetweenDataNanos UInt64.size
  omega

/-- The comparison and the difference of `report` do not overflow. -/
theorem fill_eq {lastStamp t : Nat} (hlast : InRange lastStamp) (ht : InRange t) {A : Type}
    (f : Nat → List A) :
    (if wrappingAdd lastStamp maxTimeBetweenDataNanos < t then
        f (wrappingSub t reportLastTimeNanos) else []) =
      if lastStamp + maxTimeBetweenDataNanos < t then f (t - reportLastTimeNanos) else [] := by
  rw [wrappingAdd_of_lt hlast]
  split
  · next hgap =>
    have hle := reportLastTimeNanos_le
    have hlt : t < UInt64.size := Nat.lt_of_le_of_lt (Nat.le_add_right _ _) ht
    rw [wrappingSub_of_le (by omega) hlt]
  · rfl

section

variable {advance : E → Option Nat} {start : Nat}

/-- What an event does to a counter. -/
def countUpdate (counts : E → Bool) (e : E) : Option (Int → Int) :=
  if counts e then some (· + 1) else none

/-- What an event does to a summary. -/
def summaryUpdate (value : E → Option Float) (e : E) : Option (Nat × Float → Nat × Float) :=
  (value e).map fun v total => (total.1 + 1, total.2 + v)

@[simp] theorem countUpdate_isSome (counts : E → Bool) (e : E) :
    (countUpdate counts e).isSome = counts e := by
  unfold countUpdate
  split <;> simp_all

@[simp] theorem summaryUpdate_isSome (value : E → Option Float) (e : E) :
    (summaryUpdate value e).isSome = (value e).isSome := Option.isSome_map

/-- What a report exports of a counter. -/
theorem Counter.readings_report (c : Counter) (t : Nat) :
    ((c.report start t).1.map Metric.readings).getD [] =
      if c.count ≠ c.lastCount then
        (c.points start t).map fun p => (p.timeUnixNano, .counter p.value)
      else [] := by
  unfold Counter.report
  by_cases h : c.count ≠ c.lastCount
  · rw [if_pos h, if_pos h, Option.map_some, Option.getD_some, Descriptor.readings_sum]
  · rw [if_neg h, if_neg h, Option.map_none, Option.getD_none]

theorem Counter.points_eq {c : Counter} {t : Nat} (hlast : InRange c.lastReportTimestampNanos)
    (ht : InRange t) :
    c.points start t =
      (if c.lastReportTimestampNanos + maxTimeBetweenDataNanos < t then
        [Counter.point start (t - reportLastTimeNanos) c.lastCount] else []) ++
        [Counter.point start t c.count] := by
  rw [Counter.points, fill_eq hlast ht fun time => [Counter.point start time c.lastCount]]

theorem Counter.meter_points {c : Counter} {t : Nat} (hlast : InRange c.lastReportTimestampNanos)
    (ht : InRange t) :
    ((c.report start t).1.map Metric.readings).getD [] =
      (c.meter.points maxTimeBetweenDataNanos reportLastTimeNanos t).map fun p =>
        (p.1, Reading.counter (some (.asInt p.2))) := by
  rw [Counter.readings_report, Counter.points_eq hlast ht]
  unfold Meter.points Counter.meter
  by_cases h : c.count ≠ c.lastCount
  · rw [if_pos h, if_pos (decide_eq_true h), List.map_append, List.map_append]
    by_cases hgap : c.lastReportTimestampNanos + maxTimeBetweenDataNanos < t
    · rw [if_pos hgap, if_pos hgap]
      rfl
    · rw [if_neg hgap, if_neg hgap]
      rfl
  · rw [if_neg h, if_neg (by simpa using h)]
    rfl

theorem Counter.meter_reported (c : Counter) (t : Nat) :
    (c.report start t).2.meter = c.meter.reported t := by
  unfold Counter.report Meter.reported Counter.meter
  by_cases h : c.count ≠ c.lastCount <;> simp [h]

theorem Counter.meter_record {c : Counter} (hcount : c.lastCount ≤ c.count) :
    (c.record 1).meter = c.meter.record (some (· + 1)) := by
  have : c.count + 1 ≠ c.lastCount := by omega
  simp [Counter.meter, Counter.record, Meter.record, this]

/-- What a report exports of a summary. -/
theorem Summary.readings_report (s : Summary) (t : Nat) :
    ((s.report start t).1.map Metric.readings).getD [] =
      if s.count ≠ s.lastCount then
        (s.points start t).map fun p => (p.timeUnixNano, .summary p.count p.sum)
      else [] := by
  unfold Summary.report
  by_cases h : s.count ≠ s.lastCount
  · rw [if_pos h, if_pos h, Option.map_some, Option.getD_some, Descriptor.readings_summary]
  · rw [if_neg h, if_neg h, Option.map_none, Option.getD_none]

theorem Summary.points_eq {s : Summary} {t : Nat} (hlast : InRange s.lastReportTimestampNanos)
    (ht : InRange t) :
    s.points start t =
      (if s.lastReportTimestampNanos + maxTimeBetweenDataNanos < t then
        [Summary.point start (t - reportLastTimeNanos) s.lastCount s.lastSum] else []) ++
        [Summary.point start t s.count s.sum] := by
  rw [Summary.points, fill_eq hlast ht fun time => [Summary.point start time s.lastCount s.lastSum]]

theorem Summary.meter_points {s : Summary} {t : Nat} (hlast : InRange s.lastReportTimestampNanos)
    (ht : InRange t) :
    ((s.report start t).1.map Metric.readings).getD [] =
      (s.meter.points maxTimeBetweenDataNanos reportLastTimeNanos t).map fun p =>
        (p.1, Reading.summary p.2.1 p.2.2) := by
  rw [Summary.readings_report, Summary.points_eq hlast ht]
  unfold Meter.points Summary.meter
  by_cases h : s.count ≠ s.lastCount
  · rw [if_pos h, if_pos (decide_eq_true h), List.map_append, List.map_append]
    by_cases hgap : s.lastReportTimestampNanos + maxTimeBetweenDataNanos < t
    · rw [if_pos hgap, if_pos hgap]
      rfl
    · rw [if_neg hgap, if_neg hgap]
      rfl
  · rw [if_neg h, if_neg (by simpa using h)]
    rfl

theorem Summary.meter_reported (s : Summary) (t : Nat) :
    (s.report start t).2.meter = s.meter.reported t := by
  unfold Summary.report Meter.reported Summary.meter
  by_cases h : s.count ≠ s.lastCount <;> simp [h]

theorem Summary.meter_record {s : Summary} (hcount : s.lastCount ≤ s.count) (v : Float) :
    (s.record v).meter = s.meter.record (some fun total => (total.1 + 1, total.2 + v)) := by
  have : s.count + 1 ≠ s.lastCount := by omega
  simp [Summary.meter, Summary.record, Meter.record, this]

/-- The stamps after an event are in range, and so are those of the rest. -/
theorem inRange_after {e : E} {rest : List (Series.Action E)} {t : Nat} (ht : InRange t)
    (hrange : ∀ a ∈ collect advance (.event e :: rest), InRange a) :
    InRange ((advance e).getD t) ∧ ∀ a ∈ collect advance rest, InRange a := by
  simp only [collect, List.mem_append] at hrange
  refine ⟨?_, fun a ha => hrange a (.inr ha)⟩
  cases hadvance : advance e with
  | none => exact ht
  | some s => exact hrange s (.inl (by simp [hadvance]))

/-- The points of a counter are the readings of its meter. -/
theorem series_counter {counts : E → Bool} {c : Counter} {t : Nat} {actions : List (Series.Action E)}
    (hcount : c.lastCount ≤ c.count) (hlast : InRange c.lastReportTimestampNanos) (ht : InRange t)
    (hrange : ∀ a ∈ collect advance actions, InRange a) :
    (Instrument.counter counts c).series advance start t actions =
      (Meter.series advance maxTimeBetweenDataNanos reportLastTimeNanos (countUpdate counts) t c.meter
        actions).map fun p => (p.1, Reading.counter (some (.asInt p.2))) := by
  induction actions generalizing c t with
  | nil => rfl
  | cons a rest ih =>
    cases a with
    | event e =>
      obtain ⟨ht', hrest⟩ := inRange_after ht hrange
      simp only [Instrument.series, Meter.series, Instrument.record, countUpdate]
      split
      · rw [← Counter.meter_record hcount]
        exact ih (c := c.record 1) (Int.le_add_one hcount) hlast ht' hrest
      · exact ih hcount hlast ht' hrest
    | report =>
      simp only [Instrument.series, Meter.series, List.map_append]
      rw [← @Counter.meter_reported start, ← Counter.meter_points hlast ht]
      congr 1
      refine ih ?_ ?_ ht hrange
      · unfold Counter.report
        split
        · exact le_rfl
        · exact hcount
      · unfold Counter.report
        split
        · exact ht
        · exact hlast

/-- The points of a summary are the readings of its meter. -/
theorem series_summary {value : E → Option Float} {s : Summary} {t : Nat}
    {actions : List (Series.Action E)} (hcount : s.lastCount ≤ s.count)
    (hlast : InRange s.lastReportTimestampNanos) (ht : InRange t)
    (hrange : ∀ a ∈ collect advance actions, InRange a) :
    (Instrument.summary value s).series advance start t actions =
      (Meter.series advance maxTimeBetweenDataNanos reportLastTimeNanos (summaryUpdate value) t
        s.meter actions).map fun p => (p.1, Reading.summary p.2.1 p.2.2) := by
  induction actions generalizing s t with
  | nil => rfl
  | cons a rest ih =>
    cases a with
    | event e =>
      obtain ⟨ht', hrest⟩ := inRange_after ht hrange
      simp only [Instrument.series, Meter.series, Instrument.record, summaryUpdate]
      cases value e with
      | some v =>
        simp only [V1.recordIfSome, Option.map_some]
        rw [← Summary.meter_record hcount]
        exact ih (s := s.record v) (Nat.le_succ_of_le hcount) hlast ht' hrest
      | none => exact ih hcount hlast ht' hrest
    | report =>
      simp only [Instrument.series, Meter.series, List.map_append]
      rw [← @Summary.meter_reported start, ← Summary.meter_points hlast ht]
      congr 1
      refine ih ?_ ?_ ht hrange
      · unfold Summary.report
        split
        · exact le_rfl
        · exact hcount
      · unfold Summary.report
        split
        · exact ht
        · exact hlast

theorem series_maxGauge {value : E → Option Int} {g : MaxGauge} (t : Nat)
    (actions : List (Series.Action E)) :
    (Instrument.maxGauge value g).series advance start t actions =
      (gaugeSeries advance value t g.max actions).map fun p =>
        (p.1, Reading.gauge (some (.asInt p.2))) := by
  induction actions generalizing g t with
  | nil => rfl
  | cons a rest ih =>
    cases a with
    | event e =>
      simp only [Instrument.series, gaugeSeries, Instrument.record]
      cases value e with
      | none =>
        rw [ih]
        cases g.max <;> rfl
      | some v =>
        rw [ih]
        cases h : g.max <;> simp [MaxGauge.record, raise, h]
    | report =>
      simp only [Instrument.series, gaugeSeries, List.map_append, Instrument.report]
      rw [ih]
      congr 1
      cases h : g.max <;>
        simp [MaxGauge.report, h, Descriptor.metric, Metric.readings]

/-! ## When a time series is proper -/

theorem properSeries_of_increasing {V : Type} {f : V → Reading} {points : List (Nat × V)}
    (hcount : points.Pairwise fun p q => (f p.2).CountLe (f q.2))
    (hincreasing : points.Pairwise fun p q => p.1 < q.1) :
    ProperSeries (points.map fun p => (p.1, f p.2)) where
  consistent :=
    List.pairwise_map.2 (hincreasing.imp fun hlt heq => absurd heq (Nat.ne_of_lt hlt))
  increasing := List.pairwise_map.2 ((hincreasing.and hcount).imp fun h _ _ => h)

theorem increasing_of_properSeries {V : Type} {f : V → Reading} {points : List (Nat × V)}
    (hf : ∀ v, (f v).isGauge = false) (h : ProperSeries (points.map fun p => (p.1, f p.2))) :
    points.Pairwise fun p q => p.1 < q.1 :=
  (List.pairwise_map.1 h.increasing).imp fun h => (h (hf _) (hf _)).1

/-- A new instrument makes a proper time series over a run exactly if the run is proper for it. -/
theorem properSeries_iff {i : Instrument E} {t : Nat} {actions : List (Series.Action E)} (hnew : i.IsNew)
    (ht : InRange t) (hrange : ∀ a ∈ collect advance actions, InRange a) :
    ProperSeries (i.series advance start t actions) ↔ i.Proper advance t actions := by
  cases i with
  | counter counts c =>
    obtain ⟨hcount, hlastCount, hlast⟩ := hnew
    have hle : c.lastCount ≤ c.count := by rw [hcount, hlastCount]
    have hrangeLast : InRange c.lastReportTimestampNanos := by
      rw [hlast]
      exact inRange_zero
    have hstale : c.meter.fresh = false := by simp [Counter.meter, hcount, hlastCount]
    have hiff := @Meter.series_increasing_iff _ _ advance (countUpdate counts) _ _
      reportLastTimeNanos_le reportLastTimeNanos_pos t c.meter actions
    simp only [countUpdate_isSome, hstale] at hiff
    rw [series_counter hle hrangeLast ht hrange, Instrument.Proper, ← hiff]
    constructor
    · exact increasing_of_properSeries (f := fun n => .counter (some (.asInt n))) fun _ => rfl
    · refine properSeries_of_increasing (f := fun n => .counter (some (.asInt n))) ?_
      refine @Meter.series_monotone _ _ _ _ _ _ _ _ id ?_ t c.meter actions hle
      intro e f n hf
      simp only [countUpdate, Option.ite_none_right_eq_some, Option.some.injEq] at hf
      obtain ⟨-, rfl⟩ := hf
      exact Int.le_add_one le_rfl
  | summary value s =>
    obtain ⟨hcount, hlastCount, hlast⟩ := hnew
    have hle : s.lastCount ≤ s.count := by rw [hcount, hlastCount]
    have hrangeLast : InRange s.lastReportTimestampNanos := by
      rw [hlast]
      exact inRange_zero
    have hstale : s.meter.fresh = false := by simp [Summary.meter, hcount, hlastCount]
    have hiff := @Meter.series_increasing_iff _ _ advance (summaryUpdate value) _ _
      reportLastTimeNanos_le reportLastTimeNanos_pos t s.meter actions
    simp only [summaryUpdate_isSome, hstale] at hiff
    rw [series_summary hle hrangeLast ht hrange, Instrument.Proper, ← hiff]
    constructor
    · exact increasing_of_properSeries (f := fun v : Nat × Float => .summary v.1 v.2) fun _ => rfl
    · refine properSeries_of_increasing (f := fun v : Nat × Float => .summary v.1 v.2) ?_
      refine @Meter.series_monotone _ _ _ _ _ _ _ _ Prod.fst ?_ t s.meter actions hle
      intro e f v hf
      simp only [summaryUpdate, Option.map_eq_some_iff] at hf
      obtain ⟨x, -, rfl⟩ := hf
      exact Nat.le_succ v.1
  | maxGauge value g =>
    rw [series_maxGauge, hnew, Instrument.Proper, ← gaugeSeries_consistent_iff]
    constructor
    · intro h
      exact (List.pairwise_map.1 h.consistent).imp fun hpq htime => by simpa using hpq htime
    · intro h
      refine ⟨List.pairwise_map.2 (h.imp fun hpq htime => ?_), List.pairwise_map.2 ?_⟩
      · simp only at htime ⊢
        rw [hpq htime]
      · exact List.pairwise_of_forall fun _ _ hgauge => by cases hgauge

/-- All time series of a run are proper exactly if the run is proper for each instrument. -/
theorem properSeries_exportedMetrics_iff {t : Nat} {is : List (Instrument E)}
    {actions : List (Series.Action E)} (hnew : ∀ i ∈ is, i.IsNew)
    (hnodup : (is.map Instrument.name).Nodup)
    (ht : InRange t) (hrange : ∀ a ∈ collect advance actions, InRange a) :
    (∀ name, ProperSeries (readingsNamed name (exportedMetrics advance start t is actions))) ↔
      ∀ i ∈ is, i.Proper advance t actions := by
  constructor
  · intro h i hi
    have := h i.name
    rw [readingsNamed_exportedMetrics hi hnodup] at this
    exact (properSeries_iff (hnew i hi) ht hrange).1 this
  · intro h name
    by_cases hname : name ∈ is.map Instrument.name
    · obtain ⟨i, hi, rfl⟩ := List.mem_map.1 hname
      rw [readingsNamed_exportedMetrics hi hnodup]
      exact (properSeries_iff (hnew i hi) ht hrange).2 (h i hi)
    · rw [readingsNamed_exportedMetrics_of_not_mem hname]
      exact ⟨.nil, .nil⟩

end

end TelemetryExporter
