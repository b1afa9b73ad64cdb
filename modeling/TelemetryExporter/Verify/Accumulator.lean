import TelemetryExporter.Verify.OtelMetrics

/-!
# The points of the function's metrics

`OtelMetricsAccumulator` treats the four kinds of metrics in the same way, up to the metadata it
keeps for a name. A `Channel` is one kind. What a run exports for one name and one time series is
what a run of this time series exports, whatever the other metrics are.
-/

namespace TelemetryExporter

open DataPoint

variable [External]

/-! ## Runs -/

/-- A call of `OtelMetricsAccumulator::accumulate` or of `export`. -/
inductive OtelMetricsCall where
  | accumulate (metrics : List Metric)
  | export

/-- A run: the exported metrics, and the accumulator at the end. -/
def otelMetricsRun :
    OtelMetricsAccumulator → List OtelMetricsCall → List Metric × OtelMetricsAccumulator
  | acc, [] => ([], acc)
  | acc, .accumulate metrics :: rest => otelMetricsRun (acc.accumulate metrics) rest
  | acc, .export :: rest =>
    let (metrics, acc) := acc.exportMetrics
    let (more, acc) := otelMetricsRun acc rest
    (metrics ++ more, acc)

omit [External] in
/-- The metrics received. -/
def receivedMetrics : List OtelMetricsCall → List Metric
  | [] => []
  | .accumulate metrics :: rest => metrics ++ receivedMetrics rest
  | .export :: rest => receivedMetrics rest

/-! ## Channels -/

/-- One kind of metrics: the table it is accumulated in, and what a metric of this kind holds. The
laws say what `accumulate_metric` and `export` do to this kind. -/
structure Channel (M P : Type) [DataPoint P] where
  table : OtelMetricsAccumulator → Table String (MetricAccumulator M P)
  content : Metric → Option (M × List P)
  isCumulative : M → Bool
  table_new : table {} = .empty
  accumulate_none : ∀ acc m, content m = none → table (acc.accumulateMetric m) = table acc
  accumulate_some : ∀ acc m md dps, content m = some (md, dps) →
    table (acc.accumulateMetric m) =
      (table acc).entry m.name (OtelMetricsAccumulator.newAccumulator m md) fun ma =>
        ma.accumulatePoints (isCumulative md) dps
  export_table : ∀ acc : OtelMetricsAccumulator, table acc.exportMetrics.2 =
    ((table acc).iterMut fun ma => ((), (ma.takePoints (isCumulative ma.metadata)).2)).2
  export_metrics : ∀ acc : OtelMetricsAccumulator,
    acc.exportMetrics.1.filterMap (fun m => (content m).map fun content => (m.name, content)) =
      (table acc).rows.map fun row =>
        (row.2.name, row.2.metadata, (row.2.takePoints (isCumulative row.2.metadata)).1)

omit [External] in
theorem exportGauge_eq (ma : MetricAccumulator GaugeMetadata NumberDataPoint) :
    exportGauge ma = (ma.makeMetric (.gauge (ma.takePoints false).1), (ma.takePoints false).2) := rfl

omit [External] in
theorem exportSum_eq (ma : MetricAccumulator SumMetadata NumberDataPoint) :
    exportSum ma =
      let taken := ma.takePoints (ma.metadata.aggregationTemporality = cumulative)
      (ma.makeMetric (.sum
        { dataPoints := taken.1
          aggregationTemporality := ma.metadata.aggregationTemporality
          isMonotonic := ma.metadata.isMonotonic }), taken.2) := by
  unfold exportSum
  by_cases h : ma.metadata.aggregationTemporality = cumulative
  · simp only [if_pos h, decide_eq_true h]
    rfl
  · simp only [if_neg h, decide_eq_false h]
    rfl

omit [External] in
theorem exportHistogram_eq (ma : MetricAccumulator HistogramMetadata HistogramDataPoint) :
    exportHistogram ma =
      let taken := ma.takePoints (ma.metadata.aggregationTemporality = cumulative)
      (ma.makeMetric (.histogram
        { dataPoints := taken.1
          aggregationTemporality := ma.metadata.aggregationTemporality }), taken.2) := by
  unfold exportHistogram
  by_cases h : ma.metadata.aggregationTemporality = cumulative
  · simp only [if_pos h, decide_eq_true h]
    rfl
  · simp only [if_neg h, decide_eq_false h]
    rfl

omit [External] in
theorem exportSummary_eq (ma : MetricAccumulator SummaryMetadata SummaryDataPoint) :
    exportSummary ma = (ma.makeMetric (.summary (ma.takePoints true).1), (ma.takePoints true).2) :=
  rfl

namespace Channel

/-- The gauges. -/
def gauges : Channel GaugeMetadata NumberDataPoint where
  table acc := acc.gauges
  content m := match m.data with
    | some (.gauge dataPoints) => some ({}, dataPoints)
    | _ => none
  isCumulative _ := false
  table_new := rfl
  accumulate_none acc m h := by
    unfold OtelMetricsAccumulator.accumulateMetric
    split <;> simp_all
  accumulate_some acc m md dps h := by
    unfold OtelMetricsAccumulator.accumulateMetric
    split <;> simp_all [MetricAccumulator.accumulatePoints]
  export_table acc := rfl
  export_metrics acc := by
    simp [OtelMetricsAccumulator.exportMetrics, Table.iterMut, List.filterMap_map, exportGauge_eq,
      exportSum_eq, exportHistogram_eq, exportSummary_eq, MetricAccumulator.makeMetric]

/-- The sums. -/
def sums : Channel SumMetadata NumberDataPoint where
  table acc := acc.sums
  content m := match m.data with
    | some (.sum s) => some (⟨s.aggregationTemporality, s.isMonotonic⟩, s.dataPoints)
    | _ => none
  isCumulative md := md.aggregationTemporality = cumulative
  table_new := rfl
  accumulate_none acc m h := by
    unfold OtelMetricsAccumulator.accumulateMetric
    split <;> simp_all
  accumulate_some acc m md dps h := by
    unfold OtelMetricsAccumulator.accumulateMetric
    split
    case h_2 s hdata =>
      rw [hdata] at h
      cases h
      simp [MetricAccumulator.accumulatePoints]
    all_goals simp_all
  export_table acc := by
    simp [OtelMetricsAccumulator.exportMetrics, Table.iterMut, exportSum_eq]
  export_metrics acc := by
    simp [OtelMetricsAccumulator.exportMetrics, Table.iterMut, List.filterMap_map, exportGauge_eq,
      exportSum_eq, exportHistogram_eq, exportSummary_eq, MetricAccumulator.makeMetric]

/-- The histograms. -/
def histograms : Channel HistogramMetadata HistogramDataPoint where
  table acc := acc.histograms
  content m := match m.data with
    | some (.histogram h) => some (⟨h.aggregationTemporality⟩, h.dataPoints)
    | _ => none
  isCumulative md := md.aggregationTemporality = cumulative
  table_new := rfl
  accumulate_none acc m h := by
    unfold OtelMetricsAccumulator.accumulateMetric
    split <;> simp_all
  accumulate_some acc m md dps h := by
    unfold OtelMetricsAccumulator.accumulateMetric
    split
    case h_3 s hdata =>
      rw [hdata] at h
      cases h
      simp [MetricAccumulator.accumulatePoints]
    all_goals simp_all
  export_table acc := by
    simp [OtelMetricsAccumulator.exportMetrics, Table.iterMut, exportHistogram_eq]
  export_metrics acc := by
    simp [OtelMetricsAccumulator.exportMetrics, Table.iterMut, List.filterMap_map, exportGauge_eq,
      exportSum_eq, exportHistogram_eq, exportSummary_eq, MetricAccumulator.makeMetric]

/-- The summaries. -/
def summaries : Channel SummaryMetadata SummaryDataPoint where
  table acc := acc.summaries
  content m := match m.data with
    | some (.summary dataPoints) => some ({}, dataPoints)
    | _ => none
  isCumulative _ := true
  table_new := rfl
  accumulate_none acc m h := by
    unfold OtelMetricsAccumulator.accumulateMetric
    split <;> simp_all
  accumulate_some acc m md dps h := by
    unfold OtelMetricsAccumulator.accumulateMetric
    split <;> simp_all [MetricAccumulator.accumulatePoints]
  export_table acc := rfl
  export_metrics acc := by
    simp [OtelMetricsAccumulator.exportMetrics, Table.iterMut, List.filterMap_map, exportGauge_eq,
      exportSum_eq, exportHistogram_eq, exportSummary_eq, MetricAccumulator.makeMetric]

theorem exists_sum {m : Metric} {md : SumMetadata} {dps : List NumberDataPoint}
    (h : sums.content m = some (md, dps)) :
    ∃ s, m.data = some (.sum s) ∧ md.aggregationTemporality = s.aggregationTemporality := by
  simp only [sums] at h
  split at h
  · next s hdata =>
    cases h
    exact ⟨s, hdata, rfl⟩
  · cases h

theorem exists_histogram {m : Metric} {md : HistogramMetadata} {dps : List HistogramDataPoint}
    (h : histograms.content m = some (md, dps)) :
    ∃ h, m.data = some (.histogram h) ∧ md.aggregationTemporality = h.aggregationTemporality := by
  simp only [histograms] at h
  split at h
  · next s hdata =>
    cases h
    exact ⟨s, hdata, rfl⟩
  · cases h

section

variable {M P : Type} [DataPoint P] (c : Channel M P)

/-- The points of the metrics of this kind with the name, that have the identity. -/
def pointsOf (name : String) (id : TimeSeriesId) (metrics : List Metric) : List P :=
  metrics.flatMap fun m =>
    if m.name = name then
      ((c.content m).elim [] Prod.snd).filter fun dp => timeSeriesId dp = id
    else []

/-- The metadata of the metrics of this kind with the name. -/
def metadataOf (name : String) (metrics : List Metric) : List M :=
  metrics.filterMap fun m => if m.name = name then (c.content m).map Prod.fst else none

/-- The time series with the identity, of the metric with the name. -/
def series (acc : OtelMetricsAccumulator) (name : String) (id : TimeSeriesId) : TimeSeries P :=
  ((c.table acc).get? name).elim {} fun ma => ma.series id

/-- The metadata kept with the name. -/
def stored (acc : OtelMetricsAccumulator) (name : String) : Option M :=
  ((c.table acc).get? name).map fun ma => ma.metadata

/-- Everything is stored under its key. -/
def WellKept (acc : OtelMetricsAccumulator) : Prop :=
  ∀ row ∈ (c.table acc).rows, row.2.name = row.1 ∧ row.2.WellKeyed

/-- The metrics with the name that bring points are all cumulative, or all not. -/
def Agree (isCumulative : Bool) (name : String) (metrics : List Metric) : Prop :=
  ∀ m ∈ metrics, m.name = name → ∀ md dps, c.content m = some (md, dps) → dps ≠ [] →
    c.isCumulative md = isCumulative

variable {c} {acc : OtelMetricsAccumulator} {name : String} {isCumulative : Bool}

theorem pointsOf_append (id : TimeSeriesId) (as bs : List Metric) :
    c.pointsOf name id (as ++ bs) = c.pointsOf name id as ++ c.pointsOf name id bs :=
  List.flatMap_append

theorem metadataOf_append (as bs : List Metric) :
    c.metadataOf name (as ++ bs) = c.metadataOf name as ++ c.metadataOf name bs :=
  List.filterMap_append

/-! ### One metric -/

theorem WellKept.accumulateMetric (h : c.WellKept acc) (m : Metric) :
    c.WellKept (acc.accumulateMetric m) := by
  cases hcontent : c.content m with
  | none =>
    unfold WellKept
    rwa [c.accumulate_none acc m hcontent]
  | some content =>
    obtain ⟨md, dps⟩ := content
    unfold WellKept
    rw [c.accumulate_some acc m md dps hcontent]
    refine Table.forall_updateRows
      (Q := fun name (ma : MetricAccumulator M P) => ma.name = name ∧ ma.WellKeyed) h ?_ ?_
    · refine ⟨(MetricAccumulator.accumulatePoints_name _ _ _).1, ?_⟩
      exact MetricAccumulator.WellKeyed.accumulatePoints (fun row hrow => by cases hrow) _ _
    · intro ma hma
      exact ⟨(MetricAccumulator.accumulatePoints_name _ _ _).1.trans hma.1,
        hma.2.accumulatePoints _ _⟩

theorem stored_accumulateMetric (acc : OtelMetricsAccumulator) (name : String) (m : Metric) :
    c.stored (acc.accumulateMetric m) name =
      (c.stored acc name).or (c.metadataOf name [m]).head? := by
  cases hcontent : c.content m with
  | none => simp [stored, metadataOf, c.accumulate_none acc m hcontent, hcontent]
  | some content =>
    obtain ⟨md, dps⟩ := content
    simp only [stored, metadataOf, c.accumulate_some acc m md dps hcontent, Table.get?_entry]
    by_cases hname : name = m.name
    · subst hname
      simp only [if_true, Option.map_some, (MetricAccumulator.accumulatePoints_name _ _ _).2]
      cases (c.table acc).get? m.name <;> simp [hcontent, OtelMetricsAccumulator.newAccumulator]
    · simp [hname, Ne.symm hname]

/-- A metric's own series get its points, accumulated as its metadata say. -/
theorem series_accumulateMetric_self (acc : OtelMetricsAccumulator) {m : Metric} {md : M}
    {dps : List P} (hcontent : c.content m = some (md, dps)) (id : TimeSeriesId) :
    c.series (acc.accumulateMetric m) m.name id =
      (seriesRun (c.isCumulative md) (c.series acc m.name id)
        ((dps.filter fun dp => timeSeriesId dp = id).map .accumulate)).2 := by
  have hseries : (((c.table acc).get? m.name).getD
      (OtelMetricsAccumulator.newAccumulator m md)).series id = c.series acc m.name id := by
    unfold series
    cases (c.table acc).get? m.name <;> rfl
  rw [← hseries, series, c.accumulate_some acc m md dps hcontent, Table.get?_entry, if_pos rfl,
    Option.elim_some, MetricAccumulator.series_accumulatePoints]

/-- A metric of another kind or with another name leaves the series alone. -/
theorem series_accumulateMetric_other (acc : OtelMetricsAccumulator) {m : Metric}
    (h : c.content m = none ∨ name ≠ m.name) (id : TimeSeriesId) :
    c.series (acc.accumulateMetric m) name id = c.series acc name id := by
  cases hcontent : c.content m with
  | none => rw [series, c.accumulate_none acc m hcontent, ← series]
  | some content =>
    obtain ⟨md, dps⟩ := content
    have hname : name ≠ m.name := h.resolve_left (by rw [hcontent]; exact Option.some_ne_none _)
    rw [series, c.accumulate_some acc m md dps hcontent, Table.get?_entry, if_neg hname, ← series]

theorem series_accumulateMetric (id : TimeSeriesId) {m : Metric}
    (h : c.Agree isCumulative name [m]) :
    c.series (acc.accumulateMetric m) name id =
      (seriesRun isCumulative (c.series acc name id)
        ((c.pointsOf name id [m]).map .accumulate)).2 := by
  by_cases hother : c.content m = none ∨ name ≠ m.name
  · have hpoints : c.pointsOf name id [m] = [] := by
      rcases hother with hcontent | hname
      · simp [pointsOf, hcontent]
      · simp [pointsOf, Ne.symm hname]
    rw [series_accumulateMetric_other acc hother, hpoints]
    rfl
  · obtain ⟨hsome, hname⟩ := not_or.1 hother
    obtain rfl := not_ne_iff.1 hname
    obtain ⟨⟨md, dps⟩, hcontent⟩ := Option.ne_none_iff_exists'.1 hsome
    have hpoints : c.pointsOf m.name id [m] = dps.filter fun dp => timeSeriesId dp = id := by
      simp [pointsOf, hcontent]
    rw [series_accumulateMetric_self acc hcontent, hpoints]
    cases dps with
    | nil => cases c.isCumulative md <;> cases isCumulative <;> rfl
    | cons dp dps =>
      rw [h m List.mem_cons_self rfl md (dp :: dps) hcontent (List.cons_ne_nil dp dps)]

/-! ### Many metrics -/

theorem WellKept.accumulate (h : c.WellKept acc) (metrics : List Metric) :
    c.WellKept (acc.accumulate metrics) := by
  induction metrics generalizing acc with
  | nil => exact h
  | cons m rest ih => exact ih (h.accumulateMetric m)

theorem stored_accumulate (acc : OtelMetricsAccumulator) (name : String) (metrics : List Metric) :
    c.stored (acc.accumulate metrics) name =
      (c.stored acc name).or (c.metadataOf name metrics).head? := by
  induction metrics generalizing acc with
  | nil => exact (Option.or_none).symm
  | cons m rest ih =>
    have hrest : c.stored (acc.accumulate (m :: rest)) name =
        (c.stored (acc.accumulateMetric m) name).or (c.metadataOf name rest).head? := ih _
    rw [hrest, stored_accumulateMetric, Option.or_assoc, ← List.head?_append, ← metadataOf_append,
      List.singleton_append]

theorem series_accumulate (id : TimeSeriesId) {metrics : List Metric}
    (h : c.Agree isCumulative name metrics) :
    c.series (acc.accumulate metrics) name id =
      (seriesRun isCumulative (c.series acc name id)
        ((c.pointsOf name id metrics).map .accumulate)).2 := by
  induction metrics generalizing acc with
  | nil => rfl
  | cons m rest ih =>
    have hrest : c.series (acc.accumulate (m :: rest)) name id = _ :=
      @ih (acc.accumulateMetric m) fun m' hm' => h m' (List.mem_cons_of_mem m hm')
    have hfirst : c.Agree isCumulative name [m] := by
      intro m' hm'
      rw [List.mem_singleton.1 hm']
      exact h m List.mem_cons_self
    have hpoints : c.pointsOf name id (m :: rest) = c.pointsOf name id [m] ++ c.pointsOf name id rest :=
      pointsOf_append id [m] rest
    rw [hrest, series_accumulateMetric id hfirst, hpoints, List.map_append, seriesRun_append]

/-! ### An export -/

theorem WellKept.export (h : c.WellKept acc) : c.WellKept acc.exportMetrics.2 := by
  unfold WellKept
  rw [c.export_table]
  intro taken htaken
  obtain ⟨row, hrow, rfl⟩ := List.mem_map.1 htaken
  obtain ⟨hname, hkeyed⟩ := h row hrow
  exact ⟨(MetricAccumulator.takePoints_name _ _).1.trans hname, hkeyed.takePoints _⟩

theorem stored_export (acc : OtelMetricsAccumulator) (name : String) :
    c.stored acc.exportMetrics.2 name = c.stored acc name := by
  simp only [stored, c.export_table, Table.get?_iterMut, Option.map_map]
  congr 1
  funext ma
  exact (MetricAccumulator.takePoints_name _ _).2

theorem series_export (id : TimeSeriesId)
    (h : ∀ md ∈ c.stored acc name, c.isCumulative md = isCumulative) :
    c.series acc.exportMetrics.2 name id =
      (seriesRun isCumulative (c.series acc name id) [.take]).2 := by
  simp only [series, c.export_table, Table.get?_iterMut]
  cases hma : (c.table acc).get? name with
  | none => cases isCumulative <;> rfl
  | some ma =>
    have hcumulative := h ma.metadata (by simp [stored, hma])
    rw [Option.map_some, Option.elim_some, Option.elim_some, MetricAccumulator.series_takePoints,
      hcumulative]

/-- What an export says about a kind of metrics. -/
theorem flatMap_export {A : Type} (f : String → M → List P → List A) (h : c.WellKept acc)
    (hf : ∀ name' md dps, name' ≠ name → f name' md dps = []) :
    (acc.exportMetrics.1.filterMap fun m =>
        (c.content m).map fun content => (m.name, content)).flatMap
        (fun exported => f exported.1 exported.2.1 exported.2.2) =
      (((c.table acc).get? name).map fun ma =>
        f name ma.metadata (ma.takePoints (c.isCumulative ma.metadata)).1).getD [] := by
  rw [c.export_metrics, List.flatMap_map]
  have hrows : (c.table acc).rows.flatMap (fun row => f row.2.name row.2.metadata
        (row.2.takePoints (c.isCumulative row.2.metadata)).1) =
      (c.table acc).rows.flatMap (fun row => f row.1 row.2.metadata
        (row.2.takePoints (c.isCumulative row.2.metadata)).1) := by
    apply List.flatMap_congr
    intro row hrow
    rw [(h row hrow).1]
  rw [hrows]
  exact Table.flatMap_rows (k := name) (g := fun name ma =>
    f name ma.metadata (ma.takePoints (c.isCumulative ma.metadata)).1)
    (fun row _ hne => hf _ _ _ hne) (c.table acc).nodup

theorem pointsOf_eq_flatMap (id : TimeSeriesId) (metrics : List Metric) :
    c.pointsOf name id metrics =
      (metrics.filterMap fun m => (c.content m).map fun content => (m.name, content)).flatMap
        fun exported =>
          if exported.1 = name then exported.2.2.filter (fun dp => timeSeriesId dp = id) else [] := by
  induction metrics with
  | nil => rfl
  | cons m rest ih =>
    unfold pointsOf at ih ⊢
    rw [List.flatMap_cons, ih, List.filterMap_cons]
    cases c.content m <;> simp

theorem metadataOf_eq_flatMap (metrics : List Metric) :
    c.metadataOf name metrics =
      (metrics.filterMap fun m => (c.content m).map fun content => (m.name, content)).flatMap
        fun exported => if exported.1 = name then [exported.2.1] else [] := by
  induction metrics with
  | nil => rfl
  | cons m rest ih =>
    unfold metadataOf at ih ⊢
    rw [List.filterMap_cons, ih, List.filterMap_cons]
    by_cases hname : m.name = name
    · cases c.content m <;> simp [hname]
    · cases c.content m <;> simp [hname]

theorem pointsOf_export [LawfulDataPoint P] (hkept : c.WellKept acc) (id : TimeSeriesId)
    (h : ∀ md ∈ c.stored acc name, c.isCumulative md = isCumulative) :
    c.pointsOf name id acc.exportMetrics.1 =
      (seriesRun isCumulative (c.series acc name id) [.take]).1.map Prod.snd := by
  rw [pointsOf_eq_flatMap, flatMap_export (fun name' _ dps =>
    if name' = name then dps.filter (fun dp => timeSeriesId dp = id) else []) hkept
    (fun _ _ _ hne => if_neg hne), series]
  cases hma : (c.table acc).get? name with
  | none => cases isCumulative <;> rfl
  | some ma =>
    have hcumulative := h ma.metadata (by simp [stored, hma])
    have hkeyed := (hkept (name, ma) (Table.mem_of_lookup hma)).2
    rw [Option.map_some, Option.getD_some, if_pos rfl, Option.elim_some, hcumulative]
    exact MetricAccumulator.filter_takePoints hkeyed isCumulative id

theorem metadataOf_export (hkept : c.WellKept acc) :
    c.metadataOf name acc.exportMetrics.1 = (c.stored acc name).toList := by
  rw [metadataOf_eq_flatMap, flatMap_export (fun name' md _ => if name' = name then [md] else []) hkept
    (fun _ _ _ hne => if_neg hne), stored]
  cases (c.table acc).get? name with
  | none => rfl
  | some ma => simp

/-! ### A run -/

/-- What a run exports for a name and an identity is what a run of this time series exports. -/
theorem run_series [LawfulDataPoint P] {calls : List OtelMetricsCall} (hkept : c.WellKept acc)
    (id : TimeSeriesId)
    (hstored : ∀ md ∈ (c.stored acc name).or (c.metadataOf name (receivedMetrics calls)).head?,
      c.isCumulative md = isCumulative)
    (hagree : c.Agree isCumulative name (receivedMetrics calls)) :
    ∃ seriesCalls, accumulated seriesCalls = c.pointsOf name id (receivedMetrics calls) ∧
      c.pointsOf name id (otelMetricsRun acc calls).1 =
        (seriesRun isCumulative (c.series acc name id) seriesCalls).1.map Prod.snd ∧
      c.series (otelMetricsRun acc calls).2 name id =
        (seriesRun isCumulative (c.series acc name id) seriesCalls).2 := by
  induction calls generalizing acc with
  | nil => exact ⟨[], rfl, rfl, rfl⟩
  | cons call rest ih =>
    cases call with
    | accumulate metrics =>
      have hfirst : c.Agree isCumulative name metrics := fun m hm =>
        hagree m (List.mem_append_left _ hm)
      have hrest : c.Agree isCumulative name (receivedMetrics rest) := fun m hm =>
        hagree m (List.mem_append_right _ hm)
      have hstored' : ∀ md ∈ (c.stored (acc.accumulate metrics) name).or
          (c.metadataOf name (receivedMetrics rest)).head?, c.isCumulative md = isCumulative := by
        rw [stored_accumulate, Option.or_assoc, ← List.head?_append, ← metadataOf_append]
        exact hstored
      obtain ⟨calls, haccumulated, hexported, hseries⟩ :=
        ih (hkept.accumulate metrics) hstored' hrest
      refine ⟨(c.pointsOf name id metrics).map .accumulate ++ calls, ?_, ?_, ?_⟩
      · rw [accumulated_append, accumulated_map, haccumulated, receivedMetrics, pointsOf_append]
      · rw [seriesRun_append, seriesRun_accumulate, List.nil_append, ← series_accumulate id hfirst]
        exact hexported
      · rw [seriesRun_append, ← series_accumulate id hfirst]
        exact hseries
    | «export» =>
      have hnow : ∀ md ∈ c.stored acc name, c.isCumulative md = isCumulative := fun md hmd =>
        hstored md (Option.or_eq_some_iff.2 (.inl hmd))
      have hstored' : ∀ md ∈ (c.stored acc.exportMetrics.2 name).or
          (c.metadataOf name (receivedMetrics rest)).head?, c.isCumulative md = isCumulative := by
        rw [stored_export]
        exact hstored
      obtain ⟨calls, haccumulated, hexported, hseries⟩ := ih hkept.export hstored' hagree
      have happend := seriesRun_append isCumulative (c.series acc name id) [.take] calls
      rw [List.singleton_append] at happend
      refine ⟨.take :: calls, haccumulated, ?_, ?_⟩
      · rw [happend, List.map_append, ← pointsOf_export hkept id hnow, ← series_export id hnow,
          ← hexported]
        exact pointsOf_append id _ _
      · rw [happend, ← series_export id hnow]
        exact hseries

/-- A metric is exported with the first metadata received with its name. -/
theorem run_metadata {calls : List OtelMetricsCall} (hkept : c.WellKept acc) :
    ∀ md ∈ c.metadataOf name (otelMetricsRun acc calls).1,
      (c.stored acc name).or (c.metadataOf name (receivedMetrics calls)).head? = some md := by
  induction calls generalizing acc with
  | nil =>
    intro md hmd
    cases hmd
  | cons call rest ih =>
    cases call with
    | accumulate metrics =>
      intro md hmd
      have hrest := ih (hkept.accumulate metrics) md hmd
      rwa [stored_accumulate, Option.or_assoc, ← List.head?_append, ← metadataOf_append] at hrest
    | «export» =>
      intro md hmd
      have hexports : c.metadataOf name (otelMetricsRun acc (.export :: rest)).1 =
          c.metadataOf name acc.exportMetrics.1 ++
            c.metadataOf name (otelMetricsRun acc.exportMetrics.2 rest).1 := metadataOf_append _ _
      rw [hexports, List.mem_append, metadataOf_export hkept, Option.mem_toList] at hmd
      rcases hmd with hmd | hmd
      · exact Option.or_eq_some_iff.2 (.inl hmd)
      · have hrest := ih hkept.export md hmd
        rwa [stored_export] at hrest

/-! ### Conservation -/

/-- The labels of exported points: injected points only in a cumulative series, and in their places. -/
def Labels (isCumulative : Bool) (labelled : List (Origin × P)) : Prop :=
  if isCumulative then TrueLabels none labelled else ∀ point ∈ labelled, point.1 = .received

/-- The points to export: of a cumulative series, those that are not equivalent to the one before. -/
def kept (isCumulative : Bool) (points : List P) : List P :=
  if isCumulative then withoutRepeats none points else points

variable (c) in
/-- The exported and the pending points are those received, apart from repeats and injected points. -/
def Conserves (isCumulative : Bool) (name : String) (id : TimeSeriesId)
    (calls : List OtelMetricsCall) : Prop :=
  ∃ labelled,
    c.pointsOf name id (otelMetricsRun {} calls).1 = labelled.map Prod.snd ∧
    Labels isCumulative labelled ∧
    receivedPoints labelled ++ (c.series (otelMetricsRun {} calls).2 name id).newPoints =
      kept isCumulative (c.pointsOf name id (receivedMetrics calls))

omit [External] in
theorem seriesRun_labels [LawfulDataPoint P] (isCumulative : Bool) (calls : List (SeriesCall P)) :
    Labels isCumulative (seriesRun isCumulative {} calls).1 ∧
      receivedPoints (seriesRun isCumulative {} calls).1 ++
          (seriesRun isCumulative {} calls).2.newPoints =
        kept isCumulative (accumulated calls) := by
  cases isCumulative with
  | true =>
    obtain ⟨points, hout, hkept⟩ := seriesRun_cumulative {} calls
    rw [Labels, if_pos rfl, kept, if_pos rfl, hout, receivedPoints_inflated]
    exact ⟨trueLabels_inflated none points, hkept⟩
  | false =>
    obtain ⟨hpoints, horigin⟩ := seriesRun_asIs ({} : TimeSeries P) calls
    rw [Labels, if_neg Bool.false_ne_true, kept, if_neg Bool.false_ne_true]
    exact ⟨horigin, hpoints⟩

theorem wellKept_new : c.WellKept {} := by
  unfold WellKept
  rw [c.table_new]
  intro row hrow
  cases hrow

theorem stored_new : c.stored {} name = none := by
  rw [stored, c.table_new]
  rfl

theorem conserves_of_agree [LawfulDataPoint P] {calls : List OtelMetricsCall}
    (hfirst : ∀ md ∈ (c.metadataOf name (receivedMetrics calls)).head?,
      c.isCumulative md = isCumulative)
    (hagree : c.Agree isCumulative name (receivedMetrics calls)) (id : TimeSeriesId) :
    c.Conserves isCumulative name id calls := by
  have hseries : c.series {} name id = {} := by
    rw [series, c.table_new]
    rfl
  obtain ⟨seriesCalls, haccumulated, hexported, hpending⟩ :=
    run_series wellKept_new id (by rwa [stored_new, Option.none_or]) hagree
  rw [hseries] at hexported hpending
  obtain ⟨hlabels, hpoints⟩ := seriesRun_labels isCumulative seriesCalls
  refine ⟨_, hexported, hlabels, ?_⟩
  rw [hpending, hpoints, haccumulated]

theorem mem_metadataOf {metrics : List Metric} {md : M} (h : md ∈ c.metadataOf name metrics) :
    ∃ m ∈ metrics, m.name = name ∧ ∃ dps, c.content m = some (md, dps) := by
  obtain ⟨m, hm, hmd⟩ := List.mem_filterMap.1 h
  split at hmd
  · next hname =>
    obtain ⟨⟨md', dps⟩, hcontent, rfl⟩ := Option.map_eq_some_iff.1 hmd
    exact ⟨m, hm, hname, dps, hcontent⟩
  · cases hmd

theorem mem_pointsOf {id : TimeSeriesId} {metrics : List Metric} {p : P}
    (h : p ∈ c.pointsOf name id metrics) :
    ∃ m ∈ metrics, m.name = name ∧ ∃ md dps, c.content m = some (md, dps) ∧ p ∈ dps := by
  obtain ⟨m, hm, hp⟩ := List.mem_flatMap.1 h
  split at hp
  · next hname =>
    have hp := List.mem_of_mem_filter hp
    cases hcontent : c.content m with
    | none =>
      rw [hcontent] at hp
      cases hp
    | some content =>
      rw [hcontent] at hp
      exact ⟨m, hm, hname, content.1, content.2, hcontent, hp⟩
  · cases hp

omit [External] in
theorem kept_sublist (isCumulative : Bool) (points : List P) :
    (kept isCumulative points).Sublist points := by
  unfold kept
  split
  · exact withoutRepeats_sublist none points
  · exact .refl points

theorem conserves [LawfulDataPoint P] {calls : List OtelMetricsCall}
    (h : ∀ m ∈ receivedMetrics calls, m.name = name → ∀ md dps, c.content m = some (md, dps) →
      c.isCumulative md = isCumulative)
    (id : TimeSeriesId) : c.Conserves isCumulative name id calls := by
  refine conserves_of_agree (fun md hmd => ?_) (fun m hm hname md dps hcontent _ => ?_) id
  · obtain ⟨m, hm, hname, dps, hcontent⟩ := mem_metadataOf (List.mem_of_head? hmd)
    exact h m hm hname md dps hcontent
  · exact h m hm hname md dps hcontent

end

end Channel

omit [External] in
theorem export_data (acc : OtelMetricsAccumulator) {m : Metric} (hm : m ∈ acc.exportMetrics.1)
    (dataPoints : List ExponentialHistogramDataPoint) :
    m.data ≠ some (.exponentialHistogram dataPoints) := by
  simp only [OtelMetricsAccumulator.exportMetrics, Table.iterMut, List.mem_append,
    List.mem_map] at hm
  rcases hm with ((⟨row, -, rfl⟩ | ⟨row, -, rfl⟩) | ⟨row, -, rfl⟩) | ⟨row, -, rfl⟩
  · rw [exportGauge_eq]
    simp [MetricAccumulator.makeMetric]
  · rw [exportSum_eq]
    simp [MetricAccumulator.makeMetric]
  · rw [exportHistogram_eq]
    simp [MetricAccumulator.makeMetric]
  · rw [exportSummary_eq]
    simp [MetricAccumulator.makeMetric]

theorem run_data (acc : OtelMetricsAccumulator) (calls : List OtelMetricsCall) :
    ∀ m ∈ (otelMetricsRun acc calls).1, ∀ dataPoints,
      m.data ≠ some (.exponentialHistogram dataPoints) := by
  induction calls generalizing acc with
  | nil =>
    intro m hm
    cases hm
  | cons call rest ih =>
    cases call with
    | accumulate metrics => exact ih _
    | «export» =>
      intro m hm
      rcases List.mem_append.1 hm with hm | hm
      · exact export_data acc hm
      · exact ih _ m hm

/-- The accumulator exports, for each kind, name and time series, what it has received: repeats of
cumulative points are dropped, and injected points are in their places. -/
theorem otel_metrics_conserved {calls : List OtelMetricsCall} {name : String}
    {sumTemporality histogramTemporality : Int}
    (hsums : ∀ m ∈ receivedMetrics calls, m.name = name → ∀ s, m.data = some (.sum s) →
      s.aggregationTemporality = sumTemporality)
    (hhistograms : ∀ m ∈ receivedMetrics calls, m.name = name → ∀ h, m.data = some (.histogram h) →
      h.aggregationTemporality = histogramTemporality)
    (id : TimeSeriesId) :
    Channel.gauges.Conserves false name id calls ∧
      Channel.sums.Conserves (sumTemporality = cumulative) name id calls ∧
      Channel.histograms.Conserves (histogramTemporality = cumulative) name id calls ∧
      Channel.summaries.Conserves true name id calls ∧
      ∀ m ∈ (otelMetricsRun {} calls).1, ∀ dataPoints,
        m.data ≠ some (.exponentialHistogram dataPoints) := by
  refine ⟨?_, ?_, ?_, ?_, run_data {} calls⟩
  · exact Channel.conserves (fun _ _ _ _ _ _ => rfl) id
  · refine Channel.conserves (fun m hm hname md dps hcontent => ?_) id
    obtain ⟨s, hdata, htemporality⟩ := Channel.exists_sum hcontent
    change decide (md.aggregationTemporality = cumulative) = _
    rw [htemporality, hsums m hm hname s hdata]
  · refine Channel.conserves (fun m hm hname md dps hcontent => ?_) id
    obtain ⟨h, hdata, htemporality⟩ := Channel.exists_histogram hcontent
    change decide (md.aggregationTemporality = cumulative) = _
    rw [htemporality, hhistograms m hm hname h hdata]
  · exact Channel.conserves (fun _ _ _ _ _ _ => rfl) id

/-- A sum of one point. -/
def sampleSum (aggregationTemporality : Int) (point : NumberDataPoint) : Metric where
  name := "requests"
  description := ""
  unit := "1"
  data := some (.sum { dataPoints := [point], aggregationTemporality, isMonotonic := true })

/-- A cumulative sum with repeats and a gap, exported twice. -/
def cumulativeCalls : List OtelMetricsCall :=
  [.accumulate [sampleSum 2 (samplePoint (.asInt 5) 1000000000)],
    .accumulate [sampleSum 2 (samplePoint (.asInt 5) 2000000000)], .export,
    .accumulate [sampleSum 2 (samplePoint (.asInt 5) 3000000000),
      sampleSum 2 (samplePoint (.asInt 7) 200000000000)], .export]

omit [External] in
theorem data_cumulativeCalls : ∀ m ∈ receivedMetrics cumulativeCalls, ∃ point,
    m = sampleSum 2 point := by
  intro m hm
  change m ∈ [sampleSum 2 (samplePoint (.asInt 5) 1000000000),
    sampleSum 2 (samplePoint (.asInt 5) 2000000000), sampleSum 2 (samplePoint (.asInt 5) 3000000000),
    sampleSum 2 (samplePoint (.asInt 7) 200000000000)] at hm
  simp only [List.mem_cons, List.not_mem_nil, or_false] at hm
  rcases hm with rfl | rfl | rfl | rfl <;> exact ⟨_, rfl⟩

omit [External] in
/-- Two points are exported, each after an injected one. -/
theorem otel_metrics_conserved_sum :
    ((@Channel.pointsOf sampleExternal _ _ _ (@Channel.sums sampleExternal) "requests"
      (@TimeSeriesId.ofAttributes sampleExternal [])
      (@otelMetricsRun sampleExternal {} cumulativeCalls).1).map (·.timeUnixNano) =
        [0, 1000000000, 170000000000, 200000000000]) ∧
    @Channel.Conserves sampleExternal _ _ _ (@Channel.sums sampleExternal)
      ((2 : Int) = cumulative) "requests" (@TimeSeriesId.ofAttributes sampleExternal [])
      cumulativeCalls := by
  have hconserved := @otel_metrics_conserved sampleExternal cumulativeCalls "requests" 2 2
    (by
      intro m hm _ s hs
      obtain ⟨point, rfl⟩ := data_cumulativeCalls m hm
      cases hs
      rfl)
    (by
      intro m hm _ h hh
      obtain ⟨point, rfl⟩ := data_cumulativeCalls m hm
      cases hh)
    (@TimeSeriesId.ofAttributes sampleExternal [])
  exact ⟨by decide, hconserved.2.1⟩

/-! ## Metadata -/

namespace Channel

section

variable {M P : Type} [DataPoint P] (c : Channel M P)

/-- The metrics with the name that bring points have the metadata of the first one. -/
def KeepsMetadata (name : String) (metrics : List Metric) : Prop :=
  ∀ m ∈ metrics, m.name = name → ∀ md dps, c.content m = some (md, dps) → dps ≠ [] →
    (c.metadataOf name metrics).head? = some md

/-- The points exported with some metadata have been received with it; only cumulative points are
injected or left out. -/
def NeverRelabels (name : String) (id : TimeSeriesId) (calls : List OtelMetricsCall) : Prop :=
  ∀ md ∈ c.metadataOf name (otelMetricsRun {} calls).1, ∃ labelled,
    c.pointsOf name id (otelMetricsRun {} calls).1 = labelled.map Prod.snd ∧
    Labels (c.isCumulative md) labelled ∧
    (∀ p ∈ receivedPoints labelled, ∃ m ∈ receivedMetrics calls, m.name = name ∧
      ∃ dps, c.content m = some (md, dps) ∧ p ∈ dps) ∧
    receivedPoints labelled ++ (c.series (otelMetricsRun {} calls).2 name id).newPoints =
      kept (c.isCumulative md) (c.pointsOf name id (receivedMetrics calls))

variable {c}

theorem neverRelabels [LawfulDataPoint P] {name : String} {calls : List OtelMetricsCall}
    (h : c.KeepsMetadata name (receivedMetrics calls)) (id : TimeSeriesId) :
    c.NeverRelabels name id calls := by
  intro md hmd
  have hfirst := run_metadata wellKept_new md hmd
  rw [stored_new, Option.none_or] at hfirst
  have hsame : ∀ m ∈ receivedMetrics calls, m.name = name → ∀ md' dps,
      c.content m = some (md', dps) → dps ≠ [] → md' = md := by
    intro m hm hname md' dps hcontent hne
    have hmetadata := h m hm hname md' dps hcontent hne
    rw [hfirst] at hmetadata
    exact (Option.some.inj hmetadata).symm
  have hconserves : c.Conserves (c.isCumulative md) name id calls := by
    refine conserves_of_agree (fun md' hmd' => ?_) (fun m hm hname md' dps hcontent hne => ?_) id
    · rw [Option.some.inj (hfirst.symm.trans hmd')]
    · rw [hsame m hm hname md' dps hcontent hne]
  obtain ⟨labelled, hexported, hlabels, hpoints⟩ := hconserves
  refine ⟨labelled, hexported, hlabels, fun p hp => ?_, hpoints⟩
  have hmem : p ∈ c.pointsOf name id (receivedMetrics calls) := by
    refine (kept_sublist (c.isCumulative md) _).subset ?_
    rw [← hpoints]
    exact List.mem_append_left _ hp
  obtain ⟨m, hm, hname, md', dps, hcontent, hdp⟩ := mem_pointsOf hmem
  rw [hsame m hm hname md' dps hcontent (List.ne_nil_of_mem hdp)] at hcontent
  exact ⟨m, hm, hname, dps, hcontent, hdp⟩

end

end Channel

/-- Sums and histograms are exported as what they have been received as, if all that bring points have
the metadata of the first one with their name. -/
theorem otel_metrics_never_relabelled {calls : List OtelMetricsCall} {name : String}
    (hsums : Channel.sums.KeepsMetadata name (receivedMetrics calls))
    (hhistograms : Channel.histograms.KeepsMetadata name (receivedMetrics calls))
    (id : TimeSeriesId) :
    Channel.sums.NeverRelabels name id calls ∧ Channel.histograms.NeverRelabels name id calls :=
  ⟨Channel.neverRelabels hsums id, Channel.neverRelabels hhistograms id⟩

omit [External] in
/-- The sum is exported twice, as a cumulative one. -/
theorem otel_metrics_never_relabelled_sum :
    (@Channel.metadataOf sampleExternal _ _ _ (@Channel.sums sampleExternal) "requests"
      (@otelMetricsRun sampleExternal {} cumulativeCalls).1 = [⟨2, true⟩, ⟨2, true⟩]) ∧
    @Channel.NeverRelabels sampleExternal _ _ _ (@Channel.sums sampleExternal) "requests"
      (@TimeSeriesId.ofAttributes sampleExternal []) cumulativeCalls := by
  have hnever := @otel_metrics_never_relabelled sampleExternal cumulativeCalls "requests"
    (by
      intro m hm _ md dps hcontent _
      obtain ⟨point, rfl⟩ := data_cumulativeCalls m hm
      cases hcontent
      rfl)
    (by
      intro m hm _ md dps hcontent _
      obtain ⟨point, rfl⟩ := data_cumulativeCalls m hm
      cases hcontent)
    (@TimeSeriesId.ofAttributes sampleExternal [])
  exact ⟨rfl, hnever.1⟩

/-- A sum that is first received with deltas, and then cumulative. -/
def changedTemporality : List OtelMetricsCall :=
  [.accumulate [sampleSum 1 (samplePoint (.asInt 5) 1000000000)],
    .accumulate [sampleSum 2 (samplePoint (.asInt 7) 2000000000)], .export]

omit [External] in
/-- The cumulative point is exported as a delta. -/
theorem changed_temporality_relabels :
    ¬ @Channel.NeverRelabels sampleExternal _ _ _ (@Channel.sums sampleExternal) "requests"
      (@TimeSeriesId.ofAttributes sampleExternal []) changedTemporality := by
  intro hnever
  have hrun : (@otelMetricsRun sampleExternal {} changedTemporality).1 =
      [{ sampleSum 1 (samplePoint (.asInt 5) 1000000000) with
        data := some (.sum
          { dataPoints := [samplePoint (.asInt 5) 1000000000, samplePoint (.asInt 7) 2000000000]
            aggregationTemporality := 1
            isMonotonic := true }) }] := rfl
  obtain ⟨labelled, hexported, hlabels, hreceived, -⟩ := hnever ⟨1, true⟩ (by
    rw [hrun]
    exact List.mem_cons_self)
  have horigin : ∀ point ∈ labelled, point.1 = .received := hlabels
  have hpoints : receivedPoints labelled =
      [samplePoint (.asInt 5) 1000000000, samplePoint (.asInt 7) 2000000000] := by
    rw [receivedPoints, List.filter_eq_self.2 (by simpa using horigin), ← hexported, hrun]
    rfl
  obtain ⟨m, hm, -, dps, hcontent, hmem⟩ := hreceived (samplePoint (.asInt 7) 2000000000) (by
    rw [hpoints]
    exact List.mem_cons_of_mem _ List.mem_cons_self)
  rcases List.mem_pair.1 hm with rfl | rfl
  · obtain ⟨-, rfl⟩ := Prod.mk.inj (Option.some.inj hcontent)
    have htime := congrArg NumberDataPoint.timeUnixNano (List.mem_singleton.1 hmem)
    simp [samplePoint] at htime
  · obtain ⟨hmetadata, -⟩ := Prod.mk.inj (Option.some.inj hcontent)
    cases hmetadata

end TelemetryExporter
