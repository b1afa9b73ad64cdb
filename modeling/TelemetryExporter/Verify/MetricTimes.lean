import TelemetryExporter.Lib.Split
import TelemetryExporter.Verify.Accumulator

/-!
# The times of the function's metrics

The times of the points come unchecked from the function. Before it compares a point with the next
one, `take_and_inflate_data_points` adds to its time, and the sum need not fit into a `u64`. Every
sum of a run fits, and every copy is in its place, exactly when no point that is kept before the last
export and followed by another one is that late (`exports_exactly_iff`).
-/

namespace TelemetryExporter

open DataPoint

section

variable {P : Type} [DataPoint P]

/-! ## Inflation without a bound on times -/

/-- A received point, after a copy of the one before it if that is too old. -/
def withExactCopy (prev this : P) : List P :=
  (if getTimeUnixNano prev + maxTimeBetweenDataNanos < getTimeUnixNano this then
    [cloneWithTimestamp prev (getTimeUnixNano this - reportLastTimeNanos)] else []) ++ [this]

/-- What `take_and_inflate_data_points` should make of new points, after the last one exported
before. -/
def exactlyInflated : Option P → List P → List P
  | _, [] => []
  | none, first :: rest => (withZero first).map Prod.snd ++ exactlyInflated (some first) rest
  | some prev, this :: rest => withExactCopy prev this ++ exactlyInflated (some this) rest

namespace TimeSeries

/-- The additions of the loop of `take_and_inflate_data_points`. -/
def additionsFrom (prev : P) : List P → List (Nat × Nat)
  | [] => []
  | this :: rest => (getTimeUnixNano prev, maxTimeBetweenDataNanos) :: additionsFrom this rest

/-- The additions of `take_and_inflate_data_points`. -/
def additions (ts : TimeSeries P) : List (Nat × Nat) :=
  match ts.newPoints, ts.previousPoint with
  | [], _ => []
  | newPoints, some pp => additionsFrom pp newPoints
  | first :: rest, none => additionsFrom first rest

/-- All points of the series that matter for its next export. -/
def points (ts : TimeSeries P) : List P := ts.previousPoint.toList ++ ts.newPoints

end TimeSeries

/-- No addition of `take_and_inflate_data_points` is out of range, and a copy is injected exactly
where the times are too far apart. -/
structure InflatesExactly (ts : TimeSeries P) : Prop where
  inRange : ∀ sum ∈ ts.additions, sum.1 + sum.2 < UInt64.size
  exact : ts.takeAndInflateDataPoints.1 = exactlyInflated ts.previousPoint ts.newPoints

theorem withCopy_of_noOverflow {prev : P} (h : NoOverflow prev) (this : P) :
    (withCopy prev this).map Prod.snd = withExactCopy prev this := by
  have hadd := wrappingAdd_of_lt h
  unfold withCopy withExactCopy
  by_cases hgap : getTimeUnixNano prev + maxTimeBetweenDataNanos < getTimeUnixNano this
  · have hgap' : wrappingAdd (getTimeUnixNano prev) maxTimeBetweenDataNanos < getTimeUnixNano this := by
      rw [hadd]
      exact hgap
    rw [if_pos hgap, if_pos hgap', List.map_append, List.map_singleton, List.map_singleton]
  · have hgap' : ¬ wrappingAdd (getTimeUnixNano prev) maxTimeBetweenDataNanos <
        getTimeUnixNano this := by
      rw [hadd]
      exact hgap
    rw [if_neg hgap, if_neg hgap', List.map_append, List.map_singleton, List.map_nil]

theorem inflated_some_exact {prev : P} {rest : List P}
    (h : ∀ p ∈ (prev :: rest).dropLast, NoOverflow p) :
    (inflated (some prev) rest).map Prod.snd = exactlyInflated (some prev) rest := by
  induction rest generalizing prev with
  | nil => rfl
  | cons this rest ih =>
    rw [List.dropLast_cons_cons, List.forall_mem_cons] at h
    rw [inflated, exactlyInflated, List.map_append, withCopy_of_noOverflow h.1, ih h.2]

theorem additionsFrom_inRange_iff (prev : P) (rest : List P) :
    (∀ sum ∈ TimeSeries.additionsFrom prev rest, sum.1 + sum.2 < UInt64.size) ↔
      ∀ p ∈ (prev :: rest).dropLast, NoOverflow p := by
  induction rest generalizing prev with
  | nil => simp [TimeSeries.additionsFrom]
  | cons this rest ih =>
    rw [TimeSeries.additionsFrom, List.dropLast_cons_cons, List.forall_mem_cons,
      List.forall_mem_cons, ih]
    rfl

/-- One export of a series is exact if and only if each of its points that another one follows leaves
room for the addition. -/
theorem inflatesExactly_iff (ts : TimeSeries P) :
    InflatesExactly ts ↔ ∀ p ∈ ts.points.dropLast, NoOverflow p := by
  obtain ⟨previousPoint, newPoints⟩ := ts
  have hrange : (∀ sum ∈ TimeSeries.additions { previousPoint, newPoints },
      sum.1 + sum.2 < UInt64.size) ↔
      ∀ p ∈ (TimeSeries.points { previousPoint, newPoints }).dropLast, NoOverflow p := by
    cases newPoints with
    | nil => cases previousPoint <;> simp [TimeSeries.additions, TimeSeries.points]
    | cons first rest =>
      cases previousPoint with
      | none => exact additionsFrom_inRange_iff first rest
      | some prev => exact additionsFrom_inRange_iff prev (first :: rest)
  constructor
  · intro h
    exact hrange.1 h.inRange
  · intro h
    refine ⟨hrange.2 h, ?_⟩
    rw [TimeSeries.takeAndInflateDataPoints_eq]
    cases previousPoint with
    | some prev => exact inflated_some_exact h
    | none =>
      cases newPoints with
      | nil => rfl
      | cons first rest =>
        rw [inflated, exactlyInflated, List.map_append, inflated_some_exact h]

/-! ## The points that a series keeps -/

/-- The points kept of those offered, after `last`; a flagged one is dropped if it is equivalent to
the one kept before it. -/
def keptFrom : Option P → List (Bool × P) → List P
  | _, [] => []
  | last, (flag, p) :: rest =>
    if flag && last.any (isEquivalent · p) then keptFrom last rest else p :: keptFrom (some p) rest

theorem keptFrom_cons_drop {last : Option P} {flag : Bool} {p : P}
    (h : (flag && last.any (isEquivalent · p)) = true) (rest : List (Bool × P)) :
    keptFrom last ((flag, p) :: rest) = keptFrom last rest :=
  if_pos h

theorem keptFrom_cons_keep {last : Option P} {flag : Bool} {p : P}
    (h : ¬ (flag && last.any (isEquivalent · p)) = true) (rest : List (Bool × P)) :
    keptFrom last ((flag, p) :: rest) = p :: keptFrom (some p) rest :=
  if_neg h

theorem keptFrom_append (last : Option P) (as bs : List (Bool × P)) :
    keptFrom last (as ++ bs) =
      keptFrom last as ++ keptFrom ((keptFrom last as).getLast?.or last) bs := by
  induction as generalizing last with
  | nil => rfl
  | cons offer as ih =>
    obtain ⟨flag, p⟩ := offer
    rw [List.cons_append]
    by_cases h : (flag && last.any (isEquivalent · p)) = true
    · rw [keptFrom_cons_drop h, keptFrom_cons_drop h, ih]
    · have hlast : (p :: keptFrom (some p) as).getLast?.or last =
          (keptFrom (some p) as).getLast?.or (some p) := by
        rw [List.getLast?_cons]
        cases (keptFrom (some p) as).getLast? <;> rfl
      rw [keptFrom_cons_keep h, keptFrom_cons_keep h, ih, List.cons_append, hlast]

namespace TimeSeries

/-- The series after points have been offered to it. -/
def offer (ts : TimeSeries P) (offers : List (Bool × P)) : TimeSeries P :=
  { ts with newPoints := ts.newPoints ++ keptFrom ts.lastPoint offers }

omit [DataPoint P] in
theorem lastPoint_eq (ts : TimeSeries P) : ts.lastPoint = ts.points.getLast? := by
  unfold lastPoint points
  rw [List.getLast?_append]
  cases ts.previousPoint <;> rfl

theorem points_offer (ts : TimeSeries P) (offers : List (Bool × P)) :
    (ts.offer offers).points = ts.points ++ keptFrom ts.lastPoint offers :=
  (List.append_assoc _ _ _).symm

theorem lastPoint_offer (ts : TimeSeries P) (offers : List (Bool × P)) :
    (ts.offer offers).lastPoint = (keptFrom ts.lastPoint offers).getLast?.or ts.lastPoint := by
  rw [lastPoint_eq, points_offer, List.getLast?_append, ← lastPoint_eq]

omit [DataPoint P] in
/-- A series that has been exported has its last point only. -/
theorem points_keepLast (last : Option P) :
    TimeSeries.points { previousPoint := last } = last.toList :=
  List.append_nil _

omit [DataPoint P] in
theorem lastPoint_keepLast (last : Option P) :
    TimeSeries.lastPoint { previousPoint := last } = last := rfl

omit [DataPoint P] in
theorem forall_dropLast_keepLast {Q : P → Prop} (last : Option P) :
    ∀ p ∈ (TimeSeries.points { previousPoint := last }).dropLast, Q p := by
  intro p hp
  rw [points_keepLast] at hp
  cases last <;> cases hp

theorem offer_nil (ts : TimeSeries P) : ts.offer [] = ts := by
  unfold offer keptFrom
  rw [List.append_nil]

theorem offer_append (ts : TimeSeries P) (as bs : List (Bool × P)) :
    ts.offer (as ++ bs) = (ts.offer as).offer bs := by
  have hlast := lastPoint_offer ts as
  unfold offer at hlast ⊢
  rw [hlast, keptFrom_append, List.append_assoc]

/-- Offering a point is accumulating it. -/
theorem offer_singleton (ts : TimeSeries P) (flag : Bool) (p : P) :
    ts.offer [(flag, p)] = MetricAccumulator.accumulatePoint flag p ts := by
  unfold offer
  cases flag with
  | false => rfl
  | true =>
    unfold MetricAccumulator.accumulatePoint pushIfDifferent
    rw [if_pos rfl]
    have hall : (ts.lastPoint.all fun q => !isEquivalent q p) = !ts.lastPoint.any (isEquivalent · p) := by
      cases ts.lastPoint <;> rfl
    rw [hall]
    by_cases h : ts.lastPoint.any (isEquivalent · p) = true
    · rw [keptFrom_cons_drop (by rw [h]; rfl), h]
      exact offer_nil ts
    · rw [keptFrom_cons_keep (by simpa using h), if_pos (by simpa using h)]
      rfl

theorem offer_cons (ts : TimeSeries P) (flag : Bool) (p : P) (rest : List (Bool × P)) :
    ts.offer ((flag, p) :: rest) = (MetricAccumulator.accumulatePoint flag p ts).offer rest := by
  rw [← offer_singleton, ← offer_append]
  rfl

theorem offer_eq_seriesRun (ts : TimeSeries P) (flag : Bool) (dps : List P) :
    (seriesRun flag ts (dps.map .accumulate)).2 = ts.offer (dps.map fun dp => (flag, dp)) := by
  induction dps generalizing ts with
  | nil => exact (offer_nil ts).symm
  | cons dp dps ih =>
    rw [List.map_cons, List.map_cons, offer_cons, ← ih]
    rfl

end TimeSeries

end

/-! ## Runs -/

variable [External]

/-- The accumulators that a run exports. -/
def exporting : OtelMetricsAccumulator → List OtelMetricsCall → List OtelMetricsAccumulator
  | _, [] => []
  | acc, .accumulate metrics :: rest => exporting (acc.accumulate metrics) rest
  | acc, .export :: rest => acc :: exporting acc.exportMetrics.2 rest

omit [External] in
/-- The metrics received before the last export, if there is one. -/
def beforeLastExport : List OtelMetricsCall → Option (List Metric)
  | [] => none
  | .accumulate metrics :: rest => (beforeLastExport rest).map (metrics ++ ·)
  | .export :: rest => some ((beforeLastExport rest).getD [])

namespace Channel

variable {M P : Type} [DataPoint P] (c : Channel M P)

/-- The series that an export inflates. -/
def inflatedSeries (acc : OtelMetricsAccumulator) : List (TimeSeries P) :=
  (c.table acc).rows.flatMap fun row =>
    if c.isCumulative row.2.metadata then row.2.timeSeries.rows.map Prod.snd else []

/-- The points offered to a series, flagged if they come with a cumulative metric. -/
def offered (name : String) (id : TimeSeriesId) (metrics : List Metric) : List (Bool × P) :=
  metrics.flatMap fun m =>
    if m.name = name then
      (c.content m).elim [] fun content =>
        (content.2.filter fun dp => timeSeriesId dp = id).map fun dp =>
          (c.isCumulative content.1, dp)
    else []

/-- The first metric with the name is cumulative. -/
def StartsCumulative (name : String) (metrics : List Metric) : Prop :=
  ∃ md, (c.metadataOf name metrics).head? = some md ∧ c.isCumulative md = true

/-- In each series whose first metric is cumulative, the points kept before the last export, but for
the last one of them, leave room for the addition. -/
def FollowedInRange (calls : List OtelMetricsCall) : Prop :=
  ∀ metrics, beforeLastExport calls = some metrics → ∀ name id, c.StartsCumulative name metrics →
    ∀ p ∈ (keptFrom none (c.offered name id metrics)).dropLast, NoOverflow p

variable {c} {acc : OtelMetricsAccumulator} {name : String}

theorem offered_append (id : TimeSeriesId) (as bs : List Metric) :
    c.offered name id (as ++ bs) = c.offered name id as ++ c.offered name id bs :=
  List.flatMap_append

theorem series_accumulateMetric_offered (acc : OtelMetricsAccumulator) (name : String)
    (id : TimeSeriesId) (m : Metric) :
    c.series (acc.accumulateMetric m) name id =
      (c.series acc name id).offer (c.offered name id [m]) := by
  by_cases hother : c.content m = none ∨ name ≠ m.name
  · have hoffered : c.offered name id [m] = [] := by
      rcases hother with hcontent | hname
      · simp [offered, hcontent]
      · simp [offered, Ne.symm hname]
    rw [series_accumulateMetric_other acc hother, hoffered, TimeSeries.offer_nil]
  · obtain ⟨hsome, hname⟩ := not_or.1 hother
    obtain rfl := not_ne_iff.1 hname
    obtain ⟨⟨md, dps⟩, hcontent⟩ := Option.ne_none_iff_exists'.1 hsome
    have hoffered : c.offered m.name id [m] =
        (dps.filter fun dp => timeSeriesId dp = id).map fun dp => (c.isCumulative md, dp) := by
      simp [offered, hcontent]
    rw [series_accumulateMetric_self acc hcontent, hoffered, TimeSeries.offer_eq_seriesRun]

theorem series_accumulate_offered (acc : OtelMetricsAccumulator) (name : String)
    (id : TimeSeriesId) (metrics : List Metric) :
    c.series (acc.accumulate metrics) name id =
      (c.series acc name id).offer (c.offered name id metrics) := by
  induction metrics generalizing acc with
  | nil => exact (TimeSeries.offer_nil _).symm
  | cons m rest ih =>
    have hrest : c.series (acc.accumulate (m :: rest)) name id =
        (c.series (acc.accumulateMetric m) name id).offer (c.offered name id rest) := ih _
    have hoffered : c.offered name id (m :: rest) =
        c.offered name id [m] ++ c.offered name id rest := offered_append id [m] rest
    rw [hrest, series_accumulateMetric_offered, hoffered, TimeSeries.offer_append]

/-- A series that is not stored is a new one. -/
theorem forall_inflatedSeries {Q : TimeSeries P → Prop} (hnew : Q {}) :
    (∀ ts ∈ c.inflatedSeries acc, Q ts) ↔
      ∀ name id, (∃ md, c.stored acc name = some md ∧ c.isCumulative md = true) →
        Q (c.series acc name id) := by
  constructor
  · rintro h name id ⟨md, hstored, hcumulative⟩
    obtain ⟨ma, hma, rfl⟩ := Option.map_eq_some_iff.1 hstored
    rw [series, hma, Option.elim_some, MetricAccumulator.series]
    cases hts : ma.timeSeries.get? id with
    | none => exact hnew
    | some ts =>
      refine h ts (List.mem_flatMap.2 ⟨(name, ma), (Table.get?_eq_some_iff _).1 hma, ?_⟩)
      rw [if_pos hcumulative]
      exact List.mem_map_of_mem ((Table.get?_eq_some_iff _).1 hts)
  · intro h ts hts
    obtain ⟨⟨name, ma⟩, hma, hts⟩ := List.mem_flatMap.1 hts
    by_cases hcumulative : c.isCumulative ma.metadata = true
    · rw [if_pos hcumulative] at hts
      obtain ⟨⟨id, ts⟩, hrow, rfl⟩ := List.mem_map.1 hts
      have hget := (Table.get?_eq_some_iff _).2 hma
      have hseries : c.series acc name id = ts := by
        rw [series, hget, Option.elim_some, MetricAccumulator.series,
          (Table.get?_eq_some_iff _).2 hrow, Option.getD_some]
      rw [← hseries]
      exact h name id ⟨ma.metadata, by rw [stored, hget, Option.map_some], hcumulative⟩
    · rw [if_neg hcumulative] at hts
      cases hts

theorem stored_accumulate_or (acc : OtelMetricsAccumulator) (first more : List Metric) :
    (c.stored (acc.accumulate first) name).or (c.metadataOf name more).head? =
      (c.stored acc name).or (c.metadataOf name (first ++ more)).head? := by
  rw [stored_accumulate, Option.or_assoc, ← List.head?_append, ← metadataOf_append]

/-- What a run exports is stored with the metadata of the first metric with the name. -/
theorem stored_of_exporting {calls : List OtelMetricsCall} {acc' : OtelMetricsAccumulator} {md : M}
    (hacc : acc' ∈ exporting acc calls) (hmd : c.stored acc' name = some md) :
    ∃ metrics, beforeLastExport calls = some metrics ∧
      (c.stored acc name).or (c.metadataOf name metrics).head? = some md := by
  induction calls generalizing acc with
  | nil => cases hacc
  | cons call rest ih =>
    cases call with
    | accumulate first =>
      obtain ⟨more, hmore, hstored⟩ := ih hacc
      rw [stored_accumulate_or] at hstored
      exact ⟨first ++ more, Option.map_eq_some_iff.2 ⟨more, hmore, rfl⟩, hstored⟩
    | «export» =>
      refine ⟨(beforeLastExport rest).getD [], rfl, ?_⟩
      rcases List.mem_cons.1 hacc with rfl | hacc
      · rw [hmd, Option.some_or]
      · obtain ⟨more, hmore, hstored⟩ := ih hacc
        rw [stored_export] at hstored
        rw [hmore]
        exact hstored

/-- An export keeps the last point of a cumulative series. -/
theorem series_export_cumulative (id : TimeSeriesId)
    (h : ∀ md ∈ c.stored acc name, c.isCumulative md = true) :
    c.series acc.exportMetrics.2 name id = { previousPoint := (c.series acc name id).lastPoint } := by
  rw [series_export id h]
  rfl

/-- The exports of one cumulative series over a run. -/
theorem exporting_series_iff {calls : List OtelMetricsCall} (id : TimeSeriesId)
    (hstored : ∀ metrics, beforeLastExport calls = some metrics →
      ∀ md ∈ (c.stored acc name).or (c.metadataOf name metrics).head?, c.isCumulative md = true) :
    (∀ acc' ∈ exporting acc calls, InflatesExactly (c.series acc' name id)) ↔
      ∀ metrics, beforeLastExport calls = some metrics →
        ∀ p ∈ ((c.series acc name id).offer (c.offered name id metrics)).points.dropLast,
          NoOverflow p := by
  induction calls generalizing acc with
  | nil => exact ⟨fun _ metrics hmetrics => (nomatch hmetrics), fun _ acc' hacc => (nomatch hacc)⟩
  | cons call rest ih =>
    cases call with
    | accumulate first =>
      have hrest : ∀ more, beforeLastExport rest = some more →
          ∀ md ∈ (c.stored (acc.accumulate first) name).or (c.metadataOf name more).head?,
            c.isCumulative md = true := by
        intro more hmore
        rw [stored_accumulate_or]
        exact hstored (first ++ more) (Option.map_eq_some_iff.2 ⟨more, hmore, rfl⟩)
      have hseries (more : List Metric) :
          (c.series (acc.accumulate first) name id).offer (c.offered name id more) =
            (c.series acc name id).offer (c.offered name id (first ++ more)) := by
        rw [series_accumulate_offered, offered_append, TimeSeries.offer_append]
      refine (ih hrest).trans ?_
      constructor
      · intro h metrics hmetrics
        obtain ⟨more, hmore, rfl⟩ := Option.map_eq_some_iff.1 hmetrics
        rw [← hseries]
        exact h more hmore
      · intro h more hmore
        rw [hseries]
        exact h (first ++ more) (Option.map_eq_some_iff.2 ⟨more, hmore, rfl⟩)
    | «export» =>
      have hnow : ∀ md ∈ c.stored acc name, c.isCumulative md = true := by
        intro md hmd
        refine hstored _ rfl md ?_
        rw [Option.mem_def.1 hmd, Option.some_or]
        rfl
      have hrest : ∀ more, beforeLastExport rest = some more →
          ∀ md ∈ (c.stored acc.exportMetrics.2 name).or (c.metadataOf name more).head?,
            c.isCumulative md = true := by
        intro more hmore
        rw [stored_export]
        have hall := hstored _ rfl
        rw [hmore] at hall
        exact hall
      have hexporting : (∀ acc' ∈ exporting acc (.export :: rest),
            InflatesExactly (c.series acc' name id)) ↔
          (∀ p ∈ (c.series acc name id).points.dropLast, NoOverflow p) ∧
            ∀ acc' ∈ exporting acc.exportMetrics.2 rest, InflatesExactly (c.series acc' name id) := by
        rw [← inflatesExactly_iff]
        exact List.forall_mem_cons
      -- the export splits the points where the last one of them stays in the series
      have hsplit (offers : List (Bool × P)) :
          (∀ p ∈ ((c.series acc name id).offer offers).points.dropLast, NoOverflow p) ↔
            (∀ p ∈ (c.series acc name id).points.dropLast, NoOverflow p) ∧
            ∀ p ∈ ((c.series acc.exportMetrics.2 name id).offer offers).points.dropLast,
              NoOverflow p := by
        rw [series_export_cumulative id hnow, TimeSeries.points_offer, TimeSeries.points_offer,
          TimeSeries.points_keepLast, TimeSeries.lastPoint_keepLast, TimeSeries.lastPoint_eq]
        exact List.forall_mem_dropLast_append _ _
      rw [hexporting, ih hrest]
      constructor
      · rintro ⟨hpoints, hmore⟩ metrics hmetrics
        obtain rfl := Option.some.inj hmetrics
        rw [hsplit]
        refine ⟨hpoints, ?_⟩
        cases hlast : beforeLastExport rest with
        | none =>
          rw [series_export_cumulative id hnow]
          exact TimeSeries.forall_dropLast_keepLast _
        | some more => exact hmore more hlast
      · intro h
        have hall := (hsplit _).1 (h _ rfl)
        refine ⟨hall.1, ?_⟩
        intro more hmore
        rw [hmore] at hall
        exact hall.2

/-- The exports of one kind over a run. -/
theorem exporting_iff (c : Channel M P) (calls : List OtelMetricsCall) :
    (∀ acc ∈ exporting {} calls, ∀ ts ∈ c.inflatedSeries acc, InflatesExactly ts) ↔
      c.FollowedInRange calls := by
  have hnew : InflatesExactly ({} : TimeSeries P) := by
    rw [inflatesExactly_iff]
    intro p hp
    cases hp
  have hseries (name : String) (id : TimeSeriesId) : c.series {} name id = {} := by
    rw [series, c.table_new]
    rfl
  have hpoints (name : String) (id : TimeSeriesId) (metrics : List Metric) :
      ((c.series {} name id).offer (c.offered name id metrics)).points =
        keptFrom none (c.offered name id metrics) := by
    rw [hseries]
    rfl
  have hfirst {name : String} {metrics : List Metric} (hmetrics : beforeLastExport calls = some metrics)
      (hstarts : c.StartsCumulative name metrics) : ∀ metrics, beforeLastExport calls = some metrics →
        ∀ md ∈ (c.stored {} name).or (c.metadataOf name metrics).head?, c.isCumulative md = true := by
    obtain ⟨first, hhead, hcumulative⟩ := hstarts
    intro metrics' hmetrics' md hmd
    obtain rfl := Option.some.inj (hmetrics.symm.trans hmetrics')
    rw [stored_new, Option.none_or, hhead] at hmd
    cases hmd
    exact hcumulative
  constructor
  · intro h metrics hmetrics name id hstarts
    rw [← hpoints]
    refine (exporting_series_iff id (hfirst hmetrics hstarts)).1 ?_ metrics hmetrics
    intro acc hacc
    by_cases hnone : c.stored acc name = none
    · have hempty : c.series acc name id = {} := by
        rw [series, Option.map_eq_none_iff.1 hnone]
        rfl
      rw [hempty]
      exact hnew
    · obtain ⟨md, hmd⟩ := Option.ne_none_iff_exists'.1 hnone
      obtain ⟨metrics', hmetrics', hstored⟩ := stored_of_exporting hacc hmd
      exact (forall_inflatedSeries hnew).1 (h acc hacc) name id
        ⟨md, hmd, hfirst hmetrics hstarts metrics' hmetrics' md hstored⟩
  · intro h acc hacc
    rw [forall_inflatedSeries hnew]
    rintro name id ⟨md, hmd, hcumulative⟩
    obtain ⟨metrics, hmetrics, hstored⟩ := stored_of_exporting hacc hmd
    rw [stored_new, Option.none_or] at hstored
    have hstarts : c.StartsCumulative name metrics := ⟨md, hstored, hcumulative⟩
    refine (exporting_series_iff id (hfirst hmetrics hstarts)).2 ?_ acc hacc
    intro metrics' hmetrics'
    obtain rfl := Option.some.inj (hmetrics.symm.trans hmetrics')
    rw [hpoints]
    exact h metrics hmetrics name id hstarts

end Channel

/-- Nothing that `take_and_inflate_data_points` adds up in an export is out of range, and copies are
injected exactly where they should be. -/
structure ExportsExactly (acc : OtelMetricsAccumulator) : Prop where
  sums : ∀ ts ∈ Channel.sums.inflatedSeries acc, InflatesExactly ts
  histograms : ∀ ts ∈ Channel.histograms.inflatedSeries acc, InflatesExactly ts
  summaries : ∀ ts ∈ Channel.summaries.inflatedSeries acc, InflatesExactly ts

/-- All exports of a run are exact if and only if the points that it keeps before the last export,
but for the last one of each series, leave room for the addition. -/
theorem exports_exactly_iff (calls : List OtelMetricsCall) :
    (∀ acc ∈ exporting {} calls, ExportsExactly acc) ↔
      Channel.sums.FollowedInRange calls ∧ Channel.histograms.FollowedInRange calls ∧
        Channel.summaries.FollowedInRange calls := by
  rw [← Channel.exporting_iff, ← Channel.exporting_iff, ← Channel.exporting_iff]
  constructor
  · intro h
    exact ⟨fun acc hacc => (h acc hacc).sums, fun acc hacc => (h acc hacc).histograms,
      fun acc hacc => (h acc hacc).summaries⟩
  · rintro ⟨hsums, hhistograms, hsummaries⟩ acc hacc
    exact ⟨hsums acc hacc, hhistograms acc hacc, hsummaries acc hacc⟩

/-- A cumulative sum with two points in a row, and an export. -/
def twoPoints (first second : NumberDataPoint) : List OtelMetricsCall :=
  [.accumulate [sampleSum cumulative first, sampleSum cumulative second], .export]

/-- A point of the last nanosecond that fits. -/
def lastNanosecond : NumberDataPoint := samplePoint (.asInt 5) 18446744073709551615

/-- A point long before it. -/
def secondHundred : NumberDataPoint := samplePoint (.asInt 7) 100000000000

omit [External] in
theorem not_noOverflow_lastNanosecond : ¬ NoOverflow lastNanosecond := by
  rw [NoOverflow, lastNanosecond, time_samplePoint]
  unfold maxTimeBetweenDataNanos UInt64.size
  omega

omit [External] in
/-- The sum wraps: the export is not exact, and a copy of the later point is injected before the
earlier one. -/
theorem late_time_not_exact :
    ¬ (∀ acc ∈ @exporting sampleExternal {} (twoPoints lastNanosecond secondHundred),
      @ExportsExactly sampleExternal acc) ∧
    (TimeSeries.takeAndInflateDataPoints { newPoints := [lastNanosecond, secondHundred] }).1 =
      [toZero lastNanosecond 18446744043709551615, lastNanosecond,
        cloneWithTimestamp lastNanosecond 70000000000, secondHundred] := by
  constructor
  · intro h
    have hsums := (@Channel.exporting_iff sampleExternal _ _ _ (@Channel.sums sampleExternal) _).1
      fun acc hacc => @ExportsExactly.sums sampleExternal acc (h acc hacc)
    have hfollowed := hsums _ rfl "requests" (@TimeSeriesId.ofAttributes sampleExternal [])
      ⟨_, rfl, rfl⟩ lastNanosecond List.mem_cons_self
    exact not_noOverflow_lastNanosecond hfollowed
  · have hgap : wrappingAdd (getTimeUnixNano lastNanosecond) maxTimeBetweenDataNanos <
        getTimeUnixNano secondHundred := by
      rw [lastNanosecond, secondHundred, time_samplePoint, time_samplePoint, wrappingAdd]
      unfold maxTimeBetweenDataNanos UInt64.size
      omega
    rw [TimeSeries.takeAndInflateDataPoints_eq, inflated, withZero, inflated, withCopy, if_pos hgap]
    rfl

end TelemetryExporter
