import TelemetryExporter.Model.Service
import TelemetryExporter.Verify.TimeSeries

/-!
# The accumulator and its time series

Every operation of a `MetricAccumulator` does to each of its series what the series' own points do
to it, so a run of the accumulator is a run of every series.
-/

namespace TelemetryExporter

open DataPoint

namespace MetricAccumulator

variable {M P : Type} [DataPoint P] [External]

/-- The time series with the identity; a new one if there is none. -/
def series (ma : MetricAccumulator M P) (id : TimeSeriesId) : TimeSeries P :=
  (ma.timeSeries.get? id).getD {}

/-- All points of a series have its identity. -/
def WellKeyed (ma : MetricAccumulator M P) : Prop :=
  ∀ row ∈ ma.timeSeries.rows, ∀ p, p ∈ row.2.newPoints ∨ p ∈ row.2.previousPoint →
    timeSeriesId p = row.1

/-- `accumulate_if_different` or `accumulate_as_is`. -/
def accumulatePoints (ma : MetricAccumulator M P) (isCumulative : Bool) (dps : List P) :
    MetricAccumulator M P :=
  if isCumulative then ma.accumulateIfDifferent dps else ma.accumulateAsIs dps

/-- `take_inflated` or `take_as_is`. -/
def takePoints (ma : MetricAccumulator M P) (isCumulative : Bool) :
    List P × MetricAccumulator M P :=
  if isCumulative then ma.takeInflated else ma.takeAsIs

/-- What accumulating one point does to a series. -/
def accumulatePoint (isCumulative : Bool) (dp : P) (ts : TimeSeries P) : TimeSeries P :=
  if isCumulative then ts.pushIfDifferent dp else ts.push dp

/-- The accumulator after one point. -/
def accumulateOne (ma : MetricAccumulator M P) (isCumulative : Bool) (dp : P) :
    MetricAccumulator M P :=
  { ma with
    timeSeries := ma.timeSeries.entry (timeSeriesId dp) {} (accumulatePoint isCumulative dp) }

theorem accumulatePoints_cons (ma : MetricAccumulator M P) (isCumulative : Bool) (dp : P)
    (dps : List P) :
    ma.accumulatePoints isCumulative (dp :: dps) =
      (ma.accumulateOne isCumulative dp).accumulatePoints isCumulative dps := by
  cases isCumulative <;> rfl

theorem accumulatePoints_name (ma : MetricAccumulator M P) (isCumulative : Bool) (dps : List P) :
    (ma.accumulatePoints isCumulative dps).name = ma.name ∧
      (ma.accumulatePoints isCumulative dps).metadata = ma.metadata := by
  induction dps generalizing ma with
  | nil => cases isCumulative <;> exact ⟨rfl, rfl⟩
  | cons dp dps ih =>
    rw [accumulatePoints_cons]
    exact ih _

omit [External] in
theorem takePoints_name (ma : MetricAccumulator M P) (isCumulative : Bool) :
    (ma.takePoints isCumulative).2.name = ma.name ∧
      (ma.takePoints isCumulative).2.metadata = ma.metadata := by
  cases isCumulative <;> exact ⟨rfl, rfl⟩

/-- The points of the accumulator's series are those of the identity. -/
theorem series_accumulatePoints (ma : MetricAccumulator M P) (isCumulative : Bool) (dps : List P)
    (id : TimeSeriesId) :
    (ma.accumulatePoints isCumulative dps).series id =
      (seriesRun isCumulative (ma.series id)
        ((dps.filter fun dp => timeSeriesId dp = id).map .accumulate)).2 := by
  induction dps generalizing ma with
  | nil => cases isCumulative <;> rfl
  | cons dp dps ih =>
    rw [accumulatePoints_cons, ih]
    have hseries : (ma.accumulateOne isCumulative dp).series id =
        if id = timeSeriesId dp then accumulatePoint isCumulative dp (ma.series id)
        else ma.series id := by
      simp only [accumulateOne, series, Table.get?_entry]
      split
      · next heq => rw [heq, Option.getD_some]
      · rfl
    rw [hseries]
    by_cases h : timeSeriesId dp = id
    · rw [if_pos h.symm, List.filter_cons_of_pos (by simpa using h), List.map_cons, seriesRun]
      rfl
    · rw [if_neg (Ne.symm h), List.filter_cons_of_neg (by simpa using h)]

omit [External] in
theorem mem_inflated [LawfulDataPoint P] {prev : Option P} {points : List P} {point : Origin × P}
    (h : point ∈ inflated prev points) :
    ∃ p, (p ∈ points ∨ p ∈ prev) ∧ attributes point.2 = attributes p := by
  induction points generalizing prev with
  | nil => cases prev <;> simp [inflated] at h
  | cons this rest ih =>
    have hrest (h : point ∈ inflated (some this) rest) :
        ∃ p, (p ∈ this :: rest ∨ p ∈ prev) ∧ attributes point.2 = attributes p := by
      obtain ⟨p, hp | hp, hattributes⟩ := ih h
      · exact ⟨p, .inl (List.mem_cons_of_mem _ hp), hattributes⟩
      · obtain rfl : this = p := by simpa using hp
        exact ⟨this, .inl List.mem_cons_self, hattributes⟩
    cases prev with
    | none =>
      rw [inflated, List.mem_append, withZero, List.mem_append] at h
      rcases h with (h | h) | h
      · refine ⟨this, .inl List.mem_cons_self, ?_⟩
        split at h
        · cases h
        · obtain rfl := List.mem_singleton.1 h
          exact LawfulDataPoint.attributes_toZero this _
      · obtain rfl := List.mem_singleton.1 h
        exact ⟨this, .inl List.mem_cons_self, rfl⟩
      · exact hrest h
    | some prev =>
      rw [inflated, List.mem_append, withCopy, List.mem_append] at h
      rcases h with (h | h) | h
      · refine ⟨prev, .inr rfl, ?_⟩
        split at h
        · obtain rfl := List.mem_singleton.1 h
          exact LawfulDataPoint.attributes_clone prev _
        · cases h
      · obtain rfl := List.mem_singleton.1 h
        exact ⟨this, .inl List.mem_cons_self, rfl⟩
      · exact hrest h

omit [External] in
/-- What an export does to the series. -/
theorem takePoints_eq (ma : MetricAccumulator M P) (isCumulative : Bool) :
    ma.takePoints isCumulative =
      ((ma.timeSeries.rows.map fun row =>
          (seriesRun isCumulative row.2 [.take]).1.map Prod.snd).flatten,
        { ma with timeSeries :=
          (ma.timeSeries.iterMut fun ts => ((), (seriesRun isCumulative ts [.take]).2)).2 }) := by
  cases isCumulative with
  | true =>
    have htake (ts : TimeSeries P) : ts.takeAndInflateDataPoints =
        ((seriesRun true ts [.take]).1.map Prod.snd, (seriesRun true ts [.take]).2) := by
      obtain ⟨previousPoint, newPoints⟩ := ts
      rw [TimeSeries.takeAndInflateDataPoints_eq]
      simp [seriesRun, TimeSeries.lastPoint]
    simp only [takePoints, takeInflated, Table.iterMut, htake, if_true]
  | false =>
    simp only [takePoints, takeAsIs, Table.iterMut, seriesRun, Bool.false_eq_true, if_false,
      List.append_nil, List.map_map, Function.comp_def, List.map_id_fun', id_eq]

theorem WellKeyed.accumulateOne {ma : MetricAccumulator M P} (h : ma.WellKeyed)
    (isCumulative : Bool) (dp : P) : (ma.accumulateOne isCumulative dp).WellKeyed := by
  have hpush (ts : TimeSeries P)
      (hts : ∀ p, p ∈ ts.newPoints ∨ p ∈ ts.previousPoint → timeSeriesId p = timeSeriesId dp) :
      ∀ p, p ∈ (accumulatePoint isCumulative dp ts).newPoints ∨
        p ∈ (accumulatePoint isCumulative dp ts).previousPoint →
          timeSeriesId p = timeSeriesId dp := by
    have hpushed : ∀ p, p ∈ (ts.push dp).newPoints ∨ p ∈ (ts.push dp).previousPoint →
        timeSeriesId p = timeSeriesId dp := by
      intro p hp
      simp only [TimeSeries.push, List.mem_append, List.mem_singleton] at hp
      rcases hp with (hp | rfl) | hp
      · exact hts p (.inl hp)
      · rfl
      · exact hts p (.inr hp)
    unfold accumulatePoint TimeSeries.pushIfDifferent
    split
    · split
      · exact hpushed
      · exact hts
    · exact hpushed
  exact Table.forall_updateRows
    (Q := fun id (ts : TimeSeries P) =>
      ∀ p, p ∈ ts.newPoints ∨ p ∈ ts.previousPoint → timeSeriesId p = id) h
    (hpush {} (by simp)) hpush

theorem WellKeyed.accumulatePoints {ma : MetricAccumulator M P} (h : ma.WellKeyed)
    (isCumulative : Bool) (dps : List P) : (ma.accumulatePoints isCumulative dps).WellKeyed := by
  induction dps generalizing ma with
  | nil => cases isCumulative <;> exact h
  | cons dp dps ih =>
    rw [accumulatePoints_cons]
    exact ih (h.accumulateOne isCumulative dp)

theorem WellKeyed.takePoints {ma : MetricAccumulator M P} (h : ma.WellKeyed) (isCumulative : Bool) :
    (ma.takePoints isCumulative).2.WellKeyed := by
  rw [takePoints_eq]
  intro taken htaken p hp
  obtain ⟨row, hrow, rfl⟩ := List.mem_map.1 htaken
  refine h row hrow p ?_
  cases isCumulative with
  | true =>
    simp only [seriesRun, if_true, List.not_mem_nil, false_or, TimeSeries.lastPoint,
      Option.mem_def, Option.or_eq_some_iff] at hp
    rcases hp with hp | ⟨-, hp⟩
    · exact .inl (List.mem_of_getLast? hp)
    · exact .inr hp
  | false =>
    simp only [seriesRun, Bool.false_eq_true, if_false, List.not_mem_nil, false_or] at hp
    exact .inr hp

omit [External] in
theorem series_takePoints (ma : MetricAccumulator M P) (isCumulative : Bool)
    (id : TimeSeriesId) :
    (ma.takePoints isCumulative).2.series id =
      (seriesRun isCumulative (ma.series id) [.take]).2 := by
  rw [takePoints_eq]
  simp only [series, Table.get?_iterMut]
  cases ma.timeSeries.get? id with
  | some ts => rfl
  | none => cases isCumulative <;> rfl

/-- The exported points with the identity are those of its series. -/
theorem filter_takePoints [LawfulDataPoint P] {ma : MetricAccumulator M P} (h : ma.WellKeyed)
    (isCumulative : Bool) (id : TimeSeriesId) :
    (ma.takePoints isCumulative).1.filter (fun dp => timeSeriesId dp = id) =
      (seriesRun isCumulative (ma.series id) [.take]).1.map Prod.snd := by
  have hkeys : ∀ row ∈ ma.timeSeries.rows,
      ∀ p ∈ (seriesRun isCumulative row.2 [.take]).1.map Prod.snd, timeSeriesId p = row.1 := by
    intro row hrow p hp
    obtain ⟨point, hpoint, rfl⟩ := List.mem_map.1 hp
    cases isCumulative with
    | true =>
      simp only [seriesRun, if_true, List.append_nil] at hpoint
      obtain ⟨p, hp, hattributes⟩ := mem_inflated hpoint
      rw [timeSeriesId, hattributes]
      exact h row hrow p hp
    | false =>
      simp only [seriesRun, Bool.false_eq_true, if_false, List.append_nil] at hpoint
      obtain ⟨q, hq, rfl⟩ := List.mem_map.1 hpoint
      exact h row hrow q (.inl hq)
  rw [takePoints_eq, ← List.flatMap_def, List.filter_flatMap]
  rw [Table.flatMap_rows (k := id) (g := fun _ ts =>
    ((seriesRun isCumulative ts [.take]).1.map Prod.snd).filter fun dp => timeSeriesId dp = id)
    ?_ ma.timeSeries.nodup]
  · change (Option.map _ (ma.timeSeries.get? id)).getD [] = _
    rw [series]
    cases hts : ma.timeSeries.get? id with
    | none => cases isCumulative <;> rfl
    | some ts =>
      have hrow := Table.mem_of_lookup hts
      rw [Option.map_some, Option.getD_some, Option.getD_some, List.filter_eq_self]
      intro p hp
      simpa using hkeys (id, ts) hrow p hp
  · intro row hrow hne
    rw [List.filter_eq_nil_iff]
    intro p hp
    simpa [hkeys row hrow p hp] using hne

end MetricAccumulator

/-! ## Runs of a `MetricAccumulator` -/

/-- A call of `accumulate_if_different` (or `accumulate_as_is`), or of `take_inflated` (or
`take_as_is`). -/
inductive AccumulatorCall (P : Type) where
  | accumulate (dps : List P)
  | take

section

variable {M P : Type} [DataPoint P]

theorem seriesRun_append (isCumulative : Bool) (ts : TimeSeries P) (as bs : List (SeriesCall P)) :
    seriesRun isCumulative ts (as ++ bs) =
      ((seriesRun isCumulative ts as).1 ++
          (seriesRun isCumulative (seriesRun isCumulative ts as).2 bs).1,
        (seriesRun isCumulative (seriesRun isCumulative ts as).2 bs).2) := by
  induction as generalizing ts with
  | nil => rfl
  | cons call as ih =>
    cases call with
    | accumulate dp => exact ih _
    | take => cases isCumulative <;> simp [seriesRun, ih]

theorem seriesRun_accumulate (isCumulative : Bool) (ts : TimeSeries P) (dps : List P) :
    (seriesRun isCumulative ts (dps.map .accumulate)).1 = [] := by
  induction dps generalizing ts with
  | nil => rfl
  | cons dp dps ih => exact ih _

omit [DataPoint P] in
theorem accumulated_map (dps : List P) : accumulated (dps.map .accumulate) = dps := by
  induction dps with
  | nil => rfl
  | cons dp dps ih => simp [accumulated, ih]

variable [External]

/-- A run: the exported points, and the accumulator at the end. -/
def accumulatorRun (isCumulative : Bool) :
    MetricAccumulator M P → List (AccumulatorCall P) → List P × MetricAccumulator M P
  | ma, [] => ([], ma)
  | ma, .accumulate dps :: rest =>
    accumulatorRun isCumulative (ma.accumulatePoints isCumulative dps) rest
  | ma, .take :: rest =>
    let (points, ma) := ma.takePoints isCumulative
    let (more, ma) := accumulatorRun isCumulative ma rest
    (points ++ more, ma)

/-- The incoming points of a series. -/
def incoming (id : TimeSeriesId) : List (AccumulatorCall P) → List P
  | [] => []
  | .accumulate dps :: rest => dps.filter (fun dp => timeSeriesId dp = id) ++ incoming id rest
  | .take :: rest => incoming id rest

/-- A run of the accumulator is a run of each of its series. -/
theorem accumulatorRun_series [LawfulDataPoint P] {ma : MetricAccumulator M P} (h : ma.WellKeyed)
    (isCumulative : Bool) (id : TimeSeriesId) (calls : List (AccumulatorCall P)) :
    ∃ seriesCalls, accumulated seriesCalls = incoming id calls ∧
      (accumulatorRun isCumulative ma calls).1.filter (fun dp => timeSeriesId dp = id) =
        (seriesRun isCumulative (ma.series id) seriesCalls).1.map Prod.snd := by
  induction calls generalizing ma with
  | nil => exact ⟨[], rfl, rfl⟩
  | cons call rest ih =>
    cases call with
    | accumulate dps =>
      obtain ⟨calls, haccumulated, hexported⟩ := ih (h.accumulatePoints isCumulative dps)
      refine ⟨(dps.filter fun dp => timeSeriesId dp = id).map .accumulate ++ calls, ?_, ?_⟩
      · rw [accumulated_append, accumulated_map, haccumulated, incoming]
      · rw [seriesRun_append, seriesRun_accumulate, List.nil_append, accumulatorRun, hexported,
          MetricAccumulator.series_accumulatePoints]
    | take =>
      obtain ⟨calls, haccumulated, hexported⟩ := ih (h.takePoints isCumulative)
      refine ⟨.take :: calls, haccumulated, ?_⟩
      have happend := seriesRun_append isCumulative (ma.series id) [.take] calls
      rw [List.singleton_append] at happend
      rw [happend, accumulatorRun, List.filter_append, MetricAccumulator.filter_takePoints h, hexported,
        MetricAccumulator.series_takePoints, List.map_append]

/-- The points that a new cumulative series exports, wherever the exports come: increasing in time,
with a zero first, no large gap without a repetition of the value, and no injected point that is
not a zero or a repetition. -/
theorem inflated_series_rate_safe [LawfulDataPoint P] {ma : MetricAccumulator M P}
    (hnew : ma.timeSeries = .empty) {calls : List (AccumulatorCall P)} {id : TimeSeriesId}
    (hincreasing : (incoming id calls).Pairwise fun p q => getTimeUnixNano p < getTimeUnixNano q)
    (hrange : ∀ p ∈ incoming id calls, 0 < getTimeUnixNano p ∧ NoOverflow p) :
    ∃ labelled : List (Origin × P),
      (accumulatorRun true ma calls).1.filter (fun dp => timeSeriesId dp = id) =
        labelled.map Prod.snd ∧
      (labelled.map Prod.snd).Pairwise (fun p q => getTimeUnixNano p < getTimeUnixNano q) ∧
      (∀ first ∈ (labelled.map Prod.snd).head?, isZero first = true) ∧
      (labelled.map Prod.snd).IsChain CloseOrSame ∧
      (receivedPoints labelled).Sublist (incoming id calls) ∧ TrueLabels none labelled := by
  have hkeyed : ma.WellKeyed := by
    intro row hrow
    rw [hnew] at hrow
    cases hrow
  obtain ⟨seriesCalls, haccumulated, hexported⟩ := accumulatorRun_series hkeyed true id calls
  have hseries : ma.series id = {} := by
    rw [MetricAccumulator.series, hnew]
    rfl
  obtain ⟨kept, hout, hkept⟩ := seriesRun_cumulative (ma.series id) seriesCalls
  rw [hseries, haccumulated] at hkept
  rw [hseries] at hexported hout
  have hpre : kept.Sublist (withoutRepeats none (incoming id calls)) := by
    have hwhole : kept ++ (seriesRun true {} seriesCalls).2.newPoints =
        withoutRepeats none (incoming id calls) := hkept
    rw [← hwhole]
    exact List.sublist_append_left kept _
  have hsublist : kept.Sublist (incoming id calls) := hpre.trans (withoutRepeats_sublist _ _)
  have hordered := hincreasing.sublist hsublist
  obtain ⟨hchain, hzero⟩ := inflated_none_chain
    (fun p hp => (hrange p (hsublist.subset hp)).2) (fun p hp => (hrange p (hsublist.subset hp)).1)
    hordered.isChain
  refine ⟨inflated none kept, hexported.trans (congrArg (List.map Prod.snd) hout), ?_, hzero,
    hchain.imp fun _ _ h => h.2, ?_, trueLabels_inflated none kept⟩
  · have : IsTrans P fun p q => getTimeUnixNano p < getTimeUnixNano q := ⟨fun _ _ _ => Nat.lt_trans⟩
    exact List.isChain_iff_pairwise.1 (hchain.imp fun _ _ h => h.1)
  · rw [receivedPoints_inflated]
    exact hsublist

end

/-! ## A series of `NaN` -/

/-- A point without attributes. -/
def samplePoint (value : NumberValue) (timeUnixNano : Nat) : NumberDataPoint :=
  { attributes := [], startTimeUnixNano := 0, timeUnixNano, value := some value }

theorem time_samplePoint (value : NumberValue) (t : Nat) :
    getTimeUnixNano (samplePoint value t) = t := rfl

/-- An accumulator without time series. -/
def sampleAccumulator : MetricAccumulator Unit NumberDataPoint :=
  { name := "", description := "", unit := "", metadata := (), timeSeries := .empty }

/-- Two points, an age apart, and an export. -/
def sampleCalls (first second : NumberValue) : List (AccumulatorCall NumberDataPoint) :=
  [.accumulate [samplePoint first 1000000000, samplePoint second 101000000000], .take]

theorem incoming_sampleCalls [External] (first second : NumberValue) :
    incoming (.ofAttributes []) (sampleCalls first second) =
      [samplePoint first 1000000000, samplePoint second 101000000000] := by
  simp [incoming, sampleCalls, timeSeriesId, attributes, samplePoint]

theorem increasing_sampleCalls [External] (first second : NumberValue) :
    (incoming (.ofAttributes []) (sampleCalls first second)).Pairwise
      fun p q => getTimeUnixNano p < getTimeUnixNano q := by
  rw [incoming_sampleCalls]
  simp [getTimeUnixNano, samplePoint]

theorem range_sampleCalls [External] (first second : NumberValue) :
    ∀ p ∈ incoming (.ofAttributes []) (sampleCalls first second),
      0 < getTimeUnixNano p ∧ NoOverflow p := by
  have hrange {t : Nat} (hpos : 0 < t) (hle : t ≤ 101000000000) (value : NumberValue) :
      0 < getTimeUnixNano (samplePoint value t) ∧ NoOverflow (samplePoint value t) := by
    rw [NoOverflow, time_samplePoint]
    refine ⟨hpos, ?_⟩
    unfold maxTimeBetweenDataNanos UInt64.size
    omega
  rw [incoming_sampleCalls]
  intro p hp
  rcases List.mem_pair.1 hp with rfl | rfl
  · exact hrange (by omega) (by omega) first
  · exact hrange (by omega) (by omega) second

/-- The quiet `NaN`. -/
def quietNaN : NumberValue := .asDouble (Float.ofBits 0x7ff8000000000000)

theorem isEquivalent_nan (s t : Nat) :
    isEquivalent (samplePoint quietNaN s) (samplePoint quietNaN t) = false := by
  have hnan : Float.beq (Float.ofBits 0x7ff8000000000000) (Float.ofBits 0x7ff8000000000000) =
      false := by
    decide
  simp only [isEquivalent, samplePoint, quietNaN, optionEq, NumberValue.valueEq, hnan,
    Bool.false_and]

theorem isZero_nan (t : Nat) : isZero (samplePoint quietNaN t) = false := by
  have hnan : isZeroFloat (Float.ofBits 0x7ff8000000000000) = false := by
    decide
  simp only [isZero, samplePoint, quietNaN, hnan]

/-- Two points of a new series that differ, and an export. -/
theorem accumulatorRun_pair [External] {p q : NumberDataPoint}
    (hid : timeSeriesId q = timeSeriesId p) (hne : isEquivalent p q = false) :
    (accumulatorRun true sampleAccumulator [.accumulate [p, q], .take]).1 =
      (inflated none [p, q]).map Prod.snd := by
  have hrows : (sampleAccumulator.accumulatePoints true [p, q]).timeSeries.rows =
      [(timeSeriesId p, { newPoints := [p, q] })] := by
    simp [MetricAccumulator.accumulatePoints, MetricAccumulator.accumulateIfDifferent,
      MetricAccumulator.pushIfDifferent, TimeSeries.lastPoint, TimeSeries.push, sampleAccumulator,
      Table.entry, Table.updateRows, Table.empty, hid, hne]
  have htake : ((sampleAccumulator.accumulatePoints true [p, q]).takePoints true).1 =
      (inflated none [p, q]).map Prod.snd := by
    rw [MetricAccumulator.takePoints_eq, hrows]
    simp only [List.map_cons, List.map_nil, List.flatten_cons, List.flatten_nil, List.append_nil,
      seriesRun, if_true]
  exact (List.append_nil _).trans htake

theorem inflated_series_rate_safe_ints :
    ∃ labelled : List (Origin × NumberDataPoint),
      (@accumulatorRun Unit NumberDataPoint _ sampleExternal true sampleAccumulator
          (sampleCalls (.asInt 5) (.asInt 7))).1.filter
        (fun dp => @timeSeriesId sampleExternal _ _ dp = @TimeSeriesId.ofAttributes sampleExternal []) =
        labelled.map Prod.snd ∧
      (labelled.map Prod.snd).IsChain CloseOrSame ∧ TrueLabels none labelled := by
  obtain ⟨labelled, hexported, -, -, hclose, -, hlabels⟩ :=
    @inflated_series_rate_safe Unit NumberDataPoint _ sampleExternal _ sampleAccumulator rfl _ _
      (@increasing_sampleCalls sampleExternal (.asInt 5) (.asInt 7))
      (@range_sampleCalls sampleExternal (.asInt 5) (.asInt 7))
  exact ⟨labelled, hexported, hclose, hlabels⟩

/-- A `NaN` is not equivalent to its own copy, which comes long after it. -/
theorem nan_series_not_close :
    (@incoming _ _ sampleExternal (@TimeSeriesId.ofAttributes sampleExternal [])
        (sampleCalls quietNaN quietNaN)).Pairwise (fun p q => getTimeUnixNano p < getTimeUnixNano q) ∧
      (∀ p ∈ @incoming _ _ sampleExternal (@TimeSeriesId.ofAttributes sampleExternal [])
        (sampleCalls quietNaN quietNaN), 0 < getTimeUnixNano p ∧ NoOverflow p) ∧
      ¬ (@accumulatorRun Unit NumberDataPoint _ sampleExternal true sampleAccumulator
          (sampleCalls quietNaN quietNaN)).1.IsChain fun p q =>
        getTimeUnixNano q ≤ getTimeUnixNano p + maxTimeBetweenDataNanos ∨
          isEquivalent p q = true := by
  refine ⟨@increasing_sampleCalls sampleExternal _ _, @range_sampleCalls sampleExternal _ _,
    fun hchain => ?_⟩
  have hrun := @accumulatorRun_pair sampleExternal (samplePoint quietNaN 1000000000)
    (samplePoint quietNaN 101000000000) rfl (isEquivalent_nan _ _)
  have hgap : wrappingAdd (getTimeUnixNano (samplePoint quietNaN 1000000000))
      maxTimeBetweenDataNanos < getTimeUnixNano (samplePoint quietNaN 101000000000) := by
    rw [wrappingAdd_of_lt]
    · unfold maxTimeBetweenDataNanos
      decide
    · unfold maxTimeBetweenDataNanos UInt64.size
      decide
  rw [sampleCalls, hrun, inflated, withZero, isZero_nan, inflated, withCopy, if_pos hgap] at hchain
  simp only [Bool.false_eq_true, if_false, List.cons_append, List.nil_append, List.map_cons,
    List.isChain_cons_cons] at hchain
  obtain ⟨-, hclose, -⟩ := hchain
  rcases hclose with hclose | hequivalent
  · change _ - reportLastTimeNanos ≤ _ at hclose
    have hfar : 1000000000 + maxTimeBetweenDataNanos < 101000000000 - reportLastTimeNanos := by
      unfold maxTimeBetweenDataNanos reportLastTimeNanos
      omega
    exact absurd hclose (Nat.not_le_of_lt hfar)
  · rw [LawfulDataPoint.equivalent_clone, isEquivalent_nan] at hequivalent
    cases hequivalent

end TelemetryExporter
