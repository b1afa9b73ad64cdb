import Mathlib.Data.String.Basic
import TelemetryExporter.Lib.Related
import TelemetryExporter.Verify.MetricTimes

/-!
# The order of the attributes of metrics

A data point belongs to a time series by its attributes, sorted and rendered
(`timeSeriesId_eq_iff`). Apart from that the accumulator never looks at attributes: two runs whose
incoming points have the same attributes in different orders keep the same state and export the same
points (`attribute_order_irrelevant`). A `HashMap` may be iterated in any order, which is part of the
statement.
-/

namespace TelemetryExporter

open DataPoint

/-! ## The order of rendered attributes -/

/-- `Ord` of `Option<String>`. -/
def valueLe : Option String → Option String → Prop
  | none, _ => True
  | some _, none => False
  | some v, some w => v ≤ w

theorem valueLe_total (a b : Option String) : valueLe a b ∨ valueLe b a := by
  cases a with
  | none => exact .inl trivial
  | some v =>
    cases b with
    | none => exact .inr trivial
    | some w => exact le_total v w

theorem valueLe_trans {a b c : Option String} (hab : valueLe a b) (hbc : valueLe b c) :
    valueLe a c := by
  cases a with
  | none => trivial
  | some u =>
    cases b with
    | none => exact hab.elim
    | some v =>
      cases c with
      | none => exact hbc.elim
      | some w => exact le_trans (α := String) hab hbc

theorem valueLe_antisymm {a b : Option String} (hab : valueLe a b) (hba : valueLe b a) : a = b := by
  cases a with
  | none =>
    cases b with
    | none => rfl
    | some w => exact hba.elim
  | some v =>
    cases b with
    | none => exact hab.elim
    | some w => exact congrArg some (le_antisymm (α := String) hab hba)

theorem attributeLe_iff {a b : String × Option String} :
    attributeLe a b = true ↔ a.1 < b.1 ∨ a.1 = b.1 ∧ valueLe a.2 b.2 := by
  obtain ⟨k, v⟩ := a
  obtain ⟨l, w⟩ := b
  unfold attributeLe
  by_cases h : k = l
  · subst h
    rw [if_pos rfl]
    cases v <;> cases w <;> simp [valueLe]
  · rw [if_neg h]
    simp [h]

instance attributeLe_isTotal : Std.Total fun a b => attributeLe a b = true where
  total a b := by
    rw [attributeLe_iff, attributeLe_iff]
    rcases lt_trichotomy a.1 b.1 with h | h | h
    · exact .inl (.inl h)
    · rcases valueLe_total a.2 b.2 with hle | hle
      · exact .inl (.inr ⟨h, hle⟩)
      · exact .inr (.inr ⟨h.symm, hle⟩)
    · exact .inr (.inl h)

instance attributeLe_isTrans : IsTrans (String × Option String) fun a b => attributeLe a b = true where
  trans a b c := by
    rw [attributeLe_iff, attributeLe_iff, attributeLe_iff]
    rintro (hab | ⟨hab, hle⟩) (hbc | ⟨hbc, hle'⟩)
    · exact .inl (lt_trans hab hbc)
    · exact .inl (hbc ▸ hab)
    · exact .inl (hab ▸ hbc)
    · exact .inr ⟨hab.trans hbc, valueLe_trans hle hle'⟩

instance attributeLe_isAntisymm : Std.Antisymm fun a b => attributeLe a b = true where
  antisymm a b := by
    rw [attributeLe_iff, attributeLe_iff]
    rintro (hab | ⟨hab, hle⟩) (hba | ⟨hba, hle'⟩)
    · exact absurd hab (lt_asymm hba)
    · exact absurd hab (hba ▸ lt_irrefl _)
    · exact absurd hba (hab ▸ lt_irrefl _)
    · exact Prod.ext hab (valueLe_antisymm hle hle')

variable [External]

/-- The keys of attributes with their rendered values. -/
def attributePairs (attributes : List KeyValue) : List (String × Option String) :=
  attributes.map fun kv => (kv.key, (kv.value.bind (·.value)).map valueToString)

theorem ofAttributes_eq_iff (as bs : List KeyValue) :
    TimeSeriesId.ofAttributes as = TimeSeriesId.ofAttributes bs ↔
      (attributePairs as).Perm (attributePairs bs) := by
  have hsorted (l : List (String × Option String)) :
      (l.insertionSort fun a b => attributeLe a b).Pairwise fun a b => attributeLe a b = true :=
    List.pairwise_insertionSort _ l
  have hperm (l : List (String × Option String)) : (l.insertionSort fun a b => attributeLe a b).Perm l :=
    List.perm_insertionSort _ l
  constructor
  · intro h
    have heq := congrArg TimeSeriesId.attributes h
    exact (hperm _).symm.trans ((List.Perm.of_eq heq).trans (hperm _))
  · intro h
    have hsame := (hperm (attributePairs as)).trans (h.trans (hperm (attributePairs bs)).symm)
    exact congrArg TimeSeriesId.mk (hsame.eq_of_pairwise' (hsorted _) (hsorted _))

/-- Two points belong to the same time series if and only if they have the same keys with the same
rendered values, counted. -/
theorem timeSeriesId_eq_iff {P : Type} [DataPoint P] (p q : P) :
    timeSeriesId p = timeSeriesId q ↔
      (attributePairs (attributes p) : Multiset (String × Option String)) =
        attributePairs (attributes q) := by
  rw [Multiset.coe_eq_coe]
  exact ofAttributes_eq_iff _ _

/-! ## Points with other attributes -/

omit [External] in
/-- A data point whose attributes can be replaced: nothing else that the trait `DataPoint` offers
depends on them. -/
class ReplaceAttributes (P : Type) [DataPoint P] extends LawfulDataPoint P where
  withAttributes : P → List KeyValue → P
  attributes_with : ∀ p as, attributes (withAttributes p as) = as
  with_attributes : ∀ p, withAttributes p (attributes p) = p
  with_with : ∀ p as bs, withAttributes (withAttributes p as) bs = withAttributes p bs
  time_with : ∀ p as, getTimeUnixNano (withAttributes p as) = getTimeUnixNano p
  isZero_with : ∀ p as, isZero (withAttributes p as) = isZero p
  equivalent_with : ∀ p q as bs,
    isEquivalent (withAttributes p as) (withAttributes q bs) = isEquivalent p q
  clone_with : ∀ p as t,
    cloneWithTimestamp (withAttributes p as) t = withAttributes (cloneWithTimestamp p t) as
  toZero_with : ∀ p as t, toZero (withAttributes p as) t = withAttributes (toZero p t) as

open ReplaceAttributes

instance : ReplaceAttributes NumberDataPoint where
  withAttributes p attributes := { p with attributes }
  attributes_with _ _ := rfl
  with_attributes _ := rfl
  with_with _ _ _ := rfl
  time_with _ _ := rfl
  isZero_with _ _ := rfl
  equivalent_with _ _ _ _ := rfl
  clone_with _ _ _ := rfl
  toZero_with _ _ _ := rfl

instance : ReplaceAttributes HistogramDataPoint where
  withAttributes p attributes := { p with attributes }
  attributes_with _ _ := rfl
  with_attributes _ := rfl
  with_with _ _ _ := rfl
  time_with _ _ := rfl
  isZero_with _ _ := rfl
  equivalent_with _ _ _ _ := rfl
  clone_with _ _ _ := rfl
  toZero_with _ _ _ := rfl

instance : ReplaceAttributes SummaryDataPoint where
  withAttributes p attributes := { p with attributes }
  attributes_with _ _ := rfl
  with_attributes _ := rfl
  with_with _ _ _ := rfl
  time_with _ _ := rfl
  isZero_with _ _ := rfl
  equivalent_with _ _ _ _ := rfl
  clone_with _ _ _ := rfl
  toZero_with _ _ _ := rfl

section Points

variable {P : Type} [DataPoint P] [ReplaceAttributes P] {p q r : P}

/-- The same point, with its attributes in another order. -/
def Reordered (p q : P) : Prop := ∃ as, (attributes p).Perm as ∧ q = withAttributes p as

/-- The same points in the same order, with their attributes in other orders. -/
abbrev AllReordered (ps qs : List P) : Prop := List.Forall₂ Reordered ps qs

namespace Reordered

omit [External] in
theorem attributes (h : Reordered p q) : (DataPoint.attributes p).Perm (DataPoint.attributes q) := by
  obtain ⟨as, hperm, rfl⟩ := h
  rw [attributes_with]
  exact hperm

omit [External] in
theorem symm (h : Reordered p q) : Reordered q p := by
  have hperm := h.attributes
  obtain ⟨as, -, rfl⟩ := h
  refine ⟨DataPoint.attributes p, hperm.symm, ?_⟩
  rw [with_with, with_attributes]

omit [External] in
theorem time (h : Reordered p q) : getTimeUnixNano q = getTimeUnixNano p := by
  obtain ⟨as, -, rfl⟩ := h
  exact time_with p as

omit [External] in
theorem isZero (h : Reordered p q) : DataPoint.isZero q = DataPoint.isZero p := by
  obtain ⟨as, -, rfl⟩ := h
  exact isZero_with p as

omit [External] in
theorem isEquivalent {p' q' : P} (h : Reordered p q) (h' : Reordered p' q') :
    DataPoint.isEquivalent q q' = DataPoint.isEquivalent p p' := by
  obtain ⟨as, -, rfl⟩ := h
  obtain ⟨bs, -, rfl⟩ := h'
  exact equivalent_with p p' as bs

omit [External] in
theorem clone (h : Reordered p q) (t : Nat) :
    Reordered (cloneWithTimestamp p t) (cloneWithTimestamp q t) := by
  obtain ⟨as, hperm, rfl⟩ := h
  refine ⟨as, ?_, clone_with p as t⟩
  rw [LawfulDataPoint.attributes_clone]
  exact hperm

omit [External] in
theorem toZero (h : Reordered p q) (t : Nat) :
    Reordered (DataPoint.toZero p t) (DataPoint.toZero q t) := by
  obtain ⟨as, hperm, rfl⟩ := h
  refine ⟨as, ?_, toZero_with p as t⟩
  rw [LawfulDataPoint.attributes_toZero]
  exact hperm

theorem timeSeriesId_eq (h : Reordered p q) : timeSeriesId p = timeSeriesId q := by
  apply (ofAttributes_eq_iff _ _).2
  exact h.attributes.map _

end Reordered

/-! ## One series -/

/-- Two series with the same points, up to the order of attributes. -/
structure TimeSeries.Related (ts ts' : TimeSeries P) : Prop where
  previousPoint : Option.Rel Reordered ts.previousPoint ts'.previousPoint
  newPoints : AllReordered ts.newPoints ts'.newPoints

omit [External] in
theorem AllReordered.getLast? {ps qs : List P} (h : AllReordered ps qs) :
    Option.Rel Reordered ps.getLast? qs.getLast? := by
  induction h with
  | nil => exact .none
  | @cons p q ps qs hpq hrest ih =>
    rw [List.getLast?_cons, List.getLast?_cons]
    exact .some (ih.getD hpq)

omit [External] in
theorem withCopy_reordered {prev prev' this this' : P} (hprev : Reordered prev prev')
    (hthis : Reordered this this') :
    AllReordered ((withCopy prev this).map Prod.snd) ((withCopy prev' this').map Prod.snd) := by
  unfold withCopy
  rw [hprev.time, hthis.time]
  by_cases hgap : wrappingAdd (getTimeUnixNano prev) maxTimeBetweenDataNanos < getTimeUnixNano this
  · rw [if_pos hgap, if_pos hgap]
    exact .cons (hprev.clone _) (.cons hthis .nil)
  · rw [if_neg hgap, if_neg hgap]
    exact .cons hthis .nil

omit [External] in
theorem withZero_reordered {first first' : P} (h : Reordered first first') :
    AllReordered ((withZero first).map Prod.snd) ((withZero first').map Prod.snd) := by
  unfold withZero
  rw [h.isZero, h.time]
  by_cases hzero : isZero first = true
  · rw [if_pos hzero, if_pos hzero]
    exact .cons h .nil
  · rw [if_neg hzero, if_neg hzero]
    exact .cons (h.toZero _) (.cons h .nil)

omit [External] in
theorem inflated_reordered {prev prev' : Option P} {ps qs : List P}
    (hprev : Option.Rel Reordered prev prev') (h : AllReordered ps qs) :
    AllReordered ((inflated prev ps).map Prod.snd) ((inflated prev' qs).map Prod.snd) := by
  induction h generalizing prev prev' with
  | nil => cases hprev <;> exact .nil
  | cons hpq _ ih =>
    cases hprev with
    | none =>
      rw [inflated, inflated, List.map_append, List.map_append]
      exact List.rel_append (withZero_reordered hpq) (ih (.some hpq))
    | some hlast =>
      rw [inflated, inflated, List.map_append, List.map_append]
      exact List.rel_append (withCopy_reordered hlast hpq) (ih (.some hpq))

namespace TimeSeries.Related

variable {ts ts' : TimeSeries P}

omit [External] in
theorem new : TimeSeries.Related ({} : TimeSeries P) {} := ⟨.none, .nil⟩

omit [External] in
theorem lastPoint (h : ts.Related ts') : Option.Rel Reordered ts.lastPoint ts'.lastPoint :=
  h.newPoints.getLast?.or h.previousPoint

omit [External] in
theorem push (h : ts.Related ts') (hpq : Reordered p q) : (ts.push p).Related (ts'.push q) :=
  ⟨h.previousPoint, List.rel_append h.newPoints (.cons hpq .nil)⟩

omit [External] in
theorem pushIfDifferent (h : ts.Related ts') (hpq : Reordered p q) :
    (ts.pushIfDifferent p).Related (ts'.pushIfDifferent q) := by
  have hsame : (ts'.lastPoint.all fun last => !DataPoint.isEquivalent last q) =
      ts.lastPoint.all fun last => !DataPoint.isEquivalent last p := by
    have hlast := h.lastPoint
    cases hts : ts.lastPoint <;> cases hts' : ts'.lastPoint <;> rw [hts, hts'] at hlast
    · rfl
    · cases hlast
    · cases hlast
    · cases hlast with
      | some hlast => exact congrArg not (hlast.isEquivalent hpq)
  unfold TimeSeries.pushIfDifferent
  rw [hsame]
  split
  · exact h.push hpq
  · exact h

omit [External] in
theorem accumulatePoint (h : ts.Related ts') (isCumulative : Bool) (hpq : Reordered p q) :
    (MetricAccumulator.accumulatePoint isCumulative p ts).Related
      (MetricAccumulator.accumulatePoint isCumulative q ts') := by
  cases isCumulative with
  | true => exact h.pushIfDifferent hpq
  | false => exact h.push hpq

omit [External] in
/-- An export of the series. -/
theorem take (h : ts.Related ts') (isCumulative : Bool) :
    AllReordered ((seriesRun isCumulative ts [.take]).1.map Prod.snd)
        ((seriesRun isCumulative ts' [.take]).1.map Prod.snd) ∧
      (seriesRun isCumulative ts [.take]).2.Related (seriesRun isCumulative ts' [.take]).2 := by
  cases isCumulative with
  | true =>
    simp only [seriesRun, if_true, List.append_nil]
    exact ⟨inflated_reordered h.previousPoint h.newPoints, h.lastPoint, .nil⟩
  | false =>
    simp only [seriesRun, Bool.false_eq_true, if_false, List.append_nil, List.map_map,
      Function.comp_def, List.map_id_fun', id_eq]
    exact ⟨h.newPoints, h.previousPoint, .nil⟩

end TimeSeries.Related

end Points

/-! ## One metric -/

namespace MetricAccumulator

variable {M P : Type} [DataPoint P] [ReplaceAttributes P] {ma ma' : MetricAccumulator M P}

/-- The same series, whatever the order of the map. -/
structure SameMaps (ma ma' : MetricAccumulator M P) : Prop where
  name : ma.name = ma'.name
  description : ma.description = ma'.description
  unit : ma.unit = ma'.unit
  metadata : ma.metadata = ma'.metadata
  timeSeries : Table.Rel Eq ma.timeSeries ma'.timeSeries

/-- The same series, whatever the order of the map and of the attributes. -/
structure Related (ma ma' : MetricAccumulator M P) : Prop where
  name : ma.name = ma'.name
  description : ma.description = ma'.description
  unit : ma.unit = ma'.unit
  metadata : ma.metadata = ma'.metadata
  timeSeries : Table.Rel TimeSeries.Related ma.timeSeries ma'.timeSeries
  keyed : ma.WellKeyed
  keyed' : ma'.WellKeyed

omit [ReplaceAttributes P] in
theorem SameMaps.wellKeyed (h : ma.SameMaps ma') (hkeyed : ma.WellKeyed) : ma'.WellKeyed := by
  intro row hrow p hp
  have hget := (Table.get?_eq_some_iff ma'.timeSeries).2 hrow
  have hsame := h.timeSeries row.1
  rw [hget] at hsame
  cases hma : ma.timeSeries.get? row.1 with
  | none =>
    rw [hma] at hsame
    cases hsame
  | some ts =>
    rw [hma] at hsame
    cases hsame with
    | some hts =>
      subst hts
      exact hkeyed (row.1, _) ((Table.get?_eq_some_iff ma.timeSeries).1 hma) p hp

namespace Related

theorem symm (h : ma.Related ma') : ma'.Related ma where
  name := h.name.symm
  description := h.description.symm
  unit := h.unit.symm
  metadata := h.metadata.symm
  timeSeries := h.timeSeries.symm fun _ _ hts =>
    ⟨hts.previousPoint.symm fun _ _ => Reordered.symm,
      List.Forall₂.flip (hts.newPoints.imp fun _ _ => Reordered.symm)⟩
  keyed := h.keyed'
  keyed' := h.keyed

/-- Another order of the map on the left. -/
theorem of_sameMaps {mb : MetricAccumulator M P} (hsame : ma.SameMaps mb) (h : ma.Related ma') :
    mb.Related ma' where
  name := hsame.name.symm.trans h.name
  description := hsame.description.symm.trans h.description
  unit := hsame.unit.symm.trans h.unit
  metadata := hsame.metadata.symm.trans h.metadata
  timeSeries := by
    refine Table.Rel.comp ?_ (hsame.timeSeries.symm fun _ _ heq => heq.symm) h.timeSeries
    rintro ts _ ts' rfl hts
    exact hts
  keyed := hsame.wellKeyed h.keyed
  keyed' := h.keyed'

theorem table_of_sameMaps {t tb t' : Table String (MetricAccumulator M P)}
    (hsame : Table.Rel MetricAccumulator.SameMaps t tb) (h : Table.Rel MetricAccumulator.Related t t') :
    Table.Rel MetricAccumulator.Related tb t' := by
  have hback : Table.Rel (fun mb ma => MetricAccumulator.SameMaps ma mb) tb t :=
    hsame.symm fun _ _ h => h
  refine hback.comp ?_ h
  intro mb ma ma' hma hrelated
  exact of_sameMaps hma hrelated

theorem series (h : ma.Related ma') (id : TimeSeriesId) : (ma.series id).Related (ma'.series id) :=
  (h.timeSeries id).getD TimeSeries.Related.new

theorem accumulateOne (h : ma.Related ma') (isCumulative : Bool) {p q : P} (hpq : Reordered p q) :
    (ma.accumulateOne isCumulative p).Related (ma'.accumulateOne isCumulative q) where
  name := h.name
  description := h.description
  unit := h.unit
  metadata := h.metadata
  timeSeries := by
    unfold MetricAccumulator.accumulateOne
    rw [hpq.timeSeriesId_eq]
    refine h.timeSeries.entry _ TimeSeries.Related.new ?_
    intro ts ts' hts
    exact hts.accumulatePoint isCumulative hpq
  keyed := h.keyed.accumulateOne isCumulative p
  keyed' := h.keyed'.accumulateOne isCumulative q

theorem accumulatePoints (h : ma.Related ma') (isCumulative : Bool) {ps qs : List P}
    (hpoints : AllReordered ps qs) :
    (ma.accumulatePoints isCumulative ps).Related (ma'.accumulatePoints isCumulative qs) := by
  induction hpoints generalizing ma ma' with
  | nil => cases isCumulative <;> exact h
  | cons hpq _ ih =>
    rw [accumulatePoints_cons, accumulatePoints_cons]
    exact ih (h.accumulateOne isCumulative hpq)

theorem takePoints (h : ma.Related ma') (isCumulative : Bool) :
    (ma.takePoints isCumulative).2.Related (ma'.takePoints isCumulative).2 where
  name := by
    rw [(takePoints_name ma isCumulative).1, (takePoints_name ma' isCumulative).1, h.name]
  description := by
    rw [takePoints_eq, takePoints_eq]
    exact h.description
  unit := by
    rw [takePoints_eq, takePoints_eq]
    exact h.unit
  metadata := by
    rw [(takePoints_name ma isCumulative).2, (takePoints_name ma' isCumulative).2, h.metadata]
  timeSeries := by
    have htable : Table.Rel TimeSeries.Related
        (ma.timeSeries.iterMut fun ts => ((), (seriesRun isCumulative ts [.take]).2)).2
        (ma'.timeSeries.iterMut fun ts => ((), (seriesRun isCumulative ts [.take]).2)).2 := by
      refine h.timeSeries.iterMut ?_
      intro ts ts' hts
      exact (hts.take isCumulative).2
    rw [takePoints_eq, takePoints_eq]
    exact htable
  keyed := h.keyed.takePoints isCumulative
  keyed' := h.keyed'.takePoints isCumulative

/-- The exported points of each series. -/
theorem filter_takePoints (h : ma.Related ma') (isCumulative : Bool) (id : TimeSeriesId) :
    AllReordered ((ma.takePoints isCumulative).1.filter fun p => timeSeriesId p = id)
      ((ma'.takePoints isCumulative).1.filter fun q => timeSeriesId q = id) := by
  rw [MetricAccumulator.filter_takePoints h.keyed, MetricAccumulator.filter_takePoints h.keyed']
  exact ((h.series id).take isCumulative).1

end Related

end MetricAccumulator

/-! ## Metrics and accumulators -/

omit [External] in
/-- A relation between lists of points of any type. -/
abbrev PointsRelation := (P : Type) → [DataPoint P] → [ReplaceAttributes P] → List P → List P → Prop

omit [External] in
/-- The same data, with related points. -/
inductive SameData (Same : PointsRelation) : MetricData → MetricData → Prop
  | gauge {dps dps' : List NumberDataPoint} : Same _ dps dps' → SameData Same (.gauge dps) (.gauge dps')
  | sum {dps dps' : List NumberDataPoint} {aggregationTemporality : Int} {isMonotonic : Bool} :
    Same _ dps dps' →
      SameData Same (.sum { dataPoints := dps, aggregationTemporality, isMonotonic })
        (.sum { dataPoints := dps', aggregationTemporality, isMonotonic })
  | histogram {dps dps' : List HistogramDataPoint} {aggregationTemporality : Int} :
    Same _ dps dps' →
      SameData Same (.histogram { dataPoints := dps, aggregationTemporality })
        (.histogram { dataPoints := dps', aggregationTemporality })
  | summary {dps dps' : List SummaryDataPoint} :
    Same _ dps dps' → SameData Same (.summary dps) (.summary dps')
  | exponentialHistogram {dps dps' : List ExponentialHistogramDataPoint} :
    List.Forall₂ (fun p q => p.attributes.Perm q.attributes ∧ p.timeUnixNano = q.timeUnixNano)
        dps dps' →
      SameData Same (.exponentialHistogram dps) (.exponentialHistogram dps')

omit [External] in
/-- The same metric, with related points. -/
structure SameMetric (Same : PointsRelation) (m m' : Metric) : Prop where
  name : m.name = m'.name
  description : m.description = m'.description
  unit : m.unit = m'.unit
  data : Option.Rel (SameData Same) m.data m'.data

omit [External] in
/-- The same metric, with the attributes of each point in another order. -/
abbrev ReorderedMetric : Metric → Metric → Prop := SameMetric fun _ _ _ => AllReordered

/-- The same points in each series, whatever the order of the series and of the attributes. -/
def SameSeries (P : Type) [DataPoint P] [ReplaceAttributes P] (ps qs : List P) : Prop :=
  ∀ id, AllReordered (ps.filter fun p => timeSeriesId p = id) (qs.filter fun q => timeSeriesId q = id)

/-- The same metric, whatever the order of its series and of the attributes. -/
abbrev SameExported : Metric → Metric → Prop := SameMetric SameSeries

/-- A relation between accumulators of metrics of any kind. -/
abbrev AccumulatorRelation := (M P : Type) → [DataPoint P] → [ReplaceAttributes P] →
  MetricAccumulator M P → MetricAccumulator M P → Prop

namespace OtelMetricsAccumulator

variable {acc acc' : OtelMetricsAccumulator} {R : AccumulatorRelation}

/-- The same names in each map, with related values. -/
structure Rel (R : AccumulatorRelation) (acc acc' : OtelMetricsAccumulator) : Prop where
  droppedDatapoints : acc.droppedDatapoints = acc'.droppedDatapoints
  gauges : Table.Rel (R _ _) acc.gauges acc'.gauges
  sums : Table.Rel (R _ _) acc.sums acc'.sums
  histograms : Table.Rel (R _ _) acc.histograms acc'.histograms
  summaries : Table.Rel (R _ _) acc.summaries acc'.summaries

/-- The same maps in any order. -/
abbrev SameMaps : OtelMetricsAccumulator → OtelMetricsAccumulator → Prop :=
  Rel fun _ _ _ _ => MetricAccumulator.SameMaps

/-- The same maps in any order, up to the order of attributes. -/
abbrev Related : OtelMetricsAccumulator → OtelMetricsAccumulator → Prop :=
  Rel fun _ _ _ _ => MetricAccumulator.Related

omit [External] in
theorem Rel.symm (hR : ∀ (M P : Type) [DataPoint P] [ReplaceAttributes P]
      (ma ma' : MetricAccumulator M P), R M P ma ma' → R M P ma' ma)
    (h : Rel R acc acc') : Rel R acc' acc where
  droppedDatapoints := h.droppedDatapoints.symm
  gauges := h.gauges.symm (hR _ _)
  sums := h.sums.symm (hR _ _)
  histograms := h.histograms.symm (hR _ _)
  summaries := h.summaries.symm (hR _ _)

theorem Related.symm (h : acc.Related acc') : acc'.Related acc :=
  Rel.symm (fun _ _ _ _ _ _ => MetricAccumulator.Related.symm) h

/-- Another order of the maps on the left. -/
theorem Related.of_sameMaps {accb : OtelMetricsAccumulator} (hsame : acc.SameMaps accb)
    (h : acc.Related acc') : accb.Related acc' where
  droppedDatapoints := hsame.droppedDatapoints.symm.trans h.droppedDatapoints
  gauges := MetricAccumulator.Related.table_of_sameMaps hsame.gauges h.gauges
  sums := MetricAccumulator.Related.table_of_sameMaps hsame.sums h.sums
  histograms := MetricAccumulator.Related.table_of_sameMaps hsame.histograms h.histograms
  summaries := MetricAccumulator.Related.table_of_sameMaps hsame.summaries h.summaries

theorem Related.new : Related {} {} := ⟨rfl, .empty, .empty, .empty, .empty⟩

theorem related_newAccumulator {M P : Type} [DataPoint P] [ReplaceAttributes P] {m m' : Metric}
    (h : ReorderedMetric m m') (metadata : M) :
    (newAccumulator m metadata : MetricAccumulator M P).Related (newAccumulator m' metadata) where
  name := h.name
  description := h.description
  unit := h.unit
  metadata := rfl
  timeSeries := .empty
  keyed := fun row hrow => by cases hrow
  keyed' := fun row hrow => by cases hrow

/-- The row of a metric after its points have been accumulated. -/
theorem entry_related {M P : Type} [DataPoint P] [ReplaceAttributes P]
    {t t' : Table String (MetricAccumulator M P)} (h : Table.Rel MetricAccumulator.Related t t')
    {m m' : Metric} (hm : ReorderedMetric m m') (metadata : M) (isCumulative : Bool) {dps dps' : List P}
    (hpoints : AllReordered dps dps') :
    Table.Rel MetricAccumulator.Related
      (t.entry m.name (newAccumulator m metadata) fun ma => ma.accumulatePoints isCumulative dps)
      (t'.entry m'.name (newAccumulator m' metadata) fun ma =>
        ma.accumulatePoints isCumulative dps') := by
  rw [hm.name]
  refine h.entry _ (related_newAccumulator hm metadata) ?_
  intro ma ma' hma
  exact hma.accumulatePoints isCumulative hpoints

theorem accumulatePoints_decide {M P : Type} [DataPoint P] (temporality : Int) (dps : List P) :
    (fun ma : MetricAccumulator M P =>
        if temporality = cumulative then ma.accumulateIfDifferent dps else ma.accumulateAsIs dps) =
      fun ma => ma.accumulatePoints (temporality = cumulative) dps := by
  funext ma
  unfold MetricAccumulator.accumulatePoints
  by_cases h : temporality = cumulative
  · rw [if_pos h, if_pos (decide_eq_true h)]
  · rw [if_neg h, if_neg (by simpa using h)]

/-- Accumulating metrics that differ in the order of attributes only. -/
theorem Related.accumulateMetric (h : acc.Related acc') {m m' : Metric} (hm : ReorderedMetric m m') :
    (acc.accumulateMetric m).Related (acc'.accumulateMetric m') := by
  unfold OtelMetricsAccumulator.accumulateMetric
  have hdata := hm.data
  cases hm1 : m.data <;> cases hm2 : m'.data <;> rw [hm1, hm2] at hdata
  case none.none => exact h
  case none.some => cases hdata
  case some.none => cases hdata
  case some.some =>
    cases hdata with
    | some hdata =>
      cases hdata with
      | gauge hpoints => exact { h with gauges := entry_related h.gauges hm {} false hpoints }
      | @sum dps dps' temporality isMonotonic hpoints =>
        have hsums := entry_related h.sums hm ⟨temporality, isMonotonic⟩ (temporality = cumulative)
          hpoints
        rw [← accumulatePoints_decide, ← accumulatePoints_decide] at hsums
        exact { h with sums := hsums }
      | @histogram dps dps' temporality hpoints =>
        have hhistograms := entry_related h.histograms hm ⟨temporality⟩ (temporality = cumulative)
          hpoints
        rw [← accumulatePoints_decide, ← accumulatePoints_decide] at hhistograms
        exact { h with histograms := hhistograms }
      | summary hpoints => exact { h with summaries := entry_related h.summaries hm {} true hpoints }
      | @exponentialHistogram dps dps' hpoints =>
        have hdropped : wrappingAdd acc.droppedDatapoints dps.length =
            wrappingAdd acc'.droppedDatapoints dps'.length := by
          rw [h.droppedDatapoints, hpoints.length_eq]
        exact { h with droppedDatapoints := hdropped }

theorem Related.accumulate (h : acc.Related acc') {metrics metrics' : List Metric}
    (hmetrics : List.Forall₂ ReorderedMetric metrics metrics') :
    (acc.accumulate metrics).Related (acc'.accumulate metrics') := by
  induction hmetrics generalizing acc acc' with
  | nil => exact h
  | cons hm _ ih => exact ih (h.accumulateMetric hm)

/-! ## Exports -/

section

variable {M P : Type} [DataPoint P] [ReplaceAttributes P] {ma ma' : MetricAccumulator M P}

theorem makeMetric_related (h : ma.Related ma') {data data' : MetricData}
    (hdata : SameData SameSeries data data') :
    SameExported (ma.makeMetric data) (ma'.makeMetric data') :=
  ⟨h.name, h.description, h.unit, .some hdata⟩

end

theorem exportGauge_related {ma ma' : MetricAccumulator GaugeMetadata NumberDataPoint}
    (h : ma.Related ma') :
    SameExported (exportGauge ma).1 (exportGauge ma').1 ∧
      (exportGauge ma).2.Related (exportGauge ma').2 := by
  rw [exportGauge_eq, exportGauge_eq]
  exact ⟨makeMetric_related h (.gauge (h.filter_takePoints false)), h.takePoints false⟩

theorem exportSum_related {ma ma' : MetricAccumulator SumMetadata NumberDataPoint}
    (h : ma.Related ma') :
    SameExported (exportSum ma).1 (exportSum ma').1 ∧ (exportSum ma).2.Related (exportSum ma').2 := by
  rw [exportSum_eq, exportSum_eq, ← h.metadata]
  exact ⟨makeMetric_related h (.sum (h.filter_takePoints _)), h.takePoints _⟩

theorem exportHistogram_related {ma ma' : MetricAccumulator HistogramMetadata HistogramDataPoint}
    (h : ma.Related ma') :
    SameExported (exportHistogram ma).1 (exportHistogram ma').1 ∧
      (exportHistogram ma).2.Related (exportHistogram ma').2 := by
  rw [exportHistogram_eq, exportHistogram_eq, ← h.metadata]
  exact ⟨makeMetric_related h (.histogram (h.filter_takePoints _)), h.takePoints _⟩

theorem exportSummary_related {ma ma' : MetricAccumulator SummaryMetadata SummaryDataPoint}
    (h : ma.Related ma') :
    SameExported (exportSummary ma).1 (exportSummary ma').1 ∧
      (exportSummary ma).2.Related (exportSummary ma').2 := by
  rw [exportSummary_eq, exportSummary_eq]
  exact ⟨makeMetric_related h (.summary (h.filter_takePoints true)), h.takePoints true⟩

/-- The accumulators after an export. -/
theorem Related.export (h : acc.Related acc') : acc.exportMetrics.2.Related acc'.exportMetrics.2 where
  droppedDatapoints := h.droppedDatapoints
  gauges := h.gauges.iterMut fun _ _ hma => (exportGauge_related hma).2
  sums := h.sums.iterMut fun _ _ hma => (exportSum_related hma).2
  histograms := h.histograms.iterMut fun _ _ hma => (exportHistogram_related hma).2
  summaries := h.summaries.iterMut fun _ _ hma => (exportSummary_related hma).2

/-- The exported metrics. -/
theorem Related.exported (h : acc.Related acc') :
    Multiset.Rel SameExported (acc.exportMetrics.1 : Multiset Metric) acc'.exportMetrics.1 := by
  have hgauges := h.gauges.results fun _ _ hma => (exportGauge_related hma).1
  have hsums := h.sums.results fun _ _ hma => (exportSum_related hma).1
  have hhistograms := h.histograms.results fun _ _ hma => (exportHistogram_related hma).1
  have hsummaries := h.summaries.results fun _ _ hma => (exportSummary_related hma).1
  have hall := ((hgauges.add hsums).add hhistograms).add hsummaries
  rw [Multiset.coe_add, Multiset.coe_add, Multiset.coe_add, Multiset.coe_add, Multiset.coe_add,
    Multiset.coe_add] at hall
  exact hall

end OtelMetricsAccumulator

/-! ## Two runs -/

/-- The same call, with the attributes of each incoming point in another order. -/
inductive ReorderedCall : OtelMetricsCall → OtelMetricsCall → Prop
  | accumulate {metrics metrics' : List Metric} : List.Forall₂ ReorderedMetric metrics metrics' →
    ReorderedCall (.accumulate metrics) (.accumulate metrics')
  | export : ReorderedCall .export .export

/-- What `export` gives when the maps are iterated in some order. -/
def IsExport (acc : OtelMetricsAccumulator) (metrics : List Metric) : Prop :=
  ∃ acc', acc.SameMaps acc' ∧ metrics = acc'.exportMetrics.1

omit [External] in
theorem OtelMetricsAccumulator.SameMaps.refl (acc : OtelMetricsAccumulator) : acc.SameMaps acc := by
  have htables (K V : Type) [DecidableEq K] (t : Table K V) : Table.Rel Eq t t := by
    intro k
    cases t.get? k with
    | none => exact .none
    | some v => exact .some rfl
  have hmaps (M P : Type) [DataPoint P] [ReplaceAttributes P] (t : Table String (MetricAccumulator M P)) :
      Table.Rel MetricAccumulator.SameMaps t t := by
    refine (htables _ _ t).comp (fun ma mb mc hab hbc => ?_) (htables _ _ t)
    subst hab hbc
    exact ⟨rfl, rfl, rfl, rfl, htables _ _ _⟩
  exact ⟨rfl, hmaps _ _ _, hmaps _ _ _, hmaps _ _ _, hmaps _ _ _⟩

omit [External] in
/-- The order of insertion is one of the orders. -/
theorem isExport_inInsertionOrder (accs : List OtelMetricsAccumulator) :
    List.Forall₂ IsExport accs (accs.map fun acc => acc.exportMetrics.1) := by
  induction accs with
  | nil => exact .nil
  | cons acc accs ih => exact .cons ⟨acc, .refl acc, rfl⟩ ih

theorem exporting_related {acc acc' : OtelMetricsAccumulator} (h : acc.Related acc')
    {calls calls' : List OtelMetricsCall} (hcalls : List.Forall₂ ReorderedCall calls calls') :
    List.Forall₂ OtelMetricsAccumulator.Related (exporting acc calls) (exporting acc' calls') := by
  induction hcalls generalizing acc acc' with
  | nil => exact .nil
  | cons hcall _ ih =>
    cases hcall with
    | accumulate hmetrics => exact ih (h.accumulate hmetrics)
    | «export» => exact .cons h (ih h.export)

theorem isExport_related {acc acc' : OtelMetricsAccumulator} (h : acc.Related acc')
    {metrics metrics' : List Metric} (hmetrics : IsExport acc metrics)
    (hmetrics' : IsExport acc' metrics') :
    Multiset.Rel SameExported (metrics : Multiset Metric) metrics' := by
  obtain ⟨accb, hsame, rfl⟩ := hmetrics
  obtain ⟨accb', hsame', rfl⟩ := hmetrics'
  have hleft : accb.Related acc' := .of_sameMaps hsame h
  have hboth : accb'.Related accb := .of_sameMaps hsame' hleft.symm
  exact hboth.symm.exported

/-- Two runs that differ only in the order of the attributes of incoming points export the same
metrics, up to the order of metrics, series and attributes. Points belong to the same series exactly
when they have the same keys with the same rendered values. -/
theorem attribute_order_irrelevant {calls calls' : List OtelMetricsCall}
    (hcalls : List.Forall₂ ReorderedCall calls calls') {exports exports' : List (List Metric)}
    (hexports : List.Forall₂ IsExport (exporting {} calls) exports)
    (hexports' : List.Forall₂ IsExport (exporting {} calls') exports') :
    List.Forall₂ (fun metrics metrics' : List Metric =>
        Multiset.Rel SameExported (metrics : Multiset Metric) metrics') exports exports' ∧
      ∀ (P : Type) [DataPoint P] (p q : P), timeSeriesId p = timeSeriesId q ↔
        (attributePairs (attributes p) : Multiset (String × Option String)) =
          attributePairs (attributes q) := by
  refine ⟨?_, fun P _ p q => timeSeriesId_eq_iff p q⟩
  have hrelated := exporting_related OtelMetricsAccumulator.Related.new hcalls
  generalize exporting {} calls = accs at hrelated hexports
  generalize exporting {} calls' = accs' at hrelated hexports'
  induction hrelated generalizing exports exports' with
  | nil =>
    cases hexports
    cases hexports'
    exact .nil
  | cons hacc _ ih =>
    cases hexports with
    | cons hmetrics hexports =>
      cases hexports' with
      | cons hmetrics' hexports' =>
        exact .cons (isExport_related hacc hmetrics hmetrics') (ih hexports hexports')

omit [External] in
/-- A sum of one point with these attributes, and an export. -/
def sumWithAttributes (attributes : List KeyValue) : List OtelMetricsCall :=
  [.accumulate [sampleSum cumulative { samplePoint (.asInt 5) 1000000000 with attributes }], .export]

omit [External] in
theorem attribute_order_irrelevant_two :
    List.Forall₂ (fun metrics metrics' : List Metric =>
        Multiset.Rel (@SameExported sampleExternal) (metrics : Multiset Metric) metrics')
      ((@exporting sampleExternal {} (sumWithAttributes
        [⟨"route", some ⟨some (.stringValue "/orders")⟩⟩, ⟨"code", some ⟨some (.intValue 200)⟩⟩])).map
          fun acc => acc.exportMetrics.1)
      ((@exporting sampleExternal {} (sumWithAttributes
        [⟨"code", some ⟨some (.intValue 200)⟩⟩, ⟨"route", some ⟨some (.stringValue "/orders")⟩⟩])).map
          fun acc => acc.exportMetrics.1) := by
  refine (@attribute_order_irrelevant sampleExternal _ _ ?_ _ _ (isExport_inInsertionOrder _)
    (isExport_inInsertionOrder _)).1
  refine .cons (.accumulate (.cons ?_ .nil)) (.cons .export .nil)
  refine ⟨rfl, rfl, rfl, .some (.sum (.cons ⟨_, ?_, rfl⟩ .nil))⟩
  exact List.Perm.swap _ _ _

end TelemetryExporter
