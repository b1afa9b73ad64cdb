import TelemetryExporter.Lib.Floats
import TelemetryExporter.Model.OtelMetrics
import TelemetryExporter.Verify.Instruments

/-!
# One time series

What accumulating points and exporting them does to one time series. An exported point is labelled
with its origin: it has been received, or it has been injected. Over a run the exported points are
those of one call of `take_and_inflate_data_points` on all the points kept so far; where the exports
come does not matter.
-/

namespace TelemetryExporter

open DataPoint

/-! ## Equivalence of data points -/

/-- What the three implementations of the trait `DataPoint` have in common. Equivalence ignores the
time; it is reflexive only for points without a `NaN`. -/
class LawfulDataPoint (P : Type) [DataPoint P] : Prop where
  time_clone : ∀ (p : P) t, getTimeUnixNano (cloneWithTimestamp p t) = t
  time_toZero : ∀ (p : P) t, getTimeUnixNano (toZero p t) = t
  attributes_clone : ∀ (p : P) t, attributes (cloneWithTimestamp p t) = attributes p
  attributes_toZero : ∀ (p : P) t, attributes (toZero p t) = attributes p
  isZero_toZero : ∀ (p : P) t, isZero (toZero p t) = true
  equivalent_clone : ∀ (p q : P) t, isEquivalent p (cloneWithTimestamp q t) = isEquivalent p q
  symm : ∀ {p q : P}, isEquivalent p q = true → isEquivalent q p = true
  trans : ∀ {p q r : P}, isEquivalent p q = true → isEquivalent q r = true →
    isEquivalent p r = true

/-- An equality that need not be reflexive, as that of floating-point numbers. -/
structure PartialEquality {A : Type} (eq : A → A → Bool) : Prop where
  symm : ∀ a b, eq a b = true → eq b a = true
  trans : ∀ a b c, eq a b = true → eq b c = true → eq a c = true

namespace PartialEquality

variable {A : Type} {eq : A → A → Bool}

theorem float : PartialEquality Float.beq :=
  ⟨fun _ _ => Float.beq_symm, fun _ _ _ => Float.beq_trans⟩

theorem list (h : PartialEquality eq) : PartialEquality (listEq eq) where
  symm as bs hab := by
    induction as generalizing bs with
    | nil => cases bs <;> simp_all [listEq]
    | cons a as ih =>
      cases bs with
      | nil => simp [listEq] at hab
      | cons b bs =>
        simp only [listEq, Bool.and_eq_true] at hab ⊢
        exact ⟨h.symm a b hab.1, ih bs hab.2⟩
  trans as bs cs hab hbc := by
    induction as generalizing bs cs with
    | nil => cases bs <;> simp_all [listEq]
    | cons a as ih =>
      cases bs with
      | nil => simp [listEq] at hab
      | cons b bs =>
        cases cs with
        | nil => simp [listEq] at hbc
        | cons c cs =>
          simp only [listEq, Bool.and_eq_true] at hab hbc ⊢
          exact ⟨h.trans a b c hab.1 hbc.1, ih bs cs hab.2 hbc.2⟩

theorem option (h : PartialEquality eq) : PartialEquality (optionEq eq) where
  symm a b hab := by
    cases a with
    | none => cases b <;> simp_all [optionEq]
    | some a =>
      cases b with
      | none => simp [optionEq] at hab
      | some b => exact h.symm a b hab
  trans a b c hab hbc := by
    cases a with
    | none => cases b <;> simp_all [optionEq]
    | some a =>
      cases b with
      | none => simp [optionEq] at hab
      | some b =>
        cases c with
        | none => simp [optionEq] at hbc
        | some c => exact h.trans a b c hab hbc

theorem numberValue : PartialEquality NumberValue.valueEq where
  symm a b h := by
    cases a with
    | asInt i => cases b <;> simp_all [NumberValue.valueEq]
    | asDouble d =>
      cases b with
      | asInt i => simp [NumberValue.valueEq] at h
      | asDouble e => exact float.symm d e h
  trans a b c h h' := by
    cases a with
    | asInt i => cases b <;> simp_all [NumberValue.valueEq]
    | asDouble d =>
      cases b with
      | asInt i => simp [NumberValue.valueEq] at h
      | asDouble e =>
        cases c with
        | asInt i => simp [NumberValue.valueEq] at h'
        | asDouble f => exact float.trans d e f h h'

theorem valueAtQuantile : PartialEquality ValueAtQuantile.valueEq where
  symm a b h := by
    simp only [ValueAtQuantile.valueEq, Bool.and_eq_true] at h ⊢
    exact ⟨float.symm _ _ h.1, float.symm _ _ h.2⟩
  trans a b c h h' := by
    simp only [ValueAtQuantile.valueEq, Bool.and_eq_true] at h h' ⊢
    exact ⟨float.trans _ _ _ h.1 h'.1, float.trans _ _ _ h.2 h'.2⟩

end PartialEquality

theorem isZeroFloat_zero : isZeroFloat 0 = true := Float.zero_beq_zero

theorem isZeroFloat_map_zero (value : Option Float) :
    (value.map fun _ => (0 : Float)).all isZeroFloat = true := by
  cases value with
  | none => rfl
  | some d => exact isZeroFloat_zero

instance : LawfulDataPoint NumberDataPoint where
  time_clone _ _ := rfl
  time_toZero _ _ := rfl
  attributes_clone _ _ := rfl
  attributes_toZero _ _ := rfl
  isZero_toZero p t := by
    simp only [isZero, toZero]
    rcases p.value with _ | ⟨_ | _⟩
    · rfl
    · rfl
    · exact isZeroFloat_zero
  equivalent_clone _ _ _ := rfl
  symm {p q} h := by
    simp only [isEquivalent, Bool.and_eq_true, beq_iff_eq] at h ⊢
    exact ⟨PartialEquality.numberValue.option.symm _ _ h.1, h.2.symm⟩
  trans {p q r} h h' := by
    simp only [isEquivalent, Bool.and_eq_true, beq_iff_eq] at h h' ⊢
    exact ⟨PartialEquality.numberValue.option.trans _ _ _ h.1 h'.1, h.2.trans h'.2⟩

instance : LawfulDataPoint HistogramDataPoint where
  time_clone _ _ := rfl
  time_toZero _ _ := rfl
  attributes_clone _ _ := rfl
  attributes_toZero _ _ := rfl
  isZero_toZero p t := by
    simp only [isZero, toZero, isZeroFloat_map_zero, Bool.true_and, beq_self_eq_true]
    simp
  equivalent_clone _ _ _ := rfl
  symm {p q} h := by
    simp only [isEquivalent, Bool.and_eq_true, beq_iff_eq] at h ⊢
    obtain ⟨⟨⟨⟨⟨⟨hcounts, hbounds⟩, hsum⟩, hcount⟩, hmin⟩, hmax⟩, hflags⟩ := h
    have hbounds := PartialEquality.float.list.symm _ _ hbounds
    have hsum := PartialEquality.float.option.symm _ _ hsum
    have hmin := PartialEquality.float.option.symm _ _ hmin
    have hmax := PartialEquality.float.option.symm _ _ hmax
    exact ⟨⟨⟨⟨⟨⟨hcounts.symm, hbounds⟩, hsum⟩, hcount.symm⟩, hmin⟩, hmax⟩, hflags.symm⟩
  trans {p q r} h h' := by
    simp only [isEquivalent, Bool.and_eq_true, beq_iff_eq] at h h' ⊢
    obtain ⟨⟨⟨⟨⟨⟨hcounts, hbounds⟩, hsum⟩, hcount⟩, hmin⟩, hmax⟩, hflags⟩ := h
    obtain ⟨⟨⟨⟨⟨⟨hcounts', hbounds'⟩, hsum'⟩, hcount'⟩, hmin'⟩, hmax'⟩, hflags'⟩ := h'
    have hbounds := PartialEquality.float.list.trans _ _ _ hbounds hbounds'
    have hsum := PartialEquality.float.option.trans _ _ _ hsum hsum'
    have hmin := PartialEquality.float.option.trans _ _ _ hmin hmin'
    have hmax := PartialEquality.float.option.trans _ _ _ hmax hmax'
    exact ⟨⟨⟨⟨⟨⟨hcounts.trans hcounts', hbounds⟩, hsum⟩, hcount.trans hcount'⟩, hmin⟩, hmax⟩,
      hflags.trans hflags'⟩

instance : LawfulDataPoint SummaryDataPoint where
  time_clone _ _ := rfl
  time_toZero _ _ := rfl
  attributes_clone _ _ := rfl
  attributes_toZero _ _ := rfl
  isZero_toZero p t := by
    simp [isZero, toZero, isZeroFloat_zero]
  equivalent_clone _ _ _ := rfl
  symm {p q} h := by
    simp only [isEquivalent, Bool.and_eq_true, beq_iff_eq] at h ⊢
    obtain ⟨⟨⟨hquantiles, hsum⟩, hcount⟩, hflags⟩ := h
    have hquantiles := PartialEquality.valueAtQuantile.list.symm _ _ hquantiles
    have hsum := PartialEquality.float.symm _ _ hsum
    exact ⟨⟨⟨hquantiles, hsum⟩, hcount.symm⟩, hflags.symm⟩
  trans {p q r} h h' := by
    simp only [isEquivalent, Bool.and_eq_true, beq_iff_eq] at h h' ⊢
    obtain ⟨⟨⟨hquantiles, hsum⟩, hcount⟩, hflags⟩ := h
    obtain ⟨⟨⟨hquantiles', hsum'⟩, hcount'⟩, hflags'⟩ := h'
    have hquantiles := PartialEquality.valueAtQuantile.list.trans _ _ _ hquantiles hquantiles'
    have hsum := PartialEquality.float.trans _ _ _ hsum hsum'
    exact ⟨⟨⟨hquantiles, hsum⟩, hcount.trans hcount'⟩, hflags.trans hflags'⟩

/-! ## The exported points and their origin -/

/-- Where an exported point comes from. -/
inductive Origin where
  | received
  | zero
  | copy
  deriving DecidableEq

section

variable {P : Type} [DataPoint P]

/-- A received point, after a copy of the last one if that is too old. -/
def withCopy (prev this : P) : List (Origin × P) :=
  (if wrappingAdd (getTimeUnixNano prev) maxTimeBetweenDataNanos < getTimeUnixNano this then
    [(.copy, cloneWithTimestamp prev (getTimeUnixNano this - reportLastTimeNanos))] else []) ++
    [(.received, this)]

/-- The first point of a series, after a zero. -/
def withZero (first : P) : List (Origin × P) :=
  (if isZero first then []
    else [(.zero, toZero first (getTimeUnixNano first - reportLastTimeNanos))]) ++
    [(.received, first)]

/-- What `take_and_inflate_data_points` makes of new points, after the last one exported before. -/
def inflated : Option P → List P → List (Origin × P)
  | _, [] => []
  | none, first :: rest => withZero first ++ inflated (some first) rest
  | some prev, this :: rest => withCopy prev this ++ inflated (some this) rest

/-- The points of one origin. -/
def receivedPoints (points : List (Origin × P)) : List P :=
  (points.filter fun point => point.1 = .received).map Prod.snd

omit [DataPoint P] in
@[simp] theorem receivedPoints_append (as bs : List (Origin × P)) :
    receivedPoints (as ++ bs) = receivedPoints as ++ receivedPoints bs := by
  simp [receivedPoints]

@[simp] theorem receivedPoints_withCopy (prev this : P) :
    receivedPoints (withCopy prev this) = [this] := by
  unfold withCopy
  split <;> simp [receivedPoints]

@[simp] theorem receivedPoints_withZero (first : P) : receivedPoints (withZero first) = [first] := by
  unfold withZero
  split <;> simp [receivedPoints]

/-- Inflation injects points; it keeps all others, in order. -/
@[simp] theorem receivedPoints_inflated (prev : Option P) (points : List P) :
    receivedPoints (inflated prev points) = points := by
  induction points generalizing prev with
  | nil => cases prev <;> rfl
  | cons p rest ih =>
    cases prev with
    | none => simp [inflated, ih]
    | some prev => simp [inflated, ih]

/-- Inflation can be interrupted anywhere. -/
theorem inflated_append (prev : Option P) (as bs : List P) :
    inflated prev (as ++ bs) = inflated prev as ++ inflated (as.getLast?.or prev) bs := by
  induction as generalizing prev with
  | nil => cases prev <;> simp [inflated]
  | cons a as ih =>
    have hlast : (a :: as).getLast?.or prev = as.getLast?.or (some a) := by
      cases as with
      | nil => rfl
      | cons b as => simp [List.getLast?_cons]
    rw [hlast]
    cases prev with
    | none => simp [inflated, ih]
    | some prev => simp [inflated, ih]

namespace TimeSeries

theorem inflateLoop_eq (prev : P) (points : List P) :
    inflateLoop prev points = ((inflated (some prev) points).map Prod.snd, points.getLastD prev) := by
  induction points generalizing prev with
  | nil => rfl
  | cons this rest ih =>
    have hlast : (this :: rest).getLastD prev = rest.getLastD this := List.getLastD_cons ..
    simp only [inflateLoop, ih, inflated, withCopy, List.map_append, hlast]
    split <;> simp

/-- `take_and_inflate_data_points` with any loop: no proof about it should reduce the comparisons of
times in `inflateLoop`. -/
def takeWith (loop : P → List P → List P × P) (ts : TimeSeries P) : List P × TimeSeries P :=
  match ts.newPoints, ts.previousPoint with
  | [], _ => ([], ts)
  | newPoints, some pp =>
    let (output, last) := loop pp newPoints
    (output, { previousPoint := some last, newPoints := [] })
  | first :: rest, none =>
    let zero := if isZero first then []
      else [toZero first (getTimeUnixNano first - reportLastTimeNanos)]
    let (output, last) := loop first rest
    (zero ++ first :: output, { previousPoint := some last, newPoints := [] })

theorem takeAndInflateDataPoints_eq_takeWith (ts : TimeSeries P) :
    ts.takeAndInflateDataPoints = ts.takeWith inflateLoop := rfl

theorem takeWith_some {loop : P → List P → List P × P} {prev p last : P} {rest output : List P}
    (h : loop prev (p :: rest) = (output, last)) :
    takeWith loop { previousPoint := some prev, newPoints := p :: rest } =
      (output, { previousPoint := some last, newPoints := [] }) := by
  simp only [takeWith, h]

theorem takeWith_none {loop : P → List P → List P × P} {p last : P} {rest output : List P}
    (h : loop p rest = (output, last)) :
    takeWith loop { previousPoint := none, newPoints := p :: rest } =
      ((withZero p).map Prod.snd ++ output, { previousPoint := some last, newPoints := [] }) := by
  simp only [takeWith, h, withZero]
  split <;> rfl

/-- `take_and_inflate_data_points` exports the new points, inflated, and remembers the last one. -/
theorem takeAndInflateDataPoints_eq (previousPoint : Option P) (newPoints : List P) :
    takeAndInflateDataPoints { previousPoint, newPoints } =
      ((inflated previousPoint newPoints).map Prod.snd,
        { previousPoint := newPoints.getLast?.or previousPoint, newPoints := [] }) := by
  cases newPoints with
  | nil => cases previousPoint <;> rfl
  | cons p rest =>
    rw [takeAndInflateDataPoints_eq_takeWith, List.getLast?_cons, Option.some_or,
      ← List.getLastD_eq_getLast?]
    cases previousPoint with
    | some prev => rw [takeWith_some (inflateLoop_eq prev (p :: rest)), List.getLastD_cons]
    | none => rw [takeWith_none (inflateLoop_eq p rest), inflated, List.map_append]

/-- `accumulate_if_different` of one point, for the series it belongs to. -/
def pushIfDifferent (ts : TimeSeries P) (dp : P) : TimeSeries P :=
  if ts.lastPoint.all fun p => !isEquivalent p dp then ts.push dp else ts

end TimeSeries

/-! ## Runs -/

/-- What happens to a series. -/
inductive SeriesCall (P : Type) where
  | accumulate (dp : P)
  | take

/-- The points accumulated. -/
def accumulated : List (SeriesCall P) → List P
  | [] => []
  | .accumulate dp :: rest => dp :: accumulated rest
  | .take :: rest => accumulated rest

/-- A run of a series: the labelled points that it exports, and the series at the end. Cumulative
series drop equivalent points and are inflated. -/
def seriesRun (isCumulative : Bool) :
    TimeSeries P → List (SeriesCall P) → List (Origin × P) × TimeSeries P
  | ts, [] => ([], ts)
  | ts, .accumulate dp :: rest =>
    seriesRun isCumulative (if isCumulative then ts.pushIfDifferent dp else ts.push dp) rest
  | ts, .take :: rest =>
    if isCumulative then
      let (points, ts') := seriesRun isCumulative { previousPoint := ts.lastPoint } rest
      (inflated ts.previousPoint ts.newPoints ++ points, ts')
    else
      let (points, ts') := seriesRun isCumulative { ts with newPoints := [] } rest
      (ts.newPoints.map (fun p => (.received, p)) ++ points, ts')

/-- The points without those that are equivalent to the point before them. -/
def withoutRepeats : Option P → List P → List P
  | _, [] => []
  | prev, p :: rest =>
    (if prev.any (isEquivalent · p) then [] else [p]) ++ withoutRepeats (some p) rest

omit [DataPoint P] in
theorem accumulated_append (as bs : List (SeriesCall P)) :
    accumulated (as ++ bs) = accumulated as ++ accumulated bs := by
  induction as with
  | nil => rfl
  | cons a as ih => cases a <;> simp [accumulated, ih]

theorem withoutRepeats_sublist (prev : Option P) (points : List P) :
    (withoutRepeats prev points).Sublist points := by
  induction points generalizing prev with
  | nil => exact .slnil
  | cons p rest ih =>
    simp only [withoutRepeats]
    split
    · exact (ih (some p)).cons p
    · exact (ih (some p)).cons_cons p

/-- The points that a series kept before the last one received do not matter for what it keeps from
then on. -/
theorem withoutRepeats_congr [LawfulDataPoint P] {last prev : P} (h : isEquivalent last prev = true)
    (points : List P) : withoutRepeats (some last) points = withoutRepeats (some prev) points := by
  cases points with
  | nil => rfl
  | cons p rest =>
    have heq : isEquivalent last p = isEquivalent prev p := by
      rw [Bool.eq_iff_iff]
      exact ⟨fun hp => LawfulDataPoint.trans (LawfulDataPoint.symm h) hp,
        fun hp => LawfulDataPoint.trans h hp⟩
    simp only [withoutRepeats, Option.any_some, heq]

/-- A series that is not cumulative exports what it receives. -/
theorem seriesRun_asIs (ts : TimeSeries P) (calls : List (SeriesCall P)) :
    receivedPoints (seriesRun false ts calls).1 ++ (seriesRun false ts calls).2.newPoints =
        ts.newPoints ++ accumulated calls ∧
      ∀ point ∈ (seriesRun false ts calls).1, point.1 = .received := by
  induction calls generalizing ts with
  | nil => exact ⟨by simp [seriesRun, receivedPoints, accumulated], nofun⟩
  | cons call rest ih =>
    cases call with
    | accumulate dp =>
      obtain ⟨hpoints, horigin⟩ := ih (ts.push dp)
      refine ⟨?_, horigin⟩
      rw [accumulated, List.append_cons]
      exact hpoints
    | take =>
      obtain ⟨hpoints, horigin⟩ := ih { ts with newPoints := [] }
      have hown : receivedPoints (ts.newPoints.map fun p => (Origin.received, p)) = ts.newPoints := by
        simp [receivedPoints, List.filter_map, Function.comp_def]
      simp only [seriesRun, Bool.false_eq_true, if_false]
      refine ⟨?_, ?_⟩
      · rw [receivedPoints_append, hown, List.append_assoc, hpoints]
        rfl
      · intro point hpoint
        rcases List.mem_append.1 hpoint with hpoint | hpoint
        · obtain ⟨p, -, rfl⟩ := List.mem_map.1 hpoint
          rfl
        · exact horigin point hpoint

/-- A cumulative series exports what it receives, without repeats, and inflated as if it were
exported at once. -/
theorem seriesRun_cumulative [LawfulDataPoint P] (ts : TimeSeries P) (calls : List (SeriesCall P)) :
    ∃ kept, (seriesRun true ts calls).1 = inflated ts.previousPoint kept ∧
      kept ++ (seriesRun true ts calls).2.newPoints =
        ts.newPoints ++ withoutRepeats ts.lastPoint (accumulated calls) := by
  induction calls generalizing ts with
  | nil => exact ⟨[], by cases ts.previousPoint <;> rfl, by simp [seriesRun, withoutRepeats, accumulated]⟩
  | cons call rest ih =>
    cases call with
    | accumulate dp =>
      obtain ⟨kept, hout, hkept⟩ := ih (ts.pushIfDifferent dp)
      simp only [seriesRun, if_true, accumulated, withoutRepeats]
      by_cases hsame : ts.lastPoint.any (isEquivalent · dp) = true
      · obtain ⟨last, hlast, hequivalent⟩ := (Option.any_eq_true _ _).1 hsame
        have hpush : ts.pushIfDifferent dp = ts := by
          simp [TimeSeries.pushIfDifferent, hlast, hequivalent]
        rw [hpush] at hout hkept ⊢
        refine ⟨kept, hout, ?_⟩
        rw [hkept, if_pos hsame, hlast, withoutRepeats_congr hequivalent]
        rfl
      · have hpush : ts.pushIfDifferent dp = ts.push dp := by
          unfold TimeSeries.pushIfDifferent
          rw [if_pos]
          cases hlast : ts.lastPoint with
          | none => rfl
          | some last => simpa [hlast] using hsame
        rw [hpush] at hout hkept ⊢
        refine ⟨kept, hout, ?_⟩
        have hlast : (ts.push dp).lastPoint = some dp := by
          simp [TimeSeries.lastPoint, TimeSeries.push]
        rw [hkept, if_neg hsame, hlast]
        simp [TimeSeries.push]
    | take =>
      obtain ⟨kept, hout, hkept⟩ := ih { previousPoint := ts.lastPoint }
      simp only [seriesRun, if_true]
      refine ⟨ts.newPoints ++ kept, ?_, ?_⟩
      · rw [inflated_append, hout]
        rfl
      · rw [List.append_assoc, hkept]
        rfl

/-! ## Times, gaps and origins of inflated points -/

/-- The label of each point is true: a copy is the last received point, shifted to
`REPORT_LAST_TIME_NANOS` before the next one, which came too late, and equivalent to it unless it has
a `NaN`; a zero comes before the first received point, which is not zero. -/
def TrueLabels : Option P → List (Origin × P) → Prop
  | _, [] => True
  | none, (.zero, q) :: (.received, p) :: rest =>
    isZero p = false ∧ q = toZero p (getTimeUnixNano p - reportLastTimeNanos) ∧
      TrueLabels (some p) rest
  | some prev, (.copy, q) :: (.received, p) :: rest =>
    wrappingAdd (getTimeUnixNano prev) maxTimeBetweenDataNanos < getTimeUnixNano p ∧
      q = cloneWithTimestamp prev (getTimeUnixNano p - reportLastTimeNanos) ∧
      (isEquivalent prev prev = true → isEquivalent prev q = true) ∧ TrueLabels (some p) rest
  | _, (.received, p) :: rest => TrueLabels (some p) rest
  | _, _ => False

theorem trueLabels_inflated [LawfulDataPoint P] (prev : Option P) (points : List P) :
    TrueLabels prev (inflated prev points) := by
  induction points generalizing prev with
  | nil => cases prev <;> trivial
  | cons p rest ih =>
    cases prev with
    | none =>
      rw [inflated, withZero]
      cases hzero : isZero p with
      | true => simpa only [if_true, List.nil_append, List.cons_append, TrueLabels] using ih (some p)
      | false =>
        simp only [Bool.false_eq_true, if_false, List.cons_append, List.nil_append, TrueLabels]
        exact ⟨hzero, trivial, ih (some p)⟩
    | some prev =>
      rw [inflated, withCopy]
      by_cases hgap : wrappingAdd (getTimeUnixNano prev) maxTimeBetweenDataNanos < getTimeUnixNano p
      · simp only [if_pos hgap, List.cons_append, List.nil_append, TrueLabels]
        refine ⟨hgap, trivial, fun hself => ?_, ih (some p)⟩
        rwa [LawfulDataPoint.equivalent_clone]
      · simpa only [if_neg hgap, List.nil_append, List.cons_append, TrueLabels] using ih (some p)

/-- A time with which the comparison of `take_and_inflate_data_points` does not overflow. -/
def NoOverflow (p : P) : Prop := getTimeUnixNano p + maxTimeBetweenDataNanos < UInt64.size

/-- Two points in a row are not far apart, unless the value stays the same: they are equivalent, or
the second is a copy of the first, which has a `NaN`. -/
def CloseOrSame (p q : P) : Prop :=
  getTimeUnixNano q ≤ getTimeUnixNano p + maxTimeBetweenDataNanos ∨ isEquivalent p q = true ∨
    isEquivalent p p = false ∧ ∃ t, q = cloneWithTimestamp p t

variable [LawfulDataPoint P]

/-- The next point: later, and close unless the value stays the same. -/
def ClosePair (p q : P) : Prop := getTimeUnixNano p < getTimeUnixNano q ∧ CloseOrSame p q

theorem closePair_clone {p : P} {t : Nat} (h : getTimeUnixNano p < t) :
    ClosePair p (cloneWithTimestamp p t) := by
  refine ⟨by rwa [LawfulDataPoint.time_clone], ?_⟩
  unfold CloseOrSame
  rw [LawfulDataPoint.equivalent_clone]
  cases hself : isEquivalent p p with
  | true => exact .inr (.inl rfl)
  | false => exact .inr (.inr ⟨rfl, t, rfl⟩)

omit [LawfulDataPoint P] in
/-- The point after an injected one. -/
theorem closePair_injected {q p : P} (h : getTimeUnixNano q = getTimeUnixNano p - reportLastTimeNanos)
    (hpos : 0 < getTimeUnixNano p) : ClosePair q p := by
  have hle := reportLastTimeNanos_le
  have hlast := reportLastTimeNanos_pos
  exact ⟨by omega, .inl (by omega)⟩

theorem inflated_some_chain {prev : P} {points : List P} (hrange : ∀ p ∈ prev :: points, NoOverflow p)
    (hincreasing : (prev :: points).IsChain fun p q => getTimeUnixNano p < getTimeUnixNano q) :
    (prev :: (inflated (some prev) points).map Prod.snd).IsChain ClosePair := by
  induction points generalizing prev with
  | nil => exact .singleton prev
  | cons this rest ih =>
    rw [List.isChain_cons_cons] at hincreasing
    obtain ⟨hlt, hrest⟩ := hincreasing
    have hchain := ih (fun p hp => hrange p (List.mem_cons_of_mem _ hp)) hrest
    have hadd := wrappingAdd_of_lt (hrange prev List.mem_cons_self)
    have hle := reportLastTimeNanos_le
    rw [inflated, List.map_append, withCopy]
    by_cases hgap : wrappingAdd (getTimeUnixNano prev) maxTimeBetweenDataNanos < getTimeUnixNano this
    · rw [if_pos hgap]
      rw [hadd] at hgap
      have hcopy := closePair_injected (LawfulDataPoint.time_clone prev
        (getTimeUnixNano this - reportLastTimeNanos)) (Nat.zero_lt_of_lt hlt)
      exact .cons_cons (closePair_clone (by omega)) (.cons_cons hcopy hchain)
    · rw [if_neg hgap]
      rw [hadd] at hgap
      exact .cons_cons ⟨hlt, .inl (Nat.le_of_not_lt hgap)⟩ hchain

/-- The points that a new series exports: each follows the one before it, and the first is zero. -/
theorem inflated_none_chain {points : List P} (hrange : ∀ p ∈ points, NoOverflow p)
    (hpos : ∀ p ∈ points, 0 < getTimeUnixNano p)
    (hincreasing : points.IsChain fun p q => getTimeUnixNano p < getTimeUnixNano q) :
    ((inflated none points).map Prod.snd).IsChain ClosePair ∧
      ∀ first ∈ ((inflated none points).map Prod.snd).head?, isZero first = true := by
  cases points with
  | nil => exact ⟨.nil, nofun⟩
  | cons p rest =>
    have hchain := inflated_some_chain hrange hincreasing
    rw [inflated, List.map_append, withZero]
    cases hzero : isZero p with
    | true => exact ⟨hchain, by simpa using hzero⟩
    | false =>
      have hfirst := closePair_injected (LawfulDataPoint.time_toZero p
        (getTimeUnixNano p - reportLastTimeNanos)) (hpos p List.mem_cons_self)
      refine ⟨.cons_cons hfirst hchain, ?_⟩
      simp [LawfulDataPoint.isZero_toZero]

end

end TelemetryExporter
