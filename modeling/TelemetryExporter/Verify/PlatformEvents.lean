import TelemetryExporter.Lib.Latest
import TelemetryExporter.Verify.PlatformSpans

/-!
# The platform's events of an invocation

Of the platform's events, each sets its data in the state of the invocation. The state has the data
of the events that have come, and when these come in the platform's order, so do the times.
-/

namespace TelemetryExporter

open Machine

/-! ## Kinds of events -/

/-- The platform's events that are about an invocation or its init phase. -/
inductive PlatformKind where
  | initStart
  | initRuntimeDone
  | initReport
  | start
  | runtimeDone
  | report
  deriving DecidableEq

/-- The position in the platform's order. -/
def PlatformKind.position : PlatformKind → Nat
  | initStart => 0
  | initRuntimeDone => 1
  | initReport => 2
  | start => 3
  | runtimeDone => 4
  | report => 5

/-- The kind of an event. -/
def LambdaTelemetry.platformKind? (event : LambdaTelemetry) : Option PlatformKind :=
  match event.record with
  | .platformInitStart .. => some .initStart
  | .platformInitRuntimeDone .. => some .initRuntimeDone
  | .platformInitReport .. => some .initReport
  | .platformStart .. => some .start
  | .platformRuntimeDone .. => some .runtimeDone
  | .platformReport .. => some .report
  | _ => none

theorem isRuntimeDone_of_kind {event : LambdaTelemetry}
    (h : event.platformKind? = some .runtimeDone) : event.isRuntimeDone = true := by
  unfold LambdaTelemetry.platformKind? at h
  unfold LambdaTelemetry.isRuntimeDone
  cases hrecord : event.record with
  | platformRuntimeDone => rfl
  | _ =>
    rw [hrecord] at h
    cases h

/-- The kinds of the events. -/
def platformKinds (events : List LambdaTelemetry) : List PlatformKind :=
  events.filterMap LambdaTelemetry.platformKind?

/-- The position of an event. -/
def LambdaTelemetry.position? (event : LambdaTelemetry) : Option Nat :=
  event.platformKind?.map PlatformKind.position

/-- The data of the events of one kind. -/
structure PlatformData (D : Type) where
  kind : PlatformKind
  read : LambdaTelemetry → Option D
  time : D → Int
  isSome_read : ∀ event, (read event).isSome = true ↔ event.platformKind? = some kind
  time_eq : ∀ event data, read event = some data → time data = event.nanos

/-- The data of `PlatformInitStart`. -/
def LambdaTelemetry.initStartData? (event : LambdaTelemetry) : Option PlatformInitStartData :=
  match event.record with
  | .platformInitStart initializationType phase runtimeVersion runtimeVersionArn =>
    some { time := event.nanos, initializationType, phase, runtimeVersion, runtimeVersionArn }
  | _ => none

/-- The data of `PlatformInitRuntimeDone`. -/
def LambdaTelemetry.initRuntimeDoneData? (event : LambdaTelemetry) :
    Option PlatformInitRuntimeDoneData :=
  match event.record with
  | .platformInitRuntimeDone initializationType phase status errorType spans =>
    some { time := event.nanos, initializationType, phase, status, errorType, spans }
  | _ => none

/-- The data of `PlatformInitReport`. -/
def LambdaTelemetry.initReportData? (event : LambdaTelemetry) : Option PlatformInitReportData :=
  match event.record with
  | .platformInitReport initializationType phase metrics spans =>
    some { time := event.nanos, initializationType, phase, metrics, spans }
  | _ => none

/-- The data of `PlatformStart`. -/
def LambdaTelemetry.startData? (event : LambdaTelemetry) : Option PlatformStartData :=
  match event.record with
  | .platformStart requestId version tracing =>
    some { time := event.nanos, requestId, version, tracing }
  | _ => none

/-- The data of `PlatformReport`. -/
def LambdaTelemetry.reportData? (event : LambdaTelemetry) : Option PlatformReportData :=
  match event.record with
  | .platformReport requestId status errorType metrics spans tracing =>
    some { time := event.nanos, requestId, status, errorType, metrics, spans, tracing }
  | _ => none

/-- A reader that takes its data from one constructor. -/
theorem isSome_read_of {D : Type} {read : LambdaTelemetry → Option D} {kind : PlatformKind}
    (h : ∀ timestampMillis record, (read ⟨timestampMillis, record⟩).isSome =
      decide (LambdaTelemetry.platformKind? ⟨timestampMillis, record⟩ = some kind))
    (event : LambdaTelemetry) :
    (read event).isSome = true ↔ event.platformKind? = some kind := by
  rw [h event.timestampMillis event.record, decide_eq_true_eq]

namespace PlatformData

/-- `PlatformInitStart`. -/
def initStart : PlatformData PlatformInitStartData where
  kind := .initStart
  read := LambdaTelemetry.initStartData?
  time := (·.time)
  isSome_read := isSome_read_of fun _ record => by cases record <;> rfl
  time_eq event data h := by
    unfold LambdaTelemetry.initStartData? at h
    split at h <;> cases h
    rfl

/-- `PlatformInitRuntimeDone`. -/
def initRuntimeDone : PlatformData PlatformInitRuntimeDoneData where
  kind := .initRuntimeDone
  read := LambdaTelemetry.initRuntimeDoneData?
  time := (·.time)
  isSome_read := isSome_read_of fun _ record => by cases record <;> rfl
  time_eq event data h := by
    unfold LambdaTelemetry.initRuntimeDoneData? at h
    split at h <;> cases h
    rfl

/-- `PlatformInitReport`. -/
def initReport : PlatformData PlatformInitReportData where
  kind := .initReport
  read := LambdaTelemetry.initReportData?
  time := (·.time)
  isSome_read := isSome_read_of fun _ record => by cases record <;> rfl
  time_eq event data h := by
    unfold LambdaTelemetry.initReportData? at h
    split at h <;> cases h
    rfl

/-- `PlatformStart`. -/
def start : PlatformData PlatformStartData where
  kind := .start
  read := LambdaTelemetry.startData?
  time := (·.time)
  isSome_read := isSome_read_of fun _ record => by cases record <;> rfl
  time_eq event data h := by
    unfold LambdaTelemetry.startData? at h
    split at h <;> cases h
    rfl

/-- `PlatformRuntimeDone`. -/
def runtimeDone : PlatformData PlatformRuntimeDoneData where
  kind := .runtimeDone
  read := LambdaTelemetry.runtimeDoneData?
  time := (·.time)
  isSome_read := isSome_read_of fun _ record => by cases record <;> rfl
  time_eq event data h := by
    unfold LambdaTelemetry.runtimeDoneData? at h
    split at h <;> cases h
    rfl

/-- `PlatformReport`. -/
def report : PlatformData PlatformReportData where
  kind := .report
  read := LambdaTelemetry.reportData?
  time := (·.time)
  isSome_read := isSome_read_of fun _ record => by cases record <;> rfl
  time_eq event data h := by
    unfold LambdaTelemetry.reportData? at h
    split at h <;> cases h
    rfl

variable {A B : Type} {events : List LambdaTelemetry}

/-- The latest data among the events. -/
def latestOf (d : PlatformData A) (events : List LambdaTelemetry) : Option A :=
  latest d.read events

theorem isSome_latestOf (d : PlatformData A) :
    (d.latestOf events).isSome = true ↔ d.kind ∈ platformKinds events := by
  unfold latestOf platformKinds
  rw [Latest.isSome_iff, List.mem_filterMap]
  constructor
  · rintro ⟨event, hmem, hread⟩
    exact ⟨event, hmem, (d.isSome_read event).1 hread⟩
  · rintro ⟨event, hmem, hkind⟩
    exact ⟨event, hmem, (d.isSome_read event).2 hkind⟩

/-- No data of a kind that comes after the latest event. -/
theorem latestOf_eq_none {d : PlatformData A}
    (h : d.kind ∉ platformKinds events) : d.latestOf events = none := by
  rw [← Option.not_isSome_iff_eq_none, isSome_latestOf]
  exact h

theorem exists_event {d : PlatformData A} {data : A} (h : d.latestOf events = some data) :
    ∃ event ∈ events, event.position? = some d.kind.position ∧ d.time data = event.nanos := by
  obtain ⟨event, hmem, hread⟩ := Latest.exists_event h
  have hkind := (d.isSome_read event).1 (Option.isSome_of_eq_some hread)
  refine ⟨event, hmem, ?_, d.time_eq event data hread⟩
  unfold LambdaTelemetry.position?
  rw [hkind]
  rfl

end PlatformData

/-! ## The inputs of an invocation -/

/-- Whether the input is a `PlatformRuntimeDone`. -/
def InvocationInput.isRuntimeDone : InvocationInput → Bool
  | telemetry event => event.isRuntimeDone
  | functionSpans _ => false

/-- The reported duration of the init phase, as `make_spans_after_report` computes it. -/
def PlatformInitReportData.durationNanos (report : PlatformInitReportData) : Int :=
  floatToI128 (report.metrics.durationMs * 1000000.0)

/-- The events come in the platform's order, each kind at most once, and no spans of the function
come after the end of the runtime. -/
structure InPlatformOrder (inputs : List InvocationInput) : Prop where
  kinds : ((telemetryOf inputs).filterMap LambdaTelemetry.position?).Pairwise (· < ·)
  spans : inputs.Pairwise fun a b => a.isRuntimeDone = true → b.spans? = none

/-- The times of the events: in order, and after the epoch. -/
structure EventsInTime (events : List LambdaTelemetry) : Prop where
  times : events.Pairwise fun a b => a.timestampMillis ≤ b.timestampMillis
  epoch : ∀ event ∈ events, 0 ≤ event.timestampMillis
  initDuration : ∀ event ∈ events, ∀ report, event.initReportData? = some report →
    0 ≤ report.durationNanos ∧ report.durationNanos ≤ event.nanos

namespace InPlatformOrder

variable {past : List InvocationInput} {input : InvocationInput}

theorem init (h : InPlatformOrder (past ++ [input])) : InPlatformOrder past := by
  obtain ⟨hkinds, hspans⟩ := h
  rw [telemetryOf_append, List.filterMap_append] at hkinds
  exact ⟨(List.pairwise_append.1 hkinds).1, (List.pairwise_append.1 hspans).1⟩

/-- The kinds that have come are before that of the next event. -/
theorem position_lt {event : LambdaTelemetry} {kind : PlatformKind}
    (h : InPlatformOrder (past ++ [.telemetry event])) (hkind : event.platformKind? = some kind)
    {earlier : PlatformKind} (hmem : earlier ∈ platformKinds (telemetryOf past)) :
    earlier.position < kind.position := by
  have hkinds := h.kinds
  rw [telemetryOf_append, List.filterMap_append] at hkinds
  obtain ⟨e, he, hearlier⟩ := List.mem_filterMap.1 hmem
  apply (List.pairwise_append.1 hkinds).2.2
  · apply List.mem_filterMap.2
    refine ⟨e, he, ?_⟩
    rw [LambdaTelemetry.position?, hearlier]
    rfl
  · apply List.mem_filterMap.2
    refine ⟨event, List.mem_singleton_self event, ?_⟩
    rw [LambdaTelemetry.position?, hkind]
    rfl

/-- Data of a kind that does not come before the next event has not come yet. -/
theorem latestOf_eq_none {D : Type} {d : PlatformData D} {event : LambdaTelemetry}
    {kind : PlatformKind} (h : InPlatformOrder (past ++ [.telemetry event]))
    (hkind : event.platformKind? = some kind) (hposition : kind.position ≤ d.kind.position) :
    d.latestOf (telemetryOf past) = none := by
  apply PlatformData.latestOf_eq_none
  intro hmem
  have hlt := h.position_lt hkind hmem
  omega

/-- Spans of the function come before the end of the runtime. -/
theorem runtimeDone_eq_none {spans : List ResourceSpans}
    (h : InPlatformOrder (past ++ [.functionSpans spans])) :
    PlatformData.runtimeDone.latestOf (telemetryOf past) = none := by
  apply PlatformData.latestOf_eq_none
  intro hmem
  obtain ⟨event, hevent, hkind⟩ := List.mem_filterMap.1 hmem
  obtain ⟨input, hinput, heq⟩ := List.mem_filterMap.1 hevent
  have hdone : input.isRuntimeDone = true := by
    cases input with
    | telemetry e =>
      cases heq
      exact isRuntimeDone_of_kind hkind
    | functionSpans => cases heq
  have hbefore := (List.pairwise_append.1 h.spans).2.2 input hinput
  have hnone := hbefore _ (List.mem_singleton_self _) hdone
  cases hnone

end InPlatformOrder

/-! ## The data of the state -/

/-- The state has the data of the events. -/
structure HasData (events : List LambdaTelemetry) (state : InvocationProcessingState) : Prop where
  initSpanId : state.initSpanId.isSome = state.initStartData.isSome
  initStart : state.initStartData = PlatformData.initStart.latestOf events
  initRuntimeDone : state.initRuntimeDoneData = PlatformData.initRuntimeDone.latestOf events
  initReport : state.initReportData = PlatformData.initReport.latestOf events
  start : state.startData = PlatformData.start.latestOf events
  runtimeDone : state.runtimeDoneData = PlatformData.runtimeDone.latestOf events
  report : state.reportData = PlatformData.report.latestOf events

theorem withEvent_initSpanId [External] (event : LambdaTelemetry) (rng : Rng)
    {state : InvocationProcessingState} (h : state.initSpanId.isSome = state.initStartData.isSome) :
    (withEvent event rng state).initSpanId.isSome =
      (withEvent event rng state).initStartData.isSome := by
  unfold withEvent
  cases event.record with
  | platformInitStart => rfl
  | _ => exact h

/-- An event sets the data that is read from it. -/
theorem withEvent_data [External] (event : LambdaTelemetry) (rng : Rng)
    (state : InvocationProcessingState) :
    (withEvent event rng state).initStartData =
        event.initStartData?.or state.initStartData ∧
      (withEvent event rng state).initRuntimeDoneData =
        event.initRuntimeDoneData?.or state.initRuntimeDoneData ∧
      (withEvent event rng state).initReportData =
        event.initReportData?.or state.initReportData ∧
      (withEvent event rng state).startData = event.startData?.or state.startData ∧
      (withEvent event rng state).runtimeDoneData =
        event.runtimeDoneData?.or state.runtimeDoneData ∧
      (withEvent event rng state).reportData = event.reportData?.or state.reportData := by
  unfold withEvent LambdaTelemetry.initStartData? LambdaTelemetry.initRuntimeDoneData?
    LambdaTelemetry.initReportData? LambdaTelemetry.startData? LambdaTelemetry.runtimeDoneData?
    LambdaTelemetry.reportData?
  cases event.record <;> exact ⟨rfl, rfl, rfl, rfl, rfl, rfl⟩

namespace HasData

variable {events : List LambdaTelemetry} {state state' : InvocationProcessingState}

theorem keeps (h : HasData events state) (hkeeps : KeepsData state state') :
    HasData events state' where
  initSpanId := by rw [hkeeps.initSpanId, hkeeps.initStartData, h.initSpanId]
  initStart := hkeeps.initStartData.trans h.initStart
  initRuntimeDone := hkeeps.initRuntimeDoneData.trans h.initRuntimeDone
  initReport := hkeeps.initReportData.trans h.initReport
  start := hkeeps.startData.trans h.start
  runtimeDone := hkeeps.runtimeDoneData.trans h.runtimeDone
  report := hkeeps.reportData.trans h.report

theorem event [External] (h : HasData events state) (event : LambdaTelemetry) (rng : Rng) :
    HasData (events ++ [event]) (withEvent event rng state) := by
  obtain ⟨hinitStart, hinitRuntimeDone, hinitReport, hstart, hruntimeDone, hreport⟩ :=
    withEvent_data event rng state
  constructor
  · exact withEvent_initSpanId event rng h.initSpanId
  · rw [hinitStart, h.initStart]
    exact (Latest.concat events event).symm
  · rw [hinitRuntimeDone, h.initRuntimeDone]
    exact (Latest.concat events event).symm
  · rw [hinitReport, h.initReport]
    exact (Latest.concat events event).symm
  · rw [hstart, h.start]
    exact (Latest.concat events event).symm
  · rw [hruntimeDone, h.runtimeDone]
    exact (Latest.concat events event).symm
  · rw [hreport, h.report]
    exact (Latest.concat events event).symm

theorem initStart_iff (h : HasData events state) :
    state.initStartData.isSome = true ↔ PlatformKind.initStart ∈ platformKinds events := by
  rw [h.initStart]
  exact PlatformData.isSome_latestOf .initStart

theorem initRuntimeDone_iff (h : HasData events state) :
    state.initRuntimeDoneData.isSome = true ↔
      PlatformKind.initRuntimeDone ∈ platformKinds events := by
  rw [h.initRuntimeDone]
  exact PlatformData.isSome_latestOf .initRuntimeDone

theorem initReport_iff (h : HasData events state) :
    state.initReportData.isSome = true ↔ PlatformKind.initReport ∈ platformKinds events := by
  rw [h.initReport]
  exact PlatformData.isSome_latestOf .initReport

theorem start_iff (h : HasData events state) :
    state.startData.isSome = true ↔ PlatformKind.start ∈ platformKinds events := by
  rw [h.start]
  exact PlatformData.isSome_latestOf .start

theorem runtimeDone_iff (h : HasData events state) :
    state.runtimeDoneData.isSome = true ↔ PlatformKind.runtimeDone ∈ platformKinds events := by
  rw [h.runtimeDone]
  exact PlatformData.isSome_latestOf .runtimeDone

theorem report_iff (h : HasData events state) :
    state.reportData.isSome = true ↔ PlatformKind.report ∈ platformKinds events := by
  rw [h.report]
  exact PlatformData.isSome_latestOf .report

theorem of_isFresh [External] {config : TelemetryProcessorConfig} (h : IsFresh config state) :
    HasData [] state := by
  obtain ⟨serial, functionContext, invocationContext, rng, rfl⟩ := h
  exact ⟨rfl, rfl, rfl, rfl, rfl, rfl, rfl⟩

end HasData

/-! ## Times -/

section

variable {A B : Type} {events : List LambdaTelemetry} {a : PlatformData A} {b : PlatformData B}
  {x : A} {y : B}

/-- Data of an earlier kind has no later time. -/
theorem PlatformData.time_le (htimes : EventsInTime events)
    (hkinds : (events.filterMap LambdaTelemetry.position?).Pairwise (· < ·))
    (hlt : a.kind.position < b.kind.position) (hx : a.latestOf events = some x)
    (hy : b.latestOf events = some y) : a.time x ≤ b.time y := by
  obtain ⟨e, he, hposition, htime⟩ := exists_event hx
  obtain ⟨e', he', hposition', htime'⟩ := exists_event hy
  have hle := time_le_of_position_lt htimes.times hkinds he he' hposition hposition' hlt
  rw [htime, htime']
  unfold LambdaTelemetry.nanos
  omega

theorem PlatformData.time_nonneg (htimes : EventsInTime events) (hx : a.latestOf events = some x) :
    0 ≤ a.time x := by
  obtain ⟨e, he, -, htime⟩ := exists_event hx
  have hepoch := htimes.epoch e he
  rw [htime]
  unfold LambdaTelemetry.nanos
  omega

theorem PlatformData.time_lt (hrange : ∀ event ∈ events, event.nanos < UInt64.size)
    (hx : a.latestOf events = some x) : a.time x < UInt64.size := by
  obtain ⟨e, he, -, htime⟩ := exists_event hx
  rw [htime]
  exact hrange e he

end

end TelemetryExporter
