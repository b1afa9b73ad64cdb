import TelemetryExporter.Verify.PlatformMetrics

/-!
# The platform metrics in degraded mode

`process_telemetry_in_degraded_mode` never keeps a `PlatformRuntimeDone`, and updates V2 on reports
only. The metrics are those of `process_telemetry` exactly if the events that are left out have
nothing to say.
-/

namespace TelemetryExporter

/-! ## Sequences of events -/

/-- Processes one event after another; a failed call changes nothing. -/
def processAll {S : Type}
    (process : LambdaTelemetry → Processing S → Except Error (Processing S))
    (events : List LambdaTelemetry) (p : Processing S) : Processing S :=
  events.foldl (fun p event => (process event p).toOption.getD p) p

/-- The events whose timestamp is accepted. -/
def timedEvents (events : List LambdaTelemetry) : List LambdaTelemetry :=
  events.filter fun event => (eventTimestamp event).toOption.isSome

/-- The metrics of the last `PlatformRuntimeDone`, after one more event. -/
def runtimeMetricsAfter (runtimeMetrics : Option RuntimeDoneMetrics) (event : LambdaTelemetry) :
    Option RuntimeDoneMetrics :=
  match event.record with
  | .platformRuntimeDone _ _ _ metrics _ _ => metrics
  | _ => runtimeMetrics

/-- No `PlatformReport` comes when the last `PlatformRuntimeDone` before it had metrics. -/
def ReportsAlone : Option RuntimeDoneMetrics → List LambdaTelemetry → Prop
  | _, [] => True
  | runtimeMetrics, event :: rest =>
    (event.isReport = true → runtimeMetrics = none) ∧
      ReportsAlone (runtimeMetricsAfter runtimeMetrics event) rest

/-- The event updates V2 in degraded mode as well, or not at all. -/
def LambdaTelemetry.IsQuiet (event : LambdaTelemetry) : Prop :=
  match event.record with
  | .platformInitReport .. => False
  | .platformRuntimeDone _ status _ metrics _ _ => status = .success ∧ metrics = none
  | _ => True

/-- The counters, summaries and gauges are the same. -/
def SameInstruments : PlatformMetricsState → PlatformMetricsState → Prop
  | .disabled, .disabled => True
  | .v1 m, .v1 m' => m.metrics = m'.metrics
  | .v2 m, .v2 m' => m.metrics = m'.metrics
  | _, _ => False

/-! ## One event -/

/-- What V1 makes of a report. -/
def V1.metricsAfterReport (metrics : V1.PlatformMetrics)
    (runtimeMetrics : Option RuntimeDoneMetrics) (reportData : PlatformReportData) :
    V1.PlatformMetrics :=
  let metrics := V1.updateColdstartsMetric metrics reportData.metrics
  let metrics :=
    V1.updateExecutionsAndStatusMetrics metrics reportData.status (isOutOfMemory reportData)
  let metrics := V1.updateDurationMetrics metrics runtimeMetrics reportData.metrics
  let metrics := V1.updateResultSizeMetric metrics runtimeMetrics
  V1.updateMemoryMetrics metrics reportData.metrics

theorem updateMetricsAfterReport_metrics {S : Type} [ProcessingState S] {state : S}
    {reportData : PlatformReportData} (h : ProcessingState.getReportData state = some reportData)
    (m : V1.PlatformMetricsState) :
    (V1.updateMetricsAfterReport m state).metrics =
      V1.metricsAfterReport m.metrics ((ProcessingState.getRuntimeDoneData state).bind (·.metrics))
        reportData := by
  unfold V1.updateMetricsAfterReport
  rw [h]
  rfl

theorem metricsAfterReport_invokeDuration (metrics : V1.PlatformMetrics)
    (runtimeMetrics : Option RuntimeDoneMetrics) (reportData : PlatformReportData) :
    (V1.metricsAfterReport metrics runtimeMetrics reportData).invokeDurationMillis =
      V1.recordIfSome metrics.invokeDurationMillis (runtimeMetrics.map (·.durationMs)) := by
  have hcoldstarts : (V1.updateColdstartsMetric metrics reportData.metrics).invokeDurationMillis =
      metrics.invokeDurationMillis := by
    unfold V1.updateColdstartsMetric
    split <;> rfl
  have hexecutions (metrics : V1.PlatformMetrics) (outOfMemory : Bool) :
      (V1.updateExecutionsAndStatusMetrics metrics reportData.status outOfMemory).invokeDurationMillis =
        metrics.invokeDurationMillis := by
    unfold V1.updateExecutionsAndStatusMetrics
    cases reportData.status with
    | error => cases outOfMemory <;> rfl
    | _ => rfl
  simp only [V1.metricsAfterReport, V1.updateMemoryMetrics, V1.updateResultSizeMetric,
    V1.updateDurationMetrics, hexecutions, hcoldstarts]

/-- What an event does to the metrics of V1. -/
def V1.effect (event : LambdaTelemetry) (runtimeMetrics : Option RuntimeDoneMetrics)
    (metrics : V1.PlatformMetrics) : V1.PlatformMetrics :=
  match event.record with
  | .platformReport requestId status errorType reportMetrics spans tracing =>
    V1.metricsAfterReport metrics runtimeMetrics
      { time := event.nanos, requestId, status, errorType, metrics := reportMetrics, spans, tracing }
  | _ => metrics

theorem effect_invokeCount (event : LambdaTelemetry) (runtimeMetrics : Option RuntimeDoneMetrics)
    (metrics : V1.PlatformMetrics) :
    (V1.effect event runtimeMetrics metrics).invokeDurationMillis.count =
      metrics.invokeDurationMillis.count +
        if event.isReport = true ∧ runtimeMetrics.isSome = true then 1 else 0 := by
  unfold V1.effect LambdaTelemetry.isReport
  cases event.record with
  | platformReport =>
    simp only [metricsAfterReport_invokeDuration, true_and]
    cases runtimeMetrics <;> rfl
  | _ => simp

/-- What an event does to the metrics of V2. -/
def V2.effect (event : LambdaTelemetry) (metrics : V2.PlatformMetrics) : V2.PlatformMetrics :=
  let m : V2.PlatformMetricsState :=
    { startTimestampNanos := 0, latestDataTimestampNanos := 0, metrics }
  match event.record with
  | .platformInitReport initializationType phase metrics spans =>
    (V2.updateMetricsWithInitReport m
      { time := event.nanos, initializationType, phase, metrics, spans }).metrics
  | .platformRuntimeDone requestId status errorType metrics spans tracing =>
    (V2.updateMetricsWithRuntimeDone m
      { time := event.nanos, requestId, status, errorType, metrics, spans, tracing }).metrics
  | .platformReport requestId status errorType metrics spans tracing =>
    (V2.updateMetricsWithReport m
      { time := event.nanos, requestId, status, errorType, metrics, spans, tracing }).metrics
  | _ => metrics

/-- What an event does to the metrics of V2 in degraded mode. -/
def V2.degradedEffect (event : LambdaTelemetry) (metrics : V2.PlatformMetrics) :
    V2.PlatformMetrics :=
  if event.isReport then V2.effect event metrics else metrics

/-- How often the instruments that reports do not update have been updated. -/
def V2.updates (metrics : V2.PlatformMetrics) : Int :=
  metrics.initDurationSeconds.count + metrics.invokeDurationSeconds.count + metrics.errors.count +
    metrics.timeouts.count

theorem degradedEffect_updates (event : LambdaTelemetry) (metrics : V2.PlatformMetrics) :
    V2.updates (V2.degradedEffect event metrics) = V2.updates metrics := by
  unfold V2.degradedEffect V2.effect LambdaTelemetry.isReport
  cases event.record <;> rfl

theorem effect_of_isQuiet {event : LambdaTelemetry} (h : event.IsQuiet)
    (metrics : V2.PlatformMetrics) : V2.effect event metrics = V2.degradedEffect event metrics := by
  unfold LambdaTelemetry.IsQuiet at h
  unfold V2.degradedEffect V2.effect LambdaTelemetry.isReport
  cases hrecord : event.record with
  | platformRuntimeDone =>
    rw [hrecord] at h
    obtain ⟨rfl, rfl⟩ := h
    rfl
  | platformInitReport =>
    rw [hrecord] at h
    cases h
  | _ => rfl

theorem updates_le_effect (event : LambdaTelemetry) (metrics : V2.PlatformMetrics) :
    V2.updates metrics ≤ V2.updates (V2.effect event metrics) ∧
      (V2.updates (V2.effect event metrics) = V2.updates metrics → event.IsQuiet) := by
  unfold LambdaTelemetry.IsQuiet V2.effect
  cases event.record with
  | platformInitReport =>
    simp only [V2.updateMetricsWithInitReport, V2.updates, Summary.record]
    omega
  | platformRuntimeDone _ status _ runtimeMetrics =>
    cases status <;> cases runtimeMetrics <;>
      simp only [V2.updateMetricsWithRuntimeDone, V2.updates, Summary.record, Counter.record]
    case success.none => exact ⟨le_rfl, fun _ => ⟨trivial, trivial⟩⟩
    all_goals exact ⟨by omega, fun h => by omega⟩
  | _ => exact ⟨le_rfl, fun _ => trivial⟩

section

variable [External] {config : TelemetryProcessorConfig} {event : LambdaTelemetry}
  {p p' : Processing InvocationProcessingState} {q q' : Processing DegradedProcessingState}

theorem processFunctionLog_runtimeDoneData (logText : String) (time : OffsetDateTime) :
    (processFunctionLog config logText time p).state.runtimeDoneData = p.state.runtimeDoneData := by
  obtain ⟨logs, l, records, traces, heq⟩ := @processFunctionLog_frame p _ config logText time
  rw [heq]

/-- The runtime metrics that the invocation's state keeps. -/
theorem processTelemetry_runtimeMetrics (h : processTelemetry config event p = .ok p') :
    p'.state.runtimeDoneData.bind (·.metrics) =
      runtimeMetricsAfter (p.state.runtimeDoneData.bind (·.metrics)) event := by
  rw [processTelemetry_ok h]
  unfold processRecord runtimeMetricsAfter
  cases event.record with
  | function logText => rw [processFunctionLog_runtimeDoneData]
  | platformStart => rw [(processPlatformStart_keeps _).runtimeDoneData]
  | platformRuntimeDone =>
    simp only [processRuntimeDone]
    rw [emitSpansAfterRuntimeDone_eq.1]
    rfl
  | platformReport =>
    simp only [processReport]
    rw [emitSpansAfterReport_metricsState.2]
    exact congrArg (Option.bind · (·.metrics)) (pushReportLogs_keeps _).runtimeDoneData
  | _ => rfl

theorem processTelemetry_v1 {m : V1.PlatformMetricsState} (hm : p.metricsState = .v1 m)
    (h : processTelemetry config event p = .ok p') :
    ∃ n, p'.metricsState = .v1 n ∧
      n.metrics = V1.effect event (p.state.runtimeDoneData.bind (·.metrics)) m.metrics := by
  have hstate := @processTelemetry_metricsState _ config p p' ⟨p.state, event⟩ h
  rw [hm] at hstate
  refine ⟨_, hstate, ?_⟩
  unfold MetricsEvent.applyV1 MetricsEvent.report V1.effect
  cases event.record with
  | platformReport => exact updateMetricsAfterReport_metrics rfl m
  | _ => rfl

theorem processTelemetry_v2 {m : V2.PlatformMetricsState} (hm : p.metricsState = .v2 m)
    (h : processTelemetry config event p = .ok p') :
    ∃ n, p'.metricsState = .v2 n ∧ n.metrics = V2.effect event m.metrics := by
  have hstate := @processTelemetry_metricsState _ config p p' ⟨p.state, event⟩ h
  rw [hm] at hstate
  refine ⟨_, hstate, ?_⟩
  unfold MetricsEvent.applyV2 MetricsEvent.report MetricsEvent.runtimeDone MetricsEvent.initReport
    V2.effect
  cases event.record <;> rfl

/-- In degraded mode no event's runtime metrics are kept, and only a report updates the metrics. -/
theorem processTelemetryInDegradedMode_keeps
    (h : processTelemetryInDegradedMode config event q = .ok q') :
    q'.state.runtimeDoneData = q.state.runtimeDoneData ∧
      (event.isReport = false → q'.metricsState = q.metricsState) := by
  rw [processTelemetryInDegradedMode_ok h]
  unfold processRecordInDegradedMode LambdaTelemetry.isReport
  cases event.record with
  | function logText =>
    simp only
    split
    · split <;> exact ⟨rfl, fun _ => rfl⟩
    · exact ⟨rfl, fun _ => rfl⟩
  | platformInitReport =>
    simp only
    split <;> exact ⟨rfl, fun _ => rfl⟩
  | platformStart =>
    simp only
    split <;> exact ⟨rfl, fun _ => rfl⟩
  | platformRuntimeDone =>
    simp only
    split <;> exact ⟨rfl, fun _ => rfl⟩
  | platformReport =>
    simp only
    split <;> exact ⟨rfl, fun hreport => by cases hreport⟩
  | _ => exact ⟨rfl, fun _ => rfl⟩

theorem processTelemetryInDegradedMode_metricsState
    (h : processTelemetryInDegradedMode config event q = .ok q') :
    match event.record with
    | .platformReport requestId status errorType metrics spans tracing =>
      ∃ state : DegradedProcessingState,
        state.runtimeDoneData = q.state.runtimeDoneData ∧
        state.reportData = some
          { time := event.nanos, requestId, status, errorType, metrics, spans, tracing } ∧
        q'.metricsState = updateV1AfterReport state (updateV2WithReport
          { time := event.nanos, requestId, status, errorType, metrics, spans, tracing }
          q.metricsState)
    | _ => q'.metricsState = q.metricsState := by
  have hkeeps := (processTelemetryInDegradedMode_keeps h).2
  unfold LambdaTelemetry.isReport at hkeeps
  rw [processTelemetryInDegradedMode_ok h] at hkeeps ⊢
  cases hrecord : event.record with
  | platformReport =>
    unfold processRecordInDegradedMode
    simp only
    split
    · exact ⟨{ (q.pushLog _).state with reportData := some _ }, rfl, rfl, rfl⟩
    · exact ⟨{ q.state with reportData := some _ }, rfl, rfl, rfl⟩
  | _ =>
    rw [hrecord] at hkeeps
    exact hkeeps rfl

theorem processTelemetryInDegradedMode_v1 {m : V1.PlatformMetricsState}
    (hm : q.metricsState = .v1 m) (h : processTelemetryInDegradedMode config event q = .ok q') :
    ∃ n, q'.metricsState = .v1 n ∧
      n.metrics = V1.effect event (q.state.runtimeDoneData.bind (·.metrics)) m.metrics := by
  have hstate := processTelemetryInDegradedMode_metricsState h
  unfold V1.effect
  cases hrecord : event.record with
  | platformReport =>
    rw [hrecord] at hstate
    obtain ⟨state, hsame, hreport, hstate⟩ := hstate
    rw [hm] at hstate
    refine ⟨_, hstate, ?_⟩
    rw [updateMetricsAfterReport_metrics hreport]
    simp only [ProcessingState.getRuntimeDoneData, hsame]
  | _ =>
    rw [hrecord] at hstate
    exact ⟨m, hstate.trans hm, rfl⟩

theorem processTelemetryInDegradedMode_v2 {m : V2.PlatformMetricsState}
    (hm : q.metricsState = .v2 m) (h : processTelemetryInDegradedMode config event q = .ok q') :
    ∃ n, q'.metricsState = .v2 n ∧ n.metrics = V2.degradedEffect event m.metrics := by
  have hstate := processTelemetryInDegradedMode_metricsState h
  unfold V2.degradedEffect V2.effect LambdaTelemetry.isReport
  cases hrecord : event.record with
  | platformReport =>
    rw [hrecord] at hstate
    obtain ⟨state, -, -, hstate⟩ := hstate
    rw [hm] at hstate
    exact ⟨_, hstate, rfl⟩
  | _ =>
    rw [hrecord] at hstate
    exact ⟨m, hstate.trans hm, rfl⟩

end

/-! ## A sequence of events -/

/-- What the events do to the metrics of V1. -/
def V1.effects : Option RuntimeDoneMetrics → List LambdaTelemetry → V1.PlatformMetrics →
    V1.PlatformMetrics
  | _, [], metrics => metrics
  | runtimeMetrics, event :: rest, metrics =>
    V1.effects (runtimeMetricsAfter runtimeMetrics event) rest
      (V1.effect event runtimeMetrics metrics)

/-- What the events do to the metrics of V1 in degraded mode. -/
def V1.degradedEffects (events : List LambdaTelemetry) (metrics : V1.PlatformMetrics) :
    V1.PlatformMetrics :=
  events.foldl (fun metrics event => V1.effect event none metrics) metrics

/-- What the events do to the metrics of V2. -/
def V2.effects (events : List LambdaTelemetry) (metrics : V2.PlatformMetrics) :
    V2.PlatformMetrics :=
  events.foldl (fun metrics event => V2.effect event metrics) metrics

/-- What the events do to the metrics of V2 in degraded mode. -/
def V2.degradedEffects (events : List LambdaTelemetry) (metrics : V2.PlatformMetrics) :
    V2.PlatformMetrics :=
  events.foldl (fun metrics event => V2.degradedEffect event metrics) metrics

theorem degradedEffects_invokeCount (events : List LambdaTelemetry) (metrics : V1.PlatformMetrics) :
    (V1.degradedEffects events metrics).invokeDurationMillis.count =
      metrics.invokeDurationMillis.count := by
  induction events generalizing metrics with
  | nil => rfl
  | cons event rest ih =>
    refine (ih _).trans ((effect_invokeCount event none metrics).trans ?_)
    simp

/-- The number of invoke durations only grows, and a report that finds runtime metrics adds one. -/
theorem invokeCount_le_effects (events : List LambdaTelemetry)
    (runtimeMetrics : Option RuntimeDoneMetrics) (metrics : V1.PlatformMetrics) :
    metrics.invokeDurationMillis.count ≤
        (V1.effects runtimeMetrics events metrics).invokeDurationMillis.count ∧
      ((V1.effects runtimeMetrics events metrics).invokeDurationMillis.count =
        metrics.invokeDurationMillis.count → ReportsAlone runtimeMetrics events) := by
  induction events generalizing runtimeMetrics metrics with
  | nil => exact ⟨le_rfl, fun _ => trivial⟩
  | cons event rest ih =>
    obtain ⟨hle, halone⟩ := ih (runtimeMetricsAfter runtimeMetrics event)
      (V1.effect event runtimeMetrics metrics)
    have hcount := effect_invokeCount event runtimeMetrics metrics
    unfold V1.effects ReportsAlone
    by_cases hfound : event.isReport = true ∧ runtimeMetrics.isSome = true
    · rw [if_pos hfound] at hcount
      exact ⟨by omega, fun h => by omega⟩
    · rw [if_neg hfound] at hcount
      refine ⟨by omega, fun h => ⟨fun hreport => ?_, halone (by omega)⟩⟩
      cases runtimeMetrics with
      | none => rfl
      | some runtimeMetrics => exact absurd ⟨hreport, rfl⟩ hfound

/-- Only a report looks at the runtime metrics. -/
theorem effect_of_not_isReport {event : LambdaTelemetry} (h : ¬ event.isReport = true)
    (runtimeMetrics : Option RuntimeDoneMetrics) (metrics : V1.PlatformMetrics) :
    V1.effect event runtimeMetrics metrics = metrics := by
  unfold LambdaTelemetry.isReport at h
  unfold V1.effect
  cases hrecord : event.record with
  | platformReport =>
    rw [hrecord] at h
    exact absurd rfl h
  | _ => rfl

theorem effects_of_reportsAlone {events : List LambdaTelemetry}
    {runtimeMetrics : Option RuntimeDoneMetrics} (h : ReportsAlone runtimeMetrics events)
    (metrics : V1.PlatformMetrics) :
    V1.effects runtimeMetrics events metrics = V1.degradedEffects events metrics := by
  induction events generalizing runtimeMetrics metrics with
  | nil => rfl
  | cons event rest ih =>
    have hevent : V1.effect event runtimeMetrics metrics = V1.effect event none metrics := by
      by_cases hreport : event.isReport = true
      · rw [h.1 hreport]
      · rw [effect_of_not_isReport hreport, effect_of_not_isReport hreport]
    exact (ih h.2 _).trans (congrArg (V1.degradedEffects rest) hevent)

theorem degradedEffects_updates (events : List LambdaTelemetry) (metrics : V2.PlatformMetrics) :
    V2.updates (V2.degradedEffects events metrics) = V2.updates metrics := by
  induction events generalizing metrics with
  | nil => rfl
  | cons event rest ih => exact (ih _).trans (degradedEffect_updates event metrics)

theorem updates_le_effects (events : List LambdaTelemetry) (metrics : V2.PlatformMetrics) :
    V2.updates metrics ≤ V2.updates (V2.effects events metrics) ∧
      (V2.updates (V2.effects events metrics) = V2.updates metrics →
        ∀ event ∈ events, event.IsQuiet) := by
  induction events generalizing metrics with
  | nil =>
    refine ⟨le_rfl, fun _ event hevent => ?_⟩
    cases hevent
  | cons event rest ih =>
    obtain ⟨hle, hquiet⟩ := ih (V2.effect event metrics)
    obtain ⟨hevent, hquietEvent⟩ := updates_le_effect event metrics
    change V2.updates metrics ≤ V2.updates (V2.effects rest (V2.effect event metrics)) ∧
      (V2.updates (V2.effects rest (V2.effect event metrics)) = V2.updates metrics → _)
    refine ⟨by omega, fun h e he => ?_⟩
    cases he with
    | head => exact hquietEvent (by omega)
    | tail _ he => exact hquiet (by omega) e he

theorem effects_of_isQuiet {events : List LambdaTelemetry} (h : ∀ event ∈ events, event.IsQuiet)
    (metrics : V2.PlatformMetrics) : V2.effects events metrics = V2.degradedEffects events metrics := by
  induction events generalizing metrics with
  | nil => rfl
  | cons event rest ih =>
    have hevent := effect_of_isQuiet (h event List.mem_cons_self) metrics
    exact (ih (fun e he => h e (List.mem_cons_of_mem _ he)) _).trans
      (congrArg (V2.degradedEffects rest) hevent)

section

variable [External] {config : TelemetryProcessorConfig} {events : List LambdaTelemetry}
  {p : Processing InvocationProcessingState} {q : Processing DegradedProcessingState}

/-- An event is processed unless its timestamp is out of range. -/
structure ProcessesTimed {S : Type}
    (process : LambdaTelemetry → Processing S → Except Error (Processing S)) : Prop where
  ok : ∀ {event time}, eventTimestamp event = .ok time → ∀ p, ∃ p', process event p = .ok p'
  error : ∀ {event e}, eventTimestamp event = .error e → ∀ p, process event p = .error e

theorem processTelemetry_timed : ProcessesTimed (processTelemetry config) where
  ok {event time} htime p := by
    refine ⟨processRecord config time event.record p, ?_⟩
    simp only [processTelemetry, htime]
  error htime p := by simp only [processTelemetry, htime]

theorem processTelemetryInDegradedMode_timed :
    ProcessesTimed (processTelemetryInDegradedMode config) where
  ok {event time} htime q := by
    refine ⟨processRecordInDegradedMode config time event.record q, ?_⟩
    simp only [processTelemetryInDegradedMode, htime]
  error htime q := by simp only [processTelemetryInDegradedMode, htime]

omit [External] in
/-- The next event is processed, or its timestamp is out of range. -/
theorem processAll_cases {S : Type}
    {process : LambdaTelemetry → Processing S → Except Error (Processing S)}
    (timed : ProcessesTimed process) (event : LambdaTelemetry) (rest : List LambdaTelemetry)
    (p : Processing S) :
    (∃ p', process event p = .ok p' ∧ timedEvents (event :: rest) = event :: timedEvents rest ∧
        processAll process (event :: rest) p = processAll process rest p') ∨
      (timedEvents (event :: rest) = timedEvents rest ∧
        processAll process (event :: rest) p = processAll process rest p) := by
  unfold timedEvents processAll
  cases htime : eventTimestamp event with
  | ok time =>
    obtain ⟨p', hp'⟩ := timed.ok htime p
    left
    refine ⟨p', hp', ?_, ?_⟩
    · rw [List.filter_cons_of_pos (by rw [htime]; rfl)]
    · rw [List.foldl_cons, hp']
      rfl
  | error e =>
    right
    refine ⟨?_, ?_⟩
    · rw [List.filter_cons_of_neg (by rw [htime]; exact Bool.false_ne_true)]
    · rw [List.foldl_cons, timed.error htime]
      rfl

omit [External] in
/-- What follows each processed event follows all of them. -/
theorem processAll_follows {S M : Type}
    {process : LambdaTelemetry → Processing S → Except Error (Processing S)}
    (timed : ProcessesTimed process) {I : Processing S → M → Prop} {effect : M → LambdaTelemetry → M}
    (hstep : ∀ {event p p' m}, process event p = .ok p' → I p m → I p' (effect m event))
    {events : List LambdaTelemetry} {p : Processing S} {m : M} (h : I p m) :
    I (processAll process events p) ((timedEvents events).foldl effect m) := by
  induction events generalizing p m with
  | nil => exact h
  | cons event rest ih =>
    rcases processAll_cases timed event rest p with ⟨p', hp', htimed, hall⟩ | ⟨htimed, hall⟩
    · rw [htimed, hall]
      exact ih (hstep hp' h)
    · rw [htimed, hall]
      exact ih h

theorem processAll_v1 {m : V1.PlatformMetricsState} (hm : p.metricsState = .v1 m) :
    ∃ n, (processAll (processTelemetry config) events p).metricsState = .v1 n ∧
      n.metrics = V1.effects (p.state.runtimeDoneData.bind (·.metrics)) (timedEvents events)
        m.metrics := by
  induction events generalizing p m with
  | nil => exact ⟨m, hm, rfl⟩
  | cons event rest ih =>
    rcases processAll_cases (@processTelemetry_timed _ config) event rest p with
      ⟨p', hp', htimed, hall⟩ | ⟨htimed, hall⟩
    · obtain ⟨m', hm', heffect⟩ := processTelemetry_v1 hm hp'
      obtain ⟨n, hn, heffects⟩ := ih hm'
      rw [heffect, processTelemetry_runtimeMetrics hp'] at heffects
      rw [htimed, hall]
      exact ⟨n, hn, heffects⟩
    · rw [htimed, hall]
      exact ih hm

theorem processAll_degraded_v1 {m : V1.PlatformMetricsState} (hm : q.metricsState = .v1 m)
    (hdone : q.state.runtimeDoneData = none) :
    ∃ n, (processAll (processTelemetryInDegradedMode config) events q).metricsState = .v1 n ∧
      n.metrics = V1.degradedEffects (timedEvents events) m.metrics := by
  refine (processAll_follows processTelemetryInDegradedMode_timed (I := fun q metrics =>
    q.state.runtimeDoneData = none ∧ ∃ n, q.metricsState = .v1 n ∧ n.metrics = metrics)
    ?_ ⟨hdone, m, hm, rfl⟩).2
  rintro event q q' metrics hq ⟨hdone, n, hn, rfl⟩
  obtain ⟨n', hn', heffect⟩ := processTelemetryInDegradedMode_v1 hn hq
  rw [hdone, Option.bind_none] at heffect
  exact ⟨(processTelemetryInDegradedMode_keeps hq).1.trans hdone, n', hn', heffect⟩

theorem processAll_v2 {m : V2.PlatformMetricsState} (hm : p.metricsState = .v2 m) :
    ∃ n, (processAll (processTelemetry config) events p).metricsState = .v2 n ∧
      n.metrics = V2.effects (timedEvents events) m.metrics := by
  refine processAll_follows processTelemetry_timed (I := fun p metrics =>
    ∃ n, p.metricsState = .v2 n ∧ n.metrics = metrics) ?_ ⟨m, hm, rfl⟩
  rintro event p p' metrics hp ⟨n, hn, rfl⟩
  exact processTelemetry_v2 hn hp

theorem processAll_degraded_v2 {m : V2.PlatformMetricsState} (hm : q.metricsState = .v2 m) :
    ∃ n, (processAll (processTelemetryInDegradedMode config) events q).metricsState = .v2 n ∧
      n.metrics = V2.degradedEffects (timedEvents events) m.metrics := by
  refine processAll_follows processTelemetryInDegradedMode_timed (I := fun q metrics =>
    ∃ n, q.metricsState = .v2 n ∧ n.metrics = metrics) ?_ ⟨m, hm, rfl⟩
  rintro event q q' metrics hq ⟨n, hn, rfl⟩
  exact processTelemetryInDegradedMode_v2 hn hq

theorem processAll_disabled (hp : p.metricsState = .disabled) :
    (processAll (processTelemetry config) events p).metricsState = .disabled := by
  refine @processAll_follows _ Unit _ processTelemetry_timed
    (fun p _ => p.metricsState = .disabled) (fun _ _ => ()) ?_ events p () hp
  intro event p p' _ hp' hp
  have hstate := @processTelemetry_metricsState _ config p p' ⟨p.state, event⟩ hp'
  rw [hp] at hstate
  exact hstate

theorem processAll_degraded_disabled (hq : q.metricsState = .disabled) :
    (processAll (processTelemetryInDegradedMode config) events q).metricsState = .disabled := by
  refine @processAll_follows _ Unit _ processTelemetryInDegradedMode_timed
    (fun q _ => q.metricsState = .disabled) (fun _ _ => ()) ?_ events q () hq
  intro event q q' _ hq' hq
  have hstate := processTelemetryInDegradedMode_metricsState hq'
  cases hrecord : event.record with
  | platformReport =>
    rw [hrecord] at hstate
    obtain ⟨state, -, -, hstate⟩ := hstate
    rw [hq] at hstate
    exact hstate
  | _ =>
    rw [hrecord] at hstate
    exact hstate.trans hq

/-- With what the events leave out, degraded processing agrees with normal processing. -/
def DegradedAgrees (metricsState : PlatformMetricsState) (events : List LambdaTelemetry) : Prop :=
  match metricsState with
  | .disabled => True
  | .v1 _ => ReportsAlone none (timedEvents events)
  | .v2 _ => ∀ event ∈ timedEvents events, event.IsQuiet

/-- From equal metrics, both dispatchers end with the same instruments exactly if, in V1, no report
comes after a `PlatformRuntimeDone` with metrics, and in V2, there is no `PlatformInitReport` and no
`PlatformRuntimeDone` that is a failure or has metrics. -/
theorem degraded_metrics_iff (hp : p.state.runtimeDoneData = none)
    (hq : q.state.runtimeDoneData = none) (hsame : p.metricsState = q.metricsState) :
    SameInstruments (processAll (processTelemetryInDegradedMode config) events q).metricsState
        (processAll (processTelemetry config) events p).metricsState ↔
      DegradedAgrees p.metricsState events := by
  unfold DegradedAgrees
  cases hm : p.metricsState with
  | disabled =>
    rw [processAll_disabled hm, processAll_degraded_disabled (hsame.symm.trans hm)]
    exact ⟨fun _ => trivial, fun _ => trivial⟩
  | v1 m =>
    obtain ⟨n, hn, heffects⟩ := @processAll_v1 _ config events p m hm
    obtain ⟨n', hn', hdegraded⟩ :=
      @processAll_degraded_v1 _ config events q m (hsame.symm.trans hm) hq
    rw [hn, hn']
    rw [hp, Option.bind_none] at heffects
    change n'.metrics = n.metrics ↔ _
    rw [heffects, hdegraded]
    constructor
    · intro h
      refine (invokeCount_le_effects _ none m.metrics).2 ?_
      rw [← h, degradedEffects_invokeCount]
    · intro h
      exact (effects_of_reportsAlone h m.metrics).symm
  | v2 m =>
    obtain ⟨n, hn, heffects⟩ := @processAll_v2 _ config events p m hm
    obtain ⟨n', hn', hdegraded⟩ :=
      @processAll_degraded_v2 _ config events q m (hsame.symm.trans hm)
    rw [hn, hn']
    change n'.metrics = n.metrics ↔ _
    rw [heffects, hdegraded]
    constructor
    · intro h
      refine (updates_le_effects _ m.metrics).2 ?_
      rw [← h, degradedEffects_updates]
    · intro h
      exact (effects_of_isQuiet h m.metrics).symm

end

/-! ## A report after a `PlatformRuntimeDone` -/

/-- The degraded state of the sample function. -/
def sampleDegradedProcessing (metricsState : PlatformMetricsState) :
    Processing DegradedProcessingState where
  state := { functionContext := sampleContext, traceId := [], spanId := [] }
  metricsState
  outputBuffers := {}
  rng := 0

/-- A `PlatformRuntimeDone` with metrics. -/
def sampleMeteredRuntimeDone : LambdaTelemetry :=
  ⟨1, .platformRuntimeDone "r" .success none (some ⟨1, none⟩) [] none⟩

theorem degraded_metrics_iff_v1 :
    SameInstruments
        (processAll (@processTelemetryInDegradedMode sampleExternal
          (sampleConfig .lowOverhead .disabled).processorConfig)
          [sampleRuntimeDone 1 "r", sampleReport 2 "r"]
          (sampleDegradedProcessing (.forMode 0 .platformReport))).metricsState
        (processAll (@processTelemetry sampleExternal
          (sampleConfig .lowOverhead .disabled).processorConfig)
          [sampleRuntimeDone 1 "r", sampleReport 2 "r"]
          { sampleProcessing with metricsState := .forMode 0 .platformReport }).metricsState ↔
      DegradedAgrees (.forMode 0 .platformReport) [sampleRuntimeDone 1 "r", sampleReport 2 "r"] :=
  @degraded_metrics_iff sampleExternal _ _ _ _ rfl rfl rfl

/-- The report's duration has no invoke duration to be compared with. -/
theorem degraded_metrics_differ :
    ¬ SameInstruments
        (processAll (@processTelemetryInDegradedMode sampleExternal
          (sampleConfig .lowOverhead .disabled).processorConfig)
          [sampleMeteredRuntimeDone, sampleReport 2 "r"]
          (sampleDegradedProcessing (.forMode 0 .platformReport))).metricsState
        (processAll (@processTelemetry sampleExternal
          (sampleConfig .lowOverhead .disabled).processorConfig)
          [sampleMeteredRuntimeDone, sampleReport 2 "r"]
          { sampleProcessing with metricsState := .forMode 0 .platformReport }).metricsState := by
  obtain ⟨n, hn, heffects⟩ := @processAll_v1 sampleExternal
    (sampleConfig .lowOverhead .disabled).processorConfig [sampleMeteredRuntimeDone, sampleReport 2 "r"]
    { sampleProcessing with metricsState := .forMode 0 .platformReport } _ rfl
  obtain ⟨n', hn', hdegraded⟩ := @processAll_degraded_v1 sampleExternal
    (sampleConfig .lowOverhead .disabled).processorConfig [sampleMeteredRuntimeDone, sampleReport 2 "r"]
    (sampleDegradedProcessing (.forMode 0 .platformReport)) _ rfl rfl
  rw [hn, hn']
  intro h
  have hcount : n'.metrics.invokeDurationMillis.count = n.metrics.invokeDurationMillis.count :=
    congrArg (fun metrics => metrics.invokeDurationMillis.count) h
  rw [heffects, hdegraded] at hcount
  revert hcount
  decide

end TelemetryExporter
