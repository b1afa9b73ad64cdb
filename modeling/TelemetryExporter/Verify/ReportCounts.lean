import TelemetryExporter.Verify.DegradedMetrics
import TelemetryExporter.Verify.PlatformLogs

/-!
# The counters of V1 and the report logs

`is_out_of_memory` is evaluated for the report's log and again for the counters, where it is only
asked for if the status is `Error`. The log says `out_of_memory` also of a report with the error type
`Runtime.OutOfMemory` and another status. `faas.ooms` leaves it out: `faas.errors` or `faas.timeouts`
counts it, or none of them if the status is `Success`.
-/

namespace TelemetryExporter

/-! ## What a report log says -/

/-- A field of the log's `event`. -/
def LogRecord.eventField (key : String) (log : LogRecord) : Option AnyValue :=
  (log.body.bind (valueOf "event")).bind (valueOf key)

/-- The log's `out_of_memory`, which is skipped by some logs when it is false. -/
def LogRecord.outOfMemory (log : LogRecord) : Bool :=
  match log.eventField "out_of_memory" with
  | some ⟨some (.boolValue b)⟩ => b
  | _ => false

/-- The log's `status`. -/
def LogRecord.eventStatus (log : LogRecord) : Option String :=
  match log.eventField "status" with
  | some ⟨some (.stringValue s)⟩ => some s
  | _ => none

/-- The log says that the function ended with an error and was out of memory. -/
def LogRecord.isOomError (log : LogRecord) : Bool :=
  log.outOfMemory ∧ log.eventStatus = some (statusToString .error)

/-- Whether a log record was made from a report. -/
def LogSource.isReport : LogSource → Bool
  | .report _ => true
  | _ => false

/-- The records that were made from reports. -/
def reportLogs (logs : List LogRecord) : List LogRecord := logs.filter (·.source.isReport)

/-- The report's status and `is_out_of_memory`. -/
def PlatformReportData.outcome (data : PlatformReportData) : Bool × Option String :=
  (isOutOfMemory data, some (statusToString data.status))

/-- What the log says about status and memory. -/
def LogRecord.outcome (log : LogRecord) : Bool × Option String := (log.outOfMemory, log.eventStatus)

theorem valueOf_fromJson (key : String) (o : List (String × Json)) :
    valueOf key (.fromJson (.object o)) =
      (o.find? fun e => e.1 = key).map fun e => .fromJson e.2 := by
  change ((fromJsonObject o).find? fun e => e.key = key).bind (·.value) = _
  rw [fromJsonObject_eq_map, List.find?_map]
  change ((o.find? fun e => e.1 = key).map _).bind _ = _
  cases o.find? fun e => e.1 = key with
  | none => rfl
  | some e => rfl

/-- The value of a field of an object. -/
theorem valueOf_ofFields {fields : List (String × Option Json)} (hn : (fields.map Prod.fst).Nodup)
    {key : String} {value : Option Json} (h : (key, value) ∈ fields) :
    valueOf key (.fromJson (.object (Json.ofFields fields))) = value.map AnyValueOf.fromJson := by
  have hpresent : ((presentFields fields).map Prod.fst).Nodup :=
    hn.sublist (presentFields_keys fields)
  have hperm := Entries.insertAll_perm Entries.ordered_nil hpresent
  rw [List.filter_nil, List.append_nil, ← ofFields_eq] at hperm
  have hkeys : ((Json.ofFields fields).map Prod.fst).Nodup :=
    (hperm.map Prod.fst).nodup_iff.2 hpresent
  rw [valueOf_fromJson]
  cases value with
  | none =>
    have habsent : key ∉ (Json.ofFields fields).map Prod.fst := by
      intro hmem
      obtain ⟨⟨k, v⟩, he, rfl⟩ := List.mem_map.1 hmem
      have heq := List.inj_on_of_nodup_map hn h (mem_ofFields he) rfl
      cases congrArg Prod.snd heq
    rw [Entries.find?_of_not_mem habsent]
    rfl
  | some v =>
    have hmem : (key, v) ∈ Json.ofFields fields :=
      hperm.mem_iff.2 (List.mem_filterMap.2 ⟨_, h, rfl⟩)
    rw [Entries.find?_of_mem hkeys hmem]
    rfl

/-- The log's event has the fields, each at most once. -/
def LogRecord.HasEvent (log : LogRecord) (fields : List (String × Option Json)) : Prop :=
  (fields.map Prod.fst).Nodup ∧ ∃ metadata kind, log.body = some (.fromJson (.object (Json.ofFields
    [("cx_metadata", metadata), ("platform_event_type", some kind),
      ("event", some (.object (Json.ofFields fields)))])))

theorem eventField_eq {log : LogRecord} {fields : List (String × Option Json)}
    (hlog : log.HasEvent fields) {key : String} {value : Option Json} (h : (key, value) ∈ fields) :
    log.eventField key = value.map AnyValueOf.fromJson := by
  obtain ⟨hn, metadata, kind, hbody⟩ := hlog
  have hevent : valueOf "event" (.fromJson (.object (Json.ofFields
      [("cx_metadata", metadata), ("platform_event_type", some kind),
        ("event", some (.object (Json.ofFields fields)))]))) =
      Option.map AnyValueOf.fromJson (some (.object (Json.ofFields fields))) :=
    valueOf_ofFields (by simp) (by simp)
  unfold LogRecord.eventField
  rw [hbody, Option.bind_some, hevent, Option.map_some, Option.bind_some]
  exact valueOf_ofFields hn h

/-- A log that skips `out_of_memory` says that it is false. -/
theorem outcome_eq {log : LogRecord} {fields : List (String × Option Json)}
    (hlog : log.HasEvent fields) {outOfMemory : Bool} {status : String}
    (hstatus : ("status", some (.string status)) ∈ fields)
    (hmemory : ("out_of_memory", some (.bool outOfMemory)) ∈ fields ∨
      ("out_of_memory", none) ∈ fields ∧ outOfMemory = false) :
    log.outcome = (outOfMemory, some status) := by
  have hs : log.eventStatus = some status := by
    unfold LogRecord.eventStatus
    rw [eventField_eq hlog hstatus]
    rfl
  have hm : log.outOfMemory = outOfMemory := by
    unfold LogRecord.outOfMemory
    rcases hmemory with hmemory | ⟨hmemory, rfl⟩
    · rw [eventField_eq hlog hmemory]
      rfl
    · rw [eventField_eq hlog hmemory]
      rfl
  exact Prod.ext hm hs

/-- The fields that a platform log is made with are those of its event. -/
theorem platformLogRecord_hasEvent {kind : Json} {fields : List (String × Option Json)}
    (hn : (fields.map Prod.fst).Nodup) (severity : SeverityNumber) (metadata : Option LogMetadata)
    (timestamp : Nat) (spanRef : SpanRef) (source : LogSource) :
    (platformLogRecord
      [("platform_event_type", some kind), ("event", some (.object (Json.ofFields fields)))]
      severity metadata timestamp spanRef source).HasEvent fields :=
  ⟨hn, metadata.map LogMetadata.toValue, kind, rfl⟩

/-- The log of a report says what the report's outcome is, whether or not it skips defaults. -/
theorem makePlatformReportLog_outcome {S : Type} [ProcessingState S]
    (config : TelemetryProcessorConfig) (state : S) (data : PlatformReportData) :
    (makePlatformReportLog config state data).1.outcome = data.outcome := by
  simp only [makePlatformReportLog]
  by_cases hhide : config.platformLogs.hideDefaultValues = true
  · rw [if_pos hhide]
    apply outcome_eq
    · apply platformLogRecord_hasEvent
      simp
    · simp
    · cases isOutOfMemory data with
      | false => exact .inr ⟨by simp [isFalse], rfl⟩
      | true => exact .inl (by simp [isFalse])
  · rw [if_neg hhide]
    apply outcome_eq
    · apply platformLogRecord_hasEvent
      simp
    · simp
    · exact .inl (by simp)

/-! ## The report logs of an event -/

/-- The data of a `PlatformReport`. -/
def LambdaTelemetry.reportData (event : LambdaTelemetry) : Option PlatformReportData :=
  match event.record with
  | .platformReport requestId status errorType metrics spans tracing =>
    some { time := event.nanos, requestId, status, errorType, metrics, spans, tracing }
  | _ => none

/-- What the report logs among the logs say. -/
def reportOutcomes (logs : List LogRecord) : List (Bool × Option String) :=
  (reportLogs logs).map LogRecord.outcome

theorem reportOutcomes_append (a b : List LogRecord) :
    reportOutcomes (a ++ b) = reportOutcomes a ++ reportOutcomes b := by
  unfold reportOutcomes reportLogs
  rw [List.filter_append, List.map_append]

theorem reportOutcomes_eq_nil {logs : List LogRecord}
    (h : ∀ log ∈ logs, log.source.isReport = false) : reportOutcomes logs = [] := by
  have hnone : reportLogs logs = [] := by
    apply List.filter_eq_nil_iff.2
    intro log hlog
    rw [h log hlog]
    exact Bool.false_ne_true
  unfold reportOutcomes
  rw [hnone, List.map_nil]

/-- The outcomes that the report logs in the buffer tell. -/
def Processing.outcomes {S : Type} (p : Processing S) : List (Bool × Option String) :=
  reportOutcomes p.outputBuffers.logsBuffer

section

variable {S : Type} {config : TelemetryProcessorConfig} {r : Processing S}

theorem pushLog_outcomes {makeLog : S → LogRecord × S}
    (h : (makeLog r.state).1.source.isReport = false) : (r.pushLog makeLog).outcomes = r.outcomes := by
  have hnone : reportOutcomes [(makeLog r.state).1] = [] := by
    apply reportOutcomes_eq_nil
    intro log hlog
    rw [List.mem_singleton.1 hlog]
    exact h
  have happend := reportOutcomes_append r.outputBuffers.logsBuffer [(makeLog r.state).1]
  rw [hnone, List.append_nil] at happend
  exact happend

theorem pushLog_start_outcomes [ProcessingState S] (data : PlatformStartData) :
    (r.pushLog fun s => makePlatformStartLog config s data).outcomes = r.outcomes := by
  apply pushLog_outcomes
  rw [makePlatformStartLog_source]
  rfl

theorem pushLog_runtimeDone_outcomes [ProcessingState S] (data : PlatformRuntimeDoneData)
    (status description : Option String) :
    (r.pushLog fun s => makePlatformRuntimeDoneLog config s data status description).outcomes =
      r.outcomes := by
  apply pushLog_outcomes
  rw [makePlatformRuntimeDoneLog_source]
  rfl

theorem pushLog_report_outcomes [ProcessingState S] (data : PlatformReportData) :
    (r.pushLog fun s => makePlatformReportLog config s data).outcomes =
      r.outcomes ++ [data.outcome] := by
  have happend := reportOutcomes_append r.outputBuffers.logsBuffer
    [(makePlatformReportLog config r.state data).1]
  have hone : reportOutcomes [(makePlatformReportLog config r.state data).1] = [data.outcome] := by
    simp [reportOutcomes, reportLogs, LogSource.isReport, makePlatformReportLog_outcome]
  rw [hone] at happend
  exact happend

end

section

variable [External] {config : TelemetryProcessorConfig} {event : LambdaTelemetry}
  {p p' : Processing InvocationProcessingState} {q q' : Processing DegradedProcessingState}

theorem pushFunctionLogs_outcomes (logs : List RawFunctionLog) :
    (pushFunctionLogs config logs p).outcomes = p.outcomes := by
  obtain ⟨l, records, heq, hsources⟩ := @pushFunctionLogs_spec p _ config logs
  have hnone : reportOutcomes records = [] := by
    apply reportOutcomes_eq_nil
    intro log hlog
    have hsource : log.source ∈ logs.map (RawFunctionLog.source (some p.state.serial)) := by
      rw [← hsources]
      exact List.mem_map_of_mem hlog
    obtain ⟨raw, -, hraw⟩ := List.mem_map.1 hsource
    rw [← hraw]
    rfl
  unfold Processing.outcomes
  rw [heq, reportOutcomes_append, hnone, List.append_nil]

theorem takeLogs_outcomes : (takeLogs config p).outcomes = p.outcomes :=
  pushFunctionLogs_outcomes _

theorem processDelayedLogs_outcomes : (processDelayedLogs config p).outcomes = p.outcomes := by
  unfold processDelayedLogs
  split
  · split
    · rw [takeLogs_outcomes]
      exact pushLog_start_outcomes _
    · exact takeLogs_outcomes
  · exact takeLogs_outcomes

theorem stopDelayingLogs_outcomes : (stopDelayingLogs config p).outcomes = p.outcomes := by
  unfold stopDelayingLogs
  split
  · exact processDelayedLogs_outcomes
  · rfl

theorem processFunctionLog_outcomes (logText : String) (time : OffsetDateTime) :
    (processFunctionLog config logText time p).outcomes = p.outcomes := by
  rcases @processFunctionLog_cases p _ config logText time with
    heq | ⟨trace, heq⟩ | ⟨text, -, heq⟩ | ⟨text, -, heq⟩
  · rw [heq]
  · rw [heq]
    rfl
  · rw [heq]
    rfl
  · rw [heq]
    exact pushLog_outcomes rfl

omit [External] in
theorem processPlatformStart_outcomes (data : PlatformStartData) :
    (processPlatformStart config data p).outcomes = p.outcomes := by
  have hpush : (p.pushLog fun s => makePlatformStartLog config s data).outcomes = p.outcomes :=
    pushLog_start_outcomes data
  unfold processPlatformStart
  split
  · exact hpush
  · rfl

omit [External] in
theorem pushRuntimeDoneLog_outcomes (data : PlatformRuntimeDoneData) :
    (pushRuntimeDoneLog config data p).outcomes = p.outcomes := by
  unfold pushRuntimeDoneLog
  dsimp only
  split
  · exact pushLog_runtimeDone_outcomes data _ _
  · rfl

theorem processRuntimeDone_outcomes (data : PlatformRuntimeDoneData) :
    (processRuntimeDone config data p).outcomes = p.outcomes := by
  unfold processRuntimeDone Processing.outcomes
  dsimp only
  rw [emitSpansAfterRuntimeDone_eq.2.1]
  exact (pushRuntimeDoneLog_outcomes data).trans stopDelayingLogs_outcomes

theorem pushReportLogs_outcomes (hmode : config.logMode = .structured)
    (hreport : config.platformLogSet.report = true) (data : PlatformReportData) :
    (pushReportLogs config data p).outcomes = p.outcomes ++ [data.outcome] := by
  unfold pushReportLogs
  rw [if_pos hmode]
  dsimp only
  rw [if_pos hreport, pushLog_report_outcomes, takeLogs_outcomes]

theorem processReport_outcomes (hmode : config.logMode = .structured)
    (hreport : config.platformLogSet.report = true) (data : PlatformReportData) :
    (processReport config data p).outcomes = p.outcomes ++ [data.outcome] := by
  have hspans (r : Processing InvocationProcessingState) :
      (emitSpansAfterReport config r).outcomes = r.outcomes := by
    unfold emitSpansAfterReport
    split <;> rfl
  have hemit := hspans (setReportData data (pushReportLogs config data p))
  exact hemit.trans (pushReportLogs_outcomes hmode hreport data)

/-- The only report log is that of a `PlatformReport`. -/
theorem processTelemetry_outcomes (hmode : config.logMode = .structured)
    (hreport : config.platformLogSet.report = true)
    (h : processTelemetry config event p = .ok p') :
    p'.outcomes = p.outcomes ++ event.reportData.toList.map PlatformReportData.outcome := by
  rw [processTelemetry_ok h]
  unfold processRecord LambdaTelemetry.reportData
  cases event.record with
  | function logText => exact (processFunctionLog_outcomes _ _).trans (List.append_nil _).symm
  | platformStart => exact (processPlatformStart_outcomes _).trans (List.append_nil _).symm
  | platformRuntimeDone => exact (processRuntimeDone_outcomes _).trans (List.append_nil _).symm
  | platformReport => exact processReport_outcomes hmode hreport _
  | _ => exact (List.append_nil _).symm

theorem processTelemetryInDegradedMode_outcomes (hmode : config.logMode = .structured)
    (hreport : config.platformLogSet.report = true)
    (h : processTelemetryInDegradedMode config event q = .ok q') :
    q'.outcomes = q.outcomes ++ event.reportData.toList.map PlatformReportData.outcome := by
  rw [processTelemetryInDegradedMode_ok h]
  unfold processRecordInDegradedMode LambdaTelemetry.reportData
  cases event.record with
  | function logText =>
    simp only
    rw [if_pos hmode]
    apply Eq.trans ?_ (List.append_nil _).symm
    cases detectEpsagonTrace logText with
    | epsagonTraceJson trace => rfl
    | regularLog text => exact pushLog_outcomes rfl
  | platformInitReport =>
    apply Eq.trans ?_ (List.append_nil _).symm
    simp only
    split <;> rfl
  | platformStart =>
    apply Eq.trans ?_ (List.append_nil _).symm
    simp only
    split
    · exact pushLog_start_outcomes _
    · rfl
  | platformRuntimeDone =>
    apply Eq.trans ?_ (List.append_nil _).symm
    simp only
    split
    · exact pushLog_runtimeDone_outcomes _ _ _
    · rfl
  | platformReport =>
    simp only
    rw [if_pos ⟨hmode, hreport⟩]
    exact pushLog_report_outcomes _
  | _ => exact (List.append_nil _).symm

end

/-! ## The counters of an event -/

/-- The executions are the reports, and each report without success is an error, an
out-of-memory error or a timeout. -/
structure CountsReports (metrics : V1.PlatformMetrics) (reports : List PlatformReportData) : Prop where
  executions : metrics.executions.count = reports.length
  failures : metrics.errors.count + metrics.ooms.count + metrics.timeouts.count =
    reports.countP fun data => data.status ≠ .success

/-- The report's status is `Error`, and it is out of memory. -/
def PlatformReportData.isOomError (data : PlatformReportData) : Bool :=
  data.status = .error ∧ isOutOfMemory data

theorem metricsAfterReport_statuses (metrics : V1.PlatformMetrics)
    (runtimeMetrics : Option RuntimeDoneMetrics) (data : PlatformReportData) :
    (V1.metricsAfterReport metrics runtimeMetrics data).executions = metrics.executions.record 1 ∧
      (V1.metricsAfterReport metrics runtimeMetrics data).errors =
        (if data.status = .failure ∨ data.status = .error ∧ isOutOfMemory data = false then
          metrics.errors.record 1 else metrics.errors) ∧
      (V1.metricsAfterReport metrics runtimeMetrics data).ooms =
        (if data.status = .error ∧ isOutOfMemory data = true then metrics.ooms.record 1
          else metrics.ooms) ∧
      (V1.metricsAfterReport metrics runtimeMetrics data).timeouts =
        (if data.status = .timeout then metrics.timeouts.record 1 else metrics.timeouts) := by
  unfold V1.metricsAfterReport
  simp only [V1.updateMemoryMetrics, V1.updateResultSizeMetric, V1.updateDurationMetrics,
    updateExecutionsAndStatusMetrics_eq, updateColdstartsMetric_eq, and_self]

theorem count_record_if (c : Counter) (p : Prop) [Decidable p] :
    (if p then c.record 1 else c).count = c.count + if p then 1 else 0 := by
  split
  · rfl
  · exact (Int.add_zero _).symm

/-- A status without success is counted once, by one of three counters. -/
theorem status_counted_once (status : Status) (outOfMemory : Bool) :
    (if status = .failure ∨ status = .error ∧ outOfMemory = false then 1 else 0) +
        (if status = .error ∧ outOfMemory = true then 1 else 0) +
        (if status = .timeout then 1 else 0) =
      (if decide (status ≠ .success) = true then 1 else 0 : Int) := by
  cases status with
  | error => cases outOfMemory <;> rfl
  | _ => rfl

theorem CountsReports.snoc {metrics : V1.PlatformMetrics} {reports : List PlatformReportData}
    (h : CountsReports metrics reports) (runtimeMetrics : Option RuntimeDoneMetrics)
    (data : PlatformReportData) :
    CountsReports (V1.metricsAfterReport metrics runtimeMetrics data) (reports ++ [data]) := by
  obtain ⟨hexecutions, herrors, hooms, htimeouts⟩ :=
    metricsAfterReport_statuses metrics runtimeMetrics data
  constructor
  · rw [hexecutions, List.length_append, List.length_singleton, Int.natCast_add, ← h.executions]
    rfl
  · have honce := status_counted_once data.status (isOutOfMemory data)
    have hfailures := h.failures
    rw [herrors, hooms, htimeouts, count_record_if, count_record_if, count_record_if,
      List.countP_append, List.countP_singleton, Int.natCast_add, apply_ite Nat.cast]
    change _ = _ + (if decide (data.status ≠ .success) = true then 1 else 0 : Int)
    omega

theorem ooms_snoc {metrics : V1.PlatformMetrics} {reports : List PlatformReportData}
    (h : metrics.ooms.count = reports.countP PlatformReportData.isOomError)
    (runtimeMetrics : Option RuntimeDoneMetrics) (data : PlatformReportData) :
    (V1.metricsAfterReport metrics runtimeMetrics data).ooms.count =
      (reports ++ [data]).countP PlatformReportData.isOomError := by
  obtain ⟨-, -, hooms, -⟩ := metricsAfterReport_statuses metrics runtimeMetrics data
  rw [hooms, count_record_if, List.countP_append, List.countP_singleton, Int.natCast_add, ← h]
  unfold PlatformReportData.isOomError
  by_cases hoom : data.status = .error ∧ isOutOfMemory data = true
  · rw [if_pos hoom, if_pos (decide_eq_true hoom)]
    rfl
  · rw [if_neg hoom, if_neg (by simpa using hoom)]
    rfl

/-! ## Runs -/

/-- What the events of all invocations share, and the logs that have left the buffer. -/
structure ReportRun where
  metricsState : PlatformMetricsState
  rng : Rng
  outputBuffers : OutputBuffers := {}
  emitted : List LogRecord := []

namespace ReportRun

/-- Before the first event. -/
def new (config : TelemetryProcessorConfig) (now : Nat) (rng : Rng) : ReportRun :=
  { metricsState := .forMode now config.platformMetricsMode, rng }

/-- All logs that have been made. -/
def logs (s : ReportRun) : List LogRecord := s.emitted ++ s.outputBuffers.logsBuffer

/-- One event, processed with the given state. A failed call changes nothing. -/
def process {S : Type}
    (process : LambdaTelemetry → Processing S → Except Error (Processing S)) (state : S)
    (event : LambdaTelemetry) (s : ReportRun) : ReportRun :=
  match process event
    { state, metricsState := s.metricsState, outputBuffers := s.outputBuffers, rng := s.rng } with
  | .ok p =>
    { s with metricsState := p.metricsState, outputBuffers := p.outputBuffers, rng := p.rng }
  | .error _ => s

end ReportRun

/-- An event of some invocation, an event in degraded mode, or the taking of a batch. -/
inductive ReportAction where
  | telemetry (state : InvocationProcessingState) (event : LambdaTelemetry)
  | degradedTelemetry (state : DegradedProcessingState) (event : LambdaTelemetry)
  | takeBatch

/-- One `process_telemetry`, `process_telemetry_in_degraded_mode` or `prepare_telemetry_batch`: the
batch takes the logs out of the buffer and reports the metrics. -/
def reportStep [External] (config : TelemetryProcessorConfig) (s : ReportRun) :
    ReportAction → ReportRun
  | .telemetry state event => s.process (processTelemetry config) state event
  | .degradedTelemetry state event => s.process (processTelemetryInDegradedMode config) state event
  | .takeBatch =>
    { s with
      metricsState := s.metricsState.makeMetricsReport.2
      outputBuffers := { s.outputBuffers with logsBuffer := [] }
      emitted := s.emitted ++ s.outputBuffers.logsBuffer }

/-- A run from the start. -/
def runReports [External] (config : TelemetryProcessorConfig) (now : Nat) (rng : Rng)
    (actions : List ReportAction) : ReportRun :=
  actions.foldl (reportStep config) (.new config now rng)

/-- The report that an event is, if its timestamp is accepted. -/
def LambdaTelemetry.processedReport (event : LambdaTelemetry) : Option PlatformReportData :=
  if (eventTimestamp event).toOption.isSome then event.reportData else none

/-- The report that the action processes. -/
def ReportAction.report : ReportAction → Option PlatformReportData
  | .telemetry _ event => event.processedReport
  | .degradedTelemetry _ event => event.processedReport
  | .takeBatch => none

/-- The reports that have been processed. -/
def processedReports (actions : List ReportAction) : List PlatformReportData :=
  actions.filterMap ReportAction.report

/-- The counters and the report logs are those of the reports. -/
structure ReportsCounted (reports : List PlatformReportData) (s : ReportRun) : Prop where
  counted : ∃ m, s.metricsState = .v1 m ∧ CountsReports m.metrics reports ∧
    m.metrics.ooms.count = reports.countP PlatformReportData.isOomError
  logged : reportOutcomes s.logs = reports.map PlatformReportData.outcome

/-- Processing an event updates the metrics of V1 and logs a report as both dispatchers do. -/
structure ProcessesReports {S : Type}
    (process : LambdaTelemetry → Processing S → Except Error (Processing S)) : Prop where
  timed : ProcessesTimed process
  v1 : ∀ {event p p' m}, p.metricsState = .v1 m → process event p = .ok p' →
    ∃ n runtimeMetrics, p'.metricsState = .v1 n ∧
      n.metrics = V1.effect event runtimeMetrics m.metrics
  outcomes : ∀ {event p p'}, process event p = .ok p' →
    p'.outcomes = p.outcomes ++ event.reportData.toList.map PlatformReportData.outcome

theorem effect_eq (event : LambdaTelemetry) (runtimeMetrics : Option RuntimeDoneMetrics)
    (metrics : V1.PlatformMetrics) :
    V1.effect event runtimeMetrics metrics =
      event.reportData.elim metrics (V1.metricsAfterReport metrics runtimeMetrics) := by
  unfold V1.effect LambdaTelemetry.reportData
  cases event.record with
  | platformReport => rfl
  | _ => rfl

namespace ReportsCounted

variable {reports : List PlatformReportData} {s : ReportRun}

theorem processed {S : Type}
    {process : LambdaTelemetry → Processing S → Except Error (Processing S)}
    (hprocess : ProcessesReports process) (h : ReportsCounted reports s) (state : S)
    (event : LambdaTelemetry) :
    ReportsCounted (reports ++ event.processedReport.toList) (s.process process state event) := by
  obtain ⟨⟨m, hm, hcounts, hooms⟩, hlogged⟩ := h
  unfold ReportRun.process LambdaTelemetry.processedReport
  cases htime : eventTimestamp event with
  | error e =>
    rw [hprocess.timed.error htime]
    have hnone : (Except.toOption (.error e : Except Error OffsetDateTime)).isSome = false := rfl
    rw [hnone, if_neg Bool.false_ne_true, Option.toList_none, List.append_nil]
    exact ⟨⟨m, hm, hcounts, hooms⟩, hlogged⟩
  | ok time =>
    obtain ⟨p', hp'⟩ := hprocess.timed.ok htime
      { state, metricsState := s.metricsState, outputBuffers := s.outputBuffers, rng := s.rng }
    obtain ⟨n, runtimeMetrics, hn, heffect⟩ := hprocess.v1 hm hp'
    have houtcomes := hprocess.outcomes hp'
    have hsome : (Except.toOption (.ok time : Except Error OffsetDateTime)).isSome = true := rfl
    rw [hp', hsome, if_pos rfl]
    rw [effect_eq] at heffect
    constructor
    · refine ⟨n, hn, ?_⟩
      rw [heffect]
      cases event.reportData with
      | none =>
        rw [Option.toList_none, List.append_nil]
        exact ⟨hcounts, hooms⟩
      | some data => exact ⟨hcounts.snoc runtimeMetrics data, ooms_snoc hooms runtimeMetrics data⟩
    · unfold Processing.outcomes at houtcomes
      unfold ReportRun.logs at hlogged ⊢
      rw [reportOutcomes_append] at hlogged
      rw [reportOutcomes_append, houtcomes, ← List.append_assoc, hlogged, List.map_append]

/-- Reporting the metrics leaves the counts alone, and taking the logs loses none. -/
theorem takeBatch [External] {config : TelemetryProcessorConfig} (h : ReportsCounted reports s) :
    ReportsCounted reports (reportStep config s .takeBatch) := by
  obtain ⟨⟨m, hm, hcounts, hooms⟩, hlogged⟩ := h
  have hreport (c : Counter) (start timestamp : Nat) :
      (c.report start timestamp).2.count = c.count := by
    unfold Counter.report
    split <;> rfl
  constructor
  · refine ⟨(V1.makeMetricsReport m).2, ?_, ⟨?_, ?_⟩, ?_⟩
    · exact congrArg (fun state : PlatformMetricsState => state.makeMetricsReport.2) hm
    · exact (hreport m.metrics.executions _ _).trans hcounts.executions
    · rw [← hcounts.failures]
      unfold V1.makeMetricsReport
      simp only
      rw [hreport, hreport, hreport]
    · exact (hreport m.metrics.ooms _ _).trans hooms
  · unfold reportStep ReportRun.logs
    rw [List.append_nil]
    exact hlogged

end ReportsCounted

/-! ## The counters and the logs -/

theorem oomErrors_eq_iff (reports : List PlatformReportData) :
    reports.countP PlatformReportData.isOomError = reports.countP isOutOfMemory ↔
      ∀ data ∈ reports, data.errorType = some "Runtime.OutOfMemory" → data.status = .error := by
  have herrors : reports.countP PlatformReportData.isOomError =
      (reports.filter isOutOfMemory).countP fun data => data.status = .error := by
    rw [List.countP_filter]
    apply List.countP_congr
    intro data _
    simp [PlatformReportData.isOomError]
  rw [herrors, List.countP_eq_length_filter (p := isOutOfMemory), List.countP_eq_length]
  constructor
  · intro h data hdata htype
    have hoom : isOutOfMemory data = true := by simp [isOutOfMemory, htype]
    exact of_decide_eq_true (h data (List.mem_filter.2 ⟨hdata, hoom⟩))
  · intro h data hdata
    obtain ⟨hmem, hoom⟩ := List.mem_filter.1 hdata
    apply decide_eq_true
    unfold isOutOfMemory at hoom
    rcases Bool.or_eq_true_iff.1 hoom with htype | hmemory
    · exact h data hmem (of_decide_eq_true htype)
    · exact of_decide_eq_true (Bool.and_eq_true_iff.1 hmemory).2

namespace ReportsCounted

variable {reports : List PlatformReportData} {s : ReportRun}

theorem oomLogs (h : ReportsCounted reports s) :
    (reportLogs s.logs).countP LogRecord.outOfMemory = reports.countP isOutOfMemory := by
  have hcount := congrArg (List.countP Prod.fst) h.logged
  unfold reportOutcomes at hcount
  rw [List.countP_map, List.countP_map] at hcount
  exact hcount

theorem oomErrorLogs (h : ReportsCounted reports s) :
    (reportLogs s.logs).countP LogRecord.isOomError =
      reports.countP PlatformReportData.isOomError := by
  let isError : Bool × Option String → Bool := fun outcome =>
    outcome.1 ∧ outcome.2 = some (statusToString .error)
  have hcount := congrArg (List.countP isError) h.logged
  unfold reportOutcomes at hcount
  rw [List.countP_map, List.countP_map] at hcount
  refine hcount.trans (List.countP_congr ?_)
  intro data _
  have hstatus : statusToString data.status = statusToString .error ↔ data.status = .error := by
    cases data.status <;> decide
  simp [isError, PlatformReportData.outcome, PlatformReportData.isOomError, hstatus, and_comm]

end ReportsCounted

section

variable [External] {config : TelemetryProcessorConfig}

theorem processTelemetry_reports (hmode : config.logMode = .structured)
    (hreport : config.platformLogSet.report = true) :
    ProcessesReports (processTelemetry config) where
  timed := processTelemetry_timed
  v1 hm h := by
    obtain ⟨n, hn, heffect⟩ := processTelemetry_v1 hm h
    exact ⟨n, _, hn, heffect⟩
  outcomes h := processTelemetry_outcomes hmode hreport h

theorem processTelemetryInDegradedMode_reports (hmode : config.logMode = .structured)
    (hreport : config.platformLogSet.report = true) :
    ProcessesReports (processTelemetryInDegradedMode config) where
  timed := processTelemetryInDegradedMode_timed
  v1 hm h := by
    obtain ⟨n, hn, heffect⟩ := processTelemetryInDegradedMode_v1 hm h
    exact ⟨n, _, hn, heffect⟩
  outcomes h := processTelemetryInDegradedMode_outcomes hmode hreport h

theorem ReportsCounted.step (hmode : config.logMode = .structured)
    (hreport : config.platformLogSet.report = true) {reports : List PlatformReportData}
    {s : ReportRun} (h : ReportsCounted reports s) (action : ReportAction) :
    ReportsCounted (reports ++ action.report.toList) (reportStep config s action) := by
  cases action with
  | telemetry state event => exact h.processed (processTelemetry_reports hmode hreport) state event
  | degradedTelemetry state event =>
    exact h.processed (processTelemetryInDegradedMode_reports hmode hreport) state event
  | takeBatch =>
    have hsame : reports ++ ReportAction.takeBatch.report.toList = reports := List.append_nil _
    rw [hsame]
    exact h.takeBatch

theorem ReportsCounted.run (hmode : config.logMode = .structured)
    (hreport : config.platformLogSet.report = true) {reports : List PlatformReportData}
    {s : ReportRun} (h : ReportsCounted reports s) (actions : List ReportAction) :
    ReportsCounted (reports ++ processedReports actions) (actions.foldl (reportStep config) s) := by
  induction actions generalizing reports s with
  | nil =>
    have hsame : reports ++ processedReports [] = reports := List.append_nil _
    rw [hsame]
    exact h
  | cons action rest ih =>
    have hsplit : reports ++ processedReports (action :: rest) =
        reports ++ action.report.toList ++ processedReports rest := by
      unfold processedReports
      rw [List.filterMap_cons, List.append_assoc]
      cases action.report <;> rfl
    rw [hsplit]
    exact ih (h.step hmode hreport action)

theorem runReports_counted (hmode : config.logMode = .structured)
    (hreport : config.platformLogSet.report = true)
    (hmetrics : config.platformMetricsMode = .platformReport) (now : Nat) (rng : Rng)
    (actions : List ReportAction) :
    ReportsCounted (processedReports actions) (runReports config now rng actions) := by
  have hnew : ReportsCounted [] (.new config now rng) := by
    constructor
    · refine ⟨.new now, ?_, ⟨rfl, rfl⟩, rfl⟩
      unfold ReportRun.new
      rw [hmetrics]
      rfl
    · rfl
  exact hnew.run hmode hreport actions

/-- The executions are the processed reports and every report without success is an error, an
out-of-memory error or a timeout; the out-of-memory errors are the logs that say so, and all logs
with `out_of_memory` exactly if the error type `Runtime.OutOfMemory` comes with the status `Error`
only. -/
theorem counters_agree_with_logs (hmode : config.logMode = .structured)
    (hreport : config.platformLogSet.report = true)
    (hmetrics : config.platformMetricsMode = .platformReport) (now : Nat) (rng : Rng)
    (actions : List ReportAction) :
    ∃ m, (runReports config now rng actions).metricsState = .v1 m ∧
      CountsReports m.metrics (processedReports actions) ∧
      m.metrics.ooms.count =
        (reportLogs (runReports config now rng actions).logs).countP LogRecord.isOomError ∧
      (m.metrics.ooms.count =
          (reportLogs (runReports config now rng actions).logs).countP LogRecord.outOfMemory ↔
        ∀ data ∈ processedReports actions,
          data.errorType = some "Runtime.OutOfMemory" → data.status = .error) := by
  have h := runReports_counted hmode hreport hmetrics now rng actions
  obtain ⟨m, hm, hcounts, hooms⟩ := h.counted
  refine ⟨m, hm, hcounts, ?_, ?_⟩
  · rw [hooms, h.oomErrorLogs]
  · rw [hooms, h.oomLogs, Int.natCast_inj]
    exact oomErrors_eq_iff _

end

/-! ## A failure for lack of memory -/

/-- A configuration with the logs and the metrics of reports. -/
def reportingConfig : TelemetryProcessorConfig :=
  { (sampleConfig .lowOverhead .disabled).processorConfig with
    platformLogSet := ⟨false, false, true⟩
    platformMetricsMode := .platformReport }

/-- A report of a failure, and not of an error, for lack of memory. -/
def outOfMemoryFailure : LambdaTelemetry :=
  ⟨1, .platformReport "r" .failure (some "Runtime.OutOfMemory") ⟨1, 1, 128, 64, none, none⟩ [] none⟩

theorem counters_agree_with_logs_failure :
    ∃ m, (@runReports sampleExternal reportingConfig 0 0
        [.telemetry sampleProcessing.state outOfMemoryFailure, .takeBatch]).metricsState = .v1 m ∧
      CountsReports m.metrics
        (processedReports [.telemetry sampleProcessing.state outOfMemoryFailure, .takeBatch]) ∧
      m.metrics.ooms.count = (reportLogs (@runReports sampleExternal reportingConfig 0 0
        [.telemetry sampleProcessing.state outOfMemoryFailure, .takeBatch]).logs).countP
          LogRecord.isOomError ∧
      (m.metrics.ooms.count = (reportLogs (@runReports sampleExternal reportingConfig 0 0
          [.telemetry sampleProcessing.state outOfMemoryFailure, .takeBatch]).logs).countP
            LogRecord.outOfMemory ↔
        ∀ data ∈ processedReports [.telemetry sampleProcessing.state outOfMemoryFailure, .takeBatch],
          data.errorType = some "Runtime.OutOfMemory" → data.status = .error) :=
  @counters_agree_with_logs sampleExternal reportingConfig rfl rfl rfl 0 0 _

/-- The report's log has `out_of_memory`, and `faas.ooms` stays at zero. -/
theorem ooms_without_logged_failure :
    ¬ ∃ m, (@runReports sampleExternal reportingConfig 0 0
        [.telemetry sampleProcessing.state outOfMemoryFailure]).metricsState = .v1 m ∧
      CountsReports m.metrics
        (processedReports [.telemetry sampleProcessing.state outOfMemoryFailure]) ∧
      m.metrics.ooms.count = (reportLogs (@runReports sampleExternal reportingConfig 0 0
        [.telemetry sampleProcessing.state outOfMemoryFailure]).logs).countP
          LogRecord.outOfMemory := by
  have h := @runReports_counted sampleExternal reportingConfig rfl rfl rfl 0 0
    [.telemetry sampleProcessing.state outOfMemoryFailure]
  obtain ⟨n, hn, -, hooms⟩ := h.counted
  rintro ⟨m, hm, -, hcount⟩
  have hsame : n = m := by
    rw [hm] at hn
    injection hn with hn
    exact hn.symm
  rw [h.oomLogs, ← hsame, hooms] at hcount
  revert hcount
  decide

end TelemetryExporter
