import TelemetryExporter.Verify.Accounting

/-!
# Logs at shutdown

The flush processes `telemetry_event_queue` and nothing else. What the batches lack afterwards is
exactly what was elsewhere: in `half_processed_event_buffer`, among the logs that the current
invocation delays, or among those that an invocation still delayed when it was concluded.
-/

namespace TelemetryExporter

/-- The function log that a record was made from. -/
def LogSource.functionLog : LogSource → Option RawFunctionLog
  | .function _ logText time => some { logText, time }
  | _ => none

/-- The function logs of which the batches have a record. -/
def sentFunctionLogs (batches : List TelemetryBatch) : List RawFunctionLog :=
  (batches.flatMap TelemetryBatch.logRecords).filterMap fun record => record.source.functionLog

/-- The function logs that the flush does not reach. -/
def unflushedLogs [External] (s : TelemetryServiceState) : List RawFunctionLog :=
  functionLogs s.halfProcessedEventBuffer ++
    (s.delayedSources ++ droppedSources s.trace).filterMap LogSource.functionLog

/-- No function log is in `half_processed_event_buffer`, none is delayed by the current invocation,
and none was delayed by an invocation when it was concluded. -/
def EveryLogReachable [External] (s : TelemetryServiceState) : Prop :=
  functionLogs s.halfProcessedEventBuffer = [] ∧
    (∀ state, s.invocationState = some state → state.logs = []) ∧
    ∀ invocation logs, .concluded invocation logs ∈ s.trace → logs = []

section

theorem sentFunctionLogs_eq (batches : List TelemetryBatch) :
    sentFunctionLogs batches = (sentSources batches).filterMap LogSource.functionLog := by
  unfold sentFunctionLogs sentSources functionSources
  rw [List.filterMap_filter, List.filterMap_map]
  congr 1
  funext record
  cases h : record.source <;> simp [LogSource.isFunction, LogSource.functionLog, h]

@[simp] theorem functionLog_source (invocation : Option Nat) (log : RawFunctionLog) :
    (RawFunctionLog.source invocation log).functionLog = some log := rfl

@[simp] theorem filterMap_functionLog_source (invocation : Option Nat) (logs : List RawFunctionLog) :
    (logs.map (RawFunctionLog.source invocation)).filterMap LogSource.functionLog = logs := by
  rw [List.filterMap_map]
  exact List.filterMap_some

@[simp] theorem functionLogs_append [External] (a b : List LambdaTelemetry) :
    functionLogs (a ++ b) = functionLogs a ++ functionLogs b := List.filterMap_append

theorem processedEvents_cons (call : ProcessorCall) (trace : List ProcessorCall) :
    processedEvents (call :: trace) = call.event.toList ++ processedEvents trace := by
  cases h : call.event <;> simp [processedEvents, h]

/-- A call that does not fail emits or delays the log of its event. -/
theorem ProcessorCall.sources_functionLogs [External] {call : ProcessorCall}
    (h : call.isError = false) :
    call.sources.filterMap LogSource.functionLog = functionLogs call.event.toList := by
  have log (event : LambdaTelemetry) : (functionLog event).toList = functionLogs [event] := by
    cases h : functionLog event <;> simp [functionLogs, h]
  cases call with
  | failed => simp [ProcessorCall.isError] at h
  | telemetry invocation event => exact (filterMap_functionLog_source _ _).trans (log event)
  | degraded event => exact (filterMap_functionLog_source _ _).trans (log event)
  | _ => rfl

/-- The logs of the processed events are those that the calls emit or delay. -/
theorem processedSources_functionLogs [External] {trace : List ProcessorCall} (hn : NoErrors trace) :
    (processedSources trace).filterMap LogSource.functionLog =
      functionLogs (processedEvents trace) := by
  induction trace with
  | nil => rfl
  | cons call trace ih =>
    have hcall := ProcessorCall.sources_functionLogs (hn call List.mem_cons_self)
    have ih := ih fun c hc => hn c (List.mem_cons_of_mem _ hc)
    rw [processedEvents_cons, functionLogs_append, ← hcall, ← ih, ← List.filterMap_append]
    rfl

/-- The logs still delayed at the conclusions, as function logs. -/
theorem droppedSources_functionLogs (trace : List ProcessorCall) :
    (droppedSources trace).filterMap LogSource.functionLog = [] ↔
      ∀ invocation logs, .concluded invocation logs ∈ trace → logs = [] := by
  rw [droppedSources, List.filterMap_flatMap, List.flatMap_eq_nil_iff]
  constructor
  · intro h invocation logs hmem
    exact (filterMap_functionLog_source _ logs).symm.trans (h _ hmem)
  · intro h call hmem
    cases call with
    | concluded invocation logs =>
      rw [h invocation logs hmem]
      rfl
    | _ => rfl

theorem delayedSources_functionLogs (s : TelemetryServiceState) :
    s.delayedSources.filterMap LogSource.functionLog = [] ↔
      ∀ state, s.invocationState = some state → state.logs = [] := by
  unfold TelemetryServiceState.delayedSources
  cases h : s.invocationState with
  | none => simp
  | some state =>
    simp only [InvocationProcessingState.delayedSources, filterMap_functionLog_source,
      Option.some.injEq, forall_eq']

theorem unflushedLogs_eq_nil [External] {s : TelemetryServiceState} :
    unflushedLogs s = [] ↔ EveryLogReachable s := by
  rw [unflushedLogs, List.filterMap_append, List.append_eq_nil_iff, List.append_eq_nil_iff,
    delayedSources_functionLogs, droppedSources_functionLogs, EveryLogReachable]

end

section

variable [External] {config : TelemetryServiceConfig} {now : Nat} {actions : List Action}
  {functionContext : FunctionContext} {before service : TelemetryService}

/-- After a shutdown, the logs sent and the logs that the flush did not reach are the logs accepted,
each exactly once. -/
theorem sent_append_unflushed_perm (hmode : config.processorConfig.logMode = .structured)
    (hrun : serviceRun config now actions = some before)
    (hshutdown : serviceStep config before (.shutdown functionContext) = some service)
    (hok : NoErrors service.state.trace) :
    (sentFunctionLogs service.sent ++ unflushedLogs before.state).Perm
      (functionLogs (acceptedEvents actions)) := by
  obtain ⟨idle, rfl⟩ := serviceStep_shutdown hshutdown
  obtain ⟨m, out, rng, hflush, hlogs, hr⟩ := @flushEnqueuedTelemetry_spec _ config
    before.state functionContext
  obtain ⟨_, _, _, -, hsend⟩ := @sendTelemetry_state config
    (flushEnqueuedTelemetry config functionContext before.state) functionContext
  -- the trace at the end is that of the flush
  have hok : NoErrors (before.state.trace ++ callsFor .degraded before.state.telemetryEventQueue) := by
    simp only [TelemetryService.send] at hok
    rw [hsend, hflush] at hok
    exact hok
  have htimes : ∀ event ∈ before.state.telemetryEventQueue, event.HasTimestamp := by
    rcases hr with h | ⟨bad, hbad⟩
    · exact h
    · exact absurd hok.right (not_noErrors_of_failed hbad)
  have accounted : Accounted config.processorConfig (sentSources before.sent)
      (acceptedEvents actions) before.state := by
    rcases serviceRun_accounted hrun hok.left with h | accounted
    · rw [h] at idle
      cases idle
    · exact accounted
  have hsent : sentSources (before.sent ++ [(sendTelemetry config functionContext
      (flushEnqueuedTelemetry config functionContext before.state)).1]) =
      sentSources before.sent ++ functionSources before.state.outputBuffers.logsBuffer ++
        processedSources (before.state.telemetryEventQueue.map .degraded) := by
    rw [sentSources_append, sentSources_singleton, sendTelemetry_logRecords, hflush, List.append_assoc]
    dsimp only
    rw [hlogs hmode, callsFor_of_timestamps htimes]
    rfl
  have processed := (accounted.perm hmode).filterMap LogSource.functionLog
  rw [processedSources_functionLogs hok.left] at processed
  have queued := @processedSources_functionLogs _ (before.state.telemetryEventQueue.map .degraded)
    (by rw [← callsFor_of_timestamps htimes]; exact hok.right)
  rw [processedEvents_degraded] at queued
  rw [sentFunctionLogs_eq, ← accounted.events]
  simp only [TelemetryService.send, hsent, unflushedLogs, List.filterMap_append, functionLogs_append,
    queued] at processed ⊢
  rw [List.perm_iff_count] at processed ⊢
  intro log
  have := processed log
  simp only [List.count_append] at this ⊢
  omega

/-- **Logs at shutdown.** Every function log accepted before the shutdown has exactly one record in
the batches if and only if every log is in the reach of the flush. -/
theorem shutdown_sends_every_log_iff (hmode : config.processorConfig.logMode = .structured)
    (hrun : serviceRun config now actions = some before)
    (hshutdown : serviceStep config before (.shutdown functionContext) = some service)
    (hok : NoErrors service.state.trace) :
    (sentFunctionLogs service.sent).Perm (functionLogs (acceptedEvents actions)) ↔
      EveryLogReachable before.state := by
  have perm := sent_append_unflushed_perm hmode hrun hshutdown hok
  rw [← unflushedLogs_eq_nil]
  constructor
  · intro h
    have := (perm.trans h.symm).length_eq
    rw [List.length_append] at this
    exact List.length_eq_zero_iff.1 (by omega)
  · intro h
    rwa [h, List.append_nil] at perm

/-- A run that ends with a shutdown, found by evaluating it. -/
theorem exists_shutdown {P : TelemetryService → TelemetryService → Prop}
    [∀ before service, Decidable (P before service)]
    (h : ((serviceRun config now actions).any fun before =>
      (serviceStep config before (.shutdown functionContext)).any fun service =>
        decide (P before service)) = true) :
    ∃ before service, serviceRun config now actions = some before ∧
      serviceStep config before (.shutdown functionContext) = some service ∧ P before service := by
  obtain ⟨before, hbefore, h⟩ := (Option.any_eq_true _ _).1 h
  obtain ⟨service, hservice, h⟩ := (Option.any_eq_true _ _).1 h
  exact ⟨before, service, hbefore, hservice, of_decide_eq_true h⟩

end

/-- A log that arrives while no invocation is known, before the shutdown. -/
theorem shutdown_sends_every_log_iff_without_invocation :
    ∃ before service : TelemetryService,
      ((sentFunctionLogs service.sent).Perm [⟨"hello", 2000000⟩] ↔
        @EveryLogReachable sampleExternal before.state) ∧
      sentFunctionLogs service.sent = [⟨"hello", 2000000⟩] := by
  obtain ⟨before, service, hrun, hshutdown, hok, hsent⟩ := @exists_shutdown sampleExternal
    (sampleConfig .lowOverhead .disabled) 0 [sampleTelemetry [sampleInitStart 1, sampleLog 2 "hello"]]
    sampleContext
    (fun _ service => (∀ call ∈ service.state.trace, call.isError = false) ∧
      sentFunctionLogs service.sent = [⟨"hello", 2000000⟩]) _ (by decide +kernel)
  exact ⟨before, service,
    @shutdown_sends_every_log_iff sampleExternal _ _ _ _ _ _ rfl hrun hshutdown hok, hsent⟩

/-- A log of the init phase, and no event that starts the invocation. -/
def bufferedLogActions : List Action :=
  [.invoke (sampleInvoke "r1") sampleContext, .handler 0, .handler 0, .handler 0, .handler 0,
    sampleTelemetry [sampleInitStart 1, sampleLog 2 "hello"]]

/-- The log is in `half_processed_event_buffer` at the shutdown, and no batch has it. -/
theorem shutdown_loses_buffered_log :
    ∃ before service : TelemetryService,
      @serviceRun sampleExternal (sampleConfig .lowOverhead .disabled) 0 bufferedLogActions =
        some before ∧
      @serviceStep sampleExternal (sampleConfig .lowOverhead .disabled) before
        (.shutdown sampleContext) = some service ∧
      NoErrors service.state.trace ∧
      ¬ (sentFunctionLogs service.sent).Perm
        (@functionLogs sampleExternal (acceptedEvents bufferedLogActions)) := by
  obtain ⟨before, service, hrun, hshutdown, hok, hsent⟩ := @exists_shutdown sampleExternal
    (sampleConfig .lowOverhead .disabled) 0 bufferedLogActions sampleContext
    (fun _ service => (∀ call ∈ service.state.trace, call.isError = false) ∧
      sentFunctionLogs service.sent = []) _ (by decide +kernel)
  refine ⟨before, service, hrun, hshutdown, hok, ?_⟩
  rw [hsent]
  decide +kernel

end TelemetryExporter
