import TelemetryExporter.Verify.Deadlines
import TelemetryExporter.Verify.Parts
import TelemetryExporter.Verify.Signals
import TelemetryExporter.Verify.SpanCounts

/-!
# How many spans of the function wait to be sent

`function_spans_count` is the number of spans in `function_spans_buffer`, always. That `should_send`
is set when there are too many is a different matter: the threshold is only examined when spans go to
the buffer from an OTLP export, not when `process_telemetry_events` moves spans there that have
waited for their invocation, or that were captured until its runtime was done.
-/

namespace TelemetryExporter

open Machine

namespace TelemetryServiceState

/-- The batches of spans that wait for an invocation. -/
def waitingBatches (s : TelemetryServiceState) : List ResourceSpans :=
  s.functionSpansBuffer ++ s.invokeEventQueue.flatMap (·.spans)

/-- There is no current invocation, or it has its report. -/
def invocationEnds (s : TelemetryServiceState) : Bool :=
  s.invocationState.all fun state => state.reportData.isSome

/-- The number of captured spans that the current invocation emits when its runtime is done. -/
def emittedTotal (config : TelemetryProcessorConfig) (s : TelemetryServiceState) : Nat :=
  match s.invocationState with
  | some state => config.emittedTotal state.tracingState
  | none => 0

/-- The number of spans that `process_telemetry_events` can move to the output buffer: for each
`PlatformRuntimeDone` the captured ones, and also those that wait for an invocation if there is no
current one, or if it can end. -/
def movableTotal (config : TelemetryProcessorConfig) (s : TelemetryServiceState) : Nat :=
  let dones := s.waitingEvents.countP LambdaTelemetry.isRuntimeDone
  if config.tracingMode = .otelInstrumentation then
    if s.invocationEnds || s.waitingEvents.any LambdaTelemetry.isReport then
      batchTotal s.waitingBatches + 3 * dones
    else s.emittedTotal config * dones
  else 0

end TelemetryServiceState

/-- The count is right. -/
def SpansCounted (s : TelemetryServiceState) : Prop :=
  s.outputBuffers.functionSpansCount = scopeTotal s.outputBuffers.functionSpansBuffer

/-- From the threshold on, a send has been asked for. -/
def SpansGuarded (config : TelemetryServiceConfig) (s : TelemetryServiceState) : Prop :=
  config.spanSendingThreshold ≤ s.outputBuffers.functionSpansCount → s.shouldSend = true

/-! ## One call of `process_telemetry_events` -/

/-- The current invocation can have ended by the calls. -/
def MayEnd (s : TelemetryServiceState) (calls : List ProcessorCall) : Prop :=
  s.invocationEnds = true ∨ ∃ event ∈ processedEvents calls, event.isReport = true

/-- What the calls so far have done to the spans. -/
structure SpanBudget (config : TelemetryProcessorConfig) (s s' : TelemetryServiceState)
    (calls : List ProcessorCall) : Prop where
  trace : s'.trace = s.trace ++ calls
  counted : scopeTotal s'.outputBuffers.functionSpansBuffer + s.outputBuffers.functionSpansCount =
    scopeTotal s.outputBuffers.functionSpansBuffer + s'.outputBuffers.functionSpansCount
  ends : s'.invocationEnds = true → MayEnd s calls
  spans :
    (s'.waitingBatches = s.waitingBatches ∧
      (∀ state, s'.invocationState = some state → s'.emittedTotal config = s.emittedTotal config) ∧
      s'.outputBuffers.functionSpansCount ≤
        s.outputBuffers.functionSpansCount + s.emittedTotal config * runtimeDones calls) ∨
    (MayEnd s calls ∧
      (config.tracingMode = .otelInstrumentation →
        s'.outputBuffers.functionSpansCount + batchTotal s'.waitingBatches ≤
          s.outputBuffers.functionSpansCount + batchTotal s.waitingBatches +
            3 * runtimeDones calls) ∧
      (config.tracingMode ≠ .otelInstrumentation →
        s'.outputBuffers.functionSpansCount ≤ s.outputBuffers.functionSpansCount))

theorem MayEnd.append {s : TelemetryServiceState} {calls : List ProcessorCall} (h : MayEnd s calls)
    (more : List ProcessorCall) : MayEnd s (calls ++ more) := by
  rcases h with h | ⟨event, hevent, hreport⟩
  · exact .inl h
  · refine .inr ⟨event, ?_, hreport⟩
    rw [processedEvents_append]
    exact List.mem_append_left _ hevent

section

variable [External] {config : TelemetryServiceConfig} {s s' : TelemetryServiceState}

omit [External] in
theorem emittedTotal_le_three (config : TelemetryProcessorConfig) (s : TelemetryServiceState) :
    s.emittedTotal config ≤ 3 := by
  unfold TelemetryServiceState.emittedTotal TelemetryProcessorConfig.emittedTotal
  split
  · split
    · exact emittedTotal_le _
    · omega
  · omega

omit [External] in
theorem emittedTotal_of_mode {config : TelemetryProcessorConfig}
    (hmode : config.tracingMode ≠ .otelInstrumentation) (s : TelemetryServiceState) :
    s.emittedTotal config = 0 := by
  unfold TelemetryServiceState.emittedTotal TelemetryProcessorConfig.emittedTotal
  split
  · rw [if_neg fun h => hmode h.2]
  · rfl

omit [External] in
theorem SpanBudget.refl (config : TelemetryProcessorConfig) (s : TelemetryServiceState) :
    SpanBudget config s s [] where
  trace := (List.append_nil _).symm
  counted := rfl
  ends h := .inl h
  spans := .inl ⟨rfl, fun _ _ => rfl, Nat.le_add_right _ _⟩

/-- Getting an invocation moves spans that have waited for it. -/
theorem acquireInvocation_spans :
    (acquireInvocation config s).1 = s ∨
      s.invocationState = none ∧ ∃ calls n,
        (acquireInvocation config s).1.trace = s.trace ++ calls ∧ runtimeDones calls = 0 ∧
        AddsSpans n s.outputBuffers (acquireInvocation config s).1.outputBuffers ∧
        n + batchTotal (acquireInvocation config s).1.waitingBatches ≤
          batchTotal s.waitingBatches ∧
        (config.processorConfig.tracingMode ≠ .otelInstrumentation → n = 0) := by
  unfold acquireInvocation
  split
  · exact .inl rfl
  · next hnone =>
    split
    · exact .inl rfl
    · next invokeEvent queue hqueue =>
      right
      refine ⟨hnone, ?_⟩
      have htotal : batchTotal s.waitingBatches = batchTotal s.functionSpansBuffer +
          (batchTotal invokeEvent.spans + batchTotal (queue.flatMap (·.spans))) := by
        rw [TelemetryServiceState.waitingBatches, hqueue, List.flatMap_cons, batchTotal_append,
          batchTotal_append]
      dsimp only
      split
      · refine ⟨_, 0, rfl, rfl, .same rfl rfl, ?_, fun _ => rfl⟩
        rw [htotal]
        change 0 + batchTotal (s.functionSpansBuffer ++ queue.flatMap (·.spans)) ≤ _
        rw [batchTotal_append]
        omega
      · next context rng heq =>
        let new := InvocationProcessingState.new invokeEvent.serial invokeEvent.functionContext
          context config.processorConfig.traceSamplingMode config.processorConfig.tracingMode rng
        let p : Processing InvocationProcessingState :=
          ⟨new.1, s.metricsState, s.outputBuffers, new.2⟩
        obtain ⟨n, hn, hle, hzero⟩ :=
          @processFunctionSpans_adds _ config.processorConfig p s.functionSpansBuffer
        let q := processFunctionSpans config.processorConfig s.functionSpansBuffer p
        obtain ⟨m, hm, hle', hzero'⟩ := @processFunctionSpans_adds _ config.processorConfig
          ⟨q.state, s.metricsState, q.outputBuffers, new.2⟩ invokeEvent.spans
        refine ⟨[.created invokeEvent.serial, .functionSpans new.1.serial s.functionSpansBuffer,
          .functionSpans q.state.serial invokeEvent.spans], n + m, ?_, rfl, hn.trans hm, ?_, ?_⟩
        · simp [callProcessFunctionSpans, new, q, p]
        · rw [htotal]
          change n + m + batchTotal ([] ++ queue.flatMap (·.spans)) ≤ _
          rw [List.nil_append]
          omega
        · intro hmode
          rw [hzero hmode, hzero' hmode]

/-- What a call for one event does to the spans. -/
theorem callProcessTelemetry_spans {event : LambdaTelemetry} {state : InvocationProcessingState} :
    (∃ p : Processing InvocationProcessingState,
      (callProcessTelemetry config event state s).1 =
        { s with
          invocationState := some p.state
          metricsState := p.metricsState
          outputBuffers := p.outputBuffers
          rng := p.rng
          trace := s.trace ++ [.telemetry state.serial event] } ∧
      AddsSpans
        (if event.isRuntimeDone then config.processorConfig.emittedTotal state.tracingState else 0)
        s.outputBuffers p.outputBuffers ∧
      p.state.tracingState = state.tracingState ∧
      p.state.reportData.isSome = (state.reportData.isSome || event.isReport)) ∨
    (callProcessTelemetry config event state s).1 =
      { s with trace := s.trace ++ [.failed event] } := by
  unfold callProcessTelemetry
  cases h : processTelemetry config.processorConfig event
      ⟨state, s.metricsState, s.outputBuffers, s.rng⟩ with
  | error e => exact .inr rfl
  | ok p =>
    left
    have advances := processTelemetry_advances h
    have hp := processTelemetry_ok h
    refine ⟨p, rfl, ?_, ?_, advances.reportData⟩
    · rw [hp]
      exact @processRecord_adds _ config.processorConfig
        ⟨state, s.metricsState, s.outputBuffers, s.rng⟩ event
    · rw [hp]
      exact @processRecord_tracingState _ config.processorConfig
        ⟨state, s.metricsState, s.outputBuffers, s.rng⟩ event

omit [External] in
/-- A part that leaves the spans and the invocation alone. -/
theorem SpanBudget.still {s₀ : TelemetryServiceState} {calls more : List ProcessorCall}
    (hs : SpanBudget config.processorConfig s₀ s calls) (htrace : s'.trace = s.trace ++ more)
    (hcurrent : s'.invocationState = s.invocationState)
    (hwaiting : s'.waitingBatches = s.waitingBatches)
    (hadds : AddsSpans 0 s.outputBuffers s'.outputBuffers) (hdones : runtimeDones more = 0) :
    SpanBudget config.processorConfig s₀ s' (calls ++ more) where
  trace := by rw [htrace, hs.trace, List.append_assoc]
  counted := by
    have hcounted := hs.counted
    have hbuffer := hadds.buffer
    have hcount := hadds.count
    omega
  ends h := by
    rw [TelemetryServiceState.invocationEnds, hcurrent] at h
    exact (hs.ends h).append more
  spans := by
    have hcount : s'.outputBuffers.functionSpansCount = s.outputBuffers.functionSpansCount :=
      hadds.count
    rw [hwaiting, hcount, runtimeDones_append, hdones, Nat.add_zero,
      TelemetryServiceState.emittedTotal, hcurrent, ← TelemetryServiceState.emittedTotal]
    rcases hs.spans with h | ⟨hends, h⟩
    · exact .inl h
    · exact .inr ⟨hends.append more, h⟩

omit [External] in
/-- Once the current invocation can have ended, the waiting spans are part of the budget. -/
theorem SpanBudget.popped {s₀ : TelemetryServiceState} {calls : List ProcessorCall}
    (hs : SpanBudget config.processorConfig s₀ s calls) :
    (config.processorConfig.tracingMode = .otelInstrumentation →
      s.outputBuffers.functionSpansCount + batchTotal s.waitingBatches ≤
        s₀.outputBuffers.functionSpansCount + batchTotal s₀.waitingBatches +
          3 * runtimeDones calls) ∧
    (config.processorConfig.tracingMode ≠ .otelInstrumentation →
      s.outputBuffers.functionSpansCount ≤ s₀.outputBuffers.functionSpansCount) := by
  rcases hs.spans with ⟨hwaiting, -, hcount⟩ | ⟨-, hotel, hother⟩
  · refine ⟨fun _ => ?_, fun hmode => ?_⟩
    · have hle : s₀.emittedTotal config.processorConfig * runtimeDones calls ≤
          3 * runtimeDones calls := Nat.mul_le_mul_right _ (emittedTotal_le_three _ s₀)
      rw [hwaiting]
      omega
    · rw [emittedTotal_of_mode hmode, Nat.zero_mul] at hcount
      exact hcount
  · exact ⟨hotel, hother⟩

/-- Popping an invocation keeps to the budget. -/
theorem SpanBudget.acquired {s₀ : TelemetryServiceState} {calls : List ProcessorCall}
    (hs : SpanBudget config.processorConfig s₀ s calls) :
    ∃ more, SpanBudget config.processorConfig s₀ (acquireInvocation config s).1
      (calls ++ more) := by
  rcases @acquireInvocation_spans _ config s with heq | ⟨hnone, more, n, htrace, hdones, hadds,
    hwaiting, hzero⟩
  · rw [heq]
    refine ⟨[], ?_⟩
    rw [List.append_nil]
    exact hs
  · have hends : s.invocationEnds = true := by
      rw [TelemetryServiceState.invocationEnds, hnone]
      rfl
    have hmay : MayEnd s₀ (calls ++ more) := (hs.ends hends).append more
    obtain ⟨hotel, hother⟩ := hs.popped
    have hcounted := hs.counted
    have hbuffer := hadds.buffer
    have hcount := hadds.count
    refine ⟨more, ⟨?_, by omega, fun _ => hmay, .inr ⟨hmay, fun hmode => ?_, fun hmode => ?_⟩⟩⟩
    · rw [htrace, hs.trace, List.append_assoc]
    · have hbefore := hotel hmode
      rw [runtimeDones_append, hdones]
      omega
    · have hbefore := hother hmode
      have hn := hzero hmode
      omega

/-- A call for one event keeps to the budget. -/
theorem SpanBudget.telemetry {s₀ : TelemetryServiceState} {calls : List ProcessorCall}
    (hs : SpanBudget config.processorConfig s₀ s calls) (event : LambdaTelemetry)
    {state : InvocationProcessingState} (hstate : s.invocationState = some state) :
    ∃ more, SpanBudget config.processorConfig s₀ (callProcessTelemetry config event state s).1
      (calls ++ more) := by
  rcases @callProcessTelemetry_spans _ config s event state with
    ⟨p, heq, hadds, htracing, hreport⟩ | heq
  · rw [heq]
    have hcurrent : s.emittedTotal config.processorConfig =
        config.processorConfig.emittedTotal state.tracingState := by
      rw [TelemetryServiceState.emittedTotal, hstate]
    have hadded : (if event.isRuntimeDone then
          config.processorConfig.emittedTotal state.tracingState else 0) =
        s.emittedTotal config.processorConfig *
          runtimeDones [.telemetry state.serial event] := by
      rw [hcurrent]
      cases hdone : event.isRuntimeDone with
      | true => simp [runtimeDones, ProcessorCall.isRuntimeDone, hdone]
      | false => simp [runtimeDones, ProcessorCall.isRuntimeDone, hdone]
    rw [hadded] at hadds
    have hcounted := hs.counted
    have hbuffer := hadds.buffer
    have hcount := hadds.count
    refine ⟨[.telemetry state.serial event], ⟨?_, ?_, fun h => ?_, ?_⟩⟩
    · rw [hs.trace, List.append_assoc]
    · dsimp only
      omega
    · have h : p.state.reportData.isSome = true := h
      rw [hreport, Bool.or_eq_true] at h
      rcases h with h | h
      · have hends : s.invocationEnds = true := by
          rw [TelemetryServiceState.invocationEnds, hstate]
          exact h
        exact (hs.ends hends).append _
      · refine .inr ⟨event, ?_, h⟩
        rw [processedEvents_append]
        exact List.mem_append_right _ List.mem_cons_self
    · rw [runtimeDones_append]
      rcases hs.spans with ⟨hwaiting, hsame, hbudget⟩ | ⟨hmay, hotel, hother⟩
      · have hsame := hsame state hstate
        refine .inl ⟨hwaiting, fun state' hstate' => ?_, ?_⟩
        · cases hstate'
          rw [← hsame, hcurrent, TelemetryServiceState.emittedTotal]
          dsimp only
          rw [htracing]
        · rw [hsame] at hcount
          dsimp only
          rw [Nat.mul_add]
          omega
      · refine .inr ⟨hmay.append _, fun hmode => ?_, fun hmode => ?_⟩
        · have hbefore := hotel hmode
          have hle : s.emittedTotal config.processorConfig *
              runtimeDones [.telemetry state.serial event] ≤
              3 * runtimeDones [.telemetry state.serial event] :=
            Nat.mul_le_mul_right _ (emittedTotal_le_three _ s)
          change p.outputBuffers.functionSpansCount + batchTotal s.waitingBatches ≤ _
          rw [Nat.mul_add]
          omega
        · rw [emittedTotal_of_mode hmode, Nat.zero_mul, Nat.add_zero] at hcount
          exact hcount.le.trans (hother hmode)
  · rw [heq]
    exact ⟨_, hs.still rfl rfl rfl (.same rfl rfl) rfl⟩

/-- Every part keeps to the budget. -/
theorem SpanBudget.part {s₀ : TelemetryServiceState} {calls : List ProcessorCall}
    (hs : SpanBudget config.processorConfig s₀ s calls) (hpart : Part config s s') :
    ∃ more, SpanBudget config.processorConfig s₀ s' (calls ++ more) := by
  cases hpart with
  | acquired => exact hs.acquired
  | telemetry event state hstate => exact hs.telemetry event hstate
  | degraded event p p' hmetrics hout h =>
    refine ⟨_, hs.still rfl rfl rfl ?_ rfl⟩
    rw [← hout, processTelemetryInDegradedMode_ok h]
    exact processRecordInDegradedMode_adds
  | failed event => exact ⟨_, hs.still rfl rfl rfl (.same rfl rfl) rfl⟩
  | moved => exact ⟨_, hs.still (List.append_nil _).symm rfl rfl (.same rfl rfl) rfl⟩
  | concluded state hstate hreport =>
    have hends : s.invocationEnds = true := by
      rw [TelemetryServiceState.invocationEnds, hstate]
      exact hreport
    refine ⟨[.concluded state.serial state.logs], ⟨?_, hs.counted, fun _ => ?_, ?_⟩⟩
    · rw [hs.trace, List.append_assoc]
    · exact (hs.ends hends).append _
    · rw [runtimeDones_append]
      rcases hs.spans with ⟨hwaiting, -, hbudget⟩ | ⟨hmay, h⟩
      · refine .inl ⟨hwaiting, fun state' hstate' => ?_, hbudget⟩
        cases hstate'
      · exact .inr ⟨hmay.append _, h⟩

omit [External] in
/-- Each `PlatformRuntimeDone` that has been processed is an event that has. -/
theorem runtimeDones_le_processed (calls : List ProcessorCall) :
    runtimeDones calls ≤ (processedEvents calls).countP LambdaTelemetry.isRuntimeDone := by
  induction calls with
  | nil => exact Nat.le_refl _
  | cons call calls ih =>
    have hcalls : runtimeDones (call :: calls) = runtimeDones [call] + runtimeDones calls :=
      runtimeDones_append [call] calls
    have hevents : processedEvents (call :: calls) =
        processedEvents [call] ++ processedEvents calls := processedEvents_append [call] calls
    have hcall : runtimeDones [call] ≤
        (processedEvents [call]).countP LambdaTelemetry.isRuntimeDone := by
      cases call with
      | telemetry invocation event =>
        refine Nat.le_of_eq ?_
        cases hdone : event.isRuntimeDone with
        | true => simp [runtimeDones, ProcessorCall.isRuntimeDone, processedEvents,
            ProcessorCall.event, hdone]
        | false => simp [runtimeDones, ProcessorCall.isRuntimeDone, processedEvents,
            ProcessorCall.event, hdone]
      | _ => exact Nat.zero_le _
    rw [hcalls, hevents, List.countP_append]
    omega

/-- Only events that waited are processed. -/
theorem processTelemetryEvents_processed {calls : List ProcessorCall}
    (htrace : (processTelemetryEvents config s).1.trace = s.trace ++ calls) :
    ∃ rest, (processedEvents calls ++ rest).Perm s.waitingEvents := by
  have advanced := @processTelemetryEventsLoop_advanced _ config s
    (s.telemetryEventQueue.length + 2) false
  change Outcome.Satisfies (processTelemetryEvents config s) _ _ at advanced
  have same {others : List ProcessorCall} {lost : List LambdaTelemetry}
      (moves : Moves s (processTelemetryEvents config s).1 others lost) :
      ∃ rest, (processedEvents calls ++ rest).Perm s.waitingEvents := by
    rw [List.append_cancel_left (htrace.symm.trans moves.trace)]
    exact ⟨_, moves.perm⟩
  cases h : processTelemetryEvents config s with
  | mk s' r =>
    rw [h] at advanced same
    cases r with
    | ok d =>
      obtain ⟨others, moves, -⟩ := advanced
      exact same moves
    | error e =>
      rcases advanced with ⟨others, moves, -⟩ | ⟨others, bad, lost, moves, -⟩
      · exact same moves
      · exact same moves

/-- One call adds at most the spans that it can move. -/
theorem processTelemetryEvents_movable :
    scopeTotal (processTelemetryEvents config s).1.outputBuffers.functionSpansBuffer +
        s.outputBuffers.functionSpansCount =
      scopeTotal s.outputBuffers.functionSpansBuffer +
        (processTelemetryEvents config s).1.outputBuffers.functionSpansCount ∧
    (processTelemetryEvents config s).1.outputBuffers.functionSpansCount ≤
      s.outputBuffers.functionSpansCount + s.movableTotal config.processorConfig := by
  obtain ⟨calls, budget⟩ : ∃ calls, SpanBudget config.processorConfig s
      (processTelemetryEvents config s).1 calls := by
    refine processTelemetryEvents_parts
      (P := fun t => ∃ calls, SpanBudget config.processorConfig s t calls) ?_
      ⟨[], .refl config.processorConfig s⟩
    rintro t t' ⟨calls, ht⟩ hpart
    obtain ⟨more, ht'⟩ := ht.part hpart
    exact ⟨calls ++ more, ht'⟩
  refine ⟨budget.counted, ?_⟩
  obtain ⟨rest, hperm⟩ := processTelemetryEvents_processed budget.trace
  have hdones : runtimeDones calls ≤ s.waitingEvents.countP LambdaTelemetry.isRuntimeDone := by
    have hle := runtimeDones_le_processed calls
    have hcount := hperm.countP_eq LambdaTelemetry.isRuntimeDone
    rw [List.countP_append] at hcount
    omega
  have hmay (h : MayEnd s calls) :
      (s.invocationEnds || s.waitingEvents.any LambdaTelemetry.isReport) = true := by
    rw [Bool.or_eq_true]
    rcases h with h | ⟨event, hevent, hreport⟩
    · exact .inl h
    · exact .inr (List.any_eq_true.2
        ⟨event, hperm.subset (List.mem_append_left _ hevent), hreport⟩)
  unfold TelemetryServiceState.movableTotal
  by_cases hmode : config.processorConfig.tracingMode = .otelInstrumentation
  · rw [if_pos hmode]
    rcases budget.spans with ⟨-, -, hcount⟩ | ⟨hends, hotel, -⟩
    · have hthree : s.emittedTotal config.processorConfig * runtimeDones calls ≤
          3 * s.waitingEvents.countP LambdaTelemetry.isRuntimeDone :=
        Nat.mul_le_mul (emittedTotal_le_three _ s) hdones
      have hown : s.emittedTotal config.processorConfig * runtimeDones calls ≤
          s.emittedTotal config.processorConfig *
            s.waitingEvents.countP LambdaTelemetry.isRuntimeDone :=
        Nat.mul_le_mul_left _ hdones
      split
      · omega
      · omega
    · have hcount := hotel hmode
      have hthree : 3 * runtimeDones calls ≤
          3 * s.waitingEvents.countP LambdaTelemetry.isRuntimeDone :=
        Nat.mul_le_mul_left _ hdones
      rw [if_pos (hmay hends)]
      omega
  · rw [if_neg hmode]
    rcases budget.spans with ⟨-, -, hcount⟩ | ⟨-, -, hother⟩
    · rw [emittedTotal_of_mode hmode, Nat.zero_mul] at hcount
      exact hcount
    · exact hother hmode

/-! ## One step -/

/-- The part of `handle_incoming_telemetry` before the events are queued. -/
def delayIncoming (config : TelemetryServiceConfig) (clock : Clock)
    (telemetryEvents : List LambdaTelemetry) (s : TelemetryServiceState) : Effects :=
  match telemetryEvents with
  | oldestEvent :: _ =>
    if config.reportingStrategy.sendAfterDelay then
      signalShouldSendAfterDelayFromEvent config clock oldestEvent s
    else { state := s }
  | [] => { state := s }

/-- The state in which the action calls `process_telemetry_events`, if it does. -/
def callState (config : TelemetryServiceConfig) (service : TelemetryService) (a : Action) :
    Option TelemetryServiceState :=
  if service.state.shutdownFlushStarted then none
  else
    match a with
    | .handler _ =>
      match service.handler with
      | .enqueuing e functionContext => some (pushInvokeEvent e functionContext service.state)
      | _ => none
    | .telemetry clock events =>
      some ((delayIncoming config clock events service.state).state.extendQueue events)
    | _ => none

/-- A send has been asked for, or the spans that the action can move do not reach the threshold. -/
def SpansFit (config : TelemetryServiceConfig) (service : TelemetryService) (a : Action) : Prop :=
  ∀ t, callState config service a = some t → t.shouldSend = true ∨
    t.outputBuffers.functionSpansCount + t.movableTotal config.processorConfig <
      config.spanSendingThreshold

/-- What a part of a step does to the guard, provided that the spans fit. -/
structure GuardKept (config : TelemetryServiceConfig) (fits : Prop)
    (s s' : TelemetryServiceState) : Prop where
  counted : SpansCounted s → SpansCounted s'
  guarded : fits → SpansGuarded config s → SpansGuarded config s'

namespace GuardKept

variable {s'' : TelemetryServiceState} {fits : Prop}

omit [External] in
theorem trans (h : GuardKept config fits s s') (h' : GuardKept config fits s' s'') :
    GuardKept config fits s s'' where
  counted hs := h'.counted (h.counted hs)
  guarded hfits hs := h'.guarded hfits (h.guarded hfits hs)

omit [External] in
theorem mono {fits' : Prop} (h : GuardKept config fits s s') (hfits : fits' → fits) :
    GuardKept config fits' s s' := ⟨h.counted, fun h' => h.guarded (hfits h')⟩

omit [External] in
/-- The spans are the same, and a send that has been asked for still is. -/
theorem same (hbuffer : s'.outputBuffers.functionSpansBuffer = s.outputBuffers.functionSpansBuffer)
    (hcount : s'.outputBuffers.functionSpansCount = s.outputBuffers.functionSpansCount)
    (hset : s.shouldSend = true → s'.shouldSend = true) : GuardKept config fits s s' where
  counted hs := by
    rw [SpansCounted, hcount, hbuffer]
    exact hs
  guarded _ hs h := by
    rw [hcount] at h
    exact hset (hs h)

omit [External] in
theorem signalShouldSendBy (clock : Clock) (time : Instant) :
    GuardKept config fits s (TelemetryExporter.signalShouldSendBy clock time s).state := by
  unfold TelemetryExporter.signalShouldSendBy
  split
  · split
    · exact .same rfl rfl fun _ => rfl
    · exact .same rfl rfl id
  · exact .same rfl rfl id

omit [External] in
theorem delayIncoming (clock : Clock) (events : List LambdaTelemetry) :
    GuardKept config fits s (TelemetryExporter.delayIncoming config clock events s).state := by
  unfold TelemetryExporter.delayIncoming signalShouldSendAfterDelayFromEvent
  split
  · split
    · split
      · exact .signalShouldSendBy clock _
      · exact .same rfl rfl id
    · exact .same rfl rfl id
  · exact .same rfl rfl id

/-- The calls of `process_telemetry_events`, which do not examine the threshold. -/
theorem handleTelemetry (hphase : s.initHandled = true → s.initHandlingStarted = true) :
    GuardKept config
      (s.shutdownFlushStarted = false → s.shouldSend = true ∨
        s.outputBuffers.functionSpansCount + s.movableTotal config.processorConfig <
          config.spanSendingThreshold)
      s (TelemetryExporter.handleTelemetry config s).state := by
  obtain ⟨hcounted, hcount⟩ := @processTelemetryEvents_movable _ config s
  have hset := (@processTelemetryEvents_sends _ config s hphase).2
  have processed (hflush : s.shutdownFlushStarted = false) :
      GuardKept config
        (s.shutdownFlushStarted = false → s.shouldSend = true ∨
          s.outputBuffers.functionSpansCount + s.movableTotal config.processorConfig <
            config.spanSendingThreshold)
        s (processTelemetryEvents config s).1 := by
    refine ⟨fun hs => ?_, fun hfit hs h => ?_⟩
    · rw [SpansCounted] at hs ⊢
      omega
    · rw [hset]
      rcases hfit hflush with hsend | hlt
      · exact hsend
      · omega
  have tried : GuardKept config
      (s.shutdownFlushStarted = false → s.shouldSend = true ∨
        s.outputBuffers.functionSpansCount + s.movableTotal config.processorConfig <
          config.spanSendingThreshold)
      s (tryProcessingTelemetry config s).1.state := by
    unfold tryProcessingTelemetry
    split
    · exact .same rfl rfl id
    · next hflush =>
      have processed := processed (Bool.eq_false_iff.2 hflush)
      split
      · next h =>
        rw [h] at processed
        exact processed
      · next h =>
        rw [h] at processed
        split
        · exact processed.trans (.same rfl rfl fun _ => rfl)
        · exact processed
  unfold TelemetryExporter.handleTelemetry
  split
  · next h =>
    rw [h] at tried
    split
    · exact tried
    · exact tried
  · next h =>
    rw [h] at tried
    exact tried

/-- `handle_otlp_spans` examines the threshold itself. -/
theorem handleOtlpSpans (clock : Clock) (spans : List ResourceSpans) :
    GuardKept config fits s (TelemetryExporter.handleOtlpSpans config clock spans s).state := by
  unfold TelemetryExporter.handleOtlpSpans
  split
  · exact .same rfl rfl id
  · split
    · next state hstate =>
      dsimp only
      split
      · exact .same rfl rfl id
      · obtain ⟨n, hadds, -⟩ := @processFunctionSpans_adds _ config.processorConfig
          ⟨state, s.metricsState, s.outputBuffers, s.rng⟩ spans
        have counted (hs : SpansCounted s) : SpansCounted
            { (callProcessFunctionSpans config spans state s).2 with
              invocationState := some (callProcessFunctionSpans config spans state s).1 } := by
          have hbuffer := hadds.buffer
          have hcount := hadds.count
          simp only [SpansCounted, callProcessFunctionSpans] at hs hbuffer hcount ⊢
          omega
        split
        · exact ⟨counted, fun _ _ _ => rfl⟩
        · next hbelow =>
          have below : GuardKept config fits s
              { (callProcessFunctionSpans config spans state s).2 with
                invocationState := some (callProcessFunctionSpans config spans state s).1 } :=
            ⟨counted, fun _ _ h => absurd h hbelow⟩
          split
          · exact below.trans (.signalShouldSendBy clock _)
          · exact below
    · exact .same rfl rfl id

theorem handleOtlpMetrics (clock : Clock) (metrics : List ResourceMetrics) :
    GuardKept config fits s (TelemetryExporter.handleOtlpMetrics config clock metrics s).state := by
  have processed (t : TelemetryServiceState) :
      GuardKept config fits t (processFunctionMetrics config metrics t) := by
    unfold processFunctionMetrics
    split
    · exact .same rfl rfl id
    · exact .same rfl rfl id
    · exact .same rfl rfl id
  unfold TelemetryExporter.handleOtlpMetrics
  dsimp only
  split
  · exact GuardKept.trans (.signalShouldSendBy clock _) (processed _)
  · exact processed s

omit [External] in
theorem wakeAfterDelay (clock : Clock) :
    GuardKept config fits s (TelemetryExporter.wakeAfterDelay clock s).state := by
  unfold TelemetryExporter.wakeAfterDelay
  split
  · exact .same rfl rfl fun _ => rfl
  · exact .same rfl rfl id

omit [External] in
/-- Sending takes all spans. -/
theorem sendTelemetry (hpos : 0 < config.spanSendingThreshold) (functionContext : FunctionContext) :
    GuardKept config fits s (TelemetryExporter.sendTelemetry config functionContext s).2 := by
  have taken : (TelemetryExporter.sendTelemetry config functionContext
      s).2.outputBuffers.functionSpansBuffer = [] ∧ (TelemetryExporter.sendTelemetry config
        functionContext s).2.outputBuffers.functionSpansCount = 0 := by
    unfold TelemetryExporter.sendTelemetry prepareTelemetryBatch prepareMetrics takeScopeMetrics
    dsimp only
    split <;> split <;> exact ⟨rfl, rfl⟩
  refine ⟨fun _ => ?_, fun _ _ h => ?_⟩
  · rw [SpansCounted, taken.1, taken.2]
    rfl
  · rw [taken.2] at h
    omega

/-- Degraded mode, in which the rest of the queue is flushed, adds no spans. -/
theorem flushEnqueuedTelemetry (functionContext : FunctionContext) :
    GuardKept config fits s
      (TelemetryExporter.flushEnqueuedTelemetry config functionContext s) := by
  have flush (events : List LambdaTelemetry) (state : DegradedProcessingState)
      (t : TelemetryServiceState) :
      GuardKept config fits t (processInDegradedModeLoop config state t events).1 := by
    induction events generalizing state t with
    | nil => exact .same rfl rfl id
    | cons event events ih =>
      unfold processInDegradedModeLoop
      split
      · exact .same rfl rfl id
      · next p h =>
        have hadds : AddsSpans 0 t.outputBuffers p.outputBuffers := by
          rw [processTelemetryInDegradedMode_ok h]
          exact processRecordInDegradedMode_adds
            (d := ⟨state, t.metricsState, t.outputBuffers, t.rng⟩)
        have kept : GuardKept config fits t
            { t with
              metricsState := p.metricsState
              outputBuffers := p.outputBuffers
              rng := p.rng
              trace := t.trace ++ [.degraded event] } := by
          have hbuffer := hadds.buffer
          have hcount := hadds.count
          refine ⟨fun ht => ?_, fun _ ht h => ?_⟩
          · simp only [SpansCounted] at ht ⊢
            omega
          · exact ht (hcount.symm.trans_ge h)
        exact kept.trans (ih _ _)
  unfold TelemetryExporter.flushEnqueuedTelemetry processInDegradedMode
  dsimp only
  refine GuardKept.trans ?_ (flush _ _ _)
  exact .same rfl rfl id

end GuardKept

variable {service service' : TelemetryService} {a : Action}

/-- A step of the running handler. -/
theorem handlerStep_guardKept {now : Instant} (hpos : 0 < config.spanSendingThreshold)
    (hphase : service.state.initHandled = true → service.state.initHandlingStarted = true)
    (hstep : handlerStep config now service = some service') :
    GuardKept config (SpansFit config service (.handler now)) service.state service'.state := by
  have sent (functionContext : FunctionContext) (now : Instant) (fits : Prop) :
      GuardKept config fits service.state
        (service.sendIfNeeded config functionContext now).state := by
    rcases sendIfNeeded_cases functionContext now service with heq | heq
    · rw [heq]
      exact .sendTelemetry hpos functionContext
    · rw [heq]
      exact .same rfl rfl id
  cases handlerStep_cases hstep with
  | enqueued e functionContext hhandler =>
    have push : GuardKept config (SpansFit config service (.handler now)) service.state
        (pushInvokeEvent e functionContext service.state) := .same rfl rfl id
    refine push.trans ((GuardKept.handleTelemetry
      (s := pushInvokeEvent e functionContext service.state) hphase).mono fun hfit hflush => ?_)
    refine hfit _ ?_
    have hflush : service.state.shutdownFlushStarted = false := hflush
    simp only [callState, hflush, hhandler, Bool.false_eq_true, if_false]
  | checkedOnce functionContext => exact sent functionContext now _
  | checked functionContext => exact sent functionContext now _
  | returned =>
    dsimp only
    split
    · exact .same rfl rfl id
    · exact .same rfl rfl id
  | _ => exact .same rfl rfl id

/-- Incoming telemetry. -/
theorem handleIncomingTelemetry_guardKept (clock : Clock) (events : List LambdaTelemetry)
    (hphase : service.state.initHandled = true → service.state.initHandlingStarted = true) :
    GuardKept config (SpansFit config service (.telemetry clock events)) service.state
      (handleIncomingTelemetry config clock events service.state).state := by
  let d := (delayIncoming config clock events service.state).state
  have hcore : d.core = service.state.core := by
    unfold d delayIncoming
    split
    · split
      · exact signalShouldSendAfterDelayFromEvent_core clock _
      · rfl
    · rfl
  have same := SameCore.of_core hcore
  have delayed : GuardKept config (SpansFit config service (.telemetry clock events))
      service.state (d.extendQueue events) :=
    GuardKept.trans (.delayIncoming clock events) (.same rfl rfl id)
  have hphase' : d.initHandled = true → d.initHandlingStarted = true := same.phase hphase
  refine delayed.trans ((GuardKept.handleTelemetry
    (s := d.extendQueue events) hphase').mono fun hfit hflush => ?_)
  refine hfit _ ?_
  have hflush : service.state.shutdownFlushStarted = false :=
    same.shutdownFlushStarted.symm.trans hflush
  simp only [callState, hflush, Bool.false_eq_true, if_false]
  rfl

/-- One step of the service. -/
theorem serviceStep_guardKept (hpos : 0 < config.spanSendingThreshold)
    (hphase : service.state.initHandled = true → service.state.initHandlingStarted = true)
    (hstep : serviceStep config service a = some service') :
    GuardKept config (SpansFit config service a) service.state service'.state := by
  cases a with
  | invoke e functionContext =>
    obtain ⟨-, rfl⟩ := serviceStep_invoke hstep
    exact .same rfl rfl id
  | handler now => exact handlerStep_guardKept hpos hphase hstep
  | telemetry clock events =>
    cases hstep
    exact handleIncomingTelemetry_guardKept clock events hphase
  | otlpSpans clock spans =>
    cases hstep
    exact .handleOtlpSpans clock spans
  | otlpMetrics clock metrics =>
    cases hstep
    exact .handleOtlpMetrics clock metrics
  | wake deadline clock =>
    obtain ⟨-, rfl⟩ := serviceStep_wake hstep
    exact .wakeAfterDelay clock
  | shutdown functionContext =>
    obtain ⟨-, rfl⟩ := serviceStep_shutdown hstep
    exact GuardKept.trans (.flushEnqueuedTelemetry functionContext)
      (.sendTelemetry hpos functionContext)

/-! ## Over all interleavings -/

/-- The count is right in every state. If in every step the spans fit, then from the threshold on a
send has been asked for. -/
theorem function_spans_guarded {now : Nat} {actions : List Action}
    (hpos : 0 < config.spanSendingThreshold)
    (hrun : serviceRun config now actions = some service) :
    SpansCounted service.state ∧
      ((∀ x ∈ trail (serviceStep config) (TelemetryService.new config now) actions,
          SpansFit config x.1 x.2) →
        SpansGuarded config service.state) := by
  have H : serviceRun config now
        ((trail (serviceStep config) (TelemetryService.new config now) actions).map Prod.snd) =
          some service ∧ SpansCounted service.state ∧
      ((∀ x ∈ trail (serviceStep config) (TelemetryService.new config now) actions,
          SpansFit config x.1 x.2) →
        SpansGuarded config service.state) := by
    refine run_history (I := fun past service =>
      serviceRun config now (past.map Prod.snd) = some service ∧ SpansCounted service.state ∧
        ((∀ x ∈ past, SpansFit config x.1 x.2) → SpansGuarded config service.state)) ?_ ?_ hrun
    · refine ⟨rfl, rfl, fun _ h => ?_⟩
      exact absurd h (Nat.not_le_of_lt hpos)
    · rintro past service a service' ⟨hpast, hcounted, hguarded⟩ hstep
      have kept := serviceStep_guardKept hpos
        (serviceRun_betweenSteps hpast).invariant.phase hstep
      refine ⟨?_, kept.counted hcounted, ?_⟩
      · rw [List.map_append]
        exact run_snoc.2 ⟨service, hpast, hstep⟩
      · intro hfit
        refine kept.guarded (hfit (service, a) (List.mem_append_right _ List.mem_cons_self)) ?_
        exact hguarded fun x hx => hfit x (List.mem_append_left _ hx)
  exact H.2

end

/-- A batch with one span that is not captured. -/
def internalSpanBatch : List ResourceSpans :=
  [{ resource := none
     scopeSpans :=
      [{ scope := none
         spans :=
          [{ traceId := [7], spanId := [8], parentSpanId := [], name := "g", kind := spanKindInternal
             startTimeUnixNano := 0, endTimeUnixNano := 0, status := none }] }] }]

/-- One span is too many. -/
def guardedConfig : TelemetryServiceConfig :=
  { sampleConfig .lowOverhead .otelInstrumentation with spanSendingThreshold := 1 }

/-- No `handle_invoke_event` is running. -/
def InvokeHandler.isIdle : InvokeHandler → Bool
  | .idle => true
  | _ => false

/-- The span comes when its invocation is the current one. -/
def spansAfterInvoke : List Action :=
  [.invoke (sampleInvoke "1") sampleContext, .handler 0, .handler 0,
    .otlpSpans ⟨0, 0, 0⟩ internalSpanBatch]

/-- The span comes first, and waits for its invocation; then `handle_invoke_event` returns. -/
def spansBeforeInvoke : List Action :=
  [.otlpSpans ⟨0, 0, 0⟩ internalSpanBatch, .invoke (sampleInvoke "1") sampleContext, .handler 0,
    .handler 0, .handler 0, .handler 0]

instance (config : TelemetryServiceConfig) (service : TelemetryService) (a : Action) :
    Decidable (SpansFit config service a) :=
  decidable_of_iff
    ((callState config service a).all (fun t => decide (t.shouldSend = true ∨
      t.outputBuffers.functionSpansCount + t.movableTotal config.processorConfig <
        config.spanSendingThreshold)) = true)
    (by simp [SpansFit, Option.all_eq_true])

theorem function_spans_guarded_after_invoke :
    ∃ service, @serviceRun sampleExternal guardedConfig 0 spansAfterInvoke = some service ∧
      SpansGuarded guardedConfig service.state ∧ service.state.outputBuffers.functionSpansCount = 1 := by
  obtain ⟨service, hrun, hcount⟩ := @exists_run sampleExternal guardedConfig 0 spansAfterInvoke
    (fun service => service.state.outputBuffers.functionSpansCount = 1) _ (by decide +kernel)
  have hfit : ∀ x ∈ trail (@serviceStep sampleExternal guardedConfig)
      (TelemetryService.new guardedConfig 0) spansAfterInvoke, SpansFit guardedConfig x.1 x.2 := by
    decide +kernel
  exact ⟨service, hrun,
    (@function_spans_guarded sampleExternal guardedConfig service 0 spansAfterInvoke
      Nat.one_pos hrun).2 hfit, hcount⟩

/-- Moving the span to the output buffer asks for no send. -/
theorem spans_before_invoke_unguarded :
    ∃ service, @serviceRun sampleExternal guardedConfig 0 spansBeforeInvoke = some service ∧
      service.handler = .idle ∧ 0 < guardedConfig.spanSendingThreshold ∧
      ¬ SpansGuarded guardedConfig service.state := by
  obtain ⟨service, hrun, hidle, hcount, hset⟩ := @exists_run sampleExternal guardedConfig 0
    spansBeforeInvoke (fun service => service.handler.isIdle = true ∧
      service.state.outputBuffers.functionSpansCount = 1 ∧ service.state.shouldSend = false) _
    (by decide +kernel)
  have hhandler : service.handler = .idle := by
    cases h : service.handler with
    | idle => rfl
    | _ =>
      rw [h] at hidle
      cases hidle
  refine ⟨service, hrun, hhandler, Nat.one_pos, fun h => ?_⟩
  have hsend := h (Nat.le_of_eq hcount.symm)
  rw [hset] at hsend
  cases hsend

end TelemetryExporter
