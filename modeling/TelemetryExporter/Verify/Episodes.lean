import TelemetryExporter.Verify.Frame
import TelemetryExporter.Verify.Invocations
import TelemetryExporter.Verify.InvokeEvents
import TelemetryExporter.Verify.OutputKinds

/-!
# Episodes

What is processed with one state: the inputs of one invocation, or the events of one session of
degraded processing. An `Episode` is a run of its own (`Alone`): it starts with a new state and has
put out nothing yet.
-/

namespace TelemetryExporter

open Machine

/-! ## Episodes -/

/-- One event in degraded mode. -/
def degradedStep [External] (config : TelemetryProcessorConfig)
    (p : Processing DegradedProcessingState) (event : LambdaTelemetry) :
    Option (Processing DegradedProcessingState) :=
  (processTelemetryInDegradedMode config event p).toOption

/-- What is processed with one state: the inputs of an invocation, or the events of a session in
degraded mode. -/
inductive Episode where
  | invocation (start : Processing InvocationProcessingState) (inputs : List InvocationInput)
      (final : Processing InvocationProcessingState)
  | session (start : Processing DegradedProcessingState) (events : List LambdaTelemetry)
      (final : Processing DegradedProcessingState)

/-- What leaves the buffers as logs, spans and traces: not the metrics of the function, which are
not processed with a state, and not the count of spans. -/
def OutputBuffers.signals (out : OutputBuffers) : OutputBuffers :=
  { out with functionMetricsBuffer := [], functionSpansCount := 0 }

namespace Episode

/-- What the episode puts out. -/
def output : Episode → OutputBuffers
  | .invocation _ _ final => final.outputBuffers.signals
  | .session _ _ final => final.outputBuffers.signals

/-- The serial of the invocation. -/
def serial? : Episode → Option Nat
  | .invocation start _ _ => some start.state.serial
  | .session _ _ _ => none

/-- The inputs of the invocation with the serial. -/
def inputsFor (serial : Nat) : Episode → List InvocationInput
  | .invocation start inputs _ => if start.state.serial = serial then inputs else []
  | .session _ _ _ => []

/-- The events of a session. -/
def events : Episode → List LambdaTelemetry
  | .invocation _ _ _ => []
  | .session _ events _ => events

/-- The episode is a run of its own: it starts with nothing put out, and with the state made for its
request or with that of a new session. -/
def Alone [External] (config : TelemetryProcessorConfig)
    (invokes : List (InvokeEvent × FunctionContext)) : Episode → Prop
  | .invocation start inputs final =>
    (∃ e functionContext rng, invokes[start.state.serial]? = some (e, functionContext) ∧
      MadeFor config e functionContext rng start.state) ∧
      start.outputBuffers = {} ∧ run (inputStep config) start inputs = some final
  | .session start events final =>
    (∃ functionContext rng, start.state = (DegradedProcessingState.new functionContext rng).1) ∧
      start.outputBuffers = {} ∧ run (degradedStep config) start events = some final

end Episode

/-- What the episodes put out, one after the other. -/
def outputs (episodes : List Episode) : OutputBuffers :=
  episodes.foldr (fun episode out => episode.output ++ out) {}

/-! ### Outputs -/

theorem signals_append (a b : OutputBuffers) : (a ++ b).signals = a.signals ++ b.signals := rfl

theorem outputs_append (a b : List Episode) : outputs (a ++ b) = outputs a ++ outputs b := by
  induction a with
  | nil => exact (OutputBuffers.nil_append _).symm
  | cons episode a ih =>
    have hcons : outputs (episode :: a ++ b) = episode.output ++ outputs (a ++ b) := rfl
    rw [hcons, ih, ← OutputBuffers.append_assoc]
    rfl

theorem outputs_singleton (episode : Episode) : outputs [episode] = episode.output :=
  OutputBuffers.append_nil _

/-- The outputs, field by field. -/
theorem outputs_fields (episodes : List Episode) :
    (outputs episodes).logsBuffer = episodes.flatMap (·.output.logsBuffer) ∧
      (outputs episodes).spansBuffer = episodes.flatMap (·.output.spansBuffer) ∧
      (outputs episodes).functionSpansBuffer = episodes.flatMap (·.output.functionSpansBuffer) ∧
      (outputs episodes).epsagonTracesBuffer = episodes.flatMap (·.output.epsagonTracesBuffer) := by
  induction episodes with
  | nil => exact ⟨rfl, rfl, rfl, rfl⟩
  | cons episode episodes ih =>
    obtain ⟨hlogs, hspans, hfunction, htraces⟩ := ih
    have hcons : outputs (episode :: episodes) = episode.output ++ outputs episodes := rfl
    rw [hcons]
    simp only [List.flatMap_cons, ← hlogs, ← hspans, ← hfunction, ← htraces]
    exact ⟨rfl, rfl, rfl, rfl⟩

/-! ## The trace -/

/-- The call that gives the input to the invocation. -/
def InvocationInput.call (serial : Nat) : InvocationInput → ProcessorCall
  | .telemetry event => .telemetry serial event
  | .functionSpans spans => .functionSpans serial spans

/-- The input that a call gives to the invocation. -/
def ProcessorCall.inputFor (serial : Nat) : ProcessorCall → Option InvocationInput
  | .telemetry invocation event => if invocation = serial then some (.telemetry event) else none
  | .functionSpans invocation spans => if invocation = serial then some (.functionSpans spans) else none
  | _ => none

/-- The inputs that the calls give to the invocation. -/
def inputsOf (serial : Nat) (trace : List ProcessorCall) : List InvocationInput :=
  trace.filterMap (ProcessorCall.inputFor serial)

/-- The invocation that the call creates. -/
def ProcessorCall.creates : ProcessorCall → Option Nat
  | .created invocation => some invocation
  | _ => none

/-- The event that the call processes in degraded mode. -/
def ProcessorCall.degradedEvent : ProcessorCall → Option LambdaTelemetry
  | .degraded event => some event
  | _ => none

/-- The trace is that of the episodes. -/
structure TraceOf (episodes : List Episode) (trace : List ProcessorCall) : Prop where
  inputs : ∀ serial, inputsOf serial trace = episodes.flatMap (Episode.inputsFor serial)
  created : trace.filterMap ProcessorCall.creates = episodes.filterMap Episode.serial?
  degraded : trace.filterMap ProcessorCall.degradedEvent = episodes.flatMap Episode.events

namespace TraceOf

variable {episodes closed : List Episode} {trace : List ProcessorCall}

/-- A call that is none of an episode. -/
theorem skip (h : TraceOf episodes trace) {call : ProcessorCall}
    (hinput : ∀ serial, call.inputFor serial = none) (hcreates : call.creates = none)
    (hevent : call.degradedEvent = none) : TraceOf episodes (trace ++ [call]) := by
  refine ⟨fun serial => ?_, ?_, ?_⟩
  · rw [inputsOf, List.filterMap_append, List.filterMap_cons_none (hinput serial)]
    exact (List.append_nil _).trans (h.inputs serial)
  · rw [List.filterMap_append, List.filterMap_cons_none hcreates]
    exact (List.append_nil _).trans h.created
  · rw [List.filterMap_append, List.filterMap_cons_none hevent]
    exact (List.append_nil _).trans h.degraded

/-- The trace with one more input of the last episode. -/
theorem input {start final final' : Processing InvocationProcessingState}
    {inputs : List InvocationInput} (h : TraceOf (closed ++ [.invocation start inputs final]) trace)
    (input : InvocationInput) :
    TraceOf (closed ++ [.invocation start (inputs ++ [input]) final'])
      (trace ++ [input.call start.state.serial]) := by
  obtain ⟨hinputs, hcreated, hdegraded⟩ := h
  refine ⟨fun serial => ?_, ?_, ?_⟩
  · have hinputs := hinputs serial
    rw [inputsOf] at hinputs ⊢
    rw [List.filterMap_append, hinputs, List.flatMap_append, List.flatMap_append, List.append_assoc,
      List.flatMap_singleton, List.flatMap_singleton]
    congr 1
    by_cases hserial : start.state.serial = serial
    · cases input <;> simp [Episode.inputsFor, InvocationInput.call, ProcessorCall.inputFor, hserial]
    · cases input <;> simp [Episode.inputsFor, InvocationInput.call, ProcessorCall.inputFor, hserial]
  · rw [List.filterMap_append, hcreated, List.filterMap_append, List.filterMap_append]
    cases input <;> exact List.append_nil _
  · rw [List.filterMap_append, hdegraded, List.flatMap_append, List.flatMap_append]
    cases input <;> exact List.append_nil _

/-- The trace only knows the serial and the inputs of an invocation. -/
theorem replace {start start' final final' : Processing InvocationProcessingState}
    {inputs : List InvocationInput} (h : TraceOf (closed ++ [.invocation start inputs final]) trace)
    (hserial : start'.state.serial = start.state.serial) :
    TraceOf (closed ++ [.invocation start' inputs final']) trace := by
  obtain ⟨hinputs, hcreated, hdegraded⟩ := h
  refine ⟨fun serial => ?_, ?_, ?_⟩
  · rw [hinputs serial, List.flatMap_append, List.flatMap_append, List.flatMap_singleton,
      List.flatMap_singleton, Episode.inputsFor, Episode.inputsFor, hserial]
  · rw [hcreated, List.filterMap_append, List.filterMap_append]
    exact congrArg (_ ++ [·]) hserial.symm
  · rw [hdegraded, List.flatMap_append, List.flatMap_append]
    rfl

/-- An invocation that has processed nothing yet. -/
theorem create (h : TraceOf closed trace) (start : Processing InvocationProcessingState) :
    TraceOf (closed ++ [.invocation start [] start])
      (trace ++ [.created start.state.serial]) := by
  obtain ⟨hinputs, hcreated, hdegraded⟩ := h
  refine ⟨fun serial => ?_, ?_, ?_⟩
  · have hinputs := hinputs serial
    rw [inputsOf] at hinputs ⊢
    rw [List.filterMap_append, hinputs, List.flatMap_append, List.flatMap_singleton]
    congr 1
    exact (ite_self _).symm
  · rw [List.filterMap_append, hcreated, List.filterMap_append]
    rfl
  · rw [List.filterMap_append, hdegraded, List.flatMap_append]
    rfl

/-- A session before the current episode. -/
theorem session {current : List Episode} (h : TraceOf (closed ++ current) trace)
    (hcurrent : current.flatMap Episode.events = []) (start final : Processing DegradedProcessingState)
    (events : List LambdaTelemetry) {calls : List ProcessorCall}
    (hcalls : calls = [] ∨ ∃ bad, calls = [.failed bad]) :
    TraceOf (closed ++ [.session start events final] ++ current)
      (trace ++ (events.map .degraded ++ calls)) := by
  obtain ⟨hinputs, hcreated, hdegraded⟩ := h
  have ofCalls {A : Type} (f : ProcessorCall → Option A) (hf : ∀ bad, f (.failed bad) = none) :
      calls.filterMap f = [] := by
    rcases hcalls with rfl | ⟨bad, rfl⟩
    · rfl
    · exact List.filterMap_cons_none (hf bad)
  have ofEvents {A : Type} (f : ProcessorCall → Option A) (hf : ∀ event, f (.degraded event) = none) :
      (events.map ProcessorCall.degraded).filterMap f = [] := by
    rw [List.filterMap_map]
    exact List.filterMap_eq_nil_iff.2 fun event _ => hf event
  refine ⟨fun serial => ?_, ?_, ?_⟩
  · have hinputs := hinputs serial
    rw [inputsOf] at hinputs ⊢
    rw [List.filterMap_append, List.filterMap_append, hinputs, ofCalls _ fun _ => rfl,
      ofEvents _ fun _ => rfl]
    simp [Episode.inputsFor]
  · rw [List.filterMap_append, List.filterMap_append, hcreated, ofCalls _ fun _ => rfl,
      ofEvents _ fun _ => rfl]
    simp [List.filterMap_cons, Episode.serial?]
  · rw [List.filterMap_append, List.filterMap_append, hdegraded, ofCalls _ fun _ => rfl,
      List.flatMap_append, List.flatMap_append, List.flatMap_append, hcurrent, List.filterMap_map]
    simp [Episode.events, Function.comp_def, ProcessorCall.degradedEvent]

end TraceOf

/-! ## An invocation before its telemetry -/

/-- Nothing but spans of the function has been put out. -/
structure PutsOutFunctionSpans (out out' : OutputBuffers) : Prop where
  logs : out'.logsBuffer = out.logsBuffer
  spans : out'.spansBuffer = out.spansBuffer
  traces : out'.epsagonTracesBuffer = out.epsagonTracesBuffer

section

variable [External] {config : TelemetryProcessorConfig} {p : Processing InvocationProcessingState}

/-- Until telemetry comes there is nothing to log, and the spans of the function are processed without
the random generator. -/
theorem processFunctionSpans_beforeTelemetry (hstart : p.state.startData = none)
    (hlogs : p.state.logs = []) (spans : List ResourceSpans) :
    let p' := processFunctionSpans config spans p
    p'.state.startData = none ∧ p'.state.logs = [] ∧
      PutsOutFunctionSpans p.outputBuffers p'.outputBuffers ∧
      ∀ rng, processFunctionSpans config spans { p with rng } = { p' with rng } := by
  have forward (q : Processing InvocationProcessingState) (rss : List ResourceSpans) :
      (forwardSpans config rss q).state = q.state ∧
        PutsOutFunctionSpans q.outputBuffers (forwardSpans config rss q).outputBuffers ∧
        ∀ rng, forwardSpans config rss { q with rng } = { forwardSpans config rss q with rng } := by
    unfold forwardSpans
    dsimp only
    split
    · refine ⟨rfl, ⟨?_, ?_, ?_⟩, fun _ => rfl⟩
      · exact OutputBuffers.addFunctionResourceSpans_logsBuffer _ _
      · exact OutputBuffers.addFunctionResourceSpans_spansBuffer _ _
      · have added := @PutsOut.addFunctionResourceSpans config q.outputBuffers rss
        exact added.epsagonTraces.trans (List.append_nil _)
    · exact ⟨rfl, ⟨rfl, rfl, rfl⟩, fun _ => rfl⟩
  have emit (q : Processing InvocationProcessingState) (hstart : q.state.startData = none)
      (hlogs : q.state.logs = []) :
      (emitLogsOfEarlySpan config q).state.startData = none ∧
        (emitLogsOfEarlySpan config q).state.logs = [] ∧
        (emitLogsOfEarlySpan config q).outputBuffers = q.outputBuffers ∧
        ∀ rng, emitLogsOfEarlySpan config { q with rng } =
          { emitLogsOfEarlySpan config q with rng } := by
    unfold emitLogsOfEarlySpan processDelayedLogs takeLogs
    dsimp only
    rw [hstart, hlogs]
    split
    · exact ⟨rfl, rfl, rfl, fun _ => rfl⟩
    · exact ⟨hstart, hlogs, rfl, fun _ => rfl⟩
  let tracing := processFunctionSpansTracing config p.state.tracingState spans
  let q : Processing InvocationProcessingState :=
    { p with state := { p.state with tracingState := tracing.1 } }
  obtain ⟨hstate, hput, hforward⟩ := forward q tracing.2
  obtain ⟨hstart', hlogs', hout, hemit⟩ := emit (forwardSpans config tracing.2 q)
    (by rw [hstate]; exact hstart) (by rw [hstate]; exact hlogs)
  refine ⟨hstart', hlogs', ?_, ?_⟩
  · rw [← hout] at hput
    exact hput
  · intro rng
    have step : processFunctionSpans config spans { p with rng } =
        emitLogsOfEarlySpan config (forwardSpans config tracing.2 { q with rng }) := rfl
    rw [step, hforward, hemit]
    rfl

/-- The spans of the function are processed without the random generator. -/
theorem processFunctionSpans_rng (spans : List ResourceSpans) :
    (processFunctionSpans config spans p).rng = p.rng := by
  have take (q : Processing InvocationProcessingState) : (takeLogs config q).rng = q.rng := by
    have push (logs : List RawFunctionLog) (q : Processing InvocationProcessingState) :
        (pushFunctionLogs config logs q).rng = q.rng := by
      induction logs generalizing q with
      | nil => rfl
      | cons log logs ih => exact ih _
    exact push _ _
  have forward (q : Processing InvocationProcessingState) (rss : List ResourceSpans) :
      (forwardSpans config rss q).rng = q.rng := by
    unfold forwardSpans
    split <;> rfl
  have emit (q : Processing InvocationProcessingState) :
      (emitLogsOfEarlySpan config q).rng = q.rng := by
    unfold emitLogsOfEarlySpan processDelayedLogs
    split
    · dsimp only
      split
      · split <;> exact take _
      · exact take _
    · rfl
  exact (emit _).trans (forward _ _)

/-- A run without telemetry. -/
theorem run_beforeTelemetry {inputs : List InvocationInput}
    {p' : Processing InvocationProcessingState} (hstart : p.state.startData = none)
    (hlogs : p.state.logs = []) (hnone : telemetryOf inputs = [])
    (hrun : run (inputStep config) p inputs = some p') :
    PutsOutFunctionSpans p.outputBuffers p'.outputBuffers ∧
      ∀ rng, run (inputStep config) { p with rng } inputs = some { p' with rng } := by
  induction inputs generalizing p with
  | nil =>
    cases hrun
    exact ⟨⟨rfl, rfl, rfl⟩, fun _ => rfl⟩
  | cons input inputs ih =>
    obtain ⟨p₁, hp₁, hrest⟩ := run_cons.1 hrun
    cases input with
    | telemetry event => cases hnone
    | functionSpans spans =>
      obtain ⟨hstart₁, hlogs₁, hput₁, hrng₁⟩ :=
        processFunctionSpans_beforeTelemetry hstart hlogs spans
      rw [← inputStep_functionSpans hp₁] at hstart₁ hlogs₁ hput₁ hrng₁
      obtain ⟨hput, hrng⟩ := ih hstart₁ hlogs₁ hnone hrest
      refine ⟨⟨?_, ?_, ?_⟩, fun rng => run_cons.2 ⟨_, congrArg some (hrng₁ rng), hrng rng⟩⟩
      · rw [hput.logs, hput₁.logs]
      · rw [hput.spans, hput₁.spans]
      · rw [hput.traces, hput₁.traces]

section

variable {e : InvokeEvent} {functionContext : FunctionContext} {rng : Rng}
  {state : InvocationProcessingState}

/-- A new state has no telemetry. -/
theorem MadeFor.beforeTelemetry (h : MadeFor config e functionContext rng state) :
    state.startData = none ∧ state.logs = [] := by
  obtain ⟨context, rng', -, hstate⟩ := h
  rw [hstate]
  exact ⟨rfl, rfl⟩

theorem MadeFor.isFresh (h : MadeFor config e functionContext rng state) : IsFresh config state := by
  obtain ⟨context, rng', -, hstate⟩ := h
  exact ⟨_, _, _, _, hstate⟩

end

end

/-! ## A session -/

section

variable [External]

/-- One event of two sessions that are alike. -/
theorem degradedStep_alike {config : TelemetryProcessorConfig} {a b : OutputBuffers}
    {p p' q : Processing DegradedProcessingState} {event : LambdaTelemetry} (h : Alike a b p q)
    (hp : processTelemetryInDegradedMode config event p = .ok p') :
    ∃ q', degradedStep config q event = some q' ∧ Alike a b p' q' := by
  unfold degradedStep
  unfold processTelemetryInDegradedMode at hp ⊢
  cases htime : eventTimestamp event with
  | error e =>
    rw [htime] at hp
    cases hp
  | ok time =>
    rw [htime] at hp
    cases hp
    exact ⟨_, rfl, processRecordInDegradedMode_alike config h time event.record⟩

/-- A session puts out no span of the function. -/
theorem run_degraded_functionSpansBuffer {config : TelemetryProcessorConfig}
    {events : List LambdaTelemetry} {p p' : Processing DegradedProcessingState}
    (hrun : run (degradedStep config) p events = some p') :
    p'.outputBuffers.functionSpansBuffer = p.outputBuffers.functionSpansBuffer := by
  induction events generalizing p with
  | nil =>
    cases hrun
    rfl
  | cons event events ih =>
    obtain ⟨p₁, hp₁, hrest⟩ := run_cons.1 hrun
    rw [ih hrest]
    unfold degradedStep at hp₁
    cases hprocess : processTelemetryInDegradedMode config event p with
    | error e =>
      rw [hprocess] at hp₁
      cases hp₁
    | ok q =>
      rw [hprocess] at hp₁
      cases hp₁
      rw [processTelemetryInDegradedMode_ok hprocess]
      exact (processRecordInDegradedMode_spans event).1

/-- What the loop of `process_in_degraded_mode` does is a session of its own: some first events are
processed, all of them unless one fails. -/
theorem processInDegradedModeLoop_session {config : TelemetryServiceConfig}
    (state : DegradedProcessingState) (events : List LambdaTelemetry) (s : TelemetryServiceState) :
    ∃ (done : List LambdaTelemetry) (calls : List ProcessorCall) (m : PlatformMetricsState)
      (out : OutputBuffers) (rng : Rng),
      (processInDegradedModeLoop config state s events).1 =
        { s with
          metricsState := m
          outputBuffers := out
          rng
          trace := s.trace ++ (done.map .degraded ++ calls) } ∧
      (calls = [] ∨ ∃ bad, calls = [.failed bad]) ∧
      ∀ q : Processing DegradedProcessingState, q.state = state → q.rng = s.rng →
        ∃ final, run (degradedStep config.processorConfig) q done = some final ∧
          final.rng = rng ∧ ∃ put, out = s.outputBuffers ++ put ∧
            final.outputBuffers = q.outputBuffers ++ put := by
  induction events generalizing state s with
  | nil =>
    refine ⟨[], [], s.metricsState, s.outputBuffers, s.rng, ?_, .inl rfl, ?_⟩
    · simp [processInDegradedModeLoop]
    · intro q hstate hrng
      exact ⟨q, rfl, hrng, {}, (OutputBuffers.append_nil _).symm, (OutputBuffers.append_nil _).symm⟩
  | cons event events ih =>
    let p : Processing DegradedProcessingState := ⟨state, s.metricsState, s.outputBuffers, s.rng⟩
    cases hp : processTelemetryInDegradedMode config.processorConfig event p with
    | error e =>
      refine ⟨[], [.failed event], s.metricsState, s.outputBuffers, s.rng, ?_,
        .inr ⟨event, rfl⟩, ?_⟩
      · unfold processInDegradedModeLoop
        rw [hp]
        rfl
      · intro q hstate hrng
        exact ⟨q, rfl, hrng, {}, (OutputBuffers.append_nil _).symm,
          (OutputBuffers.append_nil _).symm⟩
    | ok p' =>
      let s' : TelemetryServiceState :=
        { s with
          metricsState := p'.metricsState
          outputBuffers := p'.outputBuffers
          rng := p'.rng
          trace := s.trace ++ [.degraded event] }
      obtain ⟨done, calls, m, out, rng, hloop, hcalls, hsession⟩ := ih p'.state s'
      refine ⟨event :: done, calls, m, out, rng, ?_, hcalls, ?_⟩
      · unfold processInDegradedModeLoop
        rw [hp]
        dsimp only
        rw [hloop]
        simp [s']
      · intro q hstate hrng
        have alike : Alike p.outputBuffers q.outputBuffers p q := .start hstate hrng
        obtain ⟨q', hq', alike'⟩ := degradedStep_alike alike hp
        obtain ⟨final, hfinal, hrng', put, hout, hput⟩ := hsession q' alike'.state alike'.rng
        obtain ⟨first, hfirst, hfirst'⟩ := alike'.output
        refine ⟨final, run_cons.2 ⟨q', hq', hfinal⟩, hrng', first ++ put, ?_, ?_⟩
        · rw [hout, ← OutputBuffers.append_assoc, ← hfirst]
        · rw [hput, hfirst', OutputBuffers.append_assoc]

end

end TelemetryExporter
