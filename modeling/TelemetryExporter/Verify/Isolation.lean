import TelemetryExporter.Verify.Episodes
import TelemetryExporter.Verify.Stages

/-!
# Isolation

The service processes the telemetry of many invocations, and events that it knows no invocation for,
with one set of output buffers, one random generator and one set of metrics. Nevertheless it puts
out what each of them puts out on its own: the outputs are those of a list of `Episode`s, one after
the other.
-/

namespace TelemetryExporter

open Machine

/-! ## The invariant -/

/-- The episode of the current invocation, if there is one: it has reached the state of the
invocation and that of the random generator, and has no telemetry before init has been handled. -/
inductive IsCurrent (rng : Rng) (initHandled : Bool) :
    Option InvocationProcessingState → List Episode → Prop where
  | none : IsCurrent rng initHandled none []
  | some (start : Processing InvocationProcessingState) (inputs : List InvocationInput)
      (final : Processing InvocationProcessingState) (hrng : final.rng = rng)
      (hserial : final.state.serial = start.state.serial)
      (hwaiting : initHandled = false → telemetryOf inputs = []) :
    IsCurrent rng initHandled (some final.state) [.invocation start inputs final]

section

variable [External]

/-- What has been taken for batches and what is buffered is what the episodes have put out: those
that are over, and that of the current invocation. -/
structure Isolates (config : TelemetryServiceConfig)
    (invokes : List (InvokeEvent × FunctionContext)) (taken : OutputBuffers)
    (o : Option InvocationProcessingState) (s : TelemetryServiceState)
    (closed current : List Episode) : Prop where
  phase : InPhase s
  queued : Queued invokes s
  alone : ∀ episode ∈ closed ++ current, episode.Alone config.processorConfig invokes
  output : taken ++ s.outputBuffers.signals = outputs (closed ++ current)
  isCurrent : IsCurrent s.rng s.initHandled o current
  trace : TraceOf (closed ++ current) s.trace

/-- There are such episodes. -/
def HasIsolation (config : TelemetryServiceConfig)
    (invokes : List (InvokeEvent × FunctionContext)) (taken : OutputBuffers)
    (o : Option InvocationProcessingState) (s : TelemetryServiceState) : Prop :=
  ∃ closed current, Isolates config invokes taken o s closed current

/-- What the invariant needs of two states: all but the phase, the queue and the trace stay. -/
structure SameProgress (s s' : TelemetryServiceState) : Prop where
  output : s'.outputBuffers.signals = s.outputBuffers.signals
  rng : s'.rng = s.rng
  handled : s.initHandled = true → s'.initHandled = true

variable {config : TelemetryServiceConfig} {invokes : List (InvokeEvent × FunctionContext)}
  {taken : OutputBuffers} {o : Option InvocationProcessingState} {s s' : TelemetryServiceState}
  {closed current : List Episode}

omit [External] in
theorem IsCurrent.congr (h : IsCurrent s.rng s.initHandled o current) (hsame : SameProgress s s') :
    IsCurrent s'.rng s'.initHandled o current := by
  rw [hsame.rng]
  cases h with
  | none => exact .none
  | some start inputs final hrng hserial hwaiting =>
    refine .some start inputs final hrng hserial fun hinit => hwaiting ?_
    cases hhandled : s.initHandled with
    | false => rfl
    | true =>
      rw [hsame.handled hhandled] at hinit
      cases hinit

namespace Isolates

theorem congr (h : Isolates config invokes taken o s closed current) (hsame : SameProgress s s')
    (hphase : InPhase s') (hqueued : Queued invokes s') (htrace : s'.trace = s.trace) :
    Isolates config invokes taken o s' closed current := by
  refine ⟨hphase, hqueued, h.alone, ?_, h.isCurrent.congr hsame, ?_⟩
  · rw [hsame.output]
    exact h.output
  · rw [htrace]
    exact h.trace

/-- A call that is none of an episode. -/
theorem skip (h : Isolates config invokes taken o s closed current) (hsame : SameProgress s s')
    (hphase : InPhase s') (hqueued : Queued invokes s') {call : ProcessorCall}
    (hinput : ∀ serial, call.inputFor serial = none) (hcreates : call.creates = none)
    (hevent : call.degradedEvent = none) (htrace : s'.trace = s.trace ++ [call]) :
    Isolates config invokes taken o s' closed current := by
  refine ⟨hphase, hqueued, h.alone, ?_, h.isCurrent.congr hsame, ?_⟩
  · rw [hsame.output]
    exact h.output
  · rw [htrace]
    exact h.trace.skip hinput hcreates hevent

/-- The current invocation is over. -/
theorem close (h : Isolates config invokes taken o s closed current) :
    Isolates config invokes taken none s (closed ++ current) [] := by
  refine ⟨h.phase, h.queued, ?_, ?_, .none, ?_⟩
  · rw [List.append_nil]
    exact h.alone
  · rw [List.append_nil]
    exact h.output
  · rw [List.append_nil]
    exact h.trace

end Isolates

/-! ### The current invocation goes on -/

theorem inputStep_same {config : TelemetryProcessorConfig}
    {p p' : Processing InvocationProcessingState} {input : InvocationInput}
    (h : inputStep config p input = some p') : SameInvocation p.state p'.state := by
  cases input with
  | functionSpans spans =>
    rw [inputStep_functionSpans h]
    exact (processFunctionSpans_keeps spans).same
  | telemetry event =>
    rw [inputStep_telemetry h]
    exact (processRecord_advances event).same

/-- The current invocation processes an input. -/
theorem Isolates.input {state : InvocationProcessingState}
    (h : Isolates config invokes taken (some state) s closed current) (input : InvocationInput)
    (p' : Processing InvocationProcessingState)
    (hstep : inputStep config.processorConfig ⟨state, s.metricsState, s.outputBuffers, s.rng⟩ input =
      some p')
    (hout : s'.outputBuffers = p'.outputBuffers) (hrng : s'.rng = p'.rng)
    (hhandled : s'.initHandled = s.initHandled)
    (hwaiting : s.initHandled = false → input.event? = none)
    (htrace : s'.trace = s.trace ++ [input.call state.serial]) (hphase : InPhase s')
    (hqueued : Queued invokes s') :
    HasIsolation config invokes taken (some p'.state) s' := by
  obtain ⟨-, -, halone, houtput, hcurrent, htraceOf⟩ := h
  cases hcurrent with
  | some start inputs final hrngCurrent hserial hwaitingCurrent =>
    have alike : Alike s.outputBuffers final.outputBuffers
        ⟨final.state, s.metricsState, s.outputBuffers, s.rng⟩ final :=
      @Alike.start _ ⟨final.state, s.metricsState, s.outputBuffers, s.rng⟩ final rfl hrngCurrent
    obtain ⟨final', hfinal', hstate', hrng', put, hput, hput'⟩ := inputStep_alike _ alike hstep
    have hserial' : final'.state.serial = start.state.serial := by
      rw [(inputStep_same hfinal').serial, hserial]
    refine ⟨closed, [.invocation start (inputs ++ [input]) final'], hphase, hqueued, ?_, ?_, ?_, ?_⟩
    · intro episode hepisode
      rcases List.mem_append.1 hepisode with hclosed | hlast
      · exact halone episode (List.mem_append_left _ hclosed)
      · obtain ⟨hmade, hstart, hrun⟩ :=
          halone _ (List.mem_append_right closed List.mem_cons_self)
        rw [List.mem_singleton.1 hlast]
        exact ⟨hmade, hstart, run_snoc.2 ⟨final, hrun, hfinal'⟩⟩
    · rw [outputs_append, outputs_singleton] at houtput ⊢
      rw [hout, hput, signals_append, ← OutputBuffers.append_assoc, houtput,
        OutputBuffers.append_assoc, Episode.output, Episode.output, hput', signals_append]
    · rw [hhandled, ← hstate']
      refine .some start (inputs ++ [input]) final' (hrng'.trans hrng.symm) hserial' ?_
      intro hinit
      rw [telemetryOf_append, hwaitingCurrent hinit, telemetryOf, List.nil_append,
        List.filterMap_cons_none (hwaiting hinit)]
      rfl
    · rw [htrace, hserial]
      exact htraceOf.input input

/-- Spans of the function for the current invocation. -/
theorem Isolates.functionSpans {state : InvocationProcessingState}
    (h : Isolates config invokes taken (some state) s closed current) (spans : List ResourceSpans) :
    HasIsolation config invokes taken (some (callProcessFunctionSpans config spans state s).1)
      (callProcessFunctionSpans config spans state s).2 := by
  let p : Processing InvocationProcessingState := ⟨state, s.metricsState, s.outputBuffers, s.rng⟩
  refine h.input (.functionSpans spans) (processFunctionSpans config.processorConfig spans p) rfl rfl
    ?_ rfl (fun _ => rfl) rfl h.phase (h.queued.congr rfl rfl)
  exact (@processFunctionSpans_rng _ config.processorConfig p spans).symm

/-- An event of the current invocation. -/
theorem Isolates.telemetry {state : InvocationProcessingState}
    (h : Isolates config invokes taken (some state) s closed current)
    (hs : s.invocationState = some state) (hinit : s.initHandled = true) (event : LambdaTelemetry) :
    HasIsolation config invokes taken (callProcessTelemetry config event state s).1.invocationState
      (callProcessTelemetry config event state s).1 := by
  unfold callProcessTelemetry
  split
  · next e hprocess =>
    dsimp only
    rw [hs]
    exact ⟨closed, current, h.skip ⟨rfl, rfl, id⟩ h.phase (h.queued.congr rfl rfl)
      (fun _ => rfl) rfl rfl rfl⟩
  · next p' hprocess =>
    refine h.input (.telemetry event) p' ?_ rfl rfl rfl ?_ rfl h.phase
      (h.queued.congr rfl rfl)
    · exact congrArg Except.toOption hprocess
    · intro hwaiting
      rw [hinit] at hwaiting
      cases hwaiting

/-! ### The next invocation -/

/-- The next invoke event leaves the queue, and its invocation becomes the current one. -/
theorem Isolates.create (h : Isolates config invokes taken none s closed current)
    {q : InvokeEventDataWithSpans} {queue : List InvokeEventDataWithSpans}
    (hqueue : s.invokeEventQueue = q :: queue) {context : InvocationContext} {rng : Rng}
    (hcontext : InvocationContext.tryFrom q s.rng = (.ok context, rng)) :
    let new := InvocationProcessingState.new q.serial q.functionContext context
      config.processorConfig.traceSamplingMode config.processorConfig.tracingMode rng
    HasIsolation config invokes taken (some new.1)
      { s with
        invokeEventQueue := queue
        functionSpansBuffer := []
        rng := new.2
        trace := s.trace ++ [.created q.serial] } := by
  intro new
  obtain ⟨hphase, hqueued, halone, houtput, hcurrent, htrace⟩ := h
  cases hcurrent with
  | none =>
    rw [List.append_nil] at halone houtput htrace
    let start : Processing InvocationProcessingState := ⟨new.1, .disabled, {}, new.2⟩
    refine ⟨closed, [.invocation start [] start], hphase, hqueued.take hqueue rfl rfl, ?_, ?_, ?_, ?_⟩
    · intro episode hepisode
      rcases List.mem_append.1 hepisode with hclosed | hlast
      · exact halone episode hclosed
      · rw [List.mem_singleton.1 hlast]
        have hq : q ∈ s.invokeEventQueue := by
          rw [hqueue]
          exact List.mem_cons_self
        obtain ⟨e, functionContext, spans, he, hdata⟩ := hqueued.queue q hq
        exact ⟨⟨e, functionContext, s.rng, he, madeFor_of_queued hdata hcontext⟩, rfl, rfl⟩
    · rw [outputs_append, outputs_singleton, ← houtput]
      exact (OutputBuffers.append_nil _).symm
    · exact .some start [] start rfl rfl fun _ => rfl
    · exact htrace.create start

/-- There are no events, no invocation, or the next one. -/
theorem HasIsolation.acquired (h : HasIsolation config invokes taken s.invocationState s) :
    HasIsolation config invokes taken (acquireInvocation config s).1.invocationState
      (acquireInvocation config s).1 := by
  unfold acquireInvocation
  split
  · exact h
  · next hnone =>
    rw [hnone] at h
    obtain ⟨closed, current, h⟩ := h
    split
    · dsimp only
      rw [hnone]
      exact ⟨closed, current, h⟩
    · next q queue hqueue =>
      dsimp only
      split
      · next e rng hcontext =>
        dsimp only
        rw [hnone]
        obtain ⟨hphase, hqueued, halone, houtput, hcurrent, htrace⟩ := h
        cases hcurrent with
        | none =>
          exact ⟨closed, [], hphase, hqueued.take hqueue rfl rfl, halone, houtput, .none,
            htrace.skip (fun _ => rfl) rfl rfl⟩
      · next context rng hcontext =>
        obtain ⟨closed, current, created⟩ := h.create hqueue hcontext
        obtain ⟨closed, current, first⟩ := created.functionSpans s.functionSpansBuffer
        obtain ⟨closed, current, second⟩ := first.functionSpans q.spans
        exact ⟨closed, current, second.phase, second.queued.congr rfl rfl,
          second.alone, second.output, second.isCurrent, second.trace⟩

/-! ### A session -/

omit [External] in
/-- What puts out spans of the function only, and what puts out none, commute. -/
theorem signals_comm {a b : OutputBuffers} (ha : PutsOutFunctionSpans {} a)
    (hb : b.functionSpansBuffer = []) : a.signals ++ b.signals = b.signals ++ a.signals := by
  obtain ⟨hlogs, hspans, htraces⟩ := ha
  simp [OutputBuffers.append_def, OutputBuffers.append, OutputBuffers.signals, hlogs, hspans, htraces,
    hb]

/-- A session of degraded processing, which the current invocation does not notice as long as it has
no telemetry. -/
theorem Isolates.session (h : Isolates config invokes taken o s closed current)
    (hwaiting : o.isSome = true → s.initHandled = false) (functionContext : FunctionContext)
    (events : List LambdaTelemetry) :
    HasIsolation config invokes taken o (processInDegradedMode config functionContext events s).1 := by
  let new := DegradedProcessingState.new functionContext s.rng
  let start : Processing DegradedProcessingState := ⟨new.1, .disabled, {}, new.2⟩
  obtain ⟨done, calls, m, out, rng, hloop, hcalls, hsession⟩ :=
    @processInDegradedModeLoop_session _ config new.1 events { s with rng := new.2 }
  obtain ⟨final, hrun, hrng, put, hout, hput⟩ := hsession start rfl rfl
  have hput : final.outputBuffers = put := hput.trans (OutputBuffers.nil_append put)
  have hnone : put.functionSpansBuffer = [] := by
    rw [← hput]
    exact run_degraded_functionSpansBuffer hrun
  have heq : (processInDegradedMode config functionContext events s).1 =
      { s with
        metricsState := m
        outputBuffers := out
        rng
        trace := s.trace ++ (done.map .degraded ++ calls) } := hloop
  have sessionAlone : (Episode.session start done final).Alone config.processorConfig invokes :=
    ⟨⟨functionContext, s.rng, rfl⟩, rfl, hrun⟩
  obtain ⟨hphase, hqueued, halone, houtput, hcurrent, htrace⟩ := h
  rw [heq]
  cases hcurrent with
  | none =>
    rw [List.append_nil] at halone houtput
    refine ⟨closed ++ [.session start done final], [], hphase, hqueued.congr rfl rfl, ?_,
      ?_, .none, htrace.session rfl start final done hcalls⟩
    · intro episode hepisode
      rw [List.append_nil] at hepisode
      rcases List.mem_append.1 hepisode with hclosed | hlast
      · exact halone episode hclosed
      · rw [List.mem_singleton.1 hlast]
        exact sessionAlone
    · dsimp only
      rw [List.append_nil, outputs_append, outputs_singleton, Episode.output, hput, hout,
        signals_append, ← OutputBuffers.append_assoc, houtput]
  | some current inputs final' hrng' hserial hwaitingCurrent =>
    obtain ⟨hmade, hstart, hrun'⟩ := halone _ (List.mem_append_right closed List.mem_cons_self)
    obtain ⟨e, functionContext', rng', he, hmade'⟩ := hmade
    have htelemetry : telemetryOf inputs = [] := hwaitingCurrent (hwaiting rfl)
    obtain ⟨hputs, hrngs⟩ :=
      run_beforeTelemetry hmade'.beforeTelemetry.1 hmade'.beforeTelemetry.2 htelemetry hrun'
    rw [hstart] at hputs
    refine ⟨closed ++ [.session start done final],
      [.invocation { current with rng } inputs { final' with rng }], hphase,
      hqueued.congr rfl rfl, ?_, ?_, ?_, ?_⟩
    · intro episode hepisode
      rcases List.mem_append.1 hepisode with hclosed | hlast
      · rcases List.mem_append.1 hclosed with hclosed | hsession
        · exact halone episode (List.mem_append_left _ hclosed)
        · rw [List.mem_singleton.1 hsession]
          exact sessionAlone
      · rw [List.mem_singleton.1 hlast]
        exact ⟨⟨e, functionContext', rng', he, hmade'⟩, hstart, hrngs rng⟩
    · rw [outputs_append, outputs_singleton] at houtput
      have hcomm := signals_comm hputs hnone
      dsimp only
      rw [outputs_append, outputs_append, outputs_singleton, outputs_singleton, hout, signals_append,
        ← OutputBuffers.append_assoc, houtput, OutputBuffers.append_assoc, OutputBuffers.append_assoc]
      exact congrArg (outputs closed ++ ·) (by rw [Episode.output, hcomm, ← hput]; rfl)
    · exact .some _ inputs { final' with rng } rfl hserial fun _ => htelemetry
    · have replaced := @TraceOf.replace _ _ current { current with rng } final' { final' with rng } inputs
        htrace rfl
      exact replaced.session rfl start final done hcalls

/-! ### The loop -/

/-- Every stage of `process_telemetry_events`. -/
theorem HasIsolation.stage (h : HasIsolation config invokes taken s.invocationState s)
    (hstage : Stage config s s') : HasIsolation config invokes taken s'.invocationState s' := by
  cases hstage with
  | acquired => exact h.acquired
  | telemetry event state hs hinit =>
    rw [hs] at h
    obtain ⟨closed, current, h⟩ := h
    exact h.telemetry hs hinit event
  | session functionContext events hinit =>
    obtain ⟨closed, current, h⟩ := h
    have hstate : (processInDegradedMode config functionContext events s).1.invocationState =
        s.invocationState := by
      obtain ⟨done, calls, m, out, rng, hloop, -⟩ := @processInDegradedModeLoop_session _ config
        (DegradedProcessingState.new functionContext s.rng).1 events
        { s with rng := (DegradedProcessingState.new functionContext s.rng).2 }
      exact congrArg (·.invocationState) hloop
    rw [hstate]
    exact h.session (fun _ => hinit) functionContext events
  | moved half queue started handled hphase hhandled =>
    obtain ⟨closed, current, h⟩ := h
    exact ⟨closed, current, h.congr ⟨rfl, rfl, hhandled⟩ hphase
      (h.queued.congr rfl rfl) rfl⟩
  | concluded state hs hreport =>
    obtain ⟨closed, current, h⟩ := h
    exact ⟨closed ++ current, [], h.close.skip ⟨rfl, rfl, id⟩ h.phase
      (h.queued.congr rfl rfl) (fun _ => rfl) rfl rfl rfl⟩

theorem HasIsolation.processQueues (h : HasIsolation config invokes taken s.invocationState s) :
    HasIsolation config invokes taken (processQueues config s).invocationState
      (processQueues config s) :=
  processQueues_stages
    (P := fun s => HasIsolation config invokes taken s.invocationState s) (fun _ _ h => h.stage)
    (fun _ h => h.choose_spec.choose_spec.phase) h

end

end TelemetryExporter
