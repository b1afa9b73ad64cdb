import TelemetryExporter.Verify.Correlation
import TelemetryExporter.Verify.LogOrder
import TelemetryExporter.Verify.StreamOutput

/-!
# The order of the logs over all runs

In a well-formed section the logs come out in turn: the start comes first but for the events of the
init phase, and the end of the runtime, which ends the delay, before the report. So the timestamps of
what the batches have of an invocation bring back the order of its events.
-/

namespace TelemetryExporter

open Machine

/-! ## Sections -/

/-- The events of a section: those of the request at its position, in the first one after those of
the init phase. -/
theorem TelemetryStream.ownedBy_eq (stream : TelemetryStream) (k : Nat) :
    stream.ownedBy k = (if k = 0 then stream.init else []) ++
      (stream.requests[k]?.map RequestTelemetry.events).getD [] := by
  have hrequests := Sections.numbered_zipIdx RequestTelemetry.events k 0 stream.requests
  rw [Nat.zero_add] at hrequests
  unfold ownedBy owned
  rw [Sections.numbered_append, Sections.numbered_same, ← hrequests]
  congr 1
  split
  · next h => rw [if_pos h.symm]
  · next h => rw [if_neg fun heq => h heq.symm]

theorem LambdaTelemetry.isStart_eq_false {e : LambdaTelemetry} (h : e.requestId = none) :
    e.isStart = false := by
  unfold LambdaTelemetry.requestId at h
  unfold LambdaTelemetry.isStart
  cases hrecord : e.record with
  | platformStart =>
    rw [hrecord] at h
    cases h
  | _ => rfl

theorem LambdaTelemetry.isStart_of_isStartOf {e : LambdaTelemetry} {id : String}
    (h : e.isStartOf id = true) : e.isStart = true := by
  unfold LambdaTelemetry.isStartOf at h
  unfold LambdaTelemetry.isStart
  cases hrecord : e.record with
  | platformStart => rfl
  | _ =>
    rw [hrecord] at h
    cases h

theorem TelemetryStream.init_not_start (stream : TelemetryStream) :
    ∀ e ∈ stream.init, e.isStart = false := by
  intro e he
  rcases List.mem_cons.1 he with rfl | he
  · have hinit := stream.isInitStart
    unfold LambdaTelemetry.isInitStart at hinit
    unfold LambdaTelemetry.isStart
    cases hrecord : stream.initStart.record with
    | platformStart =>
      rw [hrecord] at hinit
      cases hinit
    | _ => rfl
  · exact LambdaTelemetry.isStart_eq_false (LambdaTelemetry.isPlain_iff.1 (stream.isPlain e he)).2

namespace RequestTelemetry

variable (request : RequestTelemetry)

/-- The events after the start. -/
def afterStart : List LambdaTelemetry :=
  request.logs ++ request.runtimeDone :: (request.laterLogs ++ [request.report])

theorem events_eq : request.events = request.start :: request.afterStart := by
  simp [events, body, afterStart]

theorem afterStart_not_start : ∀ e ∈ request.afterStart, e.isStart = false := by
  intro e he
  have plain (he : e ∈ request.logs ++ request.laterLogs) : e.isStart = false :=
    LambdaTelemetry.isStart_eq_false (LambdaTelemetry.isPlain_iff.1 (request.isPlain e he)).2
  simp only [afterStart, List.mem_cons, List.mem_append, List.not_mem_nil, or_false] at he
  rcases he with he | rfl | he | rfl
  · exact plain (List.mem_append_left _ he)
  · have hdone := request.isRuntimeDone.1
    unfold LambdaTelemetry.isRuntimeDone at hdone
    unfold LambdaTelemetry.isStart
    cases hrecord : request.runtimeDone.record with
    | platformStart =>
      rw [hrecord] at hdone
      cases hdone
    | _ => rfl
  · exact plain (List.mem_append_right _ he)
  · have hreport := request.isReport.1
    unfold LambdaTelemetry.isReport at hreport
    unfold LambdaTelemetry.isStart
    cases hrecord : request.report.record with
    | platformStart =>
      rw [hrecord] at hreport
      cases hreport
    | _ => rfl

end RequestTelemetry

section

variable {stream : TelemetryStream} {k : Nat} {before after : List LambdaTelemetry}
  {event : LambdaTelemetry}

/-- The start is the first event of its request, and comes after those of the init phase. -/
theorem before_start (h : before ++ event :: after = stream.ownedBy k) (hstart : event.isStart = true) :
    before = (if k = 0 then stream.init else []) ∧
      ∃ request, stream.requests[k]? = some request ∧ event = request.start := by
  rw [stream.ownedBy_eq] at h
  have hinit : ∀ e ∈ (if k = 0 then stream.init else []), e.isStart = false := by
    intro e he
    split at he
    · exact stream.init_not_start e he
    · cases he
  cases hrequest : stream.requests[k]? with
  | none =>
    rw [hrequest] at h
    have hmem : event ∈ (if k = 0 then stream.init else []) := by
      have hmem : event ∈ before ++ event :: after := List.mem_append_right _ List.mem_cons_self
      rw [h] at hmem
      exact (List.mem_append.1 hmem).resolve_right List.not_mem_nil
    rw [hinit event hmem] at hstart
    cases hstart
  | some request =>
    rw [hrequest, Option.map_some, Option.getD_some, request.events_eq] at h
    obtain ⟨hbefore, hevent, -⟩ :=
      List.append_cons_inj_of_unique hinit request.afterStart_not_start hstart h
    exact ⟨hbefore, request, rfl, hevent⟩

/-- Before the report comes the end of the runtime. -/
theorem runtimeDone_before_report (h : before ++ event :: after = stream.ownedBy k)
    (hreport : event.isReport = true) : ∃ e ∈ before, e.isRuntimeDone = true := by
  rw [stream.ownedBy_eq] at h
  have hinit : ∀ e ∈ (if k = 0 then stream.init else []), e.isReport = false := by
    intro e he
    split at he
    · exact stream.init_not_report e he
    · cases he
  cases hrequest : stream.requests[k]? with
  | none =>
    rw [hrequest] at h
    have hmem : event ∈ (if k = 0 then stream.init else []) := by
      have hmem : event ∈ before ++ event :: after := List.mem_append_right _ List.mem_cons_self
      rw [h] at hmem
      exact (List.mem_append.1 hmem).resolve_right List.not_mem_nil
    rw [hinit event hmem] at hreport
    cases hreport
  | some request =>
    rw [hrequest, Option.map_some, Option.getD_some, RequestTelemetry.events, ← List.append_assoc] at h
    have hbody : ∀ e ∈ (if k = 0 then stream.init else []) ++ request.body, e.isReport = false := by
      intro e he
      rcases List.mem_append.1 he with he | he
      · exact hinit e he
      · exact request.body_not_report e he
    obtain ⟨hbefore, -, -⟩ :=
      List.append_cons_inj_of_unique hbody (fun e he => by cases he) hreport h
    refine ⟨request.runtimeDone, ?_, request.isRuntimeDone.1⟩
    rw [hbefore]
    simp [RequestTelemetry.body]

/-- A request has one start. -/
theorem TelemetryStream.countP_isStart_ownedBy {request : RequestTelemetry}
    (h : stream.requests[k]? = some request) :
    (stream.ownedBy k).countP LambdaTelemetry.isStart = 1 := by
  have hinit : (if k = 0 then stream.init else []).countP LambdaTelemetry.isStart = 0 := by
    apply List.countP_eq_zero.2
    intro e he
    split at he
    · rw [stream.init_not_start e he]
      exact Bool.false_ne_true
    · cases he
  have hafter : request.afterStart.countP LambdaTelemetry.isStart = 0 := by
    apply List.countP_eq_zero.2
    intro e he
    rw [request.afterStart_not_start e he]
    exact Bool.false_ne_true
  rw [stream.ownedBy_eq, h, Option.map_some, Option.getD_some, request.events_eq, List.countP_append,
    hinit, List.countP_cons_of_pos (LambdaTelemetry.isStart_of_isStartOf request.isStart), hafter]

/-- A request has an end of the runtime. -/
theorem TelemetryStream.runtimeDone_mem_ownedBy {request : RequestTelemetry}
    (h : stream.requests[k]? = some request) :
    ∃ e ∈ stream.ownedBy k, e.isRuntimeDone = true := by
  refine ⟨request.runtimeDone, ?_, request.isRuntimeDone.1⟩
  rw [stream.ownedBy_eq, h, Option.map_some, Option.getD_some]
  apply List.mem_append_right
  simp [RequestTelemetry.events, RequestTelemetry.body]

end

/-! ## The state at an event -/

section

variable [External] {config : TelemetryProcessorConfig} {inputs : List InvocationInput}
  {p p' : Processing InvocationProcessingState}

/-- Without a report there is no data of one. -/
theorem run_reportData (hrun : run (inputStep config) p inputs = some p')
    (hnone : ∀ e ∈ telemetryOf inputs, e.isReport = false) (hp : p.state.reportData = none) :
    p'.state.reportData = none := by
  induction inputs generalizing p with
  | nil =>
    cases hrun
    exact hp
  | cons input inputs ih =>
    obtain ⟨q, hq, hrest⟩ := run_cons.1 hrun
    cases input with
    | functionSpans spans =>
      refine ih hrest hnone ?_
      rw [inputStep_functionSpans hq, (processFunctionSpans_keeps spans).reportData]
      exact hp
    | telemetry event =>
      refine ih hrest (fun e he => hnone e (List.mem_cons_of_mem _ he)) ?_
      have hadvances := @processRecord_advances p _ config event
      rw [← inputStep_telemetry hq] at hadvances
      have hreport := hadvances.reportData
      rw [hp, hnone event List.mem_cons_self] at hreport
      exact Option.not_isSome_iff_eq_none.1 (by rw [hreport]; exact Bool.false_ne_true)

/-- The end of the runtime ends the delay of the logs. -/
theorem run_notDelaying (hmode : config.logMode = .structured)
    (hrun : run (inputStep config) p inputs = some p')
    (hended : p.state.delayingLogs = false ∨ ∃ e ∈ telemetryOf inputs, e.isRuntimeDone = true) :
    p'.state.delayingLogs = false := by
  induction inputs generalizing p with
  | nil =>
    cases hrun
    rcases hended with hended | ⟨e, he, -⟩
    · exact hended
    · cases he
  | cons input inputs ih =>
    obtain ⟨q, hq, hrest⟩ := run_cons.1 hrun
    cases input with
    | functionSpans spans =>
      refine ih hrest (hended.imp ?_ id)
      intro hfalse
      rw [inputStep_functionSpans hq]
      apply Bool.eq_false_of_not_eq_true
      intro htrue
      have hdelaying := ((processFunctionSpans_delaying hmode spans).1.1 htrue).1
      rw [hfalse] at hdelaying
      cases hdelaying
    | telemetry event =>
      rw [inputStep_telemetry hq] at hrest
      rcases hended with hfalse | ⟨e, he, hdone⟩
      · exact ih hrest (.inl (processRecord_notDelaying hmode (.inl hfalse)))
      · rcases List.mem_cons.1 he with rfl | he
        · exact ih hrest (.inl (processRecord_notDelaying hmode (.inr hdone)))
        · exact ih hrest (.inr ⟨e, he, hdone⟩)

end

/-! ## The timestamps of fewer events -/

section

variable [External] {config : TelemetryProcessorConfig} {events more : List LambdaTelemetry}

theorem logsInMilli_le (h : events.Sublist more) (millis : Int) :
    logsInMilli config events millis ≤ logsInMilli config more millis :=
  h.countP_le

theorem TimedInOrder.sublist (h : TimedInOrder config more) (hsub : events.Sublist more) :
    TimedInOrder config events where
  sorted := h.sorted.sublist (hsub.map _)
  range event hevent := h.range event (hsub.subset hevent)
  few millis := Nat.lt_of_le_of_lt (logsInMilli_le hsub millis) (h.few millis)

theorem StampsFit.sublist (h : StampsFit config more) (hsub : events.Sublist more) :
    StampsFit config events := by
  intro event hevent
  have hfits := h event (hsub.subset hevent)
  have hle : logsInMilli config events event.timestampMillis ≤
      logsInMilli config more event.timestampMillis := logsInMilli_le hsub _
  omega

theorem AloneInMilli.sublist {event : LambdaTelemetry} (h : AloneInMilli config more event)
    (hsub : events.Sublist more) : AloneInMilli config events event :=
  Nat.le_trans (logsInMilli_le hsub _) h

end

/-! ## The logs of a stream -/

/-- The events of each section come in the order of their timestamps, with fewer than a million logs
in a millisecond. Where the start log can be stamped before the logs of the init phase, it is the only
log of its millisecond. -/
structure TelemetryStream.LogsInTime [External] (config : TelemetryProcessorConfig)
    (stream : TelemetryStream) : Prop where
  timed : ∀ k, TimedInOrder config (stream.ownedBy k)
  fits : ∀ k, StampsFit config (stream.ownedBy k)
  firstStart : config.tracingMode = .otelInstrumentation → config.platformLogSet.start = true →
    ∀ request, stream.requests[0]? = some request →
      AloneInMilli config (stream.ownedBy 0) request.start

section

variable [External] {config : TelemetryProcessorConfig} {stream : TelemetryStream}
  {actions : List Action} {trace : List ProcessorCall} {e : InvokeEvent}
  {functionContext : FunctionContext} {start final : Processing InvocationProcessingState}

/-- In a section the start log gets its place: nothing is emitted before the end of the runtime while
the logs are delayed, and only in the first section something is held back from before the start. -/
theorem InvocationOf.startPlaced
    (h : InvocationOf config stream actions trace e functionContext start final)
    (times : stream.LogsInTime config) {past rest : List InvocationInput} {input : InvocationInput}
    {q : Processing InvocationProcessingState} {causes : List LambdaTelemetry}
    (hinputs : inputsOf final.state.serial trace = past ++ input :: rest)
    (hpast : run (inputStep config) start past = some q)
    (horder : LogOrder config (telemetryOf past) (telemetryOf (input :: rest)) q.state causes)
    (hreleases : ReleasesStart config q.state input) :
    StartPlaced config (telemetryOf past) (telemetryOf (input :: rest)) causes q.state := by
  obtain ⟨hmode, hstartLog, hdelaying, hdata, -⟩ := hreleases
  obtain ⟨more, hsection⟩ := h.events
  rw [hinputs, telemetryOf_append, List.append_assoc] at hsection
  obtain ⟨rng, hmade⟩ := h.made
  obtain ⟨serial, functionContext, invocationContext, rng', hfresh⟩ := hmade.isFresh
  have htracing : config.tracingMode = .otelInstrumentation := by
    apply Decidable.byContradiction
    intro htracing
    have hnot := run_notDelaying hmode hpast (.inl (by rw [hfresh]; exact decide_eq_false htracing))
    rw [hnot] at hdelaying
    cases hdelaying
  -- the end of the runtime, which comes before the report, would have ended the delay
  have hnoReport : ∀ event ∈ telemetryOf past, event.isReport = false := by
    intro event hevent
    apply Bool.eq_false_of_not_eq_true
    intro hreport
    obtain ⟨before, after, heq⟩ := List.append_of_mem hevent
    rw [heq, List.append_assoc, List.cons_append] at hsection
    obtain ⟨done, hdone, hisDone⟩ := runtimeDone_before_report hsection hreport
    have hnot := run_notDelaying hmode hpast
      (.inr ⟨done, by rw [heq]; exact List.mem_append_left _ hdone, hisDone⟩)
    rw [hnot] at hdelaying
    cases hdelaying
  have hreportData : q.state.reportData = none := run_reportData hpast hnoReport (by rw [hfresh]; rfl)
  cases horder with
  | off hoff => exact absurd hmode hoff
  | immediate _ hdelaying' =>
    rw [hdelaying] at hdelaying'
    cases hdelaying'
  | delayed _ _ hstart =>
    rw [(hstart hstartLog).1] at hdata
    cases hdata
  | startDelayed _ _ _ data _ before event after heq hevent hafter _ first second held held' hheld
      hearlier hlater hcauses _ hreport =>
    have hnone : first = [] ∧ second = [] := by
      have hnone := hreport hreportData
      rw [hcauses] at hnone
      exact List.append_eq_nil_iff.1 hnone
    rw [heq, List.append_assoc, List.cons_append] at hsection
    obtain ⟨hbefore, request, hrequest, hstart⟩ := before_start hsection hevent
    refine ⟨before, event, after, heq, hevent, hafter, ?_⟩
    by_cases hfirst : final.state.serial = 0
    · right
      refine ⟨?_, ?_⟩
      · have halone := times.firstStart htracing hstartLog request (hfirst ▸ hrequest)
        rw [← hstart, ← hfirst] at halone
        refine halone.sublist ?_
        rw [← telemetryOf_append, ← hinputs]
        exact h.events.sublist
      · rw [hcauses, hnone.1, hnone.2]
        intro last hlast
        cases hlast
    · left
      rw [if_neg hfirst] at hbefore
      rw [hbefore, hnone.1] at hearlier
      rw [hlater, hnone.2, List.nil_append]
      have hheldNone : held = [] := hearlier.symm
      rwa [hheldNone, List.nil_append] at hheld

/-- The logs that an invocation puts out. Once all events of its section have come, none is missing. -/
theorem InvocationOf.sortInto
    (h : InvocationOf config stream actions trace e functionContext start final)
    (times : stream.LogsInTime config) :
    ∃ ordered, ordered.Sublist (logged config (stream.ownedBy final.state.serial)) ∧
      SortInto config (some final.state.serial) ordered final.outputBuffers.logsBuffer ∧
      (telemetryOf (inputsOf final.state.serial trace) = stream.ownedBy final.state.serial →
        final.state.serial < stream.requests.length →
          ordered = logged config (stream.ownedBy final.state.serial)) := by
  have hsofar := h.events.sublist
  obtain ⟨rng, hmade⟩ := h.made
  obtain ⟨records, ordered, hlogs, hsub, hsorts, hcomplete⟩ := run_sortInto hmade.isFresh
    ((times.timed _).sublist hsofar) ((times.fits _).sublist hsofar)
    (fun past input rest q causes hinputs _ hpast horder hreleases =>
      h.startPlaced times hinputs hpast horder hreleases) h.inputs
  rw [h.fresh] at hlogs
  rw [← (run_same h.inputs).1.serial] at hsorts
  replace hlogs : final.outputBuffers.logsBuffer = records := hlogs
  rw [hlogs]
  refine ⟨ordered, hsub.trans (hsofar.filter _), hsorts, fun hall hrequest => ?_⟩
  rw [← hall]
  have hrequest := List.getElem?_eq_getElem hrequest
  refine hcomplete (fun hmode => run_notDelaying hmode h.inputs (.inr ?_)) ?_
  · rw [hall]
    exact stream.runtimeDone_mem_ownedBy hrequest
  · rw [hall, stream.countP_isStart_ownedBy hrequest]

end

section

variable [External] {config : TelemetryServiceConfig} {stream : TelemetryStream}
  {service : TelemetryService}

/-- **The logs of a stream.** Whatever the batching and the interleaving of the telemetry with invoke
events, OTLP exports and sends, the logs in the batches and the buffer are those of the requests in
their order, and within a request the timestamps are all different and bring back the order of the
events of its section. Once everything has arrived no request is missing, and each event of its section
that causes a log has its record. -/
theorem log_order_sent {now : Nat} {actions : List Action}
    (times : stream.LogsInTime config.processorConfig)
    (h : StreamRun config stream now actions service) :
    ∃ records : List (List LogRecord),
      service.sent.flatMap (·.logRecords) ++ service.state.outputBuffers.logsBuffer =
        records.flatten ∧
      (∀ k logs, records[k]? = some logs → (logs.map (·.timeUnixNano)).Nodup ∧
        SortsByArrival config.processorConfig (some k) (stream.ownedBy k) logs) ∧
      (Delivered stream actions service → records.length = stream.requests.length ∧
        ∀ k logs, records[k]? = some logs →
          SortInto config.processorConfig (some k) (logged config.processorConfig (stream.ownedBy k))
            logs) := by
  obtain ⟨parts, finals, put⟩ := h.output
  have hsorts (k : Nat) (logs : List LogRecord)
      (hlogs : (finals.map (·.outputBuffers.logsBuffer))[k]? = some logs) :
      ∃ ordered, ordered.Sublist (logged config.processorConfig (stream.ownedBy k)) ∧
        SortInto config.processorConfig (some k) ordered logs ∧
        (Delivered stream actions service →
          ordered = logged config.processorConfig (stream.ownedBy k)) := by
    rw [List.getElem?_map, Option.map_eq_some_iff] at hlogs
    obtain ⟨final, hfinal, rfl⟩ := hlogs
    have hk : k < finals.length := (List.getElem?_eq_some_iff.1 hfinal).1
    have hserial : final.state.serial = k := by
      have hserials := congrArg (fun serials : List Nat => serials[k]?) put.serials
      rw [List.getElem?_map, hfinal, List.getElem?_range hk] at hserials
      exact Option.some.inj hserials
    obtain ⟨e, functionContext, start, invocation⟩ := put.invocation final (List.mem_of_getElem? hfinal)
    obtain ⟨ordered, hsub, hsorts, hcomplete⟩ := invocation.sortInto times
    rw [hserial] at hsub hsorts hcomplete
    refine ⟨ordered, hsub, hsorts, fun delivered => ?_⟩
    obtain ⟨hlength, hevents⟩ := put.complete delivered
    exact hcomplete (hevents k) (hlength ▸ hk)
  refine ⟨finals.map (·.outputBuffers.logsBuffer), ?_, ?_, ?_⟩
  · rw [put.logs, List.flatMap_def]
  · intro k logs hlogs
    obtain ⟨ordered, hsub, hsorts, -⟩ := hsorts k logs hlogs
    have hsorts := hsorts.sortsByArrival (hsub.trans List.filter_sublist)
    exact ⟨hsorts.nodup, hsorts⟩
  · intro delivered
    refine ⟨?_, fun k logs hlogs => ?_⟩
    · rw [List.length_map]
      exact (put.complete delivered).1
    · obtain ⟨ordered, -, hsorts, hcomplete⟩ := hsorts k logs hlogs
      rwa [hcomplete delivered] at hsorts

end

/-- All logs are enabled, and the start log is delayed. -/
def allLogsConfig : TelemetryServiceConfig :=
  { sampleConfig .reportAfterInvocation .otelInstrumentation with
    processorConfig := sampleProcessorConfig .otelInstrumentation }

theorem logsInTime_sampleStream :
    @TelemetryStream.LogsInTime sampleExternal allLogsConfig.processorConfig sampleStream := by
  have timed {events : List LambdaTelemetry}
      (hsorted : (events.map (·.timestampMillis)).Pairwise (· ≤ ·))
      (hrange : ∀ event ∈ events,
        0 ≤ event.timestampMillis ∧ event.timestampMillis * 1000000 < UInt64.size)
      (hlength : events.length < 1000000) :
      @TimedInOrder sampleExternal allLogsConfig.processorConfig events :=
    @TimedInOrder.mk sampleExternal _ _ hsorted hrange fun millis =>
      Nat.lt_of_le_of_lt List.countP_le_length hlength
  have empty (k : Nat) : sampleStream.ownedBy (k + 2) = [] := rfl
  refine @TelemetryStream.LogsInTime.mk sampleExternal _ _ (fun k => ?_) (fun k => ?_)
    fun _ _ request hrequest => ?_
  · match k with
    | 0 => exact timed (by decide) (by decide) (by decide)
    | 1 => exact timed (by decide) (by decide) (by decide)
    | k + 2 =>
      rw [empty]
      exact timed List.Pairwise.nil (by simp) (by decide)
  · match k with
    | 0 => decide
    | 1 => decide
    | k + 2 =>
      rw [empty]
      intro event hevent
      cases hevent
  · cases hrequest
    decide

/-- The logs of two requests, the first of which has a log of the init phase too. -/
theorem log_order_sent_two :
    ∃ (service : TelemetryService) (first second : List LogRecord),
      @serviceRun sampleExternal allLogsConfig 0 sampleStreamActions = some service ∧
      service.sent.flatMap (·.logRecords) ++ service.state.outputBuffers.logsBuffer =
        first ++ second ∧
      first.length = 5 ∧ second.length = 4 ∧ (first.map (·.timeUnixNano)).Nodup ∧
      @SortInto sampleExternal allLogsConfig.processorConfig (some 0)
        (@logged sampleExternal allLogsConfig.processorConfig (sampleStream.ownedBy 0)) first ∧
      @SortInto sampleExternal allLogsConfig.processorConfig (some 1)
        (@logged sampleExternal allLogsConfig.processorConfig (sampleStream.ownedBy 1)) second := by
  obtain ⟨service, hrun, hn, hqueued⟩ := @exists_run sampleExternal allLogsConfig 0 sampleStreamActions
    (fun service => (∀ call ∈ service.state.trace, call.isFailure = false) ∧
      service.handler.requests.isEmpty = true) _ (by decide +kernel)
  obtain ⟨records, hsent, hsorts, hall⟩ :=
    @log_order_sent sampleExternal allLogsConfig sampleStream service 0 sampleStreamActions
      logsInTime_sampleStream
      (@StreamRun.mk sampleExternal _ _ _ _ _ hrun
        (by simp [sampleStreamActions, sampleTelemetry, Action.isShutdown]) ⟨[], rfl⟩ ⟨[], rfl⟩ hn)
  obtain ⟨hlength, hcomplete⟩ := hall ⟨by simp [sampleStream], rfl, List.isEmpty_iff.1 hqueued, rfl⟩
  obtain ⟨first, second, rfl⟩ := List.length_eq_two.1 hlength
  have hfirst := hcomplete 0 first rfl
  have hsecond := hcomplete 1 second rfl
  refine ⟨service, first, second, hrun, by simpa using hsent, ?_, ?_, (hsorts 0 first rfl).1, hfirst,
    hsecond⟩
  · rw [@SortInto.length sampleExternal _ _ _ _ hfirst]
    decide
  · rw [@SortInto.length sampleExternal _ _ _ _ hsecond]
    decide

end TelemetryExporter
