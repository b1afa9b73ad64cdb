import TelemetryExporter.Lib.Sections
import TelemetryExporter.Lib.Split
import TelemetryExporter.Verify.Accounting
import TelemetryExporter.Verify.Invocations
import TelemetryExporter.Verify.Progress

/-!
# Well-formed telemetry

A well-formed stream has the init phase of one instance and then one section for each request. In
every run of such a stream, with any batching and any interleaving with the invoke events, each event
is processed exactly once, in order, and with the state of the invocation whose section it is in.
-/

namespace TelemetryExporter

/-! ## Streams -/

/-- An event that controls neither the init phase nor an invocation: a log, or another platform
event. -/
def LambdaTelemetry.isPlain (event : LambdaTelemetry) : Bool :=
  !event.isInitStart && event.requestId.isNone

/-- The telemetry of one request. -/
structure RequestTelemetry where
  requestId : String
  start : LambdaTelemetry
  logs : List LambdaTelemetry
  runtimeDone : LambdaTelemetry
  laterLogs : List LambdaTelemetry
  report : LambdaTelemetry
  isStart : start.isStartOf requestId = true
  isPlain : ∀ e ∈ logs ++ laterLogs, e.isPlain = true
  isRuntimeDone : runtimeDone.isRuntimeDone = true ∧ runtimeDone.requestId = some requestId
  isReport : report.isReport = true ∧ report.requestId = some requestId

/-- The events up to the report. -/
def RequestTelemetry.body (request : RequestTelemetry) : List LambdaTelemetry :=
  request.start :: (request.logs ++ request.runtimeDone :: request.laterLogs)

/-- The events, in order. -/
def RequestTelemetry.events (request : RequestTelemetry) : List LambdaTelemetry :=
  request.body ++ [request.report]

/-- The telemetry of one instance. -/
structure TelemetryStream where
  initStart : LambdaTelemetry
  initEvents : List LambdaTelemetry
  requests : List RequestTelemetry
  isInitStart : initStart.isInitStart = true
  isPlain : ∀ e ∈ initEvents, e.isPlain = true

namespace TelemetryStream

/-- The events of the init phase. -/
def init (stream : TelemetryStream) : List LambdaTelemetry := stream.initStart :: stream.initEvents

/-- The events of the requests. -/
def body (stream : TelemetryStream) : List LambdaTelemetry :=
  stream.requests.flatMap RequestTelemetry.events

/-- The events, in order. -/
def events (stream : TelemetryStream) : List LambdaTelemetry := stream.init ++ stream.body

/-- The request ids, in order. -/
def requestIds (stream : TelemetryStream) : List String := stream.requests.map (·.requestId)

/-- The events, each with the position of the request whose section it is in. The init phase belongs
to the first request. -/
def owned (stream : TelemetryStream) : List (Nat × LambdaTelemetry) :=
  (stream.init.map fun e => (0, e)) ++
    stream.requests.zipIdx.flatMap fun (request, i) => request.events.map fun e => (i, e)

end TelemetryStream

section

theorem LambdaTelemetry.isPlain_iff {e : LambdaTelemetry} :
    e.isPlain = true ↔ e.isInitStart = false ∧ e.requestId = none := by
  simp [LambdaTelemetry.isPlain]

theorem LambdaTelemetry.isReport_eq_false {e : LambdaTelemetry} (h : e.requestId = none) :
    e.isReport = false := by
  unfold LambdaTelemetry.requestId at h
  unfold LambdaTelemetry.isReport
  cases hrecord : e.record <;> simp_all

theorem LambdaTelemetry.isRuntimeDone_eq_false {e : LambdaTelemetry} (h : e.requestId = none) :
    e.isRuntimeDone = false := by
  unfold LambdaTelemetry.requestId at h
  unfold LambdaTelemetry.isRuntimeDone
  cases hrecord : e.record <;> simp_all

theorem LambdaTelemetry.isInitStart_eq_false {e : LambdaTelemetry} {id : String}
    (h : e.requestId = some id) : e.isInitStart = false := by
  unfold LambdaTelemetry.requestId at h
  unfold LambdaTelemetry.isInitStart
  cases hrecord : e.record <;> simp_all

theorem LambdaTelemetry.requestId_of_start {e : LambdaTelemetry} {id : String}
    (h : e.isStartOf id = true) : e.requestId = some id := by
  unfold LambdaTelemetry.isStartOf at h
  unfold LambdaTelemetry.requestId
  cases hrecord : e.record <;> simp_all

/-- The three kinds of events about a request exclude each other. -/
theorem LambdaTelemetry.not_report_of_start {e : LambdaTelemetry} {id : String}
    (h : e.isStartOf id = true) : e.isReport = false ∧ e.isRuntimeDone = false := by
  unfold LambdaTelemetry.isStartOf at h
  unfold LambdaTelemetry.isReport LambdaTelemetry.isRuntimeDone
  cases hrecord : e.record <;> simp_all

theorem LambdaTelemetry.not_report_of_runtimeDone {e : LambdaTelemetry}
    (h : e.isRuntimeDone = true) : e.isReport = false := by
  unfold LambdaTelemetry.isRuntimeDone at h
  unfold LambdaTelemetry.isReport
  cases hrecord : e.record <;> simp_all

end

namespace RequestTelemetry

variable (request : RequestTelemetry)

theorem body_not_report : ∀ e ∈ request.body, e.isReport = false := by
  intro e he
  simp only [body, List.mem_cons, List.mem_append] at he
  have plain (he : e ∈ request.logs ++ request.laterLogs) : e.isReport = false :=
    LambdaTelemetry.isReport_eq_false (LambdaTelemetry.isPlain_iff.1 (request.isPlain e he)).2
  rcases he with rfl | he | rfl | he
  · exact (LambdaTelemetry.not_report_of_start request.isStart).1
  · exact plain (List.mem_append_left _ he)
  · exact LambdaTelemetry.not_report_of_runtimeDone request.isRuntimeDone.1
  · exact plain (List.mem_append_right _ he)

theorem events_not_initStart : ∀ e ∈ request.events, e.isInitStart = false := by
  intro e he
  simp only [events, body, List.mem_cons, List.mem_append, List.not_mem_nil, or_false] at he
  have plain (he : e ∈ request.logs ++ request.laterLogs) : e.isInitStart = false :=
    (LambdaTelemetry.isPlain_iff.1 (request.isPlain e he)).1
  rcases he with (rfl | he | rfl | he) | rfl
  · exact LambdaTelemetry.isInitStart_eq_false (LambdaTelemetry.requestId_of_start request.isStart)
  · exact plain (List.mem_append_left _ he)
  · exact LambdaTelemetry.isInitStart_eq_false request.isRuntimeDone.2
  · exact plain (List.mem_append_right _ he)
  · exact LambdaTelemetry.isInitStart_eq_false request.isReport.2

end RequestTelemetry

namespace TelemetryStream

variable (stream : TelemetryStream)

theorem init_not_report : ∀ e ∈ stream.init, e.isReport = false := by
  intro e he
  refine LambdaTelemetry.isReport_eq_false ?_
  rcases List.mem_cons.1 he with rfl | he
  · by_contra hne
    obtain ⟨id, hid⟩ := Option.ne_none_iff_exists'.1 hne
    exact absurd (stream.isInitStart.symm.trans (LambdaTelemetry.isInitStart_eq_false hid)) nofun
  · exact (LambdaTelemetry.isPlain_iff.1 (stream.isPlain e he)).2

theorem init_not_runtimeDone : ∀ e ∈ stream.init, e.isRuntimeDone = false := by
  intro e he
  refine LambdaTelemetry.isRuntimeDone_eq_false ?_
  rcases List.mem_cons.1 he with rfl | he
  · by_contra hne
    obtain ⟨id, hid⟩ := Option.ne_none_iff_exists'.1 hne
    exact absurd (stream.isInitStart.symm.trans (LambdaTelemetry.isInitStart_eq_false hid)) nofun
  · exact (LambdaTelemetry.isPlain_iff.1 (stream.isPlain e he)).2

/-- There is one `PlatformInitStart`, the first event. -/
theorem rest_not_initStart : ∀ e ∈ stream.initEvents ++ stream.body, e.isInitStart = false := by
  intro e he
  rcases List.mem_append.1 he with he | he
  · exact (LambdaTelemetry.isPlain_iff.1 (stream.isPlain e he)).1
  · obtain ⟨request, -, he⟩ := List.mem_flatMap.1 he
    exact request.events_not_initStart e he

/-- The owner of an event is the number of reports before it. -/
theorem owned_eq : stream.owned = Sections.numberBy LambdaTelemetry.isReport 0 stream.events := by
  have body : ∀ (requests : List RequestTelemetry) (n : Nat),
      Sections.numberBy LambdaTelemetry.isReport n (requests.flatMap RequestTelemetry.events) =
        (requests.zipIdx n).flatMap fun (request, i) => request.events.map fun e => (i, e) := by
    intro requests
    induction requests with
    | nil => exact fun _ => rfl
    | cons request requests ih =>
      intro n
      rw [List.flatMap_cons, RequestTelemetry.events, List.append_assoc, List.singleton_append,
        Sections.numberBy_section request.body_not_report request.isReport.1, ih]
      rfl
  have hcount : stream.init.countP LambdaTelemetry.isReport = 0 :=
    List.countP_eq_zero.2 fun e he => by simp [stream.init_not_report e he]
  rw [events, Sections.numberBy_append, Sections.numberBy_of_none stream.init_not_report, hcount,
    TelemetryStream.body, body]
  rfl

theorem countP_reports : stream.events.countP LambdaTelemetry.isReport = stream.requests.length := by
  have body : ∀ requests : List RequestTelemetry,
      (requests.flatMap RequestTelemetry.events).countP LambdaTelemetry.isReport =
        requests.length := by
    intro requests
    induction requests with
    | nil => rfl
    | cons request requests ih =>
      have hbody : request.body.countP LambdaTelemetry.isReport = 0 :=
        List.countP_eq_zero.2 fun e he => by simp [request.body_not_report e he]
      simp only [List.flatMap_cons, List.countP_append, RequestTelemetry.events, hbody, ih,
        List.countP_singleton, request.isReport.1, List.length_cons]
      simp [Nat.add_comm]
  have hinit : stream.init.countP LambdaTelemetry.isReport = 0 :=
    List.countP_eq_zero.2 fun e he => by simp [stream.init_not_report e he]
  rw [events, List.countP_append, hinit, TelemetryStream.body, body, Nat.zero_add]

/-- The last event is a report: once all reports have been processed, nothing is left. -/
theorem eq_nil_of_countP_reports {processed rest : List LambdaTelemetry}
    (h : processed ++ rest = stream.events)
    (hcount : processed.countP LambdaTelemetry.isReport = stream.requests.length)
    (hne : stream.requests ≠ []) : rest = [] := by
  by_contra hrest
  obtain ⟨rest', last, rfl⟩ := (List.eq_nil_or_concat' rest).resolve_left hrest
  obtain ⟨requests, request, hrequests⟩ := (List.eq_nil_or_concat' stream.requests).resolve_left hne
  have hevents : stream.events =
      stream.init ++ requests.flatMap RequestTelemetry.events ++ request.body ++ [request.report] := by
    simp [events, body, hrequests, RequestTelemetry.events]
  rw [hevents, ← List.append_assoc] at h
  obtain ⟨-, hlast⟩ := List.append_inj' h rfl
  have htotal := stream.countP_reports
  rw [hevents, ← h, List.countP_append, List.countP_append, hcount, List.singleton_inj.1 hlast,
    List.countP_singleton, request.isReport.1] at htotal
  simp only [if_true] at htotal
  omega

/-- Where the next event is while the events so far are those of the init phase. -/
theorem next_of_prefix_init {half rest : List LambdaTelemetry} {event : LambdaTelemetry}
    (hhalf : half <+: stream.init) (h : half ++ event :: rest = stream.events) :
    half ++ [event] <+: stream.init ∨
      half = stream.init ∧ ∃ request requests, stream.requests = request :: requests ∧
        event = request.start := by
  obtain ⟨more, hmore⟩ := hhalf
  rw [events, ← hmore, List.append_assoc, List.append_cancel_left_eq] at h
  cases more with
  | nil =>
    rw [List.append_nil] at hmore
    rw [List.nil_append, body] at h
    cases hrequests : stream.requests with
    | nil =>
      rw [hrequests] at h
      cases h
    | cons request requests =>
      rw [hrequests] at h
      exact .inr ⟨hmore, request, requests, rfl, (List.cons.inj h).1⟩
  | cons e more =>
    obtain ⟨rfl, -⟩ := List.cons.inj h
    exact .inl ⟨more, by rw [← hmore, List.append_assoc]; rfl⟩

end TelemetryStream

/-! ## Attribution -/

/-- The event of a call, with the invocation whose state it has been processed with. -/
def ProcessorCall.owned : ProcessorCall → Option (Option Nat × LambdaTelemetry)
  | .telemetry invocation event => some (some invocation, event)
  | .degraded event => some (none, event)
  | .failed event => some (none, event)
  | _ => none

/-- The events of the calls, each with the invocation whose state it has been processed with. -/
def ownedEvents (trace : List ProcessorCall) : List (Option Nat × LambdaTelemetry) :=
  trace.filterMap ProcessorCall.owned

/-- The events processed so far are those of a prefix of the stream, each with its owner's state. -/
structure Attributed (config : TelemetryProcessorConfig) (stream : TelemetryStream)
    (s : TelemetryServiceState) : Prop where
  owned : ownedEvents s.trace =
    (Sections.numberBy LambdaTelemetry.isReport 0 (processedEvents s.trace)).map
      fun (owner, e) => (some owner, e)
  taken : (takenInvocations s.trace).length =
    (processedEvents s.trace).countP LambdaTelemetry.isReport +
      (if s.invocationState.isSome then 1 else 0)
  noReport : ∀ state, s.invocationState = some state → state.reportData = none
  dropped : config.logMode = .structured → droppedSources s.trace = []
  fresh : s.initHandled = false → processedEvents s.trace = [] ∧
    s.halfProcessedEventBuffer <+: stream.init ∧
    (s.initHandlingStarted = false ↔ s.halfProcessedEventBuffer = [])

section

@[simp] theorem ownedEvents_append (a b : List ProcessorCall) :
    ownedEvents (a ++ b) = ownedEvents a ++ ownedEvents b :=
  List.filterMap_append

@[simp] theorem ownedEvents_telemetry (invocation : Nat) (events : List LambdaTelemetry) :
    ownedEvents (events.map (.telemetry invocation)) = events.map fun e => (some invocation, e) := by
  simp [ownedEvents, List.filterMap_map, Function.comp_def, ProcessorCall.owned]

/-- The sources of the logs of the calls, by their owners. -/
theorem processedSources_eq_owned [External] {trace : List ProcessorCall} (hn : NoFailures trace) :
    processedSources trace = (ownedEvents trace).flatMap fun (owner, e) =>
      (functionLog e).toList.map (RawFunctionLog.source owner) := by
  induction trace with
  | nil => rfl
  | cons call trace ih =>
    have ih := ih fun c hc => hn c (List.mem_cons_of_mem _ hc)
    have hcall := hn call List.mem_cons_self
    rw [processedSources, List.flatMap_cons, show trace.flatMap ProcessorCall.sources = _ from ih]
    cases call with
    | failed e => cases hcall
    | telemetry invocation e => rfl
    | degraded e => rfl
    | _ => rfl

end

section

variable [External] {config : TelemetryServiceConfig} {stream : TelemetryStream}
  {s s' : TelemetryServiceState}

omit [External] in
/-- Calls that process no event and keep what is current. -/
theorem Attributed.calls {calls : List ProcessorCall}
    (h : Attributed config.processorConfig stream s) (htrace : s'.trace = s.trace ++ calls)
    (howned : ownedEvents calls = []) (hevents : processedEvents calls = [])
    (hdropped : droppedSources calls = [])
    (htaken : (takenInvocations calls).length + (if s.invocationState.isSome then 1 else 0) =
      if s'.invocationState.isSome then 1 else 0)
    (hreport : ∀ state, s'.invocationState = some state → state.reportData = none)
    (hfresh : s'.initHandled = false → processedEvents s.trace = [] ∧
      s'.halfProcessedEventBuffer <+: stream.init ∧
      (s'.initHandlingStarted = false ↔ s'.halfProcessedEventBuffer = [])) :
    Attributed config.processorConfig stream s' := by
  have hprocessed : processedEvents s'.trace = processedEvents s.trace := by
    rw [htrace, processedEvents_append, hevents, List.append_nil]
  refine ⟨?_, ?_, hreport, fun hmode => ?_, fun h' => ?_⟩
  · rw [htrace, ownedEvents_append, howned, List.append_nil, processedEvents_append, hevents,
      List.append_nil]
    exact h.owned
  · have := h.taken
    rw [hprocessed, htrace, takenInvocations_append, List.length_append, ← htaken]
    omega
  · rw [htrace, droppedSources_append, hdropped, List.append_nil]
    exact h.dropped hmode
  · rw [hprocessed]
    exact hfresh h'

omit [External] in
/-- The same, without any calls. -/
theorem Attributed.congr (h : Attributed config.processorConfig stream s)
    (htrace : s'.trace = s.trace) (hstate : s'.invocationState = s.invocationState)
    (hinit : s'.initHandled = s.initHandled)
    (hstarted : s'.initHandlingStarted = s.initHandlingStarted)
    (hhalf : s'.halfProcessedEventBuffer = s.halfProcessedEventBuffer) :
    Attributed config.processorConfig stream s' := by
  have nothing : takenInvocations [] = [] := rfl
  refine h.calls (by rw [htrace, List.append_nil]) rfl rfl rfl ?_ (by rw [hstate]; exact h.noReport)
    fun h' => ?_
  · rw [nothing, hstate, List.length_nil, Nat.zero_add]
  · rw [hhalf, hstarted]
    exact h.fresh (hinit.symm.trans h')

omit [External] in
/-- One event, processed with the state of the current invocation after the init phase. -/
theorem Attributed.process {event : LambdaTelemetry} {state : InvocationProcessingState}
    {calls : List ProcessorCall} (h : Attributed config.processorConfig stream s)
    (hstate : s.invocationState = some state)
    (hserial : state.serial + 1 = (takenInvocations s.trace).length)
    (htrace : s'.trace = s.trace ++ calls)
    (howned : ownedEvents calls = [(some state.serial, event)])
    (hevents : processedEvents calls = [event]) (hcalls : takenInvocations calls = [])
    (hdropped : config.processorConfig.logMode = .structured → droppedSources calls = [])
    (hcount : (if event.isReport then 1 else 0) + (if s'.invocationState.isSome then 1 else 0) = 1)
    (hreport : ∀ state, s'.invocationState = some state → state.reportData = none)
    (hinit : s'.initHandled = true) : Attributed config.processorConfig stream s' := by
  have hlength : (takenInvocations s.trace).length =
      (processedEvents s.trace).countP LambdaTelemetry.isReport + 1 := by
    have := h.taken
    rwa [hstate] at this
  have howner : state.serial = (processedEvents s.trace).countP LambdaTelemetry.isReport := by
    omega
  refine ⟨?_, ?_, hreport, fun hmode => ?_, fun h' => ?_⟩
  · rw [htrace, ownedEvents_append, processedEvents_append, hevents, howned, h.owned,
      Sections.numberBy_append, List.map_append, howner, Nat.zero_add]
    rfl
  · rw [htrace, takenInvocations_append, processedEvents_append, hcalls, hevents, List.append_nil,
      List.countP_append, List.countP_singleton, hlength]
    omega
  · rw [htrace, droppedSources_append, h.dropped hmode, hdropped hmode]
    rfl
  · rw [hinit] at h'
    cases h'

omit [External] in
/-- An event that waits is the next one of the init phase, which has started with it at the latest. -/
theorem Attributed.buffer {requests : List InvokeEvent} {state : InvocationProcessingState}
    {event : LambdaTelemetry} {rest : List LambdaTelemetry}
    (hs : Attributed config.processorConfig stream s) (hstate : s.invocationState = some state)
    (enrolled : Enrolled requests s) (hrequests : requests.map (·.requestId) <+: stream.requestIds)
    (hevents : processedEvents s.trace ++ s.halfProcessedEventBuffer ++ event :: rest =
      stream.events)
    (hinit : s.initHandled = false) (hevent : event.isInitStart = false)
    (hstart : s.initHandlingStarted = true →
      event.isStartOf state.invocationContext.requestId = false)
    (htrace : s'.trace = s.trace) (hcurrent : s'.invocationState = s.invocationState)
    (hstarted' : s'.initHandlingStarted = s.initHandlingStarted)
    (hhalf' : s'.halfProcessedEventBuffer = s.halfProcessedEventBuffer ++ [event]) :
    Attributed config.processorConfig stream s' := by
  obtain ⟨hprocessed, hhalf, hstarted⟩ := hs.fresh hinit
  rw [hprocessed, List.nil_append] at hevents
  have hnext : s.halfProcessedEventBuffer ++ [event] <+: stream.init := by
    rcases stream.next_of_prefix_init hhalf hevents with hnext | ⟨hall, request, more, hfirst, rfl⟩
    · exact hnext
    · -- the start of the first request is not buffered
      have hnot : s.initHandlingStarted = true := by
        by_contra hne
        have := hstarted.1 (by simpa using hne)
        rw [hall] at this
        cases this
      have hzero : state.serial = 0 := by
        have hserial := enrolled.serial_add_one hstate
        have htaken := hs.taken
        rw [hstate, hprocessed] at htaken
        simp only [List.countP_nil, Option.isSome_some, if_true] at htaken
        omega
      have hfirstId : stream.requestIds[state.serial]? = some request.requestId := by
        rw [hzero, TelemetryStream.requestIds, hfirst]
        rfl
      have hid : state.invocationContext.requestId = request.requestId :=
        enrolled.requestId_eq hstate hrequests hfirstId
      rw [hid] at hstart
      exact absurd (request.isStart.symm.trans (hstart hnot)) nofun
  have hstartedNow : s.initHandlingStarted = true := by
    by_contra hne
    rw [hstarted.1 (by simpa using hne)] at hnext
    obtain ⟨more, hmore⟩ := hnext
    rw [(List.cons.inj hmore).1] at hevent
    exact absurd (stream.isInitStart.symm.trans hevent) nofun
  refine hs.calls (by rw [htrace, List.append_nil]) rfl rfl rfl ?_ ?_ fun _ => ⟨hprocessed, ?_, ?_⟩
  · rw [hcurrent]
    exact Nat.zero_add _
  · rw [hcurrent]
    exact hs.noReport
  · rw [hhalf']
    exact hnext
  · simp [hstarted', hstartedNow, hhalf']

omit [External] in
/-- The init phase starts: nothing has been buffered before. -/
theorem Attributed.restart {event : LambdaTelemetry} {rest : List LambdaTelemetry}
    (hs : Attributed config.processorConfig stream s)
    (hevents : processedEvents s.trace ++ s.halfProcessedEventBuffer ++ event :: rest =
      stream.events)
    (hinit : s.initHandled = false) (hevent : event.isInitStart = true)
    (htrace : s'.trace = s.trace ++ s.halfProcessedEventBuffer.map .degraded)
    (hcurrent : s'.invocationState = s.invocationState)
    (hstarted' : s'.initHandlingStarted = true) (hhalf' : s'.halfProcessedEventBuffer = [event]) :
    Attributed config.processorConfig stream s' := by
  obtain ⟨hprocessed, hhalf, hstarted⟩ := hs.fresh hinit
  rw [hprocessed, List.nil_append] at hevents
  have hempty : s.halfProcessedEventBuffer = [] := by
    by_contra hne
    obtain ⟨more, hmore⟩ := hhalf
    obtain ⟨first, half, hfirst⟩ := List.exists_cons_of_ne_nil hne
    rw [hfirst, TelemetryStream.events, TelemetryStream.init, List.cons_append,
      List.cons_append] at hevents
    have hmem : event ∈ stream.initEvents ++ stream.body := by
      rw [← (List.cons.inj hevents).2]
      simp
    exact absurd (hevent.symm.trans (stream.rest_not_initStart event hmem)) nofun
  have hnext : [event] <+: stream.init := by
    rw [hempty, List.nil_append, TelemetryStream.events, TelemetryStream.init,
      List.cons_append] at hevents
    rw [(List.cons.inj hevents).1]
    exact ⟨stream.initEvents, rfl⟩
  rw [hempty] at htrace
  refine hs.calls htrace rfl rfl rfl ?_ ?_ fun _ => ⟨hprocessed, ?_, ?_⟩
  · rw [hcurrent]
    exact Nat.zero_add _
  · rw [hcurrent]
    exact hs.noReport
  · rw [hhalf']
    exact hnext
  · simp [hstarted', hhalf']

omit [External] in
/-- The events of the init phase are processed with the state of the first invocation. -/
theorem Attributed.replay {requests : List InvokeEvent} {state state' : InvocationProcessingState}
    (hs : Attributed config.processorConfig stream s) (hstate : s.invocationState = some state)
    (enrolled : Enrolled requests s) (hinit : s.initHandled = false)
    (htrace : s'.trace =
      s.trace ++ s.halfProcessedEventBuffer.map (.telemetry state.serial))
    (hcurrent : s'.invocationState = some state') (hinit' : s'.initHandled = true)
    (hcarries : state'.reportData.isSome = (state.reportData.isSome ||
      (s.halfProcessedEventBuffer.map (ProcessorCall.telemetry state.serial)).any
        ProcessorCall.isReport)) :
    Attributed config.processorConfig stream s' := by
  obtain ⟨hprocessed, hhalf, -⟩ := hs.fresh hinit
  have htaken := hs.taken
  rw [hstate] at htaken
  have hnot : ∀ e ∈ s.halfProcessedEventBuffer, e.isReport = false :=
    fun e he => stream.init_not_report e (hhalf.subset he)
  have hzero : state.serial = 0 := by
    have hserial := enrolled.serial_add_one hstate
    rw [hprocessed] at htaken
    simp only [List.countP_nil, Option.isSome_some, if_true] at htaken
    omega
  have hcount : s.halfProcessedEventBuffer.countP LambdaTelemetry.isReport = 0 :=
    List.countP_eq_zero.2 fun e he => by simp [hnot e he]
  have howned : ownedEvents s.trace = [] := by
    rw [hs.owned, hprocessed]
    rfl
  refine ⟨?_, ?_, fun st hst => ?_, fun hmode => ?_, fun h => ?_⟩
  · simp only [htrace, ownedEvents_append, howned, ownedEvents_telemetry, processedEvents_append,
      hprocessed, processedEvents_telemetry, List.nil_append, hzero,
      Sections.numberBy_of_none hnot, List.map_map]
    rfl
  · have hcalls : takenInvocations (s.halfProcessedEventBuffer.map (.telemetry state.serial)) = [] :=
      takenInvocations_of_isFor fun call hcall => by
        obtain ⟨e, -, rfl⟩ := List.mem_map.1 hcall
        exact rfl
    simp only [htrace, hcurrent, takenInvocations_append, processedEvents_append,
      processedEvents_telemetry, List.length_append, List.countP_append, hcount,
      Option.isSome_some, htaken, hcalls]
    simp
  · rw [hcurrent, Option.some.injEq] at hst
    subst hst
    rw [hs.noReport state hstate, Option.isSome_none, Bool.false_or, List.any_map,
      List.any_eq_false.2 fun e he => by simp [ProcessorCall.isReport, hnot e he]] at hcarries
    simpa using hcarries
  · rw [htrace, droppedSources_append, hs.dropped hmode, droppedSources_telemetry]
    rfl
  · rw [hinit'] at h
    cases h

theorem Handled.attributed {requests : List InvokeEvent} {state : InvocationProcessingState}
    {event : LambdaTelemetry} {queue rest : List LambdaTelemetry} {o : Outcome Bool}
    (h : Handled config state event { s with telemetryEventQueue := queue } o)
    (hstate : s.invocationState = some state) (enrolled : Enrolled requests s)
    (hrequests : requests.map (·.requestId) <+: stream.requestIds)
    (hevents : processedEvents s.trace ++ s.halfProcessedEventBuffer ++ event :: (queue ++ rest) =
      stream.events)
    (hn : NoFailures o.1.trace) (hs : Attributed config.processorConfig stream s) :
    Attributed config.processorConfig stream o.1 := by
  have hserial := enrolled.serial_add_one hstate
  cases h with
  | buffered hinit hevent hstart =>
    exact hs.buffer hstate enrolled hrequests hevents hinit hevent hstart rfl rfl rfl rfl
  | restarted m out rng hinit hevent htimes =>
    exact hs.restart hevents hinit hevent rfl rfl rfl rfl
  | restartFailed m out rng e hinit hevent hfailed =>
    obtain ⟨bad, hbad⟩ := hfailed
    exact absurd hn (not_noFailures_of_mem (List.mem_append_right _ hbad) rfl)
  | replayed state' m out rng hinit hstarted hevent htimes carries =>
    exact hs.replay hstate enrolled hinit rfl rfl rfl carries.reportData
  | replayFailed state' m out rng e hinit hstarted hevent hfailed carries =>
    obtain ⟨bad, hbad⟩ := hfailed
    exact absurd hn (not_noFailures_of_mem (List.mem_append_right _ hbad) rfl)
  | processed state' m out rng hinit htime carries hreport =>
    have hcarries := carries.reportData
    rw [hreport, hs.noReport state hstate] at hcarries
    have hevent : event.isReport = false := by simpa [ProcessorCall.isReport] using hcarries.symm
    refine hs.process hstate hserial rfl rfl rfl rfl (fun _ => rfl) ?_ ?_ hinit
    · rw [hevent]
      rfl
    · intro st hst
      cases hst
      exact hreport
  | concluded state' m out rng hinit htime carries hreport hlogs =>
    have hcarries := carries.reportData
    rw [hreport, hs.noReport state hstate] at hcarries
    have hevent : event.isReport = true := by simpa [ProcessorCall.isReport] using hcarries.symm
    refine hs.process hstate hserial rfl rfl rfl rfl (fun hmode => ?_) ?_ ?_ hinit
    · simp [droppedSources, ProcessorCall.dropped, hlogs hmode hevent]
    · rw [hevent]
      rfl
    · intro st hst
      cases hst
  | failed e =>
    exact absurd hn (not_noFailures_of_mem (List.mem_append_right _ (List.mem_singleton_self _)) rfl)

omit [External] in
theorem Acquired.attributed [External] {o : Outcome (Option InvocationProcessingState)}
    (h : Acquired config s o) (hn : NoFailures o.1.trace)
    (hs : Attributed config.processorConfig stream s) :
    Attributed config.processorConfig stream o.1 := by
  cases h with
  | current => exact hs
  | nothing => exact hs
  | created invokeEvent queue state out rng hnone hqueue fresh =>
    refine hs.calls rfl rfl rfl rfl ?_ (fun st hst => ?_) hs.fresh
    · rw [hnone]
      rfl
    · cases hst
      exact fresh.reportData
  | rejected invokeEvent =>
    exact absurd hn (not_noFailures_of_mem (List.mem_append_right _ (List.mem_singleton_self _)) rfl)

theorem Received.attributed {spans : List ResourceSpans} (h : Received config spans s s')
    (hs : Attributed config.processorConfig stream s) :
    Attributed config.processorConfig stream s' := by
  cases h with
  | queued => exact hs.congr rfl rfl rfl rfl rfl
  | waiting => exact hs.congr rfl rfl rfl rfl rfl
  | processed state state' out hqueue hstate hdone carries noLogs =>
    refine hs.calls rfl rfl rfl rfl ?_ (fun st hst => ?_) hs.fresh
    · rw [hstate]
      rfl
    · cases hst
      have hcarries := carries.reportData
      rw [hs.noReport state hstate] at hcarries
      simpa using hcarries

/-- The invoke events and the telemetry are those of the stream. -/
structure Follows (stream : TelemetryStream) (h : History) : Prop where
  requests : h.requests.map (·.requestId) <+: stream.requestIds
  events : h.events <+: stream.events

theorem attributed_invariant (stream : TelemetryStream) :
    InvariantUnder config (fun h s => Enrolled h.requests s ∧ StateAccounted config h s) fun h s =>
      Follows stream h → NoFailures s.trace → Attributed config.processorConfig stream s where
  start now _ _ := by
    refine ⟨rfl, rfl, fun _ h => (by cases h), fun _ => rfl, fun _ => ⟨rfl, ?_, Iff.intro ?_ ?_⟩⟩
    · exact List.nil_prefix
    · exact fun _ => rfl
    · exact fun _ => rfl
  core {h s s'} _ hs hcore follows hn := by
    have same := SameCore.of_core hcore
    rw [same.trace] at hn
    exact (hs follows hn).congr same.trace same.invocationState same.initHandled
      same.initHandlingStarted same.halfProcessedEventBuffer
  acquired _ hs acquired follows hn :=
    acquired.attributed hn (hs follows (hn.of_isPrefix acquired.trace_grows))
  handled {h s state event queue o} known hs hstate hqueue handled follows hn := by
    obtain ⟨enrolled, accounted⟩ := known
    have hn' : NoFailures s.trace := hn.of_isPrefix handled.trace_grows
    obtain ⟨rest, hrest⟩ := follows.events
    have hevents : processedEvents s.trace ++ s.halfProcessedEventBuffer ++ event :: (queue ++ rest) =
        stream.events := by
      rw [← hrest, ← (accounted hn'.noErrors).events, hqueue]
      simp
    exact handled.attributed hstate enrolled follows.requests hevents hn (hs follows hn')
  enqueued e functionContext _ hs follows hn := by
    have follows' : Follows stream _ :=
      ⟨((List.prefix_append _ _).map _).trans follows.requests, follows.events⟩
    exact (hs follows' hn).congr rfl rfl rfl rfl rfl
  accepted events _ hs follows hn :=
    (hs ⟨follows.requests, (List.prefix_append _ _).trans follows.events⟩ hn).congr rfl rfl rfl rfl
      rfl
  received _ hs received follows hn :=
    received.attributed (hs ⟨follows.requests, follows.events⟩ (hn.of_isPrefix received.trace_grows))
  metrics _ _ _ hs follows hn := (hs follows hn).congr rfl rfl rfl rfl rfl
  sent {h s} functionContext _ hs follows hn := by
    obtain ⟨_, _, _, -, heq⟩ := @sendTelemetry_state config s functionContext
    rw [heq] at hn ⊢
    exact (hs ⟨follows.requests, follows.events⟩ hn).congr rfl rfl rfl rfl rfl

/-- What is known of the states of a run, if it follows the stream. -/
def InStream (config : TelemetryServiceConfig) (stream : TelemetryStream) (h : History)
    (s : TelemetryServiceState) : Prop :=
  (Enrolled h.requests s ∧ StateAccounted config h s) ∧
    (Follows stream h → NoFailures s.trace → Attributed config.processorConfig stream s)

theorem inStream_invariant (stream : TelemetryStream) :
    ServiceInvariant config (InStream config stream) :=
  (attributed_invariant stream).and (stateAccounted_invariant.under.and enrolled_invariant)

end

/-! ## All delivered -/

section

variable [External] {config : TelemetryServiceConfig} {stream : TelemetryStream} {now : Nat}
  {actions : List Action} {service : TelemetryService}

/-- The history of a run of the stream. -/
theorem serviceRun_inStream (hrun : serviceRun config now actions = some service)
    (hshutdown : ∀ a ∈ actions, a.isShutdown = false)
    (hrequests : (acceptedRequests actions).map (·.requestId) <+: stream.requestIds)
    (hevents : acceptedEvents actions <+: stream.events) :
    ∃ h, IsHistory (Machine.trail (serviceStep config) (TelemetryService.new config now) actions)
        service h ∧
      Follows stream h ∧ ServiceInvariant.Holds (InStream config stream) h service.state := by
  obtain ⟨hhandler, -⟩ := serviceRun_settled hrun hshutdown
  obtain ⟨h, hist, holds⟩ := ((inStream_invariant stream).run hrun).resolve_left hhandler
  refine ⟨h, hist, ⟨?_, ?_⟩, holds⟩
  · have heq := hist.requests
    rw [Machine.trail_actions hrun] at heq
    rw [heq, List.map_append] at hrequests
    exact (List.prefix_append _ _).trans hrequests
  · rwa [hist.events, Machine.trail_actions hrun]

/-- What is known of every state of a run of the stream. -/
theorem serviceRun_attributed (hrun : serviceRun config now actions = some service)
    (hshutdown : ∀ a ∈ actions, a.isShutdown = false)
    (hrequests : (acceptedRequests actions).map (·.requestId) <+: stream.requestIds)
    (hevents : acceptedEvents actions <+: stream.events) (hn : NoFailures service.state.trace) :
    ∃ requests, acceptedRequests actions = requests ++ service.handler.requests ∧
      Enrolled requests service.state ∧
      Accounted config.processorConfig (sentSources service.sent) (acceptedEvents actions)
        service.state ∧
      Attributed config.processorConfig stream service.state := by
  obtain ⟨h, hist, follows, -, ⟨enrolled, accounted⟩, attributed⟩ :=
    serviceRun_inStream hrun hshutdown hrequests hevents
  have heq := hist.requests
  rw [Machine.trail_actions hrun] at heq
  have accounted := accounted hn.noErrors
  rw [hist.events, hist.sent, Machine.trail_actions hrun] at accounted
  exact ⟨h.requests, heq, enrolled, accounted, attributed follows hn⟩

/-- When the whole stream and all invoke events have arrived, every event has been processed. -/
theorem Attributed.complete {requests : List InvokeEvent} {s : TelemetryServiceState}
    {sent : List LogSource} (h : Attributed config.processorConfig stream s)
    (enrolled : Enrolled requests s)
    (accounted : Accounted config.processorConfig sent stream.events s) (drained : s.Drained)
    (hrequests : requests.length = stream.requests.length) (hne : stream.requests ≠ []) :
    processedEvents s.trace = stream.events ∧ s.invocationState = none := by
  have hevents := accounted.events
  have hpos : 0 < stream.requests.length := List.length_pos_iff.2 hne
  have htaken := h.taken
  have hlength := congrArg List.length enrolled.taken
  rw [List.length_append, List.length_map, List.length_range, hrequests] at hlength
  rcases drained with hqueue | ⟨hnone, hqueue⟩
  · rw [hqueue, List.append_nil] at hevents
    have hinit : s.initHandled = true := by
      by_contra hne'
      obtain ⟨hprocessed, hhalf, -⟩ := h.fresh (by simpa using hne')
      rw [hprocessed, List.nil_append] at hevents
      have hcount := stream.countP_reports
      rw [← hevents, List.countP_eq_zero.2 fun e he => by
        simp [stream.init_not_report e (hhalf.subset he)]] at hcount
      omega
    rw [accounted.afterInit hinit, List.append_nil] at hevents
    refine ⟨hevents, ?_⟩
    rw [hevents, stream.countP_reports] at htaken
    by_contra hsome
    rw [if_pos (Option.isSome_iff_ne_none.2 hsome)] at htaken
    omega
  · have hcount : (processedEvents s.trace).countP LambdaTelemetry.isReport =
        stream.requests.length := by
      rw [hqueue, List.length_nil] at hlength
      rw [hnone] at htaken
      simp only [Option.isSome_none, Bool.false_eq_true, if_false] at htaken
      omega
    rw [List.append_assoc] at hevents
    have hrest := stream.eq_nil_of_countP_reports hevents hcount hne
    rw [hrest, List.append_nil] at hevents
    exact ⟨hevents, hnone⟩

/-- **Attribution.** Once the whole stream and all invoke events have arrived, each event has been
processed exactly once, in order and with the state of its owner; the batches and the output buffer
have exactly one record of each function log, in order, built with that state; and at every point of
the run the state at position `i` was that of the request at position `i`. -/
theorem logs_exactly_once (hne : stream.requests ≠ [])
    (hmode : config.processorConfig.logMode = .structured)
    (hrun : serviceRun config now actions = some service)
    (hshutdown : ∀ a ∈ actions, a.isShutdown = false)
    (hrequests : (acceptedRequests actions).map (·.requestId) = stream.requestIds)
    (hqueued : service.handler.requests = []) (hevents : acceptedEvents actions = stream.events)
    (hn : NoFailures service.state.trace) :
    ownedEvents service.state.trace = (stream.owned.map fun (owner, e) => (some owner, e)) ∧
      sentSources service.sent ++ functionSources service.state.outputBuffers.logsBuffer =
        (stream.owned.flatMap fun (owner, e) =>
          (functionLog e).toList.map (RawFunctionLog.source (some owner))) ∧
      ∀ before after mid, actions = before ++ after → serviceRun config now before = some mid →
        ∀ state, mid.state.invocationState = some state →
          stream.requestIds[state.serial]? = some state.invocationContext.requestId := by
  obtain ⟨requests, heq, enrolled, accounted, attributed⟩ := serviceRun_attributed hrun hshutdown
    ⟨[], by rw [List.append_nil, hrequests]⟩ ⟨[], by rw [List.append_nil, hevents]⟩ hn
  obtain ⟨-, -, -, hdrained⟩ := serviceRun_settled hrun hshutdown
  rw [hqueued, List.append_nil] at heq
  rw [hevents] at accounted
  have hlength : requests.length = stream.requests.length := by
    have := congrArg List.length hrequests
    rwa [heq, List.length_map, TelemetryStream.requestIds, List.length_map] at this
  obtain ⟨hprocessed, hnone⟩ := attributed.complete enrolled accounted (hdrained hn) hlength hne
  have howned : ownedEvents service.state.trace =
      stream.owned.map fun (owner, e) => (some owner, e) := by
    rw [attributed.owned, hprocessed, stream.owned_eq]
  refine ⟨howned, ?_, ?_⟩
  · have inOrder := accounted.inOrder hmode (attributed.dropped hmode)
    rw [TelemetryServiceState.delayedSources, hnone, List.append_nil] at inOrder
    rw [inOrder, processedSources_eq_owned hn, howned, List.flatMap_map]
  · intro before after mid hactions hmid state hstate
    obtain ⟨hhandler, -⟩ := serviceRun_settled hmid fun a ha =>
      hshutdown a (hactions ▸ List.mem_append_left _ ha)
    obtain ⟨h, hist, -, enrolled'⟩ := (enrolled_invariant.run hmid).resolve_left hhandler
    have heq' := hist.requests
    rw [Machine.trail_actions hmid] at heq'
    have hpre : h.requests.map (·.requestId) <+: stream.requestIds := by
      rw [← hrequests, hactions, acceptedRequests, List.flatMap_append, List.map_append,
        show before.flatMap Action.requests = _ from heq', List.map_append, List.append_assoc]
      exact List.prefix_append _ _
    obtain ⟨more, hmore⟩ := hpre
    have hcurrent := (enrolled'.current state hstate).1
    obtain ⟨hlt, -⟩ := List.getElem?_eq_some_iff.1 hcurrent
    rw [← hmore, List.getElem?_append_left hlt, hcurrent]

end

/-- A request without logs between its start and its `PlatformRuntimeDone`. -/
def sampleRequest (requestId : String) (timestampMillis : Int) (logText : String) :
    RequestTelemetry where
  requestId
  start := sampleStart timestampMillis requestId
  logs := []
  runtimeDone := sampleRuntimeDone (timestampMillis + 1) requestId
  laterLogs := [sampleLog (timestampMillis + 2) logText]
  report := sampleReport (timestampMillis + 3) requestId
  isStart := by simp [sampleStart, LambdaTelemetry.isStartOf]
  isPlain := by simp [sampleLog, LambdaTelemetry.isPlain, LambdaTelemetry.isInitStart,
    LambdaTelemetry.requestId]
  isRuntimeDone := ⟨rfl, rfl⟩
  isReport := ⟨rfl, rfl⟩

/-- Two requests, each with a log after its `PlatformRuntimeDone`. -/
def sampleStream : TelemetryStream where
  initStart := sampleInitStart 1
  initEvents := [sampleLog 2 "init"]
  requests := [sampleRequest "r1" 10 "first", sampleRequest "r2" 20 "second"]
  isInitStart := rfl
  isPlain := by simp [sampleLog, LambdaTelemetry.isPlain, LambdaTelemetry.isInitStart,
    LambdaTelemetry.requestId]

/-- All telemetry before the second invoke event, which then finds its events in the queue. -/
def sampleStreamActions : List Action :=
  [.invoke (sampleInvoke "r1") sampleContext, .handler 0, sampleTelemetry sampleStream.events,
    .handler 0, .handler 0, .handler 0, .handler 0, .handler 0, .handler 0,
    .invoke (sampleInvoke "r2") sampleContext, .handler 0]

theorem logs_exactly_once_two_requests :
    ∃ service : TelemetryService,
      @serviceRun sampleExternal (sampleConfig .reportAfterInvocation .otelInstrumentation) 0
        sampleStreamActions = some service ∧
      sentSources service.sent ++ functionSources service.state.outputBuffers.logsBuffer =
        (sampleStream.owned.flatMap fun (owner, e) =>
          (@functionLog sampleExternal e).toList.map (RawFunctionLog.source (some owner))) := by
  obtain ⟨service, hrun, hn, hqueued⟩ := @exists_run sampleExternal
    (sampleConfig .reportAfterInvocation .otelInstrumentation) 0 sampleStreamActions
    (fun service => (∀ call ∈ service.state.trace, call.isFailure = false) ∧
      service.handler.requests.isEmpty = true) _ (by decide +kernel)
  exact ⟨service, hrun, (@logs_exactly_once sampleExternal _ sampleStream _ _ _
    (by simp [sampleStream]) rfl hrun
    (by simp [sampleStreamActions, sampleTelemetry, Action.isShutdown]) rfl
    (List.isEmpty_iff.1 hqueued) rfl hn).2.1⟩

end TelemetryExporter
