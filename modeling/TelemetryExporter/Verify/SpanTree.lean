import TelemetryExporter.Verify.PlatformEvents

/-!
# The platform's spans of an invocation

In TelemetryApi mode the platform's spans are a tree: the context span is the root, the init and the
invocation span are its children and lie in it. They are made at two moments, from whichever events
have come.
-/

namespace TelemetryExporter

open Machine

/-! ## The spans that have been made -/

/-- The spans that are made from the events so far. -/
def madeSpans (state : InvocationProcessingState) : List Span :=
  (if state.runtimeDoneData.isSome then makeSpansAfterInvocation state else []) ++
    makeSpansAfterReport state

section

variable {state state' : InvocationProcessingState}

theorem makeSpansAfterReport_none (h : state.reportData = none) :
    makeSpansAfterReport state = [] := by
  unfold makeSpansAfterReport
  rw [h]
  cases state.startData <;> cases state.runtimeDoneData <;> rfl

theorem madeSpans_none (h : state.runtimeDoneData = none) : madeSpans state = [] := by
  unfold madeSpans makeSpansAfterReport
  rw [h, Option.isSome_none, if_neg Bool.false_ne_true]
  cases state.startData <;> rfl

/-- Platform spans are made from the data of the events, and the captured spans. -/
theorem makeSpans_congr (hkeeps : KeepsData state state')
    (htracing : state'.tracingState = state.tracingState) :
    makeSpansAfterInvocation state' = makeSpansAfterInvocation state ∧
      makeSpansAfterReport state' = makeSpansAfterReport state := by
  obtain ⟨h₁, h₂, h₃, h₄, h₅, h₆, h₇, h₈, h₉, h₁₀⟩ := hkeeps
  cases state
  cases state'
  simp only at h₁ h₂ h₃ h₄ h₅ h₆ h₇ h₈ h₉ h₁₀ htracing
  subst h₁ h₂ h₃ h₄ h₅ h₆ h₇ h₈ h₉ h₁₀ htracing
  exact ⟨rfl, rfl⟩

theorem madeSpans_congr (hkeeps : KeepsData state state')
    (htracing : state'.tracingState = state.tracingState) :
    madeSpans state' = madeSpans state := by
  obtain ⟨hinvocation, hreport⟩ := makeSpans_congr hkeeps htracing
  unfold madeSpans
  rw [hinvocation, hreport, hkeeps.runtimeDoneData]

theorem platformSpans_congr (event : LambdaTelemetry) (hkeeps : KeepsData state state')
    (htracing : state'.tracingState = state.tracingState) :
    platformSpans event state' = platformSpans event state := by
  obtain ⟨hinvocation, hreport⟩ := makeSpans_congr hkeeps htracing
  unfold platformSpans
  rw [hinvocation, hreport, htracing]

end

section

variable [External] {config : TelemetryProcessorConfig} {past : List InvocationInput}
  {p p' : Processing InvocationProcessingState} {state : InvocationProcessingState}

/-- An event adds the spans that it completes. -/
theorem madeSpans_withEvent {event : LambdaTelemetry} {rng : Rng}
    (horder : InPlatformOrder (past ++ [.telemetry event]))
    (hdata : HasData (telemetryOf past) state)
    (hproduce : state.tracingState.shouldProduceSpans = true) :
    madeSpans (withEvent event rng state) =
      madeSpans state ++ platformSpans event (withEvent event rng state) := by
  have htracing : (withEvent event rng state).tracingState = state.tracingState := by
    unfold withEvent
    cases event.record <;> rfl
  -- before the end of the runtime there are no spans
  have early {kind : PlatformKind} (hkind : event.platformKind? = some kind)
      (hposition : kind.position ≤ 4) : state.runtimeDoneData = none :=
    hdata.runtimeDone.trans (horder.latestOf_eq_none hkind hposition)
  have late {kind : PlatformKind} (hkind : event.platformKind? = some kind)
      (hposition : kind.position ≤ 5) : state.reportData = none :=
    hdata.report.trans (horder.latestOf_eq_none hkind hposition)
  have nothing {state' : InvocationProcessingState} (hnone : state.runtimeDoneData = none)
      (hkeeps : state'.runtimeDoneData = state.runtimeDoneData) :
      madeSpans state' = madeSpans state ++ [] := by
    rw [madeSpans_none hnone, madeSpans_none (hkeeps.trans hnone)]
    rfl
  unfold platformSpans
  rw [htracing, if_pos hproduce]
  unfold LambdaTelemetry.platformKind? at early late
  unfold withEvent
  cases hrecord : event.record with
  | platformInitStart =>
    rw [hrecord] at early
    exact nothing (early rfl (by decide)) rfl
  | platformInitRuntimeDone =>
    rw [hrecord] at early
    exact nothing (early rfl (by decide)) rfl
  | platformInitReport =>
    rw [hrecord] at early
    exact nothing (early rfl (by decide)) rfl
  | platformStart =>
    rw [hrecord] at early
    exact nothing (early rfl (by decide)) rfl
  | platformRuntimeDone =>
    rw [hrecord] at early late
    rw [madeSpans_none (early rfl (by decide))]
    unfold madeSpans
    refine (congrArg (_ ++ ·) (makeSpansAfterReport_none ?_)).trans (List.append_nil _)
    exact late rfl (by decide)
  | platformReport =>
    rw [hrecord] at late
    unfold madeSpans
    rw [makeSpansAfterReport_none (late rfl (by decide)), List.append_nil]
    rfl
  | _ => exact (List.append_nil _).symm

/-- What the inputs so far have made of an invocation's state. -/
structure SpansMade (config : TelemetryProcessorConfig) (p₀ : Processing InvocationProcessingState)
    (past : List InvocationInput) (p : Processing InvocationProcessingState) : Prop where
  hasData : HasData (telemetryOf past) p.state
  rootSpanId : p.state.rootSpanId = p₀.state.rootSpanId
  shouldProduceSpans : p.state.tracingState.shouldProduceSpans = true
  hasCaptured : ∃ slots, HasCaptured config slots p.state.tracingState
  spansBuffer : p.outputBuffers.spansBuffer = p₀.outputBuffers.spansBuffer ++ madeSpans p.state

theorem SpansMade.telemetry {p₀ : Processing InvocationProcessingState} {event : LambdaTelemetry}
    (hmode : config.tracingMode = .telemetryApi) (h : SpansMade config p₀ past p)
    (horder : InPlatformOrder (past ++ [.telemetry event])) :
    SpansMade config p₀ (past ++ [.telemetry event])
      (processRecord config event.nanos event.record p) := by
  have hkeeps := @processRecord_data _ config p event
  have htracing : (processRecord config event.nanos event.record p).state.tracingState =
      (withEvent event p.rng p.state).tracingState := by
    rw [processRecord_tracingState]
    unfold withEvent
    cases event.record <;> rfl
  constructor
  · rw [telemetryOf_append]
    exact (h.hasData.event event p.rng).keeps hkeeps
  · rw [hkeeps.rootSpanId, ← h.rootSpanId]
    unfold withEvent
    cases event.record <;> rfl
  · rw [processRecord_tracingState]
    exact h.shouldProduceSpans
  · rw [processRecord_tracingState]
    exact h.hasCaptured
  · rw [processRecord_spansBuffer, madeSpansAfter_of_telemetryApi hmode, h.spansBuffer,
      List.append_assoc,
      madeSpans_congr hkeeps htracing, platformSpans_congr event hkeeps htracing,
      madeSpans_withEvent horder h.hasData h.shouldProduceSpans]

theorem SpansMade.functionSpans {p₀ : Processing InvocationProcessingState}
    {spans : List ResourceSpans} (h : SpansMade config p₀ past p)
    (horder : InPlatformOrder (past ++ [.functionSpans spans])) :
    SpansMade config p₀ (past ++ [.functionSpans spans]) (processFunctionSpans config spans p) := by
  have hkeeps := @processFunctionSpans_data _ config p spans
  obtain ⟨slots, hcaptured⟩ := h.hasCaptured
  have hreceived := processFunctionSpans_received hcaptured spans
  have hnone : p.state.runtimeDoneData = none :=
    h.hasData.runtimeDone.trans horder.runtimeDone_eq_none
  constructor
  · rw [telemetryOf_append]
    exact (List.append_nil (telemetryOf past)).symm ▸ h.hasData.keeps hkeeps
  · rw [hkeeps.rootSpanId, h.rootSpanId]
  · rw [hreceived.shouldProduceSpans, h.shouldProduceSpans]
  · exact ⟨_, hreceived.hasCaptured⟩
  · rw [processFunctionSpans_spansBuffer, h.spansBuffer, madeSpans_none hnone,
      madeSpans_none (hkeeps.runtimeDoneData.trans hnone)]

/-- The spans buffer after a run. -/
theorem run_spansMade {inputs : List InvocationInput} (hfresh : IsFresh config p.state)
    (hmode : config.tracingMode = .telemetryApi)
    (hproduce : p.state.tracingState.shouldProduceSpans = true) (horder : InPlatformOrder inputs)
    (hrun : run (inputStep config) p inputs = some p') : SpansMade config p inputs p' := by
  have hnone : p.state.runtimeDoneData = none := (HasData.of_isFresh hfresh).runtimeDone
  refine run_actions (I := fun past q => InPlatformOrder past → SpansMade config p past q)
    ?_ ?_ hrun horder
  · intro _
    refine ⟨.of_isFresh hfresh, rfl, hproduce, ⟨_, hasCaptured_of_isFresh hfresh⟩, ?_⟩
    rw [madeSpans_none hnone, List.append_nil]
  · intro past q input q' h hstep horder
    have hpast := h horder.init
    cases input with
    | telemetry event =>
      rw [inputStep_telemetry hstep]
      exact hpast.telemetry hmode horder
    | functionSpans spans =>
      rw [inputStep_functionSpans hstep]
      exact hpast.functionSpans horder

end

/-! ## The three spans -/

/-- The init span of `make_spans_after_invocation`. -/
def platformInitSpan (state : InvocationProcessingState) : Option Span :=
  match state.initSpanId, state.initStartData, state.initRuntimeDoneData, state.initReportData with
  | some initSpanId, some start, some done, some report =>
    some (makeInitSpan state state.currentTraceId state.rootSpanId initSpanId start done report)
  | _, _, _, _ => none

/-- The invocation span of `make_spans_after_invocation`. -/
def platformInvocationSpan (state : InvocationProcessingState) : Option Span :=
  match state.startData, state.runtimeDoneData with
  | some start, some done => some (makeInvocationSpan state start done)
  | _, _ => none

/-- The context span of `make_spans_after_report`. -/
def platformContextSpan (state : InvocationProcessingState) : Option Span :=
  (makeSpansAfterReport state).head?

/-- The time at which the context span starts. -/
def InvocationProcessingState.contextStart (state : InvocationProcessingState)
    (start : PlatformStartData) : Int :=
  match state.initStartData, state.initReportData with
  | some initStart, _ => initStart.time
  | none, some initReport => initReport.time - initReport.durationNanos
  | none, none => start.time

section

variable {state : InvocationProcessingState} {span : Span}

theorem makeSpansAfterInvocation_eq (state : InvocationProcessingState) :
    makeSpansAfterInvocation state =
      (platformInitSpan state).toList ++ (platformInvocationSpan state).toList := by
  unfold makeSpansAfterInvocation platformInitSpan platformInvocationSpan
  cases state.initSpanId <;> cases state.initStartData <;> cases state.initRuntimeDoneData <;>
    cases state.initReportData <;> cases state.startData <;> cases state.runtimeDoneData <;> rfl

theorem makeSpansAfterReport_eq (state : InvocationProcessingState) :
    makeSpansAfterReport state = (platformContextSpan state).toList := by
  unfold platformContextSpan makeSpansAfterReport
  cases state.startData <;> cases state.runtimeDoneData <;> cases state.reportData <;> rfl

theorem platformInitSpan_eq_some (h : platformInitSpan state = some span) :
    ∃ initSpanId start done report, state.initSpanId = some initSpanId ∧
      state.initStartData = some start ∧ state.initRuntimeDoneData = some done ∧
      state.initReportData = some report ∧
      span = makeInitSpan state state.currentTraceId state.rootSpanId initSpanId start done
        report := by
  unfold platformInitSpan at h
  split at h
  next initSpanId start done report hid hstart hdone hreport =>
    cases h
    exact ⟨initSpanId, start, done, report, hid, hstart, hdone, hreport, rfl⟩
  next => cases h

theorem platformInvocationSpan_eq_some (h : platformInvocationSpan state = some span) :
    ∃ start done, state.startData = some start ∧ state.runtimeDoneData = some done ∧
      span = makeInvocationSpan state start done := by
  unfold platformInvocationSpan at h
  split at h
  next start done hstart hdone =>
    cases h
    exact ⟨start, done, hstart, hdone, rfl⟩
  next => cases h

/-- The ids and times of a context span. -/
theorem platformContextSpan_eq_some (h : platformContextSpan state = some span) :
    ∃ start done report, state.startData = some start ∧ state.runtimeDoneData = some done ∧
      state.reportData = some report ∧ span.traceId = state.currentTraceId ∧
      span.spanId = state.rootSpanId ∧ span.parentSpanId = [] ∧
      span.name = state.invocationContext.invokedArn.functionName ++ " context" ∧
      span.startTimeUnixNano = asU64 (state.contextStart start) ∧
      span.endTimeUnixNano = asU64 report.time := by
  unfold platformContextSpan makeSpansAfterReport at h
  split at h
  next start done report hstart hdone hreport =>
    cases h
    refine ⟨start, done, report, hstart, hdone, hreport, rfl, rfl, rfl, rfl, ?_, rfl⟩
    unfold InvocationProcessingState.contextStart
    cases state.initStartData <;> cases state.initReportData <;> rfl
  next => cases h

theorem platformInitSpan_isSome (hid : state.initSpanId.isSome = state.initStartData.isSome) :
    (platformInitSpan state).isSome = true ↔ state.initStartData.isSome = true ∧
      state.initRuntimeDoneData.isSome = true ∧ state.initReportData.isSome = true := by
  unfold platformInitSpan
  cases hstart : state.initStartData with
  | none => simp
  | some start =>
    rw [hstart] at hid
    obtain ⟨initSpanId, hinit⟩ := Option.isSome_iff_exists.1 hid
    rw [hinit]
    cases state.initRuntimeDoneData <;> cases state.initReportData <;> simp

theorem platformInvocationSpan_isSome : (platformInvocationSpan state).isSome = true ↔
    state.startData.isSome = true ∧ state.runtimeDoneData.isSome = true := by
  unfold platformInvocationSpan
  cases state.startData <;> cases state.runtimeDoneData <;> simp

theorem platformContextSpan_isSome : (platformContextSpan state).isSome = true ↔
    state.startData.isSome = true ∧ state.runtimeDoneData.isSome = true ∧
      state.reportData.isSome = true := by
  unfold platformContextSpan makeSpansAfterReport
  cases state.startData <;> cases state.runtimeDoneData <;> cases state.reportData <;> simp

end

/-! ## The tree -/

/-- The ids that the exporter draws and those of the invocation context are distinct. -/
structure DistinctIds (state : InvocationProcessingState) : Prop where
  root : state.rootSpanId ≠ state.invocationContext.invocationSpanId
  init : ∀ initSpanId, state.initSpanId = some initSpanId →
    initSpanId ≠ state.rootSpanId ∧ initSpanId ≠ state.invocationContext.invocationSpanId

/-- The function's span that is taken for the invocation span has another id than these. -/
def CapturedApart (state : InvocationProcessingState) : Prop :=
  ∀ span, state.invocationSpan = some span → span.spanId ≠ state.rootSpanId ∧
    ∀ initSpanId, state.initSpanId = some initSpanId → initSpanId ≠ span.spanId

/-- The times of the first span contain those of the second. -/
def Span.Contains (outer inner : Span) : Prop :=
  outer.startTimeUnixNano ≤ inner.startTimeUnixNano ∧ inner.endTimeUnixNano ≤ outer.endTimeUnixNano

/-- The init, the invocation and the context span are a tree. Each is there exactly if its events
have come. -/
structure SpanTree (kinds : List PlatformKind) (state : InvocationProcessingState)
    (init invocation context : Option Span) : Prop where
  init_iff : init.isSome = true ↔ .initStart ∈ kinds ∧ .initRuntimeDone ∈ kinds ∧
    .initReport ∈ kinds ∧ .runtimeDone ∈ kinds
  invocation_iff : invocation.isSome = true ↔ .start ∈ kinds ∧ .runtimeDone ∈ kinds
  context_iff : context.isSome = true ↔ .start ∈ kinds ∧ .runtimeDone ∈ kinds ∧ .report ∈ kinds
  sameTrace : ∀ a ∈ init.toList ++ invocation.toList ++ context.toList,
    ∀ b ∈ init.toList ++ invocation.toList ++ context.toList, a.traceId = b.traceId
  initSpan : ∀ span, init = some span →
    span.name = state.functionContext.arn.functionName ++ " init" ∧
      span.parentSpanId = state.rootSpanId
  invocationSpan : ∀ span, invocation = some span →
    span.name = state.functionContext.arn.functionName ++ " invocation" ∧
      span.parentSpanId = state.rootSpanId
  contextSpan : ∀ span, context = some span →
    span.name = state.invocationContext.invokedArn.functionName ++ " context" ∧
      span.spanId = state.rootSpanId ∧ span.parentSpanId = []
  contains : ∀ root, context = some root → ∀ span, init = some span ∨ invocation = some span →
    root.Contains span
  distinctIds : DistinctIds state → CapturedApart state →
    ((init.toList ++ invocation.toList ++ context.toList).map (·.spanId)).Nodup

section

variable {events : List LambdaTelemetry} {state : InvocationProcessingState} {span root : Span}

/-- The context span starts no later than the init phase and the invocation. -/
theorem contextStart_le (hdata : HasData events state) (htimes : EventsInTime events)
    (hkinds : (events.filterMap LambdaTelemetry.position?).Pairwise (· < ·))
    {start : PlatformStartData} (hstart : state.startData = some start) :
    0 ≤ state.contextStart start ∧ state.contextStart start ≤ start.time ∧
      ∀ initStart, state.initStartData = some initStart →
        state.contextStart start = initStart.time := by
  have hstart' := hdata.start.symm.trans hstart
  unfold InvocationProcessingState.contextStart
  cases hinit : state.initStartData with
  | some initStart =>
    have hinit' := hdata.initStart.symm.trans hinit
    have hle := PlatformData.time_le htimes hkinds (by decide) hinit' hstart'
    have hnonneg := PlatformData.time_nonneg htimes hinit'
    refine ⟨hnonneg, hle, ?_⟩
    intro initStart' heq
    cases heq
    rfl
  | none =>
    cases hreport : state.initReportData with
    | some initReport =>
      have hreport' := hdata.initReport.symm.trans hreport
      have hle := PlatformData.time_le htimes hkinds (by decide) hreport' hstart'
      obtain ⟨event, hevent, hread⟩ := Latest.exists_event hreport'
      obtain ⟨hnonneg, hduration⟩ := htimes.initDuration event hevent initReport hread
      have htime : initReport.time = event.nanos :=
        PlatformData.initReport.time_eq event initReport hread
      have hle : initReport.time ≤ start.time := hle
      refine ⟨?_, ?_, ?_⟩
      · have hsub := Int.sub_nonneg_of_le (htime ▸ hduration)
        exact hsub
      · have hsub := Int.sub_le_self initReport.time hnonneg
        exact Int.le_trans hsub hle
      · intro initStart heq
        cases heq
    | none =>
      refine ⟨PlatformData.time_nonneg htimes hstart', Int.le_refl _, ?_⟩
      intro initStart heq
      cases heq

/-- The init span is made at the end of the runtime. -/
def emittedInitSpan (state : InvocationProcessingState) : Option Span :=
  if state.runtimeDoneData.isSome then platformInitSpan state else none

theorem madeSpans_eq (state : InvocationProcessingState) :
    madeSpans state = (emittedInitSpan state).toList ++ (platformInvocationSpan state).toList ++
      (platformContextSpan state).toList := by
  unfold madeSpans emittedInitSpan
  rw [makeSpansAfterReport_eq]
  by_cases hdone : state.runtimeDoneData.isSome = true
  · rw [if_pos hdone, if_pos hdone, makeSpansAfterInvocation_eq]
  · rw [if_neg hdone, if_neg hdone]
    have hnone : platformInvocationSpan state = none := by
      rw [← Option.not_isSome_iff_eq_none, platformInvocationSpan_isSome]
      exact fun h => hdone h.2
    rw [hnone]
    rfl

theorem emittedInitSpan_eq_some (h : emittedInitSpan state = some span) :
    platformInitSpan state = some span := by
  unfold emittedInitSpan at h
  split at h
  · exact h
  · cases h

theorem asU64_mono {x y : Int} (hx : 0 ≤ x) (hxy : x ≤ y) (hy : y < UInt64.size) :
    asU64 x ≤ asU64 y := by
  unfold asU64
  rw [Int.emod_eq_of_lt hx (by omega), Int.emod_eq_of_lt (by omega) hy]
  omega

/-- The context span contains its children. -/
theorem contextSpan_contains (hdata : HasData events state) (htimes : EventsInTime events)
    (hkinds : (events.filterMap LambdaTelemetry.position?).Pairwise (· < ·))
    (hrange : ∀ event ∈ events, event.nanos < UInt64.size)
    (hroot : platformContextSpan state = some root)
    (hspan : emittedInitSpan state = some span ∨ platformInvocationSpan state = some span) :
    root.Contains span := by
  obtain ⟨start, done, report, hstart, hdone, hreport, -, -, -, -, hrootStart, hrootEnd⟩ :=
    platformContextSpan_eq_some hroot
  obtain ⟨hnonneg, hle, hinit⟩ := contextStart_le hdata htimes hkinds hstart
  have hstart' := hdata.start.symm.trans hstart
  have hreport' := hdata.report.symm.trans hreport
  have hreportRange := PlatformData.time_lt hrange hreport'
  unfold Span.Contains
  rw [hrootStart, hrootEnd]
  rcases hspan with hspan | hspan
  · obtain ⟨initSpanId, initStart, initDone, initReport, -, hinitStart, -, hinitReport, rfl⟩ :=
      platformInitSpan_eq_some (emittedInitSpan_eq_some hspan)
    have hinitReport' := hdata.initReport.symm.trans hinitReport
    rw [hinit initStart hinitStart]
    refine ⟨Nat.le_refl _, ?_⟩
    apply asU64_mono
    · exact PlatformData.time_nonneg htimes hinitReport'
    · exact PlatformData.time_le htimes hkinds (by decide) hinitReport' hreport'
    · exact hreportRange
  · obtain ⟨start', done', hstart₂, hdone₂, rfl⟩ := platformInvocationSpan_eq_some hspan
    cases hstart.symm.trans hstart₂
    cases hdone.symm.trans hdone₂
    have hdone' := hdata.runtimeDone.symm.trans hdone
    constructor
    · apply asU64_mono hnonneg hle
      exact PlatformData.time_lt hrange hstart'
    · apply asU64_mono
      · exact PlatformData.time_nonneg htimes hdone'
      · exact PlatformData.time_le htimes hkinds (by decide) hdone' hreport'
      · exact hreportRange

/-! ## Ids -/

theorem currentSpanId_ne_root (hids : DistinctIds state) (happart : CapturedApart state) :
    state.currentSpanId ≠ state.rootSpanId := by
  unfold InvocationProcessingState.currentSpanId
  split
  · cases hinit : state.initSpanId with
    | none => exact hids.root.symm
    | some initSpanId => exact (hids.init initSpanId hinit).1
  · cases hspan : state.invocationSpan with
    | none => exact hids.root.symm
    | some span => exact (happart span hspan).1

/-- After the init phase, the current id is not that of the init span. -/
theorem currentSpanId_ne_init (hids : DistinctIds state) (happart : CapturedApart state)
    (hinitDone : state.initReportData.isSome = true) {initSpanId : Bytes}
    (hinit : state.initSpanId = some initSpanId) : initSpanId ≠ state.currentSpanId := by
  unfold InvocationProcessingState.currentSpanId
  split
  next hphase =>
    rw [Option.isNone_iff_eq_none] at hphase
    rw [hphase.2] at hinitDone
    cases hinitDone
  next =>
    cases hspan : state.invocationSpan with
    | none => exact (hids.init initSpanId hinit).2
    | some span => exact (happart span hspan).2 initSpanId hinit

theorem spanIds_nodup (hids : DistinctIds state) (happart : CapturedApart state) :
    (((emittedInitSpan state).toList ++ (platformInvocationSpan state).toList ++
      (platformContextSpan state).toList).map (·.spanId)).Nodup := by
  have hinvocation : ∀ span ∈ (platformInvocationSpan state).toList,
      span.spanId = state.currentSpanId := by
    intro span hspan
    obtain ⟨start, done, -, -, rfl⟩ :=
      platformInvocationSpan_eq_some (Option.mem_toList.1 hspan)
    rfl
  have hcontext : ∀ span ∈ (platformContextSpan state).toList, span.spanId = state.rootSpanId := by
    intro span hspan
    obtain ⟨_, _, _, -, -, -, -, hid, -⟩ :=
      platformContextSpan_eq_some (Option.mem_toList.1 hspan)
    exact hid
  have hinit : ∀ span ∈ (emittedInitSpan state).toList, span.spanId ≠ state.rootSpanId ∧
      span.spanId ≠ state.currentSpanId := by
    intro span hspan
    obtain ⟨initSpanId, _, _, report, hid, -, -, hreport, rfl⟩ :=
      platformInitSpan_eq_some (emittedInitSpan_eq_some (Option.mem_toList.1 hspan))
    refine ⟨(hids.init initSpanId hid).1, ?_⟩
    exact currentSpanId_ne_init hids happart (Option.isSome_of_eq_some hreport) hid
  have single (o : Option Span) : (o.toList.map (·.spanId)).Nodup := by
    cases o with
    | none => exact List.nodup_nil
    | some span => exact List.nodup_singleton _
  rw [List.map_append, List.map_append]
  refine List.Nodup.append (List.Nodup.append (single _) (single _) ?_) (single _) ?_
  · intro id hmem hmem'
    obtain ⟨a, ha, rfl⟩ := List.mem_map.1 hmem
    obtain ⟨b, hb, heq⟩ := List.mem_map.1 hmem'
    rw [hinvocation b hb] at heq
    exact (hinit a ha).2 heq.symm
  · intro id hmem hmem'
    obtain ⟨c, hc, rfl⟩ := List.mem_map.1 hmem'
    rw [hcontext c hc] at hmem
    rcases List.mem_append.1 hmem with hmem | hmem
    · obtain ⟨a, ha, heq⟩ := List.mem_map.1 hmem
      exact (hinit a ha).1 heq
    · obtain ⟨b, hb, heq⟩ := List.mem_map.1 hmem
      rw [hinvocation b hb] at heq
      exact currentSpanId_ne_root hids happart heq

end

/-! ## A run -/

theorem emittedInitSpan_isSome {state : InvocationProcessingState}
    (hid : state.initSpanId.isSome = state.initStartData.isSome) :
    (emittedInitSpan state).isSome = true ↔ state.initStartData.isSome = true ∧
      state.initRuntimeDoneData.isSome = true ∧ state.initReportData.isSome = true ∧
      state.runtimeDoneData.isSome = true := by
  unfold emittedInitSpan
  by_cases hdone : state.runtimeDoneData.isSome = true
  · rw [if_pos hdone, platformInitSpan_isSome hid]
    simp only [hdone, and_true]
  · rw [if_neg hdone]
    simp only [hdone, Option.isSome_none, Bool.false_eq_true, and_false]

/-- All spans have the current trace. -/
theorem traceId_of_emitted {state : InvocationProcessingState} {span : Span}
    (h : span ∈ (emittedInitSpan state).toList ++ (platformInvocationSpan state).toList ++
      (platformContextSpan state).toList) : span.traceId = state.currentTraceId := by
  rcases List.mem_append.1 h with h | h
  · rcases List.mem_append.1 h with h | h
    · obtain ⟨_, _, _, _, -, -, -, -, rfl⟩ :=
        platformInitSpan_eq_some (emittedInitSpan_eq_some (Option.mem_toList.1 h))
      rfl
    · obtain ⟨_, _, -, -, rfl⟩ := platformInvocationSpan_eq_some (Option.mem_toList.1 h)
      rfl
  · obtain ⟨_, _, _, -, -, -, htrace, -⟩ := platformContextSpan_eq_some (Option.mem_toList.1 h)
    exact htrace

/-- The platform's spans are a tree. -/
theorem spanTree_of_hasData {events : List LambdaTelemetry} {state : InvocationProcessingState}
    (hdata : HasData events state) (htimes : EventsInTime events)
    (hkinds : (events.filterMap LambdaTelemetry.position?).Pairwise (· < ·))
    (hrange : ∀ event ∈ events, event.nanos < UInt64.size) :
    SpanTree (platformKinds events) state (emittedInitSpan state) (platformInvocationSpan state)
      (platformContextSpan state) where
  init_iff := by
    rw [emittedInitSpan_isSome hdata.initSpanId, hdata.initStart_iff, hdata.initRuntimeDone_iff,
      hdata.initReport_iff, hdata.runtimeDone_iff]
  invocation_iff := by
    rw [platformInvocationSpan_isSome, hdata.start_iff, hdata.runtimeDone_iff]
  context_iff := by
    rw [platformContextSpan_isSome, hdata.start_iff, hdata.runtimeDone_iff, hdata.report_iff]
  sameTrace a ha b hb := (traceId_of_emitted ha).trans (traceId_of_emitted hb).symm
  initSpan span hspan := by
    obtain ⟨_, _, _, _, -, -, -, -, rfl⟩ := platformInitSpan_eq_some (emittedInitSpan_eq_some hspan)
    exact ⟨rfl, rfl⟩
  invocationSpan span hspan := by
    obtain ⟨_, _, -, -, rfl⟩ := platformInvocationSpan_eq_some hspan
    exact ⟨rfl, rfl⟩
  contextSpan span hspan := by
    obtain ⟨_, _, _, -, -, -, -, hid, hparent, hname, -⟩ := platformContextSpan_eq_some hspan
    exact ⟨hname, hid, hparent⟩
  contains root hroot span hspan := contextSpan_contains hdata htimes hkinds hrange hroot hspan
  distinctIds := spanIds_nodup

section

variable [External] {config : TelemetryProcessorConfig} {p : Processing InvocationProcessingState}

/-- Events with times in range are processed without error. -/
theorem exists_run_of_times {inputs : List InvocationInput}
    (htimes : ∀ event ∈ telemetryOf inputs, 0 ≤ event.timestampMillis ∧ event.nanos < UInt64.size) :
    ∃ p', run (inputStep config) p inputs = some p' := by
  induction inputs generalizing p with
  | nil => exact ⟨p, rfl⟩
  | cons input inputs ih =>
    have hstep : ∃ q, inputStep config p input = some q := by
      cases input with
      | functionSpans spans => exact ⟨_, rfl⟩
      | telemetry event =>
        obtain ⟨hepoch, hrange⟩ := htimes event List.mem_cons_self
        have hrange : event.timestampMillis * 1000000 < 18446744073709551616 := hrange
        have htime : eventTimestamp event = .ok event.nanos := by
          unfold eventTimestamp fromUnixTimestampNanos
          rw [if_pos (by omega)]
          rfl
        have hprocess : processTelemetry config event p =
            .ok (processRecord config event.nanos event.record p) := by
          unfold processTelemetry
          rw [htime]
        exact ⟨_, congrArg Except.toOption hprocess⟩
    obtain ⟨q, hq⟩ := hstep
    have hrest : ∀ event ∈ telemetryOf inputs,
        0 ≤ event.timestampMillis ∧ event.nanos < UInt64.size := by
      intro event hevent
      apply htimes
      cases input with
      | telemetry e => exact List.mem_cons_of_mem _ hevent
      | functionSpans spans => exact hevent
    obtain ⟨p', hp'⟩ := @ih q hrest
    exact ⟨p', run_cons.2 ⟨q, hq, hp'⟩⟩

/-- The platform's spans of an invocation are a tree, whichever of its events have come, as long as
the times fit in the nanoseconds of a span. -/
theorem platform_spans_tree {inputs : List InvocationInput} (hfresh : IsFresh config p.state)
    (hmode : config.tracingMode = .telemetryApi)
    (hproduce : p.state.tracingState.shouldProduceSpans = true) (horder : InPlatformOrder inputs)
    (htimes : EventsInTime (telemetryOf inputs))
    (hrange : ∀ event ∈ telemetryOf inputs, event.nanos < UInt64.size) :
    ∃ (p' : Processing InvocationProcessingState) (init invocation context : Option Span),
      run (inputStep config) p inputs = some p' ∧
      p'.outputBuffers.spansBuffer = p.outputBuffers.spansBuffer ++
        (init.toList ++ invocation.toList ++ context.toList) ∧
      p'.state.rootSpanId = p.state.rootSpanId ∧
      SpanTree (platformKinds (telemetryOf inputs)) p'.state init invocation context := by
  obtain ⟨p', hrun⟩ := @exists_run_of_times _ config p inputs
    fun event hevent => ⟨htimes.epoch event hevent, hrange event hevent⟩
  have hmade := run_spansMade hfresh hmode hproduce horder hrun
  refine ⟨p', emittedInitSpan p'.state, platformInvocationSpan p'.state,
    platformContextSpan p'.state, hrun, ?_, hmade.rootSpanId, ?_⟩
  · rw [hmade.spansBuffer, madeSpans_eq]
  · exact spanTree_of_hasData hmade.hasData htimes horder.kinds hrange

end

/-! ## Samples -/

/-- An invocation's events. -/
def treeInputs (timestampMillis : Int) : List InvocationInput :=
  [.telemetry (sampleStart timestampMillis "r"), .telemetry (sampleRuntimeDone timestampMillis "r"),
    .telemetry (sampleReport (timestampMillis + 1) "r")]

theorem inPlatformOrder_treeInputs (timestampMillis : Int) :
    InPlatformOrder (treeInputs timestampMillis) := by
  constructor
  · exact (by decide : [3, 4, 5].Pairwise (· < ·))
  · simp [treeInputs, InvocationInput.spans?]

theorem eventsInTime_treeInputs {timestampMillis : Int} (h : 0 ≤ timestampMillis) :
    EventsInTime (telemetryOf (treeInputs timestampMillis)) := by
  constructor
  · simp [treeInputs, telemetryOf, InvocationInput.event?, sampleStart, sampleRuntimeDone,
      sampleReport]
  · simp [treeInputs, telemetryOf, InvocationInput.event?, sampleStart, sampleRuntimeDone,
      sampleReport]
    omega
  · simp [treeInputs, telemetryOf, InvocationInput.event?, sampleStart, sampleRuntimeDone,
      sampleReport, LambdaTelemetry.initReportData?]

/-- A server span of the function. -/
def serverBatch (spanId : Bytes) : List ResourceSpans :=
  [{ resource := none
     scopeSpans :=
      [{ scope := none
         spans :=
          [{ traceId := [7], spanId, parentSpanId := [], name := "f", kind := spanKindServer
             startTimeUnixNano := 0, endTimeUnixNano := 0, status := none }] }] }]

/-- All events of a cold start, and a span of the function. -/
def coldStartInputs : List InvocationInput :=
  [.telemetry (sampleInitStart 1),
    .telemetry ⟨2, .platformInitRuntimeDone .onDemand none .success none []⟩,
    .telemetry ⟨3, .platformInitReport .onDemand .init ⟨1.5⟩ []⟩, .telemetry (sampleStart 4 "r"),
    .functionSpans (serverBatch [8]), .telemetry (sampleRuntimeDone 5 "r"),
    .telemetry (sampleReport 6 "r")]

theorem inPlatformOrder_coldStartInputs : InPlatformOrder coldStartInputs := by
  constructor
  · exact (by decide : [0, 1, 2, 3, 4, 5].Pairwise (· < ·))
  · simp [coldStartInputs, InvocationInput.spans?, InvocationInput.isRuntimeDone,
      LambdaTelemetry.isRuntimeDone, sampleInitStart, sampleStart]

theorem eventsInTime_coldStartInputs : EventsInTime (telemetryOf coldStartInputs) := by
  constructor
  · decide
  · decide
  · intro event hevent report hreport
    have hall : ((telemetryOf coldStartInputs).all fun event =>
        event.initReportData?.all fun report =>
          decide (0 ≤ report.durationNanos ∧ report.durationNanos ≤ event.nanos)) = true := by
      decide +kernel
    have hevent := List.all_eq_true.1 hall event hevent
    rw [hreport] at hevent
    exact of_decide_eq_true hevent

/-- The spans of a cold start. -/
theorem platform_spans_tree_sample :
    ∃ (p' : Processing InvocationProcessingState) (init invocation context : Option Span),
      run (@inputStep sampleExternal (sampleProcessorConfig .telemetryApi))
        (freshProcessing .telemetryApi) coldStartInputs = some p' ∧
      p'.outputBuffers.spansBuffer.length = 3 ∧
      p'.outputBuffers.spansBuffer = [] ++ (init.toList ++ invocation.toList ++ context.toList) ∧
      p'.state.rootSpanId = (freshProcessing .telemetryApi).state.rootSpanId ∧
      SpanTree (platformKinds (telemetryOf coldStartInputs)) p'.state init invocation context := by
  have hcount : ((run (@inputStep sampleExternal (sampleProcessorConfig .telemetryApi))
      (freshProcessing .telemetryApi) coldStartInputs).any fun p' =>
        p'.outputBuffers.spansBuffer.length == 3) = true := by
    decide +kernel
  obtain ⟨p', init, invocation, context, hrun, htree⟩ := @platform_spans_tree sampleExternal
    (sampleProcessorConfig .telemetryApi) (freshProcessing .telemetryApi) coldStartInputs
    (isFresh_freshProcessing _) rfl rfl inPlatformOrder_coldStartInputs eventsInTime_coldStartInputs
    (by decide)
  rw [hrun, Option.any_some, beq_iff_eq] at hcount
  exact ⟨p', init, invocation, context, hrun, hcount, htree⟩

/-- A server span of the function, with the id that the context span gets. -/
def rootIdBatch : List ResourceSpans :=
  serverBatch (freshProcessing .telemetryApi).state.rootSpanId

/-- The platform's spans of a run in which the drawn ids are distinct. -/
def platformSpansOf (p : Processing InvocationProcessingState) : Option (Span × Span) :=
  match p.outputBuffers.spansBuffer, p.state.initSpanId with
  | [invocation, context], none =>
    if p.state.rootSpanId ≠ p.state.invocationContext.invocationSpanId then
      some (invocation, context)
    else none
  | _, _ => none

theorem platformSpansOf_eq_some {p : Processing InvocationProcessingState}
    {invocation context : Span} (h : platformSpansOf p = some (invocation, context)) :
    p.outputBuffers.spansBuffer = [invocation, context] ∧ DistinctIds p.state := by
  unfold platformSpansOf at h
  split at h
  next hspans hinit =>
    split at h
    next hne =>
      cases h
      refine ⟨hspans, hne, ?_⟩
      intro initSpanId heq
      rw [hinit] at heq
      cases heq
    next => cases h
  next => cases h

/-- From 2554 on the nanoseconds of a span wrap, and the context span ends before the invocation.
And a captured span can have the id of the context span, which the invocation span then has, too. -/
theorem platform_spans_no_tree :
    (InPlatformOrder (treeInputs 18446744073709) ∧
      EventsInTime (telemetryOf (treeInputs 18446744073709)) ∧
      ∃ p' invocation context, run (@inputStep sampleExternal (sampleProcessorConfig .telemetryApi))
          (freshProcessing .telemetryApi) (treeInputs 18446744073709) = some p' ∧
        p'.outputBuffers.spansBuffer = [invocation, context] ∧ DistinctIds p'.state ∧
        context.endTimeUnixNano < invocation.endTimeUnixNano) ∧
    InPlatformOrder (.functionSpans rootIdBatch :: treeInputs 1) ∧
      EventsInTime (telemetryOf (.functionSpans rootIdBatch :: treeInputs 1)) ∧
      ∃ p' invocation context, run (@inputStep sampleExternal (sampleProcessorConfig .telemetryApi))
          (freshProcessing .telemetryApi) (.functionSpans rootIdBatch :: treeInputs 1) = some p' ∧
        p'.outputBuffers.spansBuffer = [invocation, context] ∧ DistinctIds p'.state ∧
        invocation.spanId = context.spanId := by
  have spans (inputs : List InvocationInput) (good : Span × Span → Bool)
      (h : ((run (@inputStep sampleExternal (sampleProcessorConfig .telemetryApi))
        (freshProcessing .telemetryApi) inputs).any fun p' =>
          (platformSpansOf p').any good) = true) :
      ∃ p' invocation context, run (@inputStep sampleExternal (sampleProcessorConfig .telemetryApi))
          (freshProcessing .telemetryApi) inputs = some p' ∧
        p'.outputBuffers.spansBuffer = [invocation, context] ∧ DistinctIds p'.state ∧
        good (invocation, context) = true := by
    obtain ⟨p', hrun, hany⟩ := (Option.any_eq_true _ _).1 h
    obtain ⟨⟨invocation, context⟩, hspans, hgood⟩ := (Option.any_eq_true _ _).1 hany
    obtain ⟨hbuffer, hids⟩ := platformSpansOf_eq_some hspans
    exact ⟨p', invocation, context, hrun, hbuffer, hids, hgood⟩
  refine ⟨⟨inPlatformOrder_treeInputs _, eventsInTime_treeInputs (by decide), ?_⟩, ?_,
    eventsInTime_treeInputs (by decide), ?_⟩
  · obtain ⟨p', invocation, context, hrun, hbuffer, hids, hlt⟩ := spans (treeInputs 18446744073709)
      (fun s => s.2.endTimeUnixNano < s.1.endTimeUnixNano) (by decide +kernel)
    exact ⟨p', invocation, context, hrun, hbuffer, hids, of_decide_eq_true hlt⟩
  · obtain ⟨hkinds, hspans⟩ := inPlatformOrder_treeInputs 1
    refine ⟨hkinds, List.pairwise_cons.2 ⟨?_, hspans⟩⟩
    intro input _ hdone
    cases hdone
  · obtain ⟨p', invocation, context, hrun, hbuffer, hids, heq⟩ := spans
      (.functionSpans rootIdBatch :: treeInputs 1) (fun s => s.1.spanId = s.2.spanId)
      (by decide +kernel)
    exact ⟨p', invocation, context, hrun, hbuffer, hids, of_decide_eq_true heq⟩

end TelemetryExporter
